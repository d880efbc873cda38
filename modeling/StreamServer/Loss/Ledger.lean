import StreamServer.State.Outstandings

/-! The bookkeeping of sent packets as a ledger. Acknowledgements and losses change it in a few
kinds of moves; what the counters say about the packets, how the packets of a family are
processed and how many bytes are in flight is kept by every move. -/
namespace StreamServer.Loss
open Protocol State

variable {packet : OutstandingPacket} {before after : List OutstandingPacket}

/-- What stays the same of a packet as long as it is outstanding, but for a clone being made. -/
structure Tag where
  key : PacketEvent
  event : Option PacketEvent
  isDSRPacket : Bool
  protectionType : ProtectionType
  deriving DecidableEq

def tag (packet : OutstandingPacket) : Tag :=
  ⟨⟨packet.space,packet.number⟩,packet.associatedEvent,packet.isDSRPacket,
    packet.packet.header.getProtectionType⟩

/-- The family of a packet is named by the packet that was sent first. -/
def family (packet : OutstandingPacket) : PacketEvent :=
  packet.associatedEvent.getD ⟨packet.space,packet.number⟩

/-- The books while an acknowledgement or a loss is handled: packets that are acknowledged have
not been taken out of all counters yet. -/
structure Ledger where
  outstandings : OutstandingsInfo
  history : List PacketRecord
  dsrPacketsAcked : Nat := 0
  /-- The bytes that left the flight and were not reported yet. -/
  bytesOut : Nat := 0

def noteLost (outstandings : OutstandingsInfo) (packet : OutstandingPacket) : OutstandingsInfo :=
  let waited := if packet.isDSRPacket then outstandings.lowerDsrCount 1 else outstandings
  let released := waited.release packet
  {released with declaredLostCount := released.declaredLostCount + 1}

inductive Move (ledger : Ledger) : Ledger → Prop where
  | acked {before after : List OutstandingPacket} {packet : OutstandingPacket}
      (found : ledger.outstandings.packets = before ++ packet :: after)
      (waiting : packet.declaredLost = false) :
      Move ledger
        {outstandings := {ledger.outstandings.release packet with packets := before ++ after}
         history := ⟨packet,.acked (ledger.outstandings.needsProcess packet)⟩ :: ledger.history
         dsrPacketsAcked := ledger.dsrPacketsAcked + (if packet.isDSRPacket then 1 else 0)
         bytesOut := ledger.bytesOut + packet.metadata.encodedSize}
  | ackedAfterLoss {before after : List OutstandingPacket} {packet : OutstandingPacket}
      (found : ledger.outstandings.packets = before ++ packet :: after)
      (lost : packet.declaredLost = true) :
      Move ledger {ledger with
        outstandings := {ledger.outstandings.lowerDeclaredLostCount with packets := before ++ after}
        history := ⟨packet,.ackedAfterLoss⟩ :: ledger.history}
  | cleared {before after : List OutstandingPacket} {packet : OutstandingPacket}
      (found : ledger.outstandings.packets = before ++ packet :: after)
      (lost : packet.declaredLost = true) :
      Move ledger {ledger with
        outstandings := {ledger.outstandings.lowerDeclaredLostCount with packets := before ++ after}}
  | lost {before after : List OutstandingPacket} {packet marked : OutstandingPacket}
      (found : ledger.outstandings.packets = before ++ packet :: after)
      (waiting : packet.declaredLost = false) (marks : marked.declaredLost = true)
      (same : tag marked = tag packet) :
      Move ledger {ledger with
        outstandings := {noteLost ledger.outstandings packet with packets := before ++ marked :: after}
        history := ⟨packet,.lost !(ledger.outstandings.needsProcess packet)⟩ :: ledger.history
        bytesOut := ledger.bytesOut + packet.metadata.encodedSize}
  | dropped {before after : List OutstandingPacket} {packet : OutstandingPacket}
      (found : ledger.outstandings.packets = before ++ packet :: after)
      (waiting : packet.declaredLost = false)
      (early : packet.packet.header.getProtectionType = .zeroRtt) :
      Move ledger {ledger with
        outstandings := {ledger.outstandings.release packet with packets := before ++ after}
        history := ⟨packet,.lost !(ledger.outstandings.needsProcess packet)⟩ :: ledger.history
        bytesOut := ledger.bytesOut + packet.metadata.encodedSize}
  | settled :
      Move ledger {ledger with
        outstandings := ledger.outstandings.lowerDsrCount ledger.dsrPacketsAcked
        dsrPacketsAcked := 0}

abbrev Moves : Ledger → Ledger → Prop := Relation.ReflTransGen Move

/-- What holds of the identities of the outstanding packets and of the events of their families. -/
structure Ordered (next : PacketNumberSpace → PacketNum) (tags : List Tag)
    (events : Finset PacketEvent) : Prop where
  sorted : tags.Pairwise fun first second => first.key.packetNumber ≤ second.key.packetNumber
  distinct : tags.Pairwise fun first second => first.key ≠ second.key
  fresh : ∀ tag ∈ tags, tag.key.packetNumber < next tag.key.packetNumberSpace
  eventSpace : ∀ tag ∈ tags, ∀ event, tag.event = some event →
    event.packetNumberSpace = tag.key.packetNumberSpace
  eventFresh : ∀ tag ∈ tags, ∀ event, tag.event = some event →
    event.packetNumber < next event.packetNumberSpace
  eventsFresh : ∀ event ∈ events, event.packetNumber < next event.packetNumberSpace
  original : ∀ tag ∈ tags, tag.event = none →
    tag.key ∉ events ∧ ∀ other ∈ tags, other.event ≠ some tag.key
  dsrKeys : ∀ tag ∈ tags, tag.isDSRPacket = true → tag.protectionType ≠ .zeroRtt

theorem Ordered.mono {next : PacketNumberSpace → PacketNum} {tags fewer : List Tag}
    {events left : Finset PacketEvent} (ordered : Ordered next tags events)
    (sub : fewer.Sublist tags) (less : left ⊆ events) : Ordered next fewer left where
  sorted := ordered.sorted.sublist sub
  distinct := ordered.distinct.sublist sub
  fresh tag inside := ordered.fresh tag (sub.subset inside)
  eventSpace tag inside := ordered.eventSpace tag (sub.subset inside)
  eventFresh tag inside := ordered.eventFresh tag (sub.subset inside)
  eventsFresh event inside := ordered.eventsFresh event (less inside)
  original tag inside alone := by
    obtain ⟨outside,others⟩ := ordered.original tag (sub.subset inside) alone
    exact ⟨fun present => outside (less present),fun other there => others other (sub.subset there)⟩
  dsrKeys tag inside := ordered.dsrKeys tag (sub.subset inside)

/-- How many packets that are not declared lost meet a condition. -/
def waitingCount (condition : Tag → Bool) (packets : List OutstandingPacket) : Nat :=
  packets.countP fun packet => !packet.declaredLost && condition (tag packet)

def isPlain (space : PacketNumberSpace) (tag : Tag) : Bool :=
  tag.key.packetNumberSpace == space && tag.event.isNone

def isCloned (space : PacketNumberSpace) (tag : Tag) : Bool :=
  tag.key.packetNumberSpace == space && tag.event.isSome

def eventsOf (space : PacketNumberSpace) (events : Finset PacketEvent) : Finset PacketEvent :=
  events.filter fun event => event.packetNumberSpace = space

/-- The counters of the families tell how many packets there are of each kind, and no subtraction
from a counter went below zero. -/
structure FamilyCounts (outstandings : OutstandingsInfo) (packets : List OutstandingPacket) :
    Prop where
  cloned : ∀ space, outstandings.clonedPacketCount space = waitingCount (isCloned space) packets
  plain : ∀ space, outstandings.packetCount space = waitingCount (isPlain space) packets +
    (eventsOf space outstandings.packetEvents).card
  enough : ∀ pair ∈ outstandings.decrements, pair.2 ≤ pair.1

structure Counted (ledger : Ledger) : Prop where
  lost : ledger.outstandings.declaredLostCount =
    ledger.outstandings.packets.countP (·.declaredLost)
  dsr : ledger.outstandings.dsrCount =
    waitingCount (·.isDSRPacket) ledger.outstandings.packets + ledger.dsrPacketsAcked
  families : FamilyCounts ledger.outstandings ledger.outstandings.packets

theorem waitingCount_append (condition : Tag → Bool) (before after : List OutstandingPacket) :
    waitingCount condition (before ++ after) =
      waitingCount condition before + waitingCount condition after :=
  List.countP_append

theorem waitingCount_cons_lost (condition : Tag → Bool)
    (packets : List OutstandingPacket) (lost : packet.declaredLost = true) :
    waitingCount condition (packet :: packets) = waitingCount condition packets := by
  simp [waitingCount,lost]

theorem waitingCount_remove (condition : Tag → Bool)
    (before after : List OutstandingPacket) (waiting : packet.declaredLost = false) :
    waitingCount condition (before ++ packet :: after) =
      waitingCount condition (before ++ after) + (if condition (tag packet) then 1 else 0) := by
  simp only [waitingCount,List.countP_append,List.countP_cons,waiting,Bool.not_false,Bool.true_and]
  omega

theorem waitingCount_skip (condition : Tag → Bool)
    (before after : List OutstandingPacket) (lost : packet.declaredLost = true) :
    waitingCount condition (before ++ packet :: after) = waitingCount condition (before ++ after) := by
  rw [waitingCount_append,waitingCount_append,waitingCount_cons_lost condition after lost]

section Release

variable (outstandings : OutstandingsInfo) (packet : OutstandingPacket)

theorem release_cases :
    (packet.associatedEvent = none ∧
      outstandings.release packet = outstandings.lowerPacketCount packet.space) ∨
    (∃ event, packet.associatedEvent = some event ∧ event ∈ outstandings.packetEvents ∧
      outstandings.release packet =
        {(outstandings.lowerPacketCount packet.space).lowerClonedPacketCount packet.space with
          packetEvents := outstandings.packetEvents.erase event}) ∨
    (∃ event, packet.associatedEvent = some event ∧ event ∉ outstandings.packetEvents ∧
      outstandings.release packet = outstandings.lowerClonedPacketCount packet.space) := by
  unfold OutstandingsInfo.release OutstandingsInfo.needsProcess
  cases packet.associatedEvent with
  | none => exact .inl ⟨rfl,by simp⟩
  | some event =>
    by_cases inside : event ∈ outstandings.packetEvents
    · exact .inr (.inl ⟨event,rfl,inside,by simp [inside,OutstandingsInfo.lowerPacketCount]⟩)
    · exact .inr (.inr ⟨event,rfl,inside,by simp [inside,OutstandingsInfo.lowerClonedPacketCount]⟩)

@[simp] theorem release_declaredLostCount :
    (outstandings.release packet).declaredLostCount = outstandings.declaredLostCount := by
  obtain ⟨_,same⟩ | ⟨_,_,_,same⟩ | ⟨_,_,_,same⟩ := release_cases outstandings packet <;>
    rw [same] <;> rfl

@[simp] theorem release_dsrCount :
    (outstandings.release packet).dsrCount = outstandings.dsrCount := by
  obtain ⟨_,same⟩ | ⟨_,_,_,same⟩ | ⟨_,_,_,same⟩ := release_cases outstandings packet <;>
    rw [same] <;> rfl

theorem release_withPackets (packets left : List OutstandingPacket) :
    {({outstandings with packets := packets} : OutstandingsInfo).release packet with
      packets := left} = {outstandings.release packet with packets := left} := by
  unfold OutstandingsInfo.release
  dsimp only
  have same : ({outstandings with packets := packets} : OutstandingsInfo).needsProcess packet =
      outstandings.needsProcess packet := rfl
  rw [same]
  cases outstandings.needsProcess packet <;> cases packet.associatedEvent <;> rfl

theorem noteLost_withPackets (packets left : List OutstandingPacket) :
    {noteLost {outstandings with packets := packets} packet with packets := left} =
      {noteLost outstandings packet with packets := left} := by
  unfold noteLost OutstandingsInfo.release OutstandingsInfo.needsProcess
  dsimp only
  cases packet.isDSRPacket <;> cases packet.associatedEvent with
  | none => rfl
  | some event =>
    by_cases inside : event ∈ outstandings.packetEvents <;>
      simp [inside,OutstandingsInfo.lowerDsrCount,OutstandingsInfo.lowerPacketCount,
        OutstandingsInfo.lowerClonedPacketCount]

theorem release_packetEvents :
    (outstandings.release packet).packetEvents =
      packet.associatedEvent.elim outstandings.packetEvents outstandings.packetEvents.erase := by
  obtain ⟨alone,same⟩ | ⟨event,tagged,_,same⟩ | ⟨event,tagged,outside,same⟩ :=
    release_cases outstandings packet
  · rw [same,alone]
    rfl
  · rw [same,tagged]
    rfl
  · rw [same,tagged]
    exact (Finset.erase_eq_of_notMem outside).symm

theorem release_packetEvents_subset :
    (outstandings.release packet).packetEvents ⊆ outstandings.packetEvents := by
  rw [release_packetEvents]
  cases packet.associatedEvent with
  | none => exact Finset.Subset.refl _
  | some event => exact Finset.erase_subset _ _

end Release

section Lowered

variable {count counted : PacketNumberSpace → Nat} {space : PacketNumberSpace}

private theorem present_of_total
    (total : ∀ other, count other = counted other + (if space = other then 1 else 0)) :
    1 ≤ count space := by
  rw [total space,if_pos rfl]
  exact Nat.le_add_left ..

private theorem update_lowered
    (total : ∀ other, count other = counted other + (if space = other then 1 else 0))
    (other : PacketNumberSpace) :
    Function.update count space (lowered (count space) 1) other = counted other := by
  by_cases same : other = space
  · subst same
    rw [Function.update_self,lowered_of_le (present_of_total total),total other,if_pos rfl,
      Nat.add_sub_cancel]
  · rw [Function.update_of_ne same,total other,if_neg (Ne.symm same),Nat.add_zero]

end Lowered

theorem eventsOf_erase_card {events : Finset PacketEvent} {event : PacketEvent}
    (inside : event ∈ events) (space : PacketNumberSpace) :
    (eventsOf space events).card =
      (eventsOf space (events.erase event)).card +
        (if event.packetNumberSpace = space then 1 else 0) := by
  rw [eventsOf,eventsOf,Finset.filter_erase]
  split
  · next same =>
    have member : event ∈ events.filter fun other => other.packetNumberSpace = space :=
      Finset.mem_filter.mpr ⟨inside,same⟩
    rw [Finset.card_erase_of_mem member]
    have positive := Finset.card_pos.mpr ⟨event,member⟩
    omega
  · next other =>
    rw [Finset.erase_eq_of_notMem]
    · rfl
    · exact fun member => other (Finset.mem_filter.mp member).2

section Counters

variable {outstandings : OutstandingsInfo} {packet : OutstandingPacket}
  {before after : List OutstandingPacket}

private theorem plain_alone (alone : packet.associatedEvent = none) (space : PacketNumberSpace) :
    isPlain space (tag packet) = decide (packet.space = space) ∧
      isCloned space (tag packet) = false := by
  by_cases same : packet.space = space <;> simp [isPlain,isCloned,tag,alone,same]

private theorem cloned_tagged {event : PacketEvent} (tagged : packet.associatedEvent = some event)
    (space : PacketNumberSpace) :
    isPlain space (tag packet) = false ∧
      isCloned space (tag packet) = decide (packet.space = space) := by
  by_cases same : packet.space = space <;> simp [isPlain,isCloned,tag,tagged,same]

theorem FamilyCounts.release (counts : FamilyCounts outstandings (before ++ packet :: after))
    (waiting : packet.declaredLost = false)
    (eventSpace : ∀ event, packet.associatedEvent = some event →
      event.packetNumberSpace = packet.space) :
    FamilyCounts (outstandings.release packet) (before ++ after) := by
  have cloned (space : PacketNumberSpace) : outstandings.clonedPacketCount space =
      waitingCount (isCloned space) (before ++ after) +
        (if isCloned space (tag packet) then 1 else 0) := by
    rw [counts.cloned space,waitingCount_remove _ before after waiting]
  have plain (space : PacketNumberSpace) : outstandings.packetCount space =
      waitingCount (isPlain space) (before ++ after) +
        (if isPlain space (tag packet) then 1 else 0) +
          (eventsOf space outstandings.packetEvents).card := by
    rw [counts.plain space,waitingCount_remove _ before after waiting]
  have clonedHere {event : PacketEvent} (tagged : packet.associatedEvent = some event)
      (space : PacketNumberSpace) : outstandings.clonedPacketCount space =
        waitingCount (isCloned space) (before ++ after) +
          (if packet.space = space then 1 else 0) := by
    rw [cloned space]
    simp only [cloned_tagged tagged space,decide_eq_true_eq]
  obtain ⟨alone,same⟩ | ⟨event,tagged,inside,same⟩ | ⟨event,tagged,outside,same⟩ :=
    release_cases outstandings packet
  · have plainHere (space : PacketNumberSpace) : outstandings.packetCount space =
        waitingCount (isPlain space) (before ++ after) +
          (eventsOf space outstandings.packetEvents).card +
            (if packet.space = space then 1 else 0) := by
      rw [plain space]
      simp only [plain_alone alone space,decide_eq_true_eq]
      omega
    rw [same]
    refine ⟨fun space => ?_,fun space => ?_,?_⟩
    · have here : outstandings.clonedPacketCount space =
          waitingCount (isCloned space) (before ++ after) := by
        simpa [(plain_alone alone space).2] using cloned space
      exact here
    · exact update_lowered plainHere space
    · exact List.forall_mem_cons.mpr ⟨present_of_total plainHere,counts.enough⟩
  · have plainHere (space : PacketNumberSpace) : outstandings.packetCount space =
        waitingCount (isPlain space) (before ++ after) +
          (eventsOf space (outstandings.packetEvents.erase event)).card +
            (if packet.space = space then 1 else 0) := by
      rw [plain space,eventsOf_erase_card inside space,eventSpace event tagged]
      simp only [cloned_tagged tagged space]
      simp only [Bool.false_eq_true,if_false]
      omega
    rw [same]
    exact ⟨update_lowered (clonedHere tagged),update_lowered plainHere,
      List.forall_mem_cons.mpr ⟨present_of_total (clonedHere tagged),
        List.forall_mem_cons.mpr ⟨present_of_total plainHere,counts.enough⟩⟩⟩
  · rw [same]
    refine ⟨update_lowered (clonedHere tagged),fun space => ?_,
      List.forall_mem_cons.mpr ⟨present_of_total (clonedHere tagged),counts.enough⟩⟩
    have here : outstandings.packetCount space =
        waitingCount (isPlain space) (before ++ after) +
          (eventsOf space outstandings.packetEvents).card := by
      simpa [(cloned_tagged tagged space).1] using plain space
    exact here

theorem countP_lost_remove (before after : List OutstandingPacket) :
    (before ++ packet :: after).countP (·.declaredLost) =
      (before ++ after).countP (·.declaredLost) + (if packet.declaredLost then 1 else 0) := by
  simp only [List.countP_append,List.countP_cons]
  omega

end Counters

/-- The size of the packets that are not declared lost. -/
def flightBytes (packets : List OutstandingPacket) : Nat :=
  (packets.map fun packet => if packet.declaredLost then 0 else packet.metadata.encodedSize).sum

theorem flightBytes_remove (packet : OutstandingPacket) (before after : List OutstandingPacket) :
    flightBytes (before ++ packet :: after) = flightBytes (before ++ after) +
      (if packet.declaredLost then 0 else packet.metadata.encodedSize) := by
  simp only [flightBytes,List.map_append,List.map_cons,List.sum_append,List.sum_cons]
  omega

/-- The bytes in flight and those that were not reported yet. -/
def Ledger.flight (ledger : Ledger) : Nat :=
  flightBytes ledger.outstandings.packets + ledger.bytesOut

variable {next : PacketNumberSpace → PacketNum} {ledger moved : Ledger}

def Ledger.Ordered (next : PacketNumberSpace → PacketNum) (ledger : Ledger) : Prop :=
  Loss.Ordered next (ledger.outstandings.packets.map tag) ledger.outstandings.packetEvents

theorem Move.ordered (move : Move ledger moved) (ordered : ledger.Ordered next) :
    moved.Ordered next := by
  have removed {before after : List OutstandingPacket} {packet : OutstandingPacket}
      (found : ledger.outstandings.packets = before ++ packet :: after) :
      ((before ++ after).map tag).Sublist (ledger.outstandings.packets.map tag) := by
    rw [found]
    exact ((List.sublist_cons_self packet after).append_left before).map tag
  cases move with
  | acked found waiting | dropped found waiting early =>
    exact ordered.mono (removed found) (release_packetEvents_subset _ _)
  | ackedAfterLoss found lost | cleared found lost =>
    exact ordered.mono (removed found) (Finset.Subset.refl _)
  | @lost before after packet marked found waiting marks same =>
    apply ordered.mono
    · rw [found]
      simp only [List.map_append,List.map_cons,same]
      exact List.Sublist.refl _
    · unfold noteLost
      split
      · exact release_packetEvents_subset (ledger.outstandings.lowerDsrCount 1) packet
      · exact release_packetEvents_subset _ _
  | settled => exact ordered

private theorem FamilyCounts.lowerDsrCount {outstandings : OutstandingsInfo}
    {packets : List OutstandingPacket} {amount : Nat}
    (counts : FamilyCounts outstandings packets) (present : amount ≤ outstandings.dsrCount) :
    FamilyCounts (outstandings.lowerDsrCount amount) packets :=
  ⟨counts.cloned,counts.plain,List.forall_mem_cons.mpr ⟨present,counts.enough⟩⟩

section Found

variable (found : ledger.outstandings.packets = before ++ packet :: after)
include found

theorem Ordered.space_of_found (ordered : ledger.Ordered next) (event : PacketEvent)
    (tagged : packet.associatedEvent = some event) : event.packetNumberSpace = packet.space := by
  apply ordered.eventSpace (tag packet) _ event tagged
  rw [found]
  simp

private theorem dsrKey_of_found (ordered : ledger.Ordered next)
    (early : packet.packet.header.getProtectionType = .zeroRtt) : packet.isDSRPacket = false := by
  cases dsr : packet.isDSRPacket with
  | false => rfl
  | true =>
    have inside : tag packet ∈ ledger.outstandings.packets.map tag := by
      rw [found]
      simp
    exact absurd early (ordered.dsrKeys (tag packet) inside dsr)

private theorem counted_unlose (counted : Counted ledger) (lost : packet.declaredLost = true) :
    Counted {ledger with outstandings :=
      {ledger.outstandings.lowerDeclaredLostCount with packets := before ++ after}} := by
  have total := counted.lost
  rw [found,countP_lost_remove,lost,if_pos rfl] at total
  have dsr := counted.dsr
  have families := counted.families
  rw [found,waitingCount_skip _ before after lost] at dsr
  rw [found] at families
  refine ⟨?_,dsr,fun space => ?_,fun space => ?_,?_⟩
  · change lowered ledger.outstandings.declaredLostCount 1 = _
    rw [lowered_of_le (by omega),total,Nat.add_sub_cancel]
  · exact (families.cloned space).trans (waitingCount_skip _ before after lost)
  · have here := families.plain space
    rw [waitingCount_skip _ before after lost] at here
    exact here
  · exact List.forall_mem_cons.mpr ⟨by dsimp only; omega,families.enough⟩

private theorem counted_release (counted : Counted ledger) (ordered : ledger.Ordered next)
    (waiting : packet.declaredLost = false) (history : List PacketRecord) (bytesOut acked : Nat)
    (kept : acked = ledger.dsrPacketsAcked + (if packet.isDSRPacket then 1 else 0)) :
    Counted
      {outstandings := {ledger.outstandings.release packet with packets := before ++ after}
       history := history
       dsrPacketsAcked := acked
       bytesOut := bytesOut} := by
  have lost := counted.lost
  rw [found,countP_lost_remove,waiting] at lost
  have dsr := counted.dsr
  have families := counted.families
  rw [found,waitingCount_remove _ before after waiting] at dsr
  rw [found] at families
  have released := families.release waiting (Ordered.space_of_found found ordered)
  refine ⟨?_,?_,released.cloned,released.plain,released.enough⟩
  · change (ledger.outstandings.release packet).declaredLostCount = _
    rw [release_declaredLostCount,lost]
    simp
  · change (ledger.outstandings.release packet).dsrCount =
      waitingCount (·.isDSRPacket) (before ++ after) + acked
    have isDSR : (tag packet).isDSRPacket = packet.isDSRPacket := rfl
    rw [release_dsrCount,dsr,kept,isDSR]
    omega

private theorem counted_lost (counted : Counted ledger) (ordered : ledger.Ordered next)
    {marked : OutstandingPacket} (waiting : packet.declaredLost = false)
    (marks : marked.declaredLost = true) :
    Counted {ledger with outstandings :=
      {noteLost ledger.outstandings packet with packets := before ++ marked :: after}} := by
  have lost := counted.lost
  rw [found,countP_lost_remove,waiting] at lost
  have dsr := counted.dsr
  have families := counted.families
  rw [found,waitingCount_remove _ before after waiting] at dsr
  rw [found] at families
  have eventSpace := Ordered.space_of_found found ordered
  have released : FamilyCounts (noteLost ledger.outstandings packet) (before ++ after) := by
    unfold noteLost
    split
    · next isDSR =>
      have present : 1 ≤ ledger.outstandings.dsrCount := by
        simp only [tag,isDSR,if_true] at dsr
        omega
      have lowered := (families.lowerDsrCount present).release waiting eventSpace
      exact {lowered with}
    · have kept := families.release waiting eventSpace
      exact {kept with}
  refine ⟨?_,?_,fun space => ?_,fun space => ?_,released.enough⟩
  · change (noteLost ledger.outstandings packet).declaredLostCount = _
    rw [countP_lost_remove,marks,if_pos rfl]
    unfold noteLost
    split <;> simpa [OutstandingsInfo.lowerDsrCount] using lost
  · change (noteLost ledger.outstandings packet).dsrCount = _
    rw [waitingCount_skip _ before after marks]
    unfold noteLost
    split
    · next isDSR =>
      simp only [tag,isDSR,if_true] at dsr
      change (OutstandingsInfo.release _ packet).dsrCount = _
      rw [release_dsrCount]
      change lowered ledger.outstandings.dsrCount 1 = _
      rw [lowered_of_le (by omega)]
      change ledger.outstandings.dsrCount - 1 = _ + ledger.dsrPacketsAcked
      omega
    · next notDSR =>
      simp only [tag,notDSR] at dsr
      change (OutstandingsInfo.release _ packet).dsrCount = _
      rw [release_dsrCount,dsr]
      rfl
  · exact (released.cloned space).trans (waitingCount_skip _ before after marks).symm
  · have here := released.plain space
    rw [← waitingCount_skip _ before after marks] at here
    exact here

end Found

theorem Move.counted (move : Move ledger moved) (ordered : ledger.Ordered next)
    (counted : Counted ledger) : Counted moved := by
  cases move with
  | acked found waiting =>
    exact counted_release found counted ordered waiting _ _ _ rfl
  | ackedAfterLoss found lost =>
    have kept := counted_unlose found counted lost
    exact {kept with}
  | cleared found lost => exact counted_unlose found counted lost
  | lost found waiting marks same =>
    have kept := counted_lost found counted ordered waiting marks
    exact {kept with}
  | dropped found waiting early =>
    apply counted_release found counted ordered waiting
    rw [dsrKey_of_found found ordered early]
    rfl
  | settled =>
    have present : ledger.dsrPacketsAcked ≤ ledger.outstandings.dsrCount := by
      rw [counted.dsr]
      exact Nat.le_add_left _ _
    refine ⟨counted.lost,?_,counted.families.lowerDsrCount present⟩
    change lowered ledger.outstandings.dsrCount ledger.dsrPacketsAcked = _
    rw [lowered_of_le present,counted.dsr,Nat.add_sub_cancel]
    rfl

theorem Move.flight (move : Move ledger moved) : moved.flight = ledger.flight := by
  have left {before after : List OutstandingPacket} {packet : OutstandingPacket}
      (found : ledger.outstandings.packets = before ++ packet :: after) :
      ledger.flight = flightBytes (before ++ after) +
        (if packet.declaredLost then 0 else packet.metadata.encodedSize) + ledger.bytesOut := by
    rw [Ledger.flight,found,flightBytes_remove]
  cases move with
  | acked found waiting | dropped found waiting early =>
    rw [left found,waiting,Ledger.flight]
    simp only [Bool.false_eq_true,if_false]
    omega
  | ackedAfterLoss found lost | cleared found lost =>
    rw [left found,lost,Ledger.flight,if_pos rfl]
    rfl
  | lost found waiting marks same =>
    rw [left found,waiting,Ledger.flight,flightBytes_remove,marks]
    simp only [Bool.false_eq_true,if_false,if_true]
    omega
  | settled => rfl

end StreamServer.Loss
