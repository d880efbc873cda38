import StreamServer.Loss.KeptBooks

/-! Sending and cloning keep the books too. A packet that is sent takes the next number of its
space; a clone is made of a packet whose family is not processed yet and belongs to that family. -/
namespace StreamServer.Loss
open Protocol State Congestion Api Lib.Outcome Lib.SortedList

section Insert

variable {next later : PacketNumberSpace → PacketNum} {events : Finset PacketEvent}
  {ledger : Ledger}

theorem insertOutstanding_place (packet : OutstandingPacket) (packets : List OutstandingPacket)
    (sorted : packets.Pairwise fun first second => first.number ≤ second.number) :
    ∃ before after, packets = before ++ after ∧
      insertOutstanding packet packets = before ++ packet :: after ∧
      (∀ other ∈ before, other.number ≤ packet.number) ∧
      ∀ other ∈ after, packet.number ≤ other.number := by
  refine ⟨_,_,?_,rfl,?_,?_⟩
  · rw [List.rdropWhile,List.rtakeWhile,← List.reverse_append,List.takeWhile_append_dropWhile,
      List.reverse_reverse]
  · intro other inside
    rw [List.rdropWhile,List.mem_reverse] at inside
    have falling : packets.reverse.Pairwise fun first second => second.number ≤ first.number :=
      List.pairwise_reverse.mpr sorted
    have fails := dropWhile_fails falling (p := fun earlier => packet.number ≤ earlier.number)
      (fun first second below above => by
        simp only [decide_eq_true_eq] at above ⊢
        exact Nat.le_trans above below) other inside
    simp only [decide_eq_false_iff_not,Nat.not_le] at fails
    exact Nat.le_of_lt fails
  · intro other inside
    rw [List.rtakeWhile,List.mem_reverse] at inside
    have holds := List.mem_takeWhile_imp inside
    exact of_decide_eq_true holds

private theorem update_count (count : PacketNumberSpace → Nat) (space other : PacketNumberSpace) :
    Function.update count space (count space + 1) other =
      count other + (if space = other then 1 else 0) := by
  by_cases same : other = space
  · subst same
    rw [Function.update_self,if_pos rfl]
  · rw [Function.update_of_ne same,if_neg (Ne.symm same),Nat.add_zero]

private theorem emplace_counted {packet : OutstandingPacket} {before after : List OutstandingPacket}
    (history : List PacketRecord) (counted : Counted ledger) (idle : ledger.dsrPacketsAcked = 0)
    (found : ledger.outstandings.packets = before ++ after)
    (placed : insertOutstanding packet ledger.outstandings.packets = before ++ packet :: after)
    (waiting : packet.declaredLost = false) :
    Counted {outstandings := emplaceOutstanding ledger.outstandings packet, history := history} := by
  have lost := counted.lost
  have dsr := counted.dsr
  have families := counted.families
  rw [found] at lost dsr families
  have isDSR : (tag packet).isDSRPacket = packet.isDSRPacket := rfl
  have space : (tag packet).key.packetNumberSpace = packet.space := rfl
  have event : (tag packet).event = packet.associatedEvent := rfl
  refine ⟨?_,?_,?_,?_,families.enough⟩
  · change ledger.outstandings.declaredLostCount = (insertOutstanding _ _).countP _
    rw [placed,countP_lost_remove,waiting,lost]
    simp
  · change ledger.outstandings.dsrCount + _ = waitingCount _ (insertOutstanding _ _) + 0
    rw [placed,waitingCount_remove _ before after waiting,dsr,idle,isDSR]
    omega
  · intro other
    change (emplaceOutstanding ledger.outstandings packet).clonedPacketCount other =
      waitingCount _ (insertOutstanding _ _)
    rw [placed,waitingCount_remove _ before after waiting,← families.cloned other]
    simp only [emplaceOutstanding,isCloned,space,event]
    cases packet.associatedEvent with
    | none => simp
    | some event => simpa using update_count _ packet.space other
  · intro other
    change (emplaceOutstanding ledger.outstandings packet).packetCount other =
      waitingCount _ (insertOutstanding _ _) + _
    rw [placed,waitingCount_remove _ before after waiting]
    have plain := families.plain other
    simp only [emplaceOutstanding,isPlain,space,event]
    cases packet.associatedEvent with
    | none =>
      have one := update_count ledger.outstandings.packetCount packet.space other
      simp only [Option.isSome_none,Bool.false_eq_true,if_false,Option.isNone_none,Bool.and_true,
        beq_iff_eq] at one ⊢
      omega
    | some event => simpa using plain

variable (grows : ∀ space, next space ≤ later space)
include grows

theorem Ordered.insert {before after : List Tag} {tag : Tag}
    (ordered : Ordered next (before ++ after) events)
    (lower : ∀ other ∈ before, other.key.packetNumber ≤ tag.key.packetNumber)
    (upper : ∀ other ∈ after, tag.key.packetNumber ≤ other.key.packetNumber)
    (newest : tag.key.packetNumber = next tag.key.packetNumberSpace)
    (passed : tag.key.packetNumber < later tag.key.packetNumberSpace)
    (clone : ∀ event, tag.event = some event →
      event ∈ events ∧ event.packetNumberSpace = tag.key.packetNumberSpace)
    (dsrKey : tag.isDSRPacket = true → tag.protectionType ≠ .zeroRtt) :
    Ordered later (before ++ tag :: after) events := by
  have split {other : Tag} (inside : other ∈ before ++ tag :: after) :
      other = tag ∨ other ∈ before ++ after := by
    simp only [List.mem_append,List.mem_cons] at inside ⊢
    tauto
  have different {other : Tag} (inside : other ∈ before ++ after) : other.key ≠ tag.key := by
    intro same
    have fresh := ordered.fresh other inside
    rw [same,newest] at fresh
    exact Nat.lt_irrefl _ fresh
  obtain ⟨sortedBefore,sortedAfter,sortedAcross⟩ := List.pairwise_append.mp ordered.sorted
  obtain ⟨distinctBefore,distinctAfter,distinctAcross⟩ := List.pairwise_append.mp ordered.distinct
  constructor
  · refine List.pairwise_append.mpr ⟨sortedBefore,List.pairwise_cons.mpr ⟨upper,sortedAfter⟩,?_⟩
    intro first inside
    exact List.forall_mem_cons.mpr ⟨lower first inside,sortedAcross first inside⟩
  · refine List.pairwise_append.mpr ⟨distinctBefore,List.pairwise_cons.mpr ⟨?_,distinctAfter⟩,?_⟩
    · intro other inside
      exact (different (List.mem_append_right _ inside)).symm
    · intro first inside
      exact List.forall_mem_cons.mpr
        ⟨different (List.mem_append_left _ inside),distinctAcross first inside⟩
  · intro other inside
    rcases split inside with rfl | there
    · exact passed
    · exact Nat.lt_of_lt_of_le (ordered.fresh other there) (grows _)
  · intro other inside event tagged
    rcases split inside with rfl | there
    · exact (clone event tagged).2
    · exact ordered.eventSpace other there event tagged
  · intro other inside event tagged
    rcases split inside with rfl | there
    · exact Nat.lt_of_lt_of_le (ordered.eventsFresh event (clone event tagged).1) (grows _)
    · exact Nat.lt_of_lt_of_le (ordered.eventFresh other there event tagged) (grows _)
  · intro event inside
    exact Nat.lt_of_lt_of_le (ordered.eventsFresh event inside) (grows _)
  · intro other inside alone
    rcases split inside with rfl | there
    · refine ⟨fun present => ?_,fun sibling sibling_inside tagged => ?_⟩
      · have fresh := ordered.eventsFresh _ present
        rw [newest] at fresh
        exact Nat.lt_irrefl _ fresh
      · rcases split sibling_inside with rfl | sibling_there
        · rw [alone] at tagged
          exact nomatch tagged
        · have fresh := ordered.eventFresh sibling sibling_there _ tagged
          rw [newest] at fresh
          exact Nat.lt_irrefl _ fresh
    · obtain ⟨outside,others⟩ := ordered.original other there alone
      refine ⟨outside,fun sibling sibling_inside tagged => ?_⟩
      rcases split sibling_inside with rfl | sibling_there
      · exact outside (clone _ tagged).1
      · exact others sibling sibling_there tagged
  · intro other inside dsr
    rcases split inside with rfl | there
    · exact dsrKey dsr
    · exact ordered.dsrKeys other there dsr

theorem Ordered.grow {tags : List Tag} (ordered : Ordered next tags events) :
    Ordered later tags events :=
  {ordered with
    fresh := fun tag inside => Nat.lt_of_lt_of_le (ordered.fresh tag inside) (grows _)
    eventFresh := fun tag inside event tagged =>
      Nat.lt_of_lt_of_le (ordered.eventFresh tag inside event tagged) (grows _)
    eventsFresh := fun event inside =>
      Nat.lt_of_lt_of_le (ordered.eventsFresh event inside) (grows _)}

theorem Families.grow (families : Families next ledger) : Families later ledger :=
  {families with
    old := fun record inside => Nat.lt_of_lt_of_le (families.old record inside) (grows _)}

theorem Sound.grow (sound : Sound next ledger) :
    Sound later ledger :=
  ⟨sound.ordered.grow grows,sound.counted,sound.families.grow grows⟩

structure Sendable (next : PacketNumberSpace → PacketNum) (events : Finset PacketEvent)
    (packet : OutstandingPacket) : Prop where
  waiting : packet.declaredLost = false
  newest : packet.number = next packet.space
  clone : ∀ event, packet.associatedEvent = some event →
    event ∈ events ∧ event.packetNumberSpace = packet.space
  dsrKey : packet.isDSRPacket = true → packet.packet.header.getProtectionType ≠ .zeroRtt

private theorem emplace_families {packet : OutstandingPacket}
    {before after : List OutstandingPacket} (families : Families next ledger)
    (sendable : Sendable next ledger.outstandings.packetEvents packet)
    (found : ledger.outstandings.packets = before ++ after)
    (placed : insertOutstanding packet ledger.outstandings.packets = before ++ packet :: after)
    (passed : packet.number < later packet.space) (ordered : ledger.Ordered next) :
    Families later
      {outstandings := emplaceOutstanding ledger.outstandings packet
       history := ⟨packet,.sent⟩ :: ledger.history} := by
  have unprocessed : modes (family packet) ledger.history = [] := by
    cases tagged : packet.associatedEvent with
    | none =>
      rw [modes,List.filterMap_eq_nil_iff]
      intro record inside
      apply if_neg
      intro same
      have old := families.old record inside
      rw [same,family,tagged,Option.getD_none,sendable.newest] at old
      exact Nat.lt_irrefl _ old
    | some event =>
      rw [family,tagged]
      exact families.pending event (sendable.clone event tagged).1
  have needs (other : OutstandingPacket) :
      (emplaceOutstanding ledger.outstandings packet).needsProcess other =
        ledger.outstandings.needsProcess other := rfl
  refine ⟨fun other inside alive => ?_,fun event inside => ?_,fun event inside => ?_,?_,?_⟩
  · rw [modes_cons_unvisited _ _ rfl,needs]
    change other ∈ insertOutstanding packet ledger.outstandings.packets at inside
    rw [placed] at inside
    have cases : other = packet ∨ other ∈ ledger.outstandings.packets := by
      rw [found]
      simp only [List.mem_append,List.mem_cons] at inside ⊢
      tauto
    rcases cases with rfl | there
    · refine ⟨fun _ => unprocessed,fun _ => ?_⟩
      rw [OutstandingsInfo.needsProcess]
      cases tagged : other.associatedEvent with
      | none => rfl
      | some event => simpa using (sendable.clone event tagged).1
    · exact families.waiting other there alive
  · rw [modes_cons_unvisited _ _ rfl]
    exact families.pending event inside
  · obtain ⟨other,there,attends⟩ := families.attended event inside
    refine ⟨other,?_,attends⟩
    change other ∈ insertOutstanding packet ledger.outstandings.packets
    rw [placed]
    exact ((List.sublist_cons_self packet after).append_left before).subset (found ▸ there)
  · intro record inside
    rcases List.mem_cons.mp inside with rfl | earlier
    · dsimp only
      cases tagged : packet.associatedEvent with
      | none =>
        rw [family,tagged]
        exact passed
      | some event =>
        rw [family,tagged]
        exact Nat.lt_of_lt_of_le (ordered.eventsFresh event (sendable.clone event tagged).1)
          (grows _)
    · exact Nat.lt_of_lt_of_le (families.old record earlier) (grows _)
  · exact ⟨families.once,fun _ visited => (by cases visited),fun _ _ => unprocessed⟩

theorem Sound.sent {packet : OutstandingPacket} (sound : Sound next ledger)
    (idle : ledger.dsrPacketsAcked = 0)
    (sendable : Sendable next ledger.outstandings.packetEvents packet)
    (passed : packet.number < later packet.space) :
    Sound later
      {outstandings := emplaceOutstanding ledger.outstandings packet
       history := ⟨packet,.sent⟩ :: ledger.history} := by
  have sorted : ledger.outstandings.packets.Pairwise fun first second =>
      first.number ≤ second.number := by
    have ordered := List.pairwise_map.mp sound.ordered.sorted
    exact ordered
  obtain ⟨before,after,found,placed,lower,upper⟩ :=
    insertOutstanding_place packet ledger.outstandings.packets sorted
  refine ⟨?_,emplace_counted _ sound.counted idle found placed sendable.waiting,
    emplace_families grows sound.families sendable found placed passed sound.ordered⟩
  have ordered := sound.ordered
  unfold Ledger.Ordered at ordered ⊢
  change Ordered later ((insertOutstanding packet ledger.outstandings.packets).map tag) _
  rw [placed,List.map_append,List.map_cons]
  rw [found,List.map_append] at ordered
  apply ordered.insert grows
  · intro other inside
    obtain ⟨origin,there,rfl⟩ := List.mem_map.mp inside
    exact lower origin there
  · intro other inside
    obtain ⟨origin,there,rfl⟩ := List.mem_map.mp inside
    exact upper origin there
  · exact sendable.newest
  · exact passed
  · exact sendable.clone
  · exact sendable.dsrKey

end Insert

section Clone

variable {next : PacketNumberSpace → PacketNum} {ledger : Ledger} {packet : OutstandingPacket}
  {before after : List OutstandingPacket}

/-- The first clone of a packet gives it the event of the family. -/
def tagged (packet : OutstandingPacket) : OutstandingPacket :=
  {packet with associatedEvent := some ⟨packet.space,packet.number⟩}

def cloneTagged (outstandings : OutstandingsInfo) (packet : OutstandingPacket)
    (before after : List OutstandingPacket) : OutstandingsInfo :=
  {outstandings with
    packets := before ++ tagged packet :: after
    packetEvents := insert ⟨packet.space,packet.number⟩ outstandings.packetEvents
    clonedPacketCount := Function.update outstandings.clonedPacketCount packet.space
      (outstandings.clonedPacketCount packet.space + 1)}

section

variable (ordered : ledger.Ordered next)
  (found : ledger.outstandings.packets = before ++ packet :: after)
  (alone : packet.associatedEvent = none)

include ordered found alone

private theorem clone_facts :
    (tag packet).key ∉ ledger.outstandings.packetEvents ∧
      (∀ other ∈ (before ++ after).map tag, other.event ≠ some (tag packet).key ∧
        other.key ≠ (tag packet).key) := by
  have inside : tag packet ∈ ledger.outstandings.packets.map tag := by
    rw [found]
    simp
  obtain ⟨outside,others⟩ := ordered.original (tag packet) inside alone
  have distinct := ordered.distinct
  rw [found,List.map_append,List.map_cons,List.pairwise_append,List.pairwise_cons] at distinct
  obtain ⟨_,⟨later,_⟩,across⟩ := distinct
  refine ⟨outside,fun other there => ⟨others other ?_,?_⟩⟩
  · rw [found,List.map_append,List.map_cons]
    rw [List.map_append] at there
    simp only [List.mem_append,List.mem_cons] at there ⊢
    tauto
  · rw [List.map_append] at there
    rcases List.mem_append.mp there with earlier | follows
    · exact across other earlier _ List.mem_cons_self
    · exact (later other follows).symm

private theorem clone_ordered :
    Ordered next ((before ++ tagged packet :: after).map tag)
      (insert ⟨packet.space,packet.number⟩ ledger.outstandings.packetEvents) := by
  obtain ⟨outside,others⟩ := clone_facts ordered found alone
  have whole := ordered
  unfold Ledger.Ordered at whole
  rw [found,List.map_append,List.map_cons] at whole
  have here : tag packet ∈ before.map tag ++ tag packet :: after.map tag := by simp
  have split {other : Tag} (inside : other ∈ (before ++ tagged packet :: after).map tag) :
      other = tag (tagged packet) ∨ other ∈ (before ++ after).map tag := by
    simp only [List.map_append,List.map_cons,List.mem_append,List.mem_cons] at inside ⊢
    tauto
  have stays {other : Tag} (inside : other ∈ (before ++ after).map tag) :
      other ∈ before.map tag ++ tag packet :: after.map tag := by
    simp only [List.map_append,List.mem_append,List.mem_cons] at inside ⊢
    tauto
  constructor
  · have sorted := whole.sorted
    rw [List.map_append,List.map_cons]
    simp only [List.pairwise_append,List.pairwise_cons,List.forall_mem_cons] at sorted ⊢
    exact sorted
  · have distinct := whole.distinct
    rw [List.map_append,List.map_cons]
    simp only [List.pairwise_append,List.pairwise_cons,List.forall_mem_cons] at distinct ⊢
    exact distinct
  · intro other inside
    rcases split inside with rfl | there
    · exact whole.fresh (tag packet) here
    · exact whole.fresh other (stays there)
  · intro other inside event known
    rcases split inside with rfl | there
    · rw [← Option.some.inj known]
      rfl
    · exact whole.eventSpace other (stays there) event known
  · intro other inside event known
    rcases split inside with rfl | there
    · rw [← Option.some.inj known]
      exact whole.fresh (tag packet) here
    · exact whole.eventFresh other (stays there) event known
  · intro event inside
    rcases Finset.mem_insert.mp inside with rfl | there
    · exact whole.fresh (tag packet) here
    · exact whole.eventsFresh event there
  · intro other inside unknown
    rcases split inside with rfl | there
    · exact nomatch unknown
    · obtain ⟨notEvent,siblings⟩ := whole.original other (stays there) unknown
      refine ⟨fun present => ?_,fun sibling sibling_inside => ?_⟩
      · rcases Finset.mem_insert.mp present with same | present
        · exact (others other there).2 same
        · exact notEvent present
      · rcases split sibling_inside with rfl | sibling_there
        · intro same
          exact (others other there).2 (Option.some.inj same).symm
        · exact siblings sibling (stays sibling_there)
  · intro other inside
    rcases split inside with rfl | there
    · exact whole.dsrKeys (tag packet) here
    · exact whole.dsrKeys other (stays there)

private theorem clone_counted (counted : Counted ledger) (waiting : packet.declaredLost = false) :
    Counted {ledger with outstandings := cloneTagged ledger.outstandings packet before after} := by
  obtain ⟨outside,_⟩ := clone_facts ordered found alone
  have lost := counted.lost
  have dsr := counted.dsr
  have families := counted.families
  have alive : (tagged packet).declaredLost = false := waiting
  rw [found,countP_lost_remove,waiting] at lost
  rw [found,waitingCount_remove _ before after waiting] at dsr
  rw [found] at families
  refine ⟨?_,?_,fun space => ?_,fun space => ?_,families.enough⟩
  · change ledger.outstandings.declaredLostCount = (before ++ tagged packet :: after).countP _
    rw [countP_lost_remove,alive,lost]
  · change ledger.outstandings.dsrCount = waitingCount _ (before ++ tagged packet :: after) + _
    rw [waitingCount_remove _ before after alive]
    exact dsr
  · change Function.update ledger.outstandings.clonedPacketCount packet.space
      (ledger.outstandings.clonedPacketCount packet.space + 1) space =
        waitingCount _ (before ++ tagged packet :: after)
    rw [waitingCount_remove _ before after alive,update_count,families.cloned space,
      waitingCount_remove _ before after waiting]
    have sameSpace : (tagged packet).space = packet.space := rfl
    have event : (tagged packet).associatedEvent = some ⟨packet.space,packet.number⟩ := rfl
    simp [isCloned,tag,sameSpace,event,alone]
  · change ledger.outstandings.packetCount space =
      waitingCount _ (before ++ tagged packet :: after) + (eventsOf space (insert _ _)).card
    have plain := families.plain space
    have added := eventsOf_erase_card (Finset.mem_insert_self
      (tag packet).key ledger.outstandings.packetEvents) space
    rw [Finset.erase_insert outside] at added
    rw [waitingCount_remove _ before after waiting] at plain
    rw [waitingCount_remove _ before after alive,plain]
    have same : (tag packet).key = ⟨packet.space,packet.number⟩ := rfl
    rw [← same,added]
    simp only [isPlain,tag,tagged,alone,Option.isNone_none,Option.isNone_some,Bool.and_true,
      Bool.and_false,beq_iff_eq,Bool.false_eq_true,if_false]
    omega

private theorem clone_families (families : Families next ledger)
    (waiting : packet.declaredLost = false) :
    Families next {ledger with
      outstandings := cloneTagged ledger.outstandings packet before after} := by
  obtain ⟨outside,others⟩ := clone_facts ordered found alone
  have inside : packet ∈ ledger.outstandings.packets := by
    rw [found]
    simp
  have unprocessed : modes ⟨packet.space,packet.number⟩ ledger.history = [] := by
    have same : family packet = ⟨packet.space,packet.number⟩ := by
      rw [family,alone]
      rfl
    rw [← same]
    apply (families.waiting packet inside waiting).mp
    rw [OutstandingsInfo.needsProcess,alone]
    rfl
  refine ⟨fun other there alive => ?_,fun event there => ?_,fun event there => ?_,families.old,
    families.once⟩
  · change other ∈ before ++ tagged packet :: after at there
    have cases : other = tagged packet ∨ other ∈ before ++ after := by
      simp only [List.mem_append,List.mem_cons] at there ⊢
      tauto
    rcases cases with rfl | elsewhere
    · refine ⟨fun _ => unprocessed,fun _ => ?_⟩
      simp [OutstandingsInfo.needsProcess,tagged,cloneTagged]
    · have stays : other ∈ ledger.outstandings.packets := by
        rw [found]
        simp only [List.mem_append,List.mem_cons] at elsewhere ⊢
        tauto
      rw [← families.waiting other stays alive]
      have apart := (others (tag other) (List.mem_map_of_mem elsewhere)).1
      simp only [OutstandingsInfo.needsProcess,cloneTagged]
      cases known : other.associatedEvent with
      | none => simp
      | some event =>
        have different : event ≠ ⟨packet.space,packet.number⟩ := by
          rintro rfl
          exact apart known
        simp [different]
  · rcases Finset.mem_insert.mp there with rfl | present
    · exact unprocessed
    · exact families.pending event present
  · rcases Finset.mem_insert.mp there with rfl | present
    · exact ⟨tagged packet,List.mem_append_right _ List.mem_cons_self,waiting,rfl⟩
    · obtain ⟨other,known,alive,tags⟩ := families.attended event present
      refine ⟨other,?_,alive,tags⟩
      change other ∈ before ++ tagged packet :: after
      rw [found] at known
      simp only [List.mem_append,List.mem_cons] at known ⊢
      rcases known with earlier | rfl | follows
      · exact .inl earlier
      · rw [alone] at tags
        cases tags
      · exact .inr (.inr follows)

end

theorem Sound.cloned (sound : Sound next ledger)
    (found : ledger.outstandings.packets = before ++ packet :: after)
    (alone : packet.associatedEvent = none) (waiting : packet.declaredLost = false) :
    Sound next {ledger with
      outstandings := cloneTagged ledger.outstandings packet before after} :=
  ⟨clone_ordered sound.ordered found alone,clone_counted sound.ordered found alone sound.counted waiting,
    clone_families sound.ordered found alone sound.families waiting⟩

end Clone

section Update

variable {conn : QuicConnectionState} {packetEvent : Option PacketEvent}
  {packet : RegularQuicWritePacket} {sentTime : TimePoint} {encodedSize encodedBodySize : UInt32}
  {isDSRPacket : Bool}

/-- A sent packet takes a number, and puts its size in flight if the peer will acknowledge it. -/
structure SentFrom (start : Books) (space : PacketNumberSpace) (next : Books) : Prop where
  kept : Kept next
  numbers : next.nextPacketNum =
    Function.update start.nextPacketNum space (start.nextPacketNum space + 1)
  controller : next.congestionController.isSome = start.congestionController.isSome

theorem le_update_succ (numbers : PacketNumberSpace → PacketNum) (space other : PacketNumberSpace) :
    numbers other ≤ Function.update numbers space (numbers space + 1) other := by
  by_cases same : other = space
  · subst same
    rw [Function.update_self]
    exact Nat.le_succ _
  · rw [Function.update_of_ne same]

theorem increaseNextPacketNum_numbers (conn : QuicConnectionState) (space : PacketNumberSpace)
    (dsrPacket : Bool) : (increaseNextPacketNum conn space dsrPacket).books.nextPacketNum =
      Function.update conn.books.nextPacketNum space (conn.books.nextPacketNum space + 1) := by
  funext other
  by_cases same : other = space
  · subst same
    simp [QuicConnectionState.books,increaseNextPacketNum]
  · simp [QuicConnectionState.books,increaseNextPacketNum,Function.update_of_ne same]

theorem increaseNextPacketNum_sent (kept : Kept conn.books) (space : PacketNumberSpace)
    (dsrPacket : Bool) :
    SentFrom conn.books space (increaseNextPacketNum conn space dsrPacket).books := by
  refine ⟨{kept with sound := ?_},increaseNextPacketNum_numbers conn space dsrPacket,rfl⟩
  rw [increaseNextPacketNum_numbers]
  exact kept.sound.grow (le_update_succ _ _)

private theorem onPacketSent_kept {start : Books} {conn : QuicConnectionState}
    {packet : OutstandingPacket} {space : PacketNumberSpace} (kept : Kept start)
    (rest : conn.books = {start with
      nextPacketNum := Function.update start.nextPacketNum space (start.nextPacketNum space + 1)
      setLossDetectionAlarm := conn.pendingEvents.setLossDetectionAlarm})
    (here : packet.space = space)
    (sendable : Sendable start.nextPacketNum start.outstandings.packetEvents packet)
    (size : packet.metadata.encodedSize < 2^64) :
    Yields Tolerable (fun next => SentFrom start space next.books)
      (onPacketSent (noteAckEliciting conn packet) packet) := by
  have outstandings : conn.outstandings = start.outstandings :=
    (congrArg Books.outstandings rest).trans rfl
  have history : conn.history = start.history := (congrArg Books.history rest).trans rfl
  have numbers : conn.books.nextPacketNum =
      Function.update start.nextPacketNum space (start.nextPacketNum space + 1) :=
    (congrArg Books.nextPacketNum rest).trans rfl
  have controller : conn.congestionController = start.congestionController :=
    (congrArg Books.congestionController rest).trans rfl
  have inflight : conn.lossState.inflightBytes = start.inflightBytes :=
    (congrArg Books.inflightBytes rest).trans rfl
  have log : conn.inflightSubtractions = start.inflightSubtractions :=
    (congrArg Books.inflightSubtractions rest).trans rfl
  have sound : Sound conn.books.nextPacketNum
      {outstandings := emplaceOutstanding conn.outstandings packet
       history := ⟨packet,.sent⟩ :: conn.history} := by
    rw [numbers,outstandings,history]
    apply kept.sound.sent (le_update_succ _ _) rfl sendable
    rw [here,Function.update_self,sendable.newest,here]
    exact Nat.lt_succ_self _
  have sorted : start.outstandings.packets.Pairwise fun first second =>
      first.number ≤ second.number := by
    have ordered := List.pairwise_map.mp kept.sound.ordered.sorted
    exact ordered
  cases present : conn.congestionController with
  | none =>
    unfold onPacketSent
    rw [show (noteAckEliciting conn packet).congestionController = none from present]
    refine ⟨⟨sound,fun some => ?_,fun some => ?_,?_⟩,numbers,?_⟩
    · exact absurd some (by simp [QuicConnectionState.books,noteAckEliciting,present])
    · exact absurd some (by simp [QuicConnectionState.books,noteAckEliciting,present])
    · change ∀ pair ∈ conn.inflightSubtractions, _
      rw [log]
      exact kept.log
    · exact congrArg Option.isSome controller
  | some existing =>
    have isSome : conn.congestionController.isSome := by
      rw [present]
      rfl
    have startSome : start.congestionController.isSome := by
      rw [← controller]
      exact isSome
    have bound : conn.lossState.inflightBytes < 2^64 := by
      rw [inflight]
      exact kept.bound startSome
    have counted : Yields Tolerable (PutsIn (noteAckEliciting conn packet) packet.metadata.encodedSize)
        (onPacketSent (noteAckEliciting conn packet) packet) := onPacketSent_putsIn isSome size bound
    apply counted.mono
    intro next puts
    obtain ⟨nextController,shape,same⟩ := puts.shape
    rw [shape]
    refine ⟨⟨sound,fun _ => ?_,fun _ => ?_,?_⟩,numbers,?_⟩
    · change conn.lossState.inflightBytes + packet.metadata.encodedSize =
        flightBytes (insertOutstanding packet conn.outstandings.packets)
      obtain ⟨before,after,found,placed,_⟩ := insertOutstanding_place packet _ sorted
      rw [outstandings,placed,flightBytes_remove,sendable.waiting,inflight,kept.flight startSome,found]
      simp
    · exact puts.bound
    · change ∀ pair ∈ conn.inflightSubtractions, _
      rw [log]
      exact kept.log
    · change nextController.isSome = _
      rw [same]
      exact congrArg Option.isSome controller

theorem updateConnection_sent (kept : Kept conn.books)
    (newest : packet.header.getPacketSequenceNum =
      conn.books.nextPacketNum packet.header.getPacketNumberSpace)
    (clone : ∀ event, packetEvent = some event → event ∈ conn.outstandings.packetEvents ∧
      event.packetNumberSpace = packet.header.getPacketNumberSpace)
    (dsrKey : isDSRPacket = true → packet.header.getProtectionType ≠ .zeroRtt) :
    Yields Tolerable
      (fun next => SentFrom conn.books packet.header.getPacketNumberSpace next.books)
      (updateConnection conn packetEvent packet sentTime encodedSize encodedBodySize isDSRPacket) := by
  unfold updateConnection
  apply (framesSent_books packetEvent packet.header sentTime packet.frames {conn := conn}).bind
  intro sent same
  dsimp only
  have counted : Kept (countSent sent packet.header.getPacketSequenceNum sentTime encodedSize.toNat
      encodedBodySize.toNat).books := by
    rw [← same] at kept
    exact {kept with}
  have numbers : (countSent sent packet.header.getPacketSequenceNum sentTime encodedSize.toNat
      encodedBodySize.toNat).books.nextPacketNum = conn.books.nextPacketNum :=
    (congrArg Books.nextPacketNum same).trans rfl
  have rest : (countSent sent packet.header.getPacketSequenceNum sentTime encodedSize.toNat
      encodedBodySize.toNat).books = {conn.books with setLossDetectionAlarm :=
        (countSent sent packet.header.getPacketSequenceNum sentTime encodedSize.toNat
          encodedBodySize.toNat).pendingEvents.setLossDetectionAlarm} := by
    simp only [QuicConnectionState.books,Books.mk.injEq,countSent] at same ⊢
    exact ⟨same.1,same.2.1,same.2.2.1,same.2.2.2.1,same.2.2.2.2.1,same.2.2.2.2.2.1,
      same.2.2.2.2.2.2.1,trivial,same.2.2.2.2.2.2.2.2⟩
  generalize countSent sent packet.header.getPacketSequenceNum sentTime encodedSize.toNat
    encodedBodySize.toNat = count at counted numbers rest
  split
  · have increased := increaseNextPacketNum_sent counted packet.header.getPacketNumberSpace
      isDSRPacket
    refine ⟨increased.kept,?_,?_⟩
    · rw [increased.numbers,numbers]
    · exact increased.controller.trans (congrArg (fun books => books.congestionController.isSome) rest)
  · refine onPacketSent_kept kept ?_ rfl ⟨rfl,newest,clone,dsrKey⟩ ?_
    · have increased := increaseNextPacketNum_numbers count packet.header.getPacketNumberSpace
        isDSRPacket
      rw [numbers] at increased
      simp only [QuicConnectionState.books,Books.mk.injEq,increaseNextPacketNum] at rest increased ⊢
      exact ⟨rest.1,rest.2.1,rest.2.2.1,rest.2.2.2.1,rest.2.2.2.2.1,increased,
        rest.2.2.2.2.2.2.1,trivial,rest.2.2.2.2.2.2.2.2⟩
    · have small := encodedSize.toNat_lt
      change encodedSize.toNat < 2^64
      omega

end Update

end StreamServer.Loss
