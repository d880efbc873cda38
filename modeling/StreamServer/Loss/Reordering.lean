import StreamServer.Loss.LossSearches

/-! Packets that are declared lost because later ones were acknowledged. Along a run the numbers that
were taken are listed with their use, and every packet that a search for losses gives up because of
the reordering threshold is noted with what was known by then. -/
namespace StreamServer.Loss
open Protocol State Congestion Api Lib.Transition Lib.SortedList

/-- A number goes to a packet whose data is here, to one whose data is not, or to none. -/
inductive NumberUse where
  | data
  | dsr
  | skipped
  deriving DecidableEq

structure TakenNumber where
  space : PacketNumberSpace
  number : PacketNum
  use : NumberUse
  deriving DecidableEq

def isBufMetaFrame : QuicWriteFrame → Bool
  | .stream frame => frame.fromBufMeta
  | _ => false

/-- A packet whose data is here has no frame of data that is elsewhere. -/
def PacketAction.Plain : PacketAction → Prop
  | .handle (.send packet) | .handle (.clone _ packet _ _ _) =>
    ∀ frame ∈ packet.frames, isBufMetaFrame frame = false
  | _ => True

structure WatchedAction where
  action : PacketAction
  plain : action.Plain

/-- What goes on elsewhere leaves the numbers of the spaces alone. -/
def withAckNumbers (conn other : QuicConnectionState) : QuicConnectionState :=
  {other with ackStates := fun space => {other.ackStates space with
    nonDsrPacketSequenceNumber := (conn.ackStates space).nonDsrPacketSequenceNumber
    largestAckedByPeer := (conn.ackStates space).largestAckedByPeer}}

def WatchedAction.settled (watched : WatchedAction) (conn : QuicConnectionState) : PacketAction :=
  match watched.action with
  | .handle (.elsewhere other) => .handle (.elsewhere (withAckNumbers conn other))
  | action => action

def cloneableAt (conn : QuicConnectionState) (index : Nat) (space : PacketNumberSpace)
    (writableBytes cipherOverhead : Nat) : Bool :=
  (conn.outstandings.packets.drop index).head?.any
    (CloningScheduler.cloneable conn.outstandings space writableBytes cipherOverhead)

def takes (conn : QuicConnectionState) : PacketAction → Option TakenNumber
  | .handle (.send packet) => some (next packet.header.getPacketNumberSpace .data)
  | .handle (.sendDsr header _) => some (next (PacketHeader.short header).getPacketNumberSpace .dsr)
  | .handle (.clone index packet writableBytes cipherOverhead written) =>
    let space := packet.header.getPacketNumberSpace
    if written && cloneableAt conn index space writableBytes cipherOverhead then some (next space .data)
    else none
  | .handle (.skipNumber space) => some (next space .skipped)
  | _ => none
where
  next (space : PacketNumberSpace) (use : NumberUse) : TakenNumber :=
    ⟨space,(conn.ackStates space).nextPacketNum,use⟩

/-- The packets with data here that a call gives up because of the reordering threshold, as they were
before. -/
def DetectionCall.declared (call : DetectionCall) (after : QuicConnectionState) :
    List OutstandingPacket :=
  ((call.conn.outstandings.packets.zip after.outstandings.packets).filter fun (before,after) =>
    !before.declaredLost && after.declaredLost && after.metadata.lossReorderDistance.isSome &&
      !before.isDSRPacket).map Prod.fst

structure ReorderingLoss where
  packet : OutstandingPacket
  reorderingThreshold : Nat
  taken : List TakenNumber
  history : List PacketRecord

/-- The transport with the numbers it has taken, the latest first. -/
structure Watch where
  conn : QuicConnectionState
  taken : List TakenNumber := []
  losses : List ReorderingLoss := []

def lossesOf (taken : List TakenNumber) (call : DetectionCall) (after : QuicConnectionState) :
    List ReorderingLoss :=
  (call.declared after).map fun packet =>
    ⟨packet,call.conn.lossState.reorderingThreshold,taken,call.conn.history⟩

def watchStep (watch : Watch) (watched : WatchedAction) : Except Error Watch := do
  let action := watched.settled watch.conn
  let (conn,found) ← searchingStep watch.conn action
  return {
    conn
    taken := (takes watch.conn action).toList ++ watch.taken
    losses := found.elim [] (fun (call,after) => lossesOf watch.taken call after) ++ watch.losses}

/-- Without what it notes the step is that of the transport. -/
theorem watchStep_conn (watch : Watch) (watched : WatchedAction) :
    Watch.conn <$> watchStep watch watched = packetStep watch.conn (watched.settled watch.conn) := by
  rw [packetStep_searching]
  unfold watchStep
  dsimp only
  cases searchingStep watch.conn (watched.settled watch.conn) with
  | error _ | ok _ => rfl

def isData (space : PacketNumberSpace) (taken : TakenNumber) : Bool :=
  taken.space == space && taken.use == .data

/-- Numbers of the space that count in the sequence of packets whose data is here. -/
def isSequenced (space : PacketNumberSpace) (taken : TakenNumber) : Bool :=
  taken.space == space && taken.use != .dsr

/-- The packet was sent before one that the peer has acknowledged, with more than the threshold of
packets after it up to that one. -/
def FarBehind (loss : ReorderingLoss) : Prop :=
  ∃ acked later between earlier, AckedIn loss.history loss.packet.space acked ∧
    acked.isDSRPacket = false ∧
    loss.taken = later ++ ⟨loss.packet.space,acked.number,.data⟩ ::
      (between ++ ⟨loss.packet.space,loss.packet.number,.data⟩ :: earlier) ∧
    loss.reorderingThreshold < between.countP (isData loss.packet.space) + 1

variable {conn next : QuicConnectionState} {first : PacketNumberSpace → PacketNum}
  {taken : List TakenNumber} {here : TakenNumber} {content : List QuicWriteFrame}
  {watched : WatchedAction} {number : PacketNum}

section Numbers

/-- Each space hands out its numbers one after the other. -/
def Consecutive (first : PacketNumberSpace → PacketNum) : List TakenNumber → Prop
  | [] => True
  | latest :: earlier =>
    latest.number = first latest.space + earlier.countP (·.space == latest.space) ∧
      Consecutive first earlier

theorem Consecutive.at {later earlier : List TakenNumber}
    (consecutive : Consecutive first (later ++ here :: earlier)) :
    here.number = first here.space + earlier.countP (·.space == here.space) := by
  induction later with
  | nil => exact consecutive.1
  | cons _ _ ih => exact ih consecutive.2

theorem Consecutive.larger {later earlier : List TakenNumber}
    (consecutive : Consecutive first (later ++ here :: earlier)) :
    ∀ other ∈ later, other.space = here.space → here.number < other.number := by
  intro other inside same
  obtain ⟨above,below,rfl⟩ := List.append_of_mem inside
  have mine := consecutive.at
  rw [List.append_assoc,List.cons_append] at consecutive
  have others := consecutive.at
  rw [mine,others,same,List.countP_append,List.countP_cons_of_pos (by simp)]
  exact Nat.add_lt_add_left (by omega) _

def takenBy (packet : OutstandingPacket) : TakenNumber :=
  ⟨packet.space,packet.number,if packet.isDSRPacket then .dsr else .data⟩

structure Placed (taken : List TakenNumber) (packet : OutstandingPacket) : Prop where
  place : ∃ later earlier, taken = later ++ takenBy packet :: earlier ∧
    packet.nonDsrPacketSequenceNumber =
      if packet.isDSRPacket then none else some (earlier.countP (isSequenced packet.space))
  plain : packet.isDSRPacket = false → ∀ frame ∈ packet.packet.frames, isBufMetaFrame frame = false

theorem Placed.later {packet : OutstandingPacket} (placed : Placed taken packet)
    (more : List TakenNumber) : Placed (more ++ taken) packet := by
  obtain ⟨⟨later,earlier,rfl,sequence⟩,plain⟩ := placed
  exact ⟨⟨more ++ later,earlier,(List.append_assoc ..).symm,sequence⟩,plain⟩

theorem Placed.of_comesFrom {earlier later : OutstandingPacket} (placed : Placed taken earlier)
    (comes : ComesFrom earlier later) : Placed taken later := by
  have number : later.number = earlier.number := congrArg (·.header.getPacketSequenceNum) comes.packet
  have space : later.space = earlier.space := congrArg (·.header.getPacketNumberSpace) comes.packet
  obtain ⟨place,plain⟩ := placed
  refine ⟨?_,?_⟩
  · rw [takenBy,number,space,comes.isDSRPacket,comes.sequence]
    exact place
  · rw [comes.isDSRPacket,comes.packet]
    exact plain

structure Numbered (first : PacketNumberSpace → PacketNum) (taken : List TakenNumber)
    (conn : QuicConnectionState) : Prop where
  consecutive : Consecutive first taken
  nextNumber : ∀ space, (ackNumbers conn space).1 = first space + taken.countP (·.space == space)
  sequence : ∀ space, (ackNumbers conn space).2.1 = taken.countP (isSequenced space)
  packets : ∀ packet ∈ conn.outstandings.packets, Placed taken packet
  records : ∀ record ∈ conn.history, Placed taken record.packet
  waiting : ∀ packet ∈ conn.outstandings.packets, packet.declaredLost = false →
    packet.metadata.lossReorderDistance = none
  largest : ∀ space number, (ackNumbers conn space).2.2 = some number →
    ∃ packet, AckedIn conn.history space packet ∧ packet.number = number

variable (numbered : Numbered first taken conn)
include numbered

theorem Numbered.advance
    (advances : Advances conn next) : Numbered first taken next where
  consecutive := numbered.consecutive
  nextNumber space := (advances.nextNumber space).trans (numbered.nextNumber space)
  sequence space := (advances.sequence space).trans (numbered.sequence space)
  packets packet inside := by
    obtain ⟨earlier,there,comes⟩ := advances.packets packet inside
    exact (numbered.packets earlier there).of_comesFrom comes
  records record inside := by
    rcases advances.records record inside with old | ⟨earlier,there,comes⟩
    · exact numbered.records record old
    · exact (numbered.packets earlier there).of_comesFrom comes
  waiting packet inside waiting := by
    obtain ⟨earlier,there,comes⟩ := advances.packets packet inside
    obtain ⟨waited,same⟩ := comes.waiting waiting
    rw [same]
    exact numbered.waiting earlier there waited
  largest space number is := by
    rcases advances.largest space number is with old | fresh
    · obtain ⟨packet,acked,same⟩ := numbered.largest space number old
      exact ⟨packet,acked.mono advances.grows,same⟩
    · exact fresh

theorem Numbered.acked {space : PacketNumberSpace}
    {packet : OutstandingPacket} (acked : AckedIn conn.history space packet) :
    Placed taken packet := by
  obtain ⟨-,_,inside⟩ := acked
  exact numbered.records _ inside

end Numbers

section Sending

structure SentAs (conn : QuicConnectionState) (own : PacketNumberSpace) (dsr : Bool)
    (content : List QuicWriteFrame) (packet : OutstandingPacket) : Prop where
  space : packet.space = own
  number : packet.number = (ackNumbers conn own).1
  isDSRPacket : packet.isDSRPacket = dsr
  sequence : packet.nonDsrPacketSequenceNumber = if dsr then none else some (ackNumbers conn own).2.1
  frames : packet.packet.frames = content
  unjudged : packet.metadata.lossReorderDistance = none

structure Sends (conn : QuicConnectionState) (space : PacketNumberSpace) (isDSRPacket : Bool)
    (frames : List QuicWriteFrame) (next : QuicConnectionState) : Prop where
  packets : ∀ packet ∈ next.outstandings.packets,
    packet ∈ conn.outstandings.packets ∨ SentAs conn space isDSRPacket frames packet
  records : ∀ record ∈ next.history,
    record ∈ conn.history ∨ SentAs conn space isDSRPacket frames record.packet
  grows : conn.history ⊆ next.history
  numbers : ackNumbers next = Function.update (ackNumbers conn) space
    ((ackNumbers conn space).1 + 1,(ackNumbers conn space).2.1 + (if isDSRPacket then 0 else 1),
      (ackNumbers conn space).2.2)

theorem increaseNextPacketNum_ackNumbers (conn : QuicConnectionState) (space : PacketNumberSpace)
    (isDSRPacket : Bool) :
    ackNumbers (increaseNextPacketNum conn space isDSRPacket) = Function.update (ackNumbers conn) space
      ((ackNumbers conn space).1 + 1,(ackNumbers conn space).2.1 + (if isDSRPacket then 0 else 1),
        (ackNumbers conn space).2.2) := by
  funext other
  by_cases same : other = space
  · subst same
    simp [ackNumbers,increaseNextPacketNum]
  · simp [ackNumbers,increaseNextPacketNum,Function.update_of_ne same]

theorem sendPacket_sends {packetEvent : Option PacketEvent}
    {packet : SentPacket} {isDSRPacket : Bool}
    (done : sendPacket conn packetEvent packet isDSRPacket = .ok next) :
    Sends conn packet.header.getPacketNumberSpace isDSRPacket packet.frames next := by
  unfold sendPacket updateConnection at done
  obtain ⟨sent,frames,onward⟩ := bind_ok.mp done
  have records := (framesSent_records _ _ _ _ _).ok frames
  have outstandings : sent.conn.outstandings = conn.outstandings :=
    congrArg (fun records => records.1.outstandings) records
  have history : sent.conn.history = conn.history := congrArg (fun records => records.1.history) records
  have numbers := ackNumbers_of_records records
  have next_number : ackNumbers (increaseNextPacketNum (countSent sent
      (numbered (getNextPacketNum conn packet.header.getPacketNumberSpace)
        packet.header).getPacketSequenceNum packet.sentTime packet.encodedSize.toNat
      packet.encodedBodySize.toNat) packet.header.getPacketNumberSpace isDSRPacket) = _ :=
    increaseNextPacketNum_ackNumbers ..
  rw [show ackNumbers (countSent sent _ _ _ _) = ackNumbers conn from numbers] at next_number
  dsimp only at onward
  rw [numbered_space] at onward
  split at onward
  next =>
    cases onward
    exact ⟨fun _ inside => .inl (outstandings ▸ inside),fun _ inside => .inl (history ▸ inside),
      by rw [← history]; exact List.Subset.refl _,next_number⟩
  next =>
    have aside := ((onPacketSent_within ..).ok onward).aside
    have sequence : (sent.conn.ackStates packet.header.getPacketNumberSpace).nonDsrPacketSequenceNumber =
        (ackNumbers conn packet.header.getPacketNumberSpace).2.1 :=
      congrArg (fun numbers => numbers.2.1) (congrFun numbers packet.header.getPacketNumberSpace)
    rw [sequence] at aside
    generalize sentPacket : outstandingPacket _ packetEvent _ packet.sentTime _ _ _ _ _ = outstanding at aside
    have fresh : SentAs conn packet.header.getPacketNumberSpace isDSRPacket packet.frames outstanding := by
      subst sentPacket
      exact ⟨numbered_space _ _,numbered_number _ _,rfl,rfl,rfl,rfl⟩
    refine ⟨fun other inside => ?_,fun record inside => ?_,?_,?_⟩
    · rw [aside.outstandings] at inside
      rcases mem_insertion.mp inside with rfl | old
      · exact .inr fresh
      · exact .inl (outstandings ▸ old)
    · rw [aside.history] at inside
      rcases List.mem_cons.mp inside with rfl | old
      · exact .inr fresh
      · exact .inl (history ▸ old)
    · rw [aside.history,← history]
      exact List.subset_cons_self ..
    · rw [← next_number]
      funext other
      rw [ackNumbers,aside.ackStates]
      rfl

variable (numbered : Numbered first taken conn)
include numbered

theorem SentAs.placed {own : PacketNumberSpace} {dsr : Bool}
    {packet : OutstandingPacket} (sent : SentAs conn own dsr content packet)
    (plain : dsr = false → ∀ frame ∈ content, isBufMetaFrame frame = false) :
    Placed (⟨own,(ackNumbers conn own).1,if dsr then .dsr else .data⟩ :: taken) packet := by
  refine ⟨⟨[],taken,?_,?_⟩,?_⟩
  · rw [takenBy,sent.space,sent.number,sent.isDSRPacket]
    rfl
  · rw [sent.sequence,sent.isDSRPacket,sent.space,numbered.sequence]
  · rw [sent.isDSRPacket,sent.frames]
    exact plain

theorem Numbered.take {space : PacketNumberSpace} {use : NumberUse}
    (numbers : ackNumbers next = Function.update (ackNumbers conn) space
      ((ackNumbers conn space).1 + 1,(ackNumbers conn space).2.1 + (if use = .dsr then 0 else 1),
        (ackNumbers conn space).2.2)) (grows : conn.history ⊆ next.history)
    (packets : ∀ packet ∈ next.outstandings.packets, packet ∈ conn.outstandings.packets ∨
      Placed (⟨space,(ackNumbers conn space).1,use⟩ :: taken) packet ∧
        packet.metadata.lossReorderDistance = none)
    (records : ∀ record ∈ next.history, record ∈ conn.history ∨
      Placed (⟨space,(ackNumbers conn space).1,use⟩ :: taken) record.packet) :
    Numbered first (⟨space,(ackNumbers conn space).1,use⟩ :: taken) next := by
  refine ⟨⟨numbered.nextNumber space,numbered.consecutive⟩,fun other => ?_,fun other => ?_,
    fun packet inside => ?_,fun record inside => ?_,fun packet inside waiting => ?_,
    fun other number is => ?_⟩
  · rw [numbers]
    by_cases same : other = space
    · subst same
      rw [Function.update_self,List.countP_cons_of_pos (by simp),numbered.nextNumber]
      rfl
    · rw [Function.update_of_ne same,List.countP_cons_of_neg (by simpa using Ne.symm same)]
      exact numbered.nextNumber other
  · rw [numbers]
    by_cases same : other = space
    · subst same
      rw [Function.update_self,numbered.sequence]
      cases use with
      | dsr | data | skipped => simp [isSequenced]
    · have apart : isSequenced other ⟨space,(ackNumbers conn space).1,use⟩ = false := by
        simp [isSequenced,Ne.symm same]
      rw [Function.update_of_ne same,List.countP_cons_of_neg (by rw [apart]; nofun)]
      exact numbered.sequence other
  · rcases packets packet inside with old | new
    · exact (numbered.packets packet old).later [_]
    · exact new.1
  · rcases records record inside with old | new
    · exact (numbered.records record old).later [_]
    · exact new
  · rcases packets packet inside with old | new
    · exact numbered.waiting packet old waiting
    · exact new.2
  · rw [numbers] at is
    have before : (ackNumbers conn other).2.2 = some number := by
      by_cases same : other = space
      · subst same
        rwa [Function.update_self] at is
      · rwa [Function.update_of_ne same] at is
    obtain ⟨packet,acked,same⟩ := numbered.largest other number before
    exact ⟨packet,acked.mono grows,same⟩

theorem Numbered.send {space : PacketNumberSpace} {dsr : Bool} (sends : Sends conn space dsr content next)
    (plain : dsr = false → ∀ frame ∈ content, isBufMetaFrame frame = false) :
    Numbered first (⟨space,(ackNumbers conn space).1,if dsr then .dsr else .data⟩ :: taken) next := by
  refine numbered.take ?_ sends.grows (fun packet inside => ?_) fun record inside => ?_
  · rw [sends.numbers]
    cases dsr <;> rfl
  · exact (sends.packets packet inside).imp id fun sent => ⟨sent.placed numbered plain,sent.unjudged⟩
  · exact (sends.records record inside).imp id fun sent => sent.placed numbered plain

end Sending

section Steps

/-- Preparing a clone only marks the family of the packet. -/
private theorem prepared_advances {index : Nat} {original : OutstandingPacket}
    {after : List OutstandingPacket} (found : conn.outstandings.packets.drop index = original :: after) :
    Advances conn {conn with outstandings :=
      {(PacketRebuilder.cloneOutstandingPacket conn.outstandings original).2.2 with
        packets := conn.outstandings.packets.take index ++
          (PacketRebuilder.cloneOutstandingPacket conn.outstandings original).2.1 :: after}} := by
  have comes : ComesFrom original
      (PacketRebuilder.cloneOutstandingPacket conn.outstandings original).2.1 := by
    unfold PacketRebuilder.cloneOutstandingPacket
    split
    · exact .refl original
    · exact ⟨rfl,rfl,rfl,fun waiting => ⟨waiting,rfl⟩⟩
  have here : ∀ packet ∈ original :: after, packet ∈ conn.outstandings.packets := fun packet inside =>
    List.drop_subset index _ (found ▸ inside)
  refine ⟨fun packet inside => ?_,fun _ inside => .inl inside,List.Subset.refl _,fun _ => rfl,
    fun _ => rfl,fun _ _ is => .inl is⟩
  rcases List.mem_append.mp inside with before | rest
  · exact ⟨packet,List.take_subset index _ before,.refl packet⟩
  · rcases List.mem_cons.mp rest with rfl | behind
    · exact ⟨original,here original (List.mem_cons_self ..),comes⟩
    · exact ⟨packet,here packet (List.mem_cons_of_mem _ behind),.refl packet⟩

variable (numbered : Numbered first taken conn)
include numbered

private theorem clonePacket_numbered {index : Nat}
    {packet : SentPacket} {writableBytes cipherOverhead : Nat} {written : Bool}
    (plain : ∀ frame ∈ packet.frames, isBufMetaFrame frame = false)
    (done : clonePacket conn index packet writableBytes cipherOverhead written = .ok next) :
    Numbered first ((takes conn (.handle (.clone index packet writableBytes cipherOverhead
      written))).toList ++ taken) next := by
  unfold clonePacket at done
  unfold takes cloneableAt
  dsimp only
  split at done
  next absent =>
    cases done
    rw [absent]
    simpa using numbered
  next original after found =>
    rw [found]
    dsimp only at done ⊢
    split at done
    next able =>
      have prepared := numbered.advance (prepared_advances found)
      rw [List.head?_cons,Option.any_some,able,Bool.and_true]
      split at done
      next yes =>
        rw [if_pos yes]
        exact prepared.send (sendPacket_sends done) fun _ => plain
      next no =>
        cases done
        rw [if_neg no]
        exact prepared
    next unable =>
      cases done
      rw [List.head?_cons,Option.any_some,Bool.eq_false_iff.mpr unable,Bool.and_false]
      exact numbered

theorem packetStep_numbered (done : packetStep conn (watched.settled conn) = .ok next) :
    Numbered first ((takes conn (watched.settled conn)).toList ++ taken) next := by
  obtain ⟨action,plain⟩ := watched
  cases action with
  | alarm now readings => exact numbered.advance (onLossDetectionAlarm_advances done)
  | handle action =>
    cases action with
    | send packet => exact numbered.send (sendPacket_sends done) fun _ => plain
    | sendDsr header packet =>
      have sends := @sendPacket_sends conn next none {packet with header := .short header} true done
      exact numbered.send sends fun dsr => absurd dsr nofun
    | clone index packet writableBytes cipherOverhead written =>
      exact clonePacket_numbered numbered plain done
    | skipNumber space =>
      cases done
      exact @Numbered.take _ _ _ _ numbered _ .skipped (increaseNextPacketNum_ackNumbers conn space false)
        (List.Subset.refl _) (fun _ inside => .inl inside) fun _ inside => .inl inside
    | ackFrame arguments readings =>
      obtain ⟨⟨acked,ack⟩,processed,rfl⟩ := map_ok done
      exact numbered.advance (processAckFrame_advances (clientAckVisitor_records _)
        markPacketLoss_records processed)
    | clear time space =>
      cases done
      exact numbered.advance (clearOldOutstandingPackets_advances time space)
    | implicitAck level now nowTime readings =>
      exact numbered.advance (implicitAckCryptoStream_advances done)
    | zeroRttRejected now =>
      exact numbered.advance (markZeroRttPacketsLost_advances markPacketLoss_records done)
    | elsewhere other =>
      cases done
      exact numbered.advance (.of_same (List.Subset.refl _) rfl rfl)

end Steps

section Calls

variable {call : DetectionCall}

structure SoundCall (first : PacketNumberSpace → PacketNum) (taken : List TakenNumber)
    (call : DetectionCall) : Prop where
  numbered : Numbered first taken call.conn
  largest : call.largestAcked = (ackNumbers call.conn call.pnSpace).2.2
  keeps : VisitorKeepsRecords call.lossVisitor
  acked : ∀ acked ∈ call.ackEvent.elim [] AckEvent.ackedPackets,
    ∃ packet, AckedIn call.conn.history call.pnSpace packet ∧
      acked.nonDsrPacketSequenceNumber = packet.nonDsrPacketSequenceNumber.getD 0

theorem detection_sound (numbered : Numbered first taken conn) {action : PacketAction}
    (called : detection conn action = some call) : SoundCall first taken call := by
  rcases detection_call called with ⟨handling,acknowledged,done,rfl⟩ | ⟨now,rfl⟩
  · obtain ⟨advances,newly,reported⟩ := acknowledge_acknowledged handling.acks done
    have noted := noteNewlyAcked_advances newly
    refine ⟨(numbered.advance advances).advance noted,rfl,handling.losses,fun acked inside => ?_⟩
    obtain ⟨packet,known,same⟩ := reported acked inside
    exact ⟨packet,known.mono noted.grows,same⟩
  · exact ⟨numbered,rfl,markPacketLoss_records,List.forall_mem_nil _⟩

/-- The largest numbers of the packets an event acknowledges. -/
def LargestAcked.acked (ackEvent : Option AckEvent) : LargestAcked :=
  (ackEvent.elim [] AckEvent.ackedPackets).foldl LargestAcked.addPacket {}

variable {largest : LargestAcked}

private theorem addPacket_nonDsr {packet : AckPacket}
    (is : (largest.addPacket packet).nonDsr = some number) :
    largest.nonDsr = some number ∨ number = 0 ∨ number = packet.nonDsrPacketSequenceNumber := by
  have added {largest : LargestAcked} (is : (largest.addNonDsr packet).nonDsr = some number) :
      largest.nonDsr = some number ∨ number = 0 ∨ number = packet.nonDsrPacketSequenceNumber := by
    rw [← Option.some.inj is]
    rcases max_choice (largest.nonDsr.getD 0) packet.nonDsrPacketSequenceNumber with old | new
    · rw [old]
      cases largest.nonDsr with
      | none => exact .inr (.inl rfl)
      | some before => exact .inl rfl
    · exact .inr (.inr new)
  unfold LargestAcked.addPacket at is
  split at is
  next => exact added is
  next =>
    generalize packet.detailsPerStream = details at is
    induction details generalizing largest with
    | nil => exact .inl is
    | cons detail rest ih =>
      rw [List.foldl_cons] at is
      rcases ih is with before | other
      · unfold LargestAcked.addDetails at before
        split at before
        next => exact .inl before
        next => exact added before
      · exact .inr other

theorem acked_nonDsr {packets : List AckPacket}
    (is : (packets.foldl LargestAcked.addPacket largest).nonDsr = some number) :
    largest.nonDsr = some number ∨ number = 0 ∨
      ∃ packet ∈ packets, number = packet.nonDsrPacketSequenceNumber := by
  induction packets generalizing largest with
  | nil => exact .inl is
  | cons packet rest ih =>
    rw [List.foldl_cons] at is
    rcases ih is with before | zero | ⟨other,inside,same⟩
    · rcases addPacket_nonDsr before with old | zero | same
      · exact .inl old
      · exact .inr (.inl zero)
      · exact .inr (.inr ⟨packet,List.mem_cons_self ..,same⟩)
    · exact .inr (.inl zero)
    · exact .inr (.inr ⟨other,List.mem_cons_of_mem _ inside,same⟩)

@[mk_iff] structure Comparable (taken : List TakenNumber) (call : DetectionCall) : Prop where
  unskipped : ∀ packet ∈ call.conn.outstandings.packets, packet.isOutstanding call.pnSpace →
    packet.isDSRPacket = false → ∀ number ∈ taken, number.space = call.pnSpace →
      number.use = .skipped → number.number < packet.number
  numbers : (LargestAcked.acked call.ackEvent).nonDsr.isSome ∨
    call.ackEvent.elim [] AckEvent.ackedPackets = [] ∧
      (call.conn.ackStates call.pnSpace).nextPacketNum =
        (call.conn.ackStates call.pnSpace).nonDsrPacketSequenceNumber

variable {arguments : LossArguments}

private theorem comparedNumbers_plain {packet : OutstandingPacket} {largest current sequence : Nat}
    (plain : ∀ frame ∈ packet.packet.frames, isBufMetaFrame frame = false)
    (known : packet.nonDsrPacketSequenceNumber = some sequence)
    (done : comparedNumbers arguments packet = .ok (largest,current)) :
    current = sequence ∧ if arguments.largestDsrAcked.entries.isEmpty then
        arguments.largestNonDsrAcked = some largest
      else arguments.largestNonDsrAcked.getD packet.number = largest := by
  have data : comparedNumbers.nonDsr arguments packet = .ok (largest,current) := by
    unfold comparedNumbers at done
    split at done
    next frame head =>
      have here := plain (.stream frame) (List.mem_of_mem_head? head)
      rwa [if_neg (by rw [show frame.fromBufMeta = false from here]; nofun)] at done
    next => exact done
  unfold comparedNumbers.nonDsr at data
  rw [known,Option.getD_some] at data
  dsimp only at data
  split at data
  next empty =>
    split at data
    next => exact nomatch data
    next value same =>
      cases data
      exact ⟨rfl,(if_pos empty).mpr same⟩
  next filled =>
    cases data
    exact ⟨rfl,(if_neg filled).mpr rfl⟩

private theorem between_of_count {α : Type} {counts : α → Bool} {later later' earlier earlier' : List α}
    {here here' : α} (same : later' ++ here' :: earlier' = later ++ here :: earlier)
    (more : earlier.countP counts < earlier'.countP counts) :
    ∃ between, earlier' = between ++ here :: earlier := by
  rcases List.append_eq_append_iff.mp same with ⟨gap,rfl,rest⟩ | ⟨gap,rfl,rest⟩
  · cases gap with
    | nil =>
      rw [(List.cons.inj rest).2] at more
      exact absurd more (Nat.lt_irrefl _)
    | cons _ between => exact ⟨between,(List.cons.inj rest).2⟩
  · cases gap with
    | nil =>
      rw [(List.cons.inj rest).2] at more
      exact absurd more (Nat.lt_irrefl _)
    | cons _ between =>
      have whole : earlier = between ++ here' :: earlier' := (List.cons.inj rest).2
      rw [whole,List.countP_append,List.countP_cons] at more
      omega

private theorem Numbered.aligned {space : PacketNumberSpace} (numbered : Numbered first taken conn)
    (agree : (ackNumbers conn space).1 = (ackNumbers conn space).2.1) {packet : OutstandingPacket}
    (own : packet.space = space) (placed : Placed taken packet) :
    packet.isDSRPacket = false ∧ packet.nonDsrPacketSequenceNumber = some packet.number := by
  obtain ⟨⟨later,earlier,rfl,sequence⟩,-⟩ := placed
  have number : packet.number = first packet.space + earlier.countP (·.space == packet.space) :=
    numbered.consecutive.at
  rw [own] at number sequence
  have fewer (list : List TakenNumber) : list.countP (isSequenced space) ≤
      list.countP (·.space == space) :=
    List.countP_mono_left fun taken _ counts => (Bool.and_eq_true_iff.mp counts).1
  have laterFewer := fewer later
  have earlierFewer := fewer earlier
  have total : first space + (later ++ takenBy packet :: earlier).countP (·.space == space) =
      (later ++ takenBy packet :: earlier).countP (isSequenced space) :=
    (numbered.nextNumber space).symm.trans (agree.trans (numbered.sequence space))
  have mine : ((takenBy packet).space == space) = true := by simpa [takenBy] using own
  rw [List.countP_append,List.countP_append,List.countP_cons,List.countP_cons,if_pos mine] at total
  obtain ⟨begin,begins⟩ : ∃ begin : Nat, first space = begin := ⟨_,rfl⟩
  rw [begins] at number total
  have sum : begin + (later.countP (·.space == space) +
      (earlier.countP (·.space == space) + 1)) = later.countP (isSequenced space) +
        (earlier.countP (isSequenced space) + if isSequenced space (takenBy packet) then 1 else 0) := total
  cases dsr : packet.isDSRPacket with
  | true =>
    have unsequenced : isSequenced space (takenBy packet) = false := by
      simp [isSequenced,takenBy,dsr]
    rw [unsequenced] at sum
    simp only [Bool.false_eq_true,if_false] at sum
    omega
  | false =>
    have sequenced : isSequenced space (takenBy packet) = true := by
      simp [isSequenced,takenBy,dsr,own]
    rw [sequenced,if_pos rfl] at sum
    rw [dsr] at sequence
    have zero : begin = 0 := by omega
    have equal : earlier.countP (isSequenced space) = earlier.countP (·.space == space) := by omega
    refine ⟨rfl,sequence.trans (congrArg some ?_)⟩
    rw [number,equal,zero]
    exact (Nat.zero_add _).symm

/-- What a packet of the call is compared with is the sequence number of an acknowledged packet, unless
no packet can be behind it. -/
theorem SoundCall.compared (sound : SoundCall first taken call) (comparable : Comparable taken call)
    {packet : OutstandingPacket} {largest current : Nat}
    (same : ⟨arguments.largestDsrAcked,arguments.largestNonDsrAcked⟩ =
      LargestAcked.ofEvent call.largestAcked call.ackEvent)
    (chosen : if arguments.largestDsrAcked.entries.isEmpty then
        arguments.largestNonDsrAcked = some largest
      else arguments.largestNonDsrAcked.getD packet.number = largest) (above : current < largest) :
    ∃ acked, AckedIn call.conn.history call.pnSpace acked ∧ acked.isDSRPacket = false ∧
      acked.nonDsrPacketSequenceNumber = some largest := by
  rcases comparable.numbers with numbered | ⟨nothing,agree⟩
  · obtain ⟨number,is⟩ := Option.isSome_iff_exists.mp numbered
    have event : (LargestAcked.ofEvent call.largestAcked call.ackEvent).nonDsr = some number := by
      unfold LargestAcked.ofEvent
      dsimp only
      split
      · change Option.or (LargestAcked.acked call.ackEvent).nonDsr _ = _
        rw [is]
        rfl
      · exact is
    have used : arguments.largestNonDsrAcked = some number :=
      (congrArg LargestAcked.nonDsr same).trans event
    rw [used,Option.getD_some,Option.some.injEq,ite_self] at chosen
    subst chosen
    rcases acked_nonDsr is with initial | zero | ⟨acked,inside,equal⟩
    · exact nomatch initial
    · exact absurd above (by rw [zero]; exact Nat.not_lt_zero _)
    · obtain ⟨packet,known,sequence⟩ := sound.acked acked inside
      obtain ⟨⟨later,earlier,-,numberedAs⟩,-⟩ := sound.numbered.acked known
      rw [equal,sequence] at above ⊢
      cases dsr : packet.isDSRPacket with
      | true =>
        rw [dsr,if_pos rfl] at numberedAs
        rw [numberedAs] at above
        exact absurd above (Nat.not_lt_zero _)
      | false =>
        rw [dsr] at numberedAs
        refine ⟨packet,known,dsr,?_⟩
        rw [numberedAs]
        rfl
  · -- Nothing was newly acknowledged: the largest number the peer has acknowledged is compared with.
    have event : LargestAcked.ofEvent call.largestAcked call.ackEvent =
        ⟨∅,Option.or none call.largestAcked⟩ := by
      unfold LargestAcked.ofEvent
      rw [nothing]
      rfl
    rw [event,Option.none_or] at same
    have empty : arguments.largestDsrAcked = ∅ := congrArg LargestAcked.dsr same
    have used : arguments.largestNonDsrAcked = call.largestAcked := congrArg LargestAcked.nonDsr same
    rw [if_pos (by rw [empty]; rfl),used,sound.largest] at chosen
    obtain ⟨acked,known,number⟩ := sound.numbered.largest _ _ chosen
    obtain ⟨data,sequence⟩ := sound.numbered.aligned agree known.1 (sound.numbered.acked known)
    exact ⟨acked,known,data,sequence.trans (congrArg some number)⟩

private theorem mem_declared (keeps : VisitorKeepsRecords call.lossVisitor) {event : Option LossEvent}
    (done : call.result = .ok (next,event)) {packet : OutstandingPacket}
    (declared : packet ∈ call.declared next) :
    packet ∈ call.conn.outstandings.packets ∧ packet.declaredLost = false ∧
      packet.isDSRPacket = false ∧ ∃ after, after.declaredLost = true ∧
        after.metadata.lossReorderDistance.isSome ∧
          Examined call.pnSpace (LargestAcked.ofEvent call.largestAcked call.ackEvent)
            call.conn.lossState.reorderingThreshold packet after := by
  obtain ⟨⟨before,after⟩,inside,rfl⟩ := List.mem_map.mp declared
  obtain ⟨zipped,chosen⟩ := List.mem_filter.mp inside
  simp only [Bool.and_eq_true,Bool.not_eq_true'] at chosen
  obtain ⟨⟨⟨waiting,lost⟩,noted⟩,data⟩ := chosen
  have detects := detectLossPackets_detects keeps done
  exact ⟨(List.of_mem_zip zipped).1,waiting,data,after,lost,noted,
    (List.forall₂_iff_zip.mp detects.packets).2 zipped⟩

theorem SoundCall.farBehind (sound : SoundCall first taken call) (comparable : Comparable taken call)
    {event : Option LossEvent} (done : call.result = .ok (next,event)) :
    ∀ loss ∈ lossesOf taken call next, FarBehind loss := by
  intro loss inside
  obtain ⟨packet,declared,rfl⟩ := List.mem_map.mp inside
  obtain ⟨here,waiting,data,after,lost,noted,examined⟩ := mem_declared sound.keeps done declared
  rcases examined with rfl | ⟨arguments,space,same,judged⟩
  · exact absurd (waiting.symm.trans lost) nofun
  have outstanding := judged.waiting
  rw [space] at outstanding
  have own : packet.space = call.pnSpace := by
    simpa using (Bool.and_eq_true_iff.mp outstanding).2
  obtain ⟨⟨later,earlier,listed,sequence⟩,plain⟩ := sound.numbered.packets packet here
  rw [data] at sequence
  obtain ⟨largest,current,compared,distance⟩ := judged.compared
  have far : call.conn.lossState.reorderingThreshold < max largest current - current := by
    rcases distance with unnoted | far
    · rw [unnoted,sound.numbered.waiting packet here waiting] at noted
      exact nomatch noted
    · exact far
  obtain ⟨rfl,chosen⟩ := comparedNumbers_plain (plain data) sequence compared
  have above : earlier.countP (isSequenced packet.space) < largest := by
    generalize earlier.countP (isSequenced packet.space) = current at far
    omega
  obtain ⟨acked,known,ackedData,ackedSequence⟩ := sound.compared comparable same chosen above
  obtain ⟨⟨ackedLater,ackedEarlier,ackedListed,numberedAs⟩,-⟩ := sound.numbered.acked known
  rw [ackedData,known.1,← own,ackedSequence] at numberedAs
  have counted : largest = ackedEarlier.countP (isSequenced packet.space) := Option.some.inj numberedAs
  rw [counted] at above
  obtain ⟨between,rfl⟩ := between_of_count (ackedListed.symm.trans listed) above
  refine ⟨acked,ackedLater,between,earlier,own ▸ known,ackedData,?_,?_⟩
  · rw [ackedListed,takenBy,takenBy,ackedData,data,known.1,own]
    rfl
  · -- No number above the packet was skipped, so what counts in the sequence are packets.
    have whole : Consecutive first ((ackedLater ++ takenBy acked :: between) ++ takenBy packet :: earlier) := by
      rw [List.append_assoc,List.cons_append,← ackedListed]
      exact sound.numbered.consecutive
    have packets : between.countP (isData packet.space) = between.countP (isSequenced packet.space) := by
      refine List.countP_congr fun number member => ?_
      have inside : number ∈ ackedLater ++ takenBy acked :: between :=
        List.mem_append_right _ (List.mem_cons_of_mem _ member)
      have used : number.space = packet.space → number.use ≠ .skipped := by
        intro mine skipped
        have larger : packet.number < number.number := whole.larger number inside mine
        refine Nat.lt_asymm larger (comparable.unskipped packet here outstanding data number ?_
          (mine.trans own) skipped)
        rw [ackedListed]
        exact List.mem_append_right _ (List.mem_cons_of_mem _ (List.mem_append_left _ member))
      simp only [isData,isSequenced,Bool.and_eq_true,beq_iff_eq,bne_iff_ne]
      cases use : number.use with
      | data => simp
      | dsr => simp
      | skipped => simpa using fun mine => used mine use
    have sequenced : isSequenced packet.space (takenBy packet) = true := by
      simp [isSequenced,takenBy,data]
    rw [counted,List.countP_append,List.countP_cons_of_pos sequenced] at far
    dsimp only
    rw [packets]
    omega

end Calls

/-- Every search for losses of the step compares numbers of one kind. -/
def StepComparable (watch : Watch) (watched : WatchedAction) : Prop :=
  ∀ call, detection watch.conn (watched.settled watch.conn) = some call → Comparable watch.taken call

/-- Nothing has been sent and no sequence number given. -/
structure Begins (conn : QuicConnectionState) : Prop extends Fresh conn where
  sequence : ∀ space, (conn.ackStates space).nonDsrPacketSequenceNumber = 0
  unacked : ∀ space, (conn.ackStates space).largestAckedByPeer = none

theorem Begins.numbered (begins : Begins conn) :
    Numbered (fun space => (conn.ackStates space).nextPacketNum) [] conn where
  consecutive := trivial
  nextNumber space := rfl
  sequence space := begins.sequence space
  packets := by
    rw [begins.outstandings]
    exact List.forall_mem_nil _
  records := by
    rw [begins.history]
    exact List.forall_mem_nil _
  waiting := by
    rw [begins.outstandings]
    exact List.forall_mem_nil _
  largest space number is := by
    rw [ackNumbers,begins.unacked] at is
    cases is

/-- Along every run whose searches for losses compare numbers of one kind, whatever numbers the spaces
begin with, a packet that a step gives up because of the reordering threshold is that far behind a
packet the peer has acknowledged. The run is one of the transport. -/
theorem reordering_loss_sound {conn : QuicConnectionState} (begins : Begins conn)
    {actions : List WatchedAction} (met : StepsMeet watchStep StepComparable {conn} actions) :
    (∀ watch watched, Watch.conn <$> watchStep watch watched =
      packetStep watch.conn (watched.settled watch.conn)) ∧
      Throughout watchStep (fun watch => ∀ loss ∈ watch.losses, FarBehind loss) {conn} actions := by
  have keeps : ∀ watch watched next,
      Numbered (fun space => (conn.ackStates space).nextPacketNum) watch.taken watch.conn →
      (∀ loss ∈ watch.losses, FarBehind loss) → StepComparable watch watched →
      watchStep watch watched = .ok next →
        Numbered (fun space => (conn.ackStates space).nextPacketNum) next.taken next.conn ∧
          ∀ loss ∈ next.losses, FarBehind loss := by
    intro watch watched next numbered sound comparable taken
    have stepped := watchStep_conn watch watched
    rw [taken] at stepped
    obtain ⟨⟨after,found⟩,searched,rfl⟩ := map_ok taken
    refine ⟨packetStep_numbered numbered stepped.symm,fun loss inside => ?_⟩
    rcases List.mem_append.mp inside with new | old
    · cases found with
      | none => exact absurd new List.not_mem_nil
      | some found =>
        obtain ⟨called,event,done⟩ := searchingStep_found searched
        exact (detection_sound numbered called).farBehind (comparable _ called) done loss new
    · exact sound loss old
  exact ⟨watchStep_conn,throughout_of_stepsMeet keeps begins.numbered (List.forall_mem_nil _) met⟩

private def sendPing : WatchedAction :=
  ⟨.handle (.send pingPacket),List.forall_mem_singleton.mpr rfl⟩

private def ackOf (number : PacketNum) (time : TimePoint) : WatchedAction :=
  ⟨.handle (.ackFrame ⟨.appData,{largestAcked := number, ackBlocks := [⟨number,number⟩]},time,time⟩ {}),
    trivial⟩

private def impatientClient : QuicConnectionState :=
  {freshClient with lossState := {reorderingThreshold := 0}}

private def twoPings : List WatchedAction := [sendPing,sendPing,ackOf 1 1000]

private instance (watch : Watch) (watched : WatchedAction) : Decidable (StepComparable watch watched) :=
  have (call : DetectionCall) : Decidable (Comparable watch.taken call) :=
    decidable_of_iff' _ (comparable_iff watch.taken call)
  inferInstanceAs (Decidable (∀ call ∈ detection watch.conn (watched.settled watch.conn), _))

/-- Two pings, and an acknowledgement of the second: the first is given up. -/
theorem reordering_loss_sound_pings :
    ∃ watch, run watchStep {conn := impatientClient} twoPings = .ok watch ∧
      watch.losses.map (·.packet.number) = [0] ∧ ∀ loss ∈ watch.losses, FarBehind loss := by
  have begins : Begins impatientClient := ⟨⟨rfl,rfl,rfl,rfl⟩,fun _ => rfl,fun _ => rfl⟩
  have met : StepsMeet watchStep StepComparable {conn := impatientClient} twoPings := by
    decide +kernel
  obtain ⟨watch,ran,given⟩ : ∃ watch, run watchStep {conn := impatientClient} twoPings = .ok watch ∧
      watch.losses.map (·.packet.number) = [0] := ⟨_,rfl,rfl⟩
  exact ⟨watch,ran,given,throughout_iff_prefixes.mp (reordering_loss_sound begins met).2 _ []
    watch (List.append_nil _).symm ran⟩

private def fromTen : QuicConnectionState :=
  {freshClient with ackStates := fun _ => {nextPacketNum := 10}}

private theorem not_farBehind {loss : ReorderingLoss}
    (few : loss.taken.length ≤ loss.reorderingThreshold) : ¬FarBehind loss := by
  rintro ⟨acked,later,between,earlier,-,-,listed,far⟩
  have size := congrArg List.length listed
  have counted : between.countP (isData loss.packet.space) ≤ between.length := List.countP_le_length
  simp only [List.length_append,List.length_cons] at size
  omega

/-- Two pings with the numbers ten and eleven. The second is acknowledged twice, and the first is given
up although a single packet was sent after it. -/
theorem repeated_ack_reordering_loss :
    Begins fromTen ∧ ∃ watch, run watchStep {conn := fromTen}
        [sendPing,sendPing,ackOf 11 1000,ackOf 11 1500] = .ok watch ∧
      ∃ loss ∈ watch.losses, ¬FarBehind loss := by
  refine ⟨⟨⟨rfl,rfl,rfl,rfl⟩,fun _ => rfl,fun _ => rfl⟩,?_⟩
  obtain ⟨watch,ran,given⟩ : ∃ watch, run watchStep {conn := fromTen}
      [sendPing,sendPing,ackOf 11 1000,ackOf 11 1500] = .ok watch ∧
        watch.losses.map (fun loss => (loss.taken.length,loss.reorderingThreshold)) = [(2,3)] :=
    ⟨_,rfl,rfl⟩
  have inside : (2,3) ∈ watch.losses.map fun loss => (loss.taken.length,loss.reorderingThreshold) := by
    rw [given]
    exact List.mem_singleton_self _
  obtain ⟨loss,member,same⟩ := List.mem_map.mp inside
  obtain ⟨taken,threshold⟩ := Prod.mk.inj same
  exact ⟨watch,ran,loss,member,not_farBehind (by omega)⟩

end StreamServer.Loss
