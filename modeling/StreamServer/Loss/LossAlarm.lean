import StreamServer.Congestion.Aside
import StreamServer.Loss.PacketRuns

/-! The loss detection alarm. Reads and writes end by setting it, from a flag that sending and
acknowledging raise; when it fires, packets are declared lost or probes are asked for. A packet
the transport still waits for has its timer, unless it carries nothing but pings. -/
namespace StreamServer.Loss
open Protocol State Congestion Api Lib.Transition Lib.SortedList

variable {packetEvent : Option PacketEvent} {sentTime : TimePoint} {conn next : QuicConnectionState}
  {packet : OutstandingPacket} {start : Books} {scheduled isDSRPacket : Bool}
  {header : PacketHeader} {frames : List QuicWriteFrame}

def ceilMilliseconds (nanoseconds : Int) : Int := -(-nanoseconds / 1000000)

/-- The time of the earliest loss timer counts from the last packet sent; without one it is the
probe timeout, doubled with each probe. -/
def alarmDurationAndMethod (conn : QuicConnectionState) : Microseconds × AlarmMethod :=
  let lastSentPacketTime := conn.lossState.lastRetransmittablePacketSentTime
  match (earliestLossTimer conn).1 with
  | some lossTime =>
    (if lossTime > lastSentPacketTime then (lossTime - lastSentPacketTime).tdiv 1000 else 0,
      .earlyRetransmitOrReordering)
  | none => (calculatePTO conn * 2^(min conn.lossState.ptoCount 31),.pto)

def calculateAlarmDuration (conn : QuicConnectionState) (now : TimePoint) : Int × AlarmMethod :=
  let (alarmDuration,alarmMethod) := alarmDurationAndMethod conn
  let deadline := conn.lossState.lastRetransmittablePacketSentTime + alarmDuration * 1000
  (if deadline > now then ceilMilliseconds (deadline - now) else 0,alarmMethod)

def numClonedPackets (outstandings : OutstandingsInfo) : Nat :=
  outstandings.clonedPacketCount .initial + outstandings.clonedPacketCount .handshake +
    outstandings.clonedPacketCount .appData

/-- The connection and the milliseconds the loss timeout was scheduled for. -/
structure AlarmState where
  conn : QuicConnectionState
  lossTimeout : Option Int := none

def setLossDetectionAlarm (state : AlarmState) (hasDataToWrite : Bool) (now : TimePoint) :
    AlarmState :=
  let conn := state.conn
  let lowered := {conn.pendingEvents with setLossDetectionAlarm := false}
  if !hasDataToWrite && conn.outstandings.packetEvents = ∅ &&
      conn.outstandings.numOutstanding == numClonedPackets conn.outstandings then
    {conn := {conn with pendingEvents := lowered}, lossTimeout := none}
  else
    let lossTimeout := if conn.lossState.currentAlarmMethod = .earlyRetransmitOrReordering &&
      (earliestLossTimer conn).1.isNone then none else state.lossTimeout
    if !conn.pendingEvents.setLossDetectionAlarm then {conn, lossTimeout}
    else
      let (alarmDuration,alarmMethod) := calculateAlarmDuration conn now
      {conn := {conn with
        lossState := {conn.lossState with currentAlarmMethod := alarmMethod}
        pendingEvents := lowered}, lossTimeout := some alarmDuration}

/-- A read or a write, or the loss timeout, after which the transport writes. -/
inductive AlarmAction where
  | handler (actions : List HandlerAction) (hasDataToWrite : Bool) (now : TimePoint)
  | lossTimeoutExpired (now : TimePoint) (readings : Readings)

def alarmStep (state : AlarmState) : AlarmAction → Except Error AlarmState
  | .handler actions hasDataToWrite now => do
    let conn ← run handlerStep state.conn actions
    return setLossDetectionAlarm {state with conn} hasDataToWrite now
  | .lossTimeoutExpired now readings =>
    if state.lossTimeout.isSome then do
      let conn ← onLossDetectionAlarm state.conn markPacketLoss now readings
      return {conn, lossTimeout := none}
    else .ok state

def retransmittable : QuicWriteFrame → Bool
  | .ack _ | .padding _ | .datagram _ _ | .ping => false
  | _ => true

/-- The transport waits for the packet, or for another of its family. -/
def awaited (outstandings : OutstandingsInfo) (packet : OutstandingPacket) : Bool :=
  !packet.declaredLost && outstandings.needsProcess packet

def retransmitted (packet : OutstandingPacket) : Bool := packet.packet.frames.any retransmittable

def lossTimerSet (books : Books) : Bool :=
  (earliestTimeAndSpace books.lossTimes books.oneRttWriteCipher).1.isSome

private theorem onFrameSent_retransmittable {sent next : FramesSent} {frame : QuicWriteFrame}
    (ended : onFrameSent packetEvent header sentTime sent frame = .ok next) :
    next.retransmittable = (sent.retransmittable || retransmittable frame) := by
  cases frame with
  | stream frame =>
    simp only [onFrameSent,onStreamFrameSent] at ended
    split at ended
    · cases ended
    · obtain ⟨_,_,ended⟩ := bind_ok.mp ended
      obtain ⟨_,_,ended⟩ := bind_ok.mp ended
      cases ended
      simp [retransmittable]
  | crypto frame =>
    obtain ⟨_,_,ended⟩ := bind_ok.mp ended
    cases ended
    simp [retransmittable]
  | ack frame =>
    simp only [onFrameSent,onAckFrameSent] at ended
    split at ended
    · cases ended
    · cases ended
      simp [retransmittable]
  | maxStreamData streamId maximumData =>
    simp only [onFrameSent,onMaxStreamDataSent] at ended
    split at ended
    · cases ended
    · cases ended
      simp [retransmittable]
  | simple frame =>
    simp only [onFrameSent,onSimpleFrameSent] at ended
    split at ended
    · obtain ⟨_,_,ended⟩ := bind_ok.mp ended
      cases ended
      simp [retransmittable]
    · cases ended
      simp [retransmittable]
  | _ =>
    cases ended
    simp [retransmittable]

private theorem framesSent_retransmittable {sent next : FramesSent}
    (ended : frames.foldlM (onFrameSent packetEvent header sentTime) sent = .ok next) :
    next.retransmittable = (sent.retransmittable || frames.any retransmittable) := by
  induction frames generalizing sent with
  | nil =>
    cases ended
    simp
  | cons frame rest ih =>
    rw [List.foldlM_cons] at ended
    obtain ⟨middle,first,ended⟩ := bind_ok.mp ended
    rw [ih ended,onFrameSent_retransmittable first,List.any_cons,Bool.or_assoc]

/-- What sending a packet changes, as far as it concerns the alarm. -/
structure SendEffect (start : Books) (frames : List QuicWriteFrame) (next : Books) : Prop where
  alarm : next.setLossDetectionAlarm = (start.setLossDetectionAlarm || frames.any retransmittable)
  method : next.currentAlarmMethod = start.currentAlarmMethod
  lossTimes : next.lossTimes = start.lossTimes
  cipher : next.oneRttWriteCipher = start.oneRttWriteCipher
  events : next.outstandings.packetEvents = start.outstandings.packetEvents
  packets : ∀ packet ∈ next.outstandings.packets,
    packet ∈ start.outstandings.packets ∨ packet.packet.frames = frames

private theorem updateConnection_effect {packet : RegularQuicWritePacket}
    {encodedSize encodedBodySize : UInt32}
    (ended : updateConnection conn packetEvent packet sentTime encodedSize encodedBodySize
      isDSRPacket = .ok next) : SendEffect conn.books packet.frames next.books := by
  obtain ⟨sent,frames,ended⟩ := bind_ok.mp ended
  have same := (framesSent_books _ _ _ _ _).ok frames
  have raised := framesSent_retransmittable frames
  simp only [Bool.false_or] at raised
  have outstandings : sent.conn.outstandings = conn.outstandings := congrArg Books.outstandings same
  have counted : SendEffect conn.books packet.frames
      (countSent sent packet.header.getPacketSequenceNum sentTime encodedSize.toNat
        encodedBodySize.toNat).books := by
    refine ⟨?_,(congrArg Books.currentAlarmMethod same :),(congrArg Books.lossTimes same :),
      (congrArg Books.oneRttWriteCipher same :),congrArg OutstandingsInfo.packetEvents outstandings,
      fun packet inside => .inl (outstandings ▸ inside : packet ∈ conn.outstandings.packets)⟩
    rw [← raised]
    exact congrArg (fun books => books.setLossDetectionAlarm || sent.retransmittable) same
  dsimp only at ended
  split at ended
  · cases ended
    exact {counted with}
  · obtain ⟨_,_,_,_,_,rfl⟩ := (onPacketSent_within ..).ok ended
    refine {counted with packets := fun other inside => ?_}
    rcases mem_insertion.mp inside with rfl | earlier
    · exact .inr rfl
    · exact counted.packets other earlier

private theorem earlier_isSome (times : PacketNumberSpace → Option TimePoint)
    (spaces : List PacketNumberSpace) (earliest : Option TimePoint × PacketNumberSpace) :
    (spaces.foldl (earlier times) earliest).1.isSome ↔
      earliest.1.isSome ∨ ∃ space ∈ spaces, (times space).isSome := by
  induction spaces generalizing earliest with
  | nil => simp
  | cons space rest ih =>
    rw [List.foldl_cons,ih]
    cases time : times space with
    | none => simp [earlier,time]
    | some value =>
      have set : (earlier times earliest space).1.isSome := by
        simp only [earlier,time]
        split
        · rfl
        · next later =>
          cases first : earliest.1 with
          | none => simp [first] at later
          | some _ => rfl
      simp [set,time]

/-- The keys for application data only add a timer to choose from. -/
private theorem lossTimerSet_mono {next : Books} (lossTimes : next.lossTimes = start.lossTimes)
    (cipher : start.oneRttWriteCipher = true → next.oneRttWriteCipher = true)
    (set : lossTimerSet start = true) : lossTimerSet next = true := by
  unfold lossTimerSet earliestTimeAndSpace at set ⊢
  rw [earlier_isSome] at set ⊢
  rw [lossTimes]
  obtain impossible | ⟨space,inside,time⟩ := set
  · exact .inl impossible
  · refine .inr ⟨space,?_,time⟩
    cases before : start.oneRttWriteCipher with
    | true =>
      rw [before] at inside
      rw [cipher before]
      exact inside
    | false =>
      rw [before] at inside
      have early : space ∈ [PacketNumberSpace.initial,.handshake] := inside
      cases next.oneRttWriteCipher with
      | false => exact early
      | true => exact List.mem_append_left [.appData] early

/-- Unless the flag is raised, whoever is waited for has a timer that may fire. -/
def Promised (books : Books) (scheduled : Bool) : Prop :=
  books.setLossDetectionAlarm = false → ∀ packet ∈ books.outstandings.packets,
    awaited books.outstandings packet → retransmitted packet →
      scheduled = true ∧
        (books.currentAlarmMethod = .earlyRetransmitOrReordering → lossTimerSet books = true)

/-- A step after which the flag is down either leaves nobody to wait for, or adds nobody and
leaves the timers alone. -/
structure Quiet (start next : Books) : Prop where
  alarm : start.setLossDetectionAlarm = false
  method : next.currentAlarmMethod = start.currentAlarmMethod
  lossTimes : next.lossTimes = start.lossTimes
  cipher : start.oneRttWriteCipher = true → next.oneRttWriteCipher = true
  packets : ∀ packet ∈ next.outstandings.packets, awaited next.outstandings packet →
    retransmitted packet → ∃ earlier ∈ start.outstandings.packets,
      awaited start.outstandings earlier ∧ retransmitted earlier

theorem Promised.step {next : Books} (promised : Promised start scheduled)
    (quiet : next.setLossDetectionAlarm = false → Quiet start next) : Promised next scheduled := by
  intro down packet inside waits frames
  have quiet := quiet down
  obtain ⟨earlier,there,waited,retransmits⟩ := quiet.packets packet inside waits frames
  obtain ⟨runs,set⟩ := promised quiet.alarm earlier there waited retransmits
  refine ⟨runs,fun method => ?_⟩
  exact lossTimerSet_mono quiet.lossTimes quiet.cipher (set (quiet.method.symm.trans method))

private theorem anyWaiting_of_awaited {outstandings : OutstandingsInfo}
    (inside : packet ∈ outstandings.packets) (waits : awaited outstandings packet) :
    anyWaiting outstandings = true := by
  simp only [awaited,Bool.and_eq_true] at waits
  simp only [anyWaiting,decide_eq_true_eq,waitingCount,Bool.and_true]
  exact List.countP_pos_iff.mpr ⟨packet,inside,waits.1⟩

theorem promised_of_anyWaiting {books : Books}
    (flag : anyWaiting books.outstandings = true → books.setLossDetectionAlarm = true) :
    Promised books scheduled := by
  intro down packet inside waits _
  rw [flag (anyWaiting_of_awaited inside waits)] at down
  exact nomatch down

theorem SendEffect.quiet {next : Books} (effect : SendEffect start frames next)
    (down : next.setLossDetectionAlarm = false) :
    Quiet start next := by
  have flags := effect.alarm.symm.trans down
  rw [Bool.or_eq_false_iff] at flags
  refine ⟨flags.1,effect.method,effect.lossTimes,fun cipher => effect.cipher.trans cipher,
    fun packet inside waits retransmits => ?_⟩
  rcases effect.packets packet inside with earlier | same
  · refine ⟨packet,earlier,?_,retransmits⟩
    unfold awaited OutstandingsInfo.needsProcess at waits ⊢
    rw [effect.events] at waits
    exact waits
  · unfold retransmitted at retransmits
    rw [same,flags.2] at retransmits
    exact nomatch retransmits

private theorem awaited_mono {first second : OutstandingsInfo}
    (fewer : second.packetEvents ⊆ first.packetEvents) (waits : awaited second packet) :
    awaited first packet := by
  simp only [awaited,OutstandingsInfo.needsProcess,Bool.and_eq_true,Option.all_eq_true,
    decide_eq_true_eq] at waits ⊢
  exact ⟨waits.1,fun event known => fewer (waits.2 event known)⟩

private theorem Move.awaited {first second : Ledger} (move : Move first second)
    (packet : OutstandingPacket) (inside : packet ∈ second.outstandings.packets)
    (waits : Loss.awaited second.outstandings packet) :
    packet ∈ first.outstandings.packets ∧ Loss.awaited first.outstandings packet := by
  have removed : ∀ {before after : List OutstandingPacket} {gone : OutstandingPacket},
      first.outstandings.packets = before ++ gone :: after → packet ∈ before ++ after →
        packet ∈ first.outstandings.packets := by
    intro before after gone found there
    rw [found]
    simp only [List.mem_append,List.mem_cons] at there ⊢
    tauto
  cases move with
  | acked found _ | dropped found _ _ =>
    exact ⟨removed found inside,awaited_mono (release_packetEvents_subset _ _) waits⟩
  | ackedAfterLoss found _ | cleared found _ => exact ⟨removed found inside,waits⟩
  | settled => exact ⟨inside,waits⟩
  | lost found _ marks _ =>
    refine ⟨?_,awaited_mono ?_ waits⟩
    · rcases List.mem_append.mp inside with before | here
      · exact removed found (List.mem_append_left _ before)
      · rcases List.mem_cons.mp here with rfl | after
        · simp [Loss.awaited,marks] at waits
        · exact removed found (List.mem_append_right _ after)
    · unfold noteLost
      dsimp only
      split
      · exact (release_packetEvents_subset _ _).trans (Finset.Subset.refl _)
      · exact release_packetEvents_subset _ _

private theorem Moves.awaited {first second : Ledger} (moves : Moves first second)
    (packet : OutstandingPacket) (inside : packet ∈ second.outstandings.packets)
    (waits : Loss.awaited second.outstandings packet) :
    packet ∈ first.outstandings.packets ∧ Loss.awaited first.outstandings packet := by
  induction moves with
  | refl => exact ⟨inside,waits⟩
  | tail _ move ih =>
    obtain ⟨earlier,waited⟩ := move.awaited packet inside waits
    exact ih earlier waited

theorem Dropped.quiet (dropped : Dropped conn next)
    (handled : Handled conn.books next.books)
    (down : next.books.setLossDetectionAlarm = false) : Quiet conn.books next.books where
  alarm := dropped.alarm.symm.trans down
  method := handled.method
  lossTimes := dropped.lossTimes
  cipher cipher := handled.cipher.trans cipher
  packets packet inside waits retransmits := by
    obtain ⟨ledger,moves,same⟩ := dropped.moves
    have here : packet ∈ ledger.outstandings.packets := same ▸ inside
    have waited : Loss.awaited ledger.outstandings packet := same ▸ waits
    obtain ⟨earlier,waitedEarlier⟩ := Moves.awaited moves packet here waited
    exact ⟨packet,earlier,waitedEarlier,retransmits⟩

private theorem sendPacket_promised (promised : Promised conn.books scheduled) {packet : SentPacket}
    (ended : sendPacket conn packetEvent packet isDSRPacket = .ok next) :
    Promised next.books scheduled :=
  promised.step fun down => (updateConnection_effect ended).quiet down

private theorem prepared_quiet (kept : Kept conn.books) {before after : List OutstandingPacket}
    (found : conn.outstandings.packets = before ++ packet :: after)
    (alone : packet.associatedEvent = none)
    (down : conn.books.setLossDetectionAlarm = false) :
    Quiet conn.books (QuicConnectionState.books {conn with
      outstandings := cloneTagged conn.outstandings packet before after}) := by
  refine ⟨down,rfl,rfl,id,fun other inside waits retransmits => ?_⟩
  have original := kept.sound.ordered.original (tag packet)
    (List.mem_map_of_mem (found ▸ List.mem_append_right _ (List.mem_cons_self ..))) alone
  simp only [awaited,OutstandingsInfo.needsProcess,Bool.and_eq_true,Option.all_eq_true,
    decide_eq_true_eq] at waits
  obtain ⟨alive,pending⟩ := waits
  by_cases same : other = tagged packet
  · subst same
    refine ⟨packet,found ▸ List.mem_append_right _ (List.mem_cons_self ..),?_,retransmits⟩
    simp only [awaited,OutstandingsInfo.needsProcess,alone,Option.all_none,Bool.and_true]
    exact alive
  · have there : other ∈ conn.outstandings.packets := by
      rw [found]
      have inside : other ∈ before ++ tagged packet :: after := inside
      simp only [List.mem_append,List.mem_cons] at inside ⊢
      tauto
    refine ⟨other,there,?_,retransmits⟩
    simp only [awaited,OutstandingsInfo.needsProcess,Bool.and_eq_true,Option.all_eq_true,
      decide_eq_true_eq]
    refine ⟨alive,fun event known => ?_⟩
    rcases Finset.mem_insert.mp (pending event known) with rfl | present
    · exact absurd known (original.2 (tag other) (List.mem_map_of_mem there))
    · exact present

private theorem clonePacket_promised (kept : Kept conn.books)
    (promised : Promised conn.books scheduled) {index writableBytes cipherOverhead : Nat}
    {packet : SentPacket} {written : Bool}
    (ended : clonePacket conn index packet writableBytes cipherOverhead written = .ok next) :
    Promised next.books scheduled := by
  obtain same | ⟨event,prepared,prepares,same⟩ := clonePacket_cases
  · cases ended.symm.trans same
    exact promised
  · obtain ⟨preparedKept,preparedPromised⟩ : Kept prepared.books ∧
        Promised prepared.books scheduled := by
      cases prepares with
      | tagged found alone waiting _ =>
        exact ⟨prepared_kept kept found alone waiting,
          promised.step fun down => prepared_quiet kept found alone down⟩
      | known => exact ⟨kept,promised⟩
    rw [same] at ended
    split at ended
    · exact sendPacket_promised preparedPromised ended
    · cases ended
      exact preparedPromised

theorem handlerStep_promised (kept : Kept conn.books)
    (promised : Promised conn.books scheduled) {action : HandlerAction}
    (ended : handlerStep conn action = .ok next) : Promised next.books scheduled := by
  cases action with
  | send packet | sendDsr header packet => exact sendPacket_promised promised ended
  | clone index packet writableBytes cipherOverhead written =>
    exact clonePacket_promised kept promised ended
  | skipNumber space =>
    cases ended
    exact promised
  | ackFrame arguments readings =>
    obtain ⟨⟨acked,_⟩,processed,ended⟩ := bind_ok.mp ended
    cases ended
    have flag := ((processAckFrame_handled kept (clientAckVisitor_books arguments.pnSpace)
      markPacketLoss_keepsBooks arguments readings).ok processed).2
    exact promised_of_anyWaiting fun waiting => flag.trans waiting
  | clear time space =>
    cases ended
    obtain ⟨books,moves⟩ := clearOldOutstandingPackets_moves conn time space 0 0
    obtain ⟨handled,_,alarm⟩ := clearOldOutstandingPackets_handled time space kept
    have dropped : Dropped conn (clearOldOutstandingPackets conn time space) :=
      ⟨⟨_,moves,rfl⟩,alarm,(congrArg Books.lossTimes books).trans rfl⟩
    exact promised.step fun down => dropped.quiet handled down
  | implicitAck level now nowTime readings =>
    obtain ⟨_,same | flag⟩ := (implicitAckCryptoStream_handled kept level now nowTime readings).ok ended
    · rw [same]
      exact promised
    · exact promised_of_anyWaiting fun waiting => flag.trans waiting
  | zeroRttRejected now =>
    obtain ⟨handled,dropped⟩ :=
      (markZeroRttPacketsLost_handled kept markPacketLoss_keepsBooks now).ok ended
    exact promised.step fun down => dropped.quiet handled down
  | elsewhere other =>
    cases ended
    exact promised.step fun down => ⟨down,rfl,rfl,fun cipher => by
      change (conn.oneRttWriteCipher || other.oneRttWriteCipher) = true
      rw [show conn.oneRttWriteCipher = true from cipher,Bool.true_or],
      fun packet inside waits retransmits => ⟨packet,inside,waits,retransmits⟩⟩

private theorem waitingCount_split (packets : List OutstandingPacket) :
    waitingCount (fun _ => true) packets = waitingCount (isCloned .initial) packets +
      waitingCount (isCloned .handshake) packets + waitingCount (isCloned .appData) packets +
        waitingCount (·.event.isNone) packets := by
  induction packets with
  | nil => rfl
  | cons packet rest ih =>
    simp only [waitingCount] at ih
    simp only [waitingCount,List.countP_cons,ih]
    cases packet.declaredLost <;> cases space : packet.space <;>
      cases event : packet.associatedEvent <;> simp [isCloned,tag,space,event] <;> omega

/-- With only processed clones left there is nobody to wait for. -/
private theorem not_awaited (kept : Kept conn.books)
    (none : conn.outstandings.packetEvents = ∅)
    (clones : conn.outstandings.numOutstanding = numClonedPackets conn.outstandings)
    (inside : packet ∈ conn.outstandings.packets) :
    awaited conn.outstandings packet = false := by
  by_contra waits
  simp only [Bool.not_eq_false,awaited,OutstandingsInfo.needsProcess,none,Finset.notMem_empty,
    Bool.and_eq_true,Option.all_eq_true,decide_eq_true_eq] at waits
  obtain ⟨alive,pending⟩ := waits
  have alone : packet.associatedEvent = Option.none :=
    Option.eq_none_iff_forall_not_mem.mpr fun event known => pending event known
  have counted := kept.sound.counted
  have total := (numOutstanding_eq counted).symm.trans clones
  have cloned := counted.families.cloned
  simp only [restingLedger,QuicConnectionState.books] at total cloned
  simp only [numClonedPackets,cloned] at total
  rw [waitingCount_split] at total
  have here : 0 < waitingCount (·.event.isNone) conn.outstandings.packets :=
    List.countP_pos_iff.mpr ⟨packet,inside,by
      simp only [tag,alone,Option.isNone_none,Bool.and_true]
      exact alive⟩
  omega

structure Alarmed (state : AlarmState) : Prop where
  kept : Kept state.conn.books
  promised : Promised state.conn.books state.lossTimeout.isSome
  timer : state.lossTimeout.isSome → state.conn.lossState.currentAlarmMethod =
    .earlyRetransmitOrReordering → (earliestLossTimer state.conn).1.isSome

def AlarmRuns (state : AlarmState) : Prop :=
  ∀ packet ∈ state.conn.outstandings.packets, awaited state.conn.outstandings packet →
    retransmitted packet → state.lossTimeout.isSome

private theorem method_of_timer (conn : QuicConnectionState) (now : TimePoint)
    (method : (calculateAlarmDuration conn now).2 = .earlyRetransmitOrReordering) :
    (earliestLossTimer conn).1.isSome := by
  cases timer : (earliestLossTimer conn).1 with
  | some time => rfl
  | none =>
    simp only [calculateAlarmDuration,alarmDurationAndMethod,timer] at method
    exact nomatch method

theorem setLossDetectionAlarm_alarmed {state : AlarmState} (kept : Kept state.conn.books)
    (promised : Promised state.conn.books state.lossTimeout.isSome) (hasDataToWrite : Bool)
    (now : TimePoint) :
    Alarmed (setLossDetectionAlarm state hasDataToWrite now) ∧
      AlarmRuns (setLossDetectionAlarm state hasDataToWrite now) := by
  unfold setLossDetectionAlarm
  dsimp only
  split
  · next idle =>
    simp only [Bool.and_eq_true,decide_eq_true_eq,beq_iff_eq] at idle
    obtain ⟨⟨_,none⟩,clones⟩ := idle
    have nobody : ∀ packet ∈ state.conn.outstandings.packets,
        awaited state.conn.outstandings packet → False := fun packet inside waits => by
      rw [not_awaited kept none clones inside] at waits
      exact nomatch waits
    exact ⟨⟨{kept with},
      fun _ packet inside waits _ => (nobody packet inside waits).elim,nofun⟩,
      fun packet inside waits _ => (nobody packet inside waits).elim⟩
  · split
    · next down =>
      simp only [Bool.not_eq_true'] at down
      have expected := promised down
      by_cases stale : (state.conn.lossState.currentAlarmMethod = .earlyRetransmitOrReordering &&
          (earliestLossTimer state.conn).1.isNone) = true
      · rw [if_pos stale]
        simp only [Bool.and_eq_true,decide_eq_true_eq,Option.isNone_iff_eq_none] at stale
        have nobody : ∀ packet ∈ state.conn.outstandings.packets,
            awaited state.conn.outstandings packet → retransmitted packet → False := by
          intro packet inside waits retransmits
          have set : (earliestLossTimer state.conn).1.isSome :=
            (expected packet inside waits retransmits).2 stale.1
          rw [stale.2] at set
          exact nomatch set
        exact ⟨⟨kept,fun _ packet inside waits retransmits =>
          (nobody packet inside waits retransmits).elim,nofun⟩,
          fun packet inside waits retransmits => (nobody packet inside waits retransmits).elim⟩
      · rw [if_neg stale]
        refine ⟨⟨kept,promised,fun _ method => ?_⟩,fun packet inside waits retransmits =>
          (expected packet inside waits retransmits).1⟩
        simpa [show state.conn.lossState.currentAlarmMethod = _ from method,
          Option.isSome_iff_ne_none] using stale
    · refine ⟨⟨{kept with},fun _ packet inside waits _ => ?_,
        fun _ method => ?_⟩,fun _ _ _ _ => rfl⟩
      · exact ⟨rfl,fun method => method_of_timer state.conn now method⟩
      · exact method_of_timer state.conn now method

private theorem handlers_promised {last : QuicConnectionState} {actions : List HandlerAction}
    (kept : Kept conn.books) (promised : Promised conn.books scheduled)
    (ran : run handlerStep conn actions = .ok last) :
    Kept last.books ∧ Promised last.books scheduled := by
  refine @run_preserves _ _ _ _ (fun conn => Kept conn.books ∧ Promised conn.books scheduled) _ _
    (fun _ action _ holds taken => ?_) _ ⟨kept,promised⟩ ran
  exact ⟨((handlerStep_kept holds.1 action).ok taken).1,handlerStep_promised holds.1 holds.2 taken⟩

theorem alarmStep_alarmed {state next : AlarmState} (alarmed : Alarmed state) {action : AlarmAction}
    (ended : alarmStep state action = .ok next) : Alarmed next := by
  cases action with
  | handler actions hasDataToWrite now =>
    obtain ⟨conn,ran,ended⟩ := bind_ok.mp ended
    cases ended
    obtain ⟨kept,promised⟩ := handlers_promised alarmed.kept alarmed.promised ran
    exact (setLossDetectionAlarm_alarmed kept promised hasDataToWrite now).1
  | lossTimeoutExpired now readings =>
    unfold alarmStep at ended
    dsimp only at ended
    split at ended
    · obtain ⟨conn,fired,ended⟩ := bind_ok.mp ended
      cases ended
      obtain ⟨handled,flag⟩ := (onLossDetectionAlarm_handled alarmed.kept
        markPacketLoss_keepsBooks now readings).ok fired
      exact ⟨handled.kept,promised_of_anyWaiting flag,nofun⟩
    · cases ended
      exact alarmed

/-- After every read and every write, a packet that is waited for and carries more than pings has
a timer running, and a timer that may fire for a loss time always has one. -/
theorem lossAlarm_present {conn : QuicConnectionState} (fresh : Fresh conn)
    (actions : List AlarmAction) :
    (∀ handlerActions hasDataToWrite now last,
      run alarmStep {conn} (actions ++ [.handler handlerActions hasDataToWrite now]) = .ok last →
        AlarmRuns last) ∧
    ∀ last, run alarmStep {conn} actions = .ok last → last.lossTimeout.isSome →
      last.conn.lossState.currentAlarmMethod = .earlyRetransmitOrReordering →
        (earliestLossTimer last.conn).1.isSome := by
  have initial : Alarmed {conn} := by
    refine ⟨fresh.kept,fun _ packet inside => ?_,nofun⟩
    have none : packet ∈ conn.outstandings.packets := inside
    rw [fresh.outstandings] at none
    exact nomatch none
  have reached : ∀ {last}, run alarmStep {conn} actions = .ok last → Alarmed last :=
    run_preserves (fun _ _ _ alarmed taken => alarmStep_alarmed alarmed taken) initial
  refine ⟨fun handlerActions hasDataToWrite now last ran => ?_,fun last ran => (reached ran).timer⟩
  obtain ⟨middle,before,after⟩ := run_append.mp ran
  obtain ⟨next,taken,ended⟩ := run_cons.mp after
  cases ended
  obtain ⟨done,ranHandler,ended⟩ := bind_ok.mp taken
  cases ended
  obtain ⟨kept,promised⟩ := handlers_promised (reached before).kept (reached before).promised ranHandler
  exact (setLossDetectionAlarm_alarmed kept promised hasDataToWrite now).2

private def resetPacket (number : PacketNum) (header : PacketHeader) : HandlerAction :=
  .send {pingPacket with header, frames := [.rstStream ⟨number,0,0⟩]}

/-- Three packets of two spaces; the timer fires before the first acknowledgement. -/
private def threeResets : List AlarmAction :=
  [.handler [resetPacket 0 (.long ⟨.initial,.empty,.empty,0,1,[]⟩),
     resetPacket 4 (.short ⟨.zero,.empty,0⟩)] true 0,
   .handler [resetPacket 8 (.short ⟨.zero,.empty,1⟩)] false 1000,
   .lossTimeoutExpired 1000000000 {}]

private def firstAcked : List HandlerAction :=
  [.ackFrame ⟨.appData,{largestAcked := 0, ackBlocks := [⟨0,0⟩]},1000001000,1000001000⟩ {}]

theorem lossAlarm_present_resets :
    ∃ last, run alarmStep {conn := freshClient} (threeResets ++ [.handler firstAcked false 1000001000]) =
        .ok last ∧
      last.conn.outstandings.packets.countP (awaited last.conn.outstandings) = 2 ∧ AlarmRuns last := by
  obtain ⟨last,ran,waits⟩ : ∃ last, run alarmStep {conn := freshClient}
      (threeResets ++ [.handler firstAcked false 1000001000]) = .ok last ∧
        last.conn.outstandings.packets.countP (awaited last.conn.outstandings) = 2 := ⟨_,rfl,by decide⟩
  exact ⟨last,ran,waits,(lossAlarm_present freshClient_fresh threeResets).1 _ _ _ last ran⟩

/-- A packet with a ping alone is waited for and starts no timer. -/
theorem ping_without_alarm :
    ∃ last, run alarmStep {conn := freshClient} [.handler [.send pingPacket] false 0] = .ok last ∧
      (∃ packet ∈ last.conn.outstandings.packets, packet.declaredLost = false ∧
        packet.associatedEvent = none) ∧ last.lossTimeout = none :=
  ⟨_,rfl,⟨_,List.mem_cons_self ..,rfl,rfl⟩,rfl⟩

end StreamServer.Loss
