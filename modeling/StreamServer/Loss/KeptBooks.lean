import StreamServer.Loss.Handlers

/-! The invariant of the books and that every handler of an acknowledgement or a loss keeps it:
the counters are right, every family is processed once, and what is in flight are the packets
that are not declared lost. -/
namespace StreamServer.Loss
open Protocol State Congestion Lib.Outcome

variable {start : Books} {conn : QuicConnectionState} {readings : Readings} {ack : AckEvent}
  {lossVisitor : LossVisitor}

structure Sound (next : PacketNumberSpace → PacketNum) (ledger : Ledger) : Prop where
  ordered : ledger.Ordered next
  counted : Counted ledger
  families : Families next ledger

theorem Moves.sound {next : PacketNumberSpace → PacketNum} {ledger moved : Ledger}
    (moves : Moves ledger moved) (sound : Sound next ledger) :
    Sound next moved ∧ moved.flight = ledger.flight := by
  induction moves with
  | refl => exact ⟨sound,rfl⟩
  | tail _ move ih =>
    obtain ⟨middle,flight⟩ := ih
    exact ⟨⟨move.ordered middle.ordered,move.counted middle.ordered middle.counted,
      move.families middle.ordered middle.families⟩,move.flight.trans flight⟩

structure Kept (books : Books) : Prop where
  sound : Sound books.nextPacketNum (restingLedger books)
  flight : books.congestionController.isSome →
    books.inflightBytes = flightBytes books.outstandings.packets
  bound : books.congestionController.isSome → books.inflightBytes < 2^64
  log : ∀ pair ∈ books.inflightSubtractions, pair.2 ≤ pair.1

/-- What a handler leaves behind: books that are kept, with the same numbers to come. -/
structure Handled (start next : Books) : Prop where
  kept : Kept next
  numbers : next.nextPacketNum = start.nextPacketNum
  controller : next.congestionController.isSome = start.congestionController.isSome
  method : next.currentAlarmMethod = start.currentAlarmMethod
  cipher : next.oneRttWriteCipher = start.oneRttWriteCipher

theorem Handled.refl {books : Books} (kept : Kept books) : Handled books books :=
  ⟨kept,rfl,rfl,rfl,rfl⟩

theorem Handled.trans {first second third : Books} (one : Handled first second)
    (two : Handled second third) : Handled first third :=
  ⟨two.kept,two.numbers.trans one.numbers,two.controller.trans one.controller,
    two.method.trans one.method,two.cipher.trans one.cipher⟩

theorem numOutstanding_eq {ledger : Ledger} (counted : Counted ledger) :
    ledger.outstandings.numOutstanding =
      waitingCount (fun _ => true) ledger.outstandings.packets := by
  have total := List.length_eq_countP_add_countP (fun packet : OutstandingPacket =>
    packet.declaredLost) (l := ledger.outstandings.packets)
  have same : waitingCount (fun _ => true) ledger.outstandings.packets =
      ledger.outstandings.packets.countP fun packet => !packet.declaredLost := by
    simp [waitingCount]
  have other : (fun packet : OutstandingPacket => decide ¬packet.declaredLost = true) =
      fun packet => !packet.declaredLost := by
    funext packet
    cases packet.declaredLost <;> rfl
  rw [other] at total
  rw [OutstandingsInfo.numOutstanding,counted.lost,lowered_of_le (by omega),same]
  omega

section Visit

variable {ackVisitor : AckVisitor}

def AckVisitorKeepsBooks (ackVisitor : AckVisitor) : Prop :=
  ∀ conn packet frame, KeepsBooks conn (ackVisitor conn packet frame)

/-- Visiting the frames changes nothing the controller is told about the sizes. -/
structure Visited (conn : QuicConnectionState) (ack : AckEvent)
    (visited : QuicConnectionState × AckEvent) : Prop where
  books : visited.1.books = conn.books
  bytes : visited.2.ackedBytes = ack.ackedBytes
  newly : visited.2.largestNewlyAckedPacket = ack.largestNewlyAckedPacket

theorem visitPackets_visited (keeps : AckVisitorKeepsBooks ackVisitor)
    (contexts : List (OutstandingPacket × Bool)) (conn : QuicConnectionState) (ack : AckEvent) :
    Yields Tolerable (Visited conn ack) (contexts.foldlM (visitPacket ackVisitor) (conn,ack)) := by
  refine (@visitPackets_yields Tolerable (·.books = conn.books) _ _ _
    (fun context _ frame _ before same => ?_) rfl).mono fun result ⟨books,_,_,event⟩ => ?_
  · exact (keeps before context.1 frame).mono fun _ kept => kept.trans same
  · exact ⟨books,by rw [event],by rw [event]⟩

end Visit

/-- A call to the controller leaves the packets and what concerns the alarm alone. -/
structure Untouched (conn next : QuicConnectionState) : Prop where
  outstandings : next.outstandings = conn.outstandings
  alarm : next.pendingEvents.setLossDetectionAlarm = conn.pendingEvents.setLossDetectionAlarm
  lossTimes : next.lossState.lossTimes = conn.lossState.lossTimes

/-- Only the packets, their history, the loss timers and the wish for an alarm differ. -/
def SameBesides (start : Books) (conn : QuicConnectionState) : Prop :=
  conn.books = {start with
    outstandings := conn.outstandings
    history := conn.history
    lossTimes := conn.lossState.lossTimes
    setLossDetectionAlarm := conn.pendingEvents.setLossDetectionAlarm}

private theorem Kept.settle (kept : Kept start) {next : QuicConnectionState} {bytes : Nat}
    (rest : SameBesides start conn)
    (moves : Moves (restingLedger start) (ledgerOf conn conn.outstandings.packets 0 bytes))
    (without : conn.congestionController = none → next = conn)
    (taken : conn.congestionController.isSome → TakesOut conn bytes next) :
    Handled start next.books ∧ Untouched conn next := by
  obtain ⟨sound,flight⟩ := moves.sound kept.sound
  have numbers : conn.books.nextPacketNum = start.nextPacketNum :=
    (congrArg Books.nextPacketNum rest).trans rfl
  have controller : conn.congestionController = start.congestionController :=
    congrArg Books.congestionController rest
  have inflight : conn.lossState.inflightBytes = start.inflightBytes :=
    congrArg Books.inflightBytes rest
  have log : conn.inflightSubtractions = start.inflightSubtractions :=
    congrArg Books.inflightSubtractions rest
  have method : conn.lossState.currentAlarmMethod = start.currentAlarmMethod :=
    congrArg Books.currentAlarmMethod rest
  have cipher : conn.oneRttWriteCipher = start.oneRttWriteCipher :=
    congrArg Books.oneRttWriteCipher rest
  have settled : Sound start.nextPacketNum
      {outstandings := conn.outstandings, history := conn.history} :=
    ⟨sound.ordered,⟨sound.counted.lost,sound.counted.dsr,sound.counted.families⟩,
      ⟨sound.families.waiting,sound.families.pending,sound.families.attended,sound.families.old,
        sound.families.once⟩⟩
  cases present : conn.congestionController with
  | none =>
    rw [without present]
    have absent : start.congestionController = none := controller.symm.trans present
    refine ⟨⟨⟨?_,fun some => ?_,fun some => ?_,?_⟩,numbers,?_,method,cipher⟩,rfl,rfl,rfl⟩
    · rw [numbers]
      exact settled
    · exact absurd some (by simp [QuicConnectionState.books,present])
    · exact absurd some (by simp [QuicConnectionState.books,present])
    · change ∀ pair ∈ conn.inflightSubtractions, _
      rw [log]
      exact kept.log
    · exact congrArg Option.isSome controller
  | some existing =>
    have isSome : conn.congestionController.isSome := by
      rw [present]
      rfl
    have took := taken isSome
    obtain ⟨nextController,frames,sequence,nextLog,shape,same⟩ := took.shape
    have some : start.congestionController.isSome := by
      rw [← controller]
      exact isSome
    have before := kept.flight some
    have total : flightBytes conn.outstandings.packets + bytes = start.inflightBytes := by
      rw [before]
      exact flight
    rw [shape]
    refine ⟨⟨⟨?_,fun _ => ?_,fun _ => ?_,?_⟩,numbers,?_,method,cipher⟩,rfl,rfl,rfl⟩
    · change Sound conn.books.nextPacketNum _
      rw [numbers]
      exact settled
    · change conn.lossState.inflightBytes - bytes = flightBytes conn.outstandings.packets
      rw [inflight]
      omega
    · change conn.lossState.inflightBytes - bytes < 2^64
      have bound := kept.bound some
      rw [inflight]
      omega
    · intro pair inside
      rcases took.log pair (by rw [shape]; exact inside) with earlier | enough
      · rw [log] at earlier
        exact kept.log pair earlier
      · exact enough
    · change nextController.isSome = start.congestionController.isSome
      rw [same,controller]

/-- A controller that is told of the bytes the moves took out leaves the books kept. -/
private theorem Kept.tell (kept : Kept start) {bytes : Nat} (rest : SameBesides start conn)
    (moves : Moves (restingLedger start) (ledgerOf conn conn.outstandings.packets 0 bytes))
    {telling : Except Error QuicConnectionState}
    (without : conn.congestionController = none → telling = .ok conn)
    (taken : conn.congestionController.isSome → bytes ≤ conn.lossState.inflightBytes →
      conn.lossState.inflightBytes < 2^64 → Yields Tolerable (TakesOut conn bytes) telling) :
    Yields Tolerable (fun next => Handled start next.books ∧ Untouched conn next) telling := by
  have controller : conn.congestionController = start.congestionController :=
    congrArg Books.congestionController rest
  have inflight : conn.lossState.inflightBytes = start.inflightBytes :=
    congrArg Books.inflightBytes rest
  cases present : conn.congestionController with
  | none =>
    rw [without present]
    exact kept.settle rest moves (fun _ => rfl) fun some => by
      rw [present] at some
      cases some
  | some existing =>
    have isSome : start.congestionController.isSome := by
      rw [← controller,present]
      rfl
    have total : flightBytes conn.outstandings.packets + bytes = start.inflightBytes := by
      rw [kept.flight isSome]
      exact (moves.sound kept.sound).2
    have bound := kept.bound isSome
    apply (taken (by rw [present]; rfl) (by omega) (by omega)).mono
    intro next took
    exact kept.settle rest moves (fun absent => by
      rw [present] at absent
      cases absent) fun _ => took

/-- Whether some packet is not declared lost. -/
def anyWaiting (outstandings : OutstandingsInfo) : Bool :=
  decide (waitingCount (fun _ => true) outstandings.packets > 0)

section Clear

variable (time : TimePoint) (pnSpace : PacketNumberSpace)

private theorem clearOld_waiting {threshold : Microseconds} (packets : List OutstandingPacket)
    (outstandings : OutstandingsInfo) (condition : Tag → Bool) :
    waitingCount condition (clearOld time pnSpace threshold outstandings packets).2 =
      waitingCount condition packets := by
  induction packets generalizing outstandings with
  | nil => rfl
  | cons packet rest ih =>
    unfold clearOld
    split
    · rfl
    split
    · have same := ih outstandings
      unfold waitingCount at same ⊢
      rw [List.countP_cons,List.countP_cons]
      exact congrArg (· + _) same
    split
    · next old =>
      simp only [Bool.and_eq_true] at old
      rw [ih,waitingCount_cons_lost _ _ old.1]
    · rfl

theorem clearOldOutstandingPackets_handled (kept : Kept conn.books) :
    Handled conn.books (clearOldOutstandingPackets conn time pnSpace).books ∧
      anyWaiting (clearOldOutstandingPackets conn time pnSpace).outstandings =
        anyWaiting conn.outstandings ∧
      (clearOldOutstandingPackets conn time pnSpace).pendingEvents.setLossDetectionAlarm =
        conn.pendingEvents.setLossDetectionAlarm := by
  obtain ⟨books,moves⟩ := clearOldOutstandingPackets_moves conn time pnSpace 0 0
  obtain ⟨sound,flight⟩ := moves.sound kept.sound
  have rest := books
  refine ⟨⟨⟨?_,?_,?_,?_⟩,?_,?_,?_,?_⟩,?_,?_⟩
  · rw [books]
    have history : (clearOldOutstandingPackets conn time pnSpace).history = conn.history :=
      congrArg Books.history books
    unfold ledgerOf at sound
    rw [history] at sound
    exact sound
  · rw [books]
    intro present
    exact (kept.flight present).trans flight.symm
  · rw [books]
    exact kept.bound
  · rw [books]
    exact kept.log
  · rw [books]
  · rw [books]
  · rw [books]
  · rw [books]
  · unfold anyWaiting clearOldOutstandingPackets
    split
    · dsimp only
      rw [clearOld_waiting]
    · rfl
  · exact congrArg Books.setLossDetectionAlarm books

end Clear

private theorem reportAck_taken
    {lossEvent : Option LossEvent} (present : conn.congestionController.isSome)
    (quiet : ack.largestNewlyAckedPacket = none → ack.ackedBytes = 0)
    (enough : ack.ackedBytes + lostBytes lossEvent ≤ conn.lossState.inflightBytes)
    (bound : conn.lossState.inflightBytes < 2^64) :
    Yields Tolerable (TakesOut conn (ack.ackedBytes + lostBytes lossEvent))
      (reportAck conn readings ack lossEvent) := by
  have reported (loss : Option LossEvent) (same : lostBytes loss = lostBytes lossEvent) :
      Reported conn (some ack) loss := by
    refine ⟨?_,?_,bound⟩
    · intro event isAck
      cases isAck
      exact quiet
    · rw [same]
      exact enough
  obtain ⟨controller,current⟩ := Option.isSome_iff_exists.mp present
  cases lossEvent with
  | none =>
    simp only [reportAck,current]
    split
    · exact onPacketAckOrLoss_takesOut present (reported none rfl)
    · next newly =>
      rw [quiet (Option.not_isSome_iff_eq_none.mp newly)]
      exact TakesOut.rfl conn
  | some event =>
    have judged : Yields Tolerable (fun judged => lostBytes (some judged) = lostBytes (some event))
        (judgeCongestion conn ack event) := by
      unfold judgeCongestion
      split
      · rfl
      · exact tolerable_standard _
    simp only [reportAck,current]
    apply judged.bind
    intro judged same
    rw [← same]
    exact onPacketAckOrLoss_takesOut present (reported (some judged) same)

theorem noteNewlyAcked_books (conn : QuicConnectionState) (pnSpace : PacketNumberSpace)
    (newly : Option PacketNum) : (noteNewlyAcked conn pnSpace newly).books = conn.books := by
  unfold noteNewlyAcked
  split
  · rfl
  · next number =>
    exact updateAckState_books conn pnSpace (fun ackState => {ackState with
      largestAckedByPeer := some (max (ackState.largestAckedByPeer.getD number) number)})
        fun _ => rfl

theorem noteNewlyAcked_outstandings (conn : QuicConnectionState) (pnSpace : PacketNumberSpace)
    (newly : Option PacketNum) :
    (noteNewlyAcked conn pnSpace newly).outstandings = conn.outstandings :=
  congrArg Books.outstandings (noteNewlyAcked_books conn pnSpace newly)

/-- What is known when the losses of an acknowledgement have been detected. -/
private structure LossHandled (start : Books) (ack : AckEvent)
    (result : QuicConnectionState × Option LossEvent) : Prop where
  rest : SameBesides start result.1
  moves : ∃ lost, Moves (restingLedger start)
      (ledgerOf result.1 result.1.outstandings.packets 0 (ack.ackedBytes + lost)) ∧
    (start.congestionController.isSome → lost = lostBytes result.2)
  alarm : result.1.pendingEvents.setLossDetectionAlarm =
    decide (result.1.outstandings.numOutstanding > 0)

private theorem handleAckForLoss_handled (keeps : VisitorKeepsBooks lossVisitor)
    {pnSpace : PacketNumberSpace}
    (rest : SameRest start conn)
    (moves : Moves (restingLedger start)
      (ledgerOf conn conn.outstandings.packets 0 ack.ackedBytes)) :
    Yields Tolerable (LossHandled start ack) (handleAckForLoss conn lossVisitor ack pnSpace) := by
  unfold handleAckForLoss
  dsimp only
  have books := noteNewlyAcked_books conn pnSpace ack.largestNewlyAckedPacket
  generalize noteNewlyAcked conn pnSpace ack.largestNewlyAckedPacket = noted at books
  have outstandings : noted.outstandings = conn.outstandings := congrArg Books.outstandings books
  have history : noted.history = conn.history := congrArg Books.history books
  apply (detectLossPackets_detected keeps noted _ _ _ _ 0 ack.ackedBytes).bind
  intro result detected
  obtain ⟨lost,more,reported⟩ := detected.moves
  have same := detected.rest
  rw [books,show conn.books = _ from rest] at same
  refine ⟨?_,⟨lost,?_,fun present => reported ?_⟩,rfl⟩
  · simp only [SameBesides,QuicConnectionState.books,Books.mk.injEq,alarmIfOutstanding] at same ⊢
    exact ⟨trivial,trivial,same.2.2.1,same.2.2.2.1,same.2.2.2.2.1,same.2.2.2.2.2.1,trivial,trivial,
      same.2.2.2.2.2.2.2.2⟩
  · refine moves.trans ?_
    rw [ledgerOf_eq _ _ _ outstandings history,outstandings] at more
    exact more
  · have controller : noted.congestionController = start.congestionController :=
      (congrArg Books.congestionController books).trans
        ((congrArg Books.congestionController rest).trans rfl)
    rw [controller]
    exact present

private theorem reportAck_handled (kept : Kept start) {result : QuicConnectionState × Option LossEvent}
    (lossHandled : LossHandled start ack result)
    (quiet : ack.largestNewlyAckedPacket = none → ack.ackedBytes = 0) :
    Yields Tolerable (fun next => Handled start next.books ∧ Untouched result.1 next)
      (reportAck result.1 readings ack result.2) := by
  obtain ⟨lost,moves,reported⟩ := lossHandled.moves
  refine kept.tell lossHandled.rest moves (fun absent => by simp [reportAck,absent])
    fun present enough bound => ?_
  have controller : result.1.congestionController = start.congestionController :=
    congrArg Books.congestionController lossHandled.rest
  rw [reported (controller ▸ present)] at enough ⊢
  exact reportAck_taken present quiet enough bound

theorem processAckFrame_handled (kept : Kept conn.books)
    {ackVisitor : AckVisitor} (ackKeeps : AckVisitorKeepsBooks ackVisitor)
    (lossKeeps : VisitorKeepsBooks lossVisitor) (arguments : AckArguments) (readings : Readings) :
    Yields Tolerable (fun result => Handled conn.books result.1.books ∧
        result.1.pendingEvents.setLossDetectionAlarm = anyWaiting result.1.outstandings)
      (processAckFrame conn arguments ackVisitor lossVisitor readings) := by
  unfold processAckFrame
  apply (walkAcked_walked arguments conn).bind
  rintro ⟨walk,walkedConn⟩ ⟨walked,packets,shape⟩
  dsimp only at walked shape
  subst shape
  apply (visitPackets_visited ackKeeps walk.packetsWithHandlerContext.reverse _ walk.ack).bind
  rintro ⟨visitedConn,ack⟩ visited
  have outstandings : visitedConn.outstandings = {walk.conn.outstandings with packets := packets} :=
    congrArg Books.outstandings visited.books
  have history : visitedConn.history = walk.conn.history := congrArg Books.history visited.books
  have restWalked := walked.rest
  have settledRest : SameRest conn.books (settleAcked walk visitedConn) := by
    have finished : SameRest conn.books (finishWalk walk packets) := by
      simp only [SameRest,QuicConnectionState.books,Books.mk.injEq,finishWalk] at restWalked ⊢
      exact ⟨trivial,trivial,restWalked.2.2⟩
    have rest := finished.change visited.books
    simp only [SameRest,QuicConnectionState.books,Books.mk.injEq,settleAcked] at rest ⊢
    exact ⟨trivial,trivial,rest.2.2⟩
  have settledMoves : Moves (restingLedger conn.books)
      (ledgerOf (settleAcked walk visitedConn) (settleAcked walk visitedConn).outstandings.packets 0
        ack.ackedBytes) := by
    refine walked.moves.tail ?_
    have same : ledgerOf (settleAcked walk visitedConn)
        (settleAcked walk visitedConn).outstandings.packets 0 ack.ackedBytes =
          {ledgerOf walk.conn packets walk.dsrPacketsAcked walk.ack.ackedBytes with
            outstandings := (ledgerOf walk.conn packets walk.dsrPacketsAcked
              walk.ack.ackedBytes).outstandings.lowerDsrCount walk.dsrPacketsAcked
            dsrPacketsAcked := 0} := by
      have bytes : ack.ackedBytes = walk.ack.ackedBytes := visited.bytes
      simp only [ledgerOf,settleAcked,outstandings,history,bytes]
    rw [same]
    exact Move.settled
  apply (handleAckForLoss_handled lossKeeps settledRest settledMoves).bind
  rintro ⟨lossConn,lossEvent⟩ lossHandled
  have quiet : ack.largestNewlyAckedPacket = none → ack.ackedBytes = 0 := by
    intro absent
    rw [show ack.ackedBytes = walk.ack.ackedBytes from visited.bytes]
    exact walked.quiet (visited.newly.symm.trans absent)
  apply (reportAck_handled kept lossHandled quiet).bind
  rintro reported ⟨handled,same,alarm⟩
  obtain ⟨cleared,waiting,unchanged⟩ := clearOldOutstandingPackets_handled
    arguments.ackReceiveTime arguments.pnSpace handled.kept
  refine ⟨handled.trans cleared,?_⟩
  have counted : reported.outstandings.numOutstanding =
      waitingCount (fun _ => true) reported.outstandings.packets :=
    numOutstanding_eq handled.kept.sound.counted
  dsimp only
  rw [unchanged,waiting,alarm,lossHandled.alarm,anyWaiting,← counted,same]

theorem implicitAckCryptoStream_handled (kept : Kept conn.books)
    (level : EncryptionLevel) (now nowTime : TimePoint) (readings : Readings) :
    Yields Tolerable (fun next => Handled conn.books next.books ∧ (next = conn ∨
        next.pendingEvents.setLossDetectionAlarm = anyWaiting next.outstandings))
      (implicitAckCryptoStream conn level now nowTime readings) := by
  unfold implicitAckCryptoStream
  dsimp only
  split
  · exact ⟨.refl kept,.inl rfl⟩
  · apply (processAckFrame_handled kept (implicitAckVisitor_books _ level) (fun _ _ _ => rfl) _
      readings).bind
    rintro ⟨next,ack⟩ ⟨handled,alarm⟩
    exact ⟨handled,.inr alarm⟩

/-- Packets were only taken out, and the alarm is left alone. -/
structure Dropped (conn next : QuicConnectionState) : Prop where
  moves : ∃ ledger, Moves (restingLedger conn.books) ledger ∧ ledger.outstandings = next.outstandings
  alarm : next.pendingEvents.setLossDetectionAlarm = conn.pendingEvents.setLossDetectionAlarm
  lossTimes : next.lossState.lossTimes = conn.lossState.lossTimes

theorem markZeroRttPacketsLost_handled (kept : Kept conn.books)
    (keeps : VisitorKeepsBooks lossVisitor) (now : TimePoint) :
    Yields Tolerable (fun next => Handled conn.books next.books ∧ Dropped conn next)
      (markZeroRttPacketsLost conn lossVisitor now) := by
  unfold markZeroRttPacketsLost
  have initial : Scanned conn.books (restingLedger conn.books)
      {conn := conn, lossEvent := {lossTime := now}} ([] ++ conn.outstandings.packets) :=
    ⟨rfl,.refl,fun _ => rfl⟩
  apply (dropZeroRttPackets_scanned keeps _ _ [] initial).bind
  rintro ⟨scan,packets⟩ scanned
  have rest := scanned.rest
  have alarm : scan.conn.pendingEvents.setLossDetectionAlarm =
      conn.pendingEvents.setLossDetectionAlarm :=
    (congrArg Books.setLossDetectionAlarm rest).trans rfl
  have moves : Moves (restingLedger conn.books)
      (ledgerOf (countRetransmissions (withPackets scan.conn packets) scan.lossEvent.lostPackets)
        packets 0 scan.lossEvent.lostBytes) := by
    have done := scanned.moves
    rw [show (restingLedger conn.books).bytesOut = 0 from rfl,Nat.zero_add] at done
    exact done
  have counted : SameBesides conn.books (countRetransmissions (withPackets scan.conn packets)
      scan.lossEvent.lostPackets) := by
    simp only [SameBesides,SameRest,QuicConnectionState.books,Books.mk.injEq,withPackets,
      countRetransmissions] at rest ⊢
    exact ⟨trivial,trivial,rest.2.2.1,rest.2.2.2.1,rest.2.2.2.2.1,rest.2.2.2.2.2.1,trivial,trivial,
      rest.2.2.2.2.2.2.2.2⟩
  have lossTimes : scan.conn.lossState.lossTimes = conn.lossState.lossTimes :=
    (congrArg Books.lossTimes rest).trans rfl
  have dropped : ∀ next, Untouched (countRetransmissions (withPackets scan.conn packets)
      scan.lossEvent.lostPackets) next → Dropped conn next := fun next untouched =>
    ⟨⟨_,moves,untouched.outstandings.symm⟩,untouched.alarm.trans alarm,
      untouched.lossTimes.trans lossTimes⟩
  dsimp only
  split
  · refine (kept.tell counted moves (fun absent => ?_) onRemoveBytesFromInflight_takesOut).mono
      fun next done => ⟨done.1,dropped next done.2⟩
    rw [onRemoveBytesFromInflight,absent]
  · next none =>
    have quiet := moves
    rw [scanned.quiet (Option.not_isSome_iff_eq_none.mp none)] at quiet
    obtain ⟨handled,untouched⟩ := kept.settle counted quiet (fun _ => rfl) fun _ => TakesOut.rfl _
    exact ⟨handled,dropped _ untouched⟩

theorem markPacketLoss_keepsBooks : VisitorKeepsBooks markPacketLoss :=
  fun conn packet processed => congrArg Prod.fst (markPacketLoss_records conn packet processed)

private theorem retransmitZeroRtt_handled (kept : Kept conn.books)
    (now : TimePoint) :
    Yields Tolerable (fun next => Handled conn.books next.books) (retransmitZeroRtt conn now) := by
  unfold retransmitZeroRtt
  split
  · have attempted : Kept ({conn with lossState := {conn.lossState with
        attemptedEarlyRetransmit0Rtt := true}} : QuicConnectionState).books := kept
    exact (markZeroRttPacketsLost_handled attempted markPacketLoss_keepsBooks now).mono
      fun _ done => done.1
  · exact .refl kept

private theorem onPTOAlarm_handled (kept : Kept conn.books)
    (now : TimePoint) :
    Yields Tolerable (fun next => Handled conn.books next.books) (onPTOAlarm conn now) := by
  unfold onPTOAlarm
  dsimp only
  split
  · exact tolerable_internal _ _
  · have counted : Kept ({conn with lossState := {conn.lossState with
        ptoCount := conn.lossState.ptoCount + 1
        totalPTOCount := conn.lossState.totalPTOCount + 1}} : QuicConnectionState).books := kept
    apply (retransmitZeroRtt_handled counted now).bind
    intro next done
    exact done

private theorem onReorderingAlarm_handled (kept : Kept conn.books)
    (keeps : VisitorKeepsBooks lossVisitor) (now : TimePoint) (readings : Readings) :
    Yields Tolerable (fun next => Handled conn.books next.books)
      (onReorderingAlarm conn lossVisitor now readings) := by
  unfold onReorderingAlarm
  dsimp only
  apply (detectLossPackets_detected keeps conn _ _ _ _ 0 0).bind
  rintro ⟨detectedConn,lossEvent⟩ detected
  obtain ⟨lost,moves,reported⟩ := detected.moves
  rw [Nat.zero_add] at moves
  have rest : SameBesides conn.books detectedConn := by
    have same := detected.rest
    simp only [SameBesides,QuicConnectionState.books,Books.mk.injEq] at same ⊢
    exact ⟨trivial,trivial,same.2.2.1,same.2.2.2.1,same.2.2.2.2.1,same.2.2.2.2.2.1,trivial,trivial,
      same.2.2.2.2.2.2.2.2⟩
  have controller : detectedConn.congestionController = conn.congestionController :=
    congrArg Books.congestionController rest
  refine Yields.mono (kept.tell rest moves ?_ ?_) fun _ done => done.1
  · intro absent
    cases lossEvent with
    | none => rfl
    | some event =>
      unfold onPacketAckOrLoss
      dsimp only
      rw [absent]
  · intro present enough bound
    have bytes := reported (controller ▸ present)
    cases lossEvent with
    | none =>
      subst bytes
      exact TakesOut.rfl _
    | some event =>
      rw [bytes,← Nat.zero_add (lostBytes _)] at enough ⊢
      exact onPacketAckOrLoss_takesOut present ⟨fun event isAck => (by cases isAck),enough,bound⟩

theorem onLossDetectionAlarm_handled (kept : Kept conn.books)
    (keeps : VisitorKeepsBooks lossVisitor) (now : TimePoint) (readings : Readings) :
    Yields Tolerable (fun next => Handled conn.books next.books ∧ (anyWaiting next.outstandings →
        next.pendingEvents.setLossDetectionAlarm = true))
      (onLossDetectionAlarm conn lossVisitor now readings) := by
  unfold onLossDetectionAlarm
  split
  · next empty =>
    refine ⟨.refl kept,fun waiting => ?_⟩
    rw [List.isEmpty_iff] at empty
    unfold anyWaiting at waiting
    rw [empty] at waiting
    exact nomatch waiting
  · have alarmed : Yields Tolerable (fun next => Handled conn.books next.books)
        (onAlarm conn lossVisitor now readings) := by
      unfold onAlarm
      split
      · exact onReorderingAlarm_handled kept keeps now readings
      · exact onPTOAlarm_handled kept now
    apply alarmed.bind
    intro next done
    refine ⟨{done with kept := {done.kept with}},fun waiting => ?_⟩
    have counted : next.outstandings.numOutstanding =
        waitingCount (fun _ => true) next.outstandings.packets :=
      numOutstanding_eq done.kept.sound.counted
    change decide (next.outstandings.numOutstanding > 0) = true
    rw [counted]
    exact waiting

end StreamServer.Loss
