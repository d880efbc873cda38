import StreamServer.Loss.Families
import StreamServer.Loss.FrameCalls
import StreamServer.Loss.LossRules
import StreamServer.State.AckWalks

/-! What the handlers of acknowledgements and losses do to the books: a series of moves of the
ledger, and nothing else but the loss timers and the bytes in flight. -/
namespace StreamServer.Loss
open Protocol State Congestion Lib.Outcome

variable {conn : QuicConnectionState} {packet : OutstandingPacket} {arguments : LossArguments}
  {scan : LossScan}

/-- The ledger in the middle of handling, over the packets as they are by now. -/
def ledgerOf (conn : QuicConnectionState) (packets : List OutstandingPacket)
    (dsrPacketsAcked bytesOut : Nat) : Ledger :=
  {outstandings := {conn.outstandings with packets := packets}
   history := conn.history
   dsrPacketsAcked := dsrPacketsAcked
   bytesOut := bytesOut}

theorem ledgerOf_eq {outstandings : OutstandingsInfo}
    {history : List PacketRecord} (packets : List OutstandingPacket) (dsrPacketsAcked bytesOut : Nat)
    (sameOutstandings : conn.outstandings = outstandings) (sameHistory : conn.history = history) :
    ledgerOf conn packets dsrPacketsAcked bytesOut =
      ⟨{outstandings with packets := packets},history,dsrPacketsAcked,bytesOut⟩ := by
  subst sameOutstandings sameHistory
  rfl

/-- The ledger when nothing is being handled. -/
def restingLedger (books : Books) : Ledger :=
  {outstandings := books.outstandings, history := books.history}

/-- Only the packets and their history differ. -/
def SameRest (start : Books) (conn : QuicConnectionState) : Prop :=
  conn.books = {start with outstandings := conn.outstandings, history := conn.history}

theorem SameRest.change {start : Books} {next : QuicConnectionState}
    {outstandings : OutstandingsInfo} {history : List PacketRecord} (same : SameRest start conn)
    (books : next.books = {conn.books with outstandings, history}) : SameRest start next := by
  have sameOutstandings : next.outstandings = outstandings := congrArg Books.outstandings books
  have sameHistory : next.history = history := congrArg Books.history books
  rw [SameRest] at same
  rw [SameRest,books,same,sameOutstandings,sameHistory]

section Walk

/-- The walk over acknowledged packets so far, with the packets that are left. -/
structure Walked (start : Books) (walk : AckWalk) (packets : List OutstandingPacket) : Prop where
  rest : SameRest start walk.conn
  moves : Moves (restingLedger start)
    (ledgerOf walk.conn packets walk.dsrPacketsAcked walk.ack.ackedBytes)
  quiet : walk.ack.largestNewlyAckedPacket = none → walk.ack.ackedBytes = 0

variable {start : Books} (arguments : AckArguments)

private theorem Walked.moved {walk next : AckWalk} {packets left : List OutstandingPacket}
    {outstandings : OutstandingsInfo} {history : List PacketRecord}
    (walked : Walked start walk packets)
    (books : next.conn.books = {walk.conn.books with outstandings, history})
    (move : Move (ledgerOf walk.conn packets walk.dsrPacketsAcked walk.ack.ackedBytes)
      ⟨{outstandings with packets := left},history,next.dsrPacketsAcked,next.ack.ackedBytes⟩)
    (quiet : next.ack.largestNewlyAckedPacket = none → next.ack.ackedBytes = 0) :
    Walked start next left := by
  refine ⟨walked.rest.change books,walked.moves.tail ?_,quiet⟩
  rwa [ledgerOf_eq _ _ _ (congrArg Books.outstandings books) (congrArg Books.history books)]

private theorem walk_moves : WalkYields arguments Tolerable fun walk packets =>
    Walked start walk packets.reverse where
  acked walk above packet below _ waiting walked := by
    have acked := @ackPacket_acked arguments walk packet
    refine walked.moved (congrArg Prod.fst acked.records) ?_ fun absent => ?_
    · rw [acked.bytes,acked.dsr,@List.reverse_append _ above below]
      change Move _ ⟨{walk.conn.outstandings.release packet with packets := _},_,_,_⟩
      rw [← release_withPackets _ _ (above ++ packet :: below).reverse]
      exact Move.acked (by simp [ledgerOf]) waiting
    · rcases acked.newly with own | ⟨same,known⟩
      · cases own.symm.trans absent
      · exact absurd (same.symm.trans absent) known
  spurious walk above packet below _ lost walked := by
    refine (onSpuriousLoss_books walk.conn packet).mono fun conn books => ?_
    refine walked.moved books ?_ walked.quiet
    rw [@List.reverse_append _ above below]
    exact Move.ackedAfterLoss (by simp [ledgerOf]) lost

theorem walkAcked_walked (conn : QuicConnectionState) :
    Yields Tolerable (fun result => Walked conn.books result.1 result.2.outstandings.packets ∧
        ∃ packets, result.2 = finishWalk result.1 packets)
      (walkAcked arguments conn) := by
  refine ((@walk_moves conn.books arguments).walkAcked ?_).mono ?_
  · rw [List.reverse_reverse]
    exact ⟨rfl,.refl,fun _ => rfl⟩
  · rintro result ⟨packets,walked,same⟩
    rw [List.reverse_reverse] at walked
    refine ⟨?_,packets,same⟩
    rw [same]
    exact walked

end Walk

section Scan

variable {start : Books} {opened : Ledger}

/-- The scan for lost packets so far, with the packets as they are by now. -/
structure Scanned (start : Books) (opened : Ledger) (scan : LossScan)
    (packets : List OutstandingPacket) : Prop where
  rest : SameRest start scan.conn
  moves : Moves opened (ledgerOf scan.conn packets opened.dsrPacketsAcked
    (opened.bytesOut + scan.lossEvent.lostBytes))
  quiet : scan.lossEvent.largestLostPacketNum = none → scan.lossEvent.lostBytes = 0

private theorem Scanned.moved {next : LossScan} {packets left : List OutstandingPacket}
    {outstandings : OutstandingsInfo} {history : List PacketRecord}
    (scanned : Scanned start opened scan packets)
    (books : next.conn.books = {scan.conn.books with outstandings, history})
    (move : Move (ledgerOf scan.conn packets opened.dsrPacketsAcked
        (opened.bytesOut + scan.lossEvent.lostBytes))
      ⟨{outstandings with packets := left},history,opened.dsrPacketsAcked,
        opened.bytesOut + next.lossEvent.lostBytes⟩)
    (some : next.lossEvent.largestLostPacketNum ≠ none) : Scanned start opened next left := by
  refine ⟨scanned.rest.change books,scanned.moves.tail ?_,fun absent => absurd absent some⟩
  rwa [ledgerOf_eq _ _ _ (congrArg Books.outstandings books) (congrArg Books.history books)]

def VisitorKeepsBooks (lossVisitor : LossVisitor) : Prop :=
  ∀ conn packet processed, (lossVisitor conn packet processed).books = conn.books

private theorem addLostPacket_counts (event : LossEvent) (packet : OutstandingPacket) :
    Yields Tolerable (fun next => next.lostBytes = event.lostBytes + packet.metadata.encodedSize ∧
        next.largestLostPacketNum ≠ none)
      (event.addLostPacket packet) := by
  unfold LossEvent.addLostPacket
  split
  · exact tolerable_internal _ _
  · exact ⟨rfl,nofun⟩

private theorem comparedNumbers_tolerable (arguments : LossArguments) (packet : OutstandingPacket) :
    Yields Tolerable (fun _ => True) (comparedNumbers arguments packet) := by
  have nonDsr : Yields Tolerable (fun _ => True) (comparedNumbers.nonDsr arguments packet) := by
    unfold comparedNumbers.nonDsr
    dsimp only
    split
    · split
      · exact tolerable_standard _
      · trivial
    · trivial
  unfold comparedNumbers
  split
  · split
    · trivial
    · exact nonDsr
  · exact nonDsr

private theorem scan_moves (keeps : VisitorKeepsBooks arguments.lossVisitor) :
    ScanYields arguments Tolerable (Scanned start opened) := by
  intro scan before packet after waiting scanned
  unfold processPacketForLoss
  apply (comparedNumbers_tolerable arguments packet).bind
  intro compared _
  obtain ⟨largest,current⟩ := compared
  dsimp only
  generalize max largest current - current = distance
  split
  · exact {scanned with}
  · refine (addLostPacket_counts scan.lossEvent _).bind fun event added => ?_
    refine scanned.moved (keeps (countLost arguments scan.conn packet distance) _ _) ?_ added.2
    dsimp only
    rw [added.1,← Nat.add_assoc]
    change Move _ ⟨{noteLost scan.conn.outstandings packet with packets := _},_,_,_⟩
    rw [← noteLost_withPackets _ _ (before ++ packet :: after)]
    exact Move.lost rfl (waiting_of_isOutstanding waiting) rfl rfl

end Scan

/-- Detecting losses changes the packets and the loss timers. What it reports to a controller are
the bytes of the packets it declared lost. -/
structure Detected (conn : QuicConnectionState) (dsrPacketsAcked bytesOut : Nat)
    (result : QuicConnectionState × Option LossEvent) : Prop where
  rest : result.1.books = {conn.books with
    outstandings := result.1.outstandings
    history := result.1.history
    lossTimes := result.1.lossState.lossTimes}
  moves : ∃ lost, Moves (ledgerOf conn conn.outstandings.packets dsrPacketsAcked bytesOut)
      (ledgerOf result.1 result.1.outstandings.packets dsrPacketsAcked (bytesOut + lost)) ∧
    (conn.congestionController.isSome → lost = lostBytes result.2)

private theorem reportLoss_detected
    {dsrPacketsAcked bytesOut : Nat}
    (rest : scan.conn.books = {conn.books with
      outstandings := scan.conn.outstandings
      history := scan.conn.history
      lossTimes := scan.conn.lossState.lossTimes})
    (moves : Moves (ledgerOf conn conn.outstandings.packets dsrPacketsAcked bytesOut)
      (ledgerOf scan.conn scan.conn.outstandings.packets dsrPacketsAcked
        (bytesOut + scan.lossEvent.lostBytes)))
    (quiet : scan.lossEvent.largestLostPacketNum = none → scan.lossEvent.lostBytes = 0) :
    Detected conn dsrPacketsAcked bytesOut (reportLoss scan) := by
  have controller : scan.conn.congestionController = conn.congestionController :=
    congrArg Books.congestionController rest
  unfold reportLoss
  split
  · refine ⟨rest,scan.lossEvent.lostBytes,moves,fun present => ?_⟩
    rw [if_pos (by rw [controller]; exact present)]
    rfl
  · next absent =>
    refine ⟨rest,scan.lossEvent.lostBytes,moves,fun _ => ?_⟩
    exact quiet (Option.not_isSome_iff_eq_none.mp absent)

theorem detectLossPackets_detected {lossVisitor : LossVisitor} (keeps : VisitorKeepsBooks lossVisitor)
    (conn : QuicConnectionState) (largestAcked : Option PacketNum) (lossTime : TimePoint)
    (pnSpace : PacketNumberSpace) (ackEvent : Option AckEvent) (dsrPacketsAcked bytesOut : Nat) :
    Yields Tolerable (Detected conn dsrPacketsAcked bytesOut)
      (detectLossPackets conn largestAcked lossVisitor lossTime pnSpace ackEvent) := by
  unfold detectLossPackets
  have scanned : Yields Tolerable (fun scan =>
      Scanned (clearLossTime conn pnSpace).books
        (ledgerOf conn conn.outstandings.packets dsrPacketsAcked bytesOut) scan
        scan.conn.outstandings.packets)
      (scanOutstandings (clearLossTime conn pnSpace) largestAcked lossVisitor lossTime pnSpace
        ackEvent (max conn.lossState.srtt conn.lossState.lrtt)
        ((max conn.lossState.srtt conn.lossState.lrtt *
          conn.transportSettings.timeReorderingThreshDividend).tdiv
            conn.transportSettings.timeReorderingThreshDivisor)) := by
    have initial : Scanned (clearLossTime conn pnSpace).books
        (ledgerOf conn conn.outstandings.packets dsrPacketsAcked bytesOut)
        {conn := clearLossTime conn pnSpace, lossEvent := {lossTime := lossTime}}
        (clearLossTime conn pnSpace).outstandings.packets :=
      ⟨rfl,.refl,fun _ => rfl⟩
    unfold scanOutstandings
    split
    · exact initial
    · refine ((scan_moves keeps).processOutstandingsForLoss initial).mono ?_
      rintro _ ⟨scan,packets,scanned,rfl⟩
      exact ⟨scanned.rest.change rfl,scanned.moves,scanned.quiet⟩
  apply scanned.bind
  intro scan done
  have rest := done.rest
  apply reportLoss_detected
  · unfold setLossTime
    split <;>
    · simp only [SameRest,QuicConnectionState.books,Books.mk.injEq] at rest ⊢
      exact ⟨trivial,trivial,rest.2.2.1,rest.2.2.2.1,rest.2.2.2.2.1,rest.2.2.2.2.2.1,trivial,
        rest.2.2.2.2.2.2.2⟩
  · have moves := done.moves
    unfold setLossTime
    split <;> exact moves
  · exact done.quiet

section ZeroRtt

variable {start : Books} {opened : Ledger} {lossVisitor : LossVisitor}

theorem Scanned.dropZeroRttPacket
    {before after : List OutstandingPacket} (keeps : VisitorKeepsBooks lossVisitor)
    (scanned : Scanned start opened scan (before ++ packet :: after))
    (waiting : packet.declaredLost = false)
    (early : packet.packet.header.getProtectionType = .zeroRtt) :
    Yields Tolerable (fun scan => Scanned start opened scan (before ++ after))
      (dropZeroRttPacket lossVisitor scan packet) := by
  unfold Loss.dropZeroRttPacket
  refine (addLostPacket_counts scan.lossEvent packet).bind fun event added => ?_
  refine scanned.moved (keeps {scan.conn with
    outstandings := scan.conn.outstandings.release packet
    history := ⟨packet,.lost !scan.conn.outstandings.needsProcess packet⟩ :: scan.conn.history}
      _ _) ?_ added.2
  dsimp only
  rw [added.1,← Nat.add_assoc]
  change Move _ ⟨{scan.conn.outstandings.release packet with packets := _},_,_,_⟩
  rw [← release_withPackets _ _ (before ++ packet :: after)]
  exact Move.dropped rfl waiting early

theorem dropZeroRttPackets_scanned (keeps : VisitorKeepsBooks lossVisitor)
    (packets : List OutstandingPacket) (scan : LossScan) (before : List OutstandingPacket)
    (scanned : Scanned start opened scan (before ++ packets)) :
    Yields Tolerable (fun result => Scanned start opened result.1 (before ++ result.2))
      (dropZeroRttPackets lossVisitor scan packets) := by
  induction packets generalizing scan before with
  | nil => exact scanned
  | cons packet rest ih =>
    unfold dropZeroRttPackets
    split
    · next chosen =>
      simp only [Bool.and_eq_true,beq_iff_eq] at chosen
      apply (scanned.dropZeroRttPacket keeps (waiting_of_isOutstanding chosen.1) chosen.2).bind
      intro scan dropped
      exact ih scan before dropped
    · have passed : Scanned start opened scan ((before ++ [packet]) ++ rest) := by
        rw [List.append_assoc]
        exact scanned
      apply (ih scan (before ++ [packet]) passed).bind
      intro result done
      rw [List.append_assoc] at done
      exact done

end ZeroRtt

theorem clearOld_moves {time : TimePoint} {pnSpace : PacketNumberSpace} {threshold : Microseconds}
    {opened : Ledger} (packets : List OutstandingPacket) (outstandings : OutstandingsInfo)
    (before : List OutstandingPacket)
    (moves : Moves opened {opened with outstandings :=
      {outstandings with packets := before ++ packets}}) :
    Moves opened {opened with outstandings :=
      {(clearOld time pnSpace threshold outstandings packets).1 with
        packets := before ++ (clearOld time pnSpace threshold outstandings packets).2}} := by
  induction packets generalizing outstandings before with
  | nil => exact moves
  | cons packet rest ih =>
    unfold clearOld
    split
    · exact moves
    split
    · have passed := ih outstandings (before ++ [packet]) (by
        rw [List.append_assoc]
        exact moves)
      rw [List.append_assoc] at passed
      exact passed
    split
    · next old =>
      simp only [Bool.and_eq_true] at old
      apply ih outstandings.lowerDeclaredLostCount before
      refine moves.tail ?_
      have found : ({opened with outstandings :=
          {outstandings with packets := before ++ packet :: rest}} : Ledger).outstandings.packets =
            before ++ packet :: rest := rfl
      exact Move.cleared found old.1
    · exact moves

theorem clearOldOutstandingPackets_moves (conn : QuicConnectionState) (time : TimePoint)
    (pnSpace : PacketNumberSpace) (dsrPacketsAcked bytesOut : Nat) :
    (clearOldOutstandingPackets conn time pnSpace).books = {conn.books with
        outstandings := (clearOldOutstandingPackets conn time pnSpace).outstandings} ∧
      Moves (ledgerOf conn conn.outstandings.packets dsrPacketsAcked bytesOut)
        (ledgerOf (clearOldOutstandingPackets conn time pnSpace)
          (clearOldOutstandingPackets conn time pnSpace).outstandings.packets
          dsrPacketsAcked bytesOut) := by
  unfold clearOldOutstandingPackets
  split
  · refine ⟨rfl,?_⟩
    exact clearOld_moves conn.outstandings.packets conn.outstandings [] .refl
  · exact ⟨rfl,.refl⟩

end StreamServer.Loss
