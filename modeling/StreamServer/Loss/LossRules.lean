import StreamServer.Loss.LossFunctions

/-! The rule for the search for losses: what looking at one packet keeps, the whole search keeps. -/
namespace StreamServer.Loss
open Protocol State Lib.Transition Lib.Outcome

variable {lossVisitor : LossVisitor}

theorem waiting_of_isOutstanding {packet : OutstandingPacket} {space : PacketNumberSpace}
    (outstanding : packet.isOutstanding space = true) : packet.declaredLost = false := by
  unfold OutstandingPacket.isOutstanding at outstanding
  simp only [Bool.and_eq_true,Bool.not_eq_true'] at outstanding
  exact outstanding.1

section Scans

variable {allowed : Error → Prop} {property : LossScan → List OutstandingPacket → Prop}
  {arguments : LossArguments} {scan : LossScan} {before packets : List OutstandingPacket}
  {conn : QuicConnectionState} {lossEvent : LossEvent}

/-- What is known of a scan and of the packets as they are by now stays known when the next one is
looked at. -/
def ScanYields (arguments : LossArguments) (allowed : Error → Prop)
    (property : LossScan → List OutstandingPacket → Prop) : Prop :=
  ∀ scan before packet after, packet.isOutstanding arguments.pnSpace = true →
    property scan (before ++ packet :: after) →
    Yields allowed (fun result => property result.1 (before ++ result.2 :: after))
      (processPacketForLoss arguments scan packet)

theorem ScanYields.scanForLoss (yields : ScanYields arguments allowed property)
    (holds : property scan (before ++ packets)) :
    Yields allowed (fun result => property result.1 (before ++ result.2))
      (scanForLoss arguments scan packets) := by
  induction packets generalizing scan before with
  | nil => exact holds
  | cons packet rest ih =>
    have onward (packet : OutstandingPacket) (scan : LossScan)
        (holds : property scan (before ++ packet :: rest)) :
        Yields allowed (fun result => property result.1 (before ++ packet :: result.2))
          (Loss.scanForLoss arguments scan rest) := by
      rw [List.append_cons] at holds
      refine (ih holds).mono fun result done => ?_
      rwa [← List.append_cons] at done
    unfold Loss.scanForLoss
    split
    · exact holds
    split
    · exact (onward packet scan holds).bind fun _ done => done
    · next outstanding =>
      have waiting : packet.isOutstanding arguments.pnSpace = true := by simpa using outstanding
      refine (yields scan before packet rest waiting holds).bind fun result processed => ?_
      exact (onward result.2 result.1 processed).bind fun _ done => done

theorem ScanYields.processOutstandingsForLoss (yields : ScanYields arguments allowed property)
    (holds : property {conn, lossEvent} conn.outstandings.packets) :
    Yields allowed (fun result => ∃ scan packets, property scan packets ∧
        result = {scan with conn := withPackets scan.conn packets})
      (processOutstandingsForLoss arguments conn lossEvent) := by
  rw [← List.takeWhile_append_dropWhile (p := fun packet => !packet.isOutstanding arguments.pnSpace)
    (l := conn.outstandings.packets)] at holds
  exact (yields.scanForLoss holds).bind fun result done => ⟨result.1,_,done,rfl⟩

end Scans

variable {property : QuicConnectionState → Prop}

/-- What declaring one packet lost keeps. The list of the packets and the loss state are no part of
it. -/
structure LossKeeps (lossVisitor : LossVisitor) (property : QuicConnectionState → Prop) : Prop where
  lost : ∀ arguments conn packet distance, packet.declaredLost = false →
    property conn → property (lossVisitor (countLost arguments conn packet distance) packet.packet
      !(conn.outstandings.needsProcess packet))
  aside : ∀ conn packets lossState, property conn → property {conn with
    outstandings := {conn.outstandings with packets := packets}
    lossState := lossState}

private theorem LossKeeps.scans {arguments : LossArguments}
    (keeps : LossKeeps arguments.lossVisitor property) :
    ScanYields arguments (fun _ => True) fun scan _ => property scan.conn := by
  intro scan _ packet _ waiting holds
  unfold processPacketForLoss
  refine (Yields.anyway _).bind fun compared _ => ?_
  dsimp only
  split
  · exact holds
  · exact (Yields.anyway _).bind fun _ _ => keeps.lost arguments scan.conn packet _
      (waiting_of_isOutstanding waiting) holds

theorem LossKeeps.detectLossPackets (keeps : LossKeeps lossVisitor property)
    {conn : QuicConnectionState} {largestAcked : Option PacketNum} {lossTime : TimePoint}
    {pnSpace : PacketNumberSpace} {ackEvent : Option AckEvent}
    {result : QuicConnectionState × Option LossEvent} (holds : property conn)
    (done : detectLossPackets conn largestAcked lossVisitor lossTime pnSpace ackEvent = .ok result) :
    property result.1 := by
  obtain ⟨scan,scans,rfl⟩ := map_ok done
  have cleared : property (clearLossTime conn pnSpace) := keeps.aside conn _ _ holds
  have scanned : property scan.conn := by
    unfold scanOutstandings at scans
    split at scans
    next =>
      cases scans
      exact cleared
    next =>
      obtain ⟨last,packets,kept,rfl⟩ := (keeps.scans.processOutstandingsForLoss cleared).ok scans
      exact keeps.aside last.conn _ _ kept
  have timed : property (setLossTime scan.conn pnSpace
      ((max conn.lossState.srtt conn.lossState.lrtt *
        conn.transportSettings.timeReorderingThreshDividend).tdiv
          conn.transportSettings.timeReorderingThreshDivisor) scan.shouldSetTimer) := by
    unfold setLossTime
    dsimp only
    split
    · exact keeps.aside scan.conn _ _ scanned
    · exact scanned
  unfold reportLoss
  split
  · exact keeps.aside _ _ _ timed
  · exact timed

end StreamServer.Loss
