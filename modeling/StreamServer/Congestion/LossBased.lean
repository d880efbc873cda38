import StreamServer.State.AckEvent

/-! The checked arithmetic of the congestion controllers, what a call of theirs reads from
outside, and the two loss-based controllers, NewReno and Cubic. -/
namespace StreamServer.Congestion
open Protocol State

/-- What a call of a controller reads besides its arguments: the clock in the loss handler and
then in the acknowledgement handler, a random number, the answers of samplers and filters and
the values of the floating-point formulas. -/
structure Readings where
  now : TimePoint := 0
  later : TimePoint := 0
  /-- Cubic: the two windows after a reduction, the growth since and the estimate for Reno. -/
  reducedLastMaxCwnd : Nat := 0
  reducedCwnd : Nat := 0
  cwndDelta : Int := 0
  renoEstimate : Nat := 0
  /-- BBR: the random number and its samplers after the call. -/
  random : Nat := 0
  minRttUpdated : Bool := false
  minRtt : Microseconds := 0
  minRttExpired : Bool := false
  bandwidth : Bandwidth := {}
  appLimited : Bool := false
  maxAckHeight : Nat := 0
  /-- Copa: its two filters, whether the target rate is reached and the change of the window. -/
  rttMin : Microseconds := 0
  rttStanding : Microseconds := 0
  targetRateReached : Bool := false
  windowChange : Nat := 0

def boundedCwnd (cwndBytes packetLength maxCwndInMss minCwndInMss : Nat) : Nat :=
  max (min cwndBytes (mul64 maxCwndInMss packetLength)) (mul64 minCwndInMss packetLength)

def settledCwnd (conn : QuicConnectionState) (cwndBytes : Nat) : Nat :=
  boundedCwnd cwndBytes conn.udpSendPacketLen conn.transportSettings.maxCwndInMss
    conn.transportSettings.minCwndInMss

def minCwnd (conn : QuicConnectionState) : Nat :=
  mul64 conn.transportSettings.minCwndInMss conn.udpSendPacketLen

def addAndCheckOverflow (value toAdd : Nat) : Except Error Nat :=
  if maxUint64 - toAdd < value then .error (.internal .cwndOverflow "Overflow bytes in flight")
  else .ok (value + toAdd)

def subtractAndCheckUnderflow (lowered : CheckedVariable) (value toSub : Nat) : Except Error Nat :=
  if value < toSub then .error (.underflow lowered) else .ok (value - toSub)

def setInflight (conn : QuicConnectionState) (inflightBytes : Nat) : QuicConnectionState :=
  {conn with lossState := {conn.lossState with inflightBytes := inflightBytes}}

def noteInflightSubtraction (conn : QuicConnectionState) (bytes : Nat) : QuicConnectionState :=
  {conn with
    inflightSubtractions := (conn.lossState.inflightBytes,bytes) :: conn.inflightSubtractions}

/-- How all controllers but Cubic take bytes out of flight. -/
def subtractInflight (conn : QuicConnectionState) (bytes : Nat) :
    Except Error QuicConnectionState := do
  let inflightBytes ←
    subtractAndCheckUnderflow .inflightBytes conn.lossState.inflightBytes bytes
  return setInflight (noteInflightSubtraction conn bytes) inflightBytes

def addInflight (conn : QuicConnectionState) (bytes : Nat) : Except Error QuicConnectionState := do
  let inflightBytes ← addAndCheckOverflow conn.lossState.inflightBytes bytes
  return setInflight conn inflightBytes

/-- The code dereferences an optional that is empty. -/
def noValue (name : String) : Error := .standard (name ++ " has no value")

def divisionByZero : Error := .standard "division by zero"

/-- The order of three controllers: the loss is handled first, and an acknowledgement only if it
acknowledged a packet that was in flight. -/
def lossThenAck {σ : Type}
    (onLoss : QuicConnectionState → σ → LossEvent → Except Error (QuicConnectionState × σ))
    (onAck : QuicConnectionState → σ → AckEvent → Except Error (QuicConnectionState × σ))
    (conn : QuicConnectionState) (controller : σ) (ack : Option AckEvent)
    (loss : Option LossEvent) : Except Error (QuicConnectionState × σ) := do
  let (conn,controller) ← match loss with
    | some loss => onLoss conn controller loss
    | none => .ok (conn,controller)
  match ack with
  | some ack =>
    if ack.largestNewlyAckedPacket.isSome then onAck conn controller ack
    else return (conn,controller)
  | none => return (conn,controller)

namespace NewReno

def additionFactor (reno : NewReno) (encodedSize : Nat) : Except Error Nat :=
  if reno.cwndBytes < reno.ssthresh then .ok encodedSize
  else if reno.cwndBytes = 0 then .error divisionByZero
  else .ok (mul64 kDefaultUDPSendPacketLen encodedSize / reno.cwndBytes)

def onPacketAcked (reno : NewReno) (packet : AckPacket) : Except Error NewReno :=
  if reno.endOfRecovery.any (packet.outstandingPacketMetadata.time < ·) then .ok reno
  else do
    let additionFactor ← reno.additionFactor packet.outstandingPacketMetadata.encodedSize
    let cwndBytes ← addAndCheckOverflow reno.cwndBytes additionFactor
    return {reno with cwndBytes := cwndBytes}

def onAckEvent (conn : QuicConnectionState) (reno : NewReno) (ack : AckEvent) :
    Except Error (QuicConnectionState × NewReno) := do
  let conn ← subtractInflight conn ack.ackedBytes
  let reno ← ack.ackedPackets.foldlM onPacketAcked reno
  return (conn,{reno with cwndBytes := settledCwnd conn reno.cwndBytes})

def onPacketLoss (conn : QuicConnectionState) (reno : NewReno) (readings : Readings)
    (loss : LossEvent) : Except Error (QuicConnectionState × NewReno) := do
  let conn ← subtractInflight conn loss.lostBytes
  match loss.largestLostSentTime with
  | none => .error (noValue "largestLostSentTime")
  | some sent =>
    let reno := if reno.endOfRecovery.all (· < sent) then
        let cwndBytes := settledCwnd conn (reno.cwndBytes / 2)
        {reno with
          endOfRecovery := some readings.now
          cwndBytes := cwndBytes
          ssthresh := cwndBytes}
      else reno
    return (conn,if loss.persistentCongestion then {reno with cwndBytes := minCwnd conn} else reno)

def onPacketAckOrLoss (conn : QuicConnectionState) (reno : NewReno) (readings : Readings)
    (ack : Option AckEvent) (loss : Option LossEvent) :
    Except Error (QuicConnectionState × NewReno) :=
  lossThenAck (fun conn reno => onPacketLoss conn reno readings)
    onAckEvent conn reno ack loss

end NewReno

def kAckSampling : Nat := 8
def kLowSsthreshInMss : Nat := 16
def kAckCountingGap : Microseconds := 2
def kDelayIncreaseUpperBound : Microseconds := 16000
def kDelayIncreaseLowerBound : Microseconds := 4000
def maxMicroseconds : Microseconds := 2^63 - 1

/-- The method that looks for closely spaced acknowledgements. -/
def HystartState.followAckTrain (hystart : HystartState) (lrtt : Microseconds)
    (ackTime : TimePoint) : HystartState :=
  if !hystart.ackTrain then hystart
  else
    let delayMin := min (hystart.delayMin.getD lrtt) lrtt
    let hystart := {hystart with delayMin := some delayMin}
    if ackTime - hystart.lastJiffy ≤ kAckCountingGap * 1000 then
      {hystart with
        lastJiffy := ackTime
        found := if (ackTime - hystart.roundStart) * 2 ≥ delayMin * 1000 then
            .foundByAckTrainMethod
          else hystart.found}
    else hystart

/-- The method that looks for an increase of the delay, once enough of it is sampled. -/
def HystartState.sampleDelay (hystart : HystartState) (lrtt : Microseconds) : HystartState :=
  let hystart := if hystart.ackCount < kAckSampling then
      {hystart with
        currSampledRtt := some (min lrtt (hystart.currSampledRtt.getD lrtt))
        ackCount := hystart.ackCount + 1}
    else hystart
  if hystart.ackCount < kAckSampling then hystart
  else match hystart.lastSampledRtt with
    | none => hystart
    | some last =>
      let eta := min kDelayIncreaseUpperBound (max kDelayIncreaseLowerBound (last / 16))
      if last ≥ maxMicroseconds - kDelayIncreaseLowerBound ∨ last > maxMicroseconds - eta then
        hystart
      else if hystart.currSampledRtt.any (· ≥ last + eta) then
        {hystart with found := .foundByDelayIncreaseMethod}
      else hystart

def HystartState.findExitPoint (hystart : HystartState) (lrtt : Microseconds)
    (ackTime : TimePoint) : HystartState :=
  if hystart.found ≠ .no then hystart
  else
    let hystart := hystart.followAckTrain lrtt ackTime
    if hystart.found = .no then hystart.sampleDelay lrtt else hystart

namespace Cubic

def isAppLimited (cubic : Cubic) : Bool := cubic.quiescenceStart.isSome

/-- Cubic takes bytes out of flight without a check. -/
def onRemoveBytesFromInflight (conn : QuicConnectionState) (bytes : Nat) : QuicConnectionState :=
  setInflight (noteInflightSubtraction conn bytes) (sub64 conn.lossState.inflightBytes bytes)

def onPacketSent (conn : QuicConnectionState) (packet : OutstandingPacket) :
    Except Error QuicConnectionState :=
  if maxUint64 - conn.lossState.inflightBytes < packet.metadata.encodedSize then
    .error (.internal .inflightBytesOverflow "Cubic: inflightBytes overflow")
  else .ok (setInflight conn (conn.lossState.inflightBytes + packet.metadata.encodedSize))

def onPersistentCongestion (conn : QuicConnectionState) (cubic : Cubic) : Cubic :=
  {cubic with
    ssthresh := max (cubic.cwndBytes / 2) (minCwnd conn)
    cwndBytes := minCwnd conn
    steadyState := {cubic.steadyState with
      estRenoCwnd := if cubic.steadyState.tcpFriendly then 0 else cubic.steadyState.estRenoCwnd
      lastReductionTime := none
      lastMaxCwndBytes := none}
    quiescenceStart := none
    hystartState := {cubic.hystartState with found := .no, inRttRound := false}
    state := .hystart}

def cubicReduction (conn : QuicConnectionState) (cubic : Cubic) (readings : Readings)
    (lossTime : TimePoint) : Cubic :=
  let steady := cubic.steadyState
  let cwndBytes := settledCwnd conn readings.reducedCwnd
  {cubic with
    cwndBytes := cwndBytes
    steadyState := {steady with
      lastMaxCwndBytes := if cubic.cwndBytes ≥ steady.lastMaxCwndBytes.getD cubic.cwndBytes then
          some cubic.cwndBytes
        else some readings.reducedLastMaxCwnd
      lastReductionTime := some lossTime
      estRenoCwnd := if steady.tcpFriendly then cwndBytes else steady.estRenoCwnd}}

def onPacketLoss (conn : QuicConnectionState) (cubic : Cubic) (readings : Readings)
    (loss : LossEvent) : Except Error (QuicConnectionState × Cubic) :=
  let cubic := {cubic with quiescenceStart := none}
  let conn := onRemoveBytesFromInflight conn loss.lostBytes
  match loss.largestLostSentTime with
  | none => .error (noValue "largestLostSentTime")
  | some sent =>
    let cubic := if sent ≥ cubic.endOfRecovery.getD sent then
        let reduced := cubicReduction conn {cubic with endOfRecovery := some readings.now} readings
          loss.lossTime
        {reduced with state := .fastRecovery, ssthresh := reduced.cwndBytes}
      else cubic
    .ok (conn,if loss.persistentCongestion then onPersistentCongestion conn cubic else cubic)

def startHystartRttRound (cubic : Cubic) (time now : TimePoint) : Cubic :=
  {cubic with hystartState := {cubic.hystartState with
    roundStart := time
    lastJiffy := time
    ackCount := 0
    lastSampledRtt := cubic.hystartState.currSampledRtt
    currSampledRtt := none
    rttRoundEndTarget := now
    inRttRound := true
    found := .no}}

/-- What runs when the handler of the slow start is left. -/
def onHystartExit (conn : QuicConnectionState) (cubic : Cubic) (ack : AckEvent)
    (aboveSsthresh : Bool) : Cubic :=
  if aboveSsthresh || (cubic.hystartState.found ≠ .no &&
      cubic.cwndBytes ≥ mul64 kLowSsthreshInMss conn.udpSendPacketLen) then
    {cubic with
      hystartState := {cubic.hystartState with inRttRound := false, currSampledRtt := none}
      ssthresh := if cubic.experimental then cubic.ssthresh else cubic.cwndBytes
      steadyState := {cubic.steadyState with lastMaxCwndBytes := none, lastReductionTime := none}
      quiescenceStart := none
      state := .steady}
  else if ack.largestNewlyAckedPacketSentTime > cubic.hystartState.rttRoundEndTarget then
    {cubic with hystartState := {cubic.hystartState with inRttRound := false}}
  else cubic

def onPacketAckedInHystart (conn : QuicConnectionState) (cubic : Cubic) (readings : Readings)
    (ack : AckEvent) : Except Error Cubic :=
  let cubic := if cubic.hystartState.inRttRound then cubic
    else startHystartRttRound cubic ack.ackTime readings.later
  if maxUint64 - cubic.cwndBytes < ack.ackedBytes then
    .error (.internal .cwndOverflow "Cubic Hystart: cwnd overflow")
  else
    let cubic := {cubic with cwndBytes := settledCwnd conn (cubic.cwndBytes + ack.ackedBytes)}
    if cubic.cwndBytes ≥ cubic.ssthresh then .ok (onHystartExit conn cubic ack true)
    else
      let hystart := cubic.hystartState.findExitPoint conn.lossState.lrtt ack.ackTime
      .ok (onHystartExit conn {cubic with hystartState := hystart} ack false)

def calculateCubicCwndDelta (readings : Readings) (lastReductionTime ackTime : TimePoint) : Int :=
  if ackTime < lastReductionTime then 0 else readings.cwndDelta

def calculateCubicCwnd (conn : QuicConnectionState) (lastMaxCwndBytes : Nat) (delta : Int) : Nat :=
  if delta > 0 ∧ (maxUint64 - lastMaxCwndBytes : Nat) < delta then
    mul64 conn.transportSettings.maxCwndInMss conn.udpSendPacketLen
  else if delta < 0 ∧ delta.natAbs > lastMaxCwndBytes then minCwnd conn
  else settledCwnd conn (delta + lastMaxCwndBytes).toNat

/-- The experimental mode keeps the window growing below the slow start threshold. -/
def experimentalCwnd (conn : QuicConnectionState) (cubic : Cubic) (ack : AckEvent)
    (newCwnd : Nat) : Nat :=
  let grown := add64 cubic.cwndBytes (ack.ackedBytes / 10)
  if cubic.experimental ∧ newCwnd < cubic.ssthresh ∧ newCwnd < grown then settledCwnd conn grown
  else newCwnd

def onPacketAckedInSteady (conn : QuicConnectionState) (cubic : Cubic) (readings : Readings)
    (ack : AckEvent) : Cubic :=
  if cubic.isAppLimited then cubic
  else
    let steady := cubic.steadyState
    let lastMax := steady.lastMaxCwndBytes.getD cubic.cwndBytes
    let lastReduction := steady.lastReductionTime.getD ack.ackTime
    let steady := {steady with
      lastMaxCwndBytes := some lastMax
      originPoint := some lastMax
      lastReductionTime := some lastReduction
      estRenoCwnd := if steady.lastMaxCwndBytes.isNone ∧ steady.tcpFriendly then cubic.cwndBytes
        else steady.estRenoCwnd}
    let newCwnd := experimentalCwnd conn cubic ack
      (calculateCubicCwnd conn lastMax (calculateCubicCwndDelta readings lastReduction ack.ackTime))
    let cwndBytes := max cubic.cwndBytes newCwnd
    if steady.tcpFriendly ∧ ack.ackedBytes ≠ 0 then
      let estRenoCwnd := settledCwnd conn readings.renoEstimate
      {cubic with
        cwndBytes := max cwndBytes estRenoCwnd
        steadyState := {steady with estRenoCwnd := estRenoCwnd}}
    else {cubic with cwndBytes := cwndBytes, steadyState := steady}

def onPacketAckedInRecovery (conn : QuicConnectionState) (cubic : Cubic) (readings : Readings)
    (ack : AckEvent) : Except Error Cubic :=
  match cubic.endOfRecovery, cubic.steadyState.lastMaxCwndBytes,
    cubic.steadyState.lastReductionTime with
  | none, _, _ => .error (noValue "endOfRecovery")
  | some recovery, lastMax, lastReduction =>
    if ack.largestNewlyAckedPacketSentTime > recovery then
      match lastMax, lastReduction with
      | some lastMax, some lastReduction => .ok {cubic with
          state := .steady
          steadyState := {cubic.steadyState with originPoint := some lastMax}
          cwndBytes := calculateCubicCwnd conn lastMax
            (calculateCubicCwndDelta readings lastReduction ack.ackTime)}
      | _, _ => .error (noValue "lastMaxCwndBytes or lastReductionTime")
    else .ok cubic

def onPacketAcked (conn : QuicConnectionState) (cubic : Cubic) (readings : Readings)
    (ack : AckEvent) : Except Error (QuicConnectionState × Cubic) := do
  let conn := onRemoveBytesFromInflight conn ack.ackedBytes
  if cubic.endOfRecovery.any (· ≥ ack.largestNewlyAckedPacketSentTime) then return (conn,cubic)
  else
    let cubic ← match cubic.state with
      | .hystart => onPacketAckedInHystart conn cubic readings ack
      | .steady => .ok (onPacketAckedInSteady conn cubic readings ack)
      | .fastRecovery => onPacketAckedInRecovery conn cubic readings ack
    return (conn,cubic)

def onPacketAckOrLoss (conn : QuicConnectionState) (cubic : Cubic) (readings : Readings)
    (ack : Option AckEvent) (loss : Option LossEvent) :
    Except Error (QuicConnectionState × Cubic) :=
  lossThenAck (fun conn cubic => onPacketLoss conn cubic readings)
    (fun conn cubic => onPacketAcked conn cubic readings) conn cubic ack loss

end Cubic

end StreamServer.Congestion
