import StreamServer.Congestion.LossBased

/-! The BBR controller: its windows, its four states and its two recovery states. -/
namespace StreamServer.Congestion
open Protocol State

def kExpectedStartupGrowth : Rat := 5 / 4
def kStartupSlowGrowRoundLimit : Nat := 3
def kProbeRttDuration : Int := 200 * 1000 * 1000
def kLargeProbeRttCwndGain : Rat := 3 / 4
def k64K : Nat := 64 * 1024
def kQuantaFactor : Nat := 3

namespace Bandwidth

def isValid (bandwidth : Bandwidth) : Bool := bandwidth.units ≠ 0 && bandwidth.interval ≠ 0

def during (bandwidth : Bandwidth) (delay : Microseconds) : Nat :=
  if bandwidth.interval = 0 then 0
  else ((bandwidth.units * delay).tdiv bandwidth.interval).toNat

def above (lhs rhs : Bandwidth) : Bool :=
  lhs.isValid && (!rhs.isValid || lhs.units * rhs.interval > rhs.units * lhs.interval)

def same (lhs rhs : Bandwidth) : Bool :=
  if lhs.isValid && rhs.isValid then lhs.units * rhs.interval == rhs.units * lhs.interval
  else !lhs.isValid && !rhs.isValid

def atLeast (lhs rhs : Bandwidth) : Bool := lhs.above rhs || lhs.same rhs

end Bandwidth

def kLowPacingRateForSendQuantum : Bandwidth := ⟨1200 * 1000,1000 * 1000⟩
def kHighPacingRateForSendQuantum : Bandwidth := ⟨24,1⟩

def canSendAckControlFrames (conn : QuicConnectionState) : Bool := conn.peerMinAckDelay.isSome

def clampMaxAckDelay (conn : QuicConnectionState) (maxAckDelay : Microseconds) : Microseconds :=
  max maxAckDelay (conn.peerMinAckDelay.getD 0)

def requestPeerAckFrequencyChange (conn : QuicConnectionState) (ackElicitingThreshold : Nat)
    (maxAckDelay : Microseconds) (reorderThreshold : Nat) : QuicConnectionState :=
  {conn with
    nextAckFrequencyFrameSequenceNumber := conn.nextAckFrequencyFrameSequenceNumber + 1
    pendingEvents := {conn.pendingEvents with
      frames := conn.pendingEvents.frames ++ [.ackFrequency {
        sequenceNumber := conn.nextAckFrequencyFrameSequenceNumber
        packetTolerance := ackElicitingThreshold
        updateMaxAckDelay := maxAckDelay.toNat
        reorderThreshold := reorderThreshold}]}}

namespace Bbr

def inRecovery (bbr : Bbr) : Bool := bbr.recoveryState ≠ .notRecovery
def isInBackgroundMode (bbr : Bbr) : Bool := bbr.bandwidthUtilizationFactor < 1
def isAppLimited (bbr : Bbr) : Bool := bbr.hasBandwidthSampler && bbr.samplerAppLimited
def minRttEst (bbr : Bbr) : Microseconds := if bbr.hasMinRttSampler then bbr.minRtt else 0
def bandwidthEst (bbr : Bbr) : Bandwidth := if bbr.hasBandwidthSampler then bbr.bandwidth else {}

def scaledBandwidth (bbr : Bbr) (bandwidth : Bandwidth) (gain : Rat) : Bandwidth :=
  ⟨bbr.scaled gain bandwidth.units 0,bandwidth.interval⟩

def calculateTargetCwnd (bbr : Bbr) (gain : Rat) : Nat :=
  if !bbr.bandwidthEst.isValid || bbr.minRttEst == 0 then bbr.scaled gain bbr.initialCwnd 0
  else bbr.scaled gain (bbr.bandwidthEst.during bbr.minRttEst) (mul64 kQuantaFactor bbr.sendQuantum)

def settledBbrCwnd (conn : QuicConnectionState) (cwnd : Nat) : Nat :=
  boundedCwnd cwnd conn.udpSendPacketLen conn.transportSettings.maxCwndInMss kMinCwndInMssForBbr

def minBbrCwnd (conn : QuicConnectionState) : Nat := mul64 conn.udpSendPacketLen kMinCwndInMssForBbr

def getCongestionWindow (conn : QuicConnectionState) (bbr : Bbr) : Nat :=
  if bbr.state = .probeRtt then
    if conn.transportSettings.bbrConfig.largeProbeRttCwnd then
      settledBbrCwnd conn (bbr.calculateTargetCwnd kLargeProbeRttCwndGain)
    else minBbrCwnd conn
  else if bbr.inRecovery then min bbr.cwnd bbr.recoveryWindow
  else bbr.cwnd

def noteAppLimited (bbr : Bbr) : Bbr :=
  if bbr.hasBandwidthSampler then {bbr with samplerAppLimited := true} else bbr

def onPacketSent (conn : QuicConnectionState) (bbr : Bbr) (packet : OutstandingPacket) :
    Except Error (QuicConnectionState × Bbr) := do
  let quiescent := conn.lossState.inflightBytes == 0 && bbr.isAppLimited
  let conn ← addInflight conn packet.metadata.encodedSize
  return (conn,{bbr with
    exitingQuiescene := bbr.exitingQuiescene || quiescent
    ackAggregationStartTime := some (bbr.ackAggregationStartTime.getD packet.metadata.time)})

def onPacketLoss (conn : QuicConnectionState) (bbr : Bbr) (readings : Readings) (loss : LossEvent)
    (ackedBytes : Nat) : Bbr :=
  let bbr := {bbr with endOfRecovery := some readings.now}
  let bbr := if bbr.inRecovery then bbr
    else {bbr with
      recoveryState := .conservative
      recoveryWindow := settledBbrCwnd conn (add64 conn.lossState.inflightBytes ackedBytes)
      endOfRoundTrip := readings.now}
  let lowered := if bbr.recoveryWindow > add64 loss.lostBytes (minBbrCwnd conn) then
      sub64 bbr.recoveryWindow loss.lostBytes
    else minBbrCwnd conn
  {bbr with recoveryWindow := if loss.persistentCongestion then minBbrCwnd conn else lowered}

/-- The new state and the excess of an aggregation of acknowledgements. -/
def updateAckAggregation (bbr : Bbr) (ack : AckEvent) : Bbr × Nat :=
  if bbr.isExperimental then (bbr,0)
  else match bbr.ackAggregationStartTime with
    | none => (bbr,0)
    | some start =>
      let expectedAckBytes := bbr.bandwidthEst.during ((ack.ackTime - start).tdiv 1000)
      if bbr.aggregatedAckBytes ≤ expectedAckBytes then
        ({bbr with
          aggregatedAckBytes := ack.ackedBytes
          ackAggregationStartTime := some ack.ackTime},0)
      else
        let aggregated := add64 bbr.aggregatedAckBytes ack.ackedBytes
        ({bbr with aggregatedAckBytes := aggregated},sub64 aggregated expectedAckBytes)

/-- The counter of round trips and whether a new one starts. -/
def updateRoundTripCounter (bbr : Bbr) (readings : Readings) (largestAckedSentTime : TimePoint) :
    Bbr × Bool :=
  if largestAckedSentTime > bbr.endOfRoundTrip then
    ({bbr with
      roundTripCounter := bbr.roundTripCounter + 1
      endOfRoundTrip := readings.later},true)
  else (bbr,false)

def updateRecoveryWindowWithAck (conn : QuicConnectionState) (bbr : Bbr) (bytesAcked : Nat) : Bbr :=
  let window := if bbr.recoveryState = .growth then add64 bbr.recoveryWindow bytesAcked
    else bbr.recoveryWindow
  let recoveryIncrease := if conn.transportSettings.bbrConfig.conservativeRecovery then
      conn.udpSendPacketLen
    else bytesAcked
  {bbr with recoveryWindow :=
    settledBbrCwnd conn (max window (add64 conn.lossState.inflightBytes recoveryIncrease))}

def updateRecovery (conn : QuicConnectionState) (bbr : Bbr) (ack : AckEvent)
    (newRoundTrip : Bool) : Except Error Bbr :=
  if !bbr.inRecovery then .ok bbr
  else match bbr.endOfRecovery with
    | none => .error (noValue "endOfRecovery")
    | some recovery =>
      let bbr := if newRoundTrip then {bbr with recoveryState := .growth} else bbr
      if ack.largestNewlyAckedPacketSentTime > recovery then
        .ok {bbr with recoveryState := .notRecovery}
      else .ok (updateRecoveryWindowWithAck conn bbr ack.ackedBytes)

def handleAckInProbeBw (conn : QuicConnectionState) (bbr : Bbr) (ackTime : TimePoint)
    (prevInflightBytes : Nat) (hasLoss : Bool) : Bbr :=
  let drained := !bbr.isInBackgroundMode && bbr.pacingGain < 1 &&
    conn.lossState.inflightBytes ≤ bbr.calculateTargetCwnd 1
  let probing := bbr.pacingGain > 1 && !hasLoss &&
    prevInflightBytes < bbr.calculateTargetCwnd bbr.pacingGain
  if drained || (!probing && ackTime - bbr.cycleStart > bbr.minRttEst * 1000) then
    let index := (bbr.pacingCycleIndex + 1) % bbr.numOfCycles
    let gain := bbr.pacingGainCycles.getD index 1
    let advanced := {bbr with pacingCycleIndex := index, cycleStart := ackTime}
    if !bbr.isInBackgroundMode && conn.transportSettings.bbrConfig.drainToTarget &&
        bbr.pacingGain < 1 && gain == 1 &&
        conn.lossState.inflightBytes > bbr.calculateTargetCwnd 1 then advanced
    else {advanced with pacingGain := gain}
  else bbr

def detectBottleneckBandwidth (bbr : Bbr) (appLimitedSample : Bool) : Bbr :=
  if bbr.btlbwFound || appLimitedSample then bbr
  else
    let bandwidthTarget := bbr.scaledBandwidth bbr.previousStartupBandwidth kExpectedStartupGrowth
    if bbr.bandwidthEst.atLeast bandwidthTarget then
      {bbr with previousStartupBandwidth := bbr.bandwidthEst, slowStartupRoundCounter := 0}
    else {bbr with
      slowStartupRoundCounter := (bbr.slowStartupRoundCounter + 1) % 256
      btlbwFound := (bbr.slowStartupRoundCounter + 1) % 256 ≥ kStartupSlowGrowRoundLimit}

def shouldExitStartup (bbr : Bbr) : Bool := bbr.state = .startup && bbr.btlbwFound

def shouldExitDrain (conn : QuicConnectionState) (bbr : Bbr) : Bool :=
  bbr.state = .drain && conn.lossState.inflightBytes ≤ bbr.calculateTargetCwnd 1

def shouldProbeRtt (conn : QuicConnectionState) (bbr : Bbr) (readings : Readings) : Bool :=
  if conn.transportSettings.bbrConfig.probeRttDisabledIfAppLimited &&
      bbr.appLimitedSinceProbeRtt then false
  else bbr.state ≠ .probeRtt && bbr.hasMinRttSampler && !bbr.exitingQuiescene &&
    readings.minRttExpired

def transitToStartup (bbr : Bbr) : Bbr :=
  let gain := if bbr.isInBackgroundMode then kStartupGain / 2 else kStartupGain
  {bbr with state := .startup, pacingGain := gain, cwndGain := gain}

def transitToProbeRtt (bbr : Bbr) : Bbr :=
  {bbr.noteAppLimited with
    state := .probeRtt
    pacingGain := 1
    earliestTimeToExitProbeRtt := none
    probeRttRound := none
    appLimitedSinceProbeRtt := false}

def transitToDrain (bbr : Bbr) : Bbr :=
  if bbr.isInBackgroundMode then
    {bbr with state := .drain, pacingGain := 1 / 2 * kStartupGain, cwndGain := kStartupGain / 2}
  else {bbr with state := .drain, pacingGain := 1 / kStartupGain, cwndGain := kStartupGain}

def transitToProbeBw (bbr : Bbr) (readings : Readings) (congestionEventTime : TimePoint) : Bbr :=
  let index := (readings.random % (bbr.numOfCycles - 1) + 2) % bbr.numOfCycles
  {bbr with
    state := .probeBw
    cwndGain := kProbeBwGain
    pacingCycleIndex := index
    pacingGain := bbr.pacingGainCycles.getD index 1
    cycleStart := congestionEventTime}

def handleAckInProbeRtt (conn : QuicConnectionState) (bbr : Bbr) (readings : Readings)
    (newRoundTrip : Bool) (ackTime : TimePoint) : Bbr :=
  let bbr := bbr.noteAppLimited
  match bbr.earliestTimeToExitProbeRtt with
  | none =>
    if conn.lossState.inflightBytes < add64 (bbr.getCongestionWindow conn) conn.udpSendPacketLen then
      {bbr with
        earliestTimeToExitProbeRtt := some (ackTime + kProbeRttDuration)
        probeRttRound := none}
    else bbr
  | some earliest =>
    let bbr := if bbr.probeRttRound.isNone && newRoundTrip then
        {bbr with probeRttRound := some bbr.roundTripCounter}
      else bbr
    if bbr.probeRttRound.isSome && earliest ≤ ackTime then
      if bbr.btlbwFound then bbr.transitToProbeBw readings ackTime else bbr.transitToStartup
    else bbr

def ackFrequencyThreshold (conn : QuicConnectionState) (bbr : Bbr)
    (config : BbrAckFrequencyConfig) : Nat :=
  let shouldUseInitThreshold := if config.useSmallThresholdDuringStartup then
      decide (bbr.state = .startup)
    else decide (conn.lossState.totalAckElicitingPacketsSent ≤
      conn.transportSettings.rxPacketsBeforeAckInitThreshold)
  if shouldUseInitThreshold then 2 else config.ackElicitingThreshold % 2^32

/-- The request for another acknowledgement frequency at the start of a round trip. -/
def tuneAckFrequency (conn : QuicConnectionState) (bbr : Bbr) (newRoundTrip : Bool) :
    QuicConnectionState × Bbr :=
  match conn.transportSettings.bbrConfig.ackFrequencyConfig with
  | none => (conn,bbr)
  | some config =>
    let updatedMaxAckDelay :=
      (clampMaxAckDelay conn (bbr.minRttEst.tdiv config.minRttDivisor)).tdiv 1000
    let ackThreshold := bbr.ackFrequencyThreshold conn config
    if newRoundTrip && canSendAckControlFrames conn &&
        (bbr.lastMaxAckDelay ≠ some updatedMaxAckDelay ||
          bbr.lastAckThreshold ≠ some ackThreshold) then
      (requestPeerAckFrequencyChange conn ackThreshold (updatedMaxAckDelay * 1000)
        config.reorderingThreshold,
        {bbr with
          lastMaxAckDelay := some updatedMaxAckDelay
          lastAckThreshold := some ackThreshold})
    else (conn,bbr)

def updateSendQuantum (conn : QuicConnectionState) (bbr : Bbr) : Bbr :=
  let pacingRate := bbr.scaledBandwidth bbr.bandwidthEst bbr.pacingGain
  {bbr with sendQuantum :=
    if !pacingRate.atLeast kLowPacingRateForSendQuantum then conn.udpSendPacketLen
    else if !pacingRate.atLeast kHighPacingRateForSendQuantum then mul64 conn.udpSendPacketLen 2
    else min (pacingRate.during 1000) k64K}

def updateCwnd (conn : QuicConnectionState) (bbr : Bbr) (readings : Readings)
    (ackedBytes excessiveBytes : Nat) : Bbr :=
  if bbr.state = .probeRtt then bbr
  else
    let bbr := bbr.updateSendQuantum conn
    let target := bbr.calculateTargetCwnd bbr.cwndGain
    let targetCwnd := if bbr.btlbwFound then add64 target readings.maxAckHeight
      else if conn.transportSettings.bbrConfig.enableAckAggregationInStartup then
        add64 target excessiveBytes
      else target
    let cwnd := if bbr.btlbwFound then min targetCwnd (add64 bbr.cwnd ackedBytes)
      else if bbr.cwnd < targetCwnd || conn.lossState.totalBytesAcked < bbr.initialCwnd then
        add64 bbr.cwnd ackedBytes
      else bbr.cwnd
    {bbr with cwnd := settledBbrCwnd conn cwnd}

def sample (bbr : Bbr) (readings : Readings) (ack : AckEvent) : Bbr :=
  let bbr := if ack.rttSample.isSome && bbr.hasMinRttSampler then
      {bbr with
        minRtt := readings.minRtt
        appLimitedSinceProbeRtt := bbr.appLimitedSinceProbeRtt && !readings.minRttUpdated}
    else bbr
  if bbr.hasBandwidthSampler then
    {bbr with bandwidth := readings.bandwidth, samplerAppLimited := readings.appLimited}
  else bbr

/-- The transitions of the state machine on an acknowledgement. -/
def advanceState (conn : QuicConnectionState) (bbr : Bbr) (readings : Readings) (ack : AckEvent)
    (prevInflightBytes : Nat) (hasLoss newRoundTrip : Bool) : Bbr :=
  let appLimited := !ack.ackedPackets.isEmpty && ack.largestNewlyAckedPacketAppLimited
  let bbr := if bbr.state = .probeBw then
      bbr.handleAckInProbeBw conn ack.ackTime prevInflightBytes hasLoss
    else bbr
  let bbr := if newRoundTrip && !appLimited then bbr.detectBottleneckBandwidth appLimited else bbr
  let bbr := if bbr.shouldExitStartup then bbr.transitToDrain else bbr
  let bbr := if bbr.shouldExitDrain conn then bbr.transitToProbeBw readings ack.ackTime else bbr
  let bbr := if bbr.shouldProbeRtt conn readings then bbr.transitToProbeRtt else bbr
  let bbr := {bbr with exitingQuiescene := false}
  if bbr.state = .probeRtt && bbr.hasMinRttSampler then
    bbr.handleAckInProbeRtt conn readings newRoundTrip ack.ackTime
  else bbr

def onPacketAcked (conn : QuicConnectionState) (bbr : Bbr) (readings : Readings) (ack : AckEvent)
    (prevInflightBytes : Nat) (hasLoss : Bool) : Except Error (QuicConnectionState × Bbr) := do
  if ack.implicit then return (conn,bbr.updateCwnd conn readings ack.ackedBytes 0)
  else
    let (bbr,newRoundTrip) := (bbr.sample readings ack).updateRoundTripCounter readings
      ack.largestNewlyAckedPacketSentTime
    let bbr ← bbr.updateRecovery conn ack newRoundTrip
    let (bbr,excessiveBytes) := bbr.updateAckAggregation ack
    let bbr := bbr.advanceState conn readings ack prevInflightBytes hasLoss newRoundTrip
    let (conn,bbr) := bbr.tuneAckFrequency conn newRoundTrip
    return (conn,bbr.updateCwnd conn readings ack.ackedBytes excessiveBytes)

def onPacketAckOrLoss (conn : QuicConnectionState) (bbr : Bbr) (readings : Readings)
    (ack : Option AckEvent) (loss : Option LossEvent) :
    Except Error (QuicConnectionState × Bbr) := do
  let prevInflightBytes := conn.lossState.inflightBytes
  let conn ← match ack with
    | some ack => subtractInflight conn ack.ackedBytes
    | none => .ok conn
  let conn ← match loss with
    | some loss => subtractInflight conn loss.lostBytes
    | none => .ok conn
  let bbr := match loss with
    | some loss => bbr.onPacketLoss conn readings loss ((ack.map (·.ackedBytes)).getD 0)
    | none => bbr
  match ack with
  | some ack =>
    if ack.largestNewlyAckedPacket.isSome then
      bbr.onPacketAcked conn readings ack prevInflightBytes loss.isSome
    else return (conn,bbr)
  | none => return (conn,bbr)

end Bbr

end StreamServer.Congestion
