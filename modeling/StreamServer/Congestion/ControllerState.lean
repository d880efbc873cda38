import StreamServer.Protocol.Constants

/-! The data of the four congestion controllers. Gains are exact rationals. Members that only
feed the pacer or the logs are left out, and so are those that only enter a floating-point
formula, since the value of such a formula is an input of the call that computes it. -/
namespace StreamServer.Congestion
open Protocol

def kMinCwndInMssForBbr : Nat := 4
def kDefaultUDPSendPacketLen : Nat := 1232

structure NewReno where
  ssthresh : Nat := 2^32 - 1
  cwndBytes : Nat
  endOfRecovery : Option TimePoint := none

inductive CubicStates where
  | hystart | steady | fastRecovery
  deriving DecidableEq, Repr

inductive HystartFound where
  | no | foundByAckTrainMethod | foundByDelayIncreaseMethod
  deriving DecidableEq, Repr

structure HystartState where
  ackTrain : Bool := false
  inRttRound : Bool := false
  found : HystartFound := .no
  roundStart : TimePoint := 0
  lastJiffy : TimePoint := 0
  currSampledRtt : Option Microseconds := none
  lastSampledRtt : Option Microseconds := none
  delayMin : Option Microseconds := none
  ackCount : Nat := 0
  rttRoundEndTarget : TimePoint := 0

structure SteadyState where
  originPoint : Option Nat := none
  tcpFriendly : Bool := true
  lastReductionTime : Option TimePoint := none
  lastMaxCwndBytes : Option Nat := none
  estRenoCwnd : Nat

structure Cubic where
  state : CubicStates := .hystart
  cwndBytes : Nat
  ssthresh : Nat := maxUint64
  hystartState : HystartState := {}
  steadyState : SteadyState
  endOfRecovery : Option TimePoint := none
  quiescenceStart : Option TimePoint := none
  experimental : Bool := false

structure Bandwidth where
  units : Nat := 0
  interval : Microseconds := 0
  deriving DecidableEq, Repr

inductive BbrState where
  | startup | drain | probeBw | probeRtt
  deriving DecidableEq, Repr

inductive RecoveryState where
  | notRecovery | conservative | growth
  deriving DecidableEq, Repr

def kStartupGain : Rat := 2885 / 1000
def kProbeBwGain : Rat := 2
def kNumOfCycles : Nat := 8
def kPacingGainCycles : List Rat := [5 / 4,3 / 4,1,1,1,1,1,1]

/-- The samplers are represented by their latest answers. `scaled` is the value the floating-point
unit gives for the product of a gain and an integer, plus a second integer. -/
structure Bbr where
  hasMinRttSampler : Bool := true
  minRtt : Microseconds := 0
  hasBandwidthSampler : Bool := true
  bandwidth : Bandwidth := {}
  samplerAppLimited : Bool := false
  scaled : Rat → Nat → Nat → Nat := fun gain value offset => (gain * value).floor.toNat + offset
  cwndGain : Rat := kStartupGain
  pacingGain : Rat := kStartupGain
  btlbwFound : Bool := false
  state : BbrState := .startup
  recoveryState : RecoveryState := .notRecovery
  isExperimental : Bool := false
  roundTripCounter : Nat := 0
  endOfRoundTrip : TimePoint := 0
  endOfRecovery : Option TimePoint := none
  cwnd : Nat
  initialCwnd : Nat
  recoveryWindow : Nat
  numOfCycles : Nat := kNumOfCycles
  pacingGainCycles : List Rat := kPacingGainCycles
  bandwidthUtilizationFactor : Rat := 1
  sendQuantum : Nat := 0
  previousStartupBandwidth : Bandwidth := {}
  slowStartupRoundCounter : Nat := 0
  pacingCycleIndex : Nat := 0
  cycleStart : TimePoint := 0
  earliestTimeToExitProbeRtt : Option TimePoint := none
  probeRttRound : Option Nat := none
  ackAggregationStartTime : Option TimePoint := none
  aggregatedAckBytes : Nat := 0
  appLimitedSinceProbeRtt : Bool := false
  exitingQuiescene : Bool := false
  lastMaxAckDelay : Option Int := none
  lastAckThreshold : Option Nat := none

inductive VelocityDirection where
  | none | up | down
  deriving DecidableEq, Repr

structure VelocityState where
  velocity : Nat := 1
  direction : VelocityDirection := .none
  numTimesDirectionSame : Nat := 0
  lastRecordedCwndBytes : Nat := 0
  lastCwndRecordTime : Option TimePoint := Option.none

structure Copa where
  cwndBytes : Nat
  isSlowStart : Bool := true
  lastCwndDoubleTime : Option TimePoint := none
  velocityState : VelocityState := {}
  useRttStanding : Bool := false

inductive CongestionController where
  | newReno (controller : NewReno)
  | cubic (controller : Cubic)
  | bbr (controller : Bbr)
  | copa (controller : Copa)

structure BbrAckFrequencyConfig where
  ackElicitingThreshold : Nat := 10
  reorderingThreshold : Nat := 3
  minRttDivisor : Nat := 2
  useSmallThresholdDuringStartup : Bool := false
  deriving DecidableEq, Repr

structure BbrConfig where
  conservativeRecovery : Bool := false
  largeProbeRttCwnd : Bool := false
  enableAckAggregationInStartup : Bool := false
  probeRttDisabledIfAppLimited : Bool := false
  drainToTarget : Bool := false
  ackFrequencyConfig : Option BbrAckFrequencyConfig := none
  deriving DecidableEq, Repr

end StreamServer.Congestion
