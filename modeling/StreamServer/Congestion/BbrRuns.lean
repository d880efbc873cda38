import StreamServer.Congestion.Bbr
import StreamServer.Lib.Outcome

/-! Runs of the BBR controller: its window stays within its bounds, and its pacing gain fits its
state as long as Drain is not entered in background mode. -/
namespace StreamServer.Congestion.Bbr
open StreamServer.Protocol StreamServer.State StreamServer.Lib.Transition StreamServer.Lib.Outcome

def kBGNumOfCycles : Nat := 32

def setAppLimited (conn : QuicConnectionState) (bbr : Bbr) : Bbr :=
  if conn.lossState.inflightBytes > bbr.getCongestionWindow conn then bbr
  else {bbr.noteAppLimited with appLimitedSinceProbeRtt := true}

def setBandwidthUtilizationFactor (bbr : Bbr) (bandwidthUtilizationFactor : Rat) : Bbr :=
  let factor := if bandwidthUtilizationFactor ≥ 1 then 1
    else if bandwidthUtilizationFactor < 1 / 4 then 1 / 4
    else bandwidthUtilizationFactor
  if bbr.bandwidthUtilizationFactor = factor then bbr
  else
    let gain := if factor < 1 then kStartupGain / 2 else kStartupGain
    let cycled := if factor < 1 then
        {bbr with
          numOfCycles := kBGNumOfCycles
          pacingGainCycles := 5 / 4 :: 3 / 4 :: List.replicate (kBGNumOfCycles - 2) factor}
      else {bbr with numOfCycles := kNumOfCycles, pacingGainCycles := kPacingGainCycles}
    if bbr.state = .startup then
      {cycled with bandwidthUtilizationFactor := factor, pacingGain := gain, cwndGain := gain}
    else {cycled with bandwidthUtilizationFactor := factor}

/-- Other parts of the transport change the connection, but not the length of the packets and the
largest window. -/
inductive Action where
  | packetSent (packet : OutstandingPacket)
  | packetAckOrLoss (readings : Readings) (ack : Option AckEvent) (loss : Option LossEvent)
  | setAppLimited
  | setBandwidthUtilizationFactor (factor : Rat)
  | elsewhere (next : QuicConnectionState)

def step : QuicConnectionState × Bbr → Action → Except Error (QuicConnectionState × Bbr)
  | (conn,bbr), .packetSent packet => bbr.onPacketSent conn packet
  | (conn,bbr), .packetAckOrLoss readings ack loss => bbr.onPacketAckOrLoss conn readings ack loss
  | (conn,bbr), .setAppLimited => .ok (conn,bbr.setAppLimited conn)
  | (conn,bbr), .setBandwidthUtilizationFactor factor =>
    .ok (conn,bbr.setBandwidthUtilizationFactor factor)
  | (conn,bbr), .elsewhere next => .ok ({next with
      udpSendPacketLen := conn.udpSendPacketLen
      transportSettings := {next.transportSettings with
        maxCwndInMss := conn.transportSettings.maxCwndInMss}},bbr)

/-- A new controller with this window. Its samplers are those it is given, and `scaled` is what its
floating-point products come to. -/
def create (conn : QuicConnectionState) (cwndBytes : Nat) (scaled : Rat → Nat → Nat → Nat)
    (hasMinRttSampler hasBandwidthSampler isExperimental : Bool) : Bbr :=
  {cwnd := cwndBytes
   initialCwnd := mul64 conn.udpSendPacketLen conn.transportSettings.initCwndInMss
   recoveryWindow := mul64 conn.udpSendPacketLen conn.transportSettings.maxCwndInMss
   scaled, hasMinRttSampler, hasBandwidthSampler, isExperimental}

variable {conn next : QuicConnectionState} {bbr after : Bbr} {readings : Readings} {ack : AckEvent}
  {newRoundTrip : Bool}

def windows (bbr : Bbr) : Nat × Nat × RecoveryState := (bbr.cwnd,bbr.recoveryWindow,bbr.recoveryState)

structure Mode where
  state : BbrState
  pacingGain : Rat
  bandwidthUtilizationFactor : Rat

def mode (bbr : Bbr) : Mode := ⟨bbr.state,bbr.pacingGain,bbr.bandwidthUtilizationFactor⟩

/-- Drain sends more slowly than the estimated bandwidth, and Startup faster. -/
def Mode.Drains (mode : Mode) : Prop :=
  (mode.state = .drain → mode.pacingGain < 1) ∧ (mode.state = .startup → 1 < mode.pacingGain)

/-- The first mode is left for Drain in background mode. -/
def Mode.DrainsAside (before after : Mode) : Prop :=
  before.state ≠ .drain ∧ after.state = .drain ∧ before.bandwidthUtilizationFactor < 1

/-- What the laws below are about. -/
def core (bbr : Bbr) : (Nat × Nat × RecoveryState) × Mode := (bbr.windows,bbr.mode)

/-- The least and the largest window. -/
def bounds (conn : QuicConnectionState) : Nat × Nat :=
  (kMinCwndInMssForBbr * conn.udpSendPacketLen,
    conn.transportSettings.maxCwndInMss * conn.udpSendPacketLen)

section Stages

private theorem noteAppLimited_core : bbr.noteAppLimited.core = bbr.core := by
  unfold noteAppLimited
  split_ifs <;> rfl

end Stages

/-- The windows stay, and a gain that fits its state fits the new one too, unless Drain was entered
in background mode. -/
structure Paced (bbr after : Bbr) : Prop where
  kept : after.windows = bbr.windows
  drains : bbr.mode.Drains → (after.mode.Drains ↔ ¬bbr.mode.DrainsAside after.mode)

variable {middle : Bbr}

theorem Paced.of_core (paced : Paced bbr middle) (same : after.core = middle.core) :
    Paced bbr after := by
  simp only [core,Prod.mk.injEq] at same
  exact ⟨same.1.trans paced.kept,by rw [same.2]; exact paced.drains⟩

theorem Paced.refl (bbr : Bbr) : Paced bbr bbr :=
  ⟨rfl,fun drains => iff_of_true drains fun aside => aside.1 aside.2.1⟩

/-- Other states than Drain. -/
theorem Paced.leave (kept : after.windows = bbr.windows) (left : after.state ≠ .drain)
    (faster : after.state = .startup → 1 < after.pacingGain) : Paced bbr after :=
  ⟨kept,fun _ => iff_of_true ⟨fun drain => absurd drain left,faster⟩ fun aside => left aside.2.1⟩

theorem Paced.probeBw {time : TimePoint} (paced : Paced bbr middle) :
    Paced bbr (middle.transitToProbeBw readings time) :=
  .leave paced.kept nofun nofun

theorem Paced.probeRtt (paced : Paced bbr middle) : Paced bbr middle.transitToProbeRtt :=
  .leave (paced.of_core noteAppLimited_core).kept nofun nofun

theorem Paced.starts (paced : Paced bbr middle) : Paced bbr middle.transitToStartup := by
  refine .leave paced.kept nofun fun _ => ?_
  change 1 < if middle.isInBackgroundMode then kStartupGain / 2 else kStartupGain
  split_ifs <;> norm_num [kStartupGain]

/-- A stage that may be passed over. -/
theorem Paced.ite {applies : Prop} [Decidable applies] (paced : Paced bbr after)
    (applied : applies → Paced bbr middle) : Paced bbr (if applies then middle else after) := by
  split_ifs with here
  · exact applied here
  · exact paced

theorem Paced.handleAckInProbeRtt {ackTime : TimePoint} (paced : Paced bbr middle) :
    Paced bbr (middle.handleAckInProbeRtt conn readings newRoundTrip ackTime) := by
  have noted := paced.of_core noteAppLimited_core
  unfold Bbr.handleAckInProbeRtt
  generalize middle.noteAppLimited = middle at noted
  dsimp only
  split
  · exact noted.ite fun _ => noted.of_core rfl
  · have counted : Paced bbr (if (middle.probeRttRound.isNone && newRoundTrip) = true then
        {middle with probeRttRound := some middle.roundTripCounter} else middle) :=
      noted.ite fun _ => noted.of_core rfl
    exact counted.ite fun _ => counted.starts.ite fun _ => counted.probeBw

/-- There is room between the bounds, both windows respect the lower one, and the congestion window
the upper one. -/
structure Bounded (bounds : Nat × Nat) (bbr : Bbr) : Prop where
  room : bounds.1 ≤ bounds.2
  small : bounds.1 < 2^64
  least : bounds.1 ≤ bbr.cwnd
  most : bbr.cwnd ≤ bounds.2
  recovery : bbr.inRecovery → bounds.1 ≤ bbr.recoveryWindow ∧ bbr.recoveryWindow < 2^64

def WithinBounds (state : QuicConnectionState × Bbr) : Prop :=
  (bounds state.1).1 ≤ state.2.getCongestionWindow state.1 ∧
    state.2.getCongestionWindow state.1 ≤ (bounds state.1).2

/-- The recovery window that a loss is taken from, with these bytes in flight or acknowledged. -/
def windowAtLoss (conn : QuicConnectionState) (bbr : Bbr) (bytes : Nat) : Nat :=
  if bbr.inRecovery then bbr.recoveryWindow else settledBbrCwnd conn bytes

namespace Bounded

variable (bounded : Bounded (bounds conn) bbr)
include bounded

theorem min_eq : minBbrCwnd conn = (bounds conn).1 := by
  rw [minBbrCwnd,mul64,Nat.mul_comm]
  exact Nat.mod_eq_of_lt bounded.small

theorem settled (cwnd : Nat) :
    (bounds conn).1 ≤ settledBbrCwnd conn cwnd ∧ settledBbrCwnd conn cwnd ≤ (bounds conn).2 ∧
      settledBbrCwnd conn cwnd < 2^64 := by
  have room := bounded.room
  have small := bounded.small
  have least : mul64 kMinCwndInMssForBbr conn.udpSendPacketLen = (bounds conn).1 :=
    Nat.mod_eq_of_lt small
  have most : mul64 conn.transportSettings.maxCwndInMss conn.udpSendPacketLen ≤ (bounds conn).2 :=
    Nat.mod_le _ _
  have fits : mul64 conn.transportSettings.maxCwndInMss conn.udpSendPacketLen < 2^64 :=
    Nat.mod_lt _ (by norm_num)
  unfold settledBbrCwnd boundedCwnd
  omega

theorem within : WithinBounds (conn,bbr) := by
  unfold WithinBounds getCongestionWindow
  split_ifs with probes large recovers
  · exact ⟨(bounded.settled _).1,(bounded.settled _).2.1⟩
  · rw [bounded.min_eq]
    exact ⟨le_refl _,bounded.room⟩
  · exact ⟨le_min bounded.least (bounded.recovery recovers).1,(min_le_left _ _).trans bounded.most⟩
  · exact ⟨bounded.least,bounded.most⟩

theorem atLoss (bytes : Nat) :
    (bounds conn).1 ≤ windowAtLoss conn bbr bytes ∧ windowAtLoss conn bbr bytes < 2^64 := by
  unfold windowAtLoss
  split_ifs with recovers
  · exact bounded.recovery recovers
  · exact ⟨(bounded.settled bytes).1,(bounded.settled bytes).2.2⟩

theorem lowered {lost : Nat} (fits : lost + (bounds conn).1 < 2^64) {bytes : Nat}
    (above : add64 lost (minBbrCwnd conn) < windowAtLoss conn bbr bytes) :
    lost ≤ windowAtLoss conn bbr bytes ∧ (bounds conn).1 ≤ sub64 (windowAtLoss conn bbr bytes) lost ∧
      sub64 (windowAtLoss conn bbr bytes) lost < 2^64 := by
  have window := (bounded.atLoss bytes).2
  rw [bounded.min_eq] at above
  unfold add64 sub64 wrap64 at *
  omega

theorem updateCwnd {acked excessive : Nat} :
    Bounded (bounds conn) (bbr.updateCwnd conn readings acked excessive) := by
  unfold Bbr.updateCwnd
  split
  · exact bounded
  · exact ⟨bounded.room,bounded.small,(bounded.settled _).1,(bounded.settled _).2.1,bounded.recovery⟩

end Bounded

/-- The mode stays, and so do the bounds if the condition is met. -/
def Rewindows (condition : Prop) (bounds : Nat × Nat) (bbr after : Bbr) : Prop :=
  after.mode = bbr.mode ∧ (condition → Bounded bounds bbr → Bounded bounds after)

/-- What a call comes to, if its loss meets the condition. -/
structure Calls (condition : Prop) (state result : QuicConnectionState × Bbr) : Prop where
  framed : bounds result.1 = bounds state.1
  bounded : condition → Bounded (bounds state.1) state.2 → Bounded (bounds state.1) result.2
  drains : state.2.mode.Drains →
    (result.2.mode.Drains ↔ ¬state.2.mode.DrainsAside result.2.mode)

variable {condition : Prop} {result : QuicConnectionState × Bbr} {loss : Option LossEvent}

theorem Rewindows.calls (rewindows : Rewindows condition (bounds conn) bbr after)
    (framed : bounds next = bounds conn) : Calls condition (conn,bbr) (next,after) := by
  refine ⟨framed,rewindows.2,?_⟩
  rw [rewindows.1]
  exact (Paced.refl bbr).drains

theorem Rewindows.trans (rewindows : Rewindows condition (bounds conn) bbr middle)
    (framed : bounds next = bounds conn) (calls : Calls condition (next,middle) result) :
    Calls condition (conn,bbr) result := by
  obtain ⟨same,bounded,drains⟩ := calls
  rw [framed] at same bounded
  refine ⟨same,fun met kept => bounded met (rewindows.2 met kept),?_⟩
  rw [← rewindows.1]
  exact drains

/-- The lost bytes and the least window fit in 64 bits together. -/
def Action.Fits (least : Nat) : Action → Prop
  | .packetAckOrLoss _ _ (some loss) => loss.lostBytes + least < 2^64
  | _ => True

section Runs

variable (conn : QuicConnectionState) (cwndBytes : Nat) (scaled : Rat → Nat → Nat → Nat)
  (hasMinRttSampler hasBandwidthSampler isExperimental : Bool) (actions : List Action)

end Runs

end StreamServer.Congestion.Bbr
