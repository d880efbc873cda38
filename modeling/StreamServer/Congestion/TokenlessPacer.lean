import StreamServer.Lib.Transition
import StreamServer.Protocol.Constants

/-! The pacer without tokens: a batch of packets in each write interval. It obeys its maximum rate
as long as round trips are not shorter than a tick, are not scaled down, and windows not too small. -/
namespace StreamServer.Congestion
open Protocol Lib.Transition

def kDefaultMinRtt : Nat := 2^63 - 1
def kUnlimitedRate : Nat := 2^64 - 1

/-- What the pacer reads of its connection. Times are in microseconds, and none reaches 2^63. -/
structure PacedConnection where
  udpSendPacketLen : Nat := 1232
  pacingTickInterval : Nat := 1000
  writeConnectionDataPacketsLimit : Nat := 5
  minBurstPackets : Nat := 5

structure PacingRate where
  interval : Nat
  burstSize : Nat

/-- `ceiled` is what a floating-point quotient comes to when it is rounded up. -/
def calculatePacingRate (conn : PacedConnection) (cwnd minCwndInMss rtt ceiled : Nat) :
    Except String PacingRate :=
  let cwndInPackets := max minCwndInMss (cwnd / conn.udpSendPacketLen)
  let burstPerInterval := max conn.minBurstPackets ceiled
  if conn.pacingTickInterval > rtt then .ok ⟨0,conn.writeConnectionDataPacketsLimit⟩
  else if conn.udpSendPacketLen = 0 ∨ cwndInPackets = 0 then .error "division by zero"
  else .ok ⟨max conn.pacingTickInterval (mul64 rtt burstPerInterval / cwndInPackets),burstPerInterval⟩

structure TokenlessPacer where
  conn : PacedConnection
  minCwndInMss : Nat
  batchSize : Nat := conn.writeConnectionDataPacketsLimit
  maxPacingRateBytesPerSec : Nat := kUnlimitedRate
  writeInterval : Nat := 0
  rttFactorNumerator : UInt8 := 1
  rttFactorDenominator : UInt8 := 1

def targetRateBytesPerSec (cwndBytes rtt : Nat) : Nat :=
  if rtt = 0 then kUnlimitedRate else mul64 cwndBytes 1000000 / rtt

namespace TokenlessPacer

def setPacingRate (pacer : TokenlessPacer) (rateBps : Nat) : TokenlessPacer :=
  let rate := min rateBps pacer.maxPacingRateBytesPerSec
  let batchSize := pacer.conn.writeConnectionDataPacketsLimit
  if rate = 0 then {pacer with batchSize := 0, writeInterval := pacer.conn.pacingTickInterval}
  else {pacer with
    batchSize
    writeInterval := max (wrap64 (batchSize * pacer.conn.udpSendPacketLen * 1000000) / rate)
      pacer.conn.pacingTickInterval}

/-- Division by zero and overflow of signed integers are undefined, and end a run. -/
def refreshPacingRate (pacer : TokenlessPacer) (cwndBytes rtt ceiled : Nat) :
    Except String TokenlessPacer :=
  if rtt = kDefaultMinRtt then .ok pacer
  else if targetRateBytesPerSec cwndBytes rtt > pacer.maxPacingRateBytesPerSec then
    .ok (pacer.setPacingRate pacer.maxPacingRateBytesPerSec)
  else if rtt < pacer.conn.pacingTickInterval then
    .ok {pacer with
      writeInterval := 0
      batchSize := pacer.conn.writeConnectionDataPacketsLimit}
  else if rtt * pacer.rttFactorNumerator.toNat ≥ 2^63 then .error "signed overflow"
  else if pacer.rttFactorDenominator = 0 then .error "division by zero"
  else do
    let pacingRate ← calculatePacingRate pacer.conn cwndBytes pacer.minCwndInMss
      (rtt * pacer.rttFactorNumerator.toNat / pacer.rttFactorDenominator.toNat) ceiled
    return {pacer with writeInterval := pacingRate.interval, batchSize := pacingRate.burstSize}

def bytesPerBatch (pacer : TokenlessPacer) : Nat := pacer.batchSize * pacer.conn.udpSendPacketLen

def setMaxPacingRate (pacer : TokenlessPacer) (maxRateBytesPerSec : Nat) : TokenlessPacer :=
  let currentRateBytesPerSec := if pacer.writeInterval = 0 then kUnlimitedRate
    else wrap64 (pacer.bytesPerBatch * 1000000) / pacer.writeInterval
  let limited := {pacer with maxPacingRateBytesPerSec := maxRateBytesPerSec}
  if currentRateBytesPerSec > maxRateBytesPerSec then limited.setPacingRate maxRateBytesPerSec
  else limited

end TokenlessPacer

inductive PacerAction where
  | refreshPacingRate (cwndBytes rtt ceiled : Nat)
  | setPacingRate (rateBps : Nat)
  | setMaxPacingRate (maxRateBytesPerSec : Nat)
  | setRttFactor (numerator denominator : UInt8)

namespace TokenlessPacer

def step (pacer : TokenlessPacer) : PacerAction → Except String TokenlessPacer
  | .refreshPacingRate cwndBytes rtt ceiled => pacer.refreshPacingRate cwndBytes rtt ceiled
  | .setPacingRate rateBps => .ok (pacer.setPacingRate rateBps)
  | .setMaxPacingRate maxRateBytesPerSec => .ok (pacer.setMaxPacingRate maxRateBytesPerSec)
  | .setRttFactor numerator denominator =>
    .ok {pacer with rttFactorNumerator := numerator, rttFactorDenominator := denominator}

def Limited (pacer : TokenlessPacer) : Prop :=
  0 < pacer.maxPacingRateBytesPerSec ∧ pacer.maxPacingRateBytesPerSec < kUnlimitedRate

/-- With a maximum set there is an interval between batches, and the rate is below the maximum up to
one microsecond of the interval. -/
def Obeys (pacer : TokenlessPacer) : Prop :=
  pacer.Limited → pacer.writeInterval ≠ 0 ∧
    pacer.bytesPerBatch * 1000000 / (pacer.writeInterval + 1) ≤ pacer.maxPacingRateBytesPerSec

/-- Rates are computed without wrapping. When a window is spread over a round trip, that is not
shorter than a tick nor scaled down, and the window holds the least number of packets. -/
def Unhurried (pacer : TokenlessPacer) : PacerAction → Prop
  | .refreshPacingRate cwndBytes rtt ceiled => rtt ≠ kDefaultMinRtt → pacer.Limited →
    cwndBytes * 1000000 < 2^64 ∧
      (targetRateBytesPerSec cwndBytes rtt ≤ pacer.maxPacingRateBytesPerSec →
        pacer.conn.pacingTickInterval ≤ rtt ∧
        pacer.rttFactorDenominator.toNat ≤ pacer.rttFactorNumerator.toNat ∧
        pacer.minCwndInMss * pacer.conn.udpSendPacketLen ≤ cwndBytes ∧
        rtt * pacer.rttFactorNumerator.toNat / pacer.rttFactorDenominator.toNat *
          max pacer.conn.minBurstPackets ceiled < 2^63)
  | .setMaxPacingRate _ => pacer.bytesPerBatch * 1000000 < 2^64
  | _ => True

/-- There are ticks, and the rate of the largest batch is computed without wrapping. -/
def Sized (conn : PacedConnection) : Prop :=
  0 < conn.pacingTickInterval ∧
    conn.writeConnectionDataPacketsLimit * conn.udpSendPacketLen * 1000000 < 2^63

variable {pacer next : TokenlessPacer} {action : PacerAction} {cwndBytes rtt ceiled : Nat}

private theorem setPacingRate_obeys (sized : Sized pacer.conn) (rateBps : Nat) :
    (pacer.setPacingRate rateBps).conn = pacer.conn ∧ (pacer.setPacingRate rateBps).Obeys := by
  obtain ⟨ticks,fits⟩ := sized
  unfold setPacingRate
  extract_lets rate batchSize
  have capped : rate ≤ pacer.maxPacingRateBytesPerSec := Nat.min_le_right _ _
  split_ifs with zero
  · exact ⟨rfl,fun _ => ⟨ticks.ne',by simp [bytesPerBatch]⟩⟩
  · refine ⟨rfl,fun _ => ⟨(ticks.trans_le (Nat.le_max_right _ _)).ne',Nat.div_le_of_le_mul ?_⟩⟩
    rw [show wrap64 _ = _ from Nat.mod_eq_of_lt (fits.trans (by decide))]
    have below := Nat.lt_mul_div_succ (batchSize * pacer.conn.udpSendPacketLen * 1000000)
      (Nat.pos_of_ne_zero zero)
    refine below.le.trans ?_
    rw [Nat.mul_comm]
    exact Nat.mul_le_mul (Nat.succ_le_succ (Nat.le_max_left _ _)) capped

private theorem spread_capped {len packets burst scaled interval maximum : Nat}
    (holds : packets * len ≤ cwndBytes) (longer : rtt ≤ scaled)
    (target : cwndBytes * 1000000 < rtt * (maximum + 1))
    (spread : scaled * burst < packets * (interval + 1)) :
    burst * len * 1000000 / (interval + 1) ≤ maximum := by
  refine Nat.le_of_lt_succ (Nat.div_lt_of_lt_mul ?_)
  have positive : 0 < rtt := Nat.pos_of_ne_zero fun zero => by simp [zero] at target
  refine Nat.lt_of_mul_lt_mul_left (a := rtt) ?_
  calc rtt * (burst * len * 1000000)
      ≤ scaled * burst * (len * 1000000) := by
        rw [Nat.mul_assoc burst,← Nat.mul_assoc]
        exact Nat.mul_le_mul_right _ (Nat.mul_le_mul_right _ longer)
    _ ≤ packets * (interval + 1) * (len * 1000000) := Nat.mul_le_mul_right _ spread.le
    _ = packets * len * 1000000 * (interval + 1) := by ring
    _ ≤ cwndBytes * 1000000 * (interval + 1) :=
        Nat.mul_le_mul_right _ (Nat.mul_le_mul_right _ holds)
    _ < rtt * (maximum + 1) * (interval + 1) := Nat.mul_lt_mul_of_pos_right target (Nat.succ_pos _)
    _ = rtt * ((interval + 1) * maximum.succ) := by rw [Nat.mul_assoc,Nat.mul_comm (maximum + 1)]

private theorem target_bounds {maximum : Nat} (positive : 0 < rtt) (fits : cwndBytes * 1000000 < 2^64)
    (below : targetRateBytesPerSec cwndBytes rtt ≤ maximum) :
    cwndBytes * 1000000 < rtt * (maximum + 1) := by
  rw [targetRateBytesPerSec,if_neg positive.ne',mul64,wrap64,Nat.mod_eq_of_lt fits] at below
  rw [Nat.mul_comm rtt]
  exact (Nat.div_lt_iff_lt_mul positive).mp (Nat.lt_succ_of_le below)

private theorem refreshPacingRate_obeys (sized : Sized pacer.conn) (obeys : pacer.Obeys)
    (unhurried : pacer.Unhurried (.refreshPacingRate cwndBytes rtt ceiled))
    (done : pacer.refreshPacingRate cwndBytes rtt ceiled = .ok next) :
    next.conn = pacer.conn ∧ next.Obeys := by
  unfold refreshPacingRate at done
  split_ifs at done with unknown above early
  · cases done
    exact ⟨rfl,obeys⟩
  · cases done
    exact setPacingRate_obeys sized _
  · cases done
    refine ⟨rfl,fun limited => ?_⟩
    have ticks := ((unhurried unknown limited).2 (Nat.le_of_not_lt above)).1
    omega
  · next some =>
    obtain ⟨rate,calculated,made⟩ := bind_ok.mp done
    cases made
    refine ⟨rfl,fun limited => ?_⟩
    obtain ⟨fits,slow⟩ := unhurried unknown limited
    obtain ⟨ticks,slower,holds,exact⟩ := slow (Nat.le_of_not_lt above)
    have divides : 0 < pacer.rttFactorDenominator.toNat :=
      Nat.pos_of_ne_zero fun zero => some (UInt8.toNat_inj.mp zero)
    have longer : rtt ≤ rtt * pacer.rttFactorNumerator.toNat / pacer.rttFactorDenominator.toNat :=
      (Nat.le_div_iff_mul_le divides).mpr (Nat.mul_le_mul_left _ slower)
    unfold calculatePacingRate at calculated
    extract_lets packets burst at calculated
    split_ifs at calculated with shorter zero
    · omega
    · cases calculated
      obtain ⟨long,packed⟩ := not_or.mp zero
      have target := target_bounds (sized.1.trans_le ticks) fits (Nat.le_of_not_lt above)
      have lengths := Nat.pos_of_ne_zero long
      have held : packets * pacer.conn.udpSendPacketLen ≤ cwndBytes :=
        (Nat.le_div_iff_mul_le lengths).mp
          (max_le ((Nat.le_div_iff_mul_le lengths).mpr holds) le_rfl)
      have spread := Nat.lt_mul_div_succ (rtt * pacer.rttFactorNumerator.toNat /
        pacer.rttFactorDenominator.toNat * burst) (Nat.pos_of_ne_zero packed)
      refine ⟨(sized.1.trans_le (Nat.le_max_left _ _)).ne',spread_capped held longer target
        (spread.trans_le (Nat.mul_le_mul_left _ (Nat.succ_le_succ ?_)))⟩
      rw [mul64,wrap64,Nat.mod_eq_of_lt (exact.trans (by decide))]
      exact Nat.le_max_right _ _

private theorem setMaxPacingRate_obeys (sized : Sized pacer.conn)
    (fits : pacer.bytesPerBatch * 1000000 < 2^64) (maxRate : Nat) :
    (pacer.setMaxPacingRate maxRate).conn = pacer.conn ∧ (pacer.setMaxPacingRate maxRate).Obeys := by
  unfold setMaxPacingRate
  extract_lets current limited
  split_ifs with above
  · exact @setPacingRate_obeys limited sized maxRate
  · refine ⟨rfl,fun finite => ?_⟩
    have paced : pacer.writeInterval ≠ 0 := fun zero => by
      have same : current = kUnlimitedRate := if_pos zero
      exact above (same ▸ finite.2)
    have slow : current ≤ maxRate := Nat.le_of_not_lt above
    rw [show current = _ from if_neg paced,wrap64,Nat.mod_eq_of_lt fits] at slow
    exact ⟨paced,(Nat.div_le_div_left (Nat.le_succ _) (Nat.pos_of_ne_zero paced)).trans slow⟩

private theorem step_obeys (sized : Sized pacer.conn) (obeys : pacer.Obeys)
    (unhurried : pacer.Unhurried action) (done : pacer.step action = .ok next) :
    next.conn = pacer.conn ∧ next.Obeys := by
  cases action with
  | refreshPacingRate cwndBytes rtt ceiled => exact refreshPacingRate_obeys sized obeys unhurried done
  | setPacingRate rateBps =>
    cases done
    exact setPacingRate_obeys sized rateBps
  | setMaxPacingRate maxRate =>
    cases done
    exact setMaxPacingRate_obeys sized unhurried maxRate
  | setRttFactor numerator denominator =>
    cases done
    exact ⟨rfl,obeys⟩

theorem max_rate_obeyed (conn : PacedConnection) (minCwndInMss : Nat) (actions : List PacerAction)
    (sized : Sized conn) (unhurried : StepsMeet step Unhurried {conn, minCwndInMss} actions) :
    Throughout step Obeys {conn, minCwndInMss} actions := by
  refine @throughout_of_stepsMeet _ _ _ _ _ _ _ _ (fun pacer => pacer.conn = conn)
    (fun pacer action next same obeys unhurried done => ?_) rfl
    (fun limited => absurd limited.2 (lt_irrefl _)) unhurried
  obtain ⟨kept,still⟩ := step_obeys (same ▸ sized) obeys unhurried done
  exact ⟨kept.trans same,still⟩

theorem max_rate_obeyed_slow_path :
    Throughout step Obeys {conn := {}, minCwndInMss := 10}
      [.setMaxPacingRate 1000000,.refreshPacingRate 12320 20000 1] := by
  refine max_rate_obeyed {} 10 _ ⟨by decide,by decide⟩ ?_
  rintro _ ⟨⟩
  refine ⟨show 5 * 1232 * 1000000 < 2^64 by decide,?_⟩
  rintro _ ⟨⟩
  exact ⟨fun _ _ => ⟨by decide,fun _ => by decide⟩,trivial⟩

/-- A round trip that is shorter than a tick switches pacing off. -/
theorem short_round_trip_unpaced :
    (run step {conn := {}, minCwndInMss := 10}
      [.setMaxPacingRate 1000000000,.refreshPacingRate 12320 100 0]).toOption.map (fun pacer =>
        (pacer.maxPacingRateBytesPerSec,pacer.writeInterval,pacer.batchSize)) =
      some (1000000000,0,5) := by
  decide

end TokenlessPacer

end StreamServer.Congestion
