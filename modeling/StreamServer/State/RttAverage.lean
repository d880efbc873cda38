import StreamServer.State.AckHandlers

/-! The smoothed round-trip time against its samples. Both terms of the average are rounded
down, so that it can fall below every sample it is an average of, and to zero. Nothing is lost below
a multiple of eight, and no step loses two microseconds. -/
namespace StreamServer.State
open Protocol Loss Lib.Transition

/-- A call whose products and sums stay within the 64 bits of the duration type. -/
structure RttCall where
  rttSample : Microseconds
  ackDelay : Microseconds
  positive : 0 < rttSample
  counted : 7 * rttSample ≤ 2^63 - 1
  delayed : 0 ≤ ackDelay ∧ 7 * ackDelay ≤ 2^63 - 1

def RttCall.adjustedRtt (call : RttCall) (conn : QuicConnectionState) : Microseconds :=
  if call.rttSample > call.ackDelay ∧
      call.rttSample > min conn.lossState.mrtt call.rttSample + call.ackDelay then
    call.rttSample - call.ackDelay
  else call.rttSample

/-- A connection and the samples it has seen, the latest first. -/
structure RttHistory where
  conn : QuicConnectionState
  samples : List Microseconds := []
  adjusted : List Microseconds := []

def takeSample (history : RttHistory) (call : RttCall) : Except Error RttHistory :=
  .ok ⟨updateRtt history.conn call.rttSample call.ackDelay,call.rttSample :: history.samples,
    call.adjustedRtt history.conn :: history.adjusted⟩

structure WithinSamples (history : RttHistory) : Prop where
  minimum : history.conn.lossState.mrtt ∈ history.samples ∧
    ∀ sample ∈ history.samples, history.conn.lossState.mrtt ≤ sample
  low : ∃ sample ∈ history.adjusted, sample ≤ history.conn.lossState.srtt
  high : ∃ sample ∈ history.adjusted, history.conn.lossState.srtt ≤ sample
  positive : 0 < history.conn.lossState.srtt
  timeout : calculatePTO history.conn = history.conn.lossState.srtt +
    4 * history.conn.lossState.rttvar + history.conn.lossState.maxAckDelay
  variance : 0 ≤ history.conn.lossState.rttvar
  spread : (∀ first ∈ history.samples.getLast?, 2 * history.conn.lossState.rttvar ≤ first) ∨
    ∃ a ∈ history.adjusted, ∃ b ∈ history.adjusted, history.conn.lossState.rttvar ≤ b - a

/-- The smallest adjusted sample, the present one included, is a multiple of eight, or the average
and the present sample are above it by more than the roundings can take away. -/
def RoundsAbove (history : RttHistory) (call : RttCall) : Prop :=
  history.samples ≠ [] → ∃ low ∈ call.adjustedRtt history.conn :: history.adjusted,
    (∀ sample ∈ call.adjustedRtt history.conn :: history.adjusted, low ≤ sample) ∧
      (8 ∣ low ∨ 8 * low + 14 ≤ 7 * history.conn.lossState.srtt + call.adjustedRtt history.conn)

private structure Sampled (history : RttHistory) : Prop where
  fresh : history.samples = [] → history.conn.lossState.srtt = 0 ∧
    history.conn.lossState.mrtt = 2^63 - 1
  positive : ∀ sample ∈ history.adjusted, 0 < sample

variable {history next : RttHistory} {call : RttCall}

private theorem adjustedRtt_positive : 0 < call.adjustedRtt history.conn := by
  unfold RttCall.adjustedRtt
  split
  next late => exact Int.sub_pos.mpr late.1
  next => exact call.positive

private theorem distance_eq (a b : Int) : (if a > b then a - b else b - a) = |a - b| := by
  split
  next larger => rw [abs_of_pos (Int.sub_pos.mpr larger)]
  next smaller => rw [abs_sub_comm,abs_of_nonneg (by omega)]

private theorem updateRtt_later (sampled : 0 < history.conn.lossState.srtt)
    (variance : 0 ≤ history.conn.lossState.rttvar) :
    (updateRtt history.conn call.rttSample call.ackDelay).lossState.srtt =
        history.conn.lossState.srtt * 7 / 8 + call.adjustedRtt history.conn / 8 ∧
      (updateRtt history.conn call.rttSample call.ackDelay).lossState.rttvar =
        history.conn.lossState.rttvar * 3 / 4 +
          |history.conn.lossState.srtt - call.adjustedRtt history.conn| / 4 := by
  constructor
  · refine (if_neg sampled.ne').trans ?_
    exact congrArg₂ _ (Int.tdiv_eq_ediv_of_nonneg (Int.mul_nonneg sampled.le (by decide)))
      (Int.tdiv_eq_ediv_of_nonneg adjustedRtt_positive.le)
  · refine (if_neg sampled.ne').trans ?_
    rw [← distance_eq]
    refine congrArg₂ _ (Int.tdiv_eq_ediv_of_nonneg (Int.mul_nonneg variance (by decide)))
      (Int.tdiv_eq_ediv_of_nonneg ?_)
    rw [distance_eq]
    exact abs_nonneg _

private theorem le_average {srtt adjusted low : Int} (above : low ≤ srtt) (sample : low ≤ adjusted)
    (rounds : 8 ∣ low ∨ 8 * low + 14 ≤ 7 * srtt + adjusted) :
    low ≤ srtt * 7 / 8 + adjusted / 8 := by
  omega

private theorem dvd_of_le_average {sample : Int} (kept : sample ≤ sample * 7 / 8 + sample / 8) :
    8 ∣ sample := by
  omega

private theorem average_le {srtt adjusted high : Int} (below : srtt ≤ high) (sample : adjusted ≤ high) :
    srtt * 7 / 8 + adjusted / 8 ≤ high := by
  omega

/-- The weighted sum of two numbers is at most the larger one. -/
private theorem variance_le (rttvar distance : Int) :
    rttvar * 3 / 4 + distance / 4 ≤ rttvar ∨ rttvar * 3 / 4 + distance / 4 ≤ distance := by
  omega

private theorem calculatePTO_sampled {conn : QuicConnectionState} (sampled : 0 < conn.lossState.srtt) :
    calculatePTO conn =
      conn.lossState.srtt + 4 * conn.lossState.rttvar + conn.lossState.maxAckDelay :=
  if_neg sampled.ne'

private theorem RttCall.small (call : RttCall) : call.rttSample ≤ 2^63 - 1 :=
  (le_mul_of_one_le_left call.positive.le (by decide)).trans call.counted

private theorem adjustedRtt_constant (low : call.rttSample ≤ history.conn.lossState.mrtt) :
    call.adjustedRtt history.conn = call.rttSample := by
  refine if_neg fun late => ?_
  rw [min_eq_right low] at late
  exact absurd late.2 (Int.not_lt.mpr (Int.le_add_of_nonneg_right call.delayed.1))

private theorem first_within (sampled : Sampled history) (none : history.samples = [])
    (taken : takeSample history call = .ok next) : WithinSamples next := by
  obtain ⟨unsampled,largest⟩ := sampled.fresh none
  have positive : 0 < call.adjustedRtt history.conn := adjustedRtt_positive
  have srtt : (updateRtt history.conn call.rttSample call.ackDelay).lossState.srtt =
      call.adjustedRtt history.conn := if_pos unsampled
  have rttvar : (updateRtt history.conn call.rttSample call.ackDelay).lossState.rttvar =
      call.adjustedRtt history.conn / 2 :=
    (if_pos unsampled).trans (Int.tdiv_eq_ediv_of_nonneg positive.le)
  have low : call.rttSample ≤ history.conn.lossState.mrtt := largest ▸ call.small
  have plain := adjustedRtt_constant low
  cases taken
  refine ⟨?_,⟨_,List.mem_cons_self ..,srtt.ge⟩,⟨_,List.mem_cons_self ..,srtt.le⟩,srtt ▸ positive,
    calculatePTO_sampled (srtt ▸ positive),rttvar ▸ Int.ediv_nonneg positive.le (by decide),.inl ?_⟩
  · change min _ _ ∈ _ ∧ ∀ sample ∈ _,min _ _ ≤ sample
    rw [min_eq_right low,none]
    simp
  · rw [none,rttvar,plain]
    intro first same
    cases same
    exact Int.mul_ediv_self_le (by decide)

private theorem later_spread (within : WithinSamples history)
    (rttvar : next.conn.lossState.rttvar = history.conn.lossState.rttvar * 3 / 4 +
      |history.conn.lossState.srtt - call.adjustedRtt history.conn| / 4)
    (samples : next.samples = call.rttSample :: history.samples := by rfl)
    (adjusted : next.adjusted = call.adjustedRtt history.conn :: history.adjusted := by rfl) :
    (∀ first ∈ next.samples.getLast?, 2 * next.conn.lossState.rttvar ≤ first) ∨
      ∃ a ∈ next.adjusted, ∃ b ∈ next.adjusted, next.conn.lossState.rttvar ≤ b - a := by
  rw [rttvar,samples,adjusted]
  obtain ⟨low,lowSeen,below⟩ := within.low
  obtain ⟨high,highSeen,above⟩ := within.high
  rcases variance_le history.conn.lossState.rttvar
    |history.conn.lossState.srtt - call.adjustedRtt history.conn| with kept | distance
  · rcases within.spread with half | ⟨a,inA,b,inB,apart⟩
    · refine .inl fun first last => ?_
      have same : first ∈ history.samples.getLast? := by
        rw [List.getLast?_cons] at last
        cases earlier : history.samples.getLast? with
        | none =>
          rw [List.getLast?_eq_none_iff] at earlier
          exact absurd (earlier ▸ within.minimum.1) List.not_mem_nil
        | some value =>
          rw [earlier] at last
          exact last
      exact (Int.mul_le_mul_of_nonneg_left kept (by decide)).trans (half first same)
    · exact .inr ⟨a,List.mem_cons_of_mem _ inA,b,List.mem_cons_of_mem _ inB,kept.trans apart⟩
  -- A new deviation is a distance to the lowest or to the highest sample at most.
  · right
    rcases le_total history.conn.lossState.srtt (call.adjustedRtt history.conn) with less | more
    · refine ⟨low,List.mem_cons_of_mem _ lowSeen,_,List.mem_cons_self ..,distance.trans ?_⟩
      rw [abs_sub_comm,abs_of_nonneg (Int.sub_nonneg.mpr less)]
      exact Int.sub_le_sub_left below _
    · refine ⟨_,List.mem_cons_self ..,high,List.mem_cons_of_mem _ highSeen,distance.trans ?_⟩
      rw [abs_of_nonneg (Int.sub_nonneg.mpr more)]
      exact Int.sub_le_sub_right above _

private theorem later_within (within : WithinSamples history) (sampled : Sampled history)
    (rounds : RoundsAbove history call) (taken : takeSample history call = .ok next) :
    WithinSamples next := by
  obtain ⟨srtt,rttvar⟩ := @updateRtt_later history call within.positive within.variance
  have adjusted : 0 < call.adjustedRtt history.conn := adjustedRtt_positive
  obtain ⟨before,beforeSeen,below⟩ := within.low
  obtain ⟨high,highSeen,highest⟩ := within.high
  obtain ⟨low,lowSeen,smallest,rounds⟩ := rounds (List.ne_nil_of_mem within.minimum.1)
  have lowest := le_average ((smallest before (List.mem_cons_of_mem _ beforeSeen)).trans below)
    (smallest _ (List.mem_cons_self ..)) rounds
  cases taken
  have positive : 0 < low := by
    rcases List.mem_cons.mp lowSeen with rfl | seen
    · exact adjusted
    · exact sampled.positive low seen
  have above := positive.trans_le (srtt ▸ lowest)
  refine ⟨?_,⟨low,lowSeen,srtt ▸ lowest⟩,?_,above,calculatePTO_sampled above,?_,?_⟩
  · change min _ _ ∈ _ ∧ ∀ sample ∈ _,min _ _ ≤ sample
    refine ⟨?_,fun sample seen => ?_⟩
    · rcases min_choice history.conn.lossState.mrtt call.rttSample with same | same
      · rw [same]
        exact List.mem_cons_of_mem _ within.minimum.1
      · rw [same]
        exact List.mem_cons_self ..
    · rcases List.mem_cons.mp seen with rfl | seen
      · exact min_le_right _ _
      · exact (min_le_left _ _).trans (within.minimum.2 sample seen)
  · change ∃ sample ∈ _,(updateRtt _ _ _).lossState.srtt ≤ sample
    rw [srtt]
    rcases le_total (call.adjustedRtt history.conn) high with less | more
    · exact ⟨high,List.mem_cons_of_mem _ highSeen,average_le highest less⟩
    · exact ⟨_,List.mem_cons_self ..,average_le (highest.trans more) le_rfl⟩
  · change 0 ≤ (updateRtt _ _ _).lossState.rttvar
    rw [rttvar]
    exact Int.add_nonneg (Int.ediv_nonneg (Int.mul_nonneg within.variance (by decide)) (by decide))
      (Int.ediv_nonneg (abs_nonneg _) (by decide))
  · exact later_spread within rttvar

private theorem constant_meets (divides : 8 ∣ call.rttSample) (count : Nat)
    (low : call.rttSample ≤ history.conn.lossState.mrtt)
    (same : ∀ sample ∈ history.adjusted, sample = call.rttSample) :
    StepsMeet takeSample RoundsAbove history (List.replicate count call) := by
  induction count generalizing history with
  | zero => trivial
  | succ count ih =>
    have adjusted := adjustedRtt_constant low
    have all : ∀ sample ∈ call.adjustedRtt history.conn :: history.adjusted,
        sample = call.rttSample := List.forall_mem_cons.mpr ⟨adjusted,same⟩
    intro next taken
    refine ⟨fun _ => ⟨_,List.mem_cons_self ..,fun sample seen => ?_,.inl ?_⟩,?_⟩
    · rw [all sample seen,adjusted]
    · rwa [adjusted]
    · cases taken
      exact ih (le_min low le_rfl) all

/-- The second of two equal samples leaves the first only if nothing is rounded away. -/
private theorem constant_divides {conn : QuicConnectionState} (sampled : Sampled ⟨conn,[],[]⟩)
    {count : Nat} (within : Throughout takeSample (fun history => history.samples ≠ [] →
      WithinSamples history) ⟨conn,[],[]⟩ (List.replicate (count + 2) call)) :
    8 ∣ call.rttSample := by
  obtain ⟨unsampled,largest⟩ := sampled.fresh rfl
  have low : call.rttSample ≤ conn.lossState.mrtt := largest ▸ call.small
  obtain ⟨once,taken⟩ : ∃ once, takeSample ⟨conn,[],[]⟩ call = .ok once := ⟨_,rfl⟩
  have held := first_within sampled rfl taken
  have first : once.conn.lossState.srtt = call.rttSample ∧ once.adjusted = [call.rttSample] ∧
      call.rttSample ≤ once.conn.lossState.mrtt := by
    have plain := @adjustedRtt_constant ⟨conn,[],[]⟩ call low
    cases taken
    exact ⟨(if_pos unsampled).trans plain,congrArg₂ _ plain rfl,le_min low le_rfl⟩
  have plain := adjustedRtt_constant first.2.2
  obtain ⟨srtt,-⟩ := @updateRtt_later once call held.positive held.variance
  obtain ⟨sample,seen,below⟩ := ((within.2 once taken).2 _ rfl).now (List.cons_ne_nil _ _) |>.low
  have same : sample = call.rttSample := by
    rw [plain,first.2.1] at seen
    simpa using seen
  rw [srtt,plain,first.1,same] at below
  exact dvd_of_le_average below

/-- The average is within its samples as long as no step can round it below the smallest one; a
sample that is repeated keeps it there exactly when it is a multiple of eight. -/
theorem rtt_within_samples (conn : QuicConnectionState) (fresh : conn.lossState.srtt = 0)
    (largest : conn.lossState.mrtt = 2^63 - 1) :
    (∀ calls, StepsMeet takeSample RoundsAbove ⟨conn,[],[]⟩ calls →
      Throughout takeSample (fun history => history.samples ≠ [] → WithinSamples history)
        ⟨conn,[],[]⟩ calls) ∧
    ∀ call count,
      Throughout takeSample (fun history => history.samples ≠ [] → WithinSamples history)
        ⟨conn,[],[]⟩ (List.replicate (count + 2) call) ↔ 8 ∣ call.rttSample := by
  have start : Sampled ⟨conn,[],[]⟩ := ⟨fun _ => ⟨fresh,largest⟩,by simp⟩
  have enough (calls : List RttCall) (met : StepsMeet takeSample RoundsAbove ⟨conn,[],[]⟩ calls) :
      Throughout takeSample (fun history => history.samples ≠ [] → WithinSamples history)
        ⟨conn,[],[]⟩ calls := by
    refine @throughout_of_stepsMeet _ _ _ _ _ _ _ _ Sampled ?_ start (fun some => absurd rfl some) met
    intro history call next sampled held rounds taken
    constructor
    · cases taken
      exact ⟨fun none => absurd none (List.cons_ne_nil _ _),
        List.forall_mem_cons.mpr ⟨adjustedRtt_positive,sampled.positive⟩⟩
    · intro _
      by_cases none : history.samples = []
      · exact first_within sampled none taken
      · exact later_within (held none) sampled rounds taken
  refine ⟨enough,fun call count => ⟨constant_divides start,fun divides => enough _ ?_⟩⟩
  exact constant_meets divides _ (largest ▸ call.small) (by simp)

theorem rtt_within_samples_steady :
    Throughout takeSample (fun history => history.samples ≠ [] → WithinSamples history)
      ⟨{nodeType := .client},[],[]⟩ [⟨800,25,by decide,by decide,by decide⟩,
        ⟨1603,200,by decide,by decide,by decide⟩,⟨811,0,by decide,by decide,by decide⟩] := by
  refine (rtt_within_samples {nodeType := .client} rfl rfl).1 _ ?_
  rintro _ ⟨⟩
  refine ⟨fun some => absurd rfl some,?_⟩
  rintro _ ⟨⟩
  refine ⟨fun _ => ⟨800,by decide,by decide,.inl (by decide)⟩,?_⟩
  rintro _ ⟨⟩
  exact ⟨fun _ => ⟨800,by decide,by decide,.inl (by decide)⟩,trivial⟩

/-- Two samples of one microsecond leave an average of zero, and the timeout is again that of a
connection without samples. -/
theorem constant_samples_lost :
    ¬Throughout takeSample (fun history => history.samples ≠ [] → WithinSamples history)
      ⟨{nodeType := .client},[],[]⟩ [⟨1,0,by decide,by decide,by decide⟩,
        ⟨1,0,by decide,by decide,by decide⟩] := by
  intro within
  have last := ((within.2 _ rfl).2 _ rfl) (List.cons_ne_nil _ _)
  exact absurd last.positive (by decide)

end StreamServer.State
