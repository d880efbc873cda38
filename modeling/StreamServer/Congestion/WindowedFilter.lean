import Mathlib

/-! The best, second best and third best of the samples given within a window, none recorded before
the one ahead of it. The best is replaced when it is too old. -/
namespace StreamServer.Congestion

/-- The order of the samples, best first, and their comparison with `==`. -/
structure Compare (α : Type) where
  holds : α → α → Bool
  same : α → α → Bool
  total : ∀ a b, holds a b ∨ holds b a
  trans : ∀ {a b c}, holds a b → holds b c → holds a c
  same_refl : ∀ a, same a a

def minFilter (α : Type) [LinearOrder α] : Compare α where
  holds lhs rhs := lhs ≤ rhs
  same lhs rhs := lhs = rhs
  total a b := by simpa using le_total a b
  trans first second :=
    decide_eq_true (le_trans (of_decide_eq_true first) (of_decide_eq_true second))
  same_refl a := by simp

variable {α : Type} (compare : Compare α)

structure Sample (α : Type) where
  sample : α
  time : Nat

structure WindowedFilter (α : Type) where
  windowLength : Nat
  zeroValue : α
  best : Sample α := ⟨zeroValue,0⟩
  secondBest : Sample α := best
  thirdBest : Sample α := best

namespace WindowedFilter

def reset (filter : WindowedFilter α) (new : Sample α) : WindowedFilter α :=
  {filter with best := new, secondBest := new, thirdBest := new}

/-- A sample as good as an estimate takes its place and that of those behind it. -/
def replace (filter : WindowedFilter α) (new : Sample α) : WindowedFilter α :=
  if compare.holds new.sample filter.secondBest.sample then
    {filter with secondBest := new, thirdBest := new}
  else if compare.holds new.sample filter.thirdBest.sample then {filter with thirdBest := new}
  else filter

/-- Estimates that are too old give way to the next one. A new estimate is also taken when a quarter
or half of the window has passed without a better one. -/
def expire (filter : WindowedFilter α) (new : Sample α) : WindowedFilter α :=
  if new.time - filter.best.time > filter.windowLength then
    if new.time - filter.secondBest.time > filter.windowLength then
      {filter with best := filter.thirdBest, secondBest := new, thirdBest := new}
    else {filter with
      best := filter.secondBest, secondBest := filter.thirdBest, thirdBest := new}
  else if compare.same filter.secondBest.sample filter.best.sample ∧
      new.time - filter.secondBest.time > filter.windowLength >>> 2 then
    {filter with secondBest := new, thirdBest := new}
  else if compare.same filter.thirdBest.sample filter.secondBest.sample ∧
      new.time - filter.thirdBest.time > filter.windowLength >>> 1 then
    {filter with thirdBest := new}
  else filter

/-- Times do not decrease, so their differences do not wrap. -/
def update (filter : WindowedFilter α) (new : Sample α) : WindowedFilter α :=
  if compare.same filter.best.sample filter.zeroValue ∨ compare.holds new.sample filter.best.sample ∨
      new.time - filter.thirdBest.time > filter.windowLength then filter.reset new
  else (filter.replace compare new).expire compare new

end WindowedFilter

inductive FilterAction (α : Type) where
  | update (new : Sample α)
  | setWindowLength (windowLength : Nat)

def FilterAction.given : FilterAction α → Option (Sample α)
  | .update new => some new
  | .setWindowLength _ => none

def WindowedFilter.step (filter : WindowedFilter α) :
    FilterAction α → WindowedFilter α
  | .update new => filter.update compare new
  | .setWindowLength windowLength => {filter with windowLength}

structure Estimates (given : List (Sample α)) (filter : WindowedFilter α) :
    Prop where
  aged : filter.best.time ≤ filter.secondBest.time ∧ filter.secondBest.time ≤ filter.thirdBest.time
  ranked : compare.holds filter.best.sample filter.secondBest.sample ∧
    compare.holds filter.secondBest.sample filter.thirdBest.sample
  stored : filter.best ∈ given ∧ filter.secondBest ∈ given ∧ filter.thirdBest ∈ given

/-- The best estimate lies in the window that ends with the newest sample, and is as good as it. -/
structure Current (new : Sample α) (filter : WindowedFilter α) : Prop where
  within : new.time - filter.best.time ≤ filter.windowLength
  best : compare.holds filter.best.sample new.sample

variable {compare} {given : List (Sample α)} {new : Sample α} {filter : WindowedFilter α} {a b : α}

private theorem holds_refl (value : α) : compare.holds value value :=
  (compare.total value value).elim id id

private theorem holds_of_not (worse : ¬compare.holds a b) : compare.holds b a :=
  (compare.total a b).resolve_left worse

/-- Between the two parts of an update the third best is in the window and as good as the sample. -/
structure Replaced (compare : Compare α) (given : List (Sample α)) (new : Sample α)
    (filter : WindowedFilter α) : Prop extends Estimates compare given filter where
  new_given : new ∈ given
  later : filter.thirdBest.time ≤ new.time
  within : new.time - filter.thirdBest.time ≤ filter.windowLength
  best : compare.holds filter.thirdBest.sample new.sample

private theorem replace_replaced (estimates : Estimates compare given filter)
    (inside : new ∈ given) (later : filter.thirdBest.time ≤ new.time)
    (within : new.time - filter.thirdBest.time ≤ filter.windowLength)
    (worse : compare.holds filter.best.sample new.sample) :
    Replaced compare given new (filter.replace compare new) := by
  obtain ⟨⟨first,second⟩,⟨better,good⟩,best,secondBest,thirdBest⟩ := estimates
  unfold WindowedFilter.replace
  split_ifs with two three
  · exact ⟨⟨⟨by dsimp only; omega,le_rfl⟩,⟨worse,holds_refl _⟩,best,inside,inside⟩,inside,le_rfl,
      by simp,holds_refl _⟩
  · exact ⟨⟨⟨first,by dsimp only; omega⟩,⟨better,holds_of_not two⟩,best,secondBest,inside⟩,inside,
      le_rfl,by simp,holds_refl _⟩
  · exact ⟨⟨⟨first,second⟩,⟨better,good⟩,best,secondBest,thirdBest⟩,inside,later,within,
      holds_of_not three⟩

private theorem Replaced.expire (replaced : Replaced compare given new filter) :
    Estimates compare given (filter.expire compare new) ∧ Current compare new (filter.expire compare new) := by
  obtain ⟨⟨⟨first,second⟩,⟨better,good⟩,best,secondBest,thirdBest⟩,inside,later,within,worse⟩ :=
    replaced
  have worse₂ := compare.trans good worse
  have worse₁ := compare.trans better worse₂
  have between : filter.secondBest.time ≤ new.time := second.trans later
  unfold WindowedFilter.expire
  split_ifs with old older quarter half
  · exact ⟨⟨⟨later,le_rfl⟩,⟨worse,holds_refl _⟩,thirdBest,inside,inside⟩,within,worse⟩
  · exact ⟨⟨⟨second,later⟩,⟨good,worse⟩,secondBest,thirdBest,inside⟩,Nat.not_lt.mp older,worse₂⟩
  · exact ⟨⟨⟨first.trans between,le_rfl⟩,⟨worse₁,holds_refl _⟩,best,inside,inside⟩,
      Nat.not_lt.mp old,worse₁⟩
  · exact ⟨⟨⟨first,between⟩,⟨better,worse₂⟩,best,secondBest,inside⟩,Nat.not_lt.mp old,worse₁⟩
  · exact ⟨⟨⟨first,second⟩,⟨better,good⟩,best,secondBest,thirdBest⟩,Nat.not_lt.mp old,worse₁⟩

private theorem update_estimates (known : compare.same filter.best.sample filter.zeroValue ∨
      Estimates compare given filter) (later : ∀ sample ∈ given, sample.time ≤ new.time) :
    Estimates compare (given ++ [new]) (filter.update compare new) ∧
      Current compare new (filter.update compare new) := by
  have inside : new ∈ given ++ [new] := by simp
  unfold WindowedFilter.update
  split_ifs with restart
  · exact ⟨⟨⟨le_rfl,le_rfl⟩,⟨holds_refl _,holds_refl _⟩,inside,inside,inside⟩,
      by simp [WindowedFilter.reset],holds_refl _⟩
  · obtain ⟨started,worse,fresh⟩ := not_or.mp restart |>.imp_right not_or.mp
    obtain ⟨aged,ranked,best,secondBest,thirdBest⟩ := known.resolve_left started
    have wider : Estimates compare (given ++ [new]) filter :=
      ⟨aged,ranked,List.mem_append_left _ best,List.mem_append_left _ secondBest,
        List.mem_append_left _ thirdBest⟩
    exact (replace_replaced wider inside (later _ thirdBest) (Nat.not_lt.mp fresh)
      (holds_of_not worse)).expire

abbrev samples (actions : List (FilterAction α)) : List (Sample α) :=
  actions.filterMap FilterAction.given

private theorem run_estimates {windowLength zeroTime : Nat} {zeroValue : α}
    {actions : List (FilterAction α)}
    (ordered : (samples actions).Pairwise fun early late => early.time ≤ late.time) :
    let filter := actions.foldl (WindowedFilter.step compare)
      {windowLength, zeroValue, best := ⟨zeroValue,zeroTime⟩}
    samples actions = [] ∧ compare.same filter.best.sample filter.zeroValue ∨
      Estimates compare (samples actions) filter := by
  induction actions using List.reverseRecOn with
  | nil => exact .inl ⟨rfl,compare.same_refl zeroValue⟩
  | append_singleton earlier action ih =>
    rw [samples,List.filterMap_append] at ordered
    rw [samples,List.filterMap_append,List.foldl_append]
    obtain ⟨before,_,later⟩ := List.pairwise_append.mp ordered
    cases action with
    | update new =>
      refine .inr (update_estimates ((ih before).imp_left And.right) fun sample inside => ?_).1
      exact later sample inside new (List.mem_singleton_self new)
    | setWindowLength windowLength =>
      rw [show [FilterAction.setWindowLength windowLength].filterMap FilterAction.given =
        ([] : List (Sample α)) from rfl,List.append_nil]
      exact (ih before).imp_right fun estimates => {estimates with}

/-- For every sequence of calls with times that do not decrease: once there is a sample the estimates
are samples given, in the order of their times and ranks, and after an update the best is current. -/
theorem windowedFilter_estimates (compare : Compare α) (windowLength : Nat) (zeroValue : α)
    (zeroTime : Nat) (actions : List (FilterAction α))
    (ordered : (samples actions).Pairwise fun early late => early.time ≤ late.time) :
    let filter := actions.foldl (WindowedFilter.step compare)
      {windowLength, zeroValue, best := ⟨zeroValue,zeroTime⟩}
    (samples actions ≠ [] → Estimates compare (samples actions) filter) ∧
      ∀ earlier new, actions = earlier ++ [.update new] → Current compare new filter := by
  refine ⟨fun some => (run_estimates ordered).resolve_left fun none => some none.1,?_⟩
  rintro earlier new rfl
  rw [samples,List.filterMap_append] at ordered
  obtain ⟨ordered,_,later⟩ := List.pairwise_append.mp ordered
  rw [List.foldl_append]
  refine (update_estimates ((run_estimates ordered).imp_left And.right) fun sample inside => ?_).2
  exact later sample inside new (List.mem_singleton_self new)

theorem windowedFilter_estimates_widening :
    let actions : List (FilterAction Nat) :=
      [.update ⟨3,1⟩,.update ⟨5,4⟩,.setWindowLength 9,.update ⟨4,8⟩]
    Estimates (minFilter Nat) (samples actions)
      (actions.foldl (WindowedFilter.step (minFilter Nat)) {windowLength := 6, zeroValue := 0}) :=
  (windowedFilter_estimates (minFilter Nat) 6 0 0
    [.update ⟨3,1⟩,.update ⟨5,4⟩,.setWindowLength 9,.update ⟨4,8⟩] (by decide)).1 (by decide)

end StreamServer.Congestion
