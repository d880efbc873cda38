import Mathlib

/-! Runs of a fallible step function. A run is the list of its actions; the first
error stops it. The rules below turn facts about one step into facts about every
state a run passes through. -/
namespace StreamServer.Lib.Transition

variable {σ α ε : Type} {state : σ} {property : σ → Prop} {allowed : α → Prop} {actions : List α}
  {condition : σ → α → Prop}

theorem bind_ok {β : Type} {first : Except ε α} {second : α → Except ε β} {result : β} :
    first >>= second = .ok result ↔ ∃ value, first = .ok value ∧ second value = .ok result := by
  cases first with
  | error e | ok value => simp [bind,Except.bind]

theorem map_ok {ε α β : Type} {first : Except ε α} {f : α → β} {result : β}
    (mapped : f <$> first = .ok result) : ∃ value, first = .ok value ∧ f value = result := by
  cases first with
  | error error => cases mapped
  | ok value =>
    cases mapped
    exact ⟨value,rfl,rfl⟩

theorem bind_error {β : Type} {first : Except ε α} {second : α → Except ε β} {error : ε} :
    first >>= second = .error error ↔
      first = .error error ∨ ∃ value, first = .ok value ∧ second value = .error error := by
  cases first with
  | error e | ok value => simp [bind,Except.bind]

def run (step : σ → α → Except ε σ) : σ → List α → Except ε σ
  | state, [] => .ok state
  | state, action :: rest =>
    match step state action with
    | .ok next => run step next rest
    | .error e => .error e

/-- The property holds in the first state and in every state the run reaches. -/
def Throughout (step : σ → α → Except ε σ) (property : σ → Prop) : σ → List α → Prop
  | state, [] => property state
  | state, action :: rest =>
    property state ∧ ∀ next, step state action = .ok next → Throughout step property next rest

/-- Every step the run completes is taken in a state and with an action that meet the condition. -/
def StepsMeet (step : σ → α → Except ε σ) (condition : σ → α → Prop) : σ → List α → Prop
  | _, [] => True
  | state, action :: rest =>
    ∀ next, step state action = .ok next →
      condition state action ∧ StepsMeet step condition next rest

variable {step : σ → α → Except ε σ}

@[simp] theorem run_nil (state : σ) : run step state [] = .ok state := rfl

theorem run_cons {last : σ} {action : α} {rest : List α} :
    run step state (action :: rest) = .ok last ↔
      ∃ next, step state action = .ok next ∧ run step next rest = .ok last := by
  simp only [run]
  cases taken : step state action with
  | error e => simp
  | ok next => simp

theorem run_append {last : σ} {first second : List α} :
    run step state (first ++ second) = .ok last ↔
      ∃ middle, run step state first = .ok middle ∧ run step middle second = .ok last := by
  induction first generalizing state with
  | nil => simp
  | cons action rest ih =>
    simp only [List.cons_append,run_cons,ih]
    constructor
    · rintro ⟨next,taken,middle,before,after⟩
      exact ⟨middle,⟨next,taken,before⟩,after⟩
    · rintro ⟨middle,⟨next,taken,before⟩,after⟩
      exact ⟨next,taken,middle,before,after⟩

theorem run_preserves_allowed (preserves : ∀ state action next, allowed action → property state →
      step state action = .ok next → property next) {last : σ}
    (all : ∀ action ∈ actions, allowed action) (initial : property state)
    (ran : run step state actions = .ok last) : property last := by
  induction actions generalizing state with
  | nil =>
    simp only [run_nil,Except.ok.injEq] at ran
    exact ran ▸ initial
  | cons action rest ih =>
    obtain ⟨next,taken,ran⟩ := run_cons.mp ran
    have kept := preserves state action next (all action (List.mem_cons_self ..)) initial taken
    exact ih (fun action inside => all action (List.mem_cons_of_mem _ inside)) kept ran

theorem run_preserves
    (preserves : ∀ state action next, property state → step state action = .ok next → property next)
    {last : σ} (initial : property state) (ran : run step state actions = .ok last) :
    property last :=
  run_preserves_allowed (fun state action next (_ : True) => preserves state action next)
    (fun _ _ => trivial) initial ran

theorem run_relates {relation : σ → σ → Prop} (reflexive : ∀ state, relation state state)
    (transitive : ∀ first second third, relation first second → relation second third →
      relation first third)
    (preserves : ∀ state action next, property state → step state action = .ok next →
      property next ∧ relation state next) {last : σ} (initial : property state)
    (ran : run step state actions = .ok last) : relation state last := by
  induction actions generalizing state with
  | nil =>
    simp only [run_nil,Except.ok.injEq] at ran
    exact ran ▸ reflexive state
  | cons action rest ih =>
    obtain ⟨next,taken,ran⟩ := run_cons.mp ran
    obtain ⟨kept,related⟩ := preserves state action next initial taken
    exact transitive _ _ _ related (ih kept ran)

theorem run_simulates {τ : Type} {step' : τ → α → Except ε τ} {view : σ → τ}
    (simulates : ∀ state action, allowed action → property state →
      step' (view state) action = view <$> step state action)
    (preserves : ∀ state action next, allowed action → property state →
      step state action = .ok next → property next) (all : ∀ action ∈ actions, allowed action)
    (initial : property state) :
    run step' (view state) actions = view <$> run step state actions := by
  induction actions generalizing state with
  | nil => rfl
  | cons action rest ih =>
    have head := all action (List.mem_cons_self ..)
    simp only [run,simulates state action head initial]
    cases taken : step state action with
    | error error => rfl
    | ok next =>
      exact ih (fun action inside => all action (List.mem_cons_of_mem _ inside))
        (preserves state action next head initial taken)

theorem throughout_iff_prefixes :
    Throughout step property state actions ↔
      ∀ first second reached, actions = first ++ second → run step state first = .ok reached →
        property reached := by
  induction actions generalizing state with
  | nil =>
    simp only [Throughout]
    constructor
    · intro holds first second reached split ran
      obtain ⟨rfl,rfl⟩ := List.append_eq_nil_iff.mp split.symm
      simp only [run_nil,Except.ok.injEq] at ran
      exact ran ▸ holds
    · intro holds
      exact holds [] [] state rfl rfl
  | cons action rest ih =>
    simp only [Throughout,ih]
    constructor
    · rintro ⟨holds,later⟩ first second reached split ran
      cases first with
      | nil =>
        simp only [run_nil,Except.ok.injEq] at ran
        exact ran ▸ holds
      | cons head tail =>
        simp only [List.cons_append,List.cons.injEq] at split
        obtain ⟨rfl,split⟩ := split
        obtain ⟨next,taken,ran⟩ := run_cons.mp ran
        exact later next taken tail second reached split ran
    · intro holds
      refine ⟨holds [] _ state rfl rfl,?_⟩
      intro next taken first second reached split ran
      exact holds (action :: first) second reached (by rw [split]; rfl) (run_cons.mpr ⟨next,taken,ran⟩)

theorem Throughout.now (holds : Throughout step property state actions) : property state := by
  cases actions with
  | nil => exact holds
  | cons action rest => exact holds.1

theorem throughout_iff_stepsMeet {invariant : σ → Prop}
    (exact_step : ∀ state action next, invariant state → property state →
      step state action = .ok next → (condition state action → invariant next) ∧
        (property next ↔ condition state action)) (initial : invariant state)
    (holds : property state) :
    Throughout step property state actions ↔ StepsMeet step condition state actions := by
  induction actions generalizing state with
  | nil => simp only [Throughout,StepsMeet,holds]
  | cons action rest ih =>
    simp only [Throughout,StepsMeet,holds,true_and]
    constructor
    · intro later next taken
      obtain ⟨kept,same⟩ := exact_step state action next initial holds taken
      have after : Throughout step property next rest := later next taken
      have now := after.now
      exact ⟨same.mp now,(ih (kept (same.mp now)) now).mp after⟩
    · intro met next taken
      obtain ⟨condition_met,rest_met⟩ := met next taken
      obtain ⟨kept,same⟩ := exact_step state action next initial holds taken
      exact (ih (kept condition_met) (same.mpr condition_met)).mpr rest_met

theorem throughout_of_stepsMeet {invariant : σ → Prop}
    (keeps : ∀ state action next, invariant state → property state → condition state action →
      step state action = .ok next → invariant next ∧ property next) (initial : invariant state)
    (holds : property state) (met : StepsMeet step condition state actions) :
    Throughout step property state actions := by
  induction actions generalizing state with
  | nil => exact holds
  | cons action rest ih =>
    refine ⟨holds,fun next taken => ?_⟩
    obtain ⟨now,later⟩ := met next taken
    obtain ⟨kept,still⟩ := keeps state action next initial holds now taken
    exact ih kept still later

theorem stepsMeet_of_always (always : ∀ state, ∀ action ∈ actions, condition state action)
    (state : σ) :
    StepsMeet step condition state actions := by
  induction actions generalizing state with
  | nil => trivial
  | cons action rest ih =>
    intro next _
    exact ⟨always state action (List.mem_cons_self ..),
      ih (fun state other inside => always state other (List.mem_cons_of_mem _ inside)) next⟩

instance decidableStepsMeet [∀ state action, Decidable (condition state action)] :
    ∀ state actions, Decidable (StepsMeet step condition state actions)
  | _, [] => .isTrue trivial
  | state, action :: rest =>
    match taken : step state action with
    | .error _ => .isTrue fun _ same => nomatch taken.symm.trans same
    | .ok next =>
      have := decidableStepsMeet next rest
      decidable_of_iff (condition state action ∧ StepsMeet step condition next rest)
        (by simp only [StepsMeet,taken,Except.ok.injEq,forall_eq'])

end StreamServer.Lib.Transition
