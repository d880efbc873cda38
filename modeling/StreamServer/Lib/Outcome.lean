import StreamServer.Lib.Transition

/-! What a fallible computation can end in: a value that meets a postcondition, or an
error of a permitted kind. The rules follow the ways such computations are put together. -/
namespace StreamServer.Lib.Outcome

variable {ε α β : Type} {allowed : ε → Prop} {post : α → Prop} {computation : Except ε α}

def Yields (allowed : ε → Prop) (post : α → Prop) : Except ε α → Prop
  | .ok value => post value
  | .error error => allowed error

theorem yields_iff :
    Yields allowed post computation ↔
      (∀ value, computation = .ok value → post value) ∧
        ∀ error, computation = .error error → allowed error := by
  cases computation with
  | ok value =>
    constructor
    · intro holds
      exact ⟨fun _ same => Except.ok.inj same ▸ holds,fun _ same => nomatch same⟩
    · intro holds
      exact holds.1 value rfl
  | error error =>
    constructor
    · intro holds
      exact ⟨fun _ same => (nomatch same),fun _ same => Except.error.inj same ▸ holds⟩
    · intro holds
      exact holds.2 error rfl

theorem Yields.ok {value : α} (yields : Yields allowed post computation)
    (ended : computation = .ok value) : post value :=
  (yields_iff.mp yields).1 value ended

theorem Yields.bind {middle : α → Prop} {post : β → Prop} {first : Except ε α}
    {second : α → Except ε β} (before : Yields allowed middle first)
    (after : ∀ value, middle value → Yields allowed post (second value)) :
    Yields allowed post (first >>= second) := by
  cases first with
  | ok value => exact after value before
  | error error => exact before

theorem Yields.mono {weaker stronger : α → Prop} (yields : Yields allowed stronger computation)
    (weakens : ∀ value, stronger value → weaker value) : Yields allowed weaker computation := by
  cases computation with
  | ok value => exact weakens value yields
  | error error => exact yields

theorem Yields.allow {wider : ε → Prop} (yields : Yields allowed post computation)
    (widens : ∀ error, allowed error → wider error) : Yields wider post computation := by
  cases computation with
  | ok value => exact yields
  | error error => exact widens error yields

theorem Yields.known (yields : Yields allowed post computation) :
    Yields allowed (fun value => computation = .ok value ∧ post value) computation := by
  cases computation with
  | ok value => exact ⟨rfl,yields⟩
  | error error => exact yields

theorem Yields.anyway (computation : Except ε α) :
    Yields (fun _ => True) (fun _ => True) computation := by
  cases computation <;> trivial

theorem Yields.returns (yields : Yields (fun _ => False) post computation) :
    ∃ value, computation = .ok value ∧ post value := by
  cases computation with
  | ok value => exact ⟨value,rfl,yields⟩
  | error error => exact yields.elim

theorem Yields.foldlM {invariant : β → Prop} {step : β → α → Except ε β} {items : List α}
    (keeps : ∀ state item, item ∈ items → invariant state →
      Yields allowed invariant (step state item))
    {state : β} (initial : invariant state) :
    Yields allowed invariant (items.foldlM step state) := by
  induction items generalizing state with
  | nil => exact initial
  | cons item rest ih =>
    rw [List.foldlM_cons]
    apply Yields.bind (keeps state item (List.mem_cons_self ..) initial)
    intro next kept
    exact ih (fun state item inside => keeps state item (List.mem_cons_of_mem _ inside)) kept

/-- A run keeps what each of its steps keeps, and stops only with a permitted error. -/
theorem Yields.run {σ : Type} {invariant : σ → Prop} {step : σ → α → Except ε σ}
    (keeps : ∀ state action, invariant state → Yields allowed invariant (step state action))
    {state : σ} (initial : invariant state) (actions : List α) :
    Yields allowed invariant (Transition.run step state actions) := by
  induction actions generalizing state with
  | nil => exact initial
  | cons action rest ih =>
    have taken := keeps state action initial
    simp only [Transition.run]
    cases first : step state action with
    | ok next =>
      rw [first] at taken
      exact ih taken
    | error error =>
      rw [first] at taken
      exact taken

end StreamServer.Lib.Outcome
