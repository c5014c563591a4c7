import Mathlib.Tactic

/-!
# Chains of fallible steps

A chain starts in a state and performs actions one after the other until one of
them fails.  `states` are the states it passes through, `attempts` the actions
it performs with the states they are performed in; the action that fails is the
last attempt.

`law_iff` packages the induction over a chain: when a law about one step is
equivalent to a condition on that step, as long as an invariant holds before
it, the law and the invariant hold along the whole chain exactly when every
attempt meets the condition.
-/

namespace Chain

universe u v w

variable {State : Type u} {Action : Type v} {Error : Type w}

section Definitions

variable (step : State → Action → Except Error State)

def states : State → List Action → List State
  | s, [] => [s]
  | s, a :: rest =>
      s ::
        match step s a with
        | .ok t => states t rest
        | .error _ => []

def attempts : State → List Action → List (State × Action)
  | _, [] => []
  | s, a :: rest =>
      (s, a) ::
        match step s a with
        | .ok t => attempts t rest
        | .error _ => []

end Definitions

section Steps

variable {step : State → Action → Except Error State}

theorem states_cons_ok
    {s t : State} {a : Action}
    (h : step s a = .ok t)
    (rest : List Action) :
    states step s (a :: rest) = s :: states step t rest := by
  simp only [states, h]

theorem states_cons_error
    {s : State} {a : Action} {e : Error}
    (h : step s a = .error e)
    (rest : List Action) :
    states step s (a :: rest) = [s] := by
  simp only [states, h]

theorem attempts_cons_ok
    {s t : State} {a : Action}
    (h : step s a = .ok t)
    (rest : List Action) :
    attempts step s (a :: rest) = (s, a) :: attempts step t rest := by
  simp only [attempts, h]

theorem attempts_cons_error
    {s : State} {a : Action} {e : Error}
    (h : step s a = .error e)
    (rest : List Action) :
    attempts step s (a :: rest) = [(s, a)] := by
  simp only [attempts, h]

/-- An action is attempted in a state of the chain. -/
theorem mem_states_of_mem_attempts
    {s : State} {actions : List Action} {x : State × Action}
    (h : x ∈ attempts step s actions) :
    x.1 ∈ states step s actions := by
  induction actions generalizing s with
  | nil =>
      cases h
  | cons a rest ih =>
      cases hstep : step s a with
      | ok t =>
          rw [attempts_cons_ok hstep] at h
          rw [states_cons_ok hstep]
          rcases List.mem_cons.mp h with rfl | hlater
          · exact List.mem_cons_self
          · exact List.mem_cons_of_mem _ (ih hlater)
      | error e =>
          rw [attempts_cons_error hstep, List.mem_singleton] at h
          rw [states_cons_error hstep, h]
          exact List.mem_cons_self

end Steps

section Rules

variable {step : State → Action → Except Error State}
variable {Inv : State → Prop} {Law Good : State → Action → Prop}

/-- An invariant that good steps keep holds along a chain of good steps. -/
theorem invariant_of_good
    (keeps : ∀ s a t, Inv s → Good s a → step s a = .ok t → Inv t)
    {s : State} (hs : Inv s) {actions : List Action}
    (hgood : ∀ x ∈ attempts step s actions, Good x.1 x.2) :
    ∀ t ∈ states step s actions, Inv t := by
  induction actions generalizing s with
  | nil =>
      intro t ht
      rw [states, List.mem_singleton] at ht
      rw [ht]
      exact hs
  | cons a rest ih =>
      intro t ht
      cases hstep : step s a with
      | ok next =>
          rw [attempts_cons_ok hstep] at hgood
          rw [states_cons_ok hstep] at ht
          have hfirst : Good s a := hgood (s, a) List.mem_cons_self
          have hnext := keeps s a next hs hfirst hstep
          rcases List.mem_cons.mp ht with rfl | hlater
          · exact hs
          · exact ih hnext
              (fun x hx => hgood x (List.mem_cons_of_mem _ hx)) t hlater
      | error e =>
          rw [states_cons_error hstep, List.mem_singleton] at ht
          rw [ht]
          exact hs

/-- The law of a chain is the condition on its attempts. -/
theorem law_iff
    (hlaw : ∀ s a, Inv s → (Law s a ↔ Good s a))
    (keeps : ∀ s a t, Inv s → Good s a → step s a = .ok t → Inv t)
    {s : State} (hs : Inv s) (actions : List Action) :
    ((∀ t ∈ states step s actions, Inv t) ∧
        ∀ x ∈ attempts step s actions, Law x.1 x.2) ↔
      ∀ x ∈ attempts step s actions, Good x.1 x.2 := by
  constructor
  · rintro ⟨hinv, hlaws⟩ x hx
    have hbefore := hinv x.1 (mem_states_of_mem_attempts hx)
    exact (hlaw x.1 x.2 hbefore).mp (hlaws x hx)
  · intro hgood
    have hinv := invariant_of_good keeps hs hgood
    refine ⟨hinv, ?_⟩
    intro x hx
    have hbefore := hinv x.1 (mem_states_of_mem_attempts hx)
    exact (hlaw x.1 x.2 hbefore).mpr (hgood x hx)

end Rules

end Chain
