import Mathlib.Tactic

/-!
# Mapping a fallible function over a list

A loop that applies a fallible function to the elements of a list and stops at
the first failure has two results: the error it stopped with, if any, and what
it had built before.  `firstError` and `builtPrefix` are these two results;
the lemmas relate them to the elements and to shorter lists.
-/

namespace PartialMap

universe u v w

variable {α : Type u} {β : Type v} {ε : Type w}

/-- The error of the first element on which `f` fails. -/
def firstError (f : α → Except ε β) : List α → Option ε
  | [] => none
  | a :: rest =>
      match f a with
      | .ok _ => firstError f rest
      | .error e => some e

/-- The values of the elements before the first failure. -/
def builtPrefix (f : α → Except ε β) : List α → List β
  | [] => []
  | a :: rest =>
      match f a with
      | .ok b => b :: builtPrefix f rest
      | .error _ => []

variable (f : α → Except ε β)

theorem firstError_cons_ok
    {a : α} {b : β}
    (h : f a = .ok b)
    (rest : List α) :
    firstError f (a :: rest) = firstError f rest := by
  simp [firstError, h]

theorem firstError_cons_error
    {a : α} {e : ε}
    (h : f a = .error e)
    (rest : List α) :
    firstError f (a :: rest) = some e := by
  simp [firstError, h]

theorem builtPrefix_cons_ok
    {a : α} {b : β}
    (h : f a = .ok b)
    (rest : List α) :
    builtPrefix f (a :: rest) = b :: builtPrefix f rest := by
  simp [builtPrefix, h]

theorem builtPrefix_cons_error
    {a : α} {e : ε}
    (h : f a = .error e)
    (rest : List α) :
    builtPrefix f (a :: rest) = [] := by
  simp [builtPrefix, h]

/-- The loop fails exactly when some element fails. -/
theorem firstError_eq_none_iff
    (l : List α) :
    firstError f l = none ↔ ∀ a ∈ l, ∃ b, f a = .ok b := by
  induction l with
  | nil =>
      simp [firstError]
  | cons a rest ih =>
      cases h : f a with
      | ok b =>
          rw [firstError_cons_ok f h, ih]
          constructor
          · intro hrest a' ha'
            rcases List.mem_cons.mp ha' with rfl | ha'
            · exact ⟨b, h⟩
            · exact hrest a' ha'
          · intro hall a' ha'
            exact hall a' (List.mem_cons_of_mem _ ha')
      | error e =>
          rw [firstError_cons_error f h]
          constructor
          · intro hnone
            cases hnone
          · intro hall
            obtain ⟨b, hb⟩ := hall a (by simp)
            rw [h] at hb
            cases hb

/-- The error is the failure of one of the elements. -/
theorem exists_of_firstError_eq_some
    {l : List α} {e : ε}
    (h : firstError f l = some e) :
    ∃ a ∈ l, f a = .error e := by
  induction l with
  | nil =>
      cases h
  | cons a rest ih =>
      cases ha : f a with
      | ok b =>
          rw [firstError_cons_ok f ha] at h
          obtain ⟨a', ha', he⟩ := ih h
          exact ⟨a', List.mem_cons_of_mem _ ha', he⟩
      | error e' =>
          rw [firstError_cons_error f ha] at h
          cases h
          exact ⟨a, by simp, ha⟩

/-- What is built at a position comes from the element at that position. -/
theorem builtPrefix_getElem?
    {l : List α} {i : Nat} {b : β}
    (h : (builtPrefix f l)[i]? = some b) :
    ∃ a, l[i]? = some a ∧ f a = .ok b := by
  induction l generalizing i with
  | nil =>
      simp [builtPrefix] at h
  | cons a rest ih =>
      cases ha : f a with
      | error e =>
          rw [builtPrefix_cons_error f ha] at h
          simp at h
      | ok b' =>
          rw [builtPrefix_cons_ok f ha] at h
          cases i with
          | zero =>
              simp only [List.getElem?_cons_zero, Option.some.injEq] at h
              subst h
              exact ⟨a, rfl, ha⟩
          | succ i =>
              simp only [List.getElem?_cons_succ] at h ⊢
              exact ih h

/-- Without a failure, every element is built. -/
theorem builtPrefix_forall₂
    {l : List α}
    (h : firstError f l = none) :
    List.Forall₂ (fun a b => f a = .ok b) l (builtPrefix f l) := by
  induction l with
  | nil =>
      exact List.Forall₂.nil
  | cons a rest ih =>
      cases ha : f a with
      | error e =>
          rw [firstError_cons_error f ha] at h
          cases h
      | ok b =>
          rw [firstError_cons_ok f ha] at h
          rw [builtPrefix_cons_ok f ha]
          exact List.Forall₂.cons ha (ih h)

/-- A shorter list builds a prefix of what the longer one builds. -/
theorem builtPrefix_take
    (l : List α) (n : Nat) :
    builtPrefix f (l.take n) <+: builtPrefix f l := by
  induction l generalizing n with
  | nil =>
      simp
  | cons a rest ih =>
      cases n with
      | zero =>
          simp [builtPrefix]
      | succ n =>
          rw [List.take_succ_cons]
          cases ha : f a with
          | error e =>
              rw [builtPrefix_cons_error f ha, builtPrefix_cons_error f ha]
          | ok b =>
              rw [builtPrefix_cons_ok f ha, builtPrefix_cons_ok f ha]
              exact (List.prefix_cons_inj b).mpr (ih n)

end PartialMap
