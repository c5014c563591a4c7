import Mathlib.Tactic

/-!
# Programs as resumptions

A program that calls its environment is represented by the tree of its
possible interactions: it returns, it ends with an exception, or it issues a
call and continues with the reply.  The same tree is read in two ways.

* `run` executes it alone against an environment that answers every call.
* `Safe` follows it step by step against *every* possible reply, together with
  a ghost value that records what the program currently holds.  Since the
  predicate is about one call at a time, it also survives any interleaving of
  the program with others: whoever schedules the program only has to respect
  the discipline at each call.

`onThrow` models stack unwinding: a cleanup that runs when, and only when, the
body ends with an exception, which is then rethrown.
-/

namespace Resumption

/-- Interaction tree of a program with calls `C`, replies `R` and exceptions `E`. -/
inductive Prog (C R E α : Type) : Type
  | ret (a : α)
  | throw (e : E)
  | call (c : C) (k : R → Prog C R E α)

namespace Prog

section Combinators

variable {C R E α β : Type}

/-- Sequencing; an exception skips the rest. -/
def bind : Prog C R E α → (α → Prog C R E β) → Prog C R E β
  | ret a, f => f a
  | throw e, _ => throw e
  | call c k, f => call c (fun r => bind (k r) f)

instance : Monad (Prog C R E) where
  pure := ret
  bind := bind

/-- Issue one call and return its reply. -/
def perform (c : C) : Prog C R E R :=
  call c ret

/-- A computation that makes no calls. -/
def lift : Except E α → Prog C R E α
  | .ok a => ret a
  | .error e => throw e

/-- Run `cleanup` when the body throws, and rethrow. -/
def onThrow : Prog C R E α → Prog C R E Unit → Prog C R E α
  | ret a, _ => ret a
  | throw e, cleanup => cleanup.bind (fun _ => throw e)
  | call c k, cleanup => call c (fun r => onThrow (k r) cleanup)

@[simp] theorem pure_eq
    (a : α) :
    (pure a : Prog C R E α) = ret a := by
  rfl

@[simp] theorem ret_bind
    (a : α) (f : α → Prog C R E β) :
    (ret a >>= f) = f a := by
  rfl

@[simp] theorem throw_bind
    (e : E) (f : α → Prog C R E β) :
    (throw e >>= f) = throw e := by
  rfl

@[simp] theorem call_bind
    (c : C) (k : R → Prog C R E α) (f : α → Prog C R E β) :
    (call c k >>= f) = call c (fun r => k r >>= f) := by
  rfl

@[simp] theorem perform_bind
    (c : C) (f : R → Prog C R E β) :
    (perform c >>= f) = call c f := by
  rfl

@[simp] theorem onThrow_ret
    (a : α) (cleanup : Prog C R E Unit) :
    onThrow (ret a) cleanup = ret a := by
  rfl

@[simp] theorem onThrow_throw
    (e : E) (cleanup : Prog C R E Unit) :
    onThrow (throw e : Prog C R E α) cleanup =
      (cleanup >>= fun _ => throw e) := by
  rfl

@[simp] theorem onThrow_call
    (c : C) (k : R → Prog C R E α) (cleanup : Prog C R E Unit) :
    onThrow (call c k) cleanup =
      call c (fun r => onThrow (k r) cleanup) := by
  rfl

theorem bind_assoc
    {δ : Type}
    (p : Prog C R E α)
    (f : α → Prog C R E β) (g : β → Prog C R E δ) :
    (p >>= f >>= g) = (p >>= fun a => f a >>= g) := by
  induction p with
  | ret a =>
      rfl
  | throw e =>
      rfl
  | call c k ih =>
      simp only [call_bind, ih]

/-- Returning the result changes nothing. -/
theorem bind_ret
    (p : Prog C R E α) :
    (p >>= fun a => (ret a : Prog C R E α)) = p := by
  induction p with
  | ret a =>
      rfl
  | throw e =>
      rfl
  | call c k ih =>
      simp only [call_bind, ih]

end Combinators

section Run

variable {C R E α β σ : Type}

/-- Execute a program alone against an environment with state `σ`. -/
def run (answer : σ → C → R × σ) :
    Prog C R E α → σ → Except E α × σ
  | ret a, s => (.ok a, s)
  | throw e, s => (.error e, s)
  | call c k, s => run answer (k (answer s c).1) (answer s c).2

variable (answer : σ → C → R × σ)

@[simp] theorem run_ret
    (a : α) (s : σ) :
    run answer (ret a : Prog C R E α) s = (.ok a, s) := by
  rfl

@[simp] theorem run_throw
    (e : E) (s : σ) :
    run answer (throw e : Prog C R E α) s = (.error e, s) := by
  rfl

@[simp] theorem run_call
    (c : C) (k : R → Prog C R E α) (s : σ) :
    run answer (call c k) s =
      run answer (k (answer s c).1) (answer s c).2 := by
  rfl

/-- Running a sequence runs its parts in order. -/
theorem run_bind
    (p : Prog C R E α) (f : α → Prog C R E β) (s : σ) :
    run answer (p >>= f) s =
      match run answer p s with
      | (.ok a, s') => run answer (f a) s'
      | (.error e, s') => (.error e, s') := by
  induction p generalizing s with
  | ret a =>
      rw [ret_bind, run_ret]
  | throw e =>
      rw [throw_bind, run_throw, run_throw]
  | call c k ih =>
      rw [call_bind, run_call, run_call]
      exact ih _ _

/-- The cleanup runs exactly in the state in which the body threw. -/
theorem run_onThrow
    (p : Prog C R E α) (cleanup : Prog C R E Unit) (s : σ) :
    run answer (onThrow p cleanup) s =
      match run answer p s with
      | (.ok a, s') => (.ok a, s')
      | (.error e, s') =>
          run answer (cleanup >>= fun _ => (throw e : Prog C R E α)) s' := by
  induction p generalizing s with
  | ret a =>
      rw [onThrow_ret, run_ret]
  | throw e =>
      rw [onThrow_throw, run_throw]
  | call c k ih =>
      rw [onThrow_call, run_call, run_call]
      exact ih _ _

/-- Only the body returns; an exception that passes a cleanup goes on. -/
theorem run_onThrow_ok
    {p : Prog C R E α} {cleanup : Prog C R E Unit} {s s' : σ} {a : α}
    (h : run answer (onThrow p cleanup) s = (.ok a, s')) :
    run answer p s = (.ok a, s') := by
  rw [run_onThrow] at h
  cases hbody : run answer p s with
  | mk outcome after =>
      rw [hbody] at h
      cases outcome with
      | ok b =>
          exact h
      | error e =>
          simp only [run_bind] at h
          split at h <;> cases h

/-- A program that ends by returning `b` returns nothing else. -/
theorem run_bind_ret_ok
    {p : Prog C R E α} {a b : β} {s s' : σ}
    (h : run answer (p >>= fun _ => ret b) s = (.ok a, s')) :
    a = b := by
  rw [run_bind] at h
  split at h
  · cases h
    rfl
  · cases h

end Run

section Log

variable {C R E α β σ : Type}

/-- The calls of a run with their replies, in order. -/
def log (answer : σ → C → R × σ) :
    Prog C R E α → σ → List (C × R)
  | ret _, _ => []
  | throw _, _ => []
  | call c k, s =>
      (c, (answer s c).1) :: log answer (k (answer s c).1) (answer s c).2

variable (answer : σ → C → R × σ)

@[simp] theorem log_ret
    (a : α) (s : σ) :
    log answer (ret a : Prog C R E α) s = [] := by
  rfl

@[simp] theorem log_throw
    (e : E) (s : σ) :
    log answer (throw e : Prog C R E α) s = [] := by
  rfl

@[simp] theorem log_call
    (c : C) (k : R → Prog C R E α) (s : σ) :
    log answer (call c k) s =
      (c, (answer s c).1) ::
        log answer (k (answer s c).1) (answer s c).2 := by
  rfl

end Log

end Prog

section Discipline

/-- A usage discipline: which calls a holder may issue, which replies the
environment may give, and how a call changes what is held. -/
structure Discipline (C R γ : Type) where
  permits : γ → C → Prop
  possible : C → R → Prop
  next : γ → C → R → γ

variable {C R E α β γ : Type}
variable (D : Discipline C R γ)

/-- The program obeys the discipline against every reply and ends in `Q`. -/
def Safe (Q : Except E α → γ → Prop) :
    Prog C R E α → γ → Prop
  | .ret a, g => Q (.ok a) g
  | .throw e, g => Q (.error e) g
  | .call c k, g =>
      D.permits g c ∧
        ∀ r, D.possible c r → Safe Q (k r) (D.next g c r)

variable {D}

@[simp] theorem safe_ret
    (Q : Except E α → γ → Prop) (a : α) (g : γ) :
    Safe D Q (.ret a : Prog C R E α) g ↔ Q (.ok a) g := by
  rfl

@[simp] theorem safe_throw
    (Q : Except E α → γ → Prop) (e : E) (g : γ) :
    Safe D Q (.throw e : Prog C R E α) g ↔ Q (.error e) g := by
  rfl

@[simp] theorem safe_call
    (Q : Except E α → γ → Prop) (c : C) (k : R → Prog C R E α) (g : γ) :
    Safe D Q (.call c k) g ↔
      D.permits g c ∧
        ∀ r, D.possible c r → Safe D Q (k r) (D.next g c r) := by
  rfl

/-- A weaker postcondition is met as well. -/
theorem Safe.mono
    {Q Q' : Except E α → γ → Prop}
    (hQ : ∀ o g, Q o g → Q' o g)
    {p : Prog C R E α} {g : γ}
    (h : Safe D Q p g) :
    Safe D Q' p g := by
  induction p generalizing g with
  | ret a =>
      rw [safe_ret] at h ⊢
      exact hQ _ _ h
  | throw e =>
      rw [safe_throw] at h ⊢
      exact hQ _ _ h
  | call c k ih =>
      rw [safe_call] at h ⊢
      exact ⟨h.1, fun r hr => ih r (h.2 r hr)⟩

/-- Sequencing rule: the first part must end where the second may begin. -/
theorem Safe.bind
    {Q : Except E β → γ → Prop}
    {p : Prog C R E α} {f : α → Prog C R E β} {g : γ}
    (h : Safe D
      (fun o g' =>
        match o with
        | .ok a => Safe D Q (f a) g'
        | .error e => Q (.error e) g') p g) :
    Safe D Q (p >>= f) g := by
  induction p generalizing g with
  | ret a =>
      exact h
  | throw e =>
      exact h
  | call c k ih =>
      exact ⟨h.1, fun r hr => ih r (h.2 r hr)⟩

/-- Unwinding rule: where the body throws, the cleanup must be safe. -/
theorem Safe.onThrow
    {Q : Except E α → γ → Prop}
    {p : Prog C R E α} {cleanup : Prog C R E Unit} {g : γ}
    (h : Safe D
      (fun o g' =>
        match o with
        | .ok a => Q (.ok a) g'
        | .error e =>
            Safe D Q (cleanup >>= fun _ => (.throw e : Prog C R E α)) g') p g) :
    Safe D Q (p.onThrow cleanup) g := by
  induction p generalizing g with
  | ret a =>
      exact h
  | throw e =>
      exact h
  | call c k ih =>
      exact ⟨h.1, fun r hr => ih r (h.2 r hr)⟩

/-- A log that obeys the discipline, call by call. -/
def Discipline.Follows (D : Discipline C R γ) : γ → List (C × R) → Prop
  | _, [] => True
  | g, (c, r) :: rest => D.permits g c ∧ D.Follows (D.next g c r) rest

/-- What a safe program does against a possible environment obeys the
discipline. -/
theorem Safe.log_follows
    {σ : Type} {answer : σ → C → R × σ}
    (hpossible : ∀ s c, D.possible c (answer s c).1)
    {Q : Except E α → γ → Prop}
    {p : Prog C R E α} {g : γ}
    (h : Safe D Q p g) (s : σ) :
    D.Follows g (p.log answer s) := by
  induction p generalizing g s with
  | ret a =>
      exact trivial
  | throw e =>
      exact trivial
  | call c k ih =>
      rw [safe_call] at h
      exact ⟨h.1, ih _ (h.2 _ (hpossible s c)) _⟩

end Discipline

end Resumption
