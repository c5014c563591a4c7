import BsdSockets.Lib.Resumption
import Mathlib.Algebra.BigOperators.Group.Multiset.Basic

/-!
# Pools of running programs

Several programs run at once as a multiset of threads, each of them with the
ghost value that says what it holds.  `Obeys` is the invariant of a whole pool:
every thread follows the discipline from where it stands.  One lemma says what
a thread may be about to do, and one what a call leaves behind; whoever
schedules the pool needs no other fact about its programs.

`tally` counts what the members of a pool hold together.
-/

namespace Resumption

universe u

section Tally

variable {τ : Type u}

/-- The sum of a quantity over the members of a pool. -/
def tally (quantity : τ → Nat) (pool : Multiset τ) : Nat :=
  (pool.map quantity).sum

@[simp] theorem tally_zero
    (quantity : τ → Nat) :
    tally quantity (0 : Multiset τ) = 0 := by
  rfl

@[simp] theorem tally_cons
    (quantity : τ → Nat) (member : τ) (pool : Multiset τ) :
    tally quantity (member ::ₘ pool) =
      quantity member + tally quantity pool := by
  simp [tally]

@[simp] theorem tally_add
    (quantity : τ → Nat) (first second : Multiset τ) :
    tally quantity (first + second) =
      tally quantity first + tally quantity second := by
  simp [tally]

@[simp] theorem tally_singleton
    (quantity : τ → Nat) (member : τ) :
    tally quantity {member} = quantity member := by
  simp [tally]

/-- A member has no more than the pool. -/
theorem le_tally
    (quantity : τ → Nat) {member : τ} {pool : Multiset τ}
    (h : member ∈ pool) :
    quantity member ≤ tally quantity pool := by
  obtain ⟨rest, rfl⟩ := Multiset.exists_cons_of_mem h
  rw [tally_cons]
  exact Nat.le_add_right _ _

/-- What a pool has, some member has. -/
theorem exists_of_tally_pos
    {quantity : τ → Nat} {pool : Multiset τ}
    (h : 0 < tally quantity pool) :
    ∃ member ∈ pool, 0 < quantity member := by
  induction pool using Multiset.induction_on with
  | empty =>
      cases h
  | cons member pool ih =>
      by_cases hmember : 0 < quantity member
      · exact ⟨member, Multiset.mem_cons_self _ _, hmember⟩
      · rw [tally_cons] at h
        obtain ⟨other, hother, hpos⟩ := ih (by omega)
        exact ⟨other, Multiset.mem_cons_of_mem hother, hpos⟩

end Tally

section Threads

variable {C R E α γ : Type}

/-- A running program and what it holds. -/
structure Thread (C R E α γ : Type) where
  program : Prog C R E α
  holds : γ

/-- Every thread of the pool follows the discipline. -/
def Obeys
    (D : Discipline C R γ) (Q : Except E α → γ → Prop)
    (pool : Multiset (Thread C R E α γ)) : Prop :=
  ∀ thread ∈ pool, Safe D Q thread.program thread.holds

variable {D : Discipline C R γ} {Q : Except E α → γ → Prop}

theorem obeys_cons
    {thread : Thread C R E α γ} {pool : Multiset (Thread C R E α γ)} :
    Obeys D Q (thread ::ₘ pool) ↔
      Safe D Q thread.program thread.holds ∧ Obeys D Q pool := by
  simp [Obeys]

/-- A thread that is about to make a call may make it. -/
theorem Obeys.permits
    {pool : Multiset (Thread C R E α γ)}
    (h : Obeys D Q pool)
    {c : C} {k : R → Prog C R E α} {g : γ}
    (hmem : ⟨.call c k, g⟩ ∈ pool) :
    D.permits g c :=
  (h _ hmem).1

/-- After a possible reply the pool still follows the discipline. -/
theorem Obeys.after_call
    {pool : Multiset (Thread C R E α γ)}
    {c : C} {k : R → Prog C R E α} {g : γ} {r : R}
    (h : Obeys D Q (⟨.call c k, g⟩ ::ₘ pool))
    (hpossible : D.possible c r) :
    Obeys D Q (⟨k r, D.next g c r⟩ ::ₘ pool) := by
  obtain ⟨hthread, hrest⟩ := obeys_cons.mp h
  exact obeys_cons.mpr ⟨hthread.2 r hpossible, hrest⟩

/-- A thread that has ended meets the postcondition. -/
theorem Obeys.returned
    {pool : Multiset (Thread C R E α γ)}
    {a : α} {g : γ}
    (h : Obeys D Q (⟨.ret a, g⟩ ::ₘ pool)) :
    Q (.ok a) g ∧ Obeys D Q pool :=
  obeys_cons.mp h

theorem Obeys.thrown
    {pool : Multiset (Thread C R E α γ)}
    {e : E} {g : γ}
    (h : Obeys D Q (⟨.throw e, g⟩ ::ₘ pool)) :
    Q (.error e) g ∧ Obeys D Q pool :=
  obeys_cons.mp h

end Threads

end Resumption
