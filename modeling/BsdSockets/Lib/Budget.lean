import BsdSockets.Lib.Blocks

/-!
# Budgets of programs

`Within` bounds what the calls of a program can cost, over all replies that are
possible, together with what is left to pay where the program ends.  It is a
weakest precondition: `bind`, `catching`, `onThrow` and `translate` have the
rules one expects, and a smaller set of possible replies never costs more.

For a thread of blocks an `Allowance` says what each block may cost from its
entry to the end of the thread, the jump into the next block included.  What a
thread has left is then used up by everything it does.
-/

namespace Resumption

namespace Prog

variable {C R E α β : Type}

/-- The calls of the program and what is due at its end cost at most this. -/
def Within
    (possible : C → R → Prop) (weight : C → R → Nat)
    (due : Except E α → Nat) : Prog C R E α → Nat → Prop
  | ret a, n => due (.ok a) ≤ n
  | throw e, n => due (.error e) ≤ n
  | call c k, n =>
      ∀ r, possible c r →
        weight c r ≤ n ∧ Within possible weight due (k r) (n - weight c r)

section Rules

variable {possible : C → R → Prop} {weight : C → R → Nat}
variable {due : Except E α → Nat}

@[simp] theorem within_ret
    (a : α) (n : Nat) :
    (ret a : Prog C R E α).Within possible weight due n ↔
      due (.ok a) ≤ n := by
  rfl

/-- A larger budget is enough as well. -/
theorem Within.mono
    {p : Prog C R E α} {n m : Nat}
    (hle : n ≤ m)
    (h : p.Within possible weight due n) :
    p.Within possible weight due m := by
  induction p generalizing n m with
  | ret a =>
      exact Nat.le_trans h hle
  | throw e =>
      exact Nat.le_trans h hle
  | call c k ih =>
      intro r hr
      obtain ⟨hweight, hrest⟩ := h r hr
      exact ⟨Nat.le_trans hweight hle, ih r (Nat.sub_le_sub_right hle _) hrest⟩

/-- Calling rule: the price of the call, whatever the reply, comes on top. -/
theorem Within.call
    {c : C} {k : R → Prog C R E α} {price n : Nat}
    (hweight : ∀ r, weight c r ≤ price)
    (hrest : ∀ r, possible c r → (k r).Within possible weight due n) :
    (call c k).Within possible weight due (price + n) := by
  intro r hr
  have hprice := hweight r
  exact ⟨by omega, (hrest r hr).mono (by omega)⟩

/-- An environment with fewer replies costs no more. -/
theorem Within.restrict
    {possible' : C → R → Prop}
    (hfewer : ∀ c r, possible' c r → possible c r)
    {p : Prog C R E α} {n : Nat}
    (h : p.Within possible weight due n) :
    p.Within possible' weight due n := by
  induction p generalizing n with
  | ret a =>
      exact h
  | throw e =>
      exact h
  | call c k ih =>
      intro r hr
      obtain ⟨hweight, hrest⟩ := h r (hfewer c r hr)
      exact ⟨hweight, ih r hrest⟩

/-- Sequencing rule: at its end the first part has what the second needs. -/
theorem Within.bind
    {due' : Except E β → Nat} (before : α → Nat)
    {p : Prog C R E α} {f : α → Prog C R E β} {n : Nat}
    (hfirst : p.Within possible weight
      (fun o =>
        match o with
        | .ok a => before a
        | .error e => due' (.error e)) n)
    (hsecond : ∀ a, (f a).Within possible weight due' (before a)) :
    (p >>= f).Within possible weight due' n := by
  induction p generalizing n with
  | ret a =>
      exact (hsecond a).mono hfirst
  | throw e =>
      exact hfirst
  | call c k ih =>
      intro r hr
      obtain ⟨hweight, hrest⟩ := hfirst r hr
      exact ⟨hweight, ih r hrest⟩

/-- Catching rule: where the body throws it has what the handler needs. -/
theorem Within.catching
    (before : E → Nat)
    {p : Prog C R E α} {handler : E → Prog C R E α} {n : Nat}
    (hbody : p.Within possible weight
      (fun o =>
        match o with
        | .ok a => due (.ok a)
        | .error e => before e) n)
    (hhandler : ∀ e, (handler e).Within possible weight due (before e)) :
    (p.catching handler).Within possible weight due n := by
  induction p generalizing n with
  | ret a =>
      exact hbody
  | throw e =>
      exact (hhandler e).mono hbody
  | call c k ih =>
      intro r hr
      obtain ⟨hweight, hrest⟩ := hbody r hr
      exact ⟨hweight, ih r hrest⟩

/-- Translation rule. -/
theorem Within.translate
    {C' R' : Type} {inject : C → C'} {project : C → R' → R}
    {possible' : C' → R' → Prop} {weight' : C' → R' → Nat}
    (hpossible : ∀ c r, possible' (inject c) r → possible c (project c r))
    (hweight : ∀ c r, weight' (inject c) r ≤ weight c (project c r))
    {p : Prog C R E α} {n : Nat}
    (h : p.Within possible weight due n) :
    (p.translate inject project).Within possible' weight' due n := by
  induction p generalizing n with
  | ret a =>
      exact h
  | throw e =>
      exact h
  | call c k ih =>
      intro r hr
      obtain ⟨hfirst, hrest⟩ := h (project c r) (hpossible c r hr)
      refine ⟨Nat.le_trans (hweight c r) hfirst, ?_⟩
      exact (ih _ hrest).mono (Nat.sub_le_sub_left (hweight c r) n)

end Rules

section Costs

variable {possible : C → R → Prop} {weight : C → R → Nat}

/-- The calls of the program alone cost at most this. -/
def Costs
    (possible : C → R → Prop) (weight : C → R → Nat)
    (p : Prog C R E α) (n : Nat) : Prop :=
  p.Within possible weight (fun _ => 0) n

theorem costs_ret
    (a : α) (n : Nat) :
    (ret a : Prog C R E α).Costs possible weight n :=
  Nat.zero_le n

theorem costs_throw
    (e : E) (n : Nat) :
    (throw e : Prog C R E α).Costs possible weight n :=
  Nat.zero_le n

theorem costs_lift
    (outcome : Except E α) (n : Nat) :
    (lift outcome : Prog C R E α).Costs possible weight n := by
  cases outcome <;> exact Nat.zero_le n

theorem costs_lift_bind
    {outcome : Except E α} {f : α → Prog C R E β} {n : Nat}
    (hf : ∀ a, (f a).Costs possible weight n) :
    (lift outcome >>= f).Costs possible weight n := by
  cases outcome with
  | ok a =>
      exact hf a
  | error e =>
      exact Nat.zero_le n

theorem costs_call
    {c : C} {k : R → Prog C R E α} {price n : Nat}
    (hweight : ∀ r, weight c r ≤ price)
    (hrest : ∀ r, possible c r → (k r).Costs possible weight n) :
    (call c k).Costs possible weight (price + n) :=
  Within.call hweight hrest

/-- What is due at the end comes on top. -/
theorem Costs.within
    {due : Except E α → Nat} {p : Prog C R E α} {n m : Nat}
    (h : p.Costs possible weight n)
    (hdue : ∀ o, due o ≤ m) :
    p.Within possible weight due (n + m) := by
  induction p generalizing n with
  | ret a =>
      exact Nat.le_trans (hdue _) (Nat.le_add_left _ _)
  | throw e =>
      exact Nat.le_trans (hdue _) (Nat.le_add_left _ _)
  | call c k ih =>
      intro r hr
      obtain ⟨hweight, hrest⟩ := h r hr
      exact ⟨by omega, (ih r hrest).mono (by omega)⟩

theorem Costs.mono
    {p : Prog C R E α} {n m : Nat}
    (hle : n ≤ m)
    (h : p.Costs possible weight n) :
    p.Costs possible weight m :=
  Within.mono hle h

theorem Costs.bind
    {p : Prog C R E α} {f : α → Prog C R E β} {n m : Nat}
    (hp : p.Costs possible weight n)
    (hf : ∀ a, (f a).Costs possible weight m) :
    (p >>= f).Costs possible weight (n + m) := by
  refine Within.bind (fun _ => m) (hp.within ?_) hf
  rintro (e | a)
  · exact Nat.zero_le m
  · exact Nat.le_refl m

theorem Costs.catching
    {p : Prog C R E α} {handler : E → Prog C R E α} {n m : Nat}
    (hp : p.Costs possible weight n)
    (hhandler : ∀ e, (handler e).Costs possible weight m) :
    (p.catching handler).Costs possible weight (n + m) := by
  refine Within.catching (fun _ => m) (hp.within ?_) hhandler
  rintro (e | a)
  · exact Nat.le_refl m
  · exact Nat.zero_le m

theorem Costs.onThrow
    {p : Prog C R E α} {cleanup : Prog C R E Unit} {n m : Nat}
    (hp : p.Costs possible weight n)
    (hcleanup : cleanup.Costs possible weight m) :
    (p.onThrow cleanup).Costs possible weight (n + m) := by
  induction p generalizing n with
  | ret a =>
      exact Nat.zero_le _
  | throw e =>
      refine Costs.mono (Nat.le_add_left _ _) (hcleanup.bind (m := 0) ?_)
      intro u
      exact costs_throw e 0
  | call c k ih =>
      intro r hr
      obtain ⟨hweight, hrest⟩ := hp r hr
      exact ⟨by omega, Within.mono (by omega) (ih r hrest)⟩

end Costs

end Prog

section Threads

variable {C R E L : Type}

/-- What a thread may cost from the entry of each block, and what a jump
costs. -/
structure Allowance (L : Type) where
  jump : Nat
  block : L → Nat

namespace Allowance

/-- What is due at the end of a block. -/
def due (allowance : Allowance L) : Except E (Option L) → Nat
  | .ok (some label) => allowance.jump + allowance.block label
  | .ok none => 0
  | .error _ => 0

/-- What something that a thread does costs. -/
def charge (allowance : Allowance L) (weight : C → R → Nat) :
    Option (C × R) → Nat
  | some (c, r) => weight c r
  | none => allowance.jump

/-- The thread can go on for at most this. -/
def Lasts
    (allowance : Allowance L)
    (possible : C → R → Prop) (weight : C → R → Nat)
    (thread : Running C R E L) (n : Nat) : Prop :=
  thread.program.Within possible weight allowance.due n

variable {allowance : Allowance L}
variable {possible : C → R → Prop} {weight : C → R → Nat}
variable {block : L → Prog C R E (Option L)}

/-- What bounds the rest of a block and the next block bounds a thread. -/
theorem Lasts.steady
    {n : Nat} {thread after : Running C R E L} {event : Option (C × R)}
    (hblock : ∀ label, thread.program = .ret (some label) →
      (block label).Within possible weight allowance.due n)
    (hmoves : Running.Moves block thread event after)
    (hpossible : ∀ c r, event = some (c, r) → possible c r)
    (h : allowance.Lasts possible weight thread n) :
    allowance.Lasts possible weight after n := by
  cases hmoves with
  | calls c k log r =>
      exact (h r (hpossible c r rfl)).2.mono (Nat.sub_le _ _)
  | jumps label log =>
      exact hblock label rfl

/-- Whatever a thread does is paid for out of what it has. -/
theorem Lasts.moves
    (hblock : ∀ label,
      (block label).Within possible weight allowance.due
        (allowance.block label))
    {thread after : Running C R E L} {event : Option (C × R)}
    (hmoves : Running.Moves block thread event after)
    (hpossible : ∀ c r, event = some (c, r) → possible c r)
    {n : Nat}
    (h : allowance.Lasts possible weight thread n) :
    allowance.charge weight event ≤ n ∧
      allowance.Lasts possible weight after
        (n - allowance.charge weight event) := by
  cases hmoves with
  | calls c k log r =>
      exact h r (hpossible c r rfl)
  | jumps label log =>
      have hdue : allowance.jump + allowance.block label ≤ n := h
      refine ⟨Nat.le_trans (Nat.le_add_right _ _) hdue, ?_⟩
      exact (hblock label).mono (Nat.le_sub_of_add_le' hdue)

end Allowance

end Threads

end Resumption
