import BsdSockets.Lib.Resumption

/-!
# Threads made of blocks

An interaction tree is finite in depth, so a loop is not one.  A thread that
loops is a family of blocks instead: each block is a program that ends by
naming the block to go on with, and `ret none` is the end of the thread.

A `Contract` says what holds of the ghost value where a block is entered, where
the thread ends and where it breaks off.  A family is `Sound` when every block,
entered as its contract says, leaves as the contract says; `Standing` is what
this makes of a thread that is somewhere in the middle of a block.  It is kept
by a call with a possible reply and by a jump, so it holds along every run,
whoever else runs in between.
-/

namespace Resumption

namespace Prog

section Combinators

variable {C R E α β C' R' : Type}

/-- Go on with `handler` where the body throws. -/
def catching : Prog C R E α → (E → Prog C R E α) → Prog C R E α
  | ret a, _ => ret a
  | throw e, handler => handler e
  | call c k, handler => call c (fun r => catching (k r) handler)

/-- The same program against another environment: `inject` is the call to make
there, `project` reads the reply. -/
def translate (inject : C → C') (project : C → R' → R) :
    Prog C R E α → Prog C' R' E α
  | ret a => ret a
  | throw e => throw e
  | call c k => call (inject c) (fun r => translate inject project (k (project c r)))

@[simp] theorem translate_ret
    (inject : C → C') (project : C → R' → R) (a : α) :
    translate inject project (ret a : Prog C R E α) = ret a := by
  rfl

@[simp] theorem translate_throw
    (inject : C → C') (project : C → R' → R) (e : E) :
    translate inject project (throw e : Prog C R E α) = throw e := by
  rfl

@[simp] theorem translate_call
    (inject : C → C') (project : C → R' → R)
    (c : C) (k : R → Prog C R E α) :
    translate inject project (call c k) =
      call (inject c)
        (fun r => translate inject project (k (project c r))) := by
  rfl

end Combinators

end Prog

section Rules

variable {C R E α γ C' R' γ' : Type}

/-- Catching rule: where the body throws, the handler must be safe. -/
theorem Safe.catching
    {D : Discipline C R γ} {Q : Except E α → γ → Prop}
    {p : Prog C R E α} {handler : E → Prog C R E α} {g : γ}
    (h : Safe D
      (fun o g' =>
        match o with
        | .ok a => Q (.ok a) g'
        | .error e => Safe D Q (handler e) g') p g) :
    Safe D Q (p.catching handler) g := by
  induction p generalizing g with
  | ret a =>
      exact h
  | throw e =>
      exact h
  | call c k ih =>
      exact ⟨h.1, fun r hr => ih r (h.2 r hr)⟩

/-- A discipline whose calls and ghost values are those of another one, seen
through a translation. -/
structure Discipline.Simulates
    (D' : Discipline C' R' γ') (D : Discipline C R γ)
    (inject : C → C') (project : C → R' → R) (view : γ' → γ → Prop) :
    Prop where
  permits : ∀ g' g c, view g' g → D.permits g c → D'.permits g' (inject c)
  possible : ∀ c r, D'.possible (inject c) r → D.possible c (project c r)
  next : ∀ g' g c r, view g' g → D.permits g c → D'.possible (inject c) r →
    view (D'.next g' (inject c) r) (D.next g c (project c r))

/-- Translation rule: what is safe here is safe there. -/
theorem Safe.translate
    {D' : Discipline C' R' γ'} {D : Discipline C R γ}
    {inject : C → C'} {project : C → R' → R} {view : γ' → γ → Prop}
    (hsim : D'.Simulates D inject project view)
    {Q : Except E α → γ → Prop} {Q' : Except E α → γ' → Prop}
    (hQ : ∀ o g g', view g' g → Q o g → Q' o g')
    {p : Prog C R E α} {g : γ} {g' : γ'}
    (hview : view g' g)
    (h : Safe D Q p g) :
    Safe D' Q' (p.translate inject project) g' := by
  induction p generalizing g g' with
  | ret a =>
      exact hQ _ _ _ hview h
  | throw e =>
      exact hQ _ _ _ hview h
  | call c k ih =>
      refine ⟨hsim.permits _ _ _ hview h.1, ?_⟩
      intro r hr
      exact ih _ (hsim.next _ _ _ _ hview h.1 hr) (h.2 _ (hsim.possible _ _ hr))

end Rules

section Restriction

variable {C R E α β γ : Type}

/-- Whatever the replies, the program makes only such calls. -/
def Prog.Makes (allowed : C → Prop) : Prog C R E α → Prop
  | ret _ => True
  | throw _ => True
  | call c k => allowed c ∧ ∀ r, (k r).Makes allowed

theorem Prog.Makes.bind
    {allowed : C → Prop} {p : Prog C R E α} {f : α → Prog C R E β}
    (hp : p.Makes allowed) (hf : ∀ a, (f a).Makes allowed) :
    (p >>= f).Makes allowed := by
  induction p with
  | ret a =>
      exact hf a
  | throw e =>
      exact trivial
  | call c k ih =>
      exact ⟨hp.1, fun r => ih r (hp.2 r)⟩

theorem Prog.Makes.onThrow
    {allowed : C → Prop} {p : Prog C R E α} {cleanup : Prog C R E Unit}
    (hp : p.Makes allowed) (hcleanup : cleanup.Makes allowed) :
    (p.onThrow cleanup).Makes allowed := by
  induction p with
  | ret a =>
      exact trivial
  | throw e =>
      exact hcleanup.bind (fun _ => trivial)
  | call c k ih =>
      exact ⟨hp.1, fun r => ih r (hp.2 r)⟩

theorem Prog.makes_lift
    (allowed : C → Prop) (outcome : Except E α) :
    (Prog.lift outcome : Prog C R E α).Makes allowed := by
  cases outcome <;> exact trivial

/-- The same discipline for a program that makes only such calls. -/
def Discipline.restrict (D : Discipline C R γ) (allowed : C → Prop) :
    Discipline C R γ where
  permits g c := D.permits g c ∧ allowed c
  possible := D.possible
  next := D.next

theorem Safe.restrict
    {D : Discipline C R γ} {Q : Except E α → γ → Prop}
    {allowed : C → Prop} {p : Prog C R E α} {g : γ}
    (hmakes : p.Makes allowed)
    (h : Safe D Q p g) :
    Safe (D.restrict allowed) Q p g := by
  induction p generalizing g with
  | ret a =>
      exact h
  | throw e =>
      exact h
  | call c k ih =>
      exact ⟨⟨h.1, hmakes.1⟩, fun r hr => ih r (hmakes.2 r) (h.2 r hr)⟩

end Restriction

section Logs

variable {C R γ : Type} (D : Discipline C R γ)

/-- The ghost value after a log. -/
def Discipline.after (g : γ) (log : List (C × R)) : γ :=
  log.foldl (fun held entry => D.next held entry.1 entry.2) g

@[simp] theorem Discipline.after_cons
    (g : γ) (c : C) (r : R) (log : List (C × R)) :
    D.after g ((c, r) :: log) = D.after (D.next g c r) log := by
  rfl

theorem Discipline.after_append
    (g : γ) (first second : List (C × R)) :
    D.after g (first ++ second) = D.after (D.after g first) second := by
  exact List.foldl_append

theorem Discipline.follows_append
    (g : γ) (first second : List (C × R)) :
    D.Follows g (first ++ second) ↔
      D.Follows g first ∧ D.Follows (D.after g first) second := by
  induction first generalizing g with
  | nil =>
      exact (iff_of_eq (true_and _)).symm
  | cons entry rest ih =>
      obtain ⟨c, r⟩ := entry
      simp only [List.cons_append, Discipline.Follows, after_cons, ih,
        and_assoc]

variable {D}

/-- A call in a log was permitted where it was made. -/
theorem Discipline.Follows.permits_of_mem
    {g : γ} {log : List (C × R)} {c : C} {r : R}
    (h : D.Follows g log) (hmem : (c, r) ∈ log) :
    ∃ before later, log = before ++ (c, r) :: later ∧
      D.Follows g before ∧ D.permits (D.after g before) c := by
  obtain ⟨before, later, rfl⟩ := List.append_of_mem hmem
  obtain ⟨hbefore, hpermits, _⟩ := (D.follows_append g _ _).mp h
  exact ⟨before, later, rfl, hbefore, hpermits⟩

/-- A relation between the log so far and the ghost value that every permitted
call keeps holds after the whole log. -/
theorem Discipline.Follows.law
    (Law : List (C × R) → γ → Prop)
    (hstep : ∀ log g c r, Law log g → D.permits g c →
      Law (log ++ [(c, r)]) (D.next g c r))
    {g : γ} {before log : List (C × R)}
    (hbefore : Law before g)
    (h : D.Follows g log) :
    Law (before ++ log) (D.after g log) := by
  induction log generalizing before g with
  | nil =>
      rwa [List.append_nil]
  | cons entry rest ih =>
      obtain ⟨c, r⟩ := entry
      have hrest := ih (hstep before g c r hbefore h.1) h.2
      rwa [List.append_assoc] at hrest

/-- The same for what the ghost value alone says. -/
theorem Discipline.Follows.invariant
    (Inv : γ → Prop)
    (hstep : ∀ g c r, Inv g → D.permits g c → Inv (D.next g c r))
    {g : γ} {log : List (C × R)}
    (hg : Inv g)
    (h : D.Follows g log) :
    Inv (D.after g log) := by
  induction log generalizing g with
  | nil =>
      exact hg
  | cons entry rest ih =>
      exact ih (hstep g entry.1 entry.2 hg h.1) h.2

/-- The discipline that remembers everything: what may be called depends on the
log so far. -/
def Discipline.recording
    (permits : List (C × R) → C → Prop) (possible : C → R → Prop) :
    Discipline C R (List (C × R)) where
  permits := permits
  possible := possible
  next log c r := log ++ [(c, r)]

theorem Discipline.after_recording
    (permits : List (C × R) → C → Prop) (possible : C → R → Prop)
    (before log : List (C × R)) :
    (Discipline.recording permits possible).after before log =
      before ++ log := by
  induction log generalizing before with
  | nil =>
      exact (List.append_nil before).symm
  | cons entry rest ih =>
      rw [after_cons, ih]
      exact List.append_assoc before [entry] rest

/-- Whatever is in a log was permitted by the log before it. -/
theorem Discipline.Follows.permits_before
    {permits : List (C × R) → C → Prop} {possible : C → R → Prop}
    {before later : List (C × R)} {c : C} {r : R}
    (h : (Discipline.recording permits possible).Follows []
      (before ++ (c, r) :: later)) :
    permits before c := by
  have hpermits := ((Discipline.follows_append _ [] before _).mp h).2.1
  rwa [after_recording] at hpermits

/-- A program that is safe leaves a log that begins with the one it found. -/
theorem Safe.extends
    {permits : List (C × R) → C → Prop} {possible : C → R → Prop}
    {E α : Type} {Q : Except E α → List (C × R) → Prop}
    {p : Prog C R E α} {log : List (C × R)}
    (h : Safe (Discipline.recording permits possible) Q p log) :
    Safe (Discipline.recording permits possible)
      (fun o after => log <+: after ∧ Q o after) p log := by
  induction p generalizing log with
  | ret a =>
      exact ⟨List.prefix_refl log, h⟩
  | throw e =>
      exact ⟨List.prefix_refl log, h⟩
  | call c k ih =>
      refine ⟨h.1, ?_⟩
      intro r hr
      refine Safe.mono ?_ (ih r (h.2 r hr))
      intro o after hafter
      exact ⟨(List.prefix_append log [(c, r)]).trans hafter.1, hafter.2⟩

end Logs

section Blocks

variable {C R E L γ : Type}

/-- A thread: what is left of its present block, and the calls it made. -/
structure Running (C R E L : Type) where
  program : Prog C R E (Option L)
  log : List (C × R)

namespace Running

/-- A thread that is about to enter a block. -/
def entering (block : L → Prog C R E (Option L)) (label : L) :
    Running C R E L where
  program := block label
  log := []

def Ended (thread : Running C R E L) : Prop :=
  thread.program = .ret none

/-- What a thread does next: a call with its reply, or a jump. -/
inductive Moves (block : L → Prog C R E (Option L)) :
    Running C R E L → Option (C × R) → Running C R E L → Prop
  | calls (c : C) (k : R → Prog C R E (Option L)) (log : List (C × R))
      (r : R) :
      Moves block ⟨.call c k, log⟩ (some (c, r)) ⟨k r, log ++ [(c, r)]⟩
  | jumps (label : L) (log : List (C × R)) :
      Moves block ⟨.ret (some label), log⟩ none ⟨block label, log⟩

variable {block : L → Prog C R E (Option L)}

/-- A thread that has ended does nothing more. -/
theorem Moves.not_ended
    {thread after : Running C R E L} {event : Option (C × R)}
    (h : Moves block thread event after) :
    ¬ thread.Ended := by
  intro hended
  cases h <;> cases hended

/-- The log of a thread only grows. -/
theorem Moves.log_eq
    {thread after : Running C R E L} {event : Option (C × R)}
    (h : Moves block thread event after) :
    after.log = thread.log ++ event.toList := by
  cases h with
  | calls c k log r =>
      rfl
  | jumps label log =>
      exact (List.append_nil _).symm

end Running

/-- Where a family of blocks may be entered, end, and break off. -/
structure Contract (E L γ : Type) where
  enters : L → γ → Prop
  ends : γ → Prop
  breaks : E → γ → Prop

namespace Contract

/-- The contract at the end of a block. -/
def exit (contract : Contract E L γ) : Except E (Option L) → γ → Prop
  | .ok (some label), g => contract.enters label g
  | .ok none, g => contract.ends g
  | .error e, g => contract.breaks e g

/-- Every block keeps the contract. -/
def Sound
    (contract : Contract E L γ) (D : Discipline C R γ)
    (block : L → Prog C R E (Option L)) : Prop :=
  ∀ label g, contract.enters label g → Safe D contract.exit (block label) g

/-- A thread that has followed the discipline, and whose block will keep the
contract. -/
def Standing
    (contract : Contract E L γ) (D : Discipline C R γ) (g : γ)
    (thread : Running C R E L) : Prop :=
  D.Follows g thread.log ∧
    Safe D contract.exit thread.program (D.after g thread.log)

variable {contract : Contract E L γ} {D : Discipline C R γ}
variable {block : L → Prog C R E (Option L)} {g : γ}

theorem Sound.entering
    (h : contract.Sound D block) {label : L}
    (henters : contract.enters label g) :
    contract.Standing D g (Running.entering block label) :=
  ⟨trivial, h label g henters⟩

/-- The call that a standing thread is about to make is permitted. -/
theorem Standing.permits
    {c : C} {k : R → Prog C R E (Option L)} {log : List (C × R)}
    (h : contract.Standing D g ⟨.call c k, log⟩) :
    D.permits (D.after g log) c :=
  h.2.1

/-- Whatever a standing thread calls is permitted. -/
theorem Standing.permits_moves
    {thread after : Running C R E L} {c : C} {r : R}
    (hmoves : Running.Moves block thread (some (c, r)) after)
    (h : contract.Standing D g thread) :
    D.permits (D.after g thread.log) c := by
  cases hmoves with
  | calls c k log r =>
      exact h.permits

/-- A thread stands after whatever it does. -/
theorem Standing.moves
    (hsound : contract.Sound D block)
    {thread after : Running C R E L} {event : Option (C × R)}
    (hmoves : Running.Moves block thread event after)
    (hpossible : ∀ c r, event = some (c, r) → D.possible c r)
    (h : contract.Standing D g thread) :
    contract.Standing D g after := by
  cases hmoves with
  | calls c k log r =>
      obtain ⟨hlog, hpermits, hnext⟩ := h
      refine ⟨(D.follows_append _ _ _).mpr ⟨hlog, hpermits, trivial⟩, ?_⟩
      have hsafe := hnext r (hpossible c r rfl)
      rwa [D.after_append]
  | jumps label log =>
      exact ⟨h.1, hsound label _ h.2⟩

theorem Standing.ended
    {thread : Running C R E L}
    (h : contract.Standing D g thread)
    (hended : thread.Ended) :
    contract.ends (D.after g thread.log) := by
  have hsafe := h.2
  rw [hended] at hsafe
  exact hsafe

end Contract

end Blocks

end Resumption
