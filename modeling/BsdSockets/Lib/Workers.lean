import BsdSockets.Lib.Budget

/-!
# A main thread and its workers

A main thread starts workers one after the other, shares a state with them, and
may wait for the end of a worker by its number.  Main and workers are threads of
blocks; a step is one call or one jump of one of them, in any order, so a
statement about every run is one about every interleaving.

Whatever a proof needs from the threads it gets one thread at a time.  A
`Regime` is an invariant of the shared state with a discipline for main and one
for the workers; `Regime.standing` is the induction over the run.  Three results
are about the structure alone: a worker that was waited for has ended, a
configuration that cannot go on running has ended or is broken, and what all
threads have left is used up by what they do.
-/

namespace Resumption

variable {C R E M W σ κ : Type}

/-- `starts` is the worker that a call of main starts, and `awaits` the number
of the worker for whose end a call waits.  An answer may halt the machine: then
no thread goes on, wherever it is. -/
structure Machine (C R E M W σ κ : Type) where
  main : M → Prog C R E (Option M)
  worker : W → Prog C R E (Option W)
  answer : σ → κ → C → R × σ
  halted : σ → Bool
  starts : C → R → Option W
  awaits : C → Option Nat

structure Config (C R E M W σ : Type) where
  shared : σ
  main : Running C R E M
  workers : List (Running C R E W)

/-- What a step does: a call with its reply, or a jump. -/
inductive Event (C R : Type) where
  | main (event : Option (C × R))
  | worker (number : Nat) (event : Option (C × R))

namespace Machine

variable (machine : Machine C R E M W σ κ)

section Steps

/-- The shared state answers a call; it does not see a jump. -/
inductive Answers : σ → Option (C × R) → σ → Prop
  | call (shared : σ) (choice : κ) (c : C) :
      Answers shared (some (c, (machine.answer shared choice c).1))
        (machine.answer shared choice c).2
  | jump (shared : σ) : Answers shared none shared

/-- The worker with this number is there and has ended. -/
def EndedAt (s : Config C R E M W σ) (number : Nat) : Prop :=
  ∃ thread, s.workers[number]? = some thread ∧ thread.Ended

/-- A worker that has just been started. -/
def startedBy (event : Option (C × R)) : Option W :=
  event.bind (fun entry => machine.starts entry.1 entry.2)

/-- The worker for which an event has waited. -/
def awaitedBy (event : Option (C × R)) : Option Nat :=
  event.bind (fun entry => machine.awaits entry.1)

inductive Step :
    Config C R E M W σ → Event C R → Config C R E M W σ → Prop
  | main (s : Config C R E M W σ) (event : Option (C × R))
      (after : Running C R E M) (shared : σ)
      (moves : Running.Moves machine.main s.main event after)
      (answers : machine.Answers s.shared event shared)
      (free : ∀ number, machine.awaitedBy event = some number →
        EndedAt s number)
      (running : machine.halted s.shared = false) :
      Step s (.main event)
        ⟨shared, after,
          s.workers ++
            (machine.startedBy event).toList.map
              (Running.entering machine.worker)⟩
  | worker (s : Config C R E M W σ) (number : Nat)
      (event : Option (C × R))
      (thread after : Running C R E W) (shared : σ)
      (present : s.workers[number]? = some thread)
      (moves : Running.Moves machine.worker thread event after)
      (answers : machine.Answers s.shared event shared)
      (free : machine.awaitedBy event = none)
      (running : machine.halted s.shared = false) :
      Step s (.worker number event)
        ⟨shared, s.main, s.workers.set number after⟩

/-- A run with its events. -/
inductive Run (s : Config C R E M W σ) :
    List (Event C R) → Config C R E M W σ → Prop
  | nil : Run s [] s
  | snoc (events : List (Event C R)) (t : Config C R E M W σ)
      (event : Event C R) (u : Config C R E M W σ)
      (run : Run s events t) (step : machine.Step t event u) :
      Run s (events ++ [event]) u

/-- Main is about to enter a block, and there are no workers yet. -/
def initial (shared : σ) (label : M) : Config C R E M W σ where
  shared := shared
  main := Running.entering machine.main label
  workers := []

/-- The workers that the calls of a log have started, in order. -/
def started (log : List (C × R)) : List W :=
  log.filterMap (fun entry => machine.starts entry.1 entry.2)

variable {machine}

/-- A step is made while the machine is running. -/
theorem Step.running
    {s t : Config C R E M W σ} {event : Event C R}
    (h : machine.Step s event t) :
    machine.halted s.shared = false := by
  cases h with
  | main event after shared moves answers free running =>
      exact running
  | worker number event thread after shared present moves answers free running =>
      exact running

/-- An invariant that every step keeps holds along every run. -/
theorem Run.invariant
    (Inv : Config C R E M W σ → Prop)
    (hstep : ∀ s event t, Inv s → machine.Step s event t → Inv t)
    {s t : Config C R E M W σ} {events : List (Event C R)}
    (hrun : machine.Run s events t)
    (hs : Inv s) :
    Inv t := by
  induction hrun with
  | nil =>
      exact hs
  | snoc events t event u run step ih =>
      exact hstep t event u ih step

theorem started_append
    (log : List (C × R)) (event : Option (C × R)) :
    machine.started (log ++ event.toList) =
      machine.started log ++ (machine.startedBy event).toList := by
  cases event with
  | none =>
      simp [started, startedBy]
  | some entry =>
      cases hstarts : machine.starts entry.1 entry.2 <;>
        simp [started, startedBy, hstarts]

end Steps

section Waiting

variable {machine}

/-- A worker that has ended stays as it is. -/
theorem EndedAt.step
    {s t : Config C R E M W σ} {event : Event C R} {number : Nat}
    (h : EndedAt s number)
    (hstep : machine.Step s event t) :
    EndedAt t number := by
  obtain ⟨ended, hpresent, hended⟩ := h
  cases hstep with
  | main event after shared moves answers free =>
      have hlt : number < s.workers.length :=
        (List.getElem?_eq_some_iff.mp hpresent).1
      exact ⟨ended, (List.getElem?_append_left hlt).trans hpresent, hended⟩
  | worker other event thread after shared present moves answers free =>
      have hother : other ≠ number := by
        rintro rfl
        rw [present] at hpresent
        cases hpresent
        exact moves.not_ended hended
      exact ⟨ended, (List.getElem?_set_ne hother).trans hpresent, hended⟩

/-- Whoever was waited for has ended. -/
def Awaited (machine : Machine C R E M W σ κ)
    (s : Config C R E M W σ) : Prop :=
  ∀ c r number, (c, r) ∈ s.main.log → machine.awaits c = some number →
    EndedAt s number

theorem Awaited.step
    {s t : Config C R E M W σ} {event : Event C R}
    (h : Awaited machine s)
    (hstep : machine.Step s event t) :
    Awaited machine t := by
  intro c r number hmem hawaits
  have hkept : (c, r) ∈ s.main.log → EndedAt t number := by
    intro hold
    exact (h c r number hold hawaits).step hstep
  cases hstep with
  | main event after shared moves answers free running =>
      rw [moves.log_eq, List.mem_append] at hmem
      rcases hmem with hold | hnew
      · exact hkept hold
      · have hevent : event = some (c, r) := by
          cases event with
          | none =>
              cases hnew
          | some entry =>
              rw [Option.toList_some, List.mem_singleton] at hnew
              rw [hnew]
        have hended : EndedAt s number :=
          free number (by rw [hevent]; exact hawaits)
        exact hended.step
          (.main s event after shared moves answers free running)
  | worker other event thread after shared present moves answers free =>
      exact hkept hmem

/-- In every run, a worker that main has waited for has ended. -/
theorem awaited
    {shared : σ} {label : M}
    {s : Config C R E M W σ} {events : List (Event C R)}
    (hrun : machine.Run (machine.initial shared label) events s) :
    Awaited machine s := by
  refine hrun.invariant (Awaited machine)
    (fun s event t hs hstep => hs.step hstep) ?_
  intro c r number hmem
  cases hmem

end Waiting

section Progress

variable {machine}

/-- The thread is about to make this call. -/
def AboutTo {L : Type} (thread : Running C R E L) (c : C) : Prop :=
  ∃ k, thread.program = .call c k

/-- The thread has broken off. -/
def Broken {L : Type} (thread : Running C R E L) : Prop :=
  ∃ e, thread.program = .throw e

/-- A thread that has neither ended nor broken off has something to do, and what
it does leaves the machine running if no answer to it halts the machine. -/
theorem exists_move
    {L : Type} (block : L → Prog C R E (Option L))
    {shared : σ} {choice : κ} {thread : Running C R E L}
    (hrunning : machine.halted shared = false)
    (hcalm : ∀ c, machine.halted (machine.answer shared choice c).2 = false)
    (hended : ¬ thread.Ended) (hbroken : ¬ Broken thread) :
    ∃ event after shared',
      Running.Moves block thread event after ∧
        machine.Answers shared event shared' ∧
        machine.halted shared' = false ∧
        ∀ c r, event = some (c, r) → AboutTo thread c := by
  obtain ⟨program, log⟩ := thread
  cases program with
  | ret next =>
      cases next with
      | none =>
          exact absurd rfl hended
      | some label =>
          refine ⟨none, _, shared, .jumps label log, .jump shared, hrunning, ?_⟩
          intro c r hevent
          cases hevent
  | throw e =>
      exact absurd ⟨e, rfl⟩ hbroken
  | call c k =>
      refine ⟨_, _, _, .calls c k log (machine.answer shared choice c).1,
        .call shared choice c, hcalm c, ?_⟩
      intro c' r hevent
      cases hevent
      exact ⟨k, rfl⟩

theorem awaitedBy_eq_none
    {event : Option (C × R)}
    (h : ∀ c r, event = some (c, r) → machine.awaits c = none) :
    machine.awaitedBy event = none := by
  cases event with
  | none =>
      rfl
  | some entry =>
      exact h entry.1 entry.2 rfl

/-- Where main waits only for workers that are there, and workers do not wait,
a machine that cannot go on running has ended or has a broken thread; `choice`
is one with which no answer halts it. -/
theorem progress
    {choice : κ} {s : Config C R E M W σ}
    (hrunning : machine.halted s.shared = false)
    (hcalm : ∀ c, machine.halted (machine.answer s.shared choice c).2 = false)
    (hmain : ∀ c number, AboutTo s.main c →
      machine.awaits c = some number → number < s.workers.length)
    (hworkers : ∀ thread ∈ s.workers, ∀ c, AboutTo thread c →
      machine.awaits c = none)
    (hstuck : ¬ ∃ event t, machine.Step s event t ∧
      machine.halted t.shared = false) :
    (s.main.Ended ∧ ∀ thread ∈ s.workers, thread.Ended) ∨
      Broken s.main ∨ ∃ thread ∈ s.workers, Broken thread := by
  by_cases hbroken : ∃ thread ∈ s.workers, Broken thread
  · exact Or.inr (Or.inr hbroken)
  have hall : ∀ thread ∈ s.workers, thread.Ended := by
    intro thread hmem
    by_contra hended
    obtain ⟨event, after, shared, hmoves, hanswers, hgoes, hcall⟩ :=
      exists_move machine.worker hrunning hcalm hended
        (fun hthread => hbroken ⟨thread, hmem, hthread⟩)
    obtain ⟨number, hlt, hpresent⟩ := List.getElem_of_mem hmem
    refine hstuck ⟨_, _, .worker s number event thread after shared
      (List.getElem?_eq_some_iff.mpr ⟨hlt, hpresent⟩) hmoves hanswers ?_
      hrunning, hgoes⟩
    exact awaitedBy_eq_none
      (fun c r hevent => hworkers thread hmem c (hcall c r hevent))
  by_cases hmainBroken : Broken s.main
  · exact Or.inr (Or.inl hmainBroken)
  refine Or.inl ⟨?_, hall⟩
  by_contra hended
  obtain ⟨event, after, shared, hmoves, hanswers, hgoes, hcall⟩ :=
    exists_move machine.main hrunning hcalm hended hmainBroken
  refine hstuck
    ⟨_, _, .main s event after shared hmoves hanswers ?_ hrunning, hgoes⟩
  intro number hawaited
  cases event with
  | none =>
      cases hawaited
  | some entry =>
      have hlt : number < s.workers.length :=
        hmain entry.1 number (hcall entry.1 entry.2 rfl) hawaited
      exact ⟨s.workers[number], List.getElem?_eq_getElem hlt,
        hall _ (List.getElem_mem hlt)⟩

/-- Where all threads have ended nothing happens any more. -/
theorem stuck_of_ended
    {s : Config C R E M W σ}
    (hmain : s.main.Ended)
    (hworkers : ∀ thread ∈ s.workers, thread.Ended) :
    ¬ ∃ event t, machine.Step s event t := by
  rintro ⟨event, t, hstep⟩
  cases hstep with
  | main event after shared moves answers free =>
      exact moves.not_ended hmain
  | worker number event thread after shared present moves answers free =>
      exact moves.not_ended (hworkers thread (List.mem_of_getElem? present))

/-- Runs that are bounded in length lead, without halting the machine, to where
it cannot go on running. -/
theorem Run.exists_stuck
    {s t : Config C R E M W σ} {events : List (Event C R)} {n : Nat}
    (hbound : ∀ events t, machine.Run s events t → events.length ≤ n)
    (hrun : machine.Run s events t)
    (hrunning : machine.halted t.shared = false) :
    ∃ more u, machine.Run s (events ++ more) u ∧
      machine.halted u.shared = false ∧
      ¬ ∃ event v, machine.Step u event v ∧
        machine.halted v.shared = false := by
  have hfrom : ∀ k events t, machine.Run s events t →
      machine.halted t.shared = false → n ≤ events.length + k →
        ∃ more u, machine.Run s (events ++ more) u ∧
          machine.halted u.shared = false ∧
          ¬ ∃ event v, machine.Step u event v ∧
            machine.halted v.shared = false := by
    intro k
    induction k with
    | zero =>
        intro events t hrun hrunning hle
        refine ⟨[], t, by rwa [List.append_nil], hrunning, ?_⟩
        rintro ⟨event, v, hstep, _⟩
        have hlength := hbound _ v (.snoc events t event v hrun hstep)
        rw [List.length_append, List.length_singleton] at hlength
        omega
    | succ k ih =>
        intro events t hrun hrunning hle
        by_cases hstep : ∃ event v, machine.Step t event v ∧
            machine.halted v.shared = false
        · obtain ⟨event, v, hstep, hgoes⟩ := hstep
          obtain ⟨more, u, hmore, hstuck⟩ :=
            ih _ v (.snoc events t event v hrun hstep) hgoes (by
              rw [List.length_append, List.length_singleton]
              omega)
          refine ⟨event :: more, u, ?_, hstuck⟩
          rwa [List.append_assoc] at hmore
        · exact ⟨[], t, by rwa [List.append_nil], hrunning, hstep⟩
  exact hfrom n events t hrun hrunning (Nat.le_add_left _ _)

end Progress

section Execution

/-- Whose turn it is, and what the environment decides. -/
inductive Turn (κ : Type) where
  | main (choice : κ)
  | worker (number : Nat) (choice : κ)

/-- What a thread does next, given the replies. -/
def advance {L : Type}
    (block : L → Prog C R E (Option L)) (reply : C → R)
    (thread : Running C R E L) :
    Option (Option (C × R) × Running C R E L) :=
  match thread.program with
  | .ret none => none
  | .throw _ => none
  | .ret (some label) => some (none, ⟨block label, thread.log⟩)
  | .call c k =>
      some (some (c, reply c),
        ⟨k (reply c), thread.log ++ [(c, reply c)]⟩)

def hasEnded {L : Type} (thread : Running C R E L) : Bool :=
  match thread.program with
  | .ret none => true
  | _ => false

/-- Nobody is waited for, or the one that is has ended. -/
def mayPass (s : Config C R E M W σ) (awaited : Option Nat) : Bool :=
  awaited.all (fun number => (s.workers[number]?).any hasEnded)

/-- The shared state after an event. -/
def sharedAfter (shared : σ) (choice : κ) : Option (C × R) → σ
  | some (c, _) => (machine.answer shared choice c).2
  | none => shared

/-- One turn; there is none for a thread that has ended or has to wait, and for
nobody where the machine was halted. -/
def turn (s : Config C R E M W σ) : Turn κ → Option (Config C R E M W σ)
  | .main choice => do
      let (event, after) ←
        advance machine.main (fun c => (machine.answer s.shared choice c).1)
          s.main
      if mayPass s (machine.awaitedBy event) ∧
          machine.halted s.shared = false then
        return ⟨machine.sharedAfter s.shared choice event, after,
          s.workers ++
            (machine.startedBy event).toList.map
              (Running.entering machine.worker)⟩
      else none
  | .worker number choice => do
      let thread ← s.workers[number]?
      let (event, after) ←
        advance machine.worker
          (fun c => (machine.answer s.shared choice c).1) thread
      if (machine.awaitedBy event).isNone ∧
          machine.halted s.shared = false then
        return ⟨machine.sharedAfter s.shared choice event, s.main,
          s.workers.set number after⟩
      else none

/-- A schedule, turn by turn. -/
def exec (s : Config C R E M W σ) (turns : List (Turn κ)) :
    Option (Config C R E M W σ) :=
  turns.foldlM machine.turn s

variable {machine}

theorem moves_of_advance
    {L : Type} {block : L → Prog C R E (Option L)}
    {shared : σ} {choice : κ} {thread after : Running C R E L}
    {event : Option (C × R)}
    (h : advance block (fun c => (machine.answer shared choice c).1) thread =
      some (event, after)) :
    Running.Moves block thread event after ∧
      machine.Answers shared event
        (machine.sharedAfter shared choice event) := by
  obtain ⟨program, log⟩ := thread
  cases program with
  | ret next =>
      cases next with
      | none =>
          cases h
      | some label =>
          cases h
          exact ⟨.jumps label log, .jump shared⟩
  | throw e =>
      cases h
  | call c k =>
      cases h
      exact ⟨.calls c k log _, .call shared choice c⟩

theorem endedAt_of_hasEnded
    {s : Config C R E M W σ} {number : Nat}
    (h : (s.workers[number]?).any hasEnded = true) :
    EndedAt s number := by
  cases hpresent : s.workers[number]? with
  | none =>
      rw [hpresent] at h
      cases h
  | some thread =>
      rw [hpresent] at h
      obtain ⟨program, log⟩ := thread
      refine ⟨_, hpresent, ?_⟩
      cases program with
      | ret next =>
          cases next with
          | none =>
              rfl
          | some label =>
              cases h
      | throw e =>
          cases h
      | call c k =>
          cases h

/-- A turn is a step. -/
theorem step_of_turn
    {s t : Config C R E M W σ} {turn : Turn κ}
    (h : machine.turn s turn = some t) :
    ∃ event, machine.Step s event t := by
  cases turn with
  | main choice =>
      simp only [Machine.turn, Option.bind_eq_bind, Option.bind_eq_some_iff]
        at h
      obtain ⟨⟨event, after⟩, hadvance, hpass⟩ := h
      obtain ⟨hmoves, hanswers⟩ := moves_of_advance hadvance
      split at hpass
      · next hmay =>
          obtain ⟨hmay, hrunning⟩ := hmay
          cases hpass
          refine ⟨_, .main s event after _ hmoves hanswers ?_ hrunning⟩
          intro number hawaited
          rw [hawaited] at hmay
          exact endedAt_of_hasEnded hmay
      · cases hpass
  | worker number choice =>
      simp only [Machine.turn, Option.bind_eq_bind, Option.bind_eq_some_iff]
        at h
      obtain ⟨thread, hpresent, ⟨event, after⟩, hadvance, hpass⟩ := h
      obtain ⟨hmoves, hanswers⟩ := moves_of_advance hadvance
      split at hpass
      · next hnone =>
          obtain ⟨hnone, hrunning⟩ := hnone
          cases hpass
          exact ⟨_, .worker s number event thread after _ hpresent hmoves
            hanswers (Option.isNone_iff_eq_none.mp hnone) hrunning⟩
      · cases hpass

/-- A schedule that can be carried out is a run of as many steps. -/
theorem run_of_exec
    {s t : Config C R E M W σ} {turns : List (Turn κ)}
    (h : machine.exec s turns = some t) :
    ∃ events, machine.Run s events t ∧ events.length = turns.length := by
  have hfrom : ∀ (u : Config C R E M W σ) (before : List (Event C R)),
      machine.Run s before u → machine.exec u turns = some t →
        ∃ events, machine.Run s events t ∧
          events.length = before.length + turns.length := by
    clear h
    induction turns with
    | nil =>
        intro u before hrun h
        cases h
        exact ⟨before, hrun, rfl⟩
    | cons first rest ih =>
        intro u before hrun h
        rw [exec, List.foldlM_cons, Option.bind_eq_bind,
          Option.bind_eq_some_iff] at h
        obtain ⟨next, hturn, hrest⟩ := h
        obtain ⟨event, hstep⟩ := step_of_turn hturn
        obtain ⟨events, hall, hlength⟩ :=
          ih next _ (.snoc before u event next hrun hstep) hrest
        refine ⟨events, hall, ?_⟩
        rw [hlength, List.length_append, List.length_singleton,
          List.length_cons]
        omega
  obtain ⟨events, hrun, hlength⟩ := hfrom s [] .nil h
  exact ⟨events, hrun, by rw [hlength, List.length_nil, Nat.zero_add]⟩

end Execution

end Machine

section Pointwise

universe u v

variable {α : Type u} {β : Type v} {related : α → β → Prop}

/-- Replacing related members at one place keeps two lists related. -/
theorem forall₂_set
    {as : List α} {bs : List β}
    (h : List.Forall₂ related as bs)
    {number : Nat} {b : β}
    (hpresent : bs[number]? = some b) :
    ∃ a, as[number]? = some a ∧ related a b ∧
      ∀ a' b', related a' b' →
        List.Forall₂ related (as.set number a') (bs.set number b') := by
  induction h generalizing number with
  | nil =>
      cases hpresent
  | @cons a first as bs hfirst hrest ih =>
      cases number with
      | zero =>
          cases hpresent
          refine ⟨a, rfl, hfirst, ?_⟩
          intro a' b' hnew
          exact List.Forall₂.cons hnew hrest
      | succ number =>
          obtain ⟨found, hfound, hrelated, hset⟩ := ih hpresent
          refine ⟨found, hfound, hrelated, ?_⟩
          intro a' b' hnew
          exact List.Forall₂.cons hfirst (hset a' b' hnew)

/-- One and the same is related to every member. -/
theorem forall₂_replicate
    {a : α} {bs : List β}
    (h : ∀ b ∈ bs, related a b) :
    List.Forall₂ related (List.replicate bs.length a) bs := by
  induction bs with
  | nil =>
      exact List.Forall₂.nil
  | cons b bs ih =>
      exact List.Forall₂.cons (h b (List.mem_cons_self ..))
        (ih (fun b' hmem => h b' (List.mem_cons_of_mem b hmem)))

/-- Replacing a member by itself changes nothing. -/
theorem set_self
    {as : List α} {number : Nat} {a : α}
    (h : as[number]? = some a) :
    as.set number a = as := by
  obtain ⟨hlt, rfl⟩ := List.getElem?_eq_some_iff.mp h
  exact List.set_getElem_self hlt

/-- The sum after one summand was replaced. -/
theorem sum_set_add
    {ns : List Nat} {number n : Nat}
    (h : ns[number]? = some n) (m : Nat) :
    (ns.set number m).sum + n = ns.sum + m := by
  induction ns generalizing number with
  | nil =>
      cases h
  | cons first rest ih =>
      cases number with
      | zero =>
          cases h
          simp only [List.set_cons_zero, List.sum_cons]
          omega
      | succ number =>
          have hrest := ih h
          simp only [List.set_cons_succ, List.sum_cons]
          omega

end Pointwise

section MainAlone

variable {γ : Type} {machine : Machine C R E M W σ κ}

/-- What is asked of main alone it keeps whatever the workers do. -/
theorem Machine.Run.main_standing
    {contract : Contract E M γ} {D : Discipline C R γ}
    (hsound : contract.Sound D machine.main)
    (hpossible : ∀ shared choice c,
      D.possible c (machine.answer shared choice c).1)
    {shared : σ} {label : M} {g : γ}
    (henters : contract.enters label g)
    {s : Config C R E M W σ} {events : List (Event C R)}
    (hrun : machine.Run (machine.initial shared label) events s) :
    contract.Standing D g s.main := by
  refine hrun.invariant (fun u => contract.Standing D g u.main) ?_
    (hsound.entering henters)
  intro s event t h hstep
  cases hstep with
  | main event after shared moves answers free =>
      refine h.moves hsound moves ?_
      rintro c r rfl
      cases answers with
      | call choice c =>
          exact hpossible _ choice c
  | worker number event thread after shared present moves answers free =>
      exact h

end MainAlone

section Regimes

variable {γ δ : Type}

/-- An invariant of the shared state, with the disciplines and the contracts of
main and of the workers.  A worker starts with the ghost value `entry`. -/
structure Regime (C R E M W σ γ δ : Type) where
  shared : σ → Prop
  mainD : Discipline C R γ
  mainC : Contract E M γ
  workerD : Discipline C R δ
  workerC : Contract E W δ
  entry : W → δ

namespace Regime

variable (regime : Regime C R E M W σ γ δ)
variable (machine : Machine C R E M W σ κ)

/-- What has to be shown of the threads, one at a time. -/
structure Sound : Prop where
  main : regime.mainC.Sound regime.mainD machine.main
  worker : regime.workerC.Sound regime.workerD machine.worker
  possible : ∀ shared choice c, regime.shared shared →
    regime.mainD.possible c (machine.answer shared choice c).1 ∧
      regime.workerD.possible c (machine.answer shared choice c).1
  keeps : ∀ shared choice c, regime.shared shared →
    ((∃ g, regime.mainD.permits g c) ∨ ∃ g, regime.workerD.permits g c) →
    regime.shared (machine.answer shared choice c).2
  starts : ∀ g c r label, regime.mainD.permits g c →
    regime.mainD.possible c r → machine.starts c r = some label →
    regime.workerC.enters label (regime.entry label)

/-- The invariant of a configuration. -/
structure Standing (g : γ) (s : Config C R E M W σ) : Prop where
  shared : regime.shared s.shared
  main : regime.mainC.Standing regime.mainD g s.main
  workers : List.Forall₂
    (fun label thread =>
      regime.workerC.Standing regime.workerD (regime.entry label) thread)
    (machine.started s.main.log) s.workers

variable {regime machine}

theorem Standing.initial
    (hsound : regime.Sound machine)
    {shared : σ} {label : M} {g : γ}
    (hshared : regime.shared shared)
    (henters : regime.mainC.enters label g) :
    regime.Standing machine g (machine.initial shared label) where
  shared := hshared
  main := hsound.main.entering henters
  workers := List.Forall₂.nil

/-- A shared state that answers a permitted call keeps its invariant, and the
reply is a possible one. -/
theorem Sound.answers
    (hsound : regime.Sound machine)
    {shared shared' : σ} {event : Option (C × R)}
    (hshared : regime.shared shared)
    (hanswers : machine.Answers shared event shared')
    (hpermits : ∀ c r, event = some (c, r) →
      (∃ g, regime.mainD.permits g c) ∨ ∃ g, regime.workerD.permits g c) :
    regime.shared shared' ∧
      ∀ c r, event = some (c, r) →
        regime.mainD.possible c r ∧ regime.workerD.possible c r := by
  cases hanswers with
  | jump =>
      refine ⟨hshared, ?_⟩
      intro c r hevent
      cases hevent
  | call choice c =>
      refine ⟨hsound.keeps _ choice c hshared (hpermits c _ rfl), ?_⟩
      intro c' r hevent
      cases hevent
      exact hsound.possible _ choice c hshared

/-- The worker that an event of main has started stands. -/
theorem Sound.started
    (hsound : regime.Sound machine)
    {event : Option (C × R)}
    (hevent : ∀ c r, event = some (c, r) →
      (∃ g, regime.mainD.permits g c) ∧ regime.mainD.possible c r) :
    List.Forall₂
      (fun label thread =>
        regime.workerC.Standing regime.workerD (regime.entry label) thread)
      (machine.startedBy event).toList
      ((machine.startedBy event).toList.map
        (Running.entering machine.worker)) := by
  cases hstarts : machine.startedBy event with
  | none =>
      exact List.Forall₂.nil
  | some label =>
      cases event with
      | none =>
          cases hstarts
      | some entry =>
          obtain ⟨⟨g, hpermits⟩, hpossible⟩ := hevent entry.1 entry.2 rfl
          have hentry :=
            hsound.starts g entry.1 entry.2 label hpermits hpossible hstarts
          exact List.Forall₂.cons (hsound.worker.entering hentry)
            List.Forall₂.nil

/-- What the threads stand for is kept by every step. -/
theorem Standing.step
    (hsound : regime.Sound machine)
    {g : γ} {s t : Config C R E M W σ} {event : Event C R}
    (h : regime.Standing machine g s)
    (hstep : machine.Step s event t) :
    regime.Standing machine g t := by
  cases hstep with
  | main event after shared moves answers free =>
      have hpermits : ∀ c r, event = some (c, r) →
          ∃ g', regime.mainD.permits g' c := by
        rintro c r rfl
        exact ⟨_, h.main.permits_moves moves⟩
      obtain ⟨hshared, hpossible⟩ := hsound.answers h.shared answers
        (fun c r hevent => Or.inl (hpermits c r hevent))
      refine ⟨hshared, ?_, ?_⟩
      · exact h.main.moves hsound.main moves
          (fun c r hevent => (hpossible c r hevent).1)
      · rw [moves.log_eq, Machine.started_append]
        refine List.rel_append h.workers (hsound.started ?_)
        intro c r hevent
        exact ⟨hpermits c r hevent, (hpossible c r hevent).1⟩
  | worker number event thread after shared present moves answers free =>
      obtain ⟨label, hlabel, hthread, hset⟩ :=
        forall₂_set h.workers present
      have hpermits : ∀ c r, event = some (c, r) →
          ∃ g', regime.workerD.permits g' c := by
        rintro c r rfl
        exact ⟨_, hthread.permits_moves moves⟩
      obtain ⟨hshared, hpossible⟩ := hsound.answers h.shared answers
        (fun c r hevent => Or.inr (hpermits c r hevent))
      have hafter := hset label after
        (hthread.moves hsound.worker moves
          (fun c r hevent => (hpossible c r hevent).2))
      rw [set_self hlabel] at hafter
      exact ⟨hshared, h.main, hafter⟩

/-- In every run all threads follow their disciplines. -/
theorem standing
    (hsound : regime.Sound machine)
    {shared : σ} {label : M} {g : γ}
    (hshared : regime.shared shared)
    (henters : regime.mainC.enters label g)
    {s : Config C R E M W σ} {events : List (Event C R)}
    (hrun : machine.Run (machine.initial shared label) events s) :
    regime.Standing machine g s :=
  hrun.invariant (regime.Standing machine g)
    (fun _ _ _ h hstep => h.step hsound hstep)
    (Standing.initial hsound hshared henters)

/-- A worker, with the label with which it was started. -/
theorem Standing.worker
    {g : γ} {s : Config C R E M W σ}
    (h : regime.Standing machine g s)
    {number : Nat} {thread : Running C R E W}
    (hpresent : s.workers[number]? = some thread) :
    ∃ label, (machine.started s.main.log)[number]? = some label ∧
      regime.workerC.Standing regime.workerD (regime.entry label) thread := by
  obtain ⟨label, hlabel, hthread, _⟩ := forall₂_set h.workers hpresent
  exact ⟨label, hlabel, hthread⟩

/-- Main has started as many workers as there are. -/
theorem Standing.length_eq
    {g : γ} {s : Config C R E M W σ}
    (h : regime.Standing machine g s) :
    (machine.started s.main.log).length = s.workers.length :=
  h.workers.length_eq

end Regime

end Regimes

section Budgets

/-- The call of an event, with its reply. -/
def Event.entry : Event C R → Option (C × R)
  | .main event => event
  | .worker _ event => event

namespace Machine

variable (machine : Machine C R E M W σ κ)
variable (mainA : Allowance M) (workerA : Allowance W)
variable (possible : C → R → Prop) (weight : C → R → Nat)

/-- What a call of main costs, the worker that it starts included. -/
def mainWeight (c : C) (r : R) : Nat :=
  weight c r + ((machine.starts c r).map workerA.block).getD 0

/-- What an event costs. -/
def charge : Event C R → Nat
  | .main event => mainA.charge weight event
  | .worker _ event => workerA.charge weight event

/-- No block costs more than it is allowed. -/
structure Bounded : Prop where
  main : ∀ label,
    (machine.main label).Within possible (machine.mainWeight workerA weight)
      mainA.due (mainA.block label)
  worker : ∀ label,
    (machine.worker label).Within possible weight workerA.due
      (workerA.block label)

/-- All threads together can go on for at most this. -/
def Lasts (s : Config C R E M W σ) (n : Nat) : Prop :=
  ∃ m ns,
    mainA.Lasts possible (machine.mainWeight workerA weight) s.main m ∧
      List.Forall₂
        (fun k thread => workerA.Lasts possible weight thread k)
        ns s.workers ∧
      m + ns.sum ≤ n

variable {machine mainA workerA possible weight}

/-- A worker that was started brings what main has paid for it. -/
theorem lasts_started
    (hbounded : machine.Bounded mainA workerA possible weight)
    (event : Option (C × R)) :
    ∃ ns : List Nat,
      List.Forall₂
        (fun k thread => workerA.Lasts possible weight thread k) ns
        ((machine.startedBy event).toList.map
          (Running.entering machine.worker)) ∧
      mainA.charge weight event + ns.sum ≤
        mainA.charge (machine.mainWeight workerA weight) event := by
  cases hstarts : machine.startedBy event with
  | none =>
      refine ⟨[], List.Forall₂.nil, ?_⟩
      cases event with
      | none =>
          exact Nat.le_refl _
      | some entry =>
          exact Nat.le_add_right _ _
  | some label =>
      refine ⟨[workerA.block label],
        List.Forall₂.cons (hbounded.worker label) List.Forall₂.nil, ?_⟩
      cases event with
      | none =>
          cases hstarts
      | some entry =>
          have hlabel : machine.starts entry.1 entry.2 = some label := hstarts
          simp [Allowance.charge, mainWeight, hlabel]

/-- Whatever happens is paid for out of what the threads have together. -/
theorem Lasts.step
    (hbounded : machine.Bounded mainA workerA possible weight)
    {s t : Config C R E M W σ} {event : Event C R} {n : Nat}
    (hstep : machine.Step s event t)
    (hpossible : ∀ c r, event.entry = some (c, r) → possible c r)
    (h : machine.Lasts mainA workerA possible weight s n) :
    charge mainA workerA weight event ≤ n ∧
      machine.Lasts mainA workerA possible weight t
        (n - charge mainA workerA weight event) := by
  obtain ⟨m, ns, hmain, hworkers, hsum⟩ := h
  cases hstep with
  | main event after shared moves answers free =>
      obtain ⟨hpaid, hafter⟩ := hmain.moves hbounded.main moves hpossible
      obtain ⟨new, hnew, hcharge⟩ := lasts_started hbounded event
      have htotal :
          charge mainA workerA weight (.main event) + new.sum ≤
            mainA.charge (machine.mainWeight workerA weight) event :=
        hcharge
      refine ⟨by omega, _, ns ++ new, hafter,
        List.rel_append hworkers hnew, ?_⟩
      rw [List.sum_append]
      omega
  | worker number event thread after shared present moves answers free =>
      obtain ⟨k, hk, hthread, hset⟩ := forall₂_set hworkers present
      obtain ⟨hpaid, hafter⟩ :=
        hthread.moves hbounded.worker moves hpossible
      have hreplaced :=
        sum_set_add hk (k - workerA.charge weight event)
      have hle : k ≤ ns.sum := List.le_sum_of_mem (List.mem_of_getElem? hk)
      have hcharge :
          charge mainA workerA weight (.worker number event) =
            workerA.charge weight event :=
        rfl
      refine ⟨by omega, m, _, hmain, hset _ after hafter, ?_⟩
      omega

/-- A run costs no more than what the threads have together. -/
theorem Lasts.run
    (hbounded : machine.Bounded mainA workerA possible weight)
    {Inv : Config C R E M W σ → Prop}
    (hkeeps : ∀ s event t, Inv s → machine.Step s event t →
      Inv t ∧ ∀ c r, event.entry = some (c, r) → possible c r)
    {s t : Config C R E M W σ} {events : List (Event C R)} {n : Nat}
    (hrun : machine.Run s events t)
    (hs : Inv s)
    (h : machine.Lasts mainA workerA possible weight s n) :
    (events.map (charge mainA workerA weight)).sum ≤ n := by
  have hall :
      Inv t ∧ (events.map (charge mainA workerA weight)).sum ≤ n ∧
        machine.Lasts mainA workerA possible weight t
          (n - (events.map (charge mainA workerA weight)).sum) := by
    induction hrun with
    | nil =>
        exact ⟨hs, Nat.zero_le _, h⟩
    | snoc events t event u run step ih =>
        obtain ⟨hinv, hspent, hlasts⟩ := ih
        obtain ⟨hinv', hpossible⟩ := hkeeps t event u hinv step
        obtain ⟨hpaid, hafter⟩ := hlasts.step hbounded step hpossible
        rw [List.map_append, List.sum_append, List.map_singleton,
          List.sum_singleton]
        refine ⟨hinv', by omega, ?_⟩
        rwa [← Nat.sub_sub]
  exact hall.2.1

section OneWorker

variable (workerA weight)

/-- What an event costs the worker with this number. -/
def chargeOf (number : Nat) : Event C R → Nat
  | .main _ => 0
  | .worker other event =>
      if other = number then workerA.charge weight event else 0

/-- What the worker with this number has left of a share, which it gets when it
is started; it spends nothing before. -/
def Shares
    (possible : C → R → Prop) (number share spent : Nat)
    (s : Config C R E M W σ) : Prop :=
  spent ≤ share ∧ (s.workers.length ≤ number → spent = 0) ∧
    ∀ thread, s.workers[number]? = some thread →
      workerA.Lasts possible weight thread (share - spent)

variable {workerA weight}

theorem Shares.step
    (hbounded : ∀ label,
      (machine.worker label).Within possible weight workerA.due
        (workerA.block label))
    {number share spent : Nat}
    (hshare : ∀ label, workerA.block label ≤ share)
    {s t : Config C R E M W σ} {event : Event C R}
    (hstep : machine.Step s event t)
    (hpossible : ∀ c r, event.entry = some (c, r) → possible c r)
    (h : Shares workerA weight possible number share spent s) :
    Shares workerA weight possible number share
      (spent + chargeOf workerA weight number event) t := by
  obtain ⟨hspent, hnone, hlasts⟩ := h
  cases hstep with
  | main event after shared moves answers free =>
      refine ⟨hspent, ?_, ?_⟩
      · intro hlength
        rw [List.length_append] at hlength
        exact hnone (by omega)
      · intro thread hpresent
        rcases Nat.lt_or_ge number s.workers.length with hlt | hge
        · rw [List.getElem?_append_left hlt] at hpresent
          exact hlasts thread hpresent
        · rw [List.getElem?_append_right hge] at hpresent
          obtain ⟨label, _, rfl⟩ :=
            List.mem_map.mp (List.mem_of_getElem? hpresent)
          rw [hnone hge]
          exact (hbounded label).mono (hshare label)
  | worker other event thread after shared present moves answers free =>
      obtain ⟨hlt, _⟩ := List.getElem?_eq_some_iff.mp present
      by_cases hother : other = number
      · subst hother
        have hcharge :
            chargeOf workerA weight other (.worker other event) =
              workerA.charge weight event :=
          if_pos rfl
        obtain ⟨hpaid, hafter⟩ :=
          (hlasts thread present).moves hbounded moves hpossible
        rw [hcharge]
        refine ⟨by omega, ?_, ?_⟩
        · intro hlength
          rw [List.length_set] at hlength
          omega
        · intro thread' hpresent
          rw [List.getElem?_set_self hlt] at hpresent
          cases hpresent
          rwa [← Nat.sub_sub]
      · have hcharge :
            chargeOf workerA weight number (.worker other event) = 0 :=
          if_neg hother
        rw [hcharge]
        refine ⟨hspent, ?_, ?_⟩
        · intro hlength
          rw [List.length_set] at hlength
          exact hnone hlength
        · intro thread' hpresent
          rw [List.getElem?_set_ne hother] at hpresent
          exact hlasts thread' hpresent

/-- In a run no worker spends more than its share. -/
theorem Shares.run
    (hbounded : ∀ label,
      (machine.worker label).Within possible weight workerA.due
        (workerA.block label))
    {Inv : Config C R E M W σ → Prop}
    (hkeeps : ∀ s event t, Inv s → machine.Step s event t →
      Inv t ∧ ∀ c r, event.entry = some (c, r) → possible c r)
    {number share : Nat}
    (hshare : ∀ label, workerA.block label ≤ share)
    {s t : Config C R E M W σ} {events : List (Event C R)}
    (hrun : machine.Run s events t)
    (hs : Inv s)
    (h : Shares workerA weight possible number share 0 s) :
    (events.map (chargeOf workerA weight number)).sum ≤ share := by
  have hall :
      Inv t ∧ Shares workerA weight possible number share
        (events.map (chargeOf workerA weight number)).sum t := by
    induction hrun with
    | nil =>
        exact ⟨hs, h⟩
    | snoc events t event u run step ih =>
        obtain ⟨hinv, hshares⟩ := ih
        obtain ⟨hinv', hpossible⟩ := hkeeps t event u hinv step
        rw [List.map_append, List.sum_append, List.map_singleton,
          List.sum_singleton]
        exact ⟨hinv', hshares.step hbounded hshare step hpossible⟩
  exact hall.2.1

end OneWorker

end Machine

end Budgets

end Resumption
