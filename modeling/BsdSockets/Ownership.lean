import BsdSockets.Interleaving

/-!
# Exclusive ownership and single delivery

The invariant of the interleaved library has three counts: nobody shares an
open descriptor, every connection is in one place, and a call that has returned
has handed its connection on.  Each kind of step is shown to keep it, the steps
of the kernel by their effect, and the result is its reading for every state
that a run reaches.
-/

namespace BsdSockets

open Resumption

variable {A : Type}

/-- The invariant of the interleaved library. -/
structure State.Inv (s : State A) : Prop where
  obeys : Obeys (discipline A) Finished s.running
  exclusive : ∀ fd,
    s.holders fd ≤ if fd ∈ s.kernel.openFds then 1 else 0
  single : ∀ c,
    s.inTransit c + s.waiting c + s.receivers c ≤
      if c.number < s.kernel.accepted then 1 else 0
  handed : ∀ c,
    s.returning c + s.returns c ≤ s.waiting c + s.receivers c
  captured : ∀ handler ∈ s.started,
    handler.data.lowLevelSocket = handler.connection.descriptor
  received : ∀ delivery ∈ s.delivered,
    delivery.socket.lowLevelSocket = delivery.connection.descriptor

section Readings

@[simp] theorem Custody.on_nothing (fd : Int) :
    Custody.nothing.on fd = 0 := rfl

@[simp] theorem Custody.on_accepted (fd : Int) (c : Connection) :
    (Custody.accepted c).on fd = if c.descriptor = fd then 1 else 0 := by
  simp [Custody.on, Custody.descriptor]

@[simp] theorem Custody.on_captured (fd : Int) (c : Connection) :
    (Custody.captured c).on fd = if c.descriptor = fd then 1 else 0 := by
  simp [Custody.on, Custody.descriptor]

@[simp] theorem Custody.on_owned (fd other : Int) :
    (Custody.owned other).on fd = if other = fd then 1 else 0 := by
  simp [Custody.on, Custody.descriptor]

@[simp] theorem Custody.on_adopted (fd other : Int) :
    (Custody.adopted other).on fd = if other = fd then 1 else 0 := by
  simp [Custody.on, Custody.descriptor]

@[simp] theorem Custody.on_handedOver (fd : Int) (c : Connection) :
    (Custody.handedOver c).on fd = 0 := rfl

namespace State.Inv

variable {s : State A}

/-- A descriptor somebody has is open, and nobody else has it. -/
theorem open_of_holders
    (h : s.Inv) {fd : Int}
    (hheld : 0 < s.holders fd) :
    fd ∈ s.kernel.openFds ∧ s.holders fd = 1 := by
  have hle := h.exclusive fd
  by_cases hopen : fd ∈ s.kernel.openFds
  · rw [if_pos hopen] at hle
    exact ⟨hopen, by omega⟩
  · rw [if_neg hopen] at hle
    omega

/-- What a running call has in custody is open. -/
theorem open_of_custody
    (h : s.Inv) {activity : Activity A} {fd : Int}
    (hmem : activity ∈ s.running)
    (hcustody : activity.holds.descriptor = some fd) :
    fd ∈ s.kernel.openFds ∧ s.holders fd = 1 := by
  apply h.open_of_holders
  have hone : activity.holds.on fd = 1 := if_pos hcustody
  have hle :=
    le_tally (fun member : Activity A => member.holds.on fd) hmem
  simp only [hone] at hle
  rw [State.holders, State.callsOn]
  omega

/-- No handler was started with -1. -/
theorem handler_open
    (h : s.Inv) {handler : StartedHandler A}
    (hmem : handler ∈ s.started) :
    handler.data.lowLevelSocket ≠ -1 := by
  intro hminus
  have hle :=
    le_tally
      (fun member : StartedHandler A =>
        if member.data.lowLevelSocket = -1 then 1 else 0) hmem
  simp only [hminus, if_true] at hle
  have hheld : 0 < s.holders (-1) := by
    rw [State.holders, State.handlersOn]
    omega
  exact s.kernel.minus_one_closed (h.open_of_holders hheld).1

end State.Inv

end Readings

section Initial

theorem State.inv_initial
    (kernel : Kernel) :
    (State.initial kernel : State A).Inv where
  obeys := fun _ hmem => absurd hmem (Multiset.notMem_zero _)
  exclusive := fun _ => Nat.zero_le _
  single := fun _ => Nat.zero_le _
  handed := fun _ => le_refl _
  captured := fun _ hmem => absurd hmem (Multiset.notMem_zero _)
  received := fun _ hmem => absurd hmem (Multiset.notMem_zero _)

end Initial

section KernelSteps

variable {s : State A}

/-- The state after the system call of one running call. -/
def State.afterCall
    (s : State A) (custody : Custody) (call : Call A)
    (k : Reply → Program A (Option (Socket A)))
    (others : Multiset (Activity A))
    (reply : Reply) (after : Kernel) : State A :=
  { s with
    kernel := after
    running := ⟨k reply, custody.next call reply⟩ ::ₘ others
    started := startedBy custody call reply + s.started }

/-- The counts of the running calls but one. -/
structure State.Others
    (s : State A) (custody : Custody) (others : Multiset (Activity A)) :
    Prop where
  callsOn : ∀ fd, s.callsOn fd =
    custody.on fd +
      tally (fun activity : Activity A => activity.holds.on fd) others
  inTransit : ∀ c, s.inTransit c =
    (if custody = .accepted c then 1 else 0) +
      tally (fun activity : Activity A =>
        if activity.holds = .accepted c then 1 else 0) others
  waiting : ∀ c, s.waiting c =
    tally (fun handler : StartedHandler A =>
        if handler.connection = c then 1 else 0) s.started +
      ((if custody = .captured c then 1 else 0) +
        tally (fun activity : Activity A =>
          if activity.holds = .captured c then 1 else 0) others)
  returning : ∀ c, s.returning c =
    (if custody = .handedOver c then 1 else 0) +
      tally (fun activity : Activity A =>
        if activity.holds = .handedOver c then 1 else 0) others

theorem State.others_of_running
    {program : Program A (Option (Socket A))} {custody : Custody}
    {others : Multiset (Activity A)}
    (hrunning : s.running = ⟨program, custody⟩ ::ₘ others) :
    s.Others custody others := by
  refine ⟨?_, ?_, ?_, ?_⟩ <;> intro _
  · simp only [State.callsOn, hrunning, tally_cons]
  · simp only [State.inTransit, hrunning, tally_cons]
  · simp only [State.waiting, hrunning, tally_cons]
  · simp only [State.returning, hrunning, tally_cons]

/-- A system call that starts no thread: the call exchanges what it has in
custody for something else, and the counts allow for it. -/
theorem State.Inv.exchanges
    {custody held : Custody} {call : Call A}
    {k : Reply → Program A (Option (Socket A))}
    {others : Multiset (Activity A)}
    {reply : Reply} {after : Kernel}
    (h : s.Inv)
    (hrunning : s.running = ⟨.call call k, custody⟩ ::ₘ others)
    (hnext : custody.next call reply = held)
    (hstarted : startedBy custody call reply = 0)
    (hon : ∀ fd n,
      custody.on fd + n ≤ (if fd ∈ s.kernel.openFds then 1 else 0) →
        held.on fd + n ≤ if fd ∈ after.openFds then 1 else 0)
    (hmade : ∀ c n,
      (if custody = .accepted c then 1 else 0) + n ≤
          (if c.number < s.kernel.accepted then 1 else 0) →
        (if held = .accepted c then 1 else 0) + n ≤
          if c.number < after.accepted then 1 else 0)
    (hcaptured : ∀ c, held = .captured c ↔ custody = .captured c)
    (hhanded : ∀ c, held = .handedOver c ↔ custody = .handedOver c) :
    (s.afterCall custody call k others reply after).Inv := by
  have hbefore := State.others_of_running hrunning
  have hobeys := h.obeys
  rw [hrunning] at hobeys
  have hafter :
      (s.afterCall custody call k others reply after).running =
        ⟨k reply, held⟩ ::ₘ others := by
    rw [← hnext]
    rfl
  have hstill :
      (s.afterCall custody call k others reply after).started =
        s.started := by
    change startedBy custody call reply + s.started = s.started
    rw [hstarted, zero_add]
  have hnow := State.others_of_running hafter
  have hwaiting : ∀ c,
      (s.afterCall custody call k others reply after).waiting c =
        s.waiting c := by
    intro c
    rw [hnow.waiting c, hbefore.waiting c, hstill]
    simp only [hcaptured c]
  refine ⟨hobeys.after_call (r := reply) trivial, ?_, ?_, ?_, ?_, h.received⟩
  · intro fd
    have hle := h.exclusive fd
    have hhandlers :
        (s.afterCall custody call k others reply after).handlersOn fd =
          s.handlersOn fd := by
      rw [State.handlersOn, hstill, State.handlersOn]
    rw [State.holders, hbefore.callsOn fd] at hle
    rw [State.holders, hhandlers, hnow.callsOn fd]
    have hboth := hon fd
      (s.socketsOn fd + s.handlersOn fd +
        tally (fun activity : Activity A => activity.holds.on fd) others)
      (by omega)
    change s.socketsOn fd + _ + _ ≤ if fd ∈ after.openFds then 1 else 0
    omega
  · intro c
    have hle := h.single c
    rw [hbefore.inTransit c] at hle
    rw [hwaiting, hnow.inTransit c]
    have hboth := hmade c
      (tally (fun activity : Activity A =>
          if activity.holds = .accepted c then 1 else 0) others +
        s.waiting c + s.receivers c)
      (by omega)
    change _ + _ + s.receivers c ≤ if c.number < after.accepted then 1 else 0
    omega
  · intro c
    have hle := h.handed c
    rw [hbefore.returning c] at hle
    rw [hwaiting, hnow.returning c]
    simp only [hhanded c]
    exact hle
  · rw [hstill]
    exact h.captured

/-- A system call that opens a descriptor: the call that made it has it, and an
accepted connection is new. -/
theorem State.Inv.opens
    {call : Call A} {k : Reply → Program A (Option (Socket A))}
    {held : Custody} {others : Multiset (Activity A)}
    {reply : Reply} {after : Kernel}
    (h : s.Inv)
    (hrunning : s.running = ⟨.call call k, .nothing⟩ ::ₘ others)
    (hnext : Custody.nothing.next call reply = held)
    (hheld : held.descriptor = some reply.result)
    (hconnection : ∀ c, held = .accepted c →
      s.kernel.accepted ≤ c.number ∧ c.number < after.accepted)
    (hplain : ∀ c, held ≠ .captured c ∧ held ≠ .handedOver c)
    (hfresh : reply.result ∉ s.kernel.openFds)
    (hopened : after.openFds = insert reply.result s.kernel.openFds)
    (haccepted : s.kernel.accepted ≤ after.accepted)
    (hstarted : startedBy .nothing call reply = 0) :
    (s.afterCall .nothing call k others reply after).Inv := by
  refine h.exchanges hrunning hnext hstarted ?_ ?_ ?_ ?_
  · intro fd n hle
    have hon : held.on fd = if reply.result = fd then 1 else 0 := by
      simp [Custody.on, hheld]
    rw [Custody.on_nothing] at hle
    rw [hon, hopened]
    by_cases hsame : reply.result = fd
    · subst hsame
      rw [if_neg hfresh] at hle
      rw [if_pos rfl, if_pos (Finset.mem_insert_self _ _)]
      omega
    · rw [if_neg hsame]
      by_cases hopen : fd ∈ s.kernel.openFds
      · rw [if_pos hopen] at hle
        rw [if_pos (Finset.mem_insert_of_mem hopen)]
        omega
      · rw [if_neg hopen] at hle
        omega
  · intro c n hle
    simp only [reduceCtorEq, if_false, zero_add] at hle
    by_cases hmade : held = .accepted c
    · obtain ⟨hnew, hcounted⟩ := hconnection c hmade
      rw [if_neg (by omega)] at hle
      rw [if_pos hmade, if_pos hcounted]
      omega
    · rw [if_neg hmade]
      by_cases hold : c.number < s.kernel.accepted
      · rw [if_pos hold] at hle
        rw [if_pos (by omega)]
        omega
      · rw [if_neg hold] at hle
        omega
  · intro c
    exact iff_of_false (hplain c).1 (by simp)
  · intro c
    exact iff_of_false (hplain c).2 (by simp)

/-- A `close` of a running call: what it closes it owned, and nobody else had
it. -/
theorem State.Inv.closes
    {fd : Int} {k : Reply → Program A (Option (Socket A))}
    {others : Multiset (Activity A)} {reply : Reply} {after : Kernel}
    (h : s.Inv)
    (hrunning : s.running = ⟨.call (.close fd) k, .owned fd⟩ ::ₘ others)
    (hclosed : after.openFds = s.kernel.openFds.erase fd)
    (hsame : after.accepted = s.kernel.accepted) :
    (s.afterCall (.owned fd) (.close fd) k others reply after).Inv := by
  have hnext :
      (Custody.owned fd).next (.close fd : Call A) reply = .nothing := rfl
  refine h.exchanges hrunning hnext rfl ?_ ?_ ?_ ?_
  · intro other n hle
    rw [Custody.on_owned] at hle
    rw [Custody.on_nothing, hclosed]
    by_cases hit : fd = other
    · subst hit
      rw [if_pos rfl] at hle
      split at hle <;> omega
    · rw [if_neg hit] at hle
      by_cases hopen : other ∈ s.kernel.openFds
      · rw [if_pos hopen] at hle
        rw [if_pos (Finset.mem_erase.mpr ⟨fun heq => hit heq.symm, hopen⟩)]
        omega
      · rw [if_neg hopen] at hle
        omega
  · intro c n hle
    simp only [reduceCtorEq, if_false] at hle ⊢
    rw [hsame]
    exact hle
  · intro c
    exact iff_of_false (by simp) (by simp)
  · intro c
    exact iff_of_false (by simp) (by simp)

/-- A call that changes nothing. -/
theorem State.Inv.keeps
    {custody : Custody} {call : Call A}
    {k : Reply → Program A (Option (Socket A))}
    {others : Multiset (Activity A)} {reply : Reply}
    (h : s.Inv)
    (hrunning : s.running = ⟨.call call k, custody⟩ ::ₘ others)
    (hnext : custody.next call reply = custody)
    (hstarted : startedBy custody call reply = 0) :
    (s.afterCall custody call k others reply s.kernel).Inv :=
  h.exchanges hrunning hnext hstarted (fun _ _ hle => hle)
    (fun _ _ hle => hle) (fun _ => Iff.rfl) (fun _ => Iff.rfl)

/-- A thread is started: the accepted connection moves from the call to the
handler. -/
theorem State.Inv.starts
    {data : AcceptedSocketData A} {connection : Connection}
    {k : Reply → Program A (Option (Socket A))}
    {others : Multiset (Activity A)} {reply : Reply}
    (h : s.Inv)
    (hrunning : s.running =
      ⟨.call (.startThread data) k, .accepted connection⟩ ::ₘ others)
    (hmatching : connection.descriptor = data.lowLevelSocket)
    (hok : ¬ reply.Failed) :
    (s.afterCall (.accepted connection) (.startThread data) k others reply
      s.kernel).Inv := by
  have hbefore := State.others_of_running hrunning
  have hobeys := h.obeys
  rw [hrunning] at hobeys
  have hnext :
      (Custody.accepted connection).next (.startThread data) reply =
        .handedOver connection :=
    if_neg hok
  have hafter :
      (s.afterCall (.accepted connection) (.startThread data) k others reply
          s.kernel).running =
        ⟨k reply, .handedOver connection⟩ ::ₘ others := by
    rw [← hnext]
    rfl
  have hstarted :
      (s.afterCall (.accepted connection) (.startThread data) k others reply
          s.kernel).started =
        ⟨data, connection⟩ ::ₘ s.started := by
    change (if reply.Failed then 0 else {⟨data, connection⟩}) + s.started = _
    rw [if_neg hok, Multiset.singleton_add]
  have hnow := State.others_of_running hafter
  refine ⟨?_, ?_, ?_, ?_, ?_, h.received⟩
  · have hcall := hobeys.after_call (r := reply) trivial
    exact hcall
  · intro fd
    have hle := h.exclusive fd
    have hhandlers :
        (s.afterCall (.accepted connection) (.startThread data) k others
            reply s.kernel).handlersOn fd =
          (if connection.descriptor = fd then 1 else 0) +
            s.handlersOn fd := by
      simp only [State.handlersOn]
      rw [hstarted, tally_cons, hmatching]
    rw [State.holders] at hle ⊢
    rw [hhandlers, hnow.callsOn fd, Custody.on_handedOver]
    rw [hbefore.callsOn fd, Custody.on_accepted] at hle
    change s.socketsOn fd + _ + _ ≤ if fd ∈ s.kernel.openFds then 1 else 0
    omega
  · intro c
    have hle := h.single c
    rw [hnow.inTransit c, hnow.waiting c, hstarted, tally_cons]
    rw [hbefore.inTransit c, hbefore.waiting c] at hle
    simp only [reduceCtorEq, if_false, zero_add, Custody.accepted.injEq]
      at hle ⊢
    change _ + s.receivers c ≤ if c.number < s.kernel.accepted then 1 else 0
    omega
  · intro c
    have hle := h.handed c
    rw [hnow.returning c, hnow.waiting c, hstarted, tally_cons]
    rw [hbefore.returning c, hbefore.waiting c] at hle
    simp only [reduceCtorEq, if_false, zero_add, Custody.handedOver.injEq]
      at hle ⊢
    change _ + s.returns c ≤ _ + s.receivers c
    omega
  · intro handler hmem
    rw [hstarted, Multiset.mem_cons] at hmem
    rcases hmem with rfl | hmem
    · exact hmatching.symm
    · exact h.captured handler hmem

/-- Every system call of a running call keeps the invariant. -/
theorem State.Inv.afterCall
    {custody : Custody} {call : Call A}
    {k : Reply → Program A (Option (Socket A))}
    {others : Multiset (Activity A)} {reply : Reply} {after : Kernel}
    (h : s.Inv)
    (hrunning : s.running = ⟨.call call k, custody⟩ ::ₘ others)
    (heffect : s.kernel.Effect call reply after) :
    (s.afterCall custody call k others reply after).Inv := by
  have hmem :
      (⟨.call call k, custody⟩ : Activity A) ∈ s.running := by
    rw [hrunning]
    exact Multiset.mem_cons_self _ _
  have hpermits := h.obeys.permits hmem
  cases heffect with
  | opens domain type protocol _ _ ok fresh opened same =>
      obtain rfl : custody = .nothing := hpermits
      have hnext :
          Custody.nothing.next
              (.socket domain type protocol : Call A) reply =
            .owned reply.result :=
        if_neg ok
      exact h.opens hrunning hnext rfl (by simp) (by simp) fresh opened
        (le_of_eq same.symm) rfl
  | accepts fd buffer len _ _ ok fresh opened number next =>
      obtain rfl : custody = .nothing := hpermits
      have hnext :
          Custody.nothing.next (.accept fd buffer len : Call A) reply =
            .accepted ⟨reply.connection, reply.result⟩ :=
        if_neg ok
      refine h.opens hrunning hnext rfl ?_ (by simp) fresh opened
        (by omega) rfl
      intro c hc
      rw [Custody.accepted.injEq] at hc
      rw [← hc, number]
      refine ⟨le_refl _, ?_⟩
      change s.kernel.accepted < after.accepted
      omega
  | closes fd _ _ closed same =>
      obtain rfl : custody = .owned fd := hpermits
      exact h.closes hrunning closed same
  | starts data _ ok =>
      obtain ⟨connection, rfl, hmatching⟩ := hpermits
      exact h.starts hrunning hmatching ok
  | keeps _ _ kept =>
      obtain ⟨hnext, hstarted⟩ := kept custody hpermits
      exact h.keeps hrunning hnext hstarted

end KernelSteps

section OtherSteps

variable {s : State A}

/-- An activity joins that brings no connection; what it has in custody was a
socket's or nobody's. -/
theorem State.Inv.joins
    {activity : Activity A} {sockets : Multiset (LiveSocket A)}
    (h : s.Inv)
    (hsafe : Safe (discipline A) Finished activity.program activity.holds)
    (hplain : ∀ c, activity.holds ≠ .accepted c ∧
      activity.holds ≠ .captured c ∧ activity.holds ≠ .handedOver c)
    (hon : ∀ fd,
      activity.holds.on fd +
          tally (fun live : LiveSocket A => live.socket.on fd) sockets ≤
            s.socketsOn fd ∨
        fd ∈ s.kernel.openFds ∧ s.holders fd = 0 ∧
          activity.holds.on fd +
            tally (fun live : LiveSocket A => live.socket.on fd)
              sockets ≤ 1) :
    ({ s with running := activity ::ₘ s.running, sockets := sockets } :
        State A).Inv := by
  refine
    ⟨obeys_cons.mpr ⟨hsafe, h.obeys⟩, ?_, ?_, ?_, h.captured, h.received⟩
  · intro fd
    have hle := h.exclusive fd
    simp only [State.holders, State.socketsOn, State.callsOn, tally_cons]
      at hle ⊢
    change _ + s.handlersOn fd + _ ≤ _
    rcases hon fd with hmine | ⟨hopen, hnone, hmine⟩
    · rw [State.socketsOn] at hmine
      omega
    · rw [if_pos hopen]
      simp only [State.holders, State.socketsOn, State.callsOn] at hnone
      omega
  · intro c
    have hle := h.single c
    simp only [State.inTransit, State.waiting, tally_cons, (hplain c).1,
      (hplain c).2.1, if_false, zero_add] at hle ⊢
    exact hle
  · intro c
    have hle := h.handed c
    simp only [State.returning, State.waiting, tally_cons, (hplain c).2.1,
      (hplain c).2.2, if_false, zero_add] at hle ⊢
    exact hle

/-- A call that begins has what nobody else has. -/
theorem State.Inv.begins
    (cls : AddressClass A) {call : LibraryCall A}
    (h : s.Inv) (hallowed : call.Allowed s) :
    ({ s with
      running := ⟨call.program cls, call.custody⟩ ::ₘ s.running } :
        State A).Inv := by
  have hcustody : call.custody = .nothing ∨
      ∃ fd, call.custody = .adopted fd ∧ fd ∈ s.kernel.openFds ∧
        s.holders fd = 0 := by
    cases call with
    | factory made =>
        cases made with
        | existing theAddress fd =>
            by_cases hminus : fd = -1
            · exact Or.inl (if_pos hminus)
            · rcases hallowed with heq | ⟨hopen, hnone⟩
              · exact absurd heq hminus
              · exact Or.inr ⟨fd, if_neg hminus, hopen, hnone⟩
        | serverCreate theAddress =>
            exact Or.inl rfl
        | serverOpen theAddress backlog reuse =>
            exact Or.inl rfl
        | clientCreate theAddress =>
            exact Or.inl rfl
        | clientOpen theAddress =>
            exact Or.inl rfl
    | accept server memory =>
        exact Or.inl rfl
    | acceptInNewThread server memory =>
        exact Or.inl rfl
  have hplain : ∀ c, call.custody ≠ .accepted c ∧
      call.custody ≠ .captured c ∧ call.custody ≠ .handedOver c := by
    intro c
    rcases hcustody with heq | ⟨fd, heq, _⟩ <;> rw [heq] <;> simp
  refine h.joins (call.safe cls) hplain ?_
  intro fd
  rcases hcustody with heq | ⟨adopted, heq, hopen, hnone⟩
  · left
    change call.custody.on fd + s.socketsOn fd ≤ _
    rw [heq, Custody.on_nothing, zero_add]
  · change call.custody.on fd + s.socketsOn fd ≤ _ ∨
      _ ∧ _ ∧ call.custody.on fd + s.socketsOn fd ≤ 1
    rw [heq, Custody.on_adopted]
    by_cases hsame : adopted = fd
    · subst hsame
      right
      rw [if_pos rfl]
      refine ⟨hopen, hnone, ?_⟩
      rw [State.holders] at hnone
      omega
    · left
      rw [if_neg hsame, zero_add]

/-- A socket is returned only for what is in custody. -/
theorem liveOf_on_le
    {result : Option (Socket A)} {custody : Custody}
    (hfinished : Finished (.ok result) custody) (fd : Int) :
    tally (fun live : LiveSocket A => live.socket.on fd) (liveOf result) ≤
      custody.on fd := by
  cases result with
  | none =>
      exact Nat.zero_le _
  | some socket =>
      change tally _ {_} ≤ _
      rw [tally_singleton]
      by_cases hon : socket.lowLevelSocket = fd ∧ fd ≠ -1
      · rw [Socket.on, if_pos hon]
        rcases hfinished with ⟨hminus, _⟩ | hdescriptor
        · exact absurd (hon.1.symm.trans hminus) hon.2
        · rw [hon.1] at hdescriptor
          rw [Custody.on, if_pos hdescriptor]
      · rw [Socket.on, if_neg hon]
        exact Nat.zero_le _

/-- A connection returns with the call that accepted it. -/
theorem returnedBy_count
    (custody : Custody) (c : Connection) :
    tally (fun other : Connection => if other = c then 1 else 0)
        (returnedBy custody) =
      (if custody = .accepted c then 1 else 0) +
        (if custody = .handedOver c then 1 else 0) := by
  cases custody <;> simp [returnedBy]

/-- A connection is delivered with the socket for it. -/
theorem deliveredBy_count
    {result : Option (Socket A)} {custody : Custody}
    (hfinished : Finished (.ok result) custody) (c : Connection) :
    tally (fun delivery : Delivery A =>
        if delivery.connection = c then 1 else 0)
        (deliveredBy custody result) =
      (if custody = .accepted c then 1 else 0) +
        (if custody = .captured c then 1 else 0) := by
  cases result with
  | none =>
      have hnone : custody.descriptor = none := hfinished
      cases custody with
      | nothing => simp [deliveredBy]
      | handedOver connection => simp [deliveredBy]
      | accepted connection => cases hnone
      | captured connection => cases hnone
      | adopted fd => cases hnone
      | owned fd => cases hnone
  | some socket =>
      cases custody <;> simp [deliveredBy]

/-- The delivered socket has the descriptor of its connection. -/
theorem deliveredBy_descriptor
    {result : Option (Socket A)} {custody : Custody} {delivery : Delivery A}
    (hfinished : Finished (.ok result) custody)
    (hmem : delivery ∈ deliveredBy custody result) :
    delivery.socket.lowLevelSocket = delivery.connection.descriptor := by
  cases result with
  | none =>
      exact absurd hmem (Multiset.notMem_zero _)
  | some socket =>
      cases custody with
      | accepted connection =>
          obtain rfl := Multiset.mem_singleton.mp hmem
          rcases hfinished with ⟨_, heq⟩ | heq
          · cases heq
          · exact (Option.some.inj heq).symm
      | captured connection =>
          obtain rfl := Multiset.mem_singleton.mp hmem
          rcases hfinished with ⟨_, heq⟩ | heq
          · cases heq
          · exact (Option.some.inj heq).symm
      | nothing => exact absurd hmem (Multiset.notMem_zero _)
      | handedOver connection => exact absurd hmem (Multiset.notMem_zero _)
      | adopted fd => exact absurd hmem (Multiset.notMem_zero _)
      | owned fd => exact absurd hmem (Multiset.notMem_zero _)

/-- A call that returns: what it had in custody belongs to the socket, and an
accepted connection has got to its receiver. -/
theorem State.Inv.returned
    {result : Option (Socket A)} {custody : Custody}
    {others : Multiset (Activity A)}
    (h : s.Inv)
    (hrunning : s.running = ⟨.ret result, custody⟩ ::ₘ others) :
    ({ s with
      running := others
      sockets := liveOf result + s.sockets
      returned := returnedBy custody + s.returned
      delivered := deliveredBy custody result + s.delivered } :
        State A).Inv := by
  have hbefore := State.others_of_running hrunning
  have hobeys := h.obeys
  rw [hrunning] at hobeys
  obtain ⟨hfinished, hothers⟩ := hobeys.returned
  refine ⟨hothers, ?_, ?_, ?_, h.captured, ?_⟩
  · intro fd
    have hle := h.exclusive fd
    have hmine := liveOf_on_le hfinished fd
    have hcalls := hbefore.callsOn fd
    simp only [State.holders, State.socketsOn, State.callsOn, tally_add]
      at hle hcalls ⊢
    change _ + s.handlersOn fd + _ ≤ _
    omega
  · intro c
    have hle := h.single c
    have hmine := deliveredBy_count hfinished c
    rw [hbefore.inTransit c, hbefore.waiting c] at hle
    simp only [State.inTransit, State.waiting, State.receivers, tally_add]
      at hle ⊢
    omega
  · intro c
    have hle := h.handed c
    have hreturned := returnedBy_count custody c
    have hdelivered := deliveredBy_count hfinished c
    rw [hbefore.returning c, hbefore.waiting c] at hle
    simp only [State.returning, State.returns, State.waiting,
      State.receivers, tally_add] at hle ⊢
    omega
  · intro delivery hdelivery
    rw [Multiset.mem_add] at hdelivery
    rcases hdelivery with hnew | hold
    · exact deliveredBy_descriptor hfinished hnew
    · exact h.received delivery hold

/-- A call that throws has at most an accepted connection, which nobody gets. -/
theorem State.Inv.thrown
    {e : Abrupt} {custody : Custody} {others : Multiset (Activity A)}
    (h : s.Inv)
    (hrunning : s.running = ⟨.throw e, custody⟩ ::ₘ others) :
    ({ s with running := others } : State A).Inv := by
  have hbefore := State.others_of_running hrunning
  have hobeys := h.obeys
  rw [hrunning] at hobeys
  obtain ⟨hfinished, hothers⟩ := hobeys.thrown
  have hplain : ∀ c, custody ≠ .captured c := by
    rintro c rfl
    rcases hfinished with heq | ⟨connection, heq⟩ <;> cases heq
  refine ⟨hothers, ?_, ?_, ?_, h.captured, h.received⟩
  · intro fd
    have hle := h.exclusive fd
    rw [State.holders] at hle ⊢
    rw [hbefore.callsOn fd] at hle
    change s.socketsOn fd + s.handlersOn fd + tally _ others ≤
      if fd ∈ s.kernel.openFds then 1 else 0
    omega
  · intro c
    have hle := h.single c
    rw [hbefore.inTransit c, hbefore.waiting c, if_neg (hplain c)] at hle
    change tally _ others + (tally _ s.started + tally _ others) +
      s.receivers c ≤ if c.number < s.kernel.accepted then 1 else 0
    omega
  · intro c
    have hle := h.handed c
    rw [hbefore.returning c, hbefore.waiting c, if_neg (hplain c)] at hle
    change tally _ others + s.returns c ≤
      tally _ s.started + tally _ others + s.receivers c
    omega

/-- References come and go without changing who has what. -/
theorem State.Inv.shared
    {socket : Socket A} {references other : Nat}
    {others : Multiset (LiveSocket A)}
    (h : s.Inv)
    (hlive : s.sockets = ⟨socket, references⟩ ::ₘ others) :
    ({ s with sockets := ⟨socket, other⟩ ::ₘ others } : State A).Inv := by
  refine ⟨h.obeys, ?_, h.single, h.handed, h.captured, h.received⟩
  intro fd
  have hle := h.exclusive fd
  rw [State.holders, State.socketsOn] at hle ⊢
  rw [hlive, tally_cons] at hle
  rw [tally_cons]
  exact hle

/-- The last reference: the descriptor goes from the socket to its destructor. -/
theorem State.Inv.dropped
    {socket : Socket A} {others : Multiset (LiveSocket A)}
    (h : s.Inv)
    (hlive : s.sockets = ⟨socket, 1⟩ ::ₘ others) :
    ({ s with
      running := socket.closing ::ₘ s.running
      sockets := others } : State A).Inv := by
  have hon : ∀ fd, socket.custody.on fd = socket.on fd := by
    intro fd
    rw [Socket.custody, Socket.on]
    by_cases hminus : socket.lowLevelSocket = -1
    · rw [if_pos hminus, Custody.on_nothing, if_neg]
      rintro ⟨heq, hne⟩
      exact hne (heq.symm.trans hminus)
    · rw [if_neg hminus, Custody.on_owned]
      by_cases heq : socket.lowLevelSocket = fd
      · rw [if_pos heq, if_pos ⟨heq, heq ▸ hminus⟩]
      · rw [if_neg heq, if_neg (fun hboth => heq hboth.1)]
  have hplain : ∀ c, socket.custody ≠ .accepted c ∧
      socket.custody ≠ .captured c ∧ socket.custody ≠ .handedOver c := by
    intro c
    rw [Socket.custody]
    split <;> simp
  refine h.joins socket.closing_safe hplain ?_
  intro fd
  left
  rw [State.socketsOn, hlive, tally_cons]
  change socket.custody.on fd + _ ≤ _
  rw [hon fd]

/-- A handler begins to run with what its lambda captured. -/
theorem State.Inv.handles
    {handler : StartedHandler A} {others : Multiset (StartedHandler A)}
    (h : s.Inv)
    (hwaiting : s.started = handler ::ₘ others) :
    ({ s with
      running := handler.activity ::ₘ s.running
      started := others } : State A).Inv := by
  have hmem : handler ∈ s.started := by
    rw [hwaiting]
    exact Multiset.mem_cons_self _ _
  have hmatching := h.captured handler hmem
  refine
    ⟨obeys_cons.mpr
        ⟨StartedHandler.safe hmatching (h.handler_open hmem), h.obeys⟩,
      ?_, ?_, ?_, ?_, h.received⟩
  · intro fd
    have hle := h.exclusive fd
    simp only [State.holders, State.handlersOn, State.callsOn, hwaiting,
      tally_cons, StartedHandler.activity, Custody.on_captured, hmatching]
      at hle ⊢
    change s.socketsOn fd + _ + _ ≤ _
    omega
  · intro c
    have hle := h.single c
    simp only [State.inTransit, State.waiting, hwaiting, tally_cons,
      StartedHandler.activity, reduceCtorEq, if_false, zero_add,
      Custody.captured.injEq] at hle ⊢
    change _ + s.receivers c ≤ _
    omega
  · intro c
    have hle := h.handed c
    simp only [State.returning, State.waiting, hwaiting, tally_cons,
      StartedHandler.activity, reduceCtorEq, if_false, zero_add,
      Custody.captured.injEq] at hle ⊢
    change _ + s.returns c ≤ _ + s.receivers c
    omega
  · intro other hother
    apply h.captured other
    rw [hwaiting]
    exact Multiset.mem_cons_of_mem hother

/-- Other code opens and closes descriptors that the library does not have. -/
theorem State.Inv.elsewhere
    {after : Kernel}
    (h : s.Inv)
    (hheld : ∀ fd, 0 < s.holders fd → fd ∈ after.openFds)
    (hsame : after.accepted = s.kernel.accepted) :
    ({ s with kernel := after } : State A).Inv := by
  refine ⟨h.obeys, ?_, ?_, h.handed, h.captured, h.received⟩
  · intro fd
    change s.holders fd ≤ if fd ∈ after.openFds then 1 else 0
    have hle := h.exclusive fd
    by_cases hnone : s.holders fd = 0
    · omega
    · rw [if_pos (hheld fd (by omega))]
      split at hle <;> omega
  · intro c
    change _ ≤ if c.number < after.accepted then 1 else 0
    rw [hsame]
    exact h.single c

/-- **Every step keeps the invariant.** -/
theorem State.Inv.step
    {cls : AddressClass A} {after : State A}
    (h : s.Inv) (hstep : Step cls s after) :
    after.Inv := by
  cases hstep with
  | begins call allowed =>
      exact h.begins cls allowed
  | calls choice call k custody others running =>
      exact h.afterCall running (s.kernel.answer_effect choice call)
  | returns result custody others running =>
      exact h.returned running
  | throws e custody others running =>
      exact h.thrown running
  | shares socket references others live =>
      exact h.shared live
  | drops socket references others live =>
      exact h.shared live
  | dropsLast socket others live =>
      exact h.dropped live
  | handles handler others waiting =>
      exact h.handles waiting
  | opensElsewhere descriptor =>
      refine h.elsewhere ?_ rfl
      intro fd hheld
      exact Finset.mem_insert_of_mem (h.open_of_holders hheld).1
  | closesElsewhere fd unheld =>
      refine h.elsewhere ?_ rfl
      intro other hheld
      refine Finset.mem_erase.mpr ⟨?_, (h.open_of_holders hheld).1⟩
      rintro rfl
      omega

/-- The invariant holds in every state that a run reaches. -/
theorem State.inv_of_reachable
    {cls : AddressClass A} {kernel : Kernel}
    (hreach : Reachable cls kernel s) :
    s.Inv := by
  induction hreach with
  | refl =>
      exact State.inv_initial kernel
  | tail _ hstep ih =>
      exact ih.step hstep

end OtherSteps

section Handlers

variable {s : State A}

/-- The thread has nothing left to do but to pass its socket for this connection
on. -/
def PassesOn (activity : Activity A) (c : Connection) : Prop :=
  ∃ socket, activity.program = .ret (some socket) ∧
    activity.holds = .captured c ∧ socket.lowLevelSocket = c.descriptor

/-- A started handler makes no system call, and cannot fail. -/
theorem State.Inv.passesOn
    (h : s.Inv) {handler : StartedHandler A} (hmem : handler ∈ s.started) :
    PassesOn handler.activity handler.connection := by
  have hne : ¬ (-1 = handler.data.lowLevelSocket) :=
    fun hminus => h.handler_open hmem hminus.symm
  refine ⟨⟨handler.data.lowLevelSocket, handler.data.address⟩, ?_, rfl,
    h.captured handler hmem⟩
  simp only [StartedHandler.activity, ServerSocket.handlerSocket,
    Socket.create, Socket.newExisting, if_neg hne]
  rfl

/-- Only a handler has captured a connection, and it passes it on. -/
def State.Handled (s : State A) : Prop :=
  ∀ activity ∈ s.running, ∀ c, activity.holds = .captured c →
    PassesOn activity c

/-- No system call captures a connection. -/
theorem Custody.captured_of_next
    {custody : Custody} {call : Call A} {reply : Reply} {c : Connection}
    (h : custody.next call reply = .captured c) :
    custody = .captured c := by
  cases call with
  | socket domain type protocol =>
      simp only [Custody.next] at h
      split at h <;> cases h
  | accept fd buffer len =>
      simp only [Custody.next] at h
      split at h <;> cases h
  | close fd =>
      cases h
  | startThread data =>
      cases custody with
      | accepted connection =>
          simp only [Custody.next] at h
          split at h <;> cases h
      | nothing => exact h
      | captured connection => exact h
      | adopted fd => exact h
      | owned fd => exact h
      | handedOver connection => exact h
  | setsockopt fd level name value => exact h
  | bind fd sockAddr len => exact h
  | listen fd backlog => exact h
  | connect fd sockAddr len => exact h
  | readErrno => exact h

/-- A thread that has captured nothing joins. -/
theorem State.Handled.joins
    {activity : Activity A} (h : s.Handled)
    (hplain : ∀ c, activity.holds ≠ .captured c)
    {pool : Multiset (Activity A)} (hpool : pool ≤ s.running) :
    ∀ other ∈ activity ::ₘ pool, ∀ c, other.holds = .captured c →
      PassesOn other c := by
  intro other hmem c hcaptured
  rcases Multiset.mem_cons.mp hmem with rfl | hold
  · exact absurd hcaptured (hplain c)
  · exact h other (Multiset.mem_of_le hpool hold) c hcaptured

theorem LibraryCall.custody_plain
    (call : LibraryCall A) (c : Connection) :
    call.custody ≠ .captured c := by
  cases call with
  | factory made =>
      cases made with
      | existing theAddress fd =>
          simp only [LibraryCall.custody]
          split <;> exact Custody.noConfusion
      | serverCreate theAddress => exact Custody.noConfusion
      | serverOpen theAddress backlog reuse => exact Custody.noConfusion
      | clientCreate theAddress => exact Custody.noConfusion
      | clientOpen theAddress => exact Custody.noConfusion
  | accept server memory => exact Custody.noConfusion
  | acceptInNewThread server memory => exact Custody.noConfusion

theorem Socket.custody_plain
    (socket : Socket A) (c : Connection) :
    socket.custody ≠ .captured c := by
  rw [Socket.custody]
  split <;> exact Custody.noConfusion

theorem State.Handled.step
    {cls : AddressClass A} {after : State A}
    (hinv : s.Inv) (h : s.Handled) (hstep : Step cls s after) :
    after.Handled := by
  have hothers : ∀ {activity : Activity A} {others : Multiset (Activity A)},
      s.running = activity ::ₘ others → others ≤ s.running := by
    intro activity others hrunning
    rw [hrunning]
    exact Multiset.le_cons_self _ _
  cases hstep with
  | begins call allowed =>
      exact h.joins call.custody_plain (le_refl _)
  | calls choice call k custody others running =>
      refine h.joins ?_ (hothers running)
      intro c hcaptured
      have hmem : (⟨.call call k, custody⟩ : Activity A) ∈ s.running := by
        rw [running]
        exact Multiset.mem_cons_self _ _
      obtain ⟨socket, hprogram, _⟩ :=
        h _ hmem c (Custody.captured_of_next hcaptured)
      cases hprogram
  | returns result custody others running =>
      intro activity hmem
      exact h activity (Multiset.mem_of_le (hothers running) hmem)
  | throws e custody others running =>
      intro activity hmem
      exact h activity (Multiset.mem_of_le (hothers running) hmem)
  | shares socket references others live => exact h
  | drops socket references others live => exact h
  | dropsLast socket others live =>
      exact h.joins socket.custody_plain (le_refl _)
  | handles handler others waiting =>
      have hmem : handler ∈ s.started := by
        rw [waiting]
        exact Multiset.mem_cons_self _ _
      intro activity hactivity c hcaptured
      rcases Multiset.mem_cons.mp hactivity with rfl | hold
      · have hpasses := hinv.passesOn hmem
        cases hcaptured
        exact hpasses
      · exact h activity hold c hcaptured
  | opensElsewhere descriptor => exact h
  | closesElsewhere fd unheld => exact h

theorem State.handled_of_reachable
    {cls : AddressClass A} {kernel : Kernel}
    (hreach : Reachable cls kernel s) :
    s.Handled := by
  induction hreach with
  | refl =>
      intro activity hmem
      exact absurd hmem (Multiset.notMem_zero _)
  | tail hbefore hstep ih =>
      exact ih.step (State.inv_of_reachable hbefore) hstep

end Handlers

section Result

variable {s : State A}

/-- What is true of the owners in a state: an open descriptor has one holder at
most, be it a live socket, a started handler or a running call; every call that
returned with a connection has one receiver, or one handler that is about to
call `toCall` and has nothing else to do before; a receiver's socket has the
connection's descriptor; and every `close` that is about to happen is on an open
descriptor that the closing socket owns, and nobody else has. -/
structure OwnedExclusively (s : State A) : Prop where
  exclusive : ∀ fd ∈ s.kernel.openFds,
    s.socketsOn fd + s.handlersOn fd + s.callsOn fd ≤ 1
  onlyOpen : ∀ fd, fd ∉ s.kernel.openFds →
    s.socketsOn fd + s.handlersOn fd + s.callsOn fd = 0
  delivered : ∀ c ∈ s.returned, s.receivers c + s.waiting c = 1
  atMostOnce : ∀ c, s.receivers c + s.waiting c ≤ 1 ∧ s.returns c ≤ 1
  started : ∀ handler ∈ s.started,
    PassesOn handler.activity handler.connection
  handled : ∀ activity ∈ s.running, ∀ c, activity.holds = .captured c →
    PassesOn activity c
  descriptor : ∀ delivery ∈ s.delivered,
    delivery.socket.lowLevelSocket = delivery.connection.descriptor
  closes : ∀ activity ∈ s.running, ∀ fd k,
    activity.program = .call (.close fd) k →
      activity.holds = .owned fd ∧ fd ∈ s.kernel.openFds ∧
        s.callsOn fd = 1 ∧ s.socketsOn fd = 0 ∧ s.handlersOn fd = 0

/-- The invariant, read. -/
theorem State.Inv.ownedExclusively
    (h : s.Inv) (hhandled : s.Handled) :
    OwnedExclusively s := by
  refine ⟨?_, ?_, ?_, ?_, fun _ => h.passesOn, hhandled, h.received, ?_⟩
  · intro fd hopen
    have hle := h.exclusive fd
    rw [if_pos hopen] at hle
    exact hle
  · intro fd hclosed
    have hle := h.exclusive fd
    rw [if_neg hclosed] at hle
    exact Nat.le_zero.mp hle
  · intro c hmem
    have hone :=
      le_tally (fun other : Connection => if other = c then 1 else 0) hmem
    simp only [if_true] at hone
    have hhanded := h.handed c
    have hsingle := h.single c
    rw [State.returns] at hhanded
    split at hsingle <;> omega
  · intro c
    have hhanded := h.handed c
    have hsingle := h.single c
    split at hsingle <;> omega
  · intro activity hmem fd k hprogram
    obtain ⟨program, custody⟩ := activity
    simp only at hprogram
    subst hprogram
    have hpermits : custody = .owned fd := h.obeys.permits hmem
    subst hpermits
    have hdescriptor : (Custody.owned fd).descriptor = some fd := rfl
    obtain ⟨hopen, hheld⟩ := h.open_of_custody hmem hdescriptor
    have hone :=
      le_tally (fun member : Activity A => member.holds.on fd) hmem
    simp only [Custody.on_owned, if_true] at hone
    rw [State.holders] at hheld
    rw [State.callsOn] at hheld ⊢
    refine ⟨rfl, hopen, ?_, ?_, ?_⟩ <;> omega

/-- A thread that passes its connection on delivers it with its next step. -/
theorem PassesOn.delivers
    {activity : Activity A} {c : Connection}
    (h : PassesOn activity c) (hmem : activity ∈ s.running)
    (cls : AddressClass A) :
    ∃ after, Step cls s after ∧ after.receivers c = s.receivers c + 1 := by
  obtain ⟨socket, hprogram, hholds, _⟩ := h
  obtain ⟨others, hrunning⟩ := Multiset.exists_cons_of_mem hmem
  obtain ⟨program, custody⟩ := activity
  obtain rfl : program = .ret (some socket) := hprogram
  obtain rfl : custody = .captured c := hholds
  refine ⟨_, .returns s (some socket) (.captured c) others hrunning, ?_⟩
  simp only [State.receivers, deliveredBy, tally_add, tally_singleton, if_true]
  exact Nat.add_comm _ _

/-- A connection that waits is delivered by the next two steps of its
handler. -/
theorem OwnedExclusively.delivers
    (h : OwnedExclusively s) (cls : AddressClass A) {c : Connection}
    (hwaiting : 0 < s.waiting c) :
    ∃ middle after, (middle = s ∨ Step cls s middle) ∧
      Step cls middle after ∧ after.receivers c = s.receivers c + 1 := by
  rw [State.waiting] at hwaiting
  by_cases hstarted : 0 < tally (fun handler : StartedHandler A =>
      if handler.connection = c then 1 else 0) s.started
  · obtain ⟨handler, hmem, hpos⟩ := exists_of_tally_pos hstarted
    have hconnection : handler.connection = c := by
      by_contra hother
      rw [if_neg hother] at hpos
      cases hpos
    obtain ⟨others, hothers⟩ := Multiset.exists_cons_of_mem hmem
    have hpasses := h.started handler hmem
    rw [hconnection] at hpasses
    have hdelivers : ∃ after,
        Step cls
          { s with
            running := handler.activity ::ₘ s.running
            started := others } after ∧
          after.receivers c = s.receivers c + 1 :=
      hpasses.delivers (Multiset.mem_cons_self _ _) cls
    obtain ⟨after, hstep, hreceivers⟩ := hdelivers
    exact ⟨_, after, Or.inr (.handles s handler others hothers), hstep,
      hreceivers⟩
  · obtain ⟨activity, hmem, hpos⟩ :=
      exists_of_tally_pos (by omega : 0 < tally (fun activity : Activity A =>
        if activity.holds = .captured c then 1 else 0) s.running)
    have hcaptured : activity.holds = .captured c := by
      by_contra hother
      rw [if_neg hother] at hpos
      cases hpos
    obtain ⟨after, hstep, hreceivers⟩ :=
      (h.handled activity hmem c hcaptured).delivers hmem cls
    exact ⟨s, after, Or.inl rfl, hstep, hreceivers⟩

/-- **Exclusive ownership and single delivery**, in every state that a run of
the library reaches. -/
theorem ownedExclusively_of_reachable
    (cls : AddressClass A) (kernel : Kernel)
    (hreach : Reachable cls kernel s) :
    OwnedExclusively s :=
  (State.inv_of_reachable hreach).ownedExclusively
    (State.handled_of_reachable hreach)

/-- A run in which a connection is accepted, handed to a new thread, and
delivered by its handler after the caller has returned. -/
theorem ownedExclusively_after_delivery :
    ∃ s : State Address, OwnedExclusively s ∧
      s.returned = {⟨0, 4⟩} ∧ s.receivers ⟨0, 4⟩ = 1 := by
  have initial :
      Relation.ReflTransGen
        (Step (Address.libraryClass (InetAddress.resolvingLibc [])))
        (State.initial servingKernel) (State.initial servingKernel) :=
    .refl
  have begun :=
    initial.tail
      (.begins _ (.acceptInNewThread Address.loopbackServer ⟨16, []⟩) trivial)
  have accepted :=
    begun.tail
      (.calls _ ⟨none, 4, InetAddress.loopbackEntry.aiAddr⟩ _ _ _ 0 rfl)
  have started := accepted.tail (.calls _ ⟨none, 0, []⟩ _ _ _ 0 rfl)
  have returned := started.tail (.returns _ _ _ 0 rfl)
  have running := returned.tail (.handles _ _ 0 rfl)
  have delivered := running.tail (.returns _ _ _ 0 rfl)
  exact ⟨_, ownedExclusively_of_reachable _ servingKernel delivered, rfl, rfl⟩

end Result

end BsdSockets
