import BsdSockets.Address
import BsdSockets.TextFormat

/-!
# Opening sockets

The five factories that make a `Socket`, run alone against every sequence of
outcomes of their system calls.

After its `::socket` call a factory is a list of checked calls on the new
descriptor, `Factory.later`.  `run_checkedCalls` says how such a list ends:
either every call succeeded, or the log stops at the first failure and that
failure's `errno` is thrown.  The factories are then one program with the list
as its parameter, and the result is about that program.
-/

namespace BsdSockets

open Resumption

variable {A : Type}

section CheckedCalls

/-- The descriptor of a call that works on an open socket. -/
def Call.target : Call A → Option Int
  | .setsockopt fd _ _ _ => some fd
  | .bind fd _ _ => some fd
  | .listen fd _ => some fd
  | .connect fd _ _ => some fd
  | _ => none

theorem Kernel.answer_of_target
    (kernel : Kernel) (choice : Choice)
    {call : Call A} {fd : Int}
    (h : call.target = some fd) :
    kernel.answer choice call = (kernel.onDescriptor choice fd, kernel) := by
  cases call <;> simp only [Call.target, reduceCtorEq, Option.some.injEq] at h <;>
    rw [← h] <;> rfl

theorem Process.answer_of_target
    (process : Process A)
    {call : Call A} {fd : Int}
    (h : call.target = some fd) :
    process.answer call =
      (process.kernel.onDescriptor process.choice fd,
        process.after call (process.kernel.onDescriptor process.choice fd)
          process.kernel) := by
  have hne : call ≠ .readErrno := by
    rintro rfl
    cases h
  rw [Process.answer_call process hne,
    Kernel.answer_of_target process.kernel process.choice h]

/-- Calls one after the other, each of them checked. -/
def checkedCalls : List (Call A) → Program A Unit
  | [] => return ()
  | call :: rest => do
      checkedCall call
      checkedCalls rest

/-- Checked calls obey every discipline that permits them and is not changed by
them. -/
theorem safe_checkedCalls_of_unchanged
    {γ : Type} {D : Discipline (Call A) Reply γ} {g : γ}
    {calls : List (Call A)}
    (hpermits : ∀ call ∈ calls, D.permits g call)
    (hnext : ∀ call ∈ calls, ∀ reply, D.next g call reply = g)
    (herrno : D.permits g .readErrno)
    (herrnoNext : ∀ reply, D.next g .readErrno reply = g) :
    Safe D (fun _ after => after = g) (checkedCalls calls) g := by
  induction calls with
  | nil =>
      rfl
  | cons call rest ih =>
      have hrest :=
        ih (fun other hother => hpermits other (List.mem_cons_of_mem _ hother))
          (fun other hother => hnext other (List.mem_cons_of_mem _ hother))
      rw [checkedCalls, checkedCall]
      simp only [Prog.perform_bind, Prog.call_bind, safe_call]
      refine ⟨hpermits call List.mem_cons_self, fun reply _ => ?_⟩
      rw [hnext call List.mem_cons_self reply]
      split
      · exact ⟨herrno, fun r _ => herrnoNext r⟩
      · exact hrest

/-- A checked call that succeeds hands on to the rest. -/
theorem run_checkedCall_succeeded
    {process : Process A} {call : Call A}
    {reply : Reply} {process' : Process A}
    (hanswer : process.answer call = (reply, process'))
    (hok : ¬ reply.Failed)
    {α : Type} (k : Unit → Program A α) :
    process.run (checkedCall call >>= k) = process'.run (k ()) := by
  have hne : ¬ (-1 = reply.result) := fun h => hok h.symm
  simp only [checkedCall, Prog.perform_bind, Prog.call_bind, Process.run_call,
    hanswer, if_neg hne, Prog.pure_eq, Prog.ret_bind]

/-- A checked call that fails throws its `errno`, and the rest is not run. -/
theorem run_checkedCall_failed
    {process : Process A} {call : Call A}
    {reply : Reply} {process' : Process A}
    (hanswer : process.answer call = (reply, process'))
    (hfailed : reply.Failed)
    {α : Type} (k : Unit → Program A α) :
    process.run (checkedCall call >>= k) =
      (raise (.systemError process'.errno ""), process') := by
  have heq : -1 = reply.result := hfailed.symm
  simp only [checkedCall, Prog.perform_bind, Prog.call_bind, Process.run_call,
    hanswer, if_pos heq]
  exact run_throwErrno_bind process' k

/-- How a list of checked calls on one descriptor can end. -/
inductive Checked
    (calls : List (Call A)) (before : Process A) :
    Outcome Unit → Process A → Prop
  | succeeded (entries : List (Call A × Reply)) (after : Process A)
      (trace : after.trace = before.trace ++ entries)
      (kernel : after.kernel = before.kernel)
      (made : entries.map Prod.fst = calls)
      (ok : ∀ entry ∈ entries, ¬ entry.2.Failed) :
      Checked calls before (.ok ()) after
  | stopped (done : List (Call A × Reply)) (call : Call A) (reply : Reply)
      (after : Process A)
      (trace : after.trace = before.trace ++ done ++ [(call, reply)])
      (kernel : after.kernel = before.kernel)
      (ok : ∀ entry ∈ done, ¬ entry.2.Failed)
      (failed : reply.Failed) :
      Checked calls before (raise (.systemError reply.errno "")) after

/-- Every list of checked calls ends in one of the two ways. -/
theorem run_checkedCalls
    (fd : Int) (calls : List (Call A))
    (htarget : ∀ call ∈ calls, call.target = some fd)
    (process : Process A) :
    Checked calls process
      (process.run (checkedCalls calls)).1
      (process.run (checkedCalls calls)).2 := by
  induction calls generalizing process with
  | nil =>
      exact .succeeded [] process (by simp) rfl rfl (by simp)
  | cons call rest ih =>
      have hanswer :=
        Process.answer_of_target process (htarget call (by simp))
      have hrest : ∀ other ∈ rest, other.target = some fd :=
        fun other hother => htarget other (by simp [hother])
      rw [checkedCalls]
      by_cases hfailed :
          (process.kernel.onDescriptor process.choice fd).Failed
      · rw [run_checkedCall_failed hanswer hfailed]
        have herrno :
            (process.after call
                (process.kernel.onDescriptor process.choice fd)
                process.kernel).errno =
              (process.kernel.onDescriptor process.choice fd).errno :=
          if_pos hfailed
        rw [herrno]
        exact .stopped [] call _ _ (by simp [Process.after]) rfl
          (by simp) hfailed
      · rw [run_checkedCall_succeeded hanswer hfailed]
        have hrun := ih hrest
          (process.after call
            (process.kernel.onDescriptor process.choice fd) process.kernel)
        generalize Process.run (checkedCalls rest) _ = ending at hrun ⊢
        obtain ⟨outcome, after⟩ := ending
        simp only at hrun ⊢
        cases hrun with
        | succeeded entries _ htrace hkernel hmade hok =>
            refine .succeeded
              ((call, process.kernel.onDescriptor process.choice fd) ::
                entries) after ?_ hkernel ?_ ?_
            · rw [htrace]
              simp [Process.after]
            · simp [hmade]
            · intro entry hentry
              rcases List.mem_cons.mp hentry with rfl | hlater
              · exact hfailed
              · exact hok entry hlater
        | stopped done failing reply _ htrace hkernel hok hstop =>
            refine .stopped
              ((call, process.kernel.onDescriptor process.choice fd) ::
                done) failing reply after ?_ hkernel ?_ hstop
            · rw [htrace]
              simp [Process.after]
            · intro entry hentry
              rcases List.mem_cons.mp hentry with rfl | hearlier
              · exact hfailed
              · exact hok entry hearlier

end CheckedCalls

section OneProgram

/-- Open a descriptor and do the steps `later` on it.  All factories that call
`::socket` have this shape. -/
def openWith
    (cls : AddressClass A) (theAddress : A)
    (later : Int → List (Call A)) : Program A (Socket A) := do
  let socket ← Socket.newFor cls theAddress
  Prog.onThrow
    (do
      checkedCalls (later socket.lowLevelSocket)
      return socket)
    socket.destructor

/-- The steps of `ServerSocket::open` after `::socket`. -/
def ServerSocket.openSteps
    (cls : AddressClass A) (theAddress : A)
    (backlog : Int) (reuse : Bool) (fd : Int) : List (Call A) :=
  (if reuse then
      [.setsockopt fd solSocket soReuseaddr 1,
        .setsockopt fd solSocket soReuseport 1]
    else []) ++
    [.bind fd (cls.getLowLevelAddress theAddress).getSockAddr
        (cls.getLowLevelAddress theAddress).getSockAddrLen,
      .listen fd backlog]

/-- The step of `ClientSocket::open` after `::socket`. -/
def ClientSocket.openSteps
    (cls : AddressClass A) (theAddress : A) (fd : Int) : List (Call A) :=
  [.connect fd (cls.getLowLevelAddress theAddress).getSockAddr
    (cls.getLowLevelAddress theAddress).getSockAddrLen]

/-- The program begins with the `::socket` call of its address. -/
theorem openWith_eq
    (cls : AddressClass A) (theAddress : A)
    (later : Int → List (Call A))
    {first : Call A}
    (hfirst : Socket.socketCall cls theAddress = .ok first) :
    openWith cls theAddress later =
      .call first (fun reply =>
        Prog.onThrow
          (do
            checkedCalls (later reply.result)
            return (⟨reply.result, theAddress⟩ : Socket A))
          (Socket.destructor ⟨reply.result, theAddress⟩)) := by
  simp only [openWith, Socket.newFor, hfirst]
  rfl

theorem newFor_eq_openWith
    (cls : AddressClass A) (theAddress : A) :
    Socket.newFor cls theAddress =
      openWith cls theAddress (fun _ => []) := by
  obtain ⟨domain, type, protocol, hfirst⟩ :=
    Socket.socketCall_total cls theAddress
  rw [openWith_eq cls theAddress _ hfirst]
  simp only [Socket.newFor, hfirst]
  rfl

theorem server_open_eq_openWith
    (cls : AddressClass A) (theAddress : A)
    (backlog : Int) (reuse : Bool) :
    ServerSocket.«open» cls theAddress backlog reuse =
      openWith cls theAddress
        (ServerSocket.openSteps cls theAddress backlog reuse) := by
  obtain ⟨domain, type, protocol, hfirst⟩ :=
    Socket.socketCall_total cls theAddress
  rw [openWith_eq cls theAddress _ hfirst]
  simp only [ServerSocket.«open», ServerSocket.create, Socket.newFor, hfirst,
    Prog.lift, Prog.ret_bind, Prog.perform_bind, Prog.call_bind, Prog.pure_eq]
  congr 1
  funext reply
  cases reuse <;>
    simp [ServerSocket.openSteps, checkedCalls, ServerSocket.bind,
      ServerSocket.listen, Socket.setSocketOption, Prog.bind_assoc]

theorem client_open_eq_openWith
    (cls : AddressClass A) (theAddress : A) :
    ClientSocket.«open» cls theAddress =
      openWith cls theAddress
        (ClientSocket.openSteps cls theAddress) := by
  obtain ⟨domain, type, protocol, hfirst⟩ :=
    Socket.socketCall_total cls theAddress
  rw [openWith_eq cls theAddress _ hfirst]
  simp only [ClientSocket.«open», ClientSocket.create, Socket.newFor, hfirst,
    Prog.lift, Prog.ret_bind, Prog.perform_bind, Prog.call_bind, Prog.pure_eq]
  congr 1
  funext reply
  simp [ClientSocket.openSteps, checkedCalls, ClientSocket.connect,
    Prog.bind_assoc]

end OneProgram

section Runs

/-- Closing an open socket makes one call; an exception that is passing is
rethrown after it. -/
theorem run_destructor
    (process : Process A) (socket : Socket A)
    (hfd : socket.lowLevelSocket ≠ -1)
    {α : Type} (k : Unit → Program A α) :
    process.run (socket.destructor >>= k) =
      (process.after (.close socket.lowLevelSocket)
        (process.kernel.onDescriptor process.choice socket.lowLevelSocket)
        (process.kernel.closeFd socket.lowLevelSocket)).run (k ()) := by
  have hne : ¬ (-1 = socket.lowLevelSocket) := fun h => hfd h.symm
  simp only [Socket.destructor, if_neg hne]
  rfl

/-- A socket that was never opened is not closed. -/
theorem run_destructor_unopened
    (process : Process A) (theAddress : A)
    {α : Type} (k : Unit → Program A α) :
    process.run
        ((Socket.destructor ⟨-1, theAddress⟩ : Program A Unit) >>= k) =
      process.run (k ()) := by
  rfl

/-- When all steps succeed, the socket is returned. -/
theorem run_steps_returned
    {process after : Process A} {calls : List (Call A)}
    (hrun : process.run (checkedCalls calls) = (.ok (), after))
    (socket : Socket A) :
    process.run
        (Prog.onThrow
          (do
            checkedCalls calls
            return socket)
          socket.destructor) =
      (.ok socket, after) := by
  rw [Process.run] at hrun ⊢
  rw [Prog.run_onThrow, Prog.run_bind, hrun]
  rfl

/-- When a step throws, the destructor runs and the exception passes on. -/
theorem run_steps_thrown
    {process after : Process A} {calls : List (Call A)} {e : Abrupt}
    (hrun : process.run (checkedCalls calls) = (.error e, after))
    (socket : Socket A) :
    process.run
        (Prog.onThrow
          (do
            checkedCalls calls
            return socket)
          socket.destructor) =
      after.run
        (socket.destructor >>= fun _ =>
          (Prog.throw e : Program A (Socket A))) := by
  simp only [Process.run] at hrun ⊢
  rw [Prog.run_onThrow, Prog.run_bind, hrun]

/-- How opening can end.  In the last two cases `::socket` itself failed: the
constructor does not look at the descriptor, so the failure is either not seen
at all, or seen by the first step as a bad descriptor. -/
inductive Opened
    (theAddress : A) (first : Call A) (later : Int → List (Call A))
    (before : Process A) : Outcome (Socket A) → Process A → Prop
  | returned (fd : Int) (entries : List (Call A × Reply)) (after : Process A)
      (succeeds : before.choice.errno = none)
      (nonneg : 0 ≤ fd)
      (opened : fd ∈ after.kernel.openFds)
      (trace : after.trace =
        before.trace ++ (first, .succeeded fd) :: entries)
      (made : entries.map Prod.fst = later fd)
      (ok : ∀ entry ∈ entries, ¬ entry.2.Failed) :
      Opened theAddress first later before (.ok ⟨fd, theAddress⟩) after
  | unwound (fd : Int) (done : List (Call A × Reply))
      (call : Call A) (reply closing : Reply) (after : Process A)
      (succeeds : before.choice.errno = none)
      (nonneg : 0 ≤ fd)
      (closed : after.kernel.openFds = before.kernel.openFds)
      (trace : after.trace =
        before.trace ++ (first, .succeeded fd) ::
          (done ++ [(call, reply), (.close fd, closing)]))
      (ok : ∀ entry ∈ done, ¬ entry.2.Failed)
      (failed : reply.Failed) :
      Opened theAddress first later before
        (raise (.systemError reply.errno "")) after
  | unseen (e : Int) (after : Process A)
      (fails : before.choice.errno = some e)
      (steps : later (-1) = [])
      (trace : after.trace = before.trace ++ [(first, .failed e)]) :
      Opened theAddress first later before (.ok ⟨-1, theAddress⟩) after
  | seenLater (e : Int) (call : Call A) (rest : List (Call A))
      (after : Process A)
      (fails : before.choice.errno = some e)
      (steps : later (-1) = call :: rest)
      (trace : after.trace =
        before.trace ++ [(first, .failed e), (call, .failed ebadf)]) :
      Opened theAddress first later before
        (raise (.systemError ebadf "")) after

/-- Every run of the program ends in one of these ways. -/
theorem run_openWith
    (cls : AddressClass A) (theAddress : A)
    (later : Int → List (Call A))
    (htarget : ∀ fd, ∀ call ∈ later fd, call.target = some fd)
    {first : Call A}
    (hfirst : Socket.socketCall cls theAddress = .ok first)
    (process : Process A) :
    Opened theAddress first later process
      (process.run (openWith cls theAddress later)).1
      (process.run (openWith cls theAddress later)).2 := by
  obtain ⟨domain, type, protocol, htotal⟩ :=
    Socket.socketCall_total cls theAddress
  have hsocket : first = .socket domain type protocol := by
    rw [htotal] at hfirst
    exact (Except.ok.inj hfirst).symm
  subst hsocket
  rw [openWith_eq cls theAddress later hfirst, Process.run_call,
    Process.answer_call process (by simp)]
  cases herrno : process.choice.errno with
  | none =>
      obtain ⟨fd, kernel, hkernel, hnonneg, hfresh, hinsert, _⟩ :=
        process.kernel.answer_socket_succeeded herrno domain type protocol
      rw [hkernel]
      have hresult : (Reply.succeeded fd).result = fd := rfl
      simp only [hresult]
      set opened :=
        process.after (.socket domain type protocol) (.succeeded fd) kernel
      have hchecked := run_checkedCalls fd (later fd) (htarget fd) opened
      obtain ⟨⟨outcome, after⟩, hrun⟩ :
          ∃ ending, opened.run (checkedCalls (later fd)) = ending :=
        ⟨_, rfl⟩
      rw [hrun] at hchecked
      simp only at hchecked
      cases hchecked with
      | succeeded entries _ htrace hsame hmade hok =>
          rw [run_steps_returned hrun ⟨fd, theAddress⟩]
          refine .returned fd entries after herrno hnonneg ?_ ?_ hmade hok
          · rw [hsame]
            change fd ∈ kernel.openFds
            rw [hinsert]
            exact Finset.mem_insert_self _ _
          · rw [htrace]
            simp [Process.after, opened]
      | stopped done call reply _ htrace hsame hok hfailed =>
          have hne : fd ≠ -1 := by
            omega
          rw [run_steps_thrown hrun ⟨fd, theAddress⟩,
            run_destructor after ⟨fd, theAddress⟩ hne]
          refine .unwound fd done call reply
            (after.kernel.onDescriptor after.choice fd) _ herrno hnonneg
            ?_ ?_ hok hfailed
          · change (after.kernel.openFds).erase fd = _
            rw [hsame]
            change kernel.openFds.erase fd = _
            rw [hinsert, Finset.erase_insert hfresh]
          · simp [Process.after, htrace, opened]
  | some e =>
      rw [process.kernel.answer_socket_failed herrno]
      have hresult : (Reply.failed e).result = -1 := rfl
      simp only [hresult]
      set unopened :=
        process.after (.socket domain type protocol) (.failed e)
          process.kernel
      cases hlater : later (-1) with
      | nil =>
          exact .unseen e _ herrno hlater rfl
      | cons call rest =>
          have hcall : call.target = some (-1) :=
            htarget (-1) call (by simp [hlater])
          have hbad :
              unopened.kernel.onDescriptor unopened.choice (-1) =
                .failed ebadf :=
            if_neg (Kernel.minus_one_closed _)
          have hanswer := Process.answer_of_target unopened hcall
          rw [hbad] at hanswer
          have hrun :
              unopened.run (checkedCalls (call :: rest)) =
                (raise (.systemError ebadf ""),
                  unopened.after call (.failed ebadf) unopened.kernel) :=
            run_checkedCall_failed hanswer (Reply.failed_Failed _) _
          rw [run_steps_thrown hrun ⟨-1, theAddress⟩,
            run_destructor_unopened]
          refine .seenLater e call rest _ herrno hlater ?_
          simp [Process.after, unopened]

end Runs

/-- The five factories, with their arguments. -/
inductive Factory (A : Type) where
  | serverCreate (theAddress : A)
  | serverOpen (theAddress : A) (backlog : Int) (reuse : Bool)
  | clientCreate (theAddress : A)
  | clientOpen (theAddress : A)
  | existing (theAddress : A) (existingLowLevelSocket : Int)

namespace Factory

section Definitions

/-- The function of the library. -/
def program (cls : AddressClass A) : Factory A → Program A (Socket A)
  | serverCreate theAddress => ServerSocket.create cls theAddress
  | serverOpen theAddress backlog reuse =>
      ServerSocket.«open» cls theAddress backlog reuse
  | clientCreate theAddress => ClientSocket.create cls theAddress
  | clientOpen theAddress => ClientSocket.«open» cls theAddress
  | existing theAddress existingLowLevelSocket =>
      Socket.create theAddress existingLowLevelSocket

/-- The steps a factory is there to do, in order, on the descriptor `fd`. -/
def steps (cls : AddressClass A) (fd : Int) :
    Factory A → Outcome (List (Call A))
  | serverCreate theAddress => do
      let first ← Socket.socketCall cls theAddress
      return [first]
  | serverOpen theAddress backlog reuse => do
      let first ← Socket.socketCall cls theAddress
      return first ::
        ServerSocket.openSteps cls theAddress backlog reuse fd
  | clientCreate theAddress => do
      let first ← Socket.socketCall cls theAddress
      return [first]
  | clientOpen theAddress => do
      let first ← Socket.socketCall cls theAddress
      return first :: ClientSocket.openSteps cls theAddress fd
  | existing _ _ => return []

/-- The log from its first failure on. -/
def fromFirstFailure
    (trace : List (Call A × Reply)) : List (Call A × Reply) :=
  trace.dropWhile (fun entry => decide (¬ entry.2.Failed))

/-- What a caller of a factory relies on. -/
structure OpenFromConstruction
    (cls : AddressClass A) (factory : Factory A)
    (kernel : Kernel) (errno : Int) (script : Nat → Choice)
    (outcome : Outcome (Socket A)) (after : Process A) : Prop where
  returned : ∀ socket, outcome = .ok socket →
    socket.lowLevelSocket ≠ -1 ∧
      socket.lowLevelSocket ∈ after.kernel.openFds ∧
      factory.steps cls socket.lowLevelSocket =
        .ok (after.trace.map Prod.fst) ∧
      ∀ entry ∈ after.trace, ¬ entry.2.Failed
  reported : ∀ call reply rest,
    fromFirstFailure after.trace = (call, reply) :: rest →
      outcome = raise (.systemError reply.errno "") ∧
      (∀ entry ∈ rest, ∃ fd, entry.1 = .close fd) ∧
      after.kernel.openFds = kernel.openFds
  refused : ∀ theAddress, factory = existing theAddress (-1) →
    outcome = raise (.systemError errno "") ∧
      after.kernel.openFds = kernel.openFds

/-- The first step of the factory succeeds: the kernel grants the descriptor,
or the given one is open or says that there is none. -/
def FirstStepSucceeds (factory : Factory A) (kernel : Kernel) (first : Choice) :
    Prop :=
  match factory with
  | existing _ existingLowLevelSocket =>
      existingLowLevelSocket = -1 ∨ existingLowLevelSocket ∈ kernel.openFds
  | _ => first.errno = none

end Definitions

section Reading

theorem fromFirstFailure_of_ok
    {trace : List (Call A × Reply)}
    (h : ∀ entry ∈ trace, ¬ entry.2.Failed) :
    fromFirstFailure trace = [] := by
  rw [fromFirstFailure, List.dropWhile_eq_nil_iff]
  intro entry hentry
  exact decide_eq_true (h entry hentry)

theorem fromFirstFailure_append
    {done rest : List (Call A × Reply)} {call : Call A} {reply : Reply}
    (hok : ∀ entry ∈ done, ¬ entry.2.Failed)
    (hfailed : reply.Failed) :
    fromFirstFailure (done ++ (call, reply) :: rest) =
      (call, reply) :: rest := by
  rw [fromFirstFailure, List.dropWhile_append_of_pos, List.dropWhile_cons_of_neg]
  · simp [hfailed]
  · intro entry hentry
    exact decide_eq_true (hok entry hentry)

end Reading

section Law

/-- A factory whose steps all succeed keeps the law. -/
theorem law_of_succeeded
    {cls : AddressClass A} {factory : Factory A}
    {kernel : Kernel} {errno : Int} {script : Nat → Choice}
    {socket : Socket A} {after : Process A}
    (hgiven : ∀ theAddress, factory ≠ existing theAddress (-1))
    (hne : socket.lowLevelSocket ≠ -1)
    (hopen : socket.lowLevelSocket ∈ after.kernel.openFds)
    (hsteps : factory.steps cls socket.lowLevelSocket =
      .ok (after.trace.map Prod.fst))
    (hok : ∀ entry ∈ after.trace, ¬ entry.2.Failed) :
    OpenFromConstruction cls factory kernel errno script (.ok socket)
      after := by
  refine ⟨?_, ?_, ?_⟩
  · intro other hother
    obtain rfl := Except.ok.inj hother
    exact ⟨hne, hopen, hsteps, hok⟩
  · intro call reply rest hrest
    rw [fromFirstFailure_of_ok hok] at hrest
    cases hrest
  · intro theAddress hfactory
    exact absurd hfactory (hgiven theAddress)

/-- A factory that stops at its first failure and closes its socket keeps the
law. -/
theorem law_of_unwound
    {cls : AddressClass A} {factory : Factory A}
    {kernel : Kernel} {errno : Int} {script : Nat → Choice}
    {after : Process A} {done : List (Call A × Reply)}
    {call : Call A} {reply closing : Reply} {fd : Int}
    (hgiven : ∀ theAddress, factory ≠ existing theAddress (-1))
    (htrace : after.trace =
      done ++ [(call, reply), (.close fd, closing)])
    (hok : ∀ entry ∈ done, ¬ entry.2.Failed)
    (hfailed : reply.Failed)
    (hclosed : after.kernel.openFds = kernel.openFds) :
    OpenFromConstruction cls factory kernel errno script
      (raise (.systemError reply.errno "")) after := by
  refine ⟨?_, ?_, ?_⟩
  · intro socket hsocket
    cases hsocket
  · intro other otherReply rest hrest
    rw [htrace, fromFirstFailure_append hok hfailed] at hrest
    cases hrest
    refine ⟨rfl, ?_, hclosed⟩
    intro entry hentry
    rw [List.mem_singleton] at hentry
    exact ⟨fd, by rw [hentry]⟩
  · intro theAddress hfactory
    exact absurd hfactory (hgiven theAddress)

/-- The law for a factory that calls `::socket` and does the steps `later`. -/
theorem openWith_law_iff
    (cls : AddressClass A) (factory : Factory A)
    (theAddress : A) (later : Int → List (Call A))
    (htarget : ∀ fd, ∀ call ∈ later fd, call.target = some fd)
    (hsteps : ∀ fd, factory.steps cls fd =
      (Socket.socketCall cls theAddress >>= fun first =>
        .ok (first :: later fd)))
    (hnew : ∀ other fd, factory ≠ existing other fd)
    (kernel : Kernel) (errno : Int) (script : Nat → Choice) :
    OpenFromConstruction cls factory kernel errno script
        ((Process.start kernel errno script).run (openWith cls theAddress later)).1
        ((Process.start kernel errno script).run (openWith cls theAddress later)).2 ↔
      (script 0).errno = none := by
  obtain ⟨domain, type, protocol, hfirst⟩ :=
    Socket.socketCall_total cls theAddress
  have hopened :=
    run_openWith cls theAddress later htarget hfirst
      (Process.start kernel errno script)
  generalize Process.run (openWith cls theAddress later)
    (Process.start kernel errno script) = ending at hopened ⊢
  obtain ⟨outcome, after⟩ := ending
  simp only at hopened ⊢
  have hsteps' : ∀ fd, factory.steps cls fd =
      .ok (.socket domain type protocol :: later fd) := by
    intro fd
    rw [hsteps, hfirst]
    rfl
  have hnewOk : ∀ (fd : Int) (entries : List (Call A × Reply)),
      0 ≤ fd → (∀ entry ∈ entries, ¬ entry.2.Failed) →
        ∀ entry ∈
          ((.socket domain type protocol : Call A), Reply.succeeded fd) ::
            entries, ¬ entry.2.Failed := by
    intro fd entries hnonneg hok entry hentry
    rcases List.mem_cons.mp hentry with rfl | hlater
    · exact Reply.succeeded_not_Failed hnonneg
    · exact hok entry hlater
  cases hopened with
  | returned fd entries _ succeeds nonneg opened trace made ok =>
      refine iff_of_true ?_ succeeds
      refine law_of_succeeded (fun other => hnew other (-1)) ?_ opened ?_ ?_
      · intro hminus
        simp only at hminus
        omega
      · rw [hsteps', trace, ← made]
        rfl
      · rw [trace]
        exact hnewOk fd entries nonneg ok
  | unwound fd done call reply closing _ succeeds nonneg closed trace ok
      failed =>
      refine iff_of_true ?_ succeeds
      exact law_of_unwound (fun other => hnew other (-1)) trace
        (hnewOk fd done nonneg ok) failed closed
  | unseen e _ fails _ trace =>
      have hfails : (script 0).errno = some e := fails
      refine iff_of_false ?_ (by simp [hfails])
      intro hlaw
      exact (hlaw.returned _ rfl).1 rfl
  | seenLater e call rest _ fails steps trace =>
      have hfails : (script 0).errno = some e := fails
      refine iff_of_false ?_ (by simp [hfails])
      intro hlaw
      have hlog :
          fromFirstFailure after.trace =
            [(.socket domain type protocol, .failed e),
              (call, .failed ebadf)] := by
        rw [trace]
        simp [fromFirstFailure, Process.start]
      obtain ⟨_, honly, _⟩ := hlaw.reported _ _ _ hlog
      obtain ⟨fd, hclose⟩ := honly (call, .failed ebadf) (by simp)
      have hcall : call.target = some (-1) :=
        htarget (-1) call (by simp [steps])
      rw [show call = .close fd from hclose] at hcall
      cases hcall

/-- The law for a descriptor that is given. -/
theorem existing_law_iff
    (cls : AddressClass A) (theAddress : A) (fd : Int)
    (kernel : Kernel) (errno : Int) (script : Nat → Choice) :
    OpenFromConstruction cls (existing theAddress fd) kernel errno script
        ((Process.start kernel errno script).run (Socket.create theAddress fd)).1
        ((Process.start kernel errno script).run (Socket.create theAddress fd)).2 ↔
      fd = -1 ∨ fd ∈ kernel.openFds := by
  by_cases hminus : fd = -1
  · subst hminus
    refine iff_of_true ?_ (Or.inl rfl)
    refine ⟨?_, ?_, ?_⟩
    · intro socket hsocket
      cases hsocket
    · intro call reply rest hrest
      cases hrest
    · intro other _
      exact ⟨rfl, rfl⟩
  · have hne : ¬ (-1 = fd) := fun h => hminus h.symm
    have hrun :
        (Process.start kernel errno script).run (Socket.create theAddress fd) =
          (.ok ⟨fd, theAddress⟩, Process.start kernel errno script) := by
      simp only [Socket.create, Socket.newExisting, if_neg hne]
      rfl
    rw [hrun]
    constructor
    · intro hlaw
      right
      exact (hlaw.returned _ rfl).2.1
    · rintro (heq | hopen)
      · exact absurd heq hminus
      · refine law_of_succeeded ?_ hminus hopen rfl (by simp [Process.start])
        intro other hother
        cases hother
        exact absurd rfl hminus

theorem openSteps_target
    (cls : AddressClass A) (theAddress : A)
    (backlog : Int) (reuse : Bool) (fd : Int) :
    ∀ call ∈ ServerSocket.openSteps cls theAddress backlog reuse fd,
      call.target = some fd := by
  intro call hcall
  cases reuse <;>
    simp only [ServerSocket.openSteps, Bool.false_eq_true, if_true, if_false,
      List.nil_append, List.cons_append, List.mem_cons, List.not_mem_nil,
      or_false] at hcall
  · rcases hcall with rfl | rfl <;> rfl
  · rcases hcall with rfl | rfl | rfl | rfl <;> rfl

/-- **A socket is open from construction, and the first failure is the one
reported** exactly when the first step of the factory succeeds. -/
theorem open_from_construction_iff
    (cls : AddressClass A) (factory : Factory A)
    (kernel : Kernel) (errno : Int) (script : Nat → Choice) :
    OpenFromConstruction cls factory kernel errno script
        ((Process.start kernel errno script).run (factory.program cls)).1
        ((Process.start kernel errno script).run (factory.program cls)).2 ↔
      factory.FirstStepSucceeds kernel (script 0) := by
  cases factory with
  | serverCreate theAddress =>
      simp only [program, ServerSocket.create, newFor_eq_openWith]
      exact openWith_law_iff cls _ theAddress _ (by simp)
        (fun _ => rfl) (by simp) kernel errno script
  | serverOpen theAddress backlog reuse =>
      simp only [program, server_open_eq_openWith]
      exact openWith_law_iff cls _ theAddress _
        (fun fd => openSteps_target cls theAddress backlog reuse fd)
        (fun _ => rfl) (by simp) kernel errno script
  | clientCreate theAddress =>
      simp only [program, ClientSocket.create, newFor_eq_openWith]
      exact openWith_law_iff cls _ theAddress _ (by simp)
        (fun _ => rfl) (by simp) kernel errno script
  | clientOpen theAddress =>
      simp only [program, client_open_eq_openWith]
      exact openWith_law_iff cls _ theAddress _
        (by simp [ClientSocket.openSteps, Call.target])
        (fun _ => rfl) (by simp) kernel errno script
  | existing theAddress fd =>
      exact existing_law_iff cls theAddress fd kernel errno script

/-- A local address with the path `s`. -/
def pathAddress : Address :=
  .localPath ⟨[115], ⟨encodePath [115], encodePath_length [115]⟩, rfl⟩

/-- A kernel with the three standard descriptors open. -/
def standardKernel : Kernel where
  openFds := {0, 1, 2}
  accepted := 0
  valid := by decide

/-- An environment in which every call fails: no descriptor is left (`EMFILE`). -/
def exhausted (_call : Nat) : Choice := ⟨some 24, 0, []⟩

/-- Then `ServerSocket::create` returns a socket that holds -1. -/
theorem not_open_from_construction_exhausted :
    ¬ OpenFromConstruction
        (Address.libraryClass (TextFormat.plainLibc (fun _ _ _ => .error 0)))
        (.serverCreate pathAddress) standardKernel 0 exhausted
        ((Process.start standardKernel 0 exhausted).run
          (program (Address.libraryClass
            (TextFormat.plainLibc (fun _ _ _ => .error 0)))
            (.serverCreate pathAddress))).1
        ((Process.start standardKernel 0 exhausted).run
          (program (Address.libraryClass
            (TextFormat.plainLibc (fun _ _ _ => .error 0)))
            (.serverCreate pathAddress))).2 := by
  intro hlaw
  exact (hlaw.returned ⟨-1, pathAddress⟩ rfl).1 rfl

end Law

end Factory

end BsdSockets
