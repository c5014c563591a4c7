import BsdSockets.AcceptLength

/-!
# Failures of accept after the kernel's

Between the kernel's `accept` and the `Socket` that will own the descriptor,
the descriptor is an `int` in `lowLevelAccept`, in `AcceptedSocketData` and in
the captures of a lambda.  Nothing closes it when an exception passes: not for
a length beyond the temporary, not when `create` of any address class throws,
not when the thread cannot be started.
-/

namespace BsdSockets

open Resumption

variable {A : Type}

section Definitions

/-- The two calls that accept a connection. -/
inductive AcceptPath where
  | inThisThread
  | inNewThread
deriving DecidableEq

/-- The call; the socket that `accept` returns is not looked at. -/
def AcceptPath.program
    (cls : AddressClass A) (server : Socket A)
    (memory : Indeterminate) : AcceptPath → Program A Unit
  | inThisThread => do
      let _ ← ServerSocket.accept cls server memory
      return ()
  | inNewThread => ServerSocket.acceptInNewThread cls server memory

/-- The call closes this descriptor. -/
def Call.Closes (fd : Int) (call : Call A) : Prop := call = .close fd

instance (fd : Int) (call : Call A) [DecidableEq A] :
    Decidable (call.Closes fd) :=
  inferInstanceAs (Decidable (_ = _))

/-- The call is an `accept`. -/
def Call.IsAccept : Call A → Prop
  | .accept _ _ _ => True
  | _ => False

/-- An exception leaves a call in which the kernel's `accept` returned `fd`. -/
structure FailsAfterAccept
    (outcome : Outcome Unit) (after : Process A) (fd : Int) : Prop where
  thrown : ∃ e, outcome = .error (.throws e)
  accepted : ∃ call reply, (call, reply) ∈ after.trace ∧ call.IsAccept ∧
    ¬ reply.Failed ∧ reply.result = fd

/-- The descriptor was closed once, and the open descriptors are those from
before the call. -/
structure ReleasesAccepted
    (kernel : Kernel) (after : Process A) (fd : Int) : Prop where
  closedOnce : ∃ before reply behind,
    after.trace = before ++ (.close fd, reply) :: behind ∧
      ∀ entry ∈ before ++ behind, ¬ entry.1.Closes fd
  restored : after.kernel.openFds = kernel.openFds

end Definitions

section Steps

/-- An `accept` of the kernel that did not fail opened a descriptor that was
not in use. -/
theorem Kernel.answer_accept_opened
    (kernel : Kernel) (choice : Choice)
    (fd : Int) (buffer : List UInt8) (len : Nat)
    (h : ¬ (kernel.answer choice (.accept fd buffer len : Call A)).1.Failed) :
    (kernel.answer choice (.accept fd buffer len : Call A)).1.result ∉
        kernel.openFds ∧
      (kernel.answer choice (.accept fd buffer len : Call A)).2.openFds =
        insert
          (kernel.answer choice (.accept fd buffer len : Call A)).1.result
          kernel.openFds := by
  rcases kernel.answer_accept_cases choice fd buffer len with
    ⟨e, hanswer⟩ | ⟨peer, hanswer⟩
  · rw [hanswer] at h
    exact absurd rfl h
  · rw [hanswer]
    exact ⟨kernel.freshFd_not_mem choice.descriptor, rfl⟩

/-- Starting a thread leaves the descriptors alone. -/
theorem Kernel.answer_startThread_openFds
    (kernel : Kernel) (choice : Choice) (data : AcceptedSocketData A) :
    (kernel.answer choice (.startThread data)).2 = kernel := by
  cases herrno : choice.errno with
  | none =>
      simp only [Kernel.answer, herrno]
  | some e =>
      simp only [Kernel.answer, herrno]

/-- What is logged and open when one of the calls ends with an exception: one
`accept`, and no `close`. -/
theorem AcceptPath.run_thrown
    (path : AcceptPath) (cls : AddressClass A) (server : Socket A)
    (memory : Indeterminate)
    (kernel : Kernel) (errno : Int) (script : Nat → Choice) :
    let ending :=
      (Process.start kernel errno script).run
        (path.program cls server memory)
    let call := acceptCall cls server.lowLevelSocket server.address memory
    ending.2.kernel = (kernel.answer (script 0) call).2 ∧
      (ending.2.trace = [(call, (kernel.answer (script 0) call).1)] ∨
        ∃ data reply, ending.2.trace =
          [(call, (kernel.answer (script 0) call).1),
            (.startThread data, reply)]) := by
  intro ending call
  have hne : call ≠ .readErrno := by
    simp [call, acceptCall]
  have hafter :
      afterAccept cls server memory (Process.start kernel errno script) =
        (Process.start kernel errno script).after call
          (kernel.answer (script 0) call).1
          (kernel.answer (script 0) call).2 := by
    rw [afterAccept]
    rw [Process.answer_call _ hne]
    rfl
  cases path with
  | inThisThread =>
      have hending :
          ending.2 =
            afterAccept cls server memory
              (Process.start kernel errno script) := by
        simp only [ending, AcceptPath.program, Process.run]
        rw [Prog.run_bind]
        have hrun := run_accept_eq cls server memory
          (Process.start kernel errno script)
        rw [Process.run] at hrun
        rw [hrun]
        cases acceptedNow cls server memory
          (Process.start kernel errno script) <;> rfl
      rw [hending, hafter]
      exact ⟨rfl, Or.inl rfl⟩
  | inNewThread =>
      have hrun := run_acceptInNewThread cls server memory
        (Process.start kernel errno script)
      cases hdata :
          acceptedNow cls server memory
            (Process.start kernel errno script) with
      | error e =>
          rw [hdata] at hrun
          have hending :
              ending.2 =
                afterAccept cls server memory
                  (Process.start kernel errno script) :=
            congrArg Prod.snd hrun
          rw [hending, hafter]
          exact ⟨rfl, Or.inl rfl⟩
      | ok data =>
          rw [hdata] at hrun
          have hending :
              ending.2 =
                ((afterAccept cls server memory
                  (Process.start kernel errno script)).answer
                    (.startThread data)).2 :=
            congrArg Prod.snd hrun
          rw [hending, Process.answer_call _ (by simp), hafter]
          refine ⟨?_, Or.inr ⟨data, _, rfl⟩⟩
          exact Kernel.answer_startThread_openFds _ _ data

end Steps

section Law

/-- After such a failure the descriptor is open, and was not closed. -/
theorem open_after_failure
    (path : AcceptPath) (cls : AddressClass A) (server : Socket A)
    (memory : Indeterminate)
    (kernel : Kernel) (errno : Int) (script : Nat → Choice) (fd : Int)
    (h : FailsAfterAccept
      ((Process.start kernel errno script).run
        (path.program cls server memory)).1
      ((Process.start kernel errno script).run
        (path.program cls server memory)).2 fd) :
    fd ∉ kernel.openFds ∧
      fd ∈ ((Process.start kernel errno script).run
        (path.program cls server memory)).2.kernel.openFds ∧
      ∀ entry ∈ ((Process.start kernel errno script).run
        (path.program cls server memory)).2.trace, ¬ entry.1.Closes fd := by
  obtain ⟨hkernel, htrace⟩ :=
    AcceptPath.run_thrown path cls server memory kernel errno script
  generalize (Process.start kernel errno script).run
    (path.program cls server memory) = ending at h hkernel htrace ⊢
  obtain ⟨_, call, reply, hmem, haccept, hok, hresult⟩ := h
  have hreply :
      reply =
        (kernel.answer (script 0)
          (acceptCall cls server.lowLevelSocket server.address
            memory)).1 := by
    rcases htrace with htrace | ⟨data, started, htrace⟩
    · rw [htrace, List.mem_singleton] at hmem
      exact (Prod.mk.inj hmem).2
    · rw [htrace, List.mem_cons, List.mem_singleton] at hmem
      rcases hmem with hmem | hmem
      · exact (Prod.mk.inj hmem).2
      · rw [(Prod.mk.inj hmem).1] at haccept
        exact haccept.elim
  rw [hreply] at hok hresult
  obtain ⟨hfresh, hinsert⟩ :=
    Kernel.answer_accept_opened kernel (script 0) server.lowLevelSocket
      (cls.makeTempLowLevelAddress server.address).getSockAddr memory.len hok
  refine ⟨?_, ?_, ?_⟩
  · rw [← hresult]
    exact hfresh
  · rw [hkernel, ← hresult]
    exact hinsert ▸ Finset.mem_insert_self _ _
  · intro entry hentry hcloses
    rcases htrace with htrace | ⟨data, started, htrace⟩
    · rw [htrace, List.mem_singleton] at hentry
      rw [hentry] at hcloses
      cases hcloses
    · rw [htrace, List.mem_cons, List.mem_singleton] at hentry
      rcases hentry with hentry | hentry <;>
        · rw [hentry] at hcloses
          cases hcloses

/-- **An accepted connection is leaked on failure**: whenever an exception
leaves the call after the kernel's `accept`, the descriptor is not released. -/
theorem accept_failure_leaks
    (path : AcceptPath) (cls : AddressClass A) (server : Socket A)
    (memory : Indeterminate)
    (kernel : Kernel) (errno : Int) (script : Nat → Choice) (fd : Int)
    (h : FailsAfterAccept
      ((Process.start kernel errno script).run
        (path.program cls server memory)).1
      ((Process.start kernel errno script).run
        (path.program cls server memory)).2 fd) :
    ¬ ReleasesAccepted kernel
        ((Process.start kernel errno script).run
          (path.program cls server memory)).2 fd ∧
      fd ∈ ((Process.start kernel errno script).run
        (path.program cls server memory)).2.kernel.openFds ∧
      ∀ entry ∈ ((Process.start kernel errno script).run
        (path.program cls server memory)).2.trace, ¬ entry.1.Closes fd := by
  obtain ⟨hfresh, hopen, hnoClose⟩ :=
    open_after_failure path cls server memory kernel errno script fd h
  refine ⟨?_, hopen, hnoClose⟩
  intro hreleases
  rw [hreleases.restored] at hopen
  exact hfresh hopen

/-- The peer of an IPv6 server, whose length is beyond the temporary. -/
def longPeer (_call : Nat) : Choice :=
  ⟨none, 4, InetAddress.globalEntry.aiAddr⟩

/-- The IPv6 server's socket 3. -/
def globalServer : Socket Address :=
  ⟨3, .inet InetAddress.globalAddress⟩

theorem longPeer_fails :
    FailsAfterAccept
      ((Process.start servingKernel 0 longPeer).run
        (AcceptPath.inThisThread.program
          (Address.libraryClass (InetAddress.resolvingLibc []))
          globalServer ⟨16, []⟩)).1
      ((Process.start servingKernel 0 longPeer).run
        (AcceptPath.inThisThread.program
          (Address.libraryClass (InetAddress.resolvingLibc []))
          globalServer ⟨16, []⟩)).2 4 := by
  refine ⟨⟨ServerSocket.overWrite, rfl⟩, _, _, List.mem_singleton.mpr rfl,
    trivial, ?_, rfl⟩
  decide

theorem accept_failure_leaks_longPeer :
    ¬ ReleasesAccepted servingKernel
        ((Process.start servingKernel 0 longPeer).run
          (AcceptPath.inThisThread.program
            (Address.libraryClass (InetAddress.resolvingLibc []))
            globalServer ⟨16, []⟩)).2 4 :=
  (accept_failure_leaks .inThisThread
    (Address.libraryClass (InetAddress.resolvingLibc []))
    globalServer ⟨16, []⟩ servingKernel 0 longPeer 4 longPeer_fails).1

/-- A loopback peer is accepted, and then no thread can be started (`EAGAIN`). -/
def noThread : Nat → Choice
  | 0 => ⟨none, 4, InetAddress.loopbackEntry.aiAddr⟩
  | _ => ⟨some 11, 0, []⟩

/-- The connection of a thread that could not be started stays open. -/
theorem not_releases_noThread :
    FailsAfterAccept
        ((Process.start servingKernel 0 noThread).run
          (AcceptPath.inNewThread.program
            (Address.libraryClass (InetAddress.resolvingLibc []))
            Address.loopbackServer ⟨16, []⟩)).1
        ((Process.start servingKernel 0 noThread).run
          (AcceptPath.inNewThread.program
            (Address.libraryClass (InetAddress.resolvingLibc []))
            Address.loopbackServer ⟨16, []⟩)).2 4 ∧
      ¬ ReleasesAccepted servingKernel
        ((Process.start servingKernel 0 noThread).run
          (AcceptPath.inNewThread.program
            (Address.libraryClass (InetAddress.resolvingLibc []))
            Address.loopbackServer ⟨16, []⟩)).2 4 := by
  have hfails :
      FailsAfterAccept
        ((Process.start servingKernel 0 noThread).run
          (AcceptPath.inNewThread.program
            (Address.libraryClass (InetAddress.resolvingLibc []))
            Address.loopbackServer ⟨16, []⟩)).1
        ((Process.start servingKernel 0 noThread).run
          (AcceptPath.inNewThread.program
            (Address.libraryClass (InetAddress.resolvingLibc []))
            Address.loopbackServer ⟨16, []⟩)).2 4 := by
    refine ⟨⟨.systemError 11 "", rfl⟩, _, _, List.mem_cons_self, trivial, ?_,
      rfl⟩
    decide
  refine ⟨hfails, ?_⟩
  obtain ⟨hfresh, hopen, _⟩ := open_after_failure _ _ _ _ _ _ _ _ hfails
  intro hreleases
  rw [hreleases.restored] at hopen
  exact hfresh hopen

end Law

end BsdSockets
