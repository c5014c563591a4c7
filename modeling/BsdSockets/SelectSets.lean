import BsdSockets.AcceptBuffer
import BsdSockets.Opening
import BsdSockets.WaitTimeout

/-!
# The descriptor sets of select

`Socket::select` has no check of its own, so whether its descriptor has a bit
in the sets depends on what the factories admit.  The first section computes
`select` for an arbitrary descriptor.  The second follows the descriptor back:
`Origin` lists the ways in which a caller gets a `Socket`, and
`Origin.descriptor` is the number that each of them stores, the given one, the
kernel's, or -1 for a `::socket` that failed.
-/

namespace BsdSockets

open Resumption

namespace Socket

section Sets

variable {A : Type}

/-- What a caller of `select` relies on: no index outside the sets, and every
answer is the kernel's. -/
structure StaysInside
    (socket : Socket A) (timeoutMs : Int32)
    (checkRead checkWrite checkError : Bool) (choice : WaitChoice) : Prop where
  defined :
    choice.run (socket.select timeoutMs checkRead checkWrite checkError) ≠
      .error .undefined
  bounded : ∀ (nfds : Int) (read write error : FdSet)
      (timeout : Option Timeval),
    .select nfds read write error timeout ∈
        choice.calls
          (socket.select timeoutMs checkRead checkWrite checkError) →
      nfds ≤ fdSetsize
  reported : ∀ result,
    choice.run (socket.select timeoutMs checkRead checkWrite checkError) =
        .ok result →
      (result.readyToRead = true ↔
        checkRead = true ∧ choice.readable socket.lowLevelSocket = true) ∧
      (result.readyToWrite = true ↔
        checkWrite = true ∧ choice.writable socket.lowLevelSocket = true) ∧
      (result.readyWithError = true ↔
        checkError = true ∧ choice.exceptional socket.lowLevelSocket = true)

/-- The descriptors and calls for which `select` is good: a descriptor with a
bit; or a negative one of which nothing is checked, when the kernel turns the
call down. -/
def FitsSets
    (fd : Int) (timeoutMs : Int32)
    (checkRead checkWrite checkError : Bool) (choice : WaitChoice) : Prop :=
  Selectable fd ∨
    fd < 0 ∧
      (checkRead = false ∧ checkWrite = false ∧ checkError = false) ∧
      (fd < -1 ∨ timeoutMs < 0 ∨ choice.errno ≠ none)

instance
    (fd : Int) (timeoutMs : Int32)
    (checkRead checkWrite checkError : Bool) (choice : WaitChoice) :
    Decidable
      (FitsSets fd timeoutMs checkRead checkWrite checkError choice) :=
  inferInstanceAs (Decidable (_ ∨ _ ∧ _ ∧ _))

theorem fdIsset_selectable
    {fd : Int} {index : Fin fdSetsize}
    (h : fdIndex fd = .ok index) (set : FdSet) :
    fdIsset fd set = .ok (decide (index ∈ set)) := by
  simp only [fdIsset, h]
  rfl

/-- The bit of the one descriptor after the kernel has filtered the set. -/
theorem mem_reported_only
    {fd : Int} {index : Fin fdSetsize}
    (h : (index.val : Int) = fd)
    (condition : Int → Bool) (check : Bool) :
    index ∈ WaitChoice.reported (fd + 1) condition (only index check) ↔
      check = true ∧ condition fd = true := by
  cases check with
  | false =>
      simp [WaitChoice.reported, only]
  | true =>
      simp [WaitChoice.reported, only, h]

/-- How the kernel answers a `select`: it turns the call down, or it counts the
bits it leaves. -/
theorem answer_select
    (choice : WaitChoice) (nfds : Int) (read write error : FdSet)
    (timeout : Option Timeval) :
    (((nfds < 0 ∨ ∃ value ∈ timeout, ¬ value.WellFormed) ∨
        choice.errno ≠ none) ∧
      ∃ e, choice.answer (.select nfds read write error timeout) =
        WaitChoice.selectFailed e read write error) ∨
    (¬ (nfds < 0 ∨ ∃ value ∈ timeout, ¬ value.WellFormed) ∧
      choice.errno = none ∧
      ∃ n : Nat, choice.answer (.select nfds read write error timeout) =
        ⟨n, 0, WaitChoice.reported nfds choice.readable read,
          WaitChoice.reported nfds choice.writable write,
          WaitChoice.reported nfds choice.exceptional error, 0⟩) := by
  by_cases hbad : nfds < 0 ∨ ∃ value ∈ timeout, ¬ value.WellFormed
  · left
    refine ⟨Or.inl hbad, einval, ?_⟩
    simp only [WaitChoice.answer, if_pos hbad]
  · cases herrno : choice.errno with
    | some e =>
        left
        refine ⟨Or.inr (by simp), e, ?_⟩
        simp only [WaitChoice.answer, if_neg hbad, herrno]
    | none =>
        right
        refine ⟨hbad, rfl,
          (WaitChoice.reported nfds choice.readable read).card +
            (WaitChoice.reported nfds choice.writable write).card +
            (WaitChoice.reported nfds choice.exceptional error).card, ?_⟩
        simp only [WaitChoice.answer, if_neg hbad, herrno]

/-- A `select` that was turned down throws. -/
theorem selectResult_failed
    (fd : Int) (checkRead checkWrite checkError : Bool)
    (e : Int) (read write error : FdSet) :
    selectResult fd checkRead checkWrite checkError
        (WaitChoice.selectFailed e read write error) =
      raise (.systemError e "") := by
  rfl

/-- On a descriptor with a bit `select` throws what the kernel reports, or reads
the three bits that the kernel has left. -/
theorem run_select_selectable
    {socket : Socket A} {index : Fin fdSetsize}
    (h : Selectable socket.lowLevelSocket)
    (hindex : fdIndex socket.lowLevelSocket = .ok index)
    (timeoutMs : Int32) (checkRead checkWrite checkError : Bool)
    (choice : WaitChoice) :
    (∃ e, choice.run
        (socket.select timeoutMs checkRead checkWrite checkError) =
      raise (.systemError e "")) ∨
    choice.run (socket.select timeoutMs checkRead checkWrite checkError) =
      .ok (.new checkRead checkWrite checkError
        (decide (index ∈
          WaitChoice.reported (socket.lowLevelSocket + 1) choice.readable
            (only index checkRead)))
        (decide (index ∈
          WaitChoice.reported (socket.lowLevelSocket + 1) choice.writable
            (only index checkWrite)))
        (decide (index ∈
          WaitChoice.reported (socket.lowLevelSocket + 1) choice.exceptional
            (only index checkError)))) := by
  rw [select_selectable socket h hindex, WaitChoice.run_call,
    WaitChoice.run_lift]
  rcases answer_select choice (socket.lowLevelSocket + 1)
      (only index checkRead) (only index checkWrite) (only index checkError)
      (selectTimeout timeoutMs)
    with ⟨_, e, hanswer⟩ | ⟨_, _, n, hanswer⟩
  · left
    exact ⟨e, by rw [hanswer, selectResult_failed]⟩
  · right
    have hcount : ¬ (-1 = (n : Int)) := by
      omega
    rw [hanswer]
    simp only [selectResult, if_neg hcount, fdIsset_selectable hindex]
    rfl

/-- `select` on a descriptor with a bit keeps the law. -/
theorem staysInside_selectable
    {socket : Socket A}
    (h : Selectable socket.lowLevelSocket)
    (timeoutMs : Int32) (checkRead checkWrite checkError : Bool)
    (choice : WaitChoice) :
    StaysInside socket timeoutMs checkRead checkWrite checkError choice := by
  obtain ⟨index, hindex, hval⟩ := fdIndex_selectable h
  have hruns :=
    run_select_selectable h hindex timeoutMs checkRead checkWrite checkError
      choice
  have hsmall : socket.lowLevelSocket < fdSetsize := h.2
  refine ⟨?_, ?_, ?_⟩
  · rcases hruns with ⟨e, hrun⟩ | hrun
    · rw [hrun]
      simp [raise]
    · rw [hrun]
      simp
  · intro nfds read write error timeout hcall
    rw [select_selectable socket h hindex, WaitChoice.calls_call,
      WaitChoice.calls_lift, List.mem_singleton,
      WaitCall.select.injEq] at hcall
    omega
  · intro result hresult
    rcases hruns with ⟨e, hrun⟩ | hrun
    · rw [hrun] at hresult
      cases hresult
    · rw [hrun] at hresult
      cases hresult
      simp only [SelectResult.new, decide_eq_true_iff]
      exact ⟨mem_reported_only hval _ _, mem_reported_only hval _ _,
        mem_reported_only hval _ _⟩

/-- The `timeval` of a negative timeout is the malformed one. -/
theorem selectTimeout_malformed_iff
    (timeoutMs : Int32) :
    (∃ value ∈ selectTimeout timeoutMs, ¬ value.WellFormed) ↔
      timeoutMs < 0 := by
  have hsign : timeoutMs < 0 ↔ timeoutMs.toInt < 0 := by
    rw [Int32.lt_iff_toInt_lt]
    rfl
  constructor
  · rintro ⟨value, hvalue, hmalformed⟩
    rw [selectTimeout_wellFormed_iff hvalue] at hmalformed
    rw [hsign]
    omega
  · intro hneg
    cases htimeout : selectTimeout timeoutMs with
    | none =>
        rw [selectTimeout_eq_none_iff] at htimeout
        rw [htimeout] at hneg
        exact absurd hneg (by decide)
    | some value =>
        refine ⟨value, rfl, ?_⟩
        rw [selectTimeout_wellFormed_iff htimeout]
        rw [hsign] at hneg
        omega

/-- A call that checks nothing, on a descriptor without a bit: turned down, it
throws; answered, its first `FD_ISSET` leaves the set. -/
theorem run_select_unchecked
    {socket : Socket A}
    (h : ¬ Selectable socket.lowLevelSocket)
    (hlast : socket.lowLevelSocket ≠ 2 ^ 31 - 1)
    (timeoutMs : Int32) (choice : WaitChoice) :
    ((socket.lowLevelSocket < -1 ∨ timeoutMs < 0 ∨ choice.errno ≠ none) ∧
      ∃ e, choice.run (socket.select timeoutMs false false false) =
        raise (.systemError e "")) ∨
    (¬ (socket.lowLevelSocket < -1 ∨ timeoutMs < 0 ∨ choice.errno ≠ none) ∧
      choice.run (socket.select timeoutMs false false false) =
        .error .undefined) := by
  have hnegative :
      socket.lowLevelSocket + 1 < 0 ↔ socket.lowLevelSocket < -1 := by
    omega
  have hanswers :=
    answer_select choice (socket.lowLevelSocket + 1) ∅ ∅ ∅
      (selectTimeout timeoutMs)
  rw [selectTimeout_malformed_iff, hnegative] at hanswers
  rw [select_unchecked socket hlast, WaitChoice.run_call,
    WaitChoice.run_lift]
  rcases hanswers with ⟨hdown, e, hanswer⟩ | ⟨hformed, herrno, n, hanswer⟩
  · left
    refine ⟨or_assoc.mp hdown, e, ?_⟩
    rw [hanswer, selectResult_failed]
  · right
    have hcount : ¬ (-1 = (n : Int)) := by
      omega
    refine ⟨?_, ?_⟩
    · rw [← or_assoc]
      rintro (hbad | herr)
      · exact hformed hbad
      · exact herr herrno
    · rw [hanswer]
      simp only [selectResult, if_neg hcount, fdIsset, fdIndex_outside h]
      rfl

/-- On any other descriptor the law holds when nothing is checked and the
kernel turns the call down, and only then. -/
theorem staysInside_outside_iff
    {socket : Socket A}
    (h : ¬ Selectable socket.lowLevelSocket)
    (timeoutMs : Int32) (checkRead checkWrite checkError : Bool)
    (choice : WaitChoice) :
    StaysInside socket timeoutMs checkRead checkWrite checkError choice ↔
      socket.lowLevelSocket < 0 ∧
        (checkRead = false ∧ checkWrite = false ∧ checkError = false) ∧
        (socket.lowLevelSocket < -1 ∨ timeoutMs < 0 ∨
          choice.errno ≠ none) := by
  by_cases hunchecked :
      (checkRead = false ∧ checkWrite = false ∧ checkError = false) ∧
        socket.lowLevelSocket ≠ 2 ^ 31 - 1
  · obtain ⟨⟨rfl, rfl, rfl⟩, hlast⟩ := hunchecked
    have hselect := select_unchecked socket hlast timeoutMs
    rcases run_select_unchecked h hlast timeoutMs choice with
      ⟨hdown, e, hrun⟩ | ⟨hanswered, hrun⟩
    · constructor
      · intro hlaw
        have hbound := hlaw.bounded (socket.lowLevelSocket + 1) ∅ ∅ ∅
          (selectTimeout timeoutMs) (by
            rw [hselect, WaitChoice.calls_call]
            exact List.mem_cons_self)
        refine ⟨?_, ⟨rfl, rfl, rfl⟩, hdown⟩
        by_contra hnonneg
        exact h ⟨by omega, by omega⟩
      · rintro ⟨hneg, _, _⟩
        refine ⟨?_, ?_, ?_⟩
        · rw [hrun]
          simp [raise]
        · intro nfds read write error timeout hcall
          rw [hselect, WaitChoice.calls_call, WaitChoice.calls_lift,
            List.mem_singleton, WaitCall.select.injEq] at hcall
          omega
        · intro result hresult
          rw [hrun] at hresult
          cases hresult
    · refine iff_of_false (fun hlaw => hlaw.defined hrun) ?_
      rintro ⟨_, _, hdown⟩
      exact hanswered hdown
  · have hselect := select_outside socket h timeoutMs hunchecked
    refine iff_of_false ?_ ?_
    · intro hlaw
      exact hlaw.defined (by rw [hselect, WaitChoice.run_throw])
    · rintro ⟨hneg, hnone, _⟩
      exact hunchecked ⟨hnone, by omega⟩

/-- `select` stays inside its sets exactly on the calls that fit. -/
theorem staysInside_iff_fitsSets
    (socket : Socket A)
    (timeoutMs : Int32) (checkRead checkWrite checkError : Bool)
    (choice : WaitChoice) :
    StaysInside socket timeoutMs checkRead checkWrite checkError choice ↔
      FitsSets socket.lowLevelSocket timeoutMs checkRead checkWrite checkError
        choice := by
  by_cases hselectable : Selectable socket.lowLevelSocket
  · exact iff_of_true
      (staysInside_selectable hselectable timeoutMs checkRead checkWrite
        checkError choice)
      (Or.inl hselectable)
  · rw [staysInside_outside_iff hselectable, FitsSets]
    simp only [hselectable, false_or]

end Sets

end Socket

section Descriptors

variable {A : Type}

/-- The descriptor that a factory stores in the socket it returns. -/
def Factory.descriptor (kernel : Kernel) (first : Choice) : Factory A → Int
  | .existing _ existingLowLevelSocket => existingLowLevelSocket
  | _ =>
      match first.errno with
      | none => kernel.freshFd first.descriptor
      | some _ => -1

/-- The ways in which a caller gets a `Socket`. -/
inductive Origin (A : Type) where
  | factory (factory : Factory A)
  | accept (server : Socket A) (memory : Indeterminate)
  | newThread (server : Socket A) (memory : Indeterminate)

/-- The descriptor of a socket of this origin. -/
def Origin.descriptor (kernel : Kernel) (first : Choice) : Origin A → Int
  | factory made => made.descriptor kernel first
  | accept _ _ => kernel.freshFd first.descriptor
  | newThread _ _ => kernel.freshFd first.descriptor

/-- The run from this kernel and these choices gives the socket: as the result
of the call, or, in the thread that the call has started, as the argument of
`toCall`. -/
def Origin.Gives
    (cls : AddressClass A)
    (kernel : Kernel) (errno : Int) (script : Nat → Choice)
    (socket : Socket A) : Origin A → Prop
  | factory made =>
      ((Process.start kernel errno script).run (made.program cls)).1 =
        .ok socket
  | accept server memory =>
      ((Process.start kernel errno script).run
        (ServerSocket.accept cls server memory)).1 = .ok socket
  | newThread server memory =>
      ∃ data reply,
        (.startThread data, reply) ∈
          ((Process.start kernel errno script).run
            (ServerSocket.acceptInNewThread cls server memory)).2.trace ∧
        ¬ reply.Failed ∧
        ∃ thread : Process A,
          (thread.run (ServerSocket.handlerSocket data)).1 = .ok socket

/-- An opened socket holds what `::socket` returned. -/
theorem openWith_lowLevelSocket
    {cls : AddressClass A} {theAddress : A}
    {later : Int → List (Call A)}
    {kernel : Kernel} {errno : Int} {script : Nat → Choice}
    {socket : Socket A}
    (h : ((Process.start kernel errno script).run
      (openWith cls theAddress later)).1 = .ok socket) :
    socket.lowLevelSocket =
      match (script 0).errno with
      | none => kernel.freshFd (script 0).descriptor
      | some _ => -1 := by
  obtain ⟨domain, type, protocol, hfirst⟩ :=
    Socket.socketCall_total cls theAddress
  have hne : Call.socket (A := A) domain type protocol ≠ .readErrno := by
    simp
  rw [openWith_eq cls theAddress later hfirst, Process.run_call] at h
  have hbody := Prog.run_onThrow_ok Process.answer (Prod.ext h rfl)
  have hsocket := Prog.run_bind_ret_ok Process.answer hbody
  rw [hsocket, Process.answer_call _ hne]
  cases herrno : (script 0).errno with
  | none =>
      simp only [Process.start, Process.choice, Kernel.answer, herrno]
      rfl
  | some e =>
      simp only [Process.start, Process.choice, Kernel.answer, herrno]
      rfl

/-- The descriptor of a socket that a factory returned. -/
theorem Factory.descriptor_eq
    {cls : AddressClass A} {factory : Factory A}
    {kernel : Kernel} {errno : Int} {script : Nat → Choice}
    {socket : Socket A}
    (h : ((Process.start kernel errno script).run
      (factory.program cls)).1 = .ok socket) :
    socket.lowLevelSocket = factory.descriptor kernel (script 0) := by
  cases factory with
  | serverCreate theAddress =>
      simp only [program, ServerSocket.create, newFor_eq_openWith] at h
      exact openWith_lowLevelSocket h
  | serverOpen theAddress backlog reuse =>
      simp only [program, server_open_eq_openWith] at h
      exact openWith_lowLevelSocket h
  | clientCreate theAddress =>
      simp only [program, ClientSocket.create, newFor_eq_openWith] at h
      exact openWith_lowLevelSocket h
  | clientOpen theAddress =>
      simp only [program, client_open_eq_openWith] at h
      exact openWith_lowLevelSocket h
  | existing theAddress fd =>
      simp only [program, Socket.create, Socket.newExisting] at h
      split at h
      · cases h
      · cases h
        rfl

/-- A descriptor that `accept` returns is a fresh one. -/
theorem acceptedNow_lowLevelSocket
    {cls : AddressClass A} {server : Socket A} {memory : Indeterminate}
    {kernel : Kernel} {errno : Int} {script : Nat → Choice}
    {data : AcceptedSocketData A}
    (h : acceptedNow cls server memory (Process.start kernel errno script) =
      .ok data) :
    data.lowLevelSocket = kernel.freshFd (script 0).descriptor := by
  obtain ⟨hresult, hopen⟩ := acceptedData_lowLevelSocket h
  rw [hresult]
  rw [Process.answer_call _ (by simp [acceptCall])] at hopen ⊢
  change (kernel.answer (script 0) _).1.result ≠ -1 at hopen
  change (kernel.answer (script 0) _).1.result = _
  rw [acceptCall] at hopen ⊢
  rcases kernel.answer_accept_cases (script 0) server.lowLevelSocket
      (cls.makeTempLowLevelAddress server.address).getSockAddr memory.len with
    ⟨e, hanswer⟩ | ⟨peer, hanswer⟩
  · rw [hanswer] at hopen
    exact absurd rfl hopen
  · rw [hanswer]

/-- A socket made for accepted data holds the accepted descriptor. -/
theorem handlerSocket_lowLevelSocket
    {data : AcceptedSocketData A} {thread : Process A} {socket : Socket A}
    (h : (thread.run (ServerSocket.handlerSocket data)).1 = .ok socket) :
    socket.lowLevelSocket = data.lowLevelSocket := by
  simp only [ServerSocket.handlerSocket, Socket.create,
    Socket.newExisting] at h
  split at h
  · cases h
  · cases h
    rfl

/-- The data a thread is started with is the accepted data. -/
theorem startThread_acceptedNow
    {cls : AddressClass A} {server : Socket A} {memory : Indeterminate}
    {kernel : Kernel} {errno : Int} {script : Nat → Choice}
    {data : AcceptedSocketData A} {reply : Reply}
    (h : (.startThread data, reply) ∈
      ((Process.start kernel errno script).run
        (ServerSocket.acceptInNewThread cls server memory)).2.trace) :
    acceptedNow cls server memory (Process.start kernel errno script) =
      .ok data := by
  have hfirst : ∀ other,
      (Call.startThread other, reply) ∉
        (afterAccept cls server memory
          (Process.start kernel errno script)).trace := by
    intro other hmem
    rw [afterAccept, Process.answer_call _ (by simp [acceptCall])] at hmem
    simp [Process.after, Process.start, acceptCall] at hmem
  rw [run_acceptInNewThread] at h
  cases hdata : acceptedNow cls server memory
      (Process.start kernel errno script) with
  | error e =>
      rw [hdata] at h
      exact absurd h (hfirst data)
  | ok accepted =>
      have hne : Call.startThread accepted ≠ .readErrno := by
        simp
      rw [hdata] at h
      simp only [Process.answer_call _ hne] at h
      rcases List.mem_append.mp h with hbefore | hlast
      · exact absurd hbefore (hfirst data)
      · simp only [List.mem_singleton, Prod.mk.injEq,
          Call.startThread.injEq] at hlast
        rw [hlast.1]

/-- The descriptor of a socket, from its origin. -/
theorem Origin.descriptor_eq
    {cls : AddressClass A} {origin : Origin A}
    {kernel : Kernel} {errno : Int} {script : Nat → Choice}
    {socket : Socket A}
    (h : origin.Gives cls kernel errno script socket) :
    socket.lowLevelSocket = origin.descriptor kernel (script 0) := by
  cases origin with
  | factory made =>
      exact made.descriptor_eq h
  | accept server memory =>
      simp only [Gives, run_accept_eq] at h
      split at h
      · next data hdata =>
          cases h
          exact acceptedNow_lowLevelSocket hdata
      · cases h
  | newThread server memory =>
      obtain ⟨data, reply, hstarted, _, thread, hsocket⟩ := h
      rw [handlerSocket_lowLevelSocket hsocket]
      exact acceptedNow_lowLevelSocket (startThread_acceptedNow hstarted)

end Descriptors

section Law

variable {A : Type}

/-- **`select` stays inside its descriptor sets** exactly when the descriptor of
the socket's origin fits them. -/
theorem select_stays_inside_iff
    (cls : AddressClass A) (origin : Origin A)
    (kernel : Kernel) (errno : Int) (script : Nat → Choice)
    (socket : Socket A)
    (h : origin.Gives cls kernel errno script socket)
    (timeoutMs : Int32) (checkRead checkWrite checkError : Bool)
    (choice : WaitChoice) :
    socket.StaysInside timeoutMs checkRead checkWrite checkError choice ↔
      Socket.FitsSets (origin.descriptor kernel (script 0)) timeoutMs
        checkRead checkWrite checkError choice := by
  rw [← origin.descriptor_eq h]
  exact Socket.staysInside_iff_fitsSets socket timeoutMs checkRead checkWrite
    checkError choice

/-- A kernel in which the descriptors below `n` are open. -/
def crowdedKernel (n : Nat) : Kernel where
  openFds := (Finset.range n).image Int.ofNat
  accepted := 0
  valid := by
    intro fd hfd
    obtain ⟨number, _, rfl⟩ := Finset.mem_image.mp hfd
    exact Int.natCast_nonneg number

theorem crowdedKernel_open_iff
    (n number : Nat) :
    (number : Int) ∈ (crowdedKernel n).openFds ↔ number < n := by
  constructor
  · intro hopen
    obtain ⟨other, hother, heq⟩ := Finset.mem_image.mp hopen
    rw [← Int.ofNat.inj heq]
    exact Finset.mem_range.mp hother
  · intro hlt
    exact Finset.mem_image_of_mem Int.ofNat (Finset.mem_range.mpr hlt)

/-- A loopback client connects, and its socket gets the next descriptor. -/
def nextConnection (n : Nat) (_call : Nat) : Choice :=
  ⟨none, n, InetAddress.loopbackEntry.aiAddr⟩

/-- The `accept` of a loopback server, offered the whole temporary. -/
def loopbackAccept : Origin Address :=
  .accept ⟨3, .inet InetAddress.loopbackAddress⟩ ⟨sizeofSockaddrIn, []⟩

theorem crowdedKernel_freshFd
    (n : Nat) :
    (crowdedKernel n).freshFd n = n := by
  refine if_neg ?_
  rw [crowdedKernel_open_iff]
  exact lt_irrefl n

/-- The connection is accepted, whatever the number of open descriptors. -/
theorem loopbackAccept_gives
    {n : Nat}
    (h : 3 < n) :
    ∃ socket,
      loopbackAccept.Gives
        (Address.libraryClass (InetAddress.resolvingLibc []))
        (crowdedKernel n) 0 (nextConnection n) socket ∧
      socket.lowLevelSocket = n := by
  have hserver : (3 : Int) ∈ (crowdedKernel n).openFds :=
    (crowdedKernel_open_iff n 3).mpr h
  have hpeer :
      (Address.inet InetAddress.loopbackAddress).PeerOf
        InetAddress.loopbackEntry.aiAddr :=
    Or.inl ⟨rfl, rfl, rfl⟩
  have hconnects :
      (crowdedKernel n).acceptOutcome (nextConnection n 0) 3 =
        .connects InetAddress.loopbackEntry.aiAddr := by
    rw [Kernel.acceptOutcome, if_pos hserver]
    rfl
  obtain ⟨created, _, _, _, _, _, hcreated⟩ :=
    Address.create_received (InetAddress.resolvingLibc_ntopSucceeds [])
      hpeer rfl
  refine ⟨⟨(crowdedKernel n).freshFd n, created⟩, ?_,
    crowdedKernel_freshFd n⟩
  have hrun :=
    @Address.run_accept_received (InetAddress.resolvingLibc [])
      (Process.start (crowdedKernel n) 0 (nextConnection n)) 3 _
      ⟨sizeofSockaddrIn, []⟩ _ hpeer (le_refl _) hconnects rfl
  rw [hcreated] at hrun
  exact hrun

theorem select_stays_inside_accepted :
    ∃ socket,
      loopbackAccept.Gives
        (Address.libraryClass (InetAddress.resolvingLibc []))
        (crowdedKernel 4) 0 (nextConnection 4) socket ∧
      socket.StaysInside 500 true false true Socket.quiet := by
  obtain ⟨socket, hgives, _⟩ := loopbackAccept_gives (n := 4) (by omega)
  refine ⟨socket, hgives, ?_⟩
  refine (select_stays_inside_iff _ loopbackAccept (crowdedKernel 4) 0
    (nextConnection 4) socket hgives 500 true false true
    Socket.quiet).mpr (Or.inl ?_)
  rw [loopbackAccept, Origin.descriptor, nextConnection,
    crowdedKernel_freshFd]
  decide

/-- With 1024 descriptors open the accepted socket has no bit in the sets. -/
theorem not_select_stays_inside_crowded :
    ∃ socket,
      loopbackAccept.Gives
        (Address.libraryClass (InetAddress.resolvingLibc []))
        (crowdedKernel 1024) 0 (nextConnection 1024) socket ∧
      ¬ socket.StaysInside 500 true false true Socket.quiet := by
  obtain ⟨socket, hgives, hfd⟩ :=
    loopbackAccept_gives (n := 1024) (by omega)
  refine ⟨socket, hgives, ?_⟩
  rw [Socket.staysInside_iff_fitsSets, hfd]
  decide

end Law

end BsdSockets
