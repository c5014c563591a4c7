import BsdSockets.Custody

/-!
# The library in every interleaving

A process runs any number of calls of the library at once, in its own threads
and in the handler threads that `acceptInNewThread` starts.  A state has the
running calls, the live sockets with their reference counts, and the handlers
that were started but have not run yet.  A step makes one system call of one
running call, with any choice of the kernel, or begins a call, ends one, runs a
handler, shares or drops a reference, or is somebody else's.

Descriptors are counted: `holders` is the number of live sockets, handlers and
running calls that have a descriptor.  Connections are counted over their whole
life, from the kernel's `accept` to the receiver.

What a call does after undefined behaviour is not followed: it stays where it
is.  A call of `accept` may begin on any socket value, also on one that is not
live, so there are more runs here than programs can have.
-/

namespace BsdSockets

open Resumption

variable {A : Type}

/-- A running call of the library. -/
abbrev Activity (A : Type) :=
  Thread (Call A) Reply Abrupt (Option (Socket A)) Custody

/-- A socket with the number of references to it. -/
structure LiveSocket (A : Type) where
  socket : Socket A
  references : Nat

/-- A handler that was started and has not run yet. -/
structure StartedHandler (A : Type) where
  data : AcceptedSocketData A
  connection : Connection

/-- A connection that got to a receiver: the caller of `accept`, or `toCall`. -/
structure Delivery (A : Type) where
  connection : Connection
  socket : Socket A

/-- The calls that may begin at any time. -/
inductive LibraryCall (A : Type) where
  | factory (factory : Factory A)
  | accept (server : Socket A) (memory : Indeterminate)
  | acceptInNewThread (server : Socket A) (memory : Indeterminate)

structure State (A : Type) where
  kernel : Kernel
  running : Multiset (Activity A)
  sockets : Multiset (LiveSocket A)
  started : Multiset (StartedHandler A)
  returned : Multiset Connection
  delivered : Multiset (Delivery A)

section Counting

/-- One if the custody is of this descriptor. -/
def Custody.on (fd : Int) (custody : Custody) : Nat :=
  if custody.descriptor = some fd then 1 else 0

/-- One if the socket has this descriptor; -1 is none. -/
def Socket.on (fd : Int) (socket : Socket A) : Nat :=
  if socket.lowLevelSocket = fd ∧ fd ≠ -1 then 1 else 0

namespace State

/-- Live sockets on a descriptor. -/
def socketsOn (s : State A) (fd : Int) : Nat :=
  tally (fun live => live.socket.on fd) s.sockets

/-- Started handlers on a descriptor. -/
def handlersOn (s : State A) (fd : Int) : Nat :=
  tally (fun handler => if handler.data.lowLevelSocket = fd then 1 else 0)
    s.started

/-- Running calls that have a descriptor in custody. -/
def callsOn (s : State A) (fd : Int) : Nat :=
  tally (fun activity => activity.holds.on fd) s.running

/-- Everybody who has a descriptor. -/
def holders (s : State A) (fd : Int) : Nat :=
  s.socketsOn fd + s.handlersOn fd + s.callsOn fd

/-- Running calls that have just accepted a connection. -/
def inTransit (s : State A) (c : Connection) : Nat :=
  tally (fun activity => if activity.holds = .accepted c then 1 else 0)
    s.running

/-- Handlers for a connection that have not called `toCall` yet. -/
def waiting (s : State A) (c : Connection) : Nat :=
  tally (fun handler => if handler.connection = c then 1 else 0) s.started +
    tally (fun activity => if activity.holds = .captured c then 1 else 0)
      s.running

/-- Receivers that got a connection. -/
def receivers (s : State A) (c : Connection) : Nat :=
  tally (fun delivery => if delivery.connection = c then 1 else 0) s.delivered

/-- Calls that gave a connection to a thread and have not returned yet. -/
def returning (s : State A) (c : Connection) : Nat :=
  tally (fun activity => if activity.holds = .handedOver c then 1 else 0)
    s.running

/-- Calls that returned normally with a connection. -/
def returns (s : State A) (c : Connection) : Nat :=
  tally (fun other => if other = c then 1 else 0) s.returned

end State

end Counting

section Machine

namespace LibraryCall

/-- `Socket::create` is called with -1 or with the number of an existing socket:
a descriptor that is open and that nobody has. -/
def Allowed (s : State A) : LibraryCall A → Prop
  | factory (.existing _ fd) =>
      fd = -1 ∨ (fd ∈ s.kernel.openFds ∧ s.holders fd = 0)
  | _ => True

/-- What a call has in custody when it begins. -/
def custody : LibraryCall A → Custody
  | factory (.existing _ fd) => if fd = -1 then .nothing else .adopted fd
  | _ => .nothing

/-- The program of a call. -/
def program (cls : AddressClass A) :
    LibraryCall A → Program A (Option (Socket A))
  | factory made => do
      let socket ← made.program cls
      return some socket
  | accept server memory => do
      let socket ← ServerSocket.accept cls server memory
      return some socket
  | acceptInNewThread server memory => do
      ServerSocket.acceptInNewThread cls server memory
      return none

/-- The calls that accept a connection. -/
def Accepts : LibraryCall A → Prop
  | factory _ => False
  | accept _ _ => True
  | acceptInNewThread _ _ => True

end LibraryCall

/-- A started handler up to its call of `toCall`. -/
def StartedHandler.activity (handler : StartedHandler A) : Activity A where
  program := do
    let socket ← ServerSocket.handlerSocket handler.data
    return some socket
  holds := .captured handler.connection

/-- The destructor of a socket whose last reference is gone. -/
def Socket.closing (socket : Socket A) : Activity A where
  program := do
    socket.destructor
    return none
  holds := socket.custody

/-- The thread that a successful `startThread` starts. -/
def startedBy (custody : Custody) (call : Call A) (reply : Reply) :
    Multiset (StartedHandler A) :=
  match call, custody with
  | .startThread data, .accepted connection =>
      if reply.Failed then 0 else {⟨data, connection⟩}
  | _, _ => 0

/-- The socket that a call has returned. -/
def liveOf : Option (Socket A) → Multiset (LiveSocket A)
  | some socket => {⟨socket, 1⟩}
  | none => 0

/-- The connection that a returned socket delivers. -/
def deliveredBy (custody : Custody) :
    Option (Socket A) → Multiset (Delivery A)
  | none => 0
  | some socket =>
      match custody with
      | .accepted connection => {⟨connection, socket⟩}
      | .captured connection => {⟨connection, socket⟩}
      | _ => 0

/-- The connection with which a call of `accept` or `acceptInNewThread` has
returned. -/
def returnedBy (custody : Custody) : Multiset Connection :=
  match custody with
  | .accepted connection => {connection}
  | .handedOver connection => {connection}
  | _ => 0

/-- The steps of a process. -/
inductive Step (cls : AddressClass A) : State A → State A → Prop
  | begins (s : State A) (call : LibraryCall A) (allowed : call.Allowed s) :
      Step cls s
        { s with running := ⟨call.program cls, call.custody⟩ ::ₘ s.running }
  | calls (s : State A) (choice : Choice)
      (call : Call A) (k : Reply → Program A (Option (Socket A)))
      (custody : Custody) (others : Multiset (Activity A))
      (running : s.running = ⟨.call call k, custody⟩ ::ₘ others) :
      Step cls s
        { s with
          kernel := (s.kernel.answer choice call).2
          running :=
            ⟨k (s.kernel.answer choice call).1,
              custody.next call (s.kernel.answer choice call).1⟩ ::ₘ others
          started :=
            startedBy custody call (s.kernel.answer choice call).1 +
              s.started }
  | returns (s : State A) (result : Option (Socket A))
      (custody : Custody) (others : Multiset (Activity A))
      (running : s.running = ⟨.ret result, custody⟩ ::ₘ others) :
      Step cls s
        { s with
          running := others
          sockets := liveOf result + s.sockets
          returned := returnedBy custody + s.returned
          delivered := deliveredBy custody result + s.delivered }
  | throws (s : State A) (e : Exception)
      (custody : Custody) (others : Multiset (Activity A))
      (running : s.running = ⟨.throw (.throws e), custody⟩ ::ₘ others) :
      Step cls s { s with running := others }
  | shares (s : State A) (socket : Socket A) (references : Nat)
      (others : Multiset (LiveSocket A))
      (live : s.sockets = ⟨socket, references⟩ ::ₘ others) :
      Step cls s { s with sockets := ⟨socket, references + 1⟩ ::ₘ others }
  | drops (s : State A) (socket : Socket A) (references : Nat)
      (others : Multiset (LiveSocket A))
      (live : s.sockets = ⟨socket, references + 2⟩ ::ₘ others) :
      Step cls s { s with sockets := ⟨socket, references + 1⟩ ::ₘ others }
  | dropsLast (s : State A) (socket : Socket A)
      (others : Multiset (LiveSocket A))
      (live : s.sockets = ⟨socket, 1⟩ ::ₘ others) :
      Step cls s
        { s with
          running := socket.closing ::ₘ s.running
          sockets := others }
  | handles (s : State A) (handler : StartedHandler A)
      (others : Multiset (StartedHandler A))
      (waiting : s.started = handler ::ₘ others) :
      Step cls s
        { s with
          running := handler.activity ::ₘ s.running
          started := others }
  | opensElsewhere (s : State A) (descriptor : Nat) :
      Step cls s
        { s with
          kernel := s.kernel.openFd _ (s.kernel.freshFd_nonneg descriptor) }
  | closesElsewhere (s : State A) (fd : Int) (unheld : s.holders fd = 0) :
      Step cls s { s with kernel := s.kernel.closeFd fd }

/-- A process that has not used the library yet. -/
def State.initial (kernel : Kernel) : State A where
  kernel := kernel
  running := 0
  sockets := 0
  started := 0
  returned := 0
  delivered := 0

/-- A state that some run reaches. -/
def Reachable (cls : AddressClass A) (kernel : Kernel) (s : State A) : Prop :=
  Relation.ReflTransGen (Step cls) (State.initial kernel) s

end Machine

section KernelEffects

/-- Everything an answer of the kernel can do to the descriptors and to the
number of connections. -/
inductive Kernel.Effect
    (before : Kernel) : Call A → Reply → Kernel → Prop
  | opens (domain type protocol : Int) (reply : Reply) (after : Kernel)
      (ok : ¬ reply.Failed)
      (fresh : reply.result ∉ before.openFds)
      (opened : after.openFds = insert reply.result before.openFds)
      (same : after.accepted = before.accepted) :
      Effect before (.socket domain type protocol) reply after
  | accepts (fd : Int) (buffer : List UInt8) (len : Nat)
      (reply : Reply) (after : Kernel)
      (ok : ¬ reply.Failed)
      (fresh : reply.result ∉ before.openFds)
      (opened : after.openFds = insert reply.result before.openFds)
      (number : reply.connection = before.accepted)
      (next : after.accepted = before.accepted + 1) :
      Effect before (.accept fd buffer len) reply after
  | closes (fd : Int) (reply : Reply) (after : Kernel)
      (closed : after.openFds = before.openFds.erase fd)
      (same : after.accepted = before.accepted) :
      Effect before (.close fd) reply after
  | starts (data : AcceptedSocketData A) (reply : Reply)
      (ok : ¬ reply.Failed) :
      Effect before (.startThread data) reply before
  | keeps (call : Call A) (reply : Reply)
      (custody : ∀ held : Custody, held.permits call →
        held.next call reply = held ∧ startedBy held call reply = 0) :
      Effect before call reply before

/-- A call whose failure changes nothing, or that never changes anything. -/
theorem Kernel.effect_keeps
    (before : Kernel) {call : Call A} {reply : Reply}
    (hclose : ∀ fd, call ≠ .close fd)
    (hopen : (∃ fd, call.target = some fd) ∨ call = .readErrno ∨
      reply.Failed) :
    before.Effect call reply before := by
  refine .keeps call reply ?_
  intro held hpermits
  cases call with
  | socket domain type protocol =>
      rcases hopen with ⟨fd, htarget⟩ | hread | hfailed
      · cases htarget
      · cases hread
      · refine ⟨?_, rfl⟩
        rw [show held = .nothing from hpermits]
        exact if_pos hfailed
  | accept fd buffer len =>
      rcases hopen with ⟨fd, htarget⟩ | hread | hfailed
      · cases htarget
      · cases hread
      · refine ⟨?_, rfl⟩
        rw [show held = .nothing from hpermits]
        exact if_pos hfailed
  | startThread data =>
      rcases hopen with ⟨fd, htarget⟩ | hread | hfailed
      · cases htarget
      · cases hread
      · obtain ⟨connection, rfl, _⟩ := hpermits
        exact ⟨if_pos hfailed, if_pos hfailed⟩
  | close fd =>
      exact absurd rfl (hclose fd)
  | setsockopt fd level name value =>
      exact ⟨rfl, rfl⟩
  | bind fd sockAddr len =>
      exact ⟨rfl, rfl⟩
  | listen fd backlog =>
      exact ⟨rfl, rfl⟩
  | connect fd sockAddr len =>
      exact ⟨rfl, rfl⟩
  | readErrno =>
      exact ⟨rfl, rfl⟩

/-- Every answer has one of these effects. -/
theorem Kernel.answer_effect
    (before : Kernel) (choice : Choice) (call : Call A) :
    before.Effect call (before.answer choice call).1
      (before.answer choice call).2 := by
  cases call with
  | socket domain type protocol =>
      cases herrno : choice.errno with
      | none =>
          obtain ⟨fd, after, hanswer, hnonneg, hfresh, hopened, hsame⟩ :=
            before.answer_socket_succeeded herrno domain type protocol
          rw [hanswer]
          exact .opens domain type protocol _ _
            (Reply.succeeded_not_Failed hnonneg) hfresh hopened hsame
      | some e =>
          rw [before.answer_socket_failed herrno]
          exact before.effect_keeps (by simp) (Or.inr (Or.inr rfl))
  | accept fd buffer len =>
      rcases before.answer_accept_cases choice fd buffer len with
        ⟨e, hanswer⟩ | ⟨peer, hanswer⟩
      · rw [hanswer]
        exact before.effect_keeps (by simp) (Or.inr (Or.inr rfl))
      · rw [hanswer]
        refine .accepts fd buffer len _ _ ?_
          (before.freshFd_not_mem choice.descriptor) rfl rfl rfl
        intro hfailed
        have hnonneg := before.freshFd_nonneg choice.descriptor
        have hminus : before.freshFd choice.descriptor = -1 := hfailed
        omega
  | close fd =>
      exact .closes fd _ _ rfl rfl
  | startThread data =>
      rw [Kernel.answer_startThread_openFds]
      by_cases hfailed : (before.answer choice (.startThread data)).1.Failed
      · exact before.effect_keeps (by simp) (Or.inr (Or.inr hfailed))
      · exact .starts data _ hfailed
  | setsockopt fd level name value =>
      exact before.effect_keeps (by simp) (Or.inl ⟨fd, rfl⟩)
  | bind fd sockAddr len =>
      exact before.effect_keeps (by simp) (Or.inl ⟨fd, rfl⟩)
  | listen fd backlog =>
      exact before.effect_keeps (by simp) (Or.inl ⟨fd, rfl⟩)
  | connect fd sockAddr len =>
      exact before.effect_keeps (by simp) (Or.inl ⟨fd, rfl⟩)
  | readErrno =>
      exact before.effect_keeps (by simp) (Or.inr (Or.inl rfl))

end KernelEffects

section Programs

/-- A call that ends in one way ends the same way when its result is mapped. -/
theorem safe_some
    {program : Program A (Socket A)} {custody : Custody}
    (h : Safe (discipline A) SocketFinished program custody) :
    Safe (discipline A) Finished
      (do
        let socket ← program
        return some socket) custody := by
  apply Safe.bind
  refine Safe.mono ?_ h
  rintro (e | socket) after hfinished
  · exact hfinished
  · exact hfinished

theorem safe_none
    {program : Program A Unit} {custody : Custody}
    (h : Safe (discipline A) (UnitFinished A) program custody) :
    Safe (discipline A) Finished
      (do
        program
        return (none : Option (Socket A))) custody := by
  apply Safe.bind
  refine Safe.mono ?_ h
  rintro (e | _) after hfinished
  · exact hfinished
  · exact hfinished

/-- Every call of the library follows the rule from what it has in custody when
it begins. -/
theorem LibraryCall.safe
    (cls : AddressClass A) (call : LibraryCall A) :
    Safe (discipline A) Finished (call.program cls) call.custody := by
  cases call with
  | factory made =>
      apply safe_some
      cases made with
      | serverCreate theAddress =>
          simp only [Factory.program, ServerSocket.create,
            newFor_eq_openWith]
          exact safe_openWith cls theAddress _ (by simp)
      | serverOpen theAddress backlog reuse =>
          simp only [Factory.program, server_open_eq_openWith]
          exact safe_openWith cls theAddress _
            (fun fd =>
              Factory.openSteps_target cls theAddress backlog reuse fd)
      | clientCreate theAddress =>
          simp only [Factory.program, ClientSocket.create,
            newFor_eq_openWith]
          exact safe_openWith cls theAddress _ (by simp)
      | clientOpen theAddress =>
          simp only [Factory.program, client_open_eq_openWith]
          exact safe_openWith cls theAddress _
            (by simp [ClientSocket.openSteps, Call.target])
      | existing theAddress fd =>
          simp only [Factory.program, LibraryCall.custody]
          by_cases hminus : fd = -1
          · rw [if_pos hminus, hminus]
            exact safe_create_minus_one theAddress
          · rw [if_neg hminus]
            exact safe_create theAddress hminus rfl
  | accept server memory =>
      exact safe_some (safe_accept cls server memory)
  | acceptInNewThread server memory =>
      exact safe_none (safe_acceptInNewThread cls server memory)

/-- A call that accepts returns normally only with a connection. -/
theorem LibraryCall.returns_connection
    (cls : AddressClass A) {call : LibraryCall A} (haccepts : call.Accepts) :
    Safe (discipline A)
      (fun outcome custody => ∀ result, outcome = .ok result →
        ∃ connection, returnedBy custody = {connection})
      (call.program cls) call.custody := by
  cases call with
  | factory made => cases haccepts
  | accept server memory =>
      apply Safe.bind
      refine Safe.mono ?_ (safe_accept_connection cls server memory)
      rintro (e | socket) custody hended
      · rintro result ⟨⟩
      · obtain ⟨connection, rfl, _⟩ := hended
        intro result _
        exact ⟨connection, rfl⟩
  | acceptInNewThread server memory =>
      apply Safe.bind
      refine Safe.mono ?_ (safe_acceptInNewThread_handedOver cls server memory)
      rintro (e | _) custody hended
      · rintro result ⟨⟩
      · obtain ⟨connection, rfl⟩ := hended
        intro result _
        exact ⟨connection, rfl⟩

theorem StartedHandler.safe
    {handler : StartedHandler A}
    (hmatching : handler.data.lowLevelSocket = handler.connection.descriptor)
    (hopen : handler.data.lowLevelSocket ≠ -1) :
    Safe (discipline A) Finished handler.activity.program
      handler.activity.holds :=
  safe_some
    (safe_create handler.data.address hopen (congrArg some hmatching.symm))

theorem Socket.closing_safe
    (socket : Socket A) :
    Safe (discipline A) Finished socket.closing.program
      socket.closing.holds :=
  safe_none (safe_destructor socket)

end Programs

end BsdSockets
