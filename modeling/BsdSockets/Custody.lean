import BsdSockets.AcceptFailure
import BsdSockets.Lib.Pool

/-!
# Custody of descriptors

Every function of the library follows one rule about descriptors: it closes
only what a `Socket` owns, it hands to a new thread only what `accept` has just
returned, and it returns a socket only for the descriptor it has in custody.
`Custody` is what a running call has in custody, `discipline` the rule, and
`Finished` what a call may leave behind.

The functions are shown to follow the rule one by one, each against every reply
of the kernel; nothing is said yet about who else is running.
-/

namespace BsdSockets

open Resumption

variable {A : Type}

/-- A connection that the kernel has accepted: its number, and the descriptor
it got. -/
structure Connection where
  number : Nat
  descriptor : Int
deriving DecidableEq

/-- What a running call has in custody. -/
inductive Custody where
  | nothing
  | accepted (connection : Connection)
  | captured (connection : Connection)
  | adopted (fd : Int)
  | owned (fd : Int)
  | handedOver (connection : Connection)
deriving DecidableEq

namespace Custody

/-- The descriptor in custody. -/
def descriptor : Custody → Option Int
  | nothing => none
  | accepted connection => some connection.descriptor
  | captured connection => some connection.descriptor
  | adopted fd => some fd
  | owned fd => some fd
  | handedOver _ => none

/-- Only a socket's descriptor may be closed, only an accepted one may be given
to a thread, and a new one is asked for with empty hands. -/
def permits (custody : Custody) : Call A → Prop
  | .socket _ _ _ => custody = nothing
  | .accept _ _ _ => custody = nothing
  | .close fd => custody = owned fd
  | .startThread data =>
      ∃ connection, custody = accepted connection ∧
        connection.descriptor = data.lowLevelSocket
  | _ => True

/-- Custody after a call. -/
def next (custody : Custody) (call : Call A) (reply : Reply) : Custody :=
  match call with
  | .socket _ _ _ =>
      if reply.Failed then nothing else owned reply.result
  | .accept _ _ _ =>
      if reply.Failed then nothing
      else accepted ⟨reply.connection, reply.result⟩
  | .close _ => nothing
  | .startThread _ =>
      match custody with
      | accepted connection =>
          if reply.Failed then accepted connection
          else handedOver connection
      | _ => custody
  | _ => custody

end Custody

/-- The rule that the library's functions follow. -/
def discipline (A : Type) : Discipline (Call A) Reply Custody where
  permits := Custody.permits
  possible := fun _ _ => True
  next := Custody.next

/-- How a call may end: with a socket for what it has in custody, or for the
-1 of a `::socket` that failed; without a socket and without a descriptor; or
with an exception, and then at most with an accepted connection. -/
def Finished : Except Abrupt (Option (Socket A)) → Custody → Prop
  | .ok (some socket), custody =>
      (socket.lowLevelSocket = -1 ∧ custody = .nothing) ∨
        custody.descriptor = some socket.lowLevelSocket
  | .ok none, custody => custody.descriptor = none
  | .error _, custody =>
      custody = .nothing ∨ ∃ connection, custody = .accepted connection

/-- The same for a function that returns a socket. -/
def SocketFinished (outcome : Except Abrupt (Socket A)) (custody : Custody) :
    Prop :=
  Finished (outcome.map some) custody

/-- The same for a function that returns nothing. -/
def UnitFinished (A : Type) (outcome : Except Abrupt Unit)
    (custody : Custody) : Prop :=
  Finished (outcome.map (fun _ => (none : Option (Socket A)))) custody

section Openings

/-- Checked calls on one descriptor do not change what is in custody. -/
theorem safe_checkedCalls
    {fd : Int} {calls : List (Call A)}
    (htarget : ∀ call ∈ calls, call.target = some fd)
    (custody : Custody) :
    Safe (discipline A) (fun _ after => after = custody)
      (checkedCalls calls) custody := by
  refine safe_checkedCalls_of_unchanged ?_ ?_ trivial (fun _ => rfl)
  · intro call hmem
    have hcall := htarget call hmem
    cases call <;> trivial
  · intro call hmem reply
    have hcall := htarget call hmem
    cases call <;> first | rfl | cases hcall

/-- Opening ends with a socket for the new descriptor, or with nothing. -/
theorem safe_openWith
    (cls : AddressClass A) (theAddress : A)
    (later : Int → List (Call A))
    (htarget : ∀ fd, ∀ call ∈ later fd, call.target = some fd) :
    Safe (discipline A) SocketFinished (openWith cls theAddress later)
      .nothing := by
  obtain ⟨domain, type, protocol, hfirst⟩ :=
    Socket.socketCall_total cls theAddress
  rw [openWith_eq cls theAddress later hfirst]
  refine ⟨rfl, fun reply _ => ?_⟩
  change Safe _ _ _ (if reply.Failed then Custody.nothing
    else .owned reply.result)
  apply Safe.onThrow
  apply Safe.bind
  by_cases hfailed : reply.Failed
  · have hminus : reply.result = -1 := hfailed
    rw [if_pos hfailed]
    refine Safe.mono ?_ (safe_checkedCalls (htarget reply.result) _)
    rintro (e | _) custody rfl
    · change Safe _ _ (Socket.destructor _ >>= _) _
      rw [hminus]
      exact Or.inl rfl
    · exact Or.inl ⟨hminus, rfl⟩
  · have hne : ¬ (-1 = reply.result) := fun h => hfailed h.symm
    rw [if_neg hfailed]
    refine Safe.mono ?_ (safe_checkedCalls (htarget reply.result) _)
    rintro (e | _) custody rfl
    · change Safe _ _ (Socket.destructor _ >>= _) _
      simp only [Socket.destructor, if_neg hne]
      exact ⟨rfl, fun _ _ => Or.inl rfl⟩
    · exact Or.inr rfl

end Openings

section Adoption

/-- `Socket::create` on a descriptor in custody returns a socket for it. -/
theorem safe_create
    (theAddress : A) {fd : Int} {custody : Custody}
    (hfd : fd ≠ -1)
    (hcustody : custody.descriptor = some fd) :
    Safe (discipline A) SocketFinished (Socket.create theAddress fd)
      custody := by
  have hne : ¬ (-1 = fd) := fun h => hfd h.symm
  simp only [Socket.create, Socket.newExisting, if_neg hne]
  exact Or.inr hcustody

/-- `Socket::create` on -1 throws. -/
theorem safe_create_minus_one
    (theAddress : A) :
    Safe (discipline A) SocketFinished (Socket.create theAddress (-1))
      .nothing :=
  ⟨trivial, fun _ _ => Or.inl rfl⟩

/-- The custody of a socket that is going to be destroyed. -/
def Socket.custody (self : Socket A) : Custody :=
  if self.lowLevelSocket = -1 then .nothing else .owned self.lowLevelSocket

/-- The destructor closes what the socket owns and leaves nothing. -/
theorem safe_destructor
    (socket : Socket A) :
    Safe (discipline A) (UnitFinished A) socket.destructor socket.custody := by
  rw [Socket.destructor, Socket.custody]
  by_cases hminus : socket.lowLevelSocket = -1
  · rw [if_pos hminus.symm, if_pos hminus]
    rfl
  · rw [if_neg (fun h => hminus h.symm), if_neg hminus]
    exact ⟨rfl, fun _ _ => rfl⟩

end Adoption

section Accepting

/-- After `lowLevelAccept`, whatever follows has the accepted connection in
custody. -/
theorem safe_lowLevelAccept_bind
    (cls : AddressClass A) (server : Socket A) (memory : Indeterminate)
    {α : Type} {Q : Except Abrupt α → Custody → Prop}
    (hthrow : ∀ e custody,
      (custody = .nothing ∨ ∃ connection, custody = .accepted connection) →
        Q (.error e) custody)
    (k : AcceptedSocketData A → Program A α)
    (hk : ∀ data connection, connection.descriptor = data.lowLevelSocket →
      data.lowLevelSocket ≠ -1 →
        Safe (discipline A) Q (k data) (.accepted connection)) :
    Safe (discipline A) Q
      (ServerSocket.lowLevelAccept cls server.lowLevelSocket server.address
        memory >>= k) .nothing := by
  simp only [ServerSocket.lowLevelAccept, Prog.perform_bind, Prog.call_bind]
  refine ⟨rfl, fun reply _ => ?_⟩
  change Safe _ _ _ (if reply.Failed then Custody.nothing
    else .accepted ⟨reply.connection, reply.result⟩)
  beta_reduce
  by_cases hfailed : reply.Failed
  · have hminus : -1 = reply.result := hfailed.symm
    rw [if_pos hfailed, if_pos hminus]
    split
    · exact hthrow _ _ (Or.inl rfl)
    · split
      · exact hthrow _ _ (Or.inl rfl)
      · exact ⟨trivial, fun _ _ => hthrow _ _ (Or.inl rfl)⟩
  · have hne : ¬ (-1 = reply.result) := fun h => hfailed h.symm
    rw [if_neg hfailed, if_neg hne]
    split
    · exact hthrow _ _ (Or.inr ⟨_, rfl⟩)
    · split
      · exact hthrow _ _ (Or.inr ⟨_, rfl⟩)
      · cases cls.create server.address _ memory.beyond with
        | error e =>
            exact hthrow _ _ (Or.inr ⟨_, rfl⟩)
        | ok address =>
            exact hk ⟨reply.result, address⟩ _ rfl hfailed

/-- How a call of `accept` ends: it returns a socket for the connection that it
has accepted, or it has thrown and may have kept one. -/
def ConnectionAccepted : Except Abrupt (Socket A) → Custody → Prop
  | .ok socket, custody =>
      ∃ connection, custody = .accepted connection ∧
        socket.lowLevelSocket = connection.descriptor
  | .error _, custody =>
      custody = .nothing ∨ ∃ connection, custody = .accepted connection

theorem safe_accept_connection
    (cls : AddressClass A) (server : Socket A) (memory : Indeterminate) :
    Safe (discipline A) ConnectionAccepted
      (ServerSocket.accept cls server memory) .nothing := by
  refine safe_lowLevelAccept_bind cls server memory (fun _ _ h => h) _ ?_
  intro data connection hsame hfd
  have hne : ¬ (-1 = data.lowLevelSocket) := fun h => hfd h.symm
  simp only [Socket.create, Socket.newExisting, if_neg hne]
  exact ⟨connection, rfl, hsame.symm⟩

theorem safe_accept
    (cls : AddressClass A) (server : Socket A) (memory : Indeterminate) :
    Safe (discipline A) SocketFinished
      (ServerSocket.accept cls server memory) .nothing := by
  refine Safe.mono ?_ (safe_accept_connection cls server memory)
  rintro (e | socket) custody hended
  · exact hended
  · obtain ⟨connection, rfl, hsame⟩ := hended
    exact Or.inr (congrArg some hsame.symm)

/-- How a call of `acceptInNewThread` ends: it has handed a connection over, or
it has thrown and may have kept one. -/
def HandedOver : Except Abrupt Unit → Custody → Prop
  | .ok _, custody => ∃ connection, custody = .handedOver connection
  | .error _, custody =>
      custody = .nothing ∨ ∃ connection, custody = .accepted connection

theorem safe_acceptInNewThread_handedOver
    (cls : AddressClass A) (server : Socket A) (memory : Indeterminate) :
    Safe (discipline A) HandedOver
      (ServerSocket.acceptInNewThread cls server memory) .nothing := by
  refine safe_lowLevelAccept_bind cls server memory (fun _ _ h => h) _ ?_
  intro data connection hsame _
  simp only [Prog.perform_bind]
  refine ⟨⟨connection, rfl, hsame⟩, fun reply _ => ?_⟩
  change Safe _ _ _ (if reply.Failed then Custody.accepted connection
    else .handedOver connection)
  beta_reduce
  by_cases hfailed : reply.Failed
  · have heq : -1 = reply.result := hfailed.symm
    rw [if_pos hfailed, if_pos heq]
    exact Or.inr ⟨connection, rfl⟩
  · have hne : ¬ (-1 = reply.result) := fun h => hfailed h.symm
    rw [if_neg hfailed, if_neg hne]
    exact ⟨connection, rfl⟩

theorem safe_acceptInNewThread
    (cls : AddressClass A) (server : Socket A) (memory : Indeterminate) :
    Safe (discipline A) (UnitFinished A)
      (ServerSocket.acceptInNewThread cls server memory) .nothing := by
  refine Safe.mono ?_ (safe_acceptInNewThread_handedOver cls server memory)
  rintro (e | _) custody hended
  · exact hended
  · obtain ⟨connection, rfl⟩ := hended
    rfl

end Accepting

end BsdSockets
