import BsdSockets.EchoRuns
import BsdSockets.Isolation

/-!
# What a server accepts, and why it stops

A server deals with one connection after the other: it starts a handler for the
connection that it has accepted before it accepts the next one.  What makes it
stop is seen from its log.  A client cannot stop an `EchoServer` by what it
says, and a `CommandServer` only by way of the flag.
-/

namespace BsdSockets

open Resumption

variable {A : Type}

section Deliveries

/-- The descriptors of the connections that were accepted, in order. -/
def acceptedDescriptors (log : List (ServerCall A × ServerReply)) : List Int :=
  log.filterMap
    (fun entry =>
      match entry.1 with
      | .library (.accept _ _ _) =>
          if entry.2.library.Failed then none
          else some entry.2.library.result
      | _ => none)

/-- The descriptor with which a handler is at a label. -/
def HandlerLabel.descriptor : HandlerLabel A → Int
  | .closure data _ => data.lowLevelSocket
  | .operator socket => socket.lowLevelSocket
  | .release socket => socket.lowLevelSocket

/-- The descriptors of the connections that have got a handler, in order. -/
def servedDescriptors (log : List (ServerCall A × ServerReply)) : List Int :=
  (startedHandlers log).map HandlerLabel.descriptor

variable {log : List (ServerCall A × ServerReply)}
variable {call : ServerCall A} {reply : ServerReply}

/-- The call neither accepts a connection nor starts a handler. -/
def ServerCall.Aside : ServerCall A → Prop
  | .library (.accept _ _ _) => False
  | .startThread _ _ => False
  | _ => True

theorem acceptedDescriptors_snoc
    (log : List (ServerCall A × ServerReply))
    (call : ServerCall A) (reply : ServerReply) :
    acceptedDescriptors (log ++ [(call, reply)]) =
      acceptedDescriptors log ++ acceptedDescriptors [(call, reply)] :=
  List.filterMap_append

theorem servedDescriptors_snoc
    (log : List (ServerCall A × ServerReply))
    (call : ServerCall A) (reply : ServerReply) :
    servedDescriptors (log ++ [(call, reply)]) =
      servedDescriptors log ++ servedDescriptors [(call, reply)] := by
  simp only [servedDescriptors, startedHandlers, List.filterMap_append,
    List.map_append]

theorem acceptedDescriptors_aside
    (log : List (ServerCall A × ServerReply)) (h : call.Aside) :
    acceptedDescriptors (log ++ [(call, reply)]) =
      acceptedDescriptors log := by
  rw [acceptedDescriptors_snoc]
  cases call with
  | library called =>
      cases called with
      | accept => cases h
      | socket => exact List.append_nil _
      | setsockopt => exact List.append_nil _
      | bind => exact List.append_nil _
      | listen => exact List.append_nil _
      | connect => exact List.append_nil _
      | close => exact List.append_nil _
      | readErrno => exact List.append_nil _
      | startThread => exact List.append_nil _
  | startThread => cases h
  | wait => exact List.append_nil _
  | transfer => exact List.append_nil _
  | join => exact List.append_nil _
  | load => exact List.append_nil _
  | store => exact List.append_nil _
  | frame => exact List.append_nil _
  | destroy => exact List.append_nil _

theorem servedDescriptors_aside
    (log : List (ServerCall A × ServerReply)) (h : call.Aside) :
    servedDescriptors (log ++ [(call, reply)]) = servedDescriptors log := by
  rw [servedDescriptors_snoc]
  cases call with
  | startThread => cases h
  | library => exact List.append_nil _
  | wait => exact List.append_nil _
  | transfer => exact List.append_nil _
  | join => exact List.append_nil _
  | load => exact List.append_nil _
  | store => exact List.append_nil _
  | frame => exact List.append_nil _
  | destroy => exact List.append_nil _

theorem acceptedDescriptors_accept
    (log : List (ServerCall A × ServerReply))
    (fd : Int) (buffer : List UInt8) (len : Nat) (reply : ServerReply) :
    acceptedDescriptors (log ++ [(.library (.accept fd buffer len), reply)]) =
      if reply.library.Failed then acceptedDescriptors log
      else acceptedDescriptors log ++ [reply.library.result] := by
  rw [acceptedDescriptors_snoc]
  split
  · next hfailed =>
      simp [acceptedDescriptors, hfailed]
  · next hok =>
      simp [acceptedDescriptors, hok]

theorem servedDescriptors_startThread
    (log : List (ServerCall A × ServerReply))
    (data : AcceptedSocketData A) (id : Int32) (reply : ServerReply) :
    servedDescriptors (log ++ [(.startThread data id, reply)]) =
      if reply.library.Failed then servedDescriptors log
      else servedDescriptors log ++ [data.lowLevelSocket] := by
  rw [servedDescriptors_snoc]
  split
  · next hfailed =>
      simp [servedDescriptors, startedHandlers, startedHandler, hfailed]
  · next hok =>
      simp [servedDescriptors, startedHandlers, startedHandler, hok,
        HandlerLabel.descriptor]

/-- Accepted are the connections that have got a handler, and the one that the
server has in custody. -/
def Duty.InOrder
    (log : List (ServerCall A × ServerReply)) (duty : Duty) : Prop :=
  acceptedDescriptors log =
    servedDescriptors log ++ duty.custody.descriptor.toList

theorem Duty.inOrder_step
    {flagged : Bool}
    (log : List (ServerCall A × ServerReply)) (duty : Duty)
    (call : ServerCall A) (reply : ServerReply)
    (h : Duty.InOrder log duty) (hpermits : duty.permits flagged call) :
    Duty.InOrder (log ++ [(call, reply)]) (duty.next call reply) := by
  have haside : call.Aside →
      (duty.next call reply).custody = duty.custody →
        Duty.InOrder (log ++ [(call, reply)]) (duty.next call reply) := by
    intro haside hkept
    rw [Duty.InOrder, acceptedDescriptors_aside log haside,
      servedDescriptors_aside log haside, hkept]
    exact h
  cases call with
  | library called =>
      cases called with
      | accept fd buffer len =>
          have hnothing : duty.custody = .nothing := hpermits.1
          rw [Duty.InOrder, hnothing] at h
          rw [Duty.InOrder, acceptedDescriptors_accept, h]
          change _ = servedDescriptors (log ++ [_]) ++
            (if reply.library.Failed then Custody.nothing
              else .accepted
                ⟨reply.library.connection, reply.library.result⟩).descriptor.toList
          rw [servedDescriptors_snoc]
          split <;> simp [Custody.descriptor, servedDescriptors,
            startedHandlers, startedHandler]
      | socket => exact haside trivial rfl
      | setsockopt => exact haside trivial rfl
      | bind => exact haside trivial rfl
      | listen => exact haside trivial rfl
      | connect => exact haside trivial rfl
      | close => exact haside trivial rfl
      | readErrno => exact haside trivial rfl
      | startThread => exact haside trivial rfl
  | startThread data id =>
      obtain ⟨_, _, _, connection, hcustody, hsame⟩ := hpermits
      rw [Duty.InOrder, hcustody] at h
      rw [Duty.InOrder, servedDescriptors_startThread, acceptedDescriptors_snoc,
        h]
      by_cases hfailed : reply.library.Failed
      · have hnext : duty.next (.startThread data id) reply = duty :=
          if_pos hfailed
        rw [hnext, hcustody, if_pos hfailed]
        exact List.append_nil _
      · have hnext : (duty.next (.startThread data id) reply).custody =
            .nothing := by
          simp only [Duty.next, if_neg hfailed]
        rw [hnext, if_neg hfailed, ← hsame]
        simp [Custody.descriptor, acceptedDescriptors]
  | wait => exact haside trivial rfl
  | transfer => exact haside trivial rfl
  | join => exact haside trivial rfl
  | load => exact haside trivial rfl
  | store => exact haside trivial rfl
  | frame => exact haside trivial rfl
  | destroy => exact haside trivial rfl

/-- One handler for each connection, in the order in which they came, but for
the last one perhaps. -/
theorem deliveries_in_order
    {flagged : Bool}
    (h : (duties A flagged).Follows .initial log) :
    ∃ unserved, acceptedDescriptors log = servedDescriptors log ++ unserved ∧
      unserved.length ≤ 1 := by
  have hbegin :
      Duty.InOrder ([] : List (ServerCall A × ServerReply)) .initial := by
    rfl
  have hinOrder : Duty.InOrder log ((duties A flagged).after .initial log) :=
    h.law Duty.InOrder
      (fun log duty call reply => Duty.inOrder_step log duty call reply) hbegin
  refine ⟨_, hinOrder, ?_⟩
  cases ((duties A flagged).after .initial log).custody.descriptor with
  | none => exact Nat.zero_le _
  | some fd => exact Nat.le_refl _

end Deliveries

section Grounds

variable (log : List (ServerCall A × ServerReply))

/-- Every connection that was accepted has got a handler. -/
def Settled : Prop :=
  acceptedDescriptors log = servedDescriptors log

/-- `::accept` failed, or the connection that was accepted last has got no
handler. -/
def Faltered : Prop :=
  (∃ fd buffer len reply,
    (ServerCall.library (.accept fd buffer len), reply) ∈ log ∧
      reply.library.Failed) ∨
    ∃ fd, acceptedDescriptors log = servedDescriptors log ++ [fd]

/-- `::socket` gave this descriptor. -/
def Obtained (fd : Int) : Prop :=
  ∃ domain type protocol reply,
    (ServerCall.library (.socket domain type protocol), reply) ∈ log ∧
      reply.library.result = fd

/-- What makes a server stop; only one with a flag waits. -/
def Grounds (flagged : Bool) : Prop :=
  Faltered log ∨
    (flagged = true ∧ (SawFlag log ∨ ∃ fd, Obtained log fd ∧ Alarmed fd log))

variable {log} {flagged : Bool}

theorem Obtained.mono
    {after : List (ServerCall A × ServerReply)} {fd : Int}
    (h : Obtained log fd) (hbegins : log <+: after) :
    Obtained after fd := by
  obtain ⟨domain, type, protocol, reply, hmem, hresult⟩ := h
  exact ⟨domain, type, protocol, reply, hbegins.subset hmem, hresult⟩

theorem Settled.aside
    {call : ServerCall A} {reply : ServerReply}
    (haside : call.Aside) (h : Settled log) :
    Settled (log ++ [(call, reply)]) := by
  rw [Settled, acceptedDescriptors_aside log haside,
    servedDescriptors_aside log haside]
  exact h

theorem Faltered.aside
    {call : ServerCall A} {reply : ServerReply}
    (haside : call.Aside) (h : Faltered log) :
    Faltered (log ++ [(call, reply)]) := by
  rcases h with ⟨fd, buffer, len, reply', hmem, hfailed⟩ | ⟨fd, hlast⟩
  · exact Or.inl ⟨fd, buffer, len, reply', List.mem_append_left _ hmem,
      hfailed⟩
  · refine Or.inr ⟨fd, ?_⟩
    rw [acceptedDescriptors_aside log haside,
      servedDescriptors_aside log haside]
    exact hlast

theorem Grounds.aside
    {call : ServerCall A} {reply : ServerReply}
    (haside : call.Aside) (h : Grounds log flagged) :
    Grounds (log ++ [(call, reply)]) flagged := by
  rcases h with hfaltered | ⟨hflagged, ⟨reply', hmem, hset⟩ |
    ⟨fd, hobtained, called, reply', hmem, halarm⟩⟩
  · exact Or.inl (hfaltered.aside haside)
  · exact Or.inr ⟨hflagged, Or.inl ⟨reply', List.mem_append_left _ hmem, hset⟩⟩
  · exact Or.inr ⟨hflagged, Or.inr ⟨fd,
      hobtained.mono (List.prefix_append log _), called, reply',
      List.mem_append_left _ hmem, halarm⟩⟩

/-- A server joins its handlers, and is destroyed, only with grounds. -/
def stopping (A : Type) (flagged : Bool) :
    Discipline (ServerCall A) ServerReply (List (ServerCall A × ServerReply)) :=
  Discipline.recording
    (fun log call =>
      match call with
      | .join _ => Grounds log flagged
      | .destroy => Grounds log flagged
      | _ => True)
    (fun _ _ => True)

/-- A server in its loop. -/
structure Going (socket : Socket A) (log : List (ServerCall A × ServerReply)) :
    Prop where
  obtained : Obtained log socket.lowLevelSocket
  settled : Settled log

theorem Going.aside
    {socket : Socket A} {call : ServerCall A} {reply : ServerReply}
    (haside : call.Aside) (h : Going socket log) :
    Going socket (log ++ [(call, reply)]) :=
  ⟨h.obtained.mono (List.prefix_append log _), h.settled.aside haside⟩

def stoppingContract (A : Type) (flagged : Bool) :
    Contract Abrupt (ServerLabel A) (List (ServerCall A × ServerReply)) where
  enters
    | .construct _, log => log = []
    | .operator socket _, log => Going socket log
    | .join _ _ _, log => Grounds log flagged
    | .destruct _, log => Grounds log flagged
  ends _ := True
  breaks _ _ := True

/-- How a round of the loop ends. -/
def RoundStopped (flagged : Bool) (socket : Socket A) :
    Except Abrupt (Bool × Nat) → List (ServerCall A × ServerReply) → Prop
  | .ok (true, _), log => Grounds log flagged
  | .ok (false, _), log => Going socket log
  | .error (.throws _), log => Grounds log flagged
  | .error .undefined, _ => True

/-- The rule for servers. -/
theorem stoppingBlock_sound
    {new : A → ServerProgram A (Socket A)}
    {round : Socket A → Nat → ServerProgram A (Bool × Nat)}
    (hnew : ∀ address, Safe (stopping A flagged)
      (fun outcome log => ∀ socket, outcome = .ok socket → Going socket log)
      (new address) [])
    (hround : ∀ socket accepted log, Going socket log →
      Safe (stopping A flagged) (RoundStopped flagged socket)
        (round socket accepted) log) :
    (stoppingContract A flagged).Sound (stopping A flagged)
      (serverBlock new round) := by
  intro label log henters
  cases label with
  | construct address =>
      have hlog : log = [] := henters
      rw [hlog]
      apply Safe.bind
      refine Safe.mono ?_ (hnew address)
      rintro (e | socket) after hgoing
      · exact trivial
      · exact hgoing socket rfl
  | operator socket accepted =>
      apply Safe.catching
      apply Safe.bind
      refine Safe.mono ?_ (hround socket accepted log henters)
      rintro (e | ⟨done, accepted'⟩) after hstopped
      · cases e with
        | throws e => exact hstopped
        | undefined => exact trivial
      · cases done with
        | true => exact hstopped
        | false => exact hstopped
  | join socket accepted joined =>
      rw [serverBlock]
      split
      · exact ⟨henters, fun _ _ => Grounds.aside trivial henters⟩
      · exact henters
  | destruct socket =>
      refine ⟨henters, ?_⟩
      intro reply _
      change Safe _ _ (library socket.destructor >>= fun _ => _) _
      by_cases hminus : socket.lowLevelSocket = -1
      · have hdestructor :
            (library socket.destructor : ServerProgram A Unit) = .ret () := by
          rw [library, Socket.destructor, if_pos hminus.symm]
          rfl
        rw [hdestructor]
        exact trivial
      · rw [library_destructor_eq hminus]
        exact ⟨trivial, fun _ _ => trivial⟩

end Grounds

section Opening

/-- The calls of opening a server, with the result of its `::socket`. -/
def openingResult (A : Type) : Discipline (Call A) Reply (Option Int) where
  permits _ call := OpeningCall call
  possible _ _ := True
  next result call reply :=
    match call with
    | .socket _ _ _ => some reply.result
    | _ => result

/-- A server has the socket that `::socket` gave. -/
theorem safe_open_result
    (cls : AddressClass A) (address : A) :
    Safe (openingResult A)
      (fun outcome result => ∀ socket, outcome = .ok socket →
        result = some socket.lowLevelSocket)
      (ServerSocket.open cls address 128 false) none := by
  obtain ⟨domain, type, protocol, hfirst⟩ :=
    Socket.socketCall_total cls address
  rw [server_open_eq_openWith, openWith_eq cls address _ hfirst]
  refine ⟨trivial, ?_⟩
  intro reply _
  have hcalls :
      Safe (openingResult A) (fun _ after => after = some reply.result)
        (checkedCalls
          (ServerSocket.openSteps cls address 128 false reply.result))
        (some reply.result) :=
    safe_checkedCalls_of_unchanged
      (by simp [ServerSocket.openSteps, openingResult, OpeningCall])
      (by simp [ServerSocket.openSteps, openingResult])
      trivial (fun _ => rfl)
  apply Safe.onThrow
  apply Safe.bind
  refine Safe.mono ?_ hcalls
  rintro (e | _) after rfl
  · simp only [Socket.destructor]
    split
    · rintro socket ⟨⟩
    · refine ⟨trivial, ?_⟩
      rintro _ _ socket ⟨⟩
  · rintro socket ⟨⟩
    rfl

/-- A server that is being opened has accepted nothing. -/
def OpeningLog (log : List (ServerCall A × ServerReply))
    (result : Option Int) : Prop :=
  Settled log ∧ ∀ fd, result = some fd → Obtained log fd

theorem opening_stopping
    {flagged : Bool} :
    (stopping A flagged).Simulates (openingResult A) .library
      (fun _ reply => reply.library) OpeningLog where
  permits := fun _ _ _ _ _ => trivial
  possible := fun _ _ _ => trivial
  next := by
    rintro log result call reply ⟨hsettled, hresult⟩ hallowed _
    have hkept : ∀ fd, result = some fd →
        Obtained (log ++ [(.library call, reply)]) fd :=
      fun fd hfd => (hresult fd hfd).mono (List.prefix_append log _)
    cases call with
    | socket domain type protocol =>
        refine ⟨hsettled.aside trivial, ?_⟩
        rintro fd ⟨⟩
        exact ⟨domain, type, protocol, reply,
          List.mem_append_right log (List.mem_singleton_self _), rfl⟩
    | setsockopt => exact ⟨hsettled.aside trivial, hkept⟩
    | bind => exact ⟨hsettled.aside trivial, hkept⟩
    | listen => exact ⟨hsettled.aside trivial, hkept⟩
    | close => exact ⟨hsettled.aside trivial, hkept⟩
    | readErrno => exact ⟨hsettled.aside trivial, hkept⟩
    | connect => cases hallowed
    | accept => cases hallowed
    | startThread => cases hallowed

theorem going_of_open
    {flagged : Bool} (cls : AddressClass A) (address : A) :
    Safe (stopping A flagged)
      (fun outcome log => ∀ socket, outcome = .ok socket → Going socket log)
      (library (ServerSocket.open cls address 128 false)) [] := by
  refine Safe.translate opening_stopping ?_ ⟨rfl, ?_⟩
    (safe_open_result cls address)
  · rintro outcome result log ⟨hsettled, hobtained⟩ hresult socket hsocket
    exact ⟨hobtained _ (hresult socket hsocket), hsettled⟩
  · rintro fd ⟨⟩

end Opening

section Rounds

variable {flagged : Bool} {log : List (ServerCall A × ServerReply)}

/-- How accepting into a new thread ends. -/
def AcceptingStopped {α : Type} :
    Except Abrupt α → List (ServerCall A × ServerReply) → Prop
  | .ok _, log => Settled log
  | .error (.throws _), log => Faltered log
  | .error .undefined, _ => True

/-- Starting a handler for the connection that was just accepted. -/
theorem safe_startThread_stopped
    {data : AcceptedSocketData A} {id : Int32}
    (hlast : acceptedDescriptors log =
      servedDescriptors log ++ [data.lowLevelSocket]) :
    Safe (stopping A flagged) AcceptingStopped
      (libraryWithClosure id
        (.call (.startThread data) (fun reply =>
          if -1 = reply.result then
            .throw (.throws (.systemError reply.errno ""))
          else .ret ()))) log := by
  refine ⟨trivial, ?_⟩
  intro reply _
  change Safe _ _ _ (log ++ [(.startThread data id, reply)])
  have haccepted :
      acceptedDescriptors (log ++ [(.startThread data id, reply)]) =
        servedDescriptors log ++ [data.lowLevelSocket] := by
    rw [acceptedDescriptors_snoc, hlast]
    exact List.append_nil _
  have hserved := servedDescriptors_startThread log data id reply
  beta_reduce
  by_cases hfailed : reply.library.Failed
  · have hminus : -1 = reply.library.result := hfailed.symm
    rw [if_pos hminus]
    rw [if_pos hfailed] at hserved
    refine Or.inr ⟨data.lowLevelSocket, ?_⟩
    rw [haccepted, hserved]
  · have hne : ¬ (-1 = reply.library.result) := fun h => hfailed h.symm
    rw [if_neg hne]
    rw [if_neg hfailed] at hserved
    exact haccepted.trans hserved.symm

/-- The connection that was just accepted has got no handler yet. -/
theorem unserved_of_accept
    (hsettled : Settled log)
    (fd : Int) (buffer : List UInt8) (len : Nat) {reply : ServerReply}
    (hok : ¬ reply.library.Failed) :
    acceptedDescriptors
        (log ++ [(.library (.accept fd buffer len), reply)]) =
      servedDescriptors
          (log ++ [(.library (.accept fd buffer len), reply)]) ++
        [reply.library.result] := by
  have hserved : servedDescriptors
      (log ++ [(.library (.accept fd buffer len), reply)]) =
        servedDescriptors log := by
    rw [servedDescriptors_snoc]
    exact List.append_nil _
  rw [acceptedDescriptors_accept, if_neg hok, hserved, hsettled]

theorem faltered_of_accept
    (hsettled : Settled log)
    (fd : Int) (buffer : List UInt8) (len : Nat) (reply : ServerReply) :
    Faltered (log ++ [(.library (.accept fd buffer len), reply)]) := by
  by_cases hfailed : reply.library.Failed
  · exact Or.inl ⟨fd, buffer, len, reply,
      List.mem_append_right log (List.mem_singleton_self _), hfailed⟩
  · exact Or.inr ⟨_, unserved_of_accept hsettled fd buffer len hfailed⟩

/-- Where `acceptInNewThread` throws, `::accept` failed or its connection has
got no handler. -/
theorem safe_acceptInNewThread_stopped
    (cls : AddressClass A) (server : Socket A) (memory : Indeterminate)
    (id : Int32) (hsettled : Settled log) :
    Safe (stopping A flagged) AcceptingStopped
      (libraryWithClosure id
        (ServerSocket.acceptInNewThread cls server memory)) log := by
  simp only [libraryWithClosure, ServerSocket.acceptInNewThread,
    ServerSocket.lowLevelAccept, Prog.perform_bind, Prog.call_bind,
    Prog.translate_call]
  refine ⟨trivial, ?_⟩
  intro reply _
  have hfaltered := faltered_of_accept hsettled server.lowLevelSocket
    (cls.makeTempLowLevelAddress server.address).getSockAddr memory.len reply
  beta_reduce
  split
  · exact trivial
  · split
    · exact hfaltered
    · split
      · exact ⟨trivial, fun _ _ => hfaltered.aside trivial⟩
      · next hok =>
          cases cls.create server.address _ memory.beyond with
          | error e =>
              cases e with
              | throws e => exact hfaltered
              | undefined => exact trivial
          | ok address =>
              exact safe_startThread_stopped
                (unserved_of_accept hsettled _ _ _ (fun h => hok h.symm))

theorem safe_acceptCurrent_stopped
    (cls : AddressClass A) {socket : Socket A} {accepted : Nat}
    (h : Going socket log) :
    Safe (stopping A flagged)
      (fun outcome after =>
        match outcome with
        | .ok _ => Going socket after
        | .error (.throws _) => Faltered after
        | .error .undefined => True)
      (acceptCurrent cls socket accepted) log := by
  have hframe : ∀ reply : ServerReply,
      Settled (log ++ [(.frame, reply)]) :=
    fun _ => h.settled.aside trivial
  refine ⟨trivial, ?_⟩
  intro reply _
  change Safe (stopping A flagged) _
    (libraryWithClosure (nextId accepted)
        (ServerSocket.acceptInNewThread cls socket reply.frame) >>=
      fun _ => _)
    (log ++ [(.frame, reply)])
  apply Safe.bind
  refine Safe.mono ?_
    (safe_acceptInNewThread_stopped cls socket reply.frame _
      (hframe reply)).extends
  rintro (e | _) after ⟨hbegins, hstopped⟩
  · cases e with
    | throws e => exact hstopped
    | undefined => exact trivial
  · exact ⟨h.obtained.mono ((List.prefix_append log _).trans hbegins),
      hstopped⟩

theorem EchoServer.block_stopping
    (cls : AddressClass A) :
    (stoppingContract A false).Sound (stopping A false)
      (EchoServer.block cls) := by
  refine stoppingBlock_sound (fun address => going_of_open cls address) ?_
  intro socket accepted log h
  apply Safe.bind
  refine Safe.mono ?_ (safe_acceptCurrent_stopped cls h)
  rintro (e | accepted') after hstopped
  · cases e with
    | throws e => exact Or.inl hstopped
    | undefined => exact trivial
  · exact hstopped

/-- A look at the flag. -/
theorem safe_load_stopped
    {α : Type} {Q : Except Abrupt α → List (ServerCall A × ServerReply) → Prop}
    {k : Bool → ServerProgram A α} {socket : Socket A}
    (h : Going socket log)
    (hset : ∀ after, Grounds after true → Safe (stopping A true) Q (k true) after)
    (hclear : ∀ after, Going socket after →
      Safe (stopping A true) Q (k false) after) :
    Safe (stopping A true) Q (load >>= k) log := by
  refine ⟨trivial, ?_⟩
  intro reply _
  change Safe _ Q (k reply.flag) (log ++ [(.load, reply)])
  cases hflag : reply.flag with
  | true =>
      exact hset _ (Or.inr ⟨rfl, Or.inl ⟨reply,
        List.mem_append_right log (List.mem_singleton_self _), hflag⟩⟩)
  | false =>
      exact hclear _ (h.aside trivial)

theorem CommandServer.safe_acceptOne_stopped
    (cls : AddressClass A) {socket : Socket A} {accepted : Nat}
    (h : Going socket log) :
    Safe (stopping A true) (RoundStopped true socket)
      (CommandServer.acceptOne cls socket accepted) log := by
  rw [CommandServer.acceptOne]
  by_cases hselectable : Selectable socket.lowLevelSocket
  · obtain ⟨index, hindex, hval⟩ := fdIndex_selectable hselectable
    rw [waiting_select_eq socket hselectable hindex]
    refine ⟨trivial, ?_⟩
    intro reply _
    change Safe _ _ _ (log ++ [(.wait _, reply)])
    generalize hwait : ServerCall.wait _ = call
    have hgoing : Going socket (log ++ [(call, reply)]) := by
      rw [← hwait]
      exact h.aside trivial
    have halarm : reply.wait.Alarming socket.lowLevelSocket →
        Grounds (log ++ [(call, reply)]) true := by
      intro halarming
      rw [← hwait] at hgoing ⊢
      exact Or.inr ⟨rfl, Or.inr ⟨_, hgoing.obtained, _, reply,
        List.mem_append_right log (List.mem_singleton_self _), halarming⟩⟩
    simp only [selectResult_eq hindex]
    by_cases hfailed : reply.wait.result = -1
    · rw [if_pos hfailed]
      exact halarm (Or.inl hfailed)
    · rw [if_neg hfailed]
      by_cases herror : index ∈ reply.wait.error
      · have hgrounds := halarm (Or.inr ⟨index, herror, hval⟩)
        refine ⟨trivial, ?_⟩
        intro reply' _
        have hafter :
            Grounds (log ++ [(call, reply)] ++ [(.load, reply')]) true :=
          hgrounds.aside trivial
        change Safe _ _
          (if reply'.flag = true then .ret (true, accepted)
            else if decide (index ∈ reply.wait.error) = true then
              .ret (true, accepted)
            else _) _
        rw [if_pos (decide_eq_true herror)]
        split
        · exact hafter
        · exact hafter
      · refine safe_load_stopped hgoing (fun _ hgrounds => hgrounds) ?_
        intro after hgoing
        change Safe _ _
          (if decide (index ∈ reply.wait.error) = true then
              .ret (true, accepted)
            else if decide (index ∈ reply.wait.read) = true then
              acceptCurrent cls socket accepted >>= fun accepted' =>
                .ret (false, accepted')
            else .ret (false, accepted)) _
        have hcalm : ¬ decide (index ∈ reply.wait.error) = true := by
          rwa [decide_eq_true_eq]
        rw [if_neg hcalm]
        split
        · apply Safe.bind
          refine Safe.mono ?_ (safe_acceptCurrent_stopped cls hgoing)
          rintro (e | accepted') later hstopped
          · cases e with
            | throws e => exact Or.inl hstopped
            | undefined => exact trivial
          · exact hstopped
        · exact hgoing
  · rw [waiting_select_outside hselectable]
    exact trivial

theorem CommandServer.block_stopping
    (cls : AddressClass A) :
    (stoppingContract A true).Sound (stopping A true)
      (CommandServer.block cls) := by
  refine stoppingBlock_sound ?_ ?_
  · intro address
    apply Safe.bind
    refine Safe.mono ?_ (going_of_open cls address)
    rintro (e | serverSocket) log hgoing
    · rintro socket ⟨⟩
    · refine ⟨trivial, ?_⟩
      rintro reply _ socket ⟨⟩
      exact (hgoing serverSocket rfl).aside trivial
  · intro socket accepted log h
    refine safe_load_stopped h ?_ ?_
    · intro after hgrounds
      exact hgrounds
    · intro after hgoing
      exact CommandServer.safe_acceptOne_stopped cls hgoing

end Rounds

section Runs

variable {conduct : Conduct} {messages : List CppString}
variable {breaks : Abrupt → Speaker → Prop}
variable {main : ServerLabel A → ServerProgram A (Option (ServerLabel A))}
variable {worker : HandlerLabel A → ServerProgram A (Option (HandlerLabel A))}
variable {s : ServerConfig A}

/-- A conversation is over one descriptor. -/
theorem fd_of_transfer
    {fd : Int} {log : List (ServerCall A × ServerReply)}
    (h : (conversation A conduct).Follows ⟨fd, .opening messages⟩ log)
    {call : TransferCall} {reply : ServerReply}
    (hmem : (ServerCall.transfer call, reply) ∈ log) :
    call.fd = fd := by
  obtain ⟨before, later, _, hbefore, hpermits⟩ := h.permits_of_mem hmem
  have hfd := (Speaker.law_after hbefore).1
  cases call with
  | send own buffer flags => exact hpermits.1.trans hfd
  | read own length => exact hpermits.1.trans hfd
  | recv => cases hpermits

/-- Handler and connection have the same number. -/
theorem accepted_of_started
    {flagged : Bool} {log : List (ServerCall A × ServerReply)}
    (h : (duties A flagged).Follows .initial log)
    {number : Nat} {data : AcceptedSocketData A} {id : Int32}
    (hlabel : (startedHandlers log)[number]? = some (.closure data id)) :
    (acceptedDescriptors log)[number]? = some data.lowLevelSocket := by
  obtain ⟨unserved, haccepted, _⟩ := deliveries_in_order h
  have hserved : (servedDescriptors log)[number]? = some data.lowLevelSocket := by
    rw [servedDescriptors, List.getElem?_map, hlabel]
    rfl
  obtain ⟨hlt, _⟩ := List.getElem?_eq_some_iff.mp hserved
  rw [haccepted, List.getElem?_append_left hlt, hserved]

theorem Served.routed
    (h : Served conduct messages breaks s)
    {number : Nat}
    {handler : Running (ServerCall A) ServerReply Abrupt (HandlerLabel A)}
    (hpresent : s.workers[number]? = some handler) :
    ∃ fd, (acceptedDescriptors s.main.log)[number]? = some fd ∧
      ∀ call reply, (ServerCall.transfer call, reply) ∈ handler.log →
        call.fd = fd := by
  obtain ⟨data, hlabel, hstanding⟩ := h.workers number handler hpresent
  exact ⟨data.lowLevelSocket, accepted_of_started h.main.1 hlabel,
    fun _ _ hmem => fd_of_transfer hstanding.1 hmem⟩

/-- A server that stops has grounds. -/
theorem grounds_before
    {flagged : Bool}
    (hsound : (stoppingContract A flagged).Sound (stopping A flagged) main)
    {shared : ServerState} {address : A}
    {events : List (Event (ServerCall A) ServerReply)}
    (hrun : (serverMachine main worker).Run
      ((serverMachine main worker).initial shared (.construct address))
      events s)
    {before later : List (ServerCall A × ServerReply)}
    {call : ServerCall A} {reply : ServerReply}
    (hlog : s.main.log = before ++ (call, reply) :: later)
    (hstops : call = .destroy ∨ ∃ number, call = .join number) :
    Grounds before flagged := by
  have hstanding : (stoppingContract A flagged).Standing (stopping A flagged)
      [] s.main :=
    hrun.main_standing hsound (fun _ _ _ => trivial) rfl
  have hfollows := hstanding.1
  rw [hlog] at hfollows
  have hpermits := hfollows.permits_before
  rcases hstops with rfl | ⟨number, rfl⟩
  · exact hpermits
  · exact hpermits

end Runs

section Results

variable {cls : AddressClass A} {address : A}
variable {kernel : Kernel} {flag : Bool} {s t : ServerConfig A}

/-- **No client is lost or served twice.**  One handler is started for each
connection, in the order in which they were accepted, but for the last one
perhaps; and the handler with a number talks over the connection with that
number and over no other. -/
theorem CommandServer.connections_routed
    (h : CommandServer.Reaches cls address kernel flag s) :
    (∃ unserved, acceptedDescriptors s.main.log =
        servedDescriptors s.main.log ++ unserved ∧ unserved.length ≤ 1) ∧
      s.workers.length = (servedDescriptors s.main.log).length ∧
      ∀ (number : Nat) (handler : Running (ServerCall A) ServerReply Abrupt
          (HandlerLabel A)), s.workers[number]? = some handler →
        ∃ fd, (acceptedDescriptors s.main.log)[number]? = some fd ∧
          ∀ call reply, (ServerCall.transfer call, reply) ∈ handler.log →
            call.fd = fd := by
  have hserved := (CommandServer.servedRun h).served
  refine ⟨deliveries_in_order hserved.main.1, ?_, ?_⟩
  · rw [hserved.count, servedDescriptors, List.length_map]
    exact hserved.law.started.symm
  · intro number handler hpresent
    exact hserved.routed hpresent

theorem CommandServer.connections_routed_finished :
    (∃ unserved, acceptedDescriptors finished.main.log =
        servedDescriptors finished.main.log ++ unserved ∧
          unserved.length ≤ 1) ∧
      finished.workers.length =
        (servedDescriptors finished.main.log).length ∧
      ∀ (number : Nat) (handler : Running (ServerCall Address) ServerReply
          Abrupt (HandlerLabel Address)),
        finished.workers[number]? = some handler →
        ∃ fd, (acceptedDescriptors finished.main.log)[number]? = some fd ∧
          ∀ call reply, (ServerCall.transfer call, reply) ∈ handler.log →
            call.fd = fd :=
  CommandServer.connections_routed finished_reached

/-- **Why a server stops.**  Before it joins its first handler, and before it is
destroyed, `::accept` failed, or a connection got no handler, or a handler has
set the flag, or `select` failed or reported an error of the listening
descriptor. -/
theorem CommandServer.stops_because
    (h : CommandServer.Reaches cls address kernel flag s)
    {before later : List (ServerCall A × ServerReply)}
    {call : ServerCall A} {reply : ServerReply}
    (hlog : s.main.log = before ++ (call, reply) :: later)
    (hstops : call = .destroy ∨ ∃ number, call = .join number) :
    Faltered before ∨ CommandServer.SetByHandler s.workers ∨
      ∃ fd, Obtained before fd ∧ Alarmed fd before := by
  obtain ⟨events, hrun⟩ := h
  rcases grounds_before (CommandServer.block_stopping cls) hrun hlog hstops with
    hfaltered | ⟨_, ⟨reply', hmem, hset⟩ | halarmed⟩
  · exact Or.inl hfaltered
  · refine Or.inr (Or.inl ?_)
    refine CommandServer.setByHandler_of_main ⟨events, hrun⟩ ⟨reply', ?_, hset⟩
    rw [hlog]
    exact List.mem_append_left _ hmem
  · exact Or.inr (Or.inr halarmed)

theorem CommandServer.stops_because_finished :
    ∃ before later reply,
      CommandServer.finished.main.log =
        before ++ (ServerCall.destroy, reply) :: later ∧
      (Faltered before ∨
        CommandServer.SetByHandler CommandServer.finished.workers ∨
        ∃ fd, Obtained before fd ∧ Alarmed fd before) := by
  have hdestroyed : ∃ reply, (ServerCall.destroy, reply) ∈
      CommandServer.finished.main.log :=
    ⟨_, List.mem_of_getElem? (i := 12) rfl⟩
  obtain ⟨reply, hmem⟩ := hdestroyed
  obtain ⟨before, later, hlog⟩ := List.append_of_mem hmem
  exact ⟨before, later, reply, hlog,
    CommandServer.stops_because CommandServer.finished_reached hlog
      (Or.inl rfl)⟩

/-- **Clients are kept apart.**  Whatever a handler sends or reads goes over the
connection with its number, over a descriptor that is open and that no other
handler has; whatever the environment has decided for the call, it fails only if
that was a failure. -/
theorem EchoServer.clients_apart
    (h : EchoServer.Reaches cls address kernel s)
    {number : Nat} {call : TransferCall} {reply : ServerReply}
    (hstep : (EchoServer.machine cls).Step s
      (.worker number (some (.transfer call, reply))) t) :
    (acceptedDescriptors s.main.log)[number]? = some call.fd ∧
      call.fd ∈ s.shared.kernel.openFds ∧
      (∀ other, HandlerHolds s other call.fd → other = number) ∧
      ∀ choice, s.shared.answer choice (.transfer call : ServerCall A) =
          (reply, t.shared) →
        reply.transfer.result = -1 →
          choice.transfer.errno = some reply.transfer.errno := by
  have hserved := (EchoServer.servedRun h).served
  have hisolated : Isolated false kernel s := by
    obtain ⟨events, hrun⟩ := h
    exact isolated (EchoServer.block_sound cls) EchoHandler.block_sound rfl rfl
      hrun
  obtain ⟨handler, data, hpresent, hlabel, hsame, hnot⟩ :=
    handlerHolds_of_transfer hserved hstep
  obtain ⟨hopen, hunique⟩ :=
    hisolated.unshared ⟨handler, data, hpresent, hlabel, hsame, hnot⟩
  refine ⟨?_, hopen, hunique, fun choice => errno_of_transfer hopen⟩
  rw [← hsame]
  exact accepted_of_started hserved.main.1 hlabel

theorem EchoServer.clients_apart_greeting :
    ∃ call reply t,
      (machine loopbackClass).Step greeting
        (.worker 0 (some (.transfer call, reply))) t ∧
      (acceptedDescriptors greeting.main.log)[0]? = some call.fd ∧
      call.fd ∈ greeting.shared.kernel.openFds ∧
      (∀ other, HandlerHolds greeting other call.fd → other = 0) ∧
      ∀ choice, greeting.shared.answer choice
            (.transfer call : ServerCall Address) = (reply, t.shared) →
        reply.transfer.result = -1 →
          choice.transfer.errno = some reply.transfer.errno := by
  have hstep : ∃ call reply t, (machine loopbackClass).Step greeting
      (.worker 0 (some (.transfer call, reply))) t :=
    ⟨_, _, _, .worker _ 0 _ _ _ _ rfl (.calls _ _ _ _)
      (.call _ (.brings []) _) rfl rfl⟩
  obtain ⟨call, reply, t, hstep⟩ := hstep
  exact ⟨call, reply, t, hstep,
    EchoServer.clients_apart greeting_reached hstep⟩

/-- **What a client says does not stop an echo server.**  Before it joins its
first handler, and before it is destroyed, `::accept` failed or a connection
got no handler.  A client can only kill it: the process is killed exactly when
the last call of some handler was a send to a peer that is gone. -/
theorem EchoServer.stops_at_failure
    (h : EchoServer.Reaches cls address kernel s) :
    (∀ before later call reply,
      s.main.log = before ++ (call, reply) :: later →
        (call = .destroy ∨ ∃ number, call = .join number) →
          Faltered before) ∧
      (s.shared.killed = true ↔
        ∃ handler ∈ s.workers, BrokenPipe handler.log) := by
  refine ⟨?_, (EchoServer.servedRun h).killed⟩
  intro before later call reply hlog hstops
  obtain ⟨events, hrun⟩ := h
  rcases grounds_before (EchoServer.block_stopping cls) hrun hlog hstops with
    hfaltered | ⟨hflagged, _⟩
  · exact hfaltered
  · cases hflagged

theorem EchoServer.stops_at_failure_finished :
    (∃ before later reply,
      finished.main.log = before ++ (ServerCall.destroy, reply) :: later ∧
        Faltered before) ∧
      ∃ handler ∈ gone.workers, BrokenPipe handler.log := by
  have hdestroyed : ∃ reply, (ServerCall.destroy, reply) ∈
      finished.main.log :=
    ⟨_, List.mem_of_getElem? (i := 10) rfl⟩
  obtain ⟨reply, hmem⟩ := hdestroyed
  obtain ⟨before, later, hlog⟩ := List.append_of_mem hmem
  obtain ⟨hstops, _⟩ := EchoServer.stops_at_failure finished_reached
  obtain ⟨_, hkilled⟩ := EchoServer.stops_at_failure gone_reached
  exact ⟨⟨before, later, reply, hlog,
    hstops before later .destroy reply hlog (Or.inl rfl)⟩,
    hkilled.mp gone_killed⟩

end Results

end BsdSockets
