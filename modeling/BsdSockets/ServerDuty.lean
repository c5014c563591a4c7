import BsdSockets.Custody
import BsdSockets.HandlerConduct
import BsdSockets.Servers

/-!
# The duties of a server

What a server's own thread does, as a discipline: it has its listening
descriptor and at most one connection in custody, it starts the handlers with
consecutive numbers, joins them in the same order, and is destroyed when every
handler has been joined.  `Duty` is how far it has come.

The calls of the library are taken from what is known of the library: `open`
and `acceptInNewThread` follow the discipline of custody, and the duties of a
server simulate it on the calls that they make.
-/

namespace BsdSockets

open Resumption

variable {A : Type} {flagged : Bool}

section Protocol

/-- Whether the flag may still be set up, and whether it may be used. -/
inductive Stage where
  | constructing
  | serving
  | destroyed
deriving DecidableEq

/-- The loop of a server may run: the flag has been set up, or there is none. -/
def Stage.Ready (flagged : Bool) (stage : Stage) : Prop :=
  stage = .serving ∨ (flagged = false ∧ stage = .constructing)

theorem Stage.Ready.alive
    {stage : Stage}
    (h : stage.Ready flagged) :
    stage ≠ .destroyed := by
  rcases h with rfl | ⟨_, rfl⟩ <;> exact Stage.noConfusion

/-- What a server has in custody, and how many handlers it has started and
joined. -/
structure Duty where
  stage : Stage
  server : Custody
  custody : Custody
  started : Nat
  joined : Nat
deriving DecidableEq

namespace Duty

/-- A server that is about to be constructed. -/
def initial : Duty where
  stage := .constructing
  server := .nothing
  custody := .nothing
  started := 0
  joined := 0

def permits (flagged : Bool) (self : Duty) : ServerCall A → Prop
  | .library (.socket _ _ _) => self.server = .nothing
  | .library (.accept _ _ _) => self.custody = .nothing ∧ self.stage = .serving
  | .library (.close fd) => self.server = .owned fd ∧ self.stage ≠ .serving
  | .library (.startThread _) => False
  | .library _ => True
  | .wait _ => True
  | .transfer _ => False
  | .startThread data id =>
      self.stage = .serving ∧ id = nextId self.started ∧
        data.lowLevelSocket ≠ -1 ∧
        ∃ connection, self.custody = .accepted connection ∧
          connection.descriptor = data.lowLevelSocket
  | .join number => number = self.joined ∧ number < self.started
  | .load => self.stage = .serving
  | .store value => value = false ∧ self.stage = .constructing
  | .frame => self.stage.Ready flagged
  | .destroy => self.joined = self.started ∧ self.stage.Ready flagged

/-- After a call. -/
def next (self : Duty) (call : ServerCall A) (reply : ServerReply) : Duty :=
  match call with
  | .library (.socket domain type protocol) =>
      { self with
        server :=
          self.server.next (A := A) (.socket domain type protocol)
            reply.library }
  | .library (.accept fd buffer len) =>
      { self with
        custody :=
          self.custody.next (A := A) (.accept fd buffer len) reply.library }
  | .library (.close _) => { self with server := .nothing }
  | .startThread _ _ =>
      if reply.library.Failed then self
      else { self with custody := .nothing, started := self.started + 1 }
  | .join _ => { self with joined := self.joined + 1 }
  | .store _ => { self with stage := .serving }
  | .frame => { self with stage := .serving }
  | .destroy => { self with stage := .destroyed }
  | _ => self

end Duty

/-- What a server's calls follow. -/
def duties (A : Type) (flagged : Bool) :
    Discipline (ServerCall A) ServerReply Duty where
  permits := Duty.permits flagged
  possible := ServerCall.Possible
  next := Duty.next

/-- The stage of a server changes only forwards. -/
theorem Duty.next_stage
    (duty : Duty) (call : ServerCall A) (reply : ServerReply) :
    (duty.next call reply).stage = duty.stage ∨
      (duty.next call reply).stage = .serving ∨
      (duty.next call reply).stage = .destroyed := by
  cases call with
  | library called =>
      cases called <;> exact Or.inl rfl
  | startThread data id =>
      simp only [Duty.next]
      split <;> exact Or.inl rfl
  | store => exact Or.inr (Or.inl rfl)
  | frame => exact Or.inr (Or.inl rfl)
  | destroy => exact Or.inr (Or.inr rfl)
  | wait => exact Or.inl rfl
  | transfer => exact Or.inl rfl
  | join => exact Or.inl rfl
  | load => exact Or.inl rfl

/-- A server does not go back to its constructor. -/
theorem Duty.next_stage_ne
    {duty : Duty} (h : duty.stage ≠ .constructing)
    (call : ServerCall A) (reply : ServerReply) :
    (duty.next call reply).stage ≠ .constructing := by
  rcases duty.next_stage call reply with hkept | hserving | hdestroyed
  · rwa [hkept]
  · rw [hserving]
    exact Stage.noConfusion
  · rw [hdestroyed]
    exact Stage.noConfusion

end Protocol

section Library

/-- The calls that opening a server makes. -/
def OpeningCall : Call A → Prop
  | .socket _ _ _ => True
  | .setsockopt _ _ _ _ => True
  | .bind _ _ _ => True
  | .listen _ _ => True
  | .close _ => True
  | .readErrno => True
  | _ => False

/-- The calls that accepting into a new thread makes. -/
def AcceptingCall : Call A → Prop
  | .accept _ _ _ => True
  | .startThread _ => True
  | .readErrno => True
  | _ => False

theorem makes_throwErrno
    {allowed : Call A → Prop} (h : allowed .readErrno) {α : Type} :
    (throwErrno : Program A α).Makes allowed :=
  ⟨h, fun _ => trivial⟩

theorem makes_checkedCall
    {allowed : Call A → Prop} (herrno : allowed .readErrno)
    {call : Call A} (h : allowed call) :
    (checkedCall call).Makes allowed := by
  refine ⟨h, ?_⟩
  intro reply
  change (if -1 = reply.result then throwErrno else return () :
    Program A Unit).Makes allowed
  split
  · exact makes_throwErrno herrno
  · exact trivial

theorem makes_destructor
    {allowed : Call A → Prop} (socket : Socket A)
    (h : allowed (.close socket.lowLevelSocket)) :
    socket.destructor.Makes allowed := by
  rw [Socket.destructor]
  split
  · exact trivial
  · exact ⟨h, fun _ => trivial⟩

theorem makes_open
    (cls : AddressClass A) (address : A) (backlog : Int) :
    (ServerSocket.open cls address backlog false).Makes OpeningCall := by
  obtain ⟨domain, type, protocol, hfirst⟩ :=
    Socket.socketCall_total cls address
  simp only [ServerSocket.open, ServerSocket.create, Socket.newFor, hfirst]
  refine ⟨trivial, ?_⟩
  intro reply
  apply Prog.Makes.onThrow
  · refine Prog.Makes.bind ?_ (fun _ => ?_)
    · exact makes_checkedCall trivial trivial
    · exact (makes_checkedCall trivial trivial).bind (fun _ => trivial)
  · exact makes_destructor _ trivial

theorem makes_acceptInNewThread
    (cls : AddressClass A) (server : Socket A) (memory : Indeterminate) :
    (ServerSocket.acceptInNewThread cls server memory).Makes
      AcceptingCall := by
  refine Prog.Makes.bind ?_ ?_
  · simp only [ServerSocket.lowLevelAccept, Prog.perform_bind]
    refine ⟨trivial, ?_⟩
    intro reply
    beta_reduce
    split
    · exact trivial
    · split
      · exact trivial
      · split
        · exact makes_throwErrno trivial
        · exact (Prog.makes_lift _ _).bind (fun _ => trivial)
  · intro data
    simp only [Prog.perform_bind]
    refine ⟨trivial, ?_⟩
    intro reply
    beta_reduce
    split <;> exact trivial

end Library

section Views

/-- The custody of a server that is being opened. -/
def OpeningView (duty : Duty) (custody : Custody) : Prop :=
  duty = { Duty.initial with server := custody } ∧
    (custody = .nothing ∨ ∃ fd, fd ≠ -1 ∧ custody = .owned fd)

/-- Opening a server is one of its duties. -/
theorem opening_simulates :
    (duties A flagged).Simulates ((discipline A).restrict OpeningCall)
      .library (fun _ reply => reply.library) OpeningView where
  permits := by
    rintro duty custody call ⟨rfl, _⟩ ⟨hpermits, hallowed⟩
    cases call with
    | socket => exact hpermits
    | close fd => exact ⟨hpermits, Stage.noConfusion⟩
    | setsockopt => trivial
    | bind => trivial
    | listen => trivial
    | readErrno => trivial
    | connect => cases hallowed
    | accept => cases hallowed
    | startThread => cases hallowed
  possible := fun _ _ _ => trivial
  next := by
    rintro duty custody call reply ⟨rfl, howned⟩ ⟨hpermits, hallowed⟩ _
    cases call with
    | socket domain type protocol =>
        refine ⟨rfl, ?_⟩
        change (if reply.library.Failed then Custody.nothing
          else .owned reply.library.result) = _ ∨ _
        by_cases hfailed : reply.library.Failed
        · exact Or.inl (if_pos hfailed)
        · exact Or.inr ⟨reply.library.result, hfailed, if_neg hfailed⟩
    | close fd => exact ⟨rfl, Or.inl rfl⟩
    | setsockopt => exact ⟨rfl, howned⟩
    | bind => exact ⟨rfl, howned⟩
    | listen => exact ⟨rfl, howned⟩
    | readErrno => exact ⟨rfl, howned⟩
    | connect => cases hallowed
    | accept => cases hallowed
    | startThread => cases hallowed

/-- The custody of a call of `acceptInNewThread` that began with these duties. -/
def AcceptingView (before duty : Duty) : Custody → Prop
  | .nothing => duty = { before with custody := .nothing }
  | .accepted connection =>
      duty = { before with custody := .accepted connection } ∧
        connection.descriptor ≠ -1
  | .handedOver _ =>
      duty = { before with
        custody := .nothing, started := before.started + 1 }
  | _ => False

/-- Accepting into a new thread is one of a server's duties. -/
theorem accepting_simulates
    (before : Duty) (hserving : before.stage = .serving) :
    (duties A flagged).Simulates ((discipline A).restrict AcceptingCall)
      (withClosure (nextId before.started))
      (fun _ reply => reply.library) (AcceptingView before) where
  permits := by
    rintro duty custody call hview ⟨hpermits, hallowed⟩
    cases call with
    | accept fd buffer len =>
        have hnothing : custody = .nothing := hpermits
        rw [hnothing] at hview
        have hduty : duty = { before with custody := .nothing } := hview
        rw [hduty]
        exact ⟨rfl, hserving⟩
    | startThread data =>
        obtain ⟨connection, rfl, hsame⟩ := hpermits
        obtain ⟨rfl, hfd⟩ := hview
        exact ⟨hserving, rfl, hsame ▸ hfd, connection, rfl, hsame⟩
    | readErrno => trivial
    | socket => cases hallowed
    | close => cases hallowed
    | setsockopt => cases hallowed
    | bind => cases hallowed
    | listen => cases hallowed
    | connect => cases hallowed
  possible := fun _ _ _ => trivial
  next := by
    rintro duty custody call reply hview ⟨hpermits, hallowed⟩ _
    cases call with
    | accept fd buffer len =>
        have hnothing : custody = .nothing := hpermits
        rw [hnothing] at hview ⊢
        have hduty : duty = { before with custody := .nothing } := hview
        rw [hduty]
        change AcceptingView before
          { before with
            custody := if reply.library.Failed then .nothing
              else .accepted
                ⟨reply.library.connection, reply.library.result⟩ }
          (if reply.library.Failed then Custody.nothing
            else .accepted ⟨reply.library.connection, reply.library.result⟩)
        split
        · exact rfl
        · next hok =>
            exact ⟨rfl, hok⟩
    | startThread data =>
        obtain ⟨connection, rfl, hsame⟩ := hpermits
        obtain ⟨rfl, hfd⟩ := hview
        change AcceptingView before
          (if reply.library.Failed then
            { before with custody := .accepted connection }
          else { before with
            custody := .nothing, started := before.started + 1 })
          (if reply.library.Failed then Custody.accepted connection
            else .handedOver connection)
        split
        · exact ⟨rfl, hfd⟩
        · exact rfl
    | readErrno => exact hview
    | socket => cases hallowed
    | close => cases hallowed
    | setsockopt => cases hallowed
    | bind => cases hallowed
    | listen => cases hallowed
    | connect => cases hallowed

end Views

section Contracts

/-- The custody of a server with this socket. -/
def Owns (socket : Socket A) (server : Custody) : Prop :=
  (socket.lowLevelSocket = -1 ∧ server = .nothing) ∨
    (socket.lowLevelSocket ≠ -1 ∧ server = .owned socket.lowLevelSocket)

/-- A server in its loop, with so many handlers started. -/
structure Operating
    (flagged : Bool) (socket : Socket A) (accepted : Nat) (duty : Duty) : Prop where
  ready : duty.stage.Ready flagged
  owns : Owns socket duty.server
  custody : duty.custody = .nothing
  started : duty.started = accepted
  joined : duty.joined = 0

/-- A server that joins its handlers. -/
structure Joining
    (flagged : Bool) (socket : Socket A) (accepted joined : Nat)
    (duty : Duty) : Prop where
  ready : duty.stage.Ready flagged
  owns : Owns socket duty.server
  started : duty.started = accepted
  waited : duty.joined = joined
  le : joined ≤ accepted

/-- Leaving the loop, with or without an exception. -/
theorem Operating.joining
    {socket : Socket A} {accepted : Nat} {duty : Duty}
    (h : Operating flagged socket accepted duty) :
    Joining flagged socket accepted 0 duty :=
  ⟨h.ready, h.owns, h.started, h.joined, Nat.zero_le _⟩

/-- Where a server is in its duties, block by block.  An exception leaves the
thread only from the constructor. -/
def serverContract (A : Type) (flagged : Bool) :
    Contract Abrupt (ServerLabel A) Duty where
  enters
    | .construct _, duty => duty = .initial
    | .operator socket accepted, duty => Operating flagged socket accepted duty
    | .join socket accepted joined, duty =>
        Joining flagged socket accepted joined duty
    | .destruct socket, duty =>
        Joining flagged socket duty.started duty.started duty
  ends duty := duty.stage = .destroyed ∧ duty.server = .nothing
  breaks abrupt duty :=
    abrupt = .undefined ∨ duty.stage = .constructing

/-- How a constructor ends. -/
def Constructed (flagged : Bool) : Except Abrupt (Socket A) → Duty → Prop
  | .ok socket, duty => Operating flagged socket 0 duty
  | .error _, duty => duty.stage = .constructing

/-- How a round of the loop ends. -/
def ServerRoundFinished (flagged : Bool) (socket : Socket A) (accepted : Nat) :
    Except Abrupt (Bool × Nat) → Duty → Prop
  | .ok outcome, duty => Operating flagged socket outcome.2 duty
  | .error (.throws _), duty => Joining flagged socket accepted 0 duty
  | .error .undefined, _ => True

/-- A server is destroyed when it has joined all its handlers, and gives its
descriptor up. -/
theorem safe_destruct
    {socket : Socket A} {duty : Duty}
    (h : Joining flagged socket duty.started duty.started duty) :
    Safe (duties A flagged) (serverContract A flagged).exit
      (do
        let _ ← Prog.perform .destroy
        library socket.destructor
        return none) duty := by
  refine ⟨⟨h.waited, h.ready⟩, ?_⟩
  intro reply _
  change Safe (duties A flagged) _ (library socket.destructor >>= fun _ => _)
    { duty with stage := .destroyed }
  rcases h.owns with ⟨hminus, hserver⟩ | ⟨hfd, hserver⟩
  · have hdestructor :
        (library socket.destructor : ServerProgram A Unit) = .ret () := by
      rw [library, Socket.destructor, if_pos hminus.symm]
      rfl
    rw [hdestructor]
    exact ⟨rfl, hserver⟩
  · rw [library_destructor_eq hfd]
    exact ⟨⟨hserver, Stage.noConfusion⟩, fun _ _ => ⟨rfl, rfl⟩⟩

/-- The rule for servers: the constructor and a round of the loop have to be
shown to keep the duties. -/
theorem serverBlock_sound
    {new : A → ServerProgram A (Socket A)}
    {round : Socket A → Nat → ServerProgram A (Bool × Nat)}
    (hnew : ∀ address,
      Safe (duties A flagged) (Constructed flagged) (new address) .initial)
    (hround : ∀ socket accepted duty, Operating flagged socket accepted duty →
      Safe (duties A flagged) (ServerRoundFinished flagged socket accepted)
        (round socket accepted) duty) :
    (serverContract A flagged).Sound (duties A flagged)
      (serverBlock new round) := by
  intro label duty henters
  cases label with
  | construct address =>
      have hduty : duty = .initial := henters
      rw [hduty]
      apply Safe.bind
      refine Safe.mono ?_ (hnew address)
      rintro (e | socket) after hfinished
      · exact Or.inr hfinished
      · exact hfinished
  | operator socket accepted =>
      apply Safe.catching
      apply Safe.bind
      refine Safe.mono ?_ (hround socket accepted duty henters)
      rintro (e | ⟨done, accepted'⟩) after hfinished
      · cases e with
        | throws e =>
            exact hfinished
        | undefined =>
            exact Or.inl rfl
      · have hoperating : Operating flagged socket accepted' after := hfinished
        cases done with
        | true =>
            exact hoperating.joining
        | false =>
            exact hoperating
  | join socket accepted joined =>
      have hjoining : Joining flagged socket accepted joined duty := henters
      rw [serverBlock]
      split
      · next hlt =>
          refine ⟨⟨hjoining.waited.symm, ?_⟩, ?_⟩
          · rw [hjoining.started]
            exact hlt
          · intro reply _
            exact ⟨hjoining.ready, hjoining.owns, hjoining.started,
              congrArg (· + 1) hjoining.waited, hlt⟩
      · next hge =>
          have hall : joined = accepted :=
            Nat.le_antisymm hjoining.le (Nat.le_of_not_lt hge)
          refine ⟨hjoining.ready, hjoining.owns, rfl, ?_, Nat.le_refl _⟩
          rw [hjoining.waited, hall, hjoining.started]
  | destruct socket =>
      exact safe_destruct henters

end Contracts

section Rounds

/-- How opening ends; the flag may still be set up. -/
def OpenFinished : Except Abrupt (Socket A) → Duty → Prop
  | .ok socket, duty =>
      duty.stage = .constructing ∧ Owns socket duty.server ∧
        duty.custody = .nothing ∧ duty.started = 0 ∧ duty.joined = 0
  | .error _, duty => duty.stage = .constructing

/-- Opening leaves a server with its descriptor. -/
theorem safe_library_open
    (cls : AddressClass A) (address : A) :
    Safe (duties A flagged) OpenFinished
      (library (ServerSocket.open cls address 128 false)) .initial := by
  have hopen :
      Safe (discipline A) SocketFinished
        (ServerSocket.open cls address 128 false) .nothing := by
    rw [server_open_eq_openWith]
    exact safe_openWith cls address _
      (fun fd => Factory.openSteps_target cls address 128 false fd)
  refine Safe.translate opening_simulates ?_ ⟨rfl, Or.inl rfl⟩
    (hopen.restrict (makes_open cls address 128))
  rintro (e | socket) custody duty ⟨rfl, howned⟩ hfinished
  · exact rfl
  · refine ⟨rfl, ?_, rfl, rfl, rfl⟩
    rcases hfinished with ⟨hminus, hnothing⟩ | hsame
    · exact Or.inl ⟨hminus, hnothing⟩
    · rcases howned with rfl | ⟨fd, hfd, rfl⟩
      · cases hsame
      · cases hsame
        exact Or.inr ⟨hfd, rfl⟩

/-- How `acceptCurrent` ends. -/
def CurrentFinished (flagged : Bool) (socket : Socket A) (accepted : Nat) :
    Except Abrupt Nat → Duty → Prop
  | .ok accepted', duty => Operating flagged socket accepted' duty
  | .error (.throws _), duty => Joining flagged socket accepted 0 duty
  | .error .undefined, _ => True

/-- `acceptCurrent` starts a handler with the next number, or throws. -/
theorem safe_acceptCurrent
    (cls : AddressClass A) {socket : Socket A} {accepted : Nat} {duty : Duty}
    (h : Operating flagged socket accepted duty) :
    Safe (duties A flagged) (CurrentFinished flagged socket accepted)
      (acceptCurrent cls socket accepted) duty := by
  refine ⟨h.ready, ?_⟩
  intro reply _
  change Safe (duties A flagged) _
    (libraryWithClosure (nextId accepted)
        (ServerSocket.acceptInNewThread cls socket reply.frame) >>=
      fun _ => _)
    { duty with stage := .serving }
  apply Safe.bind
  have hview :
      AcceptingView { duty with stage := .serving }
        { duty with stage := .serving } .nothing := by
    change ({ duty with stage := Stage.serving } : Duty) =
      { duty with stage := .serving, custody := .nothing }
    rw [← h.custody]
  rw [← h.started]
  refine Safe.translate
    (accepting_simulates { duty with stage := .serving } rfl) ?_ hview
    ((safe_acceptInNewThread_handedOver cls socket reply.frame).restrict
      (makes_acceptInNewThread cls socket reply.frame))
  rintro (e | _) custody after hafter hfinished
  · cases e with
    | throws e =>
        rcases hfinished with rfl | ⟨connection, rfl⟩
        · have hduty : after = { duty with
              stage := .serving, custody := .nothing } := hafter
          rw [hduty]
          exact ⟨Or.inl rfl, h.owns, rfl, h.joined, Nat.zero_le _⟩
        · obtain ⟨rfl, _⟩ := hafter
          exact ⟨Or.inl rfl, h.owns, rfl, h.joined, Nat.zero_le _⟩
    | undefined =>
        exact trivial
  · obtain ⟨connection, rfl⟩ := hfinished
    have hduty : after = { duty with
        stage := .serving, custody := .nothing,
        started := duty.started + 1 } := hafter
    rw [hduty]
    exact ⟨Or.inl rfl, h.owns, rfl, rfl, h.joined⟩

/-- `EchoServer` does its duties. -/
theorem EchoServer.block_sound
    (cls : AddressClass A) :
    (serverContract A false).Sound (duties A false) (EchoServer.block cls) := by
  refine serverBlock_sound ?_ ?_
  · intro address
    refine Safe.mono ?_ (safe_library_open cls address)
    rintro (e | socket) duty hfinished
    · exact hfinished
    · obtain ⟨hstage, howns, hcustody, hstarted, hjoined⟩ := hfinished
      exact ⟨Or.inr ⟨rfl, hstage⟩, howns, hcustody, hstarted, hjoined⟩
  intro socket accepted duty h
  apply Safe.bind
  refine Safe.mono ?_ (safe_acceptCurrent cls h)
  rintro (e | accepted') after hfinished
  · cases e <;> exact hfinished
  · exact hfinished

/-- The flag may be looked at by a server that has set it up. -/
theorem safe_server_load_bind
    {α : Type} {Q : Except Abrupt α → Duty → Prop} {duty : Duty}
    (hready : duty.stage.Ready true)
    {k : Bool → ServerProgram A α}
    (hk : ∀ flag, Safe (duties A true) Q (k flag) duty) :
    Safe (duties A true) Q (load >>= k) duty := by
  have hserving : duty.stage = .serving := by
    rcases hready with hserving | ⟨hnone, _⟩
    · exact hserving
    · cases hnone
  refine ⟨hserving, ?_⟩
  intro reply _
  exact hk reply.flag

theorem CommandServer.safe_acceptOne
    (cls : AddressClass A) {socket : Socket A} {accepted : Nat} {duty : Duty}
    (h : Operating true socket accepted duty) :
    Safe (duties A true) (ServerRoundFinished true socket accepted)
      (CommandServer.acceptOne cls socket accepted) duty := by
  rw [CommandServer.acceptOne]
  by_cases hselectable : Selectable socket.lowLevelSocket
  · obtain ⟨index, hindex, _⟩ := fdIndex_selectable hselectable
    rw [waiting_select_eq socket hselectable hindex]
    refine ⟨trivial, ?_⟩
    intro reply _
    simp only [selectResult_eq hindex]
    by_cases hfailed : reply.wait.result = -1
    · rw [if_pos hfailed]
      exact h.joining
    · rw [if_neg hfailed]
      refine safe_server_load_bind h.ready ?_
      intro flag
      split
      · exact h
      · split
        · exact h
        · split
          · apply Safe.bind
            refine Safe.mono ?_ (safe_acceptCurrent cls h)
            rintro (e | accepted') after hfinished
            · cases e <;> exact hfinished
            · exact hfinished
          · exact h
  · rw [waiting_select_outside hselectable]
    exact trivial

/-- `CommandServer` does its duties. -/
theorem CommandServer.block_sound
    (cls : AddressClass A) :
    (serverContract A true).Sound (duties A true) (CommandServer.block cls) := by
  refine serverBlock_sound ?_ ?_
  · intro address
    apply Safe.bind
    refine Safe.mono ?_ (safe_library_open cls address)
    rintro (e | socket) duty hfinished
    · exact hfinished
    · obtain ⟨hstage, howns, hcustody, hstarted, hjoined⟩ := hfinished
      refine ⟨⟨rfl, hstage⟩, ?_⟩
      intro reply _
      exact ⟨Or.inl rfl, howns, hcustody, hstarted, hjoined⟩
  · intro socket accepted duty h
    refine safe_server_load_bind h.ready ?_
    intro flag
    split
    · exact h
    · exact CommandServer.safe_acceptOne cls h

end Rounds

end BsdSockets
