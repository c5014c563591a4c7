import BsdSockets.ResolvedSockaddr
import BsdSockets.ServerDuty

/-!
# Runs of the example servers

A server with its handlers in every interleaving.  From what each thread does
alone follows what holds in every configuration that a run reaches: the
handlers carry consecutive numbers, each keeps its own conversation whatever
the others do, and when the server object is destroyed all of them have ended.
-/

namespace BsdSockets

open Resumption

variable {A : Type}

section Regimes

/-- The ghost value with which a handler starts. -/
def handlerEntry (messages : List CppString) : HandlerLabel A → Speaker
  | .closure data id =>
      ⟨data.lowLevelSocket, .opening (welcome id :: messages)⟩
  | .operator socket => ⟨socket.lowLevelSocket, .listening⟩
  | .release socket => ⟨socket.lowLevelSocket, .parting⟩

/-- The duties of the server and the conversations of its handlers. -/
def serverRegime
    (A : Type) (conduct : Conduct) (messages : List CppString)
    (breaks : Abrupt → Speaker → Prop) :
    Regime (ServerCall A) ServerReply Abrupt (ServerLabel A)
      (HandlerLabel A) ServerState Duty Speaker where
  shared := fun _ => True
  mainD := duties A conduct.watches
  mainC := serverContract A conduct.watches
  workerD := conversation A conduct
  workerC := handlerContract A messages breaks
  entry := handlerEntry messages

theorem ServerState.answer_possible
    (self : ServerState) (choice : ServerChoice) (call : ServerCall A) :
    call.Possible (self.answer choice call).1 := by
  cases call with
  | transfer moved =>
      exact self.kernel.transfer_possible choice.transfer moved
  | library => trivial
  | wait => trivial
  | startThread => trivial
  | join => trivial
  | load => trivial
  | store => trivial
  | frame => trivial
  | destroy => trivial

/-- A server and its handlers are shown to be sound one thread at a time. -/
theorem serverRegime_sound
    {conduct : Conduct} {messages : List CppString}
    {breaks : Abrupt → Speaker → Prop}
    {main : ServerLabel A → ServerProgram A (Option (ServerLabel A))}
    {worker : HandlerLabel A → ServerProgram A (Option (HandlerLabel A))}
    (hmain : (serverContract A conduct.watches).Sound
      (duties A conduct.watches) main)
    (hworker : (handlerContract A messages breaks).Sound
      (conversation A conduct) worker) :
    (serverRegime A conduct messages breaks).Sound
      (serverMachine main worker) where
  main := hmain
  worker := hworker
  possible := fun shared choice call _ =>
    ⟨shared.answer_possible choice call, shared.answer_possible choice call⟩
  keeps := fun _ _ _ _ _ => trivial
  starts := by
    intro duty call reply label hpermits _ hstarts
    cases call with
    | startThread data id =>
        simp only [serverMachine, startedHandler] at hstarts
        split at hstarts
        · cases hstarts
        · cases hstarts
          exact ⟨hpermits.2.2.1, rfl⟩
    | library => cases hstarts
    | wait => cases hstarts
    | transfer => cases hstarts
    | join => cases hstarts
    | load => cases hstarts
    | store => cases hstarts
    | frame => cases hstarts
    | destroy => cases hstarts

end Regimes

section Records

variable {log : List (ServerCall A × ServerReply)} {duty : Duty}
variable {flagged : Bool}

/-- The handlers that a server's log has started, in order. -/
def startedHandlers (log : List (ServerCall A × ServerReply)) :
    List (HandlerLabel A) :=
  log.filterMap (fun entry => startedHandler entry.1 entry.2)

/-- What a server's log says where its duties have come this far: the handlers
are numbered from 1, the first ones have been joined, and all of them before
the server was destroyed. -/
structure Duty.Law
    (log : List (ServerCall A × ServerReply)) (duty : Duty) : Prop where
  started : (startedHandlers log).length = duty.started
  numbered : ∀ number, ∀ label ∈ (startedHandlers log)[number]?,
    ∃ data, label = HandlerLabel.closure data (nextId number)
  joined : ∀ number, number < duty.joined →
    ∃ reply, (ServerCall.join number, reply) ∈ log
  destroyed : duty.stage = .destroyed → duty.joined = duty.started
  fresh : duty.stage = .constructing → duty.started = 0

theorem startedHandlers_snoc
    (log : List (ServerCall A × ServerReply))
    (call : ServerCall A) (reply : ServerReply) :
    startedHandlers (log ++ [(call, reply)]) =
      startedHandlers log ++ (startedHandler call reply).toList := by
  cases hstarted : startedHandler call reply <;>
    simp [startedHandlers, hstarted]

theorem startedHandlers_other
    (log : List (ServerCall A × ServerReply))
    {call : ServerCall A} {reply : ServerReply}
    (h : startedHandler call reply = none) :
    startedHandlers (log ++ [(call, reply)]) = startedHandlers log := by
  rw [startedHandlers_snoc, h]
  exact List.append_nil _

/-- A call that neither starts nor joins a handler, nor destroys the server. -/
theorem Duty.Law.keep
    {call : ServerCall A} {reply : ServerReply} {after : Duty}
    (h : Duty.Law log duty)
    (hnone : startedHandler call reply = none)
    (hstarted : after.started = duty.started)
    (hjoined : after.joined = duty.joined)
    (hstage : after.stage = duty.stage ∨ after.stage = .serving) :
    Duty.Law (log ++ [(call, reply)]) after := by
  have hsame := startedHandlers_other log hnone
  refine ⟨?_, ?_, ?_, ?_, ?_⟩
  · rw [hsame, hstarted]
    exact h.started
  · rw [hsame]
    exact h.numbered
  · intro number hlt
    rw [hjoined] at hlt
    obtain ⟨reply', hmem⟩ := h.joined number hlt
    exact ⟨reply', List.mem_append_left _ hmem⟩
  · intro hdestroyed
    rw [hjoined, hstarted]
    rcases hstage with hkept | hserving
    · exact h.destroyed (hkept ▸ hdestroyed)
    · rw [hserving] at hdestroyed
      cases hdestroyed
  · intro hconstructing
    rw [hstarted]
    rcases hstage with hkept | hserving
    · exact h.fresh (hkept ▸ hconstructing)
    · rw [hserving] at hconstructing
      cases hconstructing

/-- A handler that is started gets the next number. -/
theorem Duty.Law.start
    {data : AcceptedSocketData A} {id : Int32} {reply : ServerReply}
    (h : Duty.Law log duty)
    (hpermits : duty.permits flagged (.startThread data id)) :
    Duty.Law (log ++ [(.startThread data id, reply)])
      (duty.next (.startThread data id) reply) := by
  obtain ⟨hserving, rfl, _⟩ := hpermits
  by_cases hfailed : reply.library.Failed
  · have hnext :
        duty.next (.startThread data (nextId duty.started)) reply = duty :=
      if_pos hfailed
    rw [hnext]
    exact h.keep (if_pos hfailed) rfl rfl (Or.inl rfl)
  · have hnext :
        duty.next (.startThread data (nextId duty.started)) reply =
          { duty with custody := .nothing, started := duty.started + 1 } :=
      if_neg hfailed
    have hstarted :
        startedHandler (.startThread data (nextId duty.started)) reply =
          some (.closure data (nextId duty.started)) :=
      if_neg hfailed
    rw [hnext]
    refine ⟨?_, ?_, ?_, ?_, ?_⟩
    · rw [startedHandlers_snoc, hstarted, List.length_append, h.started]
      rfl
    · intro number label hlabel
      rw [startedHandlers_snoc, hstarted] at hlabel
      rcases Nat.lt_or_ge number (startedHandlers log).length with hlt | hge
      · rw [List.getElem?_append_left hlt] at hlabel
        exact h.numbered number label hlabel
      · rw [List.getElem?_append_right hge, Option.toList_some] at hlabel
        obtain ⟨hzero, hvalue⟩ := List.getElem?_eq_some_iff.mp hlabel
        have hnumber : number = duty.started := by
          have hlength := h.started
          simp only [List.length_singleton] at hzero
          omega
        refine ⟨data, ?_⟩
        rw [hnumber, ← hvalue]
        simp
    · intro number hlt
      obtain ⟨reply', hmem⟩ := h.joined number hlt
      exact ⟨reply', List.mem_append_left _ hmem⟩
    · intro hdestroyed
      have hstage : duty.stage = .destroyed := hdestroyed
      rw [hserving] at hstage
      cases hstage
    · intro hconstructing
      have hstage : duty.stage = .constructing := hconstructing
      rw [hserving] at hstage
      cases hstage

/-- Every call that a server may make keeps the law. -/
theorem Duty.law_step
    (log : List (ServerCall A × ServerReply)) (duty : Duty)
    (call : ServerCall A) (reply : ServerReply)
    (h : Duty.Law log duty) (hpermits : duty.permits flagged call) :
    Duty.Law (log ++ [(call, reply)]) (duty.next call reply) := by
  cases call with
  | startThread data id =>
      exact h.start hpermits
  | join number =>
      obtain ⟨rfl, hlt⟩ := hpermits
      have hsame :=
        startedHandlers_other log
          (show startedHandler (.join duty.joined) reply = none from rfl)
      refine ⟨?_, ?_, ?_, ?_, h.fresh⟩
      · rw [hsame]
        exact h.started
      · rw [hsame]
        exact h.numbered
      · intro number hnumber
        rcases Nat.lt_succ_iff_lt_or_eq.mp hnumber with hbefore | rfl
        · obtain ⟨reply', hmem⟩ := h.joined number hbefore
          exact ⟨reply', List.mem_append_left _ hmem⟩
        · exact ⟨reply, List.mem_append_right _ (List.mem_singleton_self _)⟩
      · intro hdestroyed
        have hall := h.destroyed hdestroyed
        omega
  | destroy =>
      obtain ⟨hall, _⟩ := hpermits
      have hsame :=
        startedHandlers_other log
          (show startedHandler .destroy reply = none from rfl)
      refine ⟨?_, ?_, ?_, fun _ => hall, Stage.noConfusion⟩
      · rw [hsame]
        exact h.started
      · rw [hsame]
        exact h.numbered
      · intro number hlt
        obtain ⟨reply', hmem⟩ := h.joined number hlt
        exact ⟨reply', List.mem_append_left _ hmem⟩
  | store value =>
      exact h.keep rfl rfl rfl (Or.inr rfl)
  | frame =>
      exact h.keep rfl rfl rfl (Or.inr rfl)
  | load =>
      exact h.keep rfl rfl rfl (Or.inl rfl)
  | wait =>
      exact h.keep rfl rfl rfl (Or.inl rfl)
  | transfer =>
      cases hpermits
  | library called =>
      cases called <;> exact h.keep rfl rfl rfl (Or.inl rfl)

/-- The law holds of every log that does a server's duties. -/
theorem Duty.law_after
    (h : (duties A flagged).Follows .initial log) :
    Duty.Law log ((duties A flagged).after .initial log) := by
  have hbegin : Duty.Law ([] : List (ServerCall A × ServerReply)) .initial := by
    refine ⟨rfl, ?_, ?_, ?_, fun _ => rfl⟩
    · intro number label hlabel
      cases hlabel
    · intro number hlt
      cases hlt
    · intro hdestroyed
      cases hdestroyed
  exact h.law Duty.Law
    (fun log duty call reply => Duty.law_step log duty call reply) hbegin

end Records

section Systems

variable {conduct : Conduct} {messages : List CppString}
variable {breaks : Abrupt → Speaker → Prop}
variable {machine : Machine (ServerCall A) ServerReply Abrupt (ServerLabel A)
  (HandlerLabel A) ServerState ServerChoice}

/-- What a configuration has that a run of a server reaches. -/
structure Served
    (conduct : Conduct) (messages : List CppString)
    (breaks : Abrupt → Speaker → Prop) (s : ServerConfig A) : Prop where
  main : (serverContract A conduct.watches).Standing
    (duties A conduct.watches) .initial s.main
  law : Duty.Law s.main.log
    ((duties A conduct.watches).after .initial s.main.log)
  count : s.workers.length =
    ((duties A conduct.watches).after .initial s.main.log).started
  workers : ∀ number, ∀ handler ∈ s.workers[number]?,
    ∃ data,
      (startedHandlers s.main.log)[number]? =
        some (.closure data (nextId number)) ∧
      (handlerContract A messages breaks).Standing (conversation A conduct)
        ⟨data.lowLevelSocket, .opening (welcome (nextId number) :: messages)⟩
        handler

theorem served_of_standing
    {main : ServerLabel A → ServerProgram A (Option (ServerLabel A))}
    {worker : HandlerLabel A → ServerProgram A (Option (HandlerLabel A))}
    {s : ServerConfig A}
    (h : (serverRegime A conduct messages breaks).Standing
      (serverMachine main worker) .initial s) :
    Served conduct messages breaks s := by
  have hlaw := Duty.law_after h.main.1
  refine ⟨h.main, hlaw, h.length_eq.symm.trans hlaw.started, ?_⟩
  intro number handler hpresent
  obtain ⟨label, hlabel, hstanding⟩ := h.worker hpresent
  obtain ⟨data, rfl⟩ := hlaw.numbered number label hlabel
  exact ⟨data, hlabel, hstanding⟩

namespace Served

variable {s : ServerConfig A}

/-- The log of a handler follows its conversation. -/
theorem follows
    (h : Served conduct messages breaks s)
    {number : Nat} {handler : Running (ServerCall A) ServerReply Abrupt
      (HandlerLabel A)}
    (hpresent : s.workers[number]? = some handler) :
    ∃ fd, (conversation A conduct).Follows
      ⟨fd, .opening (welcome (nextId number) :: messages)⟩ handler.log := by
  obtain ⟨data, _, hstanding⟩ := h.workers number handler hpresent
  exact ⟨data.lowLevelSocket, hstanding.1⟩

/-- Every handler keeps its conversation, and greets with its own number. -/
theorem conversed
    (h : Served conduct messages breaks s)
    {number : Nat} {handler : Running (ServerCall A) ServerReply Abrupt
      (HandlerLabel A)}
    (hpresent : s.workers[number]? = some handler) :
    Conversed conduct (welcome (nextId number) :: messages) handler.log := by
  obtain ⟨fd, hfollows⟩ := h.follows hpresent
  exact conversed_of_follows hfollows

/-- A handler that has ended closed its descriptor at last, and had a reason. -/
theorem ending
    (h : Served conduct messages breaks s)
    {number : Nat} {handler : Running (ServerCall A) ServerReply Abrupt
      (HandlerLabel A)}
    (hpresent : s.workers[number]? = some handler)
    (hended : handler.Ended) :
    ∃ data,
      (startedHandlers s.main.log)[number]? =
        some (.closure data (nextId number)) ∧
      (conversation A conduct).Follows
        ⟨data.lowLevelSocket, .opening (welcome (nextId number) :: messages)⟩
        handler.log ∧
      ∃ body, ClosedAfter data.lowLevelSocket body handler.log ∧
        Ending data.lowLevelSocket conduct
          (welcome (nextId number) :: messages) body := by
  obtain ⟨data, hlabel, hstanding⟩ := h.workers number handler hpresent
  refine ⟨data, hlabel, hstanding.1, ?_⟩
  have hlaw := (Speaker.law_after hstanding.1).2
  have hparted := hstanding.ended hended
  rw [show ((conversation A conduct).after _ handler.log).talk = .parted
    from hparted] at hlaw
  exact hlaw.2

end Served

end Systems

section Signals

variable {conduct : Conduct} {messages : List CppString}
variable {breaks : Abrupt → Speaker → Prop}
variable {main : ServerLabel A → ServerProgram A (Option (ServerLabel A))}
variable {worker : HandlerLabel A → ServerProgram A (Option (HandlerLabel A))}
variable {s t : ServerConfig A}

/-- The last call of the thread was a send to a peer that is gone. -/
def BrokenPipe (log : List (ServerCall A × ServerReply)) : Prop :=
  ∃ before fd buffer reply,
    log = before ++ [(ServerCall.transfer (.send fd buffer 0), reply)] ∧
      reply.transfer.result = -1 ∧ reply.transfer.errno = epipe

theorem brokenPipe_snoc
    (log : List (ServerCall A × ServerReply))
    (call : ServerCall A) (reply : ServerReply) :
    BrokenPipe (log ++ [(call, reply)]) ↔
      ∃ fd buffer, call = .transfer (.send fd buffer 0) ∧
        reply.transfer.result = -1 ∧ reply.transfer.errno = epipe := by
  constructor
  · rintro ⟨before, fd, buffer, reply', hlog, hfailed, herrno⟩
    obtain ⟨_, hlast⟩ := List.append_inj' hlog rfl
    cases hlast
    exact ⟨fd, buffer, rfl, hfailed, herrno⟩
  · rintro ⟨fd, buffer, rfl, hfailed, herrno⟩
    exact ⟨log, fd, buffer, reply, rfl, hfailed, herrno⟩

theorem not_brokenPipe_nil :
    ¬ BrokenPipe ([] : List (ServerCall A × ServerReply)) := by
  rintro ⟨before, fd, buffer, reply, hlog, _⟩
  cases before <;> cases hlog

/-- Only a transfer can kill the process. -/
theorem ServerState.answer_killed_other
    (self : ServerState) (choice : ServerChoice) {call : ServerCall A}
    (h : ∀ moved, call ≠ .transfer moved) :
    (self.answer choice call).2.killed = self.killed := by
  cases call <;> first | rfl | exact absurd rfl (h _)

/-- Where no transfer fails by the decision of the environment, nothing kills the
process. -/
theorem ServerState.answer_unkilled
    (self : ServerState) {choice : ServerChoice}
    (hchoice : choice.transfer.errno = none) (call : ServerCall A) :
    (self.answer choice call).2.killed = self.killed := by
  by_cases htransfer : ∃ moved, call = .transfer moved
  · obtain ⟨moved, rfl⟩ := htransfer
    simp only [ServerState.answer, self.kernel.transfer_silent hchoice,
      Bool.or_false]
  · exact self.answer_killed_other choice
      (fun moved hcall => htransfer ⟨moved, hcall⟩)

/-- The call of a handler kills the process when its pipe is broken: a handler
never asks for `MSG_NOSIGNAL`. -/
theorem answer_killed_iff
    {self : ServerState} (hself : self.killed = false)
    {speaker : Speaker} {call : ServerCall A}
    (hpermits : speaker.permits conduct call)
    (choice : ServerChoice) (log : List (ServerCall A × ServerReply)) :
    (self.answer choice call).2.killed = true ↔
      BrokenPipe (log ++ [(call, (self.answer choice call).1)]) := by
  rw [brokenPipe_snoc]
  by_cases htransfer : ∃ moved, call = .transfer moved
  · obtain ⟨moved, rfl⟩ := htransfer
    cases moved with
    | send fd buffer flags =>
        obtain ⟨_, message, _, rfl, rfl⟩ := hpermits
        have hflags : hasNosignal 0 = false := by
          decide
        simp [ServerState.answer, TransferCall.raisesSigpipe, hself, hflags]
    | recv => cases hpermits
    | read fd length =>
        simp [ServerState.answer, TransferCall.raisesSigpipe, hself]
  · have hother : ∀ moved, call ≠ .transfer moved := by
      intro moved hcall
      exact htransfer ⟨moved, hcall⟩
    rw [self.answer_killed_other choice hother, hself]
    refine iff_of_false Bool.noConfusion ?_
    rintro ⟨fd, buffer, hcall, _⟩
    exact hother _ hcall

/-- The process was killed when a handler's pipe was broken, and by nothing
else. -/
def KilledLaw (s : ServerConfig A) : Prop :=
  s.shared.killed = true ↔ ∃ handler ∈ s.workers, BrokenPipe handler.log

theorem KilledLaw.step
    (hserved : Served conduct messages breaks s)
    (h : KilledLaw s)
    {event : Event (ServerCall A) ServerReply}
    (hstep : (serverMachine main worker).Step s event t) :
    KilledLaw t := by
  have hrunning : s.shared.killed = false := hstep.running
  have hnobody : ∀ handler ∈ s.workers, ¬ BrokenPipe handler.log := by
    intro handler hmem hbroken
    rw [h.mpr ⟨handler, hmem, hbroken⟩] at hrunning
    cases hrunning
  cases hstep with
  | main event after shared moves answers free =>
      refine iff_of_false ?_ ?_
      · rw [Bool.not_eq_true]
        cases answers with
        | jump =>
            exact hrunning
        | call choice call =>
            have hpermits := hserved.main.permits_moves moves
            refine (s.shared.answer_killed_other choice ?_).trans hrunning
            rintro moved rfl
            cases hpermits
      · rintro ⟨handler, hmem, hbroken⟩
        rcases List.mem_append.mp hmem with hold | hnew
        · exact hnobody handler hold hbroken
        · obtain ⟨label, _, rfl⟩ := List.mem_map.mp hnew
          exact not_brokenPipe_nil hbroken
  | worker number event thread after shared present moves answers free =>
      have hthread := hnobody thread (List.mem_of_getElem? present)
      have hafter : after ∈ s.workers.set number after :=
        List.mem_set (List.getElem?_eq_some_iff.mp present).1 after
      have honly : (∃ handler ∈ s.workers.set number after,
          BrokenPipe handler.log) ↔ BrokenPipe after.log := by
        constructor
        · rintro ⟨handler, hmem, hbroken⟩
          rcases List.mem_or_eq_of_mem_set hmem with hold | rfl
          · exact absurd hbroken (hnobody handler hold)
          · exact hbroken
        · intro hbroken
          exact ⟨after, hafter, hbroken⟩
      rw [KilledLaw, honly, moves.log_eq]
      cases answers with
      | jump =>
          rw [Option.toList_none, List.append_nil]
          exact iff_of_false (by rw [hrunning]; exact Bool.noConfusion) hthread
      | call choice call =>
          obtain ⟨data, _, hstanding⟩ :=
            hserved.workers number thread present
          exact answer_killed_iff hrunning (hstanding.permits_moves moves)
            choice thread.log

end Signals

section Lifetime

variable {conduct : Conduct} {messages : List CppString}
variable {breaks : Abrupt → Speaker → Prop}
variable {main : ServerLabel A → ServerProgram A (Option (ServerLabel A))}
variable {worker : HandlerLabel A → ServerProgram A (Option (HandlerLabel A))}

/-- A server that was destroyed stays destroyed. -/
theorem Duty.next_destroyed
    {duty : Duty} {call : ServerCall A} (reply : ServerReply)
    (hstage : duty.stage = .destroyed)
    (hpermits : duty.permits conduct.watches call) :
    (duty.next call reply).stage = .destroyed := by
  cases call with
  | library called =>
      cases called <;> exact hstage
  | startThread data id =>
      have hserving : duty.stage = .serving := hpermits.1
      rw [hstage] at hserving
      cases hserving
  | store value =>
      have hconstructing : duty.stage = .constructing := hpermits.2
      rw [hstage] at hconstructing
      cases hconstructing
  | frame =>
      exact absurd hstage (Stage.Ready.alive hpermits)
  | wait => exact hstage
  | transfer => exact hstage
  | join => exact hstage
  | load => exact hstage
  | destroy => rfl

/-- The life of the server object is over only when its thread has ended it. -/
def DestroyedByMain (conduct : Conduct) (s : ServerConfig A) : Prop :=
  s.shared.destroyed = true →
    ((duties A conduct.watches).after .initial s.main.log).stage = .destroyed

theorem DestroyedByMain.step
    {s t : ServerConfig A} {event : Event (ServerCall A) ServerReply}
    (hserved : (serverRegime A conduct messages breaks).Standing
      (serverMachine main worker) .initial s)
    (h : DestroyedByMain conduct s)
    (hstep : (serverMachine main worker).Step s event t) :
    DestroyedByMain conduct t := by
  intro hdestroyed
  cases hstep with
  | main event after shared moves answers free =>
      have hstanding := hserved.main
      cases answers with
      | jump =>
          rw [moves.log_eq, Option.toList_none, List.append_nil]
          exact h hdestroyed
      | call choice call =>
          have hpermits := hstanding.permits_moves moves
          rw [moves.log_eq, Option.toList_some,
            (duties A conduct.watches).after_append]
          change (Duty.next _ call _).stage = .destroyed
          by_cases hcall : call = .destroy
          · rw [hcall]
            rfl
          · have hbefore : s.shared.destroyed = true := by
              rw [← s.shared.answer_destroyed choice hcall]
              exact hdestroyed
            exact Duty.next_destroyed _ (h hbefore) hpermits
  | worker number event thread after shared present moves answers free =>
      refine h ?_
      obtain ⟨label, _, hstanding⟩ := hserved.worker present
      cases answers with
      | jump =>
          exact hdestroyed
      | call choice call =>
          have hpermits := hstanding.permits_moves moves
          have hcall : call ≠ .destroy := by
            rintro rfl
            cases hpermits
          rw [← s.shared.answer_destroyed choice hcall]
          exact hdestroyed

/-- Whoever a server has joined has ended, and it has joined all handlers when
it is destroyed. -/
theorem Served.all_ended
    {s : ServerConfig A}
    (h : Served conduct messages breaks s)
    (hawaited : Machine.Awaited (serverMachine main worker) s)
    (hstage : ((duties A conduct.watches).after .initial s.main.log).stage =
      .destroyed) :
    ∀ handler ∈ s.workers, handler.Ended := by
  intro handler hmem
  obtain ⟨number, hlt, hpresent⟩ := List.getElem_of_mem hmem
  have hjoined :
      number < ((duties A conduct.watches).after .initial s.main.log).joined := by
    rw [h.law.destroyed hstage, ← h.count]
    exact hlt
  obtain ⟨reply, hjoin⟩ := h.law.joined number hjoined
  obtain ⟨ended, hthere, hended⟩ := hawaited _ reply number hjoin rfl
  rw [List.getElem?_eq_getElem hlt] at hthere
  cases hthere
  rwa [hpresent] at hended

/-- What every run of a server keeps. -/
structure ServedRun
    (conduct : Conduct) (messages : List CppString)
    (breaks : Abrupt → Speaker → Prop)
    (machine : Machine (ServerCall A) ServerReply Abrupt (ServerLabel A)
      (HandlerLabel A) ServerState ServerChoice)
    (s : ServerConfig A) : Prop where
  served : Served conduct messages breaks s
  destroyed : DestroyedByMain conduct s
  killed : KilledLaw s
  awaited : Machine.Awaited machine s

theorem standing_of_run
    (hmain : (serverContract A conduct.watches).Sound
      (duties A conduct.watches) main)
    (hworker : (handlerContract A messages breaks).Sound
      (conversation A conduct) worker)
    {shared : ServerState} {address : A} {s : ServerConfig A}
    {events : List (Event (ServerCall A) ServerReply)}
    (hrun : (serverMachine main worker).Run
      ((serverMachine main worker).initial shared (.construct address))
      events s) :
    (serverRegime A conduct messages breaks).Standing
      (serverMachine main worker) .initial s := by
  have henters :
      (serverContract A conduct.watches).enters (.construct address)
        .initial := by
    rfl
  exact Regime.standing (serverRegime_sound hmain hworker) trivial henters hrun

theorem servedRun
    (hmain : (serverContract A conduct.watches).Sound
      (duties A conduct.watches) main)
    (hworker : (handlerContract A messages breaks).Sound
      (conversation A conduct) worker)
    {shared : ServerState} (halive : shared.destroyed = false)
    (hrunning : shared.killed = false)
    {address : A} {s : ServerConfig A}
    {events : List (Event (ServerCall A) ServerReply)}
    (hrun : (serverMachine main worker).Run
      ((serverMachine main worker).initial shared (.construct address))
      events s) :
    ServedRun conduct messages breaks (serverMachine main worker) s := by
  refine ⟨served_of_standing (standing_of_run hmain hworker hrun), ?_, ?_,
    Machine.awaited hrun⟩
  · induction hrun with
    | nil =>
        intro hdestroyed
        have hflag : shared.destroyed = true := hdestroyed
        rw [halive] at hflag
        cases hflag
    | snoc events t event u run step ih =>
        exact ih.step (standing_of_run hmain hworker run) step
  · induction hrun with
    | nil =>
        refine iff_of_false ?_ ?_
        · change ¬ shared.killed = true
          rw [hrunning]
          exact Bool.noConfusion
        · rintro ⟨handler, hmem, _⟩
          cases hmem
    | snoc events t event u run step ih =>
        exact ih.step (served_of_standing (standing_of_run hmain hworker run))
          step

/-- A handler that has broken off did so over its own descriptor. -/
theorem broken_talk
    {fd : Int} {opening : List CppString}
    {handler : Running (ServerCall A) ServerReply Abrupt (HandlerLabel A)}
    {e : Abrupt}
    (h : (handlerContract A messages breaks).Standing
      (conversation A conduct) ⟨fd, .opening opening⟩ handler)
    (hprogram : handler.program = .throw e) :
    ∃ talk, breaks e ⟨fd, talk⟩ := by
  obtain ⟨hfd, _⟩ := Speaker.law_after h.1
  have hbroken := h.2
  rw [hprogram] at hbroken
  generalize (conversation A conduct).after ⟨fd, .opening opening⟩
    handler.log = speaker at hfd hbroken
  obtain ⟨own, talk⟩ := speaker
  obtain rfl : own = fd := hfd
  exact ⟨talk, hbroken⟩

namespace ServedRun

variable {s t : ServerConfig A}

/-- When the server object is destroyed no handler is left, and nobody looks at
the flag any more. -/
theorem after_destroy
    (h : ServedRun conduct messages breaks (serverMachine main worker) s)
    (hdestroyed : s.shared.destroyed = true) :
    (∀ handler ∈ s.workers, handler.Ended) ∧
      ∀ event t, (serverMachine main worker).Step s event t →
        ∃ own, event = .main own ∧
          ∀ reply, own ≠ some (.load, reply) ∧
            ∀ value, own ≠ some (.store value, reply) := by
  have hstage := h.destroyed hdestroyed
  have hended := h.served.all_ended h.awaited hstage
  refine ⟨hended, ?_⟩
  intro event t hstep
  cases hstep with
  | main own after shared moves answers free =>
      refine ⟨own, rfl, ?_⟩
      intro reply
      refine ⟨?_, ?_⟩
      · rintro rfl
        have hserving :
            ((duties A conduct.watches).after .initial s.main.log).stage =
              .serving :=
          h.served.main.permits_moves moves
        rw [hstage] at hserving
        cases hserving
      · rintro value rfl
        have hconstructing :
            ((duties A conduct.watches).after .initial s.main.log).stage =
              .constructing :=
          (h.served.main.permits_moves moves).2
        rw [hstage] at hconstructing
        cases hconstructing
  | worker number own thread after shared present moves answers free =>
      exact absurd (hended thread (List.mem_of_getElem? present))
        moves.not_ended

/-- A configuration that cannot go on without being killed has ended, or a thread
of it has broken off as its contract says. -/
theorem stuck
    (h : ServedRun conduct messages breaks (serverMachine main worker) s)
    (hrunning : s.shared.killed = false)
    (hstuck : ¬ ∃ event t, (serverMachine main worker).Step s event t ∧
      t.shared.killed = false) :
    (s.main.Ended ∧ ∀ handler ∈ s.workers, handler.Ended) ∨
      (∃ e, s.main.program = .throw e ∧
        (e = .undefined ∨
          ((duties A conduct.watches).after .initial s.main.log).stage =
            .constructing)) ∨
      ∃ (number : Nat) (handler : Running (ServerCall A) ServerReply Abrupt
          (HandlerLabel A)) (data : AcceptedSocketData A) (e : Abrupt)
          (talk : Talk),
        s.workers[number]? = some handler ∧
        handler.program = .throw e ∧
        (startedHandlers s.main.log)[number]? =
          some (.closure data (nextId number)) ∧
        breaks e ⟨data.lowLevelSocket, talk⟩ := by
  have hmainAwaits : ∀ call number, Machine.AboutTo s.main call →
      (serverMachine main worker).awaits call = some number →
        number < s.workers.length := by
    rintro call number ⟨k, hprogram⟩ hawaits
    cases call with
    | join other =>
        cases hawaits
        have hpermits := h.served.main.2
        rw [hprogram] at hpermits
        rw [h.served.count]
        exact hpermits.1.2
    | library => cases hawaits
    | wait => cases hawaits
    | transfer => cases hawaits
    | startThread => cases hawaits
    | load => cases hawaits
    | store => cases hawaits
    | frame => cases hawaits
    | destroy => cases hawaits
  have hworkersAwait : ∀ handler ∈ s.workers, ∀ call,
      Machine.AboutTo handler call →
        (serverMachine main worker).awaits call = none := by
    rintro handler hmem call ⟨k, hprogram⟩
    obtain ⟨number, hlt, rfl⟩ := List.getElem_of_mem hmem
    obtain ⟨data, _, hstanding⟩ :=
      h.served.workers number _ (List.getElem?_eq_getElem hlt)
    have hpermits := hstanding.2
    rw [hprogram] at hpermits
    cases call with
    | join other =>
        cases hpermits.1
    | library => rfl
    | wait => rfl
    | transfer => rfl
    | startThread => rfl
    | load => rfl
    | store => rfl
    | frame => rfl
    | destroy => rfl
  have hcalm : ∀ call : ServerCall A,
      (s.shared.answer .calm call).2.killed = false :=
    fun call => (s.shared.answer_unkilled rfl call).trans hrunning
  rcases Machine.progress hrunning hcalm hmainAwaits hworkersAwait hstuck with
    hended | ⟨e, hprogram⟩ | ⟨handler, hmem, e, hprogram⟩
  · exact Or.inl hended
  · refine Or.inr (Or.inl ⟨e, hprogram, ?_⟩)
    have hbroken := h.served.main.2
    rw [hprogram] at hbroken
    exact hbroken
  · obtain ⟨number, hlt, rfl⟩ := List.getElem_of_mem hmem
    have hpresent := List.getElem?_eq_getElem hlt
    obtain ⟨data, hlabel, hstanding⟩ := h.served.workers number _ hpresent
    obtain ⟨talk, hbroken⟩ := broken_talk hstanding hprogram
    exact Or.inr (Or.inr ⟨number, _, data, e, talk, hpresent, hprogram,
      hlabel, hbroken⟩)

end ServedRun

end Lifetime

section Visit

/-- Nothing fails: a client from the loopback address has connected, every
descriptor is readable, and this chunk has come. -/
def ServerChoice.brings (chunk : CppString) : ServerChoice where
  library := ⟨none, 3, InetAddress.loopbackEntry.aiAddr⟩
  wait := ⟨none, fun _ => true, fun _ => false, fun _ => false, 0⟩
  transfer := ⟨none, 1000, chunk⟩
  frame := ⟨16, []⟩

/-- The peer of the connection is gone. -/
def ServerChoice.gone : ServerChoice :=
  { ServerChoice.calm with transfer := ⟨some epipe, 0, []⟩ }

def loopbackClass : AddressClass Address :=
  Address.libraryClass (InetAddress.resolvingLibc [])

/-- A server on the loopback address that is about to be constructed. -/
def loopbackStart
    (machine : Machine (ServerCall Address) ServerReply Abrupt
      (ServerLabel Address) (HandlerLabel Address) ServerState ServerChoice)
    (flag : Bool) : ServerConfig Address :=
  machine.initial ⟨Factory.standardKernel, flag, false, false⟩
    (.construct (.inet InetAddress.loopbackAddress))

end Visit

end BsdSockets
