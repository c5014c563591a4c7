import BsdSockets.Handlers

/-!
# The conversation of a handler

What a handler is for, stated without its code: it sends its opening messages,
then answers every chunk that it receives with one message, in order, until a
chunk or a failure ends the conversation.  `Conduct` has what the handlers
differ in, `Talk` is how far a conversation has come, and `conversation` is the
discipline that a handler's calls follow.

`Conversed` is what a log says when it follows the discipline: the messages sent
are a prefix of the opening messages and then the answers to the chunks
received, in order and without a gap, with at most the last one missing.
-/

namespace BsdSockets

open Resumption

variable {A : Type}

section Conducts

/-- What follows an answer. -/
inductive Verdict where
  | goesOn
  | leaves
  | shutsDown
deriving DecidableEq

structure Answer where
  message : CppString
  verdict : Verdict
deriving DecidableEq

/-- How a handler answers, and whether it watches the flag of its server. -/
structure Conduct where
  answer : CppString → Answer
  watches : Bool

def EchoHandler.conduct : Conduct where
  answer chunk :=
    if literal "quit" <+: chunk then ⟨goodbye, .leaves⟩
    else ⟨chunk, .goesOn⟩
  watches := false

def CommandHandler.conduct : Conduct where
  answer chunk :=
    if literal "terminate" <+: chunk then ⟨requestingShutdown, .shutsDown⟩
    else if literal "quit" <+: chunk then ⟨goodbye, .leaves⟩
    else ⟨chunk, .goesOn⟩
  watches := true

end Conducts

section Protocol

/-- How far a conversation has come. -/
inductive Talk where
  | greeting (message : CppString) (later : List CppString)
  | listening
  | answering (answer : Answer)
  | announcing
  | alarmed
  | parting
  | parted
deriving DecidableEq

namespace Talk

/-- The conversation that begins with these messages. -/
def opening : List CppString → Talk
  | [] => listening
  | message :: later => greeting message later

/-- The message that has to be sent now. -/
def due : Talk → Option CppString
  | greeting message _ => some message
  | answering answer => some answer.message
  | _ => none

/-- After a message was sent. -/
def said : Talk → Talk
  | greeting _ later => opening later
  | answering answer =>
      match answer.verdict with
      | .goesOn => listening
      | .leaves => parting
      | .shutsDown => announcing
  | other => other

/-- After a message could not be sent. -/
def unsaid : Talk → Talk
  | greeting _ _ => listening
  | answering _ => parting
  | other => other

/-- After a look at a flag that is not set. -/
def looked : Talk → Talk
  | alarmed => parting
  | other => other

end Talk

/-- A conversation and the descriptor it goes over. -/
structure Speaker where
  fd : Int
  talk : Talk
deriving DecidableEq

/-- A `select` failed or reports an error of the descriptor. -/
def WaitReply.Alarming (reply : WaitReply) (fd : Int) : Prop :=
  reply.result = -1 ∨ ∃ index ∈ reply.error, (index.val : Int) = fd

instance (reply : WaitReply) (fd : Int) : Decidable (reply.Alarming fd) :=
  inferInstanceAs (Decidable (_ ∨ _))

namespace Speaker

variable (conduct : Conduct)

def permits (self : Speaker) : ServerCall A → Prop
  | .transfer (.send fd buffer flags) =>
      fd = self.fd ∧
        ∃ message, self.talk.due = some message ∧ buffer = cStr message ∧
          flags = 0
  | .transfer (.read fd _) => fd = self.fd ∧ self.talk = .listening
  | .transfer (.recv _ _ _) => False
  | .wait _ => conduct.watches = true ∧ self.talk = .listening
  | .load =>
      conduct.watches = true ∧ (self.talk = .listening ∨ self.talk = .alarmed)
  | .store value => value = true ∧ self.talk = .announcing
  | .library (.close fd) => fd = self.fd ∧ self.talk = .parting
  | _ => False

/-- After a call. -/
def next (self : Speaker) (call : ServerCall A) (reply : ServerReply) :
    Speaker :=
  match call with
  | .transfer (.send _ _ _) =>
      if reply.transfer.result = -1 then { self with talk := self.talk.unsaid }
      else { self with talk := self.talk.said }
  | .transfer (.read _ _) =>
      if reply.transfer.result = -1 then { self with talk := .parting }
      else if reply.transfer.result = 0 then self
      else { self with
        talk := .answering (conduct.answer reply.transfer.written) }
  | .wait _ =>
      if reply.wait.result = -1 then { self with talk := .parting }
      else if reply.wait.Alarming self.fd then { self with talk := .alarmed }
      else self
  | .load =>
      if reply.flag then { self with talk := .parting }
      else { self with talk := self.talk.looked }
  | .store _ => { self with talk := .parting }
  | .library (.close _) => { self with talk := .parted }
  | _ => self

/-- The descriptor stays the same. -/
@[simp] theorem next_fd
    (self : Speaker) (call : ServerCall A) (reply : ServerReply) :
    (self.next conduct call reply).fd = self.fd := by
  unfold next
  split <;> (try split) <;> (try split) <;> rfl

end Speaker

/-- The replies that a thread may get. -/
def ServerCall.Possible (call : ServerCall A) (reply : ServerReply) : Prop :=
  match call with
  | .transfer call => call.Possible reply.transfer
  | _ => True

/-- What a handler's calls follow. -/
def conversation (A : Type) (conduct : Conduct) :
    Discipline (ServerCall A) ServerReply Speaker where
  permits := Speaker.permits conduct
  possible := ServerCall.Possible
  next := Speaker.next conduct

end Protocol

section Records

/-- What a thread has sent: the buffers of the sends that did not fail. -/
def sent (log : List (ServerCall A × ServerReply)) : List (List UInt8) :=
  log.filterMap
    (fun entry =>
      match entry.1 with
      | .transfer (.send _ buffer _) =>
          if entry.2.transfer.result = -1 then none else some buffer
      | _ => none)

/-- What a thread has received: the chunks of the reads that gave any. -/
def chunks (log : List (ServerCall A × ServerReply)) : List CppString :=
  log.filterMap
    (fun entry =>
      match entry.1 with
      | .transfer (.read _ _) =>
          if entry.2.transfer.result = -1 ∨ entry.2.transfer.result = 0 then
            none
          else some entry.2.transfer.written
      | _ => none)

theorem sent_append
    (first second : List (ServerCall A × ServerReply)) :
    sent (first ++ second) = sent first ++ sent second := by
  exact List.filterMap_append

theorem chunks_append
    (first second : List (ServerCall A × ServerReply)) :
    chunks (first ++ second) = chunks first ++ chunks second := by
  exact List.filterMap_append

/-- What was sent is a prefix of the messages and then the answers to these
chunks. -/
def Said
    (conduct : Conduct) (messages : List CppString)
    (buffers : List (List UInt8)) (answered : List CppString) : Prop :=
  ∃ opening, opening <+: messages ∧
    buffers =
      (opening ++ answered.map (fun chunk => (conduct.answer chunk).message)).map
        cStr

/-- Every chunk but the last one leaves the conversation going on; every chunk
is answered, in order, with the possible exception of the last one. -/
def Conversed
    (conduct : Conduct) (messages : List CppString)
    (log : List (ServerCall A × ServerReply)) : Prop :=
  ∃ before last, chunks log = before ++ last ∧ last.length ≤ 1 ∧
    (∀ chunk ∈ before, (conduct.answer chunk).verdict = .goesOn) ∧
    (Said conduct messages (sent log) before ∨
      Said conduct messages (sent log) (before ++ last))

/-- The last call of the thread was a transfer, and it failed. -/
def TransferFailed (log : List (ServerCall A × ServerReply)) : Prop :=
  ∃ before call reply, log = before ++ [(ServerCall.transfer call, reply)] ∧
    reply.transfer.result = -1

/-- The last call of the thread closed this descriptor; the body is what it had
done before. -/
def ClosedAfter
    (fd : Int) (body log : List (ServerCall A × ServerReply)) : Prop :=
  ∃ reply, log = body ++ [(ServerCall.library (.close fd), reply)]

/-- The thread was told of an error while it waited. -/
def Alarmed (fd : Int) (log : List (ServerCall A × ServerReply)) : Prop :=
  ∃ call reply, (ServerCall.wait call, reply) ∈ log ∧
    reply.wait.Alarming fd

/-- The last that the thread was told is an error; since then it has at most
looked at the flag. -/
def JustAlarmed (fd : Int) (log : List (ServerCall A × ServerReply)) : Prop :=
  ∃ before call reply looks,
    log = before ++ (ServerCall.wait call, reply) :: looks ∧
      reply.wait.Alarming fd ∧ ∀ entry ∈ looks, entry.1 = .load

/-- The thread has seen the flag set. -/
def SawFlag (log : List (ServerCall A × ServerReply)) : Prop :=
  ∃ reply, (ServerCall.load, reply) ∈ log ∧ reply.flag = true

/-- The last chunk asked for the end, and it was answered. -/
def Dismissed
    (conduct : Conduct) (messages : List CppString)
    (log : List (ServerCall A × ServerReply)) : Prop :=
  ∃ before chunk, chunks log = before ++ [chunk] ∧
    (conduct.answer chunk).verdict ≠ .goesOn ∧
    Said conduct messages (sent log) (chunks log)

/-- Why a conversation over a descriptor ends, as its log says up to there. -/
def Ending
    (fd : Int) (conduct : Conduct) (messages : List CppString)
    (log : List (ServerCall A × ServerReply)) : Prop :=
  TransferFailed log ∨ JustAlarmed fd log ∨ SawFlag log ∨
    Dismissed conduct messages log

end Records

section Law

variable {fd : Int} {conduct : Conduct} {messages : List CppString}
variable {log : List (ServerCall A × ServerReply)}

/-- What a log says where the conversation has come this far. -/
def Talk.Law
    (fd : Int) (conduct : Conduct) (messages : List CppString)
    (log : List (ServerCall A × ServerReply)) : Talk → Prop
  | greeting message later =>
      ∃ done, messages = done ++ message :: later ∧
        sent log = done.map cStr ∧ chunks log = []
  | listening =>
      Said conduct messages (sent log) (chunks log) ∧
        ∀ chunk ∈ chunks log, (conduct.answer chunk).verdict = .goesOn
  | answering answer =>
      ∃ before chunk, chunks log = before ++ [chunk] ∧
        answer = conduct.answer chunk ∧
        Said conduct messages (sent log) before ∧
        ∀ chunk ∈ before, (conduct.answer chunk).verdict = .goesOn
  | announcing =>
      ∃ before chunk, chunks log = before ++ [chunk] ∧
        (conduct.answer chunk).verdict = .shutsDown ∧
        Said conduct messages (sent log) (chunks log) ∧
        ∀ chunk ∈ before, (conduct.answer chunk).verdict = .goesOn
  | alarmed => Conversed conduct messages log ∧ JustAlarmed fd log
  | parting => Conversed conduct messages log ∧ Ending fd conduct messages log
  | parted =>
      Conversed conduct messages log ∧
        ∃ body, ClosedAfter fd body log ∧ Ending fd conduct messages body

/-- One more answer. -/
theorem Said.snoc
    {buffers : List (List UInt8)} {answered : List CppString}
    (h : Said conduct messages buffers answered) (chunk : CppString) :
    Said conduct messages
      (buffers ++ [cStr (conduct.answer chunk).message])
      (answered ++ [chunk]) := by
  obtain ⟨opening, hprefix, rfl⟩ := h
  refine ⟨opening, hprefix, ?_⟩
  simp

/-- The messages sent so far are a beginning of the opening messages. -/
theorem said_opening
    {opening : List CppString}
    (h : opening <+: messages) :
    Said conduct messages (opening.map cStr) [] := by
  refine ⟨opening, h, ?_⟩
  simp

/-- A conversation that has answered everything. -/
theorem Conversed.of_said
    (hsaid : Said conduct messages (sent log) (chunks log))
    (hgoes : ∀ chunk ∈ chunks log,
      (conduct.answer chunk).verdict = .goesOn) :
    Conversed conduct messages log :=
  ⟨chunks log, [], (List.append_nil _).symm, Nat.zero_le _, hgoes,
    Or.inl hsaid⟩

/-- However far it has come, the conversation is in order. -/
theorem Talk.Law.conversed
    {talk : Talk}
    (h : talk.Law fd conduct messages log) :
    Conversed conduct messages log := by
  cases talk with
  | greeting message later =>
      obtain ⟨done, hmessages, hsent, hchunks⟩ := h
      apply Conversed.of_said
      · rw [hsent, hchunks]
        exact said_opening ⟨message :: later, hmessages.symm⟩
      · rw [hchunks]
        simp
  | listening =>
      exact Conversed.of_said h.1 h.2
  | answering answer =>
      obtain ⟨before, chunk, hchunks, _, hsaid, hgoes⟩ := h
      exact ⟨before, [chunk], hchunks, Nat.le_refl _, hgoes, Or.inl hsaid⟩
  | announcing =>
      obtain ⟨before, chunk, hchunks, _, hsaid, hgoes⟩ := h
      refine ⟨before, [chunk], hchunks, Nat.le_refl _, hgoes, Or.inr ?_⟩
      rwa [← hchunks]
  | alarmed =>
      exact h.1
  | parting =>
      exact h.1
  | parted =>
      exact h.1

theorem Talk.law_opening
    (done : List CppString) {messages' : List CppString}
    (hmessages : messages = done ++ messages')
    (hsent : sent log = done.map cStr)
    (hchunks : chunks log = []) :
    (Talk.opening messages').Law fd conduct messages log := by
  cases messages' with
  | nil =>
      refine ⟨?_, ?_⟩
      · rw [hsent, hchunks]
        exact said_opening ⟨[], hmessages.symm⟩
      · rw [hchunks]
        simp
  | cons message later =>
      exact ⟨done, hmessages, hsent, hchunks⟩

end Law

section Steps

variable {fd : Int} {conduct : Conduct} {messages : List CppString}
variable {log : List (ServerCall A × ServerReply)}

/-- A call that moves no bytes. -/
def ServerCall.Silent : ServerCall A → Prop
  | .transfer _ => False
  | _ => True

theorem sent_silent
    (log : List (ServerCall A × ServerReply)) {call : ServerCall A}
    (h : call.Silent) (reply : ServerReply) :
    sent (log ++ [(call, reply)]) = sent log := by
  rw [sent_append]
  cases call <;> first | exact List.append_nil _ | cases h

theorem chunks_silent
    (log : List (ServerCall A × ServerReply)) {call : ServerCall A}
    (h : call.Silent) (reply : ServerReply) :
    chunks (log ++ [(call, reply)]) = chunks log := by
  rw [chunks_append]
  cases call <;> first | exact List.append_nil _ | cases h

theorem sent_read
    (log : List (ServerCall A × ServerReply))
    (fd : Int) (length : Nat) (reply : ServerReply) :
    sent (log ++ [(.transfer (.read fd length), reply)]) = sent log := by
  rw [sent_append]
  exact List.append_nil _

theorem chunks_send
    (log : List (ServerCall A × ServerReply))
    (fd : Int) (buffer : List UInt8) (flags : Int) (reply : ServerReply) :
    chunks (log ++ [(.transfer (.send fd buffer flags), reply)]) =
      chunks log := by
  rw [chunks_append]
  exact List.append_nil _

theorem sent_send
    (log : List (ServerCall A × ServerReply))
    (fd : Int) (buffer : List UInt8) (flags : Int) {reply : ServerReply}
    (h : reply.transfer.result ≠ -1) :
    sent (log ++ [(.transfer (.send fd buffer flags), reply)]) =
      sent log ++ [buffer] := by
  rw [sent_append]
  simp [sent, h]

theorem sent_send_failed
    (log : List (ServerCall A × ServerReply))
    (fd : Int) (buffer : List UInt8) (flags : Int) {reply : ServerReply}
    (h : reply.transfer.result = -1) :
    sent (log ++ [(.transfer (.send fd buffer flags), reply)]) =
      sent log := by
  rw [sent_append]
  simp [sent, h]

theorem chunks_read
    (log : List (ServerCall A × ServerReply))
    (fd : Int) (length : Nat) {reply : ServerReply}
    (hfailed : reply.transfer.result ≠ -1)
    (hempty : reply.transfer.result ≠ 0) :
    chunks (log ++ [(.transfer (.read fd length), reply)]) =
      chunks log ++ [reply.transfer.written] := by
  rw [chunks_append]
  simp [chunks, hfailed, hempty]

theorem chunks_read_nothing
    (log : List (ServerCall A × ServerReply))
    (fd : Int) (length : Nat) {reply : ServerReply}
    (h : reply.transfer.result = -1 ∨ reply.transfer.result = 0) :
    chunks (log ++ [(.transfer (.read fd length), reply)]) = chunks log := by
  rw [chunks_append]
  simp [chunks, h]

/-- Where nothing was said or heard, a conversation is as far as it was. -/
theorem Conversed.congr
    {log' : List (ServerCall A × ServerReply)}
    (hsent : sent log' = sent log) (hchunks : chunks log' = chunks log)
    (h : Conversed conduct messages log) :
    Conversed conduct messages log' := by
  rw [Conversed, hsent, hchunks]
  exact h

/-- A transfer that has just failed. -/
theorem transferFailed_snoc
    (call : TransferCall) {reply : ServerReply}
    (h : reply.transfer.result = -1) :
    TransferFailed (log ++ [(.transfer call, reply)]) :=
  ⟨log, call, reply, rfl, h⟩

theorem justAlarmed_snoc
    (log : List (ServerCall A × ServerReply)) (call : WaitCall)
    {reply : ServerReply}
    (h : reply.wait.Alarming fd) :
    JustAlarmed fd (log ++ [(.wait call, reply)]) := by
  refine ⟨log, call, reply, [], rfl, h, ?_⟩
  intro entry hmem
  cases hmem

theorem JustAlarmed.look
    (h : JustAlarmed fd log) (reply : ServerReply) :
    JustAlarmed fd (log ++ [(.load, reply)]) := by
  obtain ⟨before, call, alarm, looks, rfl, halarm, hlooks⟩ := h
  refine ⟨before, call, alarm, looks ++ [(.load, reply)], ?_, halarm, ?_⟩
  · rw [List.append_assoc, List.cons_append]
  · intro entry hmem
    rcases List.mem_append.mp hmem with hold | hnew
    · exact hlooks entry hold
    · rw [List.mem_singleton.mp hnew]

/-- After a message was sent, or could not be sent. -/
theorem Talk.Law.send
    {talk : Talk} {message : CppString}
    (h : talk.Law fd conduct messages log)
    (hdue : talk.due = some message)
    (target flags : Int) (reply : ServerReply) :
    (if reply.transfer.result = -1 then talk.unsaid else talk.said).Law fd conduct
      messages
      (log ++ [(.transfer (.send target (cStr message) flags), reply)]) := by
  by_cases hfailed : reply.transfer.result = -1
  · rw [if_pos hfailed]
    have hsent := sent_send_failed log target (cStr message) flags hfailed
    have hchunks := chunks_send log target (cStr message) flags reply
    cases talk with
    | greeting first later =>
        obtain ⟨done, hmessages, hsaid, hnone⟩ := h
        refine ⟨?_, ?_⟩
        · rw [hsent, hchunks, hsaid, hnone]
          exact said_opening ⟨first :: later, hmessages.symm⟩
        · rw [hchunks, hnone]
          simp
    | answering answer =>
        exact ⟨h.conversed.congr hsent hchunks,
          Or.inl (transferFailed_snoc _ hfailed)⟩
    | listening => cases hdue
    | announcing => cases hdue
    | alarmed => cases hdue
    | parting => cases hdue
    | parted => cases hdue
  · rw [if_neg hfailed]
    have hsent := sent_send log target (cStr message) flags hfailed
    have hchunks := chunks_send log target (cStr message) flags reply
    cases talk with
    | greeting first later =>
        obtain ⟨done, hmessages, hsaid, hnone⟩ := h
        cases hdue
        apply Talk.law_opening (done ++ [message])
        · rw [hmessages, List.append_assoc]
          rfl
        · rw [hsent, hsaid, List.map_append]
          rfl
        · rw [hchunks, hnone]
    | answering answer =>
        obtain ⟨before, chunk, hlast, rfl, hsaid, hgoes⟩ := h
        cases hdue
        have hall :
            Said conduct messages
              (sent (log ++ [(.transfer (.send target
                (cStr (conduct.answer chunk).message) flags), reply)]))
              (chunks (log ++ [(.transfer (.send target
                (cStr (conduct.answer chunk).message) flags), reply)])) := by
          rw [hsent, hchunks, hlast]
          exact hsaid.snoc chunk
        cases hverdict : (conduct.answer chunk).verdict with
        | goesOn =>
            simp only [Talk.said, hverdict]
            refine ⟨hall, ?_⟩
            rw [hchunks, hlast]
            intro other hmem
            rcases List.mem_append.mp hmem with hold | hnew
            · exact hgoes other hold
            · rw [List.mem_singleton.mp hnew]
              exact hverdict
        | leaves =>
            simp only [Talk.said, hverdict]
            refine ⟨⟨before, [chunk], by rw [hchunks, hlast],
              Nat.le_refl _, hgoes, Or.inr ?_⟩,
              Or.inr (Or.inr (Or.inr
                ⟨before, chunk, by rw [hchunks, hlast], ?_, hall⟩))⟩
            · rwa [hchunks, hlast] at hall
            · rw [hverdict]
              exact Verdict.noConfusion
        | shutsDown =>
            simp only [Talk.said, hverdict]
            exact ⟨before, chunk, by rw [hchunks, hlast], hverdict, hall,
              hgoes⟩
    | listening => cases hdue
    | announcing => cases hdue
    | alarmed => cases hdue
    | parting => cases hdue
    | parted => cases hdue

/-- After a read: it failed, gave nothing, or gave a chunk. -/
theorem Talk.Law.read
    (h : Talk.listening.Law fd conduct messages log)
    (source : Int) (length : Nat) (reply : ServerReply) :
    (if reply.transfer.result = -1 then Talk.parting
      else if reply.transfer.result = 0 then .listening
      else .answering (conduct.answer reply.transfer.written)).Law fd conduct
      messages (log ++ [(.transfer (.read source length), reply)]) := by
  have hsent := sent_read log source length reply
  by_cases hfailed : reply.transfer.result = -1
  · rw [if_pos hfailed]
    have hchunks := chunks_read_nothing log source length (Or.inl hfailed)
    exact ⟨h.conversed.congr hsent hchunks,
      Or.inl (transferFailed_snoc _ hfailed)⟩
  · rw [if_neg hfailed]
    by_cases hempty : reply.transfer.result = 0
    · rw [if_pos hempty]
      have hchunks := chunks_read_nothing log source length (Or.inr hempty)
      rw [Talk.Law, hsent, hchunks]
      exact h
    · rw [if_neg hempty]
      have hchunks := chunks_read log source length hfailed hempty
      refine ⟨chunks log, reply.transfer.written, hchunks, rfl, ?_, h.2⟩
      rw [hsent]
      exact h.1

/-- A silent call leaves a listening handler listening. -/
theorem Talk.Law.listening_silent
    {call : ServerCall A} (hsilent : call.Silent) (reply : ServerReply)
    (h : Talk.listening.Law fd conduct messages log) :
    Talk.listening.Law fd conduct messages (log ++ [(call, reply)]) := by
  rw [Talk.Law, sent_silent log hsilent, chunks_silent log hsilent]
  exact h

/-- A silent call that ends the conversation is the reason for its end. -/
theorem Talk.Law.parting_silent
    {call : ServerCall A} (hsilent : call.Silent) (reply : ServerReply)
    {talk : Talk}
    (h : talk.Law fd conduct messages log)
    (hending : Ending fd conduct messages (log ++ [(call, reply)])) :
    Talk.parting.Law fd conduct messages (log ++ [(call, reply)]) :=
  ⟨h.conversed.congr (sent_silent log hsilent reply)
    (chunks_silent log hsilent reply), hending⟩

/-- Every call that a handler may make keeps the law. -/
theorem Speaker.law_step
    (log : List (ServerCall A × ServerReply)) (speaker : Speaker)
    (call : ServerCall A) (reply : ServerReply)
    (h : speaker.talk.Law speaker.fd conduct messages log)
    (hpermits : speaker.permits conduct call) :
    (speaker.next conduct call reply).talk.Law speaker.fd conduct messages
      (log ++ [(call, reply)]) := by
  obtain ⟨own, talk⟩ := speaker
  cases call with
  | transfer moved =>
      cases moved with
      | send fd buffer flags =>
          obtain ⟨_, message, hdue, rfl, rfl⟩ := hpermits
          have hafter := Talk.Law.send h hdue fd 0 reply
          simp only [Speaker.next]
          split <;> simp_all
      | recv fd length flags =>
          cases hpermits
      | read fd length =>
          obtain ⟨_, rfl⟩ := hpermits
          have hafter := Talk.Law.read h fd length reply
          simp only [Speaker.next]
          split
          · simp_all
          · split <;> simp_all
  | wait waited =>
      obtain ⟨_, rfl⟩ := hpermits
      have hsilent : (ServerCall.wait waited : ServerCall A).Silent := trivial
      simp only [Speaker.next]
      split
      · next hfailed =>
          exact h.parting_silent hsilent reply
            (Or.inr (Or.inl (justAlarmed_snoc log waited (Or.inl hfailed))))
      · split
        · next halarm =>
            exact ⟨h.conversed.congr (sent_silent log hsilent reply)
              (chunks_silent log hsilent reply),
              justAlarmed_snoc log waited halarm⟩
        · exact h.listening_silent hsilent reply
  | load =>
      have hsilent : (ServerCall.load : ServerCall A).Silent := trivial
      simp only [Speaker.next]
      split
      · next hflag =>
          refine h.parting_silent hsilent reply (Or.inr (Or.inr (Or.inl ?_)))
          exact ⟨reply,
            List.mem_append_right _ (List.mem_singleton_self _), hflag⟩
      · obtain ⟨_, rfl | rfl⟩ := hpermits
        · exact h.listening_silent hsilent reply
        · exact h.parting_silent hsilent reply
            (Or.inr (Or.inl (h.2.look reply)))
  | store value =>
      obtain ⟨_, rfl⟩ := hpermits
      have hsilent : (ServerCall.store value : ServerCall A).Silent := trivial
      refine h.parting_silent hsilent reply (Or.inr (Or.inr (Or.inr ?_)))
      obtain ⟨before, chunk, hlast, hverdict, hsaid, _⟩ := h
      refine ⟨before, chunk, ?_, ?_, ?_⟩
      · rw [chunks_silent log hsilent, hlast]
      · rw [hverdict]
        exact Verdict.noConfusion
      · rw [sent_silent log hsilent, chunks_silent log hsilent]
        exact hsaid
  | library called =>
      cases called with
      | close fd =>
          obtain ⟨rfl, rfl⟩ := hpermits
          have hsilent : (ServerCall.library (.close fd) : ServerCall A).Silent :=
            trivial
          exact ⟨h.1.congr (sent_silent log hsilent reply)
            (chunks_silent log hsilent reply), log, ⟨reply, rfl⟩, h.2⟩
      | socket => cases hpermits
      | setsockopt => cases hpermits
      | bind => cases hpermits
      | listen => cases hpermits
      | connect => cases hpermits
      | accept => cases hpermits
      | readErrno => cases hpermits
      | startThread => cases hpermits
  | startThread => cases hpermits
  | join => cases hpermits
  | frame => cases hpermits
  | destroy => cases hpermits

end Steps

section Runs

variable {conduct : Conduct} {messages : List CppString} {fd : Int}
variable {log : List (ServerCall A × ServerReply)}

/-- The law holds of every log that follows the discipline. -/
theorem Speaker.law_after
    (h : (conversation A conduct).Follows ⟨fd, .opening messages⟩ log) :
    ((conversation A conduct).after ⟨fd, .opening messages⟩ log).fd = fd ∧
      ((conversation A conduct).after ⟨fd, .opening messages⟩ log).talk.Law
        fd conduct messages log := by
  have hbegin :
      (Talk.opening messages).Law fd conduct messages
        ([] : List (ServerCall A × ServerReply)) :=
    Talk.law_opening [] (List.nil_append _).symm rfl rfl
  refine h.law
    (fun log speaker =>
      speaker.fd = fd ∧ speaker.talk.Law fd conduct messages log)
    ?_ ⟨rfl, hbegin⟩
  rintro log speaker call reply ⟨rfl, hlaw⟩ hpermits
  exact ⟨Speaker.next_fd conduct speaker call reply,
    Speaker.law_step log speaker call reply hlaw hpermits⟩

theorem conversed_of_follows
    (h : (conversation A conduct).Follows ⟨fd, .opening messages⟩ log) :
    Conversed conduct messages log :=
  (Speaker.law_after h).2.conversed

/-- Who does not watch the flag neither waits nor looks at it. -/
theorem ending_of_unwatched
    {body : List (ServerCall A × ServerReply)}
    (hwatches : conduct.watches = false)
    (hfollows : (conversation A conduct).Follows ⟨fd, .opening messages⟩ log)
    (hbody : body <+: log)
    (h : Ending fd conduct messages body) :
    TransferFailed body ∨ Dismissed conduct messages body := by
  have hnever : conduct.watches ≠ true := by
    rw [hwatches]
    exact Bool.noConfusion
  rcases h with hfailed | ⟨before, call, reply, looks, rfl, _⟩ |
    ⟨reply, hmem, _⟩ | hdismissed
  · exact Or.inl hfailed
  · have hmem : (ServerCall.wait call, reply) ∈
        before ++ (ServerCall.wait call, reply) :: looks :=
      List.mem_append_right _ List.mem_cons_self
    obtain ⟨_, _, _, _, hpermits⟩ :=
      hfollows.permits_of_mem (hbody.subset hmem)
    exact absurd hpermits.1 hnever
  · obtain ⟨_, _, _, _, hpermits⟩ :=
      hfollows.permits_of_mem (hbody.subset hmem)
    exact absurd hpermits.1 hnever
  · exact Or.inr hdismissed

/-- Whoever sets the flag has answered a chunk that asks for it. -/
theorem shutsDown_of_store
    {value : Bool} {reply : ServerReply}
    (h : (conversation A conduct).Follows ⟨fd, .opening messages⟩ log)
    (hmem : (.store value, reply) ∈ log) :
    ∃ chunk ∈ chunks log, (conduct.answer chunk).verdict = .shutsDown ∧
      cStr (conduct.answer chunk).message ∈ sent log := by
  obtain ⟨before, later, rfl, hbefore, _, htalk⟩ := h.permits_of_mem hmem
  have hlaw := (Speaker.law_after hbefore).2
  rw [htalk] at hlaw
  obtain ⟨earlier, chunk, hlast, hverdict, ⟨opening, _, hsaid⟩, _⟩ := hlaw
  refine ⟨chunk, ?_, hverdict, ?_⟩
  · rw [chunks_append, hlast]
    simp
  · rw [sent_append, hsaid, hlast]
    simp

end Runs

section Heeding

variable {fd : Int} {conduct : Conduct} {messages : List CppString}
variable {log : List (ServerCall A × ServerReply)}

/-- The thread has set the flag, or this message could not be sent. -/
def HeededOr
    (message : CppString) (log : List (ServerCall A × ServerReply)) : Prop :=
  (∃ reply, (ServerCall.store true, reply) ∈ log) ∨
    ∃ fd flags reply,
      (ServerCall.transfer (.send fd (cStr message) flags), reply) ∈ log ∧
        reply.transfer.result = -1

theorem HeededOr.append
    {message : CppString} (h : HeededOr message log)
    (later : List (ServerCall A × ServerReply)) :
    HeededOr message (log ++ later) := by
  rcases h with ⟨reply, hmem⟩ | ⟨fd, flags, reply, hmem, hfailed⟩
  · exact Or.inl ⟨reply, List.mem_append_left later hmem⟩
  · exact Or.inr ⟨fd, flags, reply, List.mem_append_left later hmem, hfailed⟩

/-- A chunk that asks for the end of the server is being answered, or was
answered and the flag is set next, or has been dealt with. -/
def Speaker.Heeding
    (conduct : Conduct) (log : List (ServerCall A × ServerReply))
    (speaker : Speaker) : Prop :=
  ∀ chunk ∈ chunks log, (conduct.answer chunk).verdict = .shutsDown →
    speaker.talk = .answering (conduct.answer chunk) ∨
      speaker.talk = .announcing ∨
      HeededOr (conduct.answer chunk).message log

/-- A conversation that owes neither an answer nor the flag. -/
theorem Speaker.Heeding.dealt
    {speaker : Speaker}
    (h : speaker.Heeding conduct log)
    (htalk : speaker.talk = .listening ∨ speaker.talk = .alarmed ∨
      speaker.talk = .parting)
    {chunk : CppString} (hmem : chunk ∈ chunks log)
    (hverdict : (conduct.answer chunk).verdict = .shutsDown) :
    HeededOr (conduct.answer chunk).message log := by
  rcases h chunk hmem hverdict with hanswering | hannouncing | hdone
  · rw [hanswering] at htalk
    rcases htalk with hbad | hbad | hbad <;> cases hbad
  · rw [hannouncing] at htalk
    rcases htalk with hbad | hbad | hbad <;> cases hbad
  · exact hdone

/-- Such a conversation has dealt with everything as long as it gets no
chunk. -/
theorem Speaker.Heeding.keep
    {speaker after : Speaker} {call : ServerCall A} {reply : ServerReply}
    (h : speaker.Heeding conduct log)
    (htalk : speaker.talk = .listening ∨ speaker.talk = .alarmed ∨
      speaker.talk = .parting)
    (hchunks : chunks (log ++ [(call, reply)]) = chunks log) :
    after.Heeding conduct (log ++ [(call, reply)]) := by
  intro chunk hmem hverdict
  rw [hchunks] at hmem
  exact Or.inr (Or.inr ((h.dealt htalk hmem hverdict).append _))

theorem Speaker.Heeding.step
    (log : List (ServerCall A × ServerReply)) (speaker : Speaker)
    (call : ServerCall A) (reply : ServerReply)
    (h : speaker.Heeding conduct log)
    (hpermits : speaker.permits conduct call) :
    (speaker.next conduct call reply).Heeding conduct
      (log ++ [(call, reply)]) := by
  have hsilent : call.Silent →
      chunks (log ++ [(call, reply)]) = chunks log :=
    fun hcall => chunks_silent log hcall reply
  cases call with
  | transfer moved =>
      cases moved with
      | send fd buffer flags =>
          have hchunks := chunks_send log fd buffer flags reply
          obtain ⟨_, message, hdue, rfl, rfl⟩ := hpermits
          intro chunk hmem hverdict
          rw [hchunks] at hmem
          rcases h chunk hmem hverdict with htalk | htalk | hdone
          · rw [htalk] at hdue
            cases hdue
            by_cases hfailed : reply.transfer.result = -1
            · exact Or.inr (Or.inr (Or.inr ⟨fd, 0, reply,
                List.mem_append_right log (List.mem_singleton_self _),
                hfailed⟩))
            · refine Or.inr (Or.inl ?_)
              simp only [Speaker.next, if_neg hfailed, htalk, Talk.said,
                hverdict]
          · rw [htalk] at hdue
            cases hdue
          · exact Or.inr (Or.inr (hdone.append _))
      | read fd length =>
          have htalk : speaker.talk = .listening := hpermits.2
          by_cases hnothing :
              reply.transfer.result = -1 ∨ reply.transfer.result = 0
          · exact h.keep (Or.inl htalk)
              (chunks_read_nothing log fd length hnothing)
          · rw [not_or] at hnothing
            intro chunk hmem hverdict
            rw [chunks_read log fd length hnothing.1 hnothing.2,
              List.mem_append, List.mem_singleton] at hmem
            rcases hmem with hold | rfl
            · exact Or.inr (Or.inr
                ((h.dealt (Or.inl htalk) hold hverdict).append _))
            · refine Or.inl ?_
              simp only [Speaker.next, if_neg hnothing.1, if_neg hnothing.2]
      | recv => cases hpermits
  | wait => exact h.keep (Or.inl hpermits.2) (hsilent trivial)
  | load =>
      refine h.keep ?_ (hsilent trivial)
      exact hpermits.2.imp_right Or.inl
  | store value =>
      obtain ⟨rfl, _⟩ := hpermits
      intro chunk _ _
      exact Or.inr (Or.inr (Or.inl
        ⟨reply, List.mem_append_right log (List.mem_singleton_self _)⟩))
  | library called =>
      cases called with
      | close =>
          exact h.keep (Or.inr (Or.inr hpermits.2)) (hsilent trivial)
      | socket => cases hpermits
      | setsockopt => cases hpermits
      | bind => cases hpermits
      | listen => cases hpermits
      | connect => cases hpermits
      | accept => cases hpermits
      | readErrno => cases hpermits
      | startThread => cases hpermits
  | startThread => cases hpermits
  | join => cases hpermits
  | frame => cases hpermits
  | destroy => cases hpermits

/-- In a conversation that is over, whatever asked for the end of the server was
dealt with. -/
theorem heededOr_of_parted
    (h : (conversation A conduct).Follows ⟨fd, .opening messages⟩ log)
    (hparted : ((conversation A conduct).after ⟨fd, .opening messages⟩
      log).talk = .parted)
    {chunk : CppString} (hmem : chunk ∈ chunks log)
    (hverdict : (conduct.answer chunk).verdict = .shutsDown) :
    HeededOr (conduct.answer chunk).message log := by
  have hbegin : (⟨fd, .opening messages⟩ : Speaker).Heeding conduct
      ([] : List (ServerCall A × ServerReply)) := by
    intro chunk hmem
    cases hmem
  have hheeding :=
    h.law (Speaker.Heeding conduct)
      (fun log speaker call reply =>
        Speaker.Heeding.step log speaker call reply) hbegin
  rcases hheeding chunk hmem hverdict with htalk | htalk | hdone
  · rw [hparted] at htalk
    cases htalk
  · rw [hparted] at htalk
    cases htalk
  · exact hdone

end Heeding

end BsdSockets
