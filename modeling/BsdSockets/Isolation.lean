import BsdSockets.CommandRuns
import BsdSockets.Interleaving
import BsdSockets.Lib.Ledger

/-!
# The descriptors of a server

A server has its own descriptor and the connection that it has just accepted,
and every handler has the descriptor that it was started with until it closes
it.  Each of these is open, no two of them are the same, and there are no other
new descriptors, in every configuration that a run reaches and whatever numbers
the kernel gives out again.

So a handler never talks over a descriptor that is closed or that is another's,
and a server that has ended has given all descriptors back but one at most: the
connection that it could not start a handler for.
-/

namespace BsdSockets

open Resumption Holding

variable {A : Type}

section Holders

/-- Whoever can have a descriptor. -/
inductive Holder where
  | server
  | custody
  | handler (number : Nat)

/-- How far the server's own thread has come in its duties. -/
def dutyOf (flagged : Bool) (s : ServerConfig A) : Duty :=
  (duties A flagged).after .initial s.main.log

/-- Somebody has closed this descriptor. -/
def Closed (fd : Int) (log : List (ServerCall A × ServerReply)) : Prop :=
  ∃ reply, (ServerCall.library (.close fd), reply) ∈ log

/-- The handler with this number has this descriptor. -/
def HandlerHolds (s : ServerConfig A) (number : Nat) (fd : Int) : Prop :=
  ∃ handler data,
    s.workers[number]? = some handler ∧
    (startedHandlers s.main.log)[number]? =
      some (.closure data (nextId number)) ∧
    data.lowLevelSocket = fd ∧ ¬ Closed fd handler.log

/-- Who has which descriptor. -/
def Holds (flagged : Bool) (s : ServerConfig A) : Holder → Int → Prop
  | .server, fd => (dutyOf flagged s).server = .owned fd
  | .custody, fd =>
      ∃ connection, (dutyOf flagged s).custody = .accepted connection ∧
        connection.descriptor = fd
  | .handler number, fd => HandlerHolds s number fd

/-- Everybody's descriptors are open, nobody shares one, and the others were
open before the server. -/
def Isolated (flagged : Bool) (base : Kernel) (s : ServerConfig A) : Prop :=
  Ledger (Holds flagged s) (fun fd => fd ∈ base.openFds)
    (fun fd => fd ∈ s.shared.kernel.openFds)

end Holders

section Conversations

variable {conduct : Conduct} {fd : Int}
variable {log : List (ServerCall A × ServerReply)}

theorem closed_append
    (log later : List (ServerCall A × ServerReply)) :
    Closed fd (log ++ later) ↔ Closed fd log ∨ Closed fd later := by
  constructor
  · rintro ⟨reply, hmem⟩
    exact (List.mem_append.mp hmem).imp (fun h => ⟨reply, h⟩)
      (fun h => ⟨reply, h⟩)
  · rintro (⟨reply, hmem⟩ | ⟨reply, hmem⟩)
    · exact ⟨reply, List.mem_append_left _ hmem⟩
    · exact ⟨reply, List.mem_append_right _ hmem⟩

/-- One call closes a descriptor only if it is that call. -/
theorem closed_singleton
    {call : ServerCall A} {reply : ServerReply} :
    Closed fd [(call, reply)] ↔ call = .library (.close fd) := by
  constructor
  · rintro ⟨reply', hmem⟩
    cases List.mem_singleton.mp hmem
    rfl
  · rintro rfl
    exact ⟨reply, List.mem_singleton_self _⟩

/-- A handler whose conversation is over makes no call. -/
theorem not_permits_of_parted
    {speaker : Speaker} (h : speaker.talk = .parted) (call : ServerCall A) :
    ¬ speaker.permits conduct call := by
  intro hpermits
  cases call with
  | transfer moved =>
      cases moved with
      | send fd buffer flags =>
          obtain ⟨_, message, hdue, _⟩ := hpermits
          rw [h] at hdue
          cases hdue
      | recv => cases hpermits
      | read fd length =>
          rw [hpermits.2] at h
          cases h
  | wait =>
      rw [hpermits.2] at h
      cases h
  | load =>
      rcases hpermits.2 with hlistening | halarmed
      · rw [hlistening] at h
        cases h
      · rw [halarmed] at h
        cases h
  | store =>
      rw [hpermits.2] at h
      cases h
  | library called =>
      cases called with
      | close fd =>
          rw [hpermits.2] at h
          cases h
      | socket => cases hpermits
      | setsockopt => cases hpermits
      | bind => cases hpermits
      | listen => cases hpermits
      | connect => cases hpermits
      | accept => cases hpermits
      | readErrno => cases hpermits
      | startThread => cases hpermits
  | startThread => cases hpermits
  | join => cases hpermits
  | frame => cases hpermits
  | destroy => cases hpermits

theorem opening_ne_parted
    (messages : List CppString) :
    Talk.opening messages ≠ .parted := by
  cases messages <;> exact Talk.noConfusion

theorem said_ne_parted
    {talk : Talk} (h : talk ≠ .parted) :
    talk.said ≠ .parted := by
  cases talk with
  | greeting message later =>
      exact opening_ne_parted later
  | answering answer =>
      cases hverdict : answer.verdict <;> simp [Talk.said, hverdict]
  | listening => exact h
  | announcing => exact h
  | alarmed => exact h
  | parting => exact h
  | parted => exact h

theorem unsaid_ne_parted
    {talk : Talk} (h : talk ≠ .parted) :
    talk.unsaid ≠ .parted := by
  cases talk with
  | greeting message later => exact Talk.noConfusion
  | answering answer => exact Talk.noConfusion
  | listening => exact h
  | announcing => exact h
  | alarmed => exact h
  | parting => exact h
  | parted => exact h

theorem looked_ne_parted
    {talk : Talk} (h : talk ≠ .parted) :
    talk.looked ≠ .parted := by
  cases talk with
  | alarmed => exact Talk.noConfusion
  | greeting => exact h
  | answering => exact h
  | listening => exact h
  | announcing => exact h
  | parting => exact h
  | parted => exact h

/-- Only the close of its descriptor ends the conversation of a handler. -/
theorem next_parted
    {speaker : Speaker} (h : speaker.talk ≠ .parted)
    {call : ServerCall A} {reply : ServerReply}
    (hnext : (speaker.next conduct call reply).talk = .parted) :
    ∃ fd, call = .library (.close fd) := by
  cases call with
  | transfer moved =>
      cases moved with
      | send fd buffer flags =>
          simp only [Speaker.next] at hnext
          split at hnext
          · exact absurd hnext (unsaid_ne_parted h)
          · exact absurd hnext (said_ne_parted h)
      | recv => exact absurd hnext h
      | read fd length =>
          simp only [Speaker.next] at hnext
          split at hnext
          · cases hnext
          · split at hnext
            · exact absurd hnext h
            · cases hnext
  | wait waited =>
      simp only [Speaker.next] at hnext
      split at hnext
      · cases hnext
      · split at hnext
        · cases hnext
        · exact absurd hnext h
  | load =>
      simp only [Speaker.next] at hnext
      split at hnext
      · cases hnext
      · exact absurd hnext (looked_ne_parted h)
  | store => cases hnext
  | library called =>
      cases called with
      | close fd => exact ⟨fd, rfl⟩
      | socket => exact absurd hnext h
      | setsockopt => exact absurd hnext h
      | bind => exact absurd hnext h
      | listen => exact absurd hnext h
      | connect => exact absurd hnext h
      | accept => exact absurd hnext h
      | readErrno => exact absurd hnext h
      | startThread => exact absurd hnext h
  | startThread => exact absurd hnext h
  | join => exact absurd hnext h
  | frame => exact absurd hnext h
  | destroy => exact absurd hnext h

/-- A conversation is over when the handler has closed its descriptor. -/
theorem parted_iff_closed
    {messages : List CppString}
    (h : (conversation A conduct).Follows ⟨fd, .opening messages⟩ log) :
    ((conversation A conduct).after ⟨fd, .opening messages⟩ log).talk =
        .parted ↔
      Closed fd log := by
  have hbegin :
      fd = fd ∧ ((Talk.opening messages) = .parted ↔
        Closed fd ([] : List (ServerCall A × ServerReply))) := by
    refine ⟨rfl, iff_of_false (opening_ne_parted messages) ?_⟩
    rintro ⟨reply, hmem⟩
    cases hmem
  have hlaw := h.law
    (fun log speaker =>
      speaker.fd = fd ∧ (speaker.talk = .parted ↔ Closed fd log)) ?_ hbegin
  · exact hlaw.2
  rintro log speaker call reply ⟨rfl, hiff⟩ hpermits
  have htalk : speaker.talk ≠ .parted := fun hparted =>
    not_permits_of_parted hparted call hpermits
  refine ⟨Speaker.next_fd conduct speaker call reply, ?_⟩
  rw [closed_append, closed_singleton, ← hiff]
  constructor
  · intro hnext
    obtain ⟨fd, rfl⟩ := next_parted htalk hnext
    rw [hpermits.1]
    exact Or.inr rfl
  · rintro (hparted | rfl)
    · exact absurd hparted htalk
    · rfl

/-- A handler that may still make a call has not closed its descriptor. -/
theorem not_closed_of_permits
    {messages : List CppString} {call : ServerCall A}
    (h : (conversation A conduct).Follows ⟨fd, .opening messages⟩ log)
    (hpermits : (conversation A conduct).permits
      ((conversation A conduct).after ⟨fd, .opening messages⟩ log) call) :
    ¬ Closed fd log := by
  intro hclosed
  exact not_permits_of_parted ((parted_iff_closed h).mpr hclosed) call hpermits

end Conversations

section Server

variable {flagged : Bool} {base : Kernel} {s t : ServerConfig A}
variable {worker : HandlerLabel A → ServerProgram A (Option (HandlerLabel A))}
variable {after : Running (ServerCall A) ServerReply Abrupt (ServerLabel A)}
variable {shared : ServerState} {call : ServerCall A} {reply : ServerReply}

/-- What everybody has after a call of the server that starts no handler. -/
theorem holds_main
    (hlog : after.log = s.main.log ++ [(call, reply)])
    (hnone : startedHandler call reply = none)
    (holder : Holder) (fd : Int) :
    Holds flagged ⟨shared, after,
        s.workers ++ (startedHandler call reply).toList.map
          (Running.entering worker)⟩ holder fd ↔
      match holder with
      | .server => ((dutyOf flagged s).next call reply).server = .owned fd
      | .custody =>
          ∃ connection,
            ((dutyOf flagged s).next call reply).custody =
              .accepted connection ∧ connection.descriptor = fd
      | .handler number => HandlerHolds s number fd := by
  have hduty :
      (duties A flagged).after .initial after.log =
        (dutyOf flagged s).next call reply := by
    rw [hlog, (duties A flagged).after_append]
    rfl
  cases holder with
  | server =>
      rw [← hduty]
      rfl
  | custody =>
      rw [← hduty]
      rfl
  | handler number =>
      simp only [Holds, HandlerHolds, hlog, startedHandlers_other _ hnone,
        hnone, Option.toList_none, List.map_nil, List.append_nil]

/-- A call that changes nobody's descriptors. -/
theorem Isolated.same
    (h : Isolated flagged base s)
    (hlog : after.log = s.main.log ++ [(call, reply)])
    (hnone : startedHandler call reply = none)
    (hserver : ((dutyOf flagged s).next call reply).server =
      (dutyOf flagged s).server)
    (hcustody : ((dutyOf flagged s).next call reply).custody =
      (dutyOf flagged s).custody)
    (hkernel : shared.kernel.openFds = s.shared.kernel.openFds) :
    Isolated flagged base ⟨shared, after,
      s.workers ++ (startedHandler call reply).toList.map
        (Running.entering worker)⟩ := by
  rw [Isolated, hkernel]
  refine h.congr ?_
  intro holder fd
  rw [holds_main hlog hnone]
  cases holder with
  | server =>
      rw [hserver]
      rfl
  | custody =>
      rw [hcustody]
      rfl
  | handler number =>
      rfl

/-- A call of the library that keeps any custody keeps a server's. -/
theorem duty_keeps
    {duty : Duty} {called : Call A}
    (hpermits : duty.permits flagged (.library called))
    (hkeeps : ∀ held : Custody, held.permits called →
      held.next called reply.library = held) :
    (duty.next (.library called) reply).server = duty.server ∧
      (duty.next (.library called) reply).custody = duty.custody := by
  cases called with
  | socket domain type protocol =>
      exact ⟨hkeeps duty.server hpermits, rfl⟩
  | accept fd buffer len =>
      exact ⟨rfl, hkeeps duty.custody hpermits.1⟩
  | close fd =>
      cases hkeeps (.owned fd) rfl
  | startThread => cases hpermits
  | setsockopt => exact ⟨rfl, rfl⟩
  | bind => exact ⟨rfl, rfl⟩
  | listen => exact ⟨rfl, rfl⟩
  | connect => exact ⟨rfl, rfl⟩
  | readErrno => exact ⟨rfl, rfl⟩

/-- A call of the library, by what it does to the descriptors. -/
theorem Isolated.library
    {called : Call A} {low : Reply} {kernel : Kernel}
    (h : Isolated flagged base s)
    (hpermits : (dutyOf flagged s).permits flagged (.library called))
    (hlog : after.log = s.main.log ++ [(.library called, reply)])
    (hlow : reply.library = low) (hkernel : shared.kernel = kernel)
    (heffect : s.shared.kernel.Effect called low kernel) :
    Isolated flagged base ⟨shared, after,
      s.workers ++ (startedHandler (.library called) reply).toList.map
        (Running.entering worker)⟩ := by
  cases heffect with
  | opens domain type protocol reply' after' ok fresh opened same =>
      have hnext :
          ((dutyOf flagged s).next
            (.library (.socket domain type protocol : Call A)) reply).server =
            .owned low.result := by
        change (if reply.library.Failed then Custody.nothing
          else .owned reply.library.result) = _
        rw [hlow, if_neg ok]
      have hbefore : (dutyOf flagged s).server = .nothing := hpermits
      refine h.take .server fresh ?_ ?_
      · intro holder fd
        rw [holds_main hlog rfl]
        cases holder with
        | server =>
            rw [hnext, Holds, hbefore]
            simp [eq_comm]
        | custody =>
            exact (or_iff_left (fun h => Holder.noConfusion h.1)).symm
        | handler number =>
            exact (or_iff_left (fun h => Holder.noConfusion h.1)).symm
      · intro fd
        change fd ∈ shared.kernel.openFds ↔ _
        rw [hkernel, opened]
        exact Finset.mem_insert
  | accepts fd buffer len reply' after' ok fresh opened number next =>
      have hnext :
          ((dutyOf flagged s).next
            (.library (.accept fd buffer len : Call A)) reply).custody =
            .accepted ⟨low.connection, low.result⟩ := by
        change (if reply.library.Failed then Custody.nothing
          else .accepted ⟨reply.library.connection, reply.library.result⟩) = _
        rw [hlow, if_neg ok]
      have hbefore : (dutyOf flagged s).custody = .nothing := hpermits.1
      refine h.take .custody fresh ?_ ?_
      · intro holder fd
        rw [holds_main hlog rfl]
        cases holder with
        | server =>
            exact (or_iff_left (fun h => Holder.noConfusion h.1)).symm
        | custody =>
            rw [hnext, Holds, hbefore]
            simp [eq_comm]
        | handler number =>
            exact (or_iff_left (fun h => Holder.noConfusion h.1)).symm
      · intro fd
        change fd ∈ shared.kernel.openFds ↔ _
        rw [hkernel, opened]
        exact Finset.mem_insert
  | closes fd reply' after' closed same =>
      have hbefore : (dutyOf flagged s).server = .owned fd := hpermits.1
      refine h.giveBack .server fd ?_ ?_ ?_
      · intro other
        rw [Holds, hbefore]
        simp [eq_comm]
      · intro holder other
        rw [holds_main hlog rfl]
        cases holder with
        | server =>
            exact iff_of_false Custody.noConfusion (fun h => h.2 rfl)
        | custody =>
            exact (and_iff_left Holder.noConfusion).symm
        | handler number =>
            exact (and_iff_left Holder.noConfusion).symm
      · intro other
        change other ∈ shared.kernel.openFds ↔ _
        rw [hkernel, closed]
        exact Finset.mem_erase
  | starts data reply' ok =>
      cases hpermits
  | keeps call reply' custody =>
      obtain ⟨hserver, hcustody⟩ := duty_keeps hpermits (by
        intro held hheld
        rw [hlow]
        exact (custody held hheld).1)
      exact h.same hlog rfl hserver hcustody (by rw [hkernel])

/-- What the handlers have after one more was started. -/
theorem handlerHolds_start
    {data : AcceptedSocketData A} {id : Int32}
    (hcount : s.workers.length = (startedHandlers s.main.log).length)
    (hid : id = nextId s.workers.length)
    (hlog : after.log = s.main.log ++ [(call, reply)])
    (hstarted : startedHandler call reply = some (.closure data id))
    (number : Nat) (fd : Int) :
    HandlerHolds ⟨shared, after,
        s.workers ++ (startedHandler call reply).toList.map
          (Running.entering worker)⟩ number fd ↔
      HandlerHolds s number fd ∨
        (number = s.workers.length ∧ fd = data.lowLevelSocket) := by
  simp only [HandlerHolds, hlog, startedHandlers_snoc, hstarted,
    Option.toList_some, List.map_singleton]
  rcases Nat.lt_trichotomy number s.workers.length with hlt | rfl | hgt
  · rw [List.getElem?_append_left hlt,
      List.getElem?_append_left (hcount ▸ hlt)]
    exact (or_iff_left (fun h => Nat.ne_of_lt hlt h.1)).symm
  · rw [List.getElem?_append_right (Nat.le_refl _), Nat.sub_self,
      List.getElem?_append_right (Nat.le_of_eq hcount.symm), ← hcount,
      Nat.sub_self, ← hid]
    constructor
    · rintro ⟨handler, data', _, hlabel, rfl, _⟩
      cases hlabel
      exact Or.inr ⟨rfl, rfl⟩
    · rintro (⟨handler, _, hpresent, _⟩ | ⟨_, rfl⟩)
      · rw [List.getElem?_eq_none (Nat.le_refl _)] at hpresent
        cases hpresent
      · refine ⟨_, data, rfl, rfl, rfl, ?_⟩
        rintro ⟨reply', hmem⟩
        cases hmem
  · constructor
    · rintro ⟨handler, _, hpresent, _⟩
      rw [List.getElem?_eq_none] at hpresent
      · cases hpresent
      · rw [List.length_append, List.length_singleton]
        exact hgt
    · rintro (⟨handler, _, hpresent, _⟩ | ⟨rfl, _⟩)
      · rw [List.getElem?_eq_none (Nat.le_of_lt hgt)] at hpresent
        cases hpresent
      · exact absurd hgt (Nat.lt_irrefl _)

/-- A thread that was started takes over the connection that it is for. -/
theorem Isolated.start
    {data : AcceptedSocketData A} {id : Int32}
    (h : Isolated flagged base s)
    (hcount : s.workers.length = (startedHandlers s.main.log).length)
    (hduty : s.workers.length = (dutyOf flagged s).started)
    (hpermits : (dutyOf flagged s).permits flagged (.startThread data id))
    (hlog : after.log = s.main.log ++ [(.startThread data id, reply)])
    (hkernel : shared.kernel.openFds = s.shared.kernel.openFds) :
    Isolated flagged base ⟨shared, after,
      s.workers ++ (startedHandler (.startThread data id) reply).toList.map
        (Running.entering worker)⟩ := by
  by_cases hfailed : reply.library.Failed
  · have hnext :
        (dutyOf flagged s).next (.startThread data id) reply =
          dutyOf flagged s :=
      if_pos hfailed
    exact h.same hlog (if_pos hfailed) (by rw [hnext]) (by rw [hnext]) hkernel
  have hnext :
      (duties A flagged).after .initial after.log =
        { dutyOf flagged s with
          custody := .nothing, started := (dutyOf flagged s).started + 1 } := by
    rw [hlog, (duties A flagged).after_append]
    exact if_neg hfailed
  obtain ⟨_, hid, _, connection, hcustody, hdescriptor⟩ := hpermits
  have hconnection : ∀ fd, Holds flagged s .custody fd ↔
      fd = data.lowLevelSocket := by
    intro fd
    rw [Holds, hcustody]
    constructor
    · rintro ⟨other, hother, rfl⟩
      cases hother
      exact hdescriptor
    · rintro rfl
      exact ⟨connection, rfl, hdescriptor⟩
  rw [Isolated, hkernel]
  refine h.pass .custody (.handler s.workers.length) ?_
  intro holder fd
  cases holder with
  | server =>
      rw [Holds, dutyOf, hnext]
      constructor
      · intro hhas
        exact Or.inl ⟨hhas, Holder.noConfusion⟩
      · rintro (⟨hhas, _⟩ | ⟨hholder, _⟩)
        · exact hhas
        · cases hholder
  | custody =>
      rw [Holds, dutyOf, hnext]
      constructor
      · rintro ⟨other, hother, _⟩
        cases hother
      · rintro (⟨_, hother⟩ | ⟨hholder, _⟩)
        · exact absurd rfl hother
        · cases hholder
  | handler number =>
      rw [hconnection]
      change HandlerHolds ⟨shared, after, _⟩ number fd ↔
        (HandlerHolds s number fd ∧ _) ∨ _
      rw [handlerHolds_start hcount (hduty ▸ hid) hlog (if_neg hfailed)]
      constructor
      · rintro (hhas | ⟨rfl, hfd⟩)
        · exact Or.inl ⟨hhas, Holder.noConfusion⟩
        · exact Or.inr ⟨rfl, hfd⟩
      · rintro (⟨hhas, _⟩ | ⟨hholder, hfd⟩)
        · exact Or.inl hhas
        · exact Or.inr ⟨Holder.handler.inj hholder, hfd⟩

end Server

section Handlers

variable {flagged : Bool} {base : Kernel} {s t : ServerConfig A}
variable {number : Nat} {shared : ServerState}
variable {thread after : Running (ServerCall A) ServerReply Abrupt
  (HandlerLabel A)}
variable {later : List (ServerCall A × ServerReply)}

/-- What the handlers have after one of them has done something. -/
theorem handlerHolds_worker
    (hpresent : s.workers[number]? = some thread)
    (hlog : after.log = thread.log ++ later)
    (other : Nat) (fd : Int) :
    HandlerHolds ⟨shared, s.main, s.workers.set number after⟩ other fd ↔
      HandlerHolds s other fd ∧ ¬ (other = number ∧ Closed fd later) := by
  by_cases hother : number = other
  · subst hother
    have hlt := (List.getElem?_eq_some_iff.mp hpresent).1
    have hset : (s.workers.set number after)[number]? = some after :=
      List.getElem?_set_self hlt
    simp only [HandlerHolds, hset, hpresent, true_and]
    constructor
    · rintro ⟨_, data, hthere, hlabel, hfd, hopen⟩
      cases hthere
      rw [hlog, closed_append, not_or] at hopen
      exact ⟨⟨thread, data, rfl, hlabel, hfd, hopen.1⟩, hopen.2⟩
    · rintro ⟨⟨_, data, hthere, hlabel, hfd, hopen⟩, hlater⟩
      cases hthere
      refine ⟨after, data, rfl, hlabel, hfd, ?_⟩
      rw [hlog, closed_append, not_or]
      exact ⟨hopen, hlater⟩
  · have hset :
        (s.workers.set number after)[other]? = s.workers[other]? :=
      List.getElem?_set_ne hother
    simp only [HandlerHolds, hset]
    exact (and_iff_left (fun h => hother h.1.symm)).symm

/-- A handler that closes nothing leaves the descriptors as they are. -/
theorem Isolated.handler
    (h : Isolated flagged base s)
    (hpresent : s.workers[number]? = some thread)
    (hlog : after.log = thread.log ++ later)
    (hcloses : ∀ fd, ¬ Closed fd later)
    (hkernel : shared.kernel.openFds = s.shared.kernel.openFds) :
    Isolated flagged base ⟨shared, s.main, s.workers.set number after⟩ := by
  rw [Isolated, hkernel]
  refine h.congr ?_
  intro holder fd
  cases holder with
  | server => rfl
  | custody => rfl
  | handler other =>
      rw [Holds, handlerHolds_worker hpresent hlog]
      exact and_iff_left (fun h => hcloses fd h.2)

/-- A handler has one descriptor. -/
theorem handlerHolds_unique
    {fd other : Int}
    (h : HandlerHolds s number fd) (hother : HandlerHolds s number other) :
    other = fd := by
  obtain ⟨_, data, _, hlabel, rfl, _⟩ := h
  obtain ⟨_, data', _, hlabel', rfl, _⟩ := hother
  rw [hlabel] at hlabel'
  cases hlabel'
  rfl

/-- A handler that ends gives its descriptor back. -/
theorem Isolated.close
    {fd : Int} {reply : ServerReply}
    (h : Isolated flagged base s)
    (hpresent : s.workers[number]? = some thread)
    (hholds : HandlerHolds s number fd)
    (hlog : after.log = thread.log ++ [(.library (.close fd), reply)])
    (hkernel : shared.kernel.openFds = s.shared.kernel.openFds.erase fd) :
    Isolated flagged base ⟨shared, s.main, s.workers.set number after⟩ := by
  refine h.giveBack (.handler number) fd ?_ ?_ ?_
  · intro other
    constructor
    · exact handlerHolds_unique hholds
    · rintro rfl
      exact hholds
  · intro holder other
    cases holder with
    | server =>
        exact (and_iff_left Holder.noConfusion).symm
    | custody =>
        exact (and_iff_left Holder.noConfusion).symm
    | handler another =>
        rw [Holds, handlerHolds_worker hpresent hlog, closed_singleton]
        refine and_congr_right ?_
        intro hhas
        rw [not_iff_not]
        constructor
        · rintro ⟨rfl, _⟩
          rfl
        · intro hholder
          cases hholder
          rw [handlerHolds_unique hholds hhas]
          exact ⟨rfl, rfl⟩
  · intro other
    change other ∈ shared.kernel.openFds ↔ _
    rw [hkernel]
    exact Finset.mem_erase

end Handlers

section Runs

variable {conduct : Conduct} {messages : List CppString}
variable {breaks : Abrupt → Speaker → Prop}
variable {main : ServerLabel A → ServerProgram A (Option (ServerLabel A))}
variable {worker : HandlerLabel A → ServerProgram A (Option (HandlerLabel A))}
variable {flagged : Bool} {base : Kernel} {s t : ServerConfig A}

/-- A jump is not seen. -/
theorem Isolated.congr
    (h : Isolated flagged base s)
    (hlog : t.main.log = s.main.log) (hworkers : t.workers = s.workers)
    (hkernel : t.shared.kernel = s.shared.kernel) :
    Isolated flagged base t := by
  rw [Isolated, hkernel]
  refine Ledger.congr h ?_
  intro holder fd
  cases holder with
  | server => simp only [Holds, dutyOf, hlog]
  | custody => simp only [Holds, dutyOf, hlog]
  | handler number => simp only [Holds, HandlerHolds, hlog, hworkers]

/-- Whatever a handler does keeps the descriptors apart. -/
theorem Isolated.step_handler
    (hserved : Served conduct messages breaks s)
    (h : Isolated flagged base s)
    {number : Nat} {event : Option (ServerCall A × ServerReply)}
    {thread after : Running (ServerCall A) ServerReply Abrupt
      (HandlerLabel A)} {shared : ServerState}
    (hpresent : s.workers[number]? = some thread)
    (hmoves : Running.Moves worker thread event after)
    (hanswers : (serverMachine main worker).Answers s.shared event shared) :
    Isolated flagged base ⟨shared, s.main, s.workers.set number after⟩ := by
  have hlog := hmoves.log_eq
  cases hanswers with
  | jump =>
      refine h.handler hpresent hlog ?_ rfl
      rintro fd ⟨reply, hmem⟩
      cases hmem
  | call choice call =>
      obtain ⟨data, hlabel, hstanding⟩ :=
        hserved.workers number thread hpresent
      have hpermits := hstanding.permits_moves hmoves
      by_cases hclose : ∃ fd, call = .library (.close fd)
      · obtain ⟨fd, rfl⟩ := hclose
        have hfd : data.lowLevelSocket = fd :=
          (Speaker.law_after hstanding.1).1.symm.trans hpermits.1.symm
        refine h.close hpresent ⟨thread, data, hpresent, hlabel, hfd, ?_⟩
          hlog rfl
        exact hfd ▸ not_closed_of_permits hstanding.1 hpermits
      · refine h.handler hpresent hlog ?_ ?_
        · intro fd hclosed
          exact hclose ⟨fd, closed_singleton.mp hclosed⟩
        · cases call with
          | library called =>
              cases called with
              | close fd => exact absurd ⟨fd, rfl⟩ hclose
              | socket => cases hpermits
              | setsockopt => cases hpermits
              | bind => cases hpermits
              | listen => cases hpermits
              | connect => cases hpermits
              | accept => cases hpermits
              | readErrno => cases hpermits
              | startThread => cases hpermits
          | wait => rfl
          | transfer => rfl
          | load => rfl
          | store => rfl
          | startThread => rfl
          | join => rfl
          | frame => rfl
          | destroy => rfl

/-- Every step keeps the descriptors apart. -/
theorem Isolated.step
    (hserved : Served conduct messages breaks s)
    (h : Isolated conduct.watches base s)
    {event : Event (ServerCall A) ServerReply}
    (hstep : (serverMachine main worker).Step s event t) :
    Isolated conduct.watches base t := by
  cases hstep with
  | main event after shared moves answers free =>
      have hlog := moves.log_eq
      cases answers with
      | jump =>
          exact h.congr (hlog.trans (List.append_nil _))
            (List.append_nil _) rfl
      | call choice call =>
          have hpermits := hserved.main.permits_moves moves
          cases call with
          | library called =>
              exact h.library hpermits hlog rfl rfl
                (s.shared.kernel.answer_effect choice.library called)
          | startThread data id =>
              exact h.start (hserved.count.trans hserved.law.started.symm)
                hserved.count hpermits hlog rfl
          | wait => exact h.same hlog rfl rfl rfl rfl
          | transfer => cases hpermits
          | join => exact h.same hlog rfl rfl rfl rfl
          | load => exact h.same hlog rfl rfl rfl rfl
          | store => exact h.same hlog rfl rfl rfl rfl
          | frame => exact h.same hlog rfl rfl rfl rfl
          | destroy => exact h.same hlog rfl rfl rfl rfl
  | worker number event thread after shared present moves answers free =>
      exact h.step_handler hserved present moves answers

/-- In every run the descriptors are kept apart. -/
theorem isolated
    (hmain : (serverContract A conduct.watches).Sound
      (duties A conduct.watches) main)
    (hworker : (handlerContract A messages breaks).Sound
      (conversation A conduct) worker)
    {shared : ServerState} (halive : shared.destroyed = false)
    (hrunning : shared.killed = false)
    {address : A} {events : List (Event (ServerCall A) ServerReply)}
    (hrun : (serverMachine main worker).Run
      ((serverMachine main worker).initial shared (.construct address))
      events s) :
    Isolated conduct.watches shared.kernel s := by
  induction hrun with
  | nil =>
      have hnobody : ∀ holder fd, ¬ Holds conduct.watches
          ((serverMachine main worker).initial shared (.construct address))
          holder fd := by
        rintro (_ | _ | number) fd hhas
        · cases hhas
        · obtain ⟨_, hcustody, _⟩ := hhas
          cases hcustody
        · obtain ⟨_, _, hpresent, _⟩ := hhas
          cases hpresent
      exact
        ⟨fun holder fd hhas => absurd hhas (hnobody holder fd),
          fun holder _ fd hhas => absurd hhas (hnobody holder fd),
          fun _ hopen => Or.inl hopen⟩
  | snoc events t event u run step ih =>
      exact ih.step (servedRun hmain hworker halive hrunning run).served step

/-- A transfer goes over the descriptor that its handler has. -/
theorem handlerHolds_of_transfer
    (hserved : Served conduct messages breaks s)
    {number : Nat} {call : TransferCall} {reply : ServerReply}
    (hstep : (serverMachine main worker).Step s
      (.worker number (some (.transfer call, reply))) t) :
    HandlerHolds s number call.fd := by
  cases hstep with
  | worker number event thread after shared present moves answers free =>
      obtain ⟨data, hlabel, hstanding⟩ :=
        hserved.workers number thread present
      have hpermits := hstanding.permits_moves moves
      have hfd := (Speaker.law_after hstanding.1).1
      have hown : data.lowLevelSocket = call.fd := by
        cases call with
        | send fd buffer flags => exact hfd.symm.trans hpermits.1.symm
        | recv => cases hpermits
        | read fd length => exact hfd.symm.trans hpermits.1.symm
      exact ⟨thread, data, present, hlabel, hown,
        hown ▸ not_closed_of_permits hstanding.1 hpermits⟩

/-- On an open descriptor a transfer fails only where the environment has decided
on the failure. -/
theorem errno_of_transfer
    {self after : ServerState} {choice : ServerChoice}
    {call : TransferCall} {reply : ServerReply}
    (hopen : call.fd ∈ self.kernel.openFds)
    (hchoice : self.answer choice (.transfer call : ServerCall A) =
      (reply, after))
    (hfailed : reply.transfer.result = -1) :
    choice.transfer.errno = some reply.transfer.errno := by
  have hreply : reply.transfer = choice.transfer.answer call := by
    rw [← (Prod.mk.inj hchoice).1]
    exact if_pos hopen
  rw [hreply] at hfailed ⊢
  exact choice.transfer.errno_of_failed call hfailed

/-- A handler's descriptor is open and no other handler's. -/
theorem Isolated.unshared
    {flagged : Bool}
    (h : Isolated flagged base s) {number : Nat} {fd : Int}
    (hholds : HandlerHolds s number fd) :
    fd ∈ s.shared.kernel.openFds ∧
      ∀ other, HandlerHolds s other fd → other = number := by
  refine ⟨h.pooled (.handler number) fd hholds, ?_⟩
  intro other hother
  exact Holder.handler.inj
    (h.unique (.handler other) (.handler number) fd hother hholds)

/-- What a server has in custody is what it accepted last. -/
theorem accepted_of_custody
    {log : List (ServerCall A × ServerReply)}
    (h : (duties A flagged).Follows .initial log) {connection : Connection}
    (hcustody : ((duties A flagged).after .initial log).custody =
      .accepted connection) :
    ∃ fd buffer len reply,
      (ServerCall.library (.accept fd buffer len), reply) ∈ log ∧
        reply.library.result = connection.descriptor := by
  have hbegin : ∀ connection, Duty.initial.custody = .accepted connection →
      ∃ fd buffer len reply,
        (ServerCall.library (.accept fd buffer len : Call A), reply) ∈
            ([] : List (ServerCall A × ServerReply)) ∧
          reply.library.result = connection.descriptor := by
    intro connection hnothing
    cases hnothing
  have hlaw := h.law
    (fun log duty => ∀ connection, duty.custody = .accepted connection →
      ∃ fd buffer len reply,
        (ServerCall.library (.accept fd buffer len), reply) ∈ log ∧
          reply.library.result = connection.descriptor) ?_ hbegin
  · exact hlaw connection hcustody
  intro log duty call reply hbefore hpermits other hother
  have hkept : duty.custody = .accepted other →
      ∃ fd buffer len reply',
        (ServerCall.library (.accept fd buffer len), reply') ∈
            log ++ [(call, reply)] ∧
          reply'.library.result = other.descriptor := by
    intro hold
    obtain ⟨fd, buffer, len, reply', hmem, hresult⟩ := hbefore other hold
    exact ⟨fd, buffer, len, reply', List.mem_append_left _ hmem, hresult⟩
  cases call with
  | library called =>
      cases called with
      | accept fd buffer len =>
          have haccepted :
              (if reply.library.Failed then Custody.nothing
                else .accepted
                  ⟨reply.library.connection, reply.library.result⟩) =
                .accepted other :=
            hother
          split at haccepted
          · cases haccepted
          · cases haccepted
            exact ⟨fd, buffer, len, reply,
              List.mem_append_right _ (List.mem_singleton_self _), rfl⟩
      | socket => exact hkept hother
      | close => exact hkept hother
      | setsockopt => exact hkept hother
      | bind => exact hkept hother
      | listen => exact hkept hother
      | connect => exact hkept hother
      | readErrno => exact hkept hother
      | startThread => exact hkept hother
  | startThread data id =>
      change (duty.next (.startThread data id) reply).custody = _ at hother
      simp only [Duty.next] at hother
      split at hother
      · exact hkept hother
      · cases hother
  | wait => exact hkept hother
  | transfer => exact hkept hother
  | join => exact hkept hother
  | load => exact hkept hother
  | store => exact hkept hother
  | frame => exact hkept hother
  | destroy => exact hkept hother

/-- A server that has ended has nothing, and its handlers neither. -/
theorem leftover
    (hserved : Served conduct messages breaks s)
    (h : Isolated conduct.watches base s)
    (hmain : s.main.Ended)
    (hhandlers : ∀ handler ∈ s.workers, handler.Ended)
    {fd : Int} (hopen : fd ∈ s.shared.kernel.openFds) :
    fd ∈ base.openFds ∨
      ∃ connection,
        (dutyOf conduct.watches s).custody = .accepted connection ∧
          connection.descriptor = fd := by
  rcases h.complete fd hopen with hbase | ⟨holder, hhas⟩
  · exact Or.inl hbase
  · cases holder with
    | server =>
        have hserver : (dutyOf conduct.watches s).server = .nothing :=
          (hserved.main.ended hmain).2
        rw [Holds, hserver] at hhas
        cases hhas
    | custody =>
        exact Or.inr hhas
    | handler number =>
        obtain ⟨handler, data, hpresent, hlabel, rfl, hnot⟩ := hhas
        obtain ⟨data', hlabel', hstanding⟩ :=
          hserved.workers number handler hpresent
        rw [hlabel] at hlabel'
        cases hlabel'
        have hended := hhandlers handler (List.mem_of_getElem? hpresent)
        exact absurd
          ((parted_iff_closed hstanding.1).mp (hstanding.ended hended)) hnot

end Runs

section Results

variable {cls : AddressClass A} {address : A}
variable {kernel : Kernel} {flag : Bool} {s t : ServerConfig A}

theorem CommandServer.isolated
    (h : CommandServer.Reaches cls address kernel flag s) :
    Isolated true kernel s := by
  obtain ⟨events, hrun⟩ := h
  exact BsdSockets.isolated (CommandServer.block_sound cls)
    CommandHandler.block_sound rfl rfl hrun

/-- **Handlers do not get in each other's way.**  Every transfer goes over a
descriptor that is open and that no other handler has; whatever the environment
has decided for the call, it fails only if that was a failure, never because
somebody else closed the descriptor. -/
theorem CommandServer.handlers_isolated
    (h : CommandServer.Reaches cls address kernel flag s)
    {number : Nat} {call : TransferCall} {reply : ServerReply}
    (hstep : (CommandServer.machine cls).Step s
      (.worker number (some (.transfer call, reply))) t) :
    HandlerHolds s number call.fd ∧
      call.fd ∈ s.shared.kernel.openFds ∧
      (∀ other, HandlerHolds s other call.fd → other = number) ∧
      ∀ choice, s.shared.answer choice (.transfer call : ServerCall A) =
          (reply, t.shared) →
        reply.transfer.result = -1 →
          choice.transfer.errno = some reply.transfer.errno := by
  have hserved := (CommandServer.servedRun h).served
  have hholds := handlerHolds_of_transfer hserved hstep
  obtain ⟨hopen, hunique⟩ := (CommandServer.isolated h).unshared hholds
  exact ⟨hholds, hopen, hunique, fun choice => errno_of_transfer hopen⟩

theorem CommandServer.handlers_isolated_greeting :
    ∃ call reply t,
      (machine loopbackClass).Step greeting
        (.worker 0 (some (.transfer call, reply))) t ∧
      HandlerHolds greeting 0 call.fd ∧
      call.fd ∈ greeting.shared.kernel.openFds ∧
      (∀ other, HandlerHolds greeting other call.fd → other = 0) ∧
      ∀ choice, greeting.shared.answer choice
            (.transfer call : ServerCall Address) = (reply, t.shared) →
        reply.transfer.result = -1 →
          choice.transfer.errno = some reply.transfer.errno := by
  have hstep : ∃ call reply t, (machine loopbackClass).Step greeting
      (.worker 0 (some (.transfer call, reply))) t :=
    ⟨_, _, _, .worker _ 0 _ _ _ _ rfl (.calls _ _ _ _)
      (.call _ (.brings []) _) rfl rfl⟩
  obtain ⟨call, reply, t, hstep⟩ := hstep
  exact ⟨call, reply, t, hstep,
    CommandServer.handlers_isolated greeting_reached hstep⟩

/-- **What a server leaves behind.**  When its thread has ended so have its
handlers, and every descriptor that was opened is closed again, with one
possible exception: a connection that it accepted and could not start a handler
for. -/
theorem CommandServer.leaves_one_descriptor
    (h : CommandServer.Reaches cls address kernel flag s)
    (hended : s.main.Ended) :
    (∀ handler ∈ s.workers, handler.Ended) ∧
      ∃ lost : Option Int,
        (∀ fd ∈ s.shared.kernel.openFds,
          fd ∈ kernel.openFds ∨ lost = some fd) ∧
        ∀ fd, lost = some fd → ∃ listener buffer len reply,
          (ServerCall.library (.accept listener buffer len), reply) ∈
              s.main.log ∧
            reply.library.result = fd := by
  have hrun := CommandServer.servedRun h
  have hisolated := CommandServer.isolated h
  have hstage := (hrun.served.main.ended hended).1
  have hhandlers := hrun.served.all_ended hrun.awaited hstage
  refine ⟨hhandlers, ?_⟩
  by_cases hcustody : ∃ connection,
      (dutyOf true s).custody = .accepted connection
  · obtain ⟨connection, hcustody⟩ := hcustody
    refine ⟨some connection.descriptor, ?_, ?_⟩
    · intro fd hopen
      rcases leftover hrun.served hisolated hended hhandlers hopen with
        hbase | ⟨other, hother, rfl⟩
      · exact Or.inl hbase
      · have hsame : Custody.accepted connection = .accepted other :=
          hcustody.symm.trans hother
        cases hsame
        exact Or.inr rfl
    · intro fd hlost
      cases hlost
      exact accepted_of_custody hrun.served.main.1 hcustody
  · refine ⟨none, ?_, ?_⟩
    · intro fd hopen
      rcases leftover hrun.served hisolated hended hhandlers hopen with
        hbase | ⟨other, hother, _⟩
      · exact Or.inl hbase
      · exact absurd ⟨other, hother⟩ hcustody
    · intro fd hlost
      cases hlost

theorem CommandServer.leaves_one_descriptor_finished :
    (∀ handler ∈ finished.workers, handler.Ended) ∧
      ∃ lost : Option Int,
        (∀ fd ∈ finished.shared.kernel.openFds,
          fd ∈ Factory.standardKernel.openFds ∨ lost = some fd) ∧
        ∀ fd, lost = some fd → ∃ listener buffer len reply,
          (ServerCall.library (.accept listener buffer len), reply) ∈
              finished.main.log ∧
            reply.library.result = fd :=
  CommandServer.leaves_one_descriptor finished_reached finished_ended

end Results

end BsdSockets
