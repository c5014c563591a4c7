import BsdSockets.ServerRuns

/-!
# Runs of the command server

What a run of `CommandServer` keeps: its handlers converse one by one, the flag
is set exactly when a handler has set it, and a handler sets it only after it
has answered a chunk that begins with `terminate`.  The flag is a member of the
server object, and no handler uses it after the object is gone.

A client that is gone when its handler sends to it can end everything at once:
the process is killed by `SIGPIPE`.
-/

namespace BsdSockets

open Resumption

variable {A : Type}

/-- The messages of `CommandHandler` after its greeting. -/
def CommandHandler.instructions : List CppString :=
  [quitInstruction, terminateInstruction]

namespace CommandServer

/-- Some run of a server for this address ends here.  It begins with whatever
the kernel has open, and with a flag that nobody has set up. -/
def Reaches
    (cls : AddressClass A) (address : A) (kernel : Kernel) (flag : Bool)
    (s : ServerConfig A) : Prop :=
  ∃ events,
    (machine cls).Run
      ((machine cls).initial ⟨kernel, flag, false, false⟩ (.construct address))
      events s

variable {cls : AddressClass A} {address : A}
variable {kernel : Kernel} {flag : Bool} {s : ServerConfig A}

theorem servedRun
    (h : Reaches cls address kernel flag s) :
    ServedRun CommandHandler.conduct CommandHandler.instructions
      CommandHandler.breaks (machine cls) s := by
  obtain ⟨events, hrun⟩ := h
  exact BsdSockets.servedRun (CommandServer.block_sound cls)
    CommandHandler.block_sound rfl rfl hrun

section Flag

/-- A handler has set the flag. -/
def SetByHandler
    (workers : List (Running (ServerCall A) ServerReply Abrupt
      (HandlerLabel A))) : Prop :=
  ∃ handler ∈ workers, ∃ reply, (ServerCall.store true, reply) ∈ handler.log

/-- Handlers that have just been started have not set the flag. -/
theorem setByHandler_append_started
    (workers : List (Running (ServerCall A) ServerReply Abrupt
      (HandlerLabel A)))
    (block : HandlerLabel A → ServerProgram A (Option (HandlerLabel A)))
    (labels : List (HandlerLabel A)) :
    SetByHandler (workers ++ labels.map (Running.entering block)) ↔
      SetByHandler workers := by
  constructor
  · rintro ⟨handler, hmem, reply, hstore⟩
    rcases List.mem_append.mp hmem with hold | hnew
    · exact ⟨handler, hold, reply, hstore⟩
    · obtain ⟨label, _, rfl⟩ := List.mem_map.mp hnew
      cases hstore
  · rintro ⟨handler, hmem, reply, hstore⟩
    exact ⟨handler, List.mem_append_left _ hmem, reply, hstore⟩

/-- After a handler has done something, the flag was set before or by it. -/
theorem setByHandler_set
    {workers : List (Running (ServerCall A) ServerReply Abrupt
      (HandlerLabel A))}
    {number : Nat} {thread after : Running (ServerCall A) ServerReply Abrupt
      (HandlerLabel A)}
    (hpresent : workers[number]? = some thread)
    {event : Option (ServerCall A × ServerReply)}
    (hlog : after.log = thread.log ++ event.toList) :
    SetByHandler (workers.set number after) ↔
      SetByHandler workers ∨
        ∃ reply, event = some (.store true, reply) := by
  obtain ⟨hlt, hthread⟩ := List.getElem?_eq_some_iff.mp hpresent
  have hmem : thread ∈ workers := List.mem_of_getElem? hpresent
  have hafter : after ∈ workers.set number after :=
    List.mem_set hlt after
  constructor
  · rintro ⟨handler, hhandler, reply, hstore⟩
    rcases List.mem_or_eq_of_mem_set hhandler with hold | rfl
    · exact Or.inl ⟨handler, hold, reply, hstore⟩
    · rw [hlog, List.mem_append, Option.mem_toList] at hstore
      rcases hstore with hbefore | hnow
      · exact Or.inl ⟨thread, hmem, reply, hbefore⟩
      · exact Or.inr ⟨reply, hnow⟩
  · rintro (⟨handler, hhandler, reply, hstore⟩ | ⟨reply, rfl⟩)
    · obtain ⟨other, hother, hsame⟩ := List.getElem_of_mem hhandler
      by_cases hnumber : number = other
      · subst hnumber
        have hequal : handler = thread := hsame.symm.trans hthread
        refine ⟨after, hafter, reply, ?_⟩
        rw [hlog, ← hequal]
        exact List.mem_append_left _ hstore
      · refine ⟨handler, List.mem_iff_getElem?.mpr ⟨other, ?_⟩, reply, hstore⟩
        rw [List.getElem?_set_ne hnumber]
        exact List.getElem?_eq_some_iff.mpr ⟨hother, hsame⟩
    · refine ⟨after, hafter, reply, ?_⟩
      rw [hlog]
      exact List.mem_append_right _ (List.mem_singleton_self _)

/-- Once it is set up, the flag is set exactly when a handler has set it. -/
def FlagLaw (s : ServerConfig A) : Prop :=
  ((duties A true).after .initial s.main.log).stage ≠ .constructing →
    (s.shared.terminateRequested = true ↔ SetByHandler s.workers)

theorem answer_terminateRequested_other
    (shared : ServerState) (choice : ServerChoice) {call : ServerCall A}
    (h : ∀ value, call ≠ .store value) :
    (shared.answer choice call).2.terminateRequested =
      shared.terminateRequested := by
  cases call <;> first | rfl | exact absurd rfl (h _)

/-- A server that has set the flag up has done so before its present call,
unless this call does it. -/
theorem stage_before
    {duty : Duty} {call : ServerCall A} (reply : ServerReply)
    (hpermits : duty.permits true call)
    (hstore : ∀ value, call ≠ .store value)
    (hafter : (duty.next call reply).stage ≠ .constructing) :
    duty.stage ≠ .constructing := by
  cases call with
  | frame =>
      rcases hpermits with hserving | ⟨hnone, _⟩
      · rw [hserving]
        exact Stage.noConfusion
      · cases hnone
  | destroy =>
      rcases hpermits.2 with hserving | ⟨hnone, _⟩
      · rw [hserving]
        exact Stage.noConfusion
      · cases hnone
  | store value =>
      exact absurd rfl (hstore value)
  | startThread data id =>
      rw [hpermits.1]
      exact Stage.noConfusion
  | library called =>
      cases called <;> exact hafter
  | wait => exact hafter
  | transfer => exact hafter
  | join => exact hafter
  | load => exact hafter

theorem FlagLaw.step
    {t : ServerConfig A} {event : Event (ServerCall A) ServerReply}
    (hrun : ServedRun CommandHandler.conduct CommandHandler.instructions
      CommandHandler.breaks (machine cls) s)
    (h : FlagLaw s)
    (hstep : (machine cls).Step s event t) :
    FlagLaw t := by
  intro hstage
  cases hstep with
  | main event after shared moves answers free =>
      rw [setByHandler_append_started]
      cases answers with
      | jump =>
          rw [moves.log_eq, Option.toList_none, List.append_nil] at hstage
          exact h hstage
      | call choice call =>
          have hpermits := hrun.served.main.permits_moves moves
          rw [moves.log_eq, Option.toList_some, (duties A true).after_append]
            at hstage
          by_cases hstore : ∃ value, call = .store value
          · obtain ⟨value, rfl⟩ := hstore
            obtain ⟨rfl, hconstructing⟩ := hpermits
            have hnone : s.workers = [] := by
              apply List.eq_nil_of_length_eq_zero
              rw [hrun.served.count]
              exact hrun.served.law.fresh hconstructing
            rw [hnone]
            constructor
            · intro hflag
              cases hflag
            · rintro ⟨handler, hmem, _⟩
              cases hmem
          · have hother : ∀ value, call ≠ .store value := by
              intro value hcall
              exact hstore ⟨value, hcall⟩
            change (s.shared.answer choice call).2.terminateRequested = true ↔ _
            rw [answer_terminateRequested_other s.shared choice hother]
            exact h (stage_before _ hpermits hother hstage)
  | worker number event thread after shared present moves answers free =>
      have hbefore := h hstage
      rw [setByHandler_set present moves.log_eq, ← hbefore]
      cases answers with
      | jump =>
          constructor
          · exact Or.inl
          · rintro (hflag | ⟨reply, hevent⟩)
            · exact hflag
            · cases hevent
      | call choice call =>
          obtain ⟨data, _, hstanding⟩ :=
            hrun.served.workers number thread present
          have hpermits := hstanding.permits_moves moves
          by_cases hstore : ∃ value, call = .store value
          · obtain ⟨value, rfl⟩ := hstore
            obtain ⟨rfl, _⟩ := hpermits
            exact ⟨fun _ => Or.inr ⟨_, rfl⟩, fun _ => rfl⟩
          · have hother : ∀ value, call ≠ .store value := by
              intro value hcall
              exact hstore ⟨value, hcall⟩
            change (s.shared.answer choice call).2.terminateRequested = true ↔ _
            rw [answer_terminateRequested_other s.shared choice hother]
            constructor
            · exact Or.inl
            · rintro (hflag | ⟨reply, hevent⟩)
              · exact hflag
              · cases hevent
                exact absurd rfl (hother true)

theorem flagLaw
    (h : Reaches cls address kernel flag s) :
    FlagLaw s := by
  obtain ⟨events, hrun⟩ := h
  induction hrun with
  | nil =>
      intro hstage
      exact absurd rfl hstage
  | snoc events t event u run step ih =>
      exact ih.step (servedRun ⟨events, run⟩) step

/-- The constructor is over after a call that leaves it. -/
theorem stage_of_mem
    {log : List (ServerCall A × ServerReply)}
    {call : ServerCall A} {reply : ServerReply}
    (hleaves : ∀ duty : Duty, duty.permits true call →
      (duty.next call reply).stage ≠ .constructing)
    (h : (duties A true).Follows .initial log)
    (hmem : (call, reply) ∈ log) :
    ((duties A true).after .initial log).stage ≠ .constructing := by
  obtain ⟨before, later, rfl⟩ := List.append_of_mem hmem
  obtain ⟨_, hpermits, hlater⟩ := ((duties A true).follows_append _ _ _).mp h
  rw [(duties A true).after_append, (duties A true).after_cons]
  exact hlater.invariant (fun duty => duty.stage ≠ .constructing)
    (fun _ call reply hstage _ => Duty.next_stage_ne hstage call reply)
    (hleaves _ hpermits)

theorem stage_of_store
    {log : List (ServerCall A × ServerReply)} {value : Bool}
    {reply : ServerReply}
    (h : (duties A true).Follows .initial log)
    (hmem : (.store value, reply) ∈ log) :
    ((duties A true).after .initial log).stage ≠ .constructing :=
  stage_of_mem (fun _ _ => Stage.noConfusion) h hmem

theorem stage_of_load
    {log : List (ServerCall A × ServerReply)} {reply : ServerReply}
    (h : (duties A true).Follows .initial log)
    (hmem : (.load, reply) ∈ log) :
    ((duties A true).after .initial log).stage ≠ .constructing := by
  refine stage_of_mem ?_ h hmem
  intro duty hserving
  change duty.stage ≠ .constructing
  rw [show duty.stage = .serving from hserving]
  exact Stage.noConfusion

/-- The flag stays set where it is only ever set, and a look at it sees it. -/
theorem answers_flagged
    {shared after : ServerState}
    {event : Option (ServerCall A × ServerReply)}
    (hflag : shared.terminateRequested = true)
    (hstore : ∀ value reply, event = some (.store value, reply) →
      value = true)
    (hanswers : (machine cls).Answers shared event after) :
    after.terminateRequested = true ∧
      ∀ call reply, event = some (call, reply) → call = .load →
        reply.flag = true := by
  cases hanswers with
  | jump =>
      refine ⟨hflag, ?_⟩
      intro call reply hevent
      cases hevent
  | call choice call =>
      refine ⟨?_, ?_⟩
      · by_cases hcall : ∃ value, call = .store value
        · obtain ⟨value, rfl⟩ := hcall
          exact hstore value _ rfl
        · exact (answer_terminateRequested_other shared choice
            (fun value heq => hcall ⟨value, heq⟩)).trans hflag
      · intro call' reply hevent hload
        cases hevent
        rw [hload]
        exact hflag

theorem Reaches.step
    {t : ServerConfig A} {event : Event (ServerCall A) ServerReply}
    (h : Reaches cls address kernel flag s)
    (hstep : (machine cls).Step s event t) :
    Reaches cls address kernel flag t := by
  obtain ⟨events, hrun⟩ := h
  exact ⟨_, .snoc events s event t hrun hstep⟩

/-- The constructor does not come back. -/
theorem stage_stays
    {t : ServerConfig A} {event : Event (ServerCall A) ServerReply}
    (hstage : ((duties A true).after .initial s.main.log).stage ≠
      .constructing)
    (hstep : (machine cls).Step s event t) :
    ((duties A true).after .initial t.main.log).stage ≠ .constructing := by
  cases hstep with
  | main event after shared moves answers free =>
      rw [moves.log_eq, (duties A true).after_append]
      cases event with
      | none =>
          exact hstage
      | some entry =>
          exact Duty.next_stage_ne hstage entry.1 entry.2
  | worker number event thread after shared present moves answers free =>
      exact hstage

/-- After the constructor the flag is never cleared. -/
theorem flag_stays
    {t : ServerConfig A} {event : Event (ServerCall A) ServerReply}
    (h : Reaches cls address kernel flag s)
    (hflag : s.shared.terminateRequested = true)
    (hstage : ((duties A true).after .initial s.main.log).stage ≠
      .constructing)
    (hstep : (machine cls).Step s event t) :
    t.shared.terminateRequested = true ∧
      ∀ call reply, event.entry = some (call, reply) → call = .load →
        reply.flag = true := by
  have hserved := (servedRun h).served
  cases hstep with
  | main event after shared moves answers free =>
      refine answers_flagged hflag ?_ answers
      rintro value reply rfl
      have hpermits := hserved.main.permits_moves moves
      exact absurd hpermits.2 hstage
  | worker number event thread after shared present moves answers free =>
      refine answers_flagged hflag ?_ answers
      rintro value reply rfl
      obtain ⟨data, _, hstanding⟩ := hserved.workers number thread present
      exact (hstanding.permits_moves moves).1

/-- Where there are handlers the constructor is over. -/
theorem stage_of_handler
    (h : Reaches cls address kernel flag s)
    {handler : Running (ServerCall A) ServerReply Abrupt (HandlerLabel A)}
    (hmem : handler ∈ s.workers) :
    ((duties A true).after .initial s.main.log).stage ≠ .constructing := by
  have hserved := (servedRun h).served
  intro hstage
  have hnone : s.workers.length = 0 :=
    hserved.count.trans (hserved.law.fresh hstage)
  rw [List.eq_nil_of_length_eq_zero hnone] at hmem
  cases hmem

/-- A handler that has seen the flag set was right. -/
def SeenLaw (s : ServerConfig A) : Prop :=
  ∀ handler ∈ s.workers, SawFlag handler.log →
    s.shared.terminateRequested = true

theorem SeenLaw.step
    {t : ServerConfig A} {event : Event (ServerCall A) ServerReply}
    (hreaches : Reaches cls address kernel flag s)
    (h : SeenLaw s)
    (hstep : (machine cls).Step s event t) :
    SeenLaw t := by
  have hkept : ∀ handler ∈ s.workers, SawFlag handler.log →
      t.shared.terminateRequested = true := by
    intro handler hmem hsaw
    exact (flag_stays hreaches (h handler hmem hsaw)
      (stage_of_handler hreaches hmem) hstep).1
  intro handler hmem hsaw
  cases hstep with
  | main event after shared moves answers free =>
      rcases List.mem_append.mp hmem with hold | hnew
      · exact hkept handler hold hsaw
      · obtain ⟨label, _, rfl⟩ := List.mem_map.mp hnew
        obtain ⟨reply, hlog, _⟩ := hsaw
        cases hlog
  | worker number event thread after shared present moves answers free =>
      rcases List.mem_or_eq_of_mem_set hmem with hold | rfl
      · exact hkept handler hold hsaw
      · obtain ⟨reply, hlog, hflag⟩ := hsaw
        rw [moves.log_eq, List.mem_append, Option.mem_toList] at hlog
        rcases hlog with hbefore | rfl
        · exact hkept thread (List.mem_of_getElem? present)
            ⟨reply, hbefore, hflag⟩
        · cases answers with
          | call choice call =>
              exact hflag

/-- The server's own thread was right, too. -/
theorem flag_of_main
    (h : Reaches cls address kernel flag s)
    (hsaw : SawFlag s.main.log) :
    s.shared.terminateRequested = true := by
  obtain ⟨events, hrun⟩ := h
  induction hrun with
  | nil =>
      obtain ⟨reply, hmem, _⟩ := hsaw
      cases hmem
  | snoc events t event u run step ih =>
      have hreaches : Reaches cls address kernel flag t := ⟨events, run⟩
      have hkept : SawFlag t.main.log →
          u.shared.terminateRequested = true := by
        rintro ⟨reply, hmem, hset⟩
        exact (flag_stays hreaches (ih ⟨reply, hmem, hset⟩)
          (stage_of_load (servedRun hreaches).served.main.1 hmem) step).1
      cases step with
      | main event after shared moves answers free =>
          obtain ⟨reply, hmem, hset⟩ := hsaw
          rw [moves.log_eq, List.mem_append, Option.mem_toList] at hmem
          rcases hmem with hbefore | rfl
          · exact hkept ⟨reply, hbefore, hset⟩
          · cases answers with
            | call choice call =>
                exact hset
      | worker number event thread after shared present moves answers free =>
          exact hkept hsaw

theorem setByHandler_of_main
    (h : Reaches cls address kernel flag s)
    (hsaw : SawFlag s.main.log) :
    SetByHandler s.workers := by
  obtain ⟨reply, hmem, hset⟩ := hsaw
  exact (flagLaw h (stage_of_load (servedRun h).served.main.1 hmem)).mp
    (flag_of_main h ⟨reply, hmem, hset⟩)

end Flag

section Visit

/-- A server for the loopback address that is about to be constructed. -/
def loopback : ServerConfig Address :=
  loopbackStart (machine loopbackClass) true

/-- Some run of it ends here. -/
def ReachesLoopback (s : ServerConfig Address) : Prop :=
  Reaches loopbackClass (.inet InetAddress.loopbackAddress)
    Factory.standardKernel true s

theorem loopback_reached :
    ReachesLoopback loopback :=
  ⟨[], .nil⟩

theorem ReachesLoopback.exec
    {s t : ServerConfig Address} {turns : List (Machine.Turn ServerChoice)}
    (h : ReachesLoopback s)
    (hexec : (machine loopbackClass).exec s turns = some t) :
    ReachesLoopback t := by
  obtain ⟨events, hrun, _⟩ := Machine.run_of_exec hexec
  exact hrun.invariant ReachesLoopback (fun _ _ _ h hstep => h.step hstep) h

/-- The server has started one handler, which has read `terminate` and has
ended. -/
def terminated : ServerConfig Address :=
  ((machine loopbackClass).exec loopback
    (List.replicate 12 (.main (.brings (literal "terminate"))) ++
      List.replicate 12 (.worker 0 (.brings (literal "terminate"))))).get
    (by decide +kernel)

theorem terminated_reached :
    ReachesLoopback terminated :=
  loopback_reached.exec (Option.some_get _).symm

theorem terminated_setUp :
    ∃ reply, (ServerCall.store false, reply) ∈ terminated.main.log :=
  ⟨_, List.mem_of_getElem? (i := 3) rfl⟩

theorem terminated_flag :
    terminated.shared.terminateRequested = true := by
  decide +kernel

/-- The server has seen the flag, has joined the handler and has ended. -/
def finished : ServerConfig Address :=
  ((machine loopbackClass).exec terminated
    (List.replicate 7 (.main .calm))).get (by decide +kernel)

theorem terminated_finished :
    ∃ events, (machine loopbackClass).Run terminated events finished ∧
      events.length = 7 :=
  Machine.run_of_exec (Option.some_get _).symm

theorem finished_reached :
    ReachesLoopback finished :=
  terminated_reached.exec (Option.some_get _).symm

theorem finished_destroyed :
    finished.shared.destroyed = true := by
  decide +kernel

theorem finished_ended :
    finished.main.Ended := by
  rfl

/-- The server has started a handler, which is about to greet its client. -/
def greeting : ServerConfig Address :=
  ((machine loopbackClass).exec loopback
    (List.replicate 12 (.main (.brings [])))).get (by decide +kernel)

theorem greeting_reached :
    ReachesLoopback greeting :=
  loopback_reached.exec (Option.some_get _).symm

/-- The client is gone before it is greeted. -/
def gone : ServerConfig Address :=
  ((machine loopbackClass).exec greeting [.worker 0 .gone]).get
    (by decide +kernel)

theorem gone_reached :
    ReachesLoopback gone :=
  greeting_reached.exec (Option.some_get _).symm

theorem gone_killed :
    gone.shared.killed = true := by
  decide +kernel

end Visit

section Results

theorem shutsDown_iff
    (chunk : CppString) :
    (CommandHandler.conduct.answer chunk).verdict = .shutsDown ↔
      literal "terminate" <+: chunk := by
  simp only [CommandHandler.conduct]
  split
  · next hterminate =>
      exact iff_of_true rfl hterminate
  · next hother =>
      split <;> exact iff_of_false Verdict.noConfusion hother

/-- **Where the flag comes from.**  Once the constructor has set it up, it is
set exactly when a handler has set it; and a handler that has set it has got a
chunk that begins with `terminate` and has confirmed it. -/
theorem terminateRequested_iff
    (h : Reaches cls address kernel flag s)
    {reply : ServerReply}
    (hsetUp : (ServerCall.store false, reply) ∈ s.main.log) :
    (s.shared.terminateRequested = true ↔ SetByHandler s.workers) ∧
      ∀ handler ∈ s.workers, ∀ reply',
        (ServerCall.store true, reply') ∈ handler.log →
          ∃ chunk ∈ chunks handler.log, literal "terminate" <+: chunk ∧
            cStr requestingShutdown ∈ sent handler.log := by
  have hrun := servedRun h
  refine ⟨flagLaw h (stage_of_store hrun.served.main.1 hsetUp), ?_⟩
  intro handler hmem reply' hstore
  obtain ⟨number, hlt, rfl⟩ := List.getElem_of_mem hmem
  obtain ⟨fd, hfollows⟩ :=
    hrun.served.follows (List.getElem?_eq_getElem hlt)
  obtain ⟨chunk, hchunk, hverdict, hsent⟩ :=
    shutsDown_of_store hfollows hstore
  have hterminate := (shutsDown_iff chunk).mp hverdict
  have hanswer :
      CommandHandler.conduct.answer chunk =
        ⟨requestingShutdown, .shutsDown⟩ :=
    if_pos hterminate
  rw [hanswer] at hsent
  exact ⟨chunk, hchunk, hterminate, hsent⟩

theorem terminateRequested_iff_terminated :
    SetByHandler terminated.workers ∧
      ∃ handler ∈ terminated.workers,
        ∃ chunk ∈ chunks handler.log, literal "terminate" <+: chunk ∧
          cStr requestingShutdown ∈ sent handler.log := by
  obtain ⟨reply, hsetUp⟩ := terminated_setUp
  obtain ⟨hflag, hasked⟩ := terminateRequested_iff terminated_reached hsetUp
  obtain ⟨handler, hmem, reply', hstore⟩ := hflag.mp terminated_flag
  exact ⟨⟨handler, hmem, reply', hstore⟩, handler, hmem,
    hasked handler hmem reply' hstore⟩

/-- **A request to terminate is heeded.**  When a handler has ended that got a
chunk that begins with `terminate`, the flag is set, unless the confirmation
could not be sent. -/
theorem terminate_heeded
    (h : Reaches cls address kernel flag s)
    {number : Nat}
    {handler : Running (ServerCall A) ServerReply Abrupt (HandlerLabel A)}
    (hpresent : s.workers[number]? = some handler)
    (hended : handler.Ended)
    {chunk : CppString} (hchunk : chunk ∈ chunks handler.log)
    (hterminate : literal "terminate" <+: chunk) :
    s.shared.terminateRequested = true ∨
      ∃ fd flags reply,
        (ServerCall.transfer (.send fd (cStr requestingShutdown) flags),
          reply) ∈ handler.log ∧ reply.transfer.result = -1 := by
  obtain ⟨data, _, hstanding⟩ :=
    (servedRun h).served.workers number handler hpresent
  have hmem := List.mem_of_getElem? hpresent
  have hmessage :
      (CommandHandler.conduct.answer chunk).message = requestingShutdown := by
    simp only [CommandHandler.conduct, if_pos hterminate]
  have hdone := heededOr_of_parted hstanding.1 (hstanding.ended hended) hchunk
    ((shutsDown_iff chunk).mpr hterminate)
  rw [hmessage] at hdone
  rcases hdone with ⟨reply, hstore⟩ | hfailed
  · exact Or.inl ((flagLaw h (stage_of_handler h hmem)).mpr
      ⟨handler, hmem, reply, hstore⟩)
  · exact Or.inr hfailed

theorem terminate_heeded_terminated :
    ∃ handler ∈ terminated.workers,
      terminated.shared.terminateRequested = true ∨
        ∃ fd flags reply,
          (ServerCall.transfer (.send fd (cStr requestingShutdown) flags),
            reply) ∈ handler.log ∧ reply.transfer.result = -1 := by
  have hended : ∃ handler, terminated.workers[0]? = some handler ∧
      handler.Ended ∧ chunks handler.log = [literal "terminate"] :=
    ⟨_, rfl, rfl, rfl⟩
  obtain ⟨handler, hpresent, hended, hchunks⟩ := hended
  refine ⟨handler, List.mem_of_getElem? hpresent,
    terminate_heeded terminated_reached hpresent hended
      (hchunks ▸ List.mem_singleton_self _) (List.prefix_refl _)⟩

/-- **Every handler has its own conversation**, whatever the others do: it
greets with its number, and answers each chunk once and in order. -/
theorem conversations
    (h : Reaches cls address kernel flag s)
    {number : Nat}
    {handler : Running (ServerCall A) ServerReply Abrupt (HandlerLabel A)}
    (hpresent : s.workers[number]? = some handler) :
    Conversed CommandHandler.conduct
      (welcome (nextId number) :: CommandHandler.instructions)
      handler.log :=
  (servedRun h).served.conversed hpresent

theorem conversations_terminated :
    ∃ handler ∈ terminated.workers,
      Conversed CommandHandler.conduct
        (welcome 1 :: CommandHandler.instructions) handler.log := by
  have hpresent :=
    List.getElem?_eq_getElem (show 0 < terminated.workers.length by decide +kernel)
  exact ⟨_, List.mem_of_getElem? hpresent,
    conversations terminated_reached hpresent⟩

/-- **Nobody uses a destroyed server.**  When the object is destroyed every
handler has ended, and whatever happens afterwards is done by the server's own
thread and does not touch the flag. -/
theorem unused_after_destroy
    (h : Reaches cls address kernel flag s)
    (hdestroyed : s.shared.destroyed = true) :
    (∀ handler ∈ s.workers, handler.Ended) ∧
      ∀ event t, (machine cls).Step s event t →
        ∃ own, event = .main own ∧
          ∀ reply, own ≠ some (.load, reply) ∧
            ∀ value, own ≠ some (.store value, reply) :=
  (servedRun h).after_destroy hdestroyed

theorem unused_after_destroy_finished :
    finished.shared.destroyed = true ∧
      ∀ handler ∈ finished.workers, handler.Ended :=
  ⟨finished_destroyed,
    (unused_after_destroy finished_reached finished_destroyed).1⟩

/-- What keeps a server that was not killed from going on. -/
theorem stuck_because
    (hrun : ServedRun CommandHandler.conduct CommandHandler.instructions
      CommandHandler.breaks (machine cls) s)
    (hrunning : s.shared.killed = false)
    (hstuck : ¬ ∃ event t, (machine cls).Step s event t ∧
      t.shared.killed = false) :
    (s.main.Ended ∧ ∀ handler ∈ s.workers, handler.Ended) ∨
      s.main.program = .throw .undefined ∨
      ((∃ e, s.main.program = .throw e) ∧
        ((duties A true).after .initial s.main.log).stage = .constructing) ∨
      ∃ (number : Nat)
          (handler : Running (ServerCall A) ServerReply Abrupt (HandlerLabel A))
          (data : AcceptedSocketData A),
        s.workers[number]? = some handler ∧
        handler.program = .throw .undefined ∧
        (startedHandlers s.main.log)[number]? =
          some (.closure data (nextId number)) ∧
        ¬ Selectable data.lowLevelSocket := by
  rcases hrun.stuck hrunning hstuck with
    hended | ⟨e, hprogram, hbroken⟩ |
    ⟨number, handler, data, e, talk, hpresent, hprogram, hlabel, rfl, hoff⟩
  · exact Or.inl hended
  · rcases hbroken with rfl | hstage
    · exact Or.inr (Or.inl hprogram)
    · exact Or.inr (Or.inr (Or.inl ⟨⟨e, hprogram⟩, hstage⟩))
  · exact Or.inr (Or.inr (Or.inr
      ⟨number, handler, data, hpresent, hprogram, hlabel, hoff⟩))

/-- **Nobody waits for ever.**  A configuration that cannot go on has ended.
The exceptions are a server whose constructor has thrown, before there were
handlers, threads with undefined behaviour, which a handler has over a
descriptor without a bit in the sets of `select` only, and a process that was
killed, after a send of a handler to a peer that is gone. -/
theorem never_deadlocks
    (h : Reaches cls address kernel flag s)
    (hstuck : ¬ ∃ event t, (machine cls).Step s event t) :
    (s.main.Ended ∧ ∀ handler ∈ s.workers, handler.Ended) ∨
      s.main.program = .throw .undefined ∨
      (s.workers = [] ∧ ∃ e, s.main.program = .throw e) ∨
      (∃ (number : Nat)
          (handler : Running (ServerCall A) ServerReply Abrupt (HandlerLabel A))
          (data : AcceptedSocketData A),
        s.workers[number]? = some handler ∧
        handler.program = .throw .undefined ∧
        (startedHandlers s.main.log)[number]? =
          some (.closure data (nextId number)) ∧
        ¬ Selectable data.lowLevelSocket) ∨
      (s.shared.killed = true ∧
        ∃ handler ∈ s.workers, BrokenPipe handler.log) := by
  have hrun := servedRun h
  by_cases hkilled : s.shared.killed = true
  · exact Or.inr (Or.inr (Or.inr (Or.inr ⟨hkilled, hrun.killed.mp hkilled⟩)))
  rcases stuck_because hrun (Bool.eq_false_of_not_eq_true hkilled)
      (fun ⟨event, t, hstep, _⟩ => hstuck ⟨event, t, hstep⟩) with
    hended | hundefined | ⟨hbroken, hstage⟩ | hhandler
  · exact Or.inl hended
  · exact Or.inr (Or.inl hundefined)
  · refine Or.inr (Or.inr (Or.inl ⟨?_, hbroken⟩))
    apply List.eq_nil_of_length_eq_zero
    rw [hrun.served.count]
    exact hrun.served.law.fresh hstage
  · exact Or.inr (Or.inr (Or.inr (Or.inl hhandler)))

theorem never_deadlocks_finished :
    (finished.main.Ended ∧ ∀ handler ∈ finished.workers, handler.Ended) ∨
      finished.main.program = .throw .undefined ∨
      (finished.workers = [] ∧ ∃ e, finished.main.program = .throw e) ∨
      (∃ (number : Nat)
          (handler : Running (ServerCall Address) ServerReply Abrupt
            (HandlerLabel Address))
          (data : AcceptedSocketData Address),
        finished.workers[number]? = some handler ∧
        handler.program = .throw .undefined ∧
        (startedHandlers finished.main.log)[number]? =
          some (.closure data (nextId number)) ∧
        ¬ Selectable data.lowLevelSocket) ∨
      (finished.shared.killed = true ∧
        ∃ handler ∈ finished.workers, BrokenPipe handler.log) :=
  never_deadlocks finished_reached
    (Machine.stuck_of_ended finished_ended
      ((servedRun finished_reached).after_destroy finished_destroyed).1)

end Results

end CommandServer

end BsdSockets
