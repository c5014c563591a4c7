import BsdSockets.ServerRuns

/-!
# Runs of the echo server

`EchoServer` has no flag: nothing but its own conversation ends a handler.  Its
client may leave without a word, and the handler then reads nothing again and
again; only a transfer that fails or a chunk that begins with `quit` makes it
end.  The server joins its handlers before it is destroyed, so it waits for all
of them.

All that is so until a handler sends to a client that is gone: `SIGPIPE` kills
the process, the server and the handlers of all other clients with it.
-/

namespace BsdSockets

open Resumption

variable {A : Type}

namespace EchoServer

/-- Some run of a server for this address ends here. -/
def Reaches
    (cls : AddressClass A) (address : A) (kernel : Kernel)
    (s : ServerConfig A) : Prop :=
  ∃ events,
    (machine cls).Run
      ((machine cls).initial ⟨kernel, false, false, false⟩ (.construct address))
      events s

variable {cls : AddressClass A} {address : A}
variable {kernel : Kernel} {s : ServerConfig A}

theorem Reaches.step
    {t : ServerConfig A} {event : Event (ServerCall A) ServerReply}
    (h : Reaches cls address kernel s)
    (hstep : (machine cls).Step s event t) :
    Reaches cls address kernel t := by
  obtain ⟨events, hrun⟩ := h
  exact ⟨_, .snoc events s event t hrun hstep⟩

theorem servedRun
    (h : Reaches cls address kernel s) :
    ServedRun EchoHandler.conduct [quitInstruction] (fun _ _ => False)
      (machine cls) s := by
  obtain ⟨events, hrun⟩ := h
  exact BsdSockets.servedRun (EchoServer.block_sound cls)
    EchoHandler.block_sound rfl rfl hrun

section Visit

/-- Some run of a server for the loopback address ends here. -/
def ReachesLoopback (s : ServerConfig Address) : Prop :=
  Reaches loopbackClass (.inet InetAddress.loopbackAddress)
    Factory.standardKernel s

theorem loopbackStart_reached :
    ReachesLoopback (loopbackStart (machine loopbackClass) false) :=
  ⟨[], .nil⟩

theorem ReachesLoopback.exec
    {s t : ServerConfig Address} {turns : List (Machine.Turn ServerChoice)}
    (h : ReachesLoopback s)
    (hexec : (machine loopbackClass).exec s turns = some t) :
    ReachesLoopback t := by
  obtain ⟨events, hrun, _⟩ := Machine.run_of_exec hexec
  exact hrun.invariant ReachesLoopback (fun _ _ _ h hstep => h.step hstep) h

/-- The server has started one handler, which has read `hi` and `quit` and has
ended. -/
def visited : ServerConfig Address :=
  ((machine loopbackClass).exec (loopbackStart (machine loopbackClass) false)
    (List.replicate 7 (.main (.brings [])) ++
      List.replicate 6 (.worker 0 (.brings (literal "hi"))) ++
      List.replicate 4 (.worker 0 (.brings (literal "quit"))))).get
    (by decide +kernel)

theorem visited_reached :
    ReachesLoopback visited :=
  loopbackStart_reached.exec (Option.some_get _).symm

/-- It has got two chunks, and has sent the first one back and the goodbye. -/
theorem visited_ended :
    ∃ handler, visited.workers[0]? = some handler ∧ handler.Ended ∧
      chunks handler.log = [literal "hi"] ++ [literal "quit"] ∧
      sent handler.log =
        [cStr (welcome 1), cStr quitInstruction, cStr (literal "hi")] ++
          [cStr goodbye] :=
  ⟨_, rfl, rfl, rfl, rfl⟩

/-- The next `accept` has failed with `EMFILE`, and the server has ended. -/
def finished : ServerConfig Address :=
  ((machine loopbackClass).exec visited
    (List.replicate 10
      (.main { ServerChoice.calm with library := ⟨some 24, 0, []⟩ }))).get
    (by decide +kernel)

theorem finished_reached :
    ReachesLoopback finished :=
  visited_reached.exec (Option.some_get _).symm

theorem finished_destroyed :
    finished.shared.destroyed = true := by
  decide +kernel

theorem finished_ended :
    finished.main.Ended := by
  rfl

/-- The server has started a handler, which is about to greet its client. -/
def greeting : ServerConfig Address :=
  ((machine loopbackClass).exec (loopbackStart (machine loopbackClass) false)
    (List.replicate 7 (.main (.brings [])))).get (by decide +kernel)

theorem greeting_reached :
    ReachesLoopback greeting :=
  loopbackStart_reached.exec (Option.some_get _).symm

/-- The client is gone before it is greeted. -/
def gone : ServerConfig Address :=
  ((machine loopbackClass).exec greeting [.worker 0 .gone]).get
    (by decide +kernel)

theorem gone_reached :
    ReachesLoopback gone :=
  greeting_reached.exec (Option.some_get _).symm

theorem gone_killed :
    gone.shared.killed = true := by
  decide +kernel

end Visit

section Results

/-- Only `quit` ends a conversation. -/
theorem leaves_iff
    (chunk : CppString) :
    (EchoHandler.conduct.answer chunk).verdict ≠ .goesOn ↔
      literal "quit" <+: chunk := by
  simp only [EchoHandler.conduct]
  split
  · next hquit =>
      exact iff_of_true Verdict.noConfusion hquit
  · next hother =>
      exact iff_of_false (fun h => h rfl) hother

/-- The last chunk begins with `quit`, and the last message is the answer. -/
def SaidGoodbye (log : List (ServerCall A × ServerReply)) : Prop :=
  ∃ before chunk said, chunks log = before ++ [chunk] ∧
    literal "quit" <+: chunk ∧ sent log = said ++ [cStr goodbye]

theorem saidGoodbye_of_dismissed
    {messages : List CppString} {log : List (ServerCall A × ServerReply)}
    (h : Dismissed EchoHandler.conduct messages log) :
    SaidGoodbye log := by
  obtain ⟨before, chunk, hchunks, hverdict, opening, _, hsent⟩ := h
  have hquit := (leaves_iff chunk).mp hverdict
  have hanswer : EchoHandler.conduct.answer chunk = ⟨goodbye, .leaves⟩ :=
    if_pos hquit
  refine ⟨before, chunk,
    (opening ++ before.map (fun other =>
      (EchoHandler.conduct.answer other).message)).map cStr,
    hchunks, hquit, ?_⟩
  rw [hsent, hchunks]
  simp [hanswer]

/-- Why a handler has closed its descriptor: its last transfer failed, or it was
the goodbye. -/
def LeftBecause
    (fd : Int) (log : List (ServerCall A × ServerReply)) : Prop :=
  ∃ body, ClosedAfter fd body log ∧ (TransferFailed body ∨ SaidGoodbye body)

theorem left_because
    (h : Reaches cls address kernel s)
    {number : Nat}
    {handler : Running (ServerCall A) ServerReply Abrupt (HandlerLabel A)}
    (hpresent : s.workers[number]? = some handler)
    (hended : handler.Ended) :
    ∃ data,
      (startedHandlers s.main.log)[number]? =
        some (.closure data (nextId number)) ∧
      LeftBecause data.lowLevelSocket handler.log := by
  obtain ⟨data, hlabel, hfollows, body, hclosed, hending⟩ :=
    (servedRun h).served.ending hpresent hended
  refine ⟨data, hlabel, body, hclosed, ?_⟩
  obtain ⟨reply, hlog⟩ := hclosed
  rcases ending_of_unwatched rfl hfollows ⟨_, hlog.symm⟩ hending with
    hfailed | hdismissed
  · exact Or.inl hfailed
  · exact Or.inr (saidGoodbye_of_dismissed hdismissed)

/-- **What a handler says, and why it stops.**  Every handler has its own
conversation: it greets with its number and answers each chunk once, in order.
The last call of one that has ended closed its descriptor, and just before that
a transfer failed, or it had answered `quit`; that nothing more comes from its
client is no reason.  Otherwise only `SIGPIPE` stops handlers, and then all at
once: the process is killed exactly when the last call of some handler was a
send to a peer that is gone. -/
theorem leaves_on_quit
    (h : Reaches cls address kernel s)
    {number : Nat}
    {handler : Running (ServerCall A) ServerReply Abrupt (HandlerLabel A)}
    (hpresent : s.workers[number]? = some handler) :
    Conversed EchoHandler.conduct
        [welcome (nextId number), quitInstruction] handler.log ∧
      (handler.Ended →
        ∃ data,
          (startedHandlers s.main.log)[number]? =
            some (.closure data (nextId number)) ∧
          LeftBecause data.lowLevelSocket handler.log) ∧
      (s.shared.killed = true ↔
        ∃ other ∈ s.workers, BrokenPipe other.log) :=
  ⟨(servedRun h).served.conversed hpresent, left_because h hpresent,
    (servedRun h).killed⟩

theorem leaves_on_quit_visited :
    ∃ handler, visited.workers[0]? = some handler ∧
      Conversed EchoHandler.conduct [welcome 1, quitInstruction]
        handler.log ∧
      SaidGoodbye handler.log ∧
      (∃ data,
        (startedHandlers visited.main.log)[0]? = some (.closure data 1) ∧
        LeftBecause data.lowLevelSocket handler.log) ∧
      ∃ other ∈ gone.workers, BrokenPipe other.log := by
  obtain ⟨handler, hpresent, hended, hchunks, hsent⟩ := visited_ended
  obtain ⟨hconversed, hleft, _⟩ := leaves_on_quit visited_reached hpresent
  have hgone :=
    List.getElem?_eq_getElem (show 0 < gone.workers.length by decide +kernel)
  obtain ⟨_, _, hkilled⟩ := leaves_on_quit gone_reached hgone
  exact ⟨handler, hpresent, hconversed,
    ⟨[literal "hi"], literal "quit", _, hchunks, List.prefix_refl _, hsent⟩,
    hleft hended, hkilled.mp gone_killed⟩

/-- **The server outlives its handlers.**  When the object is destroyed every
handler has ended, each for a reason of its own, and no handler comes after
it. -/
theorem destroyed_last
    (h : Reaches cls address kernel s)
    (hdestroyed : s.shared.destroyed = true) :
    (∀ handler ∈ s.workers,
        handler.Ended ∧ ∃ fd, LeftBecause fd handler.log) ∧
      ∀ event t, (machine cls).Step s event t → ∃ own, event = .main own := by
  obtain ⟨hended, hsteps⟩ := (servedRun h).after_destroy hdestroyed
  refine ⟨?_, ?_⟩
  · intro handler hmem
    obtain ⟨number, hlt, rfl⟩ := List.getElem_of_mem hmem
    obtain ⟨data, _, hleft⟩ :=
      left_because h (List.getElem?_eq_getElem hlt) (hended _ hmem)
    exact ⟨hended _ hmem, data.lowLevelSocket, hleft⟩
  · intro event t hstep
    obtain ⟨own, hown, _⟩ := hsteps event t hstep
    exact ⟨own, hown⟩

theorem destroyed_last_finished :
    finished.shared.destroyed = true ∧
      (∀ handler ∈ finished.workers,
        handler.Ended ∧ ∃ fd, LeftBecause fd handler.log) ∧
      ∀ event t, (machine loopbackClass).Step finished event t →
        ∃ own, event = .main own :=
  ⟨finished_destroyed, destroyed_last finished_reached finished_destroyed⟩

/-- **Nobody waits for ever.**  A configuration that cannot go on has ended, or
its server has broken off, with undefined behaviour, or with the exception of
its constructor before there were handlers, or the process was killed, after a
send of a handler to a peer that is gone. -/
theorem stuck_at_end
    (h : Reaches cls address kernel s)
    (hstuck : ¬ ∃ event t, (machine cls).Step s event t) :
    (s.main.Ended ∧ ∀ handler ∈ s.workers, handler.Ended) ∨
      s.main.program = .throw .undefined ∨
      (s.workers = [] ∧ ∃ e, s.main.program = .throw e) ∨
      (s.shared.killed = true ∧
        ∃ handler ∈ s.workers, BrokenPipe handler.log) := by
  have hrun := servedRun h
  by_cases hkilled : s.shared.killed = true
  · exact Or.inr (Or.inr (Or.inr ⟨hkilled, hrun.killed.mp hkilled⟩))
  rcases hrun.stuck (Bool.eq_false_of_not_eq_true hkilled)
      (fun ⟨event, t, hstep, _⟩ => hstuck ⟨event, t, hstep⟩) with
    hended | ⟨e, hprogram, hbroken⟩ | ⟨_, _, _, _, _, _, _, _, hfalse⟩
  · exact Or.inl hended
  · rcases hbroken with rfl | hstage
    · exact Or.inr (Or.inl hprogram)
    · refine Or.inr (Or.inr (Or.inl ⟨?_, e, hprogram⟩))
      apply List.eq_nil_of_length_eq_zero
      rw [hrun.served.count]
      exact hrun.served.law.fresh hstage
  · exact absurd hfalse id

theorem stuck_at_end_finished :
    (finished.main.Ended ∧ ∀ handler ∈ finished.workers, handler.Ended) ∨
      finished.main.program = .throw .undefined ∨
      (finished.workers = [] ∧ ∃ e, finished.main.program = .throw e) ∨
      (finished.shared.killed = true ∧
        ∃ handler ∈ finished.workers, BrokenPipe handler.log) :=
  stuck_at_end finished_reached
    (Machine.stuck_of_ended finished_ended
      ((servedRun finished_reached).after_destroy finished_destroyed).1)

end Results

end EchoServer

end BsdSockets
