import BsdSockets.Conversation

/-!
# The handlers keep their conversations

Both handlers are shown to follow the conversation of their conduct, block by
block and against every reply.  A call of a handler is one call of the system
with what it makes of the reply, so each function has an equation first and a
rule for the conversation after it.

An exception never leaves the loop.  `EchoHandler` does not break off at all;
`CommandHandler` has undefined behaviour only where `select` has it, on a
descriptor without a bit.
-/

namespace BsdSockets

open Resumption

variable {A : Type} {conduct : Conduct}

section Calls

/-- `send` is one call that takes the message with its NUL. -/
theorem sendMessage_eq
    (socket : Socket A) (message : CppString) :
    sendMessage socket message =
      .call (.transfer (.send socket.lowLevelSocket (cStr message) 0))
        (fun reply =>
          if reply.transfer.result = -1 then
            .throw (.throws (.systemError reply.transfer.errno ""))
          else .ret ()) := by
  have hlength : (cStr message).length = message.length + 1 := by
    simp [cStr]
  have htake : (cStr message).take (message.length + 1) = cStr message := by
    rw [← hlength, List.take_length]
  simp only [sendMessage, Socket.send, hlength, htake, gt_iff_lt,
    Nat.lt_irrefl, if_false, Socket.checkedTransfer, transferring,
    Prog.perform_bind, Prog.call_bind, Prog.translate_call]
  congr 1
  funext reply
  by_cases hfailed : reply.transfer.result = -1
  · rw [if_pos hfailed]
    simp [hfailed]
  · rw [if_neg hfailed]
    have hne : -1 ≠ reply.transfer.result := fun h => hfailed h.symm
    simp [hne]

/-- Reading is one call, and then the chunk is acted on. -/
theorem readChunk_eq
    (socket : Socket A) (actOn : CppString → ServerProgram A Bool) :
    readChunk socket actOn =
      .call (.transfer (.read socket.lowLevelSocket 1023))
        (fun reply =>
          if reply.transfer.result = -1 then
            .throw (.throws (.systemError reply.transfer.errno ""))
          else if reply.transfer.result = 0 then .ret false
          else do
            let buffer ← Prog.lift
              (stringOf reply.transfer.written reply.transfer.result)
            actOn buffer) := by
  simp only [readChunk, Socket.blockingReceive, Socket.checkedTransfer,
    transferring, Prog.perform_bind, Prog.translate_call,
    Prog.call_bind]
  congr 1
  funext reply
  by_cases hfailed : reply.transfer.result = -1
  · rw [if_pos hfailed]
    simp [hfailed]
  · rw [if_neg hfailed]
    have hne : -1 ≠ reply.transfer.result := fun h => hfailed h.symm
    by_cases hempty : reply.transfer.result = 0
    · simp [hempty]
    · have hsome : ¬ (0 = reply.transfer.result) := fun h => hempty h.symm
      simp [hne, hempty, hsome]

/-- `select` on a descriptor with a bit is one call. -/
theorem waiting_select_eq
    (socket : Socket A) {index : Fin fdSetsize}
    (hselectable : Selectable socket.lowLevelSocket)
    (hindex : fdIndex socket.lowLevelSocket = .ok index)
    (timeoutMs : Int32) (checkRead checkWrite checkError : Bool) :
    (waiting (socket.select timeoutMs checkRead checkWrite checkError) :
        ServerProgram A SelectResult) =
      .call
        (.wait
          (.select (socket.lowLevelSocket + 1)
            (Socket.only index checkRead) (Socket.only index checkWrite)
            (Socket.only index checkError) (Socket.selectTimeout timeoutMs)))
        (fun reply => Prog.lift
          (Socket.selectResult socket.lowLevelSocket checkRead checkWrite
            checkError reply.wait)) := by
  rw [socket.select_selectable hselectable hindex, waiting,
    Prog.translate_call]
  congr 1
  funext reply
  cases Socket.selectResult socket.lowLevelSocket checkRead checkWrite
    checkError reply.wait <;> rfl

/-- What `select` makes of a reply: an exception, or the bits. -/
theorem selectResult_eq
    {fd : Int} {index : Fin fdSetsize}
    (hindex : fdIndex fd = .ok index)
    (checkRead checkWrite checkError : Bool) (reply : WaitReply) :
    Socket.selectResult fd checkRead checkWrite checkError reply =
      if reply.result = -1 then raise (.systemError reply.errno "")
      else .ok (.new checkRead checkWrite checkError
        (decide (index ∈ reply.read)) (decide (index ∈ reply.write))
        (decide (index ∈ reply.error))) := by
  by_cases hfailed : reply.result = -1
  · rw [Socket.selectResult, if_pos hfailed, if_pos hfailed.symm]
  · have hne : ¬ (-1 = reply.result) := fun h => hfailed h.symm
    rw [Socket.selectResult, if_neg hfailed, if_neg hne]
    simp only [fdIsset, hindex]
    rfl

/-- The closure makes its socket from the descriptor that it captured. -/
theorem library_handlerSocket_eq
    {data : AcceptedSocketData A}
    (h : data.lowLevelSocket ≠ -1) :
    library (ServerSocket.handlerSocket data) =
      .ret ⟨data.lowLevelSocket, data.address⟩ := by
  have hne : ¬ (-1 = data.lowLevelSocket) := fun hminus => h hminus.symm
  rw [library, ServerSocket.handlerSocket, Socket.create,
    Socket.newExisting, if_neg hne]
  rfl

/-- The end of the closure closes the descriptor. -/
theorem library_destructor_eq
    {socket : Socket A}
    (h : socket.lowLevelSocket ≠ -1) :
    library socket.destructor =
      .call (.library (.close socket.lowLevelSocket))
        (fun _ => .ret ()) := by
  have hne : ¬ (-1 = socket.lowLevelSocket) := fun hminus => h hminus.symm
  rw [library, Socket.destructor, if_neg hne]
  rfl

end Calls

section Rules

variable {speaker : Speaker} {socket : Socket A}

/-- A message that is due may be sent. -/
theorem safe_sendMessage
    {Q : Except Abrupt Unit → Speaker → Prop}
    (hfd : socket.lowLevelSocket = speaker.fd)
    {message : CppString}
    (hdue : speaker.talk.due = some message)
    (hsaid : Q (.ok ()) { speaker with talk := speaker.talk.said })
    (hunsaid : ∀ e,
      Q (.error (.throws e)) { speaker with talk := speaker.talk.unsaid }) :
    Safe (conversation A conduct) Q (sendMessage socket message) speaker := by
  rw [sendMessage_eq]
  refine ⟨⟨hfd, message, hdue, rfl, rfl⟩, ?_⟩
  intro reply _
  change Safe _ Q _
    (if reply.transfer.result = -1 then { speaker with talk := speaker.talk.unsaid }
      else { speaker with talk := speaker.talk.said })
  beta_reduce
  split
  · exact hunsaid _
  · exact hsaid

/-- A listening handler may read, and owes the answer to what it gets. -/
theorem safe_readChunk
    {Q : Except Abrupt Bool → Speaker → Prop}
    (hfd : socket.lowLevelSocket = speaker.fd)
    (hlistening : speaker.talk = .listening)
    {actOn : CppString → ServerProgram A Bool}
    (hnothing : Q (.ok false) speaker)
    (hfailed : ∀ e, Q (.error (.throws e)) { speaker with talk := .parting })
    (hchunk : ∀ chunk,
      Safe (conversation A conduct) Q (actOn chunk)
        { speaker with talk := .answering (conduct.answer chunk) }) :
    Safe (conversation A conduct) Q (readChunk socket actOn) speaker := by
  rw [readChunk_eq]
  refine ⟨⟨hfd, hlistening⟩, ?_⟩
  intro reply hpossible
  change Safe _ Q _
    (if reply.transfer.result = -1 then { speaker with talk := .parting }
      else if reply.transfer.result = 0 then speaker
      else { speaker with
        talk := .answering (conduct.answer reply.transfer.written) })
  beta_reduce
  split
  · exact hfailed _
  · next hok =>
      split
      · exact hnothing
      · rcases hpossible with hminus | ⟨hresult, _⟩
        · exact absurd hminus hok
        · rw [hresult, stringOf_written]
          exact hchunk _

/-- Looking at the flag ends the conversation where it is set. -/
theorem safe_load_bind
    {α : Type} {Q : Except Abrupt α → Speaker → Prop}
    (hwatches : conduct.watches = true)
    (hlistening : speaker.talk = .listening)
    {k : Bool → ServerProgram A α}
    (hset : Safe (conversation A conduct) Q (k true)
      { speaker with talk := .parting })
    (hclear : Safe (conversation A conduct) Q (k false) speaker) :
    Safe (conversation A conduct) Q (load >>= k) speaker := by
  refine ⟨⟨hwatches, Or.inl hlistening⟩, ?_⟩
  intro reply _
  change Safe _ Q (k reply.flag)
    (if reply.flag = true then { speaker with talk := .parting }
      else { speaker with talk := speaker.talk.looked })
  have hlooked : speaker.talk.looked = speaker.talk := by
    rw [hlistening]
    rfl
  rw [hlooked]
  cases reply.flag with
  | true =>
      exact hset
  | false =>
      exact hclear

/-- A handler that was told of an error looks at the flag once more and
parts. -/
theorem safe_load_alarmed
    {α : Type} {Q : Except Abrupt α → Speaker → Prop}
    (hwatches : conduct.watches = true)
    (halarmed : speaker.talk = .alarmed)
    {k : Bool → ServerProgram A α}
    (hk : ∀ flag, Safe (conversation A conduct) Q (k flag)
      { speaker with talk := .parting }) :
    Safe (conversation A conduct) Q (load >>= k) speaker := by
  refine ⟨⟨hwatches, Or.inr halarmed⟩, ?_⟩
  intro reply _
  change Safe _ Q (k reply.flag)
    (if reply.flag = true then { speaker with talk := .parting }
      else { speaker with talk := speaker.talk.looked })
  have hlooked : speaker.talk.looked = .parting := by
    rw [halarmed]
    rfl
  rw [hlooked, ite_self]
  exact hk reply.flag

/-- Waiting ends the conversation where it fails or reports an error. -/
theorem safe_select_bind
    {α : Type} {Q : Except Abrupt α → Speaker → Prop}
    (hfd : socket.lowLevelSocket = speaker.fd)
    (hwatches : conduct.watches = true)
    (hlistening : speaker.talk = .listening)
    (hselectable : Selectable socket.lowLevelSocket)
    (timeoutMs : Int32) (checkRead checkWrite checkError : Bool)
    {k : SelectResult → ServerProgram A α}
    (hfailed : ∀ e, Q (.error (.throws e)) { speaker with talk := .parting })
    (herror : ∀ result, result.readyWithError = true →
      Safe (conversation A conduct) Q (k result)
        { speaker with talk := .alarmed })
    (hcalm : ∀ result, result.readyWithError = false →
      Safe (conversation A conduct) Q (k result) speaker) :
    Safe (conversation A conduct) Q
      (waiting (socket.select timeoutMs checkRead checkWrite checkError)
        >>= k) speaker := by
  obtain ⟨index, hindex, hval⟩ := fdIndex_selectable hselectable
  rw [waiting_select_eq socket hselectable hindex, Prog.call_bind]
  refine ⟨⟨hwatches, hlistening⟩, ?_⟩
  intro reply _
  change Safe _ Q _
    (if reply.wait.result = -1 then { speaker with talk := .parting }
      else if reply.wait.Alarming speaker.fd then
        { speaker with talk := .alarmed }
      else speaker)
  simp only [selectResult_eq hindex]
  by_cases hminus : reply.wait.result = -1
  · rw [if_pos hminus, if_pos hminus]
    exact hfailed _
  · have halarming :
        reply.wait.Alarming speaker.fd ↔ index ∈ reply.wait.error := by
      constructor
      · rintro (hfail | ⟨other, hmem, hother⟩)
        · exact absurd hfail hminus
        · have hsame : other = index := by
            apply Fin.ext
            omega
          rwa [← hsame]
      · intro hmem
        exact Or.inr ⟨index, hmem, by omega⟩
    rw [if_neg hminus, if_neg hminus]
    by_cases hmem : index ∈ reply.wait.error
    · rw [if_pos (halarming.mpr hmem)]
      exact herror _ (decide_eq_true hmem)
    · rw [if_neg (fun h => hmem (halarming.mp h))]
      exact hcalm _ (decide_eq_false hmem)

end Rules

section Contracts

/-- Where a handler with these opening messages is in its conversation, block
by block. -/
def handlerContract
    (A : Type) (messages : List CppString)
    (breaks : Abrupt → Speaker → Prop) :
    Contract Abrupt (HandlerLabel A) Speaker where
  enters
    | .closure data id, speaker =>
        data.lowLevelSocket ≠ -1 ∧
          speaker = ⟨data.lowLevelSocket, .opening (welcome id :: messages)⟩
    | .operator socket, speaker =>
        socket.lowLevelSocket ≠ -1 ∧
          speaker = ⟨socket.lowLevelSocket, .listening⟩
    | .release socket, speaker =>
        socket.lowLevelSocket ≠ -1 ∧
          speaker = ⟨socket.lowLevelSocket, .parting⟩
  ends speaker := speaker.talk = .parted
  breaks := breaks

/-- How a round of the loop ends: the loop goes on with a listening handler and
is over with one that parts, also by an exception. -/
def RoundFinished
    (fd : Int) (breaks : Abrupt → Speaker → Prop) :
    Except Abrupt Bool → Speaker → Prop
  | .ok true, speaker => speaker = ⟨fd, .parting⟩
  | .ok false, speaker => speaker = ⟨fd, .listening⟩
  | .error (.throws _), speaker => speaker = ⟨fd, .parting⟩
  | .error .undefined, speaker => breaks .undefined speaker

/-- How a constructor ends: with a listening handler, also where a message
could not be sent. -/
def ConstructorFinished (fd : Int) :
    Except Abrupt Unit → Speaker → Prop
  | .ok _, speaker => speaker = ⟨fd, .listening⟩
  | .error _, _ => False

/-- The rule for handlers: the constructor and a round of the loop have to be
shown to keep the conversation. -/
theorem handlerBlock_sound
    {messages : List CppString} {breaks : Abrupt → Speaker → Prop}
    {new : Socket A → CppString → ServerProgram A Unit}
    {round : Socket A → ServerProgram A Bool}
    (hnew : ∀ (socket : Socket A) (greeting : CppString),
      Safe (conversation A conduct)
        (ConstructorFinished socket.lowLevelSocket) (new socket greeting)
        ⟨socket.lowLevelSocket, .opening (greeting :: messages)⟩)
    (hround : ∀ socket : Socket A,
      Safe (conversation A conduct)
        (RoundFinished socket.lowLevelSocket breaks) (round socket)
        ⟨socket.lowLevelSocket, .listening⟩) :
    (handlerContract A messages breaks).Sound (conversation A conduct)
      (handlerBlock new round) := by
  intro label speaker henters
  cases label with
  | closure data id =>
      obtain ⟨hfd, rfl⟩ := henters
      simp only [handlerBlock, library_handlerSocket_eq hfd, Prog.ret_bind]
      apply Safe.bind
      refine Safe.mono ?_ (hnew ⟨data.lowLevelSocket, data.address⟩ _)
      rintro (e | _) after hfinished
      · cases hfinished
      · exact ⟨hfd, hfinished⟩
  | operator socket =>
      obtain ⟨hfd, rfl⟩ := henters
      apply Safe.catching
      apply Safe.bind
      refine Safe.mono ?_ (hround socket)
      rintro (e | done) after hfinished
      · cases e with
        | throws e =>
            exact ⟨hfd, hfinished⟩
        | undefined =>
            exact hfinished
      · cases done with
        | true =>
            exact ⟨hfd, hfinished⟩
        | false =>
            exact ⟨hfd, hfinished⟩
  | release socket =>
      obtain ⟨hfd, rfl⟩ := henters
      simp only [handlerBlock, library_destructor_eq hfd, Prog.call_bind]
      exact ⟨⟨rfl, rfl⟩, fun _ _ => rfl⟩

end Contracts

section Echo

variable {socket : Socket A}

/-- `actOn` of `EchoHandler` sends the answer of its conduct. -/
theorem EchoHandler.safe_actOn
    (socket : Socket A) (breaks : Abrupt → Speaker → Prop)
    (chunk : CppString) :
    Safe (conversation A EchoHandler.conduct)
      (RoundFinished socket.lowLevelSocket breaks)
      (EchoHandler.actOn socket chunk)
      ⟨socket.lowLevelSocket,
        .answering (EchoHandler.conduct.answer chunk)⟩ := by
  rw [EchoHandler.actOn]
  by_cases hquit : literal "quit" <+: chunk
  · have hanswer : EchoHandler.conduct.answer chunk = ⟨goodbye, .leaves⟩ :=
      if_pos hquit
    rw [if_pos ((find_eq_zero_iff _ _).mpr hquit).symm, hanswer]
    apply Safe.bind
    exact safe_sendMessage rfl rfl rfl (fun _ => rfl)
  · have hanswer : EchoHandler.conduct.answer chunk = ⟨chunk, .goesOn⟩ :=
      if_neg hquit
    rw [if_neg (fun h => hquit ((find_eq_zero_iff _ _).mp h.symm)), hanswer]
    apply Safe.bind
    exact safe_sendMessage rfl rfl rfl (fun _ => rfl)

theorem EchoHandler.safe_new
    (socket : Socket A) (greeting : CppString) :
    Safe (conversation A EchoHandler.conduct)
      (ConstructorFinished socket.lowLevelSocket)
      (EchoHandler.new socket greeting)
      ⟨socket.lowLevelSocket, .opening [greeting, quitInstruction]⟩ := by
  apply Safe.catching
  apply Safe.bind
  refine safe_sendMessage rfl rfl ?_ (fun _ => rfl)
  exact safe_sendMessage rfl rfl rfl (fun _ => rfl)

/-- `EchoHandler` keeps its conversation and never breaks off. -/
theorem EchoHandler.block_sound :
    (handlerContract A [quitInstruction] (fun _ _ => False)).Sound
      (conversation A EchoHandler.conduct) EchoHandler.block := by
  refine handlerBlock_sound EchoHandler.safe_new ?_
  intro socket
  refine safe_readChunk rfl rfl rfl (fun _ => rfl) ?_
  intro chunk
  exact EchoHandler.safe_actOn socket _ chunk

end Echo

section Command

/-- `actOn` of `CommandHandler` sends the answer of its conduct, and then sets
the flag where that was asked for. -/
theorem CommandHandler.safe_actOn
    (socket : Socket A) (breaks : Abrupt → Speaker → Prop)
    (chunk : CppString) :
    Safe (conversation A CommandHandler.conduct)
      (RoundFinished socket.lowLevelSocket breaks)
      (CommandHandler.actOn socket chunk)
      ⟨socket.lowLevelSocket,
        .answering (CommandHandler.conduct.answer chunk)⟩ := by
  rw [CommandHandler.actOn]
  by_cases hterminate : literal "terminate" <+: chunk
  · have hanswer :
        CommandHandler.conduct.answer chunk =
          ⟨requestingShutdown, .shutsDown⟩ :=
      if_pos hterminate
    rw [if_pos ((find_eq_zero_iff _ _).mpr hterminate).symm, hanswer]
    apply Safe.bind
    refine safe_sendMessage rfl rfl ?_ (fun _ => rfl)
    exact ⟨⟨rfl, rfl⟩, fun _ _ => rfl⟩
  · rw [if_neg (fun h => hterminate ((find_eq_zero_iff _ _).mp h.symm))]
    by_cases hquit : literal "quit" <+: chunk
    · have hanswer :
          CommandHandler.conduct.answer chunk = ⟨goodbye, .leaves⟩ :=
        (if_neg hterminate).trans (if_pos hquit)
      rw [if_pos ((find_eq_zero_iff _ _).mpr hquit).symm, hanswer]
      apply Safe.bind
      exact safe_sendMessage rfl rfl rfl (fun _ => rfl)
    · have hanswer : CommandHandler.conduct.answer chunk = ⟨chunk, .goesOn⟩ :=
        (if_neg hterminate).trans (if_neg hquit)
      rw [if_neg (fun h => hquit ((find_eq_zero_iff _ _).mp h.symm)), hanswer]
      apply Safe.bind
      exact safe_sendMessage rfl rfl rfl (fun _ => rfl)

theorem CommandHandler.safe_new
    (socket : Socket A) (greeting : CppString) :
    Safe (conversation A CommandHandler.conduct)
      (ConstructorFinished socket.lowLevelSocket)
      (CommandHandler.new socket greeting)
      ⟨socket.lowLevelSocket,
        .opening [greeting, quitInstruction, terminateInstruction]⟩ := by
  apply Safe.catching
  apply Safe.bind
  refine safe_sendMessage rfl rfl ?_ (fun _ => rfl)
  apply Safe.bind
  refine safe_sendMessage rfl rfl ?_ (fun _ => rfl)
  exact safe_sendMessage rfl rfl rfl (fun _ => rfl)

/-- A handler breaks off only with undefined behaviour, where its descriptor has
no bit. -/
def CommandHandler.breaks (abrupt : Abrupt) (speaker : Speaker) : Prop :=
  abrupt = .undefined ∧ ¬ Selectable speaker.fd

/-- `select` on a descriptor without a bit is undefined. -/
theorem waiting_select_outside
    {socket : Socket A}
    (h : ¬ Selectable socket.lowLevelSocket) :
    (waiting (socket.select timeoutMs true false true) :
      ServerProgram A SelectResult) = .throw .undefined := by
  rw [waiting, socket.select_outside h timeoutMs (by simp)]
  rfl

/-- After `select` the round goes on as its result says. -/
theorem CommandHandler.safe_readOne
    (socket : Socket A) :
    Safe (conversation A CommandHandler.conduct)
      (RoundFinished socket.lowLevelSocket CommandHandler.breaks)
      (CommandHandler.readOne socket)
      ⟨socket.lowLevelSocket, .listening⟩ := by
  rw [CommandHandler.readOne]
  by_cases hselectable : Selectable socket.lowLevelSocket
  · refine safe_select_bind rfl rfl rfl hselectable timeoutMs true false true
      (fun _ => rfl) ?_ ?_
    · intro result herror
      refine safe_load_alarmed rfl rfl ?_
      intro flag
      cases flag with
      | true =>
          exact rfl
      | false =>
          simp only [Bool.false_eq_true, if_false, herror, if_true]
          exact rfl
    · intro result hcalm
      refine safe_load_bind rfl rfl rfl ?_
      simp only [Bool.false_eq_true, if_false, hcalm]
      split
      · exact safe_readChunk rfl rfl rfl (fun _ => rfl)
          (fun chunk => CommandHandler.safe_actOn socket _ chunk)
      · exact rfl
  · rw [waiting_select_outside hselectable]
    exact ⟨rfl, hselectable⟩

/-- `CommandHandler` keeps its conversation. -/
theorem CommandHandler.block_sound :
    (handlerContract A [quitInstruction, terminateInstruction]
        CommandHandler.breaks).Sound
      (conversation A CommandHandler.conduct) CommandHandler.block := by
  refine handlerBlock_sound CommandHandler.safe_new ?_
  intro socket
  refine safe_load_bind rfl rfl rfl ?_
  exact CommandHandler.safe_readOne socket

end Command

end BsdSockets
