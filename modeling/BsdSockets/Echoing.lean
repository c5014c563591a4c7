import BsdSockets.EchoRuns

/-!
# What the client of an echo handler gets

A chunk is whatever one read gives, wherever that cuts the bytes of the client,
and a message goes out with a NUL behind it; so client and handler agree on the
stream of bytes only, the NULs apart.  `send` may take less than it was given
and the handler does not look at what it returns: then bytes are missing, but
none are added and none change places.  Where no send is short the client gets
its own bytes back, whatever the chunks.
-/

namespace BsdSockets

open Resumption

variable {A : Type}

section Streams

variable {log : List (ServerCall A × ServerReply)}

/-- The bytes that went out: of every send what was taken. -/
def delivered (log : List (ServerCall A × ServerReply)) : List UInt8 :=
  log.flatMap
    (fun entry =>
      match entry.1 with
      | .transfer (.send _ buffer _) =>
          if entry.2.transfer.result = -1 then []
          else buffer.take entry.2.transfer.result.toNat
      | _ => [])

/-- Every send that did not fail took all it was given. -/
def Whole (log : List (ServerCall A × ServerReply)) : Prop :=
  ∀ fd buffer flags reply,
    (ServerCall.transfer (.send fd buffer flags), reply) ∈ log →
      reply.transfer.result = -1 ∨ reply.transfer.result = buffer.length

def withoutNul (bytes : List UInt8) : List UInt8 :=
  bytes.filter (fun byte => byte ≠ 0)

@[simp] theorem withoutNul_append
    (first second : List UInt8) :
    withoutNul (first ++ second) = withoutNul first ++ withoutNul second :=
  List.filter_append ..

theorem delivered_cons
    (call : ServerCall A) (reply : ServerReply)
    (log : List (ServerCall A × ServerReply)) :
    delivered ((call, reply) :: log) =
      delivered [(call, reply)] ++ delivered log := by
  simp only [delivered, List.flatMap_cons, List.flatMap_nil, List.append_nil]

theorem sent_cons
    (call : ServerCall A) (reply : ServerReply)
    (log : List (ServerCall A × ServerReply)) :
    sent ((call, reply) :: log) = sent [(call, reply)] ++ sent log :=
  sent_append [(call, reply)] log

/-- One call: a send that has not failed, or nothing goes out. -/
theorem delivered_singleton
    (call : ServerCall A) (reply : ServerReply) :
    (∃ fd buffer flags, call = .transfer (.send fd buffer flags) ∧
        reply.transfer.result ≠ -1 ∧ sent [(call, reply)] = [buffer] ∧
        delivered [(call, reply)] =
          buffer.take reply.transfer.result.toNat) ∨
      (sent [(call, reply)] = [] ∧ delivered [(call, reply)] = []) := by
  cases call with
  | transfer moved =>
      cases moved with
      | send fd buffer flags =>
          by_cases hfailed : reply.transfer.result = -1
          · exact Or.inr ⟨by simp [sent, hfailed], by simp [delivered, hfailed]⟩
          · exact Or.inl ⟨fd, buffer, flags, rfl, hfailed,
              by simp [sent, hfailed], by simp [delivered, hfailed]⟩
      | recv => exact Or.inr ⟨rfl, rfl⟩
      | read => exact Or.inr ⟨rfl, rfl⟩
  | library => exact Or.inr ⟨rfl, rfl⟩
  | wait => exact Or.inr ⟨rfl, rfl⟩
  | startThread => exact Or.inr ⟨rfl, rfl⟩
  | join => exact Or.inr ⟨rfl, rfl⟩
  | load => exact Or.inr ⟨rfl, rfl⟩
  | store => exact Or.inr ⟨rfl, rfl⟩
  | frame => exact Or.inr ⟨rfl, rfl⟩
  | destroy => exact Or.inr ⟨rfl, rfl⟩

/-- What went out are the buffers sent, with bytes missing at most. -/
theorem delivered_sublist
    (log : List (ServerCall A × ServerReply)) :
    (delivered log).Sublist (sent log).flatten := by
  induction log with
  | nil =>
      exact List.Sublist.refl _
  | cons entry log ih =>
      obtain ⟨call, reply⟩ := entry
      rw [delivered_cons, sent_cons, List.flatten_append]
      refine List.Sublist.append ?_ ih
      rcases delivered_singleton call reply with
        ⟨fd, buffer, flags, _, _, hsent, hdelivered⟩ | ⟨_, hdelivered⟩
      · rw [hsent, hdelivered, List.flatten_singleton]
        exact List.take_sublist _ _
      · rw [hdelivered]
        exact List.nil_sublist _

/-- Where no send was short, all of them. -/
theorem delivered_of_whole
    (h : Whole log) :
    delivered log = (sent log).flatten := by
  induction log with
  | nil =>
      rfl
  | cons entry log ih =>
      obtain ⟨call, reply⟩ := entry
      rw [delivered_cons, sent_cons, List.flatten_append, ih]
      · rcases delivered_singleton call reply with
          ⟨fd, buffer, flags, rfl, hok, hsent, hdelivered⟩ |
          ⟨hsent, hdelivered⟩
        · have hall := (h fd buffer flags reply
            (List.mem_cons_self ..)).resolve_left hok
          rw [hsent, hdelivered, hall, Int.toNat_natCast, List.take_length,
            List.flatten_singleton]
        · rw [hsent, hdelivered, List.flatten_nil]
      · intro fd buffer flags reply hmem
        exact h fd buffer flags reply (List.mem_cons_of_mem _ hmem)

/-- The NULs behind the messages apart, the messages are what is sent. -/
theorem withoutNul_cStr
    (messages : List CppString) :
    withoutNul (messages.map cStr).flatten = withoutNul messages.flatten := by
  induction messages with
  | nil =>
      rfl
  | cons message messages ih =>
      have hnul : withoutNul (cStr message) = withoutNul message := by
        simp [cStr, withoutNul]
      simp only [List.map_cons, List.flatten_cons, withoutNul_append, ih, hnul]

/-- What a conversation comes to as a stream of bytes: some of the opening
messages, all chunks but one at most, and the answer to the last one where that
was sent. -/
theorem Conversed.stream
    {conduct : Conduct} {messages : List CppString}
    (hechoes : ∀ chunk, (conduct.answer chunk).verdict = .goesOn →
      (conduct.answer chunk).message = chunk)
    (h : Conversed conduct messages log) :
    ∃ opening before last answer,
      opening <+: messages ∧ chunks log = before ++ last ∧
      (answer = [] ∧ last.length ≤ 1 ∨
        ∃ chunk, last = [chunk] ∧ answer = (conduct.answer chunk).message) ∧
      withoutNul (sent log).flatten =
        withoutNul (opening.flatten ++ before.flatten ++ answer) := by
  obtain ⟨before, last, hchunks, hlast, hgoes, hsaid⟩ := h
  have hbefore :
      before.map (fun chunk => (conduct.answer chunk).message) = before := by
    rw [List.map_congr_left
      (fun chunk hmem => hechoes chunk (hgoes chunk hmem)), List.map_id']
  rcases hsaid with ⟨opening, hprefix, hsent⟩ | ⟨opening, hprefix, hsent⟩
  · refine ⟨opening, before, last, [], hprefix, hchunks,
      Or.inl ⟨rfl, hlast⟩, ?_⟩
    rw [hsent, withoutNul_cStr, hbefore, List.flatten_append, List.append_nil]
  · cases last with
    | nil =>
        refine ⟨opening, before, [], [], hprefix, hchunks,
          Or.inl ⟨rfl, hlast⟩, ?_⟩
        rw [hsent, withoutNul_cStr, List.append_nil, hbefore,
          List.flatten_append, List.append_nil]
    | cons chunk rest =>
        have hrest : rest = [] := by
          rw [List.length_cons] at hlast
          exact List.eq_nil_of_length_eq_zero (by omega)
        subst hrest
        refine ⟨opening, before, [chunk], _, hprefix, hchunks,
          Or.inr ⟨chunk, rfl, rfl⟩, ?_⟩
        rw [hsent, withoutNul_cStr, List.map_append, hbefore]
        simp

/-- An echo handler's: the opening messages sent, the chunks that came back, and
the one that did not, answered by the goodbye if at all. -/
theorem Conversed.echoed
    {messages : List CppString}
    (h : Conversed EchoHandler.conduct messages log) :
    ∃ opening echoed owed farewell,
      opening <+: messages ∧
      (chunks log).flatten = echoed ++ owed ∧
      (owed = [] ∨ owed ∈ chunks log) ∧
      (farewell = [] ∨ farewell = goodbye ∧ literal "quit" <+: owed) ∧
      withoutNul (sent log).flatten =
        withoutNul (opening.flatten ++ echoed ++ farewell) := by
  have hechoes : ∀ chunk,
      (EchoHandler.conduct.answer chunk).verdict = .goesOn →
        (EchoHandler.conduct.answer chunk).message = chunk := by
    intro chunk hgoes
    simp only [EchoHandler.conduct] at hgoes ⊢
    split at hgoes
    · cases hgoes
    · next hother =>
        rw [if_neg hother]
  obtain ⟨opening, before, last, answer, hopening, hchunks, hanswer, htext⟩ :=
    h.stream hechoes
  have hread : (chunks log).flatten = before.flatten ++ last.flatten := by
    rw [hchunks, List.flatten_append]
  rcases hanswer with ⟨rfl, hlast⟩ | ⟨chunk, rfl, rfl⟩
  · refine ⟨opening, before.flatten, last.flatten, [], hopening, hread, ?_,
      Or.inl rfl, htext⟩
    cases last with
    | nil =>
        exact Or.inl rfl
    | cons chunk rest =>
        have hrest : rest = [] := by
          rw [List.length_cons] at hlast
          exact List.eq_nil_of_length_eq_zero (by omega)
        subst hrest
        refine Or.inr ?_
        rw [hchunks, List.flatten_singleton]
        exact List.mem_append_right before (List.mem_singleton_self chunk)
  · rw [List.flatten_singleton] at hread
    by_cases hquit : literal "quit" <+: chunk
    · have hgoodbye : (EchoHandler.conduct.answer chunk).message = goodbye := by
        simp only [EchoHandler.conduct, if_pos hquit]
      rw [hgoodbye] at htext
      refine ⟨opening, before.flatten, chunk, goodbye, hopening, hread, ?_,
        Or.inr ⟨rfl, hquit⟩, htext⟩
      refine Or.inr ?_
      rw [hchunks]
      exact List.mem_append_right before (List.mem_singleton_self chunk)
    · have hback : (EchoHandler.conduct.answer chunk).message = chunk := by
        simp only [EchoHandler.conduct, if_neg hquit]
      rw [hback] at htext
      refine ⟨opening, before.flatten ++ chunk, [], [], hopening, ?_,
        Or.inl rfl, Or.inl rfl, ?_⟩
      · rw [hread, List.append_nil]
      · rw [htext, List.append_nil, List.append_assoc]

end Streams

section Results

variable {cls : AddressClass A} {address : A}
variable {kernel : Kernel} {s : ServerConfig A}

/-- **The client gets its own bytes back.**  What goes out to a client are the
opening messages, as far as they could be sent, and then the bytes that were
read from it, in order, all but one chunk at most, and the goodbye where it said
`quit`; NULs apart, and however its bytes were cut into chunks.  Bytes of that
are missing only where a send was short, and nothing else is ever added. -/
theorem EchoServer.echoes
    (h : EchoServer.Reaches cls address kernel s)
    {number : Nat}
    {handler : Running (ServerCall A) ServerReply Abrupt (HandlerLabel A)}
    (hpresent : s.workers[number]? = some handler) :
    ∃ opening echoed owed farewell,
      opening <+: [welcome (nextId number), quitInstruction] ∧
      (chunks handler.log).flatten = echoed ++ owed ∧
      (owed = [] ∨ owed ∈ chunks handler.log) ∧
      (farewell = [] ∨ farewell = goodbye ∧ literal "quit" <+: owed) ∧
      (withoutNul (delivered handler.log)).Sublist
        (withoutNul (opening.flatten ++ echoed ++ farewell)) ∧
      (Whole handler.log →
        withoutNul (delivered handler.log) =
          withoutNul (opening.flatten ++ echoed ++ farewell)) := by
  have hconversed :=
    (EchoServer.servedRun h).served.conversed hpresent
  obtain ⟨opening, echoed, owed, farewell,
    hopening, hread, howed, hfarewell, htext⟩ := hconversed.echoed
  refine ⟨opening, echoed, owed, farewell,
    hopening, hread, howed, hfarewell, ?_, ?_⟩
  · rw [← htext]
    exact (delivered_sublist handler.log).filter _
  · intro hwhole
    rw [← htext, delivered_of_whole hwhole]

theorem EchoServer.echoes_visited :
    ∃ handler ∈ EchoServer.visited.workers, ∃ opening echoed owed farewell,
      opening <+: [welcome 1, quitInstruction] ∧
      (chunks handler.log).flatten = echoed ++ owed ∧
      (owed = [] ∨ owed ∈ chunks handler.log) ∧
      (farewell = [] ∨ farewell = goodbye ∧ literal "quit" <+: owed) ∧
      (withoutNul (delivered handler.log)).Sublist
        (withoutNul (opening.flatten ++ echoed ++ farewell)) ∧
      (Whole handler.log →
        withoutNul (delivered handler.log) =
          withoutNul (opening.flatten ++ echoed ++ farewell)) := by
  have hpresent :=
    List.getElem?_eq_getElem
      (show 0 < EchoServer.visited.workers.length by decide +kernel)
  exact ⟨_, List.mem_of_getElem? hpresent,
    EchoServer.echoes EchoServer.visited_reached hpresent⟩

end Results

end BsdSockets
