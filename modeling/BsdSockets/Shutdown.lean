import BsdSockets.CommandRuns

/-!
# The shutdown of the command server

From the moment the flag is set, a run of `CommandServer` is finite.  Every
thread has a budget: what is left of its present block, whatever the replies,
and then what it costs to leave its loop and to end, now that every `load`
returns `true`.  The server may be past its look at the flag and start one more
handler, so a thread that is started is paid for by the call that starts it.

The price of a call depends on its kind only, and the budgets are computed from
the prices.  With every call at the price 1 they bound the length of the run;
with other prices, how often one kind of call is still made.
-/

namespace BsdSockets

open Resumption

variable {A : Type}

section Prices

/-- The kinds of calls. -/
inductive CallKind where
  | library
  | accept
  | wait
  | send
  | receive
  | start
  | join
  | load
  | store
  | frame
  | destroy
deriving DecidableEq

def Call.kind : Call A → CallKind
  | .accept _ _ _ => .accept
  | .startThread _ => .start
  | _ => .library

def ServerCall.kind : ServerCall A → CallKind
  | .library call => call.kind
  | .wait _ => .wait
  | .transfer (.send _ _ _) => .send
  | .transfer _ => .receive
  | .startThread _ _ => .start
  | .join _ => .join
  | .load => .load
  | .store _ => .store
  | .frame => .frame
  | .destroy => .destroy

/-- What the calls of each kind cost, and a jump. -/
structure Prices where
  call : CallKind → Nat
  jump : Nat

/-- No call is dearer than the price of its kind. -/
def Respects
    (price : CallKind → Nat) (weight : ServerCall A → ServerReply → Nat) :
    Prop :=
  ∀ call reply, weight call reply ≤ price call.kind

/-- The price of a call, whatever the reply. -/
def Prices.weight (prices : Prices) (call : ServerCall A) (_ : ServerReply) :
    Nat :=
  prices.call call.kind

/-- The replies where the flag is set. -/
def FlagSet (call : ServerCall A) (reply : ServerReply) : Prop :=
  call = .load → reply.flag = true

end Prices

section Library

variable {price : CallKind → Nat} {α : Type}

/-- What a program of the library costs. -/
def LibraryCosts
    (price : CallKind → Nat) (program : Program A α) (n : Nat) : Prop :=
  program.Costs (fun _ _ => True) (fun call _ => price call.kind) n

theorem libraryCosts_throwErrno :
    LibraryCosts price (throwErrno : Program A α) (price .library) :=
  Prog.costs_call (fun _ => Nat.le_refl _) (fun _ _ => Prog.costs_throw _ 0)

theorem libraryCosts_checkedCall
    {call : Call A} (hkind : call.kind = .library) :
    LibraryCosts price (checkedCall call)
      (price .library + price .library) := by
  refine Prog.costs_call (fun _ => Nat.le_of_eq (congrArg price hkind)) ?_
  intro reply _
  change Prog.Costs _ _
    (if -1 = reply.result then throwErrno else return () : Program A Unit) _
  split
  · exact libraryCosts_throwErrno
  · exact Prog.costs_ret _ _

theorem libraryCosts_destructor
    (socket : Socket A) :
    LibraryCosts price socket.destructor (price .library) := by
  rw [Socket.destructor]
  split
  · exact Prog.costs_ret _ _
  · exact Prog.costs_call (fun _ => Nat.le_refl _)
      (fun _ _ => Prog.costs_ret _ 0)

theorem libraryCosts_handlerSocket
    (data : AcceptedSocketData A) :
    LibraryCosts price (ServerSocket.handlerSocket data)
      (price .library) := by
  rw [ServerSocket.handlerSocket, Socket.create, Socket.newExisting]
  split
  · exact libraryCosts_throwErrno
  · exact Prog.costs_ret _ _

/-- Opening a server: its socket, `bind`, `listen`, and the way out. -/
def Prices.opening (price : CallKind → Nat) : Nat :=
  price .library +
    (price .library + price .library + (price .library + price .library + 0) +
      price .library)

theorem libraryCosts_open
    (cls : AddressClass A) (address : A) (backlog : Int) :
    LibraryCosts price (ServerSocket.open cls address backlog false)
      (Prices.opening price) := by
  obtain ⟨domain, type, protocol, hfirst⟩ :=
    Socket.socketCall_total cls address
  simp only [ServerSocket.open, ServerSocket.create, Socket.newFor, hfirst]
  refine Prog.costs_call (fun _ => Nat.le_refl _) ?_
  intro reply _
  apply Prog.Costs.onThrow
  · refine Prog.Costs.bind ?_ (fun _ => Prog.Costs.bind ?_ (fun _ => ?_))
    · exact libraryCosts_checkedCall rfl
    · exact libraryCosts_checkedCall rfl
    · exact Prog.costs_ret _ _
  · exact libraryCosts_destructor _

/-- Accepting: the connection, an error, the thread. -/
def Prices.accepting (price : CallKind → Nat) : Nat :=
  price .accept + price .library + price .start

theorem libraryCosts_acceptInNewThread
    (cls : AddressClass A) (server : Socket A) (memory : Indeterminate) :
    LibraryCosts price (ServerSocket.acceptInNewThread cls server memory)
      (Prices.accepting price) := by
  refine Prog.Costs.bind ?_ ?_
  · simp only [ServerSocket.lowLevelAccept, Prog.perform_bind]
    refine Prog.costs_call (fun _ => Nat.le_refl _) ?_
    intro reply _
    split
    · exact Prog.costs_throw _ _
    · split
      · exact Prog.costs_throw _ _
      · split
        · exact libraryCosts_throwErrno
        · exact Prog.costs_lift_bind (fun _ => Prog.costs_ret _ _)
  · intro data
    simp only [Prog.perform_bind]
    refine Prog.costs_call (n := 0) (fun _ => Nat.le_refl _) ?_
    intro reply _
    split
    · exact Prog.costs_throw _ 0
    · exact Prog.costs_ret _ 0

end Library

section Threads

variable {possible : ServerCall A → ServerReply → Prop}
variable {weight : ServerCall A → ServerReply → Nat}
variable {price : CallKind → Nat} {α : Type}

/-- A program of the library costs a thread the same. -/
theorem LibraryCosts.library
    (hweight : Respects price weight)
    {program : Program A α} {n : Nat}
    (h : LibraryCosts price program n) :
    (library program).Costs possible weight n := by
  refine Prog.Within.translate (fun _ _ _ => trivial) ?_ h
  intro call reply
  exact hweight (.library call) reply

theorem LibraryCosts.withClosure
    (hweight : Respects price weight) (id : Int32)
    {program : Program A α} {n : Nat}
    (h : LibraryCosts price program n) :
    (libraryWithClosure id program).Costs possible weight n := by
  refine Prog.Within.translate (fun _ _ _ => trivial) ?_ h
  intro call reply
  refine Nat.le_trans (hweight _ reply) (Nat.le_of_eq (congrArg price ?_))
  cases call <;> rfl

theorem within_load_bind
    (hweight : Respects price weight)
    {due : Except Abrupt α → Nat} {k : Bool → ServerProgram A α} {n : Nat}
    (hk : ∀ flag, (k flag).Within possible weight due n) :
    (load >>= k).Within possible weight due (price .load + n) :=
  Prog.Within.call (hweight _) (fun reply _ => hk reply.flag)

/-- Waiting is one call, or none on a descriptor without a bit. -/
theorem costs_select
    (hweight : Respects price weight) (socket : Socket A) :
    (waiting (socket.select timeoutMs true false true) :
      ServerProgram A SelectResult).Costs possible weight (price .wait) := by
  by_cases hselectable : Selectable socket.lowLevelSocket
  · obtain ⟨index, hindex, _⟩ := fdIndex_selectable hselectable
    rw [waiting_select_eq socket hselectable hindex]
    exact Prog.costs_call (n := 0) (hweight _)
      (fun reply _ => Prog.costs_lift _ 0)
  · rw [waiting_select_outside hselectable]
    exact Prog.costs_throw _ _

theorem costs_sendMessage
    (hweight : Respects price weight)
    (socket : Socket A) (message : CppString) :
    (sendMessage socket message).Costs possible weight (price .send) := by
  rw [sendMessage_eq]
  refine Prog.costs_call (n := 0) (hweight _) ?_
  intro reply _
  split
  · exact Prog.costs_throw _ 0
  · exact Prog.costs_ret _ 0

theorem costs_readChunk
    (hweight : Respects price weight)
    (socket : Socket A) {actOn : CppString → ServerProgram A Bool} {n : Nat}
    (hactOn : ∀ chunk, (actOn chunk).Costs possible weight n) :
    (readChunk socket actOn).Costs possible weight
      (price .receive + n) := by
  rw [readChunk_eq]
  refine Prog.costs_call (hweight _) ?_
  intro reply _
  split
  · exact Prog.costs_throw _ n
  · split
    · exact Prog.costs_ret _ n
    · exact Prog.costs_lift_bind hactOn

/-- The end of a thread that closes its socket. -/
theorem within_destructor
    {L : Type} (hweight : Respects price weight)
    (allowance : Allowance L) (socket : Socket A) :
    (do
      library socket.destructor
      return none : ServerProgram A (Option L)).Within possible weight
        allowance.due (price .library) := by
  refine Prog.Within.bind (fun _ => 0)
    (((libraryCosts_destructor socket).library hweight).within (m := 0) ?_)
    (fun _ => Nat.le_refl 0)
  rintro (abrupt | _)
  · exact Nat.le_refl 0
  · exact Nat.le_refl 0

end Threads

section Handler

variable {possible : ServerCall A → ServerReply → Prop}
variable {weight : ServerCall A → ServerReply → Nat}
variable {price : CallKind → Nat}

/-- A round of the loop of a handler. -/
def Prices.reading (price : CallKind → Nat) : Nat :=
  price .load +
    (price .wait +
      (price .load + (price .receive + (price .send + price .store))))

/-- The messages of a constructor. -/
def Prices.greeting (price : CallKind → Nat) : Nat :=
  price .send + (price .send + price .send)

theorem CommandHandler.costs_actOn
    (hweight : Respects price weight)
    (socket : Socket A) (chunk : CppString) :
    (CommandHandler.actOn socket chunk).Costs possible weight
      (price .send + price .store) := by
  rw [CommandHandler.actOn]
  split
  · refine (costs_sendMessage hweight socket _).bind (fun _ => ?_)
    exact Prog.costs_call (n := 0) (hweight _)
      (fun _ _ => Prog.costs_ret _ 0)
  · split
    · exact (costs_sendMessage hweight socket _).bind
        (fun _ => Prog.costs_ret _ _)
    · exact (costs_sendMessage hweight socket _).bind
        (fun _ => Prog.costs_ret _ _)

theorem CommandHandler.costs_round
    (hweight : Respects price weight) (socket : Socket A) :
    (CommandHandler.round socket).Costs possible weight
      (Prices.reading price) := by
  refine within_load_bind hweight (fun looked => ?_)
  split
  · exact Prog.costs_ret _ _
  refine (costs_select hweight socket).bind (fun result => ?_)
  refine within_load_bind hweight (fun flag => ?_)
  split
  · exact Prog.costs_ret _ _
  · split
    · exact Prog.costs_ret _ _
    · split
      · exact costs_readChunk hweight socket
          (CommandHandler.costs_actOn hweight socket)
      · exact Prog.costs_ret _ _

theorem CommandHandler.costs_new
    (hweight : Respects price weight)
    (socket : Socket A) (greeting : CppString) :
    (CommandHandler.new socket greeting).Costs possible weight
      (Prices.greeting price) := by
  refine Prog.Costs.catching (m := 0) ?_ (fun abrupt => ?_)
  · refine Prog.Costs.bind ?_ (fun _ => Prog.Costs.bind ?_ (fun _ => ?_))
    · exact costs_sendMessage hweight socket greeting
    · exact costs_sendMessage hweight socket quitInstruction
    · exact costs_sendMessage hweight socket terminateInstruction
  · cases abrupt with
    | throws e =>
        exact Prog.costs_ret _ 0
    | undefined =>
        exact Prog.costs_throw _ 0

/-- A block of a handler, whatever the replies. -/
def Prices.handling (price : CallKind → Nat) : Nat :=
  price .library + (Prices.greeting price + Prices.reading price)

/-- The rule for handlers: no block costs more than all of them. -/
theorem costs_handlerBlock
    (hweight : Respects price weight)
    {new : Socket A → CppString → ServerProgram A Unit}
    {round : Socket A → ServerProgram A Bool} {n m : Nat}
    (hnew : ∀ socket greeting,
      (new socket greeting).Costs possible weight n)
    (hround : ∀ socket, (round socket).Costs possible weight m)
    (label : HandlerLabel A) :
    (handlerBlock new round label).Costs possible weight
      (price .library + (n + m)) := by
  cases label with
  | closure data id =>
      refine ((libraryCosts_handlerSocket data).library hweight).bind
        (fun accepted => ?_)
      refine Prog.Costs.mono (n := n + 0) (by omega) ?_
      exact (hnew accepted _).bind (fun _ => Prog.costs_ret _ 0)
  | operator socket =>
      refine Prog.Costs.mono (n := m + 0 + 0) (by omega) ?_
      refine Prog.Costs.catching ?_ (fun abrupt => ?_)
      · refine (hround socket).bind (fun done => ?_)
        split
        · exact Prog.costs_ret _ 0
        · exact Prog.costs_ret _ 0
      · cases abrupt with
        | throws e =>
            exact Prog.costs_ret _ 0
        | undefined =>
            exact Prog.costs_throw _ 0
  | release socket =>
      exact ((libraryCosts_destructor socket).library hweight).bind
        (fun _ => Prog.costs_ret _ _)

theorem CommandHandler.costs_block
    (hweight : Respects price weight) (label : HandlerLabel A) :
    (CommandHandler.block label).Costs possible weight
      (Prices.handling price) :=
  costs_handlerBlock hweight (CommandHandler.costs_new hweight)
    (CommandHandler.costs_round hweight) label

end Handler

section Server

variable {possible : ServerCall A → ServerReply → Prop}
variable {weight : ServerCall A → ServerReply → Nat}
variable {price : CallKind → Nat}

/-- Accepting makes one handler more, or throws. -/
theorem within_acceptCurrent
    (cls : AddressClass A) (hweight : Respects price weight)
    (socket : Socket A) (accepted : Nat)
    {due : Except Abrupt Nat → Nat} {n : Nat}
    (hok : due (.ok (accepted + 1)) ≤ n)
    (herror : ∀ abrupt, due (.error abrupt) ≤ n) :
    (acceptCurrent cls socket accepted).Within possible weight due
      (price .frame + (Prices.accepting price + n)) := by
  refine Prog.Within.call (hweight _) (fun reply _ => ?_)
  change Prog.Within _ _ _
    (libraryWithClosure (nextId accepted)
        (ServerSocket.acceptInNewThread cls socket reply.frame) >>=
      fun _ => return accepted + 1) _
  refine Prog.Within.bind (fun _ => n) ?_ (fun _ => hok)
  refine ((libraryCosts_acceptInNewThread cls socket reply.frame).withClosure
    hweight _).within ?_
  rintro (abrupt | _)
  · exact herror abrupt
  · exact Nat.le_refl n

/-- A round of the loop makes one handler more at most. -/
theorem CommandServer.within_acceptOne
    (cls : AddressClass A) (hweight : Respects price weight)
    (socket : Socket A) (accepted : Nat)
    {due : Except Abrupt (Bool × Nat) → Nat} {n : Nat}
    (hok : ∀ done accepted', accepted' ≤ accepted + 1 →
      due (.ok (done, accepted')) ≤ n)
    (herror : ∀ abrupt, due (.error abrupt) ≤ n) :
    (CommandServer.acceptOne cls socket accepted).Within possible weight due
      (price .wait +
        (price .load + (price .frame + (Prices.accepting price + n)))) := by
  have hstays : ∀ done,
      (Prog.ret (done, accepted) :
        ServerProgram A (Bool × Nat)).Within possible weight due
          (price .frame + (Prices.accepting price + n)) := by
    intro done
    have hdue := hok done accepted (Nat.le_succ accepted)
    rw [Prog.within_ret]
    omega
  refine Prog.Within.bind
    (fun _ => price .load + (price .frame + (Prices.accepting price + n)))
    ((costs_select hweight socket).within ?_) (fun result => ?_)
  · rintro (abrupt | result)
    · have hthrows := herror abrupt
      change due (.error abrupt) ≤ _
      omega
    · exact Nat.le_refl _
  refine within_load_bind hweight (fun flag => ?_)
  split
  · exact hstays true
  · split
    · exact hstays true
    · split
      · refine Prog.Within.bind (fun accepted' => due (.ok (false, accepted')))
          (within_acceptCurrent cls hweight socket accepted ?_ ?_) ?_
        · exact hok false _ (Nat.le_refl _)
        · exact herror
        · intro accepted'
          exact Nat.le_refl _
      · exact hstays false

end Server

section Allowances

/-- A handler in its loop, now that the flag is set. -/
def Prices.leaving (prices : Prices) : Nat :=
  prices.call .load + (prices.jump + prices.call .library)

/-- A handler that starts, now that the flag is set. -/
def Prices.closing (prices : Prices) : Nat :=
  prices.call .library +
    (Prices.greeting prices.call + (prices.jump + prices.leaving))

/-- What a handler may still cost from each block on. -/
def Prices.handler (prices : Prices) : Allowance (HandlerLabel A) where
  jump := prices.jump
  block
    | .closure _ _ => prices.closing
    | .operator _ => prices.leaving
    | .release _ => prices.call .library

/-- A server with so many handlers to join. -/
def Prices.joining (prices : Prices) (n : Nat) : Nat :=
  n * (prices.call .join + prices.jump) +
    (prices.jump + (prices.call .destroy + prices.call .library))

/-- A server in its loop, now that the flag is set. -/
def Prices.operating (prices : Prices) (n : Nat) : Nat :=
  prices.call .load + (prices.jump + prices.joining n)

/-- What a server may still cost from each block on. -/
def Prices.server (prices : Prices) : Allowance (ServerLabel A) where
  jump := prices.jump
  block
    | .construct _ =>
        Prices.opening prices.call +
          (prices.call .store + (prices.jump + prices.operating 0))
    | .operator _ accepted => prices.operating accepted
    | .join _ accepted joined => prices.joining (accepted - joined)
    | .destruct _ => prices.call .destroy + prices.call .library

variable {weight : ServerCall A → ServerReply → Nat} {prices : Prices}

/-- A look at the flag, now that it is set. -/
theorem within_load_flagSet
    {α : Type} (hweight : Respects prices.call weight)
    {due : Except Abrupt α → Nat} {k : Bool → ServerProgram A α} {n : Nat}
    (hk : (k true).Within FlagSet weight due n) :
    (load >>= k).Within FlagSet weight due (prices.call .load + n) := by
  refine Prog.Within.call (hweight _) (fun reply hreply => ?_)
  have hflag : reply.flag = true := hreply rfl
  change (k reply.flag).Within _ _ _ _
  rwa [hflag]

/-- The rule for handlers: no block costs more than it is allowed where a round
ends the loop with its look at the flag. -/
theorem within_handlerBlock
    (hweight : Respects prices.call weight)
    {new : Socket A → CppString → ServerProgram A Unit}
    {round : Socket A → ServerProgram A Bool}
    (hnew : ∀ socket greeting,
      (new socket greeting).Costs FlagSet weight
        (Prices.greeting prices.call))
    (hround : ∀ (socket : Socket A) (due : Except Abrupt Bool → Nat) (n : Nat),
      due (.ok true) ≤ n →
        (round socket).Within FlagSet weight due (prices.call .load + n))
    (label : HandlerLabel A) :
    (handlerBlock new round label).Within FlagSet weight prices.handler.due
      (prices.handler.block label) := by
  cases label with
  | closure data id =>
      refine Prog.Within.bind
        (fun _ => Prices.greeting prices.call +
          (prices.jump + prices.leaving))
        (((libraryCosts_handlerSocket data).library hweight).within ?_)
        (fun accepted => ?_)
      · rintro (abrupt | accepted)
        · exact Nat.zero_le _
        · exact Nat.le_refl _
      refine Prog.Within.bind (fun _ => prices.jump + prices.leaving)
        ((hnew accepted _).within ?_) (fun _ => Nat.le_refl _)
      rintro (abrupt | _)
      · exact Nat.zero_le _
      · exact Nat.le_refl _
  | operator socket =>
      refine Prog.Within.catching
        (fun _ => prices.jump + prices.call .library) ?_ (fun abrupt => ?_)
      · refine Prog.Within.bind
          (fun done => prices.jump +
            if done then prices.call .library else prices.leaving)
          (hround socket _ _ (Nat.le_refl _)) (fun done => ?_)
        cases done with
        | true =>
            exact Nat.le_refl _
        | false =>
            exact Nat.le_refl _
      · cases abrupt with
        | throws e =>
            exact Nat.le_refl _
        | undefined =>
            exact Nat.zero_le _
  | release socket =>
      exact within_destructor hweight prices.handler socket

theorem CommandHandler.within_block
    (hweight : Respects prices.call weight) (label : HandlerLabel A) :
    (CommandHandler.block label).Within FlagSet weight prices.handler.due
      (prices.handler.block label) := by
  refine within_handlerBlock hweight (CommandHandler.costs_new hweight)
    (fun socket due n hdue => ?_) label
  exact within_load_flagSet hweight hdue

theorem joining_succ
    (prices : Prices) (n : Nat) :
    prices.joining (n + 1) =
      prices.call .join + (prices.jump + prices.joining n) := by
  simp only [Prices.joining, Nat.add_mul, Nat.one_mul]
  omega

theorem joining_mono
    (prices : Prices) {n m : Nat} (h : n ≤ m) :
    prices.joining n ≤ prices.joining m := by
  simp only [Prices.joining]
  exact Nat.add_le_add_right (Nat.mul_le_mul_right _ h) _

/-- The blocks of a server after its loop cost what they are allowed, whatever
the replies. -/
theorem within_joining
    {possible : ServerCall A → ServerReply → Prop}
    (hweight : Respects prices.call weight)
    {new : A → ServerProgram A (Socket A)}
    {round : Socket A → Nat → ServerProgram A (Bool × Nat)}
    (socket : Socket A) (accepted joined : Nat) :
    (serverBlock new round (.join socket accepted joined)).Within possible
      weight prices.server.due (prices.joining (accepted - joined)) := by
  rw [serverBlock]
  split
  · next hlt =>
      obtain ⟨left, hleft⟩ : ∃ left, accepted - joined = left + 1 :=
        ⟨accepted - joined - 1, by omega⟩
      have hnext : accepted - (joined + 1) = left := by omega
      rw [hleft, joining_succ]
      refine Prog.Within.call (hweight _) (fun _ _ => ?_)
      change prices.jump + prices.joining (accepted - (joined + 1)) ≤ _
      rw [hnext]
  · exact Nat.le_add_left _ _

theorem within_destruct
    {possible : ServerCall A → ServerReply → Prop}
    (hweight : Respects prices.call weight)
    {new : A → ServerProgram A (Socket A)}
    {round : Socket A → Nat → ServerProgram A (Bool × Nat)}
    (socket : Socket A) :
    (serverBlock new round (.destruct socket)).Within possible
      weight prices.server.due (prices.call .destroy + prices.call .library) := by
  refine Prog.Within.call (hweight _) (fun _ _ => ?_)
  exact within_destructor hweight prices.server socket

theorem CommandServer.within_construct
    {possible : ServerCall A → ServerReply → Prop}
    (cls : AddressClass A) (hweight : Respects prices.call weight)
    (address : A) :
    (CommandServer.block cls (.construct address)).Within possible weight
      prices.server.due (prices.server.block (.construct address)) := by
  refine Prog.Within.bind (fun _ => prices.jump + prices.operating 0) ?_
    (fun _ => Nat.le_refl _)
  refine Prog.Within.bind
    (fun _ => prices.call .store + (prices.jump + prices.operating 0))
    (((libraryCosts_open cls address 128).library hweight).within ?_)
    (fun socket => ?_)
  · rintro (abrupt | socket)
    · exact Nat.zero_le _
    · exact Nat.le_refl _
  · exact Prog.Within.call (hweight _) (fun _ _ => Nat.le_refl _)

/-- No block of the server costs more than it is allowed. -/
theorem CommandServer.within_block
    (cls : AddressClass A) (hweight : Respects prices.call weight)
    (label : ServerLabel A) :
    (CommandServer.block cls label).Within FlagSet weight prices.server.due
      (prices.server.block label) := by
  cases label with
  | construct address =>
      exact CommandServer.within_construct cls hweight address
  | operator socket accepted =>
      refine Prog.Within.catching
        (fun _ => prices.jump + prices.joining accepted) ?_ (fun abrupt => ?_)
      · refine Prog.Within.bind
          (fun outcome => prices.jump +
            if outcome.1 then prices.joining outcome.2
            else prices.operating outcome.2)
          (within_load_flagSet hweight (Nat.le_refl _)) (fun outcome => ?_)
        obtain ⟨done, accepted'⟩ := outcome
        cases done with
        | true =>
            exact Nat.le_refl _
        | false =>
            exact Nat.le_refl _
      · cases abrupt with
        | throws e =>
            exact Nat.le_refl _
        | undefined =>
            exact Nat.zero_le _
  | join socket accepted joined =>
      exact within_joining hweight socket accepted joined
  | destruct socket =>
      exact within_destruct hweight socket

/-- How many handlers a server has when it enters a block. -/
def ServerLabel.accepted : ServerLabel A → Nat
  | .construct _ => 0
  | .operator _ accepted => accepted
  | .join _ accepted _ => accepted
  | .destruct _ => 0

/-- A block of a server with so many handlers, whatever the replies. -/
def Prices.present (prices : Prices) (n : Nat) : Nat :=
  Prices.opening prices.call + prices.call .store +
    (prices.call .load + (prices.call .wait + (prices.call .load +
      (prices.call .frame + (Prices.accepting prices.call +
        (prices.jump + prices.operating (n + 1)))))))

theorem present_mono
    (prices : Prices) {n m : Nat} (h : n ≤ m) :
    prices.present n ≤ prices.present m := by
  have hjoining := joining_mono prices (Nat.add_le_add_right h 1)
  simp only [Prices.present, Prices.operating]
  omega

theorem CommandServer.within_present
    {possible : ServerCall A → ServerReply → Prop}
    (cls : AddressClass A) (hweight : Respects prices.call weight)
    (label : ServerLabel A) :
    (CommandServer.block cls label).Within possible weight prices.server.due
      (prices.present label.accepted) := by
  cases label with
  | construct address =>
      refine (CommandServer.within_construct cls hweight address).mono ?_
      have hjoining := joining_mono prices (Nat.zero_le (0 + 1))
      simp only [Prices.server, Prices.present, Prices.operating,
        ServerLabel.accepted]
      omega
  | operator socket accepted =>
      have hdue : ∀ accepted', accepted' ≤ accepted + 1 →
          prices.jump + prices.operating accepted' ≤
            prices.jump + prices.operating (accepted + 1) := by
        intro accepted' hle
        have hmore := joining_mono prices hle
        simp only [Prices.operating]
        omega
      have hleaves : ∀ n, prices.joining n ≤ prices.operating n := by
        intro n
        simp only [Prices.operating]
        omega
      have hstays := hdue accepted (Nat.le_add_right accepted 1)
      refine Prog.Within.mono
        (n := prices.call .load + (prices.call .wait + (prices.call .load +
          (prices.call .frame + (Prices.accepting prices.call +
            (prices.jump + prices.operating (accepted + 1)))))))
        (Nat.le_add_left _ _) ?_
      refine Prog.Within.catching
        (fun _ => prices.jump + prices.joining accepted) ?_ (fun abrupt => ?_)
      · refine Prog.Within.bind
          (fun outcome => prices.jump + prices.operating outcome.2)
          (within_load_bind hweight (fun flag => ?_)) (fun outcome => ?_)
        · split
          · change prices.jump + prices.operating accepted ≤ _
            omega
          · refine CommandServer.within_acceptOne cls hweight socket accepted
              (fun done => hdue) (fun abrupt => ?_)
            exact Nat.le_trans
              (Nat.add_le_add_left (hleaves accepted) prices.jump) hstays
        · split
          · exact Nat.add_le_add_left (hleaves outcome.2) prices.jump
          · exact Nat.le_refl _
      · cases abrupt with
        | throws e =>
            exact Nat.le_refl _
        | undefined =>
            exact Nat.zero_le _
  | join socket accepted joined =>
      refine (within_joining hweight socket accepted joined).mono ?_
      have hjoins := joining_mono prices (Nat.sub_le accepted joined)
      have hmore := joining_mono prices (Nat.le_add_right accepted 1)
      simp only [Prices.present, Prices.operating, ServerLabel.accepted]
      omega
  | destruct socket =>
      refine (within_destruct hweight socket).mono ?_
      simp only [Prices.present, Prices.operating, Prices.joining,
        ServerLabel.accepted]
      omega

end Allowances

section Bounds

/-- The server pays for the handlers that it starts. -/
def Prices.paying (prices : Prices) : Prices where
  call kind :=
    if kind = .start then prices.call .start + prices.closing
    else prices.call kind
  jump := prices.jump

/-- A handler that is there, whatever the replies. -/
def Prices.remaining (prices : Prices) : Nat :=
  Prices.handling prices.call + (prices.jump + prices.closing)

theorem respects_weight (prices : Prices) :
    Respects (A := A) prices.call prices.weight :=
  fun _ _ => Nat.le_refl _

theorem call_le_paying
    (prices : Prices) (kind : CallKind) :
    prices.call kind ≤ prices.paying.call kind := by
  simp only [Prices.paying]
  split
  · next hstart =>
      rw [hstart]
      exact Nat.le_add_right _ _
  · exact Nat.le_refl _

/-- A handler is started by a call for its thread. -/
theorem startedHandler_eq_some
    {call : ServerCall A} {reply : ServerReply} {label : HandlerLabel A}
    (h : startedHandler call reply = some label) :
    ∃ data id, call = .startThread data id ∧ label = .closure data id := by
  cases call with
  | startThread data id =>
      simp only [startedHandler] at h
      split at h
      · cases h
      · cases h
        exact ⟨data, id, rfl, rfl⟩
  | library => cases h
  | wait => cases h
  | transfer => cases h
  | join => cases h
  | load => cases h
  | store => cases h
  | frame => cases h
  | destroy => cases h

theorem respects_mainWeight
    (cls : AddressClass A) (prices : Prices) :
    Respects prices.paying.call
      ((CommandServer.machine cls).mainWeight prices.handler
        prices.weight) := by
  intro call reply
  cases hstarts : (CommandServer.machine cls).starts call reply with
  | none =>
      simp only [Machine.mainWeight, hstarts]
      exact call_le_paying prices call.kind
  | some label =>
      simp only [Machine.mainWeight, hstarts]
      obtain ⟨data, id, rfl, rfl⟩ := startedHandler_eq_some hstarts
      exact Nat.le_refl _

theorem CommandServer.bounded
    (cls : AddressClass A) (prices : Prices) :
    (CommandServer.machine cls).Bounded prices.paying.server prices.handler
      FlagSet prices.weight where
  main := CommandServer.within_block cls (respects_mainWeight cls prices)
  worker := CommandHandler.within_block (respects_weight prices)

/-- What an event costs. -/
def Prices.entry (prices : Prices) :
    Option (ServerCall A × ServerReply) → Nat
  | some (call, _) => prices.call call.kind
  | none => prices.jump

theorem charge_eq_entry
    (prices : Prices) (event : Event (ServerCall A) ServerReply) :
    Machine.charge (prices.paying.server : Allowance (ServerLabel A))
        (prices.handler : Allowance (HandlerLabel A)) prices.weight event =
      prices.entry event.entry := by
  cases event with
  | main event =>
      cases event <;> rfl
  | worker number event =>
      cases event <;> rfl

/-- The event is a call of this kind. -/
def Asks (kind : CallKind) (event : Event (ServerCall A) ServerReply) : Bool :=
  event.entry.any (fun entry => entry.1.kind == kind)

/-- The event is a call of this kind that the handler with this number makes. -/
def AsksOf (number : Nat) (kind : CallKind) :
    Event (ServerCall A) ServerReply → Bool
  | .main _ => false
  | .worker other event => other == number && Asks kind (.worker other event)

/-- Only calls of this kind cost anything. -/
def Prices.only (kind : CallKind) : Prices where
  call other := if other = kind then 1 else 0
  jump := 0

theorem countP_asks
    (kind : CallKind) (events : List (Event (ServerCall A) ServerReply)) :
    events.countP (Asks kind) =
      (events.map
        (fun event => (Prices.only kind).entry event.entry)).sum := by
  induction events with
  | nil =>
      rfl
  | cons event events ih =>
      rw [List.countP_cons, ih, List.map_cons, List.sum_cons, Nat.add_comm]
      congr 1
      rw [Asks]
      cases event.entry with
      | none =>
          rfl
      | some entry =>
          simp [Prices.entry, Prices.only]

theorem countP_asksOf
    (number : Nat) (kind : CallKind)
    (events : List (Event (ServerCall A) ServerReply)) :
    events.countP (AsksOf number kind) =
      (events.map (Machine.chargeOf
        ((Prices.only kind).handler : Allowance (HandlerLabel A))
        (Prices.only kind).weight number)).sum := by
  induction events with
  | nil =>
      rfl
  | cons event events ih =>
      rw [List.countP_cons, ih, List.map_cons, List.sum_cons, Nat.add_comm]
      congr 1
      cases event with
      | main event =>
          rfl
      | worker other event =>
          simp only [AsksOf, Asks, Event.entry, Machine.chargeOf]
          by_cases hother : other = number
          · cases event with
            | none =>
                simp [Allowance.charge, Prices.handler, Prices.only]
            | some entry =>
                simp [hother, Allowance.charge, Prices.weight, Prices.only]
          · simp [hother]

theorem length_eq_sum
    (events : List (Event (ServerCall A) ServerReply)) :
    events.length =
      (events.map
        (fun event => Prices.entry ⟨fun _ => 1, 1⟩ event.entry)).sum := by
  induction events with
  | nil =>
      rfl
  | cons event events ih =>
      rw [List.length_cons, ih, List.map_cons, List.sum_cons, Nat.add_comm]
      congr 1
      cases event.entry <;> rfl

end Bounds

namespace CommandServer

variable {cls : AddressClass A} {address : A}
variable {kernel : Kernel} {flag : Bool} {s t : ServerConfig A}
variable {prices : Prices}

section Budgets

/-- Every reply. -/
def AnyReply (_ : ServerCall A) (_ : ServerReply) : Prop := True

/-- What the threads can cost, whatever the replies. -/
structure Affordable
    (cls : AddressClass A) (prices : Prices) (s : ServerConfig A) :
    Prop where
  main : prices.paying.server.Lasts AnyReply
    ((machine cls).mainWeight prices.handler prices.weight) s.main
    (prices.paying.present s.workers.length)
  workers : ∀ handler ∈ s.workers,
    prices.handler.Lasts AnyReply prices.weight handler prices.remaining

/-- A block that the server enters is about the handlers that are there. -/
theorem accepted_le
    (h : Reaches cls address kernel flag s) {label : ServerLabel A}
    (hprogram : s.main.program = .ret (some label)) :
    label.accepted ≤ s.workers.length := by
  have hserved := (servedRun h).served
  have henters := hserved.main.2
  rw [hprogram] at henters
  rw [hserved.count]
  cases label with
  | construct address =>
      exact Nat.zero_le _
  | operator socket accepted =>
      exact Nat.le_of_eq (Operating.started henters).symm
  | join socket accepted joined =>
      exact Nat.le_of_eq (Joining.started henters).symm
  | destruct socket =>
      exact Nat.zero_le _

/-- A handler that has just started has the most to do. -/
theorem handler_block_le
    (prices : Prices) (label : HandlerLabel A) :
    prices.handler.block label ≤ prices.closing := by
  cases label with
  | closure data id =>
      exact Nat.le_refl _
  | operator socket =>
      simp only [Prices.handler, Prices.closing]
      omega
  | release socket =>
      simp only [Prices.handler, Prices.closing]
      omega

theorem within_remaining
    (prices : Prices) (label : HandlerLabel A) :
    (CommandHandler.block label).Within AnyReply prices.weight
      prices.handler.due prices.remaining := by
  refine (CommandHandler.costs_block (respects_weight prices) label).within ?_
  rintro (abrupt | next)
  · exact Nat.zero_le _
  · cases next with
    | none =>
        exact Nat.zero_le _
    | some label =>
        exact Nat.add_le_add_left (handler_block_le prices label) prices.jump

theorem Affordable.step
    {event : Event (ServerCall A) ServerReply}
    (hreaches : Reaches cls address kernel flag s)
    (h : Affordable cls prices s)
    (hstep : (machine cls).Step s event t) :
    Affordable cls prices t := by
  cases hstep with
  | main event after shared moves answers free =>
      refine ⟨?_, ?_⟩
      · have hmain := h.main.steady
          (fun label hprogram =>
            (CommandServer.within_present cls
              (respects_mainWeight cls prices) label).mono
                (present_mono _ (accepted_le hreaches hprogram)))
          moves (fun _ _ _ => trivial)
        refine hmain.mono (present_mono _ ?_)
        simp
      · intro handler hmem
        rcases List.mem_append.mp hmem with hold | hnew
        · exact h.workers handler hold
        · obtain ⟨label, _, rfl⟩ := List.mem_map.mp hnew
          exact within_remaining prices label
  | worker number event thread after shared present moves answers free =>
      refine ⟨?_, ?_⟩
      · simpa using h.main
      · intro handler hmem
        rcases List.mem_or_eq_of_mem_set hmem with hold | rfl
        · exact h.workers handler hold
        · exact (h.workers thread (List.mem_of_getElem? present)).steady
            (fun label _ => within_remaining prices label) moves
            (fun _ _ _ => trivial)

theorem affordable
    (prices : Prices) (h : Reaches cls address kernel flag s) :
    Affordable cls prices s := by
  obtain ⟨events, hrun⟩ := h
  induction hrun with
  | nil =>
      refine ⟨?_, ?_⟩
      · exact CommandServer.within_present cls
          (respects_mainWeight cls prices) (.construct address)
      · intro handler hmem
        cases hmem
  | snoc events t event u run step ih =>
      exact ih.step ⟨events, run⟩ step

end Budgets

section Shutdown

/-- A server whose flag has been set after it was set up. -/
structure ShuttingDown
    (cls : AddressClass A) (address : A) (kernel : Kernel) (flag : Bool)
    (s : ServerConfig A) : Prop where
  reaches : Reaches cls address kernel flag s
  flagged : s.shared.terminateRequested = true
  stage : ((duties A true).after .initial s.main.log).stage ≠ .constructing

/-- The flag stays set, and everyone who looks at it sees that. -/
theorem ShuttingDown.step
    {event : Event (ServerCall A) ServerReply}
    (h : ShuttingDown cls address kernel flag s)
    (hstep : (machine cls).Step s event t) :
    ShuttingDown cls address kernel flag t ∧
      ∀ call reply, event.entry = some (call, reply) → FlagSet call reply := by
  obtain ⟨hflag, hsees⟩ := flag_stays h.reaches h.flagged h.stage hstep
  exact ⟨⟨h.reaches.step hstep, hflag, stage_stays h.stage hstep⟩, hsees⟩

/-- What all threads together can still cost. -/
theorem ShuttingDown.lasts
    (prices : Prices) (h : ShuttingDown cls address kernel flag s) :
    (machine cls).Lasts prices.paying.server prices.handler FlagSet
      prices.weight s
      (prices.paying.present s.workers.length +
        s.workers.length * prices.remaining) := by
  have haffordable := affordable prices h.reaches
  have hfewer : ∀ (call : ServerCall A) (reply : ServerReply),
      FlagSet call reply → AnyReply call reply :=
    fun _ _ _ => trivial
  refine ⟨_, List.replicate s.workers.length prices.remaining,
    haffordable.main.restrict hfewer, ?_, ?_⟩
  · exact forall₂_replicate (fun handler hmem =>
      (haffordable.workers handler hmem).restrict hfewer)
  · rw [List.sum_replicate, Nat.nsmul_eq_mul]

/-- What happens after the flag was set is paid for out of what there was. -/
theorem ShuttingDown.spent
    (prices : Prices) (h : ShuttingDown cls address kernel flag s)
    {events : List (Event (ServerCall A) ServerReply)}
    (hrun : (machine cls).Run s events t) :
    (events.map (fun event => prices.entry event.entry)).sum ≤
      prices.paying.present s.workers.length +
        s.workers.length * prices.remaining := by
  have hcharged := Machine.Lasts.run (CommandServer.bounded cls prices)
    (fun _ _ _ hdown hstep => hdown.step hstep) hrun h (h.lasts prices)
  rwa [List.map_congr_left (fun event _ => charge_eq_entry prices event)]
    at hcharged

/-- What a handler does after the flag was set is paid for out of its own
share. -/
theorem ShuttingDown.spent_by
    (prices : Prices) (h : ShuttingDown cls address kernel flag s)
    {events : List (Event (ServerCall A) ServerReply)}
    (hrun : (machine cls).Run s events t) (number : Nat) :
    (events.map (Machine.chargeOf
        (prices.handler : Allowance (HandlerLabel A)) prices.weight
        number)).sum ≤ prices.remaining := by
  refine Machine.Shares.run (CommandServer.bounded cls prices).worker
    (fun _ _ _ hdown hstep => hdown.step hstep) ?_ hrun h ?_
  · intro label
    exact Nat.le_trans (handler_block_le prices label)
      (Nat.le_trans (Nat.le_add_left _ _) (Nat.le_add_left _ _))
  · refine ⟨Nat.zero_le _, fun _ => rfl, ?_⟩
    intro handler hpresent
    exact ((affordable prices h.reaches).workers handler
      (List.mem_of_getElem? hpresent)).restrict (fun _ _ _ => trivial)

end Shutdown

section Results

/-- The flag is set, and it was a handler that set it. -/
theorem shuttingDown
    (h : Reaches cls address kernel flag s)
    {reply : ServerReply}
    (hsetUp : (ServerCall.store false, reply) ∈ s.main.log)
    (hflag : s.shared.terminateRequested = true) :
    ShuttingDown cls address kernel flag s :=
  ⟨h, hflag, stage_of_store (servedRun h).served.main.1 hsetUp⟩

theorem steps_le
    (h : ShuttingDown cls address kernel flag s)
    {events : List (Event (ServerCall A) ServerReply)}
    (hrun : (machine cls).Run s events t) :
    events.length ≤ 30 + 21 * s.workers.length := by
  rw [length_eq_sum]
  refine Nat.le_trans (h.spent ⟨fun _ => 1, 1⟩ hrun) ?_
  simp [Prices.present, Prices.remaining, Prices.handling,
    Prices.opening, Prices.greeting, Prices.reading, Prices.closing,
    Prices.leaving, Prices.operating, Prices.joining, Prices.accepting,
    Prices.paying]
  omega

/-- **The end of a server comes soon.**  From the moment a handler has set the
flag, whatever the clients and the kernel do: the number of steps to the end is
bounded by the number of handlers, at most one more connection is accepted, and
every handler reads at most once more, also those that are still to be started;
together they read at most as often as there are handlers now. -/
theorem shutdown_bounded
    (h : Reaches cls address kernel flag s)
    {reply : ServerReply}
    (hsetUp : (ServerCall.store false, reply) ∈ s.main.log)
    (hflag : s.shared.terminateRequested = true)
    {events : List (Event (ServerCall A) ServerReply)}
    (hrun : (machine cls).Run s events t) :
    events.length ≤ 30 + 21 * s.workers.length ∧
      events.countP (Asks .accept) ≤ 1 ∧
      events.countP (Asks .receive) ≤ s.workers.length ∧
      ∀ number, events.countP (AsksOf number .receive) ≤ 1 := by
  have hdown := shuttingDown h hsetUp hflag
  refine ⟨steps_le hdown hrun, ?_, ?_, ?_⟩
  · rw [countP_asks]
    refine Nat.le_trans (hdown.spent (.only .accept) hrun) ?_
    simp [Prices.only, Prices.present, Prices.remaining, Prices.handling,
      Prices.opening, Prices.greeting, Prices.reading, Prices.closing,
      Prices.leaving, Prices.operating, Prices.joining, Prices.accepting,
      Prices.paying]
  · rw [countP_asks]
    refine Nat.le_trans (hdown.spent (.only .receive) hrun) ?_
    simp [Prices.only, Prices.present, Prices.remaining, Prices.handling,
      Prices.opening, Prices.greeting, Prices.reading, Prices.closing,
      Prices.leaving, Prices.operating, Prices.joining, Prices.accepting,
      Prices.paying]
  · intro number
    rw [countP_asksOf]
    refine Nat.le_trans (hdown.spent_by (.only .receive) hrun number) ?_
    simp [Prices.only, Prices.remaining, Prices.handling, Prices.greeting,
      Prices.reading, Prices.closing, Prices.leaving]

theorem shutdown_bounded_terminated :
    ∃ events, (machine loopbackClass).Run terminated events finished ∧
      events.length = 7 ∧
      events.length ≤ 30 + 21 * terminated.workers.length ∧
      events.countP (Asks .accept) ≤ 1 ∧
      events.countP (Asks .receive) ≤ terminated.workers.length ∧
      ∀ number, events.countP (AsksOf number .receive) ≤ 1 := by
  obtain ⟨reply, hsetUp⟩ := terminated_setUp
  obtain ⟨events, hrun, hlength⟩ := terminated_finished
  exact ⟨events, hrun, hlength,
    shutdown_bounded terminated_reached hsetUp terminated_flag hrun⟩

/-- **A shutdown completes.**  After the flag was set every run can be
continued to an end, soon, and at its end the server and all its handlers have
ended; only undefined behaviour prevents that, that of a handler over a
descriptor without a bit in the sets of `select`, or that the process has been
killed in the run already, after a send of a handler to a peer that is gone. -/
theorem shutdown_completes
    (h : Reaches cls address kernel flag s)
    {reply : ServerReply}
    (hsetUp : (ServerCall.store false, reply) ∈ s.main.log)
    (hflag : s.shared.terminateRequested = true)
    {events : List (Event (ServerCall A) ServerReply)}
    (hrun : (machine cls).Run s events t) :
    ∃ more u, (machine cls).Run s (events ++ more) u ∧
      (events ++ more).length ≤ 30 + 21 * s.workers.length ∧
      ((u.main.Ended ∧ ∀ handler ∈ u.workers, handler.Ended) ∨
        u.main.program = .throw .undefined ∨
        (∃ (number : Nat)
            (handler : Running (ServerCall A) ServerReply Abrupt
              (HandlerLabel A))
            (data : AcceptedSocketData A),
          u.workers[number]? = some handler ∧
          handler.program = .throw .undefined ∧
          (startedHandlers u.main.log)[number]? =
            some (.closure data (nextId number)) ∧
          ¬ Selectable data.lowLevelSocket) ∨
        (t.shared.killed = true ∧
          ∃ handler ∈ t.workers, BrokenPipe handler.log)) := by
  have hbound : ∀ events t, (machine cls).Run s events t →
      events.length ≤ 30 + 21 * s.workers.length :=
    fun _ _ hlater => steps_le (shuttingDown h hsetUp hflag) hlater
  have hdown : ∀ events t, (machine cls).Run s events t →
      ShuttingDown cls address kernel flag t :=
    fun _ _ hlater =>
      hlater.invariant (ShuttingDown cls address kernel flag)
        (fun _ _ _ hdown hstep => (hdown.step hstep).1)
        (shuttingDown h hsetUp hflag)
  by_cases hkilled : t.shared.killed = true
  · have hbroken := (servedRun (hdown events t hrun).reaches).killed.mp hkilled
    refine ⟨[], t, by rwa [List.append_nil], ?_,
      Or.inr (Or.inr (Or.inr ⟨hkilled, hbroken⟩))⟩
    rw [List.append_nil]
    exact hbound events t hrun
  have hrunning : t.shared.killed = false :=
    Bool.eq_false_of_not_eq_true hkilled
  obtain ⟨more, u, hmore, hgoes, hstuck⟩ :=
    Machine.Run.exists_stuck hbound hrun hrunning
  refine ⟨more, u, hmore, hbound _ u hmore, ?_⟩
  have hlater := hdown _ u hmore
  rcases stuck_because (servedRun hlater.reaches) hgoes hstuck with
    hended | hundefined | ⟨_, hstage⟩ | hhandler
  · exact Or.inl hended
  · exact Or.inr (Or.inl hundefined)
  · exact absurd hstage hlater.stage
  · exact Or.inr (Or.inr (Or.inl hhandler))

/-- The server has seen the flag, and has still to join its handler. -/
def leaving : ServerConfig Address :=
  ((machine loopbackClass).exec terminated
    (List.replicate 3 (.main .calm))).get (by decide +kernel)

theorem shutdown_completes_terminated :
    ∃ events, events.length = 3 ∧
      (machine loopbackClass).Run terminated events leaving ∧
      ∃ more u, (machine loopbackClass).Run terminated (events ++ more) u ∧
        (events ++ more).length ≤ 30 + 21 * terminated.workers.length ∧
        ((u.main.Ended ∧ ∀ handler ∈ u.workers, handler.Ended) ∨
          u.main.program = .throw .undefined ∨
          (∃ (number : Nat)
              (handler : Running (ServerCall Address) ServerReply Abrupt
                (HandlerLabel Address))
              (data : AcceptedSocketData Address),
            u.workers[number]? = some handler ∧
            handler.program = .throw .undefined ∧
            (startedHandlers u.main.log)[number]? =
              some (.closure data (nextId number)) ∧
            ¬ Selectable data.lowLevelSocket) ∨
          (leaving.shared.killed = true ∧
            ∃ handler ∈ leaving.workers, BrokenPipe handler.log)) := by
  obtain ⟨reply, hsetUp⟩ := terminated_setUp
  have hleaving : ∃ events,
      (machine loopbackClass).Run terminated events leaving ∧
        events.length = 3 :=
    Machine.run_of_exec (Option.some_get _).symm
  obtain ⟨events, hrun, hlength⟩ := hleaving
  exact ⟨events, hlength, hrun,
    shutdown_completes terminated_reached hsetUp terminated_flag hrun⟩

end Results

end CommandServer

end BsdSockets
