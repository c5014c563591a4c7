import BsdSockets.Lib.Workers
import BsdSockets.TextFormat
import BsdSockets.Transfer
import BsdSockets.Waiting

/-!
# The process of a server

What the example servers are built from besides the library: threads with their
closures, the joining of threads, and an atomic flag that the threads share.

A thread of a server calls the library, so the programs of the library are
translated into programs of a thread.  `acceptInNewThread` is given a closure;
of its captures only the number of the connection is data, and `startThread`
has it.  `frame` reads what the uninitialised locals of a new frame hold, and
`destroy` ends the life of the server object with the flag in it.

Nothing in the library or in the servers blocks, ignores or handles `SIGPIPE`,
so its default action is taken: it ends the process with all its threads.
-/

namespace BsdSockets

open Resumption

/-- The calls of a thread. -/
inductive ServerCall (A : Type) where
  | library (call : Call A)
  | wait (call : WaitCall)
  | transfer (call : TransferCall)
  | startThread (data : AcceptedSocketData A) (id : Int32)
  | join (number : Nat)
  | load
  | store (value : Bool)
  | frame
  | destroy

/-- What a call gives back; each call has its own field. -/
structure ServerReply where
  library : Reply
  wait : WaitReply
  transfer : TransferReply
  flag : Bool
  frame : Indeterminate

/-- The reply of a call that gives nothing back. -/
def ServerReply.nothing : ServerReply where
  library := .succeeded 0
  wait := ⟨0, 0, ∅, ∅, ∅, 0⟩
  transfer := ⟨0, 0, []⟩
  flag := false
  frame := ⟨0, []⟩

abbrev ServerProgram (A : Type) := Prog (ServerCall A) ServerReply Abrupt

section Programs

variable {A α : Type}

/-- A call of the library, made by a thread. -/
def library (program : Program A α) : ServerProgram A α :=
  program.translate .library (fun _ reply => reply.library)

/-- The thread of a call of `acceptInNewThread` gets its closure. -/
def withClosure (id : Int32) : Call A → ServerCall A
  | .startThread data => .startThread data id
  | call => .library call

/-- A call of the library with a closure for the thread that it starts. -/
def libraryWithClosure (id : Int32) (program : Program A α) :
    ServerProgram A α :=
  program.translate (withClosure id) (fun _ reply => reply.library)

def waiting (program : WaitProgram α) : ServerProgram A α :=
  program.translate .wait (fun _ reply => reply.wait)

def transferring (program : TransferProgram α) : ServerProgram A α :=
  program.translate .transfer (fun _ reply => reply.transfer)

/-- `terminateRequested.load()`. -/
def load : ServerProgram A Bool := do
  let reply ← Prog.perform .load
  return reply.flag

/-- `terminateRequested.store(value)`. -/
def store (value : Bool) : ServerProgram A Unit := do
  let _ ← Prog.perform (.store value)
  return ()

/-- `try { body } catch(...) { handler }`; nothing catches undefined
behaviour. -/
def catchAll (body handler : ServerProgram A α) : ServerProgram A α :=
  body.catching
    (fun abrupt =>
      match abrupt with
      | .throws _ => handler
      | .undefined => Prog.throw .undefined)

end Programs

section Environment

/-- The kernel, the members of the server object that threads share, and whether
a `SIGPIPE` has killed the process. -/
structure ServerState where
  kernel : Kernel
  terminateRequested : Bool
  destroyed : Bool
  killed : Bool

/-- One decision of the environment. -/
structure ServerChoice where
  library : Choice
  wait : WaitChoice
  transfer : TransferChoice
  frame : Indeterminate

/-- Nothing fails, and nothing has come. -/
def ServerChoice.calm : ServerChoice where
  library := ⟨none, 0, []⟩
  wait := ⟨none, fun _ => false, fun _ => false, fun _ => false, 0⟩
  transfer := ⟨none, 0, []⟩
  frame := ⟨0, []⟩

/-- Bytes move on open descriptors only. -/
def Kernel.transfer
    (self : Kernel) (choice : TransferChoice) (call : TransferCall) :
    TransferReply :=
  if call.fd ∈ self.openFds then choice.answer call else ⟨-1, ebadf, []⟩

theorem Kernel.transfer_possible
    (self : Kernel) (choice : TransferChoice) (call : TransferCall) :
    call.Possible (self.transfer choice call) := by
  rw [Kernel.transfer]
  split
  · exact choice.answer_possible call
  · cases call <;> exact Or.inl rfl

/-- Where no transfer fails by the decision of the environment no signal comes: a
closed descriptor is no peer that is gone. -/
theorem Kernel.transfer_silent
    (self : Kernel) {choice : TransferChoice} (hchoice : choice.errno = none)
    (call : TransferCall) :
    call.raisesSigpipe (self.transfer choice call) = false := by
  by_contra hraises
  obtain ⟨hfailed, herrno⟩ :=
    TransferCall.epipe_of_raisesSigpipe (Bool.eq_true_of_not_eq_false hraises)
  by_cases hopen : call.fd ∈ self.openFds
  · rw [Kernel.transfer, if_pos hopen] at hfailed
    rw [choice.errno_of_failed call hfailed] at hchoice
    cases hchoice
  · rw [Kernel.transfer, if_neg hopen] at herrno
    cases herrno

variable {A : Type}

namespace ServerState

/-- The answer to a call of a thread. -/
def answer (self : ServerState) (choice : ServerChoice) :
    ServerCall A → ServerReply × ServerState
  | .library call =>
      ({ ServerReply.nothing with
          library := (self.kernel.answer choice.library call).1 },
        { self with kernel := (self.kernel.answer choice.library call).2 })
  | .wait call =>
      ({ ServerReply.nothing with wait := choice.wait.answer call }, self)
  | .transfer call =>
      ({ ServerReply.nothing with
          transfer := self.kernel.transfer choice.transfer call },
        { self with
          killed := self.killed ||
            call.raisesSigpipe (self.kernel.transfer choice.transfer call) })
  | .startThread data _ =>
      ({ ServerReply.nothing with
          library :=
            (self.kernel.answer choice.library (.startThread data)).1 },
        self)
  | .join _ => (ServerReply.nothing, self)
  | .load =>
      ({ ServerReply.nothing with flag := self.terminateRequested }, self)
  | .store value =>
      (ServerReply.nothing, { self with terminateRequested := value })
  | .frame => ({ ServerReply.nothing with frame := choice.frame }, self)
  | .destroy => (ServerReply.nothing, { self with destroyed := true })

/-- Only `destroy` ends the life of the server object. -/
theorem answer_destroyed
    (self : ServerState) (choice : ServerChoice) {call : ServerCall A}
    (h : call ≠ .destroy) :
    (self.answer choice call).2.destroyed = self.destroyed := by
  cases call <;> first | rfl | exact absurd rfl h

end ServerState

end Environment

section Greetings

/-- `std::to_string` of an `int`. -/
def stdToString (value : Int32) : CppString :=
  if value < 0 then 45 :: TextFormat.numeral 10 10 (-value.toInt).toNat
  else TextFormat.numeral 10 10 value.toInt.toNat

/-- The greeting of a connection. -/
def welcome (id : Int32) : CppString :=
  literal "Welcome, Connection #" ++ stdToString id ++ literal "\n"

/-- The number of the next connection: `acceptedThreads.size() + 1`, as an
`int`. -/
def nextId (accepted : Nat) : Int32 := Int32.ofNat (accepted + 1)

end Greetings

end BsdSockets
