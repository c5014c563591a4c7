import BsdSockets.Address
import BsdSockets.Handlers

/-!
# The example servers

Model of `EchoServer` and `CommandServer`.  A server opens its socket in the
constructor, accepts connections in the loop of `operator()` and starts one
handler for each, joins all handlers in the order in which it started them, and
is destroyed.  The servers differ in the flag: `EchoServer` accepts until an
exception ends its loop, `CommandServer` waits at most `timeout_ms` for a
connection and looks at the flag in between.

The size of `acceptedThreads` is a number that the labels carry.  `join` is a
call that returns only when the handler has ended; it does not throw, since a
started thread is joined once and not by itself.
-/

namespace BsdSockets

open Resumption

variable {A : Type}

section Blocks

/-- Where a server is: in the constructor, in the loop, joining its handlers,
in the destructor. -/
inductive ServerLabel (A : Type) where
  | construct (address : A)
  | operator (serverSocket : Socket A) (accepted : Nat)
  | join (serverSocket : Socket A) (accepted joined : Nat)
  | destruct (serverSocket : Socket A)

/-- `acceptCurrent` of both servers; the result is the new size of
`acceptedThreads`. -/
def acceptCurrent
    (cls : AddressClass A) (serverSocket : Socket A) (accepted : Nat) :
    ServerProgram A Nat := do
  let reply ← Prog.perform .frame
  libraryWithClosure (nextId accepted)
    (ServerSocket.acceptInNewThread cls serverSocket reply.frame)
  return accepted + 1

/-- The life of a server, with its constructor and one round of the loop of its
`operator()`, which says whether the loop is over. -/
def serverBlock
    (new : A → ServerProgram A (Socket A))
    (round : Socket A → Nat → ServerProgram A (Bool × Nat)) :
    ServerLabel A → ServerProgram A (Option (ServerLabel A))
  | .construct address => do
      let serverSocket ← new address
      return some (.operator serverSocket 0)
  | .operator serverSocket accepted =>
      catchAll
        (do
          let outcome ← round serverSocket accepted
          if outcome.1 then return some (.join serverSocket outcome.2 0)
          else return some (.operator serverSocket outcome.2))
        (return some (.join serverSocket accepted 0))
  | .join serverSocket accepted joined =>
      if joined < accepted then do
        let _ ← Prog.perform (.join joined)
        return some (.join serverSocket accepted (joined + 1))
      else return some (.destruct serverSocket)
  | .destruct serverSocket => do
      let _ ← Prog.perform .destroy
      library serverSocket.destructor
      return none

end Blocks

section Machines

/-- The handler that a call starts. -/
def startedHandler (call : ServerCall A) (reply : ServerReply) :
    Option (HandlerLabel A) :=
  match call with
  | .startThread data id =>
      if reply.library.Failed then none else some (.closure data id)
  | _ => none

/-- The handler for whose end a call waits. -/
def joinedHandler : ServerCall A → Option Nat
  | .join number => some number
  | _ => none

/-- A server with its handlers; they run until the process is killed. -/
def serverMachine
    (main : ServerLabel A → ServerProgram A (Option (ServerLabel A)))
    (worker : HandlerLabel A → ServerProgram A (Option (HandlerLabel A))) :
    Machine (ServerCall A) ServerReply Abrupt (ServerLabel A)
      (HandlerLabel A) ServerState ServerChoice where
  main := main
  worker := worker
  answer := ServerState.answer
  halted := ServerState.killed
  starts := startedHandler
  awaits := joinedHandler

/-- A configuration of a server with its handlers. -/
abbrev ServerConfig (A : Type) :=
  Config (ServerCall A) ServerReply Abrupt (ServerLabel A) (HandlerLabel A)
    ServerState

end Machines

namespace EchoServer

/-- The constructor. -/
def new (cls : AddressClass A) (address : A) :
    ServerProgram A (Socket A) :=
  library (ServerSocket.open cls address 128 false)

def round
    (cls : AddressClass A) (serverSocket : Socket A) (accepted : Nat) :
    ServerProgram A (Bool × Nat) := do
  let accepted' ← acceptCurrent cls serverSocket accepted
  return (false, accepted')

def block (cls : AddressClass A) :
    ServerLabel A → ServerProgram A (Option (ServerLabel A)) :=
  serverBlock (new cls) (round cls)

def machine (cls : AddressClass A) :
    Machine (ServerCall A) ServerReply Abrupt (ServerLabel A)
      (HandlerLabel A) ServerState ServerChoice :=
  serverMachine (block cls) EchoHandler.block

end EchoServer

namespace CommandServer

/-- The constructor. -/
def new (cls : AddressClass A) (address : A) :
    ServerProgram A (Socket A) := do
  let serverSocket ← library (ServerSocket.open cls address 128 false)
  store false
  return serverSocket

def acceptOne
    (cls : AddressClass A) (serverSocket : Socket A) (accepted : Nat) :
    ServerProgram A (Bool × Nat) := do
  let result ← waiting (serverSocket.select timeoutMs true false true)
  let terminateRequested ← load
  if terminateRequested then return (true, accepted)
  else if result.readyWithError then return (true, accepted)
  else if result.readyToRead then do
    let accepted' ← acceptCurrent cls serverSocket accepted
    return (false, accepted')
  else return (false, accepted)

/-- The condition of the loop and its body. -/
def round
    (cls : AddressClass A) (serverSocket : Socket A) (accepted : Nat) :
    ServerProgram A (Bool × Nat) := do
  let terminateRequested ← load
  if terminateRequested then return (true, accepted)
  else acceptOne cls serverSocket accepted

def block (cls : AddressClass A) :
    ServerLabel A → ServerProgram A (Option (ServerLabel A)) :=
  serverBlock (new cls) (round cls)

def machine (cls : AddressClass A) :
    Machine (ServerCall A) ServerReply Abrupt (ServerLabel A)
      (HandlerLabel A) ServerState ServerChoice :=
  serverMachine (block cls) CommandHandler.block

end CommandServer

end BsdSockets
