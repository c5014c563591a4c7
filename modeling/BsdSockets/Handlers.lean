import BsdSockets.ServerProcess

/-!
# The handlers of the example servers

Model of `EchoHandler` and `CommandHandler`, with the closures that run them.
Both keep one conversation over one socket; they share how a message is sent
and how a chunk is read, and differ in what they do with the chunk and in how
they wait for it.

A handler is a thread of three blocks: the closure up to the end of the
constructor, one round of the loop of `operator()`, and the release of the only
reference to the socket at the end of the closure.
-/

namespace BsdSockets

open Resumption

variable {A : Type}

section Messages

/-- The message about leaving that both handlers begin with. -/
def quitInstruction : CppString :=
  literal "Any line beginning with \"quit\" will terminate this echo client.\n"

def terminateInstruction : CppString :=
  literal "Any line beginning with \"terminate\" will terminate the echo server.\n"

def goodbye : CppString := literal "Goodbye!\n"

def requestingShutdown : CppString := literal "Requesting shutdown now!\n"

/-- `timeout_ms`. -/
def timeoutMs : Int32 := 500

/-- `bufferLen`. -/
def bufferLen : Nat := 1024

end Messages

section Blocks

/-- Where a handler is: in its closure, in the loop, at the end. -/
inductive HandlerLabel (A : Type) where
  | closure (data : AcceptedSocketData A) (id : Int32)
  | operator (socket : Socket A)
  | release (socket : Socket A)

/-- The closure of a handler, with its constructor and one round of the loop of
its `operator()`, which says whether the loop is over. -/
def handlerBlock
    (new : Socket A → CppString → ServerProgram A Unit)
    (round : Socket A → ServerProgram A Bool) :
    HandlerLabel A → ServerProgram A (Option (HandlerLabel A))
  | .closure data id => do
      let accepted ← library (ServerSocket.handlerSocket data)
      new accepted (welcome id)
      return some (.operator accepted)
  | .operator socket =>
      catchAll
        (do
          let done ← round socket
          if done then return some (.release socket)
          else return some (.operator socket))
        (return some (.release socket))
  | .release socket => do
      library socket.destructor
      return none

end Blocks

section Exchange

/-- `send` of both handlers; what `Socket::send` returns is not looked at. -/
def sendMessage (socket : Socket A) (message : CppString) :
    ServerProgram A Unit := do
  let _ ← transferring
    (socket.send (cStr message) (message.length + 1) 0)
  return ()

/-- `readCurrent` of both handlers, which give the chunk to their `actOn`. -/
def readChunk
    (socket : Socket A) (actOn : CppString → ServerProgram A Bool) :
    ServerProgram A Bool := do
  let reply ← transferring (socket.blockingReceive (bufferLen - 1))
  if 0 = reply.result then return false
  else do
    let buffer ← Prog.lift (stringOf reply.written reply.result)
    actOn buffer

end Exchange

namespace EchoHandler

def send (socket : Socket A) (message : CppString) :
    ServerProgram A Unit :=
  sendMessage socket message

def actOn (socket : Socket A) (buffer : CppString) :
    ServerProgram A Bool :=
  if some 0 = find (literal "quit") buffer then do
    send socket goodbye
    return true
  else do
    send socket buffer
    return false

def readCurrent (socket : Socket A) : ServerProgram A Bool :=
  readChunk socket (actOn socket)

/-- The constructor. -/
def new (socket : Socket A) (greeting : CppString) :
    ServerProgram A Unit :=
  catchAll
    (do
      send socket greeting
      send socket quitInstruction)
    (return ())

def block : HandlerLabel A → ServerProgram A (Option (HandlerLabel A)) :=
  handlerBlock new readCurrent

end EchoHandler

namespace CommandHandler

def send (socket : Socket A) (message : CppString) :
    ServerProgram A Unit :=
  sendMessage socket message

def actOn (socket : Socket A) (buffer : CppString) :
    ServerProgram A Bool :=
  if some 0 = find (literal "terminate") buffer then do
    send socket requestingShutdown
    store true
    return true
  else if some 0 = find (literal "quit") buffer then do
    send socket goodbye
    return true
  else do
    send socket buffer
    return false

def readCurrent (socket : Socket A) : ServerProgram A Bool :=
  readChunk socket (actOn socket)

def readOne (socket : Socket A) : ServerProgram A Bool := do
  let result ← waiting (socket.select timeoutMs true false true)
  let terminateRequested ← load
  if terminateRequested then return true
  else if result.readyWithError then return true
  else if result.readyToRead then readCurrent socket
  else return false

/-- The condition of the loop and its body. -/
def round (socket : Socket A) : ServerProgram A Bool := do
  let terminateRequested ← load
  if terminateRequested then return true
  else readOne socket

/-- The constructor. -/
def new (socket : Socket A) (greeting : CppString) :
    ServerProgram A Unit :=
  catchAll
    (do
      send socket greeting
      send socket quitInstruction
      send socket terminateInstruction)
    (return ())

def block : HandlerLabel A → ServerProgram A (Option (HandlerLabel A)) :=
  handlerBlock new round

end CommandHandler

end BsdSockets
