import BsdSockets.Kernel

/-!
# Sockets

Model of the parts of `Socket.cpp`, `ServerSocket.cpp` and `ClientSocket.cpp`
that open, accept, hand over and close descriptors.  Every function is a
program of system calls; `A` stands for the classes derived from `Address`.

A `shared_ptr` that goes out of scope while an exception passes drops the last
reference, so `open` is written with the destructor as its unwinding cleanup.
What a function reads before anything has written it is an argument of type
`Indeterminate`.
-/

namespace BsdSockets

open Memory
open Resumption

variable {A : Type}

section Errors

/-- `throw std::system_error(errno, std::system_category())`. -/
def throwErrno {α : Type} : Program A α := do
  let reply ← Prog.perform .readErrno
  Prog.throw (.throws (.systemError reply.errno ""))

/-- A system call whose failure is thrown. -/
def checkedCall (call : Call A) : Program A Unit := do
  let reply ← Prog.perform call
  if -1 = reply.result then throwErrno else return ()

end Errors

structure Socket (A : Type) where
  lowLevelSocket : Int
  address : A
deriving DecidableEq

namespace Socket

/-- The `::socket` call for an address. -/
def socketCall (cls : AddressClass A) (theAddress : A) :
    Outcome (Call A) := do
  let domain ← socketDomainToLowLevel (cls.getSocketDomain theAddress)
  let type ← socketTypeToLowLevel (cls.getSocketType theAddress)
  return .socket domain type (cls.getProtocol theAddress)

/-- The constructor `Socket(theAddress)`; the descriptor is not checked. -/
def newFor (cls : AddressClass A) (theAddress : A) :
    Program A (Socket A) := do
  let call ← Prog.lift (socketCall cls theAddress)
  let reply ← Prog.perform call
  return ⟨reply.result, theAddress⟩

/-- The constructor `Socket(theAddress, existingLowLevelSocket)`. -/
def newExisting (theAddress : A) (existingLowLevelSocket : Int) :
    Program A (Socket A) :=
  if -1 = existingLowLevelSocket then throwErrno
  else return ⟨existingLowLevelSocket, theAddress⟩

def create (theAddress : A) (existingLowLevelSocket : Int) :
    Program A (Socket A) :=
  newExisting theAddress existingLowLevelSocket

/-- `~Socket`. -/
def destructor (self : Socket A) : Program A Unit :=
  if -1 = self.lowLevelSocket then return ()
  else do
    let _ ← Prog.perform (.close self.lowLevelSocket)
    return ()

/-- `setSocketOption` with an `int` value. -/
def setSocketOption (self : Socket A) (level name value : Int) :
    Program A Unit :=
  checkedCall (.setsockopt self.lowLevelSocket level name value)

end Socket

/-- Memory read before it is written: the local variable `len` of
`lowLevelAccept`, and what lies behind its temporary address. -/
structure Indeterminate where
  len : Nat
  beyond : List UInt8

namespace ServerSocket

def create (cls : AddressClass A) (theAddress : A) :
    Program A (Socket A) :=
  Socket.newFor cls theAddress

def bind (cls : AddressClass A) (self : Socket A) : Program A Unit :=
  let lowLevelAddress := cls.getLowLevelAddress self.address
  checkedCall
    (.bind self.lowLevelSocket
      lowLevelAddress.getSockAddr lowLevelAddress.getSockAddrLen)

def listen (self : Socket A) (backlog : Int) : Program A Unit :=
  checkedCall (.listen self.lowLevelSocket backlog)

/-- `open`; an exception of a step drops the only reference to the socket. -/
def «open»
    (cls : AddressClass A) (theAddress : A)
    (backlog : Int) (reuse : Bool) : Program A (Socket A) := do
  let socket ← create cls theAddress
  Prog.onThrow
    (do
      if reuse then
        socket.setSocketOption solSocket soReuseaddr 1
        socket.setSocketOption solSocket soReuseport 1
      bind cls socket
      listen socket backlog
      return socket)
    socket.destructor

/-- The family of an address that was left unspecified is the server's. -/
def assumeFamily
    (cls : AddressClass A) (serverAddress : A)
    (sockAddr : List UInt8) : List UInt8 :=
  if afUnspec = saFamily sockAddr then
    setSaFamily sockAddr
      (saFamily (cls.getLowLevelAddress serverAddress).getSockAddr)
  else sockAddr

/-- The exception for a reported length beyond the temporary. -/
def overWrite : Exception :=
  .runtimeError
    "accept over-write the length of the sockaddr for the ServerSocket Address"

/-- `lowLevelAccept`.  The first branch is the kernel's write past the end of
the temporary, after which nothing is defined. -/
def lowLevelAccept
    (cls : AddressClass A) (serverLowLevelSocket : Int) (serverAddress : A)
    (memory : Indeterminate) : Program A (AcceptedSocketData A) := do
  let lowLevelAddress := cls.makeTempLowLevelAddress serverAddress
  let reply ← Prog.perform
    (.accept serverLowLevelSocket lowLevelAddress.getSockAddr memory.len)
  if reply.memory.length > lowLevelAddress.getSockAddr.length then
    Prog.throw .undefined
  else if reply.len > lowLevelAddress.getSockAddrLen then
    Prog.throw (.throws overWrite)
  else if -1 = reply.result then
    throwErrno
  else do
    let sockAddr := assumeFamily cls serverAddress reply.memory
    let address ← Prog.lift
      (cls.create serverAddress
        ⟨sockAddr, lowLevelAddress.getSockAddrLen⟩ memory.beyond)
    return ⟨reply.result, address⟩

def accept
    (cls : AddressClass A) (self : Socket A) (memory : Indeterminate) :
    Program A (Socket A) := do
  let data ← lowLevelAccept cls self.lowLevelSocket self.address memory
  Socket.create data.address data.lowLevelSocket

/-- What the started thread does before it calls `toCall`. -/
def handlerSocket (data : AcceptedSocketData A) : Program A (Socket A) :=
  Socket.create data.address data.lowLevelSocket

/-- `acceptInNewThread`; the constructor of `std::thread` may throw. -/
def acceptInNewThread
    (cls : AddressClass A) (self : Socket A) (memory : Indeterminate) :
    Program A Unit := do
  let data ← lowLevelAccept cls self.lowLevelSocket self.address memory
  let reply ← Prog.perform (.startThread data)
  if -1 = reply.result then
    Prog.throw (.throws (.systemError reply.errno ""))
  else return ()

end ServerSocket

namespace ClientSocket

def create (cls : AddressClass A) (theAddress : A) :
    Program A (Socket A) :=
  Socket.newFor cls theAddress

def connect (cls : AddressClass A) (self : Socket A) : Program A Unit :=
  let lowLevelAddress := cls.getLowLevelAddress self.address
  checkedCall
    (.connect self.lowLevelSocket
      lowLevelAddress.getSockAddr lowLevelAddress.getSockAddrLen)

def «open» (cls : AddressClass A) (theAddress : A) :
    Program A (Socket A) := do
  let socket ← create cls theAddress
  Prog.onThrow
    (do
      connect cls socket
      return socket)
    socket.destructor

end ClientSocket

section Runs

/-- `throwErrno` throws the thread's `errno`, whatever follows. -/
theorem run_throwErrno_bind
    (process : Process A) {α β : Type} (k : α → Program A β) :
    process.run (throwErrno >>= k) =
      (raise (.systemError process.errno ""), process) := by
  simp only [throwErrno, Prog.perform_bind, Prog.call_bind, Process.run_call,
    Process.answer_readErrno]
  rfl

/-- Every address has its `::socket` call. -/
theorem Socket.socketCall_total
    (cls : AddressClass A) (theAddress : A) :
    ∃ domain type protocol,
      Socket.socketCall cls theAddress =
        .ok (.socket domain type protocol) := by
  obtain ⟨domain, hdomain⟩ :=
    socketDomainToLowLevel_total (cls.getSocketDomain theAddress)
  obtain ⟨type, htype⟩ :=
    socketTypeToLowLevel_total (cls.getSocketType theAddress)
  refine ⟨domain, type, cls.getProtocol theAddress, ?_⟩
  simp only [Socket.socketCall, hdomain, htype, Bind.bind, Except.bind,
    Pure.pure, Except.pure]

end Runs

end BsdSockets
