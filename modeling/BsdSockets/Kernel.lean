import BsdSockets.LowLevelAddress
import BsdSockets.Lib.Resumption

/-!
# The kernel behind the sockets

The system calls of the library, and what the kernel may answer.

The library is written against an environment that decides three things: does
a call succeed and with which `errno` does it fail, which number does a new
descriptor get, and which peer does `accept` report.  A `Choice` is one such
decision.  Given the choice, `Kernel.answer` is determined; a statement about
every sequence of choices is a statement about every outcome of the system
calls, including every reuse of descriptor numbers.

`Process` runs a call of the library alone and keeps the log of its calls.
-/

namespace BsdSockets

open Memory
open Resumption

section Constants

def solSocket : Int := 1
def soReuseaddr : Int := 2
def soReuseport : Int := 15

def ebadf : Int := 9
def einval : Int := 22

end Constants

/-- What `lowLevelAccept` returns and the lambda of `acceptInNewThread` captures. -/
structure AcceptedSocketData (A : Type) where
  lowLevelSocket : Int
  address : A
deriving DecidableEq

/-- The calls that leave the library.  `readErrno` reads the thread's `errno`,
and `startThread` is the constructor of `std::thread` with the captured data. -/
inductive Call (A : Type) where
  | socket (domain type protocol : Int)
  | setsockopt (fd level name value : Int)
  | bind (fd : Int) (sockAddr : List UInt8) (len : Nat)
  | listen (fd backlog : Int)
  | connect (fd : Int) (sockAddr : List UInt8) (len : Nat)
  | accept (fd : Int) (buffer : List UInt8) (len : Nat)
  | close (fd : Int)
  | readErrno
  | startThread (data : AcceptedSocketData A)
deriving DecidableEq

/-- What a call gives back.  `errno` is meaningful when the call failed;
`memory`, `len` and `connection` when it was an `accept`: the bytes from the
start of the buffer as far as they were written, the length stored back, and
the number of the connection. -/
structure Reply where
  result : Int
  errno : Int
  memory : List UInt8
  len : Nat
  connection : Nat
deriving DecidableEq

namespace Reply

def failed (e : Int) : Reply := ⟨-1, e, [], 0, 0⟩
def succeeded (result : Int) : Reply := ⟨result, 0, [], 0, 0⟩

/-- The call reported an error. -/
def Failed (self : Reply) : Prop := self.result = -1

instance (self : Reply) : Decidable self.Failed :=
  inferInstanceAs (Decidable (_ = _))

@[simp] theorem failed_Failed (e : Int) : (failed e).Failed := rfl

theorem succeeded_not_Failed
    {result : Int}
    (h : 0 ≤ result) :
    ¬ (succeeded result).Failed := by
  intro hfailed
  have hresult : result = -1 := hfailed
  omega

end Reply

/-- One decision of the environment. -/
structure Choice where
  errno : Option Int
  descriptor : Nat
  peer : List UInt8
deriving DecidableEq

/-- The descriptors open in the process, and how many connections were accepted. -/
structure Kernel where
  openFds : Finset Int
  accepted : Nat
  valid : ∀ fd ∈ openFds, 0 ≤ fd

/-- What `accept` is about to do, before it looks at the length it was given. -/
inductive AcceptOutcome where
  | fails (e : Int)
  | connects (peer : List UInt8)
deriving DecidableEq

namespace Kernel

section Descriptors

theorem minus_one_closed
    (self : Kernel) :
    -1 ∉ self.openFds := by
  intro hopen
  have hvalid := self.valid _ hopen
  omega

/-- The number a new descriptor gets: the chosen one, unless it is in use. -/
def freshFd (self : Kernel) (descriptor : Nat) : Int :=
  if (descriptor : Int) ∈ self.openFds then
    ((self.openFds.sup Int.toNat + 1 : Nat) : Int)
  else descriptor

theorem freshFd_nonneg
    (self : Kernel) (descriptor : Nat) :
    0 ≤ self.freshFd descriptor := by
  rw [freshFd]
  split <;> omega

theorem freshFd_not_mem
    (self : Kernel) (descriptor : Nat) :
    self.freshFd descriptor ∉ self.openFds := by
  rw [freshFd]
  split
  · intro hopen
    have hle := Finset.le_sup (f := Int.toNat) hopen
    rw [Int.toNat_natCast] at hle
    omega
  · assumption

/-- The table with one more descriptor. -/
def openFd (self : Kernel) (fd : Int) (h : 0 ≤ fd) : Kernel where
  openFds := insert fd self.openFds
  accepted := self.accepted
  valid := by
    intro other hother
    rcases Finset.mem_insert.mp hother with rfl | hold
    · exact h
    · exact self.valid other hold

/-- The table without a descriptor. -/
def closeFd (self : Kernel) (fd : Int) : Kernel where
  openFds := self.openFds.erase fd
  accepted := self.accepted
  valid := fun other hother => self.valid other (Finset.mem_of_mem_erase hother)

/-- The table after an `accept` that made a connection. -/
def acceptFd (self : Kernel) (fd : Int) (h : 0 ≤ fd) : Kernel :=
  { self.openFd fd h with accepted := self.accepted + 1 }

end Descriptors

section Answers

variable {A : Type}

/-- A call on a descriptor that has no effect on the table. -/
def onDescriptor (self : Kernel) (choice : Choice) (fd : Int) : Reply :=
  if fd ∈ self.openFds then
    match choice.errno with
    | some e => .failed e
    | none => .succeeded 0
  else .failed ebadf

def acceptOutcome
    (self : Kernel) (choice : Choice) (fd : Int) : AcceptOutcome :=
  if fd ∈ self.openFds then
    match choice.errno with
    | some e => .fails e
    | none => .connects choice.peer
  else .fails ebadf

/-- What `accept` copies out: at most `len` bytes of the peer's `sockaddr`, over
the start of the buffer, also where the buffer is shorter. -/
def written (peer buffer : List UInt8) (len : Nat) : List UInt8 :=
  peer.take len ++ buffer.drop (peer.take len).length

/-- The reply of a failed `accept`: buffer and length are untouched. -/
def acceptFailed (e : Int) (buffer : List UInt8) (len : Nat) : Reply :=
  ⟨-1, e, buffer, len, 0⟩

/-- The answer of the kernel to one call.  `accept` takes the length for an
`int` and rejects it when that is negative.  `close` gives the descriptor up
also when it reports an error. -/
def answer (self : Kernel) (choice : Choice) : Call A → Reply × Kernel
  | .socket _ _ _ =>
      match choice.errno with
      | some e => (.failed e, self)
      | none =>
          (.succeeded (self.freshFd choice.descriptor),
            self.openFd _ (self.freshFd_nonneg choice.descriptor))
  | .setsockopt fd _ _ _ => (self.onDescriptor choice fd, self)
  | .bind fd _ _ => (self.onDescriptor choice fd, self)
  | .listen fd _ => (self.onDescriptor choice fd, self)
  | .connect fd _ _ => (self.onDescriptor choice fd, self)
  | .accept fd buffer len =>
      match self.acceptOutcome choice fd with
      | .fails e => (acceptFailed e buffer len, self)
      | .connects peer =>
          if 2 ^ 31 ≤ len then (acceptFailed einval buffer len, self)
          else
            (⟨self.freshFd choice.descriptor, 0, written peer buffer len,
                peer.length, self.accepted⟩,
              self.acceptFd _ (self.freshFd_nonneg choice.descriptor))
  | .close fd => (self.onDescriptor choice fd, self.closeFd fd)
  | .readErrno => (⟨0, choice.errno.getD 0, [], 0, 0⟩, self)
  | .startThread _ =>
      match choice.errno with
      | some e => (.failed e, self)
      | none => (.succeeded 0, self)

/-- A `::socket` that succeeds opens a descriptor that was not in use. -/
theorem answer_socket_succeeded
    (self : Kernel) {choice : Choice}
    (h : choice.errno = none)
    (domain type protocol : Int) :
    ∃ fd kernel,
      self.answer choice (.socket domain type protocol : Call A) =
        (.succeeded fd, kernel) ∧
      0 ≤ fd ∧ fd ∉ self.openFds ∧
      kernel.openFds = insert fd self.openFds ∧
      kernel.accepted = self.accepted := by
  refine ⟨_, self.openFd _ (self.freshFd_nonneg choice.descriptor), ?_,
    self.freshFd_nonneg choice.descriptor,
    self.freshFd_not_mem choice.descriptor, rfl, rfl⟩
  simp only [answer, h]

theorem answer_socket_failed
    (self : Kernel) {choice : Choice} {e : Int}
    (h : choice.errno = some e)
    (domain type protocol : Int) :
    self.answer choice (.socket domain type protocol : Call A) =
      (.failed e, self) := by
  simp only [answer, h]

end Answers

end Kernel

/-- A program of the library. -/
abbrev Program (A : Type) := Prog (Call A) Reply Abrupt

/-- A process that runs one call of the library: its kernel, the `errno` of its
thread, the decisions to come, and the log of the calls made. -/
structure Process (A : Type) where
  kernel : Kernel
  errno : Int
  script : Nat → Choice
  calls : Nat
  trace : List (Call A × Reply)

namespace Process

variable {A α : Type}

/-- A thread that is about to make its first call. -/
def start
    (kernel : Kernel) (errno : Int) (script : Nat → Choice) : Process A where
  kernel := kernel
  errno := errno
  script := script
  calls := 0
  trace := []

/-- The choice that decides the next system call. -/
def choice (self : Process A) : Choice :=
  self.script self.calls

/-- The process after a system call. -/
def after
    (self : Process A) (call : Call A) (reply : Reply) (kernel : Kernel) :
    Process A where
  kernel := kernel
  errno := if reply.Failed then reply.errno else self.errno
  script := self.script
  calls := self.calls + 1
  trace := self.trace ++ [(call, reply)]

/-- The answer to one call.  Reading `errno` is no system call. -/
def answer (self : Process A) : Call A → Reply × Process A
  | .readErrno => (⟨0, self.errno, [], 0, 0⟩, self)
  | call =>
      ((self.kernel.answer self.choice call).1,
        self.after call (self.kernel.answer self.choice call).1
          (self.kernel.answer self.choice call).2)

/-- Run a program to its end. -/
def run (program : Program A α) (self : Process A) :
    Outcome α × Process A :=
  Prog.run answer program self

theorem answer_readErrno
    (self : Process A) :
    self.answer .readErrno = (⟨0, self.errno, [], 0, 0⟩, self) := by
  rfl

theorem answer_call
    (self : Process A) {call : Call A}
    (h : call ≠ .readErrno) :
    self.answer call =
      ((self.kernel.answer self.choice call).1,
        self.after call (self.kernel.answer self.choice call).1
          (self.kernel.answer self.choice call).2) := by
  cases call <;> first | rfl | exact absurd rfl h

@[simp] theorem run_ret
    (self : Process A) (a : α) :
    self.run (.ret a) = (.ok a, self) := by
  rfl

@[simp] theorem run_throw
    (self : Process A) (e : Abrupt) :
    self.run (.throw e : Program A α) = (.error e, self) := by
  rfl

@[simp] theorem run_call
    (self : Process A) (call : Call A) (k : Reply → Program A α) :
    self.run (.call call k) =
      (self.answer call).2.run (k (self.answer call).1) := by
  rfl

end Process

end BsdSockets
