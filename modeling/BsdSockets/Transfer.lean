import BsdSockets.Socket

/-!
# Sending and receiving

Model of `Socket::send`, `Socket::receive` and `Socket::blockingReceive`.  A
buffer to send from is the bytes behind the pointer; a length beyond them reads
memory that nothing backs.  Of a buffer to receive into only the bytes that the
kernel wrote are kept: the rest of it is indeterminate, and a `std::string` that
is built from it must not go beyond them.

A `::send` to a peer that is gone fails with `EPIPE`, and unless its flags have
`MSG_NOSIGNAL` the kernel sends `SIGPIPE` as well.
-/

namespace BsdSockets

open Resumption

/-- `EPIPE`: the peer of the connection is gone. -/
def epipe : Int := 32

/-- The flags of a `::send` have `MSG_NOSIGNAL`, 0x4000. -/
def hasNosignal (flags : Int) : Bool :=
  (BitVec.ofInt 32 flags).getLsbD 14

/-- The system calls that move bytes. -/
inductive TransferCall where
  | send (fd : Int) (buffer : List UInt8) (flags : Int)
  | recv (fd : Int) (length : Nat) (flags : Int)
  | read (fd : Int) (length : Nat)
deriving DecidableEq

/-- What a call gives back: its result, the `errno` of a failure, and the bytes
that it wrote to the start of the caller's buffer. -/
structure TransferReply where
  result : Int
  errno : Int
  written : List UInt8
deriving DecidableEq

/-- A program that moves bytes. -/
abbrev TransferProgram := Prog TransferCall TransferReply Abrupt

namespace TransferCall

/-- The descriptor of the call. -/
def fd : TransferCall → Int
  | send fd _ _ => fd
  | recv fd _ _ => fd
  | read fd _ => fd

/-- The replies that a kernel may give: a failure, or a count that is no larger
than the length asked for, with as many bytes where bytes are received. -/
def Possible : TransferCall → TransferReply → Prop
  | send _ buffer _, reply =>
      reply.result = -1 ∨
        (0 ≤ reply.result ∧ reply.result ≤ buffer.length)
  | recv _ length _, reply =>
      reply.result = -1 ∨
        (reply.result = reply.written.length ∧
          reply.written.length ≤ length)
  | read _ length, reply =>
      reply.result = -1 ∨
        (reply.result = reply.written.length ∧
          reply.written.length ≤ length)

/-- The kernel answers with a `SIGPIPE` besides the failure. -/
def raisesSigpipe : TransferCall → TransferReply → Bool
  | send _ _ flags, reply =>
      reply.result = -1 && reply.errno = epipe && !hasNosignal flags
  | recv _ _ _, _ => false
  | read _ _, _ => false

/-- The signal comes with `EPIPE` only. -/
theorem epipe_of_raisesSigpipe
    {call : TransferCall} {reply : TransferReply}
    (h : call.raisesSigpipe reply = true) :
    reply.result = -1 ∧ reply.errno = epipe := by
  cases call with
  | send fd buffer flags =>
      simp only [raisesSigpipe, Bool.and_eq_true, decide_eq_true_eq] at h
      exact h.1
  | recv fd length flags =>
      cases h
  | read fd length =>
      cases h

end TransferCall

/-- One decision of the environment: whether the call fails, and with which
`errno`, how many bytes are taken, and which bytes have arrived. -/
structure TransferChoice where
  errno : Option Int
  count : Nat
  arrived : List UInt8

namespace TransferChoice

/-- A receiving call that succeeds. -/
def receives (self : TransferChoice) (length : Nat) : TransferReply :=
  ⟨(self.arrived.take length).length, 0, self.arrived.take length⟩

/-- The answer of the kernel on an open descriptor; the signal that may come with
it is not part of the answer. -/
def answer (self : TransferChoice) (call : TransferCall) : TransferReply :=
  match self.errno with
  | some e => ⟨-1, e, []⟩
  | none =>
      match call with
      | .send _ buffer _ => ⟨min self.count buffer.length, 0, []⟩
      | .recv _ length _ => self.receives length
      | .read _ length => self.receives length

/-- An answer is a failure only by the decision of the environment. -/
theorem errno_of_failed
    (self : TransferChoice) (call : TransferCall)
    (h : (self.answer call).result = -1) :
    self.errno = some (self.answer call).errno := by
  cases herrno : self.errno with
  | some e =>
      simp only [answer, herrno]
  | none =>
      cases call with
      | send fd buffer flags =>
          simp only [answer, herrno] at h
          omega
      | recv fd length flags =>
          simp only [answer, herrno, receives] at h
          omega
      | read fd length =>
          simp only [answer, herrno, receives] at h
          omega

theorem answer_possible
    (self : TransferChoice) (call : TransferCall) :
    call.Possible (self.answer call) := by
  cases herrno : self.errno with
  | some e =>
      have hreply : self.answer call = ⟨-1, e, []⟩ := by
        simp only [answer, herrno]
      cases call <;> exact Or.inl (by rw [hreply])
  | none =>
      cases call with
      | send fd buffer flags =>
          refine Or.inr ?_
          simp only [answer, herrno]
          omega
      | recv fd length flags =>
          refine Or.inr ?_
          simp only [answer, herrno, receives]
          exact ⟨trivial, List.length_take_le _ _⟩
      | read fd length =>
          refine Or.inr ?_
          simp only [answer, herrno, receives]
          exact ⟨trivial, List.length_take_le _ _⟩

end TransferChoice

namespace Socket

variable {A : Type}

/-- Return the result of a call unless it is -1. -/
def checkedTransfer (call : TransferCall) : TransferProgram TransferReply := do
  let reply ← Prog.perform call
  if -1 ≠ reply.result then return reply
  else Prog.throw (.throws (.systemError reply.errno ""))

def send
    (self : Socket A) (buffer : List UInt8) (length : Nat) (flags : Int) :
    TransferProgram Int :=
  if length > buffer.length then Prog.throw .undefined
  else do
    let reply ← checkedTransfer
      (.send self.lowLevelSocket (buffer.take length) flags)
    return reply.result

def receive
    (self : Socket A) (length : Nat) (flags : Int) :
    TransferProgram TransferReply :=
  checkedTransfer (.recv self.lowLevelSocket length flags)

def blockingReceive
    (self : Socket A) (length : Nat) : TransferProgram TransferReply :=
  checkedTransfer (.read self.lowLevelSocket length)

end Socket

section Strings

/-- The bytes of a literal. -/
def literal (text : String) : CppString :=
  text.toUTF8.data.toList

/-- `c_str()`: the characters with a NUL behind them. -/
def cStr (message : CppString) : List UInt8 := message ++ [0]

/-- The constructor `std::string(buffer, length)` on a buffer of which only the
first bytes were written. -/
def stringOf (written : List UInt8) (length : Int) : Outcome CppString :=
  if length > written.length then .error .undefined
  else .ok (written.take length.toNat)

/-- `find`: where the pattern begins for the first time. -/
def find (pattern : CppString) : CppString → Option Nat
  | [] => if pattern = [] then some 0 else none
  | c :: rest =>
      if pattern <+: c :: rest then some 0
      else (find pattern rest).map (· + 1)

theorem find_eq_zero_iff
    (pattern text : CppString) :
    find pattern text = some 0 ↔ pattern <+: text := by
  cases text with
  | nil =>
      rw [find, List.prefix_nil]
      split <;> simp_all
  | cons c rest =>
      rw [find]
      split
      · simp_all
      · constructor
        · intro hfound
          rw [Option.map_eq_some_iff] at hfound
          obtain ⟨position, _, hzero⟩ := hfound
          cases hzero
        · intro hprefix
          contradiction

theorem stringOf_written
    (written : List UInt8) :
    stringOf written written.length = .ok written := by
  simp [stringOf]

end Strings

end BsdSockets
