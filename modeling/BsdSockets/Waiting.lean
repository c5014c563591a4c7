import BsdSockets.Socket

/-!
# Waiting on a socket

Model of `Socket::select` and `Socket::poll`.  An `fd_set` is the set of the
descriptors whose bit is set, and the two macros work only on descriptors that
have a bit.  `int`, `short` and the fields of a `timeval` are machine integers,
with the truncating division and remainder of C.

`Wait` is what a call asks of the kernel, in the terms of the manual pages:
`select` waits without bound on a null timeout and rejects a malformed one,
`poll` returns at once on 0 and waits without bound on a negative number.
-/

namespace BsdSockets

open Resumption

section Sets

/-- `FD_SETSIZE`. -/
def fdSetsize : Nat := 1024

/-- An `fd_set`. -/
abbrev FdSet := Finset (Fin fdSetsize)

/-- The descriptor has a bit in the sets. -/
def Selectable (fd : Int) : Prop :=
  0 ≤ fd ∧ fd < fdSetsize

instance (fd : Int) : Decidable (Selectable fd) :=
  inferInstanceAs (Decidable (_ ∧ _))

/-- The bit of a descriptor; any other index leaves the set. -/
def fdIndex (fd : Int) : Outcome (Fin fdSetsize) :=
  if h : Selectable fd then
    .ok ⟨fd.toNat, (Int.toNat_lt h.1).mpr h.2⟩
  else .error .undefined

/-- `FD_ZERO`. -/
def fdZero : FdSet := ∅

/-- `FD_SET`. -/
def fdSet (fd : Int) (set : FdSet) : Outcome FdSet := do
  let index ← fdIndex fd
  return insert index set

/-- `FD_ISSET`. -/
def fdIsset (fd : Int) (set : FdSet) : Outcome Bool := do
  let index ← fdIndex fd
  return decide (index ∈ set)

theorem fdIndex_selectable
    {fd : Int}
    (h : Selectable fd) :
    ∃ index, fdIndex fd = .ok index ∧ (index.val : Int) = fd := by
  refine ⟨⟨fd.toNat, (Int.toNat_lt h.1).mpr h.2⟩, dif_pos h, ?_⟩
  exact Int.toNat_of_nonneg h.1

theorem fdIndex_outside
    {fd : Int}
    (h : ¬ Selectable fd) :
    fdIndex fd = .error .undefined :=
  dif_neg h

end Sets

section Timeouts

/-- A `timeval`, with the 64-bit fields of the platform. -/
structure Timeval where
  tvSec : Int64
  tvUsec : Int64
deriving DecidableEq

namespace Timeval

/-- The kernel accepts the value. -/
def WellFormed (self : Timeval) : Prop :=
  0 ≤ self.tvSec.toInt ∧ 0 ≤ self.tvUsec.toInt ∧
    self.tvUsec.toInt < 1000000

instance (self : Timeval) : Decidable self.WellFormed :=
  inferInstanceAs (Decidable (_ ∧ _))

/-- The time that the value denotes. -/
def microseconds (self : Timeval) : Int :=
  1000000 * self.tvSec.toInt + self.tvUsec.toInt

end Timeval

/-- How long a call asks the kernel to wait. -/
inductive Wait where
  | atOnce
  | unbounded
  | atMost (microseconds : Int)
  | rejected
deriving DecidableEq

end Timeouts

/-- The two system calls. -/
inductive WaitCall where
  | select (nfds : Int) (read write error : FdSet) (timeout : Option Timeval)
  | poll (fd : Int) (events : Int16) (timeoutMs : Int32)

namespace WaitCall

/-- What the call asks of the kernel. -/
def wait : WaitCall → Wait
  | select _ _ _ _ none => .unbounded
  | select _ _ _ _ (some timeout) =>
      if timeout.WellFormed then
        if timeout.microseconds = 0 then .atOnce
        else .atMost timeout.microseconds
      else .rejected
  | poll _ _ timeoutMs =>
      if timeoutMs = 0 then .atOnce
      else if timeoutMs < 0 then .unbounded
      else .atMost (1000 * timeoutMs.toInt)

/-- The `timeval` behind the last argument of a `select`. -/
def timeval : WaitCall → Option Timeval
  | select _ _ _ _ timeout => timeout
  | poll _ _ _ => none

end WaitCall

/-- What a call gives back: its result, the `errno` of a failure, and what it
wrote into the caller's sets or `revents`. -/
structure WaitReply where
  result : Int
  errno : Int
  read : FdSet
  write : FdSet
  error : FdSet
  revents : Int16

/-- One decision of the environment: whether the call fails, and which
conditions hold of which descriptor. -/
structure WaitChoice where
  errno : Option Int
  readable : Int → Bool
  writable : Int → Bool
  exceptional : Int → Bool
  revents : Int16

namespace WaitChoice

/-- The requested descriptors below `nfds` of which a condition holds. -/
def reported
    (nfds : Int) (condition : Int → Bool) (requested : FdSet) : FdSet :=
  requested.filter (fun fd => (fd.val : Int) < nfds ∧ condition fd.val = true)

/-- A `select` that fails leaves the sets as they are. -/
def selectFailed (e : Int) (read write error : FdSet) : WaitReply :=
  ⟨-1, e, read, write, error, 0⟩

/-- The answer of the kernel. -/
def answer (self : WaitChoice) : WaitCall → WaitReply
  | .select nfds read write error timeout =>
      if nfds < 0 ∨ ∃ value ∈ timeout, ¬ value.WellFormed then
        selectFailed einval read write error
      else
        match self.errno with
        | some e => selectFailed e read write error
        | none =>
            let read' := reported nfds self.readable read
            let write' := reported nfds self.writable write
            let error' := reported nfds self.exceptional error
            ⟨((read'.card + write'.card + error'.card : Nat) : Int), 0,
              read', write', error', 0⟩
  | .poll _ _ _ =>
      match self.errno with
      | some e => ⟨-1, e, ∅, ∅, ∅, 0⟩
      | none =>
          ⟨if self.revents = 0 then 0 else 1, 0, ∅, ∅, ∅, self.revents⟩

end WaitChoice

/-- A program that waits. -/
abbrev WaitProgram := Prog WaitCall WaitReply Abrupt

namespace WaitChoice

variable {α : Type}

/-- Run a program that waits against one decision. -/
def run (self : WaitChoice) (program : WaitProgram α) : Outcome α :=
  (Prog.run (fun choice call => (answer choice call, choice)) program self).1

/-- The system calls it makes. -/
def calls (self : WaitChoice) (program : WaitProgram α) : List WaitCall :=
  (Prog.log (fun choice call => (answer choice call, choice)) program
    self).map Prod.fst

@[simp] theorem run_throw
    (self : WaitChoice) (e : Abrupt) :
    self.run (.throw e : WaitProgram α) = .error e := by
  rfl

@[simp] theorem run_call
    (self : WaitChoice) (call : WaitCall) (k : WaitReply → WaitProgram α) :
    self.run (.call call k) = self.run (k (self.answer call)) := by
  rfl

@[simp] theorem calls_throw
    (self : WaitChoice) (e : Abrupt) :
    self.calls (.throw e : WaitProgram α) = [] := by
  rw [calls, Prog.log_throw, List.map_nil]

@[simp] theorem calls_call
    (self : WaitChoice) (call : WaitCall) (k : WaitReply → WaitProgram α) :
    self.calls (.call call k) =
      call :: self.calls (k (self.answer call)) := by
  rw [calls, Prog.log_call, List.map_cons]
  rfl

@[simp] theorem run_lift
    (self : WaitChoice) (outcome : Outcome α) :
    self.run (Prog.lift outcome) = outcome := by
  cases outcome <;> rfl

@[simp] theorem calls_lift
    (self : WaitChoice) (outcome : Outcome α) :
    self.calls (Prog.lift outcome) = [] := by
  cases outcome with
  | ok a =>
      rw [calls, Prog.lift, Prog.log_ret, List.map_nil]
  | error e =>
      exact calls_throw self e

end WaitChoice

/-- The result of `Socket::select`. -/
structure SelectResult where
  checkedRead : Bool
  checkedWrite : Bool
  checkedError : Bool
  readyToRead : Bool
  readyToWrite : Bool
  readyWithError : Bool
  ready : Bool
  any : ready = (readyToRead || readyToWrite || readyWithError)

/-- The constructor. -/
def SelectResult.new
    (checkedRead checkedWrite checkedError : Bool)
    (readyToRead readyToWrite readyWithError : Bool) : SelectResult where
  checkedRead := checkedRead
  checkedWrite := checkedWrite
  checkedError := checkedError
  readyToRead := readyToRead
  readyToWrite := readyToWrite
  readyWithError := readyWithError
  ready := readyToRead || readyToWrite || readyWithError
  any := rfl

namespace Socket

variable {A : Type}

section Definitions

/-- The `timeval` that `select` passes; the null pointer stands for 0. -/
def selectTimeout (timeoutMs : Int32) : Option Timeval :=
  if 0 = timeoutMs then none
  else some {
    tvSec := (timeoutMs / 1000).toInt64
    tvUsec := (1000 * (timeoutMs % 1000)).toInt64 }

/-- One of the three sets, zeroed and filled. -/
def requestedSet (lowLevelSocket : Int) (check : Bool) : Outcome FdSet :=
  if check then fdSet lowLevelSocket fdZero else .ok fdZero

/-- `lowLevelSocket + 1`, which has no value for the largest `int`. -/
def nextDescriptor (lowLevelSocket : Int) : Outcome Int :=
  if lowLevelSocket = 2 ^ 31 - 1 then .error .undefined
  else .ok (lowLevelSocket + 1)

/-- What `select` does after the call. -/
def selectResult
    (lowLevelSocket : Int) (checkRead checkWrite checkError : Bool)
    (reply : WaitReply) : Outcome SelectResult :=
  if -1 = reply.result then raise (.systemError reply.errno "")
  else do
    let readyToRead ← fdIsset lowLevelSocket reply.read
    let readyToWrite ← fdIsset lowLevelSocket reply.write
    let readyWithError ← fdIsset lowLevelSocket reply.error
    return .new checkRead checkWrite checkError
      readyToRead readyToWrite readyWithError

def select
    (self : Socket A) (timeoutMs : Int32)
    (checkRead checkWrite checkError : Bool) :
    WaitProgram SelectResult := do
  let read ← Prog.lift (requestedSet self.lowLevelSocket checkRead)
  let write ← Prog.lift (requestedSet self.lowLevelSocket checkWrite)
  let error ← Prog.lift (requestedSet self.lowLevelSocket checkError)
  let nfds ← Prog.lift (nextDescriptor self.lowLevelSocket)
  let reply ← Prog.perform
    (.select nfds read write error (selectTimeout timeoutMs))
  Prog.lift
    (selectResult self.lowLevelSocket checkRead checkWrite checkError reply)

def poll
    (self : Socket A) (timeoutMs : Int32) (eventsToLookFor : Int16) :
    WaitProgram Int16 := do
  let reply ← Prog.perform
    (.poll self.lowLevelSocket eventsToLookFor timeoutMs)
  if -1 = reply.result then
    Prog.throw (.throws (.systemError reply.errno ""))
  else return reply.revents

end Definitions

section Steps

/-- The set of one descriptor, or of none. -/
def only (index : Fin fdSetsize) (check : Bool) : FdSet :=
  if check then {index} else ∅

theorem requestedSet_selectable
    {fd : Int} {index : Fin fdSetsize}
    (h : fdIndex fd = .ok index) (check : Bool) :
    requestedSet fd check = .ok (only index check) := by
  cases check with
  | false =>
      rfl
  | true =>
      simp only [requestedSet, fdSet, h, only, if_true]
      rfl

/-- A check on a descriptor without a bit writes outside the set. -/
theorem requestedSet_outside
    {fd : Int}
    (h : ¬ Selectable fd) (check : Bool) :
    requestedSet fd check =
      if check then .error .undefined else .ok ∅ := by
  cases check with
  | false =>
      rfl
  | true =>
      simp only [requestedSet, fdSet, fdIndex_outside h, if_true]
      rfl

theorem nextDescriptor_selectable
    {fd : Int}
    (h : Selectable fd) :
    nextDescriptor fd = .ok (fd + 1) := by
  have hsmall : fd < 1024 := h.2
  refine if_neg ?_
  omega

/-- `select` on a descriptor with a bit makes its one call. -/
theorem select_selectable
    (self : Socket A) {index : Fin fdSetsize}
    (hselectable : Selectable self.lowLevelSocket)
    (hindex : fdIndex self.lowLevelSocket = .ok index)
    (timeoutMs : Int32) (checkRead checkWrite checkError : Bool) :
    self.select timeoutMs checkRead checkWrite checkError =
      .call
        (.select (self.lowLevelSocket + 1) (only index checkRead)
          (only index checkWrite) (only index checkError)
          (selectTimeout timeoutMs))
        (fun reply => Prog.lift
          (selectResult self.lowLevelSocket checkRead checkWrite checkError
            reply)) := by
  simp only [select, requestedSet_selectable hindex,
    nextDescriptor_selectable hselectable, Prog.lift, Prog.ret_bind,
    Prog.perform_bind]

/-- A call that checks nothing makes its call with three empty sets. -/
theorem select_unchecked
    (self : Socket A)
    (h : self.lowLevelSocket ≠ 2 ^ 31 - 1)
    (timeoutMs : Int32) :
    self.select timeoutMs false false false =
      .call
        (.select (self.lowLevelSocket + 1) ∅ ∅ ∅ (selectTimeout timeoutMs))
        (fun reply => Prog.lift
          (selectResult self.lowLevelSocket false false false reply)) := by
  simp only [select, nextDescriptor, if_neg h]
  rfl

/-- On a descriptor without a bit, nothing else is defined. -/
theorem select_outside
    (self : Socket A)
    (h : ¬ Selectable self.lowLevelSocket)
    (timeoutMs : Int32) {checkRead checkWrite checkError : Bool}
    (hchecked :
      ¬ ((checkRead = false ∧ checkWrite = false ∧ checkError = false) ∧
        self.lowLevelSocket ≠ 2 ^ 31 - 1)) :
    self.select timeoutMs checkRead checkWrite checkError =
      .throw .undefined := by
  simp only [select, requestedSet_outside h]
  cases checkRead with
  | true =>
      rfl
  | false =>
      cases checkWrite with
      | true =>
          rfl
      | false =>
          cases checkError with
          | true =>
              rfl
          | false =>
              have hlast : self.lowLevelSocket = 2 ^ 31 - 1 := by
                by_contra hne
                exact hchecked ⟨⟨rfl, rfl, rfl⟩, hne⟩
              simp only [nextDescriptor, if_pos hlast]
              rfl

end Steps

end Socket

end BsdSockets
