import BsdSockets.Opening
import BsdSockets.Waiting

/-!
# The timeouts of select and poll

`poll` hands its argument on as it is; `select` encodes it as a `timeval`, by
truncating division and remainder, and as the null pointer for 0.

`selectTimeout_exact` computes the encoding of every other `int`: the product
never overflows, and the two fields add up to the argument.  What the two calls
ask of the kernel is then a matter of signs.
-/

namespace BsdSockets

open Resumption

namespace Socket

section Encoding

theorem selectTimeout_eq_none_iff
    (timeoutMs : Int32) :
    selectTimeout timeoutMs = none ↔ timeoutMs = 0 := by
  rw [selectTimeout]
  split
  · next h =>
      simp [h.symm]
  · next h =>
      simp only [reduceCtorEq, false_iff]
      exact fun heq => h heq.symm

/-- The seconds. -/
theorem tvSec_eq
    (timeoutMs : Int32) :
    (timeoutMs / 1000).toInt64.toInt = timeoutMs.toInt.tdiv 1000 := by
  rw [Int32.toInt_toInt64, Int32.toInt_div_of_ne_right _ _ (by decide)]
  rfl

/-- The microseconds; the remainder is small enough for the product. -/
theorem tvUsec_eq
    (timeoutMs : Int32) :
    (1000 * (timeoutMs % 1000)).toInt64.toInt =
      1000 * timeoutMs.toInt.tmod 1000 := by
  have hthousand : (1000 : Int32).toInt = 1000 := by
    decide
  have hupper := Int.tmod_lt_of_pos timeoutMs.toInt (b := 1000) (by omega)
  have hlower := Int.lt_tmod_of_pos timeoutMs.toInt (b := 1000) (by omega)
  rw [Int32.toInt_toInt64, Int32.toInt_mul, Int32.toInt_mod, hthousand]
  exact Int.bmod_eq_of_le (by omega) (by omega)

/-- The fields of the encoding are those of the exact quotient and remainder. -/
theorem selectTimeout_exact
    {timeoutMs : Int32} {timeout : Timeval}
    (h : selectTimeout timeoutMs = some timeout) :
    timeout.tvSec.toInt = timeoutMs.toInt.tdiv 1000 ∧
      timeout.tvUsec.toInt = 1000 * timeoutMs.toInt.tmod 1000 := by
  rw [selectTimeout] at h
  split at h
  · cases h
  · cases h
    exact ⟨tvSec_eq timeoutMs, tvUsec_eq timeoutMs⟩

/-- The encoding denotes the argument, whatever its sign. -/
theorem selectTimeout_microseconds
    {timeoutMs : Int32} {timeout : Timeval}
    (h : selectTimeout timeoutMs = some timeout) :
    timeout.microseconds = 1000 * timeoutMs.toInt := by
  obtain ⟨hsec, husec⟩ := selectTimeout_exact h
  have hsplit := Int.mul_tdiv_add_tmod timeoutMs.toInt 1000
  rw [Timeval.microseconds, hsec, husec]
  omega

/-- The remainder takes the sign of the argument. -/
theorem selectTimeout_wellFormed_iff
    {timeoutMs : Int32} {timeout : Timeval}
    (h : selectTimeout timeoutMs = some timeout) :
    timeout.WellFormed ↔ 0 ≤ timeoutMs.toInt := by
  obtain ⟨hsec, husec⟩ := selectTimeout_exact h
  have hsplit := Int.mul_tdiv_add_tmod timeoutMs.toInt 1000
  have hupper := Int.tmod_lt_of_pos timeoutMs.toInt (b := 1000) (by omega)
  rw [Timeval.WellFormed, hsec, husec]
  constructor
  · rintro ⟨hseconds, hmicroseconds, _⟩
    omega
  · intro hnonneg
    have hquotient : 0 ≤ timeoutMs.toInt.tdiv 1000 :=
      Int.tdiv_nonneg hnonneg (by omega)
    have hremainder : 0 ≤ timeoutMs.toInt.tmod 1000 :=
      Int.tmod_nonneg 1000 hnonneg
    exact ⟨hquotient, by omega, by omega⟩

end Encoding

section Calls

variable {A : Type}

/-- Every system call of `select` carries the encoded timeout. -/
theorem calls_select
    {self : Socket A} {timeoutMs : Int32}
    {checkRead checkWrite checkError : Bool} {choice : WaitChoice}
    {call : WaitCall}
    (h : call ∈ choice.calls
      (self.select timeoutMs checkRead checkWrite checkError)) :
    ∃ nfds read write error,
      call = .select nfds read write error (selectTimeout timeoutMs) := by
  by_cases hselectable : Selectable self.lowLevelSocket
  · obtain ⟨index, hindex, _⟩ := fdIndex_selectable hselectable
    rw [select_selectable self hselectable hindex, WaitChoice.calls_call,
      WaitChoice.calls_lift, List.mem_singleton] at h
    exact ⟨_, _, _, _, h⟩
  · by_cases hunchecked :
        (checkRead = false ∧ checkWrite = false ∧ checkError = false) ∧
          self.lowLevelSocket ≠ 2 ^ 31 - 1
    · obtain ⟨⟨rfl, rfl, rfl⟩, hlast⟩ := hunchecked
      rw [select_unchecked self hlast, WaitChoice.calls_call,
        WaitChoice.calls_lift, List.mem_singleton] at h
      exact ⟨_, _, _, _, h⟩
    · rw [select_outside self hselectable timeoutMs hunchecked,
        WaitChoice.calls_throw] at h
      cases h

/-- On a descriptor with a bit there is one. -/
theorem calls_select_selectable
    (self : Socket A)
    (h : Selectable self.lowLevelSocket)
    (timeoutMs : Int32) (checkRead checkWrite checkError : Bool)
    (choice : WaitChoice) :
    ∃ call, choice.calls
      (self.select timeoutMs checkRead checkWrite checkError) = [call] := by
  obtain ⟨index, hindex, _⟩ := fdIndex_selectable h
  rw [select_selectable self h hindex, WaitChoice.calls_call,
    WaitChoice.calls_lift]
  exact ⟨_, rfl⟩

/-- `poll` makes one call, with its own arguments. -/
theorem calls_poll
    (self : Socket A) (timeoutMs : Int32) (eventsToLookFor : Int16)
    (choice : WaitChoice) :
    choice.calls (self.poll timeoutMs eventsToLookFor) =
      [.poll self.lowLevelSocket eventsToLookFor timeoutMs] := by
  simp only [poll, Prog.perform_bind, WaitChoice.calls_call]
  split <;> rfl

end Calls

section Law

/-- `select` and `poll` mean the same by `timeoutMs`. -/
structure SameWait (A : Type) (timeoutMs : Int32) : Prop where
  timeval : ∀ (socket : Socket A)
      (checkRead checkWrite checkError : Bool) (choice : WaitChoice),
    ∀ selecting ∈ choice.calls
        (socket.select timeoutMs checkRead checkWrite checkError),
      ∀ timeout, selecting.timeval = some timeout →
        timeout.WellFormed ∧
          timeout.microseconds = 1000 * timeoutMs.toInt
  wait : ∀ (socket : Socket A)
      (checkRead checkWrite checkError : Bool) (eventsToLookFor : Int16)
      (choice : WaitChoice),
    ∀ selecting ∈ choice.calls
        (socket.select timeoutMs checkRead checkWrite checkError),
      ∀ polling ∈ choice.calls (socket.poll timeoutMs eventsToLookFor),
        selecting.wait = polling.wait

/-- What the two calls make of `timeoutMs`.  For `select`, 0 is the request for
no timeout at all. -/
structure WaitAsEncoded (A : Type) (timeoutMs : Int32) : Prop where
  asks : ∀ (socket : Socket A), Selectable socket.lowLevelSocket →
    ∀ (checkRead checkWrite checkError : Bool) (eventsToLookFor : Int16)
      (choice : WaitChoice), ∃ selecting polling,
        choice.calls
            (socket.select timeoutMs checkRead checkWrite checkError) =
          [selecting] ∧
        choice.calls (socket.poll timeoutMs eventsToLookFor) = [polling]
  null_iff : ∀ (socket : Socket A)
      (checkRead checkWrite checkError : Bool) (choice : WaitChoice),
    ∀ selecting ∈ choice.calls
        (socket.select timeoutMs checkRead checkWrite checkError),
      selecting.timeval = none ↔ timeoutMs = 0
  denotes : ∀ (socket : Socket A)
      (checkRead checkWrite checkError : Bool) (choice : WaitChoice),
    ∀ selecting ∈ choice.calls
        (socket.select timeoutMs checkRead checkWrite checkError),
      ∀ timeout, selecting.timeval = some timeout →
        timeout.tvSec.toInt = timeoutMs.toInt.tdiv 1000 ∧
          timeout.tvUsec.toInt = 1000 * timeoutMs.toInt.tmod 1000 ∧
          timeout.microseconds = 1000 * timeoutMs.toInt
  positive : 0 < timeoutMs →
    SameWait A timeoutMs ∧
      ∀ (socket : Socket A)
          (checkRead checkWrite checkError : Bool) (choice : WaitChoice),
        ∀ selecting ∈ choice.calls
            (socket.select timeoutMs checkRead checkWrite checkError),
          selecting.wait = .atMost (1000 * timeoutMs.toInt)
  zero : timeoutMs = 0 →
    ∀ (socket : Socket A)
        (checkRead checkWrite checkError : Bool) (eventsToLookFor : Int16)
        (choice : WaitChoice),
      (∀ selecting ∈ choice.calls
          (socket.select timeoutMs checkRead checkWrite checkError),
        selecting.wait = .unbounded) ∧
      ∀ polling ∈ choice.calls (socket.poll timeoutMs eventsToLookFor),
        polling.wait = .atOnce

variable {A : Type}

theorem zero_lt_iff
    (timeoutMs : Int32) :
    0 < timeoutMs ↔ 0 < timeoutMs.toInt := by
  rw [Int32.lt_iff_toInt_lt]
  rfl

/-- A positive argument is not the null pointer. -/
theorem selectTimeout_of_pos
    {timeoutMs : Int32}
    (h : 0 < timeoutMs) :
    ∃ timeout, selectTimeout timeoutMs = some timeout := by
  cases htimeout : selectTimeout timeoutMs with
  | some timeout =>
      exact ⟨timeout, rfl⟩
  | none =>
      rw [selectTimeout_eq_none_iff] at htimeout
      rw [htimeout] at h
      exact absurd h (by decide)

/-- A positive argument is the time `select` waits at most. -/
theorem wait_select_of_pos
    {timeoutMs : Int32}
    (h : 0 < timeoutMs)
    (nfds : Int) (read write error : FdSet) :
    (WaitCall.select nfds read write error (selectTimeout timeoutMs)).wait =
      .atMost (1000 * timeoutMs.toInt) := by
  obtain ⟨timeout, htimeout⟩ := selectTimeout_of_pos h
  have hpos := (zero_lt_iff timeoutMs).mp h
  have hformed := (selectTimeout_wellFormed_iff htimeout).mpr hpos.le
  have hmicroseconds := selectTimeout_microseconds htimeout
  have hne : ¬ (1000 * timeoutMs.toInt = 0) := by
    omega
  rw [htimeout]
  simp only [WaitCall.wait, if_pos hformed, hmicroseconds, if_neg hne]

/-- So does `poll`. -/
theorem wait_poll_of_pos
    {timeoutMs : Int32}
    (h : 0 < timeoutMs)
    (fd : Int) (events : Int16) :
    (WaitCall.poll fd events timeoutMs).wait =
      .atMost (1000 * timeoutMs.toInt) := by
  have hpos := (zero_lt_iff timeoutMs).mp h
  have hne : ¬ (timeoutMs = 0) := by
    rintro rfl
    exact absurd h (by decide)
  have hnonneg : ¬ (timeoutMs < 0) := by
    rw [Int32.lt_iff_toInt_lt]
    exact not_lt.mpr hpos.le
  simp only [WaitCall.wait, if_neg hne, if_neg hnonneg]

/-- A positive timeout means the same to both. -/
theorem sameWait_of_pos
    {timeoutMs : Int32}
    (h : 0 < timeoutMs) :
    SameWait A timeoutMs := by
  have hpos := (zero_lt_iff timeoutMs).mp h
  refine ⟨?_, ?_⟩
  · intro socket checkRead checkWrite checkError choice selecting hselecting
      timeout htimeout
    obtain ⟨nfds, read, write, error, rfl⟩ := calls_select hselecting
    exact ⟨(selectTimeout_wellFormed_iff htimeout).mpr hpos.le,
      selectTimeout_microseconds htimeout⟩
  · intro socket checkRead checkWrite checkError eventsToLookFor choice
      selecting hselecting polling hpolling
    obtain ⟨nfds, read, write, error, rfl⟩ := calls_select hselecting
    rw [calls_poll, List.mem_singleton] at hpolling
    rw [hpolling, wait_select_of_pos h, wait_poll_of_pos h]

/-- **What `select` and `poll` wait for**: the same for a positive timeout, and
for every timeout `select` passes its exact value. -/
theorem waitAsEncoded
    (A : Type) (timeoutMs : Int32) :
    WaitAsEncoded A timeoutMs := by
  refine ⟨?_, ?_, ?_, ?_, ?_⟩
  · intro socket hselectable checkRead checkWrite checkError eventsToLookFor
      choice
    obtain ⟨selecting, hselecting⟩ :=
      calls_select_selectable socket hselectable timeoutMs checkRead
        checkWrite checkError choice
    exact ⟨selecting, _, hselecting, calls_poll socket timeoutMs _ choice⟩
  · intro socket checkRead checkWrite checkError choice selecting hselecting
    obtain ⟨nfds, read, write, error, rfl⟩ := calls_select hselecting
    exact selectTimeout_eq_none_iff timeoutMs
  · intro socket checkRead checkWrite checkError choice selecting hselecting
      timeout htimeout
    obtain ⟨nfds, read, write, error, rfl⟩ := calls_select hselecting
    obtain ⟨hsec, husec⟩ := selectTimeout_exact htimeout
    exact ⟨hsec, husec, selectTimeout_microseconds htimeout⟩
  · intro hpos
    refine ⟨sameWait_of_pos hpos, ?_⟩
    intro socket checkRead checkWrite checkError choice selecting hselecting
    obtain ⟨nfds, read, write, error, rfl⟩ := calls_select hselecting
    exact wait_select_of_pos hpos nfds read write error
  · rintro rfl socket checkRead checkWrite checkError eventsToLookFor choice
    refine ⟨?_, ?_⟩
    · intro selecting hselecting
      obtain ⟨nfds, read, write, error, rfl⟩ := calls_select hselecting
      rfl
    · intro polling hpolling
      rw [calls_poll, List.mem_singleton] at hpolling
      rw [hpolling]
      rfl

/-- An environment in which nothing happens. -/
def quiet : WaitChoice :=
  ⟨none, fun _ => false, fun _ => false, fun _ => false, 0⟩

/-- With 0, `select` waits without bound and `poll` returns at once; with -1,
`select` passes a `timeval` that is rejected. -/
theorem not_sameWait_zero_negative :
    ¬ SameWait Address 0 ∧ ¬ SameWait Address (-1) := by
  refine ⟨?_, ?_⟩
  · intro hlaw
    have hwait :=
      hlaw.wait ⟨3, Factory.pathAddress⟩ false false false 0 quiet
        (.select 4 ∅ ∅ ∅ none) (List.mem_singleton.mpr rfl)
        (.poll 3 0 0) (List.mem_singleton.mpr rfl)
    cases hwait
  · intro hlaw
    have htimeval :=
      hlaw.timeval ⟨3, Factory.pathAddress⟩ false false false quiet
        (.select 4 ∅ ∅ ∅ (some ⟨0, -1000⟩)) (List.mem_singleton.mpr rfl)
        ⟨0, -1000⟩ rfl
    exact absurd htimeval.1 (by decide)

end Law

end Socket

end BsdSockets
