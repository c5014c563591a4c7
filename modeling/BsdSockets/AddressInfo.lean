import Mathlib.Tactic

/-!
# Address information and how a call can end

`SocketDomain` and `SocketType` are the enumerations of `AddressInfo.h`; the
three conversions are the static tables of `AddressInfoConversions.cpp`, with
the low-level constants of Linux.

A C++ call of the library ends normally or abruptly.  `Abrupt` separates the
exceptions the code throws from reads of memory that nothing backs, after
which the program has no defined behaviour.
-/

namespace BsdSockets

/-- A `std::string`: counted bytes, any of which may be NUL. -/
abbrev CppString := List UInt8

/-- The exceptions that leave the library's calls. -/
inductive Exception where
  | systemError (code : Int) (what : String)
  | runtimeError (what : String)
  | invalidArgument (what : String)
  | outOfRange
  | userException (tag : Nat)
deriving DecidableEq

/-- How a call ends when it does not return. -/
inductive Abrupt where
  | throws (e : Exception)
  | undefined
deriving DecidableEq

/-- What a call without effects of its own computes. -/
abbrev Outcome (α : Type) := Except Abrupt α

/-- Throwing is one of the two ways of not returning. -/
def raise {α : Type} (e : Exception) : Outcome α :=
  .error (.throws e)

section Enumerations

inductive SocketDomain where
  | inet4
  | inet6
  | localSocket
  | route
  | key
deriving DecidableEq

inductive SocketType where
  | stream
  | datagram
  | rawProtocol
  | reliablyDelivered
  | sequencedPacket
deriving DecidableEq

end Enumerations

section Constants

/-- Address families; the `PF_` constants have the same values. -/
def afUnspec : Int := 0
def afLocal : Int := 1
def afInet : Int := 2
def afInet6 : Int := 10
def afKey : Int := 15
def afRoute : Int := 16

def sockStream : Int := 1
def sockDgram : Int := 2
def sockRaw : Int := 3
def sockRdm : Int := 4
def sockSeqpacket : Int := 5

end Constants

section Conversions

/-- The table of `socketDomainToLowLevel`. -/
def socketDomainTable : List (SocketDomain × Int) :=
  [(.inet4, afInet), (.inet6, afInet6), (.localSocket, afLocal),
    (.route, afRoute), (.key, afKey)]

/-- The table of `lowLevelToSocketDomain`. -/
def lowLevelTable : List (Int × SocketDomain) :=
  [(afInet, .inet4), (afInet6, .inet6), (afLocal, .localSocket),
    (afRoute, .route), (afKey, .key)]

/-- The table of `socketTypeToLowLevel`. -/
def socketTypeTable : List (SocketType × Int) :=
  [(.stream, sockStream), (.datagram, sockDgram), (.rawProtocol, sockRaw),
    (.reliablyDelivered, sockRdm), (.sequencedPacket, sockSeqpacket)]

def socketDomainToLowLevel (domain : SocketDomain) : Outcome Int :=
  match socketDomainTable.lookup domain with
  | some lowLevel => .ok lowLevel
  | none => raise (.invalidArgument "Unknown SocketDomain")

def lowLevelToSocketDomain (lowLevel : Int) : Outcome SocketDomain :=
  match lowLevelTable.lookup lowLevel with
  | some domain => .ok domain
  | none => raise (.invalidArgument "Unknown SocketDomain")

def socketTypeToLowLevel (type : SocketType) : Outcome Int :=
  match socketTypeTable.lookup type with
  | some lowLevel => .ok lowLevel
  | none => raise (.invalidArgument "Unknown SocketType")

/-- Every domain has a low-level constant. -/
theorem socketDomainToLowLevel_total
    (domain : SocketDomain) :
    ∃ lowLevel, socketDomainToLowLevel domain = .ok lowLevel := by
  cases domain <;> exact ⟨_, rfl⟩

/-- Every type has a low-level constant. -/
theorem socketTypeToLowLevel_total
    (type : SocketType) :
    ∃ lowLevel, socketTypeToLowLevel type = .ok lowLevel := by
  cases type <;> exact ⟨_, rfl⟩

/-- The two domain tables are inverse to each other. -/
theorem lowLevelToSocketDomain_eq_ok_iff
    (lowLevel : Int) (domain : SocketDomain) :
    lowLevelToSocketDomain lowLevel = .ok domain ↔
      socketDomainToLowLevel domain = .ok lowLevel := by
  constructor
  · intro h
    rw [lowLevelToSocketDomain] at h
    cases hfound : lowLevelTable.lookup lowLevel with
    | none =>
        rw [hfound] at h
        cases h
    | some found =>
        rw [hfound] at h
        cases h
        have hmem := List.lookup_eq_some_iff.mp hfound
        obtain ⟨before, after, htable, _⟩ := hmem
        have hin : (lowLevel, domain) ∈ lowLevelTable := by
          rw [htable]
          simp
        simp only [lowLevelTable, List.mem_cons, List.not_mem_nil, or_false,
          Prod.mk.injEq] at hin
        rcases hin with ⟨rfl, rfl⟩ | ⟨rfl, rfl⟩ | ⟨rfl, rfl⟩ |
          ⟨rfl, rfl⟩ | ⟨rfl, rfl⟩ <;> rfl
  · intro h
    cases domain <;>
      · cases h
        rfl

/-- Only the two internet families are internet domains. -/
theorem lowLevelToSocketDomain_internet_iff
    (lowLevel : Int) :
    (lowLevelToSocketDomain lowLevel = .ok .inet4 ∨
        lowLevelToSocketDomain lowLevel = .ok .inet6) ↔
      lowLevel = afInet ∨ lowLevel = afInet6 := by
  rw [lowLevelToSocketDomain_eq_ok_iff, lowLevelToSocketDomain_eq_ok_iff]
  have h4 : socketDomainToLowLevel .inet4 = .ok afInet := rfl
  have h6 : socketDomainToLowLevel .inet6 = .ok afInet6 := rfl
  rw [h4, h6]
  constructor
  · rintro (h | h)
    · exact Or.inl (Except.ok.inj h).symm
    · exact Or.inr (Except.ok.inj h).symm
  · rintro (rfl | rfl)
    · exact Or.inl rfl
    · exact Or.inr rfl

end Conversions

end BsdSockets
