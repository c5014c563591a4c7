import BsdSockets.AddressInfo
import BsdSockets.Lib.Memory

/-!
# Low-level addresses and the Address interface

The `sockaddr` structures are byte blocks; sizes and field offsets are those
of Linux on x86-64:

* `sockaddr_in`: family, port, 4 address bytes, 8 bytes of padding;
* `sockaddr_in6`: family, port, flow info, 16 address bytes, scope;
* `sockaddr_un`: family, 108 bytes of path.

A `reinterpret_cast` does not move bytes, so a structure reached through a
pointer of another type is the same region read with other offsets.  What lies
behind an object in memory is the argument `beyond` of the functions that may
read past its end.
-/

namespace BsdSockets

open Memory

section Layout

def sizeofSockaddrIn : Nat := 16
def sizeofSockaddrIn6 : Nat := 28
def sizeofSunPath : Nat := 108
def offsetSunPath : Nat := 2
def sizeofSockaddrUn : Nat := offsetSunPath + sizeofSunPath

def offsetSinPort : Nat := 2
def offsetSinAddr : Nat := 4
def sizeofInAddr : Nat := 4

def offsetSin6Flowinfo : Nat := 4
def sizeofSin6Flowinfo : Nat := 4
def offsetSin6Addr : Nat := 8
def sizeofIn6Addr : Nat := 16
def offsetSin6ScopeId : Nat := 24
def sizeofSin6ScopeId : Nat := 4

/-- The `sa_family` field that starts every `sockaddr`. -/
def saFamily (sockAddr : List UInt8) : Int :=
  (readLittle sockAddr : Nat)

/-- Assignment to the `sa_family` field. -/
def setSaFamily (sockAddr : List UInt8) (family : Int) : List UInt8 :=
  overlay (littleBytes family.toNat) sockAddr

@[simp] theorem setSaFamily_length
    (sockAddr : List UInt8) (family : Int) :
    (setSaFamily sockAddr family).length = sockAddr.length := by
  simp [setSaFamily]

/-- A family that was stored is read back. -/
theorem saFamily_littleBytes
    (family : Nat) (rest : List UInt8)
    (h : family < 65536) :
    saFamily (littleBytes family ++ rest) = family := by
  rw [saFamily, readLittle_littleBytes family rest h]

/-- A read of the family does not see what lies behind the object. -/
theorem saFamily_append
    (sockAddr beyond : List UInt8)
    (h : 2 ≤ sockAddr.length) :
    saFamily (sockAddr ++ beyond) = saFamily sockAddr := by
  match sockAddr, h with
  | a :: b :: rest, _ =>
      rfl

/-- Reading the family from the first bytes. -/
theorem saFamily_take
    (sockAddr : List UInt8) {n : Nat}
    (hn : 2 ≤ n) (h : n ≤ sockAddr.length) :
    saFamily (sockAddr.take n) = saFamily sockAddr := by
  have hlength : 2 ≤ (sockAddr.take n).length := by
    rw [List.length_take]
    omega
  have happend :=
    saFamily_append (sockAddr.take n) (sockAddr.drop n) hlength
  rw [List.take_append_drop] at happend
  exact happend.symm

/-- The family of another structure, stored and read back. -/
theorem saFamily_setSaFamily
    (sockAddr other : List UInt8)
    (h : 2 ≤ sockAddr.length) :
    saFamily (setSaFamily sockAddr (saFamily other)) = saFamily other := by
  have hnat : (saFamily other).toNat = readLittle other :=
    Int.toNat_natCast _
  rw [setSaFamily, hnat,
    overlay_of_length_le _ _ (by rwa [littleBytes_length]),
    saFamily_littleBytes _ _ (readLittle_lt other)]
  rfl

end Layout

/-- What the `LowLevelAddress` interface gives: the bytes of the structure
behind `getSockAddr()`, and `getSockAddrLen()`. -/
structure LowLevelAddress where
  getSockAddr : List UInt8
  getSockAddrLen : Nat
deriving DecidableEq

/-- `LowLevelAddressType<Impl>` for a structure of `sizeofImpl` bytes. -/
structure LowLevelAddressType (sizeofImpl : Nat) where
  lowLevelAddress : List UInt8
  sized : lowLevelAddress.length = sizeofImpl
deriving DecidableEq

namespace LowLevelAddressType

variable {sizeofImpl : Nat}

/-- The default constructor: the structure is zeroed. -/
def zeroed (sizeofImpl : Nat) : LowLevelAddressType sizeofImpl where
  lowLevelAddress := List.replicate sizeofImpl 0
  sized := List.length_replicate

/-- The copying constructor: a `memcpy` of `sizeof(Impl)` bytes from the
referenced memory, whatever object really lies there. -/
def copyOf
    (theLowLevelAddress : List UInt8) :
    Outcome (LowLevelAddressType sizeofImpl) :=
  match h : window theLowLevelAddress 0 sizeofImpl with
  | some bytes => .ok ⟨bytes, window_length h⟩
  | none => .error .undefined

/-- The object seen through the interface. -/
def toLowLevelAddress
    (self : LowLevelAddressType sizeofImpl) : LowLevelAddress where
  getSockAddr := self.lowLevelAddress
  getSockAddrLen := sizeofImpl

/-- From memory that is long enough, the first `sizeof(Impl)` bytes are kept. -/
theorem copyOf_eq_ok
    (theLowLevelAddress : List UInt8)
    (h : sizeofImpl ≤ theLowLevelAddress.length) :
    copyOf theLowLevelAddress =
      .ok (⟨theLowLevelAddress.take sizeofImpl, List.length_take_of_le h⟩ :
        LowLevelAddressType sizeofImpl) := by
  have hwindow :
      window theLowLevelAddress 0 sizeofImpl =
        some (theLowLevelAddress.take sizeofImpl) := by
    rw [window_eq_some _ (by omega), List.drop_zero]
  rw [copyOf]
  split
  · next bytes hbytes =>
      rw [hwindow] at hbytes
      cases hbytes
      rfl
  · next hnone =>
      rw [hwindow] at hnone
      cases hnone

/-- What was copied are the first `sizeof(Impl)` bytes of memory that has them. -/
theorem copyOf_ok
    {theLowLevelAddress : List UInt8}
    {self : LowLevelAddressType sizeofImpl}
    (h : copyOf theLowLevelAddress = .ok self) :
    sizeofImpl ≤ theLowLevelAddress.length ∧
      self.lowLevelAddress = theLowLevelAddress.take sizeofImpl := by
  by_cases hlength : sizeofImpl ≤ theLowLevelAddress.length
  · rw [copyOf_eq_ok _ hlength] at h
    cases h
    exact ⟨hlength, rfl⟩
  · rw [copyOf] at h
    split at h
    · next bytes hbytes =>
        rw [window, if_neg (by omega)] at hbytes
        cases hbytes
    · cases h

/-- Copying throws nothing. -/
theorem copyOf_ne_raise
    (theLowLevelAddress : List UInt8) (e : Exception) :
    (copyOf theLowLevelAddress : Outcome (LowLevelAddressType sizeofImpl)) ≠
      raise e := by
  intro h
  rw [copyOf] at h
  split at h <;> cases h

/-- From a structure of the right size, the structure is kept; what lies
behind it is not read. -/
theorem copyOf_append
    {sockAddr : List UInt8}
    (hlength : sockAddr.length = sizeofImpl)
    (beyond : List UInt8) :
    copyOf (sockAddr ++ beyond) =
      .ok (⟨sockAddr, hlength⟩ : LowLevelAddressType sizeofImpl) := by
  rw [copyOf_eq_ok _ (by rw [List.length_append]; omega)]
  simp only [Except.ok.injEq, mk.injEq]
  rw [← hlength, List.take_left']
  rfl

end LowLevelAddressType

/-- The virtual methods of `Address` for the classes `A` of a program.  In
`create`, the last argument is the memory behind the given structure. -/
structure AddressClass (A : Type) where
  getSocketDomain : A → SocketDomain
  getSocketType : A → SocketType
  getProtocol : A → Int
  makeTempLowLevelAddress : A → LowLevelAddress
  create : A → LowLevelAddress → List UInt8 → Outcome A
  getLowLevelAddress : A → LowLevelAddress

end BsdSockets
