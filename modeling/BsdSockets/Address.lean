import BsdSockets.InetAddress
import BsdSockets.LocalAddress
import BsdSockets.Socket

/-!
# The address classes of the library

`Address` is the abstract base class; the library derives `InetAddress` and
`LocalAddress` from it.  `libraryClass` is the table of their virtual methods,
the instance at which the socket functions meet the library's own addresses.
-/

namespace BsdSockets

/-- An object of one of the two derived classes. -/
inductive Address where
  | inet (address : InetAddress)
  | localPath (address : LocalAddress)

namespace Address

/-- Objects of the same derived class. -/
def SameClass : Address → Address → Prop
  | inet _, inet _ => True
  | localPath _, localPath _ => True
  | _, _ => False

/-- The virtual methods of the library's classes. -/
def libraryClass (libc : Libc) : AddressClass Address where
  getSocketDomain
    | inet address => address.socketDomain
    | localPath address => address.getSocketDomain
  getSocketType
    | inet address => address.socketType
    | localPath address => address.getSocketType
  getProtocol
    | inet address => address.protocol
    | localPath address => address.getProtocol
  makeTempLowLevelAddress
    | inet address => address.makeTempLowLevelAddress
    | localPath address => address.makeTempLowLevelAddress
  create
    | inet address, lowLevelAddress, beyond => do
        let created ← address.createFrom libc lowLevelAddress beyond
        return inet created
    | localPath address, lowLevelAddress, beyond => do
        let created ← address.createFrom lowLevelAddress beyond
        return localPath created
  getLowLevelAddress
    | inet address => address.getLowLevelAddress
    | localPath address => address.getLowLevelAddress

variable (libc : Libc)

/-- The temporary of either class is a zeroed structure of the class's size. -/
def capacity : Address → Nat
  | inet _ => sizeofSockaddrIn
  | localPath _ => sizeofSockaddrUn

@[simp] theorem makeTemp_eq
    (self : Address) :
    (libraryClass libc).makeTempLowLevelAddress self =
      ⟨List.replicate self.capacity 0, self.capacity⟩ := by
  cases self <;> rfl

@[simp] theorem create_inet
    (address : InetAddress)
    (lowLevelAddress : LowLevelAddress) (beyond : List UInt8) :
    (libraryClass libc).create (inet address) lowLevelAddress beyond =
      (address.createFrom libc lowLevelAddress beyond >>= fun created =>
        .ok (inet created)) := by
  rfl

@[simp] theorem create_localPath
    (address : LocalAddress)
    (lowLevelAddress : LowLevelAddress) (beyond : List UInt8) :
    (libraryClass libc).create (localPath address) lowLevelAddress beyond =
      (address.createFrom lowLevelAddress beyond >>= fun created =>
        .ok (localPath created)) := by
  rfl

end Address

end BsdSockets
