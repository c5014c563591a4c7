import BsdSockets.LowLevelAddress

/-!
# InetAddress

Model of `InetAddress.cpp`.  The C library functions the file calls are the
fields of `Libc`; the laws the code relies on are the predicates
`NtopSucceeds` and `NtopInverse`, stated where a result needs them.

A resolver list is a Lean list, so the null pointer is `[]`.  The vector
`created` is passed by reference in the source: it is threaded through the
loop explicitly, because what an exception leaves in it is part of the
behaviour, and so is the number of `freeaddrinfo` calls.
-/

namespace BsdSockets

open Memory

section Resolver

/-- One `addrinfo` of the resolver.  The last two fields are what `getaddrinfo`
documents about the `sockaddr` of an internet entry. -/
structure AddrInfo where
  aiFamily : Int
  aiProtocol : Int
  aiAddrlen : Nat
  aiAddr : List UInt8
  sized : aiAddr.length = aiAddrlen
  inet : aiFamily = afInet →
    aiAddrlen = sizeofSockaddrIn ∧ saFamily aiAddr = afInet
  inet6 : aiFamily = afInet6 →
    aiAddrlen = sizeofSockaddrIn6 ∧ saFamily aiAddr = afInet6

/-- The fields of `hints` that the source sets. -/
structure Hints where
  aiFamily : Int
  aiSocktype : Int
deriving DecidableEq

/-- What `getaddrinfo` answers. -/
inductive Resolution where
  | error (code : Int)
  | results (list : List AddrInfo)

/-- The C library functions that address handling calls. -/
structure Libc where
  inetNtop : Int → List UInt8 → Option CppString
  inetPton : Int → CppString → Option (List UInt8)
  getaddrinfo : CppString → CppString → Hints → Resolution
  gaiStrerror : Int → String

/-- The number of bytes `inet_ntop` reads from the pointer it is given. -/
def inetNtopWidth (family : Int) : Nat :=
  if family = afInet then sizeofInAddr
  else if family = afInet6 then sizeofIn6Addr
  else 0

/-- `inet_ntop` accepts every address of the two internet families. -/
def Libc.NtopSucceeds (libc : Libc) : Prop :=
  ∀ family bytes, family = afInet ∨ family = afInet6 →
    bytes.length = inetNtopWidth family →
      (libc.inetNtop family bytes).isSome = true

/-- `inet_pton` recovers the address bytes from the text of `inet_ntop`. -/
def Libc.NtopInverse (libc : Libc) : Prop :=
  ∀ family bytes, family = afInet ∨ family = afInet6 →
    bytes.length = inetNtopWidth family →
      ∃ text, libc.inetNtop family bytes = some text ∧
        libc.inetPton family text = some bytes

theorem Libc.NtopInverse.succeeds
    {libc : Libc}
    (h : libc.NtopInverse) :
    libc.NtopSucceeds := by
  intro family bytes hfamily hlength
  obtain ⟨text, htext, _⟩ := h family bytes hfamily hlength
  rw [htext]
  rfl

end Resolver

section ParseAddress

/-- `parseAddress(family, sin)`: `inet_ntop` reads at `&sin->sin_addr`, the
offset of the IPv4 structure, for both families. -/
def parseAddress
    (libc : Libc) (family : Int) (sin : List UInt8) : Outcome CppString :=
  match window sin offsetSinAddr (inetNtopWidth family) with
  | none => .error .undefined
  | some src =>
      match libc.inetNtop family src with
      | none => raise (.invalidArgument "Address not valid")
      | some actualAddressString => .ok actualAddressString

/-- `parseAddress(result)`: the entry's address is read as a `sockaddr_in`. -/
def parseAddressInfo
    (libc : Libc) (result : AddrInfo) : Outcome CppString :=
  parseAddress libc result.aiFamily result.aiAddr

end ParseAddress

/-- `LowLevelAddressType<sockaddr_in>`. -/
abbrev InetLowLevelAddress := LowLevelAddressType sizeofSockaddrIn

structure InetAddressPimpl where
  lowLevelAddress : InetLowLevelAddress
  actualAddress : CppString
deriving DecidableEq

/-- `ntohs(lowLevelAddress.sin_port)`. -/
def InetAddressPimpl.getPort (self : InetAddressPimpl) : Nat :=
  readBig (self.lowLevelAddress.lowLevelAddress.drop offsetSinPort)

/-- The constructor copies a `sockaddr_in` from the referenced memory. -/
def InetAddressPimpl.new
    (theLowLevelAddress : List UInt8) (theActualAddress : CppString) :
    Outcome InetAddressPimpl := do
  let lowLevelAddress ← LowLevelAddressType.copyOf theLowLevelAddress
  return ⟨lowLevelAddress, theActualAddress⟩

structure InetAddress where
  socketDomain : SocketDomain
  socketType : SocketType
  protocol : Int
  serviceName : CppString
  requestedAddress : CppString
  pimpl : InetAddressPimpl
  internet : socketDomain = .inet4 ∨ socketDomain = .inet6
deriving DecidableEq

namespace InetAddress

def getActualAddress (self : InetAddress) : CppString :=
  self.pimpl.actualAddress

def getPort (self : InetAddress) : Nat :=
  self.pimpl.getPort

def getLowLevelAddress (self : InetAddress) : LowLevelAddress :=
  self.pimpl.lowLevelAddress.toLowLevelAddress

/-- One pass of the loop body: the address built from one resolver entry. -/
def createEntry
    (libc : Libc) (socketType : SocketType)
    (serviceName address : CppString)
    (result : AddrInfo) : Outcome InetAddress := do
  let socketDomain ← lowLevelToSocketDomain result.aiFamily
  if internet : socketDomain = .inet4 ∨ socketDomain = .inet6 then
    let actualAddress ← parseAddressInfo libc result
    let pimpl ← InetAddressPimpl.new result.aiAddr actualAddress
    return {
      socketDomain := socketDomain
      socketType := socketType
      protocol := result.aiProtocol
      serviceName := serviceName
      requestedAddress := address
      pimpl := pimpl
      internet := internet }
  else
    raise (.invalidArgument "Invalid address family for address")

/-- The loop of `create`, with its counter and the caller's vector.  A body
that throws leaves the vector as the passes before it have made it. -/
def createLoop
    (libc : Libc) (socketType : SocketType)
    (serviceName address : CppString) (max : UInt32) :
    List AddrInfo → UInt32 → List InetAddress →
      Outcome UInt32 × List InetAddress
  | [], count, created => (.ok count, created)
  | result :: rest, count, created =>
      if max ≤ 0 ∨ count < max then
        match createEntry libc socketType serviceName address result with
        | .error e => (.error e, created)
        | .ok inetAddress =>
            createLoop libc socketType serviceName address max
              rest (count + 1) (created ++ [inetAddress])
      else
        (.ok count, created)

/-- How a call of `create` ends: its result, the caller's vector, and the
number of times the resolver's list was given to `freeaddrinfo`. -/
structure Created where
  result : Outcome Int
  created : List InetAddress
  freed : Nat

/-- The resolver call of `create`. -/
def resolve
    (libc : Libc) (socketType : SocketType)
    (serviceName address : CppString) : Outcome Resolution := do
  let aiSocktype ← socketTypeToLowLevel socketType
  let hints : Hints := { aiFamily := afUnspec, aiSocktype := aiSocktype }
  let node := address.takeWhile (fun c => decide (c ≠ 0))
  let service := serviceName.takeWhile (fun c => decide (c ≠ 0))
  return libc.getaddrinfo node service hints

/-- `create` into a vector.  The `unsigned int` counter is returned as `int`. -/
def createVector
    (libc : Libc) (socketType : SocketType)
    (serviceName address : CppString)
    (created : List InetAddress) (max : UInt32) : Created :=
  match resolve libc socketType serviceName address with
  | .error e => ⟨.error e, created, 0⟩
  | .ok (.error code) =>
      ⟨raise (.systemError code (libc.gaiStrerror code)), created, 0⟩
  | .ok (.results []) =>
      ⟨raise (.invalidArgument "Invalid address and/or service"), created, 0⟩
  | .ok (.results results) =>
      match createLoop libc socketType serviceName address max
          results 0 created with
      | (.error e, created') => ⟨.error e, created', 0⟩
      | (.ok count, created') => ⟨.ok count.toInt32.toInt, created', 1⟩

/-- `create` of one address: `found.at(0)` of a call with `max` 1. -/
def createSingle
    (libc : Libc) (socketType : SocketType)
    (serviceName address : CppString) : Outcome InetAddress :=
  let found := createVector libc socketType serviceName address [] 1
  match found.result with
  | .error e => .error e
  | .ok _ =>
      match found.created[0]? with
      | some inetAddress => .ok inetAddress
      | none => raise .outOfRange

/-- The temporary of an internet address is a zeroed `sockaddr_in`. -/
def makeTempLowLevelAddress (_self : InetAddress) : LowLevelAddress :=
  (LowLevelAddressType.zeroed sizeofSockaddrIn).toLowLevelAddress

/-- The template `create`: domain, type and protocol are the template's. -/
def createFrom
    (libc : Libc) (self : InetAddress)
    (fromLowLevelAddress : LowLevelAddress) (beyond : List UInt8) :
    Outcome InetAddress := do
  let sin := fromLowLevelAddress.getSockAddr ++ beyond
  let family := saFamily sin
  if afInet ≠ family ∧ afInet6 ≠ family then
    raise (.invalidArgument
      "LowLevelAddress is of wrong type for InetAddress to create")
  else
    let theActualAddress ← parseAddress libc family sin
    let pimpl ← InetAddressPimpl.new sin theActualAddress
    return {
      socketDomain := self.socketDomain
      socketType := self.socketType
      protocol := self.protocol
      serviceName := self.serviceName
      requestedAddress := []
      pimpl := pimpl
      internet := self.internet }

end InetAddress

end BsdSockets
