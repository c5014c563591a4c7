import BsdSockets.AddressText
import BsdSockets.Opening

/-!
# From the resolver to bind and connect

An `InetAddress` keeps a `sockaddr_in`, whatever structure the resolver's entry
points to; `bind` and `connect` pass that structure and its size.  For an entry
of the list, the address built from it is compared with the entry's own
`sockaddr`, first in the object and then in the log of the system calls.
-/

namespace BsdSockets

namespace InetAddress

open Memory
open PartialMap

section Logged

variable {A : Type}

/-- A checked call on a descriptor is one entry of the log, whatever the kernel
answers. -/
theorem run_checkedCall_trace
    {call : Call A} {fd : Int}
    (htarget : call.target = some fd)
    (process : Process A) :
    ∃ reply,
      (process.run (checkedCall call)).2.trace =
        process.trace ++ [(call, reply)] := by
  refine ⟨process.kernel.onDescriptor process.choice fd, ?_⟩
  have hanswer := Process.answer_of_target process htarget
  simp only [checkedCall, Resumption.Prog.perform_bind, Process.run_call,
    hanswer]
  split <;> rfl

/-- `bind` passes the low-level address of the socket's address, with its length. -/
theorem run_bind_trace
    (cls : AddressClass A) (socket : Socket A) (process : Process A) :
    ∃ reply,
      (process.run (ServerSocket.bind cls socket)).2.trace =
        process.trace ++
          [(.bind socket.lowLevelSocket
              (cls.getLowLevelAddress socket.address).getSockAddr
              (cls.getLowLevelAddress socket.address).getSockAddrLen,
            reply)] :=
  run_checkedCall_trace rfl process

/-- `connect` passes the low-level address of the socket's address, with its
length. -/
theorem run_connect_trace
    (cls : AddressClass A) (socket : Socket A) (process : Process A) :
    ∃ reply,
      (process.run (ClientSocket.connect cls socket)).2.trace =
        process.trace ++
          [(.connect socket.lowLevelSocket
              (cls.getLowLevelAddress socket.address).getSockAddr
              (cls.getLowLevelAddress socket.address).getSockAddrLen,
            reply)] :=
  run_checkedCall_trace rfl process

end Logged

section Endpoint

/-- The port field, at the same offset in both structures. -/
def port (entry : AddrInfo) : List UInt8 :=
  (entry.aiAddr.drop offsetSinPort).take 2

/-- The scope of a `sockaddr_in6`; a `sockaddr_in` has none. -/
def scope (entry : AddrInfo) : List UInt8 :=
  if entry.aiFamily = afInet then []
  else (entry.aiAddr.drop offsetSin6ScopeId).take sizeofSin6ScopeId

/-- Two entries that differ in address, port or scope. -/
def DifferentEndpoints (first second : AddrInfo) : Prop :=
  ownAddress first ≠ ownAddress second ∨
    port first ≠ port second ∨ scope first ≠ scope second

/-- Within a family, the structure determines the endpoint. -/
theorem aiAddr_ne_of_differentEndpoints
    {first second : AddrInfo}
    (hfamily : first.aiFamily = second.aiFamily)
    (h : DifferentEndpoints first second) :
    first.aiAddr ≠ second.aiAddr := by
  intro heq
  rcases h with h | h | h
  · apply h
    rw [ownAddress, ownAddress, hfamily, heq]
  · apply h
    rw [port, port, heq]
  · apply h
    rw [scope, scope, hfamily, heq]

end Endpoint

section Law

variable (libc : Libc)

/-- The address built from an entry carries the entry's `sockaddr`, and that is
what `bind` and `connect` pass. -/
structure CarriesSockaddr
    (entry : AddrInfo) (inetAddress : InetAddress) : Prop where
  length :
    inetAddress.getLowLevelAddress.getSockAddrLen = entry.aiAddrlen
  bytes : inetAddress.getLowLevelAddress.getSockAddr = entry.aiAddr
  bound : ∀ (process : Process Address) (fd : Int), ∃ reply,
    (process.run
        (ServerSocket.bind (Address.libraryClass libc)
          ⟨fd, .inet inetAddress⟩)).2.trace =
      process.trace ++ [(.bind fd entry.aiAddr entry.aiAddrlen, reply)]
  connected : ∀ (process : Process Address) (fd : Int), ∃ reply,
    (process.run
        (ClientSocket.connect (Address.libraryClass libc)
          ⟨fd, .inet inetAddress⟩)).2.trace =
      process.trace ++ [(.connect fd entry.aiAddr entry.aiAddrlen, reply)]

/-- What two entries and the addresses built from them promise together. -/
structure ReachesKernelIntact
    (first second : AddrInfo) (firstBuilt secondBuilt : InetAddress) :
    Prop where
  first_carried : CarriesSockaddr libc first firstBuilt
  second_carried : CarriesSockaddr libc second secondBuilt
  distinct : DifferentEndpoints first second →
    firstBuilt.getLowLevelAddress.getSockAddr ≠
      secondBuilt.getLowLevelAddress.getSockAddr

/-- The stored structure is the whole `sockaddr` exactly for IPv4 entries. -/
theorem carriesSockaddr_iff
    {entry : AddrInfo} {inetAddress : InetAddress}
    (hinternet : IsInternet entry)
    (hstored : inetAddress.pimpl.lowLevelAddress.lowLevelAddress =
      entry.aiAddr.take sizeofSockaddrIn) :
    CarriesSockaddr libc entry inetAddress ↔ entry.aiFamily = afInet := by
  have hlength :
      inetAddress.getLowLevelAddress.getSockAddrLen = sizeofSockaddrIn := rfl
  constructor
  · intro hcarries
    rcases hinternet with hinet | hinet6
    · exact hinet
    · obtain ⟨hlen, _⟩ := entry.inet6 hinet6
      have hsame := hcarries.length
      rw [hlength, hlen] at hsame
      exact absurd hsame (by decide)
  · intro hinet
    obtain ⟨hlen, _⟩ := entry.inet hinet
    have hbytes :
        inetAddress.getLowLevelAddress.getSockAddr = entry.aiAddr := by
      change inetAddress.pimpl.lowLevelAddress.lowLevelAddress = _
      rw [hstored, List.take_of_length_le]
      rw [entry.sized, hlen]
    have hlen' :
        inetAddress.getLowLevelAddress.getSockAddrLen = entry.aiAddrlen := by
      rw [hlength, hlen]
    refine ⟨hlen', hbytes, ?_, ?_⟩
    · intro process fd
      obtain ⟨reply, htrace⟩ :=
        run_bind_trace (Address.libraryClass libc)
          ⟨fd, .inet inetAddress⟩ process
      refine ⟨reply, ?_⟩
      rw [htrace, ← hbytes, ← hlen']
      rfl
    · intro process fd
      obtain ⟨reply, htrace⟩ :=
        run_connect_trace (Address.libraryClass libc)
          ⟨fd, .inet inetAddress⟩ process
      refine ⟨reply, ?_⟩
      rw [htrace, ← hbytes, ← hlen']
      rfl

/-- The entry behind an address that a call has put into the vector. -/
theorem built_from_entry
    {socketType : SocketType} {serviceName address : CppString}
    {results : List AddrInfo}
    (hresolve :
      resolve libc socketType serviceName address = .ok (.results results))
    {created : List InetAddress} {max : UInt32}
    {i : Nat} {entry : AddrInfo} {inetAddress : InetAddress}
    (hentry : results[i]? = some entry)
    (hbuilt :
      (createVector libc socketType serviceName address created
        max).created[created.length + i]? = some inetAddress) :
    IsInternet entry ∧
      inetAddress.pimpl.lowLevelAddress.lowLevelAddress =
        entry.aiAddr.take sizeofSockaddrIn := by
  have hne : results ≠ [] := by
    rintro rfl
    cases hentry
  rw [createVector_created socketType serviceName address hresolve hne,
    List.getElem?_append_right (Nat.le_add_right _ _),
    Nat.add_sub_cancel_left] at hbuilt
  obtain ⟨found, hfound, hok⟩ := builtPrefix_getElem? _ hbuilt
  have hsame : results[i]? = some found := by
    rw [requested] at hfound
    split at hfound
    · exact hfound
    · rw [List.getElem?_take] at hfound
      split at hfound
      · exact hfound
      · cases hfound
  rw [hentry] at hsame
  cases hsame
  obtain ⟨hinternet, _, _, hstored⟩ :=
    createEntry_spec libc socketType serviceName address hok
  exact ⟨hinternet, hstored⟩

/-- **A resolved address reaches `bind` and `connect` intact** exactly when it
is an IPv4 address. -/
theorem resolved_reaches_kernel_iff
    {socketType : SocketType} {serviceName address : CppString}
    {results : List AddrInfo}
    (hresolve :
      resolve libc socketType serviceName address = .ok (.results results))
    {created : List InetAddress} {max : UInt32}
    {i j : Nat} {first second : AddrInfo}
    {firstBuilt secondBuilt : InetAddress}
    (hfirst : results[i]? = some first)
    (hsecond : results[j]? = some second)
    (hfirstBuilt :
      (createVector libc socketType serviceName address created
        max).created[created.length + i]? = some firstBuilt)
    (hsecondBuilt :
      (createVector libc socketType serviceName address created
        max).created[created.length + j]? = some secondBuilt) :
    ReachesKernelIntact libc first second firstBuilt secondBuilt ↔
      first.aiFamily = afInet ∧ second.aiFamily = afInet := by
  obtain ⟨hinternet₁, hstored₁⟩ :=
    built_from_entry libc hresolve hfirst hfirstBuilt
  obtain ⟨hinternet₂, hstored₂⟩ :=
    built_from_entry libc hresolve hsecond hsecondBuilt
  have hiff₁ := carriesSockaddr_iff libc hinternet₁ hstored₁
  have hiff₂ := carriesSockaddr_iff libc hinternet₂ hstored₂
  constructor
  · intro hintact
    exact
      ⟨hiff₁.mp hintact.first_carried, hiff₂.mp hintact.second_carried⟩
  · rintro ⟨hinet₁, hinet₂⟩
    have hcarried₁ := hiff₁.mpr hinet₁
    have hcarried₂ := hiff₂.mpr hinet₂
    refine ⟨hcarried₁, hcarried₂, ?_⟩
    intro hdifferent heq
    rw [hcarried₁.bytes, hcarried₂.bytes] at heq
    have hfamily : first.aiFamily = second.aiFamily := by
      rw [hinet₁, hinet₂]
    exact aiAddr_ne_of_differentEndpoints hfamily hdifferent heq

theorem resolved_reaches_kernel_loopback :
    ReachesKernelIntact (resolvingLibc [loopbackEntry, privateEntry])
      loopbackEntry privateEntry loopbackAddress privateAddress :=
  (@resolved_reaches_kernel_iff (resolvingLibc [loopbackEntry, privateEntry])
    .stream [] [] [loopbackEntry, privateEntry]
    (resolve_resolvingLibc [loopbackEntry, privateEntry] .stream [] [])
    [] 0 0 1 loopbackEntry privateEntry loopbackAddress privateAddress
    rfl rfl (by decide) (by decide)).mpr ⟨rfl, rfl⟩

/-- The address that is built from the global IPv6 entry: the scope and the
last twelve bytes of the address are gone. -/
def globalAddress : InetAddress where
  socketDomain := .inet6
  socketType := .stream
  protocol := 6
  serviceName := []
  requestedAddress := []
  pimpl :=
    ⟨⟨[10, 0, 0, 80, 0, 1, 0, 2, 32, 1, 13, 184, 0, 1, 0, 2], rfl⟩,
      TextFormat.colonText
        [0, 1, 0, 2, 32, 1, 13, 184, 0, 1, 0, 2, 0, 3, 0, 4]⟩
  internet := Or.inr rfl

theorem resolved_truncated_global :
    (createVector (resolvingLibc [globalEntry]) .stream [] [] [] 0).created =
        [globalAddress] ∧
      ¬ ReachesKernelIntact (resolvingLibc [globalEntry])
        globalEntry globalEntry globalAddress globalAddress := by
  refine ⟨by decide, ?_⟩
  intro hintact
  exact absurd hintact.first_carried.length (by decide)

end Law

end InetAddress

end BsdSockets
