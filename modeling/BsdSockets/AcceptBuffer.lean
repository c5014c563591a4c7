import BsdSockets.Accepting
import BsdSockets.ResolvedSockaddr

/-!
# The temporary of accept

`makeTempLowLevelAddress` decides how much of a peer can be received, and
`create` what is made of it.  The first two sections compute `create` of both
classes on a buffer of the class's own size; what lies behind the buffer turns
out to matter only for a `sun_path` without a NUL.

`PeerOf` is what the kernel reports as the peer of a server's socket.
-/

namespace BsdSockets

open Memory
open Resumption

namespace InetAddress

variable {libc : Libc}

/-- What `create` keeps of the template and of the buffer. -/
structure CreatedFrom
    (template : InetAddress) (sin : List UInt8)
    (created : InetAddress) : Prop where
  socketDomain : created.socketDomain = template.socketDomain
  socketType : created.socketType = template.socketType
  protocol : created.protocol = template.protocol
  bytes : created.getLowLevelAddress.getSockAddr = sin

/-- `create` from a whole `sockaddr_in`; what lies behind it is not read. -/
theorem createFrom_inet
    (hntop : libc.NtopSucceeds)
    (self : InetAddress) {sin : List UInt8}
    (hlength : sin.length = sizeofSockaddrIn)
    (hfamily : saFamily sin = afInet) :
    ∃ created,
      CreatedFrom self sin created ∧
      ∀ sockAddrLen beyond,
        self.createFrom libc ⟨sin, sockAddrLen⟩ beyond = .ok created := by
  have hwindow :
      window sin offsetSinAddr (inetNtopWidth afInet) =
        some ((sin.drop offsetSinAddr).take (inetNtopWidth afInet)) := by
    refine window_eq_some _ ?_
    rw [hlength]
    decide
  obtain ⟨text, htext⟩ :=
    Option.isSome_iff_exists.mp
      (hntop afInet ((sin.drop offsetSinAddr).take (inetNtopWidth afInet))
        (Or.inl rfl) (window_length hwindow))
  refine
    ⟨⟨self.socketDomain, self.socketType, self.protocol, self.serviceName, [],
        ⟨⟨sin, hlength⟩, text⟩, self.internet⟩,
      ⟨rfl, rfl, rfl, rfl⟩, ?_⟩
  intro sockAddrLen beyond
  have hfamily' : saFamily (sin ++ beyond) = afInet := by
    rw [saFamily_append sin beyond (by rw [hlength]; decide), hfamily]
  have hparse : parseAddress libc afInet (sin ++ beyond) = .ok text := by
    rw [parseAddress]
    rw [window_append sin beyond (by rw [hlength]; decide), hwindow]
    simp only [htext]
  have hcopy := LowLevelAddressType.copyOf_append hlength beyond
  have hknown : ¬ (afInet ≠ afInet ∧ afInet6 ≠ afInet) := by
    decide
  simp only [createFrom, hfamily', if_neg hknown, hparse,
    InetAddressPimpl.new, hcopy]
  rfl

/-- What `create` builds has the template's domain, type and protocol, and the
first `sizeof(sockaddr_in)` bytes of the memory it was given. -/
theorem createFrom_spec
    {self created : InetAddress}
    {lowLevelAddress : LowLevelAddress} {beyond : List UInt8}
    (h : self.createFrom libc lowLevelAddress beyond = .ok created) :
    sizeofSockaddrIn ≤ (lowLevelAddress.getSockAddr ++ beyond).length ∧
      CreatedFrom self
        ((lowLevelAddress.getSockAddr ++ beyond).take sizeofSockaddrIn)
        created := by
  rw [createFrom] at h
  split at h
  · cases h
  · cases hparse : parseAddress libc
        (saFamily (lowLevelAddress.getSockAddr ++ beyond))
        (lowLevelAddress.getSockAddr ++ beyond) with
    | error e =>
        rw [hparse] at h
        cases h
    | ok text =>
        rw [hparse] at h
        cases hcopy :
            (LowLevelAddressType.copyOf
              (lowLevelAddress.getSockAddr ++ beyond) :
                Outcome InetLowLevelAddress) with
        | error e =>
            simp only [InetAddressPimpl.new, hcopy, Bind.bind,
              Except.bind] at h
            cases h
        | ok stored =>
            simp only [InetAddressPimpl.new, hcopy, Bind.bind, Except.bind,
              Pure.pure, Except.pure, Except.ok.injEq] at h
            obtain ⟨hlength, hbytes⟩ := LowLevelAddressType.copyOf_ok hcopy
            rw [← h]
            exact ⟨hlength, rfl, rfl, rfl, hbytes⟩

/-- From a whole `sockaddr_in`, the bytes are kept. -/
theorem createFrom_bytes
    {self created : InetAddress} {sin : List UInt8}
    {sockAddrLen : Nat} {beyond : List UInt8}
    (hlength : sin.length = sizeofSockaddrIn)
    (h : self.createFrom libc ⟨sin, sockAddrLen⟩ beyond = .ok created) :
    created.getLowLevelAddress.getSockAddr = sin := by
  have hbytes := (createFrom_spec h).2.bytes
  simp only at hbytes
  rw [hbytes, List.take_left' hlength]

end InetAddress

namespace LocalAddress

/-- The path determines a local address. -/
theorem eq_of_path
    {first second : LocalAddress}
    (h : first.path = second.path) :
    first = second := by
  have hfirst := first.built
  have hsecond := second.built
  rw [h, hsecond] at hfirst
  have hpimpl := Except.ok.inj hfirst
  cases first
  cases second
  simp only at h hpimpl
  subst h
  subst hpimpl
  rfl

/-- `create` from a `sockaddr_un` reads the string that starts in `sun_path`. -/
theorem createFrom_eq
    (self : LocalAddress) (sunPath : List UInt8)
    (sockAddrLen : Nat) (beyond : List UInt8) :
    self.createFrom ⟨littleBytes 1 ++ sunPath, sockAddrLen⟩ beyond =
      match cString 0 (sunPath ++ beyond) with
      | none => .error .undefined
      | some path => new path true := by
  have hfamily :
      saFamily (littleBytes 1 ++ sunPath ++ beyond) = afLocal := by
    rw [List.append_assoc, saFamily_littleBytes 1 _ (by omega)]
    rfl
  have hdrop :
      (littleBytes 1 ++ sunPath ++ beyond).drop offsetSunPath =
        sunPath ++ beyond := by
    rw [List.append_assoc]
    rfl
  cases hpath : cString 0 (sunPath ++ beyond) with
  | none =>
      simp only [createFrom, hfamily, hdrop, hpath, ne_eq, not_true_eq_false,
        if_false]
  | some path =>
      simp only [createFrom, hfamily, hdrop, hpath, ne_eq, not_true_eq_false,
        if_false]

/-- `create` from a `sockaddr_un` with a terminated path. -/
theorem createFrom_terminated
    (self : LocalAddress) {sunPath : List UInt8}
    (hlength : sunPath.length ≤ sizeofSunPath)
    (hnul : 0 ∈ sunPath) :
    ∃ created : LocalAddress,
      created.path = beforeNul sunPath ∧
      ∀ sockAddrLen beyond,
        self.createFrom ⟨littleBytes 1 ++ sunPath, sockAddrLen⟩ beyond =
          .ok created := by
  have hshort : (beforeNul sunPath).length < sizeofSunPath :=
    lt_of_lt_of_le ((beforeNul_length_lt_iff sunPath).mpr hnul) hlength
  obtain ⟨created, hcreated⟩ :=
    (new_eq_ok_iff (beforeNul sunPath) true).mpr ⟨Or.inl rfl, hshort⟩
  refine ⟨created, new_path hcreated, ?_⟩
  intro sockAddrLen beyond
  have hstring : cString 0 (sunPath ++ beyond) = some (beforeNul sunPath) := by
    rw [cString_append_of_mem beyond hnul, cString, if_pos hnul]
    rfl
  rw [createFrom_eq, hstring]
  exact hcreated

/-- `create` from a `sockaddr_un` whose path is not terminated never succeeds:
either nothing terminates it, or it is too long. -/
theorem createFrom_unterminated
    (self : LocalAddress) {sunPath : List UInt8}
    (hlength : sunPath.length = sizeofSunPath)
    (hnul : 0 ∉ sunPath)
    (sockAddrLen : Nat) (beyond : List UInt8) (created : LocalAddress) :
    self.createFrom ⟨littleBytes 1 ++ sunPath, sockAddrLen⟩ beyond ≠
      .ok created := by
  intro hok
  rw [createFrom_eq] at hok
  cases hstring : cString 0 (sunPath ++ beyond) with
  | none =>
      rw [hstring] at hok
      cases hok
  | some path =>
      rw [hstring] at hok
      simp only at hok
      have hlong := length_le_of_cString_append hnul hstring
      obtain ⟨_, hshort⟩ := (new_eq_ok_iff path true).mp ⟨created, hok⟩
      omega

/-- What `create` makes of a `sockaddr_un` shows that its path is terminated. -/
theorem createFrom_ok
    (self : LocalAddress) {sunPath : List UInt8}
    (hlength : sunPath.length = sizeofSunPath)
    {sockAddrLen : Nat} {beyond : List UInt8} {created : LocalAddress}
    (hok : self.createFrom ⟨littleBytes 1 ++ sunPath, sockAddrLen⟩ beyond =
      .ok created) :
    0 ∈ sunPath ∧ created.path = beforeNul sunPath := by
  by_cases hnul : 0 ∈ sunPath
  · obtain ⟨other, hpath, hother⟩ := self.createFrom_terminated hlength.le hnul
    rw [hother] at hok
    cases hok
    exact ⟨hnul, hpath⟩
  · exact absurd hok (self.createFrom_unterminated hlength hnul _ _ _)

end LocalAddress

/-- Descriptors 0 to 3 are open; 3 is a server's. -/
def servingKernel : Kernel where
  openFds := {0, 1, 2, 3}
  accepted := 0
  valid := by decide

namespace Address

/-- The `sockaddr` the kernel reports for a peer of this server: of the
server's family and of a length that the family allows. -/
def PeerOf : Address → List UInt8 → Prop
  | inet server, peer =>
      (server.socketDomain = .inet4 ∧
        peer.length = sizeofSockaddrIn ∧ saFamily peer = afInet) ∨
      (server.socketDomain = .inet6 ∧
        peer.length = sizeofSockaddrIn6 ∧ saFamily peer = afInet6)
  | localPath _, peer =>
      2 ≤ peer.length ∧ peer.length ≤ sizeofSockaddrUn ∧
        saFamily peer = afLocal

/-- The buffer after an `accept` that was offered the whole of it. -/
def received (server : Address) (peer : List UInt8) : List UInt8 :=
  Kernel.written peer (List.replicate server.capacity 0) server.capacity

/-- A peer that fits is received whole, with zeros behind it. -/
theorem received_eq
    {server : Address} {peer : List UInt8}
    (h : peer.length ≤ server.capacity) :
    server.received peer =
      peer ++ List.replicate (server.capacity - peer.length) 0 := by
  rw [received, written_zeroed, List.take_of_length_le h]

/-- The servers and peers for which the temporary is good: an IPv4 server, or
a local peer whose `sun_path` is a NUL-free path that leaves room for a NUL,
followed by nothing but NULs. -/
def FitsBuffer : Address → List UInt8 → Prop
  | inet server, _ => server.socketDomain = .inet4
  | localPath _, peer =>
      ∃ path : CppString,
        0 ∉ path ∧ path.length < sizeofSunPath ∧
          peer.drop offsetSunPath =
            path ++
              List.replicate (peer.length - offsetSunPath - path.length) 0

/-- What the temporary owes a server for a peer. -/
structure BufferFits
    (libc : Libc) (server : Address) (peer : List UInt8) : Prop where
  fits :
    peer.length ≤
      ((libraryClass libc).makeTempLowLevelAddress server).getSockAddrLen
  unreachable : ∀ (process : Process Address) (fd : Int)
      (memory : Indeterminate),
    process.kernel.acceptOutcome process.choice fd = .connects peer →
      memory.len < 2 ^ 31 →
        (process.run
            (ServerSocket.accept (libraryClass libc) ⟨fd, server⟩ memory)).1 ≠
          raise ServerSocket.overWrite
  kept : (server.received peer).length = server.capacity ∧
    (server.received peer).take peer.length = peer
  created : ∀ (process : Process Address) (fd : Int)
      (memory : Indeterminate),
    process.kernel.acceptOutcome process.choice fd = .connects peer →
      memory.len =
          ((libraryClass libc).makeTempLowLevelAddress
            server).getSockAddrLen →
        ∃ socket,
          (process.run
              (ServerSocket.accept (libraryClass libc) ⟨fd, server⟩
                memory)).1 = .ok socket ∧
            SameClass server socket.address ∧
            (libraryClass libc).getSocketDomain socket.address =
              (libraryClass libc).getSocketDomain server ∧
            (libraryClass libc).getSocketType socket.address =
              (libraryClass libc).getSocketType server ∧
            (libraryClass libc).getProtocol socket.address =
              (libraryClass libc).getProtocol server ∧
            ((libraryClass libc).getLowLevelAddress
              socket.address).getSockAddr = server.received peer

section Law

variable {libc : Libc}

/-- `create` of the library's classes throws nothing that speaks of `accept`. -/
theorem create_ne_overWrite
    (server : Address) (lowLevelAddress : LowLevelAddress)
    (beyond : List UInt8) :
    (libraryClass libc).create server lowLevelAddress beyond ≠
      raise ServerSocket.overWrite := by
  intro h
  cases server with
  | inet address =>
      rw [create_inet] at h
      unfold InetAddress.createFrom parseAddress InetAddressPimpl.new
        LowLevelAddressType.copyOf at h
      simp only at h
      split at h
      · cases h
      · split at h
        · cases h
        · split at h
          · cases h
          · split at h <;> cases h
  | localPath address =>
      rw [create_localPath] at h
      unfold LocalAddress.createFrom LocalAddress.new at h
      simp only at h
      split at h
      · cases h
      · split at h
        · cases h
        · split at h
          · next e he =>
              rw [LocalAddressPimpl.new] at he
              split at he
              · cases he
                cases h
              · split at he
                · cases he
                  cases h
                · cases he
          · cases h

/-- The buffer after an `accept` that was offered the whole of it needs no
family fallback. -/
theorem assumeFamily_received
    (server : Address) {family : Nat} {rest : List UInt8}
    (hpos : 0 < family) (hsmall : family < 256)
    (hfits : rest.length + 2 ≤ server.capacity) :
    ServerSocket.assumeFamily (libraryClass libc) server
        (server.received (littleBytes family ++ rest)) =
      server.received (littleBytes family ++ rest) := by
  have hread : saFamily (server.received (littleBytes family ++ rest)) =
      family := by
    have hlength : (littleBytes family ++ rest).length ≤ server.capacity := by
      rw [List.length_append, littleBytes_length]
      omega
    rw [received_eq hlength, List.append_assoc,
      saFamily_littleBytes family _ (by omega)]
  refine if_neg ?_
  rw [hread]
  simp only [afUnspec]
  omega

/-- A peer's family and the bytes behind it. -/
theorem PeerOf.split
    {server : Address} {peer : List UInt8}
    (hpeer : server.PeerOf peer)
    (hfits : peer.length ≤ server.capacity) :
    ∃ (family : Nat) (rest : List UInt8),
      0 < family ∧ family < 256 ∧ (family : Int) = saFamily peer ∧
        peer = littleBytes family ++ rest ∧ rest = peer.drop 2 ∧
        rest.length + 2 ≤ server.capacity := by
  cases server with
  | inet address =>
      rcases hpeer with ⟨_, hlength, hfamily⟩ | ⟨_, hlength, hfamily⟩
      · have hlong : 2 ≤ peer.length := by
          rw [hlength]
          decide
        refine ⟨2, peer.drop 2, by omega, by omega, hfamily.symm,
          sockAddr_split hlong hfamily, rfl, ?_⟩
        rw [List.length_drop]
        omega
      · have hlong : 2 ≤ peer.length := by
          rw [hlength]
          decide
        refine ⟨10, peer.drop 2, by omega, by omega, hfamily.symm,
          sockAddr_split hlong hfamily, rfl, ?_⟩
        rw [List.length_drop]
        omega
  | localPath address =>
      obtain ⟨hlong, _, hfamily⟩ := hpeer
      refine ⟨1, peer.drop 2, by omega, by omega, hfamily.symm,
        sockAddr_split hlong hfamily, rfl, ?_⟩
      rw [List.length_drop]
      omega

/-- An `accept` that was offered the whole temporary hands it to `create` as it
was received. -/
theorem run_accept_received
    (process : Process Address) (fd : Int) {server : Address}
    (memory : Indeterminate) {peer : List UInt8}
    (hpeer : server.PeerOf peer)
    (hfits : peer.length ≤ server.capacity)
    (h : process.kernel.acceptOutcome process.choice fd = .connects peer)
    (hoffered : memory.len = server.capacity) :
    (process.run
        (ServerSocket.accept (libraryClass libc) ⟨fd, server⟩ memory)).1 =
      match (libraryClass libc).create server
          ⟨server.received peer, server.capacity⟩ memory.beyond with
      | .ok address =>
          .ok ⟨process.kernel.freshFd process.choice.descriptor, address⟩
      | .error e => .error e := by
  obtain ⟨family, rest, hpos, hsmall, _, hsplit, _, hrest⟩ :=
    hpeer.split hfits
  have hlen : memory.len < 2 ^ 31 := by
    rw [hoffered]
    exact server.capacity_lt
  have hrun :=
    run_accept_connects libc process ⟨fd, server⟩ memory h hlen hfits
  have hassume :
      ServerSocket.assumeFamily (libraryClass libc) server
          (server.received (littleBytes family ++ rest)) =
        server.received (littleBytes family ++ rest) :=
    assumeFamily_received server hpos hsmall hrest
  rw [← hsplit] at hassume
  simp only at hrun
  rw [hrun, hoffered]
  change (match (libraryClass libc).create server
      ⟨ServerSocket.assumeFamily (libraryClass libc) server
        (server.received peer), server.capacity⟩ memory.beyond with
    | .ok address => _
    | .error e => _) = _
  rw [hassume]

/-- A process whose server socket 3 is about to get this peer. -/
def acceptingProcess (peer : List UInt8) : Process Address where
  kernel := servingKernel
  errno := 0
  script := fun _ => ⟨none, 4, peer⟩
  calls := 0
  trace := []

theorem acceptingProcess_connects
    (peer : List UInt8) :
    (acceptingProcess peer).kernel.acceptOutcome
      (acceptingProcess peer).choice 3 = .connects peer := by
  rfl

/-- What `create` makes of the received peer of an IPv4 server. -/
theorem create_received_inet4
    (hntop : libc.NtopSucceeds)
    (server : InetAddress) {peer : List UInt8}
    (hlength : peer.length = sizeofSockaddrIn)
    (hfamily : saFamily peer = afInet) :
    ∃ created,
      InetAddress.CreatedFrom server peer created ∧
      (inet server).received peer = peer ∧
      ∀ beyond,
        (libraryClass libc).create (inet server)
          ⟨(inet server).received peer, (inet server).capacity⟩ beyond =
            .ok (inet created) := by
  have hreceived : (inet server).received peer = peer := by
    rw [received_eq (le_of_eq hlength)]
    change peer ++ List.replicate (sizeofSockaddrIn - peer.length) 0 = peer
    rw [hlength, Nat.sub_self]
    exact List.append_nil peer
  obtain ⟨created, hcreated, hok⟩ :=
    InetAddress.createFrom_inet hntop server hlength hfamily
  refine ⟨created, hcreated, hreceived, ?_⟩
  intro beyond
  rw [hreceived, create_inet, hok]
  rfl

/-- The `sun_path` that a local server receives. -/
theorem received_localPath
    (server : LocalAddress) {peer : List UInt8}
    (hpeer : (localPath server).PeerOf peer) :
    (localPath server).received peer =
        littleBytes 1 ++
          (peer.drop offsetSunPath ++
            List.replicate (sizeofSockaddrUn - peer.length) 0) ∧
      (peer.drop offsetSunPath ++
        List.replicate (sizeofSockaddrUn - peer.length) 0).length =
          sizeofSunPath := by
  obtain ⟨hlong, hshort, hfamily⟩ := hpeer
  have hsplit : peer = littleBytes 1 ++ peer.drop offsetSunPath :=
    sockAddr_split hlong hfamily
  refine ⟨?_, ?_⟩
  · rw [received_eq hshort, ← List.append_assoc, ← hsplit]
    rfl
  · rw [List.length_append, List.length_drop, List.length_replicate]
    simp only [sizeofSockaddrUn, offsetSunPath] at hlong hshort ⊢
    omega

/-- A local peer that fits the temporary comes back as a local address with
its own bytes. -/
theorem create_received_localPath
    (server : LocalAddress) {peer : List UInt8}
    (hpeer : (localPath server).PeerOf peer)
    (hfits : (localPath server).FitsBuffer peer) :
    ∃ created : LocalAddress,
      created.getLowLevelAddress.getSockAddr =
          (localPath server).received peer ∧
      ∀ beyond,
        (libraryClass libc).create (localPath server)
          ⟨(localPath server).received peer, (localPath server).capacity⟩
            beyond = .ok (localPath created) := by
  obtain ⟨hreceived, hlength⟩ := received_localPath server hpeer
  obtain ⟨path, hnul, hshort, hpath⟩ := hfits
  obtain ⟨hlong, hpeerShort, _⟩ := hpeer
  have hpadded :
      peer.drop offsetSunPath ++
          List.replicate (sizeofSockaddrUn - peer.length) 0 =
        path ++ List.replicate (sizeofSunPath - path.length) 0 := by
    have hlengths := congrArg List.length hpath
    rw [hpath, List.append_assoc, List.replicate_append_replicate]
    congr 2
    simp only [List.length_append, List.length_drop, List.length_replicate,
      sizeofSockaddrUn, offsetSunPath] at hlengths hlong hpeerShort ⊢
    omega
  have hmem :
      (0 : UInt8) ∈ path ++ List.replicate (sizeofSunPath - path.length) 0 := by
    rw [List.mem_append, List.mem_replicate]
    exact Or.inr ⟨by omega, rfl⟩
  rw [hpadded] at hreceived hlength
  obtain ⟨created, hcreatedPath, hok⟩ :=
    LocalAddress.createFrom_terminated server hlength.le hmem
  have hbefore :
      beforeNul (path ++ List.replicate (sizeofSunPath - path.length) 0) =
        path := by
    rw [beforeNul_append_replicate]
    exact (beforeNul_eq_self_iff path).mpr hnul
  rw [hbefore] at hcreatedPath
  refine ⟨created, ?_, ?_⟩
  · rw [LocalAddress.getSockAddr_eq, hcreatedPath,
      (beforeNul_eq_self_iff path).mpr hnul, hreceived]
    rfl
  · intro beyond
    rw [hreceived, create_localPath, hok]
    rfl

/-- A local address that holds the received bytes shows that the peer fits. -/
theorem fitsBuffer_of_bytes
    (server created : LocalAddress) {peer : List UInt8}
    (hpeer : (localPath server).PeerOf peer)
    (hbytes : created.getLowLevelAddress.getSockAddr =
      (localPath server).received peer) :
    (localPath server).FitsBuffer peer := by
  obtain ⟨hreceived, _⟩ := received_localPath server hpeer
  rw [LocalAddress.getSockAddr_eq, hreceived, sockaddrUn,
    List.append_cancel_left_eq] at hbytes
  have hshort : (beforeNul created.path).length < sizeofSunPath :=
    lt_of_le_of_lt (beforeNul_length_le created.path) created.path_short
  have hnul := beforeNul_no_nul created.path
  refine ⟨beforeNul created.path, hnul, hshort, ?_⟩
  have hpadding := eq_append_replicate_of_padded hnul hbytes.symm
  rw [List.length_drop] at hpadding
  exact hpadding

/-- A temporary that fits shows what the server and the peer are. -/
theorem fitsBuffer_of_bufferFits
    {server : Address} {peer : List UInt8}
    (hpeer : server.PeerOf peer)
    (hbuffer : BufferFits libc server peer) :
    server.FitsBuffer peer := by
  have hfits : peer.length ≤ server.capacity := by
    have h := hbuffer.fits
    rwa [makeTemp_eq] at h
  cases server with
  | inet address =>
      rcases hpeer with ⟨hdomain, _⟩ | ⟨_, hlength, _⟩
      · exact hdomain
      · have hle : sizeofSockaddrIn6 ≤ sizeofSockaddrIn := by
          rw [← hlength]
          exact hfits
        exact absurd hle (by decide)
  | localPath address =>
      obtain ⟨socket, hok, hclass, _, _, _, hbytes⟩ :=
        hbuffer.created (acceptingProcess peer) 3
          ⟨(localPath address).capacity, []⟩
          (acceptingProcess_connects peer) (by rw [makeTemp_eq])
      obtain ⟨fd, created⟩ := socket
      cases created with
      | inet other =>
          exact absurd hclass (by simp [SameClass])
      | localPath other =>
          exact fitsBuffer_of_bytes address other hpeer hbytes

/-- A peer that fits is no longer than the temporary. -/
theorem length_le_of_fitsBuffer
    {server : Address} {peer : List UInt8}
    (hpeer : server.PeerOf peer)
    (hfitsBuffer : server.FitsBuffer peer) :
    peer.length ≤ server.capacity := by
  cases server with
  | inet address =>
      rcases hpeer with ⟨_, hlength, _⟩ | ⟨hdomain, _⟩
      · exact le_of_eq hlength
      · cases hdomain.symm.trans hfitsBuffer
  | localPath address =>
      exact hpeer.2.1

/-- What the template makes of the received bytes of a peer that fits. -/
theorem create_received
    (hntop : libc.NtopSucceeds)
    {server : Address} {peer : List UInt8}
    (hpeer : server.PeerOf peer)
    (hfitsBuffer : server.FitsBuffer peer) :
    ∃ created, SameClass server created ∧
      (libraryClass libc).getSocketDomain created =
        (libraryClass libc).getSocketDomain server ∧
      (libraryClass libc).getSocketType created =
        (libraryClass libc).getSocketType server ∧
      (libraryClass libc).getProtocol created =
        (libraryClass libc).getProtocol server ∧
      ((libraryClass libc).getLowLevelAddress created).getSockAddr =
        server.received peer ∧
      ∀ beyond, (libraryClass libc).create server
        ⟨server.received peer, server.capacity⟩ beyond = .ok created := by
  cases server with
  | inet address =>
      rcases hpeer with ⟨_, hlength, hfamily⟩ | ⟨hdomain, _⟩
      · obtain ⟨created, hcreated, hreceived, hok⟩ :=
          create_received_inet4 hntop address hlength hfamily
        refine ⟨inet created, trivial, hcreated.socketDomain,
          hcreated.socketType, hcreated.protocol, ?_, hok⟩
        rw [hreceived]
        exact hcreated.bytes
      · cases hdomain.symm.trans hfitsBuffer
  | localPath address =>
      obtain ⟨created, hbytes, hok⟩ :=
        create_received_localPath address hpeer hfitsBuffer
      exact ⟨localPath created, trivial, rfl, rfl, rfl, hbytes, hok⟩

/-- **The temporary of `accept` fits** exactly the peers of IPv4 servers and the
local peers with a plain path. -/
theorem bufferFits_iff
    (hntop : libc.NtopSucceeds)
    {server : Address} {peer : List UInt8}
    (hpeer : server.PeerOf peer) :
    BufferFits libc server peer ↔ server.FitsBuffer peer := by
  constructor
  · exact fitsBuffer_of_bufferFits hpeer
  · intro hfitsBuffer
    have hfits := length_le_of_fitsBuffer hpeer hfitsBuffer
    obtain ⟨created, hclass, hdomain, htype, hprotocol, hbytes, hok⟩ :=
      create_received hntop hpeer hfitsBuffer
    refine ⟨?_, ?_, ?_, ?_⟩
    · rw [makeTemp_eq]
      exact hfits
    · intro process fd memory hconnects hlen
      rw [run_accept_connects libc process ⟨fd, server⟩ memory hconnects hlen
        hfits]
      split
      · simp [raise]
      · next e he =>
          intro hthrow
          cases hthrow
          exact create_ne_overWrite _ _ _ he
    · refine ⟨?_, ?_⟩
      · rw [received, written_length _ (by simpa using hfits),
          List.length_replicate]
      · exact take_written _ hfits
    · intro process fd memory hconnects hoffered
      rw [makeTemp_eq] at hoffered
      refine ⟨⟨process.kernel.freshFd process.choice.descriptor, created⟩,
        ?_, hclass, hdomain, htype, hprotocol, hbytes⟩
      rw [run_accept_received process fd memory hpeer hfits hconnects
        hoffered, hok]

/-- The loopback address is a peer of the loopback server. -/
theorem loopback_peerOf :
    (inet InetAddress.loopbackAddress).PeerOf
      InetAddress.loopbackEntry.aiAddr :=
  Or.inl ⟨rfl, rfl, rfl⟩

theorem bufferFits_loopback :
    BufferFits (InetAddress.resolvingLibc [])
      (inet InetAddress.loopbackAddress)
      InetAddress.loopbackEntry.aiAddr :=
  (bufferFits_iff (InetAddress.resolvingLibc_ntopSucceeds [])
    loopback_peerOf).mpr rfl

/-- The peer of an IPv6 server is longer than the temporary. -/
theorem not_bufferFits_global :
    (inet InetAddress.globalAddress).PeerOf InetAddress.globalEntry.aiAddr ∧
      ¬ BufferFits (InetAddress.resolvingLibc [])
        (inet InetAddress.globalAddress)
        InetAddress.globalEntry.aiAddr := by
  refine ⟨Or.inr ⟨rfl, rfl, rfl⟩, ?_⟩
  intro hbuffer
  exact absurd hbuffer.fits (by decide)

end Law

end Address

end BsdSockets
