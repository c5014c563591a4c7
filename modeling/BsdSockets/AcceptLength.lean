import BsdSockets.AcceptBuffer

/-!
# The length that accept starts from

`lowLevelAccept` declares `socklen_t len` and passes its address before
anything is stored in it.  The kernel reads it as the size of the buffer.  This
file computes for which values of that variable `accept` gives what it gives
when the size of the temporary is offered: the peer's address when there is a
connection, the kernel's error when there is none.
-/

namespace BsdSockets

open Memory

namespace Address

variable {libc : Libc}

section Definitions

/-- The address that the server makes of a peer that was received whole. -/
def PeerAddress
    (libc : Libc) (server : Address) (peer : List UInt8)
    (address : Address) : Prop :=
  ∀ beyond, (libraryClass libc).create server
    ⟨server.received peer, server.capacity⟩ beyond = .ok address

/-- `accept` gives what the kernel's outcome calls for. -/
def AcceptsRight
    (libc : Libc) (process : Process Address) (server : Socket Address)
    (memory : Indeterminate) : Prop :=
  match process.kernel.acceptOutcome process.choice server.lowLevelSocket with
  | .fails e =>
      (process.run
          (ServerSocket.accept (libraryClass libc) server memory)).1 =
        raise (.systemError e "")
  | .connects peer =>
      ∃ address, PeerAddress libc server.address peer address ∧
        (process.run
            (ServerSocket.accept (libraryClass libc) server memory)).1 =
          .ok ⟨process.kernel.freshFd process.choice.descriptor, address⟩

/-- Two runs of one call that differ only in what memory held. -/
structure IndependentOfMemory
    (libc : Libc) (process : Process Address) (server : Socket Address)
    (first second : Indeterminate) : Prop where
  same :
    (process.run
        (ServerSocket.accept (libraryClass libc) server first)).1 =
      (process.run
        (ServerSocket.accept (libraryClass libc) server second)).1
  first_right : AcceptsRight libc process server first
  second_right : AcceptsRight libc process server second

/-- Behind the length, the peer's `sockaddr` has nothing that the address is
made of.  For an IPv4 server these are the bytes that are not zero; where not
even the family is written, the server's own family stands in.  For a local
server it is the path, which must leave room for its NUL.  An IPv6 server has
no such length. -/
def NothingBehind (server : Address) (peer : List UInt8) (len : Nat) : Prop :=
  match server with
  | inet address =>
      address.socketDomain = .inet4 ∧
        (∀ b ∈ peer.drop (2 + (len - 2)), b = 0) ∧
        (len = 0 →
          saFamily address.getLowLevelAddress.getSockAddr = afInet)
  | localPath _ =>
      (beforeNul (peer.drop offsetSunPath)).length < sizeofSunPath ∧
        (beforeNul (peer.drop offsetSunPath)).length ≤ len - 2

/-- The lengths that do no harm.  Without a connection: those not beyond the
temporary.  With one: those not negative as an `int` that cut off nothing. -/
def HarmlessLength (server : Address) (outcome : AcceptOutcome) (len : Nat) :
    Prop :=
  match outcome with
  | .fails _ => len ≤ server.capacity
  | .connects peer => len < 2 ^ 31 ∧ server.NothingBehind peer len

end Definitions

section Inet

/-- The temporary when not even the family was written. -/
theorem assumeFamily_nothing
    (server : Address) (peer : List UInt8)
    (hlong : 2 ≤ server.capacity) :
    saFamily
        (ServerSocket.assumeFamily (libraryClass libc) server
          (Kernel.written peer (List.replicate server.capacity 0) 0)) =
      saFamily ((libraryClass libc).getLowLevelAddress server).getSockAddr := by
  have hzeroed :
      Kernel.written peer (List.replicate server.capacity 0) 0 =
        List.replicate server.capacity 0 := by
    simp [Kernel.written]
  rw [hzeroed, ServerSocket.assumeFamily,
    if_pos (saFamily_zeroed server.capacity).symm]
  generalize ((libraryClass libc).getLowLevelAddress server).getSockAddr = own
  have hread : saFamily own = (readLittle own : Nat) := rfl
  rw [hread, setSaFamily_zeroed _ hlong,
    saFamily_littleBytes _ _ (readLittle_lt own)]

/-- An IPv4 server: the address is right exactly when the buffer is the peer. -/
theorem create_inet_right_iff
    (hntop : libc.NtopSucceeds)
    (server : InetAddress) {peer buffer : List UInt8}
    (hlength : peer.length = sizeofSockaddrIn)
    (hfamily : saFamily peer = afInet)
    (hbuffer : buffer.length = sizeofSockaddrIn)
    (beyond : List UInt8) :
    (∃ address, PeerAddress libc (inet server) peer address ∧
      (libraryClass libc).create (inet server)
        ⟨buffer, (inet server).capacity⟩ beyond = .ok address) ↔
      buffer = peer := by
  obtain ⟨created, hcreated, hreceived, hok⟩ :=
    create_received_inet4 hntop server hlength hfamily
  constructor
  · rintro ⟨address, hright, hcreate⟩
    have heq : inet created = address :=
      Except.ok.inj ((hok []).symm.trans (hright []))
    subst heq
    rw [create_inet] at hcreate
    cases hother :
        server.createFrom libc ⟨buffer, (inet server).capacity⟩ beyond with
    | error e =>
        rw [hother] at hcreate
        cases hcreate
    | ok other =>
        rw [hother] at hcreate
        cases hcreate
        rw [← InetAddress.createFrom_bytes hbuffer hother]
        exact hcreated.bytes
  · rintro rfl
    refine ⟨inet created, hok, ?_⟩
    have h := hok beyond
    rwa [hreceived] at h

/-- The buffer of an IPv4 server is the peer exactly for a harmless length. -/
theorem assumed_inet_eq_iff
    (server : InetAddress) {peer : List UInt8}
    (hlength : peer.length = sizeofSockaddrIn)
    (hfamily : saFamily peer = afInet)
    (len : Nat) :
    ServerSocket.assumeFamily (libraryClass libc) (inet server)
        (Kernel.written peer
          (List.replicate (inet server).capacity 0) len) = peer ↔
      (∀ b ∈ peer.drop (2 + (len - 2)), b = 0) ∧
        (len = 0 →
          saFamily server.getLowLevelAddress.getSockAddr = afInet) := by
  have hlong : 2 ≤ peer.length := by
    rw [hlength]
    decide
  have hsplit : peer = littleBytes 2 ++ peer.drop 2 :=
    sockAddr_split hlong hfamily
  have hrest : (peer.drop 2).length = sizeofSockaddrIn - 2 := by
    rw [List.length_drop, hlength]
  by_cases hserver :
      len = 0 → saFamily server.getLowLevelAddress.getSockAddr = afInet
  · have hassume :
        ServerSocket.assumeFamily (libraryClass libc) (inet server)
            (Kernel.written peer
              (List.replicate (inet server).capacity 0) len) =
          littleBytes 2 ++
            ((peer.drop 2).take (len - 2) ++
              List.replicate
                ((peer.drop 2).length -
                  ((peer.drop 2).take (len - 2)).length) 0) := by
      rw [hrest]
      conv_lhs => rw [hsplit]
      refine assumeFamily_written (libraryClass libc) (inet server)
        (by omega) (by omega) ?_ len hserver
      rw [hrest]
      change sizeofSockaddrIn - 2 + 2 ≤ sizeofSockaddrIn
      decide
    have hdrop : peer.drop (2 + (len - 2)) = (peer.drop 2).drop (len - 2) :=
      (List.drop_drop ..).symm
    rw [hassume, hdrop, and_iff_left hserver,
      ← take_append_replicate_eq_iff (peer.drop 2) (len - 2) 0]
    constructor
    · intro h
      have h' := h.trans hsplit
      exact List.append_cancel_left h'
    · intro h
      rw [h]
      exact hsplit.symm
  · refine iff_of_false ?_ (fun h => hserver h.2)
    intro heq
    apply hserver
    rintro rfl
    have hcapacity : 2 ≤ (inet server).capacity := by
      change 2 ≤ sizeofSockaddrIn
      decide
    have hown := @assumeFamily_nothing libc (inet server) peer hcapacity
    rw [heq, hfamily] at hown
    exact hown.symm

end Inet

section LocalPath

/-- A local address that `create` makes has the path in the buffer. -/
theorem create_localPath_ok
    (server : LocalAddress) {sunPath : List UInt8}
    (hlength : sunPath.length = sizeofSunPath)
    {sockAddrLen : Nat} {beyond : List UInt8} {address : Address}
    (hok : (libraryClass libc).create (localPath server)
      ⟨littleBytes 1 ++ sunPath, sockAddrLen⟩ beyond = .ok address) :
    ∃ created, address = localPath created ∧ 0 ∈ sunPath ∧
      created.path = beforeNul sunPath := by
  rw [create_localPath] at hok
  cases hcreated :
      server.createFrom ⟨littleBytes 1 ++ sunPath, sockAddrLen⟩ beyond with
  | error e =>
      rw [hcreated] at hok
      cases hok
  | ok created =>
      rw [hcreated] at hok
      exact ⟨created, (Except.ok.inj hok).symm,
        server.createFrom_ok hlength hcreated⟩

/-- A local server: the address is right exactly when the path is the peer's
and fits. -/
theorem create_localPath_right_iff
    (server : LocalAddress) {peer sunPath : List UInt8}
    (hpeer : (localPath server).PeerOf peer)
    (hlength : sunPath.length = sizeofSunPath)
    (beyond : List UInt8) :
    (∃ address, PeerAddress libc (localPath server) peer address ∧
      (libraryClass libc).create (localPath server)
        ⟨littleBytes 1 ++ sunPath, (localPath server).capacity⟩ beyond =
          .ok address) ↔
      (beforeNul (peer.drop offsetSunPath)).length < sizeofSunPath ∧
        beforeNul sunPath = beforeNul (peer.drop offsetSunPath) := by
  obtain ⟨hreceived, hwhole⟩ := received_localPath server hpeer
  have hsame :=
    beforeNul_append_replicate (peer.drop offsetSunPath)
      (sizeofSockaddrUn - peer.length)
  generalize peer.drop offsetSunPath ++
    List.replicate (sizeofSockaddrUn - peer.length) 0 = whole
    at hreceived hwhole hsame
  rw [← hsame]
  constructor
  · rintro ⟨address, hright, hcreate⟩
    have hrightNil := hright []
    rw [hreceived] at hrightNil
    obtain ⟨created, haddress, hnul, hpath⟩ :=
      create_localPath_ok server hwhole hrightNil
    obtain ⟨other, hother, _, hotherPath⟩ :=
      create_localPath_ok server hlength hcreate
    have heq : localPath created = localPath other :=
      haddress.symm.trans hother
    rw [localPath.injEq] at heq
    refine ⟨?_, ?_⟩
    · rw [← hwhole]
      exact (beforeNul_length_lt_iff whole).mpr hnul
    · rw [← hotherPath, ← hpath, heq]
  · rintro ⟨hshort, hpaths⟩
    have hnul : 0 ∈ whole := by
      rw [← hwhole] at hshort
      exact (beforeNul_length_lt_iff whole).mp hshort
    have hnul' : 0 ∈ sunPath := by
      rw [← hpaths, ← hlength] at hshort
      exact (beforeNul_length_lt_iff sunPath).mp hshort
    obtain ⟨created, hpath, hok⟩ :=
      LocalAddress.createFrom_terminated server hwhole.le hnul
    obtain ⟨other, hotherPath, hotherOk⟩ :=
      LocalAddress.createFrom_terminated server hlength.le hnul'
    have heq : other = created := by
      apply LocalAddress.eq_of_path
      rw [hotherPath, hpath, hpaths]
    refine ⟨localPath created, ?_, ?_⟩
    · intro behind
      rw [hreceived, create_localPath, hok]
      rfl
    · rw [create_localPath, hotherOk, heq]
      rfl

/-- The `sun_path` that a local server sees of a peer that was cut off. -/
theorem assumed_localPath
    (server : LocalAddress) {peer : List UInt8}
    (hpeer : (localPath server).PeerOf peer)
    (len : Nat) :
    ServerSocket.assumeFamily (libraryClass libc) (localPath server)
        (Kernel.written peer
          (List.replicate (localPath server).capacity 0) len) =
      littleBytes 1 ++
        ((peer.drop offsetSunPath).take (len - 2) ++
          List.replicate
            (sizeofSunPath -
              ((peer.drop offsetSunPath).take (len - 2)).length) 0) := by
  obtain ⟨hlong, hshort, hfamily⟩ := hpeer
  have hsplit : peer = littleBytes 1 ++ peer.drop offsetSunPath :=
    sockAddr_split hlong hfamily
  have hown : saFamily server.getLowLevelAddress.getSockAddr = afLocal := by
    have h := saFamily_sockaddrUn (beforeNul server.path) []
    rw [List.append_nil] at h
    rw [LocalAddress.getSockAddr_eq, h]
  conv_lhs => rw [hsplit]
  refine assumeFamily_written (libraryClass libc) (localPath server)
    (by omega) (by omega) ?_ len (fun _ => hown)
  rw [List.length_drop]
  change peer.length - offsetSunPath + 2 ≤ sizeofSockaddrUn
  simp only [sizeofSockaddrUn, offsetSunPath] at hshort hlong ⊢
  omega

end LocalPath

section Law

/-- A socket is returned for the address that `create` returns. -/
theorem socket_eq_ok_iff
    {x : Outcome Address} {fd : Int} {address : Address} :
    (match x with
      | .ok made => (.ok ⟨fd, made⟩ : Outcome (Socket Address))
      | .error e => .error e) = .ok ⟨fd, address⟩ ↔ x = .ok address := by
  cases x with
  | ok made =>
      simp
  | error e =>
      simp

/-- With a connection, one run is right exactly for a harmless length. -/
theorem connects_right_iff
    (hntop : libc.NtopSucceeds)
    (server : Address) {peer : List UInt8}
    (hpeer : server.PeerOf peer)
    (hfits : peer.length ≤ server.capacity)
    (len : Nat) (beyond : List UInt8) :
    (∃ address, PeerAddress libc server peer address ∧
      (libraryClass libc).create server
        ⟨ServerSocket.assumeFamily (libraryClass libc) server
          (Kernel.written peer (List.replicate server.capacity 0) len),
          server.capacity⟩ beyond = .ok address) ↔
      server.NothingBehind peer len := by
  cases server with
  | inet address =>
      rcases hpeer with ⟨hdomain, hlength, hfamily⟩ | ⟨_, hlength, _⟩
      · have hbuffer :
            (ServerSocket.assumeFamily (libraryClass libc) (inet address)
              (Kernel.written peer
                (List.replicate (inet address).capacity 0) len)).length =
              sizeofSockaddrIn := by
          have hwritten :
              (Kernel.written peer
                (List.replicate (inet address).capacity 0) len).length =
                sizeofSockaddrIn := by
            rw [written_length _ (by simpa using hfits), List.length_replicate]
            rfl
          rw [ServerSocket.assumeFamily]
          split
          · rw [setSaFamily_length, hwritten]
          · exact hwritten
        rw [create_inet_right_iff hntop address hlength hfamily hbuffer,
          assumed_inet_eq_iff address hlength hfamily]
        exact (and_iff_right hdomain).symm
      · have hle : sizeofSockaddrIn6 ≤ sizeofSockaddrIn := by
          rw [← hlength]
          exact hfits
        exact absurd hle (by decide)
  | localPath address =>
      have hshort :
          ((peer.drop offsetSunPath).take (len - 2)).length ≤
            sizeofSunPath := by
        obtain ⟨_, hle, _⟩ := hpeer
        rw [List.length_take, List.length_drop]
        simp only [sizeofSockaddrUn, offsetSunPath] at hle ⊢
        omega
      rw [assumed_localPath address hpeer,
        create_localPath_right_iff address hpeer (by
          rw [List.length_append, List.length_replicate]
          omega),
        beforeNul_append_replicate, beforeNul_take_eq_iff]
      rfl

/-- One run is right exactly for a harmless length. -/
theorem acceptsRight_iff
    (hntop : libc.NtopSucceeds)
    (process : Process Address) (server : Socket Address)
    (hpeer : ∀ peer,
      process.kernel.acceptOutcome process.choice server.lowLevelSocket =
        .connects peer → server.address.PeerOf peer)
    (memory : Indeterminate) :
    AcceptsRight libc process server memory ↔
      server.address.HarmlessLength
        (process.kernel.acceptOutcome process.choice server.lowLevelSocket)
        memory.len := by
  cases houtcome :
      process.kernel.acceptOutcome process.choice server.lowLevelSocket with
  | fails e =>
      have hrun := run_accept_fails libc process server memory houtcome
      simp only [AcceptsRight, houtcome, HarmlessLength, hrun]
      by_cases hlong : memory.len > server.address.capacity
      · rw [if_pos hlong]
        refine iff_of_false ?_ (by omega)
        simp [raise, ServerSocket.overWrite]
      · rw [if_neg hlong]
        exact iff_of_true rfl (by omega)
  | connects peer =>
      have hpeer := hpeer peer houtcome
      simp only [AcceptsRight, houtcome, HarmlessLength]
      by_cases hlen : memory.len < 2 ^ 31
      · rw [and_iff_right hlen]
        obtain ⟨fd, address⟩ := server
        simp only at hpeer houtcome ⊢
        by_cases hfits : peer.length ≤ address.capacity
        · have hrun :=
            run_accept_connects libc process ⟨fd, address⟩ memory houtcome
              hlen hfits
          simp only at hrun
          rw [← connects_right_iff hntop address hpeer hfits memory.len
            memory.beyond]
          refine exists_congr (fun made => and_congr_right (fun _ => ?_))
          rw [hrun]
          exact socket_eq_ok_iff
        · have hlong : address.capacity < peer.length := by
            omega
          have hrun :=
            run_accept_long libc process ⟨fd, address⟩ memory houtcome hlen
              hlong
          refine iff_of_false ?_ ?_
          · rintro ⟨other, _, hok⟩
            rw [hrun] at hok
            split at hok <;> cases hok
          · cases address with
            | inet server =>
                rintro ⟨hdomain, _⟩
                rcases hpeer with ⟨_, hlength, _⟩ | ⟨hsix, _⟩
                · exact hfits (le_of_eq hlength)
                · cases hsix.symm.trans hdomain
            | localPath server =>
                exact absurd hpeer.2.1 hfits
      · have hrun :=
          run_accept_negative libc process server memory houtcome
            (Nat.le_of_not_lt hlen)
        refine iff_of_false ?_ (fun h => hlen h.1)
        rintro ⟨address, _, hok⟩
        rw [hrun] at hok
        cases hok

/-- **`accept` does not depend on what memory held** exactly when what it held
was harmless. -/
theorem accept_independent_iff
    (hntop : libc.NtopSucceeds)
    (process : Process Address) (server : Socket Address)
    (hpeer : ∀ peer,
      process.kernel.acceptOutcome process.choice server.lowLevelSocket =
        .connects peer → server.address.PeerOf peer)
    (first second : Indeterminate) :
    IndependentOfMemory libc process server first second ↔
      server.address.HarmlessLength
          (process.kernel.acceptOutcome process.choice
            server.lowLevelSocket) first.len ∧
        server.address.HarmlessLength
          (process.kernel.acceptOutcome process.choice
            server.lowLevelSocket) second.len := by
  rw [← acceptsRight_iff hntop process server hpeer first,
    ← acceptsRight_iff hntop process server hpeer second]
  constructor
  · intro hindependent
    exact ⟨hindependent.first_right, hindependent.second_right⟩
  · rintro ⟨hfirst, hsecond⟩
    refine ⟨?_, hfirst, hsecond⟩
    rw [AcceptsRight] at hfirst hsecond
    cases houtcome :
        process.kernel.acceptOutcome process.choice
          server.lowLevelSocket with
    | fails e =>
        rw [houtcome] at hfirst hsecond
        exact hfirst.trans hsecond.symm
    | connects peer =>
        rw [houtcome] at hfirst hsecond
        obtain ⟨one, hone, hrunOne⟩ := hfirst
        obtain ⟨two, htwo, hrunTwo⟩ := hsecond
        have heq : one = two :=
          Except.ok.inj ((hone []).symm.trans (htwo []))
        rw [hrunOne, hrunTwo, heq]

/-- The loopback server's socket 3. -/
def loopbackServer : Socket Address :=
  ⟨3, inet InetAddress.loopbackAddress⟩

/-- What a process gets that is about to accept the loopback peer. -/
theorem loopback_outcome :
    ∀ peer,
      (acceptingProcess InetAddress.loopbackEntry.aiAddr).kernel.acceptOutcome
          (acceptingProcess InetAddress.loopbackEntry.aiAddr).choice
          loopbackServer.lowLevelSocket = .connects peer →
        loopbackServer.address.PeerOf peer := by
  intro peer h
  cases h
  exact loopback_peerOf

/-- The loopback peer has its last nonzero byte in place 7. -/
theorem loopback_zero_behind {len : Nat} (hlen : 8 ≤ len) :
    ∀ b ∈ InetAddress.loopbackEntry.aiAddr.drop (2 + (len - 2)), b = 0 := by
  intro b hb
  have hsplit : 2 + (len - 2) = 8 + (len - 8) := by
    omega
  have hzeros :
      InetAddress.loopbackEntry.aiAddr.drop 8 = List.replicate 8 0 := rfl
  rw [hsplit, ← List.drop_drop, hzeros] at hb
  exact List.eq_of_mem_replicate (List.mem_of_mem_drop hb)

/-- Two lengths that hold the peer's last nonzero byte. -/
theorem accept_independent_loopback :
    IndependentOfMemory (InetAddress.resolvingLibc [])
      (acceptingProcess InetAddress.loopbackEntry.aiAddr)
      loopbackServer ⟨8, []⟩ ⟨4096, [1, 2, 3]⟩ :=
  (accept_independent_iff (InetAddress.resolvingLibc_ntopSucceeds [])
    (acceptingProcess InetAddress.loopbackEntry.aiAddr) loopbackServer
    loopback_outcome ⟨8, []⟩ ⟨4096, [1, 2, 3]⟩).mpr
      ⟨⟨by norm_num, rfl, loopback_zero_behind (by norm_num), nofun⟩,
        ⟨by norm_num, rfl, loopback_zero_behind (by norm_num), nofun⟩⟩

/-- With 0 and with 16 in the variable, the same peer gives two addresses. -/
theorem not_accept_independent_zero :
    ¬ IndependentOfMemory (InetAddress.resolvingLibc [])
        (acceptingProcess InetAddress.loopbackEntry.aiAddr)
        loopbackServer ⟨0, []⟩ ⟨16, []⟩ := by
  intro hindependent
  have hharmless :=
    (acceptsRight_iff (InetAddress.resolvingLibc_ntopSucceeds [])
      (acceptingProcess InetAddress.loopbackEntry.aiAddr) loopbackServer
      loopback_outcome ⟨0, []⟩).mp hindependent.first_right
  obtain ⟨_, _, hzero, _⟩ := hharmless
  exact absurd (hzero 127 (by decide)) (by decide)

end Law

end Address

end BsdSockets
