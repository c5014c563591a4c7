import BsdSockets.Address

/-!
# One call of accept

`acceptedData` is what `lowLevelAccept` makes of the kernel's reply; after the
reply nothing but `errno` is read, so a run is the reply followed by a pure
computation.  The rest of the file computes the buffer that this computation
sees: the peer's `sockaddr` as far as the offered length, over a zeroed
temporary, with an unspecified family replaced by the server's.
-/

namespace BsdSockets

open Memory
open Resumption

section Runs

variable {A : Type}

/-- What `lowLevelAccept` makes of a reply. -/
def acceptedData
    (cls : AddressClass A) (serverAddress : A)
    (memory : Indeterminate) (reply : Reply) :
    Outcome (AcceptedSocketData A) :=
  let lowLevelAddress := cls.makeTempLowLevelAddress serverAddress
  if reply.memory.length > lowLevelAddress.getSockAddr.length then
    .error .undefined
  else if reply.len > lowLevelAddress.getSockAddrLen then
    raise ServerSocket.overWrite
  else if -1 = reply.result then
    raise (.systemError reply.errno "")
  else
    match cls.create serverAddress
        ⟨ServerSocket.assumeFamily cls serverAddress reply.memory,
          lowLevelAddress.getSockAddrLen⟩ memory.beyond with
    | .ok address => .ok ⟨reply.result, address⟩
    | .error e => .error e

/-- The call that `lowLevelAccept` makes. -/
def acceptCall
    (cls : AddressClass A) (fd : Int) (serverAddress : A)
    (memory : Indeterminate) : Call A :=
  .accept fd (cls.makeTempLowLevelAddress serverAddress).getSockAddr memory.len

/-- A run of `lowLevelAccept` followed by anything. -/
theorem run_lowLevelAccept_bind
    (cls : AddressClass A) (fd : Int) (serverAddress : A)
    (memory : Indeterminate) (process : Process A)
    {reply : Reply} {after : Process A}
    (hanswer :
      process.answer (acceptCall cls fd serverAddress memory) =
        (reply, after))
    (herrno : reply.Failed → after.errno = reply.errno)
    {α : Type} (k : AcceptedSocketData A → Program A α) :
    process.run
        (ServerSocket.lowLevelAccept cls fd serverAddress memory >>= k) =
      match acceptedData cls serverAddress memory reply with
      | .ok data => after.run (k data)
      | .error e => (.error e, after) := by
  rw [acceptCall] at hanswer
  simp only [ServerSocket.lowLevelAccept, Prog.perform_bind, Prog.call_bind,
    Process.run_call, hanswer, acceptedData]
  split
  · rfl
  · split
    · rfl
    · split
      · next hfailed =>
          have hsame := herrno hfailed.symm
          simp only [throwErrno, Prog.perform_bind, Prog.call_bind,
            Process.run_call, Process.answer_readErrno, hsame]
          rfl
      · cases cls.create serverAddress _ memory.beyond <;> rfl

/-- A returned descriptor is not -1. -/
theorem acceptedData_lowLevelSocket
    {cls : AddressClass A} {serverAddress : A}
    {memory : Indeterminate} {reply : Reply} {data : AcceptedSocketData A}
    (h : acceptedData cls serverAddress memory reply = .ok data) :
    data.lowLevelSocket = reply.result ∧ reply.result ≠ -1 := by
  unfold acceptedData at h
  simp only at h
  split at h
  · cases h
  · split at h
    · cases h
    · split at h
      · cases h
      · next hne =>
          split at h
          · cases h
            exact ⟨rfl, fun heq => hne heq.symm⟩
          · cases h

/-- The `errno` after a failed call is the failure's. -/
theorem errno_after
    (process : Process A) (call : Call A) {reply : Reply} (kernel : Kernel)
    (h : reply.Failed) :
    (process.after call reply kernel).errno = reply.errno :=
  if_pos h

/-- The process after the kernel's answer to the `accept` call. -/
def afterAccept
    (cls : AddressClass A) (server : Socket A)
    (memory : Indeterminate) (process : Process A) : Process A :=
  (process.answer
    (acceptCall cls server.lowLevelSocket server.address memory)).2

/-- The accepted data of the kernel's answer. -/
def acceptedNow
    (cls : AddressClass A) (server : Socket A)
    (memory : Indeterminate) (process : Process A) :
    Outcome (AcceptedSocketData A) :=
  acceptedData cls server.address memory
    (process.answer
      (acceptCall cls server.lowLevelSocket server.address memory)).1

/-- Whatever follows `lowLevelAccept` runs on the accepted data. -/
theorem run_acceptedNow
    (cls : AddressClass A) (server : Socket A)
    (memory : Indeterminate) (process : Process A)
    {α : Type} (k : AcceptedSocketData A → Program A α) :
    process.run
        (ServerSocket.lowLevelAccept cls server.lowLevelSocket server.address
          memory >>= k) =
      match acceptedNow cls server memory process with
      | .ok data => (afterAccept cls server memory process).run (k data)
      | .error e => (.error e, afterAccept cls server memory process) := by
  have hne :
      acceptCall cls server.lowLevelSocket server.address memory ≠
        .readErrno := by
    simp [acceptCall]
  have hanswer := Process.answer_call process hne
  rw [acceptedNow, afterAccept]
  rw [run_lowLevelAccept_bind cls server.lowLevelSocket server.address memory
    process hanswer (fun h => errno_after process _ _ h) k, hanswer]

/-- `accept` makes one call and returns the socket of the accepted data. -/
theorem run_accept_eq
    (cls : AddressClass A) (server : Socket A)
    (memory : Indeterminate) (process : Process A) :
    process.run (ServerSocket.accept cls server memory) =
      (match acceptedNow cls server memory process with
        | .ok data => .ok ⟨data.lowLevelSocket, data.address⟩
        | .error e => .error e,
        afterAccept cls server memory process) := by
  rw [ServerSocket.accept]
  rw [run_acceptedNow]
  cases hdata : acceptedNow cls server memory process with
  | error e =>
      rfl
  | ok data =>
      obtain ⟨hresult, hopen⟩ := acceptedData_lowLevelSocket hdata
      have hminus : ¬ (-1 = data.lowLevelSocket) := by
        rw [hresult]
        exact fun h => hopen h.symm
      simp only [Socket.create, Socket.newExisting, if_neg hminus]
      rfl

/-- The result of `accept` is the socket of the accepted data. -/
theorem run_accept
    (cls : AddressClass A) (server : Socket A)
    (memory : Indeterminate) (process : Process A) :
    (process.run (ServerSocket.accept cls server memory)).1 =
      match acceptedData cls server.address memory
          (process.answer
            (acceptCall cls server.lowLevelSocket server.address memory)).1 with
      | .ok data => .ok ⟨data.lowLevelSocket, data.address⟩
      | .error e => .error e := by
  rw [run_accept_eq]
  rfl

/-- `acceptInNewThread` starts a thread with the accepted data. -/
theorem run_acceptInNewThread
    (cls : AddressClass A) (server : Socket A)
    (memory : Indeterminate) (process : Process A) :
    process.run (ServerSocket.acceptInNewThread cls server memory) =
      match acceptedNow cls server memory process with
      | .error e => (.error e, afterAccept cls server memory process)
      | .ok data =>
          (if -1 =
              ((afterAccept cls server memory process).answer
                (.startThread data)).1.result then
            raise (.systemError
              ((afterAccept cls server memory process).answer
                (.startThread data)).1.errno "")
          else .ok (),
            ((afterAccept cls server memory process).answer
              (.startThread data)).2) := by
  rw [ServerSocket.acceptInNewThread]
  rw [run_acceptedNow]
  cases acceptedNow cls server memory process with
  | error e =>
      rfl
  | ok data =>
      simp only [Prog.perform_bind, Process.run_call]
      split <;> rfl

end Runs

section Replies

variable {A : Type}

/-- The reply of an `accept` that the kernel refuses. -/
theorem Kernel.answer_accept_fails
    {kernel : Kernel} {choice : Choice} {fd e : Int}
    (h : kernel.acceptOutcome choice fd = .fails e)
    (buffer : List UInt8) (len : Nat) :
    kernel.answer choice (.accept fd buffer len : Call A) =
      (Kernel.acceptFailed e buffer len, kernel) := by
  simp only [Kernel.answer, h]

/-- A negative length is rejected. -/
theorem Kernel.answer_accept_negative
    {kernel : Kernel} {choice : Choice} {fd : Int} {peer : List UInt8}
    (h : kernel.acceptOutcome choice fd = .connects peer)
    (buffer : List UInt8) {len : Nat}
    (hlen : 2 ^ 31 ≤ len) :
    kernel.answer choice (.accept fd buffer len : Call A) =
      (Kernel.acceptFailed einval buffer len, kernel) := by
  simp only [Kernel.answer, h, if_pos hlen]

/-- The reply of an `accept` that makes a connection. -/
theorem Kernel.answer_accept_connects
    {kernel : Kernel} {choice : Choice} {fd : Int} {peer : List UInt8}
    (h : kernel.acceptOutcome choice fd = .connects peer)
    (buffer : List UInt8) {len : Nat}
    (hlen : len < 2 ^ 31) :
    kernel.answer choice (.accept fd buffer len : Call A) =
      (⟨kernel.freshFd choice.descriptor, 0, Kernel.written peer buffer len,
          peer.length, kernel.accepted⟩,
        kernel.acceptFd _ (kernel.freshFd_nonneg choice.descriptor)) := by
  simp only [Kernel.answer, h, if_neg (Nat.not_le.mpr hlen)]

/-- An `accept` fails and changes nothing, or it makes a connection on a fresh
descriptor. -/
theorem Kernel.answer_accept_cases
    (kernel : Kernel) (choice : Choice)
    (fd : Int) (buffer : List UInt8) (len : Nat) :
    (∃ e, kernel.answer choice (.accept fd buffer len : Call A) =
      (Kernel.acceptFailed e buffer len, kernel)) ∨
    ∃ peer, kernel.answer choice (.accept fd buffer len : Call A) =
      (⟨kernel.freshFd choice.descriptor, 0, Kernel.written peer buffer len,
          peer.length, kernel.accepted⟩,
        kernel.acceptFd _ (kernel.freshFd_nonneg choice.descriptor)) := by
  cases houtcome : kernel.acceptOutcome choice fd with
  | fails e =>
      exact Or.inl ⟨e, Kernel.answer_accept_fails houtcome buffer len⟩
  | connects peer =>
      rcases Nat.lt_or_ge len (2 ^ 31) with hlen | hlen
      · exact Or.inr
          ⟨peer, Kernel.answer_accept_connects houtcome buffer hlen⟩
      · exact Or.inl
          ⟨einval, Kernel.answer_accept_negative houtcome buffer hlen⟩

end Replies

section Buffer

/-- What was written of a peer that fits stays inside the buffer. -/
theorem written_length
    {peer buffer : List UInt8} (len : Nat)
    (h : peer.length ≤ buffer.length) :
    (Kernel.written peer buffer len).length = buffer.length := by
  simp only [Kernel.written, List.length_append, List.length_take,
    List.length_drop]
  omega

/-- With room for all of the peer, all of it is written. -/
theorem take_written
    {peer : List UInt8} (buffer : List UInt8) {len : Nat}
    (h : peer.length ≤ len) :
    (Kernel.written peer buffer len).take peer.length = peer := by
  rw [Kernel.written, List.take_of_length_le h, List.take_left']
  rfl

/-- Over a zeroed temporary, the peer is cut off and padded with zeros. -/
theorem written_zeroed
    (peer : List UInt8) (n len : Nat) :
    Kernel.written peer (List.replicate n 0) len =
      peer.take len ++ List.replicate (n - (peer.take len).length) 0 := by
  rw [Kernel.written, List.drop_replicate]

/-- A `sockaddr` is its two family bytes and the rest. -/
theorem sockAddr_split
    {peer : List UInt8} {family : Nat}
    (hlong : 2 ≤ peer.length)
    (hfamily : saFamily peer = family) :
    peer = littleBytes family ++ peer.drop 2 := by
  match peer, hlong with
  | a :: b :: rest, _ =>
      have hread : readLittle (a :: b :: rest) = family := by
        rw [saFamily] at hfamily
        exact_mod_cast hfamily
      rw [← hread, littleBytes_readLittle]
      rfl

/-- The family bytes of a small family number. -/
theorem littleBytes_small
    {family : Nat}
    (h : family < 256) :
    littleBytes family = [UInt8.ofNat family, 0] := by
  have hzero : family / 256 = 0 := by
    omega
  rw [littleBytes, hzero]
  rfl

theorem saFamily_zeroed
    (n : Nat) :
    saFamily (List.replicate n 0) = afUnspec := by
  match n with
  | 0 =>
      rfl
  | 1 =>
      rfl
  | n + 2 =>
      rfl

theorem setSaFamily_zeroed
    {n : Nat} (family : Nat)
    (h : 2 ≤ n) :
    setSaFamily (List.replicate n 0) family =
      littleBytes family ++ List.replicate (n - 2) 0 := by
  rw [setSaFamily, Int.toNat_natCast, overlay_replicate _ _ _ (by simpa using h)]
  rfl

variable {A : Type}

/-- The temporary after the family fallback, for a peer of a small family:
where no family byte was written, the server's family stands in. -/
theorem assumeFamily_written
    (cls : AddressClass A) (serverAddress : A)
    {family n : Nat} {rest : List UInt8}
    (hpos : 0 < family) (hsmall : family < 256)
    (hfits : rest.length + 2 ≤ n)
    (len : Nat)
    (hserver : len = 0 →
      saFamily (cls.getLowLevelAddress serverAddress).getSockAddr = family) :
    ServerSocket.assumeFamily cls serverAddress
        (Kernel.written (littleBytes family ++ rest) (List.replicate n 0)
          len) =
      littleBytes family ++
        (rest.take (len - 2) ++
          List.replicate (n - 2 - (rest.take (len - 2)).length) 0) := by
  rw [written_zeroed]
  have hread : ∀ tail : List UInt8,
      saFamily (littleBytes family ++ tail) = family :=
    fun tail => saFamily_littleBytes family tail (by omega)
  have hset : ∀ tail : List UInt8,
      ServerSocket.assumeFamily cls serverAddress
          (littleBytes family ++ tail) = littleBytes family ++ tail := by
    intro tail
    refine if_neg ?_
    rw [hread]
    simp only [afUnspec]
    omega
  match len, hserver with
  | 0, hserver =>
      have hserver := hserver rfl
      simp only [List.take_zero, List.nil_append, List.length_nil,
        Nat.sub_zero]
      rw [ServerSocket.assumeFamily, if_pos (saFamily_zeroed n).symm, hserver,
        setSaFamily_zeroed family (by omega)]
      rfl
  | 1, _ =>
      have hone :
          (littleBytes family ++ rest).take 1 ++
              List.replicate
                (n - ((littleBytes family ++ rest).take 1).length) 0 =
            littleBytes family ++ List.replicate (n - 2) 0 := by
        have hpred : n - 1 = (n - 2) + 1 := by
          omega
        rw [littleBytes_small hsmall]
        simp [hpred, List.replicate_succ]
      rw [hone, hset]
      simp
  | len + 2, _ =>
      have htake :
          (littleBytes family ++ rest).take (len + 2) =
            littleBytes family ++ rest.take len := by
        rw [littleBytes_small hsmall]
        rfl
      have hlength :
          n - (littleBytes family ++ rest.take len).length =
            n - 2 - (rest.take len).length := by
        rw [List.length_append, littleBytes_length]
        omega
      rw [htake, hlength, List.append_assoc, hset]
      rfl

end Buffer

section Library

variable (libc : Libc)

theorem Address.capacity_lt
    (self : Address) :
    self.capacity < 2 ^ 31 := by
  cases self with
  | inet address =>
      change sizeofSockaddrIn < 2 ^ 31
      decide
  | localPath address =>
      change sizeofSockaddrUn < 2 ^ 31
      decide

/-- `accept` when the kernel has no connection: a length beyond the temporary
hides the kernel's error. -/
theorem run_accept_fails
    (process : Process Address) (server : Socket Address)
    (memory : Indeterminate) {e : Int}
    (h : process.kernel.acceptOutcome process.choice server.lowLevelSocket =
      .fails e) :
    (process.run
        (ServerSocket.accept (Address.libraryClass libc) server memory)).1 =
      if memory.len > server.address.capacity then
        raise ServerSocket.overWrite
      else raise (.systemError e "") := by
  rw [run_accept, Process.answer_call process (by simp [acceptCall])]
  simp only [acceptCall, Kernel.answer_accept_fails h]
  simp only [acceptedData, Address.makeTemp_eq, Kernel.acceptFailed,
    List.length_replicate, gt_iff_lt, lt_irrefl, if_false, if_true]
  by_cases hlong : server.address.capacity < memory.len
  · simp only [if_pos hlong]
    rfl
  · simp only [if_neg hlong]
    rfl

/-- `accept` when the kernel takes the length for a negative one. -/
theorem run_accept_negative
    (process : Process Address) (server : Socket Address)
    (memory : Indeterminate) {peer : List UInt8}
    (h : process.kernel.acceptOutcome process.choice server.lowLevelSocket =
      .connects peer)
    (hlen : 2 ^ 31 ≤ memory.len) :
    (process.run
        (ServerSocket.accept (Address.libraryClass libc) server memory)).1 =
      raise ServerSocket.overWrite := by
  have hcapacity := server.address.capacity_lt
  have hlong : memory.len > server.address.capacity := by
    omega
  rw [run_accept, Process.answer_call process (by simp [acceptCall])]
  simp only [acceptCall, Kernel.answer_accept_negative h _ hlen]
  simp only [acceptedData, Address.makeTemp_eq, Kernel.acceptFailed,
    List.length_replicate, gt_iff_lt, lt_irrefl, if_false, if_pos hlong]
  rfl

/-- `accept` of a peer that fits: the template's `create` decides. -/
theorem run_accept_connects
    (process : Process Address) (server : Socket Address)
    (memory : Indeterminate) {peer : List UInt8}
    (h : process.kernel.acceptOutcome process.choice server.lowLevelSocket =
      .connects peer)
    (hlen : memory.len < 2 ^ 31)
    (hfits : peer.length ≤ server.address.capacity) :
    (process.run
        (ServerSocket.accept (Address.libraryClass libc) server memory)).1 =
      match (Address.libraryClass libc).create server.address
          ⟨ServerSocket.assumeFamily (Address.libraryClass libc)
              server.address
              (Kernel.written peer
                (List.replicate server.address.capacity 0) memory.len),
            server.address.capacity⟩ memory.beyond with
      | .ok address =>
          .ok ⟨process.kernel.freshFd process.choice.descriptor, address⟩
      | .error e => .error e := by
  have hnonneg :=
    process.kernel.freshFd_nonneg process.choice.descriptor
  have hinside :
      ¬ ((Kernel.written peer
          (List.replicate server.address.capacity 0) memory.len).length >
        server.address.capacity) := by
    rw [written_length _ (by simpa using hfits), List.length_replicate]
    omega
  have hshort : ¬ (peer.length > server.address.capacity) := by
    omega
  have hminus :
      ¬ (-1 = process.kernel.freshFd process.choice.descriptor) := by
    omega
  rw [run_accept, Process.answer_call process (by simp [acceptCall])]
  simp only [acceptCall, Kernel.answer_accept_connects h _ hlen]
  simp only [acceptedData, Address.makeTemp_eq, List.length_replicate,
    if_neg hinside, if_neg hshort, if_neg hminus]
  cases (Address.libraryClass libc).create server.address _ memory.beyond <;>
    rfl

/-- `accept` of a peer that does not fit never returns. -/
theorem run_accept_long
    (process : Process Address) (server : Socket Address)
    (memory : Indeterminate) {peer : List UInt8}
    (h : process.kernel.acceptOutcome process.choice server.lowLevelSocket =
      .connects peer)
    (hlen : memory.len < 2 ^ 31)
    (hlong : server.address.capacity < peer.length) :
    (process.run
        (ServerSocket.accept (Address.libraryClass libc) server memory)).1 =
      if server.address.capacity < memory.len then .error .undefined
      else raise ServerSocket.overWrite := by
  have hover :
      ((Kernel.written peer
          (List.replicate server.address.capacity 0) memory.len).length >
        server.address.capacity) ↔ server.address.capacity < memory.len := by
    simp only [Kernel.written, List.length_append, List.length_take,
      List.length_drop, List.length_replicate]
    omega
  have hmore : peer.length > server.address.capacity := hlong
  rw [run_accept, Process.answer_call process (by simp [acceptCall])]
  simp only [acceptCall, Kernel.answer_accept_connects h _ hlen]
  simp only [acceptedData, Address.makeTemp_eq, List.length_replicate, hover,
    if_pos hmore]
  by_cases hwide : server.address.capacity < memory.len
  · simp only [if_pos hwide]
  · simp only [if_neg hwide]
    rfl

end Library

end BsdSockets
