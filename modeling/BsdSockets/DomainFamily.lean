import BsdSockets.AcceptBuffer
import BsdSockets.Lib.Chain
import BsdSockets.Opening
import BsdSockets.ResolverLoop

/-!
# The domain of an address and the family of its sockaddr

An `Address` carries its domain twice: as the `SocketDomain` that `::socket` is
called with, and as the family in the bytes that `bind` and `connect` are
called with.  The factories make the two agree; a template `create` takes the
first from the template and the second from the bytes it is given, and
`accept` calls it on the bytes of the peer.

`create_law_iff` compares the two for one `create`, with every pairing of a
template and a family; `Chain.law_iff` carries the agreement through chains of
any length.
-/

namespace BsdSockets

open Memory
open Resumption

section Families

/-- The two internet families taken for one another. -/
def OtherInternet (domain : SocketDomain) (family : Int) : Prop :=
  domain = .inet4 ∧ family = afInet6 ∨ domain = .inet6 ∧ family = afInet

instance (domain : SocketDomain) (family : Int) :
    Decidable (OtherInternet domain family) :=
  inferInstanceAs (Decidable (_ ∧ _ ∨ _ ∧ _))

/-- The domain's own family is not the other one. -/
theorem not_otherInternet_of_ok
    {domain : SocketDomain} {family : Int}
    (h : socketDomainToLowLevel domain = .ok family) :
    ¬ OtherInternet domain family := by
  rintro (⟨rfl, rfl⟩ | ⟨rfl, rfl⟩) <;>
    exact absurd (Except.ok.inj h) (by decide)

/-- For an internet domain the two internet families are its own and the other
one. -/
theorem internet_family
    {domain : SocketDomain} {family : Int}
    (hdomain : domain = .inet4 ∨ domain = .inet6)
    (hfamily : family = afInet ∨ family = afInet6) :
    socketDomainToLowLevel domain = .ok family ∨
      OtherInternet domain family := by
  rcases hdomain with rfl | rfl <;> rcases hfamily with rfl | rfl
  · exact Or.inl rfl
  · exact Or.inr (Or.inl ⟨rfl, rfl⟩)
  · exact Or.inr (Or.inr ⟨rfl, rfl⟩)
  · exact Or.inl rfl

end Families

namespace InetAddress

variable {libc : Libc}

/-- What the template `create` keeps: the template's domain, and the family of
the bytes. -/
theorem createFrom_keeps
    {self created : InetAddress}
    {lowLevelAddress : LowLevelAddress} {beyond : List UInt8}
    (h : self.createFrom libc lowLevelAddress beyond = .ok created) :
    created.socketDomain = self.socketDomain ∧
      saFamily created.getLowLevelAddress.getSockAddr =
        saFamily (lowLevelAddress.getSockAddr ++ beyond) := by
  obtain ⟨hlength, hcreated⟩ := createFrom_spec h
  refine ⟨hcreated.socketDomain, ?_⟩
  rw [hcreated.bytes, saFamily_take _ (by decide) hlength]

/-- Bytes of a family that is no internet family are refused. -/
theorem createFrom_refused
    (self : InetAddress)
    {lowLevelAddress : LowLevelAddress} {beyond : List UInt8}
    (h : ¬ (saFamily (lowLevelAddress.getSockAddr ++ beyond) = afInet ∨
      saFamily (lowLevelAddress.getSockAddr ++ beyond) = afInet6)) :
    ∃ what, self.createFrom libc lowLevelAddress beyond =
      raise (.invalidArgument what) := by
  rw [not_or] at h
  refine ⟨"LowLevelAddress is of wrong type for InetAddress to create", ?_⟩
  rw [createFrom]
  exact if_pos ⟨fun heq => h.1 heq.symm, fun heq => h.2 heq.symm⟩

/-- The address of an internet family is parsed wherever it can be read. -/
theorem parseAddress_internet
    (hntop : libc.NtopSucceeds)
    {family : Int} (hfamily : family = afInet ∨ family = afInet6)
    (sin : List UInt8) :
    (∃ text, parseAddress libc family sin = .ok text) ∨
      parseAddress libc family sin = .error .undefined := by
  rw [parseAddress]
  cases hwindow : window sin offsetSinAddr (inetNtopWidth family) with
  | none =>
      exact Or.inr rfl
  | some src =>
      left
      obtain ⟨text, htext⟩ :=
        Option.isSome_iff_exists.mp
          (hntop family src hfamily (window_length hwindow))
      exact ⟨text, by simp only [htext]⟩

/-- Bytes of either internet family are not refused, whatever the template. -/
theorem createFrom_ne_raise
    (hntop : libc.NtopSucceeds)
    (self : InetAddress)
    {lowLevelAddress : LowLevelAddress} {beyond : List UInt8}
    (h : saFamily (lowLevelAddress.getSockAddr ++ beyond) = afInet ∨
      saFamily (lowLevelAddress.getSockAddr ++ beyond) = afInet6)
    (e : Exception) :
    self.createFrom libc lowLevelAddress beyond ≠ raise e := by
  intro hthrow
  have hknown :
      ¬ (afInet ≠ saFamily (lowLevelAddress.getSockAddr ++ beyond) ∧
        afInet6 ≠ saFamily (lowLevelAddress.getSockAddr ++ beyond)) := by
    rintro ⟨hinet, hinet6⟩
    rcases h with heq | heq
    · exact hinet heq.symm
    · exact hinet6 heq.symm
  rw [createFrom] at hthrow
  simp only [if_neg hknown] at hthrow
  rcases parseAddress_internet hntop h
      (lowLevelAddress.getSockAddr ++ beyond) with ⟨text, hparse⟩ | hparse
  · rw [hparse] at hthrow
    cases hcopy :
        (LowLevelAddressType.copyOf
          (lowLevelAddress.getSockAddr ++ beyond) :
            Outcome InetLowLevelAddress) with
    | error e' =>
        simp only [InetAddressPimpl.new, hcopy, Bind.bind,
          Except.bind] at hthrow
        cases hthrow
        exact LowLevelAddressType.copyOf_ne_raise _ e hcopy
    | ok stored =>
        simp only [InetAddressPimpl.new, hcopy, Bind.bind, Except.bind,
          Pure.pure, Except.pure] at hthrow
        cases hthrow
  · rw [hparse] at hthrow
    cases hthrow

end InetAddress

/-- Bytes of any other family are refused by a local template. -/
theorem LocalAddress.createFrom_refused
    (self : LocalAddress)
    {lowLevelAddress : LowLevelAddress} {beyond : List UInt8}
    (h : saFamily (lowLevelAddress.getSockAddr ++ beyond) ≠ afLocal) :
    ∃ what, self.createFrom lowLevelAddress beyond =
      raise (.invalidArgument what) := by
  refine ⟨"LowLevelAddress is of wrong type for LocalAddress to create", ?_⟩
  rw [createFrom]
  exact if_pos h.symm

namespace Address

variable {libc : Libc}

/-- The domain and the family in the low-level address agree. -/
def DomainAgrees (libc : Libc) (self : Address) : Prop :=
  socketDomainToLowLevel ((libraryClass libc).getSocketDomain self) =
    .ok (saFamily ((libraryClass libc).getLowLevelAddress self).getSockAddr)

section Creates

/-- Every local address agrees. -/
theorem domainAgrees_localPath
    (address : LocalAddress) :
    (localPath address).DomainAgrees libc := by
  have hfamily := saFamily_sockaddrUn (beforeNul address.path) []
  rw [List.append_nil, ← address.getSockAddr_eq] at hfamily
  have hlow :
      saFamily ((libraryClass libc).getLowLevelAddress
        (localPath address)).getSockAddr = afLocal := hfamily
  rw [DomainAgrees, hlow]
  rfl

/-- What one template `create` promises: the created address agrees, and bytes
of a family that is not the template's are refused. -/
structure CreateLaw
    (libc : Libc) (template : Address)
    (lowLevelAddress : LowLevelAddress) (beyond : List UInt8) : Prop where
  agrees : ∀ created,
    (libraryClass libc).create template lowLevelAddress beyond =
        .ok created →
      created.DomainAgrees libc
  refuses :
    socketDomainToLowLevel ((libraryClass libc).getSocketDomain template) ≠
        .ok (saFamily (lowLevelAddress.getSockAddr ++ beyond)) →
      ∃ what,
        (libraryClass libc).create template lowLevelAddress beyond =
          raise (.invalidArgument what)

/-- What a created internet address has of the template and of the bytes. -/
theorem create_inet_keeps
    {address : InetAddress} {created : Address}
    {lowLevelAddress : LowLevelAddress} {beyond : List UInt8}
    (h : (libraryClass libc).create (inet address) lowLevelAddress beyond =
      .ok created) :
    (libraryClass libc).getSocketDomain created = address.socketDomain ∧
      saFamily
          ((libraryClass libc).getLowLevelAddress created).getSockAddr =
        saFamily (lowLevelAddress.getSockAddr ++ beyond) := by
  rw [create_inet] at h
  cases hcreated : address.createFrom libc lowLevelAddress beyond with
  | error e =>
      rw [hcreated] at h
      cases h
  | ok inetAddress =>
      rw [hcreated] at h
      cases h
      exact InetAddress.createFrom_keeps hcreated

/-- An internet template, an internet family: the law is about which of the two
it is. -/
theorem create_law_inet_iff
    (hntop : libc.NtopSucceeds)
    (address : InetAddress)
    {lowLevelAddress : LowLevelAddress} {beyond : List UInt8}
    (hfamily : saFamily (lowLevelAddress.getSockAddr ++ beyond) = afInet ∨
      saFamily (lowLevelAddress.getSockAddr ++ beyond) = afInet6) :
    CreateLaw libc (inet address) lowLevelAddress beyond ↔
      ¬ OtherInternet address.socketDomain
        (saFamily (lowLevelAddress.getSockAddr ++ beyond)) := by
  constructor
  · intro hlaw hother
    have hdiffers :
        socketDomainToLowLevel address.socketDomain ≠
          .ok (saFamily (lowLevelAddress.getSockAddr ++ beyond)) :=
      fun hok => not_otherInternet_of_ok hok hother
    obtain ⟨what, hthrow⟩ := hlaw.refuses hdiffers
    rw [create_inet] at hthrow
    cases hcreated : address.createFrom libc lowLevelAddress beyond with
    | error e =>
        rw [hcreated] at hthrow
        cases hthrow
        exact InetAddress.createFrom_ne_raise hntop address hfamily _ hcreated
    | ok inetAddress =>
        rw [hcreated] at hthrow
        cases hthrow
  · intro hsame
    have hok :
        socketDomainToLowLevel address.socketDomain =
          .ok (saFamily (lowLevelAddress.getSockAddr ++ beyond)) :=
      (internet_family address.internet hfamily).resolve_right hsame
    refine ⟨?_, fun hdiffers => absurd hok hdiffers⟩
    intro created hcreated
    obtain ⟨hdomain, hbytes⟩ := create_inet_keeps hcreated
    rw [DomainAgrees, hdomain, hbytes]
    exact hok

/-- A local template keeps the law whatever it is given. -/
theorem create_law_localPath
    (address : LocalAddress)
    (lowLevelAddress : LowLevelAddress) (beyond : List UInt8) :
    CreateLaw libc (localPath address) lowLevelAddress beyond := by
  refine ⟨?_, ?_⟩
  · intro created hcreated
    rw [create_localPath] at hcreated
    cases hlocal : address.createFrom lowLevelAddress beyond with
    | error e =>
        rw [hlocal] at hcreated
        cases hcreated
    | ok found =>
        rw [hlocal] at hcreated
        cases hcreated
        exact domainAgrees_localPath found
  · intro hdiffers
    have hother :
        saFamily (lowLevelAddress.getSockAddr ++ beyond) ≠ afLocal := by
      intro heq
      exact hdiffers (congrArg Except.ok heq.symm)
    obtain ⟨what, hthrow⟩ := address.createFrom_refused hother
    refine ⟨what, ?_⟩
    rw [create_localPath, hthrow]
    rfl

/-- The law of one `create`, for every template and every family. -/
theorem create_law_iff
    (hntop : libc.NtopSucceeds)
    (template : Address)
    (lowLevelAddress : LowLevelAddress) (beyond : List UInt8) :
    CreateLaw libc template lowLevelAddress beyond ↔
      ¬ OtherInternet ((libraryClass libc).getSocketDomain template)
        (saFamily (lowLevelAddress.getSockAddr ++ beyond)) := by
  cases template with
  | inet address =>
      by_cases hfamily :
          saFamily (lowLevelAddress.getSockAddr ++ beyond) = afInet ∨
            saFamily (lowLevelAddress.getSockAddr ++ beyond) = afInet6
      · exact create_law_inet_iff hntop address hfamily
      · obtain ⟨what, hthrow⟩ := address.createFrom_refused hfamily
        have hcreate :
            (libraryClass libc).create (inet address) lowLevelAddress beyond =
              raise (.invalidArgument what) := by
          rw [create_inet, hthrow]
          rfl
        refine iff_of_true ⟨?_, fun _ => ⟨what, hcreate⟩⟩ ?_
        · intro created hcreated
          rw [hcreate] at hcreated
          cases hcreated
        · rintro (⟨_, hinet6⟩ | ⟨_, hinet⟩)
          · exact hfamily (Or.inr hinet6)
          · exact hfamily (Or.inl hinet)
  | localPath address =>
      refine iff_of_true
        (create_law_localPath address lowLevelAddress beyond) ?_
      rintro (⟨hdomain, _⟩ | ⟨hdomain, _⟩) <;> cases hdomain

end Creates

section Steps

/-- The two ways from an address to another one: `create` with the address as
the template, and `accept` on a server of the address.  `acceptInNewThread`
creates its address as `accept` does. -/
inductive Action where
  | create (lowLevelAddress : LowLevelAddress) (beyond : List UInt8)
  | accept (process : Process Address) (fd : Int) (memory : Indeterminate)

/-- The kernel's reply to the `accept` of a server. -/
def acceptReply
    (libc : Libc) (server : Address)
    (process : Process Address) (fd : Int) (memory : Indeterminate) : Reply :=
  (process.answer (acceptCall (libraryClass libc) fd server memory)).1

/-- The reply passes the checks of `lowLevelAccept`. -/
def ReachesCreate (server : Address) (reply : Reply) : Prop :=
  reply.memory.length ≤ server.capacity ∧ reply.len ≤ server.capacity ∧
    reply.result ≠ -1

instance (server : Address) (reply : Reply) :
    Decidable (server.ReachesCreate reply) :=
  inferInstanceAs (Decidable (_ ∧ _ ∧ _))

namespace Action

/-- The address at the end of the step. -/
def perform (libc : Libc) (template : Address) : Action → Outcome Address
  | create lowLevelAddress beyond =>
      (libraryClass libc).create template lowLevelAddress beyond
  | accept process fd memory => do
      let data ← (process.run
        (ServerSocket.lowLevelAccept (libraryClass libc) fd template
          memory)).1
      return data.address

/-- The bytes that the `create` of the step is given, if it comes to that. -/
def given
    (libc : Libc) (template : Address) :
    Action → Option (LowLevelAddress × List UInt8)
  | create lowLevelAddress beyond => some (lowLevelAddress, beyond)
  | accept process fd memory =>
      let reply := acceptReply libc template process fd memory
      if template.ReachesCreate reply then
        some
          (⟨ServerSocket.assumeFamily (libraryClass libc) template
            reply.memory, template.capacity⟩, memory.beyond)
      else none

/-- The family of the caller's bytes, or of the peer as it was reported. -/
def reportedFamily
    (libc : Libc) (template : Address) : Action → Option Int
  | create lowLevelAddress beyond =>
      some (saFamily (lowLevelAddress.getSockAddr ++ beyond))
  | accept process fd memory =>
      let reply := acceptReply libc template process fd memory
      if template.ReachesCreate reply then some (saFamily reply.memory)
      else none

/-- The step brings the other internet family to an internet template. -/
def MixesInternet
    (libc : Libc) (template : Address) (action : Action) : Prop :=
  ∃ family ∈ action.reportedFamily libc template,
    OtherInternet ((libraryClass libc).getSocketDomain template) family

instance (libc : Libc) (template : Address) (action : Action) :
    Decidable (action.MixesInternet libc template) :=
  inferInstanceAs
    (Decidable (∃ family ∈ action.reportedFamily libc template,
      OtherInternet ((libraryClass libc).getSocketDomain template) family))

/-- What a step promises: its `create` keeps its law, and only it makes
addresses. -/
structure StepLaw
    (libc : Libc) (template : Address) (action : Action) : Prop where
  agrees : ∀ created, action.perform libc template = .ok created →
    created.DomainAgrees libc
  refuses : ∀ lowLevelAddress beyond,
    action.given libc template = some (lowLevelAddress, beyond) →
      socketDomainToLowLevel ((libraryClass libc).getSocketDomain template) ≠
          .ok (saFamily (lowLevelAddress.getSockAddr ++ beyond)) →
        ∃ what, action.perform libc template =
          raise (.invalidArgument what)

end Action

/-- The `accept` of a step, by what `lowLevelAccept` makes of the reply. -/
theorem perform_accept
    (template : Address)
    (process : Process Address) (fd : Int) (memory : Indeterminate) :
    (Action.accept process fd memory).perform libc template =
      match acceptedData (libraryClass libc) template memory
          (acceptReply libc template process fd memory) with
      | .ok data => .ok data.address
      | .error e => .error e := by
  have hrun := run_acceptedNow (libraryClass libc) ⟨fd, template⟩ memory
    process (fun data => Prog.ret data)
  rw [Prog.bind_ret] at hrun
  simp only [Action.perform, hrun]
  change _ = (match acceptedNow (libraryClass libc) ⟨fd, template⟩ memory
      process with
    | .ok data => Except.ok data.address
    | .error e => .error e)
  cases acceptedNow (libraryClass libc) ⟨fd, template⟩ memory process <;>
    rfl

/-- A reply that passes the checks is handed to `create`. -/
theorem acceptedData_reaches
    {server : Address} {reply : Reply}
    (h : server.ReachesCreate reply) (memory : Indeterminate) :
    acceptedData (libraryClass libc) server memory reply =
      ((libraryClass libc).create server
          ⟨ServerSocket.assumeFamily (libraryClass libc) server reply.memory,
            server.capacity⟩ memory.beyond >>= fun address =>
        .ok ⟨reply.result, address⟩) := by
  obtain ⟨hmemory, hlen, hresult⟩ := h
  have hopen : ¬ (-1 = reply.result) := fun heq => hresult heq.symm
  simp only [acceptedData, makeTemp_eq, List.length_replicate,
    if_neg (Nat.not_lt.mpr hmemory), if_neg (Nat.not_lt.mpr hlen),
    if_neg hopen]
  cases (libraryClass libc).create server _ memory.beyond <;> rfl

/-- Any other reply ends the call. -/
theorem acceptedData_stops
    {server : Address} {reply : Reply}
    (h : ¬ server.ReachesCreate reply) (memory : Indeterminate) :
    ∃ e, acceptedData (libraryClass libc) server memory reply = .error e := by
  simp only [acceptedData, makeTemp_eq, List.length_replicate]
  split
  · exact ⟨_, rfl⟩
  · next hmemory =>
      split
      · exact ⟨_, rfl⟩
      · next hlen =>
          split
          · exact ⟨_, rfl⟩
          · next hopen =>
              have hreaches : server.ReachesCreate reply :=
                ⟨Nat.not_lt.mp hmemory, Nat.not_lt.mp hlen,
                  fun heq => hopen heq.symm⟩
              exact absurd hreaches h

/-- A step whose `create` is reached ends as that `create` does. -/
theorem perform_of_given
    {template : Address} {action : Action}
    {lowLevelAddress : LowLevelAddress} {beyond : List UInt8}
    (h : action.given libc template = some (lowLevelAddress, beyond)) :
    action.perform libc template =
      (libraryClass libc).create template lowLevelAddress beyond := by
  cases action with
  | create lowLevelAddress beyond =>
      cases h
      rfl
  | accept process fd memory =>
      simp only [Action.given] at h
      split at h
      · next hreaches =>
          cases h
          rw [perform_accept, acceptedData_reaches hreaches]
          cases (libraryClass libc).create template _ memory.beyond <;> rfl
      · cases h

/-- A step whose `create` is not reached makes no address. -/
theorem perform_of_not_given
    {template : Address} {action : Action}
    (h : action.given libc template = none) :
    ∃ e, action.perform libc template = .error e := by
  cases action with
  | create lowLevelAddress beyond =>
      cases h
  | accept process fd memory =>
      simp only [Action.given] at h
      split at h
      · cases h
      · next hstops =>
          obtain ⟨e, he⟩ := acceptedData_stops hstops memory
          exact ⟨e, by rw [perform_accept, he]⟩

/-- Then no family was reported either. -/
theorem reportedFamily_of_not_given
    {template : Address} {action : Action}
    (h : action.given libc template = none) :
    action.reportedFamily libc template = none := by
  cases action with
  | create lowLevelAddress beyond =>
      cases h
  | accept process fd memory =>
      simp only [Action.given] at h
      split at h
      · cases h
      · next hstops =>
          exact if_neg hstops

/-- The reply to `accept` has at least the bytes of the temporary. -/
theorem capacity_le_acceptReply
    (template : Address)
    (process : Process Address) (fd : Int) (memory : Indeterminate) :
    template.capacity ≤
      (acceptReply libc template process fd memory).memory.length := by
  rw [acceptReply, Process.answer_call _ (by simp [acceptCall])]
  rw [acceptCall, makeTemp_eq]
  rcases process.kernel.answer_accept_cases process.choice fd
      (List.replicate template.capacity 0) memory.len with
    ⟨e, hanswer⟩ | ⟨peer, hanswer⟩
  · rw [hanswer]
    exact (List.length_replicate).ge
  · rw [hanswer]
    simp only [Kernel.written, List.length_append, List.length_drop,
      List.length_replicate]
    omega

theorem two_le_capacity
    (self : Address) :
    2 ≤ self.capacity := by
  cases self with
  | inet address =>
      change 2 ≤ sizeofSockaddrIn
      decide
  | localPath address =>
      change 2 ≤ sizeofSockaddrUn
      decide

/-- The family after the fallback: an unspecified one is the server's. -/
theorem saFamily_assumeFamily
    (server : Address) {sockAddr : List UInt8}
    (h : 2 ≤ sockAddr.length) (beyond : List UInt8) :
    saFamily
        (ServerSocket.assumeFamily (libraryClass libc) server sockAddr ++
          beyond) =
      if afUnspec = saFamily sockAddr then
        saFamily ((libraryClass libc).getLowLevelAddress server).getSockAddr
      else saFamily sockAddr := by
  by_cases hunspec : afUnspec = saFamily sockAddr
  · rw [ServerSocket.assumeFamily, if_pos hunspec, if_pos hunspec,
      saFamily_append _ _ (by rwa [setSaFamily_length]),
      saFamily_setSaFamily _ _ h]
  · rw [ServerSocket.assumeFamily, if_neg hunspec, if_neg hunspec,
      saFamily_append _ _ h]

/-- For a template that agrees, the `create` of a step sees the other internet
family exactly when that family was reported. -/
theorem mixesInternet_iff
    {template : Address} {action : Action}
    (hagrees : template.DomainAgrees libc)
    {lowLevelAddress : LowLevelAddress} {beyond : List UInt8}
    (h : action.given libc template = some (lowLevelAddress, beyond)) :
    action.MixesInternet libc template ↔
      OtherInternet ((libraryClass libc).getSocketDomain template)
        (saFamily (lowLevelAddress.getSockAddr ++ beyond)) := by
  cases action with
  | create lowLevelAddress beyond =>
      cases h
      simp only [Action.MixesInternet, Action.reportedFamily,
        Option.mem_some_iff, exists_eq_left']
  | accept process fd memory =>
      simp only [Action.given] at h
      split at h
      · next hreaches =>
          cases h
          have hlong :
              2 ≤ (acceptReply libc template process fd
                memory).memory.length :=
            le_trans template.two_le_capacity
              (capacity_le_acceptReply template process fd memory)
          simp only [Action.MixesInternet, Action.reportedFamily,
            if_pos hreaches, Option.mem_some_iff, exists_eq_left']
          rw [saFamily_assumeFamily template hlong]
          split
          · next hunspec =>
              refine iff_of_false ?_ (not_otherInternet_of_ok hagrees)
              rw [← hunspec]
              rintro (⟨_, hinet6⟩ | ⟨_, hinet⟩)
              · exact absurd hinet6 (by decide)
              · exact absurd hinet (by decide)
          · exact Iff.rfl
      · cases h

/-- The law of one step, in any state of a chain that has kept the agreement. -/
theorem stepLaw_iff
    (hntop : libc.NtopSucceeds)
    {template : Address}
    (hagrees : template.DomainAgrees libc) (action : Action) :
    action.StepLaw libc template ↔ ¬ action.MixesInternet libc template := by
  cases hgiven : action.given libc template with
  | none =>
      obtain ⟨e, he⟩ := perform_of_not_given hgiven
      refine iff_of_true ⟨?_, ?_⟩ ?_
      · intro created hcreated
        rw [he] at hcreated
        cases hcreated
      · intro lowLevelAddress beyond hother
        rw [hgiven] at hother
        cases hother
      · rintro ⟨family, hfamily, _⟩
        rw [reportedFamily_of_not_given hgiven] at hfamily
        cases hfamily
  | some bytes =>
      obtain ⟨lowLevelAddress, beyond⟩ := bytes
      rw [mixesInternet_iff hagrees hgiven, ← create_law_iff hntop template]
      have hperform := perform_of_given hgiven
      constructor
      · intro hlaw
        refine ⟨?_, ?_⟩
        · intro created hcreated
          exact hlaw.agrees created (hperform.trans hcreated)
        · intro hdiffers
          rw [← hperform]
          exact hlaw.refuses lowLevelAddress beyond hgiven hdiffers
      · intro hlaw
        refine ⟨?_, ?_⟩
        · intro created hcreated
          exact hlaw.agrees created (hperform.symm.trans hcreated)
        · intro other behind hother hdiffers
          rw [hgiven] at hother
          cases hother
          rw [hperform]
          exact hlaw.refuses hdiffers

end Steps

section Origins

/-- The addresses that the resolver and path factories make.  What a call of
the resolver has put into the caller's vector stays there also when it throws. -/
inductive FromFactory (libc : Libc) : Address → Prop
  | resolved
      (socketType : SocketType) (serviceName address : CppString)
      (created : List InetAddress) (max : UInt32) (i : Nat)
      {found : InetAddress}
      (h : (InetAddress.createVector libc socketType serviceName address
        created max).created[created.length + i]? = some found) :
      FromFactory libc (inet found)
  | single
      (socketType : SocketType) (serviceName address : CppString)
      {found : InetAddress}
      (h : InetAddress.createSingle libc socketType serviceName address =
        .ok found) :
      FromFactory libc (inet found)
  | path
      (thePath : CppString)
      {found : LocalAddress}
      (h : LocalAddress.createPath thePath = .ok found) :
      FromFactory libc (localPath found)

/-- An address that is built from a resolver entry agrees: its domain is the
entry's family, and so is that of the entry's `sockaddr`. -/
theorem domainAgrees_of_createEntry
    {socketType : SocketType} {serviceName address : CppString}
    {entry : AddrInfo} {found : InetAddress}
    (h : InetAddress.createEntry libc socketType serviceName address entry =
      .ok found) :
    (inet found).DomainAgrees libc := by
  obtain ⟨hinternet, hdescribes, _, hbytes⟩ :=
    InetAddress.createEntry_spec libc socketType serviceName address h
  have hdomain :=
    (lowLevelToSocketDomain_eq_ok_iff _ _).mp hdescribes.socketDomain
  have hfamily : saFamily entry.aiAddr = entry.aiFamily := by
    rcases hinternet with hinet | hinet6
    · rw [(entry.inet hinet).2, hinet]
    · rw [(entry.inet6 hinet6).2, hinet6]
  have hlow :
      saFamily ((libraryClass libc).getLowLevelAddress
        (inet found)).getSockAddr = entry.aiFamily := by
    change saFamily found.pimpl.lowLevelAddress.lowLevelAddress = _
    rw [hbytes, saFamily_take _ (by decide)
      (InetAddress.aiAddr_long hinternet).1, hfamily]
  rw [DomainAgrees, hlow]
  exact hdomain

/-- What a resolver call appends to the vector is built from an entry. -/
theorem createEntry_of_createVector
    {socketType : SocketType} {serviceName address : CppString}
    {created : List InetAddress} {max : UInt32} {i : Nat}
    {found : InetAddress}
    (h : (InetAddress.createVector libc socketType serviceName address
      created max).created[created.length + i]? = some found) :
    ∃ entry, InetAddress.createEntry libc socketType serviceName address
      entry = .ok found := by
  have hnone : created[created.length + i]? = none :=
    List.getElem?_eq_none (by omega)
  cases hresolve :
      InetAddress.resolve libc socketType serviceName address with
  | error e =>
      simp only [InetAddress.createVector, hresolve] at h
      cases hnone.symm.trans h
  | ok resolution =>
      cases resolution with
      | error code =>
          simp only [InetAddress.createVector, hresolve] at h
          cases hnone.symm.trans h
      | results list =>
          by_cases hempty : list = []
          · subst hempty
            simp only [InetAddress.createVector, hresolve] at h
            cases hnone.symm.trans h
          · rw [InetAddress.createVector_created socketType serviceName
              address hresolve hempty, List.getElem?_append_right (by omega),
              Nat.add_sub_cancel_left] at h
            obtain ⟨entry, _, hentry⟩ := PartialMap.builtPrefix_getElem? _ h
            exact ⟨entry, hentry⟩

/-- What the one-address overload returns is built from an entry. -/
theorem createEntry_of_createSingle
    {socketType : SocketType} {serviceName address : CppString}
    {found : InetAddress}
    (h : InetAddress.createSingle libc socketType serviceName address =
      .ok found) :
    ∃ entry, InetAddress.createEntry libc socketType serviceName address
      entry = .ok found := by
  rw [InetAddress.createSingle] at h
  split at h
  · cases h
  · split at h
    · next hfound =>
        cases h
        have hfirst :
            (InetAddress.createVector libc socketType serviceName address []
              1).created[([] : List InetAddress).length + 0]? =
                some found := hfound
        exact createEntry_of_createVector hfirst
    · cases h

/-- Every address of a factory agrees. -/
theorem FromFactory.domainAgrees
    {address : Address}
    (h : FromFactory libc address) :
    address.DomainAgrees libc := by
  cases h with
  | resolved socketType serviceName address created max i h =>
      obtain ⟨entry, hentry⟩ := createEntry_of_createVector h
      exact domainAgrees_of_createEntry hentry
  | single socketType serviceName address h =>
      obtain ⟨entry, hentry⟩ := createEntry_of_createSingle h
      exact domainAgrees_of_createEntry hentry
  | path thePath h =>
      exact domainAgrees_localPath _

end Origins

section Sockets

/-- The ghost is the domain of the last `::socket`; `bind` and `connect` are
permitted with a `sockaddr` of that family only. -/
def oneDomain (A : Type) : Discipline (Call A) Reply (Option Int) where
  permits domain call :=
    match call with
    | .bind _ sockAddr _ => domain = some (saFamily sockAddr)
    | .connect _ sockAddr _ => domain = some (saFamily sockAddr)
    | _ => True
  possible _ _ := True
  next domain call _ :=
    match call with
    | .socket domain _ _ => some domain
    | _ => domain

/-- No run of the two `open` functions on the address mixes two families. -/
def OpensUnmixed (libc : Libc) (self : Address) : Prop :=
  (∀ (backlog : Int) (reuse : Bool) (process : Process Address),
    (oneDomain Address).Follows none
      ((ServerSocket.«open» (libraryClass libc) self backlog reuse).log
        Process.answer process)) ∧
  ∀ process : Process Address,
    (oneDomain Address).Follows none
      ((ClientSocket.«open» (libraryClass libc) self).log
        Process.answer process)

/-- The steps after `::socket` keep to the family of its domain. -/
def KeepsTo (domain : Int) (call : Call Address) : Prop :=
  (oneDomain Address).permits (some domain) call ∧
    ∀ reply, (oneDomain Address).next (some domain) call reply = some domain

/-- Opening obeys `oneDomain` when the later steps keep to the domain. -/
theorem safe_openWith
    {self : Address} {domain : Int}
    (hdomain :
      socketDomainToLowLevel ((libraryClass libc).getSocketDomain self) =
        .ok domain)
    {later : Int → List (Call Address)}
    (hlater : ∀ fd, ∀ call ∈ later fd, KeepsTo domain call) :
    Safe (oneDomain Address) (fun _ _ => True)
      (openWith (libraryClass libc) self later) none := by
  obtain ⟨type, htype⟩ :=
    socketTypeToLowLevel_total ((libraryClass libc).getSocketType self)
  have hfirst :
      Socket.socketCall (libraryClass libc) self =
        .ok (.socket domain type ((libraryClass libc).getProtocol self)) := by
    simp only [Socket.socketCall, hdomain, htype, Bind.bind, Except.bind,
      Pure.pure, Except.pure]
  rw [openWith_eq (libraryClass libc) self later hfirst]
  refine ⟨trivial, fun reply _ => ?_⟩
  change Safe _ _ _ (some domain)
  have hcalls :=
    safe_checkedCalls_of_unchanged
      (D := oneDomain Address) (g := some domain)
      (fun call hcall => (hlater reply.result call hcall).1)
      (fun call hcall => (hlater reply.result call hcall).2)
      trivial (fun _ => rfl)
  apply Safe.onThrow
  apply Safe.bind
  refine Safe.mono ?_ hcalls
  rintro (e | value) after rfl
  · simp only [Socket.destructor]
    split
    · exact trivial
    · exact ⟨trivial, fun _ _ => trivial⟩
  · exact trivial

/-- An address that agrees is opened in one domain. -/
theorem DomainAgrees.opensUnmixed
    {self : Address}
    (h : self.DomainAgrees libc) :
    self.OpensUnmixed libc := by
  refine ⟨?_, ?_⟩
  · intro backlog reuse process
    rw [server_open_eq_openWith]
    refine Safe.log_follows (fun _ _ => trivial) (safe_openWith h ?_) process
    intro fd call hcall
    cases reuse <;>
      simp only [ServerSocket.openSteps, Bool.false_eq_true, if_true, if_false,
        List.nil_append, List.cons_append, List.mem_cons, List.not_mem_nil,
        or_false] at hcall
    · rcases hcall with rfl | rfl
      · exact ⟨rfl, fun _ => rfl⟩
      · exact ⟨trivial, fun _ => rfl⟩
    · rcases hcall with rfl | rfl | rfl | rfl
      · exact ⟨trivial, fun _ => rfl⟩
      · exact ⟨trivial, fun _ => rfl⟩
      · exact ⟨rfl, fun _ => rfl⟩
      · exact ⟨trivial, fun _ => rfl⟩
  · intro process
    rw [client_open_eq_openWith]
    refine Safe.log_follows (fun _ _ => trivial) (safe_openWith h ?_) process
    intro fd call hcall
    rw [ClientSocket.openSteps, List.mem_singleton] at hcall
    rw [hcall]
    exact ⟨rfl, fun _ => rfl⟩

end Sockets

section Law

/-- What holds along a chain of addresses that starts with this one. -/
structure DomainFamilyLaw
    (libc : Libc) (first : Address) (actions : List Action) : Prop where
  agrees : ∀ address ∈ Chain.states (Action.perform libc) first actions,
    address.DomainAgrees libc
  steps : ∀ attempt ∈ Chain.attempts (Action.perform libc) first actions,
    attempt.2.StepLaw libc attempt.1
  unmixed : ∀ address ∈ Chain.states (Action.perform libc) first actions,
    address.OpensUnmixed libc

/-- **Domain and family agree along every chain** of creates and accepts exactly
when no step of it brings an internet template the other internet family. -/
theorem domain_family_iff
    {libc : Libc}
    (hntop : libc.NtopSucceeds)
    {first : Address} (hfirst : FromFactory libc first)
    (actions : List Action) :
    DomainFamilyLaw libc first actions ↔
      ∀ attempt ∈ Chain.attempts (Action.perform libc) first actions,
        ¬ attempt.2.MixesInternet libc attempt.1 := by
  have hkeeps : ∀ (template : Address) (action : Action) (created : Address),
      template.DomainAgrees libc →
        ¬ action.MixesInternet libc template →
          action.perform libc template = .ok created →
            created.DomainAgrees libc := by
    intro template action created hagrees hunmixed hcreated
    have hlaw := (stepLaw_iff hntop hagrees action).mpr hunmixed
    exact hlaw.agrees created hcreated
  rw [← Chain.law_iff
    (fun template action hagrees => stepLaw_iff hntop hagrees action)
    hkeeps hfirst.domainAgrees actions]
  constructor
  · intro hlaw
    exact ⟨hlaw.agrees, hlaw.steps⟩
  · rintro ⟨hagrees, hsteps⟩
    refine ⟨hagrees, hsteps, ?_⟩
    intro address haddress
    exact (hagrees address haddress).opensUnmixed

/-- A loopback address, created once more from its own bytes, serves and
accepts a peer whose `sockaddr` is not reported. -/
theorem domain_family_loopback :
    DomainFamilyLaw (InetAddress.resolvingLibc [InetAddress.loopbackEntry])
      (inet InetAddress.loopbackAddress)
      [.create InetAddress.loopbackAddress.getLowLevelAddress [],
        .accept (acceptingProcess InetAddress.loopbackEntry.aiAddr) 3
          ⟨0, []⟩] :=
  (domain_family_iff (InetAddress.resolvingLibc_ntopSucceeds _)
    (.resolved .stream [] [] [] 0 0 (by decide)) _).mpr (by decide)

/-- An IPv6 address takes the bytes of an IPv4 one. -/
theorem not_domain_family_global :
    FromFactory (InetAddress.resolvingLibc [InetAddress.globalEntry])
        (inet InetAddress.globalAddress) ∧
      ¬ DomainFamilyLaw
        (InetAddress.resolvingLibc [InetAddress.globalEntry])
        (inet InetAddress.globalAddress)
        [.create InetAddress.loopbackAddress.getLowLevelAddress []] := by
  refine ⟨.resolved .stream [] [] [] 0 0 (by decide), ?_⟩
  intro hlaw
  have hstep := hlaw.steps
    (inet InetAddress.globalAddress,
      .create InetAddress.loopbackAddress.getLowLevelAddress [])
    List.mem_cons_self
  obtain ⟨what, hthrow⟩ := hstep.refuses
    InetAddress.loopbackAddress.getLowLevelAddress [] rfl (by decide)
  cases hthrow

end Law

end Address

end BsdSockets
