import BsdSockets.TextFormat
import BsdSockets.Lib.PartialMap

/-!
# The resolver loop of InetAddress::create

The loop of `create` walks the resolver's list with two stopping conditions:
the end of the list, and the counter against `max`, where 0 means unlimited.
`requested` is the part of the list it is asked for.  The loop is shown to be
the fallible map of the loop body over exactly that part:

* `createEntry_spec` says everything one pass can do;
* `createLoop_spec` is the loop invariant, carried for an arbitrary counter
  and an arbitrary content of the caller's vector;
* `createVector_of_results` is the whole call.

The two main results are about the whole call: which prefix it takes and what
number it returns, and what a call that throws leaves behind.
-/

namespace BsdSockets

namespace InetAddress

open Memory
open PartialMap

section Entry

variable (libc : Libc) (socketType : SocketType)
variable (serviceName address : CppString)

/-- An entry of one of the two internet families. -/
def IsInternet (entry : AddrInfo) : Prop :=
  entry.aiFamily = afInet ∨ entry.aiFamily = afInet6

instance (entry : AddrInfo) : Decidable (IsInternet entry) :=
  inferInstanceAs (Decidable (_ ∨ _))

/-- The address that an entry stands for: its family's domain and its protocol,
with what the caller asked for. -/
structure Describes
    (entry : AddrInfo) (inetAddress : InetAddress) : Prop where
  socketDomain :
    lowLevelToSocketDomain entry.aiFamily = .ok inetAddress.socketDomain
  socketType : inetAddress.socketType = socketType
  protocol : inetAddress.protocol = entry.aiProtocol
  serviceName : inetAddress.serviceName = serviceName
  requestedAddress : inetAddress.requestedAddress = address

/-- The `sockaddr` of an internet entry holds at least a `sockaddr_in`, and the
bytes `inet_ntop` reads at the IPv4 offset. -/
theorem aiAddr_long
    {entry : AddrInfo}
    (h : IsInternet entry) :
    sizeofSockaddrIn ≤ entry.aiAddr.length ∧
      offsetSinAddr + inetNtopWidth entry.aiFamily ≤ entry.aiAddr.length := by
  rw [entry.sized]
  rcases h with h | h
  · obtain ⟨hlen, _⟩ := entry.inet h
    rw [hlen, h]
    decide
  · obtain ⟨hlen, _⟩ := entry.inet6 h
    rw [hlen, h]
    decide

/-- The bytes that `parseAddress` hands to `inet_ntop` for an entry. -/
def parsedBytes (entry : AddrInfo) : List UInt8 :=
  (entry.aiAddr.drop offsetSinAddr).take (inetNtopWidth entry.aiFamily)

theorem parsedBytes_length
    {entry : AddrInfo}
    (h : IsInternet entry) :
    (parsedBytes entry).length = inetNtopWidth entry.aiFamily := by
  have hlong := (aiAddr_long h).2
  rw [parsedBytes, List.length_take, List.length_drop]
  omega

theorem parseAddressInfo_eq
    {entry : AddrInfo}
    (h : IsInternet entry) :
    parseAddressInfo libc entry =
      match libc.inetNtop entry.aiFamily (parsedBytes entry) with
      | none => raise (.invalidArgument "Address not valid")
      | some text => .ok text := by
  rw [parseAddressInfo, parseAddress]
  rw [window_eq_some _ (aiAddr_long h).2]
  rfl

/-- One pass on an internet entry: `inet_ntop` decides, and the stored structure
is the first `sizeof(sockaddr_in)` bytes of the entry's `sockaddr`. -/
theorem createEntry_internet
    {entry : AddrInfo}
    (h : IsInternet entry) :
    (libc.inetNtop entry.aiFamily (parsedBytes entry) = none ∧
      createEntry libc socketType serviceName address entry =
        raise (.invalidArgument "Address not valid")) ∨
    ∃ text inetAddress,
      libc.inetNtop entry.aiFamily (parsedBytes entry) = some text ∧
      createEntry libc socketType serviceName address entry =
        .ok inetAddress ∧
      Describes socketType serviceName address entry inetAddress ∧
      inetAddress.pimpl.actualAddress = text ∧
      inetAddress.pimpl.lowLevelAddress.lowLevelAddress =
        entry.aiAddr.take sizeofSockaddrIn := by
  have hparse := parseAddressInfo_eq libc h
  obtain ⟨domain, hdomain, hinternet⟩ :
      ∃ domain, lowLevelToSocketDomain entry.aiFamily = .ok domain ∧
        (domain = .inet4 ∨ domain = .inet6) := by
    rcases (lowLevelToSocketDomain_internet_iff _).mpr h with hd | hd
    · exact ⟨.inet4, hd, Or.inl rfl⟩
    · exact ⟨.inet6, hd, Or.inr rfl⟩
  obtain ⟨stored, hcopy, hbytes⟩ :
      ∃ stored : InetLowLevelAddress,
        LowLevelAddressType.copyOf entry.aiAddr = .ok stored ∧
        stored.lowLevelAddress = entry.aiAddr.take sizeofSockaddrIn :=
    ⟨_, LowLevelAddressType.copyOf_eq_ok entry.aiAddr (aiAddr_long h).1, rfl⟩
  cases hntop : libc.inetNtop entry.aiFamily (parsedBytes entry) with
  | none =>
      left
      refine ⟨rfl, ?_⟩
      rw [hntop] at hparse
      simp only [createEntry, hdomain, hparse, Bind.bind, Except.bind,
        dif_pos hinternet, raise]
  | some text =>
      right
      rw [hntop] at hparse
      refine
        ⟨text,
          ⟨domain, socketType, entry.aiProtocol, serviceName, address,
            ⟨stored, text⟩, hinternet⟩,
          rfl, ?_, ⟨hdomain, rfl, rfl, rfl, rfl⟩, rfl, hbytes⟩
      simp only [createEntry, hdomain, hparse, InetAddressPimpl.new, hcopy,
        Bind.bind, Except.bind, dif_pos hinternet, Pure.pure, Except.pure]

/-- One pass on any other entry throws. -/
theorem createEntry_other
    {entry : AddrInfo}
    (h : ¬ IsInternet entry) :
    ∃ what, createEntry libc socketType serviceName address entry =
      raise (.invalidArgument what) := by
  cases hdomain : lowLevelToSocketDomain entry.aiFamily with
  | error e =>
      refine ⟨"Unknown SocketDomain", ?_⟩
      have he : e = .throws (.invalidArgument "Unknown SocketDomain") := by
        rw [lowLevelToSocketDomain] at hdomain
        split at hdomain
        · cases hdomain
        · exact (Except.error.inj hdomain).symm
      simp only [createEntry, hdomain, Bind.bind, Except.bind, he, raise]
  | ok domain =>
      refine ⟨"Invalid address family for address", ?_⟩
      have hnot : ¬ (domain = .inet4 ∨ domain = .inet6) := by
        rintro (rfl | rfl)
        · exact h ((lowLevelToSocketDomain_internet_iff _).mp (Or.inl hdomain))
        · exact h ((lowLevelToSocketDomain_internet_iff _).mp (Or.inr hdomain))
      simp only [createEntry, hdomain, Bind.bind, Except.bind, dif_neg hnot]

/-- A pass that builds an address had an internet entry. -/
theorem createEntry_spec
    {entry : AddrInfo} {inetAddress : InetAddress}
    (h : createEntry libc socketType serviceName address entry =
      .ok inetAddress) :
    IsInternet entry ∧
      Describes socketType serviceName address entry inetAddress ∧
      libc.inetNtop entry.aiFamily (parsedBytes entry) =
        some inetAddress.pimpl.actualAddress ∧
      inetAddress.pimpl.lowLevelAddress.lowLevelAddress =
        entry.aiAddr.take sizeofSockaddrIn := by
  by_cases hinternet : IsInternet entry
  · rcases createEntry_internet libc socketType serviceName address hinternet
      with ⟨_, hthrow⟩ | ⟨text, built, hntop, hok, hdescribes, htext, hbytes⟩
    · rw [hthrow] at h
      cases h
    · rw [hok] at h
      cases h
      refine ⟨hinternet, hdescribes, ?_, hbytes⟩
      rw [hntop, htext]
  · obtain ⟨what, hthrow⟩ :=
      createEntry_other libc socketType serviceName address hinternet
    rw [hthrow] at h
    cases h

/-- A pass that does not build an address throws. -/
theorem createEntry_throws
    {entry : AddrInfo} {e : Abrupt}
    (h : createEntry libc socketType serviceName address entry = .error e) :
    ∃ what, e = .throws (.invalidArgument what) := by
  by_cases hinternet : IsInternet entry
  · rcases createEntry_internet libc socketType serviceName address hinternet
      with ⟨_, hthrow⟩ | ⟨text, built, _, hok, _⟩
    · rw [hthrow] at h
      exact ⟨_, (Except.error.inj h).symm⟩
    · rw [hok] at h
      cases h
  · obtain ⟨what, hthrow⟩ :=
      createEntry_other libc socketType serviceName address hinternet
    rw [hthrow] at h
    exact ⟨what, (Except.error.inj h).symm⟩

/-- When `inet_ntop` succeeds, a pass builds an address exactly on the internet
families. -/
theorem createEntry_ok_iff
    (hntop : libc.NtopSucceeds)
    (entry : AddrInfo) :
    (∃ inetAddress,
      createEntry libc socketType serviceName address entry =
        .ok inetAddress) ↔ IsInternet entry := by
  constructor
  · rintro ⟨inetAddress, hok⟩
    exact (createEntry_spec libc socketType serviceName address hok).1
  · intro h
    rcases createEntry_internet libc socketType serviceName address h
      with ⟨hnone, _⟩ | ⟨_, built, _, hok, _⟩
    · have hsome := hntop entry.aiFamily (parsedBytes entry) h
        (parsedBytes_length h)
      rw [hnone] at hsome
      cases hsome
    · exact ⟨built, hok⟩

end Entry

section Loop

variable (libc : Libc) (socketType : SocketType)
variable (serviceName address : CppString)

/-- The part of the list a call with `max` asks for; 0 means unlimited. -/
def requested (max : UInt32) (results : List AddrInfo) : List AddrInfo :=
  if max = 0 then results else results.take max.toNat

/-- The part still asked for when `count` passes are done. -/
def remaining
    (max count : UInt32) (results : List AddrInfo) : List AddrInfo :=
  if max = 0 then results else results.take (max.toNat - count.toNat)

theorem remaining_zero
    (max : UInt32) (results : List AddrInfo) :
    remaining max 0 results = requested max results := by
  simp [remaining, requested]

/-- The loop condition on `max`. -/
theorem continues_iff
    (max count : UInt32) :
    (max ≤ 0 ∨ count < max) ↔ (max = 0 ∨ count.toNat < max.toNat) := by
  rw [UInt32.le_iff_toNat_le, UInt32.lt_iff_toNat_lt, ← UInt32.toNat_inj]
  simp

theorem remaining_of_stopped
    {max count : UInt32}
    (h : ¬ (max ≤ 0 ∨ count < max))
    (results : List AddrInfo) :
    remaining max count results = [] := by
  rw [continues_iff, not_or] at h
  have hzero : max.toNat - count.toNat = 0 := by
    omega
  rw [remaining, if_neg h.1, hzero, List.take_zero]

theorem remaining_cons
    {max count : UInt32}
    (h : max ≤ 0 ∨ count < max)
    (result : AddrInfo) (rest : List AddrInfo) :
    remaining max count (result :: rest) =
      result :: remaining max (count + 1) rest := by
  rw [continues_iff] at h
  by_cases hmax : max = 0
  · simp [remaining, hmax]
  · have hlt : count.toNat < max.toNat := by
      rcases h with h | h
      · exact absurd h hmax
      · exact h
    have hsucc : (count + 1).toNat = count.toNat + 1 := by
      have hbound := max.toNat_lt
      rw [UInt32.toNat_add]
      simp
      omega
    have hsub :
        max.toNat - count.toNat =
          (max.toNat - (count + 1).toNat) + 1 := by
      omega
    rw [remaining, remaining, if_neg hmax, if_neg hmax, hsub,
      List.take_succ_cons]

/-- Loop invariant: from any counter and any vector, the loop is the fallible
map of its body over the entries still asked for. -/
theorem createLoop_spec
    (max : UInt32) (results : List AddrInfo)
    (count : UInt32) (created : List InetAddress) :
    createLoop libc socketType serviceName address max
        results count created =
      (match firstError (createEntry libc socketType serviceName address)
          (remaining max count results) with
        | some e => .error e
        | none =>
            .ok (count + UInt32.ofNat (remaining max count results).length),
       created ++
        builtPrefix (createEntry libc socketType serviceName address)
          (remaining max count results)) := by
  induction results generalizing count created with
  | nil =>
      simp [createLoop, remaining, firstError, builtPrefix]
  | cons result rest ih =>
      rw [createLoop]
      by_cases hgo : max ≤ 0 ∨ count < max
      · rw [if_pos hgo, remaining_cons hgo]
        cases hentry :
            createEntry libc socketType serviceName address result with
        | error e =>
            rw [firstError_cons_error _ hentry,
              builtPrefix_cons_error _ hentry, List.append_nil]
        | ok inetAddress =>
            simp only [ih, firstError_cons_ok _ hentry,
              builtPrefix_cons_ok _ hentry, List.append_assoc,
              List.singleton_append]
            cases firstError (createEntry libc socketType serviceName address)
                (remaining max (count + 1) rest) with
            | some e =>
                rfl
            | none =>
                simp only [List.length_cons, UInt32.ofNat_add,
                  UInt32.ofNat_one, UInt32.add_assoc]
                rw [UInt32.add_comm 1]
      · rw [if_neg hgo, remaining_of_stopped hgo]
        simp [firstError, builtPrefix]

end Loop

section Call

variable (libc : Libc) (socketType : SocketType)
variable (serviceName address : CppString)

/-- The whole call once the resolver has answered with a list. -/
theorem createVector_of_results
    {results : List AddrInfo}
    (hresolve :
      resolve libc socketType serviceName address = .ok (.results results))
    (hne : results ≠ [])
    (created : List InetAddress) (max : UInt32) :
    createVector libc socketType serviceName address created max =
      match firstError (createEntry libc socketType serviceName address)
          (requested max results) with
      | some e =>
          ⟨.error e,
            created ++
              builtPrefix (createEntry libc socketType serviceName address)
                (requested max results), 0⟩
      | none =>
          ⟨.ok (UInt32.ofNat (requested max results).length).toInt32.toInt,
            created ++
              builtPrefix (createEntry libc socketType serviceName address)
                (requested max results), 1⟩ := by
  cases results with
  | nil =>
      exact absurd rfl hne
  | cons result rest =>
      simp only [createVector, hresolve, createLoop_spec, remaining_zero]
      cases firstError (createEntry libc socketType serviceName address)
          (requested max (result :: rest)) with
      | some e =>
          rfl
      | none =>
          simp

/-- The `int` that a count of `n` is returned as is `n` exactly below `2 ^ 31`. -/
theorem returnedCount_eq_iff
    (n : Nat) :
    (UInt32.ofNat n).toInt32.toInt = (n : Int) ↔ n < 2 ^ 31 := by
  constructor
  · intro h
    have hlt := (UInt32.ofNat n).toInt32.toInt_lt
    rw [h] at hlt
    omega
  · intro h
    rw [UInt32.toInt32_ofNat', Int32.toInt_ofNat_of_lt h]

/-- What a caller relies on: the call throws exactly on a family that is not an
internet one in the requested part; otherwise it appends one address per
requested entry, in order, and returns their number. -/
structure TakesPrefix
    (results : List AddrInfo)
    (created : List InetAddress) (max : UInt32) : Prop where
  throws_iff :
    (∃ e,
      (createVector libc socketType serviceName address created max).result =
        .error (.throws e)) ↔
      ∃ entry ∈ requested max results, ¬ IsInternet entry
  otherwise :
    (∀ entry ∈ requested max results, IsInternet entry) →
      ∃ addresses,
        (createVector libc socketType serviceName address created
            max).created = created ++ addresses ∧
        List.Forall₂ (Describes socketType serviceName address)
          (requested max results) addresses ∧
        (createVector libc socketType serviceName address created
            max).result = .ok (requested max results).length

variable {libc}

/-- The loop body fails on some requested entry exactly when the entry's family
is not an internet one. -/
theorem firstError_eq_none_iff_internet
    (hntop : libc.NtopSucceeds)
    (entries : List AddrInfo) :
    firstError (createEntry libc socketType serviceName address) entries =
        none ↔
      ∀ entry ∈ entries, IsInternet entry := by
  rw [firstError_eq_none_iff]
  constructor
  · intro h entry hentry
    exact
      (createEntry_ok_iff libc socketType serviceName address hntop entry).mp
        (h entry hentry)
  · intro h entry hentry
    exact
      (createEntry_ok_iff libc socketType serviceName address hntop entry).mpr
        (h entry hentry)

/-- The addresses built from internet entries describe them, one for one. -/
theorem builtPrefix_describes
    {entries : List AddrInfo}
    (h : firstError (createEntry libc socketType serviceName address)
      entries = none) :
    List.Forall₂ (Describes socketType serviceName address) entries
      (builtPrefix (createEntry libc socketType serviceName address)
        entries) := by
  refine (builtPrefix_forall₂ _ h).imp ?_
  intro entry inetAddress hok
  exact (createEntry_spec libc socketType serviceName address hok).2.1

/-- The number returned is the only part of the contract that can fail, and it
fails exactly when it does not fit into an `int`. -/
theorem takesPrefix_iff_count
    (hntop : libc.NtopSucceeds)
    {results : List AddrInfo}
    (hresolve :
      resolve libc socketType serviceName address = .ok (.results results))
    (hne : results ≠ [])
    (created : List InetAddress) (max : UInt32) :
    TakesPrefix libc socketType serviceName address results created max ↔
      (∃ entry ∈ requested max results, ¬ IsInternet entry) ∨
        (requested max results).length < 2 ^ 31 := by
  have hcall :=
    createVector_of_results libc socketType serviceName address hresolve hne
      created max
  have hinternet :=
    firstError_eq_none_iff_internet socketType serviceName address hntop
      (requested max results)
  cases herror :
      firstError (createEntry libc socketType serviceName address)
        (requested max results) with
  | some e =>
      rw [herror] at hcall
      have hbad : ∃ entry ∈ requested max results, ¬ IsInternet entry := by
        by_contra hall
        push Not at hall
        have hnone := hinternet.mpr hall
        rw [herror] at hnone
        cases hnone
      obtain ⟨failing, _, hfailing⟩ := exists_of_firstError_eq_some _ herror
      obtain ⟨what, rfl⟩ :=
        createEntry_throws libc socketType serviceName address hfailing
      constructor
      · intro _
        exact Or.inl hbad
      · intro _
        refine ⟨⟨fun _ => hbad, fun _ => ?_⟩, ?_⟩
        · rw [hcall]
          exact ⟨_, rfl⟩
        · intro hall
          obtain ⟨entry, hmem, hnot⟩ := hbad
          exact absurd (hall entry hmem) hnot
  | none =>
      rw [herror] at hcall
      have hall := hinternet.mp herror
      have hnobad : ¬ ∃ entry ∈ requested max results, ¬ IsInternet entry := by
        rintro ⟨entry, hmem, hnot⟩
        exact hnot (hall entry hmem)
      constructor
      · intro h
        obtain ⟨_, _, _, hresult⟩ := h.otherwise hall
        rw [hcall] at hresult
        exact Or.inr ((returnedCount_eq_iff _).mp (Except.ok.inj hresult))
      · rintro (hbad | hlt)
        · exact absurd hbad hnobad
        · refine ⟨⟨?_, fun hbad => absurd hbad hnobad⟩, fun _ => ?_⟩
          · rintro ⟨e, he⟩
            rw [hcall] at he
            cases he
          · refine
              ⟨_, ?_,
                builtPrefix_describes socketType serviceName address herror,
                ?_⟩
            · rw [hcall]
            · rw [hcall]
              exact congrArg Except.ok ((returnedCount_eq_iff _).mpr hlt)

/-- The vector after the call, whether it returned or threw. -/
theorem createVector_created
    {results : List AddrInfo}
    (hresolve :
      resolve libc socketType serviceName address = .ok (.results results))
    (hne : results ≠ [])
    (created : List InetAddress) (max : UInt32) :
    (createVector libc socketType serviceName address created max).created =
      created ++
        builtPrefix (createEntry libc socketType serviceName address)
          (requested max results) := by
  rw [createVector_of_results libc socketType serviceName address hresolve hne]
  split <;> rfl

/-- A smaller request asks for a prefix of what a larger one asks for. -/
theorem requested_eq_take
    {smaller larger : UInt32}
    (hpos : smaller ≠ 0)
    (hle : larger = 0 ∨ smaller ≤ larger)
    (results : List AddrInfo) :
    requested smaller results =
      (requested larger results).take smaller.toNat := by
  simp only [requested]
  rw [if_neg hpos]
  rcases hle with hzero | hle
  · rw [if_pos hzero]
  · have hnat := UInt32.le_iff_toNat_le.mp hle
    have hlarger : larger ≠ 0 := by
      rintro rfl
      apply hpos
      apply UInt32.toNat_inj.mp
      simpa using hnat
    rw [if_neg hlarger, List.take_take, Nat.min_eq_left hnat]

/-- A call with a smaller limit leaves a prefix of what a larger one leaves. -/
theorem createVector_prefix
    {results : List AddrInfo}
    (hresolve :
      resolve libc socketType serviceName address = .ok (.results results))
    (hne : results ≠ [])
    (created : List InetAddress)
    {smaller larger : UInt32}
    (hpos : smaller ≠ 0)
    (hle : larger = 0 ∨ smaller ≤ larger) :
    (createVector libc socketType serviceName address created
        smaller).created <+:
      (createVector libc socketType serviceName address created
        larger).created := by
  rw [createVector_created socketType serviceName address hresolve hne,
    createVector_created socketType serviceName address hresolve hne,
    requested_eq_take hpos hle]
  exact
    (List.prefix_append_right_inj created).mpr (builtPrefix_take _ _ _)

/-- The one-address overload is one pass of the loop body on the first entry. -/
theorem createSingle_eq
    {result : AddrInfo} {rest : List AddrInfo}
    (hresolve :
      resolve libc socketType serviceName address =
        .ok (.results (result :: rest))) :
    createSingle libc socketType serviceName address =
      createEntry libc socketType serviceName address result := by
  have hcall :=
    createVector_of_results libc socketType serviceName address hresolve
      (by simp) [] 1
  have hone : requested 1 (result :: rest) = [result] := by
    simp [requested]
  rw [hone] at hcall
  rw [createSingle]
  rw [hcall]
  cases hentry : createEntry libc socketType serviceName address result with
  | error e =>
      rw [firstError_cons_error _ hentry]
  | ok inetAddress =>
      rw [firstError_cons_ok _ hentry, builtPrefix_cons_ok _ hentry]
      rfl

/-- `found.at(0)` does not fail. -/
theorem createSingle_ne_outOfRange
    {results : List AddrInfo}
    (hresolve :
      resolve libc socketType serviceName address = .ok (.results results))
    (hne : results ≠ []) :
    createSingle libc socketType serviceName address ≠ raise .outOfRange := by
  cases results with
  | nil =>
      exact absurd rfl hne
  | cons result rest =>
      rw [createSingle_eq socketType serviceName address hresolve]
      intro h
      obtain ⟨what, hthrow⟩ :=
        createEntry_throws libc socketType serviceName address h
      cases hthrow

/-- The one-address overload returns what an unlimited call puts first. -/
theorem createSingle_eq_first
    {results : List AddrInfo}
    (hresolve :
      resolve libc socketType serviceName address = .ok (.results results))
    (hne : results ≠ [])
    (created : List InetAddress)
    {inetAddress : InetAddress}
    (hsingle :
      createSingle libc socketType serviceName address = .ok inetAddress) :
    (createVector libc socketType serviceName address created
        0).created[created.length]? = some inetAddress := by
  cases results with
  | nil =>
      exact absurd rfl hne
  | cons result rest =>
      rw [createSingle_eq socketType serviceName address hresolve] at hsingle
      rw [createVector_created socketType serviceName address hresolve hne]
      have hall : requested 0 (result :: rest) = result :: rest := by
        simp [requested]
      rw [hall, builtPrefix_cons_ok _ hsingle]
      simp

/-- **The loop takes exactly the requested prefix.**  The contract holds exactly
when the requested part has a bad family or fewer than `2 ^ 31` entries; what
the overload and the limits promise holds in every case. -/
theorem createVector_takes_requested
    (hntop : libc.NtopSucceeds)
    {results : List AddrInfo}
    (hresolve :
      resolve libc socketType serviceName address = .ok (.results results))
    (hne : results ≠ [])
    (created : List InetAddress) (max : UInt32) :
    (TakesPrefix libc socketType serviceName address results created max ↔
      (∃ entry ∈ requested max results, ¬ IsInternet entry) ∨
        (requested max results).length < 2 ^ 31) ∧
    createSingle libc socketType serviceName address ≠ raise .outOfRange ∧
    (∀ inetAddress,
      createSingle libc socketType serviceName address = .ok inetAddress →
        (createVector libc socketType serviceName address created
          0).created[created.length]? = some inetAddress) ∧
    ∀ smaller larger : UInt32,
      smaller ≠ 0 → (larger = 0 ∨ smaller ≤ larger) →
        (createVector libc socketType serviceName address created
            smaller).created <+:
          (createVector libc socketType serviceName address created
            larger).created := by
  refine ⟨?_, ?_, ?_, ?_⟩
  · exact
      takesPrefix_iff_count socketType serviceName address hntop hresolve hne
        created max
  · exact
      createSingle_ne_outOfRange socketType serviceName address hresolve hne
  · intro inetAddress hsingle
    exact
      createSingle_eq_first socketType serviceName address hresolve hne
        created hsingle
  · intro smaller larger hpos hle
    exact
      createVector_prefix socketType serviceName address hresolve hne
        created hpos hle

end Call

section Samples

/-- 127.0.0.1, port 80, as the resolver returns it. -/
def loopbackEntry : AddrInfo where
  aiFamily := afInet
  aiProtocol := 6
  aiAddrlen := sizeofSockaddrIn
  aiAddr := [2, 0, 0, 80, 127, 0, 0, 1, 0, 0, 0, 0, 0, 0, 0, 0]
  sized := rfl
  inet := fun _ => ⟨rfl, rfl⟩
  inet6 := fun h => absurd h (by decide)

/-- 192.168.0.1, port 8080. -/
def privateEntry : AddrInfo where
  aiFamily := afInet
  aiProtocol := 6
  aiAddrlen := sizeofSockaddrIn
  aiAddr := [2, 0, 31, 144, 192, 168, 0, 1, 0, 0, 0, 0, 0, 0, 0, 0]
  sized := rfl
  inet := fun _ => ⟨rfl, rfl⟩
  inet6 := fun h => absurd h (by decide)

/-- The address that is built from the loopback entry. -/
def loopbackAddress : InetAddress where
  socketDomain := .inet4
  socketType := .stream
  protocol := 6
  serviceName := []
  requestedAddress := []
  pimpl :=
    ⟨⟨loopbackEntry.aiAddr, loopbackEntry.sized⟩,
      TextFormat.dottedText [127, 0, 0, 1]⟩
  internet := Or.inl rfl

/-- The address that is built from the private entry. -/
def privateAddress : InetAddress where
  socketDomain := .inet4
  socketType := .stream
  protocol := 6
  serviceName := []
  requestedAddress := []
  pimpl :=
    ⟨⟨privateEntry.aiAddr, privateEntry.sized⟩,
      TextFormat.dottedText [192, 168, 0, 1]⟩
  internet := Or.inl rfl

/-- An entry of a family that is no internet family. -/
def localEntry : AddrInfo where
  aiFamily := afLocal
  aiProtocol := 0
  aiAddrlen := 2
  aiAddr := [1, 0]
  sized := rfl
  inet := fun h => absurd h (by decide)
  inet6 := fun h => absurd h (by decide)

/-- A C library whose resolver always answers with the same list. -/
def resolvingLibc (results : List AddrInfo) : Libc :=
  TextFormat.plainLibc (fun _ _ _ => .results results)

theorem resolvingLibc_ntopSucceeds
    (results : List AddrInfo) :
    (resolvingLibc results).NtopSucceeds :=
  (TextFormat.plainLibc_ntopInverse _).succeeds

theorem resolve_resolvingLibc
    (results : List AddrInfo) (socketType : SocketType)
    (serviceName address : CppString) :
    resolve (resolvingLibc results) socketType serviceName address =
      .ok (.results results) := by
  cases socketType <;> rfl

/-- The limit cuts off the entry that would make the call throw. -/
theorem createVector_takes_requested_loopback :
    TakesPrefix
        (resolvingLibc [loopbackEntry, privateEntry, localEntry]) .stream [] []
        [loopbackEntry, privateEntry, localEntry] [loopbackAddress] 2 ∧
      createSingle
          (resolvingLibc [loopbackEntry, privateEntry, localEntry]) .stream []
          [] ≠ raise .outOfRange ∧
      (createVector
          (resolvingLibc [loopbackEntry, privateEntry, localEntry]) .stream []
          [] [loopbackAddress] 1).created <+:
        (createVector
          (resolvingLibc [loopbackEntry, privateEntry, localEntry]) .stream []
          [] [loopbackAddress] 2).created := by
  obtain ⟨htakes, hsingle, _, hprefixes⟩ :=
    createVector_takes_requested .stream [] []
      (resolvingLibc_ntopSucceeds
        [loopbackEntry, privateEntry, localEntry])
      (resolve_resolvingLibc _ _ _ _) (by simp) [loopbackAddress] 2
  exact ⟨htakes.mpr (Or.inr (by decide)), hsingle,
    hprefixes 1 2 (by decide) (Or.inr (by decide))⟩

/-- A list of `2 ^ 31` entries or more is counted wrongly. -/
theorem not_takesPrefix_replicate
    {n : Nat}
    (h : 2 ^ 31 ≤ n) :
    ¬ TakesPrefix (resolvingLibc (List.replicate n loopbackEntry)) .stream
      [] [] (List.replicate n loopbackEntry) [] 0 := by
  have hne : List.replicate n loopbackEntry ≠ [] := by
    intro hnil
    have hlength := congrArg List.length hnil
    simp only [List.length_replicate, List.length_nil] at hlength
    omega
  rw [takesPrefix_iff_count .stream [] [] (resolvingLibc_ntopSucceeds _)
    (resolve_resolvingLibc _ _ _ _) hne]
  have hall :
      requested 0 (List.replicate n loopbackEntry) =
        List.replicate n loopbackEntry := by
    simp [requested]
  rw [hall, List.length_replicate]
  rintro (⟨entry, hmem, hnot⟩ | hlt)
  · rw [List.eq_of_mem_replicate hmem] at hnot
    exact hnot (Or.inl rfl)
  · omega

theorem createVector_count_overflow :
    ¬ TakesPrefix
      (resolvingLibc (List.replicate (2 ^ 31) loopbackEntry)) .stream
      [] [] (List.replicate (2 ^ 31) loopbackEntry) [] 0 :=
  not_takesPrefix_replicate le_rfl

end Samples

section Failure

variable (libc : Libc) (socketType : SocketType)
variable (serviceName address : CppString)

/-- What is left behind is nothing: the caller's vector is as before, and the
resolver's list was released once. -/
structure LeavesNothing
    (before : List InetAddress) (call : Created) : Prop where
  created_eq : call.created = before
  freed_once : call.freed = 1

/-- **A failed create leaves its work behind.**  Whatever entry makes the call
throw, the addresses built before it stay in the caller's vector and the
resolver's list is never released. -/
theorem createVector_failure_leaves
    {results : List AddrInfo}
    (hresolve :
      resolve libc socketType serviceName address = .ok (.results results))
    (hne : results ≠ [])
    (created : List InetAddress) (max : UInt32)
    {e : Exception}
    (hthrow :
      (createVector libc socketType serviceName address created max).result =
        .error (.throws e)) :
    (createVector libc socketType serviceName address created max).freed = 0 ∧
    (createVector libc socketType serviceName address created max).created =
      created ++
        builtPrefix (createEntry libc socketType serviceName address)
          (requested max results) ∧
    ¬ LeavesNothing created
      (createVector libc socketType serviceName address created max) := by
  have hfreed :
      (createVector libc socketType serviceName address created
        max).freed = 0 := by
    rw [createVector_of_results libc socketType serviceName address hresolve
      hne] at hthrow ⊢
    split at hthrow
    · rfl
    · cases hthrow
  refine ⟨hfreed, ?_, ?_⟩
  · exact
      createVector_created socketType serviceName address hresolve hne
        created max
  · intro hnothing
    have honce := hnothing.freed_once
    rw [hfreed] at honce
    cases honce

/-- The resolver's list is not released when its second entry fails. -/
theorem createVector_failure_leaves_local :
    (createVector (resolvingLibc [loopbackEntry, localEntry]) .stream
      [] [] [] 0).freed = 0 :=
  (createVector_failure_leaves (resolvingLibc [loopbackEntry, localEntry])
    .stream [] [] (resolve_resolvingLibc _ _ _ _) (by simp) [] 0
    (e := .invalidArgument "Invalid address family for address") rfl).1

/-- And the address of the first entry stays in the vector. -/
theorem createVector_second_entry_fails :
    ¬ LeavesNothing []
      (createVector (resolvingLibc [loopbackEntry, localEntry]) .stream
        [] [] [] 0) := by
  rintro ⟨hcreated, _⟩
  exact absurd hcreated (by decide)

end Failure

end InetAddress

end BsdSockets
