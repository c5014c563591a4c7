import BsdSockets.ResolverLoop

/-!
# The actual address of an InetAddress

`parseAddress` reads at `&sin->sin_addr`, the address field of the IPv4
structure, for both families.  In a `sockaddr_in6` that offset is the flow
info, so `inet_ntop` is handed the flow info followed by the first twelve
address bytes.

The section `Shift` shows when this shifted read coincides with the address.
The main result compares, for two entries of one family, the text that is
shown with the text of the family's own address field.
-/

namespace BsdSockets

namespace InetAddress

open Memory

section Fields

/-- The address field of the entry's own family. -/
def ownAddress (entry : AddrInfo) : List UInt8 :=
  if entry.aiFamily = afInet then
    (entry.aiAddr.drop offsetSinAddr).take sizeofInAddr
  else
    (entry.aiAddr.drop offsetSin6Addr).take sizeofIn6Addr

/-- The flow info of a `sockaddr_in6`. -/
def flowinfo (entry : AddrInfo) : List UInt8 :=
  (entry.aiAddr.drop offsetSin6Flowinfo).take sizeofSin6Flowinfo

/-- An IPv6 entry whose address is its flow info four times over. -/
def RepeatsFlowinfo (entry : AddrInfo) : Prop :=
  ownAddress entry =
    flowinfo entry ++ flowinfo entry ++ flowinfo entry ++ flowinfo entry

theorem ownAddress_length
    {entry : AddrInfo}
    (h : IsInternet entry) :
    (ownAddress entry).length = inetNtopWidth entry.aiFamily := by
  rw [ownAddress]
  rcases h with h | h
  · obtain ⟨hlen, _⟩ := entry.inet h
    rw [if_pos h, List.length_take, List.length_drop, entry.sized, hlen, h]
    rfl
  · obtain ⟨hlen, _⟩ := entry.inet6 h
    have hne : entry.aiFamily ≠ afInet := by
      rw [h]
      decide
    rw [if_neg hne, List.length_take, List.length_drop, entry.sized, hlen, h]
    rfl

end Fields

section Shift

/-- A block that starts with `word` and continues with its own beginning is
`word` repeated. -/
theorem shifted_eq_iff
    (word block : List UInt8)
    (hword : word.length = 4) (hblock : block.length = 16) :
    word ++ block.take 12 = block ↔
      block = word ++ word ++ word ++ word := by
  constructor
  · intro h
    have hstep : ∀ n ≤ 12, block.take (4 + n) = word ++ block.take n := by
      intro n hn
      conv_lhs => rw [← h]
      rw [← hword, List.take_length_add_append, List.take_take,
        Nat.min_eq_left hn]
    have h4 := hstep 0 (by omega)
    have h8 := hstep 4 (by omega)
    have h12 := hstep 8 (by omega)
    have h16 := hstep 12 (by omega)
    rw [List.take_zero, List.append_nil] at h4
    rw [h4] at h8
    rw [h8] at h12
    rw [h12] at h16
    rw [List.take_of_length_le (by omega)] at h16
    rw [h16]
    simp only [List.append_assoc]
  · intro h
    have htake : block.take 12 = word ++ word ++ word := by
      have hlength : (word ++ word ++ word).length = 12 := by
        simp [hword]
      rw [h, ← hlength, List.take_left']
      rfl
    rw [htake]
    conv_rhs => rw [h]
    simp only [List.append_assoc]

/-- The bytes read for an IPv6 entry are its flow info and the first twelve
bytes of its address. -/
theorem parsedBytes_inet6
    {entry : AddrInfo}
    (h : entry.aiFamily = afInet6) :
    parsedBytes entry = flowinfo entry ++ (ownAddress entry).take 12 := by
  have hne : entry.aiFamily ≠ afInet := by
    rw [h]
    decide
  have hwidth : inetNtopWidth entry.aiFamily = 4 + 12 := by
    rw [h]
    rfl
  rw [parsedBytes, hwidth, List.take_add, flowinfo, ownAddress, if_neg hne,
    List.drop_drop, List.take_take]
  rfl

/-- For IPv4 the bytes read are the address. -/
theorem parsedBytes_inet
    {entry : AddrInfo}
    (h : entry.aiFamily = afInet) :
    parsedBytes entry = ownAddress entry := by
  rw [parsedBytes, ownAddress, if_pos h, h]
  rfl

/-- When the bytes read are those of the address. -/
theorem parsedBytes_eq_iff
    {entry : AddrInfo}
    (h : IsInternet entry) :
    parsedBytes entry = ownAddress entry ↔
      entry.aiFamily = afInet ∨ RepeatsFlowinfo entry := by
  rcases h with h4 | h6
  · constructor
    · intro _
      exact Or.inl h4
    · intro _
      exact parsedBytes_inet h4
  · have hne : entry.aiFamily ≠ afInet := by
      rw [h6]
      decide
    have hflow : (flowinfo entry).length = 4 := by
      obtain ⟨hlen, _⟩ := entry.inet6 h6
      rw [flowinfo, List.length_take, List.length_drop, entry.sized, hlen]
      rfl
    have hown : (ownAddress entry).length = 16 := by
      rw [ownAddress_length (Or.inr h6), h6]
      rfl
    rw [parsedBytes_inet6 h6, shifted_eq_iff _ _ hflow hown]
    constructor
    · intro hrepeats
      exact Or.inr hrepeats
    · rintro (h4 | hrepeats)
      · exact absurd h4 hne
      · exact hrepeats

end Shift

section Law

variable (libc : Libc)

/-- The text shown is the text of the entry's own address field, and reading
it back gives exactly the address. -/
def ShowsOwnAddress (entry : AddrInfo) : Prop :=
  ∃ text,
    parseAddressInfo libc entry = .ok text ∧
    libc.inetNtop entry.aiFamily (ownAddress entry) = some text ∧
    libc.inetPton entry.aiFamily text = some (ownAddress entry)

/-- What the actual addresses of two entries of one family promise. -/
structure TextLaw (first second : AddrInfo) : Prop where
  first_own : ShowsOwnAddress libc first
  second_own : ShowsOwnAddress libc second
  address_only :
    ownAddress first = ownAddress second →
      parseAddressInfo libc first = parseAddressInfo libc second
  injective :
    ownAddress first ≠ ownAddress second →
      parseAddressInfo libc first ≠ parseAddressInfo libc second

variable {libc}

/-- An entry shows its own address exactly when the bytes read are its own. -/
theorem showsOwnAddress_iff
    (hinverse : libc.NtopInverse)
    {entry : AddrInfo}
    (h : IsInternet entry) :
    ShowsOwnAddress libc entry ↔ parsedBytes entry = ownAddress entry := by
  have hparse := parseAddressInfo_eq libc h
  obtain ⟨readText, hreadText, hreadBack⟩ :=
    hinverse entry.aiFamily (parsedBytes entry) h (parsedBytes_length h)
  obtain ⟨ownText, hownText, hownBack⟩ :=
    hinverse entry.aiFamily (ownAddress entry) h (ownAddress_length h)
  rw [hreadText] at hparse
  constructor
  · rintro ⟨text, htext, _, hback⟩
    rw [hparse] at htext
    cases htext
    rw [hreadBack] at hback
    exact Option.some.inj hback
  · intro heq
    rw [heq] at hreadText hreadBack
    exact ⟨readText, hparse, hreadText, hreadBack⟩

/-- Two entries that both show their own address show equal texts exactly for
equal addresses. -/
theorem textLaw_of_shows
    {first second : AddrInfo}
    (hfamily : first.aiFamily = second.aiFamily)
    (hfirst : ShowsOwnAddress libc first)
    (hsecond : ShowsOwnAddress libc second) :
    TextLaw libc first second := by
  obtain ⟨text₁, hparse₁, hntop₁, hpton₁⟩ := hfirst
  obtain ⟨text₂, hparse₂, hntop₂, hpton₂⟩ := hsecond
  refine
    ⟨⟨text₁, hparse₁, hntop₁, hpton₁⟩, ⟨text₂, hparse₂, hntop₂, hpton₂⟩,
      ?_, ?_⟩
  · intro haddress
    rw [haddress, hfamily, hntop₂] at hntop₁
    rw [hparse₁, hparse₂, Option.some.inj hntop₁]
  · intro haddress htext
    apply haddress
    rw [hparse₁, hparse₂] at htext
    rw [Except.ok.inj htext, hfamily, hpton₂] at hpton₁
    exact (Option.some.inj hpton₁).symm

/-- **The actual address is the text of the resolved address** exactly for IPv4
entries and for IPv6 entries whose address repeats the flow info; it is what
`getActualAddress` returns for the address built from the entry. -/
theorem actualAddress_text_iff
    (hinverse : libc.NtopInverse)
    {first second : AddrInfo}
    (hfirst : IsInternet first) (hsecond : IsInternet second)
    (hfamily : first.aiFamily = second.aiFamily) :
    (TextLaw libc first second ↔
      (first.aiFamily = afInet ∨ RepeatsFlowinfo first) ∧
        (second.aiFamily = afInet ∨ RepeatsFlowinfo second)) ∧
    ∀ socketType serviceName address inetAddress,
      createEntry libc socketType serviceName address first =
          .ok inetAddress →
        parseAddressInfo libc first = .ok inetAddress.getActualAddress := by
  refine ⟨?_, ?_⟩
  · rw [← parsedBytes_eq_iff hfirst, ← parsedBytes_eq_iff hsecond,
      ← showsOwnAddress_iff hinverse hfirst,
      ← showsOwnAddress_iff hinverse hsecond]
    constructor
    · intro hlaw
      exact ⟨hlaw.first_own, hlaw.second_own⟩
    · rintro ⟨h₁, h₂⟩
      exact textLaw_of_shows hfamily h₁ h₂
  · intro socketType serviceName address inetAddress hok
    obtain ⟨_, _, htext, _⟩ :=
      createEntry_spec libc socketType serviceName address hok
    rw [parseAddressInfo_eq libc hfirst, htext]
    rfl

theorem actualAddress_text_loopback :
    TextLaw (resolvingLibc []) loopbackEntry privateEntry ∧
      ∀ socketType serviceName address inetAddress,
        createEntry (resolvingLibc []) socketType serviceName address
            loopbackEntry = .ok inetAddress →
          parseAddressInfo (resolvingLibc []) loopbackEntry =
            .ok inetAddress.getActualAddress := by
  obtain ⟨hlaw, hreturned⟩ :=
    actualAddress_text_iff
      (TextFormat.plainLibc_ntopInverse (fun _ _ _ => .results []))
      (show IsInternet loopbackEntry from Or.inl rfl)
      (show IsInternet privateEntry from Or.inl rfl) rfl
  exact ⟨hlaw.mpr ⟨Or.inl rfl, Or.inl rfl⟩, hreturned⟩

/-- 2001:db8:1:2:3:4:5:6, port 80, with a flow label and a scope. -/
def globalEntry : AddrInfo where
  aiFamily := afInet6
  aiProtocol := 6
  aiAddrlen := sizeofSockaddrIn6
  aiAddr :=
    [10, 0, 0, 80, 0, 1, 0, 2,
      32, 1, 13, 184, 0, 1, 0, 2, 0, 3, 0, 4, 0, 5, 0, 6,
      2, 0, 0, 0]
  sized := rfl
  inet := fun h => absurd h (by decide)
  inet6 := fun _ => ⟨rfl, rfl⟩

/-- Its actual address is the text of another address, 1:2:2001:db8:1:2:3:4. -/
theorem actualAddress_text_global :
    ¬ TextLaw (resolvingLibc []) globalEntry globalEntry := by
  intro hlaw
  have hbytes :=
    (showsOwnAddress_iff (TextFormat.plainLibc_ntopInverse _)
      (Or.inr rfl)).mp hlaw.first_own
  exact absurd hbytes (by decide)

end Law

end InetAddress

end BsdSockets
