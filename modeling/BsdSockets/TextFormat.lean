import BsdSockets.InetAddress

/-!
# Address text

A C library whose address text satisfies the laws assumed of `inet_ntop` and
`inet_pton`.  An IPv4 address is written as four decimal numbers separated by
dots.  An IPv6 address is written as eight hexadecimal groups separated by
colons; `inet_ntop` writes the same text whenever no two neighbouring groups
are zero.

The numerals are written without leading zeros, in at most a given number of
digits, and each text is decoded by splitting it at the separator.
-/

namespace BsdSockets

namespace TextFormat

section Numerals

/-- The character of a digit below 16. -/
def digit (d : Nat) : UInt8 :=
  if d < 10 then UInt8.ofNat (48 + d) else UInt8.ofNat (87 + d)

def digitValue (c : UInt8) : Nat :=
  if c.toNat < 58 then c.toNat - 48 else c.toNat - 87

/-- Numeral of `n` in at most `k` digits, most significant first. -/
def numeral (base : Nat) : Nat → Nat → List UInt8
  | 0, _ => []
  | k + 1, n =>
      if n < base then [digit n]
      else numeral base k (n / base) ++ [digit (n % base)]

/-- The number a numeral denotes. -/
def numeralValue (base : Nat) (text : List UInt8) : Nat :=
  text.foldl (fun value c => value * base + digitValue c) 0

def dot : UInt8 := 46
def colon : UInt8 := 58

/-- A digit is decoded to itself and is no separator. -/
theorem digit_spec :
    ∀ d < 16, digitValue (digit d) = d ∧ digit d ≠ dot ∧ digit d ≠ colon := by
  decide

theorem numeralValue_numeral
    {base : Nat}
    (hpos : 0 < base) (hbase : base ≤ 16)
    (k n : Nat)
    (hn : n < base ^ k) :
    numeralValue base (numeral base k n) = n := by
  induction k generalizing n with
  | zero =>
      have hzero : n = 0 := by
        simpa using hn
      subst hzero
      rfl
  | succ k ih =>
      rw [numeral]
      split
      · next hlt =>
          simp [numeralValue, (digit_spec n (by omega)).1]
      · have hquot : n / base < base ^ k := by
          apply Nat.div_lt_of_lt_mul
          rwa [pow_succ, Nat.mul_comm] at hn
        have hrem : n % base < 16 :=
          lt_of_lt_of_le (Nat.mod_lt n hpos) hbase
        have hbuilt := ih (n / base) hquot
        rw [numeralValue, List.foldl_append]
        rw [numeralValue] at hbuilt
        rw [hbuilt]
        simp only [List.foldl_cons, List.foldl_nil, (digit_spec _ hrem).1]
        exact Nat.div_add_mod' n base

/-- A numeral holds neither separator. -/
theorem numeral_no_separator
    {base : Nat}
    (hpos : 0 < base) (hbase : base ≤ 16)
    (k n : Nat) :
    dot ∉ numeral base k n ∧ colon ∉ numeral base k n := by
  induction k generalizing n with
  | zero =>
      simp [numeral]
  | succ k ih =>
      rw [numeral]
      split
      · next hlt =>
          have hdigit := digit_spec n (by omega)
          simp only [List.mem_singleton]
          exact ⟨fun h => hdigit.2.1 h.symm, fun h => hdigit.2.2 h.symm⟩
      · have hrem : n % base < 16 :=
          lt_of_lt_of_le (Nat.mod_lt n hpos) hbase
        have hdigit := digit_spec _ hrem
        simp only [List.mem_append, List.mem_singleton, not_or]
        exact
          ⟨⟨(ih (n / base)).1, fun h => hdigit.2.1 h.symm⟩,
            ⟨(ih (n / base)).2, fun h => hdigit.2.2 h.symm⟩⟩

end Numerals

section Text

/-- `a.b.c.d` -/
def dottedText (bytes : List UInt8) : List UInt8 :=
  [dot].intercalate (bytes.map (fun b => numeral 10 3 b.toNat))

def dottedBytes (text : List UInt8) : List UInt8 :=
  (text.splitOn dot).map (fun part => UInt8.ofNat (numeralValue 10 part))

/-- The 16-bit groups of an IPv6 address. -/
def groups : List UInt8 → List (UInt8 × UInt8)
  | hi :: lo :: rest => (hi, lo) :: groups rest
  | _ => []

def groupNumber (group : UInt8 × UInt8) : Nat :=
  256 * group.1.toNat + group.2.toNat

def groupBytes (number : Nat) : List UInt8 :=
  [UInt8.ofNat (number / 256), UInt8.ofNat number]

/-- `g0:g1:...:g7` -/
def colonText (bytes : List UInt8) : List UInt8 :=
  [colon].intercalate
    ((groups bytes).map (fun group => numeral 16 4 (groupNumber group)))

def colonBytes (text : List UInt8) : List UInt8 :=
  (text.splitOn colon).flatMap (fun part => groupBytes (numeralValue 16 part))

theorem dottedBytes_dottedText
    (bytes : List UInt8)
    (h : bytes ≠ []) :
    dottedBytes (dottedText bytes) = bytes := by
  rw [dottedBytes, dottedText]
  rw [List.splitOn_intercalate]
  · rw [List.map_map]
    conv_rhs => rw [← List.map_id bytes]
    apply List.map_congr_left
    intro b _
    have hb := b.toNat_lt
    simp only [Function.comp_apply, id_eq]
    rw [numeralValue_numeral (by omega) (by omega) 3 b.toNat (by omega)]
    exact UInt8.ofNat_toNat
  · intro part hpart
    obtain ⟨b, _, rfl⟩ := List.mem_map.mp hpart
    exact (numeral_no_separator (by omega) (by omega) 3 b.toNat).1
  · simpa using h

theorem groupBytes_groupNumber
    (hi lo : UInt8) :
    groupBytes (groupNumber (hi, lo)) = [hi, lo] := by
  have hhi := hi.toNat_lt
  have hlo := lo.toNat_lt
  simp only [groupBytes, groupNumber, List.cons.injEq, and_true]
  constructor
  · apply UInt8.toNat_inj.mp
    rw [UInt8.toNat_ofNat']
    omega
  · apply UInt8.toNat_inj.mp
    rw [UInt8.toNat_ofNat']
    omega

/-- An even number of bytes is recovered from its groups. -/
theorem groups_flatMap
    (n : Nat) (bytes : List UInt8)
    (h : bytes.length = 2 * n) :
    (groups bytes).flatMap (fun group => groupBytes (groupNumber group)) =
      bytes := by
  induction n generalizing bytes with
  | zero =>
      have hnil : bytes = [] := List.length_eq_zero_iff.mp (by omega)
      subst hnil
      rfl
  | succ n ih =>
      match bytes, h with
      | hi :: lo :: rest, h =>
          have hrest : rest.length = 2 * n := by
            simp only [List.length_cons] at h
            omega
          rw [groups, List.flatMap_cons, groupBytes_groupNumber, ih rest hrest]
          rfl

theorem colonBytes_colonText
    (n : Nat) (bytes : List UInt8)
    (hpos : 0 < n)
    (h : bytes.length = 2 * n) :
    colonBytes (colonText bytes) = bytes := by
  rw [colonBytes, colonText]
  rw [List.splitOn_intercalate]
  · rw [List.flatMap_map]
    conv_rhs => rw [← groups_flatMap n bytes h]
    congr 1
    funext group
    have hhi := group.1.toNat_lt
    have hlo := group.2.toNat_lt
    have hnumber : groupNumber group < 16 ^ 4 := by
      rw [groupNumber]
      omega
    rw [numeralValue_numeral (by omega) (by omega) 4 _ hnumber]
  · intro part hpart
    obtain ⟨group, _, rfl⟩ := List.mem_map.mp hpart
    exact (numeral_no_separator (by omega) (by omega) 4 _).2
  · match bytes, h with
    | hi :: lo :: rest, _ =>
        simp [groups]
    | [], h =>
        simp only [List.length_nil] at h
        omega
    | [_], h =>
        simp only [List.length_singleton] at h
        omega

end Text

/-- A C library with these texts and a given resolver. -/
def plainLibc
    (getaddrinfo : CppString → CppString → Hints → Resolution) : Libc where
  inetNtop family bytes :=
    if family = afInet then some (dottedText bytes)
    else if family = afInet6 then some (colonText bytes)
    else none
  inetPton family text :=
    if family = afInet then some (dottedBytes text)
    else if family = afInet6 then some (colonBytes text)
    else none
  getaddrinfo := getaddrinfo
  gaiStrerror := fun _ => "Name or service not known"

theorem plainLibc_ntopInverse
    (getaddrinfo : CppString → CppString → Hints → Resolution) :
    (plainLibc getaddrinfo).NtopInverse := by
  intro family bytes hfamily hlength
  rcases hfamily with rfl | rfl
  · have hbytes : bytes ≠ [] := by
      rintro rfl
      simp [inetNtopWidth, sizeofInAddr] at hlength
    refine ⟨dottedText bytes, rfl, ?_⟩
    exact congrArg some (dottedBytes_dottedText bytes hbytes)
  · have height : bytes.length = 2 * 8 := by
      simpa [inetNtopWidth, sizeofIn6Addr, afInet, afInet6] using hlength
    refine ⟨colonText bytes, rfl, ?_⟩
    exact congrArg some (colonBytes_colonText 8 bytes (by omega) height)

end TextFormat

end BsdSockets
