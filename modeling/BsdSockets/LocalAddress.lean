import BsdSockets.LowLevelAddress

/-!
# LocalAddress

Model of `LocalAddress.cpp` and the law of its encoding.  A path is a counted
`std::string`; the `sun_path` field of the low-level address is a
NUL-terminated string in a field of fixed size, written with `strcpy` and read
back as a C string.

`encodePath_eq` gives the whole structure for every path that passes the size
check: the family, the bytes before the first NUL of the path, and NULs up to
the end of the field.  Everything else about the encoding is read off from it.
-/

namespace BsdSockets

open Memory

/-- `LowLevelAddressType<sockaddr_un>`. -/
abbrev LocalLowLevelAddress := LowLevelAddressType sizeofSockaddrUn

section Encoding

/-- The structure after the constructor's two assignments: the zeroed
structure, its family, and `strcpy` of `thePath.c_str()` into `sun_path`. -/
def encodePath (thePath : CppString) : List UInt8 :=
  let sockAddr :=
    setSaFamily (LowLevelAddressType.zeroed sizeofSockaddrUn).lowLevelAddress
      afLocal
  sockAddr.take offsetSunPath ++
    overlay (terminated 0 thePath) (sockAddr.drop offsetSunPath)

theorem encodePath_length
    (thePath : CppString) :
    (encodePath thePath).length = sizeofSockaddrUn := by
  simp only [encodePath, List.length_append, overlay_length,
    List.length_take, List.length_drop, setSaFamily_length,
    LowLevelAddressType.sized]
  rfl

/-- The `LocalAddressPimpl` constructor. -/
def LocalAddressPimpl.new
    (thePath : CppString) (allowBlank : Bool) :
    Outcome LocalLowLevelAddress :=
  if allowBlank = false ∧ thePath.length = 0 then
    raise (.invalidArgument "thePath cannot be blank")
  else if thePath.length ≥ sizeofSunPath then
    raise (.invalidArgument "thePath is too long for this system")
  else
    .ok ⟨encodePath thePath, encodePath_length thePath⟩

/-- What the constructor accepts when blanks are not allowed it also accepts
when they are. -/
theorem LocalAddressPimpl.new_allowBlank
    {thePath : CppString} {allowBlank : Bool} {pimpl : LocalLowLevelAddress}
    (h : LocalAddressPimpl.new thePath allowBlank = .ok pimpl) :
    LocalAddressPimpl.new thePath true = .ok pimpl := by
  rw [LocalAddressPimpl.new] at h ⊢
  split at h
  · cases h
  · rw [if_neg (by simp)]
    exact h

end Encoding

/-- A `LocalAddress`; its low-level address is always the encoding of its path. -/
structure LocalAddress where
  path : CppString
  pimpl : LocalLowLevelAddress
  built : LocalAddressPimpl.new path true = .ok pimpl

namespace LocalAddress

/-- The constructor `LocalAddress(thePath, allowBlank)`. -/
def new (thePath : CppString) (allowBlank : Bool) : Outcome LocalAddress :=
  match h : LocalAddressPimpl.new thePath allowBlank with
  | .error e => .error e
  | .ok pimpl => .ok ⟨thePath, pimpl, LocalAddressPimpl.new_allowBlank h⟩

/-- `LocalAddress::create(thePath)`. -/
def createPath (thePath : CppString) : Outcome LocalAddress :=
  new thePath false

def getSocketDomain (_self : LocalAddress) : SocketDomain := .localSocket
def getSocketType (_self : LocalAddress) : SocketType := .stream
def getProtocol (_self : LocalAddress) : Int := 0

def getPath (self : LocalAddress) : CppString :=
  self.path

def getLowLevelAddress (self : LocalAddress) : LowLevelAddress :=
  self.pimpl.toLowLevelAddress

/-- The temporary of a local address is a zeroed `sockaddr_un`. -/
def makeTempLowLevelAddress (_self : LocalAddress) : LowLevelAddress :=
  (LowLevelAddressType.zeroed sizeofSockaddrUn).toLowLevelAddress

/-- The template `create`.  `ref.sun_path` decays to a pointer, so the path is
read up to the first NUL, wherever that lies. -/
def createFrom
    (_self : LocalAddress)
    (lowLevelAddress : LowLevelAddress) (beyond : List UInt8) :
    Outcome LocalAddress :=
  let ref := lowLevelAddress.getSockAddr ++ beyond
  if afLocal ≠ saFamily ref then
    raise (.invalidArgument
      "LowLevelAddress is of wrong type for LocalAddress to create")
  else
    match cString 0 (ref.drop offsetSunPath) with
    | none => .error .undefined
    | some path => new path true

end LocalAddress

section Structure

/-- The bytes of a path that `strcpy` copies: those before the first NUL. -/
def beforeNul (thePath : CppString) : CppString :=
  thePath.takeWhile (fun c => decide (c ≠ 0))

theorem beforeNul_no_nul
    (thePath : CppString) :
    0 ∉ beforeNul thePath :=
  not_mem_takeWhile_ne thePath

theorem beforeNul_length_le
    (thePath : CppString) :
    (beforeNul thePath).length ≤ thePath.length :=
  (List.takeWhile_prefix _).length_le

theorem beforeNul_eq_self_iff
    (thePath : CppString) :
    beforeNul thePath = thePath ↔ 0 ∉ thePath := by
  constructor
  · intro h
    rw [← h]
    exact beforeNul_no_nul thePath
  · exact takeWhile_ne_of_not_mem

/-- Trailing NULs do not change the bytes before the first NUL. -/
theorem beforeNul_append_replicate
    (bytes : List UInt8) (n : Nat) :
    beforeNul (bytes ++ List.replicate n 0) = beforeNul bytes := by
  have hnuls :
      (List.replicate n (0 : UInt8)).takeWhile (fun c => decide (c ≠ 0)) =
        [] := by
    cases n with
    | zero =>
        rfl
    | succ n =>
        simp [List.replicate_succ]
  rw [beforeNul, beforeNul, List.takeWhile_append, hnuls, List.append_nil]
  split
  · next hall =>
      exact ((List.takeWhile_prefix _).eq_of_length hall).symm
  · rfl

/-- The bytes before the first NUL survive a cut exactly when they end before
it. -/
theorem beforeNul_take_eq_iff
    (bytes : List UInt8) (k : Nat) :
    beforeNul (bytes.take k) = beforeNul bytes ↔
      (beforeNul bytes).length ≤ k := by
  rw [beforeNul, ← List.take_takeWhile]
  exact List.take_eq_self_iff _

/-- The bytes before the first NUL are fewer than all exactly when there is
one. -/
theorem beforeNul_length_lt_iff
    (region : List UInt8) :
    (beforeNul region).length < region.length ↔ 0 ∈ region := by
  constructor
  · intro hlt
    by_contra hnone
    rw [(beforeNul_eq_self_iff region).mpr hnone] at hlt
    omega
  · intro hmem
    rcases Nat.lt_or_ge (beforeNul region).length region.length with hlt | hge
    · exact hlt
    · have hself : beforeNul region = region :=
        (List.takeWhile_prefix _).eq_of_length
          (Nat.le_antisymm (beforeNul_length_le region) hge)
      exact absurd hmem ((beforeNul_eq_self_iff region).mp hself)

/-- A `sockaddr_un` that holds `path` and nothing but NULs behind it. -/
def sockaddrUn (path : CppString) : List UInt8 :=
  littleBytes 1 ++
    (path ++ List.replicate (sizeofSunPath - path.length) 0)

/-- The encoding of a path that fits. -/
theorem encodePath_eq
    {thePath : CppString}
    (h : thePath.length < sizeofSunPath) :
    encodePath thePath = sockaddrUn (beforeNul thePath) := by
  have hzeroed :
      setSaFamily
          (LowLevelAddressType.zeroed sizeofSockaddrUn).lowLevelAddress
          afLocal =
        littleBytes 1 ++ List.replicate sizeofSunPath 0 := by
    rfl
  have hshort := beforeNul_length_le thePath
  have hfits : (terminated 0 thePath).length ≤ sizeofSunPath := by
    have hle : (terminated 0 thePath).length ≤ thePath.length + 1 :=
      terminated_length_le thePath
    omega
  have htake :
      (littleBytes 1 ++ List.replicate sizeofSunPath (0 : UInt8)).take
        offsetSunPath = littleBytes 1 := by
    rfl
  have hdrop :
      (littleBytes 1 ++ List.replicate sizeofSunPath (0 : UInt8)).drop
        offsetSunPath = List.replicate sizeofSunPath 0 := by
    rfl
  simp only [encodePath, hzeroed, htake, hdrop]
  rw [overlay_replicate _ _ _ hfits, sockaddrUn]
  congr 1
  have hnuls :
      sizeofSunPath - (beforeNul thePath).length =
        (sizeofSunPath - (terminated 0 thePath).length) + 1 := by
    simp only [terminated, List.length_append, List.length_singleton,
      beforeNul] at hfits hshort ⊢
    omega
  rw [hnuls, List.replicate_succ, terminated, List.append_assoc]
  rfl

theorem saFamily_sockaddrUn
    (path : CppString) (beyond : List UInt8) :
    saFamily (sockaddrUn path ++ beyond) = afLocal := by
  rw [sockaddrUn, List.append_assoc, saFamily_littleBytes 1 _ (by omega)]
  rfl

theorem drop_sockaddrUn
    (path : CppString) (beyond : List UInt8) :
    (sockaddrUn path ++ beyond).drop offsetSunPath =
      path ++ List.replicate (sizeofSunPath - path.length) 0 ++ beyond := by
  rw [sockaddrUn, List.append_assoc]
  rfl

/-- The C string in `sun_path` is the path, whatever lies behind the field. -/
theorem cString_sockaddrUn
    {path : CppString}
    (hnul : 0 ∉ path)
    (hshort : path.length < sizeofSunPath)
    (beyond : List UInt8) :
    cString 0 ((sockaddrUn path ++ beyond).drop offsetSunPath) =
      some path := by
  have hpos :
      sizeofSunPath - path.length = (sizeofSunPath - path.length - 1) + 1 := by
    omega
  rw [drop_sockaddrUn, hpos, List.replicate_succ, List.append_assoc,
    List.cons_append]
  exact cString_append _ hnul

/-- Two NUL-free paths that fit have different structures. -/
theorem sockaddrUn_injective
    {path₁ path₂ : CppString}
    (hnul₁ : 0 ∉ path₁) (hnul₂ : 0 ∉ path₂)
    (hshort₁ : path₁.length < sizeofSunPath)
    (hshort₂ : path₂.length < sizeofSunPath)
    (h : sockaddrUn path₁ = sockaddrUn path₂) :
    path₁ = path₂ := by
  have h₁ := cString_sockaddrUn hnul₁ hshort₁ []
  have h₂ := cString_sockaddrUn hnul₂ hshort₂ []
  rw [h, h₂] at h₁
  exact (Option.some.inj h₁).symm

end Structure

namespace LocalAddress

section Constructor

/-- The constructor accepts exactly the paths that pass its two checks. -/
theorem new_eq_ok_iff
    (thePath : CppString) (allowBlank : Bool) :
    (∃ self, new thePath allowBlank = .ok self) ↔
      (allowBlank = true ∨ thePath ≠ []) ∧
        thePath.length < sizeofSunPath := by
  have hnew :
      (∃ self, new thePath allowBlank = .ok self) ↔
        ∃ pimpl, LocalAddressPimpl.new thePath allowBlank = .ok pimpl := by
    rw [new]
    split
    · next e h =>
        simp [h]
    · next pimpl h =>
        simp [h]
  rw [hnew]
  rw [LocalAddressPimpl.new]
  by_cases hblank : allowBlank = false ∧ thePath.length = 0
  · rw [if_pos hblank]
    obtain ⟨hallow, hlength⟩ := hblank
    have hnil := List.length_eq_zero_iff.mp hlength
    simp [raise, hallow, hnil]
  · rw [if_neg hblank]
    have hok : allowBlank = true ∨ thePath ≠ [] := by
      cases allowBlank with
      | true =>
          exact Or.inl rfl
      | false =>
          right
          rintro rfl
          exact hblank ⟨rfl, rfl⟩
    by_cases hlong : thePath.length ≥ sizeofSunPath
    · rw [if_pos hlong]
      simp only [raise, reduceCtorEq, exists_false, false_iff, not_and]
      omega
    · rw [if_neg hlong]
      constructor
      · intro _
        exact ⟨hok, by omega⟩
      · intro _
        exact ⟨_, rfl⟩

/-- What the constructor builds. -/
theorem new_path
    {thePath : CppString} {allowBlank : Bool} {self : LocalAddress}
    (h : new thePath allowBlank = .ok self) :
    self.path = thePath := by
  rw [new] at h
  split at h
  · cases h
  · cases h
    rfl

/-- The path of every local address fits into `sun_path`. -/
theorem path_short
    (self : LocalAddress) :
    self.path.length < sizeofSunPath := by
  have h := self.built
  rw [LocalAddressPimpl.new] at h
  rw [if_neg (by simp)] at h
  split at h
  · cases h
  · omega

/-- The low-level address of every local address. -/
theorem getSockAddr_eq
    (self : LocalAddress) :
    self.getLowLevelAddress.getSockAddr = sockaddrUn (beforeNul self.path) := by
  have hshort := self.path_short
  have h := self.built
  rw [LocalAddressPimpl.new] at h
  rw [if_neg (by simp), if_neg (by omega)] at h
  have hpimpl := Except.ok.inj h
  rw [← encodePath_eq hshort]
  change self.pimpl.lowLevelAddress = encodePath self.path
  rw [← hpimpl]

/-- Decoding a structure that holds a NUL-free path gives that path. -/
theorem createFrom_sockaddrUn
    (template : LocalAddress)
    {path : CppString}
    (hnul : 0 ∉ path)
    (hshort : path.length < sizeofSunPath)
    (sockAddrLen : Nat) (beyond : List UInt8) :
    ∃ self,
      template.createFrom ⟨sockaddrUn path, sockAddrLen⟩ beyond = .ok self ∧
        self.path = path := by
  obtain ⟨self, hself⟩ :=
    (new_eq_ok_iff path true).mpr ⟨Or.inl rfl, hshort⟩
  refine ⟨self, ?_, new_path hself⟩
  rw [createFrom]
  simp only [saFamily_sockaddrUn, ne_eq, not_true_eq_false, if_false,
    cString_sockaddrUn hnul hshort]
  exact hself

end Constructor

section Law

/-- Size accepted by `create`. -/
def Accepted (thePath : CppString) : Prop :=
  thePath ≠ [] ∧ thePath.length < sizeofSunPath

/-- What the encoding of one path promises. -/
structure SurvivesEncoding (thePath : CppString) : Prop where
  succeeds_iff : (∃ self, createPath thePath = .ok self) ↔ Accepted thePath
  inside : ∀ self, createPath thePath = .ok self →
    thePath.length + 1 ≤ sizeofSunPath ∧
      (self.getLowLevelAddress.getSockAddr.drop offsetSunPath).take
          (thePath.length + 1) = thePath ++ [0]
  family : ∀ self, createPath thePath = .ok self →
    saFamily self.getLowLevelAddress.getSockAddr = afLocal
  names : ∀ self, createPath thePath = .ok self →
    cString 0 (self.getLowLevelAddress.getSockAddr.drop offsetSunPath) =
      some self.getPath
  decodes : ∀ self, createPath thePath = .ok self →
    ∀ (template : LocalAddress) (beyond : List UInt8), ∃ decoded,
      template.createFrom self.getLowLevelAddress beyond = .ok decoded ∧
        decoded.getPath = thePath

/-- What the encoding of two paths promises. -/
structure PathLaw (first second : CppString) : Prop where
  first_survives : SurvivesEncoding first
  second_survives : SurvivesEncoding second
  injective : first ≠ second →
    ∀ self other,
      createPath first = .ok self → createPath second = .ok other →
        self.getLowLevelAddress.getSockAddr ≠
          other.getLowLevelAddress.getSockAddr

/-- The low-level address of a created path. -/
theorem createPath_sockAddr
    {thePath : CppString} {self : LocalAddress}
    (h : createPath thePath = .ok self) :
    self.getLowLevelAddress.getSockAddr = sockaddrUn (beforeNul thePath) ∧
      thePath.length < sizeofSunPath := by
  have hpath := new_path h
  refine ⟨?_, ?_⟩
  · rw [getSockAddr_eq, hpath]
  · rw [← hpath]
    exact self.path_short

theorem createPath_ok_iff
    (thePath : CppString) :
    (∃ self, createPath thePath = .ok self) ↔ Accepted thePath := by
  rw [createPath, new_eq_ok_iff, Accepted]
  simp

/-- An accepted path without NUL survives. -/
theorem survivesEncoding_of_no_nul
    {thePath : CppString}
    (h : Accepted thePath → 0 ∉ thePath) :
    SurvivesEncoding thePath := by
  have hcreated : ∀ self, createPath thePath = .ok self →
      0 ∉ thePath ∧ thePath.length < sizeofSunPath ∧
        self.getLowLevelAddress.getSockAddr = sockaddrUn thePath := by
    intro self hself
    have hnul := h ((createPath_ok_iff thePath).mp ⟨self, hself⟩)
    obtain ⟨hbytes, hshort⟩ := createPath_sockAddr hself
    rw [(beforeNul_eq_self_iff thePath).mpr hnul] at hbytes
    exact ⟨hnul, hshort, hbytes⟩
  refine ⟨createPath_ok_iff thePath, ?_, ?_, ?_, ?_⟩
  · intro self hself
    obtain ⟨_, hshort, hbytes⟩ := hcreated self hself
    refine ⟨hshort, ?_⟩
    have hdrop := drop_sockaddrUn thePath []
    have hpos :
        sizeofSunPath - thePath.length =
          (sizeofSunPath - thePath.length - 1) + 1 := by
      omega
    rw [List.append_nil, List.append_nil, hpos, List.replicate_succ] at hdrop
    rw [hbytes, hdrop, List.take_length_add_append]
    rfl
  · intro self hself
    obtain ⟨_, _, hbytes⟩ := hcreated self hself
    have hfamily := saFamily_sockaddrUn thePath []
    rw [List.append_nil] at hfamily
    rw [hbytes, hfamily]
  · intro self hself
    obtain ⟨hnul, hshort, hbytes⟩ := hcreated self hself
    have hstring := cString_sockaddrUn hnul hshort []
    rw [List.append_nil] at hstring
    rw [hbytes, hstring, getPath, new_path hself]
  · intro self hself template beyond
    obtain ⟨hnul, hshort, hbytes⟩ := hcreated self hself
    obtain ⟨decoded, hdecoded, hpath⟩ :=
      createFrom_sockaddrUn template hnul hshort sizeofSockaddrUn beyond
    refine ⟨decoded, ?_, hpath⟩
    have hlow :
        self.getLowLevelAddress = ⟨sockaddrUn thePath, sizeofSockaddrUn⟩ := by
      rw [← hbytes]
      rfl
    rw [hlow]
    exact hdecoded

/-- A path that survives and is accepted holds no NUL. -/
theorem no_nul_of_survivesEncoding
    {thePath : CppString}
    (h : SurvivesEncoding thePath)
    (haccepted : Accepted thePath) :
    0 ∉ thePath := by
  obtain ⟨self, hself⟩ := h.succeeds_iff.mpr haccepted
  have hnames := h.names self hself
  rw [cString_eq_some_iff] at hnames
  have hpath := new_path hself
  rw [getPath, hpath] at hnames
  exact hnames.1

/-- **Local paths survive encoding** exactly when the accepted ones hold no
NUL byte. -/
theorem pathLaw_iff
    (first second : CppString) :
    PathLaw first second ↔
      (Accepted first → 0 ∉ first) ∧ (Accepted second → 0 ∉ second) := by
  constructor
  · intro hlaw
    exact
      ⟨no_nul_of_survivesEncoding hlaw.first_survives,
        no_nul_of_survivesEncoding hlaw.second_survives⟩
  · rintro ⟨hfirst, hsecond⟩
    refine
      ⟨survivesEncoding_of_no_nul hfirst,
        survivesEncoding_of_no_nul hsecond, ?_⟩
    intro hne self other hself hother heq
    have hnul₁ := hfirst ((createPath_ok_iff first).mp ⟨self, hself⟩)
    have hnul₂ := hsecond ((createPath_ok_iff second).mp ⟨other, hother⟩)
    obtain ⟨hbytes₁, hshort₁⟩ := createPath_sockAddr hself
    obtain ⟨hbytes₂, hshort₂⟩ := createPath_sockAddr hother
    rw [(beforeNul_eq_self_iff first).mpr hnul₁] at hbytes₁
    rw [(beforeNul_eq_self_iff second).mpr hnul₂] at hbytes₂
    rw [hbytes₁, hbytes₂] at heq
    exact hne (sockaddrUn_injective hnul₁ hnul₂ hshort₁ hshort₂ heq)

/-- The path `a`, NUL, `b` is accepted but names the socket `a`. -/
theorem not_pathLaw_embedded_nul :
    ¬ PathLaw [97, 0, 98] [97] := by
  intro hlaw
  have haccepted : Accepted [97, 0, 98] := by
    refine ⟨by simp, ?_⟩
    decide
  have hnul := no_nul_of_survivesEncoding hlaw.first_survives haccepted
  exact absurd hnul (by decide)

end Law

end LocalAddress

end BsdSockets
