import BsdSockets.AcceptBuffer

/-!
# Decoding the address of a local peer

The `sun_path` of a peer is filled by somebody else, and nothing obliges it to
hold a NUL.  The template `create` passes it on as a `const char*`, so the
first NUL decides where the read stops, in the field or behind it.

`createFrom_eq_sunPath` separates the field from everything behind it.  With a
NUL in the field the rest is never reached; without one `create` would need
memory that the structure does not have.
-/

namespace BsdSockets

open Memory

/-- The structure starts with a family field, and it holds this family. -/
def LowLevelAddress.OfFamily (self : LowLevelAddress) (family : Int) : Prop :=
  2 ≤ self.getSockAddr.length ∧ saFamily self.getSockAddr = family

/-- The bytes of the field `sun_path`, as far as the structure has them. -/
def LowLevelAddress.sunPath (self : LowLevelAddress) : List UInt8 :=
  (self.getSockAddr.drop offsetSunPath).take sizeofSunPath

/-- The structure up to the end of `sun_path`. -/
def LowLevelAddress.upToSunPath (self : LowLevelAddress) : LowLevelAddress where
  getSockAddr := self.getSockAddr.take sizeofSockaddrUn
  getSockAddrLen := self.getSockAddrLen

namespace LocalAddress

/-- What the decoding of a local peer promises.  `beyond` is the memory behind
the structure; reading inside means that it could as well be missing. -/
structure DecodesInside
    (template : LocalAddress) (peer : LowLevelAddress)
    (beyond : List UInt8) : Prop where
  inside : template.createFrom peer beyond =
    template.createFrom peer.upToSunPath []
  defined : template.createFrom peer beyond ≠ .error .undefined
  decoded : 0 ∈ peer.sunPath →
    ∃ created, template.createFrom peer beyond = .ok created ∧
      created.getPath = beforeNul peer.sunPath
  refused : 0 ∉ peer.sunPath →
    ∃ what, template.createFrom peer beyond = raise (.invalidArgument what)
  stable : ∀ created, template.createFrom peer beyond = .ok created →
    ∀ (other : LocalAddress) (behind : List UInt8), ∃ again,
      other.createFrom created.getLowLevelAddress behind = .ok again ∧
        again.getPath = created.getPath ∧
        again.getLowLevelAddress.getSockAddr =
          created.getLowLevelAddress.getSockAddr

section Field

theorem sunPath_length_le
    (peer : LowLevelAddress) :
    peer.sunPath.length ≤ sizeofSunPath := by
  rw [LowLevelAddress.sunPath, List.length_take]
  exact Nat.min_le_left _ _

/-- A local structure is its family and what follows. -/
theorem getSockAddr_split
    {peer : LowLevelAddress}
    (hfamily : peer.OfFamily afLocal) :
    peer.getSockAddr =
      littleBytes 1 ++ peer.getSockAddr.drop offsetSunPath :=
  sockAddr_split hfamily.1 hfamily.2

/-- What follows is `sun_path` and the rest. -/
theorem sunPath_append
    (peer : LowLevelAddress) :
    peer.sunPath ++ peer.getSockAddr.drop sizeofSockaddrUn =
      peer.getSockAddr.drop offsetSunPath := by
  have hrest :
      peer.getSockAddr.drop sizeofSockaddrUn =
        (peer.getSockAddr.drop offsetSunPath).drop sizeofSunPath := by
    rw [List.drop_drop]
    rfl
  rw [LowLevelAddress.sunPath, hrest, List.take_append_drop]

/-- A local structure up to the end of its `sun_path`. -/
theorem upToSunPath_eq
    {peer : LowLevelAddress}
    (hfamily : peer.OfFamily afLocal) :
    peer.upToSunPath =
      ⟨littleBytes 1 ++ peer.sunPath, peer.getSockAddrLen⟩ := by
  have htake :
      peer.getSockAddr.take sizeofSockaddrUn =
        littleBytes 1 ++ peer.sunPath := by
    rw [getSockAddr_split hfamily]
    rfl
  rw [LowLevelAddress.upToSunPath, htake]

/-- `create` reads `sun_path` as if the rest lay behind the structure. -/
theorem createFrom_eq_sunPath
    (template : LocalAddress) {peer : LowLevelAddress}
    (hfamily : peer.OfFamily afLocal)
    (beyond : List UInt8) :
    template.createFrom peer beyond =
      template.createFrom peer.upToSunPath
        (peer.getSockAddr.drop sizeofSockaddrUn ++ beyond) := by
  calc template.createFrom peer beyond
      = template.createFrom
          ⟨littleBytes 1 ++ peer.getSockAddr.drop offsetSunPath,
            peer.getSockAddrLen⟩ beyond := by
        rw [← getSockAddr_split hfamily]
    _ = template.createFrom
          ⟨littleBytes 1 ++ peer.sunPath, peer.getSockAddrLen⟩
            (peer.getSockAddr.drop sizeofSockaddrUn ++ beyond) := by
        rw [createFrom_eq, createFrom_eq, ← List.append_assoc,
          sunPath_append]
    _ = template.createFrom peer.upToSunPath
          (peer.getSockAddr.drop sizeofSockaddrUn ++ beyond) := by
        rw [upToSunPath_eq hfamily]

end Field

section Law

/-- A NUL in the field ends the read, wherever it is. -/
theorem createFrom_of_nul
    (template : LocalAddress) {peer : LowLevelAddress}
    (hfamily : peer.OfFamily afLocal)
    (hnul : 0 ∈ peer.sunPath) :
    ∃ created : LocalAddress,
      created.path = beforeNul peer.sunPath ∧
      (∀ beyond, template.createFrom peer beyond = .ok created) ∧
      template.createFrom peer.upToSunPath [] = .ok created := by
  obtain ⟨created, hpath, hcreated⟩ :=
    template.createFrom_terminated (sunPath_length_le peer) hnul
  refine ⟨created, hpath, ?_, ?_⟩
  · intro beyond
    rw [createFrom_eq_sunPath template hfamily, upToSunPath_eq hfamily]
    exact hcreated _ _
  · rw [upToSunPath_eq hfamily]
    exact hcreated _ _

/-- Without a NUL the field alone is not enough. -/
theorem createFrom_of_no_nul
    (template : LocalAddress) {peer : LowLevelAddress}
    (hfamily : peer.OfFamily afLocal)
    (hnul : 0 ∉ peer.sunPath) :
    template.createFrom peer.upToSunPath [] = .error .undefined := by
  rw [upToSunPath_eq hfamily, createFrom_eq, List.append_nil,
    (cString_eq_none_iff peer.sunPath).mpr hnul]

/-- A local address whose path holds no NUL is its own decoding. -/
theorem createFrom_getLowLevelAddress
    (self template : LocalAddress)
    (hnul : 0 ∉ self.path)
    (beyond : List UInt8) :
    template.createFrom self.getLowLevelAddress beyond = .ok self := by
  have hbytes : self.getLowLevelAddress =
      ⟨sockaddrUn self.path, sizeofSockaddrUn⟩ := by
    have h := self.getSockAddr_eq
    rw [(beforeNul_eq_self_iff self.path).mpr hnul] at h
    rw [← h]
    rfl
  obtain ⟨again, hagain, hpath⟩ :=
    createFrom_sockaddrUn template hnul self.path_short sizeofSockaddrUn
      beyond
  rw [hbytes, hagain, eq_of_path hpath]

/-- **Decoding a local peer stays within `sun_path` and is stable** exactly when
the field holds a NUL. -/
theorem decodesInside_iff
    (template : LocalAddress) (peer : LowLevelAddress)
    (hfamily : peer.OfFamily afLocal)
    (beyond : List UInt8) :
    DecodesInside template peer beyond ↔ 0 ∈ peer.sunPath := by
  constructor
  · intro hlaw
    by_contra hnul
    have hundefined := createFrom_of_no_nul template hfamily hnul
    rw [← hlaw.inside] at hundefined
    exact hlaw.defined hundefined
  · intro hnul
    obtain ⟨created, hpath, hcreated, hinside⟩ :=
      createFrom_of_nul template hfamily hnul
    have hno : 0 ∉ created.path := by
      rw [hpath]
      exact beforeNul_no_nul peer.sunPath
    refine ⟨?_, ?_, ?_, ?_, ?_⟩
    · rw [hcreated, hinside]
    · rw [hcreated]
      simp
    · intro _
      exact ⟨created, hcreated beyond, hpath⟩
    · intro habsent
      exact absurd hnul habsent
    · intro other hother template' behind
      rw [hcreated] at hother
      cases hother
      exact ⟨created,
        createFrom_getLowLevelAddress created template' hno behind, rfl, rfl⟩

/-- The template of the runs below: the path `t`. -/
def templatePath : LocalAddress :=
  ⟨[116], ⟨encodePath [116], encodePath_length [116]⟩, rfl⟩

/-- A peer that bound the path `p`, with something left behind the NUL. -/
theorem decodesInside_leftover :
    DecodesInside templatePath
      ⟨littleBytes 1 ++ ([112, 0, 120] ++ List.replicate 105 0),
        sizeofSockaddrUn⟩ [] :=
  (decodesInside_iff templatePath
    ⟨littleBytes 1 ++ ([112, 0, 120] ++ List.replicate 105 0),
      sizeofSockaddrUn⟩
    ⟨by decide, by decide⟩ []).mpr (by decide)

/-- A peer whose path fills the field. -/
def fullPeer : LowLevelAddress :=
  ⟨littleBytes 1 ++ List.replicate sizeofSunPath 97, sizeofSockaddrUn⟩

theorem fullPeer_ofFamily :
    fullPeer.OfFamily afLocal := by
  refine ⟨?_, ?_⟩
  · rw [fullPeer, List.length_append, littleBytes_length]
    omega
  · rw [fullPeer, saFamily_littleBytes 1 _ (by omega)]
    rfl

theorem not_decodesInside_fullPeer :
    fullPeer.OfFamily afLocal ∧
      ¬ DecodesInside templatePath fullPeer [] := by
  refine ⟨fullPeer_ofFamily, ?_⟩
  intro hlaw
  have hnul : 0 ∉ fullPeer.sunPath := by
    intro hmem
    have hreplicate := List.mem_of_mem_take hmem
    exact absurd (List.eq_of_mem_replicate hreplicate) (by decide)
  have hundefined :=
    createFrom_of_no_nul templatePath fullPeer_ofFamily hnul
  rw [← hlaw.inside] at hundefined
  exact hlaw.defined hundefined

end Law

end LocalAddress

end BsdSockets
