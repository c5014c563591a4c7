import Mathlib.Data.List.TakeWhile
import Mathlib.Tactic

/-!
# Flat memory: windows, overlays and terminated strings

A region of memory is the list of its cells.  Three operations of C code on
such a region are formalized, over an arbitrary cell type:

* `window`: a read of `n` cells at an offset, which fails when it leaves the
  region;
* `overlay`: a copy of a block onto the start of a region, which never grows
  the region;
* `cString`: the read of a string up to its terminator, which fails when the
  region holds no terminator.

The last section gives the two byte orders of a 16-bit field.
-/

namespace Memory

universe u

section Cells

variable {α : Type u}

/-- The `n` cells at offset `off`, or nothing when the read leaves the region. -/
def window (region : List α) (off n : Nat) : Option (List α) :=
  if off + n ≤ region.length then
    some ((region.drop off).take n)
  else
    none

/-- Copy `block` onto the start of `region`; cells past its end are not written. -/
def overlay (block region : List α) : List α :=
  block.take region.length ++ region.drop block.length

theorem window_eq_some
    (region : List α) {off n : Nat}
    (h : off + n ≤ region.length) :
    window region off n = some ((region.drop off).take n) := by
  simp [window, h]

/-- A read that succeeds returns exactly the number of cells asked for. -/
theorem window_length
    {region cells : List α} {off n : Nat}
    (h : window region off n = some cells) :
    cells.length = n := by
  rw [window] at h
  split at h
  · next hle =>
      rw [← Option.some.inj h, List.length_take, List.length_drop]
      omega
  · cases h

/-- A read inside the region does not see what lies behind the region. -/
theorem window_append
    (region beyond : List α) {off n : Nat}
    (h : off + n ≤ region.length) :
    window (region ++ beyond) off n = window region off n := by
  have hlong : off + n ≤ (region ++ beyond).length := by
    rw [List.length_append]
    omega
  rw [window_eq_some _ hlong, window_eq_some _ h]
  rw [List.drop_append_of_le_length (by omega)]
  rw [List.take_append_of_le_length (by rw [List.length_drop]; omega)]

@[simp] theorem overlay_length
    (block region : List α) :
    (overlay block region).length = region.length := by
  simp only [overlay, List.length_append, List.length_take, List.length_drop]
  omega

/-- A block that fits is followed by the region's own cells. -/
theorem overlay_of_length_le
    (block region : List α)
    (h : block.length ≤ region.length) :
    overlay block region = block ++ region.drop block.length := by
  rw [overlay, List.take_of_length_le h]

/-- Overlaying a uniform region pads the block with the region's cell. -/
theorem overlay_replicate
    (block : List α) (n : Nat) (cell : α)
    (h : block.length ≤ n) :
    overlay block (List.replicate n cell) =
      block ++ List.replicate (n - block.length) cell := by
  rw [overlay_of_length_le _ _ (by simpa using h), List.drop_replicate]

/-- Two texts with the same padding: the terminator-free one is the other
without trailing terminators. -/
theorem eq_append_replicate_of_padded
    {nul : α} {text padded : List α} {m n : Nat}
    (h : nul ∉ text)
    (heq : padded ++ List.replicate m nul = text ++ List.replicate n nul) :
    padded = text ++ List.replicate (padded.length - text.length) nul := by
  have hlengths := congrArg List.length heq
  simp only [List.length_append, List.length_replicate] at hlengths
  have hle : text.length ≤ padded.length := by
    by_contra hlt
    have hget : (text ++ List.replicate n nul)[padded.length]? = some nul := by
      rw [← heq, List.getElem?_append_right (le_refl _), Nat.sub_self,
        List.getElem?_replicate, if_pos (by omega)]
    rw [List.getElem?_append_left (by omega)] at hget
    exact h (List.mem_of_getElem? hget)
  have htake := congrArg (List.take padded.length) heq
  rw [List.take_left', List.take_append, List.take_of_length_le hle,
    List.take_replicate] at htake
  · rw [Nat.min_eq_left (by omega)] at htake
    exact htake
  · rfl

/-- Cutting a block off and padding it again gives it back exactly when the
cells cut off were padding. -/
theorem take_append_replicate_eq_iff
    (block : List α) (k : Nat) (cell : α) :
    block.take k ++
          List.replicate (block.length - (block.take k).length) cell =
        block ↔
      ∀ c ∈ block.drop k, c = cell := by
  have hlength : block.length - (block.take k).length =
      (block.drop k).length := by
    rw [List.length_take, List.length_drop]
    omega
  rw [hlength, ← List.eq_replicate_length]
  constructor
  · intro h
    have hsplit := h.trans (List.take_append_drop k block).symm
    exact (List.append_cancel_left hsplit).symm
  · intro h
    rw [← h]
    exact List.take_append_drop k block

end Cells

section Strings

variable {α : Type u} [DecidableEq α] (nul : α)

/-- The cells before the first terminator, or nothing when there is none. -/
def cString (region : List α) : Option (List α) :=
  if nul ∈ region then
    some (region.takeWhile (fun c => decide (c ≠ nul)))
  else
    none

/-- What a string copy writes: the cells before the first terminator, then a
terminator. -/
def terminated (text : List α) : List α :=
  text.takeWhile (fun c => decide (c ≠ nul)) ++ [nul]

variable {nul}

theorem not_mem_takeWhile_ne
    (region : List α) :
    nul ∉ region.takeWhile (fun c => decide (c ≠ nul)) := by
  intro hmem
  have h := List.mem_takeWhile_imp hmem
  simp at h

theorem takeWhile_ne_of_not_mem
    {text : List α}
    (h : nul ∉ text) :
    text.takeWhile (fun c => decide (c ≠ nul)) = text := by
  rw [List.takeWhile_eq_self_iff]
  intro c hc
  simp only [decide_eq_true_eq]
  rintro rfl
  exact h hc

/-- The scan stops at the terminator that follows a terminator-free text. -/
theorem takeWhile_ne_append
    {text : List α} (rest : List α)
    (h : nul ∉ text) :
    (text ++ nul :: rest).takeWhile (fun c => decide (c ≠ nul)) = text := by
  rw [List.takeWhile_append_of_pos]
  · simp
  · intro c hc
    simp only [decide_eq_true_eq]
    rintro rfl
    exact h hc

/-- Reading a terminated text gives the text. -/
theorem cString_append
    {text : List α} (rest : List α)
    (h : nul ∉ text) :
    cString nul (text ++ nul :: rest) = some text := by
  rw [cString, if_pos (by simp), takeWhile_ne_append rest h]

/-- A string read succeeds exactly on a terminator-free text followed by a
terminator. -/
theorem cString_eq_some_iff
    (region text : List α) :
    cString nul region = some text ↔
      nul ∉ text ∧ ∃ rest, region = text ++ nul :: rest := by
  constructor
  · intro h
    rw [cString] at h
    split at h
    · next hmem =>
        have htext := Option.some.inj h
        refine ⟨?_, ?_⟩
        · rw [← htext]
          exact not_mem_takeWhile_ne region
        · have hsplit :=
            List.takeWhile_append_dropWhile
              (p := fun c => decide (c ≠ nul)) (l := region)
          cases hdrop : region.dropWhile (fun c => decide (c ≠ nul)) with
          | nil =>
              rw [hdrop, List.append_nil] at hsplit
              rw [← hsplit] at hmem
              exact absurd hmem (not_mem_takeWhile_ne region)
          | cons c rest =>
              have hc : c = nul := by
                have hne :
                    region.dropWhile (fun c => decide (c ≠ nul)) ≠ [] := by
                  rw [hdrop]
                  simp
                have hhead := List.head_dropWhile_not _ hne
                simp only [hdrop, List.head_cons] at hhead
                simpa using hhead
              subst c
              refine ⟨rest, ?_⟩
              rw [← htext, ← hdrop]
              exact hsplit.symm
    · cases h
  · rintro ⟨hnul, rest, rfl⟩
    exact cString_append rest hnul

/-- A region has a string to read exactly when it holds a terminator. -/
theorem cString_eq_none_iff
    (region : List α) :
    cString nul region = none ↔ nul ∉ region := by
  rw [cString]
  split <;> simp_all

/-- A string found inside a region is the one found with more memory behind. -/
theorem cString_append_of_mem
    {region : List α} (beyond : List α)
    (h : nul ∈ region) :
    cString nul (region ++ beyond) = cString nul region := by
  obtain ⟨text, htext⟩ : ∃ text, cString nul region = some text := by
    cases hc : cString nul region with
    | none => exact absurd h ((cString_eq_none_iff region).mp hc)
    | some text => exact ⟨text, rfl⟩
  obtain ⟨hnul, rest, hregion⟩ := (cString_eq_some_iff region text).mp htext
  rw [htext, hregion, List.append_assoc, List.cons_append]
  exact cString_append _ hnul

/-- Without a terminator in the region, the string read runs through all of it. -/
theorem length_le_of_cString_append
    {region beyond text : List α}
    (h : nul ∉ region)
    (htext : cString nul (region ++ beyond) = some text) :
    region.length ≤ text.length := by
  obtain ⟨hnul, rest, heq⟩ := (cString_eq_some_iff _ _).mp htext
  by_contra hlt
  have hget : (region ++ beyond)[text.length]? = some nul := by
    rw [heq]
    simp
  rw [List.getElem?_append_left (by omega)] at hget
  exact h (List.mem_of_getElem? hget)

theorem terminated_length_le
    (text : List α) :
    (terminated nul text).length ≤ text.length + 1 := by
  have h :=
    (List.takeWhile_prefix (fun c => decide (c ≠ nul)) (l := text)).length_le
  simp only [terminated, List.length_append, List.length_singleton]
  omega

end Strings

section Words

/-- The 16-bit field at the start of a region, low byte first. -/
def readLittle (region : List UInt8) : Nat :=
  (region.getD 0 0).toNat + 256 * (region.getD 1 0).toNat

/-- The two bytes of a 16-bit value, low byte first. -/
def littleBytes (value : Nat) : List UInt8 :=
  [UInt8.ofNat value, UInt8.ofNat (value / 256)]

/-- The 16-bit field at the start of a region, high byte first. -/
def readBig (region : List UInt8) : Nat :=
  256 * (region.getD 0 0).toNat + (region.getD 1 0).toNat

@[simp] theorem littleBytes_length
    (value : Nat) :
    (littleBytes value).length = 2 := by
  rfl

theorem readLittle_lt
    (region : List UInt8) :
    readLittle region < 65536 := by
  have h0 := (region.getD 0 0).toNat_lt
  have h1 := (region.getD 1 0).toNat_lt
  rw [readLittle]
  omega

/-- A 16-bit value is read back from its two bytes. -/
theorem readLittle_littleBytes
    (value : Nat) (rest : List UInt8)
    (h : value < 65536) :
    readLittle (littleBytes value ++ rest) = value := by
  simp only [readLittle, littleBytes, List.cons_append, List.nil_append,
    List.getD_cons_zero, List.getD_cons_succ, UInt8.toNat_ofNat']
  omega

/-- The two bytes of a 16-bit field are those of the value it reads as. -/
theorem littleBytes_readLittle
    (a b : UInt8) (rest : List UInt8) :
    littleBytes (readLittle (a :: b :: rest)) = [a, b] := by
  have ha := a.toNat_lt
  have hb := b.toNat_lt
  simp only [readLittle, littleBytes, List.getD_cons_zero, List.getD_cons_succ,
    List.cons.injEq, and_true]
  constructor
  · apply UInt8.toNat_inj.mp
    rw [UInt8.toNat_ofNat']
    omega
  · apply UInt8.toNat_inj.mp
    rw [UInt8.toNat_ofNat']
    omega

end Words

end Memory
