import Mathlib.Tactic

/-!
# Ledgers

Holders have resources out of a pool, on top of a base that is nobody's.  A
ledger is right when nobody holds what is not in the pool, no two holders hold
the same, and whatever is in the pool is held by somebody or was there before.
The rules say what a holder may do: take something that was not in the pool,
give back what it has, or pass it to another holder.
-/

namespace Holding

universe u v

variable {H : Type u} {F : Type v}

/-- Every resource has one holder at most, and what is in the pool is accounted
for. -/
structure Ledger (holds : H → F → Prop) (base pool : F → Prop) : Prop where
  pooled : ∀ holder resource, holds holder resource → pool resource
  unique : ∀ holder other resource,
    holds holder resource → holds other resource → holder = other
  complete : ∀ resource, pool resource →
    base resource ∨ ∃ holder, holds holder resource

namespace Ledger

variable {holds holds' : H → F → Prop} {base pool pool' : F → Prop}

/-- The same holders, out of the same pool. -/
theorem congr
    (h : Ledger holds base pool)
    (hholds : ∀ holder resource,
      holds' holder resource ↔ holds holder resource) :
    Ledger holds' base pool where
  pooled := fun holder resource hhas =>
    h.pooled holder resource ((hholds _ _).mp hhas)
  unique := fun holder other resource hhas hother =>
    h.unique holder other resource ((hholds _ _).mp hhas)
      ((hholds _ _).mp hother)
  complete := by
    intro resource hpool
    rcases h.complete resource hpool with hbase | ⟨holder, hhas⟩
    · exact Or.inl hbase
    · exact Or.inr ⟨holder, (hholds _ _).mpr hhas⟩

/-- Taking a resource that was not in the pool. -/
theorem take
    (h : Ledger holds base pool) (taker : H)
    {new : F} (hnew : ¬ pool new)
    (hholds : ∀ holder resource, holds' holder resource ↔
      holds holder resource ∨ (holder = taker ∧ resource = new))
    (hpool : ∀ resource, pool' resource ↔ resource = new ∨ pool resource) :
    Ledger holds' base pool' where
  pooled := by
    intro holder resource hhas
    rcases (hholds holder resource).mp hhas with hold | ⟨_, hsame⟩
    · exact (hpool resource).mpr (Or.inr (h.pooled holder resource hold))
    · exact (hpool resource).mpr (Or.inl hsame)
  unique := by
    intro holder other resource hhas hother
    rcases (hholds holder resource).mp hhas with hold | ⟨rfl, rfl⟩
    · rcases (hholds other resource).mp hother with hold' | ⟨_, rfl⟩
      · exact h.unique holder other resource hold hold'
      · exact absurd (h.pooled holder resource hold) hnew
    · rcases (hholds other resource).mp hother with hold' | ⟨rfl, _⟩
      · exact absurd (h.pooled other resource hold') hnew
      · rfl
  complete := by
    intro resource hthere
    rcases (hpool resource).mp hthere with rfl | hold
    · exact Or.inr ⟨taker, (hholds _ _).mpr (Or.inr ⟨rfl, rfl⟩)⟩
    · rcases h.complete resource hold with hbase | ⟨holder, hhas⟩
      · exact Or.inl hbase
      · exact Or.inr ⟨holder, (hholds _ _).mpr (Or.inl hhas)⟩

/-- Giving back the one resource that a holder has. -/
theorem giveBack
    (h : Ledger holds base pool) (giver : H) (given : F)
    (hgiver : ∀ resource, holds giver resource ↔ resource = given)
    (hholds : ∀ holder resource, holds' holder resource ↔
      holds holder resource ∧ holder ≠ giver)
    (hpool : ∀ resource, pool' resource ↔ resource ≠ given ∧ pool resource) :
    Ledger holds' base pool' where
  pooled := by
    intro holder resource hhas
    obtain ⟨hold, hother⟩ := (hholds holder resource).mp hhas
    refine (hpool resource).mpr ⟨?_, h.pooled holder resource hold⟩
    rintro rfl
    exact hother (h.unique holder giver resource hold ((hgiver _).mpr rfl))
  unique := fun holder other resource hhas hother =>
    h.unique holder other resource ((hholds _ _).mp hhas).1
      ((hholds _ _).mp hother).1
  complete := by
    intro resource hthere
    obtain ⟨hne, hold⟩ := (hpool resource).mp hthere
    rcases h.complete resource hold with hbase | ⟨holder, hhas⟩
    · exact Or.inl hbase
    · refine Or.inr ⟨holder, (hholds _ _).mpr ⟨hhas, ?_⟩⟩
      rintro rfl
      exact hne ((hgiver resource).mp hhas)

/-- Passing what one holder has to another that has nothing. -/
theorem pass
    (h : Ledger holds base pool) (giver receiver : H)
    (hholds : ∀ holder resource, holds' holder resource ↔
      (holds holder resource ∧ holder ≠ giver) ∨
        (holder = receiver ∧ holds giver resource)) :
    Ledger holds' base pool where
  pooled := by
    intro holder resource hhas
    rcases (hholds holder resource).mp hhas with ⟨hold, _⟩ | ⟨_, hgiven⟩
    · exact h.pooled holder resource hold
    · exact h.pooled giver resource hgiven
  unique := by
    intro holder other resource hhas hother
    rcases (hholds holder resource).mp hhas with ⟨hold, hne⟩ | ⟨rfl, hgiven⟩
    · rcases (hholds other resource).mp hother with ⟨hold', _⟩ | ⟨_, hgiven⟩
      · exact h.unique holder other resource hold hold'
      · exact absurd (h.unique holder giver resource hold hgiven) hne
    · rcases (hholds other resource).mp hother with ⟨hold', hne⟩ | ⟨rfl, _⟩
      · exact absurd (h.unique other giver resource hold' hgiven) hne
      · rfl
  complete := by
    intro resource hpool
    rcases h.complete resource hpool with hbase | ⟨holder, hhas⟩
    · exact Or.inl hbase
    · by_cases hgiver : holder = giver
      · exact Or.inr ⟨receiver, (hholds _ _).mpr
          (Or.inr ⟨rfl, hgiver ▸ hhas⟩)⟩
      · exact Or.inr ⟨holder, (hholds _ _).mpr (Or.inl ⟨hhas, hgiver⟩)⟩

end Ledger

end Holding
