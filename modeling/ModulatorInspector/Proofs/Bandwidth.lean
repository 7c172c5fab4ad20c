import ModulatorInspector.Proofs.Text.Numerals
import ModulatorInspector.Query.Configuration

namespace ModulatorInspector.Bandwidth

variable {b b' : Bandwidth} {width : Nat} {name : String} {z : Int}

theorem mhz_injective (same : b.mhz = b'.mhz) : b = b' := by
  cases b <;> cases b' <;> first | rfl | exact absurd same (by decide)

theorem label_injective (same : b.label = b'.label) : b = b' :=
  mhz_injective (Numeral.decimal_injective same)

theorem exists_mhz_eq_iff : (∃ b : Bandwidth, b.mhz = width) ↔ 5 ≤ width ∧ width ≤ 8 := by
  constructor
  · intro wide
    obtain ⟨b, rfl⟩ := wide
    cases b <;> decide
  · intro between
    have cases_of_width : width = 5 ∨ width = 6 ∨ width = 7 ∨ width = 8 := by omega
    rcases cases_of_width with rfl | rfl | rfl | rfl
    · exact ⟨.mhz5, rfl⟩
    · exact ⟨.mhz6, rfl⟩
    · exact ⟨.mhz7, rfl⟩
    · exact ⟨.mhz8, rfl⟩

theorem ofMhz?_eq_some_iff : ofMhz? width = some b ↔ width = b.mhz := by
  constructor
  · intro found
    unfold ofMhz? at found
    split at found
    all_goals cases found
    all_goals rfl
  · intro wide
    rw [wide]
    cases b <;> rfl

theorem name_eq_label (b : Bandwidth) : b.name = b.label := by
  cases b <;> decide

theorem ofName?_eq_some_iff : ofName? name = some b ↔ name = b.label := by
  rw [← name_eq_label]
  constructor
  · intro found
    have named := List.find?_some (p := fun b : Bandwidth => decide (b.name = name)) found
    exact (of_decide_eq_true named).symm
  · intro named
    rw [named]
    cases b <;> decide

-- A number of thirty-two bits that a bandwidth can be made of.
def IsWidth (z : Int) : Prop := 0 ≤ z ∧ z ≤ Numeral.greatest32 ∧ (ofMhz? z.toNat).isSome = true

-- This bandwidth is made of the number, has it as its width and shows it as its label.
structure Measures (b : Bandwidth) (z : Int) : Prop where
  made : ofMhz? z.toNat = some b
  width : (b.mhz : Int) = z
  shown : b.label = toString z

theorem measures_mhz (b : Bandwidth) : b.Measures b.mhz := by
  refine ⟨?_, rfl, rfl⟩
  rw [Int.toNat_natCast]
  exact ofMhz?_eq_some_iff.mpr rfl

theorem exists_measures_iff : (∃ b : Bandwidth, b.Measures z) ↔ IsWidth z := by
  constructor
  · intro measured
    obtain ⟨b, measures⟩ := measured
    have small : b.mhz ≤ Numeral.greatest32 := by cases b <;> decide
    have width := measures.width
    refine ⟨by omega, by omega, ?_⟩
    rw [measures.made]
    rfl
  · intro wide
    obtain ⟨least, _, made⟩ := wide
    obtain ⟨b, found⟩ := Option.isSome_iff_exists.mp made
    have width : (b.mhz : Int) = z := by
      rw [← ofMhz?_eq_some_iff.mp found, Int.toNat_of_nonneg least]
    refine ⟨b, ?_⟩
    rw [← width]
    exact b.measures_mhz

theorem isWidth_iff : IsWidth z ↔ 5 ≤ z ∧ z ≤ 8 := by
  rw [← exists_measures_iff]
  constructor
  · intro measured
    obtain ⟨b, measures⟩ := measured
    have between := exists_mhz_eq_iff.mp ⟨b, rfl⟩
    have width := measures.width
    omega
  · intro between
    obtain ⟨b, width⟩ := exists_mhz_eq_iff.mpr (show 5 ≤ z.toNat ∧ z.toNat ≤ 8 by omega)
    have whole : (b.mhz : Int) = z := by omega
    exact ⟨b, whole ▸ b.measures_mhz⟩

end ModulatorInspector.Bandwidth
