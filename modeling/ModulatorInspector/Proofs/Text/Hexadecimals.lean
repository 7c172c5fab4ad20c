import Mathlib.Data.List.Forall2
import ModulatorInspector.Proofs.Text.Blank
import ModulatorInspector.Proofs.Text.Numerals

namespace ModulatorInspector.Numeral

variable {limit total n : Nat} {beyond : Fault} {c : Char} {value : Nat} {text digits : List Char}

-- The number that a row of values comes to behind a number, the first value counting most.
def positional (radix total : Nat) (values : List Nat) : Nat :=
  values.foldl (fun total value => total * radix + value) total

theorem le_positional {radix : Nat} (some_digit : 0 < radix) (values : List Nat) :
    total ≤ positional radix total values := by
  induction values generalizing total with
  | nil => exact Nat.le_refl total
  | cons value values ih =>
    calc total ≤ total * radix := Nat.le_mul_of_pos_right total some_digit
      _ ≤ total * radix + value := Nat.le_add_right _ _
      _ ≤ positional radix total (value :: values) := ih

def HexDigit (c : Char) (value : Nat) : Prop :=
  "0123456789abcdef".toList[value]? = some c ∨ "0123456789ABCDEF".toList[value]? = some c

def Hexadecimal (digits : List Char) (n : Nat) : Prop :=
  digits ≠ [] ∧ ∃ values, List.Forall₂ HexDigit digits values ∧ positional 16 0 values = n

theorem HexDigit.small (stands : HexDigit c value) : value < 16 := by
  rcases stands with listed | listed
  · exact (List.getElem?_eq_some_iff.mp listed).1
  · exact (List.getElem?_eq_some_iff.mp listed).1

theorem HexDigit.digit? (stands : HexDigit c value) : digit? 16 c = some value := by
  have read : ∀ value < 16,
      ("0123456789abcdef".toList[value]?).bind (Numeral.digit? 16) = some value
        ∧ ("0123456789ABCDEF".toList[value]?).bind (Numeral.digit? 16) = some value := by decide
  have read := read value stands.small
  rcases stands with lower | upper
  · rw [lower] at read
    exact read.1
  · rw [upper] at read
    exact read.2

theorem eq_ofNat_add (first : Nat) (least : first ≤ c.toNat) (same : c.toNat - first = value) :
    c = Char.ofNat (first + value) := by
  have whole : first + value = c.toNat := by omega
  rw [whole, Char.ofNat_toNat]

theorem hexDigit_of_digit? (read : digit? 16 c = some value) : HexDigit c value := by
  have decimals : ∀ value < 10,
      "0123456789abcdef".toList[value]? = some (Char.ofNat (48 + value)) := by decide
  have letters : ∀ value < 16, 10 ≤ value →
      "0123456789abcdef".toList[value]? = some (Char.ofNat (87 + value))
        ∧ "0123456789ABCDEF".toList[value]? = some (Char.ofNat (55 + value)) := by decide
  unfold digit? at read
  obtain ⟨found, bounded⟩ := Option.filter_eq_some_iff.mp read
  have small : value < 16 := of_decide_eq_true bounded
  split at found
  · rename_i between
    have least : 48 ≤ c.toNat := between.1
    have greatest : c.toNat ≤ 57 := between.2
    have same : c.toNat - 48 = value := Option.some.inj found
    rw [eq_ofNat_add 48 least same]
    exact .inl (decimals value (by omega))
  · split at found
    · rename_i between
      have least : 97 ≤ c.toNat := between.1
      have same : c.toNat - 87 = value := Option.some.inj found
      rw [eq_ofNat_add 87 (by omega) same]
      exact .inl (letters value small (by omega)).1
    · split at found
      · rename_i between
        have least : 65 ≤ c.toNat := between.1
        have same : c.toNat - 55 = value := Option.some.inj found
        rw [eq_ofNat_add 55 (by omega) same]
        exact .inr (letters value small (by omega)).2
      · cases found

theorem digit?_sixteen_iff : digit? 16 c = some value ↔ HexDigit c value :=
  ⟨hexDigit_of_digit?, HexDigit.digit?⟩

theorem HexDigit.unblank (stands : HexDigit c value) : Blank.isBlank c = false := by
  have unblank : ∀ value < 16,
      ("0123456789abcdef".toList[value]?).map Blank.isBlank = some false
        ∧ ("0123456789ABCDEF".toList[value]?).map Blank.isBlank = some false := by decide
  have unblank := unblank value stands.small
  rcases stands with lower | upper
  · rw [lower] at unblank
    exact Option.some.inj unblank.1
  · rw [upper] at unblank
    exact Option.some.inj unblank.2

-- The total only grows, so no digit before the last passes a limit that the last one keeps.
theorem magnitude_sixteen_iff (below : total ≤ limit) :
    magnitude 16 limit beyond total digits = .ok n ↔
      ∃ values, List.Forall₂ HexDigit digits values ∧ positional 16 total values = n
        ∧ n ≤ limit := by
  induction digits generalizing total with
  | nil =>
    rw [magnitude]
    constructor
    · intro read
      cases read
      exact ⟨[], .nil, rfl, below⟩
    · rintro ⟨values, stand, rfl, -⟩
      cases stand
      rfl
  | cons c rest ih =>
    rw [magnitude]
    constructor
    · intro read
      split at read
      · cases read
      · rename_i value stands
        split at read
        · cases read
        · rename_i within
          obtain ⟨values, stand, denoted, bound⟩ := (ih (Nat.le_of_not_lt within)).mp read
          exact ⟨value :: values, .cons (hexDigit_of_digit? stands) stand, denoted, bound⟩
    · rintro ⟨_, stand, denoted, bound⟩
      cases stand with
      | @cons _ value _ values stands stand =>
        have within : total * 16 + value ≤ limit :=
          Nat.le_trans (le_positional (by decide) values) (denoted ▸ bound)
        rw [stands.digit?]
        dsimp only
        rw [if_neg (Nat.not_lt_of_le within)]
        exact (ih within).mpr ⟨values, stand, denoted, bound⟩

theorem Hexadecimal.head?_ne_plus (numeral : Hexadecimal digits n) : digits.head? ≠ some '+' := by
  obtain ⟨-, values, stand, -⟩ := numeral
  cases stand with
  | nil => exact nofun
  | cons stands _ =>
    intro sign
    cases sign
    cases stands.digit?

theorem natural_sixteen_iff : natural 16 limit text = .ok n ↔
    (Hexadecimal text n ∨ ∃ digits, text = '+' :: digits ∧ Hexadecimal digits n) ∧ n ≤ limit := by
  simp only [natural_iff_magnitude, magnitude_sixteen_iff (Nat.zero_le limit)]
  constructor
  · rintro ⟨digits, nonempty, sign, values, stand, denoted, bound⟩
    have numeral : Hexadecimal digits n := ⟨nonempty, values, stand, denoted⟩
    rcases sign with rfl | ⟨rfl, -⟩
    · exact ⟨.inr ⟨digits, rfl, numeral⟩, bound⟩
    · exact ⟨.inl numeral, bound⟩
  · rintro ⟨numeral | ⟨digits, rfl, numeral⟩, bound⟩
    · have unsigned := numeral.head?_ne_plus
      obtain ⟨nonempty, values, stand, denoted⟩ := numeral
      exact ⟨text, nonempty, .inr ⟨rfl, unsigned⟩, values, stand, denoted, bound⟩
    · obtain ⟨nonempty, values, stand, denoted⟩ := numeral
      exact ⟨digits, nonempty, .inl rfl, values, stand, denoted, bound⟩

theorem hexDigit_hexDigit {d : Nat} (small : d < 16) : HexDigit (hexDigit d) d :=
  hexDigit_of_digit? (digit?_hexDigit d small)

theorem hexadecimal_hex4 (n : UInt16) : Hexadecimal (hex4 n).toList n.toNat := by
  have below (place : Nat) : n.toNat / place % 16 < 16 := Nat.mod_lt _ (by decide)
  have bound := n.toNat_lt
  rw [hex4, String.toList_ofList]
  refine ⟨List.cons_ne_nil _ _, [4096, 256, 16, 1].map fun place => n.toNat / place % 16, ?_, ?_⟩
  · rw [List.forall₂_map_left_iff, List.forall₂_map_right_iff, List.forall₂_same]
    exact fun place _ => hexDigit_hexDigit (below place)
  · simp only [positional, List.map_cons, List.map_nil, List.foldl_cons, List.foldl_nil]
    omega

theorem digit?_toLower (c : Char) : digit? 16 c.toLower = digit? 16 c := by
  have letters : ∀ place < 26,
      digit? 16 (Char.ofNat (65 + place)).toLower = digit? 16 (Char.ofNat (65 + place)) := by decide
  by_cases upper : 65 ≤ c.toNat ∧ c.toNat ≤ 90
  · rw [eq_ofNat_add 65 upper.1 rfl]
    exact letters (c.toNat - 65) (by omega)
  · have fixed : c.toLower = c := by
      unfold Char.toLower
      exact dif_neg upper
    rw [fixed]

theorem forall₂_hexDigit_iff {values : List Nat} :
    List.Forall₂ HexDigit digits values ↔ digits.map (digit? 16) = values.map some := by
  rw [← List.forall₂_eq_eq_eq, List.forall₂_map_left_iff, List.forall₂_map_right_iff]
  simp only [digit?_sixteen_iff]

theorem Hexadecimal.of_sameIgnoringCase {written shown : String}
    (numeral : Hexadecimal shown.toList n) (same : Blank.sameIgnoringCase written shown = true) :
    Hexadecimal written.toList n := by
  obtain ⟨nonempty, values, stand, denoted⟩ := numeral
  have folds : written.toList.map Char.toLower = shown.toList.map Char.toLower :=
    Blank.sameIgnoringCase_iff.mp same
  have lowered (digits : List Char) :
      digits.map (digit? 16) = (digits.map Char.toLower).map (digit? 16) := by
    rw [List.map_map]
    exact List.map_congr_left fun c _ => (digit?_toLower c).symm
  refine ⟨?_, values, ?_, denoted⟩
  · intro empty
    rw [empty, List.map_nil] at folds
    exact nonempty (List.map_eq_nil_iff.mp folds.symm)
  · rw [forall₂_hexDigit_iff] at stand ⊢
    rw [lowered, folds, ← lowered]
    exact stand

-- No digit is blank, so nothing is taken off, and a line end behind the digits is.
theorem Hexadecimal.trims (numeral : Hexadecimal digits n) (back : List Char)
    (blank : ∀ c ∈ back, Blank.isBlank c = true) : Blank.Trims (digits ++ back) digits := by
  obtain ⟨-, values, stand, -⟩ := numeral
  have unblank : ∀ c ∈ digits, Blank.isBlank c = false := by
    intro c member
    obtain ⟨position, inside, rfl⟩ := List.getElem_of_mem member
    have inside' : position < values.length := stand.length_eq ▸ inside
    exact (stand.get inside inside').unblank
  refine ⟨⟨[], back, rfl, nofun, blank⟩, ?_, ?_⟩
  · intro c first
    exact unblank c (List.mem_of_head? first)
  · intro c last
    exact unblank c (List.mem_of_getLast? last)

end ModulatorInspector.Numeral
