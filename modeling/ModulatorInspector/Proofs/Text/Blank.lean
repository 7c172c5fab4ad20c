import Mathlib.Data.List.TakeWhile
import ModulatorInspector.Proofs.Text.Numerals
import ModulatorInspector.Text.CodePoints

namespace ModulatorInspector.Blank

section Trimming

-- `core` is `text` without the white space around it.
structure Trims (text core : List Char) : Prop where
  around : ∃ front back, text = front ++ core ++ back
    ∧ (∀ c ∈ front, isBlank c = true) ∧ ∀ c ∈ back, isBlank c = true
  first : ∀ c, core.head? = some c → isBlank c = false
  last : ∀ c, core.getLast? = some c → isBlank c = false

variable {text core front rest : List Char}

theorem head?_dropWhile {c : Char} (first : (text.dropWhile isBlank).head? = some c) :
    isBlank c = false := by
  have unblank := List.head?_dropWhile_not isBlank text
  rw [first] at unblank
  simpa using unblank

theorem dropWhile_append (blank : ∀ c ∈ front, isBlank c = true)
    (first : ∀ c, rest.head? = some c → isBlank c = false) :
    (front ++ rest).dropWhile isBlank = rest := by
  rw [List.dropWhile_append_of_pos blank]
  cases rest with
  | nil => rfl
  | cons c rest => rw [List.dropWhile_cons_of_neg (by simp [first c rfl])]

theorem exists_blank_front (text : List Char) :
    ∃ front, text = front ++ text.dropWhile isBlank ∧ ∀ c ∈ front, isBlank c = true :=
  ⟨text.takeWhile isBlank, List.takeWhile_append_dropWhile.symm, fun _ => List.mem_takeWhile_imp⟩

theorem trims_trimmed (text : List Char) : Trims text (trimmed text) := by
  obtain ⟨front, left, blank⟩ := exists_blank_front text
  obtain ⟨back, right, blank'⟩ := exists_blank_front (text.dropWhile isBlank).reverse
  have whole : text.dropWhile isBlank = trimmed text ++ back.reverse := by
    rw [trimmed, ← List.reverse_append, ← right, List.reverse_reverse]
  refine ⟨⟨front, back.reverse, ?_, blank, fun c member => blank' c (List.mem_reverse.mp member)⟩,
    ?_, ?_⟩
  · rw [List.append_assoc, ← whole]
    exact left
  · intro c first
    have first' : (text.dropWhile isBlank).head? = some c := by
      rw [whole, List.head?_append, first, Option.some_or]
    exact head?_dropWhile first'
  · intro c last
    rw [trimmed, List.getLast?_reverse] at last
    exact head?_dropWhile last

-- Where something is left, each end is found by its first character that is no blank.
theorem trimmed_of_trims (trims : Trims text core) : trimmed text = core := by
  obtain ⟨⟨front, back, rfl, blank, blank'⟩, first, last⟩ := trims
  by_cases empty : core = []
  · subst empty
    have all : ∀ c ∈ front ++ [] ++ back, isBlank c = true := by
      intro c member
      rw [List.append_nil] at member
      exact (List.mem_append.mp member).elim (blank c) (blank' c)
    rw [trimmed, List.dropWhile_eq_nil_iff.mpr all]
    rfl
  · have first' : ∀ c, (core ++ back).head? = some c → isBlank c = false := by
      obtain ⟨c, rest, rfl⟩ := List.exists_cons_of_ne_nil empty
      exact first
    have last' : ∀ c, core.reverse.head? = some c → isBlank c = false := by
      rwa [List.head?_reverse]
    have blank'' : ∀ c ∈ back.reverse, isBlank c = true := fun c member =>
      blank' c (List.mem_reverse.mp member)
    rw [trimmed, List.append_assoc, dropWhile_append blank first', List.reverse_append,
      dropWhile_append blank'' last', List.reverse_reverse]

theorem trimmed_eq_iff : trimmed text = core ↔ Trims text core := by
  constructor
  · rintro rfl
    exact trims_trimmed text
  · exact trimmed_of_trims

theorem trim_eq_iff {text core : String} : trim text = core ↔ Trims text.toList core.toList := by
  rw [← trimmed_eq_iff, trim, ← String.toList_inj, String.toList_ofList]

theorem trimmed_ne_nil_iff : trimmed text ≠ [] ↔ ∃ c ∈ text, isBlank c = false := by
  obtain ⟨⟨front, back, whole, blank, blank'⟩, first, _⟩ := trims_trimmed text
  constructor
  · intro more
    obtain ⟨c, rest, left⟩ := List.exists_cons_of_ne_nil more
    refine ⟨c, ?_, first c (by rw [left]; rfl)⟩
    rw [whole, left]
    simp
  · rintro ⟨c, member, unblank⟩ nothing
    rw [whole, nothing, List.append_nil] at member
    have blank_c : isBlank c = true := (List.mem_append.mp member).elim (blank c) (blank' c)
    rw [unblank] at blank_c
    cases blank_c

end Trimming

def folded (text : String) : List Char := text.toList.map Char.toLower

theorem sameIgnoringCase_iff {a b : String} :
    sameIgnoringCase a b = true ↔ folded a = folded b := beq_iff_eq

theorem folded_append (a b : String) : folded (a ++ b) = folded a ++ folded b := by
  rw [folded, String.toList_append, List.map_append]
  rfl

theorem toLower_cases (c : Char) : c.toLower = c ∨ 65 ≤ c.toNat ∧ 97 ≤ c.toLower.toNat := by
  unfold Char.toLower
  split
  · rename_i upper
    have least : 65 ≤ c.toNat := upper.1
    have greatest : c.toNat ≤ 90 := upper.2
    have moved : (c.val + ('a'.val - 'A'.val)).toNat = c.toNat + 32 :=
      (UInt32.toNat_add ..).trans (Nat.mod_eq_of_lt (by change c.toNat + 32 < 2 ^ 32; omega))
    refine .inr ⟨least, ?_⟩
    change 97 ≤ (c.val + ('a'.val - 'A'.val)).toNat
    omega
  · exact .inl rfl

theorem toLower_of_isDigit {c : Char} (decimal : c.isDigit = true) : c.toLower = c := by
  rcases toLower_cases c with same | ⟨least, _⟩
  · exact same
  · have bounds := Numeral.digit_bounds decimal
    omega

theorem toLower_eq_slash {c : Char} : c.toLower = '/' ↔ c = '/' := by
  rcases toLower_cases c with same | ⟨least, least'⟩
  · rw [same]
  · constructor
    · intro slash
      rw [slash] at least'
      exact absurd least' (by decide)
    · rintro rfl
      rfl

theorem folded_numeral (n : Nat) : folded (toString n) = Nat.toDigits 10 n := by
  rw [folded, Nat.toString_eq_repr, Nat.toList_repr]
  have fixed : ∀ c ∈ Nat.toDigits 10 n, c.toLower = id c := fun c member =>
    toLower_of_isDigit (Numeral.isDigit_of_mem_numeral member)
  rw [List.map_congr_left fixed, List.map_id]

theorem count_slash_folded (text : String) :
    (folded text).count '/' = text.toList.count '/' := by
  rw [folded, List.count_eq_countP, List.countP_map, List.count_eq_countP]
  refine List.countP_congr fun c _ => ?_
  simp only [Function.comp_apply, beq_iff_eq]
  exact toLower_eq_slash

end ModulatorInspector.Blank
