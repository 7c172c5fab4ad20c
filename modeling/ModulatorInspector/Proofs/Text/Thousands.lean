import ModulatorInspector.Proofs.Text.Numerals

namespace ModulatorInspector.Numeral

theorem filter_separate (digits : List Char) (plain : ',' ∉ digits) :
    (separate digits).filter (· != ',') = digits := by
  induction digits with
  | nil => rfl
  | cons c rest ih =>
    rw [List.mem_cons, not_or] at plain
    have other : c ≠ ',' := Ne.symm plain.1
    unfold separate
    split
    · rw [List.filter_cons_of_pos (by simpa using other), List.filter_cons_of_neg (by decide),
        ih plain.2]
    · rw [List.filter_cons_of_pos (by simpa using other), ih plain.2]

theorem comma_notMem_numeral (n : Nat) : ',' ∉ Nat.toDigits 10 n := by
  intro member
  have decimal := isDigit_of_mem_numeral member
  exact absurd decimal (by decide)

theorem filter_grouped (n : Nat) :
    (grouped n).toList.filter (· != ',') = Nat.toDigits 10 n := by
  rw [grouped, String.toList_ofList]
  exact filter_separate _ (comma_notMem_numeral n)

theorem grouped_injective {m n : Nat} (same : grouped m = grouped n) : m = n := by
  apply toDigits_injective
  rw [← filter_grouped m, ← filter_grouped n, same]

theorem grouped_unbroken (n : Nat) : '\n' ∉ (grouped n).toList := by
  intro member
  have kept : '\n' ∈ (grouped n).toList.filter (· != ',') :=
    List.mem_filter.mpr ⟨member, by decide⟩
  rw [filter_grouped] at kept
  exact absurd (isDigit_of_mem_numeral kept) (by decide)

section Order

variable {m n t u : Nat} {a b : List Char}

-- By the digits from left to right: where the numbers before them differ, that has decided already.
theorem ofDigitChars_lt_iff (decimal : ∀ c ∈ a, c.isDigit = true)
    (decimal' : ∀ c ∈ b, c.isDigit = true) (same : a.length = b.length) :
    Nat.ofDigitChars 10 a t < Nat.ofDigitChars 10 b u ↔ t < u ∨ t = u ∧ a < b := by
  induction a generalizing b t u with
  | nil =>
    have nothing : b = [] := List.eq_nil_of_length_eq_zero same.symm
    simp [nothing]
  | cons c a ih =>
    obtain ⟨d, b, rfl⟩ := List.exists_cons_of_length_eq_add_one same.symm
    obtain ⟨first, others⟩ := List.forall_mem_cons.mp decimal
    obtain ⟨first', others'⟩ := List.forall_mem_cons.mp decimal'
    have bounds := digit_bounds first
    have bounds' := digit_bounds first'
    have less : c < d ↔ c.toNat < d.toNat := Iff.rfl
    have equal : c = d ↔ c.toNat = d.toNat := Char.toNat_inj.symm
    have zero : '0'.toNat = 48 := rfl
    simp only [Nat.ofDigitChars_cons, ih others others' (Nat.succ.inj same), List.cons_lt_cons_iff,
      less, equal, zero]
    by_cases later : a < b
    · simp only [later, and_true]
      omega
    · simp only [later, and_false, or_false]
      omega

theorem lt_of_length_lt (shorter : (Nat.toDigits 10 m).length < (Nat.toDigits 10 n).length) :
    m < n := by
  have below : m < 10 ^ (Nat.toDigits 10 m).length :=
    (Nat.length_toDigits_le_iff (by decide) Nat.length_toDigits_pos).mp (Nat.le_refl _)
  apply Nat.lt_of_lt_of_le below
  apply Nat.le_of_not_lt
  intro small
  have short := (Nat.length_toDigits_le_iff (by decide) Nat.length_toDigits_pos).mpr small
  exact absurd shorter (Nat.not_lt_of_le short)

theorem lt_iff_of_length_eq (same : (Nat.toDigits 10 m).length = (Nat.toDigits 10 n).length) :
    m < n ↔ Nat.toDigits 10 m < Nat.toDigits 10 n := by
  have digits := ofDigitChars_lt_iff (t := 0) (u := 0) (fun c => isDigit_of_mem_numeral)
    (fun c => isDigit_of_mem_numeral) same
  simpa only [Nat.ofDigitChars_ten_toDigits, Nat.lt_irrefl, true_and, false_or] using digits

theorem lt_iff_toDigits :
    m < n ↔ (Nat.toDigits 10 m).length < (Nat.toDigits 10 n).length
      ∨ (Nat.toDigits 10 m).length = (Nat.toDigits 10 n).length
        ∧ Nat.toDigits 10 m < Nat.toDigits 10 n := by
  rcases Nat.lt_trichotomy (Nat.toDigits 10 m).length (Nat.toDigits 10 n).length with
    shorter | same | longer
  · exact iff_of_true (lt_of_length_lt shorter) (.inl shorter)
  · rw [lt_iff_of_length_eq same]
    simp [same]
  · apply iff_of_false
    · exact Nat.lt_asymm (lt_of_length_lt longer)
    · omega

end Order

structure Groups (first : List Char) (others : List (List Char)) : Prop where
  nonempty : first ≠ []
  short : first.length ≤ 3
  full : ∀ group ∈ others, group.length = 3

def InGroups (text : List Char) : Prop :=
  ∃ first others, Groups first others ∧ (∀ c ∈ first ++ others.flatten, c.isDigit = true)
    ∧ text = first ++ others.flatMap fun group => ',' :: group

variable {m n : Nat} {a b digits first rest : List Char} {others : List (List Char)}

-- From the last digit on: a group that is full gets a new one in front of it.
theorem exists_groups (nonempty : digits ≠ []) :
    ∃ first others, Groups first others ∧ digits = first ++ others.flatten := by
  induction digits with
  | nil => exact absurd rfl nonempty
  | cons c rest ih =>
    by_cases last : rest = []
    · refine ⟨[c], [], ⟨by simp, by simp, by simp⟩, ?_⟩
      simp [last]
    · obtain ⟨first, others, groups, rfl⟩ := ih last
      by_cases full : first.length = 3
      · refine ⟨[c], first :: others, ⟨by simp, by simp, ?_⟩, by simp⟩
        simpa [full] using groups.full
      · have short := groups.short
        refine ⟨c :: first, others, ⟨by simp, ?_, groups.full⟩, by simp⟩
        rw [List.length_cons]
        omega

theorem separate_front (nonempty : first ≠ []) (short : first.length ≤ 3)
    (whole : rest.length % 3 = 0) :
    separate (first ++ rest) = first ++ if rest = [] then [] else ',' :: separate rest := by
  induction first with
  | nil => exact absurd rfl nonempty
  | cons c first ih =>
    rw [List.cons_append, separate]
    by_cases single : first = []
    · by_cases last : rest = []
      · simp [single, last, separate]
      · simp [single, last, whole]
    · have positive : 0 < first.length := List.length_pos_iff.mpr single
      rw [List.length_cons] at short
      have apart : ¬(first ++ rest ≠ [] ∧ (first ++ rest).length % 3 = 0) := by
        rw [List.length_append]
        omega
      rw [if_neg apart, ih single (by omega), List.cons_append]

theorem length_flatten_groups (full : ∀ group ∈ others, group.length = 3) :
    others.flatten.length % 3 = 0 := by
  induction others with
  | nil => rfl
  | cons group others ih =>
    obtain ⟨three, full⟩ := List.forall_mem_cons.mp full
    rw [List.flatten_cons, List.length_append, three, Nat.add_mod_left]
    exact ih full

theorem Groups.separate_eq (groups : Groups first others) :
    separate (first ++ others.flatten) = first ++ others.flatMap fun group => ',' :: group := by
  induction others generalizing first with
  | nil =>
    rw [separate_front groups.nonempty groups.short rfl]
    simp
  | cons group others ih =>
    obtain ⟨three, full⟩ := List.forall_mem_cons.mp groups.full
    have later : Groups group others := by
      refine ⟨?_, Nat.le_of_eq three, full⟩
      rintro rfl
      cases three
    have more : group ++ others.flatten ≠ [] := by simp [later.nonempty]
    have whole := length_flatten_groups groups.full
    rw [List.flatten_cons] at whole ⊢
    rw [separate_front groups.nonempty groups.short whole, if_neg more, ih later,
      List.flatMap_cons, List.cons_append]

theorem inGroups_separate (nonempty : digits ≠ []) (decimal : ∀ c ∈ digits, c.isDigit = true) :
    InGroups (separate digits) := by
  obtain ⟨first, others, groups, rfl⟩ := exists_groups nonempty
  exact ⟨first, others, groups, decimal, groups.separate_eq⟩

theorem InGroups.eq_separate {text : List Char} (grouped : InGroups text) :
    text = separate (text.filter (· != ',')) := by
  obtain ⟨first, others, groups, decimal, rfl⟩ := grouped
  have plain : ',' ∉ first ++ others.flatten := by
    intro member
    exact absurd (decimal ',' member) (by decide)
  rw [← groups.separate_eq, filter_separate _ plain]

theorem head?_separate (digits : List Char) : (separate digits).head? = digits.head? := by
  cases digits with
  | nil => rfl
  | cons c rest =>
    rw [separate]
    split <;> rfl

theorem length_separate (digits : List Char) :
    (separate digits).length = digits.length + (digits.length - 1) / 3 := by
  induction digits with
  | nil => rfl
  | cons c rest ih =>
    rw [separate]
    split
    · rename_i parted
      have positive := List.length_pos_iff.mpr parted.1
      have whole := parted.2
      simp only [List.length_cons, ih]
      omega
    · rename_i unparted
      simp only [List.length_cons, ih]
      by_cases last : rest = []
      · simp [last]
      · have positive := List.length_pos_iff.mpr last
        have remains : rest.length % 3 ≠ 0 := fun whole => unparted ⟨last, whole⟩
        omega

theorem length_separate_lt_iff :
    (separate a).length < (separate b).length ↔ a.length < b.length := by
  rw [length_separate, length_separate]
  omega

-- Commas stand at the same places in texts of one length, so they decide nothing.
theorem separate_lt_iff (same : a.length = b.length) : separate a < separate b ↔ a < b := by
  induction a generalizing b with
  | nil =>
    have nothing : b = [] := List.eq_nil_of_length_eq_zero same.symm
    simp [nothing]
  | cons c a ih =>
    obtain ⟨d, b, rfl⟩ := List.exists_cons_of_length_eq_add_one same.symm
    have others : a.length = b.length := Nat.succ.inj same
    have parted : (a ≠ [] ∧ a.length % 3 = 0) ↔ (b ≠ [] ∧ b.length % 3 = 0) := by
      rw [← List.length_pos_iff, ← List.length_pos_iff, others]
    simp only [separate, ← parted]
    split
    · rw [List.cons_lt_cons_iff, List.cons_lt_cons_self, ih others, List.cons_lt_cons_iff]
    · rw [List.cons_lt_cons_iff, ih others, List.cons_lt_cons_iff]

theorem grouped_lt_iff :
    m < n ↔ (grouped m).length < (grouped n).length
      ∨ (grouped m).length = (grouped n).length ∧ grouped m < grouped n := by
  have longer := length_separate_lt_iff (a := Nat.toDigits 10 m) (b := Nat.toDigits 10 n)
  have shorter := length_separate_lt_iff (a := Nat.toDigits 10 n) (b := Nat.toDigits 10 m)
  have later : grouped m < grouped n
      ↔ separate (Nat.toDigits 10 m) < separate (Nat.toDigits 10 n) := by
    change (grouped m).toList < (grouped n).toList ↔ _
    simp only [grouped, String.toList_ofList]
  have length (k : Nat) : (grouped k).length = (separate (Nat.toDigits 10 k)).length := by
    rw [grouped, String.length_ofList]
  rw [lt_iff_toDigits, length, length, longer, later]
  apply or_congr_right
  constructor
  · intro order
    obtain ⟨same, before⟩ := order
    exact ⟨by omega, (separate_lt_iff same).mpr before⟩
  · intro order
    obtain ⟨same, before⟩ := order
    have equal : (Nat.toDigits 10 m).length = (Nat.toDigits 10 n).length := by omega
    exact ⟨equal, (separate_lt_iff equal).mp before⟩

-- What the grouped text of a number is, and that it is the only text of this kind.
structure Faithful (n : Nat) : Prop where
  inGroups : InGroups (grouped n).toList
  leading : (grouped n).toList.head? = some '0' ↔ n = 0
  numeral : (grouped n).toList.filter (· != ',') = (toString n).toList
  only (text : String) : InGroups text.toList →
    text.toList.filter (· != ',') = (toString n).toList → text = grouped n
  distinct (m : Nat) : grouped m = grouped n → m = n
  order (m : Nat) : m < n ↔ (grouped m).length < (grouped n).length
    ∨ (grouped m).length = (grouped n).length ∧ grouped m < grouped n

theorem grouped_faithful (n : Nat) : Faithful n := by
  have written : (grouped n).toList = separate (Nat.toDigits 10 n) := by
    rw [grouped, String.toList_ofList]
  have numeral : (toString n).toList = Nat.toDigits 10 n := by
    rw [Nat.toString_eq_repr, Nat.toList_repr]
  constructor
  case inGroups =>
    rw [written]
    exact inGroups_separate Nat.toDigits_ne_nil fun c => isDigit_of_mem_numeral
  case leading =>
    rw [written, head?_separate]
    constructor
    · exact eq_zero_of_numeral_head
    · rintro rfl
      rfl
  case numeral =>
    rw [filter_grouped, numeral]
  case only =>
    intro text groups digits
    apply String.toList_inj.mp
    rw [groups.eq_separate, digits, numeral, written]
  case distinct =>
    intro m same
    exact grouped_injective same
  case order =>
    intro m
    exact grouped_lt_iff

example : grouped 18446744073709551615 = "18,446,744,073,709,551,615" := by decide +kernel

end ModulatorInspector.Numeral
