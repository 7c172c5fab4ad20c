import ModulatorInspector.Proofs.Success
import ModulatorInspector.Text.Numeral

namespace ModulatorInspector.Numeral

theorem toDigits_injective {m n : Nat} (same : Nat.toDigits 10 m = Nat.toDigits 10 n) : m = n := by
  have denoted := congrArg (fun digits => Nat.ofDigitChars 10 digits 0) same
  simpa only [Nat.ofDigitChars_ten_toDigits] using denoted

theorem isDigit_of_mem_numeral {c : Char} {n : Nat} (member : c ∈ Nat.toDigits 10 n) :
    c.isDigit = true := Nat.isDigit_of_mem_toDigits (by decide) (by decide) member

theorem digit_bounds {c : Char} (decimal : c.isDigit = true) : 48 ≤ c.toNat ∧ c.toNat ≤ 57 :=
  Char.isDigit_iff_toNat.mp decimal

theorem digitValue_lt {c : Char} (decimal : c.isDigit = true) : c.toNat - 48 < 10 := by
  have bounds := digit_bounds decimal
  omega

theorem digitChar_value {c : Char} (decimal : c.isDigit = true) :
    Nat.digitChar (c.toNat - 48) = c := by
  have bounds := digit_bounds decimal
  apply Char.toNat_inj.mp
  rw [Nat.toNat_digitChar_of_lt_ten (digitValue_lt decimal)]
  omega

theorem digit?_decimal {c : Char} (decimal : c.isDigit = true) :
    digit? 10 c = some (c.toNat - 48) := by
  have between : '0' ≤ c ∧ c ≤ '9' := digit_bounds decimal
  have small := digitValue_lt decimal
  simp [digit?, between, small]

-- The total only grows, so the limit is passed at some digit exactly if it is passed in the end.
theorem magnitude_decimal {limit : Nat} {beyond : Fault} {digits : List Char} {total : Nat}
    (decimal : ∀ c ∈ digits, c.isDigit = true) (below : total ≤ limit) :
    magnitude 10 limit beyond total digits =
      if Nat.ofDigitChars 10 digits total ≤ limit then .ok (Nat.ofDigitChars 10 digits total)
      else .error beyond := by
  induction digits generalizing total with
  | nil => simp [magnitude, below]
  | cons c rest ih =>
    have first := decimal c (List.mem_cons_self ..)
    have others : ∀ d ∈ rest, d.isDigit = true := fun d member =>
      decimal d (List.mem_cons_of_mem c member)
    have same : total * 10 + (c.toNat - 48) = 10 * total + (c.toNat - '0'.toNat) := by
      rw [Nat.mul_comm]; rfl
    rw [magnitude, digit?_decimal first, Nat.ofDigitChars_cons, ← same]
    dsimp only
    by_cases passed : limit < total * 10 + (c.toNat - 48)
    · have grows : total * 10 + (c.toNat - 48)
          ≤ Nat.ofDigitChars 10 rest (total * 10 + (c.toNat - 48)) := by
        rw [Nat.ofDigitChars_eq_ofDigitChars_zero]
        exact Nat.le_trans (Nat.le_mul_of_pos_left _ (Nat.pow_pos (by decide))) (Nat.le_add_right ..)
      rw [if_pos passed, if_neg (by omega)]
    · rw [if_neg passed, ih others (by omega)]

theorem eq_zero_of_numeral_head {n : Nat} (zero : (Nat.toDigits 10 n).head? = some '0') :
    n = 0 := by
  induction n using Nat.base_induction 10 (by decide) with
  | single n small =>
    rw [Nat.toDigits_of_lt_base small] at zero
    simpa using zero
  | digit n last small positive ih =>
    obtain ⟨c, rest, digits⟩ := List.exists_cons_of_ne_nil (Nat.toDigits_ne_nil (n := n) (b := 10))
    rw [← Nat.toDigits_append_toDigits (by decide) positive small, digits] at zero
    rw [digits] at ih
    have nothing := ih zero
    omega

-- More digits behind a number that is not zero are more digits behind its numeral.
theorem toDigits_ofDigitChars {digits : List Char} {total : Nat}
    (decimal : ∀ c ∈ digits, c.isDigit = true) (positive : 0 < total) :
    Nat.toDigits 10 (Nat.ofDigitChars 10 digits total) = Nat.toDigits 10 total ++ digits := by
  induction digits generalizing total with
  | nil => rw [Nat.ofDigitChars_nil, List.append_nil]
  | cons c rest ih =>
    have first := decimal c (List.mem_cons_self ..)
    have numeral : Nat.toDigits 10 (10 * total + (c.toNat - 48)) = Nat.toDigits 10 total ++ [c] := by
      rw [← Nat.toDigits_append_toDigits (by decide) positive (digitValue_lt first),
        Nat.toDigits_of_lt_base (digitValue_lt first), digitChar_value first]
    rw [Nat.ofDigitChars_cons, ih (fun d member => decimal d (List.mem_cons_of_mem c member))
      (by omega)]
    change Nat.toDigits 10 (10 * total + (c.toNat - 48)) ++ rest = _
    rw [numeral, List.append_assoc, List.singleton_append]

theorem toDigits_value {digits : List Char} (decimal : ∀ c ∈ digits, c.isDigit = true)
    (nonempty : digits ≠ []) (leading : digits = ['0'] ∨ digits.head? ≠ some '0') :
    Nat.toDigits 10 (Nat.ofDigitChars 10 digits 0) = digits := by
  rcases leading with rfl | leading
  · rfl
  · obtain ⟨c, rest, rfl⟩ := List.exists_cons_of_ne_nil nonempty
    have first := decimal c (List.mem_cons_self ..)
    have positive : 0 < c.toNat - 48 := by
      have other : c.toNat ≠ '0'.toNat := fun same => leading (congrArg some (Char.toNat_inj.mp same))
      have bounds := digit_bounds first
      change c.toNat ≠ 48 at other
      omega
    have rest_decimal : ∀ d ∈ rest, d.isDigit = true := fun d member =>
      decimal d (List.mem_cons_of_mem c member)
    calc Nat.toDigits 10 (Nat.ofDigitChars 10 (c :: rest) 0)
        = Nat.toDigits 10 (Nat.ofDigitChars 10 rest (c.toNat - 48)) := by
          rw [Nat.ofDigitChars_cons, Nat.mul_zero, Nat.zero_add]; rfl
      _ = Nat.toDigits 10 (c.toNat - 48) ++ rest := toDigits_ofDigitChars rest_decimal positive
      _ = c :: rest := by
          rw [Nat.toDigits_of_lt_base (digitValue_lt first), digitChar_value first]; rfl

theorem natural_numeral (limit n : Nat) :
    natural 10 limit (Nat.toDigits 10 n) = if n ≤ limit then .ok n else .error .tooLarge := by
  obtain ⟨c, rest, digits⟩ := List.exists_cons_of_ne_nil (Nat.toDigits_ne_nil (n := n) (b := 10))
  have decimal : ∀ d ∈ c :: rest, d.isDigit = true := fun d member =>
    isDigit_of_mem_numeral (n := n) (digits ▸ member)
  have read : natural 10 limit (c :: rest) = magnitude 10 limit .tooLarge 0 (c :: rest) := by
    unfold natural
    split
    · cases ‹c :: rest = []›
    · cases ‹c :: rest = ['+']›
      cases decimal '+' (List.mem_cons_self ..)
    · cases ‹c :: rest = '+' :: _›
      cases decimal '+' (List.mem_cons_self ..)
    · rfl
  rw [digits, read, magnitude_decimal decimal (Nat.zero_le limit), ← digits,
    Nat.ofDigitChars_ten_toDigits]

theorem decimal_injective {m n : Nat} (same : toString m = toString n) : m = n := by
  rw [Nat.toString_eq_ofList_toDigits, Nat.toString_eq_ofList_toDigits] at same
  exact toDigits_injective (String.ofList_injective same)

theorem decimal_unbroken (n : Nat) : '\n' ∉ (toString n).toList := by
  rw [Nat.toString_eq_ofList_toDigits, String.toList_ofList]
  intro member
  cases isDigit_of_mem_numeral member

theorem toList_negative (n : Nat) :
    (toString (Int.negSucc n)).toList = '-' :: (toString (n + 1)).toList := by
  change ("-" ++ toString (n + 1)).toList = _
  rw [String.toList_append]
  rfl

theorem decimal_unsigned (n : Nat) : '-' ∉ (toString n).toList := by
  rw [Nat.toString_eq_ofList_toDigits, String.toList_ofList]
  intro member
  cases isDigit_of_mem_numeral member

theorem signed_ne_negative {m n : Nat} : toString (Int.ofNat m) ≠ toString (Int.negSucc n) := by
  intro same
  apply decimal_unsigned m
  change '-' ∈ (toString (Int.ofNat m)).toList
  rw [same, toList_negative]
  exact List.mem_cons_self

theorem signed_injective {m n : Int} (same : toString m = toString n) : m = n := by
  cases m with
  | ofNat m =>
    cases n with
    | ofNat n => exact congrArg Int.ofNat (decimal_injective same)
    | negSucc n => exact absurd same signed_ne_negative
  | negSucc m =>
    cases n with
    | ofNat n => exact absurd same.symm signed_ne_negative
    | negSucc n =>
      have digits := congrArg String.toList same
      rw [toList_negative, toList_negative, List.cons.injEq] at digits
      have successors := decimal_injective (String.toList_inj.mp digits.2)
      exact congrArg Int.negSucc (Nat.succ.inj successors)

theorem signed_unbroken (n : Int) : '\n' ∉ (toString n).toList := by
  cases n with
  | ofNat n => exact decimal_unbroken n
  | negSucc n =>
    rw [toList_negative, List.mem_cons, not_or]
    exact ⟨by decide, decimal_unbroken (n + 1)⟩

theorem digit?_hexDigit : ∀ d < 16, digit? 16 (hexDigit d) = some d := by decide

theorem hexDigit_injective {d e : Nat} (small : d < 16) (small' : e < 16)
    (same : hexDigit d = hexDigit e) : d = e := by
  have read := digit?_hexDigit d small
  rw [same, digit?_hexDigit e small'] at read
  exact (Option.some.inj read).symm

theorem hex4_injective {m n : UInt16} (same : hex4 m = hex4 n) : m = n := by
  have digits := String.ofList_injective same
  simp only [List.map_cons, List.map_nil, List.cons.injEq, and_true] at digits
  obtain ⟨first, second, third, fourth⟩ := digits
  have below (place number : Nat) : number / place % 16 < 16 := Nat.mod_lt _ (by decide)
  have first := hexDigit_injective (below _ _) (below _ _) first
  have second := hexDigit_injective (below _ _) (below _ _) second
  have third := hexDigit_injective (below _ _) (below _ _) third
  have fourth := hexDigit_injective (below _ _) (below _ _) fourth
  have bound := m.toNat_lt
  have bound' := n.toNat_lt
  exact UInt16.toNat_inj.mp (by omega)

theorem hexDigit_ne_lineEnd : ∀ d < 16, hexDigit d ≠ '\n' := by decide

theorem hex4_unbroken (n : UInt16) : '\n' ∉ (hex4 n).toList := by
  rw [hex4, String.toList_ofList]
  intro member
  obtain ⟨place, -, broken⟩ := List.mem_map.mp member
  exact hexDigit_ne_lineEnd _ (Nat.mod_lt _ (by decide)) broken

structure Denotes (digits : List Char) (n : Nat) : Prop where
  nonempty : digits ≠ []
  decimal : ∀ c ∈ digits, c.isDigit = true
  value : Nat.ofDigitChars 10 digits 0 = n

inductive Natural : List Char → Nat → Prop where
  | plain (denotes : Denotes digits n) : Natural digits n
  | plus (denotes : Denotes digits n) : Natural ('+' :: digits) n

inductive Integral : List Char → Int → Prop where
  | natural (reads : Natural text n) : Integral text n
  | minus (denotes : Denotes digits n) : Integral ('-' :: digits) (-(n : Int))

theorem digit?_not_decimal {c : Char} (other : c.isDigit = false) : digit? 10 c = none := by
  have outside : ¬('0' ≤ c ∧ c ≤ '9') := by
    intro between
    have decimal : c.isDigit = true := Char.isDigit_iff_toNat.mpr between
    rw [other] at decimal
    cases decimal
  unfold digit?
  rw [if_neg outside, Option.filter_eq_none_iff]
  intro value letter
  -- A letter stands for ten or more.
  split at letter
  · rename_i lower
    have least : 97 ≤ c.toNat := lower.1
    cases letter
    simp
    omega
  · split at letter
    · rename_i upper
      have least : 65 ≤ c.toNat := upper.1
      cases letter
      simp
      omega
    · cases letter

theorem decimal_of_magnitude_ok {limit total n : Nat} {beyond : Fault} {digits : List Char}
    (read : magnitude 10 limit beyond total digits = .ok n) : ∀ c ∈ digits, c.isDigit = true := by
  induction digits generalizing total with
  | nil => intro c member; cases member
  | cons c rest ih =>
    rw [magnitude] at read
    cases decimal : c.isDigit with
    | false =>
      rw [digit?_not_decimal decimal] at read
      cases read
    | true =>
      rw [digit?_decimal decimal] at read
      dsimp only at read
      split at read
      · cases read
      · intro d member
        rcases List.mem_cons.mp member with rfl | later
        · exact decimal
        · exact ih read d later

theorem magnitude_eq_ok_iff {limit n : Nat} {beyond : Fault} {digits : List Char} :
    magnitude 10 limit beyond 0 digits = .ok n ↔
      (∀ c ∈ digits, c.isDigit = true) ∧ Nat.ofDigitChars 10 digits 0 = n ∧ n ≤ limit := by
  constructor
  · intro read
    have decimal := decimal_of_magnitude_ok read
    rw [magnitude_decimal decimal (Nat.zero_le limit)] at read
    split at read
    · cases read
      exact ⟨decimal, rfl, ‹_›⟩
    · cases read
  · rintro ⟨decimal, rfl, within⟩
    rw [magnitude_decimal decimal (Nat.zero_le limit), if_pos within]

-- A sign in front is taken off, and what is left are digits, at any radix.
theorem natural_iff_magnitude {radix limit n : Nat} {text : List Char} :
    natural radix limit text = .ok n ↔
      ∃ digits, digits ≠ [] ∧ (text = '+' :: digits ∨ text = digits ∧ digits.head? ≠ some '+')
        ∧ magnitude radix limit .tooLarge 0 digits = .ok n := by
  constructor
  · intro read
    unfold natural at read
    split at read
    · cases read
    · cases read
    · rename_i digits some_digit
      exact ⟨digits, by simpa using some_digit, .inl rfl, read⟩
    · rename_i nonempty _ unsigned
      refine ⟨text, nonempty, .inr ⟨rfl, ?_⟩, read⟩
      intro sign
      obtain ⟨rest, rfl⟩ := List.head?_eq_some_iff.mp sign
      exact unsigned rest rfl
  · rintro ⟨digits, nonempty, rfl | ⟨rfl, unsigned⟩, read⟩
    · obtain ⟨c, rest, rfl⟩ := List.exists_cons_of_ne_nil nonempty
      exact read
    · obtain ⟨c, rest, rfl⟩ := List.exists_cons_of_ne_nil nonempty
      have other : c ≠ '+' := fun same => unsigned (congrArg some same)
      simpa [natural, other] using read

theorem Denotes.head?_ne_plus {digits : List Char} {n : Nat} (denotes : Denotes digits n) :
    digits.head? ≠ some '+' := by
  intro sign
  exact absurd (denotes.decimal '+' (List.mem_of_head? sign)) (by decide)

theorem natural_eq_ok_iff {limit n : Nat} {text : List Char} :
    natural 10 limit text = .ok n ↔ Natural text n ∧ n ≤ limit := by
  rw [natural_iff_magnitude]
  constructor
  · rintro ⟨digits, nonempty, sign, read⟩
    obtain ⟨decimal, value, within⟩ := magnitude_eq_ok_iff.mp read
    refine ⟨?_, within⟩
    rcases sign with rfl | ⟨rfl, -⟩
    · exact .plus ⟨nonempty, decimal, value⟩
    · exact .plain ⟨nonempty, decimal, value⟩
  · rintro ⟨numeral, within⟩
    cases numeral with
    | plain denotes =>
      exact ⟨text, denotes.nonempty, .inr ⟨rfl, denotes.head?_ne_plus⟩,
        magnitude_eq_ok_iff.mpr ⟨denotes.decimal, denotes.value, within⟩⟩
    | plus denotes =>
      exact ⟨_, denotes.nonempty, .inl rfl,
        magnitude_eq_ok_iff.mpr ⟨denotes.decimal, denotes.value, within⟩⟩

theorem Natural.unique {text : List Char} {n m : Nat} (reads : Natural text n)
    (reads' : Natural text m) : n = m := by
  have read : natural 10 (max n m) text = .ok n := natural_eq_ok_iff.mpr ⟨reads, Nat.le_max_left ..⟩
  rw [natural_eq_ok_iff.mpr ⟨reads', Nat.le_max_right ..⟩] at read
  exact (Except.ok.inj read).symm

theorem signed64_minus {digits : List Char} (nonempty : digits ≠ []) :
    signed64 ('-' :: digits) =
      (magnitude 10 (greatestSigned64 + 1) .tooSmall 0 digits).map fun (n : Nat) => -(n : Int) := by
  rw [signed64]
  · cases magnitude 10 (greatestSigned64 + 1) .tooSmall 0 digits with
    | error fault => rfl
    | ok n => rfl
  · exact nonempty

theorem signed64_natural {text : List Char} (unsigned : text.head? ≠ some '-') :
    signed64 text = (natural 10 greatestSigned64 text).map Int.ofNat := by
  cases text with
  | nil => rfl
  | cons c rest =>
    have other : c ≠ '-' := fun same => unsigned (congrArg some same)
    simp [signed64, other]

theorem Natural.head?_ne_minus {text : List Char} {n : Nat} (numeral : Natural text n) :
    text.head? ≠ some '-' := by
  cases numeral with
  | plain denotes =>
    intro sign
    have decimal := denotes.decimal '-' (List.mem_of_head? sign)
    exact absurd decimal (by decide)
  | plus denotes => simp

theorem Integral.unique {text : List Char} {z w : Int} (reads : Integral text z)
    (reads' : Integral text w) : z = w := by
  cases reads with
  | natural reads =>
    cases reads' with
    | natural reads' => rw [reads.unique reads']
    | minus denotes => exact absurd rfl reads.head?_ne_minus
  | minus denotes =>
    cases reads' with
    | natural reads' => exact absurd rfl reads'.head?_ne_minus
    | minus denotes' => rw [← denotes.value, ← denotes'.value]

theorem signed64_eq_ok_iff {text : List Char} {z : Int} :
    signed64 text = .ok z ↔
      Integral text z ∧ -(greatestSigned64 + 1 : Int) ≤ z ∧ z ≤ greatestSigned64 := by
  constructor
  · intro read
    by_cases sign : text.head? = some '-'
    · obtain ⟨digits, rfl⟩ := List.head?_eq_some_iff.mp sign
      have nonempty : digits ≠ [] := by
        rintro rfl
        cases read
      rw [signed64_minus nonempty] at read
      obtain ⟨n, digits_read, rfl⟩ := map_eq_ok_iff.mp read
      obtain ⟨decimal, value, within⟩ := magnitude_eq_ok_iff.mp digits_read
      exact ⟨.minus ⟨nonempty, decimal, value⟩, by omega, by omega⟩
    · rw [signed64_natural sign] at read
      obtain ⟨n, text_read, rfl⟩ := map_eq_ok_iff.mp read
      obtain ⟨numeral, within⟩ := natural_eq_ok_iff.mp text_read
      have least : 0 ≤ Int.ofNat n := Int.natCast_nonneg n
      exact ⟨.natural numeral, by omega, Int.ofNat_le.mpr within⟩
  · rintro ⟨numeral, least, greatest⟩
    cases numeral with
    | natural reads =>
      rw [signed64_natural reads.head?_ne_minus]
      exact map_eq_ok_iff.mpr ⟨_, natural_eq_ok_iff.mpr ⟨reads, by omega⟩, rfl⟩
    | minus denotes =>
      rw [signed64_minus denotes.nonempty]
      refine map_eq_ok_iff.mpr ⟨_, magnitude_eq_ok_iff.mpr ?_, rfl⟩
      exact ⟨denotes.decimal, denotes.value, by omega⟩

end ModulatorInspector.Numeral
