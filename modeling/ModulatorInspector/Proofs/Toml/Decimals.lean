import ModulatorInspector.Proofs.Text.Numerals
import ModulatorInspector.Toml.Number

namespace ModulatorInspector.Toml

open Numeral (isDigit_of_mem_numeral)

variable {digits rest left : List Char} {c : Char} {n m : Nat}

theorem isDigit_decimal (decimal : c.isDigit = true) : isDigit 10 c = true := by
  rw [isDigit, Numeral.digit?_decimal decimal]
  rfl

theorem isDigit_lineEnd : isDigit 10 '\n' = false := rfl

theorem ne_of_isDigit {d : Char} (decimal : c.isDigit = true) (other : d.isDigit = false) : c ≠ d := by
  intro same
  rw [same, other] at decimal
  cases decimal

-- What `ranged?` leaves begins with a further digit or with the end of the line.
theorem head?_of_ranged {count low high : Nat} (decimal : ∀ c ∈ digits, c.isDigit = true)
    (read : ranged? count low high (digits ++ '\n' :: rest) = some (m, left)) {d : Char}
    (other : d.isDigit = false) (visible : d ≠ '\n') : left.head? ≠ some d := by
  unfold ranged? at read
  dsimp only at read
  split at read
  · rename_i found
    cases read
    have short : count ≤ digits.length := by
      apply Nat.le_of_not_lt
      intro long
      have ended : '\n' ∈ (digits ++ '\n' :: rest).take count := by
        rw [List.take_append, List.mem_append]
        obtain ⟨more, length⟩ : ∃ more, count - digits.length = more + 1 :=
          ⟨count - digits.length - 1, by omega⟩
        rw [length, List.take_succ_cons]
        exact .inr List.mem_cons_self
      have digit := List.all_eq_true.mp found.2.1 '\n' ended
      rw [isDigit_lineEnd] at digit
      cases digit
    rw [List.drop_append_of_le_length short]
    intro first
    cases behind : digits.drop count with
    | nil =>
      rw [behind] at first
      exact visible (Option.some.inj first).symm
    | cons e more =>
      rw [behind] at first
      have among : e ∈ digits := List.mem_of_mem_drop (behind ▸ List.mem_cons_self)
      exact ne_of_isDigit (decimal e among) other (Option.some.inj first)
  · cases read

theorem mark?_eq_none {d : Char} (other : left.head? ≠ some d) : mark? d left = none :=
  if_neg other

theorem dateTime?_decimal (decimal : ∀ c ∈ digits, c.isDigit = true) :
    dateTime? (digits ++ '\n' :: rest) = none := by
  have date : date? (digits ++ '\n' :: rest) = none := by
    unfold date?
    cases year : ranged? 4 0 9999 (digits ++ '\n' :: rest) with
    | none => rfl
    | some read =>
      have separated := mark?_eq_none (head?_of_ranged decimal (d := '-') year rfl (by decide))
      simp [separated]
  have time : time? (digits ++ '\n' :: rest) = none := by
    unfold time?
    cases hour : ranged? 2 0 23 (digits ++ '\n' :: rest) with
    | none => rfl
    | some read =>
      have separated := mark?_eq_none (head?_of_ranged decimal (d := ':') hour rfl (by decide))
      simp [separated]
  rw [dateTime?, date]
  exact time

theorem moreDigits?_decimal (decimal : ∀ c ∈ digits, c.isDigit = true) (rest : List Char) :
    moreDigits? 10 (digits ++ '\n' :: rest) = some (digits, '\n' :: rest) := by
  induction digits with
  | nil => rw [List.nil_append, moreDigits?, isDigit_lineEnd] <;> simp
  | cons c more ih =>
    obtain ⟨first, others⟩ := List.forall_mem_cons.mp decimal
    have apart : c ≠ '_' := ne_of_isDigit first rfl
    rw [List.cons_append, moreDigits?, if_pos (isDigit_decimal first), ih others]
    · rfl
    · exact fun same => absurd same apart
    · exact fun _ _ same => absurd same apart

theorem digits?_decimal (decimal : ∀ c ∈ digits, c.isDigit = true) (nonempty : digits ≠ [])
    (rest : List Char) :
    digits? 10 (digits ++ '\n' :: rest) = some (digits, '\n' :: rest) := by
  obtain ⟨c, more, rfl⟩ := List.exists_cons_of_ne_nil nonempty
  obtain ⟨first, others⟩ := List.forall_mem_cons.mp decimal
  rw [List.cons_append, digits?, if_pos (isDigit_decimal first), moreDigits?_decimal others]
  rfl

theorem foldl_decimal (decimal : ∀ c ∈ digits, c.isDigit = true) (total : Nat) :
    digits.foldl (fun total c => total * 10 + (Numeral.digit? 10 c).getD 0) total
      = Nat.ofDigitChars 10 digits total := by
  induction digits generalizing total with
  | nil => rfl
  | cons c more ih =>
    obtain ⟨first, others⟩ := List.forall_mem_cons.mp decimal
    have step : total * 10 + (Numeral.digit? 10 c).getD 0 = 10 * total + (c.toNat - '0'.toNat) := by
      rw [Numeral.digit?_decimal first, Nat.mul_comm]
      rfl
    rw [List.foldl_cons, Nat.ofDigitChars_cons, step]
    exact ih others _

theorem valueOf_numeral (n : Nat) : valueOf 10 (Nat.toDigits 10 n) = n := by
  rw [valueOf, foldl_decimal fun c member => isDigit_of_mem_numeral member,
    Nat.ofDigitChars_ten_toDigits]

theorem sign_decimal (first : c.isDigit = true) : sign (c :: rest) = (false, c :: rest) := by
  have plus : c ≠ '+' := ne_of_isDigit first rfl
  have minus : c ≠ '-' := ne_of_isDigit first rfl
  rw [sign]
  · exact fun more same => plus (List.cons.inj same).1
  · exact fun more same => minus (List.cons.inj same).1

theorem exists_numeral (n : Nat) : ∃ c more, Nat.toDigits 10 n = c :: more ∧ c.isDigit = true := by
  obtain ⟨c, more, digits⟩ := List.exists_cons_of_ne_nil (Nat.toDigits_ne_nil (n := n) (b := 10))
  have member : c ∈ Nat.toDigits 10 n := by
    rw [digits]
    exact List.mem_cons_self
  exact ⟨c, more, digits, isDigit_of_mem_numeral member⟩

theorem decimal?_numeral (n : Nat) (rest : List Char) :
    decimal? (Nat.toDigits 10 n ++ '\n' :: rest)
      = some (false, Nat.toDigits 10 n, '\n' :: rest) := by
  obtain ⟨c, more, numeral, first⟩ := exists_numeral n
  have decimal : ∀ d ∈ Nat.toDigits 10 n, d.isDigit = true := fun d => isDigit_of_mem_numeral
  have whole := digits?_decimal decimal Nat.toDigits_ne_nil rest
  unfold decimal?
  rw [numeral, List.cons_append, sign_decimal first]
  dsimp only
  split
  · rename_i behind same
    have zero : n = 0 := by
      apply Numeral.eq_zero_of_numeral_head
      rw [numeral, (List.cons.inj same).1]
      rfl
    rw [zero] at numeral
    obtain ⟨rfl, rfl⟩ := List.cons.inj numeral
    rw [← (List.cons.inj same).2]
    rfl
  · rw [← List.cons_append, ← numeral, whole]
    rfl

theorem float?_numeral (n : Nat) (rest : List Char) :
    float? (Nat.toDigits 10 n ++ '\n' :: rest) = none := by
  obtain ⟨c, more, numeral, first⟩ := exists_numeral n
  have point : point? (Nat.toDigits 10 n ++ '\n' :: rest) = none := by
    rw [point?, decimal?_numeral]
    rfl
  have special : special? (Nat.toDigits 10 n ++ '\n' :: rest) = none := by
    rw [numeral, List.cons_append, special?, sign_decimal first]
    dsimp only
    split
    · exact absurd (List.cons.inj ‹_›).1 (ne_of_isDigit first rfl)
    · exact absurd (List.cons.inj ‹_›).1 (ne_of_isDigit first rfl)
    · rfl
  rw [float?, point]
  exact special

-- A numeral that begins with a zero is over after it, so no letter tells another radix.
theorem integer?_numeral (bounded : n ≤ Numeral.greatestSigned64) (rest : List Char) :
    integer? (Nat.toDigits 10 n ++ '\n' :: rest) = some ((n : Int), '\n' :: rest) := by
  have unmarked {mark : Char} (other : mark.isDigit = false) (visible : mark ≠ '\n') (behind) :
      Nat.toDigits 10 n ++ '\n' :: rest ≠ '0' :: mark :: behind := by
    intro same
    obtain ⟨c, more, numeral, _⟩ := exists_numeral n
    cases more with
    | nil =>
      rw [numeral] at same
      exact visible (List.cons.inj (List.cons.inj same).2).1.symm
    | cons d others =>
      rw [numeral] at same
      have second : d.isDigit = true := by
        have member : d ∈ Nat.toDigits 10 n := by
          rw [numeral]
          exact List.mem_cons_of_mem c List.mem_cons_self
        exact isDigit_of_mem_numeral member
      exact ne_of_isDigit second other (List.cons.inj (List.cons.inj same).2).1
  unfold integer?
  dsimp only
  split
  · exact absurd ‹_› (unmarked rfl (by decide) _)
  · exact absurd ‹_› (unmarked rfl (by decide) _)
  · exact absurd ‹_› (unmarked rfl (by decide) _)
  · rw [decimal?_numeral]
    simp [valueOf_numeral, bounded]

theorem number?_numeral (bounded : n ≤ Numeral.greatestSigned64) (rest : List Char) :
    number? (Nat.toDigits 10 n ++ '\n' :: rest) = some (.integer n, '\n' :: rest) := by
  have decimal : ∀ d ∈ Nat.toDigits 10 n, d.isDigit = true := fun d => isDigit_of_mem_numeral
  rw [number?, dateTime?_decimal decimal]
  dsimp only
  rw [float?_numeral, integer?_numeral bounded]
  rfl

end ModulatorInspector.Toml
