import ModulatorInspector.Proofs.Text.Numerals
import ModulatorInspector.Toml.Syntax

namespace ModulatorInspector.Toml

-- The ways to write a character. The control characters but the tab, the quote and the backslash
-- cannot stand for themselves.
inductive Spells : Char → List Char → Prop where
  | plain (c) (shown : isShown c = true) (quote : c ≠ '"') (backslash : c ≠ '\\') : Spells c [c]
  | short (c letter) (denotes : simpleEscape? letter = some c) : Spells c ['\\', letter]
  | code (c mark digits)
      (sized : mark = 'u' ∧ digits.length = 4 ∨ mark = 'U' ∧ digits.length = 8)
      (hexadecimal : ∀ d ∈ digits, isDigit 16 d = true) (denotes : valueOf 16 digits = c.toNat) :
      Spells c ('\\' :: mark :: digits)

inductive Quotes : List Char → List Char → Prop where
  | nil : Quotes [] []
  | cons {c part text body} (first : Spells c part) (others : Quotes text body) :
      Quotes (c :: text) (part ++ body)

variable {c letter : Char} {cs rest text body part digits : List Char}

theorem prefixed_nil (read : Option (List Char × List Char)) : prefixed [] read = read := by
  cases read <;> rfl

theorem character?_toNat (c : Char) : character? c.toNat = some c := by
  have valid : c.toNat < 0xD800 ∨ 0xDFFF < c.toNat ∧ c.toNat < 0x110000 := c.valid
  rw [character?, if_pos valid, Char.ofNat_toNat]

theorem basicBody_plain (shown : isShown c = true) (quote : c ≠ '"') (backslash : c ≠ '\\') :
    basicBody .outside (c :: rest) = prefixed [c] (basicBody .outside rest) := by
  rw [basicBody, if_neg quote, if_neg backslash, if_pos shown]

theorem basicBody_backslash :
    basicBody .outside ('\\' :: rest) = basicBody .opened rest := by
  rw [basicBody, if_neg (by decide), if_pos rfl]

theorem basicBody_next {state after : Escape} (step : Escape.next c state = some (after, text))
    (inside : state ≠ .outside) :
    basicBody state (c :: rest) = prefixed text (basicBody after rest) := by
  cases state with
  | outside => exact absurd rfl inside
  | opened =>
    rw [basicBody, step]
    exact nofun
  | code left value =>
    rw [basicBody, step]
    exact nofun

theorem basicBody_short (denotes : simpleEscape? letter = some c) :
    basicBody .opened (letter :: rest) = prefixed [c] (basicBody .outside rest) := by
  have four : letter ≠ 'u' := by
    intro same
    rw [same] at denotes
    cases denotes
  have eight : letter ≠ 'U' := by
    intro same
    rw [same] at denotes
    cases denotes
  have next : Escape.next letter .opened = some (.outside, [c]) := by
    rw [Escape.next, if_neg four, if_neg eight, denotes]
    rfl
  exact basicBody_next next nofun

-- By induction on the digits, of which the last one completes the character.
theorem basicBody_code {left value : Nat} (sized : digits.length = left + 1)
    (hexadecimal : ∀ d ∈ digits, isDigit 16 d = true)
    (denotes : digits.foldl (fun total d => total * 16 + (Numeral.digit? 16 d).getD 0) value
      = c.toNat) :
    basicBody (.code (left + 1) value) (digits ++ rest) = prefixed [c] (basicBody .outside rest) := by
  induction digits generalizing left value with
  | nil => cases sized
  | cons d more ih =>
    obtain ⟨first, others⟩ := List.forall_mem_cons.mp hexadecimal
    obtain ⟨digit, known⟩ := Option.isSome_iff_exists.mp first
    rw [List.foldl_cons, known, Option.getD_some] at denotes
    rw [List.cons_append]
    cases more with
    | nil =>
      have last : left = 0 := by simpa using sized.symm
      have next : Escape.next d (.code (left + 1) value) = some (.outside, [c]) := by
        rw [List.foldl_nil] at denotes
        simp [Escape.next, known, last, denotes, character?_toNat]
      exact basicBody_next next nofun
    | cons e behind =>
      obtain ⟨before, rfl⟩ : ∃ before, left = before + 1 :=
        ⟨behind.length, by simpa using sized.symm⟩
      have next : Escape.next d (.code (before + 1 + 1) value)
          = some (.code (before + 1) (value * 16 + digit), []) := by
        simp [Escape.next, known]
      rw [basicBody_next next nofun, prefixed_nil]
      exact ih (by simpa using sized) others denotes

theorem Spells.read (spells : Spells c part) :
    basicBody .outside (part ++ rest) = prefixed [c] (basicBody .outside rest) := by
  cases spells with
  | plain shown quote backslash => exact basicBody_plain shown quote backslash
  | short letter denotes =>
    change basicBody .outside ('\\' :: letter :: rest) = _
    rw [basicBody_backslash, basicBody_short denotes]
  | code mark digits sized hexadecimal denotes =>
    change basicBody .outside ('\\' :: mark :: (digits ++ rest)) = _
    rw [basicBody_backslash]
    rcases sized with ⟨rfl, four⟩ | ⟨rfl, eight⟩
    · have opened : Escape.next 'u' .opened = some (.code 4 0, []) := rfl
      rw [basicBody_next opened nofun, prefixed_nil, basicBody_code four hexadecimal denotes]
    · have opened : Escape.next 'U' .opened = some (.code 8 0, []) := rfl
      rw [basicBody_next opened nofun, prefixed_nil, basicBody_code eight hexadecimal denotes]

theorem Quotes.read (quotes : Quotes text body) :
    basicBody .outside (body ++ '"' :: rest) = some (text, rest) := by
  induction quotes with
  | nil => rw [List.nil_append, basicBody, if_pos rfl]
  | cons first others ih =>
    rw [List.append_assoc, first.read, ih]
    rfl

-- A quote inside is never the first character, so no other closes the text too early.
theorem Quotes.head?_ne_quote (quotes : Quotes text body) : body.head? ≠ some '"' := by
  cases quotes with
  | nil => exact nofun
  | cons first others =>
    cases first with
    | plain shown quote backslash =>
      intro same
      exact quote (Option.some.inj same)
    | short letter denotes => exact fun same => absurd (Option.some.inj same) (by decide)
    | code mark digits sized hexadecimal denotes =>
      exact fun same => absurd (Option.some.inj same) (by decide)

theorem string?_basic (single : ∀ more, cs ≠ '"' :: '"' :: more) :
    string? ('"' :: cs) = basicBody .outside cs := by
  unfold string?
  split
  · rename_i more same
    exact absurd (List.cons.inj same).2 (single more)
  · rename_i same
    cases same
  · rename_i more _ same
    rw [(List.cons.inj same).2]
  · rename_i same
    cases same
  · rename_i other _
    exact absurd rfl (other cs)

theorem Quotes.string?_eq (quotes : Quotes text body) (behind : rest.head? ≠ some '"') :
    string? ('"' :: (body ++ '"' :: rest)) = some (text, rest) := by
  rw [string?_basic, quotes.read]
  intro more same
  cases empty : body with
  | nil =>
    rw [empty, List.nil_append] at same
    rw [(List.cons.inj same).2] at behind
    exact behind rfl
  | cons first others =>
    rw [empty, List.cons_append] at same
    have head := quotes.head?_ne_quote
    rw [empty, (List.cons.inj same).1] at head
    exact head rfl

def escaped (c : Char) : List Char :=
  if c = '"' ∨ c = '\\' then ['\\', c]
  else if c.toNat < 0x20 ∨ c.toNat = 0x7F then
    ['\\', 'u', '0', '0', Numeral.hexDigit (c.toNat / 16), Numeral.hexDigit (c.toNat % 16)]
  else [c]

theorem spells_escaped (c : Char) : Spells c (escaped c) := by
  unfold escaped
  split
  · rename_i special
    rcases special with rfl | rfl
    · exact .short _ _ rfl
    · exact .short _ _ rfl
  · rename_i ordinary
    split
    · have upper := Numeral.digit?_hexDigit (c.toNat / 16) (by omega)
      have lower := Numeral.digit?_hexDigit (c.toNat % 16) (by omega)
      have zero : Numeral.digit? 16 '0' = some 0 := rfl
      refine .code c 'u' _ (.inl ⟨rfl, rfl⟩) ?_ ?_
      · simp [isDigit, upper, lower, zero]
      · simp only [valueOf, List.foldl_cons, List.foldl_nil, zero, upper, lower, Option.getD_some]
        omega
    · rename_i control
      refine .plain c ?_ (fun same => ordinary (.inl same)) (fun same => ordinary (.inr same))
      rw [isShown, Bool.or_eq_true, Bool.and_eq_true, decide_eq_true_eq, bne_iff_ne]
      exact .inr ⟨by omega, by omega⟩

theorem quotes_escaped (text : List Char) : Quotes text (text.flatMap escaped) := by
  induction text with
  | nil => exact .nil
  | cons c rest ih => exact .cons (spells_escaped c) ih

end ModulatorInspector.Toml
