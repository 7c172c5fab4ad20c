import Mathlib.Data.List.Forall2
import Mathlib.Data.List.TakeDrop
import ModulatorInspector.Proofs.Text.Numerals
import ModulatorInspector.Proofs.Toml.Decimals
import ModulatorInspector.Proofs.Toml.Entries
import ModulatorInspector.Proofs.Toml.Strings

namespace ModulatorInspector.Toml

open Numeral (greatestSigned64)

section Lines

inductive Writes : Item → List Char → Prop where
  | string (text : String) {body} (quotes : Quotes text.toList body) :
      Writes (.string text) ('"' :: (body ++ ['"']))
  | integer (n : Nat) (bounded : n ≤ Numeral.greatestSigned64) :
      Writes (.integer n) (Nat.toDigits 10 n)

def IsBare (name : String) : Prop := name.toList ≠ [] ∧ ∀ c ∈ name.toList, isBare c = true

-- The lines that give each name its item, and the text that they make.
inductive Lines : List (String × Item) → List Char → Prop where
  | nil : Lines [] []
  | cons {name item written given text} (bare : IsBare name) (writes : Writes item written)
      (others : Lines given text) :
      Lines ((name, item) :: given) (name.toList ++ ' ' :: '=' :: ' ' :: (written ++ '\n' :: text))

-- The item is read from this text, up to the end of the line. No blank begins it.
structure Stands (item : Item) (written : List Char) : Prop where
  unblank (rest : List Char) : dropBlanks (written ++ rest) = written ++ rest
  read (rest : List Char) : value? (written ++ '\n' :: rest) = some (item, '\n' :: rest)

-- Such lines, with every item in any form that it is read from.
inductive LaidOut : List (String × Item) → List Char → Prop where
  | nil : LaidOut [] []
  | cons {name item written given text} (bare : IsBare name) (stands : Stands item written)
      (others : LaidOut given text) :
      LaidOut ((name, item) :: given) (name.toList ++ ' ' :: '=' :: ' ' :: (written ++ '\n' :: text))

variable {cs rest text written : List Char} {c : Char} {name : String} {item : Item}
  {given : List (String × Item)} {statements : List Statement} {d : Draft}

theorem ne_of_isBare {d : Char} (bare : isBare c = true) (other : isBare d = false) : c ≠ d := by
  intro same
  rw [same, other] at bare
  cases bare

theorem dropBlanks_cons (visible : isBlank c = false) : dropBlanks (c :: rest) = c :: rest :=
  List.dropWhile_cons_of_neg (by simp [visible])

theorem isBlank_eq_false (space : c ≠ ' ') (tab : c ≠ '\t') : isBlank c = false := by
  simp [isBlank, space, tab]

theorem isBlank_of_isBare (bare : isBare c = true) : isBlank c = false :=
  isBlank_eq_false (ne_of_isBare bare (by decide)) (ne_of_isBare bare (by decide))

theorem IsBare.exists_head (bare : IsBare name) :
    ∃ c more, name.toList = c :: more ∧ isBare c = true := by
  obtain ⟨c, more, letters⟩ := List.exists_cons_of_ne_nil bare.1
  refine ⟨c, more, letters, bare.2 c ?_⟩
  rw [letters]
  exact List.mem_cons_self

theorem keyText?_bare (bare : IsBare name) :
    keyText? (name.toList ++ ' ' :: rest) = some (name.toList, ' ' :: rest) := by
  have blank : isBare ' ' = false := by decide
  have letters : (name.toList ++ ' ' :: rest).takeWhile isBare = name.toList := by
    rw [List.takeWhile_append_of_pos bare.2, List.takeWhile_cons_of_neg (by simp [blank]),
      List.append_nil]
  have behind : (name.toList ++ ' ' :: rest).dropWhile isBare = ' ' :: rest := by
    rw [List.dropWhile_append_of_pos bare.2, List.dropWhile_cons_of_neg (by simp [blank])]
  obtain ⟨c, more, whole, first⟩ := bare.exists_head
  unfold keyText?
  split
  · rename_i same
    rw [whole, List.cons_append] at same
    exact absurd (List.cons.inj same).1 (ne_of_isBare first (by decide))
  · rename_i same
    rw [whole, List.cons_append] at same
    exact absurd (List.cons.inj same).1 (ne_of_isBare first (by decide))
  · rw [letters, if_neg (by simpa using bare.1), List.span_eq_takeWhile_dropWhile, letters, behind]

theorem dottedKey?_bare (bare : IsBare name) (rest : List Char) :
    ∃ key, key.text = name
      ∧ dottedKey? (name.toList ++ ' ' :: '=' :: rest) = some ([], key, '=' :: rest) := by
  obtain ⟨c, more, whole, first⟩ := bare.exists_head
  have start : dropBlanks (name.toList ++ ' ' :: '=' :: rest) = name.toList ++ ' ' :: '=' :: rest := by
    rw [whole, List.cons_append, dropBlanks_cons (isBlank_of_isBare first)]
  refine ⟨⟨name, ⟨name.toList ++ ' ' :: '=' :: rest, ' ' :: '=' :: rest⟩⟩, rfl, ?_⟩
  have more_parts : depthLimit - 1 = 78 + 1 := rfl
  have equals : dropBlanks (' ' :: '=' :: rest) = '=' :: rest := rfl
  rw [dottedKey?, more_parts, keys?, start, key?, keyText?_bare bare]
  dsimp only [Option.map_some]
  rw [equals, String.ofList_toList]
  rfl

theorem item?_scalar {depth : Nat} (square : cs.head? ≠ some '[') (curly : cs.head? ≠ some '{') :
    item? depth cs = scalar? cs := by
  cases depth with
  | zero => rfl
  | succ depth =>
    unfold item?
    split
    · exact absurd rfl square
    · exact absurd rfl curly
    · rfl

theorem Writes.exists_head (writes : Writes item written) :
    ∃ c more, written = c :: more ∧ (c = '"' ∨ c.isDigit = true) := by
  cases writes with
  | string text quotes => exact ⟨_, _, rfl, .inl rfl⟩
  | integer n bounded =>
    obtain ⟨c, more, numeral, first⟩ := exists_numeral n
    exact ⟨c, more, numeral, .inr first⟩

theorem Writes.scalar?_eq (writes : Writes item written) (rest : List Char) :
    scalar? (written ++ '\n' :: rest) = some (item, '\n' :: rest) := by
  cases writes with
  | string text quotes =>
    have behind : ('\n' :: rest).head? ≠ some '"' := by simp
    have read := quotes.string?_eq behind
    rw [List.cons_append, List.append_assoc, scalar?, if_pos (.inl rfl)]
    change (string? ('"' :: (_ ++ '"' :: '\n' :: rest))).map _ = _
    rw [read]
    simp
  | integer n bounded =>
    obtain ⟨c, more, numeral, first⟩ := exists_numeral n
    have quote : ¬(c = '"' ∨ c = '\'') :=
      not_or.mpr ⟨ne_of_isDigit first rfl, ne_of_isDigit first rfl⟩
    have read := number?_numeral bounded rest
    rw [numeral, List.cons_append] at read ⊢
    rw [scalar?, if_neg quote, if_pos (.inr (.inr (isDigit_decimal first))), read]

theorem Writes.value?_eq (writes : Writes item written) (rest : List Char) :
    value? (written ++ '\n' :: rest) = some (item, '\n' :: rest) := by
  obtain ⟨c, more, whole, first⟩ := writes.exists_head
  have other {d : Char} (bracket : d.isDigit = false) (quote : d ≠ '"') :
      (written ++ '\n' :: rest).head? ≠ some d := by
    rw [whole]
    intro same
    obtain rfl := Option.some.inj same
    rcases first with rfl | digit
    · exact quote rfl
    · exact ne_of_isDigit digit bracket rfl
  rw [value?, item?_scalar (other rfl (by decide)) (other rfl (by decide)), writes.scalar?_eq]

def Assigns (given : String × Item) (s : Statement) : Prop :=
  ∃ key span, key.text = given.1 ∧ s = .assign [] key span given.2

-- A bare letter begins a line of its own kind: no header, no comment and no blank line.
theorem statement?_bare (bare : isBare c = true) (rest : List Char) :
    statement? (c :: rest) = assignment? (c :: rest) := by
  unfold statement?
  split
  · exact absurd (List.cons.inj ‹_›).1 (ne_of_isBare bare (by decide))
  · exact absurd (List.cons.inj ‹_›).1 (ne_of_isBare bare (by decide))
  · rfl

theorem statements?_bare (bare : isBare c = true) (fuel : Nat) (rest : List Char) :
    statements? (fuel + 1) (c :: rest)
      = (statement? (c :: rest)).bind fun (s, rest) =>
          (statements? fuel rest).map fun more => s :: more := by
  have comment : c ≠ '#' := ne_of_isBare bare (by decide)
  have feed : c ≠ '\n' := ne_of_isBare bare (by decide)
  have carriage : c ≠ '\r' := ne_of_isBare bare (by decide)
  rw [statements?, dropBlanks_cons (isBlank_of_isBare bare)]
  dsimp only
  rw [if_neg (by simp [comment, startsNewline, newline?, feed, carriage])]

theorem Writes.dropBlanks_eq (writes : Writes item written) (rest : List Char) :
    dropBlanks (written ++ rest) = written ++ rest := by
  obtain ⟨c, more, rfl, first⟩ := writes.exists_head
  rcases first with rfl | digit
  · rfl
  · exact dropBlanks_cons
      (isBlank_eq_false (ne_of_isDigit digit rfl) (ne_of_isDigit digit rfl))

theorem Writes.stands (writes : Writes item written) : Stands item written :=
  ⟨writes.dropBlanks_eq, writes.value?_eq⟩

theorem Lines.laidOut (lines : Lines given text) : LaidOut given text := by
  induction lines with
  | nil => exact .nil
  | cons bare writes others ih => exact .cons bare writes.stands ih

theorem statement?_line (bare : IsBare name) (stands : Stands item written) (text : List Char) :
    ∃ s, Assigns (name, item) s
      ∧ statement? (name.toList ++ ' ' :: '=' :: ' ' :: (written ++ '\n' :: text)) = some (s, text) := by
  obtain ⟨key, named, key_read⟩ := dottedKey?_bare bare (' ' :: (written ++ '\n' :: text))
  obtain ⟨c, more, whole, first⟩ := bare.exists_head
  have start : dropBlanks (' ' :: (written ++ '\n' :: text)) = written ++ '\n' :: text :=
    stands.unblank _
  have field : field? value? (name.toList ++ ' ' :: '=' :: ' ' :: (written ++ '\n' :: text))
      = some (⟨[], key, ⟨written ++ '\n' :: text, '\n' :: text⟩, item⟩, '\n' :: text) := by
    rw [field?, key_read]
    change (value? (dropBlanks (' ' :: (written ++ '\n' :: text)))).map _ = _
    rw [start, stands.read]
    rfl
  have ended : lineEnd? ('\n' :: text) = some text := rfl
  refine ⟨.assign [] key ⟨written ++ '\n' :: text, '\n' :: text⟩ item, ⟨key, _, named, rfl⟩, ?_⟩
  rw [whole, List.cons_append] at field ⊢
  rw [statement?_bare first, assignment?, field, Option.bind_some]
  dsimp only
  rw [ended, Option.map_some]

theorem LaidOut.length_le (lines : LaidOut given text) : given.length ≤ text.length := by
  induction lines with
  | nil => exact Nat.le_refl 0
  | cons bare stands others ih =>
    simp only [List.length_cons, List.length_append]
    omega

theorem LaidOut.exists_statements (lines : LaidOut given text) {fuel : Nat}
    (enough : given.length < fuel) :
    ∃ statements, statements? fuel text = some statements
      ∧ List.Forall₂ Assigns given statements := by
  induction lines generalizing fuel with
  | nil =>
    obtain ⟨fuel, rfl⟩ := Nat.exists_eq_succ_of_ne_zero (Nat.ne_of_gt enough)
    exact ⟨[], rfl, .nil⟩
  | @cons name item written given text bare stands others ih =>
    obtain ⟨fuel, rfl⟩ := Nat.exists_eq_succ_of_ne_zero (Nat.ne_of_gt (Nat.zero_lt_of_lt enough))
    obtain ⟨statements, later, assigned⟩ := ih (Nat.lt_of_succ_lt_succ enough)
    obtain ⟨s, assigns, first_line⟩ := statement?_line bare stands text
    obtain ⟨c, more, whole, first⟩ := bare.exists_head
    refine ⟨s :: statements, ?_, .cons assigns assigned⟩
    rw [whole, List.cons_append] at first_line ⊢
    rw [statements?_bare first, first_line, Option.bind_some]
    dsimp only
    rw [later, Option.map_some]

theorem LaidOut.dropMark_eq (lines : LaidOut given text) : dropMark text = text := by
  cases lines with
  | nil => rfl
  | cons bare stands others =>
    obtain ⟨c, more, whole, first⟩ := bare.exists_head
    rw [whole, List.cons_append, dropMark]
    intro rest same
    exact ne_of_isBare first (by decide) (List.cons.inj same).1

def Entry.said (entry : Entry) : String × Item := (entry.1.text, entry.2.2)

theorem Entries.put_new {entries : Entries} {key : Key} {span : Span}
    (new : entries.get? key = none) :
    entries.put [] key span item = some (entries ++ [(key, some span, item)]) := by
  unfold Entries.put Entries.within
  dsimp only
  rw [if_neg (by simp), new]
  rfl

theorem Draft.addAll_assigns (top : d.target = none)
    (assigned : List.Forall₂ Assigns given statements)
    (distinct : (d.current.names ++ given.map Prod.fst).Nodup) :
    ∃ after, d.addAll statements = some after ∧ after.target = none
      ∧ after.current.map Entry.said = d.current.map Entry.said ++ given := by
  induction assigned generalizing d with
  | nil => exact ⟨d, rfl, top, (List.append_nil _).symm⟩
  | @cons first s given statements assigns others ih =>
    obtain ⟨key, span, named, rfl⟩ := assigns
    have new : d.current.get? key = none := by
      rw [Entries.get?_eq_none_iff, named]
      intro member
      exact (List.nodup_append.mp distinct).2.2 _ member _ List.mem_cons_self rfl
    have grown : Entry.said (key, some span, first.2) = first := by rw [Entry.said, named]
    have rearranged : Entries.names (d.current ++ [(key, some span, first.2)])
        ++ given.map Prod.fst = d.current.names ++ (first :: given).map Prod.fst := by
      rw [Entries.names, List.map_append, List.append_assoc, List.map_singleton, named]
      rfl
    obtain ⟨after, added, top_after, said⟩ :=
      ih (d := { d with
          current := d.current ++ [(key, some span, first.2)]
          span := d.span.map fun s => ⟨s.start, span.stop⟩ })
        top (rearranged ▸ distinct)
    refine ⟨after, ?_, top_after, ?_⟩
    · rw [Draft.addAll, Draft.add, Entries.put_new new]
      exact added
    · rw [said, List.map_append, List.append_assoc, List.map_singleton, grown]
      rfl

theorem document?_laidOut (lines : LaidOut given text) (distinct : (given.map Prod.fst).Nodup) :
    ∃ entries, document? text = some entries ∧ entries.map Entry.said = given := by
  obtain ⟨statements, read, assigned⟩ := lines.exists_statements (Nat.lt_succ_of_le lines.length_le)
  obtain ⟨d, added, top, said⟩ :=
    Draft.addAll_assigns (d := {}) rfl assigned distinct
  refine ⟨d.current, ?_, said⟩
  unfold document?
  dsimp only
  rw [lines.dropMark_eq, read, Option.bind_some, Entries.ofStatements, added, Option.bind_some,
    Draft.settle, top]

theorem document?_lines (lines : Lines given text) (distinct : (given.map Prod.fst).Nodup) :
    ∃ entries, document? text = some entries ∧ entries.map Entry.said = given :=
  document?_laidOut lines.laidOut distinct

-- Of the ways to write an item, the one in which only what cannot stand for itself is escaped.
def itemText : Item → List Char
  | .string text => '"' :: (text.toList.flatMap escaped ++ ['"'])
  | .integer value => Nat.toDigits 10 value.toNat
  | _ => []

def linesText : List (String × Item) → List Char
  | [] => []
  | (name, item) :: given =>
      name.toList ++ ' ' :: '=' :: ' ' :: (itemText item ++ '\n' :: linesText given)

theorem Writes.itemText (writes : Writes item written) : Writes item (itemText item) := by
  cases writes with
  | string text quotes => exact .string text (quotes_escaped text.toList)
  | integer n bounded => exact .integer n bounded

theorem lines_linesText (bare : ∀ line ∈ given, IsBare line.1)
    (writable : ∀ line ∈ given, ∃ written, Writes line.2 written) :
    Lines given (linesText given) := by
  induction given with
  | nil => exact .nil
  | cons line given ih =>
    obtain ⟨written, writes⟩ := writable line List.mem_cons_self
    apply Lines.cons (bare line List.mem_cons_self) writes.itemText
    exact ih (fun l member => bare l (List.mem_cons_of_mem line member))
      fun l member => writable l (List.mem_cons_of_mem line member)

end Lines

section Signs

variable {cs rest : List Char} {c : Char} {n : Nat} {z : Int}

theorem isDigit_minus : isDigit 10 '-' = false := rfl

theorem ranged?_minus (count low high : Nat) (cs : List Char) :
    ranged? (count + 1) low high ('-' :: cs) = none := by
  simp [ranged?, isDigit_minus]

theorem dateTime?_minus (cs : List Char) : dateTime? ('-' :: cs) = none := by
  have date : date? ('-' :: cs) = none := by
    rw [date?, ranged?_minus]
    rfl
  have time : time? ('-' :: cs) = none := by
    rw [time?, ranged?_minus]
    rfl
  rw [dateTime?, date]
  exact time

theorem decimal?_minus (first : c.isDigit = true) :
    decimal? ('-' :: c :: cs) = (decimal? (c :: cs)).map fun read => (true, read.2) := by
  have minus : sign ('-' :: c :: cs) = (true, c :: cs) := rfl
  rw [decimal?, decimal?, minus, sign_decimal first]
  dsimp only
  split
  · rfl
  · rw [Option.map_map]
    rfl

theorem decimal?_negative (n : Nat) (rest : List Char) :
    decimal? ('-' :: (Nat.toDigits 10 n ++ '\n' :: rest))
      = some (true, Nat.toDigits 10 n, '\n' :: rest) := by
  obtain ⟨c, more, numeral, first⟩ := exists_numeral n
  have unsigned := decimal?_numeral n rest
  rw [numeral, List.cons_append] at unsigned ⊢
  rw [decimal?_minus first, unsigned]
  rfl

theorem float?_negative (n : Nat) (rest : List Char) :
    float? ('-' :: (Nat.toDigits 10 n ++ '\n' :: rest)) = none := by
  have point : point? ('-' :: (Nat.toDigits 10 n ++ '\n' :: rest)) = none := by
    rw [point?, decimal?_negative]
    rfl
  have special : special? ('-' :: (Nat.toDigits 10 n ++ '\n' :: rest)) = none := by
    obtain ⟨c, more, numeral, first⟩ := exists_numeral n
    have minus : sign ('-' :: c :: (more ++ '\n' :: rest)) = (true, c :: (more ++ '\n' :: rest)) := rfl
    rw [numeral, List.cons_append, special?, minus]
    dsimp only
    split
    · exact absurd (List.cons.inj ‹_›).1 (ne_of_isDigit first rfl)
    · exact absurd (List.cons.inj ‹_›).1 (ne_of_isDigit first rfl)
    · rfl
  rw [float?, point]
  exact special

theorem integer?_negative (bounded : n ≤ greatestSigned64 + 1) (rest : List Char) :
    integer? ('-' :: (Nat.toDigits 10 n ++ '\n' :: rest)) = some (-(n : Int), '\n' :: rest) := by
  have unmarked {mark : Char} {behind : List Char} :
      '-' :: (Nat.toDigits 10 n ++ '\n' :: rest) ≠ '0' :: mark :: behind := by
    intro same
    exact absurd (List.cons.inj same).1 (by decide)
  unfold integer?
  dsimp only
  split
  · exact absurd ‹_› unmarked
  · exact absurd ‹_› unmarked
  · exact absurd ‹_› unmarked
  · rw [decimal?_negative]
    simp [valueOf_numeral, bounded]

theorem value?_negative (bounded : n ≤ greatestSigned64 + 1) (rest : List Char) :
    value? ('-' :: (Nat.toDigits 10 n ++ '\n' :: rest)) = some (.integer (-n), '\n' :: rest) := by
  have quote : ¬('-' = '"' ∨ '-' = '\'') := by decide
  rw [value?, item?_scalar (by simp) (by simp), scalar?, if_neg quote, if_pos (.inr (.inl rfl)),
    number?, dateTime?_minus]
  dsimp only
  rw [float?_negative, integer?_negative bounded]
  rfl

theorem stands_integer (least : -(greatestSigned64 + 1 : Int) ≤ z) (greatest : z ≤ greatestSigned64) :
    Stands (.integer z) (toString z).toList := by
  cases z with
  | ofNat n =>
    have written : (toString (Int.ofNat n)).toList = Nat.toDigits 10 n := by
      change (toString n).toList = _
      rw [Nat.toString_eq_repr, Nat.toList_repr]
    have writes := Writes.integer n (Int.ofNat_le.mp greatest)
    rw [written]
    exact writes.stands
  | negSucc n =>
    rw [Numeral.toList_negative, Nat.toString_eq_repr, Nat.toList_repr]
    constructor
    · intro rest
      rfl
    · intro rest
      exact value?_negative (by omega) rest

end Signs

end ModulatorInspector.Toml
