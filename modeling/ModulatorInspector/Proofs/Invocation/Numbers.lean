import ModulatorInspector.Invocation.Perform
import ModulatorInspector.Proofs.CommandLine.Grammar

namespace ModulatorInspector

namespace CommandLine

variable {p : Parameter} {word value : List Char} {before after : List (List Char)}
  {given : List Given} {awaited : Option Parameter}

theorem Long.unsigned {name : String} {term : Term} (named : Long name term) :
    '=' ∉ name.toList := named.name ▸ Term.sign_notMem_name term

theorem Long.unique {name : String} {term term' : Term} (named : Long name term)
    (named' : Long name term') : term = term' := by
  have found := Term.ofName?_name term
  rw [named.name, ← named'.name, Term.ofName?_name] at found
  exact (Option.some.inj found).symm

theorem Gives.of_attached (gives : Gives word given awaited)
    (spelled : word = '-' :: '-' :: (p.name.toList ++ '=' :: value)) :
    given = [.value p value] ∧ awaited = none := by
  have signed : '=' ∈ p.name.toList ++ '=' :: value :=
    List.mem_append_right _ (List.mem_cons_self ..)
  cases gives with
  | @switch name s named =>
    have body : name.toList = p.name.toList ++ '=' :: value := by simpa using spelled
    exact absurd (body ▸ signed) named.unsigned
  | @awaiting name q named =>
    have body : name.toList = p.name.toList ++ '=' :: value := by simpa using spelled
    exact absurd (body ▸ signed) named.unsigned
  | @attached name q named value' =>
    have body : name.toList ++ '=' :: value' = p.name.toList ++ '=' :: value := by
      simpa using spelled
    have parts := congrArg Progress.splitAtSign body
    rw [Progress.splitAtSign_signed named.unsigned,
      Progress.splitAtSign_signed (long_parameter p).unsigned, Prod.mk.injEq] at parts
    obtain ⟨names, values⟩ := parts
    obtain rfl := String.toList_inj.mp names
    cases named.unique (long_parameter p)
    cases values
    exact ⟨rfl, rfl⟩
  | letters nonempty reads =>
    cases spelled
    exact reads.not_dash.elim

-- By the words in front: they give what they gave, and what stands behind is read as before.
theorem Line.put (line : Line awaited (before ++ word :: after) given)
    (spelled : word = '-' :: '-' :: (p.name.toList ++ '=' :: value)) :
    ∃ earlier later, given = earlier ++ .value p value :: later ∧ ∀ other,
      Line awaited (before ++ ('-' :: '-' :: (p.name.toList ++ '=' :: other)) :: after)
        (earlier ++ .value p other :: later) := by
  induction before generalizing awaited given with
  | nil =>
    cases line with
    | closes => simp [Progress.optionsEnd] at spelled
    | @word _ own _ _ later gives rest =>
      obtain ⟨rfl, rfl⟩ := gives.of_attached spelled
      refine ⟨[], later, rfl, fun other => ?_⟩
      have line := Line.word (.attached (long_parameter p) other) rest
      exact line
    | value operand rest =>
      rcases operand with dash | undashed
      · rw [spelled] at dash
        cases dash
      · exact absurd (spelled ▸ rfl) undashed
  | cons first before ih =>
    rw [List.cons_append] at line
    generalize behind : before ++ word :: after = words at line
    cases line with
    | closes => cases (List.append_eq_nil_iff.mp behind).2
    | @word _ own _ _ later gives rest =>
      subst behind
      obtain ⟨earlier, later, rfl, put⟩ := ih rest
      exact ⟨own ++ earlier, later, by simp, fun other => by simpa using .word gives (put other)⟩
    | @value _ _ later q operand rest =>
      subst behind
      obtain ⟨earlier, later, rfl, put⟩ := ih rest
      exact ⟨.value q first :: earlier, later, rfl, fun other => .value operand (put other)⟩

variable {a b : Arguments} {front : String} {fallback : Option String} {text : String}

theorem inherited_congr {given others : List Given}
    (same : given.map Given.term = others.map Given.term) :
    inherited fallback given = inherited fallback others := by
  cases fallback with
  | none => rfl
  | some path => rw [inherited, inherited, same]

theorem Arguments.assign_assign (a : Arguments) (p : Parameter) (v w : p.Value) :
    (a.assign p v).assign p w = a.assign p w := by
  cases p <;> rfl

-- The value that is changed can be given last, to what all others come to.
theorem takeAll_put {earlier later : List Given} {value other : List Char}
    (taken : Arguments.takeAll {} (earlier ++ .value p value :: later) = .ok a) :
    Arguments.takeAll {} (earlier ++ .value p other :: later) = .ok b
      ↔ ∃ v, Means p other v ∧ a.assign p v = b := by
  have last (text : List Char) : (earlier ++ Given.value p text :: later).Perm
      ((earlier ++ later) ++ [.value p text]) :=
    List.perm_middle.trans (List.perm_append_singleton _ _).symm
  have whole := Arguments.takeAll_of_perm taken (last value)
  rw [Arguments.takeAll_append] at whole
  obtain ⟨others, taken_others, taken_last⟩ := bind_eq_ok_iff.mp whole
  rw [Arguments.takeAll_one] at taken_last
  obtain ⟨new, v, -, rfl⟩ := Arguments.give_eq_ok_iff.mp taken_last
  have again : Arguments.takeAll {} ((earlier ++ later) ++ [.value p other]) = .ok b
      ↔ others.take (.value p other) = .ok b := by
    rw [Arguments.takeAll_append, taken_others, ← Arguments.takeAll_one]
    rfl
  have swap : Arguments.takeAll {} (earlier ++ .value p other :: later) = .ok b
      ↔ Arguments.takeAll {} ((earlier ++ later) ++ [.value p other]) = .ok b :=
    ⟨fun taken => Arguments.takeAll_of_perm taken (last other),
      fun taken => Arguments.takeAll_of_perm taken (last other).symm⟩
  rw [swap, again]
  simp only [Arguments.assign_assign]
  exact Arguments.give_eq_ok_iff.trans (and_iff_right new)

theorem read_put {before after : List String} {other : String}
    (spelled : front.toList = '-' :: '-' :: (p.name.toList ++ ['=']))
    (accepted : read (before ++ (front ++ text) :: after) fallback = .ok a) :
    read (before ++ (front ++ other) :: after) fallback = .ok b
      ↔ ∃ v, Means p other.toList v ∧ a.assign p v = b := by
  obtain ⟨_, read_words, _⟩ := bind_eq_ok_iff.mp accepted
  obtain ⟨given, line⟩ := Progress.line_of_readWords read_words
  rw [read_of_line line] at accepted
  rw [List.map_append, List.map_cons] at line
  obtain ⟨earlier, later, rfl, put⟩ := line.put (toList_attached spelled text)
  have line' : Line none ((before ++ (front ++ other) :: after).map String.toList)
      (earlier ++ .value p other.toList :: later) := by
    rw [List.map_append, List.map_cons, toList_attached spelled other]
    exact put other.toList
  have same : (earlier ++ .value p other.toList :: later).map Given.term
      = (earlier ++ .value p text.toList :: later).map Given.term := by
    simp [Given.term]
  rw [read_of_line line', inherited_congr same, List.append_assoc, List.cons_append]
  rw [List.append_assoc, List.cons_append] at accepted
  exact takeAll_put accepted

end CommandLine

namespace Invocation

open CommandLine (Arguments Means Stop)
open Numeral (Integral Natural)

variable {a b : Arguments} {text : String} {outcome : Except Stop Arguments}

-- What a line comes to with a text for the adapter's number, `a` being what it comes to with some
-- number there.
structure AdapterRead (a : Arguments) (text : String) (outcome : Except Stop Arguments) : Prop where
  accepted : (∃ b, outcome = .ok b) ↔ ∃ z, Integral text.toList z ∧ 0 ≤ z ∧ z ≤ 4294967295
  denoted (b : Arguments) (z : Int) : outcome = .ok b → Integral text.toList z →
    ∃ n : UInt32, (n.toNat : Int) = z ∧ b = { a with adapter := some n }
      ∧ ∀ s, resolve b s = (resolve a s).map fun c => { c with adapter := some n }

structure FrequencyRead (a : Arguments) (text : String) (outcome : Except Stop Arguments) :
    Prop where
  accepted : (∃ b, outcome = .ok b) ↔
    ∃ hz, Natural text.toList hz ∧ 1 ≤ hz ∧ hz ≤ 18446744073709551615
  denoted (b : Arguments) (hz : Nat) : outcome = .ok b → Natural text.toList hz →
    ∃ n : UInt64, n.toNat = hz ∧ b = { a with frequency := some n }
      ∧ ∀ s, resolve b s = (resolve a s).map fun c => { c with frequency := n }

theorem resolve_adapter (a : Arguments) (n : UInt32) (s : Settings) :
    resolve { a with adapter := some n } s
      = (resolve a s).map fun c => { c with adapter := some n } := by
  rw [resolve, resolve]
  split <;> rfl

theorem resolve_frequency (a : Arguments) (hz : UInt64) (s : Settings) :
    resolve { a with frequency := some hz } s
      = (resolve a s).map fun c => { c with frequency := hz } := by
  rw [resolve, resolve]
  split <;> rfl

theorem adapterRead_of_iff
    (read : ∀ b, outcome = .ok b ↔ ∃ n, Means .adapter text.toList n ∧ a.assign .adapter n = b) :
    AdapterRead a text outcome := by
  constructor
  · constructor
    · rintro ⟨b, accepted⟩
      obtain ⟨n, means, -⟩ := (read b).mp accepted
      cases means with
      | adapter n reads =>
        have small : n.toNat < 4294967296 := n.toNat_lt
        exact ⟨n.toNat, reads, Int.natCast_nonneg _, by omega⟩
    · rintro ⟨z, reads, least, small⟩
      have whole : (z.toNat : Int) = z := Int.toNat_of_nonneg least
      have fits : z.toNat.toUInt32.toNat = z.toNat :=
        UInt32.toNat_ofNat_of_lt' (show z.toNat < 4294967296 by omega)
      have means : Means .adapter text.toList z.toNat.toUInt32 := by
        refine .adapter _ ?_
        rwa [fits, whole]
      exact ⟨_, (read _).mpr ⟨_, means, rfl⟩⟩
  · intro b z accepted reads
    obtain ⟨n, means, rfl⟩ := (read b).mp accepted
    cases means with
    | adapter n reads' => exact ⟨n, reads'.unique reads, rfl, resolve_adapter a n⟩

theorem frequencyRead_of_iff
    (read : ∀ b, outcome = .ok b
      ↔ ∃ hz, Means .frequency text.toList hz ∧ a.assign .frequency hz = b) :
    FrequencyRead a text outcome := by
  constructor
  · constructor
    · rintro ⟨b, accepted⟩
      obtain ⟨hz, means, -⟩ := (read b).mp accepted
      cases means with
      | frequency hz positive reads =>
        have nonzero : hz.toNat ≠ 0 := fun zero => positive (UInt64.toNat_inj.mp zero)
        exact ⟨hz.toNat, reads, Nat.one_le_iff_ne_zero.mpr nonzero, Nat.le_of_lt_succ hz.toNat_lt⟩
    · rintro ⟨hz, reads, least, small⟩
      have fits : hz.toUInt64.toNat = hz := UInt64.toNat_ofNat_of_lt' (Nat.lt_succ_of_le small)
      have means : Means .frequency text.toList hz.toUInt64 := by
        refine .frequency _ ?_ (by rwa [fits])
        intro zero
        rw [zero] at fits
        exact absurd fits.symm (Nat.ne_of_gt least)
      exact ⟨_, (read _).mpr ⟨_, means, rfl⟩⟩
  · intro b hz accepted reads
    obtain ⟨n, means, rfl⟩ := (read b).mp accepted
    cases means with
    | frequency n positive reads' => exact ⟨n, reads'.unique reads, rfl, resolve_frequency a n⟩

-- The words around an option with a number. Where they are accepted with the least number there,
-- and they are with such an option in front of all words that do not give it, they are accepted
-- with the texts that denote a number in the range, and it is that number.
structure NumbersRead (before after : List String) (fallback : Option String) (text : String) :
    Prop where
  adapter (a : Arguments) :
    CommandLine.read (before ++ "--adapter=0" :: after) fallback = .ok a →
      AdapterRead a text
        (CommandLine.read (before ++ ("--adapter=" ++ text) :: after) fallback)
  frequency (a : Arguments) :
    CommandLine.read (before ++ "--frequency=1" :: after) fallback = .ok a →
      FrequencyRead a text
        (CommandLine.read (before ++ ("--frequency=" ++ text) :: after) fallback)
  adapter_in_front (a : Arguments) :
    CommandLine.read after fallback = .ok a → a.adapter = none →
      CommandLine.read ("--adapter=0" :: after) fallback = .ok { a with adapter := some 0 }
  frequency_in_front (a : Arguments) :
    CommandLine.read after fallback = .ok a → a.frequency = none →
      CommandLine.read ("--frequency=1" :: after) fallback = .ok { a with frequency := some 1 }

end Invocation

end ModulatorInspector
