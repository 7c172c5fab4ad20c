import ModulatorInspector.CommandLine.Reading
import ModulatorInspector.Proofs.CommandLine.Values

namespace ModulatorInspector.CommandLine

section Lines

namespace Term

theorem ofName?_name (term : Term) : ofName? term.name.toList = some term := by
  cases term with
  | switch s => cases s <;> decide
  | parameter p => cases p <;> decide
  | inquiry i => cases i <;> decide

theorem ofName?_eq_some_iff {name : List Char} {term : Term} :
    ofName? name = some term ↔ name = term.name.toList := by
  constructor
  · intro found
    have named := List.find?_some (p := fun term : Term => decide (term.name.toList = name)) found
    exact (of_decide_eq_true named).symm
  · rintro rfl
    exact ofName?_name term

theorem ofLetter?_eq_some_iff {letter : Char} {term : Term} :
    ofLetter? letter = some term ↔ term.letter? = some letter := by
  constructor
  · intro found
    have lettered := List.find?_some (p := fun term : Term => decide (term.letter? = some letter)) found
    exact of_decide_eq_true lettered
  · intro lettered
    cases term with
    | switch s => cases s <;> cases lettered <;> decide
    | parameter p => cases p <;> cases lettered <;> decide
    | inquiry i => cases i <;> cases lettered <;> decide

theorem sign_notMem_name (term : Term) : '=' ∉ term.name.toList := by
  cases term with
  | switch s => cases s <;> decide
  | parameter p => cases p <;> decide
  | inquiry i => cases i <;> decide

theorem letter?_ne_dash (term : Term) : term.letter? ≠ some '-' := by
  cases term with
  | switch s => cases s <;> decide
  | parameter p => cases p <;> decide
  | inquiry i => cases i <;> decide

end Term

def IsOperand (word : List Char) : Prop := word = ['-'] ∨ word.head? ≠ some '-'

-- The text behind a letter and the value that it is. One sign of equality in front does not count.
inductive Attached : List Char → List Char → Prop where
  | signed : Attached ('=' :: value) value
  | plain (nonempty : text ≠ []) (unsigned : text.head? ≠ some '=') : Attached text text

theorem Attached.ne_nil (behind : Attached text value) : text ≠ [] := by
  cases behind with
  | signed => exact List.cons_ne_nil _ _
  | plain nonempty _ => exact nonempty

inductive Short : Char → Term → Prop where
  | count : Short 'c' (.switch .count)
  | gainRange : Short 'g' (.switch .gainRange)
  | verbose : Short 'v' (.switch .verbose)
  | adapter : Short 'a' (.parameter .adapter)
  | bandwidth : Short 'b' (.parameter .bandwidth)
  | device : Short 'd' (.parameter .device)
  | frequency : Short 'f' (.parameter .frequency)

inductive Long : String → Term → Prop where
  | count : Long "count" (.switch .count)
  | gainRange : Long "gain-range" (.switch .gainRange)
  | verbose : Long "verbose" (.switch .verbose)
  | debug : Long "debug" (.switch .debug)
  | adapter : Long "adapter" (.parameter .adapter)
  | bandwidth : Long "bandwidth" (.parameter .bandwidth)
  | device : Long "device" (.parameter .device)
  | frequency : Long "frequency" (.parameter .frequency)
  | configDirectory : Long "config-dir" (.parameter .configDirectory)

theorem Short.letter {c : Char} {term : Term} (named : Short c term) : term.letter? = some c := by
  cases named <;> rfl

theorem short_switch {c : Char} {s : Switch} (lettered : s.letter? = some c) :
    Short c (.switch s) := by
  cases s <;> cases lettered <;> constructor

theorem short_parameter {c : Char} {p : Parameter} (lettered : p.letter? = some c) :
    Short c (.parameter p) := by
  cases p <;> cases lettered <;> constructor

theorem Long.name {name : String} {term : Term} (named : Long name term) : term.name = name := by
  cases named <;> rfl

theorem long_switch (s : Switch) : Long s.name (.switch s) := by cases s <;> constructor

theorem long_parameter (p : Parameter) : Long p.name (.parameter p) := by cases p <;> constructor

-- What letters behind one dash give, and which parameter they leave to the next word.
inductive Letters : List Char → List Given → Option Parameter → Prop where
  | done : Letters [] [] none
  | switch (named : Short c (.switch s)) (rest : Letters letters given awaited) :
      Letters (c :: letters) (.switch s :: given) awaited
  | attached (named : Short c (.parameter p)) (behind : Attached text value) :
      Letters (c :: text) [.value p value] none
  | awaiting (named : Short c (.parameter p)) : Letters [c] [] (some p)

theorem Letters.not_dash (reads : Letters ('-' :: rest) given awaited) : False := by
  cases reads with
  | switch named | attached named | awaiting named => exact Term.letter?_ne_dash _ named.letter

-- What a word gives, and which parameter it leaves to the next word.
inductive Gives : List Char → List Given → Option Parameter → Prop where
  | switch (named : Long name (.switch s)) : Gives ('-' :: '-' :: name.toList) [.switch s] none
  | attached (named : Long name (.parameter p)) (value : List Char) :
      Gives ('-' :: '-' :: (name.toList ++ '=' :: value)) [.value p value] none
  | awaiting (named : Long name (.parameter p)) : Gives ('-' :: '-' :: name.toList) [] (some p)
  | letters (nonempty : letters ≠ []) (reads : Letters letters given awaited) :
      Gives ('-' :: letters) given awaited

theorem Gives.ne_optionsEnd (gives : Gives word given awaited) : word ≠ Progress.optionsEnd := by
  intro ends
  cases gives with
  | switch named | attached named | awaiting named => cases named <;> cases ends
  | letters nonempty reads =>
    cases ends
    exact reads.not_dash

theorem IsOperand.ne_optionsEnd (operand : IsOperand word) : word ≠ Progress.optionsEnd := by
  rintro rfl
  rcases operand with same | undashed
  · cases same
  · exact undashed rfl

-- The words from one place on, which is behind an option that awaits its value or is not.
inductive Line : Option Parameter → List (List Char) → List Given → Prop where
  | ends : Line none [] []
  | closes : Line none [Progress.optionsEnd] []
  | word (gives : Gives word given awaited) (rest : Line awaited words later) :
      Line none (word :: words) (given ++ later)
  | value (operand : IsOperand value) (rest : Line none words later) :
      Line (some p) (value :: words) (.value p value :: later)

def Pending.awaiting : Option Parameter → Pending
  | none => .nothing
  | some p => .wanting p

def Pending.awaited : Pending → Option Parameter
  | .wanting p => some p
  | _ => none

namespace Progress

variable {r next : Progress} {s : Switch} {p : Parameter} {given later : List Given}
  {awaited : Option Parameter} {letters word name value : List Char} {words : List (List Char)}
  {a : Arguments}

def after (r : Progress) (given : List Given) (awaited : Option Parameter) : Except Stop Progress :=
  (r.settle.bind fun a => a.takeAll given).map fun a => ⟨a, .awaiting awaited⟩

theorem onSwitch_eq (r : Progress) (s : Switch) : r.onSwitch s = r.after [.switch s] none := by
  rw [onSwitch, after]
  cases r.settle with
  | error stop => rfl
  | ok a =>
    change (a.turnOn s).bind _ = (a.takeAll [.switch s]).map _
    rw [Arguments.takeAll_one]
    rfl

theorem onAttached_eq (r : Progress) (p : Parameter) (value : List Char) :
    r.onAttached p value = r.after [.value p value] none := by
  rw [onAttached, after]
  cases r.settle with
  | error stop => rfl
  | ok a =>
    change (a.give p value).bind _ = (a.takeAll [.value p value]).map _
    rw [Arguments.takeAll_one]
    rfl

theorem onParameter_eq (r : Progress) (p : Parameter) : r.onParameter p = r.after [] (some p) := by
  rw [onParameter, after]
  cases r.settle <;> rfl

theorem onInquiry_ne_ok (r : Progress) (i : Inquiry) (form : Form) :
    r.onInquiry i form ≠ .ok next := by
  rw [onInquiry]
  cases r.settle <;> exact nofun

theorem after_bind (r : Progress) (given : List Given) (awaited : Option Parameter)
    (f : Progress → Except Stop α) :
    (r.after given awaited).bind f
      = (r.settle.bind fun a => a.takeAll given).bind fun a => f ⟨a, .awaiting awaited⟩ := by
  rw [after]
  cases r.settle.bind fun a => a.takeAll given <;> rfl

theorem after_after (r : Progress) (given later : List Given) (awaited : Option Parameter) :
    (r.after given none).bind (fun r => r.after later awaited) = r.after (given ++ later) awaited := by
  rw [after_bind, after]
  cases r.settle with
  | error stop => rfl
  | ok a =>
    change ((a.takeAll given).bind fun a => (a.takeAll later).map _)
      = (a.takeAll (given ++ later)).map _
    rw [Arguments.takeAll_append]
    cases a.takeAll given <;> rfl

theorem splitAtSign_joins (body : List Char) :
    (splitAtSign body).1 ++ (splitAtSign body).2.elim [] ('=' :: ·) = body := by
  induction body with
  | nil => rfl
  | cons c rest ih =>
    by_cases sign : c = '='
    · subst sign
      rfl
    · have step : splitAtSign (c :: rest) = (c :: (splitAtSign rest).1, (splitAtSign rest).2) := by
        simp [splitAtSign]
      rw [step, List.cons_append, ih]

theorem splitAtSign_unsigned (unsigned : '=' ∉ name) : splitAtSign name = (name, none) := by
  induction name with
  | nil => rfl
  | cons c rest ih =>
    obtain ⟨other, unsigned⟩ := not_or.mp (mt List.mem_cons.mpr unsigned)
    simp [splitAtSign, Ne.symm other, ih unsigned]

theorem splitAtSign_signed (unsigned : '=' ∉ name) (value : List Char) :
    splitAtSign (name ++ '=' :: value) = (name, some value) := by
  induction name with
  | nil => rfl
  | cons c rest ih =>
    obtain ⟨other, unsigned⟩ := not_or.mp (mt List.mem_cons.mpr unsigned)
    simp [splitAtSign, Ne.symm other, ih unsigned]

theorem attachedValue_eq (behind : Attached letters value) : attachedValue letters = value := by
  cases behind with
  | signed => rfl
  | plain nonempty unsigned =>
    cases letters with
    | nil => rfl
    | cons c rest =>
      have other : c ≠ '=' := fun same => unsigned (congrArg some same)
      simp [attachedValue, other]

theorem attached_attachedValue (nonempty : letters ≠ []) :
    Attached letters (attachedValue letters) := by
  by_cases sign : letters.head? = some '='
  · obtain ⟨value, rfl⟩ := List.head?_eq_some_iff.mp sign
    exact .signed
  · have behind := Attached.plain nonempty sign
    rwa [attachedValue_eq behind]

theorem readLetters_switch (named : Short c (.switch s)) (r : Progress) (rest : List Char) :
    r.readLetters (c :: rest) = (r.after [.switch s] none).bind fun r => r.readLetters rest := by
  have found : Term.ofLetter? c = some (.switch s) := Term.ofLetter?_eq_some_iff.mpr named.letter
  rw [readLetters, found, ← onSwitch_eq]

theorem readLetters_parameter (named : Short c (.parameter p)) (r : Progress) (rest : List Char) :
    r.readLetters (c :: rest) = if rest = [] then r.after [] (some p)
      else r.after [.value p (attachedValue rest)] none := by
  have found : Term.ofLetter? c = some (.parameter p) := Term.ofLetter?_eq_some_iff.mpr named.letter
  rw [readLetters, found, ← onParameter_eq, ← onAttached_eq]

theorem readLetters_of_letters (reads : Letters letters given awaited) (nonempty : letters ≠ []) :
    r.readLetters letters = r.after given awaited := by
  induction reads generalizing r with
  | done => exact absurd rfl nonempty
  | @switch c s letters given awaited named rest ih =>
    rw [readLetters_switch named]
    by_cases last : letters = []
    · subst last
      cases rest
      cases r.after [.switch s] none <;> rfl
    · rw [funext fun r => ih (r := r) last, after_after, List.singleton_append]
  | attached named behind =>
    rw [readLetters_parameter named, if_neg behind.ne_nil, attachedValue_eq behind]
  | awaiting named => rw [readLetters_parameter named, if_pos rfl]

theorem letters_of_readLetters (read : r.readLetters letters = .ok next) :
    ∃ given awaited, Letters letters given awaited := by
  induction letters generalizing r with
  | nil => exact ⟨[], none, .done⟩
  | cons c rest ih =>
    rw [readLetters] at read
    split at read
    · cases read
    · rename_i s found
      obtain ⟨later, _, read_rest⟩ := bind_eq_ok_iff.mp read
      obtain ⟨given, awaited, reads⟩ := ih read_rest
      exact ⟨_, _, .switch (short_switch (Term.ofLetter?_eq_some_iff.mp found)) reads⟩
    · rename_i p found
      have named := short_parameter (Term.ofLetter?_eq_some_iff.mp found)
      split at read
      · rename_i last
        subst last
        exact ⟨_, _, .awaiting named⟩
      · rename_i more
        exact ⟨_, _, .attached named (attached_attachedValue more)⟩
    · exact absurd read (onInquiry_ne_ok r _ _)

theorem readWord_name (term : Term) (r : Progress) :
    r.readWord ('-' :: '-' :: term.name.toList) = r.readName term.name.toList none := by
  rw [readWord, splitAtSign_unsigned term.sign_notMem_name]

theorem readWord_signed (term : Term) (r : Progress) (value : List Char) :
    r.readWord ('-' :: '-' :: (term.name.toList ++ '=' :: value))
      = r.readName term.name.toList (some value) := by
  rw [readWord, splitAtSign_signed term.sign_notMem_name]

theorem readWord_letters {c : Char} (named : c ≠ '-') (r : Progress) (rest : List Char) :
    r.readWord ('-' :: c :: rest) = r.readLetters (c :: rest) := by
  simp [readWord]

theorem readWord_operand (operand : IsOperand word) (r : Progress) :
    r.readWord word = r.readOther word := by
  rcases operand with rfl | undashed
  · rfl
  · cases word with
    | nil => rfl
    | cons c rest =>
      have other : c ≠ '-' := fun same => undashed (congrArg some same)
      simp [readWord, other]

theorem readWord_of_gives (gives : Gives word given awaited) (r : Progress) :
    r.readWord word = r.after given awaited := by
  cases gives with
  | switch named =>
    rw [← named.name, readWord_name]
    simp only [readName, Term.ofName?_name, onSwitch_eq]
  | attached named value =>
    rw [← named.name, readWord_signed]
    simp only [readName, Term.ofName?_name, onAttached_eq]
  | awaiting named =>
    rw [← named.name, readWord_name]
    simp only [readName, Term.ofName?_name, onParameter_eq]
  | letters nonempty reads =>
    obtain ⟨c, rest, rfl⟩ := List.exists_cons_of_ne_nil nonempty
    have named : c ≠ '-' := by
      rintro rfl
      exact reads.not_dash
    rw [readWord_letters named, readLetters_of_letters reads nonempty]

theorem gives_of_readName {name : List Char} {value? : Option (List Char)}
    (read : r.readName name value? = .ok next) :
    ∃ given awaited, Gives ('-' :: '-' :: (name ++ value?.elim [] ('=' :: ·))) given awaited := by
  unfold readName at read
  split at read
  · cases read
  · rename_i p value found
    cases Term.ofName?_eq_some_iff.mp found
    exact ⟨_, _, .attached (long_parameter p) value⟩
  · rename_i p found
    cases Term.ofName?_eq_some_iff.mp found
    rw [Option.elim_none, List.append_nil]
    exact ⟨_, _, .awaiting (long_parameter p)⟩
  · cases read
  · rename_i s found
    cases Term.ofName?_eq_some_iff.mp found
    rw [Option.elim_none, List.append_nil]
    exact ⟨_, _, .switch (long_switch s)⟩
  · exact absurd read (onInquiry_ne_ok r _ _)

theorem readOther_eq_ok_iff : r.readOther word = .ok next ↔
    ∃ p, r.pending = .wanting p ∧ next = ⟨r.arguments, .holding p word⟩ := by
  unfold readOther
  cases r.pending <;> simp [eq_comm]

theorem gives_or_value_of_readWord (read : r.readWord word = .ok next) :
    (∃ given awaited, Gives word given awaited) ∨
      IsOperand word ∧ ∃ p, r.pending = .wanting p ∧ next = ⟨r.arguments, .holding p word⟩ := by
  unfold readWord at read
  split at read
  · rename_i body
    refine .inl ?_
    rw [← splitAtSign_joins body]
    exact gives_of_readName read
  · rename_i c letters other
    obtain ⟨given, awaited, reads⟩ := letters_of_readLetters read
    exact .inl ⟨given, awaited, .letters (List.cons_ne_nil c letters) reads⟩
  · rename_i unnamed unlettered
    refine .inr ⟨?_, readOther_eq_ok_iff.mp read⟩
    by_cases dashed : word.head? = some '-'
    · obtain ⟨rest, rfl⟩ := List.head?_eq_some_iff.mp dashed
      cases rest with
      | nil => exact .inl rfl
      | cons c letters => exact absurd rfl (unlettered c letters)
    · exact .inr dashed

theorem awaited_of_settle (settled : r.settle = .ok a) : r.pending.awaited = none := by
  unfold settle at settled
  cases pending : r.pending with
  | nothing => rfl
  | holding p value => rfl
  | wanting p =>
    rw [pending] at settled
    cases settled

theorem awaited_awaiting (awaited : Option Parameter) :
    (Pending.awaiting awaited).awaited = awaited := by
  cases awaited <;> rfl

theorem readWords_word (goesOn : word ≠ optionsEnd) (r : Progress) (words : List (List Char)) :
    r.readWords (word :: words) = (r.readWord word).bind fun r => r.readWords words := by
  rw [readWords.eq_def]
  exact if_neg goesOn

theorem readWords_optionsEnd (r : Progress) : r.readWords [optionsEnd] = r.settle := by
  rw [readWords.eq_def]
  rfl

theorem readWords_surplus (r : Progress) (word : List Char) (words : List (List Char)) :
    r.readWords (optionsEnd :: word :: words) = .error (.unexpected (String.ofList word)) := by
  rw [readWords.eq_def]
  rfl

theorem settle_nothing (r : Progress) : (r.settle.bind fun a => a.takeAll []) = r.settle := by
  cases r.settle <;> rfl

-- What a line gives is taken in its order, behind what is pending; a value that is awaited comes
-- first.
theorem readWords_of_line (line : Line awaited words given) :
    (∀ r, awaited = none → readWords r words = r.settle.bind fun a => a.takeAll given)
      ∧ ∀ a, readWords ⟨a, .awaiting awaited⟩ words = a.takeAll given := by
  induction line with
  | ends => exact ⟨fun r _ => (settle_nothing r).symm, fun a => rfl⟩
  | closes =>
    refine ⟨fun r _ => ?_, fun a => readWords_optionsEnd _⟩
    rw [readWords_optionsEnd, settle_nothing]
  | @word word given awaited words later gives rest ih =>
    have reads (r : Progress) : readWords r (word :: words)
        = r.settle.bind fun a => a.takeAll (given ++ later) := by
      rw [readWords_word gives.ne_optionsEnd, readWord_of_gives gives, after_bind]
      simp only [ih.2, Arguments.takeAll_append]
      cases r.settle <;> rfl
    exact ⟨fun r _ => reads r, fun a => reads ⟨a, .nothing⟩⟩
  | @value value words later p operand rest ih =>
    refine ⟨fun r settled => absurd settled (Option.some_ne_none p), fun a => ?_⟩
    rw [readWords_word operand.ne_optionsEnd, readWord_operand operand, Arguments.takeAll_cons]
    exact ih.1 ⟨a, .holding p value⟩ rfl

theorem line_of_readWords (read : r.readWords words = .ok a) :
    ∃ given, Line r.pending.awaited words given := by
  induction words generalizing r with
  | nil =>
    rw [awaited_of_settle (show r.settle = .ok a from read)]
    exact ⟨[], .ends⟩
  | cons word words ih =>
    by_cases ends : word = optionsEnd
    · subst ends
      cases words with
      | nil =>
        rw [readWords_optionsEnd] at read
        rw [awaited_of_settle read]
        exact ⟨[], .closes⟩
      | cons surplus words =>
        rw [readWords_surplus] at read
        cases read
    · rw [readWords_word ends] at read
      obtain ⟨next, read_word, read_words⟩ := bind_eq_ok_iff.mp read
      obtain ⟨later, rest⟩ := ih read_words
      rcases gives_or_value_of_readWord read_word with
        ⟨given, awaited, gives⟩ | ⟨operand, p, wanting, rfl⟩
      · rw [readWord_of_gives gives, after] at read_word
        obtain ⟨taken, took, rfl⟩ := map_eq_ok_iff.mp read_word
        obtain ⟨settled, settles, _⟩ := bind_eq_ok_iff.mp took
        rw [awaited_of_settle settles]
        rw [awaited_awaiting] at rest
        exact ⟨_, .word gives rest⟩
      · rw [wanting]
        exact ⟨_, .value operand rest⟩

end Progress

-- The configuration directory of the surroundings counts as given where the words name none.
def inherited (fallback : Option String) (given : List Given) : List Given :=
  match fallback with
  | some path =>
      if Term.parameter .configDirectory ∈ given.map Given.term then []
      else [.value .configDirectory path.toList]
  | none => []

variable {a : Arguments} {given : List Given}

theorem withFallback_eq (holds : a.Holds given) (fallback : Option String) :
    a.withFallback fallback = a.takeAll (inherited fallback given) := by
  have absent := holds.value?_eq_none (p := .configDirectory)
  unfold Arguments.withFallback inherited
  cases fallback with
  | none => cases a.configDirectory <;> rfl
  | some path =>
    dsimp only
    by_cases named : Term.parameter .configDirectory ∈ given.map Given.term
    · obtain ⟨own, held⟩ := Option.ne_none_iff_exists'.mp (mt absent.mp (not_not.mpr named))
      rw [if_pos named, show a.configDirectory = some own from held]
      rfl
    · rw [if_neg named, show a.configDirectory = none from absent.mpr named, Arguments.takeAll_one]
      rfl

theorem nodup_inherited (fallback : Option String) (given : List Given) :
    ((given ++ inherited fallback given).map Given.term).Nodup ↔ (given.map Given.term).Nodup := by
  cases fallback with
  | none => rw [inherited, List.append_nil]
  | some path =>
    by_cases named : Term.parameter .configDirectory ∈ given.map Given.term
    · rw [inherited, if_pos named, List.append_nil]
    · rw [inherited, if_neg named, Arguments.terms_append_one]
      exact and_iff_right named

theorem read_of_line {words : List String} (line : Line none (words.map String.toList) given)
    (fallback : Option String) :
    read words fallback = Arguments.takeAll {} (given ++ inherited fallback given) := by
  have read_words := (Progress.readWords_of_line line).2 {}
  rw [Pending.awaiting] at read_words
  rw [read, read_words, Arguments.takeAll_append]
  cases taken : Arguments.takeAll {} given with
  | error stop => rfl
  | ok a => exact withFallback_eq (Arguments.holds_of_takeAll taken).2 fallback

theorem read_eq_ok_iff (words : List String) (fallback : Option String) (a : Arguments) :
    read words fallback = .ok a ↔
      ∃ given, Line none (words.map String.toList) given ∧ (given.map Given.term).Nodup
        ∧ a.Holds (given ++ inherited fallback given) := by
  constructor
  · intro accepted
    obtain ⟨_, read_words, _⟩ := bind_eq_ok_iff.mp accepted
    obtain ⟨given, line⟩ := Progress.line_of_readWords read_words
    rw [read_of_line line, Arguments.takeAll_eq_ok_iff, nodup_inherited] at accepted
    exact ⟨given, line, accepted⟩
  · rintro ⟨given, line, accepted⟩
    rw [read_of_line line, Arguments.takeAll_eq_ok_iff, nodup_inherited]
    exact accepted

example : read ["-cvd==x", "--frequency", "5", "--"] (some "there")
    = .ok { count := true, verbose := true, device := some "=x", frequency := some 5,
            configDirectory := some "there" } := by decide +kernel

end Lines

namespace Arguments

variable {a : Arguments} {given others : List Given}

theorem Holds.of_perm (holds : a.Holds given) (same : given.Perm others) : a.Holds others := by
  constructor
  · intro s
    rw [holds.switches, same.mem_iff]
  · intro p text member
    exact holds.values p text (same.mem_iff.mpr member)
  · intro p absent
    apply holds.unset
    intro text member
    exact absent text (same.mem_iff.mp member)

theorem takeAll_of_perm (taken : takeAll {} given = .ok a) (same : given.Perm others) :
    takeAll {} others = .ok a := by
  obtain ⟨distinct, holds⟩ := takeAll_eq_ok_iff.mp taken
  exact takeAll_eq_ok_iff.mpr ⟨(same.map Given.term).nodup_iff.mp distinct, holds.of_perm same⟩

end Arguments

variable {a b : Arguments} {words : List String} {fallback : Option String}

theorem inherited_cons {g : Given} {given : List Given}
    (new : g.term ∉ (given ++ inherited fallback given).map Given.term) :
    inherited fallback (g :: given) = inherited fallback given := by
  cases fallback with
  | none => rfl
  | some path =>
    by_cases named : Term.parameter .configDirectory ∈ given.map Given.term
    · have still : Term.parameter .configDirectory ∈ (g :: given).map Given.term :=
        List.mem_cons_of_mem _ named
      rw [inherited, inherited, if_pos named, if_pos still]
    · have unnamed : Term.parameter .configDirectory ∉ (g :: given).map Given.term := by
        intro member
        rcases List.mem_cons.mp member with same | earlier
        · refine new ?_
          rw [inherited, if_neg named, ← same, List.map_append]
          exact List.mem_append_right _ (List.mem_singleton_self _)
        · exact named earlier
      rw [inherited, inherited, if_neg named, if_neg unnamed]

-- `front` is the name of a parameter with the two dashes before it and the sign of equality behind it.
theorem toList_attached {p : Parameter} {front : String}
    (spelled : front.toList = '-' :: '-' :: (p.name.toList ++ ['='])) (value : String) :
    (front ++ value).toList = '-' :: '-' :: (p.name.toList ++ '=' :: value.toList) := by
  rw [String.toList_append, spelled]
  simp

theorem read_cons {word : String} {g : Given} (gives : Gives word.toList [g] none)
    (accepted : read words fallback = .ok a) (taken : a.take g = .ok b) :
    read (word :: words) fallback = .ok b := by
  obtain ⟨_, read_words, _⟩ := bind_eq_ok_iff.mp accepted
  obtain ⟨given, line⟩ := Progress.line_of_readWords read_words
  have longer : Line none ((word :: words).map String.toList) (g :: given) := .word gives line
  rw [read_of_line line] at accepted
  have new := ((Arguments.holds_of_takeAll accepted).2.take taken).2
  rw [read_of_line longer, inherited_cons new]
  have behind : Arguments.takeAll {} ((given ++ inherited fallback given) ++ [g]) = .ok b := by
    rw [Arguments.takeAll_append, accepted]
    exact (Arguments.takeAll_one a g).trans taken
  exact Arguments.takeAll_of_perm behind (List.perm_append_singleton g _)

theorem read_fallback (accepted : read words none = .ok a) (fallback : Option String) :
    read words fallback = a.withFallback fallback := by
  obtain ⟨b, read_words, settled⟩ := bind_eq_ok_iff.mp accepted
  have same : b.withFallback none = .ok b := by
    unfold Arguments.withFallback
    cases b.configDirectory <;> rfl
  rw [same] at settled
  cases settled
  rw [read, read_words]
  rfl

end ModulatorInspector.CommandLine
