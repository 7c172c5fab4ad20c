import Mathlib.Data.List.Induction
import Mathlib.Data.List.Nodup
import ModulatorInspector.CommandLine.Arguments
import ModulatorInspector.Proofs.Bandwidth
import ModulatorInspector.Proofs.Text.Numerals

namespace ModulatorInspector.CommandLine

def Parameter.Value : Parameter → Type
  | .adapter => UInt32
  | .bandwidth => Bandwidth
  | .device => String
  | .frequency => UInt64
  | .configDirectory => String

-- Any text is a device name. A configuration directory has some name, and zero is no frequency.
inductive Means : (p : Parameter) → List Char → p.Value → Prop where
  | adapter (n : UInt32) (reads : Numeral.Integral text n.toNat) : Means .adapter text n
  | bandwidth (b : Bandwidth) : Means .bandwidth b.label.toList b
  | device : Means .device text (String.ofList text)
  | frequency (hz : UInt64) (positive : hz ≠ 0) (reads : Numeral.Natural text hz.toNat) :
      Means .frequency text hz
  | configDirectory (nonempty : text ≠ []) : Means .configDirectory text (String.ofList text)

theorem adapterOf_eq_ok_iff {text : List Char} {n : UInt32} :
    adapterOf text = .ok n ↔ Means .adapter text n := by
  constructor
  · intro accepted
    unfold adapterOf at accepted
    split at accepted
    · cases accepted
    · rename_i z read
      split at accepted
      · rename_i within
        have whole : (z.toNat : Int) = z := Int.toNat_of_nonneg within.1
        have small : z.toNat < UInt32.size := by
          change z.toNat < 4294967296
          have most : z ≤ 4294967295 := within.2
          omega
        cases accepted
        have same : z.toNat.toUInt32.toNat = z.toNat := UInt32.toNat_ofNat_of_lt' small
        refine .adapter _ ?_
        rw [same, whole]
        exact (Numeral.signed64_eq_ok_iff.mp read).1
      · cases accepted
  · intro means
    cases means with
    | adapter n reads =>
      have small : n.toNat < 4294967296 := n.toNat_lt
      have read : Numeral.signed64 text = .ok (n.toNat : Int) := by
        refine Numeral.signed64_eq_ok_iff.mpr ⟨reads, ?_, ?_⟩
        · change -(9223372036854775807 + 1 : Int) ≤ _
          omega
        · change _ ≤ (9223372036854775807 : Int)
          omega
      have within : 0 ≤ (n.toNat : Int) ∧ (n.toNat : Int) ≤ Numeral.greatest32 := by
        change 0 ≤ (n.toNat : Int) ∧ (n.toNat : Int) ≤ (4294967295 : Int)
        omega
      rw [adapterOf, read]
      dsimp only
      rw [if_pos within, Int.toNat_natCast]
      exact congrArg Except.ok (UInt32.ofNat_toNat)

theorem frequencyOf_eq_ok_iff {text : List Char} {hz : UInt64} :
    frequencyOf text = .ok hz ↔ Means .frequency text hz := by
  constructor
  · intro accepted
    unfold frequencyOf at accepted
    split at accepted
    · cases accepted
    · cases accepted
    · rename_i n positive read
      obtain ⟨reads, within⟩ := Numeral.natural_eq_ok_iff.mp read
      have small : n < UInt64.size := Nat.lt_succ_of_le within
      have same : n.toUInt64.toNat = n := UInt64.toNat_ofNat_of_lt' small
      cases accepted
      refine .frequency _ ?_ (by rwa [same])
      intro zero
      rw [zero] at same
      exact positive same.symm
  · intro means
    cases means with
    | frequency hz positive reads =>
      have within : hz.toNat ≤ Numeral.greatest64 := Nat.le_of_lt_succ hz.toNat_lt
      have read := Numeral.natural_eq_ok_iff.mpr ⟨reads, within⟩
      have nonzero : hz.toNat ≠ 0 := fun zero => positive (UInt64.toNat_inj.mp zero)
      rw [frequencyOf, read]
      split
      · rename_i impossible
        cases impossible
      · rename_i zero
        exact absurd (Except.ok.inj zero) nonzero
      · rename_i n _ same
        cases same
        exact congrArg Except.ok UInt64.ofNat_toNat

theorem bandwidthOf_eq_ok_iff {text : List Char} {b : Bandwidth} :
    bandwidthOf text = .ok b ↔ Means .bandwidth text b := by
  constructor
  · intro accepted
    unfold bandwidthOf at accepted
    split at accepted
    · cases accepted
    · split at accepted
      · rename_i found
        cases accepted
        have named := congrArg String.toList (Bandwidth.ofName?_eq_some_iff.mp found)
        rw [String.toList_ofList] at named
        rw [named]
        exact .bandwidth b
      · cases accepted
  · intro means
    cases means with
    | bandwidth b => cases b <;> rfl

theorem configDirectoryOf_eq_ok_iff {text : List Char} {path : String} :
    configDirectoryOf text = .ok path ↔ Means .configDirectory text path := by
  unfold configDirectoryOf
  constructor
  · intro accepted
    split at accepted
    · cases accepted
    · rename_i nonempty
      cases accepted
      exact .configDirectory nonempty
  · intro means
    cases means with
    | configDirectory nonempty => rw [if_neg nonempty]

theorem Means.unique {p : Parameter} {text : List Char} {v w : p.Value} (means : Means p text v)
    (means' : Means p text w) : v = w := by
  cases p with
  | adapter =>
    have read := adapterOf_eq_ok_iff.mpr means
    rw [adapterOf_eq_ok_iff.mpr means'] at read
    exact (Except.ok.inj read).symm
  | bandwidth =>
    have read := bandwidthOf_eq_ok_iff.mpr means
    rw [bandwidthOf_eq_ok_iff.mpr means'] at read
    exact (Except.ok.inj read).symm
  | device =>
    cases means
    cases means'
    rfl
  | frequency =>
    have read := frequencyOf_eq_ok_iff.mpr means
    rw [frequencyOf_eq_ok_iff.mpr means'] at read
    exact (Except.ok.inj read).symm
  | configDirectory =>
    cases means
    cases means'
    rfl

namespace Arguments

def value? (a : Arguments) : (p : Parameter) → Option p.Value
  | .adapter => a.adapter
  | .bandwidth => a.bandwidth
  | .device => a.device
  | .frequency => a.frequency
  | .configDirectory => a.configDirectory

def assign (a : Arguments) : (p : Parameter) → p.Value → Arguments
  | .adapter, n => { a with adapter := some n }
  | .bandwidth, b => { a with bandwidth := some b }
  | .device, name => { a with device := some name }
  | .frequency, hz => { a with frequency := some hz }
  | .configDirectory, path => { a with configDirectory := some path }

variable {a b : Arguments} {s t : Switch} {p q : Parameter} {text : List Char}

theorem eq_of_parts (switches : ∀ s, a.hasSwitch s = b.hasSwitch s)
    (values : ∀ p, a.value? p = b.value? p) : a = b := by
  cases a
  cases b
  have count := switches .count
  have gainRange := switches .gainRange
  have verbose := switches .verbose
  have debug := switches .debug
  have adapter := values .adapter
  have bandwidth := values .bandwidth
  have device := values .device
  have frequency := values .frequency
  have configDirectory := values .configDirectory
  simp only [hasSwitch, value?] at *
  simp only [*]

theorem hasParameter_eq (a : Arguments) (p : Parameter) :
    a.hasParameter p = (a.value? p).isSome := by
  cases p <;> rfl

theorem hasSwitch_setSwitch (a : Arguments) (s t : Switch) :
    (a.setSwitch s).hasSwitch t = (decide (t = s) || a.hasSwitch t) := by
  cases s <;> cases t <;> rfl

theorem value?_setSwitch (a : Arguments) (s : Switch) (p : Parameter) :
    (a.setSwitch s).value? p = a.value? p := by
  cases s <;> cases p <;> rfl

theorem hasSwitch_assign (a : Arguments) (p : Parameter) (v : p.Value) (s : Switch) :
    (a.assign p v).hasSwitch s = a.hasSwitch s := by
  cases p <;> cases s <;> rfl

theorem value?_assign (a : Arguments) (p : Parameter) (v : p.Value) :
    (a.assign p v).value? p = some v := by
  cases p <;> rfl

theorem value?_assign_of_ne (a : Arguments) (v : p.Value) (other : q ≠ p) :
    (a.assign p v).value? q = a.value? q := by
  cases p <;> cases q <;> first | rfl | exact absurd rfl other

theorem setParameter_eq_ok_iff :
    a.setParameter text p = .ok b ↔ ∃ v, Means p text v ∧ a.assign p v = b := by
  cases p with
  | adapter => simp only [setParameter, map_eq_ok_iff, adapterOf_eq_ok_iff]; rfl
  | bandwidth => simp only [setParameter, map_eq_ok_iff, bandwidthOf_eq_ok_iff]; rfl
  | frequency => simp only [setParameter, map_eq_ok_iff, frequencyOf_eq_ok_iff]; rfl
  | configDirectory => simp only [setParameter, map_eq_ok_iff, configDirectoryOf_eq_ok_iff]; rfl
  | device =>
    constructor
    · intro set
      exact ⟨String.ofList text, .device, Except.ok.inj set⟩
    · rintro ⟨v, means, rfl⟩
      cases means
      rfl

theorem turnOn_eq_ok_iff : a.turnOn s = .ok b ↔ a.hasSwitch s = false ∧ a.setSwitch s = b := by
  unfold turnOn
  cases a.hasSwitch s <;> simp

theorem give_eq_ok_iff : a.give p text = .ok b ↔
    a.value? p = none ∧ ∃ v, Means p text v ∧ a.assign p v = b := by
  rw [give, hasParameter_eq, ← setParameter_eq_ok_iff]
  cases a.value? p <;> simp

end Arguments

inductive Given where
  | switch (s : Switch)
  | value (p : Parameter) (text : List Char)
  deriving DecidableEq

namespace Given

def term : Given → Term
  | .switch s => .switch s
  | .value p _ => .parameter p

variable {given : List Given} {s : Switch} {p : Parameter}

theorem switch_mem_terms : Term.switch s ∈ given.map term ↔ .switch s ∈ given := by
  rw [List.mem_map]
  constructor
  · rintro ⟨g, member, same⟩
    cases g with
    | switch t => cases same; exact member
    | value q text => cases same
  · intro member
    exact ⟨_, member, rfl⟩

theorem parameter_mem_terms :
    Term.parameter p ∈ given.map term ↔ ∃ text, .value p text ∈ given := by
  rw [List.mem_map]
  constructor
  · rintro ⟨g, member, same⟩
    cases g with
    | switch t => cases same
    | value q text => cases same; exact ⟨text, member⟩
  · rintro ⟨text, member⟩
    exact ⟨_, member, rfl⟩

end Given

namespace Arguments

def take (a : Arguments) : Given → Except Stop Arguments
  | .switch s => a.turnOn s
  | .value p text => a.give p text

def takeAll (a : Arguments) (given : List Given) : Except Stop Arguments := given.foldlM take a

structure Holds (a : Arguments) (given : List Given) : Prop where
  switches (s : Switch) : a.hasSwitch s = true ↔ .switch s ∈ given
  values (p : Parameter) (text : List Char) :
    .value p text ∈ given → ∃ v, a.value? p = some v ∧ Means p text v
  unset (p : Parameter) : (∀ text, .value p text ∉ given) → a.value? p = none

variable {a b : Arguments} {g : Given} {given others : List Given} {s : Switch} {p : Parameter}
  {text : List Char}

theorem takeAll_cons (a : Arguments) (g : Given) (given : List Given) :
    a.takeAll (g :: given) = (a.take g).bind fun a => a.takeAll given := List.foldlM_cons ..

theorem takeAll_append (a : Arguments) (given others : List Given) :
    a.takeAll (given ++ others) = (a.takeAll given).bind fun a => a.takeAll others :=
  List.foldlM_append ..

theorem takeAll_one (a : Arguments) (g : Given) : a.takeAll [g] = a.take g := by
  rw [takeAll_cons]
  cases a.take g <;> rfl

theorem holds_nothing : Holds {} [] := by
  refine ⟨fun s => ?_, nofun, fun p _ => ?_⟩
  · cases s <;> exact ⟨nofun, nofun⟩
  · cases p <;> rfl

theorem Holds.hasSwitch_eq_false (holds : a.Holds given) :
    a.hasSwitch s = false ↔ Term.switch s ∉ given.map Given.term := by
  rw [Given.switch_mem_terms, ← holds.switches, Bool.not_eq_true]

theorem Holds.value?_eq_none (holds : a.Holds given) :
    a.value? p = none ↔ Term.parameter p ∉ given.map Given.term := by
  rw [Given.parameter_mem_terms, not_exists]
  constructor
  · intro nothing text member
    obtain ⟨v, held, _⟩ := holds.values p text member
    rw [nothing] at held
    cases held
  · exact holds.unset p

theorem Holds.means (holds : a.Holds given) {v : p.Value} (held : a.value? p = some v) :
    ∃ text, .value p text ∈ given ∧ Means p text v := by
  by_cases present : ∃ text, .value p text ∈ given
  · obtain ⟨text, member⟩ := present
    obtain ⟨w, held', means⟩ := holds.values p text member
    cases Option.some.inj (held.symm.trans held')
    exact ⟨text, member, means⟩
  · rw [holds.unset p fun text member => present ⟨text, member⟩] at held
    cases held

theorem Holds.setSwitch (holds : a.Holds given) (s : Switch) :
    (a.setSwitch s).Holds (given ++ [.switch s]) := by
  refine ⟨fun t => ?_, fun p text member => ?_, fun p absent => ?_⟩
  · rw [hasSwitch_setSwitch, Bool.or_eq_true, decide_eq_true_eq, holds.switches, List.mem_append,
      List.mem_singleton, Given.switch.injEq, or_comm]
  · have earlier : .value p text ∈ given := by simpa using member
    rw [value?_setSwitch]
    exact holds.values p text earlier
  · rw [value?_setSwitch]
    exact holds.unset p fun text member => absent text (List.mem_append_left _ member)

theorem Holds.assign (holds : a.Holds given) (new : a.value? p = none) {v : p.Value}
    (means : Means p text v) : (a.assign p v).Holds (given ++ [.value p text]) := by
  refine ⟨fun s => ?_, fun q other member => ?_, fun q absent => ?_⟩
  · rw [hasSwitch_assign, holds.switches]
    simp
  · rcases List.mem_append.mp member with earlier | last
    · have apart : q ≠ p := by
        rintro rfl
        obtain ⟨_, held, _⟩ := holds.values q other earlier
        rw [new] at held
        cases held
      rw [value?_assign_of_ne a v apart]
      exact holds.values q other earlier
    · cases List.mem_singleton.mp last
      exact ⟨v, value?_assign a p v, means⟩
  · have apart : q ≠ p := by
      rintro rfl
      exact absent text (List.mem_append_right _ (List.mem_singleton_self _))
    rw [value?_assign_of_ne a v apart]
    exact holds.unset q fun text member => absent text (List.mem_append_left _ member)

-- One step: what is taken was not there before, and is there afterwards.
theorem Holds.take (holds : a.Holds given) (taken : a.take g = .ok b) :
    b.Holds (given ++ [g]) ∧ g.term ∉ given.map Given.term := by
  cases g with
  | switch s =>
    obtain ⟨off, rfl⟩ := turnOn_eq_ok_iff.mp taken
    exact ⟨holds.setSwitch s, holds.hasSwitch_eq_false.mp off⟩
  | value p text =>
    obtain ⟨new, v, means, rfl⟩ := give_eq_ok_iff.mp taken
    exact ⟨holds.assign new means, holds.value?_eq_none.mp new⟩

theorem Holds.exists_take (holds : a.Holds given) (new : g.term ∉ given.map Given.term)
    (admitted : ∀ p text, g = .value p text → ∃ v, Means p text v) : ∃ b, a.take g = .ok b := by
  cases g with
  | switch s => exact ⟨_, turnOn_eq_ok_iff.mpr ⟨holds.hasSwitch_eq_false.mpr new, rfl⟩⟩
  | value p text =>
    obtain ⟨v, means⟩ := admitted p text rfl
    exact ⟨_, give_eq_ok_iff.mpr ⟨holds.value?_eq_none.mpr new, v, means, rfl⟩⟩

theorem Holds.unique (holds : a.Holds given) (holds' : b.Holds given) : a = b := by
  refine eq_of_parts (fun s => ?_) (fun p => ?_)
  · rw [Bool.eq_iff_iff, holds.switches, holds'.switches]
  · by_cases present : ∃ text, .value p text ∈ given
    · obtain ⟨text, member⟩ := present
      obtain ⟨v, held, means⟩ := holds.values p text member
      obtain ⟨w, held', means'⟩ := holds'.values p text member
      rw [held, held', means.unique means']
    · have absent : ∀ text, .value p text ∉ given := fun text member => present ⟨text, member⟩
      rw [holds.unset p absent, holds'.unset p absent]

theorem terms_append_one (given : List Given) (g : Given) :
    ((given ++ [g]).map Given.term).Nodup ↔
      g.term ∉ given.map Given.term ∧ (given.map Given.term).Nodup := by
  rw [List.map_append, List.map_singleton, ← List.concat_eq_append, List.nodup_concat]

theorem holds_of_takeAll (taken : takeAll {} given = .ok a) :
    (given.map Given.term).Nodup ∧ a.Holds given := by
  induction given using List.reverseRecOn generalizing a with
  | nil =>
    cases taken
    exact ⟨List.nodup_nil, holds_nothing⟩
  | append_singleton given g ih =>
    rw [takeAll_append] at taken
    obtain ⟨before, taken_before, taken_last⟩ := bind_eq_ok_iff.mp taken
    rw [takeAll_one] at taken_last
    obtain ⟨distinct, holds⟩ := ih taken_before
    obtain ⟨holds', new⟩ := holds.take taken_last
    exact ⟨(terms_append_one given g).mpr ⟨new, distinct⟩, holds'⟩

theorem exists_takeAll (distinct : (given.map Given.term).Nodup)
    (admitted : ∀ p text, .value p text ∈ given → ∃ v, Means p text v) :
    ∃ a, takeAll {} given = .ok a := by
  induction given using List.reverseRecOn with
  | nil => exact ⟨{}, rfl⟩
  | append_singleton given g ih =>
    obtain ⟨new, distinct⟩ := (terms_append_one given g).mp distinct
    obtain ⟨before, taken_before⟩ := ih distinct fun p text member =>
      admitted p text (List.mem_append_left _ member)
    have holds := (holds_of_takeAll taken_before).2
    obtain ⟨a, taken_last⟩ := holds.exists_take new fun p text last =>
      admitted p text (last ▸ List.mem_append_right _ (List.mem_singleton_self _))
    refine ⟨a, ?_⟩
    rw [takeAll_append]
    exact bind_eq_ok_iff.mpr ⟨before, taken_before, (takeAll_one before g).trans taken_last⟩

theorem takeAll_eq_ok_iff :
    takeAll {} given = .ok a ↔ (given.map Given.term).Nodup ∧ a.Holds given := by
  constructor
  · exact holds_of_takeAll
  · rintro ⟨distinct, holds⟩
    obtain ⟨b, taken⟩ := exists_takeAll distinct fun p text member =>
      let ⟨v, _, means⟩ := holds.values p text member
      ⟨v, means⟩
    rw [taken, (holds_of_takeAll taken).2.unique holds]

end Arguments

end ModulatorInspector.CommandLine
