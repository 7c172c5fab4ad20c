import ModulatorInspector.Invocation.Perform
import ModulatorInspector.Proofs.Query.Separation

namespace ModulatorInspector

namespace Query

open Device (Exchange Outcome)

variable {η : Type}

inductive Acquires : Target → Exchange η → Prop where
  | all (outcome) : Acquires .all (.list outcome)
  | byName (name outcome) : Acquires (.byName name) (.openNamed name outcome)
  | byIndex (index outcome) : Acquires (.byIndex index) (.openAt index outcome)

theorem acquires_of_openingCall {target : Target} {outcome : Outcome η} {call : Exchange η}
    (opening : openingCall? target outcome = some call) : Acquires target call := by
  cases target with
  | all => cases opening
  | byName name =>
    cases opening
    exact .byName name outcome
  | byIndex index =>
    cases opening
    exact .byIndex index outcome

theorem Conversation.acquires_first {c : Configuration} {calls : List (Exchange η)}
    {answer : Outcome String} (conversation : Conversation c calls answer) :
    ∃ first rest, calls = first :: rest ∧ Acquires c.needed first := by
  cases conversation with
  | listed outcome needed =>
    rw [needed]
    exact ⟨_, [], rfl, .all outcome⟩
  | refused failure opening => exact ⟨_, [], rfl, acquires_of_openingCall opening⟩
  | inspected handle outcome opening last => exact ⟨_, _, rfl, acquires_of_openingCall opening⟩
  | gauged handle found outcome opening asked => exact ⟨_, _, rfl, acquires_of_openingCall opening⟩

end Query

namespace Invocation

open CommandLine (Arguments)
open Device (Driver Exchange)
open Query (Acquires Configuration Stream Writing)

variable {σ η ω : Type}

-- Counting wins over everything, a name over an index, and an index over the device that a
-- gain-range query takes when none is selected. An empty name is none.
inductive FirstCall (a : Arguments) : Exchange η → Prop where
  | counting (outcome) (counts : a.count = true) : FirstCall a (.list outcome)
  | named (name outcome) (plain : a.count = false) (given : a.device = some name)
      (nonempty : name ≠ "") : FirstCall a (.openNamed name outcome)
  | indexed (index outcome) (plain : a.count = false)
      (unnamed : a.device = none ∨ a.device = some "") (given : a.adapter = some index) :
      FirstCall a (.openAt index outcome)
  | gauging (outcome) (plain : a.count = false) (unnamed : a.device = none ∨ a.device = some "")
      (unindexed : a.adapter = none) (asked : a.gainRange = true) : FirstCall a (.openAt 0 outcome)
  | listing (outcome) (plain : a.count = false) (unnamed : a.device = none ∨ a.device = some "")
      (unindexed : a.adapter = none) (unasked : a.gainRange = false) : FirstCall a (.list outcome)

-- Of an argument, a setting and a standard value, the first that there is.
inductive Chosen {α : Type} (argument setting : Option α) (standard : α) : α → Prop where
  | argument (given : argument = some value) : Chosen argument setting standard value
  | setting (absent : argument = none) (given : setting = some value) :
      Chosen argument setting standard value
  | standard (absent : argument = none) (unset : setting = none) :
      Chosen argument setting standard standard

structure Resolves (a : Arguments) (s : Settings) (c : Configuration) : Prop where
  one_mode : ¬(c.count = true ∧ c.gainRange = true)
  named : c.deviceName ≠ some ""
  frequency : Chosen a.frequency s.frequency 474000000 c.frequency
  bandwidth : Chosen a.bandwidth s.bandwidth .mhz8 c.bandwidth

theorem chosen_or_getD {α : Type} (argument setting : Option α) (standard : α) :
    Chosen argument setting standard ((argument.or setting).getD standard) := by
  cases argument with
  | some value => exact .argument rfl
  | none =>
    cases setting with
    | some value => exact .setting rfl rfl
    | none => exact .standard rfl rfl

section

variable {a : Arguments} {s : Settings}

theorem resolve_exclusive (both : a.count = true ∧ a.gainRange = true) :
    resolve a s = .error .exclusiveModes := by
  rw [resolve, both.1, both.2]
  rfl

theorem exists_resolve (apart : ¬(a.count = true ∧ a.gainRange = true)) :
    ∃ c, resolve a s = .ok c := by
  rw [resolve, if_neg (by simpa using apart)]
  exact ⟨_, rfl⟩

theorem resolve_one_mode {c : Configuration} (resolved : resolve a s = .ok c) :
    ¬(a.count = true ∧ a.gainRange = true) := by
  intro both
  rw [resolve_exclusive both] at resolved
  cases resolved

-- Apart from the two choices and the empty name, a configuration holds what the arguments say.
theorem resolve_eq {c : Configuration} (resolved : resolve a s = .ok c) :
    c = { count := a.count
          gainRange := a.gainRange
          verbose := a.verbose
          adapter := a.adapter
          deviceName := a.device.filter (· ≠ "")
          frequency := (a.frequency.or s.frequency).getD Frequency.standard
          bandwidth := (a.bandwidth.or s.bandwidth).getD Bandwidth.standard } := by
  rw [resolve, if_neg (by simpa using resolve_one_mode resolved)] at resolved
  exact (Except.ok.inj resolved).symm

theorem resolves_of_resolve {c : Configuration} (resolved : resolve a s = .ok c) :
    Resolves a s c := by
  have one_mode := resolve_one_mode resolved
  rw [resolve_eq resolved]
  refine ⟨one_mode, ?_, chosen_or_getD _ _ _, chosen_or_getD _ _ _⟩
  intro empty
  simpa using Option.filter_eq_some_iff.mp empty

theorem unnamed_of_filter {device : Option String} (unnamed : device.filter (· ≠ "") = none) :
    device = none ∨ device = some "" := by
  cases device with
  | none => exact .inl rfl
  | some name => exact .inr (congrArg some (by simpa using unnamed))

theorem firstCall_of_acquires {c : Configuration} (resolved : resolve a s = .ok c)
    {first : Exchange η} (acquires : Acquires c.needed first) : FirstCall a first := by
  rw [resolve_eq resolved] at acquires
  cases plain : a.count with
  | true =>
    simp only [Configuration.needed, plain, if_true] at acquires
    cases acquires with
    | all outcome => exact .counting outcome plain
  | false =>
    simp only [Configuration.needed, plain, Configuration.selected] at acquires
    cases device : a.device.filter (· ≠ "") with
    | some name =>
      obtain ⟨given, nonempty⟩ := Option.filter_eq_some_iff.mp device
      rw [device] at acquires
      cases acquires with
      | byName _ outcome => exact .named name outcome plain given (by simpa using nonempty)
    | none =>
      have unnamed := unnamed_of_filter device
      rw [device] at acquires
      cases adapter : a.adapter with
      | some index =>
        rw [adapter] at acquires
        cases acquires with
        | byIndex _ outcome => exact .indexed index outcome plain unnamed adapter
      | none =>
        rw [adapter] at acquires
        cases asked : a.gainRange with
        | true =>
          rw [asked] at acquires
          cases acquires with
          | byIndex _ outcome => exact .gauging outcome plain unnamed adapter asked
        | false =>
          rw [asked] at acquires
          cases acquires with
          | all outcome => exact .listing outcome plain unnamed adapter asked

end

theorem performWith_refused {a : Arguments} {s : Settings} {fault : UsageFault}
    (refused : resolve a s = .error fault) (d : Driver σ η) (stream : Stream ω) (out : ω)
    (world : σ) :
    performWith a s d stream out world = ⟨(.error (.usage fault), out), world, []⟩ := by
  rw [performWith, refused]
  rfl

theorem performWith_resolved {a : Arguments} {s : Settings} {c : Configuration}
    (resolved : resolve a s = .ok c) (d : Driver σ η) (stream : Stream ω) (out : ω) (world : σ) :
    performWith a s d stream out world
      = ⟨((Query.publish d stream c out world).answer.1.mapError .query,
            (Query.publish d stream c out world).answer.2),
          (Query.publish d stream c out world).state,
          .optionsResolved c :: (Query.publish d stream c out world).events⟩ := by
  rw [performWith, resolved]
  simp only [Device.Act.bind_apply, Device.Act.pure_apply, Device.Act.note, List.append_nil,
    List.singleton_append]

structure Dispatch (a : Arguments) (answer : Except Fault Unit) (calls : List (Exchange η))
    (writings : List Writing) : Prop where
  refusal : answer = .error (.usage .exclusiveModes) ↔ a.count = true ∧ a.gainRange = true
  unheard : a.count = true ∧ a.gainRange = true → calls = [] ∧ writings = []
  first : ¬(a.count = true ∧ a.gainRange = true) →
    ∃ first rest, calls = first :: rest ∧ FirstCall a first

theorem mapError_query_ne_usage {answer : Except Query.Fault Unit} {fault : UsageFault} :
    answer.mapError Fault.query ≠ .error (.usage fault) := by
  cases answer <;> exact nofun

theorem performWith_dispatch (a : Arguments) (s : Settings) (d : Driver σ η) (stream : Stream ω)
    (world : σ) (out : ω) (past : List (Exchange η)) (written : List Writing) :
    (∃ calls writings,
      performWith a s (d.recorded id) (stream.recorded id) (out, written) (world, past)
          = ⟨((performWith a s d stream out world).answer.1,
                ((performWith a s d stream out world).answer.2, written ++ writings)),
              ((performWith a s d stream out world).state, past ++ calls),
              (performWith a s d stream out world).events⟩
        ∧ Dispatch a (performWith a s d stream out world).answer.1 calls writings)
      ∧ ∀ c, resolve a s = .ok c → Resolves a s c := by
  refine ⟨?_, fun c => resolves_of_resolve⟩
  by_cases both : a.count = true ∧ a.gainRange = true
  · have refused := resolve_exclusive (s := s) both
    rw [performWith_refused refused, performWith_refused refused]
    exact ⟨[], [], by simp only [List.append_nil], ⟨fun _ => both, fun _ => rfl⟩,
      fun _ => ⟨rfl, rfl⟩, fun apart => absurd both apart⟩
  · obtain ⟨c, resolved⟩ := exists_resolve (s := s) both
    obtain ⟨calls, writings, published, conversation⟩ :=
      Query.publish_recorded d stream c world out past written
    obtain ⟨first, rest, rfl, acquires⟩ := conversation.acquires_first
    rw [performWith_resolved resolved, performWith_resolved resolved, published]
    refine ⟨first :: rest, writings, rfl, ⟨fun failed => ?_, fun exclusive => ?_⟩,
      fun exclusive => absurd exclusive both, fun _ => ?_⟩
    · exact absurd failed mapError_query_ne_usage
    · exact absurd exclusive both
    · exact ⟨first, rest, rfl, firstCall_of_acquires resolved acquires⟩

end Invocation

end ModulatorInspector
