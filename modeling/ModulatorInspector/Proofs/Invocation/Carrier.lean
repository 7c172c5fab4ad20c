import ModulatorInspector.Device.Scripted
import ModulatorInspector.Proofs.CommandLine.Grammar
import ModulatorInspector.Proofs.Invocation.Dispatch
import ModulatorInspector.Proofs.Settings.Fields

namespace ModulatorInspector

namespace CommandLine

variable {words : List String} {fallback : Option String} {a : Arguments}

theorem frequency_ne_zero (accepted : read words fallback = .ok a) : a.frequency ≠ some 0 := by
  intro zero
  obtain ⟨_, read_words, _⟩ := bind_eq_ok_iff.mp accepted
  obtain ⟨given, line⟩ := Progress.line_of_readWords read_words
  rw [read_of_line line] at accepted
  have holds := (Arguments.holds_of_takeAll accepted).2
  obtain ⟨text, _, means⟩ := holds.means (p := .frequency) zero
  cases means with
  | frequency hz positive reads => exact positive rfl

end CommandLine

namespace Device

@[simp] def Exchange.frequency? {η : Type} : Exchange η → Option UInt64
  | .gainRange _ frequency _ _ => some frequency
  | _ => none

end Device

namespace Query

open Device (Exchange Outcome)

theorem Conversation.frequency {η : Type} {c : Configuration} {calls : List (Exchange η)}
    {answer : Outcome String} (conversation : Conversation c calls answer) :
    ∀ call ∈ calls, ∀ hz, call.frequency? = some hz → hz = c.frequency := by
  cases conversation with
  | listed outcome needed => simp
  | refused failure opening =>
    rcases openingCall_cases opening with ⟨name, rfl⟩ | ⟨index, rfl⟩
    all_goals simp
  | inspected handle outcome opening last =>
    rcases openingCall_cases opening with ⟨name, rfl⟩ | ⟨index, rfl⟩
    all_goals simp
  | gauged handle found outcome opening asked =>
    rcases openingCall_cases opening with ⟨name, rfl⟩ | ⟨index, rfl⟩
    all_goals simp [eq_comm]

end Query

namespace Invocation

open CommandLine (Arguments)
open Device (Driver Exchange)
open Files (Disk)
open Query (Configuration)
open Settings (Says)

-- The settings file is asked where the command line gives no frequency. It may say zero.
inductive Carrier (a : Arguments) (disk : Disk) (directory : String) : UInt64 → Prop where
  | argument (hz) (given : a.frequency = some hz) (positive : hz ≠ 0) : Carrier a disk directory hz
  | setting (hz : UInt64) (ungiven : a.frequency = none)
      (said : Says disk directory .frequency (.integer hz.toNat)) : Carrier a disk directory hz
  | standard (ungiven : a.frequency = none)
      (unsaid : ∀ item, ¬Says disk directory .frequency item) : Carrier a disk directory 474000000

variable {words : List String} {fallback : Option String} {disk : Disk} {directory : String}
  {a : Arguments} {s : Settings} {loaded : Settings.Loaded} {c : Configuration} {hz : UInt64}

theorem frequency_of_said (follows : s.Follows disk directory)
    (said : Says disk directory .frequency (.integer hz.toNat)) : s.frequency = some hz := by
  obtain ⟨other, same, held⟩ := follows.said .frequency _ said
  have equal : hz = other := UInt64.toNat_inj.mp (Int.ofNat_inj.mp (Toml.Item.integer.inj same))
  rw [equal]
  exact held.symm

theorem said_of_frequency (follows : s.Follows disk directory) (held : s.frequency = some hz) :
    Says disk directory .frequency (.integer hz.toNat) := by
  by_contra unsaid
  have nowhere : ∀ item, ¬Says disk directory .frequency item := by
    intro item said
    obtain ⟨other, rfl, same⟩ := follows.said .frequency item said
    cases same.trans held
    exact unsaid said
  have unset : s.frequency = none := follows.unsaid .frequency nowhere
  rw [unset] at held
  cases held

theorem unsaid_of_frequency (follows : s.Follows disk directory) (unset : s.frequency = none)
    (item : Toml.Item) : ¬Says disk directory .frequency item := by
  intro said
  obtain ⟨hz, _, held⟩ := follows.said .frequency item said
  cases held.trans unset

theorem carrier_of_chosen (nonzero : a.frequency ≠ some 0) (follows : s.Follows disk directory)
    (chosen : Chosen a.frequency s.frequency 474000000 hz) : Carrier a disk directory hz := by
  cases chosen with
  | argument given =>
    refine .argument hz given ?_
    rintro rfl
    exact nonzero given
  | setting ungiven held => exact .setting hz ungiven (said_of_frequency follows held)
  | standard ungiven unset => exact .standard ungiven (unsaid_of_frequency follows unset)

theorem Carrier.eq_zero_iff (carrier : Carrier a disk directory hz)
    (follows : s.Follows disk directory) :
    hz = 0 ↔ a.frequency = none ∧ Says disk directory .frequency (.integer 0) := by
  constructor
  · rintro rfl
    cases carrier with
    | argument _ given positive => exact absurd rfl positive
    | setting _ ungiven said => exact ⟨ungiven, said⟩
  · rintro ⟨ungiven, zero⟩
    cases carrier with
    | argument _ given positive =>
      rw [given] at ungiven
      cases ungiven
    | setting hz _ said =>
      have held : s.frequency = some hz := frequency_of_said follows said
      have held_zero : s.frequency = some 0 := frequency_of_said follows zero
      exact Option.some.inj (held.symm.trans held_zero)
    | standard _ unsaid => exact absurd zero (unsaid _)

-- A frequency of zero has one source, and a driver is asked for the frequency as it is.
structure Tuned (a : Arguments) (disk : Disk) (directory : String) (c : Configuration) : Prop where
  carrier : Carrier a disk directory c.frequency
  zero : c.frequency = 0 ↔ a.frequency = none ∧ Says disk directory .frequency (.integer 0)
  asked : ∀ {σ η : Type} (d : Driver σ η) (world : σ) (past : List (Exchange η)), ∃ calls,
    (Query.answer (d.recorded id) c (world, past)).state.2 = past ++ calls
      ∧ ∀ call ∈ calls, ∀ hz, call.frequency? = some hz → hz = c.frequency

theorem resolved_tuned (accepted : CommandLine.read words fallback = .ok a)
    (loading : Settings.load disk directory = .ok loaded)
    (resolved : resolve a loaded.settings = .ok c) : Tuned a disk directory c := by
  have follows := Settings.follows_of_load loading
  have carrier := carrier_of_chosen (CommandLine.frequency_ne_zero accepted) follows
    (resolves_of_resolve resolved).frequency
  refine ⟨carrier, carrier.eq_zero_iff follows, ?_⟩
  intro σ η d world past
  obtain ⟨_, run, calls, rfl, conversation⟩ := Query.answer_records d id c world past
  rw [List.map_id] at run
  exact ⟨calls, by rw [run], conversation.frequency⟩

def zeroedDisk : Disk where
  tree :=
    { nodes := [([Utf8.bytes "conf"], .directory),
        ([Utf8.bytes "conf", Utf8.bytes "config.toml"], .file (Utf8.bytes "frequency = 0\n"))]
      distinct := by decide }
  workingDirectory := []

def zeroed : Settings.Loaded := ⟨{ frequency := some 0 }, "/conf/config.toml", true⟩

theorem zeroed_loaded : Settings.load zeroedDisk "/conf" = .ok zeroed := by
  have parts : (Settings.load zeroedDisk "/conf").toOption.map
      (fun loaded => (loaded.settings, loaded.path, loaded.fromFile))
      = some (zeroed.settings, zeroed.path, zeroed.fromFile) := by decide +kernel
  cases loading : Settings.load zeroedDisk "/conf" with
  | error refusal =>
    rw [loading] at parts
    cases parts
  | ok loaded =>
    obtain ⟨s, path, fromFile⟩ := loaded
    rw [loading] at parts
    cases parts
    rfl

theorem zeroed_overruled :
    CommandLine.read ["-g", "-f", "650000000"] none
        = .ok { gainRange := true, frequency := some 650000000 }
      ∧ Settings.load zeroedDisk "/conf" = .ok zeroed
      ∧ resolve { gainRange := true, frequency := some 650000000 } zeroed.settings
        = .ok { gainRange := true, frequency := 650000000 }
      ∧ Tuned { gainRange := true, frequency := some 650000000 } zeroedDisk "/conf"
        { gainRange := true, frequency := 650000000 } := by
  have accepted : CommandLine.read ["-g", "-f", "650000000"] none
      = .ok { gainRange := true, frequency := some 650000000 } := by decide +kernel
  exact ⟨accepted, zeroed_loaded, rfl, resolved_tuned accepted zeroed_loaded rfl⟩

theorem zeroed_asks_for_zero :
    CommandLine.read ["-g"] none = .ok { gainRange := true }
      ∧ Settings.load zeroedDisk "/conf" = .ok zeroed
      ∧ resolve { gainRange := true } zeroed.settings = .ok { gainRange := true, frequency := 0 }
      ∧ (Query.answer (Device.Script.driver fun _ => "failing")
          { gainRange := true, frequency := 0 } (Device.Script.ofCount 1)).state.calls
        = [.openAt 0, .describe 0, .gainRange 0 0 .mhz8, .close 0] := by
  refine ⟨?_, zeroed_loaded, rfl, ?_⟩
  · decide +kernel
  · decide +kernel

end Invocation

end ModulatorInspector
