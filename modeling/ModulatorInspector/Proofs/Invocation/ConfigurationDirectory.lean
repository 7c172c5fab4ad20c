import ModulatorInspector.Invocation.Conclusion
import ModulatorInspector.Proofs.CommandLine.Grammar

namespace ModulatorInspector

namespace CommandLine

variable {a : Arguments} {words : List String} {directory : String}

def directoryWord (directory : String) : String := "--config-dir=" ++ directory

theorem directoryWord_gives (directory : String) : Gives (directoryWord directory).toList
    [.value .configDirectory directory.toList] none := by
  have spelled : "--config-dir=".toList
      = '-' :: '-' :: ((Parameter.name .configDirectory).toList ++ ['=']) := by decide
  rw [directoryWord, toList_attached spelled]
  exact .attached .configDirectory _

theorem take_directory (unnamed : a.configDirectory = none) (nonempty : directory ≠ "") :
    a.take (.value .configDirectory directory.toList)
      = .ok { a with configDirectory := some directory } := by
  have means : Means .configDirectory directory.toList directory := by
    have named := Means.configDirectory (mt String.toList_eq_nil_iff.mp nonempty)
    rwa [String.ofList_toList] at named
  exact Arguments.give_eq_ok_iff.mpr ⟨unnamed, directory, means, rfl⟩

theorem read_directoryWord (accepted : read words none = .ok a)
    (unnamed : a.configDirectory = none) (nonempty : directory ≠ "") :
    read (directoryWord directory :: words) none
      = .ok { a with configDirectory := some directory } :=
  read_cons (directoryWord_gives directory) accepted (take_directory unnamed nonempty)

theorem read_directory_around (accepted : read words none = .ok a)
    (unnamed : a.configDirectory = none) (nonempty : directory ≠ "") :
    read words (some directory) = .ok { a with configDirectory := some directory } := by
  rw [read_fallback accepted]
  unfold Arguments.withFallback
  rw [unnamed]
  exact take_directory unnamed nonempty

theorem read_named (accepted : read words none = .ok a) (named : a.configDirectory = some directory)
    (fallback : Option String) : read words fallback = .ok a := by
  rw [read_fallback accepted]
  unfold Arguments.withFallback
  rw [named]

end CommandLine

namespace Invocation

open CommandLine (Arguments directoryWord)
open Files (Disk)

def settingsOf (words : List String) (e : Environment) (disk : Disk) :
    Option (Except Settings.Refusal Settings) :=
  match CommandLine.read words e.configDirectory with
  | .error _ => none
  | .ok a => some (settingsFor e a disk).answer

-- Two command lines in two surroundings that both are accepted and come to the same.
structure SameRun (words words' : List String) (e e' : Environment) (disk : Disk)
    (out : StandardOutput) : Prop where
  settings : ∃ s, settingsOf words e disk = some s ∧ settingsOf words' e' disk = some s
  conclusion : Conclusion.run words e disk out = Conclusion.run words' e' disk out

variable {words words' : List String} {e e' : Environment} {a : Arguments} {directory : String}

theorem settingsFor_named (named : a.configDirectory = some directory) (e e' : Environment) :
    settingsFor e a = settingsFor e' a := by
  funext disk
  rw [settingsFor, settingsFor, named]
  rfl

theorem perform_named {ω : Type} (named : a.configDirectory = some directory) (e e' : Environment)
    (stream : Query.Stream ω) : perform e a stream = perform e' a stream := by
  funext out
  rw [perform, perform, settingsFor_named named e e']

theorem sameRun_of_named (read : CommandLine.read words e.configDirectory = .ok a)
    (read' : CommandLine.read words' e'.configDirectory = .ok a)
    (named : a.configDirectory = some directory) (watched : e.diagnostics = e'.diagnostics)
    (disk : Disk) (out : StandardOutput) : SameRun words words' e e' disk out := by
  constructor
  · refine ⟨(settingsFor e a disk).answer, ?_, ?_⟩
    · rw [settingsOf, read]
    · rw [settingsOf, read', settingsFor_named named e e']
  · rw [Conclusion.run, Conclusion.run, read, read']
    dsimp only
    rw [Conclusion.ofArguments, Conclusion.ofArguments, watched, perform_named named e e']

-- What naming a directory comes to for words that are accepted where the surroundings name none. Home
-- directories and the user's directory for settings may differ in both parts.
structure NamedEitherWay (words : List String) (a : Arguments) (disk : Disk)
    (out : StandardOutput) : Prop where
  around : a.configDirectory = none → ∀ directory, directory ≠ "" → ∀ e e' : Environment,
    e.configDirectory = some directory → e'.configDirectory = none →
      e.diagnostics = e'.diagnostics →
        SameRun words (("--config-dir=" ++ directory) :: words) e e' disk out
  given : a.configDirectory ≠ none → ∀ e e' : Environment, e.diagnostics = e'.diagnostics →
    SameRun words words e e' disk out

theorem directory_named_either_way {words : List String} {a : Arguments}
    (accepted : CommandLine.read words none = .ok a) (disk : Disk) (out : StandardOutput) :
    NamedEitherWay words a disk out := by
  constructor
  · intro unnamed directory nonempty e e' around absent watched
    have read_around : CommandLine.read words e.configDirectory
        = .ok { a with configDirectory := some directory } := by
      rw [around]
      exact CommandLine.read_directory_around accepted unnamed nonempty
    have read_word : CommandLine.read (directoryWord directory :: words) e'.configDirectory
        = .ok { a with configDirectory := some directory } := by
      rw [absent]
      exact CommandLine.read_directoryWord accepted unnamed nonempty
    exact sameRun_of_named read_around read_word rfl watched disk out
  · intro given e e' watched
    obtain ⟨directory, named⟩ := Option.ne_none_iff_exists'.mp given
    have read_given (fallback : Option String) : CommandLine.read words fallback = .ok a :=
      CommandLine.read_named accepted named fallback
    exact sameRun_of_named (read_given _) (read_given _) named watched disk out

theorem counting_with_a_directory :
    CommandLine.read ["-c"] none = .ok { count := true }
      ∧ SameRun ["-c"] ["--config-dir=" ++ "there", "-c"]
        { home := some "/root", configDirectory := some "there" } { settingsHome := some "/etc" }
        ⟨Files.Tree.empty, []⟩ { sink := .accepting }
      ∧ CommandLine.read ["--config-dir", "here", "-c"] none
        = .ok { count := true, configDirectory := some "here" }
      ∧ SameRun ["--config-dir", "here", "-c"] ["--config-dir", "here", "-c"]
        { home := some "/root", configDirectory := some "there" } { settingsHome := some "/etc" }
        ⟨Files.Tree.empty, []⟩ { sink := .accepting } := by
  have unnamed : CommandLine.read ["-c"] none = .ok { count := true } := by decide +kernel
  have named : CommandLine.read ["--config-dir", "here", "-c"] none
      = .ok { count := true, configDirectory := some "here" } := by decide +kernel
  refine ⟨unnamed, ?_, named, ?_⟩
  · exact (directory_named_either_way unnamed _ _).around rfl "there" (by decide) _ _ rfl rfl rfl
  · exact (directory_named_either_way named _ _).given (Option.some_ne_none _) _ _ rfl

end Invocation

end ModulatorInspector
