import ModulatorInspector.Proofs.CommandLine.Grammar
import ModulatorInspector.Proofs.Invocation.Outcome

namespace ModulatorInspector

namespace CommandLine

theorem read_debug {words : List String} {fallback : Option String} {a : Arguments}
    (accepted : read words fallback = .ok a) (plain : a.debug = false) :
    read ("--debug" :: words) fallback = .ok { a with debug := true } :=
  read_cons (.switch .debug) accepted (Arguments.turnOn_eq_ok_iff.mpr ⟨plain, rfl⟩)

end CommandLine

namespace Invocation

open CommandLine (Arguments)
open Device (Nodes)
open Diagnostics (Filter)
open Files (Disk)

-- The log apart, two runs come to the same, with the same events on the way.
structure SameButLog (c c' : Conclusion) : Prop where
  ending : c.ending = c'.ending
  output : c.output = c'.output
  events : c.events = c'.events

theorem perform_watched {ω : Type} (e : Environment) (a : Arguments) (setting : Option String)
    (debug : Bool) (stream : Query.Stream ω) :
    perform { e with diagnostics := setting } { a with debug } stream = perform e a stream := rfl

theorem ofArguments_sameButLog (e : Environment) (a : Arguments) (disk : Disk)
    (out : StandardOutput) {setting setting' : Option String} {debug debug' : Bool}
    (chosen : Filter.choose? debug setting ≠ none)
    (chosen' : Filter.choose? debug' setting' ≠ none) :
    SameButLog (Conclusion.ofArguments { e with diagnostics := setting } disk { a with debug } out)
      (Conclusion.ofArguments { e with diagnostics := setting' } disk { a with debug := debug' }
        out) := by
  obtain ⟨filter, chosen⟩ := Option.ne_none_iff_exists'.mp chosen
  obtain ⟨filter', chosen'⟩ := Option.ne_none_iff_exists'.mp chosen'
  rw [Conclusion.ofArguments, Conclusion.ofArguments, perform_watched, perform_watched, chosen,
    chosen']
  exact ⟨rfl, rfl, rfl⟩

theorem choose?_debugging (setting : Option String) : Filter.choose? true setting ≠ none := nofun

theorem choose?_untorn {setting : Option String} (untorn : ¬Filter.Torn false setting) :
    Filter.choose? false setting ≠ none :=
  mt Filter.choose?_eq_none_iff.mp untorn

-- What a setting and the switch come to for words that do not ask for debugging. Only a setting that
-- is cut inside a character changes more than the log.
structure DiagnosticsApart (words : List String) (e : Environment) (a : Arguments) (disk : Disk)
    (out : StandardOutput) : Prop where
  read : CommandLine.read ("--debug" :: words) e.configDirectory = .ok { a with debug := true }
  debugging (setting setting' : Option String) :
    SameButLog (Conclusion.run ("--debug" :: words) { e with diagnostics := setting } disk out)
      (Conclusion.run ("--debug" :: words) { e with diagnostics := setting' } disk out)
  filtering (setting setting' : Option String) : ¬Filter.Torn false setting →
    SameButLog (Conclusion.run words { e with diagnostics := setting } disk out)
      (Conclusion.run ("--debug" :: words) { e with diagnostics := setting' } disk out)
  tearing (setting : Option String) : Filter.Torn false setting →
    Conclusion.run words { e with diagnostics := setting } disk out = ⟨.brokenOff, out, [], []⟩

theorem diagnostics_apart {words : List String} {e : Environment} {a : Arguments}
    (accepted : CommandLine.read words e.configDirectory = .ok a) (plain : a.debug = false)
    (disk : Disk) (out : StandardOutput) : DiagnosticsApart words e a disk out := by
  have read_debug := CommandLine.read_debug accepted plain
  have undebugged : { a with debug := false } = a := by rw [← plain]
  have quiet (setting : Option String) :
      Conclusion.run words { e with diagnostics := setting } disk out
        = Conclusion.ofArguments { e with diagnostics := setting } disk
          { a with debug := false } out := by
    rw [Conclusion.run, accepted, undebugged]
  have debugged (setting : Option String) :
      Conclusion.run ("--debug" :: words) { e with diagnostics := setting } disk out
        = Conclusion.ofArguments { e with diagnostics := setting } disk
          { a with debug := true } out := by
    rw [Conclusion.run, read_debug]
  constructor
  · exact read_debug
  · intro setting setting'
    rw [debugged, debugged]
    apply ofArguments_sameButLog
    · exact choose?_debugging setting
    · exact choose?_debugging setting'
  · intro setting setting' untorn
    rw [quiet, debugged]
    apply ofArguments_sameButLog
    · exact choose?_untorn untorn
    · exact choose?_debugging setting'
  · intro setting torn
    rw [quiet, Conclusion.ofArguments, Filter.choose?_eq_none_iff.mpr torn]
    rfl

def deviceless : Disk where
  tree := { nodes := [([Utf8.bytes "dev"], .directory)], distinct := by decide }
  workingDirectory := []

theorem deviceless_listed : (Nodes.ofSettings .standard).devices deviceless = .ok [] := by
  have entries : deviceless.list (Nodes.ofSettings .standard).directory = .ok [] := rfl
  rw [Nodes.devices_of_list entries, Nodes.ordered, Nodes.numbered, List.filterMap_nil,
    List.mergeSort_nil]
  rfl

theorem outcome_deviceless {words : List String} {e : Environment} {debug : Bool}
    (accepted : Accepted words e { count := true, debug })
    (set : (settingsFor e { count := true, debug } deviceless).answer = .ok .standard) :
    Outcome words e deviceless .done 0 "0\n" :=
  .done _ .standard _ "0\n" ⟨accepted, set, rfl⟩ (Query.printed_count deviceless_listed rfl)

-- There is nothing to count, which the run says with debugging and with a filter that only is
-- malformed, but not with one that is torn.
theorem torn_filter_changes_result :
    CommandLine.read ["-c"] tornEnvironment.configDirectory = .ok { count := true }
      ∧ (Conclusion.run ["-c"] tornEnvironment deviceless
          { sink := .accepting }).ending.exitCode = 101
      ∧ (Conclusion.run ["-c"] { tornEnvironment with diagnostics := some "é=loud" } deviceless
          { sink := .accepting }).ending.exitCode = 0
      ∧ (Conclusion.run ["--debug", "-c"] tornEnvironment deviceless
          { sink := .accepting }).ending.exitCode = 0 := by
  have read : CommandLine.read ["-c"] none = .ok { count := true } := by decide +kernel
  have malformed : Accepted ["-c"] { tornEnvironment with diagnostics := some "é=loud" }
      { count := true } := ⟨read, mt Filter.choose?_eq_none_iff.mpr (by decide +kernel)⟩
  have debugging : Accepted ["--debug", "-c"] tornEnvironment { count := true, debug := true } :=
    ⟨CommandLine.read_debug read rfl, nofun⟩
  refine ⟨read, by decide +kernel, ?_, ?_⟩
  · obtain ⟨ending, -, code⟩ := (outcome_deviceless malformed rfl).concludes
    rw [ending, code]
  · obtain ⟨ending, -, code⟩ := (outcome_deviceless debugging rfl).concludes
    rw [ending, code]

theorem counting_apart :
    CommandLine.read ["-c"] tornEnvironment.configDirectory = .ok { count := true }
      ∧ ¬Filter.Torn false (some "é=loud") ∧ Filter.Torn false tornEnvironment.diagnostics
      ∧ DiagnosticsApart ["-c"] tornEnvironment { count := true } deviceless
        { sink := .accepting } := by
  have read : CommandLine.read ["-c"] none = .ok { count := true } := by decide +kernel
  refine ⟨read, mt Filter.choose?_eq_none_iff.mpr ?_, Filter.choose?_eq_none_iff.mp ?_,
    diagnostics_apart read rfl deviceless { sink := .accepting }⟩
  · decide +kernel
  · decide +kernel

end Invocation

end ModulatorInspector
