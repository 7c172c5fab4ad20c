import ModulatorInspector.CommandLine.Help
import ModulatorInspector.Invocation.Conclusion
import ModulatorInspector.Proofs.Files.Reading
import ModulatorInspector.Proofs.Invocation.Dispatch
import ModulatorInspector.Proofs.Query.Agreement
import ModulatorInspector.Proofs.Query.Conversation
import ModulatorInspector.Proofs.Query.Delivery

namespace ModulatorInspector

namespace Plain

theorem visible_ne_empty (use : Use) {text : String} {first : Char} {rest : List Char}
    (starts : text.toList = first :: rest) (plain : isControl first = false) :
    visible use text ≠ "" := by
  have outside : shows .outside first = true := by rw [shows, plain]; rfl
  have unescaped : first ≠ escapeCharacter := by rintro rfl; cases plain
  have uncancelled : ¬(first = '\x18' ∨ first = '\x1a') := by
    rintro (rfl | rfl) <;> cases plain
  intro empty
  have nothing := congrArg String.toList empty
  rw [visible, starts, visibleFrom, if_neg unescaped, if_neg uncancelled, Bool.false_and,
    if_neg Bool.false_ne_true, if_pos outside] at nothing
  simp at nothing

end Plain

namespace CommandLine.Help

theorem runs_head (gap before : String) (entries : List Entry) :
    ∃ behind rest, runs gap before entries = (before ++ behind) :: rest := by
  match entries with
  | [] => exact ⟨"", [], by rw [String.append_empty]; rfl⟩
  | [last] => exact ⟨_, _, rfl⟩
  | entry :: next :: rest => exact ⟨_, _, rfl⟩

theorem usage_runs_ne_empty (use : Plain.Use) (gap : String) (entries : List Entry) :
    Plain.visibleRuns use (runs gap usage entries) ≠ "" := by
  obtain ⟨behind, rest, starts⟩ := runs_head gap usage entries
  have head : (usage ++ behind).toList = 'C' :: (usage.toList.tail ++ behind.toList) := by
    rw [String.toList_append]
    rfl
  rw [Plain.visibleRuns, starts, List.map_cons, String.join_cons]
  intro empty
  exact Plain.visible_ne_empty use head rfl (String.append_eq_empty_iff.mp empty).1

theorem answer_ne_empty (use : Plain.Use) (directory : Option String) (i : Inquiry) (form : Form) :
    answer use directory i form ≠ "" := by
  cases i with
  | version => exact (by decide : version ≠ "")
  | help =>
    cases form with
    | summary => exact usage_runs_ne_empty use "" _
    | full => exact usage_runs_ne_empty use "\n" _

end CommandLine.Help

namespace Invocation.StandardOutput

theorem lines_append_tail (bytes : List UInt8) : lines bytes ++ tail bytes = bytes := by
  rw [lines, tail, ← List.reverse_append, List.takeWhile_append_dropWhile, List.reverse_reverse]

theorem divide_append (bytes : List UInt8) : (divide bytes).1 ++ (divide bytes).2 = bytes := by
  rw [divide]
  split
  · exact lines_append_tail bytes
  · exact List.append_nil bytes

def written (s : StandardOutput) : List UInt8 := s.delivered ++ s.held

theorem offer_accepting {s : StandardOutput} (accepting : s.sink = .accepting)
    (bytes : List UInt8) :
    ∃ next, offer bytes s = (.took bytes.length, next) ∧ next.sink = .accepting
      ∧ next.written = s.written ++ bytes := by
  have whole := divide_append (s.held ++ bytes)
  rw [offer]
  dsimp only
  split
  · rename_i kept
    refine ⟨_, rfl, accepting, ?_⟩
    rw [kept, List.nil_append] at whole
    rw [written, written, whole, List.append_assoc]
  · rw [accepting]
    refine ⟨_, rfl, rfl, ?_⟩
    rw [written, written, List.append_assoc, whole, List.append_assoc]

theorem flush_accepting {s : StandardOutput} (accepting : s.sink = .accepting) :
    flush s = (.ok (), ⟨.accepting, s.written, []⟩) := by
  obtain ⟨sink, delivered, held⟩ := s
  cases accepting
  rw [flush, written]
  split
  · rename_i empty
    cases empty
    rw [List.append_nil]
  · rfl

theorem deliver_accepting {s : StandardOutput} (accepting : s.sink = .accepting) (text : String) :
    stream.deliver text s = (.ok (), ⟨.accepting, s.written ++ Utf8.bytes text, []⟩) := by
  change stream.handOver (Utf8.bytes text) s = _
  cases Utf8.bytes text with
  | nil =>
    rw [Query.handOver_nil, List.append_nil]
    exact flush_accepting accepting
  | cons first rest =>
    obtain ⟨next, answered, accepts, whole⟩ := offer_accepting accepting (first :: rest)
    have taken : stream.offer (first :: rest) s = (.took (rest.length + 1), next) := answered
    rw [Query.handOver_took (List.cons_ne_nil first rest) taken, ← List.length_cons,
      List.drop_length, Query.handOver_nil, ← whole]
    exact flush_accepting accepts

end Invocation.StandardOutput

namespace Query

open Device (Nodes Outcome)
open Files (Disk)

theorem Configuration.needed_ne_all {c : Configuration} (asked : c.gainRange = true)
    (plain : c.count = false) : c.needed ≠ .all := by
  intro all
  rw [Configuration.needed, plain, if_neg Bool.false_ne_true, Configuration.selected] at all
  cases device : c.deviceName with
  | some name =>
    rw [device] at all
    cases all
  | none =>
    cases adapter : c.adapter with
    | some index =>
      rw [device, adapter] at all
      cases all
    | none =>
      rw [device, adapter, asked] at all
      cases all

theorem gainRange_unanswered (n : Nodes) (disk : Disk) {c : Configuration}
    (asked : c.gainRange = true) (plain : c.count = false) (text : String) :
    (answer n.driver c disk).answer ≠ .ok text := by
  have session (opening : Device.Act Disk (Outcome Nodes.Handle)) :
      (Device.whileOpen n.driver opening (inspect n.driver c) disk).answer ≠ .ok text := by
    rw [Device.whileOpen_answer]
    cases (opening disk).answer with
    | error failure => exact nofun
    | ok handle =>
      dsimp only
      rw [inspect_handle, if_pos asked]
      exact nofun
  rw [answer]
  cases needed : c.needed with
  | all => exact absurd needed (Configuration.needed_ne_all asked plain)
  | byName name => exact session (n.openNamed name)
  | byIndex index => exact session (n.openAt index)

end Query

namespace Diagnostics.Filter

-- There is no filter for a setting that is cut inside a character, unless debugging is asked for.
def Torn (debug : Bool) (setting : Option String) : Prop :=
  debug = false ∧ ∃ text, setting = some text ∧ ofText text = .error .torn

theorem choose?_eq_none_iff {debug : Bool} {setting : Option String} :
    choose? debug setting = none ↔ Torn debug setting := by
  cases debug with
  | true => exact ⟨nofun, fun torn => nomatch torn.1⟩
  | false =>
    cases setting with
    | none => exact ⟨nofun, fun ⟨_, _, given, _⟩ => nomatch given⟩
    | some text =>
      have decided : Torn false (some text) ↔ ofText text = .error .torn :=
        ⟨fun ⟨_, _, given, torn⟩ => Option.some.inj given ▸ torn, fun torn => ⟨rfl, text, rfl, torn⟩⟩
      rw [decided, choose?, if_neg Bool.false_ne_true, Option.map_some]
      cases read : ofText text with
      | ok filter => exact ⟨nofun, nofun⟩
      | error fault =>
        cases fault with
        | malformed => exact ⟨nofun, nofun⟩
        | torn => exact ⟨fun _ => rfl, fun _ => rfl⟩

end Diagnostics.Filter

namespace Invocation

open CommandLine (Arguments Inquiry Form Stop)
open Device (Act Nodes)
open Diagnostics (Filter)
open Files (Disk)
open Query (Configuration Ended Stream)

section Carrying

variable {ω : Type} {e : Environment} {a : Arguments} {disk : Disk}

theorem settingsFor_state (e : Environment) (a : Arguments) (disk : Disk) :
    (settingsFor e a disk).state = disk := by
  rw [settingsFor]
  split
  · rfl
  · split <;> rfl

theorem perform_unset {refusal : Settings.Refusal}
    (unset : (settingsFor e a disk).answer = .error refusal) (stream : Stream ω) (out : ω) :
    (perform e a stream out disk).answer = (.error (.settings refusal), out) := by
  rw [perform, Act.bind_apply, unset]
  rfl

theorem perform_set {s : Settings} (set : (settingsFor e a disk).answer = .ok s)
    (stream : Stream ω) (out : ω) :
    (perform e a stream out disk).answer
      = (performWith a s (Nodes.ofSettings s).driver stream out disk).answer := by
  rw [perform, Act.bind_apply, set, settingsFor_state]

end Carrying

structure Accepted (words : List String) (e : Environment) (a : Arguments) : Prop where
  read : CommandLine.read words e.configDirectory = .ok a
  untorn : ¬Filter.Torn a.debug e.diagnostics

structure Resolved (words : List String) (e : Environment) (disk : Disk) (s : Settings)
    (c : Configuration) (a : Arguments) : Prop extends Accepted words e a where
  set : (settingsFor e a disk).answer = .ok s
  resolved : resolve a s = .ok c

-- How a run ends, with which exit code, and what it prints.
inductive Outcome (words : List String) (e : Environment) (disk : Disk) :
    Ending → Nat → String → Prop where
  | refused (stop) (read : CommandLine.read words e.configDirectory = .error stop)
      (refusal : ∀ i form, stop ≠ .inquiry i form) : Outcome words e disk (.stopped stop) 2 ""
  | answered (i form) (read : CommandLine.read words e.configDirectory = .error (.inquiry i form)) :
      Outcome words e disk (.stopped (.inquiry i form)) 0
        (CommandLine.Help.answer .written e.configDirectory i form)
  | brokenOff (a) (read : CommandLine.read words e.configDirectory = .ok a)
      (torn : Filter.Torn a.debug e.diagnostics) : Outcome words e disk .brokenOff 101 ""
  | unset (a refusal) (accepted : Accepted words e a)
      (unset : (settingsFor e a disk).answer = .error refusal) :
      Outcome words e disk (.failed (.settings refusal)) 1 ""
  | misused (a s fault) (accepted : Accepted words e a)
      (set : (settingsFor e a disk).answer = .ok s) (misused : resolve a s = .error fault) :
      Outcome words e disk (.failed (.usage fault)) 1 ""
  | failed (a s c failure) (resolved : Resolved words e disk s c a)
      (failed : (Query.answer (Nodes.ofSettings s).driver c disk).answer = .error failure) :
      Outcome words e disk (.failed (.query (.device failure))) 1 ""
  | done (a s c text) (resolved : Resolved words e disk s c a)
      (answered : (Query.answer (Nodes.ofSettings s).driver c disk).answer = .ok text) :
      Outcome words e disk .done 0 text

theorem exists_outcome (words : List String) (e : Environment) (disk : Disk) :
    ∃ ending code text, Outcome words e disk ending code text := by
  cases read : CommandLine.read words e.configDirectory with
  | error stop =>
    by_cases inquiry : ∃ i form, stop = .inquiry i form
    · obtain ⟨i, form, rfl⟩ := inquiry
      exact ⟨_, _, _, .answered i form read⟩
    · exact ⟨_, _, _, .refused stop read fun i form same => inquiry ⟨i, form, same⟩⟩
  | ok a =>
    by_cases torn : Filter.Torn a.debug e.diagnostics
    · exact ⟨_, _, _, .brokenOff a read torn⟩
    · have accepted : Accepted words e a := ⟨read, torn⟩
      cases set : (settingsFor e a disk).answer with
      | error refusal => exact ⟨_, _, _, .unset a refusal accepted set⟩
      | ok s =>
        cases resolved : resolve a s with
        | error fault => exact ⟨_, _, _, .misused a s fault accepted set resolved⟩
        | ok c =>
          have reached : Resolved words e disk s c a := ⟨accepted, set, resolved⟩
          cases asked : (Query.answer (Nodes.ofSettings s).driver c disk).answer with
          | error failure => exact ⟨_, _, _, .failed a s c failure reached asked⟩
          | ok text => exact ⟨_, _, _, .done a s c text reached asked⟩

section Running

variable {words : List String} {e : Environment} {disk : Disk}

def Ending.ofResult : Except Fault Unit → Ending
  | .error fault => .failed fault
  | .ok () => .done

-- A run that leaves nothing held comes to what was performed: the last flush has nothing to do.
theorem run_performed {a : Arguments} (accepted : Accepted words e a) {result : Except Fault Unit}
    {out next : StandardOutput}
    (performed : (perform e a StandardOutput.stream out disk).answer = (result, next))
    (flushed : next.held = []) :
    (Conclusion.run words e disk out).ending = Ending.ofResult result
      ∧ (Conclusion.run words e disk out).output = next := by
  have shut : (Conclusion.shutDown next).2 = next := by
    rw [Conclusion.shutDown, StandardOutput.flush, if_pos flushed]
  rw [Conclusion.run, accepted.read]
  dsimp only
  rw [Conclusion.ofArguments]
  cases watched : Filter.choose? a.debug e.diagnostics with
  | none => exact absurd (Filter.choose?_eq_none_iff.mp watched) accepted.untorn
  | some filter =>
    rw [Conclusion.around]
    dsimp only
    rw [performed]
    cases result with
    | error fault => exact ⟨rfl, shut⟩
    | ok done => exact ⟨rfl, shut⟩

theorem Outcome.concludes {ending : Ending} {code : Nat} {text : String}
    (outcome : Outcome words e disk ending code text) :
    (Conclusion.run words e disk { sink := .accepting }).ending = ending
      ∧ (Conclusion.run words e disk { sink := .accepting }).output
        = { sink := .accepting, delivered := Utf8.bytes text }
      ∧ ending.exitCode = code := by
  cases outcome with
  | refused stop read refusal =>
    rw [Conclusion.run, read]
    cases stop with
    | inquiry i form => exact absurd rfl (refusal i form)
    | _ => exact ⟨rfl, rfl, rfl⟩
  | answered i form read =>
    rw [Conclusion.run, read]
    dsimp only [Conclusion.ofStop]
    rw [StandardOutput.deliver_accepting rfl]
    exact ⟨rfl, rfl, rfl⟩
  | brokenOff a read torn =>
    rw [Conclusion.run, read]
    dsimp only
    rw [Conclusion.ofArguments, Filter.choose?_eq_none_iff.mpr torn]
    exact ⟨rfl, rfl, rfl⟩
  | unset a refusal accepted unset =>
    obtain ⟨ended, output⟩ :=
      run_performed accepted (perform_unset unset StandardOutput.stream { sink := .accepting }) rfl
    exact ⟨ended, output, rfl⟩
  | misused a s fault accepted set misused =>
    have performed : (perform e a StandardOutput.stream { sink := .accepting } disk).answer
        = (.error (.usage fault), { sink := .accepting }) := by
      rw [perform_set set, performWith_refused misused]
    obtain ⟨ended, output⟩ := run_performed accepted performed rfl
    exact ⟨ended, output, rfl⟩
  | failed a s c failure resolved failed =>
    have performed : (perform e a StandardOutput.stream { sink := .accepting } disk).answer
        = (.error (.query (.device failure)), { sink := .accepting }) := by
      rw [perform_set resolved.set, performWith_resolved resolved.resolved,
        Query.publish_error failed]
      rfl
    obtain ⟨ended, output⟩ := run_performed resolved.toAccepted performed rfl
    exact ⟨ended, output, rfl⟩
  | done a s c text resolved answered =>
    have performed : (perform e a StandardOutput.stream { sink := .accepting } disk).answer
        = (.ok (), { sink := .accepting, delivered := Utf8.bytes text }) := by
      rw [perform_set resolved.set, performWith_resolved resolved.resolved,
        Query.publish_ok answered, StandardOutput.deliver_accepting rfl]
      rfl
    obtain ⟨ended, output⟩ := run_performed resolved.toAccepted performed rfl
    exact ⟨ended, output, rfl⟩

theorem Outcome.printed_iff {ending : Ending} {code : Nat} {text : String}
    (outcome : Outcome words e disk ending code text) : text ≠ "" ↔ code = 0 := by
  cases outcome with
  | answered i form read =>
    exact ⟨fun _ => rfl, fun _ => CommandLine.Help.answer_ne_empty _ _ i form⟩
  | done a s c text resolved answered =>
    exact ⟨fun _ => rfl, fun _ => (Query.answer_ended answered).ne_empty⟩
  | refused | brokenOff | unset | misused | failed =>
    exact ⟨fun printed => absurd rfl printed, nofun⟩

theorem Outcome.ended {code : Nat} {text : String} (outcome : Outcome words e disk .done code text) :
    Ended text := by
  cases outcome with
  | done a s c text resolved answered => exact Query.answer_ended answered

theorem Outcome.unmeasured {ending : Ending} {code : Nat} {text : String}
    (outcome : Outcome words e disk ending code text) {a : Arguments}
    (read : CommandLine.read words e.configDirectory = .ok a) (asked : a.gainRange = true) :
    code ≠ 0 := by
  cases outcome with
  | answered i form stopped =>
    rw [read] at stopped
    cases stopped
  | done b s c text resolved answered =>
    cases read.symm.trans resolved.read
    have configuration := resolve_eq resolved.resolved
    have gauges : c.gainRange = true := by rw [configuration]; exact asked
    have plain : c.count = false :=
      Bool.eq_false_iff.mpr fun counts =>
        (resolves_of_resolve resolved.resolved).one_mode ⟨counts, gauges⟩
    exact absurd answered (Query.gainRange_unanswered _ disk gauges plain text)
  | refused | brokenOff | unset | misused | failed => exact nofun

structure Concludes (words : List String) (e : Environment) (disk : Disk) (c : Conclusion)
    (text : String) : Prop where
  outcome : Outcome words e disk c.ending c.ending.exitCode text
  only : ∀ ending code other, Outcome words e disk ending code other →
    ending = c.ending ∧ code = c.ending.exitCode ∧ other = text
  output : c.output = { sink := .accepting, delivered := Utf8.bytes text }
  printed : c.output.delivered ≠ [] ↔ c.ending.exitCode = 0
  ended : c.ending = .done → Ended text
  unmeasured : ∀ a, CommandLine.read words e.configDirectory = .ok a → a.gainRange = true →
    c.ending.exitCode ≠ 0

theorem run_concludes (words : List String) (e : Environment) (disk : Disk) :
    ∃ text, Concludes words e disk (Conclusion.run words e disk { sink := .accepting }) text := by
  obtain ⟨ending, code, text, outcome⟩ := exists_outcome words e disk
  obtain ⟨rfl, output, rfl⟩ := outcome.concludes
  refine ⟨text, outcome, fun ending code other another => ?_, output, ?_, fun done => ?_,
    fun a read asked => outcome.unmeasured read asked⟩
  · obtain ⟨rfl, output', rfl⟩ := another.concludes
    have same := congrArg StandardOutput.delivered (output'.symm.trans output)
    exact ⟨rfl, rfl, Utf8.bytes_injective same⟩
  · rw [output, ← outcome.printed_iff]
    exact not_congr ⟨fun empty => Utf8.bytes_injective empty, fun empty => by rw [empty]; rfl⟩
  · rw [done] at outcome
    exact outcome.ended

-- A filter whose first directive is blank in front: the place behind its target, counted without
-- the blank, lies inside the accented letter.
def tornEnvironment : Environment where
  home := some "/nonexistent/home"
  diagnostics := some "\u3000é=debug"

def bothModes : Arguments := { count := true, gainRange := true }

theorem torn_filter_breaks_off :
    CommandLine.read ["-c", "-g"] tornEnvironment.configDirectory = .ok bothModes
      ∧ (settingsFor tornEnvironment bothModes ⟨Files.Tree.empty, []⟩).answer = .ok .standard
      ∧ resolve bothModes .standard = .error .exclusiveModes
      ∧ (Conclusion.run ["-c", "-g"] tornEnvironment ⟨Files.Tree.empty, []⟩
          { sink := .accepting }).ending.exitCode = 101 := by
  refine ⟨?_, ?_, resolve_exclusive ⟨rfl, rfl⟩, ?_⟩
  · decide +kernel
  · rfl
  · decide +kernel

end Running

end Invocation

end ModulatorInspector
