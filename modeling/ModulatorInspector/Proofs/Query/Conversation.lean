import ModulatorInspector.Proofs.Device.Recording
import ModulatorInspector.Proofs.Success
import ModulatorInspector.Query.Answer

namespace ModulatorInspector.Query

open Device (Act Descriptor Driver Exchange Failure GainRange Outcome)

section Talking

variable {σ η ε : Type}

def openingCall? (target : Target) (outcome : Outcome η) : Option (Exchange η) :=
  match target with
  | .all => none
  | .byName name => some (.openNamed name outcome)
  | .byIndex index => some (.openAt index outcome)

def listingReport (c : Configuration) (devices : List Descriptor) : String :=
  if c.count then countReport devices else listReport devices c.verbose

-- The calls of a query, oldest first, and its answer.
inductive Conversation (c : Configuration) : List (Exchange η) → Outcome String → Prop where
  | listed (outcome) (needed : c.needed = .all) :
      Conversation c [.list outcome] (outcome.map (listingReport c))
  | refused (failure) (opening : openingCall? c.needed (.error failure) = some call) :
      Conversation c [call] (.error failure)
  | inspected (handle outcome) (opening : openingCall? c.needed (.ok handle) = some call)
      (last : c.gainRange = false ∨ ∃ failure, outcome = .error failure) :
      Conversation c [call, .describe handle outcome, .close handle]
        (outcome.map fun found => deviceReport found c.verbose)
  | gauged (handle found outcome) (opening : openingCall? c.needed (.ok handle) = some call)
      (asked : c.gainRange = true) :
      Conversation c
        [call, .describe handle (.ok found),
          .gainRange handle c.frequency c.bandwidth outcome, .close handle]
        (outcome.map (gainRangeReport found c.frequency c.bandwidth))

inductive Inspection (c : Configuration) (handle : η) :
    List (Exchange η) → Outcome String → Prop where
  | inspected (outcome) (last : c.gainRange = false ∨ ∃ failure, outcome = .error failure) :
      Inspection c handle [.describe handle outcome]
        (outcome.map fun found => deviceReport found c.verbose)
  | gauged (found outcome) (asked : c.gainRange = true) :
      Inspection c handle
        [.describe handle (.ok found), .gainRange handle c.frequency c.bandwidth outcome]
        (outcome.map (gainRangeReport found c.frequency c.bandwidth))

theorem inspect_records (d : Driver σ η) (keep : Exchange η → ε) (c : Configuration)
    (handle : η) :
    Act.Records (inspect (d.recorded keep) c handle) (inspect d c handle) fun entries answer =>
      ∃ calls, entries = calls.map keep ∧ Inspection c handle calls answer := by
  unfold inspect
  refine ((Device.describe_records d keep handle).bind (fun outcome entries answer =>
    ∃ calls, entries = calls.map keep
      ∧ Inspection c handle (.describe handle outcome :: calls) answer) ?_).weaken ?_
  · intro outcome
    cases outcome with
    | error failure =>
      refine (Act.records_pure _).weaken ?_
      rintro _ _ ⟨rfl, rfl⟩
      exact ⟨[], rfl, .inspected (.error failure) (.inr ⟨failure, rfl⟩)⟩
    | ok found =>
      cases asked : c.gainRange with
      | false =>
        refine (Act.records_pure _).weaken ?_
        rintro _ _ ⟨rfl, rfl⟩
        exact ⟨[], rfl, .inspected (.ok found) (.inl asked)⟩
      | true =>
        refine ((Device.gainRange_records d keep handle _ _).bind
          (fun outcome entries answer => entries = [] ∧
            answer = outcome.map (gainRangeReport found c.frequency c.bandwidth)) ?_).weaken ?_
        · intro outcome
          cases outcome <;> exact Act.records_pure _
        · rintro _ _ ⟨outcome, _, _, rfl, rfl, rfl, rfl⟩
          exact ⟨[_], rfl, .gauged found outcome asked⟩
  · rintro _ _ ⟨outcome, _, _, rfl, rfl, calls, rfl, inspection⟩
    exact ⟨_, rfl, inspection⟩

theorem survey_records (d : Driver σ η) (keep : Exchange η → ε) (c : Configuration) :
    Act.Records (survey (d.recorded keep) c) (survey d c) fun entries answer =>
      ∃ outcome, entries = [keep (.list outcome)] ∧ answer = outcome.map (listingReport c) := by
  unfold survey
  refine ((Device.list_records d keep).bind (fun outcome entries answer =>
    entries = [] ∧ answer = outcome.map (listingReport c)) ?_).weaken ?_
  · intro outcome
    cases outcome with
    | error failure => exact Act.records_pure _
    | ok devices =>
      refine ((Act.records_note _).bind _ fun _ => Act.records_pure _).weaken ?_
      rintro _ _ ⟨_, _, _, rfl, rfl, rfl, rfl⟩
      exact ⟨rfl, rfl⟩
  · rintro _ _ ⟨outcome, _, _, rfl, rfl, rfl, rfl⟩
    exact ⟨outcome, rfl, rfl⟩

theorem session_records (d : Driver σ η) (keep : Exchange η → ε) (c : Configuration)
    {opening' : Act (σ × List ε) (Outcome η)} {opening : Act σ (Outcome η)}
    {call : Outcome η → Exchange η}
    (opens : ∀ outcome, openingCall? c.needed outcome = some (call outcome))
    (opening_records : Act.Records opening' opening fun entries outcome =>
      entries = [keep (call outcome)]) :
    Act.Records (Device.whileOpen (d.recorded keep) opening' (inspect (d.recorded keep) c))
      (Device.whileOpen d opening (inspect d c)) fun entries answer =>
        ∃ calls, entries = calls.map keep ∧ Conversation c calls answer := by
  refine (Device.whileOpen_records d keep opening_records (inspect_records d keep c)).weaken ?_
  rintro _ _ (⟨failure, rfl, rfl⟩ | ⟨handle, _, _, rfl, rfl, calls, rfl, inspection⟩)
  · exact ⟨[_], rfl, .refused failure (opens _)⟩
  · refine ⟨call (.ok handle) :: calls ++ [.close handle], by simp, ?_⟩
    cases inspection with
    | inspected outcome last => exact .inspected handle outcome (opens _) last
    | gauged found outcome asked => exact .gauged handle found outcome (opens _) asked

theorem answer_records (d : Driver σ η) (keep : Exchange η → ε) (c : Configuration) :
    Act.Records (answer (d.recorded keep) c) (answer d c) fun entries answer =>
      ∃ calls, entries = calls.map keep ∧ Conversation c calls answer := by
  unfold answer
  cases needed : c.needed with
  | all =>
    refine (survey_records d keep c).weaken ?_
    rintro _ _ ⟨outcome, rfl, rfl⟩
    exact ⟨[_], rfl, .listed outcome needed⟩
  | byName name =>
    refine ((Act.records_note _).bind _ fun _ => session_records d keep c
      (fun outcome => by rw [needed]; rfl) (Device.openNamed_records d keep name)).weaken ?_
    rintro _ _ ⟨_, _, _, rfl, rfl, conversation⟩
    exact conversation
  | byIndex index =>
    refine ((Act.records_note _).bind _ fun _ => session_records d keep c
      (fun outcome => by rw [needed]; rfl) (Device.openAt_records d keep index)).weaken ?_
    rintro _ _ ⟨_, _, _, rfl, rfl, conversation⟩
    exact conversation

def openedIn (calls : List (Exchange η)) : List η := calls.filterMap Exchange.opened?

-- What every conversation keeps to, whichever calls it consists of.
structure Orderly (calls : List (Exchange η)) (answer : Outcome String) : Prop where
  closings : calls.filter Exchange.isClose = (openedIn calls).map .close
  opened_once : (openedIn calls).length ≤ 1
  closing_last : calls.Pairwise fun earlier _ => earlier.isClose = false
  handles : ∀ call ∈ calls, ∀ handle, call.handle? = some handle → openedIn calls = [handle]
  failing_last : calls.Pairwise fun earlier later => earlier.failure? ≠ none → later.isClose = true
  failures : ∀ call ∈ calls, ∀ failure, call.failure? = some failure → answer = .error failure
  causes : ∀ failure, answer = .error failure → ∃ call ∈ calls, call.failure? = some failure

theorem openingCall_cases {target : Target} {outcome : Outcome η} {call : Exchange η}
    (opening : openingCall? target outcome = some call) :
    (∃ name, call = .openNamed name outcome) ∨ ∃ index, call = .openAt index outcome := by
  cases target with
  | all => cases opening
  | byName name => exact .inl ⟨name, (Option.some.inj opening).symm⟩
  | byIndex index => exact .inr ⟨index, (Option.some.inj opening).symm⟩

-- Each shape is a fixed row of calls, so that every law of the row can be read off it.
theorem Conversation.orderly {c : Configuration} {calls : List (Exchange η)}
    {answer : Outcome String} (conversation : Conversation c calls answer) :
    Orderly calls answer := by
  cases conversation with
  | listed outcome needed =>
    cases outcome <;> constructor <;> simp [openedIn, List.filterMap_cons, Except.map]
  | refused failure opening =>
    rcases openingCall_cases opening with ⟨name, rfl⟩ | ⟨index, rfl⟩
    all_goals constructor <;> simp [openedIn, List.filterMap_cons]
  | inspected handle outcome opening last =>
    rcases openingCall_cases opening with ⟨name, rfl⟩ | ⟨index, rfl⟩
    all_goals
      cases outcome <;> constructor <;> simp [openedIn, List.filterMap_cons, Except.map]
  | gauged handle found outcome opening asked =>
    rcases openingCall_cases opening with ⟨name, rfl⟩ | ⟨index, rfl⟩
    all_goals
      cases outcome <;> constructor <;> simp [openedIn, List.filterMap_cons, Except.map]

-- The failure of a session that is to open all devices is among the causes only where a driver
-- gives it itself.
theorem answer_keeps_protocol (d : Driver σ η) (c : Configuration) (s : σ)
    (past : List (Exchange η)) :
    ∃ calls,
      answer (d.recorded id) c (s, past)
          = ⟨(answer d c s).answer, ((answer d c s).state, past ++ calls), (answer d c s).events⟩
        ∧ Conversation c calls (answer d c s).answer ∧ Orderly calls (answer d c s).answer := by
  obtain ⟨_, run, calls, rfl, conversation⟩ := answer_records d id c s past
  rw [List.map_id] at run
  exact ⟨calls, run, conversation, conversation.orderly⟩

end Talking

def Ended (text : String) : Prop := ∃ body, text = line body

theorem Ended.behind {text : String} (ended : Ended text) (front : String) :
    Ended (front ++ text) := by
  obtain ⟨body, rfl⟩ := ended
  exact ⟨front ++ body, String.append_assoc.symm⟩

theorem Ended.ne_empty {text : String} (ended : Ended text) : text ≠ "" := by
  obtain ⟨body, rfl⟩ := ended
  intro empty
  simpa [line] using congrArg String.toList empty

theorem ended_join {texts : List String} (some_text : texts ≠ [])
    (ended : ∀ text ∈ texts, Ended text) : Ended (String.join texts) := by
  induction texts with
  | nil => exact absurd rfl some_text
  | cons first rest ih =>
    rw [String.join_cons]
    by_cases last : rest = []
    · rw [last, String.join_nil, String.append_empty]
      exact ended first List.mem_cons_self
    · exact (ih last fun text member => ended text (List.mem_cons_of_mem first member)).behind first

theorem deviceReport_ended (d : Descriptor) (verbose : Bool) : Ended (deviceReport d verbose) :=
  ⟨_, rfl⟩

theorem gainRangeReport_ended (d : Descriptor) (frequency : UInt64) (bandwidth : Bandwidth)
    (range : GainRange) : Ended (gainRangeReport d frequency bandwidth range) := by
  refine ended_join (List.cons_ne_nil _ _) fun text member => ?_
  obtain ⟨body, -, rfl⟩ := List.mem_map.mp member
  exact ⟨body, rfl⟩

theorem listReport_ended (devices : List Descriptor) (verbose : Bool) :
    Ended (listReport devices verbose) := by
  rw [listReport]
  split
  · exact ⟨nothingFound, rfl⟩
  · rename_i some_device
    refine (ended_join (by simpa using some_device) fun text member => ?_).behind _
    obtain ⟨d, -, rfl⟩ := List.mem_map.mp member
    exact deviceReport_ended d verbose

theorem listingReport_ended (c : Configuration) (devices : List Descriptor) :
    Ended (listingReport c devices) := by
  rw [listingReport]
  split
  · exact ⟨toString devices.length, rfl⟩
  · exact listReport_ended devices c.verbose

theorem Conversation.ended {η : Type} {c : Configuration} {calls : List (Exchange η)}
    {answer : Device.Outcome String} (conversation : Conversation c calls answer) {text : String}
    (answered : answer = .ok text) : Ended text := by
  cases conversation with
  | listed outcome needed =>
    obtain ⟨devices, -, rfl⟩ := map_eq_ok_iff.mp answered
    exact listingReport_ended c devices
  | refused failure opening => cases answered
  | inspected handle outcome opening last =>
    obtain ⟨found, -, rfl⟩ := map_eq_ok_iff.mp answered
    exact deviceReport_ended found c.verbose
  | gauged handle found outcome opening asked =>
    obtain ⟨range, -, rfl⟩ := map_eq_ok_iff.mp answered
    exact gainRangeReport_ended found c.frequency c.bandwidth range

theorem answer_ended {σ η : Type} {d : Device.Driver σ η} {c : Configuration} {s : σ}
    {text : String} (answered : (answer d c s).answer = .ok text) : Ended text := by
  obtain ⟨_, _, _, _, conversation⟩ := answer_records d id c s []
  exact conversation.ended answered

end ModulatorInspector.Query
