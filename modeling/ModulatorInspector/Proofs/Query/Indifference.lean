import ModulatorInspector.Proofs.Query.Conversation

namespace ModulatorInspector

namespace Device

variable {σ η α β : Type}

-- The same is left behind, and one is refused where the other is, for the same cause. What they give
-- otherwise may differ.
structure Run.Alike (run run' : Run σ (Outcome α)) : Prop where
  state : run.state = run'.state
  events : run.events = run'.events
  failure : Exchange.failureOf? run.answer = Exchange.failureOf? run'.answer

namespace Act

def Alike (act act' : Act σ (Outcome α)) : Prop := ∀ s, (act s).Alike (act' s)

theorem Alike.refl (act : Act σ (Outcome α)) : act.Alike act := fun _ => ⟨rfl, rfl, rfl⟩

theorem alike_ok (a b : α) : Alike (pure (.ok a) : Act σ (Outcome α)) (pure (.ok b)) :=
  fun _ => ⟨rfl, rfl, rfl⟩

theorem alike_bind (act : Act σ α) {next next' : α → Act σ (Outcome β)}
    (follow : ∀ a, (next a).Alike (next' a)) : Alike (act >>= next) (act >>= next') := by
  intro s
  obtain ⟨state, events, failure⟩ := follow (act s).answer (act s).state
  exact ⟨state, congrArg ((act s).events ++ ·) events, failure⟩

theorem Alike.bind {act act' : Act σ (Outcome α)} (alike : act.Alike act')
    {next next' : Outcome α → Act σ (Outcome β)}
    (follow : ∀ a a', Exchange.failureOf? a = Exchange.failureOf? a' → (next a).Alike (next' a')) :
    Alike (act >>= next) (act' >>= next') := by
  intro s
  obtain ⟨state, events, failure⟩ := alike s
  obtain ⟨state', events', failure'⟩ := follow _ _ failure (act s).state
  rw [state] at state' events' failure'
  simp only [bind_apply]
  exact ⟨state ▸ state', by rw [events, state, events'], state ▸ failure'⟩

end Act

theorem whileOpen_alike (d : Driver σ η) (opening : Act σ (Outcome η))
    {body body' : η → Act σ (Outcome α)} (alike : ∀ handle, (body handle).Alike (body' handle)) :
    (whileOpen d opening body).Alike (whileOpen d opening body') := by
  refine Act.alike_bind opening fun outcome => ?_
  cases outcome with
  | error failure => exact .refl _
  | ok handle =>
    refine (alike handle).bind fun answer answer' failure => ?_
    refine Act.alike_bind _ fun _ => Act.alike_bind _ fun _ => ?_
    exact fun s => ⟨rfl, rfl, failure⟩

end Device

namespace Query

open Device (Act Driver Exchange)

variable {σ η : Type} {c c' : Configuration}

-- Two configurations that ask for the same. Counting goes by nothing else; a list goes by how much is
-- to be printed, and so does one device, beside which one it is; a gain range goes by the device and
-- the carrier.
inductive SameQuery (c c' : Configuration) : Prop where
  | counting (counts : c.count = true) (counts' : c'.count = true)
  | listing (plain : c.count = false) (plain' : c'.count = false) (lists : c.needed = .all)
      (lists' : c'.needed = .all) (verbose : c.verbose = c'.verbose)
  | inspecting (single : c.needed ≠ .all) (same : c.needed = c'.needed)
      (unasked : c.gainRange = false) (unasked' : c'.gainRange = false)
      (verbose : c.verbose = c'.verbose)
  | gauging (single : c.needed ≠ .all) (same : c.needed = c'.needed) (asked : c.gainRange = true)
      (asked' : c'.gainRange = true) (frequency : c.frequency = c'.frequency)
      (bandwidth : c.bandwidth = c'.bandwidth)

theorem needed_of_count (counts : c.count = true) : c.needed = .all := by
  rw [Configuration.needed, if_pos counts]

theorem survey_congr (d : Driver σ η) (count : c.count = c'.count)
    (verbose : c.count = false → c.verbose = c'.verbose) : survey d c = survey d c' := by
  unfold survey
  cases counts : c.count with
  | true => rw [← count, counts]; rfl
  | false => rw [← count, counts, verbose counts]

theorem inspect_congr (d : Driver σ η) (gainRange : c.gainRange = c'.gainRange)
    (verbose : c.gainRange = false → c.verbose = c'.verbose)
    (carrier : c.gainRange = true → c.frequency = c'.frequency ∧ c.bandwidth = c'.bandwidth)
    (handle : η) : inspect d c handle = inspect d c' handle := by
  unfold inspect
  cases asked : c.gainRange with
  | true =>
    obtain ⟨frequency, bandwidth⟩ := carrier asked
    rw [← gainRange, asked, frequency, bandwidth]
    rfl
  | false => rw [← gainRange, asked, verbose asked]; rfl

theorem answer_all (d : Driver σ η) (lists : c.needed = .all) : answer d c = survey d c := by
  rw [answer, lists]

theorem answer_single (d : Driver σ η) (single : c.needed ≠ .all) :
    answer d c = Device.withSession d c.needed (inspect d c) := by
  rw [answer]
  split
  · rename_i lists
    exact absurd lists single
  · rfl

theorem answer_eq_of_sameQuery (same : SameQuery c c') (d : Driver σ η) :
    answer d c = answer d c' := by
  cases same with
  | counting counts counts' =>
    rw [answer_all d (needed_of_count counts), answer_all d (needed_of_count counts')]
    refine survey_congr d (counts.trans counts'.symm) fun plain => ?_
    rw [counts] at plain
    cases plain
  | listing plain plain' lists lists' verbose =>
    rw [answer_all d lists, answer_all d lists']
    exact survey_congr d (plain.trans plain'.symm) fun _ => verbose
  | inspecting single same unasked unasked' verbose =>
    have inspects : inspect d c = inspect d c' := funext fun handle =>
      inspect_congr d (unasked.trans unasked'.symm) (fun _ => verbose)
        (fun asked => nomatch unasked.symm.trans asked) handle
    rw [answer_single d single, answer_single d (same ▸ single), same, inspects]
  | gauging single same asked asked' frequency bandwidth =>
    have inspects : inspect d c = inspect d c' := funext fun handle =>
      inspect_congr d (asked.trans asked'.symm) (fun unasked => nomatch unasked.symm.trans asked)
        (fun _ => ⟨frequency, bandwidth⟩) handle
    rw [answer_single d single, answer_single d (same ▸ single), same, inspects]

theorem survey_alike (d : Driver σ η) (c : Configuration) (verbose : Bool) :
    (survey d c).Alike (survey d { c with verbose }) := by
  refine Act.alike_bind d.list fun outcome => ?_
  cases outcome with
  | error failure => exact .refl _
  | ok devices => exact Act.alike_bind _ fun _ => Act.alike_ok _ _

theorem inspect_alike (d : Driver σ η) (c : Configuration) (verbose : Bool) (handle : η) :
    (inspect d c handle).Alike (inspect d { c with verbose } handle) := by
  refine Act.alike_bind (d.describe handle) fun outcome => ?_
  cases outcome with
  | error failure => exact .refl _
  | ok found =>
    dsimp only
    cases c.gainRange with
    | true => exact .refl _
    | false => exact Act.alike_ok _ _

theorem answer_alike (d : Driver σ η) (c : Configuration) (verbose : Bool) :
    (answer d c).Alike (answer d { c with verbose }) := by
  have needed : Configuration.needed { c with verbose } = c.needed := rfl
  unfold answer
  rw [needed]
  cases c.needed with
  | all => exact survey_alike d c verbose
  | byName name =>
    exact Act.alike_bind _ fun _ => Device.whileOpen_alike d _ (inspect_alike d c verbose)
  | byIndex index =>
    exact Act.alike_bind _ fun _ => Device.whileOpen_alike d _ (inspect_alike d c verbose)

-- What two configurations make of one driver in one state, `calls` and `calls'` being what is said to
-- it for the one and for the other.
structure Unmoved (d : Driver σ η) (c c' : Configuration) (s : σ) (calls calls' : List (Exchange η)) :
    Prop where
  unused : SameQuery c c' → calls = calls' ∧ answer d c s = answer d c' s
  wording : c' = { c with verbose := c'.verbose } →
    calls = calls' ∧ (answer d c s).Alike (answer d c' s)

theorem answer_unmoved (d : Driver σ η) (c c' : Configuration) (s : σ)
    (past : List (Exchange η)) :
    ∃ calls calls',
      answer (d.recorded id) c (s, past)
          = ⟨(answer d c s).answer, ((answer d c s).state, past ++ calls), (answer d c s).events⟩
        ∧ answer (d.recorded id) c' (s, past)
          = ⟨(answer d c' s).answer, ((answer d c' s).state, past ++ calls'),
              (answer d c' s).events⟩
        ∧ Unmoved d c c' s calls calls' := by
  obtain ⟨calls, run, -⟩ := answer_records d id c s past
  obtain ⟨calls', run', -⟩ := answer_records d id c' s past
  have calls_eq (same : (answer (d.recorded id) c (s, past)).state
      = (answer (d.recorded id) c' (s, past)).state) : calls = calls' := by
    rw [run, run', Prod.mk.injEq] at same
    exact List.append_cancel_left same.2
  refine ⟨calls, calls', run, run', ?_, ?_⟩
  · intro same
    refine ⟨calls_eq ?_, ?_⟩
    · rw [answer_eq_of_sameQuery same]
    · rw [answer_eq_of_sameQuery same]
  · intro reworded
    rw [reworded] at calls_eq ⊢
    exact ⟨calls_eq (answer_alike (d.recorded id) c c'.verbose (s, past)).state,
      answer_alike d c c'.verbose s⟩

example : SameQuery { gainRange := true, verbose := true } { gainRange := true, adapter := some 0 } :=
  .gauging (by decide) rfl rfl rfl rfl rfl

end Query

end ModulatorInspector
