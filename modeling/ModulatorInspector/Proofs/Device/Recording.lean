import ModulatorInspector.Device.Session

namespace ModulatorInspector.Device

variable {σ η ε α β : Type}

-- One call of a driver's operation and what came of it. Closing cannot be refused.
inductive Exchange (η : Type) where
  | list (outcome : Outcome (List Descriptor))
  | openAt (index : UInt32) (outcome : Outcome η)
  | openNamed (name : String) (outcome : Outcome η)
  | describe (handle : η) (outcome : Outcome Descriptor)
  | gainRange (handle : η) (frequency : UInt64) (bandwidth : Bandwidth)
      (outcome : Outcome GainRange)
  | close (handle : η)

namespace Exchange

@[simp] def failureOf? : Outcome α → Option Failure
  | .ok _ => none
  | .error failure => some failure

@[simp] def failure? : Exchange η → Option Failure
  | .list outcome => failureOf? outcome
  | .openAt _ outcome | .openNamed _ outcome => failureOf? outcome
  | .describe _ outcome => failureOf? outcome
  | .gainRange _ _ _ outcome => failureOf? outcome
  | .close _ => none

@[simp] def opened? : Exchange η → Option η
  | .openAt _ (.ok handle) | .openNamed _ (.ok handle) => some handle
  | _ => none

@[simp] def handle? : Exchange η → Option η
  | .describe handle _ | .gainRange handle _ _ _ | .close handle => some handle
  | _ => none

@[simp] def isClose : Exchange η → Bool
  | .close _ => true
  | _ => false

end Exchange

namespace Act

theorem pure_apply (a : α) (s : σ) : (pure a : Act σ α) s = ⟨a, s, []⟩ := rfl

theorem bind_apply (act : Act σ α) (next : α → Act σ β) (s : σ) :
    (act >>= next) s = ⟨(next (act s).answer (act s).state).answer,
      (next (act s).answer (act s).state).state,
      (act s).events ++ (next (act s).answer (act s).state).events⟩ := rfl

def recording (act : Act σ α) (entry : α → ε) : Act (σ × List ε) α := fun w =>
  let run := act w.1
  ⟨run.answer, (run.state, w.2 ++ [entry run.answer]), run.events⟩

-- `recorded` comes to what `act` comes to, whatever was kept before, and the entries that it adds
-- fit the answer.
def Records (recorded : Act (σ × List ε) α) (act : Act σ α) (fits : List ε → α → Prop) : Prop :=
  ∀ s past, ∃ entries,
    recorded (s, past)
        = ⟨(act s).answer, ((act s).state, past ++ entries), (act s).events⟩
      ∧ fits entries (act s).answer

theorem records_pure (a : α) :
    Records (pure a : Act (σ × List ε) α) (pure a) fun entries b => entries = [] ∧ b = a := by
  intro s past
  refine ⟨[], ?_, rfl, rfl⟩
  rw [List.append_nil]
  rfl

theorem records_note (event : Diagnostics.Event) :
    Records (note event : Act (σ × List ε) Unit) (note event) fun entries _ => entries = [] := by
  intro s past
  refine ⟨[], ?_, rfl⟩
  rw [List.append_nil]
  rfl

theorem records_recording (act : Act σ α) (entry : α → ε) :
    Records (act.recording entry) act fun entries a => entries = [entry a] :=
  fun _ _ => ⟨_, rfl, rfl⟩

theorem Records.weaken {recorded : Act (σ × List ε) α} {act : Act σ α}
    {fits fits' : List ε → α → Prop} (records : Records recorded act fits)
    (weaker : ∀ entries a, fits entries a → fits' entries a) : Records recorded act fits' := by
  intro s past
  obtain ⟨entries, run, fit⟩ := records s past
  exact ⟨entries, run, weaker _ _ fit⟩

theorem Records.bind {recorded : Act (σ × List ε) α} {act : Act σ α}
    {next' : α → Act (σ × List ε) β} {next : α → Act σ β} {fits : List ε → α → Prop}
    (records : Records recorded act fits) (follows : α → List ε → β → Prop)
    (then_records : ∀ a, Records (next' a) (next a) (follows a)) :
    Records (recorded >>= next') (act >>= next) fun entries b =>
      ∃ a early late, entries = early ++ late ∧ fits early a ∧ follows a late b := by
  intro s past
  obtain ⟨early, run, fit⟩ := records s past
  obtain ⟨late, run', follow⟩ := then_records (act s).answer (act s).state (past ++ early)
  refine ⟨early ++ late, ?_, _, early, late, rfl, fit, follow⟩
  simp only [bind_apply, run, run', List.append_assoc]

end Act

-- `keep` makes an entry of a call, so that calls can be kept among entries of other kinds.
def Driver.recorded (d : Driver σ η) (keep : Exchange η → ε) : Driver (σ × List ε) η where
  list := d.list.recording fun outcome => keep (.list outcome)
  openAt index := (d.openAt index).recording fun outcome => keep (.openAt index outcome)
  openNamed name := (d.openNamed name).recording fun outcome => keep (.openNamed name outcome)
  describe handle := (d.describe handle).recording fun outcome => keep (.describe handle outcome)
  gainRange handle frequency bandwidth :=
    (d.gainRange handle frequency bandwidth).recording fun outcome =>
      keep (.gainRange handle frequency bandwidth outcome)
  close handle := (d.close handle).recording fun _ => keep (.close handle)

section Calls

variable (d : Driver σ η) (keep : Exchange η → ε)

theorem list_records :
    Act.Records (d.recorded keep).list d.list fun entries outcome =>
      entries = [keep (.list outcome)] :=
  Act.records_recording d.list fun outcome => keep (.list outcome)

theorem openAt_records (index : UInt32) :
    Act.Records ((d.recorded keep).openAt index) (d.openAt index) fun entries outcome =>
      entries = [keep (.openAt index outcome)] :=
  Act.records_recording (d.openAt index) fun outcome => keep (.openAt index outcome)

theorem openNamed_records (name : String) :
    Act.Records ((d.recorded keep).openNamed name) (d.openNamed name) fun entries outcome =>
      entries = [keep (.openNamed name outcome)] :=
  Act.records_recording (d.openNamed name) fun outcome => keep (.openNamed name outcome)

theorem describe_records (handle : η) :
    Act.Records ((d.recorded keep).describe handle) (d.describe handle) fun entries outcome =>
      entries = [keep (.describe handle outcome)] :=
  Act.records_recording (d.describe handle) fun outcome => keep (.describe handle outcome)

theorem gainRange_records (handle : η) (frequency : UInt64) (bandwidth : Bandwidth) :
    Act.Records ((d.recorded keep).gainRange handle frequency bandwidth)
      (d.gainRange handle frequency bandwidth) fun entries outcome =>
        entries = [keep (.gainRange handle frequency bandwidth outcome)] :=
  Act.records_recording (d.gainRange handle frequency bandwidth) fun outcome =>
    keep (.gainRange handle frequency bandwidth outcome)

theorem close_records (handle : η) :
    Act.Records ((d.recorded keep).close handle) (d.close handle) fun entries _ =>
      entries = [keep (.close handle)] :=
  Act.records_recording (d.close handle) fun _ => keep (.close handle)

end Calls

-- A session that cannot be opened ends there; every other one ends with closing what was opened.
theorem whileOpen_records (d : Driver σ η) (keep : Exchange η → ε)
    {opening' : Act (σ × List ε) (Outcome η)} {opening : Act σ (Outcome η)}
    {body' : η → Act (σ × List ε) (Outcome α)} {body : η → Act σ (Outcome α)}
    {opens : List ε → Outcome η → Prop} {fits : η → List ε → Outcome α → Prop}
    (opening_records : Act.Records opening' opening opens)
    (body_records : ∀ handle, Act.Records (body' handle) (body handle) (fits handle)) :
    Act.Records (whileOpen (d.recorded keep) opening' body') (whileOpen d opening body)
      fun entries answer =>
        (∃ failure, answer = .error failure ∧ opens entries (.error failure)) ∨
        ∃ handle early late, entries = early ++ late ++ [keep (.close handle)]
          ∧ opens early (.ok handle) ∧ fits handle late answer := by
  have closing handle : Act.Records
      (do
        let answer ← body' handle
        Act.note .closing
        let _ ← (d.recorded keep).close handle
        return answer)
      (do
        let answer ← body handle
        Act.note .closing
        let _ ← d.close handle
        return answer)
      fun entries answer =>
        ∃ late, entries = late ++ [keep (.close handle)] ∧ fits handle late answer := by
    refine ((body_records handle).bind _ fun answer => (Act.records_note _).bind _ fun _ =>
      (close_records d keep handle).bind _ fun _ => Act.records_pure answer).weaken ?_
    rintro _ _ ⟨_, late, _, rfl, fit, _, _, _, rfl, rfl, _, _, _, rfl, rfl, rfl, rfl⟩
    exact ⟨late, by simp, fit⟩
  refine (opening_records.bind (fun outcome rest answer =>
    (∃ failure, outcome = .error failure ∧ rest = [] ∧ answer = .error failure) ∨
    ∃ handle late, outcome = .ok handle ∧ rest = late ++ [keep (.close handle)]
      ∧ fits handle late answer) ?_).weaken ?_
  · intro outcome
    cases outcome with
    | error failure =>
      refine (Act.records_pure _).weaken ?_
      rintro _ _ ⟨rfl, rfl⟩
      exact .inl ⟨failure, rfl, rfl, rfl⟩
    | ok handle =>
      refine (closing handle).weaken ?_
      rintro _ answer ⟨late, rfl, fit⟩
      exact .inr ⟨handle, late, rfl, rfl, fit⟩
  · rintro _ answer ⟨outcome, early, rest, rfl, opened, follows⟩
    rcases follows with ⟨failure, rfl, rfl, rfl⟩ | ⟨handle, late, rfl, rfl, fit⟩
    · rw [List.append_nil]
      exact .inl ⟨failure, rfl, opened⟩
    · exact .inr ⟨handle, early, late, (List.append_assoc ..).symm, opened, fit⟩

end ModulatorInspector.Device
