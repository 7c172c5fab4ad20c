import ModulatorInspector.Proofs.Device.Recording
import ModulatorInspector.Proofs.Query.Delivery
import ModulatorInspector.Query.Answer

namespace ModulatorInspector

namespace Device

variable {σ τ η α β : Type} {belongs : σ → τ → Prop}

-- The runs give the same and leave the same events behind.
structure Run.Tracks (belongs : σ → τ → Prop) (run : Run σ α) (run' : Run τ α) : Prop where
  answer : run.answer = run'.answer
  state : belongs run.state run'.state
  events : run.events = run'.events

namespace Act

def Tracks (belongs : σ → τ → Prop) (act : Act σ α) (act' : Act τ α) : Prop :=
  ∀ s t, belongs s t → Run.Tracks belongs (act s) (act' t)

theorem tracks_pure (a : α) : Tracks belongs (pure a) (pure a) := fun _ _ related =>
  ⟨rfl, related, rfl⟩

theorem tracks_note (event : Diagnostics.Event) : Tracks belongs (note event) (note event) :=
  fun _ _ related => ⟨rfl, related, rfl⟩

theorem Tracks.bind {act : Act σ α} {act' : Act τ α} {next : α → Act σ β} {next' : α → Act τ β}
    (first : Tracks belongs act act') (second : ∀ a, Tracks belongs (next a) (next' a)) :
    Tracks belongs (act >>= next) (act' >>= next') := by
  intro s t related
  obtain ⟨answer, state, events⟩ := first s t related
  obtain ⟨answer', state', events'⟩ := second (act s).answer _ _ state
  simp only [bind_apply, ← answer]
  exact ⟨answer', state', by rw [events, events']⟩

end Act

structure Driver.Tracks (belongs : σ → τ → Prop) (d : Driver σ η) (d' : Driver τ η) : Prop where
  list : Act.Tracks belongs d.list d'.list
  openAt (index : UInt32) : Act.Tracks belongs (d.openAt index) (d'.openAt index)
  openNamed (name : String) : Act.Tracks belongs (d.openNamed name) (d'.openNamed name)
  describe (handle : η) : Act.Tracks belongs (d.describe handle) (d'.describe handle)
  gainRange (handle : η) (frequency : UInt64) (bandwidth : Bandwidth) :
    Act.Tracks belongs (d.gainRange handle frequency bandwidth)
      (d'.gainRange handle frequency bandwidth)
  close (handle : η) : Act.Tracks belongs (d.close handle) (d'.close handle)

theorem whileOpen_tracks {d : Driver σ η} {d' : Driver τ η} (tracks : d.Tracks belongs d')
    {opening : Act σ (Outcome η)} {opening' : Act τ (Outcome η)} {body : η → Act σ (Outcome α)}
    {body' : η → Act τ (Outcome α)} (opens : Act.Tracks belongs opening opening')
    (inside : ∀ handle, Act.Tracks belongs (body handle) (body' handle)) :
    Act.Tracks belongs (whileOpen d opening body) (whileOpen d' opening' body') := by
  refine opens.bind fun outcome => ?_
  cases outcome with
  | error failure => exact Act.tracks_pure _
  | ok handle =>
    exact (inside handle).bind fun answer => (Act.tracks_note _).bind fun _ =>
      (tracks.close handle).bind fun _ => Act.tracks_pure answer

end Device

namespace Query

open Device (Act Driver)

variable {σ τ η : Type} {belongs : σ → τ → Prop} {d : Driver σ η} {d' : Driver τ η}

theorem inspect_tracks (tracks : d.Tracks belongs d') (c : Configuration) (handle : η) :
    Act.Tracks belongs (inspect d c handle) (inspect d' c handle) := by
  refine (tracks.describe handle).bind fun outcome => ?_
  cases outcome with
  | error failure => exact Act.tracks_pure _
  | ok found =>
    dsimp only
    split
    · refine (tracks.gainRange handle _ _).bind fun range => ?_
      cases range <;> exact Act.tracks_pure _
    · exact Act.tracks_pure _

theorem survey_tracks (tracks : d.Tracks belongs d') (c : Configuration) :
    Act.Tracks belongs (survey d c) (survey d' c) := by
  refine tracks.list.bind fun outcome => ?_
  cases outcome with
  | error failure => exact Act.tracks_pure _
  | ok devices => exact (Act.tracks_note _).bind fun _ => Act.tracks_pure _

theorem answer_tracks (tracks : d.Tracks belongs d') (c : Configuration) :
    Act.Tracks belongs (answer d c) (answer d' c) := by
  unfold answer
  cases c.needed with
  | all => exact survey_tracks tracks c
  | byName name =>
    exact (Act.tracks_note _).bind fun _ =>
      Device.whileOpen_tracks tracks (tracks.openNamed name) (inspect_tracks tracks c)
  | byIndex index =>
    exact (Act.tracks_note _).bind fun _ =>
      Device.whileOpen_tracks tracks (tracks.openAt index) (inspect_tracks tracks c)

end Query

namespace Device

variable {σ η ω α : Type}

theorem Act.onFirst_tracks (act : Act σ α) (out : ω) :
    Act.Tracks (fun w s => w = (s, out)) (act.onFirst ω) act := by
  rintro _ s rfl
  exact ⟨rfl, rfl, rfl⟩

theorem Driver.onFirst_tracks (d : Driver σ η) (out : ω) :
    (d.onFirst ω).Tracks (fun w s => w = (s, out)) d where
  list := Act.onFirst_tracks _ out
  openAt _ := Act.onFirst_tracks _ out
  openNamed _ := Act.onFirst_tracks _ out
  describe _ := Act.onFirst_tracks _ out
  gainRange _ _ _ := Act.onFirst_tracks _ out
  close _ := Act.onFirst_tracks _ out

end Device

namespace Query

open Device (Act Driver Exchange Run)

variable {σ η ω : Type}

theorem answer_onFirst (d : Driver σ η) (c : Configuration) (s : σ) (out : ω) :
    answer (d.onFirst ω) c (s, out)
      = ⟨(answer d c s).answer, ((answer d c s).state, out), (answer d c s).events⟩ := by
  obtain ⟨same, state, events⟩ := answer_tracks (d.onFirst_tracks out) c (s, out) s rfl
  rw [← same, ← state, ← events]

theorem onSecond_offer (stream : Stream ω) {bytes : List UInt8} {out next : ω} {answer : Offer}
    (answered : stream.offer bytes out = (answer, next)) (s : σ) :
    (stream.onSecond σ).offer bytes (s, out) = (answer, (s, next)) := by
  simp only [Stream.onSecond, answered]

-- By induction on the writing of the stream alone.
theorem handOver_onSecond (stream : Stream ω) (bytes : List UInt8) (s : σ) (out : ω) :
    (stream.onSecond σ).handOver bytes (s, out)
      = ((stream.handOver bytes out).1, (s, (stream.handOver bytes out).2)) := by
  induction bytes, out using Stream.writeAll.induct stream with
  | case1 out =>
    rw [handOver_nil, handOver_nil]
    rfl
  | case2 bytes out unfinished fault next answered =>
    rw [handOver_failed unfinished answered,
      handOver_failed unfinished (onSecond_offer stream answered s)]
  | case3 bytes out unfinished next answered ih =>
    rw [handOver_interrupted unfinished answered,
      handOver_interrupted unfinished (onSecond_offer stream answered s), ih]
  | case4 bytes out unfinished next answered =>
    rw [handOver_refused unfinished answered,
      handOver_refused unfinished (onSecond_offer stream answered s)]
  | case5 bytes out unfinished count next answered ih =>
    rw [handOver_took unfinished answered,
      handOver_took unfinished (onSecond_offer stream answered s), ih]

theorem deliver_onSecond (stream : Stream ω) (text : String) (s : σ) (out : ω) :
    (stream.onSecond σ).deliver text (s, out)
      = ((stream.deliver text out).1, (s, (stream.deliver text out).2)) :=
  handOver_onSecond stream (Utf8.bytes text) s out

theorem publish_error {d : Driver σ η} {c : Configuration} {s : σ} {failure : Device.Failure}
    (failed : (answer d c s).answer = .error failure) (stream : Stream ω) (out : ω) :
    publish d stream c out s
      = ⟨(.error (.device failure), out), (answer d c s).state, (answer d c s).events⟩ := by
  have apart := answer_onFirst d c s out
  have failed' : (answer (d.onFirst ω) c (s, out)).answer = .error failure := by
    rw [apart, failed]
  rw [publish, publishIn_error failed', apart]

theorem publish_ok {d : Driver σ η} {c : Configuration} {s : σ} {text : String}
    (answered : (answer d c s).answer = .ok text) (stream : Stream ω) (out : ω) :
    publish d stream c out s
      = ⟨((stream.deliver text out).1.mapError .output, (stream.deliver text out).2),
          (answer d c s).state, (answer d c s).events⟩ := by
  have apart := answer_onFirst d c s out
  have answered' : (answer (d.onFirst ω) c (s, out)).answer = .ok text := by
    rw [apart, answered]
  have delivered := deliver_onSecond stream text (answer d c s).state out
  rw [publish, publishIn_ok answered', apart, delivered]

theorem publish_recorded (d : Driver σ η) (stream : Stream ω) (c : Configuration) (s : σ) (out : ω)
    (past : List (Exchange η)) (written : List Writing) :
    ∃ calls writings,
      publish (d.recorded id) (stream.recorded id) c (out, written) (s, past)
          = ⟨((publish d stream c out s).answer.1,
                ((publish d stream c out s).answer.2, written ++ writings)),
              ((publish d stream c out s).state, past ++ calls), (publish d stream c out s).events⟩
        ∧ Conversation c calls (answer d c s).answer := by
  obtain ⟨_, asked, calls, rfl, conversation⟩ := answer_records d id c s past
  have same := congrArg Run.answer asked
  rw [List.map_id] at asked
  cases outcome : (answer d c s).answer with
  | error failure =>
    rw [outcome] at same conversation
    rw [publish_error outcome, publish_error same, asked]
    exact ⟨calls, [], by rw [List.append_nil], conversation⟩
  | ok text =>
    rw [outcome] at same conversation
    obtain ⟨writings, handed, _⟩ := deliver_recorded stream id text out written
    rw [List.map_id] at handed
    rw [publish_ok outcome, publish_ok same, asked, handed]
    exact ⟨calls, writings, rfl, conversation⟩

end Query

end ModulatorInspector
