import ModulatorInspector.Device.Scripted
import ModulatorInspector.Proofs.Query.Separation

namespace ModulatorInspector

namespace Device

variable {σ α ι : Type}

namespace Act

instance : LawfulMonad (Act σ) := LawfulMonad.mk' (Act σ)
  (fun act => by
    funext s
    exact congrArg (Run.mk (act s).answer (act s).state) (List.append_nil _))
  (fun _ _ => rfl)
  (fun act next last => by
    funext s
    simp only [bind_apply, List.append_assoc])

end Act

def Exchange.call : Exchange Nat → Call
  | .list _ => .list
  | .openAt index _ => .openAt index
  | .openNamed name _ => .openNamed name
  | .describe handle _ => .describe handle
  | .gainRange handle frequency bandwidth _ => .gainRange handle frequency bandwidth
  | .close handle => .close handle

namespace Script

def fresh (s : Script) : Script := { s with calls := [] }

end Script

-- What the act does on a script it does on the same script without calls, and it keeps its calls
-- behind those that are there.
def Act.Appends (act : Act Script α) : Prop := ∀ s,
  act s = ⟨(act s.fresh).answer, { s with calls := s.calls ++ (act s.fresh).state.calls },
    (act s.fresh).events⟩

-- By the acts: what one of them leaves is the same script with more calls, on which the rest does
-- what it does on the first.
theorem mapM_appends {act : ι → Act Script α} (appends : ∀ i, (act i).Appends) (is : List ι)
    (s : Script) :
    is.mapM act s = ⟨is.map fun i => (act i s.fresh).answer,
      { s with calls := s.calls ++ is.flatMap fun i => (act i s.fresh).state.calls },
      is.flatMap fun i => (act i s.fresh).events⟩ := by
  induction is generalizing s with
  | nil => simp [Act.pure_apply]
  | cons i is ih =>
    have same (calls : List Call) : Script.fresh { s with calls } = s.fresh := rfl
    rw [List.mapM_cons, Act.bind_apply, appends i s]
    simp only [Act.bind_apply, Act.pure_apply, ih, same, List.map_cons, List.flatMap_cons,
      List.append_nil, List.append_assoc]

end Device

namespace Query

open Device (Act Call Driver Exchange Operation Outcome Script)

variable {α ι : Type} {reason : Operation → String} {s : Script} {past : List (Exchange Nat)}

-- A recorded script that has made these exchanges, beside the same script without the calls that
-- were there before. What was opened is in the range of its devices.
def Follows (s : Script) (past : List (Exchange Nat)) (w : Script × List (Exchange Nat))
    (t : Script) : Prop :=
  ∃ xs, w = ({ s with calls := s.calls ++ xs.map Exchange.call }, past ++ xs)
    ∧ t = { s with calls := xs.map Exchange.call }
    ∧ ∀ handle ∈ openedIn xs, handle < s.devices.length

theorem Follows.add {w : Script × List (Exchange Nat)} {t : Script} (follows : Follows s past w t)
    {x : Exchange Nat} (within : ∀ handle, x.opened? = some handle → handle < s.devices.length) :
    Follows s past ({ w.1 with calls := w.1.calls ++ [x.call] }, w.2 ++ [x])
      { t with calls := t.calls ++ [x.call] } := by
  obtain ⟨xs, rfl, rfl, inside⟩ := follows
  refine ⟨xs ++ [x], by simp, by simp, fun handle member => ?_⟩
  rw [openedIn, List.filterMap_append, List.mem_append] at member
  rcases member with earlier | last
  · exact inside handle earlier
  · exact within handle (by simpa using last)

theorem play_tracks {operation : Operation} {call : Call} {give : Script → Outcome α}
    {entry : Outcome α → Exchange Nat} (called : ∀ outcome, (entry outcome).call = call)
    (unlogged : ∀ calls, give { s with calls } = give s)
    (refused : ∀ failure, (entry (.error failure)).opened? = none)
    (within : ∀ handle, (entry (give s)).opened? = some handle → handle < s.devices.length) :
    Act.Tracks (Follows s past) ((Script.play reason operation call give).recording entry)
      (Script.play reason operation call give) := by
  intro w t follows
  have outcome : (Script.play reason operation call give w.1).answer
      = (Script.play reason operation call give t).answer := by
    obtain ⟨xs, rfl, rfl, inside⟩ := follows
    simp only [Script.play, unlogged]
  refine ⟨outcome, ?_, rfl⟩
  have added (handle : Nat)
      (opens : (entry (Script.play reason operation call give w.1).answer).opened? = some handle) :
      handle < s.devices.length := by
    obtain ⟨xs, rfl, rfl, inside⟩ := follows
    simp only [Script.play, unlogged] at opens
    split at opens
    · rw [refused] at opens
      cases opens
    · exact within handle opens
  have longer := follows.add added
  rwa [called] at longer

theorem script_tracks (reason : Operation → String) (s : Script) (past : List (Exchange Nat)) :
    ((Script.driver reason).recorded id).Tracks (Follows s past) (Script.driver reason) where
  list := play_tracks (fun _ => rfl) (fun _ => rfl) (fun _ => rfl) nofun
  openAt index := by
    refine play_tracks (fun _ => rfl) (fun _ => rfl) (fun _ => rfl) fun handle opens => ?_
    split at opens
    · rename_i inside
      cases opens
      exact inside
    · cases opens
  openNamed name := by
    refine play_tracks (fun _ => rfl) (fun _ => rfl) (fun _ => rfl) fun handle opens => ?_
    split at opens
    · rename_i position found
      cases opens
      exact (List.findIdx?_eq_some_iff_getElem.mp found).1
    · cases opens
  describe handle := play_tracks (fun _ => rfl) (fun _ => rfl) (fun _ => rfl) nofun
  gainRange handle frequency bandwidth :=
    play_tracks (fun _ => rfl) (fun _ => rfl) (fun _ => rfl) nofun
  close handle := by
    intro w t follows
    have longer := follows.add (x := .close handle) nofun
    exact ⟨rfl, longer, rfl⟩

-- The exchanges of queries with a script: whatever was opened is closed, and nothing is asked of a
-- device that is not there.
structure Accounted (s : Script) (xs : List (Exchange Nat)) : Prop where
  closings : xs.filter Exchange.isClose = (openedIn xs).map .close
  described : ∀ handle, .describe handle ∈ xs.map Exchange.call → handle < s.devices.length

theorem Accounted.append {xs ys : List (Exchange Nat)} (accounted : Accounted s xs)
    (accounted' : Accounted s ys) : Accounted s (xs ++ ys) := by
  constructor
  · rw [List.filter_append, accounted.closings, accounted'.closings, openedIn, openedIn, openedIn,
      List.filterMap_append, List.map_append]
  · intro handle member
    rw [List.map_append, List.mem_append] at member
    exact member.elim (accounted.described handle) (accounted'.described handle)

theorem answer_accounted (reason : Operation → String) (c : Configuration) (s : Script)
    (past : List (Exchange Nat)) :
    ∃ xs, answer ((Script.driver reason).recorded id) c (s, past)
          = ⟨(answer (Script.driver reason) c s).answer,
              ((answer (Script.driver reason) c s).state, past ++ xs),
              (answer (Script.driver reason) c s).events⟩
      ∧ answer (Script.driver reason) c s
          = ⟨(answer (Script.driver reason) c s.fresh).answer,
              { s with calls := s.calls ++ xs.map Exchange.call },
              (answer (Script.driver reason) c s.fresh).events⟩
      ∧ (answer (Script.driver reason) c s.fresh).state.calls = xs.map Exchange.call
      ∧ Accounted s xs := by
  obtain ⟨xs, recorded, -, orderly⟩ := answer_keeps_protocol (Script.driver reason) c s past
  have start : Follows s past (s, past) s.fresh := ⟨[], by simp, rfl, nofun⟩
  obtain ⟨same, ⟨ys, behind, alone, inside⟩, events⟩ :=
    answer_tracks (script_tracks reason s past) c _ _ start
  rw [recorded] at same behind events
  obtain ⟨state, exchanges⟩ := Prod.mk.inj behind
  obtain rfl : xs = ys := List.append_cancel_left exchanges
  refine ⟨xs, recorded, ?_, congrArg Script.calls alone, orderly.closings, ?_⟩
  · rw [← same, ← state, ← events]
  · intro handle member
    obtain ⟨x, asked, called⟩ := List.mem_map.mp member
    have held : x.handle? = some handle := by
      cases x <;> cases called
      rfl
    have opened := orderly.handles x asked handle held
    exact inside handle (opened ▸ List.mem_singleton_self handle)

theorem answer_appends (reason : Operation → String) (c : Configuration) :
    (answer (Script.driver reason) c).Appends := by
  intro s
  obtain ⟨xs, -, run, calls, -⟩ := answer_accounted reason c s []
  rw [calls]
  exact run

theorem publish_state {σ η ω : Type} (d : Driver σ η) (stream : Stream ω) (c : Configuration)
    (out : ω) (s : σ) : (publish d stream c out s).state = (answer d c s).state := by
  cases outcome : (answer d c s).answer with
  | error failure => rw [publish_error outcome]
  | ok text => rw [publish_ok outcome]

theorem publish_appends {ω : Type} (reason : Operation → String) (stream : Stream ω)
    (c : Configuration) (out : ω) : (publish (Script.driver reason) stream c out).Appends := by
  intro s
  have run := answer_appends reason c s
  have same := congrArg Device.Run.answer run
  cases outcome : (answer (Script.driver reason) c s.fresh).answer with
  | error failure =>
    rw [publish_error (same.trans outcome), publish_error outcome, run]
  | ok text =>
    rw [publish_ok (same.trans outcome), publish_ok outcome, run]

theorem mapM_accounted (reason : Operation → String) (cs : List Configuration) (s : Script)
    (past : List (Exchange Nat)) :
    ∃ xs, cs.mapM (answer ((Script.driver reason).recorded id)) (s, past)
          = ⟨(cs.mapM (answer (Script.driver reason)) s).answer,
              ((cs.mapM (answer (Script.driver reason)) s).state, past ++ xs),
              (cs.mapM (answer (Script.driver reason)) s).events⟩
      ∧ (cs.flatMap fun c => (answer (Script.driver reason) c s.fresh).state.calls)
          = xs.map Exchange.call
      ∧ Accounted s xs := by
  induction cs generalizing s past with
  | nil => exact ⟨[], by simp [Act.pure_apply], rfl, rfl, nofun⟩
  | cons c cs ih =>
    obtain ⟨xs, recorded, run, own, accounted⟩ := answer_accounted reason c s past
    obtain ⟨ys, recorded', own', accounted'⟩ :=
      ih (answer (Script.driver reason) c s).state (past ++ xs)
    refine ⟨xs ++ ys, ?_, ?_, ?_⟩
    · simp only [List.mapM_cons, Act.bind_apply, Act.pure_apply, recorded, recorded',
        List.append_assoc]
    · rw [run] at own'
      rw [List.flatMap_cons, List.map_append, own, ← own']
      rfl
    · rw [run] at accounted'
      exact accounted.append ⟨accounted'.closings, accounted'.described⟩

structure Repeats (act : ι → Act Script α) (s : Script) (is : List ι) : Prop where
  script : (is.mapM act s).state
    = { s with calls := s.calls ++ is.flatMap fun i => (act i s.fresh).state.calls }
  answers : (is.mapM act s).answer = is.map fun i => (act i s.fresh).answer
  again (i j : Nat) : is[i]? = is[j]? →
    (is.mapM act s).answer[i]? = (is.mapM act s).answer[j]?

theorem repeats_of_appends {act : ι → Act Script α} (appends : ∀ i, (act i).Appends) (s : Script)
    (is : List ι) : Repeats act s is := by
  have run := Device.mapM_appends appends is s
  refine ⟨congrArg Device.Run.state run, congrArg Device.Run.answer run, fun i j same => ?_⟩
  rw [congrArg Device.Run.answer run, List.getElem?_map, List.getElem?_map, same]

theorem Accounted.closes {xs : List (Exchange Nat)} (accounted : Accounted s xs) :
    Script.closes { s with calls := s.calls ++ xs.map Exchange.call }
      = s.closes + (openedIn xs).length := by
  have closed : (xs.filter Exchange.isClose).length = (openedIn xs).length := by
    rw [accounted.closings, List.length_map]
  rw [Script.closes, Script.closes, List.countP_append, List.countP_map, ← closed,
    ← List.countP_eq_length_filter]
  refine congrArg (_ + ·) (List.countP_congr fun x _ => ?_)
  cases x <;> exact Iff.rfl

-- What a sequence of queries comes to on a script. The exchanges of `accounted` are those that the
-- driver is recorded to make over the whole sequence, with what came of them.
structure Unaffected (reason : Operation → String) (s : Script) (cs : List Configuration) :
    Prop where
  asked : Repeats (answer (Script.driver reason)) s cs
  published {ω : Type} (stream : Stream ω) (runs : List (Configuration × ω)) :
    runs.map Prod.fst = cs →
      Repeats (fun run => publish (Script.driver reason) stream run.1 run.2) s runs
        ∧ (runs.mapM (fun run => publish (Script.driver reason) stream run.1 run.2) s).state
          = (cs.mapM (answer (Script.driver reason)) s).state
  accounted : ∃ xs,
    cs.mapM (answer ((Script.driver reason).recorded id)) (s, [])
        = ⟨(cs.mapM (answer (Script.driver reason)) s).answer,
            ((cs.mapM (answer (Script.driver reason)) s).state, xs),
            (cs.mapM (answer (Script.driver reason)) s).events⟩
      ∧ (cs.mapM (answer (Script.driver reason)) s).state.calls
        = s.calls ++ xs.map Exchange.call
      ∧ (cs.mapM (answer (Script.driver reason)) s).state.closes
        = s.closes + (openedIn xs).length
      ∧ ∀ handle, .describe handle ∈ xs.map Exchange.call → handle < s.devices.length

theorem queries_unaffected (reason : Operation → String) (s : Script) (cs : List Configuration) :
    Unaffected reason s cs := by
  have asked : Repeats (answer (Script.driver reason)) s cs :=
    repeats_of_appends (answer_appends reason) s cs
  refine ⟨asked, ?_, ?_⟩
  · rintro ω stream runs rfl
    have published := repeats_of_appends
      (fun run : Configuration × ω => publish_appends reason stream run.1 run.2) s runs
    refine ⟨published, ?_⟩
    rw [published.script, asked.script, List.flatMap_map]
    simp only [publish_state]
  · obtain ⟨xs, recorded, own, accounted⟩ := mapM_accounted reason cs s []
    have state := asked.script
    rw [own] at state
    refine ⟨xs, recorded, congrArg Script.calls state, ?_, accounted.described⟩
    rw [state]
    exact accounted.closes

end Query

end ModulatorInspector
