import Mathlib.Data.List.Basic
import ModulatorInspector.Files.Disk
import ModulatorInspector.Proofs.Files.Reading

namespace ModulatorInspector.Files

-- A name that is neither of the two steps which stay or go up, and that an entry can have.
structure IsProper (name : Name) : Prop where
  apart : name ≠ here
  below : name ≠ parent
  short : name.length ≤ longestName

namespace Tree

def entry? (t : Tree) (place : Location) (name : Name) : Option Node :=
  if t.node? place = some .directory then t.node? (place ++ [name]) else none

theorem entry?_eq_some_iff {t : Tree} {place : Location} {name : Name} {node : Node} :
    t.entry? place name = some node
      ↔ t.node? place = some .directory ∧ t.node? (place ++ [name]) = some node := by
  unfold entry?
  split <;> simp [*]

-- What a walk comes to, and what it comes to with this name as one more step.
inductive Stepped (t : Tree) (name : Name) : Except Fault Location → Except Fault Location → Prop
  where
  | failed (fault) : Stepped t name (.error fault) (.error fault)
  | missing (place fault) (absent : t.entry? place name = none) :
      Stepped t name (.ok place) (.error fault)
  | found (place node) (present : t.entry? place name = some node)
      (solid : ∀ target, node ≠ .link target) :
      Stepped t name (.ok place) (.ok (place ++ [name]))
  | linked (place target result) (present : t.entry? place name = some (.link target)) :
      Stepped t name (.ok place) result

variable {t : Tree} {name : Name} {follow : Location → List Name → Except Fault Location}

theorem advance_one (proper : IsProper name) (place : Location) :
    Stepped t name (.ok place) (t.advance follow place [name]) := by
  unfold advance
  cases inside : t.node? place with
  | none => exact .missing place _ (if_neg (by simp [inside]))
  | some node =>
    cases node with
    | directory =>
      have entry : t.entry? place name = t.node? (place ++ [name]) := if_pos inside
      dsimp only
      rw [if_neg proper.apart, if_neg proper.below, if_neg (Nat.not_lt.mpr proper.short)]
      cases there : t.node? (place ++ [name]) with
      | none => exact .missing place _ (entry.trans there)
      | some node =>
        cases node with
        | link target => exact .linked place target _ (entry.trans there)
        | _ => exact .found place _ (entry.trans there) (by simp)
    | _ => exact .missing place _ (if_neg (by simp [inside]))

theorem advance_stepped (proper : IsProper name)
    (followed : ∀ place steps, Stepped t name (follow place steps) (follow place (steps ++ [name])))
    (place : Location) (steps : List Name) :
    Stepped t name (t.advance follow place steps) (t.advance follow place (steps ++ [name])) := by
  induction steps generalizing place with
  | nil => exact advance_one proper place
  | cons step rest ih =>
    rw [List.cons_append]
    unfold advance
    split
    · exact .failed _
    · split
      · exact ih place
      · split
        · exact ih _
        · split
          · exact .failed _
          · split
            · exact .failed _
            · split
              · exact .failed _
              · rw [← List.append_assoc]
                exact followed _ _
            · exact ih _
    · exact .failed _

-- By induction on the links that may be followed: behind each, the walk goes on with one link less.
theorem walk_stepped (proper : IsProper name) (links : Nat) (place : Location) (steps : List Name) :
    Stepped t name (t.walk links place steps) (t.walk links place (steps ++ [name])) := by
  induction links generalizing place steps with
  | zero => exact advance_stepped proper (fun _ _ => .failed _) place steps
  | succ links ih => exact advance_stepped proper ih place steps

end Tree

def EndsIn (path : String) (name : Name) : Prop :=
  ∀ route, Route.ofText path = .ok route → route.steps.getLast? = some name

namespace Disk

def entry? (d : Disk) (path : String) : Option Node :=
  match Route.ofText path with
  | .error _ => none
  | .ok route =>
      match d.tree.walk mostLinks (d.start route) route.steps.dropLast, route.steps.getLast? with
      | .ok place, some name => d.tree.entry? place name
      | _, _ => none

-- How what stands under the last name of a path decides where the path leads. Of a link alone it
-- does not tell.
inductive Leads (d : Disk) (path : String) : Option Node → Prop where
  | nowhere (fault) (lost : d.find path = .error fault) : Leads d path none
  | there (place node) (solid : ∀ target, node ≠ .link target)
      (found : d.find path = .ok (place, node)) : Leads d path (some node)
  | somewhere (target) : Leads d path (some (.link target))

variable {d : Disk} {path : String} {name : Name}

theorem entry?_leads (proper : IsProper name) (ends : EndsIn path name) :
    d.Leads path (d.entry? path) := by
  unfold entry?
  cases read : Route.ofText path with
  | error fault =>
    refine .nowhere fault ?_
    rw [find, locate, read]
  | ok route =>
    have last := ends route read
    have whole : route.steps.dropLast ++ [name] = route.steps :=
      List.dropLast_append_getLast? name last
    have located : d.locate path = d.tree.walk mostLinks (d.start route) route.steps := by
      rw [locate, read]
    have stepped := d.tree.walk_stepped proper mostLinks (d.start route) route.steps.dropLast
    rw [whole, ← located] at stepped
    dsimp only
    rw [last]
    generalize d.tree.walk mostLinks (d.start route) route.steps.dropLast = before at stepped
    generalize outcome : d.locate path = after at stepped
    cases stepped with
    | failed fault =>
      refine .nowhere fault ?_
      rw [find, outcome]
    | missing place fault absent =>
      dsimp only
      rw [absent]
      refine .nowhere fault ?_
      rw [find, outcome]
    | found place node present solid =>
      dsimp only
      rw [present]
      refine .there (place ++ [name]) node solid ?_
      rw [find, outcome]
      dsimp only
      rw [(Tree.entry?_eq_some_iff.mp present).2]
    | linked place target result present =>
      dsimp only
      rw [present]
      exact .somewhere target

end Disk

variable {part : String} {bytes back : List UInt8}

theorem segments_ne_nil (bytes : List UInt8) : segments bytes ≠ [] := by
  cases bytes with
  | nil => exact nofun
  | cons b rest =>
    unfold segments
    split
    · exact nofun
    · split <;> exact nofun

theorem segments_append (front back : List UInt8) :
    segments (front ++ slash :: back) = segments front ++ segments back := by
  induction front with
  | nil => exact if_pos rfl
  | cons b rest ih =>
    obtain ⟨first, more, parts⟩ := List.exists_cons_of_ne_nil (segments_ne_nil rest)
    rw [List.cons_append, segments, segments, ih, parts]
    split <;> rfl

theorem segments_of_notMem (unbroken : slash ∉ back) : segments back = [back] := by
  induction back with
  | nil => rfl
  | cons b rest ih =>
    rw [List.mem_cons, not_or] at unbroken
    rw [segments, if_neg (Ne.symm unbroken.1), ih unbroken.2]

theorem getLast?_steps (whole : bytes = back ∨ ∃ front, bytes = front ++ slash :: back)
    (nonempty : back ≠ []) (unbroken : slash ∉ back) :
    (Route.ofBytes bytes).steps.getLast? = some back := by
  obtain ⟨earlier, parts⟩ : ∃ earlier, segments bytes = earlier ++ [back] := by
    rcases whole with rfl | ⟨front, rfl⟩
    · exact ⟨[], segments_of_notMem unbroken⟩
    · exact ⟨segments front, by rw [segments_append, segments_of_notMem unbroken]⟩
  have ended : bytes.getLast? ≠ some slash := by
    have same : bytes.getLast? = back.getLast? := by
      rcases whole with rfl | ⟨front, rfl⟩
      · rfl
      · rw [List.append_cons, List.getLast?_append_of_ne_nil _ nonempty]
    rw [same]
    intro last
    exact unbroken (List.mem_of_getLast? last)
  rw [Route.ofBytes, parts]
  dsimp only
  rw [if_neg ended, List.append_nil, List.filter_append]
  simp [nonempty]

theorem bytes_join (base part : String) :
    Utf8.bytes (join base part) = Utf8.bytes part
      ∨ ∃ front, Utf8.bytes (join base part) = front ++ slash :: Utf8.bytes part := by
  unfold join
  split
  · exact .inl rfl
  · split
    · rename_i closed
      have parted : base = String.ofList base.toList.dropLast ++ "/" := by
        rw [← String.toList_inj, String.toList_append, String.toList_ofList]
        exact (List.dropLast_append_getLast? _ (eq_of_beq closed)).symm
      refine .inr ⟨Utf8.bytes (String.ofList base.toList.dropLast), ?_⟩
      rw [Utf8.bytes_append]
      nth_rewrite 1 [parted]
      rw [Utf8.bytes_append, List.append_assoc]
      rfl
    · refine .inr ⟨Utf8.bytes base, ?_⟩
      rw [Utf8.bytes_append, Utf8.bytes_append, List.append_assoc]
      rfl

theorem endsIn_join (base : String) (nonempty : Utf8.bytes part ≠ [])
    (unbroken : slash ∉ Utf8.bytes part) : EndsIn (join base part) (Utf8.bytes part) := by
  intro route read
  unfold Route.ofText at read
  dsimp only at read
  split at read
  · cases read
  · split at read
    · cases read
    · split at read
      · cases read
      · cases read
        exact getLast?_steps (bytes_join base part) nonempty unbroken

end ModulatorInspector.Files
