import Mathlib.Data.List.Basic
import Mathlib.Data.List.Perm.Basic
import ModulatorInspector.Files.Disk
import ModulatorInspector.Text.Lossy

namespace ModulatorInspector.Utf8

theorem text?_eq_some_iff {encoded : List UInt8} {text : String} :
    text? encoded = some text ↔ encoded = bytes text := by
  constructor
  · intro read
    unfold text? String.fromUTF8? at read
    split at read
    · cases read; rfl
    · cases read
  · rintro rfl
    have whole : (⟨(bytes text).toArray⟩ : ByteArray) = text.toByteArray := rfl
    rw [text?, whole, String.fromUTF8?, dif_pos text.isValidUTF8]
    rfl

theorem bytes_injective {text other : String} (same : bytes text = bytes other) : text = other := by
  have read := text?_eq_some_iff.mpr same
  rw [text?_eq_some_iff.mpr rfl] at read
  exact Option.some.inj read

theorem bytes_append (first second : String) :
    bytes (first ++ second) = bytes first ++ bytes second := by
  simp [bytes]

end ModulatorInspector.Utf8

namespace ModulatorInspector.Files

-- The same entries, delivered in another order.
structure Disk.Reordered (d e : Disk) : Prop where
  entries : d.tree.nodes.Perm e.tree.nodes
  workingDirectory : d.workingDirectory = e.workingDirectory

namespace Tree

theorem node?_eq_some_iff {t : Tree} {spot : Location} {node : Node} (below : spot ≠ []) :
    t.node? spot = some node ↔ (spot, node) ∈ t.nodes := by
  have distinct := t.distinct
  rw [node?, if_neg below]
  generalize t.nodes = nodes at distinct ⊢
  induction nodes with
  | nil => simp
  | cons entry rest ih =>
    obtain ⟨place, held⟩ := entry
    rw [List.map_cons, List.nodup_cons] at distinct
    by_cases here : place = spot
    · subst here
      have once : (place, node) ∉ rest := fun member =>
        distinct.1 (List.mem_map.mpr ⟨_, member, rfl⟩)
      simp [once, eq_comm]
    · simp [here, ih distinct.2, Ne.symm here]

theorem node?_eq_of_perm {t u : Tree} (same : t.nodes.Perm u.nodes) : t.node? = u.node? := by
  funext spot
  by_cases root : spot = []
  · rw [node?, node?, if_pos root, if_pos root]
  · apply Option.ext
    intro node
    rw [node?_eq_some_iff root, node?_eq_some_iff root, same.mem_iff]

theorem advance_congr {t u : Tree} (same : t.node? = u.node?)
    (follow : Location → List Name → Except Fault Location) (place : Location)
    (steps : List Name) : t.advance follow place steps = u.advance follow place steps := by
  induction steps generalizing place with
  | nil => rfl
  | cons step rest ih => simp only [advance, same, ih]

theorem walk_congr {t u : Tree} (same : t.node? = u.node?) (links : Nat) :
    t.walk links = u.walk links := by
  induction links with
  | zero => funext place steps; exact advance_congr same _ place steps
  | succ links ih => funext place steps; rw [walk, walk, ih]; exact advance_congr same _ place steps

theorem children_nodup (t : Tree) (parent : Location) : (t.children parent).Nodup := by
  have distinct := List.pairwise_map.mp t.distinct
  refine List.Pairwise.filterMap _ ?_ distinct
  intro a b differ name first other second same
  obtain ⟨inside, last⟩ := Option.ite_none_right_eq_some.mp first
  obtain ⟨inside', last'⟩ := Option.ite_none_right_eq_some.mp second
  apply differ
  rw [← List.dropLast_append_getLast? _ last, ← List.dropLast_append_getLast? _ last', inside,
    inside', same]

end Tree

namespace Disk.Reordered

variable {d e : Disk}

theorem find_eq (same : d.Reordered e) (path : String) : d.find path = e.find path := by
  have nodes := Tree.node?_eq_of_perm same.entries
  simp only [find, locate, start, same.workingDirectory, nodes, Tree.walk_congr nodes]

theorem readText_eq (same : d.Reordered e) (path : String) : d.readText path = e.readText path := by
  rw [readText, readText, same.find_eq]

theorem list_eq (same : d.Reordered e) (path : String) :
    (∃ fault, d.list path = .error fault ∧ e.list path = .error fault) ∨
    ∃ names names', d.list path = .ok names ∧ e.list path = .ok names' ∧ names.Perm names' := by
  have found := same.find_eq path
  unfold Disk.list
  rw [← found]
  cases d.find path with
  | error fault => exact .inl ⟨fault, rfl, rfl⟩
  | ok entry =>
    obtain ⟨place, node⟩ := entry
    cases node with
    | directory => exact .inr ⟨_, _, rfl, rfl, same.entries.filterMap _⟩
    | file content => exact .inl ⟨_, rfl, rfl⟩
    | unreadable fault => exact .inl ⟨_, rfl, rfl⟩
    | link target => exact .inl ⟨_, rfl, rfl⟩
    | refusing fault => exact .inl ⟨fault, rfl, rfl⟩

end Disk.Reordered

theorem Disk.list_nodup {d : Disk} {path : String} {names : List Name}
    (listed : d.list path = .ok names) : names.Nodup := by
  unfold Disk.list at listed
  split at listed
  · cases listed
  · cases listed; exact d.tree.children_nodup _
  · cases listed
  · cases listed

namespace Disk

-- The path leads to a file, whatever links it takes, and the file can be read and holds this text.
def Holds (disk : Disk) (path text : String) : Prop :=
  ∃ place, disk.find path = .ok (place, .file (Utf8.bytes text))

theorem readText_eq_ok_iff {disk : Disk} {path text : String} :
    disk.readText path = .ok text ↔ disk.Holds path text := by
  unfold readText Holds
  cases disk.find path with
  | error fault => exact ⟨nofun, fun ⟨_, found⟩ => nomatch found⟩
  | ok entry =>
    obtain ⟨place, node⟩ := entry
    cases node with
    | file content =>
      simp only [Except.ok.injEq, Prod.mk.injEq, Node.file.injEq, exists_eq_left',
        ← Utf8.text?_eq_some_iff]
      cases Utf8.text? content <;> simp
    | unreadable fault => exact ⟨nofun, fun ⟨_, found⟩ => nomatch found⟩
    | directory => exact ⟨nofun, fun ⟨_, found⟩ => nomatch found⟩
    | link target => exact ⟨nofun, fun ⟨_, found⟩ => nomatch found⟩
    | refusing fault => exact ⟨nofun, fun ⟨_, found⟩ => nomatch found⟩

theorem isFile_eq_true_iff {disk : Disk} {path : String} :
    disk.isFile path = true
      ↔ ∃ place node, disk.find path = .ok (place, node) ∧ node.isFile = true := by
  unfold isFile
  constructor
  · intro regular
    split at regular
    · cases regular
    · rename_i place node found
      exact ⟨place, node, found, regular⟩
  · intro regular
    obtain ⟨place, node, found, regular⟩ := regular
    rw [found]
    exact regular

theorem readText_of_find {disk : Disk} {path : String} {place : Location} {content : List UInt8}
    (found : disk.find path = .ok (place, .file content)) :
    disk.readText path = match Utf8.text? content with
      | some text => .ok text
      | none => .error .notText := by
  cases decoded : Utf8.text? content <;> simp [readText, found, decoded]

theorem readText_of_unreadable {disk : Disk} {path : String} {place : Location} {fault : Fault}
    (found : disk.find path = .ok (place, .unreadable fault)) :
    disk.readText path = .error fault := by
  rw [readText, found]

def ReadsAlike (disk other : Disk) (path : String) : Prop :=
  ∀ text, disk.Holds path text ↔ other.Holds path text

-- Both list the same names, in whatever order, or fail alike.
inductive ListsAlike (disk other : Disk) (path : String) : Prop where
  | failed (fault) (refused : disk.list path = .error fault)
      (refused' : other.list path = .error fault)
  | listed (names names') (given : disk.list path = .ok names) (given' : other.list path = .ok names')
      (same : ∀ name, name ∈ names ↔ name ∈ names')

theorem perm_of_same_names {disk other : Disk} {path : String} {names names' : List Name}
    (given : disk.list path = .ok names) (given' : other.list path = .ok names')
    (same : ∀ name, name ∈ names ↔ name ∈ names') : names.Perm names' :=
  (List.perm_ext_iff_of_nodup (list_nodup given) (list_nodup given')).mpr same

end Disk

end ModulatorInspector.Files
