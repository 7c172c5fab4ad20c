import ModulatorInspector.Proofs.Files.Entry
import ModulatorInspector.Proofs.Settings.Acceptance

namespace ModulatorInspector.Settings

open Files (Disk Fault IsProper Node join)

def PassedOver (disk : Disk) (directory : String) : Prop :=
  load disk directory = .ok ⟨standard, join directory fileName, false⟩

-- Something stands under the name and gives no text, and the settings are the standard ones.
structure Overlooked (disk : Disk) (directory : String) : Prop where
  present : ∃ node, disk.entry? (join directory fileName) = some node
  unreadable : ∃ fault, disk.readText (join directory fileName) = .error fault
  passed : PassedOver disk directory

-- The path leads to a regular file, and what that file holds or answers decides.
inductive Asked (disk : Disk) (directory : String) : Prop where
  | content (place content)
      (found : disk.find (join directory fileName) = .ok (place, .file content))
      (taken : load disk directory = ofContent (join directory fileName) content)
  | refused (place fault)
      (found : disk.find (join directory fileName) = .ok (place, .unreadable fault))
      (reported : load disk directory = .error (.unreadable (join directory fileName) fault))

-- Why a regular file gives no text.
inductive Untold : Node → Fault → Prop where
  | refused (fault) : Untold (.unreadable fault) fault
  | notText (content) (undecoded : Utf8.text? content = none) : Untold (.file content) .notText

variable {disk : Disk} {directory path path' text : String} {content : List UInt8} {fault : Fault}
  {loaded : Loaded} {node : Node}

theorem isProper_fileName : IsProper (Utf8.bytes fileName) where
  apart := by decide
  below := by decide
  short := by decide

theorem entry?_leads (disk : Disk) (directory : String) :
    disk.Leads (join directory fileName) (disk.entry? (join directory fileName)) :=
  Disk.entry?_leads isProper_fileName (Files.endsIn_join directory (by decide) (by decide))

theorem fromFile_of_ofContent (accepted : ofContent path content = .ok loaded) :
    loaded.fromFile = true := by
  unfold ofContent at accepted
  split at accepted
  · obtain ⟨s, _, rfl⟩ := map_eq_ok_iff.mp accepted
    rfl
  · cases accepted

theorem ofText_ne_unreadable : ofText path text ≠ .error (.unreadable path' fault) := by
  unfold ofText
  dsimp only
  split
  · exact nofun
  · cases ofEntries _ with
    | ok s => exact nofun
    | error refusal => exact nofun

theorem ofContent_eq_unreadable_iff : ofContent path content = .error (.unreadable path' fault)
    ↔ path = path' ∧ fault = .notText ∧ Utf8.text? content = none := by
  unfold ofContent
  split
  · rename_i text decoded
    have other : ofText path text ≠ .error (.unreadable path' fault) := ofText_ne_unreadable
    cases given : ofText path text with
    | ok s => simp [decoded, Except.map]
    | error refusal =>
      rw [given] at other
      simpa [decoded, Except.map] using other
  · rename_i undecoded
    simp [undecoded, eq_comm]

theorem load_of_unreadable {place : Files.Location}
    (found : disk.find (join directory fileName) = .ok (place, .unreadable fault)) :
    load disk directory = .error (.unreadable (join directory fileName) fault) := by
  unfold load
  dsimp only
  rw [if_pos (Disk.isFile_eq_true_iff.mpr ⟨place, _, found, rfl⟩), Disk.readText_of_unreadable found]

theorem passedOver_of_absent (absent : ¬disk.isFile (join directory fileName) = true) :
    PassedOver disk directory := by
  unfold PassedOver load
  dsimp only
  rw [if_neg absent]

theorem asked_of_isFile {place : Files.Location}
    (found : disk.find (join directory fileName) = .ok (place, node)) (regular : node.isFile = true) :
    Asked disk directory := by
  cases node with
  | file content => exact .content place content found (load_of_find found)
  | unreadable fault => exact .refused place fault found (load_of_unreadable found)
  | directory => cases regular
  | link target => cases regular
  | refusing fault => cases regular

theorem passedOver_or_asked (disk : Disk) (directory : String) :
    PassedOver disk directory ∨ Asked disk directory := by
  by_cases present : disk.isFile (join directory fileName) = true
  · obtain ⟨place, node, found, regular⟩ := Disk.isFile_eq_true_iff.mp present
    exact .inr (asked_of_isFile found regular)
  · exact .inl (passedOver_of_absent present)

theorem Asked.not_passedOver (asked : Asked disk directory) : ¬PassedOver disk directory := by
  intro passed
  rw [PassedOver] at passed
  cases asked with
  | content place content found taken =>
    rw [taken] at passed
    cases fromFile_of_ofContent passed
  | refused place fault found reported =>
    rw [reported] at passed
    cases passed

theorem passedOver_iff : PassedOver disk directory
    ↔ ∀ place node, disk.find (join directory fileName) = .ok (place, node) →
      node.isFile = false := by
  constructor
  · intro passed place node found
    apply Bool.eq_false_iff.mpr
    intro regular
    exact (asked_of_isFile found regular).not_passedOver passed
  · intro other
    apply passedOver_of_absent
    intro present
    obtain ⟨place, node, found, regular⟩ := Disk.isFile_eq_true_iff.mp present
    rw [other place node found] at regular
    cases regular

theorem load_eq_unreadable_iff : load disk directory = .error (.unreadable path fault)
    ↔ join directory fileName = path
      ∧ ∃ place node, disk.find (join directory fileName) = .ok (place, node) ∧ Untold node fault := by
  constructor
  · intro reported
    rcases passedOver_or_asked disk directory with passed | asked
    · rw [passed] at reported
      cases reported
    · cases asked with
      | content place content found taken =>
        rw [taken] at reported
        obtain ⟨same, rfl, undecoded⟩ := ofContent_eq_unreadable_iff.mp reported
        exact ⟨same, place, _, found, .notText content undecoded⟩
      | refused place fault' found reported' =>
        rw [reported'] at reported
        cases reported
        exact ⟨rfl, place, _, found, .refused fault⟩
  · intro described
    obtain ⟨rfl, place, node, found, untold⟩ := described
    cases untold with
    | refused => exact load_of_unreadable found
    | notText content undecoded =>
      rw [load_of_find found]
      exact ofContent_eq_unreadable_iff.mpr ⟨rfl, rfl, undecoded⟩

theorem PassedOver.overlooked (passed : PassedOver disk directory)
    (present : disk.entry? (join directory fileName) = some node) : Overlooked disk directory := by
  refine ⟨⟨node, present⟩, ?_, passed⟩
  cases read : disk.readText (join directory fileName) with
  | error fault => exact ⟨fault, rfl⟩
  | ok text =>
    obtain ⟨place, found⟩ := Disk.readText_eq_ok_iff.mp read
    cases passedOver_iff.mp passed place _ found

-- What becomes of the settings, by what stands under the name of their file.
structure ByEntry (disk : Disk) (directory : String) : Prop where
  passed : PassedOver disk directory
    ↔ ∀ place node, disk.find (join directory fileName) = .ok (place, node) → node.isFile = false
  unread : ∀ loaded, load disk directory = .ok loaded → loaded.fromFile = false →
    PassedOver disk directory
  nothing : disk.entry? (join directory fileName) = none → PassedOver disk directory
  file : ∀ content, disk.entry? (join directory fileName) = some (.file content) →
    load disk directory = ofContent (join directory fileName) content
  unreadable : ∀ fault, disk.entry? (join directory fileName) = some (.unreadable fault) →
    load disk directory = .error (.unreadable (join directory fileName) fault)
  link : ∀ target, disk.entry? (join directory fileName) = some (.link target) →
    Overlooked disk directory ∨ Asked disk directory
  other : ∀ node, disk.entry? (join directory fileName) = some node → node.isFile = false →
    (∀ target, node ≠ .link target) → Overlooked disk directory
  refused : ∀ path fault, load disk directory = .error (.unreadable path fault)
    ↔ join directory fileName = path
      ∧ ∃ place node, disk.find (join directory fileName) = .ok (place, node) ∧ Untold node fault

theorem find_of_entry? (present : disk.entry? (join directory fileName) = some node)
    (solid : ∀ target, node ≠ .link target) :
    ∃ place, disk.find (join directory fileName) = .ok (place, node) := by
  have leads := entry?_leads disk directory
  rw [present] at leads
  cases leads with
  | there place _ _ found => exact ⟨place, found⟩
  | somewhere target => exact absurd rfl (solid target)

example : load (entryDisk (.unreadable (.other "Permission denied" 13))) "conf"
    = .error (.unreadable "conf/config.toml" (.other "Permission denied" 13)) := rfl

end ModulatorInspector.Settings
