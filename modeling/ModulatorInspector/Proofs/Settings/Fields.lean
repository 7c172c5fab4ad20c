import Mathlib.Data.List.Induction
import ModulatorInspector.Proofs.Bandwidth
import ModulatorInspector.Proofs.Files.Reading
import ModulatorInspector.Proofs.Success
import ModulatorInspector.Proofs.Toml.Entries
import ModulatorInspector.Settings

namespace ModulatorInspector

namespace SettingKey

def Setting : SettingKey → Type
  | .deviceDirectory | .sysfsDirectory | .devicePrefix => String
  | .frequency => Option UInt64
  | .bandwidth => Option Bandwidth

-- Zero is a frequency here.
def Means : (key : SettingKey) → Toml.Item → key.Setting → Prop
  | .deviceDirectory, item, text | .sysfsDirectory, item, text | .devicePrefix, item, text =>
      item = .string text
  | .frequency, item, setting => ∃ hz : UInt64, item = .integer hz.toNat ∧ some hz = setting
  | .bandwidth, item, setting => ∃ b : Bandwidth, item = .integer b.mhz ∧ some b = setting

theorem name_injective : Function.Injective name := by
  intro key other same
  cases key <;> cases other <;> first | rfl | exact absurd same (by decide)

theorem ofName?_eq_some_iff {text : String} {key : SettingKey} :
    ofName? text = some key ↔ text = key.name := by
  constructor
  · intro found
    have named := List.find?_some (p := fun key : SettingKey => decide (key.name = text)) found
    exact (of_decide_eq_true named).symm
  · rintro rfl
    cases key <;> decide

end SettingKey

namespace Settings

open SettingKey (Means)
open Toml (Entries Entry Item)

def field (s : Settings) : (key : SettingKey) → key.Setting
  | .deviceDirectory => s.deviceDirectory
  | .sysfsDirectory => s.sysfsDirectory
  | .devicePrefix => s.devicePrefix
  | .frequency => s.frequency
  | .bandwidth => s.bandwidth

def put (s : Settings) : (key : SettingKey) → key.Setting → Settings
  | .deviceDirectory, path => { s with deviceDirectory := path }
  | .sysfsDirectory, path => { s with sysfsDirectory := path }
  | .devicePrefix, text => { s with devicePrefix := text }
  | .frequency, hz => { s with frequency := hz }
  | .bandwidth, b => { s with bandwidth := b }

variable {s t : Settings} {key other : SettingKey} {item : Item} {entry : Entry}
  {entries : Entries} {text : String} {limit n : Nat}

theorem field_put (s : Settings) (key : SettingKey) (v : key.Setting) :
    (s.put key v).field key = v := by
  cases key <;> rfl

theorem field_put_of_ne (s : Settings) (v : key.Setting) (apart : other ≠ key) :
    (s.put key v).field other = s.field other := by
  cases key <;> cases other <;> first | rfl | exact absurd rfl apart

theorem textOf_eq_ok_iff : textOf key item = .ok text ↔ item = .string text := by
  unfold textOf
  cases item <;> simp

theorem naturalOf_eq_ok_iff :
    naturalOf key limit item = .ok n ↔ item = .integer n ∧ n ≤ limit := by
  unfold naturalOf
  cases item with
  | integer value =>
    simp only [Item.integer.injEq]
    constructor
    · intro accepted
      split at accepted
      · rename_i within
        cases accepted
        omega
      · cases accepted
    · rintro ⟨rfl, within⟩
      rw [if_pos (by omega), Int.toNat_natCast]
  | _ => simp

theorem bandwidthOf_eq_ok_iff {b : Bandwidth} :
    bandwidthOf item = .ok b ↔ item = .integer b.mhz := by
  unfold bandwidthOf
  rw [bind_eq_ok_iff]
  constructor
  · rintro ⟨width, read, accepted⟩
    split at accepted
    · rename_i found
      cases accepted
      rw [(naturalOf_eq_ok_iff.mp read).1, Bandwidth.ofMhz?_eq_some_iff.mp found]
    · cases accepted
  · rintro rfl
    refine ⟨b.mhz, naturalOf_eq_ok_iff.mpr ⟨rfl, ?_⟩, ?_⟩
    · cases b <;> decide
    · rw [Bandwidth.ofMhz?_eq_some_iff.mpr rfl]

theorem frequencyOf_eq_ok_iff {hz : UInt64} :
    (naturalOf .frequency Numeral.greatest64 item).map Nat.toUInt64 = .ok hz
      ↔ item = .integer hz.toNat := by
  rw [map_eq_ok_iff]
  constructor
  · rintro ⟨n, accepted, rfl⟩
    obtain ⟨rfl, within⟩ := naturalOf_eq_ok_iff.mp accepted
    have same : n.toUInt64.toNat = n := UInt64.toNat_ofNat_of_lt' (Nat.lt_succ_of_le within)
    rw [same]
  · rintro rfl
    exact ⟨hz.toNat, naturalOf_eq_ok_iff.mpr ⟨rfl, Nat.le_of_lt_succ hz.toNat_lt⟩,
      UInt64.ofNat_toNat⟩

theorem assign_eq_ok_iff :
    s.assign key item = .ok t ↔ ∃ v, Means key item v ∧ s.put key v = t := by
  cases key with
  | deviceDirectory => simp only [assign, map_eq_ok_iff, textOf_eq_ok_iff]; rfl
  | sysfsDirectory => simp only [assign, map_eq_ok_iff, textOf_eq_ok_iff]; rfl
  | devicePrefix => simp only [assign, map_eq_ok_iff, textOf_eq_ok_iff]; rfl
  | frequency =>
    have staged : s.assign .frequency item
        = ((naturalOf .frequency Numeral.greatest64 item).map Nat.toUInt64).map
          fun hz => { s with frequency := some hz } := by
      rw [assign]
      cases naturalOf .frequency Numeral.greatest64 item <;> rfl
    simp only [staged, map_eq_ok_iff (f := fun hz : UInt64 => _), frequencyOf_eq_ok_iff]
    constructor
    · rintro ⟨hz, same, rfl⟩
      exact ⟨some hz, ⟨hz, same, rfl⟩, rfl⟩
    · rintro ⟨_, ⟨hz, same, rfl⟩, rfl⟩
      exact ⟨hz, same, rfl⟩
  | bandwidth =>
    simp only [assign, map_eq_ok_iff, bandwidthOf_eq_ok_iff]
    constructor
    · rintro ⟨b, same, rfl⟩
      exact ⟨some b, ⟨b, same, rfl⟩, rfl⟩
    · rintro ⟨_, ⟨b, same, rfl⟩, rfl⟩
      exact ⟨b, same, rfl⟩

theorem assignEntry_eq_ok_iff : s.assignEntry entry = .ok t ↔
    ∃ key, entry.1.text = key.name ∧ ∃ v, Means key entry.2.2 v ∧ s.put key v = t := by
  unfold assignEntry
  constructor
  · intro accepted
    split at accepted
    · cases accepted
    · rename_i key named
      exact ⟨key, SettingKey.ofName?_eq_some_iff.mp named,
        assign_eq_ok_iff.mp (mapError_eq_ok_iff.mp accepted)⟩
  · rintro ⟨key, named, assigned⟩
    rw [SettingKey.ofName?_eq_some_iff.mpr named]
    exact mapError_eq_ok_iff.mpr (assign_eq_ok_iff.mpr assigned)

-- Every entry is of some key, whose value it is; a key without an entry is left as it was.
structure Holds (s : Settings) (entries : Entries) : Prop where
  given : ∀ entry ∈ entries, ∃ key : SettingKey,
    entry.1.text = key.name ∧ Means key entry.2.2 (s.field key)
  unset : ∀ key : SettingKey, key.name ∉ entries.names → s.field key = standard.field key

theorem Holds.means (holds : s.Holds entries) (member : entry ∈ entries)
    (named : entry.1.text = key.name) : Means key entry.2.2 (s.field key) := by
  obtain ⟨other, named', means⟩ := holds.given entry member
  cases SettingKey.name_injective (named.symm.trans named')
  exact means

theorem holds_standard : standard.Holds [] := ⟨nofun, fun _ _ => rfl⟩

-- One step: a new entry settles its key, and no other.
theorem Holds.assignEntry (holds : s.Holds entries) (new : entry.1.text ∉ entries.names)
    (assigned : s.assignEntry entry = .ok t) : t.Holds (entries ++ [entry]) := by
  obtain ⟨key, named, v, means, rfl⟩ := assignEntry_eq_ok_iff.mp assigned
  constructor
  · intro earlier member
    rcases List.mem_append.mp member with earlier_member | last
    · obtain ⟨other, named', means'⟩ := holds.given earlier earlier_member
      have apart : other ≠ key := by
        rintro rfl
        exact new (List.mem_map.mpr ⟨earlier, earlier_member, named'.trans named.symm⟩)
      refine ⟨other, named', ?_⟩
      rwa [field_put_of_ne s v apart]
    · cases List.mem_singleton.mp last
      refine ⟨key, named, ?_⟩
      rwa [field_put]
  · intro other absent
    rw [Entries.names, List.map_append, List.mem_append, not_or] at absent
    have apart : other ≠ key := by
      rintro rfl
      exact absent.2 (List.mem_singleton.mpr named.symm)
    rw [field_put_of_ne s v apart]
    exact holds.unset other absent.1

theorem holds_of_ofEntries (distinct : entries.Distinct) (accepted : ofEntries entries = .ok s) :
    s.Holds entries := by
  induction entries using List.reverseRecOn generalizing s with
  | nil =>
    cases accepted
    exact holds_standard
  | append_singleton entries entry ih =>
    obtain ⟨new, distinct⟩ := Entries.distinct_append_one.mp distinct
    rw [ofEntries, List.foldlM_append] at accepted
    obtain ⟨before, accepted_before, accepted_last⟩ := bind_eq_ok_iff.mp accepted
    rw [List.foldlM_cons] at accepted_last
    obtain ⟨after, assigned, last⟩ := bind_eq_ok_iff.mp accepted_last
    cases last
    exact (ih distinct accepted_before).assignEntry new assigned

-- The settings file of the directory is a document that gives the key this item.
def Says (disk : Files.Disk) (directory : String) (key : SettingKey) (item : Item) : Prop :=
  ∃ text entries, disk.Holds (Files.join directory fileName) text
    ∧ Toml.document? text.toList = some entries
    ∧ ∃ entry ∈ entries, entry.1.text = key.name ∧ entry.2.2 = item

structure Follows (s : Settings) (disk : Files.Disk) (directory : String) : Prop where
  said : ∀ key item, Says disk directory key item → Means key item (s.field key)
  unsaid : ∀ key, (∀ item, ¬Says disk directory key item) → s.field key = standard.field key

variable {disk : Files.Disk} {directory path : String} {loaded : Loaded}

theorem holds_of_ofText (accepted : ofText path text = .ok s) :
    ∃ entries, Toml.document? text.toList = some entries ∧ s.Holds entries := by
  unfold ofText at accepted
  dsimp only at accepted
  split at accepted
  · cases accepted
  · rename_i entries read
    exact ⟨entries, read,
      holds_of_ofEntries (Toml.document?_distinct read) (mapError_eq_ok_iff.mp accepted)⟩

theorem follows_of_holds (held : disk.Holds (Files.join directory fileName) text)
    (read : Toml.document? text.toList = some entries) (holds : s.Holds entries) :
    s.Follows disk directory := by
  constructor
  · rintro key item ⟨text', entries', held', read', entry, member, named, rfl⟩
    have same_text : text' = text := by
      rw [← Files.Disk.readText_eq_ok_iff] at held held'
      exact Except.ok.inj (held'.symm.trans held)
    subst same_text
    have same_entries : entries' = entries := Option.some.inj (read'.symm.trans read)
    subst same_entries
    exact holds.means member named
  · intro key nowhere
    apply holds.unset
    intro member
    obtain ⟨entry, member, named⟩ := List.mem_map.mp member
    exact nowhere entry.2.2 ⟨text, entries, held, read, entry, member, named, rfl⟩

theorem follows_without_file (absent : disk.isFile (Files.join directory fileName) = false) :
    standard.Follows disk directory := by
  constructor
  · rintro key item ⟨text, entries, ⟨place, found⟩, _⟩
    rw [Files.Disk.isFile, found] at absent
    cases absent
  · intro key nowhere
    rfl

theorem follows_of_load (accepted : load disk directory = .ok loaded) :
    loaded.settings.Follows disk directory := by
  unfold load at accepted
  dsimp only at accepted
  split at accepted
  · split at accepted
    · cases accepted
    · rename_i text held
      obtain ⟨s, given, rfl⟩ := map_eq_ok_iff.mp accepted
      obtain ⟨entries, read, holds⟩ := holds_of_ofText given
      exact follows_of_holds (Files.Disk.readText_eq_ok_iff.mp held) read holds
  · rename_i absent
    cases accepted
    exact follows_without_file (Bool.eq_false_iff.mpr absent)

end Settings

end ModulatorInspector
