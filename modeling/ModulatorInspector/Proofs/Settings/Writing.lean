import ModulatorInspector.Proofs.Settings.Acceptance
import ModulatorInspector.Proofs.Toml.Lines

namespace ModulatorInspector

open Toml (Entries Entry Item IsBare Lines Writes linesText)

namespace SettingKey

theorem mem_all (key : SettingKey) : key ∈ all := by cases key <;> decide

theorem isBare_name (key : SettingKey) : IsBare key.name := by
  cases key <;> exact ⟨by decide, List.all_eq_true.mp (by decide)⟩

end SettingKey

namespace Settings

open Files (Disk join)
open SettingKey (Means)

variable {s t : Settings} {entries : Entries} {key : SettingKey} {item : Item}
  {lines : List (String × Item)} {text directory : String} {disk : Disk}

def item? (s : Settings) : SettingKey → Option Item
  | .deviceDirectory => some (.string s.deviceDirectory)
  | .sysfsDirectory => some (.string s.sysfsDirectory)
  | .devicePrefix => some (.string s.devicePrefix)
  | .frequency => s.frequency.map fun hz => .integer hz.toNat
  | .bandwidth => s.bandwidth.map fun b => .integer b.mhz

def pairs (s : Settings) : List (String × Item) :=
  SettingKey.all.filterMap fun key => (s.item? key).map fun item => (key.name, item)

theorem means_of_item? (written : s.item? key = some item) : Means key item (s.field key) := by
  cases key with
  | deviceDirectory => exact (Option.some.inj written).symm
  | sysfsDirectory => exact (Option.some.inj written).symm
  | devicePrefix => exact (Option.some.inj written).symm
  | frequency =>
    obtain ⟨hz, present, same⟩ := Option.map_eq_some_iff.mp written
    exact ⟨hz, same.symm, present.symm⟩
  | bandwidth =>
    obtain ⟨b, present, same⟩ := Option.map_eq_some_iff.mp written
    exact ⟨b, same.symm, present.symm⟩

theorem field_of_item?_none (unwritten : s.item? key = none) :
    s.field key = standard.field key := by
  cases key with
  | deviceDirectory => cases unwritten
  | sysfsDirectory => cases unwritten
  | devicePrefix => cases unwritten
  | frequency => exact Option.map_eq_none_iff.mp unwritten
  | bandwidth => exact Option.map_eq_none_iff.mp unwritten

theorem mem_pairs_iff {line : String × Item} :
    line ∈ s.pairs ↔ ∃ key : SettingKey, line.1 = key.name ∧ s.item? key = some line.2 := by
  rw [pairs, List.mem_filterMap]
  constructor
  · intro among
    obtain ⟨key, _, made⟩ := among
    obtain ⟨item, written, rfl⟩ := Option.map_eq_some_iff.mp made
    exact ⟨key, rfl, written⟩
  · intro written
    obtain ⟨key, named, present⟩ := written
    refine ⟨key, key.mem_all, ?_⟩
    rw [present, Option.map_some, ← named]

theorem nodup_pairs (s : Settings) : (s.pairs.map Prod.fst).Nodup := by
  rw [pairs, List.map_filterMap]
  refine List.Nodup.filterMap ?_ (by decide : SettingKey.all.Nodup)
  intro key other name named named'
  rw [Option.mem_def, Option.map_map, Option.map_eq_some_iff] at named named'
  obtain ⟨_, _, same⟩ := named
  obtain ⟨_, _, same'⟩ := named'
  exact SettingKey.name_injective (same.trans same'.symm)

theorem exists_writes (small : ∀ hz ∈ s.frequency, hz.toNat ≤ 9223372036854775807)
    (written : s.item? key = some item) : ∃ cs, Writes item cs := by
  cases key with
  | frequency =>
    obtain ⟨hz, present, rfl⟩ := Option.map_eq_some_iff.mp written
    exact ⟨_, .integer hz.toNat (small hz present)⟩
  | bandwidth =>
    obtain ⟨b, present, rfl⟩ := Option.map_eq_some_iff.mp written
    exact ⟨_, .integer b.mhz (by cases b <;> decide)⟩
  | _ =>
    cases written
    exact ⟨_, .string _ (Toml.quotes_escaped _)⟩

theorem lines_linesText (small : ∀ hz ∈ s.frequency, hz.toNat ≤ 9223372036854775807)
    (order : lines.Perm s.pairs) : Lines lines (linesText lines) := by
  apply Toml.lines_linesText
  · intro line member
    obtain ⟨key, named, _⟩ := mem_pairs_iff.mp (order.mem_iff.mp member)
    rw [named]
    exact key.isBare_name
  · intro line member
    obtain ⟨key, _, written⟩ := mem_pairs_iff.mp (order.mem_iff.mp member)
    exact exists_writes small written

theorem ext_field (same : ∀ key, s.field key = t.field key) : s = t := by
  cases s
  cases t
  rw [mk.injEq]
  exact ⟨same .deviceDirectory, same .sysfsDirectory, same .devicePrefix, same .frequency,
    same .bandwidth⟩

theorem Holds.unique (holds : s.Holds entries) (holds' : t.Holds entries) : s = t :=
  ext_field fun _ => holds.field_eq holds' fun _ => Iff.rfl

theorem ofEntries_eq_ok_iff (distinct : entries.Distinct) :
    ofEntries entries = .ok s ↔ s.Holds entries := by
  constructor
  · intro accepted
    exact holds_of_ofEntries distinct accepted
  · intro holds
    have each : ∀ entry ∈ entries, ∃ key : SettingKey,
        entry.1.text = key.name ∧ ∃ v, Means key entry.2.2 v := by
      intro entry member
      obtain ⟨key, named, means⟩ := holds.given entry member
      exact ⟨key, named, s.field key, means⟩
    obtain ⟨t, accepted⟩ := (exists_foldlM_eq_ok_iff exists_assignEntry_iff).mpr each
    rw [holds.unique (holds_of_ofEntries distinct accepted)]
    exact accepted

theorem holds_of_perm (said : (entries.map Entry.said).Perm s.pairs) : s.Holds entries := by
  constructor
  · intro entry member
    have among : entry.said ∈ s.pairs := said.mem_iff.mp (List.mem_map_of_mem member)
    obtain ⟨key, named, written⟩ := mem_pairs_iff.mp among
    exact ⟨key, named, means_of_item? written⟩
  · intro key absent
    apply field_of_item?_none
    rw [Option.eq_none_iff_forall_ne_some]
    intro item written
    have among : (key.name, item) ∈ entries.map Entry.said :=
      said.mem_iff.mpr (mem_pairs_iff.mpr ⟨key, rfl, written⟩)
    obtain ⟨entry, member, same⟩ := List.mem_map.mp among
    exact absent (List.mem_map.mpr ⟨entry, member, congrArg Prod.fst same⟩)

theorem load_of_lines (order : lines.Perm s.pairs) (written : Lines lines text.toList)
    (held : disk.Holds (join directory fileName) text) :
    load disk directory = .ok ⟨s, join directory fileName, true⟩ := by
  have distinct : (lines.map Prod.fst).Nodup := (order.map Prod.fst).nodup_iff.mpr s.nodup_pairs
  obtain ⟨entries, read, said⟩ := Toml.document?_lines written distinct
  obtain ⟨place, found⟩ := held
  have reads : Reads (Utf8.bytes text) entries := ⟨text, Utf8.text?_eq_some_iff.mpr rfl, read⟩
  have holds : s.Holds entries := holds_of_perm (said.symm ▸ order)
  exact (load_eq_ok_iff found reads).mpr
    ⟨s, (ofEntries_eq_ok_iff (Toml.document?_distinct read)).mpr holds, rfl⟩

-- Whatever the order of the lines and however each text is escaped. Every settings value with a
-- frequency that a document can hold has such a file, in each order.
theorem load_written (small : ∀ hz ∈ s.frequency, hz.toNat ≤ 9223372036854775807)
    (order : lines.Perm s.pairs) :
    Lines lines (linesText lines)
      ∧ ∀ text disk directory, Lines lines text.toList → disk.Holds (join directory fileName) text →
        load disk directory = .ok ⟨s, join directory fileName, true⟩ := by
  refine ⟨lines_linesText small order, ?_⟩
  intro text disk directory written held
  exact load_of_lines order written held

def peculiar : Settings where
  deviceDirectory := "/dev/\"usb\"\\tv"
  sysfsDirectory := "/sys\n\u0000é"
  devicePrefix := ""
  frequency := some 9223372036854775807
  bandwidth := some .mhz7

def peculiarText : String := String.ofList (linesText peculiar.pairs.reverse)

theorem peculiar_load :
    (∀ hz ∈ peculiar.frequency, hz.toNat ≤ 9223372036854775807)
      ∧ peculiar.pairs.reverse.Perm peculiar.pairs
      ∧ Lines peculiar.pairs.reverse peculiarText.toList
      ∧ (entryDisk (.file (Utf8.bytes peculiarText))).Holds (join "conf" fileName) peculiarText
      ∧ load (entryDisk (.file (Utf8.bytes peculiarText))) "conf"
        = .ok ⟨peculiar, "conf/config.toml", true⟩ := by
  have small : ∀ hz ∈ peculiar.frequency, hz.toNat ≤ 9223372036854775807 := by
    intro hz given
    cases given
    decide
  have order : peculiar.pairs.reverse.Perm peculiar.pairs := List.reverse_perm _
  obtain ⟨lines, loads⟩ := load_written small order
  have written : Lines peculiar.pairs.reverse peculiarText.toList := by
    rw [peculiarText, String.toList_ofList]
    exact lines
  have held : (entryDisk (.file (Utf8.bytes peculiarText))).Holds (join "conf" fileName)
      peculiarText := ⟨_, rfl⟩
  exact ⟨small, order, written, held, loads _ _ _ written held⟩

example : linesText peculiar.pairs.reverse
    = ("bandwidth = 7\nfrequency = 9223372036854775807\ndevice_prefix = \"\"\n"
      ++ "sysfs_dir = \"/sys\\u000A\\u0000é\"\ndevice_dir = \"/dev/\\\"usb\\\"\\\\tv\"\n").toList := by
  decide +kernel

end Settings

end ModulatorInspector
