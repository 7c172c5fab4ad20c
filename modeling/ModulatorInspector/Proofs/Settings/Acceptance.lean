import ModulatorInspector.Proofs.Bandwidth
import ModulatorInspector.Proofs.Settings.Fields
import ModulatorInspector.Proofs.Toml.Entries

namespace ModulatorInspector

open Toml (Entries Entry Item)

namespace SettingKey

-- Which items are values of a key. A document holds no integer beyond sixty-three bits.
def Admits : SettingKey → Item → Prop
  | .deviceDirectory, item | .sysfsDirectory, item | .devicePrefix, item =>
      ∃ text, item = .string text
  | .frequency, item => ∃ hz : Int, item = .integer hz ∧ 0 ≤ hz ∧ hz ≤ 9223372036854775807
  | .bandwidth, item => ∃ mhz : Int, item = .integer mhz ∧ 5 ≤ mhz ∧ mhz ≤ 8

variable {key : SettingKey} {item : Item}

theorem Means.unique {v w : key.Setting} (means : Means key item v) (means' : Means key item w) :
    v = w := by
  cases key with
  | deviceDirectory => exact Item.string.inj (means.symm.trans means')
  | sysfsDirectory => exact Item.string.inj (means.symm.trans means')
  | devicePrefix => exact Item.string.inj (means.symm.trans means')
  | frequency =>
    obtain ⟨hz, same, rfl⟩ := means
    obtain ⟨hz', same', rfl⟩ := means'
    have equal := Int.ofNat.inj (Item.integer.inj (same.symm.trans same'))
    exact congrArg some (UInt64.toNat_inj.mp equal)
  | bandwidth =>
    obtain ⟨b, same, rfl⟩ := means
    obtain ⟨b', same', rfl⟩ := means'
    have equal := Int.ofNat.inj (Item.integer.inj (same.symm.trans same'))
    exact congrArg some (Bandwidth.mhz_injective equal)

theorem exists_means_iff (bounded : item.Bounded) :
    (∃ v, Means key item v) ↔ key.Admits item := by
  cases key with
  | deviceDirectory => exact Iff.rfl
  | sysfsDirectory => exact Iff.rfl
  | devicePrefix => exact Iff.rfl
  | frequency =>
    constructor
    · intro meant
      obtain ⟨_, hz, rfl, rfl⟩ := meant
      exact ⟨hz.toNat, rfl, Int.natCast_nonneg _, bounded.2⟩
    · intro admitted
      obtain ⟨hz, rfl, least, greatest⟩ := admitted
      have fits : hz.toNat < 2 ^ 64 := by omega
      refine ⟨some (UInt64.ofNat hz.toNat), UInt64.ofNat hz.toNat, ?_, rfl⟩
      rw [UInt64.toNat_ofNat_of_lt' fits, Int.toNat_of_nonneg least]
  | bandwidth =>
    constructor
    · intro meant
      obtain ⟨_, b, rfl, rfl⟩ := meant
      have between := Bandwidth.exists_mhz_eq_iff.mp ⟨b, rfl⟩
      exact ⟨b.mhz, rfl, by omega, by omega⟩
    · intro admitted
      obtain ⟨mhz, rfl, least, greatest⟩ := admitted
      have between : 5 ≤ mhz.toNat ∧ mhz.toNat ≤ 8 := by omega
      obtain ⟨b, wide⟩ := Bandwidth.exists_mhz_eq_iff.mpr between
      refine ⟨some b, b, ?_, rfl⟩
      rw [wide, Int.toNat_of_nonneg (by omega)]

end SettingKey

namespace Settings

open Files (Disk join)
open SettingKey (Means)

def Fits (entry : Entry) : Prop :=
  ∃ key : SettingKey, entry.1.text = key.name ∧ key.Admits entry.2.2

def Reads (content : List UInt8) (entries : Entries) : Prop :=
  ∃ text, Utf8.text? content = some text ∧ Toml.document? text.toList = some entries

def ofContent (path : String) (content : List UInt8) : Except Refusal Loaded :=
  match Utf8.text? content with
  | some text => (ofText path text).map fun s => ⟨s, path, true⟩
  | none => .error (.unreadable path .notText)

def Gives (entries : Entries) (key : SettingKey) (item : Item) : Prop :=
  ∃ entry ∈ entries, entry.1.text = key.name ∧ entry.2.2 = item

variable {s t : Settings} {entry : Entry} {entries entries' : Entries} {key : SettingKey}
  {disk : Disk} {directory path text : String} {place : Files.Location} {content : List UInt8}
  {loaded : Loaded}

theorem exists_assignEntry_iff (s : Settings) (entry : Entry) :
    (∃ t, s.assignEntry entry = .ok t)
      ↔ ∃ key : SettingKey, entry.1.text = key.name ∧ ∃ v, Means key entry.2.2 v := by
  constructor
  · intro accepted
    obtain ⟨t, assigned⟩ := accepted
    obtain ⟨key, named, v, means, _⟩ := assignEntry_eq_ok_iff.mp assigned
    exact ⟨key, named, v, means⟩
  · intro meant
    obtain ⟨key, named, v, means⟩ := meant
    exact ⟨s.put key v, assignEntry_eq_ok_iff.mpr ⟨key, named, v, means, rfl⟩⟩

theorem exists_ofEntries_iff (bounded : entries.Bounded) :
    (∃ s, ofEntries entries = .ok s) ↔ ∀ entry ∈ entries, Fits entry := by
  rw [ofEntries, exists_foldlM_eq_ok_iff exists_assignEntry_iff]
  apply forall₂_congr
  intro entry member
  apply exists_congr
  intro key
  rw [SettingKey.exists_means_iff (bounded entry member)]

theorem notMem_names_of_not_gives (nothing : ∀ item, ¬Gives entries key item) :
    key.name ∉ entries.names := by
  intro member
  obtain ⟨entry, among, named⟩ := List.mem_map.mp member
  exact nothing entry.2.2 ⟨entry, among, named, rfl⟩

theorem Holds.field_eq (holds : s.Holds entries) (holds' : t.Holds entries')
    (alike : ∀ item, Gives entries key item ↔ Gives entries' key item) :
    s.field key = t.field key := by
  by_cases given : ∃ item, Gives entries key item
  · obtain ⟨item, gives⟩ := given
    obtain ⟨entry, member, named, rfl⟩ := gives
    obtain ⟨entry', member', named', same⟩ := (alike _).mp ⟨entry, member, named, rfl⟩
    have means := holds.means member named
    have means' := holds'.means member' named'
    rw [same] at means'
    exact means.unique means'
  · have nothing : ∀ item, ¬Gives entries key item := not_exists.mp given
    have nothing' : ∀ item, ¬Gives entries' key item := by
      intro item gives
      exact nothing item ((alike item).mpr gives)
    rw [holds.unset key (notMem_names_of_not_gives nothing),
      holds'.unset key (notMem_names_of_not_gives nothing')]

theorem load_of_find (found : disk.find (join directory fileName) = .ok (place, .file content)) :
    load disk directory = ofContent (join directory fileName) content := by
  unfold load ofContent
  dsimp only
  rw [if_pos (Disk.isFile_eq_true_iff.mpr ⟨place, _, found, rfl⟩), Disk.readText_of_find found]
  cases Utf8.text? content <;> rfl

theorem load_of_reads (found : disk.find (join directory fileName) = .ok (place, .file content))
    (reads : Reads content entries) :
    ∃ mark : Toml.Span → Toml.Mark, load disk directory
      = ((ofEntries entries).mapError fun (span, misfit) =>
          Refusal.unfit (join directory fileName) (mark span) misfit).map
          fun s => ⟨s, join directory fileName, true⟩ := by
  obtain ⟨text, decoded, read⟩ := reads
  refine ⟨fun span => span.mark text.toList, ?_⟩
  rw [load_of_find found, ofContent, decoded]
  dsimp only
  rw [ofText, read]

theorem load_eq_ok_iff (found : disk.find (join directory fileName) = .ok (place, .file content))
    (reads : Reads content entries) :
    load disk directory = .ok loaded
      ↔ ∃ s, ofEntries entries = .ok s ∧ loaded = ⟨s, join directory fileName, true⟩ := by
  obtain ⟨mark, made⟩ := load_of_reads found reads
  rw [made, map_eq_ok_iff]
  apply exists_congr
  intro s
  rw [mapError_eq_ok_iff, eq_comm (a := loaded)]

theorem Reads.bounded (reads : Reads content entries) : entries.Bounded := by
  obtain ⟨text, _, read⟩ := reads
  exact Toml.document?_bounded read

theorem Reads.holds (reads : Reads content entries) (accepted : ofEntries entries = .ok s) :
    s.Holds entries := by
  obtain ⟨text, _, read⟩ := reads
  exact holds_of_ofEntries (Toml.document?_distinct read) accepted

theorem holds_of_load (found : disk.find (join directory fileName) = .ok (place, .file content))
    (reads : Reads content entries) (accepted : load disk directory = .ok loaded) :
    loaded.settings.Holds entries := by
  obtain ⟨s, assigned, rfl⟩ := (load_eq_ok_iff found reads).mp accepted
  exact reads.holds assigned

theorem exists_load_iff (found : disk.find (join directory fileName) = .ok (place, .file content))
    (reads : Reads content entries) :
    (∃ loaded, load disk directory = .ok loaded) ↔ ∀ entry ∈ entries, Fits entry := by
  rw [← exists_ofEntries_iff reads.bounded]
  simp only [load_eq_ok_iff found reads]
  constructor
  · intro accepted
    obtain ⟨_, s, assigned, _⟩ := accepted
    exact ⟨s, assigned⟩
  · intro accepted
    obtain ⟨s, assigned⟩ := accepted
    exact ⟨_, s, assigned, rfl⟩

theorem load_unfit (found : disk.find (join directory fileName) = .ok (place, .file content))
    (reads : Reads content entries) (member : entry ∈ entries) (unfit : ¬Fits entry) :
    ∃ mark misfit, load disk directory = .error (.unfit (join directory fileName) mark misfit) := by
  obtain ⟨mark, made⟩ := load_of_reads found reads
  cases assigned : ofEntries entries with
  | ok s => exact absurd ((exists_ofEntries_iff reads.bounded).mp ⟨s, assigned⟩ entry member) unfit
  | error refusal =>
    rw [assigned] at made
    exact ⟨_, _, made⟩

-- What becomes of a settings file, by what it holds. A key has its value whatever else is in the
-- file and wherever it stands.
structure TakenWhole (disk : Disk) (directory : String) (content : List UInt8) : Prop where
  notText : Utf8.text? content = none →
    load disk directory = .error (.unreadable (join directory fileName) .notText)
  notToml : ∀ text, Utf8.text? content = some text → Toml.document? text.toList = none →
    load disk directory = .error (.notToml (join directory fileName))
  taken : ∀ entries, Reads content entries →
    ((∃ loaded, load disk directory = .ok loaded) ↔ ∀ entry ∈ entries, Fits entry)
  refused : ∀ entries, Reads content entries → (∃ entry ∈ entries, ¬Fits entry) →
    ∃ mark misfit, load disk directory = .error (.unfit (join directory fileName) mark misfit)
  given : ∀ entries loaded, Reads content entries → load disk directory = .ok loaded →
    ∀ key item, Gives entries key item → Means key item (loaded.settings.field key)
  absent : ∀ entries loaded, Reads content entries → load disk directory = .ok loaded →
    ∀ key, (∀ item, ¬Gives entries key item) → loaded.settings.field key = standard.field key
  alike : ∀ entries loaded, Reads content entries → load disk directory = .ok loaded →
    ∀ (other : Disk) (directory' : String) place' content' entries' loaded',
      other.find (join directory' fileName) = .ok (place', .file content') →
      Reads content' entries' → load other directory' = .ok loaded' →
      ∀ key, (∀ item, Gives entries key item ↔ Gives entries' key item) →
        loaded.settings.field key = loaded'.settings.field key

theorem load_taken_whole (found : disk.find (join directory fileName) = .ok (place, .file content)) :
    TakenWhole disk directory content := by
  constructor
  case notText =>
    intro undecoded
    rw [load_of_find found, ofContent, undecoded]
  case notToml =>
    intro text decoded unread
    rw [load_of_find found, ofContent, decoded]
    dsimp only
    rw [ofText, unread]
    rfl
  case taken =>
    intro entries reads
    exact exists_load_iff found reads
  case refused =>
    intro entries reads misfitting
    obtain ⟨entry, member, unfit⟩ := misfitting
    exact load_unfit found reads member unfit
  case given =>
    intro entries loaded reads accepted key item gives
    obtain ⟨entry, member, named, rfl⟩ := gives
    exact (holds_of_load found reads accepted).means member named
  case absent =>
    intro entries loaded reads accepted key nothing
    apply (holds_of_load found reads accepted).unset
    exact notMem_names_of_not_gives nothing
  case alike =>
    intro entries loaded reads accepted other directory' place' content' entries' loaded'
      found' reads' accepted' key same
    exact (holds_of_load found reads accepted).field_eq (holds_of_load found' reads' accepted') same

-- A disk with one settings directory, in which this stands under the name of the file.
def entryDisk (node : Files.Node) : Disk where
  tree :=
    { nodes := [([Utf8.bytes "conf"], .directory),
        ([Utf8.bytes "conf", Utf8.bytes "config.toml"], node)]
      distinct := by
        change [[Utf8.bytes "conf"], [Utf8.bytes "conf", Utf8.bytes "config.toml"]].Nodup
        decide }
  workingDirectory := []

def filledContent : List UInt8 :=
  Utf8.bytes "bandwidth = 0x6\nfrequency = 9223372036854775807\ndevice_dir = '/tmp'\n"

def filled : Settings where
  deviceDirectory := "/tmp"
  frequency := some 9223372036854775807
  bandwidth := some .mhz6

theorem filledContent_taken_whole :
    (entryDisk (.file filledContent)).find (join "/conf" fileName)
        = .ok ([Utf8.bytes "conf", Utf8.bytes "config.toml"], .file filledContent)
      ∧ TakenWhole (entryDisk (.file filledContent)) "/conf" filledContent
      ∧ (load (entryDisk (.file filledContent)) "/conf").toOption.map Loaded.settings = some filled := by
  have found : (entryDisk (.file filledContent)).find (join "/conf" fileName)
      = .ok ([Utf8.bytes "conf", Utf8.bytes "config.toml"], .file filledContent) := rfl
  refine ⟨found, load_taken_whole found, ?_⟩
  decide +kernel

end Settings

end ModulatorInspector
