import ModulatorInspector.Proofs.Settings.Writing
import ModulatorInspector.Proofs.Toml.Lines

namespace ModulatorInspector

theorem Toml.Entries.Distinct.eq_of_text {entries : Toml.Entries} {entry entry' : Toml.Entry}
    (distinct : entries.Distinct) (member : entry ∈ entries) (member' : entry' ∈ entries)
    (same : entry.1.text = entry'.1.text) : entry = entry' :=
  List.inj_on_of_nodup_map distinct member member' same

namespace Settings

open Bandwidth (IsWidth Measures)
open Files (Disk join)
open Numeral (greatestSigned64)
open Toml (Entries Entry LaidOut)

variable {s t : Settings} {entries : Entries} {entry : Entry} {n : Int} {disk : Disk} {directory : String}
  {place : Files.Location} {content : List UInt8} {loaded : Loaded}

theorem fits_bandwidth_iff (named : entry.1.text = SettingKey.name .bandwidth)
    (given : entry.2.2 = .integer n) : Fits entry ↔ IsWidth n := by
  rw [Bandwidth.isWidth_iff]
  constructor
  · intro fits
    obtain ⟨key, named', admits⟩ := fits
    cases SettingKey.name_injective (named.symm.trans named')
    obtain ⟨mhz, same, between⟩ := admits
    rw [given] at same
    cases same
    exact between
  · intro between
    exact ⟨.bandwidth, named, n, given, between⟩

-- What becomes of a file with these entries, one of which gives the number as the bandwidth.
structure BandwidthTaken (entries : Entries) (n : Int) (outcome : Except Refusal Loaded) : Prop where
  accepted : (∃ loaded, outcome = .ok loaded) ↔
    IsWidth n ∧ ∀ entry ∈ entries, entry.1.text ≠ "bandwidth" → Fits entry
  unwrapped : (∃ loaded, outcome = .ok loaded) → 5 ≤ n ∧ n ≤ 8
  denoted (loaded : Loaded) : outcome = .ok loaded →
    ∃ b : Bandwidth, b.Measures n ∧ loaded.settings.bandwidth = some b

theorem forall_fits_iff (distinct : entries.Distinct) (gives : Gives entries .bandwidth (.integer n)) :
    (∀ entry ∈ entries, Fits entry)
      ↔ IsWidth n ∧ ∀ entry ∈ entries, entry.1.text ≠ "bandwidth" → Fits entry := by
  obtain ⟨own, own_member, own_named, own_given⟩ := gives
  constructor
  · intro fits
    refine ⟨(fits_bandwidth_iff own_named own_given).mp (fits own own_member), ?_⟩
    intro entry member other
    exact fits entry member
  · intro fits entry member
    obtain ⟨wide, others⟩ := fits
    by_cases named : entry.1.text = "bandwidth"
    · have same : entry = own := distinct.eq_of_text member own_member (named.trans own_named.symm)
      rw [same]
      exact (fits_bandwidth_iff own_named own_given).mpr wide
    · exact others entry member named

theorem Reads.distinct (reads : Reads content entries) : entries.Distinct := by
  obtain ⟨text, _, read⟩ := reads
  exact Toml.document?_distinct read

theorem load_bandwidthTaken
    (found : disk.find (join directory fileName) = .ok (place, .file content))
    (reads : Reads content entries) (gives : Gives entries .bandwidth (.integer n)) :
    BandwidthTaken entries n (load disk directory) := by
  have accepted := (exists_load_iff found reads).trans (forall_fits_iff reads.distinct gives)
  constructor
  case accepted =>
    exact accepted
  case unwrapped =>
    intro taken
    exact Bandwidth.isWidth_iff.mp (accepted.mp taken).1
  case denoted =>
    intro loaded taken
    obtain ⟨own, member, named, given⟩ := gives
    obtain ⟨b, same, held⟩ := (holds_of_load found reads taken).means member named
    rw [given] at same
    cases same
    exact ⟨b, b.measures_mhz, held.symm⟩

def bandwidthLine (n : Int) : String := "bandwidth = " ++ toString n ++ "\n"

theorem laidOut_bandwidthLine (least : -(greatestSigned64 + 1 : Int) ≤ n)
    (greatest : n ≤ greatestSigned64) :
    LaidOut [("bandwidth", .integer n)] (bandwidthLine n).toList := by
  have front : "bandwidth = ".toList = "bandwidth".toList ++ [' ', '=', ' '] := by decide
  have spelled : (bandwidthLine n).toList
      = "bandwidth".toList ++ ' ' :: '=' :: ' ' :: ((toString n).toList ++ ['\n']) := by
    rw [bandwidthLine, String.toList_append, String.toList_append, front]
    simp
  rw [spelled]
  exact .cons (SettingKey.isBare_name .bandwidth) (Toml.stands_integer least greatest) .nil

theorem assignEntry_bandwidth (named : entry.1.text = SettingKey.name .bandwidth)
    (given : entry.2.2 = .integer n) :
    s.assignEntry entry = .ok t ↔ ∃ b : Bandwidth, b.Measures n ∧ t = { s with bandwidth := some b } := by
  rw [assignEntry_eq_ok_iff]
  constructor
  · intro assigned
    obtain ⟨key, named', v, means, put⟩ := assigned
    cases SettingKey.name_injective (named.symm.trans named')
    obtain ⟨b, same, rfl⟩ := means
    rw [given] at same
    cases same
    exact ⟨b, b.measures_mhz, put.symm⟩
  · intro measured
    obtain ⟨b, measures, rfl⟩ := measured
    refine ⟨.bandwidth, named, some b, ⟨b, ?_, rfl⟩, rfl⟩
    rw [given, measures.width]

theorem load_bandwidthLine (least : -(greatestSigned64 + 1 : Int) ≤ n)
    (greatest : n ≤ greatestSigned64)
    (held : disk.Holds (join directory fileName) (bandwidthLine n)) :
    load disk directory = .ok loaded ↔ ∃ b : Bandwidth, b.Measures n
      ∧ loaded = ⟨{ bandwidth := some b }, join directory fileName, true⟩ := by
  obtain ⟨entries, read, said⟩ :=
    Toml.document?_laidOut (laidOut_bandwidthLine least greatest) (List.nodup_singleton _)
  obtain ⟨entry, rfl, own⟩ := List.map_eq_singleton_iff.mp said
  obtain ⟨named, given⟩ := Prod.mk.inj own
  obtain ⟨place, found⟩ := held
  have reads : Reads (Utf8.bytes (bandwidthLine n)) [entry] :=
    ⟨_, Utf8.text?_eq_some_iff.mpr rfl, read⟩
  have single : ofEntries [entry] = standard.assignEntry entry := by
    rw [ofEntries, List.foldlM_cons]
    cases standard.assignEntry entry <;> rfl
  simp only [load_eq_ok_iff found reads, single, assignEntry_bandwidth named given]
  constructor
  · intro taken
    obtain ⟨_, ⟨b, measures, rfl⟩, rfl⟩ := taken
    exact ⟨b, measures, rfl⟩
  · intro taken
    obtain ⟨b, measures, rfl⟩ := taken
    exact ⟨_, ⟨b, measures, rfl⟩, rfl⟩

theorem exists_load_bandwidthLine_iff (least : -(greatestSigned64 + 1 : Int) ≤ n)
    (greatest : n ≤ greatestSigned64)
    (held : disk.Holds (join directory fileName) (bandwidthLine n)) :
    (∃ loaded, load disk directory = .ok loaded) ↔ IsWidth n := by
  rw [← Bandwidth.exists_measures_iff]
  constructor
  · intro accepted
    obtain ⟨loaded, accepted⟩ := accepted
    obtain ⟨b, measures, _⟩ := (load_bandwidthLine least greatest held).mp accepted
    exact ⟨b, measures⟩
  · intro measured
    obtain ⟨b, measures⟩ := measured
    exact ⟨_, (load_bandwidthLine least greatest held).mpr ⟨b, measures, rfl⟩⟩

end Settings

end ModulatorInspector
