import ModulatorInspector.Proofs.Invocation.Numbers
import ModulatorInspector.Proofs.Settings.Bandwidth

namespace ModulatorInspector.Invocation

open Bandwidth (IsWidth Measures)
open CommandLine (Arguments Means Stop)
open Files (Disk join)
open Numeral (greatestSigned64)
open Settings (BandwidthTaken Gives Reads bandwidthLine load)
open Toml (Entries)

variable {a : Arguments} {b : Bandwidth} {text : String} {z : Int}
  {outcome : Except Stop Arguments}

theorem means_bandwidth_iff : Means .bandwidth text.toList b ↔ text = b.label := by
  constructor
  · intro means
    generalize spelled : text.toList = letters at means
    cases means
    exact String.toList_inj.mp spelled
  · intro labelled
    rw [labelled]
    exact .bandwidth b

-- What a line comes to with a text for the bandwidth, `a` being what it comes to with some bandwidth
-- there.
structure BandwidthRead (a : Arguments) (text : String) (outcome : Except Stop Arguments) :
    Prop where
  accepted : (∃ c, outcome = .ok c) ↔ ∃ m : Nat, text = toString m ∧ IsWidth m
  denoted (c : Arguments) (z : Int) : outcome = .ok c → text = toString z →
    ∃ b : Bandwidth, b.Measures z ∧ c = { a with bandwidth := some b }

theorem measures_of_label (labelled : text = b.label) (numeral : text = toString z) :
    b.Measures z := by
  have same : toString (b.mhz : Int) = toString z := by
    rw [← numeral, labelled, b.measures_mhz.shown]
  rw [← Numeral.signed_injective same]
  exact b.measures_mhz

theorem bandwidthRead_of_iff (read : ∀ c, outcome = .ok c
      ↔ ∃ b, Means .bandwidth text.toList b ∧ a.assign .bandwidth b = c) :
    BandwidthRead a text outcome := by
  constructor
  · constructor
    · intro accepted
      obtain ⟨c, accepted⟩ := accepted
      obtain ⟨b, means, _⟩ := (read c).mp accepted
      refine ⟨b.mhz, means_bandwidth_iff.mp means, ?_⟩
      exact Bandwidth.exists_measures_iff.mp ⟨b, b.measures_mhz⟩
    · intro numeral
      obtain ⟨m, rfl, wide⟩ := numeral
      obtain ⟨b, measures⟩ := Bandwidth.exists_measures_iff.mpr wide
      exact ⟨_, (read _).mpr ⟨b, means_bandwidth_iff.mpr measures.shown.symm, rfl⟩⟩
  · intro c z accepted numeral
    obtain ⟨b, means, rfl⟩ := (read c).mp accepted
    exact ⟨b, measures_of_label (means_bandwidth_iff.mp means) numeral, rfl⟩

theorem spelled_bandwidth : "--bandwidth=".toList = '-' :: '-' :: ("bandwidth".toList ++ ['=']) := by
  decide

theorem bandwidth_of_read {before after : List String} {fallback : Option String}
    (accepted : CommandLine.read (before ++ ("--bandwidth=" ++ text) :: after) fallback = .ok a)
    (numeral : text = toString z) : ∃ b : Bandwidth, b.Measures z ∧ a.bandwidth = some b := by
  obtain ⟨b, means, assigned⟩ :=
    (CommandLine.read_put (p := .bandwidth) (b := a) spelled_bandwidth accepted).mp accepted
  refine ⟨b, measures_of_label (means_bandwidth_iff.mp means) numeral, ?_⟩
  rw [← assigned]
  rfl

theorem resolve_bandwidth_moved (a : Arguments) (s : Settings) (given : a.bandwidth = some b) :
    resolve a s = resolve { a with bandwidth := none } { s with bandwidth := some b } := by
  rw [resolve, resolve, given]
  rfl

-- The text stands for the bandwidth of a command line, the number for that of a settings file. The
-- words around the text are accepted with some bandwidth there, as they are with one in front of all
-- words that do not give it.
structure SameBandwidths (text : String) (n : Int) : Prop where
  argument (before after : List String) (fallback : Option String) (a : Arguments) :
    CommandLine.read (before ++ "--bandwidth=8" :: after) fallback = .ok a →
      BandwidthRead a text
        (CommandLine.read (before ++ ("--bandwidth=" ++ text) :: after) fallback)
  in_front (after : List String) (fallback : Option String) (a : Arguments) :
    CommandLine.read after fallback = .ok a → a.bandwidth = none →
      CommandLine.read ("--bandwidth=8" :: after) fallback
        = .ok { a with bandwidth := some .mhz8 }
  setting (disk : Disk) (directory : String) place content entries :
    disk.find (join directory Settings.fileName) = .ok (place, .file content) →
      Reads content entries → Gives entries .bandwidth (.integer n) →
      BandwidthTaken entries n (load disk directory)
  alone (disk : Disk) (directory : String) :
    -(greatestSigned64 + 1 : Int) ≤ n → n ≤ greatestSigned64 →
    disk.Holds (join directory Settings.fileName) (bandwidthLine n) →
      ((∃ loaded, load disk directory = .ok loaded) ↔ IsWidth n)
        ∧ ∀ loaded, load disk directory = .ok loaded → ∃ b : Bandwidth, b.Measures n
          ∧ loaded.settings = { bandwidth := some b }
  agree (before after : List String) (fallback : Option String) (a : Arguments)
      (disk : Disk) (directory : String) place content entries (loaded : Settings.Loaded) :
    text = toString n →
      CommandLine.read (before ++ ("--bandwidth=" ++ text) :: after) fallback = .ok a →
      disk.find (join directory Settings.fileName) = .ok (place, .file content) →
      Reads content entries → Gives entries .bandwidth (.integer n) →
      load disk directory = .ok loaded →
      ∃ b : Bandwidth, b.Measures n ∧ a.bandwidth = some b ∧ loaded.settings.bandwidth = some b
        ∧ ∀ s, resolve a s
          = resolve { a with bandwidth := none } { s with bandwidth := loaded.settings.bandwidth }

theorem bandwidths_agree (text : String) (n : Int) : SameBandwidths text n := by
  constructor
  case argument =>
    intro before after fallback a accepted
    have eight : "--bandwidth=8" = "--bandwidth=" ++ "8" := by decide
    rw [eight] at accepted
    apply bandwidthRead_of_iff
    intro c
    exact CommandLine.read_put (p := .bandwidth) spelled_bandwidth accepted
  case in_front =>
    intro after fallback a accepted unset
    refine CommandLine.read_cons (.attached .bandwidth "8".toList) accepted ?_
    exact Arguments.give_eq_ok_iff.mpr ⟨unset, .mhz8, .bandwidth .mhz8, rfl⟩
  case setting =>
    intro disk directory place content entries found reads gives
    exact Settings.load_bandwidthTaken found reads gives
  case alone =>
    intro disk directory least greatest held
    refine ⟨Settings.exists_load_bandwidthLine_iff least greatest held, ?_⟩
    intro loaded accepted
    obtain ⟨b, measures, rfl⟩ := (Settings.load_bandwidthLine least greatest held).mp accepted
    exact ⟨b, measures, rfl⟩
  case agree =>
    intro before after fallback a disk directory place content entries loaded numeral accepted
      found reads gives taken
    obtain ⟨b, measures, given⟩ := bandwidth_of_read accepted numeral
    obtain ⟨b', measures', held⟩ :=
      (Settings.load_bandwidthTaken found reads gives).denoted loaded taken
    have same : b = b' := Option.some.inj (measures.made.symm.trans measures'.made)
    rw [← same] at held
    refine ⟨b, measures, given, held, ?_⟩
    intro s
    rw [held]
    exact resolve_bandwidth_moved a s given

def sixDisk : Disk := Settings.entryDisk (.file (Utf8.bytes (bandwidthLine 6)))

theorem six_either_way :
    CommandLine.read ["-g", "--bandwidth=8", "-v"] none
        = .ok { gainRange := true, verbose := true, bandwidth := some .mhz8 }
      ∧ BandwidthRead { gainRange := true, verbose := true, bandwidth := some .mhz8 } "6"
        (CommandLine.read ["-g", "--bandwidth=" ++ "6", "-v"] none)
      ∧ sixDisk.Holds (join "conf" Settings.fileName) (bandwidthLine 6)
      ∧ ∃ loaded, load sixDisk "conf" = .ok loaded
        ∧ loaded.settings = { bandwidth := some .mhz6 } := by
  have eight : CommandLine.read ["-g", "--bandwidth=8", "-v"] none
      = .ok { gainRange := true, verbose := true, bandwidth := some .mhz8 } := by decide +kernel
  have held : sixDisk.Holds (join "conf" Settings.fileName) (bandwidthLine 6) := ⟨_, rfl⟩
  refine ⟨eight, (bandwidths_agree "6" 6).argument ["-g"] ["-v"] none _ eight, held, ?_⟩
  obtain ⟨accepted, taken⟩ := (bandwidths_agree "6" 6).alone _ _ (by decide) (by decide) held
  obtain ⟨loaded, loads⟩ := accepted.mpr (Bandwidth.isWidth_iff.mpr (by decide))
  obtain ⟨b, measures, same⟩ := taken loaded loads
  have six : b = .mhz6 := Bandwidth.mhz_injective (Int.ofNat.inj measures.width)
  rw [six] at same
  exact ⟨loaded, loads, same⟩

end ModulatorInspector.Invocation
