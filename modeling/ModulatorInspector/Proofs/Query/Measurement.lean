import ModulatorInspector.Proofs.Bandwidth
import ModulatorInspector.Proofs.Query.Listing
import ModulatorInspector.Proofs.Text.Thousands

namespace ModulatorInspector.Query

open Device (Descriptor GainRange)

def gainRangeLabels : List String :=
  ["Device: ", "Frequency: ", "Bandwidth: ", "Min. gain: ", "Max. gain: "]

-- Ended lines and nothing else, each with the label of its place in front.
def Labelled (labels : List String) (text : String) : Prop :=
  ∃ lines, linesOf text = lines ++ [[]]
    ∧ List.Forall₂ (fun label line => label.toList <+: line) labels lines

variable {d e : Descriptor} {hz hz' : UInt64} {b b' : Bandwidth} {range range' : GainRange}

theorem brief_unbroken (name : '\n' ∉ d.name.toList) (path : '\n' ∉ d.path.toList) :
    '\n' ∉ d.brief.toList := by
  have index : '\n' ∉ (toString d.index).toList := Numeral.decimal_unbroken d.index.toNat
  simp only [Descriptor.brief, String.toList_append, List.mem_append, not_or]
  exact ⟨⟨⟨⟨⟨index, by decide⟩, name⟩, by decide⟩, path⟩, by decide⟩

theorem gainRangeLines_unbroken (brief : '\n' ∉ d.brief.toList) :
    ∀ text ∈ gainRangeLines d hz b range, '\n' ∉ text.toList := by
  have around {label value unit : String} (label_unbroken : '\n' ∉ label.toList)
      (value_unbroken : '\n' ∉ value.toList) (unit_unbroken : '\n' ∉ unit.toList) :
      '\n' ∉ (label ++ value ++ unit).toList := by
    simp only [String.toList_append, List.mem_append, not_or]
    exact ⟨⟨label_unbroken, value_unbroken⟩, unit_unbroken⟩
  intro text member
  simp only [gainRangeLines, List.mem_cons, List.not_mem_nil, or_false] at member
  rcases member with rfl | rfl | rfl | rfl | rfl
  · simp only [String.toList_append, List.mem_append, not_or]
    exact ⟨by decide, brief⟩
  · exact around (by decide) (Numeral.grouped_unbroken _) (by decide)
  · exact around (by decide) (Numeral.decimal_unbroken _) (by decide)
  · exact around (by decide) (Numeral.signed_unbroken _) (by decide)
  · exact around (by decide) (Numeral.signed_unbroken _) (by decide)

theorem gainRangeLines_labelled (d : Descriptor) (hz : UInt64) (b : Bandwidth) (range : GainRange) :
    List.Forall₂ (fun label line => label.toList <+: line) gainRangeLabels
      ((gainRangeLines d hz b range).map String.toList) := by
  have start (label value unit : String) : label.toList <+: (label ++ value ++ unit).toList := by
    rw [String.append_assoc, String.toList_append]
    exact List.prefix_append _ _
  have first : "Device: ".toList <+: ("Device: " ++ d.brief).toList := by
    rw [String.toList_append]
    exact List.prefix_append _ _
  exact .cons first (.cons (start ..) (.cons (start ..) (.cons (start ..) (.cons (start ..) .nil))))

theorem gainRangeLines_injective
    (same : gainRangeLines d hz b range = gainRangeLines e hz' b' range') :
    d.brief = e.brief ∧ hz = hz' ∧ b = b' ∧ range = range' := by
  have within {label unit value value' : String}
      (same : label ++ value ++ unit = label ++ value' ++ unit) : value = value' :=
    (String.append_right_inj _).mp ((String.append_left_inj _).mp same)
  simp only [gainRangeLines, List.cons.injEq, and_true] at same
  obtain ⟨brief, frequency, bandwidth, least, greatest⟩ := same
  have hz_same : hz = hz' := UInt64.toNat_inj.mp (Numeral.grouped_injective (within frequency))
  have b_same : b = b' := Bandwidth.label_injective (within bandwidth)
  have least_same : range.minimum = range'.minimum :=
    Int32.toInt_inj.mp (Numeral.signed_injective (within least))
  have greatest_same : range.maximum = range'.maximum :=
    Int32.toInt_inj.mp (Numeral.signed_injective (within greatest))
  refine ⟨(String.append_right_inj _).mp brief, hz_same, b_same, ?_⟩
  obtain ⟨minimum, maximum⟩ := range
  obtain ⟨minimum', maximum'⟩ := range'
  cases least_same
  cases greatest_same
  rfl

theorem linesOf_gainRangeReport (brief : '\n' ∉ d.brief.toList) (hz : UInt64) (b : Bandwidth)
    (range : GainRange) : linesOf (gainRangeReport d hz b range)
      = (gainRangeLines d hz b range).map String.toList ++ [[]] :=
  linesOf_join (gainRangeLines_unbroken brief)

theorem gainRangeReport_recoverable (d e : Descriptor) (hz hz' : UInt64) (b b' : Bandwidth)
    (range range' : GainRange) (name : '\n' ∉ d.name.toList) (path : '\n' ∉ d.path.toList)
    (name' : '\n' ∉ e.name.toList) (path' : '\n' ∉ e.path.toList) :
    Labelled gainRangeLabels (gainRangeReport d hz b range)
      ∧ (gainRangeReport d hz b range = gainRangeReport e hz' b' range'
        ↔ d.brief = e.brief ∧ hz = hz' ∧ b = b' ∧ range = range') := by
  have lines := linesOf_gainRangeReport (brief_unbroken name path) hz b range
  have lines' := linesOf_gainRangeReport (brief_unbroken name' path') hz' b' range'
  refine ⟨⟨_, lines, gainRangeLines_labelled d hz b range⟩, ?_, ?_⟩
  · intro same
    rw [same, lines', List.append_left_inj] at lines
    apply gainRangeLines_injective
    exact ((List.map_inj_right fun _ _ => String.toList_inj.mp).mp lines).symm
  · intro same
    obtain ⟨brief, rfl, rfl, rfl⟩ := same
    rw [gainRangeReport, gainRangeReport, gainRangeLines, gainRangeLines, brief]

-- Two devices with one brief line: `0: "a" (b" (c)`.
def quoteInName : Descriptor := { index := 0, name := "a\" (b", path := "c" }

def quoteInPath : Descriptor := { index := 0, name := "a", path := "b\" (c" }

theorem gainRangeReport_at_limits :
    '\n' ∉ quoteInName.name.toList ∧ '\n' ∉ quoteInName.path.toList
      ∧ '\n' ∉ quoteInPath.name.toList ∧ '\n' ∉ quoteInPath.path.toList
      ∧ gainRangeReport quoteInName 18446744073709551615 .mhz6 ⟨-2147483648, 0⟩
        = gainRangeReport quoteInPath 18446744073709551615 .mhz6 ⟨-2147483648, 0⟩
      ∧ gainRangeReport quoteInName 18446744073709551615 .mhz6 ⟨-2147483648, 0⟩
        ≠ gainRangeReport quoteInPath 1844674407370955161 .mhz6 ⟨-2147483648, 0⟩
      ∧ Labelled gainRangeLabels
        (gainRangeReport quoteInName 18446744073709551615 .mhz6 ⟨-2147483648, 0⟩) := by
  have name : '\n' ∉ quoteInName.name.toList := by decide
  have path : '\n' ∉ quoteInName.path.toList := by decide
  have name' : '\n' ∉ quoteInPath.name.toList := by decide
  have path' : '\n' ∉ quoteInPath.path.toList := by decide
  have law (hz : UInt64) := gainRangeReport_recoverable quoteInName quoteInPath
    18446744073709551615 hz .mhz6 .mhz6 ⟨-2147483648, 0⟩ ⟨-2147483648, 0⟩ name path name' path'
  have brief : quoteInName.brief = quoteInPath.brief := by decide
  refine ⟨name, path, name', path', (law _).2.mpr ⟨brief, rfl, rfl, rfl⟩, ?_, (law 0).1⟩
  intro same
  have frequency := ((law _).2.mp same).2.1
  exact absurd frequency (by decide)

end ModulatorInspector.Query
