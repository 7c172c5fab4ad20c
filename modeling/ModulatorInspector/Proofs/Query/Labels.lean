import Mathlib.Algebra.BigOperators.Group.List.Basic
import ModulatorInspector.Proofs.Device.Attributes
import ModulatorInspector.Proofs.Query.Listing

namespace ModulatorInspector

namespace Device

def Attribute.optional : List Attribute :=
  [.vendorId, .productId, .manufacturer, .product, .serial, .speed]

namespace Descriptor

variable {d : Descriptor}

def isKnown (d : Descriptor) (a : Attribute) : Bool := (d.shown a).isSome

def known (d : Descriptor) : List Attribute := Attribute.all.filter d.isKnown

def present (d : Descriptor) : Nat := (Attribute.optional.filter d.isKnown).length

-- The line ends inside what is written behind the labels.
def breaks (d : Descriptor) : Nat :=
  (d.entries.flatMap fun entry => entry.2.toList).count '\n'

theorem length_known (d : Descriptor) : d.known.length = 3 + d.present := by
  rw [Nat.add_comm]
  rfl

theorem filter_isKnown (d : Descriptor) (among : List Attribute) :
    among.filter d.isKnown = (among.flatMap d.entry).map Prod.fst := by
  induction among with
  | nil => rfl
  | cons a rest ih =>
    rw [List.flatMap_cons, List.map_append, ← ih, entry]
    cases given : d.shown a with
    | none => rw [List.filter_cons_of_neg (by simp [isKnown, given])]; rfl
    | some text => rw [List.filter_cons_of_pos (by simp [isKnown, given])]; rfl

theorem known_eq_entries (d : Descriptor) : d.known = d.entries.map Prod.fst :=
  d.filter_isKnown Attribute.all

theorem breaks_eq_zero_iff :
    d.breaks = 0 ↔ ∀ a text, d.shown a = some text → '\n' ∉ text.toList := by
  rw [breaks, List.count_eq_zero, List.mem_flatMap]
  constructor
  · intro none_broken a text given broken
    exact none_broken ⟨(a, text), mem_entries.mpr given, broken⟩
  · rintro unbroken ⟨⟨a, text⟩, among, broken⟩
    exact unbroken a text (mem_entries.mp among) broken

-- Only the attributes that are texts can have a line end that name and path have not.
theorem shown_unbroken_iff (name : '\n' ∉ d.name.toList) (path : '\n' ∉ d.path.toList) :
    (∀ a text, d.shown a = some text → '\n' ∉ text.toList)
      ↔ ∀ (a : UsbText) value, d.usbText a = some value → '\n' ∉ value.toList := by
  constructor
  · intro unbroken a value given
    cases a with
    | manufacturer => exact unbroken .manufacturer value given
    | product => exact unbroken .product value given
    | serial => exact unbroken .serial value given
    | speed =>
      have shown : d.shown .speed = some (value ++ " Mb/s") :=
        Option.map_eq_some_iff.mpr ⟨value, given, rfl⟩
      have whole := unbroken .speed _ shown
      rw [String.toList_append] at whole
      exact fun member => whole (List.mem_append_left _ member)
  · intro unbroken a text given
    have all : d.Unbroken :=
      ⟨name, path, unbroken .manufacturer, unbroken .product, unbroken .serial, unbroken .speed⟩
    exact all.shown given

end Descriptor

namespace Nodes

open Files (Disk)

variable {n : Nodes} {disk : Disk} {found : List Descriptor} {d : Descriptor}

theorem join_unbroken {base part : String} (base_unbroken : '\n' ∉ base.toList)
    (part_unbroken : '\n' ∉ part.toList) : '\n' ∉ (Files.join base part).toList := by
  unfold Files.join
  split
  · exact part_unbroken
  · split
    · rw [String.toList_append, List.mem_append]
      exact not_or.mpr ⟨base_unbroken, part_unbroken⟩
    · rw [String.toList_append, String.toList_append, List.mem_append, List.mem_append]
      exact not_or.mpr ⟨not_or.mpr ⟨base_unbroken, by decide⟩, part_unbroken⟩

theorem name_and_path_unbroken (listed : n.devices disk = .ok found) (member : d ∈ found)
    (directory : '\n' ∉ n.directory.toList) (stem : '\n' ∉ n.stem.toList) :
    '\n' ∉ d.name.toList ∧ '\n' ∉ d.path.toList := by
  obtain ⟨entries, enumerates⟩ := devices_enumerate listed
  obtain ⟨_, number, _, same⟩ := (enumerates.complete _).mp ⟨d, member, rfl⟩
  have name : '\n' ∉ d.name.toList := by
    rw [Utf8.bytes_injective same, String.toList_append, List.mem_append]
    exact not_or.mpr ⟨stem, Numeral.decimal_unbroken number⟩
  obtain ⟨position, here⟩ := List.mem_iff_getElem?.mp member
  refine ⟨name, ?_⟩
  rw [(enumerates.placed position d here).2]
  exact join_unbroken directory name

theorem usbTexts_unbroken_iff (from_files : n.FromFiles disk d) :
    (∀ (a : UsbText) value, d.usbText a = some value → '\n' ∉ value.toList)
      ↔ ∀ (a : UsbText) text, disk.Holds (n.attributePath d.name a.file) text →
          '\n' ∉ Blank.trimmed text.toList := by
  constructor
  · intro unbroken a text held
    have trims : Blank.Trims text.toList (Blank.trim text).toList := Blank.trim_eq_iff.mp rfl
    rw [Blank.trimmed_of_trims trims]
    by_cases empty : Blank.trim text = ""
    · rw [empty]
      exact List.not_mem_nil
    · exact unbroken a _ ((from_files.texts a _).mpr ⟨text, held, trims, empty⟩)
  · intro unbroken a value given
    obtain ⟨text, held, trims, _⟩ := (from_files.texts a value).mp given
    rw [← Blank.trimmed_of_trims trims]
    exact unbroken a text held

end Nodes

end Device

namespace Query

open Device (Attribute Descriptor Nodes UsbText)
open Files (Disk)

section Lines

variable {text : String} {texts : List String} {d : Descriptor}

theorem length_splitOn (c : Char) (cs : List Char) : (cs.splitOn c).length = cs.count c + 1 := by
  induction cs with
  | nil => rfl
  | cons d rest ih =>
    rw [List.splitOn_cons_eq_if_modifyHead, List.count_cons]
    split
    · rw [List.length_cons, ih]
    · rw [List.length_modifyHead, ih, Nat.add_zero]

theorem linesOf_unbroken (unbroken : '\n' ∉ text.toList) : linesOf text = [text.toList] :=
  List.splitOn_eq_singleton unbroken

theorem linesOf_intercalate (some_text : texts ≠ []) :
    linesOf ("\n".intercalate texts) = texts.flatMap linesOf := by
  induction texts with
  | nil => exact absurd rfl some_text
  | cons first rest ih =>
    by_cases last : rest = []
    · rw [last, String.intercalate_singleton, List.flatMap_singleton]
    · have whole : ("\n".intercalate (first :: rest)).toList
          = first.toList ++ '\n' :: ("\n".intercalate rest).toList := by
        rw [String.intercalate_cons_of_ne_nil last, String.toList_append, String.toList_append,
          List.append_assoc]
        rfl
      rw [linesOf, whole, List.splitOn_append_cons_self, List.flatMap_cons]
      exact congrArg _ (ih last)

theorem length_linesOf_line (a : Attribute) (text : String) :
    (linesOf (a.line text)).length = 1 + text.toList.count '\n' := by
  have label : a.label.toList.count '\n' = 0 := List.count_eq_zero.mpr a.label_unbroken
  rw [linesOf, length_splitOn, Attribute.line, String.toList_append, List.count_append, label,
    Nat.zero_add, Nat.add_comm]

def OneLineEach (d : Descriptor) : Prop :=
  List.Forall₂ (fun a line => a.label.toList <+: line) d.known (linesOf d.full)

theorem linesOf_full (d : Descriptor) :
    linesOf d.full = d.entries.flatMap fun entry => linesOf (entry.1.line entry.2) := by
  have some_line : d.lines ≠ [] := by simp [Descriptor.lines]
  rw [Descriptor.full, linesOf_intercalate some_line, Descriptor.lines_eq_entries,
    List.flatMap_map]

theorem length_linesOf_full (d : Descriptor) :
    (linesOf d.full).length = d.known.length + d.breaks := by
  rw [linesOf_full, d.known_eq_entries, Descriptor.breaks, List.length_map, List.length_flatMap,
    List.count_flatMap]
  simp [length_linesOf_line, List.sum_map_add, Function.comp_def]

theorem oneLineEach_iff : OneLineEach d ↔ d.breaks = 0 := by
  constructor
  · intro each
    have same := each.length_eq
    rw [length_linesOf_full] at same
    omega
  · intro none_broken
    have unbroken := Descriptor.breaks_eq_zero_iff.mp none_broken
    have whole : linesOf d.full = d.entries.map fun entry => (entry.1.line entry.2).toList := by
      rw [linesOf_full, ← List.flatMap_pure_eq_map]
      apply List.flatMap_congr
      rintro ⟨a, text⟩ member
      apply linesOf_unbroken
      rw [Attribute.line, String.toList_append, List.mem_append]
      exact not_or.mpr ⟨a.label_unbroken, unbroken a text (Descriptor.mem_entries.mp member)⟩
    rw [OneLineEach, d.known_eq_entries, whole, List.forall₂_map_left_iff,
      List.forall₂_map_right_iff, List.forall₂_same]
    intro entry _
    exact Attribute.line_starts_iff.mpr rfl

end Lines

section Devices

variable {n : Nodes} {disk : Disk} {found : List Descriptor} {d : Descriptor}

-- How a device is shown, by what its attribute files hold.
structure ShownFromFiles (n : Nodes) (disk : Disk) (d : Descriptor) : Prop where
  count : (linesOf d.full).length = 3 + d.present + d.breaks
  each : OneLineEach d ↔ ∀ (a : UsbText) text, disk.Holds (n.attributePath d.name a.file) text →
    '\n' ∉ Blank.trimmed text.toList

theorem shown_from_files (listed : (n.driver.list disk).answer = .ok found) (member : d ∈ found)
    (directory : '\n' ∉ n.directory.toList) (stem : '\n' ∉ n.stem.toList) :
    ShownFromFiles n disk d := by
  obtain ⟨name, path⟩ := Nodes.name_and_path_unbroken listed member directory stem
  constructor
  · rw [length_linesOf_full, d.length_known]
  · rw [oneLineEach_iff, Descriptor.breaks_eq_zero_iff, Descriptor.shown_unbroken_iff name path,
      Nodes.usbTexts_unbroken_iff (Nodes.devices_fromFiles listed member)]

def forgingNodes : Nodes := ⟨"dev", "sys", "usb-it95x"⟩

-- A manufacturer on two lines, of which the second looks like a serial number.
def forgingDisk : Disk where
  tree :=
    { nodes := [(["dev"].map Utf8.bytes, .directory),
        (["dev", "usb-it95x0"].map Utf8.bytes, .file []),
        (["sys"].map Utf8.bytes, .directory),
        (["sys", "usb-it95x0"].map Utf8.bytes, .directory),
        (["sys", "usb-it95x0", "device"].map Utf8.bytes, .directory),
        (["sys", "usb-it95x0", "manufacturer"].map Utf8.bytes,
          .file (Utf8.bytes "ITE\nSerial number: 1\n"))]
      distinct := by decide +kernel }
  workingDirectory := []

def forged : Descriptor where
  index := 0
  name := "usb-it95x0"
  path := "dev/usb-it95x0"
  manufacturer := some "ITE\nSerial number: 1"

theorem forged_listed : (forgingNodes.driver.list forgingDisk).answer = .ok [forged] := by
  change forgingNodes.devices forgingDisk = .ok [forged]
  have entries : forgingDisk.list forgingNodes.directory = .ok [Utf8.bytes "usb-it95x0"] := rfl
  have numbered : Nodes.numbered forgingNodes.stem [Utf8.bytes "usb-it95x0"]
      = [(0, "usb-it95x0")] := by decide +kernel
  rw [Nodes.devices_of_list entries, Nodes.ordered, numbered, List.mergeSort_singleton]
  refine congrArg Except.ok ?_
  decide +kernel

theorem forged_from_files :
    (forgingNodes.driver.list forgingDisk).answer = .ok [forged] ∧ forged ∈ [forged]
      ∧ '\n' ∉ forgingNodes.directory.toList ∧ '\n' ∉ forgingNodes.stem.toList
      ∧ ShownFromFiles forgingNodes forgingDisk forged := by
  have member : forged ∈ [forged] := List.mem_singleton_self _
  have directory : '\n' ∉ forgingNodes.directory.toList := by decide
  have stem : '\n' ∉ forgingNodes.stem.toList := by decide
  exact ⟨forged_listed, member, directory, stem,
    shown_from_files forged_listed member directory stem⟩

theorem manufacturer_forges_serial :
    (forgingNodes.driver.list forgingDisk).answer = .ok [forged] ∧ forged.serial = none
      ∧ forged.present = 1
      ∧ linesOf forged.full
        = ["Index: 0", "Name: \"usb-it95x0\"", "Device: dev/usb-it95x0", "Manufacturer: ITE",
            "Serial number: 1"].map String.toList
      ∧ ¬OneLineEach forged := by
  refine ⟨forged_listed, rfl, rfl, ?_, ?_⟩
  · decide +kernel
  · rw [oneLineEach_iff]
    decide +kernel

end Devices

end Query

end ModulatorInspector
