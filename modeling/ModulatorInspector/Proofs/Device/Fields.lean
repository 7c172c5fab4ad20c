import ModulatorInspector.Device.Session
import ModulatorInspector.Proofs.Text.Numerals

namespace ModulatorInspector.Device

inductive Attribute where
  | index | name | path | vendorId | productId | manufacturer | product | serial | speed
  deriving DecidableEq

namespace Attribute

def further : List Attribute :=
  [.name, .path, .vendorId, .productId, .manufacturer, .product, .serial, .speed]

def all : List Attribute := .index :: further

theorem mem_all (a : Attribute) : a ∈ all := by cases a <;> decide

def label : Attribute → String
  | .index => "Index: "
  | .name => "Name: "
  | .path => "Device: "
  | .vendorId => "Vendor id: "
  | .productId => "Product id: "
  | .manufacturer => "Manufacturer: "
  | .product => "Product: "
  | .serial => "Serial number: "
  | .speed => "USB speed: "

def line (a : Attribute) (text : String) : String := a.label ++ text

theorem label_unbroken (a : Attribute) : '\n' ∉ a.label.toList := by cases a <;> decide

theorem labels_apart {a b : Attribute} (start : a.label.toList <+: b.label.toList) : a = b := by
  have apart : ∀ a ∈ all, ∀ b ∈ all, a.label.toList <+: b.label.toList → a = b := by decide
  exact apart a (mem_all a) b (mem_all b) start

-- Of two labels in front of one line the shorter would be the beginning of the longer.
theorem line_starts_iff {a b : Attribute} {text : String} :
    a.label.toList <+: (b.line text).toList ↔ a = b := by
  rw [line, String.toList_append]
  constructor
  · intro start
    rcases List.prefix_or_prefix_of_prefix start (List.prefix_append _ _) with shorter | longer
    · exact labels_apart shorter
    · exact (labels_apart longer).symm
  · rintro rfl
    exact List.prefix_append _ _

theorem line_injective {a b : Attribute} {text other : String} (same : a.line text = b.line other) :
    a = b ∧ text = other := by
  have start : a.label.toList <+: (a.line text).toList := line_starts_iff.mpr rfl
  rw [same] at start
  obtain rfl := line_starts_iff.mp start
  exact ⟨rfl, (String.append_right_inj _).mp same⟩

end Attribute

namespace Descriptor

def shown (d : Descriptor) : Attribute → Option String
  | .index => some (toString d.index)
  | .name => some ("\"" ++ d.name ++ "\"")
  | .path => some d.path
  | .vendorId => d.vendorId.map fun id => "0x" ++ Numeral.hex4 id
  | .productId => d.productId.map fun id => "0x" ++ Numeral.hex4 id
  | .manufacturer => d.manufacturer
  | .product => d.product
  | .serial => d.serial
  | .speed => d.speed.map (· ++ " Mb/s")

def entry (d : Descriptor) (a : Attribute) : List (Attribute × String) :=
  ((d.shown a).map fun text => (a, text)).toList

def entries (d : Descriptor) : List (Attribute × String) := Attribute.all.flatMap d.entry

theorem mem_entry {d : Descriptor} {a b : Attribute} {text : String} :
    (b, text) ∈ d.entry a ↔ a = b ∧ d.shown a = some text := by
  rw [entry, Option.mem_toList, Option.map_eq_some_iff]
  constructor
  · rintro ⟨_, given, same⟩
    cases same
    exact ⟨rfl, given⟩
  · rintro ⟨rfl, given⟩
    exact ⟨text, given, rfl⟩

theorem mem_entries {d : Descriptor} {a : Attribute} {text : String} :
    (a, text) ∈ d.entries ↔ d.shown a = some text := by
  rw [entries, List.mem_flatMap]
  constructor
  · rintro ⟨b, -, member⟩
    obtain ⟨rfl, given⟩ := mem_entry.mp member
    exact given
  · intro given
    exact ⟨a, a.mem_all, mem_entry.mpr ⟨rfl, given⟩⟩

-- The index is the first entry, and none behind it is one.
theorem entries_head (d : Descriptor) :
    ∃ rest, d.entries = (.index, toString d.index) :: rest ∧ ∀ entry ∈ rest, entry.1 ≠ .index := by
  refine ⟨Attribute.further.flatMap d.entry, rfl, ?_⟩
  rintro ⟨a, text⟩ member
  obtain ⟨b, among, shown⟩ := List.mem_flatMap.mp member
  obtain ⟨rfl, -⟩ := mem_entry.mp shown
  rintro rfl
  exact absurd among (by decide)

theorem entry_lines (d : Descriptor) (a : Attribute) :
    ((d.entry a).map fun entry => entry.1.line entry.2) = ((d.shown a).map a.line).toList := by
  rw [entry]
  cases d.shown a with
  | none => rfl
  | some text => rfl

theorem lines_eq_entries (d : Descriptor) :
    d.lines = d.entries.map fun entry => entry.1.line entry.2 := by
  have named : "Name: \"" ++ d.name ++ "\"" = Attribute.line .name ("\"" ++ d.name ++ "\"") := by
    rw [Attribute.line, ← String.append_assoc, ← String.append_assoc]
    rfl
  have vendor : idLine "Vendor id: "
      = fun id => Attribute.line .vendorId ("0x" ++ Numeral.hex4 id) :=
    funext fun id => String.append_assoc
  have product : idLine "Product id: "
      = fun id => Attribute.line .productId ("0x" ++ Numeral.hex4 id) :=
    funext fun id => String.append_assoc
  have speed : (fun text => "USB speed: " ++ text ++ " Mb/s")
      = fun text => Attribute.line .speed (text ++ " Mb/s") :=
    funext fun text => String.append_assoc
  rw [entries, List.map_flatMap, funext d.entry_lines, lines, named, vendor, product, speed]
  simp only [Attribute.all, Attribute.further, List.flatMap_cons, List.flatMap_nil,
    List.append_nil, List.append_assoc, shown, Option.map_map]
  rfl

theorem eq_of_shown {d e : Descriptor} (same : ∀ a, d.shown a = e.shown a) : d = e := by
  have hex {m n : UInt16} (same : "0x" ++ Numeral.hex4 m = "0x" ++ Numeral.hex4 n) : m = n :=
    Numeral.hex4_injective ((String.append_right_inj _).mp same)
  have index : d.index = e.index :=
    UInt32.toNat_inj.mp (Numeral.decimal_injective (Option.some.inj (same .index)))
  have name : d.name = e.name :=
    (String.append_right_inj _).mp ((String.append_left_inj _).mp (Option.some.inj (same .name)))
  have path : d.path = e.path := Option.some.inj (same .path)
  have vendorId : d.vendorId = e.vendorId :=
    Option.map_inj_right (fun _ _ => hex) |>.mp (same .vendorId)
  have productId : d.productId = e.productId :=
    Option.map_inj_right (fun _ _ => hex) |>.mp (same .productId)
  have speed : d.speed = e.speed :=
    Option.map_inj_right (fun _ _ => (String.append_left_inj _).mp) |>.mp (same .speed)
  have manufacturer : d.manufacturer = e.manufacturer := same .manufacturer
  have product : d.product = e.product := same .product
  have serial : d.serial = e.serial := same .serial
  obtain ⟨⟩ := d
  obtain ⟨⟩ := e
  cases index; cases name; cases path; cases vendorId; cases productId
  cases manufacturer; cases product; cases serial; cases speed
  rfl

-- No text of the device has a line end in it.
structure Unbroken (d : Descriptor) : Prop where
  name : '\n' ∉ d.name.toList
  path : '\n' ∉ d.path.toList
  manufacturer : ∀ text ∈ d.manufacturer, '\n' ∉ text.toList
  product : ∀ text ∈ d.product, '\n' ∉ text.toList
  serial : ∀ text ∈ d.serial, '\n' ∉ text.toList
  speed : ∀ text ∈ d.speed, '\n' ∉ text.toList

instance (d : Descriptor) : Decidable d.Unbroken :=
  decidable_of_iff
    ('\n' ∉ d.name.toList ∧ '\n' ∉ d.path.toList
      ∧ (∀ text ∈ d.manufacturer, '\n' ∉ text.toList) ∧ (∀ text ∈ d.product, '\n' ∉ text.toList)
      ∧ (∀ text ∈ d.serial, '\n' ∉ text.toList) ∧ ∀ text ∈ d.speed, '\n' ∉ text.toList)
    ⟨fun ⟨name, path, manufacturer, product, serial, speed⟩ =>
        ⟨name, path, manufacturer, product, serial, speed⟩,
      fun ⟨name, path, manufacturer, product, serial, speed⟩ =>
        ⟨name, path, manufacturer, product, serial, speed⟩⟩

theorem Unbroken.shown {d : Descriptor} (unbroken : d.Unbroken) {a : Attribute} {text : String}
    (given : d.shown a = some text) : '\n' ∉ text.toList := by
  have hex {id? : Option UInt16} (given : id?.map (fun id => "0x" ++ Numeral.hex4 id) = some text) :
      '\n' ∉ text.toList := by
    obtain ⟨id, -, rfl⟩ := Option.map_eq_some_iff.mp given
    rw [String.toList_append, List.mem_append]
    exact not_or.mpr ⟨by decide, Numeral.hex4_unbroken id⟩
  cases a with
  | index =>
    cases given
    exact Numeral.decimal_unbroken _
  | name =>
    cases given
    simp only [String.toList_append, List.mem_append, not_or]
    exact ⟨⟨by decide, unbroken.name⟩, by decide⟩
  | path =>
    cases given
    exact unbroken.path
  | vendorId => exact hex given
  | productId => exact hex given
  | manufacturer => exact unbroken.manufacturer text given
  | product => exact unbroken.product text given
  | serial => exact unbroken.serial text given
  | speed =>
    obtain ⟨speed, known, rfl⟩ := Option.map_eq_some_iff.mp given
    rw [String.toList_append, List.mem_append]
    exact not_or.mpr ⟨unbroken.speed speed known, by decide⟩

theorem Unbroken.lines {d : Descriptor} (unbroken : d.Unbroken) :
    ∀ text ∈ d.lines, '\n' ∉ text.toList := by
  intro text member
  rw [lines_eq_entries] at member
  obtain ⟨⟨a, shown⟩, among, rfl⟩ := List.mem_map.mp member
  rw [Attribute.line, String.toList_append, List.mem_append]
  exact not_or.mpr ⟨a.label_unbroken, unbroken.shown (mem_entries.mp among)⟩

end Descriptor

end ModulatorInspector.Device
