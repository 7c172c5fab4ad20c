import ModulatorInspector.Proofs.Device.Attributes
import ModulatorInspector.Proofs.Text.Hexadecimals

namespace ModulatorInspector.Device

open Files (Disk)

def UsbId.label : UsbId → String
  | .vendor => "Vendor id: "
  | .product => "Product id: "

theorem Descriptor.idLine_mem_lines {d : Descriptor} {a : UsbId} {id : UInt16}
    (known : d.usbId a = some id) : idLine a.label id ∈ d.lines := by
  cases a with
  | vendor =>
    have vendor : d.vendorId = some id := known
    simp [lines, vendor, UsbId.label]
  | product =>
    have product : d.productId = some id := known
    simp [lines, product, UsbId.label]

namespace Nodes

variable {n : Nodes} {disk : Disk} {found : List Descriptor} {d : Descriptor} {a : UsbId}
  {text : String} {id : UInt16} {content : List UInt8} {place : Files.Location}

-- A numeral of at most sixteen bits. A plus sign may stand before the digits, and no other sign.
def DenotesId (core : List Char) (id : UInt16) : Prop :=
  Numeral.Hexadecimal core id.toNat
    ∨ ∃ digits, core = '+' :: digits ∧ Numeral.Hexadecimal digits id.toNat

-- The bytes are a text, and what it is without the white space around it denotes the identifier.
def WritesId (content : List UInt8) (id : UInt16) : Prop :=
  ∃ text core, content = Utf8.bytes text ∧ Blank.Trims text.toList core ∧ DenotesId core id

theorem readId_eq_some_iff : readId text = some id ↔ DenotesId text.toList id := by
  have within : id.toNat ≤ Numeral.greatest16 := Nat.le_of_lt_succ id.toNat_lt
  have numeral : Numeral.natural 16 Numeral.greatest16 text.toList = .ok id.toNat
      ↔ DenotesId text.toList id := by
    rw [Numeral.natural_sixteen_iff]
    exact and_iff_left within
  rw [← numeral, readId]
  cases read : Numeral.natural 16 Numeral.greatest16 text.toList with
  | error fault => exact ⟨nofun, nofun⟩
  | ok value =>
    have small : value < UInt16.size := Nat.lt_succ_of_le (Numeral.natural_sixteen_iff.mp read).2
    have same : value.toUInt16.toNat = value := UInt16.toNat_ofNat_of_lt' small
    constructor
    · intro found
      rw [← Option.some.inj found]
      exact congrArg Except.ok same.symm
    · intro found
      rw [Except.ok.inj found]
      exact congrArg some UInt16.ofNat_toNat

theorem holds_iff_of_find {path : String} (given : disk.find path = .ok (place, .file content)) :
    disk.Holds path text ↔ content = Utf8.bytes text := by
  rw [Disk.Holds, given]
  simp

theorem usbId_eq_some_iff (from_files : n.FromFiles disk d)
    (given : disk.find (n.attributePath d.name a.file) = .ok (place, .file content)) :
    d.usbId a = some id ↔ WritesId content id := by
  simp only [from_files.ids, holds_iff_of_find given, readId_eq_some_iff, Blank.trim,
    String.toList_ofList, WritesId]
  constructor
  · rintro ⟨text, holds, denotes⟩
    exact ⟨text, _, holds, Blank.trims_trimmed text.toList, denotes⟩
  · rintro ⟨text, core, holds, trims, denotes⟩
    refine ⟨text, holds, ?_⟩
    rwa [Blank.trimmed_of_trims trims]

theorem writesId_of_hex4 {written : String}
    (same : Blank.sameIgnoringCase written (Numeral.hex4 id) = true)
    (content_eq : content = Utf8.bytes written ∨ content = Utf8.bytes (written ++ "\n")) :
    WritesId content id := by
  have numeral := (Numeral.hexadecimal_hex4 id).of_sameIgnoringCase same
  rcases content_eq with rfl | rfl
  · refine ⟨written, written.toList, rfl, ?_, .inl numeral⟩
    simpa using numeral.trims [] nofun
  · refine ⟨written ++ "\n", written.toList, rfl, ?_, .inl numeral⟩
    have lineEnd : ∀ c ∈ ['\n'], Blank.isBlank c = true := by simp [Blank.isBlank]
    rw [String.toList_append]
    exact numeral.trims ['\n'] lineEnd

theorem mem_events_of_idEvents (listed : n.devices disk = .ok found) (member : d ∈ found)
    {event : Diagnostics.Event}
    (left : event ∈ idEvents disk (n.attributeDirectory d.name) a.file) :
    event ∈ (n.driver.list disk).events := by
  have of_device : event ∈ n.descriptorEvents disk d.name := by
    refine List.mem_append_left _ (List.mem_flatMap.mpr ⟨a.file, ?_, left⟩)
    cases a <;> decide
  change event ∈ (n.list disk).events
  rw [list, listed]
  exact List.mem_append_left _ (List.mem_flatMap.mpr ⟨d, member, of_device⟩)

theorem malformed_mem_events (listed : n.devices disk = .ok found) (member : d ∈ found)
    (given : disk.find (n.attributePath d.name a.file) = .ok (place, .file (Utf8.bytes text)))
    {core : String} (trims : Blank.Trims text.toList core.toList) (nonempty : core ≠ "")
    (unread : d.usbId a = none) :
    .attributeMalformed a.file core ∈ (n.driver.list disk).events := by
  have kept : attribute? disk (n.attributeDirectory d.name) a.file = some core :=
    attribute?_eq_some_iff.mpr ⟨text, (holds_iff_of_find given).mpr rfl, trims, nonempty⟩
  have meaningless : readId core = none := by
    rw [Option.eq_none_iff_forall_ne_some]
    intro id reads
    have known := (usbId_eq_some_iff (devices_fromFiles listed member) given).mpr
      ⟨text, core.toList, rfl, trims, readId_eq_some_iff.mp reads⟩
    rw [unread] at known
    cases known
  have left : .attributeMalformed a.file core
      ∈ idEvents disk (n.attributeDirectory d.name) a.file := by
    rw [idEvents, kept]
    refine List.mem_append_right _ ?_
    simp [meaningless]
  exact mem_events_of_idEvents listed member left

-- What the bytes of its file come to as an identifier of a device. The digits of `shown` are those
-- behind `0x` in the full description of any device that has this identifier.
structure IdAsWritten (n : Nodes) (disk : Disk) (d : Descriptor) (a : UsbId)
    (content : List UInt8) : Prop where
  read (id : UInt16) : d.usbId a = some id ↔ WritesId content id
  malformed (text core : String) : content = Utf8.bytes text →
    Blank.Trims text.toList core.toList → core ≠ "" → d.usbId a = none →
      .attributeMalformed a.file core ∈ (n.driver.list disk).events
  shown (other : Descriptor) (id : UInt16) : other.usbId a = some id →
    ∃ digits : String, digits.length = 4 ∧ a.label ++ "0x" ++ digits ∈ other.lines
      ∧ ∀ written, Blank.sameIgnoringCase written digits = true →
        content = Utf8.bytes written ∨ content = Utf8.bytes (written ++ "\n") →
          d.usbId a = some id

theorem usbId_as_written (n : Nodes) (disk : Disk) (found : List Descriptor) (d : Descriptor)
    (a : UsbId) (place : Files.Location) (content : List UInt8)
    (enumerated : (n.driver.list disk).answer = .ok found) (member : d ∈ found)
    (given : disk.find (n.attributePath d.name a.file) = .ok (place, .file content)) :
    n.IdAsWritten disk d a content := by
  have listed : n.devices disk = .ok found := enumerated
  have from_files := devices_fromFiles listed member
  have read (id : UInt16) : d.usbId a = some id ↔ WritesId content id :=
    usbId_eq_some_iff from_files given
  refine ⟨read, ?_, ?_⟩
  · rintro text core rfl trims nonempty unread
    exact malformed_mem_events listed member given trims nonempty unread
  · intro other id known
    refine ⟨Numeral.hex4 id, ?_, Descriptor.idLine_mem_lines known, ?_⟩
    · rw [Numeral.hex4, String.length_ofList]
      rfl
    · intro written same content_eq
      exact (read id).mpr (writesId_of_hex4 same content_eq)

def signedDisk : Disk where
  tree :=
    { nodes := [(["dev"].map Utf8.bytes, .directory),
        (["dev", "usb-it95x0"].map Utf8.bytes, .file []),
        (["sys"].map Utf8.bytes, .directory),
        (["sys", "class"].map Utf8.bytes, .directory),
        (["sys", "class", "usbmisc"].map Utf8.bytes, .directory),
        (["sys", "class", "usbmisc", "usb-it95x0"].map Utf8.bytes, .directory),
        (["sys", "class", "usbmisc", "usb-it95x0", "device"].map Utf8.bytes, .directory),
        (["sys", "class", "usbmisc", "usb-it95x0", "idVendor"].map Utf8.bytes,
          .file (Utf8.bytes "+048d\n")),
        (["sys", "class", "usbmisc", "usb-it95x0", "idProduct"].map Utf8.bytes,
          .file (Utf8.bytes "95ac\n"))]
      distinct := by decide +kernel }
  workingDirectory := []

def signedFound : Descriptor :=
  { index := 0, name := "usb-it95x0", path := "/dev/usb-it95x0", vendorId := some 0x048D,
    productId := some 0x95AC }

theorem signedDisk_listed :
    ((ofSettings .standard).driver.list signedDisk).answer = .ok [signedFound] := by
  change (ofSettings .standard).devices signedDisk = .ok [signedFound]
  have entries : signedDisk.list (ofSettings .standard).directory
      = .ok [Utf8.bytes "usb-it95x0"] := by decide +kernel
  have numbered : numbered (ofSettings .standard).stem [Utf8.bytes "usb-it95x0"]
      = [(0, "usb-it95x0")] := by decide +kernel
  rw [devices_of_list entries, ordered, numbered, List.mergeSort_singleton]
  refine congrArg Except.ok ?_
  decide +kernel

def signedPlace (file : String) : Files.Location :=
  ["sys", "class", "usbmisc", "usb-it95x0", file].map Utf8.bytes

theorem signedDisk_product : signedDisk.find
    ((ofSettings .standard).attributePath signedFound.name UsbId.product.file)
      = .ok (signedPlace "idProduct", .file (Utf8.bytes "95ac\n")) := by decide +kernel

theorem product_as_written :
    ((ofSettings .standard).driver.list signedDisk).answer = .ok [signedFound]
      ∧ signedDisk.find ((ofSettings .standard).attributePath "usb-it95x0" "idProduct")
        = .ok (signedPlace "idProduct", .file (Utf8.bytes "95ac\n"))
      ∧ (ofSettings .standard).IdAsWritten signedDisk signedFound .product (Utf8.bytes "95ac\n") :=
  ⟨signedDisk_listed, signedDisk_product,
    usbId_as_written _ _ _ _ _ _ _ signedDisk_listed (List.mem_singleton_self _) signedDisk_product⟩

-- A sign is no digit, and what it stands before is read all the same.
theorem sign_overlooked :
    ((ofSettings .standard).driver.list signedDisk).answer = .ok [signedFound]
      ∧ signedFound.vendorId = some 0x048D
      ∧ signedDisk.find ((ofSettings .standard).attributePath "usb-it95x0" "idVendor")
        = .ok (signedPlace "idVendor", .file (Utf8.bytes "+048d\n"))
      ∧ Blank.Trims "+048d\n".toList "+048d".toList
      ∧ ∀ n, ¬Numeral.Hexadecimal "+048d".toList n := by
  refine ⟨signedDisk_listed, rfl, by decide +kernel, ?_, ?_⟩
  · exact Blank.trimmed_eq_iff.mp (by decide)
  · intro n numeral
    exact numeral.head?_ne_plus rfl

end Nodes

end ModulatorInspector.Device
