import ModulatorInspector.Proofs.Device.Enumeration
import ModulatorInspector.Proofs.Files.Reading
import ModulatorInspector.Proofs.Text.Blank

namespace ModulatorInspector.Device

open Files (Disk)

inductive UsbText where
  | manufacturer | product | serial | speed

inductive UsbId where
  | vendor | product

def UsbText.file : UsbText → String
  | .manufacturer => "manufacturer"
  | .product => "product"
  | .serial => "serial"
  | .speed => "speed"

def UsbId.file : UsbId → String
  | .vendor => "idVendor"
  | .product => "idProduct"

namespace Descriptor

def usbText (d : Descriptor) : UsbText → Option String
  | .manufacturer => d.manufacturer
  | .product => d.product
  | .serial => d.serial
  | .speed => d.speed

def usbId (d : Descriptor) : UsbId → Option UInt16
  | .vendor => d.vendorId
  | .product => d.productId

def node (d : Descriptor) : UInt32 × String × String := (d.index, d.name, d.path)

end Descriptor

namespace Nodes

variable {n : Nodes} {disk other : Disk} {directory file : String}

def attributePath (n : Nodes) (name file : String) : String :=
  Files.join (Files.join (Files.join (Files.join n.sysfs name) "device") "..") file

theorem attribute?_eq_some_iff {value : String} : attribute? disk directory file = some value ↔
    ∃ text, disk.Holds (Files.join directory file) text
      ∧ Blank.Trims text.toList value.toList ∧ value ≠ "" := by
  unfold attribute?
  simp only [← Disk.readText_eq_ok_iff, ← Blank.trim_eq_iff]
  cases disk.readText (Files.join directory file) with
  | error fault => simp
  | ok text =>
    simp only [Except.ok.injEq, exists_eq_left', Option.ite_none_left_eq_some, Option.some.injEq]
    constructor
    · rintro ⟨nonempty, rfl⟩
      exact ⟨rfl, nonempty⟩
    · rintro ⟨rfl, nonempty⟩
      exact ⟨nonempty, rfl⟩

theorem attribute?_isSome_iff : (attribute? disk directory file).isSome ↔
    ∃ text, disk.Holds (Files.join directory file) text
      ∧ ∃ c ∈ text.toList, Blank.isBlank c = false := by
  simp only [Option.isSome_iff_exists, attribute?_eq_some_iff, ← Blank.trimmed_ne_nil_iff]
  constructor
  · rintro ⟨value, text, holds, trims, nonempty⟩
    refine ⟨text, holds, ?_⟩
    rw [Blank.trimmed_of_trims trims]
    exact mt String.toList_eq_nil_iff.mp nonempty
  · rintro ⟨text, holds, more⟩
    refine ⟨Blank.trim text, text, holds, Blank.trim_eq_iff.mp rfl, fun empty => more ?_⟩
    exact Blank.trimmed_of_trims (Blank.trim_eq_iff.mp empty)

-- An empty numeral denotes nothing, so that a blank file needs no case of its own.
theorem id?_eq_some_iff {id : UInt16} : id? disk directory file = some id ↔
    ∃ text, disk.Holds (Files.join directory file) text ∧ readId (Blank.trim text) = some id := by
  simp only [id?, Option.bind_eq_some_iff, attribute?_eq_some_iff, ← Blank.trim_eq_iff]
  constructor
  · rintro ⟨value, ⟨text, holds, rfl, nonempty⟩, reads⟩
    exact ⟨text, holds, reads⟩
  · rintro ⟨text, holds, reads⟩
    refine ⟨_, ⟨text, holds, rfl, ?_⟩, reads⟩
    intro empty
    rw [empty] at reads
    cases reads

theorem usbText_descriptor (n : Nodes) (disk : Disk) (index : Nat) (name : String) (a : UsbText) :
    (n.descriptor disk index name).usbText a
      = attribute? disk (n.attributeDirectory name) a.file := by
  cases a <;> simp only [descriptor, Descriptor.usbText, UsbText.file]

theorem usbId_descriptor (n : Nodes) (disk : Disk) (index : Nat) (name : String) (a : UsbId) :
    (n.descriptor disk index name).usbId a = id? disk (n.attributeDirectory name) a.file := by
  cases a <;> simp only [descriptor, Descriptor.usbId, UsbId.file]

-- What the files beside a device say of it. Each attribute rests on one of them.
structure FromFiles (n : Nodes) (disk : Disk) (d : Descriptor) : Prop where
  texts (a : UsbText) (value : String) : d.usbText a = some value ↔
    ∃ text, disk.Holds (n.attributePath d.name a.file) text
      ∧ Blank.Trims text.toList value.toList ∧ value ≠ ""
  present (a : UsbText) : (d.usbText a).isSome ↔
    ∃ text, disk.Holds (n.attributePath d.name a.file) text
      ∧ ∃ c ∈ text.toList, Blank.isBlank c = false
  ids (a : UsbId) (id : UInt16) : d.usbId a = some id ↔
    ∃ text, disk.Holds (n.attributePath d.name a.file) text ∧ readId (Blank.trim text) = some id

theorem descriptor_fromFiles (n : Nodes) (disk : Disk) (index : Nat) (name : String) :
    n.FromFiles disk (n.descriptor disk index name) := by
  constructor
  · intro a value
    rw [usbText_descriptor]
    exact attribute?_eq_some_iff
  · intro a
    rw [usbText_descriptor]
    exact attribute?_isSome_iff
  · intro a id
    rw [usbId_descriptor]
    exact id?_eq_some_iff

theorem devices_fromFiles {found : List Descriptor} (listed : n.devices disk = .ok found)
    {d : Descriptor} (member : d ∈ found) : n.FromFiles disk d := by
  unfold devices at listed
  split at listed
  · cases listed
  · cases listed
    obtain ⟨⟨name, index⟩, _, rfl⟩ := List.mem_map.mp member
    exact n.descriptor_fromFiles disk index name

theorem FromFiles.usbText_eq {d d' : Descriptor} (from_files : n.FromFiles disk d)
    (from_files' : n.FromFiles other d') (same : d.name = d'.name) (a : UsbText)
    (alike : disk.ReadsAlike other (n.attributePath d.name a.file)) :
    d.usbText a = d'.usbText a := by
  apply Option.ext
  intro value
  rw [from_files.texts, from_files'.texts, ← same]
  exact exists_congr fun text => and_congr_left' (alike text)

theorem FromFiles.usbId_eq {d d' : Descriptor} (from_files : n.FromFiles disk d)
    (from_files' : n.FromFiles other d') (same : d.name = d'.name) (a : UsbId)
    (alike : disk.ReadsAlike other (n.attributePath d.name a.file)) : d.usbId a = d'.usbId a := by
  apply Option.ext
  intro id
  rw [from_files.ids, from_files'.ids, ← same]
  exact exists_congr fun text => and_congr_left' (alike text)

-- The same nodes in the same order, whatever their attributes, or the same failure.
inductive SameNodes : Outcome (List Descriptor) → Outcome (List Descriptor) → Prop where
  | failed (failure) : SameNodes (.error failure) (.error failure)
  | listed (same : found.map Descriptor.node = found'.map Descriptor.node) :
      SameNodes (.ok found) (.ok found')

theorem map_node_descriptors (n : Nodes) (disk other : Disk) (names : List String) :
    (n.descriptors disk names).map Descriptor.node
      = (n.descriptors other names).map Descriptor.node := by
  simp only [descriptors, List.map_map, Function.comp_def, Descriptor.node, descriptor]

theorem devices_sameNodes (alike : disk.ListsAlike other n.directory) :
    SameNodes (n.devices disk) (n.devices other) := by
  cases alike with
  | failed fault refused refused' =>
    rw [devices, devices, refused, refused']
    exact .failed _
  | listed names names' given given' same =>
    have perm := Disk.perm_of_same_names given given' same
    rw [devices_of_list given, devices_of_list given', ordered_eq, ordered_eq,
      numbers_eq_of_perm n.stem (Disk.list_nodup given) perm]
    exact .listed (n.map_node_descriptors disk other _)

-- What two disks share whose directory of devices lists alike, however else they differ.
structure BestEffort (n : Nodes) (disk other : Disk) : Prop where
  nodes : SameNodes (n.driver.list disk).answer (n.driver.list other).answer
  fromFiles (found : List Descriptor) : (n.driver.list disk).answer = .ok found →
    ∀ d ∈ found, n.FromFiles disk d
  ownFile (found found' : List Descriptor) : (n.driver.list disk).answer = .ok found →
    (n.driver.list other).answer = .ok found' → ∀ d ∈ found, ∀ d' ∈ found', d.name = d'.name →
      (∀ a : UsbText, disk.ReadsAlike other (n.attributePath d.name a.file) →
        d.usbText a = d'.usbText a)
      ∧ ∀ a : UsbId, disk.ReadsAlike other (n.attributePath d.name a.file) →
        d.usbId a = d'.usbId a

theorem list_best_effort (n : Nodes) (disk other : Disk)
    (alike : disk.ListsAlike other n.directory) : n.BestEffort disk other := by
  constructor
  · exact devices_sameNodes alike
  · intro found listed d member
    exact devices_fromFiles listed member
  · intro found found' listed listed' d member d' member' same
    have from_files := devices_fromFiles listed member
    have from_files' := devices_fromFiles listed' member'
    exact ⟨from_files.usbText_eq from_files' same, from_files.usbId_eq from_files' same⟩

def bareDisk : Disk where
  tree :=
    { nodes := [(["dev"].map Utf8.bytes, .directory),
        (["dev", "usb-it95x1"].map Utf8.bytes, .file []),
        (["dev", "usb-it95x0"].map Utf8.bytes, .file [])]
      distinct := by decide }
  workingDirectory := []

-- The same nodes in another order. The interface of one of them is behind a link, and beside it are a
-- good attribute, one that is no text, one that leads to itself, one that is a directory and an
-- identifier that is no numeral.
def furnishedDisk : Disk where
  tree :=
    { nodes := [(["dev"].map Utf8.bytes, .directory),
        (["dev", "usb-it95x0"].map Utf8.bytes, .file []),
        (["dev", "usb-it95x1"].map Utf8.bytes, .file []),
        (["sys"].map Utf8.bytes, .directory),
        (["sys", "class"].map Utf8.bytes, .directory),
        (["sys", "class", "usbmisc"].map Utf8.bytes, .directory),
        (["sys", "class", "usbmisc", "usb-it95x0"].map Utf8.bytes, .directory),
        (["sys", "class", "usbmisc", "usb-it95x0", "device"].map Utf8.bytes, .link "/usb/port/face"),
        (["usb"].map Utf8.bytes, .directory),
        (["usb", "port"].map Utf8.bytes, .directory),
        (["usb", "port", "face"].map Utf8.bytes, .directory),
        (["usb", "port", "manufacturer"].map Utf8.bytes, .file (Utf8.bytes " ITE Tech.\n")),
        (["usb", "port", "product"].map Utf8.bytes, .file [255]),
        (["usb", "port", "serial"].map Utf8.bytes, .link "serial"),
        (["usb", "port", "speed"].map Utf8.bytes, .directory),
        (["usb", "port", "idVendor"].map Utf8.bytes, .file (Utf8.bytes "none\n"))]
      distinct := by decide +kernel }
  workingDirectory := []

theorem best_effort_without_sysfs :
    furnishedDisk.ListsAlike bareDisk (ofSettings .standard).directory
      ∧ (ofSettings .standard).BestEffort furnishedDisk bareDisk := by
  have alike : furnishedDisk.ListsAlike bareDisk (ofSettings .standard).directory :=
    .listed (["usb-it95x0", "usb-it95x1"].map Utf8.bytes)
      (["usb-it95x1", "usb-it95x0"].map Utf8.bytes) rfl rfl
      fun name => (List.Perm.swap ..).mem_iff
  exact ⟨alike, list_best_effort _ _ _ alike⟩

example : (ofSettings .standard).descriptor furnishedDisk 0 "usb-it95x0"
    = { index := 0, name := "usb-it95x0", path := "/dev/usb-it95x0",
        manufacturer := some "ITE Tech." } := by decide +kernel

end Nodes

end ModulatorInspector.Device
