import ModulatorInspector.Device.Session
import ModulatorInspector.Files.Disk
import ModulatorInspector.Settings
import ModulatorInspector.Text.CodePoints

namespace ModulatorInspector.Device

open Diagnostics (Event)
open Files (Disk)

structure Nodes where
  directory : String
  sysfs : String
  stem : String
  deriving DecidableEq, Repr

-- An open node. The descriptor is that of the moment of opening.
structure Nodes.Handle where
  descriptor : Descriptor
  isOpen : Bool
  deriving DecidableEq, Repr

namespace Nodes

def ofSettings (s : Settings) : Nodes := ⟨s.deviceDirectory, s.sysfsDirectory, s.devicePrefix⟩

def behind? : List Char → List Char → Option (List Char)
  | [], name => some name
  | c :: stem, d :: name => if c = d then behind? stem name else none
  | _ :: _, [] => none

def isNumeral (digits : List Char) : Bool :=
  digits ≠ [] && digits.all (fun c => '0' ≤ c && c ≤ '9')
    && (digits = ['0'] || digits.head? ≠ some '0')

def number? (stem name : String) : Option Nat :=
  match behind? stem.toList name.toList with
  | none => none
  | some digits =>
      if isNumeral digits then (Numeral.natural 10 Numeral.greatest32 digits).toOption else none

-- Names that are no text belong to no driver.
def numbered (stem : String) (names : List Files.Name) : List (Nat × String) :=
  names.filterMap fun bytes =>
    (Utf8.text? bytes).bind fun name => (number? stem name).map fun number => (number, name)

def ordered (stem : String) (names : List Files.Name) : List String :=
  ((numbered stem names).mergeSort fun a b => a.1 ≤ b.1).map Prod.snd

-- The attributes belong to the parent of the interface that `device` leads to.
def attributeDirectory (n : Nodes) (name : String) : String :=
  Files.join (Files.join (Files.join n.sysfs name) "device") ".."

-- Without the white space around it; an attribute of white space alone is absent.
def attribute? (disk : Disk) (directory name : String) : Option String :=
  match disk.readText (Files.join directory name) with
  | .error _ => none
  | .ok text => if Blank.trim text = "" then none else some (Blank.trim text)

def readId (text : String) : Option UInt16 :=
  ((Numeral.natural 16 Numeral.greatest16 text.toList).toOption).map Nat.toUInt16

def id? (disk : Disk) (directory name : String) : Option UInt16 :=
  (attribute? disk directory name).bind readId

def descriptor (n : Nodes) (disk : Disk) (index : Nat) (name : String) : Descriptor :=
  let directory := n.attributeDirectory name
  { index := index.toUInt32
    name
    path := Files.join n.directory name
    vendorId := id? disk directory "idVendor"
    productId := id? disk directory "idProduct"
    manufacturer := attribute? disk directory "manufacturer"
    product := attribute? disk directory "product"
    serial := attribute? disk directory "serial"
    speed := attribute? disk directory "speed" }

def descriptors (n : Nodes) (disk : Disk) (names : List String) : List Descriptor :=
  names.zipIdx.map fun (name, index) => n.descriptor disk index name

def devices (n : Nodes) (disk : Disk) : Except Failure (List Descriptor) :=
  match disk.list n.directory with
  | .error fault => .error (.access n.directory fault)
  | .ok names => .ok (n.descriptors disk (ordered n.stem names))

def attributeEvents (disk : Disk) (directory name : String) : List Event :=
  match disk.readText (Files.join directory name) with
  | .error fault => [.attributeUnavailable fault name directory]
  | .ok _ => []

def idEvents (disk : Disk) (directory name : String) : List Event :=
  attributeEvents disk directory name ++
    match attribute? disk directory name with
    | none => []
    | some text => if (readId text).isSome then [] else [.attributeMalformed name text]

def descriptorEvents (n : Nodes) (disk : Disk) (name : String) : List Event :=
  let directory := n.attributeDirectory name
  ["idVendor", "idProduct"].flatMap (idEvents disk directory)
    ++ ["manufacturer", "product", "serial", "speed"].flatMap (attributeEvents disk directory)

def list (n : Nodes) : Act Disk (Outcome (List Descriptor)) := fun disk =>
  ⟨n.devices disk, disk,
    match n.devices disk with
    | .error _ => []
    | .ok found =>
        found.flatMap (fun d => n.descriptorEvents disk d.name)
          ++ [.nodesEnumerated n.directory found.length]⟩

def openDescriptor (d : Descriptor) : Act Disk (Outcome Handle) := fun disk =>
  match disk.openNode d.path with
  | .error fault => ⟨.error (.access d.path fault), disk, []⟩
  | .ok () => ⟨.ok ⟨d, true⟩, disk, [.nodeOpened d.path]⟩

def openAt (n : Nodes) (index : UInt32) : Act Disk (Outcome Handle) := do
  match ← n.list with
  | .error failure => return .error failure
  | .ok found =>
      match found[index.toNat]? with
      | none => return .error (.noAdapter index found.length)
      | some d => openDescriptor d

-- A device is meant by its name or by its path, in any case of ASCII letters.
def isMeant (name : String) (d : Descriptor) : Bool :=
  Blank.sameIgnoringCase d.name name || Blank.sameIgnoringCase d.path name

def openNamed (n : Nodes) (name : String) : Act Disk (Outcome Handle) := do
  match ← n.list with
  | .error failure => return .error failure
  | .ok found =>
      match found.find? (isMeant name) with
      | none => return .error (.noName name)
      | some d => openDescriptor d

def gainRangeRefusal : String :=
  "output gain range requires the it950x control interface, not available through device nodes"

def gainRange (_ : Handle) (frequency : UInt64) (bandwidth : Bandwidth) :
    Act Disk (Outcome GainRange) := do
  Act.note (.gainRangeRequested frequency bandwidth)
  return .error (.unsupported gainRangeRefusal)

def close (h : Handle) : Act Disk Handle := do
  if h.isOpen then Act.note (.nodeClosed h.descriptor.path)
  return { h with isOpen := false }

def driver (n : Nodes) : Driver Disk Handle where
  list := n.list
  openAt := n.openAt
  openNamed := n.openNamed
  describe h := Act.done (.ok h.descriptor)
  gainRange := gainRange
  close := close

end Nodes

end ModulatorInspector.Device
