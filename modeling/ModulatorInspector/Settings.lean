import ModulatorInspector.Files.Disk
import ModulatorInspector.Query.Configuration
import ModulatorInspector.Text.Quoted
import ModulatorInspector.Toml.Document
import ModulatorInspector.Toml.Syntax

namespace ModulatorInspector

structure Settings where
  deviceDirectory : String := "/dev"
  sysfsDirectory : String := "/sys/class/usbmisc"
  devicePrefix : String := "usb-it95x"
  frequency : Option UInt64 := none
  bandwidth : Option Bandwidth := none
  deriving DecidableEq, Repr

def Settings.standard : Settings := {}

inductive SettingKey where
  | deviceDirectory | sysfsDirectory | devicePrefix | frequency | bandwidth
  deriving DecidableEq, Repr

namespace SettingKey

def all : List SettingKey :=
  [.deviceDirectory, .sysfsDirectory, .devicePrefix, .frequency, .bandwidth]

def name : SettingKey → String
  | .deviceDirectory => "device_dir"
  | .sysfsDirectory => "sysfs_dir"
  | .devicePrefix => "device_prefix"
  | .frequency => "frequency"
  | .bandwidth => "bandwidth"

def ofName? (name : String) : Option SettingKey := all.find? fun key => key.name = name

def expected : SettingKey → String
  | .deviceDirectory | .sysfsDirectory => "path string"
  | .devicePrefix => "a string"
  | .frequency => "u64"
  | .bandwidth => "u32"

end SettingKey

inductive Misfit where
  | unknownKey (name : String)
  | wrongKind (found : Toml.Item) (key : SettingKey)
  | outOfRange (value : Int) (key : SettingKey)
  | unsupportedBandwidth (mhz : Nat)

namespace Misfit

def kindOf : Toml.Item → String
  | .string text => "string " ++ Quoted.quote text
  | .integer value => "integer `" ++ toString value ++ "`"
  | .float value => "floating point `" ++ value.text ++ "`"
  | .boolean value => "boolean `" ++ toString value ++ "`"
  | .array _ | .tables _ => "sequence"
  | .dateTime | .table .. => "map"

def message : Misfit → String
  | .unknownKey name =>
      "unknown field `" ++ name ++ "`, expected one of "
        ++ ", ".intercalate (SettingKey.all.map fun key => "`" ++ key.name ++ "`")
  | .wrongKind found key => "invalid type: " ++ kindOf found ++ ", expected " ++ key.expected
  | .outOfRange value key =>
      "invalid value: integer `" ++ toString value ++ "`, expected " ++ key.expected
  | .unsupportedBandwidth mhz => Bandwidth.unsupported mhz

end Misfit

namespace Settings

def textOf (key : SettingKey) : Toml.Item → Except Misfit String
  | .string text => .ok text
  | item => .error (.wrongKind item key)

def naturalOf (key : SettingKey) (limit : Nat) : Toml.Item → Except Misfit Nat
  | .integer value =>
      if 0 ≤ value ∧ value ≤ limit then .ok value.toNat else .error (.outOfRange value key)
  | item => .error (.wrongKind item key)

def bandwidthOf (item : Toml.Item) : Except Misfit Bandwidth :=
  (naturalOf .bandwidth Numeral.greatest32 item).bind fun mhz =>
    match Bandwidth.ofMhz? mhz with
    | some b => .ok b
    | none => .error (.unsupportedBandwidth mhz)

def assign (s : Settings) (key : SettingKey) (item : Toml.Item) : Except Misfit Settings :=
  match key with
  | .deviceDirectory => (textOf key item).map fun text => { s with deviceDirectory := text }
  | .sysfsDirectory => (textOf key item).map fun text => { s with sysfsDirectory := text }
  | .devicePrefix => (textOf key item).map fun text => { s with devicePrefix := text }
  | .frequency =>
      (naturalOf key Numeral.greatest64 item).map fun hz => { s with frequency := some hz.toUInt64 }
  | .bandwidth => (bandwidthOf item).map fun b => { s with bandwidth := some b }

-- A misfit comes with the part of the document that it is about.
def assignEntry (s : Settings) (entry : Toml.Entry) : Except (Toml.Span × Misfit) Settings :=
  match SettingKey.ofName? entry.1.text with
  | none => .error (entry.1.span, .unknownKey entry.1.text)
  | some key => (s.assign key entry.2.2).mapError fun misfit => (Toml.Entry.shown entry, misfit)

def ofEntries (entries : Toml.Entries) : Except (Toml.Span × Misfit) Settings :=
  entries.foldlM assignEntry standard

def fileName : String := "config.toml"

inductive Refusal where
  | unreadable (path : String) (fault : Files.Fault)
  | notToml (path : String)
  | unfit (path : String) (mark : Toml.Mark) (misfit : Misfit)

def Refusal.message : Refusal → String
  | .unreadable path fault => "cannot read " ++ path ++ ": " ++ fault.message
  | .notToml path => "invalid settings in " ++ path ++ ": TOML parse error"
  | .unfit path mark misfit => "invalid settings in " ++ path ++ ": " ++ mark.show misfit.message

-- `fromFile` tells settings that a file gave from those taken in its absence.
structure Loaded where
  settings : Settings
  path : String
  fromFile : Bool

def ofText (path text : String) : Except Refusal Settings :=
  let source := text.toList
  match Toml.document? source with
  | none => .error (.notToml path)
  | some entries =>
      (ofEntries entries).mapError fun (span, misfit) => .unfit path (span.mark source) misfit

def load (disk : Files.Disk) (directory : String) : Except Refusal Loaded :=
  let path := Files.join directory fileName
  if disk.isFile path then
    match disk.readText path with
    | .error fault => .error (.unreadable path fault)
    | .ok text => (ofText path text).map fun settings => ⟨settings, path, true⟩
  else .ok ⟨standard, path, false⟩

end Settings

end ModulatorInspector
