namespace ModulatorInspector

inductive Bandwidth where
  | mhz5 | mhz6 | mhz7 | mhz8
  deriving DecidableEq, Repr, Inhabited

namespace Bandwidth

def all : List Bandwidth := [.mhz5, .mhz6, .mhz7, .mhz8]

def standard : Bandwidth := .mhz8

def mhz : Bandwidth → Nat
  | .mhz5 => 5
  | .mhz6 => 6
  | .mhz7 => 7
  | .mhz8 => 8

def label (b : Bandwidth) : String := toString b.mhz

def name : Bandwidth → String
  | .mhz5 => "5"
  | .mhz6 => "6"
  | .mhz7 => "7"
  | .mhz8 => "8"

def tag (b : Bandwidth) : String := "Mhz" ++ b.label

def ofMhz? : Nat → Option Bandwidth
  | 5 => some .mhz5
  | 6 => some .mhz6
  | 7 => some .mhz7
  | 8 => some .mhz8
  | _ => none

def unsupported (width : Nat) : String :=
  "unsupported bandwidth: " ++ toString width ++ " MHz (expected 5, 6, 7 or 8)"

-- A name is taken as it is: no sign, no zero in front, no space.
def ofName? (text : String) : Option Bandwidth := all.find? fun b => b.name = text

end Bandwidth

end ModulatorInspector

namespace ModulatorInspector.Frequency

-- The centre of the virtual channel zero and the distance between two channels.
def base : UInt64 := 306000000
def spacing : UInt64 := 8000000
def firstChannel : UInt32 := 21

def ofChannel (channel : UInt32) : UInt64 := base + spacing * channel.toUInt64

def standard : UInt64 := ofChannel firstChannel

end ModulatorInspector.Frequency

namespace ModulatorInspector.Query

inductive Target where
  | all
  | byName (name : String)
  | byIndex (index : UInt32)
  deriving DecidableEq, Repr

structure Configuration where
  count : Bool := false
  gainRange : Bool := false
  verbose : Bool := false
  adapter : Option UInt32 := none
  deviceName : Option String := none
  frequency : UInt64 := Frequency.standard
  bandwidth : Bandwidth := Bandwidth.standard
  deriving DecidableEq, Repr

namespace Configuration

-- A name wins over an index. A gain-range query aims at one device, the first if none is named.
def selected (c : Configuration) : Target :=
  match c.deviceName with
  | some name => .byName name
  | none =>
      match c.adapter with
      | some index => .byIndex index
      | none => if c.gainRange then .byIndex 0 else .all

-- Counting enumerates, whatever device is selected.
def needed (c : Configuration) : Target := if c.count then .all else c.selected

end Configuration

end ModulatorInspector.Query
