import ModulatorInspector.Diagnostics.Event
import ModulatorInspector.Files.Disk
import ModulatorInspector.Query.Configuration
import ModulatorInspector.Text.Numeral

namespace ModulatorInspector.Device

open Diagnostics (Event)
open Query (Target)

inductive Failure where
  -- No device at this place in the enumeration; the number of devices that there are.
  | noAdapter (index : UInt32) (available : Nat)
  | noName (name : String)
  | access (path : String) (fault : Files.Fault)
  | unsupported (reason : String)
  deriving DecidableEq, Repr

namespace Failure

def message : Failure → String
  | .noAdapter index available =>
      "HiDes adapter " ++ toString index ++ " not found (" ++ toString available
        ++ " device(s) present)"
  | .noName name => "HiDes device \"" ++ name ++ "\" not found"
  | .access path fault => "cannot access " ++ path ++ ": " ++ fault.message
  | .unsupported reason => "unsupported operation: " ++ reason

def cause? : Failure → Option String
  | .access _ fault => some fault.message
  | _ => none

end Failure

structure Descriptor where
  index : UInt32
  name : String
  path : String
  vendorId : Option UInt16 := none
  productId : Option UInt16 := none
  manufacturer : Option String := none
  product : Option String := none
  serial : Option String := none
  speed : Option String := none
  deriving DecidableEq, Repr

namespace Descriptor

def brief (d : Descriptor) : String :=
  toString d.index ++ ": \"" ++ d.name ++ "\" (" ++ d.path ++ ")"

def idLine (label : String) (id : UInt16) : String := label ++ "0x" ++ Numeral.hex4 id

def lines (d : Descriptor) : List String :=
  ["Index: " ++ toString d.index, "Name: \"" ++ d.name ++ "\"", "Device: " ++ d.path]
    ++ (d.vendorId.map (idLine "Vendor id: ")).toList
    ++ (d.productId.map (idLine "Product id: ")).toList
    ++ (d.manufacturer.map ("Manufacturer: " ++ ·)).toList
    ++ (d.product.map ("Product: " ++ ·)).toList
    ++ (d.serial.map ("Serial number: " ++ ·)).toList
    ++ (d.speed.map ("USB speed: " ++ · ++ " Mb/s")).toList

def full (d : Descriptor) : String := "\n".intercalate d.lines

def text (d : Descriptor) (verbose : Bool) : String := if verbose then d.full else d.brief

end Descriptor

structure Run (σ α : Type) where
  answer : α
  state : σ
  events : List Event

def Act (σ α : Type) : Type := σ → Run σ α

abbrev Outcome (α : Type) : Type := Except Failure α

namespace Act

def done {σ α : Type} (a : α) : Act σ α := fun s => ⟨a, s, []⟩

def andThen {σ α β : Type} (act : Act σ α) (next : α → Act σ β) : Act σ β := fun s =>
  let first := act s
  let second := next first.answer first.state
  ⟨second.answer, second.state, first.events ++ second.events⟩

instance {σ : Type} : Monad (Act σ) where
  pure := done
  bind := andThen

def note {σ : Type} (event : Event) : Act σ Unit := fun s => ⟨(), s, [event]⟩

def quiet {σ α : Type} (step : σ → α × σ) : Act σ α := fun s => ⟨(step s).1, (step s).2, []⟩

-- The act in a world of which it touches the first part only.
def onFirst {σ α : Type} (ω : Type) (act : Act σ α) : Act (σ × ω) α := fun w =>
  let run := act w.1
  ⟨run.answer, (run.state, w.2), run.events⟩

end Act

structure GainRange where
  minimum : Int32
  maximum : Int32
  deriving DecidableEq

-- `σ` is the driver's state and `η` what it gives for an open device.
structure Driver (σ η : Type) where
  list : Act σ (Outcome (List Descriptor))
  openAt : UInt32 → Act σ (Outcome η)
  openNamed : String → Act σ (Outcome η)
  describe : η → Act σ (Outcome Descriptor)
  gainRange : η → UInt64 → Bandwidth → Act σ (Outcome GainRange)
  close : η → Act σ η

def Driver.onFirst {σ η : Type} (ω : Type) (d : Driver σ η) : Driver (σ × ω) η where
  list := d.list.onFirst ω
  openAt index := (d.openAt index).onFirst ω
  openNamed name := (d.openNamed name).onFirst ω
  describe handle := (d.describe handle).onFirst ω
  gainRange handle frequency bandwidth := (d.gainRange handle frequency bandwidth).onFirst ω
  close handle := (d.close handle).onFirst ω

-- The body runs only when the device is open, and closing follows it in every case.
def whileOpen {σ η α : Type} (d : Driver σ η) (opening : Act σ (Outcome η))
    (body : η → Act σ (Outcome α)) : Act σ (Outcome α) := do
  match ← opening with
  | .error failure => return .error failure
  | .ok handle =>
      let answer ← body handle
      Act.note .closing
      let _ ← d.close handle
      return answer

def withSession {σ η α : Type} (d : Driver σ η) (target : Target)
    (body : η → Act σ (Outcome α)) : Act σ (Outcome α) :=
  match target with
  | .all => Act.done (.error (.unsupported "cannot open all devices as one session"))
  | .byName name => do
      Act.note (.openingByName name)
      whileOpen d (d.openNamed name) body
  | .byIndex index => do
      Act.note (.openingByIndex index)
      whileOpen d (d.openAt index) body

end ModulatorInspector.Device
