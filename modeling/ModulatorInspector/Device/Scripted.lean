import ModulatorInspector.Device.Session

namespace ModulatorInspector.Device

inductive Operation where
  | list | opening | describe | gainRange
  deriving DecidableEq, Repr

inductive Call where
  | list
  | openAt (index : UInt32)
  | openNamed (name : String)
  | describe (handle : Nat)
  | gainRange (handle : Nat) (frequency : UInt64) (bandwidth : Bandwidth)
  | close (handle : Nat)
  deriving DecidableEq, Repr

structure Script where
  devices : List Descriptor
  range : GainRange
  failing : List Operation
  calls : List Call

namespace Script

def standardRange : GainRange := ⟨-3, 27⟩

def numberedDevice (n : Nat) : Descriptor where
  index := n.toUInt32
  name := "DEV" ++ toString n
  path := "/dev/usb-it95x" ++ toString n

def ofCount (count : Nat) : Script :=
  ⟨(List.range count).map numberedDevice, standardRange, [], []⟩

def closes (s : Script) : Nat := s.calls.countP fun call => match call with
  | .close _ => true
  | _ => false

def play {α : Type} (reason : Operation → String) (operation : Operation) (call : Call)
    (answer : Script → Outcome α) : Act Script (Outcome α) := fun s =>
  ⟨if operation ∈ s.failing then .error (.unsupported (reason operation)) else answer s,
    { s with calls := s.calls ++ [call] }, []⟩

-- `reason` words the failures. A position past the devices cannot come from an opening.
def driver (reason : Operation → String) : Driver Script Nat where
  list := play reason .list .list fun s => .ok s.devices
  openAt index := play reason .opening (.openAt index) fun s =>
    if index.toNat < s.devices.length then .ok index.toNat
    else .error (.noAdapter index s.devices.length)
  openNamed name := play reason .opening (.openNamed name) fun s =>
    match s.devices.findIdx? (fun d => d.name = name) with
    | some position => .ok position
    | none => .error (.noName name)
  describe handle := play reason .describe (.describe handle) fun s =>
    match s.devices[handle]? with
    | some d => .ok d
    | none => .error (.unsupported "no device at this position")
  gainRange handle frequency bandwidth :=
    play reason .gainRange (.gainRange handle frequency bandwidth) fun s => .ok s.range
  close handle := fun s => ⟨handle, { s with calls := s.calls ++ [.close handle] }, []⟩

end Script

end ModulatorInspector.Device
