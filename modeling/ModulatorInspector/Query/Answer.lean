import ModulatorInspector.Device.Session
import ModulatorInspector.Query.Configuration

namespace ModulatorInspector.Query

open Device (Act Descriptor Driver Failure GainRange Outcome)

def line (text : String) : String := text ++ "\n"

def countReport (devices : List Descriptor) : String := line (toString devices.length)

def gainRangeLines (d : Descriptor) (frequency : UInt64) (bandwidth : Bandwidth)
    (range : GainRange) : List String :=
  ["Device: " ++ d.brief,
   "Frequency: " ++ Numeral.grouped frequency.toNat ++ " Hz",
   "Bandwidth: " ++ bandwidth.label ++ " MHz",
   "Min. gain: " ++ toString range.minimum ++ " dB",
   "Max. gain: " ++ toString range.maximum ++ " dB"]

def gainRangeReport (d : Descriptor) (frequency : UInt64) (bandwidth : Bandwidth)
    (range : GainRange) : String :=
  String.join ((gainRangeLines d frequency bandwidth range).map line)

def deviceReport (d : Descriptor) (verbose : Bool) : String := line (d.text verbose)

def nothingFound : String := "No HiDes device found"

def banner (count : Nat) : String := "Found " ++ toString count ++ " HiDes devices\n"

def listReport (devices : List Descriptor) (verbose : Bool) : String :=
  if devices = [] then line nothingFound
  else (if verbose then line (banner devices.length) else "")
    ++ String.join (devices.map fun d => deviceReport d verbose)

def inspect {σ η : Type} (d : Driver σ η) (c : Configuration) (handle : η) :
    Act σ (Outcome String) := do
  match ← d.describe handle with
  | .error failure => return .error failure
  | .ok found =>
      if c.gainRange then
        match ← d.gainRange handle c.frequency c.bandwidth with
        | .error failure => return .error failure
        | .ok range => return .ok (gainRangeReport found c.frequency c.bandwidth range)
      else return .ok (deviceReport found c.verbose)

def survey {σ η : Type} (d : Driver σ η) (c : Configuration) : Act σ (Outcome String) := do
  match ← d.list with
  | .error failure => return .error failure
  | .ok devices =>
      Act.note (.devicesEnumerated devices.length)
      return .ok (if c.count then countReport devices else listReport devices c.verbose)

def answer {σ η : Type} (d : Driver σ η) (c : Configuration) : Act σ (Outcome String) :=
  match c.needed with
  | .all => survey d c
  | target => Device.withSession d target (inspect d c)

inductive Fault where
  | device (failure : Failure)
  | output (fault : OutputFault)
  deriving DecidableEq, Repr

def Fault.message : Fault → String
  | .device failure => failure.message
  | .output fault => "cannot write output: " ++ fault.message

def Fault.cause? : Fault → Option String
  | .device failure => failure.cause?
  | .output fault => some fault.message

-- The driver and the stream act on one world, in which each may find what the other left. The
-- stream is touched only after the last act on the driver.
def publishIn {σ η : Type} (d : Driver σ η) (stream : Stream σ) (c : Configuration) :
    Act σ (Except Fault Unit) := do
  match ← answer d c with
  | .error failure => return .error (.device failure)
  | .ok text => return (← Act.quiet (stream.deliver text)).mapError .output

def publish {σ η ω : Type} (d : Driver σ η) (stream : Stream ω) (c : Configuration) (out : ω) :
    Act σ (Except Fault Unit × ω) := fun s =>
  let run := publishIn (d.onFirst ω) (stream.onSecond σ) c (s, out)
  ⟨(run.answer, run.state.2), run.state.1, run.events⟩

end ModulatorInspector.Query
