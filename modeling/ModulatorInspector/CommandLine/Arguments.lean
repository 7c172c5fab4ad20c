import ModulatorInspector.CommandLine.Vocabulary
import ModulatorInspector.Query.Configuration
import ModulatorInspector.Text.Numeral
import ModulatorInspector.Text.Plain

namespace ModulatorInspector.CommandLine

inductive NumberFault where
  | unreadable (fault : Numeral.Fault)
  | outside (value : Int) (range : String)
  deriving DecidableEq, Repr

def NumberFault.message : NumberFault → String
  | .unreadable fault => fault.message
  | .outside value range => toString value ++ " is not in " ++ range

inductive Stop where
  | inquiry (i : Inquiry) (form : Form)
  | unexpected (word : String)
  | surplusValue (term : Term) (value : String)
  | missingValue (p : Parameter)
  | repeated (term : Term)
  | unlisted (p : Parameter) (value : String)
  | unfit (p : Parameter) (value : String) (fault : NumberFault)
  deriving DecidableEq, Repr

namespace Stop

def choices : Parameter → String
  | .bandwidth =>
      "\n  [possible values: " ++ ", ".intercalate (Bandwidth.all.map Bandwidth.name) ++ "]"
  | _ => ""

def shown (word : String) : String := "'" ++ Plain.visible .quoted word ++ "'"

def invalid (p : Parameter) (value : String) : String :=
  "invalid value " ++ shown value ++ " for '" ++ Term.shown (.parameter p) ++ "'"

-- An inquiry is answered by its own text, not by a sentence.
def message : Stop → String
  | .inquiry .. => ""
  | .unexpected word => "unexpected argument " ++ shown word ++ " found"
  | .surplusValue term value =>
      "unexpected value " ++ shown value ++ " for '" ++ term.shown
        ++ "' found; no more were expected"
  | .missingValue p =>
      "a value is required for '" ++ Term.shown (.parameter p) ++ "' but none was supplied"
        ++ choices p
  | .repeated term => "the argument '" ++ term.shown ++ "' cannot be used multiple times"
  | .unlisted p value => invalid p value ++ choices p
  | .unfit p value fault => invalid p value ++ ": " ++ fault.message

def exitCode : Stop → Nat
  | .inquiry .. => 0
  | _ => 2

end Stop

structure Arguments where
  adapter : Option UInt32 := none
  bandwidth : Option Bandwidth := none
  count : Bool := false
  device : Option String := none
  frequency : Option UInt64 := none
  gainRange : Bool := false
  verbose : Bool := false
  debug : Bool := false
  configDirectory : Option String := none
  deriving DecidableEq, Repr

def adapterOf (value : List Char) : Except Stop UInt32 :=
  match Numeral.signed64 value with
  | .error fault => .error (.unfit .adapter (String.ofList value) (.unreadable fault))
  | .ok n =>
      if 0 ≤ n ∧ n ≤ Numeral.greatest32 then .ok n.toNat.toUInt32
      else .error (.unfit .adapter (String.ofList value) (.outside n "0..=4294967295"))

-- Zero is no frequency.
def frequencyOf (value : List Char) : Except Stop UInt64 :=
  match Numeral.natural 10 Numeral.greatest64 value with
  | .error fault => .error (.unfit .frequency (String.ofList value) (.unreadable fault))
  | .ok 0 => .error (.unfit .frequency (String.ofList value) (.outside 0 "1..18446744073709551615"))
  | .ok n => .ok n.toUInt64

-- An empty value is a missing one here.
def bandwidthOf (value : List Char) : Except Stop Bandwidth :=
  if value = [] then .error (.missingValue .bandwidth)
  else match Bandwidth.ofName? (String.ofList value) with
    | some b => .ok b
    | none => .error (.unlisted .bandwidth (String.ofList value))

def configDirectoryOf (value : List Char) : Except Stop String :=
  if value = [] then .error (.missingValue .configDirectory) else .ok (String.ofList value)

namespace Arguments

def hasSwitch (a : Arguments) : Switch → Bool
  | .count => a.count
  | .gainRange => a.gainRange
  | .verbose => a.verbose
  | .debug => a.debug

def hasParameter (a : Arguments) : Parameter → Bool
  | .adapter => a.adapter.isSome
  | .bandwidth => a.bandwidth.isSome
  | .device => a.device.isSome
  | .frequency => a.frequency.isSome
  | .configDirectory => a.configDirectory.isSome

def setSwitch (a : Arguments) : Switch → Arguments
  | .count => { a with count := true }
  | .gainRange => { a with gainRange := true }
  | .verbose => { a with verbose := true }
  | .debug => { a with debug := true }

def setParameter (a : Arguments) (value : List Char) : Parameter → Except Stop Arguments
  | .adapter => (adapterOf value).map fun n => { a with adapter := some n }
  | .bandwidth => (bandwidthOf value).map fun b => { a with bandwidth := some b }
  | .device => .ok { a with device := some (String.ofList value) }
  | .frequency => (frequencyOf value).map fun hz => { a with frequency := some hz }
  | .configDirectory =>
      (configDirectoryOf value).map fun path => { a with configDirectory := some path }

def turnOn (a : Arguments) (s : Switch) : Except Stop Arguments :=
  if a.hasSwitch s then .error (.repeated (.switch s)) else .ok (a.setSwitch s)

def give (a : Arguments) (p : Parameter) (value : List Char) : Except Stop Arguments :=
  if a.hasParameter p then .error (.repeated (.parameter p)) else a.setParameter value p

end Arguments

end ModulatorInspector.CommandLine
