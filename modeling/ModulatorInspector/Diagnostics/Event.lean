import ModulatorInspector.Files.Disk
import ModulatorInspector.Query.Configuration
import ModulatorInspector.Query.Output
import ModulatorInspector.Text.Quoted

namespace ModulatorInspector.Diagnostics

inductive Level where
  | error | warn | info | debug | trace
  deriving DecidableEq, Repr

def Level.rank : Level → Nat
  | .error => 1
  | .warn => 2
  | .info => 3
  | .debug => 4
  | .trace => 5

def Level.name : Level → String
  | .error => "ERROR"
  | .warn => "WARN"
  | .info => "INFO"
  | .debug => "DEBUG"
  | .trace => "TRACE"

def programName : String := "hides"
def programVersion : String := "0.1.0"

inductive Component where
  | program | commands | settings | query | session | nodes
  deriving DecidableEq, Repr

def Component.path : Component → String
  | .program => "hides::runtime"
  | .commands => "hides::cli::commands"
  | .settings => "hides::config"
  | .query => "hides::core::query"
  | .session => "hides::device"
  | .nodes => "hides::device::devnode"

inductive Event where
  | starting
  | flushFailed (fault : Query.OutputFault)
  | shutDown
  | configurationDirectory (path origin : String)
  | optionsResolved (configuration : Query.Configuration)
  | noSettings (path : String)
  | settingsLoaded (path : String)
  | devicesEnumerated (count : Nat)
  | openingByName (name : String)
  | openingByIndex (index : UInt32)
  | closing
  | nodesEnumerated (directory : String) (count : Nat)
  | nodeOpened (path : String)
  | nodeClosed (path : String)
  | gainRangeRequested (frequency : UInt64) (bandwidth : Bandwidth)
  | attributeUnavailable (fault : Files.Fault) (name directory : String)
  | attributeMalformed (name value : String)
  deriving DecidableEq, Repr

namespace Event

def component : Event → Component
  | .starting | .flushFailed _ | .shutDown => .program
  | .configurationDirectory .. | .optionsResolved _ => .commands
  | .noSettings _ | .settingsLoaded _ => .settings
  | .devicesEnumerated _ => .query
  | .openingByName _ | .openingByIndex _ | .closing => .session
  | .nodesEnumerated .. | .nodeOpened _ | .nodeClosed _ | .gainRangeRequested ..
  | .attributeUnavailable .. | .attributeMalformed .. => .nodes

def level : Event → Level
  | .flushFailed _ | .attributeMalformed .. => .warn
  | _ => .debug

def fields (e : Event) : List String :=
  "message" :: match e with
  | .configurationDirectory .. => ["dir", "source"]
  | .optionsResolved _ => ["configuration"]
  | .noSettings _ | .settingsLoaded _ | .nodeOpened _ | .nodeClosed _ => ["path"]
  | .devicesEnumerated _ => ["count"]
  | .openingByName _ => ["name"]
  | .openingByIndex _ => ["index"]
  | .nodesEnumerated .. => ["dir", "count"]
  | .gainRangeRequested .. => ["frequency", "bandwidth"]
  | .attributeUnavailable .. => ["attribute", "dir"]
  | .attributeMalformed .. => ["attribute", "value"]
  | .starting | .flushFailed _ | .shutDown | .closing => []

def optional (value : Option String) : String :=
  match value with
  | none => "None"
  | some text => "Some(" ++ text ++ ")"

def configurationText (c : Query.Configuration) : String :=
  "Configuration \x7b count: " ++ toString c.count
    ++ ", gain_range: " ++ toString c.gainRange
    ++ ", verbose: " ++ toString c.verbose
    ++ ", adapter: " ++ optional (c.adapter.map toString)
    ++ ", device_name: " ++ optional (c.deviceName.map Quoted.quote)
    ++ ", frequency: " ++ toString c.frequency
    ++ ", bandwidth: " ++ c.bandwidth.tag ++ " \x7d"

def text : Event → String
  | .starting => programName ++ " v" ++ programVersion ++ " starting"
  | .flushFailed fault => "cannot flush stdout: " ++ fault.message
  | .shutDown => "runtime shut down"
  | .configurationDirectory path origin =>
      "configuration directory dir=" ++ path ++ " source=" ++ Quoted.quote origin
  | .optionsResolved c => "options resolved configuration=" ++ configurationText c
  | .noSettings path => "no settings file, using defaults path=" ++ path
  | .settingsLoaded path => "settings loaded path=" ++ path
  | .devicesEnumerated count => "devices enumerated count=" ++ toString count
  | .openingByName name => "opening HiDes device by name name=" ++ name
  | .openingByIndex index => "opening HiDes device by index index=" ++ toString index
  | .closing => "closing HiDes device"
  | .nodesEnumerated directory count =>
      "enumerated HiDes devices dir=" ++ directory ++ " count=" ++ toString count
  | .nodeOpened path => "device node opened path=" ++ path
  | .nodeClosed path => "device node closed path=" ++ path
  | .gainRangeRequested frequency bandwidth =>
      "gain range requested frequency=" ++ toString frequency ++ " bandwidth=" ++ bandwidth.label
  | .attributeUnavailable fault name directory =>
      "sysfs attribute unavailable: " ++ fault.message ++ " attribute=" ++ Quoted.quote name
        ++ " dir=" ++ directory
  | .attributeMalformed name value =>
      "ignoring malformed sysfs attribute attribute=" ++ Quoted.quote name ++ " value=" ++ value

-- What stands behind a line break in a shown value is on a line of its own, without a level. A
-- carriage return before the break belongs to the break.
def line (e : Event) : String :=
  let first := e.text.toList.takeWhile (· ≠ '\n')
  let first := if first.getLast? = some '\r' then first.dropLast else first
  e.level.name ++ " " ++ String.ofList first

end Event

end ModulatorInspector.Diagnostics
