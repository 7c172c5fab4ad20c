import ModulatorInspector.CommandLine.Arguments
import ModulatorInspector.Device.Nodes
import ModulatorInspector.Files.Disk
import ModulatorInspector.Query.Answer
import ModulatorInspector.Query.Configuration
import ModulatorInspector.Settings

namespace ModulatorInspector.Invocation

open CommandLine (Arguments)
open Device (Act Driver)
open Diagnostics (Event)
open Query (Configuration Stream)

structure Environment where
  home : Option String := none
  accountHome : Option String := none
  -- XDG_CONFIG_HOME
  settingsHome : Option String := none
  -- HIDES_CONFIG_DIR
  configDirectory : Option String := none
  -- HIDES_LOG
  diagnostics : Option String := none
  deriving DecidableEq, Repr

inductive Origin where
  | named | standard
  deriving DecidableEq, Repr

def Origin.word : Origin → String
  | .named => "cli"
  | .standard => "default"

namespace Environment

def homeDirectory? (e : Environment) : Option String :=
  (e.home.filter (· ≠ "")).or e.accountHome

-- A relative path is no directory for settings.
def settingsDirectory? (e : Environment) : Option String :=
  (e.settingsHome.filter Files.isAbsolute).or
    (e.homeDirectory?.map fun home => Files.join home ".config")

def configurationDirectory? (e : Environment) (named : Option String) : Option (String × Origin) :=
  match named with
  | some path => some (path, .named)
  | none => e.settingsDirectory?.map fun directory => (Files.join directory "hides", .standard)

end Environment

inductive UsageFault where
  | exclusiveModes
  deriving DecidableEq, Repr

def UsageFault.message : UsageFault → String
  | .exclusiveModes => "--count and --gain-range are mutually exclusive"

-- An empty device name is none.
def resolve (a : Arguments) (s : Settings) : Except UsageFault Configuration :=
  if a.count && a.gainRange then .error .exclusiveModes
  else .ok
    { count := a.count
      gainRange := a.gainRange
      verbose := a.verbose
      adapter := a.adapter
      deviceName := a.device.filter (· ≠ "")
      frequency := (a.frequency.or s.frequency).getD Frequency.standard
      bandwidth := (a.bandwidth.or s.bandwidth).getD Bandwidth.standard }

inductive Fault where
  | settings (refusal : Settings.Refusal)
  | usage (fault : UsageFault)
  | query (fault : Query.Fault)

namespace Fault

def chain : Fault → List String
  | .settings (.unreadable path fault) =>
      [Settings.Refusal.message (.unreadable path fault), fault.message]
  | .settings refusal => [refusal.message]
  | .usage fault => [fault.message]
  | .query fault => ["HiDes query failed", fault.message] ++ fault.cause?.toList

end Fault

def performWith {σ η ω : Type} (a : Arguments) (s : Settings) (d : Driver σ η) (stream : Stream ω)
    (out : ω) : Act σ (Except Fault Unit × ω) := do
  match resolve a s with
  | .error fault => return (.error (.usage fault), out)
  | .ok configuration =>
      Act.note (.optionsResolved configuration)
      let (result, out) ← Query.publish d stream configuration out
      return (result.mapError .query, out)

def loadEvents (loaded : Settings.Loaded) : List Event :=
  if loaded.fromFile then [.settingsLoaded loaded.path] else [.noSettings loaded.path]

def settingsFor (e : Environment) (a : Arguments) :
    Act Files.Disk (Except Settings.Refusal Settings) :=
  fun disk =>
    match e.configurationDirectory? a.configDirectory with
    | none => ⟨.ok Settings.standard, disk, []⟩
    | some (directory, origin) =>
        let chosen : Event := .configurationDirectory directory origin.word
        match Settings.load disk directory with
        | .error refusal => ⟨.error refusal, disk, [chosen]⟩
        | .ok loaded => ⟨.ok loaded.settings, disk, chosen :: loadEvents loaded⟩

def perform {ω : Type} (e : Environment) (a : Arguments) (stream : Stream ω) (out : ω) :
    Act Files.Disk (Except Fault Unit × ω) := do
  match ← settingsFor e a with
  | .error refusal => return (.error (.settings refusal), out)
  | .ok s => performWith a s (Device.Nodes.ofSettings s).driver stream out

end ModulatorInspector.Invocation
