import ModulatorInspector.Files.Edit
import ModulatorInspector.Invocation.Conclusion
import ModulatorInspector.Text.Lossy

namespace ModulatorInspector.Shell

open CommandLine (Arguments)
open Device (Nodes)
open Files (Disk)
open Invocation (Conclusion Environment StandardOutput)

def faultOf : IO.Error → Files.Fault
  | .noFileOrDirectory .. => .notFound
  | .permissionDenied _ code details => .other details code.toNat
  | .inappropriateType _ code details =>
      if code = 20 then .notDirectory else if code = 21 then .isDirectory
      else .other details code.toNat
  | error => .other error.toString 0

def mark (disk : Disk) (path : String) (node : Files.Node) : Disk :=
  { disk with tree := disk.tree.set (Files.Route.ofBytes (Utf8.bytes path)).steps node }

-- What stands at a path that was not opened. Access to it is not needed to see whether it is a file.
def refusal (path : String) (error : IO.Error) : IO Files.Node := do
  match ← (IO.FS.realPath path >>= fun real => real.metadata).toBaseIO with
  | .ok seen =>
      return if seen.type == .file then .unreadable (faultOf error) else .refusing (faultOf error)
  | .error _ => return .refusing (faultOf error)

-- Goes on from a directory whose path has no links, and keeps what is met on the way. A link is
-- kept with the path that it ends at. The answer is the path without links, if there is anything.
def follow (disk : Disk) (place : String) : List Files.Name → IO (Disk × Option String)
  | [] => return (disk, some place)
  | step :: rest => do
      if step = Files.here then follow disk place rest
      else if step = Files.parent then
        let .ok real ← (IO.FS.realPath (Files.join place "..")).toBaseIO | return (disk, none)
        follow disk real.toString rest
      else
        let next := Files.join place (Lossy.decode step)
        let .ok real ← (IO.FS.realPath next).toBaseIO | return (disk, none)
        let disk := if real.toString = next then disk
          else disk.change (Utf8.bytes next) (.makeLink real.toString)
        let disk := if ← real.isDir then disk.change (Utf8.bytes real.toString) .makeDirectory
          else disk.change (Utf8.bytes real.toString) (.write [])
        follow disk real.toString rest

def reach (disk : Disk) (here path : String) : IO (Disk × Option String) :=
  let route := Files.Route.ofBytes (Utf8.bytes path)
  follow disk (if route.absolute then "/" else here) route.steps

def readFile (here : String) (disk : Disk) (path : String) : IO Disk := do
  let (disk, some real) ← reach disk here path | return disk
  if disk.isFile real then
    match ← (IO.FS.readBinFile real).toBaseIO with
    | .ok content => return disk.change (Utf8.bytes real) (.write content.data.toList)
    | .error error => return mark disk real (← refusal real error)
  else return disk

def attributeNames : List String :=
  ["idVendor", "idProduct", "manufacturer", "product", "serial", "speed"]

def readNodes (here : String) (disk : Disk) (n : Nodes) : IO Disk := do
  let (disk, some real) ← reach disk here n.directory | return disk
  match ← (IO.FS.realPath real >>= fun path => path.readDir).toBaseIO with
  | .error error =>
      return if disk.isFile real then disk else mark disk real (.refusing (faultOf error))
  | .ok entries =>
      let names := (entries.toList.map fun entry => entry.fileName).filter fun name =>
        (Nodes.number? n.stem name).isSome
      let disk ← names.foldlM (fun disk name => do
        return (← reach disk here (Files.join n.directory name)).1) disk
      let attributes := names.flatMap fun name =>
        attributeNames.map (Files.join (n.attributeDirectory name))
      attributes.foldlM (readFile here) disk

def survey (e : Environment) (a : Arguments) (here : String) : IO Disk := do
  let disk : Disk := ⟨Files.Tree.empty, []⟩
  let disk := disk.change (Utf8.bytes here) .makeDirectory
  let disk := { disk with workingDirectory := (Files.Route.ofBytes (Utf8.bytes here)).steps }
  let directory? := (e.configurationDirectory? a.configDirectory).map Prod.fst
  let disk ← match directory? with
    | none => pure disk
    | some directory => readFile here disk (Files.join directory Settings.fileName)
  match directory?.map (Settings.load disk) with
  | some (.error _) => return disk
  | some (.ok loaded) => readNodes here disk (Nodes.ofSettings loaded.settings)
  | none => readNodes here disk (Nodes.ofSettings Settings.standard)

def openedPaths (c : Conclusion) : List String :=
  c.events.filterMap fun event => match event with
    | .nodeOpened path => some path
    | _ => none

def tryOpen (here : String) (disk : Disk) (path : String) : IO Disk := do
  let (_, some real) ← reach disk here path | return disk
  match ← (IO.FS.Handle.mk real .readWrite).toBaseIO with
  | .ok _ => return disk
  | .error error => return mark disk real (← refusal real error)

def environment : IO Environment := do
  return {
    home := ← IO.getEnv "HOME"
    settingsHome := ← IO.getEnv "XDG_CONFIG_HOME"
    configDirectory := ← IO.getEnv "HIDES_CONFIG_DIR"
    diagnostics := ← IO.getEnv "HIDES_LOG" }

def fresh : StandardOutput := { sink := .accepting }
def exhausted : StandardOutput := { sink := .full }

def diskFor (words : List String) (e : Environment) : IO Disk := do
  let here := (← IO.currentDir).toString
  match CommandLine.read words e.configDirectory with
  | .error _ => return ⟨Files.Tree.empty, []⟩
  | .ok a =>
      let disk ← survey e a here
      (openedPaths (Conclusion.run words e disk fresh)).foldlM (tryOpen here) disk

def explain (c : Conclusion) : List String :=
  match c.ending with
  | .stopped (.inquiry ..) => []
  | .stopped stop => ["error: " ++ stop.message]
  | .brokenOff => ["error: a directive of the diagnostic filter ends inside a character"]
  | .failed fault => ["Error: " ++ ": ".intercalate fault.chain]
  | .done => []

def write (bytes : List UInt8) : IO Unit := do
  let out ← IO.getStdout
  out.write ⟨bytes.toArray⟩
  out.flush

def run (words : List String) : IO UInt32 := do
  let e ← environment
  let disk ← diskFor words e
  let c := Conclusion.run words e disk fresh
  let c ← match ← (write c.output.delivered).toBaseIO with
    | .ok () => pure c
    | .error _ => pure (Conclusion.run words e disk exhausted)
  let err ← IO.getStderr
  for text in c.log ++ explain c do
    err.putStrLn text
  return c.ending.exitCode.toUInt32

end ModulatorInspector.Shell

def main (words : List String) : IO UInt32 := ModulatorInspector.Shell.run words
