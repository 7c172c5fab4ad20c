import ModulatorInspector.CommandLine.Help
import ModulatorInspector.CommandLine.Reading
import ModulatorInspector.Diagnostics.Filter
import ModulatorInspector.Invocation.Perform
import ModulatorInspector.Query.Output

namespace ModulatorInspector.Invocation

open CommandLine (Arguments Stop)
open Device (Act Run)
open Diagnostics (Event Filter)
open Query (Offer OutputFault Stream)

inductive Sink where
  | accepting | full
  deriving DecidableEq, Repr

structure StandardOutput where
  sink : Sink
  delivered : List UInt8 := []
  -- The beginning of a line that is not handed over yet.
  held : List UInt8 := []

namespace StandardOutput

def lineEnd : UInt8 := 10
def capacity : Nat := 1024

def tail (bytes : List UInt8) : List UInt8 := (bytes.reverse.takeWhile (· ≠ lineEnd)).reverse

def lines (bytes : List UInt8) : List UInt8 := (bytes.reverse.dropWhile (· ≠ lineEnd)).reverse

def divide (bytes : List UInt8) : List UInt8 × List UInt8 :=
  if (tail bytes).length < capacity then (lines bytes, tail bytes) else (bytes, [])

def offer (bytes : List UInt8) (s : StandardOutput) : Offer × StandardOutput :=
  let (now, later) := divide (s.held ++ bytes)
  if now = [] then (.took bytes.length, { s with held := later })
  else match s.sink with
    | .accepting => (.took bytes.length, { s with delivered := s.delivered ++ now, held := later })
    | .full => (.failed .noSpace, s)

-- With nothing kept there is nothing that could fail.
def flush (s : StandardOutput) : Except OutputFault Unit × StandardOutput :=
  if s.held = [] then (.ok (), s)
  else match s.sink with
    | .accepting => (.ok (), { s with delivered := s.delivered ++ s.held, held := [] })
    | .full => (.error .noSpace, s)

theorem not_interrupted (bytes : List UInt8) (s : StandardOutput) :
    (offer bytes s).1 ≠ .interrupted := by
  unfold offer
  dsimp only
  split
  · simp
  · split <;> simp

def stream : Stream StandardOutput where
  offer := offer
  flush := flush
  interruptions_end :=
    Query.interruptions_end_of_patience (fun _ => 0) fun bytes s h =>
      absurd h (not_interrupted bytes s)

end StandardOutput

-- Why a run ended as it did. Without a filter it is broken off before anything else.
inductive Ending where
  | stopped (stop : Stop)
  | brokenOff
  | failed (fault : Fault)
  | done

def Ending.exitCode : Ending → Nat
  | .stopped stop => stop.exitCode
  | .brokenOff => 101
  | .failed _ => 1
  | .done => 0

structure Conclusion where
  ending : Ending
  output : StandardOutput
  events : List Event
  log : List String

namespace Conclusion

-- A fault of the last flush is reported and changes nothing else.
def shutDown (out : StandardOutput) : List Event × StandardOutput :=
  let (result, out) := out.flush
  match result with
  | .error fault => ([.flushFailed fault, .shutDown], out)
  | .ok () => ([.shutDown], out)

def around (filter : Option Filter)
    (body : StandardOutput → List Event × Ending × StandardOutput) (out : StandardOutput) :
    Conclusion :=
  match filter with
  | none => ⟨.brokenOff, out, [], []⟩
  | some filter =>
      let (inner, ending, out) := body out
      let (last, out) := shutDown out
      let events := Event.starting :: inner ++ last
      ⟨ending, out, events, filter.lines events⟩

-- The texts of inquiries go to the standard output, refusals do not; a device that is full is no
-- failure of an inquiry.
def ofStop (e : Environment) (stop : Stop) (out : StandardOutput) : Conclusion :=
  match stop with
  | .inquiry i form =>
      let text := CommandLine.Help.answer .written e.configDirectory i form
      ⟨.stopped stop, (StandardOutput.stream.deliver text out).2, [], []⟩
  | _ => ⟨.stopped stop, out, [], []⟩

def ofArguments (e : Environment) (disk : Files.Disk) (a : Arguments) (out : StandardOutput) :
    Conclusion :=
  around (Filter.choose? a.debug e.diagnostics)
    (fun out =>
      let run := perform e a StandardOutput.stream out disk
      match run.answer with
      | (.error fault, out) => (run.events, .failed fault, out)
      | (.ok (), out) => (run.events, .done, out))
    out

def run (words : List String) (e : Environment) (disk : Files.Disk) (out : StandardOutput) :
    Conclusion :=
  match CommandLine.read words e.configDirectory with
  | .error stop => ofStop e stop out
  | .ok a => ofArguments e disk a out

end Conclusion

end ModulatorInspector.Invocation
