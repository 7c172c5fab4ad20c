import ModulatorInspector.Text.Lossy

namespace ModulatorInspector.Query

inductive OutputFault where
  | brokenPipe | noSpace | nothingTaken
  | other (text : String)
  deriving DecidableEq, Repr

def OutputFault.message : OutputFault → String
  | .brokenPipe => "broken pipe"
  | .noSpace => "No space left on device (os error 28)"
  | .nothingTaken => "failed to write whole buffer"
  | .other text => text

inductive Offer where
  | took (count : Nat)
  | interrupted
  | failed (fault : OutputFault)
  deriving DecidableEq, Repr

-- `later` is what a stream is after an offer of these bytes was interrupted.
def Interrupts {ω : Type} (offer : List UInt8 → ω → Offer × ω) (bytes : List UInt8)
    (later earlier : ω) : Prop := offer bytes earlier = (.interrupted, later)

structure Stream (ω : Type) where
  offer : List UInt8 → ω → Offer × ω
  flush : ω → Except OutputFault Unit × ω
  -- The same offer made again and again is interrupted only finitely often.
  interruptions_end : ∀ bytes, WellFounded (Interrupts offer bytes)

theorem interruptions_end_of_patience {ω : Type} {offer : List UInt8 → ω → Offer × ω}
    (patience : ω → Nat)
    (interrupted_lt :
      ∀ bytes s, (offer bytes s).1 = .interrupted → patience (offer bytes s).2 < patience s)
    (bytes : List UInt8) : WellFounded (Interrupts offer bytes) := by
  refine Subrelation.wf ?_ (measure patience).wf
  intro later earlier interrupted
  have less := interrupted_lt bytes earlier (congrArg Prod.fst interrupted)
  rw [show offer bytes earlier = (.interrupted, later) from interrupted] at less
  exact less

namespace Stream

-- What is left to write becomes shorter, or stays and an interruption was used up.
theorem progress {ω : Type} (stream : Stream ω) :
    WellFounded (PSigma.Lex (measure List.length).rel (Interrupts stream.offer)) :=
  (PSigma.lex (measure List.length) fun bytes => ⟨_, stream.interruptions_end bytes⟩).wf

def writeAll {ω : Type} (stream : Stream ω) (bytes : List UInt8) (s : ω) :
    Except OutputFault Unit × ω :=
  if bytes = [] then (.ok (), s)
  else
    match h : stream.offer bytes s with
    | (.failed fault, s) => (.error fault, s)
    | (.interrupted, s) => writeAll stream bytes s
    | (.took 0, s) => (.error .nothingTaken, s)
    | (.took (n + 1), s) => writeAll stream (bytes.drop (n + 1)) s
termination_by stream.progress.wrap ⟨bytes, s⟩
decreasing_by
  · exact PSigma.Lex.right _ h
  · have : 0 < bytes.length := List.length_pos_iff.mpr ‹_›
    exact PSigma.Lex.left _ _ (show (bytes.drop (n + 1)).length < bytes.length by
      rw [List.length_drop]; omega)

def deliver {ω : Type} (stream : Stream ω) (text : String) (s : ω) : Except OutputFault Unit × ω :=
  match stream.writeAll (Utf8.bytes text) s with
  | (.error fault, s) => (.error fault, s)
  | (.ok (), s) => stream.flush s

def onSecond {ω : Type} (σ : Type) (stream : Stream ω) : Stream (σ × ω) where
  offer bytes w := let (answer, s) := stream.offer bytes w.2; (answer, (w.1, s))
  flush w := let (result, s) := stream.flush w.2; (result, (w.1, s))
  interruptions_end bytes := by
    refine Subrelation.wf ?_ (InvImage.wf Prod.snd (stream.interruptions_end bytes))
    intro later earlier interrupted
    exact Prod.ext (congrArg (fun run => run.1) interrupted) (congrArg (fun run => run.2.2) interrupted)

end Stream

end ModulatorInspector.Query
