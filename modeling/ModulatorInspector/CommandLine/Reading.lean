import ModulatorInspector.CommandLine.Arguments

namespace ModulatorInspector.CommandLine

inductive Pending where
  | nothing
  | wanting (p : Parameter)
  | holding (p : Parameter) (value : List Char)
  deriving DecidableEq, Repr

structure Progress where
  arguments : Arguments
  pending : Pending

namespace Progress

def settle (r : Progress) : Except Stop Arguments :=
  match r.pending with
  | .nothing => .ok r.arguments
  | .wanting p => .error (.missingValue p)
  | .holding p value => r.arguments.give p value

def onSwitch (r : Progress) (s : Switch) : Except Stop Progress := do
  let a ← (← r.settle).turnOn s
  return ⟨a, .nothing⟩

def onAttached (r : Progress) (p : Parameter) (value : List Char) : Except Stop Progress := do
  let a ← (← r.settle).give p value
  return ⟨a, .nothing⟩

-- The value is the next word, if that can be one.
def onParameter (r : Progress) (p : Parameter) : Except Stop Progress := do
  return ⟨← r.settle, .wanting p⟩

def onInquiry (r : Progress) (i : Inquiry) (form : Form) : Except Stop Progress := do
  let _ ← r.settle
  throw (.inquiry i form)

-- One sign of equality before an attached value does not belong to it.
def attachedValue : List Char → List Char
  | '=' :: value => value
  | value => value

-- The letters behind one dash. A parameter takes all that is left of the word.
def readLetters : Progress → List Char → Except Stop Progress
  | r, [] => .ok r
  | r, c :: rest =>
      match Term.ofLetter? c with
      | none => .error (.unexpected (String.ofList ['-', c]))
      | some (.switch s) => (r.onSwitch s).bind fun r => readLetters r rest
      | some (.parameter p) =>
          if rest = [] then r.onParameter p else r.onAttached p (attachedValue rest)
      | some (.inquiry i) => r.onInquiry i .summary

def readName (r : Progress) (name : List Char) (value? : Option (List Char)) :
    Except Stop Progress :=
  match Term.ofName? name, value? with
  | none, _ => .error (.unexpected (String.ofList ('-' :: '-' :: name)))
  | some (.parameter p), some value => r.onAttached p value
  | some (.parameter p), none => r.onParameter p
  | some term, some value => .error (.surplusValue term (String.ofList value))
  | some (.switch s), none => r.onSwitch s
  | some (.inquiry i), none => r.onInquiry i .full

def splitAtSign : List Char → List Char × Option (List Char)
  | [] => ([], none)
  | '=' :: value => ([], some value)
  | c :: rest => let (name, value?) := splitAtSign rest; (c :: name, value?)

def readOther (r : Progress) (word : List Char) : Except Stop Progress :=
  match r.pending with
  | .wanting p => .ok { r with pending := .holding p word }
  | _ => .error (.unexpected (String.ofList word))

def readWord (r : Progress) : List Char → Except Stop Progress
  | '-' :: '-' :: body => let (name, value?) := splitAtSign body; r.readName name value?
  | '-' :: c :: letters => r.readLetters (c :: letters)
  | word => r.readOther word

def optionsEnd : List Char := ['-', '-']

def readWords : Progress → List (List Char) → Except Stop Arguments
  | r, [] => r.settle
  | r, word :: rest =>
      if word = optionsEnd then
        match rest with
        | [] => r.settle
        | surplus :: _ => .error (.unexpected (String.ofList surplus))
      else (r.readWord word).bind fun r => readWords r rest

end Progress

-- `fallback` is the configuration directory of an invocation that names none.
def Arguments.withFallback (a : Arguments) (fallback : Option String) : Except Stop Arguments :=
  match a.configDirectory, fallback with
  | none, some path => a.give .configDirectory path.toList
  | _, _ => .ok a

def read (words : List String) (fallback : Option String) : Except Stop Arguments :=
  (Progress.readWords ⟨{}, .nothing⟩ (words.map String.toList)).bind fun a =>
    a.withFallback fallback

end ModulatorInspector.CommandLine
