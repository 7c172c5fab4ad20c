import ModulatorInspector.Text.Lossy

namespace ModulatorInspector.Plain

def escapeCharacter : Char := '\x1b'

-- Where a terminal sequence stands. A `command` ends at a last letter and a `message` at a bell.
-- The head of a device sequence is `announced`, has parameters (`numbered`) or marks behind them
-- (`qualified`); its `data` end at the byte that closes a string.
inductive State where
  | outside | begun | continued | command | message
  | announced | numbered | qualified | data
  deriving DecidableEq

-- How a text is used. One that is quoted gives a sequence up at white space shown inside it; one
-- that is written takes it up again behind the characters that are shown with the white space.
inductive Use where
  | quoted | written
  deriving DecidableEq, Repr

def isSpacing (c : Char) : Bool := c == '\t' || c == '\n' || c == '\x0c' || c == '\x0d'

def isControl (c : Char) : Bool := c.toNat < 0x20 || c == '\x7f'

def between (low high : Nat) (c : Char) : Bool := low ≤ c.toNat && c.toNat ≤ high

-- Sequences are made of bytes, so the closing byte counts also inside a longer character, which is
-- then left out as a whole.
def closingByte : UInt8 := 0x9c

def closesData (c : Char) : Bool := (Utf8.bytes (String.singleton c)).contains closingByte

def advance : State → Char → State
  | .outside, _ => .outside
  | .begun, c =>
      if c == '[' then .command
      else if c == ']' then .message
      else if c == 'P' then .announced
      else if c == 'X' || c == '^' || c == '_' then .data
      else if between 0x20 0x2f c then .continued
      else if between 0x30 0x7e c then .outside
      else .begun
  | .continued, c => if between 0x30 0x7e c then .outside else .continued
  | .command, c => if between 0x40 0x7e c then .outside else .command
  | .message, c => if c == '\x07' then .outside else .message
  | .announced, c =>
      if between 0x20 0x2f c then .qualified
      else if between 0x30 0x3f c then .numbered
      else if between 0x40 0x7e c then .data
      else .announced
  | .numbered, c =>
      if between 0x20 0x2f c then .qualified
      else if between 0x30 0x3b c then .numbered
      else if between 0x3c 0x7e c then .data
      else .numbered
  | .qualified, c => if between 0x30 0x7e c then .data else .qualified
  | .data, c => if closesData c then .outside else .data

def swallows : State → Bool
  | .message | .announced | .numbered | .qualified | .data => true
  | .outside | .begun | .continued | .command => false

def shows (state : State) (c : Char) : Bool :=
  if isControl c then isSpacing c && !swallows state else state = .outside

def visibleFrom (use : Use) (amongShown : Bool) : State → List Char → List Char
  | _, [] => []
  | state, c :: rest =>
      if c = escapeCharacter then visibleFrom use false .begun rest
      else if c = '\x18' ∨ c = '\x1a' then visibleFrom use false .outside rest
      else if amongShown && shows .outside c then
        c :: visibleFrom use true (if c.toNat < 0x80 then state else .outside) rest
      else if shows state c then
        c :: visibleFrom use true (if use = .written then state else .outside) rest
      else visibleFrom use false (advance state c) rest

def visible (use : Use) (text : String) : String :=
  String.ofList (visibleFrom use false .outside text.toList)

def visibleRuns (use : Use) (runs : List String) : String := String.join (runs.map (visible use))

end ModulatorInspector.Plain
