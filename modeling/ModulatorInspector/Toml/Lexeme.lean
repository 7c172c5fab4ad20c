import ModulatorInspector.Text.Numeral

namespace ModulatorInspector.Toml

def isBlank (c : Char) : Bool := c == ' ' || c == '\t'

def dropBlanks (cs : List Char) : List Char := cs.dropWhile isBlank

def isShown (c : Char) : Bool := c == '\t' || (0x20 ≤ c.toNat && c.toNat != 0x7F)

def newline? : List Char → Option (List Char)
  | '\n' :: rest => some rest
  | '\r' :: '\n' :: rest => some rest
  | _ => none

def startsNewline (cs : List Char) : Bool := (newline? cs).isSome

def lineEnd? (cs : List Char) : Option (List Char) :=
  let cs := match dropBlanks cs with
    | '#' :: rest => rest.dropWhile isShown
    | rest => rest
  match cs with
  | [] => some []
  | cs => newline? cs

def skipLines : Bool → List Char → List Char
  | _, [] => []
  | inComment, c :: rest =>
      if c = '\n' then skipLines false rest
      else if c = '\r' then (if rest.head? = some '\n' then skipLines false rest else c :: rest)
      else if inComment then (if isShown c then skipLines true rest else c :: rest)
      else if c = '#' then skipLines true rest
      else if isBlank c then skipLines false rest
      else c :: rest

def simpleEscape? (c : Char) : Option Char :=
  if c = 'b' then some '\x08'
  else if c = 't' then some '\t'
  else if c = 'n' then some '\n'
  else if c = 'f' then some '\x0c'
  else if c = 'r' then some '\r'
  else if c = '"' ∨ c = '\\' then some c
  else none

def character? (n : Nat) : Option Char :=
  if n < 0xD800 ∨ (0xDFFF < n ∧ n < 0x110000) then some (Char.ofNat n) else none

-- Where a reader stands with respect to an escape: outside, behind its backslash, or inside a code
-- point of which so many digits are to come.
inductive Escape where
  | outside
  | opened
  | code (left value : Nat)

def Escape.next (c : Char) : Escape → Option (Escape × List Char)
  | .outside => some (.outside, [c])
  | .opened =>
      if c = 'u' then some (.code 4 0, [])
      else if c = 'U' then some (.code 8 0, [])
      else (simpleEscape? c).map fun x => (.outside, [x])
  | .code left value =>
      (Numeral.digit? 16 c).bind fun d =>
        let total := value * 16 + d
        if 1 < left then some (.code (left - 1) total, [])
        else (character? total).map fun x => (.outside, [x])

def prefixed (front : List Char) (read : Option (List Char × List Char)) :
    Option (List Char × List Char) :=
  read.map fun (text, rest) => (front ++ text, rest)

def basicBody : Escape → List Char → Option (List Char × List Char)
  | _, [] => none
  | .outside, c :: rest =>
      if c = '"' then some ([], rest)
      else if c = '\\' then basicBody .opened rest
      else if isShown c then prefixed [c] (basicBody .outside rest)
      else none
  | state, c :: rest =>
      match state.next c with
      | none => none
      | some (state, text) => prefixed text (basicBody state rest)

def literalBody : List Char → Option (List Char × List Char)
  | [] => none
  | c :: rest =>
      if c = '\'' then some ([], rest)
      else if isShown c then prefixed [c] (literalBody rest)
      else none

-- Three quotes close; up to two more before them belong to the text.
def closing? (quote : Char) (cs : List Char) : Option (List Char × List Char) :=
  let run := (cs.takeWhile (· = quote)).length
  if run < 3 then none
  else some (List.replicate (min (run - 3) 2) quote, cs.drop (min run 5))

-- A backslash at the end of a line hides the line's end and all blanks and line ends behind it;
-- `joining` holds after one. A line end is one newline, however it was written.
def multilineBody : (joining : Bool) → Escape → List Char → Option (List Char × List Char)
  | _, _, [] => none
  | joining, .outside, c :: rest =>
      if c = '\r' then
        if rest.head? = some '\n' then multilineBody joining .outside rest else none
      else if joining && (isBlank c || c == '\n') then multilineBody true .outside rest
      else if c = '"' then
        match closing? '"' (c :: rest) with
        | some closed => some closed
        | none => prefixed [c] (multilineBody false .outside rest)
      else if c = '\\' then
        if startsNewline (dropBlanks rest) then multilineBody true .outside rest
        else multilineBody false .opened rest
      else if c = '\n' || isShown c then prefixed [c] (multilineBody false .outside rest)
      else none
  | _, state, c :: rest =>
      match state.next c with
      | none => none
      | some (state, text) => prefixed text (multilineBody false state rest)

def multilineLiteralBody : List Char → Option (List Char × List Char)
  | [] => none
  | c :: rest =>
      if c = '\r' then
        if rest.head? = some '\n' then multilineLiteralBody rest else none
      else if c = '\'' then
        match closing? '\'' (c :: rest) with
        | some closed => some closed
        | none => prefixed [c] (multilineLiteralBody rest)
      else if c = '\n' || isShown c then prefixed [c] (multilineLiteralBody rest)
      else none

def dropNewline (cs : List Char) : List Char := (newline? cs).getD cs

def string? : List Char → Option (List Char × List Char)
  | '"' :: '"' :: '"' :: rest => multilineBody false .outside (dropNewline rest)
  | '\'' :: '\'' :: '\'' :: rest => multilineLiteralBody (dropNewline rest)
  | '"' :: rest => basicBody .outside rest
  | '\'' :: rest => literalBody rest
  | _ => none

def isBare (c : Char) : Bool :=
  ('A' ≤ c && c ≤ 'Z') || ('a' ≤ c && c ≤ 'z') || ('0' ≤ c && c ≤ '9') || c == '_' || c == '-'

def keyText? : List Char → Option (List Char × List Char)
  | '"' :: rest => basicBody .outside rest
  | '\'' :: rest => literalBody rest
  | cs => if (cs.takeWhile isBare).isEmpty then none else some (cs.span isBare)

end ModulatorInspector.Toml
