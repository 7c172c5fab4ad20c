import ModulatorInspector.Text.CodePoints
import ModulatorInspector.Text.Numeral

namespace ModulatorInspector.Diagnostics.Pattern

-- What a change of options may turn: `spaced` patterns skip white space and remarks, `ascii` ones
-- know the characters of one byte only, `folded` ones take a character for its other case too.
structure Mode where
  spaced : Bool
  ascii : Bool
  folded : Bool
  deriving DecidableEq, Repr

def Mode.usual : Mode := ⟨false, false, false⟩

def Mode.spells (mode : Mode) : Bool := mode.ascii || !mode.folded

-- What one place of a pattern stands for: a character, one of several characters, or no character
-- but a place between two. A character may be given by the value of its byte, and `border` is a
-- place at the border of a word.
inductive Item where
  | character (c : Char) (byte : Bool)
  | several (negated : Bool)
  | place (border : Bool)
  deriving DecidableEq, Repr

namespace Item

def fits (mode : Mode) : Item → Bool
  | .character c byte => mode.spells && !(mode.ascii && byte && 0x80 ≤ c.toNat)
  | .several negated => mode.ascii && !negated
  | .place border => mode.ascii || !border

def fitsSet (mode : Mode) : Item → Bool
  | .character c _ => mode.spells && !(mode.ascii && 0x80 ≤ c.toNat)
  | .several negated => mode.ascii && !negated
  | .place _ => false

end Item

def lineEnd : Char := '\n'

def skip (mode : Mode) (cs : List Char) : List Char := if mode.spaced then blanks false cs else cs
where
  blanks : Bool → List Char → List Char
    | _, [] => []
    | true, c :: rest => blanks (c ≠ lineEnd) rest
    | false, c :: rest =>
        if c = '#' then blanks true rest
        else if Blank.isBlank c then blanks false rest
        else c :: rest

def hexadecimal? (mode : Mode) (byte : Bool) : Nat → Nat → List Char → Option (Item × List Char)
  | 0, value, cs =>
      if value.isValidChar then some (.character (Char.ofNat value) byte, cs) else none
  | count + 1, value, cs =>
      match skip mode cs with
      | [] => none
      | c :: rest => (Numeral.digit? 16 c).bind fun d =>
          hexadecimal? mode byte count (16 * value + d) rest

def controls : List (Char × Nat) :=
  [('a', 0x07), ('t', 0x09), ('n', 0x0A), ('v', 0x0B), ('f', 0x0C), ('r', 0x0D)]

def escape? (mode : Mode) : List Char → Option (Item × List Char)
  | [] => none
  | c :: rest =>
      if c = 'x' then hexadecimal? mode true 2 0 rest
      else if c = 'u' then hexadecimal? mode false 4 0 rest
      else if c = 'U' then hexadecimal? mode false 8 0 rest
      else if c = 'd' ∨ c = 's' ∨ c = 'w' then some (.several false, rest)
      else if c = 'D' ∨ c = 'S' ∨ c = 'W' then some (.several true, rest)
      else if c = 'A' ∨ c = 'z' then some (.place false, rest)
      else if c = 'b' then if rest.head? = some '\x7b' then none else some (.place true, rest)
      else if c = 'B' ∨ c = '<' ∨ c = '>' then some (.place true, rest)
      else match controls.lookup c with
        | some value => some (.character (Char.ofNat value) false, rest)
        | none =>
            if c.isAlphanum || 0x80 ≤ c.toNat then none else some (.character c false, rest)

-- Several parts side by side are one step deeper than the deepest of them, one part alone is as
-- deep as it is, and nothing has no depth.
def together : List Nat → Nat
  | [] => 0
  | [depth] => depth
  | depth :: more => more.foldl max depth + 1

def deepest : Nat := 250

def namedClasses : List String :=
  ["alnum", "alpha", "ascii", "blank", "cntrl", "digit", "graph", "lower", "print", "punct",
   "space", "upper", "word", "xdigit"]

def namedClass? : List Char → Option (Bool × List Char)
  | ':' :: rest =>
      let negated := rest.head? = some '^'
      let rest := if negated then rest.drop 1 else rest
      match rest.dropWhile (· ≠ ':') with
      | ':' :: ']' :: after =>
          let name := String.ofList (rest.takeWhile (· ≠ ':'))
          if namedClasses.contains name then some (negated, after) else none
      | _ => none
  | _ => none

def fitsNamed (mode : Mode) (negated : Bool) : Bool :=
  if mode.ascii then !negated else !mode.folded

structure OpenSet where
  before : Option Nat := none
  held : List Nat := []
  deriving DecidableEq, Repr

namespace OpenSet

def depth (s : OpenSet) : Nat :=
  match s.before with
  | none => together s.held
  | some before => together [before, together s.held]

def operator (s : OpenSet) : OpenSet := { before := some s.depth }

def add (s : OpenSet) (depth : Nat) : OpenSet := { s with held := depth :: s.held }

end OpenSet

def openSet? (mode : Mode) (cs : List Char) : Option (OpenSet × List Char) :=
  let cs := skip mode cs
  let negated := cs.head? = some '^'
  let cs := if negated then skip mode (cs.drop 1) else cs
  let (s, rest) := hyphens {} false cs
  let (s, rest) := if s.held = [] ∧ rest.head? = some ']' then (s.add 0, rest.drop 1) else (s, rest)
  if (mode.ascii && negated) || (s.held ≠ [] && !mode.spells) then none else some (s, rest)
where
  hyphens (s : OpenSet) : Bool → List Char → OpenSet × List Char
    | _, [] => (s, [])
    | true, c :: rest => hyphens s (c ≠ lineEnd) rest
    | false, c :: rest =>
        if c = '-' then hyphens (s.add 0) false rest
        else if mode.spaced && c = '#' then hyphens s true rest
        else if mode.spaced && Blank.isBlank c then hyphens s false rest
        else (s, c :: rest)

def setItem? (mode : Mode) : List Char → Option (Item × List Char)
  | [] => none
  | '\\' :: rest => escape? mode rest
  | c :: rest => some (.character c false, rest)

def ahead? (mode : Mode) (cs : List Char) : Option Char :=
  if mode.spaced then search false cs else cs.head?
where
  search : Bool → List Char → Option Char
    | _, [] => none
    | signed, c :: rest =>
        if Blank.isBlank c then search signed rest
        else if !signed && c = '#' then search true rest
        else some c

def range? (mode : Mode) (cs : List Char) : Option (List Char) := do
  let (first, rest) ← setItem? mode cs
  let rest := skip mode rest
  let next := ahead? mode (rest.drop 1)
  if rest.head? = some '-' ∧ next ≠ some ']' ∧ next ≠ some '-' then
    let (last, rest) ← setItem? mode (skip mode (rest.drop 1))
    match first, last with
    | .character low _, .character high _ =>
        if low ≤ high ∧ last.fitsSet mode then some rest else none
    | _, _ => none
  else if first.fitsSet mode then some rest
  else none

-- The depth of a set from somewhere inside it, and what follows it. The list holds the sets around.
def inSet? (mode : Mode) : Nat → OpenSet → List OpenSet → List Char → Option (Nat × List Char)
  | 0, _, _, _ => none
  | fuel + 1, s, outer, cs =>
      match skip mode cs with
      | [] => none
      | '[' :: rest =>
          match namedClass? rest with
          | some (negated, after) =>
              if fitsNamed mode negated then inSet? mode fuel (s.add 0) outer after else none
          | none => (openSet? mode rest).bind fun (inner, rest) =>
              inSet? mode fuel inner (s :: outer) rest
      | ']' :: rest =>
          match outer with
          | [] => some (s.depth + 1, rest)
          | around :: outer => inSet? mode fuel (around.add (s.depth + 1)) outer rest
      | '&' :: '&' :: rest | '-' :: '-' :: rest | '~' :: '~' :: rest =>
          inSet? mode fuel s.operator outer rest
      | cs => (range? mode cs).bind (inSet? mode fuel (s.add 0) outer)

-- Every step reads a character, so the length of the text is fuel enough.
def set? (mode : Mode) (cs : List Char) : Option (Nat × List Char) :=
  (openSet? mode cs).bind fun (s, rest) => inSet? mode (cs.length + 1) s [] rest

def optionLetters : List Char := ['i', 'm', 's', 'U', 'u', 'R', 'x']

def options? (mode : Mode) (text : List Char) : Option Mode :=
  let on := text.takeWhile (· ≠ '-')
  let off := text.drop on.length
  if text.all (fun c => c = '-' || optionLetters.contains c) ∧ text.Nodup ∧
      text.getLast? ≠ some '-' then
    some {
      spaced := (mode.spaced || on.contains 'x') && !off.contains 'x'
      ascii := (mode.ascii || off.contains 'u') && !on.contains 'u'
      folded := (mode.folded || on.contains 'i') && !off.contains 'i' }
  else none

def isName : List Char → Bool
  | [] => false
  | first :: rest =>
      (first = '_' || Alphabetic.points.has first) &&
        rest.all fun c =>
          c = '_' || c = '.' || c = '[' || c = ']' || Alphanumeric.isAlphanumeric c

-- What a group holds so far: the options that count from here on, the depths of the branches before
-- the present one, and those of its elements, the last one first. A change of options is an element
-- that cannot be repeated.
structure Body where
  mode : Mode := .usual
  branches : List Nat := []
  elements : List (Option Nat) := []
  deriving DecidableEq, Repr

namespace Body

def add (b : Body) (depth : Nat) : Body := { b with elements := some depth :: b.elements }

def change (b : Body) (mode : Mode) : Body := { b with mode, elements := none :: b.elements }

def branch (b : Body) : Body :=
  { b with branches := together (b.elements.map (·.getD 0)) :: b.branches, elements := [] }

def depth (b : Body) : Nat := together b.branch.branches

def repeat? (b : Body) : Option Body :=
  match b.elements with
  | some depth :: earlier => some { b with elements := some (depth + 1) :: earlier }
  | _ => none

end Body

structure Progress where
  body : Body := {}
  outer : List Body := []
  names : List (List Char) := []
  deriving DecidableEq, Repr

namespace Progress

def mode (p : Progress) : Mode := p.body.mode

def add (p : Progress) (depth : Nat) : Progress := { p with body := p.body.add depth }

def enter (p : Progress) (mode : Mode) : Progress :=
  { p with body := { mode }, outer := p.body :: p.outer }

def leave? (p : Progress) : Option Progress :=
  match p.outer with
  | [] => none
  | around :: outer => some { p with body := around.add (p.body.depth + 1), outer }

def named? (p : Progress) (cs : List Char) : Option (Progress × List Char) :=
  let name := cs.takeWhile (· ≠ '>')
  match cs.drop name.length with
  | [] => none
  | _ :: rest =>
      if isName name ∧ !p.names.contains name then
        some ({ p.enter p.mode with names := name :: p.names }, rest)
      else none

def group? (p : Progress) : List Char → Option (Progress × List Char)
  | '?' :: 'P' :: '<' :: rest | '?' :: '<' :: rest => p.named? rest
  | '?' :: rest =>
      let text := rest.takeWhile fun c => c ≠ ':' && c ≠ ')'
      match options? p.mode text, rest.drop text.length with
      | some mode, ':' :: rest => some (p.enter mode, rest)
      | some mode, ')' :: rest =>
          if text = [] then none else some ({ p with body := p.body.change mode }, rest)
      | _, _ => none
  | rest => some (p.enter p.mode, rest)

def item? (p : Progress) (item : Item) (rest : List Char) : Option (Progress × List Char) :=
  if item.fits p.mode then some (p.add 0, rest) else none

def element? (p : Progress) : List Char → Option (Progress × List Char)
  | [] => none
  | '(' :: rest => p.group? (skip p.mode rest)
  | ')' :: rest => p.leave?.map fun p => (p, rest)
  | '|' :: rest => some ({ p with body := p.body.branch }, rest)
  | '[' :: rest => (set? p.mode rest).map fun (depth, rest) => (p.add depth, rest)
  | '?' :: rest | '*' :: rest | '+' :: rest => p.body.repeat?.map fun body =>
      ({ p with body }, if rest.head? = some '?' then rest.drop 1 else rest)
  | '\x7b' :: _ => none
  | '\\' :: rest => (escape? p.mode rest).bind fun (item, rest) => p.item? item rest
  | '^' :: rest | '$' :: rest => p.item? (.place false) rest
  | '.' :: rest => if p.mode.ascii then none else some (p.add 0, rest)
  | c :: rest => p.item? (.character c false) rest

def reads : Nat → Progress → List Char → Bool
  | 0, _, _ => false
  | fuel + 1, p, cs =>
      match skip p.mode cs with
      | [] => p.outer = [] && p.body.depth ≤ deepest
      | cs =>
          match p.element? cs with
          | some (p, rest) => reads fuel p rest
          | none => false

end Progress

def isPattern (text : List Char) : Bool := Progress.reads (text.length + 1) {} text

def isExponent : List Char → Bool
  | [] => true
  | c :: rest =>
      let digits := if rest.head? = some '+' ∨ rest.head? = some '-' then rest.drop 1 else rest
      (c = 'e' || c = 'E') && digits ≠ [] && digits.all Char.isDigit

def isNumber (cs : List Char) : Bool :=
  let whole := cs.takeWhile Char.isDigit
  let rest := cs.drop whole.length
  let point := rest.head? = some '.'
  let fraction := if point then (rest.drop 1).takeWhile Char.isDigit else []
  let rest := if point then (rest.drop 1).dropWhile Char.isDigit else rest
  (whole ++ fraction ≠ [] && isExponent rest) ||
    ["inf", "infinity", "nan"].contains (String.ofList (cs.map Char.toLower))

-- A value is a number or a pattern. Only a number with a plus sign is not also a pattern.
def isValue (text : List Char) : Bool :=
  (text.head? = some '+' && isNumber (text.drop 1)) || isPattern text

end ModulatorInspector.Diagnostics.Pattern
