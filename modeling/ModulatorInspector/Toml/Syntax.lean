import ModulatorInspector.Toml.Number

namespace ModulatorInspector.Toml

-- Keys have fewer than this many parts, and values fewer than this many brackets around them.
def depthLimit : Nat := 80

abbrev Reader (α : Type) := List Char → Option (α × List Char)

def key? : Reader Key := fun cs =>
  (keyText? cs).map fun (text, rest) => (⟨String.ofList text, ⟨cs, rest⟩⟩, rest)

def keys? : Nat → List Char → Option (List Key × Key × List Char)
  | 0, _ => none
  | more + 1, cs =>
      match key? (dropBlanks cs) with
      | none => none
      | some (key, rest) =>
          match dropBlanks rest with
          | '.' :: rest =>
              (keys? more rest).map fun (path, last, rest) => (key :: path, last, rest)
          | rest => some ([], key, rest)

def dottedKey? (cs : List Char) : Option (List Key × Key × List Char) := keys? (depthLimit - 1) cs

def items? (item? : Reader Item) : Nat → Reader (List Item)
  | 0, _ => none
  | fuel + 1, cs =>
      match skipLines false cs with
      | ']' :: rest => some ([], rest)
      | cs =>
          match item? cs with
          | none => none
          | some (item, rest) =>
              match skipLines false rest with
              | ',' :: rest =>
                  (items? item? fuel rest).map fun (items, rest) => (item :: items, rest)
              | ']' :: rest => some ([item], rest)
              | _ => none

structure Field where
  path : List Key
  key : Key
  span : Span
  item : Item

def field? (item? : Reader Item) : Reader Field := fun cs =>
  (dottedKey? cs).bind fun (path, key, rest) =>
    match rest with
    | '=' :: rest =>
        let start := dropBlanks rest
        (item? start).map fun (item, stop) => (⟨path, key, ⟨start, stop⟩, item⟩, stop)
    | _ => none

def fields? (item? : Reader Item) : Nat → Reader (List Field)
  | 0, _ => none
  | fuel + 1, cs =>
      match field? item? cs with
      | none => none
      | some (field, rest) =>
          match dropBlanks rest with
          | ',' :: rest => (fields? item? fuel rest).map fun (more, rest) => (field :: more, rest)
          | '}' :: rest => some ([field], rest)
          | _ => none

def tableOf : List Field → Entries → Option Entries
  | [], table => some table
  | f :: rest, table => (table.put f.path f.key f.span f.item).bind (tableOf rest)

def inlineTable? (item? : Reader Item) : Reader Item := fun cs =>
  match dropBlanks cs with
  | '}' :: rest => some (.table .inline [], rest)
  | cs =>
      (fields? item? (cs.length + 1) cs).bind fun (fields, rest) =>
        (tableOf fields []).map fun table => (.table .inline table, rest)

def word? (word : String) (item : Item) : Reader Item := fun cs =>
  if cs.take word.length = word.toList then some (item, cs.drop word.length) else none

def scalar? : Reader Item := fun cs =>
  match cs with
  | [] => none
  | c :: _ =>
      if c = '"' ∨ c = '\'' then
        (string? cs).map fun (text, rest) => (.string (String.ofList text), rest)
      else if c = '+' ∨ c = '-' ∨ isDigit 10 c then number? cs
      else if c = 't' then word? "true" (.boolean true) cs
      else if c = 'f' then word? "false" (.boolean false) cs
      else (special? cs).map fun (x, rest) => (.float x, rest)

-- The number is how many more brackets may be opened.
def item? : Nat → Reader Item
  | 0 => fun cs => scalar? cs
  | depth + 1 => fun cs =>
      match cs with
      | '[' :: rest =>
          (items? (item? depth) (rest.length + 1) rest).map fun (items, rest) =>
            (.array items, rest)
      | '{' :: rest => inlineTable? (item? depth) rest
      | cs => scalar? cs

def value? : Reader Item := item? (depthLimit - 1)

def header? (isRow : Bool) (start cs : List Char) : Option (Statement × List Char) :=
  (dottedKey? cs).bind fun (parents, key, rest) =>
    match isRow, rest with
    | true, ']' :: ']' :: stop =>
        (lineEnd? stop).map fun rest => (.row parents key ⟨start, stop⟩, rest)
    | false, ']' :: stop =>
        (lineEnd? stop).map fun rest => (.table parents key ⟨start, stop⟩, rest)
    | _, _ => none

def assignment? (cs : List Char) : Option (Statement × List Char) :=
  (field? value? cs).bind fun (f, rest) =>
    (lineEnd? rest).map fun rest => (.assign f.path f.key f.span f.item, rest)

def statement? (cs : List Char) : Option (Statement × List Char) :=
  match cs with
  | '[' :: '[' :: rest => header? true cs rest
  | '[' :: rest => header? false cs rest
  | _ => assignment? cs

def statements? : Nat → List Char → Option (List Statement)
  | 0, _ => none
  | fuel + 1, cs =>
      match dropBlanks cs with
      | [] => some []
      | c :: rest =>
          if c = '#' ∨ startsNewline (c :: rest) then
            (lineEnd? (c :: rest)).bind fun rest => statements? fuel rest
          else
            (statement? (c :: rest)).bind fun (s, rest) =>
              (statements? fuel rest).map fun more => s :: more

-- A byte order mark in front is not part of the document.
def dropMark : List Char → List Char
  | '\uFEFF' :: rest => rest
  | cs => cs

def document? (source : List Char) : Option Entries :=
  let cs := dropMark source
  (statements? (cs.length + 1) cs).bind Entries.ofStatements

end ModulatorInspector.Toml
