import ModulatorInspector.Text.Binary64

namespace ModulatorInspector.Toml

structure Span where
  start : List Char
  stop : List Char

structure Key where
  text : String
  span : Span

inductive Origin where
  | header | implied | dotted | inline
  deriving DecidableEq, Repr

inductive Item where
  | string (text : String)
  | integer (value : Int)
  | float (value : Binary64)
  | boolean (value : Bool)
  | dateTime
  | array (items : List Item)
  | table (origin : Origin) (entries : List (Key × Option Span × Item))
  | tables (rows : List (List (Key × Option Span × Item)))

-- A missing span is that of a table nobody wrote down itself; its key stands for it.
abbrev Entry := Key × Option Span × Item
abbrev Entries := List Entry

def Entry.shown (e : Entry) : Span := e.2.1.getD e.1.span

namespace Entries

def get? (entries : Entries) (key : Key) : Option (Option Span × Item) :=
  (entries.find? fun e => e.1.text = key.text).map Prod.snd

def replace (entries : Entries) (key : Key) (span : Option Span) (item : Item) : Entries :=
  entries.map fun e => if e.1.text = key.text then (e.1, span, item) else e

def erase (entries : Entries) (key : Key) : Entries :=
  entries.filter fun e => e.1.text ≠ key.text

-- Applies `f` to the table that the path leads to, making the tables on the way that are missing.
-- Dotted keys may not reach into a table that a header opened; nothing reaches into an inline one.
def within {α : Type} (dotted : Bool) (f : Origin → Entries → Option (α × Entries)) :
    Origin → List Key → Entries → Option (α × Entries)
  | origin, [], entries => f origin entries
  | _, key :: path, entries =>
      match entries.get? key with
      | none =>
          let made := if dotted then Origin.dotted else .implied
          (within dotted f made path []).map fun (a, inner) =>
            (a, entries ++ [(key, none, .table made inner)])
      | some (span, .table origin inner) =>
          if origin = .inline ∨ (dotted = true ∧ origin = .header) then none
          else (within dotted f origin path inner).map fun (a, inner) =>
            (a, entries.replace key span (.table origin inner))
      | some (span, .tables rows) =>
          match rows.getLast? with
          | none => none
          | some last =>
              (within dotted f .header path last).map fun (a, last) =>
                (a, entries.replace key span (.tables (rows.dropLast ++ [last])))
      | some _ => none

def put (entries : Entries) (path : List Key) (key : Key) (span : Span) (item : Item) :
    Option Entries :=
  let add (origin : Origin) (table : Entries) : Option (Unit × Entries) :=
    if path ≠ [] ∧ origin ≠ .dotted then none
    else match table.get? key with
      | none => some ((), table ++ [(key, some span, item)])
      | some _ => none
  (within true add .header path entries).map Prod.snd

end Entries

inductive Statement where
  | assign (path : List Key) (key : Key) (span : Span) (item : Item)
  | table (parents : List Key) (key : Key) (span : Span)
  | row (parents : List Key) (key : Key) (span : Span)

-- `root` holds what is finished. The table under construction joins it when the next header or the
-- end is met, so a table stands behind those that were finished before it.
structure Draft where
  root : Entries := []
  current : Entries := []
  span : Option Span := none
  target : Option (List Key × Key × Bool) := none

namespace Draft

def merged : Option Span → Option Span → Option Span
  | some first, some last => some ⟨first.start, last.stop⟩
  | _, last => last

def settle (d : Draft) : Option Entries :=
  match d.target with
  | none => some d.current
  | some (parents, key, isRow) =>
      let add (_ : Origin) (table : Entries) : Option (Unit × Entries) :=
        match isRow, table.get? key with
        | false, none => some ((), table ++ [(key, d.span, .table .header d.current)])
        | true, some (span, .tables rows) =>
            some ((), table.replace key (merged span d.span) (.tables (rows ++ [d.current])))
        | _, _ => none
      (Entries.within false add .header parents d.root).map Prod.snd

def openTable (root : Entries) (parents : List Key) (key : Key) (span : Span) : Option Draft :=
  let take (_ : Origin) (table : Entries) : Option (Entries × Entries) :=
    match table.get? key with
    | none => some ([], table)
    | some (_, .table .implied inner) => some (inner, table.erase key)
    | some _ => none
  (Entries.within false take .header parents root).map fun (current, root) =>
    { root, current, span := some span, target := some (parents, key, false) }

def openRow (root : Entries) (parents : List Key) (key : Key) (span : Span) : Option Draft :=
  let prepare (_ : Origin) (table : Entries) : Option (Unit × Entries) :=
    match table.get? key with
    | none => some ((), table ++ [(key, none, .tables [])])
    | some (_, .tables _) => some ((), table)
    | some _ => none
  (Entries.within false prepare .header parents root).map fun ((), root) =>
    { root, span := some span, target := some (parents, key, true) }

def add (d : Draft) : Statement → Option Draft
  | .assign path key span item =>
      (d.current.put path key span item).map fun current =>
        { d with current, span := d.span.map fun s => ⟨s.start, span.stop⟩ }
  | .table parents key span => d.settle.bind fun root => openTable root parents key span
  | .row parents key span => d.settle.bind fun root => openRow root parents key span

def addAll (d : Draft) : List Statement → Option Draft
  | [] => some d
  | s :: rest => (d.add s).bind fun d => d.addAll rest

end Draft

def Entries.ofStatements (statements : List Statement) : Option Entries :=
  (({} : Draft).addAll statements).bind Draft.settle

def byteLength (cs : List Char) : Nat := cs.foldl (fun n c => n + c.utf8Size) 0

def spaces (n : Nat) : String := String.ofList (List.replicate n ' ')

structure Mark where
  line : Nat
  column : Nat
  content : List Char
  carets : Nat

def Span.mark (source : List Char) (span : Span) : Mark :=
  let before := source.take (source.length - span.start.length)
  let column := (before.reverse.takeWhile (· ≠ '\n')).length
  let content := (source.drop (before.length - column)).takeWhile (· ≠ '\n')
  let marked := byteLength (span.start.take (span.start.length - span.stop.length))
  { line := before.count '\n' + 1
    column
    content
    carets := max 1 (min marked (byteLength content - column)) }

def Mark.show (m : Mark) (remark : String) : String :=
  let number := toString m.line
  let bar := spaces (number.length + 1) ++ "|"
  "TOML parse error at line " ++ number ++ ", column " ++ toString (m.column + 1) ++ "\n"
    ++ bar ++ "\n"
    ++ number ++ " | " ++ String.ofList m.content ++ "\n"
    ++ bar ++ spaces (m.column + 1) ++ String.ofList (List.replicate m.carets '^') ++ "\n"
    ++ remark ++ "\n"

end ModulatorInspector.Toml
