import ModulatorInspector.Diagnostics.Event
import ModulatorInspector.Diagnostics.Pattern
import ModulatorInspector.Text.Lossy

namespace ModulatorInspector.Diagnostics

abbrev Threshold := Nat

-- A span is a stretch of the program's work, and values are only looked at in spans. The program
-- opens none, so such a directive is never met.
inductive Scope where
  | everything
  | carrying (field : String)
  | spans
  deriving DecidableEq, Repr

structure Directive where
  target : Option String
  scope : Scope
  threshold : Threshold
  deriving DecidableEq, Repr

namespace Directive

def words : List (String × Threshold) :=
  [("off", 0), ("error", 1), ("warn", 2), ("info", 3), ("debug", 4), ("trace", 5)]

def most : Threshold := 5

def threshold? (text : String) : Option Threshold :=
  match Numeral.natural 10 Numeral.greatest64 text.toList with
  | .ok n => if n ≤ most then some n else none
  | .error _ => (words.find? fun word => Blank.sameIgnoringCase word.1 text).map Prod.snd

def mayBegin (c : Char) : Bool :=
  c == '-' || c == ':' || c == '_' || Alphanumeric.isAlphanumeric c

-- Why a text is no directive. It is torn where a place to cut it lies inside a character.
inductive Fault where
  | malformed
  | torn
  deriving DecidableEq, Repr

-- A directive is read without the blanks around it, but its parts are cut by place, in bytes, from
-- the text that still has them.
structure Reading where
  whole : String
  place : Nat
  rest : List Char
  deriving DecidableEq, Repr

namespace Reading

def cut (whole : String) (place count : Nat) : Except Fault String :=
  let bytes := Utf8.bytes whole
  match Utf8.text? (bytes.take place), Utf8.text? ((bytes.drop place).take count) with
  | some _, some part => .ok part
  | _, _ => .error .torn

def part (r : Reading) (ends : Char → Bool) : Except Fault (String × Reading) :=
  let text := r.rest.takeWhile fun c => !ends c
  let width := (String.ofList text).utf8ByteSize
  match r.rest.drop text.length with
  | [] => .error .malformed
  | rest => (cut r.whole r.place width).map fun part =>
      (part, { r with place := r.place + width, rest })

def next (r : Reading) : Reading := { r with place := r.place + 1, rest := r.rest.drop 1 }

def remainder (r : Reading) : Except Fault String :=
  cut r.whole r.place (r.whole.utf8ByteSize - r.place)

end Reading

def leveled (target : Option String) (scope : Scope) (r : Reading) : Except Fault Directive := do
  let level ← r.remainder
  if level = "" then .ok ⟨target, scope, most⟩
  else match threshold? level with
    | some threshold => .ok ⟨target, scope, threshold⟩
    | none => .error .malformed

def closed (target : Option String) (scope : Scope) (r : Reading) : Except Fault Directive :=
  match r.rest with
  | [] => .ok ⟨target, scope, most⟩
  | '=' :: _ => leveled target scope r.next
  | _ => .error .malformed

def fieldScope? (field : String) : Option Scope :=
  let name := field.toList.takeWhile (· ≠ '=')
  match field.toList.drop name.length with
  | [] => if name = [] then none else some (.carrying field)
  | _ :: rest => if Pattern.isValue (rest.takeWhile (· ≠ '=')) then some .spans else none

def bracketed (target : Option String) (r : Reading) : Except Fault Directive := do
  let (name, r) ← r.part fun c => c = ']' || c = '\x7b'
  if r.rest.head? = some ']' then closed target .spans r.next
  else
    let (field, r) ← r.next.part (· = '\x7d')
    match fieldScope? field, r.rest with
    | some scope, _ :: ']' :: _ => closed target (if name = "" then scope else .spans) r.next.next
    | _, _ => .error .malformed

def ofWord (word : String) : Directive :=
  match threshold? word with
  | some threshold => ⟨none, .everything, threshold⟩
  | none => ⟨some word, .everything, most⟩

def ofText (text : String) : Except Fault Directive :=
  let r : Reading := ⟨text, 0, Blank.trimmed text.toList⟩
  match r.rest with
  | [] => .error .malformed
  | first :: _ =>
      if first = '[' then bracketed none r.next
      else if !mayBegin first then .error .malformed
      else if r.rest.all fun c => c ≠ '=' && c ≠ '[' then .ok (ofWord text)
      else do
        let (target, r) ← r.part fun c => c = '=' || c = '['
        if r.rest.head? = some '=' then leveled (some target) .everything r.next
        else bracketed (some target) r.next

def covers (d : Directive) (e : Event) : Bool :=
  (match d.target with
    | none => true
    | some target => target.toList.isPrefixOf e.component.path.toList) &&
  match d.scope with
  | .everything => true
  | .carrying field => e.fields.contains field
  | .spans => false

def targetSize (d : Directive) : Nat :=
  match d.target with
  | none => 0
  | some target => target.utf8ByteSize + 1

def field (d : Directive) : String :=
  match d.scope with
  | .carrying name => name
  | _ => ""

-- A longer target comes before a shorter one, then one with a field before one without, and then
-- the later name of a field before the earlier one. The empty name, which no field has, is the
-- earliest.
def yieldsTo (a b : Directive) : Bool :=
  a.targetSize < b.targetSize || (a.targetSize = b.targetSize && a.field ≤ b.field)

end Directive

abbrev Filter := List Directive

namespace Filter

def splitCommas : List Char → List (List Char)
  | [] => [[]]
  | c :: rest =>
      if c = ',' then [] :: splitCommas rest
      else match splitCommas rest with
        | first :: more => (c :: first) :: more
        | [] => [[c]]

def errorsOnly : Filter := [⟨none, .everything, 1⟩]
def warnings : Filter := [⟨none, .everything, 2⟩]
def debugging : Filter := [⟨none, .everything, 4⟩]

def ofText (text : String) : Except Directive.Fault Filter :=
  match (splitCommas text.toList).filter (· ≠ []) with
  | [] => .ok errorsOnly
  | directives => directives.mapM fun directive => Directive.ofText (String.ofList directive)

-- Asking for debugging wins over the setting, and a malformed setting counts as absent. There is no
-- filter for a torn one.
def choose? (debug : Bool) (setting : Option String) : Option Filter :=
  if debug then some debugging
  else match setting.map ofText with
    | none | some (.error .malformed) => some warnings
    | some (.ok filter) => some filter
    | some (.error .torn) => none

def install (present : Option Filter) (filter : Filter) : Option Filter :=
  match present with
  | none => some filter
  | some _ => none

def decisive? (filter : Filter) (e : Event) : Option Directive :=
  (filter.filter (·.covers e)).foldl (fun best d =>
    match best with
    | some b => if b.yieldsTo d then some d else some b
    | none => some d) none

def shows (filter : Filter) (e : Event) : Bool :=
  match filter.decisive? e with
  | some d => e.level.rank ≤ d.threshold
  | none => false

def lines (filter : Filter) (events : List Event) : List String :=
  (events.filter filter.shows).map Event.line

end Filter

end ModulatorInspector.Diagnostics
