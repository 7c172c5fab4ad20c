import Mathlib.Data.List.Nodup
import ModulatorInspector.Toml.Syntax

namespace ModulatorInspector.Toml

open Numeral (greatestSigned64)

-- Kept whatever a line does at the top, where the items that lines give are fit. Tables always are.
structure Entries.Kept (Fit : Item → Prop) (P : Entries → Prop) : Prop where
  table : ∀ origin inner, Fit (.table origin inner)
  tables : ∀ rows, Fit (.tables rows)
  nil : P []
  append : ∀ {entries} key span {item}, P entries → entries.get? key = none → Fit item →
    P (entries ++ [(key, span, item)])
  replace : ∀ {entries} key span {item}, P entries → Fit item → P (entries.replace key span item)
  erase : ∀ {entries} key, P entries → P (entries.erase key)

def Statement.Gives (Fit : Item → Prop) : Statement → Prop
  | .assign _ _ _ item => Fit item
  | .table .. | .row .. => True

-- While no table is under construction, the current entries are those of the document itself.
structure Draft.Keeps (P : Entries → Prop) (d : Draft) : Prop where
  root : P d.root
  top : d.target = none → P d.current

namespace Entries.Kept

variable {Fit : Item → Prop} {P : Entries → Prop} {entries next root : Entries} {key : Key}
  {span : Option Span} {item : Item} {d after : Draft} {parents : List Key} {place : Span}
  {statements : List Statement}

-- A change at the top must keep the property itself; one in a table below does not touch it.
theorem within {α : Type} {dotted : Bool} {f : Origin → Entries → Option (α × Entries)}
    {origin : Origin} {path : List Key} {a : α} (kept : Kept Fit P) (holds : P entries)
    (keeps : ∀ a next, path = [] → f origin entries = some (a, next) → P next)
    (entered : Entries.within dotted f origin path entries = some (a, next)) : P next := by
  cases path with
  | nil => exact keeps a next rfl entered
  | cons key path =>
    unfold Entries.within at entered
    split at entered
    · rename_i new
      obtain ⟨_, _, made⟩ := Option.map_eq_some_iff.mp entered
      cases made
      exact kept.append _ _ holds new (kept.table _ _)
    · split at entered
      · cases entered
      · obtain ⟨_, _, changed⟩ := Option.map_eq_some_iff.mp entered
        cases changed
        exact kept.replace _ _ holds (kept.table _ _)
    · split at entered
      · cases entered
      · obtain ⟨_, _, changed⟩ := Option.map_eq_some_iff.mp entered
        cases changed
        exact kept.replace _ _ holds (kept.tables _)
    · cases entered

theorem put {path : List Key} (kept : Kept Fit P) (holds : P entries) (fit : Fit item)
    (given : entries.put path key place item = some next) : P next := by
  unfold Entries.put at given
  obtain ⟨⟨_, _⟩, entered, rfl⟩ := Option.map_eq_some_iff.mp given
  refine kept.within holds ?_ entered
  intro _ _ _ added
  split at added
  · cases added
  · split at added
    · rename_i new
      cases added
      exact kept.append _ _ holds new fit
    · cases added

theorem settle (kept : Kept Fit P) (sound : d.Keeps P) (settled : d.settle = some root) :
    P root := by
  unfold Draft.settle at settled
  split at settled
  · rename_i top
    cases settled
    exact sound.top top
  · obtain ⟨⟨_, _⟩, entered, rfl⟩ := Option.map_eq_some_iff.mp settled
    refine kept.within sound.root ?_ entered
    intro _ _ _ added
    split at added
    · rename_i new _
      cases added
      exact kept.append _ _ sound.root new (kept.table _ _)
    · cases added
      exact kept.replace _ _ sound.root (kept.tables _)
    · cases added

theorem openTable (kept : Kept Fit P) (holds : P root)
    (opened : Draft.openTable root parents key place = some after) : after.Keeps P := by
  unfold Draft.openTable at opened
  obtain ⟨⟨_, _⟩, entered, rfl⟩ := Option.map_eq_some_iff.mp opened
  refine ⟨kept.within holds ?_ entered, nofun⟩
  intro _ _ _ taken
  split at taken
  · cases taken
    exact holds
  · cases taken
    exact kept.erase _ holds
  · cases taken

theorem openRow (kept : Kept Fit P) (holds : P root)
    (opened : Draft.openRow root parents key place = some after) : after.Keeps P := by
  unfold Draft.openRow at opened
  obtain ⟨⟨_, _⟩, entered, rfl⟩ := Option.map_eq_some_iff.mp opened
  refine ⟨kept.within holds ?_ entered, nofun⟩
  intro _ _ _ prepared
  split at prepared
  · rename_i new
    cases prepared
    exact kept.append _ _ holds new (kept.tables _)
  · cases prepared
    exact holds
  · cases prepared

theorem add {s : Statement} (kept : Kept Fit P) (sound : d.Keeps P) (fit : s.Gives Fit)
    (added : d.add s = some after) : after.Keeps P := by
  cases s with
  | assign path key span item =>
    obtain ⟨current, given, rfl⟩ := Option.map_eq_some_iff.mp added
    exact ⟨sound.root, fun top => kept.put (sound.top top) fit given⟩
  | table parents key span =>
    obtain ⟨root, settled, opened⟩ := Option.bind_eq_some_iff.mp added
    exact kept.openTable (kept.settle sound settled) opened
  | row parents key span =>
    obtain ⟨root, settled, opened⟩ := Option.bind_eq_some_iff.mp added
    exact kept.openRow (kept.settle sound settled) opened

theorem addAll (kept : Kept Fit P) (sound : d.Keeps P) (fit : ∀ s ∈ statements, s.Gives Fit)
    (added : d.addAll statements = some after) : after.Keeps P := by
  induction statements generalizing d with
  | nil =>
    cases added
    exact sound
  | cons s rest ih =>
    obtain ⟨middle, first, others⟩ := Option.bind_eq_some_iff.mp added
    have sound_middle : middle.Keeps P := kept.add sound (fit s List.mem_cons_self) first
    exact ih sound_middle (fun s member => fit s (List.mem_cons_of_mem _ member)) others

theorem ofStatements (kept : Kept Fit P) (fit : ∀ s ∈ statements, s.Gives Fit)
    (joined : Entries.ofStatements statements = some entries) : P entries := by
  obtain ⟨d, added, settled⟩ := Option.bind_eq_some_iff.mp joined
  have empty : ({} : Draft).Keeps P := ⟨kept.nil, fun _ => kept.nil⟩
  exact kept.settle (kept.addAll empty fit added) settled

end Entries.Kept

namespace Entries

def names (entries : Entries) : List String := entries.map fun entry => entry.1.text

def Distinct (entries : Entries) : Prop := entries.names.Nodup

variable {entries : Entries} {key : Key} {span : Option Span} {item : Item}

theorem distinct_nil : Distinct [] := List.nodup_nil

theorem get?_eq_none_iff : entries.get? key = none ↔ key.text ∉ entries.names := by
  rw [get?, Option.map_eq_none_iff, List.find?_eq_none, names, List.mem_map]
  constructor
  · rintro absent ⟨entry, member, same⟩
    exact absent entry member (decide_eq_true same)
  · intro absent entry member same
    exact absent ⟨entry, member, of_decide_eq_true same⟩

theorem distinct_append_one {entry : Entry} :
    Distinct (entries ++ [entry]) ↔ entry.1.text ∉ entries.names ∧ entries.Distinct := by
  rw [Distinct, names, List.map_append, List.map_singleton, ← List.concat_eq_append,
    List.nodup_concat]
  rfl

theorem Distinct.append (distinct : entries.Distinct) (new : entries.get? key = none) :
    Distinct (entries ++ [(key, span, item)]) :=
  distinct_append_one.mpr ⟨get?_eq_none_iff.mp new, distinct⟩

theorem Distinct.replace (distinct : entries.Distinct) (key : Key) (span : Option Span)
    (item : Item) : (entries.replace key span item).Distinct := by
  have same : (entries.replace key span item).names = entries.names := by
    rw [names, Entries.replace, List.map_map]
    apply List.map_congr_left
    intro entry _
    rw [Function.comp_apply]
    split <;> rfl
  rwa [Distinct, same]

theorem Distinct.erase (distinct : entries.Distinct) (key : Key) : (entries.erase key).Distinct :=
  (List.filter_sublist.map _).nodup distinct

theorem kept_distinct : Kept (fun _ => True) Distinct where
  table _ _ := trivial
  tables _ := trivial
  nil := distinct_nil
  append _ _ _ distinct new _ := distinct.append new
  replace key span _ distinct _ := distinct.replace key span _
  erase key distinct := distinct.erase key

end Entries

theorem document?_distinct {source : List Char} {entries : Entries}
    (read : document? source = some entries) : entries.Distinct := by
  obtain ⟨statements, _, joined⟩ := Option.bind_eq_some_iff.mp read
  refine Entries.kept_distinct.ofStatements ?_ joined
  intro s _
  cases s <;> trivial

-- Of what stands inside an array or a table nothing is said.
def Item.Bounded : Item → Prop
  | .integer n => -(greatestSigned64 + 1 : Int) ≤ n ∧ n ≤ greatestSigned64
  | _ => True

variable {cs rest : List Char} {n : Int} {item : Item} {s : Statement}

theorem integer?_bounded (read : integer? cs = some (n, rest)) : (Item.integer n).Bounded := by
  have based {radix : Nat} {digits : List Char}
      (read : ((digits? radix digits).bind fun found =>
        if valueOf radix found.1 ≤ greatestSigned64 then some ((valueOf radix found.1 : Int), found.2)
        else none) = some (n, rest)) : (Item.integer n).Bounded := by
    obtain ⟨found, _, within⟩ := Option.bind_eq_some_iff.mp read
    split at within
    · cases within
      constructor <;> omega
    · cases within
  unfold integer? at read
  dsimp only at read
  split at read
  · exact based read
  · exact based read
  · exact based read
  · obtain ⟨⟨negative, digits, behind⟩, _, within⟩ := Option.bind_eq_some_iff.mp read
    dsimp only at within
    split at within
    · split at within
      · cases within
        constructor <;> omega
      · cases within
    · split at within
      · cases within
        constructor <;> omega
      · cases within

theorem number?_bounded (read : number? cs = some (item, rest)) : item.Bounded := by
  unfold number? at read
  split at read
  · cases read
    trivial
  · split at read
    · cases read
      trivial
    · obtain ⟨⟨n, behind⟩, number, same⟩ := Option.map_eq_some_iff.mp read
      cases same
      exact integer?_bounded number

theorem word?_item {word : String} {given : Item} (read : word? word given cs = some (item, rest)) :
    item = given := by
  unfold word? at read
  split at read
  · cases read
    rfl
  · cases read

theorem scalar?_bounded (read : scalar? cs = some (item, rest)) : item.Bounded := by
  unfold scalar? at read
  split at read
  · cases read
  · split at read
    · obtain ⟨_, _, same⟩ := Option.map_eq_some_iff.mp read
      cases same
      trivial
    · split at read
      · exact number?_bounded read
      · split at read
        · rw [word?_item read]
          trivial
        · split at read
          · rw [word?_item read]
            trivial
          · obtain ⟨_, _, same⟩ := Option.map_eq_some_iff.mp read
            cases same
            trivial

theorem inlineTable?_bounded {inner : Reader Item} (read : inlineTable? inner cs = some (item, rest)) :
    item.Bounded := by
  unfold inlineTable? at read
  split at read
  · cases read
    trivial
  · obtain ⟨_, _, table⟩ := Option.bind_eq_some_iff.mp read
    obtain ⟨_, _, same⟩ := Option.map_eq_some_iff.mp table
    cases same
    trivial

theorem item?_bounded {depth : Nat} (read : item? depth cs = some (item, rest)) : item.Bounded := by
  cases depth with
  | zero => exact scalar?_bounded read
  | succ depth =>
    unfold item? at read
    split at read
    · obtain ⟨_, _, same⟩ := Option.map_eq_some_iff.mp read
      cases same
      trivial
    · exact inlineTable?_bounded read
    · exact scalar?_bounded read

theorem field?_bounded {f : Field} (read : field? value? cs = some (f, rest)) : f.item.Bounded := by
  obtain ⟨⟨path, key, behind⟩, _, value⟩ := Option.bind_eq_some_iff.mp read
  dsimp only at value
  split at value
  · obtain ⟨⟨item, stop⟩, item_read, same⟩ := Option.map_eq_some_iff.mp value
    cases same
    exact item?_bounded item_read
  · cases value

theorem header?_bounded {isRow : Bool} {start : List Char}
    (read : header? isRow start cs = some (s, rest)) : s.Gives Item.Bounded := by
  obtain ⟨_, _, ended⟩ := Option.bind_eq_some_iff.mp read
  dsimp only at ended
  split at ended
  · obtain ⟨_, _, same⟩ := Option.map_eq_some_iff.mp ended
    cases same
    trivial
  · obtain ⟨_, _, same⟩ := Option.map_eq_some_iff.mp ended
    cases same
    trivial
  · cases ended

theorem statement?_bounded (read : statement? cs = some (s, rest)) : s.Gives Item.Bounded := by
  unfold statement? at read
  split at read
  · exact header?_bounded read
  · exact header?_bounded read
  · obtain ⟨⟨f, behind⟩, field, ended⟩ := Option.bind_eq_some_iff.mp read
    obtain ⟨_, _, same⟩ := Option.map_eq_some_iff.mp ended
    cases same
    exact field?_bounded field

theorem statements?_bounded {fuel : Nat} {statements : List Statement}
    (read : statements? fuel cs = some statements) : ∀ s ∈ statements, s.Gives Item.Bounded := by
  induction fuel generalizing cs statements with
  | zero => cases read
  | succ fuel ih =>
    unfold statements? at read
    split at read
    · cases read
      exact List.forall_mem_nil _
    · split at read
      · obtain ⟨_, _, others⟩ := Option.bind_eq_some_iff.mp read
        exact ih others
      · obtain ⟨⟨s, behind⟩, first, more⟩ := Option.bind_eq_some_iff.mp read
        obtain ⟨later, others, rfl⟩ := Option.map_eq_some_iff.mp more
        exact List.forall_mem_cons.mpr ⟨statement?_bounded first, ih others⟩

namespace Entries

def Bounded (entries : Entries) : Prop := ∀ entry ∈ entries, entry.2.2.Bounded

theorem kept_bounded : Kept Item.Bounded Bounded where
  table _ _ := trivial
  tables _ := trivial
  nil := List.forall_mem_nil _
  append key span item bounded _ fit := by
    intro entry member
    rcases List.mem_append.mp member with earlier | last
    · exact bounded entry earlier
    · rw [List.mem_singleton.mp last]
      exact fit
  replace key span item bounded fit := by
    intro entry member
    obtain ⟨before, among, same⟩ := List.mem_map.mp member
    rw [← same]
    split
    · exact fit
    · exact bounded before among
  erase key bounded := fun entry member => bounded entry (List.mem_filter.mp member).1

end Entries

theorem document?_bounded {source : List Char} {entries : Entries}
    (read : document? source = some entries) : entries.Bounded := by
  obtain ⟨statements, lines, joined⟩ := Option.bind_eq_some_iff.mp read
  exact Entries.kept_bounded.ofStatements (statements?_bounded lines) joined

end ModulatorInspector.Toml
