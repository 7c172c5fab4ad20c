import ModulatorInspector.Device.Nodes
import ModulatorInspector.Proofs.Files.Reading
import ModulatorInspector.Proofs.Text.Numerals

namespace ModulatorInspector.Device.Nodes

open Files (Disk)
open Numeral (greatest32 natural)

def nodeName (stem : String) (number : Nat) : String := stem ++ toString number

theorem toList_nodeName (stem : String) (number : Nat) :
    (nodeName stem number).toList = stem.toList ++ Nat.toDigits 10 number := by
  rw [nodeName, String.toList_append, Nat.toString_eq_repr, Nat.toList_repr]

theorem nodeName_injective {stem : String} {a b : Nat} (same : nodeName stem a = nodeName stem b) :
    a = b := by
  have chars := congrArg String.toList same
  rw [toList_nodeName, toList_nodeName] at chars
  exact Numeral.toDigits_injective (List.append_cancel_left chars)

theorem behind?_eq_some_iff {stem name rest : List Char} :
    behind? stem name = some rest ↔ name = stem ++ rest := by
  induction stem generalizing name with
  | nil => simp [behind?]
  | cons c stem ih =>
    cases name with
    | nil => simp [behind?]
    | cons d name =>
      by_cases same : c = d
      · simp [behind?, same, ih]
      · simp [behind?, same, Ne.symm same]

theorem isNumeral_iff {digits : List Char} :
    isNumeral digits = true ↔ ∃ number, digits = Nat.toDigits 10 number := by
  have decimal (c : Char) : (decide ('0' ≤ c) && decide (c ≤ '9')) = c.isDigit := rfl
  simp only [isNumeral, decimal, Bool.and_eq_true, Bool.or_eq_true, decide_eq_true_eq,
    List.all_eq_true]
  constructor
  · rintro ⟨⟨nonempty, all⟩, leading⟩
    exact ⟨_, (Numeral.toDigits_value all nonempty leading).symm⟩
  · rintro ⟨number, rfl⟩
    refine ⟨⟨Nat.toDigits_ne_nil, fun c => Numeral.isDigit_of_mem_numeral⟩, ?_⟩
    by_cases zero : (Nat.toDigits 10 number).head? = some '0'
    · rw [Numeral.eq_zero_of_numeral_head zero]; exact .inl rfl
    · exact .inr zero

theorem number?_eq_some_iff {stem name : String} {number : Nat} :
    number? stem name = some number ↔ number < UInt32.size ∧ name = nodeName stem number := by
  constructor
  · intro found
    unfold number? at found
    split at found
    · cases found
    · rename_i digits behind
      split at found
      · rename_i numeral
        obtain ⟨n, rfl⟩ := isNumeral_iff.mp numeral
        rw [Numeral.natural_numeral] at found
        split at found
        · rename_i small
          cases found
          refine ⟨Nat.lt_succ_of_le small, String.toList_inj.mp ?_⟩
          rw [toList_nodeName]
          exact behind?_eq_some_iff.mp behind
        · cases found
      · cases found
  · rintro ⟨small, rfl⟩
    have within : number ≤ Numeral.greatest32 := Nat.le_of_lt_succ small
    rw [number?, behind?_eq_some_iff.mpr (toList_nodeName stem number)]
    dsimp only
    rw [if_pos (isNumeral_iff.mpr ⟨number, rfl⟩), Numeral.natural_numeral, if_pos within]
    rfl

theorem mem_numbered {stem : String} {names : List Files.Name} {number : Nat} {name : String} :
    (number, name) ∈ numbered stem names ↔
      number < UInt32.size ∧ name = nodeName stem number ∧ Utf8.bytes name ∈ names := by
  simp only [numbered, List.mem_filterMap, Option.bind_eq_some_iff, Option.map_eq_some_iff,
    Prod.mk.injEq, number?_eq_some_iff, Utf8.text?_eq_some_iff]
  constructor
  · rintro ⟨_, member, _, rfl, _, ⟨small, rfl⟩, rfl, rfl⟩
    exact ⟨small, rfl, member⟩
  · rintro ⟨small, rfl, member⟩
    exact ⟨_, member, _, rfl, _, ⟨small, rfl⟩, rfl, rfl⟩

def sorted (stem : String) (names : List Files.Name) : List (Nat × String) :=
  (numbered stem names).mergeSort fun a b => a.1 ≤ b.1

def numbers (stem : String) (names : List Files.Name) : List Nat :=
  (sorted stem names).map Prod.fst

theorem mem_sorted {stem : String} {names : List Files.Name} {node : Nat × String} :
    node ∈ sorted stem names ↔ node ∈ numbered stem names := List.mem_mergeSort

theorem mem_numbers {stem : String} {names : List Files.Name} {number : Nat} :
    number ∈ numbers stem names ↔
      number < UInt32.size ∧ Utf8.bytes (nodeName stem number) ∈ names := by
  simp only [numbers, List.mem_map, mem_sorted]
  constructor
  · rintro ⟨⟨_, name⟩, member, rfl⟩
    obtain ⟨small, rfl, present⟩ := mem_numbered.mp member
    exact ⟨small, present⟩
  · rintro ⟨small, present⟩
    exact ⟨(number, nodeName stem number), mem_numbered.mpr ⟨small, rfl, present⟩, rfl⟩

theorem ordered_eq (stem : String) (names : List Files.Name) :
    ordered stem names = (numbers stem names).map (nodeName stem) := by
  rw [numbers, List.map_map]
  apply List.map_congr_left
  rintro ⟨number, name⟩ member
  exact (mem_numbered.mp (mem_sorted.mp member)).2.1

-- Two entries with one number would be one entry twice.
theorem numbered_distinct (stem : String) {names : List Files.Name} (distinct : names.Nodup) :
    (numbered stem names).Pairwise fun a b => a.1 ≠ b.1 := by
  refine List.Pairwise.filterMap _ ?_ distinct
  intro entry other differ a found b found' same
  apply differ
  simp only [Option.bind_eq_some_iff, Option.map_eq_some_iff, number?_eq_some_iff,
    Utf8.text?_eq_some_iff] at found found'
  obtain ⟨_, rfl, _, ⟨_, rfl⟩, rfl⟩ := found
  obtain ⟨_, rfl, _, ⟨_, rfl⟩, rfl⟩ := found'
  exact congrArg (fun number => Utf8.bytes (nodeName stem number)) same

theorem numbers_ascending (stem : String) {names : List Files.Name} (distinct : names.Nodup) :
    (numbers stem names).Pairwise (· < ·) := by
  have transitive (a b c : Nat × String) :
      decide (a.1 ≤ b.1) = true → decide (b.1 ≤ c.1) = true → decide (a.1 ≤ c.1) = true := by
    simp only [decide_eq_true_eq]
    exact Nat.le_trans
  have total (a b : Nat × String) : (decide (a.1 ≤ b.1) || decide (b.1 ≤ a.1)) = true := by
    simp only [Bool.or_eq_true, decide_eq_true_eq]
    exact Nat.le_total a.1 b.1
  have ordered : (sorted stem names).Pairwise fun a b => a.1 ≤ b.1 := by
    simpa only [sorted, decide_eq_true_eq] using
      List.pairwise_mergeSort transitive total (numbered stem names)
  have differ : (sorted stem names).Pairwise fun a b => a.1 ≠ b.1 :=
    (List.mergeSort_perm _ _).symm.pairwise (numbered_distinct stem distinct) Ne.symm
  exact List.pairwise_map.mpr (ordered.imp₂ (fun a b => Nat.lt_of_le_of_ne) differ)

theorem le_getElem_of_ascending {row : List Nat} (ascending : row.Pairwise (· < ·)) {k : Nat}
    (inside : k < row.length) : k ≤ row[k] := by
  induction k with
  | zero => exact Nat.zero_le _
  | succ k ih =>
    have next := List.pairwise_iff_getElem.mp ascending k (k + 1) (by omega) inside (by omega)
    exact Nat.lt_of_le_of_lt (ih (by omega)) next

theorem numbers_eq_of_perm (stem : String) {names names' : List Files.Name}
    (distinct : names.Nodup) (same : names.Perm names') :
    numbers stem names = numbers stem names' := by
  have perm : (numbers stem names).Perm (numbers stem names') :=
    ((List.mergeSort_perm _ _).trans
      ((same.filterMap _).trans (List.mergeSort_perm _ _).symm)).map Prod.fst
  exact perm.eq_of_pairwise (fun a b _ _ before after => absurd before (Nat.lt_asymm after))
    (numbers_ascending stem distinct) (numbers_ascending stem (same.nodup_iff.mp distinct))

theorem map_name_descriptors (n : Nodes) (disk : Disk) (names : List String) :
    (n.descriptors disk names).map (·.name) = names := by
  rw [descriptors, List.map_map]
  exact List.zipIdx_map_fst 0 names

theorem getElem?_descriptors (n : Nodes) (disk : Disk) (names : List String) (position : Nat) :
    (n.descriptors disk names)[position]? = names[position]?.map (n.descriptor disk position) := by
  rw [descriptors, List.getElem?_map, List.getElem?_zipIdx, Option.map_map]
  simp only [Nat.zero_add]
  rfl

def Precedes (stem a b : String) : Prop :=
  ∃ k l : Nat, a = stem ++ toString k ∧ b = stem ++ toString l ∧ k < l

-- What is enumerated among these entries. Each entry that is a node is there once and no other entry
-- is; the nodes ascend by their numbers, and each has its position as index.
structure Enumerates (n : Nodes) (entries : List Files.Name) (found : List Descriptor) : Prop where
  complete (entry : Files.Name) : (∃ d ∈ found, Utf8.bytes d.name = entry) ↔
    entry ∈ entries ∧ ∃ number < UInt32.size, entry = Utf8.bytes (n.stem ++ toString number)
  once : (found.map (·.name)).Nodup
  ascending : found.Pairwise fun a b => Precedes n.stem a.name b.name
  placed (position : Nat) (d : Descriptor) : found[position]? = some d →
    d.index.toNat = position ∧ d.path = Files.join n.directory d.name

theorem descriptors_enumerate (n : Nodes) (disk : Disk) {entries : List Files.Name}
    (distinct : entries.Nodup) :
    n.Enumerates entries (n.descriptors disk (ordered n.stem entries)) := by
  have ascending := numbers_ascending n.stem distinct
  rw [ordered_eq]
  have names := n.map_name_descriptors disk ((numbers n.stem entries).map (nodeName n.stem))
  have precede : ((numbers n.stem entries).map (nodeName n.stem)).Pairwise (Precedes n.stem) :=
    List.pairwise_map.mpr (ascending.imp fun {k l} before => ⟨k, l, rfl, rfl, before⟩)
  rw [← names] at precede
  refine ⟨fun entry => ⟨?_, ?_⟩, ?_, List.pairwise_map.mp precede, ?_⟩
  · rintro ⟨d, member, rfl⟩
    have named := List.mem_map_of_mem (f := Descriptor.name) member
    rw [names] at named
    obtain ⟨number, listed, same⟩ := List.mem_map.mp named
    obtain ⟨small, present⟩ := mem_numbers.mp listed
    exact ⟨same ▸ present, number, small, congrArg Utf8.bytes same.symm⟩
  · rintro ⟨present, number, small, rfl⟩
    have named := List.mem_map_of_mem (f := nodeName n.stem) (mem_numbers.mpr ⟨small, present⟩)
    rw [← names] at named
    obtain ⟨d, member, same⟩ := List.mem_map.mp named
    exact ⟨d, member, congrArg Utf8.bytes same⟩
  · rw [names]
    exact List.pairwise_map.mpr (ascending.imp fun before same =>
      Nat.ne_of_lt before (nodeName_injective same))
  · intro position d present
    rw [getElem?_descriptors, List.getElem?_map] at present
    obtain ⟨name, named, rfl⟩ := Option.map_eq_some_iff.mp present
    obtain ⟨number, placed, rfl⟩ := Option.map_eq_some_iff.mp named
    obtain ⟨inside, rfl⟩ := List.getElem?_eq_some_iff.mp placed
    have small := (mem_numbers.mp (List.getElem_mem inside)).1
    have before := le_getElem_of_ascending ascending inside
    exact ⟨UInt32.toNat_ofNat_of_lt' (Nat.lt_of_le_of_lt before small), rfl⟩

theorem devices_of_list {n : Nodes} {disk : Disk} {entries : List Files.Name}
    (given : disk.list n.directory = .ok entries) :
    n.devices disk = .ok (n.descriptors disk (ordered n.stem entries)) := by
  rw [devices, given]

theorem devices_enumerate {n : Nodes} {disk : Disk} {found : List Descriptor}
    (listed : n.devices disk = .ok found) : ∃ entries, n.Enumerates entries found := by
  unfold devices at listed
  split at listed
  · cases listed
  · rename_i entries present
    cases listed
    exact ⟨entries, n.descriptors_enumerate disk (Disk.list_nodup present)⟩

theorem devices_eq_of_reordered (n : Nodes) {disk other : Disk} (same : disk.Reordered other) :
    n.devices other = n.devices disk := by
  have attribute_eq (directory name : String) :
      attribute? other directory name = attribute? disk directory name := by
    unfold attribute?
    rw [same.readText_eq]
  have id_eq (directory name : String) : id? other directory name = id? disk directory name := by
    rw [id?, id?, attribute_eq]
  have descriptor_eq (index : Nat) (name : String) :
      n.descriptor other index name = n.descriptor disk index name := by
    rw [descriptor, descriptor]
    simp only [attribute_eq, id_eq]
  have descriptors_eq (names : List String) :
      n.descriptors other names = n.descriptors disk names := by
    rw [descriptors, descriptors]
    simp only [descriptor_eq]
  unfold devices
  rcases same.list_eq n.directory with
    ⟨fault, refused, refused'⟩ | ⟨entries, entries', listed, listed', perm⟩
  · rw [refused, refused']
  · rw [listed, listed']
    dsimp only
    rw [descriptors_eq, ordered_eq, ordered_eq,
      numbers_eq_of_perm n.stem (Disk.list_nodup listed) perm]

-- The tree is that of any disk, so that the entries may be delivered in any order.
theorem list_exact (n : Nodes) (disk : Disk) :
    (match disk.list n.directory with
      | .error fault => (n.driver.list disk).answer = .error (.access n.directory fault)
      | .ok entries => ∃ found, (n.driver.list disk).answer = .ok found ∧ n.Enumerates entries found)
    ∧ ∀ other : Disk, disk.Reordered other →
        (n.driver.list other).answer = (n.driver.list disk).answer := by
  refine ⟨?_, fun other same => n.devices_eq_of_reordered same⟩
  change match disk.list n.directory with
    | .error fault => n.devices disk = .error (.access n.directory fault)
    | .ok entries => ∃ found, n.devices disk = .ok found ∧ n.Enumerates entries found
  unfold devices
  cases listed : disk.list n.directory with
  | error fault => rfl
  | ok entries => exact ⟨_, rfl, n.descriptors_enumerate disk (Disk.list_nodup listed)⟩

variable {stem : String} {digits : List Char} {number : Nat}

theorem number?_nodeName (stem : String) (number : Nat) :
    number? stem (nodeName stem number) = if number < UInt32.size then some number else none := by
  split
  · rename_i small
    exact number?_eq_some_iff.mpr ⟨small, rfl⟩
  · rename_i large
    apply Option.eq_none_iff_forall_ne_some.mpr
    intro other found
    obtain ⟨small, same⟩ := number?_eq_some_iff.mp found
    exact large (nodeName_injective same ▸ small)

-- The reader of numerals lets a sign and zeros in front pass, so it would give one number to many
-- names. The form of the digits is looked at first, and leaves the numeral that is written.
theorem number?_of_natural (read : natural 10 greatest32 digits = .ok number) :
    number? stem (stem ++ String.ofList digits)
      = if digits = Nat.toDigits 10 number then some number else none := by
  have small : number < UInt32.size := Nat.lt_succ_of_le (Numeral.natural_eq_ok_iff.mp read).2
  split
  · rename_i written
    apply number?_eq_some_iff.mpr
    refine ⟨small, ?_⟩
    rw [nodeName, Nat.toString_eq_ofList_toDigits, written]
  · rename_i misspelled
    apply Option.eq_none_iff_forall_ne_some.mpr
    intro other found
    obtain ⟨_, named⟩ := number?_eq_some_iff.mp found
    have spelled : digits = Nat.toDigits 10 other := by
      rw [nodeName, String.append_right_inj, Nat.toString_eq_ofList_toDigits] at named
      exact String.ofList_injective named
    apply misspelled
    rw [spelled, Numeral.natural_numeral] at read
    split at read
    · rw [spelled, Except.ok.inj read]
    · cases read

structure InvertsPrinting (stem : String) : Prop where
  number_iff (name : String) (number : Nat) :
    number? stem name = some number ↔ number < UInt32.size ∧ name = stem ++ toString number
  printed (number : Nat) :
    number? stem (stem ++ toString number) = if number < UInt32.size then some number else none
  spelled (digits : List Char) (number : Nat) : natural 10 greatest32 digits = .ok number →
    number? stem (stem ++ String.ofList digits)
      = if digits = Nat.toDigits 10 number then some number else none
  apart (name other : String) (number : Nat) : name ≠ other → number? stem name = some number →
    number? stem other ≠ some number

theorem numbers_invert_printing (stem : String) : InvertsPrinting stem := by
  constructor
  case number_iff =>
    intro name number
    exact number?_eq_some_iff
  case printed =>
    intro number
    exact number?_nodeName stem number
  case spelled =>
    intro digits number read
    exact number?_of_natural read
  case apart =>
    intro name other number different found found'
    apply different
    rw [(number?_eq_some_iff.mp found).2, (number?_eq_some_iff.mp found').2]

example : number? "usb1" "usb12" = some 2 ∧ number? "" "012" = none
    ∧ number? "" "4294967296" = none := by decide +kernel

end ModulatorInspector.Device.Nodes
