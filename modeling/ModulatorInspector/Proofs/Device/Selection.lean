import ModulatorInspector.Proofs.Device.Enumeration
import ModulatorInspector.Proofs.Device.Recording
import ModulatorInspector.Proofs.Text.Blank

namespace ModulatorInspector.Device.Nodes

open Files (Disk)

section Calling

def Fronts (directory stem front : String) : Prop :=
  (front = "" ∨ '/' ∈ front.toList) ∧
    ∀ number, Files.join directory (nodeName stem number) = front ++ nodeName stem number

theorem isAbsolute_nodeName (stem : String) (number : Nat) :
    Files.isAbsolute (nodeName stem number) = Files.isAbsolute stem := by
  rw [Files.isAbsolute, Files.isAbsolute, toList_nodeName]
  cases stem.toList with
  | cons c rest => rfl
  | nil =>
    obtain ⟨c, rest, digits⟩ :=
      List.exists_cons_of_ne_nil (Nat.toDigits_ne_nil (n := number) (b := 10))
    have decimal : c.isDigit = true :=
      Numeral.isDigit_of_mem_numeral (digits ▸ List.mem_cons_self ..)
    have noSlash : c ≠ '/' := by
      rintro rfl
      exact absurd decimal (by decide)
    rw [digits]
    simpa using noSlash

theorem exists_front (directory stem : String) : ∃ front, Fronts directory stem front := by
  by_cases replaced : (Files.isAbsolute stem || directory.isEmpty) = true
  · refine ⟨"", .inl rfl, fun number => ?_⟩
    rw [Files.join, isAbsolute_nodeName, if_pos replaced, String.empty_append]
  · by_cases ends : (directory.toList.getLast? == some '/') = true
    · refine ⟨directory, .inr (List.mem_of_getLast? (beq_iff_eq.mp ends)), fun number => ?_⟩
      rw [Files.join, isAbsolute_nodeName, if_neg replaced, if_pos ends]
    · refine ⟨directory ++ "/", .inr ?_, fun number => ?_⟩
      · rw [String.toList_append]
        exact List.mem_append_right _ (List.mem_singleton_self _)
      · rw [Files.join, isAbsolute_nodeName, if_neg replaced, if_neg ends]

-- Folding keeps the slashes, of which the digits have none, so what stands in front of the numbers
-- has as many on both sides.
theorem number_eq_of_same {stem front a b : String} {k l : Nat}
    (slashed : front = "" ∨ '/' ∈ front.toList) (left : a = "" ∨ a = front)
    (right : b = "" ∨ b = front)
    (same : Blank.sameIgnoringCase (a ++ nodeName stem k) (b ++ nodeName stem l) = true) :
    k = l := by
  have folds := Blank.sameIgnoringCase_iff.mp same
  simp only [nodeName, Blank.folded_append, Blank.folded_numeral] at folds
  have noSlash (number : Nat) : (Nat.toDigits 10 number).count '/' = 0 :=
    List.count_eq_zero.mpr fun member =>
      absurd (Numeral.isDigit_of_mem_numeral member) (by decide)
  have slashes := congrArg (List.count '/') folds
  simp only [List.count_append, Blank.count_slash_folded, noSlash] at slashes
  have fronts : a = b := by
    rcases slashed with rfl | slash
    · rw [left.elim id id, right.elim id id]
    · have some_slash := List.count_pos_iff.mpr slash
      rcases left with rfl | rfl <;> rcases right with rfl | rfl
      · rfl
      · simp at slashes; omega
      · simp at slashes; omega
      · rfl
  rw [fronts] at folds
  exact Numeral.toDigits_injective (List.append_cancel_left (List.append_cancel_left folds))

def GoesBy (called : String) (d : Descriptor) : Prop :=
  Blank.folded d.name = Blank.folded called ∨ Blank.folded d.path = Blank.folded called

theorem isMeant_iff {called : String} {d : Descriptor} :
    isMeant called d = true ↔ GoesBy called d := by
  rw [isMeant, Bool.or_eq_true, Blank.sameIgnoringCase_iff, Blank.sameIgnoringCase_iff]
  rfl

theorem number_eq_of_goesBy {directory stem called : String} {d d' : Descriptor} {k l : Nat}
    (named : d.name = nodeName stem k) (placed : d.path = Files.join directory (nodeName stem k))
    (named' : d'.name = nodeName stem l) (placed' : d'.path = Files.join directory (nodeName stem l))
    (goes : GoesBy called d) (goes' : GoesBy called d') : k = l := by
  obtain ⟨front, slashed, joined⟩ := exists_front directory stem
  have shape {e : Descriptor} {number : Nat} (named : e.name = nodeName stem number)
      (placed : e.path = Files.join directory (nodeName stem number)) (goes : GoesBy called e) :
      ∃ a, (a = "" ∨ a = front)
        ∧ Blank.folded (a ++ nodeName stem number) = Blank.folded called := by
    rcases goes with same | same
    · exact ⟨"", .inl rfl, by rwa [String.empty_append, ← named]⟩
    · exact ⟨front, .inr rfl, by rwa [← joined, ← placed]⟩
  obtain ⟨a, left, same⟩ := shape named placed goes
  obtain ⟨b, right, same'⟩ := shape named' placed' goes'
  exact number_eq_of_same slashed left right
    (Blank.sameIgnoringCase_iff.mpr (same.trans same'.symm))

variable {n : Nodes} {entries : List Files.Name} {found : List Descriptor}

theorem Enumerates.path_eq (enumerated : n.Enumerates entries found) {position : Nat}
    (inside : position < found.length) :
    found[position].path = Files.join n.directory found[position].name :=
  (enumerated.placed position _ (List.getElem?_eq_getElem inside)).2

theorem Enumerates.position_lt (enumerated : n.Enumerates entries found) {position : Nat}
    (inside : position < found.length) : position < UInt32.size := by
  have placed := (enumerated.placed position _ (List.getElem?_eq_getElem inside)).1
  rw [← placed]
  exact UInt32.toNat_lt _

theorem Enumerates.length_le (enumerated : n.Enumerates entries found) :
    found.length ≤ UInt32.size := by
  by_contra more
  exact absurd (enumerated.position_lt (Nat.lt_of_not_le more)) (Nat.lt_irrefl _)

theorem Enumerates.apart (enumerated : n.Enumerates entries found) {i j : Nat} (before : i < j)
    (inside : j < found.length) {called : String} (goes : GoesBy called found[i]) :
    ¬GoesBy called found[j] := by
  intro goes'
  have within : i < found.length := Nat.lt_trans before inside
  obtain ⟨k, l, named, named', less⟩ :=
    List.pairwise_iff_getElem.mp enumerated.ascending i j within inside before
  have placed := enumerated.path_eq within
  have placed' := enumerated.path_eq inside
  rw [named] at placed
  rw [named'] at placed'
  exact absurd (number_eq_of_goesBy named placed named' placed' goes goes') (Nat.ne_of_lt less)

theorem Enumerates.position_unique (enumerated : n.Enumerates entries found) {i j : Nat}
    (inside : i < found.length) (inside' : j < found.length) {called : String}
    (goes : GoesBy called found[i]) (goes' : GoesBy called found[j]) : i = j := by
  rcases Nat.lt_trichotomy i j with before | same | after
  · exact absurd goes' (enumerated.apart before inside' goes)
  · exact same
  · exact absurd goes (enumerated.apart after inside goes')

theorem Enumerates.find?_of_goesBy (enumerated : n.Enumerates entries found) {position : Nat}
    (inside : position < found.length) {called : String} (goes : GoesBy called found[position]) :
    found.find? (isMeant called) = some found[position] := by
  refine List.find?_eq_some_iff_getElem.mpr
    ⟨isMeant_iff.mpr goes, position, inside, rfl, fun earlier before => ?_⟩
  rw [Bool.not_eq_true', Bool.eq_false_iff]
  intro meant
  exact enumerated.apart before inside (isMeant_iff.mp meant) goes

theorem Enumerates.find?_isMeant (enumerated : n.Enumerates entries found) {position : Nat}
    (inside : position < found.length) {called : String}
    (own : called = found[position].name ∨ called = found[position].path) :
    found.find? (isMeant called) = some found[position] := by
  refine enumerated.find?_of_goesBy inside ?_
  rcases own with rfl | rfl
  · exact .inl rfl
  · exact .inr rfl

end Calling

-- What opening this device comes to. Its node can be opened for reading and writing, or the fault is
-- that of its path.
inductive OpensTo (disk : Disk) (d : Descriptor) : Outcome Handle → Prop where
  | opened (openable : disk.openNode d.path = .ok ()) : OpensTo disk d (.ok ⟨d, true⟩)
  | refused (fault) (closed : disk.openNode d.path = .error fault) :
      OpensTo disk d (.error (.access d.path fault))

theorem openDescriptor_opensTo (disk : Disk) (d : Descriptor) :
    OpensTo disk d (openDescriptor d disk).answer := by
  rw [openDescriptor]
  cases openable : disk.openNode d.path with
  | error fault => exact .refused fault openable
  | ok opened => exact .opened openable

theorem OpensTo.ne_noName {disk : Disk} {d : Descriptor} {outcome : Outcome Handle} {called : String}
    (opens : OpensTo disk d outcome) : outcome ≠ .error (.noName called) := by
  cases opens <;> exact nofun

-- Both ways of opening enumerate first. Then they open the device that they pick, or say why they
-- pick none.
def openPicked (n : Nodes) (pick : List Descriptor → Option Descriptor)
    (refusal : List Descriptor → Failure) : Act Disk (Outcome Handle) := do
  match ← n.list with
  | .error failure => return .error failure
  | .ok found =>
      match pick found with
      | none => return .error (refusal found)
      | some d => openDescriptor d

theorem openAt_eq (n : Nodes) (index : UInt32) :
    n.openAt index
      = n.openPicked (fun found => found[index.toNat]?) fun found => .noAdapter index found.length :=
  rfl

theorem openNamed_eq (n : Nodes) (called : String) :
    n.openNamed called
      = n.openPicked (fun found => found.find? (isMeant called)) fun _ => .noName called :=
  rfl

section Picking

variable {n : Nodes} {disk : Disk} {pick : List Descriptor → Option Descriptor}
  {refusal : List Descriptor → Failure}

theorem openPicked_unlisted {failure : Failure} (unlisted : n.devices disk = .error failure) :
    (n.openPicked pick refusal disk).answer = .error failure := by
  have listing : (n.list disk).answer = .error failure := unlisted
  rw [openPicked, Act.bind_apply, listing]
  rfl

theorem openPicked_answer {found : List Descriptor} (listed : n.devices disk = .ok found) :
    (n.openPicked pick refusal disk).answer =
      match pick found with
      | none => .error (refusal found)
      | some d => (openDescriptor d disk).answer := by
  have listing : (n.list disk).answer = .ok found := listed
  rw [openPicked, Act.bind_apply, listing]
  dsimp only
  cases pick found with
  | none => rfl
  | some d => rfl

end Picking

theorem openNamed_answer {n : Nodes} {disk : Disk} {found : List Descriptor}
    (listed : n.devices disk = .ok found) (called : String) :
    (n.openNamed called disk).answer =
      match found.find? (isMeant called) with
      | none => .error (.noName called)
      | some d => (openDescriptor d disk).answer := by
  rw [openNamed_eq]
  exact openPicked_answer listed

-- What a text comes to as the name of one of these devices. A device's own name and path are among
-- the texts that it goes by, in any case of their letters.
structure Unambiguous (n : Nodes) (disk : Disk) (found : List Descriptor) (called : String) :
    Prop where
  only (i j : Nat) (inside : i < found.length) (inside' : j < found.length) :
    GoesBy called found[i] → GoesBy called found[j] → i = j
  unknown : (n.driver.openNamed called disk).answer = .error (.noName called)
    ↔ ∀ d ∈ found, ¬GoesBy called d
  known (d : Descriptor) (member : d ∈ found) :
    GoesBy called d → OpensTo disk d (n.driver.openNamed called disk).answer

theorem openNamed_unambiguous (n : Nodes) (disk : Disk) (found : List Descriptor)
    (enumerated : (n.driver.list disk).answer = .ok found) (called : String) :
    n.Unambiguous disk found called := by
  have listed : n.devices disk = .ok found := enumerated
  obtain ⟨entries, enumerates⟩ := devices_enumerate listed
  have known (d : Descriptor) (member : d ∈ found) (goes : GoesBy called d) :
      OpensTo disk d (n.openNamed called disk).answer := by
    obtain ⟨position, inside, rfl⟩ := List.getElem_of_mem member
    rw [openNamed_answer listed, enumerates.find?_of_goesBy inside goes]
    exact openDescriptor_opensTo disk _
  have unknown (absent : ∀ d ∈ found, ¬GoesBy called d) :
      (n.openNamed called disk).answer = .error (.noName called) := by
    have none_meant : found.find? (isMeant called) = none := by
      apply List.find?_eq_none.mpr
      intro d member meant
      exact absent d member (isMeant_iff.mp meant)
    rw [openNamed_answer listed, none_meant]
  constructor
  · intro i j inside inside'
    exact enumerates.position_unique inside inside'
  · constructor
    · intro unnamed d member goes
      exact (known d member goes).ne_noName unnamed
    · exact unknown
  · exact known

def singleNode : Disk where
  tree :=
    { nodes := [([Utf8.bytes "dev"], .directory),
        ([Utf8.bytes "dev", Utf8.bytes "usb-it95x7"], .file [])]
      distinct := by decide }
  workingDirectory := []

def singleFound : Descriptor := { index := 0, name := "usb-it95x7", path := "/dev/usb-it95x7" }

theorem singleNode_listed :
    ((ofSettings .standard).driver.list singleNode).answer = .ok [singleFound] := by
  change (ofSettings .standard).devices singleNode = .ok [singleFound]
  have entries : singleNode.list (ofSettings .standard).directory
      = .ok [Utf8.bytes "usb-it95x7"] := rfl
  have numbered : numbered (ofSettings .standard).stem [Utf8.bytes "usb-it95x7"]
      = [(7, "usb-it95x7")] := by decide +kernel
  rw [devices_of_list entries, ordered, numbered, List.mergeSort_singleton]
  refine congrArg Except.ok ?_
  decide +kernel

theorem singleNode_called_by_path :
    ((ofSettings .standard).driver.list singleNode).answer = .ok [singleFound]
      ∧ GoesBy "/DEV/USB-it95X7" singleFound
      ∧ (ofSettings .standard).Unambiguous singleNode [singleFound] "/DEV/USB-it95X7" :=
  ⟨singleNode_listed, .inr (by decide), openNamed_unambiguous _ _ _ singleNode_listed _⟩

section Positions

variable {n : Nodes} {disk : Disk} {d : Descriptor} {found : List Descriptor}

theorem access_of_devices {failure : Failure} (unlisted : n.devices disk = .error failure) :
    ∃ fault, failure = .access n.directory fault := by
  unfold devices at unlisted
  split at unlisted
  · rename_i fault refused
    cases unlisted
    exact ⟨fault, rfl⟩
  · cases unlisted

theorem openAt_unlisted {failure : Failure} (unlisted : n.devices disk = .error failure)
    (index : UInt32) : (n.openAt index disk).answer = .error failure := by
  rw [openAt_eq]
  exact openPicked_unlisted unlisted

theorem openAt_answer (listed : n.devices disk = .ok found) (index : UInt32) :
    (n.openAt index disk).answer =
      match found[index.toNat]? with
      | none => .error (.noAdapter index found.length)
      | some d => (openDescriptor d disk).answer := by
  rw [openAt_eq]
  exact openPicked_answer listed

theorem OpensTo.ne_noAdapter {outcome : Outcome Handle} {index : UInt32} {available : Nat}
    (opens : OpensTo disk d outcome) : outcome ≠ .error (.noAdapter index available) := by
  cases opens <;> exact nofun

theorem OpensTo.refused_iff {outcome : Outcome Handle} (opens : OpensTo disk d outcome) :
    (∃ fault, outcome = .error (.access d.path fault))
      ↔ ∃ fault, disk.openNode d.path = .error fault := by
  cases opens with
  | opened openable =>
    rw [openable]
    exact ⟨nofun, nofun⟩
  | refused fault closed => exact ⟨fun _ => ⟨fault, closed⟩, fun _ => ⟨fault, rfl⟩⟩

theorem openAt_outside (listed : n.devices disk = .ok found) {index : UInt32}
    (outside : found.length ≤ index.toNat) :
    (n.openAt index disk).answer = .error (.noAdapter index found.length) := by
  rw [openAt_answer listed, List.getElem?_eq_none outside]

theorem openAt_inside (listed : n.devices disk = .ok found) {index : UInt32}
    (placed : found[index.toNat]? = some d) : OpensTo disk d (n.openAt index disk).answer := by
  rw [openAt_answer listed, placed]
  exact openDescriptor_opensTo disk d

-- What opening at a position comes to, beside what enumerating comes to.
structure OpensAsListed (n : Nodes) (disk : Disk) (index : UInt32) : Prop where
  unlisted (failure : Failure) : (n.driver.list disk).answer = .error failure →
    (∃ fault, failure = .access n.directory fault)
      ∧ (n.driver.openAt index disk).answer = .error failure
  outside (found : List Descriptor) : (n.driver.list disk).answer = .ok found →
    ((n.driver.openAt index disk).answer = .error (.noAdapter index found.length)
      ↔ found.length ≤ index.toNat)
  inside (found : List Descriptor) (d : Descriptor) : (n.driver.list disk).answer = .ok found →
    found[index.toNat]? = some d →
      d.index = index
        ∧ OpensTo disk d (n.driver.openAt index disk).answer
        ∧ ((∃ fault, (n.driver.openAt index disk).answer = .error (.access d.path fault))
          ↔ ∃ fault, disk.openNode d.path = .error fault)

theorem openAt_as_listed (n : Nodes) (disk : Disk) (index : UInt32) :
    n.OpensAsListed disk index := by
  constructor
  · intro failure unlisted
    exact ⟨access_of_devices unlisted, openAt_unlisted unlisted index⟩
  · intro found listed
    constructor
    · intro refused
      by_contra inside
      have placed := List.getElem?_eq_getElem (Nat.lt_of_not_le inside)
      exact (openAt_inside listed placed).ne_noAdapter refused
    · exact openAt_outside listed
  · intro found d listed placed
    obtain ⟨entries, enumerated⟩ := devices_enumerate listed
    have opens := openAt_inside listed placed
    refine ⟨?_, opens, opens.refused_iff⟩
    exact UInt32.toNat_inj.mp (enumerated.placed index.toNat d placed).1

def blockedNode : Disk where
  tree :=
    { nodes := [([Utf8.bytes "dev"], .directory),
        ([Utf8.bytes "dev", Utf8.bytes "usb-it95x3"], .directory),
        ([Utf8.bytes "dev", Utf8.bytes "usb-it95x2"], .file [])]
      distinct := by decide }
  workingDirectory := []

def blockedFound : List Descriptor :=
  [{ index := 0, name := "usb-it95x2", path := "/dev/usb-it95x2" },
   { index := 1, name := "usb-it95x3", path := "/dev/usb-it95x3" }]

theorem blockedNode_listed :
    ((ofSettings .standard).driver.list blockedNode).answer = .ok blockedFound := by
  change (ofSettings .standard).devices blockedNode = .ok blockedFound
  have entries : blockedNode.list (ofSettings .standard).directory
      = .ok [Utf8.bytes "usb-it95x3", Utf8.bytes "usb-it95x2"] := rfl
  have numbered : numbered (ofSettings .standard).stem
      [Utf8.bytes "usb-it95x3", Utf8.bytes "usb-it95x2"]
      = [(3, "usb-it95x3"), (2, "usb-it95x2")] := by decide +kernel
  have ordered : ordered (ofSettings .standard).stem
      [Utf8.bytes "usb-it95x3", Utf8.bytes "usb-it95x2"] = ["usb-it95x2", "usb-it95x3"] := by
    rw [Nodes.ordered, numbered]
    simp [List.mergeSort]
  rw [devices_of_list entries, ordered]
  refine congrArg Except.ok ?_
  decide +kernel

theorem blockedNode_opened :
    ((ofSettings .standard).driver.list blockedNode).answer = .ok blockedFound
      ∧ OpensTo blockedNode blockedFound[0] ((ofSettings .standard).driver.openAt 0 blockedNode).answer
      ∧ (∃ fault, ((ofSettings .standard).driver.openAt 1 blockedNode).answer
          = .error (.access "/dev/usb-it95x3" fault))
      ∧ ((ofSettings .standard).driver.openAt 2 blockedNode).answer = .error (.noAdapter 2 2) := by
  refine ⟨blockedNode_listed, ?_, ?_, ?_⟩
  · exact ((openAt_as_listed _ _ 0).inside _ _ blockedNode_listed rfl).2.1
  · exact ((openAt_as_listed _ _ 1).inside _ _ blockedNode_listed rfl).2.2.mpr ⟨.isDirectory, rfl⟩
  · exact ((openAt_as_listed _ _ 2).outside _ blockedNode_listed).mpr (by decide)

end Positions

end ModulatorInspector.Device.Nodes
