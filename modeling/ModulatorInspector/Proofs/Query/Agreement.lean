import ModulatorInspector.Proofs.Device.Selection
import ModulatorInspector.Query.Answer

namespace ModulatorInspector

namespace Device

variable {σ η α : Type}

-- Closing comes after the answer and has no part in it.
theorem whileOpen_answer (d : Driver σ η) (opening : Act σ (Outcome η))
    (body : η → Act σ (Outcome α)) (s : σ) :
    (whileOpen d opening body s).answer =
      match (opening s).answer with
      | .error failure => .error failure
      | .ok handle => (body handle (opening s).state).answer := by
  rw [whileOpen, Act.bind_apply]
  cases (opening s).answer with
  | error failure => rfl
  | ok handle => rfl

end Device

namespace Query

open Device (Act Descriptor Nodes Outcome)
open Files (Disk)

def printed (n : Nodes) (disk : Disk) (c : Configuration) : Outcome String :=
  (answer n.driver c disk).answer

def printedOf (disk : Disk) (c : Configuration) (d : Descriptor) : Outcome String :=
  match disk.openNode d.path with
  | .error fault => .error (.access d.path fault)
  | .ok () =>
      if c.gainRange then .error (.unsupported Nodes.gainRangeRefusal)
      else .ok (deviceReport d c.verbose)

theorem inspect_handle (n : Nodes) (disk : Disk) (c : Configuration) (h : Nodes.Handle) :
    (inspect n.driver c h disk).answer =
      if c.gainRange then .error (.unsupported Nodes.gainRangeRefusal)
      else .ok (deviceReport h.descriptor c.verbose) := by
  unfold inspect
  cases asked : c.gainRange with
  | false => rfl
  | true => rfl

def Opens (act : Act Disk (Outcome Nodes.Handle)) (disk : Disk) (d : Descriptor) : Prop :=
  (act disk).answer = (Nodes.openDescriptor d disk).answer ∧ (act disk).state = disk

theorem openDescriptor_opens (disk : Disk) (d : Descriptor) :
    Opens (Nodes.openDescriptor d) disk d := by
  refine ⟨rfl, ?_⟩
  rw [Nodes.openDescriptor]
  cases disk.openNode d.path with
  | error fault => rfl
  | ok opened => rfl

variable {n : Nodes} {disk : Disk} {found : List Descriptor} {d : Descriptor} {c : Configuration}

theorem openAt_opens (listed : n.devices disk = .ok found) {index : UInt32}
    (chosen : found[index.toNat]? = some d) : Opens (n.openAt index) disk d := by
  have listing : (n.list disk).answer = .ok found := listed
  rw [Opens, Nodes.openAt, Act.bind_apply, listing]
  dsimp only
  rw [chosen]
  exact openDescriptor_opens disk d

theorem openNamed_opens (listed : n.devices disk = .ok found) {called : String}
    (chosen : found.find? (Nodes.isMeant called) = some d) : Opens (n.openNamed called) disk d := by
  have listing : (n.list disk).answer = .ok found := listed
  rw [Opens, Nodes.openNamed, Act.bind_apply, listing]
  dsimp only
  rw [chosen]
  exact openDescriptor_opens disk d

theorem session_printedOf (n : Nodes) (c : Configuration)
    {opening : Act Disk (Outcome Nodes.Handle)} (opens : Opens opening disk d) :
    (Device.whileOpen n.driver opening (inspect n.driver c) disk).answer = printedOf disk c d := by
  rw [Device.whileOpen_answer, opens.1, opens.2, Nodes.openDescriptor, printedOf]
  cases disk.openNode d.path with
  | error fault => rfl
  | ok opened => exact inspect_handle n disk c ⟨d, true⟩

theorem printed_all (listed : n.devices disk = .ok found) (needed : c.needed = .all) :
    printed n disk c =
      .ok (if c.count then countReport found else listReport found c.verbose) := by
  have listing : (n.driver.list disk).answer = .ok found := listed
  rw [printed, answer, needed]
  dsimp only
  rw [survey, Act.bind_apply, listing]
  rfl

theorem printed_byIndex (listed : n.devices disk = .ok found) {index : UInt32}
    (needed : c.needed = .byIndex index) (chosen : found[index.toNat]? = some d) :
    printed n disk c = printedOf disk c d := by
  rw [printed, answer, needed]
  exact session_printedOf n c (openAt_opens listed chosen)

theorem printed_byName (listed : n.devices disk = .ok found) {called : String}
    (needed : c.needed = .byName called) (chosen : found.find? (Nodes.isMeant called) = some d) :
    printed n disk c = printedOf disk c d := by
  rw [printed, answer, needed]
  exact session_printedOf n c (openNamed_opens listed chosen)

theorem printedOf_openable (opens : disk.openNode d.path = .ok ()) (asked : c.gainRange = false) :
    printedOf disk c d = .ok (deviceReport d c.verbose) := by
  rw [printedOf, opens, asked]
  rfl

def Configuration.Lists (c : Configuration) : Prop :=
  c.count = false ∧ c.gainRange = false ∧ c.adapter = none ∧ c.deviceName = none

theorem Configuration.Lists.needed (lists : c.Lists) : c.needed = .all := by
  obtain ⟨count, gainRange, adapter, deviceName⟩ := lists
  simp [Configuration.needed, Configuration.selected, count, gainRange, adapter, deviceName]

def heading (verbose : Bool) (count : Nat) : String :=
  if verbose then "Found " ++ toString count ++ " HiDes devices\n\n" else ""

-- What is printed of the devices together is what is printed of each of them in turn, and a device
-- may be selected by its place, its name or its path.
structure Agrees (n : Nodes) (disk : Disk) (found : List Descriptor) : Prop where
  placed : found.length ≤ UInt32.size
  counted (c : Configuration) (counts : c.count = true) :
    printed n disk c = .ok (toString found.length ++ "\n")
  absent (c : Configuration) (lists : c.Lists) (none_found : found = []) :
    printed n disk c = .ok "No HiDes device found\n"
  listed (c : Configuration) (lists : c.Lists) (some_found : found ≠ [])
    (openable : ∀ d ∈ found, disk.openNode d.path = .ok ()) :
    ∃ texts : List String, texts.length = found.length
      ∧ (∀ position (inside : position < texts.length),
          printed n disk { c with adapter := some position.toUInt32 } = .ok texts[position])
      ∧ printed n disk c = .ok (heading c.verbose found.length ++ String.join texts)
  selected (c : Configuration) (position : Nat) (inside : position < found.length)
    (called : String) (own : called = found[position].name ∨ called = found[position].path) :
    printed n disk { c with deviceName := some called }
      = printed n disk { c with deviceName := none, adapter := some position.toUInt32 }

theorem printed_count (listed : n.devices disk = .ok found) (counts : c.count = true) :
    printed n disk c = .ok (toString found.length ++ "\n") := by
  have needed : c.needed = .all := by rw [Configuration.needed, counts]; rfl
  rw [printed_all listed needed, counts]
  rfl

theorem listReport_heading (some_found : found ≠ []) (verbose : Bool) :
    listReport found verbose = heading verbose found.length
      ++ String.join (found.map fun d => deviceReport d verbose) := by
  have ending : " HiDes devices\n" ++ "\n" = " HiDes devices\n\n" := by decide
  have banner_line : line (banner found.length) = heading true found.length := by
    rw [line, banner, heading, String.append_assoc, ending]
    rfl
  rw [listReport, if_neg some_found, banner_line]
  rfl

theorem printed_at (listed : n.devices disk = .ok found) (alone : c.deviceName = none)
    (plain : c.count = false) {position : Nat} (small : position < UInt32.size)
    (inside : position < found.length) :
    printed n disk { c with adapter := some position.toUInt32 }
      = printedOf disk c found[position] := by
  have needed : Configuration.needed { c with adapter := some position.toUInt32 }
      = .byIndex position.toUInt32 := by
    simp [Configuration.needed, Configuration.selected, alone, plain]
  have place : position.toUInt32.toNat = position := UInt32.toNat_ofNat_of_lt' small
  refine printed_byIndex listed needed ?_
  rw [place, List.getElem?_eq_getElem inside]

theorem queries_agree (n : Nodes) (disk : Disk) (found : List Descriptor)
    (enumerated : (n.driver.list disk).answer = .ok found) : Agrees n disk found := by
  have listed : n.devices disk = .ok found := enumerated
  obtain ⟨entries, enumerates⟩ := Nodes.devices_enumerate listed
  refine ⟨enumerates.length_le, fun c counts => printed_count listed counts, ?_, ?_, ?_⟩
  · rintro c lists rfl
    rw [printed_all listed lists.needed, lists.1]
    rfl
  · intro c lists some_found openable
    refine ⟨found.map fun d => deviceReport d c.verbose, List.length_map _, ?_, ?_⟩
    · intro position inside
      have within : position < found.length := by simpa using inside
      rw [printed_at listed lists.2.2.2 lists.1 (enumerates.position_lt within) within,
        printedOf_openable (openable _ (List.getElem_mem within)) lists.2.1, List.getElem_map]
    · rw [printed_all listed lists.needed, lists.1, ← listReport_heading some_found]
      rfl
  · intro c position inside called own
    by_cases counts : c.count = true
    · have same := printed_count (c := { c with deviceName := some called }) listed counts
      have same' := printed_count
        (c := { c with deviceName := none, adapter := some position.toUInt32 }) listed counts
      rw [same, same']
    · have plain : c.count = false := Bool.eq_false_iff.mpr counts
      have needed : Configuration.needed { c with deviceName := some called } = .byName called := by
        simp [Configuration.needed, Configuration.selected, plain]
      have same := printed_byName listed needed (enumerates.find?_isMeant inside own)
      have same' := printed_at (c := { c with deviceName := none }) listed rfl plain
        (enumerates.position_lt inside) inside
      rw [same, same']
      rfl

def twoNodes : Disk where
  tree :=
    { nodes := [([Utf8.bytes "dev"], .directory),
        ([Utf8.bytes "dev", Utf8.bytes "usb-it95x10"], .file []),
        ([Utf8.bytes "dev", Utf8.bytes "usb-it95x9"], .file [])]
      distinct := by decide }
  workingDirectory := []

def twoFound : List Descriptor :=
  [{ index := 0, name := "usb-it95x9", path := "/dev/usb-it95x9" },
   { index := 1, name := "usb-it95x10", path := "/dev/usb-it95x10" }]

theorem twoNodes_ordered :
    Nodes.ordered "usb-it95x" [Utf8.bytes "usb-it95x10", Utf8.bytes "usb-it95x9"]
      = ["usb-it95x9", "usb-it95x10"] := by
  have numbered : Nodes.numbered "usb-it95x" [Utf8.bytes "usb-it95x10", Utf8.bytes "usb-it95x9"]
      = [(10, "usb-it95x10"), (9, "usb-it95x9")] := by decide +kernel
  rw [Nodes.ordered, numbered]
  simp [List.mergeSort]

theorem twoNodes_listed :
    ((Nodes.ofSettings .standard).driver.list twoNodes).answer = .ok twoFound := by
  change (Nodes.ofSettings .standard).devices twoNodes = .ok twoFound
  have directory : (Nodes.ofSettings .standard).directory = "/dev" := rfl
  have stem : (Nodes.ofSettings .standard).stem = "usb-it95x" := rfl
  have entries : twoNodes.list "/dev"
      = .ok [Utf8.bytes "usb-it95x10", Utf8.bytes "usb-it95x9"] := rfl
  unfold Nodes.devices
  rw [directory, entries]
  dsimp only
  rw [stem, twoNodes_ordered]
  rfl

theorem queries_agree_on_two_nodes :
    ((Nodes.ofSettings .standard).driver.list twoNodes).answer = .ok twoFound
      ∧ (∀ d ∈ twoFound, twoNodes.openNode d.path = .ok ())
      ∧ Agrees (Nodes.ofSettings .standard) twoNodes twoFound := by
  refine ⟨twoNodes_listed, ?_, queries_agree _ _ _ twoNodes_listed⟩
  exact List.forall_mem_cons.mpr ⟨rfl, List.forall_mem_singleton.mpr rfl⟩

end Query

end ModulatorInspector
