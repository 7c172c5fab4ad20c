import ModulatorInspector.Proofs.Device.Fields
import ModulatorInspector.Proofs.Query.Agreement

namespace ModulatorInspector.Query

open Device (Attribute Descriptor)

-- Behind the last line end there is one more line, which is empty.
def linesOf (text : String) : List (List Char) := text.toList.splitOn '\n'

theorem linesOf_join {texts : List String} (unbroken : ∀ text ∈ texts, '\n' ∉ text.toList) :
    linesOf (String.join (texts.map line)) = texts.map String.toList ++ [[]] := by
  induction texts with
  | nil => rfl
  | cons first rest ih =>
    have whole : (String.join ((first :: rest).map line)).toList
        = first.toList ++ '\n' :: (String.join (rest.map line)).toList := by
      rw [List.map_cons, String.join_cons, line, String.toList_append, String.toList_append,
        List.append_assoc]
      rfl
    have plain : ∀ c ∈ first.toList, (c == '\n') = false := by
      rintro c member
      rw [beq_eq_false_iff_ne]
      rintro rfl
      exact unbroken first List.mem_cons_self member
    rw [linesOf, whole, List.splitOn, List.splitOnP_append_cons_of_forall_mem plain _ (by decide)]
    exact congrArg _ (ih fun text member => unbroken text (List.mem_cons_of_mem first member))

theorem line_intercalate {texts : List String} (some_text : texts ≠ []) :
    line ("\n".intercalate texts) = String.join (texts.map line) := by
  induction texts with
  | nil => exact absurd rfl some_text
  | cons first rest ih =>
    rw [List.map_cons, String.join_cons]
    by_cases last : rest = []
    · rw [last, String.intercalate_singleton, List.map_nil, String.join_nil, String.append_empty]
    · rw [String.intercalate_cons_of_ne_nil last, ← ih last, line, line, line, String.append_assoc]

theorem join_lines {α : Type} (lines : α → List String) (xs : List α) :
    String.join (xs.map fun x => String.join ((lines x).map line))
      = String.join ((xs.flatMap lines).map line) := by
  induction xs with
  | nil => rfl
  | cons first rest ih =>
    rw [List.map_cons, String.join_cons, ih, List.flatMap_cons, List.map_append, String.join_append]

theorem deviceReport_verbose (d : Descriptor) :
    deviceReport d true = String.join (d.lines.map line) := by
  have some_line : d.lines ≠ [] := by simp [Descriptor.lines]
  rw [deviceReport, Descriptor.text, if_pos rfl, Descriptor.full, line_intercalate some_line]

def bannerLine (count : Nat) : String := "Found " ++ toString count ++ " HiDes devices"

theorem line_banner (count : Nat) :
    line (bannerLine count) = "Found " ++ toString count ++ " HiDes devices\n" := by
  rw [line, bannerLine, String.append_assoc]
  rfl

def listing (found : List Descriptor) : List String :=
  if found = [] then [nothingFound]
  else bannerLine found.length :: "" :: found.flatMap Descriptor.lines

theorem listReport_listing (found : List Descriptor) :
    listReport found true = String.join ((listing found).map line) := by
  rw [listing]
  split
  · rename_i none_found
    rw [none_found, listReport, if_pos rfl, List.map_singleton, String.join_cons, String.join_nil,
      String.append_empty]
  · rename_i some_found
    have blank : line (bannerLine found.length) ++ line "" = heading true found.length := by
      rw [line_banner, heading, if_pos rfl, String.append_assoc]
      rfl
    rw [listReport_heading some_found, funext deviceReport_verbose, join_lines, List.map_cons,
      List.map_cons, String.join_cons, String.join_cons, ← String.append_assoc, blank]

theorem listing_unbroken {found : List Descriptor} (unbroken : ∀ d ∈ found, d.Unbroken) :
    ∀ text ∈ listing found, '\n' ∉ text.toList := by
  rw [listing]
  split
  · exact List.forall_mem_singleton.mpr (by decide)
  · rintro text member
    rcases List.mem_cons.mp member with rfl | member
    · simp only [bannerLine, String.toList_append, List.mem_append, not_or]
      exact ⟨⟨by decide, Numeral.decimal_unbroken _⟩, by decide⟩
    · rcases List.mem_cons.mp member with rfl | member
      · exact List.not_mem_nil
      · obtain ⟨d, among, own⟩ := List.mem_flatMap.mp member
        exact (unbroken d among).lines text own

theorem linesOf_listReport {found : List Descriptor} (unbroken : ∀ d ∈ found, d.Unbroken) :
    linesOf (listReport found true) = (listing found).map String.toList ++ [[]] := by
  rw [listReport_listing, linesOf_join (listing_unbroken unbroken)]

section Blocks

def continues (entry : Attribute × String) : Bool := entry.1 ≠ .index

theorem next_device (found : List Descriptor) :
    (found.flatMap Descriptor.entries).takeWhile continues = []
      ∧ (found.flatMap Descriptor.entries).dropWhile continues = found.flatMap Descriptor.entries := by
  cases found with
  | nil => exact ⟨rfl, rfl⟩
  | cons d rest =>
    obtain ⟨own, entries, -⟩ := d.entries_head
    rw [List.flatMap_cons, entries]
    exact ⟨rfl, rfl⟩

-- By induction on the devices: the entries up to the next index are those of the first one.
theorem entries_injective {found other : List Descriptor}
    (same : found.flatMap Descriptor.entries = other.flatMap Descriptor.entries) :
    found = other := by
  induction found generalizing other with
  | nil =>
    cases other with
    | nil => rfl
    | cons e later => cases same
  | cons d rest ih =>
    cases other with
    | nil => cases same
    | cons e later =>
      obtain ⟨own, entries, belong⟩ := d.entries_head
      obtain ⟨own', entries', belong'⟩ := e.entries_head
      have belong : ∀ entry ∈ own, continues entry = true := by simpa [continues] using belong
      have belong' : ∀ entry ∈ own', continues entry = true := by simpa [continues] using belong'
      rw [List.flatMap_cons, List.flatMap_cons, entries, entries', List.cons_append,
        List.cons_append, List.cons.injEq] at same
      obtain ⟨index, behind⟩ := same
      have first := congrArg (List.takeWhile continues) behind
      have others := congrArg (List.dropWhile continues) behind
      rw [List.takeWhile_append_of_pos belong, List.takeWhile_append_of_pos belong',
        (next_device rest).1, (next_device later).1, List.append_nil, List.append_nil] at first
      rw [List.dropWhile_append_of_pos belong, List.dropWhile_append_of_pos belong',
        (next_device rest).2, (next_device later).2] at others
      have whole : d.entries = e.entries := by rw [entries, entries', index, first]
      have devices : d = e := Descriptor.eq_of_shown fun a => Option.ext fun text => by
        rw [← Descriptor.mem_entries, whole, Descriptor.mem_entries]
      rw [devices, ih others]

theorem lines_injective {found other : List Descriptor}
    (same : found.flatMap Descriptor.lines = other.flatMap Descriptor.lines) : found = other := by
  rw [funext Descriptor.lines_eq_entries, ← List.map_flatMap, ← List.map_flatMap] at same
  refine entries_injective ((List.map_inj_right ?_).mp same)
  rintro ⟨a, text⟩ ⟨b, other⟩ lines
  obtain ⟨rfl, rfl⟩ := Attribute.line_injective lines
  rfl

end Blocks

theorem listing_some {found : List Descriptor} (some_found : found ≠ []) :
    listing found = bannerLine found.length :: "" :: found.flatMap Descriptor.lines :=
  if_neg some_found

theorem listing_injective {found other : List Descriptor} (same : listing found = listing other) :
    found = other := by
  by_cases none_found : found = []
  · by_cases none_other : other = []
    · rw [none_found, none_other]
    · rw [none_found, listing_some none_other] at same
      exact absurd (List.cons.inj same).2.symm (List.cons_ne_nil _ _)
  · by_cases none_other : other = []
    · rw [none_other, listing_some none_found] at same
      exact absurd (List.cons.inj same).2 (List.cons_ne_nil _ _)
    · rw [listing_some none_found, listing_some none_other, List.cons.injEq, List.cons.injEq] at same
      exact lines_injective same.2.2

def startsDevice (text : List Char) : Bool := "Index: ".toList.isPrefixOf text

theorem startsDevice_line (entry : Attribute × String) :
    startsDevice (entry.1.line entry.2).toList = !continues entry := by
  have label : "Index: " = Attribute.label .index := rfl
  rw [Bool.eq_iff_iff, startsDevice, label, List.isPrefixOf_iff_prefix, Attribute.line_starts_iff]
  simp [continues, eq_comm]

theorem startsDevice_banner (count : Nat) : startsDevice (bannerLine count).toList = false := by
  rw [bannerLine, String.toList_append, String.toList_append]
  rfl

theorem countP_lines (d : Descriptor) : (d.lines.map String.toList).countP startsDevice = 1 := by
  obtain ⟨own, entries, belong⟩ := d.entries_head
  have behind : own.countP (fun entry => !continues entry) = 0 :=
    List.countP_eq_zero.mpr fun entry member => by simpa [continues] using belong entry member
  rw [Descriptor.lines_eq_entries, List.map_map, List.countP_map]
  change d.entries.countP (fun entry => startsDevice (entry.1.line entry.2).toList) = 1
  rw [funext startsDevice_line, entries, List.countP_cons_of_pos rfl, behind]

theorem countP_listing {found : List Descriptor} (some_found : found ≠ []) :
    ((listing found).map String.toList ++ [[]]).countP startsDevice = found.length := by
  have blank : startsDevice "".toList = false := rfl
  have last : [[]].countP startsDevice = 0 := rfl
  have devices : (found.flatMap fun d => d.lines.map String.toList).countP startsDevice
      = found.length := by
    simp only [List.countP_flatMap, Function.comp_def, countP_lines]
    simp
  rw [listing_some some_found, List.countP_append, last, List.map_cons, List.map_cons,
    List.countP_cons_of_neg (Bool.eq_false_iff.mp (startsDevice_banner _)),
    List.countP_cons_of_neg (Bool.eq_false_iff.mp blank), List.map_flatMap, devices, Nat.add_zero]

-- Two lists with one text are one list, and the number in front of a list is the number of lines in
-- it that start a device.
theorem listReport_recoverable (found other : List Descriptor)
    (unbroken : ∀ d ∈ found, d.Unbroken) (unbroken' : ∀ d ∈ other, d.Unbroken) :
    (listReport found true = listReport other true → found = other)
      ∧ (found ≠ [] → ∃ rest, listReport found true
          = "Found " ++ toString ((linesOf (listReport found true)).countP startsDevice)
            ++ " HiDes devices\n" ++ rest) := by
  constructor
  · intro same
    have lines := congrArg linesOf same
    rw [linesOf_listReport unbroken, linesOf_listReport unbroken', List.append_left_inj] at lines
    exact listing_injective
      ((List.map_inj_right fun _ _ => String.toList_inj.mp).mp lines)
  · intro some_found
    rw [linesOf_listReport unbroken, countP_listing some_found, listReport_listing,
      listing_some some_found, List.map_cons, String.join_cons, line_banner]
    exact ⟨_, rfl⟩

def lookalike : Descriptor where
  index := 0
  name := "a\""
  path := "/dev/a"
  product := some ""
  serial := some "Index: 1"

def lookalikes : List Descriptor :=
  [lookalike,
   { index := 1, name := "b", path := "/dev/b", vendorId := some 0x048d, speed := some "480" }]

def withoutProduct : List Descriptor := { lookalike with product := none } :: lookalikes.tail

theorem lookalikes_recoverable :
    (∀ d ∈ lookalikes, d.Unbroken) ∧ (∀ d ∈ withoutProduct, d.Unbroken)
      ∧ listReport lookalikes true ≠ listReport withoutProduct true
      ∧ ∃ rest, listReport lookalikes true
          = "Found " ++ toString ((linesOf (listReport lookalikes true)).countP startsDevice)
            ++ " HiDes devices\n" ++ rest := by
  have unbroken : ∀ d ∈ lookalikes, d.Unbroken := by decide
  have unbroken' : ∀ d ∈ withoutProduct, d.Unbroken := by decide
  obtain ⟨injective, counted⟩ := listReport_recoverable lookalikes _ unbroken unbroken'
  exact ⟨unbroken, unbroken', fun same => absurd (injective same) (by decide),
    counted (by decide)⟩

end ModulatorInspector.Query
