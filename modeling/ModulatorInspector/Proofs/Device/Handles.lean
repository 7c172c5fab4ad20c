import ModulatorInspector.Proofs.Device.Selection

namespace ModulatorInspector.Device

open Files (Disk)

structure Bench (σ η : Type) where
  state : σ
  handles : List η

-- What may be next in a run. A handle is meant by its place among those given; the last one is no
-- operation of a driver, but a change of the state from outside.
inductive Deed (σ : Type) where
  | list
  | openAt (index : UInt32)
  | openNamed (name : String)
  | describe (place : Nat)
  | gainRange (place : Nat) (frequency : UInt64) (bandwidth : Bandwidth)
  | close (place : Nat)
  | become (state : σ)

inductive Reply where
  | listed (outcome : Outcome (List Descriptor))
  | opened (outcome : Outcome Nat)
  | described (outcome : Outcome Descriptor)
  | gauged (outcome : Outcome GainRange)
  | finished
  | noHandle

def Act.Still {σ α : Type} (act : Act σ α) : Prop := ∀ s, (act s).state = s

namespace Act

variable {σ α β : Type}

theorem still_pure (a : α) : (pure a : Act σ α).Still := fun _ => rfl

theorem Still.bind {act : Act σ α} {next : α → Act σ β} (first : act.Still)
    (second : ∀ a, (next a).Still) : (act >>= next).Still := by
  intro s
  rw [bind_apply, second, first]

end Act

namespace Bench

variable {σ η α : Type}

def asking (act : Act σ α) (reply : α → Reply) : Act (Bench σ η) Reply := fun b =>
  let run := act b.state
  ⟨reply run.answer, { b with state := run.state }, run.events⟩

def opening (act : Act σ (Outcome η)) : Act (Bench σ η) Reply := fun b =>
  let run := act b.state
  match run.answer with
  | .error failure => ⟨.opened (.error failure), { b with state := run.state }, run.events⟩
  | .ok handle =>
      ⟨.opened (.ok b.handles.length), ⟨run.state, b.handles ++ [handle]⟩, run.events⟩

def closing (d : Driver σ η) (place : Nat) (handle : η) : Act (Bench σ η) Reply := fun b =>
  let run := d.close handle b.state
  ⟨.finished, ⟨run.state, b.handles.set place run.answer⟩, run.events⟩

def withHandle (place : Nat) (act : η → Act (Bench σ η) Reply) : Act (Bench σ η) Reply := fun b =>
  match b.handles[place]? with
  | none => ⟨.noHandle, b, []⟩
  | some handle => act handle b

def perform (d : Driver σ η) : Deed σ → Act (Bench σ η) Reply
  | .list => asking d.list .listed
  | .openAt index => opening (d.openAt index)
  | .openNamed name => opening (d.openNamed name)
  | .describe place => withHandle place fun handle => asking (d.describe handle) .described
  | .gainRange place frequency bandwidth =>
      withHandle place fun handle => asking (d.gainRange handle frequency bandwidth) .gauged
  | .close place => withHandle place fun handle => closing d place handle
  | .become state => Act.quiet fun b => (.finished, { b with state })

def after (d : Driver σ η) (b : Bench σ η) (deeds : List (Deed σ)) : Bench σ η :=
  deeds.foldl (fun b deed => (perform d deed b).state) b

variable {d : Driver σ η} {b : Bench σ η} {deed : Deed σ} {deeds more : List (Deed σ)}

theorem after_cons : b.after d (deed :: deeds) = (perform d deed b).state.after d deeds := rfl

theorem after_append : b.after d (deeds ++ more) = (b.after d deeds).after d more :=
  List.foldl_append

theorem withHandle_of {place : Nat} {handle : η} {act : η → Act (Bench σ η) Reply}
    (given : b.handles[place]? = some handle) : withHandle place act b = act handle b := by
  rw [withHandle, given]

theorem withHandle_none {place : Nat} {act : η → Act (Bench σ η) Reply}
    (missing : b.handles[place]? = none) : withHandle place act b = ⟨.noHandle, b, []⟩ := by
  rw [withHandle, missing]

theorem opening_of_ok {act : Act σ (Outcome η)} {handle : η}
    (opened : (act b.state).answer = .ok handle) :
    (opening act b).answer = .opened (.ok b.handles.length) := by
  rw [opening, opened]

end Bench

namespace Nodes

variable {n : Nodes} {disk : Disk} {b : Bench Disk Handle} {d : Descriptor} {h : Handle}
  {deed : Deed Disk} {deeds later : List (Deed Disk)} {place : Nat}

def Picks : Deed Disk → List Descriptor → Descriptor → Prop
  | .openAt index, found, d => found[index.toNat]? = some d
  | .openNamed called, found, d => d ∈ found ∧ GoesBy called d
  | _, _, _ => False

-- The deed opens a device, which is enumerated at that moment with this descriptor.
def Opens (n : Nodes) (disk : Disk) (deed : Deed Disk) (d : Descriptor) : Prop :=
  ∃ found, (n.driver.list disk).answer = .ok found ∧ Picks deed found d
    ∧ disk.openNode d.path = .ok ()

theorem OpensTo.eq_of_ok (opens : OpensTo disk d (.ok h)) :
    h = ⟨d, true⟩ ∧ disk.openNode d.path = .ok () := by
  cases opens with
  | opened openable => exact ⟨rfl, openable⟩

theorem OpensTo.eq_ok {outcome : Outcome Handle} (opens : OpensTo disk d outcome)
    (openable : disk.openNode d.path = .ok ()) : outcome = .ok ⟨d, true⟩ := by
  cases opens with
  | opened _ => rfl
  | refused fault closed =>
    rw [openable] at closed
    cases closed

theorem openDescriptor_still (d : Descriptor) : (openDescriptor d).Still := by
  intro disk
  unfold openDescriptor
  split <;> rfl

section Picking

variable {pick : List Descriptor → Option Descriptor} {refusal : List Descriptor → Failure}

theorem openPicked_still (n : Nodes) : (n.openPicked pick refusal).Still := by
  refine Act.Still.bind (fun _ => rfl) fun outcome => ?_
  cases outcome with
  | error failure => exact Act.still_pure _
  | ok found =>
    dsimp only
    split
    · exact Act.still_pure _
    · exact openDescriptor_still _

theorem opens_of_openPicked (opened : (n.openPicked pick refusal disk).answer = .ok h) :
    ∃ found d, (n.driver.list disk).answer = .ok found ∧ pick found = some d ∧ h = ⟨d, true⟩
      ∧ disk.openNode d.path = .ok () := by
  cases listed : n.devices disk with
  | error failure =>
    rw [openPicked_unlisted listed] at opened
    cases opened
  | ok found =>
    rw [openPicked_answer listed] at opened
    cases picked : pick found with
    | none =>
      rw [picked] at opened
      cases opened
    | some d =>
      rw [picked] at opened
      change (openDescriptor d disk).answer = .ok h at opened
      have opens := openDescriptor_opensTo disk d
      rw [opened] at opens
      obtain ⟨rfl, openable⟩ := opens.eq_of_ok
      exact ⟨found, d, listed, picked, rfl, openable⟩

theorem openPicked_of_listed {found : List Descriptor}
    (listed : (n.driver.list disk).answer = .ok found) (picked : pick found = some d)
    (openable : disk.openNode d.path = .ok ()) :
    (n.openPicked pick refusal disk).answer = .ok ⟨d, true⟩ := by
  rw [openPicked_answer listed, picked]
  exact (openDescriptor_opensTo disk d).eq_ok openable

end Picking

theorem opens_of_openAt {index : UInt32} (opened : (n.openAt index disk).answer = .ok h) :
    ∃ d, h = ⟨d, true⟩ ∧ n.Opens disk (.openAt index) d := by
  rw [openAt_eq] at opened
  obtain ⟨found, d, listed, picked, rfl, openable⟩ := opens_of_openPicked opened
  exact ⟨d, rfl, found, listed, picked, openable⟩

theorem opens_of_openNamed {called : String} (opened : (n.openNamed called disk).answer = .ok h) :
    ∃ d, h = ⟨d, true⟩ ∧ n.Opens disk (.openNamed called) d := by
  rw [openNamed_eq] at opened
  obtain ⟨found, d, listed, meant, rfl, openable⟩ := opens_of_openPicked opened
  have goes : d ∈ found ∧ GoesBy called d :=
    ⟨List.mem_of_find?_eq_some meant, isMeant_iff.mp (List.find?_some meant)⟩
  exact ⟨d, rfl, found, listed, goes, openable⟩

theorem opened_of_opens (opens : n.Opens b.state deed d) :
    (Bench.perform n.driver deed b).answer = .opened (.ok b.handles.length) := by
  obtain ⟨found, listed, picked, openable⟩ := opens
  cases deed with
  | openAt index =>
    have opened : (n.driver.openAt index b.state).answer = .ok ⟨d, true⟩ :=
      openPicked_of_listed listed picked openable
    exact Bench.opening_of_ok opened
  | openNamed called =>
    obtain ⟨member, goes⟩ := picked
    obtain ⟨entries, enumerates⟩ := devices_enumerate listed
    obtain ⟨position, inside, rfl⟩ := List.getElem_of_mem member
    have opened : (n.driver.openNamed called b.state).answer = .ok ⟨found[position], true⟩ :=
      openPicked_of_listed listed (enumerates.find?_of_goesBy inside goes) openable
    exact Bench.opening_of_ok opened
  | list | describe _ | gainRange _ _ _ | close _ | become _ => exact picked.elim

-- All that a deed can come to. What it says is left open where no handle and no tree changes.
inductive ComesTo (n : Nodes) (b : Bench Disk Handle) :
    Deed Disk → Run (Bench Disk Handle) Reply → Prop
  | opened (deed : Deed Disk) (d : Descriptor) (events) (opens : n.Opens b.state deed d) :
      ComesTo n b deed
        ⟨.opened (.ok b.handles.length), ⟨b.state, b.handles ++ [⟨d, true⟩]⟩, events⟩
  | closed (place : Nat) (h : Handle) (events) (given : b.handles[place]? = some h) :
      ComesTo n b (.close place)
        ⟨.finished, ⟨b.state, b.handles.set place { h with isOpen := false }⟩, events⟩
  | became (disk : Disk) : ComesTo n b (.become disk) ⟨.finished, ⟨disk, b.handles⟩, []⟩
  | unchanged (deed : Deed Disk) (reply) (events)
      (unopened : ∀ place, reply ≠ .opened (.ok place)) :
      ComesTo n b deed ⟨reply, b, events⟩

theorem opening_comesTo {act : Act Disk (Outcome Handle)} (still : act.Still)
    (opens : ∀ h, (act b.state).answer = .ok h → ∃ d, h = ⟨d, true⟩ ∧ n.Opens b.state deed d) :
    n.ComesTo b deed (Bench.opening act b) := by
  rw [Bench.opening, still b.state]
  cases opened : (act b.state).answer with
  | error failure => exact .unchanged _ _ _ nofun
  | ok h =>
    obtain ⟨d, rfl, opens⟩ := opens h opened
    exact .opened _ d _ opens

theorem withHandle_comesTo {act : Handle → Act (Bench Disk Handle) Reply}
    (comesTo : ∀ h, b.handles[place]? = some h → n.ComesTo b deed (act h b)) :
    n.ComesTo b deed (Bench.withHandle place act b) := by
  cases given : b.handles[place]? with
  | none =>
    rw [Bench.withHandle_none given]
    exact .unchanged _ _ _ nofun
  | some h =>
    rw [Bench.withHandle_of given]
    exact comesTo h given

theorem close_apply (h : Handle) (disk : Disk) :
    close h disk = ⟨{ h with isOpen := false }, disk,
      if h.isOpen then [.nodeClosed h.descriptor.path] else []⟩ := by
  unfold close
  split <;> rfl

theorem performed_close (given : b.handles[place]? = some h) :
    Bench.perform n.driver (.close place) b
      = ⟨.finished, ⟨b.state, b.handles.set place { h with isOpen := false }⟩,
          if h.isOpen then [.nodeClosed h.descriptor.path] else []⟩ := by
  have closed := close_apply h b.state
  change n.driver.close h b.state = _ at closed
  rw [Bench.perform, Bench.withHandle_of given, Bench.closing, closed]

theorem perform_comesTo (n : Nodes) (b : Bench Disk Handle) (deed : Deed Disk) :
    n.ComesTo b deed (Bench.perform n.driver deed b) := by
  cases deed with
  | list => exact .unchanged _ _ _ nofun
  | openAt index => exact opening_comesTo (openPicked_still n) fun _ => opens_of_openAt
  | openNamed called => exact opening_comesTo (openPicked_still n) fun _ => opens_of_openNamed
  | describe place => exact withHandle_comesTo fun h _ => .unchanged _ _ _ nofun
  | gainRange place frequency bandwidth =>
    exact withHandle_comesTo fun h _ => .unchanged _ _ _ nofun
  | close place =>
    refine withHandle_comesTo fun h given => ?_
    have closed := performed_close (n := n) given
    rw [Bench.perform, Bench.withHandle_of given] at closed
    rw [closed]
    exact .closed _ h _ given
  | become disk => exact .became disk

section Step

variable {run : Run (Bench Disk Handle) Reply}

theorem ComesTo.keeps (comesTo : n.ComesTo b deed run) (given : b.handles[place]? = some h)
    (other : deed ≠ .close place) : run.state.handles[place]? = some h := by
  cases comesTo with
  | opened deed d events opens =>
    have inside := (List.getElem?_eq_some_iff.mp given).1
    rwa [List.getElem?_append_left inside]
  | closed closed h' events given' =>
    have apart : closed ≠ place := fun same => other (congrArg Deed.close same)
    rwa [List.getElem?_set_ne apart]
  | became disk => exact given
  | unchanged deed reply events unopened => exact given

theorem ComesTo.opens (comesTo : n.ComesTo b deed run) (opened : run.answer = .opened (.ok place)) :
    ∃ d, n.Opens b.state deed d ∧ run.state.handles[place]? = some ⟨d, true⟩ := by
  cases comesTo with
  | opened deed d events opens =>
    cases opened
    exact ⟨d, opens, List.getElem?_concat_length⟩
  | closed closed h events given => cases opened
  | became disk => cases opened
  | unchanged deed reply events unopened => exact absurd opened (unopened place)

theorem ComesTo.lt_or_opened (comesTo : n.ComesTo b deed run)
    (inside : place < run.state.handles.length) :
    place < b.handles.length ∨ run.answer = .opened (.ok place) := by
  cases comesTo with
  | opened deed d events opens =>
    rw [List.length_append, List.length_singleton, Nat.lt_succ_iff_lt_or_eq] at inside
    exact inside.imp_right fun last => by rw [last]
  | closed closed h events given =>
    rw [List.length_set] at inside
    exact .inl inside
  | became disk => exact .inl inside
  | unchanged deed reply events unopened => exact .inl inside

theorem ComesTo.state (comesTo : n.ComesTo b deed run) (other : ∀ disk, deed ≠ .become disk) :
    run.state.state = b.state := by
  cases comesTo with
  | opened deed d events opens => rfl
  | closed closed h events given => rfl
  | became disk => exact absurd rfl (other disk)
  | unchanged deed reply events unopened => rfl

end Step

theorem perform_close (given : b.handles[place]? = some h) :
    (Bench.perform n.driver (.close place) b).state.handles[place]?
      = some { h with isOpen := false } := by
  have inside := (List.getElem?_eq_some_iff.mp given).1
  rw [performed_close given, List.getElem?_set_self inside]

-- By the deeds: each one keeps the descriptor, and only the closing of this handle has a part in
-- whether it is open.
theorem after_handle (given : b.handles[place]? = some h) (deeds : List (Deed Disk)) :
    ∃ h', (b.after n.driver deeds).handles[place]? = some h' ∧ h'.descriptor = h.descriptor
      ∧ (h'.isOpen = true ↔ h.isOpen = true ∧ .close place ∉ deeds) := by
  induction deeds generalizing b h with
  | nil => exact ⟨h, given, rfl, by simp⟩
  | cons deed deeds ih =>
    by_cases same : deed = .close place
    · subst same
      obtain ⟨h', found, descriptor, isOpen⟩ := ih (perform_close given)
      exact ⟨h', found, descriptor, by simp [isOpen]⟩
    · obtain ⟨h', found, descriptor, isOpen⟩ := ih ((perform_comesTo n b deed).keeps given same)
      exact ⟨h', found, descriptor, by simp [isOpen, Ne.symm same]⟩

-- By the deeds: a handle was there before all of them, or one of them has given it.
theorem exists_opening (deeds : List (Deed Disk))
    (inside : place < (b.after n.driver deeds).handles.length) :
    place < b.handles.length
      ∨ ∃ before opening later, deeds = before ++ opening :: later
        ∧ (Bench.perform n.driver opening (b.after n.driver before)).answer
          = .opened (.ok place) := by
  induction deeds generalizing b with
  | nil => exact .inl inside
  | cons deed deeds ih =>
    rcases ih inside with inside | ⟨before, opening, later, rfl, opened⟩
    · have first := (perform_comesTo n b deed).lt_or_opened inside
      exact first.imp_right fun opened => ⟨[], deed, deeds, rfl, opened⟩
    · exact .inr ⟨deed :: before, opening, later, rfl, opened⟩

structure Stands (n : Nodes) (b : Bench Disk Handle) (place : Nat) (d : Descriptor)
    (isOpen : Prop) : Prop where
  described : Bench.perform n.driver (.describe place) b = ⟨.described (.ok d), b, []⟩
  refused (frequency : UInt64) (bandwidth : Bandwidth) :
    Bench.perform n.driver (.gainRange place frequency bandwidth) b
      = ⟨.gauged (.error (.unsupported gainRangeRefusal)), b,
          [.gainRangeRequested frequency bandwidth]⟩
  holds : (∃ h, b.handles[place]? = some h ∧ h.isOpen = true) ↔ isOpen
  released : ¬isOpen → Bench.perform n.driver (.close place) b = ⟨.finished, b, []⟩

theorem stands_of_handle (given : b.handles[place]? = some h) {isOpen : Prop}
    (known : h.isOpen = true ↔ isOpen) : n.Stands b place h.descriptor isOpen := by
  constructor
  · rw [Bench.perform, Bench.withHandle_of given]
    rfl
  · intro frequency bandwidth
    rw [Bench.perform, Bench.withHandle_of given]
    rfl
  · simp [given, known]
  · intro shut
    have isShut : h.isOpen = false := by simpa using mt known.mp shut
    have same : (⟨h.descriptor, false⟩ : Handle) = h := by rw [← isShut]
    have inside := (List.getElem?_eq_some_iff.mp given).1
    have unset : b.handles.set place h = b.handles := by
      rw [← (List.getElem?_eq_some_iff.mp given).2, List.set_getElem_self]
    rw [performed_close given, same, unset, isShut]
    rfl

def reached (n : Nodes) (disk : Disk) (deeds : List (Deed Disk)) : Bench Disk Handle :=
  Bench.after n.driver ⟨disk, []⟩ deeds

-- The handles of a run. Each one comes from an opening that succeeded, and answers with what
-- enumerating said at that moment, whatever has been done since.
structure Snapshots (n : Nodes) (disk : Disk) (deeds : List (Deed Disk)) : Prop where
  opened (deed : Deed Disk) (d : Descriptor) : n.Opens (n.reached disk deeds).state deed d →
    (Bench.perform n.driver deed (n.reached disk deeds)).answer
      = .opened (.ok (n.reached disk deeds).handles.length)
  given (place : Nat) : place < (n.reached disk deeds).handles.length →
    ∃ before opening later, deeds = before ++ opening :: later
      ∧ (Bench.perform n.driver opening (n.reached disk before)).answer = .opened (.ok place)
  kept (before : List (Deed Disk)) (opening : Deed Disk) (later : List (Deed Disk)) (place : Nat) :
    deeds = before ++ opening :: later →
      (Bench.perform n.driver opening (n.reached disk before)).answer = .opened (.ok place) →
        ∃ d, n.Opens (n.reached disk before).state opening d
          ∧ n.Stands (n.reached disk deeds) place d (.close place ∉ later)
  apart (deed : Deed Disk) (place : Nat) : place < (n.reached disk deeds).handles.length →
    deed ≠ .close place →
      (Bench.perform n.driver deed (n.reached disk deeds)).state.handles[place]?
        = (n.reached disk deeds).handles[place]?
  tree (deed : Deed Disk) : (∀ disk, deed ≠ .become disk) →
    (Bench.perform n.driver deed (n.reached disk deeds)).state.state
      = (n.reached disk deeds).state

theorem handles_are_snapshots (n : Nodes) (disk : Disk) (deeds : List (Deed Disk)) :
    n.Snapshots disk deeds := by
  constructor
  · intro deed d opens
    exact opened_of_opens opens
  · intro place inside
    exact (exists_opening deeds inside).resolve_left (Nat.not_lt_zero _)
  · rintro before opening later place rfl opened
    obtain ⟨d, opens, given⟩ := (perform_comesTo n _ opening).opens opened
    obtain ⟨h, found, rfl, isOpen⟩ := after_handle given later
    refine ⟨h.descriptor, opens, ?_⟩
    have run : n.reached disk (before ++ opening :: later)
        = (Bench.perform n.driver opening (n.reached disk before)).state.after n.driver later := by
      rw [reached, Bench.after_append, Bench.after_cons, reached]
    rw [run]
    exact stands_of_handle found (by simp [isOpen])
  · intro deed place inside other
    rw [List.getElem?_eq_getElem inside]
    exact (perform_comesTo n _ deed).keeps (List.getElem?_eq_getElem inside) other
  · intro deed other
    exact (perform_comesTo n _ deed).state other

theorem singleNode_opened :
    (Bench.perform (ofSettings .standard).driver (.openAt 0) ⟨singleNode, []⟩).answer
      = .opened (.ok 0) := by
  have openable : singleNode.openNode singleFound.path = .ok () := by decide +kernel
  exact opened_of_opens ⟨[singleFound], singleNode_listed, rfl, openable⟩

theorem singleNode_snapshot :
    (Bench.perform (ofSettings .standard).driver (.openAt 0)
        ((ofSettings .standard).reached singleNode [])).answer = .opened (.ok 0)
      ∧ (ofSettings .standard).Stands
          ((ofSettings .standard).reached singleNode [.openAt 0, .become blockedNode, .close 0])
          0 singleFound (.close 0 ∉ [Deed.become blockedNode, .close 0]) := by
  obtain ⟨d, ⟨found, listed, picked, -⟩, stands⟩ :=
    (handles_are_snapshots (ofSettings .standard) singleNode
      [.openAt 0, .become blockedNode, .close 0]).kept [] (.openAt 0) _ 0 rfl singleNode_opened
  have same : [singleFound] = found := Except.ok.inj (singleNode_listed.symm.trans listed)
  subst same
  obtain rfl : singleFound = d := Option.some.inj picked
  exact ⟨singleNode_opened, stands⟩

end Nodes

end ModulatorInspector.Device
