namespace ModulatorInspector

variable {ε α β : Type}

theorem bind_eq_ok_iff {first : Except ε α} {next : α → Except ε β} {b : β} :
    first.bind next = .ok b ↔ ∃ a, first = .ok a ∧ next a = .ok b := by
  cases first with
  | error fault => exact ⟨nofun, nofun⟩
  | ok a => simp [Except.bind]

theorem map_eq_ok_iff {f : α → β} {result : Except ε α} {b : β} :
    result.map f = .ok b ↔ ∃ a, result = .ok a ∧ f a = b := by
  cases result with
  | error fault => exact ⟨nofun, nofun⟩
  | ok a => simp [Except.map]

theorem mapError_eq_ok_iff {ε' : Type} {f : ε → ε'} {result : Except ε α} {a : α} :
    result.mapError f = .ok a ↔ result = .ok a := by
  cases result with
  | error fault => exact ⟨nofun, nofun⟩
  | ok b => exact ⟨fun same => congrArg Except.ok (Except.ok.inj same), fun same => same ▸ rfl⟩

-- Where it does not matter what a step starts from, a row of steps succeeds if each of them does.
theorem exists_foldlM_eq_ok_iff {step : β → α → Except ε β} {Fits : α → Prop}
    (accepts : ∀ b a, (∃ next, step b a = .ok next) ↔ Fits a) {steps : List α} {b : β} :
    (∃ last, steps.foldlM step b = .ok last) ↔ ∀ a ∈ steps, Fits a := by
  induction steps generalizing b with
  | nil => exact ⟨fun _ => List.forall_mem_nil _, fun _ => ⟨b, rfl⟩⟩
  | cons a rest ih =>
    rw [List.forall_mem_cons, ← accepts b a]
    constructor
    · intro succeeded
      obtain ⟨last, folded⟩ := succeeded
      rw [List.foldlM_cons] at folded
      obtain ⟨next, first, others⟩ := bind_eq_ok_iff.mp folded
      exact ⟨⟨next, first⟩, ih.mp ⟨last, others⟩⟩
    · intro fits
      obtain ⟨⟨next, first⟩, others⟩ := fits
      obtain ⟨last, folded⟩ := ih.mpr others
      refine ⟨last, ?_⟩
      rw [List.foldlM_cons]
      exact bind_eq_ok_iff.mpr ⟨next, first, folded⟩

end ModulatorInspector
