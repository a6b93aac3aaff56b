set_option autoImplicit false

/-! # Results

How the result of a sequence that may fail comes about, and of steps taken one after the other. -/

namespace PullRequestBot.Result

variable {ε α β : Type} {result : Except ε α} {value : β}

theorem map_eq_ok {f : α → β} :
    result.map f = .ok value ↔ ∃ middle, result = .ok middle ∧ f middle = value := by
  cases result with
  | ok middle => simp [Except.map]
  | error failure => simp [Except.map]

theorem map_eq_error {f : α → β} {failure : ε} :
    result.map f = .error failure ↔ result = .error failure := by
  cases result with
  | ok middle => simp [Except.map]
  | error met => simp [Except.map]

theorem bind_eq_ok {next : α → Except ε β} :
    result >>= next = .ok value ↔ ∃ middle, result = .ok middle ∧ next middle = .ok value := by
  cases result with
  | ok middle => simp [bind, Except.bind]
  | error failure => simp [bind, Except.bind]

/-- What comes through a guard was not stopped by it. -/
theorem passed_guard {stops : Prop} [Decidable stops] {failure : ε} {stopped : α → Except ε β}
    {passed : Except ε β} (h : (if stops then Except.error failure >>= stopped else passed) = .ok value) :
    ¬ stops ∧ passed = .ok value := by
  by_cases hstops : stops
  · rw [if_pos hstops] at h
    exact absurd h nofun
  · rw [if_neg hstops] at h
    exact ⟨hstops, h⟩

theorem mapError_eq_ok {ε' : Type} {f : ε → ε'} {middle : α} :
    result.mapError f = .ok middle ↔ result = .ok middle := by
  cases result with
  | ok met =>
      show Except.ok met = Except.ok middle ↔ _
      rw [Except.ok.injEq, Except.ok.injEq]
  | error failure => exact ⟨nofun, nofun⟩

theorem toOption_eq_some {middle : α} : result.toOption = some middle ↔ result = .ok middle := by
  cases result with
  | ok met => simp [Except.toOption]
  | error failure => simp [Except.toOption]

/-- The failure, if it is one. -/
def failure? : Except ε α → Option ε
  | .ok _ => none
  | .error failure => some failure

theorem failure?_eq_some {failure : ε} : failure? result = some failure ↔ result = .error failure := by
  cases result with
  | ok met => simp [failure?]
  | error met => simp [failure?]

/-- What every step keeps, the steps together keep. -/
theorem foldlM_keeps (kept : β → Prop) {step : β → α → Except ε β} {items : List α}
    (hstep : ∀ item ∈ items, ∀ before after, step before item = .ok after → kept before → kept after)
    {before after : β} (h : items.foldlM step before = .ok after) (hbefore : kept before) :
    kept after := by
  induction items generalizing before with
  | nil =>
      obtain rfl := Except.ok.inj h
      exact hbefore
  | cons item rest ih =>
      rw [List.foldlM_cons] at h
      obtain ⟨middle, hitem, hrest⟩ := bind_eq_ok.1 h
      exact ih (fun item hmem => hstep item (List.mem_cons_of_mem _ hmem)) hrest
        (hstep item List.mem_cons_self _ _ hitem hbefore)

end PullRequestBot.Result
