/-!
# Outcomes

Facts on computations that answer or fail which the proofs on readers, series and reports share.
-/

namespace Logbook

variable {ε δ α β : Type}

theorem map_eq_ok_iff {g : α → β} {e : Except ε α} {b : β} :
    e.map g = .ok b ↔ ∃ a, e = .ok a ∧ g a = b := by
  cases e with
  | error e => simp [Except.map]
  | ok a => simp [Except.map]

theorem map_eq_error_iff {g : α → β} {e : Except ε α} {err : ε} :
    e.map g = .error err ↔ e = .error err := by
  cases e with
  | error e => simp [Except.map]
  | ok a => simp [Except.map]

theorem mapError_eq_ok_iff {g : ε → δ} {e : Except ε α} {a : α} :
    e.mapError g = .ok a ↔ e = .ok a := by
  constructor
  · intro h
    cases e with
    | error cause => cases h
    | ok b => exact congrArg _ (Except.ok.inj h)
  · rintro rfl
    rfl

theorem mapError_eq_error_iff {g : ε → δ} {e : Except ε α} {err : δ} :
    e.mapError g = .error err ↔ ∃ cause, e = .error cause ∧ g cause = err := by
  constructor
  · intro h
    cases e with
    | error cause => exact ⟨cause, rfl, Except.error.inj h⟩
    | ok a => cases h
  · rintro ⟨cause, rfl, rfl⟩
    rfl

theorem bind_eq_ok_iff {e : Except ε α} {k : α → Except ε β} {b : β} :
    e >>= k = .ok b ↔ ∃ a, e = .ok a ∧ k a = .ok b := by
  cases e with
  | error e => simp [bind, Except.bind]
  | ok a => simp [bind, Except.bind]

theorem bind_eq_error_iff {e : Except ε α} {k : α → Except ε β} {err : ε} :
    e >>= k = .error err ↔ e = .error err ∨ ∃ a, e = .ok a ∧ k a = .error err := by
  cases e with
  | error e => simp [bind, Except.bind]
  | ok a => simp [bind, Except.bind]

/-- A list of computations answers if each of them does, with their answers in order. -/
theorem mapM_eq_ok_iff {k : α → Except ε β} {as : List α} {bs : List β} :
    as.mapM k = .ok bs ↔ as.map k = bs.map .ok := by
  induction as generalizing bs with
  | nil => cases bs <;> simp [pure, Except.pure]
  | cons a as ih =>
    rw [List.mapM_cons, bind_eq_ok_iff]
    simp only [bind_eq_ok_iff, ih]
    cases bs with
    | nil => simp [pure, Except.pure]
    | cons b bs => simp [pure, Except.pure]

end Logbook
