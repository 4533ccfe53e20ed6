import Logbook.Time.Instant

/-!
# Readings

A reading is a value that a feed gave at an instant: a number, or a category given as text.

* `firstInversion?` finds the first reading that is earlier than the one before it; there is none
  exactly in a list that is in order of time.

Model of `Point` and `ValueKind` of `tr-types`, and of the test for order in `new` of `Series` of
`tr-series`.
-/

namespace Logbook

/-- One value of a feed. -/
structure Reading (β : Type) where
  feed : Int64
  instant : Instant
  value : β
deriving DecidableEq

/-- The kinds of values that readings have. -/
inductive ValueKind where
  | numeric
  | categorical
deriving DecidableEq, Repr

/-- The name of a kind of values. -/
def ValueKind.name : ValueKind → String
  | numeric => "numeric"
  | categorical => "categorical"

namespace Reading

variable {β : Type}

/-- Readings in order of time; readings of one instant may stand in any order. -/
def InOrder (readings : List (Reading β)) : Prop :=
  readings.Pairwise fun a b => a.instant ≤ b.instant

/-- The position of the first reading that is earlier than the one before it. -/
def firstInversion? : List (Reading β) → Option Nat
  | a :: b :: rest =>
    if b.instant < a.instant then some 1 else (firstInversion? (b :: rest)).map (· + 1)
  | _ => none

/-- The readings in order of time; readings of one instant keep their order. -/
def sortByInstant (readings : List (Reading β)) : List (Reading β) :=
  readings.mergeSort fun a b => a.instant ≤ b.instant

theorem inOrder_cons_cons {a b : Reading β} {rest : List (Reading β)} :
    InOrder (a :: b :: rest) ↔ a.instant ≤ b.instant ∧ InOrder (b :: rest) := by
  unfold InOrder
  constructor
  · intro h
    exact ⟨(List.pairwise_cons.1 h).1 b (by simp), (List.pairwise_cons.1 h).2⟩
  · rintro ⟨hab, h⟩
    refine List.pairwise_cons.2 ⟨fun c hc => ?_, h⟩
    rcases List.mem_cons.1 hc with rfl | hc
    · exact hab
    · exact Int.le_trans hab ((List.pairwise_cons.1 h).1 c hc)

theorem firstInversion?_eq_none_iff {readings : List (Reading β)} :
    firstInversion? readings = none ↔ InOrder readings := by
  induction readings with
  | nil => simp [firstInversion?, InOrder]
  | cons a rest ih =>
    cases rest with
    | nil => simp [firstInversion?, InOrder]
    | cons b rest =>
      rw [inOrder_cons_cons, firstInversion?, ← ih, Instant.le_def]
      split <;> rename_i h <;> rw [Instant.lt_def] at h
      · simp
        omega
      · simp
        omega

theorem sortByInstant_inOrder (readings : List (Reading β)) : InOrder (sortByInstant readings) := by
  have h : (sortByInstant readings).Pairwise fun a b => decide (a.instant ≤ b.instant) = true := by
    refine List.pairwise_mergeSort (fun a b c hab hbc => ?_) (fun a b => ?_) readings
    · simp only [decide_eq_true_eq, Instant.le_def] at *
      omega
    · simp only [Bool.or_eq_true, decide_eq_true_eq, Instant.le_def]
      omega
  exact h.imp fun hab => by simpa using hab

end Reading

end Logbook
