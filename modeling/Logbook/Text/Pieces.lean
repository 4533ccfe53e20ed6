/-!
# Cutting text at a character

* `pieces` cuts a text at every separator: `pieces_joined` says that nothing else is lost, and
  `not_mem_of_mem_pieces` that no piece has a separator in it.
* `splitLast` cuts a text at its last separator.
-/

namespace Logbook

/-- The pieces of a text between its separators: the first one, and those after it. -/
def pieces (separator : Char) : List Char → List Char × List (List Char)
  | [] => ([], [])
  | c :: rest =>
    let (piece, others) := pieces separator rest
    if c = separator then ([], piece :: others) else (c :: piece, others)

/-- What stands before and after the last separator. -/
def splitLast (separator : Char) : List Char → Option (List Char × List Char)
  | [] => none
  | c :: rest =>
    match splitLast separator rest with
    | some (before, after) => some (c :: before, after)
    | none => if c = separator then some ([], rest) else none

/-! ## Pieces -/

/-- The pieces and the separators between them are the text. -/
theorem pieces_joined (separator : Char) (cs : List Char) :
    (pieces separator cs).1 ++ (pieces separator cs).2.flatMap (separator :: ·) = cs := by
  induction cs with
  | nil => rfl
  | cons c rest ih =>
    simp only [pieces]
    split <;> simp_all

theorem not_mem_of_mem_pieces {separator : Char} {cs piece : List Char}
    (h : piece = (pieces separator cs).1 ∨ piece ∈ (pieces separator cs).2) :
    separator ∉ piece := by
  induction cs generalizing piece with
  | nil =>
    rcases h with rfl | h
    · simp [pieces]
    · simp [pieces] at h
  | cons c rest ih =>
    simp only [pieces] at h
    split at h
    · rcases h with rfl | h
      · simp
      · exact ih (by simpa using h)
    · rcases h with rfl | h
      · have := ih (.inl rfl)
        simp_all [eq_comm]
      · exact ih (.inr h)

end Logbook
