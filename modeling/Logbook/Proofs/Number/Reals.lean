import Mathlib.Analysis.SpecialFunctions.Log.Basic
import Mathlib.Analysis.SpecialFunctions.Trigonometric.Basic
import Logbook.Proofs.Number.Exact

/-!
# Real numbers

Exact arithmetic with the real numbers, where roots, logarithms and sines are not rounded either.

* `ElementaryFunctions ℝ` — the functions; they lead out of the numbers where those of doubles do, and
  the logarithm of zero is minus infinity.
* `LawfulRoots ℝ` — numbers that are not negative have roots.
-/

namespace Logbook

noncomputable instance : ElementaryFunctions ℝ where
  sqrt x := if x < 0 then .nan else .number √x
  ln x := if x < 0 then .nan else if x = 0 then .negInfinity else .number (Real.log x)
  sin x := .number (Real.sin x)
  cos x := .number (Real.cos x)

instance : LawfulRoots ℝ where
  exists_root {x} hx := ⟨√x, if_neg hx.not_gt, Real.sqrt_nonneg x, Real.sq_sqrt hx⟩

end Logbook
