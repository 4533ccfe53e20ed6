import Mathlib.Data.Int.Order.Basic
import Mathlib.Data.Prod.Lex
import Logbook.Number.Arithmetic

/-!
# The order of doubles

Doubles are compared by sign, power of two and mantissa. All of them but the value that is no number
have a place in a linear order, in which both zeros share one place.

* `Double.place` — the place of a double.
* `Double.lt_iff` — one double is less than another exactly if both are numbers and its place comes
  first, so every comparison with a value that is no number fails.
-/

namespace Logbook

open Float.Model Float.Model.UnpackedFloat

namespace Double

/-- The place of what the word of a double unpacks to: the infinities at the ends, the zeros in the
middle, and other numbers by their power of two and mantissa, the mantissas being full unless the
power of two is the lowest. -/
def unpackedPlace : UnpackedFloat → Int ×ₗ Int ×ₗ Int
  | .infinity .negative => toLex (-2, toLex (0, 0))
  | .finite .negative m e _ => toLex (-1, toLex (-e, -m))
  | .notANumber | .zero _ => toLex (0, toLex (0, 0))
  | .finite .positive m e _ => toLex (1, toLex (e, m))
  | .infinity .positive => toLex (2, toLex (0, 0))

/-- The place of a double among all doubles. -/
def place (x : Float) : Int ×ₗ Int ×ₗ Int :=
  unpackedPlace x.toModel.unpack

variable {m m' : Nat} {e e' : Int}

theorem compare_then_eq_lt_iff :
    (compare e e').then (compare m m') = .lt ↔ e < e' ∨ e = e' ∧ m < m' := by
  rw [Ordering.then_eq_lt, compare_lt_iff_lt, compare_lt_iff_lt, compare_eq_iff_eq]

theorem compare_then_eq_gt_iff :
    (compare e e').then (compare m m') = .gt ↔ e' < e ∨ e = e' ∧ m' < m := by
  rw [Ordering.then_eq_gt, compare_gt_iff_gt, compare_gt_iff_gt, compare_eq_iff_eq]

theorem unpacked_lt_iff (u v : UnpackedFloat) :
    u.lt v = true ↔ u.isNaN = false ∧ v.isNaN = false ∧ unpackedPlace u < unpackedPlace v := by
  have hsigns : compare Sign.negative Sign.positive = .lt := rfl
  unfold UnpackedFloat.lt
  rw [beq_iff_eq]
  rcases u with (_ | _) | _ | _ | ⟨_ | _, m, e, hm⟩ <;>
    rcases v with (_ | _) | _ | _ | ⟨_ | _, m', e', hm'⟩ <;>
    dsimp only [UnpackedFloat.compare, unpackedPlace, UnpackedFloat.isNaN] <;>
    simp [Prod.Lex.toLex_lt_toLex, hsigns, compare_then_eq_lt_iff, compare_then_eq_gt_iff]

/-- One double is less than another if both are numbers and its place comes first. -/
theorem lt_iff (x y : Float) :
    Arithmetic.lt x y = true ↔
      Arithmetic.isNaN x = false ∧ Arithmetic.isNaN y = false ∧ place x < place y := by
  have hlt : Arithmetic.lt x y = true ↔ x.toModel.unpack.lt y.toModel.unpack = true := by
    show decide (decide (x.toModel.unpack.lt y.toModel.unpack = true) = true) = true ↔ _
    rw [decide_eq_true_eq, decide_eq_true_eq]
  rw [hlt, unpacked_lt_iff]
  rfl

/-- The same of the opposite order. -/
theorem gt_iff (x y : Float) :
    Arithmetic.lt y x = true ↔ Arithmetic.isNaN x = false ∧ Arithmetic.isNaN y = false ∧
      OrderDual.toDual (place x) < OrderDual.toDual (place y) := by
  rw [lt_iff, OrderDual.toDual_lt_toDual]
  exact and_left_comm

end Double

end Logbook
