import Mathlib.Algebra.BigOperators.Group.List.Basic
import Mathlib.Algebra.Order.Field.Basic
import Logbook.Number.Arithmetic

/-!
# Exact arithmetic

Statistics read without rounding: their numbers are those of an ordered field, and beside them stand
the two infinities and the value that is no number, which division by zero leads to as it does with
doubles.

* `Exact` — a number of the field or one of the three other values.
* `ElementaryFunctions` — the roots, logarithms and sines of a field, which need not lie in it;
  `LawfulRoots` says that the roots do.
* `instArithmetic` — the operations. On numbers they are those of the field (`number_add`,
  `number_div` and so on), but for division by zero.
* `isFinite_iff`, `exists_map_number` — the finite values are the numbers.
* `sum_eq` — the sum from left to right is the sum of any order, and `sum_eq_nan_iff` tells when it is no
  number.
-/

namespace Logbook

/-- A number of a field, or one of the values that doubles have beside numbers. There is one zero,
so nothing is told of the sign of a zero. -/
inductive Exact (K : Type) where
  | number (x : K)
  | infinity
  | negInfinity
  | nan
deriving DecidableEq

/-- Functions on the numbers of a field that the field operations do not give. -/
class ElementaryFunctions (K : Type) where
  sqrt : K → Exact K
  ln : K → Exact K
  sin : K → Exact K
  cos : K → Exact K

/-- The rational numbers come without such functions. -/
instance : ElementaryFunctions ℚ where
  sqrt _ := .nan
  ln _ := .nan
  sin _ := .nan
  cos _ := .nan

/-- Numbers that are not negative have roots that are not negative. -/
class LawfulRoots (K : Type) [Field K] [LinearOrder K] [ElementaryFunctions K] : Prop where
  exists_root : ∀ {x : K}, 0 ≤ x →
    ∃ r : K, ElementaryFunctions.sqrt x = .number r ∧ 0 ≤ r ∧ r ^ 2 = x

namespace Exact

variable {K : Type} [Field K] {x y : K}

/-! ## Sums and differences -/

/-- The value with the opposite sign. -/
def opposite : Exact K → Exact K
  | number x => number (-x)
  | infinity => negInfinity
  | negInfinity => infinity
  | nan => nan

instance : Add (Exact K) where
  add
    | number x, number y => number (x + y)
    | infinity, number _ | infinity, infinity | number _, infinity => infinity
    | negInfinity, number _ | negInfinity, negInfinity | number _, negInfinity => negInfinity
    | _, _ => nan

instance : Sub (Exact K) where
  sub x y := x + y.opposite

@[simp] theorem number_add : (number x + number y : Exact K) = number (x + y) := rfl

@[simp] theorem number_sub : (number x - number y : Exact K) = number (x - y) := by
  rw [sub_eq_add_neg]
  rfl

instance : Zero (Exact K) where
  zero := number 0

/-- Sums depend neither on the order of the summands nor on brackets: an infinity absorbs numbers, and
what is no number absorbs all else. -/
instance : AddCommMonoid (Exact K) where
  nsmul := nsmulRec
  add_assoc x y z := by
    cases x <;> cases y <;> cases z <;> try rfl
    exact congrArg number (add_assoc _ _ _)
  zero_add x := by
    cases x <;> try rfl
    exact congrArg number (zero_add _)
  add_zero x := by
    cases x <;> try rfl
    exact congrArg number (add_zero _)
  add_comm x y := by
    cases x <;> cases y <;> try rfl
    exact congrArg number (add_comm _ _)

/-! ## Sums of lists -/

section Sums

variable {xs : List (Exact K)}

theorem nan_add (v : Exact K) : nan + v = nan := by
  cases v <;> rfl

theorem sum_of_nan_mem (h : nan ∈ xs) : xs.sum = nan := by
  classical
  rw [(List.perm_cons_erase h).sum_eq, List.sum_cons, nan_add]

/-- Infinities of both signs cancel out to no number, wherever they stand. -/
theorem sum_of_infinities_mem (hinf : infinity ∈ xs) (hneg : negInfinity ∈ xs) : xs.sum = nan := by
  classical
  have hrest : negInfinity ∈ xs.erase infinity := (List.mem_erase_of_ne (by simp)).2 hneg
  have hopposite : (infinity + negInfinity : Exact K) = nan := rfl
  rw [(List.perm_cons_erase hinf).sum_eq, List.sum_cons, (List.perm_cons_erase hrest).sum_eq,
    List.sum_cons, ← add_assoc, hopposite, nan_add]

/-- Numbers and one of the infinities add up to such a value again. -/
theorem sum_of_one_infinity {v : Exact K} (hv : v = infinity ∨ v = negInfinity)
    (h : ∀ u ∈ xs, u = v ∨ ∃ x, u = number x) : xs.sum = v ∨ ∃ x, xs.sum = number x := by
  refine List.sum_induction (fun u => u = v ∨ ∃ x, u = number x) ?_ (.inr ⟨0, rfl⟩) h
  rintro a b (rfl | ⟨x, rfl⟩) (rfl | ⟨y, rfl⟩)
  · rcases hv with rfl | rfl <;> exact .inl rfl
  · rcases hv with rfl | rfl <;> exact .inl rfl
  · rcases hv with rfl | rfl <;> exact .inl rfl
  · exact .inr ⟨x + y, rfl⟩

/-- What is no number comes out of a sum only if it or both infinities have gone in. -/
theorem sum_eq_nan_iff : xs.sum = nan ↔ nan ∈ xs ∨ infinity ∈ xs ∧ negInfinity ∈ xs := by
  constructor
  · intro hsum
    by_contra hnone
    obtain ⟨hnan, hone⟩ := not_or.1 hnone
    -- Only one of the infinities can be among the values, and sums do not lead out of such values.
    obtain ⟨v, hv, hvalues⟩ : ∃ v : Exact K, (v = infinity ∨ v = negInfinity) ∧
        ∀ u ∈ xs, u = v ∨ ∃ x, u = number x := by
      by_cases hinf : infinity ∈ xs
      · refine ⟨infinity, .inl rfl, fun u hu => ?_⟩
        cases u with
        | number x => exact .inr ⟨x, rfl⟩
        | infinity => exact .inl rfl
        | negInfinity => exact absurd ⟨hinf, hu⟩ hone
        | nan => exact absurd hu hnan
      · refine ⟨negInfinity, .inr rfl, fun u hu => ?_⟩
        cases u with
        | number x => exact .inr ⟨x, rfl⟩
        | infinity => exact absurd hu hinf
        | negInfinity => exact .inl rfl
        | nan => exact absurd hu hnan
    rcases sum_of_one_infinity hv hvalues with h | ⟨x, h⟩
    · rw [hsum] at h
      rcases hv with rfl | rfl <;> cases h
    · rw [hsum] at h
      cases h
  · rintro (h | ⟨hinf, hneg⟩)
    · exact sum_of_nan_mem h
    · exact sum_of_infinities_mem hinf hneg

end Sums

variable [LinearOrder K]

/-! ## Products and quotients -/

/-- The infinity with the sign of a number; no number for zero. -/
def infinityOf (x : K) : Exact K :=
  if 0 < x then infinity else if x < 0 then negInfinity else nan

instance : Mul (Exact K) where
  mul
    | number x, number y => number (x * y)
    | number x, infinity | infinity, number x => infinityOf x
    | number x, negInfinity | negInfinity, number x => infinityOf (-x)
    | infinity, infinity | negInfinity, negInfinity => infinity
    | infinity, negInfinity | negInfinity, infinity => negInfinity
    | _, _ => nan

instance : Div (Exact K) where
  div
    | number x, number y => if y = 0 then infinityOf x else number (x / y)
    | number _, infinity | number _, negInfinity => number 0
    | infinity, number y => if y < 0 then negInfinity else infinity
    | negInfinity, number y => if y < 0 then infinity else negInfinity
    | _, _ => nan

@[simp] theorem number_mul : (number x * number y : Exact K) = number (x * y) := rfl

theorem number_div (hy : y ≠ 0) : (number x / number y : Exact K) = number (x / y) :=
  if_neg hy

/-! ## Comparisons -/

/-- The strict order; a value that is no number is in order with none. -/
def less : Exact K → Exact K → Bool
  | number x, number y => decide (x < y)
  | number _, infinity | negInfinity, number _ | negInfinity, infinity => true
  | _, _ => false

/-- Equality of numbers and infinities; a value that is no number is not equal to itself. -/
def same : Exact K → Exact K → Bool
  | number x, number y => decide (x = y)
  | infinity, infinity | negInfinity, negInfinity => true
  | _, _ => false

/-! ## The operations together -/

variable [ElementaryFunctions K]

instance instArithmetic : Arithmetic (Exact K) where
  ofNat n := number n
  emptySum := number 0
  nan := nan
  infinity := infinity
  negInfinity := negInfinity
  isNaN
    | nan => true
    | _ => false
  isFinite
    | number _ => true
    | _ => false
  lt := less
  le x y := less x y || same x y
  eq := same
  sqrt
    | number x => ElementaryFunctions.sqrt x
    | infinity => infinity
    | _ => nan
  ln
    | number x => ElementaryFunctions.ln x
    | infinity => infinity
    | _ => nan
  sin
    | number x => ElementaryFunctions.sin x
    | _ => nan
  cos
    | number x => ElementaryFunctions.cos x
    | _ => nan

@[simp] theorem ofNat_eq (n : Nat) : (Arithmetic.ofNat n : Exact K) = number (n : K) := rfl

theorem ofNat_div_ofNat [CharZero K] (m : Nat) {n : Nat} (hn : n ≠ 0) :
    (Arithmetic.ofNat m / Arithmetic.ofNat n : Exact K) = number ((m : K) / n) :=
  number_div (Nat.cast_ne_zero.2 hn)

@[simp] theorem lt_number : Arithmetic.lt (number x) (number y) = decide (x < y) := rfl

@[simp] theorem eq_number : Arithmetic.eq (number x) (number y) = decide (x = y) := rfl

@[simp] theorem le_number : Arithmetic.le (number x) (number y) = decide (x ≤ y) := by
  change (decide (x < y) || decide (x = y)) = decide (x ≤ y)
  rw [← Bool.decide_or, decide_eq_decide]
  exact le_iff_lt_or_eq.symm

theorem le_of_lt {u v : Exact K} (h : Arithmetic.lt u v = true) : Arithmetic.le u v = true :=
  Bool.or_eq_true_iff.2 (.inl h)

theorem le_trans {u v w : Exact K} (huv : Arithmetic.le u v = true)
    (hvw : Arithmetic.le v w = true) : Arithmetic.le u w = true := by
  cases u <;> cases v <;> cases w <;>
    first
    | rfl
    | exact absurd huv Bool.false_ne_true
    | exact absurd hvw Bool.false_ne_true
    | simp only [le_number, decide_eq_true_eq] at *
      exact huv.trans hvw

theorem lt_of_le_of_lt {u v w : Exact K} (huv : Arithmetic.le u v = true)
    (hvw : Arithmetic.lt v w = true) : Arithmetic.lt u w = true := by
  cases u <;> cases v <;> cases w <;>
    first
    | rfl
    | exact absurd huv Bool.false_ne_true
    | exact absurd hvw Bool.false_ne_true
    | simp only [le_number, lt_number, decide_eq_true_eq] at *
      exact huv.trans_lt hvw

theorem lt_eq_false_of_le {u v : Exact K} (h : Arithmetic.le u v = true) :
    Arithmetic.lt v u = false := by
  cases u <;> cases v <;>
    first
    | rfl
    | exact absurd h Bool.false_ne_true
    | simpa using h

/-- Only numbers and infinities are in order with any value. -/
theorem isNaN_eq_false_of_le {u v : Exact K} (h : Arithmetic.le u v = true) :
    Arithmetic.isNaN u = false ∧ Arithmetic.isNaN v = false := by
  cases u <;> cases v <;> first | exact ⟨rfl, rfl⟩ | exact absurd h Bool.false_ne_true

/-- What lies between numbers is a number. -/
theorem exists_number_of_between {v : Exact K} (hx : Arithmetic.le (number x) v = true)
    (hy : Arithmetic.lt v (number y) = true) : ∃ a, v = number a ∧ x ≤ a ∧ a < y := by
  cases v with
  | number a => exact ⟨a, rfl, by simpa using hx, by simpa using hy⟩
  | infinity => exact absurd hy Bool.false_ne_true
  | negInfinity => exact absurd hx Bool.false_ne_true
  | nan => exact absurd hx Bool.false_ne_true

theorem isNaN_iff {v : Exact K} : Arithmetic.isNaN v = true ↔ v = nan := by
  cases v <;> simp [Arithmetic.isNaN]

@[simp] theorem isFinite_number : Arithmetic.isFinite (number x) = true := rfl

/-- The finite values are the numbers. -/
theorem isFinite_iff {v : Exact K} : Arithmetic.isFinite v = true ↔ ∃ x, v = number x := by
  cases v <;> simp [Arithmetic.isFinite]

theorem isNaN_add {u v : Exact K} (hu : Arithmetic.isNaN u = false)
    (hv : Arithmetic.isFinite v = true) : Arithmetic.isNaN (u + v) = false := by
  obtain ⟨x, rfl⟩ := isFinite_iff.1 hv
  cases u <;> first | rfl | cases hu

/-- A list of finite values is a list of numbers. -/
theorem exists_map_number {values : List (Exact K)}
    (hfin : ∀ v ∈ values, Arithmetic.isFinite v = true) : ∃ xs : List K, values = xs.map number := by
  induction values with
  | nil => exact ⟨[], rfl⟩
  | cons v values ih =>
    obtain ⟨x, rfl⟩ := isFinite_iff.1 (hfin v List.mem_cons_self)
    obtain ⟨xs, rfl⟩ := ih fun u hu => hfin u (List.mem_cons_of_mem _ hu)
    exact ⟨x :: xs, rfl⟩

theorem sum_eq (xs : List (Exact K)) : Arithmetic.sum xs = xs.sum :=
  List.sum_eq_foldl.symm

end Exact

end Logbook
