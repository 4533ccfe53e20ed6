import Logbook.Proofs.Formula.RowValues
import Logbook.Proofs.Outcome

/-!
# Which failure an evaluation reports

Many parts of a formula can fail at once. The evaluation reports the one that comes first when the
formula is read from left to right, a function before its operand.

* `Formula.failure?` — what can fail at the root of a formula: a function or a name that is unknown,
  a lookup that fails, and numbers that are too many or too few.
* `run_call_eq_error_iff`, `run_factorial_eq_error_iff`, `run_binary_eq_error_iff` — where the
  failure of a node comes from.
* `run_eq_error_iff_firstFailure` — an evaluation fails with the first failure of the parts.
* `run_eq_error_iff` — the same by the place of that part; without any failure there are values.
-/

namespace Logbook

namespace Formula

variable {answers : Answers} {c : Calculator} {e : FormulaError}

/-! ## Failures of single nodes -/

theorem run_call_eq_error_iff {g : String} {x : Formula} :
    (run answers (call g x) c).1 = .error e ↔
      NamedFunction.ofName? g = none ∧ e = .unknownFunction g ∨
      NamedFunction.ofName? g ≠ none ∧ (run answers x c).1 = .error e := by
  rw [run_call_fst]
  cases NamedFunction.ofName? g with
  | none => simp [eq_comm]
  | some h => simp [map_eq_error_iff]

theorem run_factorial_eq_error_iff {x : Formula} :
    (run answers (factorial x) c).1 = .error e ↔ (run answers x c).1 = .error e := by
  conv => lhs; unfold run evaluate
  rw [outcome_bind, show outcome (evaluate (m := Id) answers x) c = run answers x c from rfl]
  rcases run answers x c with ⟨err | xs, c₁⟩ <;> simp

/-- The right operand is reached only if the left one has values. -/
theorem run_binary_eq_error_iff {op : BinaryOperator} {l r : Formula} :
    (run answers (binary op l r) c).1 = .error e ↔ (run answers l c).1 = .error e ∨
      ∃ xs c₁, run answers l c = (.ok xs, c₁) ∧ (run answers r c₁).1 = .error e := by
  rw [run_binary_fst]
  rcases run answers l c with ⟨err | xs, c₁⟩
  · simp
  · rw [map_eq_error_iff]
    constructor
    · exact fun hr => .inr ⟨xs, c₁, rfl, hr⟩
    · rintro (hl | ⟨xs', c₂, heq, hr⟩)
      · cases hl
      · cases heq
        exact hr

/-! ## The first failure -/

/-- What fails at the root of a formula, apart from its operands: a function that is unknown, or a
name, unless it is that of a constant, that is not answered with one number for each row. -/
def failure? (answers : Answers) (rows : Nat) : Formula → Option FormulaError
  | named name =>
    if name = "PI" ∨ name = "E" ∨ name = "RANDOM" then none
    else
      match answers name with
      | .error reason => some (.unresolved name reason)
      | .ok none => some (.unknownVariable name)
      | .ok (some xs) =>
        if xs.length = rows then none else some (.lengthMismatch name rows xs.length)
  | call function _ =>
    match NamedFunction.ofName? function with
    | none => some (.unknownFunction function)
    | some _ => none
  | _ => none

/-- The first failure among the parts of a formula. -/
def firstFailure (answers : Answers) (rows : Nat) (f : Formula) : Option FormulaError :=
  f.parts.findSome? (failure? answers rows)

theorem firstFailure_named (name : String) (rows : Nat) :
    (named name).firstFailure answers rows = (named name).failure? answers rows :=
  List.findSome?_singleton

theorem firstFailure_call_of_none {g : String} (h : NamedFunction.ofName? g = none) (x : Formula)
    (rows : Nat) : (call g x).firstFailure answers rows = some (.unknownFunction g) := by
  simp [firstFailure, parts, failure?, h]

theorem firstFailure_call_of_some {g : String} {k : NamedFunction}
    (h : NamedFunction.ofName? g = some k) (x : Formula) (rows : Nat) :
    (call g x).firstFailure answers rows = x.firstFailure answers rows := by
  simp [firstFailure, parts, failure?, h]

theorem firstFailure_binary (op : BinaryOperator) (l r : Formula) (rows : Nat) :
    (binary op l r).firstFailure answers rows =
      (l.firstFailure answers rows).or (r.firstFailure answers rows) :=
  List.findSome?_append

theorem run_named_eq_error_iff {name : String} :
    (run answers (named name) c).1 = .error e ↔
      (named name).failure? answers c.rows = some e := by
  rcases NamedConstant.ofName?_cases name with ⟨rfl, h⟩ | ⟨rfl, h⟩ | ⟨rfl, h⟩ | ⟨hpi, he, h⟩
  · simp [run_named_constant h, failure?, NamedConstant.value?]
  · simp [run_named_constant h, failure?, NamedConstant.value?]
  · simp [run_named_constant h, failure?, NamedConstant.value?]
  · have hrandom : name ≠ "RANDOM" := by
      rintro rfl
      cases h
    rw [run_named h, failure?, if_neg (by simp [hpi, he, hrandom])]
    rcases answers name with reason | _ | xs
    · simp
    · simp
    · dsimp only
      split <;> simp

/-- **An evaluation fails with the first failure of the parts of the formula.** -/
theorem run_eq_error_iff_firstFailure {f : Formula} :
    (run answers f c).1 = .error e ↔ f.firstFailure answers c.rows = some e := by
  induction f generalizing c e with
  | constant value =>
    rw [run_constant]
    exact iff_of_false nofun nofun
  | named name => rw [run_named_eq_error_iff, firstFailure_named]
  | call g x ih =>
    rw [run_call_eq_error_iff, ih]
    cases h : NamedFunction.ofName? g with
    | none => simp [firstFailure_call_of_none h, eq_comm]
    | some k => simp [firstFailure_call_of_some h]
  | factorial x ih =>
    rw [run_factorial_eq_error_iff, ih]
    rfl
  | binary op l r ihl ihr =>
    rw [run_binary_eq_error_iff, ihl, firstFailure_binary, Option.or_eq_some_iff]
    refine or_congr_right ?_
    -- The right operand meets a calculator for the same number of rows.
    constructor
    · rintro ⟨xs, c₁, hl, hr⟩
      refine ⟨Option.eq_none_iff_forall_ne_some.2 fun err herr => ?_, run_rows hl ▸ ihr.1 hr⟩
      have hfails := ihl.2 herr
      rw [hl] at hfails
      cases hfails
    · rintro ⟨hnone, hr⟩
      rcases hl : run answers l c with ⟨err | xs, c₁⟩
      · have hfails := ihl.1 (congrArg Prod.fst hl)
        rw [hnone] at hfails
        cases hfails
      · exact ⟨xs, c₁, rfl, ihr.2 (run_rows hl ▸ hr)⟩

/-- A function is looked at before its operand, and the left operand before the right one. -/
example : (binary .sum (call "median" (named "x")) (named "y")).firstFailure (fun _ => .ok none) 1 =
    some (.unknownFunction "median") := by
  decide +kernel

/-- **The error of an evaluation is the first failure in reading order.** The parts of a formula are
listed from left to right, each before the parts of its operands. An evaluation fails with an error
iff that is the failure of some part before which no part fails, and it has values iff no part
fails, whatever the calculator has been used for. -/
theorem run_eq_error_iff (answers : Answers) (f : Formula) (c : Calculator) :
    (∀ e, (run answers f c).1 = .error e ↔ ∃ before part after,
      f.parts = before ++ part :: after ∧ part.failure? answers c.rows = some e ∧
        ∀ p ∈ before, p.failure? answers c.rows = none) ∧
    ((∃ xs, (run answers f c).1 = .ok xs) ↔ ∀ p ∈ f.parts, p.failure? answers c.rows = none) := by
  have hfails (e : FormulaError) :
      (run answers f c).1 = .error e ↔ f.firstFailure answers c.rows = some e :=
    run_eq_error_iff_firstFailure
  refine ⟨fun e => ?_, ?_⟩
  · rw [hfails, firstFailure, List.findSome?_eq_some_iff]
  · rw [← List.findSome?_eq_none_iff, ← firstFailure]
    cases hrun : (run answers f c).1 with
    | error e => simp [(hfails e).1 hrun]
    | ok xs =>
      refine iff_of_true ⟨xs, rfl⟩ (Option.eq_none_iff_forall_ne_some.2 fun e he => ?_)
      have herr := (hfails e).2 he
      rw [hrun] at herr
      cases herr

end Formula

end Logbook
