import Logbook.Proofs.Formula.Evaluation

/-!
# The value of a formula in one row

A formula is evaluated for all rows at once. What comes out in each row is the value of the formula
in that row.

* `Formula.valueAt` — the value of a formula in one row, with a number for each name.
* `Formula.Resolves` — every function and every name in the formula is known.
* `run_iff_resolves` — a formula without random numbers has values iff it resolves.
* `run_valueAt` — each row of the values is the value in that row.
* `evaluate_eq_valueAt` — both, for every sound calculator, which stays sound.
-/

namespace Logbook

/-- A name is that of a constant with a fixed value, that of a random number, or none of these. -/
theorem NamedConstant.ofName?_cases (name : String) :
    (name = "PI" ∧ NamedConstant.ofName? name = some .pi) ∨
      (name = "E" ∧ NamedConstant.ofName? name = some .e) ∨
      (name = "RANDOM" ∧ NamedConstant.ofName? name = some .random) ∨
      (name ≠ "PI" ∧ name ≠ "E" ∧ NamedConstant.ofName? name = none) := by
  unfold NamedConstant.ofName?
  split <;> simp_all

theorem NamedConstant.ofName?_eq_none {name : String} (hpi : name ≠ "PI") (he : name ≠ "E")
    (hrandom : name ≠ "RANDOM") : NamedConstant.ofName? name = none := by
  rcases ofName?_cases name with ⟨h, -⟩ | ⟨h, -⟩ | ⟨h, -⟩ | ⟨-, -, h⟩
  · exact absurd h hpi
  · exact absurd h he
  · exact absurd h hrandom
  · exact h

namespace Formula

/-! ## One row -/

/-- The value in a row where each name other than those of the constants has the number that `row`
gives it. There is none if a function or a name is unknown. -/
def valueAt (row : String → Option Float) : Formula → Option Float
  | constant value => some value
  | named name =>
    if name = "PI" then some 3.141592653589793
    else if name = "E" then some 2.718281828459045
    else row name
  | call function operand =>
    (NamedFunction.ofName? function).bind fun f => (operand.valueAt row).map f.apply
  | factorial operand => (operand.valueAt row).map Calculator.scalarFactorial
  | binary operator left right =>
    (left.valueAt row).bind fun a => (right.valueAt row).map (operator.apply a)

/-- The formula and all formulas in it. -/
def parts : Formula → List Formula
  | constant value => [constant value]
  | named name => [named name]
  | call function operand => call function operand :: operand.parts
  | factorial operand => factorial operand :: operand.parts
  | binary operator left right => binary operator left right :: (left.parts ++ right.parts)

/-- The number of a name in the row `i`. -/
def Answers.entry (answers : Answers) (i : Nat) (name : String) : Option Float :=
  match answers name with
  | .ok (some xs) => xs[i]?
  | _ => none

/-- What a formula needs at its root: a function is known, and a name, constants apart, is answered
with one number per row. -/
def Known (answers : Answers) (rows : Nat) : Formula → Prop
  | named name => name ≠ "PI" → name ≠ "E" →
    ∃ xs, answers name = .ok (some xs) ∧ xs.length = rows
  | call function _ => NamedFunction.ofName? function ≠ none
  | _ => True

/-- Every function and every name in the formula is known. -/
def Resolves (answers : Answers) (rows : Nat) (f : Formula) : Prop :=
  ∀ p ∈ f.parts, p.Known answers rows

/-- The formula draws no random numbers. -/
def Determined (f : Formula) : Prop :=
  named "RANDOM" ∉ f.parts

variable {answers : Answers} {c c' : Calculator}

/-! ## Success and values -/

theorem resolves_constant (value : Float) (rows : Nat) :
    Resolves answers rows (constant value) :=
  List.forall_mem_singleton.2 trivial

theorem resolves_named_iff {name : String} {rows : Nat} :
    Resolves answers rows (named name) ↔ Known answers rows (named name) :=
  List.forall_mem_singleton

theorem resolves_call_iff {g : String} {x : Formula} {rows : Nat} :
    Resolves answers rows (call g x) ↔
      NamedFunction.ofName? g ≠ none ∧ Resolves answers rows x :=
  List.forall_mem_cons

theorem resolves_factorial_iff {x : Formula} {rows : Nat} :
    Resolves answers rows (factorial x) ↔ Resolves answers rows x :=
  List.forall_mem_cons.trans (and_iff_right trivial)

theorem resolves_binary_iff {op : BinaryOperator} {l r : Formula} {rows : Nat} :
    Resolves answers rows (binary op l r) ↔
      Resolves answers rows l ∧ Resolves answers rows r :=
  List.forall_mem_cons.trans ((and_iff_right trivial).trans List.forall_mem_append)

theorem determined_named_iff {name : String} : Determined (named name) ↔ name ≠ "RANDOM" := by
  change named "RANDOM" ∉ [named name] ↔ name ≠ "RANDOM"
  simp [eq_comm]

theorem determined_call_iff {g : String} {x : Formula} :
    Determined (call g x) ↔ Determined x :=
  not_congr (List.mem_cons.trans (or_iff_right nofun))

theorem determined_factorial_iff {x : Formula} : Determined (factorial x) ↔ Determined x :=
  not_congr (List.mem_cons.trans (or_iff_right nofun))

theorem determined_binary_iff {op : BinaryOperator} {l r : Formula} :
    Determined (binary op l r) ↔ Determined l ∧ Determined r := by
  change named "RANDOM" ∉ binary op l r :: (l.parts ++ r.parts) ↔ _
  rw [List.mem_cons, or_iff_right nofun, List.mem_append, not_or]
  rfl

/-- A name other than `RANDOM` has values iff it is known. -/
theorem run_named_iff_known {name : String} (hr : name ≠ "RANDOM") :
    (∃ xs c', run answers (named name) c = (.ok xs, c')) ↔ Known answers c.rows (named name) := by
  rcases NamedConstant.ofName?_cases name with ⟨rfl, h⟩ | ⟨rfl, h⟩ | ⟨rfl, h⟩ | ⟨hpi, he, h⟩
  · rw [run_named_constant h]
    simp [Known, NamedConstant.value?]
  · rw [run_named_constant h]
    simp [Known, NamedConstant.value?]
  · exact absurd rfl hr
  · rw [run_named h]
    rcases hans : answers name with reason | _ | xs
    · simp [Known, hpi, he, hans]
    · simp [Known, hpi, he, hans]
    · by_cases hlen : xs.length = c.rows
      · simp [Known, hpi, he, hans, hlen]
      · simp [Known, hpi, he, hans, hlen]

/-- A formula without random numbers has values iff all that occurs in it is known. Although the
evaluation stops at the first failure, it cannot go past any. -/
theorem run_iff_resolves {f : Formula} (hf : Determined f) :
    (∃ xs c', run answers f c = (.ok xs, c')) ↔ Resolves answers c.rows f := by
  induction f generalizing c with
  | constant value =>
    rw [run_constant]
    exact iff_of_true ⟨_, _, rfl⟩ (resolves_constant value c.rows)
  | named name =>
    rw [resolves_named_iff]
    exact run_named_iff_known (determined_named_iff.mp hf)
  | call g x ih =>
    rw [resolves_call_iff, ← ih (determined_call_iff.mp hf)]
    simp only [run_call_eq_ok_iff]
    constructor
    · rintro ⟨ys, c', h, xs, hg, hx, -⟩
      exact ⟨by simp [hg], xs, c', hx⟩
    · rintro ⟨hg, xs, c', hx⟩
      obtain ⟨h, hg⟩ := Option.ne_none_iff_exists'.mp hg
      exact ⟨_, c', h, xs, hg, hx, rfl⟩
  | factorial x ih =>
    rw [resolves_factorial_iff, ← ih (determined_factorial_iff.mp hf)]
    simp only [run_factorial_eq_ok_iff]
    constructor
    · rintro ⟨ys, c', xs, c₁, hx, -⟩
      exact ⟨xs, c₁, hx⟩
    · rintro ⟨xs, c₁, hx⟩
      exact ⟨_, _, xs, c₁, hx, rfl⟩
  | binary op l r ihl ihr =>
    obtain ⟨hfl, hfr⟩ := determined_binary_iff.mp hf
    rw [resolves_binary_iff, ← ihl hfl]
    simp only [run_binary_eq_ok_iff]
    -- The right operand is evaluated by the calculator that the left one leaves.
    constructor
    · rintro ⟨zs, c', xs, c₁, ys, hl, hr, -⟩
      exact ⟨⟨xs, c₁, hl⟩, run_rows hl ▸ (ihr hfr).mp ⟨ys, c', hr⟩⟩
    · rintro ⟨⟨xs, c₁, hl⟩, hres⟩
      obtain ⟨ys, c', hr⟩ := (ihr hfr).mpr (run_rows hl ▸ hres)
      exact ⟨_, c', xs, c₁, ys, hl, hr, rfl⟩

/-- The number of a known name in a row. -/
theorem run_named_valueAt {name : String} (hr : name ≠ "RANDOM") {xs : List Float}
    (h : run answers (named name) c = (.ok xs, c')) {i : Nat} (hi : i < c.rows) :
    xs[i]? = (named name).valueAt (answers.entry i) := by
  rcases NamedConstant.ofName?_cases name with ⟨rfl, hk⟩ | ⟨rfl, hk⟩ | ⟨rfl, hk⟩ | ⟨hpi, he, hk⟩
  · rw [run_named_constant hk] at h
    cases h
    simp [valueAt, hi, NamedFunction.pi]
  · rw [run_named_constant hk] at h
    cases h
    simp [valueAt, hi]
  · exact absurd rfl hr
  · rw [run_named hk] at h
    split at h
    · cases h
    · cases h
    · rename_i ys hans
      split at h
      · cases h
        simp [valueAt, hpi, he, Answers.entry, hans]
      · cases h

/-- Each row of the values of a formula is the value of the formula in that row. -/
theorem run_valueAt {f : Formula} (hc : c.Sound) (hf : Determined f) {xs : List Float}
    (h : run answers f c = (.ok xs, c')) {i : Nat} (hi : i < c.rows) :
    xs[i]? = f.valueAt (answers.entry i) := by
  induction f generalizing c c' xs with
  | constant value =>
    rw [run_constant] at h
    cases h
    simp [valueAt, hi]
  | named name =>
    exact run_named_valueAt (determined_named_iff.mp hf) h hi
  | call g x ih =>
    obtain ⟨f, ys, hg, hx, rfl⟩ := run_call_eq_ok_iff.mp h
    rw [List.getElem?_map, ih hc (determined_call_iff.mp hf) hx hi, valueAt, hg]
    rfl
  | factorial x ih =>
    obtain ⟨ys, c₁, hx, hy⟩ := run_factorial_eq_ok_iff.mp h
    have hxs := (run_sound hx hc).factorialsOf ys
    rw [hy] at hxs
    subst hxs
    rw [List.getElem?_map, ih hc (determined_factorial_iff.mp hf) hx hi, valueAt]
  | binary op l r ihl ihr =>
    obtain ⟨hfl, hfr⟩ := determined_binary_iff.mp hf
    obtain ⟨ys, c₁, zs, hl, hr, rfl⟩ := run_binary_eq_ok_iff.mp h
    have hly := ihl hc hfl hl hi
    have hrz := ihr (run_sound hl hc) hfr hr (run_rows hl ▸ hi)
    rw [List.getElem?_zipWith, hly, hrz, valueAt]
    cases l.valueAt (answers.entry i) <;> cases r.valueAt (answers.entry i) <;> rfl

/-- **Evaluating all rows at once is evaluating each row.** With a sound calculator and without
random numbers, a formula has values iff each function and each name in it is known. They are then
one for each row, and each is the value of the formula in that row. Every operator meets two lists
as long as there are rows, so none is cut short, and the calculator stays sound. -/
theorem evaluate_eq_valueAt (answers : Answers) (f : Formula) (c : Calculator) (hc : c.Sound)
    (hf : Determined f) :
    ((∃ xs, (run answers f c).1 = .ok xs) ↔ Resolves answers c.rows f) ∧
    (∀ xs, (run answers f c).1 = .ok xs →
      xs.length = c.rows ∧ ∀ i < c.rows, xs[i]? = f.valueAt (answers.entry i)) ∧
    (∀ op l r, binary op l r ∈ f.parts → ∀ c₁ zs c₂, c₁.rows = c.rows →
      run answers (binary op l r) c₁ = (.ok zs, c₂) →
      ∃ xs c' ys, run answers l c₁ = (.ok xs, c') ∧ run answers r c' = (.ok ys, c₂) ∧
        xs.length = c.rows ∧ ys.length = c.rows ∧ zs = List.zipWith op.apply xs ys) ∧
    (run answers f c).2.Sound ∧ (run answers f c).2.rows = c.rows := by
  rcases h : run answers f c with ⟨r, c'⟩
  refine ⟨?_, ?_, ?_, run_sound h hc, run_rows h⟩
  · rw [← run_iff_resolves hf, h]
    simp
  · rintro xs ⟨⟩
    exact ⟨evaluate_length h, fun i hi => run_valueAt hc hf h hi⟩
  · intro op l r _ c₁ zs c₂ hrows hz
    obtain ⟨xs, c', ys, hl, hr, rfl⟩ := run_binary_eq_ok_iff.mp hz
    refine ⟨xs, c', ys, hl, hr, ?_, ?_, rfl⟩
    · rw [evaluate_length hl, hrows]
    · rw [evaluate_length hr, run_rows hl, hrows]

/-- Two rows of the formula `A! * abs(PI)`. -/
theorem evaluate_eq_valueAt_twoRows :
    let answers : Answers := fun name =>
      if name = "A" then .ok (some [3.0, 4.5]) else .ok none
    let f := binary .product (factorial (named "A")) (call "abs" (named "PI"))
    let c := Calculator.initial 2 ⟨0⟩
    c.Sound ∧ Determined f ∧ ∃ xs, (run answers f c).1 = .ok xs ∧ xs.length = 2 ∧
      ∀ i < 2, xs[i]? = f.valueAt (answers.entry i) := by
  intro answers f c
  have hc : c.Sound := Calculator.initial_sound 2 ⟨0⟩
  have hf : Determined f := by simp [f, Determined, parts]
  have habs : NamedFunction.ofName? "abs" = some .abs := by decide +kernel
  have h := evaluate_eq_valueAt answers f c hc hf
  have hres : Resolves answers c.rows f := by
    simp [f, answers, c, Resolves, parts, Known, habs, Calculator.initial]
  obtain ⟨xs, hxs⟩ := h.1.mpr hres
  exact ⟨hc, hf, xs, hxs, h.2.1 xs hxs⟩

end Formula

end Logbook
