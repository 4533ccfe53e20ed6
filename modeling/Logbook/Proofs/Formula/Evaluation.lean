import Logbook.Formula.Calculator

/-!
# Running the evaluation of a formula

What an evaluation whose lookup has no effects comes to, and what it does to the calculator.

* `Formula.run` — the outcome of a formula and the calculator after it, with one lemma for each
  constructor that says when and how it succeeds.
* `Calculator.Sound` — the table of factorials holds the products of the first numbers and nothing
  else; `Sound.factorial` reads a factorial off it.
* `evaluate_keeps` — whatever neither a draw of random numbers nor a factorial can break survives
  every evaluation, whether it succeeds or fails: a sound table, and the number of rows.
* `evaluate_length` — a formula that has values has one for each row.
-/

namespace Logbook

/-! ## Outcomes -/

namespace Formula

/-- What a name is answered with: a failure, nothing, or its numbers. -/
abbrev Answers := String → Except String (Option (List Float))

/-- The outcome of an evaluation whose lookup has no effects, and the calculator after it. -/
def outcome {α : Type} (e : Evaluation Id α) (c : Calculator) :
    Except FormulaError α × Calculator :=
  runWith c e

section

variable {α β : Type} {c c' : Calculator} {e : Evaluation Id α} {k : α → Evaluation Id β}

theorem outcome_bind (e : Evaluation Id α) (k : α → Evaluation Id β) (c : Calculator) :
    outcome (e >>= k) c =
      match outcome e c with
      | (.ok a, c) => outcome (k a) c
      | (.error err, c) => (.error err, c) := by
  show (fun p : Except FormulaError α × Calculator => ExceptT.bindCont k p.1 p.2) (outcome e c) = _
  rcases outcome e c with ⟨_ | a, c'⟩ <;> rfl

theorem outcome_bind_of_ok {a : α} (h : outcome e c = (.ok a, c')) :
    outcome (e >>= k) c = outcome (k a) c' := by
  rw [outcome_bind, h]

theorem outcome_bind_of_error {err : FormulaError} (h : outcome e c = (.error err, c')) :
    outcome (e >>= k) c = (.error err, c') := by
  rw [outcome_bind, h]

/-- A computation in two steps succeeds iff both steps do, one after the other. -/
theorem outcome_bind_eq_ok_iff {b : β} :
    outcome (e >>= k) c = (.ok b, c') ↔
      ∃ a c₁, outcome e c = (.ok a, c₁) ∧ outcome (k a) c₁ = (.ok b, c') := by
  rcases h : outcome e c with ⟨err | a, c₁⟩
  · rw [outcome_bind_of_error h]
    constructor
    · intro h'
      cases h'
    · rintro ⟨a, c₂, h', -⟩
      cases h'
  · rw [outcome_bind_of_ok h]
    constructor
    · intro h'
      exact ⟨a, c₁, rfl, h'⟩
    · rintro ⟨a', c₂, h', hk⟩
      cases h'
      exact hk

@[simp] theorem outcome_throw (err : FormulaError) (c : Calculator) :
    outcome (throw err : Evaluation Id α) c = (.error err, c) := rfl

@[simp] theorem outcome_get (c : Calculator) :
    outcome (get : Evaluation Id Calculator) c = (.ok c, c) := rfl

@[simp] theorem outcome_modifyGet (g : Calculator → α × Calculator) (c : Calculator) :
    outcome (modifyGet g : Evaluation Id α) c = (.ok (g c).1, (g c).2) := rfl

@[simp] theorem outcome_lift (a : Id α) (c : Calculator) :
    outcome (ExceptT.lift (StateT.lift a) : Evaluation Id α) c = (.ok a, c) := rfl

end

/-- The outcome of a formula whose names are answered by `answers`, and the calculator after it. -/
def run (answers : Answers) (f : Formula) (c : Calculator) :
    Except FormulaError (List Float) × Calculator :=
  outcome (evaluate (m := Id) answers f) c

variable {answers : Answers} {c c' : Calculator} {rows : Nat}

theorem run_constant (value : Float) :
    run answers (constant value) c = (.ok (List.replicate c.rows value), c) := rfl

theorem run_named_constant {name : String} {k : NamedConstant} (h : NamedConstant.ofName? name = some k) :
    run answers (named name) c = match k.value? with
      | some x => (.ok (List.replicate c.rows x), c)
      | none => (.ok (c.sampler.take c.rows).1,
          { c with sampler := (c.sampler.take c.rows).2 }) := by
  unfold run evaluate namedValues
  rw [h]
  cases k <;> rfl

theorem run_named {name : String} (h : NamedConstant.ofName? name = none) :
    run answers (named name) c = match answers name with
      | .error reason => (.error (.unresolved name reason), c)
      | .ok none => (.error (.unknownVariable name), c)
      | .ok (some xs) =>
        if xs.length = c.rows then (.ok xs, c)
        else (.error (.lengthMismatch name c.rows xs.length), c) := by
  unfold run evaluate namedValues
  rw [h]
  dsimp only
  rw [outcome_bind_of_ok (outcome_lift _ _)]
  rcases answers name with reason | _ | xs
  · rfl
  · rfl
  · dsimp only
    rw [outcome_bind_of_ok (outcome_get _)]
    split <;> rfl

theorem run_call_eq_ok_iff {g : String} {x : Formula} {ys : List Float} :
    run answers (call g x) c = (.ok ys, c') ↔ ∃ h xs, NamedFunction.ofName? g = some h ∧
      run answers x c = (.ok xs, c') ∧ ys = xs.map h.apply := by
  conv => lhs; unfold run evaluate
  cases NamedFunction.ofName? g with
  | none =>
    simp
  | some h =>
    dsimp only
    rw [outcome_bind_eq_ok_iff]
    constructor
    · rintro ⟨xs, c₁, hx, hk⟩
      cases hk
      exact ⟨h, xs, rfl, hx, rfl⟩
    · rintro ⟨h', xs, hh, hx, rfl⟩
      cases hh
      exact ⟨xs, c', hx, rfl⟩

theorem run_factorial_eq_ok_iff {x : Formula} {ys : List Float} :
    run answers (factorial x) c = (.ok ys, c') ↔ ∃ xs c₁, run answers x c = (.ok xs, c₁) ∧
      Calculator.factorialsOf xs c₁ = (ys, c') := by
  conv => lhs; unfold run evaluate
  rw [outcome_bind_eq_ok_iff]
  constructor
  · rintro ⟨xs, c₁, hx, hk⟩
    cases hk
    exact ⟨xs, c₁, hx, rfl⟩
  · rintro ⟨xs, c₁, hx, hk⟩
    refine ⟨xs, c₁, hx, ?_⟩
    rw [outcome_modifyGet, hk]

theorem run_binary_eq_ok_iff {op : BinaryOperator} {l r : Formula} {zs : List Float} :
    run answers (binary op l r) c = (.ok zs, c') ↔ ∃ xs c₁ ys, run answers l c = (.ok xs, c₁) ∧
      run answers r c₁ = (.ok ys, c') ∧ zs = List.zipWith op.apply xs ys := by
  conv => lhs; unfold run evaluate
  rw [outcome_bind_eq_ok_iff]
  constructor
  · rintro ⟨xs, c₁, hl, hk⟩
    rw [outcome_bind_eq_ok_iff] at hk
    obtain ⟨ys, c₂, hr, hz⟩ := hk
    cases hz
    exact ⟨xs, c₁, ys, hl, hr, rfl⟩
  · rintro ⟨xs, c₁, ys, hl, hr, rfl⟩
    refine ⟨xs, c₁, hl, ?_⟩
    rw [outcome_bind_of_ok hr]
    rfl

/-! The same without the calculator that is left. -/

theorem run_call_fst (g : String) (x : Formula) (c : Calculator) :
    (run answers (call g x) c).1 =
      match NamedFunction.ofName? g with
      | none => .error (.unknownFunction g)
      | some h => (run answers x c).1.map (List.map h.apply) := by
  conv => lhs; unfold run evaluate
  cases NamedFunction.ofName? g with
  | none => rfl
  | some h =>
    dsimp only
    rw [outcome_bind]
    unfold run
    rcases outcome (evaluate (m := Id) answers x) c with ⟨_ | xs, c'⟩ <;> rfl

theorem run_binary_fst (op : BinaryOperator) (l r : Formula) (c : Calculator) :
    (run answers (binary op l r) c).1 =
      match run answers l c with
      | (.error e, _) => .error e
      | (.ok xs, c') => (run answers r c').1.map (List.zipWith op.apply xs) := by
  conv => lhs; unfold run evaluate
  rw [outcome_bind]
  unfold run
  rcases outcome (evaluate (m := Id) answers l) c with ⟨e | xs, c'⟩
  · rfl
  · dsimp only
    rw [outcome_bind]
    rcases outcome (evaluate (m := Id) answers r) c' with ⟨e | ys, c''⟩ <;> rfl

end Formula

/-! ## The table of factorials -/

namespace Calculator

/-- The product of the numbers from 1 to `n`, multiplied in this order. -/
def factorialProduct : (n : Nat) → Float
  | 0 => 1.0
  | n + 1 => factorialProduct n * Float.ofNat (n + 1)

/-- The factorial of the whole part of `x`, without a table. -/
def scalarFactorial (x : Float) : Float :=
  if x.isNaN || x < 0.0 then 0.0 / 0.0
  else if maxFactorial < x.toUInt64.toNat then 1.0 / 0.0
  else factorialProduct x.toUInt64.toNat

/-- The table of factorials starts with that of 0 and goes no further than the greatest finite one,
and every entry is the product of the numbers up to its place. -/
structure Sound (c : Calculator) : Prop where
  nonempty : 0 < c.factorials.size
  bounded : c.factorials.size ≤ maxFactorial + 1
  entry : ∀ i < c.factorials.size, c.factorials[i]? = some (factorialProduct i)

theorem initial_sound (rows : Nat) (sampler : Sampler) : (initial rows sampler).Sound := by
  refine ⟨Nat.zero_lt_one, Nat.le_add_left 1 maxFactorial, ?_⟩
  intro i hi
  have hi : i = 0 := by simpa [initial] using hi
  subst hi
  rfl

@[simp] theorem size_extend (table : Array Float) (steps : Nat) :
    (extend table steps).size = table.size + steps := by
  induction steps generalizing table with
  | zero => rfl
  | succ steps ih => rw [extend, ih, Array.size_push]; omega

/-- Extending a table of products gives a longer table of products. -/
theorem getElem?_extend {table : Array Float} (steps : Nat) (h0 : 0 < table.size)
    (h : ∀ i < table.size, table[i]? = some (factorialProduct i)) :
    ∀ i < table.size + steps, (extend table steps)[i]? = some (factorialProduct i) := by
  induction steps generalizing table with
  | zero => exact h
  | succ steps ih =>
    have hlast : table.back? = some (factorialProduct (table.size - 1)) := by
      rw [Array.back?_eq_getElem?]
      exact h _ (by omega)
    intro i hi
    refine ih (by simp) ?_ i (by rw [Array.size_push]; omega)
    intro j hj
    rw [Array.size_push] at hj
    rw [Array.getElem?_push]
    split
    · rename_i hj
      obtain ⟨k, hk⟩ : ∃ k, table.size = k + 1 := ⟨table.size - 1, by omega⟩
      rw [hlast, hj, hk]
      rfl
    · exact h j (by omega)

/-- A factorial looked up in a sound table is the product, and leaves a sound table. -/
theorem Sound.factorial {c : Calculator} (h : c.Sound) (x : Float) :
    (c.factorial x).1 = scalarFactorial x ∧ (c.factorial x).2.Sound := by
  unfold Calculator.factorial scalarFactorial
  dsimp only
  split
  · exact ⟨rfl, h⟩
  split
  · exact ⟨rfl, h⟩
  rename_i hn
  have hentry := getElem?_extend (x.toUInt64.toNat + 1 - c.factorials.size) h.nonempty h.entry
  have hbound := h.bounded
  refine ⟨?_, ?_, ?_, ?_⟩
  · rw [hentry _ (by omega)]
    rfl
  · have := h.nonempty
    simp only [size_extend]
    omega
  · simp only [size_extend]
    omega
  · intro i hi
    simp only [size_extend] at hi
    exact hentry i hi

@[simp] theorem rows_factorial (c : Calculator) (x : Float) : (c.factorial x).2.rows = c.rows := by
  unfold Calculator.factorial
  split
  · rfl
  dsimp only
  split <;> rfl

@[simp] theorem length_factorialsOf (xs : List Float) (c : Calculator) :
    (factorialsOf xs c).1.length = xs.length := by
  induction xs generalizing c with
  | nil => rfl
  | cons x xs ih => simp [factorialsOf, ih]

theorem Sound.factorialsOf {c : Calculator} (h : c.Sound) (xs : List Float) :
    (factorialsOf xs c).1 = xs.map scalarFactorial := by
  induction xs generalizing c with
  | nil => rfl
  | cons x xs ih =>
    obtain ⟨hx, hc⟩ := h.factorial x
    simp only [Calculator.factorialsOf, List.map_cons, hx, ih hc]

/-- A property of calculators that neither a draw of random numbers nor a factorial can break. -/
structure Stable (P : Calculator → Prop) : Prop where
  sampler : ∀ {c : Calculator} (s : Sampler), P c → P { c with sampler := s }
  factorial : ∀ {c : Calculator} (x : Float), P c → P (c.factorial x).2

theorem stable_sound : Stable Sound :=
  ⟨fun _ h => ⟨h.nonempty, h.bounded, h.entry⟩, fun x h => (h.factorial x).2⟩

theorem stable_rows (rows : Nat) : Stable (·.rows = rows) :=
  ⟨fun _ h => h, fun x h => (rows_factorial _ x).trans h⟩

theorem Stable.factorialsOf {P : Calculator → Prop} (hP : Stable P) (xs : List Float)
    {c : Calculator} (h : P c) : P (factorialsOf xs c).2 := by
  induction xs generalizing c with
  | nil => exact h
  | cons x xs ih => exact ih (hP.factorial x h)

end Calculator

/-! ## What every evaluation keeps -/

namespace Formula

open Calculator (Stable)

variable {answers : Answers} {c c' : Calculator} {P : Calculator → Prop}

/-- Whether it succeeds or fails, the computation leaves a calculator with the property. -/
def Keeps {α : Type} (P : Calculator → Prop) (e : Evaluation Id α) : Prop :=
  ∀ c, P c → P (outcome e c).2

theorem keeps_pure {α : Type} (a : α) : Keeps P (pure a : Evaluation Id α) :=
  fun _ h => h

theorem Keeps.bind {α β : Type} {e : Evaluation Id α} {k : α → Evaluation Id β}
    (he : Keeps P e) (hk : ∀ a, Keeps P (k a)) : Keeps P (e >>= k) := by
  intro c hc
  have hc' := he c hc
  rcases h : outcome e c with ⟨err | a, c'⟩
  · rw [outcome_bind_of_error h]
    rwa [h] at hc'
  · rw [outcome_bind_of_ok h]
    rw [h] at hc'
    exact hk a c' hc'

theorem run_named_keeps (hP : Stable P) (name : String) (hc : P c) :
    P (run answers (named name) c).2 := by
  cases h : NamedConstant.ofName? name with
  | some k =>
    rw [run_named_constant h]
    split
    · exact hc
    · exact hP.sampler _ hc
  | none =>
    rw [run_named h]
    split
    · exact hc
    · exact hc
    · split <;> exact hc

/-- No evaluation breaks what neither a draw nor a factorial breaks. -/
theorem evaluate_keeps (hP : Stable P) (answers : Answers) (f : Formula) :
    Keeps P (evaluate (m := Id) answers f) := by
  induction f with
  | constant value => exact fun _ h => h
  | named name => exact fun _ h => run_named_keeps hP name h
  | call g x ih =>
    unfold evaluate
    split
    · exact fun _ h => h
    · exact ih.bind fun _ => keeps_pure _
  | factorial x ih =>
    unfold evaluate
    exact ih.bind fun xs _ h => hP.factorialsOf xs h
  | binary op l r ihl ihr =>
    unfold evaluate
    exact ihl.bind fun _ => ihr.bind fun _ => keeps_pure _

theorem run_keeps (hP : Stable P) {f : Formula} {r : Except FormulaError (List Float)}
    (h : run answers f c = (r, c')) (hc : P c) : P c' := by
  have := evaluate_keeps hP answers f c hc
  rwa [show outcome (evaluate answers f) c = (r, c') from h] at this

theorem run_rows {f : Formula} {r : Except FormulaError (List Float)}
    (h : run answers f c = (r, c')) : c'.rows = c.rows :=
  run_keeps (Calculator.stable_rows c.rows) h rfl

theorem run_sound {f : Formula} {r : Except FormulaError (List Float)}
    (h : run answers f c = (r, c')) (hc : c.Sound) : c'.Sound :=
  run_keeps Calculator.stable_sound h hc

/-- A formula that has values has one for each row. -/
theorem evaluate_length {f : Formula} {xs : List Float} (h : run answers f c = (.ok xs, c')) :
    xs.length = c.rows := by
  induction f generalizing c c' xs with
  | constant value =>
    rw [run_constant] at h
    cases h
    exact List.length_replicate
  | named name =>
    cases hk : NamedConstant.ofName? name with
    | some k =>
      rw [run_named_constant hk] at h
      split at h <;> cases h <;> simp
    | none =>
      rw [run_named hk] at h
      split at h
      · cases h
      · cases h
      · split at h
        · cases h
          assumption
        · cases h
  | call g x ih =>
    obtain ⟨_, ys, -, hx, rfl⟩ := run_call_eq_ok_iff.mp h
    rw [List.length_map, ih hx]
  | factorial x ih =>
    obtain ⟨ys, c₁, hx, hy⟩ := run_factorial_eq_ok_iff.mp h
    have hlen := Calculator.length_factorialsOf ys c₁
    rw [hy] at hlen
    exact hlen.trans (ih hx)
  | binary op l r ihl ihr =>
    obtain ⟨ys, c₁, zs, hl, hr, rfl⟩ := run_binary_eq_ok_iff.mp h
    rw [List.length_zipWith, ihl hl, ihr hr, run_rows hl, Nat.min_self]

end Formula

end Logbook
