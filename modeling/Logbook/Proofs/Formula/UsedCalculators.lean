import Logbook.Proofs.Formula.Derivations
import Logbook.Proofs.Formula.RowValues

/-!
# Calculators that have been used

A calculator serves one evaluation after the other and keeps its table of factorials. What it has
served before does not show in what it answers.

* `Formula.runFrom` — an evaluation with a lookup that has a state of its own, with one lemma for
  each constructor.
* `Calculator.factorial?` — the factorial with every place of the table checked; a sound table has
  all of them (`Sound.factorial?_eq`).
* `Formula.Asks` — which calculators an evaluation asks for which factorials on its way, also if it
  fails in the end; all of them are sound (`Asks.sound`).
* `runFrom_congr` — two sound calculators for the same number of rows lead to the same result.
* `Calculator.Used` — what can become of a calculator; `Used.unseen` puts this together.
-/

namespace Logbook

/-! ## Places of the table -/

namespace Calculator

/-- The table of factorials after `steps` more entries, where every entry taken has to be in it. -/
def extend? (table : Array Float) : (steps : Nat) → Option (Array Float)
  | 0 => some table
  | steps + 1 => do
    let previous ← table[table.size - 1]?
    extend? (table.push (previous * Float.ofNat table.size)) steps

/-- The factorial of the whole part of `x`, where every entry taken has to be in the table. -/
def factorial? (c : Calculator) (x : Float) : Option (Float × Calculator) :=
  if x.isNaN || x < 0.0 then some (0.0 / 0.0, c)
  else
    let n := x.toUInt64.toNat
    if maxFactorial < n then some (1.0 / 0.0, c)
    else do
      let table ← extend? c.factorials (n + 1 - c.factorials.size)
      let y ← table[n]?
      some (y, { c with factorials := table })

/-- The table of the calculator holds the factorials of the numbers below some `m`, each the product
of the one before it and its own number, and never goes beyond the greatest finite one. -/
def HoldsFactorials (c : Calculator) : Prop :=
  ∃ m, 1 ≤ m ∧ m ≤ 171 ∧ c.factorials = ((List.range m).map factorialProduct).toArray

theorem Sound.holdsFactorials {c : Calculator} (h : c.Sound) : c.HoldsFactorials := by
  refine ⟨c.factorials.size, h.nonempty, h.bounded, Array.ext_getElem? fun i => ?_⟩
  by_cases hi : i < c.factorials.size
  · rw [h.entry i hi]
    simp [hi]
  · rw [Array.getElem?_eq_none (by omega)]
    simp [hi]

/-- An entry added to a table that is not empty is computed from the last one. -/
theorem extend?_eq {table : Array Float} (h : 0 < table.size) (steps : Nat) :
    extend? table steps = some (extend table steps) := by
  induction steps generalizing table with
  | zero => rfl
  | succ steps ih =>
    obtain ⟨previous, hlast⟩ : ∃ previous, table[table.size - 1]? = some previous :=
      ⟨_, Array.getElem?_eq_getElem (by omega)⟩
    rw [extend?, extend, Array.back?_eq_getElem?, hlast]
    exact ih (by simp)

/-- No entry that is taken from a sound table lies outside of it. -/
theorem Sound.factorial?_eq {c : Calculator} (h : c.Sound) (x : Float) :
    c.factorial? x = some (c.factorial x) := by
  unfold factorial? Calculator.factorial
  dsimp only
  split
  · rfl
  split
  · rfl
  have hentry := getElem?_extend (x.toUInt64.toNat + 1 - c.factorials.size) h.nonempty h.entry
    x.toUInt64.toNat (by omega)
  rw [extend?_eq h.nonempty, hentry]
  simp [hentry]

end Calculator

/-! ## Evaluations from a state -/

namespace Formula

open Calculator (Stable Sound factorialsOf)

/-- How an evaluation ends: what it comes to, and the calculator and the state of the lookup as it
leaves them. -/
@[ext] structure Ending (σ α : Type) where
  result : Except FormulaError α
  calculator : Calculator
  state : σ

variable {σ α β : Type}

/-- How an evaluation ends whose lookup keeps a state of its own. -/
def ending (e : Evaluation (StateM σ) α) (c : Calculator) (s : σ) : Ending σ α :=
  let ((result, calculator), state) := runWith c e s
  ⟨result, calculator, state⟩

theorem ending_bind (e : Evaluation (StateM σ) α) (k : α → Evaluation (StateM σ) β)
    (c : Calculator) (s : σ) :
    ending (e >>= k) c s = match ending e c s with
      | ⟨.ok a, c, s⟩ => ending (k a) c s
      | ⟨.error err, c, s⟩ => ⟨.error err, c, s⟩ := by
  show (fun p : (Except FormulaError α × Calculator) × σ =>
    let q := ExceptT.bindCont k p.1.1 p.1.2 p.2
    (⟨q.1.1, q.1.2, q.2⟩ : Ending σ β)) (runWith c e s) = _
  unfold ending
  rcases runWith c e s with ⟨⟨_ | a, c'⟩, s'⟩ <;> rfl

/-- The evaluation of a formula, from a calculator and a state of the lookup. -/
def runFrom (lookup : Lookup (StateM σ)) (f : Formula) (c : Calculator) (s : σ) :
    Ending σ (List Float) :=
  ending (evaluate lookup f) c s

variable {lookup : Lookup (StateM σ)} {c d : Calculator} {s : σ}

theorem runFrom_constant (value : Float) :
    runFrom lookup (constant value) c s = ⟨.ok (List.replicate c.rows value), c, s⟩ := rfl

theorem runFrom_named_constant {name : String} {k : NamedConstant}
    (h : NamedConstant.ofName? name = some k) :
    runFrom lookup (named name) c s = match k.value? with
      | some x => ⟨.ok (List.replicate c.rows x), c, s⟩
      | none => ⟨.ok (c.sampler.take c.rows).1,
          { c with sampler := (c.sampler.take c.rows).2 }, s⟩ := by
  unfold runFrom evaluate namedValues
  rw [h]
  cases k <;> rfl

theorem runFrom_named {name : String} (h : NamedConstant.ofName? name = none) :
    runFrom lookup (named name) c s = match lookup name s with
      | (.error reason, s) => ⟨.error (.unresolved name reason), c, s⟩
      | (.ok none, s) => ⟨.error (.unknownVariable name), c, s⟩
      | (.ok (some xs), s) =>
        ⟨if xs.length = c.rows then .ok xs else .error (.lengthMismatch name c.rows xs.length),
          c, s⟩ := by
  unfold runFrom evaluate namedValues
  rw [h]
  dsimp only
  rw [ending_bind]
  have hlift : ending (ExceptT.lift (StateT.lift (lookup name))) c s =
    ⟨.ok (lookup name s).1, c, (lookup name s).2⟩ := rfl
  rw [hlift]
  rcases lookup name s with ⟨reason | _ | xs, s'⟩
  · rfl
  · rfl
  · dsimp only
    split
    · next hlen =>
      rw [ending_bind]
      show ending (if xs.length = c.rows then _ else _) c s' = _
      rw [if_pos hlen]
      rfl
    · next hlen =>
      rw [ending_bind]
      show ending (if xs.length = c.rows then _ else _) c s' = _
      rw [if_neg hlen]
      rfl

theorem runFrom_call (g : String) (x : Formula) :
    runFrom lookup (call g x) c s = match NamedFunction.ofName? g with
      | none => ⟨.error (.unknownFunction g), c, s⟩
      | some h => { runFrom lookup x c s with
          result := (runFrom lookup x c s).result.map (List.map h.apply) } := by
  conv => lhs; unfold runFrom evaluate
  cases NamedFunction.ofName? g with
  | none => rfl
  | some h =>
    dsimp only
    rw [ending_bind]
    unfold runFrom
    rcases ending (evaluate lookup x) c s with ⟨_ | xs, c', s'⟩ <;> rfl

theorem runFrom_factorial (x : Formula) :
    runFrom lookup (factorial x) c s = match runFrom lookup x c s with
      | ⟨.error e, c, s⟩ => ⟨.error e, c, s⟩
      | ⟨.ok xs, c, s⟩ => ⟨.ok (factorialsOf xs c).1, (factorialsOf xs c).2, s⟩ := by
  conv => lhs; unfold runFrom evaluate
  rw [ending_bind]
  unfold runFrom
  rcases ending (evaluate lookup x) c s with ⟨_ | xs, c', s'⟩ <;> rfl

theorem runFrom_binary (op : BinaryOperator) (l r : Formula) :
    runFrom lookup (binary op l r) c s = match runFrom lookup l c s with
      | ⟨.error e, c, s⟩ => ⟨.error e, c, s⟩
      | ⟨.ok xs, c, s⟩ => { runFrom lookup r c s with
          result := (runFrom lookup r c s).result.map (List.zipWith op.apply xs) } := by
  conv => lhs; unfold runFrom evaluate
  rw [ending_bind]
  unfold runFrom
  rcases ending (evaluate lookup l) c s with ⟨_ | xs, c', s'⟩
  · rfl
  · dsimp only
    rw [ending_bind]
    rcases ending (evaluate lookup r) c' s' with ⟨_ | ys, c'', s''⟩ <;> rfl

/-! ## What evaluations leave behind -/

/-- No evaluation breaks what neither a draw nor a factorial breaks. -/
theorem runFrom_keeps {P : Calculator → Prop} (hP : Stable P) (lookup : Lookup (StateM σ))
    (f : Formula) (s : σ) (hc : P c) : P (runFrom lookup f c s).calculator := by
  induction f generalizing c s with
  | constant value => exact hc
  | named name =>
    cases h : NamedConstant.ofName? name with
    | some k =>
      rw [runFrom_named_constant h]
      split
      · exact hc
      · exact hP.sampler _ hc
    | none =>
      rw [runFrom_named h]
      split <;> exact hc
  | call g x ih =>
    rw [runFrom_call]
    split
    · exact hc
    · exact ih s hc
  | factorial x ih =>
    have hx := ih s hc
    rw [runFrom_factorial]
    generalize runFrom lookup x c s = e at hx ⊢
    rcases e with ⟨_ | xs, c', s'⟩
    · exact hx
    · exact hP.factorialsOf xs hx
  | binary op l r ihl ihr =>
    have hl := ihl s hc
    rw [runFrom_binary]
    generalize runFrom lookup l c s = e at hl ⊢
    rcases e with ⟨_ | xs, c', s'⟩
    · exact hl
    · exact ihr s' hl

/-- The calculators that are asked for a factorial on the way of an evaluation, and the number of
which it is asked; also when the evaluation fails later. -/
inductive Asks (lookup : Lookup (StateM σ)) :
    Formula → Calculator → σ → Calculator → Float → Prop
  | call {g : String} {x : Formula} {c d : Calculator} {s : σ} {y : Float} :
      NamedFunction.ofName? g ≠ none → Asks lookup x c s d y → Asks lookup (call g x) c s d y
  | inFactorial {x : Formula} {c d : Calculator} {s : σ} {y : Float} :
      Asks lookup x c s d y → Asks lookup (factorial x) c s d y
  | factorial {x : Formula} {c c' : Calculator} {s s' : σ} {before after : List Float} {y : Float} :
      runFrom lookup x c s = ⟨.ok (before ++ y :: after), c', s'⟩ →
      Asks lookup (factorial x) c s (factorialsOf before c').2 y
  | left {op : BinaryOperator} {l r : Formula} {c d : Calculator} {s : σ} {y : Float} :
      Asks lookup l c s d y → Asks lookup (binary op l r) c s d y
  | right {op : BinaryOperator} {l r : Formula} {c c' d : Calculator} {s s' : σ} {xs : List Float}
      {y : Float} :
      runFrom lookup l c s = ⟨.ok xs, c', s'⟩ → Asks lookup r c' s' d y →
      Asks lookup (binary op l r) c s d y

/-- A sound calculator stays sound on the way of an evaluation. -/
theorem Asks.sound {f : Formula} {y : Float} (h : Asks lookup f c s d y) (hc : c.Sound) :
    d.Sound := by
  induction h with
  | call _ _ ih => exact ih hc
  | inFactorial _ ih => exact ih hc
  | left _ ih => exact ih hc
  | @factorial x c c' s s' before after y hx =>
    have hc' := runFrom_keeps Calculator.stable_sound lookup x s hc
    rw [hx] at hc'
    exact Calculator.stable_sound.factorialsOf before hc'
  | @right op l r c c' d s s' xs y hl _ ih =>
    have hc' := runFrom_keeps Calculator.stable_sound lookup l s hc
    rw [hl] at hc'
    exact ih hc'

/-! ## What evaluations come to -/

theorem runFrom_sound (hc : c.Sound) (lookup : Lookup (StateM σ)) (f : Formula) (s : σ) :
    (runFrom lookup f c s).calculator.Sound :=
  runFrom_keeps Calculator.stable_sound lookup f s hc

theorem runFrom_rows (lookup : Lookup (StateM σ)) (f : Formula) (c : Calculator) (s : σ) :
    (runFrom lookup f c s).calculator.rows = c.rows :=
  runFrom_keeps (Calculator.stable_rows c.rows) lookup f s rfl

/-- Two evaluations end alike, apart from what they leave of their calculators. -/
def Ending.Alike (e e' : Ending σ α) : Prop :=
  e.result = e'.result ∧ e.state = e'.state

/-- **Sound calculators for the same number of rows cannot be told apart.** A formula without random
numbers comes to the same values or to the same error, and the lookup is left in the same state. -/
theorem runFrom_congr {f : Formula} (hf : Determined f) (hc : c.Sound) (hd : d.Sound)
    (hrows : c.rows = d.rows) (s : σ) :
    (runFrom lookup f c s).Alike (runFrom lookup f d s) := by
  induction f generalizing c d s with
  | constant value =>
    rw [runFrom_constant, runFrom_constant, hrows]
    exact ⟨rfl, rfl⟩
  | named name =>
    rcases NamedConstant.ofName?_cases name with ⟨-, h⟩ | ⟨-, h⟩ | ⟨rfl, -⟩ | ⟨-, -, h⟩
    · rw [runFrom_named_constant h, runFrom_named_constant h, hrows]
      exact ⟨rfl, rfl⟩
    · rw [runFrom_named_constant h, runFrom_named_constant h, hrows]
      exact ⟨rfl, rfl⟩
    · exact absurd rfl (determined_named_iff.1 hf)
    · rw [runFrom_named h, runFrom_named h, hrows]
      rcases lookup name s with ⟨_ | _ | xs, s'⟩ <;> exact ⟨rfl, rfl⟩
  | call g x ih =>
    obtain ⟨hresult, hstate⟩ := ih (determined_call_iff.1 hf) hc hd hrows s
    rw [runFrom_call, runFrom_call]
    cases NamedFunction.ofName? g with
    | none => exact ⟨rfl, rfl⟩
    | some h => exact ⟨congrArg (Except.map (List.map h.apply)) hresult, hstate⟩
  | factorial x ih =>
    have hx := ih (determined_factorial_iff.1 hf) hc hd hrows s
    have hc' := runFrom_sound hc lookup x s
    have hd' := runFrom_sound hd lookup x s
    rw [runFrom_factorial, runFrom_factorial]
    generalize runFrom lookup x c s = e at hx hc' ⊢
    generalize runFrom lookup x d s = e' at hx hd' ⊢
    obtain ⟨result, c', s'⟩ := e
    obtain ⟨result', d', s''⟩ := e'
    obtain ⟨rfl, rfl⟩ : result = result' ∧ s' = s'' := hx
    cases result with
    | error err => exact ⟨rfl, rfl⟩
    | ok xs =>
      -- Both tables hold the same factorials, as far as each of them goes.
      refine ⟨congrArg Except.ok ?_, rfl⟩
      exact (Sound.factorialsOf hc' xs).trans (Sound.factorialsOf hd' xs).symm
  | binary op l r ihl ihr =>
    obtain ⟨hfl, hfr⟩ := determined_binary_iff.1 hf
    have hl := ihl hfl hc hd hrows s
    have hc' := runFrom_sound hc lookup l s
    have hd' := runFrom_sound hd lookup l s
    have hrows' := (runFrom_rows lookup l c s).trans
      (hrows.trans (runFrom_rows lookup l d s).symm)
    rw [runFrom_binary, runFrom_binary]
    generalize runFrom lookup l c s = e at hl hc' hrows' ⊢
    generalize runFrom lookup l d s = e' at hl hd' hrows' ⊢
    obtain ⟨result, c', s'⟩ := e
    obtain ⟨result', d', s''⟩ := e'
    obtain ⟨rfl, rfl⟩ : result = result' ∧ s' = s'' := hl
    cases result with
    | error err => exact ⟨rfl, rfl⟩
    | ok xs =>
      -- The right operand meets the calculators that the left one leaves.
      obtain ⟨hresult, hstate⟩ := ihr hfr hc' hd' hrows' s'
      exact ⟨congrArg (Except.map (List.zipWith op.apply xs)) hresult, hstate⟩

/-- A text that is read and evaluated at once is evaluated like the formula that it is. -/
theorem ending_evaluateText {input : String} {f : Formula} (h : parse input = .ok f)
    (lookup : Lookup (StateM σ)) (c : Calculator) (s : σ) :
    ending (evaluateText lookup input) c s = runFrom lookup f c s := by
  unfold evaluateText
  rw [h]
  rfl

end Formula

/-! ## What becomes of a calculator -/

namespace Calculator

open Formula

/-- What can become of a calculator for a number of rows: it serves any evaluations one after the
other, with lookups of any kind, whether they succeed or fail. -/
inductive Used (rows : Nat) : Calculator → Prop
  | fresh (sampler : Sampler) : Used rows (initial rows sampler)
  | evaluated {c : Calculator} {σ : Type} (lookup : Lookup (StateM σ)) (f : Formula) (s : σ) :
      Used rows c → Used rows (runFrom lookup f c s).calculator

theorem Used.sound {rows : Nat} {c : Calculator} (h : Used rows c) : c.Sound := by
  induction h with
  | fresh sampler => exact initial_sound rows sampler
  | evaluated lookup f s _ ih => exact runFrom_sound ih lookup f s

theorem Used.rows_eq {rows : Nat} {c : Calculator} (h : Used rows c) : c.rows = rows := by
  induction h with
  | fresh sampler => rfl
  | evaluated lookup f s _ ih => exact (runFrom_rows lookup f _ s).trans ih

/-- **What a calculator has served does not show.** After any evaluations, its table holds the
factorials of the first numbers, at least that of 0 and at most that of 170. So it does whenever a
factorial is asked for in the middle of a further evaluation, and all places of the table that are
looked at are there. What that evaluation comes to, if it draws no random numbers, is what it comes
to with a fresh calculator, and what the text of the formula comes to, read and evaluated at once. -/
theorem Used.unseen {rows : Nat} {c : Calculator} (h : Used rows c) {σ : Type}
    (lookup : Lookup (StateM σ)) (f : Formula) (s : σ) :
    c.HoldsFactorials ∧
    (∀ d x, Asks lookup f c s d x →
      d.HoldsFactorials ∧ d.factorial? x = some (d.factorial x)) ∧
    (Determined f → ∀ sampler,
      (runFrom lookup f c s).Alike (runFrom lookup f (initial rows sampler) s) ∧
      ∀ input, parse input = .ok f →
        (runFrom lookup f c s).Alike
          (ending (evaluateText lookup input) (initial rows sampler) s)) := by
  refine ⟨h.sound.holdsFactorials, ?_, ?_⟩
  · intro d x hasks
    have hd := hasks.sound h.sound
    exact ⟨hd.holdsFactorials, hd.factorial?_eq x⟩
  · intro hf sampler
    have hfresh : (runFrom lookup f c s).Alike (runFrom lookup f (initial rows sampler) s) :=
      runFrom_congr hf h.sound (initial_sound rows sampler) h.rows_eq s
    refine ⟨hfresh, fun input hinput => ?_⟩
    rw [ending_evaluateText hinput]
    exact hfresh

/-- A factorial is asked for after a formula that fails once it has needed the factorial of five. -/
theorem Used.unseen_afterFailure :
    let lookup : Lookup (StateM Nat) := fun name asked =>
      (.ok (if name = "n" then some [3, 9] else none), asked + 1)
    let failing : Formula := .binary .sum (.factorial (.constant 5)) (.named "missing")
    let e := runFrom lookup failing (initial 2 ⟨0⟩) 0
    let f : Formula := .factorial (.named "n")
    e.result = .error (.unknownVariable "missing") ∧ e.state = 1 ∧
      e.calculator.factorials.size = 6 ∧ Used 2 e.calculator ∧ Determined f ∧
      parse "n!" = .ok f ∧ e.calculator.HoldsFactorials ∧
      Asks lookup f e.calculator 1 (e.calculator.factorial 3).2 9 ∧
      ((e.calculator.factorial 3).2.factorial? 9).isSome ∧
      (runFrom lookup f e.calculator 1).Alike
        (ending (evaluateText lookup "n!") (initial 2 ⟨7⟩) 1) := by
  intro lookup failing e f
  have hparse : parse "n!" = .ok f := (Formula.parse_eq _).trans rfl
  have hused : Used 2 e.calculator := .evaluated lookup failing 0 (.fresh ⟨0⟩)
  have hdet : Determined f := by simp [Determined, parts, f]
  have hvalues : runFrom lookup (.named "n") e.calculator 1 =
      ⟨.ok ([3] ++ 9 :: []), e.calculator, 2⟩ := rfl
  have hasks : Asks lookup f e.calculator 1 (e.calculator.factorial 3).2 9 := .factorial hvalues
  obtain ⟨hholds, hplaces, hlike⟩ := hused.unseen lookup f 1
  refine ⟨rfl, rfl, by decide +kernel, hused, hdet, hparse, hholds, hasks, ?_,
    (hlike hdet ⟨7⟩).2 _ hparse⟩
  rw [(hplaces _ _ hasks).2]
  rfl

end Calculator

end Logbook
