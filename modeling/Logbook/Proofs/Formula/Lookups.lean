import Logbook.Proofs.Formula.Derivations
import Logbook.Proofs.Formula.RowValues

/-!
# What a formula looks up

The outcome of a formula hangs on what its names are answered with, and on nothing else.

* `identifier_mem_tokenKinds` — every name that a formula reads is one of its tokens.
* `run_congr` — without random numbers, two sound calculators for the same number of rows come to the
  same values or to the same error, if they get the same answers to the names in the formula.
-/

namespace Logbook

/-! ## Names among the tokens -/

/-- A name in the tree is an identifier among the tokens. -/
theorem Nonterminal.Derives.identifier_mem {n : Nonterminal} {ts : List TokenKind} {f : Formula}
    (h : n.Derives ts f) {name : String} (hname : .named name ∈ f.parts) :
    .identifier name ∈ ts := by
  induction h with
  | additive _ _ _ ihl ihr | multiplicative _ _ _ ihl ihr =>
    simp only [Formula.parts, List.mem_cons, List.mem_append, reduceCtorEq, false_or] at hname ⊢
    exact hname.imp (fun h => ihl h) fun h => ihr h
  | ofTerm _ ih | ofFactor _ ih | ofPrimary _ ih => exact ih hname
  | factorial _ ih | group _ ih | call _ _ ih =>
    simp only [Formula.parts, List.mem_cons, List.mem_append, reduceCtorEq, false_or] at hname ⊢
    simp [ih hname]
  | number => simp [Formula.parts] at hname
  | identifier => simpa [Formula.parts] using hname

/-- Every name that a formula reads is one of its tokens. -/
theorem identifier_mem_tokenKinds {input name : String} {f : Formula}
    (h : Formula.parse input = .ok f) (hname : .named name ∈ f.parts) :
    .identifier name ∈ tokenKinds input :=
  (Formula.parse_eq_ok_iff_derives.1 h).1.identifier_mem hname

namespace Formula

variable {answers answers' : Answers} {c d : Calculator}

/-! ## Answers to the same names -/

theorem run_factorial_fst (hc : c.Sound) (x : Formula) :
    (run answers (factorial x) c).1 =
      (run answers x c).1.map (List.map Calculator.scalarFactorial) := by
  conv => lhs; unfold run evaluate
  rw [outcome_bind, show outcome (evaluate (m := Id) answers x) c = run answers x c from rfl]
  rcases hrun : run answers x c with ⟨e | xs, c'⟩
  · rfl
  · exact congrArg Except.ok ((run_sound hrun hc).factorialsOf xs)

/-- A name other than `RANDOM` comes to the same, whichever calculator is used. -/
theorem run_named_congr {name : String} (hr : name ≠ "RANDOM") (hrows : c.rows = d.rows)
    (h : NamedConstant.ofName? name = none → answers name = answers' name) :
    (run answers (named name) c).1 = (run answers' (named name) d).1 := by
  rcases NamedConstant.ofName?_cases name with ⟨-, hk⟩ | ⟨-, hk⟩ | ⟨rfl, -⟩ | ⟨-, -, hk⟩
  · rw [run_named_constant hk, run_named_constant hk, hrows]
    rfl
  · rw [run_named_constant hk, run_named_constant hk, hrows]
    rfl
  · exact absurd rfl hr
  · rw [run_named hk, run_named hk, ← h hk, hrows]
    rcases answers name with _ | _ | xs
    · rfl
    · rfl
    · dsimp only
      split <;> rfl

/-- **The outcome of a formula hangs on the answers to its names and on nothing else.** Two sound
calculators for the same number of rows come to the same values or to the same error. Names of
constants are not asked for, so their answers may differ. -/
theorem run_congr {f : Formula} (hf : Determined f) (hc : c.Sound) (hd : d.Sound)
    (hrows : c.rows = d.rows)
    (h : ∀ name, named name ∈ f.parts → NamedConstant.ofName? name = none →
      answers name = answers' name) :
    (run answers f c).1 = (run answers' f d).1 := by
  induction f generalizing c d with
  | constant value =>
    rw [run_constant, run_constant, hrows]
  | named name =>
    exact run_named_congr (determined_named_iff.1 hf) hrows (h name (by simp [parts]))
  | call g x ih =>
    have hx := ih (determined_call_iff.1 hf) hc hd hrows fun name hname =>
      h name (by simp [parts, hname])
    rw [run_call_fst, run_call_fst, hx]
  | factorial x ih =>
    have hx := ih (determined_factorial_iff.1 hf) hc hd hrows fun name hname =>
      h name (by simp [parts, hname])
    rw [run_factorial_fst hc, run_factorial_fst hd, hx]
  | binary op l r ihl ihr =>
    obtain ⟨hfl, hfr⟩ := determined_binary_iff.1 hf
    have hl := ihl hfl hc hd hrows fun name hname => h name (by simp [parts, hname])
    rw [run_binary_fst, run_binary_fst]
    rcases hcl : run answers l c with ⟨e | xs, c'⟩ <;>
      rcases hdl : run answers' l d with ⟨e' | ys, d'⟩ <;> rw [hcl, hdl] at hl <;> cases hl
    · rfl
    · -- The right operand meets the calculators that the left one leaves.
      have hr := ihr hfr (run_sound hcl hc) (run_sound hdl hd)
        ((run_rows hcl).trans (hrows.trans (run_rows hdl).symm))
        fun name hname => h name (by simp [parts, hname])
      dsimp only
      rw [hr]

end Formula

end Logbook
