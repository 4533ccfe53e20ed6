import Logbook.Proofs.Formula.Grammar
import Logbook.Proofs.Outcome

/-!
# What the reader of formulas knows

Between two tokens the reader keeps finished operands, operators and open brackets that wait, and the
names of the functions that are being called. What it has read can be told from these.

* `applyToBracket_eq` / `applyAll_eq` — the reader applies waiting operators in three ways, which are
  all `applyTighter`.
* `Parser.Awaits` / `Parser.Reads` — the invariant: every finished operand stands for a stretch of
  the tokens, and what waits lies between these stretches.
* `Reads.step` / `Reads.run` — one token keeps the invariant, and so does any number of them.
* `Reads.finish` — the tree that is answered at the end is derived by all the tokens.
-/

namespace Logbook

/-! ## Operands -/

variable {limit : Nat}

namespace Operand

/-- The operand stands for the tokens `ts` as an `n`, and its levels are counted and within the
limit. -/
structure Stands (limit : Nat) (x : Operand) (n : Nonterminal) (ts : List TokenKind) : Prop where
  derives : n.Derives ts x.formula
  height_eq : x.height = x.formula.height
  height_le : x.height ≤ limit

theorem above_eq_ok_iff {f : Formula} {height offset : Nat} {x : Operand} :
    above limit f height offset = .ok x ↔ height + 1 ≤ limit ∧ x = ⟨f, height + 1⟩ := by
  unfold above
  split
  · constructor
    · intro h; cases h
    · rintro ⟨h, -⟩; omega
  · rename_i h
    simp only [Except.ok.injEq]
    exact ⟨fun e => ⟨by omega, e.symm⟩, fun e => e.2.symm⟩

theorem above_eq_ok {f : Formula} {height : Nat} (offset : Nat) (h : height + 1 ≤ limit) :
    above limit f height offset = .ok ⟨f, height + 1⟩ :=
  above_eq_ok_iff.2 ⟨h, rfl⟩

theorem Stands.loosen {x : Operand} {m n : Nonterminal} {ts : List TokenKind}
    (hmn : m.level ≤ n.level) (h : x.Stands limit n ts) : x.Stands limit m ts :=
  ⟨h.derives.loosen hmn, h.height_eq, h.height_le⟩

theorem Stands.binary {b : BinaryOperator} {x y : Operand} {ls rs : List TokenKind}
    (hx : x.Stands limit b.whole ls) (hy : y.Stands limit b.right rs)
    (h : max x.height y.height + 1 ≤ limit) :
    (⟨.binary b x.formula y.formula, max x.height y.height + 1⟩ : Operand).Stands limit b.whole
      (ls ++ .operator (Operator.binary b).symbol :: rs) :=
  ⟨b.derives hx.derives hy.derives, by simp only [Formula.height, hx.height_eq, hy.height_eq], h⟩

theorem Stands.factorial {x : Operand} {ts : List TokenKind} (hx : x.Stands limit .factor ts)
    (h : x.height + 1 ≤ limit) :
    (⟨.factorial x.formula, x.height + 1⟩ : Operand).Stands limit .factor
      (ts ++ [.operator '!']) :=
  ⟨.factorial hx.derives, by simp only [Formula.height, hx.height_eq], h⟩

end Operand

namespace Operator

theorem apply_binary_eq_ok_iff {b : BinaryOperator} {offset : Nat} {os os' : List Operand} :
    (binary b).apply limit offset os = .ok os' ↔
      ∃ y x rest, os = y :: x :: rest ∧ max x.height y.height + 1 ≤ limit ∧
        os' = ⟨.binary b x.formula y.formula, max x.height y.height + 1⟩ :: rest := by
  match os with
  | [] => simp [apply]
  | [y] => simp [apply]
  | y :: x :: rest =>
    simp only [apply, map_eq_ok_iff, Operand.above_eq_ok_iff]
    constructor
    · rintro ⟨z, ⟨h, rfl⟩, rfl⟩
      exact ⟨y, x, rest, rfl, h, rfl⟩
    · rintro ⟨y', x', rest', e, h, rfl⟩
      cases e
      exact ⟨_, ⟨h, rfl⟩, rfl⟩

theorem apply_factorial_eq_ok_iff {offset : Nat} {os os' : List Operand} :
    factorial.apply limit offset os = .ok os' ↔
      ∃ x rest, os = x :: rest ∧ x.height + 1 ≤ limit ∧
        os' = ⟨.factorial x.formula, x.height + 1⟩ :: rest := by
  match os with
  | [] => simp [apply]
  | x :: rest =>
    simp only [apply, map_eq_ok_iff, Operand.above_eq_ok_iff]
    constructor
    · rintro ⟨z, ⟨h, rfl⟩, rfl⟩
      exact ⟨x, rest, rfl, h, rfl⟩
    · rintro ⟨x', rest', e, h, rfl⟩
      cases e
      exact ⟨_, ⟨h, rfl⟩, rfl⟩

theorem precedence_pos (op : Operator) : 1 ≤ op.precedence := by
  cases op with
  | binary b => exact b.precedence_bounds.1
  | factorial => decide

end Operator

namespace Parser

/-! ## The three ways to apply pending operators -/

/-- The innermost entry that waits, if it is an operator, binds less than `level`. -/
def Loose (level : Nat) : List Pending → Prop
  | .operator op _ :: _ => op.precedence < level
  | _ => True

theorem Loose.mono {low high : Nat} {ps : List Pending} (h : Loose low ps) (hle : low ≤ high) :
    Loose high ps := by
  match ps with
  | [] => trivial
  | .bracket _ _ :: _ => trivial
  | .operator op _ :: _ => exact Nat.lt_of_lt_of_le h hle

theorem applyTighter_of_loose {level : Nat} {ps : List Pending} (h : Loose level ps)
    (os : List Operand) : applyTighter limit level ps os = .ok (ps, os) := by
  match ps with
  | [] => rfl
  | .bracket _ _ :: _ => rfl
  | .operator op _ :: _ => exact if_pos h

theorem loose_of_applyTighter {level : Nat} {ps ps' : List Pending} {os os' : List Operand}
    (h : applyTighter limit level ps os = .ok (ps', os')) : Loose level ps' := by
  induction ps generalizing os with
  | nil => cases h; trivial
  | cons p ps ih =>
    match p with
    | .bracket _ _ => cases h; trivial
    | .operator op offset =>
      rw [applyTighter] at h
      split at h
      · rename_i hlt
        cases h
        exact hlt
      · split at h
        · cases h
        · exact ih h

theorem suffix_of_applyTighter {level : Nat} {ps ps' : List Pending} {os os' : List Operand}
    (h : applyTighter limit level ps os = .ok (ps', os')) : ps' <:+ ps := by
  induction ps generalizing os with
  | nil => cases h; exact List.suffix_rfl
  | cons p ps ih =>
    match p with
    | .bracket _ _ => cases h; exact List.suffix_rfl
    | .operator op offset =>
      rw [applyTighter] at h
      split at h
      · cases h
        exact List.suffix_rfl
      · split at h
        · cases h
        · exact (ih h).trans (List.suffix_cons _ _)

/-- The operators that bind more can be applied first. -/
theorem applyTighter_trans {low high : Nat} (hle : low ≤ high) {ps ps' : List Pending}
    {os os' : List Operand} (h : applyTighter limit high ps os = .ok (ps', os')) :
    applyTighter limit low ps os = applyTighter limit low ps' os' := by
  induction ps generalizing os with
  | nil => cases h; rfl
  | cons p ps ih =>
    match p with
    | .bracket _ _ => cases h; rfl
    | .operator op offset =>
      rw [applyTighter] at h
      split at h
      · cases h
        rfl
      · rename_i hge
        rw [applyTighter, if_neg (by omega)]
        split at h
        · cases h
        · exact ih h

/-- Up to the innermost open bracket all operators are applied. -/
theorem applyToBracket_eq (closing : Nat) (ps : List Pending) (os : List Operand) :
    applyToBracket limit closing ps os =
      match applyTighter limit 1 ps os with
      | .error e => .error e
      | .ok (.bracket _ before :: ps, os) => .ok (before, ps, os)
      | .ok (_, _) => .error (.unbalanced closing) := by
  induction ps generalizing os with
  | nil => rfl
  | cons p ps ih =>
    match p with
    | .bracket _ _ => rfl
    | .operator op offset =>
      rw [applyToBracket, applyTighter, if_neg (Nat.not_lt.2 op.precedence_pos)]
      split
      · rfl
      · rw [ih]

theorem applyAll_eq (ps : List Pending) (os : List Operand) :
    applyAll limit ps os =
      match applyTighter limit 1 ps os with
      | .error e => .error e
      | .ok (.bracket offset _ :: _, _) => .error (.unbalanced offset)
      | .ok (_, os) => .ok os := by
  induction ps generalizing os with
  | nil => rfl
  | cons p ps ih =>
    match p with
    | .bracket _ _ => rfl
    | .operator op offset =>
      rw [applyAll, applyTighter, if_neg (Nat.not_lt.2 op.precedence_pos)]
      split
      · rfl
      · rw [ih]

/-! ## What the state says about the tokens -/

/-- The tokens `ts` lead up to an operand that is still to come: `ps` wait for it, `os` are finished
and `cs` are called. Under a waiting operator stands its left operand, and below that only operators
that bind less, back to an open bracket. -/
inductive Awaits (limit : Nat) :
    List TokenKind → List Pending → List Operand → List (Option String) → Prop where
  | start : Awaits limit [] [] [] []
  | operator {ts us ps os cs} {b : BinaryOperator} {x : Operand} (offset) :
      Awaits limit ts ps os cs → Loose (Operator.binary b).precedence ps →
      x.Stands limit b.whole us →
      Awaits limit (ts ++ us ++ [.operator (Operator.binary b).symbol])
        (.operator (.binary b) offset :: ps) (x :: os) cs
  | group {ts ps os cs} (offset) : Awaits limit ts ps os cs →
      Awaits limit (ts ++ [.opening]) (.bracket offset os.length :: ps) os (none :: cs)
  | call {ts ps os cs} (offset) (function) : Awaits limit ts ps os cs →
      Awaits limit (ts ++ [.identifier function, .opening]) (.bracket offset os.length :: ps) os
        (some function :: cs)

/-- What the state of the reader says about the tokens that it has taken in. -/
inductive Reads (limit : Nat) : Parser → List TokenKind → Prop where
  | awaiting {ts ps os cs} : Awaits limit ts ps os cs → Reads limit ⟨os, ps, cs, false, false⟩ ts
  | name {ts ps os cs} (function) : Awaits limit ts ps os cs →
      Reads limit ⟨.leaf (.named function) :: os, ps, cs, true, true⟩
        (ts ++ [.identifier function])
  | operand {ts us ps os cs} {x : Operand} : Awaits limit ts ps os cs →
      x.Stands limit .primary us → Reads limit ⟨x :: os, ps, cs, false, true⟩ (ts ++ us)
  | factorial {ts us ps os cs} {x : Operand} (offset) : Awaits limit ts ps os cs →
      x.Stands limit .factor us →
      Reads limit ⟨x :: os, .operator .factorial offset :: ps, cs, false, true⟩
        (ts ++ (us ++ [.operator '!']))

namespace Awaits

/-- Only binary operators wait for an operand. -/
theorem loose {ts : List TokenKind} {ps : List Pending} {os : List Operand}
    {cs : List (Option String)} (h : Awaits limit ts ps os cs) : Loose 3 ps := by
  cases h with
  | start => trivial
  | @operator _ _ _ _ _ b => exact Nat.lt_succ_of_le b.precedence_bounds.2
  | group => trivial
  | call => trivial

/-- Applying operators joins the operand that has come with those that waited for it. -/
theorem applyTighter {ts us : List TokenKind} {ps ps' : List Pending} {os os' : List Operand}
    {cs : List (Option String)} {x : Operand} {m n : Nonterminal} (h : Awaits limit ts ps os cs)
    (hps : Loose n.level ps) (hx : x.Stands limit n us) (hmn : m.level ≤ n.level)
    (happly : Parser.applyTighter limit m.level ps (x :: os) = .ok (ps', os')) :
    ∃ ts' us' y rest, os' = y :: rest ∧ ts ++ us = ts' ++ us' ∧ Awaits limit ts' ps' rest cs ∧
      y.Stands limit m us' := by
  induction h generalizing us x n with
  | start =>
    cases happly
    exact ⟨[], us, x, [], rfl, rfl, .start, hx.loosen hmn⟩
  | group offset h =>
    cases happly
    exact ⟨_, us, x, _, rfl, rfl, h.group offset, hx.loosen hmn⟩
  | call offset function h =>
    cases happly
    exact ⟨_, us, x, _, rfl, rfl, h.call offset function, hx.loosen hmn⟩
  | @operator ts ls ps os cs b l offset h hb hl ih =>
    rw [Parser.applyTighter] at happly
    split at happly
    · cases happly
      exact ⟨_, us, x, _, rfl, rfl, h.operator offset hb hl, hx.loosen hmn⟩
    · rename_i hge
      split at happly
      · cases happly
      · rename_i os₁ hos
        obtain ⟨y, z, rest, e, hheight, rfl⟩ := Operator.apply_binary_eq_ok_iff.1 hos
        cases e
        have hright : x.Stands limit b.right us :=
          hx.loosen (by rw [b.level_right]; exact hps)
        rw [← b.level_whole] at hb hge
        obtain ⟨ts', us', y, rest, hos', hts, hawaits, hy⟩ :=
          ih hb (hl.binary hright hheight) (by omega) happly
        exact ⟨ts', us', y, rest, hos', by simp only [← hts, List.append_assoc, List.cons_append,
          List.nil_append], hawaits, hy⟩

/-- An operand is missing: without an open bracket, the operators that wait use up the others. -/
theorem eq_nil_of_applyTighter {ts : List TokenKind} {ps : List Pending}
    {os os₁ os' : List Operand} {cs : List (Option String)} (h : Awaits limit ts ps os cs)
    (hlen : os₁.length = os.length)
    (happly : Parser.applyTighter limit 1 ps os₁ = .ok ([], os')) : os' = [] := by
  induction h generalizing os₁ with
  | start =>
    cases happly
    exact List.eq_nil_of_length_eq_zero hlen
  | group => cases happly
  | call => cases happly
  | @operator _ _ _ os _ b x _ _ _ _ ih =>
    rw [Parser.applyTighter, if_neg (Nat.not_lt.2 (Operator.precedence_pos _))] at happly
    split at happly
    · cases happly
    · rename_i os₂ hos
      obtain ⟨y, z, rest, rfl, _, rfl⟩ := Operator.apply_binary_eq_ok_iff.1 hos
      refine ih ?_ happly
      simp only [List.length_cons] at hlen ⊢
      omega

end Awaits

namespace Reads

variable {p p' : Parser} {ts : List TokenKind}

theorem awaits (h : Reads limit p ts) (hp : ¬ p.afterOperand = true) :
    Awaits limit ts p.pending p.operands p.calls ∧ p.afterIdentifier = false := by
  cases h with
  | awaiting h => exact ⟨h, rfl⟩
  | name => exact absurd rfl hp
  | operand => exact absurd rfl hp
  | factorial => exact absurd rfl hp

/-- After an operand, applying operators leaves one operand that stands for the tokens since the
innermost operator that still waits. -/
theorem applyTighter {m : Nonterminal} {ps' : List Pending} {os' : List Operand}
    (hlimit : 1 ≤ limit) (h : Reads limit p ts) (hp : p.afterOperand = true) (hm : m.level ≤ 3)
    (happly : Parser.applyTighter limit m.level p.pending p.operands = .ok (ps', os')) :
    ∃ ts' us' y rest, os' = y :: rest ∧ ts = ts' ++ us' ∧ Awaits limit ts' ps' rest p.calls ∧
      y.Stands limit m us' := by
  have hprimary : m.level ≤ Nonterminal.primary.level := Nat.le_succ_of_le hm
  cases h with
  | awaiting => cases hp
  | name function h =>
    exact h.applyTighter (h.loose.mono (by decide)) ⟨.identifier function, rfl, hlimit⟩ hprimary
      happly
  | operand h hx => exact h.applyTighter (h.loose.mono (by decide)) hx hprimary happly
  | factorial offset h hx =>
    have hge : ¬ Operator.factorial.precedence < m.level := Nat.not_lt.2 hm
    rw [Parser.applyTighter, if_neg hge] at happly
    split at happly
    · cases happly
    · rename_i os₁ hos
      obtain ⟨x, rest, e, hheight, rfl⟩ := Operator.apply_factorial_eq_ok_iff.1 hos
      cases e
      exact h.applyTighter (n := .factor) h.loose (hx.factorial hheight) hm happly

/-! ### One token -/

theorem step_operand {offset : Nat} {f : Formula} {isIdentifier : Bool}
    (h : Reads limit p ts) (hstep : p.operand offset f isIdentifier = .ok p') :
    Awaits limit ts p.pending p.operands p.calls ∧
      p' = ⟨.leaf f :: p.operands, p.pending, p.calls, isIdentifier, true⟩ := by
  unfold Parser.operand at hstep
  split at hstep
  · cases hstep
  · rename_i hp
    cases hstep
    exact ⟨(h.awaits hp).1, rfl⟩

theorem step_operator {offset : Nat} {c : Char} (hlimit : 1 ≤ limit) (h : Reads limit p ts)
    (hstep : p.operator limit offset c = .ok p') : Reads limit p' (ts ++ [.operator c]) := by
  unfold Parser.operator at hstep
  split at hstep
  · cases hstep
  rename_i op hop
  obtain rfl := Operator.ofSymbol?_eq_some_iff.1 hop
  split at hstep
  · cases hstep
  rename_i hp
  simp only [Decidable.not_not] at hp
  split at hstep
  · cases hstep
  rename_i ps os happly
  cases hstep
  have hloose := loose_of_applyTighter happly
  cases op with
  | binary b =>
    rw [← b.level_whole] at happly
    obtain ⟨ts', us', y, rest, rfl, rfl, hawaits, hy⟩ :=
      h.applyTighter hlimit hp (by rw [b.level_whole]; have := b.precedence_bounds; omega) happly
    exact .awaiting (hawaits.operator offset hloose hy)
  | factorial =>
    obtain ⟨ts', us', y, rest, rfl, rfl, hawaits, hy⟩ :=
      h.applyTighter (m := .factor) hlimit hp (by decide) happly
    rw [List.append_assoc]
    exact .factorial offset hawaits hy

theorem step_opening {offset : Nat} (h : Reads limit p ts) (hstep : p.opening offset = .ok p') :
    Reads limit p' (ts ++ [.opening]) := by
  unfold Parser.opening at hstep
  cases h with
  | awaiting h =>
    cases hstep
    exact .awaiting (h.group offset)
  | name function h =>
    cases hstep
    rw [List.append_assoc]
    exact .awaiting (h.call offset function)
  | operand => cases hstep
  | factorial => cases hstep

theorem step_closing {offset : Nat} (hlimit : 1 ≤ limit) (h : Reads limit p ts)
    (hstep : p.closing limit offset = .ok p') : Reads limit p' (ts ++ [.closing]) := by
  unfold Parser.closing at hstep
  rw [applyToBracket_eq] at hstep
  split at hstep
  · cases hstep
  rename_i hopen
  split at hstep
  · cases hstep
  rename_i before ps os hbracket
  split at hbracket
  · cases hbracket
  rotate_left
  · cases hbracket
  rename_i happly
  cases hbracket
  by_cases hp : p.afterOperand = true
  · obtain ⟨ts', us, x, rest, rfl, rfl, hawaits, hx⟩ :=
      h.applyTighter (m := .expression) hlimit hp (by decide) happly
    split at hstep
    · cases hstep
    split at hstep
    · cases hstep
    rename_i os hclose
    cases hstep
    generalize p.calls = calls at hawaits hclose
    cases hawaits with
    | group _ hawaits =>
      cases hclose
      have hgroup : x.Stands limit .primary (.opening :: (us ++ [.closing])) :=
        ⟨.group hx.derives, hx.height_eq, hx.height_le⟩
      simpa using Reads.operand hawaits hgroup
    | call _ function hawaits =>
      obtain ⟨y, hy, rfl⟩ := map_eq_ok_iff.1 hclose
      obtain ⟨hheight, rfl⟩ := Operand.above_eq_ok_iff.1 hy
      have hcall : (⟨.call function x.formula, x.height + 1⟩ : Operand).Stands limit .primary
          (.identifier function :: .opening :: (us ++ [.closing])) :=
        ⟨.call function hx.derives, by simp only [Formula.height, hx.height_eq], hheight⟩
      simpa using Reads.operand hawaits hcall
  · have hmem := (suffix_of_applyTighter happly).subset (List.mem_cons_self ..)
    exact absurd ⟨hp, List.any_eq_true.2 ⟨_, hmem, rfl⟩⟩ hopen

/-- **One token keeps what the state says.** -/
theorem step {t : Token} (hlimit : 1 ≤ limit) (h : Reads limit p ts)
    (hstep : p.step limit t = .ok p') : Reads limit p' (ts ++ [t.kind]) := by
  unfold Parser.step at hstep
  cases hkind : t.kind with
  | number value =>
    rw [hkind] at hstep
    obtain ⟨hawaits, rfl⟩ := h.step_operand hstep
    exact .operand hawaits ⟨.number value, rfl, hlimit⟩
  | identifier name =>
    rw [hkind] at hstep
    obtain ⟨hawaits, rfl⟩ := h.step_operand hstep
    exact .name name hawaits
  | operator c =>
    rw [hkind] at hstep
    exact h.step_operator hlimit hstep
  | opening =>
    rw [hkind] at hstep
    exact h.step_opening hstep
  | closing =>
    rw [hkind] at hstep
    exact h.step_closing hlimit hstep

/-- **So does any number of tokens.** -/
theorem run {toks : List Token} (hlimit : 1 ≤ limit) (h : Reads limit p ts)
    (hrun : toks.foldlM (Parser.step limit) p = .ok p') :
    Reads limit p' (ts ++ toks.map (·.kind)) := by
  induction toks generalizing p ts with
  | nil =>
    cases hrun
    simpa using h
  | cons t toks ih =>
    rw [List.foldlM_cons] at hrun
    cases hstep : p.step limit t with
    | error e =>
      rw [hstep] at hrun
      cases hrun
    | ok p₁ =>
      rw [hstep] at hrun
      simpa using ih (h.step hlimit hstep) hrun

theorem finish {length : Nat} {f : Formula} (hlimit : 1 ≤ limit) (h : Reads limit p ts)
    (hfinish : p.finish limit length = .ok f) :
    Nonterminal.expression.Derives ts f ∧ f.height ≤ limit := by
  unfold Parser.finish at hfinish
  rw [applyAll_eq] at hfinish
  cases happly : Parser.applyTighter limit 1 p.pending p.operands with
  | error e =>
    rw [happly] at hfinish
    cases hfinish
  | ok applied =>
    rw [happly] at hfinish
    match applied with
    | (.bracket _ _ :: _, _) => cases hfinish
    | (.operator op _ :: _, _) =>
      exact absurd (loose_of_applyTighter happly) (Nat.not_lt.2 op.precedence_pos)
    | ([], os) =>
      by_cases hp : p.afterOperand = true
      · obtain ⟨ts', us, x, rest, rfl, rfl, hawaits, hx⟩ :=
          h.applyTighter (m := .expression) hlimit hp (by decide) happly
        generalize p.calls = calls at hawaits
        cases hawaits
        cases hfinish
        exact ⟨hx.derives, hx.height_eq ▸ hx.height_le⟩
      · rw [(h.awaits hp).1.eq_nil_of_applyTighter rfl happly] at hfinish
        cases hfinish

end Reads

end Parser

end Logbook
