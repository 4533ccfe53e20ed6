import Logbook.Proofs.Formula.Separators

/-!
# Operators without a right operand

A formula with a binary operator behind it has no tree. The reader finds out when all tokens are
read: it applies the operators that wait, the innermost first, and blames the first of them that
finds an operand too few. That is the operator at the end only if nothing else waits.

* `finish_one` / `finish_two` — the end of the tokens with one and with two operators that wait.
* `Derives.whole_or_sum` — a formula that is no left operand of an operator is a sum or a difference.
* `ofTokens_dangling` / `ofTokens_dangling_sum` — which operator is blamed for these two.
* `parse_dangling_eq_iff` — the operator at the end is blamed exactly if the formula before it is its
  left operand.
-/

namespace Logbook

variable {limit length offset offset' : Nat} {a b : BinaryOperator} {cs : List (Option String)}
  {x y : Operand} {t u : Token} {toks before after : List Token} {f l r : Formula}

namespace Parser

/-- A binary operator takes the tree before it as its left operand and waits for the right one. -/
theorem Completes.step_binary {n : Nonterminal} {p p' : Parser} (h : Completes limit n f p p')
    (hn : (Operator.binary b).precedence = n.level)
    (ht : t.kind = .operator (Operator.binary b).symbol) :
    p'.step limit t = .ok ⟨⟨f, f.height⟩ :: p.operands, .operator (.binary b) t.offset :: p.pending,
      p.calls, false, false⟩ := by
  unfold step
  rw [ht]
  exact h.operator (Operator.ofSymbol?_eq_some_iff.2 rfl) hn t.offset

/-- One operator waits and has its left operand only. -/
theorem finish_one :
    (⟨[x], [.operator (.binary b) offset], cs, false, false⟩ : Parser).finish limit length =
      .error (.malformed offset (.missingOperand (.binary b))) := rfl

/-- Two operators wait and have their left operands only. The inner one takes both of them, as if
the second stood on its right, and leaves too few for the outer one. -/
theorem finish_two (hheight : max x.height y.height + 1 ≤ limit) :
    (⟨[y, x], [.operator (.binary b) offset, .operator (.binary a) offset'], cs, false, false⟩ :
        Parser).finish limit length =
      .error (.malformed offset' (.missingOperand (.binary a))) := by
  have happly : (Operator.binary b).apply limit offset [y, x] =
      .ok [⟨.binary b x.formula y.formula, max x.height y.height + 1⟩] :=
    Operator.apply_binary_eq_ok_iff.2 ⟨y, x, [], rfl, hheight, rfl⟩
  unfold finish
  simp only [applyAll, happly]
  rfl

end Parser

/-! ## Left operands -/

/-- A binary operator either leaves its formula room for one more of the operators that bind as it
does, or the formula is a sum or a difference and the operator binds more. -/
theorem Nonterminal.Derives.whole_or_sum {ts : List TokenKind} (h : expression.Derives ts f)
    (b : BinaryOperator) :
    b.whole.Derives ts f ∨ b.whole = .term ∧ ∃ a ls rs l r, a.whole = .expression ∧
      ts = ls ++ .operator (Operator.binary a).symbol :: rs ∧ f = .binary a l r ∧
      expression.Derives ls l ∧ term.Derives rs r := by
  cases hb : b.whole with
  | expression => exact .inl h
  | term =>
    cases h with
    | @additive c a ls rs l r hc hl hr =>
      obtain ⟨hsymbol, hwhole, -⟩ := hc.ofSymbol?
      refine .inr ⟨rfl, a, ls, rs, l, r, hwhole, ?_, rfl, hl, hr⟩
      rw [Operator.ofSymbol?_eq_some_iff.1 hsymbol]
    | ofTerm h => exact .inl h
  | factor => cases b <;> cases hb
  | primary => cases b <;> cases hb

/-! ## The operator that is blamed -/

namespace Formula

open Logbook.Parser Nonterminal

/-- The operator at the end is blamed if what is before it is its left operand. -/
theorem ofTokens_dangling (h : b.whole.Derives (toks.map (·.kind)) f) (hheight : f.height ≤ limit)
    (ht : t.kind = .operator (Operator.binary b).symbol) :
    ofTokens limit (toks ++ [t]) length =
      .error (.malformed t.offset (.missingOperand (.binary b))) := by
  obtain ⟨p, hrun, hp⟩ := h.run hheight Parser.start toks rfl rfl rfl trivial
  unfold ofTokens
  rw [foldlM_step_append hrun, foldlM_step_cons (hp.step_binary b.level_whole.symm ht)]
  exact finish_one

/-- If a sum or a difference is before an operator that binds more, its own operator is blamed. -/
theorem ofTokens_dangling_sum (ha : a.whole = .expression) (hb : b.whole = .term)
    (hl : expression.Derives (before.map (·.kind)) l) (hr : term.Derives (after.map (·.kind)) r)
    (hheight : (Formula.binary a l r).height ≤ limit)
    (ht : t.kind = .operator (Operator.binary a).symbol)
    (hu : u.kind = .operator (Operator.binary b).symbol) :
    ofTokens limit (before ++ t :: after ++ [u]) length =
      .error (.malformed t.offset (.missingOperand (.binary a))) := by
  have hle : l.height ≤ limit ∧ r.height ≤ limit := by
    simp only [height] at hheight
    omega
  -- The left operand, and its operator, which waits.
  rw [← ha] at hl
  obtain ⟨p, hrun, hp⟩ := hl.run hle.1 Parser.start before rfl rfl rfl trivial
  have hstep : p.step limit t =
      .ok ⟨[⟨l, l.height⟩], [.operator (.binary a) t.offset], [], false, false⟩ :=
    hp.step_binary a.level_whole.symm ht
  -- The right operand, which the operator at the end takes for its left one.
  have hloose : Loose term.level [.operator (.binary a) t.offset] := by
    show (Operator.binary a).precedence < 2
    rw [← a.level_whole, ha]
    decide
  obtain ⟨p', hrun', hp'⟩ := hr.run hle.2
    ⟨[⟨l, l.height⟩], [.operator (.binary a) t.offset], [], false, false⟩ after rfl rfl rfl hloose
  have hstep' := hp'.step_binary (hb ▸ b.level_whole.symm) hu
  unfold ofTokens
  rw [List.append_assoc, foldlM_step_append hrun, List.cons_append, foldlM_step_cons hstep,
    foldlM_step_append hrun', foldlM_step_cons hstep']
  exact finish_two hheight

/-- A formula with a blank and a binary operator behind it. -/
def dangling (input : String) (b : BinaryOperator) : String :=
  input ++ " " ++ String.singleton (Operator.binary b).symbol

theorem isSymbol_of_operator (op : Operator) : IsSymbol op.symbol := by
  rcases op with (_ | _ | _ | _ | _) | _ <;> constructor <;> decide +kernel

theorem tokens_dangling (input : String) (b : BinaryOperator) :
    tokens (dangling input b) =
      tokens input ++ [⟨.operator (Operator.binary b).symbol, input.utf8ByteSize + 1⟩] := by
  rw [dangling, tokens_append_symbol (isSymbol_of_operator _), byteCount_eq_utf8ByteSize,
    String.ofList_toList]

/-- The operator at the end is blamed if the formula before it is its left operand. -/
theorem parse_dangling_of_whole {input : String} (h : parse input = .ok f)
    (hwhole : b.whole.Derives (tokenKinds input) f) : parse (dangling input b) =
      .error (.malformed (input.utf8ByteSize + 1) (.missingOperand (.binary b))) := by
  rw [parse, tokens_dangling]
  exact ofTokens_dangling hwhole (parse_eq_ok_iff_derives.1 h).2 rfl

/-- Otherwise the last `+` or `-` between the terms of the formula is blamed. -/
theorem parse_dangling_of_not_whole {input : String} (h : parse input = .ok f)
    (hwhole : ¬ b.whole.Derives (tokenKinds input) f) : ∃ before t after a l r,
      tokens input = before ++ t :: after ∧ t.kind = .operator (Operator.binary a).symbol ∧
        t.offset < input.utf8ByteSize + 1 ∧ a.whole = .expression ∧ f = .binary a l r ∧
        expression.Derives (before.map (·.kind)) l ∧ term.Derives (after.map (·.kind)) r ∧
        parse (dangling input b) =
          .error (.malformed t.offset (.missingOperand (.binary a))) := by
  obtain ⟨hderives, hheight⟩ := parse_eq_ok_iff_derives.1 h
  have htokens := tokens_dangling input b
  obtain ⟨hb, a, ls, rs, l, r, ha, hkinds, rfl, hl, hr⟩ :=
    (hderives.whole_or_sum b).resolve_left hwhole
  obtain ⟨before, rest, hinput, rfl, hrest⟩ := List.map_eq_append_iff.1 hkinds
  obtain ⟨t, after, rfl, ht, rfl⟩ := List.map_eq_cons_iff.1 hrest
  have hoffset : t.offset < input.utf8ByteSize + 1 := by
    have hpairwise := pairwise_tokensFrom 0 (dangling input b).toList
    rw [← tokens, htokens, List.pairwise_append] at hpairwise
    exact hpairwise.2.2 t (by simp [hinput]) _ List.mem_cons_self
  refine ⟨before, t, after, a, l, r, hinput, ht, hoffset, ha, rfl, hl, hr, ?_⟩
  rw [parse, htokens, hinput]
  exact ofTokens_dangling_sum ha hb hl hr hheight ht rfl

/-- **Which operator is blamed for a missing operand at the end.** If a formula can be read, it cannot
be with a binary operator behind it. The error is at the place of this operator, and its message
names it, exactly if the formula is a left operand of the operator as it stands: always before `+`
and `-`, and before the others if it is a single term. Before these a sum or a difference of terms
makes the reader blame the last `+` or `-` between its terms, at an earlier place. -/
theorem parse_dangling_eq_iff {input : String} (h : parse input = .ok f) (b : BinaryOperator) :
    tokens (dangling input b) =
      tokens input ++ [⟨.operator (Operator.binary b).symbol, input.utf8ByteSize + 1⟩] ∧
    (ParseFault.missingOperand (.binary b)).message =
      "operator '" ++ (Operator.binary b).symbol.toString ++ "' is missing an operand" ∧
    (parse (dangling input b) =
        .error (.malformed (input.utf8ByteSize + 1) (.missingOperand (.binary b))) ↔
      b.whole.Derives (tokenKinds input) f) ∧
    (¬ b.whole.Derives (tokenKinds input) f → ∃ before t after a l r,
      tokens input = before ++ t :: after ∧ t.kind = .operator (Operator.binary a).symbol ∧
        t.offset < input.utf8ByteSize + 1 ∧ a.whole = .expression ∧ f = .binary a l r ∧
        expression.Derives (before.map (·.kind)) l ∧ term.Derives (after.map (·.kind)) r ∧
        parse (dangling input b) = .error (.malformed t.offset (.missingOperand (.binary a)))) := by
  refine ⟨tokens_dangling input b, rfl, ⟨fun herror => ?_, parse_dangling_of_whole h⟩,
    parse_dangling_of_not_whole h⟩
  by_contra hwhole
  obtain ⟨_, t, _, _, _, _, _, _, hoffset, _, _, _, _, hother⟩ :=
    parse_dangling_of_not_whole h hwhole
  have heq := hother.symm.trans herror
  simp only [Except.error.injEq, ParseError.malformed.injEq] at heq
  omega

/-- A product with a sum in brackets is a left operand of a division, which is blamed. -/
theorem parse_dangling_product :
    parse "c*(a+b)" = .ok (.binary .product (.named "c") (.binary .sum (.named "a") (.named "b"))) ∧
      BinaryOperator.division.whole.Derives (tokenKinds "c*(a+b)")
        (.binary .product (.named "c") (.binary .sum (.named "a") (.named "b"))) ∧
      parse (dangling "c*(a+b)" .division) =
        .error (.malformed 8 (.missingOperand (.binary .division))) := by
  have hparse : parse "c*(a+b)" =
      .ok (.binary .product (.named "c") (.binary .sum (.named "a") (.named "b"))) :=
    (Formula.parse_eq _).trans rfl
  have hkinds : tokenKinds "c*(a+b)" = [.identifier "c", .operator '*', .opening, .identifier "a",
      .operator '+', .identifier "b", .closing] := (tokenKinds_eq _).trans rfl
  have hsum : expression.Derives [.identifier "a", .operator '+', .identifier "b"]
      (.binary .sum (.named "a") (.named "b")) :=
    .additive .sum (.ofTerm (.ofFactor (.ofPrimary (.identifier "a"))))
      (.ofFactor (.ofPrimary (.identifier "b")))
  have hwhole : BinaryOperator.division.whole.Derives (tokenKinds "c*(a+b)")
      (.binary .product (.named "c") (.binary .sum (.named "a") (.named "b"))) := by
    rw [hkinds]
    exact .multiplicative .product (.ofFactor (.ofPrimary (.identifier "c")))
      (.ofPrimary (.group hsum))
  have hblamed := (parse_dangling_eq_iff hparse .division).2.2.1.2 hwhole
  have hbytes : "c*(a+b)".utf8ByteSize = 7 := by decide
  rw [hbytes] at hblamed
  exact ⟨hparse, hwhole, hblamed⟩

/-- **The operator at the end is not always the one that is blamed.** Behind a sum a product lacks its
right operand, but the reader blames the sum, which has both of its own. -/
theorem parse_dangling_after_sum :
    parse "a+b" = .ok (.binary .sum (.named "a") (.named "b")) ∧
      dangling "a+b" .product = "a+b *" ∧
      tokens "a+b *" = tokens "a+b" ++ [⟨.operator '*', 4⟩] ∧
      parse "a+b *" = .error (.malformed 1 (.missingOperand (.binary .sum))) ∧
      ∀ fault, parse "a+b *" ≠ .error (.malformed 4 fault) := by
  have hdangling : dangling "a+b" .product = "a+b *" := by decide +kernel
  have htokens := tokens_dangling "a+b" .product
  have hbytes : "a+b".utf8ByteSize = 3 := by decide
  rw [hdangling, hbytes] at htokens
  have herror : parse "a+b *" = .error (.malformed 1 (.missingOperand (.binary .sum))) :=
    (Formula.parse_eq _).trans rfl
  refine ⟨(Formula.parse_eq _).trans rfl, hdangling, htokens, herror, fun fault h => ?_⟩
  rw [herror] at h
  cases h

end Formula

end Logbook
