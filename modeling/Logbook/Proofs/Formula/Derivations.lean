import Logbook.Proofs.Formula.ReaderState

/-!
# Reading what the grammar derives

* `Parser.Runs` — wherever an operand is missing, the reader takes in the tokens of a derivation, and
  the operators that then wait come to the tree of the derivation; `Derives.run` shows it for every
  derivation, one lemma for each rule.
* `Formula.ofTokens_eq_ok_iff` — a list of tokens is read exactly as the grammar says.
* `Nonterminal.Derives.unique` — the tokens of an expression have one tree, however high it is.
* `parse_eq_ok_iff` — the same for texts, with the limit that they are read with.
* `tokens_eq`, `tokenKinds_eq` and `Formula.parse_eq` compute with texts that are written out.
-/

namespace Logbook

variable {limit : Nat}

namespace Parser

/-! ## Every derivation is read -/

/-- Between the states `p` and `p'` the tree `f` was read as an `n`: once the operators that bind at
least as an `n` are applied, it is the one operand that has come, and nothing else has changed. -/
structure Completes (limit : Nat) (n : Nonterminal) (f : Formula) (p p' : Parser) : Prop where
  afterOperand : p'.afterOperand = true
  calls : p'.calls = p.calls
  applied : Parser.applyTighter limit n.level p'.pending p'.operands =
    .ok (p.pending, ⟨f, f.height⟩ :: p.operands)

/-- Wherever an operand is missing that may be an `n`, the tokens `us` are read as the tree `f`. -/
def Runs (limit : Nat) (n : Nonterminal) (us : List TokenKind) (f : Formula) : Prop :=
  ∀ (p : Parser) (toks : List Token), toks.map (·.kind) = us → p.afterIdentifier = false →
    p.afterOperand = false → Loose n.level p.pending →
    ∃ p', toks.foldlM (Parser.step limit) p = .ok p' ∧ Completes limit n f p p'

theorem foldlM_step_append {p p₁ : Parser} {toks : List Token}
    (h : toks.foldlM (Parser.step limit) p = .ok p₁) (more : List Token) :
    (toks ++ more).foldlM (Parser.step limit) p = more.foldlM (Parser.step limit) p₁ := by
  rw [List.foldlM_append, h]
  rfl

theorem foldlM_step_cons {p p₁ : Parser} {t : Token} (h : p.step limit t = .ok p₁)
    (more : List Token) :
    (t :: more).foldlM (Parser.step limit) p = more.foldlM (Parser.step limit) p₁ := by
  rw [List.foldlM_cons, h]
  rfl

/-- An operator takes the tree before it as its left operand and waits. -/
theorem Completes.operator {n : Nonterminal} {f : Formula} {p p' : Parser} {c : Char}
    {op : Operator} (h : Completes limit n f p p') (hc : Operator.ofSymbol? c = some op)
    (hn : op.precedence = n.level) (offset : Nat) :
    p'.operator limit offset c = .ok
      ⟨⟨f, f.height⟩ :: p.operands, .operator op offset :: p.pending, p.calls, false,
        decide (op = .factorial)⟩ := by
  unfold Parser.operator
  rw [hc]
  simp only [h.afterOperand, h.calls, hn, h.applied, not_true_eq_false, if_false]

/-- A closing bracket takes the tree since its partner as the operand, or as its argument if the
partner opened a call. -/
theorem Completes.closing {f : Formula} {os os' : List Operand} {ps : List Pending}
    {call : Option String} {cs : List (Option String)} {opened : Nat} {p' : Parser}
    (h : Completes limit .expression f
      ⟨os, .bracket opened os.length :: ps, call :: cs, false, false⟩ p') {offset : Nat}
    (hclose : close limit offset call (⟨f, f.height⟩ :: os) = .ok os') :
    p'.closing limit offset = .ok ⟨os', ps, cs, false, true⟩ := by
  have happlied : Parser.applyTighter limit 1 p'.pending p'.operands =
      .ok (.bracket opened os.length :: ps, ⟨f, f.height⟩ :: os) := h.applied
  unfold Parser.closing
  rw [applyToBracket_eq, happlied]
  simp only [h.afterOperand, h.calls, List.head?_cons, Option.getD_some, List.tail_cons, hclose,
    List.length_cons, not_true_eq_false, false_and, if_false, ne_eq]

namespace Runs

theorem loosen {m n : Nonterminal} {us : List TokenKind} {f : Formula} (hmn : m.level ≤ n.level)
    (h : Runs limit n us f) : Runs limit m us f := by
  intro p toks hkinds hname hoperand hloose
  obtain ⟨p', hrun, hp'⟩ := h p toks hkinds hname hoperand (hloose.mono hmn)
  refine ⟨p', hrun, hp'.afterOperand, hp'.calls, ?_⟩
  rw [applyTighter_trans hmn hp'.applied]
  exact applyTighter_of_loose hloose _

theorem binary {b : BinaryOperator} {c : Char} {ls rs : List TokenKind} {l r : Formula}
    (hc : Operator.ofSymbol? c = some (.binary b)) (hl : Runs limit b.whole ls l)
    (hr : Runs limit b.right rs r) (hheight : (Formula.binary b l r).height ≤ limit) :
    Runs limit b.whole (ls ++ .operator c :: rs) (.binary b l r) := by
  intro p toks hkinds hname hoperand hloose
  obtain ⟨ltoks, rest, rfl, hlkinds, hrest⟩ := List.map_eq_append_iff.1 hkinds
  obtain ⟨t, rtoks, rfl, ht, hrkinds⟩ := List.map_eq_cons_iff.1 hrest
  obtain ⟨p₁, hrun₁, hp₁⟩ := hl p ltoks hlkinds hname hoperand hloose
  have hstep := hp₁.operator hc b.level_whole.symm t.offset
  have htight : Loose b.right.level (.operator (.binary b) t.offset :: p.pending) := by
    rw [b.level_right]
    exact Nat.lt_succ_self _
  obtain ⟨p₂, hrun₂, hp₂⟩ := hr ⟨_, _, p.calls, false, false⟩ rtoks hrkinds rfl rfl htight
  refine ⟨p₂, ?_, hp₂.afterOperand, hp₂.calls, ?_⟩
  · rw [foldlM_step_append hrun₁, foldlM_step_cons (by unfold Parser.step; rw [ht]; exact hstep)]
    exact hrun₂
  · have hle : b.whole.level ≤ b.right.level := by rw [b.level_whole, b.level_right]; omega
    rw [applyTighter_trans hle hp₂.applied, Parser.applyTighter, b.level_whole,
      if_neg (Nat.lt_irrefl _)]
    have happly : (Operator.binary b).apply limit t.offset
        (⟨r, r.height⟩ :: ⟨l, l.height⟩ :: p.operands) =
          .ok (⟨.binary b l r, (Formula.binary b l r).height⟩ :: p.operands) :=
      Operator.apply_binary_eq_ok_iff.2 ⟨_, _, _, rfl, hheight, rfl⟩
    rw [happly, ← b.level_whole]
    exact applyTighter_of_loose hloose _

theorem factorial {us : List TokenKind} {f : Formula} (h : Runs limit .factor us f)
    (hheight : (Formula.factorial f).height ≤ limit) :
    Runs limit .factor (us ++ [.operator '!']) (.factorial f) := by
  intro p toks hkinds hname hoperand hloose
  obtain ⟨toks, rest, rfl, hus, hrest⟩ := List.map_eq_append_iff.1 hkinds
  obtain ⟨t, last, rfl, ht, hlast⟩ := List.map_eq_cons_iff.1 hrest
  obtain rfl := List.map_eq_nil_iff.1 hlast
  obtain ⟨p₁, hrun, hp₁⟩ := h p toks hus hname hoperand hloose
  have hbang : Operator.ofSymbol? '!' = some .factorial := rfl
  have hstep := hp₁.operator hbang rfl t.offset
  refine ⟨⟨⟨f, f.height⟩ :: p.operands, .operator .factorial t.offset :: p.pending, p.calls, false,
    true⟩, ?_, rfl, rfl, ?_⟩
  · rw [foldlM_step_append hrun, foldlM_step_cons (by unfold Parser.step; rw [ht]; exact hstep)]
    rfl
  · have hge : ¬ Operator.factorial.precedence < Nonterminal.factor.level := Nat.lt_irrefl _
    have happly : Operator.factorial.apply limit t.offset (⟨f, f.height⟩ :: p.operands) =
        .ok (⟨.factorial f, (Formula.factorial f).height⟩ :: p.operands) :=
      Operator.apply_factorial_eq_ok_iff.2 ⟨_, _, rfl, hheight, rfl⟩
    rw [Parser.applyTighter, if_neg hge, happly]
    exact applyTighter_of_loose hloose _

/-- A number or a name. -/
theorem leaf (isIdentifier : Bool) {k : TokenKind} {f : Formula} (hf : f.height = 1)
    (hstep : ∀ (p : Parser) (t : Token), t.kind = k →
      p.step limit t = p.operand t.offset f isIdentifier) : Runs limit .primary [k] f := by
  intro p toks hkinds hname hoperand hloose
  obtain ⟨t, rest, rfl, ht, hrest⟩ := List.map_eq_cons_iff.1 hkinds
  obtain rfl := List.map_eq_nil_iff.1 hrest
  have hp : p.step limit t = .ok ⟨.leaf f :: p.operands, p.pending, p.calls, isIdentifier, true⟩ := by
    rw [hstep p t ht]
    simp [Parser.operand, hoperand]
  refine ⟨_, foldlM_step_cons hp [], rfl, rfl, ?_⟩
  rw [hf]
  exact applyTighter_of_loose hloose _

/-- A bracketed expression, given the state after the bracket that opens it. -/
theorem bracketed {us : List TokenKind} {f : Formula} (h : Runs limit .expression us f)
    {os os' : List Operand} {ps : List Pending} {call : Option String} {cs : List (Option String)}
    {opened : Nat} {toks : List Token} (hkinds : toks.map (·.kind) = us ++ [.closing])
    (hclose : ∀ offset, close limit offset call (⟨f, f.height⟩ :: os) = .ok os') :
    toks.foldlM (Parser.step limit) ⟨os, .bracket opened os.length :: ps, call :: cs, false, false⟩ =
      .ok ⟨os', ps, cs, false, true⟩ := by
  obtain ⟨inner, rest, rfl, hus, hrest⟩ := List.map_eq_append_iff.1 hkinds
  obtain ⟨t, last, rfl, ht, hlast⟩ := List.map_eq_cons_iff.1 hrest
  obtain rfl := List.map_eq_nil_iff.1 hlast
  obtain ⟨p', hrun, hp'⟩ := h ⟨os, .bracket opened os.length :: ps, call :: cs, false, false⟩ inner
    hus rfl rfl trivial
  have hstep := hp'.closing (hclose t.offset)
  rw [foldlM_step_append hrun, foldlM_step_cons (by unfold Parser.step; rw [ht]; exact hstep)]
  rfl

theorem group {us : List TokenKind} {f : Formula} (h : Runs limit .expression us f) :
    Runs limit .primary (.opening :: (us ++ [.closing])) f := by
  intro p toks hkinds hname hoperand hloose
  obtain ⟨t, rest, rfl, ht, hrest⟩ := List.map_eq_cons_iff.1 hkinds
  have hstep : p.step limit t = .ok (p.push t.offset none p.operands) := by
    unfold Parser.step
    rw [ht]
    simp [Parser.opening, hname, hoperand]
  refine ⟨⟨⟨f, f.height⟩ :: p.operands, p.pending, p.calls, false, true⟩, ?_, rfl, rfl,
    applyTighter_of_loose hloose _⟩
  rw [foldlM_step_cons hstep]
  exact h.bracketed hrest fun _ => rfl

theorem call {us : List TokenKind} {f : Formula} (function : String)
    (h : Runs limit .expression us f) (hheight : (Formula.call function f).height ≤ limit) :
    Runs limit .primary (.identifier function :: .opening :: (us ++ [.closing]))
      (.call function f) := by
  intro p toks hkinds hname hoperand hloose
  obtain ⟨t, rest, rfl, ht, hrest⟩ := List.map_eq_cons_iff.1 hkinds
  obtain ⟨t', rest, rfl, ht', hrest⟩ := List.map_eq_cons_iff.1 hrest
  have hstep : p.step limit t =
      .ok ⟨.leaf (.named function) :: p.operands, p.pending, p.calls, true, true⟩ := by
    unfold Parser.step
    rw [ht]
    simp [Parser.operand, hoperand]
  have hopen : Parser.step limit
      ⟨.leaf (.named function) :: p.operands, p.pending, p.calls, true, true⟩ t' =
        .ok (p.push t'.offset (some function) p.operands) := by
    unfold Parser.step
    rw [ht']
    rfl
  have hclose : ∀ offset, close limit offset (some function) (⟨f, f.height⟩ :: p.operands) =
      .ok (⟨.call function f, (Formula.call function f).height⟩ :: p.operands) := fun offset =>
    map_eq_ok_iff.2 ⟨_, Operand.above_eq_ok offset hheight, rfl⟩
  refine ⟨⟨_ :: p.operands, p.pending, p.calls, false, true⟩, ?_, rfl, rfl,
    applyTighter_of_loose hloose _⟩
  rw [foldlM_step_cons hstep, foldlM_step_cons hopen]
  exact h.bracketed hrest hclose

end Runs

end Parser

namespace Nonterminal

open Logbook.Parser

/-- **The reader gets through the tokens of every derivation.** -/
theorem Derives.run {n : Nonterminal} {us : List TokenKind} {f : Formula} (h : n.Derives us f)
    (hheight : f.height ≤ limit) : Runs limit n us f := by
  induction h with
  | @additive c b ls rs l r hc _ _ ihl ihr =>
    obtain ⟨hsymbol, hwhole, hright⟩ := hc.ofSymbol?
    rw [← hwhole] at ihl ⊢
    rw [← hright] at ihr
    have : l.height ≤ limit ∧ r.height ≤ limit := by
      simp only [Formula.height] at hheight
      omega
    exact .binary hsymbol (ihl this.1) (ihr this.2) hheight
  | ofTerm _ ih => exact (ih hheight).loosen (by decide)
  | @multiplicative c b ls rs l r hc _ _ ihl ihr =>
    obtain ⟨hsymbol, hwhole, hright⟩ := hc.ofSymbol?
    rw [← hwhole] at ihl ⊢
    rw [← hright] at ihr
    have : l.height ≤ limit ∧ r.height ≤ limit := by
      simp only [Formula.height] at hheight
      omega
    exact .binary hsymbol (ihl this.1) (ihr this.2) hheight
  | ofFactor _ ih => exact (ih hheight).loosen (by decide)
  | factorial _ ih => exact (ih (Nat.le_of_succ_le hheight)).factorial hheight
  | ofPrimary _ ih => exact (ih hheight).loosen (by decide)
  | number value =>
    refine .leaf false rfl fun p t ht => ?_
    unfold Parser.step
    rw [ht]
  | identifier name =>
    refine .leaf true rfl fun p t ht => ?_
    unfold Parser.step
    rw [ht]
  | group _ ih => exact (ih hheight).group
  | call function _ ih => exact (ih (Nat.le_of_succ_le hheight)).call function hheight

end Nonterminal

/-! ## Reading a formula -/

namespace Formula

open Logbook.Parser Nonterminal

/-- **A list of tokens is read exactly as the grammar says, up to the limit on levels.** -/
theorem ofTokens_eq_ok_iff (hlimit : 1 ≤ limit) (toks : List Token) (length : Nat) {f : Formula} :
    ofTokens limit toks length = .ok f ↔
      expression.Derives (toks.map (·.kind)) f ∧ f.height ≤ limit := by
  unfold ofTokens
  constructor
  · intro h
    cases hrun : toks.foldlM (Parser.step limit) Parser.start with
    | error e =>
      rw [hrun] at h
      cases h
    | ok p =>
      rw [hrun] at h
      exact ((Reads.awaiting .start).run hlimit hrun).finish hlimit h
  · rintro ⟨hderives, hheight⟩
    obtain ⟨p, hrun, hp⟩ := hderives.run hheight Parser.start toks rfl rfl rfl trivial
    have happlied : applyTighter limit 1 p.pending p.operands = .ok ([], [⟨f, f.height⟩]) :=
      hp.applied
    rw [hrun]
    simp only [finish, applyAll_eq, happlied]

end Formula

/-- **The tokens of an expression have one tree**, also if it has more levels than a reader allows:
a reader with a higher limit gives it. -/
theorem Nonterminal.Derives.unique {ts : List TokenKind} {f g : Formula}
    (hf : expression.Derives ts f) (hg : expression.Derives ts g) : f = g := by
  let toks : List Token := ts.map (⟨·, 0⟩)
  have hkinds : toks.map (·.kind) = ts := by simp [toks, Function.comp_def]
  let limit := max 1 (max f.height g.height)
  have hlimit : 1 ≤ limit := Nat.le_max_left _ _
  have hf' := (Formula.ofTokens_eq_ok_iff hlimit toks 0).2 ⟨hkinds ▸ hf, by omega⟩
  have hg' := (Formula.ofTokens_eq_ok_iff hlimit toks 0).2 ⟨hkinds ▸ hg, by omega⟩
  rw [hf'] at hg'
  exact Except.ok.inj hg'

/-- The kinds of the tokens of a formula. -/
def tokenKinds (input : String) : List TokenKind :=
  (tokens input).map (·.kind)

/-- The tokens of a text, cut off one after the other while there is fuel. The recursion is on the
fuel alone, so that the tokens of a text that is written out can be computed. -/
def tokensWithin : (fuel offset : Nat) → List Char → List Token
  | 0, _, _ | _ + 1, _, [] => []
  | fuel + 1, offset, c :: rest =>
    if isBlank c then tokensWithin fuel (offset + c.utf8Size) rest
    else
      let l := Lexeme.cut c rest
      ⟨l.kind, offset⟩ :: tokensWithin fuel (offset + byteCount l.chars) l.rest

/-- Fuel for each character is enough. -/
theorem tokensFrom_eq {fuel : Nat} {cs : List Char} (h : cs.length ≤ fuel) (offset : Nat) :
    tokensFrom offset cs = tokensWithin fuel offset cs := by
  induction fuel generalizing cs offset with
  | zero => rw [List.eq_nil_of_length_eq_zero (Nat.le_zero.1 h), tokensFrom, tokensWithin]
  | succ fuel ih =>
    cases cs with
    | nil => rw [tokensFrom, tokensWithin]
    | cons c rest =>
      have hrest : rest.length ≤ fuel := Nat.le_of_succ_le_succ h
      have hcut := Nat.le_trans (Lexeme.length_rest_cut c rest) hrest
      rw [tokensFrom, tokensWithin, ih hrest]
      dsimp only
      rw [ih hcut]

theorem tokens_eq (input : String) :
    tokens input = tokensWithin input.toList.length 0 input.toList :=
  tokensFrom_eq (Nat.le_refl _) 0

theorem tokenKinds_eq (input : String) :
    tokenKinds input = (tokensWithin input.toList.length 0 input.toList).map (·.kind) := by
  rw [tokenKinds, tokens_eq]

theorem Formula.parse_eq (input : String) :
    parse input = ofTokens maxHeight (tokensWithin input.toList.length 0 input.toList)
      (byteCount input.toList) := by
  rw [parse, tokens_eq]

theorem Formula.parse_eq_ok_iff_derives {input : String} {f : Formula} :
    parse input = .ok f ↔
      Nonterminal.expression.Derives (tokenKinds input) f ∧ f.height ≤ maxHeight :=
  ofTokens_eq_ok_iff (by decide) _ _

/-- **A formula is read as a tree exactly if the grammar derives its tokens with that tree and the
tree has `maxHeight` levels at most.** The tree is the only one of the tokens. A formula outside the
grammar, with a symbol that is no operator, or with a higher tree is refused. -/
theorem parse_eq_ok_iff (input : String) :
    (∀ f, Formula.parse input = .ok f ↔
      Nonterminal.expression.Derives (tokenKinds input) f ∧ f.height ≤ maxHeight) ∧
    (∀ f g, Nonterminal.expression.Derives (tokenKinds input) f →
      Nonterminal.expression.Derives (tokenKinds input) g → f = g) ∧
    ((∀ f, Nonterminal.expression.Derives (tokenKinds input) f → maxHeight < f.height) →
      ∃ e, Formula.parse input = .error e) ∧
    (∀ c, .operator c ∈ tokenKinds input → Operator.ofSymbol? c = none →
      ∃ e, Formula.parse input = .error e) := by
  have hiff : ∀ f, Formula.parse input = .ok f ↔
      Nonterminal.expression.Derives (tokenKinds input) f ∧ f.height ≤ maxHeight :=
    fun f => Formula.ofTokens_eq_ok_iff (by decide) _ _
  have hrefused : (∀ f, Formula.parse input ≠ .ok f) → ∃ e, Formula.parse input = .error e := by
    intro h
    cases hparse : Formula.parse input with
    | error e => exact ⟨e, rfl⟩
    | ok f => exact absurd hparse (h f)
  refine ⟨hiff, fun f g => Nonterminal.Derives.unique, fun h => ?_, fun c hc hnone => ?_⟩
  · exact hrefused fun f hf => Nat.not_lt.2 ((hiff f).1 hf).2 (h f ((hiff f).1 hf).1)
  · exact hrefused fun f hf => ((hiff f).1 hf).1.ofSymbol?_ne_none hc hnone

end Logbook
