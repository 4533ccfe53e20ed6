import Logbook.Proofs.Formula.Derivations

/-!
# The stacks of the reader

Between two tokens the reader keeps finished operands, what waits for operands, and the functions
that are being called. How many entries each of them has can be told from the others, whatever the
tokens are and whether or not they are those of a formula.

* `Parser.InStep` — the heights of the stacks, and where factorials wait.
* `Reads.inStep` — what the state says about the tokens implies them.
* `ParseFault.isOutOfStep` — the faults that only stacks with other heights could have.
* `Reads.step_error` / `Reads.finish_error` — no token and no end of the tokens shows one of them.
* `parse_inStep` — so no text does, and the stacks are in step after each of its tokens.
-/

namespace Logbook

variable {limit : Nat}

/-- Whether a token ends an operand: a number, a name, a closing bracket or a factorial. -/
def TokenKind.endsOperand : TokenKind → Bool
  | number _ | identifier _ | closing => true
  | operator symbol => symbol == '!'
  | opening => false

namespace Pending

/-- Whether it is an operator between two operands. -/
def isBinary : Pending → Bool
  | operator (.binary _) _ => true
  | operator .factorial _ => false
  | bracket _ _ => false

/-- Whether it is a factorial. -/
def isFactorial : Pending → Bool
  | operator (.binary _) _ => false
  | operator .factorial _ => true
  | bracket _ _ => false

end Pending

/-- Whether the last of some tokens ends an operand. -/
def endOperand (ts : List TokenKind) : Bool :=
  ts.getLast?.any TokenKind.endsOperand

theorem endOperand_concat (ts : List TokenKind) (k : TokenKind) :
    endOperand (ts ++ [k]) = k.endsOperand := by
  simp [endOperand]

theorem endOperand_append (ts : List TokenKind) {us : List TokenKind} (hne : us ≠ []) :
    endOperand (ts ++ us) = endOperand us := by
  rw [endOperand, endOperand, List.getLast?_append, List.getLast?_eq_some_getLast hne]
  rfl

/-- The last token of a derivation ends an operand. -/
theorem Nonterminal.Derives.endOperand {n : Nonterminal} {ts : List TokenKind} {f : Formula}
    (h : n.Derives ts f) : ts ≠ [] ∧ endOperand ts = true := by
  induction h with
  | additive _ _ _ _ ihr | multiplicative _ _ _ _ ihr =>
    refine ⟨by simp, ?_⟩
    rw [endOperand_append _ (by simp), ← List.singleton_append, endOperand_append _ ihr.1]
    exact ihr.2
  | ofTerm _ ih | ofFactor _ ih | ofPrimary _ ih => exact ih
  | factorial => exact ⟨by simp, endOperand_concat _ _⟩
  | number => exact ⟨by simp, rfl⟩
  | identifier => exact ⟨by simp, rfl⟩
  | group =>
    refine ⟨by simp, ?_⟩
    rw [← List.cons_append]
    exact endOperand_concat _ _
  | call =>
    refine ⟨by simp, ?_⟩
    rw [← List.cons_append, ← List.cons_append]
    exact endOperand_concat _ _

namespace Parser

/-! ## Heights -/

/-- The stacks fit each other and the tokens that have been read. -/
structure InStep (p : Parser) (ts : List TokenKind) : Prop where
  /-- The reader knows whether an operand has just ended. -/
  afterOperand : p.afterOperand = endOperand ts
  /-- One entry for each open bracket. -/
  calls : p.calls.length = p.pending.countP Pending.isBracket
  /-- A factorial waits on top of everything else, so there is one at most. -/
  factorial : ∀ e ∈ p.pending.tail, e.isFactorial = false
  /-- The left operand of each operator that waits, and the one that has just ended. -/
  operands : p.operands.length =
    p.pending.countP Pending.isBinary + if endOperand ts then 1 else 0
  /-- The same from every open bracket on, with the operands that have come since. -/
  inside : ∀ inner opened before outer, p.pending = inner ++ .bracket opened before :: outer →
    p.operands.length = before + inner.countP Pending.isBinary + if endOperand ts then 1 else 0

namespace Awaits

variable {ts : List TokenKind} {ps : List Pending} {os : List Operand} {cs : List (Option String)}

/-- An operand is missing, so the last token ends none. -/
theorem endOperand (h : Awaits limit ts ps os cs) : endOperand ts = false := by
  cases h with
  | start => rfl
  | @operator _ _ _ _ _ b =>
    rw [endOperand_concat]
    cases b <;> rfl
  | group => exact endOperand_concat _ _
  | call =>
    rw [endOperand_append _ (by simp)]
    rfl

theorem length_calls (h : Awaits limit ts ps os cs) : cs.length = ps.countP Pending.isBracket := by
  induction h with
  | start => rfl
  | operator _ _ _ _ ih => rw [List.countP_cons_of_neg (by simp [Pending.isBracket]), ih]
  | group _ _ ih | call _ _ _ ih =>
    rw [List.countP_cons_of_pos (by simp [Pending.isBracket]), List.length_cons, ih]

theorem not_factorial (h : Awaits limit ts ps os cs) : ∀ e ∈ ps, e.isFactorial = false := by
  induction h with
  | start => simp
  | operator _ _ _ _ ih | group _ _ ih | call _ _ _ ih => exact List.forall_mem_cons.2 ⟨rfl, ih⟩

theorem length_operands (h : Awaits limit ts ps os cs) :
    os.length = ps.countP Pending.isBinary := by
  induction h with
  | start => rfl
  | operator _ _ _ _ ih =>
    rw [List.countP_cons_of_pos (by simp [Pending.isBinary]), List.length_cons, ih]
  | group _ _ ih | call _ _ _ ih =>
    rw [List.countP_cons_of_neg (by simp [Pending.isBinary]), ih]

/-- Since each open bracket as many operands have come as operators. -/
theorem length_inside (h : Awaits limit ts ps os cs) : ∀ inner opened before outer,
    ps = inner ++ .bracket opened before :: outer →
      os.length = before + inner.countP Pending.isBinary := by
  induction h with
  | start => simp
  | @operator _ _ _ _ _ b x offset _ _ _ ih =>
    rintro (_ | ⟨e, inner⟩) opened before outer heq
    · cases heq
    · obtain ⟨rfl, hrest⟩ := List.cons.inj heq
      rw [List.countP_cons_of_pos (by simp [Pending.isBinary]), List.length_cons,
        ih inner opened before outer hrest, Nat.add_assoc]
  | group _ _ ih | call _ _ _ ih =>
    rintro (_ | ⟨e, inner⟩) opened before outer heq
    · cases heq
      rfl
    · obtain ⟨rfl, hrest⟩ := List.cons.inj heq
      rw [List.countP_cons_of_neg (by simp [Pending.isBinary])]
      exact ih inner opened before outer hrest

/-- An operand has come for which the rest waits. -/
theorem inStep_operand (h : Awaits limit ts ps os cs) (x : Operand) (isIdentifier : Bool)
    {us : List TokenKind} (hus : Logbook.endOperand us = true) :
    InStep ⟨x :: os, ps, cs, isIdentifier, true⟩ us where
  afterOperand := hus.symm
  calls := h.length_calls
  factorial e he := h.not_factorial e (List.mem_of_mem_tail he)
  operands := by simp [hus, h.length_operands]
  inside inner opened before outer heq := by
    simp [hus, h.length_inside inner opened before outer heq]

end Awaits

/-- **What the state says about the tokens fixes the heights of the stacks.** -/
theorem Reads.inStep {p : Parser} {ts : List TokenKind} (h : Reads limit p ts) : p.InStep ts := by
  cases h with
  | awaiting h =>
    have hts := h.endOperand
    exact {
      afterOperand := hts.symm
      calls := h.length_calls
      factorial := fun e he => h.not_factorial e (List.mem_of_mem_tail he)
      operands := by simp [hts, h.length_operands]
      inside := fun inner opened before outer heq => by
        simp [hts, h.length_inside inner opened before outer heq] }
  | name function h => exact h.inStep_operand _ _ (endOperand_concat _ _)
  | operand h hx =>
    obtain ⟨hne, hend⟩ := hx.derives.endOperand
    exact h.inStep_operand _ _ ((endOperand_append _ hne).trans hend)
  | @factorial ts us ps os cs x offset h hx =>
    have hend : endOperand (ts ++ (us ++ [.operator '!'])) = true := by
      rw [← List.append_assoc]
      exact endOperand_concat _ _
    have hbelow := h.inStep_operand x false hend
    exact {
      afterOperand := hend.symm
      calls := hbelow.calls
      factorial := h.not_factorial
      operands := hbelow.operands
      inside := by
        rintro (_ | ⟨e, inner⟩) opened before outer heq
        · cases heq
        · obtain ⟨rfl, hrest⟩ := List.cons.inj heq
          exact hbelow.inside inner opened before outer hrest }

end Parser

/-! ## Faults that are never found -/

/-- The faults of a reader whose stacks do not fit: a call without its name or its argument, and
operands too few or too many where an expression ends. -/
def ParseFault.isOutOfStep : ParseFault → Bool
  | namelessCall | crowdedBrackets | missingArgument _ | looseOperands _ => true
  | _ => false

/-- Whether the error shows such a fault. -/
def ParseError.isOutOfStep : ParseError → Bool
  | malformed _ fault => fault.isOutOfStep
  | _ => false

namespace ParseFault

/-- How the messages of the other faults begin. -/
def starts : List String :=
  ["expected a", "operator '", "expression nests", "empty"]

theorem prefix_phrase (start middle last : String) :
    start.toList <+: (start ++ middle ++ last).toList := by
  rw [String.toList_append, String.toList_append, List.append_assoc]
  exact List.prefix_append _ _

theorem exists_start {f : ParseFault} (hf : f.isOutOfStep = false) :
    ∃ start ∈ starts, start.toList <+: f.message.toList := by
  cases f with
  | adjacentOperands | operandBeforeBracket | missingExpression =>
    exact ⟨"expected a", by decide, by decide⟩
  | empty => exact ⟨"empty", by decide, by decide⟩
  | missingLeft | missingOperand => exact ⟨"operator '", by decide, prefix_phrase _ _ _⟩
  | tooDeep limit =>
    have hstart : "expression nests".toList <+: "expression nests deeper than ".toList := by decide
    exact ⟨"expression nests", by decide, hstart.trans (prefix_phrase _ _ _)⟩
  | namelessCall | crowdedBrackets | missingArgument | looseOperands => cases hf

/-- Another letter at the front. -/
theorem not_start_of_head {cs : List Char} {c : Char} (hc : cs.head? = some c)
    (he : c ≠ 'e') (ho : c ≠ 'o') : ∀ start ∈ starts, ¬ start.toList <+: cs := by
  have hheads : ∀ start ∈ starts, start.toList.head? = some 'e' ∨ start.toList.head? = some 'o' := by
    decide
  rintro start hstart ⟨rest, rfl⟩
  rw [List.head?_append] at hc
  rcases hheads start hstart with h | h
  · rw [h] at hc
    exact he (Option.some.inj hc).symm
  · rw [h] at hc
    exact ho (Option.some.inj hc).symm

theorem not_start {g : ParseFault} (hg : g.isOutOfStep = true) :
    ∀ start ∈ starts, ¬ start.toList <+: g.message.toList := by
  cases g with
  | namelessCall | crowdedBrackets => decide
  | missingArgument function =>
    have hf : "function ".toList.head? = some 'f' := by decide
    refine not_start_of_head (c := 'f') ?_ (by decide) (by decide)
    show ("function " ++ function ++ " has no argument").toList.head? = _
    rw [String.toList_append, String.toList_append, List.append_assoc, List.head?_append, hf]
    rfl
  | looseOperands count =>
    obtain ⟨d, ds, hdigits⟩ := List.exists_cons_of_ne_nil (Digits.digits_ne_nil count)
    have hd : d.isDigit = true := Digits.isDigit_of_mem_digits (hdigits ▸ List.mem_cons_self)
    refine not_start_of_head (c := d) ?_ (by rintro rfl; cases hd) (by rintro rfl; cases hd)
    show (String.ofList (Digits.digits count) ++ " operands are missing an operator").toList.head? = _
    rw [String.toList_append, String.toList_ofList, hdigits]
    rfl
  | _ => cases hg

/-- The faults of the stacks have messages of their own. -/
theorem message_ne {f g : ParseFault} (hf : f.isOutOfStep = false) (hg : g.isOutOfStep = true) :
    f.message ≠ g.message := by
  intro heq
  obtain ⟨start, hmem, hstart⟩ := exists_start hf
  exact not_start hg start hmem (heq ▸ hstart)

end ParseFault

variable {e : ParseError} {offset : Nat}

theorem Operand.above_error {f : Formula} {height : Nat}
    (h : above limit f height offset = .error e) : e.isOutOfStep = false := by
  unfold above at h
  split at h
  · cases h
    rfl
  · cases h

theorem Operator.apply_error {op : Operator} {os : List Operand}
    (h : op.apply limit offset os = .error e) : e.isOutOfStep = false := by
  unfold apply at h
  split at h
  · exact Operand.above_error (map_eq_error_iff.1 h)
  · exact Operand.above_error (map_eq_error_iff.1 h)
  · cases h
    rfl

namespace Parser

variable {p : Parser} {ts : List TokenKind}

theorem applyTighter_error {level : Nat} {ps : List Pending} {os : List Operand}
    (h : applyTighter limit level ps os = .error e) : e.isOutOfStep = false := by
  induction ps generalizing os with
  | nil => cases h
  | cons entry ps ih =>
    match entry with
    | .bracket _ _ => cases h
    | .operator op offset =>
      rw [applyTighter] at h
      split at h
      · cases h
      · split at h
        · rename_i happly
          cases h
          exact Operator.apply_error happly
        · exact ih h

theorem close_error {call : Option String} {x : Operand} {os : List Operand}
    (h : close limit offset call (x :: os) = .error e) : e.isOutOfStep = false := by
  unfold close at h
  cases call with
  | none => cases h
  | some function => exact Operand.above_error (map_eq_error_iff.1 h)

namespace Reads

theorem operand_error {f : Formula} {isIdentifier : Bool}
    (h : p.operand offset f isIdentifier = .error e) : e.isOutOfStep = false := by
  unfold Parser.operand at h
  split at h
  · cases h
    rfl
  · cases h

theorem operator_error {symbol : Char} (h : p.operator limit offset symbol = .error e) :
    e.isOutOfStep = false := by
  unfold Parser.operator at h
  split at h
  · cases h
    rfl
  split at h
  · cases h
    rfl
  split at h
  · rename_i happly
    cases h
    exact applyTighter_error happly
  · cases h

/-- A bracket after an identifier finds the name that was read just before. -/
theorem opening_error (hreads : Reads limit p ts) (h : p.opening offset = .error e) :
    e.isOutOfStep = false := by
  unfold Parser.opening at h
  cases hreads with
  | awaiting => cases h
  | name => cases h
  | operand | factorial =>
    cases h
    rfl

/-- A bracket that closes finds one operand more than its partner did. -/
theorem closing_error (hlimit : 1 ≤ limit) (hreads : Reads limit p ts)
    (h : p.closing limit offset = .error e) : e.isOutOfStep = false := by
  unfold Parser.closing at h
  rw [applyToBracket_eq] at h
  split at h
  · cases h
    rfl
  rename_i hopen
  split at h
  · rename_i hbracket
    cases h
    split at hbracket
    · rename_i happly
      cases hbracket
      exact applyTighter_error happly
    · cases hbracket
    · cases hbracket
      rfl
  rename_i before ps os hbracket
  split at hbracket
  · cases hbracket
  rotate_left
  · cases hbracket
  rename_i happly
  cases hbracket
  -- What has come since the bracket is one operand, so those below it are as many as it found.
  by_cases hp : p.afterOperand = true
  · obtain ⟨ts', us, x, rest, rfl, -, hawaits, -⟩ :=
      hreads.applyTighter (m := .expression) hlimit hp (by decide) happly
    have hbefore := hawaits.length_inside [] _ _ _ rfl
    rw [List.countP_nil, Nat.add_zero] at hbefore
    split at h
    · rename_i hcrowded
      rw [List.length_cons, hbefore] at hcrowded
      exact absurd rfl hcrowded
    · split at h
      · rename_i hclose
        cases h
        exact close_error hclose
      · cases h
  · have hmem := (suffix_of_applyTighter happly).subset (List.mem_cons_self ..)
    exact absurd ⟨hp, List.any_eq_true.2 ⟨_, hmem, rfl⟩⟩ hopen

/-- **No token shows a fault of the stacks.** -/
theorem step_error {t : Token} (hlimit : 1 ≤ limit) (hreads : Reads limit p ts)
    (h : p.step limit t = .error e) : e.isOutOfStep = false := by
  unfold Parser.step at h
  split at h
  · exact operand_error h
  · exact operand_error h
  · exact operator_error h
  · exact hreads.opening_error h
  · exact hreads.closing_error hlimit h

/-- **Nor does a run of tokens.** -/
theorem run_error {toks : List Token} (hlimit : 1 ≤ limit) (hreads : Reads limit p ts)
    (h : toks.foldlM (Parser.step limit) p = .error e) : e.isOutOfStep = false := by
  induction toks generalizing p ts with
  | nil => cases h
  | cons t toks ih =>
    rw [List.foldlM_cons, bind_eq_error_iff] at h
    rcases h with hstep | ⟨p', hstep, hrest⟩
    · exact hreads.step_error hlimit hstep
    · exact ih (hreads.step hlimit hstep) hrest

/-- **Nor does the end of the tokens**: with no bracket open, one operand is left or none. -/
theorem finish_error {length : Nat} (hlimit : 1 ≤ limit) (hreads : Reads limit p ts)
    (h : p.finish limit length = .error e) : e.isOutOfStep = false := by
  unfold Parser.finish at h
  rw [applyAll_eq] at h
  cases happly : Parser.applyTighter limit 1 p.pending p.operands with
  | error e =>
    rw [happly] at h
    cases h
    exact applyTighter_error happly
  | ok applied =>
    rw [happly] at h
    match applied with
    | (.bracket _ _ :: _, _) =>
      cases h
      rfl
    | (.operator op _ :: _, _) =>
      exact absurd (loose_of_applyTighter happly) (Nat.not_lt.2 op.precedence_pos)
    | ([], os) =>
      by_cases hp : p.afterOperand = true
      · obtain ⟨ts', us, x, rest, rfl, -, hawaits, -⟩ :=
          hreads.applyTighter (m := .expression) hlimit hp (by decide) happly
        obtain rfl := List.eq_nil_of_length_eq_zero hawaits.length_operands
        cases h
      · rw [(hreads.awaits hp).1.eq_nil_of_applyTighter rfl happly] at h
        cases h
        rfl

end Reads

end Parser

/-- **The stacks of the reader stay in step.** Whatever the text, the reader finds none of the faults
that only stacks with other heights could have, and no error has the message of one of them. After
each token that is read there is one call for each open bracket, at most one factorial, which is on
top of what waits, and in each open bracket, as outside of all, one operand for each binary operator
that waits, and one more exactly if the last token ends an operand. -/
theorem parse_inStep (input : String) :
    (∀ offset fault, Formula.parse input = .error (.malformed offset fault) →
      fault.isOutOfStep = false ∧
        ∀ other : ParseFault, other.isOutOfStep = true → fault.message ≠ other.message) ∧
    ∀ before after p, tokens input = before ++ after →
      before.foldlM (Parser.step maxHeight) Parser.start = .ok p →
        p.InStep (before.map (·.kind)) := by
  have hlimit : 1 ≤ maxHeight := by decide
  have hstart : Parser.Reads maxHeight Parser.start [] := .awaiting .start
  refine ⟨fun offset fault h => ?_, fun before after p _ hrun => (hstart.run hlimit hrun).inStep⟩
  have hfault : (ParseError.malformed offset fault).isOutOfStep = false := by
    unfold Formula.parse Formula.ofTokens at h
    cases hrun : (tokens input).foldlM (Parser.step maxHeight) Parser.start with
    | error e =>
      rw [hrun] at h
      cases h
      exact hstart.run_error hlimit hrun
    | ok p =>
      rw [hrun] at h
      exact (hstart.run hlimit hrun).finish_error hlimit h
  exact ⟨hfault, fun other hother => ParseFault.message_ne hfault hother⟩

/-- In the middle of the argument of a call three operators wait, on top a factorial, and the operands
of the other two. -/
theorem parse_inStep_call : ∃ p : Parser,
    (tokens "f(a+b*c!").foldlM (Parser.step maxHeight) Parser.start = .ok p ∧
      p.pending = [.operator .factorial 7, .operator (.binary .product) 5,
        .operator (.binary .sum) 3, .bracket 1 0] ∧
      p.calls = [some "f"] ∧ p.operands.length = 3 ∧
      p.InStep ((tokens "f(a+b*c!").map (·.kind)) := by
  have hrun : (tokens "f(a+b*c!").foldlM (Parser.step maxHeight) Parser.start =
      .ok ⟨[.leaf (.named "c"), .leaf (.named "b"), .leaf (.named "a")],
        [.operator .factorial 7, .operator (.binary .product) 5, .operator (.binary .sum) 3,
          .bracket 1 0], [some "f"], false, true⟩ := by
    rw [tokens_eq]
    rfl
  exact ⟨_, hrun, rfl, rfl, rfl,
    (parse_inStep "f(a+b*c!").2 _ [] _ (List.append_nil _).symm hrun⟩

end Logbook
