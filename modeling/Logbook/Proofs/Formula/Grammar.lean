import Logbook.Formula.Parser

/-!
# The grammar of formulas

The formulas that can be read, as a grammar over kinds of tokens.

* `Nonterminal.Derives` — the tokens that an expression, a term, a factor or a primary derives, each
  with the tree that the derivation stands for.
* `Derives.loosen` — a primary is a factor, a factor a term and a term an expression.
* `BinaryOperator.derives` — the two rules for binary operators as one.
* `Derives.ofSymbol?_ne_none` — a derivation holds no symbols but those of operators.
-/

namespace Logbook

/-! ## The grammar -/

/-- The nonterminals, from the one that binds least to the one that binds most. -/
inductive Nonterminal where
  | expression
  | term
  | factor
  | primary
deriving DecidableEq, Repr

/-- The symbols between the terms of an expression. -/
inductive IsAdditive : Char → BinaryOperator → Prop where
  | sum : IsAdditive '+' .sum
  | subtraction : IsAdditive '-' .subtraction

/-- The symbols between the factors of a term. -/
inductive IsMultiplicative : Char → BinaryOperator → Prop where
  | product : IsMultiplicative '*' .product
  | division : IsMultiplicative '/' .division
  | modulo : IsMultiplicative '%' .modulo

namespace Nonterminal

/-- The tokens that a nonterminal derives, and the tree of the derivation. Brackets around an
expression leave no trace in the tree, unless a name before them makes them a call. -/
inductive Derives : Nonterminal → List TokenKind → Formula → Prop where
  | additive {c b ls rs l r} : IsAdditive c b → Derives expression ls l → Derives term rs r →
      Derives expression (ls ++ .operator c :: rs) (.binary b l r)
  | ofTerm {ts f} : Derives term ts f → Derives expression ts f
  | multiplicative {c b ls rs l r} : IsMultiplicative c b → Derives term ls l →
      Derives factor rs r → Derives term (ls ++ .operator c :: rs) (.binary b l r)
  | ofFactor {ts f} : Derives factor ts f → Derives term ts f
  | factorial {ts f} : Derives factor ts f → Derives factor (ts ++ [.operator '!']) (.factorial f)
  | ofPrimary {ts f} : Derives primary ts f → Derives factor ts f
  | number (value) : Derives primary [.number value] (.constant value)
  | identifier (name) : Derives primary [.identifier name] (.named name)
  | group {ts f} : Derives expression ts f → Derives primary (.opening :: (ts ++ [.closing])) f
  | call {ts f} (function) : Derives expression ts f →
      Derives primary (.identifier function :: .opening :: (ts ++ [.closing])) (.call function f)

/-! ## Levels -/

/-- The level at which the operators of a nonterminal bind; nothing binds more than a primary. -/
def level : Nonterminal → Nat
  | expression => 1
  | term => 2
  | factor => 3
  | primary => 4

/-- What binds more can stand for what binds less. -/
theorem Derives.loosen {ts : List TokenKind} {f : Formula} :
    ∀ {m n : Nonterminal}, m.level ≤ n.level → n.Derives ts f → m.Derives ts f
  | expression, expression, _, h => h
  | expression, term, _, h => .ofTerm h
  | expression, factor, _, h => .ofTerm (.ofFactor h)
  | expression, primary, _, h => .ofTerm (.ofFactor (.ofPrimary h))
  | term, term, _, h => h
  | term, factor, _, h => .ofFactor h
  | term, primary, _, h => .ofFactor (.ofPrimary h)
  | factor, factor, _, h => h
  | factor, primary, _, h => .ofPrimary h
  | primary, primary, _, h => h
  | term, expression, hmn, _ => absurd hmn (by decide)
  | factor, expression, hmn, _ | factor, term, hmn, _ => absurd hmn (by decide)
  | primary, expression, hmn, _ | primary, term, hmn, _ | primary, factor, hmn, _ =>
    absurd hmn (by decide)

end Nonterminal

namespace BinaryOperator

open Nonterminal

/-- The nonterminal of a binary operator with its operands, and of its left operand. -/
def whole : BinaryOperator → Nonterminal
  | sum | subtraction => expression
  | product | division | modulo => term

/-- The nonterminal of the right operand, one level tighter. -/
def right : BinaryOperator → Nonterminal
  | sum | subtraction => term
  | product | division | modulo => factor

theorem level_whole (b : BinaryOperator) : b.whole.level = (Operator.binary b).precedence := by
  cases b <;> rfl

theorem level_right (b : BinaryOperator) : b.right.level = (Operator.binary b).precedence + 1 := by
  cases b <;> rfl

theorem precedence_bounds (b : BinaryOperator) :
    1 ≤ (Operator.binary b).precedence ∧ (Operator.binary b).precedence ≤ 2 := by
  cases b <;> decide

/-- Both rules for binary operators at once. -/
theorem derives (b : BinaryOperator) {ls rs : List TokenKind} {l r : Formula}
    (hl : b.whole.Derives ls l) (hr : b.right.Derives rs r) :
    b.whole.Derives (ls ++ .operator (Operator.binary b).symbol :: rs) (.binary b l r) := by
  cases b with
  | sum => exact .additive .sum hl hr
  | subtraction => exact .additive .subtraction hl hr
  | product => exact .multiplicative .product hl hr
  | division => exact .multiplicative .division hl hr
  | modulo => exact .multiplicative .modulo hl hr

end BinaryOperator

theorem IsAdditive.ofSymbol? {c : Char} {b : BinaryOperator} (h : IsAdditive c b) :
    Operator.ofSymbol? c = some (.binary b) ∧ b.whole = .expression ∧ b.right = .term := by
  cases h <;> exact ⟨rfl, rfl, rfl⟩

theorem IsMultiplicative.ofSymbol? {c : Char} {b : BinaryOperator} (h : IsMultiplicative c b) :
    Operator.ofSymbol? c = some (.binary b) ∧ b.whole = .term ∧ b.right = .factor := by
  cases h <;> exact ⟨rfl, rfl, rfl⟩

/-- The symbols in a derivation are those of operators. -/
theorem Nonterminal.Derives.ofSymbol?_ne_none {n : Nonterminal} {ts : List TokenKind} {f : Formula}
    (h : n.Derives ts f) {c : Char} (hc : .operator c ∈ ts) : Operator.ofSymbol? c ≠ none := by
  induction h with
  | additive hsymbol _ _ ihl ihr =>
    rcases List.mem_append.1 hc with hc | hc
    · exact ihl hc
    · rcases List.mem_cons.1 hc with hc | hc
      · cases hc
        simp [hsymbol.ofSymbol?.1]
      · exact ihr hc
  | multiplicative hsymbol _ _ ihl ihr =>
    rcases List.mem_append.1 hc with hc | hc
    · exact ihl hc
    · rcases List.mem_cons.1 hc with hc | hc
      · cases hc
        simp [hsymbol.ofSymbol?.1]
      · exact ihr hc
  | factorial _ ih =>
    rcases List.mem_append.1 hc with hc | hc
    · exact ih hc
    · cases List.mem_singleton.1 hc
      decide
  | ofTerm _ ih => exact ih hc
  | ofFactor _ ih => exact ih hc
  | ofPrimary _ ih => exact ih hc
  | number => simp at hc
  | identifier => simp at hc
  | group _ ih => exact ih (by simpa using hc)
  | call _ _ ih => exact ih (by simpa using hc)

end Logbook
