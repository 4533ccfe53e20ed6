import Logbook.Proofs.Formula.Derivations
import Logbook.Proofs.Formula.Lexemes

/-!
# Characters between tokens

A blank and a closing bracket are part of no token that starts before them. A text with one of them
behind it has the tokens that it has alone, and what comes from there on is cut into tokens on its
own.

* `Lexeme.cut_append` — a token ends before such a character as it does at the end of a text.
* `tokensFrom_append` — the tokens of a text, and after them those from such a character on.
* `map_kind_tokensFrom` — what the tokens are does not hang on the place where a text starts.
* `tokens_append_symbol` / `tokenKinds_inBrackets` — the tokens of a formula with a symbol behind
  it, and in brackets.
-/

namespace Logbook

variable {c d : Char} {rest after : List Char} {p : Char → Bool}

/-! ## Where a token ends -/

/-- A run of characters with a property ends where one without it comes. -/
theorem takeWhile_append_cons (hd : p d = false) (cs after : List Char) :
    (cs ++ d :: after).takeWhile p = cs.takeWhile p := by
  rw [List.takeWhile_append, List.takeWhile_cons_of_neg (by simp [hd]), List.append_nil]
  split
  · rename_i hlength
    exact ((List.takeWhile_sublist p).eq_of_length hlength).symm
  · rfl

theorem dropWhile_append_cons (hd : p d = false) (cs after : List Char) :
    (cs ++ d :: after).dropWhile p = cs.dropWhile p ++ d :: after := by
  rw [List.dropWhile_append, List.dropWhile_cons_of_neg (by simp [hd])]
  split
  · rename_i hempty
    rw [List.isEmpty_iff.1 hempty, List.nil_append]
  · rfl

/-- A character that can stand in no identifier is no digit and no point. -/
theorem not_inNumber_of_not_continues (hd : continuesIdentifier d = false) :
    d.isDigit = false ∧ d ≠ '.' := by
  constructor
  · rw [Bool.eq_false_iff]
    intro hdigit
    simp [continuesIdentifier, isNumeral_of_isDigit hdigit] at hd
  · rintro rfl
    simp [continuesIdentifier] at hd

namespace Lexeme

theorem number_append (hd : continuesIdentifier d = false) (cs after : List Char) :
    number (cs ++ d :: after) =
      { number cs with rest := (number cs).rest ++ d :: after } := by
  obtain ⟨hdigit, hpoint⟩ := not_inNumber_of_not_continues hd
  unfold number Digits.splitDigits
  simp only [takeWhile_append_cons hdigit, dropWhile_append_cons hdigit]
  match cs.dropWhile Char.isDigit with
  | [] => simp [hpoint]
  | [e] =>
    by_cases he : e = '.'
    · simp [he, hdigit]
    · simp [he]
  | e :: f :: rest =>
    by_cases he : e = '.'
    · subst he
      by_cases hf : f.isDigit = true
      · have htake := takeWhile_append_cons hdigit (f :: rest) after
        have hdrop := dropWhile_append_cons hdigit (f :: rest) after
        rw [List.cons_append] at htake hdrop
        simp only [List.cons_append, hf, if_true, htake, hdrop]
      · simp [hf]
    · simp [he]

/-- A token ends before a character that can stand in none, as it does at the end of a text. -/
theorem cut_append (hd : continuesIdentifier d = false) (c : Char) (rest after : List Char) :
    cut c (rest ++ d :: after) =
      { cut c rest with rest := (cut c rest).rest ++ d :: after } := by
  unfold cut
  split
  · exact number_append hd (c :: rest) after
  · split
    · simp only [identifier, takeWhile_append_cons hd, dropWhile_append_cons hd]
    · unfold symbol
      split
      · rfl
      · split <;> rfl

end Lexeme

/-! ## Texts that are put together -/

/-- The tokens of a text come first, and from a character on that can stand in none of them those of
the rest. -/
theorem tokensFrom_append (hd : continuesIdentifier d = false) (offset : Nat)
    (cs after : List Char) :
    tokensFrom offset (cs ++ d :: after) =
      tokensFrom offset cs ++ tokensFrom (offset + byteCount cs) (d :: after) := by
  fun_induction tokensFrom offset cs with
  | case1 offset => rfl
  | case2 offset c rest hblank ih =>
    rw [List.cons_append, tokensFrom, if_pos hblank, ih, byteCount, Nat.add_assoc]
  | case3 offset c rest hblank l ih =>
    have hbytes : byteCount (c :: rest) = byteCount l.chars + byteCount l.rest := by
      rw [← byteCount_append, Lexeme.chars_append_rest]
    rw [List.cons_append, tokensFrom, if_neg hblank]
    simp only [Lexeme.cut_append hd]
    rw [ih, List.cons_append, hbytes, Nat.add_assoc]

/-- What the tokens of a text are does not hang on where it starts. -/
theorem map_kind_tokensFrom (offset offset' : Nat) (cs : List Char) :
    (tokensFrom offset cs).map (·.kind) = (tokensFrom offset' cs).map (·.kind) := by
  fun_induction tokensFrom offset cs generalizing offset' with
  | case1 => rw [tokensFrom]
  | case2 offset c rest hblank ih =>
    rw [tokensFrom, if_pos hblank]
    exact ih _
  | case3 offset c rest hblank l ih =>
    rw [tokensFrom, if_neg hblank, List.map_cons, List.map_cons]
    exact congrArg _ (ih _)

/-- A symbol of its own: no blank, and part of no number, identifier or bracket. -/
structure IsSymbol (c : Char) : Prop where
  not_blank : isBlank c = false
  not_digit : c.isDigit = false
  not_start : startsIdentifier c = false
  not_bracket : c ≠ '(' ∧ c ≠ ')'

theorem tokensFrom_symbol (hc : IsSymbol c) (offset : Nat) :
    tokensFrom offset [c] = [⟨.operator c, offset⟩] := by
  have hcut : Lexeme.cut c [] = ⟨.operator c, [c], []⟩ := by
    simp [Lexeme.cut, Lexeme.symbol, hc.not_digit, hc.not_start, hc.not_bracket]
  rw [tokensFrom, if_neg (by simp [hc.not_blank])]
  simp only [hcut]
  rw [tokensFrom]

/-- The tokens of a formula with a blank and a symbol behind it. -/
theorem tokens_append_symbol (hc : IsSymbol c) (input : String) :
    tokens (input ++ " " ++ String.singleton c) =
      tokens input ++ [⟨.operator c, byteCount input.toList + 1⟩] := by
  have hblank : continuesIdentifier ' ' = false := by decide +kernel
  have htext : (input ++ " " ++ String.singleton c).toList = input.toList ++ ' ' :: [c] := by simp
  rw [tokens, htext, tokensFrom_append hblank, tokensFrom, if_pos (by decide +kernel),
    tokensFrom_symbol hc, Nat.zero_add]
  rfl

/-- A formula in brackets. -/
def inBrackets (formula : String) : String :=
  "(" ++ formula ++ ")"

/-- The tokens of a formula in brackets are its own between those of the brackets. -/
theorem tokenKinds_inBrackets (formula : String) :
    tokenKinds (inBrackets formula) = .opening :: (tokenKinds formula ++ [.closing]) := by
  have hclosing : continuesIdentifier ')' = false := by decide +kernel
  have htext : (inBrackets formula).toList = '(' :: (formula.toList ++ ')' :: []) := by
    simp [inBrackets]
  have hopen : Lexeme.cut '(' (formula.toList ++ ')' :: []) =
      ⟨.opening, ['('], formula.toList ++ ')' :: []⟩ := by
    rw [Lexeme.cut, if_neg (by decide), if_neg (by decide +kernel)]
    rfl
  have hclose : ∀ offset, (tokensFrom offset [')']).map (·.kind) = [.closing] := by
    intro offset
    have hcut : Lexeme.cut ')' [] = ⟨.closing, [')'], []⟩ := by
      rw [Lexeme.cut, if_neg (by decide), if_neg (by decide +kernel)]
      rfl
    rw [tokensFrom, if_neg (by decide +kernel)]
    simp only [hcut]
    rw [tokensFrom]
    rfl
  rw [tokenKinds, tokens, htext, tokensFrom, if_neg (by decide +kernel)]
  simp only [hopen, List.map_cons]
  rw [tokensFrom_append hclosing, List.map_append, hclose, map_kind_tokensFrom _ 0]
  rfl

end Logbook
