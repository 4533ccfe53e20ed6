import Logbook.Document.Formula
import Logbook.Proofs.Document.Values
import Logbook.Proofs.Formula.Lookups

/-!
# Formulas as documents and back

A formula that is written as a document need not be read again: the reader of documents nests fewer
containers than a formula may have levels, and there is no JSON for an infinity.

* `complete_json`, `holds_json` — what is written of a formula can be written, and it can be kept up
  to `Json.maxDepth` levels.
* `ofJson?_node` — a node is read from the values of its fields; `ofJson?_json` puts this together.
* `ofDocument_json` — which formulas are read back.
* `ofDocument_of_parse` — the same from the text of the formula; `ofDocument_refused` has two that
  are lost.
-/

namespace Logbook

/-! ## Constants -/

namespace Document

theorem holds_writeFloat (x : Float) (room : Nat) : (writeFloat x).holds room = true := by
  cases h : x.isFinite with
  | true =>
    obtain ⟨d, hd, hx⟩ := writeFloat_of_isFinite h
    rw [hd, Json.holds, hx, h]
  | false => rw [writeFloat_of_not_isFinite h, Json.holds]

end Document

namespace Formula

open Document

/-- Whether all constants of the formula are finite numbers. -/
def finiteConstants : Formula → Bool
  | constant x => x.isFinite
  | named _ => true
  | call _ operand => operand.finiteConstants
  | factorial operand => operand.finiteConstants
  | binary _ left right => left.finiteConstants && right.finiteConstants

theorem finiteConstants_iff {f : Formula} :
    f.finiteConstants = true ↔ ∀ x, constant x ∈ f.parts → x.isFinite = true := by
  induction f with
  | constant x => simp [finiteConstants, parts]
  | named name => simp [finiteConstants, parts]
  | call function operand ih => simp [finiteConstants, parts, ih]
  | factorial operand ih => simp [finiteConstants, parts, ih]
  | binary operator left right ihl ihr =>
    simp [finiteConstants, parts, ihl, ihr, or_imp, forall_and]

/-! ## Writing -/

theorem complete_json (f : Formula) : f.json.complete = true := by
  induction f with
  | constant x =>
    have := complete_writeFloat x
    simp [json, node, field, NodeKind.fields, Json.complete, Json.completeMembers, this]
  | named name => simp [json, node, field, NodeKind.fields, Json.complete, Json.completeMembers]
  | call function operand ih =>
    simp [json, node, field, NodeKind.fields, Json.complete, Json.completeMembers, ih]
  | factorial operand ih =>
    simp [json, node, field, NodeKind.fields, Json.complete, Json.completeMembers, ih]
  | binary operator left right ihl ihr =>
    simp [json, node, field, NodeKind.fields, Json.complete, Json.completeMembers, ihl, ihr]

/-- A formula nests one container for each level of its tree. -/
theorem holds_json (f : Formula) (room : Nat) : f.json.holds room = decide (f.height ≤ room) := by
  induction f generalizing room with
  | constant x =>
    have := holds_writeFloat x (room - 1)
    simp [json, node, field, NodeKind.fields, Json.holds, Json.holdsMembers, this, height,
      Nat.succ_le_iff]
  | named name =>
    simp [json, node, field, NodeKind.fields, Json.holds, Json.holdsMembers, height,
      Nat.succ_le_iff]
  | call function operand ih =>
    simp only [json, node, field, NodeKind.fields, List.zipWith, Json.holds, Json.holdsMembers, ih,
      height, Option.isSome_some, Bool.true_and, Bool.and_true, ← Bool.decide_and]
    congr 1
    apply propext
    omega
  | factorial operand ih =>
    simp only [json, node, field, NodeKind.fields, List.zipWith, Json.holds, Json.holdsMembers, ih,
      height, Option.isSome_some, Bool.true_and, Bool.and_true, ← Bool.decide_and]
    congr 1
    apply propext
    omega
  | binary operator left right ihl ihr =>
    simp only [json, node, field, NodeKind.fields, List.zipWith, Json.holds, Json.holdsMembers, ihl,
      ihr, height, Option.isSome_some, Bool.true_and, Bool.and_true, ← Bool.decide_and]
    congr 1
    apply propext
    omega

/-! ## Reading -/

theorem ofJson?_name (nested : Bool) (kind : NodeKind) :
    NodeKind.ofJson? nested (.text kind.name) = some kind := by
  show NodeKind.all.find? (fun k => k.name == kind.name) = some kind
  rcases kind with _ | _ | _ | (_ | _ | _ | _ | _) | _ <;> decide

/-- The value of a field, and the formula that it is. -/
def part (v : Json) : Part :=
  ⟨v, ofJson? true v⟩

/-- A node is read from the values of its fields. -/
theorem ofJson?_node (nested : Bool) (kind : NodeKind) {values : List Json}
    (h : values.length = kind.fields.length) :
    ofJson? nested (node kind values) = ofParts? kind (values.map part) := by
  have hkind := ofJson?_name nested kind
  have hone {name : String} (hfields : kind.fields = [name]) (hname : name ≠ "kind") :
      ofJson? nested (node kind values) = ofParts? kind (values.map part) := by
    rw [hfields] at h
    obtain ⟨v, rfl⟩ := List.length_eq_one_iff.1 h
    simp [node, field, hfields, ofJson?, ofMembers?, memberParts, onlyPart?, partsOfMembers?, hkind,
      part, hname, Ne.symm hname]
  have htwo {name name' : String} (hfields : kind.fields = [name, name']) (hname : name ≠ "kind")
      (hname' : name' ≠ "kind") (hne : name ≠ name') :
      ofJson? nested (node kind values) = ofParts? kind (values.map part) := by
    rw [hfields] at h
    obtain ⟨v, w, rfl⟩ := List.length_eq_two.1 h
    simp [node, field, hfields, ofJson?, ofMembers?, memberParts, onlyPart?, partsOfMembers?, hkind,
      part, hname, Ne.symm hname, hname', Ne.symm hname', hne, Ne.symm hne]
  cases kind with
  | constant => exact hone rfl (by decide)
  | named => exact hone rfl (by decide)
  | call => exact htwo rfl (by decide) (by decide) (by decide)
  | binary operator => exact htwo rfl (by decide) (by decide) (by decide)
  | factorial => exact hone rfl (by decide)

/-- A formula that was written is read back, unless it holds a constant that is not finite. -/
theorem ofJson?_json (nested : Bool) (f : Formula) :
    ofJson? nested f.json = if f.finiteConstants then some f else none := by
  induction f generalizing nested with
  | constant x =>
    rw [json, ofJson?_node nested .constant rfl, finiteConstants]
    cases h : x.isFinite with
    | true =>
      obtain ⟨d, hd, hx⟩ := writeFloat_of_isFinite h
      simp [part, ofParts?, hd, hx, h]
    | false =>
      rw [writeFloat_of_not_isFinite h]
      rfl
  | named name =>
    rw [json, ofJson?_node nested .named rfl]
    rfl
  | call function operand ih =>
    rw [json, ofJson?_node nested .call rfl, finiteConstants]
    cases h : operand.finiteConstants <;> simp [part, ofParts?, ih, h]
  | factorial operand ih =>
    rw [json, ofJson?_node nested .factorial rfl, finiteConstants]
    cases h : operand.finiteConstants <;> simp [part, ofParts?, ih, h]
  | binary operator left right ihl ihr =>
    rw [json, ofJson?_node nested (.binary operator) rfl, finiteConstants]
    cases hl : left.finiteConstants <;> cases hr : right.finiteConstants <;>
      simp [part, ofParts?, ihl, ihr, hl, hr]

/-! ## Documents -/

/-- **Which formulas are read back from a document**: those whose constants are finite and whose
tree has no more levels than a document may nest containers. Every other one is refused. -/
theorem ofDocument_json (f : Formula) (layout : Layout) :
    ofDocument (f.json.render layout) =
      if f.height ≤ Json.maxDepth ∧ f.finiteConstants = true then .ok f else .error .malformed := by
  rw [ofDocument, Document.parse, Json.scan_render layout f.complete_json]
  simp only [readJson, holds_json, ofJson?_json]
  by_cases hheight : f.height ≤ Json.maxDepth
  · cases hfinite : f.finiteConstants <;> simp [hheight]
  · simp [hheight]

end Formula

/-! ## From the text of a formula -/

/-- The numbers among the tokens are the constants of the tree. -/
theorem Nonterminal.Derives.number_mem_iff {n : Nonterminal} {ts : List TokenKind} {f : Formula}
    (h : n.Derives ts f) {x : Float} : .number x ∈ ts ↔ .constant x ∈ f.parts := by
  induction h with
  | additive _ _ _ ihl ihr | multiplicative _ _ _ ihl ihr =>
    simp [Formula.parts, ihl, ihr]
  | ofTerm _ ih | ofFactor _ ih | ofPrimary _ ih => exact ih
  | factorial _ ih | group _ ih | call _ _ ih => simp [Formula.parts, ih]
  | number => simp [Formula.parts]
  | identifier => simp [Formula.parts]

/-- Digits with no point behind them are a number. -/
theorem Lexeme.number_of_digits {run rest : List Char} (hrun : ∀ c ∈ run, c.isDigit = true)
    (hrest : ∀ c, rest.head? = some c → c.isDigit = false ∧ c ≠ '.') :
    Lexeme.number (run ++ rest) =
      ⟨.number (Decimal.ofParts false run [] none).toFloat, run, rest⟩ := by
  have hsplit := Digits.splitDigits_of_digits hrun fun c hc => (hrest c hc).1
  unfold Lexeme.number
  rw [hsplit]
  cases rest with
  | nil => rfl
  | cons c rest =>
    have hdot := (hrest c rfl).2
    simp [hdot]

/-- The first token of a text that starts with digits. -/
theorem tokensFrom_of_digits {run rest : List Char} (hne : run ≠ [])
    (hrun : ∀ c ∈ run, c.isDigit = true)
    (hrest : ∀ c, rest.head? = some c → c.isDigit = false ∧ c ≠ '.') (offset : Nat) :
    tokensFrom offset (run ++ rest) =
      ⟨.number (Decimal.ofParts false run [] none).toFloat, offset⟩ ::
        tokensFrom (offset + byteCount run) rest := by
  cases run with
  | nil => exact absurd rfl hne
  | cons c run =>
    have hc := hrun c List.mem_cons_self
    have hcut : Lexeme.cut c (run ++ rest) =
        ⟨.number (Decimal.ofParts false (c :: run) [] none).toFloat, c :: run, rest⟩ := by
      rw [Lexeme.cut, if_pos hc]
      exact Lexeme.number_of_digits hrun hrest
    rw [List.cons_append, tokensFrom, if_neg (by rw [isBlank_of_isDigit hc]; decide)]
    simp only [hcut]

namespace Formula

/-! ### Factorials of factorials -/

/-- The number one, as a formula has it. -/
def one : Float :=
  (Decimal.ofParts false ['1'] [] none).toFloat

/-- The factorial of one, taken that many times. -/
def factorials : Nat → Formula
  | 0 => constant one
  | n + 1 => factorial (factorials n)

theorem height_factorials (n : Nat) : (factorials n).height = n + 1 := by
  induction n with
  | zero => rfl
  | succ n ih => rw [factorials, height, ih]

theorem derives_factorials (n : Nat) :
    Nonterminal.factor.Derives (.number one :: List.replicate n (.operator '!'))
      (factorials n) := by
  induction n with
  | zero => exact .ofPrimary (.number _)
  | succ n ih =>
    rw [List.replicate_succ', ← List.cons_append]
    exact ih.factorial

theorem kinds_marks (n offset : Nat) :
    (tokensFrom offset (List.replicate n '!')).map (·.kind) = List.replicate n (.operator '!') := by
  induction n generalizing offset with
  | zero => simp [tokensFrom]
  | succ n ih =>
    have hcut : Lexeme.cut '!' (List.replicate n '!') =
        ⟨.operator '!', ['!'], List.replicate n '!'⟩ := by
      rw [Lexeme.cut, if_neg (by decide), if_neg (by decide +kernel)]
      rfl
    rw [List.replicate_succ, tokensFrom, if_neg (by decide +kernel)]
    simp only [hcut, List.map_cons, ih, List.replicate_succ]

theorem tokenKinds_factorials (n : Nat) :
    tokenKinds (String.ofList ('1' :: List.replicate n '!')) =
      .number one :: List.replicate n (.operator '!') := by
  have hrest : ∀ c, (List.replicate n '!').head? = some c → c.isDigit = false ∧ c ≠ '.' := by
    intro c hc
    cases n with
    | zero => cases hc
    | succ n =>
      cases hc
      decide
  have htokens := tokensFrom_of_digits (List.cons_ne_nil '1' []) (by simp) hrest 0
  rw [List.singleton_append] at htokens
  rw [tokenKinds, tokens, String.toList_ofList, htokens, List.map_cons, kinds_marks]
  rfl

theorem parse_factorials {n : Nat} (hn : n < maxHeight) :
    Formula.parse (String.ofList ('1' :: List.replicate n '!')) = .ok (factorials n) := by
  refine parse_eq_ok_iff_derives.2 ⟨?_, by rw [height_factorials]; exact hn⟩
  rw [tokenKinds_factorials]
  exact .ofTerm (.ofFactor (derives_factorials n))

/-- A literal without a point is read as the double next to it. -/
theorem parse_digits (n : Nat) :
    Formula.parse (Digits.text n) = .ok (constant (Decimal.nearest n 0)) := by
  have hrest : ∀ c, ([] : List Char).head? = some c → c.isDigit = false ∧ c ≠ '.' := by
    intro c hc
    cases hc
  have htokens := tokensFrom_of_digits (Digits.digits_ne_nil n)
    (fun c hc => Digits.isDigit_of_mem_digits hc) hrest 0
  have hvalue : (Decimal.ofParts false (Digits.digits n) [] none).toFloat =
      Decimal.nearest n 0 := by
    show Decimal.nearest (Digits.value (Digits.digits n ++ [])) (0 - 0) = _
    rw [List.append_nil, Digits.value_digits]
    rfl
  have hend (offset : Nat) : tokensFrom offset [] = [] := by simp [tokensFrom]
  refine parse_eq_ok_iff_derives.2 ⟨?_, by rw [height]; decide⟩
  rw [List.append_nil, hvalue, hend] at htokens
  rw [tokenKinds, tokens, Digits.text, String.toList_ofList, htokens]
  exact .ofTerm (.ofFactor (.ofPrimary (.number _)))

/-! ### Which formulas survive -/

/-- **Which formulas survive as documents.** A formula that can be read is written as a document and
read back as the same tree exactly if the tree has no more levels than a document may nest
containers and none of its literals is beyond the greatest double. Every other one is refused when
it is read back, although it was written. -/
theorem ofDocument_of_parse {input : String} {f : Formula} (h : Formula.parse input = .ok f)
    (layout : Layout) :
    (ofDocument (f.json.render layout) = .ok f ↔
      f.height ≤ Json.maxDepth ∧ ∀ x, .number x ∈ tokenKinds input → x.isFinite = true) ∧
    (ofDocument (f.json.render layout) = .ok f ∨
      ofDocument (f.json.render layout) = .error .malformed) := by
  have hderives := ((ofTokens_eq_ok_iff (by decide) _ _).1 h).1
  have hnumbers : f.finiteConstants = true ↔
      ∀ x, .number x ∈ tokenKinds input → x.isFinite = true := by
    simp only [finiteConstants_iff, tokenKinds, hderives.number_mem_iff]
  rw [ofDocument_json, ← hnumbers]
  split
  · next hcond => exact ⟨⟨fun _ => hcond, fun _ => rfl⟩, .inl rfl⟩
  · next hcond => exact ⟨iff_of_false (by simp) hcond, .inr rfl⟩

/-- The greatest tower of factorials that is read back. -/
theorem ofDocument_of_parse_factorials :
    ∃ f, Formula.parse (String.ofList ('1' :: List.replicate 126 '!')) = .ok f ∧ f.height = 127 ∧
      ofDocument (f.json.render .compact) = .ok f := by
  have hparse := parse_factorials (n := 126) (by decide)
  refine ⟨_, hparse, height_factorials 126, (ofDocument_of_parse hparse .compact).1.2 ⟨?_, ?_⟩⟩
  · rw [height_factorials]
    decide
  · intro x hx
    have hone : one.isFinite = true := by decide +kernel
    rw [tokenKinds_factorials] at hx
    rcases List.mem_cons.1 hx with hx | hx
    · cases hx
      exact hone
    · cases List.eq_of_mem_replicate hx

/-- **Not every formula that can be read survives as a document.** The factorial of one, taken 127
times, has more levels than a document may nest containers, and a literal of 310 digits is written
as if it were nothing. -/
theorem ofDocument_refused :
    (∃ f, Formula.parse (String.ofList ('1' :: List.replicate 127 '!')) = .ok f ∧
      ofDocument (f.json.render .compact) = .error .malformed) ∧
    ∃ f, Formula.parse (Digits.text (10 ^ 309)) = .ok f ∧
      ofDocument (f.json.render .compact) = .error .malformed := by
  have hheight : ¬ (factorials 127).height ≤ Json.maxDepth := by
    rw [height_factorials]
    decide
  have hinfinite : (Decimal.nearest (10 ^ 309) 0).isFinite = false := by decide +kernel
  refine ⟨⟨_, parse_factorials (by decide), ?_⟩, _, parse_digits _, ?_⟩
  · rw [ofDocument_json, if_neg fun h => hheight h.1]
  · rw [ofDocument_json, if_neg fun h => ?_]
    rw [finiteConstants, hinfinite] at h
    exact absurd h.2 (by decide)

end Formula

end Logbook
