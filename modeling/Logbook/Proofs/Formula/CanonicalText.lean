import Logbook.Document.Formula
import Logbook.Proofs.Formula.Derivations
import Logbook.Proofs.Formula.Lexemes

/-!
# The canonical form identifies a formula

The canonical form of a formula copies names and writes its structure in brackets and commas. The
formula can be read off it, as no name and no number has a bracket or a comma in it.

* `NodeKind.label` — what a node starts with, up to its bracket; different kinds start differently.
* `Formula.Legible` — the constants are numbers and the names are made of the characters of
  identifiers; `legible_of_parse` says that formulas that were read are so.
* `Formula.eq_of_chars_append` — a text starts with the canonical form of at most one legible
  formula.
* `Formula.text_eq_iff` — two texts are read as the same formula iff their canonical forms are equal.
-/

namespace Logbook

/-! ## Nodes -/

/-- Two texts that go on from the first mark are equal before it and behind it. -/
theorem append_cons_inj {c : Char} {before before' after after' : List Char} (h : c ∉ before)
    (h' : c ∉ before') (heq : before ++ c :: after = before' ++ c :: after') :
    before = before' ∧ after = after' := by
  have hlength := congrArg (List.idxOf c) heq
  rw [List.idxOf_append_of_notMem h, List.idxOf_append_of_notMem h', List.idxOf_cons_self,
    List.idxOf_cons_self] at hlength
  obtain ⟨hbefore, hrest⟩ := List.append_inj heq hlength
  exact ⟨hbefore, (List.cons.inj hrest).2⟩

/-- What a node of a kind starts with in the canonical form. -/
def NodeKind.label : NodeKind → String
  | constant => "Const"
  | named => "Var"
  | call => "Fn"
  | binary operator => operator.label
  | factorial => "Fact"

/-- Different kinds start differently. -/
theorem NodeKind.label_inj {k k' : NodeKind} (h : k.label = k'.label) : k = k' := by
  have hfind (k : NodeKind) : all.find? (fun k' => k'.label == k.label) = some k := by
    rcases k with _ | _ | _ | (_ | _ | _ | _ | _) | _ <;> decide
  have hk := hfind k
  rw [h, hfind k'] at hk
  exact (Option.some.inj hk).symm

theorem NodeKind.bracket_notMem_label (k : NodeKind) : '[' ∉ k.label.toList := by
  rcases k with _ | _ | _ | (_ | _ | _ | _ | _) | _ <;> decide

namespace Formula

/-- The kind of the node at the root. -/
def kind : Formula → NodeKind
  | constant _ => .constant
  | named _ => .named
  | call _ _ => .call
  | factorial _ => .factorial
  | binary operator _ _ => .binary operator

/-- What follows the first bracket of the canonical form. -/
def inside : Formula → List Char
  | constant value => (FloatStyle.canonical.text value).toList ++ [']']
  | named name => name.toList ++ [']']
  | call function operand => function.toList ++ ',' :: ' ' :: operand.chars ++ [']']
  | factorial operand => operand.chars ++ [']']
  | binary _ left right => left.chars ++ ',' :: ' ' :: right.chars ++ [']']

theorem chars_eq (f : Formula) : f.chars = f.kind.label.toList ++ '[' :: f.inside := by
  cases f with
  | constant value =>
    show "Const[".toList ++ (FloatStyle.canonical.text value).toList ++ [']'] = _
    simp [kind, inside, NodeKind.label]
  | named name =>
    show "Var[".toList ++ name.toList ++ [']'] = _
    simp [kind, inside, NodeKind.label]
  | call function operand =>
    show "Fn[".toList ++ function.toList ++ [',', ' '] ++ operand.chars ++ [']'] = _
    simp [kind, inside, NodeKind.label]
  | factorial operand =>
    show "Fact[".toList ++ operand.chars ++ [']'] = _
    simp [kind, inside, NodeKind.label]
  | binary operator left right =>
    show operator.label.toList ++ '[' :: left.chars ++ [',', ' '] ++ right.chars ++ [']'] = _
    simp [kind, inside, NodeKind.label]

/-- Where a text starts with two canonical forms, both have the same node at the root. -/
theorem kind_inside_of_chars_append {f g : Formula} {r s : List Char}
    (h : f.chars ++ r = g.chars ++ s) : f.kind = g.kind ∧ f.inside ++ r = g.inside ++ s := by
  rw [chars_eq, chars_eq, List.append_assoc, List.append_assoc] at h
  obtain ⟨hlabel, hinside⟩ :=
    append_cons_inj f.kind.bracket_notMem_label g.kind.bracket_notMem_label h
  exact ⟨NodeKind.label_inj (String.toList_inj.1 hlabel), hinside⟩

/-! ## Legible formulas -/

/-- Whether a name is made of characters that can stand in an identifier. -/
def IsName (name : String) : Prop :=
  ∀ c ∈ name.toList, continuesIdentifier c = true

/-- Every constant is a number and every name, also that of a function, is that of an identifier. -/
def Legible : Formula → Prop
  | constant value => value.isNaN = false
  | named name => IsName name
  | call function operand => IsName function ∧ operand.Legible
  | factorial operand => operand.Legible
  | binary _ left right => left.Legible ∧ right.Legible

/-- No name has a bracket or a comma in it. -/
theorem IsName.notMem {name : String} (h : IsName name) {c : Char}
    (hc : continuesIdentifier c = false) : c ∉ name.toList := by
  intro hmem
  rw [h c hmem] at hc
  cases hc

theorem bracket_notMem_text (x : Float) : ']' ∉ (FloatStyle.canonical.text x).toList := fun h =>
  absurd (FloatStyle.isNumberChar_of_mem_text h) (by decide)

/-- Numbers are known by their texts. -/
theorem eq_of_text_eq {style : FloatStyle} {x y : Float} (hx : x.isNaN = false)
    (hy : y.isNaN = false) (h : (style.text x).toList = (style.text y).toList) : x = y := by
  have hread := style.readFloat?_text hx
  rw [h, style.readFloat?_text hy] at hread
  exact (Option.some.inj hread).symm

/-- **A text starts with the canonical form of at most one formula.** The formula and what follows
it are settled by the text. -/
theorem eq_of_chars_append {f g : Formula} (hf : f.Legible) (hg : g.Legible) {r s : List Char}
    (h : f.chars ++ r = g.chars ++ s) : f = g ∧ r = s := by
  have hclosing : continuesIdentifier ']' = false := by decide +kernel
  have hcomma : continuesIdentifier ',' = false := by decide +kernel
  induction f generalizing g r s with
  | constant x =>
    obtain ⟨hkind, hinside⟩ := kind_inside_of_chars_append h
    cases g with
    | constant y =>
      simp only [inside, List.append_assoc, List.singleton_append] at hinside
      obtain ⟨htext, hrest⟩ :=
        append_cons_inj (bracket_notMem_text x) (bracket_notMem_text y) hinside
      exact ⟨congrArg constant (eq_of_text_eq hf hg htext), hrest⟩
    | _ => cases hkind
  | named name =>
    obtain ⟨hkind, hinside⟩ := kind_inside_of_chars_append h
    cases g with
    | named name' =>
      simp only [inside, List.append_assoc, List.singleton_append] at hinside
      obtain ⟨hname, hrest⟩ :=
        append_cons_inj (IsName.notMem hf hclosing) (IsName.notMem hg hclosing) hinside
      exact ⟨congrArg named (String.toList_inj.1 hname), hrest⟩
    | _ => cases hkind
  | call function x ih =>
    obtain ⟨hkind, hinside⟩ := kind_inside_of_chars_append h
    cases g with
    | call function' y =>
      -- The name ends at the first comma, and then the operands are at the front of the same text.
      simp only [inside, List.append_assoc, List.cons_append] at hinside
      obtain ⟨hname, hrest⟩ :=
        append_cons_inj (hf.1.notMem hcomma) (hg.1.notMem hcomma) hinside
      obtain ⟨rfl, hend⟩ := ih hf.2 hg.2 (List.cons.inj hrest).2
      exact ⟨congrArg (call · x) (String.toList_inj.1 hname), (List.cons.inj hend).2⟩
    | _ => cases hkind
  | factorial x ih =>
    obtain ⟨hkind, hinside⟩ := kind_inside_of_chars_append h
    cases g with
    | factorial y =>
      simp only [inside, List.append_assoc] at hinside
      have hy : y.Legible := hg
      obtain ⟨rfl, hend⟩ := ih hf hy hinside
      exact ⟨rfl, (List.cons.inj hend).2⟩
    | _ => cases hkind
  | binary op l r ihl ihr =>
    obtain ⟨hkind, hinside⟩ := kind_inside_of_chars_append h
    cases g with
    | binary op' l' r' =>
      simp only [inside, List.append_assoc, List.cons_append] at hinside
      obtain ⟨rfl, hright⟩ := ihl hf.1 hg.1 hinside
      obtain ⟨rfl, hend⟩ := ihr hf.2 hg.2 (List.cons.inj (List.cons.inj hright).2).2
      cases hkind
      exact ⟨rfl, (List.cons.inj hend).2⟩
    | _ => cases hkind

end Formula

/-! ## From the text of a formula -/

/-- Every token of a formula is spelled by some text. -/
theorem exists_spells_of_mem_tokenKinds {input : String} {k : TokenKind}
    (h : k ∈ tokenKinds input) : ∃ cs, Spells k cs := by
  obtain ⟨stretches, last, hpartition⟩ := tokensFrom_partition 0 0 [] input.toList rfl (by simp)
  rw [tokenKinds, tokens, ← hpartition.tokens, List.map_map] at h
  obtain ⟨stretch, hmem, rfl⟩ := List.mem_map.1 h
  obtain ⟨before, after, hsplit⟩ := List.append_of_mem hmem
  exact ⟨_, (hpartition.longest before stretch after hsplit).spells⟩

theorem Spells.isNaN_eq_false {x : Float} {cs : List Char} (h : Spells (.number x) cs) :
    x.isNaN = false := by
  cases h with
  | number hnumeral => exact (Decimal.rounds_toFloat hnumeral.negative_eq).isNaN

theorem Spells.isName {name : String} {cs : List Char} (h : Spells (.identifier name) cs) :
    Formula.IsName name := by
  cases h with
  | @identifier c rest hstart hrest =>
    rw [Formula.IsName, String.toList_ofList, List.forall_mem_cons]
    refine ⟨?_, hrest⟩
    rw [startsIdentifier, Bool.or_eq_true] at hstart
    rcases hstart with hletter | hunderscore
    · rw [continuesIdentifier, hletter, Bool.true_or, Bool.true_or]
    · rw [eq_of_beq hunderscore]
      decide

/-- What the grammar derives from spelled tokens is legible. -/
theorem Nonterminal.Derives.legible {n : Nonterminal} {ts : List TokenKind} {f : Formula}
    (h : n.Derives ts f) (hts : ∀ k ∈ ts, ∃ cs, Spells k cs) : f.Legible := by
  induction h with
  | additive _ _ _ ihl ihr | multiplicative _ _ _ ihl ihr =>
    simp only [List.forall_mem_append, List.forall_mem_cons] at hts
    exact ⟨ihl hts.1, ihr hts.2.2⟩
  | ofTerm _ ih | ofFactor _ ih | ofPrimary _ ih => exact ih hts
  | factorial _ ih => exact ih (List.forall_mem_append.1 hts).1
  | number =>
    obtain ⟨cs, hcs⟩ := List.forall_mem_singleton.1 hts
    exact hcs.isNaN_eq_false
  | identifier =>
    obtain ⟨cs, hcs⟩ := List.forall_mem_singleton.1 hts
    exact hcs.isName
  | group _ ih =>
    simp only [List.forall_mem_append, List.forall_mem_cons] at hts
    exact ih hts.2.1
  | call _ _ ih =>
    simp only [List.forall_mem_append, List.forall_mem_cons] at hts
    obtain ⟨⟨cs, hcs⟩, -, hinner, -⟩ := hts
    exact ⟨hcs.isName, ih hinner⟩

namespace Formula

theorem legible_of_parse {input : String} {f : Formula} (h : parse input = .ok f) : f.Legible :=
  (parse_eq_ok_iff_derives.1 h).1.legible fun _ => exists_spells_of_mem_tokenKinds

/-- **The canonical form identifies a formula.** Two texts are read as the same formula iff the
formulas that they are read as have the same canonical form. -/
theorem text_eq_iff {input input' : String} {f g : Formula} (hf : parse input = .ok f)
    (hg : parse input' = .ok g) : f.text = g.text ↔ f = g := by
  refine ⟨fun h => ?_, congrArg text⟩
  have hchars : f.chars ++ [] = g.chars ++ [] := by
    rw [List.append_nil, List.append_nil]
    exact String.ofList_injective h
  exact (eq_of_chars_append (legible_of_parse hf) (legible_of_parse hg) hchars).1

/-- Blanks and needless brackets do not show in the canonical form. -/
theorem text_eq_iff_brackets :
    ∃ f g, parse "sqrt(a.b-c) / (n! % log10)" = .ok f ∧
      parse " ( sqrt((a.b-c))/((n !)%(log10)) )" = .ok g ∧
      f.text = "Div[Fn[sqrt, Var[a.b-c]], Mod[Fact[Var[n]], Var[log10]]]" ∧ f.text = g.text ∧
      f = g := by
  let f := binary .division (call "sqrt" (named "a.b-c"))
    (binary .modulo (factorial (named "n")) (named "log10"))
  have hf : parse "sqrt(a.b-c) / (n! % log10)" = .ok f := (Formula.parse_eq _).trans rfl
  have hg : parse " ( sqrt((a.b-c))/((n !)%(log10)) )" = .ok f := (Formula.parse_eq _).trans rfl
  exact ⟨f, f, hf, hg, rfl, rfl, (text_eq_iff hf hg).1 rfl⟩

end Formula

end Logbook
