import Logbook.Formula.Token
import Logbook.Proofs.Number.Decimals
import Logbook.Proofs.Text.Trim

/-!
# Tokens and the text they are cut from

* `Numeral`, `Spells` — the texts that a number and a token of each kind can be written as.
* `Lexeme.cut_spells`, `Lexeme.cut_longest` — what is cut off the front of a text spells its token,
  and nothing longer at the front of the text spells any token.
* `Stretch`, `Partition` — blanks, tokens and blanks after the last token that make up a text, each
  token the longest at its place and known by the number of bytes before it.
* `tokensFrom_partition` — cutting tokens off a text is such a partition; `tokens_partition` says so
  of a formula.
-/

namespace Logbook

/-! ## Spelling -/

/-- The texts of numbers in formulas: digits, or digits around one point. -/
inductive Numeral : List Char → Decimal → Prop
  | whole {run : List Char} (hne : run ≠ []) (hrun : ∀ c ∈ run, c.isDigit = true) :
      Numeral run (.ofParts false run [] none)
  | point {run fraction : List Char} (hne : run ≠ []) (hrun : ∀ c ∈ run, c.isDigit = true)
      (hne' : fraction ≠ []) (hfraction : ∀ c ∈ fraction, c.isDigit = true) :
      Numeral (run ++ '.' :: fraction) (.ofParts false run fraction none)

/-- The texts that a token of a kind can be written as. -/
inductive Spells : TokenKind → List Char → Prop
  | number {cs : List Char} {d : Decimal} (h : Numeral cs d) : Spells (.number d.toFloat) cs
  | identifier {c : Char} {rest : List Char} (hstart : startsIdentifier c = true)
      (hrest : ∀ d ∈ rest, continuesIdentifier d = true) :
      Spells (.identifier (String.ofList (c :: rest))) (c :: rest)
  | opening : Spells .opening ['(']
  | closing : Spells .closing [')']
  | operator {c : Char} (hblank : isBlank c = false) (hdigit : c.isDigit = false)
      (hstart : startsIdentifier c = false) (hopening : c ≠ '(') (hclosing : c ≠ ')') :
      Spells (.operator c) [c]

/-- A text spells a token, and no longer one at the front of the text and what follows it does. -/
structure LongestAt (kind : TokenKind) (cs after : List Char) : Prop where
  spells : Spells kind cs
  longest : ∀ kind' cs', Spells kind' cs' → cs' <+: cs ++ after → cs'.length ≤ cs.length

/-- A prefix of characters with a property is not longer than all such characters at the front. -/
theorem length_le_takeWhile {p : Char → Bool} {run cs : List Char} (hrun : ∀ c ∈ run, p c = true)
    (h : run <+: cs) : run.length ≤ (cs.takeWhile p).length := by
  obtain ⟨rest, rfl⟩ := h
  rw [List.takeWhile_append_of_pos hrun, List.length_append]
  exact Nat.le_add_right _ _

theorem startsIdentifier_of_isDigit {c : Char} (h : c.isDigit = true) :
    startsIdentifier c = false := by
  obtain ⟨hlow, hhigh⟩ := Char.isDigit_iff_toNat.1 h
  have h9 : ('9' : Char).toNat = 57 := rfl
  have hletter : isLetter c = false := by
    rw [isLetter, if_pos (by omega), Bool.eq_false_iff]
    intro halpha
    simp only [Char.isAlpha, Char.isUpper, Char.isLower, Bool.or_eq_true, Bool.and_eq_true,
      decide_eq_true_eq, ge_iff_le, UInt32.le_iff_toNat_le] at halpha
    have hA : ('A' : Char).val.toNat = 65 := rfl
    have ha : ('a' : Char).val.toNat = 97 := rfl
    have hc : c.val.toNat = c.toNat := rfl
    omega
  have hunderscore : c ≠ '_' := by
    rintro rfl
    cases h
  simp [startsIdentifier, hletter, hunderscore]

/-- A number starts with a digit. -/
theorem Numeral.exists_cons {cs : List Char} {d : Decimal} (h : Numeral cs d) :
    ∃ c rest, cs = c :: rest ∧ c.isDigit = true := by
  cases h with
  | whole hne hrun | point hne hrun =>
    obtain ⟨c, rest, rfl⟩ := List.exists_cons_of_ne_nil hne
    exact ⟨c, _, rfl, hrun c List.mem_cons_self⟩

theorem Numeral.negative_eq {cs : List Char} {d : Decimal} (h : Numeral cs d) :
    d.negative = false := by
  cases h <;> rfl

/-- The text of a number is read as a number, here and wherever else a whole text has to be one. -/
theorem Numeral.readFloat? {cs : List Char} {d : Decimal} (h : Numeral cs d) :
    readFloat? cs = some d.toFloat := by
  cases h with
  | whole hne hrun =>
    have hread := Decimal.readFloat?_runs hne hrun (List.forall_mem_nil _)
    simpa using hread
  | point hne hrun hne' hfraction => simpa [hne'] using Decimal.readFloat?_runs hne hrun hfraction

namespace Lexeme

/-- What is cut off as a number are the digits at the front, and if a point and a digit follow, the
point and the digits behind it. -/
theorem number_cases (cs : List Char) :
    (∃ d rest, cs.dropWhile Char.isDigit = '.' :: d :: rest ∧ d.isDigit = true ∧
      number cs = ⟨.number (Decimal.ofParts false (cs.takeWhile Char.isDigit)
          ((d :: rest).takeWhile Char.isDigit) none).toFloat,
        cs.takeWhile Char.isDigit ++ '.' :: (d :: rest).takeWhile Char.isDigit,
        (d :: rest).dropWhile Char.isDigit⟩) ∨
    (∀ d rest, cs.dropWhile Char.isDigit = '.' :: d :: rest → d.isDigit = false) ∧
      number cs = ⟨.number (Decimal.ofParts false (cs.takeWhile Char.isDigit) [] none).toFloat,
        cs.takeWhile Char.isDigit, cs.dropWhile Char.isDigit⟩ := by
  unfold number Digits.splitDigits
  simp only
  split
  · rename_i d rest heq
    split
    · rename_i hd
      exact .inl ⟨d, rest, heq, hd, rfl⟩
    · rename_i hd
      refine .inr ⟨?_, by rw [heq]⟩
      intro d' rest' heq'
      rw [heq] at heq'
      cases heq'
      exact Bool.eq_false_of_not_eq_true hd
  · rename_i hother
    exact .inr ⟨fun d rest heq => absurd heq (hother d rest), rfl⟩

theorem number_spells {cs : List Char} (hne : cs.takeWhile Char.isDigit ≠ []) :
    Spells (number cs).kind (number cs).chars := by
  rcases number_cases cs with ⟨d, rest, -, hd, hnumber⟩ | ⟨-, hnumber⟩
  · have hne' : (d :: rest).takeWhile Char.isDigit ≠ [] := by simp [hd]
    rw [hnumber]
    exact .number (.point hne (fun _ => List.mem_takeWhile_imp) hne' fun _ => List.mem_takeWhile_imp)
  · rw [hnumber]
    exact .number (.whole hne fun _ => List.mem_takeWhile_imp)

/-- No number at the front of a text is longer than the one that is cut off. -/
theorem number_longest {cs cs' : List Char} {d : Decimal} (h : Numeral cs' d) (hfront : cs' <+: cs) :
    cs'.length ≤ (number cs).chars.length := by
  have hdigits : (cs.takeWhile Char.isDigit).length ≤ (number cs).chars.length := by
    rcases number_cases cs with ⟨d, rest, -, -, hnumber⟩ | ⟨-, hnumber⟩
    · rw [hnumber, List.length_append]
      exact Nat.le_add_right _ _
    · rw [hnumber]
  cases h with
  | whole _ hrun => exact (length_le_takeWhile hrun hfront).trans hdigits
  | @point run fraction _ hrun hne' hfraction =>
    -- The digits before the point are all that are at the front, as a point is no digit.
    obtain ⟨rest, rfl⟩ := hfront
    obtain ⟨f, fraction, rfl⟩ := List.exists_cons_of_ne_nil hne'
    have hf := hfraction f List.mem_cons_self
    have htake : (run ++ '.' :: (f :: fraction) ++ rest).takeWhile Char.isDigit = run := by
      rw [List.append_assoc, List.takeWhile_append_of_pos hrun]
      simp
    have hdrop : (run ++ '.' :: (f :: fraction) ++ rest).dropWhile Char.isDigit =
        '.' :: f :: (fraction ++ rest) := by
      rw [List.append_assoc, List.dropWhile_append_of_pos hrun]
      rfl
    rcases number_cases (run ++ '.' :: (f :: fraction) ++ rest) with
      ⟨d, rest', heq, -, hnumber⟩ | ⟨hno, -⟩
    · rw [hdrop] at heq
      cases heq
      have hle : (f :: fraction).length ≤ ((f :: (fraction ++ rest)).takeWhile Char.isDigit).length :=
        length_le_takeWhile hfraction ⟨rest, rfl⟩
      rw [hnumber, htake]
      simp only [List.length_append, List.length_cons] at hle ⊢
      omega
    · have := hno _ _ hdrop
      rw [hf] at this
      cases this

variable {c : Char} {rest : List Char}

/-- What is cut off spells its token. -/
theorem cut_spells (hblank : isBlank c = false) :
    Spells (cut c rest).kind (cut c rest).chars := by
  unfold cut
  by_cases hdigit : c.isDigit = true
  · rw [if_pos hdigit]
    exact number_spells (by simp [hdigit])
  rw [if_neg hdigit]
  by_cases hstart : startsIdentifier c = true
  · rw [if_pos hstart]
    exact .identifier hstart fun _ => List.mem_takeWhile_imp
  rw [if_neg hstart, symbol]
  by_cases hopening : c = '('
  · subst hopening
    exact .opening
  by_cases hclosing : c = ')'
  · subst hclosing
    exact .closing
  · rw [if_neg hopening, if_neg hclosing]
    exact .operator hblank (Bool.eq_false_of_not_eq_true hdigit)
      (Bool.eq_false_of_not_eq_true hstart) hopening hclosing

/-- Nothing at the front of a text that spells a token is longer than what is cut off. -/
theorem cut_longest {kind : TokenKind} {cs : List Char} (h : Spells kind cs)
    (hfront : cs <+: c :: rest) : cs.length ≤ (cut c rest).chars.length := by
  have hone : 1 ≤ (cut c rest).chars.length := List.length_pos_iff.2 (chars_ne_nil c rest)
  cases h with
  | number hnumeral =>
    obtain ⟨c', rest', rfl, hdigit⟩ := hnumeral.exists_cons
    obtain ⟨rfl, -⟩ := List.cons_prefix_cons.1 hfront
    rw [cut, if_pos hdigit]
    exact number_longest hnumeral hfront
  | @identifier c' tail hstart hrest =>
    obtain ⟨rfl, htail⟩ := List.cons_prefix_cons.1 hfront
    have hdigit : ¬ c'.isDigit = true := fun h => by
      rw [startsIdentifier_of_isDigit h] at hstart
      cases hstart
    rw [cut, if_neg hdigit, if_pos hstart]
    exact Nat.succ_le_succ (length_le_takeWhile hrest htail)
  | opening | closing | operator => exact hone

/-- A token is cut off as the longest text that spells one. -/
theorem cut_longestAt (hblank : isBlank c = false) :
    LongestAt (cut c rest).kind (cut c rest).chars (cut c rest).rest := by
  refine ⟨cut_spells hblank, fun kind cs hcs hfront => cut_longest hcs ?_⟩
  rwa [chars_append_rest] at hfront

end Lexeme

/-! ## Bytes -/

theorem byteCount_append (cs ds : List Char) : byteCount (cs ++ ds) = byteCount cs + byteCount ds := by
  induction cs with
  | nil => exact (Nat.zero_add _).symm
  | cons c cs ih => rw [List.cons_append, byteCount, byteCount, ih, Nat.add_assoc]

theorem byteCount_eq_utf8ByteSize (cs : List Char) :
    byteCount cs = (String.ofList cs).utf8ByteSize := by
  induction cs with
  | nil => rfl
  | cons c cs ih =>
    rw [byteCount, ih, String.ofList_cons, String.utf8ByteSize_append, String.utf8ByteSize_singleton]

theorem byteCount_pos {cs : List Char} (hne : cs ≠ []) : 0 < byteCount cs := by
  obtain ⟨c, rest, rfl⟩ := List.exists_cons_of_ne_nil hne
  exact Nat.add_pos_left c.utf8Size_pos _

/-! ## Partitions -/

/-- Blanks, the characters of the token behind them, and the token. -/
structure Stretch where
  blanks : List Char
  lexeme : List Char
  token : Token

/-- The text that a stretch takes up. -/
def Stretch.text (s : Stretch) : List Char :=
  s.blanks ++ s.lexeme

/-- Stretches and blanks after the last one make up a text that starts after a number of bytes. Each
token is the longest at its place, and its offset is the number of bytes before it. -/
structure Partition (start : Nat) (cs : List Char) (ts : List Token) (stretches : List Stretch)
    (last : List Char) : Prop where
  text : cs = stretches.flatMap Stretch.text ++ last
  tokens : stretches.map (·.token) = ts
  blank : ∀ s ∈ stretches, ∀ c ∈ s.blanks, isBlank c = true
  blank_last : ∀ c ∈ last, isBlank c = true
  offset : ∀ before s after, stretches = before ++ s :: after →
    s.token.offset = start + byteCount (before.flatMap Stretch.text ++ s.blanks)
  longest : ∀ before s after, stretches = before ++ s :: after →
    LongestAt s.token.kind s.lexeme (after.flatMap Stretch.text ++ last)

section Partitions

variable {start offset : Nat} {blanks cs last : List Char} {ts : List Token}
  {stretches : List Stretch} {l : Lexeme}

theorem Partition.nil (hblank : ∀ c ∈ last, isBlank c = true) : Partition start last [] [] last where
  text := rfl
  tokens := rfl
  blank _ h := nomatch h
  blank_last := hblank
  offset before _ _ h := by cases before <;> cases h
  longest before _ _ h := by cases before <;> cases h

/-- A stretch before a partition. -/
theorem Partition.cons (hblank : ∀ c ∈ blanks, isBlank c = true)
    (hlongest : LongestAt l.kind l.chars l.rest)
    (h : Partition (start + byteCount (blanks ++ l.chars)) l.rest ts stretches last) :
    Partition start (blanks ++ (l.chars ++ l.rest)) (⟨l.kind, start + byteCount blanks⟩ :: ts)
      (⟨blanks, l.chars, ⟨l.kind, start + byteCount blanks⟩⟩ :: stretches) last where
  text := by
    rw [List.flatMap_cons, Stretch.text, List.append_assoc, List.append_assoc, ← h.text]
  tokens := by rw [List.map_cons, h.tokens]
  blank := List.forall_mem_cons.2 ⟨hblank, h.blank⟩
  blank_last := h.blank_last
  offset before s after heq := by
    cases before with
    | nil =>
      cases heq
      rfl
    | cons b before =>
      obtain ⟨rfl, htail⟩ := List.cons.inj heq
      rw [h.offset before s after htail, Nat.add_assoc, ← byteCount_append]
      simp [Stretch.text]
  longest before s after heq := by
    cases before with
    | nil =>
      cases heq
      rw [← h.text]
      exact hlongest
    | cons b before =>
      obtain ⟨rfl, htail⟩ := List.cons.inj heq
      exact h.longest before s after htail

/-- Cutting tokens off a text, after blanks that belong to the next token, partitions the blanks and
the text. -/
theorem tokensFrom_partition (start offset : Nat) (blanks cs : List Char)
    (hoffset : offset = start + byteCount blanks) (hblanks : ∀ c ∈ blanks, isBlank c = true) :
    ∃ stretches last, Partition start (blanks ++ cs) (tokensFrom offset cs) stretches last := by
  fun_induction tokensFrom offset cs generalizing start blanks with
  | case1 offset =>
    rw [List.append_nil]
    exact ⟨[], blanks, .nil hblanks⟩
  | case2 offset c rest hblank ih =>
    obtain ⟨stretches, last, h⟩ := ih start (blanks ++ [c])
      (by rw [hoffset, byteCount_append, ← Nat.add_assoc]; rfl)
      (List.forall_mem_append.2 ⟨hblanks, by simpa using hblank⟩)
    rw [List.append_assoc] at h
    exact ⟨stretches, last, h⟩
  | case3 offset c rest hblank l ih =>
    obtain ⟨stretches, last, h⟩ := ih (start + byteCount (blanks ++ l.chars)) []
      (by rw [hoffset, byteCount_append, ← Nat.add_assoc]; rfl) (fun _ h => nomatch h)
    have hlongest : LongestAt l.kind l.chars l.rest :=
      Lexeme.cut_longestAt (Bool.eq_false_of_not_eq_true hblank)
    have hcons := Partition.cons hblanks hlongest h
    rw [Lexeme.chars_append_rest, ← hoffset] at hcons
    exact ⟨_, last, hcons⟩

/-- The next token does not start before the text that it is cut from. -/
theorem le_offset_of_mem_tokensFrom {t : Token} (h : t ∈ tokensFrom offset cs) :
    offset ≤ t.offset := by
  fun_induction tokensFrom offset cs with
  | case1 => cases h
  | case2 offset c rest hblank ih => exact (Nat.le_add_right _ _).trans (ih h)
  | case3 offset c rest hblank l ih =>
    rcases List.mem_cons.1 h with rfl | h
    · exact le_rfl
    · exact (Nat.le_add_right _ _).trans (ih h)

/-- Each token starts before the next one, as no token is empty. -/
theorem pairwise_tokensFrom (offset : Nat) (cs : List Char) :
    (tokensFrom offset cs).Pairwise (·.offset < ·.offset) := by
  fun_induction tokensFrom offset cs with
  | case1 => exact .nil
  | case2 offset c rest hblank ih => exact ih
  | case3 offset c rest hblank l ih =>
    refine .cons (fun t ht => ?_) ih
    calc offset < offset + byteCount l.chars :=
          Nat.lt_add_of_pos_right (byteCount_pos (Lexeme.chars_ne_nil c rest))
      _ ≤ t.offset := le_offset_of_mem_tokensFrom ht

/-- Tokens start at the bytes where characters start. -/
theorem Partition.isValid_offset {input : String} {t : Token}
    (h : Partition 0 input.toList ts stretches last) (ht : t ∈ ts) :
    (⟨t.offset⟩ : String.Pos.Raw).IsValid input := by
  rw [← h.tokens] at ht
  obtain ⟨s, hs, rfl⟩ := List.mem_map.1 ht
  obtain ⟨before, after, hsplit⟩ := List.append_of_mem hs
  refine String.Pos.Raw.isValid_iff_exists_append.2
    ⟨String.ofList (before.flatMap Stretch.text ++ s.blanks),
      String.ofList (s.lexeme ++ (after.flatMap Stretch.text ++ last)), ?_, ?_⟩
  · rw [← String.ofList_append, ← String.ofList_toList (s := input), h.text, hsplit]
    simp [Stretch.text]
  · rw [h.offset before s after hsplit, byteCount_eq_utf8ByteSize, Nat.zero_add]
    rfl

end Partitions

/-- **Tokens partition the text of a formula.** The text is made of blanks and lexemes in turn, one for
each token, each the longest at its place and spelling its token, with the number of bytes before it
as its offset, which is where a character starts and rises from token to token. A number is what its
lexeme is rounded to, which is also what is read where a whole text has to be a number. -/
theorem tokens_partition (input : String) :
    ∃ stretches last, Partition 0 input.toList (tokens input) stretches last ∧
      (tokens input).Pairwise (·.offset < ·.offset) ∧
      (∀ t ∈ tokens input, (⟨t.offset⟩ : String.Pos.Raw).IsValid input) ∧
      ∀ s ∈ stretches, ∀ x, s.token.kind = .number x → ∃ d, Numeral s.lexeme d ∧ x = d.toFloat ∧
        Double.Rounds x d.magnitude ∧ x.isNaN = false ∧ readFloat? s.lexeme = some x := by
  obtain ⟨stretches, last, h⟩ := tokensFrom_partition 0 0 [] input.toList rfl (by simp)
  refine ⟨stretches, last, h, pairwise_tokensFrom 0 input.toList, fun t => h.isValid_offset, ?_⟩
  intro s hs x hx
  obtain ⟨before, after, hsplit⟩ := List.append_of_mem hs
  have hspells := (h.longest before s after hsplit).spells
  rw [hx] at hspells
  cases hspells with
  | number hnumeral =>
    have hrounds := Decimal.rounds_toFloat hnumeral.negative_eq
    exact ⟨_, hnumeral, rfl, hrounds, hrounds.isNaN, hnumeral.readFloat?⟩

end Logbook
