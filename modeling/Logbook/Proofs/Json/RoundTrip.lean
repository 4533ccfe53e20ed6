import Logbook.Json.Reader
import Logbook.Json.Writer
import Logbook.Proofs.Number.Decimals

/-!
# JSON that is written is read back

* `Json.complete` — nothing of the value is missing, so all of it can be written.
* `readText_textChars`, `readNumber_chars` — texts and numbers are read back, whatever follows them
  that cannot be part of them.
* `Reads` — what the reader does with a value, with items and with members if it has enough fuel, and
  `reads`, by induction on the fuel: one unit for each character is enough.
* `scan_render` — a document that was written holds the value and nothing else.
-/

namespace Logbook

/-! ## Numbers -/

/-- Only zero starts with a zero. -/
theorem Digits.head?_digits_ne_zero {n : Nat} (hn : 0 < n) : (digits n).head? ≠ some '0' := by
  induction n using Nat.strongRecOn with
  | _ n ih =>
    by_cases hlt : n < 10
    · rw [digits, Nat.toDigits_of_lt_base hlt]
      interval_cases n <;> decide
    · rw [digits, Nat.toDigits_of_base_le (by decide) (Nat.not_lt.1 hlt),
        List.head?_append_of_ne_nil _ Nat.toDigits_ne_nil]
      exact ih (n / 10) (by omega) (by omega)

/-- No number has needless zeros at its start. -/
theorem Digits.not_padded (n : Nat) :
    ((digits n).head? == some '0' && decide (1 < (digits n).length)) = false := by
  rcases Nat.eq_zero_or_pos n with rfl | hn
  · rfl
  · have := head?_digits_ne_zero hn
    simp [this]

namespace Json

theorem fraction?_unsigned (d : Decimal) {rest : List Char} (hrest : Decimal.Ends rest) :
    fraction? (Decimal.fractionChars d.places d.digits ++
      (Decimal.exponentChars d.exponent ++ rest)) =
      some (d.fractionRun, Decimal.exponentChars d.exponent ++ rest) := by
  rw [d.fractionChars_eq]
  split
  · next hp =>
    rw [List.nil_append, d.fractionRun_eq_nil_iff.2 hp]
    cases h : Decimal.exponentChars d.exponent ++ rest with
    | nil => rfl
    | cons c cs =>
      have hhead : (Decimal.exponentChars d.exponent ++ rest).head? = some c := by rw [h]; rfl
      have hc := (Decimal.head?_exponentChars d.exponent hrest hhead).2
      simp [fraction?, hc]
  · next hp =>
    have hne : d.fractionRun ≠ [] := fun h => hp (d.fractionRun_eq_nil_iff.1 h)
    rw [List.cons_append, fraction?, d.splitDigits_fractionRun hrest]
    simp [hne]

theorem readMagnitude_unsigned (d : Decimal) {rest : List Char} (hrest : Decimal.Ends rest) :
    readMagnitude d.negative (d.unsigned ++ rest) = (number d, rest) := by
  have hwhole : d.wholeRun.isEmpty = false := by simp [d.wholeRun_ne_nil]
  have hzero : (d.wholeRun.head? == some '0' && decide (1 < d.wholeRun.length)) = false :=
    Digits.not_padded _
  rw [readMagnitude, d.splitDigits_unsigned hrest]
  simp only [hwhole, hzero, Bool.or_self, Bool.false_eq_true, if_false, fraction?_unsigned d hrest,
    Decimal.exponent?_exponentChars d.exponent hrest, d.ofParts_runs]

/-- A number is read back. -/
theorem readNumber_chars (d : Decimal) {rest : List Char} (hrest : Decimal.Ends rest) :
    readNumber (d.chars ++ rest) = (number d, rest) := by
  rw [d.chars_eq]
  cases hneg : d.negative with
  | true =>
    rw [← readMagnitude_unsigned d hrest, hneg]
    rfl
  | false =>
    rw [← readMagnitude_unsigned d hrest, hneg]
    obtain ⟨c, cs, hcons, hc⟩ := d.exists_unsigned_eq_cons
    have hminus : c ≠ '-' := by rintro rfl; cases hc
    simp [hcons, readNumber, hminus]

/-! ## Texts -/

theorem charsOfPoints?_toNat (cs : List Char) : charsOfPoints? (cs.map Char.toNat) = some cs := by
  induction cs with
  | nil => rfl
  | cons c cs ih =>
    have hc : c.toNat < 0xd800 ∨ 0xdfff < c.toNat := by
      rcases c.valid with h | h
      · exact .inl h
      · exact .inr h.1
    rw [List.map_cons, charsOfPoints?.eq_def]
    simp only [if_pos hc, ih, Option.map_some, Char.ofNat_toNat]

/-- Whether four hexadecimal digits stand for a number. -/
def isHex (n : Nat) : List Char → Bool
  | [a, b, c, d] => hexNumber? a b c d == some n
  | _ => false

theorem isHex_leftpad :
    ∀ n : Fin 0x20, isHex n.1 (List.leftpad 4 '0' (Nat.toDigits 16 n.1)) = true := by
  decide

theorem exists_of_isHex {n : Nat} {cs : List Char} (h : isHex n cs = true) :
    ∃ a b c d, cs = [a, b, c, d] ∧ hexNumber? a b c d = some n := by
  unfold isHex at h
  split at h
  · next a b c d => exact ⟨a, b, c, d, rfl, by simpa using h⟩
  · cases h

theorem readPoints_plain {c : Char} (hquote : c ≠ '"') (hbackslash : c ≠ '\\')
    (hc : ¬ c.toNat < 0x20) (rest : List Char) :
    readPoints (c :: rest) =
      (readPoints rest).map fun (points, rest) => (c.toNat :: points, rest) := by
  rw [readPoints.eq_def]
  split
  · next h => cases h
  · next h => exact absurd (List.cons.inj h).1 hquote
  · next h => exact absurd (List.cons.inj h).1 hbackslash
  · next h => exact absurd (List.cons.inj h).1 hbackslash
  · next h =>
    cases h
    rw [if_neg hc]
    cases readPoints rest <;> rfl

/-- A character that is written is read back as its code point. -/
theorem readPoints_escapedChar (c : Char) (rest : List Char) :
    readPoints (escapedChar c ++ rest) =
      (readPoints rest).map fun (points, rest) => (c.toNat :: points, rest) := by
  unfold escapedChar
  split
  · cases h : readPoints rest <;> simp [readPoints, unescape?, h]
  · cases h : readPoints rest <;> simp [readPoints, unescape?, h]
  · cases h : readPoints rest <;> simp [readPoints, unescape?, h]
  · cases h : readPoints rest <;> simp [readPoints, unescape?, h]
  · cases h : readPoints rest <;> simp [readPoints, unescape?, h]
  · cases h : readPoints rest <;> simp [readPoints, unescape?, h]
  · cases h : readPoints rest <;> simp [readPoints, unescape?, h]
  · next hquote hbackslash _ _ _ _ _ =>
    split
    · next hc =>
      obtain ⟨a, b, c', d, hcs, hhex⟩ := exists_of_isHex (isHex_leftpad ⟨c.toNat, hc⟩)
      rw [hcs]
      cases h : readPoints rest <;> simp [readPoints, hhex, h]
    · next hc =>
      exact readPoints_plain hquote hbackslash hc rest

theorem readPoints_flatMap (cs rest : List Char) :
    readPoints (cs.flatMap escapedChar ++ '"' :: rest) = some (cs.map Char.toNat, rest) := by
  induction cs with
  | nil => rfl
  | cons c cs ih =>
    rw [List.flatMap_cons, List.append_assoc, readPoints_escapedChar, ih]
    rfl

/-- A text is read back, up to its closing quotation mark. -/
theorem readText_textChars (s : String) (rest : List Char) :
    readText (s.toList.flatMap escapedChar ++ '"' :: rest) = some (some s, rest) := by
  rw [readText, readPoints_flatMap, Option.map_some]
  simp only [charsOfPoints?_toNat, Option.map_some, String.ofList_toList]

/-! ## Blanks -/

/-- Whether a character is passed over before a value. -/
def isSpace (c : Char) : Bool :=
  c == ' ' || c == '\n' || c == '\t' || c == '\r'

theorem isSpace_of_isDigit {c : Char} (h : c.isDigit = true) : isSpace c = false := by
  simp only [isSpace, Bool.or_eq_false_iff, beq_eq_false_iff_ne]
  refine ⟨⟨⟨?_, ?_⟩, ?_⟩, ?_⟩ <;> rintro rfl <;> cases h

theorem skipBlanks_cons {c : Char} (h : isSpace c = false) (cs : List Char) :
    skipBlanks (c :: cs) = c :: cs :=
  List.dropWhile_cons_of_neg (Bool.eq_false_iff.1 h)

theorem skipBlanks_lineBreak (layout : Layout) (depth : Nat) (cs : List Char) :
    skipBlanks (layout.lineBreak depth ++ cs) = skipBlanks cs := by
  cases layout with
  | compact => rfl
  | indented =>
    have hblanks (n : Nat) : skipBlanks (List.replicate n ' ' ++ cs) = skipBlanks cs := by
      induction n with
      | zero => rfl
      | succ n ih => exact ih
    exact hblanks (2 * depth)

/-- The reader passes over blanks before a value. -/
theorem readValue_congr {cs cs' : List Char} (h : skipBlanks cs = skipBlanks cs') (fuel : Nat) :
    readValue fuel cs = readValue fuel cs' := by
  cases fuel with
  | zero => rfl
  | succ fuel => rw [readValue, readValue, h]

theorem readItems_congr {cs cs' : List Char} (h : skipBlanks cs = skipBlanks cs') (fuel : Nat) :
    readItems fuel cs = readItems fuel cs' := by
  cases fuel with
  | zero => rfl
  | succ fuel => rw [readItems, readItems, readValue_congr h]

theorem readMembers_congr {cs cs' : List Char} (h : skipBlanks cs = skipBlanks cs') (fuel : Nat) :
    readMembers fuel cs = readMembers fuel cs' := by
  cases fuel with
  | zero => rfl
  | succ fuel => rw [readMembers, readMembers, h]

/-! ## Values -/

mutual

/-- Whether nothing of the value is missing, neither its text nor the name of a member. -/
def complete : Json → Bool
  | unpaired | cut => false
  | array items => completeItems items
  | object members => completeMembers members
  | _ => true

/-- Whether nothing of the items is missing. -/
def completeItems : List Json → Bool
  | [] => true
  | v :: rest => v.complete && completeItems rest

/-- Whether nothing of the members is missing. -/
def completeMembers : List (Option String × Json) → Bool
  | [] => true
  | (name, v) :: rest => name.isSome && v.complete && completeMembers rest

end

theorem exists_decimal_eq_cons (d : Decimal) :
    ∃ c cs, d.chars = c :: cs ∧ (c = '-' ∨ c.isDigit = true) := by
  obtain ⟨c, cs, hcons, hc⟩ := d.exists_unsigned_eq_cons
  rw [d.chars_eq]
  cases d.negative with
  | true => exact ⟨'-', d.unsigned, rfl, .inl rfl⟩
  | false => exact ⟨c, cs, hcons, .inr hc⟩

/-- A value starts with a character that is not passed over and does not end an array. -/
theorem exists_chars_eq_cons {v : Json} (h : v.complete = true) (layout : Layout) (depth : Nat) :
    ∃ c cs, v.chars layout depth = c :: cs ∧ isSpace c = false ∧ c ≠ ']' := by
  cases v with
  | null => exact ⟨'n', ['u', 'l', 'l'], rfl, by decide⟩
  | bool b =>
    cases b with
    | false => exact ⟨'f', ['a', 'l', 's', 'e'], rfl, by decide⟩
    | true => exact ⟨'t', ['r', 'u', 'e'], rfl, by decide⟩
  | number d =>
    obtain ⟨c, cs, hcons, hc⟩ := exists_decimal_eq_cons d
    refine ⟨c, cs, by rw [chars, hcons], ?_⟩
    rcases hc with rfl | hc
    · decide
    · exact ⟨isSpace_of_isDigit hc, by rintro rfl; cases hc⟩
  | text s => exact ⟨'"', _, rfl, by decide⟩
  | unpaired => cases h
  | array items => cases items <;> exact ⟨'[', _, rfl, by decide⟩
  | object members =>
    rcases members with _ | ⟨⟨name, v⟩, rest⟩ <;> exact ⟨'\x7b', _, rfl, by decide⟩
  | cut => cases h

/-! ## What the reader does at the start of a value -/

section Step

variable (fuel : Nat) (rest : List Char)

theorem readValue_null : readValue (fuel + 1) ("null".toList ++ rest) = (null, rest) := by
  simp [readValue, skipBlanks]

theorem readValue_bool (b : Bool) (layout : Layout) (depth : Nat) :
    readValue (fuel + 1) ((bool b).chars layout depth ++ rest) = (bool b, rest) := by
  cases b <;> simp [chars, readValue, skipBlanks]

theorem readValue_text (s : String) :
    readValue (fuel + 1) (textChars s ++ rest) = (text s, rest) := by
  have htext := readText_textChars s rest
  simp [textChars, readValue, skipBlanks, htext]

theorem readValue_number (d : Decimal) (hrest : Decimal.Ends rest) :
    readValue (fuel + 1) (d.chars ++ rest) = (number d, rest) := by
  obtain ⟨c, cs, hcons, hc⟩ := exists_decimal_eq_cons d
  have hnumber := readNumber_chars d hrest
  have hblank : isSpace c = false := by
    rcases hc with rfl | hc
    · decide
    · exact isSpace_of_isDigit hc
  have hne (a : Char) (ha : a ≠ '-' ∧ a.isDigit = false) : c ≠ a := by
    rintro rfl
    rcases hc with hc | hc
    · exact ha.1 hc
    · rw [ha.2] at hc
      cases hc
  rw [hcons, List.cons_append] at hnumber ⊢
  rw [readValue, skipBlanks_cons hblank]
  split
  · next h => exact absurd (List.cons.inj h).1 (hne 'n' (by decide))
  · next h => exact absurd (List.cons.inj h).1 (hne 't' (by decide))
  · next h => exact absurd (List.cons.inj h).1 (hne 'f' (by decide))
  · next h => exact absurd (List.cons.inj h).1 (hne '"' (by decide))
  · next h => exact absurd (List.cons.inj h).1 (hne '[' (by decide))
  · next h => exact absurd (List.cons.inj h).1 (hne '\x7b' (by decide))
  · exact hnumber

theorem readValue_array {c : Char} (hblank : isSpace c = false) (hc : c ≠ ']') {cs : List Char}
    (hcs : skipBlanks cs = c :: rest) :
    readValue (fuel + 1) ('[' :: cs) =
      (array (readItems fuel cs).1, (readItems fuel cs).2) := by
  have hitems : readItems fuel (c :: rest) = readItems fuel cs :=
    readItems_congr ((skipBlanks_cons hblank rest).trans hcs.symm) fuel
  rw [readValue, skipBlanks_cons (by decide)]
  simp only [hcs]
  split
  · next h => exact absurd (List.cons.inj h).1 hc
  · rw [hitems]

theorem readValue_object {cs : List Char} (hcs : skipBlanks cs = '"' :: rest) :
    readValue (fuel + 1) ('\x7b' :: cs) =
      (object (readMembers fuel cs).1, (readMembers fuel cs).2) := by
  have hmembers : readMembers fuel ('"' :: rest) = readMembers fuel cs :=
    readMembers_congr ((skipBlanks_cons (by decide) rest).trans hcs.symm) fuel
  rw [readValue, skipBlanks_cons (by decide)]
  simp only [hcs]
  split
  · next h => cases h
  · rw [hmembers]

theorem readItems_more {cs after : List Char} {v : Json} (hv : readValue fuel cs = (v, after))
    (hafter : skipBlanks after = ',' :: rest) :
    readItems (fuel + 1) cs = (v :: (readItems fuel rest).1, (readItems fuel rest).2) := by
  rw [readItems]
  simp only [hv, hafter]

theorem readItems_last {cs after : List Char} {v : Json} (hv : readValue fuel cs = (v, after))
    (hafter : skipBlanks after = ']' :: rest) : readItems (fuel + 1) cs = ([v], rest) := by
  rw [readItems]
  simp only [hv, hafter]

/-- What the reader does after the name and the value of a member. -/
def membersAfter (name : String) (v : Json) (after : List Char) :
    List (Option String × Json) × List Char :=
  match skipBlanks after with
  | ',' :: rest => ((some name, v) :: (readMembers fuel rest).1, (readMembers fuel rest).2)
  | '\x7d' :: rest => ([(some name, v)], rest)
  | _ => ([(some name, v), (none, cut)], [])

/-- The name of a member is read back, and the value after it. -/
theorem readMembers_name (name : String) (layout : Layout) {cs after : List Char} {v : Json}
    (hv : readValue fuel cs = (v, after)) :
    readMembers (fuel + 1) (textChars name ++ (layout.colon ++ cs)) =
      membersAfter fuel name v after := by
  obtain ⟨blanks, hcolon, hblanks⟩ : ∃ blanks, layout.colon ++ cs = ':' :: (blanks ++ cs) ∧
      skipBlanks (blanks ++ cs) = skipBlanks cs := by
    cases layout with
    | compact => exact ⟨[], rfl, rfl⟩
    | indented => exact ⟨[' '], rfl, rfl⟩
  have hname := readText_textChars name (':' :: (blanks ++ cs))
  have hvalue : readValue fuel (blanks ++ cs) = (v, after) :=
    (readValue_congr hblanks fuel).trans hv
  have hstart : skipBlanks (textChars name ++ ':' :: (blanks ++ cs)) =
      '"' :: (name.toList.flatMap escapedChar ++ '"' :: ':' :: (blanks ++ cs)) := by
    simp [textChars, skipBlanks]
  have hskip : skipBlanks (':' :: (blanks ++ cs)) = ':' :: (blanks ++ cs) :=
    skipBlanks_cons (by decide) _
  rw [hcolon, readMembers]
  simp only [hstart, hname, hskip, hvalue]
  rfl

end Step

/-! ## What follows a value -/

theorem ends_cons {c : Char} (h : c.isDigit = false ∧ c ≠ '.' ∧ c ≠ 'e' ∧ c ≠ 'E')
    (rest : List Char) : Decimal.Ends (c :: rest) := by
  intro a ha
  cases ha
  exact h

theorem ends_lineBreak (layout : Layout) (depth : Nat) {c : Char}
    (h : c.isDigit = false ∧ c ≠ '.' ∧ c ≠ 'e' ∧ c ≠ 'E') (rest : List Char) :
    Decimal.Ends (layout.lineBreak depth ++ c :: rest) := by
  cases layout with
  | compact => exact ends_cons h rest
  | indented => exact ends_cons (by decide) _

theorem ends_itemChars (layout : Layout) (depth k : Nat) (items : List Json) (rest : List Char) :
    Decimal.Ends (itemChars layout depth items ++ (layout.lineBreak k ++ ']' :: rest)) := by
  cases items with
  | nil => exact ends_lineBreak layout k (by decide) rest
  | cons v items => exact ends_cons (by decide) _

theorem ends_memberChars (layout : Layout) (depth k : Nat) (members : List (Option String × Json))
    (rest : List Char) :
    Decimal.Ends (memberChars layout depth members ++ (layout.lineBreak k ++ '\x7d' :: rest)) := by
  rcases members with _ | ⟨⟨name, v⟩, members⟩
  · exact ends_lineBreak layout k (by decide) rest
  · exact ends_cons (by decide) _

/-! ## Whole values -/

/-- What the reader does with the text of a value, of the items of an array and of the members of an
object, if it has that much fuel. -/
structure Reads (layout : Layout) (fuel : Nat) : Prop where
  value : ∀ (v : Json) (depth : Nat) (rest : List Char), v.complete = true → Decimal.Ends rest →
    (v.chars layout depth).length ≤ fuel →
    readValue fuel (v.chars layout depth ++ rest) = (v, rest)
  items : ∀ (v : Json) (items : List Json) (depth k : Nat) (rest : List Char), v.complete = true →
    completeItems items = true →
    (v.chars layout depth).length + (itemChars layout depth items).length < fuel →
    readItems fuel (v.chars layout depth ++
      (itemChars layout depth items ++ (layout.lineBreak k ++ ']' :: rest))) = (v :: items, rest)
  members : ∀ (name : String) (v : Json) (members : List (Option String × Json)) (depth k : Nat)
    (rest : List Char), v.complete = true → completeMembers members = true →
    (v.chars layout depth).length + (memberChars layout depth members).length < fuel →
    readMembers fuel (textChars name ++ (layout.colon ++ (v.chars layout depth ++
      (memberChars layout depth members ++ (layout.lineBreak k ++ '\x7d' :: rest))))) =
      ((some name, v) :: members, rest)

variable {layout : Layout} {fuel : Nat}

theorem Reads.value_succ (h : Reads layout fuel) (v : Json) (depth : Nat) (rest : List Char)
    (hv : v.complete = true) (hrest : Decimal.Ends rest)
    (hfuel : (v.chars layout depth).length ≤ fuel + 1) :
    readValue (fuel + 1) (v.chars layout depth ++ rest) = (v, rest) := by
  cases v with
  | null => exact readValue_null fuel rest
  | bool b => exact readValue_bool fuel rest b layout depth
  | number d => exact readValue_number fuel rest d hrest
  | text s => exact readValue_text fuel rest s
  | unpaired => cases hv
  | cut => cases hv
  | array items =>
    cases items with
    | nil => simp [chars, readValue, skipBlanks]
    | cons v items =>
      rw [complete, completeItems, Bool.and_eq_true] at hv
      obtain ⟨c, cs, hcons, hblank, hc⟩ := exists_chars_eq_cons hv.1 layout (depth + 1)
      obtain ⟨tail, htail⟩ : ∃ tail, tail = v.chars layout (depth + 1) ++
        (itemChars layout (depth + 1) items ++ (layout.lineBreak depth ++ ']' :: rest)) := ⟨_, rfl⟩
      have hchars : (array (v :: items)).chars layout depth ++ rest =
          '[' :: (layout.lineBreak (depth + 1) ++ tail) := by
        rw [htail]
        simp [chars]
      have hlength : (v.chars layout (depth + 1)).length +
          (itemChars layout (depth + 1) items).length < fuel := by
        simp [chars] at hfuel
        omega
      have hitems : readItems fuel (layout.lineBreak (depth + 1) ++ tail) = (v :: items, rest) := by
        rw [readItems_congr (skipBlanks_lineBreak layout (depth + 1) tail), htail]
        exact h.items v items (depth + 1) depth rest hv.1 hv.2 hlength
      have hstart : ∃ more, skipBlanks (layout.lineBreak (depth + 1) ++ tail) = c :: more := by
        rw [skipBlanks_lineBreak, htail, hcons, List.cons_append, skipBlanks_cons hblank]
        exact ⟨_, rfl⟩
      obtain ⟨more, hmore⟩ := hstart
      rw [hchars, readValue_array fuel more hblank hc hmore, hitems]
  | object members =>
    rcases members with _ | ⟨⟨name, v⟩, members⟩
    · simp [chars, readValue, skipBlanks]
    · rw [complete, completeMembers, Bool.and_eq_true, Bool.and_eq_true] at hv
      obtain ⟨⟨hname, hv⟩, hmembers⟩ := hv
      obtain ⟨name, rfl⟩ := Option.isSome_iff_exists.1 hname
      obtain ⟨tail, htail⟩ : ∃ tail, tail = textChars name ++ (layout.colon ++
        (v.chars layout (depth + 1) ++ (memberChars layout (depth + 1) members ++
          (layout.lineBreak depth ++ '\x7d' :: rest)))) := ⟨_, rfl⟩
      have hchars : (object ((some name, v) :: members)).chars layout depth ++ rest =
          '\x7b' :: (layout.lineBreak (depth + 1) ++ tail) := by
        rw [htail]
        simp [chars]
      have hlength : (v.chars layout (depth + 1)).length +
          (memberChars layout (depth + 1) members).length < fuel := by
        simp [chars, textChars] at hfuel
        omega
      have hread : readMembers fuel (layout.lineBreak (depth + 1) ++ tail) =
          ((some name, v) :: members, rest) := by
        rw [readMembers_congr (skipBlanks_lineBreak layout (depth + 1) tail), htail]
        exact h.members name v members (depth + 1) depth rest hv hmembers hlength
      have hstart : ∃ more, skipBlanks (layout.lineBreak (depth + 1) ++ tail) = '"' :: more := by
        rw [skipBlanks_lineBreak, htail, textChars, List.cons_append, List.cons_append,
          skipBlanks_cons (by decide)]
        exact ⟨_, rfl⟩
      obtain ⟨more, hmore⟩ := hstart
      rw [hchars, readValue_object fuel more hmore, hread]

theorem Reads.items_succ (h : Reads layout fuel) (v : Json) (items : List Json) (depth k : Nat)
    (rest : List Char) (hv : v.complete = true) (hitems : completeItems items = true)
    (hfuel : (v.chars layout depth).length + (itemChars layout depth items).length < fuel + 1) :
    readItems (fuel + 1) (v.chars layout depth ++
      (itemChars layout depth items ++ (layout.lineBreak k ++ ']' :: rest))) =
      (v :: items, rest) := by
  have hvalue := h.value v depth _ hv (ends_itemChars layout depth k items rest) (by omega)
  cases items with
  | nil =>
    refine readItems_last fuel rest hvalue ?_
    rw [itemChars, List.nil_append, skipBlanks_lineBreak, skipBlanks_cons (by decide)]
  | cons w items =>
    rw [completeItems, Bool.and_eq_true] at hitems
    have hlength :
        (w.chars layout depth).length + (itemChars layout depth items).length < fuel := by
      simp [itemChars] at hfuel
      omega
    have hrest := h.items w items depth k rest hitems.1 hitems.2 hlength
    rw [← readItems_congr (skipBlanks_lineBreak layout depth _)] at hrest
    have hafter : skipBlanks (itemChars layout depth (w :: items) ++
        (layout.lineBreak k ++ ']' :: rest)) =
          ',' :: (layout.lineBreak depth ++ (w.chars layout depth ++
            (itemChars layout depth items ++ (layout.lineBreak k ++ ']' :: rest)))) := by
      rw [itemChars, List.cons_append, List.cons_append, List.cons_append,
        skipBlanks_cons (by decide)]
      simp
    rw [readItems_more fuel _ hvalue hafter, hrest]

theorem Reads.members_succ (h : Reads layout fuel) (name : String) (v : Json)
    (members : List (Option String × Json)) (depth k : Nat) (rest : List Char)
    (hv : v.complete = true) (hmembers : completeMembers members = true)
    (hfuel : (v.chars layout depth).length + (memberChars layout depth members).length < fuel + 1) :
    readMembers (fuel + 1) (textChars name ++ (layout.colon ++ (v.chars layout depth ++
      (memberChars layout depth members ++ (layout.lineBreak k ++ '\x7d' :: rest))))) =
      ((some name, v) :: members, rest) := by
  have hvalue := h.value v depth _ hv (ends_memberChars layout depth k members rest) (by omega)
  rw [readMembers_name fuel name layout hvalue, membersAfter]
  cases members with
  | nil =>
    have hafter : skipBlanks (memberChars layout depth [] ++
        (layout.lineBreak k ++ '\x7d' :: rest)) = '\x7d' :: rest := by
      rw [memberChars, List.nil_append, skipBlanks_lineBreak, skipBlanks_cons (by decide)]
    simp only [hafter]
  | cons m members =>
    obtain ⟨name', w⟩ := m
    rw [completeMembers, Bool.and_eq_true, Bool.and_eq_true] at hmembers
    obtain ⟨⟨hname, hw⟩, hmembers⟩ := hmembers
    obtain ⟨name', rfl⟩ := Option.isSome_iff_exists.1 hname
    have hlength :
        (w.chars layout depth).length + (memberChars layout depth members).length < fuel := by
      simp [memberChars, textChars] at hfuel
      omega
    have hrest := h.members name' w members depth k rest hw hmembers hlength
    rw [← readMembers_congr (skipBlanks_lineBreak layout depth _)] at hrest
    have hafter : skipBlanks (memberChars layout depth ((some name', w) :: members) ++
        (layout.lineBreak k ++ '\x7d' :: rest)) = ',' :: (layout.lineBreak depth ++
          (textChars name' ++ (layout.colon ++ (w.chars layout depth ++
            (memberChars layout depth members ++ (layout.lineBreak k ++ '\x7d' :: rest)))))) := by
      rw [memberChars, List.cons_append, List.cons_append, List.cons_append, List.cons_append,
        List.cons_append, skipBlanks_cons (by decide)]
      simp
    simp only [hafter, hrest]

theorem reads (layout : Layout) (fuel : Nat) : Reads layout fuel := by
  induction fuel with
  | zero =>
    refine ⟨?_, ?_, ?_⟩
    · intro v depth rest hv _ hfuel
      obtain ⟨c, cs, hcons, -⟩ := exists_chars_eq_cons hv layout depth
      rw [hcons] at hfuel
      cases hfuel
    · intro v items depth k rest _ _ hfuel
      cases hfuel
    · intro name v members depth k rest _ _ hfuel
      cases hfuel
  | succ fuel ih =>
    exact ⟨ih.value_succ, ih.items_succ, ih.members_succ⟩

/-- **A document that was written is read back**, and nothing follows it. -/
theorem scan_render (layout : Layout) {v : Json} (h : v.complete = true) :
    scan (v.render layout) = ⟨v, true⟩ := by
  have hreads := reads layout (2 * (v.chars layout 0).length + 2)
  have hread := hreads.value v 0 [] h Decimal.ends_nil (by omega)
  rw [List.append_nil] at hread
  rw [scan, render, String.toList_ofList]
  simp only [hread]
  rfl

end Json

end Logbook
