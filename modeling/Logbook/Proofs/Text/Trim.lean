import Logbook.Text.Blank
import Logbook.Text.Digits

/-!
# Text that trimming leaves as it is

* `trimStart_digits` — digits are not blank, so a text that starts with some stays.
* `trim_of_not_blank` — a text without blanks stays.
* `trim_eq_iff` — trimming leaves what stands between the blanks at both ends.
-/

namespace Logbook

/-- No digit is blank. -/
theorem isBlank_of_isDigit {c : Char} (h : c.isDigit = true) : isBlank c = false := by
  obtain ⟨hlow, hhigh⟩ := Char.isDigit_iff_toNat.1 h
  have h0 : ('0' : Char).toNat = 48 := rfl
  have h9 : ('9' : Char).toNat = 57 := rfl
  simp [isBlank, CodeRanges.holds, blankRanges]
  omega

theorem trimStart_eq_self {cs : List Char} (h : ∀ c, cs.head? = some c → isBlank c = false) :
    trimStart cs = cs := by
  cases cs with
  | nil => rfl
  | cons c rest => simp [trimStart, h c rfl]

theorem trimStart_cons {c : Char} (h : isBlank c = false) (cs : List Char) :
    trimStart (c :: cs) = c :: cs :=
  trimStart_eq_self (by simpa using h)

theorem trimStart_digits {run : List Char} (hne : run ≠ []) (h : ∀ c ∈ run, c.isDigit = true)
    (rest : List Char) : trimStart (run ++ rest) = run ++ rest := by
  cases run with
  | nil => exact absurd rfl hne
  | cons c run => exact trimStart_cons (isBlank_of_isDigit (h c List.mem_cons_self)) _

/-- A text without blanks stays. -/
theorem trim_of_not_blank {cs : List Char} (h : ∀ c ∈ cs, isBlank c = false) : trim cs = cs := by
  have hreverse : trimStart cs.reverse = cs.reverse :=
    trimStart_eq_self fun c hc => h c (List.mem_reverse.1 (List.mem_of_head? hc))
  rw [trim, trimStart_eq_self fun c hc => h c (List.mem_of_head? hc), hreverse,
    List.reverse_reverse]

/-! ## Texts between blanks -/

variable {cs core rest blanks before after : List Char}

theorem trimStart_blanks (hblanks : ∀ c ∈ blanks, isBlank c = true) :
    trimStart (blanks ++ rest) = trimStart rest :=
  List.dropWhile_append_of_pos hblanks

/-- Blanks come off the front until there is a character that is none. -/
theorem trimStart_eq_iff :
    trimStart cs = rest ↔ ∃ blanks, cs = blanks ++ rest ∧ (∀ c ∈ blanks, isBlank c = true) ∧
      ∀ c, rest.head? = some c → isBlank c = false := by
  constructor
  · rintro rfl
    refine ⟨cs.takeWhile isBlank, List.takeWhile_append_dropWhile.symm, fun c hc => ?_,
      fun c hc => ?_⟩
    · exact (List.all_eq_true.1 List.all_takeWhile) c hc
    · have hhead := List.head?_dropWhile_not isBlank cs
      rw [show cs.dropWhile isBlank = trimStart cs from rfl, hc] at hhead
      simpa using hhead
  · rintro ⟨blanks, rfl, hblanks, hrest⟩
    rw [trimStart_blanks hblanks, trimStart_eq_self hrest]

/-- What is left of a text is between blanks, and neither starts nor ends with one. -/
theorem trim_eq_iff :
    trim cs = core ↔ ∃ before after, cs = before ++ core ++ after ∧
      (∀ c ∈ before, isBlank c = true) ∧ (∀ c ∈ after, isBlank c = true) ∧
      (∀ c, core.head? = some c → isBlank c = false) ∧
      ∀ c, core.getLast? = some c → isBlank c = false := by
  constructor
  · rintro rfl
    obtain ⟨before, hcs, hbefore, hfirst⟩ := trimStart_eq_iff.1 (rfl : trimStart cs = _)
    obtain ⟨after, hrest, hafter, hlast⟩ :=
      trimStart_eq_iff.1 (rfl : trimStart (trimStart cs).reverse = _)
    have hsplit : trimStart cs = trim cs ++ after.reverse := by
      rw [← List.reverse_reverse (trimStart cs), hrest, List.reverse_append]
      rfl
    refine ⟨before, after.reverse, ?_, hbefore, fun c hc => hafter c (List.mem_reverse.1 hc),
      fun c hc => ?_, fun c hc => ?_⟩
    · rw [List.append_assoc, ← hsplit]
      exact hcs
    · exact hfirst c (by rw [hsplit, List.head?_append, hc]; rfl)
    · exact hlast c (by rwa [trim, List.getLast?_reverse] at hc)
  · rintro ⟨before, after, rfl, hbefore, hafter, hfirst, hlast⟩
    have hreverse : ∀ c ∈ after.reverse, isBlank c = true :=
      fun c hc => hafter c (List.mem_reverse.1 hc)
    have hstart : trimStart core.reverse = core.reverse :=
      trimStart_eq_self fun c hc => hlast c (by rwa [List.head?_reverse] at hc)
    rw [trim, List.append_assoc, trimStart_blanks hbefore]
    cases core with
    | nil =>
      have hnone : trimStart after = [] := by
        rw [← after.append_nil, trimStart_blanks hafter]
        rfl
      rw [List.nil_append, hnone]
      rfl
    | cons c core =>
      have hfront : trimStart (c :: core ++ after) = c :: core ++ after :=
        trimStart_cons (hfirst c rfl) _
      rw [hfront, List.reverse_append, trimStart_blanks hreverse, hstart, List.reverse_reverse]

end Logbook
