import Logbook.Proofs.Text.Trim
import Logbook.Time.Period

/-!
# Which texts are periods

A period is written as a count and the suffix of a unit. The reader takes blanks around them, zeros in
front of the count and, for three units, a longer suffix. A text can have several faults at once, and
the first of them is reported.

* `TimeUnit.suffixes` — the suffixes that name a unit (`TimeUnit.ofSuffix?_eq_some_iff`).
* `Period.CutInto` — a text without the blanks around it, cut after the digits at its front; every text
  is cut in one way (`cutInto_iff`).
* `Period.Fault` — what can be wrong with a text; `Fault.earlier` are the faults that count before it.
* `CutInto.read_of_fault`, `CutInto.read_of_no_fault` — the reader reports the first fault, and gives
  the period if there is none.
* `Period.read_text` — every period is read from its own text.
* `Period.read_exact` — all of this together.
-/

namespace Logbook

/-! ## Suffixes -/

namespace TimeUnit

/-- The suffixes that name a unit, the one that it is written with first. -/
def suffixes : TimeUnit → List String
  | second => ["s", "sec"]
  | minute => ["m", "min"]
  | hour => ["h"]
  | day => ["d"]
  | week => ["w"]
  | month => ["M", "mo"]
  | quarter => ["q"]
  | year => ["y"]

theorem ofSuffix?_eq_some_iff {cs : List Char} {unit : TimeUnit} :
    ofSuffix? cs = some unit ↔ String.ofList cs ∈ unit.suffixes := by
  have htable : ∀ suffix ∈ unit.suffixes, ofSuffix? suffix.toList = some unit := by
    cases unit <;> decide
  constructor
  · intro h
    unfold ofSuffix? at h
    split at h <;> cases h <;> decide
  · intro h
    simpa using htable _ h

theorem suffix_mem_suffixes (unit : TimeUnit) : String.ofList [unit.suffix] ∈ unit.suffixes :=
  ofSuffix?_eq_some_iff.1 (ofSuffix?_suffix unit)

/-- No suffix names two units. -/
theorem eq_of_mem_suffixes {suffix : List Char} {u v : TimeUnit}
    (hu : String.ofList suffix ∈ u.suffixes) (hv : String.ofList suffix ∈ v.suffixes) : u = v :=
  Option.some.inj ((ofSuffix?_eq_some_iff.2 hu).symm.trans (ofSuffix?_eq_some_iff.2 hv))

/-- No blank and no digit is part of a suffix. -/
theorem not_blank_of_mem_suffixes {unit : TimeUnit} {suffix : String} (h : suffix ∈ unit.suffixes) :
    suffix.toList ≠ [] ∧ ∀ c ∈ suffix.toList, isBlank c = false ∧ c.isDigit = false := by
  have htable : unit.suffixes.all fun suffix =>
      !suffix.toList.isEmpty && suffix.toList.all fun c => !isBlank c && !c.isDigit := by
    cases unit <;> decide
  simpa using List.all_eq_true.1 htable suffix h

end TimeUnit

namespace Period

/-! ## Counts and units -/

theorem eq_of_count_of_unit {p q : Period} (hcount : p.count = q.count) (hunit : p.unit = q.unit) :
    p = q := by
  obtain ⟨count, unit, _, _⟩ := p
  obtain ⟨count', unit', _, _⟩ := q
  obtain rfl : count = count' := hcount
  obtain rfl : unit = unit' := hunit
  rfl

theorem ofCount_eq_ok_iff {p : Period} {count : Nat} {unit : TimeUnit} :
    ofCount count unit = .ok p ↔ p.count = count ∧ p.unit = unit := by
  unfold ofCount
  constructor
  · intro h
    split at h
    · split at h
      · cases h
        exact ⟨rfl, rfl⟩
      · cases h
    · cases h
  · rintro ⟨rfl, rfl⟩
    rw [dif_pos p.count_lt, dif_pos p.count_pos]

/-! ## Where a text is cut -/

/-- The text is `run` and `suffix` between blanks, where `run` are all the digits at its front. -/
structure CutInto (input : String) (run suffix : List Char) : Prop where
  between : ∃ before after, input.toList = before ++ (run ++ suffix) ++ after ∧
    (∀ c ∈ before, isBlank c = true) ∧ ∀ c ∈ after, isBlank c = true
  first : ∀ c, (run ++ suffix).head? = some c → isBlank c = false
  last : ∀ c, (run ++ suffix).getLast? = some c → isBlank c = false
  digits : ∀ c ∈ run, c.isDigit = true
  stop : ∀ c, suffix.head? = some c → c.isDigit = false

variable {input : String} {run suffix : List Char}

/-- Every text is cut in one way, which is the one that the reader finds. -/
theorem cutInto_iff :
    CutInto input run suffix ↔ Digits.splitDigits (trim input.toList) = (run, suffix) := by
  constructor
  · rintro ⟨⟨before, after, htext, hbefore, hafter⟩, hfirst, hlast, hdigits, hstop⟩
    rw [trim_eq_iff.2 ⟨before, after, htext, hbefore, hafter, hfirst, hlast⟩]
    exact Digits.splitDigits_of_digits hdigits hstop
  · intro h
    have hcore : trim input.toList = run ++ suffix := by
      rw [← Digits.splitDigits_append (trim input.toList), h]
    obtain ⟨before, after, htext, hbefore, hafter, hfirst, hlast⟩ := trim_eq_iff.1 hcore
    obtain ⟨hrun, hsuffix⟩ := Prod.mk.inj h
    refine ⟨⟨before, after, htext, hbefore, hafter⟩, hfirst, hlast, fun c hc => ?_, fun c hc => ?_⟩
    · rw [← hrun] at hc
      exact List.all_eq_true.1 List.all_takeWhile c hc
    · rw [← hsuffix] at hc
      have hhead := List.head?_dropWhile_not Char.isDigit (trim input.toList)
      rw [hc] at hhead
      simpa using hhead

theorem exists_cutInto (input : String) : ∃ run suffix, CutInto input run suffix :=
  ⟨_, _, cutInto_iff.2 rfl⟩

/-- Blanks around digits and a suffix do not change where a text is cut. -/
theorem cutInto_of_suffix {before after : List Char} {unit : TimeUnit}
    (htext : input.toList = before ++ (run ++ suffix) ++ after)
    (hbefore : ∀ c ∈ before, isBlank c = true) (hafter : ∀ c ∈ after, isBlank c = true)
    (hdigits : ∀ c ∈ run, c.isDigit = true) (hsuffix : String.ofList suffix ∈ unit.suffixes) :
    CutInto input run suffix := by
  obtain ⟨-, hplain⟩ := TimeUnit.not_blank_of_mem_suffixes hsuffix
  rw [String.toList_ofList] at hplain
  have hcore : ∀ c ∈ run ++ suffix, isBlank c = false := by
    intro c hc
    rcases List.mem_append.1 hc with hc | hc
    · exact isBlank_of_isDigit (hdigits c hc)
    · exact (hplain c hc).1
  exact ⟨⟨before, after, htext, hbefore, hafter⟩, fun c hc => hcore c (List.mem_of_head? hc),
    fun c hc => hcore c (List.mem_of_getLast? hc), hdigits,
    fun c hc => (hplain c (List.mem_of_head? hc)).2⟩

/-! ## Faults -/

/-- What can be wrong with a text that should be a period. -/
inductive Fault where
  | missingCount | countOutOfRange | unknownUnit | zeroCount
deriving DecidableEq

namespace Fault

/-- The fault in words. -/
def reason : Fault → String
  | missingCount => "missing count"
  | countOutOfRange => "count out of range"
  | unknownUnit => "unknown unit"
  | zeroCount => "count must be at least 1"

/-- The error that reports the fault of a text. -/
def error (input : String) : Fault → PeriodError
  | missingCount => .missingCount input
  | countOutOfRange => .countOutOfRange input
  | unknownUnit => .unknownUnit input
  | zeroCount => .zeroCount input

/-- Whether a text that is cut into digits and a rest has the fault. A count has 32 bits. -/
def Holds (run suffix : List Char) : Fault → Prop
  | missingCount => run = []
  | countOutOfRange => 4294967295 < Digits.value run
  | unknownUnit => ∀ unit : TimeUnit, String.ofList suffix ∉ unit.suffixes
  | zeroCount => Digits.value run < 1

theorem unknownUnit_holds_iff :
    unknownUnit.Holds run suffix ↔ TimeUnit.ofSuffix? suffix = none := by
  rw [Option.eq_none_iff_forall_ne_some]
  exact forall_congr' fun unit => not_congr TimeUnit.ofSuffix?_eq_some_iff.symm

instance (run suffix : List Char) (fault : Fault) : Decidable (fault.Holds run suffix) :=
  match fault with
  | missingCount => inferInstanceAs (Decidable (run = []))
  | countOutOfRange => inferInstanceAs (Decidable (4294967295 < Digits.value run))
  | unknownUnit => decidable_of_iff _ unknownUnit_holds_iff.symm
  | zeroCount => inferInstanceAs (Decidable (Digits.value run < 1))

/-- The faults that count before a fault. -/
def earlier : Fault → List Fault
  | missingCount => []
  | countOutOfRange => [missingCount]
  | unknownUnit => [missingCount, countOutOfRange]
  | zeroCount => [missingCount, countOutOfRange, unknownUnit]

/-- A text has the fault and none that counts before it. -/
def IsFirst (run suffix : List Char) (fault : Fault) : Prop :=
  fault.Holds run suffix ∧ ∀ other ∈ fault.earlier, ¬ other.Holds run suffix

theorem message_error (input : String) (fault : Fault) :
    (fault.error input).message = "invalid period " ++ quoted input ++ ": " ++ fault.reason := by
  cases fault <;> rfl

/-- One of the faults that a text has is the first. -/
theorem exists_isFirst {fault : Fault} (h : fault.Holds run suffix) :
    ∃ first, IsFirst run suffix first := by
  by_cases hmissing : missingCount.Holds run suffix
  · exact ⟨missingCount, hmissing, by simp [earlier]⟩
  by_cases hrange : countOutOfRange.Holds run suffix
  · exact ⟨countOutOfRange, hrange, by simp [earlier, hmissing]⟩
  by_cases hunit : unknownUnit.Holds run suffix
  · exact ⟨unknownUnit, hunit, by simp [earlier, hmissing, hrange]⟩
  cases fault with
  | missingCount => exact absurd h hmissing
  | countOutOfRange => exact absurd h hrange
  | unknownUnit => exact absurd h hunit
  | zeroCount => exact ⟨zeroCount, h, by simp [earlier, hmissing, hrange, hunit]⟩

end Fault

/-! ## The reader -/

/-- The first fault is reported. -/
theorem CutInto.read_of_fault (h : CutInto input run suffix) {fault : Fault}
    (hfirst : fault.IsFirst run suffix) : read input = .error (fault.error input) := by
  obtain ⟨hfault, hearlier⟩ := hfirst
  have hmissing (hmem : Fault.missingCount ∈ fault.earlier) : ¬ run.isEmpty := by
    simpa [Fault.Holds] using hearlier _ hmem
  have hrange (hmem : Fault.countOutOfRange ∈ fault.earlier) : Digits.value run < 4294967296 := by
    have := hearlier _ hmem
    simp only [Fault.Holds] at this
    omega
  rw [read, cutInto_iff.1 h]
  dsimp only
  cases fault with
  | missingCount =>
    rw [if_pos (List.isEmpty_iff.2 hfault)]
    rfl
  | countOutOfRange =>
    have hlarge : ¬ Digits.value run < 4294967296 := by
      simp only [Fault.Holds] at hfault
      omega
    rw [if_neg (hmissing (by decide)), dif_neg hlarge]
    rfl
  | unknownUnit =>
    rw [if_neg (hmissing (by decide)), dif_pos (hrange (by decide)),
      Fault.unknownUnit_holds_iff.1 hfault]
    rfl
  | zeroCount =>
    have hunit : TimeUnit.ofSuffix? suffix ≠ none :=
      mt Fault.unknownUnit_holds_iff.2 (hearlier _ (by decide))
    obtain ⟨unit, hunit⟩ := Option.ne_none_iff_exists'.1 hunit
    rw [if_neg (hmissing (by decide)), dif_pos (hrange (by decide)), hunit]
    exact dif_neg (Nat.not_lt.2 (Nat.lt_succ_iff.1 hfault))

/-- A text without faults is read as its count and its unit. -/
theorem CutInto.read_of_no_fault (h : CutInto input run suffix)
    (hnone : ∀ fault : Fault, ¬ fault.Holds run suffix) :
    ∃ p, read input = .ok p ∧ p.count = Digits.value run ∧
      String.ofList suffix ∈ p.unit.suffixes := by
  have hmissing : ¬ run.isEmpty := by simpa [Fault.Holds] using hnone .missingCount
  have hlt : Digits.value run < 4294967296 := by
    have := hnone .countOutOfRange
    simp only [Fault.Holds] at this
    omega
  have hpos : 0 < Digits.value run := Nat.not_lt.1 (hnone .zeroCount)
  have hunit : TimeUnit.ofSuffix? suffix ≠ none :=
    mt Fault.unknownUnit_holds_iff.2 (hnone .unknownUnit)
  obtain ⟨unit, hunit⟩ := Option.ne_none_iff_exists'.1 hunit
  refine ⟨⟨Digits.value run, unit, hpos, hlt⟩, ?_, rfl, TimeUnit.ofSuffix?_eq_some_iff.1 hunit⟩
  rw [read, cutInto_iff.1 h]
  dsimp only
  rw [if_neg hmissing, dif_pos hlt, hunit]
  exact dif_pos hpos

/-- A text is read as a period iff, between blanks, it is the count in digits and a suffix of the
unit. -/
theorem read_eq_ok_iff {p : Period} :
    read input = .ok p ↔ ∃ run suffix, CutInto input run suffix ∧ run ≠ [] ∧
      Digits.value run = p.count ∧ String.ofList suffix ∈ p.unit.suffixes := by
  constructor
  · intro h
    obtain ⟨run, suffix, hcut⟩ := exists_cutInto input
    have hnone : ∀ fault : Fault, ¬ fault.Holds run suffix := by
      intro fault hfault
      obtain ⟨first, hfirst⟩ := Fault.exists_isFirst hfault
      rw [hcut.read_of_fault hfirst] at h
      cases h
    obtain ⟨q, hq, hcount, hunit⟩ := hcut.read_of_no_fault hnone
    obtain rfl : q = p := Except.ok.inj (hq.symm.trans h)
    exact ⟨run, suffix, hcut, hnone .missingCount, hcount.symm, hunit⟩
  · rintro ⟨run, suffix, hcut, hne, hcount, hunit⟩
    have hnone : ∀ fault : Fault, ¬ fault.Holds run suffix := by
      have hlt := p.count_lt
      have hpos := p.count_pos
      intro fault hfault
      cases fault with
      | missingCount => exact hne hfault
      | countOutOfRange =>
        simp only [Fault.Holds] at hfault
        omega
      | unknownUnit => exact hfault p.unit hunit
      | zeroCount =>
        simp only [Fault.Holds] at hfault
        omega
    obtain ⟨q, hq, hcount', hunit'⟩ := hcut.read_of_no_fault hnone
    rw [hq, eq_of_count_of_unit (hcount'.trans hcount) (TimeUnit.eq_of_mem_suffixes hunit' hunit)]

/-- A text is refused iff it has a fault; the first of them is the error. -/
theorem read_eq_error_iff {e : PeriodError} :
    read input = .error e ↔ ∃ run suffix fault, CutInto input run suffix ∧
      Fault.IsFirst run suffix fault ∧ e = fault.error input := by
  constructor
  · intro h
    obtain ⟨run, suffix, hcut⟩ := exists_cutInto input
    by_cases hnone : ∀ fault : Fault, ¬ fault.Holds run suffix
    · obtain ⟨p, hp, -⟩ := hcut.read_of_no_fault hnone
      rw [hp] at h
      cases h
    · obtain ⟨fault, hfault⟩ := Classical.not_forall.1 hnone
      obtain ⟨first, hfirst⟩ := Fault.exists_isFirst (Classical.not_not.1 hfault)
      rw [hcut.read_of_fault hfirst] at h
      exact ⟨run, suffix, first, hcut, hfirst, (Except.error.inj h).symm⟩
  · rintro ⟨run, suffix, fault, hcut, hfirst, rfl⟩
    exact hcut.read_of_fault hfirst

/-! ## Reading what was written -/

/-- A period is read from its own text. -/
theorem read_text (p : Period) : read p.text = .ok p := by
  have htext : p.text.toList = [] ++ (Digits.digits p.count ++ [p.unit.suffix]) ++ [] := by
    simp [text]
  have hcut : CutInto p.text (Digits.digits p.count) [p.unit.suffix] :=
    cutInto_of_suffix htext (by simp) (by simp) (fun c hc => Digits.isDigit_of_mem_digits hc)
      p.unit.suffix_mem_suffixes
  exact read_eq_ok_iff.2 ⟨_, _, hcut, Digits.digits_ne_nil p.count, Digits.value_digits p.count,
    p.unit.suffix_mem_suffixes⟩

/-- **The texts of periods.** A text is read as a period of a count and a unit iff, between blanks, it
is digits that stand for the count, which lies between 1 and `2 ^ 32 - 1`, and right after them a
suffix of the unit. Every other text is refused with the first of its faults, and the message quotes
the text with its blanks. A period that the constructor or the reader gives is read from its own
text. -/
theorem read_exact :
    (∀ (input : String) (count : Nat) (unit : TimeUnit),
      (∃ p, read input = .ok p ∧ p.count = count ∧ p.unit = unit) ↔
        ∃ before run suffix after, input.toList = before ++ (run ++ suffix) ++ after ∧
          (∀ c ∈ before, isBlank c = true) ∧ (∀ c ∈ after, isBlank c = true) ∧
          run ≠ [] ∧ (∀ c ∈ run, c.isDigit = true) ∧ Digits.value run = count ∧
          1 ≤ count ∧ count ≤ 4294967295 ∧ String.ofList suffix ∈ unit.suffixes) ∧
    (∀ (input : String) (e : PeriodError), read input = .error e ↔
      ∃ run suffix fault, CutInto input run suffix ∧ Fault.IsFirst run suffix fault ∧
        e = fault.error input ∧
        e.message = "invalid period " ++ quoted input ++ ": " ++ fault.reason) ∧
    (∀ p : Period, (∃ count unit, ofCount count unit = .ok p) ∨ (∃ input, read input = .ok p) →
      read p.text = .ok p) := by
  refine ⟨fun input count unit => ⟨?_, ?_⟩, fun input e => ?_, fun p _ => read_text p⟩
  · rintro ⟨p, hp, rfl, rfl⟩
    obtain ⟨run, suffix, hcut, hne, hcount, hunit⟩ := read_eq_ok_iff.1 hp
    obtain ⟨before, after, htext, hbefore, hafter⟩ := hcut.between
    exact ⟨before, run, suffix, after, htext, hbefore, hafter, hne, hcut.digits, hcount, p.count_pos,
      Nat.le_sub_one_of_lt p.count_lt, hunit⟩
  · rintro ⟨before, run, suffix, after, htext, hbefore, hafter, hne, hdigits, hcount, hpos, hle, hunit⟩
    have hcut := cutInto_of_suffix htext hbefore hafter hdigits hunit
    exact ⟨⟨count, unit, hpos, Nat.lt_of_le_sub_one (by decide) hle⟩,
      read_eq_ok_iff.2 ⟨run, suffix, hcut, hne, hcount, hunit⟩, rfl, rfl⟩
  · rw [read_eq_error_iff]
    constructor
    · rintro ⟨run, suffix, fault, hcut, hfirst, rfl⟩
      exact ⟨run, suffix, fault, hcut, hfirst, rfl, fault.message_error input⟩
    · rintro ⟨run, suffix, fault, hcut, hfirst, he, -⟩
      exact ⟨run, suffix, fault, hcut, hfirst, he⟩

/-- Minutes by their longer suffix after zeros and a wide blank, and a text with two faults, of which
the count that is too large is reported and not the unit. -/
theorem read_exact_minutes :
    (∃ p, read "\u2003007min\n" = .ok p ∧ p.count = 7 ∧ p.unit = .minute ∧
      read p.text = .ok p) ∧
    (read " 4294967296x" = .error (.countOutOfRange " 4294967296x") ∧
      (PeriodError.countOutOfRange " 4294967296x").message =
        "invalid period " ++ quoted " 4294967296x" ++ ": count out of range") := by
  obtain ⟨hok, herror, htext⟩ := read_exact
  constructor
  · obtain ⟨p, hp, hcount, hunit⟩ := (hok "\u2003007min\n" 7 .minute).2
      ⟨['\u2003'], ['0', '0', '7'], ['m', 'i', 'n'], ['\n'], by decide +kernel,
        List.all_eq_true.1 (by decide), List.all_eq_true.1 (by decide), by decide,
        List.all_eq_true.1 (by decide), by decide, by decide, by decide, by decide⟩
    exact ⟨p, hp, hcount, hunit, htext p (.inr ⟨_, hp⟩)⟩
  · have hcut : CutInto " 4294967296x" "4294967296".toList ['x'] :=
      cutInto_iff.2 (by decide +kernel)
    have hfirst : Fault.IsFirst "4294967296".toList ['x'] .countOutOfRange :=
      ⟨by decide +kernel, by decide +kernel⟩
    have hread := (herror _ _).2 ⟨_, _, _, hcut, hfirst, rfl, Fault.message_error _ _⟩
    exact ⟨hread, Fault.message_error _ .countOutOfRange⟩

end Period

end Logbook
