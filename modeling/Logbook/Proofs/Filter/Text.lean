import Logbook.Proofs.Filter.Reading
import Logbook.Proofs.Number.Decimals
import Logbook.Proofs.Text.Trim

/-!
# The text of a filter and back

A filter is written as its name and its argument, and its reader takes more: blanks, a plus, and
other names. What is written is read back as the same filter, unless its threshold is no number.

* `Filter.IsChecked` — the filters whose threshold is a number; they are the ones that the
  constructors and the reader give (`Filter.obtained_iff_isChecked`).
* `Filter.takes_arguments` — what a filter is written with is what it takes.
* `Filter.read_text` — the text of a filter gives the filter.
* `Filter.read_text_of_obtained` — this together with what the reader accepts.
-/

namespace Logbook

/-! ## Arguments -/

theorem isBlank_of_isNumberChar {c : Char} (h : isNumberChar c = true) : isBlank c = false := by
  obtain ⟨hlow, hhigh⟩ := isNumberChar_bounds h
  simp [isBlank, CodeRanges.holds, blankRanges]
  omega

theorem readWord?_digits (n : UInt64) : readWord? (Digits.digits n.toNat) = some n := by
  have hread := Digits.read?_digits n.toNat
  obtain ⟨c, cs, hdigits, hc⟩ := Digits.exists_digits_eq_cons n.toNat
  have hplus : c ≠ '+' := by rintro rfl; cases hc
  rw [hdigits] at hread ⊢
  have hlt : n.toNat < UInt64.size := n.toNat_lt
  simp [readWord?, hplus, hread, hlt]

namespace Filter

/-- The threshold, if there is one, is a number. -/
def IsChecked : Filter Float → Prop
  | binaryThreshold x => x.isNaN = false
  | _ => True

/-- The window of a rolling filter. -/
def window? : Filter Float → Option WindowSize
  | rollingAverage window | rollingMin window | rollingMax window | rollingDeviation window =>
    some window
  | _ => none

/-- The arguments that a filter is written with. -/
def arguments (f : Filter Float) : List (List Char) :=
  f.argument?.toList.map String.toList

variable {f : Filter Float}

theorem isCount_digits (n : UInt64) : IsCount [(Digits.text n.toNat).toList] n := by
  rw [Digits.text, String.toList_ofList]
  exact ⟨_, rfl, readWord?_digits n⟩

/-- A filter is written with what it takes, if its threshold is a number. -/
theorem takes_arguments (h : f.IsChecked) : f.Takes f.arguments := by
  cases f with
  | rollingAverage window | rollingMin window | rollingMax window | rollingDeviation window =>
    exact isCount_digits window.size
  | lag positions | lead positions => exact isCount_digits positions
  | binaryThreshold x => exact ⟨_, rfl, FloatStyle.readFloat?_text _ h, h⟩
  | cumulativeSum | difference | minMaxNormalization | zScoreNormalization | sin | cos => rfl

/-- Arguments are written in the characters of numbers. -/
theorem isNumberChar_of_mem_arguments {argument : List Char} (h : argument ∈ f.arguments) :
    ∀ c ∈ argument, isNumberChar c = true := by
  have hdigits (n : Nat) : ∀ c ∈ (Digits.text n).toList, isNumberChar c = true := by
    intro c hc
    rw [Digits.text, String.toList_ofList] at hc
    exact isNumberChar_of_isDigit (Digits.isDigit_of_mem_digits hc)
  cases f with
  | rollingAverage | rollingMin | rollingMax | rollingDeviation | lag | lead =>
    obtain rfl := List.mem_singleton.1 h
    exact hdigits _
  | binaryThreshold x =>
    obtain rfl := List.mem_singleton.1 h
    exact fun c hc => FloatStyle.isNumberChar_of_mem_text hc
  | _ => cases h

/-! ## Texts -/

theorem name_mem_names (f : Filter Float) : f.name ∈ f.names := by
  cases f <;> exact List.mem_cons_self

theorem toList_text (f : Filter Float) :
    f.text.toList = f.name.toList ++ f.arguments.flatMap (':' :: ·) := by
  unfold text arguments
  cases f.argument? <;> simp

theorem not_blank_of_mem_text {c : Char} (h : c ∈ f.text.toList) : isBlank c = false := by
  rw [toList_text, List.mem_append, List.mem_flatMap] at h
  rcases h with h | ⟨argument, hargument, h⟩
  · exact (not_blank_of_mem_names f.name_mem_names h).1
  · rcases List.mem_cons.1 h with rfl | h
    · decide
    · exact isBlank_of_isNumberChar (isNumberChar_of_mem_arguments hargument c h)

/-- **The text of a filter gives the filter**, if its threshold is a number. -/
theorem read_text (h : f.IsChecked) : read f.text = .ok f := by
  have htrim : trim f.text.toList = f.text.toList :=
    trim_of_not_blank fun c => not_blank_of_mem_text
  have hargument : ∀ argument ∈ f.arguments, ':' ∉ argument ∧ trim argument = argument := by
    intro argument hargument
    have hnumber := isNumberChar_of_mem_arguments hargument
    exact ⟨fun hc => absurd (hnumber ':' hc) (by decide),
      trim_of_not_blank fun c hc => isBlank_of_isNumberChar (hnumber c hc)⟩
  have hmap : f.arguments.map trim = f.arguments :=
    (List.map_congr_left fun argument h => (hargument argument h).2).trans (List.map_id _)
  refine read_eq_ok_iff.2 ⟨f.name, f.arguments, ?_, fun argument h => (hargument argument h).1,
    f.name_mem_names, ?_⟩
  · rw [htrim, toList_text]
  · rw [hmap]
    exact takes_arguments h

/-! ## Filters that can be obtained -/

theorem Takes.isChecked {arguments : List (List Char)} (h : f.Takes arguments) : f.IsChecked := by
  cases f with
  | binaryThreshold x =>
    obtain ⟨raw, -, -, hx⟩ := h
    exact hx
  | _ => trivial

/-- No text gives a filter whose threshold is no number. -/
theorem isChecked_of_read {input : String} {f : Filter Float} (h : read input = .ok f) :
    f.IsChecked := by
  obtain ⟨name, arguments, -, -, -, htakes⟩ := read_eq_ok_iff.1 h
  exact htakes.isChecked

/-- The filters with a window of any size. -/
def rollingFilters : List (WindowSize → Filter Float) :=
  [rollingAverage, rollingMin, rollingMax, rollingDeviation]

/-- The filters that a constructor or the reader gives. -/
inductive Obtained : Filter Float → Prop
  | rolling {filter : WindowSize → Filter Float} {size : UInt64} {f : Filter Float} :
      filter ∈ rollingFilters → Filter.rolling filter size = .ok f → Obtained f
  | threshold {x : Float} {f : Filter Float} : Filter.threshold x = .ok f → Obtained f
  | lag (positions : UInt64) : Obtained (lag positions)
  | lead (positions : UInt64) : Obtained (lead positions)
  /-- A filter without an argument. -/
  | plain {f : Filter Float} : f.argument? = none → Obtained f
  | read {input : String} {f : Filter Float} : Filter.read input = .ok f → Obtained f

/-- All filters can be obtained apart from those whose threshold is no number. -/
theorem obtained_iff_isChecked : Obtained f ↔ f.IsChecked := by
  constructor
  · intro h
    cases h with
    | rolling hfilter hrolling =>
      obtain ⟨window, -, rfl⟩ := rolling_eq_ok_iff.1 hrolling
      simp only [rollingFilters, List.mem_cons, List.not_mem_nil, or_false] at hfilter
      rcases hfilter with rfl | rfl | rfl | rfl <;> trivial
    | threshold hthreshold =>
      obtain ⟨hx, rfl⟩ := threshold_eq_ok_iff.1 hthreshold
      exact hx
    | lag | lead => trivial
    | plain hplain =>
      cases f with
      | binaryThreshold x => cases hplain
      | _ => trivial
    | read hread => exact isChecked_of_read hread
  · intro h
    cases f with
    | rollingAverage window | rollingMin window | rollingMax window | rollingDeviation window =>
      exact .rolling (by simp [rollingFilters]) (rolling_eq_ok_iff.2 ⟨window, rfl, rfl⟩)
    | binaryThreshold x => exact .threshold (threshold_eq_ok_iff.2 ⟨h, rfl⟩)
    | lag positions => exact .lag positions
    | lead positions => exact .lead positions
    | cumulativeSum | difference | minMaxNormalization | zScoreNormalization | sin | cos =>
      exact .plain rfl

/-- **Reading and writing agree.** A filter that a constructor or the reader gives is read from its
own text. What the reader gives has a window of two or more values and a threshold that is a number,
and writing and reading it again changes nothing. The reader gives a filter to a text iff, without
the blanks around it, that is one of the names of the filter and as many arguments as it has, each
after a colon, in which its number is found. -/
theorem read_text_of_obtained :
    (∀ f, Obtained f → read f.text = .ok f) ∧
    (∀ input f, read input = .ok f →
      (∀ window, f.window? = some window → 2 ≤ window.size.toNat) ∧
      (∀ x, f = binaryThreshold x → x.isNaN = false) ∧ read f.text = .ok f) ∧
    (∀ input f, read input = .ok f ↔ ∃ (name : String) (arguments : List (List Char)),
      trim input.toList = name.toList ++ arguments.flatMap (':' :: ·) ∧
      (∀ argument ∈ arguments, ':' ∉ argument) ∧ name ∈ f.names ∧
      arguments.length = f.arity ∧ f.Takes (arguments.map trim)) := by
  refine ⟨fun f h => read_text (obtained_iff_isChecked.1 h), fun input f h => ?_,
    fun input f => ?_⟩
  · have hchecked := isChecked_of_read h
    refine ⟨fun window _ => window.two_le, ?_, read_text hchecked⟩
    rintro x rfl
    exact hchecked
  · rw [read_eq_ok_iff]
    constructor
    · rintro ⟨name, arguments, htext, hcolon, hname, htakes⟩
      have harity : arguments.length = f.arity := by
        rw [← htakes.length_eq, List.length_map]
      exact ⟨name, arguments, htext, hcolon, hname, harity, htakes⟩
    · rintro ⟨name, arguments, htext, hcolon, hname, -, htakes⟩
      exact ⟨name, arguments, htext, hcolon, hname, htakes⟩

/-- A deviation by its other name, with blanks and a plus, and a threshold of minus infinity. -/
theorem read_text_of_obtained_otherName :
    let input := " RollingSd: +12\n"
    let f : Filter Float := rollingDeviation ⟨12, by decide⟩
    let g : Filter Float := binaryThreshold (-1.0 / 0.0)
    read input = .ok f ∧ f.text = "RollingStandardDeviation:12" ∧ read f.text = .ok f ∧
      (∃ (name : String) (arguments : List (List Char)),
        trim input.toList = name.toList ++ arguments.flatMap (':' :: ·) ∧
        arguments.length = f.arity) ∧
      Obtained g ∧ g.text = "BinaryThreshold:-inf" ∧ read g.text = .ok g := by
  intro input f g
  obtain ⟨hobtained, hread, htexts⟩ := read_text_of_obtained
  have hf : read input = .ok f :=
    read_eq_ok_iff.2 ⟨"RollingSd", [" +12".toList], by decide +kernel, by decide +kernel,
      List.mem_cons_of_mem _ List.mem_cons_self, "+12".toList, by decide +kernel, by decide +kernel⟩
  have hg : Obtained g := .threshold (threshold_eq_ok_iff.2 ⟨by decide +kernel, rfl⟩)
  obtain ⟨name, arguments, htext, -, -, harity, -⟩ := (htexts input f).1 hf
  exact ⟨hf, by decide +kernel, (hread input f hf).2.2, ⟨name, arguments, htext, harity⟩, hg,
    by decide +kernel, hobtained g hg⟩

end Filter

end Logbook
