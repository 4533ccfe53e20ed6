import Mathlib.Data.List.Basic
import Logbook.Filter.Text
import Logbook.Proofs.Outcome

/-!
# Which texts are filters

A filter is read from a name, which may be another one than its own, and from what stands between
colons after it. Each kind of filter takes one number there or nothing.

* `pieces_flatMap` — where a text is cut.
* `Filter.names`, `Filter.arity`, `Filter.Takes` — the names of a filter, and what it takes.
* `Filter.ofParts_eq_ok_iff`, `Filter.read_eq_ok_iff` — the reader gives a filter exactly to its
  names with what it takes.
-/

namespace Logbook

/-! ## Pieces -/

theorem pieces_of_not_mem {separator : Char} {cs : List Char} (h : separator ∉ cs) :
    pieces separator cs = (cs, []) := by
  induction cs with
  | nil => rfl
  | cons c rest ih =>
    rw [List.mem_cons, not_or] at h
    rw [pieces, ih h.2]
    exact if_neg (Ne.symm h.1)

theorem pieces_append {separator : Char} {cs : List Char} (h : separator ∉ cs) (rest : List Char) :
    pieces separator (cs ++ separator :: rest) =
      (cs, (pieces separator rest).1 :: (pieces separator rest).2) := by
  induction cs with
  | nil =>
    rw [List.nil_append, pieces]
    exact if_pos rfl
  | cons c cs ih =>
    rw [List.mem_cons, not_or] at h
    rw [List.cons_append, pieces, ih h.2]
    exact if_neg (Ne.symm h.1)

/-- Pieces without the separator are what their text is cut into. -/
theorem pieces_flatMap {separator : Char} {cs : List Char} {others : List (List Char)}
    (hcs : separator ∉ cs) (hothers : ∀ piece ∈ others, separator ∉ piece) :
    pieces separator (cs ++ others.flatMap (separator :: ·)) = (cs, others) := by
  induction others generalizing cs with
  | nil => rw [List.flatMap_nil, List.append_nil, pieces_of_not_mem hcs]
  | cons piece others ih =>
    rw [List.forall_mem_cons] at hothers
    rw [List.flatMap_cons, List.cons_append, pieces_append hcs, ih hothers.1 hothers.2]

/-! ## Checked construction -/

theorem WindowSize.ofSize_eq_ok_iff {size : UInt64} {window : WindowSize} :
    ofSize size = .ok window ↔ window.size = size := by
  unfold ofSize
  split
  · next h =>
    constructor
    · rintro ⟨⟩
      rfl
    · rintro rfl
      rfl
  · next h =>
    refine ⟨nofun, ?_⟩
    rintro rfl
    exact absurd window.two_le h

namespace Filter

variable {f : Filter Float}

theorem rolling_eq_ok_iff {filter : WindowSize → Filter Float} {size : UInt64} :
    rolling filter size = .ok f ↔ ∃ window, window.size = size ∧ filter window = f := by
  simp only [rolling, map_eq_ok_iff, WindowSize.ofSize_eq_ok_iff]

theorem threshold_eq_ok_iff {x : Float} :
    threshold x = .ok f ↔ x.isNaN = false ∧ binaryThreshold x = f := by
  unfold threshold
  cases x.isNaN with
  | true => exact ⟨nofun, fun h => nomatch h.1⟩
  | false => exact ⟨fun h => ⟨rfl, Except.ok.inj h⟩, fun h => congrArg Except.ok h.2⟩

/-! ## Arguments -/

/-- The only argument is written as the number. -/
def IsCount (arguments : List (List Char)) (n : UInt64) : Prop :=
  ∃ raw, arguments = [raw] ∧ readWord? raw = some n

/-- The only argument is written as the double, which is a number. -/
def IsNumber (arguments : List (List Char)) (x : Float) : Prop :=
  ∃ raw, arguments = [raw] ∧ readFloat? raw = some x ∧ x.isNaN = false

variable {arguments : List (List Char)}

theorem singleArgument_eq_ok_iff (filter : String) {raw : List Char} :
    singleArgument filter arguments = .ok raw ↔ arguments = [raw] := by
  rcases arguments with _ | ⟨argument, _ | _⟩ <;> simp [singleArgument]

theorem countArgument_eq_ok_iff (filter : String) {n : UInt64} :
    countArgument filter arguments = .ok n ↔ IsCount arguments n := by
  simp only [IsCount, ← singleArgument_eq_ok_iff filter, countArgument]
  cases singleArgument filter arguments with
  | error e => simp
  | ok raw => cases h : readWord? raw <;> simp [h]

theorem readRolling_eq_ok_iff {filter : WindowSize → Filter Float} {name : String} :
    readRolling filter name arguments = .ok f ↔
      ∃ window, IsCount arguments window.size ∧ filter window = f := by
  simp only [readRolling, ← countArgument_eq_ok_iff name]
  cases countArgument name arguments with
  | error e => simp
  | ok size => simp [rolling_eq_ok_iff, eq_comm (a := size)]

theorem readThreshold_eq_ok_iff :
    readThreshold arguments = .ok f ↔ ∃ x, IsNumber arguments x ∧ binaryThreshold x = f := by
  simp only [readThreshold, IsNumber, ← singleArgument_eq_ok_iff "BinaryThreshold"]
  cases singleArgument "BinaryThreshold" arguments with
  | error e => simp
  | ok raw => cases h : readFloat? raw <;> simp [h, threshold_eq_ok_iff, and_assoc]

theorem readPlain_eq_ok_iff {filter : Filter Float} :
    readPlain filter arguments = .ok f ↔ arguments = [] ∧ filter = f := by
  cases arguments <;> simp [readPlain]

/-! ## Names -/

/-- The names that a filter is read from, its own one first. -/
def names : Filter Float → List String
  | rollingDeviation _ => ["RollingStandardDeviation", "RollingSd"]
  | zScoreNormalization => ["ZScoreNormalization", "ZScore"]
  | f => [f.name]

/-- What a filter takes after its name. -/
def Takes : Filter Float → List (List Char) → Prop
  | rollingAverage window, arguments | rollingMin window, arguments
  | rollingMax window, arguments | rollingDeviation window, arguments =>
    IsCount arguments window.size
  | lag positions, arguments | lead positions, arguments => IsCount arguments positions
  | binaryThreshold x, arguments => IsNumber arguments x
  | _, arguments => arguments = []

/-- The number of arguments of a filter. -/
def arity : Filter Float → Nat
  | cumulativeSum | difference | minMaxNormalization | zScoreNormalization | sin | cos => 0
  | _ => 1

theorem Takes.length_eq (h : f.Takes arguments) : arguments.length = f.arity := by
  cases f with
  | rollingAverage | rollingMin | rollingMax | rollingDeviation | lag | lead
  | binaryThreshold =>
    obtain ⟨raw, rfl, -⟩ := h
    rfl
  | cumulativeSum | difference | minMaxNormalization | zScoreNormalization | sin | cos =>
    cases h
    rfl

/-- No blank and no colon is part of a name. -/
theorem not_blank_of_mem_names {name : String} (h : name ∈ f.names) {c : Char}
    (hc : c ∈ name.toList) : isBlank c = false ∧ c ≠ ':' := by
  have hall : f.names.all (fun name => name.toList.all fun c => !isBlank c && c != ':') = true := by
    cases f <;> (simp only [names, Filter.name]; decide +kernel)
  simpa using List.all_eq_true.1 (List.all_eq_true.1 hall name h) c hc

/-- A name with arguments gives a filter iff it is one of its names and they are what it takes. -/
theorem ofParts_eq_ok_iff {name : String} :
    ofParts name arguments = .ok f ↔ name ∈ f.names ∧ f.Takes arguments := by
  constructor
  · intro h
    unfold ofParts at h
    split at h
    -- The rolling filters, one of them with two names.
    case h_1 | h_2 | h_3 | h_4 | h_5 =>
      obtain ⟨window, hcount, rfl⟩ := readRolling_eq_ok_iff.1 h
      exact ⟨by simp [names, Filter.name], hcount⟩
    case h_6 | h_7 =>
      obtain ⟨positions, hread, rfl⟩ := map_eq_ok_iff.1 h
      exact ⟨by simp [names, Filter.name], (countArgument_eq_ok_iff _).1 hread⟩
    case h_13 =>
      obtain ⟨x, hnumber, rfl⟩ := readThreshold_eq_ok_iff.1 h
      exact ⟨by simp [names, Filter.name], hnumber⟩
    case h_16 => cases h
    -- The filters without arguments.
    all_goals
      obtain ⟨rfl, rfl⟩ := readPlain_eq_ok_iff.1 h
      exact ⟨by simp [names, Filter.name], rfl⟩
  · rintro ⟨hname, htakes⟩
    cases f with
    | rollingAverage window | rollingMin window | rollingMax window =>
      obtain rfl := List.mem_singleton.1 hname
      exact readRolling_eq_ok_iff.2 ⟨window, htakes, rfl⟩
    | rollingDeviation window =>
      rcases List.mem_pair.1 hname with rfl | rfl <;>
        exact readRolling_eq_ok_iff.2 ⟨window, htakes, rfl⟩
    | lag positions | lead positions =>
      obtain rfl := List.mem_singleton.1 hname
      exact map_eq_ok_iff.2 ⟨positions, (countArgument_eq_ok_iff _).2 htakes, rfl⟩
    | binaryThreshold x =>
      obtain rfl := List.mem_singleton.1 hname
      exact readThreshold_eq_ok_iff.2 ⟨x, htakes, rfl⟩
    | cumulativeSum | difference | minMaxNormalization | sin | cos =>
      obtain rfl := List.mem_singleton.1 hname
      exact readPlain_eq_ok_iff.2 ⟨htakes, rfl⟩
    | zScoreNormalization =>
      rcases List.mem_pair.1 hname with rfl | rfl <;>
        exact readPlain_eq_ok_iff.2 ⟨htakes, rfl⟩

/-- A text gives a filter iff, without the blanks around it, it is one of its names followed by what
the filter takes, each argument after a colon and with any blanks around it. -/
theorem read_eq_ok_iff {input : String} :
    read input = .ok f ↔ ∃ (name : String) (arguments : List (List Char)),
      trim input.toList = name.toList ++ arguments.flatMap (':' :: ·) ∧
      (∀ argument ∈ arguments, ':' ∉ argument) ∧
      name ∈ f.names ∧ f.Takes (arguments.map trim) := by
  constructor
  · intro h
    obtain ⟨hname, htakes⟩ := ofParts_eq_ok_iff.1 h
    refine ⟨_, _, ?_, fun argument hargument => not_mem_of_mem_pieces (.inr hargument), hname,
      htakes⟩
    rw [String.toList_ofList, pieces_joined]
  · rintro ⟨name, arguments, htext, hcolon, hname, htakes⟩
    have hpieces : pieces ':' (trim input.toList) = (name.toList, arguments) := by
      rw [htext, pieces_flatMap (fun hc => (not_blank_of_mem_names hname hc).2 rfl) hcolon]
    simp only [read, hpieces, String.ofList_toList]
    exact ofParts_eq_ok_iff.2 ⟨hname, htakes⟩

end Filter

end Logbook
