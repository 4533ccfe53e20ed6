import Logbook.Proofs.Number.Decimals
import Logbook.Proofs.Report.EarlierColumns
import Logbook.Proofs.Report.Rows
import Logbook.Proofs.Time.RowWalks

/-!
# The table of a report

A finished report is rectangular, and nothing is lost when it is written: every cell is found again
between the tabs and the ends of lines.

* `Tabulator.length_text` — the text of a name has one entry for each row.
* `Report.length_column` — a column has one value for each row if those before it do, and
  `Report.columnsAfter_spec` carries this along all columns.
* `Column.not_isSeparator_of_mem_cell` — no cell has a tab or the end of a line in it, so splitting
  the text of a report gives back its cells (`Report.splitOn_line`, `Report.splitOn_render`).
* `Report.build_table` — the whole of it for every report that is built.
-/

namespace Logbook

/-! ## One value for each row -/

namespace Tabulator

variable {t : Tabulator} {name : String} {ss : List String}

theorem length_starts (t : Tabulator) : t.starts.length = t.rowCount :=
  List.length_map _

theorem length_modes (h : t.Planned) {s : Series String} (hss : t.modes s = .ok ss) :
    ss.length = t.rowCount := by
  rw [modes_eq h] at hss
  cases hss
  exact List.length_map _

theorem length_textField (h : t.Planned) {r : Reference} (hss : t.textField name r = .ok ss) :
    ss.length = t.rowCount := by
  unfold textField at hss
  split at hss
  · cases hss
  · cases hss
  · split at hss
    · split at hss
      · exact length_modes h hss
      · cases hss
    · cases hss
  · split at hss <;> cases hss

/-- The text of a name has one entry for each row. -/
theorem length_text (h : t.Planned) (hss : t.text name = .ok ss) : ss.length = t.rowCount := by
  unfold text at hss
  split at hss
  · cases hss
  · split at hss
    · split at hss
      · cases hss
        rw [List.length_map, length_starts]
      · cases hss
      · exact length_textField h hss
    · exact length_textField h hss

end Tabulator

namespace Report

variable {t : Tabulator} {computed columns : Columns} {calculator calculator' : Calculator}
  {c : ColumnSpec}

/-- All columns have one value for each row. -/
def Full (rows : Nat) (columns : Columns) : Prop :=
  ∀ c ∈ columns, c.2.length = rows

theorem Full.find? {rows : Nat} {name : String} {v : Column} (h : Full rows columns)
    (hv : columns.find? name = some v) : v.length = rows := by
  obtain ⟨entry, hentry, rfl⟩ := Option.map_eq_some_iff.1 hv
  exact h entry (List.mem_of_find?_eq_some hentry)

theorem Full.concat {rows : Nat} {name : String} {v : Column} (h : Full rows columns)
    (hv : v.length = rows) : Full rows (columns ++ [(name, v)]) := by
  intro entry hentry
  rcases List.mem_append.1 hentry with hentry | hentry
  · exact h entry hentry
  · rw [List.mem_singleton.1 hentry]
    exact hv

theorem length_textColumn? {ss : List String} (hplan : t.Planned) (hfull : Full t.rowCount computed)
    (h : textColumn? t computed c = .ok (some ss)) : ss.length = t.rowCount := by
  unfold textColumn? at h
  split at h
  · cases h
  · next name _ =>
    unfold textOf? at h
    cases hfind : computed.find? name with
    | some v =>
      rw [hfind] at h
      cases v with
      | numbers xs => cases h
      | texts values =>
        cases h
        exact hfull.find? hfind
    | none =>
      rw [hfind] at h
      dsimp only at h
      split at h
      · next values hvalues =>
        cases h
        split at hvalues
        · obtain ⟨values, htext, heq⟩ := map_eq_ok_iff.1 hvalues
          cases heq
          exact Tabulator.length_text hplan htext
        · cases hvalues
      · cases h

theorem length_numericColumn {p : List Float × Calculator} (hc : calculator.Serves t.rowCount)
    (h : numericColumn t computed calculator c = .ok p) : p.1.length = t.rowCount := by
  rw [numericColumn_eq] at h
  split at h
  · cases h
  · split at h
    · next xs d hrun =>
      cases h
      show (Filter.applyChain c.filters xs).length = t.rowCount
      rw [Filter.length_applyChain, Formula.evaluate_length hrun, hc.rows_eq]
    · cases h

/-- **A column has one value for each row**, whatever calculator is used, if the columns before it
do. -/
theorem length_column {v : Column} (hplan : t.Planned) (hfull : Full t.rowCount computed)
    (hc : calculator.Serves t.rowCount)
    (h : column t computed calculator c = .ok (v, calculator')) : v.length = t.rowCount := by
  unfold column at h
  split at h
  · cases h
  · next values htext =>
    split at h
    · cases h
      exact length_textColumn? hplan hfull htext
    · cases h
  · obtain ⟨p, hnumbers, heq⟩ := map_eq_ok_iff.1 h
    cases heq
    exact length_numericColumn hc hnumbers

/-- The columns that are there stay, those of the list come after them under their names, and all
have one value for each row. -/
theorem columnsAfter_spec {cs : List ColumnSpec} (hplan : t.Planned)
    (hfull : Full t.rowCount computed) (hc : calculator.Serves t.rowCount)
    (h : columnsAfter t computed calculator cs = .ok columns) :
    Full t.rowCount columns ∧ columns.map (·.1) = computed.map (·.1) ++ cs.map (·.name) := by
  induction cs generalizing computed calculator with
  | nil =>
    cases h
    exact ⟨hfull, by simp⟩
  | cons c cs ih =>
    rw [columnsAfter] at h
    split at h
    · cases h
    · next v calculator' hcolumn =>
      have hlength := length_column hplan hfull hc hcolumn
      obtain ⟨hall, hnames⟩ := ih (hfull.concat hlength) (column_serves hcolumn hc) h
      exact ⟨hall, by simp [hnames]⟩

end Report

/-! ## Cells -/

/-- Whether a character separates cells or lines. -/
def isSeparator (c : Char) : Prop :=
  c = '\t' ∨ c = '\n'

namespace Column

theorem not_isSeparator_of_blank_lt {c : Char} (h : 0x20 < c.toNat) : ¬ isSeparator c := by
  rintro (rfl | rfl) <;> revert h <;> decide

theorem not_isSeparator_cellChar (c : Char) : ¬ isSeparator (cellChar c) := by
  unfold cellChar
  split
  · rintro (h | h) <;> revert h <;> decide
  · next h =>
    rintro (rfl | rfl)
    · exact h (.inl rfl)
    · exact h (.inr (.inl rfl))

theorem not_isSeparator_of_mem_numberCell (x : Float) {c : Char} (h : c ∈ (numberCell x).toList) :
    ¬ isSeparator c := by
  unfold numberCell at h
  split at h
  · cases h
  · exact not_isSeparator_of_blank_lt (FloatStyle.blank_lt_of_mem_text h)

theorem not_isSeparator_of_mem_textCell (s : String) {c : Char} (h : c ∈ (textCell s).toList) :
    ¬ isSeparator c := by
  rw [textCell, String.toList_ofList] at h
  obtain ⟨d, -, rfl⟩ := List.mem_map.1 h
  exact not_isSeparator_cellChar d

theorem cell_numbers {values : List Float} {row : Nat} {x : Float} (h : values[row]? = some x) :
    (numbers values).cell row = numberCell x := by
  simp [cell, h]

theorem cell_texts {values : List String} {row : Nat} {s : String} (h : values[row]? = some s) :
    (texts values).cell row = textCell s := by
  simp [cell, h]

/-- Beyond the last row the cells are empty. -/
theorem cell_of_length_le {v : Column} {row : Nat} (h : v.length ≤ row) : v.cell row = "" := by
  cases v with
  | numbers values => simp [cell, List.getElem?_eq_none h]
  | texts values => simp [cell, List.getElem?_eq_none h]

/-- No cell has a tab or the end of a line in it. -/
theorem not_isSeparator_of_mem_cell (v : Column) (row : Nat) {c : Char}
    (h : c ∈ (v.cell row).toList) : ¬ isSeparator c := by
  rcases Nat.lt_or_ge row v.length with hrow | hrow
  · cases v with
    | numbers values =>
      rw [cell_numbers (List.getElem?_eq_getElem hrow)] at h
      exact not_isSeparator_of_mem_numberCell _ h
    | texts values =>
      rw [cell_texts (List.getElem?_eq_getElem hrow)] at h
      exact not_isSeparator_of_mem_textCell _ h
  · rw [cell_of_length_le hrow] at h
    cases h

/-- What a cell says of the value of a row. The cell of a number is empty iff it is no number, and
else the number is read back from it; that of a text has a blank for each tab and end of a line. -/
def Shows (v : Column) (row : Nat) (cell : List Char) : Prop :=
  match v with
  | numbers values =>
    ∃ x, values[row]? = some x ∧ (cell = [] ↔ x.isNaN = true) ∧
      (x.isNaN = false → readFloat? cell = some x)
  | texts values =>
    ∃ s, values[row]? = some s ∧
      cell = s.toList.map fun c => if c = '\t' ∨ c = '\n' ∨ c = '\r' then ' ' else c

theorem numberCell_eq_empty_iff (x : Float) : (numberCell x).toList = [] ↔ x.isNaN = true := by
  unfold numberCell
  cases h : x.isNaN with
  | true => simp
  | false =>
    have := FloatStyle.plain.text_ne_empty h
    simpa using this

/-- **A cell shows the value of its row.** -/
theorem shows_cell {v : Column} {row : Nat} (h : row < v.length) :
    v.Shows row (v.cell row).toList := by
  cases v with
  | numbers values =>
    obtain ⟨x, hx⟩ : ∃ x, values[row]? = some x := ⟨_, List.getElem?_eq_getElem h⟩
    rw [cell_numbers hx]
    refine ⟨x, hx, numberCell_eq_empty_iff x, fun hnan => ?_⟩
    rw [numberCell, if_neg (Bool.eq_false_iff.1 hnan)]
    exact FloatStyle.plain.readFloat?_text hnan
  | texts values =>
    obtain ⟨s, hs⟩ : ∃ s, values[row]? = some s := ⟨_, List.getElem?_eq_getElem h⟩
    rw [cell_texts hs, textCell, String.toList_ofList]
    exact ⟨s, hs, rfl⟩

end Column

/-! ## Lines -/

namespace Report

/-- Parts without a separator are counted by the separators between them. -/
theorem count_intercalate {sep : Char} {parts : List (List Char)} (h : ∀ p ∈ parts, sep ∉ p) :
    ([sep].intercalate parts).count sep = parts.length - 1 := by
  induction parts with
  | nil => rfl
  | cons p rest ih =>
    have hp : p.count sep = 0 := List.count_eq_zero.2 (h p List.mem_cons_self)
    have hrest := ih fun q hq => h q (List.mem_cons_of_mem p hq)
    cases rest with
    | nil => simpa [List.intercalate] using hp
    | cons q rest =>
      rw [List.intercalate_cons_cons, List.count_append, List.count_append, hp, hrest]
      simp
      omega

theorem mem_intercalate {sep c : Char} {parts : List (List Char)}
    (h : c ∈ [sep].intercalate parts) : c = sep ∨ ∃ p ∈ parts, c ∈ p := by
  induction parts with
  | nil => cases h
  | cons p rest ih =>
    cases rest with
    | nil => exact .inr ⟨p, List.mem_cons_self, by simpa [List.intercalate] using h⟩
    | cons q rest =>
      rw [List.intercalate_cons_cons, List.append_assoc, List.mem_append, List.mem_append,
        List.mem_singleton] at h
      rcases h with h | rfl | h
      · exact .inr ⟨p, List.mem_cons_self, h⟩
      · exact .inl rfl
      · obtain rfl | ⟨r, hr, hc⟩ := ih h
        · exact .inl rfl
        · exact .inr ⟨r, List.mem_cons_of_mem p hr, hc⟩

/-- Lines that each have an end are lines between ends with nothing after the last. -/
theorem flatMap_concat_eq_intercalate (sep : Char) (lines : List (List Char)) :
    (lines.flatMap fun l => l ++ [sep]) = [sep].intercalate (lines ++ [[]]) := by
  induction lines with
  | nil => rfl
  | cons l rest ih =>
    rw [List.flatMap_cons, ih]
    cases rest with
    | nil => simp [List.intercalate]
    | cons q rest => simp [List.intercalate_cons_cons]

variable (report : Report)

theorem toList_line (row : Nat) :
    (report.line row).toList =
      ['\t'].intercalate (report.columns.map fun c => (c.2.cell row).toList) := by
  rw [line, String.toList_intercalate, List.map_map]
  rfl

theorem tab_notMem_cells (row : Nat) :
    ∀ cell ∈ report.columns.map fun c => (c.2.cell row).toList, '\t' ∉ cell := by
  intro cell hcell htab
  obtain ⟨c, -, rfl⟩ := List.mem_map.1 hcell
  exact c.2.not_isSeparator_of_mem_cell row htab (.inl rfl)

/-- A line has a tab between each two cells. -/
theorem count_line (row : Nat) :
    (report.line row).toList.count '\t' = report.columns.length - 1 := by
  rw [toList_line, count_intercalate (report.tab_notMem_cells row), List.length_map]

/-- Splitting a line at its tabs gives its cells. -/
theorem splitOn_line (hcolumns : report.columns ≠ []) (row : Nat) :
    (report.line row).toList.splitOn '\t' = report.columns.map fun c => (c.2.cell row).toList := by
  rw [toList_line]
  exact List.splitOn_intercalate '\t' (report.tab_notMem_cells row) (by simpa using hcolumns)

theorem newline_notMem_line (row : Nat) : '\n' ∉ (report.line row).toList := by
  intro h
  rw [toList_line] at h
  rcases mem_intercalate h with h | ⟨cell, hcell, h⟩
  · exact absurd h (by decide)
  · obtain ⟨c, -, rfl⟩ := List.mem_map.1 hcell
    exact c.2.not_isSeparator_of_mem_cell row h (.inr rfl)

theorem toList_render : report.render.toList =
    ['\n'].intercalate
      (((List.range report.rowCount).map fun row => (report.line row).toList) ++ [[]]) := by
  rw [render, String.toList_join, ← flatMap_concat_eq_intercalate, List.flatMap_map,
    List.flatMap_map]
  refine List.flatMap_congr fun row _ => ?_
  simp

/-- Splitting the text of a report at the ends of lines gives its lines, and nothing after them. -/
theorem splitOn_render : report.render.toList.splitOn '\n' =
    ((List.range report.rowCount).map fun row => (report.line row).toList) ++ [[]] := by
  rw [toList_render]
  refine List.splitOn_intercalate '\n' ?_ (by simp)
  intro l hl
  rcases List.mem_append.1 hl with hl | hl
  · obtain ⟨row, -, rfl⟩ := List.mem_map.1 hl
    exact report.newline_notMem_line row
  · rw [List.mem_singleton.1 hl]
    exact List.not_mem_nil

/-! ## Finished reports -/

variable {source : Source} {sampler : Sampler} {spec : ReportSpec}

/-- A finished report has the starts of its rows, and its columns are computed for them. -/
theorem exists_of_build {report : Report} (h : build source sampler spec = .ok report) :
    ∃ t, Tabulator.ofPlan source spec.rows spec.zone = .ok t ∧ t.starts = report.starts ∧
      columnsAfter t [] (.initial t.rowCount sampler) spec.columns = .ok report.columns := by
  unfold build at h
  split at h
  · cases h
  · split at h
    · cases h
    · next t hplan =>
      split at h
      · cases h
      · next columns hcolumns =>
        cases h
        exact ⟨t, hplan, rfl, hcolumns⟩

/-- **A report that is built is a table, and its text is read back cell by cell.** It has the
columns of its specification under their names and in their order, and each has one value for each
row that the plan lays out in the zone. If there is a column at all, the text of the report is one
line for each row, each of them ended; between the cells of a line stand tabs and nothing else, and
each cell shows the value of its row. -/
theorem build_table {report : Report} (h : build source sampler spec = .ok report) :
    spec.rows.starts spec.zone = .ok report.starts ∧
    report.columns.map (·.1) = spec.columns.map (·.name) ∧
    (∀ c ∈ report.columns, c.2.length = report.rowCount) ∧
    (report.columns ≠ [] →
      report.render.toList.splitOn '\n' =
        ((List.range report.rowCount).map fun row => (report.line row).toList) ++ [[]] ∧
      ∀ row < report.rowCount,
        (report.line row).toList.count '\t' = report.columns.length - 1 ∧
        (report.line row).toList.splitOn '\t' =
          report.columns.map (fun c => (c.2.cell row).toList) ∧
        ∀ c ∈ report.columns, c.2.Shows row (c.2.cell row).toList) := by
  obtain ⟨t, hplan, hstarts, hcolumns⟩ := exists_of_build h
  have hplanned := Tabulator.planned_of_ofPlan hplan
  have hrows := rowCount_of_starts hstarts
  obtain ⟨hbuckets, -, -, -⟩ := Tabulator.ofPlan_eq_ok_iff.1 hplan
  obtain ⟨hfull, hnames⟩ := columnsAfter_spec hplanned (fun c hc => absurd hc List.not_mem_nil)
    (Calculator.initial_serves t.rowCount sampler) hcolumns
  rw [hrows] at hfull
  refine ⟨?_, by simpa using hnames, hfull, fun hne => ⟨report.splitOn_render, fun row hrow => ?_⟩⟩
  · rw [RowPlan.starts_eq_map_buckets, hbuckets, ← hstarts]
    rfl
  · refine ⟨report.count_line row, report.splitOn_line hne row, fun c hc => ?_⟩
    rw [← hfull c hc] at hrow
    exact Column.shows_cell hrow

/-- The table of a single hour with two columns of the number `e`: one line with one tab, and both
cells are read back. -/
theorem build_table_hour :
    ∃ rows report, build Archive.empty.source ⟨0⟩ (copyOf rows "time.hour") = .ok report ∧
      report.rowCount = 1 ∧ report.columns.length = 2 ∧
      report.render.toList.splitOn '\n' = [(report.line 0).toList, []] ∧
      (report.line 0).toList.count '\t' = 1 ∧
      ∃ a b, (report.line 0).toList.splitOn '\t' = [a, b] ∧
        readFloat? a = some 2.718281828459045 ∧ readFloat? b = some 2.718281828459045 := by
  obtain ⟨rows, b, -, -, hplan⟩ := exists_hour
  have htokens : tokenKinds "time.hour" = [.identifier "time.hour"] := (tokenKinds_eq _).trans rfl
  have hparse : Formula.parse "time.hour" = .ok (.named "time.hour") :=
    (Formula.parse_eq _).trans rfl
  have hdet : (copyOf rows "time.hour").Determined := copyOf_determined htokens (by decide)
  have hbuild := build_copyOf (x := 2.718281828459045) hdet hplan (by decide) hparse
    (fun t y => (textColumn?_of_tokenKinds htokens).trans rfl) (fun t => by
      rw [Formula.run_named rfl, numbersOf_of_mem t (by decide) (List.mem_singleton_self _)]
      rfl)
  obtain ⟨-, -, -, htable⟩ := build_table hbuild
  obtain ⟨hlines, hcells⟩ := htable (by simp)
  obtain ⟨htabs, hsplit, hshows⟩ := hcells 0 Nat.one_pos
  have hnan : (2.718281828459045 : Float).isNaN = false := by decide +kernel
  refine ⟨rows, _, hbuild, rfl, rfl, hlines, htabs, _, _, hsplit, ?_, ?_⟩
  · obtain ⟨x, hx, -, hread⟩ := hshows ("time.hour", .numbers [2.718281828459045]) (by simp)
    cases hx
    exact hread hnan
  · obtain ⟨x, hx, -, hread⟩ := hshows ("copy", .numbers [2.718281828459045]) (by simp)
    cases hx
    exact hread hnan

end Report

end Logbook
