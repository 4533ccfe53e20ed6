import Logbook.Proofs.Formula.Separators
import Logbook.Proofs.Report.Kinds

/-!
# Columns in brackets

Brackets around a formula leave no trace in its tree, so the numbers of a column are the same with
and without them. A column of text is told by its tokens, not by its tree, and brackets are tokens.

* `Formula.parse_inBrackets` — a formula in brackets is read as the tree that it has without them.
* `soleName?_eq_some_iff` — the formulas that are taken for a name alone are those that are read as
  that name and have no brackets.
* `textColumn?_eq_none_iff` — a column is not text exactly if its formula is not the name of text.
* `freshColumn_bracketed` / `freshColumn_bracketed_of_text` — a column in brackets, for a column of
  numbers and for one of text.
* `build_bracketAt` — brackets change no report, unless the column is text.
-/

namespace Logbook

/-! ## Trees and tokens -/

/-- A formula in brackets is read as the tree that it has without them. -/
theorem Formula.parse_inBrackets {formula : String} {f : Formula} (h : parse formula = .ok f) :
    parse (Logbook.inBrackets formula) = .ok f := by
  obtain ⟨hderives, hheight⟩ := parse_eq_ok_iff_derives.1 h
  refine parse_eq_ok_iff_derives.2 ⟨?_, hheight⟩
  rw [tokenKinds_inBrackets]
  exact .ofTerm (.ofFactor (.ofPrimary (.group hderives)))

/-- Without brackets only a name is read as a name. -/
theorem Nonterminal.Derives.eq_identifier {n : Nonterminal} {ts : List TokenKind} {name : String}
    (h : n.Derives ts (.named name)) (hopen : .opening ∉ ts) : ts = [.identifier name] := by
  generalize hf : Formula.named name = f at h
  induction h with
  | additive | multiplicative | factorial | number | call => cases hf
  | ofTerm _ ih | ofFactor _ ih | ofPrimary _ ih => exact ih hopen hf
  | identifier =>
    cases hf
    rfl
  | group => exact absurd List.mem_cons_self hopen

namespace Report

/-- A formula is taken for a name alone exactly if it is read as that name and has no brackets. -/
theorem soleName?_eq_some_iff {formula name : String} :
    soleName? formula = some name ↔
      Formula.parse formula = .ok (.named name) ∧ .opening ∉ tokenKinds formula := by
  rw [soleName?_eq_some_iff_tokenKinds]
  constructor
  · intro h
    refine ⟨Formula.parse_eq_ok_iff_derives.2 ⟨?_, ?_⟩, by simp [h]⟩
    · rw [h]
      exact .ofTerm (.ofFactor (.ofPrimary (.identifier name)))
    · rw [Formula.height]
      decide
  · rintro ⟨h, hopen⟩
    exact (Formula.parse_eq_ok_iff_derives.1 h).1.eq_identifier hopen

/-! ## Columns of text -/

/-- Whether a name stands for text: that of an earlier column does if the column is text, and any
other if it refers to text. -/
def standsForText (computed : Columns) (name : String) : Bool :=
  match computed.find? name with
  | some (.texts _) => true
  | some (.numbers _) => false
  | none => Tabulator.namesText name

/-- The formula is nothing but a name that stands for text. -/
def IsLoneText (computed : Columns) (formula : String) : Prop :=
  ∃ name, soleName? formula = some name ∧ standsForText computed name = true

variable {t : Tabulator} {computed : Columns} {c : ColumnSpec} {f : Formula} {name : String}

theorem textOf?_eq_none_iff : textOf? t computed name = .ok none ↔
    standsForText computed name = false := by
  unfold textOf? standsForText Tabulator.namesText
  rcases computed.find? name with _ | _ | _
  · dsimp only
    cases (Reference.ofName? name).any Reference.isText with
    | false => simp
    | true => cases t.text name <;> simp [Except.map]
  · simp
  · simp

/-- A column is not text exactly if its formula is not the name of text. -/
theorem textColumn?_eq_none_iff :
    textColumn? t computed c = .ok none ↔ ¬ IsLoneText computed c.formula := by
  unfold textColumn? IsLoneText
  cases soleName? c.formula with
  | none => simp
  | some name =>
    have htext : textOf? t computed name = .ok none ↔ standsForText computed name = false :=
      textOf?_eq_none_iff
    simp only [Option.some.injEq, exists_eq_left', Bool.not_eq_true, ← htext]
    rcases textOf? t computed name with _ | _ <;> simp

/-- A name that stands for text has no numbers. -/
theorem numbersOf_of_text (ht : t.Planned) (h : standsForText computed name = true)
    (xs : List Float) : numbersOf t computed name ≠ .ok (some xs) := by
  unfold standsForText at h
  unfold numbersOf
  -- An earlier column is asked first; of all other names the tables of names know the kind.
  split at h
  · rename_i hfind
    rw [hfind]
    simp
  · cases h
  · rename_i hfind
    have houtcomes := Tabulator.outcomes ht name
    rw [h] at houtcomes
    generalize t.numeric name = numeric, t.text name = text at houtcomes
    rw [hfind]
    cases houtcomes with
    | numbers _ hkind => cases hkind
    | texts => nofun
    | @neither e he => cases e <;> nofun

/-! ## A column in brackets -/

/-- The column with its formula in brackets. -/
def bracketed (c : ColumnSpec) : ColumnSpec :=
  { c with formula := inBrackets c.formula }

theorem textColumn?_bracketed : textColumn? t computed (bracketed c) = .ok none := by
  refine textColumn?_eq_none_iff.2 ?_
  rintro ⟨name, hname, -⟩
  obtain ⟨-, hopen⟩ := soleName?_eq_some_iff.1 hname
  exact hopen (by simp [bracketed, tokenKinds_inBrackets])

/-- A column that is not text is the same in brackets. -/
theorem freshColumn_bracketed (hparse : Formula.parse c.formula = .ok f)
    (htext : ¬ IsLoneText computed c.formula) :
    freshColumn t computed (bracketed c) = freshColumn t computed c := by
  have hbracketed : Formula.parse (bracketed c).formula = .ok f := Formula.parse_inBrackets hparse
  rw [freshColumn, freshColumn, map_column, map_column, textColumn?_bracketed,
    textColumn?_eq_none_iff.2 htext, hbracketed, hparse]
  rfl

/-- No column in brackets is text. -/
theorem freshColumn_bracketed_ne_texts {ss : List String} :
    freshColumn t computed (bracketed c) ≠ .ok (.texts ss) := by
  rw [freshColumn, map_column, textColumn?_bracketed]
  dsimp only
  split
  · simp
  · split <;> simp

/-- In brackets the name of text has no numbers, unless it is that of a constant. -/
theorem freshColumn_bracketed_of_text (ht : t.Planned) (hname : soleName? c.formula = some name)
    (htext : standsForText computed name = true) (hconstant : NamedConstant.ofName? name = none) :
    ∃ cause, freshColumn t computed (bracketed c) = .error (.formula c.name cause) := by
  obtain ⟨hparse, -⟩ := soleName?_eq_some_iff.1 hname
  have hbracketed : Formula.parse (bracketed c).formula = .ok (.named name) :=
    Formula.parse_inBrackets hparse
  rw [freshColumn, map_column, textColumn?_bracketed, hbracketed]
  dsimp only
  rw [Formula.run_named hconstant]
  have hnumbers := numbersOf_of_text ht htext
  cases hanswer : numbersOf t computed name with
  | error reason => exact ⟨_, rfl⟩
  | ok answer =>
    cases answer with
    | none => exact ⟨_, rfl⟩
    | some xs => exact absurd hanswer (hnumbers xs)

/-- A column whose formula is the name of text has text, if it can be computed. -/
theorem exists_texts_of_isLoneText {v : Column} (htext : IsLoneText computed c.formula)
    (h : freshColumn t computed c = .ok v) : ∃ ss, v = .texts ss := by
  rw [freshColumn, map_column] at h
  split at h
  · cases h
  · split at h
    · cases h
      exact ⟨_, rfl⟩
    · cases h
  · rename_i hnone
    exact absurd htext (textColumn?_eq_none_iff.1 hnone)

end Report

/-! ## Reports -/

/-- The specification with the formula of one column in brackets. -/
def ReportSpec.bracketAt (s : ReportSpec) (i : Nat) : ReportSpec :=
  { s with columns := s.columns.modify i Report.bracketed }

@[simp]
theorem ReportSpec.rows_bracketAt (s : ReportSpec) (i : Nat) : (s.bracketAt i).rows = s.rows :=
  rfl

@[simp]
theorem ReportSpec.zone_bracketAt (s : ReportSpec) (i : Nat) : (s.bracketAt i).zone = s.zone :=
  rfl

namespace Report

variable {spec : ReportSpec} {source : Source} {sampler sampler' : Sampler} {report : Report}
  {i : Nat}

theorem names_bracketAt (spec : ReportSpec) (i : Nat) :
    (spec.bracketAt i).columns.map (·.name) = spec.columns.map (·.name) := by
  refine List.ext_getElem? fun j => ?_
  simp only [ReportSpec.bracketAt, List.getElem?_map, List.getElem?_modify]
  cases spec.columns[j]? with
  | none => rfl
  | some d =>
    dsimp only [Option.map_some, Option.map_eq_map]
    split <;> rfl

theorem duplicateColumn_bracketAt (spec : ReportSpec) (i : Nat) :
    (spec.bracketAt i).duplicateColumn = spec.duplicateColumn := by
  unfold ReportSpec.duplicateColumn
  rw [names_bracketAt]

theorem columns_bracketAt (hc : spec.columns[i]? = some c) :
    (spec.bracketAt i).columns =
      spec.columns.take i ++ bracketed c :: spec.columns.drop (i + 1) := by
  obtain ⟨hi, rfl⟩ := List.getElem?_eq_some_iff.1 hc
  exact List.modify_eq_take_cons_drop hi

theorem getElem?_bracketAt (hc : spec.columns[i]? = some c) :
    (spec.bracketAt i).columns[i]? = some (bracketed c) := by
  simp [ReportSpec.bracketAt, hc]

/-- Brackets make no formula draw random numbers. -/
theorem determined_bracketAt (hdet : spec.Determined) (hc : spec.columns[i]? = some c)
    (hparse : Formula.parse c.formula = .ok f) : (spec.bracketAt i).Determined := by
  intro d hd
  rw [columns_bracketAt hc, List.mem_append, List.mem_cons] at hd
  rcases hd with hd | rfl | hd
  · exact hdet d (List.mem_of_mem_take hd)
  · intro g hg
    cases (Formula.parse_inBrackets hparse).symm.trans hg
    exact hdet c (List.mem_of_getElem? hc) f hparse
  · exact hdet d (List.mem_of_mem_drop hd)

/-- The columns are the same with one in brackets that is not text. -/
theorem foldlM_bracketAt (hc : spec.columns[i]? = some c)
    (hparse : Formula.parse c.formula = .ok f)
    (htext : ∀ before, (spec.columns.take i).foldlM (extended t) [] = .ok before →
      ¬ IsLoneText before c.formula) :
    (spec.bracketAt i).columns.foldlM (extended t) [] = spec.columns.foldlM (extended t) [] := by
  have hsplit : spec.columns = spec.columns.take i ++ c :: spec.columns.drop (i + 1) := by
    obtain ⟨hi, rfl⟩ := List.getElem?_eq_some_iff.1 hc
    rw [← List.drop_eq_getElem_cons hi, List.take_append_drop]
  rw [columns_bracketAt hc]
  conv_rhs => rw [hsplit]
  -- The columns before it are the same, and those after it see no difference.
  rw [List.foldlM_append, List.foldlM_append]
  cases hbefore : (spec.columns.take i).foldlM (extended t) [] with
  | error e => rfl
  | ok before =>
    have hextended : extended t before (bracketed c) = extended t before c := by
      unfold extended
      rw [freshColumn_bracketed hparse (htext before hbefore)]
      rfl
    change (bracketed c :: _).foldlM (extended t) before = (c :: _).foldlM (extended t) before
    rw [List.foldlM_cons, List.foldlM_cons, hextended]

/-- The columns of a report over the first ones are those of the list. -/
theorem foldlM_of_firstColumns (hdet : spec.Determined)
    (hplan : Tabulator.ofPlan source spec.rows spec.zone = .ok t)
    (h : build source sampler (spec.firstColumns i) = .ok report) :
    (spec.columns.take i).foldlM (extended t) [] = .ok report.columns := by
  obtain ⟨-, t', hplan', hcolumns, -⟩ := (build_eq_ok_iff (hdet.firstColumns i)).1 h
  cases hplan.symm.trans hplan'
  exact hcolumns

section Brackets

variable (hdet : spec.Determined) (hc : spec.columns[i]? = some c)
  (hparse : Formula.parse c.formula = .ok f)

include hdet hc hparse

/-- Brackets around a column that is not text change no report. -/
theorem build_bracketAt_of_not_isLoneText
    (htext : ∀ before, build source sampler (spec.firstColumns i) = .ok before →
      ¬ IsLoneText before.columns c.formula) :
    build source sampler' (spec.bracketAt i) = build source sampler spec := by
  rw [build_eq (determined_bracketAt hdet hc hparse), build_eq hdet, duplicateColumn_bracketAt,
    ReportSpec.rows_bracketAt, ReportSpec.zone_bracketAt]
  cases hduplicate : spec.duplicateColumn with
  | some name => rfl
  | none =>
    have hnodup := nodup_firstColumns (ReportSpec.duplicateColumn_eq_none_iff.1 hduplicate) i
    dsimp only
    cases hplan : Tabulator.ofPlan source spec.rows spec.zone with
    | error e => rfl
    | ok t =>
      dsimp only
      rw [foldlM_bracketAt hc hparse]
      intro before hbefore
      exact htext ⟨t.starts, before⟩ ((build_eq_ok_iff (hdet.firstColumns i)).2
        ⟨hnodup, t, hplan, hbefore, rfl⟩)

/-- A report that can be built stays the same exactly if the column is not text. -/
theorem build_bracketAt_eq_ok_iff (h : build source sampler spec = .ok report) :
    build source sampler' (spec.bracketAt i) = .ok report ↔
      ¬ IsLoneText (report.columns.take i) c.formula := by
  obtain ⟨-, t, hplan, hcolumns, -⟩ := (build_eq_ok_iff hdet).1 h
  constructor
  · intro hbracketed htext
    obtain ⟨-, t', hplan', hcolumns', -⟩ :=
      (build_eq_ok_iff (determined_bracketAt hdet hc hparse)).1 hbracketed
    cases hplan.symm.trans hplan'
    obtain ⟨v, hv, hfresh⟩ := columnAt hcolumns hc
    obtain ⟨w, hw, hfresh'⟩ := columnAt hcolumns' (getElem?_bracketAt hc)
    cases hv.symm.trans hw
    obtain ⟨ss, rfl⟩ := exists_texts_of_isLoneText htext hfresh
    exact freshColumn_bracketed_ne_texts hfresh'
  · intro htext
    rw [← h]
    refine build_bracketAt_of_not_isLoneText hdet hc hparse fun before hbefore => ?_
    have hfirst := foldlM_of_firstColumns hdet hplan hbefore
    rw [foldlM_take hcolumns i, Except.ok.injEq] at hfirst
    rwa [← hfirst]

end Brackets

/-- A column of text fails in brackets, unless its name is that of a constant. -/
theorem build_bracketAt_of_isLoneText (hdet : spec.Determined) (hc : spec.columns[i]? = some c)
    (hnodup : (spec.columns.map (·.name)).Nodup)
    (hbefore : build source sampler (spec.firstColumns i) = .ok report)
    (hname : soleName? c.formula = some name)
    (htext : standsForText report.columns name = true)
    (hconstant : NamedConstant.ofName? name = none) :
    ∃ cause, build source sampler' (spec.bracketAt i) = .error (.formula c.name cause) := by
  obtain ⟨hparse, -⟩ := soleName?_eq_some_iff.1 hname
  obtain ⟨-, t, hplan, hcolumns, -⟩ := (build_eq_ok_iff (hdet.firstColumns i)).1 hbefore
  obtain ⟨cause, hcause⟩ :=
    freshColumn_bracketed_of_text (Tabulator.planned_of_ofPlan hplan) hname htext hconstant
  refine ⟨cause, (build_eq_error_iff (determined_bracketAt hdet hc hparse) ?_).2
    (.inr ⟨t, hplan, ?_⟩)⟩
  · rwa [names_bracketAt]
  · rw [columns_bracketAt hc, List.foldlM_append]
    refine bind_eq_error_iff.2 (.inr ⟨_, hcolumns, ?_⟩)
    exact bind_eq_error_iff.2 (.inl (extended_eq_error_iff.2 hcause))

/-- **Brackets around the formula of a column change a report only if the column is text.** A report
is the same with them unless the formula is nothing but the name of text, which is the name of an
earlier column of text or one that refers to text. For a report that can be built the condition is
exact. The column in brackets then fails, as a formula that has no numbers, unless the name is that
of a constant. A formula is taken for a name alone exactly if it is read as that name and has no
brackets. -/
theorem build_bracketAt (hdet : spec.Determined) (hc : spec.columns[i]? = some c)
    (hparse : Formula.parse c.formula = .ok f) (source : Source) (sampler sampler' : Sampler) :
    ((∀ before, build source sampler (spec.firstColumns i) = .ok before →
        ¬ IsLoneText before.columns c.formula) →
      build source sampler' (spec.bracketAt i) = build source sampler spec) ∧
    (∀ report, build source sampler spec = .ok report →
      (build source sampler' (spec.bracketAt i) = .ok report ↔
        ¬ IsLoneText (report.columns.take i) c.formula)) ∧
    (∀ before name, (spec.columns.map (·.name)).Nodup →
      build source sampler (spec.firstColumns i) = .ok before → soleName? c.formula = some name →
      standsForText before.columns name = true → NamedConstant.ofName? name = none →
        ∃ cause, build source sampler' (spec.bracketAt i) = .error (.formula c.name cause)) ∧
    ∀ name, soleName? c.formula = some name ↔
      f = .named name ∧ .opening ∉ tokenKinds c.formula := by
  refine ⟨fun htext => build_bracketAt_of_not_isLoneText hdet hc hparse htext,
    fun report h => build_bracketAt_eq_ok_iff hdet hc hparse h,
    fun before name hnodup hbefore hname htext hconstant =>
      build_bracketAt_of_isLoneText hdet hc hnodup hbefore hname htext hconstant,
    fun name => ?_⟩
  rw [soleName?_eq_some_iff, hparse, Except.ok.injEq]

/-! ## The day as text -/

section Day

/-- The day of each row as text, and the constant `E`. -/
def daySpec (rows : RowPlan) : ReportSpec :=
  ⟨rows, [⟨"day", "time.ymd", []⟩, ⟨"e", "E", []⟩], Zone.utc⟩

/-- A single row with nothing in its archive. -/
def dayTabulator (rows : RowPlan) (b : Bucket) : Tabulator :=
  ⟨Archive.empty.source, rows, Zone.utc, [b]⟩

/-- The report on that row, if it is on the first day of 1970. -/
def dayReport (b : Bucket) : Report :=
  ⟨[b.start], [("day", .texts ["1970-01-01"]), ("e", .numbers [2.718281828459045])]⟩

theorem determined_daySpec (rows : RowPlan) : (daySpec rows).Determined := by
  have hday : tokenKinds "time.ymd" = [.identifier "time.ymd"] := (tokenKinds_eq _).trans rfl
  have he : tokenKinds "E" = [.identifier "E"] := (tokenKinds_eq _).trans rfl
  intro c hc
  refine ColumnSpec.determined_of_tokenKinds ?_
  simp only [daySpec, List.mem_cons, List.not_mem_nil, or_false] at hc
  rcases hc with rfl | rfl <;> simp [hday, he]

/-- The first hour of 1970 is such a row. -/
theorem exists_dayTabulator :
    ∃ (rows : RowPlan) (b : Bucket), rows.start.utc.seconds = 0 ∧ rows.stop.utc.seconds = 3600 ∧
      Tabulator.ofPlan Archive.empty.source rows Zone.utc = .ok (dayTabulator rows b) ∧
      textColumn? (dayTabulator rows b) [] ⟨"day", "time.ymd", []⟩ =
        .ok (some ["1970-01-01"]) := by
  let rows : RowPlan := ⟨⟨⟨0, 0, by omega⟩, by decide⟩, ⟨⟨3600, 0, by omega⟩, by decide⟩,
    ⟨1, .hour, by decide, by decide⟩⟩
  exact ⟨rows, ⟨rows.start, rows.stop⟩, rfl, rfl, by cbv, by cbv⟩

variable {rows : RowPlan} {b : Bucket}
  (hplan : Tabulator.ofPlan Archive.empty.source rows Zone.utc = .ok (dayTabulator rows b))

include hplan

theorem build_daySpec (htext : textColumn? (dayTabulator rows b) [] ⟨"day", "time.ymd", []⟩ =
      .ok (some ["1970-01-01"])) :
    build Archive.empty.source ⟨0⟩ (daySpec rows) = .ok (dayReport b) := by
  have hday : freshColumn (dayTabulator rows b) [] ⟨"day", "time.ymd", []⟩ =
      .ok (.texts ["1970-01-01"]) := by
    rw [freshColumn, map_column, htext]
    rfl
  have he : freshColumn (dayTabulator rows b) [("day", .texts ["1970-01-01"])] ⟨"e", "E", []⟩ =
      .ok (.numbers [2.718281828459045]) :=
    freshColumn_constant rfl
  refine (build_eq_ok_iff (determined_daySpec rows)).2 ⟨by simp [daySpec], _, hplan, ?_, rfl⟩
  exact bind_eq_ok_iff.2 ⟨_, extended_eq_ok_iff.2 ⟨_, hday, rfl⟩,
    bind_eq_ok_iff.2 ⟨_, extended_eq_ok_iff.2 ⟨_, he, rfl⟩, rfl⟩⟩

theorem build_daySpec_bracketAt
    (hparse : Formula.parse (inBrackets "time.ymd") = .ok (.named "time.ymd"))
    (hdet : ((daySpec rows).bracketAt 0).Determined) :
    build Archive.empty.source ⟨0⟩ ((daySpec rows).bracketAt 0) =
      .error (.formula "day"
        (.unresolved "time.ymd" "time.ymd produces text, not numbers")) := by
  have hnumeric : (dayTabulator rows b).numeric "time.ymd" = .error (.notNumeric "time.ymd") := by
    cbv
  have hanswer : numbersOf (dayTabulator rows b) [] "time.ymd" =
      .error "time.ymd produces text, not numbers" := by
    unfold numbersOf
    rw [hnumeric]
    rfl
  have hday : freshColumn (dayTabulator rows b) [] (bracketed ⟨"day", "time.ymd", []⟩) =
      .error (.formula "day"
        (.unresolved "time.ymd" "time.ymd produces text, not numbers")) := by
    rw [freshColumn, map_column, textColumn?_bracketed]
    dsimp only [bracketed]
    rw [hparse]
    dsimp only
    rw [Formula.run_named rfl, hanswer]
  have hnodup : (((daySpec rows).bracketAt 0).columns.map (·.name)).Nodup := by
    rw [names_bracketAt]
    simp [daySpec]
  refine (build_eq_error_iff hdet hnodup).2 (.inr ⟨_, hplan, ?_⟩)
  exact bind_eq_error_iff.2 (.inl (extended_eq_error_iff.2 hday))

end Day

/-- The constant can stand in brackets. -/
theorem build_bracketAt_constant :
    ∃ rows b, rows.start.utc.seconds = 0 ∧ rows.stop.utc.seconds = 3600 ∧
      (daySpec rows).Determined ∧ (daySpec rows).columns[1]? = some ⟨"e", "E", []⟩ ∧
      Formula.parse "E" = .ok (.named "E") ∧
      build Archive.empty.source ⟨0⟩ (daySpec rows) = .ok (dayReport b) ∧
      ¬ IsLoneText ((dayReport b).columns.take 1) "E" ∧
      build Archive.empty.source ⟨1⟩ ((daySpec rows).bracketAt 1) = .ok (dayReport b) := by
  obtain ⟨rows, b, hstart, hstop, hplan, htext⟩ := exists_dayTabulator
  have hcolumn : (daySpec rows).columns[1]? = some ⟨"e", "E", []⟩ := rfl
  have hparse : Formula.parse "E" = .ok (.named "E") := (Formula.parse_eq _).trans rfl
  have hbuild := build_daySpec hplan htext
  have hnumbers : ¬ IsLoneText ((dayReport b).columns.take 1) "E" := by
    have hname : soleName? "E" = some "E" :=
      soleName?_eq_some_iff_tokenKinds.2 ((tokenKinds_eq _).trans rfl)
    have hkind : standsForText [("day", .texts ["1970-01-01"])] "E" = false := by decide +kernel
    rintro ⟨name, hname', hkind'⟩
    cases hname.symm.trans hname'
    exact Bool.false_ne_true (hkind.symm.trans hkind')
  obtain ⟨-, hexact, -⟩ := build_bracketAt (determined_daySpec rows) hcolumn hparse
    Archive.empty.source ⟨0⟩ ⟨1⟩
  exact ⟨rows, b, hstart, hstop, determined_daySpec rows, hcolumn, hparse, hbuild, hnumbers,
    (hexact _ hbuild).2 hnumbers⟩

/-- **The day cannot: it is text only without brackets.** -/
theorem build_bracketAt_day :
    ∃ rows b, rows.start.utc.seconds = 0 ∧ rows.stop.utc.seconds = 3600 ∧
      (daySpec rows).Determined ∧ (daySpec rows).columns[0]? = some ⟨"day", "time.ymd", []⟩ ∧
      Formula.parse "time.ymd" = .ok (.named "time.ymd") ∧
      Formula.parse (inBrackets "time.ymd") = .ok (.named "time.ymd") ∧
      build Archive.empty.source ⟨0⟩ (daySpec rows) = .ok (dayReport b) ∧
      build Archive.empty.source ⟨0⟩ ((daySpec rows).bracketAt 0) =
        .error (.formula "day"
          (.unresolved "time.ymd" "time.ymd produces text, not numbers")) := by
  obtain ⟨rows, b, hstart, hstop, hplan, htext⟩ := exists_dayTabulator
  have hcolumn : (daySpec rows).columns[0]? = some ⟨"day", "time.ymd", []⟩ := rfl
  have hparse : Formula.parse "time.ymd" = .ok (.named "time.ymd") := (Formula.parse_eq _).trans rfl
  have hbracketed := Formula.parse_inBrackets hparse
  have hdet := determined_bracketAt (determined_daySpec rows) hcolumn hparse
  exact ⟨rows, b, hstart, hstop, determined_daySpec rows, hcolumn, hparse, hbracketed,
    build_daySpec hplan htext, build_daySpec_bracketAt hplan hbracketed hdet⟩

end Report

end Logbook
