import Logbook.Proofs.Formula.Lookups
import Logbook.Proofs.Outcome
import Logbook.Report.Basic

/-!
# Columns one by one

All columns of a report share one calculator, and each of them changes it. Without random numbers no
column can see what the others have left in it.

* `Report.freshColumn` — a column as a calculator of its own computes it.
* `column_congr` — a column comes to the same with every calculator that serves the rows, and with
  every tabulator that says the same of the names in its formula.
* `columnsAfter_eq_foldlM` / `build_eq` — a report is built by adding fresh columns one by one.
* `columnAt` — each column of a finished report is computed from those before it.
-/

namespace Logbook

/-- The formula of the column, if it can be read, draws no random numbers. -/
def ColumnSpec.Determined (c : ColumnSpec) : Prop :=
  ∀ f, Formula.parse c.formula = .ok f → f.Determined

/-- Only a token can make a formula draw random numbers. -/
theorem ColumnSpec.determined_of_tokenKinds {c : ColumnSpec}
    (h : .identifier "RANDOM" ∉ tokenKinds c.formula) : c.Determined :=
  fun _ hparse hrandom => h (identifier_mem_tokenKinds hparse hrandom)

/-- No formula of the report draws random numbers. -/
def ReportSpec.Determined (s : ReportSpec) : Prop :=
  ∀ c ∈ s.columns, c.Determined

/-- The calculator can be used for that many rows. -/
structure Calculator.Serves (c : Calculator) (rows : Nat) : Prop where
  sound : c.Sound
  rows_eq : c.rows = rows

theorem Calculator.initial_serves (rows : Nat) (sampler : Sampler) :
    (initial rows sampler).Serves rows :=
  ⟨initial_sound rows sampler, rfl⟩

namespace Formula

theorem outcome_evaluateText (answers : Answers) (input : String) (c : Calculator) :
    outcome (evaluateText (m := Id) answers input) c =
      match parse input with
      | .error e => (.error (.parse e), c)
      | .ok f => run answers f c := by
  unfold evaluateText
  cases parse input <;> rfl

theorem run_serves {answers : Answers} {f : Formula} {c c' : Calculator} {rows : Nat}
    {r : Except FormulaError (List Float)} (h : run answers f c = (r, c')) (hc : c.Serves rows) :
    c'.Serves rows :=
  ⟨run_sound h hc.sound, (run_rows h).trans hc.rows_eq⟩

end Formula

/-- The tabulators say the same of each name among the tokens of a formula. -/
def Tabulator.AgreesOn (t t' : Tabulator) (formula : String) : Prop :=
  ∀ name, .identifier name ∈ tokenKinds formula →
    t.numeric name = t'.numeric name ∧ t.text name = t'.text name

namespace Report

variable {t t' : Tabulator} {computed columns : Columns} {calculator calculator' : Calculator}
  {c : ColumnSpec} {rows : Nat}

/-! ## One column -/

/-- A formula is taken for a name alone if this is its only token. -/
theorem soleName?_eq_some_iff_tokenKinds {formula name : String} :
    soleName? formula = some name ↔ tokenKinds formula = [.identifier name] := by
  unfold soleName? tokenKinds
  constructor
  · intro h
    split at h
    · rename_i htokens
      cases h
      rw [htokens]
      rfl
    · cases h
  · intro h
    obtain ⟨⟨kind, offset⟩, rest, htokens, rfl, hrest⟩ := List.map_eq_cons_iff.1 h
    obtain rfl := List.map_eq_nil_iff.1 hrest
    rw [htokens]

theorem identifier_mem_of_soleName? {formula name : String} (h : soleName? formula = some name) :
    .identifier name ∈ tokenKinds formula := by
  rw [soleName?_eq_some_iff_tokenKinds.1 h]
  exact List.mem_singleton_self _

theorem textColumn?_of_tokenKinds {name : String} (h : tokenKinds c.formula = [.identifier name]) :
    textColumn? t computed c = (textOf? t computed name).mapError (.lookup c.name) := by
  rw [textColumn?, soleName?_eq_some_iff_tokenKinds.2 h]
  dsimp only
  cases textOf? t computed name <;> rfl

theorem textColumn?_congr (h : t.AgreesOn t' c.formula) :
    textColumn? t computed c = textColumn? t' computed c := by
  unfold textColumn?
  cases hname : soleName? c.formula with
  | none => rfl
  | some name =>
    obtain ⟨-, htext⟩ := h name (identifier_mem_of_soleName? hname)
    simp only [textOf?, htext]

theorem numbersOf_congr {name : String} (h : t.numeric name = t'.numeric name) :
    numbersOf t computed name = numbersOf t' computed name := by
  simp only [numbersOf, h]

theorem numericColumn_eq (t : Tabulator) (computed : Columns) (calculator : Calculator)
    (c : ColumnSpec) :
    numericColumn t computed calculator c =
      match Formula.parse c.formula with
      | .error e => .error (.formula c.name (.parse e))
      | .ok f =>
        match Formula.run (numbersOf t computed) f calculator with
        | (.ok xs, calculator) => .ok (Filter.applyChain c.filters xs, calculator)
        | (.error e, _) => .error (.formula c.name e) := by
  have h := Formula.outcome_evaluateText (numbersOf t computed) c.formula calculator
  unfold Formula.outcome at h
  unfold numericColumn
  rw [h]
  cases Formula.parse c.formula <;> rfl

/-- A column without the calculator after it. -/
theorem map_column (t : Tabulator) (computed : Columns) (calculator : Calculator)
    (c : ColumnSpec) :
    (column t computed calculator c).map (·.1) =
      match textColumn? t computed c with
      | .error e => .error e
      | .ok (some values) =>
        if c.filters.isEmpty then .ok (.texts values) else .error (.filtersOnText c.name)
      | .ok none =>
        match Formula.parse c.formula with
        | .error e => .error (.formula c.name (.parse e))
        | .ok f =>
          match (Formula.run (numbersOf t computed) f calculator).1 with
          | .ok xs => .ok (.numbers (Filter.applyChain c.filters xs))
          | .error e => .error (.formula c.name e) := by
  unfold column
  rcases textColumn? t computed c with e | _ | values
  · rfl
  · dsimp only
    rw [numericColumn_eq]
    rcases Formula.parse c.formula with e | f
    · rfl
    · dsimp only
      generalize Formula.run (numbersOf t computed) f _ = p
      obtain ⟨_ | xs, d⟩ := p <;> rfl
  · dsimp only
    split <;> rfl

/-- **A column hangs on what its formula names and on the columns before it.** The calculator and
the rest of the tabulator make no difference. -/
theorem column_congr (hdet : c.Determined) (h : t.AgreesOn t' c.formula)
    (hc : calculator.Serves rows) (hc' : calculator'.Serves rows) :
    (column t computed calculator c).map (·.1) = (column t' computed calculator' c).map (·.1) := by
  rw [map_column, map_column, textColumn?_congr h]
  cases hparse : Formula.parse c.formula with
  | error e => rfl
  | ok f =>
    have hrun : (Formula.run (numbersOf t computed) f calculator).1 =
        (Formula.run (numbersOf t' computed) f calculator').1 :=
      Formula.run_congr (hdet f hparse) hc.sound hc'.sound (hc.rows_eq.trans hc'.rows_eq.symm)
        fun name hname _ => numbersOf_congr (h name (identifier_mem_tokenKinds hparse hname)).1
    dsimp only
    rw [hrun]

theorem column?_of_textColumn? {e : ReportError} (h : textColumn? t computed c = .error e) :
    ∃ cause, e = .lookup c.name cause := by
  unfold textColumn? at h
  split at h
  · cases h
  · split at h
    · cases h
    · cases h
      exact ⟨_, rfl⟩

/-- An error of a column belongs to that column. -/
theorem column?_of_column {e : ReportError} (h : column t computed calculator c = .error e) :
    e.column? = some c.name ∧ ∀ name, e ≠ .duplicateColumn name := by
  rw [← map_eq_error_iff, map_column] at h
  split at h
  · rename_i htext
    cases h
    obtain ⟨cause, rfl⟩ := column?_of_textColumn? htext
    exact ⟨rfl, nofun⟩
  · split at h
    · cases h
    · cases h
      exact ⟨rfl, nofun⟩
  · split at h
    · cases h
      exact ⟨rfl, nofun⟩
    · split at h
      · cases h
      · cases h
        exact ⟨rfl, nofun⟩

/-- A column leaves a calculator that serves the rows as well. -/
theorem column_serves {v : Column} (h : column t computed calculator c = .ok (v, calculator'))
    (hc : calculator.Serves rows) : calculator'.Serves rows := by
  unfold column at h
  split at h
  · cases h
  · split at h
    · cases h
      exact hc
    · cases h
  · obtain ⟨⟨xs, d⟩, hnumbers, heq⟩ := map_eq_ok_iff.1 h
    cases heq
    rw [numericColumn_eq] at hnumbers
    split at hnumbers
    · cases hnumbers
    · split at hnumbers
      · rename_i hrun
        cases hnumbers
        exact Formula.run_serves hrun hc
      · cases hnumbers

/-- The column as a calculator of its own computes it. -/
def freshColumn (t : Tabulator) (computed : Columns) (c : ColumnSpec) : Except ReportError Column :=
  (column t computed (.initial t.rowCount ⟨0⟩) c).map (·.1)

theorem column_eq_freshColumn (hdet : c.Determined) (hc : calculator.Serves t.rowCount) :
    (column t computed calculator c).map (·.1) = freshColumn t computed c :=
  column_congr hdet (fun _ _ => ⟨rfl, rfl⟩) hc (Calculator.initial_serves _ _)

theorem freshColumn_congr (hdet : c.Determined) (h : t.AgreesOn t' c.formula)
    (hrows : t.rowCount = t'.rowCount) : freshColumn t computed c = freshColumn t' computed c := by
  unfold freshColumn
  rw [hrows]
  exact column_congr hdet h (Calculator.initial_serves _ _) (Calculator.initial_serves _ _)

/-- A column of numbers is the values of its formula after its filters. -/
theorem freshColumn_eq_numbers_iff {zs : List Float} :
    freshColumn t computed c = .ok (.numbers zs) ↔
      textColumn? t computed c = .ok none ∧ ∃ f xs, Formula.parse c.formula = .ok f ∧
        (Formula.run (numbersOf t computed) f (.initial t.rowCount ⟨0⟩)).1 = .ok xs ∧
        zs = Filter.applyChain c.filters xs := by
  rw [freshColumn, map_column]
  rcases textColumn? t computed c with e | _ | values
  · simp
  · rcases Formula.parse c.formula with e | f
    · simp
    · dsimp only
      rcases hrun : (Formula.run (numbersOf t computed) f (.initial t.rowCount ⟨0⟩)).1 with e | xs
      · simp [hrun]
      · simp [hrun, eq_comm]
  · dsimp only
    split <;> simp

theorem column?_of_freshColumn {e : ReportError} (h : freshColumn t computed c = .error e) :
    e.column? = some c.name :=
  (column?_of_column (map_eq_error_iff.1 h)).1

/-! ## All columns -/

/-- The columns with one more. -/
def extended (t : Tabulator) (computed : Columns) (c : ColumnSpec) : Except ReportError Columns :=
  (freshColumn t computed c).map fun v => computed ++ [(c.name, v)]

theorem extended_eq_ok_iff :
    extended t computed c = .ok columns ↔
      ∃ v, freshColumn t computed c = .ok v ∧ columns = computed ++ [(c.name, v)] := by
  simp only [extended, map_eq_ok_iff, @eq_comm _ columns]

theorem extended_eq_error_iff {e : ReportError} :
    extended t computed c = .error e ↔ freshColumn t computed c = .error e :=
  map_eq_error_iff

/-- Tabulators that agree on all formulas, and on the number of rows, come to the same columns. -/
theorem foldlM_extended_congr {cs : List ColumnSpec} (hdet : ∀ c ∈ cs, c.Determined)
    (h : ∀ c ∈ cs, t.AgreesOn t' c.formula) (hrows : t.rowCount = t'.rowCount)
    (computed : Columns) :
    cs.foldlM (extended t) computed = cs.foldlM (extended t') computed := by
  induction cs generalizing computed with
  | nil => rfl
  | cons c cs ih =>
    rw [List.foldlM_cons, List.foldlM_cons, extended, extended,
      freshColumn_congr (hdet c List.mem_cons_self) (h c List.mem_cons_self) hrows]
    refine congrArg _ (funext fun computed => ?_)
    exact ih (fun c' hc => hdet c' (List.mem_cons_of_mem c hc))
      (fun c' hc => h c' (List.mem_cons_of_mem c hc)) computed

theorem columnsAfter_eq_foldlM {cs : List ColumnSpec} (hdet : ∀ c ∈ cs, c.Determined)
    (hc : calculator.Serves t.rowCount) :
    columnsAfter t computed calculator cs = cs.foldlM (extended t) computed := by
  induction cs generalizing computed calculator with
  | nil => rfl
  | cons c cs ih =>
    have hfresh : (column t computed calculator c).map (·.1) = freshColumn t computed c :=
      column_eq_freshColumn (hdet c List.mem_cons_self) hc
    rw [List.foldlM_cons, extended, ← hfresh, columnsAfter]
    cases hcolumn : column t computed calculator c with
    | error e => rfl
    | ok p =>
      obtain ⟨v, calculator'⟩ := p
      exact ih (fun c' h => hdet c' (List.mem_cons_of_mem c h)) (column_serves hcolumn hc)

theorem foldlM_extended_append {xs ys : List ColumnSpec} :
    (xs ++ ys).foldlM (extended t) computed = .ok columns ↔
      ∃ before, xs.foldlM (extended t) computed = .ok before ∧
        ys.foldlM (extended t) before = .ok columns := by
  rw [List.foldlM_append, bind_eq_ok_iff]

/-- The columns that are there stay, and those of the list come after them. -/
theorem eq_append_of_foldlM {cs : List ColumnSpec}
    (h : cs.foldlM (extended t) computed = .ok columns) :
    ∃ more, columns = computed ++ more ∧ more.map (·.1) = cs.map (·.name) := by
  induction cs generalizing computed with
  | nil =>
    cases h
    exact ⟨[], by simp⟩
  | cons c cs ih =>
    rw [List.foldlM_cons, bind_eq_ok_iff] at h
    obtain ⟨between, hc, hcs⟩ := h
    obtain ⟨v, -, rfl⟩ := extended_eq_ok_iff.1 hc
    obtain ⟨more, rfl, hmore⟩ := ih hcs
    exact ⟨(c.name, v) :: more, by simp, by simp [hmore]⟩

/-- A finished list has the names asked for, in their order. -/
theorem names_of_foldlM {cs : List ColumnSpec} (h : cs.foldlM (extended t) [] = .ok columns) :
    columns.map (·.1) = cs.map (·.name) := by
  obtain ⟨_, rfl, hnames⟩ := eq_append_of_foldlM h
  exact hnames

theorem length_of_foldlM {cs : List ColumnSpec} (h : cs.foldlM (extended t) [] = .ok columns) :
    columns.length = cs.length := by
  simpa using congrArg List.length (names_of_foldlM h)

/-- The first columns are computed without those after them. -/
theorem foldlM_take {cs : List ColumnSpec} (h : cs.foldlM (extended t) [] = .ok columns)
    (k : Nat) : (cs.take k).foldlM (extended t) [] = .ok (columns.take k) := by
  have hlength := length_of_foldlM h
  rw [← List.take_append_drop k cs] at h
  obtain ⟨before, hbefore, hrest⟩ := foldlM_extended_append.1 h
  obtain ⟨more, rfl, -⟩ := eq_append_of_foldlM hrest
  have hshort := length_of_foldlM hbefore
  rw [List.length_take] at hshort
  rw [hbefore, List.take_append]
  rw [List.length_append] at hlength
  have hmore : more.take (k - before.length) = [] := by
    rw [List.take_eq_nil_iff, ← List.length_eq_zero_iff]
    omega
  rw [hmore, List.append_nil, List.take_of_length_le (by omega)]

/-- **Each column of a finished report is computed from those before it.** -/
theorem columnAt {cs : List ColumnSpec} (h : cs.foldlM (extended t) [] = .ok columns)
    {i : Nat} (hc : cs[i]? = some c) :
    ∃ v, columns[i]? = some (c.name, v) ∧ freshColumn t (columns.take i) c = .ok v := by
  have hlast := foldlM_take h (i + 1)
  rw [List.take_add_one, hc, Option.toList_some, foldlM_extended_append] at hlast
  obtain ⟨before, hbefore, hlast⟩ := hlast
  cases hbefore.symm.trans (foldlM_take h i)
  rw [List.foldlM_cons, bind_eq_ok_iff] at hlast
  obtain ⟨between, hextended, hlast⟩ := hlast
  cases hlast
  obtain ⟨v, hv, heq⟩ := extended_eq_ok_iff.1 hextended
  refine ⟨v, ?_, hv⟩
  have hi : i < columns.length :=
    length_of_foldlM h ▸ (List.getElem?_eq_some_iff.1 hc).1
  rw [List.take_add_one, List.append_cancel_left_eq] at heq
  rw [List.getElem?_eq_getElem hi] at heq ⊢
  simpa using heq

/-- **A report is built by adding fresh columns one by one.** What is drawn from the sampler makes no
difference to it. -/
theorem build_eq {source : Source} {spec : ReportSpec} (hdet : spec.Determined)
    (sampler : Sampler) :
    build source sampler spec =
      match spec.duplicateColumn with
      | some name => .error (.duplicateColumn name)
      | none =>
        match Tabulator.ofPlan source spec.rows spec.zone with
        | .error e => .error (.rows e)
        | .ok t => (spec.columns.foldlM (extended t) []).map fun columns => ⟨t.starts, columns⟩ := by
  unfold build
  cases spec.duplicateColumn with
  | some name => rfl
  | none =>
    dsimp only
    cases Tabulator.ofPlan source spec.rows spec.zone with
    | error e => rfl
    | ok t =>
      dsimp only
      rw [columnsAfter_eq_foldlM hdet (Calculator.initial_serves _ _)]
      cases spec.columns.foldlM (extended t) [] <;> rfl

end Report

end Logbook
