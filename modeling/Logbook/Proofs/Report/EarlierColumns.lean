import Logbook.Proofs.Report.Prefixes

/-!
# Formulas that name earlier columns

A formula can name the columns before its own. Such a name stands for the finished values of that
column, row by row, whatever else it could refer to; only the names of constants come first.

* `Columns.find?_of_mem` — of columns with different names, the one with a name is found.
* `numbersOf_of_mem` — the name of a column of numbers is answered with these numbers.
* `numbersOf_earlier` — so are the names of earlier columns of a finished report.
* `named_valueAt_earlierColumn` — in each row of a column the value of its formula is that with the
  entry of each earlier column in place of its name.
* `constant_before_column` — the name of a constant stands for the constant, also if an earlier
  column has that name.
-/

namespace Logbook

/-- Of columns with different names, the one with the name is found. -/
theorem Columns.find?_of_mem {columns : Columns} (hnodup : (columns.map (·.1)).Nodup)
    {name : String} {v : Column} (h : (name, v) ∈ columns) : columns.find? name = some v := by
  induction columns with
  | nil => cases h
  | cons first rest ih =>
    rw [List.map_cons, List.nodup_cons] at hnodup
    unfold find? at ih ⊢
    rw [List.find?_cons]
    rcases List.mem_cons.1 h with rfl | h
    · simp
    · have hne : (first.1 == name) = false := by
        rw [beq_eq_false_iff_ne]
        exact fun heq => hnodup.1 (heq ▸ List.mem_map_of_mem h)
      rw [hne]
      exact ih hnodup.2 h

namespace Report

variable {t : Tabulator} {computed : Columns} {c : ColumnSpec}

/-- The name of a column of numbers is answered with these numbers, whatever else it refers to. -/
theorem numbersOf_of_mem (t : Tabulator) {columns : Columns}
    (hnodup : (columns.map (·.1)).Nodup) {name : String} {ys : List Float}
    (h : (name, .numbers ys) ∈ columns) : numbersOf t columns name = .ok (some ys) := by
  unfold numbersOf
  rw [Columns.find?_of_mem hnodup h]

/-- A column of numbers has one for each row. -/
theorem length_of_freshColumn {zs : List Float} (h : freshColumn t computed c = .ok (.numbers zs)) :
    zs.length = t.rowCount := by
  obtain ⟨-, f, xs, -, hrun, rfl⟩ := freshColumn_eq_numbers_iff.1 h
  rcases hp : Formula.run (numbersOf t computed) f (.initial t.rowCount ⟨0⟩) with ⟨r, d⟩
  rw [hp] at hrun
  cases hrun
  rw [Filter.length_applyChain, Formula.evaluate_length hp]
  rfl

/-- The values of a column of numbers before its filters are those of its formula in each row. -/
theorem valueAt_of_freshColumn {zs : List Float} {f : Formula} (hdet : c.Determined)
    (hparse : Formula.parse c.formula = .ok f)
    (h : freshColumn t computed c = .ok (.numbers zs)) :
    ∃ xs, zs = Filter.applyChain c.filters xs ∧ xs.length = t.rowCount ∧
      ∀ r < t.rowCount, xs[r]? = f.valueAt (Formula.Answers.entry (numbersOf t computed) r) := by
  obtain ⟨-, g, xs, hparse', hrun, rfl⟩ := freshColumn_eq_numbers_iff.1 h
  cases hparse.symm.trans hparse'
  rcases hp : Formula.run (numbersOf t computed) f (.initial t.rowCount ⟨0⟩) with ⟨r, d⟩
  rw [hp] at hrun
  cases hrun
  refine ⟨xs, rfl, Formula.evaluate_length hp, fun r hr => ?_⟩
  exact Formula.run_valueAt (Calculator.initial_sound _ _) (hdet f hparse) hp hr

/-! ## Columns of a finished report -/

section Finished

variable {cs : List ColumnSpec} {columns : Columns} {i j : Nat} {name : String} {ys : List Float}
  (hcolumns : cs.foldlM (extended t) [] = .ok columns)
  (hys : columns[j]? = some (name, .numbers ys))

include hcolumns hys

/-- A finished column of numbers has one for each row. -/
theorem length_of_column : ys.length = t.rowCount := by
  have hj : j < cs.length := length_of_foldlM hcolumns ▸ (List.getElem?_eq_some_iff.1 hys).1
  obtain ⟨v, hv, hfresh⟩ := columnAt hcolumns (List.getElem?_eq_getElem hj)
  cases hys.symm.trans hv
  exact length_of_freshColumn hfresh

/-- The columns before a place answer the name of one of them with its finished numbers. -/
theorem numbersOf_earlier (hnodup : (cs.map (·.name)).Nodup) (hj : j < i) :
    numbersOf t (columns.take i) name = .ok (some ys) := by
  have hbefore : ((columns.take i).map (·.1)).Nodup := by
    rw [List.map_take, names_of_foldlM hcolumns]
    exact hnodup.sublist (List.take_sublist i _)
  refine numbersOf_of_mem t hbefore (List.mem_iff_getElem?.2 ⟨j, ?_⟩)
  rw [List.getElem?_take_of_lt hj, hys]

end Finished

variable {source : Source} {sampler : Sampler} {spec : ReportSpec} {report : Report}

/-- The rows of a finished report are those of its tabulator. -/
theorem rowCount_of_starts (h : t.starts = report.starts) : t.rowCount = report.rowCount := by
  unfold rowCount
  rw [← h]
  exact (List.length_map _).symm

/-- **A formula that names an earlier column uses the values of that column.** The values of a column
of numbers, before its filters, are in each row those of its formula. The name of an earlier column
of numbers in the formula is evaluated to the finished values of that column, whatever calculator is
used, so in each row it has the number that the column holds there. It makes no difference what the
name could refer to otherwise, unless it is that of a constant. -/
theorem named_valueAt_earlierColumn (hdet : spec.Determined)
    (h : build source sampler spec = .ok report) :
    ∃ t, Tabulator.ofPlan source spec.rows spec.zone = .ok t ∧
      ∀ (i : Nat) c f zs, spec.columns[i]? = some c → Formula.parse c.formula = .ok f →
        report.columns[i]? = some (c.name, .numbers zs) →
        let answers : Formula.Answers := numbersOf t (report.columns.take i)
        (∃ xs, zs = Filter.applyChain c.filters xs ∧ xs.length = report.rowCount ∧
          ∀ r < report.rowCount, xs[r]? = f.valueAt (answers.entry r)) ∧
        ∀ j < i, ∀ name ys, report.columns[j]? = some (name, .numbers ys) →
          .named name ∈ f.parts → name ≠ "PI" → name ≠ "E" →
          (∀ calculator, calculator.rows = report.rowCount →
            Formula.run answers (.named name) calculator = (.ok ys, calculator)) ∧
          ∀ r < report.rowCount, (Formula.named name).valueAt (answers.entry r) = ys[r]? := by
  obtain ⟨hnodup, t, hplan, hcolumns, hstarts⟩ := (build_eq_ok_iff hdet).1 h
  have hrows := rowCount_of_starts hstarts
  refine ⟨t, hplan, fun i c f zs hc hparse hzs => ⟨?_, fun j hj name ys hys hname hpi he => ?_⟩⟩
  · obtain ⟨v, hv, hfresh⟩ := columnAt hcolumns hc
    cases hzs.symm.trans hv
    rw [← hrows]
    exact valueAt_of_freshColumn (hdet c (List.mem_of_getElem? hc)) hparse hfresh
  · have hanswer := numbersOf_earlier hcolumns hys hnodup hj
    have hlength : ys.length = report.rowCount := (length_of_column hcolumns hys).trans hrows
    have hrandom : name ≠ "RANDOM" := by
      rintro rfl
      exact hdet c (List.mem_of_getElem? hc) f hparse hname
    refine ⟨fun calculator hcalculator => ?_, fun r _ => ?_⟩
    · rw [Formula.run_named (NamedConstant.ofName?_eq_none hpi he hrandom), hanswer]
      simp [hlength, hcalculator]
    · simp [Formula.valueAt, hpi, he, Formula.Answers.entry, hanswer]

/-- Two columns: the constant `E` under a name, and a copy of what the name stands for. -/
def copyOf (rows : RowPlan) (name : String) : ReportSpec :=
  ⟨rows, [⟨name, "E", []⟩, ⟨"copy", name, []⟩], Zone.utc⟩

section Copy

variable {rows : RowPlan} {name : String}

theorem copyOf_determined (htokens : tokenKinds name = [.identifier name])
    (hname : name ≠ "RANDOM") : (copyOf rows name).Determined := by
  have he : tokenKinds "E" = [.identifier "E"] := (tokenKinds_eq _).trans rfl
  intro c hc
  refine ColumnSpec.determined_of_tokenKinds ?_
  simp only [copyOf, List.mem_cons, List.not_mem_nil, or_false] at hc
  rcases hc with rfl | rfl <;> simp [he, htokens, Ne.symm hname]

/-- In a single row a copy has the value that the formula of the copy has. -/
theorem build_copyOf {b : Bucket} {x : Float} (hdet : (copyOf rows name).Determined)
    (hplan : Tabulator.ofPlan Archive.empty.source rows Zone.utc =
      .ok ⟨Archive.empty.source, rows, Zone.utc, [b]⟩)
    (hname : name ≠ "copy") (hparse : Formula.parse name = .ok (.named name))
    (htext : ∀ t y, textColumn? t [(name, .numbers [y])] ⟨"copy", name, []⟩ = .ok none)
    (hrun : ∀ t, (Formula.run (numbersOf t [(name, .numbers [2.718281828459045])]) (.named name)
      (.initial 1 ⟨0⟩)).1 = .ok [x]) :
    build Archive.empty.source ⟨0⟩ (copyOf rows name) =
      .ok ⟨[b.start], [(name, .numbers [2.718281828459045]), ("copy", .numbers [x])]⟩ := by
  have hfirst : freshColumn ⟨Archive.empty.source, rows, Zone.utc, [b]⟩ [] ⟨name, "E", []⟩ =
      .ok (.numbers [2.718281828459045]) :=
    freshColumn_constant rfl
  have hsecond : freshColumn ⟨Archive.empty.source, rows, Zone.utc, [b]⟩
      [(name, .numbers [2.718281828459045])] ⟨"copy", name, []⟩ = .ok (.numbers [x]) :=
    freshColumn_eq_numbers_iff.2 ⟨htext _ _, .named name, _, hparse, hrun _, rfl⟩
  refine (build_eq_ok_iff hdet).2 ⟨by simp [copyOf, hname], _, hplan, ?_, rfl⟩
  exact bind_eq_ok_iff.2 ⟨_, extended_eq_ok_iff.2 ⟨_, hfirst, rfl⟩,
    bind_eq_ok_iff.2 ⟨_, extended_eq_ok_iff.2 ⟨_, hsecond, rfl⟩, rfl⟩⟩

end Copy

/-- The first hour of 1970 is the single row of a plan. -/
theorem exists_hour :
    ∃ (rows : RowPlan) (b : Bucket), rows.start.utc.seconds = 0 ∧ rows.stop.utc.seconds = 3600 ∧
      Tabulator.ofPlan Archive.empty.source rows Zone.utc =
        .ok ⟨Archive.empty.source, rows, Zone.utc, [b]⟩ := by
  let rows : RowPlan := ⟨⟨⟨0, 0, by omega⟩, by decide⟩, ⟨⟨3600, 0, by omega⟩, by decide⟩,
    ⟨1, .hour, by decide, by decide⟩⟩
  exact ⟨rows, ⟨rows.start, rows.stop⟩, rfl, rfl,
    Tabulator.ofPlan_of_le_step (by decide) ((Period.step_fixed_eq_ok_iff rfl).2 ⟨rfl, rfl⟩)
      (Int.le_refl _)⟩

/-- A column that has the name of the hour of the day is used in place of it. -/
theorem named_valueAt_earlierColumn_hour :
    ∃ rows report t, rows.start.utc.seconds = 0 ∧ rows.stop.utc.seconds = 3600 ∧
      (copyOf rows "time.hour").Determined ∧
      build Archive.empty.source ⟨0⟩ (copyOf rows "time.hour") = .ok report ∧
      report.columns[0]? = some ("time.hour", .numbers [2.718281828459045]) ∧
      report.columns[1]? = some ("copy", .numbers [2.718281828459045]) ∧
      Formula.parse "time.hour" = .ok (.named "time.hour") ∧
      (CalendarField.ofName? "hour").isSome ∧
      ∀ calculator, calculator.rows = 1 →
        Formula.run (numbersOf t (report.columns.take 1)) (.named "time.hour") calculator =
          (.ok [2.718281828459045], calculator) := by
  obtain ⟨rows, b, hstart, hstop, hplan⟩ := exists_hour
  have htokens : tokenKinds "time.hour" = [.identifier "time.hour"] := (tokenKinds_eq _).trans rfl
  have hparse : Formula.parse "time.hour" = .ok (.named "time.hour") :=
    (Formula.parse_eq _).trans rfl
  have hdet : (copyOf rows "time.hour").Determined := copyOf_determined htokens (by decide)
  have hbuild := build_copyOf (x := 2.718281828459045) hdet hplan (by decide) hparse
    (fun t y => (textColumn?_of_tokenKinds htokens).trans rfl) (fun t => by
      rw [Formula.run_named rfl, numbersOf_of_mem t (by decide) (List.mem_singleton_self _)]
      rfl)
  obtain ⟨t, -, hcolumns⟩ := named_valueAt_earlierColumn hdet hbuild
  obtain ⟨-, hearlier⟩ := hcolumns 1 _ _ _ rfl hparse rfl
  obtain ⟨hrun, -⟩ := hearlier 0 (by decide) "time.hour" _ rfl (by simp [Formula.parts])
    (by decide) (by decide)
  exact ⟨rows, _, t, hstart, hstop, hdet, hbuild, rfl, rfl, hparse, by decide +kernel, hrun⟩

/-- **The name of a constant stands for the constant, also if an earlier column has that name.** -/
theorem constant_before_column :
    ∃ rows report, rows.start.utc.seconds = 0 ∧ rows.stop.utc.seconds = 3600 ∧
      (copyOf rows "PI").Determined ∧
      build Archive.empty.source ⟨0⟩ (copyOf rows "PI") = .ok report ∧
      Formula.parse "PI" = .ok (.named "PI") ∧
      report.columns[0]? = some ("PI", .numbers [2.718281828459045]) ∧
      report.columns[1]? = some ("copy", .numbers [3.141592653589793]) ∧
      (2.718281828459045 : Float) ≠ 3.141592653589793 := by
  obtain ⟨rows, b, hstart, hstop, hplan⟩ := exists_hour
  have htokens : tokenKinds "PI" = [.identifier "PI"] := (tokenKinds_eq _).trans rfl
  have hparse : Formula.parse "PI" = .ok (.named "PI") := (Formula.parse_eq _).trans rfl
  have hdet : (copyOf rows "PI").Determined := copyOf_determined htokens (by decide)
  have hbuild := build_copyOf (x := 3.141592653589793) hdet hplan (by decide) hparse
    (fun t y => (textColumn?_of_tokenKinds htokens).trans rfl) (fun t => by
      rw [Formula.run_named_constant rfl]
      rfl)
  exact ⟨rows, _, hstart, hstop, hdet, hbuild, hparse, rfl, rfl, by decide⟩

end Report

end Logbook
