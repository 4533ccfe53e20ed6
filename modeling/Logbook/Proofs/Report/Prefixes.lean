import Logbook.Proofs.Report.Columns
import Logbook.Proofs.Time.Steps
import Logbook.Proofs.Time.Tiling

/-!
# The first columns of a report

Columns are computed from left to right, so a report over the first columns of a specification is
the beginning of the report over all of them.

* `firstRepeated_eq_some_iff` / `duplicateColumn_eq_none_iff` — which name of a column is refused.
* `exists_failing` — if the columns cannot be computed, the error is that of one column, and those
  before it can be computed.
* `build_firstColumns` — how the reports over the first columns go together with the whole report,
  and when a report is refused for the names of its columns.
-/

namespace Logbook

namespace ReportSpec

/-! ## Names of columns -/

theorem firstRepeated_cons (seen : List String) (first : String) (rest : List String) :
    firstRepeated seen (first :: rest) =
      if first ∈ seen then some first else firstRepeated (first :: seen) rest := by
  simp [firstRepeated]

/-- The name that is found is the first that occurs before in the list or in `seen`. -/
theorem firstRepeated_eq_some_iff {seen names : List String} {name : String} :
    firstRepeated seen names = some name ↔
      ∃ before after, names = before ++ name :: after ∧ before.Nodup ∧ (∀ n ∈ before, n ∉ seen) ∧
        (name ∈ seen ∨ name ∈ before) := by
  induction names generalizing seen with
  | nil => simp [firstRepeated]
  | cons first rest ih =>
    rw [firstRepeated_cons]
    split
    · rename_i hfirst
      constructor
      · rintro ⟨⟩
        exact ⟨[], rest, rfl, .nil, by simp, .inl hfirst⟩
      · rintro ⟨_ | ⟨b, before⟩, after, heq, -, hnew, -⟩
        · cases heq
          rfl
        · cases heq
          exact absurd hfirst (hnew first List.mem_cons_self)
    · rename_i hfirst
      rw [ih]
      constructor
      · rintro ⟨before, after, rfl, hnodup, hnew, hname⟩
        refine ⟨first :: before, after, rfl, List.nodup_cons.2 ⟨fun h => ?_, hnodup⟩, ?_, ?_⟩
        · exact hnew first h List.mem_cons_self
        · intro n hn
          rcases List.mem_cons.1 hn with rfl | hn
          · exact hfirst
          · exact fun h => hnew n hn (List.mem_cons_of_mem first h)
        · simpa only [List.mem_cons, or_assoc, or_left_comm] using hname
      · rintro ⟨_ | ⟨b, before⟩, after, heq, hnodup, hnew, hname⟩
        · cases heq
          exact absurd (hname.resolve_right (by simp)) hfirst
        · cases heq
          obtain ⟨hb, hnodup⟩ := List.nodup_cons.1 hnodup
          refine ⟨before, after, rfl, hnodup, fun n hn h => ?_, ?_⟩
          · rcases List.mem_cons.1 h with rfl | h
            · exact hb hn
            · exact hnew n (List.mem_cons_of_mem first hn) h
          · simpa only [List.mem_cons, or_assoc, or_left_comm] using hname

theorem firstRepeated_eq_none_iff {seen names : List String} :
    firstRepeated seen names = none ↔ names.Nodup ∧ ∀ n ∈ names, n ∉ seen := by
  induction names generalizing seen with
  | nil => simp [firstRepeated]
  | cons first rest ih =>
    rw [firstRepeated_cons]
    split
    · rename_i hfirst
      simp [hfirst]
    · rename_i hfirst
      rw [ih, List.nodup_cons]
      simp only [List.mem_cons, not_or, forall_eq_or_imp]
      constructor
      · rintro ⟨hnodup, hnew⟩
        exact ⟨⟨fun h => (hnew first h).1 rfl, hnodup⟩, hfirst, fun n hn => (hnew n hn).2⟩
      · rintro ⟨⟨hmem, hnodup⟩, -, hnew⟩
        exact ⟨hnodup, fun n hn => ⟨fun h => hmem (h ▸ hn), hnew n hn⟩⟩

/-- The name that is refused is the first that an earlier column has. -/
theorem duplicateColumn_eq_some_iff {spec : ReportSpec} {name : String} :
    spec.duplicateColumn = some name ↔
      ∃ before after, spec.columns.map (·.name) = before ++ name :: after ∧ before.Nodup ∧
        name ∈ before := by
  simp [duplicateColumn, firstRepeated_eq_some_iff]

theorem duplicateColumn_eq_none_iff {spec : ReportSpec} :
    spec.duplicateColumn = none ↔ (spec.columns.map (·.name)).Nodup := by
  simp [duplicateColumn, firstRepeated_eq_none_iff]

/-- The specification of the first `k` columns. -/
def firstColumns (s : ReportSpec) (k : Nat) : ReportSpec :=
  { s with columns := s.columns.take k }

theorem Determined.firstColumns {s : ReportSpec} (h : s.Determined) (k : Nat) :
    (s.firstColumns k).Determined :=
  fun c hc => h c (List.mem_of_mem_take hc)

end ReportSpec

/-- What one step covers is one row. -/
theorem Tabulator.ofPlan_of_le_step {source : Source} {rows : RowPlan} {zone : Zone} {next : Instant}
    (hlt : rows.start < rows.stop) (hstep : rows.period.step zone rows.start = .ok next)
    (hle : rows.stop ≤ next) :
    ofPlan source rows zone = .ok ⟨source, rows, zone, [⟨rows.start, rows.stop⟩]⟩ := by
  rw [ofPlan, RowPlan.buckets, Period.tiles_of_le_step hlt hstep hle]

namespace Report

variable {t : Tabulator} {computed columns : Columns} {e : ReportError}

/-! ## The first failure -/

/-- If the columns cannot be computed, the error is that of one of them, and those before it can
be. -/
theorem exists_failing {cs : List ColumnSpec} (h : cs.foldlM (extended t) computed = .error e) :
    ∃ (i : Nat) (c : ColumnSpec) (before : Columns), cs[i]? = some c ∧
      (cs.take i).foldlM (extended t) computed = .ok before ∧
      freshColumn t before c = .error e := by
  induction cs generalizing computed with
  | nil => cases h
  | cons c cs ih =>
    rw [List.foldlM_cons, bind_eq_error_iff] at h
    rcases h with hfirst | ⟨between, hfirst, hrest⟩
    · exact ⟨0, c, computed, rfl, rfl, extended_eq_error_iff.1 hfirst⟩
    · obtain ⟨i, d, before, hd, hbefore, hfail⟩ := ih hrest
      refine ⟨i + 1, d, before, hd, ?_, hfail⟩
      rw [List.take_succ_cons, List.foldlM_cons, bind_eq_ok_iff]
      exact ⟨between, hfirst, hbefore⟩

/-- A column that fails makes all lists fail that begin with it and those before it. -/
theorem foldlM_take_of_failing {cs : List ColumnSpec} {i k : Nat} {c : ColumnSpec}
    {before : Columns} (hc : cs[i]? = some c)
    (hbefore : (cs.take i).foldlM (extended t) computed = .ok before)
    (hfail : freshColumn t before c = .error e) (hk : i < k) :
    (cs.take k).foldlM (extended t) computed = .error e := by
  have hk : k = i + 1 + (k - (i + 1)) := by omega
  rw [hk, List.take_add, List.take_add_one, hc, Option.toList_some, List.append_assoc,
    List.foldlM_append, hbefore]
  exact bind_eq_error_iff.2 (.inr ⟨before, rfl,
    bind_eq_error_iff.2 (.inl (extended_eq_error_iff.2 hfail))⟩)

/-! ## Reports over the first columns -/

/-- An error of the columns is never one of their names. -/
theorem ne_duplicateColumn_of_columnsAfter {calculator : Calculator} {cs : List ColumnSpec}
    (h : columnsAfter t computed calculator cs = .error e) (name : String) :
    e ≠ .duplicateColumn name := by
  induction cs generalizing computed calculator with
  | nil => cases h
  | cons c cs ih =>
    rw [columnsAfter] at h
    split at h
    · rename_i hcolumn
      cases h
      exact (column?_of_column hcolumn).2 name
    · exact ih h

variable {source : Source} {sampler sampler' : Sampler} {spec : ReportSpec} {report : Report}

/-- A report is refused for a name exactly if that is the first name which an earlier column has. -/
theorem build_eq_duplicateColumn_iff {name : String} :
    build source sampler spec = .error (.duplicateColumn name) ↔
      spec.duplicateColumn = some name := by
  unfold build
  cases spec.duplicateColumn with
  | some other => simp
  | none =>
    dsimp only
    cases Tabulator.ofPlan source spec.rows spec.zone with
    | error e => simp
    | ok t =>
      dsimp only
      split
      · rename_i e hcolumns
        simpa using ne_duplicateColumn_of_columnsAfter hcolumns name
      · simp

theorem build_eq_ok_iff (hdet : spec.Determined) :
    build source sampler spec = .ok report ↔
      (spec.columns.map (·.name)).Nodup ∧ ∃ t, Tabulator.ofPlan source spec.rows spec.zone = .ok t ∧
        spec.columns.foldlM (extended t) [] = .ok report.columns ∧ t.starts = report.starts := by
  rw [build_eq hdet, ← ReportSpec.duplicateColumn_eq_none_iff]
  cases spec.duplicateColumn with
  | some name => simp
  | none =>
    cases Tabulator.ofPlan source spec.rows spec.zone with
    | error e => simp
    | ok t =>
      dsimp only
      rw [map_eq_ok_iff]
      obtain ⟨starts, columns⟩ := report
      simp only [mk.injEq, true_and, Except.ok.injEq, exists_eq_left']
      constructor
      · rintro ⟨_, hcolumns, hstarts, rfl⟩
        exact ⟨hcolumns, hstarts⟩
      · rintro ⟨hcolumns, hstarts⟩
        exact ⟨columns, hcolumns, hstarts, rfl⟩

theorem build_eq_error_iff (hdet : spec.Determined) (hnodup : (spec.columns.map (·.name)).Nodup) :
    build source sampler spec = .error e ↔
      (∃ cause, Tabulator.ofPlan source spec.rows spec.zone = .error cause ∧ e = .rows cause) ∨
        ∃ t, Tabulator.ofPlan source spec.rows spec.zone = .ok t ∧
          spec.columns.foldlM (extended t) [] = .error e := by
  rw [build_eq hdet, ReportSpec.duplicateColumn_eq_none_iff.2 hnodup]
  cases Tabulator.ofPlan source spec.rows spec.zone with
  | error cause => simp [eq_comm]
  | ok t => simp [map_eq_error_iff]

theorem nodup_firstColumns (hnodup : (spec.columns.map (·.name)).Nodup) (k : Nat) :
    ((spec.firstColumns k).columns.map (·.name)).Nodup := by
  unfold ReportSpec.firstColumns
  rw [List.map_take]
  exact hnodup.sublist (List.take_sublist k _)

/-- A column with the name that an error belongs to is the one that fails, if no other has its name:
those before it can be computed. -/
theorem failing_of_column (hnodup : (spec.columns.map (·.name)).Nodup)
    (hfail : spec.columns.foldlM (extended t) [] = .error e) {i : Nat} {c : ColumnSpec}
    (hc : spec.columns[i]? = some c) (hname : e.column? = some c.name) :
    ∃ before, (spec.columns.take i).foldlM (extended t) [] = .ok before ∧
      freshColumn t before c = .error e := by
  obtain ⟨j, d, before, hd, hbefore, hfresh⟩ := exists_failing hfail
  have heq : c.name = d.name := Option.some.inj (hname.symm.trans (column?_of_freshColumn hfresh))
  have hi : i < (spec.columns.map (·.name)).length := by
    rw [List.length_map]
    exact (List.getElem?_eq_some_iff.1 hc).1
  have hij : i = j := by
    refine (List.getElem?_inj hi hnodup).1 ?_
    rw [List.getElem?_map, List.getElem?_map, hc, hd, Option.map_some, Option.map_some, heq]
  subst hij
  cases hc.symm.trans hd
  exact ⟨before, hbefore, hfresh⟩

/-- **Columns are computed from left to right, and a failure is that of the first column that fails.**
A report over the first `k` columns has the first `k` columns of the whole report; if it cannot be
built, the whole report fails with the same error. If the whole report fails in a column, that over
the columns before it can be built, and every one that has the column fails with the same error. All
this holds whatever is drawn from the samplers. A report is refused for the name of a column exactly
if two columns share a name, before anything else can fail, and the name is the first which an
earlier column has. -/
theorem build_firstColumns (source : Source) (spec : ReportSpec) (sampler sampler' : Sampler) :
    (spec.Determined → (spec.columns.map (·.name)).Nodup →
      (∀ report, build source sampler spec = .ok report → ∀ k,
        build source sampler' (spec.firstColumns k) =
          .ok ⟨report.starts, report.columns.take k⟩) ∧
      (∀ k e, build source sampler' (spec.firstColumns k) = .error e →
        build source sampler spec = .error e) ∧
      ∀ e (i : Nat) c, build source sampler spec = .error e → spec.columns[i]? = some c →
        e.column? = some c.name →
        (∀ k ≤ i, ∃ report, build source sampler' (spec.firstColumns k) = .ok report) ∧
        ∀ k, i < k → build source sampler' (spec.firstColumns k) = .error e) ∧
    (∀ name, build source sampler spec = .error (.duplicateColumn name) ↔
      ∃ before after, spec.columns.map (·.name) = before ++ name :: after ∧ before.Nodup ∧
        name ∈ before) ∧
    ((∃ name, build source sampler spec = .error (.duplicateColumn name)) ↔
      ¬ (spec.columns.map (·.name)).Nodup) := by
  refine ⟨fun hdet hnodup => ⟨?_, ?_, ?_⟩, ?_, ?_⟩
  · intro report h k
    obtain ⟨-, t, hplan, hcolumns, hstarts⟩ := (build_eq_ok_iff hdet).1 h
    refine (build_eq_ok_iff (hdet.firstColumns k)).2 ?_
    exact ⟨nodup_firstColumns hnodup k, t, hplan, foldlM_take hcolumns k, hstarts⟩
  · intro k e h
    rw [build_eq_error_iff (hdet.firstColumns k) (nodup_firstColumns hnodup k)] at h
    rw [build_eq_error_iff hdet hnodup]
    refine h.imp_right ?_
    rintro ⟨t, hplan, hfail⟩
    refine ⟨t, hplan, ?_⟩
    rw [← List.take_append_drop k spec.columns, List.foldlM_append]
    exact bind_eq_error_iff.2 (.inl hfail)
  · intro e i c h hc hname
    rcases (build_eq_error_iff hdet hnodup).1 h with ⟨cause, -, rfl⟩ | ⟨t, hplan, hfail⟩
    · cases hname
    obtain ⟨before, hbefore, hfresh⟩ := failing_of_column hnodup hfail hc hname
    refine ⟨fun k hk => ?_, fun k hk => ?_⟩
    · have hfirst := foldlM_take hbefore k
      rw [List.take_take, Nat.min_eq_left hk] at hfirst
      exact ⟨⟨t.starts, before.take k⟩, (build_eq_ok_iff (hdet.firstColumns k)).2
        ⟨nodup_firstColumns hnodup k, t, hplan, hfirst, rfl⟩⟩
    · rw [build_eq_error_iff (hdet.firstColumns k) (nodup_firstColumns hnodup k)]
      exact .inr ⟨t, hplan, foldlM_take_of_failing hc hbefore hfresh hk⟩
  · intro name
    rw [build_eq_duplicateColumn_iff, ReportSpec.duplicateColumn_eq_some_iff]
  · simp only [build_eq_duplicateColumn_iff]
    rw [← ReportSpec.duplicateColumn_eq_none_iff, ← Option.isSome_iff_exists,
      Option.isSome_iff_ne_none]

/-- A column whose formula is the constant `E`, unless an earlier column of text has that name. -/
theorem freshColumn_constant {name : String} (h : textOf? t computed "E" = .ok none) :
    freshColumn t computed ⟨name, "E", []⟩ =
      .ok (.numbers (List.replicate t.rowCount 2.718281828459045)) := by
  have htokens : tokenKinds "E" = [.identifier "E"] := (tokenKinds_eq _).trans rfl
  have hparse : Formula.parse "E" = .ok (.named "E") := (Formula.parse_eq _).trans rfl
  have htext : textColumn? t computed ⟨name, "E", []⟩ = .ok none := by
    rw [textColumn?_of_tokenKinds htokens, h]
    rfl
  refine freshColumn_eq_numbers_iff.2 ⟨htext, .named "E", _, hparse, ?_, rfl⟩
  rw [Formula.run_named_constant rfl]
  rfl

/-- Three columns, the second of which has a name that stands for nothing. -/
theorem build_firstColumns_unknownName :
    ∃ spec : ReportSpec, spec.columns.map (·.formula) = ["E", "x", "A"] ∧
      spec.Determined ∧ (spec.columns.map (·.name)).Nodup ∧
      build Archive.empty.source ⟨0⟩ spec = .error (.formula "B" (.unknownVariable "x")) ∧
      (∃ report, build Archive.empty.source ⟨1⟩ (spec.firstColumns 1) = .ok report) ∧
      build Archive.empty.source ⟨1⟩ (spec.firstColumns 2) =
        .error (.formula "B" (.unknownVariable "x")) := by
  let spec : ReportSpec :=
    ⟨⟨⟨⟨0, 0, by omega⟩, by decide⟩, ⟨⟨3600, 0, by omega⟩, by decide⟩,
      ⟨1, .hour, by decide, by decide⟩⟩,
      [⟨"A", "E", []⟩, ⟨"B", "x", []⟩, ⟨"C", "A", []⟩], Zone.utc⟩
  have hnodup : (spec.columns.map (·.name)).Nodup := by decide
  let t : Tabulator :=
    ⟨Archive.empty.source, spec.rows, Zone.utc, [⟨spec.rows.start, spec.rows.stop⟩]⟩
  have hx : tokenKinds "x" = [.identifier "x"] := (tokenKinds_eq _).trans rfl
  have hdet : spec.Determined := by
    have he : tokenKinds "E" = [.identifier "E"] := (tokenKinds_eq _).trans rfl
    have ha : tokenKinds "A" = [.identifier "A"] := (tokenKinds_eq _).trans rfl
    intro c hc
    refine ColumnSpec.determined_of_tokenKinds ?_
    simp only [spec, List.mem_cons, List.not_mem_nil, or_false] at hc
    rcases hc with rfl | rfl | rfl <;> simp [he, hx, ha]
  have hplan : Tabulator.ofPlan Archive.empty.source spec.rows spec.zone = .ok t :=
    Tabulator.ofPlan_of_le_step (by decide) ((Period.step_fixed_eq_ok_iff rfl).2 ⟨rfl, rfl⟩)
      (Int.le_refl _)
  have hfirst : freshColumn t [] ⟨"A", "E", []⟩ = .ok (.numbers [2.718281828459045]) :=
    freshColumn_constant rfl
  have hsecond : freshColumn t [("A", .numbers [2.718281828459045])] ⟨"B", "x", []⟩ =
      .error (.formula "B" (.unknownVariable "x")) := by
    generalize (2.718281828459045 : Float) = x
    have hnone : textColumn? t [("A", .numbers [x])] ⟨"B", "x", []⟩ = .ok none :=
      (textColumn?_of_tokenKinds hx).trans rfl
    have hparse : Formula.parse "x" = .ok (.named "x") := (Formula.parse_eq _).trans rfl
    have hanswer : numbersOf t [("A", .numbers [x])] "x" = .ok none := rfl
    rw [freshColumn, map_column, hnone, hparse]
    dsimp only
    rw [Formula.run_named rfl, hanswer]
  have herror : build Archive.empty.source ⟨0⟩ spec =
      .error (.formula "B" (.unknownVariable "x")) := by
    refine (build_eq_error_iff hdet hnodup).2 (.inr ⟨t, hplan, ?_⟩)
    have hbefore : (spec.columns.take 1).foldlM (extended t) [] =
        .ok [("A", .numbers [2.718281828459045])] :=
      bind_eq_ok_iff.2 ⟨_, extended_eq_ok_iff.2 ⟨_, hfirst, rfl⟩, rfl⟩
    exact foldlM_take_of_failing rfl hbefore hsecond (by decide : 1 < 3)
  obtain ⟨hcolumns, -⟩ := build_firstColumns Archive.empty.source spec ⟨0⟩ ⟨1⟩
  obtain ⟨-, -, hfailure⟩ := hcolumns hdet hnodup
  obtain ⟨hbefore, hafter⟩ := hfailure _ 1 ⟨"B", "x", []⟩ herror rfl rfl
  exact ⟨spec, rfl, hdet, hnodup, herror, hbefore 1 (Nat.le_refl 1), hafter 2 (by decide)⟩

end Report

end Logbook
