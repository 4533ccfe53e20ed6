import Logbook.Proofs.Document.Reports
import Logbook.Proofs.Report.Kinds
import Logbook.Proofs.Report.Prefixes
import Logbook.Proofs.Time.ClockReads

/-!
# Reports near the ends of time

Rows, segments and reports step through time, so near the ends of the calendar they fail as their
steps do.

* `Segment.tile_eq_error_iff`, `Tabulator.ofPlan_eq_error_iff`, `Report.build_eq_rows_iff` — the errors
  of steps as errors of segments, of rows and of reports.
* `Tabulator.lookup_makes_no_step` — once the rows are laid out, no lookup fails because of a step.
* `Report.steps_overflow_iff` — all these errors are overflows exactly if the clocks can be read.
-/

namespace Logbook

/-! ## The errors of steps -/

/-- The error is that of a step. -/
def LookupError.OfStep : LookupError → Prop
  | period _ | series _ => True
  | _ => False

theorem Segment.tile_eq_error_iff {β : Type} {g : Segment β} {p : Period} {z : Zone}
    {e : SeriesError} :
    g.tile p z = .error e ↔ ∃ cause, p.tiles z g.stop g.start = .error cause ∧ e = .period cause := by
  unfold tile
  cases p.tiles z g.stop g.start with
  | ok buckets => simp
  | error cause => simp [eq_comm]

namespace Tabulator

variable {source : Source} {rows : RowPlan} {zone : Zone} {t : Tabulator}

theorem ofPlan_eq_error_iff {cause : LookupError} :
    ofPlan source rows zone = .error cause ↔
      ∃ e, rows.buckets zone = .error e ∧ cause = .period e := by
  unfold ofPlan
  cases rows.buckets zone with
  | ok buckets => simp
  | error e => simp [eq_comm]

/-- Once the rows are laid out, no lookup fails because of a step. -/
theorem lookup_makes_no_step (h : t.Planned) {name : String} {e : LookupError}
    (he : t.numeric name = .error e ∨ t.text name = .error e) : ¬ e.OfStep := by
  have houtcomes := outcomes h name
  generalize t.numeric name = numbers at he houtcomes
  generalize t.text name = texts at he houtcomes
  cases houtcomes with
  | numbers xs _ =>
    cases he with
    | inl he => cases he
    | inr he =>
      cases he
      exact id
  | texts ss _ =>
    cases he with
    | inl he =>
      cases he
      exact id
    | inr he => cases he
  | neither hunresolved =>
    obtain ⟨⟨⟩⟩ | ⟨⟨⟩⟩ := he
    all_goals cases hunresolved <;> exact id

end Tabulator

namespace Report

variable {source : Source} {sampler : Sampler} {spec : ReportSpec}

/-- An error of the columns belongs to one of them. -/
theorem column?_of_columnsAfter {t : Tabulator} {computed : Columns} {calculator : Calculator}
    {cs : List ColumnSpec} {e : ReportError} (h : columnsAfter t computed calculator cs = .error e) :
    ∃ c ∈ cs, e.column? = some c.name := by
  induction cs generalizing computed calculator with
  | nil => cases h
  | cons c cs ih =>
    rw [columnsAfter] at h
    split at h
    · rename_i hcolumn
      cases h
      exact ⟨c, List.mem_cons_self, (column?_of_column hcolumn).1⟩
    · obtain ⟨d, hd, hname⟩ := ih h
      exact ⟨d, List.mem_cons_of_mem c hd, hname⟩

/-- A report fails for its rows exactly if its columns have different names and the rows cannot be
laid out. -/
theorem build_eq_rows_iff {cause : LookupError} :
    build source sampler spec = .error (.rows cause) ↔
      (spec.columns.map (·.name)).Nodup ∧
        Tabulator.ofPlan source spec.rows spec.zone = .error cause := by
  rw [← ReportSpec.duplicateColumn_eq_none_iff]
  unfold build
  cases spec.duplicateColumn with
  | some name => simp
  | none =>
    dsimp only
    cases Tabulator.ofPlan source spec.rows spec.zone with
    | error e => simp
    | ok t =>
      dsimp only
      split
      · rename_i e hcolumns
        obtain ⟨c, -, hname⟩ := column?_of_columnsAfter hcolumns
        simp only [Except.error.injEq, reduceCtorEq, and_false, iff_false]
        rintro rfl
        cases hname
      · simp

/-- **Near the ends of time, steps overflow where clocks can be read.** The errors of a step, of the
walks over the starts and the buckets of rows and over the tiles of a segment, and of a report for its
rows, are overflows of steps that they make, exactly if the calendar covers all that the clocks show
which these steps read. Once its rows are laid out, a report does not fail because of a step. The
clocks can be read for all periods of fixed length, in UTC, and from a day inside the calendar if the
target of the step is no gap or lies two days inside. -/
theorem steps_overflow_iff (p : Period) (z : Zone) :
    (∀ t, (∀ e, p.step z t = .error e → e = .overflow p t) ↔ p.Readable z t) ∧
    (∀ start stop,
      ((∀ e, RowPlan.starts ⟨start, stop, p⟩ z = .error e →
          ∃ t, p.Reaches z start t ∧ t < stop ∧ e = .overflow p t) ↔ p.WalkReadable z start stop) ∧
      ((∀ e, RowPlan.buckets ⟨start, stop, p⟩ z = .error e →
          ∃ t, p.Reaches z start t ∧ t < stop ∧ e = .overflow p t) ↔ p.WalkReadable z start stop)) ∧
    (∀ (β : Type) (g : Segment β),
      (∀ e, g.tile p z = .error e →
          ∃ t, p.Reaches z g.start t ∧ t < g.stop ∧ e = .period (.overflow p t)) ↔
        p.WalkReadable z g.start g.stop) ∧
    (∀ source sampler start stop columns,
      (∀ cause, build source sampler ⟨⟨start, stop, p⟩, columns, z⟩ = .error (.rows cause) →
          ∃ t, p.Reaches z start t ∧ t < stop ∧ cause = .period (.overflow p t)) ↔
        ((columns.map (·.name)).Nodup → p.WalkReadable z start stop)) ∧
    (∀ source start stop t, Tabulator.ofPlan source ⟨start, stop, p⟩ z = .ok t →
      ∀ name e, t.numeric name = .error e ∨ t.text name = .error e → ¬ e.OfStep) ∧
    ∀ t, p.isCalendar = false ∨ (∀ s, z.offsetAt s = 0) ∨
        t.utc.DaysInside 1 ∧
          ((p.target z t).DaysInside 2 ∨ ∃ s, z.wallSecond s = (p.target z t).seconds) →
      p.Readable z t := by
  refine ⟨fun t => Period.readable_iff.symm, fun start stop => ⟨?_, ?_⟩, fun β g => ?_, ?_, ?_, ?_⟩
  · rw [Period.walkReadable_iff]
    simp only [RowPlan.starts_eq_map_buckets, map_eq_error_iff]
    rfl
  · exact Period.walkReadable_iff.symm
  · rw [Period.walkReadable_iff]
    simp only [Segment.tile_eq_error_iff]
    constructor
    · intro h e herror
      obtain ⟨t, hreach, ht, ⟨⟩⟩ := h _ ⟨e, herror, rfl⟩
      exact ⟨t, hreach, ht, rfl⟩
    · rintro h _ ⟨cause, herror, rfl⟩
      obtain ⟨t, hreach, ht, rfl⟩ := h cause herror
      exact ⟨t, hreach, ht, rfl⟩
  · intro source sampler start stop columns
    simp only [build_eq_rows_iff, Tabulator.ofPlan_eq_error_iff, Period.walkReadable_iff]
    constructor
    · intro h hnodup e herror
      obtain ⟨t, hreach, ht, ⟨⟩⟩ := h _ ⟨hnodup, e, herror, rfl⟩
      exact ⟨t, hreach, ht, rfl⟩
    · rintro h _ ⟨hnodup, e, herror, rfl⟩
      obtain ⟨t, hreach, ht, rfl⟩ := h hnodup e herror
      exact ⟨t, hreach, ht, rfl⟩
  · intro source start stop t hplan name e
    exact Tabulator.lookup_makes_no_step (Tabulator.planned_of_ofPlan hplan)
  · rintro t (hfixed | hutc | ⟨ht, htarget⟩)
    · exact Period.readable_of_fixed hfixed
    · exact Period.readable_of_utc hutc
    · exact Period.readable_of_daysInside ht htarget

/-- A month from the last second of the calendar, on clocks in Rome: a report over that second reads
back from its document, and the clock is off the calendar at the start of its only row. -/
theorem step_offCalendar :
    ∃ (z : Zone) (p : Period) (t : Instant) (spec : ReportSpec),
      ZoneTable.listed.find? "Europe/Rome" = some z ∧ p.text = "1M" ∧
      t.utc.seconds = LocalTime.lastSecond ∧
      p.step z t = .error (.wallTimeOutOfRange t) ∧ p.step z t ≠ .error (.overflow p t) ∧
      ReportSpec.ofDocument .listed spec.document = .ok spec ∧ spec.zone = z ∧ spec.rows.start = t ∧
      spec.rows.period = p ∧
      build Archive.empty.source ⟨0⟩ spec =
        .error (.rows (.period (.wallTimeOutOfRange t))) := by
  let t : Instant := ⟨⟨LocalTime.lastSecond, 0, by omega⟩, by decide⟩
  let stop : Instant := ⟨⟨LocalTime.lastSecond, 500000000, by omega⟩, by decide⟩
  let p : Period := ⟨1, .month, by decide, by decide⟩
  let spec : ReportSpec := ⟨⟨t, stop, p⟩, [], Zone.europeRome⟩
  have hoff : ¬ (Zone.europeRome.wallTime t).InRange := by decide +kernel
  have hstep : p.step Zone.europeRome t = .error (.wallTimeOutOfRange t) :=
    Period.step_eq_wallTimeOutOfRange_iff.2 ⟨.start rfl (by decide), hoff⟩
  have hregular : spec.Regular .listed :=
    ⟨⟨by decide, by decide⟩, by simp [spec], rfl⟩
  have hbuckets : spec.rows.buckets spec.zone = .error (.wallTimeOutOfRange t) :=
    Period.tiles_of_error (by decide) hstep
  have hbuild : build Archive.empty.source ⟨0⟩ spec =
      .error (.rows (.period (.wallTimeOutOfRange t))) :=
    build_eq_rows_iff.2 ⟨by simp [spec], Tabulator.ofPlan_eq_error_iff.2 ⟨_, hbuckets, rfl⟩⟩
  have hrome : ZoneTable.listed.find? "Europe/Rome" = some Zone.europeRome := rfl
  exact ⟨Zone.europeRome, p, t, spec, hrome, by cbv, rfl, hstep, by rw [hstep]; simp,
    (ReportSpec.readsBack .listed).parse.1 spec hregular .indented, rfl, rfl, rfl, hbuild⟩

end Report

end Logbook
