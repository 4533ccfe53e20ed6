import Logbook.Document.Report
import Logbook.Proofs.Document.Values
import Logbook.Time.ZoneTable

/-!
# Specifications as documents and back

A specification of a report is a record of records and lists, so what is known of its parts as
documents makes it up.

* `ReportSpec.Regular` — what a document can say of a specification.
* `RowPlan.readsBack`, `ColumnSpec.readsBack`, `ReportSpec.readsBack` — the records.
* `ReportSpec.ofDocument_document` — which specifications are read back, and what is known of those
  that any text gives.
-/

namespace Logbook

open Document

/-! ## Rows -/

namespace RowPlan

/-- The rows start and stop at instants that a clock can show. -/
structure Regular (r : RowPlan) : Prop where
  start : r.start.OnClock
  stop : r.stop.OnClock

theorem fields_keep :
    fields.Keep fun d => (∀ t ∈ d.start, t.OnClock) ∧ ∀ t ∈ d.stop, t.OnClock := by
  intro f hf v d d' hd h
  simp only [fields, List.mem_cons, List.not_mem_nil, or_false] at hf
  rcases hf with rfl | rfl | rfl
  · obtain ⟨t, ht, rfl⟩ := map_eq_ok_iff.1 h
    exact ⟨forall_of_once readsBack_instant.of_read ht, hd.2⟩
  · obtain ⟨t, ht, rfl⟩ := map_eq_ok_iff.1 h
    exact ⟨hd.1, forall_of_once readsBack_instant.of_read ht⟩
  · obtain ⟨p, -, rfl⟩ := map_eq_ok_iff.1 h
    exact hd

theorem readsBack : ReadsBack RowPlan.read RowPlan.json RowPlan.Regular where
  complete r := complete_object (by simp [field])
  read_write r hr := by
    have hstart := readsBack_instant.read_write r.start hr.start
    have hstop := readsBack_instant.read_write r.stop hr.stop
    have hperiod := readsBack_period.read_write r.period trivial
    simp [RowPlan.read, RowPlan.json, field, Fields.read, Fields.readMembers, RowPlan.fields,
      List.lookup, once, hstart, hstop, hperiod, Except.map]
  of_read v r h := by
    unfold RowPlan.read at h
    split at h
    · cases h
    · next start stop period hd =>
      cases h
      obtain ⟨hstart, hstop⟩ := fields_keep.read (by simp) hd
      exact ⟨hstart start rfl, hstop stop rfl⟩
    · cases h

end RowPlan

/-! ## Columns -/

namespace ColumnSpec

/-- The thresholds among the filters are numbers. -/
def Regular (c : ColumnSpec) : Prop :=
  ∀ f ∈ c.filters, f.IsChecked

theorem fields_keep :
    fields.Keep fun d => ∀ filters ∈ d.filters, ∀ f ∈ filters, f.IsChecked := by
  intro f hf v d d' hd h
  simp only [fields, List.mem_cons, List.not_mem_nil, or_false] at hf
  rcases hf with rfl | rfl | rfl
  · obtain ⟨name, -, rfl⟩ := map_eq_ok_iff.1 h
    exact hd
  · obtain ⟨formula, -, rfl⟩ := map_eq_ok_iff.1 h
    exact hd
  · obtain ⟨filters, hfilters, rfl⟩ := map_eq_ok_iff.1 h
    exact forall_of_once readsBack_filter.list.of_read hfilters

theorem readsBack : ReadsBack ColumnSpec.read ColumnSpec.json ColumnSpec.Regular where
  complete c := complete_object (by simp [field, readsBack_filter.list.complete c.filters])
  read_write c hc := by
    have hname := readsBack_text.read_write c.name trivial
    have hformula := readsBack_text.read_write c.formula trivial
    have hfilters := readsBack_filter.list.read_write c.filters hc
    simp [ColumnSpec.read, ColumnSpec.json, field, Fields.read, Fields.readMembers,
      ColumnSpec.fields, List.lookup, once, hname, hformula, hfilters, Except.map]
  of_read v c h := by
    unfold ColumnSpec.read at h
    split at h
    · cases h
    · next name formula filters hd =>
      cases h
      have hfilters := fields_keep.read (by simp) hd
      cases filters with
      | none => exact fun f hf => absurd hf List.not_mem_nil
      | some filters => exact hfilters filters rfl
    · cases h

end ColumnSpec

/-! ## Specifications -/

namespace ReportSpec

variable (zones : ZoneTable)

/-- What a document can say of a specification: instants that a clock can show, thresholds that are
numbers, and a zone that the table has under its name. -/
structure Regular (s : ReportSpec) : Prop where
  rows : s.rows.Regular
  columns : ∀ c ∈ s.columns, c.Regular
  zone : zones.find? s.zone.name = some s.zone

theorem fields_keep :
    (fields zones).Keep fun d => (∀ r ∈ d.rows, r.Regular) ∧
      (∀ columns ∈ d.columns, ∀ c ∈ columns, c.Regular) ∧
      ∀ z ∈ d.zone, zones.find? z.name = some z := by
  intro f hf v d d' hd h
  simp only [fields, List.mem_cons, List.not_mem_nil, or_false] at hf
  rcases hf with rfl | rfl | rfl
  · obtain ⟨rows, hrows, rfl⟩ := map_eq_ok_iff.1 h
    exact ⟨forall_of_once RowPlan.readsBack.of_read hrows, hd.2⟩
  · obtain ⟨columns, hcolumns, rfl⟩ := map_eq_ok_iff.1 h
    exact ⟨hd.1, forall_of_once ColumnSpec.readsBack.list.of_read hcolumns, hd.2.2⟩
  · obtain ⟨zone, hzone, rfl⟩ := map_eq_ok_iff.1 h
    exact ⟨hd.1, hd.2.1, forall_of_once (readsBack_zone zones).of_read hzone⟩

theorem readsBack : ReadsBack (ReportSpec.read zones) ReportSpec.json (Regular zones) where
  complete s := complete_object (by
    simp [field, RowPlan.readsBack.complete s.rows, ColumnSpec.readsBack.list.complete s.columns])
  read_write s hs := by
    have hrows := RowPlan.readsBack.read_write s.rows hs.rows
    have hcolumns := ColumnSpec.readsBack.list.read_write s.columns hs.columns
    have hzone := (readsBack_zone zones).read_write s.zone hs.zone
    simp [ReportSpec.read, ReportSpec.json, field, Fields.read, Fields.readMembers,
      ReportSpec.fields, List.lookup, once, hrows, hcolumns, hzone, Except.map]
  of_read v s h := by
    unfold ReportSpec.read at h
    split at h
    · cases h
    · next rows columns zone hd =>
      cases h
      obtain ⟨hrows, hcolumns, hzone⟩ := (fields_keep zones).read (by simp) hd
      refine ⟨hrows rows rfl, hcolumns columns rfl, ?_⟩
      cases zone with
      | none => exact zones.find?_utc
      | some zone => exact hzone zone rfl
    · cases h

/-- **Which specifications are read back from their documents**: the regular ones, whatever the
names, the formulas and the lists of filters, and whichever zones the table has. Every text that is
read as a specification gives a regular one: a period counts at least one unit, a rolling window has
at least two values, and a threshold is a number. -/
theorem ofDocument_document :
    (∀ s : ReportSpec, ofDocument zones s.document = .ok s ↔ s.Regular zones) ∧
    ∀ input s, ofDocument zones input = .ok s →
      s.Regular zones ∧ 1 ≤ s.rows.period.count ∧
      ∀ c ∈ s.columns, ∀ f ∈ c.filters, f.IsChecked ∧ ∀ w ∈ f.window?, 2 ≤ w.size.toNat := by
  obtain ⟨hwritten, hread⟩ := (readsBack zones).parse
  refine ⟨fun s => ⟨hread _ s, fun hs => hwritten s hs .indented⟩, ?_⟩
  intro input s h
  have hs := hread input s h
  exact ⟨hs, s.rows.period.count_pos, fun c hc f hf => ⟨hs.columns c hc f hf, fun w _ => w.two_le⟩⟩

/-- Names that have to be escaped, an infinite threshold, and rows that start within a leap second. -/
theorem ofDocument_document_leapSecond :
    ∃ s : ReportSpec, s.zone.name = "Europe/Rome" ∧ s.rows.start.utc.IsLeap ∧
      s.columns.map (·.name) = ["\"mean\"\n", ""] ∧
      s.columns.map (·.filters.length) = [0, 3] ∧
      ofDocument .listed s.document = .ok s ∧ 1 ≤ s.rows.period.count := by
  let s : ReportSpec :=
    { rows :=
        { start := ⟨⟨1483228799, 1500000000, by omega⟩, by decide⟩
          stop := ⟨⟨1483315200, 250000000, by omega⟩, by decide⟩
          period := ⟨15, .minute, by decide, by decide⟩ }
      columns := [⟨"\"mean\"\n", "room.mean", []⟩,
        ⟨"", "2 * x!", [.rollingAverage ⟨2, by decide⟩, .lag 0, .binaryThreshold (1.0 / 0.0)]⟩]
      zone := Zone.europeRome }
  have hregular : s.Regular .listed := by
    refine ⟨⟨by decide, by decide⟩, ?_, rfl⟩
    have hthreshold : (1.0 / 0.0 : Float).isNaN = false := by decide +kernel
    intro c hc f hf
    rcases List.mem_cons.1 hc with rfl | hc
    · cases hf
    · cases List.mem_singleton.1 hc
      simp only [List.mem_cons, List.not_mem_nil, or_false] at hf
      rcases hf with rfl | rfl | rfl
      · trivial
      · trivial
      · exact hthreshold
  obtain ⟨hwritten, hread⟩ := ofDocument_document .listed
  have hdocument := (hwritten s).2 hregular
  exact ⟨s, rfl, by decide, rfl, rfl, hdocument, (hread _ s hdocument).2.1⟩

end ReportSpec

end Logbook
