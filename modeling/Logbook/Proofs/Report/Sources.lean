import Logbook.Proofs.Report.Columns
import Logbook.Proofs.Report.Rows

/-!
# What a report reads of its source

A report asks its source for the histories that its formulas name, for the time of its rows, and an
archive answers such a query with the readings of that time.

* `Archive.AgreesOn` — two archives lack a tag, or have the same readings of it in a stretch of time.
* `query_congr` — archives that agree on a tag answer a query for it alike, whatever bounds their
  series declare.
* `build_congr` — a report is the same over two sources that answer alike for the tags it names.
* `build_eq_of_agreesOn` — a report is the same over two archives that agree on the tags it names in
  the time of its rows.
-/

namespace Logbook

/-! ## Archives that agree -/

/-- The histories are of one kind and have the same readings in the bucket. -/
def History.AgreesIn (b : Bucket) : History → History → Prop
  | .numeric s, .numeric s' => b.select s.readings.toList = b.select s'.readings.toList
  | .categorical s, .categorical s' => b.select s.readings.toList = b.select s'.readings.toList
  | _, _ => False

/-- Both archives lack the tag, or both have a history of it and these agree in the bucket. -/
def Archive.AgreesOn (a a' : Archive) (tag : String) (b : Bucket) : Prop :=
  match a.get? tag, a'.get? tag with
  | none, none => True
  | some h, some h' => h.AgreesIn b h'
  | _, _ => False

theorem History.AgreesIn.refl (b : Bucket) (h : History) : h.AgreesIn b h := by
  cases h <;> rfl

/-- A history under a tag makes no difference to the other tags, and none to its own if it agrees
with the one that was there. -/
theorem Archive.agreesOn_insert {a : Archive} {tag other : String} {h : History} {b : Bucket}
    (hold : other = tag → ∃ old, a.get? tag = some old ∧ old.AgreesIn b h) :
    a.AgreesOn (a.insert tag h) other b := by
  unfold AgreesOn
  by_cases heq : other = tag
  · obtain ⟨old, hget, hagree⟩ := hold heq
    rw [heq, hget, get?_insert_self]
    exact hagree
  · rw [get?_insert_of_ne a h (Ne.symm heq)]
    cases a.get? other with
    | none => trivial
    | some old => exact .refl b old

variable {β : Type}

/-- What is selected from the time between two bounds is the same if the stop is moved to the start
where it lies before it. -/
theorem Bucket.select_later (start stop : Instant) (rs : List (Reading β)) :
    Bucket.select ⟨start, start.later stop⟩ rs = Bucket.select ⟨start, stop⟩ rs := by
  refine List.filter_congr fun r _ => decide_eq_decide.2 ?_
  simp only [Bucket.covers_iff, Instant.rank_later]
  omega

/-- A slice is made of the readings between its bounds and of nothing else. -/
theorem Series.slice_congr {s s' : Series β} {start stop : Instant}
    (h : Bucket.select ⟨start, stop⟩ s.readings.toList =
      Bucket.select ⟨start, stop⟩ s'.readings.toList) :
    s.slice start (start.later stop) = s'.slice start (start.later stop) := by
  have hselect : ∀ s : Series β, (s.readings.toList.filter fun r =>
      start ≤ r.instant && decide (r.instant < start.later stop)) =
        Bucket.select ⟨start, stop⟩ s.readings.toList := by
    intro s
    rw [← Bucket.select_later]
    exact List.filter_congr fun r _ => (Bool.decide_and _ _).symm
  unfold slice
  rw [hselect, hselect, h]

theorem History.slice_congr {h h' : History} {start stop : Instant}
    (hagree : h.AgreesIn ⟨start, stop⟩ h') :
    h.slice start (start.later stop) = h'.slice start (start.later stop) := by
  unfold AgreesIn at hagree
  split at hagree
  · exact congrArg (·.map numeric) (Series.slice_congr hagree)
  · exact congrArg (·.map categorical) (Series.slice_congr hagree)
  · exact hagree.elim

/-- Archives that agree on a tag answer a query for it alike. -/
theorem Archive.query_congr {a a' : Archive} {tag : String} {start stop : Instant}
    (h : a.AgreesOn a' tag ⟨start, stop⟩) : a.query tag start stop = a'.query tag start stop := by
  unfold AgreesOn at h
  unfold query
  split at h
  · rename_i hget hget'
    rw [hget, hget']
  · rename_i hget hget'
    rw [hget, hget']
    dsimp only
    rw [History.slice_congr h]
  · exact h.elim

/-! ## Tabulators over sources that answer alike -/

namespace Tabulator

/-- The same rows over another source. -/
def withSource (t : Tabulator) (source : Source) : Tabulator :=
  { t with source := source }

variable {t : Tabulator} {source source' : Source}

theorem ofPlan_withSource (source source' : Source) (rows : RowPlan) (zone : Zone) :
    ofPlan source' rows zone = (ofPlan source rows zone).map (·.withSource source') := by
  unfold ofPlan
  cases rows.buckets zone <;> rfl

theorem history_congr {tag : String}
    (h : t.source.query tag t.rows.start t.rows.stop = source.query tag t.rows.start t.rows.stop) :
    (t.withSource source).history tag = t.history tag := by
  unfold history
  rw [h]
  rfl

/-- The numbers and the text of a name hang on the answer for its tag. -/
theorem named_congr {name : String}
    (h : ∀ r, Reference.ofName? name = some r →
      t.source.query r.tag t.rows.start t.rows.stop =
        source.query r.tag t.rows.start t.rows.stop) :
    t.numeric name = (t.withSource source).numeric name ∧
      t.text name = (t.withSource source).text name := by
  unfold numeric text
  cases hname : Reference.ofName? name with
  | none => exact ⟨rfl, rfl⟩
  | some r =>
    have hhistory := history_congr (h r hname)
    have hnumeric : (t.withSource source).numericField name r = t.numericField name r := by
      unfold numericField
      rw [hhistory]
      rfl
    have htext : (t.withSource source).textField name r = t.textField name r := by
      unfold textField
      rw [hhistory]
      rfl
    dsimp only
    rw [hnumeric, htext]
    exact ⟨rfl, rfl⟩

end Tabulator

/-! ## Reports -/

namespace ReportSpec

/-- The formulas of the report name the tag: one of their tokens is a name that refers to it. -/
def Names (s : ReportSpec) (tag : String) : Prop :=
  ∃ c ∈ s.columns, ∃ name, .identifier name ∈ tokenKinds c.formula ∧
    ∃ r, Reference.ofName? name = some r ∧ r.tag = tag

end ReportSpec

namespace Report

variable {spec : ReportSpec} {source source' : Source}

/-- A report is the same over sources that answer alike for the tags it names. -/
theorem build_congr (hdet : spec.Determined)
    (h : ∀ tag, spec.Names tag → source.query tag spec.rows.start spec.rows.stop =
      source'.query tag spec.rows.start spec.rows.stop) (sampler sampler' : Sampler) :
    build source sampler spec = build source' sampler' spec := by
  rw [build_eq hdet, build_eq hdet, Tabulator.ofPlan_withSource source source']
  cases spec.duplicateColumn with
  | some name => rfl
  | none =>
    cases hplan : Tabulator.ofPlan source spec.rows spec.zone with
    | error e => rfl
    | ok t =>
      obtain ⟨-, rfl, hrows, -⟩ := Tabulator.ofPlan_eq_ok_iff.1 hplan
      have hagree : ∀ c ∈ spec.columns, t.AgreesOn (t.withSource source') c.formula := by
        intro c hc name hname
        refine Tabulator.named_congr fun r hr => ?_
        rw [hrows]
        exact h r.tag ⟨c, hc, name, hname, r, hr, rfl⟩
      dsimp only [Except.map]
      rw [foldlM_extended_congr hdet hagree rfl]
      rfl

/-- **A report reads only what it names, and only in the time of its rows.** Over two archives that
lack the same of the tags it names, and have the others with the same readings in that time, it is
the same report or the same error. So a history that is put into an archive changes nothing if its
tag is not named, or if it has the kind and the readings in that time of the one it replaces. -/
theorem build_eq_of_agreesOn (hdet : spec.Determined) (sampler sampler' : Sampler) :
    (∀ a a' : Archive,
      (∀ tag, spec.Names tag → a.AgreesOn a' tag ⟨spec.rows.start, spec.rows.stop⟩) →
      build a.source sampler spec = build a'.source sampler' spec) ∧
    ∀ (a : Archive) (tag : String) (h : History),
      (spec.Names tag → ∃ old, a.get? tag = some old ∧
        old.AgreesIn ⟨spec.rows.start, spec.rows.stop⟩ h) →
      build a.source sampler spec = build (a.insert tag h).source sampler' spec := by
  have hagree : ∀ a a' : Archive,
      (∀ tag, spec.Names tag → a.AgreesOn a' tag ⟨spec.rows.start, spec.rows.stop⟩) →
      build a.source sampler spec = build a'.source sampler' spec := fun a a' h =>
    build_congr hdet (fun tag htag => Archive.query_congr (h tag htag)) sampler sampler'
  refine ⟨hagree, fun a tag h hold => hagree _ _ fun other hother => ?_⟩
  exact Archive.agreesOn_insert fun heq => hold (heq ▸ hother)

/-- The mean of a room, over an archive that has more readings of it outside of the hour of the
report, declares other bounds for them and knows a second room. -/
theorem build_eq_of_agreesOn_rooms :
    ∃ (s s' : Series Float) (a a' : Archive) (spec : ReportSpec),
      a.get? "room" = some (.numeric s) ∧ a'.get? "room" = some (.numeric s') ∧
      a.get? "hall" = none ∧ a'.get? "hall" = some (.numeric s) ∧
      s.readings.toList.map (·.instant.utc.seconds) = [0, 1800] ∧
      s'.readings.toList.map (·.instant.utc.seconds) = [0, 1800, 3600, 5400] ∧
      s.stop < s'.start ∧ spec.columns.map (·.formula) = ["room.mean"] ∧ spec.Determined ∧
      spec.Names "room" ∧
      (∀ tag, spec.Names tag → a.AgreesOn a' tag ⟨spec.rows.start, spec.rows.stop⟩) ∧
      build a.source ⟨0⟩ spec = build a'.source ⟨1⟩ spec ∧
      build a.source ⟨0⟩ spec = build (a.insert "room" (.numeric s')).source ⟨1⟩ spec := by
  let s : Series Float :=
    { start := ⟨⟨0, 0, by omega⟩, by decide⟩
      stop := ⟨⟨600, 0, by omega⟩, by decide⟩
      readings := #[⟨1, ⟨⟨0, 0, by omega⟩, by decide⟩, 1.0⟩,
        ⟨1, ⟨⟨1800, 0, by omega⟩, by decide⟩, 2.0⟩]
      start_le := by decide
      inOrder := by unfold Reading.InOrder; decide }
  let s' : Series Float :=
    { start := ⟨⟨5400, 0, by omega⟩, by decide⟩
      stop := ⟨⟨7200, 0, by omega⟩, by decide⟩
      readings := #[⟨1, ⟨⟨0, 0, by omega⟩, by decide⟩, 1.0⟩,
        ⟨1, ⟨⟨1800, 0, by omega⟩, by decide⟩, 2.0⟩,
        ⟨1, ⟨⟨3600, 0, by omega⟩, by decide⟩, 3.0⟩,
        ⟨1, ⟨⟨5400, 0, by omega⟩, by decide⟩, 4.0⟩]
      start_le := by decide
      inOrder := by unfold Reading.InOrder; decide }
  let a := Archive.empty.insert "room" (.numeric s)
  let a' := (Archive.empty.insert "room" (.numeric s')).insert "hall" (.numeric s)
  let spec : ReportSpec :=
    ⟨⟨⟨⟨0, 0, by omega⟩, by decide⟩, ⟨⟨3600, 0, by omega⟩, by decide⟩,
      ⟨1, .hour, by decide, by decide⟩⟩, [⟨"Mean", "room.mean", []⟩], Zone.utc⟩
  have htokens : tokenKinds "room.mean" = [.identifier "room.mean"] := (tokenKinds_eq _).trans rfl
  have hname : Reference.ofName? "room.mean" = some ⟨"room", "mean"⟩ := by decide +kernel
  have hdet : spec.Determined := by
    intro c hc
    cases List.mem_singleton.1 hc
    refine ColumnSpec.determined_of_tokenKinds ?_
    rw [htokens]
    simp
  have hnames : ∀ tag, spec.Names tag → tag = "room" := by
    rintro tag ⟨c, hc, name, hmem, r, hr, rfl⟩
    cases List.mem_singleton.1 hc
    rw [htokens] at hmem
    cases List.mem_singleton.1 hmem
    rw [hname] at hr
    cases hr
    rfl
  have hroom : a.get? "room" = some (.numeric s) := Archive.get?_insert_self _ _ _
  have hroom' : a'.get? "room" = some (.numeric s') :=
    (Archive.get?_insert_of_ne _ _ (by decide)).trans (Archive.get?_insert_self _ _ _)
  have hhall : a.get? "hall" = none :=
    (Archive.get?_insert_of_ne _ _ (by decide)).trans (Archive.get?_empty _)
  have hagree : ∀ tag, spec.Names tag →
      a.AgreesOn a' tag ⟨spec.rows.start, spec.rows.stop⟩ := by
    intro tag htag
    rw [hnames tag htag, Archive.AgreesOn, hroom, hroom']
    rfl
  have hold : spec.Names "room" → ∃ old, a.get? "room" = some old ∧
      old.AgreesIn ⟨spec.rows.start, spec.rows.stop⟩ (.numeric s') :=
    fun _ => ⟨_, hroom, rfl⟩
  obtain ⟨hsame, hreplaced⟩ := build_eq_of_agreesOn hdet ⟨0⟩ ⟨1⟩
  exact ⟨s, s', a, a', spec, hroom, hroom', hhall, Archive.get?_insert_self _ _ _, rfl, rfl,
    by decide, rfl, hdet, ⟨_, List.mem_singleton_self _, "room.mean", by simp [htokens],
      _, hname, rfl⟩, hagree, hsame a a' hagree, hreplaced a "room" (.numeric s') hold⟩

end Report

end Logbook
