import Logbook.Proofs.Series.Building
import Logbook.Proofs.Series.Nesting
import Logbook.Report.Tabulator

/-!
# The readings of each row

A tabulator looks at a series in one of two ways: it cuts a series with the bounds of the rows at
every period, and any other through one window for each row.

* `Series.readingsIn` — the readings within the bounds of a series that lie in a row.
* `Tabulator.segments_eq_windows` — both ways come to the same segments, and neither can fail.
* `Tabulator.readings_windows` — the readings of these segments, one list for each row.
* `Series.slice_eq_ok` — what an archive answers has the bounds asked for and the readings between.
* `tabulated_readings` — numbers and text are those of the readings in each row, and over an archive
  every stored reading of the time of the rows counts in exactly one row.
-/

namespace Logbook

variable {β : Type}

/-- The readings within the bounds of the series that lie in the bucket, in their order. -/
def Series.readingsIn (s : Series β) (b : Bucket) : List (Reading β) :=
  s.readings.toList.filter fun r =>
    decide ((b.start ≤ r.instant ∧ r.instant < b.stop) ∧ s.start ≤ r.instant ∧ r.instant < s.stop)

/-! ## Windows -/

/-- A window onto a bucket shows the readings within the bounds that lie in it. -/
theorem Series.readings_window (s : Series β) (b : Bucket) :
    (s.window b.start b.stop).readings = s.readingsIn b := by
  rw [Segment.readings_eq_select]
  refine List.filter_congr fun r _ => decide_eq_decide.2 ?_
  have hbounds := s.start_le
  have hstart := s.rank_start_window b.start b.stop
  have hstop := s.rank_stop_window b.start b.stop
  rw [Bucket.covers_iff]
  simp only [Segment.span, Instant.le_def, Instant.lt_def] at hbounds ⊢
  omega

/-- A window within the bounds of its series is not moved. -/
theorem Series.window_of_within {s : Series β} {start stop : Instant} (h₁ : s.start ≤ start)
    (h₂ : start ≤ stop) (h₃ : stop ≤ s.stop) : s.window start stop = ⟨s, start, stop⟩ := by
  have hstart := s.rank_start_window start stop
  have hstop := s.rank_stop_window start stop
  rw [Instant.le_def] at h₁ h₂ h₃
  have hstart : (s.window start stop).start = start := Instant.eq_of_rank_eq (by omega)
  have hstop : (s.window start stop).stop = stop := Instant.eq_of_rank_eq (by omega)
  show (⟨s, (s.window start stop).start, (s.window start stop).stop⟩ : Segment β) = _
  rw [hstart, hstop]

namespace Tabulator

variable {source : Source} {rows : RowPlan} {zone : Zone} {t : Tabulator}

/-- A tabulator is there iff the rows can be laid out, and keeps what it was made of. -/
theorem ofPlan_eq_ok_iff :
    ofPlan source rows zone = .ok t ↔
      rows.buckets zone = .ok t.buckets ∧ t.source = source ∧ t.rows = rows ∧ t.zone = zone := by
  unfold ofPlan
  cases rows.buckets zone with
  | error e => simp
  | ok buckets =>
    cases t
    simp only [Except.ok.injEq, mk.injEq]
    constructor
    · rintro ⟨rfl, rfl, rfl, rfl⟩
      exact ⟨rfl, rfl, rfl, rfl⟩
    · rintro ⟨rfl, rfl, rfl, rfl⟩
      exact ⟨rfl, rfl, rfl, rfl⟩

/-- The buckets are those of the rows. -/
def Planned (t : Tabulator) : Prop :=
  t.rows.buckets t.zone = .ok t.buckets

theorem planned_of_ofPlan (h : ofPlan source rows zone = .ok t) : t.Planned := by
  obtain ⟨hbuckets, -, rfl, rfl⟩ := ofPlan_eq_ok_iff.1 h
  exact hbuckets

/-- The rows tile their time, if it does not stop before it starts. -/
theorem Planned.tiles (h : t.Planned) (hle : t.rows.start ≤ t.rows.stop) :
    Bucket.Tiles t.rows.start t.buckets t.rows.stop :=
  (Period.tiles_tiles h hle).1

theorem Planned.buckets_of_lt (h : t.Planned) (hlt : t.rows.stop < t.rows.start) :
    t.buckets = [] := by
  have hnil := Period.tiles_of_le (p := t.rows.period) (z := t.zone) (Int.le_of_lt hlt)
  exact Except.ok.inj (h.symm.trans hnil)

/-- Cutting a series at every period and looking at it through one window for each row come to the
same segments, so the segments are always found. -/
theorem segments_eq_windows (h : t.Planned) (s : Series β) :
    t.segments s = .ok (t.windows s) := by
  unfold segments
  split
  · rename_i hbounds
    obtain ⟨hstart, hstop⟩ := hbounds
    have hbuckets : t.rows.period.tiles t.zone s.stop s.start = .ok t.buckets := by
      rw [hstart, hstop]
      exact h
    have htiles := (Period.tiles_tiles hbuckets s.start_le).1
    have hwindows : t.windows s = t.buckets.map fun b => ⟨s, b.start, b.stop⟩ := by
      refine List.map_congr_left fun b hb => ?_
      obtain ⟨h₁, h₂, h₃⟩ := htiles.within b hb
      exact Series.window_of_within h₁ h₂ h₃
    have htile : s.withinBounds.tile t.rows.period t.zone =
        .ok (t.buckets.map fun b => ⟨s, b.start, b.stop⟩) := by
      unfold Segment.tile Series.withinBounds
      rw [hbuckets]
    rw [htile, hwindows]
    simp
  · rfl

theorem readings_windows (t : Tabulator) (s : Series β) :
    (t.windows s).map (·.readings) = t.buckets.map s.readingsIn := by
  rw [windows, List.map_map]
  exact List.map_congr_left fun b _ => s.readings_window b

/-! ## Values of rows -/

/-- The numbers of a name whose field is an aggregate: that of `content b` for each bucket `b`. -/
def ReducesNumbers (t : Tabulator) (name field : String)
    (content : Bucket → List (Reading Float)) : Prop :=
  ∀ a, NumericAggregate.ofName? field = some a →
    t.numeric name = .ok (t.buckets.map fun b => a.ofReadings (content b))

/-- The numbers of a name whose field is an aggregate of categories, or its text if it is the most
frequent one: that of `content b` for each bucket `b`. -/
def ReducesCategories (t : Tabulator) (name field : String)
    (content : Bucket → List (Reading String)) : Prop :=
  ∀ a, CategoryAggregate.ofName? field = some a →
    (a.isText = false → t.numeric name = .ok (t.buckets.map fun b =>
      a.ofTable (FrequencyTable.ofValues ((content b).map (·.value))))) ∧
    (a.isText = true → t.text name = .ok (t.buckets.map fun b =>
      (FrequencyTable.ofValues ((content b).map (·.value))).modeText))

/-- What is computed from the readings of each segment is computed from those of each row. -/
theorem map_segments (h : t.Planned) {γ : Type} (f : List (Reading β) → γ) (s : Series β) :
    ((t.segments s).map fun segments => segments.map fun g => f g.readings) =
      .ok (t.buckets.map fun b => f (s.readingsIn b)) := by
  rw [segments_eq_windows h]
  have hmap := congrArg (List.map f) (t.readings_windows s)
  rw [List.map_map, List.map_map] at hmap
  exact congrArg Except.ok hmap

theorem aggregates_eq (h : t.Planned) (a : NumericAggregate) (s : Series Float) :
    t.aggregates a s = .ok (t.buckets.map fun b => a.ofReadings (s.readingsIn b)) :=
  map_segments h a.ofReadings s

theorem categoryAggregates_eq (h : t.Planned) (a : CategoryAggregate) (s : Series String) :
    t.categoryAggregates a s = .ok (t.buckets.map fun b =>
      a.ofTable (FrequencyTable.ofValues ((s.readingsIn b).map (·.value)))) :=
  map_segments h (fun readings : List (Reading String) =>
    (a.ofTable (FrequencyTable.ofValues (readings.map Reading.value)) : Float)) s

theorem modes_eq (h : t.Planned) (s : Series String) :
    t.modes s = .ok (t.buckets.map fun b =>
      (FrequencyTable.ofValues ((s.readingsIn b).map (·.value))).modeText) :=
  map_segments h (fun readings : List (Reading String) =>
    (FrequencyTable.ofValues (readings.map Reading.value)).modeText) s

/-- The name refers to a field of a history, not to the start of a row. -/
def OfHistory (name : String) (r : Reference) : Prop :=
  Reference.ofName? name = some r ∧
    (r.isTime = true → CalendarField.ofName? r.field = none ∧ RowLabel.ofName? r.field = none)

theorem numeric_of_history {name : String} {r : Reference} (h : OfHistory name r) :
    t.numeric name = t.numericField name r := by
  obtain ⟨hname, htime⟩ := h
  unfold numeric
  rw [hname]
  dsimp only
  split
  · rename_i hr
    obtain ⟨hfield, hlabel⟩ := htime hr
    rw [hfield, hlabel]
  · rfl

theorem text_of_history {name : String} {r : Reference} (h : OfHistory name r) :
    t.text name = t.textField name r := by
  obtain ⟨hname, htime⟩ := h
  unfold text
  rw [hname]
  dsimp only
  split
  · rename_i hr
    obtain ⟨hfield, hlabel⟩ := htime hr
    rw [hfield, hlabel]
  · rfl

theorem reducesNumbers_of_query (h : t.Planned) {name : String} {r : Reference}
    (hname : OfHistory name r) {s : Series Float}
    (hs : t.source.query r.tag t.rows.start t.rows.stop = .ok (some (.numeric s))) :
    t.ReducesNumbers name r.field s.readingsIn := by
  intro a ha
  rw [numeric_of_history hname, numericField, history, hs]
  dsimp only
  rw [ha]
  exact aggregates_eq h a s

theorem reducesCategories_of_query (h : t.Planned) {name : String} {r : Reference}
    (hname : OfHistory name r) {s : Series String}
    (hs : t.source.query r.tag t.rows.start t.rows.stop = .ok (some (.categorical s))) :
    t.ReducesCategories name r.field s.readingsIn := by
  intro a ha
  refine ⟨?_, ?_⟩
  · intro hnumber
    rw [numeric_of_history hname, numericField, history, hs]
    dsimp only
    rw [ha]
    dsimp only
    rw [hnumber]
    exact categoryAggregates_eq h a s
  · intro htext
    rw [text_of_history hname, textField, history, hs]
    dsimp only
    rw [ha]
    dsimp only
    rw [htext]
    exact modes_eq h s

end Tabulator

/-! ## Archives -/

/-- A slice is always found: it has the bounds asked for and the readings between them. -/
theorem Series.slice_eq_ok (s : Series β) {start stop : Instant} (hle : start ≤ stop) :
    ∃ s', s.slice start stop = .ok s' ∧ s'.start = start ∧ s'.stop = stop ∧
      s'.readings.toList = Bucket.select ⟨start, stop⟩ s.readings.toList := by
  have hselect : (s.readings.toList.filter fun r =>
      start ≤ r.instant && decide (r.instant < stop)) =
        Bucket.select ⟨start, stop⟩ s.readings.toList :=
    List.filter_congr fun r _ => (Bool.decide_and _ _).symm
  have horder : Reading.InOrder (Bucket.select ⟨start, stop⟩ s.readings.toList) :=
    List.Pairwise.filter _ s.inOrder
  rw [slice, hselect]
  exact ⟨⟨start, stop, (Bucket.select ⟨start, stop⟩ s.readings.toList).toArray, hle, horder⟩,
    ofReadings_eq_ok_iff.2 ⟨hle, horder, rfl, rfl, rfl⟩, rfl, rfl, rfl⟩

/-- Within the bounds of a slice, it has the readings of the series. -/
theorem Series.readingsIn_of_slice {s s' : Series β} {b : Bucket}
    (hs' : s'.readings.toList = Bucket.select ⟨s'.start, s'.stop⟩ s.readings.toList)
    (hstart : s'.start ≤ b.start) (hstop : b.stop ≤ s'.stop) :
    s'.readingsIn b = b.select s.readings.toList := by
  rw [readingsIn, hs', Bucket.select, Bucket.select, List.filter_filter]
  refine List.filter_congr fun r _ => ?_
  rw [Instant.le_def] at hstart hstop
  simp only [Bucket.covers_iff, Instant.le_def, Instant.lt_def]
  rw [← Bool.decide_and]
  exact decide_eq_decide.2 (by omega)

/-- Between bounds that are never the wrong way round, a slice is always found. -/
theorem Series.slice_later (s : Series β) (start stop : Instant) :
    ∃ s', s.slice start (start.later stop) = .ok s' ∧ s'.start = start ∧
      s'.stop = start.later stop ∧
      s'.readings.toList = Bucket.select ⟨s'.start, s'.stop⟩ s.readings.toList := by
  have hle : start ≤ start.later stop := by
    rw [Instant.le_def, Instant.rank_later]
    omega
  obtain ⟨s', hslice, rfl, hstop, hreadings⟩ := s.slice_eq_ok hle
  exact ⟨s', hslice, rfl, hstop, hstop ▸ hreadings⟩

theorem Archive.query_of_slice {archive : Archive} {tag : String} {h h' : History}
    {start stop : Instant} (hget : archive.get? tag = some h)
    (hslice : h.slice start (start.later stop) = .ok h') :
    archive.query tag start stop = .ok (some h') := by
  unfold query
  rw [hget]
  dsimp only
  rw [hslice]

namespace Tabulator

variable {source : Source} {rows : RowPlan} {zone : Zone} {t : Tabulator}

theorem ReducesNumbers.congr {name field : String} {content content' : Bucket → List (Reading Float)}
    (h : t.ReducesNumbers name field content) (heq : ∀ b ∈ t.buckets, content b = content' b) :
    t.ReducesNumbers name field content' := by
  intro a ha
  rw [h a ha]
  exact congrArg Except.ok (List.map_congr_left fun b hb => by rw [heq b hb])

theorem ReducesCategories.congr {name field : String}
    {content content' : Bucket → List (Reading String)}
    (h : t.ReducesCategories name field content) (heq : ∀ b ∈ t.buckets, content b = content' b) :
    t.ReducesCategories name field content' := by
  intro a ha
  refine ⟨?_, ?_⟩
  · intro hnumber
    rw [(h a ha).1 hnumber]
    exact congrArg Except.ok (List.map_congr_left fun b hb => by rw [heq b hb])
  · intro htext
    rw [(h a ha).2 htext]
    exact congrArg Except.ok (List.map_congr_left fun b hb => by rw [heq b hb])

/-- A slice to the time of the rows has in each row the readings of what was sliced, whatever
bounds that had. -/
theorem Planned.readingsIn_slice (h : t.Planned) {s s' : Series β}
    (hstart : s'.start = t.rows.start) (hstop : s'.stop = t.rows.start.later t.rows.stop)
    (hs' : s'.readings.toList = Bucket.select ⟨s'.start, s'.stop⟩ s.readings.toList) :
    ∀ b ∈ t.buckets, s'.readingsIn b = b.select s.readings.toList := by
  intro b hb
  by_cases hle : t.rows.start ≤ t.rows.stop
  · obtain ⟨h₁, -, h₃⟩ := (h.tiles hle).within b hb
    refine Series.readingsIn_of_slice hs' (hstart ▸ h₁) ?_
    rw [hstop, Instant.le_def, Instant.rank_later]
    rw [Instant.le_def] at h₃
    omega
  · -- Rows that stop before they start are none.
    rw [h.buckets_of_lt (Int.not_le.1 hle)] at hb
    cases hb

theorem reducesNumbers_of_archive (h : t.Planned) {archive : Archive}
    (hsource : t.source = archive.source) {name : String} {r : Reference}
    (hname : OfHistory name r) {s : Series Float} (hs : archive.get? r.tag = some (.numeric s)) :
    t.ReducesNumbers name r.field (·.select s.readings.toList) := by
  obtain ⟨s', hslice, hstart, hstop, hreadings⟩ := s.slice_later t.rows.start t.rows.stop
  refine (reducesNumbers_of_query h hname (s := s') ?_).congr
    (h.readingsIn_slice hstart hstop hreadings)
  rw [hsource]
  refine Archive.query_of_slice hs ?_
  rw [History.slice, hslice]
  rfl

theorem reducesCategories_of_archive (h : t.Planned) {archive : Archive}
    (hsource : t.source = archive.source) {name : String} {r : Reference}
    (hname : OfHistory name r) {s : Series String}
    (hs : archive.get? r.tag = some (.categorical s)) :
    t.ReducesCategories name r.field (·.select s.readings.toList) := by
  obtain ⟨s', hslice, hstart, hstop, hreadings⟩ := s.slice_later t.rows.start t.rows.stop
  refine (reducesCategories_of_query h hname (s := s') ?_).congr
    (h.readingsIn_slice hstart hstop hreadings)
  rw [hsource]
  refine Archive.query_of_slice hs ?_
  rw [History.slice, hslice]
  rfl

/-- The readings of the rows, one row after the other, are those of the time of the rows. -/
theorem Planned.flatMap_select (h : t.Planned) (s : Series β) :
    t.buckets.flatMap (·.select s.readings.toList) =
      Bucket.select ⟨t.rows.start, t.rows.stop⟩ s.readings.toList := by
  by_cases hle : t.rows.start ≤ t.rows.stop
  · exact (h.tiles hle).flatMap_select s.inOrder
  · have hlt : t.rows.stop < t.rows.start := Int.not_le.1 hle
    rw [h.buckets_of_lt hlt, Bucket.select_of_empty (Int.le_of_lt hlt)]
    rfl

end Tabulator

open Tabulator in
/-- **Every reading of the time of the rows counts in exactly one row.** An aggregate of a history
gives one value for each row: that of the readings which lie in the row and within the bounds of the
series that the source answers. Cutting the series and looking at it through windows come to the
same segments and never fail. Over an archive the values are those of all stored readings in the
row, whatever bounds their series has, and every stored reading of the time of the rows lies in one
row and in no second one. -/
theorem tabulated_readings {source : Source} {rows : RowPlan} {zone : Zone} {t : Tabulator}
    (h : Tabulator.ofPlan source rows zone = .ok t) :
    rows.buckets zone = .ok t.buckets ∧
    (∀ name r, OfHistory name r →
      (∀ s, source.query r.tag rows.start rows.stop = .ok (some (.numeric s)) →
        t.ReducesNumbers name r.field s.readingsIn) ∧
      (∀ s, source.query r.tag rows.start rows.stop = .ok (some (.categorical s)) →
        t.ReducesCategories name r.field s.readingsIn) ∧
      ∀ archive : Archive, source = archive.source →
        (∀ s, archive.get? r.tag = some (.numeric s) →
          t.ReducesNumbers name r.field (·.select s.readings.toList)) ∧
        (∀ s, archive.get? r.tag = some (.categorical s) →
          t.ReducesCategories name r.field (·.select s.readings.toList))) ∧
    (∀ {β : Type} (s : Series β), t.segments s = .ok (t.windows s) ∧
      (t.windows s).map (·.readings) = t.buckets.map s.readingsIn ∧
      t.buckets.flatMap (·.select s.readings.toList) =
        Bucket.select ⟨rows.start, rows.stop⟩ s.readings.toList) ∧
    (∀ u, rows.start ≤ u → u < rows.stop →
      ∃ i : Nat, (∃ b : Bucket, t.buckets[i]? = some b ∧ b.Covers u) ∧
        ∀ (j : Nat) (b : Bucket), t.buckets[j]? = some b → b.Covers u → j = i) := by
  have hplanned := planned_of_ofPlan h
  obtain ⟨hbuckets, rfl, rfl, rfl⟩ := ofPlan_eq_ok_iff.1 h
  refine ⟨hbuckets, ?_, ?_, ?_⟩
  · intro name r hname
    refine ⟨fun s hs => reducesNumbers_of_query hplanned hname hs,
      fun s hs => reducesCategories_of_query hplanned hname hs, ?_⟩
    intro archive hsource
    exact ⟨fun s hs => reducesNumbers_of_archive hplanned hsource hname hs,
      fun s hs => reducesCategories_of_archive hplanned hsource hname hs⟩
  · intro β s
    exact ⟨segments_eq_windows hplanned s, t.readings_windows s, hplanned.flatMap_select s⟩
  · intro u hstart hstop
    have hle : t.rows.start ≤ t.rows.stop := Int.le_of_lt (Int.lt_of_le_of_lt hstart hstop)
    exact (hplanned.tiles hle).existsUnique hstart hstop

open Tabulator in
/-- Two rows, of an hour and of half an hour, over an archive whose series declares bounds that leave
most of its readings out. -/
theorem tabulated_readings_twoRows :
    ∃ (s : Series Float) (archive : Archive) (rows : RowPlan) (t : Tabulator),
      s.start.utc.seconds = 1800 ∧ s.stop.utc.seconds = 3600 ∧
      s.readings.toList.map (·.instant.utc.seconds) = [0, 1800, 3600, 5400] ∧
      archive.get? "room" = some (.numeric s) ∧
      ofPlan archive.source rows Zone.utc = .ok t ∧
      t.buckets.map (fun b => (b.start.utc.seconds, b.stop.utc.seconds)) =
        [(0, 3600), (3600, 5400)] ∧
      OfHistory "room.mean" ⟨"room", "mean"⟩ ∧
      t.numeric "room.mean" = .ok (t.buckets.map fun b =>
        NumericAggregate.mean.ofReadings (b.select s.readings.toList)) := by
  let s : Series Float :=
    { start := ⟨⟨1800, 0, by omega⟩, by decide⟩
      stop := ⟨⟨3600, 0, by omega⟩, by decide⟩
      readings := #[⟨1, ⟨⟨0, 0, by omega⟩, by decide⟩, 1.0⟩,
        ⟨1, ⟨⟨1800, 0, by omega⟩, by decide⟩, 2.0⟩,
        ⟨1, ⟨⟨3600, 0, by omega⟩, by decide⟩, 3.0⟩,
        ⟨1, ⟨⟨5400, 0, by omega⟩, by decide⟩, 4.0⟩]
      start_le := by decide
      inOrder := by unfold Reading.InOrder; decide }
  let archive := Archive.empty.insert "room" (.numeric s)
  have hfirst : Period.step ⟨1, .hour, by decide, by decide⟩ Zone.utc
      ⟨⟨0, 0, by omega⟩, by decide⟩ = .ok ⟨⟨3600, 0, by omega⟩, by decide⟩ := rfl
  have hsecond : Period.step ⟨1, .hour, by decide, by decide⟩ Zone.utc
      ⟨⟨3600, 0, by omega⟩, by decide⟩ = .ok ⟨⟨7200, 0, by omega⟩, by decide⟩ := rfl
  have hbuckets : Period.tiles ⟨1, .hour, by decide, by decide⟩ Zone.utc
      ⟨⟨5400, 0, by omega⟩, by decide⟩ ⟨⟨0, 0, by omega⟩, by decide⟩ = .ok
        [⟨⟨⟨0, 0, by omega⟩, by decide⟩, ⟨⟨3600, 0, by omega⟩, by decide⟩⟩,
          ⟨⟨⟨3600, 0, by omega⟩, by decide⟩, ⟨⟨5400, 0, by omega⟩, by decide⟩⟩] := by
    rw [Period.tiles_of_lt (by decide) hfirst, Period.tiles_of_lt (by decide) hsecond,
      Period.tiles_of_le (by decide)]
    rfl
  have hplan : ofPlan archive.source ⟨_, _, _⟩ Zone.utc = .ok ⟨archive.source, _, Zone.utc, _⟩ :=
    ofPlan_eq_ok_iff.2 ⟨hbuckets, rfl, rfl, rfl⟩
  have hname : Reference.ofName? "room.mean" = some ⟨"room", "mean"⟩ := by decide +kernel
  have hhistory : OfHistory "room.mean" ⟨"room", "mean"⟩ := by
    refine ⟨hname, ?_⟩
    intro htime
    exact absurd htime (by decide)
  have hget : archive.get? "room" = some (.numeric s) := Archive.get?_insert_self _ _ _
  have hmean : NumericAggregate.ofName? "mean" = some .mean := by decide +kernel
  obtain ⟨-, hvalues, -⟩ := tabulated_readings hplan
  obtain ⟨-, -, harchive⟩ := hvalues "room.mean" _ hhistory
  obtain ⟨hnumbers, -⟩ := harchive archive rfl
  exact ⟨s, archive, _, _, rfl, rfl, rfl, hget, hplan, rfl, hhistory,
    hnumbers s hget NumericAggregate.mean hmean⟩

end Logbook
