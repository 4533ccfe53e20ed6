import Logbook.Document.Archive
import Logbook.Proofs.Document.Values
import Logbook.Proofs.Series.Building

/-!
# Archives as documents and back

A document may say anything of a series: that it stops before it starts, or that its readings go back
in time. `SeriesParts` and `HistoryParts` are what it says, and a reader has to check that.

* `Series.read_json`, `History.read_json`, `Archive.read_partsJson` — whatever is written is checked as
  it is read.
* `Series.regular_of_read`, `History.regular_of_read`, `Archive.regular_of_read` — what is read could
  have been written, in whatever order the fields of a record come.
* `Archive.ofDocument_rendered` — dumping and loading an archive.
-/

namespace Logbook

open Document

variable {β : Type} {readValue : Json → Except Fault β} {write : β → Json} {P : β → Prop}

/-! ## Readings -/

namespace Reading

/-- The reading was taken at an instant that a clock can show, and its value satisfies `P`. -/
structure Regular (P : β → Prop) (r : Reading β) : Prop where
  instant : r.instant.OnClock
  value : P r.value

theorem fields_keep (h : ReadsBack readValue write P) :
    (fields readValue).Keep fun d => (∀ t ∈ d.instant, t.OnClock) ∧ ∀ x ∈ d.value, P x := by
  intro f hf v d d' hd hv
  simp only [fields, List.mem_cons, List.not_mem_nil, or_false] at hf
  rcases hf with rfl | rfl | rfl
  · obtain ⟨feed, -, rfl⟩ := map_eq_ok_iff.1 hv
    exact hd
  · obtain ⟨t, ht, rfl⟩ := map_eq_ok_iff.1 hv
    exact ⟨forall_of_once readsBack_instant.of_read ht, hd.2⟩
  · obtain ⟨x, hx, rfl⟩ := map_eq_ok_iff.1 hv
    exact ⟨hd.1, forall_of_once h.of_read hx⟩

theorem readsBack (h : ReadsBack readValue write P) :
    ReadsBack (Reading.read readValue) (Reading.json write) (Reading.Regular P) where
  complete r := complete_object (by
    simp [field, readsBack_integer.complete r.feed, h.complete r.value])
  read_write r hr := by
    have hfeed := readsBack_integer.read_write r.feed trivial
    have hinstant := readsBack_instant.read_write r.instant hr.instant
    have hvalue := h.read_write r.value hr.value
    simp [Reading.read, Reading.json, field, Fields.read, Fields.readMembers, Reading.fields,
      List.lookup, once, hfeed, hinstant, hvalue, Except.map]
  of_read v r hv := by
    unfold Reading.read at hv
    split at hv
    · cases hv
    · next feed instant value hd =>
      cases hv
      obtain ⟨hinstant, hvalue⟩ := (fields_keep h).read (by simp) hd
      exact ⟨hinstant instant rfl, hvalue value rfl⟩
    · cases hv

end Reading

/-! ## Series -/

/-- What a document says of a series: its bounds and its readings, which need not fit together. -/
structure SeriesParts (β : Type) where
  start : Instant
  stop : Instant
  readings : List (Reading β)

namespace SeriesParts

/-- The series of these parts, unless they do not fit together. -/
def check (p : SeriesParts β) : Except SeriesError (Series β) :=
  Series.ofReadings p.start p.stop p.readings

theorem check_of_inversion {p : SeriesParts β} (hle : p.start ≤ p.stop) {position : Nat}
    (h : Reading.firstInversion? p.readings = some position) :
    p.check = .error (.unsorted position) :=
  Series.ofReadings_eq_error_iff.2 (.inr ⟨hle, position, h, rfl⟩)

/-- The parts as a JSON value. -/
def json (write : β → Json) (p : SeriesParts β) : Json :=
  .object [field "from" (writeInstant p.start), field "to" (writeInstant p.stop),
    field "points" (.array (p.readings.map (Reading.json write)))]

/-- All instants are such that a clock can show, and all values satisfy `P`. -/
structure Regular (P : β → Prop) (p : SeriesParts β) : Prop where
  start : p.start.OnClock
  stop : p.stop.OnClock
  readings : ∀ r ∈ p.readings, r.Regular P

theorem complete_json (h : ReadsBack readValue write P) (p : SeriesParts β) :
    (p.json write).complete = true :=
  complete_object (by simp [field, (Reading.readsBack h).list.complete p.readings])

end SeriesParts

namespace Series

/-- The parts of a series. -/
def parts (s : Series β) : SeriesParts β :=
  ⟨s.start, s.stop, s.readings.toList⟩

/-- The parts of a series fit together and make up the series. -/
theorem check_parts (s : Series β) : s.parts.check = .ok s :=
  ofReadings_eq_ok_iff.2 ⟨s.start_le, s.inOrder, rfl, rfl, rfl⟩

theorem parts_of_check {p : SeriesParts β} {s : Series β} (h : p.check = .ok s) : s.parts = p := by
  obtain ⟨-, -, hstart, hstop, hreadings⟩ := ofReadings_eq_ok_iff.1 h
  rw [parts, hstart, hstop, hreadings]

theorem fields_keep (h : ReadsBack readValue write P) :
    (fields readValue).Keep fun d => (∀ t ∈ d.start, t.OnClock) ∧ (∀ t ∈ d.stop, t.OnClock) ∧
      ∀ readings ∈ d.readings, ∀ r ∈ readings, r.Regular P := by
  intro f hf v d d' hd hv
  simp only [fields, List.mem_cons, List.not_mem_nil, or_false] at hf
  rcases hf with rfl | rfl | rfl
  · obtain ⟨t, ht, rfl⟩ := map_eq_ok_iff.1 hv
    exact ⟨forall_of_once readsBack_instant.of_read ht, hd.2⟩
  · obtain ⟨t, ht, rfl⟩ := map_eq_ok_iff.1 hv
    exact ⟨hd.1, forall_of_once readsBack_instant.of_read ht, hd.2.2⟩
  · obtain ⟨readings, hreadings, rfl⟩ := map_eq_ok_iff.1 hv
    exact ⟨hd.1, hd.2.1, forall_of_once (Reading.readsBack h).list.of_read hreadings⟩

/-- Whatever is written of a series is checked as it is read. -/
theorem read_json (h : ReadsBack readValue write P) {p : SeriesParts β} (hp : p.Regular P) :
    Series.read readValue (p.json write) = p.check.mapError .series := by
  have hstart := readsBack_instant.read_write p.start hp.start
  have hstop := readsBack_instant.read_write p.stop hp.stop
  have hreadings := (Reading.readsBack h).list.read_write p.readings hp.readings
  have hfields : (fields readValue).read ⟨none, none, none⟩ (p.json write) =
      .ok ⟨some p.start, some p.stop, some p.readings⟩ := by
    simp [SeriesParts.json, field, Fields.read, Fields.readMembers, fields, List.lookup, once,
      hstart, hstop, hreadings, Except.map]
  unfold Series.read SeriesParts.check
  rw [hfields]
  dsimp only
  cases ofReadings p.start p.stop p.readings <;> rfl

/-- What is read as a series is made of the parts that were found, and these fit together. -/
theorem regular_of_read (h : ReadsBack readValue write P) {v : Json} {s : Series β}
    (hv : Series.read readValue v = .ok s) : s.parts.Regular P := by
  unfold Series.read at hv
  split at hv
  · cases hv
  · next start stop readings hd =>
    obtain ⟨hstart, hstop, hreadings⟩ := (fields_keep h).read (by simp) hd
    split at hv
    · next hs =>
      cases hv
      rw [parts_of_check (p := ⟨start, stop, readings⟩) hs]
      exact ⟨hstart start rfl, hstop stop rfl, hreadings readings rfl⟩
    · cases hv
  · cases hv

end Series

/-! ## Histories -/

/-- What a document says of a history. -/
inductive HistoryParts where
  | numeric (parts : SeriesParts Float)
  | categorical (parts : SeriesParts String)

namespace HistoryParts

/-- The history of these parts, unless they do not fit together. -/
def check : HistoryParts → Except SeriesError History
  | numeric p => p.check.map .numeric
  | categorical p => p.check.map .categorical

/-- The parts as a JSON value. -/
def json : HistoryParts → Json
  | numeric p => .object [field "kind" (.text ValueKind.numeric.name),
      field "series" (p.json writeFloat)]
  | categorical p => .object [field "kind" (.text ValueKind.categorical.name),
      field "series" (p.json .text)]

/-- All instants are such that a clock can show, and all numbers are finite. -/
def Regular : HistoryParts → Prop
  | numeric p => p.Regular fun x => x.isFinite = true
  | categorical p => p.Regular fun _ => True

theorem complete_json (p : HistoryParts) : p.json.complete = true := by
  cases p with
  | numeric p => exact complete_object (by simp [field, p.complete_json readsBack_float])
  | categorical p => exact complete_object (by simp [field, p.complete_json readsBack_text])

end HistoryParts

namespace History

/-- The parts of a history. -/
def parts : History → HistoryParts
  | numeric s => .numeric s.parts
  | categorical s => .categorical s.parts

/-- All instants of the history are such that a clock can show, and all its numbers are finite. -/
def Regular (h : History) : Prop :=
  h.parts.Regular

theorem json_parts (h : History) : h.parts.json = h.json := by
  cases h <;> rfl

theorem check_parts (h : History) : h.parts.check = .ok h := by
  cases h with
  | numeric s => exact congrArg (Except.map numeric) s.check_parts
  | categorical s => exact congrArg (Except.map categorical) s.check_parts

/-- The instants of the readings. -/
def instants : History → List Instant
  | numeric s => s.readings.toList.map (·.instant)
  | categorical s => s.readings.toList.map (·.instant)

theorem start_le (h : History) : h.start ≤ h.stop := by
  cases h with
  | numeric s => exact s.start_le
  | categorical s => exact s.start_le

theorem pairwise_instants (h : History) : h.instants.Pairwise (· ≤ ·) := by
  cases h with
  | numeric s => exact List.pairwise_map.2 s.inOrder
  | categorical s => exact List.pairwise_map.2 s.inOrder

/-- A history is read by its kind, if that stands before the series. -/
theorem read_kind (room : Nat) (kind : ValueKind) (v : Json) :
    History.read room (.object [field "kind" (.text kind.name), field "series" v]) =
      readSeries kind v := by
  have hkind : ValueKind.read (.text kind.name) = .ok kind := by
    cases kind <;> rfl
  unfold History.read
  cases hv : readSeries kind v with
  | error e =>
    simp [field, Fields.read, Fields.readMembers, fields, kindReader, List.lookup, Draft.setKind,
      Draft.setSeries, once, hkind, hv, Except.map]
  | ok h =>
    simp [field, Fields.read, Fields.readMembers, fields, kindReader, List.lookup, Draft.setKind,
      Draft.setSeries, once, hkind, hv, Except.map]

/-- Whatever is written of a history is checked as it is read. -/
theorem read_json (room : Nat) {p : HistoryParts} (hp : p.Regular) :
    History.read room p.json = p.check.mapError .series := by
  cases p with
  | numeric p =>
    have hread := Series.read_json readsBack_float hp
    rw [HistoryParts.json, read_kind, readSeries, hread, HistoryParts.check]
    cases p.check <;> rfl
  | categorical p =>
    have hread := Series.read_json readsBack_text hp
    rw [HistoryParts.json, read_kind, readSeries, hread, HistoryParts.check]
    cases p.check <;> rfl

theorem regular_of_readSeries {kind : ValueKind} {v : Json} {h : History}
    (hv : readSeries kind v = .ok h) : h.Regular := by
  cases kind with
  | numeric =>
    obtain ⟨s, hs, rfl⟩ := map_eq_ok_iff.1 hv
    exact Series.regular_of_read readsBack_float hs
  | categorical =>
    obtain ⟨s, hs, rfl⟩ := map_eq_ok_iff.1 hv
    exact Series.regular_of_read readsBack_text hs

/-- A series is read when its kind is known, be that before or after it. -/
theorem fields_keep (readKind : Json → Except Fault ValueKind) (room : Nat) :
    (fields readKind room).Keep fun d => ∀ h ∈ d.history, h.Regular := by
  intro f hf v d d' hd hv
  simp only [fields, List.mem_cons, List.not_mem_nil, or_false] at hf
  rcases hf with rfl | rfl
  · dsimp only [Draft.setKind] at hv
    split at hv
    · cases hv
    · obtain ⟨h, hh, rfl⟩ := map_eq_ok_iff.1 hv
      intro g hg
      cases hg
      exact regular_of_readSeries hh
    · cases hv
      exact hd
  · dsimp only [Draft.setSeries] at hv
    split at hv
    · obtain ⟨h, hh, rfl⟩ := map_eq_ok_iff.1 hv
      intro g hg
      cases hg
      exact regular_of_readSeries hh
    · split at hv
      · cases hv
        exact hd
      · cases hv
    · cases hv

theorem regular_of_read {room : Nat} {v : Json} {h : History}
    (hv : History.read room v = .ok h) : h.Regular := by
  unfold History.read at hv
  split at hv
  · cases hv
  · next hd =>
    cases hv
    exact (fields_keep _ _).read (by simp) hd h rfl
  · cases hv

end History

/-! ## Archives -/

namespace Archive

/-- All histories are such that a document can say them. -/
def Regular (a : Archive) : Prop :=
  ∀ tag h, a.get? tag = some h → h.Regular

theorem regular_empty : empty.Regular := by
  intro tag h hh
  rw [get?_empty] at hh
  cases hh

theorem Regular.insert {a : Archive} (ha : a.Regular) (tag : String) {h : History}
    (hh : h.Regular) : (a.insert tag h).Regular := by
  intro other h' hh'
  by_cases htag : tag = other
  · subst htag
    rw [get?_insert_self] at hh'
    cases hh'
    exact hh
  · rw [get?_insert_of_ne _ _ htag] at hh'
    exact ha other h' hh'

/-- Every history that is read into an archive is regular. -/
theorem Regular.readHistories {a b : Archive} (ha : a.Regular)
    {members : List (Option String × Json)} (h : a.readHistories members = .ok b) : b.Regular := by
  induction members generalizing a with
  | nil =>
    cases h
    exact ha
  | cons member rest ih =>
    obtain ⟨_ | tag, v⟩ := member
    · cases h
    rw [Archive.readHistories] at h
    split at h
    · cases h
    · next history hv => exact ih (ha.insert tag (History.regular_of_read hv)) h

theorem regular_of_readTags {v : Json} {a : Archive} (h : readTags v = .ok a) : a.Regular := by
  unfold readTags at h
  split at h
  · exact regular_empty.readHistories h
  · cases h

theorem regular_of_read {v : Json} {a : Archive} (h : Archive.read v = .ok a) : a.Regular := by
  have hkeep : fields.Keep fun held => ∀ a ∈ held, a.Regular := by
    intro f hf v held held' _ hv
    cases List.mem_singleton.1 hf
    exact forall_of_once (v := v) (fun _ _ h => regular_of_readTags h) hv
  unfold Archive.read at h
  split at h
  · cases h
  · next hd =>
    cases h
    exact hkeep.read (by simp) hd a rfl
  · cases h

/-! ### Writing -/

/-- What a document says of an archive: histories with their tags, which may occur again. -/
def partsJson (parts : List (String × HistoryParts)) : Json :=
  .object [field "tags" (.object (parts.map fun m => field m.1 m.2.json))]

theorem complete_partsJson (parts : List (String × HistoryParts)) :
    (partsJson parts).complete = true := by
  refine complete_object fun m hm => ?_
  cases List.mem_singleton.1 hm
  refine ⟨rfl, complete_object fun m hm => ?_⟩
  obtain ⟨m, -, rfl⟩ := List.mem_map.1 hm
  exact ⟨rfl, m.2.complete_json⟩

/-- The archive with the histories of these parts, from the first one on, up to one that does not
fit together. -/
def insertParts (a : Archive) (parts : List (String × HistoryParts)) : Except Fault Archive :=
  parts.foldlM (fun a m => (m.2.check.mapError .series).map (a.insert m.1)) a

theorem readHistories_map (a : Archive) {parts : List (String × HistoryParts)}
    (h : ∀ m ∈ parts, m.2.Regular) :
    a.readHistories (parts.map fun m => field m.1 m.2.json) = a.insertParts parts := by
  induction parts generalizing a with
  | nil => rfl
  | cons m rest ih =>
    obtain ⟨tag, p⟩ := m
    have hread := History.read_json (Json.maxDepth - seriesDepth) (h (tag, p) List.mem_cons_self)
    have ih := fun a => ih a fun m hm => h m (List.mem_cons_of_mem _ hm)
    have hfield : field tag p.json = (some tag, p.json) := rfl
    rw [List.map_cons, hfield, readHistories, hread, insertParts, List.foldlM_cons]
    cases hp : p.check with
    | error e => rfl
    | ok h => exact ih (a.insert tag h)

theorem insertParts_parts (a : Archive) (l : List (String × History)) :
    a.insertParts (l.map fun m => (m.1, m.2.parts)) = .ok ⟨a.histories.insertMany l⟩ := by
  induction l generalizing a with
  | nil => simp [insertParts, pure, Except.pure]
  | cons m rest ih =>
    obtain ⟨tag, h⟩ := m
    rw [Std.ExtTreeMap.insertMany_cons, List.map_cons, insertParts, List.foldlM_cons, h.check_parts]
    exact ih (a.insert tag h)

/-- The histories of an archive, inserted one after the other, make up the archive. -/
theorem insertParts_toList (a : Archive) :
    empty.insertParts (a.toList.map fun m => (m.1, m.2.parts)) = .ok a := by
  have hmap : (∅ : Std.ExtTreeMap String History).insertMany a.toList = a.histories := by
    refine Std.ExtTreeMap.ext_getElem? fun tag => ?_
    have hdistinct := a.histories.distinct_keys_toList
    cases hget : a.histories[tag]? with
    | some h =>
      have hmem := Std.ExtTreeMap.mem_toList_iff_getElem?_eq_some.2 hget
      exact Std.ExtTreeMap.getElem?_insertMany_list_of_mem (compare_eq_iff_eq.2 rfl) hdistinct hmem
    | none =>
      have habsent : ∀ h, (tag, h) ∉ a.toList := by
        intro h hmem
        rw [toList, Std.ExtTreeMap.mem_toList_iff_getElem?_eq_some, hget] at hmem
        cases hmem
      rw [Std.ExtTreeMap.getElem?_insertMany_list_of_contains_eq_false (by simpa using habsent)]
      rfl
  rw [insertParts_parts]
  exact congrArg (fun m => Except.ok (Archive.mk m)) hmap

theorem read_tags (v : Json) : Archive.read (.object [field "tags" v]) = readTags v := by
  unfold Archive.read
  cases hv : readTags v <;>
    simp [field, Fields.read, Fields.readMembers, fields, once, hv, Except.map]

/-- Whatever is written of an archive is checked as it is read. -/
theorem read_partsJson {parts : List (String × HistoryParts)} (h : ∀ m ∈ parts, m.2.Regular) :
    Archive.read (partsJson parts) = empty.insertParts parts :=
  (read_tags _).trans (readHistories_map empty h)

theorem json_eq_partsJson (a : Archive) :
    a.json = partsJson (a.toList.map fun m => (m.1, m.2.parts)) := by
  have hmembers : (a.toList.map fun m => field m.1 m.2.json) =
      (a.toList.map fun m => (m.1, m.2.parts)).map fun m => field m.1 m.2.json := by
    rw [List.map_map]
    exact List.map_congr_left fun m _ => congrArg (field m.1) m.2.json_parts.symm
  exact congrArg (fun members => Json.object [field "tags" (.object members)]) hmembers

theorem readsBack : ReadsBack Archive.read Archive.json Archive.Regular where
  complete a := by rw [json_eq_partsJson, complete_partsJson]
  read_write a ha := by
    rw [json_eq_partsJson, read_partsJson, insertParts_toList]
    intro m hm
    obtain ⟨⟨tag, h⟩, hmem, rfl⟩ := List.mem_map.1 hm
    exact ha tag h (Std.ExtTreeMap.mem_toList_iff_getElem?_eq_some.1 hmem)
  of_read v a h := regular_of_read h

/-- **Dumping and loading an archive.** An archive is read back from the document that is written of
it exactly if it is regular: all its numbers are finite, and all its instants are such that a clock
can show. Every document that is read gives a regular archive whose series have their bounds the
right way round and their readings in order. This is checked and not made so: of a document with any
bounds and readings, the histories are those that the parts make up, and the first one whose parts
do not fit together is the fault. -/
theorem ofDocument_rendered :
    (∀ (a : Archive) layout, ofDocument (a.json.render layout) = .ok a ↔ a.Regular) ∧
    (∀ input a, ofDocument input = .ok a → ∀ tag h, a.get? tag = some h →
      h.Regular ∧ h.start ≤ h.stop ∧ h.instants.Pairwise (· ≤ ·)) ∧
    ∀ parts : List (String × HistoryParts), (∀ m ∈ parts, m.2.Regular) → ∀ layout,
      ofDocument ((partsJson parts).render layout) = empty.insertParts parts := by
  obtain ⟨hwritten, hread⟩ := readsBack.parse
  refine ⟨fun a layout => ⟨hread _ a, fun ha => hwritten a ha layout⟩, ?_, ?_⟩
  · intro input a hinput tag h hh
    exact ⟨hread input a hinput tag h hh, h.start_le, h.pairwise_instants⟩
  · intro parts hparts layout
    rw [ofDocument, Document.parse, Json.scan_render layout (complete_partsJson parts)]
    simp only [read_partsJson hparts]
    cases empty.insertParts parts <;> rfl

/-- Numbers and categories with a leap second among their instants, and numbers that go back in
time. -/
theorem ofDocument_rendered_room :
    ∃ a : Archive, (∃ h, a.get? "room" = some h ∧ h.kind = .numeric ∧ h.count = 2) ∧
      (∃ h, a.get? "sky" = some h ∧ h.kind = .categorical ∧ h.count = 1) ∧
      ofDocument (a.json.render .compact) = .ok a ∧
      (∀ h, a.get? "room" = some h → h.start ≤ h.stop) ∧
      ∃ parts, ofDocument ((partsJson parts).render .compact) =
        .error (.series (.unsorted 1)) := by
  let early : Instant := ⟨⟨1483228799, 1500000000, by omega⟩, by decide⟩
  let late : Instant := ⟨⟨1483228800, 250000000, by omega⟩, by decide⟩
  let room : Series Float :=
    { start := early
      stop := late
      readings := #[⟨1, early, 20.5⟩, ⟨-2, late, -0.0⟩]
      start_le := by decide
      inOrder := by unfold Reading.InOrder; decide }
  let sky : Series String :=
    { start := early
      stop := late
      readings := #[⟨3, early, "\"clear\""⟩]
      start_le := by decide
      inOrder := by unfold Reading.InOrder; decide }
  let backwards : SeriesParts Float := ⟨early, late, [⟨1, late, 20.5⟩, ⟨1, early, 20.5⟩]⟩
  let a := (empty.insert "room" (.numeric room)).insert "sky" (.categorical sky)
  have hearly : early.OnClock := by decide
  have hlate : late.OnClock := by decide
  have hnumber : (20.5 : Float).isFinite = true := by decide +kernel
  have hzero : (-0.0 : Float).isFinite = true := by decide +kernel
  have hroom : (History.numeric room).Regular :=
    ⟨hearly, hlate,
      List.forall_mem_cons.2 ⟨⟨hearly, hnumber⟩, List.forall_mem_singleton.2 ⟨hlate, hzero⟩⟩⟩
  have hsky : (History.categorical sky).Regular :=
    ⟨hearly, hlate, List.forall_mem_singleton.2 ⟨hearly, trivial⟩⟩
  have hbackwards : (HistoryParts.numeric backwards).Regular :=
    ⟨hearly, hlate,
      List.forall_mem_cons.2 ⟨⟨hlate, hnumber⟩, List.forall_mem_singleton.2 ⟨hearly, hnumber⟩⟩⟩
  have hcheck : (HistoryParts.numeric backwards).check = .error (.unsorted 1) := by
    have hunsorted : backwards.check = .error (.unsorted 1) :=
      SeriesParts.check_of_inversion (by decide) (if_pos (by decide))
    rw [HistoryParts.check, hunsorted]
    rfl
  have ha : a.Regular := (regular_empty.insert "room" hroom).insert "sky" hsky
  obtain ⟨hwritten, hread, hchecked⟩ := ofDocument_rendered
  have hdocument := (hwritten a .compact).2 ha
  have hget : a.get? "room" = some (.numeric room) := by
    rw [get?_insert_of_ne _ _ (by decide), get?_insert_self]
  refine ⟨a, ⟨_, hget, rfl, rfl⟩, ⟨_, get?_insert_self _ _ _, rfl, rfl⟩, hdocument, ?_, ?_⟩
  · intro h hh
    exact (hread _ a hdocument "room" h hh).2.1
  · refine ⟨[("room", .numeric backwards)],
      (hchecked _ (List.forall_mem_singleton.2 hbackwards) .compact).trans ?_⟩
    rw [insertParts, List.foldlM_cons, hcheck]
    rfl

end Archive

end Logbook
