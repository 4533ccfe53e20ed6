import Logbook.Proofs.Report.EarlierColumns
import Logbook.Proofs.Report.Rows

/-!
# Names of numbers and names of text

A name stands for numbers or for text, never for both, and what it stands for can be told from the
name as soon as it has values at all.

* `CalendarField.ofName?_disjoint` / `NumericAggregate.not_isMode` — the tables of names that decide
  the kind of a field have no name in common.
* `Outcomes` — how the numbers and the text of one name go together.
* `Tabulator.outcomes` — they go together so for every name.
* `numeric_text_exclusive` — which of the two a name has, and with which errors the other fails.
-/

namespace Logbook

/-! ## Tables of names -/

/-- No field of the calendar has the name of a label of rows. -/
theorem CalendarField.ofName?_disjoint {name : String} {f : CalendarField} {l : RowLabel}
    (hf : CalendarField.ofName? name = some f) (hl : RowLabel.ofName? name = some l) : False := by
  have hf : lowered name ∈ f.names := by simpa using List.find?_some hf
  have hl : l.name = lowered name := by simpa using List.find?_some hl
  rw [← hl] at hf
  revert hf
  cases f <;> cases l <;> decide

/-- No aggregate of numbers has the name of the most frequent category. -/
theorem NumericAggregate.not_isMode {r : Reference} {a : NumericAggregate}
    (h : NumericAggregate.ofName? r.field = some a) : r.isMode = false := by
  have ha : lowered r.field ∈ a.name :: a.aliases := by simpa using List.find?_some h
  unfold Reference.isMode
  cases hc : CategoryAggregate.ofName? r.field with
  | none => rfl
  | some c =>
    have hc : c.name = lowered r.field := by simpa using List.find?_some hc
    rw [← hc] at ha
    revert ha
    cases c with
    | mode => cases a <;> decide
    | count | distinct | entropy => exact fun _ => rfl

/-! ## Numbers and text of one name -/

/-- The error of a name that has no values of either kind. -/
inductive LookupError.Unresolved (name : String) : LookupError → Prop where
  | unknownField : Unresolved name (.unknownField name)
  | notApplicable {r : Reference} (kind : ValueKind) (h : Reference.ofName? name = some r) :
    Unresolved name (.notApplicable r.tag r.field kind)
  | source {r : Reference} (reason : String) (h : Reference.ofName? name = some r) :
    Unresolved name (.source r.tag reason)

/-- The numbers and the text of a name: it has the one and not the other, as the name says, or none
of them for one and the same reason. -/
inductive Outcomes (name : String) (isText : Bool) :
    Except LookupError (List Float) → Except LookupError (List String) → Prop where
  | numbers (xs : List Float) (h : isText = false) :
    Outcomes name isText (.ok xs) (.error (.notText name))
  | texts (ss : List String) (h : isText = true) :
    Outcomes name isText (.error (.notNumeric name)) (.ok ss)
  | neither {e : LookupError} (h : e.Unresolved name) :
    Outcomes name isText (.error e) (.error e)

namespace Tabulator

variable {t : Tabulator} {name : String} {r : Reference}

theorem mismatch_unresolved (hr : Reference.ofName? name = some r) (kind : ValueKind) :
    (mismatch name r kind).Unresolved name := by
  unfold mismatch
  split
  · exact .notApplicable kind hr
  · exact .unknownField

/-- A field of a history has numbers or text, and text only as the most frequent category. -/
theorem outcomes_field (h : t.Planned) (hr : Reference.ofName? name = some r) :
    Outcomes name r.isMode (t.numericField name r) (t.textField name r) := by
  unfold numericField textField history
  cases t.source.query r.tag t.rows.start t.rows.stop with
  | error reason => exact .neither (.source reason hr)
  | ok answer =>
    cases answer with
    | none => exact .neither .unknownField
    | some history =>
      cases history with
      | numeric s =>
        cases ha : NumericAggregate.ofName? r.field with
        | none => exact .neither (mismatch_unresolved hr _)
        | some a =>
          simp only [aggregates_eq h]
          exact .numbers _ (NumericAggregate.not_isMode ha)
      | categorical s =>
        unfold Reference.isMode
        cases CategoryAggregate.ofName? r.field with
        | none => exact .neither (mismatch_unresolved hr _)
        | some a =>
          cases htext : a.isText with
          | true =>
            simp only [htext, modes_eq h]
            exact .texts _ htext
          | false =>
            simp only [htext, categoryAggregates_eq h]
            exact .numbers _ htext

/-- The name refers to text, by the tables of names alone. -/
def namesText (name : String) : Bool :=
  (Reference.ofName? name).any Reference.isText

/-- Every name has numbers or text, as it says, or neither for one reason. -/
theorem outcomes (h : t.Planned) (name : String) :
    Outcomes name (namesText name) (t.numeric name) (t.text name) := by
  unfold numeric text namesText
  cases hr : Reference.ofName? name with
  | none => exact .neither .unknownField
  | some r =>
    have hfield := outcomes_field h hr
    dsimp only [Option.any_some]
    unfold Reference.isText
    cases htime : r.isTime with
    | false => simpa using hfield
    | true =>
      -- The start of a row is looked for in two tables before any history is.
      cases hf : CalendarField.ofName? r.field with
      | some f =>
        cases hl : RowLabel.ofName? r.field with
        | some l => exact (CalendarField.ofName?_disjoint hf hl).elim
        | none => exact .numbers _ rfl
      | none =>
        cases hl : RowLabel.ofName? r.field with
        | some l => exact .texts _ rfl
        | none => simpa using hfield

end Tabulator

open Tabulator in
/-- **A name has numbers or text, never both.** If it has text, it is a name of text, and if it has
numbers, it is none. Its numbers are refused as text exactly if it has text, and its text is refused
as numbers exactly if it has numbers. A name that has neither fails both times with the same error:
its field is unknown, or is an aggregate of the other kind of histories, or the source has failed for
its tag. -/
theorem numeric_text_exclusive {source : Source} {rows : RowPlan} {zone : Zone} {t : Tabulator}
    (h : ofPlan source rows zone = .ok t) (name : String) :
    (∀ ss, t.text name = .ok ss → namesText name = true) ∧
    (∀ xs, t.numeric name = .ok xs → namesText name = false) ∧
    (∀ n, t.numeric name = .error (.notNumeric n) ↔ n = name ∧ ∃ ss, t.text name = .ok ss) ∧
    (∀ n, t.text name = .error (.notText n) ↔ n = name ∧ ∃ xs, t.numeric name = .ok xs) ∧
    ((∀ xs, t.numeric name ≠ .ok xs) → (∀ ss, t.text name ≠ .ok ss) →
      ∃ e, t.numeric name = .error e ∧ t.text name = .error e ∧ e.Unresolved name) := by
  have houtcomes := outcomes (planned_of_ofPlan h) name
  generalize t.numeric name = numeric at houtcomes ⊢
  generalize t.text name = text at houtcomes ⊢
  cases houtcomes with
  | numbers xs hkind => simp [hkind, eq_comm]
  | texts ss hkind => simp [hkind, eq_comm]
  | @neither e he =>
    have hnumeric : ∀ n, e ≠ .notNumeric n := by cases he <;> simp
    have htext : ∀ n, e ≠ .notText n := by cases he <;> simp
    simp [hnumeric, htext, he]

open Tabulator in
/-- Over a history of categories the most frequent category of an hour is text, and a tag without a
history has neither numbers nor text. -/
theorem numeric_text_exclusive_categories :
    ∃ (s : Series String) (archive : Archive) (rows : RowPlan) (t : Tabulator),
      s.readings.toList.map (·.value) = ["dry", "wet", "wet"] ∧
      archive.get? "sky" = some (.categorical s) ∧
      ofPlan archive.source rows Zone.utc = .ok t ∧
      (∃ ss, t.text "sky.mode" = .ok ss) ∧ namesText "sky.mode" = true ∧
      t.numeric "sky.mode" = .error (.notNumeric "sky.mode") ∧
      ∃ e, t.numeric "sea.mean" = .error e ∧ t.text "sea.mean" = .error e ∧
        e.Unresolved "sea.mean" := by
  let s : Series String :=
    { start := ⟨⟨0, 0, by omega⟩, by decide⟩
      stop := ⟨⟨3600, 0, by omega⟩, by decide⟩
      readings := #[⟨1, ⟨⟨0, 0, by omega⟩, by decide⟩, "dry"⟩,
        ⟨1, ⟨⟨1200, 0, by omega⟩, by decide⟩, "wet"⟩,
        ⟨1, ⟨⟨2400, 0, by omega⟩, by decide⟩, "wet"⟩]
      start_le := by decide
      inOrder := by unfold Reading.InOrder; decide }
  let archive := Archive.empty.insert "sky" (.categorical s)
  obtain ⟨rows, b, -, -, hempty⟩ := Report.exists_hour
  have hbuckets : rows.buckets Zone.utc = .ok [b] := (ofPlan_eq_ok_iff.1 hempty).1
  have hplan : ofPlan archive.source rows Zone.utc = .ok ⟨archive.source, rows, Zone.utc, [b]⟩ :=
    ofPlan_eq_ok_iff.2 ⟨hbuckets, rfl, rfl, rfl⟩
  have hget : archive.get? "sky" = some (.categorical s) := Archive.get?_insert_self _ _ _
  have hmode : Reference.ofName? "sky.mode" = some ⟨"sky", "mode"⟩ := by decide +kernel
  have hcategory : CategoryAggregate.ofName? "mode" = some .mode := by decide +kernel
  have hhistory : OfHistory "sky.mode" ⟨"sky", "mode"⟩ := ⟨hmode, fun h => absurd h (by decide)⟩
  have htext := (reducesCategories_of_archive (planned_of_ofPlan hplan) rfl hhistory hget _
    hcategory).2 rfl
  have hsea : Reference.ofName? "sea.mean" = some ⟨"sea", "mean"⟩ := by decide +kernel
  have habsent : archive.get? "sea" = none :=
    (Archive.get?_insert_of_ne _ _ (by decide)).trans (Archive.get?_empty _)
  have hnone : ∀ start stop, archive.query "sea" start stop = .ok none := by
    intro start stop
    rw [Archive.query, habsent]
  have hunknown : ∀ xs, numeric ⟨archive.source, rows, Zone.utc, [b]⟩ "sea.mean" ≠ .ok xs := by
    intro xs
    simp [numeric, hsea, Reference.isTime, Reference.timeTag, numericField, history, Archive.source,
      hnone]
  have huntexted : ∀ ss, text ⟨archive.source, rows, Zone.utc, [b]⟩ "sea.mean" ≠ .ok ss := by
    intro ss
    simp [text, hsea, Reference.isTime, Reference.timeTag, textField, history, Archive.source, hnone]
  obtain ⟨hkind, -, hnumeric, -, -⟩ := numeric_text_exclusive hplan "sky.mode"
  obtain ⟨-, -, -, -, hneither⟩ := numeric_text_exclusive hplan "sea.mean"
  exact ⟨s, archive, rows, _, rfl, hget, hplan, ⟨_, htext⟩, hkind _ htext,
    (hnumeric _).2 ⟨rfl, _, htext⟩, hneither hunknown huntexted⟩

end Logbook
