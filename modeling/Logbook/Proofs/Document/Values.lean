import Logbook.Document.Basic
import Logbook.Proofs.Filter.Text
import Logbook.Proofs.Json.RoundTrip
import Logbook.Proofs.Time.InstantText
import Logbook.Proofs.Time.PeriodText

/-!
# What documents are read back

A reader takes more than its writer gives: members in any order, defaults, other spellings. Two things
are to be known of such a pair: what was written is read back, and whatever is read could have been
written.

* `Document.ReadsBack` — a reader undoes a writer on the values that satisfy a condition, and gives no
  others.
* `readsBack_instant`, `readsBack_period`, `readsBack_filter` and so on — single values.
* `ReadsBack.list` — lists of values.
* `Fields.Keep.read` — what holds before the first field of a record and is kept by each of its fields
  holds of the whole record.
* `ReadsBack.parse` — whole documents.
-/

namespace Logbook

/-! ## Numbers -/

/-- A double is finite iff it has a sign, a mantissa and a power of two. -/
theorem Double.isFinite_eq (x : Float) : x.isFinite = (Binary.ofFloat? x).isSome := by
  rw [ofFloat?_eq]
  show x.toModel.unpack.isFinite = _
  cases x.toModel.unpack <;> rfl

namespace Document

theorem complete_writeFloat (x : Float) : (writeFloat x).complete = true := by
  unfold writeFloat
  cases Binary.ofFloat? x <;> rfl

/-- A finite number is written as a number that is read back. -/
theorem writeFloat_of_isFinite {x : Float} (h : x.isFinite = true) :
    ∃ d : Decimal, writeFloat x = .number d ∧ d.toFloat = x := by
  rw [Double.isFinite_eq] at h
  obtain ⟨b, hb⟩ := Option.isSome_iff_exists.1 h
  refine ⟨FloatStyle.document.decimal x b, ?_, FloatStyle.toFloat_decimal _ hb⟩
  unfold writeFloat
  rw [hb]

theorem writeFloat_of_not_isFinite {x : Float} (h : x.isFinite = false) : writeFloat x = .null := by
  rw [Double.isFinite_eq, Option.isSome_eq_false_iff, Option.isNone_iff_eq_none] at h
  unfold writeFloat
  rw [h]

/-! ## Readers and writers -/

variable {β : Type}

/-- What is written of a value that satisfies `P` is read back as that value, and every value that is
read satisfies `P`. Nothing is missing in what is written. -/
structure ReadsBack (read : Json → Except Fault β) (write : β → Json) (P : β → Prop) : Prop where
  complete : ∀ x, (write x).complete = true
  read_write : ∀ x, P x → read (write x) = .ok x
  of_read : ∀ v x, read v = .ok x → P x

/-- A document is read back in either layout, and every document gives a value with `P`. -/
theorem ReadsBack.parse {read : Json → Except Fault β} {write : β → Json} {P : β → Prop}
    (h : ReadsBack read write P) :
    (∀ x, P x → ∀ layout, Document.parse read ((write x).render layout) = .ok x) ∧
    ∀ input x, Document.parse read input = .ok x → P x := by
  refine ⟨?_, ?_⟩
  · intro x hx layout
    rw [Document.parse, Json.scan_render layout (h.complete x)]
    simp only [h.read_write x hx, if_true]
  · intro input x hx
    unfold Document.parse at hx
    dsimp only at hx
    split at hx
    · cases hx
    · next y hy =>
      split at hx
      · cases hx
        exact h.of_read _ _ hy
      · cases hx

@[simp] theorem complete_text (s : String) : (Json.text s).complete = true := rfl

@[simp] theorem complete_writeInstant (t : Instant) : (writeInstant t).complete = true := rfl

theorem readsBack_text : ReadsBack readText .text fun _ => True where
  complete _ := rfl
  read_write _ _ := rfl
  of_read _ _ _ := trivial

theorem readsBack_float : ReadsBack readFloat writeFloat fun x => x.isFinite = true where
  complete := complete_writeFloat
  read_write x hx := by
    obtain ⟨d, hd, hdx⟩ := writeFloat_of_isFinite hx
    simp only [hd, readFloat, hdx, hx, if_true]
  of_read v x h := by
    unfold readFloat at h
    split at h
    · split at h
      · next hfinite =>
        cases h
        exact hfinite
      · cases h
    · cases h

theorem readsBack_integer :
    ReadsBack readInteger (fun i : Int64 => writeInteger i.toInt) fun _ => True where
  complete _ := rfl
  read_write i _ := by
    have hint : (⟨i.toInt < 0, i.toInt.natAbs, 0, none⟩ : Decimal).toInt? = some i.toInt := by
      by_cases hneg : i.toInt < 0
      · have hne : i.toInt.natAbs ≠ 0 := by omega
        have habs : -(i.toInt.natAbs : Int) = i.toInt := by omega
        simp only [Decimal.toInt?, hneg, decide_true, and_self, if_true, hne, if_false, habs]
      · have habs : (i.toInt.natAbs : Int) = i.toInt := by omega
        simp only [Decimal.toInt?, hneg, decide_false, and_self, if_true, Bool.false_eq_true,
          if_false, habs]
    simp only [writeInteger, readInteger, hint]
    rw [if_pos ⟨i.minValue_le_toInt, i.toInt_le⟩, i.ofInt_toInt]
  of_read _ _ _ := trivial

theorem readsBack_instant : ReadsBack readInstant writeInstant Instant.OnClock where
  complete _ := rfl
  read_write t ht := by simp only [writeInstant, readInstant, t.read?_text_iff.2 ht]
  of_read v t h := by
    unfold readInstant at h
    split at h
    · split at h
      · next ht =>
        cases h
        exact Instant.onClock_of_read? ht
      · cases h
    · cases h

theorem readsBack_period : ReadsBack readPeriod (fun p => .text p.text) fun _ => True where
  complete _ := rfl
  read_write p _ := by simp only [readPeriod, p.read_text]
  of_read _ _ _ := trivial

theorem readsBack_zone (zones : ZoneTable) :
    ReadsBack (readZone zones) (fun z => .text z.name) fun z => zones.find? z.name = some z where
  complete _ := rfl
  read_write z hz := by simp only [readZone, hz]
  of_read v z h := by
    unfold readZone at h
    split at h
    · split at h
      · next hz =>
        cases h
        exact zones.find?_own _ z hz
      · cases h
    · cases h

theorem readsBack_filter : ReadsBack readFilter (fun f => .text f.text) Filter.IsChecked where
  complete _ := rfl
  read_write f hf := by simp only [readFilter, Filter.read_text hf]
  of_read v f h := by
    unfold readFilter at h
    split at h
    · split at h
      · next hf =>
        cases h
        exact Filter.isChecked_of_read hf
      · cases h
    · cases h

/-! ## Lists and objects -/

theorem complete_object {members : List (Option String × Json)}
    (h : ∀ m ∈ members, m.1.isSome = true ∧ m.2.complete = true) :
    (Json.object members).complete = true := by
  rw [Json.complete]
  induction members with
  | nil => rfl
  | cons m rest ih =>
    obtain ⟨name, v⟩ := m
    obtain ⟨hname, hv⟩ := h (name, v) List.mem_cons_self
    rw [Json.completeMembers, hname, hv, ih fun m hm => h m (List.mem_cons_of_mem _ hm)]
    rfl

theorem completeItems_map {write : β → Json} (h : ∀ x, (write x).complete = true) (xs : List β) :
    Json.completeItems (xs.map write) = true := by
  induction xs with
  | nil => rfl
  | cons x rest ih => rw [List.map_cons, Json.completeItems, h x, ih, Bool.true_and]

theorem readAll_map {read : Json → Except Fault β} {write : β → Json} {xs : List β}
    (h : ∀ x ∈ xs, read (write x) = .ok x) : readAll read (xs.map write) = .ok xs := by
  induction xs with
  | nil => rfl
  | cons x rest ih =>
    have hx := h x List.mem_cons_self
    have hrest := ih fun y hy => h y (List.mem_cons_of_mem x hy)
    rw [List.map_cons, readAll, hx]
    simp only [hrest, Except.map]

theorem forall_of_readAll {read : Json → Except Fault β} {P : β → Prop}
    (h : ∀ v x, read v = .ok x → P x) {vs : List Json} {xs : List β}
    (hxs : readAll read vs = .ok xs) : ∀ x ∈ xs, P x := by
  induction vs generalizing xs with
  | nil =>
    cases hxs
    simp
  | cons v rest ih =>
    rw [readAll] at hxs
    split at hxs
    · cases hxs
    · next x hx =>
      obtain ⟨ys, hys, rfl⟩ := map_eq_ok_iff.1 hxs
      intro y hy
      rcases List.mem_cons.1 hy with rfl | hy
      · exact h v y hx
      · exact ih hys y hy

theorem ReadsBack.list {read : Json → Except Fault β} {write : β → Json} {P : β → Prop}
    (h : ReadsBack read write P) :
    ReadsBack (readList read) (fun xs => .array (xs.map write)) fun xs => ∀ x ∈ xs, P x where
  complete xs := by rw [Json.complete, completeItems_map h.complete xs]
  read_write xs hxs := readAll_map fun x hx => h.read_write x (hxs x hx)
  of_read v xs hxs := by
    unfold readList at hxs
    split at hxs
    · exact forall_of_readAll h.of_read hxs
    · cases hxs

/-! ## Records -/

/-- What is read of a field that is given once. -/
theorem forall_of_once {read : Json → Except Fault β} {P : β → Prop}
    (h : ∀ v x, read v = .ok x → P x) {held given : Option β} {v : Json}
    (hgiven : once read held v = .ok given) : ∀ x ∈ given, P x := by
  unfold once at hgiven
  split at hgiven
  · cases hgiven
  · obtain ⟨x, hx, rfl⟩ := map_eq_ok_iff.1 hgiven
    intro y hy
    cases hy
    exact h v x hx

namespace Fields

variable {σ : Type} {fields : Fields σ} {P : σ → Prop}

/-- Each field of a record keeps `P`. -/
def Keep (fields : Fields σ) (P : σ → Prop) : Prop :=
  ∀ f ∈ fields, ∀ v s s', P s → f.2 v s = .ok s' → P s'

/-- Members may come in any order, and those that are no fields are passed over. -/
theorem Keep.readMembers (hfields : fields.Keep P) {members : List (Option String × Json)}
    {start s : σ} (hstart : P start) (h : fields.readMembers members start = .ok s) : P s := by
  induction members generalizing start with
  | nil =>
    cases h
    exact hstart
  | cons member rest ih =>
    obtain ⟨_ | name, v⟩ := member
    · cases h
    rw [Fields.readMembers] at h
    split at h
    · split at h
      · exact ih hstart h
      · cases h
    · next read hread =>
      obtain ⟨before, after, rfl, -⟩ := List.lookup_eq_some_iff.1 hread
      split at h
      · cases h
      · next s' hs' => exact ih (hfields (name, read) (by simp) v start s' hstart hs') h

theorem Keep.readItems (hfields : fields.Keep P) {items : List Json} {start s : σ}
    (hstart : P start) (h : fields.readItems items start = .ok s) : P s := by
  induction items generalizing fields start with
  | nil =>
    rw [Fields.readItems] at h
    cases h
    exact hstart
  | cons v rest ih =>
    cases fields with
    | nil => cases h
    | cons f fields =>
      rw [Fields.readItems] at h
      split at h
      · cases h
      · next s' hs' =>
        have hs' := hfields f List.mem_cons_self v start s' hstart hs'
        exact ih (fun g hg => hfields g (List.mem_cons_of_mem f hg)) hs' h

/-- What holds before the first field of a record and is kept by each of its fields holds of the
whole record, be it written as an object or as an array. -/
theorem Keep.read (hfields : fields.Keep P) {v : Json} {start s : σ} (hstart : P start)
    (h : fields.read start v = .ok s) : P s := by
  unfold Fields.read at h
  split at h
  · exact hfields.readMembers hstart h
  · exact hfields.readItems hstart h
  · cases h

end Fields

end Document

end Logbook
