import Mathlib.Logic.Relation
import Logbook.Proofs.Time.Tiling

/-!
# The two walks over the rows

The starts of the rows and their buckets are found by two walks. Both step through the same instants,
so they agree, and one fails where the other does.

* `Period.Reaches` — the instants that a walk can come to.
* `Period.startsBefore_eq_map_tiles` — the one walk answers the starts of what the other answers, or
  the same error.
* `Period.tiles_eq_error_iff` — a walk fails iff it comes to an instant before the stop from which no
  step can be made.
* `RowPlan.buckets_tile` — the rows tile their time, and the walks agree.
-/

namespace Logbook

namespace Period

variable {p : Period} {z : Zone} {stop cursor : Instant}

/-- The instant is `start`, or one comes to it from there by steps of the period. -/
def Reaches (p : Period) (z : Zone) (start : Instant) : Instant → Prop :=
  Relation.ReflTransGen (fun t next => p.step z t = .ok next) start

/-- Steps only move ahead. -/
theorem Reaches.le {start t : Instant} (h : p.Reaches z start t) : start ≤ t := by
  induction h with
  | refl => exact Int.le_refl _
  | tail _ hstep ih => exact Int.le_of_lt (Int.lt_of_le_of_lt ih (lt_step hstep))

theorem tiles_of_error {e : PeriodError} (hlt : cursor < stop) (hstep : p.step z cursor = .error e) :
    p.tiles z stop cursor = .error e := by
  rw [tiles, if_pos hlt]
  split
  · rename_i e' herror
    rw [hstep] at herror
    cases herror
    rfl
  · rename_i next hnext
    rw [hstep] at hnext
    cases hnext

theorem startsBefore_of_le (h : stop ≤ cursor) : p.startsBefore z stop cursor = .ok [] := by
  have hover : ¬ cursor < stop := Int.not_lt.2 h
  rw [startsBefore, if_neg hover]

theorem startsBefore_of_lt {next : Instant} (hlt : cursor < stop)
    (hstep : p.step z cursor = .ok next) :
    p.startsBefore z stop cursor = (p.startsBefore z stop next).map (cursor :: ·) := by
  rw [startsBefore, if_pos hlt]
  split
  · rename_i e herror
    rw [hstep] at herror
    cases herror
  · rename_i next' hnext
    rw [hstep] at hnext
    cases hnext
    rfl

theorem startsBefore_of_error {e : PeriodError} (hlt : cursor < stop)
    (hstep : p.step z cursor = .error e) : p.startsBefore z stop cursor = .error e := by
  rw [startsBefore, if_pos hlt]
  split
  · rename_i e' herror
    rw [hstep] at herror
    cases herror
    rfl
  · rename_i next hnext
    rw [hstep] at hnext
    cases hnext

/-! ## Both walks -/

/-- The starts of the rows are those of their buckets, and both walks fail alike. -/
theorem startsBefore_eq_map_tiles (p : Period) (z : Zone) (stop cursor : Instant) :
    p.startsBefore z stop cursor = (p.tiles z stop cursor).map fun bs => bs.map (·.start) := by
  induction cursor using Period.startsBefore.induct p z stop with
  | case1 cursor hlt e hstep =>
    rw [tiles_of_error hlt hstep, startsBefore_of_error hlt hstep]
    rfl
  | case2 cursor hlt next hstep ih =>
    rw [tiles_of_lt hlt hstep, startsBefore_of_lt hlt hstep, ih]
    cases p.tiles z stop next <;> rfl
  | case3 cursor hlt =>
    rw [tiles_of_le (Int.not_lt.1 hlt), startsBefore_of_le (Int.not_lt.1 hlt)]
    rfl

/-- A walk fails with the error of the first step that cannot be made. -/
theorem tiles_eq_error_iff {e : PeriodError} :
    p.tiles z stop cursor = .error e ↔
      ∃ t, p.Reaches z cursor t ∧ t < stop ∧ p.step z t = .error e := by
  constructor
  · intro h
    induction cursor using Period.tiles.induct p z stop with
    | case1 cursor hlt e' hstep =>
      rw [tiles_of_error hlt hstep] at h
      cases h
      exact ⟨cursor, .refl, hlt, hstep⟩
    | case2 cursor hlt next hstep ih =>
      rw [tiles_of_lt hlt hstep, map_eq_error_iff] at h
      obtain ⟨t, hreach, ht, hfail⟩ := ih h
      exact ⟨t, .head hstep hreach, ht, hfail⟩
    | case3 cursor hlt =>
      rw [tiles_of_le (Int.not_lt.1 hlt)] at h
      cases h
  · rintro ⟨t, hreach, ht, hfail⟩
    induction hreach using Relation.ReflTransGen.head_induction_on with
    | refl => exact tiles_of_error ht hfail
    | head hstep hrest ih =>
      -- What lies before `t` lies before the stop, so the walk gets past it.
      have hnext := Int.lt_of_lt_of_le (lt_step hstep) (Reaches.le hrest)
      rw [tiles_of_lt (Int.lt_trans hnext ht) hstep, map_eq_error_iff]
      exact ih

/-- A bucket stops one period after its start, or at the stop of the walk if that comes first. -/
theorem step_of_mem_tiles {bs : List Bucket} (h : p.tiles z stop cursor = .ok bs) :
    ∀ b ∈ bs, p.Reaches z cursor b.start ∧
      ∃ next, p.step z b.start = .ok next ∧ b.stop = next.earlier stop := by
  induction cursor using Period.tiles.induct p z stop generalizing bs with
  | case1 cursor hlt e hstep =>
    rw [tiles_of_error hlt hstep] at h
    cases h
  | case2 cursor hlt next hstep ih =>
    rw [tiles_of_lt hlt hstep] at h
    obtain ⟨rest, hrest, rfl⟩ := map_eq_ok_iff.1 h
    intro b hb
    rcases List.mem_cons.1 hb with rfl | hb
    · exact ⟨.refl, next, hstep, rfl⟩
    · obtain ⟨hreach, hstop⟩ := ih hrest b hb
      exact ⟨.head hstep hreach, hstop⟩
  | case3 cursor hlt =>
    rw [tiles_of_le (Int.not_lt.1 hlt)] at h
    cases h
    intro b hb
    cases hb

theorem ne_nil_of_tiles {bs : List Bucket} (h : p.tiles z stop cursor = .ok bs)
    (hlt : cursor < stop) : bs ≠ [] := by
  rintro rfl
  cases (tiles_tiles h (Int.le_of_lt hlt)).1
  exact absurd hlt (Int.lt_irrefl _)

end Period

namespace Bucket

/-- In a tiling without empty buckets, each one starts after those before it. -/
theorem Tiles.pairwise_start {start stop : Instant} {bs : List Bucket} (h : Tiles start bs stop)
    (hpos : ∀ b ∈ bs, b.start < b.stop) : (bs.map (·.start)).Pairwise (· < ·) := by
  induction bs generalizing start with
  | nil => exact .nil
  | cons b rest ih =>
    obtain ⟨rfl, -, hrest⟩ := h
    rw [List.map_cons, List.pairwise_cons]
    refine ⟨?_, ih hrest fun c hc => hpos c (List.mem_cons_of_mem b hc)⟩
    intro t ht
    obtain ⟨c, hc, rfl⟩ := List.mem_map.1 ht
    exact Int.lt_of_lt_of_le (hpos b List.mem_cons_self) (hrest.within c hc).1

/-- What a bucket of a tiling covers lies between the ends. -/
theorem Tiles.between {start stop : Instant} {bs : List Bucket} (h : Tiles start bs stop)
    {b : Bucket} (hb : b ∈ bs) {t : Instant} (ht : b.Covers t) : start ≤ t ∧ t < stop := by
  obtain ⟨hstart, -, hstop⟩ := h.within b hb
  exact ⟨Int.le_trans hstart ht.1, Int.lt_of_lt_of_le ht.2 hstop⟩

end Bucket

/-! ## Rows -/

namespace RowPlan

theorem starts_eq_map_buckets (r : RowPlan) (z : Zone) :
    r.starts z = (r.buckets z).map fun bs => bs.map (·.start) :=
  Period.startsBefore_eq_map_tiles r.period z r.stop r.start

/-- **The rows tile their time, and both walks over them agree.** There are no rows iff the time does
not start before it stops. Otherwise the buckets follow each other from its start to its stop, none
of them is empty, each one stops one period after its start or at the stop of the rows if that comes
first, and every instant of the time lies in exactly one bucket while no other lies in any. The
starts of the rows are those of their buckets, in order and before the stop; if there are none, it is
for the same error, and that is the error of a step from some start of a row before the stop. -/
theorem buckets_tile (r : RowPlan) (z : Zone) :
    (∀ bs, r.buckets z = .ok bs →
      (bs = [] ↔ r.stop ≤ r.start) ∧
      (r.start < r.stop → Bucket.Tiles r.start bs r.stop) ∧
      (∀ b ∈ bs, b.start < b.stop ∧
        ∃ next, r.period.step z b.start = .ok next ∧ b.stop = next.earlier r.stop) ∧
      (∀ t, r.start ≤ t → t < r.stop → ∃ i : Nat, (∃ b : Bucket, bs[i]? = some b ∧ b.Covers t) ∧
        ∀ (j : Nat) (b : Bucket), bs[j]? = some b → b.Covers t → j = i) ∧
      (∀ b ∈ bs, ∀ t, b.Covers t → r.start ≤ t ∧ t < r.stop) ∧
      (bs.map (·.start)).Pairwise (· < ·) ∧
      ∀ b ∈ bs, b.start < r.stop) ∧
    r.starts z = (r.buckets z).map (fun bs => bs.map (·.start)) ∧
    ∀ e, r.buckets z = .error e ↔
      ∃ t, r.period.Reaches z r.start t ∧ t < r.stop ∧ r.period.step z t = .error e := by
  refine ⟨?_, r.starts_eq_map_buckets z, fun e => Period.tiles_eq_error_iff⟩
  intro bs h
  by_cases hlt : r.start < r.stop
  · obtain ⟨htiles, hpos⟩ := Period.tiles_tiles h (Int.le_of_lt hlt)
    refine ⟨?_, fun _ => htiles, ?_, ?_, ?_, htiles.pairwise_start hpos, ?_⟩
    · simp only [Period.ne_nil_of_tiles h hlt, false_iff]
      exact Int.not_le.2 hlt
    · intro b hb
      exact ⟨hpos b hb, (Period.step_of_mem_tiles h b hb).2⟩
    · intro t hstart hstop
      exact htiles.existsUnique hstart hstop
    · intro b hb t ht
      exact htiles.between hb ht
    · intro b hb
      exact Int.lt_of_lt_of_le (hpos b hb) (htiles.within b hb).2.2
  · have hle : r.stop ≤ r.start := Int.not_lt.1 hlt
    cases h.symm.trans (Period.tiles_of_le hle)
    refine ⟨by simpa using hle, fun h => absurd h hlt, by simp, ?_, by simp, by simp, by simp⟩
    intro t hstart hstop
    exact absurd (Int.lt_of_le_of_lt hstart hstop) hlt

end RowPlan

end Logbook
