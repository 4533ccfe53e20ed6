import Logbook.Proofs.Outcome
import Logbook.Time.Rows

/-!
# Tilings

Buckets tile a stretch of time if each one starts where the one before it stops.

* `Bucket.Tiles` — the first bucket starts where the stretch does, the last one stops where it does,
  and no bucket stops before it starts.
* `Tiles.existsUnique` — every instant of the stretch lies in exactly one of the buckets.
* `Period.tiles_tiles` — the pieces of a cut at every period tile what is cut, and none is empty.
-/

namespace Logbook

namespace Instant

theorem eq_of_rank_eq {s t : Instant} (h : s.rank = t.rank) : s = t :=
  Instant.ext (LocalTime.eq_of_rank_eq h)

theorem earlier_of_le {s t : Instant} (h : s ≤ t) : s.earlier t = s := by
  rw [le_def] at h
  refine eq_of_rank_eq ?_
  rw [rank_earlier]
  omega

theorem earlier_of_ge {s t : Instant} (h : t ≤ s) : s.earlier t = t := by
  rw [le_def] at h
  refine eq_of_rank_eq ?_
  rw [rank_earlier]
  omega

end Instant

namespace Bucket

/-- The instant lies in the bucket, which holds its start and not its stop. -/
def Covers (b : Bucket) (t : Instant) : Prop :=
  b.start ≤ t ∧ t < b.stop

instance (b : Bucket) (t : Instant) : Decidable (b.Covers t) :=
  inferInstanceAs (Decidable (_ ∧ _))

theorem covers_iff {b : Bucket} {t : Instant} :
    b.Covers t ↔ b.start.rank ≤ t.rank ∧ t.rank < b.stop.rank := Iff.rfl

/-! ## Buckets one after the other -/

/-- The buckets follow each other from `start` to `stop` without a gap. -/
def Tiles (start : Instant) : List Bucket → (stop : Instant) → Prop
  | [], stop => start = stop
  | b :: rest, stop => b.start = start ∧ b.start ≤ b.stop ∧ Tiles b.stop rest stop

theorem Tiles.le {start stop : Instant} {bs : List Bucket} (h : Tiles start bs stop) :
    start ≤ stop := by
  induction bs generalizing start with
  | nil =>
    cases h
    exact Int.le_refl _
  | cons b rest ih =>
    obtain ⟨rfl, hle, hrest⟩ := h
    exact Int.le_trans hle (ih hrest)

/-- No bucket of a tiling reaches beyond the ends. -/
theorem Tiles.within {start stop : Instant} {bs : List Bucket} (h : Tiles start bs stop) :
    ∀ b ∈ bs, start ≤ b.start ∧ b.start ≤ b.stop ∧ b.stop ≤ stop := by
  induction bs generalizing start with
  | nil => simp
  | cons c rest ih =>
    obtain ⟨rfl, hle, hrest⟩ := h
    intro b hb
    rcases List.mem_cons.1 hb with rfl | hb
    · exact ⟨Int.le_refl _, hle, hrest.le⟩
    · obtain ⟨h1, h2, h3⟩ := ih hrest b hb
      exact ⟨Int.le_trans hle h1, h2, h3⟩

theorem tiles_concat_iff {start stop : Instant} {bs : List Bucket} {b : Bucket} :
    Tiles start (bs ++ [b]) stop ↔ Tiles start bs b.start ∧ b.start ≤ b.stop ∧ b.stop = stop := by
  induction bs generalizing start with
  | nil =>
    simp only [List.nil_append, Tiles]
    exact ⟨fun ⟨h₁, h₂⟩ => ⟨h₁.symm, h₂⟩, fun ⟨h₁, h₂⟩ => ⟨h₁.symm, h₂⟩⟩
  | cons c rest ih => simp only [List.cons_append, Tiles, ih, and_assoc]

/-- The stretches between one cut and the next tile a stretch iff no cut comes before the last. -/
theorem tiles_map_range_iff (cut : Nat → Instant) (n : Nat) :
    Tiles (cut 0) ((List.range n).map fun k => ⟨cut k, cut (k + 1)⟩) (cut n) ↔
      ∀ k < n, cut k ≤ cut (k + 1) := by
  induction n with
  | zero => simp [Tiles]
  | succ n ih =>
    rw [List.range_succ, List.map_append, List.map_singleton, tiles_concat_iff, ih]
    constructor
    · rintro ⟨h, hn, -⟩ k hk
      rcases Nat.lt_succ_iff_lt_or_eq.1 hk with hk | rfl
      · exact h k hk
      · exact hn
    · intro h
      exact ⟨fun k hk => h k (by omega), h n (by omega), rfl⟩

/-- Every instant of a tiled stretch lies in one bucket, and in no second one. -/
theorem Tiles.existsUnique {start stop : Instant} {bs : List Bucket} (h : Tiles start bs stop)
    {t : Instant} (hstart : start ≤ t) (hstop : t < stop) :
    ∃ i : Nat, (∃ b : Bucket, bs[i]? = some b ∧ b.Covers t) ∧
      ∀ (j : Nat) (b : Bucket), bs[j]? = some b → b.Covers t → j = i := by
  induction bs generalizing start with
  | nil =>
    cases h
    rw [Instant.le_def] at hstart
    rw [Instant.lt_def] at hstop
    omega
  | cons b rest ih =>
    obtain ⟨rfl, hle, hrest⟩ := h
    by_cases hb : t < b.stop
    · refine ⟨0, ⟨b, rfl, hstart, hb⟩, ?_⟩
      intro j c hc hcovers
      rcases j with _ | j
      · rfl
      · -- A later bucket starts where this one stops or after that.
        have hmem : c ∈ rest := List.mem_of_getElem? (by simpa using hc)
        have hc := (hrest.within c hmem).1
        rw [Instant.le_def] at hc
        rw [Instant.lt_def] at hb
        rw [covers_iff] at hcovers
        omega
    · rw [Instant.lt_def] at hb
      obtain ⟨i, ⟨c, hc, hcovers⟩, huniq⟩ := ih hrest (by rw [Instant.le_def]; omega)
      refine ⟨i + 1, ⟨c, by simpa using hc, hcovers⟩, ?_⟩
      intro j c hc hcovers
      rcases j with _ | j
      · have hc : b = c := by simpa using hc
        rw [← hc, covers_iff] at hcovers
        omega
      · rw [huniq j c (by simpa using hc) hcovers]

end Bucket

/-! ## Cuts at every period -/

namespace Period

variable {p : Period} {z : Zone}

theorem tiles_of_le {stop cursor : Instant} (h : stop ≤ cursor) :
    p.tiles z stop cursor = .ok [] := by
  rw [Instant.le_def] at h
  rw [tiles, if_neg (by rw [Instant.lt_def]; omega)]

theorem tiles_of_lt {stop cursor next : Instant} (hlt : cursor < stop)
    (hstep : p.step z cursor = .ok next) :
    p.tiles z stop cursor = (p.tiles z stop next).map (⟨cursor, next.earlier stop⟩ :: ·) := by
  rw [tiles, if_pos hlt]
  split
  · rename_i e herror
    rw [hstep] at herror
    cases herror
  · rename_i next' hnext
    rw [hstep] at hnext
    cases hnext
    rfl

/-- What one step covers is one piece. -/
theorem tiles_of_le_step {stop cursor next : Instant} (hlt : cursor < stop)
    (hstep : p.step z cursor = .ok next) (hle : stop ≤ next) :
    p.tiles z stop cursor = .ok [⟨cursor, stop⟩] := by
  rw [tiles_of_lt hlt hstep, tiles_of_le hle, Instant.earlier_of_ge hle]
  rfl

/-- A cut at every period tiles what is cut, and has no empty piece. -/
theorem tiles_tiles {stop cursor : Instant} {bs : List Bucket}
    (h : p.tiles z stop cursor = .ok bs) (hle : cursor ≤ stop) :
    Bucket.Tiles cursor bs stop ∧ ∀ b ∈ bs, b.start < b.stop := by
  induction cursor using Period.tiles.induct p z stop generalizing bs with
  | case1 cursor hlt e hstep =>
    rw [tiles, if_pos hlt] at h
    split at h
    · cases h
    · rename_i next hnext
      rw [hstep] at hnext
      cases hnext
  | case2 cursor hlt next hstep ih =>
    rw [tiles_of_lt hlt hstep] at h
    obtain ⟨rest, hrest, rfl⟩ := map_eq_ok_iff.1 h
    have hahead : cursor < next := lt_step hstep
    by_cases hnext : next ≤ stop
    · obtain ⟨htiles, hpos⟩ := ih hrest hnext
      rw [Instant.earlier_of_le hnext]
      refine ⟨⟨rfl, Int.le_of_lt hahead, htiles⟩, ?_⟩
      intro b hb
      rcases List.mem_cons.1 hb with rfl | hb
      · exact hahead
      · exact hpos b hb
    · have hbeyond : stop < next := by
        rw [Instant.le_def] at hnext
        rw [Instant.lt_def]
        omega
      rw [tiles_of_le (Int.le_of_lt hbeyond)] at hrest
      cases hrest
      rw [Instant.earlier_of_ge (Int.le_of_lt hbeyond)]
      refine ⟨⟨rfl, hle, rfl⟩, ?_⟩
      intro b hb
      cases List.mem_singleton.1 hb
      exact hlt
  | case3 cursor hlt =>
    rw [tiles, if_neg hlt] at h
    cases h
    refine ⟨Instant.eq_of_rank_eq ?_, by simp⟩
    rw [Instant.lt_def] at hlt
    rw [Instant.le_def] at hle
    omega

end Period

end Logbook
