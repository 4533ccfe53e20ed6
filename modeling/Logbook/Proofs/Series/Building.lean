import Mathlib.Order.Bounds.Basic
import Logbook.Proofs.Time.Tiling
import Logbook.Series.Basic

/-!
# Building a series

A series is built from readings that are in order of time, or that are put in order first. All that
works on a series rests on what is let in here.

* `Reading.inversions` — where a list of readings goes back in time; `firstInversion?_eq_some_iff`
  says that the first such place is found.
* `Reading.IsStableSort` — the same readings in order of time, those of one instant as they came;
  `isStableSort_iff` says that there is one such list, which sorting leads to.
* `Series.ofReadings_eq_ok_iff`, `Series.ofReadings_eq_error_iff` — what is let in and why the rest is
  not.
* `Series.built_iff` — both ways to build a series together.
-/

namespace Logbook

variable {β : Type}

namespace Reading

/-! ## Where readings go back in time -/

/-- The positions of the readings that are earlier than the one before them. -/
def inversions (readings : List (Reading β)) : Set Nat :=
  {i | 0 < i ∧ ∃ before r, readings[i - 1]? = some before ∧ readings[i]? = some r ∧
    r.instant < before.instant}

variable {a b : Reading β} {rest readings : List (Reading β)} {i : Nat}

theorem one_mem_inversions : 1 ∈ inversions (a :: b :: rest) ↔ b.instant < a.instant := by
  simp [inversions]

theorem succ_succ_mem_inversions : i + 2 ∈ inversions (a :: rest) ↔ i + 1 ∈ inversions rest := by
  simp [inversions]

theorem isLeast_of_firstInversion? (h : firstInversion? readings = some i) :
    IsLeast (inversions readings) i := by
  induction readings generalizing i with
  | nil => cases h
  | cons a rest ih =>
    cases rest with
    | nil => cases h
    | cons b rest =>
      rw [firstInversion?] at h
      split at h
      · next hback =>
        cases h
        exact ⟨one_mem_inversions.2 hback, fun j hj => hj.1⟩
      · next hnot =>
        obtain ⟨j, hj, rfl⟩ := Option.map_eq_some_iff.1 h
        obtain ⟨hmem, hleast⟩ := ih hj
        obtain ⟨j, rfl⟩ := Nat.exists_eq_succ_of_ne_zero (Nat.pos_iff_ne_zero.1 hmem.1)
        refine ⟨succ_succ_mem_inversions.2 hmem, fun k hk => ?_⟩
        obtain _ | _ | k := k
        · exact absurd hk.1 (Nat.lt_irrefl 0)
        · exact absurd (one_mem_inversions.1 hk) hnot
        · exact Nat.succ_le_succ (hleast (succ_succ_mem_inversions.1 hk))

theorem notMem_inversions (h : InOrder readings) : i ∉ inversions readings := by
  rintro ⟨hpos, before, r, hbefore, hr, hback⟩
  obtain ⟨hi, rfl⟩ := List.getElem?_eq_some_iff.1 hbefore
  obtain ⟨hi', rfl⟩ := List.getElem?_eq_some_iff.1 hr
  have hle := List.pairwise_iff_getElem.1 h (i - 1) i hi hi' (by omega)
  exact absurd hle (Int.not_le.2 hback)

/-- The position that is found is the first one. -/
theorem firstInversion?_eq_some_iff :
    firstInversion? readings = some i ↔ IsLeast (inversions readings) i := by
  refine ⟨isLeast_of_firstInversion?, fun hleast => ?_⟩
  cases hfirst : firstInversion? readings with
  | some j => rw [(isLeast_of_firstInversion? hfirst).unique hleast]
  | none => exact absurd hleast.1 (notMem_inversions (firstInversion?_eq_none_iff.1 hfirst))

/-- Readings that are not in order of time go back somewhere, and somewhere first. -/
theorem inOrder_or_exists (readings : List (Reading β)) :
    InOrder readings ∨ ∃ i, IsLeast (inversions readings) i := by
  cases hfirst : firstInversion? readings with
  | none => exact .inl (firstInversion?_eq_none_iff.1 hfirst)
  | some i => exact .inr ⟨i, firstInversion?_eq_some_iff.1 hfirst⟩

theorem inversions_eq_empty_iff : inversions readings = ∅ ↔ InOrder readings := by
  constructor
  · intro hnone
    refine (inOrder_or_exists readings).resolve_right ?_
    rintro ⟨i, hi⟩
    exact Set.notMem_empty i (hnone ▸ hi.1)
  · exact fun h => Set.eq_empty_of_forall_notMem fun _ => notMem_inversions h

/-! ## Sorting -/

/-- The same readings in order of time, those of one instant in the order given. -/
structure IsStableSort (given sorted : List (Reading β)) : Prop where
  perm : sorted.Perm given
  inOrder : InOrder sorted
  keeps : ∀ t : Instant, sorted.filter (·.instant = t) = given.filter (·.instant = t)

theorem isStableSort_sortByInstant (readings : List (Reading β)) :
    IsStableSort readings (sortByInstant readings) := by
  have hperm : (sortByInstant readings).Perm readings := List.mergeSort_perm readings _
  refine ⟨hperm, sortByInstant_inOrder readings, fun t => ?_⟩
  -- The readings of one instant are in order as they stand, so sorting leaves them in place.
  have hsub : (readings.filter (·.instant = t)).Sublist (sortByInstant readings) := by
    refine List.sublist_mergeSort (fun a b c hab hbc => ?_) (fun a b => ?_) ?_ List.filter_sublist
    · simp only [decide_eq_true_eq, Instant.le_def] at *
      exact hab.trans hbc
    · simp only [Bool.or_eq_true, decide_eq_true_eq, Instant.le_def]
      exact Int.le_total a.instant.rank b.instant.rank
    · refine List.pairwise_of_forall_mem_list fun a ha b hb => ?_
      have ha : a.instant = t := by simpa using (List.mem_filter.1 ha).2
      have hb : b.instant = t := by simpa using (List.mem_filter.1 hb).2
      rw [decide_eq_true_eq, ha, hb, Instant.le_def]
  have hkept := hsub.filter (·.instant = t)
  simp only [List.filter_filter, Bool.and_self] at hkept
  exact (hkept.eq_of_length (hperm.filter _).length_eq.symm).symm

theorem head_le (h : InOrder (a :: rest)) (hb : b ∈ a :: rest) : a.instant ≤ b.instant := by
  rcases List.mem_cons.1 hb with rfl | hb
  · exact Int.le_refl _
  · exact List.rel_of_pairwise_cons h hb

theorem mem_iff_of_filter_eq {xs ys : List (Reading β)}
    (h : ∀ t : Instant, xs.filter (·.instant = t) = ys.filter (·.instant = t)) (r : Reading β) :
    r ∈ xs ↔ r ∈ ys := by
  have hr : (r ∈ xs.filter (·.instant = r.instant)) ↔ r ∈ ys.filter (·.instant = r.instant) := by
    rw [h]
  simpa using hr

/-- Readings in order of time are given by what there is at each instant. -/
theorem eq_of_filter_eq {xs ys : List (Reading β)} (hxs : InOrder xs) (hys : InOrder ys)
    (h : ∀ t : Instant, xs.filter (·.instant = t) = ys.filter (·.instant = t)) : xs = ys := by
  induction xs generalizing ys with
  | nil =>
    refine (List.eq_nil_iff_forall_not_mem.2 fun r hr => ?_).symm
    exact List.not_mem_nil ((mem_iff_of_filter_eq h r).2 hr)
  | cons a xs ih =>
    have hmem := mem_iff_of_filter_eq h
    cases ys with
    | nil => exact absurd ((hmem a).1 List.mem_cons_self) List.not_mem_nil
    | cons b ys =>
      -- Each list starts with a reading that is not later than any other one.
      have hinstant : b.instant = a.instant :=
        Instant.eq_of_rank_eq (Int.le_antisymm (head_le hys ((hmem a).1 List.mem_cons_self))
          (head_le hxs ((hmem b).2 List.mem_cons_self)))
      have hheads := h a.instant
      rw [List.filter_cons_of_pos (by simp), List.filter_cons_of_pos (by simp [hinstant])] at hheads
      obtain ⟨rfl, htails⟩ := List.cons.inj hheads
      have hrest : ∀ t : Instant, xs.filter (·.instant = t) = ys.filter (·.instant = t) := by
        intro t
        rcases eq_or_ne a.instant t with rfl | hne
        · exact htails
        · have hother := h t
          rwa [List.filter_cons_of_neg (by simpa using hne),
            List.filter_cons_of_neg (by simpa using hne)] at hother
      rw [ih (List.pairwise_cons.1 hxs).2 (List.pairwise_cons.1 hys).2 hrest]

/-- There is one way to sort. -/
theorem isStableSort_iff {given sorted : List (Reading β)} :
    IsStableSort given sorted ↔ sorted = sortByInstant given := by
  have hgiven := isStableSort_sortByInstant given
  constructor
  · intro h
    exact eq_of_filter_eq h.inOrder hgiven.inOrder fun t => (h.keeps t).trans (hgiven.keeps t).symm
  · rintro rfl
    exact hgiven

theorem sortByInstant_of_inOrder (h : InOrder readings) : sortByInstant readings = readings :=
  (isStableSort_iff.1 ⟨.refl _, h, fun _ => rfl⟩).symm

end Reading

namespace Series

/-! ## What is let in -/

variable {start stop : Instant} {readings : List (Reading β)} {s : Series β} {e : SeriesError}

theorem ofReadings_eq_ok_iff : ofReadings start stop readings = .ok s ↔
    start ≤ stop ∧ Reading.InOrder readings ∧
      s.start = start ∧ s.stop = stop ∧ s.readings.toList = readings := by
  unfold ofReadings
  split
  · next hle =>
    split
    · next position hsome =>
      have hnot : ¬ Reading.InOrder readings := by
        rw [← Reading.firstInversion?_eq_none_iff, hsome]
        exact Option.some_ne_none position
      simp [hnot]
    · next hnone =>
      have hinOrder := Reading.firstInversion?_eq_none_iff.1 hnone
      constructor
      · rintro ⟨⟩
        exact ⟨hle, hinOrder, rfl, rfl, rfl⟩
      · rintro ⟨-, -, rfl, rfl, rfl⟩
        rfl
  · next hnot => simp [hnot]

theorem ofReadings_eq_error_iff : ofReadings start stop readings = .error e ↔
    stop < start ∧ e = .invertedBounds start stop ∨
    start ≤ stop ∧ ∃ i, Reading.firstInversion? readings = some i ∧ e = .unsorted i := by
  unfold ofReadings
  split
  · next hle =>
    have hnot : ¬ stop < start := Int.not_lt.2 hle
    split
    · next position hsome => simp [hle, hnot, hsome, eq_comm]
    · next hnone => simp [hnot, hnone]
  · next hnot =>
    have hback : stop < start := Int.not_le.1 hnot
    simp [hnot, hback, eq_comm]

theorem ofUnsorted_eq_ok_iff : ofUnsorted start stop readings = .ok s ↔
    start ≤ stop ∧ s.start = start ∧ s.stop = stop ∧
      Reading.IsStableSort readings s.readings.toList := by
  have hinOrder := Reading.sortByInstant_inOrder readings
  rw [ofUnsorted, ofReadings_eq_ok_iff, Reading.isStableSort_iff, and_iff_right hinOrder]

theorem ofUnsorted_eq_error_iff : ofUnsorted start stop readings = .error e ↔
    stop < start ∧ e = .invertedBounds start stop := by
  have hnone := Reading.firstInversion?_eq_none_iff.2 (Reading.sortByInstant_inOrder readings)
  simp [ofUnsorted, ofReadings_eq_error_iff, hnone]

/-- **A series is built from readings in order of time only.** Bounds that are the wrong way round are
refused before all else, then readings of which one is earlier than the one before it, with the first
position where that is so; all others are kept as they are. Readings in any order are refused for their
bounds only, as they are put in order by a stable sort first. If they are in order already, that makes no
difference. -/
theorem built_iff (start stop : Instant) (readings : List (Reading β)) :
    (∀ e, ofReadings start stop readings = .error e ↔
      stop < start ∧ e = .invertedBounds start stop ∨
      start ≤ stop ∧ ∃ i, IsLeast (Reading.inversions readings) i ∧ e = .unsorted i) ∧
    ((∃ i, ofReadings start stop readings = .error (.unsorted i)) ↔
      start ≤ stop ∧ (Reading.inversions readings).Nonempty) ∧
    ((∃ s, ofReadings start stop readings = .ok s ∧
        s.start = start ∧ s.stop = stop ∧ s.readings.toList = readings) ↔
      start ≤ stop ∧ Reading.inversions readings = ∅) ∧
    (∀ e, ofUnsorted start stop readings = .error e ↔
      stop < start ∧ e = .invertedBounds start stop) ∧
    ((∃ s, ofUnsorted start stop readings = .ok s ∧
        s.start = start ∧ s.stop = stop ∧ Reading.IsStableSort readings s.readings.toList) ↔
      start ≤ stop) ∧
    (Reading.inversions readings = ∅ →
      ofUnsorted start stop readings = ofReadings start stop readings) := by
  have herror : ∀ e, ofReadings start stop readings = .error e ↔
      stop < start ∧ e = .invertedBounds start stop ∨
      start ≤ stop ∧ ∃ i, IsLeast (Reading.inversions readings) i ∧ e = .unsorted i := by
    intro e
    simp only [ofReadings_eq_error_iff, Reading.firstInversion?_eq_some_iff]
  refine ⟨herror, ?_, ?_, fun e => ofUnsorted_eq_error_iff, ?_, fun hnone => ?_⟩
  · constructor
    · rintro ⟨i, hi⟩
      obtain ⟨-, h⟩ | ⟨hle, j, hj, -⟩ := (herror _).1 hi
      · cases h
      · exact ⟨hle, j, hj.1⟩
    · rintro ⟨hle, hsome⟩
      obtain ⟨i, hi⟩ := (Reading.inOrder_or_exists readings).resolve_left fun hinOrder =>
        hsome.ne_empty (Reading.inversions_eq_empty_iff.2 hinOrder)
      exact ⟨i, (herror _).2 (.inr ⟨hle, i, hi, rfl⟩)⟩
  · constructor
    · rintro ⟨s, hs, -⟩
      obtain ⟨hle, hinOrder, -⟩ := ofReadings_eq_ok_iff.1 hs
      exact ⟨hle, Reading.inversions_eq_empty_iff.2 hinOrder⟩
    · rintro ⟨hle, hnone⟩
      have hinOrder := Reading.inversions_eq_empty_iff.1 hnone
      exact ⟨⟨start, stop, readings.toArray, hle, hinOrder⟩,
        ofReadings_eq_ok_iff.2 ⟨hle, hinOrder, rfl, rfl, rfl⟩, rfl, rfl, rfl⟩
  · constructor
    · rintro ⟨s, hs, -⟩
      exact (ofUnsorted_eq_ok_iff.1 hs).1
    · intro hle
      have hsorted := Reading.isStableSort_sortByInstant readings
      exact ⟨⟨start, stop, (Reading.sortByInstant readings).toArray, hle, hsorted.inOrder⟩,
        ofUnsorted_eq_ok_iff.2 ⟨hle, rfl, rfl, hsorted⟩, rfl, rfl, hsorted⟩
  · rw [ofUnsorted, Reading.sortByInstant_of_inOrder (Reading.inversions_eq_empty_iff.1 hnone)]

/-- Readings at the seconds 2, 1 and 1 go back in time at the second one. Sorting leaves the two readings
of the same second as they came. -/
theorem built_iff_three :
    let early : Instant := ⟨⟨1, 0, by decide⟩, by decide⟩
    let late : Instant := ⟨⟨2, 0, by decide⟩, by decide⟩
    let a : Reading String := ⟨1, late, "a"⟩
    let b : Reading String := ⟨1, early, "b"⟩
    let c : Reading String := ⟨1, early, "c"⟩
    ofReadings early late [a, b, c] = .error (.unsorted 1) ∧
    ofReadings late early [a, b, c] = .error (.invertedBounds late early) ∧
    (∃ s, ofUnsorted early late [a, b, c] = .ok s ∧ s.readings.toList = [b, c, a]) ∧
    ofUnsorted early late [b, c, a] = ofReadings early late [b, c, a] := by
  intro early late a b c
  obtain ⟨herror, -, -, -, hsorted, -⟩ := built_iff early late [a, b, c]
  obtain ⟨hbounds, -⟩ := built_iff late early [a, b, c]
  obtain ⟨-, -, -, -, -, hsame⟩ := built_iff early late [b, c, a]
  have hfirst : IsLeast (Reading.inversions [a, b, c]) 1 :=
    Reading.firstInversion?_eq_some_iff.1 (by decide)
  have hinOrder : Reading.InOrder [b, c, a] := Reading.firstInversion?_eq_none_iff.1 (by decide)
  obtain ⟨s, hs, -, -, hstable⟩ := hsorted.2 (by decide)
  refine ⟨(herror _).2 (.inr ⟨by decide, 1, hfirst, rfl⟩), (hbounds _).2 (.inl ⟨by decide, rfl⟩),
    ⟨s, hs, ?_⟩, hsame (Reading.inversions_eq_empty_iff.2 hinOrder)⟩
  have hresult : Reading.IsStableSort [a, b, c] [b, c, a] := by
    refine ⟨by decide, hinOrder, fun t => ?_⟩
    rcases eq_or_ne early t with rfl | hne
    · decide
    · simp [List.filter_cons, b, c, hne]
  exact (Reading.isStableSort_iff.1 hstable).trans (Reading.isStableSort_iff.1 hresult).symm

end Series

end Logbook
