import Logbook.Time.Instant

/-!
# Time zones

A zone is an offset from UTC that changes at a finite list of seconds. Its type keeps the changes in
order and every offset strictly within a day. A leap second has the offset of the second before it.

* `Zone.wallTime` is the time that a clock of the zone shows at an instant.
* `Zone.earliest?` finds the first second at which the clock shows a given second; `none` in a gap.
* `Zone.offsetAt_bounds` bounds the offset, which is what stepping through time relies on.
* A `ZoneTable` gives zones by their names.

Model of the zones of `chrono-tz` as far as `tr-types`, `tr-reduce` and `tr-view` use them: the
offset at an instant, the first instant that shows a time, and a zone's name.
-/

namespace Logbook

/-- From the second `since` on, clocks are `offset` seconds ahead of UTC. -/
structure OffsetChange where
  since : Int
  offset : Int
deriving DecidableEq, Repr

/-- An offset in seconds that is smaller than a day in either direction. -/
def WithinDay (offset : Int) : Prop :=
  -86400 < offset ∧ offset < 86400

instance (offset : Int) : Decidable (WithinDay offset) :=
  inferInstanceAs (Decidable (_ ∧ _))

/-- A time zone: its name, its offset before the first change, and the changes in order. -/
structure Zone where
  name : String
  base : Int
  changes : List OffsetChange
  base_within : WithinDay base
  changes_within : ∀ c ∈ changes, WithinDay c.offset
  ordered : changes.Pairwise fun a b => a.since < b.since
deriving DecidableEq

namespace Zone

/-- A zone whose clocks are always `offset` seconds ahead of UTC. -/
def fixed (name : String) (offset : Int) (within : WithinDay offset) : Zone where
  name := name
  base := offset
  changes := []
  base_within := within
  changes_within := by simp
  ordered := .nil

/-- The zone whose clocks show UTC. -/
def utc : Zone :=
  fixed "UTC" 0 (by decide)

/-- Whether each change comes after the one before it. -/
def inOrder : List OffsetChange → Bool
  | a :: b :: rest => decide (a.since < b.since) && inOrder (b :: rest)
  | _ => true

/-- It is enough to compare neighbours. -/
theorem pairwise_of_inOrder {changes : List OffsetChange} (h : inOrder changes = true) :
    changes.Pairwise fun a b => a.since < b.since := by
  induction changes with
  | nil => exact .nil
  | cons a rest ih =>
    cases rest with
    | nil => exact List.pairwise_singleton ..
    | cons b rest =>
      simp only [inOrder, Bool.and_eq_true, decide_eq_true_eq] at h
      have hrest := ih h.2
      refine List.pairwise_cons.2 ⟨fun c hc => ?_, hrest⟩
      rcases List.mem_cons.1 hc with rfl | hc
      · exact h.1
      · exact Int.lt_trans h.1 ((List.pairwise_cons.1 hrest).1 c hc)

/-! ## From instants to wall times -/

/-- The offset at the second `s`: that of the last change up to it, or else `current`. -/
def offsetFrom (current : Int) : List OffsetChange → (s : Int) → Int
  | [], _ => current
  | c :: rest, s => if c.since ≤ s then offsetFrom c.offset rest s else current

/-- The offset from UTC in seconds at the second `s` of UTC. -/
def offsetAt (z : Zone) (s : Int) : Int :=
  offsetFrom z.base z.changes s

/-- The second that a clock of the zone shows at the second `s` of UTC. -/
def wallSecond (z : Zone) (s : Int) : Int :=
  s + z.offsetAt s

/-- The time that a clock of the zone shows at an instant. -/
def wallTime (z : Zone) (t : Instant) : LocalTime :=
  t.utc.ahead (z.offsetAt t.utc.seconds)

theorem seconds_wallTime (z : Zone) (t : Instant) :
    (z.wallTime t).seconds = z.wallSecond t.utc.seconds := rfl

theorem offsetFrom_within {current : Int} {changes : List OffsetChange} (s : Int)
    (hcurrent : WithinDay current) (hchanges : ∀ c ∈ changes, WithinDay c.offset) :
    WithinDay (offsetFrom current changes s) := by
  induction changes generalizing current with
  | nil => exact hcurrent
  | cons c rest ih =>
    rw [offsetFrom]
    split
    · exact ih (hchanges c (by simp)) fun d hd => hchanges d (by simp [hd])
    · exact hcurrent

/-- Every offset is strictly within a day. -/
theorem offsetAt_bounds (z : Zone) (s : Int) : WithinDay (z.offsetAt s) :=
  offsetFrom_within s z.base_within z.changes_within

/-- A wall clock is less than a day away from UTC. -/
theorem wallSecond_bounds (z : Zone) (s : Int) :
    s - secondsPerDay < z.wallSecond s ∧ z.wallSecond s < s + secondsPerDay := by
  have h := z.offsetAt_bounds s
  unfold WithinDay at h
  unfold wallSecond secondsPerDay
  omega

/-! ## From wall times to instants -/

/-- The first second from `start` on at which clocks show the second `wall`, where clocks are
`offset` ahead until the first change of the list. -/
def earliestFrom (start : Option Int) (offset : Int) : List OffsetChange → (wall : Int) → Option Int
  | [], wall =>
    let s := wall - offset
    if start.all (· ≤ s) then some s else none
  | c :: rest, wall =>
    let s := wall - offset
    if start.all (· ≤ s) ∧ s < c.since then some s
    else earliestFrom (some c.since) c.offset rest wall

/-- The first second of UTC at which a clock of the zone shows the second `wall`, if it ever does. -/
def earliest? (z : Zone) (wall : Int) : Option Int :=
  earliestFrom none z.base z.changes wall

theorem wall_of_earliestFrom {start : Option Int} {offset : Int} {changes : List OffsetChange}
    {wall s : Int} (hordered : changes.Pairwise fun a b => a.since < b.since)
    (hstart : ∀ a ∈ start, ∀ c ∈ changes, a ≤ c.since)
    (h : earliestFrom start offset changes wall = some s) :
    (∀ a ∈ start, a ≤ s) ∧ s + offsetFrom offset changes s = wall := by
  induction changes generalizing start offset with
  | nil =>
    simp only [earliestFrom] at h
    split at h
    · rename_i hs
      simp only [Option.some.injEq] at h
      subst h
      exact ⟨by simpa [Option.all_eq_true] using hs, by simp only [offsetFrom]; omega⟩
    · simp at h
  | cons c rest ih =>
    simp only [earliestFrom] at h
    split at h
    · rename_i hs
      simp only [Option.some.injEq] at h
      subst h
      refine ⟨by simpa [Option.all_eq_true] using hs.1, ?_⟩
      rw [offsetFrom, if_neg (by omega)]
      omega
    · obtain ⟨hc, hrest⟩ := List.pairwise_cons.1 hordered
      obtain ⟨h1, h2⟩ := ih hrest
        (by
          intro a ha d hd
          rw [← Option.mem_some.1 ha]
          exact Int.le_of_lt (hc d hd)) h
      have h1 := h1 _ rfl
      rw [offsetFrom, if_pos h1]
      refine ⟨fun a ha => ?_, h2⟩
      exact Int.le_trans (hstart a ha c (by simp)) h1

/-- At the second that `earliest?` finds, the clock shows the second asked for. -/
theorem wallSecond_of_earliest? {z : Zone} {wall s : Int} (h : z.earliest? wall = some s) :
    z.wallSecond s = wall :=
  (wall_of_earliestFrom z.ordered (by simp) h).2

end Zone

/-- Zones by their names. The tz database is such a table, and nothing more is asked of it than this:
a zone that is found is found under its own name, and UTC is always known. -/
structure ZoneTable where
  find? : String → Option Zone
  find?_own : ∀ name z, find? name = some z → find? z.name = some z
  find?_utc : find? Zone.utc.name = some Zone.utc

end Logbook
