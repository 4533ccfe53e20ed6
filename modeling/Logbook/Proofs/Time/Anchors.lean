import Mathlib.Logic.Function.Iterate
import Logbook.Proofs.Time.PeriodText
import Logbook.Proofs.Time.RowWalks
import Logbook.Proofs.Time.Steps

/-!
# Rows and their anchor

Rows start where one step after the other leads. The row that is `k` steps after the first one should
start `k` periods after it, but a move by months can lower the day of the month, and a gap can put off
the time of day, and the next step starts from what they have changed.

* `Date.KeepsDay` — no month on the way is too short for the day that is asked for at its end.
* `LocalTime.iterate_addMonths_eq_iff` — moves by some months, one after the other, come to where one
  long move does iff the day is kept; else to an earlier day (`LocalTime.iterate_addMonths_le`).
* `Period.Walk` — instants each of which is one step after the one before it, as the starts of rows
  are (`Period.walk_of_startsBefore`).
* `Period.OnTarget` — the first steps of a walk are not put off by a gap.
* `RowPlan.starts_anchored` — when a row starts as many periods after the first one as it should.
-/

namespace Logbook

/-! ## Moves by months, one after the other -/

namespace Date

variable {d e : Date} {months n : Nat}

/-- No month on the way of `n` moves by `months` months is too short for the day that one move by all
these months comes to. -/
def KeepsDay (d : Date) (months n : Nat) : Prop :=
  ∀ j < n, 0 < j → (d.addMonths (n * months)).day ≤ (d.addMonths (j * months)).day

instance : Decidable (d.KeepsDay months n) :=
  inferInstanceAs (Decidable (∀ j < n, 0 < j → _))

/-- Every month has the first 28 days. -/
theorem keepsDay_of_day_le (h : d.day ≤ 28) : d.KeepsDay months n := by
  intro j _ _
  have hlength := (daysInMonth_bounds (d.addMonths (j * months)).year
    (d.addMonths (j * months)).month).1
  rw [day_addMonths, day_addMonths]
  omega

/-- February is too short for the 31st of March, and April for the 31st of May. -/
example : ¬ KeepsDay ⟨2025, 1, 31⟩ 1 2 ∧ ¬ KeepsDay ⟨2025, 3, 31⟩ 1 2 ∧
    KeepsDay ⟨2025, 3, 30⟩ 1 2 := by
  decide

/-- A date in the month of another one, and not on a later day, moves to the day that the other one
comes to, unless its own day is lower. -/
theorem day_addMonths_of_monthIndex {skipped : Nat} (hmonth : e.monthIndex = d.monthIndex + skipped)
    (hday : e.day ≤ d.day) :
    (e.addMonths months).day = min e.day (d.addMonths (skipped + months)).day := by
  have hsame : e.monthIndex + months = d.monthIndex + (skipped + months : Nat) := by omega
  unfold addMonths
  rw [hsame]
  dsimp only
  omega

theorem monthIndex_iterate (d : Date) (months n : Nat) :
    ((·.addMonths months)^[n] d).monthIndex = d.monthIndex + (n * months : Nat) := by
  induction n with
  | zero => simp
  | succ n ih =>
    rw [Function.iterate_succ_apply', monthIndex_addMonths, ih, Nat.succ_mul]
    omega

theorem day_iterate_le (d : Date) (months n : Nat) : ((·.addMonths months)^[n] d).day ≤ d.day := by
  induction n with
  | zero => exact Nat.le_refl _
  | succ n ih =>
    rw [Function.iterate_succ_apply', day_addMonths]
    omega

/-- Moves one after the other keep a day iff no month that they come to is too short for it. -/
theorem le_day_iterate_iff {day : Nat} (hday : day ≤ d.day) :
    day ≤ ((·.addMonths months)^[n] d).day ↔
      ∀ j < n + 1, 0 < j → day ≤ (d.addMonths (j * months)).day := by
  induction n with
  | zero =>
    refine ⟨?_, fun _ => hday⟩
    intro _ j hj hpos
    omega
  | succ n ih =>
    rw [Function.iterate_succ_apply',
      day_addMonths_of_monthIndex (monthIndex_iterate d months n) (day_iterate_le d months n),
      Nat.le_min, ih, ← Nat.succ_mul]
    constructor
    · rintro ⟨hbefore, hlast⟩ j hj hpos
      rcases Nat.lt_succ_iff_lt_or_eq.1 hj with hj | rfl
      · exact hbefore j hj hpos
      · exact hlast
    · intro h
      exact ⟨fun j hj => h j (by omega), h (n + 1) (by omega) (Nat.succ_pos n)⟩

/-- Moves one after the other never come to a later day than one long move. -/
theorem day_iterate_le_day (d : Date) (months : Nat) (hn : 0 < n) :
    ((·.addMonths months)^[n] d).day ≤ (d.addMonths (n * months)).day :=
  (le_day_iterate_iff (day_iterate_le d months n)).1 (Nat.le_refl _) n (Nat.lt_succ_self n) hn

/-- They come to the same day iff no month on the way is too short for it. -/
theorem day_iterate_eq_iff (hn : 0 < n) :
    ((·.addMonths months)^[n] d).day = (d.addMonths (n * months)).day ↔ d.KeepsDay months n := by
  have hday : (d.addMonths (n * months)).day ≤ d.day := Nat.min_le_left _ _
  have hle := day_iterate_le_day d months hn
  rw [show ((·.addMonths months)^[n] d).day = (d.addMonths (n * months)).day ↔
    (d.addMonths (n * months)).day ≤ ((·.addMonths months)^[n] d).day by omega,
    le_day_iterate_iff hday]
  constructor
  · intro h j hj
    exact h j (by omega)
  · intro h j hj hpos
    rcases Nat.lt_succ_iff_lt_or_eq.1 hj with hj | rfl
    · exact h j hj hpos
    · exact Nat.le_refl _

end Date

namespace LocalTime

variable {l : LocalTime} {months n : Nat}

theorem date_iterate (l : LocalTime) (months n : Nat) :
    ((·.addMonths months)^[n] l).date = (·.addMonths months)^[n] l.date := by
  induction n with
  | zero => rfl
  | succ n ih => rw [Function.iterate_succ_apply', Function.iterate_succ_apply', date_addMonths, ih]

theorem secondOfDay_iterate (l : LocalTime) (months n : Nat) :
    ((·.addMonths months)^[n] l).secondOfDay = l.secondOfDay := by
  induction n with
  | zero => rfl
  | succ n ih => rw [Function.iterate_succ_apply', secondOfDay_addMonths, ih]

theorem nanos_iterate (l : LocalTime) (months n : Nat) :
    ((·.addMonths months)^[n] l).nanos = l.nanos := by
  induction n with
  | zero => rfl
  | succ n ih =>
    rw [Function.iterate_succ_apply']
    exact ih

/-- Moves by months come to the clock that one long move comes to iff the day is kept. -/
theorem iterate_addMonths_eq_iff (hn : 0 < n) :
    (·.addMonths months)^[n] l = l.addMonths (n * months) ↔ l.date.KeepsDay months n := by
  rw [← Date.day_iterate_eq_iff hn, ← date_iterate]
  constructor
  · intro h
    rw [h, date_addMonths]
  · intro hday
    have hmonth : ((·.addMonths months)^[n] l).date.monthIndex =
        (l.date.addMonths (n * months)).monthIndex := by
      rw [date_iterate, Date.monthIndex_iterate, Date.monthIndex_addMonths]
    have hdate : ((·.addMonths months)^[n] l).date = l.date.addMonths (n * months) :=
      Date.eq_of_monthIndex_eq (date_valid _) (Date.addMonths_valid l.date_valid _) hmonth hday
    refine LocalTime.ext ?_ (nanos_iterate l months n)
    rw [seconds_eq, hdate, secondOfDay_iterate]
    rfl

/-- They never come to a later clock. -/
theorem iterate_addMonths_le (l : LocalTime) (months : Nat) (hn : 0 < n) :
    (·.addMonths months)^[n] l ≤ l.addMonths (n * months) := by
  have hvalid := Date.addMonths_valid l.date_valid (n * months)
  have hstart := Date.dayNumber_eq_monthStart (date_valid ((·.addMonths months)^[n] l))
  have hend := Date.dayNumber_eq_monthStart hvalid
  have hday := Date.day_iterate_le_day l.date months hn
  rw [date_iterate] at hstart
  rw [Date.monthIndex_iterate] at hstart
  rw [Date.monthIndex_addMonths] at hend
  have hseconds : ((·.addMonths months)^[n] l).seconds ≤ (l.addMonths (n * months)).seconds := by
    rw [seconds_eq, date_iterate, secondOfDay_iterate]
    show _ ≤ (l.date.addMonths (n * months)).dayNumber * secondsPerDay + l.secondOfDay
    unfold secondsPerDay
    omega
  have hnanos := nanos_iterate l months n
  have hsame : (l.addMonths (n * months)).nanos = l.nanos := rfl
  rw [le_def, rank, rank]
  omega

end LocalTime

/-! ## Walks -/

namespace Period

variable {p q : Period} {z : Zone} {t next start stop : Instant} {ts : List Instant} {k : Nat}

theorem seconds?_eq_none_of_unit_eq (hunit : q.unit = p.unit) (hp : p.seconds? = none) :
    q.seconds? = none := by
  rw [seconds?, Option.map_eq_none_iff] at hp ⊢
  rwa [hunit]

/-- A clock set to UTC shows every time, at the instant that it names. -/
theorem firstAtOrAfter_utc_eq_ok_iff {l : LocalTime} :
    Zone.utc.firstAtOrAfter l = .ok t ↔ t.utc = l := by
  have hfound : Zone.utc.earliest? l.seconds = some l.seconds := by
    simp [Zone.earliest?, Zone.utc, Zone.fixed, Zone.earliestFrom]
  rw [Zone.firstAtOrAfter, hfound, ← Instant.ofUtc?_eq_some_iff]
  dsimp only
  cases Instant.ofUtc? l <;> simp

/-- In UTC, a step of a period of the calendar moves the date of the instant. -/
theorem step_utc_eq_ok_iff (hp : p.seconds? = none) :
    p.step Zone.utc t = .ok next ↔ p.unit.months * p.count < 4294967296 ∧
      next.utc = t.utc.addMonths (p.unit.months * p.count) := by
  have hwall : Zone.utc.wallTime t = t.utc := LocalTime.ext (Int.add_zero _) rfl
  rw [step_calendar_eq_ok_iff hp, target, hwall, firstAtOrAfter_utc_eq_ok_iff]
  constructor
  · rintro ⟨hlt, -, -, hnext⟩
    exact ⟨hlt, hnext⟩
  · rintro ⟨hlt, hnext⟩
    exact ⟨hlt, t.inRange, hnext ▸ next.inRange, hnext⟩

/-- The instants begin with `start`, and each one is one step after the one before it. -/
structure Walk (p : Period) (z : Zone) (start : Instant) (ts : List Instant) : Prop where
  head : ∀ t, ts[0]? = some t → t = start
  step : ∀ k t next, ts[k]? = some t → ts[k + 1]? = some next → p.step z t = .ok next

/-- The starts of rows are a walk. -/
theorem walk_of_startsBefore (h : p.startsBefore z stop start = .ok ts) : p.Walk z start ts := by
  induction start using Period.startsBefore.induct p z stop generalizing ts with
  | case1 start hlt e hstep =>
    rw [startsBefore_of_error hlt hstep] at h
    cases h
  | case2 start hlt next hstep ih =>
    rw [startsBefore_of_lt hlt hstep] at h
    obtain ⟨rest, hrest, rfl⟩ := map_eq_ok_iff.1 h
    have hwalk := ih hrest
    refine ⟨?_, ?_⟩
    · intro t ht
      exact (Option.some.inj ht).symm
    · intro k t later ht hlater
      cases k with
      | zero =>
        cases ht
        rw [hwalk.head later hlater]
        exact hstep
      | succ k => exact hwalk.step k t later ht hlater
  | case3 start hlt =>
    rw [startsBefore_of_le (Int.not_lt.1 hlt)] at h
    cases h
    exact ⟨by simp, by simp⟩

/-- The first `k` steps come to instants at which the clock shows their targets: none of them ends
where a gap does. -/
def OnTarget (p : Period) (z : Zone) (ts : List Instant) (k : Nat) : Prop :=
  ∀ j < k, ∀ t next, ts[j]? = some t → ts[j + 1]? = some next → z.wallTime next = p.target z t

namespace Walk

/-- A walk that has come to an instant has come to one before it. -/
theorem exists_before (h : p.Walk z start ts) (hnext : ts[k + 1]? = some next) :
    ∃ t, ts[k]? = some t ∧ p.step z t = .ok next := by
  have hlt : k < ts.length := by
    have := (List.getElem?_eq_some_iff.1 hnext).1
    omega
  exact ⟨ts[k], List.getElem?_eq_getElem hlt, h.step k _ _ (List.getElem?_eq_getElem hlt) hnext⟩

/-- The steps of a fixed period add up. -/
theorem utc_of_fixed {s : Nat} (h : p.Walk z start ts) (hp : p.seconds? = some s)
    (hnext : ts[k + 1]? = some next) :
    next.utc.seconds = start.utc.seconds + ((k + 1) * s : Nat) ∧
      next.utc.nanos = start.utc.nanos % 1000000000 := by
  induction k generalizing next with
  | zero =>
    obtain ⟨t, ht, hstep⟩ := h.exists_before hnext
    cases h.head t ht
    obtain ⟨hseconds, hnanos⟩ := (step_fixed_eq_ok_iff hp).1 hstep
    exact ⟨by omega, hnanos⟩
  | succ k ih =>
    obtain ⟨t, ht, hstep⟩ := h.exists_before hnext
    obtain ⟨hseconds, hnanos⟩ := (step_fixed_eq_ok_iff hp).1 hstep
    obtain ⟨hbefore, hsame⟩ := ih ht
    rw [Nat.succ_mul (k + 1) s]
    exact ⟨by omega, by omega⟩

/-- The clock moves on by 28 days or more for each month. -/
theorem add_le_wallTime (h : p.Walk z start ts) (hp : p.seconds? = none) (ht : ts[k]? = some t) :
    (z.wallTime start).seconds +
      28 * (k * (p.unit.months * p.count) : Nat) * secondsPerDay ≤ (z.wallTime t).seconds := by
  induction k generalizing t with
  | zero =>
    rw [h.head t ht]
    simp
  | succ k ih =>
    obtain ⟨before, hbefore, hstep⟩ := h.exists_before ht
    obtain ⟨-, -, -, hfound⟩ := (step_calendar_eq_ok_iff hp).1 hstep
    have hreached := LocalTime.seconds_le_of_le (Zone.le_wall_of_firstAtOrAfter hfound)
    have hmove := (z.wallTime before).add_le_seconds_addMonths (p.unit.months * p.count)
    have hsofar := ih hbefore
    rw [Nat.succ_mul]
    unfold target at hreached
    unfold secondsPerDay at *
    omega

/-- A clock that never changes has no gaps. -/
theorem onTarget_of_changes (h : p.Walk z start ts) (hp : p.seconds? = none) (hz : z.changes = []) :
    OnTarget p z ts k := by
  intro j _ t next ht hnext
  obtain ⟨-, -, -, hfound⟩ := (step_calendar_eq_ok_iff hp).1 (h.step j t next ht hnext)
  have hshown : z.earliest? (p.target z t).seconds = some ((p.target z t).seconds - z.base) := by
    rw [Zone.earliest?, hz]
    simp [Zone.earliestFrom]
  exact Zone.wallTime_of_firstAtOrAfter hshown hfound

/-- All the months that a walk within the calendar moves by fit in 32 bits. -/
theorem months_lt (h : p.Walk z start ts) (hp : p.seconds? = none) (ht : ts[k]? = some t) :
    k * (p.unit.months * p.count) < 4294967296 := by
  have hmoved := h.add_le_wallTime hp ht
  have hfirst := (z.wallSecond_bounds start.utc.seconds).1
  have hlast := (z.wallSecond_bounds t.utc.seconds).2
  have hlow := start.inRange.1
  have hhigh := t.inRange.2
  rw [Zone.seconds_wallTime, Zone.seconds_wallTime] at hmoved
  unfold secondsPerDay at *
  unfold LocalTime.firstSecond at hlow
  unfold LocalTime.lastSecond at hhigh
  omega

/-! ## One long step -/

/-- There is one period as long as all the periods that a walk of the calendar has come by. -/
theorem exists_ofCount (h : p.Walk z start ts) (hp : p.seconds? = none)
    (hnext : ts[k + 1]? = some next) : ∃ q, ofCount ((k + 1) * p.count) p.unit = .ok q := by
  have hunit : 1 ≤ p.unit.months := TimeUnit.months_pos (Option.map_eq_none_iff.1 hp)
  have hlt : (k + 1) * p.count < 4294967296 :=
    calc (k + 1) * p.count ≤ (k + 1) * (p.unit.months * p.count) :=
          Nat.mul_le_mul_left _ (Nat.le_mul_of_pos_left _ hunit)
      _ < 4294967296 := h.months_lt hp hnext
  exact ⟨⟨_, p.unit, Nat.mul_pos (Nat.succ_pos k) p.count_pos, hlt⟩,
    ofCount_eq_ok_iff.2 ⟨rfl, rfl⟩⟩

/-- Where the last step and the long one aim at the same time on the wall, they lead to the same
instant. -/
theorem step_of_target_eq (h : p.Walk z start ts) (hp : p.seconds? = none)
    (hq : ofCount ((k + 1) * p.count) p.unit = .ok q) (ht : ts[k]? = some t)
    (hnext : ts[k + 1]? = some next) (htarget : p.target z t = q.target z start) :
    q.step z start = .ok next := by
  obtain ⟨hcount, hunit⟩ := ofCount_eq_ok_iff.1 hq
  have hlt := h.months_lt hp hnext
  obtain ⟨-, -, hin, hfound⟩ := (step_calendar_eq_ok_iff hp).1 (h.step k t next ht hnext)
  have hstart : (z.wallTime start).InRange := by
    have hfirst : 1 < ts.length := by
      have := (List.getElem?_eq_some_iff.1 hnext).1
      omega
    obtain ⟨first, hhead, hstep⟩ := h.exists_before (List.getElem?_eq_getElem hfirst)
    rw [← h.head first hhead]
    exact ((step_calendar_eq_ok_iff hp).1 hstep).2.1
  rw [htarget] at hin hfound
  refine (step_calendar_eq_ok_iff (seconds?_eq_none_of_unit_eq hunit hp)).2 ⟨?_, hstart, hin, hfound⟩
  rwa [hunit, hcount, Nat.mul_left_comm]

end Walk

/-- While the steps are on target, the clock shows what moves by months come to. -/
theorem OnTarget.wallTime_eq (hon : OnTarget p z ts k) (h : p.Walk z start ts)
    (ht : ts[k]? = some t) :
    z.wallTime t = (·.addMonths (p.unit.months * p.count))^[k] (z.wallTime start) := by
  induction k generalizing t with
  | zero =>
    rw [h.head t ht]
    rfl
  | succ k ih =>
    obtain ⟨before, hbefore, -⟩ := h.exists_before ht
    have hsofar := ih (fun j hj => hon j (by omega)) hbefore
    rw [Function.iterate_succ_apply', ← hsofar]
    exact hon k (Nat.lt_succ_self k) before t hbefore ht

/-- While the steps are on target, the last one and the long one aim at the same time on the wall iff
the day is kept. -/
theorem OnTarget.target_eq_iff (hon : OnTarget p z ts k) (h : p.Walk z start ts)
    (hq : ofCount ((k + 1) * p.count) p.unit = .ok q) (ht : ts[k]? = some t) :
    p.target z t = q.target z start ↔
      (z.wallTime start).date.KeepsDay (p.unit.months * p.count) (k + 1) := by
  obtain ⟨hcount, hunit⟩ := ofCount_eq_ok_iff.1 hq
  rw [target, target, hunit, hcount, Nat.mul_left_comm, hon.wallTime_eq h ht,
    ← LocalTime.iterate_addMonths_eq_iff (Nat.succ_pos k), Function.iterate_succ_apply']

/-- If the last step is on target as well, it leads where the long one does only if both aim at the
same time. -/
theorem OnTarget.keepsDay_of_step (hon : OnTarget p z ts (k + 1)) (h : p.Walk z start ts)
    (hp : p.seconds? = none) (hq : ofCount ((k + 1) * p.count) p.unit = .ok q)
    (hnext : ts[k + 1]? = some next) (hstep : q.step z start = .ok next) :
    (z.wallTime start).date.KeepsDay (p.unit.months * p.count) (k + 1) := by
  obtain ⟨hcount, hunit⟩ := ofCount_eq_ok_iff.1 hq
  have hshown := hon.wallTime_eq h hnext
  obtain ⟨-, -, -, hfound⟩ :=
    (step_calendar_eq_ok_iff (seconds?_eq_none_of_unit_eq hunit hp)).1 hstep
  have hreached := Zone.le_wall_of_firstAtOrAfter hfound
  rw [target, hunit, hcount, Nat.mul_left_comm, hshown] at hreached
  have hle := (z.wallTime start).iterate_addMonths_le (p.unit.months * p.count) (Nat.succ_pos k)
  refine (LocalTime.iterate_addMonths_eq_iff (Nat.succ_pos k)).1 (LocalTime.eq_of_rank_eq ?_)
  exact Int.le_antisymm hle hreached

end Period

/-! ## Rows -/

namespace RowPlan

variable {r : RowPlan} {z : Zone} {ts : List Instant} {k : Nat} {row : Instant}

/-- **Rows and their anchor.** A period of fixed length keeps its rows at their anchor: row `k + 1`
starts `k + 1` times its seconds after the first one, as one step by that many periods says. For a
period of the calendar there is one period as long as `k + 1` of them. If no step before the last one
was put off by a gap, and no month on the way is too short for the day that the long period comes to,
one step of it leads from the first row to row `k + 1`; and if the last step was not put off either, it
leads there only then. No step is put off where the clock never changes, and no month is too short for
the first 28 days. -/
theorem starts_anchored (h : r.starts z = .ok ts) (hrow : ts[k + 1]? = some row) :
    (∀ s, r.period.seconds? = some s →
      r.start.add? (((k + 1) * s : Nat) * nanosPerSecond) = some row ∧
        ∀ q, Period.ofCount ((k + 1) * r.period.count) r.period.unit = .ok q →
          q.step z r.start = .ok row) ∧
    (r.period.seconds? = none →
      ∃ q, Period.ofCount ((k + 1) * r.period.count) r.period.unit = .ok q ∧
        (r.period.OnTarget z ts k →
          (z.wallTime r.start).date.KeepsDay (r.period.unit.months * r.period.count) (k + 1) →
            q.step z r.start = .ok row) ∧
        (r.period.OnTarget z ts (k + 1) →
          (q.step z r.start = .ok row ↔
            (z.wallTime r.start).date.KeepsDay (r.period.unit.months * r.period.count) (k + 1))) ∧
        (z.changes = [] → r.period.OnTarget z ts (k + 1)) ∧
        ((z.wallTime r.start).date.day ≤ 28 →
          (z.wallTime r.start).date.KeepsDay (r.period.unit.months * r.period.count) (k + 1))) := by
  have hwalk : r.period.Walk z r.start ts := Period.walk_of_startsBefore h
  refine ⟨?_, ?_⟩
  · intro s hs
    obtain ⟨hseconds, hnanos⟩ := hwalk.utc_of_fixed hs hrow
    refine ⟨?_, ?_⟩
    · have hpos : 1 ≤ (k + 1) * s := Nat.mul_pos (Nat.succ_pos k) (Period.one_le_seconds hs)
      rw [Instant.add?, LocalTime.add_seconds _ (by omega), Instant.ofUtc?_eq_some_iff]
      exact LocalTime.ext hseconds hnanos
    · intro q hq
      obtain ⟨hcount, hunit⟩ := Period.ofCount_eq_ok_iff.1 hq
      obtain ⟨unit, hlength, rfl⟩ := Period.seconds?_eq_some_iff.1 hs
      have hlong : q.seconds? = some ((k + 1) * (unit * r.period.count)) := by
        rw [Period.seconds?_eq_some_iff, hunit, hcount]
        exact ⟨unit, hlength, Nat.mul_left_comm _ _ _⟩
      exact (Period.step_fixed_eq_ok_iff hlong).2 ⟨hseconds, hnanos⟩
  · intro hp
    obtain ⟨q, hq⟩ := hwalk.exists_ofCount hp hrow
    obtain ⟨before, hbefore, -⟩ := hwalk.exists_before hrow
    have hkept : r.period.OnTarget z ts k →
        (z.wallTime r.start).date.KeepsDay (r.period.unit.months * r.period.count) (k + 1) →
          q.step z r.start = .ok row := by
      intro hon hday
      exact hwalk.step_of_target_eq hp hq hbefore hrow
        ((hon.target_eq_iff hwalk hq hbefore).2 hday)
    refine ⟨q, hq, hkept, ?_, fun hz => hwalk.onTarget_of_changes hp hz,
      fun hday => Date.keepsDay_of_day_le hday⟩
    intro hon
    refine ⟨fun hstep => hon.keepsDay_of_step hwalk hp hq hrow hstep, ?_⟩
    exact hkept fun j hj => hon j (by omega)

/-- Month after month from the 28th of January: the third row starts two months after the first. -/
theorem starts_anchored_monthly :
    ∃ (r : RowPlan) (ts : List Instant) (row : Instant) (q : Period),
      r.start.utc.date = ⟨2025, 1, 28⟩ ∧ r.period.text = "1M" ∧ r.starts Zone.utc = .ok ts ∧
        ts[2]? = some row ∧ row.utc.date = ⟨2025, 3, 28⟩ ∧ q.text = "2M" ∧
        q.step Zone.utc r.start = .ok row := by
  let p : Period := ⟨1, .month, by decide, by decide⟩
  let january : Instant := ⟨⟨1738022400, 0, by omega⟩, by decide⟩
  let february : Instant := ⟨⟨1740700800, 0, by omega⟩, by decide⟩
  let march : Instant := ⟨⟨1743120000, 0, by omega⟩, by decide⟩
  let april : Instant := ⟨⟨1745798400, 0, by omega⟩, by decide⟩
  let r : RowPlan := ⟨january, ⟨⟨1744675200, 0, by omega⟩, by decide⟩, p⟩
  have hfebruary : p.step Zone.utc january = .ok february :=
    (Period.step_utc_eq_ok_iff rfl).2 ⟨by decide, by decide⟩
  have hmarch : p.step Zone.utc february = .ok march :=
    (Period.step_utc_eq_ok_iff rfl).2 ⟨by decide, by decide⟩
  have hapril : p.step Zone.utc march = .ok april :=
    (Period.step_utc_eq_ok_iff rfl).2 ⟨by decide, by decide⟩
  have hstarts : r.starts Zone.utc = .ok [january, february, march] := by
    rw [starts, Period.startsBefore_of_lt (by decide) hfebruary,
      Period.startsBefore_of_lt (by decide) hmarch, Period.startsBefore_of_lt (by decide) hapril,
      Period.startsBefore_of_le (by decide)]
    rfl
  obtain ⟨q, hq, -, hiff, hchanges, hday⟩ :=
    (starts_anchored hstarts (show [january, february, march][1 + 1]? = some march from rfl)).2 rfl
  have hstep := (hiff (hchanges rfl)).2 (hday (by decide))
  obtain ⟨hcount, hunit⟩ := Period.ofCount_eq_ok_iff.1 hq
  refine ⟨r, _, march, q, by decide, by decide, hstarts, rfl, by decide, ?_,
    hstep⟩
  rw [Period.text, hcount, hunit]
  decide

/-- From the 31st of January, February leaves the third row at the 28th of March, and two months at
once lead to the 31st. -/
theorem starts_drift :
    ∃ (r : RowPlan) (ts : List Instant) (row next : Instant) (q : Period),
      r.start.utc.date = ⟨2025, 1, 31⟩ ∧ r.period.text = "1M" ∧ r.starts Zone.utc = .ok ts ∧
        ts[2]? = some row ∧ row.utc.date = ⟨2025, 3, 28⟩ ∧
        Period.ofCount (2 * r.period.count) r.period.unit = .ok q ∧
        q.step Zone.utc r.start = .ok next ∧ next.utc.date = ⟨2025, 3, 31⟩ ∧ row ≠ next := by
  let p : Period := ⟨1, .month, by decide, by decide⟩
  let q : Period := ⟨2, .month, by decide, by decide⟩
  let january : Instant := ⟨⟨1738281600, 0, by omega⟩, by decide⟩
  let february : Instant := ⟨⟨1740700800, 0, by omega⟩, by decide⟩
  let march : Instant := ⟨⟨1743120000, 0, by omega⟩, by decide⟩
  let april : Instant := ⟨⟨1745798400, 0, by omega⟩, by decide⟩
  let later : Instant := ⟨⟨1743379200, 0, by omega⟩, by decide⟩
  let r : RowPlan := ⟨january, ⟨⟨1744675200, 0, by omega⟩, by decide⟩, p⟩
  have hfebruary : p.step Zone.utc january = .ok february :=
    (Period.step_utc_eq_ok_iff rfl).2 ⟨by decide, by decide⟩
  have hmarch : p.step Zone.utc february = .ok march :=
    (Period.step_utc_eq_ok_iff rfl).2 ⟨by decide, by decide⟩
  have hapril : p.step Zone.utc march = .ok april :=
    (Period.step_utc_eq_ok_iff rfl).2 ⟨by decide, by decide⟩
  have hlater : q.step Zone.utc january = .ok later :=
    (Period.step_utc_eq_ok_iff rfl).2 ⟨by decide, by decide⟩
  have hstarts : r.starts Zone.utc = .ok [january, february, march] := by
    rw [starts, Period.startsBefore_of_lt (by decide) hfebruary,
      Period.startsBefore_of_lt (by decide) hmarch, Period.startsBefore_of_lt (by decide) hapril,
      Period.startsBefore_of_le (by decide)]
    rfl
  exact ⟨r, _, march, later, q, by decide, by decide, hstarts, rfl,
    by decide, rfl, hlater, by decide, by decide⟩

end RowPlan

end Logbook
