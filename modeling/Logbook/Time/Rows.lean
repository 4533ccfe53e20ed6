import Logbook.Time.Period

/-!
# The rows of a report

A `RowPlan` lays rows over the time from `start` to `stop`: row `k` covers the time from `start`
plus `k` periods, reached step by step, to the start of the next row, and the last row ends at
`stop`.

* `RowPlan.starts` lists where the rows start.
* `RowPlan.buckets` lists the time that each row covers.

Both walks end because a step moves ahead (`Period.lt_step`).

Model of `RowDefinition` with `timestamps` and `buckets` of `tr-types`.
-/

namespace Logbook

/-- The time from `start` up to, but not including, `stop`. -/
structure Bucket where
  start : Instant
  stop : Instant
deriving DecidableEq, Repr

/-- The instants `cursor`, one period later, and so on, that lie before `stop`. -/
def Period.startsBefore (p : Period) (z : Zone) (stop cursor : Instant) :
    Except PeriodError (List Instant) :=
  if cursor < stop then
    match _h : p.step z cursor with
    | .error e => .error e
    | .ok next => (p.startsBefore z stop next).map (cursor :: ·)
  else .ok []
termination_by (stop.rank - cursor.rank).toNat
decreasing_by
  have := Period.lt_step _h
  rename_i hlt
  rw [Instant.lt_def] at hlt
  omega

/-- The time from `cursor` to `stop` cut at every period; the last piece ends at `stop`. -/
def Period.tiles (p : Period) (z : Zone) (stop cursor : Instant) :
    Except PeriodError (List Bucket) :=
  if cursor < stop then
    match _h : p.step z cursor with
    | .error e => .error e
    | .ok next => (p.tiles z stop next).map (⟨cursor, next.earlier stop⟩ :: ·)
  else .ok []
termination_by (stop.rank - cursor.rank).toNat
decreasing_by
  have := Period.lt_step _h
  rename_i hlt
  rw [Instant.lt_def] at hlt
  omega

/-- The rows of a report: where they start and stop, and the length of one. -/
structure RowPlan where
  start : Instant
  stop : Instant
  period : Period
deriving DecidableEq

namespace RowPlan

/-- Where the rows start, in order. -/
def starts (r : RowPlan) (z : Zone) : Except PeriodError (List Instant) :=
  r.period.startsBefore z r.stop r.start

/-- The time that each row covers, in order. -/
def buckets (r : RowPlan) (z : Zone) : Except PeriodError (List Bucket) :=
  r.period.tiles z r.stop r.start

end RowPlan

end Logbook
