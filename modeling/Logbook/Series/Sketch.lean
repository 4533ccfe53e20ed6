import Logbook.Number.Arithmetic

/-!
# Quantile sketches

A sketch condenses numbers into at most a few hundred centroids, each a mean with a weight, from
which quantiles are estimated by interpolation.

* `Sketch.ofValues` sorts the finite numbers and gathers neighbours into centroids; how many may
  join one is limited by a scale that is fine at both ends, so extreme quantiles stay sharp.
* `Sketch.quantile` estimates the value below which a share of the numbers lies, and `Sketch.cdf`
  goes the other way by bisection.

Model of `Distribution` with `from_values`, `quantile`, `cdf` and the tails of `tr-series`, and of
the digest of `tdigest` that it keeps.
-/

namespace Logbook

open Arithmetic

/-- Some neighbouring numbers: their mean and how many they are. -/
structure Centroid (α : Type) where
  mean : α
  weight : α

/-- A condensed list of numbers: how many they are, the least and the greatest, and the centroids in
order of their means. -/
structure Sketch (α : Type) where
  count : Nat
  least : α
  greatest : α
  centroids : Array (Centroid α)

namespace Sketch

variable {α : Type} [Arithmetic α]

/-! ## Gathering -/

/-- The number of steps of the scale, which bounds the number of centroids. -/
def resolution : Nat := 200

/-- The share of the numbers below step `k` of the scale: quadratic from both ends to the middle. -/
def scale (k : Nat) : α :=
  let r : α := ofNat k / ofNat resolution
  if le (ofNat 1 / ofNat 2) r then
    let b := ofNat 1 - r
    ofNat 1 - ofNat 2 * b * b
  else ofNat 2 * r * r

/-- The centroids finished so far, latest first, and the one that numbers are joining. -/
structure Gathering (α : Type) where
  finished : List (Centroid α)
  /-- The step of the scale up to which the next centroid reaches. -/
  step : Nat
  /-- How many numbers the current centroid and those before it may hold. -/
  limit : α
  /-- The first number of the current centroid. -/
  head : α
  /-- The sum and the number of those that joined it. -/
  joined : α
  joinedCount : α
  /-- How many numbers have been gathered. -/
  seen : α

namespace Gathering

/-- The current centroid as it stands. -/
def current (g : Gathering α) : Centroid α :=
  let one : α := ofNat 1
  ⟨(g.joined + one * g.head) / (one + g.joinedCount), one + g.joinedCount⟩

/-- The start of gathering `total` numbers, the first of which is `x`. -/
def start (total x : α) : Gathering α :=
  ⟨[], 2, scale 1 * total, x, ofNat 0, ofNat 0, ofNat 1⟩

/-- One more number joins the current centroid, or opens the next one if that is full. -/
def add (total : α) (g : Gathering α) (x : α) : Gathering α :=
  let seen := g.seen + ofNat 1
  if le seen g.limit then
    { g with joined := g.joined + x, joinedCount := g.joinedCount + ofNat 1, seen := seen }
  else
    { finished := g.current :: g.finished
      step := g.step + 1
      limit := scale g.step * total
      head := x
      joined := ofNat 0
      joinedCount := ofNat 0
      seen := seen }

end Gathering

/-- The centroids of numbers that are in order. -/
def gather : List α → List (Centroid α)
  | [] => []
  | x :: rest =>
    let total : α := ofNat (rest.length + 1)
    let g := rest.foldl (Gathering.add total) (Gathering.start total x)
    (g.current :: g.finished).reverse

/-- The sketch of the finite numbers of a list. -/
def ofValues (values : List α) : Sketch α :=
  let sorted := (values.filter isFinite).mergeSort fun a b => le a b
  { count := sorted.length
    least := sorted.head?.getD nan
    greatest := sorted.getLast?.getD nan
    centroids := ((gather sorted).mergeSort fun a b => le a.mean b.mean).toArray }

/-! ## Quantiles -/

/-- Whether the sketch holds no numbers. -/
def isEmpty (s : Sketch α) : Bool :=
  s.count == 0

/-- The centroid that the rank falls into and the weight of those before it, sought from the first
centroid upwards; the last centroid takes all ranks beyond. -/
def fromBelow (rank : α) (last : Nat) : List (Nat × Centroid α) → (before : α) → Nat × α
  | [], before => (last, before)
  | (i, c) :: rest, before =>
    if lt rank (before + c.weight) then (i, before)
    else fromBelow rank last rest (before + c.weight)

/-- The same sought from the last centroid downwards; `before` is the weight up to the centroid at
hand. -/
def fromAbove (rank : α) : List (Nat × Centroid α) → (before : α) → Nat × α
  | [], before => (0, before)
  | (i, c) :: rest, before =>
    let before := before - c.weight
    if le before rank then (i, before) else fromAbove rank rest before

/-- The centroids with their places. -/
def numbered (s : Sketch α) : List (Nat × Centroid α) :=
  (List.range s.centroids.size).zip s.centroids.toList

/-- The mean of the centroid at a place. -/
def meanAt (s : Sketch α) (i : Nat) : α :=
  ((s.centroids[i]?).map (·.mean)).getD nan

/-- The weight of the centroid at a place. -/
def weightAt (s : Sketch α) (i : Nat) : α :=
  ((s.centroids[i]?).map (·.weight)).getD nan

/-- How steeply values rise around the centroid at a place, and the means of its neighbours, which
bound the estimates there. -/
def slope (s : Sketch α) (i : Nat) : α × α × α :=
  let last := s.centroids.size - 1
  if s.centroids.size ≤ 1 then (ofNat 0, s.least, s.greatest)
  else if i = 0 then (s.meanAt 1 - s.meanAt 0, s.least, s.meanAt 1)
  else if i = last then (s.meanAt i - s.meanAt (i - 1), s.meanAt (i - 1), s.greatest)
  else ((s.meanAt (i + 1) - s.meanAt (i - 1)) / ofNat 2, s.meanAt (i - 1), s.meanAt (i + 1))

/-- The number `x` moved into the range from `low` to `high`. -/
def within (low high x : α) : α :=
  if lt high x then high else if lt x low then low else x

/-- The value estimated for a share `q` of the numbers: the mean of the centroid that the rank falls
into, moved along the slope around it. -/
def estimate (s : Sketch α) (q : α) : α :=
  let total : α := ofNat s.count
  let rank := q * total
  let (i, before) :=
    if lt (ofNat 1 / ofNat 2) q then fromAbove rank s.numbered.reverse total
    else fromBelow rank (s.centroids.size - 1) s.numbered (ofNat 0)
  let (delta, low, high) := s.slope i
  within low high
    (s.meanAt i + ((rank - before) / s.weightAt i - ofNat 1 / ofNat 2) * delta)

/-- The value below which a share `q` of the numbers lies. It is no number for an empty sketch or a
share outside 0 to 1, and exact at both ends. -/
def quantile (s : Sketch α) (q : α) : α :=
  if s.isEmpty || !(le (ofNat 0) q && le q (ofNat 1)) then nan
  else if eq q (ofNat 0) then s.least
  else if eq q (ofNat 1) then s.greatest
  else
    let x := s.estimate q
    if lt x s.least then s.least else if lt s.greatest x then s.greatest else x

/-- The value in the middle. -/
def median (s : Sketch α) : α :=
  s.quantile (ofNat 1 / ofNat 2)

/-! ## The share below a value -/

/-- How often `cdf` halves the range of shares. -/
def halvings : Nat := 64

/-- Halves the range from `low` to `high`, keeping the quantile of `low` not above `x`. -/
def bisectShare (s : Sketch α) (x : α) : (steps : Nat) → (low high : α) → α
  | 0, low, _ => low
  | steps + 1, low, high =>
    let middle := (low + high) / ofNat 2
    if le (s.quantile middle) x then s.bisectShare x steps middle high
    else s.bisectShare x steps low middle

/-- The share of the numbers that are not above `x`; 0 for an empty sketch. -/
def cdf (s : Sketch α) (x : α) : α :=
  if s.isEmpty || isNaN x || lt x s.least then ofNat 0
  else if le s.greatest x then ofNat 1
  else s.bisectShare x halvings (ofNat 0) (ofNat 1)

/-- The share of the numbers that are not above `x`. -/
def leftTail (s : Sketch α) (x : α) : α :=
  s.cdf x

/-- The share of the numbers above `x`; 0 for an empty sketch. -/
def rightTail (s : Sketch α) (x : α) : α :=
  if s.isEmpty then ofNat 0 else ofNat 1 - s.cdf x

end Sketch

end Logbook
