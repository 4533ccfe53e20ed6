import Std.Data.HashMap
import Logbook.Number.Arithmetic

/-!
# Frequency tables

`FrequencyTable` counts how often each category occurs, and lists the categories in the order in
which they first occur. An index from categories to their places in the list finds a category fast.

* `FrequencyTable.mode?` is the most frequent category, the first listed of several.
* `FrequencyTable.entropy` is the Shannon entropy in nats.

Model of `CategoricalSummary` with `observe`, `mode` and `entropy` of `tr-series`.
-/

namespace Logbook

open Arithmetic

/-- The categories seen so far with their counts, and the place of each in the list. -/
structure FrequencyTable where
  count : Nat
  entries : Array (String × Nat)
  places : Std.HashMap String Nat

namespace FrequencyTable

/-- The table of no readings. -/
def empty : FrequencyTable :=
  ⟨0, #[], ∅⟩

/-- The table after one more occurrence of a category. -/
def observe (t : FrequencyTable) (category : String) : FrequencyTable :=
  match t.places[category]? with
  | some place =>
    { t with
      count := t.count + 1
      entries := t.entries.modify place fun (c, n) => (c, n + 1) }
  | none =>
    { count := t.count + 1
      entries := t.entries.push (category, 1)
      places := t.places.insert category t.entries.size }

/-- The table of a list of categories. -/
def ofValues (categories : List String) : FrequencyTable :=
  categories.foldl observe empty

/-- The categories and how often each occurs, in the order in which they first occur. -/
def categories (t : FrequencyTable) : List (String × Nat) :=
  t.entries.toList

/-- How often a category occurs. -/
def frequency (t : FrequencyTable) (category : String) : Nat :=
  match t.places[category]? with
  | some place => ((t.entries[place]?).map (·.2)).getD 0
  | none => 0

/-- The entry with the greatest count, and of several such the first. -/
def mostFrequent : List (String × Nat) → Option (String × Nat)
  | [] => none
  | e :: rest => some (rest.foldl (fun best e => if best.2 < e.2 then e else best) e)

/-- The most frequent category, and of several such the first listed. -/
def mode? (t : FrequencyTable) : Option String :=
  (mostFrequent t.categories).map (·.1)

/-- The Shannon entropy in nats: the sum over the categories of their share times the logarithm of
its inverse. -/
def entropy {α : Type} [Arithmetic α] (t : FrequencyTable) : α :=
  if t.count = 0 then ofNat 0
  else
    let total : α := ofNat t.count
    sum (t.categories.map fun (_, n) =>
      let share : α := ofNat n
      share / total * ln (total / share))

end FrequencyTable

end Logbook
