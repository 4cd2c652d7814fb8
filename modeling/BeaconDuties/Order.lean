import Std.Data.ExtTreeMap

/-!
Sorting by a key.

`sortOn key xs` puts a list in the order of its keys and leaves items with equal keys in the order
that they had. The items are grouped by their keys (`groupsOn`), which costs few comparisons even
for many validators.
-/

namespace BeaconDuties

variable {α κ : Type} [Ord κ] [Std.TransOrd κ]

/-- The items of a list under their keys, in the order that they had. -/
def groupsOn (key : α → κ) : List α → Std.ExtTreeMap κ (List α)
  | [] => ∅
  | x :: xs => (groupsOn key xs).alter (key x) fun group => some (x :: group.getD [])

/-- The list in the order of its keys. -/
def sortOn (key : α → κ) (xs : List α) : List α := (groupsOn key xs).values.flatten

end BeaconDuties
