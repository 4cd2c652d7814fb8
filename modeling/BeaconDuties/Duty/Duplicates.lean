import Std.Data.ExtTreeMap
import Std.Data.ExtTreeSet
import BeaconDuties.Bytes
import BeaconDuties.Chain.Quantity
import BeaconDuties.Json.Value

/-!
Telling what has been seen before.

A vote may reach the chain more than once: the same attestation in two blocks, or different
attestations that overlap. Whole attestations are known again by their identity roots
(`Duplicates.record`), single votes by slot and validator (`Duplicates.credit`).
-/

namespace BeaconDuties

/-- Where an attestation was seen first. -/
structure Origin where
  /-- The slot of the block. -/
  block : Slot
  /-- The position of the attestation in the block. -/
  index : Nat
deriving DecidableEq, Repr

/-- Writes an origin. -/
def Origin.toJson (x : Origin) : Json :=
  .record [("block", .count x.block), ("index", .natural x.index)]

/-- The vote of a validator in a slot. -/
structure Ballot where
  slot : Slot
  validator : ValidatorIndex
deriving DecidableEq, Repr

namespace Ballot

/-- Votes are ordered by slot, then by validator. -/
instance : Ord Ballot := ⟨compareLex (compareOn (·.slot)) (compareOn (·.validator))⟩

instance : Std.TransOrd Ballot :=
  inferInstanceAs (Std.TransCmp (compareLex (compareOn _) (compareOn _)))

instance : Std.LawfulEqOrd Ballot where
  eq_of_compare {a b} h := by
    have h := (compareLex_eq_eq (a := a) (b := b)).1 h
    have hs : a.slot = b.slot :=
      Std.LawfulEqOrd.eq_of_compare (h.1 : compare a.slot b.slot = .eq)
    have hv : a.validator = b.validator :=
      Std.LawfulEqOrd.eq_of_compare (h.2 : compare a.validator b.validator = .eq)
    cases a
    cases b
    simp_all

end Ballot

/-- What has been seen. -/
structure Duplicates where
  /-- Where each attestation was seen first. -/
  origins : Std.ExtTreeMap Root Origin
  /-- The votes that have been credited. -/
  credited : Std.ExtTreeSet Ballot

namespace Duplicates

/-- Nothing has been seen. -/
def empty : Duplicates := ⟨∅, ∅⟩

/-- Where the attestation with this root was seen first, if it was. -/
def origin? (seen : Duplicates) (root : Root) : Option Origin := seen.origins[root]?

/-- Takes note of an attestation. The first origin of a root is kept. -/
def record (seen : Duplicates) (root : Root) (origin : Origin) : Duplicates :=
  { seen with origins := seen.origins.insertIfNew root origin }

/-- Whether a vote has been credited. -/
def isCredited (seen : Duplicates) (ballot : Ballot) : Bool := seen.credited.contains ballot

/-- Credits a vote. -/
def credit (seen : Duplicates) (ballot : Ballot) : Duplicates :=
  { seen with credited := seen.credited.insert ballot }

/-- Credits votes one after another, and counts those that had not been credited. -/
def creditAll (seen : Duplicates) (slot : Slot) : List ValidatorIndex → Nat × Duplicates
  | [] => (0, seen)
  | validator :: rest =>
    let ballot : Ballot := ⟨slot, validator⟩
    let (count, after) := (seen.credit ballot).creditAll slot rest
    (if seen.isCredited ballot then count else count + 1, after)

end Duplicates

end BeaconDuties
