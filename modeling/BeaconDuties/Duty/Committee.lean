import Std.Data.ExtTreeMap
import BeaconDuties.Block.Attestation
import BeaconDuties.Duty.Fault
import BeaconDuties.Node.Assignment

/-!
The committees of an epoch and the members that an attestation speaks for.

* `CommitteeTable` holds committees by slot and index; of two committees in one place the later one
  counts.
* `CommitteeTable.seats` lists all members of all committees with their places, in the order of the
  places.
* `CommitteeTable.attesting` lists the members whose bits are set in an attestation. The bits cover
  the committees that the attestation names, one after another.
-/

namespace BeaconDuties

/-- The place of a committee. -/
structure CommitteePlace where
  slot : Slot
  index : CommitteeIndex
deriving DecidableEq, Repr

namespace CommitteePlace

/-- Places are ordered by slot, then by index. -/
instance : Ord CommitteePlace := ⟨compareLex (compareOn (·.slot)) (compareOn (·.index))⟩

instance : Std.TransOrd CommitteePlace :=
  inferInstanceAs (Std.TransCmp (compareLex (compareOn _) (compareOn _)))

instance : Std.LawfulEqOrd CommitteePlace where
  eq_of_compare {a b} h := by
    have h := (compareLex_eq_eq (a := a) (b := b)).1 h
    have hs : a.slot = b.slot :=
      Std.LawfulEqOrd.eq_of_compare (h.1 : compare a.slot b.slot = .eq)
    have hi : a.index = b.index :=
      Std.LawfulEqOrd.eq_of_compare (h.2 : compare a.index b.index = .eq)
    cases a
    cases b
    simp_all

end CommitteePlace

/-- The seat of a validator in a committee of a slot. -/
structure Seat where
  slot : Slot
  committee : CommitteeIndex
  validator : ValidatorIndex
deriving DecidableEq, Repr

namespace Seat

/-- Seats are ordered by slot, then by committee, then by validator. -/
instance : Ord Seat :=
  ⟨compareLex (compareOn (·.slot)) (compareLex (compareOn (·.committee)) (compareOn (·.validator)))⟩

instance : Std.TransOrd Seat :=
  inferInstanceAs (Std.TransCmp
    (compareLex (compareOn _) (compareLex (compareOn _) (compareOn _))))

end Seat

/-- A validator that attests as a member of a committee. -/
structure Member where
  committee : CommitteeIndex
  validator : ValidatorIndex
deriving DecidableEq, Repr

/-- Committees by their places. -/
structure CommitteeTable where
  members : Std.ExtTreeMap CommitteePlace (List ValidatorIndex)

namespace CommitteeTable

/-- No committees. -/
def empty : CommitteeTable := ⟨∅⟩

/-- The committees of a list; of two in one place the later one counts. -/
def ofList (committees : List Committee) : CommitteeTable :=
  ⟨committees.foldl (fun table c => table.insert ⟨c.slot, c.index⟩ c.validators) ∅⟩

/-- The members of the committee in a place. -/
def get? (table : CommitteeTable) (slot : Slot) (index : CommitteeIndex) :
    Option (List ValidatorIndex) :=
  table.members[CommitteePlace.mk slot index]?

/-- All seats, in the order of their committees' places. -/
def seats (table : CommitteeTable) : List Seat :=
  table.members.toList.flatMap fun (place, validators) =>
    validators.map fun validator => ⟨place.slot, place.index, validator⟩

/-- The members of the named committees of a slot, one committee after another. -/
def covered (table : CommitteeTable) (slot : Slot) :
    List CommitteeIndex → Except DataFault (List Member)
  | [] => .ok []
  | index :: rest =>
    match table.get? slot index with
    | none => .error (.unknownCommittee slot index)
    | some validators => do
      return validators.map (Member.mk index) ++ (← covered table slot rest)

/-- The members at the given positions. -/
def pick (slot : Slot) (members : Array Member) : List Nat → Except DataFault (List Member)
  | [] => .ok []
  | position :: rest =>
    match members[position]? with
    | none => .error (.bitOutOfRange slot position members.size)
    | some member => do return member :: (← pick slot members rest)

/-- The members whose bits are set in an attestation, in the order of the bits. -/
def attesting (table : CommitteeTable) (attestation : Attestation) :
    Except DataFault (List Member) := do
  let slot := attestation.data.slot
  let members ← table.covered slot attestation.committeeIndices
  pick slot members.toArray attestation.bits.ones

end CommitteeTable

end BeaconDuties
