import BeaconDuties.Chain.Quantity
import BeaconDuties.Text.Numeral

/-!
What can be wrong with what blocks and committees say of one another.
-/

namespace BeaconDuties

/-- Why attestations or sync aggregates do not fit their committees or blocks. -/
inductive DataFault where
  /-- A bit is set after the last member of the covered committees. -/
  | bitOutOfRange (slot : Slot) (position size : Nat)
  /-- A block includes an attestation of its own slot or of a later one. -/
  | includedTooEarly (attestation inclusion : Slot)
  /-- A sync aggregate and its committee are of different sizes. -/
  | sizeMismatch (bits members : Nat)
  /-- An attestation names a committee that its slot does not have. -/
  | unknownCommittee (slot : Slot) (committee : CommitteeIndex)
deriving DecidableEq, Repr

/-- The wording of a fault in the data. -/
def DataFault.message : DataFault → String
  | bitOutOfRange slot position size =>
    s!"aggregation bit {position} lies outside committees of combined size {size} at slot {slot}"
  | includedTooEarly attestation inclusion =>
    s!"attestation for slot {attestation} included at slot {inclusion}"
  | sizeMismatch bits members =>
    s!"sync aggregate has {bits} bits but sync committee has {members} members"
  | unknownCommittee slot committee =>
    s!"committee {committee} is not among committees for slot {slot}"

end BeaconDuties
