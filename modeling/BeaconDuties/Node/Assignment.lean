import BeaconDuties.Chain.Quantity
import BeaconDuties.Json.Fields

/-!
Who is on duty, as a node says it: proposers, attesters and the committees that they sit in.
Each has a JSON message.
-/

namespace BeaconDuties

open Json

/-- The duty to propose the block of a slot. -/
structure ProposerDuty where
  publicKey : PublicKey
  validator : ValidatorIndex
  slot : Slot
deriving DecidableEq

namespace ProposerDuty

/-- Writes a proposer's duty. -/
def toJson (x : ProposerDuty) : Json :=
  record [("pubkey", bytes x.publicKey), ("validator_index", quantity x.validator),
    ("slot", quantity x.slot)]

/-- Reads a proposer's duty. -/
def ofJson? (value : Json) : Option ProposerDuty := do
  let fields ← value.fields? ["pubkey", "validator_index", "slot"]
  return {
    publicKey := ← fields.read? "pubkey" (bytes? 48)
    validator := ← fields.read? "validator_index" uint64?
    slot := ← fields.read? "slot" uint64? }

end ProposerDuty

/-- The duty to attest in a slot, as a member of a committee. -/
structure AttesterDuty where
  publicKey : PublicKey
  validator : ValidatorIndex
  committee : CommitteeIndex
  /-- How many members the committee has. -/
  committeeLength : UInt64
  /-- How many committees the slot has. -/
  committeesAtSlot : UInt64
  /-- The place of the validator in the committee. -/
  position : UInt64
  slot : Slot
deriving DecidableEq

namespace AttesterDuty

/-- Writes an attester's duty. -/
def toJson (x : AttesterDuty) : Json :=
  record [("pubkey", bytes x.publicKey), ("validator_index", quantity x.validator),
    ("committee_index", quantity x.committee), ("committee_length", quantity x.committeeLength),
    ("committees_at_slot", quantity x.committeesAtSlot),
    ("validator_committee_index", quantity x.position), ("slot", quantity x.slot)]

/-- Reads an attester's duty. -/
def ofJson? (value : Json) : Option AttesterDuty := do
  let fields ← value.fields? ["pubkey", "validator_index", "committee_index", "committee_length",
    "committees_at_slot", "validator_committee_index", "slot"]
  return {
    publicKey := ← fields.read? "pubkey" (bytes? 48)
    validator := ← fields.read? "validator_index" uint64?
    committee := ← fields.read? "committee_index" uint64?
    committeeLength := ← fields.read? "committee_length" uint64?
    committeesAtSlot := ← fields.read? "committees_at_slot" uint64?
    position := ← fields.read? "validator_committee_index" uint64?
    slot := ← fields.read? "slot" uint64? }

end AttesterDuty

/-- A committee of attesters. -/
structure Committee where
  index : CommitteeIndex
  slot : Slot
  /-- The members in the order of their bits. -/
  validators : List ValidatorIndex
deriving DecidableEq

namespace Committee

/-- Writes a committee. -/
def toJson (x : Committee) : Json :=
  record [("index", quantity x.index), ("slot", quantity x.slot),
    ("validators", array (x.validators.map quantity))]

/-- Reads a committee. -/
def ofJson? (value : Json) : Option Committee := do
  let fields ← value.fields? ["index", "slot", "validators"]
  return {
    index := ← fields.read? "index" uint64?
    slot := ← fields.read? "slot" uint64?
    validators := ← fields.read? "validators" (list? uint64?) }

end Committee

/-- A sync committee. -/
structure SyncCommittee where
  /-- The members in the order of their bits. A validator may have several seats. -/
  validators : List ValidatorIndex
deriving DecidableEq

namespace SyncCommittee

/-- Writes a sync committee. -/
def toJson (x : SyncCommittee) : Json := record [("validators", array (x.validators.map quantity))]

/-- Reads a sync committee. -/
def ofJson? (value : Json) : Option SyncCommittee := do
  let fields ← value.fields? ["validators"]
  return ⟨← fields.read? "validators" (list? uint64?)⟩

end SyncCommittee

end BeaconDuties
