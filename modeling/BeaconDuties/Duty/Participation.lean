import BeaconDuties.Block.Attestation
import BeaconDuties.Duty.Committee
import BeaconDuties.Duty.Vote
import BeaconDuties.Json.Fields

/-!
How a validator fulfilled its duty to attest in an epoch.

The vote is told from the first attestation that carried it into a block. Further attestations can
only add to what is right and timely about it (`Participation.record`). A report tells a duty by an
entry in which each part of the vote may be missing on its own (`Participation.Entry`).
-/

namespace BeaconDuties

/-- A vote as it was first included, and the blocks that are canonical in the places it votes on. -/
structure FirstInclusion where
  headVote : Root
  head : Root
  targetVote : Root
  target : Root
  /-- The slot of the block that includes it. -/
  slot : Slot
deriving DecidableEq

/-- What is known of a validator's duty to attest. -/
structure Participation where
  validator : ValidatorIndex
  effectiveBalance : Gwei
  /-- The slot in which the validator was on duty. -/
  slot : Slot
  committee : CommitteeIndex
  /-- The vote, once a block has included it. -/
  inclusion : Option FirstInclusion
  flags : VoteFlags
deriving DecidableEq

namespace Participation

/-- A duty of which no vote is known yet. -/
def awaiting (seat : Seat) (effectiveBalance : Gwei) : Participation where
  validator := seat.validator
  effectiveBalance := effectiveBalance
  slot := seat.slot
  committee := seat.committee
  inclusion := none
  flags := .none

/-- The seat in which the validator was on duty. -/
def seat (x : Participation) : Seat := ⟨x.slot, x.committee, x.validator⟩

/-- Whether some block has included the vote. -/
def participated (x : Participation) : Bool := x.inclusion.isSome

/-- Adds an attestation that carries the vote into the block of a slot. -/
def record (x : Participation) (data : AttestationData) (classification : Classification)
    (slot : Slot) : Participation :=
  let inclusion : FirstInclusion := x.inclusion.getD {
    headVote := data.head
    head := classification.head
    targetVote := data.target.root
    target := classification.target
    slot }
  { x with inclusion := some inclusion, flags := x.flags.merge classification.flags }

/-- What a report tells of a duty. Whatever is not known of the vote is left out. -/
structure Entry where
  validator : ValidatorIndex
  effectiveBalance : Gwei
  slot : Slot
  committee : CommitteeIndex
  headVote : Option Root
  head : Option Root
  targetVote : Option Root
  target : Option Root
  inclusion : Option Slot
  flags : VoteFlags
deriving DecidableEq

/-- What is told of a duty. -/
def entry (x : Participation) : Entry where
  validator := x.validator
  effectiveBalance := x.effectiveBalance
  slot := x.slot
  committee := x.committee
  headVote := x.inclusion.map (·.headVote)
  head := x.inclusion.map (·.head)
  targetVote := x.inclusion.map (·.targetVote)
  target := x.inclusion.map (·.target)
  inclusion := x.inclusion.map (·.slot)
  flags := x.flags

/-- The members of a report that tell a duty. -/
def Entry.members (x : Entry) : List (String × Json) :=
  [("validator_index", .count x.validator), ("effective_balance", .count x.effectiveBalance),
    ("slot", .count x.slot), ("committee_index", .count x.committee)]
  ++ Json.optionalMember "head_vote" (x.headVote.map .bytes)
  ++ Json.optionalMember "head" (x.head.map .bytes)
  ++ Json.optionalMember "target_vote" (x.targetVote.map .bytes)
  ++ Json.optionalMember "target" (x.target.map .bytes)
  ++ Json.optionalMember "inclusion_slot" (x.inclusion.map .count)
  ++ x.flags.members

/-- Writes what is told of a duty. -/
def Entry.toJson (x : Entry) : Json := .record x.members

/-- Writes what is known of a duty. -/
def toJson (x : Participation) : Json := x.entry.toJson

end Participation

end BeaconDuties
