import BeaconDuties.Duty.Committee
import BeaconDuties.Report.Proposal

/-!
How named validators fulfilled their duties in an epoch.

The summary has a row for each slot with duties, lists the duties that no block has a vote for, and
lists the votes that were wrong or late.
-/

namespace BeaconDuties

/-- The duties to attest in a slot, and how they were fulfilled. -/
structure SlotDuties where
  slot : Slot
  expected : Nat
  included : Nat
  correctHead : Nat
  timelyHead : Nat
  correctTarget : Nat
  timelyTarget : Nat
  timelySource : Nat
deriving DecidableEq, Repr

/-- Writes the duties of a slot. -/
def SlotDuties.toJson (x : SlotDuties) : Json :=
  .record [("slot", .count x.slot), ("attestations_expected", .natural x.expected),
    ("attestations_included", .natural x.included), ("correct_head", .natural x.correctHead),
    ("timely_head", .natural x.timelyHead), ("correct_target", .natural x.correctTarget),
    ("timely_target", .natural x.timelyTarget), ("timely_source", .natural x.timelySource)]

/-- A vote that was wrong or late. -/
structure VoteFault where
  seat : Seat
  /-- The slot of the block that includes the vote. -/
  inclusion : Slot
  /-- How many slots passed before it was included. -/
  delay : UInt64
deriving DecidableEq, Repr

/-- The members of a report that tell a seat. -/
def Seat.members (x : Seat) : List (String × Json) :=
  [("validator_index", .count x.validator), ("slot", .count x.slot),
    ("committee_index", .count x.committee)]

/-- Writes a vote that was wrong or late. -/
def VoteFault.toJson (x : VoteFault) : Json :=
  .record (x.seat.members
    ++ [("inclusion_slot", .count x.inclusion), ("inclusion_delay", .count x.delay)])

/-- How named validators fulfilled their duties in an epoch. -/
structure ValidatorSummary where
  epoch : Epoch
  /-- The slots of the epoch. -/
  epochSlots : SlotRange
  validators : List ValidatorIndex
  /-- How many of the validators had duties. -/
  active : Nat
  /-- How many of their votes were included. -/
  participating : Nat
  /-- The seats whose votes were not. -/
  nonParticipating : List Seat
  incorrectHead : List VoteFault
  untimelyHead : List VoteFault
  untimelySource : List VoteFault
  incorrectTarget : List VoteFault
  untimelyTarget : List VoteFault
  slots : List SlotDuties
  proposals : List Proposal
deriving DecidableEq

namespace ValidatorSummary

/-- The member of a report that lists votes. -/
def faultsMember (name : String) (faults : List VoteFault) : String × Json :=
  (name, .array (faults.map VoteFault.toJson))

/-- Writes a summary. -/
def toJson (x : ValidatorSummary) : Json :=
  .record [("epoch", .count x.epoch), ("first_slot", .count x.epochSlots.first),
    ("last_slot", .count x.epochSlots.last), ("validators", .array (x.validators.map .count)),
    ("active_validators", .natural x.active),
    ("participating_validators", .natural x.participating),
    ("non_participating_validators",
      .array (x.nonParticipating.map fun seat => .record seat.members)),
    faultsMember "incorrect_head_validators" x.incorrectHead,
    faultsMember "untimely_head_validators" x.untimelyHead,
    faultsMember "untimely_source_validators" x.untimelySource,
    faultsMember "incorrect_target_validators" x.incorrectTarget,
    faultsMember "untimely_target_validators" x.untimelyTarget,
    ("slots", .array (x.slots.map SlotDuties.toJson)),
    ("proposals", .array (x.proposals.map Proposal.toJson))]

end ValidatorSummary

end BeaconDuties
