import BeaconDuties.Survey.Memory

/-!
Blocks that were due, and whether they are there.
-/

namespace BeaconDuties

/-- A block that a validator had to propose. -/
structure Proposal where
  slot : Slot
  validator : ValidatorIndex
  /-- Whether there is a block in the slot. -/
  proposed : Bool
deriving DecidableEq, Repr

/-- Writes a proposal. -/
def Proposal.toJson (x : Proposal) : Json :=
  .record [("slot", .count x.slot), ("validator_index", .count x.validator),
    ("block", .bool x.proposed)]

namespace Survey

/-- The block of a slot, in the course of an analysis. -/
def blockIn (slot : Slot) : Survey (Option Block) := during (.obtainingBlockAt slot) (blockAt slot)

/-- Looks for the block of each duty. -/
def proposals : List ProposerDuty → Survey (List Proposal)
  | [] => return []
  | duty :: rest => do
    let block ← blockIn duty.slot
    return ⟨duty.slot, duty.validator, block.isSome⟩ :: (← proposals rest)

end Survey

end BeaconDuties
