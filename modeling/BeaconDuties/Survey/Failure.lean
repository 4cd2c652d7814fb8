import BeaconDuties.Chain.Spec
import BeaconDuties.Duty.Fault
import BeaconDuties.Node.Fault
import BeaconDuties.Node.Identifier

/-!
Why an analysis came to nothing.

A failure tells its cause and what was being done at the time, the widest activity first. Its
message is the wording of all of them (`Failure.message`). Totals that do not fit in 64 bits are a
failure of their own, since nothing can be said about them.
-/

namespace BeaconDuties

/-- Why no canonical block or ancestor was found. -/
inductive WalkFault where
  /-- There is no canonical block in any slot down to the first. -/
  | reachedGenesis (start : Slot)
  /-- The walk was longer than it may be. -/
  | stepLimit (start : Slot) (steps : UInt64)
deriving DecidableEq, Repr

/-- The wording of a fault on a walk. -/
def WalkFault.message : WalkFault → String
  | reachedGenesis start =>
    s!"no canonical block found at or before slot {start} down to genesis"
  | stepLimit start steps => s!"gave up walking back from slot {start} after {steps} steps"

/-- Why an analysis failed. -/
inductive Cause where
  | node (fault : NodeFault)
  | data (fault : DataFault)
  | spec (fault : SpecFault)
  | walk (fault : WalkFault)
  /-- No validator was named. -/
  | nobodyNamed
  /-- No validator that was named exists. -/
  | nobodyKnown
  | emptySyncCommittee (epoch : Epoch)
  | noBlock (id : BlockId)
  | noParent (root : Root)
deriving DecidableEq

/-- The wording of a cause. -/
def Cause.message : Cause → String
  | node fault => fault.message
  | data fault => fault.message
  | spec fault => fault.message
  | walk fault => fault.message
  | nobodyNamed => "no validators supplied"
  | nobodyKnown => "none of the requested validators are known"
  | emptySyncCommittee epoch => s!"sync committee for epoch {epoch} is empty"
  | noBlock id => "no block found for " ++ id.render
  | noParent root => "unable to obtain parent block " ++ root.render

/-- What is being done. -/
inductive Activity where
  | loadingChain
  | obtainingGenesis
  | obtainingSpec
  | obtainingForks
  | settingClock
  | weighing
  /-- Looking up the validators that are named. -/
  | obtainingValidators
  /-- Looking up the validators as they are in the epoch. -/
  | obtainingEpochValidators
  | obtainingProposers
  | obtainingAttesters
  | obtainingCommittees (slot : Slot)
  | obtainingSyncCommittee
  /-- Looking up a block by its slot. -/
  | obtainingBlockAt (slot : Slot)
  /-- Looking up a block by its name. -/
  | obtainingBlock (id : BlockId)
  | resolvingHead (slot : Slot)
  | resolvingTarget (epoch : Epoch)
  | decodingAttestation (index : Nat) (block : Slot)
  | processingSync (slot : Slot)
deriving DecidableEq

/-- What is said of an activity when it fails. -/
def Activity.message : Activity → String
  | loadingChain => "failed to load chain parameters"
  | obtainingGenesis => "failed to obtain genesis"
  | obtainingSpec => "failed to obtain spec"
  | obtainingForks => "failed to obtain fork schedule"
  | settingClock => "failed to set up chain time"
  | weighing => "failed to obtain reward weights"
  | obtainingValidators => "failed to obtain validators"
  | obtainingEpochValidators => "failed to obtain validators for epoch"
  | obtainingProposers => "failed to obtain proposer duties"
  | obtainingAttesters => "failed to obtain attester duties"
  | obtainingCommittees slot => s!"failed to obtain committees for slot {slot}"
  | obtainingSyncCommittee => "failed to obtain sync committee"
  | obtainingBlockAt slot => s!"failed to obtain block for slot {slot}"
  | obtainingBlock id => "failed to obtain block " ++ id.render
  | resolvingHead slot => s!"failed to resolve head for slot {slot}"
  | resolvingTarget epoch => s!"failed to resolve target for epoch {epoch}"
  | decodingAttestation index block =>
    s!"failed to decode attestation {index} in block at slot {block}"
  | processingSync slot => s!"failed to process sync aggregate for slot {slot}"

/-- Why an analysis came to nothing. -/
inductive Failure where
  /-- A total does not fit in 64 bits. -/
  | overflow
  /-- Something went wrong, during the given activities. -/
  | because (activities : List Activity) (cause : Cause)
deriving DecidableEq

namespace Failure

/-- The same failure, during a wider activity. -/
def during (activity : Activity) : Failure → Failure
  | overflow => overflow
  | because activities cause => because (activity :: activities) cause

/-- The wording of a failure. -/
def message : Failure → String
  | overflow => "total does not fit in 64 bits"
  | because activities cause =>
    String.intercalate ": " (activities.map Activity.message ++ [cause.message])

end Failure

end BeaconDuties
