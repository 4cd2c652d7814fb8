import BeaconDuties.Block.Block
import BeaconDuties.Chain.Spec
import BeaconDuties.Node.Assignment
import BeaconDuties.Node.Fault
import BeaconDuties.Node.Header
import BeaconDuties.Node.Identifier
import BeaconDuties.Node.Validator

/-!
What can be asked of a node.

Each request has its own type of answers (`Request.Answer`). There may be no block or header in a
slot, and this is an answer, not a fault.
-/

namespace BeaconDuties

/-- A request to a node. -/
inductive Request where
  /-- Where the chain starts. -/
  | genesis
  /-- The constants of the chain. -/
  | spec
  /-- The forks of the chain. -/
  | forkSchedule
  /-- The named validators in a state, or all of them if none is named. -/
  | validators (state : StateId) (ids : List ValidatorId)
  /-- The proposers of an epoch. -/
  | proposers (epoch : Epoch)
  /-- The duties to attest that the given validators have in an epoch. -/
  | attesters (epoch : Epoch) (indices : List ValidatorIndex)
  /-- The committees of an epoch. -/
  | committees (state : StateId) (epoch : Option Epoch)
  /-- The sync committee of an epoch. -/
  | syncCommittee (state : StateId) (epoch : Option Epoch)
  | block (id : BlockId)
  | header (id : BlockId)
deriving DecidableEq

namespace Request

/-- The type of the answers to a request. -/
abbrev Answer : Request → Type
  | genesis => Genesis
  | spec => Spec
  | forkSchedule => List Fork
  | validators .. => List ValidatorInfo
  | proposers .. => List ProposerDuty
  | attesters .. => List AttesterDuty
  | committees .. => List Committee
  | syncCommittee .. => SyncCommittee
  | block _ => Option Block
  | header _ => Option Header

/-- The capability that a node needs for a request. -/
def capability : Request → Capability
  | genesis => .genesis
  | spec => .spec
  | forkSchedule => .forkSchedule
  | validators .. => .validators
  | proposers .. => .proposerDuties
  | attesters .. => .attesterDuties
  | committees .. => .beaconCommittees
  | syncCommittee .. => .syncCommittees
  | block _ => .signedBeaconBlocks
  | header _ => .beaconBlockHeaders

end Request

/-- Answers requests, always in the same way. -/
abbrev Answers := (request : Request) → Except NodeFault request.Answer

/-- The answers of a node that serves nothing. -/
def Answers.unsupported : Answers := fun request => .error (.unsupported request.capability)

end BeaconDuties
