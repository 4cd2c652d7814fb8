import BeaconDuties.Block.Attestation
import BeaconDuties.Chain.Phase

/-!
Signed blocks of all phases.

A block holds what the analyses read and no more. Its body has the parts that its phase knows: a
sync aggregate since Altair, an execution payload since Bellatrix, withdrawals in it since Capella,
blob commitments since Deneb, attestations of several committees since Electra.
-/

namespace BeaconDuties

/-- The signature of a sync committee. -/
structure SyncAggregate where
  /-- One bit for each member of the committee. -/
  bits : BitVector
  signature : Signature
deriving DecidableEq

/-- A withdrawal from the beacon chain to an account. -/
structure Withdrawal where
  index : UInt64
  validator : ValidatorIndex
  address : Address
  amount : Gwei
deriving DecidableEq

/-- A block of the execution layer. -/
structure ExecutionPayload where
  number : UInt64
  hash : Root
  /-- There are none before Capella. -/
  withdrawals : List Withdrawal
deriving DecidableEq

/-- The body of a block, by phase. -/
inductive Body where
  | phase0 (attestations : List SingleAttestation)
  | altair (attestations : List SingleAttestation) (sync : SyncAggregate)
  | bellatrix (attestations : List SingleAttestation) (sync : SyncAggregate)
      (payload : ExecutionPayload)
  | capella (attestations : List SingleAttestation) (sync : SyncAggregate)
      (payload : ExecutionPayload)
  | deneb (attestations : List SingleAttestation) (sync : SyncAggregate)
      (payload : ExecutionPayload) (blobs : List Commitment)
  | electra (attestations : List JointAttestation) (sync : SyncAggregate)
      (payload : ExecutionPayload) (blobs : List Commitment)
  | fulu (attestations : List JointAttestation) (sync : SyncAggregate)
      (payload : ExecutionPayload) (blobs : List Commitment)
deriving DecidableEq

namespace Body

/-- The phase of a body. -/
def phase : Body → Phase
  | phase0 .. => .phase0
  | altair .. => .altair
  | bellatrix .. => .bellatrix
  | capella .. => .capella
  | deneb .. => .deneb
  | electra .. => .electra
  | fulu .. => .fulu

/-- The attestations that are included. -/
def attestations : Body → List Attestation
  | phase0 attestations | altair attestations .. | bellatrix attestations .. |
    capella attestations .. | deneb attestations .. => attestations.map .single
  | electra attestations .. | fulu attestations .. => attestations.map .joint

/-- The sync aggregate, if the phase knows it. -/
def sync? : Body → Option SyncAggregate
  | phase0 _ => none
  | altair _ sync | bellatrix _ sync _ | capella _ sync _ | deneb _ sync .. | electra _ sync .. |
    fulu _ sync .. => some sync

/-- The execution payload, if the phase knows it. -/
def payload? : Body → Option ExecutionPayload
  | phase0 _ | altair .. => none
  | bellatrix _ _ payload | capella _ _ payload | deneb _ _ payload _ | electra _ _ payload _ |
    fulu _ _ payload _ => some payload

/-- The commitments to blobs. -/
def blobs : Body → List Commitment
  | phase0 _ | altair .. | bellatrix .. | capella .. => []
  | deneb _ _ _ blobs | electra _ _ _ blobs | fulu _ _ _ blobs => blobs

end Body

/-- A signed block. -/
structure Block where
  slot : Slot
  proposer : ValidatorIndex
  /-- The root of the block before it on its chain. -/
  parent : Root
  state : Root
  body : Body
  signature : Signature
deriving DecidableEq

namespace Block

/-- The phase of a block. -/
def phase (block : Block) : Phase := block.body.phase

/-- The attestations that a block includes, in their order. -/
def attestations (block : Block) : List Attestation := block.body.attestations

/-- The sync aggregate of a block, if it has one. -/
def sync? (block : Block) : Option SyncAggregate := block.body.sync?

/-- The number of the block of the execution layer, if there is one. -/
def payloadNumber? (block : Block) : Option UInt64 := block.body.payload?.map (·.number)

/-- The withdrawals that a block makes. -/
def withdrawals (block : Block) : List Withdrawal :=
  (block.body.payload?.map (·.withdrawals)).getD []

/-- How many blobs a block commits to. -/
def blobCount (block : Block) : Nat := block.body.blobs.length

end Block

end BeaconDuties
