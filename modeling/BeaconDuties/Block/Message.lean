import BeaconDuties.Block.Block
import BeaconDuties.Json.Fields
import BeaconDuties.Json.Storable

/-!
Blocks as JSON messages.

Each part of a block has a writer `toJson` and a reader `ofJson?`. Numbers are written as strings.
A block as a whole lies in an envelope that tells its phase and thereby the form of its body
(`Block.toJson`, `Block.ofJson?`). When the envelope tells the phase only after the block itself,
the block has to be kept until then.
-/

namespace BeaconDuties

open Json

/-- Writes a checkpoint. -/
def Checkpoint.toJson (x : Checkpoint) : Json :=
  record [("epoch", quantity x.epoch), ("root", bytes x.root)]

/-- Reads a checkpoint. -/
def Checkpoint.ofJson? (value : Json) : Option Checkpoint := do
  let fields ← value.fields? ["epoch", "root"]
  return {
    epoch := ← fields.read? "epoch" uint64?
    root := ← fields.read? "root" (bytes? 32) }

/-- Writes what an attestation votes for. -/
def AttestationData.toJson (x : AttestationData) : Json :=
  record [("slot", quantity x.slot), ("index", quantity x.index),
    ("beacon_block_root", bytes x.head), ("source", x.source.toJson), ("target", x.target.toJson)]

/-- Reads what an attestation votes for. -/
def AttestationData.ofJson? (value : Json) : Option AttestationData := do
  let fields ← value.fields? ["slot", "index", "beacon_block_root", "source", "target"]
  return {
    slot := ← fields.read? "slot" uint64?
    index := ← fields.read? "index" uint64?
    head := ← fields.read? "beacon_block_root" (bytes? 32)
    source := ← fields.read? "source" Checkpoint.ofJson?
    target := ← fields.read? "target" Checkpoint.ofJson? }

/-- Writes an attestation of one committee. -/
def SingleAttestation.toJson (x : SingleAttestation) : Json :=
  record [("aggregation_bits", text x.bits.render), ("data", x.data.toJson),
    ("signature", bytes x.signature)]

/-- Reads an attestation of one committee. -/
def SingleAttestation.ofJson? (value : Json) : Option SingleAttestation := do
  let fields ← value.fields? ["aggregation_bits", "data", "signature"]
  return {
    bits := ← fields.read? "aggregation_bits" bitList?
    data := ← fields.read? "data" AttestationData.ofJson?
    signature := ← fields.read? "signature" (bytes? 96) }

/-- Writes an attestation of several committees. -/
def JointAttestation.toJson (x : JointAttestation) : Json :=
  record [("aggregation_bits", text x.bits.render), ("data", x.data.toJson),
    ("signature", bytes x.signature), ("committee_bits", text x.committeeBits.render)]

/-- Reads an attestation of several committees. -/
def JointAttestation.ofJson? (value : Json) : Option JointAttestation := do
  let fields ← value.fields? ["aggregation_bits", "data", "signature", "committee_bits"]
  return {
    bits := ← fields.read? "aggregation_bits" bitList?
    data := ← fields.read? "data" AttestationData.ofJson?
    signature := ← fields.read? "signature" (bytes? 96)
    committeeBits := ← fields.read? "committee_bits" bitVector? }

/-- Writes a sync aggregate. -/
def SyncAggregate.toJson (x : SyncAggregate) : Json :=
  record [("sync_committee_bits", text x.bits.render),
    ("sync_committee_signature", bytes x.signature)]

/-- Reads a sync aggregate. -/
def SyncAggregate.ofJson? (value : Json) : Option SyncAggregate := do
  let fields ← value.fields? ["sync_committee_bits", "sync_committee_signature"]
  return {
    bits := ← fields.read? "sync_committee_bits" bitVector?
    signature := ← fields.read? "sync_committee_signature" (bytes? 96) }

/-- Writes a withdrawal. -/
def Withdrawal.toJson (x : Withdrawal) : Json :=
  record [("index", quantity x.index), ("validator_index", quantity x.validator),
    ("address", bytes x.address), ("amount", quantity x.amount)]

/-- Reads a withdrawal. -/
def Withdrawal.ofJson? (value : Json) : Option Withdrawal := do
  let fields ← value.fields? ["index", "validator_index", "address", "amount"]
  return {
    index := ← fields.read? "index" uint64?
    validator := ← fields.read? "validator_index" uint64?
    address := ← fields.read? "address" (bytes? 20)
    amount := ← fields.read? "amount" uint64? }

/-- Writes an execution payload. The member for withdrawals is there only if there are any. -/
def ExecutionPayload.toJson (x : ExecutionPayload) : Json :=
  let withdrawals :=
    if x.withdrawals.isEmpty then []
    else [("withdrawals", array (x.withdrawals.map Withdrawal.toJson))]
  record ([("block_number", quantity x.number), ("block_hash", bytes x.hash)] ++ withdrawals)

/-- Reads an execution payload. -/
def ExecutionPayload.ofJson? (value : Json) : Option ExecutionPayload := do
  let fields ← value.fields? ["block_number", "block_hash", "withdrawals"]
  return {
    number := ← fields.read? "block_number" uint64?
    hash := ← fields.read? "block_hash" (bytes? 32)
    withdrawals := ← fields.readOr? "withdrawals" [] (list? Withdrawal.ofJson?) }

/-- Writes a list of attestations of one committee each. -/
def SingleAttestation.listJson (xs : List SingleAttestation) : String × Json :=
  ("attestations", array (xs.map toJson))

/-- Writes a list of attestations of several committees each. -/
def JointAttestation.listJson (xs : List JointAttestation) : String × Json :=
  ("attestations", array (xs.map toJson))

namespace Body

/-- The member for a sync aggregate. -/
def syncMember (x : SyncAggregate) : String × Json := ("sync_aggregate", x.toJson)

/-- The member for an execution payload. -/
def payloadMember (x : ExecutionPayload) : String × Json := ("execution_payload", x.toJson)

/-- The member for blob commitments. -/
def blobsMember (xs : List Commitment) : String × Json :=
  ("blob_kzg_commitments", array (xs.map bytes))

/-- Writes a body. -/
def toJson : Body → Json
  | phase0 attestations => record [SingleAttestation.listJson attestations]
  | altair attestations sync =>
    record [SingleAttestation.listJson attestations, syncMember sync]
  | bellatrix attestations sync payload | capella attestations sync payload =>
    record [SingleAttestation.listJson attestations, syncMember sync, payloadMember payload]
  | deneb attestations sync payload blobs =>
    record [SingleAttestation.listJson attestations, syncMember sync, payloadMember payload,
      blobsMember blobs]
  | electra attestations sync payload blobs | fulu attestations sync payload blobs =>
    record [JointAttestation.listJson attestations, syncMember sync, payloadMember payload,
      blobsMember blobs]

/-- The names of the fields that a body may have. -/
def fieldNames : Phase → List String
  | .phase0 => ["attestations"]
  | .altair => ["attestations", "sync_aggregate"]
  | .bellatrix | .capella => ["attestations", "sync_aggregate", "execution_payload"]
  | .deneb | .electra | .fulu =>
    ["attestations", "sync_aggregate", "execution_payload", "blob_kzg_commitments"]

/-- Reads the body of a block of the given phase. -/
def ofJson? (phase : Phase) (value : Json) : Option Body := do
  let fields ← value.fields? (fieldNames phase)
  let singles := fields.read? "attestations" (list? SingleAttestation.ofJson?)
  let joints := fields.read? "attestations" (list? JointAttestation.ofJson?)
  let sync := fields.read? "sync_aggregate" SyncAggregate.ofJson?
  let payload := fields.read? "execution_payload" ExecutionPayload.ofJson?
  let blobs := fields.read? "blob_kzg_commitments" (list? (bytes? 48))
  match phase with
  | .phase0 => return phase0 (← singles)
  | .altair => return altair (← singles) (← sync)
  | .bellatrix => return bellatrix (← singles) (← sync) (← payload)
  | .capella => return capella (← singles) (← sync) (← payload)
  | .deneb => return deneb (← singles) (← sync) (← payload) (← blobs)
  | .electra => return electra (← joints) (← sync) (← payload) (← blobs)
  | .fulu => return fulu (← joints) (← sync) (← payload) (← blobs)

end Body

namespace Block

/-- Writes a signed block without its envelope. -/
def messageJson (x : Block) : Json :=
  record [
    ("message", record [("slot", quantity x.slot), ("proposer_index", quantity x.proposer),
      ("parent_root", bytes x.parent), ("state_root", bytes x.state), ("body", x.body.toJson)]),
    ("signature", bytes x.signature)]

/-- Reads a signed block of the given phase without its envelope. -/
def ofMessageJson? (phase : Phase) (value : Json) : Option Block := do
  let signed ← value.fields? ["message", "signature"]
  let message ← (← signed.get? "message").fields?
    ["slot", "proposer_index", "parent_root", "state_root", "body"]
  return {
    slot := ← message.read? "slot" uint64?
    proposer := ← message.read? "proposer_index" uint64?
    parent := ← message.read? "parent_root" (bytes? 32)
    state := ← message.read? "state_root" (bytes? 32)
    body := ← message.read? "body" (Body.ofJson? phase)
    signature := ← signed.read? "signature" (bytes? 96) }

/-- Writes a signed block in the envelope that tells its phase. -/
def toJson (x : Block) : Json :=
  record [("version", text x.phase.name), ("data", x.messageJson)]

/-- The phase that an envelope tells: its name or, in long, an object that has nothing but a member
    of this name without a value. -/
def phaseOf? : Json → Option Phase
  | .string (some name) | .object [(some name, .null)] => Phase.named? name
  | _ => none

/-- Whether the first of the two members of an envelope is the one that tells the phase. -/
def phaseFirst (fields : Fields) : Bool :=
  (fields.members.head?.map Prod.fst) == some "version"

/-- Reads a signed block in its envelope. -/
def ofJson? (value : Json) : Option Block := do
  let envelope ← value.fields? ["version", "data"]
  let phase ← envelope.read? "version" phaseOf?
  let data ← envelope.get? "data"
  guard (phaseFirst envelope || data.storable (depthLimit - 1))
  ofMessageJson? phase data

end Block

end BeaconDuties
