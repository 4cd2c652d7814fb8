import BeaconDuties.Block.Message
import BeaconDuties.Proofs.Json.Likeness

/-!
Blocks that are read alike.

Each part of a block has its members, and readers of a part respect their likeness. Which members a
body has depends on its phase, so that envelopes are alike if they tell the same phase and hold
blocks that are alike in it (`Block.likeness`). It does not matter which of the two comes first: what is
proper can be kept until the phase is known (`Block.ofJson?_object`).
-/

namespace BeaconDuties

open Json

/-- The members of a checkpoint. -/
def Checkpoint.members : List (String × Likeness) := [("epoch", .number), ("root", .scalar)]

theorem Checkpoint.respects : Respects (.record members) ofJson? := by
  refine .record ?_
  rintro f g ⟨epoch, root, -⟩
  rw [epoch.read?_eq respects_uint64?, root.read?_eq respects_bytes?]

/-- The members of what an attestation votes for. -/
def AttestationData.members : List (String × Likeness) :=
  [("slot", .number), ("index", .number), ("beacon_block_root", .scalar),
    ("source", .record Checkpoint.members), ("target", .record Checkpoint.members)]

theorem AttestationData.respects : Respects (.record members) ofJson? := by
  refine .record ?_
  rintro f g ⟨slot, index, head, source, target, -⟩
  rw [slot.read?_eq respects_uint64?, index.read?_eq respects_uint64?,
    head.read?_eq respects_bytes?, source.read?_eq Checkpoint.respects,
    target.read?_eq Checkpoint.respects]

/-- The members of an attestation of one committee. -/
def SingleAttestation.members : List (String × Likeness) :=
  [("aggregation_bits", .scalar), ("data", .record AttestationData.members),
    ("signature", .scalar)]

theorem SingleAttestation.respects : Respects (.record members) ofJson? := by
  refine .record ?_
  rintro f g ⟨bits, data, signature, -⟩
  rw [bits.read?_eq respects_bitList?, data.read?_eq AttestationData.respects,
    signature.read?_eq respects_bytes?]

/-- The members of an attestation of several committees. -/
def JointAttestation.members : List (String × Likeness) :=
  [("aggregation_bits", .scalar), ("data", .record AttestationData.members),
    ("signature", .scalar), ("committee_bits", .scalar)]

theorem JointAttestation.respects : Respects (.record members) ofJson? := by
  refine .record ?_
  rintro f g ⟨bits, data, signature, committees, -⟩
  rw [bits.read?_eq respects_bitList?, data.read?_eq AttestationData.respects,
    signature.read?_eq respects_bytes?, committees.read?_eq respects_bitVector?]

/-- The members of a sync aggregate. -/
def SyncAggregate.members : List (String × Likeness) :=
  [("sync_committee_bits", .scalar), ("sync_committee_signature", .scalar)]

theorem SyncAggregate.respects : Respects (.record members) ofJson? := by
  refine .record ?_
  rintro f g ⟨bits, signature, -⟩
  rw [bits.read?_eq respects_bitVector?, signature.read?_eq respects_bytes?]

/-- The members of a withdrawal. -/
def Withdrawal.members : List (String × Likeness) :=
  [("index", .number), ("validator_index", .number), ("address", .scalar), ("amount", .number)]

theorem Withdrawal.respects : Respects (.record members) ofJson? := by
  refine .record ?_
  rintro f g ⟨index, validator, address, amount, -⟩
  rw [index.read?_eq respects_uint64?, validator.read?_eq respects_uint64?,
    address.read?_eq respects_bytes?, amount.read?_eq respects_uint64?]

/-- The members of an execution payload. The one for withdrawals may be missing. -/
def ExecutionPayload.members : List (String × Likeness) :=
  [("block_number", .number), ("block_hash", .scalar),
    ("withdrawals", .list (.record Withdrawal.members))]

theorem ExecutionPayload.respects : Respects (.record members) ofJson? := by
  refine .record ?_
  rintro f g ⟨number, hash, withdrawals, -⟩
  rw [number.read?_eq respects_uint64?, hash.read?_eq respects_bytes?,
    withdrawals.readOr?_eq Withdrawal.respects.list]

/-! ## Bodies -/

namespace Body

/-- The place of a list of attestations of one committee each. -/
def singlesPlace : String × Likeness := ("attestations", .list (.record SingleAttestation.members))

/-- The place of a list of attestations of several committees each. -/
def jointsPlace : String × Likeness := ("attestations", .list (.record JointAttestation.members))

/-- The place of a sync aggregate. -/
def syncPlace : String × Likeness := ("sync_aggregate", .record SyncAggregate.members)

/-- The place of an execution payload. -/
def payloadPlace : String × Likeness := ("execution_payload", .record ExecutionPayload.members)

/-- The place of blob commitments. -/
def blobsPlace : String × Likeness := ("blob_kzg_commitments", .list .scalar)

/-- The members of a body. -/
def members : Phase → List (String × Likeness)
  | .phase0 => [singlesPlace]
  | .altair => [singlesPlace, syncPlace]
  | .bellatrix | .capella => [singlesPlace, syncPlace, payloadPlace]
  | .deneb => [singlesPlace, syncPlace, payloadPlace, blobsPlace]
  | .electra | .fulu => [jointsPlace, syncPlace, payloadPlace, blobsPlace]

theorem respects : ∀ phase, Respects (.record (members phase)) (ofJson? phase)
  | .phase0 => by
    refine .record ?_
    rintro f g ⟨attestations, -⟩
    dsimp only
    rw [attestations.read?_eq SingleAttestation.respects.list]
  | .altair => by
    refine .record ?_
    rintro f g ⟨attestations, sync, -⟩
    dsimp only
    rw [attestations.read?_eq SingleAttestation.respects.list,
      sync.read?_eq SyncAggregate.respects]
  | .bellatrix | .capella => by
    refine .record ?_
    rintro f g ⟨attestations, sync, payload, -⟩
    dsimp only
    rw [attestations.read?_eq SingleAttestation.respects.list,
      sync.read?_eq SyncAggregate.respects, payload.read?_eq ExecutionPayload.respects]
  | .deneb => by
    refine .record ?_
    rintro f g ⟨attestations, sync, payload, blobs, -⟩
    dsimp only
    rw [attestations.read?_eq SingleAttestation.respects.list,
      sync.read?_eq SyncAggregate.respects, payload.read?_eq ExecutionPayload.respects,
      blobs.read?_eq respects_bytes?.list]
  | .electra | .fulu => by
    refine .record ?_
    rintro f g ⟨attestations, sync, payload, blobs, -⟩
    dsimp only
    rw [attestations.read?_eq JointAttestation.respects.list,
      sync.read?_eq SyncAggregate.respects, payload.read?_eq ExecutionPayload.respects,
      blobs.read?_eq respects_bytes?.list]

end Body

/-! ## Blocks -/

/-- Whether a value is no value. -/
def Json.isNull : Json → Bool
  | .null => true
  | _ => false

namespace Block

/-- The same value, or objects with members of the same names, in any order, and each without a value
    in both or in none. -/
def PhaseAlike : Json → Json → Prop
  | .object xs, .object ys =>
    (xs.map fun member => (member.1, member.2.isNull)).Perm
      (ys.map fun member => (member.1, member.2.isNull))
  | .array _, .array _ => True
  | x, y => x = y

/-- What is alike in the place of the phase. -/
def phaseLikeness : Likeness where
  Holds := PhaseAlike
  self
    | .object _ => .refl _
    | .array _ => trivial
    | .null | .bool _ | .number _ | .string _ => rfl

/-- The members of a signed block without its envelope. -/
def messageMembers (phase : Phase) : List (String × Likeness) :=
  [("message", .record [("slot", .number), ("proposer_index", .number), ("parent_root", .scalar),
    ("state_root", .scalar), ("body", .record (Body.members phase))]), ("signature", .scalar)]

/-- Envelopes tell the phase alike and hold what is alike in it. If no phase is told, it does not
    matter what they hold. -/
def EnvelopesAlike : Json → Json → Prop
  | .object xs, .object ys =>
    Option.Rel phaseLikeness.Holds (xs.lookup (some "version")) (ys.lookup (some "version")) ∧
    ∀ phase, (xs.lookup (some "version")).bind phaseOf? = some phase →
      Option.Rel (Likeness.record (messageMembers phase)).Holds (xs.lookup (some "data"))
        (ys.lookup (some "data"))
  | x, y => x = y

/-- What is alike in the place of a block. -/
def likeness : Likeness where
  Holds := EnvelopesAlike
  self
    | .object _ => ⟨phaseLikeness.rel_self _, fun _ _ => Likeness.rel_self _ _⟩
    | .array _ => rfl
    | .null | .bool _ | .number _ | .string _ => rfl

end Block

end BeaconDuties
