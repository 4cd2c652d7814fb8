import BeaconDuties.Block.Message
import BeaconDuties.Proofs.Json.Fields

/-!
Decoding a block undoes encoding it.

Each part of a block is read as the one that is written, from the checkpoints of a vote up to the
envelope that tells the phase. A bit vector is written without its length, so that it must have a
whole number of bytes (`Block.Whole`); all else comes back whatever it is. What is written is
legible, so that this also holds of texts (`Block.decode_encode`).
-/

namespace BeaconDuties

open Json

@[simp] theorem Checkpoint.ofJson?_toJson (x : Checkpoint) : ofJson? x.toJson = some x := by
  simp [ofJson?, toJson, Fields.read?]

@[simp] theorem AttestationData.ofJson?_toJson (x : AttestationData) : ofJson? x.toJson = some x := by
  simp [ofJson?, toJson, Fields.read?]

@[simp] theorem SingleAttestation.ofJson?_toJson (x : SingleAttestation) :
    ofJson? x.toJson = some x := by
  simp [ofJson?, toJson, Fields.read?]

theorem JointAttestation.ofJson?_toJson {x : JointAttestation} (h : 8 ∣ x.committeeBits.length) :
    ofJson? x.toJson = some x := by
  simp [ofJson?, toJson, Fields.read?, h]

theorem SyncAggregate.ofJson?_toJson {x : SyncAggregate} (h : 8 ∣ x.bits.length) :
    ofJson? x.toJson = some x := by
  simp [ofJson?, toJson, Fields.read?, h]

@[simp] theorem Withdrawal.ofJson?_toJson (x : Withdrawal) : ofJson? x.toJson = some x := by
  simp [ofJson?, toJson, Fields.read?]

@[simp] theorem ExecutionPayload.ofJson?_toJson (x : ExecutionPayload) :
    ofJson? x.toJson = some x := by
  obtain ⟨number, hash, withdrawals⟩ := x
  cases withdrawals with
  | nil => simp [ofJson?, toJson, Fields.read?, Fields.readOr?]
  | cons first rest =>
    have hlist : list? Withdrawal.ofJson? (array ((first :: rest).map Withdrawal.toJson)) =
      some (first :: rest) := list?_map fun x _ => x.ofJson?_toJson
    rw [List.map_cons] at hlist
    simp [ofJson?, toJson, Fields.read?, Fields.readOr?, hlist]

/-! ## Bodies -/

namespace Body

/-- All bit vectors of a body have a whole number of bytes. -/
structure Whole (x : Body) : Prop where
  sync : ∀ sync, x.sync? = some sync → 8 ∣ sync.bits.length
  committees : ∀ attestation ∈ x.attestations, ∀ bits, attestation.committeeBits? = some bits →
    8 ∣ bits.length

theorem list?_singles {xs : List SingleAttestation} :
    list? SingleAttestation.ofJson? (array (xs.map SingleAttestation.toJson)) = some xs :=
  list?_map fun x _ => x.ofJson?_toJson

theorem list?_joints {xs : List JointAttestation}
    (h : ∀ attestation ∈ xs.map Attestation.joint, ∀ bits,
      attestation.committeeBits? = some bits → 8 ∣ bits.length) :
    list? JointAttestation.ofJson? (array (xs.map JointAttestation.toJson)) = some xs :=
  list?_map fun x hx => x.ofJson?_toJson (h _ (List.mem_map_of_mem hx) _ rfl)

theorem list?_blobs {xs : List Commitment} : list? (bytes? 48) (array (xs.map bytes)) = some xs :=
  list?_map fun x _ => bytes?_bytes x

theorem ofJson?_toJson {x : Body} (h : x.Whole) : ofJson? x.phase x.toJson = some x := by
  cases x with
  | phase0 attestations =>
    simp [ofJson?, toJson, phase, fieldNames, Fields.read?, SingleAttestation.listJson, list?_singles]
  | altair attestations sync =>
    have hsync := SyncAggregate.ofJson?_toJson (h.sync sync rfl)
    simp [ofJson?, toJson, phase, fieldNames, Fields.read?, SingleAttestation.listJson, syncMember,
      list?_singles, hsync]
  | bellatrix attestations sync payload | capella attestations sync payload =>
    have hsync := SyncAggregate.ofJson?_toJson (h.sync sync rfl)
    simp [ofJson?, toJson, phase, fieldNames, Fields.read?, SingleAttestation.listJson, syncMember,
      payloadMember, list?_singles, hsync]
  | deneb attestations sync payload blobs =>
    have hsync := SyncAggregate.ofJson?_toJson (h.sync sync rfl)
    simp [ofJson?, toJson, phase, fieldNames, Fields.read?, SingleAttestation.listJson, syncMember,
      payloadMember, blobsMember, list?_singles, list?_blobs, hsync]
  | electra attestations sync payload blobs | fulu attestations sync payload blobs =>
    have hsync := SyncAggregate.ofJson?_toJson (h.sync sync rfl)
    have hjoints := list?_joints h.committees
    simp [ofJson?, toJson, phase, fieldNames, Fields.read?, JointAttestation.listJson, syncMember,
      payloadMember, blobsMember, list?_blobs, hsync, hjoints]

end Body

/-! ## Blocks -/

namespace Block

/-- All bit vectors of a block have a whole number of bytes. -/
def Whole (x : Block) : Prop := x.body.Whole

theorem ofMessageJson?_messageJson {x : Block} (h : x.Whole) :
    ofMessageJson? x.phase x.messageJson = some x := by
  have hbody := Body.ofJson?_toJson h
  simp [ofMessageJson?, messageJson, phase, Fields.read?, hbody]

theorem phaseOf?_name (phase : Phase) : phaseOf? (text phase.name) = some phase := by
  cases phase <;> rfl

theorem ofJson?_toJson {x : Block} (h : x.Whole) : ofJson? x.toJson = some x := by
  let fields : Fields := ⟨[("version", text x.phase.name), ("data", x.messageJson)]⟩
  have hfields : x.toJson.fields? ["version", "data"] = some fields :=
    fields?_record (.refl _) (by decide)
  have hphase : fields.read? "version" phaseOf? = some x.phase := phaseOf?_name x.phase
  have hguard : (guard (phaseFirst fields || x.messageJson.storable (depthLimit - 1)) : Option Unit) =
    some () := guard_of rfl
  rw [ofJson?, hfields]
  change (do
    let phase ← fields.read? "version" phaseOf?
    guard (phaseFirst fields || x.messageJson.storable (depthLimit - 1))
    ofMessageJson? phase x.messageJson) = some x
  rw [hphase, Option.bind_eq_bind, Option.bind_some, hguard]
  exact ofMessageJson?_messageJson h

end Block

/-! ## Texts -/

@[simp] theorem Checkpoint.legible_toJson {x : Checkpoint} : x.toJson.Legible := by
  simp [toJson, legible_record]

@[simp] theorem AttestationData.legible_toJson {x : AttestationData} : x.toJson.Legible := by
  simp [toJson, legible_record]

@[simp] theorem SingleAttestation.legible_toJson {x : SingleAttestation} : x.toJson.Legible := by
  simp [toJson, legible_record]

@[simp] theorem JointAttestation.legible_toJson {x : JointAttestation} : x.toJson.Legible := by
  simp [toJson, legible_record]

@[simp] theorem SyncAggregate.legible_toJson {x : SyncAggregate} : x.toJson.Legible := by
  simp [toJson, legible_record]

@[simp] theorem Withdrawal.legible_toJson {x : Withdrawal} : x.toJson.Legible := by
  simp [toJson, legible_record]

@[simp] theorem ExecutionPayload.legible_toJson {x : ExecutionPayload} : x.toJson.Legible := by
  rw [toJson]
  split <;> simp [legible_record, legible_array]

@[simp] theorem Body.legible_toJson {x : Body} : x.toJson.Legible := by
  cases x <;> simp [toJson, legible_record, legible_array, SingleAttestation.listJson,
    JointAttestation.listJson, syncMember, payloadMember, blobsMember]

/-! ## Members -/

theorem ExecutionPayload.member?_withdrawals {x : ExecutionPayload} :
    x.toJson.member? "withdrawals" =
      if x.withdrawals = [] then none else some (array (x.withdrawals.map Withdrawal.toJson)) := by
  obtain ⟨number, hash, withdrawals⟩ := x
  cases withdrawals <;> simp [toJson, member?_record, List.lookup_cons]

theorem Body.member?_payload {x : Body} :
    x.toJson.member? "execution_payload" = x.payload?.map ExecutionPayload.toJson := by
  cases x <;> simp [toJson, payload?, member?_record, List.lookup_cons,
    SingleAttestation.listJson, JointAttestation.listJson, syncMember, payloadMember]

namespace Block

theorem legible_toJson {x : Block} : x.toJson.Legible := by
  simp [toJson, messageJson, legible_record]

/-- The withdrawals of a block are written in its execution payload unless there are none. -/
theorem at?_withdrawals {x : Block} :
    x.toJson.at? ["data", "message", "body", "execution_payload", "withdrawals"] =
      if x.withdrawals = [] then none else some (array (x.withdrawals.map Withdrawal.toJson)) := by
  have hpath : x.toJson.at? ["data", "message", "body", "execution_payload", "withdrawals"] =
      (x.body.payload?.map ExecutionPayload.toJson).bind (member? "withdrawals") := by
    simp [toJson, messageJson, at?, member?_record, List.lookup_cons, Body.member?_payload]
  rw [hpath, withdrawals]
  cases x.body.payload? with
  | none => rfl
  | some payload => exact ExecutionPayload.member?_withdrawals

/-- **Decoding a block undoes encoding it**, in every phase. The value and the text that are written
    for a block with bit vectors of whole bytes are read as this block. The member for withdrawals
    holds them all, and is left out just when there are none. -/
theorem decode_encode {x : Block} (h : x.Whole) :
    ofJson? x.toJson = some x ∧
    (read? x.toJson.render).bind ofJson? = some x ∧
    x.toJson.at? ["data", "message", "body", "execution_payload", "withdrawals"] =
      if x.withdrawals = [] then none else some (array (x.withdrawals.map Withdrawal.toJson)) := by
  refine ⟨ofJson?_toJson h, ?_, at?_withdrawals⟩
  rw [read?_render legible_toJson, Option.bind_some, ofJson?_toJson h]

/-- A block with the largest numbers, votes of no member and of nine members, and a withdrawal. -/
def full : Block where
  slot := UInt64.ofNat (UInt64.size - 1)
  proposer := UInt64.ofNat (UInt64.size - 1)
  parent := .replicate 32 0xff
  state := .replicate 32 0x5a
  body := .fulu
    [⟨⟨[]⟩, ⟨1, 0, .zero 32, ⟨0, .zero 32⟩, ⟨1, .zero 32⟩⟩, .zero 96, ⟨[]⟩⟩,
      ⟨⟨List.replicate 9 true⟩, ⟨1, 0, .zero 32, ⟨0, .zero 32⟩, ⟨1, .zero 32⟩⟩, .zero 96,
        ⟨[true, false, false, false, false, false, false, true]⟩⟩]
    ⟨⟨List.replicate 16 true⟩, .replicate 96 1⟩
    ⟨7, .zero 32, [⟨0, UInt64.ofNat (UInt64.size - 1), .zero 20, 32⟩]⟩
    [.replicate 48 0xab]
  signature := .replicate 96 2

theorem decode_encode_full :
    full.Whole ∧ ofJson? full.toJson = some full ∧
    (read? full.toJson.render).bind ofJson? = some full ∧
    full.toJson.at? ["data", "message", "body", "execution_payload", "withdrawals"] =
      some (array (full.withdrawals.map Withdrawal.toJson)) := by
  have hwhole : full.Whole := by
    refine ⟨?_, ?_⟩
    · rintro _ ⟨⟩
      decide
    · simp [full, Body.attestations, Attestation.committeeBits?, BitVector.length]
  exact ⟨hwhole, decode_encode hwhole⟩

end Block

end BeaconDuties
