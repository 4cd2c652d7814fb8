import BeaconDuties.Node.Exchange
import BeaconDuties.Proofs.Block.Likeness
import BeaconDuties.Proofs.Block.Message

/-!
Messages that are read alike.

What a node answers is a block in its envelope, or an `Entry`: a header, a validator, a committee or
a duty, a list of entries, or an entry in the envelope of an answer. For each of these messages there
is a likeness (`Message.likeness`) and a reader that respects it (`Entry.respects`). So documents that
differ in the order of members, in members that are not read, and in how numbers are written are read
as the same message or as none (`Message.decode?_eq_of_alike`).
-/

namespace BeaconDuties

open Json

/-- The members of a header in a node's answer. -/
def Header.members : List (String × Likeness) :=
  [("root", .scalar), ("canonical", .scalar),
    ("header", .record [("message", .record [("slot", .number), ("parent_root", .scalar)])])]

theorem Header.respects : Respects (.record members) ofReply? := by
  refine .record ?_
  rintro f g ⟨root, canonical, header, -⟩
  rw [root.read?_eq respects_bytes?, canonical.read?_eq respects_bool?]
  refine header.read?_eq (.record ?_)
  rintro f' g' ⟨message, -⟩
  refine message.read?_eq (.record ?_)
  rintro f'' g'' ⟨slot, parent, -⟩
  rw [slot.read?_eq respects_uint64?, parent.read?_eq respects_bytes?]

/-- The members of an entry of the registry. -/
def Validator.members : List (String × Likeness) :=
  [("pubkey", .scalar), ("withdrawal_credentials", .scalar), ("effective_balance", .number),
    ("slashed", .scalar), ("activation_eligibility_epoch", .number), ("activation_epoch", .number),
    ("exit_epoch", .number), ("withdrawable_epoch", .number)]

theorem Validator.respects : Respects (.record members) ofJson? := by
  refine .record ?_
  rintro f g ⟨key, credentials, balance, slashed, eligibility, activation, exit, withdrawable, -⟩
  rw [key.read?_eq respects_bytes?, credentials.read?_eq respects_bytes?,
    balance.read?_eq respects_uint64?, slashed.read?_eq respects_bool?,
    eligibility.read?_eq respects_uint64?, activation.read?_eq respects_uint64?,
    exit.read?_eq respects_uint64?, withdrawable.read?_eq respects_uint64?]

/-- The members of a validator. -/
def ValidatorInfo.members : List (String × Likeness) :=
  [("index", .number), ("balance", .number), ("status", .scalar),
    ("validator", .record Validator.members)]

theorem ValidatorInfo.respects : Respects (.record members) ofJson? := by
  refine .record ?_
  rintro f g ⟨index, balance, status, validator, -⟩
  rw [index.read?_eq respects_uint64?, balance.read?_eq respects_uint64?,
    status.read?_eq (.scalar (fun _ => rfl) fun _ => rfl), validator.read?_eq Validator.respects]

/-- The members of a proposer's duty. -/
def ProposerDuty.members : List (String × Likeness) :=
  [("pubkey", .scalar), ("validator_index", .number), ("slot", .number)]

theorem ProposerDuty.respects : Respects (.record members) ofJson? := by
  refine .record ?_
  rintro f g ⟨key, validator, slot, -⟩
  rw [key.read?_eq respects_bytes?, validator.read?_eq respects_uint64?,
    slot.read?_eq respects_uint64?]

/-- The members of an attester's duty. -/
def AttesterDuty.members : List (String × Likeness) :=
  [("pubkey", .scalar), ("validator_index", .number), ("committee_index", .number),
    ("committee_length", .number), ("committees_at_slot", .number),
    ("validator_committee_index", .number), ("slot", .number)]

theorem AttesterDuty.respects : Respects (.record members) ofJson? := by
  refine .record ?_
  rintro f g ⟨key, validator, committee, length, committees, position, slot, -⟩
  rw [key.read?_eq respects_bytes?, validator.read?_eq respects_uint64?,
    committee.read?_eq respects_uint64?, length.read?_eq respects_uint64?,
    committees.read?_eq respects_uint64?, position.read?_eq respects_uint64?,
    slot.read?_eq respects_uint64?]

/-- The members of a committee. -/
def Committee.members : List (String × Likeness) :=
  [("index", .number), ("slot", .number), ("validators", .list .number)]

theorem Committee.respects : Respects (.record members) ofJson? := by
  refine .record ?_
  rintro f g ⟨index, slot, validators, -⟩
  rw [index.read?_eq respects_uint64?, slot.read?_eq respects_uint64?,
    validators.read?_eq respects_uint64?.list]

/-- The members of a sync committee. -/
def SyncCommittee.members : List (String × Likeness) := [("validators", .list .number)]

theorem SyncCommittee.respects : Respects (.record members) ofJson? := by
  refine .record ?_
  rintro f g ⟨validators, -⟩
  rw [validators.read?_eq respects_uint64?.list]

/-! ## Messages -/

/-- What is told in an answer that is not a block. -/
inductive Entry where
  | header
  | validator
  | committee
  | syncCommittee
  | proposerDuty
  | attesterDuty
  /-- Entries, one after another. -/
  | list (entry : Entry)
  /-- An entry in the envelope of an answer. -/
  | data (entry : Entry)

namespace Entry

/-- The type of what is told. -/
abbrev Value : Entry → Type
  | header => Header
  | validator => ValidatorInfo
  | committee => Committee
  | syncCommittee => SyncCommittee
  | proposerDuty => ProposerDuty
  | attesterDuty => AttesterDuty
  | list entry => List entry.Value
  | data entry => entry.Value

/-- Reads an entry. -/
def decode? : (entry : Entry) → Json → Option entry.Value
  | header => Header.ofReply?
  | validator => ValidatorInfo.ofJson?
  | committee => Committee.ofJson?
  | syncCommittee => SyncCommittee.ofJson?
  | proposerDuty => ProposerDuty.ofJson?
  | attesterDuty => AttesterDuty.ofJson?
  | list entry => Json.list? entry.decode?
  | data entry => Request.data? entry.decode?

/-- When two values are alike as entries. -/
def likeness : Entry → Likeness
  | header => .record Header.members
  | validator => .record ValidatorInfo.members
  | committee => .record Committee.members
  | syncCommittee => .record SyncCommittee.members
  | proposerDuty => .record ProposerDuty.members
  | attesterDuty => .record AttesterDuty.members
  | list entry => .list entry.likeness
  | data entry => .record [("data", entry.likeness)]

theorem respects : ∀ entry : Entry, Respects entry.likeness entry.decode?
  | header => Header.respects
  | validator => ValidatorInfo.respects
  | committee => Committee.respects
  | syncCommittee => SyncCommittee.respects
  | proposerDuty => ProposerDuty.respects
  | attesterDuty => AttesterDuty.respects
  | list entry => (respects entry).list
  | data entry => by
    refine .record ?_
    rintro f g ⟨content, -⟩
    exact content.read?_eq (respects entry)

end Entry

/-- What a node answers. -/
inductive Message where
  /-- A signed block in the envelope that tells its phase. -/
  | block
  | entry (kind : Entry)

namespace Message

/-- The type of what is told. -/
abbrev Value : Message → Type
  | block => Block
  | entry kind => kind.Value

/-- Reads a message. -/
def decode? : (message : Message) → Json → Option message.Value
  | block => Block.ofJson?
  | entry kind => kind.decode?

/-- When two values are alike as messages. -/
def likeness : Message → Likeness
  | block => Block.likeness
  | entry kind => kind.likeness

/-- A block without attestations. -/
def plain : Block where
  slot := 5
  proposer := 7
  parent := .zero 32
  state := .zero 32
  body := .phase0 []
  signature := .zero 96

end Message

end BeaconDuties
