import BeaconDuties.Report.BlockAnalysis
import BeaconDuties.Survey.Chain
import BeaconDuties.Survey.Judgement

/-!
Finding out what the contents of a block are worth.

Votes that are on the chain already are worth nothing. So the ancestors of the block are looked at
first, back to the oldest slot that the block has votes for (`BlockSurvey.oldest`), and their
attestations and votes are taken down (`BlockSurvey.index`). Only then are the attestations of the
block itself judged, one after another (`BlockSurvey.rows`).
-/

namespace BeaconDuties.BlockSurvey

open Survey

/-- The kinds of requests that a node has to serve. -/
def needs : List Capability := [.signedBeaconBlocks, .beaconBlockHeaders, .beaconCommittees]

/-- The oldest slot that a block has votes for, but no later than its own. -/
def oldest (block : Block) : Slot :=
  (block.attestations.map (·.data.slot)).foldl min block.slot

variable (limits : Limits) (chain : Chain)

/-- The committees of the epoch of a slot. -/
def committeesAt (slot : Slot) : Survey CommitteeTable :=
  committees chain.clock (chain.clock.epochOf slot)

/-- Takes down attestations that the block of a slot includes, and their votes for slots from
    `oldest` on. -/
def indexAttestations (oldest slot : Slot) :
    Duplicates → List (Attestation × Nat) → Survey Duplicates
  | seen, [] => return seen
  | seen, (attestation, index) :: rest => do
    let seen := seen.record attestation.identityRoot ⟨slot, index⟩
    let voted := attestation.data.slot
    if voted < oldest then indexAttestations oldest slot seen rest
    else
      let members ← attesting (← committeesAt chain voted) attestation
      let (_, seen) := seen.creditAll voted (members.map (·.validator))
      indexAttestations oldest slot seen rest

/-- Takes down the attestations of several blocks, the first of them first. -/
def index (oldest : Slot) : Duplicates → List Block → Survey Duplicates
  | seen, [] => return seen
  | seen, block :: rest => do
    let seen ← indexAttestations chain oldest block.slot seen block.attestations.zipIdx
    index oldest seen rest

/-- The analysis of an attestation that has been included before. -/
def duplicateRow (slot : Slot) (data : AttestationData) (origin : Origin) :
    AttestationAnalysis where
  head := data.head
  target := data.target.root
  distance := satSub slot data.slot
  duplicate := some origin
  newVotes := 0
  votes := 0
  possibleVotes := 0
  flags := .none
  score := .zero
  value := .zero

/-- The analysis of an attestation of the block of a slot, and what has been seen after it. -/
def row (slot : Slot) (seen : Duplicates) (attestation : Attestation) (index : Nat) :
    Survey (AttestationAnalysis × Duplicates) := do
  let data := attestation.data
  let table ← committeesAt chain data.slot
  let members ← during (.decodingAttestation index slot) (attesting table attestation)
  let (newVotes, seen) := seen.creditAll data.slot (members.map (·.validator))
  let classification ← classify limits chain.clock data slot
  let score ← total (chain.weights.attestationScore classification.flags)
  return ({
    head := data.head
    target := data.target.root
    distance := classification.delay
    duplicate := none
    newVotes
    votes := members.length
    possibleVotes := attestation.bits.length
    flags := classification.flags
    score
    value := score.mul (.ofNat newVotes) }, seen)

/-- The analyses of attestations of the block of a slot, one after another. -/
def rows (slot : Slot) :
    Duplicates → List (Attestation × Nat) → Survey (List AttestationAnalysis)
  | _, [] => return []
  | seen, (attestation, index) :: rest => do
    let root := attestation.identityRoot
    match seen.origin? root with
    | some origin =>
      return duplicateRow slot attestation.data origin :: (← rows slot seen rest)
    | none =>
      let seen := seen.record root ⟨slot, index⟩
      let (analysis, seen) ← row limits chain slot seen attestation index
      return analysis :: (← rows slot seen rest)

/-- The analysis of a block's sync aggregate. -/
def syncRow (block : Block) : SyncAnalysis :=
  match block.sync? with
  | none => .absent
  | some aggregate =>
    let contributions := aggregate.bits.countOnes
    let score := chain.weights.syncScore
    { contributions
      possibleContributions := aggregate.bits.length
      score
      value := score.mul (.ofNat contributions) }

/-- Analyzes a block. -/
def analyze (block : Block) : Survey BlockAnalysis := do
  let oldest := oldest block
  let ancestors ← ancestors limits block oldest
  let seen ← index chain oldest .empty ancestors.reverse
  let attestations ← rows limits chain block.slot seen block.attestations.zipIdx
  return .ofParts block.slot attestations (syncRow chain block)

/-- Analyzes the block with a name if the node serves all that is needed. -/
def run (available : List Capability) (id : BlockId) : Survey BlockAnalysis := do
  lift .node (Capability.require available needs)
  match ← during (.obtainingBlock id) (ask (.block id)) with
  | none => fail (.noBlock id)
  | some block => analyze limits chain block

end BeaconDuties.BlockSurvey
