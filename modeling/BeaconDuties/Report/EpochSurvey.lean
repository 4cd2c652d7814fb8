import BeaconDuties.Duty.Duplicates
import BeaconDuties.Report.EpochSummary
import BeaconDuties.Survey.Chain
import BeaconDuties.Survey.Judgement

/-!
Finding out what validators did in an epoch.

Attestations of the epoch are looked for in the blocks of its inclusion window. What is found there
is a list of inclusions in the order of the chain (`EpochSurvey.inclusions`), from which the
participation of each validator follows (`EpochSurvey.records`). An attestation that has been seen
before is passed over, and one that carries no vote of a selected validator is not judged.

`EpochSurvey.run` gathers all that is needed (`EpochSurvey.gather`) and then adds it up to an
`EpochSummary` (`EpochSurvey.Findings.summary?`).
-/

namespace BeaconDuties.EpochSurvey

open Survey

/-- What is asked about an epoch. -/
structure Query where
  epoch : Epoch
  /-- Whom the summary is about; everyone if it is empty. -/
  ids : List ValidatorId
  /-- The current slot. -/
  current : Slot

/-- The kinds of requests that a node has to serve. -/
def needs : List Capability :=
  [.proposerDuties, .signedBeaconBlocks, .syncCommittees, .validators, .beaconCommittees,
    .beaconBlockHeaders]

/-! ## Whom the summary is about -/

/-- Finds out which validators are named. -/
def select (ids : List ValidatorId) : Survey Selection := do
  if ids.isEmpty then return .everyone
  else
    let known ← during .obtainingValidators (ask (.validators .head ids))
    if known.isEmpty then fail .nobodyKnown
    else return .only (.ofList (known.map (·.index)))

/-- The selected validators by their indices; of two with one index the later one counts. -/
def registry (selection : Selection) (infos : List ValidatorInfo) :
    Std.ExtTreeMap ValidatorIndex ValidatorInfo :=
  (infos.filter (selection.contains ·.index)).foldl (fun found x => found.insert x.index x) ∅

/-! ## Attestations -/

/-- An attestation of the epoch in a block, with the selected validators whose votes it carries. -/
structure Inclusion where
  /-- The slot of the block. -/
  slot : Slot
  data : AttestationData
  classification : Classification
  validators : List ValidatorIndex

/-- The duties of the selected validators, before any vote is known. A validator with several seats
    counts in the first of them. -/
def awaiting (selection : Selection) (registry : Std.ExtTreeMap ValidatorIndex ValidatorInfo)
    (table : CommitteeTable) : Std.ExtTreeMap ValidatorIndex Participation :=
  (table.seats.filter (selection.contains ·.validator)).foldl
    (fun records seat =>
      let balance := (registry[seat.validator]?.map (·.effectiveBalance)).getD 0
      records.insertIfNew seat.validator (.awaiting seat balance))
    ∅

/-- Adds an inclusion to the records of the validators whose votes it carries. -/
def addInclusion (records : Std.ExtTreeMap ValidatorIndex Participation) (x : Inclusion) :
    Std.ExtTreeMap ValidatorIndex Participation :=
  x.validators.foldl
    (fun records validator =>
      records.modify validator (·.record x.data x.classification x.slot))
    records

/-- The records after all inclusions. -/
def records (awaiting : Std.ExtTreeMap ValidatorIndex Participation) (found : List Inclusion) :
    Std.ExtTreeMap ValidatorIndex Participation :=
  found.foldl addInclusion awaiting

section Search

variable (limits : Limits) (clock : Clock) (epoch : Epoch) (table : CommitteeTable)
  (wanted : ValidatorIndex → Bool)

/-- The inclusion of an attestation, if it carries a wanted vote. -/
def judge (slot : Slot) (index : Nat) (attestation : Attestation) : Survey (List Inclusion) := do
  let members ← during (.decodingAttestation index slot) (attesting table attestation)
  let validators := (members.map (·.validator)).filter wanted
  if validators.isEmpty then return []
  else
    let data := attestation.data
    return [⟨slot, data, ← classify limits clock data slot, validators⟩]

/-- The inclusions in a block, but for attestations that have been seen before. -/
def inBlock (slot : Slot) :
    Duplicates → List (Attestation × Nat) → Survey (List Inclusion × Duplicates)
  | seen, [] => return ([], seen)
  | seen, (attestation, index) :: rest => do
    if clock.epochOf attestation.data.slot = epoch then
      let root := attestation.identityRoot
      if (seen.origin? root).isSome then inBlock slot seen rest
      else
        let found ← judge limits clock table wanted slot index attestation
        let (further, seen) ← inBlock slot (seen.record root ⟨slot, index⟩) rest
        return (found ++ further, seen)
    else inBlock slot seen rest

/-- The inclusions in the block of a slot, if there is one. -/
def inSlot (seen : Duplicates) (slot : Slot) : Survey (List Inclusion × Duplicates) := do
  checkTime limits
  match ← blockIn slot with
  | none => return ([], seen)
  | some block => inBlock limits clock epoch table wanted slot seen block.attestations.zipIdx

/-- All inclusions of wanted votes, in the order of the chain. -/
def inclusions (window : SlotRange) : Survey (List Inclusion) :=
  gatherSlots (inSlot limits clock epoch table wanted) window.count window.first .empty

end Search

/-- How the selected validators fulfilled their duties to attest. -/
def participations (limits : Limits) (clock : Clock) (query : Query) (selection : Selection)
    (registry : Std.ExtTreeMap ValidatorIndex ValidatorInfo) :
    Survey (Std.ExtTreeMap ValidatorIndex Participation) := do
  let table ← committees clock query.epoch
  let awaiting := awaiting selection registry table
  let window := clock.inclusionWindow query.epoch query.current
  return records awaiting
    (← inclusions limits clock query.epoch table (awaiting.contains ·) window)

/-! ## The sync committee -/

/-- Adds the blocks of `count` slots from `slot` on to a tally. A block without a sync aggregate
    ends it: there was no sync committee before Altair. -/
def tallySlots (selection : Selection) : Nat → Slot → SyncTally → Survey SyncTally
  | 0, _, tally => return tally
  | count + 1, slot, tally => do
    match ← blockIn slot with
    | none => tallySlots selection count (slot + 1) tally
    | some block =>
      match block.sync? with
      | none => return tally
      | some aggregate =>
        let tally ← during (.processingSync slot)
          (lift .data (tally.record slot aggregate.bits selection.contains))
        tallySlots selection count (slot + 1) tally

/-- The seats of the selected validators in the sync committee, and their misses. -/
def syncDuties (clock : Clock) (epoch : Epoch) (selection : Selection) :
    Survey (Nat × List SyncMisses) := do
  if epoch < clock.forks.altair then return (0, [])
  else
    let slots := clock.epochSlots epoch
    let committee ← during .obtainingSyncCommittee
      (ask (.syncCommittee (.slot slots.first) (some epoch)))
    let members := committee.validators
    if members.isEmpty then fail (.emptySyncCommittee epoch)
    else
      let tally ← tallySlots selection slots.count slots.first (.start members)
      return (members.countP selection.contains, tally.finish)

/-! ## The summary -/

/-- All that a summary is made of. -/
structure Findings where
  selection : Selection
  due : List Proposal
  registry : Std.ExtTreeMap ValidatorIndex ValidatorInfo
  records : Std.ExtTreeMap ValidatorIndex Participation
  syncSeats : Nat
  syncMisses : List SyncMisses
  /-- How many blobs each of the validators' blocks commits to. -/
  blobs : List Nat

/-- How many blobs each of the blocks of the given slots commits to. -/
def blobsIn : List Slot → Survey (List Nat)
  | [] => return []
  | slot :: rest => do
    let block ← blockIn slot
    return (block.map (·.blobCount)).getD 0 :: (← blobsIn rest)

/-- Gathers all that a summary is made of, if the node serves all that is needed. The blocks whose
    blobs are counted have been looked up before, with the duties. -/
def gather (available : List Capability) (limits : Limits) (chain : Chain) (query : Query) :
    Survey Findings := do
  lift .node (Capability.require available needs)
  let selection ← select query.ids
  let duties ← during .obtainingProposers (ask (.proposers query.epoch))
  let due ← proposals duties
  let infos ← during .obtainingEpochValidators
    (ask (.validators (.slot (chain.clock.epochSlots query.epoch).first) selection.ids))
  let registry := registry selection infos
  let records ← participations limits chain.clock query selection registry
  let (syncSeats, syncMisses) ← syncDuties chain.clock query.epoch selection
  let selected := due.filter (selection.contains ·.validator)
  let blobs ← blobsIn ((selected.filter (·.proposed)).map (·.slot))
  return { selection, due, registry, records, syncSeats, syncMisses, blobs }

/-- The records of the active validators in the order of their seats. -/
def activeRecords (active : List ValidatorInfo)
    (records : Std.ExtTreeMap ValidatorIndex Participation) : List Participation :=
  sortOn Participation.seat (active.filterMap fun x => records[x.index]?)

namespace Findings

variable (clock : Clock) (query : Query) (x : Findings)

/-- The selected validators that are active in the epoch. -/
def active : List ValidatorInfo := x.registry.values.filter (·.isActiveIn query.epoch)

/-- The balances of the selected validators that are active in the epoch. -/
def balances : List Gwei := (x.active query).map (·.effectiveBalance)

/-- The records of the active validators. -/
def counted : List Participation := activeRecords (x.active query) x.records

/-- Adds up what has been gathered, unless a total does not fit. -/
def summary? : Option EpochSummary := do
  let records := x.counted query
  return {
    epoch := query.epoch
    slots := clock.epochSlots query.epoch
    syncSeats := x.syncSeats
    syncMisses := x.syncMisses
    blobs := ← checkedCount x.blobs
    blocks := x.due.countP (·.proposed)
    proposals := x.due.filter (x.selection.contains ·.validator)
    participating := ← Criterion.participating.outcome? records
    headCorrect := ← Criterion.headCorrect.outcome? records
    headTimely := ← Criterion.headTimely.outcome? records
    sourceTimely := ← Criterion.sourceTimely.outcome? records
    targetCorrect := ← Criterion.targetCorrect.outcome? records
    targetTimely := ← Criterion.targetTimely.outcome? records
    active := ← Share.ofBalances? (x.balances query) }

end Findings

/-- Summarizes an epoch. Nothing is asked for once all is gathered. -/
def run (available : List Capability) (limits : Limits) (chain : Chain) (query : Query) :
    Survey EpochSummary := do
  let x ← gather available limits chain query
  total (x.summary? chain.clock query)

end BeaconDuties.EpochSurvey
