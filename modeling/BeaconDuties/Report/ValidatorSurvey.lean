import BeaconDuties.Duty.Duplicates
import BeaconDuties.Order
import BeaconDuties.Report.ValidatorSummary
import BeaconDuties.Survey.Chain
import BeaconDuties.Survey.Judgement

/-!
Finding out how named validators fulfilled their duties in an epoch.

A duty is fulfilled by the first attestation in the inclusion window that votes for its slot and
carries the validator's vote. `ValidatorSurvey.credits` lists the duties that are fulfilled, in the
order of the chain, and `ValidatorSurvey.report` tells from this list and the duties all that the
summary says of attestations.
-/

namespace BeaconDuties.ValidatorSurvey

open Survey

/-- What is asked about validators. -/
structure Query where
  epoch : Epoch
  ids : List ValidatorId
  /-- The current slot. -/
  current : Slot

/-- The kinds of requests that a node has to serve. -/
def needs : List Capability :=
  [.validators, .proposerDuties, .attesterDuties, .signedBeaconBlocks, .beaconBlockHeaders,
    .beaconCommittees]

/-- The duties of validators by their indices. -/
abbrev Duties := Std.ExtTreeMap ValidatorIndex AttesterDuty

/-- The duties of a list; of two duties of a validator the later one counts. -/
def dutiesOf (duties : List AttesterDuty) : Duties :=
  duties.foldl (fun found duty => found.insert duty.validator duty) ∅

/-- A duty that is fulfilled, and the vote that fulfils it. -/
structure Credit where
  duty : AttesterDuty
  /-- The slot of the block that includes the vote. -/
  inclusion : Slot
  classification : Classification

/-- The seat of a duty. -/
def seatOf (duty : AttesterDuty) : Seat := ⟨duty.slot, duty.committee, duty.validator⟩

/-! ## Attestations -/

/-- The duties for a slot that members fulfil for the first time, and what has been seen then. -/
def fulfilled (duties : Duties) (slot : Slot) :
    Duplicates → List Member → List AttesterDuty × Duplicates
  | seen, [] => ([], seen)
  | seen, member :: rest =>
    let ballot : Ballot := ⟨slot, member.validator⟩
    match duties[member.validator]?.filter fun duty => duty.slot = slot && !seen.isCredited ballot
    with
    | some duty =>
      let (further, seen) := fulfilled duties slot (seen.credit ballot) rest
      (duty :: further, seen)
    | none => fulfilled duties slot seen rest

section Search

variable (limits : Limits) (clock : Clock) (epoch : Epoch) (table : CommitteeTable)
  (duties : Duties)

/-- The duties that the attestations of a block fulfil. -/
def inBlock (slot : Slot) : Duplicates → List Attestation → Survey (List Credit × Duplicates)
  | seen, [] => return ([], seen)
  | seen, attestation :: rest => do
    let data := attestation.data
    if clock.epochOf data.slot = epoch then
      let members ← attesting table attestation
      let (fulfilled, seen) := fulfilled duties data.slot seen members
      if fulfilled.isEmpty then inBlock slot seen rest
      else
        let classification ← classify limits clock data slot
        let (further, seen) ← inBlock slot seen rest
        return ((fulfilled.map fun duty => ⟨duty, slot, classification⟩) ++ further, seen)
    else inBlock slot seen rest

/-- The duties that the block of a slot fulfils, if there is one. -/
def inSlot (seen : Duplicates) (slot : Slot) : Survey (List Credit × Duplicates) := do
  checkTime limits
  match ← blockIn slot with
  | none => return ([], seen)
  | some block => inBlock limits clock epoch table duties slot seen block.attestations

end Search

/-- The duties that are fulfilled, in the order of the chain. -/
def credits (limits : Limits) (clock : Clock) (query : Query) (duties : Duties) :
    Survey (List Credit) := do
  if duties.isEmpty then return []
  else
    let table ← committees clock query.epoch
    let window := clock.inclusionWindow query.epoch query.current
    gatherSlots (inSlot limits clock query.epoch table duties) window.count window.first .empty

/-! ## The summary -/

/-- The slots of duties in ascending order. -/
def dutySlots (duties : List AttesterDuty) : List Slot :=
  (groupsOn AttesterDuty.slot duties).keys

/-- The row of a slot. -/
def row (duties : List AttesterDuty) (credits : List Credit) (slot : Slot) : SlotDuties :=
  let credited := credits.filter (·.duty.slot = slot)
  let count (holds : VoteFlags → Bool) := credited.countP fun x => holds x.classification.flags
  { slot
    expected := duties.countP (·.slot = slot)
    included := credited.length
    correctHead := count (·.headCorrect)
    timelyHead := count (·.headTimely)
    correctTarget := count (·.targetCorrect)
    timelyTarget := count fun flags => flags.targetCorrect && flags.targetTimely
    timelySource := count (·.sourceTimely) }

/-- The seats of the duties that are not fulfilled, in order. -/
def missed (duties : List AttesterDuty) (credits : List Credit) : List Seat :=
  let credited : Std.ExtTreeSet ValidatorIndex := .ofList (credits.map (·.duty.validator))
  sortOn id ((duties.filter (!credited.contains ·.validator)).map seatOf)

/-- The votes for which something holds, in the order of their seats. -/
def faults (credits : List Credit) (holds : Classification → Bool) : List VoteFault :=
  let faulty := credits.filter fun x => holds x.classification
  sortOn (·.seat) (faulty.map fun x => ⟨seatOf x.duty, x.inclusion, x.classification.delay⟩)

/-- The summary of what was found. -/
def report (clock : Clock) (epoch : Epoch) (validators active : List ValidatorIndex)
    (duties : List AttesterDuty) (credits : List Credit) (proposals : List Proposal) :
    ValidatorSummary where
  epoch := epoch
  epochSlots := clock.epochSlots epoch
  validators := validators
  active := active.length
  participating := credits.length
  nonParticipating := missed duties credits
  incorrectHead := faults credits fun x => !x.flags.headCorrect
  untimelyHead := faults credits fun x => !headInTime x.delay
  untimelySource := faults credits fun x => !sourceInTime x.delay
  incorrectTarget := faults credits fun x => !x.flags.targetCorrect
  untimelyTarget := faults credits fun x => !targetInTime x.phase x.delay
  slots := (dutySlots duties).map (row duties credits)
  proposals := proposals

/-- Summarizes the duties of validators. -/
def summarize (limits : Limits) (clock : Clock) (query : Query) : Survey ValidatorSummary := do
  let epoch := query.epoch
  if query.ids.isEmpty then fail .nobodyNamed
  else
    let found ← during .obtainingEpochValidators
      (ask (.validators (.slot (clock.firstSlot epoch)) query.ids))
    if found.isEmpty then fail .nobodyKnown
    else
      let infos := sortOn ValidatorInfo.index found
      let validators := infos.map (·.index)
      let due ← during .obtainingProposers (ask (.proposers epoch))
      let proposals ← proposals (due.filter (validators.contains ·.validator))
      let active := (infos.filter (·.isActiveIn epoch)).map (·.index)
      let duties ←
        if active.isEmpty then pure []
        else during .obtainingAttesters (ask (.attesters epoch active))
      let duties := dutiesOf duties
      let credits ← credits limits clock query duties
      return report clock epoch validators active duties.values credits proposals

/-- Summarizes the duties of validators if the node serves all that is needed. -/
def run (available : List Capability) (limits : Limits) (chain : Chain) (query : Query) :
    Survey ValidatorSummary := do
  lift .node (Capability.require available needs)
  summarize limits chain.clock query

end BeaconDuties.ValidatorSurvey
