import Std.Data.ExtTreeSet
import BeaconDuties.Duty.Participation
import BeaconDuties.Duty.SyncTally
import BeaconDuties.Number.Saturating
import BeaconDuties.Report.Proposal

/-!
What validators did in an epoch: blocks, attestations and signatures of the sync committee.

A `Selection` says whom the summary is about. An `EpochSummary` tells for each `Criterion` how many
of the active validators meet it, with how much balance, and lists the others
(`Criterion.outcome?`). They are listed by what is known of their duties, in a report by entries.
-/

namespace BeaconDuties

/-- Whom a summary is about. -/
inductive Selection where
  | everyone
  | only (indices : Std.ExtTreeSet ValidatorIndex)

namespace Selection

/-- Whether the summary is about a validator. -/
def contains : Selection → ValidatorIndex → Bool
  | everyone, _ => true
  | only indices, validator => indices.contains validator

/-- The names by which a node is asked for the validators: none if it is about everyone. -/
def ids : Selection → List ValidatorId
  | everyone => []
  | only indices => indices.toList.map .index

end Selection

/-- A number of validators and their balance together. -/
structure Share where
  validators : Nat
  balance : Gwei
deriving DecidableEq, Repr

/-- The share of validators with the given balances, unless their total does not fit. -/
def Share.ofBalances? (balances : List Gwei) : Option Share :=
  (checkedSum balances).map fun balance => ⟨balances.length, balance⟩

/-- What is asked of an attestation. -/
inductive Criterion where
  | participating
  | headCorrect
  | headTimely
  | sourceTimely
  | targetCorrect
  | targetTimely
deriving DecidableEq, Repr

/-- Who meets a criterion, and who does not. Of the latter there are records. -/
structure Outcome (ρ : Type := Participation) where
  met : Share
  lacking : List ρ
deriving DecidableEq

/-- The outcome with other records. -/
def Outcome.map {ρ σ : Type} (f : ρ → σ) (x : Outcome ρ) : Outcome σ := ⟨x.met, x.lacking.map f⟩

namespace Criterion

/-- Whether a criterion is met. -/
def isMet (criterion : Criterion) (x : Participation) : Bool :=
  match criterion with
  | participating => x.participated
  | headCorrect => x.flags.headCorrect
  | headTimely => x.flags.headTimely
  | sourceTimely => x.flags.sourceTimely
  | targetCorrect => x.flags.targetCorrect
  | targetTimely => x.flags.targetTimely

/-- Who meets a criterion, unless the total of their balances does not fit. -/
def outcome? (criterion : Criterion) (records : List Participation) : Option Outcome := do
  let met ← Share.ofBalances? ((records.filter criterion.isMet).map (·.effectiveBalance))
  return { met, lacking := records.filter (!criterion.isMet ·) }

end Criterion

/-- What validators did in an epoch. -/
structure EpochSummary (ρ : Type := Participation) where
  epoch : Epoch
  /-- The slots of the epoch. -/
  slots : SlotRange
  /-- How many of the epoch's blocks are there, whoever had to propose them. -/
  blocks : Nat
  proposals : List Proposal
  /-- How many seats the validators have in the sync committee. -/
  syncSeats : Nat
  syncMisses : List SyncMisses
  /-- The validators that had duties. -/
  active : Share
  participating : Outcome ρ
  headCorrect : Outcome ρ
  headTimely : Outcome ρ
  sourceTimely : Outcome ρ
  targetCorrect : Outcome ρ
  targetTimely : Outcome ρ
  /-- How many blobs the validators' blocks commit to. -/
  blobs : UInt64
deriving DecidableEq

namespace EpochSummary

/-- The summary with other records. -/
def map {ρ σ : Type} (f : ρ → σ) (x : EpochSummary ρ) : EpochSummary σ :=
  { x with
    participating := x.participating.map f
    headCorrect := x.headCorrect.map f
    headTimely := x.headTimely.map f
    sourceTimely := x.sourceTimely.map f
    targetCorrect := x.targetCorrect.map f
    targetTimely := x.targetTimely.map f }

/-- The members of a report that tell who meets a criterion. -/
def shareMembers (validators balance : String) (share : Share) : List (String × Json) :=
  [(validators, .natural share.validators), (balance, .count share.balance)]

/-- The member of a report that lists who does not meet a criterion. -/
def lackingMember (name : String) (outcome : Outcome Participation.Entry) : String × Json :=
  (name, .array (outcome.lacking.map Participation.Entry.toJson))

/-- Writes a summary of entries. -/
def entriesJson (x : EpochSummary Participation.Entry) : Json :=
  .record (
    [("epoch", .count x.epoch), ("first_slot", .count x.slots.first),
      ("last_slot", .count x.slots.last), ("blocks", .natural x.blocks),
      ("proposals", .array (x.proposals.map Proposal.toJson)),
      ("sync_committee_validators", .natural x.syncSeats),
      ("sync_committee", .array (x.syncMisses.map SyncMisses.toJson))]
    ++ shareMembers "active_validators" "active_balance" x.active
    ++ shareMembers "participating_validators" "participating_balance" x.participating.met
    ++ shareMembers "head_correct_validators" "head_correct_balance" x.headCorrect.met
    ++ shareMembers "head_timely_validators" "head_timely_balance" x.headTimely.met
    ++ shareMembers "source_timely_validators" "source_timely_balance" x.sourceTimely.met
    ++ shareMembers "target_correct_validators" "target_correct_balance" x.targetCorrect.met
    ++ shareMembers "target_timely_validators" "target_timely_balance" x.targetTimely.met
    ++ [lackingMember "nonparticipating_validators" x.participating,
      lackingMember "nonheadcorrect_validators" x.headCorrect,
      lackingMember "nonheadtimely_validators" x.headTimely,
      lackingMember "nonsourcetimely_validators" x.sourceTimely,
      lackingMember "nontargetcorrect_validators" x.targetCorrect,
      lackingMember "nontargettimely_validators" x.targetTimely,
      ("blobs", .count x.blobs)])

/-- Writes a summary. -/
def toJson (x : EpochSummary) : Json := (x.map Participation.entry).entriesJson

end EpochSummary

end BeaconDuties
