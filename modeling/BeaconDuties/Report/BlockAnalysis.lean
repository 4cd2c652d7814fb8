import BeaconDuties.Duty.Duplicates
import BeaconDuties.Duty.Vote
import BeaconDuties.Json.Fields
import BeaconDuties.Number.Binary64

/-!
What the contents of a block are worth.

Each attestation is worth its score times the votes that it brings to the chain for the first time,
and the sync aggregate its score times its signatures. The value of the block is the sum of both.
-/

namespace BeaconDuties

/-- What an attestation in a block is worth. -/
structure AttestationAnalysis where
  /-- The block that is voted for as head. -/
  head : Root
  /-- The block that is voted for as target. -/
  target : Root
  /-- How many slots passed before the attestation was included. -/
  distance : UInt64
  /-- Where the same attestation was included before, if it was. It is worth nothing then. -/
  duplicate : Option Origin
  /-- The votes that are on the chain for the first time. -/
  newVotes : Nat
  votes : Nat
  /-- The votes there could be. -/
  possibleVotes : Nat
  flags : VoteFlags
  score : Binary64
  value : Binary64
deriving DecidableEq

namespace AttestationAnalysis

/-- Writes what an attestation is worth. -/
def toJson (x : AttestationAnalysis) : Json :=
  .record (
    [("head", .bytes x.head), ("target", .bytes x.target), ("distance", .count x.distance)]
    ++ (x.duplicate.map fun origin => ("duplicate", origin.toJson)).toList
    ++ [("new_votes", .natural x.newVotes), ("votes", .natural x.votes),
      ("possible_votes", .natural x.possibleVotes)]
    ++ x.flags.members
    ++ [("score", .real x.score), ("value", .real x.value)])

end AttestationAnalysis

/-- What the sync aggregate of a block is worth. -/
structure SyncAnalysis where
  contributions : Nat
  possibleContributions : Nat
  score : Binary64
  value : Binary64
deriving DecidableEq

namespace SyncAnalysis

/-- What a block without a sync aggregate gets for it. -/
def absent : SyncAnalysis := ⟨0, 0, .zero, .zero⟩

/-- Writes what a sync aggregate is worth. -/
def toJson (x : SyncAnalysis) : Json :=
  .record [("contributions", .natural x.contributions),
    ("possible_contributions", .natural x.possibleContributions), ("score", .real x.score),
    ("value", .real x.value)]

end SyncAnalysis

/-- What a block is worth. -/
structure BlockAnalysis where
  slot : Slot
  attestations : List AttestationAnalysis
  sync : SyncAnalysis
  value : Binary64
deriving DecidableEq

namespace BlockAnalysis

/-- The analysis of the block of a slot, given that of its parts. -/
def ofParts (slot : Slot) (attestations : List AttestationAnalysis) (sync : SyncAnalysis) :
    BlockAnalysis where
  slot := slot
  attestations := attestations
  sync := sync
  value := .sum (attestations.map (·.value) ++ [sync.value])

/-- Writes what a block is worth. -/
def toJson (x : BlockAnalysis) : Json :=
  .record [("slot", .count x.slot),
    ("attestations", .array (x.attestations.map AttestationAnalysis.toJson)),
    ("sync_committee", x.sync.toJson), ("value", .real x.value)]

end BlockAnalysis

end BeaconDuties
