import BeaconDuties.Chain.Spec
import BeaconDuties.Duty.Vote
import BeaconDuties.Number.Binary64
import BeaconDuties.Number.Saturating

/-!
What the parts of a duty are worth.

The chain gives each part a weight and a common denominator. `RewardWeights.attestationScore` is the
share of the whole reward that a vote earns, and `RewardWeights.syncScore` that of one signature of
a sync committee. A chain that does not say its weights has those of Altair.
-/

namespace BeaconDuties

/-- The weights of a chain. -/
structure RewardWeights where
  timelySource : UInt64
  timelyTarget : UInt64
  timelyHead : UInt64
  syncReward : UInt64
  proposer : UInt64
  /-- The weight of all rewards together. -/
  denominator : UInt64
  denominator_ne_zero : denominator ≠ 0
deriving DecidableEq

namespace RewardWeights

/-- The weights that a specification says. -/
def ofSpec (spec : Spec) : Except SpecFault RewardWeights := do
  let denominator ← spec.numberOr "WEIGHT_DENOMINATOR" 64
  let timelySource ← spec.numberOr "TIMELY_SOURCE_WEIGHT" 14
  let timelyTarget ← spec.numberOr "TIMELY_TARGET_WEIGHT" 26
  let timelyHead ← spec.numberOr "TIMELY_HEAD_WEIGHT" 14
  let syncReward ← spec.numberOr "SYNC_REWARD_WEIGHT" 2
  let proposer ← spec.numberOr "PROPOSER_WEIGHT" 8
  if h : denominator = 0 then throw (.zero "WEIGHT_DENOMINATOR")
  else return {
    timelySource, timelyTarget, timelyHead, syncReward, proposer, denominator
    denominator_ne_zero := h }

/-- The weight as a share of the whole. -/
def fraction (weights : RewardWeights) (weight : UInt64) : Binary64 :=
  (Binary64.ofNat weight.toNat).div (Binary64.ofNat weights.denominator.toNat)

/-- The weights that a vote earns. -/
def earned (weights : RewardWeights) (flags : VoteFlags) : List UInt64 :=
  (if flags.targetCorrect && flags.targetTimely then [weights.timelyTarget] else [])
    ++ (if flags.sourceTimely then [weights.timelySource] else [])
    ++ (if flags.headCorrect && flags.headTimely then [weights.timelyHead] else [])

/-- The share of the whole reward that a vote earns, or `none` if its weights do not fit in 64 bits
    together. -/
def attestationScore (weights : RewardWeights) (flags : VoteFlags) : Option Binary64 :=
  (checkedSum (weights.earned flags)).map weights.fraction

/-- The share of the whole reward that a signature of a sync committee earns. -/
def syncScore (weights : RewardWeights) : Binary64 := weights.fraction weights.syncReward

/-- Writes the weights. -/
def toJson (weights : RewardWeights) : Json :=
  .record [("timely_source", .count weights.timelySource),
    ("timely_target", .count weights.timelyTarget), ("timely_head", .count weights.timelyHead),
    ("sync_reward", .count weights.syncReward), ("proposer", .count weights.proposer),
    ("denominator", .count weights.denominator)]

end RewardWeights

end BeaconDuties
