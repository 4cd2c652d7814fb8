import BeaconDuties.Bytes
import BeaconDuties.Chain.Phase
import BeaconDuties.Chain.Quantity
import BeaconDuties.Json.Value

/-!
What is right and timely about a vote.

A vote is right about head and target if it names the blocks that are canonical there. How long it
may take to be included in a block differs between its parts and has changed with Deneb
(`headInTime`, `sourceInTime`, `targetInTime`). `VoteFlags.judge` brings both together.
-/

namespace BeaconDuties

/-- What is right and timely about a vote. -/
structure VoteFlags where
  headCorrect : Bool
  headTimely : Bool
  sourceTimely : Bool
  targetCorrect : Bool
  targetTimely : Bool
deriving DecidableEq, Repr

/-- Whether a vote that is included after `delay` slots earns something for its head. -/
def headInTime (delay : UInt64) : Bool := delay ≤ 1

/-- Whether a vote that is included after `delay` slots earns something for its source. -/
def sourceInTime (delay : UInt64) : Bool := delay ≤ 5

/-- Whether a vote that is included after `delay` slots earns something for its target. There is no
    limit since Deneb. -/
def targetInTime (phase : Phase) (delay : UInt64) : Bool := Phase.deneb ≤ phase || delay ≤ 32

namespace VoteFlags

/-- Nothing. -/
def none : VoteFlags := ⟨false, false, false, false, false⟩

/-- What either of two votes got. -/
def merge (a b : VoteFlags) : VoteFlags where
  headCorrect := a.headCorrect || b.headCorrect
  headTimely := a.headTimely || b.headTimely
  sourceTimely := a.sourceTimely || b.sourceTimely
  targetCorrect := a.targetCorrect || b.targetCorrect
  targetTimely := a.targetTimely || b.targetTimely

/-- What is right and timely about a vote that is included after `delay` slots in a block of the
    given phase. Since Deneb a target counts as timely whether it is right or not. -/
def judge (phase : Phase) (delay : UInt64) (headCorrect targetCorrect : Bool) : VoteFlags where
  headCorrect := headCorrect
  headTimely := headCorrect && headInTime delay
  sourceTimely := sourceInTime delay
  targetCorrect := targetCorrect
  targetTimely :=
    if Phase.deneb ≤ phase then true else targetCorrect && targetInTime phase delay

/-- The members of a report that tell the flags. -/
def members (flags : VoteFlags) : List (String × Json) :=
  [("head_correct", .bool flags.headCorrect), ("head_timely", .bool flags.headTimely),
    ("source_timely", .bool flags.sourceTimely), ("target_correct", .bool flags.targetCorrect),
    ("target_timely", .bool flags.targetTimely)]

end VoteFlags

/-- How a vote is judged against the canonical chain. -/
structure Classification where
  /-- The canonical block at the slot of the vote, or the last one before it. -/
  head : Root
  /-- The canonical block at the first slot of the target epoch, or the last one before it. -/
  target : Root
  /-- How many slots passed before the vote was included. -/
  delay : UInt64
  /-- The phase of the chain when the vote was included. -/
  phase : Phase
  flags : VoteFlags
deriving DecidableEq

end BeaconDuties
