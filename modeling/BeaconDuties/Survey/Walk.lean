import BeaconDuties.Survey.Memory

/-!
Walks back along the chain.

* `Survey.canonical` walks back from a slot to the nearest slot with a canonical header.
* `Survey.ancestors` walks back from a block along its parents as far as a given slot.

A walk may look at no more slots or blocks than its `Limits` say, and ends when its time is over.
-/

namespace BeaconDuties

/-- What bounds a run. -/
structure Limits where
  /-- Whether the time for the run is over. -/
  expired : Bool
  /-- How many steps a walk may have. -/
  maxWalk : UInt64
deriving DecidableEq, Repr

namespace Limits

/-- No end of time, and walks of a usual length. -/
def usual : Limits := ⟨false, 1024⟩

end Limits

namespace Survey

/-- Fails if the time is over. -/
def checkTime (limits : Limits) : Survey Unit :=
  if limits.expired then fail (.node .timeout) else return ()

/-- Walks back from `slot` to a canonical header, looking at no more than `steps` slots. The walk
    started at `start`. -/
def canonicalWithin (limits : Limits) (start : Slot) : Nat → Slot → Survey Header
  | 0, _ => fail (.walk (.stepLimit start limits.maxWalk))
  | steps + 1, slot => do
    checkTime limits
    match (← header slot).filter (·.canonical) with
    | some found => return found
    | none =>
      if slot = 0 then fail (.walk (.reachedGenesis start))
      else canonicalWithin limits start steps (slot - 1)

/-- The canonical header at a slot, or the last one before it. -/
def canonical (limits : Limits) (slot : Slot) : Survey Header :=
  canonicalWithin limits slot limits.maxWalk.toNat slot

/-- The block of a root that some block has as its parent. -/
def parentBlock (root : Root) : Survey Block := do
  match ← during (.obtainingBlock (.root root)) (blockWith root) with
  | some block => return block
  | none => fail (.noParent root)

/-- Walks back from the block with a root to the slot `oldest`, taking no more than `steps` blocks.
    The walk started at the slot `start`. -/
def ancestorsWithin (limits : Limits) (start oldest : Slot) : Nat → Root → Survey (List Block)
  | 0, root => do
    if (← parentBlock root).slot < oldest then return []
    else fail (.walk (.stepLimit start limits.maxWalk))
  | steps + 1, root => do
    let parent ← parentBlock root
    if parent.slot < oldest then return []
    else
      checkTime limits
      if parent.slot = 0 then return [parent]
      else return parent :: (← ancestorsWithin limits start oldest steps parent.parent)

/-- The ancestors of a block from the slot `oldest` on, newest first. One more is looked up, to know
    that it is older. The block of slot 0 has no ancestors. -/
def ancestors (limits : Limits) (block : Block) (oldest : Slot) : Survey (List Block) :=
  if block.slot = 0 then return []
  else ancestorsWithin limits block.slot oldest limits.maxWalk.toNat block.parent

end Survey

end BeaconDuties
