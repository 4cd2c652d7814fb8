import BeaconDuties.Duty.Weights
import BeaconDuties.Survey.Memory

/-!
The parameters of a chain, which every analysis needs.
-/

namespace BeaconDuties

/-- The parameters of a chain. -/
structure Chain where
  clock : Clock
  weights : RewardWeights

namespace Chain

/-- The kinds of requests that tell the parameters of a chain. -/
def needs : List Capability := [.genesis, .spec, .forkSchedule]

/-- Asks a node for the parameters of its chain. -/
def load (available : List Capability) : Survey Chain := do
  Survey.lift .node (Capability.require available needs)
  let genesis ← Survey.during .obtainingGenesis (Survey.ask .genesis)
  let spec ← Survey.during .obtainingSpec (Survey.ask .spec)
  let forks ← Survey.during .obtainingForks (Survey.ask .forkSchedule)
  let clock ← Survey.during .settingClock
    (Survey.lift .spec (Clock.ofSpec genesis.time spec forks))
  let weights ← Survey.during .weighing (Survey.lift .spec (RewardWeights.ofSpec spec))
  return { clock, weights }

end Chain

end BeaconDuties
