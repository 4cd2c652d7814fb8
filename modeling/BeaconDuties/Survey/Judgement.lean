import BeaconDuties.Duty.Vote
import BeaconDuties.Survey.Walk

/-!
Judging votes against the canonical chain.

`Survey.classify` finds the blocks that a vote should name, and judges it by these and by the slot
in which it was included. `Survey.attesting` lists the members that an attestation speaks for.
-/

namespace BeaconDuties.Survey

/-- How many slots passed before an attestation was included. It must have been at least one. -/
def inclusionDelay (data : AttestationData) (inclusion : Slot) : Except DataFault UInt64 :=
  if data.slot < inclusion then .ok (inclusion - data.slot)
  else .error (.includedTooEarly data.slot inclusion)

/-- Judges a vote that the block of the slot `inclusion` includes. -/
def classify (limits : Limits) (clock : Clock) (data : AttestationData) (inclusion : Slot) :
    Survey Classification := do
  let delay ← lift .data (inclusionDelay data inclusion)
  let head ← during (.resolvingHead data.slot) (canonical limits data.slot)
  let target ← during (.resolvingTarget data.target.epoch)
    (canonical limits (clock.firstSlot data.target.epoch))
  let phase := clock.phaseAtSlot inclusion
  return {
    head := head.root
    target := target.root
    delay, phase
    flags := .judge phase delay (head.root = data.head) (target.root = data.target.root) }

/-- The members whose bits are set in an attestation. -/
def attesting (table : CommitteeTable) (attestation : Attestation) : Survey (List Member) :=
  lift .data (table.attesting attestation)

end BeaconDuties.Survey
