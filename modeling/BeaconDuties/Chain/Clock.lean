import BeaconDuties.Bytes
import BeaconDuties.Chain.Phase
import BeaconDuties.Chain.Quantity
import BeaconDuties.Chain.Spec
import BeaconDuties.Number.Saturating

/-!
The clock of a chain: times, slots, epochs and phases.

A clock is set once from the genesis time, the specification and the fork schedule
(`Clock.ofSpec`). Slots last equally long and are grouped into epochs, so that all of its questions
are arithmetic. Products and sums stop at the largest number instead of failing, so that far-future
epochs can be asked about.

* `Clock.startOfSlot` and `Clock.slotAt` lead from slots to times and back.
* `Clock.firstSlot`, `Clock.lastSlot` and `Clock.epochOf` lead from epochs to slots and back.
* `Clock.inclusionWindow` holds the slots in which votes of an epoch may be included.
* `Clock.phaseAt` is the phase of an epoch: the last one whose fork, like all forks before it, has
  happened.

Times are nanoseconds since the start of 1970.
-/

namespace BeaconDuties

/-- An entry of the fork schedule: from `epoch` on, `current` takes the place of `previous`. -/
structure Fork where
  previous : Version
  current : Version
  epoch : Epoch
deriving DecidableEq

/-- The epoch of each fork. The first phase starts at genesis. -/
structure ForkEpochs where
  altair : Epoch
  bellatrix : Epoch
  capella : Epoch
  deneb : Epoch
  electra : Epoch
  fulu : Epoch
deriving DecidableEq, Repr

/-- The epoch in which a phase starts. -/
def ForkEpochs.start (forks : ForkEpochs) : Phase → Epoch
  | .phase0 => 0
  | .altair => forks.altair
  | .bellatrix => forks.bellatrix
  | .capella => forks.capella
  | .deneb => forks.deneb
  | .electra => forks.electra
  | .fulu => forks.fulu

/-- A range of slots, ends included. It is empty if it ends before it starts. -/
structure SlotRange where
  first : Slot
  last : Slot
deriving DecidableEq, Repr

namespace SlotRange

/-- Whether there are no slots in the range. -/
def isEmpty (range : SlotRange) : Bool := range.last < range.first

/-- The number of slots in the range. -/
def count (range : SlotRange) : Nat := range.last.toNat + 1 - range.first.toNat

end SlotRange

/-- The clock of a chain. -/
structure Clock where
  /-- When slot 0 starts, in seconds since the start of 1970. -/
  genesisTime : UInt64
  /-- How long a slot lasts, in milliseconds. -/
  slotMillis : UInt64
  /-- How many slots an epoch has. -/
  slotsPerEpoch : UInt64
  /-- How many epochs a sync committee serves, if the chain says so. -/
  epochsPerSyncPeriod : Option UInt64
  /-- When each phase starts. -/
  forks : ForkEpochs
  slotMillis_pos : 0 < slotMillis.toNat
  slotsPerEpoch_pos : 0 < slotsPerEpoch.toNat

namespace Clock

/-- How long a slot lasts by the specification, in milliseconds. The newer key is looked at only if
    the older one is missing. -/
def slotDuration (spec : Spec) : Except SpecFault Nat := do
  match ← spec.duration? "SECONDS_PER_SLOT" with
  | some millis => return millis
  | none =>
    match ← spec.duration? "SLOT_DURATION_MS" with
    | some millis => return millis
    | none => throw (.missing "SECONDS_PER_SLOT")

/-- The epoch in which a phase starts by the specification and, if it has no such key, by the
    schedule: a fork that is listed there under its version has happened, or will, in that epoch.
    Otherwise it never happens. -/
def forkEpoch (spec : Spec) (schedule : List Fork) (phase : Phase) : Except SpecFault Epoch :=
  match phase.forkEpochKey? with
  | none => .ok 0
  | some key => do
    match ← spec.number? key with
    | some epoch => return epoch
    | none =>
      let fork := (← spec.bytes? phase.forkVersionKey).bind fun version =>
        schedule.find? (·.current.bytes = version)
      return (fork.map Fork.epoch).getD farFuture

/-- The epochs of all forks. -/
def forkEpochs (spec : Spec) (schedule : List Fork) : Except SpecFault ForkEpochs := do
  return {
    altair := ← forkEpoch spec schedule .altair
    bellatrix := ← forkEpoch spec schedule .bellatrix
    capella := ← forkEpoch spec schedule .capella
    deneb := ← forkEpoch spec schedule .deneb
    electra := ← forkEpoch spec schedule .electra
    fulu := ← forkEpoch spec schedule .fulu }

/-- A number of more than zero, if it fits in 64 bits. -/
def positive? (n : Nat) : Option { m : UInt64 // 0 < m.toNat } :=
  if h : 0 < n ∧ n < UInt64.size then
    some ⟨UInt64.ofNatLT n h.2, by simpa using h.1⟩
  else none

/-- The clock of a chain. -/
def ofSpec (genesisTime : UInt64) (spec : Spec) (schedule : List Fork) : Except SpecFault Clock :=
  do
  let some ⟨slotMillis, slotMillis_pos⟩ := positive? (← slotDuration spec)
    | throw (.zero "SECONDS_PER_SLOT")
  let some ⟨slotsPerEpoch, slotsPerEpoch_pos⟩ :=
      positive? (← spec.number "SLOTS_PER_EPOCH").toNat
    | throw (.zero "SLOTS_PER_EPOCH")
  let period ← spec.number? "EPOCHS_PER_SYNC_COMMITTEE_PERIOD"
  let forks ← forkEpochs spec schedule
  return {
    genesisTime, slotMillis, slotsPerEpoch, forks, slotMillis_pos, slotsPerEpoch_pos
    epochsPerSyncPeriod := period.filter (· ≠ 0) }

variable (clock : Clock)

/-! ## Epochs and slots -/

/-- The epoch of a slot. -/
def epochOf (slot : Slot) : Epoch := slot / clock.slotsPerEpoch

/-- The first slot of an epoch. -/
def firstSlot (epoch : Epoch) : Slot := satMul epoch clock.slotsPerEpoch

/-- The last slot of an epoch. -/
def lastSlot (epoch : Epoch) : Slot := satSub (clock.firstSlot (satAdd epoch 1)) 1

/-- The slots of an epoch. -/
def epochSlots (epoch : Epoch) : SlotRange := ⟨clock.firstSlot epoch, clock.lastSlot epoch⟩

/-- The slots whose blocks may include attestations of an epoch, up to the current slot. -/
def inclusionWindow (epoch : Epoch) (current : Slot) : SlotRange :=
  ⟨satAdd (clock.firstSlot epoch) 1, min (clock.firstSlot (satAdd epoch 2)) current⟩

/-! ## Times -/

/-- When a slot starts. -/
def startOfSlot (slot : Slot) : Nat :=
  let millis := satAdd (satMul clock.genesisTime 1000) (satMul slot clock.slotMillis)
  millis.toNat * 1000000

/-- When an epoch starts. -/
def startOfEpoch (epoch : Epoch) : Nat := clock.startOfSlot (clock.firstSlot epoch)

/-- The slot in progress at a time. Any time before genesis is in slot 0. -/
def slotAt (time : Nat) : Slot :=
  let millis := (time - clock.genesisTime.toNat * 1000000000) / 1000000
  UInt64.ofNatClamp millis / clock.slotMillis

/-- The epoch in progress at a time. -/
def epochAt (time : Nat) : Epoch := clock.epochOf (clock.slotAt time)

/-- The slot in progress when a clock shows `millis` since the start of 1970. A clock that is set
    before 1970 is before genesis. -/
def slotAtMillis (millis : Int) : Slot := clock.slotAt (millis.toNat * 1000000)

/-! ## Sync committees -/

/-- The period of the sync committee that serves in an epoch. -/
def syncPeriod? (epoch : Epoch) : Option UInt64 := clock.epochsPerSyncPeriod.map (epoch / ·)

/-- The first epoch of a period in which there is a sync committee; there is none before Altair. -/
def firstEpochOfSyncPeriod? (period : UInt64) : Option Epoch :=
  clock.epochsPerSyncPeriod.map fun epochs => max (satMul period epochs) clock.forks.altair

/-! ## Phases -/

/-- The phase of an epoch. -/
def phaseAt (epoch : Epoch) : Phase :=
  (Phase.all.takeWhile (clock.forks.start · ≤ epoch)).getLast?.getD .phase0

/-- The phase of a slot. -/
def phaseAtSlot (slot : Slot) : Phase := clock.phaseAt (clock.epochOf slot)

end Clock

end BeaconDuties
