import Std.Data.ExtTreeMap
import BeaconDuties.Bits
import BeaconDuties.Duty.Fault
import BeaconDuties.Json.Value
import BeaconDuties.Order

/-!
Members of a sync committee that did not sign.

A tally goes over the blocks of an epoch. For each block, every seat whose bit is not set counts as
a miss of the validator in it (`SyncTally.record`), so that a validator with several seats can miss
a slot several times. Slots without a block are not recorded: a missing block is not held against
the committee.
-/

namespace BeaconDuties

/-- What a validator missed. -/
structure SyncMisses where
  validator : ValidatorIndex
  /-- How often it did not sign. -/
  missed : Nat
  /-- The slots in the order in which they were recorded, once for each seat. -/
  slots : List Slot
deriving DecidableEq, Repr

namespace SyncMisses

/-- The misses in the given slots. -/
def ofSlots (validator : ValidatorIndex) (slots : List Slot) : SyncMisses where
  validator := validator
  missed := slots.length
  slots := slots

/-- Writes what a validator missed. -/
def toJson (x : SyncMisses) : Json :=
  .record [("validator_index", .count x.validator), ("missed", .natural x.missed),
    ("missed_slots", .array (x.slots.map .count))]

end SyncMisses

/-- The misses of a sync committee. -/
structure SyncTally where
  /-- The validators in the seats of the committee. -/
  members : List ValidatorIndex
  /-- The missed slots of each validator that missed any. -/
  missed : Std.ExtTreeMap ValidatorIndex (List Slot)

namespace SyncTally

/-- No misses. -/
def start (members : List ValidatorIndex) : SyncTally := ⟨members, ∅⟩

/-- The selected validators whose bits are not set, seat by seat. -/
def absent (members : List ValidatorIndex) (bits : List Bool) (selected : ValidatorIndex → Bool) :
    List ValidatorIndex :=
  ((members.zip bits).filter fun (validator, signed) => !signed && selected validator).map Prod.fst

/-- Adds a missed slot for each of the given seats. -/
def miss (missed : Std.ExtTreeMap ValidatorIndex (List Slot)) (slot : Slot)
    (validators : List ValidatorIndex) : Std.ExtTreeMap ValidatorIndex (List Slot) :=
  validators.foldl
    (fun missed validator => missed.alter validator fun slots => some (slots.getD [] ++ [slot]))
    missed

/-- Adds the block of a slot, given the bits of its sync aggregate. -/
def record (tally : SyncTally) (slot : Slot) (bits : BitVector)
    (selected : ValidatorIndex → Bool) : Except DataFault SyncTally :=
  if bits.length = tally.members.length then
    .ok { tally with missed := miss tally.missed slot (absent tally.members bits.bits selected) }
  else .error (.sizeMismatch bits.length tally.members.length)

/-- The validators that missed any slot: most misses first, then by index. -/
def finish (tally : SyncTally) : List SyncMisses :=
  let misses := tally.missed.toList.map fun (validator, slots) => SyncMisses.ofSlots validator slots
  sortOn (fun x => -(x.missed : Int)) misses

end SyncTally

end BeaconDuties
