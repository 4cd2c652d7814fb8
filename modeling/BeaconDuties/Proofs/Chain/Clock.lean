import BeaconDuties.Chain.Clock

/-!
When the votes of an epoch may be included.
-/

namespace BeaconDuties.Clock

variable {clock : Clock} {slot : Slot}

theorem firstSlot_epochOf_le : clock.firstSlot (clock.epochOf slot) ≤ slot := by
  have := Nat.div_mul_le_self slot.toNat clock.slotsPerEpoch.toNat
  have hs := slot.toNat_lt
  rw [firstSlot, epochOf, UInt64.le_iff_toNat_le, toNat_satMul, UInt64.toNat_div]
  omega

/-- A block after the slot of a vote is not before the inclusion window of the vote's epoch. -/
theorem inclusionWindow_first_le {current inclusion : Slot} (h : slot < inclusion) :
    (clock.inclusionWindow (clock.epochOf slot) current).first ≤ inclusion := by
  have hf : (clock.firstSlot (clock.epochOf slot)).toNat ≤ slot.toNat :=
    UInt64.le_iff_toNat_le.1 firstSlot_epochOf_le
  have hi := inclusion.toNat_lt
  rw [UInt64.lt_iff_toNat_lt] at h
  rw [inclusionWindow, UInt64.le_iff_toNat_le, toNat_satAdd, UInt64.toNat_one]
  omega

/-- Later on, no slot has left the inclusion window. -/
theorem count_inclusionWindow_le (clock : Clock) (epoch : Epoch) {sooner later : Slot}
    (h : sooner ≤ later) :
    (clock.inclusionWindow epoch sooner).count ≤ (clock.inclusionWindow epoch later).count := by
  have hlast : (clock.inclusionWindow epoch sooner).last ≤
      (clock.inclusionWindow epoch later).last :=
    Std.le_min_iff.2 ⟨Std.min_le_left, UInt64.le_trans Std.min_le_right h⟩
  have hfirst : (clock.inclusionWindow epoch sooner).first =
      (clock.inclusionWindow epoch later).first := rfl
  rw [UInt64.le_iff_toNat_le] at hlast
  rw [SlotRange.count, SlotRange.count, hfirst]
  omega

end BeaconDuties.Clock
