import BeaconDuties.Proofs.Chain.Epochs

/-!
Times and slots.

The start of a slot is a sum that stops at the largest number of milliseconds, while the slot of a
time is a quotient of what has passed since genesis. `Clock.StartFits` says that the sum is exact.
Then `Clock.startOfSlot` and `Clock.slotAt` are adjoint (`Clock.startOfSlot_le_iff`), and so are
`Clock.startOfEpoch` and `Clock.epochAt` (`Clock.startOfEpoch_le_iff`): the slot of a time is the
last one that has started. Slot 0 is left out because it is also the slot of all times before
genesis.

All that `Clock.times_and_slots_adjoint` says beyond this follows: a slot is that of its start, the
slot before it is that of the nanosecond before, and neither way reverses an order.
-/

namespace BeaconDuties.Clock

variable {clock : Clock} {slot : Slot} {epoch : Epoch} {time : Nat}

/-- Whether the time at which so many slots have passed since genesis has a 64-bit number of
    milliseconds. -/
def StartFits (clock : Clock) (slots : Nat) : Prop :=
  clock.genesisTime.toNat * 1000 + slots * clock.slotMillis.toNat < UInt64.size

instance (clock : Clock) (slots : Nat) : Decidable (clock.StartFits slots) :=
  inferInstanceAs (Decidable (_ < _))

theorem StartFits.mono {slots fewer : Nat} (h : clock.StartFits slots) (hle : fewer ≤ slots) :
    clock.StartFits fewer := by
  have := Nat.mul_le_mul_right clock.slotMillis.toNat hle
  unfold StartFits at h ⊢
  omega

/-- So many slots have a number, since a slot lasts for a millisecond or longer. -/
theorem StartFits.lt_size {slots : Nat} (h : clock.StartFits slots) : slots < UInt64.size := by
  have := Nat.le_mul_of_pos_right slots clock.slotMillis_pos
  unfold StartFits at h
  omega

/-! ## Slots -/

theorem startOfSlot_eq (h : clock.StartFits slot.toNat) :
    clock.startOfSlot slot =
      (clock.genesisTime.toNat * 1000 + slot.toNat * clock.slotMillis.toNat) * 1000000 := by
  unfold StartFits at h
  simp only [startOfSlot, toNat_satAdd, toNat_satMul, show (1000 : UInt64).toNat = 1000 from rfl]
  rw [Nat.min_eq_left (by omega), Nat.min_eq_left (by omega), Nat.min_eq_left (by omega)]

theorem toNat_slotAt (clock : Clock) (time : Nat) :
    (clock.slotAt time).toNat =
      min ((time - clock.genesisTime.toNat * 1000000000) / 1000000) (UInt64.size - 1) /
        clock.slotMillis.toNat := by
  rw [slotAt, UInt64.toNat_div, toNat_ofNatClamp]

/-- The slot of a time is the last one that has started. -/
theorem startOfSlot_le_iff (hpos : 0 < slot) (h : clock.StartFits slot.toNat) :
    clock.startOfSlot slot ≤ time ↔ slot ≤ clock.slotAt time := by
  have hmillis : 0 < slot.toNat * clock.slotMillis.toNat :=
    Nat.mul_pos (UInt64.lt_iff_toNat_lt.1 hpos) clock.slotMillis_pos
  rw [UInt64.le_iff_toNat_le, toNat_slotAt, Nat.le_div_iff_mul_le clock.slotMillis_pos,
    startOfSlot_eq h]
  unfold StartFits at h
  omega

theorem slotAt_startOfSlot (h : clock.StartFits slot.toNat) :
    clock.slotAt (clock.startOfSlot slot) = slot := by
  have hpassed : (clock.startOfSlot slot - clock.genesisTime.toNat * 1000000000) / 1000000 =
      slot.toNat * clock.slotMillis.toNat := by
    rw [startOfSlot_eq h]
    omega
  unfold StartFits at h
  rw [← UInt64.toNat_inj, toNat_slotAt, hpassed, Nat.min_eq_left (by omega),
    Nat.mul_div_cancel _ clock.slotMillis_pos]

theorem startOfSlot_lt (hpos : 0 < slot) (h : clock.StartFits slot.toNat) :
    clock.startOfSlot (slot - 1) < clock.startOfSlot slot := by
  have hpred : (slot - 1).toNat + 1 = slot.toNat :=
    toNat_sub_one (UInt64.ne_of_lt hpos).symm
  have hmillis : (slot - 1).toNat * clock.slotMillis.toNat <
      slot.toNat * clock.slotMillis.toNat :=
    Nat.mul_lt_mul_of_pos_right (by omega) clock.slotMillis_pos
  rw [startOfSlot_eq h, startOfSlot_eq (h.mono (by omega))]
  omega

theorem slotAt_startOfSlot_sub_one (hpos : 0 < slot) (h : clock.StartFits slot.toNat) :
    clock.slotAt (clock.startOfSlot slot - 1) = slot - 1 := by
  have hpred : (slot - 1).toNat + 1 = slot.toNat :=
    toNat_sub_one (UInt64.ne_of_lt hpos).symm
  have hlt := startOfSlot_lt hpos h
  have hafter : ¬ slot ≤ clock.slotAt (clock.startOfSlot slot - 1) := by
    rw [← startOfSlot_le_iff hpos h]
    omega
  have hbefore : slot - 1 ≤ clock.slotAt (clock.startOfSlot slot - 1) := by
    rcases (slot - 1).toNat.eq_zero_or_pos with hz | hz
    · exact UInt64.le_iff_toNat_le.2 (hz ▸ Nat.zero_le _)
    · exact (startOfSlot_le_iff (UInt64.lt_iff_toNat_lt.2 hz) (h.mono (by omega))).1 (by omega)
  rw [UInt64.le_iff_toNat_le] at hafter hbefore
  exact UInt64.toNat_inj.1 (by omega)

theorem slotAt_mono (clock : Clock) {sooner later : Nat} (h : sooner ≤ later) :
    clock.slotAt sooner ≤ clock.slotAt later := by
  rw [UInt64.le_iff_toNat_le, toNat_slotAt, toNat_slotAt]
  refine Nat.div_le_div_right ?_
  omega

theorem startOfSlot_mono (clock : Clock) {sooner later : Slot} (h : sooner ≤ later) :
    clock.startOfSlot sooner ≤ clock.startOfSlot later := by
  have := Nat.mul_le_mul_right clock.slotMillis.toNat (UInt64.le_iff_toNat_le.1 h)
  simp only [startOfSlot, toNat_satAdd, toNat_satMul]
  omega

/-! ## Epochs -/

theorem firstSlot_mono (clock : Clock) {sooner later : Epoch} (h : sooner ≤ later) :
    clock.firstSlot sooner ≤ clock.firstSlot later := by
  have := Nat.mul_le_mul_right clock.slotsPerEpoch.toNat (UInt64.le_iff_toNat_le.1 h)
  rw [UInt64.le_iff_toNat_le, toNat_firstSlot, toNat_firstSlot]
  omega

theorem epochOf_mono (clock : Clock) {sooner later : Slot} (h : sooner ≤ later) :
    clock.epochOf sooner ≤ clock.epochOf later := by
  rw [UInt64.le_iff_toNat_le, toNat_epochOf, toNat_epochOf]
  exact Nat.div_le_div_right (UInt64.le_iff_toNat_le.1 h)

/-- The first slot of an epoch that starts in time is not cut off. -/
theorem StartFits.toNat_firstSlot
    (h : clock.StartFits (epoch.toNat * clock.slotsPerEpoch.toNat)) :
    (clock.firstSlot epoch).toNat = epoch.toNat * clock.slotsPerEpoch.toNat := by
  have := h.lt_size
  rw [Clock.toNat_firstSlot]
  omega

theorem StartFits.firstSlot (h : clock.StartFits (epoch.toNat * clock.slotsPerEpoch.toNat)) :
    clock.StartFits (clock.firstSlot epoch).toNat := by
  rwa [h.toNat_firstSlot]

theorem StartFits.firstSlot_pos (hpos : 0 < epoch)
    (h : clock.StartFits (epoch.toNat * clock.slotsPerEpoch.toNat)) :
    0 < clock.firstSlot epoch := by
  rw [UInt64.lt_iff_toNat_lt, h.toNat_firstSlot]
  exact Nat.mul_pos (UInt64.lt_iff_toNat_lt.1 hpos) clock.slotsPerEpoch_pos

/-- The epoch of a time is the last one that has started. -/
theorem startOfEpoch_le_iff (hpos : 0 < epoch)
    (h : clock.StartFits (epoch.toNat * clock.slotsPerEpoch.toNat)) :
    clock.startOfEpoch epoch ≤ time ↔ epoch ≤ clock.epochAt time := by
  rw [startOfEpoch, startOfSlot_le_iff (h.firstSlot_pos hpos) h.firstSlot, epochAt,
    firstSlot_le_iff (.inr h.lt_size)]

theorem epochAt_startOfEpoch (h : clock.StartFits (epoch.toNat * clock.slotsPerEpoch.toNat)) :
    clock.epochAt (clock.startOfEpoch epoch) = epoch := by
  rw [epochAt, startOfEpoch, slotAt_startOfSlot h.firstSlot, epochOf_firstSlot h.lt_size]

theorem epochAt_startOfEpoch_sub_one (hpos : 0 < epoch)
    (h : clock.StartFits (epoch.toNat * clock.slotsPerEpoch.toNat)) :
    clock.epochAt (clock.startOfEpoch epoch - 1) = epoch - 1 := by
  have hpred : (epoch - 1).toNat + 1 = epoch.toNat :=
    toNat_sub_one (UInt64.ne_of_lt hpos).symm
  have hlast : (clock.firstSlot epoch - 1).toNat + 1 = (clock.firstSlot epoch).toNat :=
    toNat_sub_one (UInt64.ne_of_lt (h.firstSlot_pos hpos)).symm
  rw [h.toNat_firstSlot] at hlast
  rw [epochAt, startOfEpoch, slotAt_startOfSlot_sub_one (h.firstSlot_pos hpos) h.firstSlot,
    ← UInt64.toNat_inj, toNat_epochOf]
  refine Nat.div_eq_of_lt_le ?_ ?_
  · rw [← hpred, Nat.add_mul] at hlast
    have := clock.slotsPerEpoch_pos
    omega
  · rw [hpred]
    omega

/-- **Times and slots are adjoint.** From slot 1 on, a slot whose start fits has started exactly if
    it is not after the slot of the time, and likewise an epoch whose first slot, uncut, starts at a
    time that fits. So a slot is the one in progress when it starts, a nanosecond sooner the one
    before it is, and later times and slots belong together. -/
theorem times_and_slots_adjoint (clock : Clock) :
    (∀ (slot : Slot) (time : Nat), 0 < slot → clock.StartFits slot.toNat →
      (clock.startOfSlot slot ≤ time ↔ slot ≤ clock.slotAt time)) ∧
    (∀ (epoch : Epoch) (time : Nat), 0 < epoch →
      clock.StartFits (epoch.toNat * clock.slotsPerEpoch.toNat) →
      (clock.startOfEpoch epoch ≤ time ↔ epoch ≤ clock.epochAt time)) ∧
    (∀ slot : Slot, clock.StartFits slot.toNat →
      clock.slotAt (clock.startOfSlot slot) = slot ∧
        (0 < slot → clock.slotAt (clock.startOfSlot slot - 1) = slot - 1)) ∧
    (∀ epoch : Epoch, clock.StartFits (epoch.toNat * clock.slotsPerEpoch.toNat) →
      clock.epochAt (clock.startOfEpoch epoch) = epoch ∧
        (0 < epoch → clock.epochAt (clock.startOfEpoch epoch - 1) = epoch - 1)) ∧
    (∀ sooner later : Nat, sooner ≤ later →
      clock.slotAt sooner ≤ clock.slotAt later ∧ clock.epochAt sooner ≤ clock.epochAt later) ∧
    ∀ sooner later : UInt64, sooner ≤ later →
      clock.startOfSlot sooner ≤ clock.startOfSlot later ∧
        clock.startOfEpoch sooner ≤ clock.startOfEpoch later :=
  ⟨fun _ _ hpos h => startOfSlot_le_iff hpos h, fun _ _ hpos h => startOfEpoch_le_iff hpos h,
    fun _ h => ⟨slotAt_startOfSlot h, fun hpos => slotAt_startOfSlot_sub_one hpos h⟩,
    fun _ h => ⟨epochAt_startOfEpoch h, fun hpos => epochAt_startOfEpoch_sub_one hpos h⟩,
    fun _ _ h => ⟨clock.slotAt_mono h, clock.epochOf_mono (clock.slotAt_mono h)⟩,
    fun _ _ h => ⟨clock.startOfSlot_mono h, clock.startOfSlot_mono (clock.firstSlot_mono h)⟩⟩

/-- Epoch 200000 starts in time, and until the nanosecond before its start the epoch before it is
    in progress. -/
theorem times_and_slots_adjoint_mainnet :
    (mainnet.startOfEpoch 200000 ≤ 1683624023000000000 ↔
        (200000 : Epoch) ≤ mainnet.epochAt 1683624023000000000) ∧
      mainnet.slotAt (mainnet.startOfSlot 6400000 - 1) = 6399999 := by
  obtain ⟨-, hepoch, hslot, -⟩ := mainnet.times_and_slots_adjoint
  exact ⟨hepoch 200000 _ (by decide) (by decide), (hslot 6400000 (by decide)).2 (by decide)⟩

end BeaconDuties.Clock
