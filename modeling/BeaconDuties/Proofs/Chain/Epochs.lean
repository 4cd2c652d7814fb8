import BeaconDuties.Proofs.Survey.Sightings

/-!
Epochs divide the slots.

Where an epoch starts is a product that stops at the largest number, while the epoch of a slot is a
quotient that is never cut off. They agree up to the last slot that has a number after it.

* `Clock.firstSlot_le_iff` and `Clock.le_lastSlot_iff` turn the two ends of an epoch into bounds on
  the epoch of a slot.
* `Clock.mem_epochSlots`: the slots of an epoch are those whose epoch it is, but for the largest
  number, which is in no epoch's range.
* `Clock.epochs_divide_slots`: no slot is in the ranges of two epochs, every slot is in one, and an
  epoch that starts too late to have a number has none.
-/

namespace BeaconDuties

theorem lt_farFuture_iff {n : UInt64} : n < farFuture ↔ n.toNat < UInt64.size - 1 :=
  UInt64.lt_iff_toNat_lt

/-- A product is not above a number if its first factor is not above the quotient. Where the product
    is cut off, this says nothing of the largest number. -/
theorem satMul_le_iff {a b c : UInt64} (hpos : 0 < b.toNat)
    (h : c < farFuture ∨ a.toNat * b.toNat < UInt64.size) : satMul a b ≤ c ↔ a ≤ c / b := by
  have hc := c.toNat_lt
  rw [UInt64.le_iff_toNat_le, UInt64.le_iff_toNat_le, toNat_satMul, UInt64.toNat_div,
    Nat.le_div_iff_mul_le hpos]
  rw [lt_farFuture_iff] at h
  omega

namespace Clock

variable {clock : Clock} {slot : Slot} {epoch : Epoch}

theorem toNat_firstSlot (clock : Clock) (epoch : Epoch) :
    (clock.firstSlot epoch).toNat =
      min (epoch.toNat * clock.slotsPerEpoch.toNat) (UInt64.size - 1) :=
  toNat_satMul _ _

theorem toNat_epochOf (clock : Clock) (slot : Slot) :
    (clock.epochOf slot).toNat = slot.toNat / clock.slotsPerEpoch.toNat :=
  UInt64.toNat_div _ _

theorem epochOf_le (clock : Clock) (slot : Slot) : clock.epochOf slot ≤ slot := by
  rw [UInt64.le_iff_toNat_le, toNat_epochOf]
  exact Nat.div_le_self _ _

/-- A slot is not before the start of an epoch if its own epoch is not. Where the start is cut off,
    this says nothing of the largest number. -/
theorem firstSlot_le_iff
    (h : slot < farFuture ∨ epoch.toNat * clock.slotsPerEpoch.toNat < UInt64.size) :
    clock.firstSlot epoch ≤ slot ↔ epoch ≤ clock.epochOf slot :=
  satMul_le_iff clock.slotsPerEpoch_pos h

theorem firstSlot_succ_pos (clock : Clock) (epoch : Epoch) :
    0 < (clock.firstSlot (satAdd epoch 1)).toNat := by
  have h : 0 < (satAdd epoch 1).toNat * clock.slotsPerEpoch.toNat := by
    refine Nat.mul_pos ?_ clock.slotsPerEpoch_pos
    simp only [toNat_satAdd, UInt64.toNat_one, UInt64.size]
    omega
  simp only [toNat_firstSlot, UInt64.size]
  omega

/-- An epoch never ends in the largest number. -/
theorem lastSlot_lt (clock : Clock) (epoch : Epoch) : clock.lastSlot epoch < farFuture := by
  have hlt := (clock.firstSlot (satAdd epoch 1)).toNat_lt_size
  have hpos := clock.firstSlot_succ_pos epoch
  rw [lt_farFuture_iff, lastSlot, toNat_satSub, UInt64.toNat_one]
  omega

/-- A slot is not after the end of an epoch if its own epoch is not. -/
theorem le_lastSlot_iff (h : slot < farFuture) :
    slot ≤ clock.lastSlot epoch ↔ clock.epochOf slot ≤ epoch := by
  have hpos := clock.firstSlot_succ_pos epoch
  have hnext : slot ≤ clock.lastSlot epoch ↔ ¬ clock.firstSlot (satAdd epoch 1) ≤ slot := by
    rw [UInt64.le_iff_toNat_le, UInt64.le_iff_toNat_le, lastSlot, toNat_satSub, UInt64.toNat_one]
    omega
  -- the next epoch is cut off only for an epoch that no slot below the largest number reaches
  have hsucc : satAdd epoch 1 ≤ clock.epochOf slot ↔ epoch < clock.epochOf slot := by
    have hle := UInt64.le_iff_toNat_le.1 (clock.epochOf_le slot)
    rw [lt_farFuture_iff] at h
    rw [UInt64.le_iff_toNat_le, UInt64.lt_iff_toNat_lt, toNat_satAdd, UInt64.toNat_one]
    omega
  rw [hnext, firstSlot_le_iff (.inl h), hsucc, UInt64.not_lt]

/-- The slots of an epoch are those whose epoch it is. -/
theorem mem_epochSlots :
    slot ∈ (clock.epochSlots epoch).slots ↔ slot < farFuture ∧ clock.epochOf slot = epoch := by
  rw [SlotRange.mem_slots, epochSlots]
  constructor
  · rintro ⟨hfirst, hlast⟩
    have h : slot < farFuture := UInt64.lt_of_le_of_lt hlast (clock.lastSlot_lt epoch)
    exact ⟨h, UInt64.le_antisymm ((le_lastSlot_iff h).1 hlast)
      ((firstSlot_le_iff (.inl h)).1 hfirst)⟩
  · rintro ⟨h, rfl⟩
    exact ⟨(firstSlot_le_iff (.inl h)).2 (UInt64.le_refl _),
      (le_lastSlot_iff h).2 (UInt64.le_refl _)⟩

/-- An epoch is that of its first slot, if this has a number. -/
theorem epochOf_firstSlot (h : epoch.toNat * clock.slotsPerEpoch.toNat < UInt64.size) :
    clock.epochOf (clock.firstSlot epoch) = epoch := by
  rw [← UInt64.toNat_inj, toNat_epochOf, toNat_firstSlot, Nat.min_eq_left (by omega),
    Nat.mul_div_cancel _ clock.slotsPerEpoch_pos]

/-- An epoch has no slots exactly if it starts at the largest number or beyond. -/
theorem epochSlots_eq_nil_iff :
    (clock.epochSlots epoch).slots = [] ↔
      UInt64.size - 1 ≤ epoch.toNat * clock.slotsPerEpoch.toNat := by
  have hfirst := clock.toNat_firstSlot epoch
  constructor
  · intro h
    by_contra hlt
    have hmem : clock.firstSlot epoch ∈ (clock.epochSlots epoch).slots := by
      refine mem_epochSlots.2 ⟨?_, epochOf_firstSlot (by omega)⟩
      rw [lt_farFuture_iff]
      omega
    simp [h] at hmem
  · intro h
    refine List.eq_nil_iff_forall_not_mem.2 fun slot hm => ?_
    obtain ⟨hs, -⟩ := mem_epochSlots.1 hm
    have hle : clock.firstSlot epoch ≤ slot := (SlotRange.mem_slots.1 hm).1
    rw [lt_farFuture_iff] at hs
    rw [UInt64.le_iff_toNat_le] at hle
    omega

/-- **Epochs divide the slots.** Below the largest number, the epoch of a slot is the one between
    whose ends it lies, both included. So the ranges of two epochs share no slot and every slot is
    in one of them, and an epoch whose first slot has no number has an empty range. -/
theorem epochs_divide_slots (clock : Clock) :
    (∀ (epoch : Epoch) (slot : Slot), slot < farFuture →
      (clock.epochOf slot = epoch ↔
        clock.firstSlot epoch ≤ slot ∧ slot ≤ clock.lastSlot epoch)) ∧
    (∀ slot : Slot, slot < farFuture → ∃ epoch, slot ∈ (clock.epochSlots epoch).slots) ∧
    (∀ epoch other : Epoch, epoch ≠ other →
      (clock.epochSlots epoch).slots.Disjoint (clock.epochSlots other).slots) ∧
    ∀ epoch : Epoch, UInt64.size ≤ epoch.toNat * clock.slotsPerEpoch.toNat →
      (clock.epochSlots epoch).slots = [] := by
  refine ⟨fun epoch slot h => ?_, fun slot h => ⟨_, mem_epochSlots.2 ⟨h, rfl⟩⟩,
    fun epoch other hne slot hm hm' => ?_, fun epoch h => ?_⟩
  · calc clock.epochOf slot = epoch
        ↔ slot ∈ (clock.epochSlots epoch).slots := by rw [mem_epochSlots, and_iff_right h]
      _ ↔ clock.firstSlot epoch ≤ slot ∧ slot ≤ clock.lastSlot epoch := SlotRange.mem_slots
  · exact hne ((mem_epochSlots.1 hm).2.symm.trans (mem_epochSlots.1 hm').2)
  · exact epochSlots_eq_nil_iff.2 (by omega)

/-- The clock of a chain with slots of twelve seconds and epochs of 32 slots. -/
def mainnet : Clock where
  genesisTime := 1606824023
  slotMillis := 12000
  slotsPerEpoch := 32
  epochsPerSyncPeriod := some 256
  forks := ⟨74240, 144896, 194048, 269568, 364032, farFuture⟩
  slotMillis_pos := by decide
  slotsPerEpoch_pos := by decide

/-- The last slot before the largest number ends its epoch, and there is nothing in the epochs of
    the far future. -/
theorem epochs_divide_slots_mainnet :
    (18446744073709551614 : Slot) ≤ mainnet.lastSlot 576460752303423487 ∧
      (mainnet.epochSlots farFuture).slots = [] := by
  obtain ⟨hends, -, -, hempty⟩ := mainnet.epochs_divide_slots
  exact ⟨((hends 576460752303423487 18446744073709551614 (by decide)).1 (by decide)).2,
    hempty farFuture (by decide)⟩

end Clock

end BeaconDuties
