import BeaconDuties.Chain.Clock

/-!
The slots of a range.

`slotsFrom` lists slots as they are gone through, one step at a time. `SlotRange.slots` lists the
slots of a range: those that are neither before the first nor after the last
(`SlotRange.mem_slots`), in ascending order (`SlotRange.pairwise_slots`). No step leads beyond the
largest number (`SlotRange.map_toNat_slots`).
-/

namespace BeaconDuties

/-- The given number of slots from a slot on. -/
def slotsFrom : Nat → Slot → List Slot
  | 0, _ => []
  | count + 1, slot => slot :: slotsFrom count (slot + 1)

theorem toNat_add_one {slot : Slot} (h : slot.toNat + 1 < UInt64.size) :
    (slot + 1).toNat = slot.toNat + 1 := by
  rw [UInt64.toNat_add, UInt64.toNat_one, Nat.mod_eq_of_lt]
  exact h

theorem toNat_sub_one {slot : Slot} (h : slot ≠ 0) : (slot - 1).toNat + 1 = slot.toNat := by
  have hpos : 1 ≤ slot := by grind
  have hle : 1 ≤ slot.toNat := UInt64.le_iff_toNat_le.1 hpos
  rw [UInt64.toNat_sub_of_le _ _ hpos, UInt64.toNat_one]
  omega

theorem mem_slotsFrom {s : Slot} : ∀ {count : Nat} {slot : Slot},
    slot.toNat + count ≤ UInt64.size →
      (s ∈ slotsFrom count slot ↔ slot ≤ s ∧ s.toNat < slot.toNat + count)
  | 0, slot, _ => by
    simp only [slotsFrom, List.not_mem_nil, UInt64.le_iff_toNat_le, false_iff]
    omega
  | 1, slot, _ => by
    simp only [slotsFrom, List.mem_singleton, UInt64.le_iff_toNat_le, ← UInt64.toNat_inj]
    omega
  | count + 2, slot, h => by
    have hs := toNat_add_one (show slot.toNat + 1 < UInt64.size by omega)
    rw [slotsFrom, List.mem_cons, mem_slotsFrom (by omega), UInt64.le_iff_toNat_le,
      UInt64.le_iff_toNat_le, ← UInt64.toNat_inj, hs]
    omega

theorem pairwise_slotsFrom : ∀ {count : Nat} {slot : Slot},
    slot.toNat + count ≤ UInt64.size → (slotsFrom count slot).Pairwise (· < ·)
  | 0, _, _ => .nil
  | 1, _, _ => List.pairwise_singleton _ _
  | count + 2, slot, h => by
    have hs := toNat_add_one (show slot.toNat + 1 < UInt64.size by omega)
    rw [slotsFrom, List.pairwise_cons]
    refine ⟨fun s hm => ?_, pairwise_slotsFrom (by omega)⟩
    have := ((mem_slotsFrom (by omega)).1 hm).1
    rw [UInt64.le_iff_toNat_le] at this
    rw [UInt64.lt_iff_toNat_lt]
    omega

/-- The numbers of slots that fit are gone through one by one. -/
theorem map_toNat_slotsFrom : ∀ {count : Nat} {slot : Slot}, slot.toNat + count ≤ UInt64.size →
    (slotsFrom count slot).map UInt64.toNat = List.range' slot.toNat count
  | 0, _, _ => rfl
  | 1, _, _ => rfl
  | count + 2, slot, h => by
    have hs := toNat_add_one (show slot.toNat + 1 < UInt64.size by omega)
    rw [slotsFrom, List.map_cons, List.range'_succ, map_toNat_slotsFrom (by omega), hs]

namespace SlotRange

/-- The slots of a range. -/
def slots (range : SlotRange) : List Slot := slotsFrom range.count range.first

theorem slots_fit (range : SlotRange) :
    range.count = 0 ∨ range.first.toNat + range.count ≤ UInt64.size := by
  have := range.last.toNat_lt
  simp only [count, UInt64.size]
  omega

theorem mem_slots {range : SlotRange} {slot : Slot} :
    slot ∈ range.slots ↔ range.first ≤ slot ∧ slot ≤ range.last := by
  rw [UInt64.le_iff_toNat_le, UInt64.le_iff_toNat_le]
  rcases range.slots_fit with h | h
  · simp only [slots, h, slotsFrom, List.not_mem_nil, false_iff]
    simp only [count] at h
    omega
  · rw [slots, mem_slotsFrom h, UInt64.le_iff_toNat_le, count]
    omega

theorem map_toNat_slots (range : SlotRange) :
    range.slots.map UInt64.toNat = List.range' range.first.toNat range.count := by
  rcases range.slots_fit with h | h
  · rw [slots, h]
    rfl
  · exact map_toNat_slotsFrom h

theorem pairwise_slots (range : SlotRange) : range.slots.Pairwise (· < ·) := by
  rcases range.slots_fit with h | h
  · simp [slots, h, slotsFrom]
  · exact pairwise_slotsFrom h

end SlotRange

end BeaconDuties
