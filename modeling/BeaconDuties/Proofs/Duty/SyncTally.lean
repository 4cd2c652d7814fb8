import BeaconDuties.Duty.SyncTally
import BeaconDuties.Proofs.Maps
import BeaconDuties.Proofs.Order

/-!
A tally of some members of a sync committee is the tally of all of them without the others
(`SyncTally.record_restrict`, `SyncTally.finish_restrict`).
-/

namespace BeaconDuties.SyncTally

variable {members : List ValidatorIndex} {selected : ValidatorIndex → Bool} {slot : Slot}

/-- The tally without the misses of those who are not selected. -/
def restrict (selected : ValidatorIndex → Bool) (tally : SyncTally) : SyncTally :=
  { tally with missed := Maps.restrict selected tally.missed }

@[simp] theorem restrict_start : (start members).restrict selected = start members := by
  have hm : Maps.restrict selected (start members).missed = (start members).missed :=
    (Maps.eq_restrict fun v => by simp [start]).symm
  rw [restrict, hm]

theorem absent_filter {bits : List Bool} :
    absent members bits selected = (absent members bits fun _ => true).filter selected := by
  rw [absent, absent, List.filter_map, List.filter_filter]
  refine congrArg _ (List.filter_congr fun ⟨v, signed⟩ _ => ?_)
  exact (Bool.and_comm _ _).trans (congrArg (selected v && ·) (Bool.and_true _).symm)

theorem miss_cons {missed : Std.ExtTreeMap ValidatorIndex (List Slot)} {v : ValidatorIndex}
    {validators : List ValidatorIndex} :
    miss missed slot (v :: validators) =
      miss (missed.alter v fun slots => some (slots.getD [] ++ [slot])) slot validators :=
  rfl

theorem miss_restrict : ∀ {validators : List ValidatorIndex}
    {missed : Std.ExtTreeMap ValidatorIndex (List Slot)},
    miss (Maps.restrict selected missed) slot (validators.filter selected) =
      Maps.restrict selected (miss missed slot validators)
  | [], _ => rfl
  | v :: validators, missed => by
    rw [miss_cons, ← miss_restrict, Maps.restrict_alter, List.filter_cons]
    split
    · exact miss_cons
    · rfl

/-- Recording the selected members only makes no difference to their misses. -/
theorem record_restrict {tally after : SyncTally} {bits : BitVector}
    (h : tally.record slot bits (fun _ => true) = .ok after) :
    (tally.restrict selected).record slot bits selected = .ok (after.restrict selected) := by
  rw [record] at h ⊢
  split at h
  · next hlength =>
    cases h
    have hlength : bits.length = (tally.restrict selected).members.length := hlength
    rw [if_pos hlength, absent_filter, restrict, restrict, miss_restrict]
  · cases h

theorem finish_restrict {tally : SyncTally} :
    (tally.restrict selected).finish = tally.finish.filter (selected ·.validator) := by
  rw [finish, finish, restrict, ← sortOn_filter, Maps.toList_restrict, List.filter_map]
  rfl

end BeaconDuties.SyncTally
