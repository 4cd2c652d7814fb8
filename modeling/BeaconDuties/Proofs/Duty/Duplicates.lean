import Mathlib.Data.Finset.Card
import BeaconDuties.Duty.Duplicates

/-!
What a memory of duplicates knows after it has been told of attestations and votes.

Recording an attestation makes its root known and nothing else (`Duplicates.isSome_origin?_record`).
Crediting votes makes them credited and nothing else (`Duplicates.isCredited_creditAll`), and counts
those that were not (`Duplicates.fst_creditAll`).
-/

namespace BeaconDuties.Duplicates

variable {seen : Duplicates} {root root' : Root} {origin : Origin} {ballot ballot' : Ballot}
  {slot : Slot}

@[simp] theorem origin?_empty : empty.origin? root = none := by simp [empty, origin?]

@[simp] theorem isCredited_empty : empty.isCredited ballot = false := by simp [empty, isCredited]

theorem origin?_record :
    (seen.record root origin).origin? root' =
      if root = root' ∧ seen.origin? root = none then some origin else seen.origin? root' := by
  simp only [record, origin?, Std.ExtTreeMap.getElem?_insertIfNew, Std.compare_eq_iff_eq]
  by_cases h : root = root'
  · subst h
    simp
  · simp [h]

theorem isSome_origin?_record :
    ((seen.record root origin).origin? root').isSome ↔
      root' = root ∨ (seen.origin? root').isSome := by
  rw [origin?_record]
  by_cases h : root' = root
  · subst h
    cases hs : seen.origin? root' <;> simp
  · simp [h, Ne.symm h]

/-- Two memories know the same attestations, wherever they have seen them first. -/
def SameRoots (seen seen' : Duplicates) : Prop :=
  ∀ root, (seen.origin? root).isSome ↔ (seen'.origin? root).isSome

theorem SameRoots.record {seen' : Duplicates} {origin' : Origin} (h : SameRoots seen seen') :
    SameRoots (seen.record root origin) (seen'.record root origin') := by
  intro root'
  rw [isSome_origin?_record, isSome_origin?_record, h root']

@[simp] theorem isCredited_record :
    (seen.record root origin).isCredited ballot = seen.isCredited ballot := rfl

@[simp] theorem isCredited_credit :
    (seen.credit ballot).isCredited ballot' ↔ ballot' = ballot ∨ seen.isCredited ballot' := by
  simp only [credit, isCredited, Std.ExtTreeSet.contains_insert, Bool.or_eq_true, beq_iff_eq,
    Std.compare_eq_iff_eq]
  exact or_congr_left eq_comm

@[simp] theorem origin?_creditAll :
    ∀ {validators : List ValidatorIndex} {seen : Duplicates},
      (seen.creditAll slot validators).2.origin? root = seen.origin? root
  | [], _ => rfl
  | _ :: _, _ => by rw [creditAll]; exact origin?_creditAll

theorem isCredited_creditAll :
    ∀ {validators : List ValidatorIndex} {seen : Duplicates},
      (seen.creditAll slot validators).2.isCredited ballot ↔
        ballot ∈ validators.map (Ballot.mk slot) ∨ seen.isCredited ballot
  | [], seen => by simp [creditAll]
  | validator :: rest, seen => by
    rw [creditAll, List.map_cons, List.mem_cons]
    have hr : ((seen.credit ⟨slot, validator⟩).creditAll slot rest).2.isCredited ballot ↔ _ :=
      isCredited_creditAll
    simp only [hr, isCredited_credit]
    tauto

/-- The votes that are counted are those that were not credited before, each of them once. -/
theorem fst_creditAll :
    ∀ {validators : List ValidatorIndex} {seen : Duplicates},
      (seen.creditAll slot validators).1 =
        ((validators.map (Ballot.mk slot)).toFinset.filter fun x => ¬ seen.isCredited x).card
  | [], _ => rfl
  | validator :: rest, seen => by
    set ballot : Ballot := ⟨slot, validator⟩
    set fresh := ((rest.map (Ballot.mk slot)).toFinset.filter fun x => ¬ seen.isCredited x)
    have hf : ((rest.map (Ballot.mk slot)).toFinset.filter fun x =>
        ¬ (seen.credit ballot).isCredited x) = fresh.erase ballot := by
      ext x
      simp only [fresh, isCredited_credit, Finset.mem_filter, Finset.mem_erase]
      tauto
    have hc : ((seen.credit ballot).creditAll slot rest).1 = _ := fst_creditAll
    rw [hf] at hc
    rw [creditAll, List.map_cons, List.toFinset_cons, Finset.filter_insert]
    change (if seen.isCredited ballot then _ else _ + 1) =
      (if ¬ seen.isCredited ballot = true then insert ballot fresh else fresh).card
    rw [hc]
    by_cases h : seen.isCredited ballot
    · have hm : ballot ∉ fresh := by simp [fresh, h]
      rw [if_pos h, if_neg (by simp [h]), Finset.erase_eq_of_notMem hm]
    · rw [if_neg h, if_pos h, ← Finset.card_erase_add_one (Finset.mem_insert_self ballot fresh),
        Finset.erase_insert_eq_erase]

end BeaconDuties.Duplicates
