import BeaconDuties.Duty.Committee
import BeaconDuties.Proofs.Maps

/-!
Seats of committees, and the votes of those who sit in them.

* `CommitteeTable.mem_seats`: the seats of a table are those of the members of its committees. They
  come in the order of their slots and committees (`CommitteeTable.pairwise_seats`).
* `CommitteeTable.voters` lists the validators whose bits are set in an attestation. Each of them
  has a seat in a committee of the attestation's slot (`CommitteeTable.exists_seat_of_mem_voters`),
  and there are as many attesting members as set bits (`CommitteeTable.length_of_attesting`).
-/

namespace BeaconDuties

namespace CommitteePlace

theorem compare_eq_lt {a b : CommitteePlace} :
    compare a b = .lt ↔ a.slot < b.slot ∨ a.slot = b.slot ∧ a.index < b.index := by
  change (compare a.slot b.slot).then (compare a.index b.index) = .lt ↔ _
  rw [Ordering.then_eq_lt, Std.compare_eq_lt, Std.compare_eq_lt, Std.compare_eq_iff_eq]

end CommitteePlace

namespace Seat

/-- A seat is in no later place than another. -/
def NoLater (x y : Seat) : Prop := x.slot < y.slot ∨ x.slot = y.slot ∧ x.committee ≤ y.committee

theorem NoLater.refl (seat : Seat) : seat.NoLater seat := .inr ⟨rfl, UInt64.le_refl _⟩

instance : Std.LawfulEqOrd Seat where
  eq_of_compare {a b} h := by
    obtain ⟨hs, h⟩ := compareLex_eq_eq.1 (h : compareLex _ (compareLex _ _) a b = .eq)
    obtain ⟨hc, hv⟩ := compareLex_eq_eq.1 h
    have hs : a.slot = b.slot := Std.LawfulEqOrd.eq_of_compare hs
    have hc : a.committee = b.committee := Std.LawfulEqOrd.eq_of_compare hc
    have hv : a.validator = b.validator := Std.LawfulEqOrd.eq_of_compare hv
    cases a
    cases b
    simp_all

end Seat

theorem Bits.length_onesFrom : ∀ {bits : List Bool} {start : Nat},
    (onesFrom start bits).length = bits.count true
  | [], _ => rfl
  | true :: bits, start => by
    rw [onesFrom, List.length_cons, length_onesFrom, List.count_cons_self]
  | false :: bits, start => by
    rw [onesFrom, length_onesFrom, List.count_cons_of_ne Bool.false_ne_true]

namespace CommitteeTable

variable {table : CommitteeTable}

/-- Every table is one of a list of committees. -/
theorem exists_ofList (table : CommitteeTable) : ∃ list, .ofList list = table := by
  refine ⟨table.members.toList.map fun entry => ⟨entry.1.index, entry.1.slot, entry.2⟩, ?_⟩
  rw [ofList, List.foldl_map]
  exact congrArg mk Maps.foldl_insert_toList

theorem mem_seats {seat : Seat} :
    seat ∈ table.seats ↔
      ∃ validators, table.get? seat.slot seat.committee = some validators ∧
        seat.validator ∈ validators := by
  simp only [seats, List.mem_flatMap, List.mem_map, Prod.exists]
  constructor
  · rintro ⟨place, validators, hp, validator, hv, rfl⟩
    exact ⟨validators, Std.ExtTreeMap.mem_toList_iff_getElem?_eq_some.1 hp, hv⟩
  · rintro ⟨validators, hp, hv⟩
    exact ⟨⟨seat.slot, seat.committee⟩, validators,
      Std.ExtTreeMap.mem_toList_iff_getElem?_eq_some.2 hp, _, hv, rfl⟩

/-- No validator has seats in two places. -/
def OneSeat (table : CommitteeTable) : Prop :=
  ∀ x ∈ table.seats, ∀ y ∈ table.seats, x.validator = y.validator → x = y

theorem pairwise_seats : table.seats.Pairwise Seat.NoLater := by
  refine List.pairwise_flatMap.2 ⟨fun entry _ => ?_,
    Std.ExtTreeMap.ordered_keys_toList.imp fun hlt x hx y hy => ?_⟩
  · refine List.pairwise_of_forall_mem_list fun x hx y hy => ?_
    obtain ⟨_, -, rfl⟩ := List.mem_map.1 hx
    obtain ⟨_, -, rfl⟩ := List.mem_map.1 hy
    exact Or.inr ⟨rfl, UInt64.le_refl _⟩
  · obtain ⟨_, -, rfl⟩ := List.mem_map.1 hx
    obtain ⟨_, -, rfl⟩ := List.mem_map.1 hy
    exact (CommitteePlace.compare_eq_lt.1 hlt).imp_right fun h => ⟨h.1, UInt64.le_of_lt h.2⟩

/-! ## Voters -/

/-- The validators whose bits are set in an attestation. -/
def voters (table : CommitteeTable) (attestation : Attestation) : List ValidatorIndex :=
  match table.attesting attestation with
  | .ok members => members.map (·.validator)
  | .error _ => []

theorem voters_eq {attestation : Attestation} {members : List Member}
    (h : table.attesting attestation = .ok members) :
    table.voters attestation = members.map (·.validator) := by
  simp only [voters, h]

theorem seat_of_mem_covered {slot : Slot} {member : Member} :
    ∀ {indices : List CommitteeIndex} {members : List Member},
      table.covered slot indices = .ok members → member ∈ members →
        Seat.mk slot member.committee member.validator ∈ table.seats
  | [], members, h, hm => by
    cases h
    simp at hm
  | index :: rest, members, h, hm => by
    rw [covered] at h
    split at h
    · cases h
    · next validators hg =>
      cases hc : covered table slot rest with
      | error fault => simp [hc, bind, Except.bind] at h
      | ok further =>
        simp only [hc, bind, Except.bind, pure, Except.pure, Except.ok.injEq] at h
        subst h
        rcases List.mem_append.1 hm with hm | hm
        · obtain ⟨v, hv, rfl⟩ := List.mem_map.1 hm
          exact mem_seats.2 ⟨validators, hg, hv⟩
        · exact seat_of_mem_covered hc hm

theorem mem_of_mem_pick {slot : Slot} {members : Array Member} {member : Member} :
    ∀ {positions : List Nat} {picked : List Member},
      pick slot members positions = .ok picked → member ∈ picked → member ∈ members
  | [], picked, h, hm => by
    cases h
    simp at hm
  | position :: rest, picked, h, hm => by
    rw [pick] at h
    split at h
    · cases h
    · next first hg =>
      cases hp : pick slot members rest with
      | error fault => simp [hp, bind, Except.bind] at h
      | ok further =>
        simp only [hp, bind, Except.bind, pure, Except.pure, Except.ok.injEq] at h
        subst h
        rcases List.mem_cons.1 hm with rfl | hm
        · exact Array.mem_of_getElem? hg
        · exact mem_of_mem_pick hp hm

theorem length_of_pick {slot : Slot} {members : Array Member} :
    ∀ {positions : List Nat} {picked : List Member},
      pick slot members positions = .ok picked → picked.length = positions.length
  | [], picked, h => by
    cases h
    rfl
  | position :: rest, picked, h => by
    rw [pick] at h
    split at h
    · cases h
    · cases hp : pick slot members rest with
      | error fault => simp [hp, bind, Except.bind] at h
      | ok further =>
        simp only [hp, bind, Except.bind, pure, Except.pure, Except.ok.injEq] at h
        subst h
        rw [List.length_cons, List.length_cons, length_of_pick hp]

/-- There are as many attesting members as set bits. -/
theorem length_of_attesting {attestation : Attestation} {members : List Member}
    (h : table.attesting attestation = .ok members) :
    members.length = attestation.bits.bits.count true := by
  rw [attesting] at h
  cases hc : table.covered attestation.data.slot attestation.committeeIndices with
  | error fault => simp [hc, bind, Except.bind] at h
  | ok covered =>
    simp only [hc, bind, Except.bind] at h
    rw [length_of_pick h, BitList.ones, Bits.ones, Bits.length_onesFrom]

theorem exists_seat_of_mem_voters {attestation : Attestation} {validator : ValidatorIndex}
    (h : validator ∈ table.voters attestation) :
    ∃ committee, Seat.mk attestation.data.slot committee validator ∈ table.seats := by
  unfold voters at h
  split at h
  · next members ha =>
    obtain ⟨member, hm, rfl⟩ := List.mem_map.1 h
    rw [attesting] at ha
    cases hc : table.covered attestation.data.slot attestation.committeeIndices with
    | error fault => simp [hc, bind, Except.bind] at ha
    | ok covered =>
      simp only [hc, bind, Except.bind] at ha
      have := mem_of_mem_pick ha hm
      exact ⟨member.committee, seat_of_mem_covered hc (by simpa using this)⟩
  · simp at h

/-- A validator with one seat votes in the slot of that seat. -/
theorem OneSeat.slot_eq (h : table.OneSeat) {seat : Seat} (hs : seat ∈ table.seats)
    {attestation : Attestation} (hv : seat.validator ∈ table.voters attestation) :
    attestation.data.slot = seat.slot := by
  obtain ⟨committee, hm⟩ := exists_seat_of_mem_voters hv
  exact congrArg Seat.slot (h _ hm seat hs rfl)

end CommitteeTable

end BeaconDuties
