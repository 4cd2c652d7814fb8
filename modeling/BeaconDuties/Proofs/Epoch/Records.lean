import BeaconDuties.Proofs.Duty.Participation
import BeaconDuties.Proofs.Epoch.Inclusions
import BeaconDuties.Proofs.Lists
import BeaconDuties.Proofs.Maps

/-!
The records of an epoch, told from the chain alone.
-/

namespace BeaconDuties

open Survey

variable {node : Answers} {clock : Clock} {limits : Limits} {epoch : Epoch}
  {table : CommitteeTable} {window : SlotRange} {v : ValidatorIndex}

namespace EpochSurvey

/-- The records that no inclusion has been added to: each selected validator with a seat has one,
    for the first of its seats. -/
theorem getElem?_awaiting {selection : Selection}
    {registry : Std.ExtTreeMap ValidatorIndex ValidatorInfo} :
    (awaiting selection registry table)[v]? =
      (table.seats.find? fun seat => selection.contains seat.validator && seat.validator = v).map
        fun seat => .awaiting seat
          ((registry[seat.validator]?.map ValidatorInfo.effectiveBalance).getD 0) := by
  rw [awaiting]
  refine Maps.getElem?_foldl_insertIfNew.trans ?_
  simp [List.find?_filter]

theorem getElem?_addInclusion {records : Std.ExtTreeMap ValidatorIndex Participation}
    {x : Inclusion} :
    (addInclusion records x)[v]? =
      if v ∈ x.validators then
        records[v]?.map fun r => Participation.record r x.data x.classification x.slot
      else records[v]? :=
  Maps.getElem?_foldl_modify fun _ => Participation.record_record

theorem getElem?_records : ∀ {found : List Inclusion}
    {awaiting : Std.ExtTreeMap ValidatorIndex Participation},
    (records awaiting found)[v]? =
      awaiting[v]?.map (Participation.recordAll · (found.filter (v ∈ ·.validators)))
  | [], awaiting => by simp [records, Participation.recordAll]
  | x :: found, awaiting => by
    rw [records, List.foldl_cons, ← records, getElem?_records, getElem?_addInclusion,
      List.filter_cons]
    by_cases hv : v ∈ x.validators
    · simp [hv, Participation.recordAll, Function.comp_def]
    · simp [hv]

theorem seat_of_find? {p : Seat → Bool} {seat : Seat}
    (h : (table.seats.find? fun seat => p seat && seat.validator = v) = some seat)
    (hp : ∀ other : Seat, other.validator = v → p other) :
    seat ∈ table.seats ∧ seat.validator = v ∧
      ∀ other ∈ table.seats, other.validator = v → seat.NoLater other := by
  have hs := List.find?_some h
  simp only [Bool.and_eq_true, decide_eq_true_eq] at hs
  exact ⟨List.mem_of_find?_eq_some h, hs.2, fun other ho hv =>
    Lists.rel_of_find?_eq_some table.pairwise_seats (.refl _) h ho (by simp [hp other hv, hv])⟩

end EpochSurvey

/-! ## Votes of a validator -/

/-- A sighting is the first one of its attestation. -/
def Sighting.IsFirst (xs : List Sighting) (x : Sighting) : Prop :=
  x ∈ xs ∧ ∀ y ∈ xs, y.attestation = x.attestation → x.slot ≤ y.slot

theorem Sighting.slot_le_of_find? {xs : List Sighting} {p : Attestation → Bool} {x y : Sighting}
    (hp : xs.Pairwise (·.slot ≤ ·.slot)) (hx : xs.find? (fun x => p x.attestation) = some x)
    (hy : y ∈ xs) (h : p y.attestation) : x.slot ≤ y.slot :=
  Lists.rel_of_find?_eq_some (R := fun x y : Sighting => x.slot ≤ y.slot) hp (UInt64.le_refl _) hx
    hy h

/-- What is told of the inclusion of a validator's vote is told of the first attestation with that
    vote in the first block that has one. -/
structure FirstInclusion.Recounts (node : Answers) (clock : Clock) (epoch : Epoch)
    (table : CommitteeTable) (sightings : List Sighting) (v : ValidatorIndex)
    (x : FirstInclusion) : Prop where
  least : ∀ y ∈ sightings, v ∈ table.voters y.attestation → x.slot ≤ y.slot
  vote : ∃ attestation, ⟨x.slot, attestation⟩ ∈ sightings ∧
    (node.attestationsAt x.slot).find? (fun a =>
      clock.epochOf a.data.slot = epoch && v ∈ table.voters a) = some attestation ∧
    x.headVote = attestation.data.head ∧ x.targetVote = attestation.data.target.root ∧
    (∃ header, node.CanonicalBefore attestation.data.slot header ∧ header.root = x.head) ∧
    ∃ header, node.CanonicalBefore (clock.firstSlot attestation.data.target.epoch) header ∧
      header.root = x.target

/-- A record tells what the chain holds of a validator's duty: its first seat, the first inclusion
    of its vote, and what is met by any attestation with its vote, judged where that attestation
    is included first. -/
structure Participation.Recounts (node : Answers) (clock : Clock) (epoch : Epoch)
    (table : CommitteeTable) (sightings : List Sighting) (x : Participation) : Prop where
  seat_mem : x.seat ∈ table.seats
  seat_first : ∀ seat ∈ table.seats, seat.validator = x.validator → x.seat.NoLater seat
  inclusion_none : x.inclusion = none ↔
    ∀ y ∈ sightings, x.validator ∉ table.voters y.attestation
  inclusion_some : ∀ {inclusion}, x.inclusion = some inclusion →
    inclusion.Recounts node clock epoch table sightings x.validator
  isMet : ∀ criterion : Criterion, criterion.isMet x ↔
    ∃ y : Sighting, y.IsFirst sightings ∧ x.validator ∈ table.voters y.attestation ∧
      ∃ judged : Classification, judged.Judges node clock y.attestation.data y.slot ∧
        criterion.holds judged.flags

theorem FirstInclusion.Recounts.exists_sighting {sightings : List Sighting} {x : FirstInclusion}
    (hx : x.Recounts node clock epoch table sightings v) :
    ∃ y ∈ sightings, y.slot = x.slot ∧ v ∈ table.voters y.attestation := by
  obtain ⟨attestation, hm, hf, -⟩ := hx.vote
  have hv := List.find?_some hf
  rw [Bool.and_eq_true, decide_eq_true_eq, decide_eq_true_eq] at hv
  exact ⟨_, hm, rfl, hv.2⟩

/-- A record tells of the lowest slot in which its validator's vote is sighted. -/
theorem Participation.Recounts.inclusion_eq_iff {sightings : List Sighting} {x : Participation}
    (hx : x.Recounts node clock epoch table sightings) {slot : Slot} :
    x.inclusion.map (·.slot) = some slot ↔
      (∃ y ∈ sightings, y.slot = slot ∧ x.validator ∈ table.voters y.attestation) ∧
        ∀ y ∈ sightings, x.validator ∈ table.voters y.attestation → slot ≤ y.slot := by
  cases hi : x.inclusion with
  | none =>
    have hn := hx.inclusion_none.1 hi
    constructor
    · intro h
      cases h
    · rintro ⟨⟨y, hy, -, hv⟩, -⟩
      exact absurd hv (hn y hy)
  | some inclusion =>
    have hr := hx.inclusion_some hi
    obtain ⟨z, hz, hs, hv⟩ := hr.exists_sighting
    rw [Option.map_some, Option.some.injEq]
    constructor
    · rintro rfl
      exact ⟨⟨z, hz, hs, hv⟩, hr.least⟩
    · rintro ⟨⟨y, hy, rfl, hyv⟩, hle⟩
      exact UInt64.le_antisymm (hr.least y hy hyv) (hs ▸ hle z hz hv)

namespace EpochSurvey

section Found

variable {wanted : ValidatorIndex → Bool} {found : List Inclusion}

/-- What is told of sightings starts, for a wanted validator, with the first sighting of its
    vote. -/
theorem find?_tells {xs : List Sighting} (hv : wanted v)
    (h : List.Forall₂ (Inclusion.Tells node clock table wanted)
      (xs.filter fun x => (table.voters x.attestation).filter wanted ≠ []) found) :
    Option.Rel (Inclusion.Tells node clock table wanted)
      (xs.find? fun x => v ∈ table.voters x.attestation) (found.find? (v ∈ ·.validators)) := by
  have hf := Lists.find?_of_forall₂ (p := fun x => v ∈ table.voters x.attestation)
    (q := (v ∈ ·.validators)) h fun ht => by simp [ht.validators, hv]
  rw [List.find?_filter] at hf
  convert hf using 3 with x
  by_cases hm : v ∈ table.voters x.attestation
  · have : (table.voters x.attestation).filter wanted ≠ [] :=
      List.ne_nil_of_mem (List.mem_filter.2 ⟨hm, hv⟩)
    simp [hm, this]
  · simp [hm]

/-- What is found of a wanted validator's votes starts with the first sighting of them. -/
theorem find?_found {xs : List Sighting} (hv : wanted v)
    (h : List.Forall₂ (Inclusion.Tells node clock table wanted)
      ((Sighting.firsts xs).filter fun x => (table.voters x.attestation).filter wanted ≠ [])
      found) :
    Option.Rel (Inclusion.Tells node clock table wanted)
      (xs.find? fun x => v ∈ table.voters x.attestation) (found.find? (v ∈ ·.validators)) := by
  rw [← Sighting.find?_firsts fun a => v ∈ table.voters a]
  exact find?_tells hv h

/-- What is told of a wanted validator's votes meets what some sighting of them does. -/
theorem exists_tells_iff {xs : List Sighting} {criterion : Criterion} (hv : wanted v)
    (h : List.Forall₂ (Inclusion.Tells node clock table wanted)
      (xs.filter fun x => (table.voters x.attestation).filter wanted ≠ []) found) :
    (∃ y ∈ found.filter (v ∈ ·.validators), criterion.holds y.classification.flags) ↔
      ∃ x ∈ xs, v ∈ table.voters x.attestation ∧
        ∃ judged : Classification, judged.Judges node clock x.attestation.data x.slot ∧
          criterion.holds judged.flags := by
  have hf := Lists.exists_iff_of_forall₂ (P := fun x => v ∈ table.voters x.attestation ∧
      ∃ judged : Classification, judged.Judges node clock x.attestation.data x.slot ∧
        criterion.holds judged.flags)
    (Q := fun y => v ∈ y.validators ∧ criterion.holds y.classification.flags) h fun {x y} ht => by
      have hj : (∃ judged : Classification, judged.Judges node clock x.attestation.data x.slot ∧
          criterion.holds judged.flags) ↔ criterion.holds y.classification.flags :=
        ⟨fun ⟨_, hj, hh⟩ => hj.unique ht.judges ▸ hh, fun hh => ⟨_, ht.judges, hh⟩⟩
      rw [hj]
      simp [ht.validators, hv]
  simp only [List.mem_filter, decide_eq_true_eq, and_assoc] at hf ⊢
  rw [← hf]
  exact exists_congr fun x => and_congr_right fun _ =>
    ⟨fun h => h.2, fun h => ⟨List.ne_nil_of_mem (List.mem_filter.2 ⟨h.1, hv⟩), h⟩⟩

end Found

/-! ## Records -/

variable {query : Query} {selection : Selection}
  {registry : Std.ExtTreeMap ValidatorIndex ValidatorInfo}
  {records : Std.ExtTreeMap ValidatorIndex Participation}

theorem steady_participations :
    Steady node clock (participations limits clock query selection registry) :=
  .of_composed (composed_participations (fun _ => trivial) (fun _ _ => trivial) rfl)

theorem getElem?_participations
    (h : answer node (participations limits clock query selection registry) = .ok records) :
    ∃ table found, node.HasCommittees clock query.epoch table ∧
      answer node (inclusions limits clock query.epoch table
        ((awaiting selection registry table).contains ·)
        (clock.inclusionWindow query.epoch query.current)) = .ok found ∧
      ∀ v, records[v]? = (awaiting selection registry table)[v]?.map
        (Participation.recordAll · (found.filter (v ∈ ·.validators))) := by
  obtain ⟨table, ht, h⟩ := Finds.bind (finds_of_answer h : Finds node clock _ _) .committees
  obtain ⟨found, hf, h⟩ := Finds.bind h steady_inclusions
  obtain rfl := finds_pure.1 h
  exact ⟨table, found, answer_committees_eq_ok.1 ht, hf, fun v => getElem?_records⟩

section Recorded

variable {found : List Inclusion}
  (hr : ∀ v, records[v]? = (awaiting selection registry table)[v]?.map
    (Participation.recordAll · (found.filter (v ∈ ·.validators))))

include hr

/-- There is a record of each selected validator that has a seat. -/
theorem isSome_records (v : ValidatorIndex) : records[v]?.isSome ↔
    selection.contains v ∧ ∃ seat ∈ table.seats, seat.validator = v := by
  rw [hr, getElem?_awaiting, Option.isSome_map, Option.isSome_map, List.find?_isSome]
  simp only [Bool.and_eq_true, decide_eq_true_eq]
  constructor
  · rintro ⟨seat, hs, hc, rfl⟩
    exact ⟨hc, seat, hs, rfl⟩
  · rintro ⟨hc, seat, hs, rfl⟩
    exact ⟨seat, hs, hc, rfl⟩

/-- A record is that of a validator's first seat, with what is found of its votes added. -/
theorem exists_seat_of_records {x : Participation} (hx : records[v]? = some x) :
    ∃ seat : Seat, seat ∈ table.seats ∧ seat.validator = v ∧
      (∀ other ∈ table.seats, other.validator = v → seat.NoLater other) ∧
      (awaiting selection registry table).contains v ∧
      x = (Participation.awaiting seat
        ((registry[v]?.map ValidatorInfo.effectiveBalance).getD 0)).recordAll
          (found.filter (v ∈ ·.validators)) := by
  obtain ⟨start, hstart, rfl⟩ := Option.map_eq_some_iff.1 (hr v ▸ hx)
  have hv : (awaiting selection registry table).contains v := by
    rw [Std.ExtTreeMap.contains_eq_isSome_getElem?, hstart, Option.isSome_some]
  obtain ⟨seat, hseat, rfl⟩ := Option.map_eq_some_iff.1 (getElem?_awaiting.symm.trans hstart)
  obtain ⟨hmem, rfl, hfirst⟩ := seat_of_find? hseat fun other ho => by
    have := List.find?_some hseat
    simp only [Bool.and_eq_true, decide_eq_true_eq] at this
    rw [ho, ← this.2]
    exact this.1
  exact ⟨seat, hmem, rfl, hfirst, hv, rfl⟩

theorem validator_of_records {x : Participation} (hx : records[v]? = some x) :
    x.validator = v := by
  obtain ⟨seat, -, rfl, -, -, rfl⟩ := exists_seat_of_records hr hx
  exact congrArg Seat.validator Participation.seat_recordAll

end Recorded

/-- The sightings that the records of an epoch are about. -/
def sightings (node : Answers) (clock : Clock) (query : Query) : List Sighting :=
  Sighting.list node clock query.epoch (clock.inclusionWindow query.epoch query.current).slots

/-- What is told of the first inclusion that is found is what the first sighting holds. -/
theorem Inclusion.Tells.recounts {wanted : ValidatorIndex → Bool} {x : Sighting} {y : Inclusion}
    (hy : y.Tells node clock table wanted x)
    (hx : (sightings node clock query).find? (fun x => v ∈ table.voters x.attestation) = some x) :
    y.first.Recounts node clock query.epoch table (sightings node clock query) v where
  least z hz hv := by
    have hs : y.first.slot = x.slot := hy.slot
    rw [hs]
    exact Sighting.slot_le_of_find? (p := fun a => v ∈ table.voters a)
      (Sighting.pairwise_list (SlotRange.pairwise_slots _)) hx hz (by simpa using hv)
  vote := by
    obtain ⟨slot, attestation⟩ := x
    obtain ⟨-, hh, ht, -, -, -⟩ := hy.judges
    have hs : y.first.slot = slot := hy.slot
    have hd : y.data = attestation.data := hy.data
    refine ⟨attestation, hs ▸ List.mem_of_find?_eq_some hx, ?_,
      congrArg AttestationData.head hd, congrArg (·.target.root) hd, hh, ht⟩
    rw [hs]
    exact Sighting.find?_list (p := fun a => v ∈ table.voters a) hx

/-- The record of a validator's first seat tells what the chain holds once all that is found of its
    votes has been added. -/
theorem recounts_recordAll {wanted : ValidatorIndex → Bool} {found : List Inclusion} {seat : Seat}
    {balance : Gwei} (hmem : seat ∈ table.seats)
    (hfirst : ∀ other ∈ table.seats, other.validator = seat.validator → seat.NoLater other)
    (hv : wanted seat.validator)
    (hfound : List.Forall₂ (Inclusion.Tells node clock table wanted)
      ((Sighting.firsts (sightings node clock query)).filter
        fun x => (table.voters x.attestation).filter wanted ≠ []) found) :
    ((Participation.awaiting seat balance).recordAll
      (found.filter (seat.validator ∈ ·.validators))).Recounts node clock query.epoch table
        (sightings node clock query) := by
  set x := (Participation.awaiting seat balance).recordAll _
  have hs : x.seat = seat := Participation.seat_recordAll
  have hxv : x.validator = seat.validator := congrArg Seat.validator hs
  have hi : x.inclusion = (found.find? (seat.validator ∈ ·.validators)).map (·.first) := by
    rw [Participation.inclusion_recordAll, List.head?_filter]
    rfl
  have hrel := find?_found hv hfound
  refine ⟨hs ▸ hmem, hxv ▸ hs ▸ hfirst, ?_, fun {inclusion} hinc => ?_, fun criterion => ?_⟩
  · rw [hi, hxv, Option.map_eq_none_iff, Lists.eq_none_iff_of_rel hrel, List.find?_eq_none]
    simp
  · rw [hi] at hinc
    obtain ⟨y, hy, rfl⟩ := Option.map_eq_some_iff.1 hinc
    obtain ⟨z, hz, ht⟩ := Lists.exists_of_rel hrel hy
    rw [hxv]
    exact ht.recounts hz
  · have hp : (sightings node clock query).Pairwise (·.slot ≤ ·.slot) :=
      Sighting.pairwise_list (SlotRange.pairwise_slots _)
    rw [Participation.isMet_recordAll, Participation.isMet_awaiting, exists_tells_iff hv hfound]
    simp only [Sighting.mem_firsts hp, hxv, Sighting.IsFirst, Bool.false_eq_true, false_or]

/-- The records hold one for each selected validator that has a seat in the epoch, and it tells what
    the chain holds of its duty. -/
structure Recounted (node : Answers) (clock : Clock) (query : Query) (selection : Selection)
    (registry : Std.ExtTreeMap ValidatorIndex ValidatorInfo) (table : CommitteeTable)
    (records : Std.ExtTreeMap ValidatorIndex Participation) : Prop where
  isSome : ∀ v, records[v]?.isSome ↔
    selection.contains v ∧ ∃ seat ∈ table.seats, seat.validator = v
  validator : ∀ {v : ValidatorIndex} {x : Participation}, records[v]? = some x → x.validator = v
  effectiveBalance : ∀ {v : ValidatorIndex} {x : Participation}, records[v]? = some x →
    x.effectiveBalance = (registry[v]?.map ValidatorInfo.effectiveBalance).getD 0
  recounts : ∀ {v : ValidatorIndex} {x : Participation}, records[v]? = some x →
    x.Recounts node clock query.epoch table (sightings node clock query)

theorem recounted_of_participations
    (h : answer node (participations limits clock query selection registry) = .ok records)
    (ht : node.HasCommittees clock query.epoch table)
    (hroots : Set.InjOn Attestation.identityRoot
      {a | ∃ slot ∈ (clock.inclusionWindow query.epoch query.current).slots,
        a ∈ node.attestationsAt slot}) :
    Recounted node clock query selection registry table records := by
  obtain ⟨table', found, ht', hf, hr⟩ := getElem?_participations h
  obtain rfl := ht.unique ht'
  have hfound := tells_of_inclusions hf hroots
  refine ⟨isSome_records hr, validator_of_records hr, fun hx => ?_, fun hx => ?_⟩
  · obtain ⟨seat, -, -, -, -, rfl⟩ := exists_seat_of_records hr hx
    exact Participation.effectiveBalance_recordAll
  · obtain ⟨seat, hmem, rfl, hfirst, hv, rfl⟩ := exists_seat_of_records hr hx
    exact recounts_recordAll hmem hfirst hv hfound

end EpochSurvey

end BeaconDuties
