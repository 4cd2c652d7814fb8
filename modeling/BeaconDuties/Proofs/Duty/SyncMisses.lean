import BeaconDuties.Proofs.Duty.SyncTally

/-!
What a tally of a sync committee tells of the blocks that it was offered.

A `SyncRecord` is a block as a tally sees it: its slot and its bits. A tally takes a record that
fits its committee and is not changed by any other (`SyncTally.offer`). It keeps one slot for each
seat without a set bit (`SyncTally.Holds`), so that in the end all of these bits are accounted for,
entry by entry (`SyncTally.accounts_of_records`).
-/

namespace BeaconDuties

/-- The slot of a block and the bits of its sync aggregate. -/
structure SyncRecord where
  slot : Slot
  bits : BitVector
deriving DecidableEq

namespace SyncRecord

/-- There is a bit for each seat of a committee. -/
def fits (members : List ValidatorIndex) (record : SyncRecord) : Bool :=
  record.bits.length = members.length

/-- The seats of a committee with their bits. -/
def seats (members : List ValidatorIndex) (record : SyncRecord) : List (ValidatorIndex × Bool) :=
  members.zip record.bits.bits

/-- How many seats of a validator have no set bit. -/
def unset (members : List ValidatorIndex) (validator : ValidatorIndex) (record : SyncRecord) : Nat :=
  (record.seats members).count (validator, false)

/-- The slots of some records, once for each seat of a validator without a set bit. -/
def missedBy (members : List ValidatorIndex) (validator : ValidatorIndex)
    (records : List SyncRecord) : List Slot :=
  records.flatMap fun record => .replicate (record.unset members validator) record.slot

variable {members : List ValidatorIndex} {validator : ValidatorIndex} {record : SyncRecord}
  {records : List SyncRecord}

theorem missedBy_append_singleton :
    missedBy members validator (records ++ [record]) =
      missedBy members validator records ++ .replicate (record.unset members validator) record.slot := by
  rw [missedBy, List.flatMap_append, List.flatMap_singleton, missedBy]

theorem missedBy_ne_nil_iff :
    missedBy members validator records ≠ [] ↔
      ∃ record ∈ records, (validator, false) ∈ record.seats members := by
  rw [missedBy, Ne, List.flatMap_eq_nil_iff]
  simp [unset, List.replicate_eq_nil_iff, List.count_eq_zero]

/-- There is a missed slot for each bit that is not set. -/
theorem length_missedBy :
    (missedBy members validator records).length =
      (records.flatMap (·.seats members)).count (validator, false) := by
  rw [missedBy, List.length_flatMap, List.count_flatMap]
  simp [unset, Function.comp_def]

end SyncRecord

namespace SyncTally

open SyncRecord

variable {members : List ValidatorIndex} {selected : ValidatorIndex → Bool} {slot : Slot}
  {tally : SyncTally} {record : SyncRecord} {records : List SyncRecord} {v : ValidatorIndex}

/-! ## One record -/

/-- The tally after a record is offered, whether it is taken or not. -/
def offer (selected : ValidatorIndex → Bool) (tally : SyncTally) (record : SyncRecord) : SyncTally :=
  (tally.record record.slot record.bits selected).toOption.getD tally

theorem record_of_fits (h : record.fits tally.members) :
    tally.record record.slot record.bits selected = .ok (tally.offer selected record) := by
  rw [offer, SyncTally.record, if_pos (of_decide_eq_true h)]
  rfl

/-- A record that does not fit is refused, and the tally stays as it is. -/
theorem record_of_not_fits (h : ¬ record.fits tally.members) :
    tally.record record.slot record.bits selected =
        .error (.sizeMismatch record.bits.length tally.members.length) ∧
      tally.offer selected record = tally := by
  have hlength : ¬ record.bits.length = tally.members.length := fun hl => h (decide_eq_true hl)
  rw [offer, SyncTally.record, if_neg hlength]
  exact ⟨rfl, rfl⟩

/-- A record that is taken fits. -/
theorem record_eq_ok {after : SyncTally}
    (h : tally.record record.slot record.bits selected = .ok after) :
    record.fits tally.members ∧ after = tally.offer selected record := by
  by_cases hfits : record.fits tally.members
  · rw [record_of_fits hfits] at h
    exact ⟨hfits, (Except.ok.inj h).symm⟩
  · rw [(record_of_not_fits hfits).1] at h
    cases h

theorem members_offer : (tally.offer selected record).members = tally.members := by
  rw [offer, SyncTally.record]
  split <;> rfl

theorem getElem?_miss : ∀ {validators : List ValidatorIndex}
    {missed : Std.ExtTreeMap ValidatorIndex (List Slot)}, (miss missed slot validators)[v]? =
      if v ∈ validators then some (missed[v]?.getD [] ++ .replicate (validators.count v) slot)
      else missed[v]?
  | [], missed => by simp [miss]
  | w :: validators, missed => by
    rw [miss_cons, getElem?_miss, Std.ExtTreeMap.getElem?_alter]
    simp only [Std.compare_eq_iff_eq, List.mem_cons]
    by_cases hw : w = v
    · subst hw
      by_cases hv : w ∈ validators
      · simp [hv, List.replicate_succ]
      · simp [hv, List.count_eq_zero.2 hv]
    · by_cases hv : v ∈ validators <;> simp [hw, hv, Ne.symm hw]

theorem count_absent :
    (absent members record.bits.bits selected).count v =
      if selected v then record.unset members v else 0 := by
  rw [absent, List.count_eq_countP, List.countP_map, List.countP_filter, unset, seats,
    List.count_eq_countP]
  by_cases hv : selected v
  · rw [if_pos hv]
    refine List.countP_congr fun seat _ => ?_
    obtain ⟨w, signed⟩ := seat
    by_cases hw : w = v
    · subst hw
      simp [hv]
    · simp [hw]
  · rw [if_neg hv, List.countP_eq_zero]
    rintro ⟨w, signed⟩ - h
    obtain ⟨rfl, -, hw⟩ : w = v ∧ signed = false ∧ selected w := by simpa using h
    exact hv hw

/-! ## Many records -/

/-- A tally holds the slots that the selected validators have missed by some records, and nothing
    else. -/
structure Holds (members : List ValidatorIndex) (selected : ValidatorIndex → Bool)
    (records : List SyncRecord) (tally : SyncTally) : Prop where
  committee : tally.members = members
  missed : ∀ v slots, tally.missed[v]? = some slots ↔
    selected v ∧ slots = missedBy members v records ∧ slots ≠ []

theorem holds_start : Holds members selected [] (start members) where
  committee := rfl
  missed := fun v slots => by
    simp only [start, Std.ExtTreeMap.getElem?_empty, missedBy, List.flatMap_nil]
    constructor
    · intro h
      cases h
    · exact fun h => absurd h.2.1 h.2.2

/-- What a tally holds for a validator, if it is not held to be nothing. -/
theorem Holds.getD_getElem? (h : Holds members selected records tally) (hv : selected v) :
    tally.missed[v]?.getD [] = missedBy members v records := by
  cases hslots : tally.missed[v]? with
  | some slots => exact ((h.missed v slots).1 hslots).2.1
  | none =>
    by_contra hne
    rw [(h.missed v _).2 ⟨hv, rfl, Ne.symm hne⟩] at hslots
    cases hslots

/-- One more record is held if it fits. -/
theorem Holds.offer (h : Holds members selected records tally) (hfits : record.fits members) :
    Holds members selected (records ++ [record]) (tally.offer selected record) := by
  obtain rfl := h.committee
  have hoffer : tally.offer selected record = { tally with
      missed := miss tally.missed record.slot (absent tally.members record.bits.bits selected) } := by
    rw [SyncTally.offer, SyncTally.record, if_pos (of_decide_eq_true hfits)]
    rfl
  refine ⟨by rw [hoffer], fun v slots => ?_⟩
  rw [hoffer]
  dsimp only
  rw [getElem?_miss, missedBy_append_singleton]
  simp only [← List.count_pos_iff, count_absent]
  by_cases hv : selected v
  · simp only [hv, if_true, true_and, h.getD_getElem? hv]
    by_cases hpos : 0 < record.unset tally.members v
    · rw [if_pos hpos, Option.some_inj]
      refine ⟨fun hs => ⟨hs.symm, ?_⟩, fun hs => hs.1.symm⟩
      rw [← hs]
      exact List.append_ne_nil_of_right_ne_nil _ (List.ne_nil_of_length_pos (by simpa using hpos))
    · rw [if_neg hpos, h.missed, Nat.eq_zero_of_not_pos hpos, List.replicate_zero, List.append_nil,
        and_iff_right hv]
  · simp [hv, h.missed]

/-- The tally after some records are offered one after another. -/
def offerAll (selected : ValidatorIndex → Bool) (tally : SyncTally) (records : List SyncRecord) :
    SyncTally :=
  records.foldl (offer selected) tally

/-- Of the records that are offered, those that fit are held. -/
theorem Holds.offerAll : ∀ {offered records : List SyncRecord} {tally : SyncTally},
    Holds members selected records tally →
      Holds members selected (records ++ offered.filter (·.fits members))
        (tally.offerAll selected offered)
  | [], records, tally, h => by rwa [List.filter_nil, List.append_nil]
  | record :: offered, records, tally, h => by
    rw [SyncTally.offerAll, List.foldl_cons, List.filter_cons]
    by_cases hfits : record.fits members
    · rw [if_pos hfits, ← List.singleton_append, ← List.append_assoc]
      exact (h.offer hfits).offerAll
    · rw [if_neg hfits, (record_of_not_fits (h.committee.symm ▸ hfits)).2]
      exact h.offerAll

/-! ## Entries -/

/-- Entries account for the misses of the selected validators by some records. -/
structure Accounts (members : List ValidatorIndex) (selected : ValidatorIndex → Bool)
    (records : List SyncRecord) (entries : List SyncMisses) : Prop where
  /-- There is an entry for each selected validator with a seat whose bit is not set. -/
  mem_iff : ∀ v, v ∈ entries.map (·.validator) ↔
    selected v ∧ ∃ record ∈ records, (v, false) ∈ record.seats members
  nodup : (entries.map (·.validator)).Nodup
  /-- It lists the slots of the records in their order, each of them once for each such seat. -/
  slots : ∀ x ∈ entries, x.slots = missedBy members x.validator records
  missed : ∀ x ∈ entries, x.missed = x.slots.length
  /-- All bits of selected validators that are not set are accounted for. -/
  total : (entries.map (·.missed)).sum =
    (records.flatMap (·.seats members)).countP fun seat => selected seat.1 && !seat.2
  /-- Most misses come first, and equally many in the order of the indices. -/
  ordered : entries.Pairwise fun x y =>
    y.missed < x.missed ∨ x.missed = y.missed ∧ x.validator < y.validator

theorem Holds.mem_finish (h : Holds members selected records tally) {x : SyncMisses} :
    x ∈ tally.finish ↔ selected x.validator ∧ x.slots = missedBy members x.validator records ∧
      x.slots ≠ [] ∧ x.missed = x.slots.length := by
  rw [finish, sortOn_perm.mem_iff, List.mem_map]
  constructor
  · rintro ⟨⟨v, slots⟩, hentry, rfl⟩
    obtain ⟨hv, hslots, hne⟩ :=
      (h.missed v slots).1 (Std.ExtTreeMap.mem_toList_iff_getElem?_eq_some.1 hentry)
    exact ⟨hv, hslots, hne, rfl⟩
  · obtain ⟨v, missed, slots⟩ := x
    rintro ⟨hv, hslots, hne, hmissed⟩
    obtain rfl : missed = slots.length := hmissed
    have hentry := (h.missed v slots).2 ⟨hv, hslots, hne⟩
    exact ⟨(v, slots), Std.ExtTreeMap.mem_toList_iff_getElem?_eq_some.2 hentry, rfl⟩

theorem nodup_finish : (tally.finish.map (·.validator)).Nodup := by
  rw [finish, (sortOn_perm.map _).nodup_iff, List.map_map]
  exact Std.ExtTreeMap.map_fst_toList_eq_keys (t := tally.missed) ▸ Std.ExtTreeMap.nodup_keys

theorem ordered_finish : tally.finish.Pairwise fun x y =>
    y.missed < x.missed ∨ x.missed = y.missed ∧ x.validator < y.validator := by
  have hentries : (tally.missed.toList.map fun entry =>
      SyncMisses.ofSlots entry.1 entry.2).Pairwise fun x y => x.validator < y.validator := by
    have hkeys : tally.missed.keys.Pairwise fun v w => compare v w = .lt :=
      Std.ExtTreeMap.ordered_keys
    rw [← Std.ExtTreeMap.map_fst_toList_eq_keys, List.pairwise_map] at hkeys
    exact List.pairwise_map.2 (hkeys.imp Std.compare_eq_lt.1)
  refine (pairwise_sortOn_of_pairwise hentries).imp fun {x y} h => ?_
  rw [Std.compare_eq_lt] at h
  obtain hlt | ⟨heq, hlt⟩ := h
  · exact .inl (by omega)
  · exact .inr ⟨by omega, hlt⟩

/-- Who is missed in a seat, given its bit. -/
def missedIn (selected : ValidatorIndex → Bool) : ValidatorIndex × Bool → Option ValidatorIndex
  | (_, true) => none
  | (v, false) => if selected v then some v else none

theorem missedIn_eq_some : ∀ {seat : ValidatorIndex × Bool},
    missedIn selected seat = some v ↔ selected v ∧ seat = (v, false)
  | (_, true) => by simp [missedIn]
  | (w, false) => by
    simp only [missedIn, Option.ite_none_right_eq_some, Option.some_inj, Prod.mk.injEq, and_true]
    exact ⟨fun h => ⟨h.2 ▸ h.1, h.2⟩, fun h => ⟨h.2 ▸ h.1, h.2⟩⟩

theorem isSome_missedIn : ∀ {seat : ValidatorIndex × Bool},
    (missedIn selected seat).isSome = (selected seat.1 && !seat.2)
  | (_, true) => by simp [missedIn]
  | (w, false) => by by_cases h : selected w <;> simp [missedIn, h]

/-- There is an entry for each selected validator that has missed a slot. -/
theorem Holds.mem_map_finish (h : Holds members selected records tally) :
    v ∈ tally.finish.map (·.validator) ↔ selected v ∧ missedBy members v records ≠ [] := by
  rw [List.mem_map]
  constructor
  · rintro ⟨x, hx, rfl⟩
    obtain ⟨hv, hslots, hne, -⟩ := h.mem_finish.1 hx
    exact ⟨hv, hslots ▸ hne⟩
  · rintro ⟨hv, hne⟩
    exact ⟨.ofSlots v (missedBy members v records), h.mem_finish.2 ⟨hv, rfl, hne, rfl⟩, rfl⟩

/-- Each bit that is not set counts for one entry, that of the validator who is missed. -/
theorem Holds.sum_finish (h : Holds members selected records tally) :
    (tally.finish.map (·.missed)).sum =
      (records.flatMap (·.seats members)).countP fun seat => selected seat.1 && !seat.2 := by
  have hmissed : ∀ x ∈ tally.finish, x.missed =
      (records.flatMap (·.seats members)).countP (missedIn selected · = some x.validator) := by
    intro x hx
    obtain ⟨hv, hslots, -, hmissed⟩ := h.mem_finish.1 hx
    rw [hmissed, hslots, length_missedBy, List.count_eq_countP]
    refine List.countP_congr fun seat _ => ?_
    simp [missedIn_eq_some, hv]
  have hlisted : ∀ seat ∈ records.flatMap (·.seats members), ∀ v,
      missedIn selected seat = some v → v ∈ tally.finish.map (·.validator) := by
    intro seat hseat v hv
    obtain ⟨hselected, rfl⟩ := missedIn_eq_some.1 hv
    rw [h.mem_map_finish, missedBy_ne_nil_iff]
    exact ⟨hselected, List.mem_flatMap.1 hseat⟩
  have hsum := Lists.sum_countP nodup_finish hlisted
  rw [List.map_map] at hsum
  rw [List.map_congr_left hmissed]
  exact hsum.trans (List.countP_congr fun seat _ => by rw [isSome_missedIn])

theorem Holds.accounts (h : Holds members selected records tally) :
    Accounts members selected records tally.finish where
  mem_iff v := by rw [h.mem_map_finish, missedBy_ne_nil_iff]
  nodup := nodup_finish
  slots _ hx := (h.mem_finish.1 hx).2.1
  missed _ hx := (h.mem_finish.1 hx).2.2.2
  total := h.sum_finish
  ordered := ordered_finish

/-- What a tally does with records that are offered to it, and what it tells in the end. -/
structure Tallies (members : List ValidatorIndex) (selected : ValidatorIndex → Bool)
    (records : List SyncRecord) : Prop where
  /-- A record without one bit for each seat is refused, and the tally stays as it is. -/
  refused : ∀ before record later, records = before ++ record :: later → ¬ record.fits members →
    let tally := (start members).offerAll selected before
    tally.record record.slot record.bits selected =
        .error (.sizeMismatch record.bits.length members.length) ∧
      tally.offer selected record = tally
  /-- Any other record is taken. -/
  taken : ∀ before record later, records = before ++ record :: later → record.fits members →
    let tally := (start members).offerAll selected before
    tally.record record.slot record.bits selected = .ok (tally.offer selected record)
  /-- The entries account for the records that are taken. -/
  accounts : Accounts members selected (records.filter (·.fits members))
    ((start members).offerAll selected records).finish

/-- Any records are tallied, in any order. -/
theorem tallies_of_records (members : List ValidatorIndex) (selected : ValidatorIndex → Bool)
    (records : List SyncRecord) : Tallies members selected records := by
  have hmembers : ∀ before, ((start members).offerAll selected before).members = members :=
    fun before => (@Holds.offerAll _ selected before _ _ holds_start).committee
  refine ⟨fun before record later _ hfits => ?_, fun before record later _ hfits => ?_,
    (@Holds.offerAll _ _ records _ _ holds_start).accounts⟩
  · have hrefused := @record_of_not_fits selected _ _ ((hmembers before).symm ▸ hfits)
    rwa [hmembers before] at hrefused
  · exact record_of_fits ((hmembers before).symm ▸ hfits)

end SyncTally

end BeaconDuties
