import Mathlib.Algebra.GroupWithZero.Nat
import Mathlib.Data.List.Sort
import BeaconDuties.Proofs.Duty.Committee

/-!
How the bits of an attestation are laid out over committees.

An attestation names committees (`Attestation.Names`). Its bits cover the members of these
committees, one committee after another in ascending order, so that the bits of a committee begin
where all committees before it end. `CommitteeTable.OffsetLaw` says which members the set bits stand
for, and which fault is found if they stand for nobody.

The committees and the set bits are gone through one by one. Each of these scans stops at the first
fault (`CommitteeTable.covered_eq`, `CommitteeTable.pick_eq`). Where a committee begins follows from
the lengths of those before it (`CommitteeTable.getElem?_layout`).
-/

namespace BeaconDuties

/-- A list goes in ascending order through the numbers that have a property. -/
structure Enumerates (ns : List Nat) (P : Nat → Prop) : Prop where
  ascending : ns.Pairwise (· < ·)
  mem_iff : ∀ n, n ∈ ns ↔ P n

theorem Enumerates.unique {P : Nat → Prop} {ms ns : List Nat} (hm : Enumerates ms P)
    (hn : Enumerates ns P) : ms = ns :=
  hm.ascending.eq_of_mem_iff hn.ascending fun n => (hm.mem_iff n).trans (hn.mem_iff n).symm

/-- The first number that is found in an ascending list is the least one to be found. -/
theorem find?_eq_some_of_ascending {ns : List Nat} (hns : ns.Pairwise (· < ·)) {p : Nat → Bool}
    {n : Nat} (hn : n ∈ ns) (hp : p n) (hleast : ∀ m ∈ ns, m < n → ¬ p m) :
    ns.find? p = some n := by
  obtain ⟨before, after, rfl⟩ := List.append_of_mem hn
  refine List.find?_eq_some_iff_append.2 ⟨hp, before, after, rfl, fun m hm => ?_⟩
  have hlt := (List.pairwise_append.1 hns).2.2 m hm n List.mem_cons_self
  simpa using hleast m (List.mem_append_left _ hm) hlt

/-- If a list has a value for each of its members, the values are in the places of the members. -/
theorem getElem?_filterMap {α : Type} {f : Nat → Option α} :
    ∀ {ps : List Nat}, (∀ p ∈ ps, (f p).isSome) → ∀ i : Nat,
      (ps.filterMap f)[i]? = ps[i]?.bind f
  | [], _, i => by simp
  | p :: ps, h, i => by
    obtain ⟨hp, hps⟩ := List.forall_mem_cons.1 h
    obtain ⟨a, ha⟩ := Option.isSome_iff_exists.1 hp
    rw [List.filterMap_cons_some ha]
    cases i with
    | zero => simp [ha]
    | succ i => simpa using getElem?_filterMap hps i

/-! ## Set bits -/

namespace Bits

theorem mem_onesFrom : ∀ {bits : List Bool} {start position : Nat},
    position ∈ onesFrom start bits ↔ ∃ i, bits[i]? = some true ∧ position = start + i
  | [], start, position => by simp [onesFrom]
  | bit :: bits, start, position => by
    have hrest := @mem_onesFrom bits (start + 1) position
    have hcons : (∃ i, (bit :: bits)[i]? = some true ∧ position = start + i) ↔
        (bit = true ∧ position = start) ∨
          ∃ i, bits[i]? = some true ∧ position = start + 1 + i := by
      constructor
      · rintro ⟨_ | i, hi, rfl⟩
        · exact .inl ⟨by simpa using hi, rfl⟩
        · exact .inr ⟨i, by simpa using hi, by omega⟩
      · rintro (⟨rfl, rfl⟩ | ⟨i, hi, rfl⟩)
        · exact ⟨0, rfl, rfl⟩
        · exact ⟨i + 1, by simpa using hi, by omega⟩
    rw [hcons]
    cases bit <;> simp [onesFrom, hrest]

theorem le_of_mem_onesFrom {bits : List Bool} {start position : Nat}
    (h : position ∈ onesFrom start bits) : start ≤ position := by
  obtain ⟨i, -, rfl⟩ := mem_onesFrom.1 h
  omega

theorem pairwise_onesFrom : ∀ {bits : List Bool} {start : Nat},
    (onesFrom start bits).Pairwise (· < ·)
  | [], _ => .nil
  | true :: bits, start => by
    rw [onesFrom, List.pairwise_cons]
    exact ⟨fun _ h => le_of_mem_onesFrom h, pairwise_onesFrom⟩
  | false :: bits, start => by
    rw [onesFrom]
    exact pairwise_onesFrom

theorem enumerates_ones {bits : List Bool} : Enumerates (ones bits) (bits[·]? = some true) := by
  refine ⟨pairwise_onesFrom, fun n => ?_⟩
  simp [ones, mem_onesFrom]

end Bits

namespace Attestation

/-- An attestation names the committee with this place among those of its slot. -/
def Names : Attestation → Nat → Prop
  | single x, n => n = x.data.index.toNat
  | joint x, n => x.committeeBits.bits[n]? = some true

/-- The bit for this position is set. -/
def HasBit (x : Attestation) (position : Nat) : Prop := x.bits.bits[position]? = some true

theorem enumerates_ones {x : Attestation} : Enumerates x.bits.ones x.HasBit := Bits.enumerates_ones

theorem committeeIndices_eq {x : Attestation} {named : List Nat} (h : Enumerates named x.Names) :
    x.committeeIndices = named.map UInt64.ofNat := by
  cases x with
  | single x =>
    have hsingle : Enumerates [x.data.index.toNat] (single x).Names := by
      refine ⟨List.pairwise_singleton _ _, fun n => ?_⟩
      simp [Names]
    rw [h.unique hsingle]
    simp [committeeIndices]
  | joint x =>
    have hjoint : Enumerates x.committeeBits.ones (joint x).Names := Bits.enumerates_ones
    rw [h.unique hjoint]
    rfl

end Attestation

namespace CommitteeTable

variable {table : CommitteeTable} {slot : Slot}

/-! ## What is covered -/

/-- The validators of the committee with a place among those of its slot; none if there is no such
    committee. -/
def committee (table : CommitteeTable) (slot : Slot) (n : Nat) : List ValidatorIndex :=
  (table.get? slot (UInt64.ofNat n)).getD []

/-- There is a committee with this place. -/
def Has (table : CommitteeTable) (slot : Slot) (n : Nat) : Prop :=
  (table.get? slot (UInt64.ofNat n)).isSome

/-- How many validators the committees have together. -/
def size (table : CommitteeTable) (slot : Slot) (ns : List Nat) : Nat :=
  (ns.map fun n => (table.committee slot n).length).sum

/-- The members of the committees, one committee after another. -/
def layout (table : CommitteeTable) (slot : Slot) (ns : List Nat) : List Member :=
  ns.flatMap fun n => (table.committee slot n).map (Member.mk (UInt64.ofNat n))

theorem length_layout {ns : List Nat} : (table.layout slot ns).length = table.size slot ns := by
  simp [layout, size, List.length_flatMap]

/-- The bits of a committee begin where those of all committees before it end. -/
theorem getElem?_layout {before after : List Nat} {n k : Nat}
    (hk : k < (table.committee slot n).length) :
    (table.layout slot (before ++ n :: after))[table.size slot before + k]? =
      (table.committee slot n)[k]?.map (Member.mk (UInt64.ofNat n)) := by
  have hsplit : table.layout slot (before ++ n :: after) = table.layout slot before ++
      ((table.committee slot n).map (Member.mk (UInt64.ofNat n)) ++ table.layout slot after) := by
    simp [layout]
  rw [hsplit, ← length_layout, List.getElem?_append_right (by omega), Nat.add_sub_cancel_left,
    List.getElem?_append_left (by simpa using hk), List.getElem?_map]

/-- Each position before the end of the members belongs to one of the committees. -/
theorem exists_of_lt_size : ∀ {ns : List Nat} {p : Nat}, p < table.size slot ns →
    ∃ before n after k, ns = before ++ n :: after ∧ k < (table.committee slot n).length ∧
      p = table.size slot before + k
  | [], p, h => by simp [size] at h
  | n :: ns, p, h => by
    by_cases hp : p < (table.committee slot n).length
    · exact ⟨[], n, ns, p, rfl, hp, by simp [size]⟩
    · have hrest : p - (table.committee slot n).length < table.size slot ns := by
        simp only [size, List.map_cons, List.sum_cons] at h ⊢
        omega
      obtain ⟨before, m, after, k, rfl, hk, hsum⟩ := exists_of_lt_size hrest
      refine ⟨n :: before, m, after, k, rfl, hk, ?_⟩
      simp only [size, List.map_cons, List.sum_cons] at hsum ⊢
      omega

/-- The members of all named committees are gathered, or the first committee that is missing is
    reported. -/
theorem covered_eq : ∀ {ns : List Nat}, table.covered slot (ns.map UInt64.ofNat) =
    match ns.find? fun n => (table.get? slot (UInt64.ofNat n)).isNone with
    | some n => .error (.unknownCommittee slot (UInt64.ofNat n))
    | none => .ok (table.layout slot ns)
  | [] => rfl
  | n :: ns => by
    have hrest := @covered_eq ns
    rw [List.map_cons, covered, List.find?_cons, hrest]
    cases hn : table.get? slot (UInt64.ofNat n) with
    | none => rfl
    | some validators =>
      have hlayout : table.layout slot (n :: ns) =
          validators.map (Member.mk (UInt64.ofNat n)) ++ table.layout slot ns := by
        simp [layout, committee, hn]
      rw [hlayout, Option.isNone_some]
      cases ns.find? fun n => (table.get? slot (UInt64.ofNat n)).isNone <;> rfl

/-- The members at all positions are picked, or the first position without a member is reported. -/
theorem pick_eq {members : Array Member} : ∀ {positions : List Nat},
    pick slot members positions =
      match positions.find? (members.size ≤ ·) with
      | some position => .error (.bitOutOfRange slot position members.size)
      | none => .ok (positions.filterMap (members[·]?))
  | [] => rfl
  | position :: positions => by
    have hrest := @pick_eq members positions
    rw [pick, List.find?_cons, hrest]
    by_cases hsize : members.size ≤ position
    · simp [hsize]
    · rw [Array.getElem?_eq_getElem (Nat.lt_of_not_le hsize)]
      simp only [hsize, decide_false]
      cases positions.find? (members.size ≤ ·) with
      | some other => rfl
      | none => simp [Nat.lt_of_not_le hsize, bind, Except.bind, pure, Except.pure]

/-- The first missing committee is reported, or else the first bit without a member, or else each
    bit stands for a member. -/
theorem attesting_eq {x : Attestation} {named : List Nat} (h : Enumerates named x.Names) :
    table.attesting x =
      match named.find? fun n => (table.get? x.data.slot (UInt64.ofNat n)).isNone with
      | some n => .error (.unknownCommittee x.data.slot (UInt64.ofNat n))
      | none =>
        match x.bits.ones.find? (table.size x.data.slot named ≤ ·) with
        | some p => .error (.bitOutOfRange x.data.slot p (table.size x.data.slot named))
        | none => .ok (x.bits.ones.filterMap ((table.layout x.data.slot named)[·]?)) := by
  rw [attesting, Attestation.committeeIndices_eq h, covered_eq]
  cases named.find? fun n => (table.get? x.data.slot (UInt64.ofNat n)).isNone with
  | some n => rfl
  | none =>
    refine pick_eq.trans ?_
    simp only [List.size_toArray, length_layout, List.getElem?_toArray]

/-- Some named committee is missing unless all of them exist. -/
theorem find?_isNone_eq_none {named : List Nat} :
    (named.find? fun n => (table.get? slot (UInt64.ofNat n)).isNone) = none ↔
      ∀ n ∈ named, table.Has slot n := by
  simp [Has, Option.isSome_iff_ne_none]

theorem attesting_eq_ok {x : Attestation} {named : List Nat} (h : Enumerates named x.Names)
    {members : List Member} :
    table.attesting x = .ok members ↔
      (∀ n ∈ named, table.Has x.data.slot n) ∧
        (∀ p ∈ x.bits.ones, p < table.size x.data.slot named) ∧
        x.bits.ones.filterMap ((table.layout x.data.slot named)[·]?) = members := by
  rw [attesting_eq h, ← find?_isNone_eq_none]
  cases named.find? fun n => (table.get? x.data.slot (UInt64.ofNat n)).isNone with
  | some n => simp
  | none =>
    have hlow : x.bits.ones.find? (table.size x.data.slot named ≤ ·) = none ↔
        ∀ p ∈ x.bits.ones, p < table.size x.data.slot named := by
      simp
    rw [← hlow]
    cases x.bits.ones.find? (table.size x.data.slot named ≤ ·) <;> simp

/-! ## The law -/

/-- What the attesting members are, for an attestation that names these committees and has these
    bits set. -/
structure OffsetLaw (table : CommitteeTable) (x : Attestation) (named set : List Nat) : Prop where
  /-- The bits are decoded just if all named committees exist, and no set bit lies after the last
      member of these. -/
  succeeds : (∃ members, table.attesting x = .ok members) ↔
    (∀ n ∈ named, table.Has x.data.slot n) ∧ ∀ p ∈ set, p < table.size x.data.slot named
  /-- There is one member for each set bit, in the order of the bits. -/
  length_eq : ∀ members, table.attesting x = .ok members → members.length = set.length
  /-- The bit that lies `k` after the beginning of a committee stands for the validator with place
      `k` in this committee. -/
  member : ∀ members, table.attesting x = .ok members → ∀ before n after k,
    named = before ++ n :: after → k < (table.committee x.data.slot n).length →
    ∀ i : Nat, set[i]? = some (table.size x.data.slot before + k) →
      members[i]? = (table.committee x.data.slot n)[k]?.map (Member.mk (UInt64.ofNat n))
  /-- Each bit that is decoded lies in such a committee. -/
  placed : ∀ members, table.attesting x = .ok members → ∀ p ∈ set, ∃ before n after k,
    named = before ++ n :: after ∧ k < (table.committee x.data.slot n).length ∧
      p = table.size x.data.slot before + k
  /-- The first missing committee is reported, whatever the bits are. -/
  missing : ∀ n ∈ named, ¬ table.Has x.data.slot n →
    (∀ m ∈ named, m < n → table.Has x.data.slot m) →
    table.attesting x = .error (.unknownCommittee x.data.slot (UInt64.ofNat n))
  /-- If no committee is missing, the first bit after the last member is reported. -/
  outside : (∀ n ∈ named, table.Has x.data.slot n) →
    ∀ p ∈ set, table.size x.data.slot named ≤ p →
    (∀ q ∈ set, q < p → q < table.size x.data.slot named) →
    table.attesting x =
      .error (.bitOutOfRange x.data.slot p (table.size x.data.slot named))

/-- **The bits of an attestation stand for the members of its committees, one committee after
    another; the first committee that is missing or else the first bit without a member is
    reported.** -/
theorem offsetLaw_attesting {x : Attestation} {named set : List Nat}
    (hnamed : Enumerates named x.Names) (hset : Enumerates set x.HasBit) :
    table.OffsetLaw x named set := by
  obtain rfl : set = x.bits.ones := hset.unique Attestation.enumerates_ones
  refine ⟨?_, ?_, ?_, ?_, ?_, ?_⟩
  · simp only [attesting_eq_ok hnamed, exists_and_left, exists_eq', and_true]
  · intro members hm
    rw [length_of_attesting hm]
    exact Bits.length_onesFrom.symm
  · intro members hm before n after k hsplit hk i hi
    obtain ⟨-, hlow, rfl⟩ := (attesting_eq_ok hnamed).1 hm
    have hsome : ∀ p ∈ x.bits.ones, ((table.layout x.data.slot named)[p]?).isSome := by
      intro p hp
      simpa [length_layout] using hlow p hp
    rw [getElem?_filterMap hsome, hi, Option.bind_some, hsplit, getElem?_layout hk]
  · intro members hm p hp
    obtain ⟨-, hlow, -⟩ := (attesting_eq_ok hnamed).1 hm
    exact exists_of_lt_size (hlow p hp)
  · intro n hn hmissing hleast
    have hfind := find?_eq_some_of_ascending hnamed.ascending hn
      (p := fun n => (table.get? x.data.slot (UInt64.ofNat n)).isNone)
      (by simpa [Has] using hmissing)
      (fun m hm hlt => by simpa [Has, Option.isSome_iff_ne_none] using hleast m hm hlt)
    rw [attesting_eq hnamed, hfind]
  · intro hhas p hp hge hleast
    have hfind := find?_eq_some_of_ascending hset.ascending hp
      (p := (table.size x.data.slot named ≤ ·)) (by simpa using hge)
      (fun q hq hlt => by simpa using hleast q hq hlt)
    rw [attesting_eq hnamed, find?_isNone_eq_none.2 hhas]
    dsimp only
    rw [hfind]

/-- Committees with two, no and three members in slot 8. -/
def uneven : CommitteeTable := .ofList [⟨0, 8, [11, 12]⟩, ⟨2, 8, []⟩, ⟨5, 8, [21, 22, 23]⟩]

/-- An attestation of slot 8 that names the committees 0, 2 and 5, by the bits 1, 2 and 4. -/
def acrossBorders : Attestation :=
  .joint ⟨⟨[false, true, true, false, true]⟩,
    ⟨8, 0, .zero 32, ⟨0, .zero 32⟩, ⟨0, .zero 32⟩⟩, .zero 96,
    ⟨[true, false, true, false, false, true, false, false]⟩⟩

/-- The bit after the last member of the first committee stands for the first member of the third
    one, as the second one has no members. -/
theorem offsetLaw_acrossBorders :
    Enumerates [0, 2, 5] acrossBorders.Names ∧ Enumerates [1, 2, 4] acrossBorders.HasBit ∧
    uneven.OffsetLaw acrossBorders [0, 2, 5] [1, 2, 4] ∧
    uneven.attesting acrossBorders = .ok [⟨0, 12⟩, ⟨5, 21⟩, ⟨5, 23⟩] := by
  have hnamed : Enumerates [0, 2, 5] acrossBorders.Names :=
    @Bits.enumerates_ones [true, false, true, false, false, true, false, false]
  have hset : Enumerates [1, 2, 4] acrossBorders.HasBit :=
    @Attestation.enumerates_ones acrossBorders
  exact ⟨hnamed, hset, offsetLaw_attesting hnamed hset, by decide⟩

end CommitteeTable

end BeaconDuties
