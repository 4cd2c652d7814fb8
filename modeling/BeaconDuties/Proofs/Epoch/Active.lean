import BeaconDuties.Proofs.Epoch.Summary
import BeaconDuties.Proofs.Order

/-!
Whom the totals of an epoch are about.

The records of the active validators come in the order of their seats, one for each of them that has
a record (`EpochSurvey.mem_activeRecords`). The totals count those that meet a criterion and sum up
their balances, and the others are listed (`Criterion.outcome?_eq_some_iff`).
-/

namespace BeaconDuties

open Survey

/-! ## Sums -/

/-- The total of balances, however large. -/
def totalOf (balances : List Gwei) : Nat := (balances.map UInt64.toNat).sum

theorem totalOf_cons {balance : Gwei} {balances : List Gwei} :
    totalOf (balance :: balances) = balance.toNat + totalOf balances := by
  rw [totalOf, List.map_cons, List.sum_cons, totalOf]

theorem totalOf_perm {xs ys : List Gwei} (h : xs.Perm ys) : totalOf xs = totalOf ys :=
  (h.map _).sum_nat

theorem totalOf_append {xs ys : List Gwei} : totalOf (xs ++ ys) = totalOf xs + totalOf ys := by
  rw [totalOf, List.map_append, List.sum_append_nat, totalOf, totalOf]

theorem totalOf_sublist {xs ys : List Gwei} (h : xs.Sublist ys) : totalOf xs ≤ totalOf ys := by
  induction h with
  | slnil => exact Nat.le_refl _
  | cons y _ ih =>
    rw [totalOf_cons]
    omega
  | cons_cons x _ ih =>
    rw [totalOf_cons, totalOf_cons]
    omega

/-- A checked sum is that of the exact total. -/
theorem checkedSum_eq {balances : List Gwei} : checkedSum balances = fitted (totalOf balances) := by
  have hfold : ∀ {ns : List UInt64} {start : Nat},
      ns.foldl (fun total n => total + n.toNat) start = start + totalOf ns := by
    intro ns
    induction ns with
    | nil => exact fun {start} => (Nat.add_zero start).symm
    | cons n ns ih =>
      intro start
      rw [List.foldl_cons, ih, totalOf_cons, Nat.add_assoc]
  rw [checkedSum, hfold, Nat.zero_add]

/-- A sum is told if it fits in 64 bits. -/
theorem checkedSum_eq_some_iff {balances : List Gwei} {total : Gwei} :
    checkedSum balances = some total ↔ totalOf balances = total.toNat := by
  rw [checkedSum_eq, fitted_eq_some_iff]

theorem checkedSum_eq_none_iff {balances : List Gwei} :
    checkedSum balances = none ↔ UInt64.size ≤ totalOf balances := by
  rw [checkedSum_eq, fitted_eq_none_iff]

/-- A checked count is that of the exact total. -/
theorem checkedCount_eq {counts : List Nat} : checkedCount counts = fitted counts.sum := by
  rw [checkedCount, List.sum_eq_foldl]

theorem checkedCount_eq_some_iff {counts : List Nat} {total : UInt64} :
    checkedCount counts = some total ↔ counts.sum = total.toNat := by
  rw [checkedCount_eq, fitted_eq_some_iff]

theorem isSome_checkedCount {counts : List Nat} :
    (checkedCount counts).isSome ↔ counts.sum < UInt64.size := by
  rw [← Option.ne_none_iff_isSome, ne_eq, checkedCount_eq, fitted_eq_none_iff, Nat.not_le]

theorem Share.ofBalances?_eq_some_iff {balances : List Gwei} {share : Share} :
    Share.ofBalances? balances = some share ↔
      share.validators = balances.length ∧ share.balance.toNat = totalOf balances := by
  rw [Share.ofBalances?, Option.map_eq_some_iff]
  constructor
  · rintro ⟨total, ht, rfl⟩
    exact ⟨rfl, (checkedSum_eq_some_iff.1 ht).symm⟩
  · rintro ⟨hv, hb⟩
    refine ⟨share.balance, checkedSum_eq_some_iff.2 hb.symm, ?_⟩
    rw [← hv]

/-- Those who meet a criterion are counted with their balance, the others are listed. -/
theorem Criterion.outcome?_eq_some_iff {criterion : Criterion} {xs : List Participation}
    {outcome : Outcome} :
    criterion.outcome? xs = some outcome ↔
      outcome.met.validators = xs.countP criterion.isMet ∧
      outcome.met.balance.toNat = totalOf ((xs.filter criterion.isMet).map (·.effectiveBalance)) ∧
      outcome.lacking = xs.filter (!criterion.isMet ·) := by
  have hs : ∀ {met : Share}, Share.ofBalances? ((xs.filter criterion.isMet).map
      (·.effectiveBalance)) = some met ↔ met.validators = xs.countP criterion.isMet ∧
        met.balance.toNat = totalOf ((xs.filter criterion.isMet).map (·.effectiveBalance)) := by
    intro met
    rw [Share.ofBalances?_eq_some_iff, List.length_map, List.countP_eq_length_filter]
  rw [Criterion.outcome?, Option.bind_eq_bind, Option.bind_eq_some_iff]
  constructor
  · rintro ⟨met, hm, h⟩
    cases h
    exact ⟨(hs.1 hm).1, (hs.1 hm).2, rfl⟩
  · rintro ⟨hv, hb, hl⟩
    refine ⟨outcome.met, hs.2 ⟨hv, hb⟩, ?_⟩
    rw [← hl]
    rfl

theorem Share.isSome_ofBalances? {balances : List Gwei} :
    (Share.ofBalances? balances).isSome ↔ totalOf balances < UInt64.size := by
  rw [Share.ofBalances?, Option.isSome_map, ← Option.ne_none_iff_isSome, ne_eq,
    checkedSum_eq_none_iff, Nat.not_le]

theorem Criterion.isSome_outcome? {criterion : Criterion} {xs : List Participation} :
    (criterion.outcome? xs).isSome ↔
      totalOf ((xs.filter criterion.isMet).map (·.effectiveBalance)) < UInt64.size := by
  rw [← Share.isSome_ofBalances?, Criterion.outcome?]
  cases Share.ofBalances? ((xs.filter criterion.isMet).map (·.effectiveBalance)) <;> rfl

namespace EpochSurvey

variable {node : Answers} {clock : Clock} {limits : Limits} {query : Query} {selection : Selection}
  {due : List Proposal} {infos : List ValidatorInfo}
  {records : Std.ExtTreeMap ValidatorIndex Participation} {summary : EpochSummary}
  {v : ValidatorIndex}

theorem getElem?_registry : (registry selection infos)[v]? =
    (infos.filter (selection.contains ·.index)).reverse.find? (·.index = v) := by
  rw [registry]
  refine Maps.getElem?_foldl_insert.trans ?_
  simp

theorem of_getElem?_registry {x : ValidatorInfo} (h : (registry selection infos)[v]? = some x) :
    x.index = v ∧ x ∈ infos ∧ selection.contains v := by
  rw [getElem?_registry] at h
  have hi : x.index = v := by simpa using List.find?_some h
  have hm := List.mem_filter.1 (List.mem_reverse.1 (List.mem_of_find?_eq_some h))
  exact ⟨hi, hm.1, hi ▸ hm.2⟩

/-- Every selected validator is found by its index if no two validators share one. -/
theorem getElem?_registry_eq_some {x : ValidatorInfo} (hn : (infos.map (·.index)).Nodup) :
    (registry selection infos)[v]? = some x ↔ x ∈ infos ∧ x.index = v ∧ selection.contains v := by
  constructor
  · intro h
    obtain ⟨hi, hx, hc⟩ := of_getElem?_registry h
    exact ⟨hx, hi, hc⟩
  · rintro ⟨hx, hi, hc⟩
    have hs : (registry selection infos)[v]?.isSome := by
      rw [getElem?_registry, List.find?_isSome]
      exact ⟨x, List.mem_reverse.2 (List.mem_filter.2 ⟨hx, hi ▸ hc⟩), decide_eq_true hi⟩
    obtain ⟨y, hy⟩ := Option.isSome_iff_exists.1 hs
    obtain ⟨hi', hy', -⟩ := of_getElem?_registry hy
    rw [hy, List.inj_on_of_nodup_map hn hy' hx (hi'.trans hi.symm)]

theorem mem_active {x : ValidatorInfo} :
    x ∈ active query selection infos ↔
      (registry selection infos)[x.index]? = some x ∧ x.isActiveIn query.epoch := by
  rw [active, List.mem_filter, Maps.mem_values]
  refine and_congr_left fun _ => ⟨fun ⟨v, hv⟩ => ?_, fun h => ⟨_, h⟩⟩
  rwa [(of_getElem?_registry hv).1]

theorem nodup_active : ((active query selection infos).map (·.index)).Nodup := by
  have hk : (registry selection infos).values.map (·.index) = _ :=
    Maps.map_values fun h => (of_getElem?_registry h).1
  refine List.Nodup.sublist (List.filter_sublist.map _) ?_
  rw [hk]
  exact Std.ExtTreeMap.nodup_keys

theorem activeRecords_perm {infos : List ValidatorInfo} :
    (activeRecords infos records).Perm ((infos.map (·.index)).filterMap (records[·]?)) := by
  rw [List.filterMap_map]
  exact sortOn_perm

/-- All records count if they are those of active validators. -/
theorem activeRecords_perm_values
    (h : ∀ v, records[v]?.isSome → v ∈ (active query selection infos).map (·.index)) :
    (activeRecords (active query selection infos) records).Perm records.values :=
  activeRecords_perm.trans (Maps.values_perm_filterMap nodup_active h).symm

/-- The active validators that have a record, each once, in the order of their seats. -/
theorem mem_activeRecords {x : Participation}
    (hv : ∀ {v : ValidatorIndex} {x : Participation}, records[v]? = some x → x.validator = v) :
    x ∈ activeRecords (active query selection infos) records ↔
      records[x.validator]? = some x ∧
        x.validator ∈ (active query selection infos).map (·.index) := by
  rw [activeRecords_perm.mem_iff, List.mem_filterMap]
  constructor
  · rintro ⟨v, ha, hx⟩
    rw [hv hx]
    exact ⟨hx, ha⟩
  · rintro ⟨hx, ha⟩
    exact ⟨_, ha, hx⟩

theorem nodup_activeRecords
    (hv : ∀ {v : ValidatorIndex} {x : Participation}, records[v]? = some x → x.validator = v) :
    ((activeRecords (active query selection infos) records).map (·.validator)).Nodup := by
  rw [(activeRecords_perm.map _).nodup_iff, List.map_filterMap]
  refine nodup_active.filterMap fun v w i hi hj => ?_
  obtain ⟨x, hx, rfl⟩ := Option.map_eq_some_iff.1 hi
  obtain ⟨y, hy, he⟩ := Option.map_eq_some_iff.1 hj
  rw [← hv hx, ← hv hy, he]

theorem pairwise_activeRecords {infos : List ValidatorInfo} :
    (activeRecords infos records).Pairwise fun a b => (compare a.seat b.seat).isLE :=
  pairwise_sortOn

theorem of_outcome? {criterion : Criterion} {xs : List Participation} {outcome : Outcome}
    (h : criterion.outcome? xs = some outcome) :
    outcome.met.validators = xs.countP criterion.isMet ∧
      outcome.lacking = xs.filter (!criterion.isMet ·) := by
  obtain ⟨hv, -, hl⟩ := Criterion.outcome?_eq_some_iff.1 h
  exact ⟨hv, hl⟩

end EpochSurvey

end BeaconDuties
