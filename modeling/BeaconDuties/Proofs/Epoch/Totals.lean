import BeaconDuties.Proofs.Epoch.Active
import BeaconDuties.Proofs.Epoch.Summary

/-!
How the totals of an epoch add up.

The totals are about the selected validators that are active in the epoch and have a seat
(`EpochSurvey.seated`). For each criterion they are divided into those who meet it and those who
are listed, and so are their balances. Some criteria imply others (`Criterion.Implies`): of each
record this is told by the votes that were added to it (`EpochSurvey.isMet_of_implies`), and the
totals and lists follow (`EpochSurvey.accounts_of_run`).
-/

namespace BeaconDuties

open Survey

variable {node : Answers} {clock : Clock} {limits : Limits}

/-! ## Seats in order -/

namespace Seat

/-- A seat comes before another: by slot, then by committee, then by validator. -/
def Before (x y : Seat) : Prop :=
  x.slot < y.slot ∨ x.slot = y.slot ∧
    (x.committee < y.committee ∨ x.committee = y.committee ∧ x.validator < y.validator)

theorem compare_eq_lt {x y : Seat} : compare x y = .lt ↔ x.Before y := by
  change (compare x.slot y.slot).then
    ((compare x.committee y.committee).then (compare x.validator y.validator)) = .lt ↔ _
  simp only [Ordering.then_eq_lt, Std.compare_eq_lt, Std.compare_eq_iff_eq, Before]

end Seat

/-! ## Criteria that imply others -/

/-- Whoever meets the first criterion meets the second: every criterion asks for a vote, and a head
    is timely only if it is right and the source is timely too. -/
inductive Criterion.Implies : Criterion → Criterion → Prop
  | participating (criterion : Criterion) : Implies criterion .participating
  | headCorrect : Implies .headTimely .headCorrect
  | sourceTimely : Implies .headTimely .sourceTimely

theorem sourceInTime_of_headInTime {delay : UInt64} (h : headInTime delay) :
    sourceInTime delay := by
  rw [headInTime, decide_eq_true_eq] at h
  rw [sourceInTime, decide_eq_true_eq]
  exact UInt64.le_trans h (by decide)

theorem Classification.Judges.holds_of_implies {data : AttestationData} {inclusion : Slot}
    {x : Classification} {strong weak : Criterion} (hx : x.Judges node clock data inclusion)
    (h : strong.Implies weak) (hs : strong.holds x.flags) : weak.holds x.flags := by
  rw [hx.flags] at hs ⊢
  cases h with
  | participating => rfl
  | headCorrect =>
    simp only [Criterion.holds, VoteFlags.judge, Bool.and_eq_true] at hs
    exact hs.1
  | sourceTimely =>
    simp only [Criterion.holds, VoteFlags.judge, Bool.and_eq_true] at hs
    exact sourceInTime_of_headInTime hs.2

namespace EpochSurvey

variable {query : Query} {selection : Selection} {infos : List ValidatorInfo}
  {table : CommitteeTable} {records : Std.ExtTreeMap ValidatorIndex Participation}
  {summary : EpochSummary} {due : List Proposal} {v : ValidatorIndex}

/-- Whatever has been added to a record, it meets what is implied by what it meets. -/
theorem isMet_of_implies {strong weak : Criterion}
    {registry : Std.ExtTreeMap ValidatorIndex ValidatorInfo}
    (hp : answer node (participations limits clock query selection registry) = .ok records)
    {x : Participation} (hx : records[v]? = some x) (h : strong.Implies weak)
    (hs : strong.isMet x) : weak.isMet x := by
  obtain ⟨table, found, -, hf, hr⟩ := getElem?_participations hp
  obtain ⟨after, hscan⟩ := scan_of_inclusions hf
  obtain ⟨seat, -, -, -, -, rfl⟩ := exists_seat_of_records hr hx
  rw [Participation.isMet_recordAll, Participation.isMet_awaiting] at hs ⊢
  obtain ⟨y, hy, hs⟩ := hs.resolve_left Bool.false_ne_true
  obtain ⟨z, hj⟩ := hscan.judges y (List.mem_filter.1 hy).1
  exact .inr ⟨y, hy, hj.holds_of_implies h hs⟩

/-! ## Whom the totals are about -/

/-- Whether a validator has a seat. -/
def hasSeat (table : CommitteeTable) (v : ValidatorIndex) : Bool :=
  table.seats.any (·.validator = v)

theorem hasSeat_iff : hasSeat table v ↔ ∃ seat ∈ table.seats, seat.validator = v := by
  simp [hasSeat]

/-- The validators that have a seat. -/
def seated (table : CommitteeTable) (validators : List ValidatorInfo) : List ValidatorInfo :=
  validators.filter (hasSeat table ·.index)

/-- There is one record of each validator that the totals are about, with its balance. -/
theorem balances_counted
    (hsome : ∀ v, records[v]?.isSome ↔
      selection.contains v ∧ ∃ seat ∈ table.seats, seat.validator = v)
    (hbalance : ∀ {v : ValidatorIndex} {x : Participation}, records[v]? = some x →
      x.effectiveBalance =
        (((registry selection infos)[v]?).map ValidatorInfo.effectiveBalance).getD 0) :
    ((activeRecords (active query selection infos) records).map (·.effectiveBalance)).Perm
      ((seated table (active query selection infos)).map (·.effectiveBalance)) := by
  refine (activeRecords_perm.map _).trans (.of_eq ?_)
  rw [seated, List.filterMap_map, List.map_filterMap, ← List.filterMap_eq_map,
    List.filterMap_filter]
  refine List.filterMap_congr fun x hx => ?_
  obtain ⟨hreg, -⟩ := mem_active.1 hx
  obtain ⟨-, -, hc⟩ := of_getElem?_registry hreg
  have hs : records[x.index]?.isSome ↔ hasSeat table x.index := by
    rw [hsome, hasSeat_iff, and_iff_right hc]
  rw [Function.comp_apply, Function.comp_apply]
  cases hrec : records[x.index]? with
  | none =>
    rw [hrec] at hs
    rw [if_neg fun h => nomatch hs.2 h]
    rfl
  | some record =>
    rw [hrec] at hs
    rw [if_pos (hs.1 rfl), Option.map_some, hbalance hrec, hreg]
    rfl

theorem pairwise_before
    (hv : ∀ {v : ValidatorIndex} {x : Participation}, records[v]? = some x → x.validator = v) :
    (activeRecords (active query selection infos) records).Pairwise fun x y => x.seat.Before y.seat := by
  have hne : (activeRecords (active query selection infos) records).Pairwise
      fun x y => x.validator ≠ y.validator := List.pairwise_map.1 (nodup_activeRecords hv)
  refine (hne.and pairwise_activeRecords).imp fun {x y} ⟨hne, hle⟩ => ?_
  rw [← Seat.compare_eq_lt]
  rcases hc : compare x.seat y.seat with _ | _ | _
  · rfl
  · exact absurd (congrArg Seat.validator (Std.LawfulEqOrd.eq_of_compare hc)) hne
  · rw [hc] at hle
    cases hle

/-! ## Adding up -/

/-- A summary accounts for the active validators, of whom those with a seat have to attest. -/
structure Accounts (validators : List ValidatorInfo) (table : CommitteeTable)
    (summary : EpochSummary) : Prop where
  /-- Everyone with a seat meets a criterion or is listed. -/
  count : ∀ criterion, (summary.outcome criterion).met.validators +
    (summary.outcome criterion).lacking.length = (seated table validators).length
  balance : ∀ criterion, (summary.outcome criterion).met.balance.toNat +
    totalOf ((summary.outcome criterion).lacking.map (·.effectiveBalance)) =
      totalOf ((seated table validators).map (·.effectiveBalance))
  active : summary.active.validators = validators.length
  seated_le : (seated table validators).length ≤ summary.active.validators
  seated_eq : (seated table validators).length = summary.active.validators ↔
    ∀ x ∈ validators, hasSeat table x.index
  /-- Lists are in the order of seats, and list nobody twice. -/
  ordered : ∀ criterion, (summary.outcome criterion).lacking.Pairwise
    fun x y => x.seat.Before y.seat
  nodup : ∀ criterion, ((summary.outcome criterion).lacking.map (·.validator)).Nodup
  /-- What implies something else is met by no more, and lacked by all who lack the other. -/
  met_le : ∀ {strong weak : Criterion}, strong.Implies weak →
    (summary.outcome strong).met.validators ≤ (summary.outcome weak).met.validators ∧
      (summary.outcome strong).met.balance ≤ (summary.outcome weak).met.balance
  lacking_sublist : ∀ {strong weak : Criterion}, strong.Implies weak →
    (summary.outcome weak).lacking.Sublist (summary.outcome strong).lacking

/-- Each criterion divides records in the order of their seats. -/
theorem accounts_of_outcome {validators : List ValidatorInfo} {xs : List Participation}
    (houtcome : ∀ criterion : Criterion,
      criterion.outcome? xs = some (summary.outcome criterion))
    (hactive : summary.active.validators = validators.length)
    (hbalances : (xs.map (·.effectiveBalance)).Perm
      ((seated table validators).map (·.effectiveBalance)))
    (hordered : xs.Pairwise fun x y => x.seat.Before y.seat)
    (hnodup : (xs.map (·.validator)).Nodup)
    (himplies : ∀ x ∈ xs, ∀ {strong weak : Criterion}, strong.Implies weak →
      strong.isMet x → weak.isMet x) : Accounts validators table summary := by
  have hout (criterion) := Criterion.outcome?_eq_some_iff.1 (houtcome criterion)
  have hlacking (criterion) : (summary.outcome criterion).lacking.Sublist xs :=
    (hout criterion).2.2 ▸ List.filter_sublist
  have hlength : xs.length = (seated table validators).length := by
    simpa using hbalances.length_eq
  constructor
  case count =>
    intro criterion
    obtain ⟨hv, -, hl⟩ := hout criterion
    rw [hv, hl, ← List.countP_eq_length_filter, ← hlength,
      List.length_eq_countP_add_countP criterion.isMet]
    simp
  case balance =>
    intro criterion
    obtain ⟨-, hb, hl⟩ := hout criterion
    rw [hb, hl, ← totalOf_append, ← List.map_append, ← totalOf_perm hbalances]
    exact totalOf_perm ((List.filter_append_perm _ _).map _)
  case active => exact hactive
  case seated_le => exact hactive ▸ List.length_filter_le _ _
  case seated_eq =>
    rw [hactive, seated, List.length_filter_eq_length_iff]
  case ordered => exact fun criterion => hordered.sublist (hlacking criterion)
  case nodup => exact fun criterion => hnodup.sublist ((hlacking criterion).map _)
  case met_le =>
    intro strong weak h
    obtain ⟨hvs, hbs, -⟩ := hout strong
    obtain ⟨hvw, hbw, -⟩ := hout weak
    have hle : ∀ x ∈ xs, strong.isMet x → weak.isMet x := fun x hx => himplies x hx h
    rw [hvs, hvw, UInt64.le_iff_toNat_le, hbs, hbw]
    exact ⟨List.countP_mono_left hle,
      totalOf_sublist ((Lists.filter_sublist_filter hle).map _)⟩
  case lacking_sublist =>
    intro strong weak h
    rw [(hout strong).2.2, (hout weak).2.2]
    refine Lists.filter_sublist_filter fun x hx hw => ?_
    rw [Bool.not_eq_true'] at hw ⊢
    by_contra hs
    rw [Bool.not_eq_false] at hs
    exact Bool.false_ne_true (hw.symm.trans (himplies x hx h hs))

/-- **The totals of an epoch add up.** By each criterion the selected active validators with a seat
    are divided into those who meet it and those who are listed, and so is their balance. Lists are
    in the order of seats without repetitions, and criteria that imply others are met by fewer. -/
theorem accounts_of_run {available : List Capability} {chain : Chain}
    (h : answer node (run available limits chain query) = .ok summary) :
    ∃ selection infos table,
      (∀ v, selection.contains v ↔ query.ids = [] ∨
        ∃ known, node (.validators .head query.ids) = .ok known ∧ ∃ x ∈ known, x.index = v) ∧
      node (.validators (.slot (chain.clock.firstSlot query.epoch)) selection.ids) = .ok infos ∧
      node.HasCommittees chain.clock query.epoch table ∧
      Accounts (active query selection infos) table summary := by
  obtain ⟨selection, due, infos, records, hm⟩ := makes_of_run h
  obtain ⟨table, found, ht, -, hr⟩ := getElem?_participations hm.participations
  refine ⟨selection, infos, table, contains_of_select chain.clock hm.selects, hm.known, ht, ?_⟩
  have hv : ∀ {v : ValidatorIndex} {x : Participation}, records[v]? = some x →
      x.validator = v := validator_of_records hr
  have hbalance : ∀ {v : ValidatorIndex} {x : Participation}, records[v]? = some x →
      x.effectiveBalance =
        (((registry selection infos)[v]?).map ValidatorInfo.effectiveBalance).getD 0 := by
    intro v x hx
    obtain ⟨seat, -, rfl, -, -, rfl⟩ := exists_seat_of_records hr hx
    exact Participation.effectiveBalance_recordAll
  refine accounts_of_outcome hm.outcome ?_ (balances_counted (isSome_records hr) hbalance)
    (pairwise_before hv) (nodup_activeRecords hv) fun x hx => ?_
  · rw [(Share.ofBalances?_eq_some_iff.1 hm.active).1, List.length_map]
  · obtain ⟨hx, -⟩ := (mem_activeRecords hv).1 hx
    exact isMet_of_implies hm.participations hx

/-- On the small chain three of the four validators participate, and one is listed. -/
theorem accounts_of_run_devnet :
    ∃ summary selection infos table,
      answer Ledger.devnet.answers (run needs .usual Ledger.devnetChain ⟨0, [], 3⟩) =
        .ok summary ∧ summary.participating.met.validators = 3 ∧
      Ledger.devnet.answers.HasCommittees Ledger.devnetChain.clock 0 table ∧
      Accounts (active ⟨0, [], 3⟩ selection infos) table summary := by
  obtain ⟨summary, h, hthree⟩ := exists_summary_devnet
  obtain ⟨selection, infos, table, -, -, ht, ha⟩ := accounts_of_run h
  exact ⟨summary, selection, infos, table, h, hthree, ht, ha⟩

end EpochSurvey

end BeaconDuties
