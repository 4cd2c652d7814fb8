import BeaconDuties.Proofs.Epoch.Active
import BeaconDuties.Proofs.Epoch.Summary

/-!
What looking further ahead adds to the summary of an epoch.

The inclusion window of an earlier current slot is a first part of that of a later one, so what is
found there is found first (`EpochSurvey.exists_participations_of_le`). What is found further on is
added to the records: it completes them, but it never takes anything back (`Participation.Grows`).
So the summary at the earlier slot succeeds too, and differs in no more than that
(`EpochSurvey.exists_sooner`).
-/

namespace BeaconDuties

open Survey

variable {node : Answers} {clock : Clock} {limits : Limits}

/-! ## Records -/

namespace Participation

/-- A record goes on to be another: whatever it tells of the vote stays, and it may meet more. -/
structure Grows (x y : Participation) : Prop where
  seat : y.seat = x.seat
  effectiveBalance : y.effectiveBalance = x.effectiveBalance
  inclusion : x.participated → y.inclusion = x.inclusion
  isMet : ∀ criterion : Criterion, criterion.isMet x → criterion.isMet y

/-- The record after its validator's votes in further inclusions. -/
def extend (further : List EpochSurvey.Inclusion) (x : Participation) : Participation :=
  x.recordAll (further.filter fun inclusion => x.validator ∈ inclusion.validators)

theorem grows_extend {further : List EpochSurvey.Inclusion} {x : Participation} :
    x.Grows (x.extend further) := by
  refine ⟨seat_recordAll, effectiveBalance_recordAll, fun hx => ?_, fun criterion hx => ?_⟩
  · obtain ⟨inclusion, hi⟩ := Option.isSome_iff_exists.1 hx
    rw [extend, inclusion_recordAll, hi, Option.some_or]
  · exact isMet_recordAll.2 (.inl hx)

end Participation

namespace EpochSurvey

variable {epoch : Epoch} {ids : List ValidatorId} {sooner later : Slot} {selection : Selection}
  {registry : Std.ExtTreeMap ValidatorIndex ValidatorInfo} {due : List Proposal}
  {infos : List ValidatorInfo} {records records' : Std.ExtTreeMap ValidatorIndex Participation}

/-- What is found up to an earlier slot is found first up to a later one. -/
theorem exists_participations_of_le (hle : sooner ≤ later)
    (h : answer node (participations limits clock ⟨epoch, ids, later⟩ selection registry) =
      .ok records') :
    ∃ records further,
      answer node (participations limits clock ⟨epoch, ids, sooner⟩ selection registry) =
        .ok records ∧
      ∀ v : ValidatorIndex, records'[v]? = records[v]?.map (Participation.extend further) := by
  obtain ⟨table, ht, h⟩ := Finds.bind (finds_of_answer h : Finds node clock _ _) .committees
  obtain ⟨found, hf, h⟩ := Finds.bind h steady_inclusions
  obtain rfl := finds_pure.1 h
  obtain ⟨first, further, hfirst, rfl⟩ :=
    exists_gatherSlots_sooner (fun _ _ => steady_inSlot) hle
      (finds_of_answer hf : Finds node clock _ _)
  have hy : Yields node clock
      (participations limits clock ⟨epoch, ids, sooner⟩ selection registry)
      (EpochSurvey.records (awaiting selection registry table) first) :=
    .bind ht .committees (.bind hfirst steady_inclusions (.pure _))
  have hr (v : ValidatorIndex) :
      (EpochSurvey.records (awaiting selection registry table) first)[v]? =
        (awaiting selection registry table)[v]?.map
          (Participation.recordAll · (first.filter (v ∈ ·.validators))) := getElem?_records
  refine ⟨_, further, hy.answer, fun v => ?_⟩
  rw [getElem?_records, hr, Option.map_map]
  cases hstart : (awaiting selection registry table)[v]? with
  | none => rfl
  | some start =>
    have hv : (start.recordAll (first.filter (v ∈ ·.validators))).validator = v :=
      validator_of_records hr (by rw [hr, hstart, Option.map_some])
    rw [Option.map_some, Option.map_some, Function.comp_apply, Participation.extend, hv,
      ← Participation.recordAll_append, List.filter_append]

/-- Records that grow stay in their places. -/
theorem activeRecords_extend {further : List Inclusion}
    (h : ∀ v : ValidatorIndex, records'[v]? = records[v]?.map (Participation.extend further)) :
    activeRecords infos records' =
      (activeRecords infos records).map (Participation.extend further) := by
  rw [activeRecords, activeRecords, ← sortOn_map fun _ => Participation.grows_extend.seat,
    List.map_filterMap]
  simp only [h]

end EpochSurvey

/-! ## The summary -/

/-- An outcome looks further ahead than another: more of the validators meet what is asked of them,
    and fewer are listed. -/
structure Outcome.Extends (sooner later : Outcome) : Prop where
  validators : sooner.met.validators ≤ later.met.validators
  balance : sooner.met.balance ≤ later.met.balance
  lacking : (later.lacking.map (·.seat)).Sublist (sooner.lacking.map (·.seat))
  /-- Whoever is listed has been listed before, with the same vote if there was one. -/
  grows : ∀ y ∈ later.lacking, ∃ x ∈ sooner.lacking, x.Grows y

/-- A summary looks further ahead than another: the outcomes do, and all else is the same. -/
structure EpochSummary.Extends (sooner later : EpochSummary) : Prop where
  epoch : later.epoch = sooner.epoch
  slots : later.slots = sooner.slots
  blocks : later.blocks = sooner.blocks
  proposals : later.proposals = sooner.proposals
  syncSeats : later.syncSeats = sooner.syncSeats
  syncMisses : later.syncMisses = sooner.syncMisses
  blobs : later.blobs = sooner.blobs
  active : later.active = sooner.active
  outcome : ∀ criterion, (sooner.outcome criterion).Extends (later.outcome criterion)

/-- Whoever meets a criterion still meets it when records have grown. -/
theorem Criterion.exists_outcome_of_grows {criterion : Criterion} {xs : List Participation}
    {f : Participation → Participation} {outcome : Outcome} (hf : ∀ x : Participation, x.Grows (f x))
    (h : criterion.outcome? (xs.map f) = some outcome) :
    ∃ outcome', criterion.outcome? xs = some outcome' ∧ outcome'.Extends outcome := by
  obtain ⟨hv, hb, hl⟩ := Criterion.outcome?_eq_some_iff.1 h
  have hseat : (·.seat) ∘ f = (·.seat) := funext fun x => (hf x).seat
  have hbalance : (·.effectiveBalance) ∘ f = (·.effectiveBalance) :=
    funext fun x => (hf x).effectiveBalance
  have hlacking : ∀ x ∈ xs, !criterion.isMet (f x) → !criterion.isMet x := by
    intro x _ hx
    rw [Bool.not_eq_true', ← Bool.not_eq_true] at hx ⊢
    exact fun hx' => hx ((hf x).isMet criterion hx')
  have hmet : (xs.filter criterion.isMet).Sublist (xs.filter (criterion.isMet ∘ f)) :=
    Lists.filter_sublist_filter fun x _ => (hf x).isMet criterion
  rw [List.countP_map] at hv
  rw [List.filter_map, List.map_map, hbalance] at hb
  rw [List.filter_map] at hl
  have hle : totalOf ((xs.filter criterion.isMet).map (·.effectiveBalance)) ≤
      outcome.met.balance.toNat := hb ▸ totalOf_sublist (hmet.map _)
  have hlt := Nat.lt_of_le_of_lt hle outcome.met.balance.toNat_lt
  refine ⟨⟨⟨xs.countP criterion.isMet, UInt64.ofNatLT _ hlt⟩, xs.filter (!criterion.isMet ·)⟩,
    Criterion.outcome?_eq_some_iff.2 ⟨rfl, UInt64.toNat_ofNatLT, rfl⟩, ?_, ?_, ?_, ?_⟩
  · rw [hv]
    exact List.countP_mono_left fun x _ => (hf x).isMet criterion
  · rw [UInt64.le_iff_toNat_le, UInt64.toNat_ofNatLT]
    exact hle
  · rw [hl, List.map_map, hseat]
    exact (Lists.filter_sublist_filter hlacking).map _
  · intro y hy
    rw [hl] at hy
    obtain ⟨x, hx, rfl⟩ := List.mem_map.1 hy
    obtain ⟨hx, hn⟩ := List.mem_filter.1 hx
    exact ⟨x, List.mem_filter.2 ⟨hx, hlacking x hx hn⟩, hf x⟩

namespace EpochSurvey

/-- A summary with other outcomes. -/
def withOutcomes (summary : EpochSummary) (outcome : Criterion → Outcome) : EpochSummary :=
  { summary with
    participating := outcome .participating
    headCorrect := outcome .headCorrect
    headTimely := outcome .headTimely
    sourceTimely := outcome .sourceTimely
    targetCorrect := outcome .targetCorrect
    targetTimely := outcome .targetTimely }

theorem outcome_withOutcomes {summary : EpochSummary} {outcome : Criterion → Outcome} :
    (withOutcomes summary outcome).outcome = outcome := by
  funext criterion
  cases criterion <;> rfl

variable {epoch : Epoch} {ids : List ValidatorId} {sooner later : Slot}

/-- The records of two summaries, of which the second one looks further ahead. -/
def RecordsGrow (node : Answers) (clock : Clock) (limits : Limits) (query query' : Query)
    (summary summary' : EpochSummary) : Prop :=
  ∃ selection due infos records records',
    Makes node clock limits query selection due infos records summary ∧
      Makes node clock limits query' selection due infos records' summary' ∧
      ∀ v : ValidatorIndex, Option.Rel Participation.Grows records[v]? records'[v]?

/-- Where a summary succeeds, it has succeeded before, and everything that has been told since is an
    addition. -/
theorem exists_sooner {available : List Capability} {chain : Chain} {summary' : EpochSummary}
    (hle : sooner ≤ later)
    (h : answer node (run available limits chain ⟨epoch, ids, later⟩) = .ok summary') :
    ∃ summary, answer node (run available limits chain ⟨epoch, ids, sooner⟩) = .ok summary ∧
      summary.Extends summary' ∧
      RecordsGrow node chain.clock limits ⟨epoch, ids, sooner⟩ ⟨epoch, ids, later⟩ summary
        summary' := by
  obtain ⟨hneeds, selection, due, infos, records', hc⟩ := completes_of_run h
  obtain ⟨records, further, hp, hr⟩ := exists_participations_of_le hle hc.participations
  have houtcome (criterion : Criterion) := hc.outcome criterion
  simp only [activeRecords_extend hr] at houtcome
  choose outcome ho hextends using fun criterion =>
    Criterion.exists_outcome_of_grows (fun _ => Participation.grows_extend) (houtcome criterion)
  have hc' : Completes node chain.clock limits ⟨epoch, ids, sooner⟩ selection due infos records
      (withOutcomes summary' outcome) :=
    ⟨⟨hc.selects, hc.duties, hc.known, hp, hc.proposals, by
      rw [outcome_withOutcomes]
      exact ho, hc.active⟩, hc.epoch, hc.slots, hc.blocks, hc.sync, hc.blobs⟩
  refine ⟨withOutcomes summary' outcome, run_of_completes hneeds hc',
    ⟨rfl, rfl, rfl, rfl, rfl, rfl, rfl, rfl, ?_⟩,
    selection, due, infos, records, records', hc'.toMakes, hc.toMakes, fun v => ?_⟩
  · rw [outcome_withOutcomes]
    exact hextends
  · rw [hr]
    cases records[v]? with
    | none => exact .none
    | some x => exact .some Participation.grows_extend

end EpochSurvey

end BeaconDuties
