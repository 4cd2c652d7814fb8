import BeaconDuties.Proofs.Chain.Epochs
import BeaconDuties.Proofs.Epoch.Totals
import BeaconDuties.Proofs.Survey.Overflow
import BeaconDuties.Report.Text

/-!
When the totals of an epoch do not fit.

A summary first gathers all that it is made of, which never overflows, and then adds up.

The balance of the active validators is the largest of the totals of balances: whoever meets a
criterion is one of them and counts with the same balance
(`EpochSurvey.Findings.Recorded.totalOf_met_le`). The number of blobs is a total of its own. So a
run overflows exactly if one of these two does not fit (`EpochSurvey.course_overflow_iff`).
-/

namespace BeaconDuties

open Survey

namespace EpochSurvey

variable {limits : Limits} {clock : Clock} {chain : Chain} {available : List Capability}
  {query : Query} {epoch : Epoch} {selection : Selection}
  {registry : Std.ExtTreeMap ValidatorIndex ValidatorInfo} {turns : List Turn} {x : Findings}

theorem fits_gather : Fits (gather available limits chain query) := .of_composed composed_gather

/-! ## The largest totals -/

namespace Findings

/-- The records are those of the selected validators that have a seat, with what was found of their
    votes added. -/
def Recorded (x : Findings) : Prop :=
  ∃ infos table found, x.registry = EpochSurvey.registry x.selection infos ∧
    x.records = EpochSurvey.records (awaiting x.selection x.registry table) found

/-- Whoever meets a criterion is active and counts with the same balance. -/
theorem Recorded.totalOf_met_le (h : x.Recorded) (criterion : Criterion) :
    totalOf (((x.counted query).filter criterion.isMet).map (·.effectiveBalance)) ≤
      totalOf (x.balances query) := by
  obtain ⟨infos, table, found, hregistry, hrecords⟩ := h
  have hactive : x.active query = EpochSurvey.active query x.selection infos := by
    rw [active, hregistry, EpochSurvey.active]
  have hr : ∀ v, x.records[v]? = _ := fun v => hrecords ▸ getElem?_records
  have hbalance : ∀ {v : ValidatorIndex} {record : Participation}, x.records[v]? = some record →
      record.effectiveBalance = (((EpochSurvey.registry x.selection infos)[v]?).map
        ValidatorInfo.effectiveBalance).getD 0 := by
    intro v record hrecord
    obtain ⟨seat, -, rfl, -, -, rfl⟩ := exists_seat_of_records hr hrecord
    rw [← hregistry]
    exact Participation.effectiveBalance_recordAll
  rw [balances, counted, hactive]
  calc totalOf (((activeRecords (EpochSurvey.active query x.selection infos) x.records).filter
        criterion.isMet).map (·.effectiveBalance))
      ≤ totalOf ((activeRecords (EpochSurvey.active query x.selection infos) x.records).map
          (·.effectiveBalance)) := totalOf_sublist (List.filter_sublist.map _)
    _ = totalOf ((seated table (EpochSurvey.active query x.selection infos)).map
          (·.effectiveBalance)) := totalOf_perm (balances_counted (isSome_records hr) hbalance)
    _ ≤ totalOf ((EpochSurvey.active query x.selection infos).map (·.effectiveBalance)) :=
        totalOf_sublist (List.filter_sublist.map _)

/-- If the balance of the active validators fits, so does that of those who meet a criterion. -/
theorem Recorded.isSome_outcome? (h : x.Recorded) (hfits : totalOf (x.balances query) < UInt64.size)
    (criterion : Criterion) : (criterion.outcome? (x.counted query)).isSome :=
  Criterion.isSome_outcome?.2 (Nat.lt_of_le_of_lt (h.totalOf_met_le criterion) hfits)

/-- There is a summary if there are all of its totals. -/
theorem isSome_summary? :
    (x.summary? clock query).isSome ↔
      (∀ criterion : Criterion, (criterion.outcome? (x.counted query)).isSome) ∧
      (Share.ofBalances? (x.balances query)).isSome ∧ (checkedCount x.blobs).isSome := by
  constructor
  · intro h
    obtain ⟨summary, h⟩ := Option.isSome_iff_exists.1 h
    have hadds := summary?_eq_some_iff.1 h
    exact ⟨fun criterion => Option.isSome_of_eq_some (hadds.outcome criterion),
      Option.isSome_of_eq_some hadds.active, Option.isSome_of_eq_some hadds.blobs⟩
  · rintro ⟨h, hactive, hblobs⟩
    simp only [Option.isSome_iff_exists] at h hactive hblobs
    obtain ⟨share, hactive⟩ := hactive
    obtain ⟨blobs, hblobs⟩ := hblobs
    choose outcome h using h
    simp only [summary?, Option.bind_eq_bind, h, hactive, hblobs, Option.bind_some]
    rfl

/-- All totals fit if the balance of the active validators and the number of blobs do. -/
theorem Recorded.isSome_summary?_iff (h : x.Recorded) :
    (x.summary? clock query).isSome ↔
      totalOf (x.balances query) < UInt64.size ∧ x.blobs.sum < UInt64.size := by
  rw [isSome_summary?, Share.isSome_ofBalances?, isSome_checkedCount]
  exact and_iff_right_of_imp fun hfits => h.isSome_outcome? hfits.1

end Findings

theorem ensures_participations :
    Ensures (fun records => ∃ table found,
      records = EpochSurvey.records (awaiting selection registry table) found)
        (participations limits clock query selection registry) :=
  .next fun table => .next fun found => .pure ⟨table, found, rfl⟩

theorem ensures_gather : Ensures Findings.Recorded (gather available limits chain query) :=
  .next fun _ => .next fun _ => .next fun _ => .next fun _ => .next fun infos =>
    .bind ensures_participations fun _ h => .next fun _ => .next fun _ =>
      .pure (h.elim fun table h => h.elim fun found h => ⟨infos, table, found, rfl, h⟩)

/-- A run overflows exactly if it has gathered everything, and then the balance of the active
    validators or the number of blobs does not fit. -/
theorem course_overflow_iff :
    (run available limits chain query).inquiry.Course turns (.error .overflow) ↔
      ∃ x, (gather available limits chain query).inquiry.Course turns (.ok x) ∧
        (UInt64.size ≤ totalOf (x.balances query) ∨ UInt64.size ≤ x.blobs.sum) := by
  rw [run, fits_gather.course_total_iff]
  refine exists_congr fun x => and_congr_right fun hx => ?_
  rw [← Option.not_isSome_iff_eq_none, (ensures_gather.of_course hx).isSome_summary?_iff,
    not_and_or, Nat.not_lt, Nat.not_lt]

/-- If the balance of the active validators fits, so do all totals of balances, and there is a
    summary unless the number of blobs does not fit. -/
theorem exists_summary {query : Query} {x : Findings}
    (h : (gather available limits chain query).inquiry.Course turns (.ok x))
    (hfits : totalOf (x.balances query) < UInt64.size) :
    (∀ criterion : Criterion, (criterion.outcome? (x.counted query)).isSome) ∧
    (x.blobs.sum < UInt64.size →
      ∃ summary, (run available limits chain query).inquiry.Course turns (.ok summary)) := by
  have hrecorded := ensures_gather.of_course h
  refine ⟨hrecorded.isSome_outcome? hfits, fun hblobs => ?_⟩
  have hsome : (x.summary? chain.clock query).isSome :=
    hrecorded.isSome_summary?_iff.2 ⟨hfits, hblobs⟩
  obtain ⟨summary, hsummary⟩ := Option.isSome_iff_exists.1 hsome
  exact ⟨summary, course_total_ok h hsummary⟩

/-! ## The number of slots -/

theorem ensures_run :
    Ensures (fun summary => summary.slots = chain.clock.epochSlots query.epoch)
      (run available limits chain query) :=
  .next fun _ => .total fun _ h => (Findings.summary?_eq_some_iff.1 h).slots

/-- The number of the slots of an epoch fits, since an epoch never ends in the largest number. -/
theorem isSome_slotCount? {summary : EpochSummary} (h : summary.slots = clock.epochSlots epoch) :
    summary.slotCount?.isSome := by
  have hlast := lt_farFuture_iff.1 (clock.lastSlot_lt epoch)
  rw [EpochSummary.slotCount?, ← Option.ne_none_iff_isSome, ne_eq, checkedSum_eq_none_iff, h,
    totalOf_cons, totalOf_cons, toNat_satSub, UInt64.toNat_one, Clock.epochSlots]
  simp only [totalOf, List.map_nil, List.sum_nil]
  omega

end EpochSurvey

end BeaconDuties
