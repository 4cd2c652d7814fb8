import BeaconDuties.Proofs.Validator.Summary

/-!
What looking further ahead adds to the summary of validators.

The duties that are credited up to an earlier current slot are the first ones that are credited up
to a later one (`ValidatorSurvey.exists_credits_of_le`). Every member of a report is monotone in
the credits, and only the list of missed seats gets shorter with them
(`ValidatorSurvey.extends_report`). So the summary at the earlier slot succeeds too, and the later
one extends it (`ValidatorSurvey.exists_sooner`).
-/

namespace BeaconDuties

open Survey

/-- A row looks further ahead than another: it expects the same votes, and counts more of them. -/
structure SlotDuties.Extends (sooner later : SlotDuties) : Prop where
  slot : later.slot = sooner.slot
  expected : later.expected = sooner.expected
  included : sooner.included ≤ later.included
  correctHead : sooner.correctHead ≤ later.correctHead
  timelyHead : sooner.timelyHead ≤ later.timelyHead
  correctTarget : sooner.correctTarget ≤ later.correctTarget
  timelyTarget : sooner.timelyTarget ≤ later.timelyTarget
  timelySource : sooner.timelySource ≤ later.timelySource

/-- A summary looks further ahead than another: there are more votes, and so more faulty ones and
    fewer missing ones. -/
structure ValidatorSummary.Extends (sooner later : ValidatorSummary) : Prop where
  epoch : later.epoch = sooner.epoch
  epochSlots : later.epochSlots = sooner.epochSlots
  validators : later.validators = sooner.validators
  active : later.active = sooner.active
  proposals : later.proposals = sooner.proposals
  participating : sooner.participating ≤ later.participating
  nonParticipating : later.nonParticipating.Sublist sooner.nonParticipating
  incorrectHead : sooner.incorrectHead.Sublist later.incorrectHead
  untimelyHead : sooner.untimelyHead.Sublist later.untimelyHead
  untimelySource : sooner.untimelySource.Sublist later.untimelySource
  incorrectTarget : sooner.incorrectTarget.Sublist later.incorrectTarget
  untimelyTarget : sooner.untimelyTarget.Sublist later.untimelyTarget
  slots : List.Forall₂ SlotDuties.Extends sooner.slots later.slots

namespace ValidatorSurvey

variable {node : Answers} {clock : Clock} {limits : Limits} {epoch : Epoch}
  {ids : List ValidatorId} {sooner later : Slot} {duties : List AttesterDuty}
  {credited credited' : List Credit}

/-! ## Credits -/

/-- The duties that are credited up to an earlier slot are credited first up to a later one. -/
theorem exists_credits_of_le {duties : Duties} (hle : sooner ≤ later)
    (h : answer node (credits limits clock ⟨epoch, ids, later⟩ duties) = .ok credited') :
    ∃ credited further,
      answer node (credits limits clock ⟨epoch, ids, sooner⟩ duties) = .ok credited ∧
        credited' = credited ++ further := by
  rw [credits] at h ⊢
  split at h
  · next he =>
    rw [if_pos he]
    exact ⟨credited', [], h, (List.append_nil _).symm⟩
  · next he =>
    rw [if_neg he]
    obtain ⟨table, ht, hg⟩ := Finds.bind (finds_of_answer h : Finds node clock _ _) .committees
    obtain ⟨first, rest, hfirst, rfl⟩ :=
      exists_gatherSlots_sooner (fun _ _ => steady_inSlot) hle hg
    have hy : Yields node clock (do
        let table ← committees clock epoch
        let window := clock.inclusionWindow epoch sooner
        gatherSlots (inSlot limits clock epoch table duties) window.count window.first .empty)
          first :=
      .bind ht .committees (Steady.yields (.gatherSlots (fun _ _ => steady_inSlot) _ _ _) hfirst)
    exact ⟨first, rest, hy.answer, rfl⟩

/-! ## The report -/

theorem missed_sublist (h : credited.Sublist credited') :
    (missed duties credited').Sublist (missed duties credited) := by
  refine sortOn_sublist ((Lists.filter_sublist_filter fun duty _ hd => ?_).map _)
  simp only [Bool.not_eq_true', Std.ExtTreeSet.contains_ofList] at hd ⊢
  rw [← Bool.not_eq_true, List.contains_iff_mem] at hd ⊢
  exact fun hm => hd ((h.map _).subset hm)

theorem faults_sublist {holds : Classification → Bool} (h : credited.Sublist credited') :
    (faults credited holds).Sublist (faults credited' holds) :=
  sortOn_sublist ((h.filter _).map _)

theorem extends_row {slot : Slot} (h : credited.Sublist credited') :
    (row duties credited slot).Extends (row duties credited' slot) := by
  have hslot : (credited.filter (·.duty.slot = slot)).Sublist
      (credited'.filter (·.duty.slot = slot)) := h.filter _
  exact ⟨rfl, rfl, hslot.length_le, hslot.countP_le, hslot.countP_le, hslot.countP_le,
    hslot.countP_le, hslot.countP_le⟩

/-- More credits make a report that extends that of fewer credits. -/
theorem extends_report {validators active : List ValidatorIndex} {proposals : List Proposal}
    (h : credited.Sublist credited') :
    (report clock epoch validators active duties credited proposals).Extends
      (report clock epoch validators active duties credited' proposals) := by
  constructor
  all_goals simp only [report]
  case participating => exact h.length_le
  case nonParticipating => exact missed_sublist h
  case slots =>
    rw [List.forall₂_map_left_iff, List.forall₂_map_right_iff, List.forall₂_same]
    exact fun _ _ => extends_row h
  all_goals exact faults_sublist h

/-- Where a summary succeeds, it has succeeded before, and the summary extends the one of then. -/
theorem exists_sooner {available : List Capability} {chain : Chain} {summary' : ValidatorSummary}
    (hle : sooner ≤ later)
    (h : answer node (run available limits chain ⟨epoch, ids, later⟩) = .ok summary') :
    ∃ summary, answer node (run available limits chain ⟨epoch, ids, sooner⟩) = .ok summary ∧
      summary.Extends summary' := by
  obtain ⟨hneeds, found, duties, credited', due, proposals, hc⟩ := completes_of_run h
  obtain ⟨credited, further, hcredits, rfl⟩ := exists_credits_of_le hle hc.credits
  refine ⟨_, run_of_completes hneeds ⟨⟨hc.named, hc.known, hc.proposers, hc.proposed, hc.attesters,
    hcredits, rfl⟩, hc.somebody, hc.unasked⟩, ?_⟩
  rw [hc.report]
  exact extends_report (List.sublist_append_left _ _)

end ValidatorSurvey

end BeaconDuties
