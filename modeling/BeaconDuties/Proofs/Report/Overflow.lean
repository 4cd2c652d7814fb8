import BeaconDuties.Proofs.Block.Overflow
import BeaconDuties.Proofs.Epoch.Overflow
import BeaconDuties.Proofs.Epoch.Restriction
import BeaconDuties.Proofs.Validator.Totals

/-!
The only totals that need not fit.

Slots, epochs, balances and weights are whatever a node says, up to the largest number, and blobs
are counted again for each duty of their proposer. Sums of them are checked. Of all of these sums
only three can fail: the balance of the active validators of an epoch, the number of blobs in it,
and the weights that a vote earns (`overflows_only_of_totals`). The surveys of validators and of a
chain's parameters have no totals; what is counted for each slot of a summary of validators are
duties that the node has listed (`ValidatorSurvey.counts_le_of_course`).
-/

namespace BeaconDuties

open Survey

variable {limits : Limits} {chain : Chain} {available : List Capability} {turns : List Turn}

theorem Chain.fits_load : Fits (load available) := .of_composed composed_load

namespace ValidatorSurvey

variable {query : Query}

theorem fits_run : Fits (run available limits chain query) := .of_composed composed_run

/-- All that is counted for a slot. -/
def counts (row : SlotDuties) : List Nat :=
  [row.expected, row.included, row.correctHead, row.timelyHead, row.correctTarget,
    row.timelyTarget, row.timelySource]

/-- What is counted for a slot are duties that the node has listed. -/
theorem counts_le_of_course {summary : ValidatorSummary}
    (h : (run available limits chain query).inquiry.Course turns (.ok summary)) :
    ∃ duties : List AttesterDuty,
      (duties = [] ∨ ∃ indices, ⟨.attesters query.epoch indices, .ok duties⟩ ∈ turns) ∧
      ∀ row ∈ summary.slots, ∀ count ∈ counts row, count ≤ duties.length := by
  have hdistinct := composed_run.pairwise_requests covers_run nodup_topics h
  obtain ⟨found, duties, credits, due, proposals, m⟩ := makes_of_run (answer_ofTurns h hdistinct)
  refine ⟨duties, m.attesters.imp And.right fun h => ⟨_, Answers.mem_of_ofTurns h⟩, ?_⟩
  have hkept : (dutiesOf duties).values.length ≤ duties.length := by
    have hone : KeepsOne duties (dutiesOf duties).values := keepsOne_dutiesOf
    exact ((hone.nodup.of_map _).subperm hone.subset).length_le
  have hbalanced : Balanced (dutiesOf duties).values summary := m.report ▸ m.sound.balanced
  intro row hrow count hcount
  obtain ⟨hexpected, hincluded, hhead, htarget, hsource, htimelyHead, htimelyTarget⟩ :=
    hbalanced.rows row hrow
  have hle : row.expected ≤ duties.length := hexpected ▸ List.countP_le_length.trans hkept
  simp only [counts, List.mem_cons, List.not_mem_nil, or_false] at hcount
  omega

end ValidatorSurvey

/-- Delays are differences that are never negative. -/
theorem Survey.toNat_of_inclusionDelay {data : AttestationData} {inclusion : Slot} {delay : UInt64}
    (h : inclusionDelay data inclusion = .ok delay) :
    data.slot.toNat + delay.toNat = inclusion.toNat := by
  unfold inclusionDelay at h
  split at h
  · next hlt =>
    cases h
    rw [UInt64.toNat_sub_of_le _ _ (UInt64.le_of_lt hlt)]
    rw [UInt64.lt_iff_toNat_lt] at hlt
    omega
  · cases h

/-- Whatever a node answers, and whenever, the surveys for a chain overflow only because of three
    totals. -/
structure OverflowsOnlyOfTotals (available : List Capability) (limits : Limits) (chain : Chain) :
    Prop where
  /-- The summary of an epoch overflows if all that it needs is gathered, and then the balance of
      the active validators or the number of blobs does not fit. -/
  epoch : ∀ {query : EpochSurvey.Query} {turns : List Turn},
    (EpochSurvey.run available limits chain query).inquiry.Course turns (.error .overflow) ↔
      ∃ x, (EpochSurvey.gather available limits chain query).inquiry.Course turns (.ok x) ∧
        (UInt64.size ≤ totalOf (x.balances query) ∨ UInt64.size ≤ x.blobs.sum)
  /-- If that balance fits, so does that of those who meet a criterion, and if the number of blobs
      fits too, there is a summary. -/
  criteria : ∀ {query : EpochSurvey.Query} {turns : List Turn} {x : EpochSurvey.Findings},
    (EpochSurvey.gather available limits chain query).inquiry.Course turns (.ok x) →
      totalOf (x.balances query) < UInt64.size →
        (∀ criterion : Criterion, (criterion.outcome? (x.counted query)).isSome) ∧
        (x.blobs.sum < UInt64.size → ∃ summary,
          (EpochSurvey.run available limits chain query).inquiry.Course turns (.ok summary))
  /-- The verbose form of a summary can be told. -/
  slotCount : ∀ {query : EpochSurvey.Query} {turns : List Turn} {summary : EpochSummary},
    (EpochSurvey.run available limits chain query).inquiry.Course turns (.ok summary) →
      summary.slotCount?.isSome
  /-- The analysis of a block overflows if it reaches an attestation that is none of those before
      it, and that earns weights which do not fit. -/
  block : ∀ {id : BlockId} {turns : List Turn},
    (BlockSurvey.run limits chain available id).inquiry.Course turns (.error .overflow) ↔
      ∃ i x, (BlockSurvey.reach limits chain available id i).inquiry.Course turns (.ok (some x)) ∧
        (∀ y ∈ BlockSurvey.before x.ancestors x.block i,
          y.2.identityRoot ≠ x.attestation.identityRoot) ∧
        UInt64.size ≤ totalOf (chain.weights.earned x.classification.flags)
  validators : ∀ {query : ValidatorSurvey.Query} {turns : List Turn},
    ¬ (ValidatorSurvey.run available limits chain query).inquiry.Course turns (.error .overflow)
  /-- What is counted for validators are duties that the node has listed. -/
  counts : ∀ {query : ValidatorSurvey.Query} {turns : List Turn} {summary : ValidatorSummary},
    (ValidatorSurvey.run available limits chain query).inquiry.Course turns (.ok summary) →
      ∃ duties : List AttesterDuty,
        (duties = [] ∨ ∃ indices, ⟨.attesters query.epoch indices, .ok duties⟩ ∈ turns) ∧
        ∀ row ∈ summary.slots, ∀ count ∈ ValidatorSurvey.counts row, count ≤ duties.length
  load : ∀ {turns : List Turn}, ¬ (Chain.load available).inquiry.Course turns (.error .overflow)
  /-- A delay that is told is exact. -/
  delay : ∀ {data : AttestationData} {inclusion : Slot} {delay : UInt64},
    inclusionDelay data inclusion = .ok delay →
      data.slot.toNat + delay.toNat = inclusion.toNat
  /-- The slots of a range are gone through without a step beyond the largest number. -/
  slots : ∀ range : SlotRange,
    range.slots.map UInt64.toNat = List.range' range.first.toNat range.count

/-- **Only three totals can fail to fit.** For every clock and all weights, and whatever a node
    answers, a survey overflows only because of the balance of the active validators of an epoch,
    because of the number of blobs that the blocks of its duties commit to, or because of the
    weights that a new vote in a block earns. -/
theorem overflows_only_of_totals (available : List Capability) (limits : Limits) (chain : Chain) :
    OverflowsOnlyOfTotals available limits chain where
  epoch := EpochSurvey.course_overflow_iff
  criteria := EpochSurvey.exists_summary
  slotCount h := EpochSurvey.isSome_slotCount? (EpochSurvey.ensures_run.of_course h)
  block := BlockSurvey.course_overflow_iff
  validators := ValidatorSurvey.fits_run.not_course
  counts := ValidatorSurvey.counts_le_of_course
  load := Chain.fits_load.not_course
  delay := toNat_of_inclusionDelay
  slots := SlotRange.map_toNat_slots

/-- The small chain, if its validators have so much balance that that of two does not fit. -/
def Ledger.devnetRich : Ledger :=
  { devnet with validators := [0, 1, 2, 3].map fun i =>
      ⟨i, 32, .activeOngoing, ⟨.zero 48, .zero 32, 9223372036854775808, false, 0, 0, 9, 9⟩⟩ }

/-- The small chain, if it gives votes so much weight that that of two parts does not fit. -/
def Ledger.devnetHeavy : Chain :=
  { devnetChain with
    weights := { devnetChain.weights with
      timelySource := 9223372036854775808
      timelyTarget := 9223372036854775808
      timelyHead := 9223372036854775808 } }

/-- The balance of the rich chain does not fit, the weights of a vote in the heavy chain do not, and
    the number of slots of an epoch of the small chain does. -/
theorem overflows_only_of_totals_devnet :
    (∃ turns x, (EpochSurvey.gather EpochSurvey.needs .usual Ledger.devnetChain
        ⟨0, [], 3⟩).inquiry.Course turns (.ok x) ∧
      UInt64.size ≤ totalOf (x.balances ⟨0, [], 3⟩) ∧
      (EpochSurvey.run EpochSurvey.needs .usual Ledger.devnetChain
        ⟨0, [], 3⟩).inquiry.Course turns (.error .overflow)) ∧
    (∃ turns i x, (BlockSurvey.reach .usual Ledger.devnetHeavy BlockSurvey.needs (.slot 2)
      i).inquiry.Course turns (.ok (some x)) ∧
        UInt64.size ≤ totalOf (Ledger.devnetHeavy.weights.earned x.classification.flags)) ∧
    ∃ turns summary, (EpochSurvey.run EpochSurvey.needs .usual Ledger.devnetChain
      ⟨0, [], 3⟩).inquiry.Course turns (.ok summary) ∧ summary.slotCount?.isSome := by
  have hrich : (answer Ledger.devnetRich.answers (EpochSurvey.gather EpochSurvey.needs .usual
      Ledger.devnetChain ⟨0, [], 3⟩)).toOption.map (fun x =>
        decide (UInt64.size ≤ totalOf (x.balances ⟨0, [], 3⟩))) = some true := by decide +kernel
  have hheavy : answer Ledger.devnet.answers (BlockSurvey.run .usual Ledger.devnetHeavy
      BlockSurvey.needs (.slot 2)) = .error .overflow := by decide +kernel
  obtain ⟨x, hx, hlarge⟩ := exists_ok_of_toOption_map hrich
  have hbalance := of_decide_eq_true hlarge
  obtain ⟨summary, hsummary, -⟩ := EpochSurvey.exists_summary_devnet
  obtain ⟨i, y, hy, -, hweights⟩ := (overflows_only_of_totals _ _ _).block.1
    (course_of_answer hheavy)
  have hoverflow := (overflows_only_of_totals _ _ _).epoch.2
    ⟨x, course_of_answer hx, .inl hbalance⟩
  exact ⟨⟨_, x, course_of_answer hx, hbalance, hoverflow⟩, ⟨_, i, y, hy, hweights⟩, _, summary,
    course_of_answer hsummary,
    (overflows_only_of_totals _ _ _).slotCount (course_of_answer hsummary)⟩

/-- A chain of one block that commits to many blobs, and whose proposer is listed many times. -/
def Ledger.crowded (duties blobs : Nat) : Ledger where
  blocks := [(devnetRoot 0, {
    slot := 0
    proposer := 0
    parent := devnetRoot 0
    state := .zero 32
    body := .deneb [] ⟨⟨[]⟩, .zero 96⟩ ⟨0, .zero 32, []⟩ (.replicate blobs (.zero 48))
    signature := .zero 96 })]
  validators := []
  committees := []
  proposers := .replicate duties ⟨.zero 48, 0, 0⟩
  attesters := []

/-- Without validators the blobs of each duty are gathered all the same. -/
theorem EpochSurvey.answer_gather_crowded (duties blobs : Nat) :
    ∃ x, answer (Ledger.crowded duties blobs).answers
        (gather needs .usual Ledger.devnetChain ⟨0, [], 0⟩) = .ok x ∧
      x.balances ⟨0, [], 0⟩ = [] ∧ x.blobs = .replicate duties blobs := by
  let node := (Ledger.crowded duties blobs).answers
  let clock := Ledger.devnetChain.clock
  have hserved : ∀ slot, ∃ block?, node (.block (.slot slot)) = .ok block? := fun _ => ⟨_, rfl⟩
  have hrecords : answer node (participations .usual clock ⟨0, [], 0⟩ .everyone ∅) =
      .ok (records (awaiting .everyone ∅ (.ofList [])) []) := by
    have hcount : (clock.inclusionWindow 0 0).count = 0 := by decide
    have hnone {table : CommitteeTable} {wanted : ValidatorIndex → Bool} : answer node
        (inclusions .usual clock 0 table wanted (clock.inclusionWindow 0 0)) = .ok [] := by
      rw [inclusions, hcount]
      rfl
    refine (Yields.bind (answer_committees_eq_ok.2 ⟨[], rfl, rfl⟩) .committees ?_ :
      Yields node clock _ _).answer
    exact .bind hnone steady_inclusions (.pure _)
  have hsync : answer node (syncDuties clock 0 .everyone) = .ok (0, []) := by
    rw [syncDuties, if_pos (by decide)]
    rfl
  have hdue : answer node (proposals (Ledger.crowded duties blobs).proposers) =
      .ok (.replicate duties ⟨0, 0, true⟩) := by
    rw [node.answer_proposals clock fun duty _ => hserved duty.slot, Ledger.crowded,
      List.map_replicate]
    rfl
  have hblobs : answer node (blobsIn (.replicate duties 0)) = .ok (.replicate duties blobs) := by
    have hone : blobsAt node 0 = blobs := List.length_replicate
    rw [answer_blobsIn clock fun slot _ => hserved slot, List.map_replicate, hone]
  have hslots : (((List.replicate duties (⟨0, 0, true⟩ : Proposal)).filter
      (Selection.everyone.contains ·.validator)).filter (·.proposed)).map (·.slot) =
        .replicate duties 0 := by
    rw [List.filter_replicate_of_pos rfl, List.filter_replicate_of_pos rfl, List.map_replicate]
  have hgather : Yields node clock (gather needs .usual Ledger.devnetChain ⟨0, [], 0⟩)
      ⟨.everyone, .replicate duties ⟨0, 0, true⟩, ∅, records (awaiting .everyone ∅ (.ofList [])) [],
        0, [], .replicate duties blobs⟩ := by
    refine .bind (answer_lift_eq_ok.2 rfl) (.lift _ _) ?_
    refine .bind (rfl : answer node (select []) = .ok .everyone) steady_select ?_
    refine .bind (answer_during_eq_ok.2 (answer_ask_eq_ok.2 rfl)) (.during _ (.ask _)) ?_
    refine .bind hdue .proposals ?_
    refine .bind (answer_during_eq_ok.2 (answer_ask_eq_ok.2 rfl)) (.during _ (.ask _)) ?_
    refine .bind hrecords steady_participations ?_
    refine .bind hsync steady_syncDuties ?_
    exact .bind (hslots ▸ hblobs) steady_blobsIn (.pure _)
  exact ⟨_, hgather.answer, rfl, rfl⟩

/-- The rich chain since Altair, with a sync committee of two. The sync aggregates have one bit. -/
def Ledger.devnetMismatched : Answers :=
  { devnetRich with
    blocks := devnetRich.blocks.map (Prod.map id (signed [true])) }.answersWithSync [0, 1]

/-- Balances alone do not decide whether the summary of an epoch overflows. A run overflows without
    any balance if a block commits to many blobs and its proposer is listed many times. And a run
    whose requests are all answered does not overflow, though the balances do not fit, if it fails
    because of what the blocks hold. -/
theorem overflows_beyond_balances :
    (answer (Ledger.crowded 4294967296 4294967296).answers (EpochSurvey.run EpochSurvey.needs
        .usual Ledger.devnetChain ⟨0, [], 0⟩) = .error .overflow ∧
      ∃ x, answer (Ledger.crowded 4294967296 4294967296).answers (EpochSurvey.gather
        EpochSurvey.needs .usual Ledger.devnetChain ⟨0, [], 0⟩) = .ok x ∧
          totalOf (x.balances ⟨0, [], 0⟩) = 0) ∧
    answer Ledger.devnetMismatched (EpochSurvey.run EpochSurvey.needs .usual Ledger.devnetAltair
      ⟨0, [], 3⟩) = .error (.because [.processingSync 0] (.data (.sizeMismatch 1 2))) ∧
    (∀ request ∈ requests Ledger.devnetMismatched (EpochSurvey.run EpochSurvey.needs .usual
      Ledger.devnetAltair ⟨0, [], 3⟩), (Ledger.devnetMismatched request).isOk) ∧
    UInt64.size ≤ totalOf ((EpochSurvey.active ⟨0, [], 3⟩ .everyone
      Ledger.devnetRich.validators).map (·.effectiveBalance)) := by
  refine ⟨?_, by decide +kernel, by decide +kernel, by decide +kernel⟩
  obtain ⟨x, hx, hbalances, hblobs⟩ := EpochSurvey.answer_gather_crowded 4294967296 4294967296
  have hmany : UInt64.size ≤ x.blobs.sum := by rw [hblobs, List.sum_replicate_nat]
  have hoverflow := EpochSurvey.course_overflow_iff.2 ⟨x, course_of_answer hx, .inr hmany⟩
  refine ⟨answer_of_course hoverflow fun turn hturn => ?_, x, hx, by rw [hbalances]; rfl⟩
  obtain ⟨request, -, rfl⟩ := List.mem_map.1 hturn
  rfl

end BeaconDuties
