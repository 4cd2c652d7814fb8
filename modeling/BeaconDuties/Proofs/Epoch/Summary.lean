import BeaconDuties.Proofs.Epoch.Records
import BeaconDuties.Proofs.Survey.Ledger

/-!
What the summary of an epoch is made of.

`EpochSurvey.Completes` names the parts of a summary, of which those in `EpochSurvey.Makes` are
about attestations. A run finds them if it succeeds (`EpochSurvey.completes_of_run`), and succeeds
if there are such parts (`EpochSurvey.run_of_completes`). Among them are the records, which tell
what the chain holds of each duty (`EpochSurvey.recounted_of_run`).
-/

namespace BeaconDuties

open Survey

/-- Who meets a criterion by a summary, and who does not. -/
def EpochSummary.outcome (summary : EpochSummary) : Criterion → Outcome
  | .participating => summary.participating
  | .headCorrect => summary.headCorrect
  | .headTimely => summary.headTimely
  | .sourceTimely => summary.sourceTimely
  | .targetCorrect => summary.targetCorrect
  | .targetTimely => summary.targetTimely

namespace EpochSurvey

variable {node : Answers} {clock : Clock} {limits : Limits} {query : Query}
  {selection : Selection} {summary : EpochSummary}

/-- The selected validators that have duties in the epoch. -/
def active (query : Query) (selection : Selection) (infos : List ValidatorInfo) :
    List ValidatorInfo :=
  (registry selection infos).values.filter (·.isActiveIn query.epoch)

/-- A summary is made of whom it is about, the blocks that were due, the validators as they are in
    the epoch, and the records. -/
structure Makes (node : Answers) (clock : Clock) (limits : Limits) (query : Query)
    (selection : Selection) (due : List Proposal) (infos : List ValidatorInfo)
    (records : Std.ExtTreeMap ValidatorIndex Participation) (summary : EpochSummary) : Prop where
  selects : answer node (select query.ids) = .ok selection
  duties : ∃ duties, node (.proposers query.epoch) = .ok duties ∧
    answer node (Survey.proposals duties) = .ok due
  known : node (.validators (.slot (clock.firstSlot query.epoch)) selection.ids) = .ok infos
  participations : answer node
    (participations limits clock query selection (registry selection infos)) = .ok records
  proposals : summary.proposals = due.filter (selection.contains ·.validator)
  outcome : ∀ criterion : Criterion,
    criterion.outcome? (activeRecords (active query selection infos) records) =
      some (summary.outcome criterion)
  active : Share.ofBalances? ((active query selection infos).map (·.effectiveBalance)) =
    some summary.active

theorem steady_select {ids : List ValidatorId} : Steady node clock (select ids) :=
  .of_composed (composed_select trivial)

/-- A summary without names is about everyone, any other about those whom the node knows by the
    names. -/
theorem selection_of_select {ids : List ValidatorId} (clock : Clock)
    (h : answer node (select ids) = .ok selection) :
    (ids = [] ∧ selection = .everyone) ∨
      ∃ known, ids ≠ [] ∧ node (.validators .head ids) = .ok known ∧
        selection = .only (.ofList (known.map (·.index))) := by
  have h : Finds node clock (select ids) selection := finds_of_answer h
  rw [select] at h
  split at h
  · next he => exact .inl ⟨List.isEmpty_iff.1 he, (finds_pure.1 h).symm⟩
  · next he =>
    obtain ⟨known, hk, h⟩ := Finds.bind h (.during _ (.ask _))
    split at h
    · simp at h
    · exact .inr ⟨known, fun hi => he (List.isEmpty_iff.2 hi),
        answer_ask_eq_ok.1 (answer_during_eq_ok.1 hk), (finds_pure.1 h).symm⟩

theorem contains_of_select {ids : List ValidatorId} (clock : Clock)
    (h : answer node (select ids) = .ok selection) (v : ValidatorIndex) :
    selection.contains v ↔
      ids = [] ∨ ∃ known, node (.validators .head ids) = .ok known ∧ ∃ x ∈ known, x.index = v := by
  rcases selection_of_select clock h with ⟨rfl, rfl⟩ | ⟨known, hi, hk, rfl⟩
  · simp [Selection.contains]
  · simp [Selection.contains, hi, hk, Std.ExtTreeSet.contains_ofList]

theorem steady_tallySlots {count : Nat} {slot : Slot} {tally : SyncTally} :
    Steady node clock (tallySlots selection count slot tally) :=
  .of_composed (composed_tallySlots fun _ => trivial)

theorem steady_syncDuties {epoch : Epoch} : Steady node clock (syncDuties clock epoch selection) :=
  .of_composed (composed_syncDuties (fun _ => trivial) trivial)

theorem steady_blobsIn {slots : List Slot} : Steady node clock (blobsIn slots) :=
  .of_composed (composed_blobsIn fun _ _ => trivial)

theorem steady_gather {available : List Capability} {chain : Chain} :
    Steady node chain.clock (gather available limits chain query) :=
  .of_composed composed_gather

/-- A summary is complete with the parts that do not depend on attestations. -/
structure Completes (node : Answers) (clock : Clock) (limits : Limits) (query : Query)
    (selection : Selection) (due : List Proposal) (infos : List ValidatorInfo)
    (records : Std.ExtTreeMap ValidatorIndex Participation) (summary : EpochSummary) : Prop
    extends Makes node clock limits query selection due infos records summary where
  epoch : summary.epoch = query.epoch
  slots : summary.slots = clock.epochSlots query.epoch
  blocks : summary.blocks = due.countP (·.proposed)
  sync : answer node (syncDuties clock query.epoch selection) =
    .ok (summary.syncSeats, summary.syncMisses)
  blobs : ∃ counts, answer node
      (blobsIn ((summary.proposals.filter (·.proposed)).map (·.slot))) = .ok counts ∧
    checkedCount counts = some summary.blobs

/-- A summary adds up what has been gathered. -/
structure Findings.AddsUp (x : Findings) (clock : Clock) (query : Query) (summary : EpochSummary) :
    Prop where
  epoch : summary.epoch = query.epoch
  slots : summary.slots = clock.epochSlots query.epoch
  blocks : summary.blocks = x.due.countP (·.proposed)
  proposals : summary.proposals = x.due.filter (x.selection.contains ·.validator)
  sync : (summary.syncSeats, summary.syncMisses) = (x.syncSeats, x.syncMisses)
  blobs : checkedCount x.blobs = some summary.blobs
  outcome : ∀ criterion : Criterion,
    criterion.outcome? (x.counted query) = some (summary.outcome criterion)
  active : Share.ofBalances? (x.balances query) = some summary.active

theorem Findings.summary?_eq_some_iff {x : Findings} :
    x.summary? clock query = some summary ↔ x.AddsUp clock query summary := by
  simp only [summary?, Option.bind_eq_bind, Option.bind_eq_some_iff]
  constructor
  · rintro ⟨_, hblobs, _, hp, _, hh, _, hht, _, hst, _, ht, _, htt, _, hactive, h⟩
    cases h
    refine ⟨rfl, rfl, rfl, rfl, rfl, hblobs, fun criterion => ?_, hactive⟩
    cases criterion
    exacts [hp, hh, hht, hst, ht, htt]
  · rintro ⟨hepoch, hslots, hblocks, hproposals, hsync, hblobs, houtcome, hactive⟩
    refine ⟨_, hblobs, _, houtcome .participating, _, houtcome .headCorrect, _,
      houtcome .headTimely, _, houtcome .sourceTimely, _, houtcome .targetCorrect, _,
      houtcome .targetTimely, _, hactive, congrArg some ?_⟩
    obtain ⟨hseats, hmisses⟩ := Prod.mk.inj hsync
    rw [← hslots, ← hepoch, ← hblocks, ← hproposals, ← hseats, ← hmisses]
    rfl

theorem completes_of_run {available : List Capability} {chain : Chain}
    (h : answer node (run available limits chain query) = .ok summary) :
    Capability.require available needs = .ok () ∧ ∃ selection due infos records,
      Completes node chain.clock limits query selection due infos records summary := by
  obtain ⟨x, hx, h⟩ := Finds.bind (finds_of_answer h : Finds node chain.clock _ _) steady_gather
  rw [(Steady.total _).finds_iff, answer_total_eq_ok, Findings.summary?_eq_some_iff] at h
  obtain ⟨_, hneeds, hx⟩ := Finds.bind (finds_of_answer hx : Finds node chain.clock _ _) (.lift _ _)
  obtain ⟨selection, hselection, hx⟩ := Finds.bind hx steady_select
  obtain ⟨duties, hduties, hx⟩ := Finds.bind hx (.during _ (.ask _))
  obtain ⟨due, hdue, hx⟩ := Finds.bind hx .proposals
  obtain ⟨infos, hinfos, hx⟩ := Finds.bind hx (.during _ (.ask _))
  obtain ⟨records, hrecords, hx⟩ := Finds.bind hx steady_participations
  obtain ⟨⟨syncSeats, syncMisses⟩, hsync, hx⟩ := Finds.bind hx steady_syncDuties
  obtain ⟨counts, hcounts, hx⟩ := Finds.bind hx steady_blobsIn
  obtain rfl := finds_pure.1 hx
  refine ⟨answer_lift_eq_ok.1 hneeds, selection, due, infos, records,
    ⟨hselection, ⟨duties, answer_ask_eq_ok.1 (answer_during_eq_ok.1 hduties), hdue⟩,
      answer_ask_eq_ok.1 (answer_during_eq_ok.1 hinfos), hrecords, h.proposals, h.outcome,
      h.active⟩, h.epoch, h.slots, h.blocks, ?_, counts, ?_, h.blobs⟩
  · rw [h.sync]
    exact hsync
  · rw [h.proposals]
    exact hcounts

theorem makes_of_run {available : List Capability} {chain : Chain}
    (h : answer node (run available limits chain query) = .ok summary) :
    ∃ selection due infos records,
      Makes node chain.clock limits query selection due infos records summary := by
  obtain ⟨-, selection, due, infos, records, hc⟩ := completes_of_run h
  exact ⟨selection, due, infos, records, hc.toMakes⟩

/-- A run succeeds with any summary that is complete. -/
theorem run_of_completes {available : List Capability} {chain : Chain} {due : List Proposal}
    {infos : List ValidatorInfo} {records : Std.ExtTreeMap ValidatorIndex Participation}
    (hneeds : Capability.require available needs = .ok ())
    (h : Completes node chain.clock limits query selection due infos records summary) :
    answer node (run available limits chain query) = .ok summary := by
  obtain ⟨duties, hduties, hdue⟩ := h.duties
  obtain ⟨counts, hcounts, hblobs⟩ := h.blobs
  rw [h.proposals] at hcounts
  have hgather : Yields node chain.clock (gather available limits chain query)
      ⟨selection, due, registry selection infos, records, summary.syncSeats, summary.syncMisses,
        counts⟩ := by
    refine .bind (answer_lift_eq_ok.2 hneeds) (.lift _ _) ?_
    refine .bind h.selects steady_select ?_
    refine .bind (answer_during_eq_ok.2 (answer_ask_eq_ok.2 hduties)) (.during _ (.ask _)) ?_
    refine .bind hdue .proposals ?_
    refine .bind (answer_during_eq_ok.2 (answer_ask_eq_ok.2 h.known)) (.during _ (.ask _)) ?_
    refine .bind h.participations steady_participations ?_
    refine .bind h.sync steady_syncDuties ?_
    exact .bind hcounts steady_blobsIn (.pure _)
  have hadds : Findings.AddsUp ⟨selection, due, registry selection infos, records,
      summary.syncSeats, summary.syncMisses, counts⟩ chain.clock query summary :=
    ⟨h.epoch, h.slots, h.blocks, h.proposals, rfl, hblobs, h.outcome, h.active⟩
  have htotal : answer node (total (Findings.summary? chain.clock query _)) = .ok summary :=
    answer_total_eq_ok.2 (Findings.summary?_eq_some_iff.2 hadds)
  exact (Yields.bind hgather.answer steady_gather ((Steady.total _).yields htotal)).answer

/-- **The records of an epoch tell what the chain holds.** When a summary succeeds, its records are
    those of the selected validators with a seat in the epoch. Each tells of the first seat, of the
    first inclusion of a vote, and of what any attestation with the vote meets where it is included
    first. -/
theorem recounted_of_run {available : List Capability} {chain : Chain}
    (h : answer node (run available limits chain query) = .ok summary)
    (hroots : Set.InjOn Attestation.identityRoot
      {a | ∃ slot ∈ (chain.clock.inclusionWindow query.epoch query.current).slots,
        a ∈ node.attestationsAt slot}) :
    ∃ selection infos table records,
      (∀ v, selection.contains v ↔ query.ids = [] ∨
        ∃ known, node (.validators .head query.ids) = .ok known ∧ ∃ x ∈ known, x.index = v) ∧
      node (.validators (.slot (chain.clock.firstSlot query.epoch)) selection.ids) = .ok infos ∧
      node.HasCommittees chain.clock query.epoch table ∧
      answer node (participations limits chain.clock query selection
        (registry selection infos)) = .ok records ∧
      Recounted node chain.clock query selection (registry selection infos) table records := by
  obtain ⟨selection, due, infos, records, hm⟩ := makes_of_run h
  obtain ⟨table, -, ht, -⟩ := getElem?_participations hm.participations
  exact ⟨selection, infos, table, records, contains_of_select chain.clock hm.selects, hm.known, ht,
    hm.participations, recounted_of_participations hm.participations ht hroots⟩

/-- Three of the four validators of the small chain have voted. -/
theorem exists_summary_devnet :
    ∃ summary, answer Ledger.devnet.answers (run needs .usual Ledger.devnetChain ⟨0, [], 3⟩) =
        .ok summary ∧ summary.participating.met.validators = 3 := by
  have hrun : (answer Ledger.devnet.answers
      (run needs .usual Ledger.devnetChain ⟨0, [], 3⟩)).toOption.map
        (·.participating.met.validators) = some 3 := by decide +kernel
  exact exists_ok_of_toOption_map hrun

theorem recounted_of_run_devnet :
    ∃ selection infos table records,
      answer Ledger.devnet.answers (participations .usual Ledger.devnetChain.clock ⟨0, [], 3⟩
        selection (registry selection infos)) = .ok records ∧
      Recounted Ledger.devnet.answers Ledger.devnetChain.clock ⟨0, [], 3⟩ selection
        (registry selection infos) table records := by
  have hroots : ∀ a ∈ (Ledger.devnetChain.clock.inclusionWindow 0 3).slots.flatMap
        Ledger.devnet.answers.attestationsAt,
      ∀ b ∈ (Ledger.devnetChain.clock.inclusionWindow 0 3).slots.flatMap
        Ledger.devnet.answers.attestationsAt,
      a.identityRoot = b.identityRoot → a = b := by decide +kernel
  obtain ⟨summary, h, -⟩ := exists_summary_devnet
  obtain ⟨selection, infos, table, records, -, -, -, hp, hr⟩ := recounted_of_run h
    fun a ha b hb => hroots a (List.mem_flatMap.2 ha) b (List.mem_flatMap.2 hb)
  exact ⟨selection, infos, table, records, hp, hr⟩

end EpochSurvey

end BeaconDuties
