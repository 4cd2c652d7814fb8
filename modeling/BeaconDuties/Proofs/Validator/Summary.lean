import BeaconDuties.Proofs.Order
import BeaconDuties.Proofs.Validator.Credits

/-!
What the summary of validators is made of.

`ValidatorSurvey.Makes` names the parts of a summary, and `ValidatorSurvey.makes_of_run` finds them
in any run that succeeds. With what a run checks besides (`ValidatorSurvey.Completes`) they are all
that it takes to succeed (`ValidatorSurvey.run_of_completes`).
-/

namespace BeaconDuties.ValidatorSurvey

open Survey

variable {node : Answers} {clock : Clock} {limits : Limits} {query : Query}
  {summary : ValidatorSummary}

/-- The indices of the validators that have duties in the epoch, in ascending order. -/
def active (query : Query) (found : List ValidatorInfo) : List ValidatorIndex :=
  ((sortOn ValidatorInfo.index found).filter (·.isActiveIn query.epoch)).map (·.index)

/-- A summary is made of the validators with the given names, their duties, the credits for these,
    and the blocks that were due. -/
structure Makes (node : Answers) (clock : Clock) (limits : Limits) (query : Query)
    (found : List ValidatorInfo) (duties : List AttesterDuty) (credited : List Credit)
    (due : List ProposerDuty) (proposals : List Proposal) (summary : ValidatorSummary) : Prop where
  named : query.ids ≠ []
  known : node (.validators (.slot (clock.firstSlot query.epoch)) query.ids) = .ok found
  proposers : node (.proposers query.epoch) = .ok due
  proposed : answer node (Survey.proposals (due.filter
    (((sortOn ValidatorInfo.index found).map (·.index)).contains ·.validator))) = .ok proposals
  attesters : active query found = [] ∧ duties = [] ∨
    node (.attesters query.epoch (active query found)) = .ok duties
  credits : answer node (credits limits clock query (dutiesOf duties)) = .ok credited
  report : summary = report clock query.epoch ((sortOn ValidatorInfo.index found).map (·.index))
    (active query found) (dutiesOf duties).values credited proposals

/-- All that a run checks before it reports: some validator is known, and duties are asked for only
    if somebody has any. -/
structure Completes (node : Answers) (clock : Clock) (limits : Limits) (query : Query)
    (found : List ValidatorInfo) (duties : List AttesterDuty) (credited : List Credit)
    (due : List ProposerDuty) (proposals : List Proposal) (summary : ValidatorSummary) : Prop
    extends Makes node clock limits query found duties credited due proposals summary where
  somebody : found ≠ []
  unasked : active query found = [] → duties = []

theorem completes_of_run {available : List Capability} {chain : Chain}
    (h : answer node (run available limits chain query) = .ok summary) :
    Capability.require available needs = .ok () ∧ ∃ found duties credited due proposals,
      Completes node chain.clock limits query found duties credited due proposals summary := by
  obtain ⟨_, hneeds, h⟩ := Finds.bind (finds_of_answer h : Finds node chain.clock _ _) (.lift _ _)
  refine ⟨answer_lift_eq_ok.1 hneeds, ?_⟩
  rw [summarize] at h
  dsimp only at h
  split at h
  · simp at h
  · next hids =>
    obtain ⟨found, hfound, h⟩ := Finds.bind h (.during _ (.ask _))
    split at h
    · simp at h
    · next hsome =>
      obtain ⟨due, hdue, h⟩ := Finds.bind h (.during _ (.ask _))
      obtain ⟨proposals, hproposals, h⟩ := Finds.bind h .proposals
      obtain ⟨duties, hduties, hn, h⟩ : ∃ duties, (active query found = [] ∧ duties = [] ∨
          node (.attesters query.epoch (active query found)) = .ok duties) ∧
          (active query found = [] → duties = []) ∧
          Finds node chain.clock (do
            let credits ← credits limits chain.clock query (dutiesOf duties)
            return report chain.clock query.epoch
              ((sortOn ValidatorInfo.index found).map (·.index)) (active query found)
              (dutiesOf duties).values credits proposals) summary := by
        split at h
        · next he =>
          obtain ⟨duties, hd, h⟩ := Finds.bind h (.pure _)
          have hd : duties = [] := (Except.ok.inj hd).symm
          exact ⟨duties, .inl ⟨List.isEmpty_iff.1 he, hd⟩, fun _ => hd, h⟩
        · next he =>
          obtain ⟨duties, hd, h⟩ := Finds.bind h (.during _ (.ask _))
          exact ⟨duties, .inr (answer_ask_eq_ok.1 (answer_during_eq_ok.1 hd)),
            fun hn => absurd (List.isEmpty_iff.2 hn) he, h⟩
      obtain ⟨credited, hcredits, h⟩ := Finds.bind h steady_credits
      obtain rfl := finds_pure.1 h
      exact ⟨found, duties, credited, due, proposals,
        ⟨fun he => hids (List.isEmpty_iff.2 he),
          answer_ask_eq_ok.1 (answer_during_eq_ok.1 hfound),
          answer_ask_eq_ok.1 (answer_during_eq_ok.1 hdue), hproposals, hduties, hcredits, rfl⟩,
        fun he => hsome (List.isEmpty_iff.2 he), hn⟩

theorem makes_of_run {available : List Capability} {chain : Chain}
    (h : answer node (run available limits chain query) = .ok summary) :
    ∃ found duties credited due proposals,
      Makes node chain.clock limits query found duties credited due proposals summary := by
  obtain ⟨-, found, duties, credited, due, proposals, hc⟩ := completes_of_run h
  exact ⟨found, duties, credited, due, proposals, hc.toMakes⟩

/-- A run succeeds with any summary that is complete. -/
theorem run_of_completes {available : List Capability} {chain : Chain}
    {found : List ValidatorInfo} {duties : List AttesterDuty} {credited : List Credit}
    {due : List ProposerDuty} {proposals : List Proposal}
    (hneeds : Capability.require available needs = .ok ())
    (h : Completes node chain.clock limits query found duties credited due proposals summary) :
    answer node (run available limits chain query) = .ok summary := by
  have hids : query.ids.isEmpty = false := by simpa using h.named
  have hfound : found.isEmpty = false := by simpa using h.somebody
  have hask {α : Type} (activity : Activity) {survey : Survey α} {a : α}
      (ha : answer node survey = .ok a) : answer node (during activity survey) = .ok a :=
    answer_during_eq_ok.2 ha
  have hsummarize : Yields node chain.clock (summarize limits chain.clock query) summary := by
    rw [summarize]
    simp only [hids, Bool.false_eq_true, if_false]
    refine .bind (hask _ (answer_ask_eq_ok.2 h.known)) (.during _ (.ask _)) ?_
    simp only [hfound, Bool.false_eq_true, if_false]
    refine .bind (hask _ (answer_ask_eq_ok.2 h.proposers)) (.during _ (.ask _)) ?_
    refine .bind h.proposed .proposals ?_
    have hreport : Yields node chain.clock (do
        let credits ← credits limits chain.clock query (dutiesOf duties)
        return report chain.clock query.epoch ((sortOn ValidatorInfo.index found).map (·.index))
          (active query found) (dutiesOf duties).values credits proposals) summary :=
      .bind h.credits steady_credits (h.report ▸ .pure _)
    split
    · next he =>
      refine .bind (a := duties) ?_ (.pure _) hreport
      rw [answer_pure, h.unasked (List.isEmpty_iff.1 he)]
    · next he =>
      have hd := h.attesters.resolve_left fun hn => he (List.isEmpty_iff.2 hn.1)
      exact .bind (hask _ (answer_ask_eq_ok.2 hd)) (.during _ (.ask _)) hreport
  exact (Yields.bind (answer_lift_eq_ok.2 hneeds) (.lift _ _) hsummarize).answer

namespace Makes

variable {found : List ValidatorInfo} {duties : List AttesterDuty} {credited : List Credit}
  {due : List ProposerDuty} {proposals : List Proposal} {table : CommitteeTable}

/-- The credits are those of the duties that some sighting in the window fulfils. -/
theorem crediting (hm : Makes node clock limits query found duties credited due proposals summary)
    (ht : node.HasCommittees clock query.epoch table) :
    dutiesOf duties = ∅ ∧ credited = [] ∨
      ∃ after, Crediting node clock table (dutiesOf duties) .empty (Sighting.list node clock
        query.epoch (clock.inclusionWindow query.epoch query.current).slots) credited after := by
  rcases crediting_of_credits hm.credits with ⟨he, hc⟩ | ⟨table', after, ht', hc⟩
  · exact .inl ⟨Std.ExtTreeMap.isEmpty_iff.1 he, hc⟩
  · exact .inr ⟨after, ht.unique ht' ▸ hc⟩

theorem mem_credited_iff
    (hm : Makes node clock limits query found duties credited due proposals summary)
    (ht : node.HasCommittees clock query.epoch table) {y : Credit} :
    y ∈ credited ↔ (dutiesOf duties)[y.duty.validator]? = some y.duty ∧
      y.Earned node clock table (Sighting.list node clock query.epoch
        (clock.inclusionWindow query.epoch query.current).slots) := by
  rcases hm.crediting ht with ⟨he, rfl⟩ | ⟨after, hc⟩
  · simp [he]
  · rw [hc.mem_iff keyed_dutiesOf]
    simp

theorem exists_credit
    (hm : Makes node clock limits query found duties credited due proposals summary)
    (ht : node.HasCommittees clock query.epoch table) {duty : AttesterDuty}
    (hd : (dutiesOf duties)[duty.validator]? = some duty)
    (hf : ∃ x ∈ Sighting.list node clock query.epoch
      (clock.inclusionWindow query.epoch query.current).slots, fulfils table duty x.attestation) :
    ∃ y ∈ credited, y.duty = duty := by
  rcases hm.crediting ht with ⟨he, rfl⟩ | ⟨after, hc⟩
  · simp [he] at hd
  · exact hc.exists_credit keyed_dutiesOf hd hf (by simp)

theorem nodup_credited
    (hm : Makes node clock limits query found duties credited due proposals summary) :
    (credited.map (·.duty.validator)).Nodup := by
  rcases crediting_of_credits hm.credits with ⟨-, rfl⟩ | ⟨table, after, -, hc⟩
  · exact .nil
  · exact hc.nodup keyed_dutiesOf

end Makes

/-! ## What is reported -/

/-- The fault of a vote that is wrong or late. -/
def Credit.fault (y : Credit) : VoteFault := ⟨seatOf y.duty, y.inclusion, y.classification.delay⟩

theorem faults_perm {credits : List Credit} {holds : Classification → Bool} :
    (faults credits holds).Perm ((credits.filter (holds ·.classification)).map (·.fault)) :=
  sortOn_perm

/-- A seat is missed if its duty is not credited. -/
theorem mem_missed {duties : List AttesterDuty} {credits : List Credit} {seat : Seat} :
    seat ∈ missed duties credits ↔ ∃ duty ∈ duties,
      (¬ ∃ y ∈ credits, y.duty.validator = duty.validator) ∧ seatOf duty = seat := by
  have hc : ∀ duty : AttesterDuty, (!(Std.ExtTreeSet.ofList
      (credits.map (·.duty.validator))).contains duty.validator) = true ↔
        ¬ ∃ y ∈ credits, y.duty.validator = duty.validator := by
    intro duty
    rw [Bool.not_eq_true', ← Bool.not_eq_true, Std.ExtTreeSet.contains_ofList,
      List.contains_iff_mem, List.mem_map]
  rw [missed, sortOn_perm.mem_iff, List.mem_map]
  simp only [List.mem_filter, hc, and_assoc]

theorem nodup_missed {duties : List AttesterDuty} {credits : List Credit}
    (h : (duties.map (·.validator)).Nodup) : (missed duties credits).Nodup := by
  refine sortOn_perm.nodup_iff.2 (List.Nodup.of_map Seat.validator ?_)
  rw [List.map_map]
  exact h.sublist (List.filter_sublist.map _)

theorem nodup_values_dutiesOf {duties : List AttesterDuty} :
    ((dutiesOf duties).values.map (·.validator)).Nodup := by
  have hk : (dutiesOf duties).values.map (·.validator) = (dutiesOf duties).keys :=
    Maps.map_values keyed_dutiesOf
  rw [hk]
  exact Std.ExtTreeMap.nodup_keys

end BeaconDuties.ValidatorSurvey
