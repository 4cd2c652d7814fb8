import BeaconDuties.Proofs.Report.Parts
import BeaconDuties.Proofs.Survey.Ledger
import BeaconDuties.Proofs.Survey.Once
import BeaconDuties.Proofs.Survey.Requests
import BeaconDuties.Proofs.Survey.Session

/-!
Reports ask for nothing twice.

The summaries of an epoch and of validators go through the same blocks and headers several times,
and ask for each of them once at most, since all is looked up in one memory. The other requests of a
run are for different things (`EpochSurvey.topics`, `ValidatorSurvey.topics`).
-/

namespace BeaconDuties

open Survey

variable {available : List Capability} {limits : Limits} {clock : Clock} {chain : Chain}

namespace EpochSurvey

variable {query : Query} {selection : Selection}

/-- What is asked for, but for blocks and headers of slots. -/
def topics (clock : Clock) (query : Query) : List Request :=
  let first : StateId := .slot (clock.epochSlots query.epoch).first
  [.validators .head [], .proposers query.epoch, .validators first [],
    .committees (.slot (clock.firstSlot query.epoch)) (some query.epoch),
    .syncCommittee first (some query.epoch)]

theorem nodup_topics : (topics clock query).Nodup := by simp [topics]

theorem covers_select {ids : List ValidatorId} :
    Covers [.validators .head []] (select ids) :=
  .ite (.nothing (.pure _)) (.next (.during (.ask rfl)) fun _ =>
    .ite (.nothing (.fail nofun)) (.nothing (.pure _)))

theorem covers_participations {registry : Std.ExtTreeMap ValidatorIndex ValidatorInfo} :
    Covers [.committees (.slot (clock.firstSlot query.epoch)) (some query.epoch)]
      (participations limits clock query selection registry) :=
  .next .committees fun _ =>
    .skip (composed_inclusions (fun _ => trivial) fun _ _ => trivial) fun _ => .nothing (.pure _)

theorem covers_syncDuties {epoch : Epoch} :
    Covers [.syncCommittee (.slot (clock.epochSlots epoch).first) (some epoch)]
      (syncDuties clock epoch selection) :=
  .ite (.nothing (.pure _)) (.next (.during (.ask rfl)) fun _ =>
    .ite (.nothing (.fail nofun))
      (.skip (composed_tallySlots fun _ => trivial) fun _ => .nothing (.pure _)))

theorem covers_gather : Covers (topics chain.clock query) (gather available limits chain query) :=
  .skip .require fun _ => .next covers_select fun _ => .next (.during (.ask rfl)) fun _ =>
    .skip (.proposals fun _ _ => trivial) fun _ => .next (.during (.ask rfl)) fun _ =>
      .next covers_participations fun _ => .next covers_syncDuties fun _ =>
        .skip (composed_blobsIn fun _ _ => trivial) fun _ => .nothing (.pure _)

theorem covers_run : Covers (topics chain.clock query) (run available limits chain query) :=
  covers_gather.last fun _ => .total trivial

end EpochSurvey

namespace ValidatorSurvey

variable {query : Query} {duties : Duties}

/-- What is asked for, but for blocks and headers of slots. -/
def topics (clock : Clock) (query : Query) : List Request :=
  let first : StateId := .slot (clock.firstSlot query.epoch)
  [.validators first [], .proposers query.epoch, .attesters query.epoch [],
    .committees first (some query.epoch)]

theorem nodup_topics : (topics clock query).Nodup := by simp [topics]

theorem covers_credits :
    Covers [.committees (.slot (clock.firstSlot query.epoch)) (some query.epoch)]
      (credits limits clock query duties) :=
  .ite (.nothing (.pure _)) (.next .committees fun _ =>
    .nothing (.gatherSlots fun _ _ _ => composed_inSlot (fun _ => trivial) trivial))

theorem covers_summarize : Covers (topics clock query) (summarize limits clock query) := by
  refine .ite (.nothing (.fail nofun)) (.next (.during (.ask rfl)) fun _ =>
    .ite (.nothing (.fail nofun)) (.next (.during (.ask rfl)) fun _ =>
      .skip (.proposals fun _ _ => trivial) fun _ => ?_))
  -- duties are asked for in one branch only, and both go on alike
  refine .ite (.next (.nothing (.pure _)) fun _ => ?_) (.next (.during (.ask rfl)) fun _ => ?_)
  all_goals exact .next covers_credits fun _ => .nothing (.pure _)

theorem covers_run : Covers (topics chain.clock query) (run available limits chain query) :=
  .skip .require fun _ => covers_summarize

end ValidatorSurvey

theorem Request.topic?_of_capability : ∀ {request : Request},
    request.capability = .beaconCommittees → request.topic? = some request
  | committees .., _ => rfl

/-- Nothing is asked for twice, and committees only once. -/
structure AskedOnce (turns : List Turn) : Prop where
  distinct : turns.Pairwise fun turn later => turn.request ≠ later.request
  committees : turns.countP (fun turn => turn.request.capability = .beaconCommittees) ≤ 1

/-- A survey that covers different topics asks for nothing twice. -/
theorem Survey.Composed.askedOnce {α : Type} {P : Request → Prop} {survey : Survey α}
    {topics : List Request} {turns : List Turn} {result : Except Failure α}
    (h : Composed P True survey) (hcovers : Covers topics survey) (hnodup : topics.Nodup)
    (hcommittees : topics.countP (·.capability = .beaconCommittees) ≤ 1)
    (hc : survey.inquiry.Course turns result) : AskedOnce turns where
  distinct := h.pairwise_requests hcovers hnodup hc
  committees := by
    obtain ⟨after, hresume⟩ := course_inquiry.1 hc
    have hle := (hcovers.sublist hresume).countP_le (p := (·.capability = .beaconCommittees))
    rw [List.countP_filterMap] at hle
    refine (List.countP_mono_left fun turn _ ht => ?_).trans (hle.trans hcommittees)
    rw [Request.topic?_of_capability (of_decide_eq_true ht)]
    exact ht

/-- Fixed answers make a course. -/
theorem Survey.course_of_answer {α : Type} {node : Answers} {survey : Survey α}
    {result : Except Failure α} (h : survey.answer node = result) :
    survey.inquiry.Course
      ((survey.requests node).map fun request => ⟨request, node request⟩) result :=
  h ▸ survey.inquiry.course_run node

namespace Report

/-- **Answers are remembered, and faults are not.** In every sequence of look-ups and walks no key
    is answered twice, from its first answer on a key is known, and a fault leaves nothing behind,
    whatever a node answers at any time. So no run of a summary asks for anything twice, whether it
    succeeds or not. -/
theorem memoizes :
    (∀ visits after, Session .empty visits after → Memoized visits after) ∧
    (∀ available limits chain query turns result,
      (EpochSurvey.run available limits chain query).inquiry.Course turns result →
        AskedOnce turns) ∧
    ∀ available limits chain query turns result,
      (ValidatorSurvey.run available limits chain query).inquiry.Course turns result →
        AskedOnce turns := by
  refine ⟨fun _ _ h => h.memoized, fun _ _ _ _ _ _ h => ?_, fun _ _ _ _ _ _ h => ?_⟩
  · refine EpochSurvey.composed_run.askedOnce EpochSurvey.covers_run EpochSurvey.nodup_topics ?_ h
    simp [EpochSurvey.topics, Request.capability]
  · refine ValidatorSurvey.composed_run.askedOnce ValidatorSurvey.covers_run
      ValidatorSurvey.nodup_topics ?_ h
    simp [ValidatorSurvey.topics, Request.capability]

/-- Three requests for the header of slot 0, of which the first one fails. The second one is told
    that there is no header, and the third one is not made any more. -/
def retries : List Visit :=
  let lookUp : LookUp := .header 0
  [⟨.single lookUp, [⟨lookUp.request, .error .network⟩], .error (lookUp.failure .network)⟩,
    ⟨.single lookUp, [⟨lookUp.request, .ok none⟩], .ok none⟩, ⟨.single lookUp, [], .ok none⟩]

theorem session_retries : Session .empty retries (Memory.empty.keep (.header 0) none) := by
  let lookUp : LookUp := .header 0
  have hfails : (lookUp.survey.resume .empty).Course [⟨lookUp.request, .error .network⟩]
      (.error (lookUp.failure .network), .empty) :=
    (LookUp.course_unknown Memory.get?_empty).2 (.inl ⟨.network, rfl, rfl, rfl⟩)
  have hasks : (lookUp.survey.resume .empty).Course [⟨lookUp.request, .ok none⟩]
      (.ok none, Memory.empty.keep (.header 0) none) :=
    (LookUp.course_unknown Memory.get?_empty).2 (.inr ⟨none, rfl, rfl, rfl⟩)
  have hknows : (lookUp.survey.resume (Memory.empty.keep (.header 0) none)).Course []
      (.ok none, Memory.empty.keep (.header 0) none) :=
    (LookUp.course_known Memory.get?_keep_self).2 ⟨rfl, rfl, rfl⟩
  exact .cons hfails (.cons hasks (.cons hknows .nil))

/-- The memory holds what has been answered in the end, and the summaries of the small chain come
    about without a request that is made twice. -/
theorem memoizes_devnet :
    (∃ after, Session .empty retries after ∧ Memoized retries after ∧
      after.get? (.header 0) = some none) ∧
    ∃ turns turns' result result',
      (EpochSurvey.run EpochSurvey.needs .usual Ledger.devnetChain ⟨0, [], 3⟩).inquiry.Course
        turns (.ok result) ∧ AskedOnce turns ∧
      (ValidatorSurvey.run ValidatorSurvey.needs .usual Ledger.devnetChain
        ⟨0, [.index 0], 3⟩).inquiry.Course turns' (.ok result') ∧ AskedOnce turns' := by
  obtain ⟨hsession, hepoch, hvalidators⟩ := memoizes
  refine ⟨⟨_, session_retries, hsession _ _ session_retries, Memory.get?_keep_self⟩, ?_⟩
  have hrun : ((EpochSurvey.run EpochSurvey.needs .usual Ledger.devnetChain ⟨0, [], 3⟩).answer
      Ledger.devnet.answers).toOption.map (·.epoch) = some 0 := by decide +kernel
  have hrun' : ((ValidatorSurvey.run ValidatorSurvey.needs .usual Ledger.devnetChain
      ⟨0, [.index 0], 3⟩).answer Ledger.devnet.answers).toOption.map (·.epoch) = some 0 := by
    decide +kernel
  obtain ⟨result, hresult, -⟩ := exists_ok_of_toOption_map hrun
  obtain ⟨result', hresult', -⟩ := exists_ok_of_toOption_map hrun'
  have hcourse := course_of_answer hresult
  have hcourse' := course_of_answer hresult'
  exact ⟨_, _, result, result', hcourse, hepoch _ _ _ _ _ _ hcourse, hcourse',
    hvalidators _ _ _ _ _ _ hcourse'⟩

end Report

end BeaconDuties
