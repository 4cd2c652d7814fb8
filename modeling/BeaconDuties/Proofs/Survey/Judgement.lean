import BeaconDuties.Proofs.Survey.Descent
import BeaconDuties.Proofs.Survey.Ledger

/-!
Votes are judged by the chain alone.

A vote is judged by two headers, which walks back from its slot and from the first slot of its
target epoch resolve (`Answers.Resolves`). `Classification.JudgedBy` tells the judgement part by
part. What is remembered decides what is asked, and nothing else: whatever a node that always
answers alike has been asked before, a vote is judged as if nothing had been (`Session.judgesVotes`).
-/

namespace BeaconDuties

open Survey

variable {node : Answers} {limits : Limits} {memory : Memory} {clock : Clock}
  {data : AttestationData} {inclusion slot : Slot} {head target : Header}

/-! ## Headers that judge -/

/-- A walk back from a slot resolves this header: it is the canonical one of a slot within the
    limit, and all slots after that one are barren. -/
def Answers.Resolves (node : Answers) (limits : Limits) (slot : Slot) (header : Header) : Prop :=
  ∃ s, Visits node limits.maxWalk.toNat slot s ∧ node.CanonicalAt s header

theorem Survey.answer_canonical_eq_ok_iff (hlimits : limits.expired = false) :
    answer node (canonical limits slot) = .ok head ↔ node.Resolves limits slot head := by
  rw [answer_eq]
  exact (walksBack_of_headersFaithful hlimits headersFaithful_empty).found head

/-! ## Judgements -/

/-- A vote that is included in a slot is judged like this by two headers. -/
structure Classification.JudgedBy (clock : Clock) (data : AttestationData) (inclusion : Slot)
    (head target : Header) (x : Classification) : Prop where
  headRoot : x.head = head.root
  targetRoot : x.target = target.root
  delay : x.delay.toNat = inclusion.toNat - data.slot.toNat
  /-- The phase is that of the inclusion, and not that of the vote. -/
  phase : x.phase = clock.phaseAtSlot inclusion
  headCorrect : x.flags.headCorrect ↔ head.root = data.head
  headTimely : x.flags.headTimely ↔ x.flags.headCorrect ∧ x.delay = 1
  sourceTimely : x.flags.sourceTimely ↔ x.delay ≤ 5
  targetCorrect : x.flags.targetCorrect ↔ target.root = data.target.root
  targetTimely : x.flags.targetTimely ↔
    Phase.deneb ≤ x.phase ∨ x.flags.targetCorrect ∧ x.delay ≤ 32

/-- The judgement of a vote by two headers. -/
def judgement (clock : Clock) (data : AttestationData) (inclusion : Slot) (head target : Header) :
    Classification :=
  let delay := inclusion - data.slot
  let phase := clock.phaseAtSlot inclusion
  { head := head.root
    target := target.root
    delay, phase
    flags := .judge phase delay (head.root = data.head) (target.root = data.target.root) }

theorem judgedBy_judgement (h : data.slot < inclusion) :
    (judgement clock data inclusion head target).JudgedBy clock data inclusion head target := by
  have hdelay : (inclusion - data.slot).toNat = inclusion.toNat - data.slot.toNat :=
    UInt64.toNat_sub_of_le _ _ (UInt64.le_of_lt h)
  -- the vote has waited for at least one slot, so that at most one slot is one
  have hone : inclusion - data.slot ≤ 1 ↔ inclusion - data.slot = 1 := by
    rw [UInt64.lt_iff_toNat_lt] at h
    rw [UInt64.le_iff_toNat_le, ← UInt64.toNat_inj, hdelay, UInt64.toNat_one]
    omega
  refine ⟨rfl, rfl, hdelay, rfl, ?_, ?_, ?_, ?_, ?_⟩
  · exact decide_eq_true_iff
  · simp [judgement, VoteFlags.judge, headInTime, hone]
  · exact decide_eq_true_iff
  · exact decide_eq_true_iff
  · by_cases hphase : Phase.deneb ≤ clock.phaseAtSlot inclusion
    · simp [judgement, VoteFlags.judge, hphase]
    · simp [judgement, VoteFlags.judge, hphase, targetInTime]

attribute [ext] VoteFlags Classification

/-- There is one judgement by two headers. -/
theorem Classification.JudgedBy.unique {x y : Classification}
    (hx : x.JudgedBy clock data inclusion head target)
    (hy : y.JudgedBy clock data inclusion head target) : x = y := by
  have hdelay : x.delay = y.delay := UInt64.toNat_inj.1 (hx.delay.trans hy.delay.symm)
  have hphase : x.phase = y.phase := hx.phase.trans hy.phase.symm
  have hhead : x.flags.headCorrect = y.flags.headCorrect :=
    Bool.eq_iff_iff.2 (hx.headCorrect.trans hy.headCorrect.symm)
  have htarget : x.flags.targetCorrect = y.flags.targetCorrect :=
    Bool.eq_iff_iff.2 (hx.targetCorrect.trans hy.targetCorrect.symm)
  have hheadTimely : x.flags.headTimely = y.flags.headTimely := by
    rw [Bool.eq_iff_iff, hx.headTimely, hy.headTimely, hhead, hdelay]
  have hsourceTimely : x.flags.sourceTimely = y.flags.sourceTimely := by
    rw [Bool.eq_iff_iff, hx.sourceTimely, hy.sourceTimely, hdelay]
  have htargetTimely : x.flags.targetTimely = y.flags.targetTimely := by
    rw [Bool.eq_iff_iff, hx.targetTimely, hy.targetTimely, htarget, hdelay, hphase]
  exact Classification.ext (hx.headRoot.trans hy.headRoot.symm)
    (hx.targetRoot.trans hy.targetRoot.symm) hdelay hphase
    (VoteFlags.ext hhead hheadTimely hsourceTimely htarget htargetTimely)

/-! ## Judging -/

namespace Survey

/-- A vote that is included too early is not judged, and nothing is asked. -/
theorem classify_of_not_lt (h : ¬ data.slot < inclusion) :
    (outcome node (classify limits clock data inclusion) memory).1 =
        .error (.because [] (.data (.includedTooEarly data.slot inclusion))) ∧
      requestsFrom node (classify limits clock data inclusion) memory = [] := by
  have hdelay : inclusionDelay data inclusion = .error (.includedTooEarly data.slot inclusion) :=
    if_neg h
  rw [classify, hdelay]
  exact ⟨rfl, rfl⟩

/-- Whatever is remembered, a vote is judged by what walks find that start with nothing
    remembered. -/
theorem outcome_classify (hlimits : limits.expired = false) (hm : memory.Recalls node)
    (h : data.slot < inclusion) :
    (outcome node (classify limits clock data inclusion) memory).1 = do
      let head ← (answer node (canonical limits data.slot)).mapError
        (.during (.resolvingHead data.slot))
      let target ← (answer node (canonical limits (clock.firstSlot data.target.epoch))).mapError
        (.during (.resolvingTarget data.target.epoch))
      return judgement clock data inclusion head target := by
  have hunaided : ∀ {memory : Memory} {slot : Slot}, memory.Recalls node →
      (outcome node (canonical limits slot) memory).1 = answer node (canonical limits slot) :=
    fun hm => (walksBack_of_headersFaithful hlimits hm.header).unaided
  have hcomposed : Composed (fun _ => True) True (canonical limits data.slot) :=
    .canonicalWithin fun _ => trivial
  have hdelay : inclusionDelay data inclusion = .ok (inclusion - data.slot) := if_pos h
  rw [classify, hdelay, ← hunaided hm,
    ← @hunaided _ (clock.firstSlot data.target.epoch) (hcomposed.recalls hm)]
  change (outcome node (during _ _ >>= _) memory).1 = _
  rw [outcome_bind, outcome_during]
  rcases outcome node (canonical limits data.slot) memory with ⟨_ | head, between⟩
  · rfl
  · change (outcome node (during _ _ >>= _) between).1 = _
    rw [outcome_bind_pure, outcome_during]
    rcases outcome node (canonical limits (clock.firstSlot data.target.epoch)) between with
      ⟨_ | target, after⟩ <;> rfl

section Finds

variable {first second : Except Failure Header} {f g : Failure → Failure}
  {j : Header → Header → Classification} {x : Classification} {failure : Failure}

/-- A vote is judged if both walks find a header. -/
theorem judging_eq_ok :
    (do return j (← first.mapError f) (← second.mapError g)) = .ok x ↔
      ∃ head target, first = .ok head ∧ second = .ok target ∧ x = j head target := by
  constructor
  · intro h
    rcases first with _ | head
    · cases h
    · rcases second with _ | target
      · cases h
      · exact ⟨head, target, rfl, rfl, (Except.ok.inj h).symm⟩
  · rintro ⟨head, target, rfl, rfl, rfl⟩
    rfl

/-- Otherwise the failure is that of the first walk that fails. -/
theorem judging_eq_error :
    (do return j (← first.mapError f) (← second.mapError g)) = .error failure ↔
      (∃ cause, first = .error cause ∧ failure = f cause) ∨
        (∃ head, first = .ok head) ∧ ∃ cause, second = .error cause ∧ failure = g cause := by
  constructor
  · intro h
    rcases first with cause | head
    · exact .inl ⟨cause, rfl, (Except.error.inj h).symm⟩
    · rcases second with cause | target
      · exact .inr ⟨⟨head, rfl⟩, cause, rfl, (Except.error.inj h).symm⟩
      · cases h
  · rintro (⟨cause, rfl, rfl⟩ | ⟨⟨head, rfl⟩, cause, rfl, rfl⟩)
    · rfl
    · rfl

end Finds

/-- How a vote that is included after its slot is judged if there is time. -/
structure JudgesVote (node : Answers) (limits : Limits) (clock : Clock) (data : AttestationData)
    (inclusion : Slot) (result : Except Failure Classification) : Prop where
  /-- The target is sought from the first slot of its epoch, or from the last slot of all. -/
  targetSlot : (clock.firstSlot data.target.epoch).toNat =
    min (data.target.epoch.toNat * clock.slotsPerEpoch.toNat) (Nat.pow 2 64 - 1)
  /-- The vote is judged just if both walks find a header. -/
  succeeds : (∃ x, result = .ok x) ↔ (∃ head, node.Resolves limits data.slot head) ∧
    ∃ target, node.Resolves limits (clock.firstSlot data.target.epoch) target
  /-- It is judged by these headers. -/
  judged : ∀ x, result = .ok x ↔ ∃ head target, node.Resolves limits data.slot head ∧
    node.Resolves limits (clock.firstSlot data.target.epoch) target ∧
      x.JudgedBy clock data inclusion head target
  /-- The failure is that of the first walk that fails. -/
  failed : ∀ failure, result = .error failure ↔
    (∃ cause, answer node (canonical limits data.slot) = .error cause ∧
      failure = cause.during (.resolvingHead data.slot)) ∨
    (∃ head, node.Resolves limits data.slot head) ∧
      ∃ cause, answer node (canonical limits (clock.firstSlot data.target.epoch)) = .error cause ∧
        failure = cause.during (.resolvingTarget data.target.epoch)
  /-- What is remembered does not change the judgement. -/
  unaided : result = answer node (classify limits clock data inclusion)

theorem judgesVote_of_recalls (hlimits : limits.expired = false) (hm : memory.Recalls node)
    (h : data.slot < inclusion) :
    JudgesVote node limits clock data inclusion
      (outcome node (classify limits clock data inclusion) memory).1 := by
  have hresolves : ∀ {slot header}, answer node (canonical limits slot) = .ok header ↔
      node.Resolves limits slot header := answer_canonical_eq_ok_iff hlimits
  have hunaided : (outcome node (classify limits clock data inclusion) memory).1 =
      answer node (classify limits clock data inclusion) := by
    rw [answer_eq, outcome_classify hlimits hm h, outcome_classify hlimits .empty h]
  have hslot := toNat_satMul data.target.epoch clock.slotsPerEpoch
  have hjudged : ∀ x, (outcome node (classify limits clock data inclusion) memory).1 = .ok x ↔
      ∃ head target, node.Resolves limits data.slot head ∧
        node.Resolves limits (clock.firstSlot data.target.epoch) target ∧
          x.JudgedBy clock data inclusion head target := by
    intro x
    simp only [← hresolves]
    rw [outcome_classify hlimits hm h, judging_eq_ok]
    refine exists₂_congr fun head target => and_congr_right fun _ => and_congr_right fun _ => ?_
    exact ⟨fun hx => hx ▸ judgedBy_judgement h, fun hx => hx.unique (judgedBy_judgement h)⟩
  refine ⟨hslot, ?_, hjudged, fun failure => ?_, hunaided⟩
  · constructor
    · rintro ⟨x, hx⟩
      obtain ⟨head, target, hhead, htarget, -⟩ := (hjudged x).1 hx
      exact ⟨⟨head, hhead⟩, target, htarget⟩
    · rintro ⟨⟨head, hhead⟩, target, htarget⟩
      exact ⟨_, (hjudged _).2 ⟨head, target, hhead, htarget, judgedBy_judgement h⟩⟩
  · simp only [← hresolves]
    rw [outcome_classify hlimits hm h, judging_eq_error]

end Survey

namespace Session

variable {visits : List Visit}

/-- **Votes are judged by the chain.** After any look-ups and walks on a node that always answers
    alike, a vote that is included too early is refused, and nothing is asked. Any other vote is
    judged by the headers that walks back resolve, whatever is remembered of them. -/
theorem judgesVotes (h : Session .empty visits memory)
    (hfixed : ∀ turn ∈ turnsOf visits, turn.answer = node turn.request)
    (hlimits : limits.expired = false) (clock : Clock) (data : AttestationData)
    (inclusion : Slot) :
    (¬ data.slot < inclusion →
      (outcome node (classify limits clock data inclusion) memory).1 =
          .error (.because [] (.data (.includedTooEarly data.slot inclusion))) ∧
        requestsFrom node (classify limits clock data inclusion) memory = []) ∧
    (data.slot < inclusion →
      JudgesVote node limits clock data inclusion
        (outcome node (classify limits clock data inclusion) memory).1) :=
  ⟨classify_of_not_lt, judgesVote_of_recalls hlimits (h.recalls hfixed)⟩

/-- A vote of slot 4 whose target is another block than the first one of its epoch. -/
def astray : AttestationData := ⟨4, 0, .zero 32, ⟨0, .zero 32⟩, ⟨1, .replicate 32 1⟩⟩

/-- In the next slot, the vote is right and timely about its head, and timely about its source. In
    its own slot, it is refused. With a limit of two slots, its head is not found. -/
theorem judgesVotes_gap :
    ∃ memory, Session .empty lookedUp memory ∧
      (∀ turn ∈ turnsOf lookedUp, turn.answer = gap turn.request) ∧
      JudgesVote gap ⟨false, 3⟩ Ledger.devnetChain.clock astray 5
        (.ok ⟨.zero 32, .zero 32, 1, .phase0, ⟨true, true, true, false, false⟩⟩) ∧
      (outcome gap (classify ⟨false, 3⟩ Ledger.devnetChain.clock astray 4) memory).1 =
        .error (.because [] (.data (.includedTooEarly 4 4))) ∧
      JudgesVote gap ⟨false, 2⟩ Ledger.devnetChain.clock astray 5
        (.error (.because [.resolvingHead 4] (.walk (.stepLimit 4 2)))) := by
  have hjudged := fun limits hlimits => @judgesVotes gap limits _ _ session_lookedUp
    answer_of_mem_lookedUp hlimits Ledger.devnetChain.clock astray
  refine ⟨_, session_lookedUp, answer_of_mem_lookedUp, ?_, ?_, ?_⟩
  · exact (hjudged ⟨false, 3⟩ rfl 5).2 (by decide)
  · exact ((hjudged ⟨false, 3⟩ rfl 4).1 (by decide)).1
  · exact (hjudged ⟨false, 2⟩ rfl 5).2 (by decide)

end Session

end BeaconDuties
