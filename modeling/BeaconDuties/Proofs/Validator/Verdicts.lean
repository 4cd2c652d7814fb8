import BeaconDuties.Proofs.Survey.Ledger
import BeaconDuties.Proofs.Validator.Summary
import Mathlib.Data.List.Find

/-!
How the votes of validators are judged.

`ValidatorSurvey.decided` is the attestation that decides on a duty: of all that the inclusion
window has, the first one that votes for the duty's slot with its validator's vote.

* `Sighting.WrongHead`, `Sighting.WrongTarget`, `Sighting.delay`, `Sighting.LateTarget`: what may be
  wrong with it.
* `ValidatorSurvey.Verdicts`: a summary tells of each duty whether an attestation decides on it and
  what is wrong with this attestation, and nothing else.

Every summary gives these verdicts (`ValidatorSurvey.verdicts_of_run`).
-/

namespace BeaconDuties

open Survey

/-! ## What may be wrong with a vote -/

/-- The canonical block at a slot, or the last one before it, has another root. -/
def Answers.Contradicts (node : Answers) (slot : Slot) (root : Root) : Prop :=
  ∃ header, node.CanonicalBefore slot header ∧ header.root ≠ root

theorem Answers.CanonicalBefore.contradicts_iff {node : Answers} {slot : Slot} {header : Header}
    {root : Root} (h : node.CanonicalBefore slot header) :
    node.Contradicts slot root ↔ header.root ≠ root := by
  constructor
  · rintro ⟨header', h', hn⟩
    exact h.unique h' ▸ hn
  · intro hn
    exact ⟨header, h, hn⟩

namespace Sighting

/-- A vote is not for the block that is canonical at its slot. -/
def WrongHead (node : Answers) (x : Sighting) : Prop :=
  node.Contradicts x.attestation.data.slot x.attestation.data.head

/-- The target of a vote is not the block that is canonical at the first slot of its target
    epoch. -/
def WrongTarget (node : Answers) (clock : Clock) (x : Sighting) : Prop :=
  node.Contradicts (clock.firstSlot x.attestation.data.target.epoch) x.attestation.data.target.root

/-- How many slots passed before a vote was included. -/
def delay (x : Sighting) : UInt64 := x.slot - x.attestation.data.slot

/-- A vote was included too late for its target, in a phase that has a limit. -/
def LateTarget (clock : Clock) (x : Sighting) : Prop :=
  32 < x.delay ∧ ¬ .deneb ≤ clock.phaseAtSlot x.slot

/-- A vote can be judged: it was included after its slot, and there are canonical blocks where it
    votes. -/
structure Judgeable (node : Answers) (clock : Clock) (x : Sighting) : Prop where
  later : x.attestation.data.slot < x.slot
  head : ∃ header, node.CanonicalBefore x.attestation.data.slot header
  target : ∃ header, node.CanonicalBefore (clock.firstSlot x.attestation.data.target.epoch) header

end Sighting

namespace Classification.Judges

variable {node : Answers} {clock : Clock} {x : Sighting} {c : Classification}

theorem judgeable (h : c.Judges node clock x.attestation.data x.slot) : x.Judgeable node clock := by
  obtain ⟨head, hh, -⟩ := h.head
  obtain ⟨target, ht, -⟩ := h.target
  exact ⟨h.later, ⟨head, hh⟩, ⟨target, ht⟩⟩

theorem headCorrect_iff (h : c.Judges node clock x.attestation.data x.slot) :
    c.flags.headCorrect ↔ ¬ x.WrongHead node := by
  obtain ⟨header, hh, hr⟩ := h.head
  rw [h.flags, Sighting.WrongHead, hh.contradicts_iff, not_not, hr]
  exact decide_eq_true_iff

theorem targetCorrect_iff (h : c.Judges node clock x.attestation.data x.slot) :
    c.flags.targetCorrect ↔ ¬ x.WrongTarget node clock := by
  obtain ⟨header, ht, hr⟩ := h.target
  rw [h.flags, Sighting.WrongTarget, ht.contradicts_iff, not_not, hr]
  exact decide_eq_true_iff

theorem headInTime_iff (h : c.Judges node clock x.attestation.data x.slot) :
    headInTime c.delay ↔ ¬ 1 < x.delay := by
  rw [headInTime, decide_eq_true_iff, h.delay, UInt64.not_lt, Sighting.delay]

theorem sourceInTime_iff (h : c.Judges node clock x.attestation.data x.slot) :
    sourceInTime c.delay ↔ ¬ 5 < x.delay := by
  rw [sourceInTime, decide_eq_true_iff, h.delay, UInt64.not_lt, Sighting.delay]

theorem targetInTime_iff (h : c.Judges node clock x.attestation.data x.slot) :
    targetInTime c.phase c.delay ↔ ¬ x.LateTarget clock := by
  rw [targetInTime, h.phase, h.delay, Bool.or_eq_true, decide_eq_true_iff, decide_eq_true_iff,
    Sighting.LateTarget, Sighting.delay, not_and_or, not_not, UInt64.not_lt, or_comm]

theorem headTimely_iff (h : c.Judges node clock x.attestation.data x.slot) :
    c.flags.headTimely ↔ ¬ x.WrongHead node ∧ ¬ 1 < x.delay := by
  have hf : c.flags.headTimely = (c.flags.headCorrect && headInTime c.delay) := by
    rw [h.flags]
    rfl
  rw [hf, Bool.and_eq_true, h.headCorrect_iff, h.headInTime_iff]

theorem sourceTimely_iff (h : c.Judges node clock x.attestation.data x.slot) :
    c.flags.sourceTimely ↔ ¬ 5 < x.delay := by
  rw [← h.sourceInTime_iff, h.flags]
  rfl

/-- A right target is timely unless it is late for its phase. -/
theorem targetTimely_iff (h : c.Judges node clock x.attestation.data x.slot) :
    (c.flags.targetCorrect && c.flags.targetTimely) ↔
      ¬ x.WrongTarget node clock ∧ ¬ x.LateTarget clock := by
  rw [Bool.and_eq_true, ← h.targetCorrect_iff, ← h.targetInTime_iff]
  refine and_congr_right fun hc => ?_
  rw [h.flags] at hc ⊢
  simp only [VoteFlags.judge] at hc ⊢
  rw [hc, targetInTime]
  split <;> simp_all

end Classification.Judges

namespace ValidatorSurvey

variable {node : Answers} {clock : Clock} {limits : Limits} {query : Query} {duty : AttesterDuty}
  {duties : List AttesterDuty} {slot : Slot} {P : Sighting → Prop}

/-! ## What decides on a duty -/

/-- The attestations of the epoch that the inclusion window has, in the order of the chain. -/
def inWindow (node : Answers) (clock : Clock) (query : Query) : List Sighting :=
  Sighting.list node clock query.epoch (clock.inclusionWindow query.epoch query.current).slots

/-- The first attestation in the inclusion window that votes for the slot of a duty with the vote of
    its validator. -/
def decided (node : Answers) (clock : Clock) (query : Query) (duty : AttesterDuty) :
    Option Sighting :=
  (inWindow node clock query).find? fun x =>
    x.attestation.data.slot = duty.slot && duty.validator ∈ node.votersOf clock x.attestation

/-- Some block in the inclusion window has an attestation for the slot of a duty, which is in the
    epoch, with the vote of its validator. -/
def Voted (node : Answers) (clock : Clock) (query : Query) (duty : AttesterDuty) : Prop :=
  clock.epochOf duty.slot = query.epoch ∧
    ∃ slot ∈ (clock.inclusionWindow query.epoch query.current).slots, ∃ block,
      node (.block (.slot slot)) = .ok (some block) ∧ ∃ a ∈ block.attestations,
        a.data.slot = duty.slot ∧ duty.validator ∈ node.votersOf clock a

theorem isSome_decided : (decided node clock query duty).isSome ↔ Voted node clock query duty := by
  simp only [decided, Voted, List.find?_isSome, Bool.and_eq_true, decide_eq_true_eq, inWindow,
    Sighting.mem_list, Answers.mem_attestationsAt]
  constructor
  · rintro ⟨x, ⟨hw, ⟨block, hb, ha⟩, he⟩, hs, hv⟩
    exact ⟨hs ▸ he, x.slot, hw, block, hb, x.attestation, ha, hs, hv⟩
  · rintro ⟨he, slot, hw, block, hb, a, ha, hs, hv⟩
    exact ⟨⟨slot, a⟩, ⟨hw, ⟨block, hb, ha⟩, hs ▸ he⟩, hs, hv⟩

theorem decided_eq {table : CommitteeTable} (ht : node.HasCommittees clock query.epoch table) :
    decided node clock query duty =
      (inWindow node clock query).find? fun x => fulfils table duty x.attestation := by
  refine List.find?_congr fun x hx => ?_
  have he := (Sighting.mem_list.1 hx).2.2
  rw [node.votersOf_eq (he ▸ ht), fulfils]

/-! ## Verdicts -/

/-- A list of votes is that of the duties that an attestation of a kind decides on. It is in the
    order of their seats, and names the inclusion of each of them. -/
structure Lists (node : Answers) (clock : Clock) (query : Query) (duties : List AttesterDuty)
    (P : Sighting → Prop) (faults : List VoteFault) : Prop where
  mem_iff : ∀ fault, fault ∈ faults ↔ ∃ duty ∈ duties, ∃ x,
    decided node clock query duty = some x ∧ P x ∧ fault = ⟨seatOf duty, x.slot, x.delay⟩
  nodup : faults.Nodup
  ordered : faults.Pairwise fun x y => (compare x.seat y.seat).isLE

open Classical in
/-- How many duties in a slot there are that an attestation of a kind decides on. -/
noncomputable def count (node : Answers) (clock : Clock) (query : Query)
    (duties : List AttesterDuty) (slot : Slot) (P : Sighting → Prop) : Nat :=
  duties.countP fun duty =>
    duty.slot = slot ∧ ∃ x, decided node clock query duty = some x ∧ P x

/-- A row counts the duties in its slot and the verdicts on them. -/
structure Counts (node : Answers) (clock : Clock) (query : Query) (duties : List AttesterDuty)
    (row : SlotDuties) : Prop where
  expected : row.expected = duties.countP (·.slot = row.slot)
  included : row.included = count node clock query duties row.slot fun _ => True
  correctHead : row.correctHead = count node clock query duties row.slot fun x =>
    ¬ x.WrongHead node
  timelyHead : row.timelyHead = count node clock query duties row.slot fun x =>
    ¬ x.WrongHead node ∧ ¬ 1 < x.delay
  correctTarget : row.correctTarget = count node clock query duties row.slot fun x =>
    ¬ x.WrongTarget node clock
  timelyTarget : row.timelyTarget = count node clock query duties row.slot fun x =>
    ¬ x.WrongTarget node clock ∧ ¬ x.LateTarget clock
  timelySource : row.timelySource = count node clock query duties row.slot fun x => ¬ 5 < x.delay

/-- A summary tells how duties were fulfilled: by the attestation that decides on them, and by
    nothing else. -/
structure Verdicts (node : Answers) (clock : Clock) (query : Query) (duties : List AttesterDuty)
    (summary : ValidatorSummary) : Prop where
  /-- A duty is credited if there is a vote for it. -/
  credited : ∀ duty, (decided node clock query duty).isSome ↔ Voted node clock query duty
  judgeable : ∀ duty ∈ duties, ∀ x, decided node clock query duty = some x →
    x.Judgeable node clock
  participating : summary.participating =
    duties.countP fun duty => (decided node clock query duty).isSome
  nonParticipating : ∀ seat, seat ∈ summary.nonParticipating ↔
    ∃ duty ∈ duties, ¬ Voted node clock query duty ∧ seatOf duty = seat
  nodup_nonParticipating : summary.nonParticipating.Nodup
  ordered_nonParticipating : summary.nonParticipating.Pairwise fun x y => (compare x y).isLE
  incorrectHead : Lists node clock query duties (·.WrongHead node) summary.incorrectHead
  untimelyHead : Lists node clock query duties (1 < ·.delay) summary.untimelyHead
  untimelySource : Lists node clock query duties (5 < ·.delay) summary.untimelySource
  incorrectTarget : Lists node clock query duties (·.WrongTarget node clock) summary.incorrectTarget
  untimelyTarget : Lists node clock query duties (·.LateTarget clock) summary.untimelyTarget
  /-- There is one row for each slot with duties. -/
  slots : ∀ slot, slot ∈ summary.slots.map (·.slot) ↔ ∃ duty ∈ duties, duty.slot = slot
  ordered_slots : (summary.slots.map (·.slot)).Pairwise (· < ·)
  counts : ∀ row ∈ summary.slots, Counts node clock query duties row

/-! ## The verdicts of a summary -/

section Duties

variable (hone : (duties.map (·.validator)).Nodup)
include hone

theorem getElem?_dutiesOf_eq_some :
    (dutiesOf duties)[duty.validator]? = some duty ↔ duty ∈ duties := by
  refine ⟨mem_of_getElem?_dutiesOf, fun hd => ?_⟩
  obtain ⟨found, hf⟩ := Option.isSome_iff_exists.1 (isSome_getElem?_dutiesOf.2 ⟨duty, hd, rfl⟩)
  rw [hf, List.inj_on_of_nodup_map hone (mem_of_getElem?_dutiesOf hf) hd (keyed_dutiesOf hf)]

/-- If no validator has two duties, all duties count. -/
theorem values_dutiesOf_perm : (dutiesOf duties).values.Perm duties := by
  refine (List.perm_ext_iff_of_nodup (nodup_values_dutiesOf.of_map _) (hone.of_map _)).2
    fun duty => ?_
  rw [Maps.mem_values, ← getElem?_dutiesOf_eq_some hone]
  constructor
  · rintro ⟨v, hv⟩
    rwa [keyed_dutiesOf hv]
  · intro h
    exact ⟨_, h⟩

end Duties

theorem mem_dutySlots : slot ∈ dutySlots duties ↔ ∃ duty ∈ duties, duty.slot = slot := by
  rw [dutySlots, Std.ExtTreeMap.mem_keys, Std.ExtTreeMap.mem_iff_isSome_getElem?, getElem?_groupsOn]
  split
  · next h =>
    rw [List.filter_eq_nil_iff] at h
    simpa using h
  · next h =>
    obtain ⟨duty, hd⟩ := List.exists_mem_of_ne_nil _ h
    obtain ⟨hd, hs⟩ := List.mem_filter.1 hd
    simpa using ⟨duty, hd, by simpa using hs⟩

theorem pairwise_dutySlots : (dutySlots duties).Pairwise (· < ·) :=
  Std.ExtTreeMap.ordered_keys.imp Std.compare_eq_lt.1

namespace Makes

variable {found : List ValidatorInfo} {credited : List Credit} {due : List ProposerDuty}
  {proposals : List Proposal} {summary : ValidatorSummary} {holds : Classification → Bool}
  (m : Makes node clock limits query found duties credited due proposals summary)
  (hone : (duties.map (·.validator)).Nodup)
include m hone

/-- A duty is credited to the attestation that decides on it. -/
theorem mem_credited_iff_decided {y : Credit} :
    y ∈ credited ↔ y.duty ∈ duties ∧ ∃ x, decided node clock query y.duty = some x ∧
      y.inclusion = x.slot ∧ y.classification.Judges node clock x.attestation.data x.slot := by
  rw [← getElem?_dutiesOf_eq_some hone]
  rcases crediting_of_credits m.credits with ⟨he, rfl⟩ | ⟨table, -, ht, -⟩
  · simp [Std.ExtTreeMap.isEmpty_iff.1 he]
  · rw [m.mem_credited_iff ht, decided_eq ht]
    rfl

theorem exists_credit_iff :
    (∃ y ∈ credited, y.duty = duty) ↔ duty ∈ duties ∧ (decided node clock query duty).isSome := by
  constructor
  · rintro ⟨y, hy, rfl⟩
    obtain ⟨hd, x, hx, -⟩ := (m.mem_credited_iff_decided hone).1 hy
    exact ⟨hd, Option.isSome_of_eq_some hx⟩
  · rintro ⟨hd, hx⟩
    rw [← getElem?_dutiesOf_eq_some hone] at hd
    rcases crediting_of_credits m.credits with ⟨he, -⟩ | ⟨table, -, ht, -⟩
    · simp [Std.ExtTreeMap.isEmpty_iff.1 he] at hd
    · rw [decided_eq ht, List.find?_isSome] at hx
      exact m.exists_credit ht hd hx

theorem exists_credit_of_validator_iff (hd : duty ∈ duties) :
    (∃ y ∈ credited, y.duty.validator = duty.validator) ↔
      (decided node clock query duty).isSome := by
  rw [← and_iff_right (a := duty ∈ duties) (b := (decided node clock query duty).isSome) hd,
    ← m.exists_credit_iff hone]
  constructor
  · rintro ⟨y, hy, hv⟩
    have hyd := ((m.mem_credited_iff_decided hone).1 hy).1
    exact ⟨y, hy, List.inj_on_of_nodup_map hone hyd hd hv⟩
  · rintro ⟨y, hy, rfl⟩
    exact ⟨y, hy, rfl⟩

/-- The credits are for the duties that attestations decide on. -/
theorem credited_perm :
    (credited.map (·.duty)).Perm
      (duties.filter fun duty => (decided node clock query duty).isSome) := by
  have hn : (credited.map (·.duty)).Nodup := by
    refine List.Nodup.of_map AttesterDuty.validator ?_
    rw [List.map_map]
    exact m.nodup_credited
  refine (List.perm_ext_iff_of_nodup hn ((hone.of_map _).filter _)).2 fun duty => ?_
  rw [List.mem_map, List.mem_filter, ← m.exists_credit_iff hone]

/-- A list of faults is that of the duties that an attestation of a kind decides on. -/
theorem lists (hP : ∀ {x c}, c.Judges node clock x.attestation.data x.slot → (holds c ↔ ¬ P x)) :
    Lists node clock query duties P (faults credited fun c => !holds c) where
  mem_iff fault := by
    have hP : ∀ {x c}, c.Judges node clock x.attestation.data x.slot → (!holds c ↔ P x) := by
      intro x c hj
      rw [Bool.not_eq_true', ← Bool.not_eq_true, hP hj, not_not]
    rw [faults_perm.mem_iff, List.mem_map]
    constructor
    · rintro ⟨y, hy, rfl⟩
      obtain ⟨hy, hh⟩ := List.mem_filter.1 hy
      obtain ⟨hd, x, hx, hi, hj⟩ := (m.mem_credited_iff_decided hone).1 hy
      refine ⟨y.duty, hd, x, hx, (hP hj).1 hh, ?_⟩
      rw [Credit.fault, hi, hj.delay, Sighting.delay]
    · rintro ⟨duty, hd, x, hx, hp, rfl⟩
      obtain ⟨y, hy, rfl⟩ := (m.exists_credit_iff hone).2 ⟨hd, Option.isSome_of_eq_some hx⟩
      obtain ⟨-, x', hx', hi, hj⟩ := (m.mem_credited_iff_decided hone).1 hy
      obtain rfl : x' = x := Option.some.inj (hx'.symm.trans hx)
      refine ⟨y, List.mem_filter.2 ⟨hy, (hP hj).2 hp⟩, ?_⟩
      rw [Credit.fault, hi, hj.delay, Sighting.delay]
  nodup := by
    refine faults_perm.nodup_iff.2 (List.Nodup.of_map (·.seat.validator) ?_)
    rw [List.map_map]
    exact m.nodup_credited.sublist (List.filter_sublist.map _)
  ordered := pairwise_sortOn

/-- Credits for the duties in a slot are counted as the attestations that decide on them are. -/
theorem countP_credited (holds : Classification → Bool)
    (hP : ∀ {x c}, c.Judges node clock x.attestation.data x.slot → (holds c ↔ P x)) :
    (credited.filter (·.duty.slot = slot)).countP (fun y => holds y.classification) =
      count node clock query duties slot P := by
  classical
  have hq : ∀ y ∈ credited, (holds y.classification && y.duty.slot = slot) = true ↔
      decide (y.duty.slot = slot ∧ ∃ x, decided node clock query y.duty = some x ∧ P x) = true := by
    intro y hy
    obtain ⟨-, x, hx, -, hj⟩ := (m.mem_credited_iff_decided hone).1 hy
    simp [hx, hP hj, and_comm]
  have hc := (m.credited_perm hone).countP_eq fun duty =>
    decide (duty.slot = slot ∧ ∃ x, decided node clock query duty = some x ∧ P x)
  rw [List.countP_map, List.countP_filter] at hc
  rw [List.countP_filter, List.countP_congr hq, count]
  refine hc.trans (List.countP_congr fun duty _ => ?_)
  simp only [Bool.and_eq_true, decide_eq_true_eq]
  refine and_iff_left_of_imp ?_
  rintro ⟨-, x, hx, -⟩
  exact Option.isSome_of_eq_some hx

theorem counts {row : SlotDuties} (hr : row ∈ summary.slots) :
    Counts node clock query duties row := by
  rw [m.report] at hr
  obtain ⟨slot, -, rfl⟩ := List.mem_map.1 hr
  constructor
  case expected => exact (values_dutiesOf_perm hone).countP_eq _
  case included =>
    refine Eq.trans ?_ (m.countP_credited hone (fun _ => true) fun _ => by simp)
    rw [List.countP_true]
    rfl
  case correctHead => exact m.countP_credited hone _ fun hj => hj.headCorrect_iff
  case timelyHead => exact m.countP_credited hone _ fun hj => hj.headTimely_iff
  case correctTarget => exact m.countP_credited hone _ fun hj => hj.targetCorrect_iff
  case timelyTarget => exact m.countP_credited hone _ fun hj => hj.targetTimely_iff
  case timelySource => exact m.countP_credited hone _ fun hj => hj.sourceTimely_iff

theorem verdicts : Verdicts node clock query duties summary := by
  have hv := values_dutiesOf_perm hone
  have hslots : summary.slots.map (·.slot) = dutySlots (dutiesOf duties).values := by
    rw [m.report]
    exact List.map_map.trans (List.map_id _)
  constructor
  case credited => exact fun _ => isSome_decided
  case judgeable =>
    intro duty hd x hx
    obtain ⟨y, hy, rfl⟩ := (m.exists_credit_iff hone).2 ⟨hd, Option.isSome_of_eq_some hx⟩
    obtain ⟨-, x', hx', -, hj⟩ := (m.mem_credited_iff_decided hone).1 hy
    rw [← Option.some.inj (hx'.symm.trans hx)]
    exact hj.judgeable
  case participating =>
    have hl := (m.credited_perm hone).length_eq
    rw [List.length_map, ← List.countP_eq_length_filter] at hl
    rw [m.report]
    exact hl
  case nonParticipating =>
    intro seat
    have hmissed : summary.nonParticipating = missed (dutiesOf duties).values credited := by
      rw [m.report]
      rfl
    rw [hmissed, mem_missed]
    simp only [hv.mem_iff]
    refine exists_congr fun duty => and_congr_right fun hd => and_congr_left' ?_
    rw [m.exists_credit_of_validator_iff hone hd, isSome_decided]
  case nodup_nonParticipating =>
    rw [m.report]
    exact nodup_missed nodup_values_dutiesOf
  case ordered_nonParticipating =>
    rw [m.report]
    exact pairwise_sortOn
  case incorrectHead =>
    rw [m.report]
    exact m.lists hone fun hj => hj.headCorrect_iff
  case untimelyHead =>
    rw [m.report]
    exact m.lists hone fun hj => hj.headInTime_iff
  case untimelySource =>
    rw [m.report]
    exact m.lists hone fun hj => hj.sourceInTime_iff
  case incorrectTarget =>
    rw [m.report]
    exact m.lists hone fun hj => hj.targetCorrect_iff
  case untimelyTarget =>
    rw [m.report]
    exact m.lists hone fun hj => hj.targetInTime_iff
  case slots =>
    intro slot
    rw [hslots, mem_dutySlots]
    simp only [hv.mem_iff]
  case ordered_slots => exact hslots ▸ pairwise_dutySlots
  case counts => exact fun _ hr => m.counts hone hr

end Makes

/-- **A duty is judged by the first vote for it.** If no validator has two duties, a summary tells
    of each duty whether a block in the inclusion window has a vote for it, and what is wrong with
    the first one. -/
theorem verdicts_of_run {available : List Capability} {chain : Chain} {summary : ValidatorSummary}
    (h : answer node (run available limits chain query) = .ok summary) :
    ∃ found duties,
      node (.validators (.slot (chain.clock.firstSlot query.epoch)) query.ids) = .ok found ∧
      (active query found = [] ∧ duties = [] ∨
        node (.attesters query.epoch (active query found)) = .ok duties) ∧
      ((duties.map (·.validator)).Nodup → Verdicts node chain.clock query duties summary) := by
  obtain ⟨found, duties, credited, due, proposals, m⟩ := makes_of_run h
  exact ⟨found, duties, m.known, m.attesters, m.verdicts⟩

/-- All validators of the small chain, in its first epoch. -/
def devnetQuery : Query := ⟨0, [.index 0, .index 1, .index 2, .index 3], 3⟩

/-- On the small chain the last validator does not vote, and one other vote is late for its head. -/
theorem verdicts_of_run_devnet :
    ∃ duties summary,
      Verdicts Ledger.devnet.answers Ledger.devnetChain.clock devnetQuery duties summary ∧
      summary.nonParticipating = [⟨1, 0, 3⟩] ∧ summary.untimelyHead = [⟨⟨0, 0, 1⟩, 2, 2⟩] := by
  have hrun : (answer Ledger.devnet.answers (run needs .usual Ledger.devnetChain
      devnetQuery)).toOption.map (fun x => (x.nonParticipating, x.untimelyHead)) =
        some ([⟨1, 0, 3⟩], [⟨⟨0, 0, 1⟩, 2, 2⟩]) := by decide +kernel
  cases h : answer Ledger.devnet.answers (run needs .usual Ledger.devnetChain devnetQuery) with
  | error failure => simp [h, Except.toOption] at hrun
  | ok summary =>
    obtain ⟨found, duties, -, hd, hv⟩ := verdicts_of_run h
    have hone : (duties.map (·.validator)).Nodup := by
      rcases hd with ⟨-, rfl⟩ | hd
      · exact .nil
      · rw [← Except.ok.inj hd]
        exact (by decide : (Ledger.devnet.attesters.map (·.validator)).Nodup).sublist
          (List.filter_sublist.map _)
    simp only [h, Except.toOption, Option.map_some, Option.some.injEq, Prod.mk.injEq] at hrun
    exact ⟨duties, summary, hv hone, hrun⟩

end ValidatorSurvey

end BeaconDuties
