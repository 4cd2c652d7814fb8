import BeaconDuties.Proofs.Report.Once
import BeaconDuties.Proofs.Validator.Verdicts

/-!
How the figures of a summary of validators fit together.

The rows count votes by their flags, and the lists name votes by delays and by what is wrong with
them. `ValidatorSurvey.Balanced` says that both agree: every duty is included or missed, and every
vote that is included is counted or listed.

This is so for every report on credits that are for different duties and whose flags have been
judged (`ValidatorSurvey.Sound.balanced`), and so for every run that succeeds, even if the node
changes its answers (`ValidatorSurvey.balanced_of_course`).
-/

namespace BeaconDuties

open Survey

/-! ## Flags -/

namespace VoteFlags

variable {phase : Phase} {delay : UInt64} {head target : Bool}

/-- The flags of a vote are those that its delay allows. -/
structure Fit (phase : Phase) (delay : UInt64) (flags : VoteFlags) : Prop where
  head : flags.headTimely = (flags.headCorrect && headInTime delay)
  source : flags.sourceTimely = sourceInTime delay
  /-- Before Deneb a wrong target is not timely, and since then only right ones are counted. -/
  target : (flags.targetCorrect && flags.targetTimely) =
    (flags.targetCorrect && targetInTime phase delay)

theorem fit_judge : (judge phase delay head target).Fit phase delay where
  head := rfl
  source := rfl
  target := by
    simp only [judge, targetInTime]
    cases target
    · rfl
    · split <;> simp_all

end VoteFlags

namespace ValidatorSurvey

variable {duties : List AttesterDuty} {credits : List Credit} {slot : Slot}
  {holds : Classification → Bool} {summary : ValidatorSummary}

/-! ## Figures that fit together -/

/-- The validators that are listed for a slot. -/
def listedAt (slot : Slot) (faults : List VoteFault) : Finset ValidatorIndex :=
  ((faults.filter (·.seat.slot = slot)).map (·.seat.validator)).toFinset

/-- How many votes are listed for a slot. -/
def listed (slot : Slot) (faults : List VoteFault) : Nat := faults.countP (·.seat.slot = slot)

/-- A row fits the duties and the lists. -/
structure RowBalanced (duties : List AttesterDuty) (summary : ValidatorSummary)
    (row : SlotDuties) : Prop where
  expected : row.expected = duties.countP (·.slot = row.slot)
  included : row.included + summary.nonParticipating.countP (·.slot = row.slot) = row.expected
  head : row.correctHead + listed row.slot summary.incorrectHead = row.included
  target : row.correctTarget + listed row.slot summary.incorrectTarget = row.included
  source : row.timelySource + listed row.slot summary.untimelySource = row.included
  timelyHead : row.timelyHead +
    (listedAt row.slot (summary.incorrectHead ++ summary.untimelyHead)).card = row.included
  timelyTarget : row.timelyTarget +
    (listedAt row.slot (summary.incorrectTarget ++ summary.untimelyTarget)).card = row.included

/-- A summary fits the duties. -/
structure Balanced (duties : List AttesterDuty) (summary : ValidatorSummary) : Prop where
  /-- There is one row for each slot with duties. -/
  slots : ∀ slot, slot ∈ summary.slots.map (·.slot) ↔ ∃ duty ∈ duties, duty.slot = slot
  ordered : (summary.slots.map (·.slot)).Pairwise (· < ·)
  rows : ∀ row ∈ summary.slots, RowBalanced duties summary row
  expected : (summary.slots.map (·.expected)).sum = duties.length
  included : (summary.slots.map (·.included)).sum = summary.participating
  all : summary.participating + summary.nonParticipating.length = duties.length
  /-- No list names a validator twice. -/
  once : (summary.nonParticipating.map (·.validator)).Nodup ∧
    ∀ faults ∈ [summary.incorrectHead, summary.untimelyHead, summary.untimelySource,
      summary.incorrectTarget, summary.untimelyTarget], (faults.map (·.seat.validator)).Nodup

/-- Of the duties of each validator one is kept. -/
structure KeepsOne (duties kept : List AttesterDuty) : Prop where
  subset : ∀ duty ∈ kept, duty ∈ duties
  nodup : (kept.map (·.validator)).Nodup
  exists_kept : ∀ duty ∈ duties, ∃ other ∈ kept, other.validator = duty.validator

theorem keepsOne_dutiesOf : KeepsOne duties (dutiesOf duties).values where
  subset duty hd := by
    obtain ⟨v, hv⟩ := Maps.mem_values.1 hd
    exact mem_of_getElem?_dutiesOf hv
  nodup := nodup_values_dutiesOf
  exists_kept duty hd := by
    obtain ⟨other, ho⟩ := Option.isSome_iff_exists.1 (isSome_getElem?_dutiesOf.2 ⟨duty, hd, rfl⟩)
    exact ⟨other, Maps.mem_values.2 ⟨_, ho⟩, keyed_dutiesOf ho⟩

/-! ## The figures of a report -/

/-- The credits for duties in a slot. -/
def creditedAt (credits : List Credit) (slot : Slot) : List Credit :=
  credits.filter (·.duty.slot = slot)

/-- Credits are for different duties, and their flags have been judged. -/
structure Sound (duties : List AttesterDuty) (credits : List Credit) : Prop where
  distinct : (duties.map (·.validator)).Nodup
  mem : ∀ y ∈ credits, y.duty ∈ duties
  nodup : (credits.map (·.duty.validator)).Nodup
  fit : ∀ y ∈ credits, y.classification.flags.Fit y.classification.phase y.classification.delay

theorem mem_faults {fault : VoteFault} :
    fault ∈ faults credits holds ↔ ∃ y ∈ credits, holds y.classification ∧ y.fault = fault := by
  rw [faults_perm.mem_iff, List.mem_map]
  simp only [List.mem_filter, and_assoc]

/-- As many votes are listed for a slot as there are credits for it that have the fault. -/
theorem listed_faults :
    listed slot (faults credits holds) =
      (creditedAt credits slot).countP (holds ·.classification) := by
  rw [listed, faults_perm.countP_eq, List.countP_map, creditedAt, List.countP_filter,
    List.countP_filter]
  exact List.countP_congr fun y _ => by simp [Credit.fault, seatOf, and_comm]

theorem listedAt_append (xs ys : List VoteFault) :
    listedAt slot (xs ++ ys) = listedAt slot xs ∪ listedAt slot ys := by
  rw [listedAt, List.filter_append, List.map_append, List.toFinset_append]
  rfl

/-- The validators that are listed for a slot are those of the credits that have the fault. -/
theorem listedAt_faults :
    listedAt slot (faults credits holds) =
      (((creditedAt credits slot).filter (holds ·.classification)).map
        (·.duty.validator)).toFinset := by
  ext v
  simp only [listedAt, creditedAt, List.mem_toFinset, List.mem_map, List.mem_filter, mem_faults,
    decide_eq_true_eq]
  constructor
  · rintro ⟨_, ⟨⟨y, hy, hh, rfl⟩, hs⟩, rfl⟩
    exact ⟨y, ⟨⟨hy, hs⟩, hh⟩, rfl⟩
  · rintro ⟨y, ⟨⟨hy, hs⟩, hh⟩, rfl⟩
    exact ⟨y.fault, ⟨⟨y, hy, hh, rfl⟩, hs⟩, rfl⟩

namespace Sound

variable (h : Sound duties credits)
include h

/-- A validator that is listed for two faults is one validator still. -/
theorem card_listedAt {holds' : Classification → Bool} :
    (listedAt slot (faults credits holds ++ faults credits holds')).card =
      (creditedAt credits slot).countP fun y => holds y.classification || holds' y.classification := by
  have hunion : listedAt slot (faults credits holds ++ faults credits holds') =
      (((creditedAt credits slot).filter fun y => holds y.classification ||
        holds' y.classification).map (·.duty.validator)).toFinset := by
    rw [listedAt_append, listedAt_faults, listedAt_faults]
    ext v
    simp only [Finset.mem_union, List.mem_toFinset, List.mem_map, List.mem_filter, Bool.or_eq_true]
    constructor
    · rintro (⟨y, ⟨hy, hh⟩, rfl⟩ | ⟨y, ⟨hy, hh⟩, rfl⟩)
      · exact ⟨y, ⟨hy, .inl hh⟩, rfl⟩
      · exact ⟨y, ⟨hy, .inr hh⟩, rfl⟩
    · rintro ⟨y, ⟨hy, hh | hh⟩, rfl⟩
      · exact .inl ⟨y, ⟨hy, hh⟩, rfl⟩
      · exact .inr ⟨y, ⟨hy, hh⟩, rfl⟩
  have hn : (((creditedAt credits slot).filter fun y => holds y.classification ||
      holds' y.classification).map (·.duty.validator)).Nodup :=
    h.nodup.sublist ((List.filter_sublist.trans List.filter_sublist).map _)
  rw [hunion, List.toFinset_card_of_nodup hn, List.length_map, List.countP_eq_length_filter]

/-- The credits are for the duties whose validators are credited. -/
theorem perm : (credits.map (·.duty)).Perm
    (duties.filter fun duty => duty.validator ∈ credits.map (·.duty.validator)) := by
  have hn : (credits.map (·.duty)).Nodup := by
    refine List.Nodup.of_map AttesterDuty.validator ?_
    rw [List.map_map]
    exact h.nodup
  refine (List.perm_ext_iff_of_nodup hn ((h.distinct.of_map _).filter _)).2 fun duty => ?_
  rw [List.mem_filter, decide_eq_true_eq, List.mem_map, List.mem_map]
  constructor
  · rintro ⟨y, hy, rfl⟩
    exact ⟨h.mem y hy, y, hy, rfl⟩
  · rintro ⟨hd, y, hy, hv⟩
    exact ⟨y, hy, List.inj_on_of_nodup_map h.distinct (h.mem y hy) hd hv⟩

omit h in
theorem missed_perm : (missed duties credits).Perm
    ((duties.filter fun duty => !decide (duty.validator ∈ credits.map (·.duty.validator))).map
      seatOf) := by
  rw [missed]
  refine sortOn_perm.trans (.of_eq (congrArg (List.map seatOf) (List.filter_congr fun duty _ => ?_)))
  rw [Std.ExtTreeSet.contains_ofList, List.contains_eq_mem]

/-- Every duty is credited or missed. -/
theorem countP_add (p : Seat → Bool) :
    credits.countP (fun y => p (seatOf y.duty)) + (missed duties credits).countP p =
      duties.countP fun duty => p (seatOf duty) := by
  have hc := h.perm.countP_eq fun duty => p (seatOf duty)
  rw [List.countP_map] at hc
  rw [missed_perm.countP_eq, List.countP_map, List.countP_eq_countP_filter_add duties _
    fun duty => decide (duty.validator ∈ credits.map (·.duty.validator)), ← hc]
  rfl

end Sound

/-- What holds of some items of a list, and what does not. -/
theorem countP_add_countP {α : Type} {p q : α → Bool} {xs : List α} (h : ∀ x ∈ xs, q x = !p x) :
    xs.countP p + xs.countP q = xs.length := by
  rw [List.length_eq_countP_add_countP p]
  congr 1
  exact List.countP_congr fun x hx => by simp [h x hx]

/-- Each vote for a slot is counted or listed. -/
theorem count_add_listed (credits : List Credit) (slot : Slot) (holds : Classification → Bool)
    (p : VoteFlags → Bool) (hp : ∀ y ∈ credits, holds y.classification = !p y.classification.flags) :
    ((creditedAt credits slot).countP fun y => p y.classification.flags) +
      listed slot (faults credits holds) = (creditedAt credits slot).length := by
  rw [listed_faults]
  exact countP_add_countP fun y hy => hp y (List.mem_filter.1 hy).1

/-- Each vote for a slot is counted or listed, be it for one fault or for two. -/
theorem Sound.count_add_card (h : Sound duties credits) (slot : Slot)
    (holds holds' : Classification → Bool) (p : VoteFlags → Bool) (hp : ∀ y ∈ credits,
      (holds y.classification || holds' y.classification) = !p y.classification.flags) :
    ((creditedAt credits slot).countP fun y => p y.classification.flags) +
      (listedAt slot (faults credits holds ++ faults credits holds')).card =
        (creditedAt credits slot).length := by
  rw [h.card_listedAt]
  exact countP_add_countP fun y hy => hp y (List.mem_filter.1 hy).1

/-- A row of a report fits the duties and the lists. -/
theorem Sound.rowBalanced {clock : Clock} {epoch : Epoch} {validators active : List ValidatorIndex}
    {proposals : List Proposal} (h : Sound duties credits) :
    RowBalanced duties (report clock epoch validators active duties credits proposals)
      (row duties credits slot) where
  expected := rfl
  included := by
    have hadd := h.countP_add fun seat => seat.slot = slot
    rw [List.countP_eq_length_filter] at hadd
    exact hadd
  head := count_add_listed credits slot (fun x => !x.flags.headCorrect) (·.headCorrect) fun _ _ => rfl
  target := count_add_listed credits slot (fun x => !x.flags.targetCorrect) (·.targetCorrect)
    fun _ _ => rfl
  source := count_add_listed credits slot (fun x => !sourceInTime x.delay) (·.sourceTimely)
    fun y hy => by rw [(h.fit y hy).source]
  timelyHead := h.count_add_card slot (fun x => !x.flags.headCorrect)
    (fun x => !headInTime x.delay) (·.headTimely)
    fun y hy => by rw [(h.fit y hy).head, Bool.not_and]
  timelyTarget := h.count_add_card slot (fun x => !x.flags.targetCorrect)
    (fun x => !targetInTime x.phase x.delay) (fun flags => flags.targetCorrect && flags.targetTimely)
    fun y hy => by rw [(h.fit y hy).target, Bool.not_and]

/-- Counts for each slot with duties add up to the count for all slots. -/
theorem sum_dutySlots {α : Type} {xs : List α} {slotOf : α → Slot}
    (h : ∀ x ∈ xs, ∃ duty ∈ duties, duty.slot = slotOf x) :
    ((dutySlots duties).map fun slot => xs.countP (slotOf · = slot)).sum = xs.length := by
  have hnodup : (dutySlots duties).Nodup := pairwise_dutySlots.imp UInt64.ne_of_lt
  have hmem : ∀ x ∈ xs, ∀ slot, some (slotOf x) = some slot → slot ∈ dutySlots duties := by
    intro x hx slot hs
    exact mem_dutySlots.2 (Option.some.inj hs ▸ h x hx)
  simpa using Lists.sum_countP hnodup hmem

theorem Sound.nodup_missed (h : Sound duties credits) :
    ((missed duties credits).map (·.validator)).Nodup := by
  rw [(missed_perm.map _).nodup_iff, List.map_map]
  exact h.distinct.sublist (List.filter_sublist.map _)

theorem Sound.nodup_faults (h : Sound duties credits) :
    ((faults credits holds).map (·.seat.validator)).Nodup := by
  rw [(faults_perm.map _).nodup_iff, List.map_map]
  exact h.nodup.sublist (List.filter_sublist.map _)

/-- A report on sound credits fits the duties. -/
theorem Sound.balanced {clock : Clock} {epoch : Epoch} {validators active : List ValidatorIndex}
    {proposals : List Proposal} (h : Sound duties credits) :
    Balanced duties (report clock epoch validators active duties credits proposals) := by
  have hslots : (report clock epoch validators active duties credits proposals).slots.map (·.slot) =
      dutySlots duties := by
    rw [report, List.map_map]
    exact List.map_id _
  refine {
    slots := fun slot => ?_
    ordered := hslots ▸ pairwise_dutySlots
    rows := fun row' hrow => ?_
    expected := ?_
    included := ?_
    all := ?_
    once := ⟨?_, ?_⟩ }
  · rw [hslots, mem_dutySlots]
  · obtain ⟨slot, -, rfl⟩ := List.mem_map.1 hrow
    exact h.rowBalanced
  · rw [report, List.map_map]
    exact sum_dutySlots fun duty hd => ⟨duty, hd, rfl⟩
  · have hsum : ((dutySlots duties).map fun slot => credits.countP (·.duty.slot = slot)).sum =
        credits.length := sum_dutySlots fun y hy => ⟨y.duty, h.mem y hy, rfl⟩
    simp only [List.countP_eq_length_filter] at hsum
    rw [report, List.map_map]
    exact hsum
  · have hadd := h.countP_add fun _ => true
    simp only [List.countP_true] at hadd
    exact hadd
  · exact h.nodup_missed
  · simp only [report, List.forall_mem_cons]
    exact ⟨h.nodup_faults, h.nodup_faults, h.nodup_faults, h.nodup_faults, h.nodup_faults,
      List.forall_mem_nil _⟩

/-! ## Runs -/

section Makes

variable {node : Answers} {clock : Clock} {limits : Limits} {query : Query}
  {found : List ValidatorInfo} {due : List ProposerDuty} {proposals : List Proposal}
  (m : Makes node clock limits query found duties credits due proposals summary)
include m

/-- A credit is for a duty that is kept, and its vote has been judged. -/
theorem Makes.judged {y : Credit} (hy : y ∈ credits) :
    (dutiesOf duties)[y.duty.validator]? = some y.duty ∧
      ∃ data inclusion, y.classification.Judges node clock data inclusion := by
  rcases crediting_of_credits m.credits with ⟨-, rfl⟩ | ⟨table, -, ht, -⟩
  · cases hy
  · obtain ⟨hd, x, -, -, hj⟩ := (m.mem_credited_iff ht).1 hy
    exact ⟨hd, x.attestation.data, x.slot, hj⟩

theorem Makes.sound : Sound (dutiesOf duties).values credits where
  distinct := nodup_values_dutiesOf
  mem y hy := Maps.mem_values.2 ⟨_, (m.judged hy).1⟩
  nodup := m.nodup_credited
  fit y hy := by
    obtain ⟨-, data, inclusion, hj⟩ := m.judged hy
    rw [hj.flags]
    exact VoteFlags.fit_judge

end Makes

/-- **The figures of a summary fit together.** Whatever a node answers, and whenever: each duty is
    included or missed, each vote that is included is counted or listed in its row, and the rows
    add up to the totals. Of several duties of a validator the last one counts. -/
theorem balanced_of_course {available : List Capability} {limits : Limits} {chain : Chain}
    {query : Query} {turns : List Turn}
    (h : (run available limits chain query).inquiry.Course turns (.ok summary)) :
    ∃ found duties,
      ⟨.validators (.slot (chain.clock.firstSlot query.epoch)) query.ids, .ok found⟩ ∈ turns ∧
      (active query found = [] ∧ duties = [] ∨
        ⟨.attesters query.epoch (active query found), .ok duties⟩ ∈ turns) ∧
      KeepsOne duties (dutiesOf duties).values ∧ Balanced (dutiesOf duties).values summary := by
  have hdistinct := composed_run.pairwise_requests covers_run nodup_topics h
  obtain ⟨found, duties, credits, due, proposals, m⟩ := makes_of_run (answer_ofTurns h hdistinct)
  refine ⟨found, duties, Answers.mem_of_ofTurns m.known,
    m.attesters.imp_right Answers.mem_of_ofTurns, keepsOne_dutiesOf, ?_⟩
  rw [m.report]
  exact m.sound.balanced

/-- On the small chain three duties are included and one is missed. -/
theorem balanced_of_course_devnet :
    ∃ turns duties summary,
      (run needs .usual Ledger.devnetChain devnetQuery).inquiry.Course turns (.ok summary) ∧
      summary.participating = 3 ∧ summary.nonParticipating = [⟨1, 0, 3⟩] ∧
      Balanced (dutiesOf duties).values summary := by
  have hrun : (answer Ledger.devnet.answers (run needs .usual Ledger.devnetChain
      devnetQuery)).toOption.map (fun x => (x.participating, x.nonParticipating)) =
        some (3, [⟨1, 0, 3⟩]) := by decide +kernel
  obtain ⟨summary, hanswer, hx⟩ := exists_ok_of_toOption_map hrun
  have hcourse := course_of_answer hanswer
  obtain ⟨found, duties, -, -, -, hbalanced⟩ := balanced_of_course hcourse
  exact ⟨_, duties, summary, hcourse, congrArg Prod.fst hx, congrArg Prod.snd hx, hbalanced⟩

end ValidatorSurvey

end BeaconDuties
