import BeaconDuties.Report.EpochSurvey

/-!
What a record of participation holds after several inclusions.

The vote is told from the first of them (`Participation.inclusion_recordAll`). A criterion is met if
one of them meets it (`Participation.isMet_recordAll`).
-/

namespace BeaconDuties

/-- Whether the flags of a vote meet a criterion. Any vote is a participation. -/
def Criterion.holds : Criterion → VoteFlags → Bool
  | participating, _ => true
  | headCorrect, flags => flags.headCorrect
  | headTimely, flags => flags.headTimely
  | sourceTimely, flags => flags.sourceTimely
  | targetCorrect, flags => flags.targetCorrect
  | targetTimely, flags => flags.targetTimely

/-- What an inclusion tells of a vote if it is the first one. -/
def EpochSurvey.Inclusion.first (x : EpochSurvey.Inclusion) : FirstInclusion where
  headVote := x.data.head
  head := x.classification.head
  targetVote := x.data.target.root
  target := x.classification.target
  slot := x.slot

namespace Participation

variable {x : Participation}

/-- The record after several inclusions. -/
def recordAll (x : Participation) (found : List EpochSurvey.Inclusion) : Participation :=
  found.foldl (fun x y => x.record y.data y.classification y.slot) x

theorem record_record {data : AttestationData} {classification : Classification} {slot : Slot} :
    (x.record data classification slot).record data classification slot =
      x.record data classification slot := by
  simp [record, VoteFlags.merge]

theorem isMet_record {criterion : Criterion} {data : AttestationData}
    {classification : Classification} {slot : Slot} :
    criterion.isMet (x.record data classification slot) ↔
      criterion.isMet x ∨ criterion.holds classification.flags := by
  cases criterion <;>
    simp [Criterion.isMet, Criterion.holds, record, participated, VoteFlags.merge]

@[simp] theorem seat_recordAll : ∀ {found : List EpochSurvey.Inclusion} {x : Participation},
    (x.recordAll found).seat = x.seat
  | [], _ => rfl
  | y :: _, x => seat_recordAll (x := x.record y.data y.classification y.slot)

@[simp] theorem effectiveBalance_recordAll :
    ∀ {found : List EpochSurvey.Inclusion} {x : Participation},
      (x.recordAll found).effectiveBalance = x.effectiveBalance
  | [], _ => rfl
  | y :: _, x => effectiveBalance_recordAll (x := x.record y.data y.classification y.slot)

theorem inclusion_recordAll : ∀ {found : List EpochSurvey.Inclusion} {x : Participation},
    (x.recordAll found).inclusion = x.inclusion.or (found.head?.map (·.first))
  | [], x => by simp [recordAll]
  | y :: found, x => by
    rw [recordAll, List.foldl_cons, ← recordAll, inclusion_recordAll]
    cases hx : x.inclusion <;> simp [record, hx, EpochSurvey.Inclusion.first]

theorem isMet_recordAll {criterion : Criterion} :
    ∀ {found : List EpochSurvey.Inclusion} {x : Participation},
      criterion.isMet (x.recordAll found) ↔
        criterion.isMet x ∨ ∃ y ∈ found, criterion.holds y.classification.flags
  | [], x => by simp [recordAll]
  | y :: found, x => by
    rw [recordAll, List.foldl_cons, ← recordAll, isMet_recordAll, isMet_record]
    simp only [List.mem_cons, exists_eq_or_imp, or_assoc]

theorem recordAll_append {found further : List EpochSurvey.Inclusion} :
    x.recordAll (found ++ further) = (x.recordAll found).recordAll further :=
  List.foldl_append

@[simp] theorem isMet_awaiting {criterion : Criterion} {seat : Seat} {balance : Gwei} :
    criterion.isMet (awaiting seat balance) = false := by
  cases criterion <;> rfl

/-- Records are the same if they tell of the same vote and meet the same. -/
theorem ext_isMet {x y : Participation} (hs : x.seat = y.seat)
    (hb : x.effectiveBalance = y.effectiveBalance) (hi : x.inclusion = y.inclusion)
    (hm : ∀ criterion : Criterion, criterion.isMet x ↔ criterion.isMet y) : x = y := by
  have hf : x.flags = y.flags := by
    have h1 : x.flags.headCorrect = y.flags.headCorrect := Bool.eq_iff_iff.2 (hm .headCorrect)
    have h2 : x.flags.headTimely = y.flags.headTimely := Bool.eq_iff_iff.2 (hm .headTimely)
    have h3 : x.flags.sourceTimely = y.flags.sourceTimely := Bool.eq_iff_iff.2 (hm .sourceTimely)
    have h4 : x.flags.targetCorrect = y.flags.targetCorrect := Bool.eq_iff_iff.2 (hm .targetCorrect)
    have h5 : x.flags.targetTimely = y.flags.targetTimely := Bool.eq_iff_iff.2 (hm .targetTimely)
    rw [VoteFlags.mk.injEq]
    exact ⟨h1, h2, h3, h4, h5⟩
  obtain ⟨_, _, _, _, _, _⟩ := x
  obtain ⟨_, _, _, _, _, _⟩ := y
  simp_all [seat]

/-- A record whose target is timely at least if a condition holds. -/
def timelyIf (x : Participation) (timely : Bool) : Participation :=
  { x with flags := { x.flags with targetTimely := x.flags.targetTimely || timely } }

theorem isMet_timelyIf {criterion : Criterion} {timely : Bool} :
    criterion.isMet (x.timelyIf timely) ↔
      criterion.isMet x ∨ criterion = .targetTimely ∧ timely := by
  cases criterion <;> simp [Criterion.isMet, timelyIf, participated]

theorem timelyIf_eq_self {timely : Bool} (h : timely → Criterion.targetTimely.isMet x) :
    x.timelyIf timely = x := by
  refine ext_isMet rfl rfl rfl fun criterion => ?_
  rw [isMet_timelyIf, or_iff_left_iff_imp]
  rintro ⟨rfl, ht⟩
  exact h ht

end Participation

end BeaconDuties
