import BeaconDuties.Proofs.Epoch.Exhaustive
import BeaconDuties.Proofs.Survey.Ledger

/-!
What is lost by passing over attestations that have been seen before.

An attestation that is included again has waited longer, so that it adds nothing that has a limit.
But since Deneb any target counts as timely, right or late (`Classification.Judges.holds_of_le`). So
the records of both searches are the same but for the targets of votes that are included since Deneb
(`EpochSurvey.compared`). They do differ where an attestation is included before Deneb and again
since (`EpochSurvey.not_alike_straying`).
-/

namespace BeaconDuties

open Survey

variable {node : Answers} {clock : Clock} {limits : Limits}

/-- A vote that is included again meets nothing more, but since Deneb its target is timely in any
    case. -/
theorem Classification.Judges.holds_of_le {data : AttestationData} {inclusion inclusion' : Slot}
    {x y : Classification} {criterion : Criterion} (hx : x.Judges node clock data inclusion)
    (hy : y.Judges node clock data inclusion') (hle : inclusion ≤ inclusion')
    (hh : criterion.holds y.flags) :
    criterion.holds x.flags ∨
      criterion = .targetTimely ∧ .deneb ≤ clock.phaseAtSlot inclusion' := by
  have hd := hx.delay_le hy rfl hle
  obtain ⟨hhead, htarget⟩ := hx.roots_eq hy
  rw [hy.flags] at hh
  rw [hx.flags, hhead, htarget]
  cases criterion with
  | participating => exact .inl rfl
  | headCorrect => exact .inl hh
  | headTimely =>
    left
    simp only [Criterion.holds, VoteFlags.judge, Bool.and_eq_true] at hh ⊢
    exact ⟨hh.1, headInTime_of_le hd hh.2⟩
  | sourceTimely => exact .inl (sourceInTime_of_le hd hh)
  | targetCorrect => exact .inl hh
  | targetTimely =>
    by_cases hp : .deneb ≤ clock.phaseAtSlot inclusion'
    · exact .inr ⟨rfl, hp⟩
    · left
      simp only [Criterion.holds, VoteFlags.judge, hy.phase, if_neg hp, targetInTime,
        Bool.and_eq_true, Bool.or_eq_true, decide_eq_true_eq] at hh ⊢
      have h32 := UInt64.le_trans hd (hh.2.resolve_left hp)
      split
      · rfl
      · simp [hh.1, h32]

namespace EpochSurvey

variable {table : CommitteeTable} {wanted : ValidatorIndex → Bool} {query : Query}
  {selection : Selection} {registry : Std.ExtTreeMap ValidatorIndex ValidatorInfo}
  {v : ValidatorIndex}

theorem Inclusion.Tells.unique {x : Sighting} {y z : Inclusion}
    (hy : y.Tells node clock table wanted x) (hz : z.Tells node clock table wanted x) : y = z := by
  obtain ⟨hys, hyd, hyj, hyv⟩ := hy
  obtain ⟨hzs, hzd, hzj, hzv⟩ := hz
  have hc := hyj.unique hzj
  cases y
  cases z
  simp_all

/-- No attestation is included both before Deneb and since. -/
def NoneCrossesDeneb (node : Answers) (clock : Clock) (query : Query) : Prop :=
  ∀ x ∈ sightings node clock query, ∀ y ∈ sightings node clock query,
    x.attestation = y.attestation → .deneb ≤ clock.phaseAtSlot y.slot →
      .deneb ≤ clock.phaseAtSlot x.slot

/-- A block since Deneb has a vote of a validator. -/
def votesSinceDeneb (node : Answers) (clock : Clock) (query : Query) (v : ValidatorIndex) : Bool :=
  (sightings node clock query).any fun x =>
    v ∈ node.votersOf clock x.attestation && .deneb ≤ clock.phaseAtSlot x.slot

theorem votesSinceDeneb_iff (ht : node.HasCommittees clock query.epoch table) :
    votesSinceDeneb node clock query v ↔ ∃ x ∈ sightings node clock query,
      v ∈ table.voters x.attestation ∧ .deneb ≤ clock.phaseAtSlot x.slot := by
  rw [votesSinceDeneb, List.any_eq_true]
  refine exists_congr fun x => and_congr_right fun hx => ?_
  have he := (Sighting.mem_list.1 hx).2.2
  rw [node.votersOf_eq (he ▸ ht), Bool.and_eq_true, decide_eq_true_eq, decide_eq_true_eq]

section Found

variable {found all : List Inclusion} (hv : wanted v)
  (hfound : List.Forall₂ (Inclusion.Tells node clock table wanted)
    ((Sighting.firsts (sightings node clock query)).filter
      fun x => (table.voters x.attestation).filter wanted ≠ []) found)
  (hall : List.Forall₂ (Inclusion.Tells node clock table wanted)
    ((sightings node clock query).filter
      fun x => (table.voters x.attestation).filter wanted ≠ []) all)
include hv hfound

/-- The first sighting of an attestation with a wanted vote is judged. -/
theorem exists_first_judged {x : Sighting} (hx : x ∈ sightings node clock query)
    (hm : v ∈ table.voters x.attestation) :
    ∃ first ∈ Sighting.firsts (sightings node clock query), first.attestation = x.attestation ∧
      first.slot ≤ x.slot ∧
      ∃ judged : Classification, judged.Judges node clock first.attestation.data first.slot := by
  obtain ⟨first, hf, ha⟩ := Sighting.exists_mem_firsts hx
  have hle := ((Sighting.mem_firsts (Sighting.pairwise_list (SlotRange.pairwise_slots _))).1 hf).2
    x hx ha.symm
  have hcarries : (table.voters first.attestation).filter wanted ≠ [] :=
    List.ne_nil_of_mem (List.mem_filter.2 ⟨ha ▸ hm, hv⟩)
  obtain ⟨y, -, hy⟩ := Lists.exists_mem_of_forall₂ hfound
    (List.mem_filter.2 ⟨hf, decide_eq_true hcarries⟩)
  exact ⟨first, hf, ha, hle, y.classification, hy.judges⟩

theorem isMet_of_votesSinceDeneb (ht : node.HasCommittees clock query.epoch table)
    (hnone : NoneCrossesDeneb node clock query) (h : votesSinceDeneb node clock query v)
    {x : Participation} :
    Criterion.targetTimely.isMet (x.recordAll (found.filter (v ∈ ·.validators))) := by
  obtain ⟨y, hy, hm, hp⟩ := (votesSinceDeneb_iff ht).1 h
  obtain ⟨first, hf, ha, -, judged, hj⟩ := exists_first_judged hv hfound hy hm
  have hp := hnone first (Sighting.firsts_subset hf) y hy ha hp
  rw [Participation.isMet_recordAll]
  refine .inr ((exists_tells_iff hv hfound).2 ⟨first, hf, ha ▸ hm, judged, hj, ?_⟩)
  rw [hj.flags, hj.phase]
  exact if_pos hp

include hall

/-- What an attestation meets again it has met before, but for its target since Deneb. -/
theorem exists_all_iff {criterion : Criterion} :
    (∃ y ∈ all.filter (v ∈ ·.validators), criterion.holds y.classification.flags) ↔
      (∃ y ∈ found.filter (v ∈ ·.validators), criterion.holds y.classification.flags) ∨
        criterion = .targetTimely ∧ ∃ x ∈ sightings node clock query,
          v ∈ table.voters x.attestation ∧ .deneb ≤ clock.phaseAtSlot x.slot := by
  rw [exists_tells_iff hv hall, exists_tells_iff hv hfound]
  constructor
  · rintro ⟨x, hx, hm, c, hc, hh⟩
    obtain ⟨first, hf, ha, hle, judged, hj⟩ := exists_first_judged hv hfound hx hm
    rw [← ha] at hc
    rcases hj.holds_of_le hc hle hh with hh | ⟨he, hp⟩
    · exact .inl ⟨first, hf, ha ▸ hm, judged, hj, hh⟩
    · exact .inr ⟨he, x, hx, hm, hp⟩
  · rintro (⟨x, hx, hm, c, hc, hh⟩ | ⟨rfl, x, hx, hm, hp⟩)
    · exact ⟨x, Sighting.firsts_subset hx, hm, c, hc, hh⟩
    · have hcarries : (table.voters x.attestation).filter wanted ≠ [] :=
        List.ne_nil_of_mem (List.mem_filter.2 ⟨hm, hv⟩)
      obtain ⟨y, -, hy⟩ := Lists.exists_mem_of_forall₂ hall
        (List.mem_filter.2 ⟨hx, decide_eq_true hcarries⟩)
      refine ⟨x, hx, hm, y.classification, hy.judges, ?_⟩
      rw [hy.judges.flags, hy.judges.phase]
      exact if_pos hp

/-- A record that tells of all attestations tells what it tells of first ones, but for the
    target. -/
theorem recordAll_all (ht : node.HasCommittees clock query.epoch table) {x : Participation} :
    x.recordAll (all.filter (v ∈ ·.validators)) =
      (x.recordAll (found.filter (v ∈ ·.validators))).timelyIf
        (votesSinceDeneb node clock query v) := by
  have hfirst : all.find? (v ∈ ·.validators) = found.find? (v ∈ ·.validators) :=
    Lists.eq_of_rel (find?_tells hv hall) (find?_found hv hfound) Inclusion.Tells.unique
  apply Participation.ext_isMet
  · change Participation.seat _ = Participation.seat (Participation.recordAll _ _)
    rw [Participation.seat_recordAll, Participation.seat_recordAll]
  · change _ = (Participation.recordAll _ _).effectiveBalance
    rw [Participation.effectiveBalance_recordAll, Participation.effectiveBalance_recordAll]
  · change _ = (Participation.recordAll _ _).inclusion
    rw [Participation.inclusion_recordAll, Participation.inclusion_recordAll, List.head?_filter,
      List.head?_filter, hfirst]
  · intro criterion
    rw [Participation.isMet_timelyIf, Participation.isMet_recordAll,
      Participation.isMet_recordAll, exists_all_iff hv hfound hall, votesSinceDeneb_iff ht,
      or_assoc]

end Found

theorem getElem?_allParticipations {records : Std.ExtTreeMap ValidatorIndex Participation}
    (h : answer node (allParticipations limits clock query selection registry) = .ok records) :
    ∃ table found, node.HasCommittees clock query.epoch table ∧
      answer node (allInclusions limits clock query.epoch table
        ((awaiting selection registry table).contains ·)
        (clock.inclusionWindow query.epoch query.current).slots) = .ok found ∧
      ∀ v, records[v]? = (awaiting selection registry table)[v]?.map
        (Participation.recordAll · (found.filter (v ∈ ·.validators))) := by
  obtain ⟨table, ht, h⟩ := Finds.bind (finds_of_answer h : Finds node clock _ _) .committees
  obtain ⟨found, hf, h⟩ := Finds.bind h steady_allInclusions
  obtain rfl := finds_pure.1 h
  exact ⟨table, found, answer_committees_eq_ok.1 ht, hf, fun v => getElem?_records⟩

/-- The search that passes over attestations that have been seen before, and the one that does not,
    come to the same records but for targets of votes that are included since Deneb. -/
structure Compared (node : Answers) (limits : Limits) (clock : Clock) (query : Query)
    (selection : Selection) (registry : Std.ExtTreeMap ValidatorIndex ValidatorInfo) : Prop where
  /-- Both succeed or none does. -/
  succeeds :
    (∃ all, answer node (allParticipations limits clock query selection registry) = .ok all) ↔
      ∃ records, answer node (participations limits clock query selection registry) = .ok records
  records : ∀ {all records : Std.ExtTreeMap ValidatorIndex Participation},
    answer node (allParticipations limits clock query selection registry) = .ok all →
      answer node (participations limits clock query selection registry) = .ok records →
        ∀ v, all[v]? = records[v]?.map
          (Participation.timelyIf · (votesSinceDeneb node clock query v))
  alike : NoneCrossesDeneb node clock query →
    ∀ {all records : Std.ExtTreeMap ValidatorIndex Participation},
      answer node (allParticipations limits clock query selection registry) = .ok all →
        answer node (participations limits clock query selection registry) = .ok records →
          all = records

/-- **Passing over attestations that have been seen before loses no more than timely targets.** If
    attestations are told apart by their roots, the search succeeds as one that passes over nothing
    does, and comes to the same records but for the targets of votes that are included since Deneb.
    If no attestation is included both before Deneb and since, the records are the same. -/
theorem compared (hroots : Set.InjOn Attestation.identityRoot
    {a | ∃ slot ∈ (clock.inclusionWindow query.epoch query.current).slots,
      a ∈ node.attestationsAt slot}) :
    Compared node limits clock query selection registry := by
  -- What both searches find is found by the same table, for the same validators.
  have hboth : ∀ {all records : Std.ExtTreeMap ValidatorIndex Participation},
      answer node (allParticipations limits clock query selection registry) = .ok all →
        answer node (participations limits clock query selection registry) = .ok records →
          ∀ v, all[v]? = records[v]?.map
              (Participation.timelyIf · (votesSinceDeneb node clock query v)) ∧
            (NoneCrossesDeneb node clock query → all[v]? = records[v]?) := by
    intro all records ha hr v
    obtain ⟨table, found, ht, hf, hr⟩ := getElem?_participations hr
    obtain ⟨table', found', ht', hf', ha⟩ := getElem?_allParticipations ha
    obtain rfl := ht.unique ht'
    have hfound := tells_of_inclusions hf hroots
    have hall := tells_of_allInclusions (finds_of_answer hf' : Finds node clock _ _)
    rw [ha, hr]
    cases hstart : (awaiting selection registry table)[v]? with
    | none => exact ⟨rfl, fun _ => rfl⟩
    | some start =>
      have hv : (awaiting selection registry table).contains v := by
        rw [Std.ExtTreeMap.contains_eq_isSome_getElem?, hstart, Option.isSome_some]
      have heq := recordAll_all hv hfound hall ht (x := start)
      refine ⟨congrArg some heq, fun hnone => congrArg some (heq.trans ?_)⟩
      exact Participation.timelyIf_eq_self fun h => isMet_of_votesSinceDeneb hv hfound ht hnone h
  constructor
  case succeeds =>
    constructor
    · rintro ⟨all, h⟩
      obtain ⟨table, found, ht, hf, -⟩ := getElem?_allParticipations h
      obtain ⟨found', hf'⟩ := (exists_allInclusions_iff hroots).1 ⟨found, hf⟩
      refine Steady.committees.exists_ok_bind
        (fun _ => .bind steady_inclusions fun _ => .pure _) (answer_committees_eq_ok.2 ht) ?_
      exact steady_inclusions.exists_ok_bind (fun _ => .pure _) hf' ⟨_, rfl⟩
    · rintro ⟨records, h⟩
      obtain ⟨table, found, ht, hf, -⟩ := getElem?_participations h
      obtain ⟨found', hf'⟩ := (exists_allInclusions_iff hroots).2 ⟨found, hf⟩
      refine Steady.committees.exists_ok_bind
        (fun _ => .bind steady_allInclusions fun _ => .pure _) (answer_committees_eq_ok.2 ht) ?_
      exact steady_allInclusions.exists_ok_bind (fun _ => .pure _) hf' ⟨_, rfl⟩
  case records => exact fun ha hr v => (hboth ha hr v).1
  case alike =>
    intro hnone all records ha hr
    exact Std.ExtTreeMap.ext_getElem? fun v => (hboth ha hr v).2 hnone

/-! ## An attestation that is included before Deneb and again since -/

/-- A chain in which a vote for the wrong target is included in slot 1 and again in slot 2. -/
def straying : Ledger :=
  let vote := Ledger.devnetVote 0 0 [true, false]
  let vote := { vote with data := { vote.data with target := ⟨0, Ledger.devnetRoot 9⟩ } }
  { Ledger.devnet with
    blocks := [Ledger.devnetBlock 0 [], Ledger.devnetBlock 1 [vote], Ledger.devnetBlock 2 [vote]] }

/-- The clock of that chain; Deneb starts in slot 2. -/
def strayingClock : Clock :=
  { Ledger.devnetChain.clock with forks := ⟨0, 0, 0, 1, farFuture, farFuture⟩ }

theorem injOn_straying : Set.InjOn Attestation.identityRoot
    {a | ∃ slot ∈ (strayingClock.inclusionWindow 0 3).slots,
      a ∈ straying.answers.attestationsAt slot} := by
  have hroots : ∀ a ∈ (strayingClock.inclusionWindow 0 3).slots.flatMap
        straying.answers.attestationsAt,
      ∀ b ∈ (strayingClock.inclusionWindow 0 3).slots.flatMap straying.answers.attestationsAt,
      a.identityRoot = b.identityRoot → a = b := by decide +kernel
  exact fun a ha b hb => hroots a (List.mem_flatMap.2 ha) b (List.mem_flatMap.2 hb)

/-- The vote counts as one since Deneb, as it is included in slot 2 as well. -/
theorem compared_straying :
    Compared straying.answers .usual strayingClock ⟨0, [], 3⟩ .everyone ∅ ∧
      votesSinceDeneb straying.answers strayingClock ⟨0, [], 3⟩ 0 :=
  ⟨compared injOn_straying, by decide +kernel⟩

/-- Its target is timely only if nothing is passed over, although attestations are told apart by
    their roots. -/
theorem not_alike_straying :
    Set.InjOn Attestation.identityRoot {a | ∃ slot ∈ (strayingClock.inclusionWindow 0 3).slots,
        a ∈ straying.answers.attestationsAt slot} ∧
      (answer straying.answers (participations .usual strayingClock ⟨0, [], 3⟩ .everyone
        ∅)).toOption.map (·[(0 : ValidatorIndex)]?.map (·.flags.targetTimely)) =
          some (some false) ∧
      (answer straying.answers (allParticipations .usual strayingClock ⟨0, [], 3⟩ .everyone
        ∅)).toOption.map (·[(0 : ValidatorIndex)]?.map (·.flags.targetTimely)) =
          some (some true) := by
  refine ⟨injOn_straying, ?_, ?_⟩
  · decide +kernel
  · decide +kernel

end EpochSurvey

end BeaconDuties
