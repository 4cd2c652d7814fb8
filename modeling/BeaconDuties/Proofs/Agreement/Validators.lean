import BeaconDuties.Proofs.Epoch.Active
import BeaconDuties.Proofs.Survey.Ledger
import BeaconDuties.Proofs.Validator.Summary

/-!
The summary of an epoch and the summary of validators agree.

The summary of an epoch keeps a record for each validator and adds all its votes to it; the summary
of validators credits a duty to the first vote that fulfils it. On a node that tells the same of
validators and duties in all of its answers, the records with a vote and the credits correspond
(`Agreement.Runs.exists_credits`), and with them what both summaries say
(`Agreement.agrees_of_run`).
-/

namespace BeaconDuties

open Survey

/-- A node knows some validators: asked for validators in whatever state, it answers with those of
    them that have the given names. -/
structure Answers.KnowsValidators (node : Answers) (known : List ValidatorInfo) : Prop where
  nodup : (known.map (·.index)).Nodup
  answers : ∀ {state : StateId} {ids : List ValidatorId} {infos : List ValidatorInfo},
    node (.validators state ids) = .ok infos →
      infos.Perm (known.filter fun x => ids.isEmpty || ids.any (·.names x))

/-- The duties that a node gives for validators are their seats in the committees. -/
def Answers.GivesSeats (node : Answers) (epoch : Epoch) (table : CommitteeTable) : Prop :=
  ∀ indices duties, node (.attesters epoch indices) = .ok duties → ∀ seat,
    (∃ duty ∈ duties, ValidatorSurvey.seatOf duty = seat) ↔
      seat ∈ table.seats ∧ seat.validator ∈ indices

namespace Answers.KnowsValidators

variable {node : Answers} {known infos : List ValidatorInfo} {state : StateId}
  {ids : List ValidatorId}

theorem nodup_answer (hk : node.KnowsValidators known)
    (h : node (.validators state ids) = .ok infos) : (infos.map (·.index)).Nodup :=
  ((hk.answers h).map _).nodup_iff.2 (hk.nodup.sublist (List.filter_sublist.map _))

theorem mem_answer (hk : node.KnowsValidators known)
    (h : node (.validators state ids) = .ok infos) {x : ValidatorInfo} :
    x ∈ infos ↔ x ∈ known ∧ (ids.isEmpty || ids.any (·.names x)) := by
  rw [(hk.answers h).mem_iff, List.mem_filter]

end Answers.KnowsValidators

theorem Ledger.knowsValidators {ledger : Ledger} (h : (ledger.validators.map (·.index)).Nodup) :
    ledger.answers.KnowsValidators ledger.validators where
  nodup := h
  answers hi := Except.ok.inj hi ▸ .refl _

theorem Ledger.givesSeats {ledger : Ledger} {epoch : Epoch} {table : CommitteeTable}
    (h : ledger.attesters.map ValidatorSurvey.seatOf = table.seats) :
    ledger.answers.GivesSeats epoch table := by
  rintro indices duties hd seat
  obtain rfl : ledger.attesters.filter (indices.contains ·.validator) = duties :=
    Except.ok.inj hd
  rw [← h, List.mem_map]
  constructor
  · rintro ⟨duty, hm, rfl⟩
    obtain ⟨hm, hi⟩ := List.mem_filter.1 hm
    exact ⟨⟨duty, hm, rfl⟩, List.contains_iff_mem.1 hi⟩
  · rintro ⟨⟨duty, hm, rfl⟩, hi⟩
    exact ⟨duty, List.mem_filter.2 ⟨hm, List.contains_iff_mem.2 hi⟩, rfl⟩

namespace Agreement

variable {node : Answers} {clock : Clock} {limits limits' : Limits} {known : List ValidatorInfo}
  {epoch : Epoch} {ids : List ValidatorId} {current : Slot} {table : CommitteeTable}
  {es : EpochSummary} {vs : ValidatorSummary}

/-- What the summary of an epoch and the summary of the same validators are made of, on a node that
    knows the validators and gives their seats as duties. -/
structure Runs (node : Answers) (clock : Clock) (limits limits' : Limits)
    (known : List ValidatorInfo) (epoch : Epoch) (ids : List ValidatorId) (current : Slot)
    (table : CommitteeTable) (es : EpochSummary) (vs : ValidatorSummary) where
  knows : node.KnowsValidators known
  committees : node.HasCommittees clock epoch table
  oneSeat : table.OneSeat
  gives : node.GivesSeats epoch table
  selection : Selection
  due : List Proposal
  infos : List ValidatorInfo
  records : Std.ExtTreeMap ValidatorIndex Participation
  ofEpoch : EpochSurvey.Makes node clock limits ⟨epoch, ids, current⟩ selection due infos records es
  recounted : EpochSurvey.Recounted node clock ⟨epoch, ids, current⟩ selection
    (EpochSurvey.registry selection infos) table records
  found : List ValidatorInfo
  duties : List AttesterDuty
  credited : List ValidatorSurvey.Credit
  proposers : List ProposerDuty
  proposals : List Proposal
  ofValidators : ValidatorSurvey.Makes node clock limits' ⟨epoch, ids, current⟩ found duties
    credited proposers proposals vs

namespace Runs

variable (I : Runs node clock limits limits' known epoch ids current table es vs)

/-! ## Whom the summaries are about -/

/-- The active validators with one of the given names. -/
def named (known : List ValidatorInfo) (epoch : Epoch) (ids : List ValidatorId) :
    List ValidatorInfo :=
  known.filter fun x => (ids.isEmpty || ids.any (·.names x)) && x.isActiveIn epoch

/-- The active validators by the summary of the epoch. -/
def active : List ValidatorInfo := EpochSurvey.active ⟨epoch, ids, current⟩ I.selection I.infos

/-- The records of active validators. -/
def counted : List Participation := EpochSurvey.activeRecords I.active I.records

theorem contains_iff_mem_found {v : ValidatorIndex} :
    I.selection.contains v ↔ v ∈ I.found.map (·.index) := by
  rcases EpochSurvey.selection_of_select clock I.ofEpoch.selects with ⟨he, -⟩ | ⟨reply, -, hr, hs⟩
  · exact absurd he I.ofValidators.named
  · have hp : reply.Perm I.found :=
      (I.knows.answers hr).trans (I.knows.answers I.ofValidators.known).symm
    rw [hs, ← (hp.map _).mem_iff]
    simp [Selection.contains, Std.ExtTreeSet.contains_ofList]

theorem contains_iff {x : ValidatorInfo} (hx : x ∈ known) :
    I.selection.contains x.index ↔ ids.isEmpty || ids.any (·.names x) := by
  rw [I.contains_iff_mem_found, List.mem_map]
  constructor
  · rintro ⟨y, hy, he⟩
    obtain ⟨hy, hn⟩ := (I.knows.mem_answer I.ofValidators.known).1 hy
    rwa [List.inj_on_of_nodup_map I.knows.nodup hy hx he] at hn
  · intro hn
    exact ⟨x, (I.knows.mem_answer I.ofValidators.known).2 ⟨hx, hn⟩, rfl⟩

theorem any_names_of_contains {selection : Selection} {x : ValidatorInfo}
    (h : selection.contains x.index) :
    selection.ids.isEmpty || selection.ids.any (·.names x) := by
  cases selection with
  | everyone => rfl
  | only indices =>
    have hx : x.index ∈ indices.toList := by simpa [Selection.contains] using h
    simp only [Selection.ids, Bool.or_eq_true, List.any_eq_true, List.mem_map]
    exact .inr ⟨_, ⟨x.index, hx, rfl⟩, by simp [ValidatorId.names]⟩

theorem mem_active_iff {x : ValidatorInfo} : x ∈ I.active ↔ x ∈ named known epoch ids := by
  have hk := I.ofEpoch.known
  rw [active, EpochSurvey.mem_active,
    EpochSurvey.getElem?_registry_eq_some (I.knows.nodup_answer hk), I.knows.mem_answer hk, named,
    List.mem_filter, Bool.and_eq_true]
  constructor
  · rintro ⟨⟨⟨hx, -⟩, -, hc⟩, ha⟩
    exact ⟨hx, (I.contains_iff hx).1 hc, ha⟩
  · rintro ⟨hx, hn, ha⟩
    have hc := (I.contains_iff hx).2 hn
    exact ⟨⟨⟨hx, any_names_of_contains hc⟩, rfl, hc⟩, ha⟩

theorem active_perm : I.active.Perm (named known epoch ids) :=
  (List.perm_ext_iff_of_nodup (EpochSurvey.nodup_active.of_map _)
    ((I.knows.nodup.of_map _).filter _)).2 fun _ => I.mem_active_iff

theorem validators_perm : (ValidatorSurvey.active ⟨epoch, ids, current⟩ I.found).Perm
    ((named known epoch ids).map (·.index)) := by
  have hk := I.knows.answers I.ofValidators.known
  rw [ValidatorSurvey.active, named]
  refine List.Perm.map _ (((sortOn_perm.trans hk).filter _).trans (.of_eq ?_))
  rw [List.filter_filter]
  exact List.filter_congr fun x _ => Bool.and_comm ..

/-! ## Seats, records and duties -/

/-- The records that count are those of the active validators. -/
theorem mem_counted_iff {x : Participation} : x ∈ I.counted ↔
    I.records[x.validator]? = some x ∧ x.validator ∈ (named known epoch ids).map (·.index) := by
  rw [← (I.active_perm.map _).mem_iff]
  exact EpochSurvey.mem_activeRecords I.recounted.validator

theorem recounts_of_mem {x : Participation} (hx : x ∈ I.counted) :
    x.Recounts node clock epoch table
      (Sighting.list node clock epoch (clock.inclusionWindow epoch current).slots) :=
  I.recounted.recounts (I.mem_counted_iff.1 hx).1

/-- Each seat of an active validator has a record. -/
theorem exists_counted {seat : Seat} (hs : seat ∈ table.seats)
    (hv : seat.validator ∈ (named known epoch ids).map (·.index)) :
    ∃ x ∈ I.counted, x.seat = seat := by
  obtain ⟨y, hy, hi⟩ := List.mem_map.1 hv
  obtain ⟨hy, hn⟩ := List.mem_filter.1 hy
  have hc := (I.contains_iff hy).2 (Bool.and_eq_true .. ▸ hn).1
  obtain ⟨x, hx⟩ := Option.isSome_iff_exists.1 ((I.recounted.isSome _).2 ⟨hi ▸ hc, seat, hs, rfl⟩)
  have hxv := I.recounted.validator hx
  refine ⟨x, I.mem_counted_iff.2 ⟨hxv ▸ hx, hxv ▸ hv⟩, ?_⟩
  exact I.oneSeat _ (I.recounted.recounts hx).seat_mem _ hs hxv

/-- The duties are those of the seats of active validators. -/
theorem mem_duties_iff {seat : Seat} :
    (∃ duty ∈ I.duties, ValidatorSurvey.seatOf duty = seat) ↔
      seat ∈ table.seats ∧ seat.validator ∈ (named known epoch ids).map (·.index) := by
  rw [← I.validators_perm.mem_iff]
  rcases I.ofValidators.attesters with ⟨ha, hd⟩ | ha
  · rw [ha, hd]
    simp
  · exact I.gives _ _ ha seat

theorem seat_of_getElem? {v : ValidatorIndex} {duty : AttesterDuty}
    (h : (ValidatorSurvey.dutiesOf I.duties)[v]? = some duty) :
    duty.validator = v ∧ ValidatorSurvey.seatOf duty ∈ table.seats ∧
      v ∈ (named known epoch ids).map (·.index) := by
  obtain ⟨hs, hv⟩ := I.mem_duties_iff.1 ⟨duty, ValidatorSurvey.mem_of_getElem?_dutiesOf h, rfl⟩
  have hk : duty.validator = v := ValidatorSurvey.keyed_dutiesOf h
  exact ⟨hk, hs, hk ▸ hv⟩

/-- Each seat of an active validator is a duty. -/
theorem exists_duty {seat : Seat} (hs : seat ∈ table.seats)
    (hv : seat.validator ∈ (named known epoch ids).map (·.index)) :
    ∃ duty, (ValidatorSurvey.dutiesOf I.duties)[seat.validator]? = some duty ∧
      ValidatorSurvey.seatOf duty = seat := by
  obtain ⟨given, hg, he⟩ := I.mem_duties_iff.2 ⟨hs, hv⟩
  obtain ⟨duty, hd⟩ := Option.isSome_iff_exists.1
    (ValidatorSurvey.isSome_getElem?_dutiesOf.2 ⟨given, hg, congrArg Seat.validator he⟩)
  obtain ⟨hk, hm, -⟩ := I.seat_of_getElem? hd
  exact ⟨duty, hd, I.oneSeat _ hm _ hs hk⟩

end Runs

/-! ## Records and credits -/

/-- A record and a credit are for the same duty, and tell the same of the vote that was included
    first. -/
structure Matches (x : Participation) (y : ValidatorSurvey.Credit) : Prop where
  seat : x.seat = ValidatorSurvey.seatOf y.duty
  inclusion : x.inclusion.map (·.slot) = some y.inclusion
  /-- The record has what the vote got that was included first. -/
  isMet : ∀ criterion : Criterion, criterion.holds y.classification.flags → criterion.isMet x
  /-- Later votes are no more timely. -/
  sourceTimely : x.flags.sourceTimely = sourceInTime y.classification.delay

/-- A record and a credit match if they are for the same seat. -/
theorem matches_of_recounts {sightings : List Sighting} {x : Participation}
    {y : ValidatorSurvey.Credit} (hp : sightings.Pairwise (·.slot ≤ ·.slot)) (hone : table.OneSeat)
    (hx : x.Recounts node clock epoch table sightings) (hy : y.Earned node clock table sightings)
    (hs : x.seat = ValidatorSurvey.seatOf y.duty) : Matches x y := by
  obtain ⟨z, hz, hi, hj⟩ := hy
  have hv : x.validator = y.duty.validator := congrArg Seat.validator hs
  -- The vote that is credited is the first one of the validator.
  have hz : sightings.find? (fun w => x.validator ∈ table.voters w.attestation) = some z := by
    rw [← hz]
    refine congrArg (List.find? · _) (funext fun w => ?_)
    rw [Bool.eq_iff_iff, ValidatorSurvey.fulfils_iff hone (hs ▸ hx.seat_mem), hv,
      decide_eq_true_eq]
  have hzv : x.validator ∈ table.voters z.attestation := by simpa using List.find?_some hz
  have hleast : ∀ w ∈ sightings, x.validator ∈ table.voters w.attestation → z.slot ≤ w.slot := by
    intro w hw hwv
    refine Sighting.slot_le_of_find? (p := fun a => x.validator ∈ table.voters a) hp hz hw ?_
    exact decide_eq_true hwv
  have hfirst : z.IsFirst sightings :=
    ⟨List.mem_of_find?_eq_some hz, fun w hw he => hleast w hw (he ▸ hzv)⟩
  have hd : y.classification.flags.sourceTimely = sourceInTime y.classification.delay :=
    congrArg VoteFlags.sourceTimely hj.flags
  refine ⟨hs, hi ▸ hx.inclusion_eq_iff.2 ⟨⟨z, hfirst.1, rfl, hzv⟩, hleast⟩,
    fun criterion h => (hx.isMet criterion).2 ⟨z, hfirst, hzv, _, hj, h⟩, ?_⟩
  rw [← hd, Bool.eq_iff_iff]
  refine (hx.isMet .sourceTimely).trans ⟨?_, fun h => ⟨z, hfirst, hzv, _, hj, h⟩⟩
  rintro ⟨w, hw, hwv, judged, hjw, hh⟩
  have hsame : z.attestation.data.slot = w.attestation.data.slot :=
    (hone.slot_eq hx.seat_mem hzv).trans (hone.slot_eq hx.seat_mem hwv).symm
  have hjd : judged.flags.sourceTimely = sourceInTime judged.delay :=
    congrArg VoteFlags.sourceTimely hjw.flags
  rw [hd]
  exact sourceInTime_of_le (hj.delay_le hjw hsame (hleast w hw.1 hwv)) (hjd ▸ hh)

namespace Runs

variable (I : Runs node clock limits limits' known epoch ids current table es vs)

theorem matches_of_mem {x : Participation} {y : ValidatorSurvey.Credit} (hx : x ∈ I.counted)
    (hy : y ∈ I.credited) (hv : y.duty.validator = x.validator) : Matches x y := by
  obtain ⟨hd, he⟩ := (I.ofValidators.mem_credited_iff I.committees).1 hy
  have hr := I.recounts_of_mem hx
  refine matches_of_recounts (Sighting.pairwise_list (SlotRange.pairwise_slots _)) I.oneSeat hr he
    ?_
  exact I.oneSeat _ hr.seat_mem _ (I.seat_of_getElem? hd).2.1 hv.symm

/-- A record holds a vote if and only if its duty is credited. -/
theorem participated_iff {x : Participation} (hx : x ∈ I.counted) :
    x.participated ↔ ∃ y ∈ I.credited, y.duty.validator = x.validator := by
  constructor
  · intro hp
    have hr := I.recounts_of_mem hx
    obtain ⟨inclusion, hi⟩ := Option.isSome_iff_exists.1 hp
    obtain ⟨z, hz, -, hzv⟩ := (hr.inclusion_some hi).exists_sighting
    obtain ⟨duty, hd, hs⟩ := I.exists_duty hr.seat_mem (I.mem_counted_iff.1 hx).2
    have hdv : duty.validator = x.validator := congrArg Seat.validator hs
    obtain ⟨y, hy, rfl⟩ := I.ofValidators.exists_credit I.committees (hdv ▸ hd)
      ⟨z, hz, (ValidatorSurvey.fulfils_iff I.oneSeat (hs ▸ hr.seat_mem)).2 (hdv ▸ hzv)⟩
    exact ⟨y, hy, hdv⟩
  · rintro ⟨y, hy, hv⟩
    exact (I.matches_of_mem hx hy hv).isMet .participating rfl

theorem nodup_counted : (I.counted.map (·.validator)).Nodup :=
  EpochSurvey.nodup_activeRecords I.recounted.validator

/-- **Records and credits correspond.** The credits can be put in the order of the records that hold
    a vote, so that each record matches its credit. -/
theorem exists_credits : ∃ ys, ys.Perm I.credited ∧
    List.Forall₂ Matches (I.counted.filter (·.participated)) ys := by
  refine Lists.exists_perm_forall₂ (I.nodup_counted.sublist (List.filter_sublist.map _))
    I.ofValidators.nodup_credited (fun h => congrArg Seat.validator h.seat) (fun x hx => ?_)
    fun y hy => ?_
  · obtain ⟨hx, hp⟩ := List.mem_filter.1 hx
    obtain ⟨y, hy, hv⟩ := (I.participated_iff hx).1 hp
    exact ⟨y, hy, I.matches_of_mem hx hy hv⟩
  · obtain ⟨-, hs, hv⟩ :=
      I.seat_of_getElem? ((I.ofValidators.mem_credited_iff I.committees).1 hy).1
    obtain ⟨x, hx, he⟩ := I.exists_counted hs hv
    have hm := I.matches_of_mem hx hy (congrArg Seat.validator he).symm
    exact ⟨x, List.mem_filter.2 ⟨hx, hm.isMet .participating rfl⟩, hm⟩

end Runs

/-! ## Agreement -/

/-- The two summaries say the same of blocks, of who voted and of late sources. Of each vote that is
    wrong about the head or the target by the summary of the epoch, the other one tells too. -/
structure Agrees (es : EpochSummary) (vs : ValidatorSummary) : Prop where
  proposals : es.proposals = vs.proposals
  active : es.active.validators = vs.active
  participating : es.participating.met.validators = vs.participating
  nonParticipating : es.participating.lacking.map (·.seat) = vs.nonParticipating
  untimelySource : (es.sourceTimely.lacking.filter (·.participated)).map
      (fun x => (x.seat, x.inclusion.map (·.slot))) =
    vs.untimelySource.map fun fault => (fault.seat, some fault.inclusion)
  incorrectHead : ∀ x ∈ es.headCorrect.lacking, x.participated →
    ∃ fault ∈ vs.incorrectHead,
      fault.seat = x.seat ∧ x.inclusion.map (·.slot) = some fault.inclusion
  incorrectTarget : ∀ x ∈ es.targetCorrect.lacking, x.participated →
    ∃ fault ∈ vs.incorrectTarget,
      fault.seat = x.seat ∧ x.inclusion.map (·.slot) = some fault.inclusion

namespace Runs

variable (I : Runs node clock limits limits' known epoch ids current table es vs)
include I

theorem met (criterion : Criterion) :
    (es.outcome criterion).met.validators = I.counted.countP criterion.isMet :=
  (EpochSurvey.of_outcome? (I.ofEpoch.outcome criterion)).1

theorem lacking (criterion : Criterion) :
    (es.outcome criterion).lacking = I.counted.filter (!criterion.isMet ·) :=
  (EpochSurvey.of_outcome? (I.ofEpoch.outcome criterion)).2

theorem proposals_eq : es.proposals = vs.proposals := by
  obtain ⟨duties, hd, hdue⟩ := I.ofEpoch.duties
  obtain rfl : I.proposers = duties := Except.ok.inj (I.ofValidators.proposers.symm.trans hd)
  have hvs : vs.proposals = I.proposals := congrArg ValidatorSummary.proposals I.ofValidators.report
  rw [I.ofEpoch.proposals, Answers.proposals_eq_map clock hdue, hvs,
    Answers.proposals_eq_map clock I.ofValidators.proposed, List.filter_map]
  refine congrArg (List.map _) (List.filter_congr fun duty _ => ?_)
  rw [Bool.eq_iff_iff, List.contains_iff_mem, (sortOn_perm.map _).mem_iff]
  exact I.contains_iff_mem_found

theorem active_eq : es.active.validators = vs.active := by
  obtain ⟨balance, -, hs⟩ := Option.map_eq_some_iff.1 I.ofEpoch.active
  have hvs : vs.active = (ValidatorSurvey.active ⟨epoch, ids, current⟩ I.found).length :=
    congrArg ValidatorSummary.active I.ofValidators.report
  rw [hvs, I.validators_perm.length_eq, List.length_map, ← I.active_perm.length_eq, ← hs,
    List.length_map]
  rfl

theorem participating_eq : es.participating.met.validators = vs.participating := by
  obtain ⟨ys, hp, hm⟩ := I.exists_credits
  have hvs : vs.participating = I.credited.length :=
    congrArg ValidatorSummary.participating I.ofValidators.report
  rw [hvs, ← hp.length_eq, ← hm.length_eq, ← List.countP_eq_length_filter]
  exact I.met .participating

/-- The seats whose records hold no vote are those of the duties that are not credited. -/
theorem mem_missed_iff {seat : Seat} :
    seat ∈ (I.counted.filter (!·.participated)).map (·.seat) ↔
      seat ∈ ValidatorSurvey.missed (ValidatorSurvey.dutiesOf I.duties).values I.credited := by
  simp only [ValidatorSurvey.mem_missed, List.mem_map, List.mem_filter, Maps.mem_values,
    Bool.not_eq_true', ← Bool.not_eq_true]
  constructor
  · rintro ⟨x, ⟨hx, hp⟩, rfl⟩
    obtain ⟨duty, hd, hs⟩ :=
      I.exists_duty (I.recounts_of_mem hx).seat_mem (I.mem_counted_iff.1 hx).2
    have hv : duty.validator = x.validator := congrArg Seat.validator hs
    exact ⟨duty, ⟨_, hd⟩, fun hc => hp ((I.participated_iff hx).2 (hv ▸ hc)), hs⟩
  · rintro ⟨duty, ⟨v, hd⟩, hn, rfl⟩
    obtain ⟨rfl, hs, hv⟩ := I.seat_of_getElem? hd
    obtain ⟨x, hx, he⟩ := I.exists_counted hs hv
    have hxv : x.validator = duty.validator := congrArg Seat.validator he
    exact ⟨x, ⟨hx, fun hp => hn (hxv ▸ (I.participated_iff hx).1 hp)⟩, he⟩

theorem nonParticipating_eq : es.participating.lacking.map (·.seat) = vs.nonParticipating := by
  have hl : es.participating.lacking = I.counted.filter (!·.participated) :=
    I.lacking .participating
  have hvs : vs.nonParticipating =
      ValidatorSurvey.missed (ValidatorSurvey.dutiesOf I.duties).values I.credited :=
    congrArg ValidatorSummary.nonParticipating I.ofValidators.report
  have hn : ((I.counted.filter (!·.participated)).map (·.seat)).Nodup := by
    refine List.Nodup.of_map Seat.validator ?_
    rw [List.map_map]
    exact I.nodup_counted.sublist (List.filter_sublist.map _)
  have hn' : (ValidatorSurvey.missed (ValidatorSurvey.dutiesOf I.duties).values
      I.credited).Nodup := ValidatorSurvey.nodup_missed ValidatorSurvey.nodup_values_dutiesOf
  rw [hl, hvs]
  refine eq_of_perm_of_pairwise id
    ((List.perm_ext_iff_of_nodup hn hn').2 fun _ => I.mem_missed_iff) ?_ ?_ pairwise_sortOn
  · rwa [List.map_id]
  · exact List.pairwise_map.2 (EpochSurvey.pairwise_activeRecords.sublist List.filter_sublist)

/-- The records with a vote that is wrong or late in some respect are those of the credits that
    are. -/
theorem filter_perm {p : Participation → Bool} {q : Classification → Bool}
    (hpq : ∀ x y, Matches x y → p x = q y.classification) :
    (((I.counted.filter p).filter (·.participated)).map
        fun x => (x.seat, x.inclusion.map (·.slot))).Perm
      ((ValidatorSurvey.faults I.credited q).map fun fault =>
        (fault.seat, some fault.inclusion)) := by
  obtain ⟨ys, hp, hm⟩ := I.exists_credits
  have hf : List.Forall₂ Matches ((I.counted.filter (·.participated)).filter p)
      (ys.filter (q ·.classification)) :=
    List.rel_filter (fun x y h => Bool.eq_iff_iff.1 (hpq x y h)) hm
  have hmap : ((I.counted.filter (·.participated)).filter p).map
        (fun x => (x.seat, x.inclusion.map (·.slot))) =
      ((ys.filter (q ·.classification)).map (·.fault)).map
        fun fault => (fault.seat, some fault.inclusion) := by
    rw [List.map_map]
    refine List.forall₂_eq_eq_eq ▸ List.rel_map (fun x y h => ?_) hf
    exact Prod.ext h.seat h.inclusion
  have hcomm : (I.counted.filter p).filter (·.participated) =
      (I.counted.filter (·.participated)).filter p := by
    rw [List.filter_filter, List.filter_filter]
    exact List.filter_congr fun x _ => Bool.and_comm ..
  rw [hcomm, hmap]
  exact (((hp.filter _).map _).trans ValidatorSurvey.faults_perm.symm).map _

theorem untimelySource_eq :
    (es.sourceTimely.lacking.filter (·.participated)).map
        (fun x => (x.seat, x.inclusion.map (·.slot))) =
      vs.untimelySource.map fun fault => (fault.seat, some fault.inclusion) := by
  have hl : es.sourceTimely.lacking = I.counted.filter (!·.flags.sourceTimely) :=
    I.lacking .sourceTimely
  have hvs : vs.untimelySource = ValidatorSurvey.faults I.credited fun x => !sourceInTime x.delay :=
    congrArg ValidatorSummary.untimelySource I.ofValidators.report
  have hn : (((I.counted.filter (!·.flags.sourceTimely)).filter (·.participated)).map
      fun x => (x.seat, x.inclusion.map (·.slot))).map Prod.fst |>.Nodup := by
    refine List.Nodup.of_map Seat.validator ?_
    rw [List.map_map, List.map_map]
    exact I.nodup_counted.sublist ((List.filter_sublist.trans List.filter_sublist).map _)
  rw [hl, hvs]
  refine eq_of_perm_of_pairwise Prod.fst
    (I.filter_perm fun x y h => congrArg not h.sourceTimely) hn ?_ ?_
  · exact List.pairwise_map.2 (EpochSurvey.pairwise_activeRecords.sublist
      (List.filter_sublist.trans List.filter_sublist))
  · exact List.pairwise_map.2 pairwise_sortOn

/-- What is wrong about all votes of a validator is wrong about the credited one. -/
theorem exists_fault (criterion : Criterion) {x : Participation}
    (hx : x ∈ (es.outcome criterion).lacking) (hp : x.participated) :
    ∃ fault ∈ ValidatorSurvey.faults I.credited fun c => !criterion.holds c.flags,
      fault.seat = x.seat ∧ x.inclusion.map (·.slot) = some fault.inclusion := by
  rw [I.lacking, List.mem_filter] at hx
  obtain ⟨hx, hn⟩ := hx
  obtain ⟨y, hy, hv⟩ := (I.participated_iff hx).1 hp
  have hm := I.matches_of_mem hx hy hv
  have hh : criterion.holds y.classification.flags = false := by
    rw [← Bool.not_eq_true]
    intro hh
    simp [hm.isMet criterion hh] at hn
  refine ⟨y.fault, ?_, hm.seat.symm, hm.inclusion⟩
  rw [ValidatorSurvey.faults_perm.mem_iff]
  exact List.mem_map_of_mem (List.mem_filter.2 ⟨hy, by rw [hh, Bool.not_false]⟩)

theorem agrees : Agrees es vs where
  proposals := I.proposals_eq
  active := I.active_eq
  participating := I.participating_eq
  nonParticipating := I.nonParticipating_eq
  untimelySource := I.untimelySource_eq
  incorrectHead _ hx hp := by
    rw [show vs.incorrectHead = ValidatorSurvey.faults I.credited fun c => !c.flags.headCorrect
      from congrArg ValidatorSummary.incorrectHead I.ofValidators.report]
    exact I.exists_fault .headCorrect hx hp
  incorrectTarget _ hx hp := by
    rw [show vs.incorrectTarget = ValidatorSurvey.faults I.credited fun c => !c.flags.targetCorrect
      from congrArg ValidatorSummary.incorrectTarget I.ofValidators.report]
    exact I.exists_fault .targetCorrect hx hp

end Runs

/-- **The summaries agree.** When both summaries of the same named validators succeed on a node that
    knows the validators and gives the seats of each as its duties, they agree. -/
theorem agrees_of_run {available available' : List Capability} {chain : Chain}
    (hk : node.KnowsValidators known) (ht : node.HasCommittees chain.clock epoch table)
    (hone : table.OneSeat) (hg : node.GivesSeats epoch table)
    (hroots : Set.InjOn Attestation.identityRoot
      {a | ∃ slot ∈ (chain.clock.inclusionWindow epoch current).slots,
        a ∈ node.attestationsAt slot})
    (he : answer node (EpochSurvey.run available limits chain ⟨epoch, ids, current⟩) = .ok es)
    (hv : answer node (ValidatorSurvey.run available' limits' chain ⟨epoch, ids, current⟩) =
      .ok vs) : Agrees es vs := by
  obtain ⟨selection, due, infos, records, hm⟩ := EpochSurvey.makes_of_run he
  obtain ⟨found, duties, credited, proposers, proposals, hm'⟩ := ValidatorSurvey.makes_of_run hv
  have hr := EpochSurvey.recounted_of_participations hm.participations ht hroots
  exact Runs.agrees ⟨hk, ht, hone, hg, selection, due, infos, records, hm, hr, found, duties,
    credited, proposers, proposals, hm'⟩

/-- Of two validators of the small chain one has voted. -/
theorem agrees_of_run_devnet :
    ∃ es vs,
      answer Ledger.devnet.answers (EpochSurvey.run EpochSurvey.needs .usual Ledger.devnetChain
        ⟨0, [.index 1, .index 3], 3⟩) = .ok es ∧
      answer Ledger.devnet.answers (ValidatorSurvey.run ValidatorSurvey.needs .usual
        Ledger.devnetChain ⟨0, [.index 1, .index 3], 3⟩) = .ok vs ∧
      Agrees es vs ∧ vs.participating = 1 ∧ vs.nonParticipating = [⟨1, 0, 3⟩] := by
  have hes : (answer Ledger.devnet.answers (EpochSurvey.run EpochSurvey.needs .usual
      Ledger.devnetChain ⟨0, [.index 1, .index 3], 3⟩)).isOk := by decide +kernel
  have hvs : (answer Ledger.devnet.answers (ValidatorSurvey.run ValidatorSurvey.needs .usual
      Ledger.devnetChain ⟨0, [.index 1, .index 3], 3⟩)).toOption.map
        (fun vs => (vs.participating, vs.nonParticipating)) = some (1, [⟨1, 0, 3⟩]) := by
    decide +kernel
  have hroots : ∀ a ∈ (Ledger.devnetChain.clock.inclusionWindow 0 3).slots.flatMap
        Ledger.devnet.answers.attestationsAt,
      ∀ b ∈ (Ledger.devnetChain.clock.inclusionWindow 0 3).slots.flatMap
        Ledger.devnet.answers.attestationsAt,
      a.identityRoot = b.identityRoot → a = b := by decide +kernel
  cases he : answer Ledger.devnet.answers (EpochSurvey.run EpochSurvey.needs .usual
      Ledger.devnetChain ⟨0, [.index 1, .index 3], 3⟩) with
  | error failure => simp [he, Except.isOk, Except.toBool] at hes
  | ok es =>
    cases hv : answer Ledger.devnet.answers (ValidatorSurvey.run ValidatorSurvey.needs .usual
        Ledger.devnetChain ⟨0, [.index 1, .index 3], 3⟩) with
    | error failure => simp [hv, Except.toOption] at hvs
    | ok vs =>
      have hag := agrees_of_run (Ledger.knowsValidators (by decide)) ⟨_, rfl, rfl⟩
        (by unfold CommitteeTable.OneSeat; decide +kernel) (Ledger.givesSeats (by decide +kernel))
        (fun a ha b hb => hroots a (List.mem_flatMap.2 ha) b (List.mem_flatMap.2 hb)) he hv
      simp only [hv, Except.toOption, Option.map_some, Option.some.injEq, Prod.mk.injEq] at hvs
      exact ⟨es, vs, rfl, rfl, hag, hvs⟩

end Agreement

end BeaconDuties
