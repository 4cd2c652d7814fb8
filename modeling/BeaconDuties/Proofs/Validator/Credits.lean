import BeaconDuties.Proofs.Duty.Committee
import BeaconDuties.Proofs.Duty.Duplicates
import BeaconDuties.Proofs.Maps
import BeaconDuties.Proofs.Report.Parts
import BeaconDuties.Proofs.Survey.Sightings

/-!
Which duties of validators are fulfilled.

`ValidatorSurvey.Crediting` is the search for fulfilled duties as a relation on the attestations of
the epoch that the blocks of the window include, in the order of the chain. A duty is credited to
the first of them that votes for its slot with its validator's vote
(`ValidatorSurvey.Crediting.mem_iff`), and to no other (`ValidatorSurvey.Crediting.nodup`).
-/

namespace BeaconDuties.ValidatorSurvey

open Survey

variable {node : Answers} {clock : Clock} {limits : Limits} {epoch : Epoch}
  {table : CommitteeTable} {duties : Duties} {slot : Slot} {duty : AttesterDuty}

/-! ## Duties -/

/-- Duties are found by their validators. -/
def Keyed (duties : Duties) : Prop :=
  ∀ {v : ValidatorIndex} {duty : AttesterDuty}, duties[v]? = some duty → duty.validator = v

theorem getElem?_dutiesOf {list : List AttesterDuty} {v : ValidatorIndex} :
    (dutiesOf list)[v]? = list.reverse.find? (·.validator = v) := by
  rw [dutiesOf]
  refine Maps.getElem?_foldl_insert.trans ?_
  simp

theorem keyed_dutiesOf {list : List AttesterDuty} : Keyed (dutiesOf list) := by
  intro v duty h
  rw [getElem?_dutiesOf] at h
  simpa using List.find?_some h

theorem mem_of_getElem?_dutiesOf {list : List AttesterDuty} {v : ValidatorIndex}
    (h : (dutiesOf list)[v]? = some duty) : duty ∈ list := by
  rw [getElem?_dutiesOf] at h
  exact List.mem_reverse.1 (List.mem_of_find?_eq_some h)

theorem isSome_getElem?_dutiesOf {list : List AttesterDuty} {v : ValidatorIndex} :
    (dutiesOf list)[v]?.isSome ↔ ∃ duty ∈ list, duty.validator = v := by
  rw [getElem?_dutiesOf, List.find?_isSome]
  simp only [List.mem_reverse, decide_eq_true_eq]

/-- A member fulfils a duty for the slot of the attestation that has not been credited yet, or
    nothing. -/
theorem fulfilled_cons (duties : Duties) (slot : Slot) (seen : Duplicates) (member : Member)
    (rest : List Member) :
    (∃ duty, duties[member.validator]? = some duty ∧ duty.slot = slot ∧
        ¬ seen.isCredited ⟨slot, member.validator⟩ ∧
        fulfilled duties slot seen (member :: rest) =
          (duty :: (fulfilled duties slot (seen.credit ⟨slot, member.validator⟩) rest).1,
            (fulfilled duties slot (seen.credit ⟨slot, member.validator⟩) rest).2)) ∨
      (∀ duty, duties[member.validator]? = some duty → duty.slot = slot →
          seen.isCredited ⟨slot, member.validator⟩) ∧
        fulfilled duties slot seen (member :: rest) = fulfilled duties slot seen rest := by
  rw [fulfilled]
  dsimp only
  split
  · next duty h =>
    obtain ⟨hd, hc⟩ := Option.filter_eq_some_iff.1 h
    simp only [Bool.and_eq_true, decide_eq_true_eq, Bool.not_eq_true'] at hc
    exact .inl ⟨duty, hd, hc.1, by simp [hc.2], rfl⟩
  · next h =>
    refine .inr ⟨fun duty hd hs => ?_, rfl⟩
    rw [hd] at h
    simpa [Option.filter, hs] using h

/-- The duties that members fulfil are their duties for the slot that have not been credited. -/
theorem mem_fulfilled (hk : Keyed duties) : ∀ {members : List Member} {seen : Duplicates},
    duty ∈ (fulfilled duties slot seen members).1 ↔
      duties[duty.validator]? = some duty ∧ duty.slot = slot ∧
        duty.validator ∈ members.map (·.validator) ∧ ¬ seen.isCredited ⟨slot, duty.validator⟩
  | [], seen => by simp [fulfilled]
  | member :: rest, seen => by
    rw [List.map_cons, List.mem_cons]
    rcases fulfilled_cons duties slot seen member rest with ⟨first, hd, hs, hc, he⟩ | ⟨hc, he⟩
    · have hv := hk hd
      rw [he, List.mem_cons, mem_fulfilled hk, Duplicates.isCredited_credit]
      constructor
      · rintro (rfl | ⟨hd', hs', hm, hn⟩)
        · exact ⟨hv ▸ hd, hs, .inl hv, hv ▸ hc⟩
        · exact ⟨hd', hs', .inr hm, fun h => hn (.inr h)⟩
      · rintro ⟨hd', hs', hm, hn⟩
        by_cases hv' : duty.validator = member.validator
        · left
          rw [hv', hd] at hd'
          exact (Option.some.inj hd').symm
        · refine .inr ⟨hd', hs', hm.resolve_left hv', ?_⟩
          rintro (h | h)
          · exact hv' (congrArg Ballot.validator h)
          · exact hn h
    · rw [he, mem_fulfilled hk]
      refine and_congr_right fun hd => and_congr_right fun hs =>
        ⟨fun h => ⟨.inr h.1, h.2⟩, fun h => ⟨h.1.resolve_left fun hv => ?_, h.2⟩⟩
      exact h.2 (hv ▸ hc duty (hv ▸ hd) hs)

theorem isCredited_fulfilled {ballot : Ballot} (hk : Keyed duties) :
    ∀ {members : List Member} {seen : Duplicates},
      (fulfilled duties slot seen members).2.isCredited ballot ↔ seen.isCredited ballot ∨
        ∃ duty ∈ (fulfilled duties slot seen members).1, ballot = ⟨slot, duty.validator⟩
  | [], seen => by simp [fulfilled]
  | member :: rest, seen => by
    rcases fulfilled_cons duties slot seen member rest with ⟨first, hd, -, -, he⟩ | ⟨-, he⟩
    · rw [he, isCredited_fulfilled hk, Duplicates.isCredited_credit, List.exists_mem_cons_iff,
        hk hd]
      tauto
    · rw [he, isCredited_fulfilled hk]

theorem nodup_fulfilled (hk : Keyed duties) : ∀ {members : List Member} {seen : Duplicates},
    ((fulfilled duties slot seen members).1.map (·.validator)).Nodup
  | [], seen => by simp [fulfilled]
  | member :: rest, seen => by
    rcases fulfilled_cons duties slot seen member rest with ⟨first, hd, -, -, he⟩ | ⟨-, he⟩
    · rw [he, List.map_cons, List.nodup_cons]
      refine ⟨fun hm => ?_, nodup_fulfilled hk⟩
      obtain ⟨other, ho, hv⟩ := List.mem_map.1 hm
      refine ((mem_fulfilled hk).1 ho).2.2.2 ?_
      rw [hv, hk hd, Duplicates.isCredited_credit]
      exact .inl rfl
    · rw [he]
      exact nodup_fulfilled hk

/-! ## The search -/

/-- A search goes through sightings, given which votes have been credited before them. -/
inductive Crediting (node : Answers) (clock : Clock) (table : CommitteeTable) (duties : Duties) :
    Duplicates → List Sighting → List Credit → Duplicates → Prop where
  | nil {seen : Duplicates} : Crediting node clock table duties seen [] [] seen
  /-- No duty is fulfilled. -/
  | idle {seen after : Duplicates} {x : Sighting} {rest : List Sighting} {found : List Credit}
      {members : List Member} (voters : table.attesting x.attestation = .ok members)
      (nobody : (fulfilled duties x.attestation.data.slot seen members).1 = [])
      (next : Crediting node clock table duties
        (fulfilled duties x.attestation.data.slot seen members).2 rest found after) :
      Crediting node clock table duties seen (x :: rest) found after
  | credited {seen after : Duplicates} {x : Sighting} {rest : List Sighting} {found : List Credit}
      {members : List Member} {classification : Classification}
      (voters : table.attesting x.attestation = .ok members)
      (judges : classification.Judges node clock x.attestation.data x.slot)
      (next : Crediting node clock table duties
        (fulfilled duties x.attestation.data.slot seen members).2 rest found after) :
      Crediting node clock table duties seen (x :: rest)
        ((fulfilled duties x.attestation.data.slot seen members).1.map
          (fun duty => ⟨duty, x.slot, classification⟩) ++ found) after

theorem Crediting.append {seen between after : Duplicates} {xs ys : List Sighting}
    {found further : List Credit} (h : Crediting node clock table duties seen xs found between)
    (h' : Crediting node clock table duties between ys further after) :
    Crediting node clock table duties seen (xs ++ ys) (found ++ further) after := by
  induction h with
  | nil => exact h'
  | idle voters nobody _ ih => exact .idle voters nobody (ih h')
  | credited voters judges _ ih =>
    rw [List.append_assoc]
    exact .credited voters judges (ih h')

theorem steady_inBlock {list : List Attestation} {seen : Duplicates} :
    Steady node clock (inBlock limits clock epoch table duties slot seen list) :=
  .of_composed (composed_inBlock fun _ => trivial)

theorem steady_inSlot {seen : Duplicates} :
    Steady node clock (inSlot limits clock epoch table duties seen slot) :=
  .of_composed (composed_inSlot (fun _ => trivial) trivial)

theorem crediting_of_inBlock : ∀ {list : List Attestation} {seen after : Duplicates}
    {found : List Credit},
    Finds node clock (inBlock limits clock epoch table duties slot seen list) (found, after) →
      Crediting node clock table duties seen
        ((list.filter fun x => clock.epochOf x.data.slot = epoch).map (.mk slot)) found after
  | [], seen, after, found, h => by
    cases finds_pure.1 h
    exact .nil
  | attestation :: rest, seen, after, found, h => by
    rw [inBlock] at h
    rw [List.filter_cons]
    dsimp only at h
    split at h
    · next he =>
      rw [if_pos (by simpa using he), List.map_cons]
      obtain ⟨members, hm, h⟩ := Finds.bind h .attesting
      rw [attesting, answer_lift_eq_ok] at hm
      split at h
      · next hn => exact .idle hm (List.isEmpty_iff.1 hn) (crediting_of_inBlock h)
      · obtain ⟨classification, hc, h⟩ := Finds.bind h .classify
        obtain ⟨⟨further, after'⟩, hb, h⟩ := Finds.bind h steady_inBlock
        cases finds_pure.1 h
        exact .credited hm (judges_of_classify hc)
          (crediting_of_inBlock (finds_of_answer hb : Finds node clock _ _))
    · next he =>
      rw [if_neg (by simpa using he)]
      exact crediting_of_inBlock h

theorem crediting_of_inSlot {seen after : Duplicates} {found : List Credit}
    (h : Finds node clock (inSlot limits clock epoch table duties seen slot) (found, after)) :
    Crediting node clock table duties seen (Sighting.listAt node clock epoch slot) found after := by
  obtain ⟨-, -, h⟩ := Finds.bind h .checkTime
  obtain ⟨block?, hb, h⟩ := Finds.bind h .blockIn
  rw [answer_blockIn_eq_ok] at hb
  have hb := node.blockAt?_eq hb
  cases block? with
  | none =>
    cases finds_pure.1 h
    simp only [Sighting.listAt, Answers.attestationsAt, hb]
    exact .nil
  | some block =>
    simpa only [Sighting.listAt, Answers.attestationsAt, hb] using crediting_of_inBlock h

theorem steady_credits {query : Query} :
    Steady node clock (credits limits clock query duties) :=
  .of_composed (composed_credits (fun _ => trivial) (fun _ => trivial) rfl)

/-- The search for the duties that are fulfilled goes through the window. -/
theorem crediting_of_credits {query : Query} {found : List Credit}
    (h : answer node (credits limits clock query duties) = .ok found) :
    (duties.isEmpty ∧ found = []) ∨
      ∃ table after, node.HasCommittees clock query.epoch table ∧
        Crediting node clock table duties .empty (Sighting.list node clock query.epoch
          (clock.inclusionWindow query.epoch query.current).slots) found after := by
  have h : Finds node clock (credits limits clock query duties) found := finds_of_answer h
  rw [credits] at h
  split at h
  · next he => exact .inl ⟨he, (finds_pure.1 h).symm⟩
  · obtain ⟨table, ht, h⟩ := Finds.bind h .committees
    obtain ⟨after, hc⟩ := Finds.gatherSlots
      (R := fun seen slots found after => Crediting node clock table duties seen
        (Sighting.list node clock query.epoch slots) found after)
      (fun _ _ => steady_inSlot) (fun _ => .nil)
      (fun hf hs => by
        rw [Sighting.list, List.flatMap_cons]
        exact (crediting_of_inSlot hf).append hs) h
    exact .inr ⟨table, after, answer_committees_eq_ok.1 ht, hc⟩

/-! ## What is credited -/

/-- Whether an attestation fulfils a duty: it votes for the slot of the duty, and has the vote of
    the validator. -/
def fulfils (table : CommitteeTable) (duty : AttesterDuty) (a : Attestation) : Bool :=
  a.data.slot = duty.slot && duty.validator ∈ table.voters a

/-- A duty for the only seat of a validator is fulfilled by any attestation with its vote. -/
theorem fulfils_iff (h : table.OneSeat) (hs : seatOf duty ∈ table.seats) {a : Attestation} :
    fulfils table duty a ↔ duty.validator ∈ table.voters a := by
  rw [fulfils, Bool.and_eq_true, decide_eq_true_eq, decide_eq_true_eq]
  exact and_iff_right_of_imp fun hv => h.slot_eq hs hv

/-- A credit is for the first sighting that fulfils its duty. -/
def Credit.Earned (node : Answers) (clock : Clock) (table : CommitteeTable)
    (sightings : List Sighting) (y : Credit) : Prop :=
  ∃ x, sightings.find? (fun x => fulfils table y.duty x.attestation) = some x ∧
    y.inclusion = x.slot ∧ y.classification.Judges node clock x.attestation.data x.slot

theorem mem_fulfilled_iff (hk : Keyed duties) {seen : Duplicates} {a : Attestation}
    {members : List Member} (hm : table.attesting a = .ok members) :
    duty ∈ (fulfilled duties a.data.slot seen members).1 ↔ duties[duty.validator]? = some duty ∧
      fulfils table duty a ∧ ¬ seen.isCredited ⟨duty.slot, duty.validator⟩ := by
  rw [mem_fulfilled hk, fulfils, table.voters_eq hm]
  simp only [Bool.and_eq_true, decide_eq_true_eq]
  constructor
  · rintro ⟨hd, hs, hv, hc⟩
    exact ⟨hd, ⟨hs.symm, hv⟩, hs ▸ hc⟩
  · rintro ⟨hd, ⟨hs, hv⟩, hc⟩
    exact ⟨hd, hs.symm, hv, hs ▸ hc⟩

/-- After an attestation the votes are credited whose duties it fulfils. -/
theorem isCredited_fulfilled_iff (hk : Keyed duties) (hd : duties[duty.validator]? = some duty)
    {seen : Duplicates} {a : Attestation} {members : List Member}
    (hm : table.attesting a = .ok members) :
    (fulfilled duties a.data.slot seen members).2.isCredited ⟨duty.slot, duty.validator⟩ ↔
      seen.isCredited ⟨duty.slot, duty.validator⟩ ∨ fulfils table duty a := by
  rw [isCredited_fulfilled hk]
  constructor
  · rintro (hc | ⟨other, ho, he⟩)
    · exact .inl hc
    · obtain ⟨hd', hf, -⟩ := (mem_fulfilled_iff hk hm).1 ho
      have hv : duty.validator = other.validator := congrArg Ballot.validator he
      rw [← hv, hd] at hd'
      exact .inr (Option.some.inj hd' ▸ hf)
  · intro h
    by_cases hc : seen.isCredited ⟨duty.slot, duty.validator⟩
    · exact .inl hc
    · have hf := h.resolve_left hc
      refine .inr ⟨duty, (mem_fulfilled_iff hk hm).2 ⟨hd, hf, hc⟩, ?_⟩
      simp only [fulfils, Bool.and_eq_true, decide_eq_true_eq] at hf
      rw [hf.1]

theorem Credit.earned_cons {x : Sighting} {rest : List Sighting} {y : Credit} :
    y.Earned node clock table (x :: rest) ↔
      if fulfils table y.duty x.attestation then y.inclusion = x.slot ∧
        y.classification.Judges node clock x.attestation.data x.slot
      else y.Earned node clock table rest := by
  by_cases hf : fulfils table y.duty x.attestation
  · simp [Earned, hf]
  · simp [Earned, hf]

/-- The credits are those of the duties that some sighting fulfils, but for the votes that have been
    credited before. -/
theorem Crediting.mem_iff (hk : Keyed duties) {seen after : Duplicates} {xs : List Sighting}
    {found : List Credit} (h : Crediting node clock table duties seen xs found after)
    {y : Credit} :
    y ∈ found ↔ duties[y.duty.validator]? = some y.duty ∧ y.Earned node clock table xs ∧
      ¬ seen.isCredited ⟨y.duty.slot, y.duty.validator⟩ := by
  induction h with
  | nil => simp [Credit.Earned]
  | @idle seen after x rest found members voters nobody _ ih =>
    rw [ih]
    refine and_congr_right fun hd => ?_
    rw [isCredited_fulfilled_iff hk hd voters, Credit.earned_cons, not_or]
    have hn : ¬ (fulfils table y.duty x.attestation ∧
        ¬ seen.isCredited ⟨y.duty.slot, y.duty.validator⟩) := by
      intro h
      have := (mem_fulfilled_iff hk voters).2 ⟨hd, h⟩
      simp [nobody] at this
    split <;> tauto
  | @credited seen after x rest found members classification voters judges _ ih =>
    rw [List.mem_append, ih, List.mem_map]
    constructor
    · rintro (⟨duty, hf, rfl⟩ | ⟨hd, he, hn⟩)
      · obtain ⟨hd, hf, hc⟩ := (mem_fulfilled_iff hk voters).1 hf
        refine ⟨hd, ?_, hc⟩
        rw [Credit.earned_cons, if_pos hf]
        exact ⟨rfl, judges⟩
      · rw [isCredited_fulfilled_iff hk hd voters, not_or] at hn
        refine ⟨hd, ?_, hn.1⟩
        rw [Credit.earned_cons, if_neg hn.2]
        exact he
    · rintro ⟨hd, he, hn⟩
      rw [Credit.earned_cons] at he
      split at he
      · next hf =>
        refine .inl ⟨y.duty, (mem_fulfilled_iff hk voters).2 ⟨hd, hf, hn⟩, ?_⟩
        obtain ⟨duty, inclusion, classification'⟩ := y
        obtain ⟨rfl, hj⟩ := he
        rw [judges.unique hj]
      · next hf =>
        refine .inr ⟨hd, he, ?_⟩
        rw [isCredited_fulfilled_iff hk hd voters]
        exact fun h => h.elim hn hf

/-- A duty that some sighting fulfils is credited. -/
theorem Crediting.exists_credit (hk : Keyed duties) (hd : duties[duty.validator]? = some duty)
    {seen after : Duplicates} {xs : List Sighting} {found : List Credit}
    (h : Crediting node clock table duties seen xs found after)
    (hf : ∃ x ∈ xs, fulfils table duty x.attestation)
    (hn : ¬ seen.isCredited ⟨duty.slot, duty.validator⟩) : ∃ y ∈ found, y.duty = duty := by
  induction h with
  | nil => simp at hf
  | @idle seen after x rest found members voters nobody _ ih =>
    have hx : ¬ fulfils table duty x.attestation := by
      intro hx
      have := (mem_fulfilled_iff hk voters).2 ⟨hd, hx, hn⟩
      simp [nobody] at this
    rw [List.exists_mem_cons_iff] at hf
    refine ih (hf.resolve_left hx) ?_
    rw [isCredited_fulfilled_iff hk hd voters]
    exact fun h => h.elim hn hx
  | @credited seen after x rest found members classification voters judges _ ih =>
    by_cases hx : fulfils table duty x.attestation
    · exact ⟨_, List.mem_append_left _
        (List.mem_map_of_mem ((mem_fulfilled_iff hk voters).2 ⟨hd, hx, hn⟩)), rfl⟩
    · rw [List.exists_mem_cons_iff] at hf
      obtain ⟨y, hy, he⟩ := ih (hf.resolve_left hx) (by
        rw [isCredited_fulfilled_iff hk hd voters]
        exact fun h => h.elim hn hx)
      exact ⟨y, List.mem_append_right _ hy, he⟩

/-- No duty is credited twice. -/
theorem Crediting.nodup (hk : Keyed duties) {seen after : Duplicates} {xs : List Sighting}
    {found : List Credit} (h : Crediting node clock table duties seen xs found after) :
    (found.map (·.duty.validator)).Nodup := by
  induction h with
  | nil => exact .nil
  | idle _ _ _ ih => exact ih
  | @credited seen after x rest found members classification voters judges next ih =>
    rw [List.map_append, List.map_map]
    refine List.nodup_append.2 ⟨nodup_fulfilled hk, ih, ?_⟩
    intro v hv w hw he
    subst he
    obtain ⟨duty, hf, rfl⟩ := List.mem_map.1 hv
    obtain ⟨y, hy, he⟩ := List.mem_map.1 hw
    obtain ⟨hd, -, hn⟩ := (next.mem_iff hk).1 hy
    obtain ⟨hd', hf, -⟩ := (mem_fulfilled_iff hk voters).1 hf
    have hsame : y.duty = duty := by
      have : duties[y.duty.validator]? = some duty := he ▸ hd'
      exact Option.some.inj (hd.symm.trans this)
    rw [isCredited_fulfilled_iff hk hd voters, hsame] at hn
    exact hn (.inr hf)

end BeaconDuties.ValidatorSurvey
