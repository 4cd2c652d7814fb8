import BeaconDuties.Proofs.Duty.Committee
import BeaconDuties.Proofs.Duty.Duplicates
import BeaconDuties.Proofs.Report.Parts
import BeaconDuties.Proofs.Survey.Sightings

/-!
What the search for inclusions finds.

`EpochSurvey.Scan` is the search as a relation on the attestations of the epoch that the blocks of
the window include, in the order of the chain. It passes over attestations that have been seen
before, so that what is found is told by the first sighting of each attestation
(`EpochSurvey.tells_of_inclusions`).
-/

namespace BeaconDuties.EpochSurvey

open Survey

variable {node : Answers} {clock : Clock} {limits : Limits} {epoch : Epoch}
  {table : CommitteeTable} {wanted : ValidatorIndex → Bool}

/-- An inclusion tells of a sighting: how the votes were judged, and whose of the wanted votes there
    are. -/
structure Inclusion.Tells (node : Answers) (clock : Clock) (table : CommitteeTable)
    (wanted : ValidatorIndex → Bool) (x : Sighting) (inclusion : Inclusion) : Prop where
  slot : inclusion.slot = x.slot
  data : inclusion.data = x.attestation.data
  judges : inclusion.classification.Judges node clock x.attestation.data x.slot
  validators : inclusion.validators = (table.voters x.attestation).filter wanted

/-- A search goes through sightings, given what has been seen before them. -/
inductive Scan (node : Answers) (clock : Clock) (table : CommitteeTable)
    (wanted : ValidatorIndex → Bool) :
    Duplicates → List Sighting → List Inclusion → Duplicates → Prop where
  | nil {seen : Duplicates} : Scan node clock table wanted seen [] [] seen
  /-- The attestation has been seen before. -/
  | again {seen after : Duplicates} {x : Sighting} {rest : List Sighting} {found : List Inclusion}
      (known : (seen.origin? x.attestation.identityRoot).isSome)
      (next : Scan node clock table wanted seen rest found after) :
      Scan node clock table wanted seen (x :: rest) found after
  /-- The attestation carries no wanted vote. -/
  | idle {seen after : Duplicates} {x : Sighting} {rest : List Sighting} {found : List Inclusion}
      {origin : Origin} (unknown : ¬ (seen.origin? x.attestation.identityRoot).isSome)
      (unwanted : (table.voters x.attestation).filter wanted = [])
      (next : Scan node clock table wanted (seen.record x.attestation.identityRoot origin) rest
        found after) :
      Scan node clock table wanted seen (x :: rest) found after
  | included {seen after : Duplicates} {x : Sighting} {rest : List Sighting}
      {inclusion : Inclusion} {found : List Inclusion} {origin : Origin}
      (unknown : ¬ (seen.origin? x.attestation.identityRoot).isSome)
      (carries : (table.voters x.attestation).filter wanted ≠ [])
      (tells : inclusion.Tells node clock table wanted x)
      (next : Scan node clock table wanted (seen.record x.attestation.identityRoot origin) rest
        found after) :
      Scan node clock table wanted seen (x :: rest) (inclusion :: found) after

theorem Scan.append {seen between after : Duplicates} {xs ys : List Sighting}
    {found further : List Inclusion} (h : Scan node clock table wanted seen xs found between)
    (h' : Scan node clock table wanted between ys further after) :
    Scan node clock table wanted seen (xs ++ ys) (found ++ further) after := by
  induction h with
  | nil => exact h'
  | again known _ ih => exact .again known (ih h')
  | idle unknown unwanted _ ih => exact .idle unknown unwanted (ih h')
  | included unknown carries tells _ ih => exact .included unknown carries tells (ih h')

/-! ## The search is a scan -/

theorem steady_judge {slot : Slot} {index : Nat} {attestation : Attestation} :
    Steady node clock (judge limits clock table wanted slot index attestation) :=
  .of_composed (composed_judge fun _ => trivial)

theorem steady_inBlock {slot : Slot} {list : List (Attestation × Nat)} {seen : Duplicates} :
    Steady node clock (inBlock limits clock epoch table wanted slot seen list) :=
  .of_composed (composed_inBlock fun _ => trivial)

theorem steady_inSlot {seen : Duplicates} {slot : Slot} :
    Steady node clock (inSlot limits clock epoch table wanted seen slot) :=
  .of_composed (composed_inSlot (fun _ => trivial) trivial)

theorem steady_inclusions {window : SlotRange} :
    Steady node clock (inclusions limits clock epoch table wanted window) :=
  .of_composed (composed_inclusions (fun _ => trivial) fun _ _ => trivial)

/-- An attestation is judged if it carries a wanted vote. -/
theorem tells_of_judge {slot : Slot} {index : Nat} {attestation : Attestation}
    {found : List Inclusion}
    (h : answer node (judge limits clock table wanted slot index attestation) = .ok found) :
    (found = [] ∧ (table.voters attestation).filter wanted = []) ∨
      ∃ inclusion : Inclusion, found = [inclusion] ∧
        (table.voters attestation).filter wanted ≠ [] ∧
        inclusion.Tells node clock table wanted ⟨slot, attestation⟩ := by
  obtain ⟨members, hm, h⟩ := Finds.bind (finds_of_answer h : Finds node clock _ _)
    (.during _ .attesting)
  rw [answer_during_eq_ok, attesting, answer_lift_eq_ok] at hm
  have hv := table.voters_eq hm
  dsimp only at h
  split at h
  · next he =>
    obtain rfl := finds_pure.1 h
    rw [hv]
    exact .inl ⟨rfl, List.isEmpty_iff.1 he⟩
  · next he =>
    obtain ⟨classification, hc, h⟩ := Finds.bind h .classify
    obtain rfl := finds_pure.1 h
    rw [hv]
    exact .inr ⟨_, rfl, fun h => he (List.isEmpty_iff.2 h), rfl, rfl, judges_of_classify hc, by
      rw [hv]⟩

theorem scan_of_inBlock {slot : Slot} :
    ∀ {list : List (Attestation × Nat)} {seen after : Duplicates} {found : List Inclusion},
      Finds node clock (inBlock limits clock epoch table wanted slot seen list) (found, after) →
        Scan node clock table wanted seen
          (((list.map Prod.fst).filter fun x => clock.epochOf x.data.slot = epoch).map (.mk slot))
          found after
  | [], seen, after, found, h => by
    cases finds_pure.1 h
    exact .nil
  | (attestation, index) :: rest, seen, after, found, h => by
    rw [EpochSurvey.inBlock] at h
    rw [List.map_cons, List.filter_cons]
    split at h
    · next he =>
      rw [if_pos (by simpa using he), List.map_cons]
      dsimp only at h
      split at h
      · next known => exact .again known (scan_of_inBlock h)
      · next unknown =>
        obtain ⟨here, hj, h⟩ := Finds.bind h steady_judge
        obtain ⟨⟨further, after'⟩, hb, h⟩ := Finds.bind h steady_inBlock
        cases finds_pure.1 h
        have hs := scan_of_inBlock (finds_of_answer hb)
        rcases tells_of_judge hj with ⟨rfl, unwanted⟩ | ⟨inclusion, rfl, carries, tells⟩
        · exact .idle unknown unwanted hs
        · exact .included unknown carries tells hs
    · next he =>
      rw [if_neg (by simpa using he)]
      exact scan_of_inBlock h

theorem scan_of_inSlot {seen after : Duplicates} {slot : Slot} {found : List Inclusion}
    (h : Finds node clock (inSlot limits clock epoch table wanted seen slot) (found, after)) :
    Scan node clock table wanted seen (Sighting.listAt node clock epoch slot) found after := by
  obtain ⟨-, -, h⟩ := Finds.bind h .checkTime
  obtain ⟨block?, hb, h⟩ := Finds.bind h .blockIn
  rw [answer_blockIn_eq_ok] at hb
  have hb := node.blockAt?_eq hb
  cases block? with
  | none =>
    cases finds_pure.1 h
    simp only [Sighting.listAt, Answers.attestationsAt, hb]
    exact .nil
  | some block =>
    have hs := scan_of_inBlock h
    rw [List.zipIdx_map_fst] at hs
    simpa only [Sighting.listAt, Answers.attestationsAt, hb] using hs

theorem scan_of_inclusions {window : SlotRange} {found : List Inclusion}
    (h : answer node (inclusions limits clock epoch table wanted window) = .ok found) :
    ∃ after, Scan node clock table wanted .empty (Sighting.list node clock epoch window.slots)
      found after :=
  Finds.gatherSlots
    (R := fun seen slots found after =>
      Scan node clock table wanted seen (Sighting.list node clock epoch slots) found after)
    (fun _ _ => steady_inSlot) (fun _ => .nil)
    (fun hf hs => by
      rw [Sighting.list, List.flatMap_cons]
      exact (scan_of_inSlot hf).append hs)
    (finds_of_answer h : Finds node clock _ _)

/-! ## What a scan finds -/

/-- The first sighting of each attestation that has not been seen before. -/
def unseen (seen : Duplicates) (xs : List Sighting) : List Sighting :=
  (Sighting.firsts xs).filter fun x => (seen.origin? x.attestation.identityRoot).isNone

@[simp] theorem unseen_empty {xs : List Sighting} : unseen .empty xs = Sighting.firsts xs := by
  simp [unseen]

theorem unseen_cons_of_known {seen : Duplicates} {x : Sighting} {rest : List Sighting}
    (known : (seen.origin? x.attestation.identityRoot).isSome) :
    unseen seen (x :: rest) = unseen seen rest := by
  have hk := Option.isSome_iff_ne_none.1 known
  rw [unseen, Sighting.firsts, List.filter_cons, if_neg (by simpa using hk), List.filter_filter]
  refine List.filter_congr fun y _ => ?_
  by_cases he : y.attestation = x.attestation
  · simp [he, known]
  · simp [he]

theorem unseen_cons_of_unknown {seen : Duplicates} {x : Sighting} {rest : List Sighting}
    {origin : Origin} (unknown : ¬ (seen.origin? x.attestation.identityRoot).isSome)
    (hroots : ∀ y ∈ rest, y.attestation.identityRoot = x.attestation.identityRoot →
      y.attestation = x.attestation) :
    unseen seen (x :: rest) =
      x :: unseen (seen.record x.attestation.identityRoot origin) rest := by
  rw [unseen, Sighting.firsts, List.filter_cons, if_pos (by simpa using unknown),
    List.filter_filter]
  refine congrArg _ (List.filter_congr fun y hy => ?_)
  have he : y.attestation.identityRoot = x.attestation.identityRoot ↔
      y.attestation = x.attestation :=
    ⟨hroots y (Sighting.firsts_subset hy), congrArg Attestation.identityRoot⟩
  rw [Bool.eq_iff_iff]
  simp only [Bool.and_eq_true, decide_eq_true_eq, Option.isNone_iff_eq_none, ne_eq,
    ← Option.not_isSome_iff_eq_none, Duplicates.isSome_origin?_record, he, not_or, and_comm]

/-- What has been seen before is passed over. Of the rest, the first sighting of each attestation
    with a wanted vote is told of. -/
theorem Scan.tells {seen after : Duplicates} {xs : List Sighting} {found : List Inclusion}
    (h : Scan node clock table wanted seen xs found after)
    (hroots : ∀ x ∈ xs, ∀ y ∈ xs, x.attestation.identityRoot = y.attestation.identityRoot →
      x.attestation = y.attestation) :
    List.Forall₂ (Inclusion.Tells node clock table wanted)
      ((unseen seen xs).filter fun x => (table.voters x.attestation).filter wanted ≠ []) found := by
  induction h with
  | nil => exact .nil
  | again known _ ih =>
    rw [unseen_cons_of_known known]
    exact ih (List.forall_mem_cons.1 fun x hx => (List.forall_mem_cons.1 (hroots x hx)).2).2
  | idle unknown unwanted _ ih =>
    have hr := List.forall_mem_cons.1 fun x hx => (List.forall_mem_cons.1 (hroots x hx))
    rw [unseen_cons_of_unknown unknown fun y hy => (hr.2 y hy).1, List.filter_cons,
      if_neg (by simpa using unwanted)]
    exact ih fun y hy => (hr.2 y hy).2
  | included unknown carries tells _ ih =>
    have hr := List.forall_mem_cons.1 fun x hx => (List.forall_mem_cons.1 (hroots x hx))
    rw [unseen_cons_of_unknown unknown fun y hy => (hr.2 y hy).1, List.filter_cons,
      if_pos (by simpa using carries)]
    exact .cons tells (ih fun y hy => (hr.2 y hy).2)

/-- Whatever is found has been judged. -/
theorem Scan.judges {seen after : Duplicates} {xs : List Sighting} {found : List Inclusion}
    (h : Scan node clock table wanted seen xs found after) :
    ∀ y ∈ found, ∃ x : Sighting, y.classification.Judges node clock x.attestation.data x.slot := by
  induction h with
  | nil => exact fun _ h => (nomatch h)
  | again _ _ ih => exact ih
  | idle _ _ _ ih => exact ih
  | included _ _ tells _ ih => exact List.forall_mem_cons.2 ⟨⟨_, tells.judges⟩, ih⟩

/-- **The search finds first sightings.** Of each attestation of the epoch that carries a wanted
    vote, the inclusion in the lowest slot of the window is found, in the order of the chain. -/
theorem tells_of_inclusions {window : SlotRange} {found : List Inclusion}
    (h : answer node (inclusions limits clock epoch table wanted window) = .ok found)
    (hroots : Set.InjOn Attestation.identityRoot
      {a | ∃ slot ∈ window.slots, a ∈ node.attestationsAt slot}) :
    List.Forall₂ (Inclusion.Tells node clock table wanted)
      ((Sighting.firsts (Sighting.list node clock epoch window.slots)).filter
        fun x => (table.voters x.attestation).filter wanted ≠ [])
      found := by
  obtain ⟨after, hs⟩ := scan_of_inclusions h
  rw [← unseen_empty]
  have hm : ∀ x ∈ Sighting.list node clock epoch window.slots,
      ∃ slot ∈ window.slots, x.attestation ∈ node.attestationsAt slot := by
    intro x hx
    obtain ⟨hs, ha, -⟩ := Sighting.mem_list.1 hx
    exact ⟨x.slot, hs, ha⟩
  exact hs.tells fun x hx y hy => hroots (hm x hx) (hm y hy)

end BeaconDuties.EpochSurvey
