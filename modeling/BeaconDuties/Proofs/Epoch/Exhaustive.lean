import BeaconDuties.Proofs.Epoch.Records

/-!
The search for inclusions that passes over nothing.

`EpochSurvey.allInclusions` lists every attestation of the epoch with a wanted vote, as often as the
blocks of the window include it (`EpochSurvey.tells_of_allInclusions`). It succeeds where
`EpochSurvey.inclusions` does, which passes over attestations that have been seen before
(`EpochSurvey.exists_allInclusions_iff`): what could be judged once can be judged again.
-/

namespace BeaconDuties

open Survey

variable {node : Answers} {clock : Clock} {limits : Limits}

/-! ## Judging a vote again -/

namespace Survey

variable {data : AttestationData} {inclusion inclusion' : Slot}

/-- A vote that can be judged where it is included can be judged wherever it is included again. -/
theorem exists_classify_of_le {x : Classification}
    (h : answer node (classify limits clock data inclusion) = .ok x)
    (hle : inclusion ≤ inclusion') :
    ∃ y, answer node (classify limits clock data inclusion') = .ok y := by
  obtain ⟨delay, hd, h⟩ := (finds_of_answer h : Finds node clock _ _).bind (.lift _ _)
  obtain ⟨head, hh, h⟩ := h.bind (.during _ .canonical)
  obtain ⟨target, ht, -⟩ := h.bind (.during _ .canonical)
  have hlt : data.slot < inclusion' := by
    rw [answer_lift_eq_ok, inclusionDelay] at hd
    split at hd
    · next hlt => exact UInt64.lt_of_lt_of_le hlt hle
    · cases hd
  have hok : answer node (lift .data (inclusionDelay data inclusion')) =
      .ok (inclusion' - data.slot) := by
    rw [answer_lift_eq_ok, inclusionDelay, if_pos hlt]
  exact (.lift _ _ : Steady node clock _).exists_ok_bind
    (fun _ => .bind (.during _ .canonical) fun _ => .bind (.during _ .canonical) fun _ => .pure _)
    hok <| (.during _ .canonical : Steady node clock _).exists_ok_bind
    (fun _ => .bind (.during _ .canonical) fun _ => .pure _)
    hh <| (.during _ .canonical : Steady node clock _).exists_ok_bind (fun _ => .pure _)
    ht ⟨_, rfl⟩

end Survey

namespace EpochSurvey

variable {epoch : Epoch} {table : CommitteeTable} {wanted : ValidatorIndex → Bool} {slot : Slot}

/-! ## The search that passes over nothing -/

section Search

variable (limits : Limits) (clock : Clock) (epoch : Epoch) (table : CommitteeTable)
  (wanted : ValidatorIndex → Bool)

/-- The inclusions in a block. -/
def allInBlock (slot : Slot) : List (Attestation × Nat) → Survey (List Inclusion)
  | [] => return []
  | (attestation, index) :: rest => do
    if clock.epochOf attestation.data.slot = epoch then
      let found ← judge limits clock table wanted slot index attestation
      return found ++ (← allInBlock slot rest)
    else allInBlock slot rest

/-- The inclusions in the block of a slot; there are none if there is no block. -/
def allInSlot (slot : Slot) : Survey (List Inclusion) := do
  checkTime limits
  let attestations := ((← blockIn slot).map (·.attestations)).getD []
  allInBlock limits clock epoch table wanted slot attestations.zipIdx

/-- All inclusions of wanted votes in some slots, however often. -/
def allInclusions : List Slot → Survey (List Inclusion)
  | [] => return []
  | slot :: rest => do
    let found ← allInSlot limits clock epoch table wanted slot
    return found ++ (← allInclusions rest)

end Search

/-- How the selected validators fulfilled their duties to attest, told from every attestation of the
    epoch in every block of the inclusion window. -/
def allParticipations (limits : Limits) (clock : Clock) (query : Query) (selection : Selection)
    (registry : Std.ExtTreeMap ValidatorIndex ValidatorInfo) :
    Survey (Std.ExtTreeMap ValidatorIndex Participation) := do
  let table ← committees clock query.epoch
  let awaiting := awaiting selection registry table
  let window := clock.inclusionWindow query.epoch query.current
  return records awaiting
    (← allInclusions limits clock query.epoch table (awaiting.contains ·) window.slots)

theorem steady_allInBlock : ∀ {list : List (Attestation × Nat)},
    Steady node clock (allInBlock limits clock epoch table wanted slot list)
  | [] => .pure _
  | _ :: _ => .ite (.bind steady_judge fun _ => .bind steady_allInBlock fun _ => .pure _)
      steady_allInBlock

theorem steady_allInSlot : Steady node clock (allInSlot limits clock epoch table wanted slot) :=
  .bind .checkTime fun _ => .bind .blockIn fun _ => steady_allInBlock

theorem steady_allInclusions : ∀ {slots : List Slot},
    Steady node clock (allInclusions limits clock epoch table wanted slots)
  | [] => .pure _
  | _ :: _ => .bind steady_allInSlot fun _ => .bind steady_allInclusions fun _ => .pure _

/-! ## What it finds -/

theorem tells_of_allInBlock : ∀ {list : List (Attestation × Nat)} {found : List Inclusion},
    Finds node clock (allInBlock limits clock epoch table wanted slot list) found →
      List.Forall₂ (Inclusion.Tells node clock table wanted)
        ((((list.map Prod.fst).filter fun x => clock.epochOf x.data.slot = epoch).map
          (Sighting.mk slot)).filter fun x => (table.voters x.attestation).filter wanted ≠ []) found
  | [], found, h => by
    obtain rfl := finds_pure.1 h
    exact .nil
  | (attestation, index) :: rest, found, h => by
    rw [allInBlock] at h
    rw [List.map_cons, List.filter_cons]
    split at h
    · next he =>
      obtain ⟨here, hj, h⟩ := Finds.bind h steady_judge
      obtain ⟨further, hf, h⟩ := Finds.bind h steady_allInBlock
      obtain rfl := finds_pure.1 h
      have hr := tells_of_allInBlock (finds_of_answer hf : Finds node clock _ _)
      rw [if_pos (by simpa using he), List.map_cons, List.filter_cons]
      rcases tells_of_judge hj with ⟨rfl, unwanted⟩ | ⟨inclusion, rfl, carries, tells⟩
      · rw [if_neg (by simpa using unwanted)]
        exact hr
      · rw [if_pos (by simpa using carries)]
        exact .cons tells hr
    · next he =>
      rw [if_neg (by simpa using he)]
      exact tells_of_allInBlock h

theorem tells_of_allInSlot {found : List Inclusion}
    (h : Finds node clock (allInSlot limits clock epoch table wanted slot) found) :
    List.Forall₂ (Inclusion.Tells node clock table wanted)
      ((Sighting.listAt node clock epoch slot).filter
        fun x => (table.voters x.attestation).filter wanted ≠ []) found := by
  obtain ⟨-, -, h⟩ := Finds.bind h .checkTime
  obtain ⟨block?, hb, h⟩ := Finds.bind h .blockIn
  rw [answer_blockIn_eq_ok] at hb
  have ha : (block?.map (·.attestations)).getD [] = node.attestationsAt slot := by
    rw [Answers.attestationsAt, node.blockAt?_eq hb]
    cases block? <;> rfl
  have hr := tells_of_allInBlock h
  rwa [List.zipIdx_map_fst, ha] at hr

/-- Every sighting with a wanted vote is told of. -/
theorem tells_of_allInclusions : ∀ {slots : List Slot} {found : List Inclusion},
    Finds node clock (allInclusions limits clock epoch table wanted slots) found →
      List.Forall₂ (Inclusion.Tells node clock table wanted)
        ((Sighting.list node clock epoch slots).filter
          fun x => (table.voters x.attestation).filter wanted ≠ []) found
  | [], found, h => by
    obtain rfl := finds_pure.1 h
    exact .nil
  | slot :: slots, found, h => by
    obtain ⟨here, hh, h⟩ := Finds.bind h steady_allInSlot
    obtain ⟨further, hf, h⟩ := Finds.bind h steady_allInclusions
    obtain rfl := finds_pure.1 h
    rw [Sighting.list, List.flatMap_cons, List.filter_append]
    exact List.rel_append (tells_of_allInSlot (finds_of_answer hh : Finds node clock _ _))
      (tells_of_allInclusions (finds_of_answer hf : Finds node clock _ _))

/-! ## When it succeeds -/

theorem exists_judge_of_le {slot' : Slot} {index index' : Nat} {a : Attestation}
    {found : List Inclusion}
    (h : answer node (judge limits clock table wanted slot index a) = .ok found)
    (hle : slot ≤ slot') :
    ∃ found', answer node (judge limits clock table wanted slot' index' a) = .ok found' := by
  obtain ⟨members, hm, h⟩ := Finds.bind (finds_of_answer h : Finds node clock _ _)
    (.during _ .attesting)
  rw [answer_during_eq_ok] at hm
  refine (.during _ .attesting : Steady node clock _).exists_ok_bind
    (fun _ => .ite (.pure _) (.bind .classify fun _ => .pure _)) (answer_during_eq_ok.2 hm) ?_
  dsimp only at h ⊢
  split at h
  · next he =>
    rw [if_pos he]
    exact ⟨_, rfl⟩
  · next he =>
    obtain ⟨c, hc, -⟩ := Finds.bind h .classify
    obtain ⟨c', hc'⟩ := exists_classify_of_le hc hle
    rw [if_neg he]
    exact (.classify : Steady node clock _).exists_ok_bind (fun _ => .pure _) hc' ⟨_, rfl⟩

/-- What has been seen has been judged, in a slot no later than the given ones. -/
def Judged (node : Answers) (limits : Limits) (clock : Clock) (table : CommitteeTable)
    (wanted : ValidatorIndex → Bool) (all : Set Attestation) (slots : List Slot)
    (seen : Duplicates) : Prop :=
  ∀ a ∈ all, (seen.origin? a.identityRoot).isSome → ∃ slot index found,
    answer node (judge limits clock table wanted slot index a) = .ok found ∧ ∀ s ∈ slots, slot ≤ s

section Judged

variable {all : Set Attestation} {slots : List Slot} {seen after : Duplicates}
  {found : List Inclusion}

theorem Judged.record {a : Attestation} {index : Nat} {origin : Origin}
    (h : Judged node limits clock table wanted all slots seen)
    (hroots : Set.InjOn Attestation.identityRoot all) (ha : a ∈ all)
    (hj : answer node (judge limits clock table wanted slot index a) = .ok found)
    (hle : ∀ s ∈ slots, slot ≤ s) :
    Judged node limits clock table wanted all slots (seen.record a.identityRoot origin) := by
  intro b hb hk
  rw [Duplicates.isSome_origin?_record] at hk
  rcases hk with he | hk
  · obtain rfl := hroots hb ha he
    exact ⟨slot, index, found, hj, hle⟩
  · exact h b hb hk

theorem succeeds_of_inBlock (hroots : Set.InjOn Attestation.identityRoot all)
    (hle : ∀ s ∈ slots, slot ≤ s) :
    ∀ {list : List (Attestation × Nat)} {seen after : Duplicates} {found : List Inclusion},
      Finds node clock (inBlock limits clock epoch table wanted slot seen list) (found, after) →
        (∀ x ∈ list, x.1 ∈ all) →
          Judged node limits clock table wanted all (slot :: slots) seen →
            (∃ found', answer node (allInBlock limits clock epoch table wanted slot list) =
              .ok found') ∧ Judged node limits clock table wanted all (slot :: slots) after
  | [], seen, after, found, h, _, hs => by
    cases finds_pure.1 h
    exact ⟨⟨_, rfl⟩, hs⟩
  | (a, index) :: rest, seen, after, found, h, hall, hs => by
    rw [List.forall_mem_cons] at hall
    rw [inBlock] at h
    rw [allInBlock]
    dsimp only at h
    split at h
    · next he =>
      rw [if_pos he]
      split at h
      · next known =>
        -- It has been judged before, and is judged again.
        obtain ⟨slot', index', found', hj, hle'⟩ := hs a hall.1 known
        obtain ⟨here, hj⟩ := exists_judge_of_le hj (hle' slot List.mem_cons_self)
        obtain ⟨⟨further, hf⟩, ha⟩ := succeeds_of_inBlock hroots hle h hall.2 hs
        refine ⟨steady_judge.exists_ok_bind (fun _ => .bind steady_allInBlock fun _ => .pure _) hj
          ?_, ha⟩
        exact steady_allInBlock.exists_ok_bind (fun _ => .pure _) hf ⟨_, rfl⟩
      · obtain ⟨here, hj, h⟩ := Finds.bind h steady_judge
        obtain ⟨⟨further, after'⟩, hb, h⟩ := Finds.bind h steady_inBlock
        cases finds_pure.1 h
        obtain ⟨⟨further', hf⟩, ha⟩ := succeeds_of_inBlock hroots hle (finds_of_answer hb) hall.2
          (hs.record hroots hall.1 hj (List.forall_mem_cons.2 ⟨UInt64.le_refl _, hle⟩))
        refine ⟨steady_judge.exists_ok_bind (fun _ => .bind steady_allInBlock fun _ => .pure _) hj
          ?_, ha⟩
        exact steady_allInBlock.exists_ok_bind (fun _ => .pure _) hf ⟨_, rfl⟩
    · next he =>
      rw [if_neg he]
      exact succeeds_of_inBlock hroots hle h hall.2 hs

theorem succeeds_of_inSlot (hroots : Set.InjOn Attestation.identityRoot all)
    (hle : ∀ s ∈ slots, slot ≤ s) (hall : ∀ a ∈ node.attestationsAt slot, a ∈ all)
    (h : Finds node clock (inSlot limits clock epoch table wanted seen slot) (found, after))
    (hs : Judged node limits clock table wanted all (slot :: slots) seen) :
    (∃ found', answer node (allInSlot limits clock epoch table wanted slot) = .ok found') ∧
      Judged node limits clock table wanted all (slot :: slots) after := by
  obtain ⟨u, ht, h⟩ := Finds.bind h .checkTime
  obtain ⟨block?, hb, h⟩ := Finds.bind h .blockIn
  have hrest : (∃ found', answer node (allInBlock limits clock epoch table wanted slot
        ((block?.map (·.attestations)).getD []).zipIdx) = .ok found') ∧
      Judged node limits clock table wanted all (slot :: slots) after := by
    cases block? with
    | none =>
      cases finds_pure.1 h
      exact ⟨⟨_, rfl⟩, hs⟩
    | some block =>
      refine succeeds_of_inBlock hroots hle h (fun x hx => hall _ ?_) hs
      exact Answers.mem_attestationsAt.2 ⟨block, answer_blockIn_eq_ok.1 hb,
        List.fst_mem_of_mem_zipIdx hx⟩
  refine ⟨?_, hrest.2⟩
  refine (.checkTime : Steady node clock _).exists_ok_bind
    (fun _ => .bind .blockIn fun _ => steady_allInBlock) ht ?_
  exact (.blockIn : Steady node clock _).exists_ok_bind (fun _ => steady_allInBlock) hb hrest.1

theorem succeeds_of_inclusions {window : SlotRange}
    (hroots : Set.InjOn Attestation.identityRoot
      {a | ∃ slot ∈ window.slots, a ∈ node.attestationsAt slot})
    (h : answer node (inclusions limits clock epoch table wanted window) = .ok found) :
    ∃ found', answer node (allInclusions limits clock epoch table wanted window.slots) =
      .ok found' := by
  have hg := Finds.gatherSlots
    (R := fun seen slots _ _ => slots ⊆ window.slots → slots.Pairwise (· < ·) →
      Judged node limits clock table wanted
        {a | ∃ slot ∈ window.slots, a ∈ node.attestationsAt slot} slots seen →
      ∃ found', answer node (allInclusions limits clock epoch table wanted slots) = .ok found')
    (fun _ _ => steady_inSlot)
    (fun _ _ _ _ => ⟨[], rfl⟩)
    (by
      intro seen slot found after slots further _ hf hrest hsub hp hs
      obtain ⟨hmem, hsub⟩ := List.cons_subset.1 hsub
      obtain ⟨hlt, hp⟩ := List.pairwise_cons.1 hp
      obtain ⟨⟨here, hh⟩, ha⟩ := succeeds_of_inSlot hroots
        (fun s hs => UInt64.le_of_lt (hlt s hs)) (fun a ha => ⟨slot, hmem, ha⟩) hf hs
      have ha : Judged node limits clock table wanted
          {a | ∃ slot ∈ window.slots, a ∈ node.attestationsAt slot} slots after := by
        intro a hm hk
        obtain ⟨slot', index, found, hj, hle⟩ := ha a hm hk
        exact ⟨slot', index, found, hj, (List.forall_mem_cons.1 hle).2⟩
      obtain ⟨rest, hr⟩ := hrest hsub hp ha
      refine steady_allInSlot.exists_ok_bind
        (fun _ => .bind steady_allInclusions fun _ => .pure _) hh ?_
      exact steady_allInclusions.exists_ok_bind (fun _ => .pure _) hr ⟨_, rfl⟩)
    (finds_of_answer h : Finds node clock _ _)
  obtain ⟨-, hg⟩ := hg
  refine hg (List.Subset.refl _) window.pairwise_slots ?_
  intro a _ hk
  simp at hk

/-! It succeeds only there. -/

theorem exists_inBlock : ∀ {list : List (Attestation × Nat)} {seen : Duplicates}
    {found : List Inclusion},
    Finds node clock (allInBlock limits clock epoch table wanted slot list) found →
      ∃ r, answer node (inBlock limits clock epoch table wanted slot seen list) = .ok r
  | [], seen, found, _ => ⟨_, rfl⟩
  | (a, index) :: rest, seen, found, h => by
    rw [allInBlock] at h
    rw [inBlock]
    dsimp only
    split at h
    · next he =>
      obtain ⟨here, hj, h⟩ := Finds.bind h steady_judge
      obtain ⟨further, hf, -⟩ := Finds.bind h steady_allInBlock
      have hf : Finds node clock _ _ := finds_of_answer hf
      rw [if_pos he]
      split
      · exact exists_inBlock hf
      · obtain ⟨r, hr⟩ := exists_inBlock hf
        refine steady_judge.exists_ok_bind (fun _ => .bind steady_inBlock fun _ => .pure _) hj ?_
        exact steady_inBlock.exists_ok_bind (fun _ => .pure _) hr ⟨_, rfl⟩
    · next he =>
      rw [if_neg he]
      exact exists_inBlock h

theorem exists_inSlot
    (h : Finds node clock (allInSlot limits clock epoch table wanted slot) found) :
    ∃ r, answer node (inSlot limits clock epoch table wanted seen slot) = .ok r := by
  obtain ⟨u, ht, h⟩ := Finds.bind h .checkTime
  obtain ⟨block?, hb, h⟩ := Finds.bind h .blockIn
  refine (.checkTime : Steady node clock _).exists_ok_bind (fun _ => .bind .blockIn ?steady) ht
    ((.blockIn : Steady node clock _).exists_ok_bind ?steady' hb ?found)
  case found =>
    cases block? with
    | none => exact ⟨_, rfl⟩
    | some block => exact exists_inBlock h
  all_goals
    rintro (_ | block)
    · exact .pure _
    · exact steady_inBlock

theorem exists_gatherSlots : ∀ {count : Nat} {slot : Slot} {seen : Duplicates}
    {found : List Inclusion},
    Finds node clock (allInclusions limits clock epoch table wanted (slotsFrom count slot)) found →
      ∃ found', answer node (gatherSlots (inSlot limits clock epoch table wanted) count slot seen) =
        .ok found'
  | 0, _, _, _, _ => ⟨_, rfl⟩
  | count + 1, slot, seen, found, h => by
    obtain ⟨here, hh, h⟩ := Finds.bind h steady_allInSlot
    obtain ⟨further, hf, -⟩ := Finds.bind h steady_allInclusions
    obtain ⟨⟨here', after⟩, hh'⟩ := exists_inSlot (finds_of_answer hh : Finds node clock _ _)
    obtain ⟨further', hf'⟩ := exists_gatherSlots (finds_of_answer hf : Finds node clock _ _)
    refine steady_inSlot.exists_ok_bind (fun _ =>
      .bind (.gatherSlots (fun _ _ => steady_inSlot) _ _ _) fun _ => .pure _) hh' ?_
    exact (Steady.gatherSlots (fun _ _ => steady_inSlot) _ _ _).exists_ok_bind (fun _ => .pure _)
      hf' ⟨_, rfl⟩

/-- If attestations are told apart by their roots, both searches succeed or none does. -/
theorem exists_allInclusions_iff {window : SlotRange}
    (hroots : Set.InjOn Attestation.identityRoot
      {a | ∃ slot ∈ window.slots, a ∈ node.attestationsAt slot}) :
    (∃ found,
        answer node (allInclusions limits clock epoch table wanted window.slots) = .ok found) ↔
      ∃ found, answer node (inclusions limits clock epoch table wanted window) = .ok found := by
  constructor
  · rintro ⟨found, h⟩
    exact exists_gatherSlots (finds_of_answer h : Finds node clock _ _)
  · rintro ⟨found, h⟩
    exact succeeds_of_inclusions hroots h

end Judged

end EpochSurvey

end BeaconDuties
