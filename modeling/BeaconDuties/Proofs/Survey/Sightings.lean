import BeaconDuties.Proofs.Chain.Clock
import BeaconDuties.Proofs.Duty.Committee
import BeaconDuties.Proofs.Survey.Walk

/-!
What the blocks of a range of slots include.

* `Answers.attestationsAt` lists the attestations in the block of a slot, and `Answers.votersOf` the
  validators that an attestation speaks for.
* `Sighting.list` lists the attestations of an epoch that the blocks of some slots include, in the
  order of the chain; `Sighting.firsts` leaves the first sighting of each of them
  (`Sighting.mem_firsts`).
* What a survey gathers from slot to slot (`Survey.gatherSlots`) is what it finds in each of them,
  one after another (`Survey.Finds.gatherSlots`). What is gathered from fewer slots comes first in
  what is gathered from more (`Survey.exists_gatherSlots_prefix`).
-/

namespace BeaconDuties

open Survey

variable {α σ : Type} {node : Answers} {clock : Clock} {epoch : Epoch}

/-! ## Attestations in blocks -/

namespace Answers

/-- The block of a slot, if the node has one. -/
def blockAt? (node : Answers) (slot : Slot) : Option Block :=
  match node (.block (.slot slot)) with
  | .ok block? => block?
  | .error _ => none

/-- The attestations in the block of a slot. -/
def attestationsAt (node : Answers) (slot : Slot) : List Attestation :=
  match node.blockAt? slot with
  | some block => block.attestations
  | none => []

theorem blockAt?_eq {slot : Slot} {block? : Option Block}
    (h : node (.block (.slot slot)) = .ok block?) : node.blockAt? slot = block? := by
  simp only [blockAt?, h]

theorem blockAt?_eq_some {slot : Slot} {block : Block} :
    node.blockAt? slot = some block ↔ node (.block (.slot slot)) = .ok (some block) := by
  unfold blockAt?
  split <;> simp_all

theorem mem_attestationsAt {slot : Slot} {a : Attestation} :
    a ∈ node.attestationsAt slot ↔
      ∃ block, node (.block (.slot slot)) = .ok (some block) ∧ a ∈ block.attestations := by
  have hb : (∃ block, node (.block (.slot slot)) = .ok (some block) ∧ a ∈ block.attestations) ↔
      ∃ block, node.blockAt? slot = some block ∧ a ∈ block.attestations :=
    exists_congr fun _ => and_congr_left' blockAt?_eq_some.symm
  rw [hb, attestationsAt]
  cases node.blockAt? slot <;> simp

/-- The validators whose bits are set in an attestation, given the committees of its epoch. -/
def votersOf (node : Answers) (clock : Clock) (a : Attestation) : List ValidatorIndex :=
  match node (.committees (.slot (clock.firstSlot (clock.epochOf a.data.slot)))
    (some (clock.epochOf a.data.slot))) with
  | .ok committees => (CommitteeTable.ofList committees).voters a
  | .error _ => []

theorem votersOf_eq {a : Attestation} {table : CommitteeTable}
    (h : node.HasCommittees clock (clock.epochOf a.data.slot) table) :
    node.votersOf clock a = table.voters a := by
  obtain ⟨list, hl, rfl⟩ := h
  simp only [votersOf, hl]

/-- Whether there is a block for a proposer's duty. -/
def proposal (node : Answers) (duty : ProposerDuty) : Proposal :=
  ⟨duty.slot, duty.validator, (node.blockAt? duty.slot).isSome⟩

theorem proposals_eq_map (clock : Clock) : ∀ {duties : List ProposerDuty} {due : List Proposal},
    answer node (proposals duties) = .ok due → due = duties.map node.proposal
  | [], due, h => (Except.ok.inj h).symm
  | duty :: rest, due, h => by
    obtain ⟨block?, hb, h⟩ := Finds.bind (finds_of_answer h : Finds node clock _ _) .blockIn
    obtain ⟨further, hf, h⟩ := Finds.bind h .proposals
    obtain rfl := finds_pure.1 h
    rw [answer_blockIn_eq_ok] at hb
    rw [List.map_cons, ← proposals_eq_map clock hf, proposal, node.blockAt?_eq hb]

/-- If a node answers for all slots, proposals are told. -/
theorem answer_proposals (clock : Clock) : ∀ {duties : List ProposerDuty},
    (∀ duty ∈ duties, ∃ block?, node (.block (.slot duty.slot)) = .ok block?) →
      answer node (proposals duties) = .ok (duties.map node.proposal)
  | [], _ => rfl
  | duty :: rest, h => by
    obtain ⟨⟨block?, hb⟩, hrest⟩ := List.forall_mem_cons.1 h
    have hyields : Yields node clock (proposals (duty :: rest)) _ :=
      .bind (answer_blockIn_eq_ok.2 hb) .blockIn
        (.bind (answer_proposals clock hrest) .proposals (.pure _))
    rw [hyields.answer, List.map_cons, proposal, node.blockAt?_eq hb]

end Answers

/-- An attestation in the block of a slot. -/
structure Sighting where
  /-- The slot of the block. -/
  slot : Slot
  attestation : Attestation
deriving DecidableEq

namespace Sighting

/-- The attestations of an epoch in the block of a slot. -/
def listAt (node : Answers) (clock : Clock) (epoch : Epoch) (slot : Slot) : List Sighting :=
  ((node.attestationsAt slot).filter fun x => clock.epochOf x.data.slot = epoch).map (mk slot)

/-- The attestations of an epoch in the blocks of some slots, in the order of the slots. -/
def list (node : Answers) (clock : Clock) (epoch : Epoch) (slots : List Slot) : List Sighting :=
  slots.flatMap (listAt node clock epoch)

theorem mem_listAt {x : Sighting} {slot : Slot} :
    x ∈ listAt node clock epoch slot ↔ x.slot = slot ∧ x.attestation ∈ node.attestationsAt slot ∧
      clock.epochOf x.attestation.data.slot = epoch := by
  simp only [listAt, List.mem_map, List.mem_filter, decide_eq_true_eq]
  constructor
  · rintro ⟨a, ha, rfl⟩
    exact ⟨rfl, ha⟩
  · rintro ⟨rfl, h⟩
    exact ⟨_, h, rfl⟩

theorem mem_list {x : Sighting} {slots : List Slot} :
    x ∈ list node clock epoch slots ↔
      x.slot ∈ slots ∧ x.attestation ∈ node.attestationsAt x.slot ∧
        clock.epochOf x.attestation.data.slot = epoch := by
  simp only [list, List.mem_flatMap, mem_listAt]
  constructor
  · rintro ⟨_, hs, rfl, h⟩
    exact ⟨hs, h⟩
  · rintro ⟨hs, h⟩
    exact ⟨_, hs, rfl, h⟩

/-- Sightings come in the order of their slots. -/
theorem pairwise_list {slots : List Slot} (h : slots.Pairwise (· < ·)) :
    (list node clock epoch slots).Pairwise (·.slot ≤ ·.slot) := by
  refine List.pairwise_flatMap.2 ⟨fun slot _ => ?_, h.imp fun hlt x hx y hy => ?_⟩
  · refine List.pairwise_of_forall_mem_list fun x hx y hy => ?_
    rw [(mem_listAt.1 hx).1, (mem_listAt.1 hy).1]
    exact UInt64.le_refl _
  · rw [(mem_listAt.1 hx).1, (mem_listAt.1 hy).1]
    exact UInt64.le_of_lt hlt

/-- The first sighting of a kind among the attestations of some slots is in the first block that
    has one, and is the first one there. -/
theorem find?_list {p : Attestation → Bool} : ∀ {slots : List Slot} {x : Sighting},
    (list node clock epoch slots).find? (fun x => p x.attestation) = some x →
      (node.attestationsAt x.slot).find? (fun a => clock.epochOf a.data.slot = epoch && p a) =
        some x.attestation
  | [], x, h => by simp [list] at h
  | slot :: slots, x, h => by
    rw [list, List.flatMap_cons, List.find?_append, Option.or_eq_some_iff] at h
    rcases h with h | ⟨-, h⟩
    · simp only [listAt, List.find?_map, List.find?_filter, Option.map_eq_some_iff] at h
      obtain ⟨a, ha, rfl⟩ := h
      simpa using ha
    · exact find?_list h

/-- The first sighting of each attestation. -/
def firsts : List Sighting → List Sighting
  | [] => []
  | x :: rest => x :: (firsts rest).filter (·.attestation ≠ x.attestation)

theorem firsts_subset : ∀ {xs : List Sighting}, firsts xs ⊆ xs
  | [] => List.nil_subset _
  | _ :: _ =>
    List.cons_subset_cons _ (List.Subset.trans List.filter_sublist.subset firsts_subset)

/-- The first sighting of each attestation is the one in the lowest slot. -/
theorem mem_firsts : ∀ {xs : List Sighting}, xs.Pairwise (·.slot ≤ ·.slot) → ∀ {x : Sighting},
    (x ∈ firsts xs ↔ x ∈ xs ∧ ∀ y ∈ xs, y.attestation = x.attestation → x.slot ≤ y.slot)
  | [], _, x => by simp [firsts]
  | first :: rest, h, x => by
    obtain ⟨hf, hr⟩ := List.pairwise_cons.1 h
    rw [firsts, List.mem_cons, List.mem_filter, mem_firsts hr]
    constructor
    · rintro (rfl | ⟨⟨hx, hl⟩, hne⟩)
      · refine ⟨List.mem_cons_self, fun y hy _ => ?_⟩
        rcases List.mem_cons.1 hy with rfl | hy
        · exact UInt64.le_refl _
        · exact hf y hy
      · refine ⟨List.mem_cons_of_mem _ hx, fun y hy he => ?_⟩
        rcases List.mem_cons.1 hy with rfl | hy
        · simp [he] at hne
        · exact hl y hy he
    · rintro ⟨hx, hl⟩
      by_cases he : x.attestation = first.attestation
      · left
        rcases List.mem_cons.1 hx with rfl | hx
        · rfl
        · have hs := UInt64.le_antisymm (hl first List.mem_cons_self he.symm) (hf x hx)
          cases x
          cases first
          simp_all
      · right
        rcases List.mem_cons.1 hx with rfl | hx
        · exact absurd rfl he
        · exact ⟨⟨hx, fun y hy => hl y (List.mem_cons_of_mem _ hy)⟩, by simpa using he⟩

theorem exists_mem_firsts : ∀ {xs : List Sighting} {x : Sighting}, x ∈ xs →
    ∃ first ∈ firsts xs, first.attestation = x.attestation
  | first :: rest, x, h => by
    by_cases he : first.attestation = x.attestation
    · exact ⟨first, List.mem_cons_self, he⟩
    · have hx : x ∈ rest := by
        rcases List.mem_cons.1 h with rfl | h
        · exact absurd rfl he
        · exact h
      obtain ⟨y, hy, hya⟩ := exists_mem_firsts hx
      have hne : y.attestation ≠ first.attestation := fun h => he (h.symm.trans hya)
      exact ⟨y, List.mem_cons_of_mem _ (List.mem_filter.2 ⟨hy, by simpa using hne⟩), hya⟩

/-- Among the first sightings, the first one of a kind is the first one of all. -/
theorem find?_firsts (p : Attestation → Bool) :
    ∀ {xs : List Sighting},
      (firsts xs).find? (fun x => p x.attestation) = xs.find? fun x => p x.attestation
  | [] => rfl
  | x :: rest => by
    have hr : (firsts rest).find? (fun x => p x.attestation) = _ := find?_firsts p
    rw [firsts, List.find?_cons, List.find?_cons, ← hr]
    cases hp : p x.attestation with
    | true => rfl
    | false =>
      rw [List.find?_filter]
      refine congrArg (List.find? · _) (funext fun y => ?_)
      by_cases he : y.attestation = x.attestation
      · simp [he, hp]
      · simp [he]

end Sighting

/-! ## Going through slots -/

namespace Survey

variable {find : σ → Slot → Survey (List α × σ)}

/-- What is gathered from slots is related to them if what is found in one slot and what is
    gathered from the slots after it are. -/
theorem Finds.gatherSlots {R : σ → List Slot → List α → σ → Prop}
    (hs : ∀ state slot, Steady node clock (find state slot))
    (nil : ∀ state, R state [] [] state)
    (cons : ∀ {state slot found state' slots further state''},
      Finds node clock (find state slot) (found, state') → R state' slots further state'' →
        R state (slot :: slots) (found ++ further) state'') :
    ∀ {count : Nat} {slot : Slot} {state : σ} {found : List α},
      Finds node clock (gatherSlots find count slot state) found →
        ∃ state', R state (slotsFrom count slot) found state'
  | 0, slot, state, found, h => by
    obtain rfl := finds_pure.1 h
    exact ⟨state, nil state⟩
  | count + 1, slot, state, found, h => by
    obtain ⟨⟨here, state'⟩, hf, h⟩ := Finds.bind h (hs state slot)
    obtain ⟨further, hg, h⟩ := Finds.bind h (.gatherSlots hs count _ _)
    obtain rfl := finds_pure.1 h
    obtain ⟨state'', hr⟩ := Finds.gatherSlots hs nil cons (finds_of_answer hg)
    exact ⟨state'', cons (finds_of_answer hf) hr⟩

/-- What is gathered from fewer slots is a first part of what is gathered from more. -/
theorem exists_gatherSlots_prefix (h : ∀ state slot, Steady node clock (find state slot)) :
    ∀ {count more : Nat} {slot : Slot} {state : σ} {found : List α},
      Finds node clock (gatherSlots find (count + more) slot state) found →
        ∃ first rest, answer node (gatherSlots find count slot state) = .ok first ∧
          found = first ++ rest
  | 0, more, slot, state, found, _ => ⟨[], found, rfl, rfl⟩
  | count + 1, more, slot, state, found, hf => by
    rw [Nat.add_right_comm] at hf
    obtain ⟨⟨here, after⟩, hh, hf⟩ := Finds.bind hf (h state slot)
    obtain ⟨further, hg, hf⟩ := Finds.bind hf (.gatherSlots h _ _ _)
    obtain rfl := finds_pure.1 hf
    obtain ⟨first, rest, hfirst, rfl⟩ := exists_gatherSlots_prefix h (finds_of_answer hg)
    refine ⟨here ++ first, rest, ?_, (List.append_assoc _ _ _).symm⟩
    have hy : Yields node clock (gatherSlots find (count + 1) slot state) (here ++ first) :=
      .bind hh (h state slot) (.bind hfirst (.gatherSlots h _ _ _) (.pure _))
    exact hy.answer

/-- What is gathered up to an earlier slot is a first part of what is gathered up to a later one. -/
theorem exists_gatherSlots_sooner (h : ∀ state slot, Steady node clock (find state slot))
    {sooner later : Slot} (hle : sooner ≤ later) {state : σ} {found : List α}
    (hf : Finds node clock (gatherSlots find (clock.inclusionWindow epoch later).count
      (clock.inclusionWindow epoch later).first state) found) :
    ∃ first rest, answer node (gatherSlots find (clock.inclusionWindow epoch sooner).count
        (clock.inclusionWindow epoch sooner).first state) = .ok first ∧
      found = first ++ rest := by
  obtain ⟨more, hmore⟩ :=
    Nat.exists_eq_add_of_le (clock.count_inclusionWindow_le epoch hle)
  rw [hmore] at hf
  exact exists_gatherSlots_prefix h hf

end Survey

end BeaconDuties
