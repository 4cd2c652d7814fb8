import BeaconDuties.Proofs.Block.Steps
import BeaconDuties.Proofs.Duty.Duplicates
import BeaconDuties.Proofs.Lists
import BeaconDuties.Proofs.Survey.Sightings
import Mathlib.Data.Finset.Union

/-!
Which votes of a block are new.

* `Answers.votesOf`: the votes that attestations carry, each by slot and validator.
* `BlockSurvey.Seen`: what a memory of duplicates knows after it has been told of some attestations.
* `BlockSurvey.newVotes`: the votes of each attestation that none before it carries.

The rows of a block's analysis count these votes, given the votes of all older blocks of its chain
(`BlockSurvey.newVotes_of_run`), although only some of these blocks are looked at.
-/

namespace BeaconDuties

open Survey

/-- The votes that attestations carry. -/
def Answers.votesOf (node : Answers) (clock : Clock) (attestations : List Attestation) :
    Finset Ballot :=
  (attestations.flatMap fun a =>
    match node (.committees (.slot (clock.firstSlot (clock.epochOf a.data.slot)))
      (some (clock.epochOf a.data.slot))) with
    | .ok committees => ((CommitteeTable.ofList committees).voters a).map (Ballot.mk a.data.slot)
    | .error _ => []).toFinset

/-- The votes that blocks include. -/
def Answers.votesOn (node : Answers) (clock : Clock) (blocks : List Block) : Finset Ballot :=
  node.votesOf clock (blocks.flatMap Block.attestations)

namespace Answers

variable {node : Answers} {clock : Clock} {a : Attestation} {as : List Attestation}
  {blocks : List Block} {ballot : Ballot}

@[simp] theorem votesOf_nil : node.votesOf clock [] = ∅ := rfl

theorem votesOf_append {bs : List Attestation} :
    node.votesOf clock (as ++ bs) = node.votesOf clock as ∪ node.votesOf clock bs := by
  rw [votesOf, List.flatMap_append, List.toFinset_append]
  rfl

theorem votesOf_cons :
    node.votesOf clock (a :: as) = node.votesOf clock [a] ∪ node.votesOf clock as := by
  rw [← votesOf_append, List.singleton_append]

theorem mem_votesOf :
    ballot ∈ node.votesOf clock as ↔ ∃ a ∈ as, ballot ∈ node.votesOf clock [a] := by
  simp [votesOf]

theorem mem_votesOn :
    ballot ∈ node.votesOn clock blocks ↔
      ∃ block ∈ blocks, ballot ∈ node.votesOf clock block.attestations := by
  simp only [votesOn, votesOf, List.mem_toFinset, List.mem_flatMap]
  tauto

theorem votesOn_cons {block : Block} :
    node.votesOn clock (block :: blocks) =
      node.votesOf clock block.attestations ∪ node.votesOn clock blocks := votesOf_append

@[simp] theorem votesOn_reverse :
    node.votesOn clock blocks.reverse = node.votesOn clock blocks := by
  ext ballot
  simp only [mem_votesOn, List.mem_reverse]

/-- The votes of an attestation are those of its voters, for its slot. -/
theorem votesOf_singleton {table : CommitteeTable}
    (h : node.HasCommittees clock (clock.epochOf a.data.slot) table) :
    node.votesOf clock [a] = ((table.voters a).map (Ballot.mk a.data.slot)).toFinset := by
  obtain ⟨list, hl, rfl⟩ := h
  simp [votesOf, hl]

theorem mem_votesOf_singleton :
    ballot ∈ node.votesOf clock [a] ↔
      ballot.slot = a.data.slot ∧ ballot.validator ∈ node.votersOf clock a := by
  rw [votesOf, votersOf, List.flatMap_singleton, List.mem_toFinset]
  cases node (.committees (.slot (clock.firstSlot (clock.epochOf a.data.slot)))
    (some (clock.epochOf a.data.slot))) with
  | error fault => simp
  | ok committees =>
    rw [List.mem_map]
    constructor
    · rintro ⟨v, hv, rfl⟩
      exact ⟨rfl, hv⟩
    · rintro ⟨hs, hv⟩
      exact ⟨_, hv, hs ▸ rfl⟩

theorem slot_of_mem_votesOf (h : ballot ∈ node.votesOf clock [a]) : ballot.slot = a.data.slot :=
  (mem_votesOf_singleton.1 h).1

end Answers

namespace BlockSurvey

variable {node : Answers} {limits : Limits} {chain : Chain} {all : Set Attestation}
  {oldest slot : Slot} {past : List Attestation} {seen : Duplicates} {a : Attestation}

/-! ## What has been seen -/

/-- Of the given attestations, a memory knows those that are past. It knows their votes as well, but
    for those older than is asked for. -/
structure Seen (node : Answers) (clock : Clock) (all : Set Attestation) (oldest : Slot)
    (past : List Attestation) (seen : Duplicates) : Prop where
  known : ∀ a ∈ all, (seen.origin? a.identityRoot).isSome ↔ a ∈ past
  credited : ∀ ballot, oldest ≤ ballot.slot →
    (seen.isCredited ballot ↔ ballot ∈ node.votesOf clock past)

namespace Seen

variable {clock : Clock} {origin : Origin}

theorem empty : Seen node clock all oldest [] .empty where
  known := by simp
  credited := by simp

theorem known_record (h : Seen node clock all oldest past seen) (ha : a ∈ all)
    (hroots : Set.InjOn Attestation.identityRoot all) :
    ∀ b ∈ all, ((seen.record a.identityRoot origin).origin? b.identityRoot).isSome ↔
      b ∈ past ++ [a] := by
  intro b hb
  rw [Duplicates.isSome_origin?_record, h.known b hb, hroots.eq_iff hb ha, List.mem_append,
    List.mem_singleton, or_comm]

/-- An attestation whose votes are older than is asked for is taken down without them. -/
theorem record (h : Seen node clock all oldest past seen) (ha : a ∈ all)
    (hroots : Set.InjOn Attestation.identityRoot all) (hold : a.data.slot < oldest) :
    Seen node clock all oldest (past ++ [a]) (seen.record a.identityRoot origin) where
  known := h.known_record ha hroots
  credited ballot hb := by
    have : ballot ∉ node.votesOf clock [a] := by
      intro hm
      rw [Answers.slot_of_mem_votesOf hm] at hb
      exact UInt64.not_lt.2 hb hold
    rw [Duplicates.isCredited_record, h.credited ballot hb, Answers.votesOf_append,
      Finset.mem_union, or_iff_left this]

theorem creditAll {table : CommitteeTable} {members : List Member}
    (h : Seen node clock all oldest past seen) (ha : a ∈ all)
    (hroots : Set.InjOn Attestation.identityRoot all)
    (ht : node.HasCommittees clock (clock.epochOf a.data.slot) table)
    (hm : table.attesting a = .ok members) :
    Seen node clock all oldest (past ++ [a])
      ((seen.record a.identityRoot origin).creditAll a.data.slot
        (members.map (·.validator))).2 where
  known b hb := by
    rw [Duplicates.origin?_creditAll]
    exact h.known_record ha hroots b hb
  credited ballot hb := by
    rw [Duplicates.isCredited_creditAll, Duplicates.isCredited_record, h.credited ballot hb,
      Answers.votesOf_append, Finset.mem_union, Answers.votesOf_singleton ht, table.voters_eq hm,
      List.mem_toFinset, or_comm]

/-- A memory knows the attestations that have been taken down. -/
theorem of_indexed {oldest : Slot} {seen after : Duplicates} {xs : List (Origin × Attestation)}
    (hi : Indexed node clock oldest seen xs after)
    (hroots : Set.InjOn Attestation.identityRoot all) :
    ∀ {past : List Attestation}, (∀ x ∈ xs, x.2 ∈ all) → Seen node clock all oldest past seen →
      Seen node clock all oldest (past ++ xs.map Prod.snd) after := by
  induction hi with
  | nil =>
    intro past _ hs
    simpa using hs
  | old older _ ih =>
    intro past hall hs
    rw [List.forall_mem_cons] at hall
    rw [List.map_cons, List.append_cons]
    exact ih hall.2 (hs.record hall.1 hroots older)
  | credited committees attesting _ ih =>
    intro past hall hs
    rw [List.forall_mem_cons] at hall
    rw [List.map_cons, List.append_cons]
    exact ih hall.2 (hs.creditAll hall.1 hroots committees attesting)

end Seen

/-! ## New votes -/

/-- The votes of each attestation that are neither among the given ones nor among those of an
    attestation before it. -/
def newVotes (node : Answers) (clock : Clock) :
    Finset Ballot → List Attestation → List (Finset Ballot)
  | _, [] => []
  | old, a :: rest =>
    (node.votesOf clock [a] \ old) :: newVotes node clock (old ∪ node.votesOf clock [a]) rest

theorem newVotes_congr {clock : Clock} : ∀ {as : List Attestation} {old old' : Finset Ballot},
    (∀ ballot ∈ node.votesOf clock as, ballot ∈ old ↔ ballot ∈ old') →
      newVotes node clock old as = newVotes node clock old' as
  | [], _, _, _ => rfl
  | a :: as, old, old', h => by
    rw [Answers.votesOf_cons] at h
    simp only [Finset.mem_union] at h
    rw [newVotes, newVotes]
    congr 1
    · ext ballot
      simp only [Finset.mem_sdiff]
      exact and_congr_right fun hb => not_congr (h ballot (.inl hb))
    · refine newVotes_congr fun ballot hb => ?_
      rw [Finset.mem_union, Finset.mem_union, h ballot (.inr hb)]

/-- The rows of attestations count the votes that have not been seen before. -/
theorem newVotes_of_rows {clock : Clock} {xs : List (Origin × Attestation)}
    {rows : List AttestationAnalysis} (hr : Rows node clock seen xs rows)
    (hroots : Set.InjOn Attestation.identityRoot all) :
    ∀ {past : List Attestation}, (∀ x ∈ xs, x.2 ∈ all ∧ oldest ≤ x.2.data.slot) →
      Seen node clock all oldest past seen →
        rows.map (·.newVotes) =
          (newVotes node clock (node.votesOf clock past) (xs.map Prod.snd)).map Finset.card := by
  induction hr with
  | nil => exact fun _ _ => rfl
  | @known seen _ origin a _ _ known _ ih =>
    intro past hall hs
    rw [List.forall_mem_cons] at hall
    -- What has been included before has no new votes.
    have hsub : node.votesOf clock [a] ⊆ node.votesOf clock past := fun ballot hb =>
      Answers.mem_votesOf.2 ⟨a, (hs.known a hall.1.1).1 (by rw [known]; rfl), hb⟩
    rw [List.map_cons, List.map_cons, newVotes, List.map_cons,
      Finset.sdiff_eq_empty_iff_subset.2 hsub, Finset.union_eq_left.2 hsub, ih hall.2 hs]
    rfl
  | @fresh seen _ a table members row _ _ _ told _ ih =>
    intro past hall hs
    rw [List.forall_mem_cons] at hall
    have hcard : row.newVotes = (node.votesOf clock [a] \ node.votesOf clock past).card := by
      rw [told.newVotes, Duplicates.fst_creditAll, Finset.sdiff_eq_filter,
        Answers.votesOf_singleton told.committees, table.voters_eq told.attesting]
      refine congrArg Finset.card (Finset.filter_congr fun ballot hb => not_congr ?_)
      obtain ⟨v, -, rfl⟩ := List.mem_map.1 (List.mem_toFinset.1 hb)
      exact hs.credited _ hall.1.2
    rw [List.map_cons, List.map_cons, newVotes, List.map_cons, hcard,
      ih hall.2 (hs.creditAll hall.1.1 hroots told.committees told.attesting),
      Answers.votesOf_append]

/-! ## The analysis of a block -/

theorem foldl_min_le : ∀ {slots : List Slot} {first : Slot},
    slots.foldl min first ≤ first ∧ ∀ slot ∈ slots, slots.foldl min first ≤ slot
  | [], first => ⟨UInt64.le_refl _, by simp⟩
  | slot :: slots, first => by
    obtain ⟨hf, hs⟩ : slots.foldl min (min first slot) ≤ _ ∧ _ := foldl_min_le
    have hl : min first slot ≤ first := Std.min_le_left
    have hr : min first slot ≤ slot := Std.min_le_right
    exact ⟨UInt64.le_trans hf hl, List.forall_mem_cons.2 ⟨UInt64.le_trans hf hr, hs⟩⟩

theorem oldest_le {block : Block} (h : a ∈ block.attestations) :
    BlockSurvey.oldest block ≤ a.data.slot :=
  foldl_min_le.2 _ (List.mem_map_of_mem h)

theorem oldest_eq_of_perm {block block' : Block} (hs : block.slot = block'.slot)
    (hp : block.attestations.Perm block'.attestations) :
    BlockSurvey.oldest block = BlockSurvey.oldest block' := by
  rw [BlockSurvey.oldest, BlockSurvey.oldest, hs]
  refine (hp.map _).foldl_eq' (fun x _ y _ z => ?_) _
  grind

theorem mem_takeWhile_of_le {block : Block} {blocks : List Block}
    (hl : blocks.Pairwise fun newer older => older.slot < newer.slot) (hm : block ∈ blocks)
    (hb : oldest ≤ block.slot) : block ∈ blocks.takeWhile (oldest ≤ ·.slot) := by
  have hdescending : blocks.Pairwise fun newer older => ¬ newer.slot ≤ older.slot :=
    hl.imp UInt64.not_le.2
  rw [Lists.mem_takeWhile_iff (fun x y => UInt64.le_total y.slot x.slot) hdescending]
  exact ⟨hm, fun newer _ hle => decide_eq_true (UInt64.le_trans hb hle)⟩

/-- The newest blocks of a chain, as far as they are not older than a slot, have all votes on the
    chain that are not older: a vote for a slot is included after it. -/
theorem mem_votesOn_takeWhile {clock : Clock} {blocks : List Block} {ballot : Ballot}
    (hl : blocks.Pairwise fun newer older => older.slot < newer.slot)
    (he : ∀ block ∈ blocks, ∀ a ∈ block.attestations, a.data.slot < block.slot)
    (hb : oldest ≤ ballot.slot) :
    ballot ∈ node.votesOn clock (blocks.takeWhile (oldest ≤ ·.slot)) ↔
      ballot ∈ node.votesOn clock blocks := by
  rw [Answers.mem_votesOn, Answers.mem_votesOn]
  constructor
  · rintro ⟨block, hm, hv⟩
    exact ⟨block, (List.takeWhile_prefix _).subset hm, hv⟩
  · rintro ⟨block, hm, hv⟩
    obtain ⟨a, ha, hva⟩ := Answers.mem_votesOf.1 hv
    have hlt := he block hm a ha
    rw [← Answers.slot_of_mem_votesOf hva] at hlt
    exact ⟨block, mem_takeWhile_of_le hl hm (UInt64.le_trans hb (UInt64.le_of_lt hlt)), hv⟩

/-- The rows of an analysis count the votes that no ancestor has, each for the first attestation in
    the block that carries it. -/
theorem Makes.newVotes_eq {clock : Clock} {block : Block} {ancestors : List Block}
    {analysis : BlockAnalysis} (m : Makes node clock block ancestors seen analysis)
    (hroots : Set.InjOn Attestation.identityRoot (Block.included (block :: ancestors))) :
    analysis.attestations.map (·.newVotes) =
      (newVotes node clock (node.votesOn clock ancestors) block.attestations).map Finset.card := by
  have hs := Seen.of_indexed m.indexed hroots (fun x hx => by
    obtain ⟨b, hb, hx⟩ := List.mem_flatMap.1 hx
    exact ⟨b, List.mem_cons_of_mem _ (List.mem_reverse.1 hb), Block.mem_of_mem_placed hx⟩) .empty
  have hn := newVotes_of_rows m.rows hroots (fun x hx =>
    have hx := Block.mem_of_mem_placed hx
    ⟨⟨block, List.mem_cons_self, hx⟩, oldest_le hx⟩) hs
  rw [hn, Block.map_snd_placed, ← Answers.votesOn_reverse, Answers.votesOn, List.nil_append,
    List.map_flatMap]
  simp only [Block.map_snd_placed]

/-- **A block's new votes are those that no older block has.** The rows of its analysis count them,
    each for the first attestation in the block that carries it. -/
theorem newVotes_of_run {available : List Capability} {id : BlockId} {block : Block}
    {older : List Block} {analysis : BlockAnalysis} (hw : WellFormed node (block :: older))
    (hid : node (.block id) = .ok (some block))
    (h : answer node (run limits chain available id) = .ok analysis) :
    analysis.attestations.map (·.newVotes) =
      (newVotes node chain.clock (node.votesOn chain.clock older) block.attestations).map
        Finset.card := by
  obtain ⟨block', ancestors, seen, hb, m⟩ := exists_makes h
  cases hid.symm.trans hb
  refine (m.newVotes_eq (hw.injOn_included m.lineage)).trans
    (congrArg _ (newVotes_congr fun ballot hb => ?_))
  obtain ⟨a, ha, hb⟩ := Answers.mem_votesOf.1 hb
  rw [m.lineage.eq_takeWhile hw.lineage,
    mem_votesOn_takeWhile (List.pairwise_cons.1 hw.lineage.pairwise).2
      (fun b hb => hw.earlier b (List.mem_cons_of_mem _ hb))
      (Answers.slot_of_mem_votesOf hb ▸ oldest_le ha)]

end BlockSurvey

end BeaconDuties
