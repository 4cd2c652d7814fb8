import BeaconDuties.Proofs.Block.Chain
import BeaconDuties.Proofs.Chain.Clock
import BeaconDuties.Proofs.Epoch.Active

/-!
The analyses of blocks and the summary of an epoch agree on which votes are new.

Both pass over votes that have been included before. The analysis of a block looks for them among
the block's ancestors, vote by vote; the summary of an epoch keeps a record for each validator while
it goes through the inclusion window. On a chain that the node serves, a block's new votes for the
epoch are those of the validators whose records tell of that block
(`Agreement.exists_newVote_iff`).
-/

namespace BeaconDuties

open Survey

/-- A node serves a chain: it has the blocks of this chain in their slots, and no others. -/
structure Serves (node : Answers) (blocks : List Block) : Prop where
  wellFormed : WellFormed node blocks
  block_iff : ∀ {slot : Slot} {block : Block},
    node (.block (.slot slot)) = .ok (some block) ↔ block ∈ blocks ∧ block.slot = slot

namespace Serves

variable {node : Answers} {blocks : List Block} {clock : Clock} {block : Block}
  {query : EpochSurvey.Query}

theorem attestationsAt_eq (h : Serves node blocks) (hb : block ∈ blocks) :
    node.attestationsAt block.slot = block.attestations := by
  simp only [Answers.attestationsAt, Answers.blockAt?_eq_some.2 (h.block_iff.2 ⟨hb, rfl⟩)]

theorem exists_block (h : Serves node blocks) {slot : Slot} {a : Attestation}
    (ha : a ∈ node.attestationsAt slot) :
    ∃ block ∈ blocks, block.slot = slot ∧ a ∈ block.attestations := by
  unfold Answers.attestationsAt at ha
  split at ha
  · next block hb =>
    obtain ⟨hb, hs⟩ := h.block_iff.1 (Answers.blockAt?_eq_some.1 hb)
    exact ⟨block, hb, hs, ha⟩
  · simp at ha

/-- The sightings of an epoch are those of the attestations in the blocks of its window. -/
theorem mem_sightings (h : Serves node blocks) {x : Sighting} :
    x ∈ EpochSurvey.sightings node clock query ↔
      ∃ block ∈ blocks, block.slot = x.slot ∧
        block.slot ≤ (clock.inclusionWindow query.epoch query.current).last ∧
        x.attestation ∈ block.attestations ∧
        clock.epochOf x.attestation.data.slot = query.epoch := by
  rw [EpochSurvey.sightings, Sighting.mem_list, SlotRange.mem_slots]
  constructor
  · rintro ⟨⟨-, hl⟩, ha, he⟩
    obtain ⟨block, hb, hs, ha⟩ := h.exists_block ha
    exact ⟨block, hb, hs, hs ▸ hl, ha, he⟩
  · rintro ⟨block, hb, hs, hl, ha, he⟩
    have hlt := h.wellFormed.earlier block hb _ ha
    rw [← hs, h.attestationsAt_eq hb]
    exact ⟨⟨he ▸ Clock.inclusionWindow_first_le hlt, hl⟩, ha, he⟩

theorem roots (h : Serves node blocks) {slots : List Slot} : Set.InjOn Attestation.identityRoot
    {a | ∃ slot ∈ slots, a ∈ node.attestationsAt slot} := by
  refine h.wellFormed.roots.mono ?_
  rintro a ⟨slot, -, ha⟩
  obtain ⟨block, hb, -, ha⟩ := h.exists_block ha
  exact ⟨block, hb, ha⟩

end Serves

namespace Agreement

variable {node : Answers} {chain : Chain} {blocks newer older : List Block} {block : Block}
  {table : CommitteeTable}

/-- The new votes for an epoch that the rows of a block's analysis count. -/
def newVotesIn (clock : Clock) (epoch : Epoch) (block : Block) (analysis : BlockAnalysis) : Nat :=
  (((block.attestations.zip analysis.attestations).filter fun x =>
    clock.epochOf x.1.data.slot = epoch).map (·.2.newVotes)).sum

/-- How many validators' votes were included in a slot, by their records. -/
def includedIn (records : Std.ExtTreeMap ValidatorIndex Participation) (slot : Slot) : Nat :=
  records.values.countP fun x => x.inclusion.map (·.slot) = some slot

open BlockSurvey in
/-- The rows of a block count the votes for the epoch that no older block has. -/
theorem newVotesIn_eq_card {epoch : Epoch} {analysis : BlockAnalysis}
    (hw : WellFormed node (block :: older)) (h : Analyzed node chain block analysis) :
    newVotesIn chain.clock epoch block analysis =
      (node.votesOf chain.clock
        (block.attestations.filter fun a => chain.clock.epochOf a.data.slot = epoch) \
          node.votesOn chain.clock older).card := by
  obtain ⟨_, _, _, hid, hrun⟩ := h
  rw [← sum_card_newVotes (p := fun slot => chain.clock.epochOf slot = epoch), newVotesIn]
  have hn := newVotes_of_run hw hid hrun
  have hz : (block.attestations.zip analysis.attestations).map (Prod.map id (·.newVotes)) =
      (block.attestations.zip (newVotes node chain.clock (node.votesOn chain.clock older)
        block.attestations)).map (Prod.map id Finset.card) := by
    simpa only [List.zip_map_right] using congrArg (block.attestations.zip ·) hn
  have hf := congrArg (fun xs : List (Attestation × Nat) =>
    ((xs.filter fun x => chain.clock.epochOf x.1.data.slot = epoch).map Prod.snd).sum) hz
  simpa only [List.filter_map, List.map_map, Function.comp_def, Prod.map_fst, Prod.map_snd, id]
    using hf

theorem mem_older (hw : WellFormed node (newer ++ block :: older)) {other : Block} :
    other ∈ older ↔ other ∈ newer ++ block :: older ∧ other.slot < block.slot := by
  have hp := hw.lineage.pairwise
  obtain ⟨-, hb, hn⟩ := List.pairwise_append.1 hp
  have ho := (List.pairwise_cons.1 hb).1
  constructor
  · exact fun h => ⟨List.mem_append_right _ (List.mem_cons_of_mem _ h), ho other h⟩
  · rintro ⟨h, hlt⟩
    rcases List.mem_append.1 h with h | h
    · exact absurd hlt (UInt64.not_lt.2 (UInt64.le_of_lt (hn other h block List.mem_cons_self)))
    · rcases List.mem_cons.1 h with rfl | h
      · exact absurd hlt (UInt64.lt_irrefl _)
      · exact h

/-- The votes of an attestation of an epoch are those of its voters. -/
theorem mem_votesOf_iff {clock : Clock} {epoch : Epoch} {a : Attestation} {ballot : Ballot}
    (ht : node.HasCommittees clock epoch table) (he : clock.epochOf a.data.slot = epoch) :
    ballot ∈ node.votesOf clock [a] ↔
      ballot.slot = a.data.slot ∧ ballot.validator ∈ table.voters a := by
  rw [Answers.votesOf_singleton (he ▸ ht), List.mem_toFinset, List.mem_map]
  constructor
  · rintro ⟨v, hv, rfl⟩
    exact ⟨rfl, hv⟩
  · rintro ⟨hs, hv⟩
    exact ⟨_, hv, hs ▸ rfl⟩

section Records

variable {clock : Clock} {query : EpochSurvey.Query} {selection : Selection}
  {registry : Std.ExtTreeMap ValidatorIndex ValidatorInfo}
  {records : Std.ExtTreeMap ValidatorIndex Participation}

/-- The votes of a block for the epoch are those that are sighted in its slot. -/
theorem mem_votesOf_block_iff (hs : Serves node blocks)
    (ht : node.HasCommittees clock query.epoch table) (hb : block ∈ blocks)
    (hlast : block.slot ≤ (clock.inclusionWindow query.epoch query.current).last)
    {ballot : Ballot} :
    ballot ∈ node.votesOf clock
        (block.attestations.filter fun a => clock.epochOf a.data.slot = query.epoch) ↔
      ∃ y ∈ EpochSurvey.sightings node clock query, y.slot = block.slot ∧
        ballot.slot = y.attestation.data.slot ∧
          ballot.validator ∈ table.voters y.attestation := by
  rw [Answers.mem_votesOf]
  constructor
  · rintro ⟨a, ha, hv⟩
    obtain ⟨ha, he⟩ := List.mem_filter.1 ha
    have he := of_decide_eq_true he
    exact ⟨⟨block.slot, a⟩, hs.mem_sightings.2 ⟨block, hb, rfl, hlast, ha, he⟩, rfl,
      (mem_votesOf_iff ht he).1 hv⟩
  · rintro ⟨⟨slot, a⟩, hy, rfl, hv⟩
    obtain ⟨-, ha, he⟩ := Sighting.mem_list.1 hy
    rw [hs.attestationsAt_eq hb] at ha
    exact ⟨a, List.mem_filter.2 ⟨ha, decide_eq_true he⟩, (mem_votesOf_iff ht he).2 hv⟩

/-- The older votes for the epoch are those that are sighted before the slot of the block. -/
theorem mem_votesOn_older_iff (hs : Serves node (newer ++ block :: older))
    (ht : node.HasCommittees clock query.epoch table)
    (hlast : block.slot ≤ (clock.inclusionWindow query.epoch query.current).last)
    {ballot : Ballot} (he : clock.epochOf ballot.slot = query.epoch) :
    ballot ∈ node.votesOn clock older ↔
      ∃ y ∈ EpochSurvey.sightings node clock query, y.slot < block.slot ∧
        ballot.slot = y.attestation.data.slot ∧
          ballot.validator ∈ table.voters y.attestation := by
  rw [Answers.mem_votesOn]
  constructor
  · rintro ⟨other, ho, hv⟩
    obtain ⟨a, ha, hv⟩ := Answers.mem_votesOf.1 hv
    obtain ⟨ho, hlt⟩ := (mem_older hs.wellFormed).1 ho
    have he : clock.epochOf a.data.slot = query.epoch := Answers.slot_of_mem_votesOf hv ▸ he
    have hle := UInt64.le_trans (UInt64.le_of_lt hlt) hlast
    exact ⟨⟨other.slot, a⟩, hs.mem_sightings.2 ⟨other, ho, rfl, hle, ha, he⟩, hlt,
      (mem_votesOf_iff ht he).1 hv⟩
  · rintro ⟨y, hy, hlt, hv⟩
    obtain ⟨other, ho, hslot, -, ha, he⟩ := hs.mem_sightings.1 hy
    exact ⟨other, (mem_older hs.wellFormed).2 ⟨ho, hslot ▸ hlt⟩,
      Answers.mem_votesOf.2 ⟨_, ha, (mem_votesOf_iff ht he).2 hv⟩⟩

/-- A vote for the epoch is new in a block exactly if its validator's record tells of that block. -/
theorem exists_newVote_iff (hs : Serves node (newer ++ block :: older))
    (ht : node.HasCommittees clock query.epoch table) (hone : table.OneSeat)
    (hr : EpochSurvey.Recounted node clock query selection registry table records)
    (hall : ∀ v, selection.contains v)
    (hlast : block.slot ≤ (clock.inclusionWindow query.epoch query.current).last)
    {v : ValidatorIndex} :
    (∃ ballot ∈ node.votesOf clock
        (block.attestations.filter fun a => clock.epochOf a.data.slot = query.epoch) \
          node.votesOn clock older, ballot.validator = v) ↔
      ∃ x, records[v]? = some x ∧ x.inclusion.map (·.slot) = some block.slot := by
  have hblock : block ∈ newer ++ block :: older := List.mem_append_right _ List.mem_cons_self
  constructor
  · rintro ⟨ballot, hb, rfl⟩
    obtain ⟨hb, hnew⟩ := Finset.mem_sdiff.1 hb
    obtain ⟨y, hy, hys, hslot, hv⟩ := (mem_votesOf_block_iff hs ht hblock hlast).1 hb
    have he : clock.epochOf ballot.slot = query.epoch := hslot ▸ (Sighting.mem_list.1 hy).2.2
    obtain ⟨committee, hseat⟩ := CommitteeTable.exists_seat_of_mem_voters hv
    obtain ⟨x, hx⟩ := Option.isSome_iff_exists.1 ((hr.isSome _).2 ⟨hall _, _, hseat, rfl⟩)
    have hxv : x.validator = ballot.validator := hr.validator hx
    refine ⟨x, hx, (hr.recounts hx).inclusion_eq_iff.2 ⟨⟨y, hy, hys, hxv ▸ hv⟩, ?_⟩⟩
    intro z hz hzv
    -- An earlier vote of the validator would be the same one, as it has one seat only.
    by_contra hle
    refine hnew ((mem_votesOn_older_iff hs ht hlast he).2
      ⟨z, hz, UInt64.not_le.1 hle, hslot.trans ?_, hxv ▸ hzv⟩)
    exact (hone.slot_eq hseat (hxv ▸ hzv)).symm
  · rintro ⟨x, hx, hi⟩
    have hxv := hr.validator hx
    obtain ⟨⟨y, hy, hys, hv⟩, hleast⟩ := (hr.recounts hx).inclusion_eq_iff.1 hi
    have he := (Sighting.mem_list.1 hy).2.2
    refine ⟨⟨y.attestation.data.slot, v⟩, Finset.mem_sdiff.2 ⟨?_, ?_⟩, rfl⟩
    · exact (mem_votesOf_block_iff hs ht hblock hlast).2 ⟨y, hy, hys, rfl, hxv ▸ hv⟩
    · intro hold
      obtain ⟨z, hz, hlt, -, hzv⟩ := (mem_votesOn_older_iff hs ht hlast he).1 hold
      exact UInt64.not_lt.2 (hleast z hz (hxv ▸ hzv)) hlt

/-- The new votes of a block for the epoch are as many as the records that tell of the block. -/
theorem card_newVotes_eq_includedIn (hs : Serves node (newer ++ block :: older))
    (ht : node.HasCommittees clock query.epoch table) (hone : table.OneSeat)
    (hr : EpochSurvey.Recounted node clock query selection registry table records)
    (hall : ∀ v, selection.contains v)
    (hlast : block.slot ≤ (clock.inclusionWindow query.epoch query.current).last) :
    (node.votesOf clock
        (block.attestations.filter fun a => clock.epochOf a.data.slot = query.epoch) \
          node.votesOn clock older).card = includedIn records block.slot := by
  set new := node.votesOf clock
    (block.attestations.filter fun a => clock.epochOf a.data.slot = query.epoch) \
      node.votesOn clock older
  have hvote : ∀ ballot ∈ new, ∃ committee, ⟨ballot.slot, committee, ballot.validator⟩ ∈
      table.seats := by
    intro ballot hb
    obtain ⟨a, ha, hb⟩ := Answers.mem_votesOf.1 (Finset.mem_sdiff.1 hb).1
    have he := of_decide_eq_true (List.mem_filter.1 ha).2
    obtain ⟨hslot, hv⟩ := (mem_votesOf_iff ht he).1 hb
    rw [hslot]
    exact CommitteeTable.exists_seat_of_mem_voters hv
  -- A validator with one seat has one vote.
  have hinj : Set.InjOn Ballot.validator (new : Set Ballot) := by
    intro x hx y hy hv
    obtain ⟨_, hsx⟩ := hvote x hx
    obtain ⟨_, hsy⟩ := hvote y hy
    have hslot : x.slot = y.slot := congrArg Seat.slot (hone _ hsx _ hsy hv)
    cases x
    cases y
    simp_all
  rw [← Finset.card_image_of_injOn hinj, includedIn]
  refine (Maps.countP_values fun v => ?_).symm
  rw [Finset.mem_image, exists_newVote_iff hs ht hone hr hall hlast]
  simp only [decide_eq_true_eq]

end Records

/-- The blocks of a chain that may include votes of an epoch. -/
def inWindow (clock : Clock) (query : EpochSurvey.Query) (blocks : List Block) : List Block :=
  blocks.filter fun block => block.slot ∈ (clock.inclusionWindow query.epoch query.current).slots

/-- The blocks of the window tell of all records with a vote. -/
theorem sum_includedIn {clock : Clock} {query : EpochSurvey.Query} {selection : Selection}
    {registry : Std.ExtTreeMap ValidatorIndex ValidatorInfo}
    {records : Std.ExtTreeMap ValidatorIndex Participation} (hs : Serves node blocks)
    (hr : EpochSurvey.Recounted node clock query selection registry table records) :
    ((inWindow clock query blocks).map fun block => includedIn records block.slot).sum =
      records.values.countP Participation.participated := by
  have hn : ((inWindow clock query blocks).map Block.slot).Nodup :=
    List.pairwise_map.2 ((hs.wellFormed.lineage.pairwise.sublist List.filter_sublist).imp
      fun {a b} (hlt : b.slot < a.slot) (he : a.slot = b.slot) =>
        UInt64.lt_irrefl _ (he ▸ hlt))
  have hm : ∀ x ∈ records.values, ∀ slot, x.inclusion.map (·.slot) = some slot →
      slot ∈ (inWindow clock query blocks).map Block.slot := by
    intro x hx slot hslot
    obtain ⟨v, hx⟩ := Maps.mem_values.1 hx
    obtain ⟨inclusion, hi, rfl⟩ := Option.map_eq_some_iff.1 hslot
    obtain ⟨-, a, hsight, -⟩ := (hr.recounts hx).inclusion_some hi
    obtain ⟨hw, ha, -⟩ := Sighting.mem_list.1 hsight
    obtain ⟨block, hb, hslot, -⟩ := hs.exists_block ha
    exact List.mem_map.2 ⟨block,
      List.mem_filter.2 ⟨hb, decide_eq_true (hslot ▸ hw)⟩, hslot⟩
  refine Eq.trans ?_ ((Lists.sum_countP hn hm).trans ?_)
  · rw [List.map_map]
    rfl
  · refine List.countP_congr fun x _ => ?_
    rw [Option.isSome_map]
    rfl

/-- What the analyses of blocks count as new for an epoch, and what its records tell. -/
structure SameVotes (node : Answers) (chain : Chain) (query : EpochSurvey.Query)
    (blocks : List Block) (records : Std.ExtTreeMap ValidatorIndex Participation)
    (summary : EpochSummary) : Prop where
  block : ∀ block ∈ inWindow chain.clock query blocks, ∀ analysis,
    BlockSurvey.Analyzed node chain block analysis →
      newVotesIn chain.clock query.epoch block analysis = includedIn records block.slot
  total : ∀ analyses,
    List.Forall₂ (BlockSurvey.Analyzed node chain) (inWindow chain.clock query blocks) analyses →
      (List.zipWith (newVotesIn chain.clock query.epoch) (inWindow chain.clock query blocks)
        analyses).sum = summary.participating.met.validators

/-- **Blocks and epochs agree on new votes.** On a chain that the node serves, let every validator
    have at most one seat in an epoch, and every one with a seat be known and active. Then the new
    votes for the epoch in a block of its inclusion window are those of the validators whose records
    tell of this block, and together they are those of all participants. -/
theorem sameVotes_of_run {available : List Capability} {limits : Limits}
    {query : EpochSurvey.Query} {summary : EpochSummary} (hs : Serves node blocks)
    (ht : node.HasCommittees chain.clock query.epoch table) (hone : table.OneSeat)
    (hactive : ∀ infos,
      node (.validators (.slot (chain.clock.firstSlot query.epoch)) []) = .ok infos →
        ∀ seat ∈ table.seats, ∃ x,
          (EpochSurvey.registry .everyone infos)[seat.validator]? = some x ∧
            x.isActiveIn query.epoch)
    (hids : query.ids = [])
    (hrun : answer node (EpochSurvey.run available limits chain query) = .ok summary) :
    ∃ infos records,
      node (.validators (.slot (chain.clock.firstSlot query.epoch)) []) = .ok infos ∧
      answer node (EpochSurvey.participations limits chain.clock query .everyone
        (EpochSurvey.registry .everyone infos)) = .ok records ∧
      SameVotes node chain query blocks records summary := by
  obtain ⟨selection, due, infos, records, hm⟩ := EpochSurvey.makes_of_run hrun
  obtain rfl : selection = .everyone := by
    have := hm.selects
    rw [hids] at this
    exact (Except.ok.inj this).symm
  have hr := EpochSurvey.recounted_of_participations hm.participations ht hs.roots
  have hblock : ∀ block ∈ inWindow chain.clock query blocks, ∀ analysis,
      BlockSurvey.Analyzed node chain block analysis →
        newVotesIn chain.clock query.epoch block analysis = includedIn records block.slot := by
    intro block hb analysis ha
    obtain ⟨hb, hw⟩ := List.mem_filter.1 hb
    obtain ⟨newer, older, rfl⟩ := List.append_of_mem hb
    rw [newVotesIn_eq_card (hs.wellFormed.of_append newer) ha]
    exact card_newVotes_eq_includedIn hs ht hone hr (fun _ => rfl)
      (SlotRange.mem_slots.1 (of_decide_eq_true hw)).2
  have hp : (EpochSurvey.activeRecords (EpochSurvey.active query .everyone infos) records).Perm
      records.values := by
    refine EpochSurvey.activeRecords_perm_values fun v hv => ?_
    obtain ⟨-, seat, hseat, rfl⟩ := (hr.isSome v).1 hv
    obtain ⟨x, hx, hx'⟩ := hactive infos hm.known seat hseat
    obtain ⟨hi, -⟩ := EpochSurvey.of_getElem?_registry hx
    exact hi ▸ List.mem_map_of_mem (EpochSurvey.mem_active.2 ⟨hi ▸ hx, hx'⟩)
  refine ⟨infos, records, hm.known, hm.participations, hblock, fun analyses ha => ?_⟩
  rw [Lists.zipWith_of_forall₂ ha hblock, sum_includedIn hs hr, ← hp.countP_eq]
  exact (EpochSurvey.of_outcome? (hm.outcome .participating)).1.symm

theorem serves_devnet : Serves Ledger.devnet.answers Ledger.devnet.chain where
  wellFormed := wellFormed_devnet
  block_iff := Ledger.answers_block_slot (by decide)

theorem sameVotes_of_run_devnet :
    ∃ records summary, SameVotes Ledger.devnet.answers Ledger.devnetChain ⟨0, [], 3⟩
        Ledger.devnet.chain records summary ∧
      (inWindow Ledger.devnetChain.clock ⟨0, [], 3⟩ Ledger.devnet.chain).length = 3 ∧
      summary.participating.met.validators = 3 := by
  obtain ⟨summary, hrun, hcount⟩ := EpochSurvey.exists_summary_devnet
  have ht : Ledger.devnet.answers.HasCommittees Ledger.devnetChain.clock 0
    (.ofList Ledger.devnet.committees) := ⟨_, rfl, rfl⟩
  have hactive : ∀ seat ∈ (CommitteeTable.ofList Ledger.devnet.committees).seats,
      ∃ x ∈ Ledger.devnet.validators, (EpochSurvey.registry .everyone
        Ledger.devnet.validators)[seat.validator]? = some x ∧ x.isActiveIn 0 := by decide +kernel
  obtain ⟨infos, records, -, -, hs⟩ := sameVotes_of_run serves_devnet ht
    (by unfold CommitteeTable.OneSeat; decide +kernel)
    (fun infos h seat hseat => by
      obtain rfl : Ledger.devnet.validators = infos := Except.ok.inj h
      obtain ⟨x, -, hx⟩ := hactive seat hseat
      exact ⟨x, hx⟩)
    rfl hrun
  exact ⟨records, summary, hs, by decide +kernel, hcount⟩

end Agreement

end BeaconDuties
