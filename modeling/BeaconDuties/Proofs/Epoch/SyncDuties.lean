import BeaconDuties.Proofs.Duty.SyncMisses
import BeaconDuties.Proofs.Epoch.Summary

/-!
What the summary of an epoch tells of its sync committee.

If all blocks of an epoch have a sync aggregate, a summary that succeeds has offered all of them to
a tally, in the order of their slots, and the tally has taken them (`EpochSurvey.SyncTallied`). So
the misses of the summary account for these blocks.
-/

namespace BeaconDuties

open Survey

namespace Answers

/-- All blocks of some slots have a sync aggregate. -/
def AllSigned (node : Answers) (slots : List Slot) : Prop :=
  ∀ slot ∈ slots, ∀ block, node (.block (.slot slot)) = .ok (some block) → block.sync?.isSome

/-- The record of the block of a slot, if there is one with a sync aggregate. -/
def syncRecord? (node : Answers) (slot : Slot) : Option SyncRecord := do
  let aggregate ← (← node.blockAt? slot).sync?
  return ⟨slot, aggregate.bits⟩

/-- The records of the blocks of some slots, in their order. -/
def syncRecords (node : Answers) (slots : List Slot) : List SyncRecord :=
  slots.filterMap node.syncRecord?

variable {node : Answers} {slot : Slot}

theorem syncRecord?_of_none (h : node.blockAt? slot = none) : node.syncRecord? slot = none := by
  rw [syncRecord?, h]
  rfl

theorem syncRecord?_of_some {block : Block} {aggregate : SyncAggregate}
    (h : node.blockAt? slot = some block) (hs : block.sync? = some aggregate) :
    node.syncRecord? slot = some ⟨slot, aggregate.bits⟩ := by
  rw [syncRecord?, h, Option.bind_eq_bind, Option.bind_some, hs]
  rfl

theorem allSigned_iff {slots : List Slot} :
    node.AllSigned slots ↔ slots.all fun slot => (node.blockAt? slot).all (·.sync?.isSome) := by
  rw [List.all_eq_true]
  refine forall₂_congr fun slot _ => ?_
  rw [Option.all_eq_true]
  exact forall_congr' fun block => imp_congr_left blockAt?_eq_some.symm

/-- The slots among some slots in which there is a block. -/
def filled (node : Answers) (slots : List Slot) : List Slot :=
  slots.filter fun slot => (node.blockAt? slot).isSome

/-- There is a record of each block, and empty slots have none. -/
theorem map_slot_syncRecords : ∀ {slots : List Slot}, node.AllSigned slots →
    (node.syncRecords slots).map (·.slot) = node.filled slots
  | [], _ => rfl
  | slot :: slots, h => by
    obtain ⟨hfirst, hrest⟩ := List.forall_mem_cons.1 h
    rw [syncRecords, filled, List.filterMap_cons, List.filter_cons]
    have ih : (slots.filterMap node.syncRecord?).map (·.slot) = _ := map_slot_syncRecords hrest
    cases hblock : node.blockAt? slot with
    | none =>
      rw [syncRecord?_of_none hblock]
      exact ih
    | some block =>
      obtain ⟨aggregate, hs⟩ :=
        Option.isSome_iff_exists.1 (hfirst block (blockAt?_eq_some.1 hblock))
      rw [syncRecord?_of_some hblock hs]
      exact congrArg (slot :: ·) ih

end Answers

namespace EpochSurvey

variable {node : Answers} {clock : Clock} {limits : Limits} {query : Query}
  {selection : Selection} {summary : EpochSummary}

/-- All blocks of the slots that a tally goes through are offered to it, and it takes them. -/
theorem tallied_of_tallySlots : ∀ {count : Nat} {slot : Slot} {tally after : SyncTally},
    Finds node clock (tallySlots selection count slot tally) after →
      node.AllSigned (slotsFrom count slot) →
        (∀ record ∈ node.syncRecords (slotsFrom count slot), record.fits tally.members) ∧
          after = tally.offerAll selection.contains (node.syncRecords (slotsFrom count slot))
  | 0, _, _, _, h, _ => ⟨List.forall_mem_nil _, (finds_pure.1 h).symm⟩
  | count + 1, slot, tally, after, h, hsigned => by
    obtain ⟨hfirst, hrest⟩ := List.forall_mem_cons.1 hsigned
    obtain ⟨block?, hb, h⟩ := Finds.bind h .blockIn
    rw [answer_blockIn_eq_ok] at hb
    have hblock := node.blockAt?_eq hb
    rw [slotsFrom, Answers.syncRecords, List.filterMap_cons]
    cases block? with
    | none =>
      rw [Answers.syncRecord?_of_none hblock]
      exact tallied_of_tallySlots h hrest
    | some block =>
      obtain ⟨aggregate, hs⟩ := Option.isSome_iff_exists.1 (hfirst block hb)
      rw [Answers.syncRecord?_of_some hblock hs]
      dsimp only at h
      rw [hs] at h
      obtain ⟨next, hn, h⟩ := Finds.bind h (.during _ (.lift _ _))
      rw [answer_during_eq_ok, answer_lift_eq_ok] at hn
      obtain ⟨hfits, rfl⟩ := @SyncTally.record_eq_ok _ _ ⟨slot, aggregate.bits⟩ _ hn
      obtain ⟨hall, rfl⟩ := tallied_of_tallySlots h hrest
      rw [SyncTally.members_offer] at hall
      exact ⟨List.forall_mem_cons.2 ⟨hfits, hall⟩, rfl⟩

/-- The part of a summary that is about the sync committee. -/
structure SyncTallied (node : Answers) (clock : Clock) (query : Query) (selection : Selection)
    (summary : EpochSummary) : Prop where
  /-- There is no committee before Altair. -/
  without : query.epoch < clock.forks.altair → summary.syncSeats = 0 ∧ summary.syncMisses = []
  /-- The committee tallies the blocks of the epoch in the order of their slots. -/
  tallied : clock.forks.altair ≤ query.epoch →
    let slots := (clock.epochSlots query.epoch).slots
    ∃ committee, node (.syncCommittee (.slot (clock.firstSlot query.epoch)) (some query.epoch)) =
        .ok committee ∧ committee.validators ≠ [] ∧
      summary.syncSeats = committee.validators.countP selection.contains ∧
      (node.syncRecords slots).map (·.slot) = node.filled slots ∧
      (∀ record ∈ node.syncRecords slots, record.fits committee.validators) ∧
      summary.syncMisses = ((SyncTally.start committee.validators).offerAll selection.contains
        (node.syncRecords slots)).finish ∧
      SyncTally.Accounts committee.validators selection.contains (node.syncRecords slots)
        summary.syncMisses

theorem syncTallied_of_syncDuties
    (h : answer node (syncDuties clock query.epoch selection) =
      .ok (summary.syncSeats, summary.syncMisses))
    (hsigned : node.AllSigned (clock.epochSlots query.epoch).slots) :
    SyncTallied node clock query selection summary := by
  rw [syncDuties] at h
  split at h
  · next hlt =>
    obtain ⟨hseats, hmisses⟩ := Prod.mk.inj (Except.ok.inj h)
    exact ⟨fun _ => ⟨hseats.symm, hmisses.symm⟩, fun hle => absurd hlt (UInt64.not_lt.2 hle)⟩
  · next hlt =>
    refine ⟨fun h => absurd h hlt, fun _ => ?_⟩
    obtain ⟨committee, hc, h⟩ := Finds.bind (finds_of_answer h : Finds node clock _ _)
      (.during _ (.ask _))
    rw [answer_during_eq_ok, answer_ask_eq_ok] at hc
    dsimp only at h
    split at h
    · simp at h
    · next hne =>
      obtain ⟨tally, ht, h⟩ := Finds.bind h steady_tallySlots
      obtain ⟨hseats, hmisses⟩ := Prod.mk.inj (finds_pure.1 h)
      obtain ⟨hfits, rfl⟩ :=
        @tallied_of_tallySlots _ clock _ _ _ _ _ (finds_of_answer ht) hsigned
      have hfits : ∀ record ∈ node.syncRecords (clock.epochSlots query.epoch).slots,
          record.fits committee.validators := hfits
      have haccounts := (SyncTally.tallies_of_records committee.validators selection.contains
        (node.syncRecords (clock.epochSlots query.epoch).slots)).accounts
      rw [List.filter_eq_self.2 hfits] at haccounts
      refine ⟨committee, hc, fun hnil => hne (List.isEmpty_iff.2 hnil), hseats.symm,
        Answers.map_slot_syncRecords hsigned, hfits, hmisses.symm, ?_⟩
      rw [← hmisses]
      exact haccounts

/-- **Misses of a sync committee.** Whatever records a tally is offered, it refuses those that do not
    fit, and its entries account for the others. When the summary of an epoch succeeds all of whose
    blocks have sync aggregates, these are the records of its tally. -/
theorem syncTallied_of_run :
    (∀ members selected records, SyncTally.Tallies members selected records) ∧
    ∀ {available : List Capability} {chain : Chain},
      answer node (run available limits chain query) = .ok summary →
        node.AllSigned (chain.clock.epochSlots query.epoch).slots →
          ∃ selection : Selection,
            (∀ v, selection.contains v ↔ query.ids = [] ∨
              ∃ known, node (.validators .head query.ids) = .ok known ∧ ∃ x ∈ known, x.index = v) ∧
            SyncTallied node chain.clock query selection summary := by
  refine ⟨SyncTally.tallies_of_records, fun {available chain} h hsigned => ?_⟩
  obtain ⟨-, selection, due, infos, records, hc⟩ := completes_of_run h
  exact ⟨selection, contains_of_select chain.clock hc.selects,
    syncTallied_of_syncDuties hc.sync hsigned⟩

/-- A chain with a sync committee of two validators in three seats, in two of which nobody signs. -/
def threeSeats : Answers := (Ledger.devnetSigned [false, false, true]).answersWithSync [3, 1, 3]

theorem allSigned_threeSeats :
    threeSeats.AllSigned (Ledger.devnetAltair.clock.epochSlots 0).slots :=
  Answers.allSigned_iff.2 (by decide +kernel)

theorem exists_summary_threeSeats :
    ∃ summary, answer threeSeats (run needs .usual Ledger.devnetAltair ⟨0, [], 3⟩) =
      .ok summary ∧ summary.syncMisses = [⟨1, 2, [0, 1]⟩, ⟨3, 2, [0, 1]⟩] := by
  have hrun : (answer threeSeats (run needs .usual Ledger.devnetAltair ⟨0, [], 3⟩)).toOption.map
      (·.syncMisses) = some [⟨1, 2, [0, 1]⟩, ⟨3, 2, [0, 1]⟩] := by decide +kernel
  exact exists_ok_of_toOption_map hrun

/-- Both validators have missed both blocks of the epoch. -/
theorem syncTallied_threeSeats :
    ∃ summary selection,
      answer threeSeats (run needs .usual Ledger.devnetAltair ⟨0, [], 3⟩) = .ok summary ∧
      summary.syncMisses = [⟨1, 2, [0, 1]⟩, ⟨3, 2, [0, 1]⟩] ∧
      SyncTallied threeSeats Ledger.devnetAltair.clock ⟨0, [], 3⟩ selection summary := by
  obtain ⟨summary, h, hmisses⟩ := exists_summary_threeSeats
  obtain ⟨selection, -, ht⟩ := syncTallied_of_run.2 h allSigned_threeSeats
  exact ⟨summary, selection, h, hmisses, ht⟩

end EpochSurvey

end BeaconDuties
