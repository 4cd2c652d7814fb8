import Mathlib.Data.Bool.AllAny
import BeaconDuties.Proofs.Epoch.SyncDuties
import BeaconDuties.Proofs.Number.Rounding

/-!
How the misses of a sync committee compare with its chances.

Every block of an epoch is a chance to sign for each seat. A validator with one seat misses no more
blocks than there are, and the report of its misses adds up (`EpochSurvey.SyncChances`). If it has
several seats, it may miss a block more than once, and more blocks than there are
(`EpochSurvey.exceeds_chances`).
-/

namespace BeaconDuties

open Survey

/-! ## Missed slots -/

namespace SyncRecord

variable {members : List ValidatorIndex} {v : ValidatorIndex} {record : SyncRecord}
  {records : List SyncRecord} {slot : Slot}

/-- In one block, a validator misses no more than its seats. -/
theorem unset_le (h : record.fits members) : record.unset members v ≤ members.count v := by
  have hlength : members.length ≤ record.bits.bits.length := (of_decide_eq_true h).ge
  have hmap : (record.seats members).map Prod.fst = members := List.map_fst_zip hlength
  rw [← congrArg (List.count v) hmap, unset, List.count_eq_countP, List.count_eq_countP,
    List.countP_map]
  refine List.countP_mono_left fun seat _ hseat => ?_
  rw [eq_of_beq hseat]
  exact beq_self_eq_true v

theorem mem_missedBy :
    slot ∈ missedBy members v records ↔
      ∃ record ∈ records, record.slot = slot ∧ 0 < record.unset members v := by
  rw [missedBy, List.mem_flatMap]
  refine exists_congr fun record => and_congr_right fun _ => ?_
  rw [List.mem_replicate, and_comm, eq_comm, Nat.pos_iff_ne_zero]

/-- Missed slots come in the order of the records. -/
theorem pairwise_missedBy {R : Slot → Slot → Prop}
    (h : records.Pairwise fun record later => R record.slot later.slot)
    (hself : ∀ record ∈ records, record.unset members v ≤ 1 ∨ R record.slot record.slot) :
    (missedBy members v records).Pairwise R := by
  refine List.pairwise_flatMap.2 ⟨fun record hrecord => ?_, h.imp fun {record later} hlt s hs t ht => ?_⟩
  · exact List.pairwise_replicate.2 (hself record hrecord)
  · rw [List.eq_of_mem_replicate hs, List.eq_of_mem_replicate ht]
    exact hlt

/-- A slot is missed once for each seat without a set bit. -/
theorem count_missedBy (h : records.Pairwise fun record later => record.slot < later.slot)
    (hrecord : record ∈ records) :
    (missedBy members v records).count record.slot = record.unset members v := by
  induction records with
  | nil => cases hrecord
  | cons first rest ih =>
    obtain ⟨hfirst, hrest⟩ := List.pairwise_cons.1 h
    rw [missedBy, List.flatMap_cons, List.count_append, List.count_replicate]
    rcases List.mem_cons.1 hrecord with rfl | hmem
    · have hnone : (missedBy members v rest).count record.slot = 0 := by
        refine List.count_eq_zero.2 fun hslot => ?_
        obtain ⟨later, hlater, heq, -⟩ := mem_missedBy.1 hslot
        exact UInt64.lt_irrefl _ (heq ▸ hfirst later hlater)
      rw [if_pos (beq_self_eq_true _)]
      exact congrArg (_ + ·) hnone
    · have hne : ¬ (first.slot == record.slot) := fun heq =>
        UInt64.lt_irrefl _ (eq_of_beq heq ▸ hfirst record hmem)
      rw [if_neg hne, Nat.zero_add]
      exact ih hrest hmem

/-- Missed slots do not go back, as the records do not. -/
theorem pairwise_le_missedBy (h : records.Pairwise fun record later => record.slot < later.slot) :
    (missedBy members v records).Pairwise (· ≤ ·) :=
  pairwise_missedBy (h.imp UInt64.le_of_lt) fun _ _ => .inr (UInt64.le_refl _)

/-- No slot is missed twice just if no two seats have missed the same block. -/
theorem pairwise_lt_missedBy_iff
    (h : records.Pairwise fun record later => record.slot < later.slot) :
    (missedBy members v records).Pairwise (· < ·) ↔
      ∀ record ∈ records, record.unset members v ≤ 1 := by
  constructor
  · intro hlt record hrecord
    rw [← count_missedBy h hrecord]
    exact List.nodup_iff_count_le_one.1 (hlt.imp UInt64.ne_of_lt) _
  · exact fun hone => pairwise_missedBy h fun record hrecord => .inl (hone record hrecord)

theorem count_missedBy_le {seats : Nat}
    (h : records.Pairwise fun record later => record.slot < later.slot)
    (hseats : ∀ record ∈ records, record.unset members v ≤ seats) :
    (missedBy members v records).count slot ≤ seats := by
  by_cases hslot : slot ∈ missedBy members v records
  · obtain ⟨record, hrecord, rfl, -⟩ := mem_missedBy.1 hslot
    rw [count_missedBy h hrecord]
    exact hseats record hrecord
  · rw [List.count_eq_zero.2 hslot]
    exact Nat.zero_le _

theorem length_missedBy_le {seats : Nat} (h : ∀ record ∈ records, record.unset members v ≤ seats) :
    (missedBy members v records).length ≤ seats * records.length := by
  induction records with
  | nil => exact Nat.le_refl _
  | cons first rest ih =>
    obtain ⟨hfirst, hrest⟩ := List.forall_mem_cons.1 h
    rw [missedBy, List.flatMap_cons, List.length_append, List.length_replicate, List.length_cons,
      Nat.mul_succ, Nat.add_comm]
    exact Nat.add_le_add (ih hrest) hfirst

end SyncRecord

namespace EpochSurvey

variable {node : Answers} {limits : Limits} {query : Query} {summary : EpochSummary}
  {slots : List Slot} {members : List ValidatorIndex} {x : SyncMisses}

/-- What a validator has missed of its chances in the blocks of some slots. -/
structure SyncChances (node : Answers) (slots : List Slot) (members : List ValidatorIndex)
    (blocks : Nat) (x : SyncMisses) : Prop where
  seated : 0 < members.count x.validator
  /-- There is a block in each slot that is listed. -/
  filled : ∀ slot ∈ x.slots, slot ∈ node.filled slots
  /-- Slots come in their order, none of them more often than the validator has seats. -/
  ordered : x.slots.Pairwise (· ≤ ·)
  count_le : ∀ slot, x.slots.count slot ≤ members.count x.validator
  missed_le : x.missed ≤ members.count x.validator * blocks
  /-- No slot is listed twice just if no two seats have missed the same block. -/
  strict_iff : x.slots.Pairwise (· < ·) ↔
    ∀ record ∈ node.syncRecords slots, record.unset members x.validator ≤ 1
  single : members.count x.validator = 1 → x.slots.Pairwise (· < ·)
  /-- Then the misses do not exceed the chances. -/
  within : x.slots.Pairwise (· < ·) → x.missed ≤ blocks
  /-- The report tells what is left of the chances. -/
  included : x.slots.Pairwise (· < ·) → ∃ included, included + x.missed = blocks ∧
    EpochSummary.syncLines blocks x = [s!"  Sync committee validator {x.validator}:",
      s!"    Chances: {blocks}", s!"    Included: {included}",
      "    Inclusion %: " ++ Text.percent included blocks]
  /-- The share that is missed is written as 100.00 at most. -/
  percent : x.slots.Pairwise (· < ·) → blocks < Nat.pow 2 64 →
    ∃ units ≤ 10000, Text.percent x.missed blocks = Places.renderUnits 2 units

/-- If every slot has a proposer, there are no more slots with blocks than blocks. -/
theorem length_filled_le {duties : List ProposerDuty} (hslots : slots.Nodup)
    (hduties : ∀ slot ∈ slots, slot ∈ duties.map (·.slot)) :
    (node.filled slots).length ≤ (duties.map node.proposal).countP (·.proposed) := by
  have hsub : (node.filled slots).Subperm
      ((duties.map (·.slot)).filter fun slot => (node.blockAt? slot).isSome) := by
    refine List.subperm_of_subset (hslots.filter _) fun slot hslot => ?_
    obtain ⟨hslot, hblock⟩ := List.mem_filter.1 hslot
    exact List.mem_filter.2 ⟨hduties slot hslot, hblock⟩
  refine hsub.length_le.trans_eq ?_
  rw [← List.countP_eq_length_filter, List.countP_map, List.countP_map]
  rfl

/-- The records of the slots in ascending order. -/
theorem pairwise_syncRecords (hslots : slots.Pairwise (· < ·)) (hsigned : node.AllSigned slots) :
    (node.syncRecords slots).Pairwise fun record later => record.slot < later.slot := by
  refine List.pairwise_map.1 (?_ : ((node.syncRecords slots).map (·.slot)).Pairwise (· < ·))
  rw [Answers.map_slot_syncRecords hsigned]
  exact hslots.filter _

theorem syncChances_of_accounts {selected : ValidatorIndex → Bool} {entries : List SyncMisses}
    {blocks : Nat} (h : SyncTally.Accounts members selected (node.syncRecords slots) entries)
    (hfits : ∀ record ∈ node.syncRecords slots, record.fits members)
    (hslots : slots.Pairwise (· < ·)) (hsigned : node.AllSigned slots)
    (hblocks : (node.filled slots).length ≤ blocks) (hx : x ∈ entries) :
    SyncChances node slots members blocks x := by
  have hordered := pairwise_syncRecords hslots hsigned
  have hunset : ∀ record ∈ node.syncRecords slots,
      record.unset members x.validator ≤ members.count x.validator :=
    fun record hrecord => SyncRecord.unset_le (hfits record hrecord)
  have hlength : (node.syncRecords slots).length ≤ blocks := by
    rwa [← Answers.map_slot_syncRecords hsigned, List.length_map] at hblocks
  have hmissed : ∀ {seats : Nat}, (∀ record ∈ node.syncRecords slots,
      record.unset members x.validator ≤ seats) → x.missed ≤ seats * blocks := by
    intro seats hseats
    rw [h.missed x hx, h.slots x hx]
    exact (SyncRecord.length_missedBy_le hseats).trans (Nat.mul_le_mul_left _ hlength)
  have hstrict : x.slots.Pairwise (· < ·) ↔
      ∀ record ∈ node.syncRecords slots, record.unset members x.validator ≤ 1 := by
    rw [h.slots x hx]
    exact SyncRecord.pairwise_lt_missedBy_iff hordered
  have hwithin : x.slots.Pairwise (· < ·) → x.missed ≤ blocks := fun hlt =>
    (hmissed (hstrict.1 hlt)).trans_eq (Nat.one_mul _)
  constructor
  case seated =>
    obtain ⟨-, record, -, hseat⟩ := (h.mem_iff x.validator).1 (List.mem_map_of_mem hx)
    exact List.count_pos_iff.2 (List.of_mem_zip hseat).1
  case filled =>
    intro slot hslot
    rw [h.slots x hx] at hslot
    obtain ⟨record, hrecord, rfl, -⟩ := SyncRecord.mem_missedBy.1 hslot
    rw [← Answers.map_slot_syncRecords hsigned]
    exact List.mem_map_of_mem hrecord
  case ordered => exact h.slots x hx ▸ SyncRecord.pairwise_le_missedBy hordered
  case count_le => exact fun slot => h.slots x hx ▸ SyncRecord.count_missedBy_le hordered hunset
  case missed_le => exact hmissed hunset
  case strict_iff => exact hstrict
  case single =>
    exact fun hone => hstrict.2 fun record hrecord => (hunset record hrecord).trans_eq hone
  case within => exact hwithin
  case included => exact fun hlt => ⟨blocks - x.missed, Nat.sub_add_cancel (hwithin hlt), rfl⟩
  case percent => exact fun hlt hmax => Text.exists_percent_eq (hwithin hlt) hmax

/-- **Misses and chances of a sync committee.** If there is a proposer for every slot of an epoch and
    all its blocks have sync aggregates, a validator misses no more than its seats allow. If no two
    of its seats have missed the same block, as if it has one seat only, it misses no more blocks
    than there are. -/
theorem syncChances_of_run {available : List Capability} {chain : Chain}
    (h : answer node (run available limits chain query) = .ok summary)
    (hsigned : node.AllSigned (chain.clock.epochSlots query.epoch).slots)
    (hduties : ∀ duties, node (.proposers query.epoch) = .ok duties →
      ∀ slot ∈ (chain.clock.epochSlots query.epoch).slots, slot ∈ duties.map (·.slot)) :
    ∀ x ∈ summary.syncMisses, ∃ committee,
      node (.syncCommittee (.slot (chain.clock.firstSlot query.epoch)) (some query.epoch)) =
        .ok committee ∧
      SyncChances node (chain.clock.epochSlots query.epoch).slots committee.validators
        summary.blocks x := by
  intro x hx
  obtain ⟨-, selection, due, infos, records, hc⟩ := completes_of_run h
  have hsync := syncTallied_of_syncDuties hc.sync hsigned
  have hslots := (chain.clock.epochSlots query.epoch).pairwise_slots
  have hblocks : (node.filled (chain.clock.epochSlots query.epoch).slots).length ≤
      summary.blocks := by
    obtain ⟨duties, hd, hdue⟩ := hc.duties
    rw [hc.blocks, node.proposals_eq_map chain.clock hdue]
    exact length_filled_le (hslots.imp UInt64.ne_of_lt) (hduties duties hd)
  by_cases hlt : query.epoch < chain.clock.forks.altair
  · rw [(hsync.without hlt).2] at hx
    cases hx
  · obtain ⟨committee, hcommittee, -, -, -, hfits, -, haccounts⟩ :=
      hsync.tallied (UInt64.not_lt.1 hlt)
    exact ⟨committee, hcommittee,
      syncChances_of_accounts haccounts hfits hslots hsigned hblocks hx⟩

/-- A validator with two seats of which one has missed both blocks. -/
theorem syncChances_threeSeats :
    ∃ summary, answer threeSeats (run needs .usual Ledger.devnetAltair ⟨0, [], 3⟩) = .ok summary ∧
      SyncChances threeSeats [0, 1] [3, 1, 3] summary.blocks ⟨3, 2, [0, 1]⟩ := by
  have hduties : ∀ duties, threeSeats (.proposers 0) = .ok duties →
      ∀ slot ∈ (Ledger.devnetAltair.clock.epochSlots 0).slots, slot ∈ duties.map (·.slot) := by
    intro duties h
    cases h
    exact List.all_iff_forall_prop.1 (by decide +kernel)
  obtain ⟨summary, h, hmisses⟩ := exists_summary_threeSeats
  obtain ⟨committee, hcommittee, hx⟩ := syncChances_of_run h allSigned_threeSeats hduties
    ⟨3, 2, [0, 1]⟩ (hmisses ▸ by decide)
  cases hcommittee
  exact ⟨summary, h, hx⟩

/-- A validator with two seats in neither of which it signs has missed both blocks twice. The report
    tells that it has missed twice as many blocks as there are. -/
theorem exceeds_chances :
    let node := (Ledger.devnetSigned [false, false]).answersWithSync [0, 0]
    let slots := (Ledger.devnetAltair.clock.epochSlots 0).slots
    ∃ summary duties,
      answer node (run needs .usual Ledger.devnetAltair ⟨0, [], 3⟩) = .ok summary ∧
      node (.proposers 0) = .ok duties ∧
      (∀ slot ∈ slots, (duties.map (·.slot)).count slot = 1) ∧ node.AllSigned slots ∧
      ∃ x ∈ summary.syncMisses, ¬ x.slots.Pairwise (· < ·) ∧ summary.blocks < x.missed ∧
        Text.percent x.missed summary.blocks = "200.00" ∧
        EpochSummary.syncLines summary.blocks x = ["  Sync committee validator 0:",
          "    Chances: 2", "    Included: 0", "    Inclusion %: 0.00"] := by
  intro node slots
  have hrun : (answer node (run needs .usual Ledger.devnetAltair ⟨0, [], 3⟩)).toOption.map
      (fun summary => (summary.blocks, summary.syncMisses)) =
        some (2, [⟨0, 4, [0, 0, 1, 1]⟩]) := by decide +kernel
  obtain ⟨summary, h, hsummary⟩ := exists_ok_of_toOption_map hrun
  obtain ⟨hblocks, hmisses⟩ := Prod.mk.inj hsummary
  have hsigned : node.AllSigned slots := Answers.allSigned_iff.2 (by decide +kernel)
  refine ⟨summary, _, h, rfl, List.all_iff_forall_prop.1 (by decide +kernel), hsigned,
    ⟨0, 4, [0, 0, 1, 1]⟩, hmisses ▸ List.mem_cons_self, by decide, ?_, ?_, ?_⟩
  all_goals rw [hblocks]
  · decide
  · decide +kernel
  · decide +kernel

end EpochSurvey

end BeaconDuties
