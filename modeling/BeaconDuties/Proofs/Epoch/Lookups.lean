import BeaconDuties.Proofs.Epoch.Summary
import BeaconDuties.Proofs.Survey.Requests

/-!
Which blocks the summary of an epoch looks for.

A summary looks for the blocks of the inclusion window, which ends with the current slot, for those
of proposers' duties, and for those that a sync committee has to sign
(`EpochSurvey.looks_of_run`). While an epoch is in progress, the latter two may be of slots to come.
Their blocks are asked for all the same, and the duties are reported as missed
(`EpochSurvey.asks_early`).
-/

namespace BeaconDuties

open Survey

/-- The block of a slot has no sync aggregate. -/
def Answers.Unsigned (node : Answers) (slot : Slot) : Prop :=
  ∃ block, node (.block (.slot slot)) = .ok (some block) ∧ block.sync? = none

/-- A slot is one of a list of slots, before which there is no block without sync aggregate. -/
inductive Answers.Signs (node : Answers) : List Slot → Slot → Prop
  | first {slot slots} : node.Signs (slot :: slots) slot
  | later {first slots slot} : ¬ node.Unsigned first → node.Signs slots slot →
      node.Signs (first :: slots) slot

theorem Answers.Signs.mem {node : Answers} {slots : List Slot} {slot : Slot}
    (h : node.Signs slots slot) : slot ∈ slots := by
  induction h with
  | first => exact List.mem_cons_self
  | later _ _ ih => exact List.mem_cons_of_mem _ ih

namespace EpochSurvey

variable {node : Answers} {clock : Clock} {limits : Limits} {epoch : Epoch}
  {table : CommitteeTable} {wanted : ValidatorIndex → Bool} {query : Query}
  {selection : Selection} {registry : Std.ExtTreeMap ValidatorIndex ValidatorInfo}
  {slots : Slot → Prop} {slot : Slot} {available : List Capability} {chain : Chain}

/-! ## Attestations -/

/-- The search for attestations looks for blocks in the inclusion window. -/
theorem asks_participations
    (h : ∀ slot ∈ (clock.inclusionWindow query.epoch query.current).slots, slots slot) :
    Asks node clock (participations limits clock query selection registry) (BlocksIn slots) :=
  .of_composed (composed_participations (fun _ => trivial) h trivial)

theorem seeks_inSlot {seen : Duplicates} :
    Seeks node clock (inSlot limits clock epoch table wanted seen slot) slot :=
  .second .checkTime fun _ _ => .first .blockIn

theorem seeks_inclusions {window : SlotRange} (h : slot ∈ window.slots) :
    Seeks node clock (inclusions limits clock epoch table wanted window) slot := by
  have hc (seen s) : Composed (Request.ByFirstSlot clock) True
      (inSlot limits clock epoch table wanted seen s) := composed_inSlot (fun _ => trivial) trivial
  exact .gatherSlots hc (fun _ => seeks_inSlot) h

theorem seeks_participations
    (h : slot ∈ (clock.inclusionWindow query.epoch query.current).slots) :
    Seeks node clock (participations limits clock query selection registry) slot :=
  .second (.committees rfl) fun _ _ => .first (seeks_inclusions h)

/-! ## The other parts -/

theorem not_unsigned_none (h : answer node (blockIn slot) = .ok none) : ¬ node.Unsigned slot := by
  rintro ⟨block, hb, -⟩
  rw [answer_blockIn_eq_ok, hb] at h
  cases h

theorem not_unsigned_some {block : Block} {aggregate : SyncAggregate}
    (h : answer node (blockIn slot) = .ok (some block)) (hs : block.sync? = some aggregate) :
    ¬ node.Unsigned slot := by
  rintro ⟨block', hb, hs'⟩
  rw [answer_blockIn_eq_ok, hb] at h
  cases h
  simp [hs] at hs'

theorem asks_tallySlots : ∀ {count : Nat} {slot : Slot} {tally : SyncTally},
    (∀ s, node.Signs (slotsFrom count slot) s → slots s) →
      Asks node clock (tallySlots selection count slot tally) (BlocksIn slots)
  | 0, _, _, _ => .pure _
  | count + 1, slot, tally, h => by
    refine .bind (.of_composed (.blockIn (h slot .first))) .blockIn fun block? hb => ?_
    split
    · exact asks_tallySlots fun s hs => h s (.later (not_unsigned_none hb) hs)
    · split
      · exact .pure _
      · next hs =>
        exact .bind (.of_composed (.during (.lift nofun))) (.during _ (.lift _ _)) fun _ _ =>
          asks_tallySlots fun s hs' => h s (.later (not_unsigned_some hb hs) hs')

theorem seeks_tallySlots : ∀ {count : Nat} {start : Slot} {tally : SyncTally},
    node.Signs (slotsFrom count start) slot →
      Seeks node clock (tallySlots selection count start tally) slot
  | _ + 1, _, _, .first => .first .blockIn
  | count + 1, start, tally, .later hu h => by
    refine .second (.blockIn trivial) fun block? hb => ?_
    split
    · exact seeks_tallySlots h
    · split
      · next hs => exact absurd ⟨_, answer_blockIn_eq_ok.1 hb, hs⟩ hu
      · exact .second (.during (.lift nofun)) fun _ _ => seeks_tallySlots h

theorem asks_syncDuties
    (h : clock.forks.altair ≤ epoch →
      ∀ slot, node.Signs (clock.epochSlots epoch).slots slot → slots slot) :
    Asks node clock (syncDuties clock epoch selection) (BlocksIn slots) := by
  rw [syncDuties]
  split
  · exact .pure _
  · next hle =>
    exact .bind (.of_composed (.during (.ask rfl trivial))) (.during _ (.ask _)) fun _ _ =>
      .ite (.of_composed (.fail nofun))
        (.bind (asks_tallySlots (h (UInt64.not_lt.1 hle))) steady_tallySlots fun _ _ => .pure _)

theorem seeks_syncDuties (hle : clock.forks.altair ≤ epoch)
    (h : node.Signs (clock.epochSlots epoch).slots slot) :
    Seeks node clock (syncDuties clock epoch selection) slot := by
  rw [syncDuties, if_neg (UInt64.not_lt.2 hle)]
  exact .second (.during (.ask rfl trivial)) fun _ _ => .ite (.fail _) (.first (seeks_tallySlots h))

/-! ## The summary -/

/-- A slot is in the inclusion window, the slot of a proposer's duty, or one whose block a sync
    committee has to sign. -/
inductive OfConcern (node : Answers) (clock : Clock) (query : Query) (slot : Slot) : Prop
  | window : slot ∈ (clock.inclusionWindow query.epoch query.current).slots →
      OfConcern node clock query slot
  | due {duties duty} : node (.proposers query.epoch) = .ok duties → duty ∈ duties →
      duty.slot = slot → OfConcern node clock query slot
  | signed : clock.forks.altair ≤ query.epoch →
      node.Signs (clock.epochSlots query.epoch).slots slot → OfConcern node clock query slot

theorem asks_gather : Asks node chain.clock (gather available limits chain query)
    (BlocksIn (OfConcern node chain.clock query)) := by
  refine .bind (.of_composed .require) (.lift _ _) fun _ _ => ?_
  refine .bind (.of_composed (composed_select trivial)) steady_select fun selection _ => ?_
  refine .bind (.of_composed (.during (.ask rfl trivial))) (.during _ (.ask _)) fun duties hd => ?_
  have hduties : ∀ duty ∈ duties, OfConcern node chain.clock query duty.slot := fun duty hm =>
    .due (answer_ask_eq_ok.1 (answer_during_eq_ok.1 hd)) hm rfl
  refine .bind (.of_composed (.proposals hduties)) .proposals fun due hdue => ?_
  refine .bind (.of_composed (.during (.ask rfl trivial))) (.during _ (.ask _)) fun infos _ => ?_
  refine .bind (asks_participations fun _ => .window) steady_participations fun records _ => ?_
  refine .bind (asks_syncDuties fun hle _ => .signed hle) steady_syncDuties fun sync _ => ?_
  refine .bind (.of_composed (composed_blobsIn fun slot hs => ?_)) steady_blobsIn fun _ _ => .pure _
  obtain rfl := node.proposals_eq_map chain.clock hdue
  obtain ⟨proposal, hp, rfl⟩ := List.mem_map.1 hs
  obtain ⟨duty, hm, rfl⟩ := List.mem_map.1 (List.mem_filter.1 (List.mem_filter.1 hp).1).1
  exact hduties duty hm

theorem seeks_gather (h : OfConcern node chain.clock query slot) :
    Seeks node chain.clock (gather available limits chain query) slot := by
  refine .second .require fun _ _ => ?_
  refine .second (composed_select trivial) fun selection _ => ?_
  refine .second (.during (.ask rfl trivial)) fun duties hd => ?_
  rw [answer_during_eq_ok, answer_ask_eq_ok] at hd
  cases h with
  | due hd' hm hs =>
    rw [hd] at hd'
    cases hd'
    exact hs ▸ .first (.proposals hm)
  | window hw =>
    refine .second (.proposals fun _ _ => trivial) fun due _ => ?_
    refine .second (.during (.ask rfl trivial)) fun infos _ => ?_
    exact .first (seeks_participations hw)
  | signed hle hs =>
    refine .second (.proposals fun _ _ => trivial) fun due _ => ?_
    refine .second (.during (.ask rfl trivial)) fun infos _ => ?_
    refine .second (composed_participations (fun _ => trivial) (fun _ _ => trivial) rfl) fun _ _ => ?_
    exact .first (seeks_syncDuties hle hs)

theorem le_current_of_mem_window
    (h : slot ∈ (clock.inclusionWindow query.epoch query.current).slots) : slot ≤ query.current :=
  UInt64.le_trans (SlotRange.mem_slots.1 h).2 Std.min_le_right

/-- Once the slots of the duties and of the epoch are past, nothing after the current slot is of
    concern. -/
theorem OfConcern.le_current (h : OfConcern node clock query slot)
    (hduties : ∀ duties, node (.proposers query.epoch) = .ok duties →
      ∀ duty ∈ duties, duty.slot ≤ query.current)
    (hsync : clock.forks.altair ≤ query.epoch → clock.lastSlot query.epoch ≤ query.current) :
    slot ≤ query.current := by
  cases h with
  | window h => exact le_current_of_mem_window h
  | due hd hm hs => exact hs ▸ hduties _ hd _ hm
  | signed hle hs => exact UInt64.le_trans (SlotRange.mem_slots.1 hs.mem).2 (hsync hle)

/-- Which blocks the summary of an epoch looks for, and what it reports of proposals. -/
structure Looks (node : Answers) (available : List Capability) (limits : Limits) (chain : Chain)
    (query : Query) : Prop where
  /-- No other blocks are looked for. -/
  asked : ∀ slot, .block (.slot slot) ∈ requests node (run available limits chain query) →
    OfConcern node chain.clock query slot
  /-- A run that succeeds has looked for all of them. -/
  sought : ∀ summary, answer node (run available limits chain query) = .ok summary →
    ∀ slot, OfConcern node chain.clock query slot →
      .block (.slot slot) ∈ requests node (run available limits chain query)
  /-- Once the slots of the duties and of the epoch are past, no block after the current slot is
      looked for. -/
  past : (∀ duties, node (.proposers query.epoch) = .ok duties →
      ∀ duty ∈ duties, duty.slot ≤ query.current) →
    (chain.clock.forks.altair ≤ query.epoch → chain.clock.lastSlot query.epoch ≤ query.current) →
      ∀ slot, .block (.slot slot) ∈ requests node (run available limits chain query) →
        slot ≤ query.current
  /-- All duties of selected proposers are reported, whether their slots are past or not. -/
  proposals : ∀ summary, answer node (run available limits chain query) = .ok summary →
    ∃ selection duties, answer node (select query.ids) = .ok selection ∧
      node (.proposers query.epoch) = .ok duties ∧
      summary.proposals = (duties.map node.proposal).filter (selection.contains ·.validator)

/-- **Blocks after the current slot are looked for if they are due.** The search for attestations
    ends with the current slot. But the blocks of proposers' duties, and those that a sync committee
    has to sign, are looked for whether their slots are past or not. -/
theorem looks_of_run {available : List Capability} {chain : Chain} :
    Looks node available limits chain query := by
  have hasks : Asks node chain.clock (run available limits chain query)
      (BlocksIn (OfConcern node chain.clock query)) :=
    .bind asks_gather steady_gather fun _ _ => .of_composed (.total trivial)
  constructor
  case asked => exact fun slot => hasks.requests (.block (.slot slot))
  case sought =>
    intro summary h slot hslot
    have hseeks : Seeks node chain.clock (run available limits chain query) slot :=
      .first (seeks_gather hslot)
    exact hseeks.requests h
  case past =>
    intro hduties hsync slot h
    exact OfConcern.le_current (hasks.requests _ h) hduties hsync
  case proposals =>
    intro summary h
    obtain ⟨selection, due, infos, records, m⟩ := makes_of_run h
    obtain ⟨duties, hd, hdue⟩ := m.duties
    refine ⟨selection, duties, m.selects, hd, ?_⟩
    rw [m.proposals, node.proposals_eq_map chain.clock hdue]

/-- While slot 0 is the current one, the block of slot 1 is asked for, and is reported as
    missing. -/
theorem asks_early :
    let ledger := { Ledger.devnet with blocks := Ledger.devnet.blocks.take 1 }
    .block (.slot 1) ∈ requests ledger.answers (run needs .usual Ledger.devnetChain ⟨0, [], 0⟩) ∧
      (answer ledger.answers (run needs .usual Ledger.devnetChain ⟨0, [], 0⟩)).toOption.map
        (·.proposals) = some [⟨0, 0, true⟩, ⟨1, 2, false⟩] := by
  constructor
  · decide +kernel
  · decide +kernel

end EpochSurvey

end BeaconDuties
