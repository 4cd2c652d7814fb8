import BeaconDuties.Report.BlockSurvey
import BeaconDuties.Report.EpochSurvey
import BeaconDuties.Report.ValidatorSurvey
import BeaconDuties.Proofs.Survey.Parts

/-!
What the surveys behind the reports are composed of.

One fact for each function says that it is composed of look-ups, of questions whose answers are not
kept, and of failures that no node has caused (`Survey.Composed`). All else that holds of such
surveys follows from these facts. The functions that go through blocks and judge votes look up
nothing but blocks and headers of slots. Totals are among the parts only where an epoch is added up
and where a vote is weighed.

The analysis of a block asks for this block by its name and does not keep it, so that only what it
does with the block is told here.
-/

namespace BeaconDuties

open Survey

variable {limits : Limits} {clock : Clock} {chain : Chain} {epoch : Epoch} {slot : Slot}
  {table : CommitteeTable} {available : List Capability} {seen : Duplicates}
  {P : Request → Prop} {T : Prop}

theorem Chain.composed_load : Composed (fun _ => True) T (load available) :=
  .bind .require fun _ => .bind (.during (.ask rfl trivial)) fun _ =>
    .bind (.during (.ask rfl trivial)) fun _ => .bind (.during (.ask rfl trivial)) fun _ =>
      .bind (.during (.lift nofun)) fun _ => .bind (.during (.lift nofun)) fun _ => .pure _

/-! ## Epochs -/

namespace EpochSurvey

variable {query : Query} {selection : Selection} {wanted : ValidatorIndex → Bool}
  {registry : Std.ExtTreeMap ValidatorIndex ValidatorInfo}

theorem composed_select {ids : List ValidatorId} (h : P (.validators .head ids)) :
    Composed P T (select ids) :=
  .ite (.pure _) (.bind (.during (.ask rfl h)) fun _ => .ite (.fail nofun) (.pure _))

theorem composed_judge (h : ∀ slot, P (.header (.slot slot))) {index : Nat}
    {attestation : Attestation} :
    Composed P T (judge limits clock table wanted slot index attestation) :=
  .bind (.during .attesting) fun _ => .ite (.pure _) (.bind (.classify h) fun _ => .pure _)

theorem composed_inBlock (h : ∀ slot, P (.header (.slot slot))) :
    ∀ {list : List (Attestation × Nat)} {seen : Duplicates},
      Composed P T (inBlock limits clock epoch table wanted slot seen list)
  | [], _ => .pure _
  | _ :: _, _ =>
    .ite (.ite (composed_inBlock h) (.bind (composed_judge h) fun _ =>
      .bind (composed_inBlock h) fun _ => .pure _)) (composed_inBlock h)

theorem composed_inSlot (h : ∀ slot, P (.header (.slot slot))) (hslot : P (.block (.slot slot))) :
    Composed P T (inSlot limits clock epoch table wanted seen slot) := by
  refine .bind .checkTime fun _ => .bind (.blockIn hslot) fun block? => ?_
  cases block? with
  | none => exact .pure _
  | some block => exact composed_inBlock h

theorem composed_inclusions {window : SlotRange} (h : ∀ slot, P (.header (.slot slot)))
    (hslots : ∀ slot ∈ window.slots, P (.block (.slot slot))) :
    Composed P T (inclusions limits clock epoch table wanted window) :=
  .gatherSlots fun slot hslot _ => composed_inSlot h (hslots slot hslot)

theorem composed_participations (h : ∀ slot, P (.header (.slot slot)))
    (hslots : ∀ slot ∈ (clock.inclusionWindow query.epoch query.current).slots,
      P (.block (.slot slot)))
    (hcommittees : P (.committees (.slot (clock.firstSlot query.epoch)) (some query.epoch))) :
    Composed P T (participations limits clock query selection registry) :=
  .bind (.committees hcommittees) fun _ => .bind (composed_inclusions h hslots) fun _ => .pure _

theorem composed_tallySlots (h : ∀ slot, P (.block (.slot slot))) :
    ∀ {count : Nat} {slot : Slot} {tally : SyncTally},
      Composed P T (tallySlots selection count slot tally)
  | 0, _, _ => .pure _
  | count + 1, slot, tally => by
    refine .bind (.blockIn (h slot)) fun block? => ?_
    split
    · exact composed_tallySlots h
    · split
      · exact .pure _
      · exact .bind (.during (.lift nofun)) fun _ => composed_tallySlots h

theorem composed_syncDuties (h : ∀ slot, P (.block (.slot slot)))
    (hcommittee : P (.syncCommittee (.slot (clock.epochSlots epoch).first) (some epoch))) :
    Composed P T (syncDuties clock epoch selection) :=
  .ite (.pure _) (.bind (.during (.ask rfl hcommittee)) fun _ =>
    .ite (.fail nofun) (.bind (composed_tallySlots h) fun _ => .pure _))

theorem composed_blobsIn : ∀ {slots : List Slot}, (∀ slot ∈ slots, P (.block (.slot slot))) →
    Composed P T (blobsIn slots)
  | [], _ => .pure _
  | _ :: _, h => by
    rw [List.forall_mem_cons] at h
    exact .bind (.blockIn h.1) fun _ => .bind (composed_blobsIn h.2) fun _ => .pure _

theorem composed_gather :
    Composed (Request.ByFirstSlot chain.clock) T (gather available limits chain query) :=
  .bind .require fun _ => .bind (composed_select trivial) fun _ =>
    .bind (.during (.ask rfl trivial)) fun _ => .bind (.proposals fun _ _ => trivial) fun _ =>
      .bind (.during (.ask rfl trivial)) fun _ =>
        .bind (composed_participations (fun _ => trivial) (fun _ _ => trivial) rfl) fun _ =>
          .bind (composed_syncDuties (fun _ => trivial) trivial) fun _ =>
            .bind (composed_blobsIn fun _ _ => trivial) fun _ => .pure _

theorem composed_run :
    Composed (Request.ByFirstSlot chain.clock) True (run available limits chain query) :=
  .bind composed_gather fun _ => .total trivial

end EpochSurvey

/-! ## Blocks -/

namespace BlockSurvey

theorem composed_indexAttestations {oldest : Slot} :
    ∀ {list : List (Attestation × Nat)} {seen : Duplicates},
      Composed (Request.ByFirstSlot chain.clock) T
        (indexAttestations chain oldest slot seen list)
  | [], _ => .pure _
  | _ :: _, _ =>
    .ite composed_indexAttestations (.bind (.committees rfl) fun _ => .bind .attesting fun _ =>
      composed_indexAttestations)

theorem composed_index {oldest : Slot} : ∀ {blocks : List Block} {seen : Duplicates},
    Composed (Request.ByFirstSlot chain.clock) T (index chain oldest seen blocks)
  | [], _ => .pure _
  | _ :: _, _ => .bind composed_indexAttestations fun _ => composed_index

theorem composed_row {attestation : Attestation} {index : Nat} :
    Composed (Request.ByFirstSlot chain.clock) True
      (row limits chain slot seen attestation index) :=
  .bind (.committees rfl) fun _ => .bind (.during .attesting) fun _ =>
    .bind (.classify fun _ => trivial) fun _ => .bind (.total trivial) fun _ => .pure _

theorem composed_rows : ∀ {list : List (Attestation × Nat)} {seen : Duplicates},
    Composed (Request.ByFirstSlot chain.clock) True (rows limits chain slot seen list)
  | [], _ => .pure _
  | (attestation, index) :: rest, seen => by
    rw [rows]
    dsimp only
    split
    · exact .bind composed_rows fun _ => .pure _
    · exact .bind composed_row fun _ => .bind composed_rows fun _ => .pure _

theorem composed_analyze {block : Block} :
    Composed (Request.ByFirstSlot chain.clock) True (analyze limits chain block) :=
  .bind (.ancestors fun _ => trivial) fun _ => .bind composed_index fun _ =>
    .bind composed_rows fun _ => .pure _

end BlockSurvey

/-! ## Validators -/

namespace ValidatorSurvey

variable {query : Query} {duties : Duties}

theorem composed_inBlock (h : ∀ slot, P (.header (.slot slot))) :
    ∀ {list : List Attestation} {seen : Duplicates},
      Composed P T (inBlock limits clock epoch table duties slot seen list)
  | [], _ => .pure _
  | _ :: _, _ =>
    .ite (.bind .attesting fun _ => .ite (composed_inBlock h) (.bind (.classify h) fun _ =>
      .bind (composed_inBlock h) fun _ => .pure _)) (composed_inBlock h)

theorem composed_inSlot (h : ∀ slot, P (.header (.slot slot))) (hslot : P (.block (.slot slot))) :
    Composed P T (inSlot limits clock epoch table duties seen slot) := by
  refine .bind .checkTime fun _ => .bind (.blockIn hslot) fun block? => ?_
  cases block? with
  | none => exact .pure _
  | some block => exact composed_inBlock h

theorem composed_credits (h : ∀ slot, P (.header (.slot slot)))
    (hslots : ∀ slot, P (.block (.slot slot)))
    (hcommittees : P (.committees (.slot (clock.firstSlot query.epoch)) (some query.epoch))) :
    Composed P T (credits limits clock query duties) :=
  .ite (.pure _) (.bind (.committees hcommittees) fun _ =>
    .gatherSlots fun slot _ _ => composed_inSlot h (hslots slot))

theorem composed_summarize :
    Composed (Request.ByFirstSlot clock) T (summarize limits clock query) := by
  refine .ite (.fail nofun)
    (.bind (.during (.ask rfl trivial)) fun _ => .ite (.fail nofun) ?_)
  refine .bind (.during (.ask rfl trivial)) fun _ => .bind (.proposals fun _ _ => trivial) fun _ => ?_
  -- duties are asked for in one branch only, and both go on alike
  refine .ite (.bind (.pure _) fun _ => ?_) (.bind (.during (.ask rfl trivial)) fun _ => ?_)
  all_goals exact .bind (composed_credits (fun _ => trivial) (fun _ => trivial) rfl) fun _ => .pure _

theorem composed_run :
    Composed (Request.ByFirstSlot chain.clock) T (run available limits chain query) :=
  .bind .require fun _ => composed_summarize

end ValidatorSurvey

end BeaconDuties
