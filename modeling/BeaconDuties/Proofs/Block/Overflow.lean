import BeaconDuties.Proofs.Block.Rows
import BeaconDuties.Proofs.Epoch.Active
import BeaconDuties.Proofs.Survey.Overflow

/-!
When the weights of a vote do not fit.

The analysis of a block adds up the weights that a vote earns, once for each attestation that has
not been included before.

* `BlockSurvey.judged`: how an attestation is judged before it is weighed.
* `BlockSurvey.reach`: what a run has found out when it comes to an attestation of the block and has
  judged it.

Nothing else overflows. So a run overflows exactly if it reaches an attestation that is new and
whose weights do not fit (`BlockSurvey.course_overflow_iff`).
-/

namespace BeaconDuties.BlockSurvey

open Survey

variable {limits : Limits} {chain : Chain} {available : List Capability} {id : BlockId}
  {oldest slot : Slot} {seen : Duplicates} {past : List (Origin × Attestation)} {a : Attestation}
  {memory : Memory} {turns : List Turn}

/-! ## Preparing -/

theorem ensures_indexAttestations :
    ∀ {list : List (Attestation × Nat)} {past : List (Origin × Attestation)} {seen : Duplicates},
      Noted past seen → Ensures (Noted (past ++ list.map fun x => (⟨slot, x.2⟩, x.1)))
        (indexAttestations chain oldest slot seen list)
  | [], past, seen, h => by
    rw [List.map_nil, List.append_nil]
    exact .pure h
  | (a, index) :: rest, past, seen, h => by
    rw [indexAttestations, List.map_cons, List.append_cons]
    dsimp only
    split
    · exact ensures_indexAttestations h.record
    · exact .next fun _ => .next fun _ => ensures_indexAttestations h.record.creditAll

theorem ensures_index :
    ∀ {blocks : List Block} {past : List (Origin × Attestation)} {seen : Duplicates},
      Noted past seen →
        Ensures (Noted (past ++ blocks.flatMap Block.placed)) (index chain oldest seen blocks)
  | [], past, seen, h => by
    rw [List.flatMap_nil, List.append_nil]
    exact .pure h
  | block :: rest, past, seen, h => by
    rw [index, List.flatMap_cons, ← List.append_assoc]
    exact .bind (ensures_indexAttestations h) fun _ => ensures_index

/-- What a run has found out before it comes to the attestations of the block. -/
structure Prepared where
  block : Block
  ancestors : List Block
  seen : Duplicates

/-- Looks up the block and its ancestors, and takes these down. -/
def prepare (limits : Limits) (chain : Chain) (available : List Capability) (id : BlockId) :
    Survey Prepared := do
  lift .node (Capability.require available needs)
  match ← during (.obtainingBlock id) (ask (.block id)) with
  | none => fail (.noBlock id)
  | some block =>
    let ancestors ← ancestors limits block (BlockSurvey.oldest block)
    let seen ← index chain (BlockSurvey.oldest block) .empty ancestors.reverse
    return ⟨block, ancestors, seen⟩

theorem fits_prepare : Fits (prepare limits chain available id) := by
  -- the block itself is not looked up, so that this is no composition of the usual parts
  refine .bind (.of_composed (P := fun _ => True) .require) fun _ =>
    .bind (.during .ask) fun block? => ?_
  cases block? with
  | none => exact .throw nofun
  | some block =>
    exact .of_composed <| .bind (.ancestors fun _ => trivial) fun _ =>
      .bind composed_index fun _ => .pure _

theorem ensures_prepare :
    Ensures (fun x => Noted (x.ancestors.reverse.flatMap Block.placed) x.seen)
      (prepare limits chain available id) := by
  refine .next fun _ => .next fun block? => ?_
  cases block? with
  | none => exact .fail
  | some block =>
    exact .next fun ancestors => .bind (ensures_index .empty) fun seen hseen => .pure hseen

/-- A run prepares first and then goes through the attestations of the block. -/
theorem run_eq : run limits chain available id = prepare limits chain available id >>= fun x =>
    rows limits chain x.block.slot x.seen x.block.attestations.zipIdx >>= fun attestations =>
      pure (.ofParts x.block.slot attestations (syncRow chain x.block)) := by
  simp only [run, prepare, bind_assoc]
  refine bind_congr fun _ => bind_congr fun block? => ?_
  cases block? with
  | none => rfl
  | some block => simp only [analyze, bind_assoc, pure_bind]

/-! ## Judging -/

/-- Judges an attestation as `row` does, short of weighing it. -/
def judged (limits : Limits) (chain : Chain) (slot : Slot) (attestation : Attestation)
    (index : Nat) : Survey (List Member × Classification) := do
  let table ← committeesAt chain attestation.data.slot
  let members ← during (.decodingAttestation index slot) (attesting table attestation)
  return (members, ← classify limits chain.clock attestation.data slot)

theorem fits_judged {index : Nat} : Fits (judged limits chain slot a index) :=
  .of_composed (P := fun _ => True) <| .bind (.committees trivial) fun _ =>
    .bind (.during .attesting) fun _ => .bind (.classify fun _ => trivial) fun _ => .pure _

/-- A row overflows if its attestation is judged and the weights that it earns do not fit. -/
theorem overflows_row_iff {index : Nat} :
    Overflows (row limits chain slot seen a index) memory turns ↔
      ∃ x after, ((judged limits chain slot a index).resume memory).Course turns (.ok x, after) ∧
        UInt64.size ≤ totalOf (chain.weights.earned x.2.flags) := by
  have hweigh : Overflows (row limits chain slot seen a index) memory turns ↔
      Overflows (judged limits chain slot a index >>= fun x =>
        total (chain.weights.attestationScore x.2.flags)) memory turns := by
    simp only [judged, bind_assoc, pure_bind]
    refine overflows_bind_congr fun table _ _ => ?_
    refine overflows_bind_congr fun members _ _ => ?_
    refine overflows_bind_congr fun classification _ _ => ?_
    exact Fits.overflows_bind_iff_left fun _ => .pure _
  rw [hweigh, fits_judged.overflows_total_iff]
  simp only [RewardWeights.attestationScore, Option.map_eq_none_iff, checkedSum_eq_none_iff]

/-- Goes through attestations as `rows` does up to the one at a place, and judges this one, be it
    new or not. -/
def comeTo (limits : Limits) (chain : Chain) (slot : Slot) :
    Nat → Duplicates → List (Attestation × Nat) → Survey (Option (Attestation × Classification))
  | _, _, [] => return none
  | 0, _, (attestation, index) :: _ => do
    let (_, classification) ← judged limits chain slot attestation index
    return some (attestation, classification)
  | i + 1, seen, (attestation, index) :: rest => do
    let root := attestation.identityRoot
    match seen.origin? root with
    | some _ => comeTo limits chain slot i seen rest
    | none =>
      let (_, seen) ← row limits chain slot (seen.record root ⟨slot, index⟩) attestation index
      comeTo limits chain slot i seen rest

/-- Once a row is told, the votes of its attestation are credited. -/
theorem ensures_row {index : Nat} :
    Ensures (fun x => ∃ voted validators, x.2 = (seen.creditAll voted validators).2)
      (row limits chain slot seen a index) :=
  .next fun _ => .next fun _ => .next fun _ => .next fun _ => .pure ⟨_, _, rfl⟩

/-- The attestations of a block with their places, given their indices. -/
def placedIn (slot : Slot) (list : List (Attestation × Nat)) : List (Origin × Attestation) :=
  list.map fun x => (⟨slot, x.2⟩, x.1)

theorem append_placedIn_take {i index : Nat} {rest : List (Attestation × Nat)} :
    past ++ placedIn slot (((a, index) :: rest).take (i + 1)) =
      past ++ [(⟨slot, index⟩, a)] ++ placedIn slot (rest.take i) := by
  rw [List.take_succ_cons, placedIn, List.map_cons, List.append_cons, placedIn]

/-- In this course an attestation is reached that has not been included before and that earns
    weights which do not fit. -/
def Overweight (limits : Limits) (chain : Chain) (slot : Slot) (past : List (Origin × Attestation))
    (seen : Duplicates) (list : List (Attestation × Nat)) (memory : Memory) (turns : List Turn) :
    Prop :=
  ∃ i x after,
    ((comeTo limits chain slot i seen list).resume memory).Course turns (.ok (some x), after) ∧
    (∀ y ∈ past ++ placedIn slot (list.take i), y.2.identityRoot ≠ x.1.identityRoot) ∧
    UInt64.size ≤ totalOf (chain.weights.earned x.2.flags)

section Step

variable {index : Nat} {rest : List (Attestation × Nat)}

theorem course_comeTo_zero {x : Attestation × Classification} {after : Memory} :
    ((comeTo limits chain slot 0 seen ((a, index) :: rest)).resume memory).Course turns
        (.ok (some x), after) ↔
      ∃ y, ((judged limits chain slot a index).resume memory).Course turns (.ok y, after) ∧
        x = (a, y.2) := by
  rw [comeTo]
  refine course_bind_pure_ok.trans (exists_congr fun y => and_congr_right fun _ => ?_)
  exact Option.some_inj

theorem not_overweight_nil : ¬ Overweight limits chain slot past seen [] memory turns := by
  rintro ⟨i, x, after, hx, -⟩
  rw [comeTo] at hx
  cases (course_pure.1 hx).2.1

/-- An attestation that has been included before is passed over. -/
theorem overweight_known (hs : Noted past seen) (ho : (seen.origin? a.identityRoot).isSome) :
    Overweight limits chain slot past seen ((a, index) :: rest) memory turns ↔
      Overweight limits chain slot (past ++ [(⟨slot, index⟩, a)]) seen rest memory turns := by
  obtain ⟨origin, hsome⟩ := Option.isSome_iff_exists.1 ho
  rw [hs, isSome_firstPlace?] at ho
  constructor
  · rintro ⟨_ | i, x, after, hx, hn, hw⟩
    · obtain ⟨y, -, rfl⟩ := course_comeTo_zero.1 hx
      obtain ⟨z, hz, heq⟩ := ho
      exact absurd heq (hn z (List.mem_append_left _ hz))
    · simp only [comeTo, hsome] at hx
      rw [append_placedIn_take] at hn
      exact ⟨i, x, after, hx, hn, hw⟩
  · rintro ⟨i, x, after, hx, hn, hw⟩
    refine ⟨i + 1, x, after, ?_, ?_, hw⟩
    · simp only [comeTo, hsome]
      exact hx
    · rwa [append_placedIn_take]

/-- A new attestation is weighed, and if its weights fit, the others follow. -/
theorem overweight_new (hs : Noted past seen) (ho : seen.origin? a.identityRoot = none) :
    Overweight limits chain slot past seen ((a, index) :: rest) memory turns ↔
      (∃ y after, ((judged limits chain slot a index).resume memory).Course turns (.ok y, after) ∧
        UInt64.size ≤ totalOf (chain.weights.earned y.2.flags)) ∨
      ∃ first later y between,
        ((row limits chain slot (seen.record a.identityRoot ⟨slot, index⟩) a index).resume
          memory).Course first (.ok y, between) ∧
        Overweight limits chain slot (past ++ [(⟨slot, index⟩, a)]) y.2 rest between later ∧
        turns = first ++ later := by
  have hnew : ∀ z ∈ past, z.2.identityRoot ≠ a.identityRoot := by
    intro z hz heq
    have hsome := isSome_firstPlace?.2 ⟨z, hz, heq⟩
    rw [← hs, ho] at hsome
    cases hsome
  constructor
  · rintro ⟨_ | i, x, after, hx, hn, hw⟩
    · obtain ⟨y, hy, rfl⟩ := course_comeTo_zero.1 hx
      exact .inl ⟨y, after, hy, hw⟩
    · simp only [comeTo, ho] at hx
      rw [append_placedIn_take] at hn
      obtain ⟨first, later, y, between, hrow, hrest, rfl⟩ := course_bind_ok.1 hx
      exact .inr ⟨first, later, y, between, hrow, ⟨i, x, after, hrest, hn, hw⟩, rfl⟩
  · rintro (⟨y, after, hy, hw⟩ | ⟨first, later, y, between, hrow, ⟨i, x, after, hx, hn, hw⟩, rfl⟩)
    · refine ⟨0, (a, y.2), after, course_comeTo_zero.2 ⟨y, hy, rfl⟩, ?_, hw⟩
      rwa [List.take_zero, placedIn, List.map_nil, List.append_nil]
    · refine ⟨i + 1, x, after, ?_, ?_, hw⟩
      · simp only [comeTo, ho]
        exact course_bind_ok.2 ⟨first, later, y, between, hrow, hx, rfl⟩
      · rwa [append_placedIn_take]

end Step

/-- Rows overflow exactly if a new attestation is reached whose weights do not fit. -/
theorem overflows_rows_iff :
    ∀ {list : List (Attestation × Nat)} {past : List (Origin × Attestation)} {seen : Duplicates}
      {memory : Memory} {turns : List Turn}, Noted past seen →
      (Overflows (rows limits chain slot seen list) memory turns ↔
        Overweight limits chain slot past seen list memory turns)
  | [], past, seen, memory, turns, _ =>
    iff_of_false ((Fits.pure []).fits memory turns) not_overweight_nil
  | (a, index) :: rest, past, seen, memory, turns, hs => by
    cases ho : seen.origin? a.identityRoot with
    | some origin =>
      have hsome := Option.isSome_of_eq_some ho
      rw [overweight_known hs hsome, ← overflows_rows_iff (hs.known hsome)]
      simp only [rows, ho]
      exact Fits.overflows_bind_iff_left fun _ => .pure _
    | none =>
      rw [overweight_new hs ho]
      simp only [rows, ho]
      refine overflows_bind_iff.trans (or_congr overflows_row_iff ?_)
      refine exists_congr fun first => exists_congr fun later => exists_congr fun y =>
        exists_congr fun between => and_congr_right fun hrow => and_congr_left' ?_
      obtain ⟨voted, validators, hy⟩ := ensures_row.ensures hrow
      have hnoted : Noted (past ++ [(⟨slot, index⟩, a)]) y.2 := hy ▸ hs.record.creditAll
      rw [← overflows_rows_iff hnoted]
      exact Fits.overflows_bind_iff_left fun _ => .pure _

/-! ## The analysis of a block -/

/-- What a run has found out when it comes to an attestation of the block and has judged it. -/
structure Reached where
  block : Block
  ancestors : List Block
  attestation : Attestation
  classification : Classification

/-- Runs up to the attestation at a place in the block, if there is one, and judges it, be it new or
    not. -/
def reach (limits : Limits) (chain : Chain) (available : List Capability) (id : BlockId) (i : Nat) :
    Survey (Option Reached) := do
  let x ← prepare limits chain available id
  let reached? ← comeTo limits chain x.block.slot i x.seen x.block.attestations.zipIdx
  return reached?.map fun (attestation, classification) =>
    ⟨x.block, x.ancestors, attestation, classification⟩

theorem course_reach {i : Nat} {y : Reached} :
    (reach limits chain available id i).inquiry.Course turns (.ok (some y)) ↔
      ∃ first later x between z after,
        ((prepare limits chain available id).resume .empty).Course first (.ok x, between) ∧
        ((comeTo limits chain x.block.slot i x.seen x.block.attestations.zipIdx).resume
          between).Course later (.ok (some z), after) ∧
        turns = first ++ later ∧ y = ⟨x.block, x.ancestors, z.1, z.2⟩ := by
  simp only [reach, course_inquiry, @course_bind_ok _ _ (prepare limits chain available id),
    course_bind_pure_ok]
  constructor
  · rintro ⟨after, first, later, x, between, hx, ⟨z?, hz, hy⟩, rfl⟩
    cases z? with
    | none => cases hy
    | some z => exact ⟨first, later, x, between, z, after, hx, hz, rfl, Option.some.inj hy⟩
  · rintro ⟨first, later, x, between, z, after, hx, hz, rfl, rfl⟩
    exact ⟨after, first, later, x, between, hx, ⟨some z, hz, rfl⟩, rfl⟩

/-- A run overflows exactly if it reaches an attestation that is none of those before it, and that
    earns weights which do not fit. -/
theorem course_overflow_iff :
    (run limits chain available id).inquiry.Course turns (.error .overflow) ↔
      ∃ i x, (reach limits chain available id i).inquiry.Course turns (.ok (some x)) ∧
        (∀ y ∈ before x.ancestors x.block i, y.2.identityRoot ≠ x.attestation.identityRoot) ∧
        UInt64.size ≤ totalOf (chain.weights.earned x.classification.flags) := by
  rw [overflows_inquiry_iff, run_eq, fits_prepare.overflows_bind_iff]
  simp only [course_reach, before, Block.placed, ← List.map_take]
  constructor
  · rintro ⟨first, later, x, between, hx, hrows, rfl⟩
    rw [Fits.overflows_bind_iff_left fun _ => .pure _,
      overflows_rows_iff (ensures_prepare.ensures hx)] at hrows
    obtain ⟨i, z, after, hz, hn, hw⟩ := hrows
    exact ⟨i, _, ⟨first, later, x, between, z, after, hx, hz, rfl, rfl⟩, hn, hw⟩
  · rintro ⟨i, _, ⟨first, later, x, between, z, after, hx, hz, rfl, rfl⟩, hn, hw⟩
    refine ⟨first, later, x, between, hx, ?_, rfl⟩
    rw [Fits.overflows_bind_iff_left fun _ => .pure _,
      overflows_rows_iff (ensures_prepare.ensures hx)]
    exact ⟨i, z, after, hz, hn, hw⟩

end BeaconDuties.BlockSurvey
