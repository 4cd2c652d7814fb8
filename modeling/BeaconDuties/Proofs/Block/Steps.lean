import BeaconDuties.Proofs.Block.Lineage
import BeaconDuties.Proofs.Report.Parts

/-!
The steps of a block's analysis.

Attestations come with their places (`Block.placed`).

* `BlockSurvey.Indexed`: attestations of ancestors have been taken down, one after another.
* `BlockSurvey.Rows`: attestations of the block have been judged, one after another.
* `BlockSurvey.Makes`: both have been done for a block and its ancestors. A run that succeeds has
  done so (`BlockSurvey.exists_makes`).
-/

namespace BeaconDuties

open Survey

/-- The attestations of a block with their places. -/
def Block.placed (block : Block) : List (Origin × Attestation) :=
  block.attestations.zipIdx.map fun x => (⟨block.slot, x.2⟩, x.1)

theorem Block.map_snd_placed (block : Block) : block.placed.map Prod.snd = block.attestations := by
  rw [placed, List.map_map]
  exact List.zipIdx_map_fst 0 block.attestations

theorem Block.mem_of_mem_placed {block : Block} {x : Origin × Attestation} (h : x ∈ block.placed) :
    x.2 ∈ block.attestations := block.map_snd_placed ▸ List.mem_map_of_mem h

namespace BlockSurvey

variable {node : Answers} {clock : Clock} {limits : Limits} {chain : Chain} {oldest slot : Slot}
  {seen : Duplicates} {a : Attestation}

/-! ## Taking down ancestors -/

/-- Attestations have been taken down, and their votes for slots from `oldest` on. -/
inductive Indexed (node : Answers) (clock : Clock) (oldest : Slot) :
    Duplicates → List (Origin × Attestation) → Duplicates → Prop where
  | nil {seen : Duplicates} : Indexed node clock oldest seen [] seen
  | old {seen after : Duplicates} {origin : Origin} {a : Attestation}
      {rest : List (Origin × Attestation)} (older : a.data.slot < oldest)
      (further : Indexed node clock oldest (seen.record a.identityRoot origin) rest after) :
      Indexed node clock oldest seen ((origin, a) :: rest) after
  | credited {seen after : Duplicates} {origin : Origin} {a : Attestation} {table : CommitteeTable}
      {members : List Member} {rest : List (Origin × Attestation)}
      (committees : node.HasCommittees clock (clock.epochOf a.data.slot) table)
      (attesting : table.attesting a = .ok members)
      (further : Indexed node clock oldest ((seen.record a.identityRoot origin).creditAll
        a.data.slot (members.map (·.validator))).2 rest after) :
      Indexed node clock oldest seen ((origin, a) :: rest) after

theorem Indexed.append {seen between after : Duplicates} {xs ys : List (Origin × Attestation)}
    (hx : Indexed node clock oldest seen xs between)
    (hy : Indexed node clock oldest between ys after) :
    Indexed node clock oldest seen (xs ++ ys) after := by
  induction hx with
  | nil => exact hy
  | old older _ ih => exact .old older (ih hy)
  | credited committees attesting _ ih => exact .credited committees attesting (ih hy)

theorem steady_indexAttestations {list : List (Attestation × Nat)} {seen : Duplicates} :
    Steady node chain.clock (indexAttestations chain oldest slot seen list) :=
  .of_composed composed_indexAttestations

theorem steady_index {blocks : List Block} {seen : Duplicates} :
    Steady node chain.clock (index chain oldest seen blocks) :=
  .of_composed composed_index

theorem indexed_of_indexAttestations :
    ∀ {list : List (Attestation × Nat)} {seen after : Duplicates},
      Finds node chain.clock (indexAttestations chain oldest slot seen list) after →
        Indexed node chain.clock oldest seen (list.map fun x => (⟨slot, x.2⟩, x.1)) after
  | [], seen, after, h => by
    obtain rfl := finds_pure.1 h
    exact .nil
  | (a, index) :: rest, seen, after, h => by
    rw [indexAttestations] at h
    dsimp only at h
    split at h
    · next older => exact .old older (indexed_of_indexAttestations h)
    · obtain ⟨table, ht, h⟩ := Finds.bind h .committees
      obtain ⟨members, hm, h⟩ := Finds.bind h .attesting
      rw [attesting, answer_lift_eq_ok] at hm
      exact .credited (answer_committees_eq_ok.1 ht) hm (indexed_of_indexAttestations h)

theorem indexed_of_index : ∀ {blocks : List Block} {seen after : Duplicates},
    Finds node chain.clock (index chain oldest seen blocks) after →
      Indexed node chain.clock oldest seen (blocks.flatMap Block.placed) after
  | [], seen, after, h => by
    obtain rfl := finds_pure.1 h
    exact .nil
  | block :: rest, seen, after, h => by
    obtain ⟨between, hb, h⟩ := Finds.bind h steady_indexAttestations
    exact (indexed_of_indexAttestations (finds_of_answer hb : Finds node chain.clock _ _)).append
      (indexed_of_index h)

/-! ## Judging attestations -/

/-- What the row of an attestation tells that has not been included before. Its votes are credited
    after it. -/
structure Fresh (node : Answers) (clock : Clock) (seen : Duplicates) (a : Attestation)
    (table : CommitteeTable) (members : List Member) (row : AttestationAnalysis) : Prop where
  committees : node.HasCommittees clock (clock.epochOf a.data.slot) table
  attesting : table.attesting a = .ok members
  duplicate : row.duplicate = none
  newVotes : row.newVotes = (seen.creditAll a.data.slot (members.map (·.validator))).1
  votes : row.votes = members.length
  possibleVotes : row.possibleVotes = a.bits.length

/-- Attestations of a block have been judged. -/
inductive Rows (node : Answers) (clock : Clock) :
    Duplicates → List (Origin × Attestation) → List AttestationAnalysis → Prop where
  | nil {seen : Duplicates} : Rows node clock seen [] []
  | known {seen : Duplicates} {place origin : Origin} {a : Attestation}
      {rest : List (Origin × Attestation)} {rows : List AttestationAnalysis}
      (known : seen.origin? a.identityRoot = some origin)
      (further : Rows node clock seen rest rows) :
      Rows node clock seen ((place, a) :: rest) (duplicateRow place.block a.data origin :: rows)
  | fresh {seen : Duplicates} {place : Origin} {a : Attestation} {table : CommitteeTable}
      {members : List Member} {row : AttestationAnalysis} {rest : List (Origin × Attestation)}
      {rows : List AttestationAnalysis} (unknown : seen.origin? a.identityRoot = none)
      (told : Fresh node clock (seen.record a.identityRoot place) a table members row)
      (further : Rows node clock ((seen.record a.identityRoot place).creditAll a.data.slot
        (members.map (·.validator))).2 rest rows) :
      Rows node clock seen ((place, a) :: rest) (row :: rows)

theorem steady_row {index : Nat} :
    Steady node chain.clock (row limits chain slot seen a index) :=
  .of_composed composed_row

theorem steady_rows {list : List (Attestation × Nat)} {seen : Duplicates} :
    Steady node chain.clock (rows limits chain slot seen list) :=
  .of_composed composed_rows

theorem fresh_of_row {index : Nat} {row : AttestationAnalysis} {after : Duplicates}
    (h : Finds node chain.clock (BlockSurvey.row limits chain slot seen a index) (row, after)) :
    ∃ table members, Fresh node chain.clock seen a table members row ∧
      after = (seen.creditAll a.data.slot (members.map (·.validator))).2 := by
  obtain ⟨table, ht, h⟩ := Finds.bind h .committees
  obtain ⟨members, hm, h⟩ := Finds.bind h (.during _ .attesting)
  rw [answer_during_eq_ok, attesting, answer_lift_eq_ok] at hm
  obtain ⟨classification, -, h⟩ := Finds.bind h .classify
  obtain ⟨score, -, h⟩ := Finds.bind h (.total _)
  cases finds_pure.1 h
  exact ⟨table, members, ⟨answer_committees_eq_ok.1 ht, hm, rfl, rfl, rfl, rfl⟩, rfl⟩

theorem rows_of_finds :
    ∀ {list : List (Attestation × Nat)} {seen : Duplicates} {found : List AttestationAnalysis},
      Finds node chain.clock (rows limits chain slot seen list) found →
        Rows node chain.clock seen (list.map fun x => (⟨slot, x.2⟩, x.1)) found
  | [], seen, found, h => by
    obtain rfl := finds_pure.1 h
    exact .nil
  | (a, index) :: rest, seen, found, h => by
    rw [rows] at h
    dsimp only at h
    cases ho : seen.origin? a.identityRoot with
    | some origin =>
      rw [ho] at h
      obtain ⟨further, hf, h⟩ := Finds.bind h steady_rows
      obtain rfl := finds_pure.1 h
      exact .known ho (rows_of_finds (finds_of_answer hf : Finds node chain.clock _ _))
    | none =>
      rw [ho] at h
      obtain ⟨⟨row, after⟩, hr, h⟩ := Finds.bind h steady_row
      obtain ⟨further, hf, h⟩ := Finds.bind h steady_rows
      obtain rfl := finds_pure.1 h
      obtain ⟨table, members, told, rfl⟩ :=
        fresh_of_row (finds_of_answer hr : Finds node chain.clock _ _)
      exact .fresh ho told (rows_of_finds (finds_of_answer hf : Finds node chain.clock _ _))

/-! ## The analysis of a block -/

/-- The parts of the analysis of a block. -/
structure Makes (node : Answers) (clock : Clock) (block : Block) (ancestors : List Block)
    (seen : Duplicates) (analysis : BlockAnalysis) : Prop where
  lineage : node.Ancestors (BlockSurvey.oldest block) block ancestors
  indexed : Indexed node clock (BlockSurvey.oldest block) .empty
    (ancestors.reverse.flatMap Block.placed) seen
  rows : Rows node clock seen block.placed analysis.attestations

theorem exists_makes {available : List Capability} {id : BlockId} {analysis : BlockAnalysis}
    (h : answer node (run limits chain available id) = .ok analysis) :
    ∃ block ancestors seen, node (.block id) = .ok (some block) ∧
      Makes node chain.clock block ancestors seen analysis := by
  obtain ⟨-, -, h⟩ := Finds.bind (finds_of_answer h : Finds node chain.clock _ _) (.lift _ _)
  obtain ⟨block?, hb, h⟩ := Finds.bind h (.during _ (.ask _))
  have hb := answer_ask_eq_ok.1 (answer_during_eq_ok.1 hb)
  cases block? with
  | none => simp at h
  | some block =>
    obtain ⟨ancestors, ha, h⟩ := Finds.bind h .ancestors
    obtain ⟨seen, hi, h⟩ := Finds.bind h steady_index
    obtain ⟨rows, hr, h⟩ := Finds.bind h steady_rows
    obtain rfl := finds_pure.1 h
    exact ⟨block, ancestors, seen, hb,
      ancestors_of_finds (finds_of_answer ha : Finds node chain.clock _ _),
      indexed_of_index (finds_of_answer hi : Finds node chain.clock _ _),
      rows_of_finds (finds_of_answer hr : Finds node chain.clock _ _)⟩

end BlockSurvey

end BeaconDuties
