import BeaconDuties.Node.Request
import BeaconDuties.Survey.Chain

/-!
Nodes that serve one chain.

A `Ledger` holds the blocks of a chain and who is on duty there, and answers as a node would that
knows nothing else (`Ledger.answers`), or a sync committee besides (`Ledger.answersWithSync`).
`Ledger.devnet` is a chain of four blocks, on which theorems about surveys can be tried.
-/

namespace BeaconDuties

/-- Whether a name is that of a validator. -/
def ValidatorId.names (x : ValidatorInfo) : ValidatorId → Bool
  | index i => x.index = i
  | publicKey key => x.validator.publicKey = key

/-- A chain and who is on duty there. -/
structure Ledger where
  /-- The blocks with their roots, oldest first. -/
  blocks : List (Root × Block)
  validators : List ValidatorInfo
  committees : List Committee
  proposers : List ProposerDuty
  attesters : List AttesterDuty

namespace Ledger

/-- The answers of a node that has this chain and nothing else. -/
def answers (ledger : Ledger) : Answers
  | .block (.slot slot) => .ok ((ledger.blocks.find? (·.2.slot = slot)).map Prod.snd)
  | .block (.root root) => .ok ((ledger.blocks.find? (·.1 = root)).map Prod.snd)
  | .header (.slot slot) => .ok ((ledger.blocks.find? (·.2.slot = slot)).map fun entry =>
      ⟨slot, entry.1, entry.2.parent, true⟩)
  | .validators _ ids => .ok (ledger.validators.filter fun x => ids.isEmpty || ids.any (·.names x))
  | .proposers _ => .ok ledger.proposers
  | .attesters _ indices => .ok (ledger.attesters.filter (indices.contains ·.validator))
  | .committees _ _ => .ok ledger.committees
  | request => Answers.unsupported request

/-- The blocks, newest first. -/
def chain (ledger : Ledger) : List Block := (ledger.blocks.map Prod.snd).reverse

/-- In each slot there is one block at most, and the node finds it. -/
theorem answers_block_slot {ledger : Ledger}
    (h : ledger.blocks.Pairwise fun x y => x.2.slot ≠ y.2.slot) {slot : Slot} {block : Block} :
    ledger.answers (.block (.slot slot)) = .ok (some block) ↔
      block ∈ ledger.chain ∧ block.slot = slot := by
  have hb : ledger.answers (.block (.slot slot)) = .ok (some block) ↔
      ∃ root, ledger.blocks.find? (·.2.slot = slot) = some (root, block) := by
    simp [answers]
  rw [hb, chain, List.mem_reverse, List.mem_map]
  constructor
  · rintro ⟨root, hr⟩
    exact ⟨⟨_, List.mem_of_find?_eq_some hr, rfl⟩, by simpa using List.find?_some hr⟩
  · rintro ⟨⟨⟨root, _⟩, hm, rfl⟩, rfl⟩
    refine ⟨root, ?_⟩
    obtain ⟨before, after, hs⟩ := List.append_of_mem hm
    rw [hs] at h ⊢
    refine List.find?_eq_some_iff_append.2 ⟨decide_eq_true rfl, before, after, rfl, fun x hx => ?_⟩
    have := (List.pairwise_append.1 h).2.2 x hx _ List.mem_cons_self
    simpa using this

/-! ## A small chain -/

/-- The root of the block in a slot of the small chain. -/
def devnetRoot (slot : UInt8) : Root := .replicate 32 slot

/-- A vote for the block of slot `head` and for the first block. -/
def devnetVote (slot : Slot) (head : UInt8) (bits : List Bool) : SingleAttestation where
  bits := ⟨bits⟩
  data := ⟨slot, 0, devnetRoot head, ⟨0, devnetRoot 0⟩, ⟨0, devnetRoot 0⟩⟩
  signature := .zero 96

/-- A block of the small chain with its root. -/
def devnetBlock (slot : UInt8) (attestations : List SingleAttestation) : Root × Block :=
  (devnetRoot slot, {
    slot := slot.toUInt64
    proposer := 0
    parent := devnetRoot (slot - 1)
    state := .zero 32
    body := .phase0 attestations
    signature := .zero 96 })

/-- A chain with two slots to an epoch and a committee of two in each of them. The first attestation
    is included twice and overlaps with another one; the last validator does not vote. -/
def devnet : Ledger where
  blocks := [devnetBlock 0 [],
    devnetBlock 1 [devnetVote 0 0 [true, false]],
    devnetBlock 2 [devnetVote 0 0 [true, false], devnetVote 0 0 [true, true],
      devnetVote 1 1 [true, false]],
    devnetBlock 3 [devnetVote 1 1 [true, false]]]
  validators := [0, 1, 2, 3].map fun i =>
    ⟨i, 32, .activeOngoing, ⟨.zero 48, .zero 32, 32, false, 0, 0, 9, 9⟩⟩
  committees := [⟨0, 0, [0, 1]⟩, ⟨0, 1, [2, 3]⟩]
  proposers := [⟨.zero 48, 0, 0⟩, ⟨.zero 48, 2, 1⟩]
  attesters := [⟨.zero 48, 0, 0, 2, 1, 0, 0⟩, ⟨.zero 48, 1, 0, 2, 1, 1, 0⟩,
    ⟨.zero 48, 2, 0, 2, 1, 0, 1⟩, ⟨.zero 48, 3, 0, 2, 1, 1, 1⟩]

/-- The parameters of the small chain. -/
def devnetChain : Chain where
  clock := {
    genesisTime := 0
    slotMillis := 1000
    slotsPerEpoch := 2
    epochsPerSyncPeriod := none
    forks := ⟨farFuture, farFuture, farFuture, farFuture, farFuture, farFuture⟩
    slotMillis_pos := by decide
    slotsPerEpoch_pos := by decide }
  weights := ⟨14, 26, 14, 2, 8, 64, by decide⟩

/-! ## With a sync committee -/

/-- The answers of a node that has this chain and a sync committee. -/
def answersWithSync (ledger : Ledger) (committee : List ValidatorIndex) : Answers
  | .syncCommittee _ _ => .ok ⟨committee⟩
  | request => ledger.answers request

/-- A block since Altair, with these bits in its sync aggregate. -/
def signed (bits : List Bool) (block : Block) : Block :=
  match block.body with
  | .phase0 attestations =>
    { block with body := .altair attestations ⟨⟨bits⟩, .zero 96⟩ }
  | _ => block

/-- The small chain with these bits in all sync aggregates. -/
def devnetSigned (bits : List Bool) : Ledger :=
  { devnet with blocks := devnet.blocks.map (Prod.map id (signed bits)) }

/-- The parameters of the small chain, if it starts with Altair. -/
def devnetAltair : Chain :=
  { devnetChain with
    clock := { devnetChain.clock with forks := { devnetChain.clock.forks with altair := 0 } } }

end Ledger

end BeaconDuties
