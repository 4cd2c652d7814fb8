import BeaconDuties.Proofs.Survey.Ledger
import BeaconDuties.Proofs.Survey.Walk
import Mathlib.Data.Set.Function

/-!
Chains of blocks, and the ancestors that are found in them.

* A `Lineage` is a chain of blocks down to slot 0, newest first, in which the node has each block's
  parent.
* `Answers.Ancestors` are the blocks that come before a block, as far as they are not older than is
  asked for. A survey finds them (`Survey.ancestors_of_finds`), and in a chain they are those before
  the block (`Answers.Ancestors.eq_takeWhile`).
-/

namespace BeaconDuties

open Survey

variable {node : Answers} {clock : Clock} {limits : Limits}

/-- A chain of blocks down to slot 0, newest first. -/
inductive Lineage (node : Answers) : List Block → Prop where
  | first {block : Block} (zero : block.slot = 0) : Lineage node [block]
  | next {block parent : Block} {older : List Block} (later : parent.slot < block.slot)
      (served : node (.block (.root block.parent)) = .ok (some parent))
      (rest : Lineage node (parent :: older)) : Lineage node (block :: parent :: older)

namespace Lineage

variable {block : Block} {older : List Block}

/-- Newer blocks are in later slots. -/
theorem pairwise : ∀ {chain : List Block}, Lineage node chain →
    chain.Pairwise fun newer older => older.slot < newer.slot
  | [_], _ => List.pairwise_singleton _ _
  | block :: parent :: older, .next later _ rest => by
    have hp := rest.pairwise
    refine List.pairwise_cons.2 ⟨fun other ho => ?_, hp⟩
    rcases List.mem_cons.1 ho with rfl | ho
    · exact later
    · exact UInt64.lt_trans ((List.pairwise_cons.1 hp).1 other ho) later

theorem eq_nil_of_slot_eq_zero (h : Lineage node (block :: older)) (zero : block.slot = 0) :
    older = [] := by
  cases h with
  | first => rfl
  | next later => simp [zero] at later

theorem tail {parent : Block} (h : Lineage node (block :: parent :: older)) :
    Lineage node (parent :: older) := by
  cases h with
  | next _ _ rest => exact rest

/-- The blocks from a block down to slot 0 are a chain of their own. -/
theorem of_append : ∀ (newer : List Block), Lineage node (newer ++ block :: older) →
    Lineage node (block :: older)
  | [], h => h
  | [_], h => h.tail
  | _ :: newest :: newer, h => of_append (newest :: newer) h.tail

end Lineage

/-- The attestations that blocks include. -/
def Block.included (blocks : List Block) : Set Attestation :=
  {a | ∃ block ∈ blocks, a ∈ block.attestations}

theorem Block.included_mono {blocks blocks' : List Block} (h : blocks ⊆ blocks') :
    included blocks ⊆ included blocks' := fun _ ⟨b, hb, ha⟩ => ⟨b, h hb, ha⟩

/-- A chain in which attestations are for slots before those of their blocks, and can be told apart
    by their roots. -/
structure WellFormed (node : Answers) (chain : List Block) : Prop where
  lineage : Lineage node chain
  earlier : ∀ block ∈ chain, ∀ a ∈ block.attestations, a.data.slot < block.slot
  roots : Set.InjOn Attestation.identityRoot {a | ∃ block ∈ chain, a ∈ block.attestations}

theorem WellFormed.of_append {older : List Block} {block : Block} (newer : List Block)
    (h : WellFormed node (newer ++ block :: older)) : WellFormed node (block :: older) where
  lineage := h.lineage.of_append newer
  earlier b hb := h.earlier b (List.mem_append_right _ hb)
  roots := h.roots.mono (Block.included_mono (List.subset_append_right newer (block :: older)))

theorem WellFormed.tail {older : List Block} {block : Block}
    (h : WellFormed node (block :: older)) (hne : older ≠ []) : WellFormed node older := by
  cases older with
  | nil => exact absurd rfl hne
  | cons parent older => exact h.of_append [block]

theorem wellFormed_devnet : WellFormed Ledger.devnet.answers Ledger.devnet.chain where
  lineage := .next (by decide) rfl (.next (by decide) rfl (.next (by decide) rfl (.first rfl)))
  earlier := by decide
  roots := by
    have h : ∀ a ∈ Ledger.devnet.chain.flatMap Block.attestations,
        ∀ b ∈ Ledger.devnet.chain.flatMap Block.attestations,
          a.identityRoot = b.identityRoot → a = b := by decide +kernel
    exact fun a ha b hb => h a (List.mem_flatMap.2 ha) b (List.mem_flatMap.2 hb)

/-! ## Ancestors -/

/-- The ancestors of a block from a slot on, newest first. The block of slot 0 has none. -/
inductive Answers.Ancestors (node : Answers) (oldest : Slot) : Block → List Block → Prop where
  | first {block : Block} (zero : block.slot = 0) : Ancestors node oldest block []
  | older {block parent : Block} (pos : block.slot ≠ 0)
      (served : node (.block (.root block.parent)) = .ok (some parent))
      (older : parent.slot < oldest) : Ancestors node oldest block []
  | next {block parent : Block} {ancestors : List Block} (pos : block.slot ≠ 0)
      (served : node (.block (.root block.parent)) = .ok (some parent))
      (within : oldest ≤ parent.slot) (rest : Ancestors node oldest parent ancestors) :
      Ancestors node oldest block (parent :: ancestors)

namespace Answers.Ancestors

variable {oldest : Slot} {block : Block} {older ancestors ancestors' : List Block}

theorem unique (h : node.Ancestors oldest block ancestors)
    (h' : node.Ancestors oldest block ancestors') : ancestors = ancestors' := by
  induction h generalizing ancestors' with
  | first zero =>
    cases h' with
    | first => rfl
    | older pos | next pos => exact absurd zero pos
  | older pos served older =>
    cases h' with
    | first zero => exact absurd zero pos
    | older => rfl
    | next _ served' within =>
      cases served.symm.trans served'
      exact absurd older (UInt64.not_lt.2 within)
  | next pos served within _ ih =>
    cases h' with
    | first zero => exact absurd zero pos
    | older _ served' older =>
      cases served.symm.trans served'
      exact absurd older (UInt64.not_lt.2 within)
    | next _ served' _ rest =>
      cases served.symm.trans served'
      rw [ih rest]

/-- Ancestors are those of a slot and a parent. -/
theorem congr {block' : Block} (h : node.Ancestors oldest block ancestors)
    (hs : block'.slot = block.slot) (hp : block'.parent = block.parent) :
    node.Ancestors oldest block' ancestors := by
  cases h with
  | first zero => exact .first (hs.trans zero)
  | older pos served older => exact .older (hs ▸ pos) (hp ▸ served) older
  | next pos served within rest => exact .next (hs ▸ pos) (hp ▸ served) within rest

/-- In a chain, the ancestors of a block are the blocks before it. -/
theorem eq_takeWhile (h : node.Ancestors oldest block ancestors) :
    ∀ {older : List Block}, Lineage node (block :: older) →
      ancestors = older.takeWhile (oldest ≤ ·.slot) := by
  induction h with
  | first zero =>
    intro older hl
    rw [hl.eq_nil_of_slot_eq_zero zero, List.takeWhile_nil]
  | older pos served hlt =>
    rintro _ (zero | ⟨-, served', -⟩)
    · exact absurd zero pos
    · cases served.symm.trans served'
      rw [List.takeWhile_cons, if_neg (by simpa using hlt)]
  | next pos served within _ ih =>
    rintro _ (zero | ⟨-, served', rest⟩)
    · exact absurd zero pos
    · cases served.symm.trans served'
      rw [List.takeWhile_cons, if_pos (by simpa using within), ih rest]

end Answers.Ancestors

/-- In a chain, the attestations of a block and its ancestors can be told apart by their roots. -/
theorem WellFormed.injOn_included {oldest : Slot} {block : Block} {older ancestors : List Block}
    (h : WellFormed node (block :: older)) (ha : node.Ancestors oldest block ancestors) :
    Set.InjOn Attestation.identityRoot (Block.included (block :: ancestors)) := by
  refine h.roots.mono (Block.included_mono (List.cons_subset_cons _ ?_))
  rw [ha.eq_takeWhile h.lineage]
  exact (List.takeWhile_prefix _).subset

namespace Survey

theorem Steady.parentBlock {root : Root} : Steady node clock (parentBlock root) :=
  .of_composed (Composed.parentBlock trivial)

theorem served_of_parentBlock (clock : Clock) {root : Root} {block : Block}
    (h : answer node (parentBlock root) = .ok block) :
    node (.block (.root root)) = .ok (some block) := by
  obtain ⟨block?, hb, h⟩ := Finds.bind (finds_of_answer h : Finds node clock _ _)
    (.during _ (.blockWith _))
  rw [answer_during_eq_ok, answer_blockWith_eq_ok] at hb
  cases block? with
  | none => simp at h
  | some block' => rw [hb, finds_pure.1 h]

theorem Steady.ancestorsWithin {start oldest : Slot} {steps : Nat} {root : Root} :
    Steady node clock (ancestorsWithin limits start oldest steps root) :=
  .of_composed (Composed.ancestorsWithin fun _ => trivial)

theorem Steady.ancestors {block : Block} {oldest : Slot} :
    Steady node clock (ancestors limits block oldest) :=
  .of_composed (Composed.ancestors fun _ => trivial)

theorem ancestors_of_ancestorsWithin {start oldest : Slot} :
    ∀ {steps : Nat} {block : Block} {found : List Block}, block.slot ≠ 0 →
      Finds node clock (ancestorsWithin limits start oldest steps block.parent) found →
        node.Ancestors oldest block found
  | 0, block, found, pos, h => by
    obtain ⟨parent, hp, h⟩ := Finds.bind h .parentBlock
    split at h
    · next hlt =>
      obtain rfl := finds_pure.1 h
      exact .older pos (served_of_parentBlock clock hp) hlt
    · simp at h
  | steps + 1, block, found, pos, h => by
    obtain ⟨parent, hp, h⟩ := Finds.bind h .parentBlock
    have served := served_of_parentBlock clock hp
    split at h
    · next hlt =>
      obtain rfl := finds_pure.1 h
      exact .older pos served hlt
    · next hle =>
      obtain ⟨-, -, h⟩ := Finds.bind h .checkTime
      split at h
      · next zero =>
        obtain rfl := finds_pure.1 h
        exact .next pos served (UInt64.not_lt.1 hle) (.first zero)
      · next pos' =>
        obtain ⟨further, hf, h⟩ := Finds.bind h .ancestorsWithin
        obtain rfl := finds_pure.1 h
        exact .next pos served (UInt64.not_lt.1 hle)
          (ancestors_of_ancestorsWithin pos' (finds_of_answer hf : Finds node clock _ _))

/-- A survey of ancestors finds them. -/
theorem ancestors_of_finds {block : Block} {oldest : Slot} {found : List Block}
    (h : Finds node clock (ancestors limits block oldest) found) :
    node.Ancestors oldest block found := by
  rw [ancestors] at h
  split at h
  · next zero =>
    obtain rfl := finds_pure.1 h
    exact .first zero
  · next pos => exact ancestors_of_ancestorsWithin pos h

end Survey

end BeaconDuties
