import BeaconDuties.Proofs.Block.Votes
import BeaconDuties.Proofs.Lists
import BeaconDuties.Proofs.Survey.Ledger

/-!
Every vote on a chain is new once.

`Answers.firstVotes` are the votes that an attestation brings to a chain. Each vote on the chain is
brought by one attestation (`Answers.existsUnique_firstVotes`). The rows of the analyses of all
blocks count these votes, so that together they count each vote on the chain once
(`BlockSurvey.countedOnce_of_run`).
-/

namespace BeaconDuties

open Survey

namespace Answers

variable {node : Answers} {clock : Clock} {as : List Attestation} {blocks : List Block}
  {ballot : Ballot}

/-- The votes that an attestation brings to a chain: those that neither an older block nor an
    attestation before it in its block has. Its place is that of its block, counted from the newest,
    and its own place in the block. -/
def firstVotes (node : Answers) (clock : Clock) (blocks : List Block) (place : Nat × Nat) :
    Finset Ballot :=
  match blocks[place.1]? with
  | none => ∅
  | some block =>
    match block.attestations[place.2]? with
    | none => ∅
    | some a => node.votesOf clock [a] \
        (node.votesOn clock (blocks.drop (place.1 + 1)) ∪
          node.votesOf clock (block.attestations.take place.2))

theorem mem_firstVotes {place : Nat × Nat} :
    ballot ∈ node.firstVotes clock blocks place ↔
      ∃ block a, blocks[place.1]? = some block ∧ block.attestations[place.2]? = some a ∧
        ballot ∈ node.votesOf clock [a] ∧
        ballot ∉ node.votesOn clock (blocks.drop (place.1 + 1)) ∧
        ballot ∉ node.votesOf clock (block.attestations.take place.2) := by
  unfold firstVotes
  cases hb : blocks[place.1]? with
  | none => simp
  | some block =>
    cases ha : block.attestations[place.2]? with
    | none => simp [ha]
    | some a => simp [ha]

theorem exists_first (h : ballot ∈ node.votesOf clock as) :
    ∃ j a, as[j]? = some a ∧ ballot ∈ node.votesOf clock [a] ∧
      ballot ∉ node.votesOf clock (as.take j) := by
  induction as with
  | nil => simp at h
  | cons a rest ih =>
    by_cases ha : ballot ∈ node.votesOf clock [a]
    · exact ⟨0, a, rfl, ha, by simp⟩
    · rw [votesOf_cons, Finset.mem_union] at h
      obtain ⟨j, b, hb, hv, hn⟩ := ih (h.resolve_left ha)
      refine ⟨j + 1, b, hb, hv, ?_⟩
      rw [List.take_succ_cons, votesOf_cons, Finset.mem_union]
      exact fun h => h.elim ha hn

theorem exists_mem_firstVotes : ∀ {blocks : List Block}, ballot ∈ node.votesOn clock blocks →
    ∃ place, ballot ∈ node.firstVotes clock blocks place
  | [], h => by simp [mem_votesOn] at h
  | block :: older, h => by
    by_cases ho : ballot ∈ node.votesOn clock older
    · obtain ⟨⟨i, j⟩, hp⟩ := exists_mem_firstVotes ho
      obtain ⟨b, a, hb, ha, hv, hn, ht⟩ := mem_firstVotes.1 hp
      exact ⟨⟨i + 1, j⟩, mem_firstVotes.2 ⟨b, a, hb, ha, hv, hn, ht⟩⟩
    · rw [votesOn_cons, Finset.mem_union] at h
      obtain ⟨j, a, ha, hv, ht⟩ := exists_first (h.resolve_right ho)
      exact ⟨⟨0, j⟩, mem_firstVotes.2 ⟨block, a, rfl, ha, hv, ho, ht⟩⟩

/-- A vote is not brought by an attestation if one in an older block, or before it in its block,
    brings it. -/
theorem not_lt_of_mem_firstVotes {place place' : Nat × Nat}
    (h : ballot ∈ node.firstVotes clock blocks place)
    (h' : ballot ∈ node.firstVotes clock blocks place') :
    ¬ place.1 < place'.1 ∧ (place.1 = place'.1 → ¬ place'.2 < place.2) := by
  obtain ⟨block, a, hb, ha, hv, hn, ht⟩ := mem_firstVotes.1 h
  obtain ⟨block', a', hb', ha', hv', hn', ht'⟩ := mem_firstVotes.1 h'
  refine ⟨fun hlt => hn ?_, fun heq hlt => ht ?_⟩
  · refine mem_votesOn.2 ⟨block', ?_, mem_votesOf.2 ⟨a', List.mem_of_getElem? ha', hv'⟩⟩
    refine List.mem_of_getElem? (i := place'.1 - (place.1 + 1)) ?_
    rw [List.getElem?_drop, ← hb']
    congr 1
    omega
  · rw [heq, hb'] at hb
    cases hb
    refine mem_votesOf.2 ⟨a', List.mem_of_getElem? (i := place'.2) ?_, hv'⟩
    rw [List.getElem?_take_of_lt hlt, ha']

/-- Each vote on a chain is brought by one attestation. -/
theorem existsUnique_firstVotes (h : ballot ∈ node.votesOn clock blocks) :
    ∃! place, ballot ∈ node.firstVotes clock blocks place := by
  obtain ⟨place, hp⟩ := exists_mem_firstVotes h
  refine ⟨place, hp, fun place' hp' => ?_⟩
  obtain ⟨h1, h2⟩ := not_lt_of_mem_firstVotes hp hp'
  obtain ⟨h3, h4⟩ := not_lt_of_mem_firstVotes hp' hp
  ext <;> omega

end Answers

namespace BlockSurvey

variable {node : Answers} {chain : Chain}

/-- The analysis of a block, in a run that has found the block by whatever name. -/
def Analyzed (node : Answers) (chain : Chain) (block : Block) (analysis : BlockAnalysis) : Prop :=
  ∃ available limits id, node (.block id) = .ok (some block) ∧
    answer node (run limits chain available id) = .ok analysis

/-- The analyses of all blocks of a chain count each vote on the chain once. -/
structure CountedOnce (node : Answers) (clock : Clock) (blocks : List Block)
    (analyses : List BlockAnalysis) : Prop where
  /-- A row counts the votes that its attestation brings to the chain. -/
  row : ∀ {i analysis j row}, analyses[i]? = some analysis → analysis.attestations[j]? = some row →
    row.newVotes = (node.firstVotes clock blocks (i, j)).card
  /-- There is one row that counts a vote. -/
  once : ∀ ballot ∈ node.votesOn clock blocks, ∃! place : Nat × Nat,
    (∃ analysis row, analyses[place.1]? = some analysis ∧
      analysis.attestations[place.2]? = some row) ∧ ballot ∈ node.firstVotes clock blocks place
  total : (analyses.map fun x => (x.attestations.map (·.newVotes)).sum).sum =
    (node.votesOn clock blocks).card

theorem getElem?_newVotes {clock : Clock} :
    ∀ {as : List Attestation} {old : Finset Ballot} {j : Nat},
    (newVotes node clock old as)[j]? =
      as[j]?.map fun a => node.votesOf clock [a] \ (old ∪ node.votesOf clock (as.take j))
  | [], _, _ => rfl
  | a :: _, _, 0 => by simp [newVotes]
  | a :: rest, old, j + 1 => by
    have hc : node.votesOf clock (a :: rest.take j) = _ := Answers.votesOf_cons
    rw [newVotes, List.getElem?_cons_succ, getElem?_newVotes, List.getElem?_cons_succ,
      List.take_succ_cons, hc, Finset.union_assoc]

/-- The new votes for some slots. -/
theorem sum_card_newVotes {clock : Clock} {p : Slot → Bool} :
    ∀ {as : List Attestation} {old : Finset Ballot},
      (((as.zip (newVotes node clock old as)).filter fun x => p x.1.data.slot).map
        (·.2.card)).sum = (node.votesOf clock (as.filter (p ·.data.slot)) \ old).card
  | [], _ => by simp
  | a :: rest, old => by
    rw [newVotes, List.zip_cons_cons, List.filter_cons, List.filter_cons]
    by_cases hp : p a.data.slot
    · have hc : node.votesOf clock (a :: rest.filter (p ·.data.slot)) \ old =
          (node.votesOf clock [a] \ old) ∪
            (node.votesOf clock (rest.filter (p ·.data.slot)) \
              (old ∪ node.votesOf clock [a])) := by
        rw [Answers.votesOf_cons]
        ext ballot
        simp only [Finset.mem_union, Finset.mem_sdiff]
        tauto
      have hd : Disjoint (node.votesOf clock [a] \ old)
          (node.votesOf clock (rest.filter (p ·.data.slot)) \ (old ∪ node.votesOf clock [a])) :=
        Finset.disjoint_left.2 fun ballot ha hr => (Finset.mem_sdiff.1 hr).2
          (Finset.mem_union_right _ (Finset.mem_sdiff.1 ha).1)
      rw [if_pos hp, if_pos hp, List.map_cons, List.sum_cons, sum_card_newVotes, hc,
        Finset.card_union_of_disjoint hd]
    · -- Votes for other slots are different votes.
      have hn : ∀ ballot ∈ node.votesOf clock (rest.filter (p ·.data.slot)),
          ballot ∉ node.votesOf clock [a] := by
        intro ballot hr ha
        obtain ⟨b, hb, hv⟩ := Answers.mem_votesOf.1 hr
        have hs := (Answers.slot_of_mem_votesOf hv).symm.trans (Answers.slot_of_mem_votesOf ha)
        exact hp (hs ▸ (List.mem_filter.1 hb).2)
      rw [if_neg hp, if_neg hp, sum_card_newVotes]
      congr 1
      ext ballot
      simp only [Finset.mem_sdiff, Finset.mem_union, not_or]
      exact ⟨fun h => ⟨h.1, h.2.1⟩, fun h => ⟨h.1, h.2, hn ballot h.1⟩⟩

theorem length_newVotes {clock : Clock} : ∀ {as : List Attestation} {old : Finset Ballot},
    (newVotes node clock old as).length = as.length
  | [], _ => rfl
  | _ :: _, _ => congrArg (· + 1) length_newVotes

/-- Together the new votes of attestations are those that are not among the given ones. -/
theorem sum_map_card_newVotes {clock : Clock} {as : List Attestation} {old : Finset Ballot} :
    ((newVotes node clock old as).map Finset.card).sum = (node.votesOf clock as \ old).card := by
  have hn : _ = (node.votesOf clock (as.filter fun _ => true) \ old).card :=
    sum_card_newVotes (p := fun _ => true)
  rw [List.filter_true, List.filter_true] at hn
  rw [← hn]
  change _ = ((as.zip (newVotes node clock old as)).map (Finset.card ∘ Prod.snd)).sum
  rw [← List.map_map, List.map_snd_zip length_newVotes.le]

variable {blocks : List Block} {analyses : List BlockAnalysis}

/-- Together the rows of all blocks count each vote on the chain once. -/
theorem sum_newVotes : ∀ {blocks : List Block} {analyses : List BlockAnalysis},
    (blocks ≠ [] → WellFormed node blocks) → List.Forall₂ (Analyzed node chain) blocks analyses →
      (analyses.map fun x => (x.attestations.map (·.newVotes)).sum).sum =
        (node.votesOn chain.clock blocks).card
  | [], [], _, .nil => rfl
  | block :: older, analysis :: analyses, hw, .cons ⟨_, _, _, hid, h⟩ hs => by
    have hw := hw (List.cons_ne_nil _ _)
    rw [List.map_cons, List.sum_cons, newVotes_of_run hw hid h, sum_map_card_newVotes,
      sum_newVotes hw.tail hs, Answers.votesOn_cons, ← Finset.card_sdiff_add_card]

/-- The rows of an analysis count the votes that the attestations of its block bring to the
    chain. -/
theorem newVotes_of_forall₂ (hw : WellFormed node blocks)
    (h : List.Forall₂ (Analyzed node chain) blocks analyses) {i : Nat} {analysis : BlockAnalysis}
    (hi : analyses[i]? = some analysis) :
    ∃ block, blocks[i]? = some block ∧ ∀ j,
      analysis.attestations[j]?.map (·.newVotes) =
        block.attestations[j]?.map fun _ => (node.firstVotes chain.clock blocks (i, j)).card := by
  obtain ⟨block, hb, _, _, _, hid, hrun⟩ := Lists.exists_of_rel (Lists.getElem?_of_forall₂ h i) hi
  refine ⟨block, hb, fun j => ?_⟩
  have hsplit : blocks = blocks.take i ++ block :: blocks.drop (i + 1) := by
    obtain ⟨hlt, rfl⟩ := List.getElem?_eq_some_iff.1 hb
    rw [List.getElem_cons_drop, List.take_append_drop]
  have hn := newVotes_of_run ((hsplit ▸ hw).of_append (blocks.take i)) hid hrun
  have hj := congrArg (·[j]?) hn
  simp only [List.getElem?_map, getElem?_newVotes, Option.map_map] at hj
  rw [hj]
  cases ha : block.attestations[j]? with
  | none => rfl
  | some a => simp [Answers.firstVotes, hb, ha]

/-- **Every vote on a chain is new once.** If the analyses of all blocks of a chain succeed, each
    vote on the chain is counted by one row of one of them: that of the first attestation with the
    vote in the oldest block that has it. -/
theorem countedOnce_of_run (hw : WellFormed node blocks)
    (h : List.Forall₂ (Analyzed node chain) blocks analyses) :
    CountedOnce node chain.clock blocks analyses := by
  refine ⟨fun {i analysis j row} hi hj => ?_, fun ballot hballot => ?_,
    sum_newVotes (fun _ => hw) h⟩
  · obtain ⟨block, -, hn⟩ := newVotes_of_forall₂ hw h hi
    have hn := hn j
    rw [hj, Option.map_some] at hn
    obtain ⟨a, -, ha⟩ := Option.map_eq_some_iff.1 hn.symm
    exact ha.symm
  · obtain ⟨⟨i, j⟩, hp, hu⟩ := Answers.existsUnique_firstVotes hballot
    refine ⟨(i, j), ⟨?_, hp⟩, fun place hplace => hu place hplace.2⟩
    obtain ⟨block, a, hb, ha, -⟩ := Answers.mem_firstVotes.1 hp
    have hlt : i < analyses.length := h.length_eq ▸ (List.getElem?_eq_some_iff.1 hb).1
    obtain ⟨block', hb', hn⟩ := newVotes_of_forall₂ hw h (List.getElem?_eq_getElem hlt)
    obtain rfl : block' = block := Option.some.inj (hb'.symm.trans hb)
    have hn := hn j
    rw [ha, Option.map_some] at hn
    obtain ⟨row, hr, -⟩ := Option.map_eq_some_iff.1 hn
    exact ⟨analyses[i], row, List.getElem?_eq_getElem hlt, hr⟩

theorem exists_analyses_devnet :
    ∃ analyses, List.Forall₂ (Analyzed Ledger.devnet.answers Ledger.devnetChain) Ledger.devnet.chain
      analyses := by
  have hrun : ∀ block ∈ Ledger.devnet.chain,
      Ledger.devnet.answers (.block (.slot block.slot)) = .ok (some block) ∧
        (answer Ledger.devnet.answers (run .usual Ledger.devnetChain needs
          (.slot block.slot))).toOption.isSome := by decide +kernel
  refine Lists.exists_forall₂ fun block hb => ?_
  obtain ⟨hid, hsome⟩ := hrun block hb
  cases h : answer Ledger.devnet.answers (run .usual Ledger.devnetChain needs
    (.slot block.slot)) with
  | error failure => simp [h, Except.toOption] at hsome
  | ok analysis => exact ⟨analysis, _, _, _, hid, h⟩

/-- On the small chain there are three votes, some of them several times. -/
theorem countedOnce_of_run_devnet :
    ∃ analyses, CountedOnce Ledger.devnet.answers Ledger.devnetChain.clock Ledger.devnet.chain
        analyses ∧
      (analyses.map fun x => (x.attestations.map (·.newVotes)).sum).sum = 3 := by
  obtain ⟨analyses, h⟩ := exists_analyses_devnet
  have hc := countedOnce_of_run wellFormed_devnet h
  refine ⟨analyses, hc, hc.total.trans ?_⟩
  decide +kernel

end BlockSurvey

end BeaconDuties
