import BeaconDuties.Proofs.Block.Chain

/-!
What the rows of a block's analysis tell.

* `BlockSurvey.before` lists the attestations that come before one of a block: those of the block's
  ancestors, oldest first, and those in the block itself.
* `BlockSurvey.Noted`: a memory of duplicates knows where attestations were first.
* `BlockSurvey.Tells`: a row counts the voters of its attestation that are new, and names the first
  occurrence of the same attestation if there is one.

All rows of an analysis tell this, and together they count the new votes of the block
(`BlockSurvey.told_of_run`).
-/

namespace BeaconDuties

open Survey

namespace BlockSurvey

variable {node : Answers} {clock : Clock} {limits : Limits} {chain : Chain}
  {seen : Duplicates} {past : List (Origin × Attestation)} {origin : Origin} {a : Attestation}

/-! ## Where attestations were first -/

/-- The place of the first attestation with a root. -/
def firstPlace? (past : List (Origin × Attestation)) (root : Root) : Option Origin :=
  (past.find? (·.2.identityRoot = root)).map Prod.fst

theorem isSome_firstPlace? {root : Root} :
    (firstPlace? past root).isSome ↔ ∃ x ∈ past, x.2.identityRoot = root := by
  simp [firstPlace?]

/-- A memory knows where attestations were first. -/
def Noted (past : List (Origin × Attestation)) (seen : Duplicates) : Prop :=
  ∀ root, seen.origin? root = firstPlace? past root

namespace Noted

theorem empty : Noted [] .empty := fun _ => Duplicates.origin?_empty

theorem record (h : Noted past seen) :
    Noted (past ++ [(origin, a)]) (seen.record a.identityRoot origin) := by
  intro root
  rw [Duplicates.origin?_record, h, h, firstPlace?, firstPlace?, firstPlace?, List.find?_append]
  by_cases hr : a.identityRoot = root
  · subst hr
    cases past.find? (·.2.identityRoot = a.identityRoot) <;> simp
  · cases past.find? (·.2.identityRoot = root) <;> simp [hr]

theorem creditAll {slot : Slot} {validators : List ValidatorIndex} (h : Noted past seen) :
    Noted past (seen.creditAll slot validators).2 := fun root =>
  Duplicates.origin?_creditAll.trans (h root)

/-- Seeing an attestation again is nothing new. -/
theorem known (h : Noted past seen) (hk : (seen.origin? a.identityRoot).isSome) :
    Noted (past ++ [(origin, a)]) seen := by
  intro root
  rw [h, firstPlace?, firstPlace?, List.find?_append]
  by_cases hr : a.identityRoot = root
  · subst hr
    rw [h, firstPlace?, Option.isSome_map] at hk
    rw [Option.or_of_isSome hk]
  · simp [hr]

theorem of_indexed {oldest : Slot} {seen after : Duplicates} {xs : List (Origin × Attestation)}
    (hi : Indexed node clock oldest seen xs after) :
    ∀ {past : List (Origin × Attestation)}, Noted past seen → Noted (past ++ xs) after := by
  induction hi with
  | nil =>
    intro past hs
    rwa [List.append_nil]
  | old _ _ ih =>
    intro past hs
    rw [List.append_cons]
    exact ih hs.record
  | credited _ _ _ ih =>
    intro past hs
    rw [List.append_cons]
    exact ih hs.record.creditAll

end Noted

/-! ## Rows -/

/-- What a row says of its attestation but for what votes are new, given what comes before it. -/
structure Counts (past : List (Origin × Attestation)) (a : Attestation)
    (row : AttestationAnalysis) : Prop where
  duplicate : row.duplicate = firstPlace? past a.identityRoot
  newVotes : row.duplicate.isSome → row.newVotes = 0
  votes : row.duplicate = none → row.votes = a.bits.bits.count true
  possibleVotes : row.duplicate = none → row.possibleVotes = a.bits.length
  newVotes_le : row.newVotes ≤ row.votes
  votes_le : row.votes ≤ row.possibleVotes

theorem Fresh.counts {table : CommitteeTable} {members : List Member} {row : AttestationAnalysis}
    (h : Fresh node clock seen a table members row) (hn : firstPlace? past a.identityRoot = none) :
    Counts past a row where
  duplicate := h.duplicate.trans hn.symm
  newVotes hd := by
    rw [h.duplicate] at hd
    cases hd
  votes _ := h.votes.trans (table.length_of_attesting h.attesting)
  possibleVotes _ := h.possibleVotes
  newVotes_le := by
    rw [h.newVotes, h.votes, Duplicates.fst_creditAll]
    refine (Finset.card_filter_le _ _).trans ((List.toFinset_card_le _).trans ?_)
    rw [List.length_map, List.length_map]
  votes_le := by
    rw [h.votes, h.possibleVotes, table.length_of_attesting h.attesting]
    exact List.count_le_length

theorem counts_of_rows {xs : List (Origin × Attestation)} {rows : List AttestationAnalysis}
    (hr : Rows node clock seen xs rows) :
    ∀ {past : List (Origin × Attestation)}, Noted past seen → ∀ i : Nat,
      Option.Rel (fun x row => Counts (past ++ xs.take i) x.2 row) xs[i]? rows[i]? := by
  induction hr with
  | nil => exact fun _ _ => .none
  | known hk _ ih =>
    intro past hs i
    cases i with
    | zero =>
      rw [List.take_zero, List.append_nil]
      exact .some ⟨hk.symm.trans (hs _), fun _ => rfl, nofun, nofun, le_rfl, le_rfl⟩
    | succ i =>
      rw [List.take_succ_cons, List.append_cons]
      exact ih (hs.known (Option.isSome_of_eq_some hk)) i
  | fresh hn told _ ih =>
    intro past hs i
    cases i with
    | zero =>
      rw [List.take_zero, List.append_nil]
      exact .some (told.counts ((hs _).symm.trans hn))
    | succ i =>
      rw [List.take_succ_cons, List.append_cons]
      exact ih hs.record.creditAll i

/-! ## The analysis of a block -/

/-- The attestations before one of a block: those of the block's ancestors, oldest first, and those
    in the block itself. -/
def before (ancestors : List Block) (block : Block) (i : Nat) : List (Origin × Attestation) :=
  ancestors.reverse.flatMap Block.placed ++ block.placed.take i

theorem map_snd_before {ancestors : List Block} {block : Block} {i : Nat} :
    (before ancestors block i).map Prod.snd =
      ancestors.reverse.flatMap Block.attestations ++ block.attestations.take i := by
  rw [before, List.map_append, List.map_flatMap, List.map_take, block.map_snd_placed]
  simp only [Block.map_snd_placed]

/-- The voters of an attestation whose votes for its slot none of the given attestations has. -/
def newVoters (node : Answers) (clock : Clock) (past : List (Origin × Attestation))
    (a : Attestation) : Finset ValidatorIndex :=
  (node.votersOf clock a).toFinset.filter fun v =>
    ∀ x ∈ past, x.2.data.slot = a.data.slot → v ∉ node.votersOf clock x.2

theorem card_newVoters :
    (newVoters node clock past a).card =
      (node.votesOf clock [a] \ node.votesOf clock (past.map Prod.snd)).card := by
  rw [← Finset.card_image_of_injective (f := Ballot.mk a.data.slot) _
    fun _ _ h => congrArg Ballot.validator h]
  congr 1
  ext ⟨slot, v⟩
  have hpast : ⟨slot, v⟩ ∈ node.votesOf clock (past.map Prod.snd) ↔ _ := Answers.mem_votesOf
  simp only [newVoters, Finset.mem_image, Finset.mem_filter, List.mem_toFinset, Ballot.mk.injEq,
    Finset.mem_sdiff, hpast, Answers.mem_votesOf_singleton, List.mem_map]
  constructor
  · rintro ⟨w, ⟨hv, hn⟩, rfl, rfl⟩
    refine ⟨⟨rfl, hv⟩, ?_⟩
    rintro ⟨b, ⟨x, hx, rfl⟩, hs, hb⟩
    exact hn x hx hs.symm hb
  · rintro ⟨⟨rfl, hv⟩, hn⟩
    refine ⟨v, ⟨hv, ?_⟩, rfl, rfl⟩
    intro x hx hs hb
    exact hn ⟨x.2, ⟨x, hx, rfl⟩, hs.symm, hb⟩

/-- What a row tells of its attestation, given what comes before it. -/
structure Tells (node : Answers) (clock : Clock) (past : List (Origin × Attestation))
    (a : Attestation) (row : AttestationAnalysis) : Prop extends Counts past a row where
  card_newVoters : row.newVotes = (newVoters node clock past a).card
  isDuplicate : row.duplicate.isSome ↔ ∃ x ∈ past, x.2.identityRoot = a.identityRoot

/-- What the analysis of a block tells. -/
structure Told (node : Answers) (chain : Chain) (block : Block) (ancestors : List Block)
    (analysis : BlockAnalysis) : Prop where
  /-- There is a row for each attestation. -/
  length : analysis.attestations.length = block.attestations.length
  row : ∀ {i a row}, block.attestations[i]? = some a → analysis.attestations[i]? = some row →
    Tells node chain.clock (before ancestors block i) a row
  total : (analysis.attestations.map (·.newVotes)).sum =
    (node.votesOf chain.clock block.attestations \ node.votesOn chain.clock ancestors).card
  /-- The order of the attestations in the block does not matter for the total. -/
  order : ∀ {block' analysis'}, block'.slot = block.slot → block'.parent = block.parent →
    block'.attestations.Perm block.attestations → Analyzed node chain block' analysis' →
      (analysis'.attestations.map (·.newVotes)).sum = (analysis.attestations.map (·.newVotes)).sum

namespace Makes

variable {block : Block} {ancestors : List Block} {analysis : BlockAnalysis}

theorem counts (m : Makes node clock block ancestors seen analysis) (i : Nat) :
    Option.Rel (fun a row => Counts (before ancestors block i) a row) block.attestations[i]?
      analysis.attestations[i]? := by
  have hr := counts_of_rows m.rows (Noted.of_indexed m.indexed .empty) i
  have ha : block.attestations[i]? = block.placed[i]?.map Prod.snd := by
    rw [← List.getElem?_map, block.map_snd_placed]
  rw [ha]
  generalize block.placed[i]? = placed?, analysis.attestations[i]? = row? at hr ⊢
  cases hr with
  | none => exact .none
  | some h => exact .some h

theorem tells (m : Makes node clock block ancestors seen analysis)
    (hroots : Set.InjOn Attestation.identityRoot (Block.included (block :: ancestors)))
    {i : Nat} {row : AttestationAnalysis} (ha : block.attestations[i]? = some a)
    (hr : analysis.attestations[i]? = some row) :
    Tells node clock (before ancestors block i) a row := by
  have hc : Counts (before ancestors block i) a row := by
    have h := m.counts i
    rw [ha, hr] at h
    cases h with
    | some h => exact h
  refine ⟨hc, ?_, ?_⟩
  · have hn := congrArg (·[i]?) (m.newVotes_eq hroots)
    simp only [List.getElem?_map, getElem?_newVotes, ha, hr, Option.map_some,
      Option.some.injEq] at hn
    rw [hn, card_newVoters, map_snd_before, Answers.votesOf_append]
    change _ = (_ \ (node.votesOn clock ancestors.reverse ∪ _)).card
    rw [Answers.votesOn_reverse]
  · rw [hc.duplicate, isSome_firstPlace?]

theorem total (m : Makes node clock block ancestors seen analysis)
    (hroots : Set.InjOn Attestation.identityRoot (Block.included (block :: ancestors))) :
    (analysis.attestations.map (·.newVotes)).sum =
      (node.votesOf clock block.attestations \ node.votesOn clock ancestors).card := by
  rw [m.newVotes_eq hroots, sum_map_card_newVotes]

/-- The order of the attestations in a block does not matter for the total. -/
theorem total_eq_of_perm (m : Makes node clock block ancestors seen analysis)
    (hroots : Set.InjOn Attestation.identityRoot (Block.included (block :: ancestors)))
    {block' : Block} {ancestors' : List Block} {seen' : Duplicates} {analysis' : BlockAnalysis}
    (m' : Makes node clock block' ancestors' seen' analysis') (hs : block'.slot = block.slot)
    (hp : block'.parent = block.parent)
    (hperm : block'.attestations.Perm block.attestations) :
    (analysis'.attestations.map (·.newVotes)).sum =
      (analysis.attestations.map (·.newVotes)).sum := by
  have hl := m'.lineage
  rw [oldest_eq_of_perm hs hperm] at hl
  obtain rfl : ancestors' = ancestors := hl.unique (m.lineage.congr hs hp)
  have hroots' : Set.InjOn Attestation.identityRoot (Block.included (block' :: ancestors')) := by
    refine hroots.mono ?_
    rintro a ⟨b, hb, ha⟩
    rcases List.mem_cons.1 hb with rfl | hb
    · exact ⟨block, List.mem_cons_self, hperm.mem_iff.1 ha⟩
    · exact ⟨b, List.mem_cons_of_mem _ hb, ha⟩
  have hv : node.votesOf clock block'.attestations = node.votesOf clock block.attestations := by
    ext ballot
    exact (Answers.mem_votesOf.trans (by simp only [hperm.mem_iff])).trans Answers.mem_votesOf.symm
  rw [m'.total hroots', m.total hroots, hv]

end Makes

/-- **Each row counts the voters of its attestation that are new.** They are those whose votes for
    its slot are in no attestation before it, of the block or of an ancestor. An attestation that
    is before itself has none, and its row names its first place. -/
theorem told_of_run {available : List Capability} {id : BlockId} {analysis : BlockAnalysis}
    (h : answer node (run limits chain available id) = .ok analysis) :
    ∃ block ancestors, node (.block id) = .ok (some block) ∧
      node.Ancestors (oldest block) block ancestors ∧
      (Set.InjOn Attestation.identityRoot (Block.included (block :: ancestors)) →
        Told node chain block ancestors analysis) := by
  obtain ⟨block, ancestors, seen, hb, m⟩ := exists_makes h
  refine ⟨block, ancestors, hb, m.lineage, fun hroots => ?_⟩
  constructor
  case length =>
    have hl := congrArg List.length (m.newVotes_eq hroots)
    rwa [List.length_map, List.length_map, length_newVotes] at hl
  case row => exact m.tells hroots
  case total => exact m.total hroots
  case order =>
    rintro block' analysis' hs hp hperm ⟨_, _, id', hid, h'⟩
    obtain ⟨_, ancestors', seen', hb', m'⟩ := exists_makes h'
    cases hid.symm.trans hb'
    exact m.total_eq_of_perm hroots m' hs hp hperm

/-- In the block of slot 2 of the small chain, the first attestation has been included before, and
    the second one overlaps with it. -/
theorem told_of_run_devnet :
    ∃ analysis block ancestors,
      Told Ledger.devnet.answers Ledger.devnetChain block ancestors analysis ∧
      analysis.attestations.map (fun x => (x.duplicate, x.newVotes, x.votes, x.possibleVotes)) =
        [(some ⟨1, 0⟩, 0, 0, 0), (none, 1, 2, 2), (none, 1, 1, 2)] := by
  have hrun : (answer Ledger.devnet.answers (run .usual Ledger.devnetChain needs
      (.slot 2))).toOption.map (·.attestations.map fun x =>
        (x.duplicate, x.newVotes, x.votes, x.possibleVotes)) =
          some [(some ⟨1, 0⟩, 0, 0, 0), (none, 1, 2, 2), (none, 1, 1, 2)] := by decide +kernel
  obtain ⟨newest, block, older, hc, hid⟩ : ∃ newest block older,
      Ledger.devnet.chain = [newest] ++ block :: older ∧
        Ledger.devnet.answers (.block (.slot 2)) = .ok (some block) := ⟨_, _, _, rfl, rfl⟩
  have hw := (hc ▸ wellFormed_devnet).of_append [newest]
  cases h : answer Ledger.devnet.answers (run .usual Ledger.devnetChain needs (.slot 2)) with
  | error failure => simp [h, Except.toOption] at hrun
  | ok analysis =>
    rw [h] at hrun
    obtain ⟨block', ancestors, hb, hl, ht⟩ := told_of_run h
    cases hid.symm.trans hb
    exact ⟨analysis, block, ancestors, ht (hw.injOn_included hl), Option.some.inj hrun⟩

end BlockSurvey

end BeaconDuties
