import BeaconDuties.Proofs.Epoch.Horizon
import BeaconDuties.Proofs.Survey.Ledger
import BeaconDuties.Proofs.Validator.Horizon

/-!
Looking further ahead only adds, in both summaries (`Agreement.extends_of_le`). The two go opposite
ways about it: what an epoch's summary lists was missed by all votes so far, and so it lists fewer
validators as votes come in, while the summary of validators lists the votes that were wrong, of
which there are more.
-/

namespace BeaconDuties.Agreement

open Survey

/-- **Looking further ahead only adds.** If a summary succeeds at some current slot, it succeeds at
    any earlier one, and the later summary extends the earlier one. -/
theorem extends_of_le {node : Answers} {available : List Capability} {limits : Limits}
    {chain : Chain} {epoch : Epoch} {ids : List ValidatorId} {sooner later : Slot}
    (hle : sooner ≤ later) :
    (∀ es', answer node (EpochSurvey.run available limits chain ⟨epoch, ids, later⟩) = .ok es' →
      ∃ es, answer node (EpochSurvey.run available limits chain ⟨epoch, ids, sooner⟩) = .ok es ∧
        es.Extends es' ∧ EpochSurvey.RecordsGrow node chain.clock limits ⟨epoch, ids, sooner⟩
          ⟨epoch, ids, later⟩ es es') ∧
      ∀ vs', answer node (ValidatorSurvey.run available limits chain ⟨epoch, ids, later⟩) =
        .ok vs' → ∃ vs, answer node (ValidatorSurvey.run available limits chain
          ⟨epoch, ids, sooner⟩) = .ok vs ∧ vs.Extends vs' := by
  constructor
  · intro es' h
    exact EpochSurvey.exists_sooner hle h
  · intro vs' h
    exact ValidatorSurvey.exists_sooner hle h

/-- On the small chain one more slot brings two more votes, one of which is late for its head. -/
theorem extends_of_le_devnet :
    ∃ (es es' : EpochSummary) (vs vs' : ValidatorSummary), es.Extends es' ∧ vs.Extends vs' ∧
      es.participating.met.validators = 1 ∧ es'.participating.met.validators = 3 ∧
      vs.nonParticipating = [⟨0, 0, 1⟩, ⟨1, 0, 2⟩, ⟨1, 0, 3⟩] ∧ vs.untimelyHead = [] ∧
      vs'.nonParticipating = [⟨1, 0, 3⟩] ∧ vs'.untimelyHead = [⟨⟨0, 0, 1⟩, 2, 2⟩] := by
  let ids : List ValidatorId := [.index 0, .index 1, .index 2, .index 3]
  let esAt (current : Slot) := answer Ledger.devnet.answers
    (EpochSurvey.run Capability.all .usual Ledger.devnetChain ⟨0, ids, current⟩)
  let vsAt (current : Slot) := answer Ledger.devnet.answers
    (ValidatorSurvey.run Capability.all .usual Ledger.devnetChain ⟨0, ids, current⟩)
  obtain ⟨es', hes', hes'3⟩ := exists_ok_of_toOption_map
    (by decide +kernel : (esAt 2).toOption.map (·.participating.met.validators) = some 3)
  obtain ⟨vs', hvs', hvs'm⟩ := exists_ok_of_toOption_map
    (by decide +kernel : (vsAt 2).toOption.map (fun x => (x.nonParticipating, x.untimelyHead)) =
      some ([⟨1, 0, 3⟩], [⟨⟨0, 0, 1⟩, 2, 2⟩]))
  obtain ⟨hepoch, hvalidators⟩ := extends_of_le (by decide : (1 : Slot) ≤ 2)
  obtain ⟨es, hes, hext, -⟩ := hepoch es' hes'
  obtain ⟨vs, hvs, hext'⟩ := hvalidators vs' hvs'
  have h1 : (esAt 1).toOption.map (·.participating.met.validators) = some 1 := by decide +kernel
  have hm : (vsAt 1).toOption.map (fun x => (x.nonParticipating, x.untimelyHead)) =
      some ([⟨0, 0, 1⟩, ⟨1, 0, 2⟩, ⟨1, 0, 3⟩], []) := by decide +kernel
  simp only [esAt, vsAt, hes, hvs, Except.toOption, Option.map_some, Option.some.injEq,
    Prod.mk.injEq] at h1 hm hvs'm
  exact ⟨es, es', vs, vs', hext, hext', h1, hes'3, hm.1, hm.2, hvs'm⟩

end BeaconDuties.Agreement
