import BeaconDuties.Proofs.Report.Parts
import BeaconDuties.Proofs.Survey.Ledger
import BeaconDuties.Proofs.Survey.Reordering
import BeaconDuties.Proofs.Validator.Verdicts

/-!
Reports do not depend on the order in which a node lists things.

Lists of validators and duties are put into maps and sorted by keys that differ, and only the result
is made use of. So the summaries of an epoch and of validators are indifferent to the order of these
lists and of committees (`EpochSurvey.indifferent_run`, `ValidatorSurvey.indifferent_run`). Nor does
it matter in which order the duties of validators are gone through
(`ValidatorSurvey.report_eq_of_perm`).
-/

namespace BeaconDuties

open Survey

variable {available : List Capability} {limits : Limits} {clock : Clock} {chain : Chain}

theorem ofList_eq_of_perm {xs ys : List ValidatorIndex} (h : xs.Perm ys) :
    Std.ExtTreeSet.ofList xs = Std.ExtTreeSet.ofList ys := by
  refine Std.ExtTreeSet.ext_mem fun v => ?_
  rw [Std.ExtTreeSet.mem_ofList, Std.ExtTreeSet.mem_ofList]
  simp only [List.contains_iff_mem, h.mem_iff]

/-! ## Epochs -/

namespace EpochSurvey

variable {query : Query} {selection : Selection}

theorem registry_eq_of_perm {xs ys : List ValidatorInfo} (hp : xs.Perm ys)
    (hn : (xs.map (·.index)).Nodup) : registry selection xs = registry selection ys :=
  Maps.foldl_insert_eq_of_perm (hp.filter _) (hn.sublist (List.filter_sublist.map _)) ∅

theorem indifferent_select {ids : List ValidatorId} : Indifferent (select ids) := by
  refine .ite (.pure _) (.question_during (fun halike => ?_) fun _ => .ite (.throw _) (.pure _))
  cases halike with
  | refl => rfl
  | validators perm nodup => rw [perm.isEmpty_eq, ofList_eq_of_perm (perm.map _)]

theorem indifferent_gather : Indifferent (gather available limits chain query) := by
  refine .bind Composed.require.indifferent fun _ => .bind indifferent_select fun selection => ?_
  refine .bind (.during (.ask fun halike => by cases halike; rfl)) fun duties => ?_
  refine .bind (Composed.proposals fun _ _ => .inl rfl).indifferent fun due => ?_
  refine .question_during (fun halike => ?_) fun infos => ?_
  · cases halike with
    | refl => rfl
    | validators perm nodup => rw [registry_eq_of_perm perm nodup]
  · refine .bind (composed_participations (fun _ => .inl rfl) (fun _ _ => .inl rfl)
      (.inl rfl)).indifferent fun _ => ?_
    refine .bind (composed_syncDuties (fun _ => .inl rfl) (.inr fun halike => ?_)).indifferent
      fun _ => .bind (composed_blobsIn fun _ _ => .inl rfl).indifferent fun _ => .pure _
    cases halike
    rfl

theorem indifferent_run : Indifferent (run available limits chain query) :=
  .bind indifferent_gather fun _ => (Composed.total trivial).indifferent

end EpochSurvey

/-! ## Validators -/

namespace ValidatorSurvey

variable {query : Query} {duties order : List AttesterDuty}

theorem dutiesOf_eq_of_perm {xs ys : List AttesterDuty} (hp : xs.Perm ys)
    (hn : (xs.map (·.validator)).Nodup) : dutiesOf xs = dutiesOf ys :=
  Maps.foldl_insert_eq_of_perm hp hn ∅

theorem indifferent_credits {duties : Duties} : Indifferent (credits limits clock query duties) :=
  (composed_credits (fun _ => .inl rfl) (fun _ => .inl rfl) (.inl rfl)).indifferent

theorem indifferent_summarize : Indifferent (summarize limits clock query) := by
  refine .ite (.throw _) (.question_during (fun halike => ?_) fun found => .ite (.throw _) ?_)
  · cases halike with
    | refl => rfl
    | validators perm nodup => rw [perm.isEmpty_eq, sortOn_eq_of_perm perm nodup]
  refine .bind (.during (.ask fun halike => by cases halike; rfl)) fun due => ?_
  refine .bind (Composed.proposals fun _ _ => .inl rfl).indifferent fun proposals => ?_
  refine .ite (.bind (.pure _) fun duties => ?_) (.question_during (fun halike => ?_) fun duties => ?_)
  · exact .bind indifferent_credits fun _ => .pure _
  · cases halike with
    | refl => rfl
    | attesters perm nodup => simp only [dutiesOf_eq_of_perm perm nodup]
  · exact .bind indifferent_credits fun _ => .pure _

theorem indifferent_run : Indifferent (run available limits chain query) :=
  .bind Composed.require.indifferent fun _ => indifferent_summarize

theorem dutySlots_eq_of_perm (hp : order.Perm duties) : dutySlots order = dutySlots duties := by
  have hn {duties : List AttesterDuty} : (dutySlots duties).Nodup :=
    pairwise_dutySlots.imp UInt64.ne_of_lt
  have hperm : (dutySlots order).Perm (dutySlots duties) := by
    refine (List.perm_ext_iff_of_nodup hn hn).2 fun slot => ?_
    simp only [mem_dutySlots, hp.mem_iff]
  exact hperm.eq_of_pairwise (fun _ _ _ _ hlt hgt => absurd hgt (UInt64.lt_asymm hlt))
    pairwise_dutySlots pairwise_dutySlots

/-- A report is the same in whatever order duties are gone through. -/
theorem report_eq_of_perm {epoch : Epoch} {validators active : List ValidatorIndex}
    {credits : List Credit} {proposals : List Proposal} (hp : order.Perm duties)
    (hn : (duties.map (·.validator)).Nodup) :
    report clock epoch validators active order credits proposals =
      report clock epoch validators active duties credits proposals := by
  have hrow : row order credits = row duties credits := by
    funext slot
    simp only [row, hp.countP_eq]
  have hmissed : missed order credits = missed duties credits := by
    refine sortOn_eq_of_perm ((hp.filter _).map seatOf) ?_
    rw [List.map_id, (((hp.filter _).map seatOf)).nodup_iff]
    exact sortOn_perm.nodup_iff.1 (nodup_missed hn)
  simp only [report, dutySlots_eq_of_perm hp, hrow, hmissed]

end ValidatorSurvey

/-! ## Nodes -/

/-- A node that has a chain and never changes. -/
def Ledger.live (ledger : Ledger) : LiveNode Unit := fun request => pure (ledger.answers request)

/-- Another ledger holds the same, but has its lists in other orders. -/
structure Ledger.Reordered (ledger ledger' : Ledger) : Prop where
  blocks : ledger.blocks = ledger'.blocks
  validators : ledger.validators.Perm ledger'.validators
  committees : ledger.committees.Perm ledger'.committees
  proposers : ledger.proposers = ledger'.proposers
  attesters : ledger.attesters.Perm ledger'.attesters
  nodup_validators : (ledger.validators.map (·.index)).Nodup
  nodup_committees :
    (ledger.committees.map fun x => (⟨x.slot, x.index⟩ : CommitteePlace)).Nodup
  nodup_attesters : (ledger.attesters.map (·.validator)).Nodup

theorem Ledger.Reordered.alike {ledger ledger' : Ledger} (h : ledger.Reordered ledger') :
    ledger.live.Alike ledger'.live := by
  refine fun request state => ⟨?_, rfl⟩
  change request.Alike (ledger.answers request) (ledger'.answers request)
  cases request with
  | validators state ids =>
    exact .validators (h.validators.filter _)
      (h.nodup_validators.sublist (List.filter_sublist.map _))
  | attesters epoch indices =>
    exact .attesters (h.attesters.filter _) (h.nodup_attesters.sublist (List.filter_sublist.map _))
  | committees state epoch => exact .committees h.committees h.nodup_committees
  | proposers epoch =>
    rw [answers, answers, h.proposers]
    exact .refl _
  | block id => cases id <;> simp only [answers, h.blocks] <;> exact .refl _
  | header id => cases id <;> simp only [answers, h.blocks] <;> exact .refl _
  | _ => exact .refl _

namespace Report

/-- **Reports do not depend on the order in which a node lists things.** If two nodes differ only in
    the order of the validators, the committees of an epoch and the duties that they list, none of
    them listed twice, then every summary of an epoch and of validators is the same, or fails for
    the same reason. A summary of validators may go through their duties in any order. -/
theorem eq_of_alike {σ : Type} {node node' : LiveNode σ} (h : node.Alike node') (state : σ) :
    (∀ available limits chain query,
      ((EpochSurvey.run available limits chain query).inquiry.converse node).run state =
        ((EpochSurvey.run available limits chain query).inquiry.converse node').run state) ∧
    (∀ available limits chain query,
      ((ValidatorSurvey.run available limits chain query).inquiry.converse node).run state =
        ((ValidatorSurvey.run available limits chain query).inquiry.converse node').run state) ∧
    ∀ clock epoch validators active duties order credits proposals,
      order.Perm (ValidatorSurvey.dutiesOf duties).values →
        ValidatorSurvey.report clock epoch validators active order credits proposals =
          ValidatorSurvey.report clock epoch validators active
            (ValidatorSurvey.dutiesOf duties).values credits proposals :=
  ⟨fun _ _ _ _ => EpochSurvey.indifferent_run.inquiry.converse_eq h state,
    fun _ _ _ _ => ValidatorSurvey.indifferent_run.inquiry.converse_eq h state,
    fun _ _ _ _ _ _ _ _ hp =>
      ValidatorSurvey.report_eq_of_perm hp ValidatorSurvey.nodup_values_dutiesOf⟩

/-- The small chain with its lists backwards. -/
def backwards : Ledger :=
  { Ledger.devnet with
    validators := Ledger.devnet.validators.reverse
    committees := Ledger.devnet.committees.reverse
    attesters := Ledger.devnet.attesters.reverse }

theorem reordered_backwards : Ledger.devnet.Reordered backwards where
  blocks := rfl
  validators := (List.reverse_perm _).symm
  committees := (List.reverse_perm _).symm
  proposers := rfl
  attesters := (List.reverse_perm _).symm
  nodup_validators := by decide
  nodup_committees := by decide
  nodup_attesters := by decide

/-- The summary of the first epoch of the small chain. -/
def devnetEpoch (node : LiveNode Unit) : Except Failure EpochSummary :=
  (((EpochSurvey.run EpochSurvey.needs .usual Ledger.devnetChain
    ⟨0, [], 3⟩).inquiry.converse node).run ()).1

/-- The summary of all validators of the small chain. -/
def devnetValidators (node : LiveNode Unit) : Except Failure ValidatorSummary :=
  (((ValidatorSurvey.run ValidatorSurvey.needs .usual Ledger.devnetChain
    ValidatorSurvey.devnetQuery).inquiry.converse node).run ()).1

/-- The summaries of the small chain come about from its lists backwards, too. -/
theorem eq_of_alike_devnet :
    Ledger.devnet.live.Alike backwards.live ∧
    (∃ summary, devnetEpoch Ledger.devnet.live = .ok summary ∧
      devnetEpoch backwards.live = .ok summary) ∧
    (∃ summary, devnetValidators Ledger.devnet.live = .ok summary ∧
      devnetValidators backwards.live = .ok summary) ∧
    ValidatorSurvey.report Ledger.devnetChain.clock 0 [0, 1, 2, 3] [0, 1, 2, 3]
        (ValidatorSurvey.dutiesOf Ledger.devnet.attesters).values.reverse [] [] =
      ValidatorSurvey.report Ledger.devnetChain.clock 0 [0, 1, 2, 3] [0, 1, 2, 3]
        (ValidatorSurvey.dutiesOf Ledger.devnet.attesters).values [] [] := by
  obtain ⟨hepoch, hvalidators, hreport⟩ := eq_of_alike reordered_backwards.alike ()
  have hrun : (devnetEpoch Ledger.devnet.live).toOption.map (·.epoch) = some 0 := by
    decide +kernel
  have hrun' : (devnetValidators Ledger.devnet.live).toOption.map (·.epoch) = some 0 := by
    decide +kernel
  obtain ⟨summary, hsummary, -⟩ := exists_ok_of_toOption_map hrun
  obtain ⟨summary', hsummary', -⟩ := exists_ok_of_toOption_map hrun'
  exact ⟨reordered_backwards.alike,
    ⟨summary, hsummary, (congrArg Prod.fst (hepoch _ _ _ _)).symm.trans hsummary⟩,
    ⟨summary', hsummary', (congrArg Prod.fst (hvalidators _ _ _ _)).symm.trans hsummary'⟩,
    hreport _ _ _ _ Ledger.devnet.attesters _ _ _ (List.reverse_perm _)⟩

end Report

end BeaconDuties
