import BeaconDuties.Proofs.Duty.SyncTally
import BeaconDuties.Proofs.Epoch.Active
import BeaconDuties.Proofs.Epoch.Summary

/-!
The summary of named validators is a part of the summary of all.

A run for named validators asks a node for these validators only, passes over attestations without
their votes and skips their colleagues in the sync committee. If the node gives the same entries
for them whether it is asked for everyone or not, each of the maps that the run fills is that of
the run for everyone, restricted to the named validators (`EpochSurvey.registry_restrict`,
`EpochSurvey.participations_restrict`, `EpochSurvey.tallySlots_restrict`). Lists and numbers follow
(`EpochSurvey.restricts_of_run`).
-/

namespace BeaconDuties

open Survey

@[simp] theorem Selection.contains_everyone {v : ValidatorIndex} :
    Selection.everyone.contains v = true := rfl

/-! ## Entries of validators -/

/-- The entry of a validator in the answer of a node; of several the last one counts. -/
def infoOf? (infos : List ValidatorInfo) (v : ValidatorIndex) : Option ValidatorInfo :=
  infos.reverse.find? (·.index = v)

/-- Asked for some validators, a node gives the same entries for them as when it is asked for all.
    It may give further ones. -/
def Answers.Agrees (node : Answers) (state : StateId) (selection : Selection) : Prop :=
  ∀ infos all, node (.validators state selection.ids) = .ok infos →
    node (.validators state []) = .ok all →
      ∀ v, selection.contains v → infoOf? infos v = infoOf? all v

namespace EpochSurvey

variable {node : Answers} {clock : Clock} {limits limits' : Limits} {query query' : Query}
  {selection : Selection} {infos all : List ValidatorInfo} {table : CommitteeTable}
  {wanted wanted' : ValidatorIndex → Bool} {v : ValidatorIndex}

/-! ## Validators -/

theorem getElem?_registry_eq_ite :
    (registry selection infos)[v]? = if selection.contains v then infoOf? infos v else none := by
  rw [getElem?_registry, ← List.filter_reverse, List.find?_filter, infoOf?]
  split
  · next hc =>
    congr 1
    funext x
    by_cases hx : x.index = v
    · simp [hx, hc]
    · simp [hx]
  · next hc =>
    refine List.find?_eq_none.2 fun x _ => ?_
    simp only [Bool.decide_and, Bool.and_eq_true, decide_eq_true_eq, not_and]
    rintro hx rfl
    exact hc hx

theorem registry_restrict
    (hagree : ∀ v, selection.contains v → infoOf? infos v = infoOf? all v) :
    registry selection infos = Maps.restrict selection.contains (registry .everyone all) := by
  refine Maps.eq_restrict fun v => ?_
  rw [getElem?_registry_eq_ite, getElem?_registry_eq_ite]
  split
  · next hc => exact hagree v hc
  · rfl

theorem active_restrict (hepoch : query.epoch = query'.epoch)
    (hagree : ∀ v, selection.contains v → infoOf? infos v = infoOf? all v) :
    active query selection infos =
      (active query' .everyone all).filter (selection.contains ·.index) := by
  have hkey : ∀ {v : ValidatorIndex} {x : ValidatorInfo},
      (registry .everyone all)[v]? = some x → x.index = v := fun h => (of_getElem?_registry h).1
  rw [active, active, registry_restrict hagree, Maps.values_restrict hkey, hepoch,
    List.filter_filter, List.filter_filter]
  simp only [Bool.and_comm]

theorem awaiting_restrict {registry : Std.ExtTreeMap ValidatorIndex ValidatorInfo} :
    awaiting selection (Maps.restrict selection.contains registry) table =
      Maps.restrict selection.contains (awaiting .everyone registry table) := by
  refine Maps.eq_restrict fun v => ?_
  rw [getElem?_awaiting, getElem?_awaiting]
  split
  · next hc =>
    have hfind : (fun seat : Seat => selection.contains seat.validator && seat.validator = v) =
        fun seat => Selection.everyone.contains seat.validator && seat.validator = v := by
      funext seat
      by_cases hs : seat.validator = v
      · simp [hs, hc]
      · simp [hs]
    rw [hfind]
    cases hseat : table.seats.find? fun seat =>
        Selection.everyone.contains seat.validator && seat.validator = v with
    | none => rfl
    | some seat =>
      have hs : seat.validator = v := by simpa using List.find?_some hseat
      rw [Option.map_some, Option.map_some, hs, Maps.getElem?_restrict, if_pos hc]
  · next hc =>
    rw [Option.map_eq_none_iff, List.find?_eq_none]
    simp only [Bool.and_eq_true, decide_eq_true_eq, not_and]
    rintro seat - hs rfl
    exact hc hs

/-! ## Attestations -/

/-- Two inclusions tell the same of the votes that both carry. -/
structure Inclusion.Same (x y : Inclusion) : Prop where
  slot : x.slot = y.slot
  data : x.data = y.data
  classification : x.classification = y.classification

theorem recordAll_same {found found' : List Inclusion} (h : List.Forall₂ Inclusion.Same found found') :
    ∀ {x : Participation}, x.recordAll found = x.recordAll found' := by
  induction h with
  | nil => exact rfl
  | cons hxy _ ih =>
    intro x
    obtain ⟨hs, hd, hc⟩ := hxy
    rw [Participation.recordAll, Participation.recordAll, List.foldl_cons, List.foldl_cons, hs, hd,
      hc]
    exact ih

theorem Inclusion.Tells.mem_validators {x : Sighting} {y : Inclusion}
    (h : y.Tells node clock table wanted x) :
    v ∈ y.validators ↔ v ∈ table.voters x.attestation ∧ wanted v := by
  rw [h.validators, List.mem_filter]

/-- An inclusion does not carry a vote that another search, which wants it too, has not found. -/
theorem Inclusion.Tells.not_mem_validators {x : Sighting} {y : Inclusion}
    (h : y.Tells node clock table wanted x) (hv : wanted v = wanted' v)
    (hn : (table.voters x.attestation).filter wanted' = []) : v ∉ y.validators := by
  rw [h.mem_validators, hv, ← List.mem_filter, hn]
  exact List.not_mem_nil

/-- Two searches that want different votes find the same of a vote that both want or neither. -/
theorem Scan.same (hv : wanted v = wanted' v) {seen after : Duplicates} {xs : List Sighting}
    {found : List Inclusion} (h : Scan node clock table wanted seen xs found after) :
    ∀ {seen' after' : Duplicates} {found' : List Inclusion}, seen.SameRoots seen' →
      Scan node clock table wanted' seen' xs found' after' →
        List.Forall₂ Inclusion.Same (found.filter (v ∈ ·.validators))
          (found'.filter (v ∈ ·.validators)) := by
  -- both searches see the same attestations, so that only the wanted votes can set them apart
  induction h with
  | nil =>
    intro seen' after' found' _ h'
    cases h'
    exact .nil
  | again known _ ih =>
    intro seen' after' found' hseen h'
    cases h' with
    | again _ next' => exact ih hseen next'
    | idle unknown => exact absurd ((hseen _).1 known) unknown
    | included unknown => exact absurd ((hseen _).1 known) unknown
  | idle unknown unwanted _ ih =>
    intro seen' after' found' hseen h'
    cases h' with
    | again known => exact absurd ((hseen _).2 known) unknown
    | idle _ _ next' => exact ih hseen.record next'
    | included _ _ tells' next' =>
      have hn := tells'.not_mem_validators hv.symm unwanted
      rw [List.filter_cons, if_neg (by simpa using hn)]
      exact ih hseen.record next'
  | @included _ _ _ _ inclusion _ _ unknown _ tells _ ih =>
    intro seen' after' found' hseen h'
    cases h' with
    | again known => exact absurd ((hseen _).2 known) unknown
    | idle _ unwanted' next' =>
      have hn := tells.not_mem_validators hv unwanted'
      rw [List.filter_cons, if_neg (by simpa using hn)]
      exact ih hseen.record next'
    | @included _ _ _ _ inclusion' _ _ _ _ tells' next' =>
      have hmem : v ∈ inclusion.validators ↔ v ∈ inclusion'.validators := by
        rw [tells.mem_validators, tells'.mem_validators, hv]
      rw [List.filter_cons, List.filter_cons]
      by_cases hm : v ∈ inclusion.validators
      · rw [if_pos (by simpa using hm), if_pos (by simpa using hmem.1 hm)]
        exact .cons ⟨tells.slot.trans tells'.slot.symm, tells.data.trans tells'.data.symm,
          tells.judges.unique tells'.judges⟩ (ih hseen.record next')
      · rw [if_neg (by simpa using hm), if_neg (by simpa using fun h => hm (hmem.2 h))]
        exact ih hseen.record next'

/-- The records of the selected validators are among the records of all. -/
theorem participations_restrict {registry : Std.ExtTreeMap ValidatorIndex ValidatorInfo}
    {records records' : Std.ExtTreeMap ValidatorIndex Participation}
    (hepoch : query.epoch = query'.epoch) (hcurrent : query.current = query'.current)
    (h : answer node (participations limits clock query selection
      (Maps.restrict selection.contains registry)) = .ok records)
    (h' : answer node (participations limits' clock query' .everyone registry) = .ok records') :
    records = Maps.restrict selection.contains records' := by
  obtain ⟨table, found, ht, hf, hr⟩ := getElem?_participations h
  obtain ⟨table', found', ht', hf', hr'⟩ := getElem?_participations h'
  rw [hepoch] at ht hf
  rw [hcurrent] at hf
  obtain rfl := ht.unique ht'
  obtain ⟨after, hscan⟩ := scan_of_inclusions hf
  obtain ⟨after', hscan'⟩ := scan_of_inclusions hf'
  refine Maps.eq_restrict fun v => ?_
  rw [hr, hr', awaiting_restrict, Maps.getElem?_restrict]
  split
  · next hc =>
    have hv : (awaiting selection (Maps.restrict selection.contains registry) table).contains v =
        (awaiting .everyone registry table).contains v := by
      rw [awaiting_restrict, Std.ExtTreeMap.contains_eq_isSome_getElem?,
        Std.ExtTreeMap.contains_eq_isSome_getElem?, Maps.getElem?_restrict, if_pos hc]
    have hsame := hscan.same hv (fun _ => Iff.rfl) hscan'
    congr 1
    funext x
    exact recordAll_same hsame
  · rfl

theorem activeRecords_restrict {validators : List ValidatorInfo}
    {records : Std.ExtTreeMap ValidatorIndex Participation}
    (hv : ∀ {v : ValidatorIndex} {x : Participation}, records[v]? = some x → x.validator = v) :
    activeRecords (validators.filter (wanted ·.index)) (Maps.restrict wanted records) =
      (activeRecords validators records).filter (wanted ·.validator) := by
  rw [activeRecords, activeRecords, ← sortOn_filter, List.filterMap_filter, List.filter_filterMap]
  refine congrArg _ (List.filterMap_congr fun x _ => ?_)
  rw [Maps.getElem?_restrict]
  cases hx : records[x.index]? with
  | none => simp
  | some y =>
    have hy := hv hx
    by_cases hw : wanted x.index <;> simp [hw, hy, Option.filter]

/-! ## The sync committee -/

/-- The members of the sync committee of an epoch; there are none before Altair. -/
def HasSyncCommittee (node : Answers) (clock : Clock) (epoch : Epoch)
    (members : List ValidatorIndex) : Prop :=
  if epoch < clock.forks.altair then members = []
  else ∃ committee, node (.syncCommittee (.slot (clock.epochSlots epoch).first) (some epoch)) =
    .ok committee ∧ members = committee.validators

theorem tallySlots_restrict : ∀ {count : Nat} {slot : Slot} {tally after : SyncTally},
    Finds node clock (tallySlots .everyone count slot tally) after →
      Yields node clock (tallySlots selection count slot (tally.restrict selection.contains))
        (after.restrict selection.contains)
  | 0, _, _, _, h => by
    obtain rfl := finds_pure.1 h
    exact .pure _
  | count + 1, slot, tally, after, h => by
    obtain ⟨block?, hb, h⟩ := Finds.bind h .blockIn
    refine .bind hb .blockIn ?_
    cases block? with
    | none => exact tallySlots_restrict h
    | some block =>
      dsimp only at h ⊢
      split at h
      · obtain rfl := finds_pure.1 h
        exact .pure _
      · next aggregate _ =>
        obtain ⟨next, hn, h⟩ := Finds.bind h (.during _ (.lift _ _))
        rw [answer_during_eq_ok, answer_lift_eq_ok] at hn
        refine .bind ?_ (.during _ (.lift _ _)) (tallySlots_restrict h)
        rw [answer_during_eq_ok, answer_lift_eq_ok]
        exact SyncTally.record_restrict hn

theorem syncDuties_restrict (selection : Selection) {epoch : Epoch} {seats : Nat}
    {misses : List SyncMisses}
    (h : answer node (syncDuties clock epoch .everyone) = .ok (seats, misses)) :
    ∃ members, HasSyncCommittee node clock epoch members ∧ seats = members.length ∧
      answer node (syncDuties clock epoch selection) = .ok (members.countP selection.contains,
        misses.filter (selection.contains ·.validator)) := by
  rw [syncDuties] at h ⊢
  unfold HasSyncCommittee
  split at h
  · next he =>
    cases h
    exact ⟨[], by rw [if_pos he], rfl, by rw [if_pos he]; rfl⟩
  · next he =>
    obtain ⟨committee, hc, h⟩ := Finds.bind (finds_of_answer h : Finds node clock _ _)
      (.during _ (.ask _))
    dsimp only at h
    split at h
    · simp at h
    · next hm =>
      obtain ⟨tally, ht, h⟩ := Finds.bind h steady_tallySlots
      cases finds_pure.1 h
      have hy : Yields node clock (tallySlots selection _ _ _) _ :=
        tallySlots_restrict (finds_of_answer ht)
      rw [SyncTally.restrict_start] at hy
      simp only [he, if_false]
      refine ⟨committee.validators,
        ⟨committee, answer_ask_eq_ok.1 (answer_during_eq_ok.1 hc), rfl⟩, ?_, ?_⟩
      · exact List.countP_eq_length.2 fun _ _ => Selection.contains_everyone
      · rw [← SyncTally.finish_restrict]
        refine Yields.answer (?_ : Yields node clock _ _)
        refine .bind hc (.during _ (.ask _)) ?_
        rw [if_neg hm]
        exact .bind hy.answer steady_tallySlots (.pure _)

/-! ## Blobs -/

/-- How many blobs the block of a slot commits to. -/
def blobsAt (node : Answers) (slot : Slot) : Nat :=
  ((node.blockAt? slot).map (·.blobCount)).getD 0

theorem blobsIn_eq_map (clock : Clock) : ∀ {slots : List Slot} {counts : List Nat},
    answer node (blobsIn slots) = .ok counts → counts = slots.map (blobsAt node)
  | [], _, h => (Except.ok.inj h).symm
  | slot :: slots, counts, h => by
    obtain ⟨block?, hb, h⟩ := Finds.bind (finds_of_answer h : Finds node clock _ _) .blockIn
    obtain ⟨further, hf, h⟩ := Finds.bind h steady_blobsIn
    obtain rfl := finds_pure.1 h
    rw [answer_blockIn_eq_ok] at hb
    rw [List.map_cons, ← blobsIn_eq_map clock hf, blobsAt, node.blockAt?_eq hb]

/-- If a node answers for all slots, blobs are counted. -/
theorem answer_blobsIn (clock : Clock) : ∀ {slots : List Slot},
    (∀ slot ∈ slots, ∃ block?, node (.block (.slot slot)) = .ok block?) →
      answer node (blobsIn slots) = .ok (slots.map (blobsAt node))
  | [], _ => rfl
  | slot :: rest, h => by
    obtain ⟨⟨block?, hb⟩, hrest⟩ := List.forall_mem_cons.1 h
    have hyields : Yields node clock (blobsIn (slot :: rest)) _ :=
      .bind (answer_blockIn_eq_ok.2 hb) .blockIn
        (.bind (answer_blobsIn clock hrest) steady_blobsIn (.pure _))
    rw [hyields.answer, List.map_cons, blobsAt, node.blockAt?_eq hb]

/-! ## The summary -/

/-- A summary is the part of another one that is about the wanted validators. The other one counts
    some members of the sync committee, some active validators, and some records of these. -/
structure Restricts (node : Answers) (wanted : ValidatorIndex → Bool)
    (members : List ValidatorIndex) (validators : List ValidatorInfo)
    (counted : List Participation) (part whole : EpochSummary) : Prop where
  epoch : part.epoch = whole.epoch
  slots : part.slots = whole.slots
  blocks : part.blocks = whole.blocks
  proposals : part.proposals = whole.proposals.filter (wanted ·.validator)
  syncSeats : part.syncSeats = members.countP wanted
  syncMisses : part.syncMisses = whole.syncMisses.filter (wanted ·.validator)
  active : part.active.validators = validators.countP (wanted ·.index)
  activeBalance : part.active.balance.toNat =
    totalOf ((validators.filter (wanted ·.index)).map (·.effectiveBalance))
  met : ∀ criterion, (part.outcome criterion).met.validators =
    counted.countP fun x => wanted x.validator && criterion.isMet x
  metBalance : ∀ criterion, (part.outcome criterion).met.balance.toNat =
    totalOf ((counted.filter fun x => wanted x.validator && criterion.isMet x).map
      (·.effectiveBalance))
  lacking : ∀ criterion, (part.outcome criterion).lacking =
    (whole.outcome criterion).lacking.filter (wanted ·.validator)
  blobs : part.blobs.toNat = ((whole.proposals.filter fun x => wanted x.validator && x.proposed).map
    fun x => blobsAt node x.slot).sum

theorem Makes.due_unique {selection' : Selection} {due due' : List Proposal}
    {records records' : Std.ExtTreeMap ValidatorIndex Participation}
    {summary summary' : EpochSummary}
    (h : Makes node clock limits query selection due infos records summary)
    (h' : Makes node clock limits' query' selection' due' all records' summary')
    (hepoch : query.epoch = query'.epoch) : due = due' := by
  obtain ⟨duties, hd, hdue⟩ := h.duties
  obtain ⟨duties', hd', hdue'⟩ := h'.duties
  rw [hepoch, hd'] at hd
  cases hd
  rw [hdue'] at hdue
  exact (Except.ok.inj hdue).symm

/-- What the parts of two summaries have in common makes one a part of the other. -/
theorem Completes.restricts {due due' : List Proposal}
    {records records' : Std.ExtTreeMap ValidatorIndex Participation} {part whole : EpochSummary}
    (h : Completes node clock limits query selection due infos records part)
    (h' : Completes node clock limits' query' .everyone due' all records' whole)
    (hepoch : query.epoch = query'.epoch) (hcurrent : query.current = query'.current)
    (hagree : ∀ v, selection.contains v → infoOf? infos v = infoOf? all v) :
    ∃ members, HasSyncCommittee node clock query'.epoch members ∧
      Restricts node selection.contains members (active query' .everyone all)
        (activeRecords (active query' .everyone all) records') part whole := by
  obtain rfl := h.toMakes.due_unique h'.toMakes hepoch
  have hactive : active query selection infos =
      (active query' .everyone all).filter (selection.contains ·.index) :=
    active_restrict hepoch hagree
  have hcounted : activeRecords (active query selection infos) records =
      (activeRecords (active query' .everyone all) records').filter
        (selection.contains ·.validator) := by
    obtain ⟨table, found, -, -, hr⟩ := getElem?_participations h'.participations
    have hparticipations := h.participations
    rw [registry_restrict hagree] at hparticipations
    rw [hactive, participations_restrict hepoch hcurrent hparticipations h'.participations]
    exact activeRecords_restrict (validator_of_records hr)
  have hproposals : whole.proposals = due :=
    h'.proposals.trans (List.filter_eq_self.2 fun _ _ => Selection.contains_everyone)
  obtain ⟨members, hmembers, -, hsync⟩ := syncDuties_restrict selection h'.sync
  rw [← hepoch, h.sync] at hsync
  obtain ⟨hseats, hmisses⟩ := Prod.mk.inj (Except.ok.inj hsync)
  have hshare := Share.ofBalances?_eq_some_iff.1 (hactive ▸ h.active)
  have hout (criterion : Criterion) :=
    Criterion.outcome?_eq_some_iff.1 (hcounted ▸ h.outcome criterion)
  have hout' (criterion : Criterion) := Criterion.outcome?_eq_some_iff.1 (h'.outcome criterion)
  refine ⟨members, hmembers, ?_⟩
  constructor
  case epoch => rw [h.epoch, h'.epoch, hepoch]
  case slots => rw [h.slots, h'.slots, hepoch]
  case blocks => rw [h.blocks, h'.blocks]
  case proposals => rw [h.proposals, hproposals]
  case syncSeats => exact hseats
  case syncMisses => exact hmisses
  case active => rw [hshare.1, List.length_map, List.countP_eq_length_filter]
  case activeBalance => exact hshare.2
  case met =>
    intro criterion
    rw [(hout criterion).1, List.countP_filter]
    simp only [Bool.and_comm]
  case metBalance =>
    intro criterion
    rw [(hout criterion).2.1, List.filter_filter]
    simp only [Bool.and_comm]
  case lacking =>
    intro criterion
    rw [(hout criterion).2.2, (hout' criterion).2.2, List.filter_filter, List.filter_filter]
    simp only [Bool.and_comm]
  case blobs =>
    obtain ⟨counts, hcounts, hblobs⟩ := h.blobs
    rw [← checkedCount_eq_some_iff.1 hblobs, blobsIn_eq_map clock hcounts, h.proposals, hproposals,
      List.filter_filter, List.map_map]
    simp only [Bool.and_comm]
    rfl

/-- **The summary of named validators is a part of the summary of all.** If a node gives the same
    entries for the validators that it knows by the names, whether it is asked for these or for
    everyone, the summary of the named validators is the part of the whole summary that is about
    them. -/
theorem restricts_of_run {available available' : List Capability} {chain : Chain} {epoch : Epoch}
    {ids : List ValidatorId} {current : Slot} {known : List ValidatorInfo}
    {part whole : EpochSummary} (hids : ids ≠ [])
    (hknown : node (.validators .head ids) = .ok known)
    (hagree : node.Agrees (.slot (chain.clock.firstSlot epoch))
      (.only (.ofList (known.map (·.index)))))
    (hpart : answer node (run available limits chain ⟨epoch, ids, current⟩) = .ok part)
    (hwhole : answer node (run available' limits' chain ⟨epoch, [], current⟩) = .ok whole) :
    ∃ due infos records members,
      Completes node chain.clock limits' ⟨epoch, [], current⟩ .everyone due infos records whole ∧
      HasSyncCommittee node chain.clock epoch members ∧
      Restricts node (known.map (·.index)).contains members
        (active ⟨epoch, [], current⟩ .everyone infos)
        (activeRecords (active ⟨epoch, [], current⟩ .everyone infos) records) part whole := by
  obtain ⟨-, selection, due, infos, records, h⟩ := completes_of_run hpart
  obtain ⟨-, selection', due', all, records', h'⟩ := completes_of_run hwhole
  obtain rfl : selection' = .everyone :=
    (selection_of_select chain.clock h'.selects).elim And.right fun ⟨_, hn, _⟩ => absurd rfl hn
  rcases selection_of_select chain.clock h.selects with ⟨hn, -⟩ | ⟨known', -, hk, rfl⟩
  · exact absurd hn hids
  · obtain rfl : known = known' := Except.ok.inj (hknown.symm.trans hk)
    obtain ⟨members, hmembers, hr⟩ := h.restricts h' rfl rfl (hagree _ _ h.known h'.known)
    have hcontains : (Selection.only (.ofList (known.map (·.index)))).contains =
        (known.map (·.index)).contains := funext fun _ => Std.ExtTreeSet.contains_ofList
    rw [hcontains] at hr
    exact ⟨due', all, records', members, h', hmembers, hr⟩

/-- Of two validators of the small chain one has voted, of all four validators three have. -/
theorem restricts_of_run_devnet :
    ∃ known part whole members validators counted,
      Ledger.devnet.answers (.validators .head [.index 1, .index 3]) = .ok known ∧
      Restricts Ledger.devnet.answers (known.map (·.index)).contains members validators counted
        part whole ∧
      part.participating.met.validators = 1 ∧ whole.participating.met.validators = 3 := by
  obtain ⟨whole, hwhole, hthree⟩ := exists_summary_devnet
  obtain ⟨part, hpart, hone⟩ := exists_ok_of_toOption_map (by decide +kernel :
    (answer Ledger.devnet.answers (run needs .usual Ledger.devnetChain
      ⟨0, [.index 1, .index 3], 3⟩)).toOption.map (·.participating.met.validators) = some 1)
  have hagree : Ledger.devnet.answers.Agrees (.slot (Ledger.devnetChain.clock.firstSlot 0))
      (.only (.ofList [(1 : ValidatorIndex), 3])) := by
    rintro infos all ⟨⟩ ⟨⟩ v hv
    have hv : v = 1 ∨ v = 3 := by
      simpa [Selection.contains, Std.ExtTreeSet.contains_ofList] using hv
    rcases hv with rfl | rfl <;> decide +kernel
  obtain ⟨due, infos, records, members, -, -, hr⟩ :=
    restricts_of_run (List.cons_ne_nil _ _) rfl hagree hpart hwhole
  exact ⟨_, part, whole, members, _, _, rfl, hr, hone, hthree⟩

end EpochSurvey

end BeaconDuties
