import BeaconDuties.Command.Run
import BeaconDuties.Proofs.Json.Fields
import Mathlib.Data.List.Forall2

/-!
Reports are read as the summaries for which they are written.

* For each kind of record there is a reader `ofJson?` that goes by the names of the members, and it
  reads what was written (`Proposal.ofJson?_toJson`, `ValidatorSummary.ofJson?_toJson`, ...).
* `Participation.Entry.ToldBy` and `EpochSummary.ToldBy` say what a document holds: everything that
  is read from it, and which members are there. A part of a vote that is not known has none.
* `Json.OnLine` says how a document is printed: on one line, and nothing but blanks after it.
* `reports_read_back`: nothing is lost in a report, and different summaries are not printed alike.
-/

namespace BeaconDuties

open Json

/-! ## Parts -/

/-- Reads a proposal of a report. -/
def Proposal.ofJson? (value : Json) : Option Proposal := do
  let fields ← value.fields? ["slot", "validator_index", "block"]
  return {
    slot := ← fields.read? "slot" uint64?
    validator := ← fields.read? "validator_index" uint64?
    proposed := ← fields.read? "block" bool? }

@[simp] theorem Proposal.ofJson?_toJson (x : Proposal) : ofJson? x.toJson = some x := by
  simp [ofJson?, toJson, Fields.read?, bool?]

theorem list?_proposals {xs : List Proposal} :
    list? Proposal.ofJson? (array (xs.map Proposal.toJson)) = some xs :=
  list?_map fun x _ => x.ofJson?_toJson

@[simp] theorem Proposal.legible_toJson {x : Proposal} : x.toJson.Legible := by
  simp [toJson, legible_record]

/-- Reads what a validator missed. -/
def SyncMisses.ofJson? (value : Json) : Option SyncMisses := do
  let fields ← value.fields? ["validator_index", "missed", "missed_slots"]
  return {
    validator := ← fields.read? "validator_index" uint64?
    missed := ← fields.read? "missed" natural?
    slots := ← fields.read? "missed_slots" (list? uint64?) }

theorem list?_counts {xs : List UInt64} : list? uint64? (array (xs.map count)) = some xs :=
  list?_map fun x _ => uint64?_count x

@[simp] theorem SyncMisses.ofJson?_toJson (x : SyncMisses) : ofJson? x.toJson = some x := by
  simp [ofJson?, toJson, Fields.read?, list?_counts]

@[simp] theorem SyncMisses.legible_toJson {x : SyncMisses} : x.toJson.Legible := by
  simp [toJson, legible_record, legible_array]

/-! ## Entries -/

/-- The names under which flags are told. -/
def VoteFlags.names : List String :=
  ["head_correct", "head_timely", "source_timely", "target_correct", "target_timely"]

/-- Reads flags among other members. -/
def VoteFlags.ofFields? (fields : Fields) : Option VoteFlags := do
  return {
    headCorrect := ← fields.read? "head_correct" bool?
    headTimely := ← fields.read? "head_timely" bool?
    sourceTimely := ← fields.read? "source_timely" bool?
    targetCorrect := ← fields.read? "target_correct" bool?
    targetTimely := ← fields.read? "target_timely" bool? }

namespace Participation.Entry

/-- The names under which parts of a duty are told. -/
def names : List String :=
  ["validator_index", "effective_balance", "slot", "committee_index"] ++ ["head_vote"] ++ ["head"]
    ++ ["target_vote"] ++ ["target"] ++ ["inclusion_slot"] ++ VoteFlags.names

/-- Reads what is told of a duty. -/
def ofJson? (value : Json) : Option Entry := do
  let fields ← value.fields? names
  return {
    validator := ← fields.read? "validator_index" uint64?
    effectiveBalance := ← fields.read? "effective_balance" uint64?
    slot := ← fields.read? "slot" uint64?
    committee := ← fields.read? "committee_index" uint64?
    headVote := ← fields.readOption? "head_vote" (bytes? 32)
    head := ← fields.readOption? "head" (bytes? 32)
    targetVote := ← fields.readOption? "target_vote" (bytes? 32)
    target := ← fields.readOption? "target" (bytes? 32)
    inclusion := ← fields.readOption? "inclusion_slot" uint64?
    flags := ← VoteFlags.ofFields? fields }

theorem names_sublist (x : Entry) : (x.members.map Prod.fst).Sublist names := by
  simp only [members, List.map_append]
  refine .append (.append (.append (.append (.append (.append ?_ ?_) ?_) ?_) ?_) ?_) ?_
  · exact List.Sublist.refl _
  · exact optionalMember_sublist
  · exact optionalMember_sublist
  · exact optionalMember_sublist
  · exact optionalMember_sublist
  · exact optionalMember_sublist
  · exact List.Sublist.refl _

theorem fields?_toJson (x : Entry) : x.toJson.fields? names = some ⟨x.members⟩ :=
  fields?_record x.names_sublist (by decide)

theorem ofJson?_toJson (x : Entry) : ofJson? x.toJson = some x := by
  have hheadVote : (⟨x.members⟩ : Fields).readOption? "head_vote" (bytes? 32) = some x.headVote :=
    Fields.readOption?_of_get? (by simp [members, VoteFlags.members]) bytes?_bytes
  have hhead : (⟨x.members⟩ : Fields).readOption? "head" (bytes? 32) = some x.head :=
    Fields.readOption?_of_get? (by simp [members, VoteFlags.members]) bytes?_bytes
  have htargetVote :
      (⟨x.members⟩ : Fields).readOption? "target_vote" (bytes? 32) = some x.targetVote :=
    Fields.readOption?_of_get? (by simp [members, VoteFlags.members]) bytes?_bytes
  have htarget : (⟨x.members⟩ : Fields).readOption? "target" (bytes? 32) = some x.target :=
    Fields.readOption?_of_get? (by simp [members, VoteFlags.members]) bytes?_bytes
  have hinclusion :
      (⟨x.members⟩ : Fields).readOption? "inclusion_slot" uint64? = some x.inclusion :=
    Fields.readOption?_of_get? (by simp [members, VoteFlags.members]) uint64?_count
  have hflags : VoteFlags.ofFields? ⟨x.members⟩ = some x.flags := by
    simp [VoteFlags.ofFields?, members, VoteFlags.members, Fields.read?, bool?]
  rw [ofJson?, x.fields?_toJson, Option.bind_eq_bind, Option.bind_some, hheadVote, hhead,
    htargetVote, htarget, hinclusion, hflags]
  simp [members, Fields.read?]

theorem legible_toJson {x : Entry} : x.toJson.Legible := by
  rw [toJson, legible_record]
  simp only [members, List.forall_mem_append]
  refine ⟨⟨⟨⟨⟨⟨?_, ?_⟩, ?_⟩, ?_⟩, ?_⟩, ?_⟩, ?_⟩
  · simp
  · exact legible_optionalMember (by simp)
  · exact legible_optionalMember (by simp)
  · exact legible_optionalMember (by simp)
  · exact legible_optionalMember (by simp)
  · exact legible_optionalMember (by simp)
  · simp [VoteFlags.members]

/-- The parts of a vote by their names, and whether they are known. -/
def parts (x : Entry) : List (String × Bool) :=
  [("head_vote", x.headVote.isSome), ("head", x.head.isSome),
    ("target_vote", x.targetVote.isSome), ("target", x.target.isSome),
    ("inclusion_slot", x.inclusion.isSome)]

/-- Whether a value tells a duty: it can be read from it, each flag is told once, and a part of the
    vote is told if it is known. -/
structure ToldBy (x : Entry) (value : Json) : Prop where
  read : ofJson? value = some x
  flags : ∀ name ∈ VoteFlags.names, value.occurrences name = 1
  parts : ∀ part ∈ x.parts, value.occurrences part.1 = part.2.toNat

theorem occurrences_toJson (x : Entry) (name : String) : x.toJson.occurrences name =
    (["validator_index", "effective_balance", "slot", "committee_index"] ++ VoteFlags.names).count
      name + x.parts.count (name, true) := by
  have hflags : x.flags.members.map Prod.fst = VoteFlags.names := rfl
  have hparts : x.parts = [("head_vote", x.headVote.isSome)] ++ [("head", x.head.isSome)] ++
    [("target_vote", x.targetVote.isSome)] ++ [("target", x.target.isSome)] ++
    [("inclusion_slot", x.inclusion.isSome)] := rfl
  simp only [toJson, occurrences_record, members, List.map_append, List.count_append,
    count_optionalMember, Option.isSome_map, hflags, hparts, List.map_cons, List.map_nil]
  omega

theorem toldBy_toJson (x : Entry) : x.ToldBy x.toJson where
  read := x.ofJson?_toJson
  flags := by
    simp [parts, occurrences_toJson, VoteFlags.names, List.count_cons]
  parts := by
    have htold (known : Bool) : (if known then 1 else 0) = known.toNat := by
      cases known <;> rfl
    simp [parts, occurrences_toJson, VoteFlags.names, List.count_cons, htold]

end Participation.Entry

/-! ## Epochs -/

/-- Reads a share. -/
def Share.ofFields? (fields : Fields) (validators balance : String) : Option Share := do
  return {
    validators := ← fields.read? validators natural?
    balance := ← fields.read? balance uint64? }

/-- Reads who meets a criterion and who does not. -/
def Outcome.ofFields? (fields : Fields) (validators balance lacking : String) :
    Option (Outcome Participation.Entry) := do
  return {
    met := ← Share.ofFields? fields validators balance
    lacking := ← fields.read? lacking (list? Participation.Entry.ofJson?) }

namespace EpochSummary

/-- The names under which the parts of a summary are told. -/
def names : List String :=
  ["epoch", "first_slot", "last_slot", "blocks", "proposals", "sync_committee_validators",
    "sync_committee", "active_validators", "active_balance", "participating_validators",
    "participating_balance", "head_correct_validators", "head_correct_balance",
    "head_timely_validators", "head_timely_balance", "source_timely_validators",
    "source_timely_balance", "target_correct_validators", "target_correct_balance",
    "target_timely_validators", "target_timely_balance", "nonparticipating_validators",
    "nonheadcorrect_validators", "nonheadtimely_validators", "nonsourcetimely_validators",
    "nontargetcorrect_validators", "nontargettimely_validators", "blobs"]

/-- Reads a summary of entries. -/
def ofJson? (value : Json) : Option (EpochSummary Participation.Entry) := do
  let fields ← value.fields? names
  let first ← fields.read? "first_slot" uint64?
  let last ← fields.read? "last_slot" uint64?
  return {
    epoch := ← fields.read? "epoch" uint64?
    slots := ⟨first, last⟩
    blocks := ← fields.read? "blocks" natural?
    proposals := ← fields.read? "proposals" (list? Proposal.ofJson?)
    syncSeats := ← fields.read? "sync_committee_validators" natural?
    syncMisses := ← fields.read? "sync_committee" (list? SyncMisses.ofJson?)
    active := ← Share.ofFields? fields "active_validators" "active_balance"
    participating := ← Outcome.ofFields? fields "participating_validators" "participating_balance"
      "nonparticipating_validators"
    headCorrect := ← Outcome.ofFields? fields "head_correct_validators" "head_correct_balance"
      "nonheadcorrect_validators"
    headTimely := ← Outcome.ofFields? fields "head_timely_validators" "head_timely_balance"
      "nonheadtimely_validators"
    sourceTimely := ← Outcome.ofFields? fields "source_timely_validators" "source_timely_balance"
      "nonsourcetimely_validators"
    targetCorrect := ← Outcome.ofFields? fields "target_correct_validators"
      "target_correct_balance" "nontargetcorrect_validators"
    targetTimely := ← Outcome.ofFields? fields "target_timely_validators" "target_timely_balance"
      "nontargettimely_validators"
    blobs := ← fields.read? "blobs" uint64? }

theorem list?_misses {xs : List SyncMisses} :
    list? SyncMisses.ofJson? (array (xs.map SyncMisses.toJson)) = some xs :=
  list?_map fun x _ => x.ofJson?_toJson

theorem list?_entries {xs : List Participation.Entry} :
    list? Participation.Entry.ofJson? (array (xs.map Participation.Entry.toJson)) = some xs :=
  list?_map fun x _ => x.ofJson?_toJson

theorem ofJson?_entriesJson (x : EpochSummary Participation.Entry) :
    ofJson? x.entriesJson = some x := by
  obtain ⟨fields, hfields, hread⟩ : ∃ fields, x.entriesJson.fields? names = some fields ∧ _ :=
    exists_fields?_record rfl (by decide)
  simp only [shareMembers, lackingMember, List.cons_append, List.nil_append,
    List.forall_mem_cons] at hread
  rw [ofJson?, hfields, Option.bind_eq_bind, Option.bind_some]
  simp only [hread, Share.ofFields?, Outcome.ofFields?, uint64?_count, natural?_natural,
    list?_proposals, list?_misses, list?_entries]
  rfl

theorem legible_entriesJson {x : EpochSummary Participation.Entry} : x.entriesJson.Legible := by
  simp [entriesJson, legible_record, legible_array, shareMembers, lackingMember,
    Participation.Entry.legible_toJson]

/-- The lists of entries, by name. -/
def lists (x : EpochSummary Participation.Entry) : List (String × List Participation.Entry) :=
  [("nonparticipating_validators", x.participating.lacking),
    ("nonheadcorrect_validators", x.headCorrect.lacking),
    ("nonheadtimely_validators", x.headTimely.lacking),
    ("nonsourcetimely_validators", x.sourceTimely.lacking),
    ("nontargetcorrect_validators", x.targetCorrect.lacking),
    ("nontargettimely_validators", x.targetTimely.lacking)]

/-- Whether a document tells a summary: the parts can be read from it, and so can each entry. -/
structure ToldBy (x : EpochSummary Participation.Entry) (document : Json) : Prop where
  read : ofJson? document = some x
  entries : ∀ list ∈ x.lists, ∃ items, document.member? list.1 = some (.array items) ∧
    List.Forall₂ Participation.Entry.ToldBy list.2 items

theorem toldBy_entriesJson (x : EpochSummary Participation.Entry) : x.ToldBy x.entriesJson where
  read := x.ofJson?_entriesJson
  entries := by
    have hitems : ∀ list ∈ x.lists,
        x.entriesJson.member? list.1 = some (.array (list.2.map Participation.Entry.toJson)) := by
      simp [lists, entriesJson, member?_record, shareMembers, lackingMember, List.lookup_cons]
    intro list hlist
    refine ⟨_, hitems list hlist, ?_⟩
    rw [List.forall₂_map_right_iff, List.forall₂_same]
    exact fun entry _ => entry.toldBy_toJson

/-- All parts of a vote are known, or none of them is. So nothing is lost in an entry. -/
theorem entry_injective : Function.Injective Participation.entry := by
  intro x y h
  obtain ⟨validator, balance, slot, committee, inclusion, flags⟩ := x
  obtain ⟨validator', balance', slot', committee', inclusion', flags'⟩ := y
  simp only [Participation.entry, Participation.Entry.mk.injEq] at h
  obtain ⟨rfl, rfl, rfl, rfl, hheadVote, hhead, htargetVote, htarget, hslot, rfl⟩ := h
  cases inclusion with
  | none => cases inclusion' with
    | none => rfl
    | some _ => cases hslot
  | some inclusion => cases inclusion' with
    | none => cases hslot
    | some inclusion' =>
      cases inclusion
      cases inclusion'
      simp_all

theorem map_injective {ρ σ : Type} {f : ρ → σ} (hf : Function.Injective f) :
    Function.Injective (map f) := by
  have houtcome : Function.Injective (Outcome.map f) := by
    rintro ⟨met, lacking⟩ ⟨met', lacking'⟩ h
    simp only [Outcome.map, Outcome.mk.injEq] at h
    obtain ⟨rfl, h⟩ := h
    rw [List.map_injective_iff.2 hf h]
  intro x y h
  cases x
  cases y
  simp only [map, mk.injEq, houtcome.eq_iff] at h ⊢
  exact h

end EpochSummary

/-! ## Validators -/

/-- Reads the duties of a slot. -/
def SlotDuties.ofJson? (value : Json) : Option SlotDuties := do
  let fields ← value.fields? ["slot", "attestations_expected", "attestations_included",
    "correct_head", "timely_head", "correct_target", "timely_target", "timely_source"]
  return {
    slot := ← fields.read? "slot" uint64?
    expected := ← fields.read? "attestations_expected" natural?
    included := ← fields.read? "attestations_included" natural?
    correctHead := ← fields.read? "correct_head" natural?
    timelyHead := ← fields.read? "timely_head" natural?
    correctTarget := ← fields.read? "correct_target" natural?
    timelyTarget := ← fields.read? "timely_target" natural?
    timelySource := ← fields.read? "timely_source" natural? }

theorem SlotDuties.ofJson?_toJson (x : SlotDuties) : ofJson? x.toJson = some x := by
  simp [ofJson?, toJson, Fields.read?]

theorem SlotDuties.legible_toJson {x : SlotDuties} : x.toJson.Legible := by
  simp [toJson, legible_record]

/-- Reads a seat among other members. -/
def Seat.ofFields? (fields : Fields) : Option Seat := do
  return {
    validator := ← fields.read? "validator_index" uint64?
    slot := ← fields.read? "slot" uint64?
    committee := ← fields.read? "committee_index" uint64? }

/-- Reads a seat. -/
def Seat.ofJson? (value : Json) : Option Seat := do
  Seat.ofFields? (← value.fields? ["validator_index", "slot", "committee_index"])

theorem Seat.ofJson?_record (x : Seat) : ofJson? (.record x.members) = some x := by
  simp [ofJson?, ofFields?, members, Fields.read?]

/-- Reads a vote that was wrong or late. -/
def VoteFault.ofJson? (value : Json) : Option VoteFault := do
  let fields ← value.fields?
    ["validator_index", "slot", "committee_index", "inclusion_slot", "inclusion_delay"]
  return {
    seat := ← Seat.ofFields? fields
    inclusion := ← fields.read? "inclusion_slot" uint64?
    delay := ← fields.read? "inclusion_delay" uint64? }

theorem VoteFault.ofJson?_toJson (x : VoteFault) : ofJson? x.toJson = some x := by
  simp [ofJson?, toJson, Seat.ofFields?, Seat.members, Fields.read?]

theorem VoteFault.legible_toJson {x : VoteFault} : x.toJson.Legible := by
  simp [toJson, Seat.members, legible_record]

namespace ValidatorSummary

/-- The names under which the parts of a summary are told. -/
def names : List String :=
  ["epoch", "first_slot", "last_slot", "validators", "active_validators",
    "participating_validators", "non_participating_validators", "incorrect_head_validators",
    "untimely_head_validators", "untimely_source_validators", "incorrect_target_validators",
    "untimely_target_validators", "slots", "proposals"]

/-- Reads a summary. -/
def ofJson? (value : Json) : Option ValidatorSummary := do
  let fields ← value.fields? names
  let first ← fields.read? "first_slot" uint64?
  let last ← fields.read? "last_slot" uint64?
  return {
    epoch := ← fields.read? "epoch" uint64?
    epochSlots := ⟨first, last⟩
    validators := ← fields.read? "validators" (list? uint64?)
    active := ← fields.read? "active_validators" natural?
    participating := ← fields.read? "participating_validators" natural?
    nonParticipating := ← fields.read? "non_participating_validators" (list? Seat.ofJson?)
    incorrectHead := ← fields.read? "incorrect_head_validators" (list? VoteFault.ofJson?)
    untimelyHead := ← fields.read? "untimely_head_validators" (list? VoteFault.ofJson?)
    untimelySource := ← fields.read? "untimely_source_validators" (list? VoteFault.ofJson?)
    incorrectTarget := ← fields.read? "incorrect_target_validators" (list? VoteFault.ofJson?)
    untimelyTarget := ← fields.read? "untimely_target_validators" (list? VoteFault.ofJson?)
    slots := ← fields.read? "slots" (list? SlotDuties.ofJson?)
    proposals := ← fields.read? "proposals" (list? Proposal.ofJson?) }

theorem list?_seats {xs : List Seat} :
    list? Seat.ofJson? (array (xs.map fun seat => record seat.members)) = some xs :=
  list?_map fun x _ => x.ofJson?_record

theorem list?_faults {xs : List VoteFault} :
    list? VoteFault.ofJson? (array (xs.map VoteFault.toJson)) = some xs :=
  list?_map fun x _ => x.ofJson?_toJson

theorem list?_slots {xs : List SlotDuties} :
    list? SlotDuties.ofJson? (array (xs.map SlotDuties.toJson)) = some xs :=
  list?_map fun x _ => x.ofJson?_toJson

theorem ofJson?_toJson (x : ValidatorSummary) : ofJson? x.toJson = some x := by
  obtain ⟨fields, hfields, hread⟩ : ∃ fields, x.toJson.fields? names = some fields ∧ _ :=
    exists_fields?_record rfl (by decide)
  simp only [faultsMember, List.forall_mem_cons] at hread
  rw [ofJson?, hfields, Option.bind_eq_bind, Option.bind_some]
  simp only [hread, uint64?_count, natural?_natural, list?_counts, list?_seats, list?_faults,
    list?_slots, list?_proposals]
  rfl

theorem legible_toJson {x : ValidatorSummary} : x.toJson.Legible := by
  simp [toJson, faultsMember, legible_record, legible_array, Seat.members, VoteFault.legible_toJson,
    SlotDuties.legible_toJson]

end ValidatorSummary

/-! ## Lines -/

namespace Json

/-- Whether a line holds one document, which ends with the line. -/
structure OnLine (document : Json) (line : String) : Prop where
  exists_text : ∃ text, line = text ++ "\n" ∧ '\n' ∉ text.toList ∧ read? text = some document
  read : read? line = some document

theorem onLine_renderLine {v : Json} (h : v.Legible) : v.OnLine v.renderLine where
  exists_text := by
    refine ⟨v.render, rfl, ?_, read?_render h⟩
    rw [render, String.toList_ofList]
    exact newline_not_mem_chars h
  read := read?_render_append h (List.all_eq_true.1 rfl)

/-- Different documents stand on different lines. -/
theorem renderLine_inj {v w : Json} (hv : v.Legible) (hw : w.Legible)
    (h : v.renderLine = w.renderLine) : v = w := by
  have hread := (onLine_renderLine hv).read
  rw [h, (onLine_renderLine hw).read] at hread
  exact (Option.some.inj hread).symm

end Json

/-- Reads a line as a summary of entries. -/
def EpochSummary.ofLine? (line : String) : Option (EpochSummary Participation.Entry) := do
  ofJson? (← read? line)

/-- Reads a line as a summary. -/
def ValidatorSummary.ofLine? (line : String) : Option ValidatorSummary := do
  ofJson? (← read? line)

theorem EpochSummary.ofLine?_renderLine (x : EpochSummary Participation.Entry) :
    ofLine? x.entriesJson.renderLine = some x := by
  rw [ofLine?, (onLine_renderLine legible_entriesJson).read, Option.bind_eq_bind,
    Option.bind_some, x.ofJson?_entriesJson]

theorem ValidatorSummary.ofLine?_renderLine (x : ValidatorSummary) :
    ofLine? x.toJson.renderLine = some x := by
  rw [ofLine?, (onLine_renderLine legible_toJson).read, Option.bind_eq_bind, Option.bind_some,
    x.ofJson?_toJson]

theorem EpochSummary.line_injective :
    Function.Injective fun x : EpochSummary Participation.Entry => x.entriesJson.renderLine :=
  injective_of_read? ofLine? ofLine?_renderLine

theorem ValidatorSummary.line_injective :
    Function.Injective fun x : ValidatorSummary => x.toJson.renderLine :=
  injective_of_read? ofLine? ofLine?_renderLine

/-- Only one kind of summary counts blobs. -/
theorem EpochSummary.line_ne (x : EpochSummary Participation.Entry) (y : ValidatorSummary) :
    x.entriesJson.renderLine ≠ y.toJson.renderLine := by
  intro h
  have hdocument := renderLine_inj legible_entriesJson ValidatorSummary.legible_toJson h
  have hblobs : x.entriesJson.member? "blobs" = some (.count x.blobs) := by
    simp [entriesJson, member?_record, shareMembers, lackingMember, List.lookup_cons]
  have hnone : y.toJson.member? "blobs" = none := by
    simp [ValidatorSummary.toJson, ValidatorSummary.faultsMember, member?_record, List.lookup_cons]
  rw [hdocument, hnone] at hblobs
  cases hblobs

/-- **Reports lose nothing.** What is printed for a summary is one document on one line. All parts
    of the summary can be read from the members of the document by their names, lists in their
    order, and of each entry every flag is told once and every part of the vote just if it is known.
    So different summaries, be it of one kind or of two, are never printed alike. -/
theorem reports_read_back :
    (∀ x : EpochSummary Participation.Entry, ∃ document : Json,
      document.OnLine x.entriesJson.renderLine ∧ x.ToldBy document) ∧
    (∀ x : ValidatorSummary, ∃ document : Json,
      document.OnLine x.toJson.renderLine ∧ ValidatorSummary.ofJson? document = some x) ∧
    Function.Injective (fun x : EpochSummary Participation.Entry => x.entriesJson.renderLine) ∧
    Function.Injective (fun x : EpochSummary => x.toJson.renderLine) ∧
    Function.Injective (fun x : ValidatorSummary => x.toJson.renderLine) ∧
    ∀ (x : EpochSummary Participation.Entry) (y : ValidatorSummary),
      x.entriesJson.renderLine ≠ y.toJson.renderLine := by
  refine ⟨fun x => ?_, fun x => ?_, EpochSummary.line_injective, ?_,
    ValidatorSummary.line_injective, EpochSummary.line_ne⟩
  · exact ⟨_, onLine_renderLine EpochSummary.legible_entriesJson, x.toldBy_entriesJson⟩
  · exact ⟨_, onLine_renderLine ValidatorSummary.legible_toJson, x.ofJson?_toJson⟩
  · exact EpochSummary.line_injective.comp
      (EpochSummary.map_injective EpochSummary.entry_injective)

end BeaconDuties
