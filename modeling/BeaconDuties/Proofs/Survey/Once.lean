import Mathlib.Data.List.Nodup
import BeaconDuties.Proofs.Survey.Answer
import BeaconDuties.Proofs.Survey.Keeping

/-!
Surveys that ask for nothing twice.

Blocks and headers of slots are looked up as often as they are needed, and are asked for once at
most because they are remembered. All else is asked for in a fixed order, which `Survey.Covers`
tells. If nothing comes twice in this order, nothing is asked for twice at all
(`Survey.Composed.pairwise_requests`), since a survey ends with the first fault.

If nothing is asked for twice, it makes no difference whether answers change: the result is that
for fixed answers (`Survey.answer_ofTurns`).
-/

namespace BeaconDuties

/-- What a request is for, without the validators that it names. Requests for the block or the
    header of a slot are left out. -/
def Request.topic? : Request → Option Request
  | block (.slot _) => none
  | header (.slot _) => none
  | validators state _ => some (validators state [])
  | attesters epoch _ => some (attesters epoch [])
  | request => some request

theorem Request.OfSlot.topic? : ∀ {request : Request}, request.OfSlot → request.topic? = none
  | .block (.slot _), _ => rfl
  | .header (.slot _), _ => rfl

theorem Request.exists_key? : ∀ {request : Request}, request.topic? = none →
    ∃ key, request.key? = some key
  | .block (.slot slot), _ => ⟨.blockAt slot, rfl⟩
  | .header (.slot slot), _ => ⟨.header slot, rfl⟩

namespace Survey

variable {α β : Type} {survey : Survey α} {f : α → Survey β} {P : Request → Prop}
  {memory after : Memory} {turns : List Turn} {result : Except Failure α} {topic : Request}
  {topics : List Request}

/-- Whatever a node answers, the requests of a survey are for these topics at most, in this order,
    but for blocks and headers of slots. -/
structure Covers (topics : List Request) (survey : Survey α) : Prop where
  sublist : ∀ {memory after : Memory} {turns : List Turn} {result : Except Failure α},
    (survey.resume memory).Course turns (result, after) →
      (turns.filterMap (·.request.topic?)).Sublist topics

namespace Covers

/-- A survey of blocks and headers of slots covers no topics. -/
theorem nothing (h : Composed Request.OfSlot True survey) : Covers topics survey := by
  refine ⟨fun hc => ?_⟩
  rw [List.filterMap_eq_nil_iff.2 fun turn ht => (h.asks hc turn ht).topic?]
  exact List.nil_sublist _

theorem ask {request : Request} (h : request.topic? = some topic) :
    Covers [topic] (ask request) := by
  refine ⟨fun hc => ?_⟩
  obtain ⟨-, answer, rfl, -⟩ := course_ask.1 hc
  simp [h]

theorem committees {clock : Clock} {epoch : Epoch} :
    Covers [.committees (.slot (clock.firstSlot epoch)) (some epoch)] (committees clock epoch) := by
  refine ⟨fun hc => ?_⟩
  obtain rfl | ⟨answer, rfl⟩ := @LookUp.turns_of_course _ _ _ (.committees clock epoch) _ hc
  · exact List.nil_sublist _
  · exact .refl _

theorem during {activity : Activity} (h : Covers topics survey) :
    Covers topics (during activity survey) := by
  refine ⟨fun hc => ?_⟩
  obtain ⟨inner, hinner, -⟩ := course_during.1 hc
  exact h.sublist hinner

theorem bind {topics' : List Request} (h : Covers topics survey)
    (hf : ∀ a, Covers topics' (f a)) : Covers (topics ++ topics') (survey >>= f) := by
  refine ⟨fun hc => ?_⟩
  obtain ⟨failure, hfirst, -⟩ | ⟨first, rest, a, between, hfirst, hrest, rfl⟩ := course_bind.1 hc
  · exact (h.sublist hfirst).trans (List.sublist_append_left ..)
  · rw [List.filterMap_append]
    exact (h.sublist hfirst).append ((hf a).sublist hrest)

/-- A question comes first. -/
theorem next (h : Covers [topic] survey) (hf : ∀ a, Covers topics (f a)) :
    Covers (topic :: topics) (survey >>= f) := h.bind hf

/-- Blocks and headers of slots come first. -/
theorem skip (h : Composed Request.OfSlot True survey) (hf : ∀ a, Covers topics (f a)) :
    Covers topics (survey >>= f) := by
  have hfirst : Covers [] survey := nothing h
  exact hfirst.bind hf

/-- Blocks and headers of slots come last. -/
theorem last (h : Covers topics survey) (hf : ∀ a, Composed Request.OfSlot True (f a)) :
    Covers topics (survey >>= f) := by
  have hlast : ∀ a, Covers [] (f a) := fun a => nothing (hf a)
  exact List.append_nil topics ▸ h.bind hlast

theorem ite {c : Prop} [Decidable c] {s t : Survey α} (hs : Covers topics s)
    (ht : Covers topics t) : Covers topics (if c then s else t) := by
  split
  · exact hs
  · exact ht

end Covers

/-- If no topic comes twice, nothing is asked for twice. -/
theorem Composed.pairwise_requests (h : Composed P True survey) (hcovers : Covers topics survey)
    (hnodup : topics.Nodup) (hc : survey.inquiry.Course turns result) :
    turns.Pairwise fun turn later => turn.request ≠ later.request := by
  obtain ⟨after, hresume⟩ := course_inquiry.1 hc
  have htopics := List.pairwise_filterMap.1 (hnodup.sublist (hcovers.sublist hresume))
  have honce := (h.keeps hresume).once
  have hanswered := h.heeds.pairwise_answered hc
  refine (htopics.and (honce.and hanswered)).imp ?_
  rintro turn later ⟨htopic, honce, reply, hreply⟩ heq
  cases ht : turn.request.topic? with
  | some topic => exact htopic topic ht topic (heq ▸ ht) rfl
  | none =>
    obtain ⟨key, hkey⟩ := Request.exists_key? ht
    obtain ⟨answer, hfact⟩ := exists_fact? hkey hreply
    exact honce _ hfact (heq ▸ hkey)

end Survey

/-! ## Courses in which nothing is asked for twice -/

open Classical in
/-- The answers of these turns, and a fault for all that is not asked for. -/
noncomputable def Answers.ofTurns (turns : List Turn) : Answers := fun request =>
  if h : ∃ answer, ⟨request, answer⟩ ∈ turns then h.choose else .error .timeout

theorem Answers.mem_of_ofTurns {turns : List Turn} {request : Request} {reply : request.Answer}
    (h : Answers.ofTurns turns request = .ok reply) : ⟨request, .ok reply⟩ ∈ turns := by
  unfold ofTurns at h
  split at h
  · next hasked => exact h ▸ hasked.choose_spec
  · cases h

theorem Answers.ofTurns_eq {turns : List Turn}
    (h : turns.Pairwise fun turn later => turn.request ≠ later.request) {turn : Turn}
    (ht : turn ∈ turns) : Answers.ofTurns turns turn.request = turn.answer := by
  obtain ⟨request, answer⟩ := turn
  have hasked : ∃ answer, ⟨request, answer⟩ ∈ turns := ⟨answer, ht⟩
  have hsame := List.inj_on_of_nodup_map (List.pairwise_map.2 h) hasked.choose_spec ht rfl
  rw [ofTurns, dif_pos hasked]
  injection hsame with _ hsame

/-- An inquiry that takes these turns comes to the same result with their answers. -/
theorem Inquiry.Course.run_ofTurns {α : Type} {node : Answers} {inquiry : Inquiry α}
    {turns : List Turn} {result : α} (hc : inquiry.Course turns result)
    (h : ∀ turn ∈ turns, node turn.request = turn.answer) : (inquiry.run node).1 = result := by
  induction hc with
  | done => rfl
  | ask answer _ ih =>
    obtain ⟨hfirst, hrest⟩ := List.forall_mem_cons.1 h
    rw [Inquiry.run, hfirst]
    exact ih hrest

/-- A survey comes to the result of a course for the answers of its turns. -/
theorem Survey.answer_of_course {α : Type} {node : Answers} {survey : Survey α} {turns : List Turn}
    {result : Except Failure α} (hc : survey.inquiry.Course turns result)
    (h : ∀ turn ∈ turns, node turn.request = turn.answer) : survey.answer node = result :=
  hc.run_ofTurns h

/-- Whatever a node answers, a survey that asks for nothing twice comes to a result that it has for
    fixed answers, too. -/
theorem Survey.answer_ofTurns {α : Type} {survey : Survey α} {turns : List Turn}
    {result : Except Failure α} (hc : survey.inquiry.Course turns result)
    (h : turns.Pairwise fun turn later => turn.request ≠ later.request) :
    survey.answer (.ofTurns turns) = result :=
  answer_of_course hc fun _ ht => Answers.ofTurns_eq h ht

end BeaconDuties
