import BeaconDuties.Proofs.Survey.Keeping
import BeaconDuties.Proofs.Survey.Sightings

/-!
What surveys ask a node.

`Survey.requests` lists the requests of a survey.

* `Survey.Asks` says that all of them are of a kind, whatever has been remembered faithfully, and
  that blocks are remembered only if they have been asked for. A survey asks for what it is composed
  of (`Survey.Asks.of_composed`). A sequence asks what its parts ask (`Survey.Asks.bind`), and the
  second part only for what the first one may answer.
* `Survey.Seeks` says that the block of a slot is asked for whenever the survey succeeds, unless it
  is remembered. A sequence seeks what its parts seek (`Survey.Seeks.first`, `Survey.Seeks.second`):
  what the first part has made the second one remember, the first one has asked for.
-/

namespace BeaconDuties.Survey

variable {α β σ : Type} {node : Answers} {clock : Clock} {limits : Limits}
  {survey : Survey α} {f : α → Survey β} {P Q : Request → Prop}

/-- The requests of a survey for fixed answers, starting with a given memory. -/
def requestsFrom (node : Answers) (survey : Survey α) (memory : Memory) : List Request :=
  ((survey.resume memory).run node).2

/-- The requests of a survey for fixed answers, with nothing remembered before it. -/
def requests (node : Answers) (survey : Survey α) : List Request := (survey.inquiry.run node).2

theorem requests_eq (survey : Survey α) :
    survey.requests node = survey.requestsFrom node .empty := by
  change (Inquiry.run node (Inquiry.bind (survey.resume .empty) fun x => .done x.1)).2 = _
  rw [Inquiry.run_bind]
  exact List.append_nil _

theorem requestsFrom_bind (survey : Survey α) (f : α → Survey β) (memory : Memory) :
    requestsFrom node (survey >>= f) memory =
      requestsFrom node survey memory ++
        match outcome node survey memory with
        | (.ok a, after) => requestsFrom node (f a) after
        | (.error _, _) => [] := by
  change (Inquiry.run node (Inquiry.bind (survey memory)
    fun x => ExceptT.bindCont f x.1 x.2)).2 = _
  rw [Inquiry.run_bind]
  change requestsFrom node survey memory ++ ((ExceptT.bindCont f (outcome node survey memory).1
    (outcome node survey memory).2).run node).2 = _
  rcases outcome node survey memory with ⟨_ | a, after⟩ <;> rfl

theorem requestsFrom_bind_pure (survey : Survey α) (f : α → β) (memory : Memory) :
    requestsFrom node (survey >>= fun a => pure (f a)) memory = requestsFrom node survey memory := by
  rw [requestsFrom_bind]
  rcases outcome node survey memory with ⟨_ | a, after⟩ <;> exact List.append_nil _

theorem requestsFrom_ask (request : Request) (memory : Memory) :
    requestsFrom node (ask request) memory = [request] := by
  simp only [requestsFrom, resume, ask, Inquiry.run]
  cases node request <;> rfl

theorem mem_requestsFrom_ask (request : Request) (memory : Memory) :
    request ∈ requestsFrom node (ask request) memory := by
  rw [requestsFrom_ask]
  exact List.mem_singleton_self request

theorem requestsFrom_during (activity : Activity) (survey : Survey α) (memory : Memory) :
    requestsFrom node (during activity survey) memory = requestsFrom node survey memory := by
  change (Inquiry.run node (Inquiry.bind (survey memory)
    fun x => .done (x.1.mapError (Failure.during activity), x.2))).2 = _
  rw [Inquiry.run_bind]
  exact List.append_nil _

theorem requestsFrom_remember (known : Memory → Option α) (question : Survey α)
    (keep : Memory → α → Memory) (memory : Memory) :
    requestsFrom node (remember known question keep) memory =
      match known memory with
      | some _ => []
      | none => requestsFrom node question memory := by
  have hget : outcome node (get : Survey Memory) memory = (.ok memory, memory) := rfl
  rw [remember, requestsFrom_bind, hget]
  change requestsFrom node _ memory = _
  cases known memory with
  | some answer => rfl
  | none =>
    simp only
    rw [requestsFrom_bind]
    rcases outcome node question memory with ⟨_ | answer, after⟩ <;> exact List.append_nil _

/-- Fixed answers make a course from any memory. -/
theorem course_outcome (node : Answers) (survey : Survey α) (memory : Memory) :
    (survey.resume memory).Course
      ((requestsFrom node survey memory).map fun request => ⟨request, node request⟩)
      (outcome node survey memory) :=
  Inquiry.course_run node _

/-! ## Requests of a kind -/

theorem eq_block_of_key? {slot : Slot} : ∀ {request : Request},
    request.key? = some (.blockAt slot) → request = .block (.slot slot)
  | .block (.slot _), h => by
    cases h
    rfl

/-- A request is for the block of one of the given slots, if it is for the block of a slot at
    all. -/
def BlocksIn (slots : Slot → Prop) : Request → Prop
  | .block (.slot slot) => slots slot
  | _ => True

/-- Whatever has been remembered faithfully, all requests of a survey are of a kind. -/
structure Asks (node : Answers) (clock : Clock) (survey : Survey α) (P : Request → Prop) :
    Prop where
  asked : ∀ {memory : Memory}, memory.Faithful node clock →
    ∀ request ∈ requestsFrom node survey memory, P request
  /-- A block that is remembered after the survey was remembered before it, or asked for. -/
  kept : ∀ {memory : Memory}, memory.Faithful node clock →
    ∀ slot ∈ (outcome node survey memory).2.blocksBySlot,
      slot ∈ memory.blocksBySlot ∨ .block (.slot slot) ∈ requestsFrom node survey memory

namespace Asks

theorem requests (h : Asks node clock survey P) : ∀ request ∈ survey.requests node, P request := by
  rw [requests_eq]
  exact h.asked .empty

/-- A survey asks for what it is composed of. -/
theorem of_composed (h : Composed P True survey) : Asks node clock survey P := by
  refine ⟨fun {memory} _ request hrequest => ?_, fun {memory} _ slot hslot => ?_⟩
  all_goals have hc := course_outcome node survey memory
  · exact h.asks hc ⟨request, node request⟩ (List.mem_map_of_mem hrequest)
  · rw [Std.ExtTreeMap.mem_iff_isSome_getElem?]
    refine ((h.keeps hc).known_or_asked (Std.ExtTreeMap.mem_iff_isSome_getElem?.1 hslot :
      (Memory.get? _ (.blockAt slot)).isSome)).imp_right ?_
    rintro ⟨turn, hturn, hkey⟩
    obtain ⟨request, hrequest, rfl⟩ := List.mem_map.1 hturn
    exact eq_block_of_key? hkey ▸ hrequest

theorem pure (a : α) : Asks node clock (pure a : Survey α) P := .of_composed (.pure a)

theorem bind (h : Asks node clock survey P) (hs : Steady node clock survey)
    (hf : ∀ a, answer node survey = .ok a → Asks node clock (f a) P) :
    Asks node clock (survey >>= f) P := by
  refine ⟨fun {memory} hm request hr => ?_, fun {memory} hm slot hslot => ?_⟩
  all_goals
    have ha := hs.result hm
    have hm' := hs.memory hm
    have hk := h.kept hm
  · rw [requestsFrom_bind, List.mem_append] at hr
    rcases hr with hr | hr
    · exact h.asked hm request hr
    · rcases ho : outcome node survey memory with ⟨failure | a, after⟩
      all_goals rw [ho] at ha hm' hr
      · simp at hr
      · exact (hf a ha.symm).asked hm' request hr
  · rw [requestsFrom_bind, List.mem_append]
    rw [outcome_bind] at hslot
    rcases ho : outcome node survey memory with ⟨failure | a, after⟩
    all_goals rw [ho] at ha hm' hk hslot
    · exact (hk slot hslot).imp_right .inl
    · rcases (hf a ha.symm).kept hm' slot hslot with hslot | hr
      · exact (hk slot hslot).imp_right .inl
      · exact .inr (.inr hr)

theorem ite {c : Prop} [Decidable c] {s t : Survey α} (hs : Asks node clock s P)
    (ht : Asks node clock t P) : Asks node clock (if c then s else t) P := by
  split
  · exact hs
  · exact ht

end Asks

/-! ## Blocks that are asked for -/

/-- Whenever a survey succeeds, it has asked for the block of a slot, unless that was remembered. -/
structure Seeks (node : Answers) (clock : Clock) (survey : Survey α) (slot : Slot) : Prop where
  sought : ∀ {memory : Memory} {a : α}, memory.Faithful node clock →
    (outcome node survey memory).1 = .ok a →
      slot ∈ memory.blocksBySlot ∨ .block (.slot slot) ∈ requestsFrom node survey memory

namespace Seeks

variable {slot : Slot}

theorem requests {a : α} (h : Seeks node clock survey slot) (ha : answer node survey = .ok a) :
    .block (.slot slot) ∈ survey.requests node := by
  rw [answer_eq] at ha
  rw [requests_eq]
  exact (h.sought .empty ha).resolve_left (by simp [Memory.empty])

theorem fail (cause : Cause) : Seeks node clock (fail cause : Survey α) slot :=
  ⟨fun _ h => nomatch h⟩

theorem during {activity : Activity} (h : Seeks node clock survey slot) :
    Seeks node clock (during activity survey) slot := by
  refine ⟨fun {memory a} hm ha => ?_⟩
  rw [requestsFrom_during]
  rw [outcome_during] at ha
  exact h.sought hm (mapError_eq_ok.1 ha)

theorem ite {c : Prop} [Decidable c] {s t : Survey α} (hs : Seeks node clock s slot)
    (ht : Seeks node clock t slot) : Seeks node clock (if c then s else t) slot := by
  split
  · exact hs
  · exact ht

/-- The first part of a sequence seeks a block. -/
theorem first (h : Seeks node clock survey slot) : Seeks node clock (survey >>= f) slot := by
  refine ⟨fun {memory b} hm hb => ?_⟩
  rw [requestsFrom_bind, List.mem_append]
  rw [outcome_bind] at hb
  rcases ho : outcome node survey memory with ⟨failure | a, after⟩
  all_goals rw [ho] at hb
  · cases hb
  · exact (h.sought hm (congrArg Prod.fst ho)).imp_right .inl

/-- The second part of a sequence seeks a block. The first one may be any survey that is composed as
    steady ones are. -/
theorem second (h : Composed (Request.ByFirstSlot clock) True survey)
    (hf : ∀ a, answer node survey = .ok a → Seeks node clock (f a) slot) :
    Seeks node clock (survey >>= f) slot := by
  refine ⟨fun {memory b} hm hb => ?_⟩
  have hs : Steady node clock survey := .of_composed h
  have hasks : Asks node clock survey (Request.ByFirstSlot clock) := .of_composed h
  have ha := hs.result hm
  have hm' := hs.memory hm
  have hk := hasks.kept hm slot
  rw [requestsFrom_bind, List.mem_append]
  rw [outcome_bind] at hb
  rcases ho : outcome node survey memory with ⟨failure | a, after⟩
  all_goals rw [ho] at ha hm' hk hb
  · cases hb
  · rcases (hf a ha.symm).sought hm' hb with hslot | hr
    · exact (hk hslot).imp_right .inl
    · exact .inr (.inr hr)

theorem blockIn : Seeks node clock (blockIn slot) slot := by
  refine .during ⟨fun {memory a} _ _ => ?_⟩
  rw [Survey.blockAt, requestsFrom_remember]
  cases hk : memory.blocksBySlot[slot]? with
  | some block? => exact .inl (Std.ExtTreeMap.mem_iff_isSome_getElem?.2 (by simp [hk]))
  | none => exact .inr (mem_requestsFrom_ask _ _)

theorem proposals : ∀ {duties : List ProposerDuty} {duty : ProposerDuty}, duty ∈ duties →
    Seeks node clock (proposals duties) duty.slot
  | _ :: _, _, .head _ => .first .blockIn
  | _ :: _, _, .tail _ h =>
    .second (.blockIn trivial) fun _ _ => .first (proposals h)

theorem gatherSlots {find : σ → Slot → Survey (List α × σ)}
    (hc : ∀ state slot, Composed (Request.ByFirstSlot clock) True (find state slot))
    (h : ∀ state, Seeks node clock (find state slot) slot) :
    ∀ {count : Nat} {start : Slot} {state : σ}, slot ∈ slotsFrom count start →
      Seeks node clock (gatherSlots find count start state) slot
  | count + 1, start, state, hm => by
    rcases List.mem_cons.1 hm with rfl | hm
    · exact .first (h state)
    · exact .second (hc state start) fun _ _ => .first (gatherSlots hc h hm)

end Seeks

end BeaconDuties.Survey
