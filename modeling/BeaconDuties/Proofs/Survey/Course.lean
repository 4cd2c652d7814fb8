import BeaconDuties.Report.Proposal
import BeaconDuties.Survey.Judgement

/-!
What becomes of a survey when a node fails.

A node need not answer the same request alike every time, so what happens is told by a
`Inquiry.Course`: the turns of asking and answering, and the result in the end. A course of a survey
is taken apart by one equivalence for each part (`Survey.course_bind` and others).

`Survey.Heeds` says that a survey heeds faults. Whenever it asks, a fault ends it at once, and its
result tells of this fault; no answer is made a fault. Sequences of such surveys are such surveys
(`Survey.Heeds.bind`), and so is asking from memory (`Survey.Heeds.remember`). In every course of
such a survey a fault comes last (`Survey.Heeds.last`).
-/

namespace BeaconDuties

variable {α β : Type}

/-- A request and the answer to it. -/
structure Turn where
  request : Request
  answer : Except NodeFault request.Answer

namespace Inquiry

/-- An inquiry may take these turns and come to this result. -/
inductive Course : Inquiry α → List Turn → α → Prop where
  | done {result : α} : Course (.done result) [] result
  | ask {request : Request} {next : Except NodeFault request.Answer → Inquiry α}
      {turns : List Turn} {result : α} (answer : Except NodeFault request.Answer)
      (rest : Course (next answer) turns result) :
      Course (.ask request next) (⟨request, answer⟩ :: turns) result

/-- Fixed answers make a course. -/
theorem course_run (node : Answers) : ∀ inquiry : Inquiry α,
    inquiry.Course ((inquiry.run node).2.map fun request => ⟨request, node request⟩)
      (inquiry.run node).1
  | .done _ => .done
  | .ask request next => .ask (node request) (course_run node (next (node request)))

/-- A sequence takes the turns of its parts, one after the other. -/
theorem course_bind {inquiry : Inquiry α} {f : α → Inquiry β} {turns : List Turn} {b : β} :
    (inquiry.bind f).Course turns b ↔
      ∃ first rest a, inquiry.Course first a ∧ (f a).Course rest b ∧ turns = first ++ rest := by
  constructor
  · intro h
    induction inquiry generalizing turns with
    | done a => exact ⟨[], turns, a, .done, h, rfl⟩
    | ask request next ih =>
      cases h with
      | ask answer h =>
        obtain ⟨first, rest, a, hfirst, hrest, rfl⟩ := ih answer h
        exact ⟨_, rest, a, .ask answer hfirst, hrest, rfl⟩
  · rintro ⟨first, rest, a, hfirst, hrest, rfl⟩
    induction hfirst with
    | done => exact hrest
    | ask answer _ ih => exact .ask answer (ih hrest)

/-! ## Inquiries that stop -/

/-- A fault ends the inquiry whenever it asks. Then something holds of the fault and the result, and
    something else holds of the result if there is no fault. -/
def StopsWith (P : NodeFault → α → Prop) (Q : α → Prop) : Inquiry α → Prop
  | .done result => Q result
  | .ask _ next =>
    (∀ fault, ∃ result, next (.error fault) = .done result ∧ P fault result) ∧
      ∀ answer, (next (.ok answer)).StopsWith P Q

section StopsWith

variable {P : NodeFault → α → Prop} {Q : α → Prop}

/-- A sequence stops if what follows does, and passes on the results of faults. -/
theorem StopsWith.bind {P' : NodeFault → β → Prop} {Q' : β → Prop} {f : α → Inquiry β}
    (hf : ∀ a, Q a → (f a).StopsWith P' Q')
    (hpass : ∀ fault a, P fault a → ∃ b, f a = .done b ∧ P' fault b) :
    ∀ {inquiry : Inquiry α}, inquiry.StopsWith P Q → (inquiry.bind f).StopsWith P' Q'
  | .done a, h => hf a h
  | .ask request next, h => by
    refine ⟨fun fault => ?_, fun answer => StopsWith.bind hf hpass (h.2 answer)⟩
    obtain ⟨a, ha, hP⟩ := h.1 fault
    obtain ⟨b, hb, hP'⟩ := hpass fault a hP
    refine ⟨b, ?_, hP'⟩
    change (next (.error fault)).bind f = _
    rw [ha]
    exact hb

variable {inquiry : Inquiry α} {turns : List Turn} {result : α}

/-- In a course of an inquiry that stops, a fault comes last. -/
theorem StopsWith.last (h : inquiry.StopsWith P Q) (hc : inquiry.Course turns result) :
    ∀ {before after : List Turn} {turn : Turn} {fault : NodeFault},
      turns = before ++ turn :: after → turn.answer = .error fault →
        after = [] ∧ P fault result := by
  induction hc with
  | done =>
    intro before after turn fault ht
    simp at ht
  | @ask request next turns result answer rest ih =>
    intro before after turn fault ht hfault
    cases before with
    | nil =>
      obtain ⟨rfl, rfl⟩ := List.cons.inj ht
      obtain rfl : answer = .error fault := hfault
      obtain ⟨a, ha, hP⟩ := h.1 fault
      rw [ha] at rest
      cases rest
      exact ⟨rfl, hP⟩
    | cons first before =>
      obtain ⟨rfl, hrest⟩ := List.cons.inj ht
      cases answer with
      | error failed =>
        -- the first turn has failed already, and there are no others
        obtain ⟨a, ha, -⟩ := h.1 failed
        rw [ha] at rest
        cases rest
        simp at hrest
      | ok reply => exact ih (h.2 reply) hrest hfault

/-- In a course of an inquiry that stops there is a fault, or the result is one without faults. -/
theorem StopsWith.exists_fault (h : inquiry.StopsWith P Q) (hc : inquiry.Course turns result) :
    Q result ∨ ∃ turn ∈ turns, ∃ fault, turn.answer = .error fault ∧ P fault result := by
  induction hc with
  | done => exact .inl h
  | @ask request next turns result answer rest ih =>
    cases answer with
    | error fault =>
      obtain ⟨a, ha, hP⟩ := h.1 fault
      rw [ha] at rest
      cases rest
      exact .inr ⟨_, List.mem_cons_self, fault, rfl, hP⟩
    | ok reply =>
      refine (ih (h.2 reply)).imp_right ?_
      rintro ⟨turn, ht, hturn⟩
      exact ⟨turn, List.mem_cons_of_mem _ ht, hturn⟩

end StopsWith

end Inquiry

/-! ## Courses of surveys -/

namespace Survey

variable {survey : Survey α} {f : α → Survey β} {memory after : Memory} {turns : List Turn}

theorem course_pure {a : α} {result : Except Failure α} :
    ((pure a : Survey α).resume memory).Course turns (result, after) ↔
      turns = [] ∧ result = .ok a ∧ after = memory := by
  constructor
  · intro h
    cases h
    exact ⟨rfl, rfl, rfl⟩
  · rintro ⟨rfl, rfl, rfl⟩
    exact .done

theorem course_throw {failure : Failure} {result : Except Failure α} :
    ((throw failure : Survey α).resume memory).Course turns (result, after) ↔
      turns = [] ∧ result = .error failure ∧ after = memory := by
  constructor
  · intro h
    cases h
    exact ⟨rfl, rfl, rfl⟩
  · rintro ⟨rfl, rfl, rfl⟩
    exact .done

theorem course_ask {request : Request} {result : Except Failure request.Answer} :
    ((ask request).resume memory).Course turns (result, after) ↔
      after = memory ∧ ∃ answer, turns = [⟨request, answer⟩] ∧
        result = answer.mapError fun fault => .because [] (.node fault) := by
  constructor
  · intro h
    cases h with
    | ask answer rest => cases answer <;> cases rest <;> exact ⟨rfl, _, rfl, rfl⟩
  · rintro ⟨rfl, answer, rfl, rfl⟩
    refine .ask answer ?_
    cases answer <;> exact .done

/-- A sequence fails with its first part, or goes on with the memory that this part leaves. -/
theorem course_bind {result : Except Failure β} :
    ((survey >>= f).resume memory).Course turns (result, after) ↔
      (∃ failure, (survey.resume memory).Course turns (.error failure, after) ∧
        result = .error failure) ∨
      ∃ first rest a between, (survey.resume memory).Course first (.ok a, between) ∧
        ((f a).resume between).Course rest (result, after) ∧ turns = first ++ rest := by
  change (Inquiry.bind (survey.resume memory) fun x => ExceptT.bindCont f x.1 x.2).Course _ _ ↔ _
  rw [Inquiry.course_bind]
  constructor
  · rintro ⟨first, rest, ⟨failure | a, between⟩, hfirst, hrest, rfl⟩
    · cases hrest
      rw [List.append_nil]
      exact .inl ⟨failure, hfirst, rfl⟩
    · exact .inr ⟨first, rest, a, between, hfirst, hrest, rfl⟩
  · rintro (⟨failure, h, rfl⟩ | ⟨first, rest, a, between, hfirst, hrest, rfl⟩)
    · exact ⟨turns, [], _, h, .done, (List.append_nil _).symm⟩
    · exact ⟨first, rest, _, hfirst, hrest, rfl⟩

/-- A sequence comes to something if both of its parts do. -/
theorem course_bind_ok {b : β} :
    ((survey >>= f).resume memory).Course turns (.ok b, after) ↔
      ∃ first rest a between, (survey.resume memory).Course first (.ok a, between) ∧
        ((f a).resume between).Course rest (.ok b, after) ∧ turns = first ++ rest := by
  refine course_bind.trans (or_iff_right ?_)
  rintro ⟨_, -, h⟩
  cases h

theorem course_bind_pure_ok {g : α → β} {b : β} :
    ((survey >>= fun a => pure (g a)).resume memory).Course turns (.ok b, after) ↔
      ∃ a, (survey.resume memory).Course turns (.ok a, after) ∧ b = g a := by
  simp only [course_bind_ok, course_pure]
  constructor
  · rintro ⟨first, _, a, _, h, ⟨rfl, hb, rfl⟩, rfl⟩
    rw [List.append_nil]
    exact ⟨a, h, Except.ok.inj hb⟩
  · rintro ⟨a, h, rfl⟩
    exact ⟨turns, [], a, after, h, ⟨rfl, rfl, rfl⟩, (List.append_nil _).symm⟩

theorem course_during {activity : Activity} {result : Except Failure α} :
    ((during activity survey).resume memory).Course turns (result, after) ↔
      ∃ inner, (survey.resume memory).Course turns (inner, after) ∧
        result = inner.mapError (.during activity) := by
  change (Inquiry.bind (survey.resume memory) fun x =>
    .done (x.1.mapError (Failure.during activity), x.2)).Course _ _ ↔ _
  rw [Inquiry.course_bind]
  constructor
  · rintro ⟨first, rest, ⟨inner, between⟩, hfirst, hrest, rfl⟩
    cases hrest
    rw [List.append_nil]
    exact ⟨inner, hfirst, rfl⟩
  · rintro ⟨inner, h, rfl⟩
    exact ⟨turns, [], _, h, .done, (List.append_nil _).symm⟩

theorem resume_get_bind {f : Memory → Survey α} :
    Survey.resume (do f (← get)) memory = (f memory).resume memory := rfl

/-- What is known is not asked for. -/
theorem course_remember_known {known : Memory → Option α} {keep : Memory → α → Memory} {a : α}
    {result : Except Failure α} (hknown : known memory = some a) :
    ((remember known survey keep).resume memory).Course turns (result, after) ↔
      turns = [] ∧ result = .ok a ∧ after = memory := by
  have h : (remember known survey keep).resume memory = (pure a : Survey α).resume memory := by
    rw [remember, resume_get_bind, hknown]
  rw [h, course_pure]

/-- What is not known is asked for, and kept if it is answered. -/
theorem course_remember_unknown {known : Memory → Option α} {keep : Memory → α → Memory}
    {result : Except Failure α} (hknown : known memory = none) :
    ((remember known survey keep).resume memory).Course turns (result, after) ↔
      ∃ between, (survey.resume memory).Course turns (result, between) ∧
        after = result.toOption.elim between (keep between) := by
  have h : (remember known survey keep).resume memory =
      (do
        let answer ← survey
        modify fun memory => keep memory answer
        return answer : Survey α).resume memory := by
    rw [remember, resume_get_bind, hknown]
  have hkeep : ∀ {a between},
      ((do
        modify fun memory => keep memory a
        return a : Survey α).resume between) = .done (.ok a, keep between a) := rfl
  rw [h, course_bind]
  simp only [hkeep]
  constructor
  · rintro (⟨failure, h, rfl⟩ | ⟨first, rest, a, between, hfirst, hrest, rfl⟩)
    · exact ⟨after, h, rfl⟩
    · cases hrest
      rw [List.append_nil]
      exact ⟨between, hfirst, rfl⟩
  · rintro ⟨between, h, rfl⟩
    cases result with
    | error failure => exact .inl ⟨failure, h, rfl⟩
    | ok a => exact .inr ⟨turns, [], a, between, h, .done, (List.append_nil _).symm⟩

/-- A survey by itself starts with nothing remembered. -/
theorem course_inquiry {result : Except Failure α} :
    survey.inquiry.Course turns result ↔
      ∃ after, (survey.resume .empty).Course turns (result, after) := by
  change (Inquiry.bind (survey.resume .empty) fun x => .done x.1).Course _ _ ↔ _
  rw [Inquiry.course_bind]
  constructor
  · rintro ⟨first, rest, ⟨inner, after⟩, hfirst, hrest, rfl⟩
    cases hrest
    rw [List.append_nil]
    exact ⟨after, hfirst⟩
  · rintro ⟨after, h⟩
    exact ⟨turns, [], _, h, .done, (List.append_nil _).symm⟩

end Survey

/-- A fault that is found without asking a node: the time is over, or it says that it lacks a
    capability. -/
def NodeFault.IsForeseen : NodeFault → Prop
  | .timeout => True
  | .missingCapability _ => True
  | _ => False

namespace Survey

/-- A result tells of a fault of the node, and of no other cause. -/
def TellsOf (fault : NodeFault) (result : Except Failure α) : Prop :=
  ∃ activities, result = .error (.because activities (.node fault))

theorem TellsOf.unique {fault fault' : NodeFault} {result : Except Failure α}
    (h : TellsOf fault result) (h' : TellsOf fault' result) : fault = fault' := by
  obtain ⟨activities, rfl⟩ := h
  obtain ⟨activities', h'⟩ := h'
  cases h'
  rfl

theorem tellsOf_during {activity : Activity} {fault : NodeFault} {result : Except Failure α} :
    TellsOf fault (result.mapError (.during activity)) ↔ TellsOf fault result := by
  constructor
  · rintro ⟨activities, h⟩
    rcases result with (_ | ⟨inner, cause⟩) | a
    · cases h
    · cases h
      exact ⟨inner, rfl⟩
    · cases h
  · rintro ⟨activities, rfl⟩
    exact ⟨activity :: activities, rfl⟩

/-- Whatever fault a result tells of has been found without asking. -/
def Unprompted (result : Except Failure α) : Prop :=
  ∀ fault, TellsOf fault result → fault.IsForeseen

theorem unprompted_ok (a : α) : Unprompted (.ok a) := nofun

/-- A survey heeds faults: whatever it remembers, the first fault ends it and is told of, and
    without one no fault of an answer is told of. -/
structure Heeds (survey : Survey α) : Prop where
  stops : ∀ memory, (survey.resume memory).StopsWith
    (fun fault outcome => TellsOf fault outcome.1) fun outcome => Unprompted outcome.1

namespace Heeds

variable {survey : Survey α} {f : α → Survey β}

theorem pure (a : α) : Heeds (pure a : Survey α) := ⟨fun _ => unprompted_ok a⟩

theorem get : Heeds (get : Survey Memory) := ⟨fun memory => unprompted_ok memory⟩

theorem modify (change : Memory → Memory) : Heeds (modify change : Survey Unit) :=
  ⟨fun _ => unprompted_ok ()⟩

theorem throw {failure : Failure} (h : Unprompted (.error failure : Except Failure α)) :
    Heeds (throw failure : Survey α) := ⟨fun _ => h⟩

theorem ask {request : Request} : Heeds (ask request) :=
  ⟨fun memory => ⟨fun _ => ⟨(_, memory), rfl, [], rfl⟩, fun answer => unprompted_ok answer⟩⟩

theorem bind (h : Heeds survey) (hf : ∀ a, Heeds (f a)) : Heeds (survey >>= f) := by
  refine ⟨fun memory => Inquiry.StopsWith.bind ?_ ?_ (h.stops memory)⟩
  · rintro ⟨failure | a, after⟩ hresult
    · exact fun fault ⟨activities, he⟩ => hresult fault ⟨activities, by cases he; rfl⟩
    · exact (hf a).stops after
  · rintro fault ⟨result, after⟩ ⟨activities, rfl⟩
    exact ⟨(_, after), rfl, activities, rfl⟩

theorem during {activity : Activity} (h : Heeds survey) : Heeds (during activity survey) := by
  refine ⟨fun memory => Inquiry.StopsWith.bind ?_ ?_ (h.stops memory)⟩
  · exact fun outcome hresult fault htells => hresult fault (tellsOf_during.1 htells)
  · exact fun fault outcome htells => ⟨(_, outcome.2), rfl, tellsOf_during.2 htells⟩

theorem remember {known : Memory → Option α} {keep : Memory → α → Memory} (h : Heeds survey) :
    Heeds (remember known survey keep) := by
  refine .bind .get fun memory => ?_
  split
  · exact .pure _
  · exact .bind h fun _ => .bind (.modify _) fun _ => .pure _

section Course

variable {turns : List Turn} {result : Except Failure α}

theorem stops_inquiry (h : Heeds survey) : survey.inquiry.StopsWith TellsOf Unprompted := by
  have hdone : ∀ x : Except Failure α × Memory, Unprompted x.1 →
      (Inquiry.done x.1).StopsWith TellsOf Unprompted := fun _ hx => hx
  exact Inquiry.StopsWith.bind hdone (fun _ x hx => ⟨x.1, rfl, hx⟩) (h.stops .empty)

/-- In every course of a survey that heeds faults, a fault comes last and is told of. -/
theorem last (h : Heeds survey) (hc : survey.inquiry.Course turns result)
    {before after : List Turn} {turn : Turn} {fault : NodeFault}
    (ht : turns = before ++ turn :: after) (hfault : turn.answer = .error fault) :
    after = [] ∧ TellsOf fault result :=
  h.stops_inquiry.last hc ht hfault

/-- A fault that is told of is that of an answer, or has been found without asking. -/
theorem exists_fault (h : Heeds survey) (hc : survey.inquiry.Course turns result)
    {fault : NodeFault} (htells : TellsOf fault result) :
    fault.IsForeseen ∨ ∃ turn ∈ turns, turn.answer = .error fault := by
  rcases h.stops_inquiry.exists_fault hc with hresult | ⟨turn, ht, fault', hfault, htells'⟩
  · exact .inl (hresult fault htells)
  · exact .inr ⟨turn, ht, htells.unique htells' ▸ hfault⟩

/-- If a survey that heeds faults succeeds, there have been none. -/
theorem exists_reply (h : Heeds survey) {a : α} (hc : survey.inquiry.Course turns (.ok a))
    {turn : Turn} (ht : turn ∈ turns) : ∃ reply, turn.answer = .ok reply := by
  obtain ⟨before, after, rfl⟩ := List.append_of_mem ht
  cases hanswer : turn.answer with
  | ok reply => exact ⟨reply, rfl⟩
  | error fault =>
    obtain ⟨-, activities, hresult⟩ := h.last hc rfl hanswer
    cases hresult

/-- Before the last one, all requests have been answered. -/
theorem pairwise_answered (h : Heeds survey) (hc : survey.inquiry.Course turns result) :
    turns.Pairwise fun turn _ => ∃ reply, turn.answer = .ok reply := by
  refine List.pairwise_iff_forall_sublist.2 fun {turn later} hsub => ?_
  obtain ⟨before, rest, rfl, hmem, hrest⟩ := List.cons_sublist_iff.1 hsub
  obtain ⟨start, between, rfl⟩ := List.append_of_mem hmem
  cases hanswer : turn.answer with
  | ok reply => exact ⟨reply, rfl⟩
  | error fault =>
    obtain ⟨hnil, -⟩ := h.last hc (List.append_assoc start (turn :: between) rest) hanswer
    obtain rfl := (List.append_eq_nil_iff.1 hnil).2
    simp at hrest

end Course

end Heeds

end Survey

end BeaconDuties
