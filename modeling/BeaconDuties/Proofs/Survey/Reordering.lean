import BeaconDuties.Proofs.Survey.Parts

/-!
Answers that differ only in the order in which they list things.

A node may list validators, committees and duties in any order. `Request.Alike` relates answers that
list the same things, none of them twice. An inquiry is `Inquiry.Indifferent` if it goes on in the
same way after answers that are alike. Then nodes whose answers are always alike cannot be told
apart by it (`Inquiry.Indifferent.converse_eq`).

Look-ups are indifferent, those of committees because a table has no order. So are all surveys that
ask for no other lists (`Survey.Composed.indifferent`), and questions for lists after which the
survey goes on in the same way (`Survey.Indifferent.question`).
-/

namespace BeaconDuties

variable {α β σ : Type}

/-- Two answers to a request are the same, or list the same things in different orders. Of the
    things in one list no two are about the same validator or the same committee. -/
inductive Request.Alike : (request : Request) →
    Except NodeFault request.Answer → Except NodeFault request.Answer → Prop where
  | refl {request : Request} (answer : Except NodeFault request.Answer) : Alike request answer answer
  | validators {state : StateId} {ids : List ValidatorId} {xs ys : List ValidatorInfo}
      (perm : xs.Perm ys) (nodup : (xs.map (·.index)).Nodup) :
      Alike (.validators state ids) (.ok xs) (.ok ys)
  | committees {state : StateId} {epoch : Option Epoch} {xs ys : List Committee}
      (perm : xs.Perm ys)
      (nodup : (xs.map fun x => (⟨x.slot, x.index⟩ : CommitteePlace)).Nodup) :
      Alike (.committees state epoch) (.ok xs) (.ok ys)
  | attesters {epoch : Epoch} {indices : List ValidatorIndex} {xs ys : List AttesterDuty}
      (perm : xs.Perm ys) (nodup : (xs.map (·.validator)).Nodup) :
      Alike (.attesters epoch indices) (.ok xs) (.ok ys)

/-- The answers to a request are kept, or come in one order only. -/
def Request.Settled (request : Request) : Prop :=
  request.key?.isSome ∨
    ∀ {reply reply'}, request.Alike (.ok reply) (.ok reply') → reply = reply'

/-- A node in the course of time: the answer to a request and the state after it. -/
abbrev LiveNode (σ : Type) := (request : Request) → StateM σ (Except NodeFault request.Answer)

/-- Two nodes differ only in the order in which they list things, and stay in the same state. -/
def LiveNode.Alike (node node' : LiveNode σ) : Prop :=
  ∀ request state, request.Alike ((node request).run state).1 ((node' request).run state).1 ∧
    ((node request).run state).2 = ((node' request).run state).2

namespace Inquiry

/-- The inquiry goes on in the same way after answers that are alike. -/
def Indifferent : Inquiry α → Prop
  | .done _ => True
  | .ask request next =>
    (∀ answer answer', request.Alike answer answer' → next answer = next answer') ∧
      ∀ answer, (next answer).Indifferent

namespace Indifferent

theorem done (a : α) : (Inquiry.done a).Indifferent := trivial

/-- Faults are alike only if they are the same. -/
theorem ask {request : Request} {next : Except NodeFault request.Answer → Inquiry α}
    (h : ∀ {reply reply'}, request.Alike (.ok reply) (.ok reply') →
      next (.ok reply) = next (.ok reply'))
    (hok : ∀ reply, (next (.ok reply)).Indifferent)
    (herror : ∀ fault, (next (.error fault)).Indifferent) : (Inquiry.ask request next).Indifferent := by
  refine ⟨fun answer answer' halike => ?_, ?_⟩
  · cases halike with
    | refl => rfl
    | validators perm nodup => exact h (.validators perm nodup)
    | committees perm nodup => exact h (.committees perm nodup)
    | attesters perm nodup => exact h (.attesters perm nodup)
  · rintro (fault | reply)
    · exact herror fault
    · exact hok reply

/-- An indifferent inquiry cannot tell nodes apart whose answers are alike. -/
theorem converse_eq {node node' : LiveNode σ} (hnode : node.Alike node') :
    ∀ {inquiry : Inquiry α}, inquiry.Indifferent → ∀ state,
      (inquiry.converse node).run state = (inquiry.converse node').run state
  | .done _, _, _ => rfl
  | .ask request next, h, state => by
    obtain ⟨halike, hstate⟩ := hnode request state
    change ((next ((node request).run state).1).converse node).run ((node request).run state).2 =
      ((next ((node' request).run state).1).converse node').run ((node' request).run state).2
    rw [h.1 _ _ halike, hstate]
    exact converse_eq hnode (h.2 _) _

theorem bind {f : α → Inquiry β} (hf : ∀ a, (f a).Indifferent) :
    ∀ {inquiry : Inquiry α}, inquiry.Indifferent → (inquiry.bind f).Indifferent
  | .done a, _ => hf a
  | .ask _ _, h =>
    ⟨fun _ _ halike => congrArg (Inquiry.bind · f) (h.1 _ _ halike), fun _ => bind hf (h.2 _)⟩

end Indifferent

end Inquiry

theorem CommitteeTable.ofList_eq_of_perm {xs ys : List Committee} (hp : xs.Perm ys)
    (hn : (xs.map fun x => (⟨x.slot, x.index⟩ : CommitteePlace)).Nodup) : ofList xs = ofList ys :=
  congrArg mk (Maps.foldl_insert_eq_of_perm hp hn ∅)

namespace Survey

variable {survey : Survey α} {f : α → Survey β} {request : Request}

/-- The order in which a node lists things makes no difference to a survey, whatever it
    remembers. -/
structure Indifferent (survey : Survey α) : Prop where
  resume : ∀ memory, (survey.resume memory).Indifferent

namespace Indifferent

theorem inquiry (h : Indifferent survey) : survey.inquiry.Indifferent := by
  change (Inquiry.bind (survey.resume .empty) fun x => .done x.1).Indifferent
  exact .bind (fun _ => .done _) (h.resume .empty)

theorem pure (a : α) : Indifferent (pure a : Survey α) := ⟨fun _ => trivial⟩

theorem throw (failure : Failure) : Indifferent (throw failure : Survey α) := ⟨fun _ => trivial⟩

theorem bind (h : Indifferent survey) (hf : ∀ a, Indifferent (f a)) :
    Indifferent (survey >>= f) := by
  refine ⟨fun memory => Inquiry.Indifferent.bind ?_ (h.resume memory)⟩
  rintro ⟨failure | a, after⟩
  · trivial
  · exact (hf a).resume after

theorem during {activity : Activity} (h : Indifferent survey) :
    Indifferent (during activity survey) :=
  ⟨fun memory => Inquiry.Indifferent.bind (fun _ => .done _) (h.resume memory)⟩

theorem ite {c : Prop} [Decidable c] {s t : Survey α} (hs : Indifferent s) (ht : Indifferent t) :
    Indifferent (if c then s else t) := by
  split
  · exact hs
  · exact ht

theorem ask (h : ∀ {reply reply'}, request.Alike (.ok reply) (.ok reply') → reply = reply') :
    Indifferent (ask request) :=
  ⟨fun _ => .ask (fun halike => by rw [h halike]) (fun _ => .done _) fun _ => .done _⟩

/-- A question for a list makes no difference if it makes none to what follows. -/
theorem question {f : request.Answer → Survey β}
    (h : ∀ {reply reply'}, request.Alike (.ok reply) (.ok reply') → f reply = f reply')
    (hf : ∀ reply, Indifferent (f reply)) : Indifferent (Survey.ask request >>= f) :=
  ⟨fun memory => .ask (fun halike => congrArg (Survey.resume · memory) (h halike))
    (fun reply => (hf reply).resume memory) fun _ => .done _⟩

theorem question_during {activity : Activity} {f : request.Answer → Survey β}
    (h : ∀ {reply reply'}, request.Alike (.ok reply) (.ok reply') → f reply = f reply')
    (hf : ∀ reply, Indifferent (f reply)) :
    Indifferent (Survey.during activity (Survey.ask request) >>= f) :=
  ⟨fun memory => .ask (fun halike => congrArg (Survey.resume · memory) (h halike))
    (fun reply => (hf reply).resume memory) fun _ => .done _⟩

theorem remember {known : Memory → Option α} {keep : Memory → α → Memory}
    (h : Indifferent survey) : Indifferent (remember known survey keep) := by
  refine .bind ⟨fun _ => trivial⟩ fun memory => ?_
  split
  · exact .pure _
  · exact .bind h fun _ => .bind ⟨fun _ => trivial⟩ fun _ => .pure _

/-- It makes no difference in which order committees are put into a table. -/
theorem lookUp {lookUp : LookUp} : Indifferent lookUp.survey := by
  rw [LookUp.survey_eq]
  refine .remember ?_
  cases lookUp with
  | committees clock epoch =>
    refine .during (.question (fun halike => ?_) fun _ => .pure _)
    cases halike with
    | refl => rfl
    | committees perm nodup => rw [CommitteeTable.ofList_eq_of_perm perm nodup]
  | _ =>
    refine .ask fun halike => ?_
    cases halike
    rfl

end Indifferent

/-- What is composed of look-ups and of questions whose answers come in one order is indifferent. -/
theorem Composed.indifferent (h : Composed Request.Settled True survey) : Indifferent survey := by
  induction h with
  | pure a => exact .pure a
  | throw => exact .throw _
  | ask hkey h =>
    refine .ask (h.resolve_left ?_)
    rw [hkey]
    exact Bool.false_ne_true
  | lookUp => exact .lookUp
  | during _ ih => exact .during ih
  | bind _ _ ih ihf => exact .bind ih ihf

end Survey

end BeaconDuties
