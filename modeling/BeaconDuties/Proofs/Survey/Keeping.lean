import BeaconDuties.Proofs.Survey.Parts

/-!
How surveys use what they have been told.

A survey starts with a memory, asks a node, and leaves a memory. `Survey.Keeps` relates these three:
nothing is asked for that is kept already or has been answered in the meantime, and all that is
answered is kept, and nothing else. All surveys do so (`Survey.Composed.keeps`), whatever a node
answers and however its answers change.

What is kept takes the place of the node: a survey that starts with a memory comes to the result it
would come to if it asked for everything and were given the answers that are kept
(`Survey.Composed.exists_unaided`).
-/

namespace BeaconDuties

variable {α : Type} {P : Request → Prop} {survey : Survey α} {memory after : Memory}
  {turns : List Turn} {result : Except Failure α}

namespace Survey

/-- A survey that starts with a memory may take these turns and leave a memory. -/
structure Keeps (memory : Memory) (turns : List Turn) (after : Memory) : Prop where
  /-- What is kept is not asked for. -/
  unknown : ∀ turn ∈ turns, ∀ key, turn.request.key? = some key → memory.get? key = none
  /-- What has been answered is not asked for again. -/
  once : turns.Pairwise fun turn later =>
    ∀ fact, turn.fact? = some fact → later.request.key? ≠ some fact.1
  /-- What is answered is kept, and nothing else. -/
  kept : ∀ key, after.get? key = (memory.get? key).or ((factsOf turns).dlookup key)

namespace Keeps

variable {between : Memory} {first rest : List Turn} {key : Key}

theorem nil : Keeps memory [] memory where
  unknown := List.forall_mem_nil _
  once := .nil
  kept := fun key => by rw [factsOf_nil, List.dlookup_nil, Option.or_none]

/-- A turn that tells no fact changes nothing. -/
theorem unkept {turn : Turn} (hfact : turn.fact? = none)
    (hkey : ∀ key, turn.request.key? = some key → memory.get? key = none) :
    Keeps memory [turn] memory where
  unknown := by simpa using hkey
  once := List.pairwise_singleton _ _
  kept := fun key => by simp [factsOf, hfact]

theorem lookUp {lookUp : LookUp} {reply : lookUp.request.Answer}
    (hkey : memory.get? lookUp.key = none) :
    Keeps memory [⟨lookUp.request, .ok reply⟩] (memory.keep lookUp.key (lookUp.ofReply reply)) where
  unknown := by
    intro turn hturn key h
    obtain rfl := List.mem_singleton.1 hturn
    rw [key?_request] at h
    cases h
    exact hkey
  once := List.pairwise_singleton _ _
  kept := by
    intro key
    have hfacts : factsOf [⟨lookUp.request, .ok reply⟩] = [⟨lookUp.key, lookUp.ofReply reply⟩] := by
      simp [factsOf, fact?_reply]
    rw [hfacts]
    by_cases hk : key = lookUp.key
    · subst hk
      rw [Memory.get?_keep_self, hkey, List.dlookup_cons_eq]
      rfl
    · rw [Memory.get?_keep_of_ne hk, List.dlookup_cons_ne _ _ hk, List.dlookup_nil, Option.or_none]

/-- A fact that is told is known afterwards. -/
theorem isSome_get? (h : Keeps memory turns after) {turn : Turn} (ht : turn ∈ turns) {fact : Fact}
    (hfact : turn.fact? = some fact) : (after.get? fact.1).isSome := by
  have hmem : fact.1 ∈ (factsOf turns).keys :=
    List.mem_keys_of_mem (List.mem_filterMap.2 ⟨turn, ht, hfact⟩)
  rw [h.kept, Option.isSome_or, List.dlookup_isSome.2 hmem, Bool.or_true]

/-- What is known afterwards was known before, or has been asked for. -/
theorem known_or_asked (h : Keeps memory turns after) (hkey : (after.get? key).isSome) :
    (memory.get? key).isSome ∨ ∃ turn ∈ turns, turn.request.key? = some key := by
  rw [h.kept, Option.isSome_or, Bool.or_eq_true] at hkey
  refine hkey.imp_right fun htold => ?_
  obtain ⟨answer, hanswer⟩ := Option.isSome_iff_exists.1 htold
  obtain ⟨turn, hturn, hfact⟩ := List.mem_filterMap.1 (List.of_mem_dlookup hanswer)
  exact ⟨turn, hturn, key?_of_fact? hfact⟩

/-- What is known stays known. -/
theorem get?_of_eq_some (h : Keeps memory turns after) {answer : key.Answer}
    (hkey : memory.get? key = some answer) : after.get? key = some answer := by
  rw [h.kept, hkey, Option.some_or]

theorem append (h : Keeps memory first between) (h' : Keeps between rest after) :
    Keeps memory (first ++ rest) after where
  unknown := by
    intro turn hturn key hkey
    rcases List.mem_append.1 hturn with hturn | hturn
    · exact h.unknown turn hturn key hkey
    · have hnone := h'.unknown turn hturn key hkey
      rw [h.kept, Option.or_eq_none_iff] at hnone
      exact hnone.1
  once := by
    refine List.pairwise_append.2 ⟨h.once, h'.once, fun turn hturn later hlater fact hfact hkey => ?_⟩
    have hnone := h'.unknown later hlater _ hkey
    have hsome := h.isSome_get? hturn hfact
    rw [hnone] at hsome
    cases hsome
  kept := fun key => by
    rw [h'.kept, h.kept, factsOf_append, List.dlookup_append, Option.or_assoc]

/-- No key is answered twice. -/
theorem nodupKeys (h : Keeps memory turns after) : (factsOf turns).NodupKeys := by
  rw [List.nodupKeys_iff_pairwise, factsOf, List.pairwise_filterMap]
  refine h.once.imp fun {turn later} hne fact hfact fact' hfact' hkey => ?_
  exact hne fact hfact (hkey ▸ key?_of_fact? hfact')

end Keeps

/-- A survey makes no requests but those it is composed of. -/
theorem Composed.asks (h : Composed P True survey)
    (hc : (survey.resume memory).Course turns (result, after)) : ∀ turn ∈ turns, P turn.request := by
  induction h generalizing memory turns after with
  | pure a =>
    obtain ⟨rfl, -, -⟩ := course_pure.1 hc
    exact List.forall_mem_nil _
  | throw =>
    obtain ⟨rfl, -, -⟩ := course_throw.1 hc
    exact List.forall_mem_nil _
  | ask _ h =>
    obtain ⟨-, answer, rfl, -⟩ := course_ask.1 hc
    exact List.forall_mem_singleton.2 h
  | lookUp lookUp h =>
    rcases LookUp.turns_of_course hc with rfl | ⟨answer, rfl⟩
    · exact List.forall_mem_nil _
    · exact List.forall_mem_singleton.2 h
  | during _ ih =>
    obtain ⟨inner, hinner, -⟩ := course_during.1 hc
    exact ih hinner
  | bind _ _ ih ihf =>
    obtain ⟨failure, hfirst, -⟩ | ⟨first, rest, a, between, hfirst, hrest, rfl⟩ := course_bind.1 hc
    · exact ih hfirst
    · exact List.forall_mem_append.2 ⟨ih hfirst, ihf a hrest⟩

/-- All surveys keep what they are told, and ask for nothing that is kept. -/
theorem Composed.keeps (h : Composed P True survey)
    (hc : (survey.resume memory).Course turns (result, after)) : Keeps memory turns after := by
  induction h generalizing memory turns after with
  | pure a =>
    obtain ⟨rfl, -, rfl⟩ := course_pure.1 hc
    exact .nil
  | throw =>
    obtain ⟨rfl, -, rfl⟩ := course_throw.1 hc
    exact .nil
  | ask hkey =>
    obtain ⟨rfl, answer, rfl, -⟩ := course_ask.1 hc
    refine .unkept ?_ fun key h => ?_
    · refine Option.eq_none_iff_forall_ne_some.2 fun fact hfact => ?_
      cases hkey.symm.trans (key?_of_fact? hfact)
    · cases hkey.symm.trans h
  | lookUp lookUp =>
    cases hkey : memory.get? lookUp.key with
    | some answer =>
      obtain ⟨rfl, -, rfl⟩ := (LookUp.course_known hkey).1 hc
      exact .nil
    | none =>
      obtain ⟨fault, rfl, -, rfl⟩ | ⟨reply, rfl, -, rfl⟩ := (LookUp.course_unknown hkey).1 hc
      · refine .unkept rfl fun key h => ?_
        cases (key?_request lookUp).symm.trans h
        exact hkey
      · exact .lookUp hkey
  | during _ ih =>
    obtain ⟨inner, hinner, -⟩ := course_during.1 hc
    exact ih hinner
  | bind _ _ ih ihf =>
    obtain ⟨failure, hfirst, -⟩ | ⟨first, rest, a, between, hfirst, hrest, rfl⟩ := course_bind.1 hc
    · exact ih hfirst
    · exact (ih hfirst).append (ihf a hrest)

end Survey

/-! ## What is kept takes the place of the node -/

namespace Memory

/-- All that one memory keeps is kept by another one. -/
def Within (few memory : Memory) : Prop :=
  ∀ key answer, few.get? key = some answer → memory.get? key = some answer

variable {few : Memory} {key : Key} {answer : key.Answer}

theorem empty_within : empty.Within memory := by
  intro key answer h
  rw [get?_empty] at h
  cases h

theorem Within.keep_left (h : few.Within memory) (hkey : memory.get? key = some answer) :
    (few.keep key answer).Within memory := by
  intro other answer' hother
  by_cases ho : other = key
  · subst ho
    rw [get?_keep_self] at hother
    cases hother
    exact hkey
  · rw [get?_keep_of_ne ho] at hother
    exact h other answer' hother

theorem Within.keep (h : few.Within memory) :
    (few.keep key answer).Within (memory.keep key answer) := by
  intro other answer' hother
  by_cases ho : other = key
  · subst ho
    rw [get?_keep_self] at hother ⊢
    exact hother
  · rw [get?_keep_of_ne ho] at hother ⊢
    exact h other answer' hother

end Memory

namespace Survey

/-- Of the turns of a survey that asks for everything, one that knows some answers takes those that
    are not for what is known. In the others the answers are those that are known. -/
structure Aided (known : (key : Key) → Option key.Answer) (all turns : List Turn) : Prop where
  asked : turns = all.filter fun turn => turn.request.key?.all fun key => (known key).isNone
  told : ∀ turn ∈ all, ∀ key answer, turn.request.key? = some key → known key = some answer →
    turn.fact? = some ⟨key, answer⟩

namespace Aided

variable {known : (key : Key) → Option key.Answer} {between few few' : Memory}
  {first rest all all' : List Turn} {turn : Turn}

theorem nil : Aided known [] [] := ⟨rfl, List.forall_mem_nil _⟩

/-- What is not known is asked for. -/
theorem asking (hkey : ∀ key, turn.request.key? = some key → known key = none) :
    Aided known [turn] [turn] where
  asked := by
    rw [List.filter_cons_of_pos]
    · rfl
    · cases hk : turn.request.key? with
      | none => rfl
      | some key => simp [hkey key hk]
  told := by
    intro turn' hturn key answer hk hanswer
    obtain rfl := List.mem_singleton.1 hturn
    rw [hkey key hk] at hanswer
    cases hanswer

/-- What is known is not asked for. -/
theorem given {lookUp : LookUp} {reply : lookUp.request.Answer}
    (hkey : known lookUp.key = some (lookUp.ofReply reply)) :
    Aided known [⟨lookUp.request, .ok reply⟩] [] where
  asked := by simp [key?_request, hkey]
  told := by
    intro turn hturn key answer hk hanswer
    obtain rfl := List.mem_singleton.1 hturn
    cases (key?_request lookUp).symm.trans hk
    rw [hkey] at hanswer
    cases hanswer
    exact fact?_reply lookUp reply

/-- Sequences are aided by what is kept at first, since what has been answered in the meantime is
    not asked for in either case. -/
theorem append (h : Aided memory.get? all first) (h' : Aided between.get? all' rest)
    (hkeeps : Keeps memory first between) (hall : Keeps few all few')
    (hall' : ∀ turn ∈ all', ∀ key, turn.request.key? = some key → few'.get? key = none) :
    Aided memory.get? (all ++ all') (first ++ rest) where
  asked := by
    rw [List.filter_append, ← h.asked, h'.asked]
    congr 1
    refine List.filter_congr fun turn hturn => ?_
    cases hk : turn.request.key? with
    | none => rfl
    | some key =>
      have hnew := hall' turn hturn key hk
      have hfirst : (factsOf first).dlookup key = none := by
        refine List.dlookup_eq_none.2 fun hmem => ?_
        obtain ⟨answer, hfact⟩ := List.mem_keys.1 hmem
        obtain ⟨earlier, hearlier, hfact⟩ := List.mem_filterMap.1 hfact
        rw [h.asked] at hearlier
        have hsome := hall.isSome_get? (List.mem_filter.1 hearlier).1 hfact
        rw [hnew] at hsome
        cases hsome
      rw [Option.all_some, Option.all_some, hkeeps.kept, hfirst, Option.or_none]
  told := by
    intro turn hturn key answer hk hanswer
    rcases List.mem_append.1 hturn with hturn | hturn
    · exact h.told turn hturn key answer hk hanswer
    · exact h'.told turn hturn key answer hk (hkeeps.get?_of_eq_some hanswer)

end Aided

/-- A survey that starts with a memory does what it would do if it were given the answers that are
    kept by the node. -/
theorem Composed.exists_unaided (h : Composed P True survey) {few : Memory} (hfew : few.Within memory)
    (hc : (survey.resume memory).Course turns (result, after)) :
    ∃ all after', (survey.resume few).Course all (result, after') ∧ after'.Within after ∧
      Aided memory.get? all turns := by
  induction h generalizing few memory turns after with
  | pure a =>
    obtain ⟨rfl, rfl, rfl⟩ := course_pure.1 hc
    exact ⟨[], few, course_pure.2 ⟨rfl, rfl, rfl⟩, hfew, .nil⟩
  | throw =>
    obtain ⟨rfl, rfl, rfl⟩ := course_throw.1 hc
    exact ⟨[], few, course_throw.2 ⟨rfl, rfl, rfl⟩, hfew, .nil⟩
  | ask hkey =>
    obtain ⟨rfl, answer, rfl, rfl⟩ := course_ask.1 hc
    refine ⟨_, few, course_ask.2 ⟨rfl, answer, rfl, rfl⟩, hfew, .asking fun key h => ?_⟩
    cases hkey.symm.trans h
  | lookUp lookUp =>
    cases hknown : few.get? lookUp.key with
    | some answer =>
      obtain ⟨rfl, rfl, rfl⟩ := (LookUp.course_known (hfew _ _ hknown)).1 hc
      exact ⟨[], few, (LookUp.course_known hknown).2 ⟨rfl, rfl, rfl⟩, hfew, .nil⟩
    | none =>
      cases hkey : memory.get? lookUp.key with
      | some answer =>
        obtain ⟨rfl, rfl, rfl⟩ := (LookUp.course_known hkey).1 hc
        obtain ⟨reply, rfl⟩ := lookUp.exists_reply answer
        exact ⟨_, _, (LookUp.course_unknown hknown).2 (.inr ⟨reply, rfl, rfl, rfl⟩),
          hfew.keep_left hkey, .given hkey⟩
      | none =>
        have hasking : ∀ key, lookUp.request.key? = some key → memory.get? key = none := by
          intro key hk
          cases (key?_request lookUp).symm.trans hk
          exact hkey
        obtain ⟨fault, rfl, rfl, rfl⟩ | ⟨reply, rfl, rfl, rfl⟩ := (LookUp.course_unknown hkey).1 hc
        · exact ⟨_, few, (LookUp.course_unknown hknown).2 (.inl ⟨fault, rfl, rfl, rfl⟩), hfew,
            .asking hasking⟩
        · exact ⟨_, _, (LookUp.course_unknown hknown).2 (.inr ⟨reply, rfl, rfl, rfl⟩), hfew.keep,
            .asking hasking⟩
  | during _ ih =>
    obtain ⟨inner, hinner, rfl⟩ := course_during.1 hc
    obtain ⟨all, after', hall, hafter, haided⟩ := ih hfew hinner
    exact ⟨all, after', course_during.2 ⟨inner, hall, rfl⟩, hafter, haided⟩
  | bind hs hf ih ihf =>
    obtain ⟨failure, hfirst, rfl⟩ | ⟨first, rest, a, between, hfirst, hrest, rfl⟩ :=
      course_bind.1 hc
    · obtain ⟨all, after', hall, hafter, haided⟩ := ih hfew hfirst
      exact ⟨all, after', course_bind.2 (.inl ⟨failure, hall, rfl⟩), hafter, haided⟩
    · obtain ⟨all, few', hall, hfew', haided⟩ := ih hfew hfirst
      obtain ⟨all', after', hall', hafter, haided'⟩ := ihf a hfew' hrest
      refine ⟨all ++ all', after', course_bind.2 (.inr ⟨all, all', a, few', hall, hall', rfl⟩),
        hafter, ?_⟩
      exact haided.append haided' (hs.keeps hfirst) (hs.keeps hall) ((hf a).keeps hall').unknown

end Survey

end BeaconDuties
