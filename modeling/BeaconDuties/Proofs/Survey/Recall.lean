import BeaconDuties.Proofs.Survey.Requests
import BeaconDuties.Proofs.Survey.Session

/-!
What is remembered of a node that always answers alike.

A memory that has been filled by such a node recalls nothing but what the node answers
(`Memory.Recalls`). Sessions leave such memories (`Session.recalls`), and so does every survey
(`Survey.Composed.recalls`).

From such a memory a look-up comes to what the node answers, and asks the node just if its key is
not remembered (`LookUp.exists_outcome`).
-/

namespace BeaconDuties

open Survey

variable {α : Type} {node : Answers} {memory after : Memory} {turns : List Turn}

/-- All that is remembered has been answered by the node. -/
def Memory.Recalls (node : Answers) (memory : Memory) : Prop :=
  ∀ key answer, memory.get? key = some answer →
    ∃ turn : Turn, turn.answer = node turn.request ∧ turn.fact? = some ⟨key, answer⟩

namespace Memory.Recalls

theorem empty : Memory.empty.Recalls node := by
  intro key answer h
  rw [get?_empty] at h
  cases h

/-- The turns that tell the header of a slot. -/
theorem turn_eq_of_header {slot : Slot} {answer : Option Header} : ∀ {turn : Turn},
    turn.fact? = some ⟨.header slot, answer⟩ → turn = ⟨.header (.slot slot), .ok answer⟩
  | ⟨.header (.slot _), .ok _⟩, h => by
    cases h
    rfl

/-- The turns that tell the block of a root. -/
theorem turn_eq_of_blockWith {root : Root} {answer : Option Block} : ∀ {turn : Turn},
    turn.fact? = some ⟨.blockWith root, answer⟩ → turn = ⟨.block (.root root), .ok answer⟩
  | ⟨.block (.root _), .ok _⟩, h => by
    cases h
    rfl

theorem header (h : memory.Recalls node) {slot : Slot} {answer : Option Header}
    (hslot : memory.headers[slot]? = some answer) :
    node (.header (.slot slot)) = .ok answer := by
  obtain ⟨turn, hturn, hfact⟩ := h (.header slot) answer hslot
  obtain rfl := turn_eq_of_header hfact
  exact hturn.symm

theorem blockWith (h : memory.Recalls node) {root : Root} {answer : Option Block}
    (hroot : memory.blocksByRoot[root]? = some answer) :
    node (.block (.root root)) = .ok answer := by
  obtain ⟨turn, hturn, hfact⟩ := h (.blockWith root) answer hroot
  obtain rfl := turn_eq_of_blockWith hfact
  exact hturn.symm

/-- What is kept of the node's answers is recalled. -/
theorem of_keeps (h : memory.Recalls node) (hkeeps : Keeps memory turns after)
    (hfixed : ∀ turn ∈ turns, turn.answer = node turn.request) : after.Recalls node := by
  intro key answer hkey
  rw [hkeeps.kept, Option.or_eq_some_iff] at hkey
  rcases hkey with hkey | ⟨-, hkey⟩
  · exact h key answer hkey
  · obtain ⟨turn, hturn, hfact⟩ := List.mem_filterMap.1 (List.of_mem_dlookup hkey)
    exact ⟨turn, hfixed turn hturn, hfact⟩

end Memory.Recalls

/-- Whatever a node that always answers alike has been asked, its answers are recalled. -/
theorem Session.recalls {visits : List Visit} (h : Session .empty visits memory)
    (hfixed : ∀ turn ∈ turnsOf visits, turn.answer = node turn.request) : memory.Recalls node :=
  Memory.Recalls.empty.of_keeps h.keeps hfixed

/-- A session in which one thing has been looked up. -/
theorem Session.of_reply (lookUp : LookUp) (reply : lookUp.request.Answer) :
    Session .empty
      [⟨.single lookUp, [⟨lookUp.request, .ok reply⟩], .ok (lookUp.ofReply reply)⟩]
      (Memory.empty.keep lookUp.key (lookUp.ofReply reply)) :=
  .cons ((LookUp.course_unknown Memory.get?_empty).2 (.inr ⟨reply, rfl, rfl, rfl⟩)) .nil

namespace Survey

variable {survey : Survey α}

/-- Surveys leave a memory that recalls the node's answers. -/
theorem Composed.recalls {P : Request → Prop} (h : Composed P True survey) (hm : memory.Recalls node) :
    (outcome node survey memory).2.Recalls node := by
  refine hm.of_keeps (h.keeps (course_outcome node survey memory)) fun turn hturn => ?_
  obtain ⟨request, -, rfl⟩ := List.mem_map.1 hturn
  rfl

end Survey

namespace LookUp

variable {lookUp : LookUp}

/-- What is remembered is not asked for. -/
theorem outcome_known {answer : lookUp.key.Answer} (hkey : memory.get? lookUp.key = some answer) :
    outcome node lookUp.survey memory = (.ok answer, memory) ∧
      requestsFrom node lookUp.survey memory = [] := by
  obtain ⟨hturns, hresult, hafter⟩ := (course_known hkey).1 (course_outcome node _ memory)
  exact ⟨Prod.ext hresult hafter, List.map_eq_nil_iff.1 hturns⟩

/-- What is not remembered is asked for, and kept if it is answered. -/
theorem outcome_unknown (hkey : memory.get? lookUp.key = none) :
    requestsFrom node lookUp.survey memory = [lookUp.request] ∧
      outcome node lookUp.survey memory = match node lookUp.request with
        | .error fault => (.error (lookUp.failure fault), memory)
        | .ok reply => (.ok (lookUp.ofReply reply), memory.keep lookUp.key (lookUp.ofReply reply)) := by
  have hasked : ∀ {answer}, (requestsFrom node lookUp.survey memory).map
      (fun request => (⟨request, node request⟩ : Turn)) = [⟨lookUp.request, answer⟩] →
        requestsFrom node lookUp.survey memory = [lookUp.request] ∧
          node lookUp.request = answer := by
    intro answer h
    obtain ⟨request, hrequests, hturn⟩ := List.map_eq_singleton_iff.1 h
    cases hturn
    exact ⟨hrequests, rfl⟩
  obtain ⟨fault, hturns, hresult, hafter⟩ | ⟨reply, hturns, hresult, hafter⟩ :=
    (course_unknown hkey).1 (course_outcome node _ memory)
  all_goals
    obtain ⟨hrequests, hn⟩ := hasked hturns
    rw [hn]
    exact ⟨hrequests, Prod.ext hresult hafter⟩

/-- From a memory that knows no other answer, a look-up comes to what the node answers. The node is
    asked if no answer is known, and what it answers is known afterwards. No other key changes. -/
theorem exists_outcome (lookUp : LookUp)
    (hm : ∀ answer, memory.get? lookUp.key = some answer →
      (node lookUp.request).map lookUp.ofReply = .ok answer) :
    ∃ after : Memory, (∀ key, key ≠ lookUp.key → after.get? key = memory.get? key) ∧
      (∀ answer, after.get? lookUp.key = some answer ↔
        (node lookUp.request).map lookUp.ofReply = .ok answer) ∧
      outcome node lookUp.survey memory =
        (((node lookUp.request).mapError lookUp.failure).map lookUp.ofReply, after) ∧
      requestsFrom node lookUp.survey memory =
        if memory.get? lookUp.key = none then [lookUp.request] else [] := by
  cases hkey : memory.get? lookUp.key with
  | some answer =>
    obtain ⟨houtcome, hrequests⟩ := @outcome_known node _ _ _ hkey
    have hnode := hm answer hkey
    refine ⟨memory, fun _ _ => rfl, fun answer' => ?_, ?_, ?_⟩
    · rw [hkey, hnode, Option.some_inj, Except.ok.injEq]
    · cases hn : node lookUp.request with
      | error fault =>
        rw [hn] at hnode
        cases hnode
      | ok reply =>
        rw [hn] at hnode
        obtain rfl : lookUp.ofReply reply = answer := Except.ok.inj hnode
        exact houtcome
    · rw [hrequests, if_neg (Option.some_ne_none answer)]
  | none =>
    obtain ⟨hrequests, houtcome⟩ := @outcome_unknown node _ _ hkey
    rw [if_pos rfl]
    cases hn : node lookUp.request with
    | error fault =>
      rw [hn] at houtcome
      refine ⟨memory, fun _ _ => rfl, fun answer => ?_, houtcome, hrequests⟩
      rw [hkey]
      exact ⟨nofun, nofun⟩
    | ok reply =>
      rw [hn] at houtcome
      refine ⟨_, fun key hne => Memory.get?_keep_of_ne hne, fun answer => ?_, houtcome, hrequests⟩
      rw [Memory.get?_keep_self, Option.some_inj]
      exact Except.ok.injEq .. ▸ Iff.rfl

end LookUp

end BeaconDuties
