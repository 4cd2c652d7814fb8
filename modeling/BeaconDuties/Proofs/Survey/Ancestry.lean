import BeaconDuties.Proofs.Survey.Recall

/-!
Which blocks a walk back along parents goes through, and how it ends.

Blocks lead from a root to another one if a node has them one after another, each as the parent of
the one before (`Answers.Leads`). Nothing keeps a node from leading in a circle, so a walk ends
because it is limited. `Survey.Climb` tells the roots that a walk looks up and its end, one step
after another, as they follow from the answers. Whatever a memory holds, a walk takes this course;
it asks for each root that is not remembered once (`Survey.exists_climb`).

There is no other course (`Survey.Climb.outcome_eq`), so the blocks that lead to its end tell what a
walk comes to (`Survey.WalksUp`).
-/

namespace BeaconDuties

open Survey

variable {node : Answers} {limits : Limits} {memory : Memory} {root next : Root}

/-- From a root, a node has these blocks one after another, newest first. The last one, or else the
    root, leads to the root `next`. -/
inductive Answers.Leads (node : Answers) : Root → List Block → Root → Prop where
  | nil {root : Root} : Leads node root [] root
  | cons {root next : Root} {block : Block} {older : List Block}
      (served : node (.block (.root root)) = .ok (some block))
      (rest : Leads node block.parent older next) : Leads node root (block :: older) next

namespace Survey

/-! ## The course of a walk -/

/-- A walk back along parents from a root, of no more than so many blocks, looks up these roots and
    ends like this. The walk started at the slot `start` and leads to the slot `oldest`. -/
inductive Climb (node : Answers) (limits : Limits) (start oldest : Slot) :
    Nat → Root → List Root → Except Failure (List Block) → Prop where
  | missing {steps : Nat} {root : Root} (h : node (.block (.root root)) = .ok none) :
      Climb node limits start oldest steps root [root] (.error (.because [] (.noParent root)))
  | failed {steps : Nat} {root : Root} {fault : NodeFault}
      (h : node (.block (.root root)) = .error fault) :
      Climb node limits start oldest steps root [root]
        (.error (.because [.obtainingBlock (.root root)] (.node fault)))
  /-- The parent is too old. -/
  | older {steps : Nat} {root : Root} {parent : Block}
      (served : node (.block (.root root)) = .ok (some parent)) (older : parent.slot < oldest) :
      Climb node limits start oldest steps root [root] (.ok [])
  /-- There is one more parent than there may be. -/
  | exhausted {root : Root} {parent : Block}
      (served : node (.block (.root root)) = .ok (some parent)) (within : oldest ≤ parent.slot) :
      Climb node limits start oldest 0 root [root]
        (.error (.because [] (.walk (.stepLimit start limits.maxWalk))))
  /-- The parent is the first block. -/
  | first {steps : Nat} {root : Root} {parent : Block}
      (served : node (.block (.root root)) = .ok (some parent)) (within : oldest ≤ parent.slot)
      (zero : parent.slot = 0) :
      Climb node limits start oldest (steps + 1) root [root] (.ok [parent])
  /-- A parent is found, and the walk goes on from it. -/
  | next {steps : Nat} {root : Root} {parent : Block} {looked : List Root}
      {result : Except Failure (List Block)}
      (served : node (.block (.root root)) = .ok (some parent)) (within : oldest ≤ parent.slot)
      (pos : parent.slot ≠ 0)
      (rest : Climb node limits start oldest steps parent.parent looked result) :
      Climb node limits start oldest (steps + 1) root (root :: looked) (result.map (parent :: ·))

variable {start oldest : Slot} {steps : Nat} {looked : List Root}
  {result : Except Failure (List Block)}

theorem Climb.length_le (h : Climb node limits start oldest steps root looked result) :
    looked.length ≤ steps + 1 := by
  induction h with
  | missing | failed | older | exhausted | first => exact Nat.le_add_left _ _
  | next _ _ _ _ ih => exact Nat.succ_le_succ ih

/-! ## Blocks on the way -/

/-- These blocks lead from a root to the root `next`. None of them is too old, and at most the last
    one is of slot 0. -/
structure Line (node : Answers) (oldest : Slot) (root : Root) (line : List Block) (next : Root) :
    Prop where
  leads : node.Leads root line next
  within : ∀ block ∈ line, oldest ≤ block.slot
  pos : ∀ block ∈ line.dropLast, block.slot ≠ 0

namespace Line

variable {block parent : Block} {line : List Block}

theorem nil : Line node oldest root [] root := ⟨.nil, List.forall_mem_nil _, List.forall_mem_nil _⟩

theorem singleton (served : node (.block (.root root)) = .ok (some parent))
    (within : oldest ≤ parent.slot) : Line node oldest root [parent] parent.parent :=
  ⟨.cons served .nil, List.forall_mem_singleton.2 within, List.forall_mem_nil _⟩

theorem cons (served : node (.block (.root root)) = .ok (some parent))
    (within : oldest ≤ parent.slot) (pos : parent.slot ≠ 0)
    (h : Line node oldest parent.parent line next) : Line node oldest root (parent :: line) next where
  leads := .cons served h.leads
  within := List.forall_mem_cons.2 ⟨within, h.within⟩
  pos := by
    cases line with
    | nil => exact List.forall_mem_nil _
    | cons => exact List.forall_mem_cons.2 ⟨pos, h.pos⟩

/-- The first of some blocks on the way, and the way from there. -/
theorem of_cons (h : Line node oldest root (parent :: line) next) :
    node (.block (.root root)) = .ok (some parent) ∧ oldest ≤ parent.slot ∧
      Line node oldest parent.parent line next ∧ (line ≠ [] → parent.slot ≠ 0) := by
  obtain ⟨leads, within, pos⟩ := h
  obtain ⟨hparent, hline⟩ := List.forall_mem_cons.1 within
  cases leads with
  | cons served rest =>
  refine ⟨served, hparent, ⟨rest, hline, fun block hb => ?_⟩, fun hne => ?_⟩
  · cases line with
    | nil => simp at hb
    | cons => exact pos block (List.mem_cons_of_mem _ hb)
  · rw [List.dropLast_cons_of_ne_nil hne] at pos
    exact pos parent List.mem_cons_self

end Line

/-- A walk of no more than so many blocks finds this line: it ends with the block of slot 0, or
    leads to one that is too old. -/
structure Reaches (node : Answers) (oldest : Slot) (steps : Nat) (root : Root)
    (line : List Block) : Prop where
  length_le : line.length ≤ steps
  ends : ∃ next, Line node oldest root line next ∧
    ((∃ first, line.getLast? = some first ∧ first.slot = 0) ∨
      ∃ older, node (.block (.root next)) = .ok (some older) ∧ older.slot < oldest)

/-- A walk of no more than so many blocks looks up the root `next`. -/
def GetsTo (node : Answers) (oldest : Slot) (steps : Nat) (root next : Root) : Prop :=
  ∃ line, line.length ≤ steps ∧ Line node oldest root line next ∧ ∀ block ∈ line, block.slot ≠ 0

/-- There are more blocks on the way than so many. -/
def Exceeds (node : Answers) (oldest : Slot) (steps : Nat) (root : Root) : Prop :=
  ∃ line next, line.length = steps + 1 ∧ Line node oldest root line next

/-- How a walk of no more than so many blocks ends. -/
inductive Ending (node : Answers) (limits : Limits) (start oldest : Slot) (steps : Nat)
    (root : Root) : Except Failure (List Block) → Prop where
  | found {line : List Block} (h : Reaches node oldest steps root line) :
      Ending node limits start oldest steps root (.ok line)
  | exceeded (h : Exceeds node oldest steps root) :
      Ending node limits start oldest steps root
        (.error (.because [] (.walk (.stepLimit start limits.maxWalk))))
  | missing {next : Root} (h : GetsTo node oldest steps root next)
      (hnone : node (.block (.root next)) = .ok none) :
      Ending node limits start oldest steps root (.error (.because [] (.noParent next)))
  | failed {next : Root} {fault : NodeFault} (h : GetsTo node oldest steps root next)
      (hfault : node (.block (.root next)) = .error fault) :
      Ending node limits start oldest steps root
        (.error (.because [.obtainingBlock (.root next)] (.node fault)))

theorem GetsTo.nil : GetsTo node oldest steps root root :=
  ⟨[], Nat.zero_le _, .nil, List.forall_mem_nil _⟩

theorem GetsTo.cons {parent : Block} (served : node (.block (.root root)) = .ok (some parent))
    (within : oldest ≤ parent.slot) (pos : parent.slot ≠ 0)
    (h : GetsTo node oldest steps parent.parent next) :
    GetsTo node oldest (steps + 1) root next := by
  obtain ⟨line, hlength, hline, hpos⟩ := h
  exact ⟨parent :: line, Nat.succ_le_succ hlength, hline.cons served within pos,
    List.forall_mem_cons.2 ⟨pos, hpos⟩⟩

/-- If a walk goes on from a parent, it ends as the walk from there does. -/
theorem Ending.onward {parent : Block} (served : node (.block (.root root)) = .ok (some parent))
    (within : oldest ≤ parent.slot) (pos : parent.slot ≠ 0)
    (h : Ending node limits start oldest steps parent.parent result) :
    Ending node limits start oldest (steps + 1) root (result.map (parent :: ·)) := by
  cases h with
  | @found line h =>
    obtain ⟨hlength, next, hline, hend⟩ := h
    refine .found ⟨Nat.succ_le_succ hlength, next, hline.cons served within pos, ?_⟩
    refine hend.imp_left fun ⟨first, hfirst, hzero⟩ => ⟨first, ?_, hzero⟩
    rw [List.getLast?_cons, hfirst, Option.getD_some]
  | exceeded h =>
    obtain ⟨line, next, hlength, hline⟩ := h
    exact .exceeded ⟨parent :: line, next, congrArg _ hlength, hline.cons served within pos⟩
  | missing h hnone => exact .missing (h.cons served within pos) hnone
  | failed h hfault => exact .failed (h.cons served within pos) hfault

theorem Climb.ending (h : Climb node limits start oldest steps root looked result) :
    Ending node limits start oldest steps root result := by
  induction h with
  | missing h => exact .missing .nil h
  | failed h => exact .failed .nil h
  | older served older =>
    exact .found ⟨Nat.zero_le _, _, .nil, .inr ⟨_, served, older⟩⟩
  | exhausted served within => exact .exceeded ⟨_, _, rfl, .singleton served within⟩
  | first served within zero =>
    exact .found ⟨Nat.le_add_left _ _, _, .singleton served within, .inl ⟨_, rfl, zero⟩⟩
  | next served within pos _ ih => exact ih.onward served within pos

/-- A walk that finds a line takes its course. -/
theorem exists_climb_of_reaches : ∀ {steps : Nat} {root : Root} {line : List Block},
    Reaches node oldest steps root line →
      ∃ looked, Climb node limits start oldest steps root looked (.ok line)
  | steps, root, [], ⟨_, next, hline, hend⟩ => by
    obtain ⟨first, hfirst, -⟩ | ⟨older, served, hlt⟩ := hend
    · cases hfirst
    · cases hline.leads
      exact ⟨_, .older served hlt⟩
  | steps + 1, root, parent :: line, ⟨hlength, next, hline, hend⟩ => by
    obtain ⟨served, within, hrest, hpos⟩ := hline.of_cons
    by_cases zero : parent.slot = 0
    · obtain rfl : line = [] := by
        by_contra hne
        exact hpos hne zero
      exact ⟨_, .first served within zero⟩
    · have hend' : (∃ first, line.getLast? = some first ∧ first.slot = 0) ∨
          ∃ older, node (.block (.root next)) = .ok (some older) ∧ older.slot < oldest := by
        refine hend.imp_left fun ⟨first, hfirst, hzero⟩ => ?_
        cases hlast : line.getLast? with
        | none =>
          rw [List.getLast?_cons, hlast, Option.getD_none] at hfirst
          cases hfirst
          exact absurd hzero zero
        | some last =>
          rw [List.getLast?_cons, hlast, Option.getD_some] at hfirst
          exact ⟨last, rfl, Option.some.inj hfirst ▸ hzero⟩
      obtain ⟨looked, hclimb⟩ :=
        exists_climb_of_reaches ⟨Nat.le_of_succ_le_succ hlength, next, hrest, hend'⟩
      exact ⟨_, .next served within zero hclimb⟩

theorem exists_climb_of_exceeds : ∀ {steps : Nat} {root : Root}, Exceeds node oldest steps root →
    ∃ looked, Climb node limits start oldest steps root looked
      (.error (.because [] (.walk (.stepLimit start limits.maxWalk))))
  | 0, root, ⟨[parent], next, _, hline⟩ => by
    obtain ⟨served, within, -⟩ := hline.of_cons
    exact ⟨_, .exhausted served within⟩
  | steps + 1, root, ⟨parent :: line, next, hlength, hline⟩ => by
    obtain ⟨served, within, hrest, hpos⟩ := hline.of_cons
    have hlength : line.length = steps + 1 := Nat.succ.inj hlength
    have hne : line ≠ [] := List.ne_nil_of_length_eq_add_one hlength
    obtain ⟨looked, hclimb⟩ := exists_climb_of_exceeds ⟨line, next, hlength, hrest⟩
    exact ⟨_, .next served within (hpos hne) hclimb⟩

/-- A walk ends where it gets to if it does not go on from there. -/
theorem exists_climb_of_getsTo {failure : Failure} (hstop : ∀ steps,
      Climb node limits start oldest steps next [next] (.error failure)) :
    ∀ {steps : Nat} {root : Root}, GetsTo node oldest steps root next →
      ∃ looked, Climb node limits start oldest steps root looked (.error failure)
  | steps, root, ⟨[], _, hline, _⟩ => by
    cases hline.leads
    exact ⟨_, hstop steps⟩
  | steps + 1, root, ⟨parent :: line, hlength, hline, hpos⟩ => by
    obtain ⟨served, within, hrest, -⟩ := hline.of_cons
    obtain ⟨pos, hpos⟩ := List.forall_mem_cons.1 hpos
    obtain ⟨looked, hclimb⟩ :=
      exists_climb_of_getsTo hstop ⟨line, Nat.le_of_succ_le_succ hlength, hrest, hpos⟩
    exact ⟨_, .next served within pos hclimb⟩

theorem Ending.exists_climb (h : Ending node limits start oldest steps root result) :
    ∃ looked, Climb node limits start oldest steps root looked result := by
  cases h with
  | found h => exact exists_climb_of_reaches h
  | exceeded h => exact exists_climb_of_exceeds h
  | missing h hnone => exact exists_climb_of_getsTo (fun _ => .missing hnone) h
  | failed h hfault => exact exists_climb_of_getsTo (fun _ => .failed hfault) h

/-! ## Walks from a memory -/

/-- Of some roots that are looked up one after another, these are asked for if a memory knows the
    blocks of the others: each one once, when it is first needed. -/
structure Asked (memory : Memory) (looked asked : List Root) : Prop where
  nodup : asked.Nodup
  sublist : asked.Sublist looked
  mem_iff : ∀ root, root ∈ asked ↔ root ∈ looked ∧ memory.blocksByRoot[root]? = none

/-- A root is asked for if its block is not remembered. -/
def ifUnknown (memory : Memory) (root : Root) : List Root :=
  if memory.blocksByRoot[root]? = none then [root] else []

namespace Asked

variable {after : Memory} {asked : List Root}

theorem singleton : Asked memory [root] (ifUnknown memory root) := by
  rw [ifUnknown]
  by_cases h : memory.blocksByRoot[root]? = none
  · rw [if_pos h]
    refine ⟨List.nodup_singleton _, .refl _, fun other => ?_⟩
    rw [List.mem_singleton]
    exact ⟨fun ho => ⟨ho, ho ▸ h⟩, And.left⟩
  · rw [if_neg h]
    refine ⟨.nil, List.nil_sublist _, fun other => ⟨nofun, fun ⟨ho, hnone⟩ => ?_⟩⟩
    exact absurd (List.mem_singleton.1 ho ▸ hnone) h

/-- Once the block of a root is known, it is not asked for again. -/
theorem cons (h : Asked after looked asked) (hknown : after.blocksByRoot[root]? ≠ none)
    (hother : ∀ other, other ≠ root → after.blocksByRoot[other]? = memory.blocksByRoot[other]?) :
    Asked memory (root :: looked) (ifUnknown memory root ++ asked) := by
  have hfresh : root ∉ asked := fun hroot => hknown ((h.mem_iff root).1 hroot).2
  have hmem : ∀ other, other ≠ root →
      (other ∈ asked ↔ other ∈ root :: looked ∧ memory.blocksByRoot[other]? = none) := by
    intro other hne
    rw [h.mem_iff, hother other hne, List.mem_cons, or_iff_right hne]
  rw [ifUnknown]
  by_cases hroot : memory.blocksByRoot[root]? = none
  · rw [if_pos hroot, List.singleton_append]
    refine ⟨List.nodup_cons.2 ⟨hfresh, h.nodup⟩, h.sublist.cons_cons _, fun other => ?_⟩
    by_cases hne : other = root
    · subst hne
      exact ⟨fun _ => ⟨List.mem_cons_self, hroot⟩, fun _ => List.mem_cons_self⟩
    · rw [List.mem_cons, or_iff_right hne, hmem other hne]
  · rw [if_neg hroot, List.nil_append]
    refine ⟨h.nodup, h.sublist.cons _, fun other => ?_⟩
    by_cases hne : other = root
    · subst hne
      exact ⟨fun ho => absurd ho hfresh, fun ho => absurd ho.2 hroot⟩
    · exact hmem other hne

end Asked

/-- The requests for the blocks of these roots. -/
def blocksWith (roots : List Root) : List Request := roots.map fun root => .block (.root root)

/-- The parent with a root, as a node answers. -/
def parentOf (node : Answers) (root : Root) : Except Failure Block :=
  match node (.block (.root root)) with
  | .ok (some block) => .ok block
  | .ok none => .error (.because [] (.noParent root))
  | .error fault => .error (.because [.obtainingBlock (.root root)] (.node fault))

/-- Whatever is remembered, a parent is what the node answers. It is asked for if it is not
    remembered, and what is answered is remembered afterwards. -/
theorem exists_outcome_parentBlock (hm : memory.Recalls node) :
    ∃ after : Memory, after.Recalls node ∧
      (∀ other, other ≠ root → after.blocksByRoot[other]? = memory.blocksByRoot[other]?) ∧
      (∀ answer, node (.block (.root root)) = .ok answer → after.blocksByRoot[root]? = some answer) ∧
      outcome node (parentBlock root) memory = (parentOf node root, after) ∧
      requestsFrom node (parentBlock root) memory = blocksWith (ifUnknown memory root) := by
  have hreply : ∀ {ε : Type} {reply : Except ε (Option Block)},
      reply.map (LookUp.blockWith root).ofReply = reply := fun {_ reply} => by cases reply <;> rfl
  obtain ⟨after, hother, hkept, houtcome, hrequests⟩ :=
    @LookUp.exists_outcome node memory (.blockWith root) fun _ h => hreply.trans (hm.blockWith h)
  have houtcome : outcome node (blockWith root) memory =
      ((node (.block (.root root))).mapError fun fault => .because [] (.node fault), after) :=
    houtcome.trans (congrArg (·, after) hreply)
  have hparent : outcome node (parentBlock root) memory = (parentOf node root, after) := by
    rw [parentBlock, outcome_bind, outcome_during, houtcome, parentOf]
    rcases node (.block (.root root)) with fault | _ | block <;> rfl
  have hcomposed : Composed (fun _ => True) True (parentBlock root) := .parentBlock trivial
  refine ⟨after, ?_, fun other hne => hother (.blockWith other) fun h => hne (Key.blockWith.inj h),
    fun answer h => (hkept answer).2 (hreply.trans h), hparent, ?_⟩
  · have hafter := hcomposed.recalls hm
    rwa [hparent] at hafter
  · have hasked : requestsFrom node (blockWith root) memory = blocksWith (ifUnknown memory root) := by
      refine hrequests.trans ?_
      rw [blocksWith, ifUnknown, apply_ite (List.map _)]
      rfl
    rw [parentBlock, requestsFrom_bind, requestsFrom_during, outcome_during, houtcome, hasked]
    rcases node (.block (.root root)) with fault | _ | block <;> exact List.append_nil _

/-- How a walk goes on from a parent that is not too old. -/
def onward (limits : Limits) (start oldest : Slot) : Nat → Block → Survey (List Block)
  | 0, _ => fail (.walk (.stepLimit start limits.maxWalk))
  | steps + 1, parent => do
    checkTime limits
    if parent.slot = 0 then return [parent]
    else return parent :: (← ancestorsWithin limits start oldest steps parent.parent)

theorem ancestorsWithin_eq :
    ancestorsWithin limits start oldest steps root = parentBlock root >>= fun parent =>
      if parent.slot < oldest then pure [] else onward limits start oldest steps parent := by
  cases steps <;> rfl

/-- Whatever is remembered, a walk takes its course, and asks for the blocks on it that are not
    remembered. -/
theorem exists_climb (hlimits : limits.expired = false) :
    ∀ {steps : Nat} {root : Root} {memory : Memory}, memory.Recalls node →
      ∃ looked asked, Climb node limits start oldest steps root looked
          (outcome node (ancestorsWithin limits start oldest steps root) memory).1 ∧
        Asked memory looked asked ∧
        requestsFrom node (ancestorsWithin limits start oldest steps root) memory =
          blocksWith asked
  | steps, root, memory, hm => by
    obtain ⟨after, hafter, hother, hknown, houtcome, hrequests⟩ :=
      @exists_outcome_parentBlock _ _ root hm
    rw [ancestorsWithin_eq, outcome_bind, requestsFrom_bind, houtcome, hrequests, parentOf]
    rcases hn : node (.block (.root root)) with fault | _ | parent
    · exact ⟨_, _, .failed hn, .singleton, List.append_nil _⟩
    · exact ⟨_, _, .missing hn, .singleton, List.append_nil _⟩
    dsimp only
    by_cases hlt : parent.slot < oldest
    · rw [if_pos hlt]
      exact ⟨_, _, .older hn hlt, .singleton, List.append_nil _⟩
    have within : oldest ≤ parent.slot := UInt64.not_lt.1 hlt
    rw [if_neg hlt]
    cases steps with
    | zero => exact ⟨_, _, .exhausted hn within, .singleton, List.append_nil _⟩
    | succ steps =>
      rw [onward, checkTime_bind hlimits]
      by_cases hzero : parent.slot = 0
      · rw [if_pos hzero]
        exact ⟨_, _, .first hn within hzero, .singleton, List.append_nil _⟩
      · rw [if_neg hzero, outcome_bind_pure, requestsFrom_bind_pure]
        obtain ⟨looked, asked, hclimb, hasked, hrest⟩ := exists_climb hlimits hafter
        refine ⟨_, _, hclimb.next hn within hzero, hasked.cons ?_ hother, ?_⟩
        · rw [hknown _ hn]
          exact Option.some_ne_none _
        · rw [hrest, blocksWith, blocksWith, blocksWith, List.map_append]

/-- A walk goes on from a parent that the node has. -/
theorem exists_outcome_of_served {parent : Block} (hm : memory.Recalls node)
    (served : node (.block (.root root)) = .ok (some parent)) :
    ∃ after : Memory, after.Recalls node ∧
      outcome node (ancestorsWithin limits start oldest steps root) memory =
        outcome node (if parent.slot < oldest then pure []
          else onward limits start oldest steps parent) after := by
  obtain ⟨after, hafter, -, -, houtcome, -⟩ := @exists_outcome_parentBlock _ _ root hm
  refine ⟨after, hafter, ?_⟩
  rw [ancestorsWithin_eq, outcome_bind, houtcome, parentOf, served]

/-- Whatever is remembered, there is no other course that a walk can take. -/
theorem Climb.outcome_eq (h : Climb node limits start oldest steps root looked result)
    (hlimits : limits.expired = false) (hm : memory.Recalls node) :
    (outcome node (ancestorsWithin limits start oldest steps root) memory).1 = result := by
  induction h generalizing memory with
  | @missing _ root h | @failed _ root _ h =>
    obtain ⟨after, -, -, -, houtcome, -⟩ := @exists_outcome_parentBlock _ _ root hm
    rw [ancestorsWithin_eq, outcome_bind, houtcome, parentOf, h]
  | older served older =>
    obtain ⟨after, -, houtcome⟩ := exists_outcome_of_served hm served
    rw [houtcome, if_pos older]
    rfl
  | exhausted served within =>
    obtain ⟨after, -, houtcome⟩ := exists_outcome_of_served hm served
    rw [houtcome, if_neg (UInt64.not_lt.2 within)]
    rfl
  | first served within zero =>
    obtain ⟨after, -, houtcome⟩ := exists_outcome_of_served hm served
    rw [houtcome, if_neg (UInt64.not_lt.2 within), onward, checkTime_bind hlimits, if_pos zero]
    rfl
  | next served within pos _ ih =>
    obtain ⟨after, hafter, houtcome⟩ := exists_outcome_of_served hm served
    rw [houtcome, if_neg (UInt64.not_lt.2 within), onward, checkTime_bind hlimits, if_neg pos,
      outcome_bind_pure, ih hafter]

/-- The blocks on the way tell how a walk ends. -/
theorem outcome_ancestorsWithin_eq_iff (hlimits : limits.expired = false)
    (hm : memory.Recalls node) :
    (outcome node (ancestorsWithin limits start oldest steps root) memory).1 = result ↔
      Ending node limits start oldest steps root result := by
  constructor
  · rintro rfl
    obtain ⟨looked, -, hclimb, -⟩ := @exists_climb node limits start oldest hlimits steps root _ hm
    exact hclimb.ending
  · intro hending
    obtain ⟨looked, hclimb⟩ := hending.exists_climb
    exact hclimb.outcome_eq hlimits hm

/-- How a walk back from a block with a parent ends if there is time, and what it asks, if these
    blocks are remembered. The blocks on the way are those of the node. -/
structure WalksUp (node : Answers) (limits : Limits) (memory : Memory) (block : Block)
    (oldest : Slot) (result : Except Failure (List Block)) (requests : List Request) : Prop where
  /-- The ancestors are a line that leads to the first block or to a parent that is too old. -/
  found : ∀ line, result = .ok line ↔ Reaches node oldest limits.maxWalk.toNat block.parent line
  /-- The limit is reported if there are more blocks on the way than it says. -/
  stepLimit : result = .error (.because [] (.walk (.stepLimit block.slot limits.maxWalk))) ↔
    Exceeds node oldest limits.maxWalk.toNat block.parent
  /-- The parent that is reported missing is the first one that is not found. -/
  missing : ∀ root, result = .error (.because [] (.noParent root)) ↔
    GetsTo node oldest limits.maxWalk.toNat block.parent root ∧
      node (.block (.root root)) = .ok none
  /-- The fault that is reported is that of the first parent that cannot be had. -/
  failed : ∀ root fault,
    result = .error (.because [.obtainingBlock (.root root)] (.node fault)) ↔
      GetsTo node oldest limits.maxWalk.toNat block.parent root ∧
        node (.block (.root root)) = .error fault
  /-- There is no other end. -/
  ends : Ending node limits block.slot oldest limits.maxWalk.toNat block.parent result
  /-- What is remembered does not change the end. -/
  unaided : result = answer node (ancestors limits block oldest)
  /-- No more roots are looked up than the limit and one. Those that are not remembered are asked
      for, once each. -/
  asked : ∃ looked asked,
    Climb node limits block.slot oldest limits.maxWalk.toNat block.parent looked result ∧
      looked.length ≤ limits.maxWalk.toNat + 1 ∧ Asked memory looked asked ∧
      requests = blocksWith asked

variable {block : Block}

theorem walksUp_of_recalls (hlimits : limits.expired = false) (hm : memory.Recalls node)
    (hslot : block.slot ≠ 0) :
    WalksUp node limits memory block oldest
      (outcome node (ancestors limits block oldest) memory).1
      (requestsFrom node (ancestors limits block oldest) memory) := by
  have hwalk : ancestors limits block oldest =
      ancestorsWithin limits block.slot oldest limits.maxWalk.toNat block.parent := if_neg hslot
  rw [hwalk]
  obtain ⟨looked, asked, hclimb, hasked, hrequests⟩ :=
    @exists_climb node limits block.slot oldest hlimits limits.maxWalk.toNat block.parent _ hm
  have hends := fun result => @outcome_ancestorsWithin_eq_iff node limits memory block.parent
    block.slot oldest limits.maxWalk.toNat result hlimits hm
  refine ⟨fun line => ?_, ?_, fun root => ?_, fun root fault => ?_, hclimb.ending, ?_,
    looked, asked, hclimb, hclimb.length_le, hasked, hrequests⟩
  · exact (hends _).trans ⟨fun h => by cases h; assumption, .found⟩
  · exact (hends _).trans ⟨fun h => by cases h; assumption, .exceeded⟩
  · refine (hends _).trans ⟨fun h => ?_, fun h => .missing h.1 h.2⟩
    cases h with
    | missing h hnone => exact ⟨h, hnone⟩
  · refine (hends _).trans ⟨fun h => ?_, fun h => .failed h.1 h.2⟩
    cases h with
    | failed h hfault => exact ⟨h, hfault⟩
  · rw [answer_eq, hwalk]
    exact (hclimb.outcome_eq hlimits .empty).symm

end Survey

namespace Session

variable {visits : List Visit} {block : Block}

/-- **Walks back along parents.** After any look-ups and walks on a node that always answers alike,
    a walk back from a block ends as the blocks on the way say, and asks for what is not remembered.
    The block of slot 0 has no ancestors, and nothing is asked. -/
theorem walksUp (h : Session .empty visits memory)
    (hfixed : ∀ turn ∈ turnsOf visits, turn.answer = node turn.request)
    (hlimits : limits.expired = false) (block : Block) (oldest : Slot) :
    (block.slot = 0 →
      (outcome node (ancestors limits block oldest) memory).1 = .ok [] ∧
        requestsFrom node (ancestors limits block oldest) memory = []) ∧
    (block.slot ≠ 0 →
      WalksUp node limits memory block oldest
        (outcome node (ancestors limits block oldest) memory).1
        (requestsFrom node (ancestors limits block oldest) memory)) := by
  refine ⟨fun hslot => ?_, walksUp_of_recalls hlimits (h.recalls hfixed)⟩
  rw [ancestors, if_pos hslot]
  exact ⟨rfl, rfl⟩

/-- A block of slot 5 with this parent. -/
def knot (parent : UInt8) : Block :=
  ⟨5, 0, .replicate 32 parent, .zero 32, .phase0 [], .zero 96⟩

/-- A node that has two blocks, each of them the parent of the other one. -/
def circle : Answers
  | .block (.root root) =>
    if root = .replicate 32 1 then .ok (some (knot 2))
    else if root = .replicate 32 2 then .ok (some (knot 1))
    else .ok none
  | request => .error (.unsupported request.capability)

/-- One of the blocks has been looked up. -/
def lookedUpKnot : List Visit :=
  let lookUp : LookUp := .blockWith (.replicate 32 2)
  let reply : Option Block := some (knot 1)
  [⟨.single lookUp, [⟨lookUp.request, .ok reply⟩], .ok reply⟩]

/-- In a circle a walk ends because of its limit. It asks for each block once, and not for one that
    is remembered. If the blocks are too old, there are no ancestors. -/
theorem walksUp_circle :
    ∃ memory, Session .empty lookedUpKnot memory ∧
      (∀ turn ∈ turnsOf lookedUpKnot, turn.answer = circle turn.request) ∧
      WalksUp circle ⟨false, 3⟩ memory (knot 1) 0
        (.error (.because [] (.walk (.stepLimit 5 3)))) [.block (.root (.replicate 32 1))] ∧
      WalksUp circle ⟨false, 3⟩ memory (knot 1) 6 (.ok []) [.block (.root (.replicate 32 1))] := by
  have hsession : Session .empty lookedUpKnot
      (Memory.empty.keep (.blockWith (.replicate 32 2)) (some (knot 1))) :=
    .of_reply (.blockWith (.replicate 32 2)) (some (knot 1))
  have hfixed : ∀ turn ∈ turnsOf lookedUpKnot, turn.answer = circle turn.request :=
    List.forall_mem_singleton.2 rfl
  have hwalk := @walksUp circle ⟨false, 3⟩ _ _ hsession hfixed rfl (knot 1)
  refine ⟨_, hsession, hfixed, ?_, ?_⟩
  · exact (hwalk 0).2 (by decide)
  · exact (hwalk 6).2 (by decide)

end Session

end BeaconDuties
