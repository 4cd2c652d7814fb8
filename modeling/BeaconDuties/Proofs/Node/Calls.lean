import BeaconDuties.Node.Exchange
import BeaconDuties.Proofs.Node.Identifier

/-!
Different requests are sent as different calls.

Each request has a path, a query and a body of its own (`Request.call_eq`), and a call can be taken
apart into these again: no segment of a path has a slash or a question mark in it
(`Request.isSegment_of_mem_path`), so that the first question mark ends the path and each slash
begins a segment (`pathChars_inj`).

`names_read_back` brings this together with the names of blocks, states and validators, each of
which is read as what it is the name of.
-/

namespace BeaconDuties

/-! ## Paths -/

/-- Whether a text can stand between two slashes of a path. -/
def IsSegment (text : List Char) : Prop := ∀ c ∈ text, c ≠ '/' ∧ c ≠ '?'

instance {text : List Char} : Decidable (IsSegment text) := List.decidableBAll _ text

/-- Whether a text is empty or begins with a mark. -/
def BeginsAt (mark : Char) (text : List Char) : Prop := ∀ c ∈ text.head?, c = mark

theorem takeWhile_of_beginsAt {mark : Char} {text : List Char} (h : BeginsAt mark text) :
    text.takeWhile (· != mark) = [] := by
  cases text with
  | nil => rfl
  | cons c cs =>
    rw [List.takeWhile_cons, if_neg (by simpa using h c rfl)]

/-- What stands before the first mark can be told from what begins with it. -/
theorem append_inj_of_beginsAt {mark : Char} {xs xs' ys ys' : List Char} (hxs : mark ∉ xs)
    (hxs' : mark ∉ xs') (hys : BeginsAt mark ys) (hys' : BeginsAt mark ys')
    (h : xs ++ ys = xs' ++ ys') : xs = xs' ∧ ys = ys' := by
  have htake {xs ys : List Char} (hxs : mark ∉ xs) (hys : BeginsAt mark ys) :
      (xs ++ ys).takeWhile (· != mark) = xs := by
    rw [List.takeWhile_append_of_pos, takeWhile_of_beginsAt hys, List.append_nil]
    intro c hc
    rw [bne_iff_ne]
    rintro rfl
    exact hxs hc
  obtain rfl : xs = xs' := by rw [← htake hxs hys, h, htake hxs' hys']
  exact ⟨rfl, List.append_cancel_left h⟩

/-- The characters of a path. -/
def pathChars (path : List String) : List Char := path.flatMap fun segment => '/' :: segment.toList

theorem beginsAt_pathChars : ∀ {path : List String}, BeginsAt '/' (pathChars path)
  | [] => nofun
  | segment :: path => by
    rintro _ ⟨⟩
    rfl

theorem questionMark_not_mem_pathChars {path : List String}
    (h : ∀ segment ∈ path, IsSegment segment.toList) : '?' ∉ pathChars path := by
  intro hmem
  obtain ⟨segment, hsegment, hc⟩ := List.mem_flatMap.1 hmem
  rcases List.mem_cons.1 hc with hslash | hc
  · exact absurd hslash (by decide)
  · exact (h segment hsegment _ hc).2 rfl

theorem pathChars_inj : ∀ {path path' : List String}, (∀ segment ∈ path, IsSegment segment.toList) →
    (∀ segment ∈ path', IsSegment segment.toList) → pathChars path = pathChars path' → path = path'
  | [], [], _, _, _ => rfl
  | [], segment :: path, _, _, h => nomatch h
  | segment :: path, [], _, _, h => nomatch h
  | segment :: path, segment' :: path', hs, hs', h => by
    obtain ⟨hsegment, hpath⟩ := List.forall_mem_cons.1 hs
    obtain ⟨hsegment', hpath'⟩ := List.forall_mem_cons.1 hs'
    have hchars : segment.toList ++ pathChars path = segment'.toList ++ pathChars path' :=
      (List.cons.inj h).2
    obtain ⟨hfirst, hrest⟩ := append_inj_of_beginsAt (fun hc => (hsegment _ hc).1 rfl)
      (fun hc => (hsegment' _ hc).1 rfl) beginsAt_pathChars beginsAt_pathChars hchars
    rw [String.toList_inj.1 hfirst, pathChars_inj hpath hpath' hrest]

/-! ## Segments -/

theorem Numeral.isSegment_renderUInt64 (n : UInt64) : IsSegment (renderUInt64 n).toList := by
  intro c hc
  have hdigit := isDigit_of_mem_renderUInt64 c hc
  constructor <;> rintro rfl <;> exact absurd hdigit (by decide)

theorem FixedBytes.isSegment_render {size : Nat} (x : FixedBytes size) :
    IsSegment x.render.toList := by
  intro c hc
  have hmem : c = '0' ∨ c = 'x' ∨ c ∈ Hex.digits := by
    rw [toList_render, List.mem_cons, List.mem_cons] at hc
    exact hc.imp_right (Or.imp_right (Hex.mem_digits_of_mem_encodeChars c))
  constructor <;> rintro rfl <;> exact absurd hmem (by decide)

theorem BlockId.isSegment_render (x : BlockId) : IsSegment x.render.toList := by
  cases x with
  | head | genesis | finalized => decide
  | slot n => exact Numeral.isSegment_renderUInt64 n
  | root x => exact x.isSegment_render

theorem StateId.isSegment_render (x : StateId) : IsSegment x.render.toList := by
  cases x with
  | head | genesis | finalized | justified => decide
  | slot n => exact Numeral.isSegment_renderUInt64 n
  | root x => exact x.isSegment_render

namespace Request

/-! ## Calls -/

/-- The segments of the path of a call. -/
def path : Request → List String
  | genesis => ["eth", "v1", "beacon", "genesis"]
  | spec => ["eth", "v1", "config", "spec"]
  | forkSchedule => ["eth", "v1", "config", "fork_schedule"]
  | validators state _ => ["eth", "v1", "beacon", "states", state.render, "validators"]
  | proposers epoch => ["eth", "v1", "validator", "duties", "proposer", Numeral.renderUInt64 epoch]
  | attesters epoch _ =>
    ["eth", "v1", "validator", "duties", "attester", Numeral.renderUInt64 epoch]
  | committees state _ => ["eth", "v1", "beacon", "states", state.render, "committees"]
  | syncCommittee state _ => ["eth", "v1", "beacon", "states", state.render, "sync_committees"]
  | block id => ["eth", "v2", "beacon", "blocks", id.render]
  | header id => ["eth", "v1", "beacon", "headers", id.render]

/-- The epoch in the query of a call. -/
def query? : Request → Option Epoch
  | committees _ epoch | syncCommittee _ epoch => epoch
  | _ => none

/-- The body of a call. -/
def body? : Request → Option Json
  | validators _ ids => some (.record [("ids", .array (ids.map fun id => .text id.render))])
  | attesters _ indices => some (.array (indices.map .quantity))
  | _ => none

/-- The characters of a query. -/
def queryChars : Option Epoch → List Char
  | none => []
  | some epoch => "?epoch=".toList ++ (Numeral.renderUInt64 epoch).toList

theorem toList_join {path : List String} :
    (String.join (path.map ("/" ++ ·))).toList = pathChars path := by
  rw [String.toList_join, List.flatMap_map, pathChars]
  simp only [String.toList_append]
  rfl

theorem toList_target_get {path : List String} {query : Option Epoch} :
    (get path query).target.toList = pathChars path ++ queryChars query := by
  rw [get, String.toList_append, toList_join]
  cases query with
  | none => rfl
  | some epoch =>
    rw [Option.map_some, Option.getD_some, String.toList_append]
    rfl

theorem toList_target_post {path : List String} {body : Json} :
    (post path body).target.toList = pathChars path ++ queryChars none :=
  toList_join.trans (List.append_nil _).symm

/-- A call is told by the parts that it is made of. -/
theorem call_eq (r : Request) :
    r.call.target.toList = pathChars r.path ++ queryChars r.query? ∧ r.call.body = r.body? := by
  cases r with
  | validators | attesters => exact ⟨toList_target_post, rfl⟩
  | genesis | spec | forkSchedule | proposers | committees | syncCommittee | block | header =>
    exact ⟨toList_target_get, rfl⟩

theorem isSegment_of_mem_path (r : Request) : ∀ segment ∈ r.path, IsSegment segment.toList := by
  cases r with
  | genesis | spec | forkSchedule => decide
  | validators state _ | committees state _ | syncCommittee state _ =>
    simp only [path, List.forall_mem_cons]
    exact ⟨by decide, by decide, by decide, by decide, state.isSegment_render, by decide, nofun⟩
  | proposers epoch | attesters epoch _ =>
    simp only [path, List.forall_mem_cons]
    exact ⟨by decide, by decide, by decide, by decide, by decide,
      Numeral.isSegment_renderUInt64 epoch, nofun⟩
  | block id | header id =>
    simp only [path, List.forall_mem_cons]
    exact ⟨by decide, by decide, by decide, by decide, id.isSegment_render, nofun⟩

theorem queryChars_injective : Function.Injective queryChars := by
  rintro (_ | epoch) (_ | epoch') h
  · rfl
  · cases h
  · cases h
  · have hchars := List.append_cancel_left h
    rw [Numeral.renderUInt64_injective (String.toList_inj.1 hchars)]

theorem beginsAt_queryChars : ∀ {query : Option Epoch}, BeginsAt '?' (queryChars query)
  | none => nofun
  | some epoch => by
    rintro _ ⟨⟩
    rfl

/-- The parts of a call can be told from it. -/
theorem parts_eq {r r' : Request} (h : r.call = r'.call) :
    r.path = r'.path ∧ r.query? = r'.query? ∧ r.body? = r'.body? := by
  obtain ⟨htarget, hbody⟩ := r.call_eq
  obtain ⟨htarget', hbody'⟩ := r'.call_eq
  rw [h, htarget'] at htarget
  obtain ⟨hpath, hquery⟩ := append_inj_of_beginsAt
    (questionMark_not_mem_pathChars r'.isSegment_of_mem_path)
    (questionMark_not_mem_pathChars r.isSegment_of_mem_path) beginsAt_queryChars
    beginsAt_queryChars htarget
  refine ⟨(pathChars_inj r'.isSegment_of_mem_path r.isSegment_of_mem_path hpath).symm,
    (queryChars_injective hquery).symm, ?_⟩
  rw [← hbody, ← hbody', h]

/-! ## Bodies -/

theorem text_injective : Function.Injective Json.text := by
  intro x y h
  injection h with h
  exact Option.some.inj h

theorem validatorsBody_inj {state state' : StateId} {ids ids' : List ValidatorId}
    (h : (validators state ids).body? = (validators state' ids').body?) : ids = ids' := by
  simp only [body?, Json.record, List.map_cons, List.map_nil, Option.some.injEq, Json.object.injEq,
    List.cons.injEq, Prod.mk.injEq, Json.array.injEq, and_true, true_and] at h
  exact (List.map_inj_right fun _ _ heq => ValidatorId.render_injective (text_injective heq)).1 h

theorem attestersBody_inj {epoch epoch' : Epoch} {indices indices' : List ValidatorIndex}
    (h : (attesters epoch indices).body? = (attesters epoch' indices').body?) :
    indices = indices' := by
  simp only [body?, Option.some.injEq, Json.array.injEq] at h
  exact (List.map_inj_right fun _ _ heq => Numeral.renderUInt64_injective (text_injective heq)).1 h

/-- Different requests are sent as different calls. -/
theorem call_injective : Function.Injective call := by
  intro r r' h
  obtain ⟨hpath, hquery, hbody⟩ := parts_eq h
  -- paths of different kinds of requests differ in their words or in their lengths
  cases r <;> cases r' <;> simp only [path, List.cons.injEq, reduceCtorEq, String.reduceEq,
    and_true, true_and, and_false, false_and] at hpath
  case genesis.genesis | spec.spec | forkSchedule.forkSchedule => rfl
  case validators.validators state ids state' ids' =>
    rw [StateId.render_injective hpath, validatorsBody_inj hbody]
  case proposers.proposers epoch epoch' => rw [Numeral.renderUInt64_injective hpath]
  case attesters.attesters epoch indices epoch' indices' =>
    rw [Numeral.renderUInt64_injective hpath, attestersBody_inj hbody]
  case committees.committees state epoch state' epoch' =>
    obtain rfl : epoch = epoch' := hquery
    rw [StateId.render_injective hpath]
  case syncCommittee.syncCommittee state epoch state' epoch' =>
    obtain rfl : epoch = epoch' := hquery
    rw [StateId.render_injective hpath]
  case block.block id id' => rw [BlockId.render_injective hpath]
  case header.header id id' => rw [BlockId.render_injective hpath]

end Request

/-- **Names are read as what they are names of.** What is written for a block, a state or a
    validator is read as just this one. So different ones have different names, and requests that
    differ in them, or in anything else, are sent as different calls. -/
theorem names_read_back :
    (∀ x y : BlockId, BlockId.read? x.render = some y ↔ x = y) ∧
    (∀ x y : StateId, StateId.read? x.render = some y ↔ x = y) ∧
    (∀ x y : ValidatorId, ValidatorId.read? x.render = some y ↔ x = y) ∧
    Function.Injective BlockId.render ∧ Function.Injective StateId.render ∧
    Function.Injective ValidatorId.render ∧ Function.Injective Request.call := by
  refine ⟨fun x y => ?_, fun x y => ?_, fun x y => ?_, BlockId.render_injective,
    StateId.render_injective, ValidatorId.render_injective, Request.call_injective⟩
  · rw [x.read?_render, Option.some.injEq]
  · rw [x.read?_render, Option.some.injEq]
  · rw [x.read?_render, Option.some.injEq]

end BeaconDuties
