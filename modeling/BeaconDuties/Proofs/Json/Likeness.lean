import BeaconDuties.Json.Storable
import BeaconDuties.Proofs.Json.Fields
import BeaconDuties.Proofs.Lists

/-!
Values that say the same to a reader.

What a value says depends on its place in a message: a number may be written natively or as the
string of its digits, and an object may have its members in any order, and others than those that
are read. A `Json.Likeness` tells when two values say the same in a place. There is one for every
kind of place (`Likeness.scalar`, `Likeness.number`, `Likeness.list`, `Likeness.record`).

A reader `Json.Respects` a likeness if it makes no difference between proper values that are alike.
A reader of records does if readers of all their members do (`Respects.record`). This rests on
values being `Json.Proper`: no object has two members of one name, and all names are texts.
-/

namespace BeaconDuties.Json

/-! ## Proper values -/

mutual

/-- Whether no object within a value has two members of one name. -/
def namesOnce : Json → Bool
  | array items => itemsOnce items
  | object members => (members.map Prod.fst).Nodup && membersOnce members
  | null | bool _ | number _ | string _ => true
termination_by structural v => v

/-- Whether this is so within all items of an array. -/
def itemsOnce : List Json → Bool
  | [] => true
  | item :: items => namesOnce item && itemsOnce items
termination_by structural items => items

/-- Whether this is so within all members of an object. -/
def membersOnce : List (Option String × Json) → Bool
  | [] => true
  | (_, value) :: members => namesOnce value && membersOnce members
termination_by structural members => members

end

/-- A value of limited depth, with texts for its strings and numbers within their range, whose
    objects do not have two members of one name. -/
structure Proper (v : Json) (depth : Nat) : Prop where
  storable : v.storable depth
  once : v.namesOnce

variable {α : Type} {depth : Nat} {items : List Json} {members : List (Option String × Json)}

theorem storable_of_mem_items : ∀ {items : List Json}, itemsStorable items depth →
    ∀ item ∈ items, item.storable depth
  | [], _ => List.forall_mem_nil _
  | item :: items, h => by
    rw [itemsStorable, Bool.and_eq_true] at h
    exact List.forall_mem_cons.2 ⟨h.1, storable_of_mem_items h.2⟩

theorem membersStorable_iff : ∀ {members : List (Option String × Json)},
    membersStorable members depth ↔ ∀ member ∈ members, member.1.isSome ∧ member.2.storable depth
  | [] => iff_of_true rfl (List.forall_mem_nil _)
  | (name, value) :: members => by
    rw [membersStorable, Bool.and_eq_true, Bool.and_eq_true, membersStorable_iff,
      List.forall_mem_cons]

theorem once_of_mem_items : ∀ {items : List Json}, itemsOnce items → ∀ item ∈ items, item.namesOnce
  | [], _ => List.forall_mem_nil _
  | item :: items, h => by
    rw [itemsOnce, Bool.and_eq_true] at h
    exact List.forall_mem_cons.2 ⟨h.1, once_of_mem_items h.2⟩

theorem once_of_mem_members : ∀ {members : List (Option String × Json)}, membersOnce members →
    ∀ member ∈ members, member.2.namesOnce
  | [], _ => List.forall_mem_nil _
  | (name, value) :: members, h => by
    rw [membersOnce, Bool.and_eq_true] at h
    exact List.forall_mem_cons.2 ⟨h.1, once_of_mem_members h.2⟩

namespace Proper

theorem item (h : (array items).Proper depth) : ∀ item ∈ items, item.Proper (depth - 1) := by
  intro item hitem
  have hstorable := h.storable
  rw [Json.storable, Bool.and_eq_true] at hstorable
  exact ⟨storable_of_mem_items hstorable.2 item hitem, once_of_mem_items h.once item hitem⟩

theorem member (h : (object members).Proper depth) :
    ∀ member ∈ members, member.1.isSome ∧ member.2.Proper (depth - 1) := by
  intro member hmember
  have hstorable := h.storable
  have honce := h.once
  rw [Json.storable, Bool.and_eq_true] at hstorable
  rw [namesOnce, Bool.and_eq_true] at honce
  obtain ⟨hname, hvalue⟩ := membersStorable_iff.1 hstorable.2 member hmember
  exact ⟨hname, hvalue, once_of_mem_members honce.2 member hmember⟩

theorem nodup (h : (object members).Proper depth) : (members.map Prod.fst).Nodup := by
  have honce := h.once
  rw [namesOnce, Bool.and_eq_true, decide_eq_true_eq] at honce
  exact honce.1

theorem of_lookup (h : (object members).Proper depth) {name : Option String} {value : Json}
    (hlookup : members.lookup name = some value) : value.Proper (depth - 1) := by
  obtain ⟨before, after, rfl, -⟩ := List.lookup_eq_some_iff.1 hlookup
  exact (h.member _ (List.mem_append_right _ List.mem_cons_self)).2

end Proper

/-! ## Likenesses -/

/-- When two values say the same in some place of a message. -/
structure Likeness where
  /-- The first value says the same as the second one. -/
  Holds : Json → Json → Prop
  /-- Every value says the same as itself. -/
  self : ∀ x, Holds x x

/-- Two objects or two arrays, whatever they hold. -/
def Nested : Json → Json → Prop
  | array _, array _ => True
  | object _, object _ => True
  | _, _ => False

/-- A value denotes a natural number natively or by a string of digits. -/
def Denotes : Json → Nat → Prop
  | number (.natural m), n => m = n
  | string (some text), n =>
    text.toList ≠ [] ∧ (∀ c ∈ text.toList, c.isDigit) ∧ Nat.ofDigitChars 10 text.toList 0 = n
  | _, _ => False

/-- There are as many items, each alike the other in its place. -/
def ItemsAlike (L : Likeness) : Json → Json → Prop
  | array xs, array ys => List.Forall₂ L.Holds xs ys
  | object _, object _ => True
  | x, y => x = y

/-- Each of these fields is there in both objects or in none, and is alike. -/
def FieldsAlike (fields : List (String × Likeness)) : Json → Json → Prop
  | object xs, object ys => ∀ field ∈ fields,
    Option.Rel field.2.Holds (xs.lookup (some field.1)) (ys.lookup (some field.1))
  | x, y => x = y

namespace Likeness

theorem rel_self (L : Likeness) : ∀ x? : Option Json, Option.Rel L.Holds x? x?
  | none => .none
  | some x => .some (L.self x)

/-- In the place of a text or truth value there is the same value, or what is neither. -/
def scalar : Likeness := ⟨fun x y => x = y ∨ Nested x y, fun _ => .inl rfl⟩

/-- In the place of a number the same number may be written natively or as a string. -/
def number : Likeness :=
  ⟨fun x y => x = y ∨ Nested x y ∨ ∃ n, Denotes x n ∧ Denotes y n, fun _ => .inl rfl⟩

/-- In the place of a list, items are alike. -/
def list (L : Likeness) : Likeness where
  Holds := ItemsAlike L
  self
    | array _ => List.forall₂_same.2 fun x _ => L.self x
    | object _ => trivial
    | null | bool _ | .number _ | string _ => rfl

/-- In the place of a record, these fields are alike. The order of members and all members of other
    names do not matter. -/
def record (fields : List (String × Likeness)) : Likeness where
  Holds := FieldsAlike fields
  self
    | object _ => fun field _ => field.2.rel_self _
    | array _ => rfl
    | null | bool _ | .number _ | string _ => rfl

/-! What makes no difference in the place of a record or of a number. -/

section

variable {fields : List (String × Likeness)} {xs ys : List (Option String × Json)}

theorem lookup_of_perm (hn : (xs.map Prod.fst).Nodup) (h : xs.Perm ys) {name : Option String} :
    xs.lookup name = ys.lookup name := by
  induction h with
  | nil => rfl
  | cons member _ ih =>
    rw [List.lookup_cons, List.lookup_cons, ih (List.nodup_cons.1 hn).2]
  | swap first second rest =>
    obtain ⟨x, v⟩ := first
    obtain ⟨y, w⟩ := second
    have hne : x ≠ y := by
      rintro rfl
      simp at hn
    simp only [List.lookup_cons]
    by_cases hx : name = x
    · subst hx
      simp [beq_eq_false_iff_ne.2 hne]
    · simp [beq_eq_false_iff_ne.2 hx]
  | trans h _ ih ih' => rw [ih hn, ih' ((h.map Prod.fst).nodup_iff.1 hn)]

/-- Members may stand in any order. -/
theorem record_of_perm (hn : (xs.map Prod.fst).Nodup) (h : xs.Perm ys) :
    (record fields).Holds (object xs) (object ys) := by
  intro field _
  rw [lookup_of_perm hn h]
  exact field.2.rel_self _

end

end Likeness

/-- A reader makes no difference between proper values that are alike. -/
structure Respects (L : Likeness) (read : Json → Option α) : Prop where
  read_eq : ∀ {depth x y}, Proper x depth → Proper y depth → L.Holds x y → read x = read y

/-! ## Texts and numbers -/

/-- A reader that reads neither objects nor arrays reads the same in the same value. -/
theorem Respects.scalar {read : Json → Option α} (harray : ∀ items, read (array items) = none)
    (hobject : ∀ members, read (object members) = none) : Respects .scalar read := by
  constructor
  rintro depth x y - - (rfl | h)
  · rfl
  · unfold Nested at h
    split at h
    · rw [harray, harray]
    · rw [hobject, hobject]
    · exact h.elim

theorem respects_bool? : Respects .scalar bool? := .scalar (fun _ => rfl) fun _ => rfl

theorem respects_bytes? {size : Nat} : Respects .scalar (bytes? size) :=
  .scalar (fun _ => rfl) fun _ => rfl

theorem respects_bitList? : Respects .scalar bitList? := .scalar (fun _ => rfl) fun _ => rfl

theorem respects_bitVector? : Respects .scalar bitVector? := .scalar (fun _ => rfl) fun _ => rfl

/-- Both ways to write a number are read alike, also if the number has more than 64 bits. -/
theorem uint64?_of_denotes {x : Json} {n : Nat} (h : Denotes x n) :
    uint64? x = if n < UInt64.size then some (UInt64.ofNat n) else none := by
  unfold Denotes at h
  split at h
  · subst h
    rfl
  · obtain ⟨hne, hdigits, rfl⟩ := h
    rw [uint64?, Numeral.read?, Numeral.read, Numeral.readChars_of_isDigit hne hdigits]
    split
    · next hlt =>
      rw [Numeral.readDigits_eq hdigits hlt]
      rfl
    · next hge =>
      rw [Numeral.readDigits_eq_tooLarge hdigits (by decide) hge]
      rfl
  · exact h.elim

theorem respects_uint64? : Respects .number uint64? := by
  constructor
  rintro depth x y - - (rfl | h | ⟨n, hx, hy⟩)
  · rfl
  · unfold Nested at h
    split at h
    · rfl
    · rfl
    · exact h.elim
  · rw [uint64?_of_denotes hx, uint64?_of_denotes hy]

/-! ## Lists -/

theorem Respects.list {L : Likeness} {read : Json → Option α} (h : Respects L read) :
    Respects (.list L) (list? read) := by
  constructor
  intro depth x y hx hy hxy
  change ItemsAlike L x y at hxy
  unfold ItemsAlike at hxy
  split at hxy
  · next xs ys =>
    have hitems := hx.item
    have hitems' := hy.item
    rw [list?, list?]
    clear hx hy
    induction hxy with
    | nil => rfl
    | @cons x y xs ys hxy _ ih =>
      obtain ⟨hx, hxs⟩ := List.forall_mem_cons.1 hitems
      obtain ⟨hy, hys⟩ := List.forall_mem_cons.1 hitems'
      rw [List.mapM_cons, List.mapM_cons, h.read_eq hx hy hxy, ih hxs hys]
  · rfl
  · rw [hxy]

/-! ## Records -/

/-- What is in both places or in none is read alike if it is proper and alike. -/
theorem Respects.bind_eq {L : Likeness} {read : Json → Option α} (hread : Respects L read)
    {x? y? : Option Json}
    (h : Option.Rel (fun x y => Proper x depth ∧ Proper y depth ∧ L.Holds x y) x? y?) :
    x?.bind read = y?.bind read := by
  cases h with
  | none => rfl
  | some h => exact hread.read_eq h.1 h.2.1 h.2.2

/-- A field is in both records or in none, and the values in it are proper and alike. -/
def AlikeAt (L : Likeness) (name : String) (f g : Fields) : Prop :=
  ∃ depth, Option.Rel (fun x y => Proper x depth ∧ Proper y depth ∧ L.Holds x y)
    (f.get? name) (g.get? name)

/-- All of these fields are alike. -/
def AlikeIn : List (String × Likeness) → Fields → Fields → Prop
  | [], _, _ => True
  | (name, L) :: fields, f, g => AlikeAt L name f g ∧ AlikeIn fields f g

theorem alikeIn_of_forall {f g : Fields} : ∀ {fields : List (String × Likeness)},
    (∀ field ∈ fields, AlikeAt field.2 field.1 f g) → AlikeIn fields f g
  | [], _ => trivial
  | _ :: _, h => by
    obtain ⟨hfirst, hrest⟩ := List.forall_mem_cons.1 h
    exact ⟨hfirst, alikeIn_of_forall hrest⟩

section AlikeAt

variable {L : Likeness} {name : String} {f g : Fields} {read : Json → Option α}

theorem AlikeAt.read?_eq (h : AlikeAt L name f g) (hread : Respects L read) :
    f.read? name read = g.read? name read := by
  obtain ⟨depth, h⟩ := h
  exact hread.bind_eq h

theorem AlikeAt.readOr?_eq (h : AlikeAt L name f g) {default : α} (hread : Respects L read) :
    f.readOr? name default read = g.readOr? name default read := by
  obtain ⟨depth, h⟩ := h
  rw [Fields.readOr?, Fields.readOr?]
  generalize f.get? name = x?, g.get? name = y? at h ⊢
  cases h with
  | none => rfl
  | some h => exact hread.read_eq h.1 h.2.1 h.2.2

end AlikeAt

theorem exists_named : ∀ {members : List (Option String × Json)},
    (∀ member ∈ members, member.1.isSome) →
      ∃ named : List (String × Json), members = named.map fun (name, value) => (some name, value)
  | [], _ => ⟨[], rfl⟩
  | (none, _) :: _, h => nomatch h _ List.mem_cons_self
  | (some name, value) :: members, h => by
    obtain ⟨named, rfl⟩ := exists_named (List.forall_mem_cons.1 h).2
    exact ⟨(name, value) :: named, rfl⟩

theorem lookup_filter {names : List String} {name : String} (h : name ∈ names) :
    ∀ {named : List (String × Json)},
      (named.filter fun member => names.contains member.1).lookup name = named.lookup name
  | [] => rfl
  | (other, value) :: named => by
    have hrest := @lookup_filter _ _ h named
    rw [List.filter_cons, List.lookup_cons, ← hrest]
    by_cases hname : name = other
    · subst hname
      rw [if_pos (List.contains_iff_mem.2 h), List.lookup_cons]
    · have hbeq : (name == other) = false := beq_eq_false_iff_ne.2 hname
      split
      · rw [List.lookup_cons, hbeq]
      · rw [hbeq]

/-- A proper object has the fields that it has members for. -/
theorem exists_fields? (h : (object members).Proper depth) (names : List String) :
    ∃ fields, (object members).fields? names = some fields ∧
      ∀ name ∈ names, fields.get? name = members.lookup (some name) := by
  obtain ⟨named, rfl⟩ := exists_named fun member hmember => (h.member member hmember).1
  have hnodup : (named.map Prod.fst).Nodup := by
    have hsome := h.nodup
    rw [List.map_map] at hsome
    exact List.Nodup.of_map some (by rwa [List.map_map])
  refine ⟨⟨named.filter fun member => names.contains member.1⟩, ?_, fun name hname => ?_⟩
  · rw [fields?, namedMembers?_record, Option.bind_eq_bind, Option.bind_some]
    dsimp only
    rw [guard_of (hnodup.sublist (List.filter_sublist.map Prod.fst))]
    rfl
  · exact (lookup_filter hname).trans member?_record.symm

/-- Members of proper objects are proper. -/
theorem rel_lookup {L : Likeness} {xs ys : List (Option String × Json)} {name : Option String}
    (hx : (object xs).Proper depth) (hy : (object ys).Proper depth)
    (h : Option.Rel L.Holds (xs.lookup name) (ys.lookup name)) :
    Option.Rel (fun x y => Proper x (depth - 1) ∧ Proper y (depth - 1) ∧ L.Holds x y)
      (xs.lookup name) (ys.lookup name) := by
  generalize hxs : xs.lookup name = x?, hys : ys.lookup name = y? at h ⊢
  cases h with
  | none => exact .none
  | some h => exact .some ⟨hx.of_lookup hxs, hy.of_lookup hys, h⟩

/-- A reader of records respects their members if what it does with them does. -/
theorem Respects.record {fields : List (String × Likeness)} {next : Fields → Option α}
    (h : ∀ f g, AlikeIn fields f g → next f = next g) :
    Respects (.record fields) fun x => x.fields? (fields.map Prod.fst) >>= next := by
  constructor
  intro depth x y hx hy hxy
  change FieldsAlike fields x y at hxy
  unfold FieldsAlike at hxy
  split at hxy
  · next xs ys =>
    obtain ⟨f, hf, hfget⟩ := exists_fields? hx (fields.map Prod.fst)
    obtain ⟨g, hg, hgget⟩ := exists_fields? hy (fields.map Prod.fst)
    rw [hf, hg]
    refine h f g (alikeIn_of_forall fun field hfield => ⟨depth - 1, ?_⟩)
    have hname := List.mem_map_of_mem (f := Prod.fst) hfield
    rw [hfget _ hname, hgget _ hname]
    exact rel_lookup hx hy (hxy field hfield)
  · rw [hxy]

end BeaconDuties.Json
