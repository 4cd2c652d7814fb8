import BeaconDuties.Json.Fields
import BeaconDuties.Proofs.Bits
import BeaconDuties.Proofs.Bytes
import BeaconDuties.Proofs.Json.Reader
import BeaconDuties.Proofs.Text.Numeral

/-!
The parts of a message are read as those that are written.

A record whose names are among those that are asked for, in their order, has just these fields
(`Json.fields?_record`). Numbers, byte strings, bit fields and lists are read as they were written,
and all of them are written legibly.

A member that was left out is missing from the fields, and so is its name from the record
(`Json.Fields.readOption?_of_get?`, `Json.count_optionalMember`).
-/

namespace BeaconDuties.Json

variable {α : Type}

/-! ## Reading -/

theorem namedMembers?_record : ∀ {members : List (String × Json)},
    namedMembers? (members.map fun (name, value) => (some name, value)) = some members
  | [] => rfl
  | (name, value) :: members => by
    rw [List.map_cons, namedMembers?, namedMembers?_record, Option.map_some]

/-- A record has its members for fields, and some of the known ones may be missing. -/
@[simp] theorem fields?_record {names : List String} {members : List (String × Json)}
    (h : (members.map Prod.fst).Sublist names) (hn : names.Nodup) :
    (record members).fields? names = some ⟨members⟩ := by
  have hknown : members.filter (fun member => names.contains member.1) = members := by
    refine List.filter_eq_self.2 fun member hm => ?_
    exact List.contains_iff_mem.2 (h.subset (List.mem_map_of_mem hm))
  rw [record, fields?, namedMembers?_record, Option.bind_eq_bind, Option.bind_some]
  dsimp only
  rw [hknown, guard_of (hn.sublist h)]
  rfl

section

variable {name other : String} {value : Json} {members : List (String × Json)}

@[simp] theorem Fields.get?_nil : (⟨[]⟩ : Fields).get? name = none := rfl

@[simp] theorem Fields.get?_cons_self :
    (⟨(name, value) :: members⟩ : Fields).get? name = some value :=
  List.lookup_cons_self

@[simp] theorem Fields.get?_cons_of_ne (h : name ≠ other) :
    (⟨(other, value) :: members⟩ : Fields).get? name = (⟨members⟩ : Fields).get? name := by
  simp only [get?, List.lookup_cons, beq_eq_false_iff_ne.2 h]

@[simp] theorem Fields.get?_optionalMember_self {value : Option Json} :
    (⟨optionalMember name value ++ members⟩ : Fields).get? name =
      value.or ((⟨members⟩ : Fields).get? name) := by
  cases value with
  | none => rfl
  | some value => exact get?_cons_self

@[simp] theorem Fields.get?_optionalMember_of_ne {value : Option Json} (h : name ≠ other) :
    (⟨optionalMember other value ++ members⟩ : Fields).get? name =
      (⟨members⟩ : Fields).get? name := by
  cases value with
  | none => rfl
  | some value => exact get?_cons_of_ne h

end

/-- Where names are distinct, each member is found by its name. -/
theorem Fields.get?_of_mem : ∀ {members : List (String × Json)}, (members.map Prod.fst).Nodup →
    ∀ member ∈ members, (⟨members⟩ : Fields).get? member.1 = some member.2
  | [], _, _, h => nomatch h
  | (name, value) :: members, hn, member, h => by
    simp only [List.map_cons, List.nodup_cons] at hn
    rcases List.mem_cons.1 h with rfl | hmem
    · exact get?_cons_self
    · have hne : member.1 ≠ name := fun he => hn.1 (he ▸ List.mem_map_of_mem hmem)
      rw [get?_cons_of_ne hne]
      exact get?_of_mem hn.2 member hmem

/-- A record with just the names that are asked for is read by these names. -/
theorem exists_fields?_record {names : List String} {members : List (String × Json)}
    (h : members.map Prod.fst = names) (hn : names.Nodup) : ∃ fields,
      (record members).fields? names = some fields ∧
      ∀ member ∈ members, ∀ {α : Type} (read : Json → Option α),
        fields.read? member.1 read = read member.2 := by
  refine ⟨⟨members⟩, fields?_record (h ▸ List.Sublist.refl _) hn, fun member hm α read => ?_⟩
  rw [Fields.read?, Fields.get?_of_mem (h ▸ hn) member hm]
  rfl

@[simp] theorem uint64?_quantity (n : UInt64) : uint64? (quantity n) = some n :=
  Numeral.read?_renderUInt64 n

@[simp] theorem bytes?_bytes {size : Nat} (x : FixedBytes size) : bytes? size (bytes x) = some x :=
  x.ofMessage?_render

@[simp] theorem bitList?_text (x : BitList) : bitList? (text x.render) = some x := by
  simp [bitList?, text?, text, x.read_render, Except.toOption]

@[simp] theorem bitVector?_text {x : BitVector} (h : 8 ∣ x.length) :
    bitVector? (text x.render) = some x := by
  simp [bitVector?, text?, text, x.read_render h, Except.toOption]

theorem list?_map {read : Json → Option α} {write : α → Json} {xs : List α}
    (h : ∀ x ∈ xs, read (write x) = some x) : list? read (array (xs.map write)) = some xs := by
  rw [list?]
  induction xs with
  | nil => rfl
  | cons x xs ih =>
    obtain ⟨hx, hxs⟩ := List.forall_mem_cons.1 h
    rw [List.map_cons, List.mapM_cons, hx, ih hxs]
    rfl

/-! ## Reports -/

/-- A number written with digits alone, however large. -/
def natural? : Json → Option Nat
  | number (.natural n) => some n
  | _ => none

@[simp] theorem natural?_natural (n : Nat) : natural? (natural n) = some n := rfl

@[simp] theorem uint64?_count (n : UInt64) : uint64? (count n) = some n := by
  rw [count, natural, uint64?, if_pos n.toNat_lt, UInt64.ofNat_toNat]

/-- Reads a field that may be left out. -/
def Fields.readOption? (fields : Fields) (name : String) (read : Json → Option α) :
    Option (Option α) :=
  fields.readOr? name none fun value => (read value).map some

theorem Fields.readOption?_of_get? {fields : Fields} {name : String} {write : α → Json}
    {read : Json → Option α} {value : Option α} (hget : fields.get? name = value.map write)
    (h : ∀ x, read (write x) = some x) : fields.readOption? name read = some value := by
  rw [readOption?, readOr?, hget]
  cases value with
  | none => rfl
  | some x => exact congrArg (Option.map some) (h x)

/-! ## Members -/

/-- The value of a member of an object. -/
def member? (name : String) : Json → Option Json
  | object members => members.lookup (some name)
  | _ => none

/-- The value to which the names of members lead, outermost first. -/
def at? : List String → Json → Option Json
  | [], value => some value
  | name :: names, value => (value.member? name).bind (at? names)

theorem member?_record {name : String} : ∀ {members : List (String × Json)},
    (record members).member? name = members.lookup name
  | [] => rfl
  | (other, value) :: members => by
    have hrest := @member?_record name members
    rw [List.lookup_cons, ← hrest]
    rfl

/-- How often a name occurs among the members of an object. -/
def occurrences (name : String) : Json → Nat
  | object members => (members.map Prod.fst).count (some name)
  | _ => 0

theorem occurrences_record {name : String} {members : List (String × Json)} :
    (record members).occurrences name = (members.map Prod.fst).count name := by
  rw [record, occurrences, List.count, List.count, List.countP_map, List.countP_map,
    List.countP_map]
  rfl

/-- The name of a member that may be left out occurs if it is not. -/
theorem count_optionalMember {name other : String} {value : Option Json} :
    ((optionalMember other value).map Prod.fst).count name =
      [(other, value.isSome)].count (name, true) := by
  cases value with
  | none => simp [optionalMember]
  | some value => simp [optionalMember, List.count_cons]

theorem optionalMember_sublist {name : String} {value : Option Json} :
    ((optionalMember name value).map Prod.fst).Sublist [name] := by
  cases value with
  | none => exact List.nil_sublist _
  | some value => exact List.Sublist.refl _

/-! ## Legible values -/

theorem legible_array : ∀ {items : List Json},
    (array items).Legible ↔ ∀ item ∈ items, item.Legible
  | [] => by simp [Legible, ItemsLegible]
  | item :: items => by
    rw [List.forall_mem_cons, ← legible_array]
    rfl

theorem legible_record : ∀ {members : List (String × Json)},
    (record members).Legible ↔ ∀ member ∈ members, member.2.Legible
  | [] => by simp [record, Legible, MembersLegible]
  | (name, value) :: members => by
    rw [List.forall_mem_cons, ← legible_record]
    rfl

@[simp] theorem legible_text {value : String} : (text value).Legible := trivial

@[simp] theorem legible_quantity {n : UInt64} : (quantity n).Legible := trivial

theorem legible_optionalMember {name : String} {value : Option Json} (h : ∀ v ∈ value, v.Legible) :
    ∀ member ∈ optionalMember name value, member.2.Legible := by
  cases value with
  | none => nofun
  | some value => simpa [optionalMember] using h

@[simp] theorem legible_natural {n : Nat} : (natural n).Legible := Number.legible_natural

@[simp] theorem legible_count {n : UInt64} : (count n).Legible := Number.legible_natural

@[simp] theorem legible_bool {value : Bool} : (bool value).Legible := trivial

@[simp] theorem legible_bytes {size : Nat} {x : FixedBytes size} : (bytes x).Legible := trivial

end BeaconDuties.Json
