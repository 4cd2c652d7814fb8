import Mathlib.Data.Finset.Card
import Mathlib.Data.List.Perm.Basic
import Std.Data.ExtTreeMap

/-!
Maps that are filled from lists.

* `getElem?_foldl_insert`: the last item with a key counts if items are inserted one after another.
  If the keys differ, their order makes no difference (`foldl_insert_eq_of_perm`).
* `getElem?_foldl_insertIfNew`: the first one counts if no item takes the place of another.
* `getElem?_foldl_modify`: changing a value twice may be the same as changing it once.
* `mem_values`, `values_perm_filterMap`, `countP_values`: the values of a map.
* `restrict`: a map without the keys that are not wanted. Its values are those of the map, in the
  same order (`values_restrict`).
-/

namespace BeaconDuties.Maps

variable {α β κ : Type} [Ord κ] [Std.TransOrd κ] [Std.LawfulEqOrd κ] [DecidableEq κ]
  {key : α → κ} {value : α → β} {k : κ}

theorem getElem?_foldl_insertIfNew : ∀ {xs : List α} {map : Std.ExtTreeMap κ β},
    (xs.foldl (fun map x => map.insertIfNew (key x) (value x)) map)[k]? =
      map[k]?.or ((xs.find? (key · = k)).map value)
  | [], map => by simp
  | x :: xs, map => by
    rw [List.foldl_cons, getElem?_foldl_insertIfNew, Std.ExtTreeMap.getElem?_insertIfNew,
      List.find?_cons]
    simp only [Std.compare_eq_iff_eq]
    by_cases hk : key x = k
    · subst hk
      by_cases hm : key x ∈ map
      · simp [hm]
      · simp [hm]
    · simp [hk]

theorem getElem?_foldl_insert : ∀ {xs : List α} {map : Std.ExtTreeMap κ β},
    (xs.foldl (fun map x => map.insert (key x) (value x)) map)[k]? =
      ((xs.reverse.find? (key · = k)).map value).or map[k]?
  | [], map => by simp
  | x :: xs, map => by
    rw [List.foldl_cons, getElem?_foldl_insert, Std.ExtTreeMap.getElem?_insert,
      List.reverse_cons, List.find?_append, List.find?_singleton]
    simp only [Std.compare_eq_iff_eq, decide_eq_true_eq]
    by_cases hk : key x = k
    · cases xs.reverse.find? (key · = k) <;> simp [hk]
    · simp [hk]

theorem getElem?_foldl_modify {f : β → β} (hf : ∀ b, f (f b) = f b) :
    ∀ {ks : List κ} {map : Std.ExtTreeMap κ β},
      (ks.foldl (fun map k => map.modify k f) map)[k]? =
        if k ∈ ks then map[k]?.map f else map[k]?
  | [], map => by simp
  | k' :: ks, map => by
    rw [List.foldl_cons, getElem?_foldl_modify hf, Std.ExtTreeMap.getElem?_modify]
    simp only [Std.compare_eq_iff_eq, List.mem_cons]
    by_cases hk : k' = k
    · subst hk
      by_cases hm : k' ∈ ks
      · simp [hm, Function.comp_def, hf]
      · simp [hm]
    · simp [hk, Ne.symm hk]

/-- It makes no difference in which order items with different keys are inserted. -/
theorem foldl_insert_eq_of_perm {xs ys : List α} (hp : xs.Perm ys) (hn : (xs.map key).Nodup)
    (map : Std.ExtTreeMap κ β) :
    xs.foldl (fun map x => map.insert (key x) (value x)) map =
      ys.foldl (fun map x => map.insert (key x) (value x)) map := by
  refine hp.foldl_eq' (fun x hx y hy map => Std.ExtTreeMap.ext_getElem? fun k => ?_) map
  simp only [Std.ExtTreeMap.getElem?_insert, Std.compare_eq_iff_eq]
  by_cases hxk : key x = k
  · by_cases hyk : key y = k
    · rw [List.inj_on_of_nodup_map hn hx hy (hxk.trans hyk.symm)]
    · simp [hxk, hyk]
  · simp [hxk]

/-- A map can be filled again from its entries. -/
theorem foldl_insert_toList {map : Std.ExtTreeMap κ β} :
    map.toList.foldl (fun map entry => map.insert entry.1 entry.2) ∅ = map := by
  refine Std.ExtTreeMap.ext_getElem? fun k => ?_
  rw [getElem?_foldl_insert, Std.ExtTreeMap.getElem?_empty, Option.or_none]
  cases hfind : map.toList.reverse.find? (·.1 = k) with
  | none =>
    cases hk : map[k]? with
    | none => rfl
    | some b =>
      have hmem := Std.ExtTreeMap.mem_toList_iff_getElem?_eq_some.2 hk
      simpa using List.find?_eq_none.1 hfind _ (List.mem_reverse.2 hmem)
  | some entry =>
    have hmem := List.mem_reverse.1 (List.mem_of_find?_eq_some hfind)
    obtain rfl : entry.1 = k := by simpa using List.find?_some hfind
    exact (Std.ExtTreeMap.mem_toList_iff_getElem?_eq_some.1 hmem).symm

omit [Std.LawfulEqOrd κ] [DecidableEq κ] in
theorem values_eq_map_toList {map : Std.ExtTreeMap κ β} :
    map.values = map.toList.map Prod.snd := by
  have hv : map.values = map.foldr (fun _ v vs => v :: vs) [] := by
    cases map with
    | mk map =>
      cases map
      rfl
  rw [hv, Std.ExtTreeMap.foldr_eq_foldr_toList]
  induction map.toList with
  | nil => rfl
  | cons entry rest ih => rw [List.foldr_cons, ih, List.map_cons]

omit [DecidableEq κ] in
theorem mem_values {map : Std.ExtTreeMap κ β} {b : β} :
    b ∈ map.values ↔ ∃ k : κ, map[k]? = some b := by
  rw [values_eq_map_toList, List.mem_map]
  constructor
  · rintro ⟨⟨k, b⟩, h, rfl⟩
    exact ⟨k, Std.ExtTreeMap.mem_toList_iff_getElem?_eq_some.1 h⟩
  · rintro ⟨k, h⟩
    exact ⟨(k, b), Std.ExtTreeMap.mem_toList_iff_getElem?_eq_some.2 h, rfl⟩

omit [DecidableEq κ] in
/-- Values that tell their keys are told apart by them. -/
theorem map_values {map : Std.ExtTreeMap κ β} {f : β → κ}
    (hf : ∀ {k : κ} {b : β}, map[k]? = some b → f b = k) : map.values.map f = map.keys := by
  rw [values_eq_map_toList, ← Std.ExtTreeMap.map_fst_toList_eq_keys, List.map_map]
  exact List.map_congr_left fun entry he =>
    hf (Std.ExtTreeMap.mem_toList_iff_getElem?_eq_some.1 he)

omit [DecidableEq κ] in
/-- The values of a map, found by looking up keys among which there are all of its own. -/
theorem values_perm_filterMap {map : Std.ExtTreeMap κ β} {ks : List κ} (hn : ks.Nodup)
    (hks : ∀ k : κ, map[k]?.isSome → k ∈ ks) : map.values.Perm (ks.filterMap (map[·]?)) := by
  have hv : map.values = map.keys.filterMap (map[·]?) := by
    rw [values_eq_map_toList, ← Std.ExtTreeMap.map_fst_toList_eq_keys, List.filterMap_map,
      ← List.filterMap_eq_map]
    refine List.filterMap_congr fun entry he => ?_
    exact (Std.ExtTreeMap.mem_toList_iff_getElem?_eq_some.1 he).symm
  have hf : (ks.filter fun k => map[k]?.isSome).filterMap (map[·]?) = ks.filterMap (map[·]?) := by
    rw [List.filterMap_filter]
    refine List.filterMap_congr fun k _ => ?_
    cases map[k]? <;> simp
  have hp : map.keys.Perm (ks.filter fun k => map[k]?.isSome) := by
    refine (List.perm_ext_iff_of_nodup Std.ExtTreeMap.nodup_keys (hn.filter _)).2 fun k => ?_
    rw [Std.ExtTreeMap.mem_keys, Std.ExtTreeMap.mem_iff_isSome_getElem?, List.mem_filter]
    exact ⟨fun h => ⟨hks k h, h⟩, fun h => h.2⟩
  rw [hv, ← hf]
  exact hp.filterMap _

/-- How many values there are of a kind, given their keys. -/
theorem countP_values {map : Std.ExtTreeMap κ β} {p : β → Bool} {ks : Finset κ}
    (hks : ∀ k : κ, k ∈ ks ↔ ∃ b, map[k]? = some b ∧ p b) : map.values.countP p = ks.card := by
  have hn : ((map.toList.filter fun entry => p entry.2).map Prod.fst).Nodup :=
    (Std.ExtTreeMap.map_fst_toList_eq_keys (t := map) ▸ Std.ExtTreeMap.nodup_keys).sublist
      (List.filter_sublist.map _)
  have hk : ((map.toList.filter fun entry => p entry.2).map Prod.fst).toFinset = ks := by
    ext k
    rw [hks, List.mem_toFinset, List.mem_map]
    constructor
    · rintro ⟨⟨k, b⟩, he, rfl⟩
      obtain ⟨he, hp⟩ := List.mem_filter.1 he
      exact ⟨b, Std.ExtTreeMap.mem_toList_iff_getElem?_eq_some.1 he, hp⟩
    · rintro ⟨b, hb, hp⟩
      exact ⟨(k, b),
        List.mem_filter.2 ⟨Std.ExtTreeMap.mem_toList_iff_getElem?_eq_some.2 hb, hp⟩, rfl⟩
  rw [← hk, List.toFinset_card_of_nodup hn, List.length_map, values_eq_map_toList, List.countP_map,
    List.countP_eq_length_filter]
  rfl

/-! ## Maps without some of their keys -/

/-- A map without the keys that are not wanted. -/
def restrict (wanted : κ → Bool) (map : Std.ExtTreeMap κ β) : Std.ExtTreeMap κ β :=
  map.filter fun k _ => wanted k

section Restrict

variable {wanted : κ → Bool} {map map' : Std.ExtTreeMap κ β}

omit [DecidableEq κ] in
theorem getElem?_restrict : (restrict wanted map)[k]? = if wanted k then map[k]? else none := by
  rw [restrict, Std.ExtTreeMap.getElem?_filter']
  cases map[k]? <;> simp [Option.filter]

omit [DecidableEq κ] in
theorem eq_restrict (h : ∀ k : κ, map[k]? = if wanted k then map'[k]? else none) :
    map = restrict wanted map' :=
  Std.ExtTreeMap.ext_getElem? fun k => (h k).trans getElem?_restrict.symm

omit [Std.LawfulEqOrd κ] [DecidableEq κ] in
theorem toList_restrict :
    (restrict wanted map).toList = map.toList.filter fun entry => wanted entry.1 :=
  Std.ExtTreeMap.toList_filter

omit [DecidableEq κ] in
/-- The values with wanted keys stay in their order. -/
theorem values_restrict {f : β → κ} (hf : ∀ {k : κ} {b : β}, map[k]? = some b → f b = k) :
    (restrict wanted map).values = map.values.filter (wanted <| f ·) := by
  rw [values_eq_map_toList, values_eq_map_toList, toList_restrict, List.filter_map]
  refine congrArg _ (List.filter_congr fun entry he => ?_)
  rw [Function.comp_apply, hf (Std.ExtTreeMap.mem_toList_iff_getElem?_eq_some.1 he)]

/-- What becomes of a key matters if the key is wanted. -/
theorem restrict_alter {f : Option β → Option β} :
    restrict wanted (map.alter k f) =
      if wanted k then (restrict wanted map).alter k f else restrict wanted map := by
  refine Std.ExtTreeMap.ext_getElem? fun k' => ?_
  rw [getElem?_restrict, Std.ExtTreeMap.getElem?_alter]
  simp only [Std.compare_eq_iff_eq]
  by_cases hk : k = k'
  · subst hk
    by_cases hw : wanted k
    · simp [hw, getElem?_restrict]
    · simp [hw, getElem?_restrict]
  · by_cases hw : wanted k
    · simp [hw, hk, Std.ExtTreeMap.getElem?_alter, getElem?_restrict]
    · simp [hw, hk, getElem?_restrict]

end Restrict

end BeaconDuties.Maps
