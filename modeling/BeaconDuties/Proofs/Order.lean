import Mathlib.Data.List.Flatten
import BeaconDuties.Order
import BeaconDuties.Proofs.Lists
import BeaconDuties.Proofs.Maps

/-!
Sorting by a key is a permutation (`sortOn_perm`) into the order of the keys (`pairwise_sortOn`)
that leaves items with the same key as they were (`filter_sortOn`), and no other list is
(`eq_sortOn`). So a sublist is sorted into a sublist (`sortOn_sublist`), and sorting may be
exchanged with leaving items out (`sortOn_filter`) and with changes that keep the keys
(`sortOn_map`). If all keys differ, it makes no difference how the list was ordered before
(`sortOn_eq_of_perm`).
-/

namespace BeaconDuties

variable {α κ : Type} [Ord κ] [Std.TransOrd κ] [Std.LawfulEqOrd κ] [DecidableEq κ] {key : α → κ}

theorem getElem?_groupsOn {k : κ} : ∀ {xs : List α}, (groupsOn key xs)[k]? =
    if xs.filter (key · = k) = [] then none else some (xs.filter (key · = k))
  | [] => by simp [groupsOn]
  | x :: xs => by
    have hr : (groupsOn key xs)[k]? = _ := getElem?_groupsOn
    rw [groupsOn, Std.ExtTreeMap.getElem?_alter, List.filter_cons]
    simp only [Std.compare_eq_iff_eq]
    by_cases hk : key x = k
    · subst hk
      by_cases hn : xs.filter (key · = key x) = [] <;> simp [hr, hn]
    · simp [hk, hr]

/-- The groups come in the order of their keys. -/
theorem sortOn_eq_flatMap {xs : List α} :
    sortOn key xs = (groupsOn key xs).keys.flatMap fun k => xs.filter (key · = k) := by
  have hg : ∀ entry ∈ (groupsOn key xs).toList, xs.filter (key · = entry.1) = entry.2 := by
    intro entry he
    have hk := Std.ExtTreeMap.mem_toList_iff_getElem?_eq_some.1 he
    rw [getElem?_groupsOn] at hk
    split at hk
    · cases hk
    · exact Option.some.inj hk
  rw [sortOn, Maps.values_eq_map_toList, ← Std.ExtTreeMap.map_fst_toList_eq_keys, List.flatMap_map,
    List.flatMap_def]
  exact congrArg List.flatten (List.map_congr_left fun entry he => (hg entry he).symm)

theorem sortOn_perm {xs : List α} : (sortOn key xs).Perm xs := by
  rw [sortOn_eq_flatMap]
  refine Lists.flatMap_filter_perm Std.ExtTreeMap.nodup_keys fun x hx => ?_
  have hne : xs.filter (key · = key x) ≠ [] :=
    List.ne_nil_of_mem (List.mem_filter.2 ⟨hx, decide_eq_true rfl⟩)
  rw [Std.ExtTreeMap.mem_keys, Std.ExtTreeMap.mem_iff_isSome_getElem?, getElem?_groupsOn,
    if_neg hne, Option.isSome_some]

omit [Std.TransOrd κ] in
/-- Items that are listed key by key come in the order of their keys. -/
theorem pairwise_flatMap_filter {ks : List κ} {xs : List α}
    (hks : ks.Pairwise fun a b => compare a b = .lt) :
    (ks.flatMap fun k => xs.filter (key · = k)).Pairwise
      fun a b => (compare (key a) (key b)).isLE := by
  refine List.pairwise_flatMap.2 ⟨fun k _ => ?_, hks.imp fun hlt x hx y hy => ?_⟩
  · refine List.pairwise_of_forall_mem_list fun x hx y hy => ?_
    have hkx : key x = k := by simpa using (List.mem_filter.1 hx).2
    have hky : key y = k := by simpa using (List.mem_filter.1 hy).2
    simp [hkx, hky]
  · have hkx := (List.mem_filter.1 hx).2
    have hky := (List.mem_filter.1 hy).2
    simp only [decide_eq_true_eq] at hkx hky
    rw [hkx, hky, hlt]
    rfl

/-- Items come in the order of their keys. -/
theorem pairwise_sortOn {xs : List α} :
    (sortOn key xs).Pairwise fun a b => (compare (key a) (key b)).isLE := by
  rw [sortOn_eq_flatMap]
  exact pairwise_flatMap_filter Std.ExtTreeMap.ordered_keys

/-- Items with the same key stay in an order that they are in. -/
theorem pairwise_sortOn_of_pairwise {R : α → α → Prop} {xs : List α} (h : xs.Pairwise R) :
    (sortOn key xs).Pairwise
      fun a b => compare (key a) (key b) = .lt ∨ key a = key b ∧ R a b := by
  have hkey : ∀ {k : κ}, ∀ x ∈ xs.filter (key · = k), key x = k := fun {_} x hx =>
    of_decide_eq_true (List.mem_filter.1 hx).2
  rw [sortOn_eq_flatMap]
  refine List.pairwise_flatMap.2 ⟨fun k _ => ?_, Std.ExtTreeMap.ordered_keys.imp ?_⟩
  · refine (h.filter _).imp_of_mem fun hx hy hr => .inr ⟨?_, hr⟩
    rw [hkey _ hx, hkey _ hy]
  · intro k k' hlt x hx y hy
    rw [hkey x hx, hkey y hy]
    exact .inl hlt

theorem mem_keys_groupsOn {k : κ} {xs : List α} :
    k ∈ (groupsOn key xs).keys ↔ xs.filter (key · = k) ≠ [] := by
  rw [Std.ExtTreeMap.mem_keys, Std.ExtTreeMap.mem_iff_isSome_getElem?, getElem?_groupsOn]
  by_cases h : xs.filter (key · = k) = [] <;> simp [h]

/-- Items with the same key stay in the order that they had. -/
theorem filter_sortOn {xs : List α} {k : κ} :
    (sortOn key xs).filter (key · = k) = xs.filter (key · = k) := by
  rw [sortOn_eq_flatMap, Lists.filter_flatMap_filter Std.ExtTreeMap.nodup_keys]
  exact fun h => mem_keys_groupsOn.2 h

/-- Two lists in the order of their keys are the same if they have the same items for each key. -/
theorem eq_of_filter_eq : ∀ {xs ys : List α},
    (xs.Pairwise fun a b => (compare (key a) (key b)).isLE) →
    (ys.Pairwise fun a b => (compare (key a) (key b)).isLE) →
    (∀ k, xs.filter (key · = k) = ys.filter (key · = k)) → xs = ys
  | [], [], _, _, _ => rfl
  | [], y :: ys, _, _, h => by simpa using h (key y)
  | x :: xs, [], _, _, h => by simpa using h (key x)
  | x :: xs, y :: ys, hxs, hys, h => by
    obtain ⟨hx, hxs'⟩ := List.pairwise_cons.1 hxs
    obtain ⟨hy, hys'⟩ := List.pairwise_cons.1 hys
    have hk : key x = key y := by
      by_contra hne
      have hmx : x ∈ (y :: ys).filter (key · = key x) := by simp [← h]
      have hmy : y ∈ (x :: xs).filter (key · = key y) := by simp [h]
      simp only [List.filter_cons, decide_eq_true_eq, hne, Ne.symm hne, if_false, List.mem_filter]
        at hmx hmy
      exact hne (Std.LawfulEqOrd.eq_of_compare
        (Std.OrientedCmp.isLE_antisymm (hx y hmy.1) (hy x hmx.1)))
    obtain rfl : x = y := by simpa [hk] using congrArg List.head? (h (key x))
    refine congrArg _ (eq_of_filter_eq hxs' hys' fun k => ?_)
    have hr := h k
    rw [List.filter_cons, List.filter_cons] at hr
    split at hr
    · exact List.tail_eq_of_cons_eq hr
    · exact hr

/-- There is one way to put items in the order of their keys without moving those with the same
    key. -/
theorem eq_sortOn {xs ys : List α}
    (hys : ys.Pairwise fun a b => (compare (key a) (key b)).isLE)
    (h : ∀ k, ys.filter (key · = k) = xs.filter (key · = k)) : ys = sortOn key xs :=
  eq_of_filter_eq hys pairwise_sortOn fun k => (h k).trans filter_sortOn.symm

theorem sortOn_filter {p : α → Bool} {xs : List α} :
    sortOn key (xs.filter p) = (sortOn key xs).filter p := by
  refine (eq_sortOn (pairwise_sortOn.filter p) fun k => ?_).symm
  rw [List.filter_filter, List.filter_filter]
  simp only [Bool.and_comm]
  rw [← List.filter_filter, filter_sortOn, List.filter_filter]

theorem sortOn_map {f : α → α} {xs : List α} (hf : ∀ x, key (f x) = key x) :
    sortOn key (xs.map f) = (sortOn key xs).map f := by
  refine (eq_sortOn ?_ fun k => ?_).symm
  · rw [List.pairwise_map]
    simp only [hf]
    exact pairwise_sortOn
  · simp only [List.filter_map, Function.comp_def, hf, filter_sortOn]

/-- Fewer items are sorted into a sublist. -/
theorem sortOn_sublist {xs ys : List α} (h : xs.Sublist ys) :
    (sortOn key xs).Sublist (sortOn key ys) := by
  have hs : (groupsOn key ys).keys.flatMap (fun k => xs.filter (key · = k)) = sortOn key xs := by
    refine eq_sortOn (pairwise_flatMap_filter Std.ExtTreeMap.ordered_keys) fun k => ?_
    refine Lists.filter_flatMap_filter Std.ExtTreeMap.nodup_keys fun hk => mem_keys_groupsOn.2 ?_
    exact fun hn => hk (List.sublist_nil.1 (hn ▸ h.filter _))
  rw [← hs, sortOn_eq_flatMap]
  exact List.Sublist.flatMap_right _ fun k _ => h.filter _

omit [DecidableEq κ] in
/-- There is one order by a key that no two items share. -/
theorem eq_of_perm_of_pairwise (key : α → κ) {xs ys : List α} (hp : xs.Perm ys)
    (hn : (xs.map key).Nodup)
    (hxs : xs.Pairwise fun a b => (compare (key a) (key b)).isLE)
    (hys : ys.Pairwise fun a b => (compare (key a) (key b)).isLE) : xs = ys :=
  hp.eq_of_pairwise (fun _ _ ha hb hab hba => List.inj_on_of_nodup_map hn ha (hp.mem_iff.2 hb)
    (Std.LawfulEqOrd.eq_of_compare (Std.OrientedCmp.isLE_antisymm hab hba))) hxs hys

/-- It makes no difference in which order items with different keys are sorted. -/
theorem sortOn_eq_of_perm {xs ys : List α} (hp : xs.Perm ys) (hn : (xs.map key).Nodup) :
    sortOn key xs = sortOn key ys :=
  eq_of_perm_of_pairwise key (sortOn_perm.trans (hp.trans sortOn_perm.symm))
    ((sortOn_perm.map key).nodup_iff.2 hn) pairwise_sortOn pairwise_sortOn

end BeaconDuties
