import Mathlib.Algebra.GroupWithZero.Nat
import Mathlib.Data.List.Forall2
import Mathlib.Data.List.Nodup

/-!
Lists that are searched, lists in ascending order, and lists that correspond item by item.
-/

namespace BeaconDuties.Lists

variable {α β : Type} {R : α → β → Prop} {xs : List α} {ys : List β}

/-- The first item of a kind comes before all others of that kind. -/
theorem rel_of_find?_eq_some {R : α → α → Prop} {p : α → Bool} {x y : α} (hp : xs.Pairwise R)
    (hr : R x x) (hx : xs.find? p = some x) (hy : y ∈ xs) (h : p y) : R x y := by
  obtain ⟨-, before, after, rfl, hb⟩ := List.find?_eq_some_iff_append.1 hx
  rcases List.mem_append.1 hy with hy | hy
  · have := hb y hy
    simp [h] at this
  · rcases List.mem_cons.1 hy with rfl | hy
    · exact hr
    · exact (List.pairwise_cons.1 (List.pairwise_append.1 hp).2.1).1 y hy

/-- What is taken off a list in ascending order is what comes before the first item that fails. -/
theorem mem_takeWhile_iff {R : α → α → Prop} {p : α → Bool} {x : α} (hR : ∀ a b, R a b ∨ R b a) :
    ∀ {xs : List α}, xs.Pairwise (fun a b => ¬ R b a) →
      (x ∈ xs.takeWhile p ↔ x ∈ xs ∧ ∀ y ∈ xs, R y x → p y)
  | [], _ => by simp
  | a :: xs, h => by
    obtain ⟨ha, hxs⟩ := List.pairwise_cons.1 h
    rw [List.takeWhile_cons]
    by_cases hp : p a
    · rw [if_pos hp, List.mem_cons, mem_takeWhile_iff hR hxs]
      constructor
      · rintro (rfl | ⟨hx, hbefore⟩)
        · refine ⟨List.mem_cons_self, fun y hy hyx => ?_⟩
          rcases List.mem_cons.1 hy with rfl | hy
          · exact hp
          · exact absurd hyx (ha y hy)
        · exact ⟨List.mem_cons_of_mem _ hx, List.forall_mem_cons.2 ⟨fun _ => hp, hbefore⟩⟩
      · rintro ⟨hx, hbefore⟩
        exact (List.mem_cons.1 hx).imp_right fun hx => ⟨hx, (List.forall_mem_cons.1 hbefore).2⟩
    · rw [if_neg hp]
      -- the first item fails, and it comes before all others
      refine ⟨fun hx => absurd hx List.not_mem_nil, fun ⟨hx, hbefore⟩ => ?_⟩
      have hax : R a x := by
        rcases List.mem_cons.1 hx with rfl | hx
        · exact (hR x x).elim id id
        · exact (hR a x).resolve_right (ha x hx)
      exact absurd (hbefore a List.mem_cons_self hax) hp

/-- The last item of a list in ascending order comes after all others. -/
theorem rel_of_getLast?_eq_some {R : α → α → Prop} {x last : α} (hR : ∀ a b, R a b ∨ R b a)
    (h : xs.Pairwise fun a b => ¬ R b a) (hlast : xs.getLast? = some last) (hx : x ∈ xs) :
    R x last := by
  obtain ⟨front, rfl⟩ := List.getLast?_eq_some_iff.1 hlast
  rcases List.mem_append.1 hx with hx | hx
  · have hback := (List.pairwise_append.1 h).2.2 x hx last (List.mem_singleton_self last)
    exact (hR x last).resolve_right hback
  · obtain rfl := List.mem_singleton.1 hx
    exact (hR x x).elim id id

theorem find?_of_forall₂ {p : α → Bool} {q : β → Bool} (h : List.Forall₂ R xs ys)
    (hpq : ∀ {x y}, R x y → p x = q y) : Option.Rel R (xs.find? p) (ys.find? q) := by
  induction h with
  | nil => exact .none
  | @cons x y xs ys hxy _ ih =>
    rw [List.find?_cons, List.find?_cons, ← hpq hxy]
    cases p x with
    | true => exact .some hxy
    | false => exact ih

theorem exists_forall₂ : ∀ {xs : List α}, (∀ x ∈ xs, ∃ y, R x y) → ∃ ys, List.Forall₂ R xs ys
  | [], _ => ⟨[], .nil⟩
  | _ :: _, h => by
    obtain ⟨⟨y, hy⟩, hxs⟩ := List.forall_mem_cons.1 h
    obtain ⟨ys, hys⟩ := exists_forall₂ hxs
    exact ⟨y :: ys, .cons hy hys⟩

theorem getElem?_of_forall₂ (h : List.Forall₂ R xs ys) :
    ∀ i : Nat, Option.Rel R xs[i]? ys[i]? := by
  induction h with
  | nil => exact fun _ => .none
  | cons hxy _ ih =>
    intro i
    cases i with
    | zero => exact .some hxy
    | succ i => exact ih i

theorem exists_mem_of_forall₂ (h : List.Forall₂ R xs ys) {x : α} (hx : x ∈ xs) :
    ∃ y ∈ ys, R x y := by
  induction h with
  | nil => simp at hx
  | cons hxy _ ih =>
    rcases List.mem_cons.1 hx with rfl | hx
    · exact ⟨_, List.mem_cons_self, hxy⟩
    · obtain ⟨y, hy, hr⟩ := ih hx
      exact ⟨y, List.mem_cons_of_mem _ hy, hr⟩

theorem zipWith_of_forall₂ {γ : Type} {f : α → β → γ} {g : α → γ} (h : List.Forall₂ R xs ys)
    (hfg : ∀ x ∈ xs, ∀ y, R x y → f x y = g x) : List.zipWith f xs ys = xs.map g := by
  induction h with
  | nil => rfl
  | cons hxy _ ih =>
    rw [List.forall_mem_cons] at hfg
    rw [List.zipWith_cons_cons, List.map_cons, hfg.1 _ hxy, ih hfg.2]

theorem eq_none_iff_of_rel {a : Option α} {b : Option β} (h : Option.Rel R a b) :
    b = none ↔ a = none := by
  cases h <;> simp

theorem exists_of_rel {a : Option α} {b : Option β} {y : β} (h : Option.Rel R a b)
    (hb : b = some y) : ∃ x, a = some x ∧ R x y := by
  cases h with
  | none => cases hb
  | some hxy =>
    cases hb
    exact ⟨_, rfl, hxy⟩

theorem eq_of_rel {a : Option α} {b c : Option β} (hb : Option.Rel R a b) (hc : Option.Rel R a c)
    (hR : ∀ {x y z}, R x y → R x z → y = z) : b = c := by
  cases hb with
  | none =>
    cases hc
    rfl
  | some hb =>
    cases hc with
    | some hc => rw [hR hb hc]

theorem exists_iff_of_forall₂ {P : α → Prop} {Q : β → Prop} (h : List.Forall₂ R xs ys)
    (hPQ : ∀ {x y}, R x y → (P x ↔ Q y)) : (∃ x ∈ xs, P x) ↔ ∃ y ∈ ys, Q y := by
  induction h with
  | nil => simp
  | cons hxy _ ih => simp only [List.mem_cons, exists_eq_or_imp, hPQ hxy, ih]

/-- If one condition implies another on a list, it selects a sublist. -/
theorem filter_sublist_filter {p q : α → Bool} (h : ∀ x ∈ xs, p x → q x) :
    (xs.filter p).Sublist (xs.filter q) := by
  have hf : xs.filter p = (xs.filter q).filter p := by
    rw [List.filter_filter]
    refine List.filter_congr fun x hx => ?_
    cases hp : p x with
    | false => rfl
    | true => rw [h x hx hp, Bool.and_true]
  rw [hf]
  exact List.filter_sublist

variable {κ : Type} [DecidableEq κ] {key : α → κ}

/-- The items of a list, grouped by their keys. -/
theorem flatMap_filter_perm : ∀ {ks : List κ} {xs : List α}, ks.Nodup → (∀ x ∈ xs, key x ∈ ks) →
    (ks.flatMap fun k => xs.filter (key · = k)).Perm xs
  | [], xs, _, h => by
    cases xs with
    | nil => exact .nil
    | cons x xs => simpa using h x List.mem_cons_self
  | k :: ks, xs, hn, h => by
    obtain ⟨hk, hn⟩ := List.nodup_cons.1 hn
    have hrest : (ks.flatMap fun k' => xs.filter (key · = k')).Perm
        (xs.filter fun x => !decide (key x = k)) := by
      refine List.Perm.trans (.of_eq ?_) (flatMap_filter_perm hn fun x hx => ?_)
      · refine congrArg List.flatten (List.map_congr_left fun k' hk' => ?_)
        rw [List.filter_filter]
        refine List.filter_congr fun x _ => ?_
        by_cases he : key x = k'
        · have : k' ≠ k := fun h => hk (h ▸ hk')
          simp [he, this]
        · simp [he]
      · obtain ⟨hx, hne⟩ := List.mem_filter.1 hx
        exact (List.mem_cons.1 (h x hx)).resolve_left (by simpa using hne)
    rw [List.flatMap_cons]
    exact (hrest.append_left _).trans (List.filter_append_perm _ _)

/-- Of the items that are listed key by key, those with one of the keys. -/
theorem filter_flatMap_filter {k : κ} : ∀ {ks : List κ} {xs : List α}, ks.Nodup →
    (xs.filter (key · = k) ≠ [] → k ∈ ks) →
      (ks.flatMap fun k' => xs.filter (key · = k')).filter (key · = k) = xs.filter (key · = k)
  | [], xs, _, h => by simpa using h
  | k' :: ks, xs, hn, h => by
    obtain ⟨hk', hn⟩ := List.nodup_cons.1 hn
    rw [List.flatMap_cons, List.filter_append, List.filter_filter]
    by_cases he : k' = k
    · subst he
      have hrest : (ks.flatMap fun k => xs.filter (key · = k)).filter (key · = k') = [] := by
        refine List.filter_eq_nil_iff.2 fun x hx => ?_
        obtain ⟨k, hk, hx⟩ := List.mem_flatMap.1 hx
        obtain ⟨-, rfl⟩ : _ ∧ key x = k := by simpa using hx
        simpa using fun he : key x = k' => hk' (he ▸ hk)
      simp [hrest]
    · have hnone : xs.filter (fun x => decide (key x = k) && decide (key x = k')) = [] := by
        refine List.filter_eq_nil_iff.2 fun x _ => ?_
        simpa using fun hx hx' => he (hx'.symm.trans hx)
      rw [hnone, List.nil_append]
      exact filter_flatMap_filter hn fun hne => (List.mem_cons.1 (h hne)).resolve_left (Ne.symm he)

omit [DecidableEq κ] in
/-- Two lists without repeated keys correspond item by item, in some order, if each item has its
    counterpart in the other. -/
theorem exists_perm_forall₂ {key' : β → κ} (hxs : (xs.map key).Nodup) (hys : (ys.map key').Nodup)
    (hR : ∀ {x y}, R x y → key x = key' y) (hl : ∀ x ∈ xs, ∃ y ∈ ys, R x y)
    (hr : ∀ y ∈ ys, ∃ x ∈ xs, R x y) : ∃ zs, zs.Perm ys ∧ List.Forall₂ R xs zs := by
  obtain ⟨zs, hzs⟩ := exists_forall₂ (R := fun x y => y ∈ ys ∧ R x y) hl
  have hkeys : xs.map key = zs.map key' :=
    List.forall₂_eq_eq_eq ▸ List.rel_map (fun _ _ h => hR h.2) hzs
  have hsub : ∀ z ∈ zs, z ∈ ys := by
    intro z hz
    obtain ⟨_, -, hy, -⟩ := exists_mem_of_forall₂ hzs.flip hz
    exact hy
  refine ⟨zs, ?_, hzs.imp fun _ _ h => h.2⟩
  refine (List.perm_ext_iff_of_nodup (List.Nodup.of_map key' (hkeys ▸ hxs))
    (hys.of_map key')).2 fun y => ⟨hsub y, fun hy => ?_⟩
  obtain ⟨x, hx, hxy⟩ := hr y hy
  obtain ⟨z, hz, hzy, hxz⟩ := exists_mem_of_forall₂ hzs hx
  have : z = y := List.inj_on_of_nodup_map hys hzy hy ((hR hxz).symm.trans (hR hxy))
  exact this ▸ hz

/-- Items that have a key are counted key by key. -/
theorem sum_countP {f : α → Option κ} {ks : List κ} (hn : ks.Nodup)
    (hks : ∀ x ∈ xs, ∀ k, f x = some k → k ∈ ks) :
    (ks.map fun k => xs.countP (f · = some k)).sum = xs.countP (f · |>.isSome) := by
  have hp : ((ks.map some).flatMap fun k => (xs.filter (f · |>.isSome)).filter (f · = k)).Perm _ :=
    flatMap_filter_perm (hn.map fun _ _ => Option.some.inj) fun x hx => by
      obtain ⟨hx, hs⟩ := List.mem_filter.1 hx
      obtain ⟨k, hk⟩ := Option.isSome_iff_exists.1 hs
      exact hk ▸ List.mem_map_of_mem (hks x hx k hk)
  have hl := hp.length_eq
  rw [List.length_flatMap, List.map_map, ← List.countP_eq_length_filter] at hl
  refine Eq.trans (congrArg List.sum (List.map_congr_left fun k _ => ?_)) hl
  rw [Function.comp_apply, List.filter_filter, List.countP_eq_length_filter]
  refine congrArg List.length (List.filter_congr fun x _ => ?_)
  by_cases hk : f x = some k <;> simp [hk]

end BeaconDuties.Lists
