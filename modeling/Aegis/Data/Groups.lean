/-
  Data.Groups — `groups.setdefault(k, [])` and `sorted(set(xs))`.

  A dict of lists is listed in the order its keys came in:
  - `groupAt_update`, `keys_update`: an update changes one key's list and keeps the keys apart.
  - `sortOn_groups`: its items in the order of their keys.
  - `mem_groupBy`: the groups of a list by a key.
  - `sortedSet_congr`: a sorted set depends on what is in it and on nothing else.
-/

import Aegis.Data.Sorted
import Mathlib.Data.List.Dedup
import Mathlib.Data.List.Nodup

namespace Data

/-! ## Sorted sets -/

section SortedSet

variable {α κ : Type} [DecidableEq α] [LinearOrder κ] {key : α → κ} {xs ys : List α}

/-- `sorted(set(xs), key=key)`. -/
def sortedSet (key : α → κ) (xs : List α) : List α := sortOn key xs.dedup

@[simp] theorem mem_sortedSet {x : α} : x ∈ sortedSet key xs ↔ x ∈ xs := by
  rw [sortedSet, mem_sortOn, List.mem_dedup]

theorem nodup_sortedSet : (sortedSet key xs).Nodup := (perm_sortOn key xs.dedup).nodup_iff.mpr xs.nodup_dedup

theorem sortedSet_congr (key : α → κ) (hkey : ∀ a ∈ xs, ∀ b ∈ xs, key a = key b → a = b) (h : ∀ a, a ∈ xs ↔ a ∈ ys) :
    sortedSet key xs = sortedSet key ys := by
  refine sortOn_perm ?_ fun a ha b hb => hkey a (List.mem_dedup.mp ha) b (List.mem_dedup.mp hb)
  exact (List.perm_ext_iff_of_nodup xs.nodup_dedup ys.nodup_dedup).mpr fun a => by simp [h a]

theorem sortedSet_of_nodup (h : xs.Nodup) : sortedSet key xs = sortOn key xs := by
  rw [sortedSet, h.dedup]

theorem sortedSet_ne_nil (key : α → κ) (h : xs ≠ []) : sortedSet key xs ≠ [] := by
  obtain ⟨x, hx⟩ := List.exists_mem_of_ne_nil xs h
  exact List.ne_nil_of_mem (mem_sortedSet.mpr hx)

theorem sortedSet_eq_nil : sortedSet key xs = [] ↔ xs = [] := by
  constructor
  · intro h
    by_contra hne
    exact sortedSet_ne_nil key hne h
  · intro h
    rw [h]
    rfl

/-- The last of a sorted set has the greatest key. -/
theorem getLast_sortedSet {x : α} (hx : (sortedSet key xs).getLast? = some x) : x ∈ xs ∧ ∀ y ∈ xs, key y ≤ key x := by
  obtain ⟨before, hbefore⟩ := List.getLast?_eq_some_iff.mp hx
  refine ⟨mem_sortedSet.mp (hbefore ▸ List.mem_append_right _ List.mem_cons_self), fun y hy => ?_⟩
  have hy' : y ∈ sortedSet key xs := mem_sortedSet.mpr hy
  have hsorted := pairwise_sortOn key xs.dedup
  change (sortedSet key xs).Pairwise _ at hsorted
  rw [hbefore] at hy' hsorted
  rcases List.mem_append.mp hy' with hy' | hy'
  · exact (List.pairwise_append.mp hsorted).2.2 y hy' x List.mem_cons_self
  · rw [List.mem_singleton.mp hy']

end SortedSet

/-! ## Dicts of lists -/

section Groups

variable {α β κ : Type} [DecidableEq β] [LinearOrder κ]

/-- `groups.setdefault(k, [])`, and `f` of the list there. -/
def update (f : List α → List α) (k : β) : List (β × List α) → List (β × List α)
  | [] => [(k, f [])]
  | (k', xs) :: groups => if k' = k then (k', f xs) :: groups else (k', xs) :: update f k groups

/-- The list of a key. -/
def groupAt (groups : List (β × List α)) (k : β) : List α := ((groups.find? fun g => g.1 = k).map (·.2)).getD []

theorem groupAt_cons (g : β × List α) (groups : List (β × List α)) (k : β) :
    groupAt (g :: groups) k = if g.1 = k then g.2 else groupAt groups k := by
  unfold groupAt
  by_cases h : g.1 = k
  · simp [h]
  · simp [h]

theorem groupAt_update (f : List α → List α) (k k' : β) (groups : List (β × List α)) :
    groupAt (update f k groups) k' = if k = k' then f (groupAt groups k) else groupAt groups k' := by
  induction groups with
  | nil =>
    rw [update, groupAt_cons]
    rfl
  | cons g groups ih =>
    obtain ⟨k₀, xs⟩ := g
    unfold update
    by_cases h : k₀ = k
    · subst h
      rw [if_pos rfl, groupAt_cons, groupAt_cons, groupAt_cons]
      by_cases hk : k₀ = k'
      · simp [hk]
      · simp [hk]
    · rw [if_neg h, groupAt_cons, groupAt_cons, groupAt_cons, ih]
      by_cases hk : k₀ = k'
      · have hne : k ≠ k' := fun heq => h (hk.trans heq.symm)
        simp [hk, hne]
      · simp [hk, h]

theorem keys_update (f : List α → List α) (k : β) (groups : List (β × List α)) :
    (update f k groups).map (·.1) = if k ∈ groups.map (·.1) then groups.map (·.1) else groups.map (·.1) ++ [k] := by
  induction groups with
  | nil => rfl
  | cons g groups ih =>
    obtain ⟨k₀, xs⟩ := g
    unfold update
    by_cases h : k₀ = k
    · simp [h]
    · rw [if_neg h, List.map_cons, ih]
      by_cases hk : k ∈ groups.map (·.1)
      · have hk' : k ∈ ((k₀, xs) :: groups).map (·.1) := List.mem_cons_of_mem _ hk
        rw [if_pos hk, if_pos hk', List.map_cons]
      · have hk' : k ∉ ((k₀, xs) :: groups).map (·.1) := fun hin => (List.mem_cons.mp hin).elim (Ne.symm h) hk
        rw [if_neg hk, if_neg hk', List.map_cons, List.cons_append]

variable {groups : List (β × List α)} {f : List α → List α} {g : β × List α}

theorem mem_keys_update {k k' : β} : k' ∈ (update f k groups).map (·.1) ↔ k' = k ∨ k' ∈ groups.map (·.1) := by
  rw [keys_update]
  split
  · exact ⟨.inr, fun h => h.elim (fun heq => heq ▸ ‹_›) id⟩
  · rw [List.mem_append, List.mem_singleton, or_comm]

theorem nodup_keys_update {k : β} (h : (groups.map (·.1)).Nodup) : ((update f k groups).map (·.1)).Nodup := by
  rw [keys_update]
  split
  · exact h
  · exact List.nodup_append.mpr ⟨h, List.nodup_singleton k, fun a ha b hb hab => ‹k ∉ _› (List.mem_singleton.mp hb ▸ hab ▸ ha)⟩

/-- A list is that of its key. -/
theorem groupAt_of_mem (hn : (groups.map (·.1)).Nodup) (hg : g ∈ groups) : groupAt groups g.1 = g.2 := by
  unfold groupAt
  cases hfound : groups.find? fun g' => g'.1 = g.1 with
  | none => exact absurd (List.find?_eq_none.mp hfound g hg) (by simp)
  | some g' =>
    have hsame : g'.1 = g.1 := by simpa using List.find?_some hfound
    rw [List.inj_on_of_nodup_map hn (List.mem_of_find?_eq_some hfound) hg hsame]
    rfl

/-- `sorted(groups.items())`: the keys in their order, each with its list. -/
theorem sortOn_groups {key : β → κ} (hkey : Function.Injective key) (hn : (groups.map (·.1)).Nodup) :
    sortOn (fun g => key g.1) groups = (sortOn key (groups.map (·.1))).map fun k => (k, groupAt groups k) := by
  have hself : groups = (groups.map (·.1)).map fun k => (k, groupAt groups k) := by
    rw [List.map_map]
    exact (List.map_id groups).symm.trans (List.map_congr_left fun g hg => Prod.ext rfl (groupAt_of_mem hn hg).symm)
  have hperm : groups.Perm ((sortOn key (groups.map (·.1))).map fun k => (k, groupAt groups k)) := by
    conv_lhs => rw [hself]
    exact (perm_sortOn key (groups.map (·.1))).symm.map _
  have hsorted : ((sortOn key (groups.map (·.1))).map fun k => (k, groupAt groups k)).Pairwise fun a b => key a.1 ≤ key b.1 :=
    List.pairwise_map.mpr (pairwise_sortOn key (groups.map (·.1)))
  exact (sortOn_perm hperm fun a ha b hb hab => List.inj_on_of_nodup_map hn ha hb (hkey hab)).trans hsorted.insertionSort_eq

/-- `for x in xs: groups.setdefault(key(x), []).append(x)`. -/
def groupBy (key : α → β) (xs : List α) : List (β × List α) := xs.foldl (fun groups x => update (· ++ [x]) (key x) groups) []

theorem groupBy_spec (key : α → β) (xs : List α) : ((groupBy key xs).map (·.1)).Nodup ∧
    (∀ k, k ∈ (groupBy key xs).map (·.1) ↔ ∃ x ∈ xs, key x = k) ∧ ∀ k, groupAt (groupBy key xs) k = xs.filter fun x => key x = k := by
  have hfold : ∀ (xs : List α) (groups : List (β × List α)), (groups.map (·.1)).Nodup →
      ((xs.foldl (fun groups x => update (· ++ [x]) (key x) groups) groups).map (·.1)).Nodup ∧
      (∀ k, k ∈ (xs.foldl (fun groups x => update (· ++ [x]) (key x) groups) groups).map (·.1) ↔
        k ∈ groups.map (·.1) ∨ ∃ x ∈ xs, key x = k) ∧
      ∀ k, groupAt (xs.foldl (fun groups x => update (· ++ [x]) (key x) groups) groups) k =
        groupAt groups k ++ xs.filter fun x => key x = k := by
    intro xs
    induction xs with
    | nil => exact fun groups hn => ⟨hn, fun k => by simp, fun k => by simp⟩
    | cons x xs ih =>
      intro groups hn
      obtain ⟨hnodup, hkeys, hgroups⟩ := ih (update (· ++ [x]) (key x) groups) (nodup_keys_update hn)
      refine ⟨hnodup, fun k => ?_, fun k => ?_⟩
      · rw [List.foldl_cons, hkeys, mem_keys_update, List.exists_mem_cons_iff, or_assoc, or_left_comm, eq_comm]
      · rw [List.foldl_cons, hgroups, groupAt_update]
        by_cases hk : key x = k
        · subst hk
          rw [if_pos rfl, List.filter_cons_of_pos (by simp), List.append_assoc]
          rfl
        · rw [if_neg hk, List.filter_cons_of_neg (by simpa using hk)]
  obtain ⟨hnodup, hkeys, hgroups⟩ := hfold xs [] List.nodup_nil
  exact ⟨hnodup, fun k => (hkeys k).trans ⟨fun h => h.resolve_left nofun, .inr⟩, hgroups⟩

theorem mem_groupBy {key : α → β} {xs : List α} :
    g ∈ groupBy key xs ↔ ∃ x ∈ xs, g = (key x, xs.filter fun y => key y = key x) := by
  obtain ⟨hnodup, hkeys, hgroups⟩ := groupBy_spec key xs
  constructor
  · intro hg
    obtain ⟨x, hx, hk⟩ := (hkeys g.1).mp (List.mem_map_of_mem hg)
    refine ⟨x, hx, Prod.ext hk.symm ?_⟩
    rw [← groupAt_of_mem hnodup hg, hgroups, hk]
  · rintro ⟨x, hx, rfl⟩
    obtain ⟨g, hg, hk⟩ := List.mem_map.mp ((hkeys (key x)).mpr ⟨x, hx, rfl⟩)
    have hlist := groupAt_of_mem hnodup hg
    rw [hk, hgroups] at hlist
    have hself : g = (key x, xs.filter fun y => key y = key x) := Prod.ext hk hlist.symm
    exact hself ▸ hg

end Groups

end Data
