/-
  Data.Sorted — `sorted(xs, key=…)`, and what does not depend on the order of `xs`.

  The sort is stable. When no two items share a key, the sorted list is that of any permutation
  (`sortOn_perm`), and so is a lookup by a key of its own (`find?_perm`); and another such key sorts
  alike exactly when it orders every two items alike (`sortOn_eq_iff`).
-/

import Mathlib.Data.List.Pairwise
import Mathlib.Data.List.Sort

namespace Data

variable {α κ : Type} [LinearOrder κ] {key : α → κ} {xs ys : List α}

def sortOn (key : α → κ) (xs : List α) : List α := xs.insertionSort fun a b => key a ≤ key b

theorem perm_sortOn (key : α → κ) (xs : List α) : (sortOn key xs).Perm xs := List.perm_insertionSort _ xs

@[simp] theorem mem_sortOn {x : α} : x ∈ sortOn key xs ↔ x ∈ xs := (perm_sortOn key xs).mem_iff

theorem pairwise_sortOn (key : α → κ) (xs : List α) : (sortOn key xs).Pairwise fun a b => key a ≤ key b := by
  have : Std.Total (α := α) fun a b => key a ≤ key b := ⟨fun a b => le_total (key a) (key b)⟩
  have : IsTrans α fun a b => key a ≤ key b := ⟨fun a b c => le_trans⟩
  exact List.pairwise_insertionSort _ xs

theorem filter_mem_eq_nil {all : List α} [DecidablePred (· ∈ xs)] (hall : ∀ x, x ∈ all) : all.filter (· ∈ xs) = [] ↔ xs = [] := by
  simp [List.eq_nil_iff_forall_not_mem, hall]

theorem sortOn_perm (h : xs.Perm ys) (hkey : ∀ a ∈ xs, ∀ b ∈ xs, key a = key b → a = b) : sortOn key xs = sortOn key ys := by
  refine List.Perm.eq_of_pairwise ?_ (pairwise_sortOn key xs) (pairwise_sortOn key ys)
    ((perm_sortOn key xs).trans (h.trans (perm_sortOn key ys).symm))
  intro a b ha hb hab hba
  exact hkey a (mem_sortOn.mp ha) b (h.mem_iff.mpr (mem_sortOn.mp hb)) (le_antisymm hab hba)

/-- Two keys sort a list alike if and only if they order every two items alike. -/
theorem sortOn_eq_iff {κ' : Type} [LinearOrder κ'] {key' : α → κ'}
    (hkey : ∀ a ∈ xs, ∀ b ∈ xs, key a = key b → a = b) (hkey' : ∀ a ∈ xs, ∀ b ∈ xs, key' a = key' b → a = b) :
    sortOn key xs = sortOn key' xs ↔ ∀ a ∈ xs, ∀ b ∈ xs, key a < key b ↔ key' a < key' b := by
  constructor
  · intro h
    let Alike := fun a b => (key a < key b ↔ key' a < key' b) ∧ (key b < key a ↔ key' b < key' a)
    have hsymm : Std.Symm Alike := ⟨fun a b h => h.symm⟩
    have hpairs : (sortOn key xs).Pairwise Alike := by
      have hsorted' := pairwise_sortOn key' xs
      rw [← h] at hsorted'
      refine ((pairwise_sortOn key xs).and hsorted').imp_of_mem fun {a b} ha hb hle => ?_
      have hab := hkey a (mem_sortOn.mp ha) b (mem_sortOn.mp hb)
      have hab' := hkey' a (mem_sortOn.mp ha) b (mem_sortOn.mp hb)
      have hlt : key a < key b ↔ key' a < key' b := by
        constructor
        · intro hlt
          exact lt_of_le_of_ne hle.2 fun he => hlt.ne (congrArg key (hab' he))
        · intro hlt
          exact lt_of_le_of_ne hle.1 fun he => hlt.ne (congrArg key' (hab he))
      exact ⟨hlt, iff_of_false (not_lt_of_ge hle.1) (not_lt_of_ge hle.2)⟩
    have hself : ∀ a ∈ sortOn key xs, Alike a a :=
      fun a _ => ⟨iff_of_false (lt_irrefl _) (lt_irrefl _), iff_of_false (lt_irrefl _) (lt_irrefl _)⟩
    intro a ha b hb
    exact (hpairs.forall_of_forall hself (mem_sortOn.mpr ha) (mem_sortOn.mpr hb)).1
  · intro h
    refine List.Perm.eq_of_pairwise ?_ (pairwise_sortOn key xs) ?_ ((perm_sortOn key xs).trans (perm_sortOn key' xs).symm)
    · intro a b ha hb hab hba
      exact hkey a (mem_sortOn.mp ha) b (mem_sortOn.mp hb) (le_antisymm hab hba)
    · refine (pairwise_sortOn key' xs).imp_of_mem fun {a b} ha hb hle => ?_
      exact not_lt.mp (mt (h b (mem_sortOn.mp hb) a (mem_sortOn.mp ha)).mp (not_lt_of_ge hle))

theorem find?_perm {β : Type} [DecidableEq β] {key : α → β} (h : xs.Perm ys) (hn : (xs.map key).Nodup)
    (k : β) : xs.find? (fun a => key a = k) = ys.find? (fun a => key a = k) := by
  have huniq : ∀ a ∈ xs, ∀ b ∈ xs, key a = key b → a = b := fun a ha b hb => List.inj_on_of_nodup_map hn ha hb
  cases hx : xs.find? (fun a => key a = k) with
  | none =>
    rw [List.find?_eq_none] at hx
    rw [eq_comm, List.find?_eq_none]
    exact fun a ha => hx a (h.mem_iff.mpr ha)
  | some a =>
    have ha := List.mem_of_find?_eq_some hx
    have hka : key a = k := by simpa using List.find?_some hx
    cases hy : ys.find? (fun a => key a = k) with
    | none =>
      rw [List.find?_eq_none] at hy
      exact absurd (by simpa using hka) (hy a (h.mem_iff.mp ha))
    | some b =>
      have hb := h.mem_iff.mpr (List.mem_of_find?_eq_some hy)
      have hkb : key b = k := by simpa using List.find?_some hy
      rw [huniq a ha b hb (hka.trans hkb.symm)]

end Data
