/-
  Data.Worklist — everything that is reached from a node, by a stack.

  Every node is pushed once, when it is first seen, so there is nothing left to do after as many
  turns as there are nodes (`mem_closure`).
-/

import Mathlib.Data.List.Nodup
import Mathlib.Data.List.Perm.Subperm
import Mathlib.Logic.Relation

namespace Data.Worklist

variable {α : Type} [DecidableEq α]

/-- The nodes not in `result` are added to it and pushed. -/
def visit : List α → List α → List α → List α × List α
  | [], stack, result => (stack, result)
  | c :: cs, stack, result => if c ∈ result then visit cs stack result else visit cs (c :: stack) (c :: result)

def explore (succ : α → List α) : Nat → List α → List α → List α
  | _, [], result => result
  | 0, _ :: _, result => result
  | n + 1, x :: stack, result => explore succ n (visit (succ x) stack result).1 (visit (succ x) stack result).2

def closure (succ : α → List α) (n : Nat) (x : α) : List α := explore succ n [x] [x]

theorem visit_spec (cs stack result : List α) :
    ∃ new, visit cs stack result = (new ++ stack, new ++ result) ∧ (∀ c ∈ new, c ∈ cs) ∧ (∀ c ∈ cs, c ∈ new ++ result) ∧
      (result.Nodup → (new ++ result).Nodup) := by
  induction cs generalizing stack result with
  | nil => exact ⟨[], rfl, by simp, by simp, id⟩
  | cons c cs ih =>
    unfold visit
    split
    · rename_i hc
      obtain ⟨new, hv, hnew, hcs, hn⟩ := ih stack result
      refine ⟨new, hv, fun d hd => List.mem_cons_of_mem _ (hnew d hd), fun d hd => ?_, hn⟩
      rcases List.mem_cons.mp hd with rfl | hd
      · exact List.mem_append_right _ hc
      · exact hcs d hd
    · rename_i hc
      obtain ⟨new, hv, hnew, hcs, hn⟩ := ih (c :: stack) (c :: result)
      refine ⟨new ++ [c], by simpa using hv, fun d hd => ?_, fun d hd => ?_, fun hr => ?_⟩
      · rcases List.mem_append.mp hd with hd | hd
        · exact List.mem_cons_of_mem _ (hnew d hd)
        · exact List.mem_singleton.mp hd ▸ List.mem_cons_self
      · rw [List.append_assoc, List.singleton_append]
        rcases List.mem_cons.mp hd with rfl | hd
        · exact List.mem_append_right _ List.mem_cons_self
        · exact hcs d hd
      · rw [List.append_assoc, List.singleton_append]
        exact hn (List.nodup_cons.mpr ⟨hc, hr⟩)

/-- `y` is reached from `x`. -/
def Reaches (succ : α → List α) (x y : α) : Prop := Relation.ReflTransGen (fun a b => b ∈ succ a) x y

/-- What holds at every turn of the search from `root`, with `n` turns left. -/
structure Inv (succ : α → List α) (nodes : List α) (root : α) (n : Nat) (stack result : List α) : Prop where
  start : root ∈ result
  nodup : result.Nodup
  reached : ∀ y ∈ result, Reaches succ root y
  stacked : ∀ y ∈ stack, y ∈ result
  closed : ∀ y ∈ result, y ∉ stack → ∀ z ∈ succ y, z ∈ result
  turns : stack.length + nodes.length ≤ n + result.length

variable {nodes : List α} {succ : α → List α}

omit [DecidableEq α] in
theorem Reaches.mem_nodes {x y : α} (h : Reaches succ x y) (hx : x ∈ nodes)
    (hclosed : ∀ y ∈ nodes, ∀ z ∈ succ y, z ∈ nodes) : y ∈ nodes := by
  induction h with
  | refl => exact hx
  | tail _ hz ih => exact hclosed _ ih _ hz

theorem Inv.turn {root x : α} {n : Nat} {stack result : List α} (h : Inv succ nodes root (n + 1) (x :: stack) result) :
    Inv succ nodes root n (visit (succ x) stack result).1 (visit (succ x) stack result).2 := by
  obtain ⟨new, hv, hnew, hcs, hn⟩ := visit_spec (succ x) stack result
  have hx : x ∈ result := h.stacked x List.mem_cons_self
  rw [hv]
  dsimp only
  refine ⟨List.mem_append_right _ h.start, hn h.nodup, fun y hy => ?_, fun y hy => ?_, fun y hy hstack z hz => ?_, ?_⟩
  · rcases List.mem_append.mp hy with hy | hy
    · exact (h.reached x hx).tail (hnew y hy)
    · exact h.reached y hy
  · rcases List.mem_append.mp hy with hy | hy
    · exact List.mem_append_left _ hy
    · exact List.mem_append_right _ (h.stacked y (List.mem_cons_of_mem _ hy))
  · rw [List.mem_append, not_or] at hstack
    by_cases hyx : y = x
    · subst hyx
      exact hcs z hz
    · have hy : y ∈ result := (List.mem_append.mp hy).resolve_left hstack.1
      refine List.mem_append_right _ (h.closed y hy (fun hm => ?_) z hz)
      exact (List.mem_cons.mp hm).elim hyx hstack.2
  · have := h.turns
    simp only [List.length_append, List.length_cons] at this ⊢
    omega

theorem mem_explore {root : α} {n : Nat} {stack result : List α}
    (h : Inv succ nodes root n stack result) (hroot : root ∈ nodes) (hclosed : ∀ y ∈ nodes, ∀ z ∈ succ y, z ∈ nodes) (y : α) :
    y ∈ explore succ n stack result ↔ Reaches succ root y := by
  induction n generalizing stack result with
  | zero =>
    have hsub : result.length ≤ nodes.length :=
      (List.subperm_of_subset h.nodup fun z hz => (h.reached z hz).mem_nodes hroot hclosed).length_le
    have hturns := h.turns
    have hnil : stack = [] := List.length_eq_zero_iff.mp (by omega)
    subst hnil
    exact done h y
  | succ n ih =>
    cases stack with
    | nil => exact done h y
    | cons x stack => exact ih h.turn
where
  done {n : Nat} {result : List α} (h : Inv succ nodes root n [] result) (y : α) :
      y ∈ explore succ n [] result ↔ Reaches succ root y := by
    have he : explore succ n [] result = result := by
      cases n <;> rfl
    rw [he]
    constructor
    · exact h.reached y
    · intro hy
      induction hy with
      | refl => exact h.start
      | tail _ hz ih => exact h.closed _ ih (by simp) _ hz

theorem mem_closure {x y : α} (hx : x ∈ nodes)
    (hclosed : ∀ y ∈ nodes, ∀ z ∈ succ y, z ∈ nodes) : y ∈ closure succ nodes.length x ↔ Reaches succ x y := by
  refine mem_explore ⟨List.mem_singleton_self x, List.nodup_singleton x, fun y hy => ?_, fun y hy => hy, fun y hy hn => ?_, ?_⟩
    hx hclosed y
  · exact List.mem_singleton.mp hy ▸ .refl
  · exact absurd hy hn
  · exact Nat.le_of_eq (Nat.add_comm _ _)

end Data.Worklist
