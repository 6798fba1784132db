/-
  Data.HashChain — a log kept as the digest of its head.

  `head` hashes a log link by link; each link's digest covers its position, the head before
  it and the link. When the digests are injective a head determines its log
  (`head_injective`), so whoever holds a head can tell a log from any other of any length.
-/

import Mathlib.Data.List.Induction
import Mathlib.Logic.Function.Basic

namespace Data

structure HashChain (ι δ : Type) where
  genesis : δ
  /-- The head after the link at a position. -/
  extend : Nat → δ → ι → δ

namespace HashChain

variable {ι δ : Type} (C : HashChain ι δ) {xs : List ι}

/-- The head of `xs` and of each of its prefixes, from the head before it on. -/
def headsFrom (n : Nat) (h : δ) : List ι → List δ
  | [] => [h]
  | x :: xs => h :: headsFrom (n + 1) (C.extend n h x) xs

def headFrom (n : Nat) (h : δ) : List ι → δ
  | [] => h
  | x :: xs => headFrom (n + 1) (C.extend n h x) xs

def heads (xs : List ι) : List δ := C.headsFrom 0 C.genesis xs

def head (xs : List ι) : δ := C.headFrom 0 C.genesis xs

theorem headFrom_concat (n : Nat) (h : δ) (xs : List ι) (x : ι) :
    C.headFrom n h (xs ++ [x]) = C.extend (n + xs.length) (C.headFrom n h xs) x := by
  induction xs generalizing n h with
  | nil => rfl
  | cons y ys ih =>
    simp only [List.cons_append, headFrom, ih, List.length_cons]
    rw [Nat.add_right_comm, Nat.add_assoc]

theorem head_concat (xs : List ι) (x : ι) : C.head (xs ++ [x]) = C.extend xs.length (C.head xs) x := by
  unfold head
  rw [headFrom_concat, Nat.zero_add]

theorem headsFrom_getElem? {k : Nat} (hk : k ≤ xs.length) (n : Nat) (h : δ) :
    (C.headsFrom n h xs)[k]? = some (C.headFrom n h (xs.take k)) := by
  induction xs generalizing n h k with
  | nil =>
    obtain rfl : k = 0 := Nat.le_zero.mp hk
    rfl
  | cons x xs ih =>
    cases k with
    | zero => rfl
    | succ k =>
      simp only [headsFrom, List.getElem?_cons_succ, List.take_succ_cons, headFrom]
      exact ih (Nat.le_of_succ_le_succ hk) _ _

/-- The `k`th head is that of the first `k` links. -/
theorem heads_getElem? {k : Nat} (hk : k ≤ xs.length) : (C.heads xs)[k]? = some (C.head (xs.take k)) :=
  C.headsFrom_getElem? hk 0 C.genesis

/-- Digests collide on no two links, and on none with the genesis. -/
structure Injective : Prop where
  extend_inj : ∀ {n m h k x y}, C.extend n h x = C.extend m k y → h = k ∧ x = y
  extend_ne : ∀ n h x, C.extend n h x ≠ C.genesis

variable {C}

theorem head_injective (hC : C.Injective) : Function.Injective C.head := by
  intro xs
  induction xs using List.reverseRecOn with
  | nil =>
    intro ys h
    rcases List.eq_nil_or_concat ys with rfl | ⟨ys, y, rfl⟩
    · rfl
    · rw [List.concat_eq_append, head_concat] at h
      exact absurd h.symm (hC.extend_ne _ _ _)
  | append_singleton xs x ih =>
    intro ys h
    rcases List.eq_nil_or_concat ys with rfl | ⟨ys, y, rfl⟩
    · rw [head_concat] at h
      exact absurd h (hC.extend_ne _ _ _)
    · rw [List.concat_eq_append, head_concat, head_concat] at h
      obtain ⟨hh, rfl⟩ := hC.extend_inj h
      rw [ih hh, List.concat_eq_append]

end HashChain

end Data
