/-
  Data.KeyedWrites — a run of items, some of which write a value under a key of their own.

  The same run may be read with two keys: what one bookkeeper files under an identifier, another
  finds in a place.
  - `writeAll_agree`: where the writes under one key are exactly those under the other, both hold
    the same at the end.
  - `Based`: every write finds the value it was based on; `Based.at_write` says so of each write of
    the run, and `Based.at_place` of a place whose writes are those under one key.
-/

import Mathlib.Logic.Basic

namespace Data.KeyedWrites

variable {α β κ κ' : Type} [DecidableEq κ] [DecidableEq κ'] {key : α → κ} {key' : α → κ'} {value : α → Option β}
  {s' : κ' → Option β} {x : α} {s : κ → Option β} {k' : κ'} {k : κ}

/-- One item: it writes its value, if it has one. -/
def write (key : α → κ) (value : α → Option β) (s : κ → Option β) (x : α) : κ → Option β :=
  match value x with
  | some b => fun k => if k = key x then some b else s k
  | none => s

def writeAll (key : α → κ) (value : α → Option β) (s : κ → Option β) (xs : List α) : κ → Option β := xs.foldl (write key value) s

@[simp] theorem writeAll_nil (s : κ → Option β) : writeAll key value s [] = s := rfl

@[simp] theorem writeAll_cons (s : κ → Option β) (x : α) (xs : List α) :
    writeAll key value s (x :: xs) = writeAll key value (write key value s x) xs := rfl

theorem write_none (h : value x = none) (s : κ → Option β) : write key value s x = s := by
  unfold write
  rw [h]

theorem write_some {b : β} (h : value x = some b) (s : κ → Option β) (k : κ) :
    write key value s x k = if k = key x then some b else s k := by
  unfold write
  rw [h]

/-- What is not written under a key stays there. -/
theorem write_agree (hs : s k = s' k')
    (hx : (value x).isSome = true → (key x = k ↔ key' x = k')) : write key value s x k = write key' value s' x k' := by
  cases hv : value x with
  | none =>
    rw [write_none hv, write_none hv]
    exact hs
  | some b =>
    have hiff := hx (by rw [hv]; rfl)
    rw [write_some hv, write_some hv]
    by_cases hk : k = key x
    · rw [if_pos hk, if_pos (hiff.mp hk.symm).symm]
    · rw [if_neg hk, if_neg fun hk' => hk (hiff.mpr hk'.symm).symm]
      exact hs

theorem writeAll_agree {xs : List α} (hs : s k = s' k')
    (h : ∀ x ∈ xs, (value x).isSome = true → (key x = k ↔ key' x = k')) : writeAll key value s xs k = writeAll key' value s' xs k' := by
  induction xs generalizing s s' with
  | nil => exact hs
  | cons x xs ih =>
    exact ih (write_agree hs (h x List.mem_cons_self)) fun y hy => h y (List.mem_cons_of_mem _ hy)

/-- Every write finds the value it is based on. -/
def Based (key : α → κ) (value : α → Option β) (base : α → β) (s : κ → Option β) : List α → Prop
  | [] => True
  | x :: xs => ((value x).isSome = true → s (key x) = some (base x)) ∧ Based key value base (write key value s x) xs

variable {base : α → β} {s : κ → Option β} {s' : κ' → Option β}

theorem Based.at_write {before after : List α} (h : Based key value base s (before ++ x :: after))
    (hx : (value x).isSome = true) : writeAll key value s before (key x) = some (base x) := by
  induction before generalizing s with
  | nil => exact h.1 hx
  | cons y before ih => exact ih h.2

/-- A place whose writes are those under one key. -/
theorem Based.at_place {before after : List α} (h : Based key value base s (before ++ x :: after))
    (hs : s k = s' k') (hk : ∀ y ∈ before ++ x :: after, (value y).isSome = true → (key y = k ↔ key' y = k'))
    (hx : (value x).isSome = true) (hplace : key' x = k') : writeAll key' value s' before k' = some (base x) := by
  have hkey : key x = k := (hk x (by simp) hx).mpr hplace
  rw [← writeAll_agree hs fun y hy => hk y (List.mem_append_left _ hy), ← hkey]
  exact h.at_write hx

end Data.KeyedWrites
