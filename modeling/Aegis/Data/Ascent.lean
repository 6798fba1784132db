/-
  Data.Ascent — following parent pointers up to a root.

  `Rooted parent x d` says that the pointers from `x` end, `d` nodes later. A walk that remembers
  the nodes it has seen stops at the first repetition: it gets to the end exactly from a rooted
  node (`walk_iff`), given as much fuel as there are nodes with a parent or asked about.
-/

import Mathlib.Data.List.Nodup
import Mathlib.Data.List.Perm.Subperm
import Mathlib.Logic.Relation

namespace Data.Ascent

variable {α : Type} [DecidableEq α] {parent : α → Option α}

/-- The nodes from `x` to its root are `d`. -/
inductive Rooted (parent : α → Option α) : α → Nat → Prop
  | root {x : α} : parent x = none → Rooted parent x 1
  | child {x y : α} {d : Nat} : parent x = some y → Rooted parent y d → Rooted parent x (d + 1)

/-- `y` is `x` or above it. -/
def Above (parent : α → Option α) (x y : α) : Prop := Relation.ReflTransGen (fun a b => parent a = some b) x y

/-- Whether the walk from `x` ends at a root before it comes to a node a second time. -/
def walk (parent : α → Option α) : Nat → List α → Option α → Bool
  | _, _, none => true
  | 0, _, some _ => false
  | n + 1, seen, some x => if x ∈ seen then false else walk parent n (x :: seen) (parent x)

def depth (parent : α → Option α) : Nat → α → Nat
  | 0, _ => 0
  | n + 1, x =>
    match parent x with
    | none => 1
    | some y => depth parent n y + 1

/-- Where the pointers from `x` end. -/
def top (parent : α → Option α) : Nat → α → α
  | 0, x => x
  | n + 1, x =>
    match parent x with
    | none => x
    | some y => top parent n y

variable {x : α} {nodes seen : List α} {d n : Nat}

omit [DecidableEq α] in
theorem Rooted.unique {e : Nat} (hd : Rooted parent x d) (he : Rooted parent x e) : d = e := by
  induction hd generalizing e with
  | root h =>
    cases he with
    | root _ => rfl
    | child h' _ =>
      rw [h] at h'
      cases h'
  | child h _ ih =>
    cases he with
    | root h' =>
      rw [h] at h'
      cases h'
    | child h' he =>
      rw [h, Option.some.injEq] at h'
      rw [ih (h' ▸ he)]

omit [DecidableEq α] in

omit [DecidableEq α] in
theorem Rooted.depth (h : Rooted parent x d) (hn : d ≤ n) : depth parent n x = d := by
  induction h generalizing n with
  | root hx =>
    obtain ⟨k, rfl⟩ := Nat.exists_eq_add_of_lt hn
    simp only [Ascent.depth, hx]
  | child hx h ih =>
    obtain ⟨k, rfl⟩ : ∃ k, n = k + 1 := ⟨n - 1, by omega⟩
    simp only [Ascent.depth, hx, ih (by omega : _ ≤ k)]

omit [DecidableEq α] in
/-- Going up for as long as there are nodes leads to the root above. -/
theorem Rooted.top {x r : α} (h : Rooted parent x d) (hn : d ≤ n) (ha : Above parent x r) (hr : parent r = none) :
    top parent n x = r := by
  induction h generalizing n with
  | root hx =>
    obtain ⟨k, rfl⟩ : ∃ k, n = k + 1 := ⟨n - 1, by omega⟩
    simp only [Ascent.top, hx]
    rcases Relation.ReflTransGen.cases_head ha with rfl | ⟨y, hy, -⟩
    · rfl
    · rw [hx] at hy
      cases hy
  | child hx h ih =>
    obtain ⟨k, rfl⟩ : ∃ k, n = k + 1 := ⟨n - 1, by omega⟩
    simp only [Ascent.top, hx]
    rcases Relation.ReflTransGen.cases_head ha with rfl | ⟨y, hy, habove⟩
    · rw [hx] at hr
      cases hr
    · rw [hx, Option.some.injEq] at hy
      exact ih (by omega) (hy ▸ habove)

omit [DecidableEq α] in
/-- What is above a rooted node is rooted less deep. -/
theorem Rooted.above {x y : α} (h : Rooted parent x d) (ha : Above parent x y) : ∃ e ≤ d, Rooted parent y e := by
  induction ha with
  | refl => exact ⟨d, Nat.le_refl d, h⟩
  | tail _ hy ih =>
    obtain ⟨e, he, hr⟩ := ih
    cases hr with
    | root hz =>
      rw [hz] at hy
      cases hy
    | child hz hr =>
      rw [hz, Option.some.injEq] at hy
      exact ⟨_, by omega, hy ▸ hr⟩

theorem walk_rooted (h : walk parent n seen (some x) = true) : ∃ d ≤ n, Rooted parent x d := by
  induction n generalizing seen x with
  | zero => cases h
  | succ n ih =>
    unfold walk at h
    split_ifs at h
    cases hp : parent x with
    | none => exact ⟨1, by omega, .root hp⟩
    | some y =>
      rw [hp] at h
      obtain ⟨d, hd, hr⟩ := ih h
      exact ⟨d + 1, by omega, .child hp hr⟩

/-- A walk from a rooted node does not come back to what lies deeper. -/
theorem Rooted.walk (h : Rooted parent x d) (hn : d ≤ n)
    (hseen : ∀ y ∈ seen, ∀ e, Rooted parent y e → d < e) : walk parent n seen (some x) = true := by
  induction h generalizing n seen with
  | root hx =>
    obtain ⟨k, rfl⟩ : ∃ k, n = k + 1 := ⟨n - 1, by omega⟩
    unfold Ascent.walk
    rw [if_neg fun hm => Nat.lt_irrefl _ (hseen _ hm 1 (.root hx)), hx]
    cases k <;> rfl
  | @child x y d hx h ih =>
    obtain ⟨k, rfl⟩ : ∃ k, n = k + 1 := ⟨n - 1, by omega⟩
    unfold Ascent.walk
    rw [if_neg fun hm => Nat.lt_irrefl _ (hseen _ hm _ (.child hx h)), hx]
    refine ih (by omega) fun z hz e he => ?_
    rcases List.mem_cons.mp hz with rfl | hz
    · rw [he.unique (.child hx h)]
      omega
    · exact Nat.lt_of_succ_lt (hseen z hz e he)

omit [DecidableEq α] in
/-- The nodes above a rooted one are as many as it is deep, and different. -/
theorem Rooted.path (h : Rooted parent x d) :
    ∃ xs : List α, xs.length = d ∧ xs.Nodup ∧ ∀ y ∈ xs, Above parent x y ∧ ∃ e ≤ d, Rooted parent y e := by
  induction h with
  | @root x hx =>
    refine ⟨[x], rfl, List.nodup_singleton x, fun y hy => ?_⟩
    rw [List.mem_singleton.mp hy]
    exact ⟨.refl, 1, Nat.le_refl 1, .root hx⟩
  | @child x y d hx h ih =>
    obtain ⟨xs, hlen, hn, hall⟩ := ih
    refine ⟨x :: xs, by rw [List.length_cons, hlen], List.nodup_cons.mpr ⟨fun hm => ?_, hn⟩, fun z hz => ?_⟩
    · obtain ⟨-, e, he, hr⟩ := hall x hm
      have := hr.unique (.child hx h)
      omega
    · rcases List.mem_cons.mp hz with rfl | hz
      · exact ⟨.refl, d + 1, Nat.le_refl _, .child hx h⟩
      · obtain ⟨ha, e, he, hr⟩ := hall z hz
        exact ⟨.head hx ha, e, by omega, hr⟩

omit [DecidableEq α] in
theorem Above.mem_nodes {x y : α} (h : Above parent x y) (hx : x ∈ nodes)
    (hclosed : ∀ y ∈ nodes, ∀ z, parent y = some z → z ∈ nodes) : y ∈ nodes := by
  induction h with
  | refl => exact hx
  | tail _ hz ih => exact hclosed _ ih _ hz

omit [DecidableEq α] in
/-- A rooted node is no deeper than there are nodes. -/
theorem Rooted.le_length (h : Rooted parent x d) (hx : x ∈ nodes)
    (hclosed : ∀ y ∈ nodes, ∀ z, parent y = some z → z ∈ nodes) : d ≤ nodes.length := by
  obtain ⟨xs, rfl, hn, hall⟩ := h.path
  exact (List.subperm_of_subset hn fun y hy => (hall y hy).1.mem_nodes hx hclosed).length_le

theorem walk_iff (hx : x ∈ nodes) (hclosed : ∀ y ∈ nodes, ∀ z, parent y = some z → z ∈ nodes) :
    walk parent nodes.length [] (some x) = true ↔ ∃ d, Rooted parent x d := by
  constructor
  · intro h
    obtain ⟨d, -, hd⟩ := walk_rooted h
    exact ⟨d, hd⟩
  · rintro ⟨d, hd⟩
    exact hd.walk (hd.le_length hx hclosed) fun y hy => by cases hy

omit [DecidableEq α] in
/-- No rooted node is above itself. -/
theorem Rooted.not_cycle {x y : α} (h : Rooted parent x d) (hy : parent x = some y) : ¬ Above parent y x := by
  intro ha
  cases h with
  | root hx =>
    rw [hx] at hy
    cases hy
  | child hx h =>
    rw [hx, Option.some.injEq] at hy
    subst hy
    obtain ⟨e, he, hr⟩ := h.above ha
    have := hr.unique (.child hx h)
    omega

end Data.Ascent
