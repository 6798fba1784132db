/-
  Data.Passes — a set that grows until a pass over the items adds nothing.

  `while changed: for x, sources in items: if any(s in result for s in sources): result.add(x)`.
  A pass that changes something adds an item, so the loop ends, and what it ends with is what is
  reached from the start (`settle_spec`). `neighbours` is the other half: which item stands before
  which in a list, told by the order of the list (`mem_neighbours`).
-/

import Mathlib.Data.List.Nodup
import Mathlib.Data.List.Perm.Subperm
import Mathlib.Logic.Relation

namespace Data.Passes

/-! ## The loop -/

section Settle

variable {α : Type} [DecidableEq α]

/-- The body of the loop: one pass over the items, and whether it changed anything. -/
def pass : List (α × List α) → List α → List α × Bool
  | [], result => (result, false)
  | (x, sources) :: items, result =>
    if x ∈ result then pass items result
    else if ∃ s ∈ sources, s ∈ result then ((pass items (result ++ [x])).1, true)
    else pass items result

/-- `while changed`, for `n` passes at most; a loop that needs more has not ended. -/
def settle (items : List (α × List α)) : Nat → List α → Option (List α)
  | 0, _ => none
  | n + 1, result =>
    match pass items result with
    | (result', true) => settle items n result'
    | (result', false) => some result'

/-- `x` has `s` among its sources. -/
def Source (items : List (α × List α)) (s x : α) : Prop := ∃ sources, (x, sources) ∈ items ∧ s ∈ sources

/-- What a pass adds: items with a source in the result, each once; and a pass that adds nothing finds the result closed. -/
theorem pass_spec (items : List (α × List α)) (result : List α) :
    ∃ new changed, pass items result = (result ++ new, changed) ∧ (changed = true → new ≠ []) ∧
      (∀ x ∈ new, x ∈ items.map (·.1) ∧ ∃ r ∈ result, Relation.TransGen (Source items) r x) ∧ (result.Nodup → (result ++ new).Nodup) ∧
      (changed = false → new = [] ∧ ∀ s x, Source items s x → s ∈ result → x ∈ result) := by
  induction items generalizing result with
  | nil => exact ⟨[], false, by simp [pass], nofun, nofun, by simp, fun _ => ⟨rfl, fun s x ⟨_, h, _⟩ => nomatch h⟩⟩
  | cons item items ih =>
    obtain ⟨x, sources⟩ := item
    have hlater : ∀ {s y : α}, Source items s y → Source ((x, sources) :: items) s y := fun ⟨ss, hin, hs⟩ =>
      ⟨ss, List.mem_cons_of_mem _ hin, hs⟩
    have hkeep : ∀ {new : List α} {res : List α}, (∀ y ∈ new, y ∈ items.map (·.1) ∧ ∃ r ∈ res, Relation.TransGen (Source items) r y) →
        ∀ y ∈ new, y ∈ ((x, sources) :: items).map (·.1) ∧ ∃ r ∈ res, Relation.TransGen (Source ((x, sources) :: items)) r y :=
      fun h y hy => ⟨List.mem_cons_of_mem _ (h y hy).1, (h y hy).2.imp fun r hr => ⟨hr.1, Relation.TransGen.mono (fun _ _ => hlater) _ _ hr.2⟩⟩
    have hskip : (∀ s ∈ sources, s ∈ result → x ∈ result) → ∀ s y, Source ((x, sources) :: items) s y → s ∈ result →
        (Source items s y → y ∈ result) → y ∈ result := by
      rintro hx s y ⟨ss, hin, hs⟩ hsr hrest
      rcases List.mem_cons.mp hin with heq | hin
      · obtain ⟨rfl, rfl⟩ := Prod.mk.inj heq
        exact hx s hs hsr
      · exact hrest ⟨ss, hin, hs⟩
    unfold pass
    by_cases hx : x ∈ result
    · rw [if_pos hx]
      obtain ⟨new, changed, he, hne, hnew, hnodup, hclosed⟩ := ih result
      refine ⟨new, changed, he, hne, hkeep hnew, hnodup, fun hc => ⟨(hclosed hc).1, fun s y hsy hs => ?_⟩⟩
      exact hskip (fun _ _ _ => hx) s y hsy hs fun h => (hclosed hc).2 s y h hs
    · rw [if_neg hx]
      by_cases hs : ∃ s ∈ sources, s ∈ result
      · rw [if_pos hs]
        obtain ⟨new, changed, he, -, hnew, hnodup, -⟩ := ih (result ++ [x])
        obtain ⟨s, hsource, hsr⟩ := hs
        have hstep : Relation.TransGen (Source ((x, sources) :: items)) s x := .single ⟨sources, List.mem_cons_self, hsource⟩
        refine ⟨x :: new, true, by rw [he, List.append_assoc]; rfl, fun _ => List.cons_ne_nil _ _, fun y hy => ?_, fun hn => ?_, nofun⟩
        · rcases List.mem_cons.mp hy with rfl | hy
          · exact ⟨List.mem_cons_self, s, hsr, hstep⟩
          · obtain ⟨hin, r, hr, hpath⟩ := hkeep hnew y hy
            refine ⟨hin, ?_⟩
            rcases List.mem_append.mp hr with hr | hr
            · exact ⟨r, hr, hpath⟩
            · rw [List.mem_singleton] at hr
              exact ⟨s, hsr, hstep.trans (hr ▸ hpath)⟩
        · have hn' : (result ++ [x]).Nodup :=
            List.nodup_append.mpr ⟨hn, List.nodup_singleton x, fun a ha b hb hab => hx (List.mem_singleton.mp hb ▸ hab ▸ ha)⟩
          simpa using hnodup hn'
      · rw [if_neg hs]
        obtain ⟨new, changed, he, hne, hnew, hnodup, hclosed⟩ := ih result
        refine ⟨new, changed, he, hne, hkeep hnew, hnodup, fun hc => ⟨(hclosed hc).1, fun s y hsy hsr => ?_⟩⟩
        exact hskip (fun s' h h' => absurd ⟨s', h, h'⟩ hs) s y hsy hsr fun h => (hclosed hc).2 s y h hsr

/-- The loop ends, and what it ends with is what is reached from the start. -/
theorem settle_spec (items : List (α × List α)) {start : List α} (hn : start.Nodup) :
    ∃ result, settle items (items.length + 1) start = some result ∧ result.Nodup ∧
      ∀ x, x ∈ result ↔ ∃ s ∈ start, Relation.ReflTransGen (Source items) s x := by
  have hloop : ∀ (n : Nat) (added : List α), (start ++ added).Nodup → added ⊆ items.map (·.1) → items.length < n + added.length →
      (∀ x ∈ added, ∃ s ∈ start, Relation.ReflTransGen (Source items) s x) →
      ∃ result, settle items n (start ++ added) = some result ∧ result.Nodup ∧
        ∀ x, x ∈ result ↔ ∃ s ∈ start, Relation.ReflTransGen (Source items) s x := by
    intro n
    induction n with
    | zero =>
      intro added hnodup hsub hlt
      have hle := (List.subperm_of_subset (List.nodup_append.mp hnodup).2.1 hsub).length_le
      rw [List.length_map] at hle
      omega
    | succ n ih =>
      intro added hnodup hsub hlt hreached
      have hreached' : ∀ r ∈ start ++ added, ∃ s ∈ start, Relation.ReflTransGen (Source items) s r := by
        intro r hr
        rcases List.mem_append.mp hr with hr | hr
        · exact ⟨r, hr, .refl⟩
        · exact hreached r hr
      obtain ⟨new, changed, he, hne, hnew, hkeep, hclosed⟩ := pass_spec items (start ++ added)
      unfold settle
      rw [he]
      cases changed with
      | true =>
        have hpos := List.length_pos_iff.mpr (hne rfl)
        dsimp only
        rw [List.append_assoc]
        refine ih (added ++ new) (by simpa using hkeep hnodup) (List.append_subset.mpr ⟨hsub, fun x hx => (hnew x hx).1⟩)
          (by rw [List.length_append]; omega) fun x hx => ?_
        rcases List.mem_append.mp hx with hx | hx
        · exact hreached x hx
        · obtain ⟨-, r, hr, hpath⟩ := hnew x hx
          obtain ⟨s, hs, hsr⟩ := hreached' r hr
          exact ⟨s, hs, hsr.trans hpath.to_reflTransGen⟩
      | false =>
        obtain ⟨hnil, hstop⟩ := hclosed rfl
        subst hnil
        refine ⟨_, rfl, hkeep hnodup, fun x => ?_⟩
        rw [List.append_nil]
        constructor
        · exact hreached' x
        · rintro ⟨s, hs, hpath⟩
          induction hpath with
          | refl => exact List.mem_append_left _ hs
          | tail _ hstep ih => exact hstop _ _ hstep ih
  obtain ⟨result, he, hspec⟩ := hloop (items.length + 1) [] (by simpa using hn) (List.nil_subset _) (by simp) nofun
  rw [List.append_nil] at he
  exact ⟨result, he, hspec⟩

end Settle

/-! ## Neighbours -/

section Neighbours

variable {α : Type}

/-- The loop `for x in xs: …; prior = x`: every item with the one before it. -/
def neighbours : Option α → List α → List (α × Option α)
  | _, [] => []
  | prior, x :: xs => (x, prior) :: neighbours (some x) xs

theorem map_neighbours (prior : Option α) (xs : List α) : (neighbours prior xs).map (·.1) = xs := by
  induction xs generalizing prior with
  | nil => rfl
  | cons x xs ih => rw [neighbours, List.map_cons, ih]

/-- In a list in strictly increasing order the item before `x` is the greatest of those less than `x`. -/
theorem mem_neighbours {r : α → α → Prop} (hirrefl : ∀ a, ¬ r a a) (hasymm : ∀ a b, r a b → ¬ r b a) {xs : List α} (hr : xs.Pairwise r)
    {p x : α} : (x, some p) ∈ neighbours none xs ↔ p ∈ xs ∧ x ∈ xs ∧ r p x ∧ ∀ c ∈ xs, r p c → ¬ r c x := by
  have hstep : ∀ (prior : Option α) (xs : List α), (x, some p) ∈ neighbours prior xs ↔
      (prior = some p ∧ xs.head? = some x) ∨ ∃ before after, xs = before ++ p :: x :: after := by
    intro prior xs
    induction xs generalizing prior with
    | nil => simp [neighbours]
    | cons y ys ih =>
      rw [neighbours, List.mem_cons, ih, Prod.mk.injEq, List.head?_cons, Option.some.injEq]
      constructor
      · rintro (⟨rfl, hp⟩ | ⟨hy, hhead⟩ | ⟨before, after, rfl⟩)
        · exact .inl ⟨hp.symm, rfl⟩
        · subst hy
          obtain ⟨after, rfl⟩ := List.head?_eq_some_iff.mp hhead
          exact .inr ⟨[], after, rfl⟩
        · exact .inr ⟨y :: before, after, rfl⟩
      · rintro (⟨rfl, hy⟩ | ⟨before, after, he⟩)
        · exact .inl ⟨(Option.some.inj hy).symm, rfl⟩
        · cases before with
          | nil =>
            obtain ⟨rfl, rfl⟩ := List.cons.inj he
            exact .inr (.inl ⟨rfl, rfl⟩)
          | cons b before =>
            obtain ⟨rfl, rfl⟩ := List.cons.inj he
            exact .inr (.inr ⟨before, after, rfl⟩)
  rw [hstep]
  constructor
  · rintro (⟨h, -⟩ | ⟨before, after, rfl⟩)
    · cases h
    · obtain ⟨-, hrest, hbefore⟩ := List.pairwise_append.mp hr
      obtain ⟨hp, hx⟩ := List.pairwise_cons.mp hrest
      obtain ⟨hx, -⟩ := List.pairwise_cons.mp hx
      refine ⟨by simp, by simp, hp x List.mem_cons_self, fun c hc hpc => ?_⟩
      rcases List.mem_append.mp hc with hc | hc
      · exact absurd (hbefore c hc p List.mem_cons_self) (hasymm p c hpc)
      · rcases List.mem_cons.mp hc with rfl | hc
        · exact absurd hpc (hirrefl c)
        · rcases List.mem_cons.mp hc with rfl | hc
          · exact hirrefl c
          · exact hasymm x c (hx c hc)
  · rintro ⟨hp, hx, hpx, hnone⟩
    obtain ⟨before, rest, rfl⟩ := List.append_of_mem hp
    obtain ⟨-, hrest, hbefore⟩ := List.pairwise_append.mp hr
    obtain ⟨hlater, htail⟩ := List.pairwise_cons.mp hrest
    have hxrest : x ∈ rest := by
      rcases List.mem_append.mp hx with hx | hx
      · exact absurd (hbefore x hx p List.mem_cons_self) (hasymm p x hpx)
      · exact (List.mem_cons.mp hx).resolve_left fun heq => hirrefl p (heq ▸ hpx)
    cases rest with
    | nil => cases hxrest
    | cons c after =>
      rcases List.mem_cons.mp hxrest with rfl | hxafter
      · exact .inr ⟨before, after, rfl⟩
      · have hcx := (List.pairwise_cons.mp htail).1 x hxafter
        exact absurd hcx (hnone c (by simp) (hlater c List.mem_cons_self))

end Neighbours

end Data.Passes
