/-
  Data.Commuting — steps taken one after the other, and when their order does not matter.

  Two steps commute where taking them in the other order leaves the same state and gives the same
  answers (`Commutes`). A step moves past those it commutes with (`runAll_bubble`), so two orders of
  the same steps in which the others keep their places give the same answers (`runAll_perm`).
-/

import Mathlib.Data.List.Perm.Basic
import Mathlib.Data.List.Nodup

namespace Data.Commuting

variable {σ α β ε : Type} (step : σ → α → Except ε (σ × β))

/-- The answers of the steps, and the state they leave. -/
def runAll (s : σ) : List α → Except ε (List β × σ)
  | [] => .ok ([], s)
  | a :: as =>
    match step s a with
    | .error e => .error e
    | .ok (s', y) =>
      match runAll s' as with
      | .error e => .error e
      | .ok (ys, s'') => .ok (y :: ys, s'')

/-- `a` and then `b` is as good as `b` and then `a`. -/
def Commutes (a b : α) : Prop := ∀ s s' s'' x y, step s a = .ok (s', x) → step s' b = .ok (s'', y) →
  ∃ t, step s b = .ok (t, y) ∧ step t a = .ok (s'', x)

variable {step}

theorem runAll_cons {s s'' : σ} {a : α} {as : List α} {r : List β} :
    runAll step s (a :: as) = .ok (r, s'') ↔ ∃ s' y ys, step s a = .ok (s', y) ∧ runAll step s' as = .ok (ys, s'') ∧ r = y :: ys := by
  rw [show runAll step s (a :: as) = match step s a with
    | .error e => .error e
    | .ok (s', y) =>
      match runAll step s' as with
      | .error e => .error e
      | .ok (ys, s'') => .ok (y :: ys, s'') from rfl]
  cases h : step s a with
  | error e => simp
  | ok p =>
    obtain ⟨s', y⟩ := p
    cases h' : runAll step s' as with
    | error e => simp [h']
    | ok q =>
      obtain ⟨ys, t⟩ := q
      dsimp only
      rw [h']
      constructor
      · intro he
        simp only [Except.ok.injEq, Prod.mk.injEq] at he
        obtain ⟨rfl, rfl⟩ := he
        exact ⟨s', y, ys, rfl, h', rfl⟩
      · intro hex
        obtain ⟨_, _, zs, he, hrun, rfl⟩ := hex
        simp only [Except.ok.injEq, Prod.mk.injEq] at he
        obtain ⟨rfl, rfl⟩ := he
        rw [h'] at hrun
        simp only [Except.ok.injEq, Prod.mk.injEq] at hrun
        obtain ⟨rfl, rfl⟩ := hrun
        rfl

variable {before after : List α} {ys : List β}

/-- A step can be taken after those it commutes with. -/
theorem runAll_bubble {a : α} (h : ∀ b ∈ before, Commutes step a b) {s s' : σ}
    (hrun : runAll step s (a :: (before ++ after)) = .ok (ys, s')) :
    ∃ ys', runAll step s (before ++ a :: after) = .ok (ys', s') ∧ ys.Perm ys' := by
  induction before generalizing s ys with
  | nil => exact ⟨ys, hrun, .refl ys⟩
  | cons b before ih =>
    obtain ⟨s1, x, rest, ha, hrest, rfl⟩ := runAll_cons.mp hrun
    obtain ⟨s2, y, zs, hb, hzs, rfl⟩ := runAll_cons.mp hrest
    obtain ⟨t, hb', ha'⟩ := h b List.mem_cons_self s s1 s2 x y ha hb
    obtain ⟨ys', hrun', hperm⟩ := ih (fun c hc => h c (List.mem_cons_of_mem _ hc)) (runAll_cons.mpr ⟨s2, x, zs, ha', hzs, rfl⟩)
    refine ⟨y :: ys', runAll_cons.mpr ⟨t, y, ys', hb', hrun', rfl⟩, ?_⟩
    exact (List.Perm.swap y x zs).trans (hperm.cons y)

theorem sublist_of_pair {a b : α} (h : [a, b].Sublist (before ++ a :: after)) (ha : a ∉ before) : b ∈ after := by
  induction before with
  | nil =>
    cases h with
    | cons _ h => exact h.subset (by simp)
    | cons_cons _ h => exact h.subset (by simp)
  | cons c before ih =>
    rw [List.mem_cons, not_or] at ha
    cases h with
    | cons _ h => exact ih h ha.2
    | cons_cons _ h => exact absurd rfl ha.1

theorem pair_sublist_remove {a x y : α} (hx : x ≠ a) (hy : y ≠ a)
    (h : [x, y].Sublist (before ++ a :: after)) : [x, y].Sublist (before ++ after) := by
  classical
  have hfilter := h.filter fun z => z ≠ a
  have hsub : ((before ++ a :: after).filter fun z => z ≠ a).Sublist (before ++ after) := by
    rw [List.filter_append, List.filter_cons_of_neg (by simp)]
    exact List.filter_sublist.append List.filter_sublist
  have hpair : ([x, y].filter fun z => z ≠ a) = [x, y] := by
    rw [List.filter_cons_of_pos (by simpa using hx), List.filter_cons_of_pos (by simpa using hy), List.filter_nil]
  rw [hpair] at hfilter
  exact hfilter.trans hsub

/-- Two orders of the same steps, in which those that do not commute come in the same order. -/
theorem runAll_perm {as bs : List α} (hperm : as.Perm bs) (hn : as.Nodup)
    (horder : ∀ a b, [a, b].Sublist as → ¬ Commutes step a b → [a, b].Sublist bs) {s s' : σ}
    (hrun : runAll step s as = .ok (ys, s')) : ∃ ys', runAll step s bs = .ok (ys', s') ∧ ys.Perm ys' := by
  induction as generalizing bs s ys with
  | nil =>
    have hnil : bs = [] := hperm.nil_eq.symm
    rw [hnil]
    exact ⟨ys, hrun, .refl ys⟩
  | cons a as ih =>
    obtain ⟨before, after, rfl⟩ := List.append_of_mem (hperm.subset List.mem_cons_self)
    rw [List.nodup_cons] at hn
    have hrest : as.Perm (before ++ after) := (hperm.trans List.perm_middle).cons_inv
    have hnodup : (before ++ a :: after).Nodup := hperm.nodup_iff.mp (List.nodup_cons.mpr hn)
    have hnotin : a ∉ before ++ after := fun hin => hn.1 (hrest.mem_iff.mpr hin)
    have hbefore : a ∉ before := fun hin => hnotin (List.mem_append_left _ hin)
    have hcommutes : ∀ b ∈ before, Commutes step a b := by
      intro b hb
      by_contra hno
      have hin : b ∈ as := hrest.mem_iff.mpr (List.mem_append_left _ hb)
      have hafter := sublist_of_pair (horder a b ((List.singleton_sublist.mpr hin).cons_cons a) hno) hbefore
      exact (List.nodup_append.mp hnodup).2.2 b hb b (List.mem_cons_of_mem _ hafter) rfl
    obtain ⟨s1, x, zs, ha, hzs, rfl⟩ := runAll_cons.mp hrun
    have horder' : ∀ x y, [x, y].Sublist as → ¬ Commutes step x y → [x, y].Sublist (before ++ after) := by
      intro x y hxy hno
      have hx : x ≠ a := fun he => hn.1 (he ▸ hxy.subset (by simp))
      have hy : y ≠ a := fun he => hn.1 (he ▸ hxy.subset (by simp))
      exact pair_sublist_remove hx hy (horder x y (hxy.cons a) hno)
    obtain ⟨zs', hzs', hpermzs⟩ := ih hrest hn.2 horder' hzs
    obtain ⟨ys', hys', hpermys⟩ := runAll_bubble hcommutes (runAll_cons.mpr ⟨s1, x, zs', ha, hzs', rfl⟩)
    exact ⟨ys', hys', (hpermzs.cons x).trans hpermys⟩

end Data.Commuting
