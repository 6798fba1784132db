/-
  Txn.Crash — a call that dies between two of its transactions, and the same call made again.

  `p.Crash s t`: the call, alone on the store `s`, may die with `t` in the store. What it has
  committed stays and nothing else does, so `t` is the store after some of its first
  transactions.

  - `crash_bind`: a crash inside `p >>= f` is a crash inside `p`, or one inside what follows it.
  - `Resumable.bind`: `p >>= f` can be made again after any crash when both parts can, and `p`
    finds nothing left to do wherever `f` may die.
-/

import Aegis.Txn.Prog

namespace Txn.Prog

variable {ℓ σ τ ε α β : Type}

inductive Crash : Prog ℓ σ ε α → σ → σ → Prop
  | here (p : Prog ℓ σ ε α) (s : σ) : Crash p s s
  | later {l : ℓ} {t : σ → σ} {k : σ → Prog ℓ σ ε α} {s u : σ} (h : Crash (k s) (t s) u) : Crash (txn l t k) s u

/-! ## Where a program may die -/

section

variable {p : Prog ℓ σ ε α} {f : α → Prog ℓ σ ε β} {l : ℓ} {s u : σ} {r : Except ε α} {e : ε} {t : σ → σ} {a : α}

@[simp] theorem crash_done : (done r : Prog ℓ σ ε α).Crash s u ↔ u = s := by
  constructor
  · intro h
    cases h
    rfl
  · intro h
    subst h
    exact .here _ _

theorem crash_txn {k : σ → Prog ℓ σ ε α} : (txn l t k).Crash s u ↔ u = s ∨ (k s).Crash (t s) u := by
  constructor
  · intro h
    cases h with
    | here => exact .inl rfl
    | later h => exact .inr h
  · intro h
    rcases h with rfl | h
    · exact .here _ _
    · exact .later h

@[simp] theorem crash_pure : (pure a : Prog ℓ σ ε α).Crash s u ↔ u = s := crash_done

@[simp] theorem crash_fail : (fail e : Prog ℓ σ ε α).Crash s u ↔ u = s := crash_done

@[simp] theorem crash_ofResult : (ofResult r : Prog ℓ σ ε α).Crash s u ↔ u = s := crash_done

@[simp] theorem crash_raiseIf {c : Prop} [Decidable c] : (raiseIf c e : Prog ℓ σ ε Unit).Crash s u ↔ u = s := by
  unfold raiseIf
  split
  · exact crash_fail
  · exact crash_pure

@[simp] theorem crash_query {g : σ → Except ε α} : (query l g).Crash s u ↔ u = s := by
  simp [query, crash_txn]

@[simp] theorem crash_read {g : σ → α} : (read l g : Prog ℓ σ ε α).Crash s u ↔ u = s := crash_query

@[simp] theorem crash_modify : (modify l t : Prog ℓ σ ε Unit).Crash s u ↔ u = s ∨ u = t s := by
  simp [modify, crash_txn]

variable {g : σ → Except ε (α × σ)}

theorem crash_atomic : (atomic l g).Crash s u ↔ u = s ∨ ∃ a, g s = .ok (a, u) := by
  simp only [atomic, crash_txn, crash_done, commit]
  cases hg : g s with
  | error e => simp
  | ok r =>
    obtain ⟨a, t⟩ := r
    simp [eq_comm]

theorem run_atomic_eq_ok : (atomic l g).run s = (.ok a, u) ↔ g s = .ok (a, u) := by
  rw [run_atomic]
  unfold answer commit
  cases hg : g s with
  | error e => simp [Except.map]
  | ok r => simp [Except.map, Prod.ext_iff]

theorem run_atomic_error (h : g s = .error e) : (atomic l g).run s = (.error e, s) := by
  rw [run_atomic]
  unfold answer commit
  rw [h]
  rfl

/-- The last crash is the one after the call's last transaction. -/
theorem crash_run (p : Prog ℓ σ ε α) (s : σ) : p.Crash s (p.run s).2 := by
  induction p generalizing s with
  | done r => exact .here _ _
  | txn l t k ih => exact .later (ih s (t s))

theorem crash_andThen {ε' : Type} {g : Except ε α → Prog ℓ σ ε' β} :
    (p.andThen g).Crash s u ↔ p.Crash s u ∨ (g (p.run s).1).Crash (p.run s).2 u := by
  induction p generalizing s with
  | done r =>
    simp only [andThen, run_done, crash_done]
    constructor
    · exact .inr
    · intro h
      rcases h with rfl | h
      · exact .here _ _
      · exact h
  | txn l t k ih =>
    simp only [andThen, crash_txn, ih, run, or_assoc]

theorem crash_bind_ok {t : σ} (h : p.run s = (.ok a, t)) : (p >>= f).Crash s u ↔ p.Crash s u ∨ (f a).Crash t u := by
  show (p.andThen _).Crash s u ↔ _
  rw [crash_andThen, h]

theorem crash_bind_error {t : σ} (h : p.run s = (.error e, t)) : (p >>= f).Crash s u ↔ p.Crash s u := by
  show (p.andThen _).Crash s u ↔ _
  rw [crash_andThen, h]
  have hlast := crash_run p s
  rw [h] at hlast
  simp only [crash_done, or_iff_left_iff_imp]
  intro hu
  subst hu
  exact hlast

theorem crash_bind : (p >>= f).Crash s u ↔ p.Crash s u ∨ ∃ a t, p.run s = (.ok a, t) ∧ (f a).Crash t u := by
  rcases hrun : p.run s with ⟨e | a, t⟩
  · rw [crash_bind_error hrun]
    simp
  · rw [crash_bind_ok hrun]
    constructor
    · intro h
      rcases h with h | h
      · exact .inl h
      · exact .inr ⟨a, t, rfl, h⟩
    · intro h
      rcases h with h | ⟨a', t', hsame, h⟩
      · exact .inl h
      · obtain ⟨rfl, rfl⟩ : a = a' ∧ t = t' := by simpa using hsame
        exact .inr h

theorem crash_zoom {L : Lens σ τ} {p : Prog ℓ τ ε α} :
    (p.zoom L).Crash s u ↔ ∃ v, p.Crash (L.get s) v ∧ u = L.set v s := by
  induction p generalizing s with
  | done r => simp [zoom, L.set_get]
  | txn l t k ih =>
    simp only [zoom, crash_txn, ih, Lens.over, L.get_set, L.set_set]
    constructor
    · intro h
      rcases h with rfl | ⟨v, hv, rfl⟩
      · exact ⟨L.get u, .inl rfl, (L.set_get u).symm⟩
      · exact ⟨v, .inr hv, rfl⟩
    · intro h
      rcases h with ⟨v, rfl | hv, rfl⟩
      · exact .inl (L.set_get s)
      · exact .inr ⟨v, hv, rfl⟩

end

/-! ## A call and its crashes, step by step -/

/-- Alone on `s` the call answers `a` and leaves `t`; dying, it leaves one of `D`. -/
structure Leads (p : Prog ℓ σ ε α) (s : σ) (D : List σ) (a : α) (t : σ) : Prop where
  run : p.run s = (.ok a, t)
  crash : ∀ u, p.Crash s u → u ∈ D

namespace Leads

variable {p : Prog ℓ σ ε α} {f : α → Prog ℓ σ ε β} {l : ℓ} {s t v : σ} {D E : List σ} {a : α} {b : β} {e : ε}

theorem bind (hp : Leads p s D a t) (hf : Leads (f a) t E b v) : Leads (p >>= f) s (D ++ E) b v := by
  refine ⟨(run_bind_ok hp.run).trans hf.run, fun u hu => ?_⟩
  rcases (crash_bind_ok hp.run).mp hu with hu | hu
  · exact List.mem_append_left _ (hp.crash u hu)
  · exact List.mem_append_right _ (hf.crash u hu)

theorem mono (hp : Leads p s D a t) (h : D ⊆ E) : Leads p s E a t := ⟨hp.run, fun u hu => h (hp.crash u hu)⟩

theorem pure (a : α) : Leads (Pure.pure a : Prog ℓ σ ε α) s [s] a s :=
  ⟨rfl, fun _ hu => List.mem_singleton.mpr (crash_pure.mp hu)⟩

theorem raiseIf {c : Prop} [Decidable c] (h : ¬ c) : Leads (Prog.raiseIf c e : Prog ℓ σ ε Unit) s [s] () s :=
  ⟨by rw [run_raiseIf, if_neg h], fun _ hu => List.mem_singleton.mpr (crash_raiseIf.mp hu)⟩

theorem ofResult {r : Except ε α} (h : r = .ok a) : Leads (Prog.ofResult r : Prog ℓ σ ε α) s [s] a s :=
  ⟨by rw [h, run_ofResult], fun _ hu => List.mem_singleton.mpr (crash_ofResult.mp hu)⟩

theorem query {g : σ → Except ε α} (h : g s = .ok a) : Leads (Prog.query l g) s [s] a s :=
  ⟨by rw [run_query, h], fun _ hu => List.mem_singleton.mpr (crash_query.mp hu)⟩

theorem read {g : σ → α} : Leads (Prog.read l g : Prog ℓ σ ε α) s [s] (g s) s := query rfl

theorem atomic {g : σ → Except ε (α × σ)} (h : g s = .ok (a, t)) : Leads (Prog.atomic l g) s [s, t] a t := by
  refine ⟨run_atomic_eq_ok.mpr h, fun u hu => ?_⟩
  rcases crash_atomic.mp hu with rfl | ⟨a', hu⟩
  · exact List.mem_cons_self
  · rw [h] at hu
    cases hu
    exact List.mem_cons_of_mem _ List.mem_cons_self

end Leads

/-! ## The call made again -/

/-- Wherever the call dies, made again it answers and leaves what it would have, had it not died. -/
def Resumable (p : Prog ℓ σ ε α) (s : σ) : Prop := ∀ u, p.Crash s u → p.run u = p.run s

namespace Resumable

variable {p : Prog ℓ σ ε α} {f : α → Prog ℓ σ ε β} {s : σ}

/-- A call made twice is a call made once. -/
theorem again (h : Resumable p s) : p.run (p.run s).2 = p.run s := h _ (crash_run p s)

theorem bind (hp : Resumable p s)
    (hf : ∀ a t, p.run s = (.ok a, t) → Resumable (f a) t ∧ ∀ u, (f a).Crash t u → p.run u = (.ok a, u)) :
    Resumable (p >>= f) s := by
  intro u hu
  rcases crash_bind.mp hu with hu | ⟨a, t, hrun, hu⟩
  · rw [run_bind, run_bind, hp u hu]
  · obtain ⟨hresume, hidle⟩ := hf a t hrun
    calc (p >>= f).run u = (f a).run u := run_bind_ok (hidle u hu)
      _ = (f a).run t := hresume u hu
      _ = (p >>= f).run s := (run_bind_ok hrun).symm

theorem zoom {L : Lens σ τ} {p : Prog ℓ τ ε α} (h : Resumable p (L.get s)) : Resumable (p.zoom L) s := by
  intro u hu
  obtain ⟨v, hv, rfl⟩ := crash_zoom.mp hu
  rw [run_zoom, run_zoom, L.get_set, L.set_set, h v hv]

end Resumable

end Txn.Prog
