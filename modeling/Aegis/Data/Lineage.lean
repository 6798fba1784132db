/-
  Data.Lineage — versions that follow each other, step by step.

  `Along step a ss b`: the steps `ss` lead from `a` to `b`. What every step keeps holds at the end
  (`Along.keeps`); what every step hands on, some successor of each item of `a`, is handed on from
  the beginning to the end, along a line of its own (`Along.carry`); and what every step makes hold
  between two versions holds between any neighbours of the line (`Along.chain`).
-/

import Mathlib.Data.List.Chain

namespace Data

variable {α β σ : Type}

/-- The steps `ss` lead from `a` to `b`, one after the other. -/
def Along (step : α → σ → α → Prop) (a : α) : List σ → α → Prop
  | [], b => a = b
  | s :: ss, b => ∃ c, step a s c ∧ Along step c ss b

namespace Along

variable {step : α → σ → α → Prop} {link : β → σ → β → Prop} {a b c : α} {s : σ} {ss ts : List σ}

@[simp] theorem nil : Along step a [] b ↔ a = b := Iff.rfl

@[simp] theorem cons : Along step a (s :: ss) b ↔ ∃ c, step a s c ∧ Along step c ss b := Iff.rfl

theorem append : Along step a (ss ++ ts) b ↔ ∃ c, Along step a ss c ∧ Along step c ts b := by
  induction ss generalizing a with
  | nil => simp
  | cons s ss ih =>
    rw [List.cons_append, cons]
    constructor
    · rintro ⟨c, hs, hrest⟩
      obtain ⟨d, hss, hts⟩ := ih.mp hrest
      exact ⟨d, ⟨c, hs, hss⟩, hts⟩
    · rintro ⟨d, ⟨c, hs, hss⟩, hts⟩
      exact ⟨c, hs, ih.mpr ⟨d, hss, hts⟩⟩

/-- A step of the line, with what came before it and after. -/
theorem split (h : Along step a ss b) (hs : s ∈ ss) :
    ∃ before after c d, ss = before ++ s :: after ∧ Along step a before c ∧ step c s d ∧ Along step d after b := by
  obtain ⟨before, after, rfl⟩ := List.append_of_mem hs
  obtain ⟨c, hbefore, d, hstep, hafter⟩ := append.mp h
  exact ⟨before, after, c, d, rfl, hbefore, hstep, hafter⟩

/-- An invariant of the steps made so far and where they led. -/
theorem history {I : List σ → α → Prop} (hstep : ∀ ts a s c, step a s c → I ts a → I (ts ++ [s]) c) (h : Along step a ss b)
    (ha : I ts a) : I (ts ++ ss) b := by
  induction ss generalizing a ts with
  | nil =>
    rw [List.append_nil]
    exact nil.mp h ▸ ha
  | cons s ss ih =>
    obtain ⟨c, hs, hrest⟩ := h
    have hnext := ih hrest (hstep ts a s c hs ha)
    rwa [List.append_assoc, List.singleton_append] at hnext

/-- What every step hands on is handed on from the beginning to the end. -/
theorem carry {P : α → β → Prop} (hstep : ∀ a s c, step a s c → ∀ x, P a x → ∃ y, P c y ∧ link x s y) (h : Along step a ss b)
    {x : β} (hx : P a x) : ∃ y, P b y ∧ Along link x ss y := by
  induction ss generalizing a x with
  | nil => exact ⟨x, nil.mp h ▸ hx, rfl⟩
  | cons s ss ih =>
    obtain ⟨c, hs, hrest⟩ := h
    obtain ⟨y, hy, hxy⟩ := hstep a s c hs x hx
    obtain ⟨z, hz, hyz⟩ := ih hrest hy
    exact ⟨z, hz, y, hxy, hyz⟩

/-- The versions of a line, from the first on, when each step says what it leads to. -/
theorem chain {R : α → α → Prop} {out : σ → α} (hstep : ∀ a s c, step a s c → out s = c ∧ R a c) (h : Along step a ss b) :
    (a :: ss.map out).IsChain R := by
  induction ss generalizing a with
  | nil => exact .singleton a
  | cons s ss ih =>
    obtain ⟨c, hs, hrest⟩ := h
    obtain ⟨hout, hR⟩ := hstep a s c hs
    rw [List.map_cons, List.isChain_cons_cons, hout]
    exact ⟨hR, ih hrest⟩

/-- Something true at the beginning is true at the end, or there is a step that made it false first. -/
theorem keeps_until {I : α → Prop} (h : Along step a ss b) (ha : I a) :
    I b ∨ ∃ before s after c d, ss = before ++ s :: after ∧ step c s d ∧ I c ∧ ¬ I d ∧ Along step d after b := by
  induction ss generalizing a with
  | nil => exact .inl (nil.mp h ▸ ha)
  | cons s ss ih =>
    obtain ⟨c, hs, hrest⟩ := h
    by_cases hc : I c
    · rcases ih hrest hc with hb | ⟨before, t, after, d, e, rfl, hstep, hd, he, hafter⟩
      · exact .inl hb
      · exact .inr ⟨s :: before, t, after, d, e, rfl, hstep, hd, he, hafter⟩
    · exact .inr ⟨[], s, ss, a, c, rfl, hs, ha, hc, hrest⟩

end Along

end Data
