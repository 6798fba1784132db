/-
  Aegis.Assurance.MaskedExceptions — what the P6-D rating hides.

  A control has one status, and one that lacks a case or a boundary is not evaluated, whatever is waived
  of it. So a critical control with a permitted exception is masked where exceptions to critical controls
  are red and missing evaluation is not.

  - `overallRating_red`: the rating is red for the controls that should make it so and are not masked.
  - `rating_honest_iff`: the rating hides nothing, and never improves when a case is waived or removed,
    exactly when no control is masked or another makes it red.
  - `amber_critical`: a masked control alone is rated amber.
-/

import Aegis.Assurance.Agreement

namespace Aegis.Assurance.Posture

open Data Data.Checks
open Evolution (VerifiedCorpusEvolution mem_sortedTexts)
open Waivers (VerifiedWaiverGovernance)

def PostureRating.rank : PostureRating → Nat
  | .green => 0
  | .amber => 1
  | .red => 2

section
variable (policy : SecurityPosturePolicy) (corpus : AssuranceCorpus) (waived : List String) (c : SecurityControlObjective)

/-! ## A control -/

/-- A case that the control maps is waived. -/
def Waived : Prop := ∃ i ∈ c.mappedCaseIds, i ∈ waived

/-- The control lacks a case or a boundary. -/
def Lacking : Prop := (∃ i ∈ c.mappedCaseIds, i ∉ corpus.ids) ∨ ∃ b ∈ c.requiredBoundaries, b ∉ corpus.cases.map AssuranceCase.boundary

/-- What the rating has to be red for. -/
def ShouldBeRed : Prop :=
  (Waived waived c ∧ (c.exceptionPermitted = false ∨ (policy.criticalExceptionIsRed = true ∧ c.severity = .critical))) ∨
    (Lacking corpus c ∧ policy.highOrCriticalNotEvaluatedIsRed = true ∧ (c.severity = .high ∨ c.severity = .critical))

/-- A permitted exception of a critical control that lacks something, where only the exception is red. -/
structure Masked : Prop where
  waived : Waived waived c
  lacking : Lacking corpus c
  critical : c.severity = .critical
  permitted : c.exceptionPermitted = true
  exceptionRed : policy.criticalExceptionIsRed = true
  lackingAmber : policy.highOrCriticalNotEvaluatedIsRed = false

variable {policy corpus waived c}

theorem exceptionCases_ne_nil : exceptionCases waived c ≠ [] ↔ Waived waived c := by
  simp only [ne_eq, List.eq_nil_iff_forall_not_mem, exceptionCases, mem_sortedTexts, List.mem_filter, decide_eq_true_eq, not_forall,
    not_not, Waived]

theorem missing_ne_nil : (missingCases corpus c ≠ [] ∨ missingBoundaries corpus c ≠ []) ↔ Lacking corpus c := by
  simp only [ne_eq, List.eq_nil_iff_forall_not_mem, missingCases, missingBoundaries, mem_sortedTexts, List.mem_filter, decide_eq_true_eq,
    not_forall, not_not, Lacking]

theorem status_eq_satisfied : status corpus waived c = .satisfied ↔ ¬ Waived waived c ∧ ¬ Lacking corpus c := by
  unfold status
  split_ifs with hdenied hlacking hwaived <;> simp only [exceptionCases_ne_nil, missing_ne_nil] at *
  · exact iff_of_false (by decide) fun h => h.1 hdenied.1
  · exact iff_of_false (by decide) fun h => h.2 hlacking
  · exact iff_of_false (by decide) fun h => h.1 hwaived
  · exact iff_of_true trivial ⟨hwaived, hlacking⟩

/-- A control makes the rating red when it should, unless it is masked. -/
theorem isRed_iff : IsRed policy c (status corpus waived c) ↔ ShouldBeRed policy corpus waived c ∧ ¬ Masked policy corpus waived c := by
  unfold status
  split_ifs with hdenied hlacking hwaived <;> simp only [exceptionCases_ne_nil, missing_ne_nil] at *
  · -- an exception that is not permitted
    refine iff_of_true (.inl hdenied.2) ⟨.inl ⟨hdenied.1, .inl hdenied.2⟩, fun hmasked => ?_⟩
    exact absurd (hdenied.2.symm.trans hmasked.permitted) (by decide)
  · constructor
    · intro hred
      exact ⟨.inr ⟨hlacking, hred⟩, fun hmasked => absurd (hred.1.symm.trans hmasked.lackingAmber) (by decide)⟩
    · intro h
      obtain ⟨hshould, hno⟩ := h
      rcases hshould with ⟨hwaived, hdeny | ⟨hflag, hcritical⟩⟩ | ⟨-, hred⟩
      · exact absurd ⟨hwaived, hdeny⟩ hdenied
      · by_contra hamber
        have hpermitted : c.exceptionPermitted = true := by
          cases hp : c.exceptionPermitted with
          | true => rfl
          | false => exact absurd ⟨hwaived, hp⟩ hdenied
        have hflag' : policy.highOrCriticalNotEvaluatedIsRed = false := by
          cases hh : policy.highOrCriticalNotEvaluatedIsRed with
          | false => rfl
          | true => exact absurd ⟨hh, .inr hcritical⟩ hamber
        exact hno ⟨hwaived, hlacking, hcritical, hpermitted, hflag, hflag'⟩
      · exact hred
  · constructor
    · intro hred
      exact ⟨.inl ⟨hwaived, hred⟩, fun hmasked => hlacking hmasked.lacking⟩
    · intro h
      rcases h.1 with ⟨-, hred⟩ | ⟨hlacks, -⟩
      · exact hred
      · exact absurd hlacks hlacking
  · refine iff_of_false not_false fun h => ?_
    rcases h.1 with ⟨hwaives, -⟩ | ⟨hlacks, -⟩
    · exact hwaived hwaives
    · exact hlacking hlacks

/-! ## The rating -/

variable {controls : List SecurityControlObjective}

theorem overallRating_red : overallRating policy corpus waived controls = .red ↔
    ∃ c ∈ controls, ShouldBeRed policy corpus waived c ∧ ¬ Masked policy corpus waived c := by
  simp only [← isRed_iff, overallRating]
  split_ifs with hred hamber
  · exact iff_of_true rfl hred
  · exact iff_of_false (by decide) hred
  · exact iff_of_false (by decide) hred

theorem overallRating_green : overallRating policy corpus waived controls = .green ↔
    ∀ c ∈ controls, ¬ Waived waived c ∧ ¬ Lacking corpus c := by
  simp only [← status_eq_satisfied, overallRating]
  split_ifs with hred hamber
  · obtain ⟨c, hc, hred⟩ := hred
    refine iff_of_false (by decide) fun hall => ?_
    rw [hall c hc] at hred
    exact hred
  · obtain ⟨c, hc, hne⟩ := hamber
    exact iff_of_false (by decide) fun hall => hne (hall c hc)
  · refine iff_of_true rfl fun c hc => ?_
    by_contra hne
    exact hamber ⟨c, hc, hne⟩

theorem rank_le {r s : PostureRating} (hred : r = .red → s = .red) (hgreen : s = .green → r = .green) : r.rank ≤ s.rank := by
  cases r <;> cases s <;> simp_all [PostureRating.rank]

/-! ## What is worse -/

/-- Whatever is waived is waived, and no case or boundary is there that was not. -/
structure NoBetter (corpus corpus' : AssuranceCorpus) (waived waived' : List String) : Prop where
  waived : ∀ i ∈ waived, i ∈ waived'
  cases : ∀ i ∈ corpus'.ids, i ∈ corpus.ids
  boundaries : ∀ b ∈ corpus'.cases.map AssuranceCase.boundary, b ∈ corpus.cases.map AssuranceCase.boundary

variable {corpus' : AssuranceCorpus} {waived' : List String}

theorem NoBetter.waives (h : NoBetter corpus corpus' waived waived') (hw : Waived waived c) : Waived waived' c := by
  obtain ⟨i, hi, hin⟩ := hw
  exact ⟨i, hi, h.waived i hin⟩

theorem NoBetter.lacks (h : NoBetter corpus corpus' waived waived') (hl : Lacking corpus c) : Lacking corpus' c := by
  rcases hl with ⟨i, hi, hno⟩ | ⟨b, hb, hno⟩
  · exact .inl ⟨i, hi, fun hin => hno (h.cases i hin)⟩
  · exact .inr ⟨b, hb, fun hin => hno (h.boundaries b hin)⟩

end

section
variable (rt : Runtime) (catalog : SecurityControlCatalog)

/-- The rating tells the worst of the findings, and is no better than that of any run over the same controls with the same
    flags in which no more is waived and no less is there. -/
structure Honest (policy : SecurityPosturePolicy) (corpus : AssuranceCorpus) (waived : List String) (rating : PostureRating) : Prop where
  green : rating = .green ↔ ∀ c ∈ catalog.controls, ¬ Waived waived c ∧ ¬ Lacking corpus c
  red : (∃ c ∈ catalog.controls, ShouldBeRed policy corpus waived c) → rating = .red
  worse : ∀ policy' request' corpus' w' evolution' v', evaluate rt catalog policy' request' corpus' w' evolution' = .ok v' →
    policy'.criticalExceptionIsRed = policy.criticalExceptionIsRed →
    policy'.highOrCriticalNotEvaluatedIsRed = policy.highOrCriticalNotEvaluatedIsRed →
    NoBetter corpus' corpus w'.approvedWaivedCaseIds waived → v'.overallRating.rank ≤ rating.rank

variable {rt catalog} {policy : SecurityPosturePolicy} {request : SecurityPostureRequest} {corpus : AssuranceCorpus}
  {w : VerifiedWaiverGovernance} {evolution : VerifiedCorpusEvolution} {v : VerifiedSecurityPosture}

theorem evaluate_rating (h : evaluate rt catalog policy request corpus w evolution = .ok v) :
    v.overallRating = overallRating policy corpus w.approvedWaivedCaseIds (sortedControls catalog) := by
  simp only [evaluate, ok_seq] at h
  obtain ⟨-, -, -, -, -, -, -, he⟩ := h
  rw [← Except.ok.inj he, posture]

theorem mem_sortedControls {c : SecurityControlObjective} : c ∈ sortedControls catalog ↔ c ∈ catalog.controls := mem_sortOn

/-- The rating is honest exactly when no control is masked, or another makes it red. -/
theorem rating_honest_iff (h : evaluate rt catalog policy request corpus w evolution = .ok v) :
    Honest rt catalog policy corpus w.approvedWaivedCaseIds v.overallRating ↔
      ((∃ c ∈ catalog.controls, Masked policy corpus w.approvedWaivedCaseIds c) →
        ∃ c ∈ catalog.controls, ShouldBeRed policy corpus w.approvedWaivedCaseIds c ∧ ¬ Masked policy corpus w.approvedWaivedCaseIds c) := by
  have hred : v.overallRating = .red ↔ ∃ c ∈ catalog.controls, ShouldBeRed policy corpus w.approvedWaivedCaseIds c ∧
      ¬ Masked policy corpus w.approvedWaivedCaseIds c := by
    rw [evaluate_rating h, overallRating_red]
    simp only [mem_sortedControls]
  constructor
  · intro hhonest hmasked
    obtain ⟨c, hc, hm⟩ := hmasked
    exact hred.mp (hhonest.red ⟨c, hc, .inl ⟨hm.waived, .inr ⟨hm.exceptionRed, hm.critical⟩⟩⟩)
  · intro hother
    have hshould : (∃ c ∈ catalog.controls, ShouldBeRed policy corpus w.approvedWaivedCaseIds c) → v.overallRating = .red := by
      intro h
      obtain ⟨c, hc, hs⟩ := h
      rw [hred]
      by_cases hm : Masked policy corpus w.approvedWaivedCaseIds c
      · exact hother ⟨c, hc, hm⟩
      · exact ⟨c, hc, hs, hm⟩
    refine ⟨?_, hshould, fun policy' request' corpus' w' evolution' v' h' hcritical hmissing hworse => rank_le ?_ ?_⟩
    · rw [evaluate_rating h, overallRating_green]
      simp only [mem_sortedControls]
    · -- what made the other red is there
      intro hr
      rw [evaluate_rating h', overallRating_red] at hr
      obtain ⟨c, hc, hs, -⟩ := hr
      refine hshould ⟨c, mem_sortedControls.mp hc, ?_⟩
      rw [ShouldBeRed, hcritical, hmissing] at hs
      exact hs.imp (fun h => ⟨hworse.waives h.1, h.2⟩) fun h => ⟨hworse.lacks h.1, h.2⟩
    · intro hg
      rw [evaluate_rating h, overallRating_green] at hg
      rw [evaluate_rating h', overallRating_green]
      exact fun c hc => ⟨fun hw => (hg c hc).1 (hworse.waives hw), fun hl => (hg c hc).2 (hworse.lacks hl)⟩

end

/-! ## A masked control -/

namespace Sample

def spill : AssuranceCase := { leak with severity := .high }

def spilled : AssuranceCorpus := { after with cases := [spill] }

/-- P6-B's handle for a high case that is waived. -/
def highWaived : VerifiedWaiverGovernance :=
  Waivers.verified constant (registry constant) spilled (candidate constant) (wrequest constant) [{ waiver constant with severity := .high }]

def kept : VerifiedCorpusEvolution := Evolution.verified constant (erequest constant) before spilled (manifest constant)

/-- A critical control that also maps a case which is not in the corpus. -/
def uncovered : SecurityControlCatalog :=
  { catalog with controls := [⟨"control", "leakage", "no secret leaves", .critical, ["leak", "gone"], ["output"], true⟩] }

/-- Missing evaluation is not red. -/
def lenient : SecurityPosturePolicy := { policy constant with highOrCriticalNotEvaluatedIsRed := false }

def spilledRequest : SecurityPostureRequest := request constant

theorem rated : (evaluate constant uncovered lenient spilledRequest spilled highWaived kept).toOption.map (·.overallRating) = some .amber := by
  decide +kernel

/-- A critical control has an exception, which is red, and is rated amber. -/
theorem amber_critical : ∃ v, evaluate constant uncovered lenient spilledRequest spilled highWaived kept = .ok v ∧ v.overallRating = .amber ∧
    ¬ Honest constant uncovered lenient spilled highWaived.approvedWaivedCaseIds v.overallRating := by
  obtain ⟨v, hv, hamber⟩ := ok_of_map rated
  refine ⟨v, hv, hamber, fun hhonest => ?_⟩
  have hred : v.overallRating = .red := hhonest.red ⟨_, List.mem_cons_self, .inl ⟨⟨"leak", by decide, by decide⟩, .inr ⟨rfl, rfl⟩⟩⟩
  rw [hamber] at hred
  cases hred

theorem honest_iff_critical : ∃ v, evaluate constant uncovered lenient spilledRequest spilled highWaived kept = .ok v ∧
    (Honest constant uncovered lenient spilled highWaived.approvedWaivedCaseIds v.overallRating ↔
      ((∃ c ∈ uncovered.controls, Masked lenient spilled highWaived.approvedWaivedCaseIds c) →
        ∃ c ∈ uncovered.controls, ShouldBeRed lenient spilled highWaived.approvedWaivedCaseIds c ∧
          ¬ Masked lenient spilled highWaived.approvedWaivedCaseIds c)) := by
  obtain ⟨v, hv, -⟩ := ok_of_map rated
  exact ⟨v, hv, rating_honest_iff hv⟩

end Sample

end Aegis.Assurance.Posture
