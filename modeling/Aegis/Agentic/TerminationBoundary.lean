/-
  Aegis.Agentic.TerminationBoundary — terminating instructions, rollback steps and irreversible steps.

  The loop over the steps looks only at terminating instructions bound to the goal, lets an action
  through that the policy names as its own rollback, stops the other rollback steps, and asks an
  irreversible step for a later rollback step, allowed or not.
  - `step_decided`: a step is allowed when it keeps the other boundaries and is not bypassed.
  - `boundaries_kept_iff`: the boundaries are kept exactly when no step runs into one of the four.
-/

import Aegis.Agentic.PlanMutations

namespace Aegis.Agentic.GoalPlan

open Data Evidence Checked Decision
open Delegation (isSha256)

section
variable {rt : Runtime} {c : Context} {g : AgentGoal} {root : InstructionRecord} {s : PlanStep}

/-- What the loop asks of a step, the terminating instructions apart. -/
structure Keeps (rt : Runtime) (c : Context) (s : PlanStep) (g : AgentGoal) (root : InstructionRecord) : Prop where
  sequence : sequenceRisks c.manifest g = []
  within : Within rt c g s.actionClass
  rooted : g.rootInstructionId ∈ s.sourceInstructionIds
  sources : ∃ sources, (Checks.gather (getItem c.manifest.instruction) s.sourceInstructionIds : Check _) = .ok sources ∧
    (∀ i ∈ sources, InContext rt c g i) ∧ launderingRisks root (lowAuthoritySources root sources) s.actionClass = []
  capabilities : ∃ required, Dict.mapping c.policy.actionRequiredCapabilities s.actionClass = some required ∧ sameSet s.capabilityIds required
  retrievals : ∀ k ∈ s.memoryRetrievalIds, retrievalRisks rt c g k = .ok []
  rollback : rollbackRisks c g s = []
  target : targetRisks c s = .ok []

/-- A terminating instruction bound to the goal is in force, and the policy does not name the action its own rollback. -/
def Bypassed (c : Context) (s : PlanStep) (g : AgentGoal) (root : InstructionRecord) : Prop :=
  activeTermination c.manifest g root s ≠ [] ∧ Dict.mapping c.policy.rollbackActionByAction s.actionClass ≠ some s.actionClass

/-- A terminating instruction of the root's authority applies to the goal before the step was created. -/
def Terminated (m : GoalPlanManifest) (s : PlanStep) (g : AgentGoal) (root : InstructionRecord) : Prop :=
  ∃ i ∈ m.instructions, (i.goalId = some g.goalId ∨ i.goalId = none) ∧ i.directive = .terminate ∧ i.issuedAtEpoch ≤ s.createdAtEpoch ∧
    root.precedence ≤ i.precedence ∧ root.trust.rank ≤ i.trust.rank

/-- The step rolls back a step: it names it, comes after it, and has the policy's rollback action. -/
def RollsBack (p : GoalPlanPolicy) (s x : PlanStep) : Prop :=
  s.rollbackForStepId = some x.stepId ∧ x.sequence < s.sequence ∧ Dict.mapping p.rollbackActionByAction x.actionClass = some s.actionClass

/-! ## The decision on a step -/

theorem gather_nil {α β ε : Type} {f : α → Except ε (List β)} {xs : List α} {ys : List (List β)} (h : Checks.gather f xs = .ok ys) :
    ys.flatten = [] ↔ ∀ x ∈ xs, f x = .ok [] := by
  have hall := Checks.gather_ok.mp h
  clear h
  induction hall with
  | nil => simp
  | cons hx _ ih =>
    rw [List.flatten_cons, List.append_eq_nil_iff, List.forall_mem_cons, hx, Except.ok.injEq]
    exact and_congr_right fun _ => ih

variable {risks : List GoalPlanRisk}

theorem context_other {i : InstructionRecord} (h : instructionContextRisks rt c g i = .ok risks) :
    .terminationBypass ∉ risks := by
  simp only [instructionContextRisks, bind_ok] at h
  obtain ⟨memory, hmemory, he⟩ := h
  obtain rfl := Except.ok.inj he
  unfold retrievalContextRisks at hmemory
  cases hr : i.memoryRetrievalId with
  | none =>
    rw [hr] at hmemory
    obtain rfl := Except.ok.inj hmemory
    simp [flag]
  | some k =>
    rw [hr] at hmemory
    simp only [bind_ok] at hmemory
    obtain ⟨r, -, he⟩ := hmemory
    obtain rfl := Except.ok.inj he
    simp [flag]

theorem flattened_other {α : Type} {f : α → Check (List GoalPlanRisk)} {xs : List α} {ys : List (List GoalPlanRisk)}
    (h : Checks.gather f xs = .ok ys) (hf : ∀ x risks, f x = .ok risks → GoalPlanRisk.terminationBypass ∉ risks) :
    .terminationBypass ∉ ys.flatten := by
  intro hmem
  obtain ⟨risks, hrisks, hmem⟩ := List.mem_flatten.mp hmem
  obtain ⟨x, -, hx⟩ := Checks.exists_of_forall₂ (Checks.gather_ok.mp h) hrisks
  exact hf x risks hx hmem

theorem coverage_other {required : List String} (h : coverageRisks c g required = .ok risks) :
    .terminationBypass ∉ risks := by
  unfold coverageRisks at h
  split at h
  · obtain rfl := Except.ok.inj h
    simp
  · simp only [bind_ok] at h
    obtain ⟨_, -, he⟩ := h
    obtain rfl := Except.ok.inj he
    simp [flag]

theorem target_other (h : targetRisks c s = .ok risks) : .terminationBypass ∉ risks := by
  unfold targetRisks at h
  split at h
  · obtain rfl := Except.ok.inj h
    simp
  · simp only [bind_ok] at h
    obtain ⟨_, -, he⟩ := h
    obtain rfl := Except.ok.inj he
    simp [flag]

theorem retrieval_other {k : String} (h : retrievalRisks rt c g k = .ok risks) : .terminationBypass ∉ risks := by
  simp only [retrievalRisks, bind_ok] at h
  obtain ⟨_, -, he⟩ := h
  obtain rfl := Except.ok.inj he
  simp [flag]

theorem delegation_other : .terminationBypass ∉ goalDelegationRisks rt c g := by
  unfold goalDelegationRisks delegationRisks
  split
  all_goals simp [flag]

section
variable {invariants : List String} {risks : List GoalPlanRisk}

/-- No risk is found of a step exactly when it keeps the other boundaries and is not bypassed. -/
theorem stepRisks_nil (h : stepRisks rt c s g root invariants = .ok risks) (hroot : c.manifest.instruction g.rootInstructionId = some root)
    (hinvariants : Dict.mapping c.policy.actionRequiredP7iInvariants s.actionClass = some invariants) :
    risks = [] ↔ Keeps rt c s g root ∧ ¬ Bypassed c s g root := by
  simp only [stepRisks, bind_ok, getItem_ok] at h
  obtain ⟨sources, hsources, contexts, hcontexts, required, hrequired, coverage, hcoverage, retrievals, hretrievals, target, htarget, he⟩ := h
  obtain rfl := Except.ok.inj he
  have hholds : (¬ ∃ k ∈ invariants, missingOrUnsafe rt c k) ↔ ∀ k ∈ invariants, Holds rt c k := by
    simp only [missingOrUnsafe, Holds, not_exists, not_and, not_forall, Option.mem_def, exists_prop]
  simp only [List.append_eq_nil_iff, flag_eq_nil, not_not, gather_nil hcontexts, gather_nil hretrievals, hholds, not_le, ge_iff_le]
  constructor
  · intro h
    obtain ⟨⟨⟨⟨⟨⟨⟨⟨⟨⟨⟨⟨⟨⟨⟨hsequence, hdelegation⟩, hunexpired⟩, -⟩, hcontext⟩, hrooted⟩, hgoal⟩, hscope⟩, hcapabilities⟩, hcovers⟩, hsafe⟩,
      hretrieval⟩, hlaundering⟩, htermination⟩, hrollback⟩, hnone⟩ := h
    have hwithin : Within rt c g s.actionClass := ⟨hunexpired, continues_iff.mp hdelegation,
      ⟨required, hrequired, covers_iff.mp (hcovers ▸ hcoverage)⟩, hgoal, ⟨root, hroot, hscope⟩, invariants, hinvariants, hsafe⟩
    exact ⟨⟨hsequence, hwithin, hrooted, ⟨sources, hsources, fun i hi => inContext_iff.mp (hcontext i hi), hlaundering⟩,
      ⟨required, hrequired, hcapabilities⟩, hretrieval, hrollback, hnone ▸ htarget⟩, fun hbypassed => flag_eq_nil.mp htermination hbypassed⟩
  · intro h
    obtain ⟨hkeeps, hbypassed⟩ := h
    obtain ⟨sources', hsources', hcontext, hlaundering⟩ := hkeeps.sources
    obtain rfl := Except.ok.inj (hsources.symm.trans hsources')
    obtain ⟨required', hrequired', hcapabilities⟩ := hkeeps.capabilities
    obtain rfl := Option.some.inj (hrequired.symm.trans hrequired')
    obtain ⟨hunexpired, hcontinues, ⟨required', hrequired', hcovers⟩, hgoal, ⟨root', hroot', hscope⟩, invariants', hinvariants', hsafe⟩ := hkeeps.within
    obtain rfl := Option.some.inj (hrequired.symm.trans hrequired')
    obtain rfl := Option.some.inj (hroot.symm.trans hroot')
    obtain rfl := Option.some.inj (hinvariants.symm.trans hinvariants')
    exact ⟨⟨⟨⟨⟨⟨⟨⟨⟨⟨⟨⟨⟨⟨⟨hkeeps.sequence, continues_iff.mpr hcontinues⟩, hunexpired⟩, List.ne_nil_of_mem hkeeps.rooted⟩,
      fun i hi => inContext_iff.mpr (hcontext i hi)⟩, hkeeps.rooted⟩, hgoal⟩, hscope⟩, hcapabilities⟩,
      Except.ok.inj (hcoverage.symm.trans (covers_iff.mpr hcovers))⟩, hsafe⟩, hkeeps.retrievals⟩, hlaundering⟩,
      flag_eq_nil.mpr hbypassed⟩, hkeeps.rollback⟩, Except.ok.inj (htarget.symm.trans hkeeps.target)⟩

/-- The termination is among the risks of a step exactly when it is bypassed. -/
theorem stepRisks_bypass (h : stepRisks rt c s g root invariants = .ok risks) : .terminationBypass ∈ risks ↔ Bypassed c s g root := by
  simp only [stepRisks, bind_ok, getItem_ok] at h
  obtain ⟨sources, -, contexts, hcontexts, required, -, coverage, hcoverage, retrievals, hretrievals, target, htarget, he⟩ := h
  obtain rfl := Except.ok.inj he
  have hcontext := flattened_other hcontexts fun _ _ => context_other
  have hretrieval := flattened_other hretrievals fun _ _ => retrieval_other
  simp [flag, hcontext, hretrieval, coverage_other hcoverage, target_other htarget, @delegation_other rt c g, sequenceRisks, launderingRisks,
    terminationRisks, rollbackRisks, Bypassed]

end

/-- A step is allowed when it keeps the other boundaries and is not bypassed, and is denied for the termination when it is. -/
theorem step_decided {f : PlanStepIntegrityFact} (h : stepFact rt c s = .ok f) : f.stepId = s.stepId ∧ ∃ g root,
    c.manifest.goal s.goalId = some g ∧ c.manifest.instruction g.rootInstructionId = some root ∧
      (f.decision = .allow ↔ Keeps rt c s g root ∧ ¬ Bypassed c s g root) ∧ (.terminationBypass ∈ f.risks ↔ Bypassed c s g root) := by
  simp only [stepFact, bind_ok, getItem_ok] at h
  obtain ⟨g, hg, root, hroot, invariants, hinvariants, risks, hrisks, he⟩ := h
  obtain rfl := Except.ok.inj he
  refine ⟨rfl, g, root, hg, hroot, ?_, GoalPlanRisk.mem_ordered.trans (stepRisks_bypass hrisks)⟩
  rw [← stepRisks_nil hrisks hroot hinvariants]
  dsimp only
  by_cases hnone : risks = []
  · simp [hnone]
  · simp [hnone]

end

/-! ## The boundaries -/

section
variable {rt : GoalPlanRuntime} {p : GoalPlanPolicy} {q : GoalPlanRequest} {m : GoalPlanManifest} {p8a p8b p7i : Json}
  {a : VerifiedGoalPlanIntegrityAssessment}

/-- What is promised of a step of an assessment. -/
structure Kept (p : GoalPlanPolicy) (m : GoalPlanManifest) (a : VerifiedGoalPlanIntegrityAssessment) (s : PlanStep) (g : AgentGoal)
    (root : InstructionRecord) : Prop where
  /-- After the termination of its goal it rolls back an earlier step of the goal. -/
  terminated : ∀ f ∈ a.steps, f.stepId = s.stepId → f.decision = .allow → Terminated m s g root → ∃ x ∈ stepsOf m g, RollsBack p s x
  /-- A rollback step is not denied for the termination. -/
  rollback : ∀ f ∈ a.steps, f.stepId = s.stepId → (∃ x ∈ stepsOf m g, RollsBack p s x) → .terminationBypass ∉ f.risks
  /-- An irreversible step is rolled back by an allowed one. -/
  irreversible : ∀ f ∈ a.steps, f.stepId = s.stepId → f.decision = .allow → s.irreversible = true →
    ∃ x ∈ stepsOf m g, RollsBack p x s ∧ ∃ f' ∈ a.steps, f'.stepId = x.stepId ∧ f'.decision = .allow

/-- A step runs into none of the ways in which the loop fails the boundaries. -/
structure Sound (rt : Runtime) (c : Context) (s : PlanStep) (g : AgentGoal) (root : InstructionRecord) : Prop where
  /-- A step that keeps the rest, after a termination of its goal, rolls back an earlier step of the goal or is bypassed: the instruction
  is not just an unbound one, and the action not its own rollback. -/
  terminated : Keeps rt c s g root → Terminated c.manifest s g root → (∀ x ∈ stepsOf c.manifest g, ¬ RollsBack c.policy s x) → Bypassed c s g root
  /-- A rollback step comes before the terminations bound to its goal, or its action is its own rollback. -/
  rollback : (∃ x ∈ stepsOf c.manifest g, RollsBack c.policy s x) → ¬ Bypassed c s g root
  /-- One of the steps that roll back an irreversible one keeps the rest and is not bypassed. -/
  irreversible : Keeps rt c s g root → ¬ Bypassed c s g root → s.irreversible = true →
    ∃ x ∈ stepsOf c.manifest g, RollsBack c.policy x s ∧ Keeps rt c x g root ∧ ¬ Bypassed c x g root

/-- The facts of an assessment, by the steps. -/
theorem steps_decided (h : evaluate rt p q m p8a p8b p7i = .ok a) : Accepted rt p m (upstreamsOf rt.toRuntime p8a p8b p7i) ∧
    ∀ s ∈ m.steps, ∀ g root, m.goal s.goalId = some g → m.instruction g.rootInstructionId = some root →
      ∃ f ∈ a.steps, (∀ f' ∈ a.steps, f'.stepId = s.stepId → f' = f) ∧ f.stepId = s.stepId ∧
        (f.decision = .allow ↔ Keeps rt.toRuntime (contextOf rt.toRuntime p m p8a p8b p7i q.evaluatedAtEpoch) s g root ∧
          ¬ Bypassed (contextOf rt.toRuntime p m p8a p8b p7i q.evaluatedAtEpoch) s g root) ∧
        (.terminationBypass ∈ f.risks ↔ Bypassed (contextOf rt.toRuntime p m p8a p8b p7i q.evaluatedAtEpoch) s g root) := by
  obtain ⟨hpasses, steps, mutations, hderived, -, rfl⟩ := evaluate_ok.mp h
  refine ⟨hpasses.accepted, fun s hs g root hg hroot => ?_⟩
  obtain ⟨f, hf, hfact⟩ := Checks.mem_gather hderived.steps (mem_sortOn.mpr hs)
  obtain ⟨hid, g', root', hg', hroot', hdecided⟩ := step_decided hfact
  obtain rfl := Option.some.inj (hg.symm.trans hg')
  obtain rfl := Option.some.inj (hroot.symm.trans hroot')
  refine ⟨f, hf, fun f' hf' hid' => ?_, hid, hdecided⟩
  obtain ⟨s', hs', hfact'⟩ := Checks.exists_of_forall₂ (Checks.gather_ok.mp hderived.steps) hf'
  have hsame : s' = s := List.inj_on_of_nodup_map hpasses.accepted.stepIds (mem_sortOn.mp hs') hs ((step_decided hfact').1.symm.trans hid')
  exact Except.ok.inj (hfact'.symm.trans (hsame ▸ hfact))

/-- The boundaries are kept exactly when no step runs into one of the ways in which the loop fails them. -/
theorem boundaries_kept_iff (h : evaluate rt p q m p8a p8b p7i = .ok a) :
    (∀ s ∈ m.steps, ∀ g root, m.goal s.goalId = some g → m.instruction g.rootInstructionId = some root → Kept p m a s g root) ↔
      ∀ s ∈ m.steps, ∀ g root, m.goal s.goalId = some g → m.instruction g.rootInstructionId = some root →
        Sound rt.toRuntime (contextOf rt.toRuntime p m p8a p8b p7i q.evaluatedAtEpoch) s g root := by
  obtain ⟨haccepted, hsteps⟩ := steps_decided h
  have hown : ∀ {s : PlanStep} {g : AgentGoal}, m.goal s.goalId = some g → ∀ x ∈ stepsOf m g, x ∈ m.steps ∧ m.goal x.goalId = some g := by
    intro s g hg x hx
    obtain ⟨hx, hgoal⟩ := List.mem_filter.mp hx
    rw [of_decide_eq_true hgoal, (Dict.ofItems_mem hg).2]
    exact ⟨hx, hg⟩
  refine forall₂_congr fun s hs => forall₂_congr fun g root => forall₂_congr fun hg hroot => ?_
  obtain ⟨f, hf, hone, hid, hallow, hbypass⟩ := hsteps s hs g root hg hroot
  constructor
  · intro hkept
    refine ⟨fun hkeeps hterminated hnone => ?_, fun hback => ?_, fun hkeeps hbypassed hirreversible => ?_⟩
    · by_contra hbypassed
      obtain ⟨x, hx, hback⟩ := hkept.terminated f hf hid (hallow.mpr ⟨hkeeps, hbypassed⟩) hterminated
      exact hnone x hx hback
    · exact fun hbypassed => hkept.rollback f hf hid hback (hbypass.mpr hbypassed)
    · obtain ⟨x, hx, hback, f', hf', hid', hallow'⟩ := hkept.irreversible f hf hid (hallow.mpr ⟨hkeeps, hbypassed⟩) hirreversible
      obtain ⟨fx, -, honex, -, hallowx, -⟩ := hsteps x (hown hg x hx).1 g root (hown hg x hx).2 hroot
      exact ⟨x, hx, hback, hallowx.mp (honex f' hf' hid' ▸ hallow')⟩
  · intro hsound
    refine ⟨fun f' hf' hid' hdecided hterminated => ?_, fun f' hf' hid' hback => ?_, fun f' hf' hid' hdecided hirreversible => ?_⟩
    all_goals obtain rfl := hone f' hf' hid'
    · by_contra hnone
      obtain ⟨hkeeps, hbypassed⟩ := hallow.mp hdecided
      exact hbypassed (hsound.terminated hkeeps hterminated fun x hx hback => hnone ⟨x, hx, hback⟩)
    · exact fun hmem => hsound.rollback hback (hbypass.mp hmem)
    · obtain ⟨hkeeps, hbypassed⟩ := hallow.mp hdecided
      obtain ⟨x, hx, hback, hclean⟩ := hsound.irreversible hkeeps hbypassed hirreversible
      obtain ⟨fx, hfx, -, hidx, hallowx, -⟩ := hsteps x (hown hg x hx).1 g root (hown hg x hx).2 hroot
      exact ⟨x, hx, hback, fx, hfx, hidx, hallowx.mpr hclean⟩

end

namespace Sample

/-- What the user ends every goal with. -/
def stop : InstructionRecord := { ask with instructionId := "stop", goalId := none, directive := .terminate }

/-- One goal, and a step that searches after the end of every goal. -/
def ended : GoalPlanManifest := manifestOf [ask, stop] [goal 1000] [search] []

def endedText : Json := ended.canonical (runtime .null).toRuntime

/-- The search is decided on, and allowed. -/
theorem ended_allowed : ((evaluate (runtime endedText) (policyFor ended [("search", ["inv"])] [] []) (requestFor ended 20) ended delegations memory
    (architecture "inv")).toOption.map fun a => a.steps.map fun f => (f.stepId, f.decision)) = some [("search", .allow)] := by decide +kernel

/-- The search goes on after the end. -/
theorem ended_goes_on : ∃ q a, evaluate (runtime endedText) (policyFor ended [("search", ["inv"])] [] []) q ended delegations memory
    (architecture "inv") = .ok a ∧ ¬ ∀ s ∈ ended.steps, ∀ g root, ended.goal s.goalId = some g → ended.instruction g.rootInstructionId = some root →
      Kept (policyFor ended [("search", ["inv"])] [] []) ended a s g root := by
  obtain ⟨a, ha, hshown⟩ := Checks.ok_of_map ended_allowed
  refine ⟨requestFor ended 20, a, ha, fun hkept => ?_⟩
  obtain ⟨f, hsteps, hf⟩ := List.map_eq_singleton_iff.mp hshown
  obtain ⟨hid, hallow⟩ := Prod.mk.inj hf
  have hstep := hkept search List.mem_cons_self (goal 1000) ask rfl rfl
  have hterminated : Terminated ended search (goal 1000) ask := ⟨stop, by simp [ended, manifestOf], .inr rfl, rfl, by decide, by decide, by decide⟩
  obtain ⟨x, -, hback, -⟩ := hstep.terminated f (hsteps ▸ List.mem_cons_self) hid hallow hterminated
  cases hback

theorem ended_decided : ∃ q a, evaluate (runtime endedText) (policyFor ended [("search", ["inv"])] [] []) q ended delegations memory
    (architecture "inv") = .ok a ∧
    ((∀ s ∈ ended.steps, ∀ g root, ended.goal s.goalId = some g → ended.instruction g.rootInstructionId = some root →
      Kept (policyFor ended [("search", ["inv"])] [] []) ended a s g root) ↔
      ∀ s ∈ ended.steps, ∀ g root, ended.goal s.goalId = some g → ended.instruction g.rootInstructionId = some root →
        Sound (runtime endedText).toRuntime (contextOf (runtime endedText).toRuntime (policyFor ended [("search", ["inv"])] [] []) ended delegations
          memory (architecture "inv") q.evaluatedAtEpoch) s g root) := by
  obtain ⟨a, ha, -⟩ := Checks.ok_of_map ended_allowed
  exact ⟨requestFor ended 20, a, ha, boundaries_kept_iff ha⟩

end Sample

end Aegis.Agentic.GoalPlan
