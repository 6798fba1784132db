/-
  Aegis.Agentic.AcceptedPlans — what the checks of a goal plan leave.

  - `accepted_of_valid`: every reference of an accepted manifest leads to something, identifiers are keys, and the
    instructions an instruction was derived from come to an end.
  - `manifest_rejects`: where the policy covers what it requires, the checks raise rejections only.
  - `stepFact_returns`: then every step is decided.
-/

import Aegis.Agentic.GoalPlan
import Aegis.Assurance.Regression

namespace Aegis.Agentic.GoalPlan

open Data Evidence Checked Decision
open Delegation (isSha256 verified exactly)

variable {rt : GoalPlanRuntime} {p : GoalPlanPolicy} {q : GoalPlanRequest} {m : GoalPlanManifest} {up : Upstreams} {c : Context} {u : Unit}

theorem sameSet_self (xs : List String) : sameSet xs xs := ⟨fun _ h => h, fun _ h => h⟩

/-! ## The policy -/

/-- The maps of a policy have the keys they are asked for. -/
structure Covered (p : GoalPlanPolicy) : Prop where
  instructions : ∀ keys ∈ p.instructionMaps, sameSet keys p.requiredInstructionIds
  goals : ∀ keys ∈ p.goalMaps, sameSet keys p.requiredGoalIds
  actions : sameSet (p.actionRequiredP7iInvariants.map (·.1)) p.actions
  /-- An irreversible action has an action that rolls it back. -/
  irreversible : ∀ a ∈ p.irreversibleActionClasses, a ∈ p.rollbackActionByAction.map (·.1)

theorem covered_of_valid {rt : Runtime} (h : validatePolicy rt p = .ok u) : Covered p := by
  simp only [validatePolicy, bind_ok, rejectIf_ok, exists_const, not_exists, not_and, not_not, not_or] at h
  obtain ⟨-, hinstructions, hgoals, -, hactions, -, hirreversible, -⟩ := h
  exact ⟨hinstructions, hgoals, hactions.2, hirreversible.2⟩

variable {k : String} {i y : InstructionRecord} {P : Raised GoalPlanSecurityRejected → Prop} {α : Type}
  {pairs : List (String × α)} {x : PlanMutation} {g : AgentGoal} {s : PlanStep}

theorem mapping_some (h : k ∈ pairs.map (·.1)) : ∃ a, Dict.mapping pairs k = some a := by
  obtain ⟨pair, hpair, rfl⟩ := List.mem_map.mp h
  unfold Dict.mapping
  cases hfind : pairs.find? fun p => p.1 = pair.1 with
  | none =>
    have hall := List.find?_eq_none.mp hfind
    exact absurd (by simp) (hall pair hpair)
  | some x => exact ⟨x.2, rfl⟩

theorem ofItems_some {key : α → String} {items : List α} (h : k ∈ items.map key) :
    ∃ a, Dict.ofItems key items k = some a := by
  obtain ⟨x, hx, rfl⟩ := List.mem_map.mp h
  unfold Dict.ofItems
  cases hfind : items.find? fun y => key y = key x with
  | none =>
    have hall := List.find?_eq_none.mp hfind
    exact absurd (by simp) (hall x hx)
  | some y => exact ⟨y, rfl⟩

/-! ## An accepted manifest -/

/-- What a step refers to. -/
structure StepRefers (p : GoalPlanPolicy) (m : GoalPlanManifest) (up : Upstreams) (s : PlanStep) : Prop where
  goal : ∃ g, m.goal s.goalId = some g
  sources : ∀ i ∈ s.sourceInstructionIds, ∃ x, m.instruction i = some x
  retrievals : ∀ r ∈ s.memoryRetrievalIds, ∃ x, up.retrievals r = some x
  target : ∀ t ∈ s.rollbackForStepId, ∃ x, m.step t = some x
  action : s.actionClass ∈ p.actions
  irreversible : s.irreversible = decide (s.actionClass ∈ p.irreversibleActionClasses)

/-- What a mutation refers to. -/
structure MutationRefers (p : GoalPlanPolicy) (m : GoalPlanManifest) (u : PlanMutation) : Prop where
  goal : ∃ g, m.goal u.goalId = some g
  source : ∃ x, m.instruction u.sourceInstructionId = some x
  proposed : ∀ i ∈ u.proposedInstructionIds, ∃ x, m.instruction i = some x
  action : ∀ a ∈ u.proposedActionClass, a ∈ p.actions

/-- What an instruction keeps to of the one it was derived from. -/
structure Derives (rt : GoalPlanRuntime) (parent i : InstructionRecord) : Prop where
  provenance : rt.casefold i.provenanceSha256 = instructionProvenanceDigest rt parent.provenanceSha256 i.contentSha256
  authority : i.sanitized = false → i.precedence ≤ parent.precedence ∧ i.trust.rank ≤ parent.trust.rank

structure Accepted (rt : GoalPlanRuntime) (p : GoalPlanPolicy) (m : GoalPlanManifest) (up : Upstreams) : Prop where
  instructionIds : (m.instructions.map (·.instructionId)).Nodup
  goalIds : (m.goals.map (·.goalId)).Nodup
  stepIds : (m.steps.map (·.stepId)).Nodup
  mutationIds : (m.mutations.map (·.mutationId)).Nodup
  parents : ∀ i ∈ m.instructions, ∀ k ∈ i.parentInstructionId, ∃ parent, m.instruction k = some parent ∧ Derives rt parent i
  rooted : ∀ i ∈ m.instructions, ∃ d, Ascent.Rooted m.parentOf i.instructionId d
  retrievals : ∀ i ∈ m.instructions, ∀ r ∈ i.memoryRetrievalId, ∃ x, up.retrievals r = some x
  roots : ∀ g ∈ m.goals, ∃ root, m.instruction g.rootInstructionId = some root ∧ root.goalId = some g.goalId ∧
    root.originalPrincipalId = g.originalPrincipalId ∧ root.tenantId = g.tenantId ∧ root.sessionId = g.sessionId
  delegations : ∀ g ∈ m.goals, ∀ d ∈ g.delegationId, ∃ x, up.delegations d = some x
  steps : ∀ s ∈ m.steps, StepRefers p m up s
  mutations : ∀ u ∈ m.mutations, MutationRefers p m u

theorem retrievals_of_valid {rt : Runtime} (h : validateInstruction rt p m up i = .ok u) :
    ∀ r ∈ i.memoryRetrievalId, ∃ x, up.retrievals r = some x := by
  simp only [validateInstruction, bind_ok, getItem_ok, rejectIf_ok, exists_const, not_exists, not_and] at h
  obtain ⟨-, _, -, -, _, -, -, _, -, -, _, -, -, _, -, -, -, -, hknown, -⟩ := h
  exact fun r hr => Option.ne_none_iff_exists'.mp (hknown r hr)

theorem derives_of_valid (h : validateDerivation rt m i = .ok u) (hk : i.parentInstructionId = some k) :
    ∃ parent, m.instruction k = some parent ∧ Derives rt parent i := by
  unfold validateDerivation at h
  rw [hk] at h
  simp only [bind_ok, getItem_ok, rejectIf_ok, exists_const, ne_eq, not_not] at h
  obtain ⟨parent, hparent, hprovenance, hgain⟩ := h
  refine ⟨parent, hparent, hprovenance.symm, fun hsanitized => ?_⟩
  have hnone : ¬ (i.precedence > parent.precedence ∨ i.trust.rank > parent.trust.rank) := fun hmore => hgain ⟨hmore, hsanitized⟩
  rw [not_or] at hnone
  exact ⟨not_lt.mp hnone.1, not_lt.mp hnone.2⟩

theorem goal_of_valid {now : Int} (h : validateGoal p now m up g = .ok u) :
    (∃ root, m.instruction g.rootInstructionId = some root ∧ root.goalId = some g.goalId ∧
      root.originalPrincipalId = g.originalPrincipalId ∧ root.tenantId = g.tenantId ∧ root.sessionId = g.sessionId) ∧
    ∀ d ∈ g.delegationId, ∃ x, up.delegations d = some x := by
  simp only [validateGoal, bind_ok, getItem_ok, rejectIf_ok, exists_const, not_exists, not_and, not_or, ne_eq, not_not] at h
  obtain ⟨-, _, -, -, _, -, -, _, -, -, _, -, -, _, -, -, hdelegation, _, -, -, _, -, -, -, root, hroot, hcontext⟩ := h
  exact ⟨⟨root, hroot, hcontext⟩, fun d hd => Option.ne_none_iff_exists'.mp (hdelegation d hd)⟩

theorem step_of_valid (h : validateStep p m up s = .ok u) : StepRefers p m up s := by
  simp only [validateStep, bind_ok, getItem_ok, rejectIf_ok, exists_const, not_exists, not_and, not_or, ne_eq, not_not] at h
  obtain ⟨-, ⟨-, hsources, hretrievals⟩, htarget, -, haction, -, hirreversible, g, hg, -⟩ := h
  exact ⟨⟨g, hg⟩, fun i hi => ofItems_some (hsources i hi), fun r hr => Option.ne_none_iff_exists'.mp (hretrievals r hr),
    fun t ht => ofItems_some (htarget t ht), haction, hirreversible⟩

theorem mutation_of_valid (h : validateMutation p m x = .ok u) : MutationRefers p m x := by
  simp only [validateMutation, bind_ok, getItem_ok, rejectIf_ok, exists_const, not_exists, not_and, not_or, not_not] at h
  obtain ⟨-, ⟨-, hsource, -, hproposed⟩, -, haction, g, hg, -⟩ := h
  exact ⟨⟨g, hg⟩, ofItems_some hsource, fun i hi => ofItems_some (hproposed i hi), haction⟩

/-- What the checks of a manifest leave. -/
theorem accepted_of_valid (h : validateManifest rt p q m up = .ok u) : Accepted rt p m up := by
  simp only [validateManifest, bind_ok, rejectIf_ok, keyed_ok, forEach_ok, exists_const] at h
  obtain ⟨-, -, -, -, -, ⟨hinstructionIds, -⟩, -, hinstructions, hancestry, hderivation, ⟨hgoalIds, -⟩, -, hgoals, ⟨hstepIds, -⟩, -, hsteps,
    ⟨hmutationIds, -⟩, -, hmutations⟩ := h
  have hparents : ∀ i ∈ m.instructions, ∀ k ∈ i.parentInstructionId, ∃ parent, m.instruction k = some parent ∧ Derives rt parent i :=
    fun i hi k hk => derives_of_valid (hderivation i hi) hk
  refine ⟨hinstructionIds, hgoalIds, hstepIds, hmutationIds, hparents, fun i hi => ?_, fun i hi => retrievals_of_valid (hinstructions i hi),
    fun g hg => (goal_of_valid (hgoals g hg)).1, fun g hg => (goal_of_valid (hgoals g hg)).2, fun s hs => step_of_valid (hsteps s hs),
    fun x hx => mutation_of_valid (hmutations x hx)⟩
  have hwalk := hancestry i hi
  simp only [validateAncestry, rejectIf_ok, Bool.not_eq_false] at hwalk
  obtain ⟨d, -, hd⟩ := Ascent.walk_rooted hwalk
  exact ⟨d, hd⟩

/-! ## The checks raise rejections only -/

theorem lookup_raises (h : k ∈ pairs.map (·.1)) : Checks.Raises P (getItem (Dict.mapping pairs) k) := by
  obtain ⟨a, ha⟩ := mapping_some h
  refine getItem_raises fun hnone => ?_
  rw [ha] at hnone
  cases hnone

theorem item_raises {d : Dict α} (h : ∃ a, d k = some a) : Checks.Raises P (getItem d k) := by
  obtain ⟨a, ha⟩ := h
  refine getItem_raises fun hnone => ?_
  rw [ha] at hnone
  cases hnone

theorem policy_rejects {rt : Runtime} : Checks.Raises IsRejection (validatePolicy rt p) := by
  unfold validatePolicy
  iterate 7 refine rejectIf_bind ?_
  exact rejectIf_rejects

theorem upstreams_reject {rt : Runtime} {p8a p8b p7i : Json} : Checks.Raises IsRejection (validateUpstreams rt p p8a p8b p7i) := by
  unfold validateUpstreams
  iterate 6 refine rejectIf_bind ?_
  iterate 3 refine .bind (uniqueItems_rejects rt) fun _ _ => ?_
  exact .ok

theorem sanitization_rejects {rt : Runtime} : Checks.Raises IsRejection (validateSanitization rt p i) := by
  unfold validateSanitization
  split
  · exact rejectIf_rejects
  · exact rejectIf_rejects

theorem instruction_rejects {rt : Runtime} (hp : Covered p) (hi : i.instructionId ∈ p.requiredInstructionIds) :
    Checks.Raises IsRejection (validateInstruction rt p m up i) := by
  have hkeys : ∀ keys ∈ p.instructionMaps, i.instructionId ∈ keys := fun keys hk => (hp.instructions keys hk).2 _ hi
  simp only [GoalPlanPolicy.instructionMaps, List.forall_mem_cons] at hkeys
  obtain ⟨hsource, hdirective, htrust, hprecedence, hactions, -⟩ := hkeys
  unfold validateInstruction
  refine rejectIf_bind ?_
  refine .bind (lookup_raises hsource) fun _ _ => rejectIf_bind ?_
  refine .bind (lookup_raises hdirective) fun _ _ => rejectIf_bind ?_
  refine .bind (lookup_raises htrust) fun _ _ => rejectIf_bind ?_
  refine .bind (lookup_raises hprecedence) fun _ _ => rejectIf_bind ?_
  refine .bind (lookup_raises hactions) fun _ _ => rejectIf_bind ?_
  iterate 4 refine rejectIf_bind ?_
  refine .bind sanitization_rejects fun _ _ => rejectIf_bind rejectIf_rejects

theorem derivation_rejects (hparent : ∀ k ∈ i.parentInstructionId, k ∈ m.instructions.map (·.instructionId)) :
    Checks.Raises IsRejection (validateDerivation rt m i) := by
  unfold validateDerivation
  cases hk : i.parentInstructionId with
  | none => exact .ok
  | some k =>
    exact .bind (item_raises (ofItems_some (hparent k hk))) fun _ _ => rejectIf_bind rejectIf_rejects

theorem goal_rejects (hp : Covered p) {now : Int} (hg : g.goalId ∈ p.requiredGoalIds) :
    Checks.Raises IsRejection (validateGoal p now m up g) := by
  have hkeys : ∀ keys ∈ p.goalMaps, g.goalId ∈ keys := fun keys hk => (hp.goals keys hk).2 _ hg
  simp only [GoalPlanPolicy.goalMaps, List.forall_mem_cons] at hkeys
  obtain ⟨hroot, hprincipal, htenant, hsession, hdelegation, hactions, hsteps, -⟩ := hkeys
  unfold validateGoal
  refine rejectIf_bind ?_
  refine .bind (lookup_raises hroot) fun _ _ => .bind rejectIf_rejects fun _ hknown => ?_
  refine .bind (lookup_raises hprincipal) fun _ _ => rejectIf_bind ?_
  refine .bind (lookup_raises htenant) fun _ _ => rejectIf_bind ?_
  refine .bind (lookup_raises hsession) fun _ _ => rejectIf_bind ?_
  refine .bind (lookup_raises hdelegation) fun _ _ => rejectIf_bind (rejectIf_bind ?_)
  refine .bind (lookup_raises hactions) fun _ _ => rejectIf_bind ?_
  refine .bind (lookup_raises hsteps) fun _ _ => rejectIf_bind (rejectIf_bind ?_)
  rw [rejectIf_ok, not_or, not_not] at hknown
  exact .bind (item_raises (ofItems_some (by simpa using hknown.2))) fun _ _ => rejectIf_rejects

theorem step_rejects : Checks.Raises IsRejection (validateStep p m up s) := by
  unfold validateStep
  refine .bind rejectIf_rejects fun _ _ => .bind rejectIf_rejects fun _ hknown => ?_
  iterate 5 refine rejectIf_bind ?_
  rw [rejectIf_ok, not_or, not_not] at hknown
  exact .bind (item_raises (ofItems_some hknown.1)) fun _ _ => rejectIf_rejects

theorem mutation_rejects : Checks.Raises IsRejection (validateMutation p m x) := by
  unfold validateMutation
  refine .bind rejectIf_rejects fun _ _ => .bind rejectIf_rejects fun _ hknown => ?_
  iterate 2 refine rejectIf_bind ?_
  rw [rejectIf_ok, not_or, not_not] at hknown
  exact .bind (item_raises (ofItems_some hknown.1)) fun _ _ => rejectIf_rejects

theorem parents_of_valid {rt : Runtime} (h : validateInstruction rt p m up i = .ok u) :
    ∀ k ∈ i.parentInstructionId, k ∈ m.instructions.map (·.instructionId) := by
  simp only [validateInstruction, bind_ok, getItem_ok, rejectIf_ok, exists_const, not_exists, not_and, not_not] at h
  obtain ⟨-, _, -, -, _, -, -, _, -, -, _, -, -, _, -, -, -, hknown, -⟩ := h
  exact hknown

theorem manifest_rejects (hp : Covered p) : Checks.Raises IsRejection (validateManifest rt p q m up) := by
  unfold validateManifest
  iterate 5 refine rejectIf_bind ?_
  refine .bind keyed_rejects fun _ _ => .bind rejectIf_rejects fun _ hinstructions => ?_
  rw [rejectIf_ok, not_not] at hinstructions
  refine .bind (forEach_raises fun i hi => instruction_rejects hp (hinstructions.1 _ (List.mem_map_of_mem hi))) fun _ hvalid => ?_
  refine .bind (forEach_raises fun i _ => rejectIf_rejects) fun _ _ => ?_
  refine .bind (forEach_raises fun i hi => derivation_rejects (parents_of_valid (forEach_ok.mp hvalid i hi))) fun _ _ => ?_
  refine .bind keyed_rejects fun _ _ => .bind rejectIf_rejects fun _ hgoals => ?_
  rw [rejectIf_ok, not_not] at hgoals
  refine .bind (forEach_raises fun g hg => goal_rejects hp (hgoals.1 _ (List.mem_map_of_mem hg))) fun _ _ => ?_
  refine .bind keyed_rejects fun _ _ => rejectIf_bind ?_
  refine .bind (forEach_raises fun s _ => step_rejects) fun _ _ => ?_
  refine .bind keyed_rejects fun _ _ => rejectIf_bind ?_
  exact forEach_raises fun x _ => mutation_rejects

theorem declared_rejects {steps : List PlanStepIntegrityFact} {mutations : List PlanMutationIntegrityFact} {goals : List GoalIntegrityFact} :
    Checks.Raises IsRejection (validateDeclared q steps mutations goals) := by
  unfold validateDeclared
  iterate 3 refine rejectIf_bind ?_
  exact rejectIf_rejects

/-! ## Every step is decided -/

theorem gather_exists {β ε : Type} {f : α → Except ε β} {xs : List α} (h : ∀ x ∈ xs, ∃ y, f x = .ok y) : ∃ ys, Checks.gather f xs = .ok ys :=
  ⟨_, Checks.gather_returns h⟩

/-- What is looked up for the identifiers is among the items. -/
theorem gathered_mem {xs : List String} {ys : List InstructionRecord}
    (h : (Checks.gather (getItem m.instruction) xs : Check (List InstructionRecord)) = .ok ys) (hy : y ∈ ys) :
    y ∈ m.instructions ∧ y.instructionId ∈ xs := by
  obtain ⟨k, hk, hget⟩ := Checks.exists_of_forall₂ (Checks.gather_ok.mp h) hy
  obtain ⟨hmem, rfl⟩ := Dict.ofItems_mem (getItem_ok.mp hget)
  exact ⟨hmem, hk⟩

section
variable {now : Int}

theorem context_returns (ha : Accepted rt p m up) (hi : i ∈ m.instructions) :
    ∃ risks, instructionContextRisks rt.toRuntime ⟨p, m, up, now⟩ g i = .ok risks := by
  unfold instructionContextRisks retrievalContextRisks
  cases hr : i.memoryRetrievalId with
  | none => exact ⟨_, rfl⟩
  | some r =>
    obtain ⟨x, hx⟩ := ha.retrievals i hi r hr
    simp only [bind_ok, getItem_ok]
    exact ⟨_, _, ⟨x, hx, rfl⟩, rfl⟩

theorem coverage_returns (ha : Accepted rt p m up) (hg : g ∈ m.goals) {required : List String} :
    ∃ risks, coverageRisks ⟨p, m, up, now⟩ g required = .ok risks := by
  unfold coverageRisks
  cases hd : g.delegationId with
  | none => exact ⟨_, rfl⟩
  | some d =>
    obtain ⟨x, hx⟩ := ha.delegations g hg d hd
    simp only [bind_ok, getItem_ok]
    exact ⟨_, x, hx, rfl⟩

theorem target_returns (hs : StepRefers p m up s) : ∃ risks, targetRisks ⟨p, m, up, now⟩ s = .ok risks := by
  unfold targetRisks
  cases ht : s.rollbackForStepId with
  | none => exact ⟨_, rfl⟩
  | some t =>
    obtain ⟨x, hx⟩ := hs.target t ht
    simp only [bind_ok, getItem_ok]
    exact ⟨_, x, hx, rfl⟩

theorem stepFact_returns (hp : Covered p) (ha : Accepted rt p m up) (hs : s ∈ m.steps) :
    ∃ f, stepFact rt.toRuntime ⟨p, m, up, now⟩ s = .ok f := by
  have hrefers := ha.steps s hs
  obtain ⟨g, hg⟩ := hrefers.goal
  obtain ⟨root, hroot, -⟩ := ha.roots g (Dict.ofItems_mem hg).1
  obtain ⟨capabilities, hcapabilities⟩ := mapping_some hrefers.action
  obtain ⟨invariants, hinvariants⟩ := mapping_some (hp.actions.2 _ hrefers.action)
  obtain ⟨sources, hsources⟩ := gather_exists (ε := Raised GoalPlanSecurityRejected) fun i hi =>
    (hrefers.sources i hi).imp fun x hx => getItem_ok.mpr hx
  obtain ⟨contexts, hcontexts⟩ := gather_exists fun i hi =>
    @context_returns rt p m up i g now ha (gathered_mem hsources hi).1
  obtain ⟨coverage, hcoverage⟩ := @coverage_returns rt p m up g now ha (Dict.ofItems_mem hg).1 capabilities
  obtain ⟨retrievals, hretrievals⟩ : ∃ risks, Checks.gather (retrievalRisks rt.toRuntime ⟨p, m, up, now⟩ g) s.memoryRetrievalIds = .ok risks := by
    refine gather_exists fun r hr => ?_
    obtain ⟨x, hx⟩ := hrefers.retrievals r hr
    simp only [retrievalRisks, bind_ok, getItem_ok]
    exact ⟨_, x, hx, rfl⟩
  obtain ⟨target, htarget⟩ := @target_returns p m up s now hrefers
  simp only [stepFact, stepRisks, bind_ok, getItem_ok]
  exact ⟨_, g, hg, root, hroot, invariants, hinvariants, _, ⟨sources, hsources, contexts, hcontexts, capabilities, hcapabilities, coverage,
    hcoverage, retrievals, hretrievals, target, htarget, rfl⟩, rfl⟩

end

/-! ## Evaluation -/

/-- The evidence by the identifiers of its items. -/
def upstreamsOf (rt : Runtime) (p8a p8b p7i : Json) : Upstreams where
  delegations := itemsOf rt p8a "delegations" "delegation_id"
  retrievals := itemsOf rt p8b "retrievals" "retrieval_id"
  invariants := itemsOf rt p7i "invariants" "invariant_id"

theorem upstreams_eq {rt : Runtime} {p8a p8b p7i : Json} (h : validateUpstreams rt p p8a p8b p7i = .ok up) : up = upstreamsOf rt p8a p8b p7i := by
  simp only [validateUpstreams, bind_ok, rejectIf_ok, exists_const] at h
  obtain ⟨-, -, -, -, -, -, d, hd, r, hr, i, hi, he⟩ := h
  obtain rfl := Except.ok.inj he
  rw [uniqueItems_eq rt hd, uniqueItems_eq rt hr, uniqueItems_eq rt hi]
  rfl

/-- What `evaluate` decides with: the policy, the manifest, the evidence and the time. -/
def contextOf (rt : Runtime) (p : GoalPlanPolicy) (m : GoalPlanManifest) (p8a p8b p7i : Json) (now : Int) : Context :=
  ⟨p, m, upstreamsOf rt p8a p8b p7i, now⟩

/-- The checks that come before the decisions. -/
structure Passes (rt : GoalPlanRuntime) (p : GoalPlanPolicy) (q : GoalPlanRequest) (m : GoalPlanManifest) (p8a p8b p7i : Json) : Prop where
  policy : validatePolicy rt.toRuntime p = .ok ()
  request : validateRequest rt.toRuntime p q = .ok ()
  upstreams : validateUpstreams rt.toRuntime p p8a p8b p7i = .ok (upstreamsOf rt.toRuntime p8a p8b p7i)
  manifest : validateManifest rt p q m (upstreamsOf rt.toRuntime p8a p8b p7i) = .ok ()

section
variable {p8a p8b p7i : Json} {a : VerifiedGoalPlanIntegrityAssessment}

theorem Passes.accepted (h : Passes rt p q m p8a p8b p7i) : Accepted rt p m (upstreamsOf rt.toRuntime p8a p8b p7i) := accepted_of_valid h.manifest

/-- What is derived of a manifest that passes, before it is compared with what the caller declares. -/
structure Derived (rt : GoalPlanRuntime) (c : Context) (steps : List PlanStepIntegrityFact) (mutations : List PlanMutationIntegrityFact) : Prop where
  steps : Checks.gather (stepFact rt.toRuntime c) (sortOn PlanStep.stepId c.manifest.steps) = .ok steps
  mutations : Checks.gather (mutationFact rt.toRuntime c) (sortOn PlanMutation.mutationId c.manifest.mutations) = .ok mutations

/-- The facts of the goals. -/
def goalFacts (rt : Runtime) (c : Context) (steps : List PlanStepIntegrityFact) (mutations : List PlanMutationIntegrityFact) : List GoalIntegrityFact :=
  (sortOn AgentGoal.goalId c.manifest.goals).map (goalFact rt c steps mutations)

theorem evaluate_ok : evaluate rt p q m p8a p8b p7i = .ok a ↔ Passes rt p q m p8a p8b p7i ∧ ∃ steps mutations,
    Derived rt (contextOf rt.toRuntime p m p8a p8b p7i q.evaluatedAtEpoch) steps mutations ∧
    validateDeclared q steps mutations (goalFacts rt.toRuntime (contextOf rt.toRuntime p m p8a p8b p7i q.evaluatedAtEpoch) steps mutations) = .ok () ∧
    a = assessmentOf rt.toRuntime m p8a p8b p7i steps mutations
      (goalFacts rt.toRuntime (contextOf rt.toRuntime p m p8a p8b p7i q.evaluatedAtEpoch) steps mutations) := by
  simp only [evaluate, bind_ok]
  constructor
  · rintro ⟨_, hpolicy, _, hrequest, up, hup, _, hmanifest, steps, hsteps, mutations, hmutations, _, hdeclared, he⟩
    obtain rfl := upstreams_eq hup
    exact ⟨⟨hpolicy, hrequest, hup, hmanifest⟩, steps, mutations, ⟨hsteps, hmutations⟩, hdeclared, (Except.ok.inj he).symm⟩
  · rintro ⟨h, steps, mutations, hderived, hdeclared, rfl⟩
    exact ⟨(), h.policy, (), h.request, _, h.upstreams, (), h.manifest, steps, hderived.steps, mutations, hderived.mutations, (), hdeclared, rfl⟩

/-- `evaluate` raises what the decisions on the mutations raise, and rejections. -/
theorem evaluate_raises {P : Raised GoalPlanSecurityRejected → Prop} (hP : ∀ e, IsRejection e → P e)
    (h : Passes rt p q m p8a p8b p7i → Checks.Raises P (Checks.gather
      (mutationFact rt.toRuntime (contextOf rt.toRuntime p m p8a p8b p7i q.evaluatedAtEpoch)) (sortOn PlanMutation.mutationId m.mutations))) :
    Checks.Raises P (evaluate rt p q m p8a p8b p7i) := by
  have hreject : ∀ {α : Type} {x : Check α}, Checks.Raises IsRejection x → Checks.Raises P x := fun hx e he => hP e (hx e he)
  unfold evaluate
  refine .bind (hreject policy_rejects) fun _ hpolicy => ?_
  have hcovered := covered_of_valid hpolicy
  refine .bind (hreject rejectIf_rejects) fun _ hrequest => .bind (hreject upstreams_reject) fun up hup => ?_
  obtain rfl := upstreams_eq hup
  refine .bind (hreject (manifest_rejects hcovered)) fun _ hmanifest => ?_
  have haccepted := accepted_of_valid hmanifest
  have hreturns : ∀ s ∈ sortOn PlanStep.stepId m.steps, ∃ f, stepFact rt.toRuntime (contextOf rt.toRuntime p m p8a p8b p7i q.evaluatedAtEpoch) s = .ok f :=
    fun s hs => stepFact_returns hcovered haccepted (mem_sortOn.mp hs)
  obtain ⟨steps, hsteps⟩ := gather_exists hreturns
  dsimp only
  refine .bind (fun e he => ?_) fun _ _ => .bind (h ⟨hpolicy, hrequest, hup, hmanifest⟩) fun _ _ => .bind (hreject declared_rejects) fun _ _ => .ok
  cases hsteps.symm.trans he

end

namespace Sample

/-- The digest of sixty-four `a`, a colon and sixty-four `b`. -/
def chained : String := "6173cf9d3267e6b926102c8b149812658d05d834916fd23f7451c48c888147ab"

def textDigest (s : String) : String := if s = hex 'a' ++ ":" ++ hex 'b' then chained else s

/-- A runtime for texts in small letters and one manifest. -/
def runtime (document : Json) : GoalPlanRuntime :=
  { Runtime.folded (hex '0') hex_not_blank with
    sha256 := Assurance.tabledDigest [document]
    sha256_not_blank := Assurance.tabledDigest_one_not_blank document
    textSha256 := textDigest }

def manifestOf (instructions : List InstructionRecord) (goals : List AgentGoal) (steps : List PlanStep) (mutations : List PlanMutation) :
    GoalPlanManifest :=
  ⟨"graph", "1", hex '0', hex '0', hex '0', 10, instructions, goals, steps, mutations, goalPlanSchemaVersion⟩

/-- The policy that pins a manifest; `rollback` are the actions that roll back irreversible ones. -/
def policyFor (m : GoalPlanManifest) (actions : List (String × List String)) (rollback : List (String × String)) (irreversible : List String) :
    GoalPlanPolicy where
  expectedGraphId := "graph"
  expectedGraphVersion := "1"
  expectedGraphSha256 := hex '0'
  expectedP8aAssessmentEvidenceSha256 := hex '0'
  expectedP8bAssessmentEvidenceSha256 := hex '0'
  expectedP7iAssessmentEvidenceSha256 := hex '0'
  requiredInstructionIds := m.instructions.map (·.instructionId)
  requiredGoalIds := m.goals.map (·.goalId)
  requiredStepIds := m.steps.map (·.stepId)
  requiredMutationIds := m.mutations.map (·.mutationId)
  trustedOwnerIds := ["owner"]
  trustedAgentIds := ["bot"]
  trustedMutationAgentIds := ["bot"]
  allowedSanitizationEvidenceSha256 := []
  expectedInstructionSource := m.instructions.map fun i => (i.instructionId, i.source)
  expectedInstructionDirective := m.instructions.map fun i => (i.instructionId, i.directive)
  expectedInstructionTrust := m.instructions.map fun i => (i.instructionId, i.trust)
  expectedInstructionPrecedence := m.instructions.map fun i => (i.instructionId, i.precedence)
  expectedInstructionAllowedActions := m.instructions.map fun i => (i.instructionId, i.allowedActionClasses)
  expectedGoalRootInstruction := m.goals.map fun g => (g.goalId, g.rootInstructionId)
  expectedGoalPrincipal := m.goals.map fun g => (g.goalId, g.originalPrincipalId)
  expectedGoalTenant := m.goals.map fun g => (g.goalId, g.tenantId)
  expectedGoalSession := m.goals.map fun g => (g.goalId, g.sessionId)
  expectedGoalDelegation := m.goals.map fun g => (g.goalId, g.delegationId)
  expectedGoalAllowedActions := m.goals.map fun g => (g.goalId, g.allowedActionClasses)
  expectedGoalMaxSteps := m.goals.map fun g => (g.goalId, g.maxStepCount)
  actionRequiredCapabilities := actions.map fun a => (a.1, ["read"])
  actionRequiredP7iInvariants := actions
  rollbackActionByAction := rollback
  irreversibleActionClasses := irreversible
  maxManifestAgeSeconds := 100
  maxFutureSkewSeconds := 0

def delegations : Json := .obj [("assessment_evidence_sha256", .str (hex '0')), ("exact_delegation_graph_binding_verified", .bool true),
  ("agent_identity_continuity_verified", .bool true), ("authority_non_amplification_verified", .bool true),
  ("delegations", .arr [.obj [("delegation_id", .str "grant"), ("decision", .str "allow")]])]

def memory : Json := .obj [("assessment_evidence_sha256", .str (hex '0')), ("exact_memory_graph_binding_verified", .bool true),
  ("memory_provenance_verified", .bool true), ("retrieval_trust_labels_derived_from_evidence", .bool true),
  ("revocation_and_supersession_enforced", .bool true),
  ("retrievals", .arr [.obj [("retrieval_id", .str "note"), ("decision", .str "deny"), ("tenant_id", .str "other")]])]

/-- One invariant, which holds. -/
def architecture (id : String) : Json := .obj [("assessment_evidence_sha256", .str (hex '0')), ("exact_catalog_binding_verified", .bool true),
  ("blast_radius_derived_from_evidence", .bool true), ("counterevidence_preserved", .bool true),
  ("invariants", .arr [.obj [("invariant_id", .str id), ("state", .str "holds")]])]

/-- A request for a manifest; what it declares is left to be filled in. -/
def requestFor (m : GoalPlanManifest) (now : Int) : GoalPlanRequest where
  graphId := "graph"
  graphVersion := "1"
  graphSha256 := hex '0'
  p8aAssessmentEvidenceSha256 := hex '0'
  p8bAssessmentEvidenceSha256 := hex '0'
  p7iAssessmentEvidenceSha256 := hex '0'
  evaluatedAtEpoch := now
  goalIds := m.goals.map (·.goalId)
  stepIds := m.steps.map (·.stepId)
  mutationIds := m.mutations.map (·.mutationId)
  declaredDeniedStepIds := []
  declaredDeniedMutationIds := []
  declaredUnsafeGoalIds := []
  declaredMaxIntegrityRiskScore := 0

end Sample

end Aegis.Agentic.GoalPlan
