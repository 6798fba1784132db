/-
  Aegis.Agentic.GoalPlan — `AgentGoalPlanIntegrityAnalyzer` (goal_plan_security.py): the steps of a
  plan, and the mutations proposed to it, are decided by the goal they serve, the instructions they
  come from, and the upstream evidence for delegations, memory retrievals and invariants.
-/

import Aegis.Agentic.Decision
import Aegis.Agentic.Delegation
import Mathlib.Data.Prod.Lex

namespace Aegis.Agentic.GoalPlan

open Data Evidence Checked Decision
open Delegation (isSha256 verified exactly texts)

def goalPlanSchemaVersion : String := "aegis-agent-goal-plan-manifest-v1"

inductive InstructionSource where
  | systemPolicy | userGoal | delegatedGoal | agentDerived | memory | toolOutput | externalContent
  deriving DecidableEq, Repr

def InstructionSource.value : InstructionSource → String
  | systemPolicy => "system_policy"
  | userGoal => "user_goal"
  | delegatedGoal => "delegated_goal"
  | agentDerived => "agent_derived"
  | memory => "memory"
  | toolOutput => "tool_output"
  | externalContent => "external_content"

inductive InstructionDirective where
  | objective | constraint | suggestion | terminate | rollback
  deriving DecidableEq, Repr

def InstructionDirective.value : InstructionDirective → String
  | objective => "objective"
  | constraint => "constraint"
  | suggestion => "suggestion"
  | terminate => "terminate"
  | rollback => "rollback"

inductive InstructionTrust where
  | untrusted | contextual | userAuthorized | delegatedAuthorized | system
  deriving DecidableEq, Repr

namespace InstructionTrust

def value : InstructionTrust → String
  | untrusted => "untrusted"
  | contextual => "contextual"
  | userAuthorized => "user_authorized"
  | delegatedAuthorized => "delegated_authorized"
  | system => "system"

/-- `_trust_rank`. -/
def rank : InstructionTrust → Nat
  | untrusted => 1
  | contextual => 2
  | userAuthorized => 3
  | delegatedAuthorized => 4
  | system => 5

end InstructionTrust

inductive PlanMutationType where
  | append | replace | delete | terminate | rollback
  deriving DecidableEq, Repr

def PlanMutationType.value : PlanMutationType → String
  | append => "append"
  | replace => "replace"
  | delete => "delete"
  | terminate => "terminate"
  | rollback => "rollback"

inductive IntegrityDecision where
  | allow | deny
  deriving DecidableEq, Repr

def IntegrityDecision.value : IntegrityDecision → String
  | allow => "allow"
  | deny => "deny"

inductive GoalIntegrityState where
  | holds | violated
  deriving DecidableEq, Repr

def GoalIntegrityState.value : GoalIntegrityState → String
  | holds => "holds"
  | violated => "violated"

inductive GoalPlanRisk where
  | goalProvenanceBroken | goalScopeExpansion | instructionPrecedenceViolation | instructionLaundering | memoryInstructionEscalation
  | toolOutputInstructionEscalation | delegatedGoalContinuity | upstreamDelegationDenied | upstreamMemoryDenied | memoryContextMismatch
  | capabilityScopeMismatch | planStepUnauthorized | planMutationUnauthorized | terminationBypass | rollbackBypass | planSequenceInvalid
  | stepLimitExceeded | architectureInvariantUnsafe | expiredGoal | crossTenant | crossSession
  deriving DecidableEq, Repr

namespace GoalPlanRisk

def value : GoalPlanRisk → String
  | goalProvenanceBroken => "goal_provenance_broken"
  | goalScopeExpansion => "goal_scope_expansion"
  | instructionPrecedenceViolation => "instruction_precedence_violation"
  | instructionLaundering => "instruction_laundering"
  | memoryInstructionEscalation => "memory_instruction_escalation"
  | toolOutputInstructionEscalation => "tool_output_instruction_escalation"
  | delegatedGoalContinuity => "delegated_goal_continuity"
  | upstreamDelegationDenied => "upstream_delegation_denied"
  | upstreamMemoryDenied => "upstream_memory_denied"
  | memoryContextMismatch => "memory_context_mismatch"
  | capabilityScopeMismatch => "capability_scope_mismatch"
  | planStepUnauthorized => "plan_step_unauthorized"
  | planMutationUnauthorized => "plan_mutation_unauthorized"
  | terminationBypass => "termination_bypass"
  | rollbackBypass => "rollback_bypass"
  | planSequenceInvalid => "plan_sequence_invalid"
  | stepLimitExceeded => "step_limit_exceeded"
  | architectureInvariantUnsafe => "architecture_invariant_unsafe"
  | expiredGoal => "expired_goal"
  | crossTenant => "cross_tenant"
  | crossSession => "cross_session"

/-- `_risk_priority`. -/
def priority : GoalPlanRisk → Int
  | instructionLaundering => 100
  | goalScopeExpansion => 98
  | terminationBypass => 96
  | rollbackBypass => 94
  | delegatedGoalContinuity => 92
  | upstreamDelegationDenied => 90
  | planMutationUnauthorized => 88
  | planStepUnauthorized => 86
  | instructionPrecedenceViolation => 84
  | memoryInstructionEscalation => 82
  | toolOutputInstructionEscalation => 80
  | capabilityScopeMismatch => 78
  | architectureInvariantUnsafe => 76
  | upstreamMemoryDenied => 74
  | memoryContextMismatch => 72
  | goalProvenanceBroken => 70
  | crossTenant => 68
  | crossSession => 66
  | planSequenceInvalid => 64
  | stepLimitExceeded => 62
  | expiredGoal => 60

/-- `tuple(sorted(risks, key=(-_risk_priority(value), value.value)))` of a set. -/
def ordered (risks : List GoalPlanRisk) : List GoalPlanRisk := sortOn (fun r => toLex (-r.priority, r.value)) risks.dedup

/-- `_risk_score`. -/
def score (risks : List GoalPlanRisk) : Int :=
  match sortOn (fun n => -n) (risks.map priority) with
  | [] => 0
  | highest :: rest => highest + min 30 (max 0 ((rest.length : Int) * 5))

@[simp] theorem mem_ordered {risks : List GoalPlanRisk} {r : GoalPlanRisk} : r ∈ ordered risks ↔ r ∈ risks := by
  rw [ordered, mem_sortOn, List.mem_dedup]

end GoalPlanRisk

inductive GoalPlanRejectReason where
  | policyInvalid | requestInvalid | p8aUnverified | p8aDigestMismatch | p8bUnverified | p8bDigestMismatch | p7iUnverified
  | p7iDigestMismatch | manifestInvalid | manifestDigestMismatch | manifestStale | manifestFuture | instructionDuplicate
  | instructionCoverageMismatch | instructionOwnerUntrusted | instructionSourceDrift | instructionDirectiveDrift | instructionTrustDrift
  | instructionPrecedenceDrift | instructionActionDrift | instructionReferenceUnknown | instructionProvenanceInvalid | instructionCycle
  | instructionSanitizationInvalid | goalDuplicate | goalCoverageMismatch | goalOwnerUntrusted | goalRootDrift | goalPrincipalDrift
  | goalTenantDrift | goalSessionDrift | goalDelegationDrift | goalActionDrift | goalStepLimitDrift | goalTimeInvalid | stepDuplicate
  | stepCoverageMismatch | stepOwnerUntrusted | stepReferenceUnknown | stepAgentUntrusted | stepCapabilityUnknown | stepTimeInvalid
  | mutationDuplicate | mutationCoverageMismatch | mutationOwnerUntrusted | mutationReferenceUnknown | mutationActorUntrusted
  | actionPolicyMissing | declaredStepDecisionMismatch | declaredMutationDecisionMismatch | declaredGoalStateMismatch | declaredMaxRiskMismatch
  deriving DecidableEq, Repr

/-- `GoalPlanSecurityRejected`, but for its message: the reason, and the one item it may name. -/
structure GoalPlanSecurityRejected where
  reason : GoalPlanRejectReason
  instructionId : Option String
  goalId : Option String
  stepId : Option String
  mutationId : Option String
  deriving DecidableEq, Repr

namespace GoalPlanRejectReason

def plain (r : GoalPlanRejectReason) : GoalPlanSecurityRejected := ⟨r, none, none, none, none⟩

def instruction (r : GoalPlanRejectReason) (id : Option String) : GoalPlanSecurityRejected := ⟨r, id, none, none, none⟩

def goal (r : GoalPlanRejectReason) (id : Option String) : GoalPlanSecurityRejected := ⟨r, none, id, none, none⟩

def step (r : GoalPlanRejectReason) (id : Option String) : GoalPlanSecurityRejected := ⟨r, none, none, id, none⟩

def mutation (r : GoalPlanRejectReason) (id : Option String) : GoalPlanSecurityRejected := ⟨r, none, none, none, id⟩

end GoalPlanRejectReason

abbrev Check := Checked GoalPlanSecurityRejected

/-! ## The manifest, the request and the policy -/

structure InstructionRecord where
  instructionId : String
  goalId : Option String
  source : InstructionSource
  directive : InstructionDirective
  trust : InstructionTrust
  precedence : Int
  tenantId : String
  sessionId : Option String
  originalPrincipalId : String
  contentSha256 : String
  provenanceSha256 : String
  parentInstructionId : Option String
  memoryRetrievalId : Option String
  toolOutputSha256 : Option String
  allowedActionClasses : List String
  sanitized : Bool
  sanitizationEvidenceSha256 : Option String
  issuedAtEpoch : Int
  ownerId : String
  description : String
  deriving DecidableEq, Repr

structure AgentGoal where
  goalId : String
  rootInstructionId : String
  originalPrincipalId : String
  tenantId : String
  sessionId : Option String
  delegationId : Option String
  allowedActionClasses : List String
  maxStepCount : Int
  createdAtEpoch : Int
  expiresAtEpoch : Int
  ownerId : String
  description : String
  deriving DecidableEq, Repr

structure PlanStep where
  stepId : String
  goalId : String
  sequence : Int
  agentId : String
  actionClass : String
  sourceInstructionIds : List String
  capabilityIds : List String
  memoryRetrievalIds : List String
  irreversible : Bool
  rollbackForStepId : Option String
  createdAtEpoch : Int
  ownerId : String
  description : String
  deriving DecidableEq, Repr

structure PlanMutation where
  mutationId : String
  goalId : String
  actorAgentId : String
  targetStepId : Option String
  mutationType : PlanMutationType
  sourceInstructionId : String
  proposedActionClass : Option String
  proposedInstructionIds : List String
  createdAtEpoch : Int
  ownerId : String
  description : String
  deriving DecidableEq, Repr

structure GoalPlanManifest where
  graphId : String
  version : String
  p8aAssessmentEvidenceSha256 : String
  p8bAssessmentEvidenceSha256 : String
  p7iAssessmentEvidenceSha256 : String
  createdAtEpoch : Int
  instructions : List InstructionRecord
  goals : List AgentGoal
  steps : List PlanStep
  mutations : List PlanMutation
  schemaVersion : String
  deriving DecidableEq, Repr

structure GoalPlanRequest where
  graphId : String
  graphVersion : String
  graphSha256 : String
  p8aAssessmentEvidenceSha256 : String
  p8bAssessmentEvidenceSha256 : String
  p7iAssessmentEvidenceSha256 : String
  evaluatedAtEpoch : Int
  goalIds : List String
  stepIds : List String
  mutationIds : List String
  declaredDeniedStepIds : List String
  declaredDeniedMutationIds : List String
  declaredUnsafeGoalIds : List String
  declaredMaxIntegrityRiskScore : Int

structure GoalPlanPolicy where
  expectedGraphId : String
  expectedGraphVersion : String
  expectedGraphSha256 : String
  expectedP8aAssessmentEvidenceSha256 : String
  expectedP8bAssessmentEvidenceSha256 : String
  expectedP7iAssessmentEvidenceSha256 : String
  requiredInstructionIds : List String
  requiredGoalIds : List String
  requiredStepIds : List String
  requiredMutationIds : List String
  trustedOwnerIds : List String
  trustedAgentIds : List String
  trustedMutationAgentIds : List String
  allowedSanitizationEvidenceSha256 : List String
  expectedInstructionSource : List (String × InstructionSource)
  expectedInstructionDirective : List (String × InstructionDirective)
  expectedInstructionTrust : List (String × InstructionTrust)
  expectedInstructionPrecedence : List (String × Int)
  expectedInstructionAllowedActions : List (String × List String)
  expectedGoalRootInstruction : List (String × String)
  expectedGoalPrincipal : List (String × String)
  expectedGoalTenant : List (String × String)
  expectedGoalSession : List (String × Option String)
  expectedGoalDelegation : List (String × Option String)
  expectedGoalAllowedActions : List (String × List String)
  expectedGoalMaxSteps : List (String × Int)
  actionRequiredCapabilities : List (String × List String)
  /-- The invariants of an action in the order in which Python goes through the set. -/
  actionRequiredP7iInvariants : List (String × List String)
  rollbackActionByAction : List (String × String)
  irreversibleActionClasses : List String
  maxManifestAgeSeconds : Int
  maxFutureSkewSeconds : Int

structure PlanStepIntegrityFact where
  stepId : String
  goalId : String
  sequence : Int
  agentId : String
  actionClass : String
  decision : IntegrityDecision
  risks : List GoalPlanRisk
  sourceInstructionIds : List String
  capabilityIds : List String
  memoryRetrievalIds : List String
  requiredP7iInvariantIds : List String
  rollbackForStepId : Option String
  riskScore : Int
  deriving DecidableEq, Repr

structure PlanMutationIntegrityFact where
  mutationId : String
  goalId : String
  mutationType : PlanMutationType
  actorAgentId : String
  sourceInstructionId : String
  decision : IntegrityDecision
  risks : List GoalPlanRisk
  proposedActionClass : Option String
  riskScore : Int
  deriving DecidableEq, Repr

structure GoalIntegrityFact where
  goalId : String
  originalPrincipalId : String
  tenantId : String
  sessionId : Option String
  delegationId : Option String
  state : GoalIntegrityState
  risks : List GoalPlanRisk
  deniedStepIds : List String
  deniedMutationIds : List String
  maxRiskScore : Int
  deriving DecidableEq, Repr

structure VerifiedGoalPlanIntegrityAssessment where
  graphId : String
  graphVersion : String
  graphSha256 : String
  p8aAssessmentEvidenceSha256 : String
  p8bAssessmentEvidenceSha256 : String
  p7iAssessmentEvidenceSha256 : String
  maxIntegrityRiskScore : Int
  prioritizedUnsafeGoalIds : List String
  steps : List PlanStepIntegrityFact
  mutations : List PlanMutationIntegrityFact
  goals : List GoalIntegrityFact
  assessmentEvidenceSha256 : String
  deriving DecidableEq, Repr

/-- What the analyzer takes from Python, and `hashlib.sha256` of a text. -/
structure GoalPlanRuntime extends Runtime where
  textSha256 : String → String

variable (rt : Runtime)

/-! ## Digests -/

/-- `item.casefold() if item else None`. -/
def foldedOpt (s : Option String) : Json :=
  match s with
  | none => .null
  | some t => if t = "" then .null else .str (rt.casefold t)

def AgentGoal.document (g : AgentGoal) : Json :=
  .obj [("allowed_action_classes", texts g.allowedActionClasses), ("created_at_epoch", .int g.createdAtEpoch),
    ("delegation_id", optText g.delegationId), ("description", .str g.description), ("expires_at_epoch", .int g.expiresAtEpoch),
    ("goal_id", .str g.goalId), ("max_step_count", .int g.maxStepCount), ("original_principal_id", .str g.originalPrincipalId),
    ("owner_id", .str g.ownerId), ("root_instruction_id", .str g.rootInstructionId), ("session_id", optText g.sessionId),
    ("tenant_id", .str g.tenantId)]

def InstructionRecord.document (i : InstructionRecord) : Json :=
  .obj [("allowed_action_classes", texts i.allowedActionClasses), ("content_sha256", .str (rt.casefold i.contentSha256)),
    ("description", .str i.description), ("directive", .str i.directive.value), ("goal_id", optText i.goalId),
    ("instruction_id", .str i.instructionId), ("issued_at_epoch", .int i.issuedAtEpoch), ("memory_retrieval_id", optText i.memoryRetrievalId),
    ("original_principal_id", .str i.originalPrincipalId), ("owner_id", .str i.ownerId), ("parent_instruction_id", optText i.parentInstructionId),
    ("precedence", .int i.precedence), ("provenance_sha256", .str (rt.casefold i.provenanceSha256)),
    ("sanitization_evidence_sha256", foldedOpt rt i.sanitizationEvidenceSha256), ("sanitized", .bool i.sanitized),
    ("session_id", optText i.sessionId), ("source", .str i.source.value), ("tenant_id", .str i.tenantId),
    ("tool_output_sha256", foldedOpt rt i.toolOutputSha256), ("trust", .str i.trust.value)]

def PlanMutation.document (u : PlanMutation) : Json :=
  .obj [("actor_agent_id", .str u.actorAgentId), ("created_at_epoch", .int u.createdAtEpoch), ("description", .str u.description),
    ("goal_id", .str u.goalId), ("mutation_id", .str u.mutationId), ("mutation_type", .str u.mutationType.value), ("owner_id", .str u.ownerId),
    ("proposed_action_class", optText u.proposedActionClass), ("proposed_instruction_ids", texts u.proposedInstructionIds),
    ("source_instruction_id", .str u.sourceInstructionId), ("target_step_id", optText u.targetStepId)]

def PlanStep.document (s : PlanStep) : Json :=
  .obj [("action_class", .str s.actionClass), ("agent_id", .str s.agentId), ("capability_ids", texts s.capabilityIds),
    ("created_at_epoch", .int s.createdAtEpoch), ("description", .str s.description), ("goal_id", .str s.goalId),
    ("irreversible", .bool s.irreversible), ("memory_retrieval_ids", texts s.memoryRetrievalIds), ("owner_id", .str s.ownerId),
    ("rollback_for_step_id", optText s.rollbackForStepId), ("sequence", .int s.sequence),
    ("source_instruction_ids", texts s.sourceInstructionIds), ("step_id", .str s.stepId)]

/-- `canonical_goal_plan_manifest_bytes`. -/
def GoalPlanManifest.canonical (m : GoalPlanManifest) : Json :=
  .obj [("created_at_epoch", .int m.createdAtEpoch), ("goals", .arr ((sortOn AgentGoal.goalId m.goals).map AgentGoal.document)),
    ("graph_id", .str m.graphId),
    ("instructions", .arr ((sortOn InstructionRecord.instructionId m.instructions).map (InstructionRecord.document rt))),
    ("mutations", .arr ((sortOn PlanMutation.mutationId m.mutations).map PlanMutation.document)),
    ("p7i_assessment_evidence_sha256", .str (rt.casefold m.p7iAssessmentEvidenceSha256)),
    ("p8a_assessment_evidence_sha256", .str (rt.casefold m.p8aAssessmentEvidenceSha256)),
    ("p8b_assessment_evidence_sha256", .str (rt.casefold m.p8bAssessmentEvidenceSha256)), ("schema_version", .str m.schemaVersion),
    ("steps", .arr ((sortOn PlanStep.stepId m.steps).map PlanStep.document)), ("version", .str m.version)]

/-- `goal_plan_manifest_digest`. -/
def GoalPlanManifest.digest (m : GoalPlanManifest) : String := rt.sha256 (m.canonical rt)

namespace GoalPlanManifest

variable (m : GoalPlanManifest)

def instruction : Dict InstructionRecord := .ofItems InstructionRecord.instructionId m.instructions

def goal : Dict AgentGoal := .ofItems AgentGoal.goalId m.goals

def step : Dict PlanStep := .ofItems PlanStep.stepId m.steps

/-- `instructions[id].parent_instruction_id`. -/
def parentOf : Dict String := fun id => (m.instruction id).bind (·.parentInstructionId)

end GoalPlanManifest

/-! ## Policy and upstreams -/

/-- The keys of `instruction_maps`. -/
def GoalPlanPolicy.instructionMaps (p : GoalPlanPolicy) : List (List String) :=
  [p.expectedInstructionSource.map (·.1), p.expectedInstructionDirective.map (·.1), p.expectedInstructionTrust.map (·.1),
    p.expectedInstructionPrecedence.map (·.1), p.expectedInstructionAllowedActions.map (·.1)]

/-- The keys of `goal_maps`. -/
def GoalPlanPolicy.goalMaps (p : GoalPlanPolicy) : List (List String) :=
  [p.expectedGoalRootInstruction.map (·.1), p.expectedGoalPrincipal.map (·.1), p.expectedGoalTenant.map (·.1),
    p.expectedGoalSession.map (·.1), p.expectedGoalDelegation.map (·.1), p.expectedGoalAllowedActions.map (·.1),
    p.expectedGoalMaxSteps.map (·.1)]

/-- The action classes the policy knows. -/
def GoalPlanPolicy.actions (p : GoalPlanPolicy) : List String := p.actionRequiredCapabilities.map (·.1)

/-- `_validate_policy`. -/
def validatePolicy (p : GoalPlanPolicy) : Check Unit := do
  let invalid := GoalPlanRejectReason.policyInvalid.plain
  rejectIf (p.expectedGraphId = "" ∨ p.expectedGraphVersion = "" ∨
    ¬ (isSha256 rt p.expectedGraphSha256 ∧ isSha256 rt p.expectedP8aAssessmentEvidenceSha256 ∧
      isSha256 rt p.expectedP8bAssessmentEvidenceSha256 ∧ isSha256 rt p.expectedP7iAssessmentEvidenceSha256) ∨
    p.requiredInstructionIds = [] ∨ p.requiredGoalIds = [] ∨ p.requiredStepIds = [] ∨ p.trustedOwnerIds = [] ∨ p.trustedAgentIds = [] ∨
    p.trustedMutationAgentIds = [] ∨ p.maxManifestAgeSeconds ≤ 0 ∨ p.maxFutureSkewSeconds < 0) invalid
    "goal/plan policy metadata is invalid" none
  rejectIf (∃ keys ∈ p.instructionMaps, ¬ sameSet keys p.requiredInstructionIds) invalid
    "instruction policy maps must exactly cover required instructions" none
  rejectIf (∃ keys ∈ p.goalMaps, ¬ sameSet keys p.requiredGoalIds) invalid "goal policy maps must exactly cover required goals" none
  rejectIf (∃ l ∈ p.expectedGoalMaxSteps, l.2 ≤ 0) invalid "goal step limits must be positive" none
  rejectIf (p.actions = [] ∨ ¬ sameSet (p.actionRequiredP7iInvariants.map (·.1)) p.actions) invalid
    "action capability/invariant policy maps must have identical non-empty coverage" none
  rejectIf (∃ a ∈ p.rollbackActionByAction, a.2 ∉ p.actions) invalid "rollback action policy references unknown action class" none
  rejectIf ((∃ a ∈ p.irreversibleActionClasses, a ∉ p.actions) ∨
    ∃ a ∈ p.irreversibleActionClasses, a ∉ p.rollbackActionByAction.map (·.1)) invalid
    "irreversible actions must be known and have rollback mappings" none
  rejectIf (∃ g ∈ p.expectedGoalAllowedActions, ∃ a ∈ g.2, a ∉ p.actions) invalid "goal policy references unknown action class" none

structure Upstreams where
  delegations : Dict Json
  retrievals : Dict Json
  invariants : Dict Json

/-- `_validate_upstreams`. -/
def validateUpstreams (p : GoalPlanPolicy) (p8a p8b p7i : Json) : Check Upstreams := do
  rejectIf (¬ verified p8a ["exact_delegation_graph_binding_verified", "agent_identity_continuity_verified",
    "authority_non_amplification_verified"]) (GoalPlanRejectReason.plain .p8aUnverified) "P8-A delegation evidence is not fully verified" none
  rejectIf (Evidence.digest rt p8a ≠ rt.casefold p.expectedP8aAssessmentEvidenceSha256) (GoalPlanRejectReason.plain .p8aDigestMismatch)
    "P8-A evidence digest does not match goal/plan policy" none
  rejectIf (¬ verified p8b ["exact_memory_graph_binding_verified", "memory_provenance_verified",
    "retrieval_trust_labels_derived_from_evidence", "revocation_and_supersession_enforced"]) (GoalPlanRejectReason.plain .p8bUnverified)
    "P8-B memory evidence is not fully verified" none
  rejectIf (Evidence.digest rt p8b ≠ rt.casefold p.expectedP8bAssessmentEvidenceSha256) (GoalPlanRejectReason.plain .p8bDigestMismatch)
    "P8-B evidence digest does not match goal/plan policy" none
  rejectIf (¬ verified p7i ["exact_catalog_binding_verified", "blast_radius_derived_from_evidence", "counterevidence_preserved"])
    (GoalPlanRejectReason.plain .p7iUnverified) "P7-I invariant evidence is not fully verified" none
  rejectIf (Evidence.digest rt p7i ≠ rt.casefold p.expectedP7iAssessmentEvidenceSha256) (GoalPlanRejectReason.plain .p7iDigestMismatch)
    "P7-I evidence digest does not match goal/plan policy" none
  let delegations ← uniqueItems rt (GoalPlanRejectReason.plain .p8aUnverified) p8a "delegations" "delegation_id"
  let retrievals ← uniqueItems rt (GoalPlanRejectReason.plain .p8bUnverified) p8b "retrievals" "retrieval_id"
  let invariants ← uniqueItems rt (GoalPlanRejectReason.plain .p7iUnverified) p7i "invariants" "invariant_id"
  pure ⟨delegations, retrievals, invariants⟩

/-! ## The manifest -/

def validateSanitization (p : GoalPlanPolicy) (i : InstructionRecord) : Check Unit :=
  let invalid := GoalPlanRejectReason.instruction .instructionSanitizationInvalid (some i.instructionId)
  if i.sanitized = true then
    rejectIf (¬ ∃ e ∈ i.sanitizationEvidenceSha256, e ≠ "" ∧ rt.casefold e ∈ p.allowedSanitizationEvidenceSha256.map rt.casefold) invalid
      "instruction sanitization evidence is not policy-approved" none
  else
    rejectIf (i.sanitizationEvidenceSha256 ≠ none) invalid "unsanitized instruction cannot carry sanitization evidence" none

def validateInstruction (p : GoalPlanPolicy) (m : GoalPlanManifest) (up : Upstreams) (i : InstructionRecord) : Check Unit := do
  let reject (r : GoalPlanRejectReason) := r.instruction (some i.instructionId)
  rejectIf (i.ownerId ∉ p.trustedOwnerIds) (reject .instructionOwnerUntrusted) "instruction owner is untrusted" none
  let source ← getItem (Dict.mapping p.expectedInstructionSource) i.instructionId
  rejectIf (i.source ≠ source) (reject .instructionSourceDrift) "instruction source differs from policy" none
  let directive ← getItem (Dict.mapping p.expectedInstructionDirective) i.instructionId
  rejectIf (i.directive ≠ directive) (reject .instructionDirectiveDrift) "instruction directive differs from policy" none
  let trust ← getItem (Dict.mapping p.expectedInstructionTrust) i.instructionId
  rejectIf (i.trust ≠ trust) (reject .instructionTrustDrift) "instruction trust differs from policy" none
  let precedence ← getItem (Dict.mapping p.expectedInstructionPrecedence) i.instructionId
  rejectIf (i.precedence ≠ precedence ∨ i.precedence ≤ 0) (reject .instructionPrecedenceDrift) "instruction precedence differs from policy" none
  let actions ← getItem (Dict.mapping p.expectedInstructionAllowedActions) i.instructionId
  rejectIf (¬ exactly i.allowedActionClasses actions) (reject .instructionActionDrift) "instruction allowed actions differ from policy" none
  rejectIf (¬ isSha256 rt i.contentSha256 ∨ ¬ isSha256 rt i.provenanceSha256) (reject .instructionProvenanceInvalid)
    "instruction content/provenance digest is invalid" none
  rejectIf (∃ parent ∈ i.parentInstructionId, parent ∉ m.instructions.map (·.instructionId)) (reject .instructionReferenceUnknown)
    "instruction parent is unknown" none
  rejectIf (∃ r ∈ i.memoryRetrievalId, up.retrievals r = none) (reject .instructionReferenceUnknown)
    "instruction references unknown P8-B retrieval" none
  rejectIf (∃ t ∈ i.toolOutputSha256, ¬ isSha256 rt t) (reject .instructionProvenanceInvalid) "instruction tool-output digest is invalid" none
  validateSanitization rt p i
  rejectIf (i.source = .memory ∧ i.memoryRetrievalId = none) (reject .instructionReferenceUnknown)
    "memory instruction must bind P8-B retrieval evidence" none
  rejectIf (i.source = .toolOutput ∧ i.toolOutputSha256 = none) (reject .instructionProvenanceInvalid)
    "tool-output instruction must bind output digest" none

/-- The walk from an instruction to those it was derived from. -/
def validateAncestry (m : GoalPlanManifest) (i : InstructionRecord) : Check Unit :=
  rejectIf (Ascent.walk m.parentOf m.instructions.length [] (some i.instructionId) = false)
    (GoalPlanRejectReason.instruction .instructionCycle (some i.instructionId)) "instruction provenance graph contains a cycle" none

/-- `instruction_provenance_digest`. -/
def instructionProvenanceDigest (rt : GoalPlanRuntime) (parentProvenanceSha256 contentSha256 : String) : String :=
  rt.textSha256 (rt.casefold parentProvenanceSha256 ++ ":" ++ rt.casefold contentSha256)

/-- An instruction that was derived from another continues its provenance, and gains nothing without sanitization. -/
def validateDerivation (rt : GoalPlanRuntime) (m : GoalPlanManifest) (i : InstructionRecord) : Check Unit :=
  let reject (r : GoalPlanRejectReason) := r.instruction (some i.instructionId)
  match i.parentInstructionId with
  | none => .ok ()
  | some id => do
    let parent ← getItem m.instruction id
    rejectIf (instructionProvenanceDigest rt parent.provenanceSha256 i.contentSha256 ≠ rt.casefold i.provenanceSha256)
      (reject .instructionProvenanceInvalid) "derived instruction provenance chain is invalid" none
    rejectIf ((i.precedence > parent.precedence ∨ i.trust.rank > parent.trust.rank) ∧ i.sanitized = false)
      (reject .instructionSanitizationInvalid) "instruction cannot gain precedence/trust without approved sanitization" none

def validateGoal (p : GoalPlanPolicy) (now : Int) (m : GoalPlanManifest) (up : Upstreams) (g : AgentGoal) : Check Unit := do
  let reject (r : GoalPlanRejectReason) := r.goal (some g.goalId)
  rejectIf (g.ownerId ∉ p.trustedOwnerIds) (reject .goalOwnerUntrusted) "goal owner is untrusted" none
  let expectedRoot ← getItem (Dict.mapping p.expectedGoalRootInstruction) g.goalId
  rejectIf (g.rootInstructionId ≠ expectedRoot ∨ g.rootInstructionId ∉ m.instructions.map (·.instructionId)) (reject .goalRootDrift)
    "goal root instruction differs from policy" none
  let principal ← getItem (Dict.mapping p.expectedGoalPrincipal) g.goalId
  rejectIf (g.originalPrincipalId ≠ principal) (reject .goalPrincipalDrift) "goal original principal differs from policy" none
  let tenant ← getItem (Dict.mapping p.expectedGoalTenant) g.goalId
  rejectIf (g.tenantId ≠ tenant) (reject .goalTenantDrift) "goal tenant differs from policy" none
  let session ← getItem (Dict.mapping p.expectedGoalSession) g.goalId
  rejectIf (g.sessionId ≠ session) (reject .goalSessionDrift) "goal session differs from policy" none
  let delegation ← getItem (Dict.mapping p.expectedGoalDelegation) g.goalId
  rejectIf (g.delegationId ≠ delegation) (reject .goalDelegationDrift) "goal delegation differs from policy" none
  rejectIf (∃ d ∈ g.delegationId, up.delegations d = none) (reject .goalDelegationDrift) "goal delegation is unknown" none
  let actions ← getItem (Dict.mapping p.expectedGoalAllowedActions) g.goalId
  rejectIf (¬ exactly g.allowedActionClasses actions) (reject .goalActionDrift) "goal allowed actions differ from policy" none
  let maxSteps ← getItem (Dict.mapping p.expectedGoalMaxSteps) g.goalId
  rejectIf (g.maxStepCount ≠ maxSteps ∨ g.maxStepCount ≤ 0) (reject .goalStepLimitDrift) "goal step bound differs from policy" none
  rejectIf (g.expiresAtEpoch ≤ g.createdAtEpoch ∨ g.createdAtEpoch > now + p.maxFutureSkewSeconds) (reject .goalTimeInvalid)
    "goal timestamps are invalid" none
  let root ← getItem m.instruction g.rootInstructionId
  rejectIf (root.goalId ≠ some g.goalId ∨ root.originalPrincipalId ≠ g.originalPrincipalId ∨ root.tenantId ≠ g.tenantId ∨
    root.sessionId ≠ g.sessionId) (reject .goalRootDrift) "goal/root-instruction identity context is inconsistent" none

def validateStep (p : GoalPlanPolicy) (m : GoalPlanManifest) (up : Upstreams) (s : PlanStep) : Check Unit := do
  let reject (r : GoalPlanRejectReason) := r.step (some s.stepId)
  rejectIf (s.ownerId ∉ p.trustedOwnerIds) (reject .stepOwnerUntrusted) "plan-step owner is untrusted" none
  rejectIf (s.goalId ∉ m.goals.map (·.goalId) ∨ (∃ i ∈ s.sourceInstructionIds, i ∉ m.instructions.map (·.instructionId)) ∨
    ∃ r ∈ s.memoryRetrievalIds, up.retrievals r = none) (reject .stepReferenceUnknown)
    "plan step references unknown goal/instruction/memory retrieval" none
  rejectIf (∃ t ∈ s.rollbackForStepId, t ∉ m.steps.map (·.stepId)) (reject .stepReferenceUnknown)
    "rollback step references unknown target step" none
  rejectIf (s.agentId ∉ p.trustedAgentIds) (reject .stepAgentUntrusted) "plan-step agent is untrusted" none
  rejectIf (s.actionClass ∉ p.actions) (reject .actionPolicyMissing) "plan step uses action without policy" none
  rejectIf (¬ s.capabilityIds.Nodup ∨ ∃ c ∈ s.capabilityIds, c = "") (reject .stepCapabilityUnknown)
    "plan-step capabilities are duplicate/empty" none
  rejectIf (s.irreversible ≠ decide (s.actionClass ∈ p.irreversibleActionClasses)) (reject .stepTimeInvalid)
    "plan-step irreversible classification differs from policy" none
  let g ← getItem m.goal s.goalId
  rejectIf (s.sequence ≤ 0 ∨ s.createdAtEpoch < g.createdAtEpoch) (reject .stepTimeInvalid) "plan-step sequence/time is invalid" none

def validateMutation (p : GoalPlanPolicy) (m : GoalPlanManifest) (u : PlanMutation) : Check Unit := do
  let reject (r : GoalPlanRejectReason) := r.mutation (some u.mutationId)
  rejectIf (u.ownerId ∉ p.trustedOwnerIds) (reject .mutationOwnerUntrusted) "plan-mutation owner is untrusted" none
  rejectIf (u.goalId ∉ m.goals.map (·.goalId) ∨ u.sourceInstructionId ∉ m.instructions.map (·.instructionId) ∨
    (∃ t ∈ u.targetStepId, t ∉ m.steps.map (·.stepId)) ∨ ∃ i ∈ u.proposedInstructionIds, i ∉ m.instructions.map (·.instructionId))
    (reject .mutationReferenceUnknown) "plan mutation references unknown goal/step/instruction" none
  rejectIf (u.actorAgentId ∉ p.trustedMutationAgentIds) (reject .mutationActorUntrusted) "plan-mutation actor is untrusted" none
  rejectIf (∃ a ∈ u.proposedActionClass, a ∉ p.actions) (reject .actionPolicyMissing) "plan mutation proposes action without policy" none
  let g ← getItem m.goal u.goalId
  rejectIf (u.createdAtEpoch < g.createdAtEpoch) (reject .mutationReferenceUnknown) "plan mutation predates goal" none

/-- `_validate_manifest`. -/
def validateManifest (rt : GoalPlanRuntime) (p : GoalPlanPolicy) (q : GoalPlanRequest) (m : GoalPlanManifest) (up : Upstreams) : Check Unit := do
  rejectIf (m.schemaVersion ≠ goalPlanSchemaVersion ∨ m.graphId ≠ p.expectedGraphId ∨ m.version ≠ p.expectedGraphVersion ∨
    m.instructions = [] ∨ m.goals = [] ∨ m.steps = []) (GoalPlanRejectReason.plain .manifestInvalid)
    "goal/plan manifest metadata is invalid" none
  rejectIf (rt.casefold m.p8aAssessmentEvidenceSha256 ≠ rt.casefold p.expectedP8aAssessmentEvidenceSha256 ∨
    rt.casefold m.p8bAssessmentEvidenceSha256 ≠ rt.casefold p.expectedP8bAssessmentEvidenceSha256 ∨
    rt.casefold m.p7iAssessmentEvidenceSha256 ≠ rt.casefold p.expectedP7iAssessmentEvidenceSha256)
    (GoalPlanRejectReason.plain .manifestInvalid) "manifest upstream evidence pins are invalid" none
  rejectIf (m.createdAtEpoch > q.evaluatedAtEpoch + p.maxFutureSkewSeconds) (GoalPlanRejectReason.plain .manifestFuture)
    "goal/plan manifest is future-dated" none
  rejectIf (q.evaluatedAtEpoch - m.createdAtEpoch > p.maxManifestAgeSeconds) (GoalPlanRejectReason.plain .manifestStale)
    "goal/plan manifest is stale" none
  rejectIf (m.digest rt.toRuntime ≠ rt.casefold p.expectedGraphSha256 ∨ m.digest rt.toRuntime ≠ rt.casefold q.graphSha256)
    (GoalPlanRejectReason.plain .manifestDigestMismatch) "goal/plan manifest digest does not match request/policy" none
  keyed (GoalPlanRejectReason.instruction .instructionDuplicate) "instruction is duplicate or empty" InstructionRecord.instructionId m.instructions
  rejectIf (¬ sameSet (m.instructions.map (·.instructionId)) p.requiredInstructionIds)
    (GoalPlanRejectReason.plain .instructionCoverageMismatch) "instruction coverage differs from policy" none
  forEach (validateInstruction rt.toRuntime p m up) m.instructions
  forEach (validateAncestry m) m.instructions
  forEach (validateDerivation rt m) m.instructions
  keyed (GoalPlanRejectReason.goal .goalDuplicate) "goal is duplicate or empty" AgentGoal.goalId m.goals
  rejectIf (¬ sameSet (m.goals.map (·.goalId)) p.requiredGoalIds) (GoalPlanRejectReason.plain .goalCoverageMismatch)
    "goal coverage differs from policy" none
  forEach (validateGoal p q.evaluatedAtEpoch m up) m.goals
  keyed (GoalPlanRejectReason.step .stepDuplicate) "plan step is duplicate or empty" PlanStep.stepId m.steps
  rejectIf (¬ sameSet (m.steps.map (·.stepId)) p.requiredStepIds) (GoalPlanRejectReason.plain .stepCoverageMismatch)
    "plan-step coverage differs from policy" none
  forEach (validateStep p m up) m.steps
  keyed (GoalPlanRejectReason.mutation .mutationDuplicate) "plan mutation is duplicate or empty" PlanMutation.mutationId m.mutations
  rejectIf (¬ sameSet (m.mutations.map (·.mutationId)) p.requiredMutationIds) (GoalPlanRejectReason.plain .mutationCoverageMismatch)
    "plan-mutation coverage differs from policy" none
  forEach (validateMutation p m) m.mutations

/-! ## Risks -/

/-- `_value`. -/
def valueOf (value : Json) : String := rt.casefold (text rt (enumValue value))

/-- `_value(getattr(fact, "decision", "deny")) == "allow"`. -/
def decidedAllow (fact : Json) : Prop := valueOf rt (getattr fact "decision" (.str "deny")) = "allow"

instance decidableDecidedAllow (fact : Json) : Decidable (decidedAllow rt fact) := inferInstanceAs (Decidable (_ = _))

/-- `_invariant_unsafe`. -/
def invariantUnsafe (invariant : Json) : Prop := valueOf rt (getattr invariant "state" (.str "violated")) ≠ "holds"

instance decidableInvariantUnsafe (invariant : Json) : Decidable (invariantUnsafe rt invariant) := inferInstanceAs (Decidable (_ ≠ _))

/-- `_delegation_risks`; the fact is the one at `goal.delegation_id`. -/
def delegationRisks (g : AgentGoal) (fact : Option Json) : List GoalPlanRisk :=
  match g.delegationId, fact with
  | none, _ => []
  | some _, none => [.delegatedGoalContinuity]
  | some _, some d =>
    flag (¬ decidedAllow rt d) .upstreamDelegationDenied ++
      flag (text rt (getattr d "original_principal_id" (.str "")) ≠ g.originalPrincipalId) .delegatedGoalContinuity ++
      flag (text rt (getattr d "tenant_id" (.str "")) ≠ g.tenantId) .delegatedGoalContinuity

/-- What `evaluate` reads for every step, mutation and goal. -/
structure Context where
  policy : GoalPlanPolicy
  manifest : GoalPlanManifest
  upstreams : Upstreams
  evaluatedAtEpoch : Int

/-- `goal_delegation_risks[goal.goal_id]`. -/
def goalDelegationRisks (c : Context) (g : AgentGoal) : List GoalPlanRisk :=
  delegationRisks rt g ((g.delegationId.filter (· ≠ "")).bind c.upstreams.delegations)

/-- What a retrieval an instruction came from says of it. -/
def retrievalContextRisks (c : Context) (i : InstructionRecord) (g : AgentGoal) : Check (List GoalPlanRisk) :=
  match i.memoryRetrievalId with
  | none => .ok []
  | some id => do
    let r ← getItem c.upstreams.retrievals id
    pure (flag (¬ decidedAllow rt r) GoalPlanRisk.upstreamMemoryDenied ++
      flag (text rt (getattr r "tenant_id" (.str "")) ≠ g.tenantId ∨ getattr r "session_id" .null ≠ optText g.sessionId)
        GoalPlanRisk.memoryContextMismatch)

/-- `_instruction_context_risks`. -/
def instructionContextRisks (c : Context) (g : AgentGoal) (i : InstructionRecord) : Check (List GoalPlanRisk) := do
  let memory ← retrievalContextRisks rt c i g
  pure (flag (i.goalId ∉ [none, some g.goalId]) GoalPlanRisk.goalProvenanceBroken ++
    flag (i.originalPrincipalId ≠ g.originalPrincipalId) GoalPlanRisk.goalProvenanceBroken ++
    flag (i.tenantId ≠ g.tenantId) GoalPlanRisk.crossTenant ++ flag (i.sessionId ≠ g.sessionId) GoalPlanRisk.crossSession ++ memory)

/-- `steps_by_goal[goal.goal_id]`. -/
def stepsOf (m : GoalPlanManifest) (g : AgentGoal) : List PlanStep := m.steps.filter fun s => s.goalId = g.goalId

/-- The `sequence_risks` of every step of the goal. -/
def sequenceRisks (m : GoalPlanManifest) (g : AgentGoal) : List GoalPlanRisk :=
  let sequences := (sortOn (fun s => toLex (s.sequence, s.stepId)) (stepsOf m g)).map (·.sequence)
  flag ((sequences.length : Int) > g.maxStepCount) .stepLimitExceeded ++
    flag (sequences ≠ (List.range sequences.length).map fun k => (k : Int) + 1) .planSequenceInvalid

/-- Whether the delegation of a goal covers the capabilities an action requires. -/
def coverageRisks (c : Context) (g : AgentGoal) (required : List String) : Check (List GoalPlanRisk) :=
  match g.delegationId with
  | none => .ok []
  | some id => do
    let delegation ← getItem c.upstreams.delegations id
    pure (flag (¬ ∀ k ∈ required, Json.str k ∈ elements (getattr delegation "requested_capability_ids" .nil)) .capabilityScopeMismatch)

/-- `value not in invariants or _invariant_unsafe(invariants[value])`. -/
def missingOrUnsafe (c : Context) (k : String) : Prop := ∀ i ∈ c.upstreams.invariants k, invariantUnsafe rt i

instance decidableMissingOrUnsafe (c : Context) (k : String) : Decidable (missingOrUnsafe rt c k) := inferInstanceAs (Decidable (∀ i ∈ _, _))

/-- The risks of a memory retrieval a step names. -/
def retrievalRisks (c : Context) (g : AgentGoal) (id : String) : Check (List GoalPlanRisk) := do
  let r ← getItem c.upstreams.retrievals id
  pure (flag (¬ decidedAllow rt r) GoalPlanRisk.upstreamMemoryDenied ++
    flag (text rt (getattr r "tenant_id" (.str "")) ≠ g.tenantId) GoalPlanRisk.crossTenant ++
    flag (getattr r "session_id" .null ≠ optText g.sessionId) GoalPlanRisk.crossSession)

/-- Memory, tool outputs and external content. -/
def LowAuthority (i : InstructionRecord) : Prop := i.source ∈ [InstructionSource.memory, .toolOutput, .externalContent]

instance decidableLowAuthority (i : InstructionRecord) : Decidable (LowAuthority i) := inferInstanceAs (Decidable (_ ∈ _))

/-- `low_authority_sources`. -/
def lowAuthoritySources (root : InstructionRecord) (sources : List InstructionRecord) : List InstructionRecord :=
  sources.filter fun i => LowAuthority i ∧ i.trust.rank < root.trust.rank

def launderingRisks (root : InstructionRecord) (low : List InstructionRecord) (action : String) : List GoalPlanRisk :=
  (if action ∉ root.allowedActionClasses ∧ low ≠ [] then
    .instructionLaundering :: (flag (∃ i ∈ low, i.source = .memory) GoalPlanRisk.memoryInstructionEscalation ++
      flag (∃ i ∈ low, i.source = .toolOutput) GoalPlanRisk.toolOutputInstructionEscalation)
  else []) ++
  flag (∃ i ∈ low, i.directive ∈ [InstructionDirective.terminate, .rollback] ∧ i.sanitized = false) .instructionPrecedenceViolation

/-- `active_termination`. -/
def activeTermination (m : GoalPlanManifest) (g : AgentGoal) (root : InstructionRecord) (s : PlanStep) : List InstructionRecord :=
  m.instructions.filter fun i => i.goalId = some g.goalId ∧ i.directive = .terminate ∧ i.issuedAtEpoch ≤ s.createdAtEpoch ∧
    i.precedence ≥ root.precedence ∧ i.trust.rank ≥ root.trust.rank

def terminationRisks (c : Context) (g : AgentGoal) (root : InstructionRecord) (s : PlanStep) : List GoalPlanRisk :=
  flag (activeTermination c.manifest g root s ≠ [] ∧ Dict.mapping c.policy.rollbackActionByAction s.actionClass ≠ some s.actionClass)
    .terminationBypass

/-- An irreversible step is rolled back later. -/
def rollbackRisks (c : Context) (g : AgentGoal) (s : PlanStep) : List GoalPlanRisk :=
  flag (s.irreversible = true ∧ ∃ action ∈ Dict.mapping c.policy.rollbackActionByAction s.actionClass,
    ¬ ∃ x ∈ stepsOf c.manifest g, x.rollbackForStepId = some s.stepId ∧ x.actionClass = action ∧ x.sequence > s.sequence) .rollbackBypass

/-- What a step rolls back is its target, and earlier. -/
def targetRisks (c : Context) (s : PlanStep) : Check (List GoalPlanRisk) :=
  match s.rollbackForStepId with
  | none => .ok []
  | some id => do
    let target ← getItem c.manifest.step id
    pure (flag (Dict.mapping c.policy.rollbackActionByAction target.actionClass ≠ some s.actionClass ∨ s.sequence ≤ target.sequence)
      .rollbackBypass)

/-! ## Steps -/

def stepRisks (c : Context) (s : PlanStep) (g : AgentGoal) (root : InstructionRecord) (requiredInvariants : List String) :
    Check (List GoalPlanRisk) := do
  let sources ← Checks.gather (getItem c.manifest.instruction) s.sourceInstructionIds
  let contexts ← Checks.gather (instructionContextRisks rt c g) sources
  let requiredCapabilities ← getItem (Dict.mapping c.policy.actionRequiredCapabilities) s.actionClass
  let coverage ← coverageRisks c g requiredCapabilities
  let retrievals ← Checks.gather (retrievalRisks rt c g) s.memoryRetrievalIds
  let target ← targetRisks c s
  pure (sequenceRisks c.manifest g ++ goalDelegationRisks rt c g ++
    flag (c.evaluatedAtEpoch ≥ g.expiresAtEpoch) .expiredGoal ++ flag (s.sourceInstructionIds = []) .planStepUnauthorized ++
    contexts.flatten ++ flag (g.rootInstructionId ∉ s.sourceInstructionIds) .goalProvenanceBroken ++
    flag (s.actionClass ∉ g.allowedActionClasses) .goalScopeExpansion ++ flag (s.actionClass ∉ root.allowedActionClasses) .goalScopeExpansion ++
    flag (¬ sameSet s.capabilityIds requiredCapabilities) .capabilityScopeMismatch ++ coverage ++
    flag (∃ k ∈ requiredInvariants, missingOrUnsafe rt c k) .architectureInvariantUnsafe ++ retrievals.flatten ++
    launderingRisks root (lowAuthoritySources root sources) s.actionClass ++ terminationRisks c g root s ++ rollbackRisks c g s ++ target)

/-- The body of the loop over the steps. -/
def stepFact (c : Context) (s : PlanStep) : Check PlanStepIntegrityFact := do
  let g ← getItem c.manifest.goal s.goalId
  let root ← getItem c.manifest.instruction g.rootInstructionId
  let requiredInvariants ← getItem (Dict.mapping c.policy.actionRequiredP7iInvariants) s.actionClass
  let risks ← stepRisks rt c s g root requiredInvariants
  pure {
    stepId := s.stepId
    goalId := s.goalId
    sequence := s.sequence
    agentId := s.agentId
    actionClass := s.actionClass
    decision := if risks = [] then .allow else .deny
    risks := GoalPlanRisk.ordered risks
    sourceInstructionIds := sortOn id s.sourceInstructionIds
    capabilityIds := sortOn id s.capabilityIds
    memoryRetrievalIds := sortOn id s.memoryRetrievalIds
    requiredP7iInvariantIds := sortOn id requiredInvariants.dedup
    rollbackForStepId := s.rollbackForStepId
    riskScore := GoalPlanRisk.score (GoalPlanRisk.ordered risks) }

/-! ## Mutations -/

/-- `any(_invariant_unsafe(invariants[value]) for value in required)`. -/
def anyUnsafe (c : Context) : List String → Check Bool
  | [] => .ok false
  | k :: ks => do
    let i ← getItem c.upstreams.invariants k
    if invariantUnsafe rt i then pure true else anyUnsafe c ks

/-- The source of a mutation has at least the authority of the goal's root. -/
def authorityRisks (root source : InstructionRecord) : List GoalPlanRisk :=
  if source.precedence < root.precedence ∨ source.trust.rank < root.trust.rank then
    .planMutationUnauthorized ::
      if LowAuthority source ∧ source.sanitized = false then
        .instructionLaundering :: (flag (source.source = .memory) GoalPlanRisk.memoryInstructionEscalation ++
          flag (source.source = .toolOutput) GoalPlanRisk.toolOutputInstructionEscalation)
      else []
  else []

/-- The action class a mutation proposes. -/
def proposedRisks (c : Context) (g : AgentGoal) (root : InstructionRecord) : Option String → Check (List GoalPlanRisk)
  | none => .ok []
  | some action => do
    let required ← getItem (Dict.mapping c.policy.actionRequiredCapabilities) action
    let coverage ← coverageRisks c g required
    let invariants ← getItem (Dict.mapping c.policy.actionRequiredP7iInvariants) action
    let found ← anyUnsafe rt c invariants
    pure (flag (action ∉ g.allowedActionClasses ∨ action ∉ root.allowedActionClasses) .goalScopeExpansion ++ coverage ++
      flag (found = true) .architectureInvariantUnsafe)

def mutationRisks (c : Context) (u : PlanMutation) (g : AgentGoal) (root source : InstructionRecord) : Check (List GoalPlanRisk) := do
  let context ← instructionContextRisks rt c g source
  let proposed ← proposedRisks rt c g root u.proposedActionClass
  let candidates ← Checks.gather (getItem c.manifest.instruction) u.proposedInstructionIds
  pure (goalDelegationRisks rt c g ++ context ++ authorityRisks root source ++ proposed ++
    flag (u.mutationType ∈ [PlanMutationType.terminate, .rollback] ∧
      source.directive ∉ [InstructionDirective.terminate, .rollback, .constraint]) .planMutationUnauthorized ++
    flag (∃ i ∈ candidates, i.precedence > root.precedence ∧ i.trust.rank < root.trust.rank) .instructionPrecedenceViolation)

/-- The body of the loop over the mutations. -/
def mutationFact (c : Context) (u : PlanMutation) : Check PlanMutationIntegrityFact := do
  let g ← getItem c.manifest.goal u.goalId
  let root ← getItem c.manifest.instruction g.rootInstructionId
  let source ← getItem c.manifest.instruction u.sourceInstructionId
  let risks ← mutationRisks rt c u g root source
  pure {
    mutationId := u.mutationId
    goalId := u.goalId
    mutationType := u.mutationType
    actorAgentId := u.actorAgentId
    sourceInstructionId := u.sourceInstructionId
    decision := if risks = [] then .allow else .deny
    risks := GoalPlanRisk.ordered risks
    proposedActionClass := u.proposedActionClass
    riskScore := GoalPlanRisk.score (GoalPlanRisk.ordered risks) }

/-! ## Goals -/

/-- `max(values, default=0)`. -/
def maxDefault : List Int → Int
  | [] => 0
  | n :: ns => ns.foldl max n

def deniedSteps (facts : List PlanStepIntegrityFact) : List String := sortOn id ((facts.filter (·.decision = .deny)).map (·.stepId))

def deniedMutations (facts : List PlanMutationIntegrityFact) : List String := sortOn id ((facts.filter (·.decision = .deny)).map (·.mutationId))

/-- The body of the loop over the goals. -/
def goalFact (c : Context) (steps : List PlanStepIntegrityFact) (mutations : List PlanMutationIntegrityFact) (g : AgentGoal) : GoalIntegrityFact :=
  let own := steps.filter fun f => f.goalId = g.goalId
  let proposed := mutations.filter fun f => f.goalId = g.goalId
  let risks := goalDelegationRisks rt c g ++ own.flatMap (·.risks) ++ proposed.flatMap (·.risks) ++
    flag (c.evaluatedAtEpoch ≥ g.expiresAtEpoch) .expiredGoal
  { goalId := g.goalId
    originalPrincipalId := g.originalPrincipalId
    tenantId := g.tenantId
    sessionId := g.sessionId
    delegationId := g.delegationId
    state := if risks = [] then .holds else .violated
    risks := GoalPlanRisk.ordered risks
    deniedStepIds := deniedSteps own
    deniedMutationIds := deniedMutations proposed
    maxRiskScore := maxDefault (GoalPlanRisk.score (GoalPlanRisk.ordered risks) :: (own.map (·.riskScore) ++ proposed.map (·.riskScore))) }

def unsafeGoals (facts : List GoalIntegrityFact) : List String := sortOn id ((facts.filter (·.state = .violated)).map (·.goalId))

/-! ## Evaluation -/

/-- `asdict(fact)`, or the attributes of the fact: the members of enumerations are shown by `shown`. -/
def PlanStepIntegrityFact.toDict (shown : String → Json) (f : PlanStepIntegrityFact) : Json :=
  .obj [("action_class", .str f.actionClass), ("agent_id", .str f.agentId), ("capability_ids", texts f.capabilityIds),
    ("decision", shown f.decision.value), ("goal_id", .str f.goalId), ("memory_retrieval_ids", texts f.memoryRetrievalIds),
    ("required_p7i_invariant_ids", texts f.requiredP7iInvariantIds), ("risk_score", .int f.riskScore),
    ("risks", .arr (f.risks.map fun r => shown r.value)), ("rollback_for_step_id", optText f.rollbackForStepId), ("sequence", .int f.sequence),
    ("source_instruction_ids", texts f.sourceInstructionIds), ("step_id", .str f.stepId)]

def PlanMutationIntegrityFact.toDict (shown : String → Json) (f : PlanMutationIntegrityFact) : Json :=
  .obj [("actor_agent_id", .str f.actorAgentId), ("decision", shown f.decision.value), ("goal_id", .str f.goalId),
    ("mutation_id", .str f.mutationId), ("mutation_type", shown f.mutationType.value), ("proposed_action_class", optText f.proposedActionClass),
    ("risk_score", .int f.riskScore), ("risks", .arr (f.risks.map fun r => shown r.value)),
    ("source_instruction_id", .str f.sourceInstructionId)]

def GoalIntegrityFact.toDict (shown : String → Json) (f : GoalIntegrityFact) : Json :=
  .obj [("delegation_id", optText f.delegationId), ("denied_mutation_ids", texts f.deniedMutationIds), ("denied_step_ids", texts f.deniedStepIds),
    ("goal_id", .str f.goalId), ("max_risk_score", .int f.maxRiskScore), ("original_principal_id", .str f.originalPrincipalId),
    ("risks", .arr (f.risks.map fun r => shown r.value)), ("session_id", optText f.sessionId), ("state", shown f.state.value),
    ("tenant_id", .str f.tenantId)]

/-- The pins and the scope of the request. -/
def validateRequest (p : GoalPlanPolicy) (q : GoalPlanRequest) : Check Unit :=
  rejectIf (q.graphId ≠ p.expectedGraphId ∨ q.graphVersion ≠ p.expectedGraphVersion ∨
    ¬ (isSha256 rt q.graphSha256 ∧ isSha256 rt q.p8aAssessmentEvidenceSha256 ∧ isSha256 rt q.p8bAssessmentEvidenceSha256 ∧
      isSha256 rt q.p7iAssessmentEvidenceSha256) ∨
    rt.casefold q.graphSha256 ≠ rt.casefold p.expectedGraphSha256 ∨
    rt.casefold q.p8aAssessmentEvidenceSha256 ≠ rt.casefold p.expectedP8aAssessmentEvidenceSha256 ∨
    rt.casefold q.p8bAssessmentEvidenceSha256 ≠ rt.casefold p.expectedP8bAssessmentEvidenceSha256 ∨
    rt.casefold q.p7iAssessmentEvidenceSha256 ≠ rt.casefold p.expectedP7iAssessmentEvidenceSha256 ∨
    ¬ exactly q.goalIds p.requiredGoalIds ∨ ¬ exactly q.stepIds p.requiredStepIds ∨ ¬ exactly q.mutationIds p.requiredMutationIds)
    (GoalPlanRejectReason.plain .requestInvalid) "goal/plan request identity/evidence/scope is invalid" none

/-- The greatest score of the steps, the mutations and the goals. -/
def maxRisk (steps : List PlanStepIntegrityFact) (mutations : List PlanMutationIntegrityFact) (goals : List GoalIntegrityFact) : Int :=
  maxDefault (steps.map (·.riskScore) ++ mutations.map (·.riskScore) ++ goals.map (·.maxRiskScore))

/-- What the caller declares of the facts is what was derived. -/
def validateDeclared (q : GoalPlanRequest) (steps : List PlanStepIntegrityFact) (mutations : List PlanMutationIntegrityFact)
    (goals : List GoalIntegrityFact) : Check Unit := do
  rejectIf (¬ sameSet q.declaredDeniedStepIds (deniedSteps steps)) (GoalPlanRejectReason.plain .declaredStepDecisionMismatch)
    "caller-declared denied steps differ from derived evidence" none
  rejectIf (¬ sameSet q.declaredDeniedMutationIds (deniedMutations mutations)) (GoalPlanRejectReason.plain .declaredMutationDecisionMismatch)
    "caller-declared denied mutations differ from derived evidence" none
  rejectIf (¬ sameSet q.declaredUnsafeGoalIds (unsafeGoals goals)) (GoalPlanRejectReason.plain .declaredGoalStateMismatch)
    "caller-declared unsafe goals differ from derived evidence" none
  rejectIf (q.declaredMaxIntegrityRiskScore ≠ maxRisk steps mutations goals) (GoalPlanRejectReason.plain .declaredMaxRiskMismatch)
    "caller-declared maximum integrity risk differs from derived evidence" none

/-- `prioritized`. -/
def prioritized (goals : List GoalIntegrityFact) : List String :=
  (sortOn (fun f => toLex (-f.maxRiskScore, f.goalId)) (goals.filter (·.state = .violated))).map (·.goalId)

/-- `evidence_document`. -/
def evidenceDocument (m : GoalPlanManifest) (p8a p8b p7i : Json) (steps : List PlanStepIntegrityFact)
    (mutations : List PlanMutationIntegrityFact) (goals : List GoalIntegrityFact) : Json :=
  .obj [("goals", .arr (goals.map (GoalIntegrityFact.toDict .str))), ("graph_sha256", .str (m.digest rt)),
    ("mutations", .arr (mutations.map (PlanMutationIntegrityFact.toDict .str))),
    ("p7i_assessment_evidence_sha256", .str (Evidence.digest rt p7i)), ("p8a_assessment_evidence_sha256", .str (Evidence.digest rt p8a)),
    ("p8b_assessment_evidence_sha256", .str (Evidence.digest rt p8b)), ("prioritized_unsafe_goal_ids", .arr ((prioritized goals).map .str)),
    ("steps", .arr (steps.map (PlanStepIntegrityFact.toDict .str)))]

/-- The assessment of derived facts. -/
def assessmentOf (m : GoalPlanManifest) (p8a p8b p7i : Json) (steps : List PlanStepIntegrityFact)
    (mutations : List PlanMutationIntegrityFact) (goals : List GoalIntegrityFact) : VerifiedGoalPlanIntegrityAssessment where
  graphId := m.graphId
  graphVersion := m.version
  graphSha256 := m.digest rt
  p8aAssessmentEvidenceSha256 := Evidence.digest rt p8a
  p8bAssessmentEvidenceSha256 := Evidence.digest rt p8b
  p7iAssessmentEvidenceSha256 := Evidence.digest rt p7i
  maxIntegrityRiskScore := maxRisk steps mutations goals
  prioritizedUnsafeGoalIds := prioritized goals
  steps := steps
  mutations := mutations
  goals := goals
  assessmentEvidenceSha256 := rt.sha256 (evidenceDocument rt m p8a p8b p7i steps mutations goals)

/-- `AgentGoalPlanIntegrityAnalyzer(policy).evaluate`. -/
def evaluate (rt : GoalPlanRuntime) (p : GoalPlanPolicy) (q : GoalPlanRequest) (m : GoalPlanManifest) (p8a p8b p7i : Json) :
    Check VerifiedGoalPlanIntegrityAssessment := do
  validatePolicy rt.toRuntime p
  validateRequest rt.toRuntime p q
  let up ← validateUpstreams rt.toRuntime p p8a p8b p7i
  validateManifest rt p q m up
  let c : Context := ⟨p, m, up, q.evaluatedAtEpoch⟩
  let steps ← Checks.gather (stepFact rt.toRuntime c) (sortOn PlanStep.stepId m.steps)
  let mutations ← Checks.gather (mutationFact rt.toRuntime c) (sortOn PlanMutation.mutationId m.mutations)
  let goals := (sortOn AgentGoal.goalId m.goals).map (goalFact rt.toRuntime c steps mutations)
  validateDeclared q steps mutations goals
  pure (assessmentOf rt.toRuntime m p8a p8b p7i steps mutations goals)

/-- The attributes of an assessment that other analyzers read, the flags among them at their defaults. -/
def VerifiedGoalPlanIntegrityAssessment.evidence (a : VerifiedGoalPlanIntegrityAssessment) : Json :=
  .obj [("graph_id", .str a.graphId), ("graph_version", .str a.graphVersion), ("graph_sha256", .str a.graphSha256),
    ("p8a_assessment_evidence_sha256", .str a.p8aAssessmentEvidenceSha256), ("p8b_assessment_evidence_sha256", .str a.p8bAssessmentEvidenceSha256),
    ("p7i_assessment_evidence_sha256", .str a.p7iAssessmentEvidenceSha256), ("steps", .arr (a.steps.map (PlanStepIntegrityFact.toDict member))),
    ("mutations", .arr (a.mutations.map (PlanMutationIntegrityFact.toDict member))),
    ("goals", .arr (a.goals.map (GoalIntegrityFact.toDict member))), ("assessment_evidence_sha256", .str a.assessmentEvidenceSha256),
    ("exact_goal_plan_graph_binding_verified", .bool true), ("exact_p8a_delegation_binding_verified", .bool true),
    ("exact_p8b_memory_binding_verified", .bool true), ("exact_p7i_invariant_binding_verified", .bool true),
    ("instruction_precedence_enforced", .bool true), ("delegated_goal_continuity_verified", .bool true),
    ("plan_step_authorization_derived_from_evidence", .bool true), ("plan_mutation_authorization_derived_from_evidence", .bool true),
    ("goal_scope_non_amplification_verified", .bool true), ("termination_and_rollback_boundaries_enforced", .bool true),
    ("caller_declared_goal_safety_trusted", .bool false)]

end Aegis.Agentic.GoalPlan
