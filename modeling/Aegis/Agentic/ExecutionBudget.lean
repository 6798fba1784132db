/-
  Aegis.Agentic.ExecutionBudget — `AgentExecutionBudgetSecurityAnalyzer.derive`
  (execution_budget_security.py): runs are accounted to budgets, which delegate parts of
  themselves to child budgets, and a run is allowed when no risk is found.

  The analyzer's dicts are functions of the manifest, which names each of its items once. A walk
  along parents gets as many steps as there are budgets, or events, which is enough for one that
  ends (`Ascent.walk_iff`); so does the worklist of `descendants` (`Worklist.mem_closure`).
-/

import Aegis.Agentic.Evidence
import Aegis.Data.Ascent
import Aegis.Data.Worklist
import Mathlib.Algebra.Ring.Int.Defs

namespace Aegis.Agentic.ExecutionBudget

open Data Evidence Checked

def budgetSchemaVersion : String := "aegis-agent-execution-budget-manifest-v1"

inductive ExecutionEventType where
  | agentStep | modelCall | toolCall
  deriving DecidableEq, Repr

def ExecutionEventType.value : ExecutionEventType → String
  | agentStep => "agent_step"
  | modelCall => "model_call"
  | toolCall => "tool_call"

inductive BudgetDecision where
  | allow | deny
  deriving DecidableEq, Repr

/-- `BudgetRisk`, in the order of falling scores. -/
inductive BudgetRisk where
  | delegatedBudgetAmplification | delegatedBudgetOversubscribed | irreversibleRateLimit | irreversibleCountLimit
  | costClaimMismatch | costLimit | loopDetected | retryLimit | recursionLimit | fanoutLimit | modelCallLimit
  | toolCallLimit | tokenLimit | stepLimit | elapsedLimit | upstreamToolObservationUnsafe | upstreamPlanUnsafe
  | upstreamDelegationUnsafe | identityMismatch | tenantMismatch | goalMismatch
  deriving DecidableEq, Repr

namespace BudgetRisk

def all : List BudgetRisk :=
  [delegatedBudgetAmplification, delegatedBudgetOversubscribed, irreversibleRateLimit, irreversibleCountLimit,
    costClaimMismatch, costLimit, loopDetected, retryLimit, recursionLimit, fanoutLimit, modelCallLimit, toolCallLimit,
    tokenLimit, stepLimit, elapsedLimit, upstreamToolObservationUnsafe, upstreamPlanUnsafe, upstreamDelegationUnsafe,
    identityMismatch, tenantMismatch, goalMismatch]

/-- `_risk_score`. -/
def score : BudgetRisk → Nat
  | delegatedBudgetAmplification => 120
  | delegatedBudgetOversubscribed => 116
  | irreversibleRateLimit => 112
  | irreversibleCountLimit => 108
  | costClaimMismatch => 104
  | costLimit => 102
  | loopDetected => 100
  | retryLimit => 98
  | recursionLimit => 96
  | fanoutLimit => 94
  | modelCallLimit => 90
  | toolCallLimit => 88
  | tokenLimit => 86
  | stepLimit => 84
  | elapsedLimit => 82
  | upstreamToolObservationUnsafe => 80
  | upstreamPlanUnsafe => 78
  | upstreamDelegationUnsafe => 76
  | identityMismatch => 74
  | tenantMismatch => 72
  | goalMismatch => 70

/-- A set of risks as the tuple `sorted(risks, key=(-score, value))`: no two scores are the same. -/
def sorted (risks : List BudgetRisk) : List BudgetRisk := all.filter (· ∈ risks)

end BudgetRisk

inductive BudgetRejectReason where
  | policyInvalid | requestInvalid | upstreamInvalid | manifestInvalid | coverageMismatch | ownerUntrusted | policyDrift
  | referenceInvalid | graphCycle | declaredDecisionMismatch | declaredRiskMismatch
  deriving DecidableEq, Repr

abbrev Check := Checked BudgetRejectReason

/-! ## The manifest and the policy -/

structure ModelCostRate where
  modelId : String
  inputMicrousdPer1kTokens : Int
  outputMicrousdPer1kTokens : Int
  ownerId : String
  description : String
  deriving DecidableEq, Repr

structure BudgetEnvelope where
  budgetId : String
  originalPrincipalId : String
  tenantId : String
  goalId : String
  delegationId : Option String
  maxModelCalls : Int
  maxToolCalls : Int
  maxTotalTokens : Int
  maxCostMicrousd : Int
  maxElapsedMs : Int
  maxSteps : Int
  maxRecursionDepth : Int
  maxFanoutPerEvent : Int
  maxRetriesPerOperation : Int
  maxRepeatedOperationCount : Int
  maxIrreversibleActions : Int
  maxIrreversibleActionsPerMinute : Int
  ownerId : String
  description : String
  deriving DecidableEq, Repr

structure BudgetAllocation where
  allocationId : String
  parentBudgetId : String
  childBudgetId : String
  delegatorAgentId : String
  delegateeAgentId : String
  delegationId : String
  ownerId : String
  description : String
  deriving DecidableEq, Repr

structure ExecutionRun where
  runId : String
  rootBudgetId : String
  originalPrincipalId : String
  tenantId : String
  goalId : String
  startedAtMs : Int
  completedAtMs : Int
  ownerId : String
  description : String
  deriving DecidableEq, Repr

structure ExecutionEvent where
  eventId : String
  runId : String
  parentEventId : Option String
  budgetId : String
  eventType : ExecutionEventType
  operationKey : String
  agentId : String
  originalPrincipalId : String
  tenantId : String
  goalId : String
  stepId : String
  delegationId : Option String
  modelId : Option String
  inputTokens : Int
  outputTokens : Int
  claimedCostMicrousd : Int
  attempt : Int
  startedAtMs : Int
  endedAtMs : Int
  irreversible : Bool
  p8dObservationId : Option String
  ownerId : String
  description : String
  deriving DecidableEq, Repr

structure ExecutionBudgetManifest where
  graphId : String
  version : String
  p8aAssessmentEvidenceSha256 : String
  p8cAssessmentEvidenceSha256 : String
  p8dAssessmentEvidenceSha256 : String
  createdAtEpoch : Int
  modelRates : List ModelCostRate
  budgets : List BudgetEnvelope
  allocations : List BudgetAllocation
  runs : List ExecutionRun
  events : List ExecutionEvent
  schemaVersion : String
  deriving DecidableEq, Repr

/-- `_profile`: the ceilings are the last twelve of its items. -/
structure Profile where
  originalPrincipalId : String
  tenantId : String
  goalId : String
  delegationId : Option String
  ceilings : List Int
  deriving DecidableEq, Repr

structure ExecutionBudgetPolicy where
  expectedGraphId : String
  expectedGraphVersion : String
  expectedGraphSha256 : String
  expectedP8aAssessmentEvidenceSha256 : String
  expectedP8cAssessmentEvidenceSha256 : String
  expectedP8dAssessmentEvidenceSha256 : String
  requiredModelIds : List String
  requiredBudgetIds : List String
  requiredAllocationIds : List String
  requiredRunIds : List String
  requiredEventIds : List String
  trustedOwnerIds : List String
  expectedModelRates : List (String × (Int × Int))
  expectedBudgetProfiles : List (String × Profile)
  expectedRunBindings : List (String × (String × String × String × String))
  maxManifestAgeSeconds : Int
  maxFutureSkewSeconds : Int

variable (rt : Runtime)

/-! ## Digests -/

def ModelCostRate.toDict (r : ModelCostRate) : Json :=
  .obj [("model_id", .str r.modelId), ("input_microusd_per_1k_tokens", .int r.inputMicrousdPer1kTokens),
    ("output_microusd_per_1k_tokens", .int r.outputMicrousdPer1kTokens), ("owner_id", .str r.ownerId),
    ("description", .str r.description)]

def BudgetEnvelope.toDict (b : BudgetEnvelope) : Json :=
  .obj [("budget_id", .str b.budgetId), ("original_principal_id", .str b.originalPrincipalId),
    ("tenant_id", .str b.tenantId), ("goal_id", .str b.goalId), ("delegation_id", optText b.delegationId),
    ("max_model_calls", .int b.maxModelCalls), ("max_tool_calls", .int b.maxToolCalls),
    ("max_total_tokens", .int b.maxTotalTokens), ("max_cost_microusd", .int b.maxCostMicrousd),
    ("max_elapsed_ms", .int b.maxElapsedMs), ("max_steps", .int b.maxSteps),
    ("max_recursion_depth", .int b.maxRecursionDepth), ("max_fanout_per_event", .int b.maxFanoutPerEvent),
    ("max_retries_per_operation", .int b.maxRetriesPerOperation),
    ("max_repeated_operation_count", .int b.maxRepeatedOperationCount),
    ("max_irreversible_actions", .int b.maxIrreversibleActions),
    ("max_irreversible_actions_per_minute", .int b.maxIrreversibleActionsPerMinute), ("owner_id", .str b.ownerId),
    ("description", .str b.description)]

def BudgetAllocation.toDict (a : BudgetAllocation) : Json :=
  .obj [("allocation_id", .str a.allocationId), ("parent_budget_id", .str a.parentBudgetId),
    ("child_budget_id", .str a.childBudgetId), ("delegator_agent_id", .str a.delegatorAgentId),
    ("delegatee_agent_id", .str a.delegateeAgentId), ("delegation_id", .str a.delegationId), ("owner_id", .str a.ownerId),
    ("description", .str a.description)]

def ExecutionRun.toDict (r : ExecutionRun) : Json :=
  .obj [("run_id", .str r.runId), ("root_budget_id", .str r.rootBudgetId),
    ("original_principal_id", .str r.originalPrincipalId), ("tenant_id", .str r.tenantId), ("goal_id", .str r.goalId),
    ("started_at_ms", .int r.startedAtMs), ("completed_at_ms", .int r.completedAtMs), ("owner_id", .str r.ownerId),
    ("description", .str r.description)]

def ExecutionEvent.toDict (e : ExecutionEvent) : Json :=
  .obj [("event_id", .str e.eventId), ("run_id", .str e.runId), ("parent_event_id", optText e.parentEventId),
    ("budget_id", .str e.budgetId), ("event_type", .str e.eventType.value), ("operation_key", .str e.operationKey),
    ("agent_id", .str e.agentId), ("original_principal_id", .str e.originalPrincipalId), ("tenant_id", .str e.tenantId),
    ("goal_id", .str e.goalId), ("step_id", .str e.stepId), ("delegation_id", optText e.delegationId),
    ("model_id", optText e.modelId), ("input_tokens", .int e.inputTokens), ("output_tokens", .int e.outputTokens),
    ("claimed_cost_microusd", .int e.claimedCostMicrousd), ("attempt", .int e.attempt),
    ("started_at_ms", .int e.startedAtMs), ("ended_at_ms", .int e.endedAtMs), ("irreversible", .bool e.irreversible),
    ("p8d_observation_id", optText e.p8dObservationId), ("owner_id", .str e.ownerId), ("description", .str e.description)]

/-- `canonical_execution_budget_manifest_bytes`. -/
def ExecutionBudgetManifest.canonical (m : ExecutionBudgetManifest) : Json :=
  let norm s := Json.str (Canonical.normText rt s)
  .obj [("allocations", Canonical.normItems rt BudgetAllocation.toDict m.allocations),
    ("budgets", Canonical.normItems rt BudgetEnvelope.toDict m.budgets), ("created_at_epoch", .int m.createdAtEpoch),
    ("events", Canonical.normItems rt ExecutionEvent.toDict m.events), ("graph_id", norm m.graphId),
    ("model_rates", Canonical.normItems rt ModelCostRate.toDict m.modelRates),
    ("p8a_assessment_evidence_sha256", norm m.p8aAssessmentEvidenceSha256),
    ("p8c_assessment_evidence_sha256", norm m.p8cAssessmentEvidenceSha256),
    ("p8d_assessment_evidence_sha256", norm m.p8dAssessmentEvidenceSha256),
    ("runs", Canonical.normItems rt ExecutionRun.toDict m.runs), ("schema_version", norm m.schemaVersion),
    ("version", norm m.version)]

/-- `execution_budget_manifest_digest`. -/
def ExecutionBudgetManifest.digest (m : ExecutionBudgetManifest) : String := rt.sha256 (m.canonical rt)

def BudgetEnvelope.ceilings (b : BudgetEnvelope) : List Int :=
  [b.maxModelCalls, b.maxToolCalls, b.maxTotalTokens, b.maxCostMicrousd, b.maxElapsedMs, b.maxSteps, b.maxRecursionDepth,
    b.maxFanoutPerEvent, b.maxRetriesPerOperation, b.maxRepeatedOperationCount, b.maxIrreversibleActions,
    b.maxIrreversibleActionsPerMinute]

def BudgetEnvelope.profile (b : BudgetEnvelope) : Profile :=
  ⟨b.originalPrincipalId, b.tenantId, b.goalId, b.delegationId, b.ceilings⟩

/-! ## The manifest's dicts -/

namespace ExecutionBudgetManifest

variable (m : ExecutionBudgetManifest)

def rate : Dict ModelCostRate := .ofItems ModelCostRate.modelId m.modelRates

def budget : Dict BudgetEnvelope := .ofItems BudgetEnvelope.budgetId m.budgets

def run : Dict ExecutionRun := .ofItems ExecutionRun.runId m.runs

def event : Dict ExecutionEvent := .ofItems ExecutionEvent.eventId m.events

/-- `parent_of`. -/
def parentOf : Dict String := fun child =>
  (Dict.ofItems BudgetAllocation.childBudgetId m.allocations child).map (·.parentBudgetId)

def parentEvent : Dict String := fun e => (m.event e).bind (·.parentEventId)

/-- `budget_children`. -/
def budgetChildren (parent : String) : List String :=
  (m.allocations.filter fun a => a.parentBudgetId = parent).map (·.childBudgetId)

def descendants (root : String) : List String := Worklist.closure m.budgetChildren m.budgets.length root

/-- `while root in parent_of: root = parent_of[root]`. -/
def rootOf (b : String) : String := Ascent.top m.parentOf m.budgets.length b

/-- `depth`. -/
def depth (e : ExecutionEvent) : Nat := Ascent.depth m.parentEvent m.events.length e.eventId

/-- `len(children[event_id])`. -/
def fanout (e : ExecutionEvent) : Nat := (m.events.filter fun c => c.parentEventId = some e.eventId).length

end ExecutionBudgetManifest

/-! ## Validation -/

/-- `_validate_policy`. -/
def validatePolicy (p : ExecutionBudgetPolicy) : Check Unit := do
  rejectIf (p.expectedGraphId = "" ∨ p.expectedGraphVersion = "" ∨
    ¬ (sha rt p.expectedGraphSha256 ∧ sha rt p.expectedP8aAssessmentEvidenceSha256 ∧
      sha rt p.expectedP8cAssessmentEvidenceSha256 ∧ sha rt p.expectedP8dAssessmentEvidenceSha256) ∨
    p.requiredModelIds = [] ∨ p.requiredBudgetIds = [] ∨ p.requiredRunIds = [] ∨ p.requiredEventIds = [] ∨
    p.trustedOwnerIds = [] ∨ p.maxManifestAgeSeconds ≤ 0 ∨ p.maxFutureSkewSeconds < 0 ∨
    ¬ sameSet (p.expectedModelRates.map (·.1)) p.requiredModelIds ∨
    ¬ sameSet (p.expectedBudgetProfiles.map (·.1)) p.requiredBudgetIds ∨
    ¬ sameSet (p.expectedRunBindings.map (·.1)) p.requiredRunIds) .policyInvalid "invalid execution-budget policy" none
  rejectIf (∃ r ∈ p.expectedModelRates, r.2.1 < 0 ∨ r.2.2 < 0) .policyInvalid "model cost rates must be non-negative" none

/-- One row of `checks` in `_validate_upstreams`. -/
def validateUpstream (evidence : Json) (pin manifestPin verifiedFlag callerFlag : String) : Check Unit :=
  rejectIf (Evidence.digest rt evidence ≠ rt.casefold pin ∨ rt.casefold manifestPin ≠ rt.casefold pin ∨
    truthy (getattr evidence verifiedFlag (.bool false)) = false ∨ truthy (getattr evidence callerFlag (.bool true)) = true)
    .upstreamInvalid "unverified upstream evidence" none

/-- `_validate_upstreams`. -/
def validateUpstreams (p : ExecutionBudgetPolicy) (m : ExecutionBudgetManifest) (p8a p8c p8d : Json) : Check Unit := do
  validateUpstream rt p8a p.expectedP8aAssessmentEvidenceSha256 m.p8aAssessmentEvidenceSha256
    "exact_delegation_graph_binding_verified" "caller_declared_delegation_authorization_trusted"
  validateUpstream rt p8c p.expectedP8cAssessmentEvidenceSha256 m.p8cAssessmentEvidenceSha256
    "exact_goal_plan_graph_binding_verified" "caller_declared_goal_safety_trusted"
  validateUpstream rt p8d p.expectedP8dAssessmentEvidenceSha256 m.p8dAssessmentEvidenceSha256
    "exact_tool_observation_graph_binding_verified" "caller_declared_tool_observation_safety_trusted"

/-- `_map`. -/
def unique (id : α → String) (items : List α) : Check Unit :=
  keysFrom (fun seen key => rejectIf (key = "" ∨ key ∈ seen) .coverageMismatch "duplicate or empty identifier"
    (if key = "" then none else some key)) id [] items

def covers (id : α → String) (items : List α) (required : List String) : Check Unit :=
  rejectIf (¬ sameSet (items.map id) required) .coverageMismatch "manifest coverage mismatch" none

def validateRate (p : ExecutionBudgetPolicy) (r : ModelCostRate) : Check Unit := do
  rejectIf (r.ownerId ∉ p.trustedOwnerIds) .ownerUntrusted "untrusted model-rate owner" (some r.modelId)
  let expected ← getItem (Dict.mapping p.expectedModelRates) r.modelId
  rejectIf ((r.inputMicrousdPer1kTokens, r.outputMicrousdPer1kTokens) ≠ expected) .policyDrift "model-rate drift"
    (some r.modelId)

def validateBudget (p : ExecutionBudgetPolicy) (b : BudgetEnvelope) : Check Unit := do
  rejectIf (b.ownerId ∉ p.trustedOwnerIds) .ownerUntrusted "untrusted budget owner" (some b.budgetId)
  let expected ← getItem (Dict.mapping p.expectedBudgetProfiles) b.budgetId
  rejectIf (b.profile ≠ expected) .policyDrift "budget profile drift" (some b.budgetId)
  rejectIf ((∃ c ∈ b.ceilings, c < 0) ∨ b.maxElapsedMs ≤ 0 ∨ b.maxRecursionDepth ≤ 0 ∨ b.maxFanoutPerEvent ≤ 0 ∨
    b.maxRepeatedOperationCount ≤ 0) .policyDrift "invalid budget ceiling" (some b.budgetId)

def validateAllocation (p : ExecutionBudgetPolicy) (m : ExecutionBudgetManifest) (a : BudgetAllocation) : Check Unit := do
  rejectIf (a.ownerId ∉ p.trustedOwnerIds) .ownerUntrusted "untrusted allocation owner" (some a.allocationId)
  rejectIf (a.parentBudgetId ∉ m.budgets.map (·.budgetId) ∨ a.childBudgetId ∉ m.budgets.map (·.budgetId) ∨
    a.parentBudgetId = a.childBudgetId) .referenceInvalid "invalid budget allocation reference" (some a.allocationId)

/-- The loop over the allocations; `children` are the keys of `parent_of` so far. -/
def validateAllocations (p : ExecutionBudgetPolicy) (m : ExecutionBudgetManifest) (children : List String) :
    List BudgetAllocation → Check Unit
  | [] => .ok ()
  | a :: rest => do
    validateAllocation p m a
    rejectIf (a.childBudgetId ∈ children) .referenceInvalid "child budget has multiple parents" (some a.childBudgetId)
    validateAllocations p m (a.childBudgetId :: children) rest

/-- The walk from a budget up. It also visits the root, which has no parent and so is new to it. -/
def validateAncestry (m : ExecutionBudgetManifest) (b : BudgetEnvelope) : Check Unit :=
  rejectIf (Ascent.walk m.parentOf m.budgets.length [] (some b.budgetId) = false) .graphCycle "budget allocation cycle"
    (some b.budgetId)

def validateRun (p : ExecutionBudgetPolicy) (m : ExecutionBudgetManifest) (r : ExecutionRun) : Check Unit := do
  rejectIf (r.ownerId ∉ p.trustedOwnerIds) .ownerUntrusted "untrusted run owner" (some r.runId)
  rejectIf (r.rootBudgetId ∉ m.budgets.map (·.budgetId) ∨ r.completedAtMs < r.startedAtMs) .referenceInvalid
    "invalid run reference/time" (some r.runId)
  let expected ← getItem (Dict.mapping p.expectedRunBindings) r.runId
  rejectIf ((r.rootBudgetId, r.originalPrincipalId, r.tenantId, r.goalId) ≠ expected) .policyDrift "run binding drift"
    (some r.runId)
  rejectIf (m.parentOf r.rootBudgetId ≠ none) .referenceInvalid "run root budget is not a root" (some r.runId)

/-- The run and budget of the event are there, and its times lie within those of the run. -/
def placed (m : ExecutionBudgetManifest) (e : ExecutionEvent) : Prop :=
  e.budgetId ∈ m.budgets.map (·.budgetId) ∧ ∃ run ∈ m.run e.runId, run.startedAtMs ≤ e.startedAtMs ∧
    e.startedAtMs ≤ e.endedAtMs ∧ e.endedAtMs ≤ run.completedAtMs ∧ 0 < e.attempt

instance (m : ExecutionBudgetManifest) (e : ExecutionEvent) : Decidable (placed m e) := inferInstanceAs (Decidable (_ ∧ _))

def validateEvent (p : ExecutionBudgetPolicy) (m : ExecutionBudgetManifest) (e : ExecutionEvent) : Check Unit := do
  rejectIf (e.ownerId ∉ p.trustedOwnerIds) .ownerUntrusted "untrusted event owner" (some e.eventId)
  rejectIf (¬ placed m e) .referenceInvalid "invalid event run/budget/time" (some e.eventId)
  rejectIf (∃ parent ∈ e.parentEventId, m.event parent = none) .referenceInvalid "unknown parent event" (some e.eventId)
  rejectIf (∃ parent ∈ e.parentEventId, ∃ q ∈ m.event parent, q.runId ≠ e.runId) .referenceInvalid
    "cross-run parent event" (some e.eventId)
  if e.eventType = .modelCall then
    rejectIf ((∀ id ∈ e.modelId, m.rate id = none) ∨ e.inputTokens < 0 ∨ e.outputTokens < 0) .referenceInvalid
      "invalid model-call accounting" (some e.eventId)
  else
    rejectIf (e.modelId ≠ none ∨ e.inputTokens ≠ 0 ∨ e.outputTokens ≠ 0) .referenceInvalid
      "non-model event carries model accounting" (some e.eventId)
  rejectIf (e.claimedCostMicrousd < 0) .referenceInvalid "negative claimed cost" (some e.eventId)
  rejectIf (e.eventType = .toolCall ∧ (e.p8dObservationId = none ∨ e.p8dObservationId = some "")) .referenceInvalid
    "tool call lacks P8-D observation binding" (some e.eventId)
  rejectIf (e.eventType ≠ .toolCall ∧ e.p8dObservationId ≠ none) .referenceInvalid
    "non-tool event has P8-D observation binding" (some e.eventId)

def validateEventAncestry (m : ExecutionBudgetManifest) (e : ExecutionEvent) : Check Unit :=
  rejectIf (Ascent.walk m.parentEvent m.events.length [] (some e.eventId) = false) .graphCycle
    "execution-event graph contains cycle" (some e.eventId)

/-- `_validate_manifest`. -/
def validateManifest (p : ExecutionBudgetPolicy) (m : ExecutionBudgetManifest) (evaluatedAtEpoch : Int) : Check Unit := do
  rejectIf (m.schemaVersion ≠ budgetSchemaVersion ∨ m.graphId ≠ p.expectedGraphId ∨ m.version ≠ p.expectedGraphVersion ∨
    m.digest rt ≠ rt.casefold p.expectedGraphSha256 ∨ evaluatedAtEpoch - m.createdAtEpoch > p.maxManifestAgeSeconds ∨
    m.createdAtEpoch - evaluatedAtEpoch > p.maxFutureSkewSeconds) .manifestInvalid "manifest binding/freshness invalid" none
  unique ModelCostRate.modelId m.modelRates
  unique BudgetEnvelope.budgetId m.budgets
  unique BudgetAllocation.allocationId m.allocations
  unique ExecutionRun.runId m.runs
  unique ExecutionEvent.eventId m.events
  covers ModelCostRate.modelId m.modelRates p.requiredModelIds
  covers BudgetEnvelope.budgetId m.budgets p.requiredBudgetIds
  covers BudgetAllocation.allocationId m.allocations p.requiredAllocationIds
  covers ExecutionRun.runId m.runs p.requiredRunIds
  covers ExecutionEvent.eventId m.events p.requiredEventIds
  forEach (validateRate p) m.modelRates
  forEach (validateBudget p) m.budgets
  validateAllocations p m [] m.allocations
  forEach (validateAncestry m) m.budgets
  forEach (validateRun p m) m.runs
  forEach (validateEvent p m) m.events
  forEach (validateEventAncestry m) m.events

/-! ## Accounting -/

def modelCalls (events : List ExecutionEvent) : Int := (events.filter fun e => e.eventType = .modelCall).length

def toolCalls (events : List ExecutionEvent) : Int := (events.filter fun e => e.eventType = .toolCall).length

def totalTokens (events : List ExecutionEvent) : Int := (events.map fun e => e.inputTokens + e.outputTokens).sum

def stepsCount (events : List ExecutionEvent) : Int := (events.filter fun e => e.eventType = .agentStep).length

def irreversibleActions (events : List ExecutionEvent) : Int := (events.filter fun e => e.irreversible).length

/-- `_ceil_cost`. -/
def ceilCost (tokens rate : Int) : Int := (tokens * rate + 999) / 1000

/-- The cost of an event, whose rate is there. -/
def costOf (m : ExecutionBudgetManifest) (e : ExecutionEvent) : Int :=
  match e.eventType, m.rate (e.modelId.getD "") with
  | .modelCall, some rate =>
    ceilCost e.inputTokens rate.inputMicrousdPer1kTokens + ceilCost e.outputTokens rate.outputMicrousdPer1kTokens
  | _, _ => 0

def derivedCost (m : ExecutionBudgetManifest) (events : List ExecutionEvent) : Int := (events.map (costOf m)).sum

/-- `max(xs, default=0)`. -/
def maxDefault (xs : List Int) : Int := xs.max?.getD 0

def maxDepth (m : ExecutionBudgetManifest) (events : List ExecutionEvent) : Int :=
  maxDefault (events.map fun e => (m.depth e : Int))

def maxFanout (m : ExecutionBudgetManifest) (events : List ExecutionEvent) : Int :=
  maxDefault (events.map fun e => (m.fanout e : Int))

def maxRetry (events : List ExecutionEvent) : Int := maxDefault (events.map fun e => e.attempt - 1)

/-- `counts_by_operation[key]`. -/
def operationCount (events : List ExecutionEvent) (key : String) : Nat := (events.filter fun e => e.operationKey = key).length

def maxRepeat (events : List ExecutionEvent) : Int :=
  maxDefault (events.map fun e => (operationCount events e.operationKey : Int))

/-- The most of `times`, which are in order, within a minute from one of them on. -/
def maxPerMinute : List Int → Nat
  | [] => 0
  | started :: times => max (1 + (times.takeWhile fun later => later - started < 60000).length) (maxPerMinute times)

def irreversibleTimes (events : List ExecutionEvent) : List Int :=
  sortOn id ((events.filter fun e => e.irreversible).map (·.startedAtMs))

/-! ## Risks -/

def flag (c : Prop) [Decidable c] (r : BudgetRisk) : List BudgetRisk := if c then [r] else []

@[simp] theorem flag_eq_nil {c : Prop} [Decidable c] {r : BudgetRisk} : flag c r = [] ↔ ¬ c := by
  unfold flag
  split <;> simp_all

/-- `_decision_allowed`. -/
def decisionAllowed (value : Json) : Prop :=
  rt.casefold (text rt (enumValue (getattr value "decision" (.str "")))) ∈ ["allow", "allowed", "safe"]

instance (value : Json) : Decidable (decisionAllowed rt value) := inferInstanceAs (Decidable (_ ∈ _))

/-- `item is None or not _decision_allowed(item)`. -/
def notAllowed (item : Option Json) : Prop := ∀ x ∈ item, ¬ decisionAllowed rt x

instance (item : Option Json) : Decidable (notAllowed rt item) := inferInstanceAs (Decidable (∀ x ∈ item, _))

/-- A ceiling of `child` is higher than that of `parent`. -/
def exceeds (child parent : List Int) : Prop := ∃ c ∈ child.zip parent, c.1 > c.2

instance (child parent : List Int) : Decidable (exceeds child parent) := inferInstanceAs (Decidable (∃ c ∈ _, _))

/-- Where the additive ceilings are among the twelve: `additive_indexes` less four. -/
def additiveIndexes : List Nat := [0, 1, 2, 3, 5, 10]

def oversubscribed (m : ExecutionBudgetManifest) (b : BudgetEnvelope) : Prop :=
  ∃ i ∈ additiveIndexes, (((m.budgetChildren b.budgetId).filterMap m.budget).map fun c => c.ceilings.getD i 0).sum >
    b.ceilings.getD i 0

instance (m : ExecutionBudgetManifest) (b : BudgetEnvelope) : Decidable (oversubscribed m b) :=
  inferInstanceAs (Decidable (∃ i ∈ _, _))

/-- What `derive` reads of the upstream assessments. -/
structure Upstreams where
  delegations : Dict Json
  steps : Dict Json
  observations : Dict Json

def allocationRisks (m : ExecutionBudgetManifest) (up : Upstreams) (a : BudgetAllocation) : List BudgetRisk :=
  match m.budget a.childBudgetId, m.budget a.parentBudgetId with
  | some child, some parent =>
    flag (exceeds child.ceilings parent.ceilings) .delegatedBudgetAmplification ++
      flag (child.delegationId ≠ some a.delegationId) .identityMismatch ++ match up.delegations a.delegationId with
      | none => [.upstreamDelegationUnsafe]
      | some fact =>
        if ¬ decisionAllowed rt fact then [.upstreamDelegationUnsafe]
        else flag (text rt (getattr fact "delegatee_agent_id" (.str a.delegateeAgentId)) ≠ a.delegateeAgentId) .identityMismatch
  | _, _ => []

/-- `allocation_risks_by_root`. -/
def allocationRisksByRoot (m : ExecutionBudgetManifest) (up : Upstreams) (root : String) : List BudgetRisk :=
  ((m.allocations.filter fun a => m.rootOf a.parentBudgetId = root).flatMap (allocationRisks rt m up)) ++
    flag (∃ b ∈ m.budgets, m.budgetChildren b.budgetId ≠ [] ∧ m.rootOf b.budgetId = root ∧ oversubscribed m b)
      .delegatedBudgetOversubscribed

def observationRisks (up : Upstreams) (e : ExecutionEvent) : List BudgetRisk :=
  if e.eventType = .toolCall then
    match up.observations (e.p8dObservationId.getD "") with
    | none => [.upstreamToolObservationUnsafe]
    | some observation =>
      if ¬ decisionAllowed rt observation then [.upstreamToolObservationUnsafe]
      else flag (text rt (getattr observation "tenant_id" (.str e.tenantId)) ≠ e.tenantId) .tenantMismatch ++
        flag (text rt (getattr observation "goal_id" (.str e.goalId)) ≠ e.goalId) .goalMismatch
  else []

/-- `rates[event.model_id]` of a model call is there. -/
def rated (m : ExecutionBudgetManifest) (e : ExecutionEvent) : Check Unit :=
  match e.eventType, m.rate (e.modelId.getD "") with
  | .modelCall, none => .error (.key (e.modelId.getD ""))
  | _, _ => .ok ()

def eventRisks (m : ExecutionBudgetManifest) (up : Upstreams) (run : ExecutionRun) (e : ExecutionEvent) :
    Check (List BudgetRisk) := do
  let budget ← getItem m.budget e.budgetId
  rated m e
  pure (flag (e.budgetId ∉ m.descendants run.rootBudgetId) .identityMismatch ++
    flag (e.originalPrincipalId ≠ run.originalPrincipalId ∨ budget.originalPrincipalId ≠ run.originalPrincipalId)
      .identityMismatch ++
    flag (e.tenantId ≠ run.tenantId ∨ budget.tenantId ≠ run.tenantId) .tenantMismatch ++
    flag (e.goalId ≠ run.goalId ∨ budget.goalId ≠ run.goalId) .goalMismatch ++
    flag (e.delegationId ≠ budget.delegationId ∧
      ¬ (e.budgetId = run.rootBudgetId ∧ e.delegationId = none ∧ budget.delegationId = none)) .identityMismatch ++
    flag (∃ d ∈ e.delegationId, notAllowed rt (up.delegations d)) .upstreamDelegationUnsafe ++
    flag (notAllowed rt (up.steps e.stepId)) .upstreamPlanUnsafe ++ observationRisks rt up e ++
    flag (e.claimedCostMicrousd ≠ costOf m e) .costClaimMismatch)

def collectRisks (risks : ExecutionEvent → Check (List BudgetRisk)) : List ExecutionEvent → Check (List BudgetRisk)
  | [] => .ok []
  | e :: es => do
    let here ← risks e
    let rest ← collectRisks risks es
    pure (here ++ rest)

/-- The run's own events against all ceilings of its root budget. -/
def rootRisks (m : ExecutionBudgetManifest) (run : ExecutionRun) (root : BudgetEnvelope) (events : List ExecutionEvent) :
    List BudgetRisk :=
  flag (modelCalls events > root.maxModelCalls) .modelCallLimit ++
    flag (toolCalls events > root.maxToolCalls) .toolCallLimit ++
    flag (totalTokens events > root.maxTotalTokens) .tokenLimit ++
    flag (derivedCost m events > root.maxCostMicrousd) .costLimit ++
    flag (run.completedAtMs - run.startedAtMs > root.maxElapsedMs) .elapsedLimit ++
    flag (stepsCount events > root.maxSteps) .stepLimit ++
    flag (maxDepth m events > root.maxRecursionDepth) .recursionLimit ++
    flag (maxFanout m events > root.maxFanoutPerEvent) .fanoutLimit ++
    flag (maxRetry events > root.maxRetriesPerOperation) .retryLimit ++
    flag (maxRepeat events > root.maxRepeatedOperationCount) .loopDetected ++
    flag (irreversibleActions events > root.maxIrreversibleActions) .irreversibleCountLimit ++
    flag (maxPerMinute (irreversibleTimes events) > root.maxIrreversibleActionsPerMinute) .irreversibleRateLimit

/-- The events charged to the budget or below it, against six of its ceilings. -/
def scopedRisks (m : ExecutionBudgetManifest) (budget : BudgetEnvelope) (events : List ExecutionEvent) : List BudgetRisk :=
  flag (modelCalls events > budget.maxModelCalls) .modelCallLimit ++
    flag (toolCalls events > budget.maxToolCalls) .toolCallLimit ++
    flag (totalTokens events > budget.maxTotalTokens) .tokenLimit ++
    flag (derivedCost m events > budget.maxCostMicrousd) .costLimit ++
    flag (stepsCount events > budget.maxSteps) .stepLimit ++
    flag (irreversibleActions events > budget.maxIrreversibleActions) .irreversibleCountLimit

def runEvents (m : ExecutionBudgetManifest) (run : ExecutionRun) : List ExecutionEvent :=
  m.events.filter fun e => e.runId = run.runId

/-- `scoped_events`. -/
def scopedEvents (m : ExecutionBudgetManifest) (run : ExecutionRun) (budgetId : String) : List ExecutionEvent :=
  (runEvents m run).filter fun e => e.budgetId ∈ m.descendants budgetId

/-! ## Derivation -/

structure ExecutionBudgetFact where
  runId : String
  decision : BudgetDecision
  risks : List BudgetRisk
  modelCalls : Int
  toolCalls : Int
  totalTokens : Int
  derivedCostMicrousd : Int
  elapsedMs : Int
  steps : Int
  maxRecursionDepth : Int
  maxFanout : Int
  maxRetryCount : Int
  maxRepeatedOperationCount : Int
  irreversibleActions : Int
  maxIrreversibleActionsPerMinute : Int
  riskScore : Nat
  deriving DecidableEq, Repr

def factOf (m : ExecutionBudgetManifest) (run : ExecutionRun) (risks : List BudgetRisk) : ExecutionBudgetFact where
  runId := run.runId
  decision := if BudgetRisk.sorted risks = [] then .allow else .deny
  risks := BudgetRisk.sorted risks
  modelCalls := modelCalls (runEvents m run)
  toolCalls := toolCalls (runEvents m run)
  totalTokens := totalTokens (runEvents m run)
  derivedCostMicrousd := derivedCost m (runEvents m run)
  elapsedMs := run.completedAtMs - run.startedAtMs
  steps := stepsCount (runEvents m run)
  maxRecursionDepth := maxDepth m (runEvents m run)
  maxFanout := maxFanout m (runEvents m run)
  maxRetryCount := maxRetry (runEvents m run)
  maxRepeatedOperationCount := maxRepeat (runEvents m run)
  irreversibleActions := irreversibleActions (runEvents m run)
  maxIrreversibleActionsPerMinute := maxPerMinute (irreversibleTimes (runEvents m run))
  riskScore := ((BudgetRisk.sorted risks).map BudgetRisk.score).foldl max 0

/-- The body of the loop over the runs. -/
def runFact (m : ExecutionBudgetManifest) (up : Upstreams) (run : ExecutionRun) : Check ExecutionBudgetFact := do
  let root ← getItem m.budget run.rootBudgetId
  let ofEvents ← collectRisks (eventRisks rt m up run) (runEvents m run)
  pure (factOf m run (allocationRisksByRoot rt m up run.rootBudgetId ++
    flag (root.originalPrincipalId ≠ run.originalPrincipalId) .identityMismatch ++
    flag (root.tenantId ≠ run.tenantId) .tenantMismatch ++ flag (root.goalId ≠ run.goalId) .goalMismatch ++ ofEvents ++
    rootRisks m run root (runEvents m run) ++
    ((m.descendants run.rootBudgetId).filterMap m.budget).flatMap fun b => scopedRisks m b (scopedEvents m run b.budgetId)))

def runFacts (m : ExecutionBudgetManifest) (up : Upstreams) : List ExecutionRun → Check (List ExecutionBudgetFact)
  | [] => .ok []
  | run :: runs => do
    let fact ← runFact rt m up run
    let facts ← runFacts m up runs
    pure (fact :: facts)

def upstreamsOf (p8a p8c p8d : Json) : Upstreams where
  delegations := inventory rt p8a "delegations" "delegation_id"
  steps := inventory rt p8c "steps" "step_id"
  observations := inventory rt p8d "observations" "observation_id"

def derive (p : ExecutionBudgetPolicy) (m : ExecutionBudgetManifest) (p8a p8c p8d : Json) (evaluatedAtEpoch : Int) :
    Check (List ExecutionBudgetFact) := do
  validatePolicy rt p
  validateUpstreams rt p m p8a p8c p8d
  validateManifest rt p m evaluatedAtEpoch
  runFacts rt m (upstreamsOf rt p8a p8c p8d) (sortOn (·.runId) m.runs)

end Aegis.Agentic.ExecutionBudget
