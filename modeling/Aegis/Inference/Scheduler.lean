/-
  Aegis.Inference.Scheduler — `InferenceSchedulerSecurityAnalyzer` (scheduler_security.py): what a
  scheduler says of its requests, its tenants, its pool and the batch it selects, checked against
  a policy. `derive` attaches a risk for everything that is not as the policy has it.
-/

import Aegis.Agentic.Decision
import Mathlib.Algebra.Ring.Int.Defs
import Mathlib.Data.Prod.Lex

namespace Aegis.Inference

open Data Checks
open Agentic (Runtime Dict sameSet)
open Agentic.Decision (flag sorted)

namespace Scheduler

def p10bPolicyVersion : String := "inference-scheduler-fairness-admission-v1"

def p10bSchemaVersion : String := "aegis-inference-scheduler-admission-manifest-v1"

def p10aAssessmentSchemaVersion : String := "aegis-inference-tenant-state-isolation-assessment-v1"

def p10aAssessmentMode : String := "deterministic-evidence-bound-inference-tenant-state-isolation-v1"

inductive SchedulerRisk where
  | upstreamP10aInvalid | upstreamBindingMismatch | schedulerIdentityMismatch | requestCoverageMismatch | requestTenantMismatch
  | duplicateRequest | requestResourceLimitExceeded | tenantConcurrencyExceeded | tenantQueueDepthExceeded
  | tenantTokenBudgetExceeded | tenantMemoryBudgetExceeded | globalCapacityExceeded | priorityPolicyMismatch
  | starvationBoundExceeded | fairnessStateMismatch | fairnessSelectionMismatch | batchPlanMismatch | batchCapacityExceeded
  | admittedLedgerMismatch | networkOperationUnexpected
  deriving DecidableEq, Repr

def SchedulerRisk.value : SchedulerRisk → String
  | upstreamP10aInvalid => "upstream_p10a_invalid"
  | upstreamBindingMismatch => "upstream_binding_mismatch"
  | schedulerIdentityMismatch => "scheduler_identity_mismatch"
  | requestCoverageMismatch => "request_coverage_mismatch"
  | requestTenantMismatch => "request_tenant_mismatch"
  | duplicateRequest => "duplicate_request"
  | requestResourceLimitExceeded => "request_resource_limit_exceeded"
  | tenantConcurrencyExceeded => "tenant_concurrency_exceeded"
  | tenantQueueDepthExceeded => "tenant_queue_depth_exceeded"
  | tenantTokenBudgetExceeded => "tenant_token_budget_exceeded"
  | tenantMemoryBudgetExceeded => "tenant_memory_budget_exceeded"
  | globalCapacityExceeded => "global_capacity_exceeded"
  | priorityPolicyMismatch => "priority_policy_mismatch"
  | starvationBoundExceeded => "starvation_bound_exceeded"
  | fairnessStateMismatch => "fairness_state_mismatch"
  | fairnessSelectionMismatch => "fairness_selection_mismatch"
  | batchPlanMismatch => "batch_plan_mismatch"
  | batchCapacityExceeded => "batch_capacity_exceeded"
  | admittedLedgerMismatch => "admitted_ledger_mismatch"
  | networkOperationUnexpected => "network_operation_unexpected"

inductive SchedulerRejectReason where
  | policyInvalid | manifestInvalid | manifestDigestMismatch | requestInvalid | declaredSummaryMismatch
  deriving DecidableEq, Repr

structure InferenceSchedulerRejected where
  reason : SchedulerRejectReason
  message : String
  deriving DecidableEq, Repr

abbrev Check := Except InferenceSchedulerRejected

/-! ## The manifest and the policy -/

structure SchedulerRequestEvidence where
  requestId : String
  tenantId : String
  sessionId : String
  sequenceNo : Int
  priorityClass : String
  promptTokens : Int
  maxOutputTokens : Int
  memoryUnits : Int
  queueAgeSeconds : Int
  admitted : Bool
  running : Bool
  cancelled : Bool
  deriving DecidableEq, Repr

structure TenantSchedulerState where
  tenantId : String
  configuredWeight : Int
  deficitBefore : Int
  serviceUnits : Int
  deficitAfter : Int
  activeRequests : Int
  queuedRequests : Int
  reservedTokens : Int
  reservedMemoryUnits : Int
  deriving DecidableEq, Repr

structure SchedulerResourceEvidence where
  workerPoolId : String
  totalSlots : Int
  activeSlots : Int
  totalMemoryUnits : Int
  usedMemoryUnits : Int
  deriving DecidableEq, Repr

structure SchedulerBatchPlanEvidence where
  batchId : String
  schedulerId : String
  tenantId : String
  requestIds : List String
  totalReservedTokens : Int
  totalMemoryUnits : Int
  deriving DecidableEq, Repr

structure InferenceSchedulerManifest where
  schemaVersion : String
  manifestId : String
  createdAtEpoch : Int
  p10aAssessmentSha256 : String
  upstreamRequestId : String
  upstreamTenantId : String
  upstreamSessionId : String
  schedulerId : String
  schedulingEpoch : Int
  requests : List SchedulerRequestEvidence
  tenantStates : List TenantSchedulerState
  resources : SchedulerResourceEvidence
  selectedBatch : SchedulerBatchPlanEvidence
  priorAdmittedRequestIds : List String
  priorAdmittedLedgerSha256 : String
  networkOperations : Int
  deriving DecidableEq, Repr

structure InferenceSchedulerPolicy where
  policyVersion : String
  expectedManifestId : String
  expectedManifestSha256 : String
  expectedP10aAssessmentSha256 : String
  expectedUpstreamRequestId : String
  expectedUpstreamTenantId : String
  expectedUpstreamSessionId : String
  allowedSchedulerIds : List String
  allowedWorkerPoolIds : List String
  allowedTenantIds : List String
  tenantWeights : List (String × Int)
  maxConcurrentByTenant : List (String × Int)
  maxQueueDepthByTenant : List (String × Int)
  maxReservedTokensByTenant : List (String × Int)
  maxReservedMemoryByTenant : List (String × Int)
  allowedPriorityClasses : List String
  priorityRank : List (String × Int)
  maxWaitSecondsByPriority : List (String × Int)
  deficitQuantum : Int
  maxDeficitUnits : Int
  maxRequestTokens : Int
  maxRequestMemoryUnits : Int
  maxGlobalSlots : Int
  maxGlobalReservedTokens : Int
  maxGlobalMemoryUnits : Int
  maxBatchSize : Int
  maxBatchReservedTokens : Int
  maxBatchMemoryUnits : Int
  expectedPriorAdmittedLedgerSha256 : String
  maxManifestAgeSeconds : Int
  maxFutureSkewSeconds : Int

inductive InferenceDecision where
  | allow | deny
  deriving DecidableEq, Repr

/-- `VerifiedInferenceTenantIsolationAssessment`, as far as it is read here; the risks by their values. -/
structure VerifiedInferenceTenantIsolationAssessment where
  requestId : String
  tenantId : String
  sessionId : String
  decision : InferenceDecision
  risks : List String
  upstreamDeploymentBound : Bool
  upstreamPromotionBound : Bool
  routeIdentityVerified : Bool
  requestIdentityVerified : Bool
  batchIsolationVerified : Bool
  kvAndPrefixCacheIsolationVerified : Bool
  outputBindingVerified : Bool
  requestReplayClear : Bool
  callerDeclaredSafetyTrusted : Bool
  productionInferenceGatewayIntegrated : Bool
  productionSchedulerIsolationEnforced : Bool
  productionKvCacheMemoryIsolationVerified : Bool
  sideChannelResistanceValidated : Bool
  hardwareAttestationVerified : Bool
  assessmentSchemaVersion : String
  assessmentMode : String
  assessmentEvidenceSha256 : String

/-! ## Identifiers, digests and the policy -/

def isLowerAlnum (c : Char) : Bool := ('a' ≤ c && c ≤ 'z') || ('0' ≤ c && c ≤ '9')

/-- `_ID`: `[a-z0-9][a-z0-9._:/@-]{2,127}`, the whole text. -/
def isId (s : String) : Bool :=
  match s.toList with
  | [] => false
  | c :: cs => isLowerAlnum c && 2 ≤ cs.length && cs.length ≤ 127 && cs.all fun c => isLowerAlnum c || "._:/@-".toList.contains c

/-- `_SHA`: `[0-9a-fA-F]{64}`, the whole text. -/
def isSha (s : String) : Bool :=
  s.toList.length = 64 && s.toList.all fun c => ('0' ≤ c && c ≤ '9') || ('a' ≤ c && c ≤ 'f') || ('A' ≤ c && c ≤ 'F')

/-- `p.some_map[t]`; `validatePolicy` has seen to it that the tenant is one of the keys. -/
def limit (d : List (String × Int)) (tenant : String) : Int := (Dict.mapping d tenant).getD 0

def policyInvalid (message : String) : InferenceSchedulerRejected := ⟨.policyInvalid, message⟩

/-- `maps`: the maps that are keyed by tenants. -/
def InferenceSchedulerPolicy.tenantMaps (p : InferenceSchedulerPolicy) : List (List (String × Int)) :=
  [p.tenantWeights, p.maxConcurrentByTenant, p.maxQueueDepthByTenant, p.maxReservedTokensByTenant, p.maxReservedMemoryByTenant]

def InferenceSchedulerPolicy.bounds (p : InferenceSchedulerPolicy) : List Int :=
  [p.deficitQuantum, p.maxDeficitUnits, p.maxRequestTokens, p.maxRequestMemoryUnits, p.maxGlobalSlots, p.maxGlobalReservedTokens,
    p.maxGlobalMemoryUnits, p.maxBatchSize, p.maxBatchReservedTokens, p.maxBatchMemoryUnits, p.maxManifestAgeSeconds,
    p.maxFutureSkewSeconds]

/-- `_validate_policy`. -/
def validatePolicy (p : InferenceSchedulerPolicy) : Check Unit := do
  raiseIf (p.policyVersion ≠ p10bPolicyVersion) (policyInvalid "unexpected policy version")
  raiseIf (¬ ∀ s ∈ [p.expectedManifestId, p.expectedUpstreamRequestId, p.expectedUpstreamTenantId, p.expectedUpstreamSessionId],
    isId s = true) (policyInvalid "policy identity pins invalid")
  raiseIf (¬ ∀ s ∈ [p.expectedManifestSha256, p.expectedP10aAssessmentSha256, p.expectedPriorAdmittedLedgerSha256], isSha s = true)
    (policyInvalid "policy digests must be SHA-256")
  raiseIf (p.allowedSchedulerIds = [] ∨ p.allowedWorkerPoolIds = [] ∨ p.allowedTenantIds = [])
    (policyInvalid "policy allowlists cannot be empty")
  raiseIf (¬ p.allowedSchedulerIds.Nodup ∨ ¬ p.allowedWorkerPoolIds.Nodup ∨ ¬ p.allowedTenantIds.Nodup)
    (policyInvalid "policy allowlists contain duplicates")
  raiseIf (∃ d ∈ p.tenantMaps, ¬ sameSet (d.map (·.1)) p.allowedTenantIds) (policyInvalid "tenant policy maps incomplete")
  raiseIf (¬ sameSet (p.priorityRank.map (·.1)) p.allowedPriorityClasses ∨
    ¬ sameSet (p.maxWaitSecondsByPriority.map (·.1)) p.allowedPriorityClasses ∨ p.allowedPriorityClasses = [])
    (policyInvalid "priority policy maps incomplete")
  raiseIf ((∃ e ∈ p.tenantWeights, e.2 ≤ 0) ∨ ∃ d ∈ p.tenantMaps.tail, ∃ e ∈ d, e.2 < 0) (policyInvalid "tenant limits invalid")
  raiseIf ((∃ e ∈ p.priorityRank, e.2 < 0) ∨ ∃ e ∈ p.maxWaitSecondsByPriority, e.2 < 0) (policyInvalid "priority limits invalid")
  raiseIf ((∃ v ∈ p.bounds, v < 0) ∨
    ∃ v ∈ [p.deficitQuantum, p.maxRequestTokens, p.maxRequestMemoryUnits, p.maxGlobalSlots, p.maxBatchSize], v ≤ 0)
    (policyInvalid "scheduler bounds invalid")

/-! ## The manifest -/

def manifestInvalid (message : String) : InferenceSchedulerRejected := ⟨.manifestInvalid, message⟩

def validateRequest (r : SchedulerRequestEvidence) : Check Unit := do
  raiseIf ((¬ ∀ s ∈ [r.requestId, r.tenantId, r.sessionId, r.priorityClass], isId s = true) ∨
    ∃ v ∈ [r.sequenceNo, r.promptTokens, r.maxOutputTokens, r.memoryUnits, r.queueAgeSeconds], v < 0)
    (manifestInvalid "request evidence malformed")
  raiseIf (r.running = true ∧ (r.admitted = false ∨ r.cancelled = true)) (manifestInvalid "running request state malformed")

def validateTenantState (s : TenantSchedulerState) : Check Unit :=
  raiseIf (isId s.tenantId = false ∨ ∃ v ∈ [s.configuredWeight, s.deficitBefore, s.serviceUnits, s.deficitAfter, s.activeRequests,
    s.queuedRequests, s.reservedTokens, s.reservedMemoryUnits], v < 0) (manifestInvalid "tenant scheduler state malformed")

/-- `_validate_manifest`. -/
def validateManifest (p : InferenceSchedulerPolicy) (m : InferenceSchedulerManifest) : Check Unit := do
  raiseIf (m.schemaVersion ≠ p10bSchemaVersion ∨ m.manifestId ≠ p.expectedManifestId ∨ isId m.manifestId = false ∨
    m.createdAtEpoch ≤ 0 ∨ m.schedulingEpoch < 0) (manifestInvalid "manifest identity/schema/time invalid")
  raiseIf (isSha m.p10aAssessmentSha256 = false ∨
    ¬ ∀ s ∈ [m.upstreamRequestId, m.upstreamTenantId, m.upstreamSessionId, m.schedulerId], isId s = true)
    (manifestInvalid "upstream/scheduler evidence malformed")
  raiseIf (m.requests = [] ∨ ¬ (m.requests.map (·.requestId)).Nodup) (manifestInvalid "request evidence empty or duplicated")
  forEach validateRequest m.requests
  raiseIf (¬ (m.tenantStates.map (·.tenantId)).Nodup) (manifestInvalid "duplicate tenant scheduler state")
  forEach validateTenantState m.tenantStates
  raiseIf (isId m.resources.workerPoolId = false ∨ ∃ v ∈ [m.resources.totalSlots, m.resources.activeSlots,
    m.resources.totalMemoryUnits, m.resources.usedMemoryUnits], v < 0) (manifestInvalid "resource evidence malformed")
  raiseIf ((¬ ∀ s ∈ [m.selectedBatch.batchId, m.selectedBatch.schedulerId, m.selectedBatch.tenantId], isId s = true) ∨
    ¬ m.selectedBatch.requestIds.Nodup ∨ m.selectedBatch.totalReservedTokens < 0 ∨ m.selectedBatch.totalMemoryUnits < 0)
    (manifestInvalid "batch plan malformed")
  raiseIf (¬ m.priorAdmittedRequestIds.Nodup ∨ (¬ ∀ s ∈ m.priorAdmittedRequestIds, isId s = true) ∨
    isSha m.priorAdmittedLedgerSha256 = false ∨ m.networkOperations < 0) (manifestInvalid "admitted ledger/network evidence malformed")

/-- `_upstream_ok`. -/
def UpstreamOk (a : VerifiedInferenceTenantIsolationAssessment) : Prop :=
  a.decision = .allow ∧ a.risks = [] ∧
    (∀ f ∈ [a.upstreamDeploymentBound, a.upstreamPromotionBound, a.routeIdentityVerified, a.requestIdentityVerified,
      a.batchIsolationVerified, a.kvAndPrefixCacheIsolationVerified, a.outputBindingVerified, a.requestReplayClear], f = true) ∧
    (∀ f ∈ [a.callerDeclaredSafetyTrusted, a.productionInferenceGatewayIntegrated, a.productionSchedulerIsolationEnforced,
      a.productionKvCacheMemoryIsolationVerified, a.sideChannelResistanceValidated, a.hardwareAttestationVerified], f = false) ∧
    a.assessmentSchemaVersion = p10aAssessmentSchemaVersion ∧ a.assessmentMode = p10aAssessmentMode

instance decidableUpstreamOk (a : VerifiedInferenceTenantIsolationAssessment) : Decidable (UpstreamOk a) :=
  inferInstanceAs (Decidable (_ ∧ _))

/-! ## The batch -/

namespace SchedulerRequestEvidence

/-- `rt`: the tokens reserved for a request. -/
def tokens (r : SchedulerRequestEvidence) : Int := r.promptTokens + r.maxOutputTokens

/-- `r.admitted and not r.cancelled`. -/
def reserved (r : SchedulerRequestEvidence) : Bool := r.admitted && !r.cancelled

/-- `r.admitted and not r.running and not r.cancelled`. -/
def eligible (r : SchedulerRequestEvidence) : Bool := r.admitted && !r.running && !r.cancelled

/-- `not r.running and not r.cancelled`. -/
def queued (r : SchedulerRequestEvidence) : Bool := !r.running && !r.cancelled

end SchedulerRequestEvidence

/-- `(-p.priority_rank.get(r.priority_class, -1), -r.queue_age_seconds, r.request_id)`. -/
def batchKey (p : InferenceSchedulerPolicy) (r : SchedulerRequestEvidence) : Lex (Int × Lex (Int × String)) :=
  toLex (-(Dict.mapping p.priorityRank r.priorityClass).getD (-1), toLex (-r.queueAgeSeconds, r.requestId))

/-- `chosen`, `tok` and `mem`. -/
structure Batch where
  requestIds : List String
  tokens : Int
  memory : Int
  deriving DecidableEq, Repr

/-- The loop of `_greedy_batch`. -/
def fill (p : InferenceSchedulerPolicy) : Batch → List SchedulerRequestEvidence → Batch
  | b, [] => b
  | b, r :: rs =>
    if p.maxBatchSize ≤ b.requestIds.length then b
    else if b.tokens + r.tokens ≤ p.maxBatchReservedTokens ∧ b.memory + r.memoryUnits ≤ p.maxBatchMemoryUnits then
      fill p ⟨b.requestIds ++ [r.requestId], b.tokens + r.tokens, b.memory + r.memoryUnits⟩ rs
    else fill p b rs

/-- `eligible`, in the order the batch is filled. -/
def candidates (p : InferenceSchedulerPolicy) (requests : List SchedulerRequestEvidence) (tenant : String) :
    List SchedulerRequestEvidence := sortOn (batchKey p) (requests.filter fun r => r.tenantId = tenant && r.eligible)

/-- `_greedy_batch`. -/
def greedyBatch (p : InferenceSchedulerPolicy) (requests : List SchedulerRequestEvidence) (tenant : String) : Batch :=
  fill p ⟨[], 0, 0⟩ (candidates p requests tenant)

/-! ## Risks -/

/-- The sum of `f` over the requests with `c`. -/
def tally (c : SchedulerRequestEvidence → Bool) (f : SchedulerRequestEvidence → Int) (requests : List SchedulerRequestEvidence) : Int :=
  ((requests.filter c).map f).sum

/-- The number of requests with `c`. -/
def number (c : SchedulerRequestEvidence → Bool) (requests : List SchedulerRequestEvidence) : Int := tally c (fun _ => 1) requests

/-- `by_tenant[t]`. -/
def ofTenant (requests : List SchedulerRequestEvidence) (tenant : String) : List SchedulerRequestEvidence :=
  requests.filter fun r => r.tenantId = tenant

/-- `admitted_ledger_digest`. -/
def admittedLedgerDigest (rt : Runtime) (ids : List String) : String :=
  rt.sha256 (.obj [("admitted_request_ids", .arr ((sortOn id ids).map .str))])

variable (rt : Runtime) (p : InferenceSchedulerPolicy) (m : InferenceSchedulerManifest)

def bindingRisks (a : VerifiedInferenceTenantIsolationAssessment) : List SchedulerRisk :=
  flag (¬ UpstreamOk a) SchedulerRisk.upstreamP10aInvalid ++
  flag (rt.casefold m.p10aAssessmentSha256 ≠ rt.casefold p.expectedP10aAssessmentSha256 ∨
    rt.casefold a.assessmentEvidenceSha256 ≠ rt.casefold p.expectedP10aAssessmentSha256 ∨
    (m.upstreamRequestId, m.upstreamTenantId, m.upstreamSessionId) ≠
      (p.expectedUpstreamRequestId, p.expectedUpstreamTenantId, p.expectedUpstreamSessionId) ∨
    (a.requestId, a.tenantId, a.sessionId) ≠ (m.upstreamRequestId, m.upstreamTenantId, m.upstreamSessionId))
    SchedulerRisk.upstreamBindingMismatch ++
  flag (m.schedulerId ∉ p.allowedSchedulerIds ∨ m.selectedBatch.schedulerId ≠ m.schedulerId ∨
    m.resources.workerPoolId ∉ p.allowedWorkerPoolIds) SchedulerRisk.schedulerIdentityMismatch

/-- `upstream_rows`, where there is one: its tenant and session. -/
def UpstreamRow : Prop :=
  match m.requests.filter fun r => r.requestId = m.upstreamRequestId with
  | [r] => (r.tenantId, r.sessionId) = (m.upstreamTenantId, m.upstreamSessionId)
  | _ => False

instance decidableUpstreamRow : Decidable (UpstreamRow m) := by
  unfold UpstreamRow
  split <;> infer_instance

def coverageRisks : List SchedulerRisk :=
  flag (m.upstreamRequestId ∉ m.requests.map (·.requestId)) SchedulerRisk.requestCoverageMismatch ++
  flag (∃ r ∈ m.requests, r.tenantId ∉ p.allowedTenantIds ∨ ¬ ("tenant/" ++ r.tenantId ++ "/session/").toList <+: r.sessionId.toList)
    SchedulerRisk.requestTenantMismatch ++
  flag (¬ UpstreamRow m) SchedulerRisk.requestTenantMismatch ++
  flag (∃ r ∈ m.requests, r.requestId ∈ m.priorAdmittedRequestIds) SchedulerRisk.duplicateRequest ++
  flag (¬ sameSet (m.tenantStates.map (·.tenantId)) p.allowedTenantIds) SchedulerRisk.requestCoverageMismatch

/-- The body of the loop over the requests. -/
def requestRisks (r : SchedulerRequestEvidence) : List SchedulerRisk :=
  flag (r.priorityClass ∉ p.allowedPriorityClasses) SchedulerRisk.priorityPolicyMismatch ++
  flag (r.tokens > p.maxRequestTokens ∨ r.memoryUnits > p.maxRequestMemoryUnits) SchedulerRisk.requestResourceLimitExceeded ++
  flag (r.eligible = true ∧ ∃ wait ∈ Dict.mapping p.maxWaitSecondsByPriority r.priorityClass, r.queueAgeSeconds > wait)
    SchedulerRisk.starvationBoundExceeded

/-- `expected_service`. -/
def expectedService (tenant : String) : Int := if m.selectedBatch.tenantId = tenant then m.selectedBatch.totalReservedTokens else 0

/-- The deficit a tenant has when a batch is selected. -/
def credit (tenant : String) (st : TenantSchedulerState) : Int := st.deficitBefore + limit p.tenantWeights tenant * p.deficitQuantum

def TenantSchedulerState.counts (st : TenantSchedulerState) : Int × Int × Int × Int :=
  (st.activeRequests, st.queuedRequests, st.reservedTokens, st.reservedMemoryUnits)

/-- What the requests of a tenant come to: active, queued, reserved tokens and reserved memory. -/
def countsOf (items : List SchedulerRequestEvidence) : Int × Int × Int × Int :=
  (number (·.running) items, number (·.queued) items, tally (·.reserved) (·.tokens) items, tally (·.reserved) (·.memoryUnits) items)

/-- The body of the loop over the tenants. -/
def tenantRisks (tenant : String) (st : TenantSchedulerState) : List SchedulerRisk :=
  let items := ofTenant m.requests tenant
  flag (number (·.running) items > limit p.maxConcurrentByTenant tenant) SchedulerRisk.tenantConcurrencyExceeded ++
  flag (number (·.queued) items > limit p.maxQueueDepthByTenant tenant) SchedulerRisk.tenantQueueDepthExceeded ++
  flag (tally (·.reserved) (·.tokens) items > limit p.maxReservedTokensByTenant tenant) SchedulerRisk.tenantTokenBudgetExceeded ++
  flag (tally (·.reserved) (·.memoryUnits) items > limit p.maxReservedMemoryByTenant tenant) SchedulerRisk.tenantMemoryBudgetExceeded ++
  flag (st.configuredWeight ≠ limit p.tenantWeights tenant ∨ st.deficitBefore > p.maxDeficitUnits ∨
    st.serviceUnits ≠ expectedService m tenant ∨ st.deficitAfter ≠ credit p tenant st - expectedService m tenant ∨
    st.counts ≠ countsOf items) SchedulerRisk.fairnessStateMismatch

/-- `states`. -/
def states : Dict TenantSchedulerState := Dict.ofItems TenantSchedulerState.tenantId m.tenantStates

def capacityRisks : List SchedulerRisk :=
  let z := m.resources
  flag (z.totalSlots > p.maxGlobalSlots ∨ z.activeSlots > z.totalSlots ∨ z.activeSlots ≠ number (·.running) m.requests ∨
    z.totalMemoryUnits > p.maxGlobalMemoryUnits ∨ z.usedMemoryUnits > z.totalMemoryUnits ∨
    z.usedMemoryUnits ≠ tally (·.running) (·.memoryUnits) m.requests ∨
    tally (·.reserved) (·.tokens) m.requests > p.maxGlobalReservedTokens ∨
    tally (·.reserved) (·.memoryUnits) m.requests > p.maxGlobalMemoryUnits) SchedulerRisk.globalCapacityExceeded

/-- `eligible_tenants`, each with its state. -/
def eligibleTenants : List (String × TenantSchedulerState) :=
  p.allowedTenantIds.filterMap fun t =>
    if (ofTenant m.requests t).any (·.eligible) = true then (states m t).map fun st => (t, st) else none

/-- The key by which the next tenant is the least. -/
def turnKey (e : String × TenantSchedulerState) : Lex (Int × String) := toLex (-credit p e.1 e.2, e.1)

/-- `min(xs, key=…)`, the first of the least. -/
def leastOn {α κ : Type} [LinearOrder κ] (key : α → κ) : List α → Option α
  | [] => none
  | x :: xs => some (xs.foldl (fun best y => if key y < key best then y else best) x)

def selectionRisks : List SchedulerRisk :=
  match leastOn (turnKey p) (eligibleTenants p m) with
  | some (tenant, _) => flag (m.selectedBatch.tenantId ≠ tenant) SchedulerRisk.fairnessSelectionMismatch
  | none => [.batchPlanMismatch]

def batchRisks : List SchedulerRisk :=
  let b := m.selectedBatch
  flag (b.tenantId ∉ p.allowedTenantIds ∨ ∃ i ∈ b.requestIds, ¬ ∃ r ∈ m.requests, r.requestId = i ∧ r.tenantId = b.tenantId)
    SchedulerRisk.batchPlanMismatch ++
  flag (Batch.mk b.requestIds b.totalReservedTokens b.totalMemoryUnits ≠ greedyBatch p m.requests b.tenantId) SchedulerRisk.batchPlanMismatch ++
  flag ((b.requestIds.length : Int) > p.maxBatchSize ∨ b.totalReservedTokens > p.maxBatchReservedTokens ∨
    b.totalMemoryUnits > p.maxBatchMemoryUnits) SchedulerRisk.batchCapacityExceeded

def ledgerRisks : List SchedulerRisk :=
  let ledger := rt.casefold (admittedLedgerDigest rt m.priorAdmittedRequestIds)
  flag (ledger ≠ rt.casefold m.priorAdmittedLedgerSha256 ∨ ledger ≠ rt.casefold p.expectedPriorAdmittedLedgerSha256)
    SchedulerRisk.admittedLedgerMismatch ++
  flag (m.networkOperations ≠ 0) SchedulerRisk.networkOperationUnexpected

/-- `R`. -/
def risksOf (a : VerifiedInferenceTenantIsolationAssessment) : List SchedulerRisk :=
  bindingRisks rt p m a ++ coverageRisks p m ++ m.requests.flatMap (requestRisks p) ++
    p.allowedTenantIds.flatMap (fun t => ((states m t).map (tenantRisks p m t)).getD []) ++ capacityRisks p m ++ selectionRisks p m ++
    batchRisks p m ++ ledgerRisks rt p m

/-- `derive`. -/
def derive (a : VerifiedInferenceTenantIsolationAssessment) : Check (List SchedulerRisk) := do
  validateManifest p m
  pure (sorted SchedulerRisk.value (risksOf rt p m a))

end Scheduler

end Aegis.Inference
