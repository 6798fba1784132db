/-
  Aegis.Agentic.ObservationIntegrity — `AgentToolObservationIntegrityAnalyzer.derive`
  (tool_observation_security.py): an observation is allowed when it, the result it reports, the
  invocation it names and the environment snapshots of both agree.
-/

import Aegis.Agentic.Decision

namespace Aegis.Agentic.ObservationIntegrity

open Data Evidence Checked Decision

def toolSchemaVersion : String := "aegis-agent-tool-observation-manifest-v1"

inductive ToolEffect where
  | readOnly | mutating | irreversible
  deriving DecidableEq, Repr

def ToolEffect.value : ToolEffect → String
  | readOnly => "read_only"
  | mutating => "mutating"
  | irreversible => "irreversible"

inductive ObservationTrust where
  | untrusted | toolAsserted | verified
  deriving DecidableEq, Repr

def ObservationTrust.value : ObservationTrust → String
  | untrusted => "untrusted"
  | toolAsserted => "tool_asserted"
  | verified => "verified"

inductive ObservationDecision where
  | allow | deny
  deriving DecidableEq, Repr

inductive ObservationRisk where
  | invocationResultMismatch | toolIdentityMismatch | argumentDigestMismatch | tenantMismatch | taskMismatch | principalMismatch
  | goalStepMismatch | staleResult | replayResult | resultTimeInvalid | sideEffectUnacknowledged | sideEffectAckMismatch
  | environmentStateSpoof | environmentVersionRegression | observationLaundering | observationTrustMismatch
  | upstreamPlanUnsafe | upstreamDelegationUnsafe | requiredInvariantUnsafe
  deriving DecidableEq, Repr

def ObservationRisk.value : ObservationRisk → String
  | invocationResultMismatch => "invocation_result_mismatch"
  | toolIdentityMismatch => "tool_identity_mismatch"
  | argumentDigestMismatch => "argument_digest_mismatch"
  | tenantMismatch => "tenant_mismatch"
  | taskMismatch => "task_mismatch"
  | principalMismatch => "principal_mismatch"
  | goalStepMismatch => "goal_step_mismatch"
  | staleResult => "stale_result"
  | replayResult => "replay_result"
  | resultTimeInvalid => "result_time_invalid"
  | sideEffectUnacknowledged => "side_effect_unacknowledged"
  | sideEffectAckMismatch => "side_effect_ack_mismatch"
  | environmentStateSpoof => "environment_state_spoof"
  | environmentVersionRegression => "environment_version_regression"
  | observationLaundering => "observation_laundering"
  | observationTrustMismatch => "observation_trust_mismatch"
  | upstreamPlanUnsafe => "upstream_plan_unsafe"
  | upstreamDelegationUnsafe => "upstream_delegation_unsafe"
  | requiredInvariantUnsafe => "required_invariant_unsafe"

/-- The reasons `derive` raises. -/
inductive ObservationRejectReason where
  | policyInvalid | upstreamInvalid | manifestInvalid | coverageMismatch | ownerUntrusted | policyDrift | referenceInvalid
  deriving DecidableEq, Repr

abbrev Check := Checked ObservationRejectReason

/-! ## The manifest and the policy -/

structure ToolContract where
  toolId : String
  ownerId : String
  tenantScope : String
  effect : ToolEffect
  authoritativeResult : Bool
  maxResultAgeSeconds : Int
  requiresSideEffectAck : Bool
  requiredP7iInvariantIds : List String
  description : String
  deriving DecidableEq, Repr

structure EnvironmentSnapshot where
  snapshotId : String
  tenantId : String
  stateVersion : Int
  stateSha256 : String
  observedAtEpoch : Int
  ownerId : String
  description : String
  deriving DecidableEq, Repr

structure ToolInvocation where
  invocationId : String
  toolId : String
  agentId : String
  originalPrincipalId : String
  tenantId : String
  taskId : String
  goalId : String
  stepId : String
  delegationId : Option String
  argsSha256 : String
  environmentSnapshotId : String
  issuedAtEpoch : Int
  ownerId : String
  description : String
  deriving DecidableEq, Repr

structure ToolResult where
  resultId : String
  invocationId : String
  toolId : String
  argsSha256 : String
  payloadSha256 : String
  resultNonce : String
  environmentSnapshotId : String
  observedEnvironmentVersion : Int
  observedEnvironmentStateSha256 : String
  sideEffectId : Option String
  sideEffectAckSha256 : Option String
  attestationSha256 : Option String
  producedAtEpoch : Int
  expiresAtEpoch : Int
  ownerId : String
  description : String
  deriving DecidableEq, Repr

structure ToolObservation where
  observationId : String
  resultId : String
  invocationId : String
  toolId : String
  originalPrincipalId : String
  tenantId : String
  taskId : String
  goalId : String
  stepId : String
  environmentSnapshotId : String
  environmentVersion : Int
  environmentStateSha256 : String
  contentSha256 : String
  claimedTrust : ObservationTrust
  ownerId : String
  description : String
  deriving DecidableEq, Repr

structure ToolObservationManifest where
  graphId : String
  version : String
  p8aAssessmentEvidenceSha256 : String
  p8cAssessmentEvidenceSha256 : String
  p7iAssessmentEvidenceSha256 : String
  createdAtEpoch : Int
  contracts : List ToolContract
  snapshots : List EnvironmentSnapshot
  invocations : List ToolInvocation
  results : List ToolResult
  observations : List ToolObservation
  schemaVersion : String
  deriving DecidableEq, Repr

structure ToolObservationPolicy where
  expectedGraphId : String
  expectedGraphVersion : String
  expectedGraphSha256 : String
  expectedP8aAssessmentEvidenceSha256 : String
  expectedP8cAssessmentEvidenceSha256 : String
  expectedP7iAssessmentEvidenceSha256 : String
  requiredContractIds : List String
  requiredSnapshotIds : List String
  requiredInvocationIds : List String
  requiredResultIds : List String
  requiredObservationIds : List String
  trustedOwnerIds : List String
  expectedContractTenantScope : List (String × String)
  expectedContractEffect : List (String × ToolEffect)
  expectedContractAuthoritative : List (String × Bool)
  expectedContractMaxAge : List (String × Int)
  expectedContractRequiresAck : List (String × Bool)
  expectedContractInvariantIds : List (String × List String)
  expectedSnapshotTenant : List (String × String)
  expectedSnapshotStateVersion : List (String × Int)
  expectedSnapshotStateSha256 : List (String × String)
  allowedAttestationSha256 : List String
  maxManifestAgeSeconds : Int
  maxFutureSkewSeconds : Int

structure ToolObservationFact where
  observationId : String
  invocationId : String
  resultId : String
  toolId : String
  decision : ObservationDecision
  risks : List ObservationRisk
  derivedTrust : ObservationTrust
  tenantId : String
  taskId : String
  goalId : String
  stepId : String
  environmentVersion : Int
  sideEffectAcknowledged : Bool
  replayDetected : Bool
  p7iInvariantIds : List String
  deriving DecidableEq, Repr

/-- What the analyzer takes from Python, and `hashlib.sha256` of a text. -/
structure ObservationRuntime extends Runtime where
  textSha256 : String → String

variable (rt : ObservationRuntime)

/-! ## Digests -/

def ToolContract.toDict (text : String → Json) (texts : List String → Json) (c : ToolContract) : Json :=
  .obj [("tool_id", text c.toolId), ("owner_id", text c.ownerId), ("tenant_scope", text c.tenantScope), ("effect", text c.effect.value),
    ("authoritative_result", .bool c.authoritativeResult), ("max_result_age_seconds", .int c.maxResultAgeSeconds),
    ("requires_side_effect_ack", .bool c.requiresSideEffectAck), ("required_p7i_invariant_ids", texts c.requiredP7iInvariantIds),
    ("description", text c.description)]

def EnvironmentSnapshot.toDict (s : EnvironmentSnapshot) : Json :=
  .obj [("snapshot_id", .str s.snapshotId), ("tenant_id", .str s.tenantId), ("state_version", .int s.stateVersion),
    ("state_sha256", .str s.stateSha256), ("observed_at_epoch", .int s.observedAtEpoch), ("owner_id", .str s.ownerId),
    ("description", .str s.description)]

def ToolInvocation.toDict (i : ToolInvocation) : Json :=
  .obj [("invocation_id", .str i.invocationId), ("tool_id", .str i.toolId), ("agent_id", .str i.agentId),
    ("original_principal_id", .str i.originalPrincipalId), ("tenant_id", .str i.tenantId), ("task_id", .str i.taskId),
    ("goal_id", .str i.goalId), ("step_id", .str i.stepId), ("delegation_id", optText i.delegationId), ("args_sha256", .str i.argsSha256),
    ("environment_snapshot_id", .str i.environmentSnapshotId), ("issued_at_epoch", .int i.issuedAtEpoch), ("owner_id", .str i.ownerId),
    ("description", .str i.description)]

def ToolResult.toDict (r : ToolResult) : Json :=
  .obj [("result_id", .str r.resultId), ("invocation_id", .str r.invocationId), ("tool_id", .str r.toolId), ("args_sha256", .str r.argsSha256),
    ("payload_sha256", .str r.payloadSha256), ("result_nonce", .str r.resultNonce), ("environment_snapshot_id", .str r.environmentSnapshotId),
    ("observed_environment_version", .int r.observedEnvironmentVersion),
    ("observed_environment_state_sha256", .str r.observedEnvironmentStateSha256), ("side_effect_id", optText r.sideEffectId),
    ("side_effect_ack_sha256", optText r.sideEffectAckSha256), ("attestation_sha256", optText r.attestationSha256),
    ("produced_at_epoch", .int r.producedAtEpoch), ("expires_at_epoch", .int r.expiresAtEpoch), ("owner_id", .str r.ownerId),
    ("description", .str r.description)]

def ToolObservation.toDict (o : ToolObservation) : Json :=
  .obj [("observation_id", .str o.observationId), ("result_id", .str o.resultId), ("invocation_id", .str o.invocationId),
    ("tool_id", .str o.toolId), ("original_principal_id", .str o.originalPrincipalId), ("tenant_id", .str o.tenantId), ("task_id", .str o.taskId),
    ("goal_id", .str o.goalId), ("step_id", .str o.stepId), ("environment_snapshot_id", .str o.environmentSnapshotId),
    ("environment_version", .int o.environmentVersion), ("environment_state_sha256", .str o.environmentStateSha256),
    ("content_sha256", .str o.contentSha256), ("claimed_trust", .str o.claimedTrust.value), ("owner_id", .str o.ownerId),
    ("description", .str o.description)]

/-- `canonical_tool_observation_manifest_bytes`. -/
def ToolObservationManifest.canonical (rt : Runtime) (m : ToolObservationManifest) : Json :=
  let norm s := Json.str (Canonical.normText rt s)
  .obj [("contracts", normTuple rt ToolContract.toDict m.contracts), ("created_at_epoch", .int m.createdAtEpoch), ("graph_id", norm m.graphId),
    ("invocations", Canonical.normItems rt ToolInvocation.toDict m.invocations),
    ("observations", Canonical.normItems rt ToolObservation.toDict m.observations),
    ("p7i_assessment_evidence_sha256", norm m.p7iAssessmentEvidenceSha256), ("p8a_assessment_evidence_sha256", norm m.p8aAssessmentEvidenceSha256),
    ("p8c_assessment_evidence_sha256", norm m.p8cAssessmentEvidenceSha256), ("results", Canonical.normItems rt ToolResult.toDict m.results),
    ("schema_version", norm m.schemaVersion), ("snapshots", Canonical.normItems rt EnvironmentSnapshot.toDict m.snapshots),
    ("version", norm m.version)]

/-- `tool_observation_manifest_digest`. -/
def ToolObservationManifest.digest (rt : Runtime) (m : ToolObservationManifest) : String := rt.sha256 (m.canonical rt)

/-- `_ack`. -/
def ack (sideEffectId payloadSha256 : String) (version : Int) : String :=
  rt.textSha256 (sideEffectId ++ ":" ++ rt.casefold payloadSha256 ++ ":" ++ toString version)

/-- `_allowed`. -/
def allowed (rt : Runtime) (value : Json) : Prop :=
  rt.casefold (text rt (enumValue (getattr value "decision" (.str "")))) ∈ ["allow", "allowed", "safe"]

instance decidableAllowed (rt : Runtime) (value : Json) : Decidable (allowed rt value) := inferInstanceAs (Decidable (_ ∈ _))

/-! ## Validation -/

/-- `_policy`. -/
def validatePolicy (rt : Runtime) (p : ToolObservationPolicy) : Check Unit :=
  rejectIf (p.expectedGraphId = "" ∨ p.expectedGraphVersion = "" ∨ ¬ sha rt p.expectedGraphSha256 ∨
    ¬ (sha rt p.expectedP8aAssessmentEvidenceSha256 ∧ sha rt p.expectedP8cAssessmentEvidenceSha256 ∧
      sha rt p.expectedP7iAssessmentEvidenceSha256) ∨ p.trustedOwnerIds = [] ∨ p.maxManifestAgeSeconds ≤ 0 ∨ p.maxFutureSkewSeconds < 0)
    .policyInvalid "invalid policy" none

/-- One row of `checks` in `_upstream`. -/
def validateUpstream (rt : Runtime) (value : Json) (pin manifestPin verifiedFlag callerFlag : String) : Check Unit :=
  rejectIf (Evidence.digest rt value ≠ rt.casefold pin ∨ rt.casefold manifestPin ≠ rt.casefold pin ∨
    truthy (getattr value verifiedFlag (.bool false)) = false ∨ truthy (getattr value callerFlag (.bool true)) = true)
    .upstreamInvalid "unverified upstream evidence" none

/-- `_upstream`. -/
def validateUpstreams (rt : Runtime) (p : ToolObservationPolicy) (m : ToolObservationManifest) (p8a p8c p7i : Json) : Check Unit := do
  validateUpstream rt p8a p.expectedP8aAssessmentEvidenceSha256 m.p8aAssessmentEvidenceSha256
    "exact_agent_delegation_graph_binding_verified" "caller_declared_delegation_authorization_trusted"
  validateUpstream rt p8c p.expectedP8cAssessmentEvidenceSha256 m.p8cAssessmentEvidenceSha256
    "exact_goal_plan_graph_binding_verified" "caller_declared_goal_plan_safety_trusted"
  validateUpstream rt p7i p.expectedP7iAssessmentEvidenceSha256 m.p7iAssessmentEvidenceSha256
    "exact_architecture_binding_verified" "caller_declared_architecture_safety_trusted"

/-- What the policy expects of a contract. -/
def AsExpected (p : ToolObservationPolicy) (c : ToolContract) : Prop :=
  Dict.mapping p.expectedContractTenantScope c.toolId = some c.tenantScope ∧ Dict.mapping p.expectedContractEffect c.toolId = some c.effect ∧
    Dict.mapping p.expectedContractAuthoritative c.toolId = some c.authoritativeResult ∧
    Dict.mapping p.expectedContractMaxAge c.toolId = some c.maxResultAgeSeconds ∧
    Dict.mapping p.expectedContractRequiresAck c.toolId = some c.requiresSideEffectAck ∧
    ∃ ids ∈ Dict.mapping p.expectedContractInvariantIds c.toolId, sameSet c.requiredP7iInvariantIds ids

instance decidableAsExpected (p : ToolObservationPolicy) (c : ToolContract) : Decidable (AsExpected p c) := inferInstanceAs (Decidable (_ ∧ _))

def validateContract (p : ToolObservationPolicy) (c : ToolContract) : Check Unit := do
  rejectIf (c.ownerId ∉ p.trustedOwnerIds) .ownerUntrusted "contract owner" (some c.toolId)
  rejectIf (¬ AsExpected p c) .policyDrift "contract drift" (some c.toolId)

def validateSnapshot (rt : Runtime) (p : ToolObservationPolicy) (s : EnvironmentSnapshot) : Check Unit := do
  rejectIf (s.ownerId ∉ p.trustedOwnerIds) .ownerUntrusted "snapshot owner" (some s.snapshotId)
  rejectIf (Dict.mapping p.expectedSnapshotTenant s.snapshotId ≠ some s.tenantId ∨
    Dict.mapping p.expectedSnapshotStateVersion s.snapshotId ≠ some s.stateVersion ∨
    rt.casefold s.stateSha256 ≠ rt.casefold ((Dict.mapping p.expectedSnapshotStateSha256 s.snapshotId).getD "") ∨ ¬ sha rt s.stateSha256)
    .policyDrift "snapshot drift" (some s.snapshotId)

def validateInvocation (rt : Runtime) (p : ToolObservationPolicy) (m : ToolObservationManifest) (i : ToolInvocation) : Check Unit := do
  rejectIf (i.ownerId ∉ p.trustedOwnerIds) .ownerUntrusted "invocation owner" (some i.invocationId)
  rejectIf (i.toolId ∉ m.contracts.map (·.toolId) ∨ i.environmentSnapshotId ∉ m.snapshots.map (·.snapshotId) ∨ ¬ sha rt i.argsSha256)
    .referenceInvalid "invocation reference" (some i.invocationId)

def validateResult (rt : Runtime) (p : ToolObservationPolicy) (m : ToolObservationManifest) (r : ToolResult) : Check Unit := do
  rejectIf (r.ownerId ∉ p.trustedOwnerIds) .ownerUntrusted "result owner" (some r.resultId)
  rejectIf (r.invocationId ∉ m.invocations.map (·.invocationId) ∨ r.toolId ∉ m.contracts.map (·.toolId) ∨
    r.environmentSnapshotId ∉ m.snapshots.map (·.snapshotId) ∨
    ¬ (sha rt r.argsSha256 ∧ sha rt r.payloadSha256 ∧ sha rt r.observedEnvironmentStateSha256) ∨
    (∃ a ∈ r.sideEffectAckSha256, ¬ sha rt a) ∨ ∃ a ∈ r.attestationSha256, ¬ sha rt a)
    .referenceInvalid "result reference" (some r.resultId)

def validateObservation (rt : Runtime) (p : ToolObservationPolicy) (m : ToolObservationManifest) (o : ToolObservation) : Check Unit := do
  rejectIf (o.ownerId ∉ p.trustedOwnerIds) .ownerUntrusted "observation owner" (some o.observationId)
  rejectIf (o.resultId ∉ m.results.map (·.resultId) ∨ o.invocationId ∉ m.invocations.map (·.invocationId) ∨
    o.toolId ∉ m.contracts.map (·.toolId) ∨ o.environmentSnapshotId ∉ m.snapshots.map (·.snapshotId) ∨
    ¬ sha rt o.environmentStateSha256 ∨ ¬ sha rt o.contentSha256) .referenceInvalid "observation reference" (some o.observationId)

/-- `_manifest`. -/
def validateManifest (rt : Runtime) (p : ToolObservationPolicy) (m : ToolObservationManifest) (now : Int) : Check Unit := do
  rejectIf (m.schemaVersion ≠ toolSchemaVersion ∨ m.graphId ≠ p.expectedGraphId ∨ m.version ≠ p.expectedGraphVersion ∨
    m.digest rt ≠ rt.casefold p.expectedGraphSha256 ∨ now - m.createdAtEpoch > p.maxManifestAgeSeconds ∨
    m.createdAtEpoch - now > p.maxFutureSkewSeconds) .manifestInvalid "manifest binding/freshness invalid" none
  unique .coverageMismatch ToolContract.toolId m.contracts
  unique .coverageMismatch EnvironmentSnapshot.snapshotId m.snapshots
  unique .coverageMismatch ToolInvocation.invocationId m.invocations
  unique .coverageMismatch ToolResult.resultId m.results
  unique .coverageMismatch ToolObservation.observationId m.observations
  rejectIf (¬ (sameSet (m.contracts.map (·.toolId)) p.requiredContractIds ∧ sameSet (m.snapshots.map (·.snapshotId)) p.requiredSnapshotIds ∧
    sameSet (m.invocations.map (·.invocationId)) p.requiredInvocationIds ∧ sameSet (m.results.map (·.resultId)) p.requiredResultIds ∧
    sameSet (m.observations.map (·.observationId)) p.requiredObservationIds)) .coverageMismatch "coverage mismatch" none
  forEach (validateContract p) m.contracts
  forEach (validateSnapshot rt p) m.snapshots
  forEach (validateInvocation rt p m) m.invocations
  forEach (validateResult rt p m) m.results
  forEach (validateObservation rt p m) m.observations

/-! ## Derivation -/

/-- An observation with what it names: its result, its invocation, its contract, the snapshot of the invocation and its own. -/
structure Joined where
  observation : ToolObservation
  result : ToolResult
  invocation : ToolInvocation
  contract : ToolContract
  before : EnvironmentSnapshot
  snapshot : EnvironmentSnapshot

def join (m : ToolObservationManifest) (o : ToolObservation) : Check Joined := do
  let r ← getItem (Dict.ofItems ToolResult.resultId m.results) o.resultId
  let i ← getItem (Dict.ofItems ToolInvocation.invocationId m.invocations) o.invocationId
  let c ← getItem (Dict.ofItems ToolContract.toolId m.contracts) o.toolId
  let b ← getItem (Dict.ofItems EnvironmentSnapshot.snapshotId m.snapshots) i.environmentSnapshotId
  let s ← getItem (Dict.ofItems EnvironmentSnapshot.snapshotId m.snapshots) o.environmentSnapshotId
  pure ⟨o, r, i, c, b, s⟩

/-- What `derive` reads of the upstream assessments. -/
structure Upstreams where
  delegations : Dict Json
  steps : Dict Json
  unsafeInvariantIds : List String

def upstreamsOf (rt : Runtime) (p8a p8c p7i : Json) : Upstreams where
  delegations := inventory rt p8a "delegations" "delegation_id"
  steps := inventory rt p8c "steps" "step_id"
  unsafeInvariantIds := (elements (getattr p7i "unsafe_invariant_ids" .nil)).map (text rt)

/-- `nonces[result_nonce]`. -/
def nonceCount (m : ToolObservationManifest) (nonce : String) : Nat := (m.results.filter fun r => r.resultNonce = nonce).length

def identityRisks (rt : Runtime) (j : Joined) : List ObservationRisk :=
  flag (j.result.invocationId ≠ j.invocation.invocationId) .invocationResultMismatch ++
    flag (j.result.toolId ≠ j.invocation.toolId ∨ j.observation.toolId ≠ j.invocation.toolId) .toolIdentityMismatch ++
    flag (rt.casefold j.result.argsSha256 ≠ rt.casefold j.invocation.argsSha256) .argumentDigestMismatch ++
    flag (j.observation.tenantId ≠ j.invocation.tenantId ∨
      j.contract.tenantScope ∉ ["shared", "system"] ∧ j.contract.tenantScope ≠ j.invocation.tenantId) .tenantMismatch ++
    flag (j.observation.taskId ≠ j.invocation.taskId) .taskMismatch ++
    flag (j.observation.originalPrincipalId ≠ j.invocation.originalPrincipalId) .principalMismatch ++
    flag (j.observation.goalId ≠ j.invocation.goalId ∨ j.observation.stepId ≠ j.invocation.stepId) .goalStepMismatch

def freshnessRisks (p : ToolObservationPolicy) (m : ToolObservationManifest) (now : Int) (j : Joined) : List ObservationRisk :=
  flag (j.result.producedAtEpoch < j.invocation.issuedAtEpoch ∨ j.result.expiresAtEpoch < j.result.producedAtEpoch ∨
    j.result.producedAtEpoch > now + p.maxFutureSkewSeconds) .resultTimeInvalid ++
    flag (now > j.result.expiresAtEpoch ∨ now - j.result.producedAtEpoch > j.contract.maxResultAgeSeconds) .staleResult ++
    flag (nonceCount m j.result.resultNonce > 1) .replayResult

def environmentRisks (rt : Runtime) (j : Joined) : List ObservationRisk :=
  flag (j.result.environmentSnapshotId ≠ j.invocation.environmentSnapshotId ∨
    j.observation.environmentVersion ≠ j.result.observedEnvironmentVersion ∨
    rt.casefold j.observation.environmentStateSha256 ≠ rt.casefold j.result.observedEnvironmentStateSha256 ∨
    rt.casefold j.observation.environmentStateSha256 ≠ rt.casefold j.snapshot.stateSha256) .environmentStateSpoof ++
    flag (j.result.observedEnvironmentVersion < j.before.stateVersion ∨ j.observation.environmentVersion < j.before.stateVersion)
      .environmentVersionRegression

/-- Whether the contract asks for an acknowledgement. -/
def AsksAck (c : ToolContract) : Prop := c.requiresSideEffectAck = true ∨ c.effect ≠ .readOnly

instance decidableAsksAck (c : ToolContract) : Decidable (AsksAck c) := inferInstanceAs (Decidable (_ ∨ _))

/-- What is wrong with the acknowledgement of a result that needs one. -/
def ackRisks (r : ToolResult) : List ObservationRisk :=
  match r.sideEffectId, r.sideEffectAckSha256 with
  | some effect, some given =>
    if effect = "" ∨ given = "" then [.sideEffectUnacknowledged]
    else flag (rt.casefold given ≠ ack rt effect r.payloadSha256 r.observedEnvironmentVersion) .sideEffectAckMismatch
  | _, _ => [.sideEffectUnacknowledged]

/-- `not acked`, as risks. -/
def sideEffectRisks (j : Joined) : List ObservationRisk := if AsksAck j.contract then ackRisks rt j.result else []

def upstreamRisks (rt : Runtime) (up : Upstreams) (j : Joined) : List ObservationRisk :=
  flag (∀ step ∈ up.steps j.invocation.stepId, ¬ allowed rt step) .upstreamPlanUnsafe ++
    flag (∃ d ∈ j.invocation.delegationId, d ≠ "" ∧ ∀ delegation ∈ up.delegations d, ¬ allowed rt delegation) .upstreamDelegationUnsafe ++
    flag (∃ k ∈ j.contract.requiredP7iInvariantIds, k ∈ up.unsafeInvariantIds) .requiredInvariantUnsafe

/-- The risks the trust is derived from. -/
def integrityRisks (p : ToolObservationPolicy) (m : ToolObservationManifest) (up : Upstreams) (now : Int) (j : Joined) : List ObservationRisk :=
  identityRisks rt.toRuntime j ++ freshnessRisks p m now j ++ environmentRisks rt.toRuntime j ++ sideEffectRisks rt j ++
    upstreamRisks rt.toRuntime up j

/-- `attested`. -/
def Attested (rt : Runtime) (p : ToolObservationPolicy) (r : ToolResult) : Prop :=
  ∃ a ∈ r.attestationSha256, a ≠ "" ∧ rt.casefold a ∈ p.allowedAttestationSha256

instance decidableAttested (rt : Runtime) (p : ToolObservationPolicy) (r : ToolResult) : Decidable (Attested rt p r) :=
  inferInstanceAs (Decidable (∃ a ∈ _, _))

/-- `trust`. -/
def trustOf (rt : Runtime) (p : ToolObservationPolicy) (risks : List ObservationRisk) (j : Joined) : ObservationTrust :=
  if j.contract.authoritativeResult = true ∧ Attested rt p j.result ∧ risks = [] then .verified else .toolAsserted

def trustRisks (trust : ObservationTrust) (o : ToolObservation) : List ObservationRisk :=
  flag (o.claimedTrust = .verified ∧ trust ≠ .verified) .observationLaundering ++ flag (o.claimedTrust ≠ trust) .observationTrustMismatch

def factOf (p : ToolObservationPolicy) (m : ToolObservationManifest) (up : Upstreams) (now : Int) (j : Joined) : ToolObservationFact :=
  let integrity := integrityRisks rt p m up now j
  let trust := trustOf rt.toRuntime p integrity j
  let risks := integrity ++ trustRisks trust j.observation
  { observationId := j.observation.observationId
    invocationId := j.invocation.invocationId
    resultId := j.result.resultId
    toolId := j.contract.toolId
    decision := if risks = [] then .allow else .deny
    risks := sorted ObservationRisk.value risks
    derivedTrust := trust
    tenantId := j.observation.tenantId
    taskId := j.observation.taskId
    goalId := j.observation.goalId
    stepId := j.observation.stepId
    environmentVersion := j.observation.environmentVersion
    sideEffectAcknowledged := sideEffectRisks rt j = []
    replayDetected := .replayResult ∈ risks
    p7iInvariantIds := sortOn id j.contract.requiredP7iInvariantIds }

def fact (p : ToolObservationPolicy) (m : ToolObservationManifest) (up : Upstreams) (now : Int) (o : ToolObservation) :
    Check ToolObservationFact := do
  let j ← join m o
  pure (factOf rt p m up now j)

def derive (p : ToolObservationPolicy) (m : ToolObservationManifest) (p8a p8c p7i : Json) (evaluatedAtEpoch : Int) :
    Check (List ToolObservationFact) := do
  validatePolicy rt.toRuntime p
  validateUpstreams rt.toRuntime p m p8a p8c p7i
  validateManifest rt.toRuntime p m evaluatedAtEpoch
  Checks.gather (fact rt p m (upstreamsOf rt.toRuntime p8a p8c p7i) evaluatedAtEpoch) (sortOn (·.observationId) m.observations)

end Aegis.Agentic.ObservationIntegrity
