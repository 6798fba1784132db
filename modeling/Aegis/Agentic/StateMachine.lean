/-
  Aegis.Agentic.StateMachine — `AgentStateMachineSecurityAnalyzer.derive`
  (state_machine_security.py): transitions on versioned objects are taken in the order of their
  commits, each is allowed when no risk is found, and only allowed writes move an object on.
-/

import Aegis.Agentic.Evidence
import Mathlib.Data.Prod.Lex

namespace Aegis.Agentic.StateMachine

open Data Evidence Checked

def stateSchemaVersion : String := "aegis-agent-state-transition-manifest-v1"

inductive StateObjectType where
  | task | toolResource | release | telemetry | policy | memory
  deriving DecidableEq, Repr

def StateObjectType.value : StateObjectType → String
  | task => "task"
  | toolResource => "tool_resource"
  | release => "release"
  | telemetry => "telemetry"
  | policy => "policy"
  | memory => "memory"

inductive TransitionIntent where
  | read | reserve | mutate | commit | cancel | rollback
  deriving DecidableEq, Repr

def TransitionIntent.value : TransitionIntent → String
  | read => "read"
  | reserve => "reserve"
  | mutate => "mutate"
  | commit => "commit"
  | cancel => "cancel"
  | rollback => "rollback"

inductive ConcurrencyControl where
  | none | idempotencyKey | expectedVersion | lease | serializable
  deriving DecidableEq, Repr

def ConcurrencyControl.value : ConcurrencyControl → String
  | none => "none"
  | idempotencyKey => "idempotency_key"
  | expectedVersion => "expected_version"
  | lease => "lease"
  | serializable => "serializable"

inductive TransitionDecision where
  | allow | deny
  deriving DecidableEq, Repr

/-- `TransitionRisk`, in the order of the values. -/
inductive TransitionRisk where
  | approvalToUseRace | cancelExecuteRace | concurrentConflict | controlMismatch | duplicateExecution
  | duplicateSideEffect | expectedStateMismatch | idempotencyReuseMismatch | intentUnauthorized | irreversibleReplay
  | leaseExpired | leaseObjectMismatch | leaseOwnerMismatch | leaseRequired | lostUpdate | principalMismatch | rollbackRace
  | staleExpectedVersion | tenantMismatch | toctouStateChange | upstreamApprovalUnsafe | upstreamMessageUnsafe
  | upstreamObservationUnsafe | versionNonMonotonic
  deriving DecidableEq, Repr

namespace TransitionRisk

def all : List TransitionRisk :=
  [approvalToUseRace, cancelExecuteRace, concurrentConflict, controlMismatch, duplicateExecution, duplicateSideEffect,
    expectedStateMismatch, idempotencyReuseMismatch, intentUnauthorized, irreversibleReplay, leaseExpired,
    leaseObjectMismatch, leaseOwnerMismatch, leaseRequired, lostUpdate, principalMismatch, rollbackRace,
    staleExpectedVersion, tenantMismatch, toctouStateChange, upstreamApprovalUnsafe, upstreamMessageUnsafe,
    upstreamObservationUnsafe, versionNonMonotonic]

/-- `_RISK_SCORE`. -/
def score : TransitionRisk → Nat
  | duplicateExecution => 104
  | idempotencyReuseMismatch => 116
  | staleExpectedVersion => 108
  | expectedStateMismatch => 109
  | versionNonMonotonic => 111
  | lostUpdate => 115
  | concurrentConflict => 112
  | leaseRequired => 103
  | leaseExpired => 110
  | leaseOwnerMismatch => 113
  | leaseObjectMismatch => 113
  | cancelExecuteRace => 118
  | approvalToUseRace => 117
  | toctouStateChange => 116
  | irreversibleReplay => 120
  | rollbackRace => 119
  | duplicateSideEffect => 120
  | tenantMismatch => 108
  | principalMismatch => 108
  | controlMismatch => 101
  | intentUnauthorized => 105
  | upstreamMessageUnsafe => 110
  | upstreamApprovalUnsafe => 114
  | upstreamObservationUnsafe => 112

/-- A set of risks as the tuple `sorted(risks, key=value)`. -/
def sorted (risks : List TransitionRisk) : List TransitionRisk := all.filter (· ∈ risks)

end TransitionRisk

inductive StateRejectReason where
  | policyInvalid | requestInvalid | upstreamInvalid | manifestInvalid | coverageMismatch | ownerUntrusted | policyDrift
  | referenceInvalid | declaredDecisionMismatch | declaredRiskMismatch
  deriving DecidableEq, Repr

abbrev Check := Checked StateRejectReason

/-! ## The manifest and the policy -/

structure StateObject where
  objectId : String
  objectType : StateObjectType
  tenantId : String
  version : Int
  stateSha256 : String
  ownerId : String
  description : String
  deriving DecidableEq, Repr

structure LeaseRecord where
  leaseId : String
  objectId : String
  ownerAgentId : String
  issuedAtEpoch : Int
  expiresAtEpoch : Int
  ownerId : String
  description : String
  deriving DecidableEq, Repr

structure StateTransition where
  transitionId : String
  objectId : String
  messageId : String
  approvalActionId : Option String
  observationId : Option String
  actorAgentId : String
  originalPrincipalId : String
  tenantId : String
  intent : TransitionIntent
  concurrencyControl : ConcurrencyControl
  expectedVersion : Int
  expectedStateSha256 : String
  proposedVersion : Int
  proposedStateSha256 : String
  idempotencyKey : Option String
  leaseId : Option String
  approvalBoundVersion : Option Int
  approvalBoundStateSha256 : Option String
  payloadSha256 : String
  irreversible : Bool
  issuedAtEpoch : Int
  commitAtEpoch : Int
  ownerId : String
  description : String
  deriving DecidableEq, Repr

structure AgentStateTransitionManifest where
  graphId : String
  version : String
  p8dAssessmentEvidenceSha256 : String
  p8fAssessmentEvidenceSha256 : String
  p8gAssessmentEvidenceSha256 : String
  createdAtEpoch : Int
  objects : List StateObject
  leases : List LeaseRecord
  transitions : List StateTransition
  schemaVersion : String
  deriving DecidableEq, Repr

/-- `_object_profile`. -/
structure ObjectProfile where
  objectType : StateObjectType
  tenantId : String
  version : Int
  stateSha256 : String
  deriving DecidableEq, Repr

structure AgentStateTransitionPolicy where
  expectedGraphId : String
  expectedGraphVersion : String
  expectedGraphSha256 : String
  expectedP8dAssessmentEvidenceSha256 : String
  expectedP8fAssessmentEvidenceSha256 : String
  expectedP8gAssessmentEvidenceSha256 : String
  requiredObjectIds : List String
  requiredLeaseIds : List String
  requiredTransitionIds : List String
  trustedOwnerIds : List String
  expectedObjectProfiles : List (String × ObjectProfile)
  allowedIntentsByObject : List (String × List TransitionIntent)
  allowedControlsByObject : List (String × List ConcurrencyControl)
  approvalRequiredObjectIds : List String
  observationRequiredObjectIds : List String
  leaseRequiredObjectIds : List String
  irreversibleObjectIds : List String
  maxManifestAgeSeconds : Int
  maxFutureSkewSeconds : Int

variable (rt : Runtime)

/-! ## Digests -/

def StateObject.toDict (o : StateObject) : Json :=
  .obj [("object_id", .str o.objectId), ("object_type", .str o.objectType.value), ("tenant_id", .str o.tenantId),
    ("version", .int o.version), ("state_sha256", .str o.stateSha256), ("owner_id", .str o.ownerId),
    ("description", .str o.description)]

def LeaseRecord.toDict (l : LeaseRecord) : Json :=
  .obj [("lease_id", .str l.leaseId), ("object_id", .str l.objectId), ("owner_agent_id", .str l.ownerAgentId),
    ("issued_at_epoch", .int l.issuedAtEpoch), ("expires_at_epoch", .int l.expiresAtEpoch), ("owner_id", .str l.ownerId),
    ("description", .str l.description)]

def StateTransition.toDict (t : StateTransition) : Json :=
  .obj [("transition_id", .str t.transitionId), ("object_id", .str t.objectId), ("message_id", .str t.messageId),
    ("approval_action_id", optText t.approvalActionId), ("observation_id", optText t.observationId),
    ("actor_agent_id", .str t.actorAgentId), ("original_principal_id", .str t.originalPrincipalId),
    ("tenant_id", .str t.tenantId), ("intent", .str t.intent.value), ("concurrency_control", .str t.concurrencyControl.value),
    ("expected_version", .int t.expectedVersion), ("expected_state_sha256", .str t.expectedStateSha256),
    ("proposed_version", .int t.proposedVersion), ("proposed_state_sha256", .str t.proposedStateSha256),
    ("idempotency_key", optText t.idempotencyKey), ("lease_id", optText t.leaseId),
    ("approval_bound_version", Json.opt .int t.approvalBoundVersion),
    ("approval_bound_state_sha256", optText t.approvalBoundStateSha256), ("payload_sha256", .str t.payloadSha256),
    ("irreversible", .bool t.irreversible), ("issued_at_epoch", .int t.issuedAtEpoch),
    ("commit_at_epoch", .int t.commitAtEpoch), ("owner_id", .str t.ownerId), ("description", .str t.description)]

/-- `canonical_agent_state_transition_manifest_bytes`. -/
def AgentStateTransitionManifest.canonical (m : AgentStateTransitionManifest) : Json :=
  let norm s := Json.str (Canonical.normText rt s)
  .obj [("created_at_epoch", .int m.createdAtEpoch), ("graph_id", norm m.graphId),
    ("leases", Canonical.normItems rt LeaseRecord.toDict m.leases),
    ("objects", Canonical.normItems rt StateObject.toDict m.objects),
    ("p8d_assessment_evidence_sha256", norm m.p8dAssessmentEvidenceSha256),
    ("p8f_assessment_evidence_sha256", norm m.p8fAssessmentEvidenceSha256),
    ("p8g_assessment_evidence_sha256", norm m.p8gAssessmentEvidenceSha256), ("schema_version", norm m.schemaVersion),
    ("transitions", Canonical.normItems rt StateTransition.toDict m.transitions), ("version", norm m.version)]

/-- `agent_state_transition_manifest_digest`. -/
def AgentStateTransitionManifest.digest (m : AgentStateTransitionManifest) : String := rt.sha256 (m.canonical rt)

def StateObject.profile (o : StateObject) : ObjectProfile := ⟨o.objectType, o.tenantId, o.version, rt.casefold o.stateSha256⟩

/-- `_transition_semantic_fingerprint`. -/
structure Fingerprint where
  objectId : String
  messageId : String
  approvalActionId : Option String
  observationId : Option String
  actorAgentId : String
  originalPrincipalId : String
  tenantId : String
  intent : TransitionIntent
  expectedVersion : Int
  expectedStateSha256 : String
  proposedVersion : Int
  proposedStateSha256 : String
  payloadSha256 : String
  irreversible : Bool
  deriving DecidableEq, Repr

def StateTransition.fingerprint (t : StateTransition) : Fingerprint where
  objectId := t.objectId
  messageId := t.messageId
  approvalActionId := t.approvalActionId
  observationId := t.observationId
  actorAgentId := t.actorAgentId
  originalPrincipalId := t.originalPrincipalId
  tenantId := t.tenantId
  intent := t.intent
  expectedVersion := t.expectedVersion
  expectedStateSha256 := rt.casefold t.expectedStateSha256
  proposedVersion := t.proposedVersion
  proposedStateSha256 := rt.casefold t.proposedStateSha256
  payloadSha256 := rt.casefold t.payloadSha256
  irreversible := t.irreversible

/-! ## Validation -/

/-- `_validate_policy`. -/
def validatePolicy (p : AgentStateTransitionPolicy) : Check Unit := do
  rejectIf (p.expectedGraphId = "" ∨ p.expectedGraphVersion = "" ∨ p.trustedOwnerIds = []) .policyInvalid
    "missing graph or trust policy" none
  rejectIf (¬ (sha rt p.expectedGraphSha256 ∧ sha rt p.expectedP8dAssessmentEvidenceSha256 ∧
    sha rt p.expectedP8fAssessmentEvidenceSha256 ∧ sha rt p.expectedP8gAssessmentEvidenceSha256)) .policyInvalid
    "invalid digest pin" none
  rejectIf (p.maxManifestAgeSeconds ≤ 0 ∨ p.maxFutureSkewSeconds < 0) .policyInvalid "invalid freshness policy" none
  rejectIf (¬ sameSet (p.expectedObjectProfiles.map (·.1)) p.requiredObjectIds) .policyInvalid
    "object profile coverage mismatch" none
  rejectIf (¬ sameSet (p.allowedIntentsByObject.map (·.1)) p.requiredObjectIds ∨
    ¬ sameSet (p.allowedControlsByObject.map (·.1)) p.requiredObjectIds) .policyInvalid
    "object policy map coverage mismatch" none
  rejectIf (¬ ∀ x ∈ p.approvalRequiredObjectIds ++ p.observationRequiredObjectIds ++ p.leaseRequiredObjectIds ++
    p.irreversibleObjectIds, x ∈ p.requiredObjectIds) .policyInvalid "object policy references unknown object" none

/-- One row of `checks` in `_validate_upstreams`. -/
def validateUpstream (value : Json) (pin manifestPin verifiedFlag callerFlag : String) : Check Unit := do
  rejectIf (digest rt value ≠ rt.casefold pin ∨ rt.casefold manifestPin ≠ rt.casefold pin) .upstreamInvalid
    "upstream digest mismatch" none
  rejectIf (truthy (getattr value verifiedFlag (.bool false)) = false ∨ truthy (getattr value callerFlag (.bool true)) = true)
    .upstreamInvalid "upstream verification boundary invalid" none

/-- `_validate_upstreams`. -/
def validateUpstreams (p : AgentStateTransitionPolicy) (m : AgentStateTransitionManifest) (p8d p8f p8g : Json) :
    Check Unit := do
  validateUpstream rt p8d p.expectedP8dAssessmentEvidenceSha256 m.p8dAssessmentEvidenceSha256
    "exact_tool_observation_graph_binding_verified" "caller_declared_tool_observation_safety_trusted"
  validateUpstream rt p8f p.expectedP8fAssessmentEvidenceSha256 m.p8fAssessmentEvidenceSha256
    "exact_human_approval_graph_binding_verified" "caller_declared_approval_safety_trusted"
  validateUpstream rt p8g p.expectedP8gAssessmentEvidenceSha256 m.p8gAssessmentEvidenceSha256
    "exact_agent_message_graph_binding_verified" "caller_declared_message_safety_trusted"

/-- `_map`. -/
def unique (id : α → String) (items : List α) : Check Unit :=
  keysFrom (fun seen key => rejectIf (key ∈ seen) .coverageMismatch "duplicate identifier" (some key)) id [] items

def validateObject (p : AgentStateTransitionPolicy) (o : StateObject) : Check Unit := do
  rejectIf (o.ownerId ∉ p.trustedOwnerIds) .ownerUntrusted "object owner untrusted" (some o.objectId)
  rejectIf (o.version < 0 ∨ ¬ sha rt o.stateSha256) .referenceInvalid "invalid object state" (some o.objectId)
  rejectIf (some (o.profile rt) ≠ Dict.mapping p.expectedObjectProfiles o.objectId) .policyDrift "object profile drift"
    (some o.objectId)
  let intents ← getItem (Dict.mapping p.allowedIntentsByObject) o.objectId
  let controls ← getItem (Dict.mapping p.allowedControlsByObject) o.objectId
  rejectIf (intents = [] ∨ controls = []) .policyInvalid "empty object policy" (some o.objectId)

def validateLease (p : AgentStateTransitionPolicy) (m : AgentStateTransitionManifest) (l : LeaseRecord) : Check Unit := do
  rejectIf (l.ownerId ∉ p.trustedOwnerIds) .ownerUntrusted "lease owner untrusted" (some l.leaseId)
  rejectIf (l.objectId ∉ m.objects.map (·.objectId) ∨ l.ownerAgentId = "") .referenceInvalid "lease reference invalid"
    (some l.leaseId)
  rejectIf (l.expiresAtEpoch < l.issuedAtEpoch) .referenceInvalid "lease time invalid" (some l.leaseId)

def validateTransition (p : AgentStateTransitionPolicy) (m : AgentStateTransitionManifest) (t : StateTransition) :
    Check Unit := do
  rejectIf (t.ownerId ∉ p.trustedOwnerIds) .ownerUntrusted "transition owner untrusted" (some t.transitionId)
  rejectIf (t.objectId ∉ m.objects.map (·.objectId) ∨ t.messageId = "") .referenceInvalid "transition reference invalid"
    (some t.transitionId)
  rejectIf (¬ (sha rt t.expectedStateSha256 ∧ sha rt t.proposedStateSha256 ∧ sha rt t.payloadSha256)) .referenceInvalid
    "transition digest invalid" (some t.transitionId)
  rejectIf (t.idempotencyKey = some "") .referenceInvalid "empty idempotency key" (some t.transitionId)
  rejectIf (∃ l ∈ t.leaseId, l ∉ m.leases.map (·.leaseId)) .referenceInvalid "unknown lease" (some t.transitionId)
  rejectIf (∃ h ∈ t.approvalBoundStateSha256, ¬ sha rt h) .referenceInvalid "approval state digest invalid"
    (some t.transitionId)
  rejectIf (t.approvalBoundVersion.isNone ≠ t.approvalBoundStateSha256.isNone) .referenceInvalid
    "partial approval state binding" (some t.transitionId)
  rejectIf (t.commitAtEpoch < t.issuedAtEpoch) .referenceInvalid "transition time invalid" (some t.transitionId)

/-- `_validate_manifest`. -/
def validateManifest (p : AgentStateTransitionPolicy) (m : AgentStateTransitionManifest) (now : Int) : Check Unit := do
  rejectIf (m.schemaVersion ≠ stateSchemaVersion ∨ m.graphId ≠ p.expectedGraphId ∨ m.version ≠ p.expectedGraphVersion)
    .manifestInvalid "manifest identity invalid" none
  rejectIf (m.digest rt ≠ rt.casefold p.expectedGraphSha256) .manifestInvalid "manifest digest mismatch" none
  rejectIf (now - m.createdAtEpoch > p.maxManifestAgeSeconds ∨ m.createdAtEpoch - now > p.maxFutureSkewSeconds)
    .manifestInvalid "manifest freshness invalid" none
  unique StateObject.objectId m.objects
  unique LeaseRecord.leaseId m.leases
  unique StateTransition.transitionId m.transitions
  rejectIf (¬ sameSet (m.objects.map (·.objectId)) p.requiredObjectIds ∨
    ¬ sameSet (m.leases.map (·.leaseId)) p.requiredLeaseIds ∨
    ¬ sameSet (m.transitions.map (·.transitionId)) p.requiredTransitionIds) .coverageMismatch "manifest coverage mismatch" none
  forEach (validateObject rt p) m.objects
  forEach (validateLease p m) m.leases
  forEach (validateTransition rt p m) m.transitions

/-! ## Derivation -/

structure StateTransitionFact where
  transitionId : String
  objectId : String
  intent : TransitionIntent
  decision : TransitionDecision
  risks : List TransitionRisk
  expectedVersion : Int
  derivedPreVersion : Int
  proposedVersion : Int
  appliedVersion : Int
  idempotencyKey : Option String
  leaseId : Option String
  irreversible : Bool
  riskScore : Nat
  deriving DecidableEq, Repr

/-- What `derive` reads for every transition. -/
structure Context where
  policy : AgentStateTransitionPolicy
  objects : Dict StateObject
  leases : Dict LeaseRecord
  ordered : List StateTransition
  observations : Dict Json
  approvals : Dict Json
  messages : Dict Json

/-- What it carries from one transition to the next. -/
structure Progress where
  currentVersions : Dict Int
  currentHashes : Dict String
  cancelledObjects : List String
  idemSeen : Dict Fingerprint

/-- `sorted(transitions, key=(commit_at_epoch, issued_at_epoch, transition_id))`. -/
def inOrder (transitions : List StateTransition) : List StateTransition :=
  sortOn (fun t => toLex (t.commitAtEpoch, toLex (t.issuedAtEpoch, t.transitionId))) transitions

def flag (c : Prop) [Decidable c] (r : TransitionRisk) : List TransitionRisk := if c then [r] else []

@[simp] theorem flag_eq_nil {c : Prop} [Decidable c] {r : TransitionRisk} : flag c r = [] ↔ ¬ c := by
  unfold flag
  split <;> simp_all

/-- `_state`. -/
def stateOf (value : Json) : String :=
  rt.casefold (text rt (enumValue (getattr value "decision" (getattr value "outcome" (getattr value "state" (.str ""))))))

/-- `_safe`. -/
def safe (value : Json) : Prop := stateOf rt value ∈ ["allow", "allowed", "safe", "holds"]

instance (value : Json) : Decidable (safe rt value) := inferInstanceAs (Decidable (_ ∈ _))

/-- `item is None or not _safe(item)`. -/
def unsafeItem (item : Option Json) : Prop := ∀ x ∈ item, ¬ safe rt x

instance (item : Option Json) : Decidable (unsafeItem rt item) := inferInstanceAs (Decidable (∀ x ∈ item, _))

def messageRisks (c : Context) (t : StateTransition) : List TransitionRisk :=
  match c.messages t.messageId with
  | none => [.upstreamMessageUnsafe]
  | some message =>
    if ¬ safe rt message then [.upstreamMessageUnsafe]
    else flag (text rt (getattr message "tenant_id" (.str t.tenantId)) ≠ t.tenantId) .tenantMismatch ++
      flag (text rt (getattr message "sender_agent_id" (.str t.actorAgentId)) ≠ t.actorAgentId) .principalMismatch

def approvalRisks (c : Context) (preVersion : Int) (preHash : String) (t : StateTransition) : List TransitionRisk :=
  if t.objectId ∈ c.policy.approvalRequiredObjectIds then
    flag (unsafeItem rt (c.approvals (t.approvalActionId.getD ""))) .upstreamApprovalUnsafe ++
      match t.approvalBoundVersion, t.approvalBoundStateSha256 with
      | some version, some sha256 => flag (version ≠ preVersion ∨ rt.casefold sha256 ≠ preHash) .approvalToUseRace
      | _, _ => [.approvalToUseRace]
  else
    match t.approvalActionId with
    | some action => flag (unsafeItem rt (c.approvals action)) .upstreamApprovalUnsafe
    | none => []

/-- `observation_use_count`. -/
def observationUseCount (ordered : List StateTransition) (observationId : String) : Nat :=
  (ordered.filter (·.observationId = some observationId)).length

def observationRisks (c : Context) (t : StateTransition) : List TransitionRisk :=
  (if t.objectId ∈ c.policy.observationRequiredObjectIds then
    flag (unsafeItem rt (c.observations (t.observationId.getD ""))) .upstreamObservationUnsafe
  else
    match t.observationId with
    | some observation => flag (unsafeItem rt (c.observations observation)) .upstreamObservationUnsafe
    | none => []) ++
  flag (∃ o ∈ t.observationId, observationUseCount c.ordered o > 1) .duplicateSideEffect

/-- The lease is the one at `t.lease_id`. -/
def leaseRisks (c : Context) (lease : Option LeaseRecord) (t : StateTransition) : List TransitionRisk :=
  if t.objectId ∈ c.policy.leaseRequiredObjectIds then
    match lease with
    | none => [.leaseRequired]
    | some lease =>
      flag (lease.objectId ≠ t.objectId) .leaseObjectMismatch ++
        flag (lease.ownerAgentId ≠ t.actorAgentId) .leaseOwnerMismatch ++
        flag (t.commitAtEpoch > lease.expiresAtEpoch ∨ t.commitAtEpoch < lease.issuedAtEpoch) .leaseExpired
  else []

def idempotencyRisks (c : Context) (s : Progress) (t : StateTransition) : List TransitionRisk :=
  match t.idempotencyKey with
  | some key =>
    match s.idemSeen key with
    | some seen =>
      if seen = t.fingerprint rt then
        .duplicateExecution :: flag (t.irreversible = true ∨ t.objectId ∈ c.policy.irreversibleObjectIds) .irreversibleReplay
      else [.idempotencyReuseMismatch]
    | none => []
  | none => flag (t.concurrencyControl = .idempotencyKey) .controlMismatch

/-- `expected_version_writers`. -/
def writers (ordered : List StateTransition) (objectId : String) (version : Int) : List StateTransition :=
  ordered.filter fun t => t.intent ≠ .read ∧ t.objectId = objectId ∧ t.expectedVersion = version

def writeRisks (c : Context) (s : Progress) (preVersion : Int) (preHash : String) (t : StateTransition) :
    List TransitionRisk :=
  let rivals := writers c.ordered t.objectId t.expectedVersion
  flag (t.expectedVersion ≠ preVersion) .staleExpectedVersion ++
    flag (t.expectedVersion ≠ preVersion ∧ t.expectedVersion < preVersion) .lostUpdate ++
    (if rt.casefold t.expectedStateSha256 ≠ preHash then [.expectedStateMismatch, .toctouStateChange] else []) ++
    flag (t.proposedVersion ≠ t.expectedVersion + 1) .versionNonMonotonic ++ (if rivals.length > 1 then
      [.concurrentConflict, .lostUpdate] ++ flag (∃ r ∈ rivals, r.intent = .rollback) .rollbackRace
    else []) ++ flag (t.objectId ∈ s.cancelledObjects ∧ t.intent ≠ .rollback) .cancelExecuteRace ++
    flag (t.irreversible = true ∧ t.intent ≠ .commit ∧ t.intent ≠ .mutate) .intentUnauthorized ++
    flag ((t.irreversible = true ∨ t.objectId ∈ c.policy.irreversibleObjectIds) ∧ t.idempotencyKey = none) .controlMismatch

def readRisks (t : StateTransition) : List TransitionRisk :=
  flag (t.proposedVersion ≠ t.expectedVersion ∨ rt.casefold t.proposedStateSha256 ≠ rt.casefold t.expectedStateSha256)
    .versionNonMonotonic

/-- `leases[t.lease_id]`, looked up where a lease is required. -/
def leaseOf (c : Context) (t : StateTransition) : Check (Option LeaseRecord) :=
  if t.objectId ∈ c.policy.leaseRequiredObjectIds then
    match t.leaseId with
    | none => .ok none
    | some id => do
      let lease ← getItem c.leases id
      pure (some lease)
  else .ok none

/-- The risks of a transition. -/
def risksOf (c : Context) (s : Progress) (t : StateTransition) (preVersion : Int) (preHash : String) :
    Check (List TransitionRisk) := do
  let object ← getItem c.objects t.objectId
  let intents ← getItem (Dict.mapping c.policy.allowedIntentsByObject) t.objectId
  let controls ← getItem (Dict.mapping c.policy.allowedControlsByObject) t.objectId
  let lease ← leaseOf c t
  pure (flag (t.tenantId ≠ object.tenantId) .tenantMismatch ++ flag (t.intent ∉ intents) .intentUnauthorized ++
    flag (t.concurrencyControl ∉ controls) .controlMismatch ++ messageRisks rt c t ++
    approvalRisks rt c preVersion preHash t ++ observationRisks rt c t ++ leaseRisks c lease t ++
    idempotencyRisks rt c s t ++ (if t.intent ≠ .read then writeRisks rt c s preVersion preHash t else readRisks rt t))

/-- The end of the loop's body: what an allowed write moves on. -/
def apply (s : Progress) (t : StateTransition) : Progress :=
  { s with
    currentVersions := s.currentVersions.set t.objectId t.proposedVersion
    currentHashes := s.currentHashes.set t.objectId (rt.casefold t.proposedStateSha256)
    cancelledObjects :=
      if t.intent = .cancel then t.objectId :: s.cancelledObjects
      else if t.intent = .rollback then s.cancelledObjects.filter (· ≠ t.objectId)
      else s.cancelledObjects }

/-- A key is remembered where it was first seen. -/
def remember (s : Progress) (t : StateTransition) : Progress :=
  match t.idempotencyKey with
  | some key => if (s.idemSeen key).isSome then s else { s with idemSeen := s.idemSeen.set key (t.fingerprint rt) }
  | none => s

def factOf (t : StateTransition) (preVersion : Int) (risks : List TransitionRisk) (applied : Int) : StateTransitionFact where
  transitionId := t.transitionId
  objectId := t.objectId
  intent := t.intent
  decision := if risks = [] then .allow else .deny
  risks := TransitionRisk.sorted risks
  expectedVersion := t.expectedVersion
  derivedPreVersion := preVersion
  proposedVersion := t.proposedVersion
  appliedVersion := applied
  idempotencyKey := t.idempotencyKey
  leaseId := t.leaseId
  irreversible := t.irreversible
  riskScore := (risks.map TransitionRisk.score).foldl max 0

/-- The body of the loop over `ordered`. -/
def step (c : Context) (s : Progress) (t : StateTransition) : Check (StateTransitionFact × Progress) := do
  let preVersion ← getItem s.currentVersions t.objectId
  let preHash ← getItem s.currentHashes t.objectId
  let risks ← risksOf rt c s t preVersion preHash
  if risks = [] ∧ t.intent ≠ .read then
    pure (factOf t preVersion risks t.proposedVersion, apply rt (remember rt s t) t)
  else pure (factOf t preVersion risks preVersion, remember rt s t)

def steps (c : Context) (s : Progress) : List StateTransition → Check (List StateTransitionFact × Progress)
  | [] => .ok ([], s)
  | t :: rest => do
    let (fact, s) ← step rt c s t
    let (facts, s) ← steps c s rest
    pure (fact :: facts, s)

def contextOf (p : AgentStateTransitionPolicy) (m : AgentStateTransitionManifest) (p8d p8f p8g : Json) : Context where
  policy := p
  objects := Dict.ofItems StateObject.objectId m.objects
  leases := Dict.ofItems LeaseRecord.leaseId m.leases
  ordered := inOrder m.transitions
  observations := inventory rt p8d "observations" "observation_id"
  approvals := inventory rt p8f "actions" "action_id"
  messages := inventory rt p8g "messages" "message_id"

def initial (c : Context) : Progress where
  currentVersions id := (c.objects id).map (·.version)
  currentHashes id := (c.objects id).map fun o => rt.casefold o.stateSha256
  cancelledObjects := []
  idemSeen _ := none

/-- `derive`: the facts, and the final versions and hashes. -/
def derive (p : AgentStateTransitionPolicy) (m : AgentStateTransitionManifest) (p8d p8f p8g : Json) (evaluatedAtEpoch : Int) :
    Check (List StateTransitionFact × Dict Int × Dict String) := do
  validatePolicy rt p
  validateUpstreams rt p m p8d p8f p8g
  validateManifest rt p m evaluatedAtEpoch
  let c := contextOf rt p m p8d p8f p8g
  let (facts, s) ← steps rt c (initial rt c) c.ordered
  pure (facts, s.currentVersions, s.currentHashes)

end Aegis.Agentic.StateMachine
