/-
  Aegis.Agentic.IncidentForensics — `AgentProvenanceIncidentForensicsAnalyzer`
  (incident_forensics_types.py, incident_forensics_validation.py, incident_forensics_security.py):
  events chained agent by agent, the scope of an incident as what follows from its triggers, and the
  risks of its containment, its forensic package and its re-entries.
-/

import Aegis.Agentic.Decision
import Aegis.Data.Groups
import Aegis.Data.Passes
import Mathlib.Data.Prod.Lex

namespace Aegis.Agentic.IncidentForensics

open Data Evidence Checked Decision

def incidentSchemaVersion : String := "aegis-agent-incident-forensics-manifest-v1"

def zeroSha256 : String := hex '0'

inductive IncidentEventKind where
  | alert | message | toolInvocation | artifactWrite | credentialUse | stateTransition | recovery | memoryWrite | other
  deriving DecidableEq, Repr

def IncidentEventKind.value : IncidentEventKind → String
  | alert => "alert"
  | message => "message"
  | toolInvocation => "tool_invocation"
  | artifactWrite => "artifact_write"
  | credentialUse => "credential_use"
  | stateTransition => "state_transition"
  | recovery => "recovery"
  | memoryWrite => "memory_write"
  | other => "other"

inductive ContainmentKind where
  | quarantineAgent | isolateChannel | freezeState | revokeCredential | preserveEvidence
  deriving DecidableEq, Repr

def ContainmentKind.value : ContainmentKind → String
  | quarantineAgent => "quarantine_agent"
  | isolateChannel => "isolate_channel"
  | freezeState => "freeze_state"
  | revokeCredential => "revoke_credential"
  | preserveEvidence => "preserve_evidence"

inductive IncidentDecision where
  | allow | deny
  deriving DecidableEq, Repr

/-- The risks `derive` adds. -/
inductive IncidentRisk where
  | incidentTriggerInvalid | postContainmentActivity | agentNotQuarantined | channelNotIsolated | stateNotFrozen
  | credentialNotRevoked | containmentActionInvalid | containmentTimeInvalid | evidenceScopeIncomplete | evidenceDigestMismatch
  | forensicPackageMissing | forensicPackageScopeMismatch | forensicPackageHashMismatch | reconstructionOrderInvalid
  | reconstructionRootMismatch | reentryUnauthorized | reentryBeforeContainment | reentryPackageMismatch
  | reentryCheckpointMismatch | reentryCredentialNotRotated | reentryStateVersionStale | reentryExpired
  deriving DecidableEq, Repr

def IncidentRisk.value : IncidentRisk → String
  | incidentTriggerInvalid => "incident_trigger_invalid"
  | postContainmentActivity => "post_containment_activity"
  | agentNotQuarantined => "agent_not_quarantined"
  | channelNotIsolated => "channel_not_isolated"
  | stateNotFrozen => "state_not_frozen"
  | credentialNotRevoked => "credential_not_revoked"
  | containmentActionInvalid => "containment_action_invalid"
  | containmentTimeInvalid => "containment_time_invalid"
  | evidenceScopeIncomplete => "evidence_scope_incomplete"
  | evidenceDigestMismatch => "evidence_digest_mismatch"
  | forensicPackageMissing => "forensic_package_missing"
  | forensicPackageScopeMismatch => "forensic_package_scope_mismatch"
  | forensicPackageHashMismatch => "forensic_package_hash_mismatch"
  | reconstructionOrderInvalid => "reconstruction_order_invalid"
  | reconstructionRootMismatch => "reconstruction_root_mismatch"
  | reentryUnauthorized => "reentry_unauthorized"
  | reentryBeforeContainment => "reentry_before_containment"
  | reentryPackageMismatch => "reentry_package_mismatch"
  | reentryCheckpointMismatch => "reentry_checkpoint_mismatch"
  | reentryCredentialNotRotated => "reentry_credential_not_rotated"
  | reentryStateVersionStale => "reentry_state_version_stale"
  | reentryExpired => "reentry_expired"

inductive IncidentRejectReason where
  | policyInvalid | requestInvalid | upstreamInvalid | manifestInvalid | coverageMismatch | ownerUntrusted | policyDrift
  | referenceInvalid | declaredDecisionMismatch | declaredScopeMismatch | declaredReconstructionMismatch | declaredReentryMismatch
  deriving DecidableEq, Repr

abbrev Check := Checked IncidentRejectReason

/-! ## The manifest and the policy -/

structure IncidentEvent where
  eventId : String
  sequence : Int
  agentId : String
  originalPrincipalId : String
  tenantId : String
  sessionId : Option String
  kind : IncidentEventKind
  objectId : String
  parentEventIds : List String
  previousEventSha256 : String
  payloadSha256 : String
  eventSha256 : String
  observedAtEpoch : Int
  ownerId : String
  description : String
  deriving DecidableEq, Repr

structure ContainmentAction where
  actionId : String
  incidentId : String
  kind : ContainmentKind
  targetId : String
  evidenceEventIds : List String
  evidenceDigestSha256 : String
  issuedAtEpoch : Int
  ownerId : String
  description : String
  deriving DecidableEq, Repr

structure ForensicPackage where
  packageId : String
  incidentId : String
  scopeEventIds : List String
  reconstructionEventIds : List String
  rootEventIds : List String
  preservedEventSha256ById : List (String × String)
  generatedAtEpoch : Int
  ownerId : String
  description : String
  deriving DecidableEq, Repr

structure ReentryAuthorization where
  reentryId : String
  incidentId : String
  agentId : String
  safeCheckpointId : String
  forensicPackageSha256 : String
  replacementCredentialSha256 : String
  minimumStateVersion : Int
  issuedAtEpoch : Int
  notBeforeEpoch : Int
  expiresAtEpoch : Int
  ownerId : String
  description : String
  deriving DecidableEq, Repr

structure IncidentCase where
  incidentId : String
  triggerEventIds : List String
  containmentActionIds : List String
  forensicPackageId : String
  reentryAuthorizationIds : List String
  containedAtEpoch : Int
  ownerId : String
  description : String
  deriving DecidableEq, Repr

structure AgentIncidentForensicsManifest where
  graphId : String
  version : String
  p8gAssessmentEvidenceSha256 : String
  p8hAssessmentEvidenceSha256 : String
  p8iAssessmentEvidenceSha256 : String
  p8jAssessmentEvidenceSha256 : String
  createdAtEpoch : Int
  events : List IncidentEvent
  containmentActions : List ContainmentAction
  forensicPackages : List ForensicPackage
  reentryAuthorizations : List ReentryAuthorization
  incidents : List IncidentCase
  schemaVersion : String
  deriving DecidableEq, Repr

/-- `_event_profile`. -/
structure EventProfile where
  sequence : Int
  agentId : String
  originalPrincipalId : String
  tenantId : String
  sessionId : Option String
  kind : IncidentEventKind
  objectId : String
  parentEventIds : List String
  previousEventSha256 : String
  payloadSha256 : String
  observedAtEpoch : Int
  deriving DecidableEq, Repr

/-- `_incident_profile`. -/
structure IncidentProfile where
  triggerEventIds : List String
  containmentActionIds : List String
  forensicPackageId : String
  reentryAuthorizationIds : List String
  containedAtEpoch : Int
  deriving DecidableEq, Repr

structure AgentIncidentForensicsPolicy where
  expectedGraphId : String
  expectedGraphVersion : String
  expectedGraphSha256 : String
  expectedP8gAssessmentEvidenceSha256 : String
  expectedP8hAssessmentEvidenceSha256 : String
  expectedP8iAssessmentEvidenceSha256 : String
  expectedP8jAssessmentEvidenceSha256 : String
  requiredEventIds : List String
  requiredContainmentActionIds : List String
  requiredForensicPackageIds : List String
  requiredReentryAuthorizationIds : List String
  requiredIncidentIds : List String
  trustedOwnerIds : List String
  expectedEventProfiles : List (String × EventProfile)
  expectedIncidentProfiles : List (String × IncidentProfile)
  safeCheckpointIdByAgent : List (String × String)
  replacementCredentialSha256ByAgent : List (String × String)
  minimumReentryStateVersionByAgent : List (String × Int)
  maxManifestAgeSeconds : Int
  maxForensicPackageAgeSeconds : Int
  maxFutureSkewSeconds : Int

structure IncidentForensicsFact where
  incidentId : String
  decision : IncidentDecision
  risks : List IncidentRisk
  triggerEventIds : List String
  scopeEventIds : List String
  scopeAgentIds : List String
  containmentActionIds : List String
  forensicPackageId : String
  reconstructionSha256 : String
  reentryAuthorizationIds : List String
  riskScore : Nat
  deriving DecidableEq, Repr

variable (rt : Runtime)

def IncidentEvent.profile (e : IncidentEvent) : EventProfile where
  sequence := e.sequence
  agentId := e.agentId
  originalPrincipalId := e.originalPrincipalId
  tenantId := e.tenantId
  sessionId := e.sessionId
  kind := e.kind
  objectId := e.objectId
  parentEventIds := e.parentEventIds
  previousEventSha256 := rt.casefold e.previousEventSha256
  payloadSha256 := rt.casefold e.payloadSha256
  observedAtEpoch := e.observedAtEpoch

def IncidentCase.profile (i : IncidentCase) : IncidentProfile where
  triggerEventIds := i.triggerEventIds
  containmentActionIds := i.containmentActionIds
  forensicPackageId := i.forensicPackageId
  reentryAuthorizationIds := i.reentryAuthorizationIds
  containedAtEpoch := i.containedAtEpoch

/-! ## Digests -/

/-- `_event_material`. -/
def IncidentEvent.material (text : String → Json) (texts : List String → Json) (e : IncidentEvent) : List (String × Json) :=
  [("event_id", text e.eventId), ("sequence", .int e.sequence), ("agent_id", text e.agentId),
    ("original_principal_id", text e.originalPrincipalId), ("tenant_id", text e.tenantId), ("session_id", Json.opt text e.sessionId),
    ("kind", text e.kind.value), ("object_id", text e.objectId), ("parent_event_ids", texts e.parentEventIds),
    ("previous_event_sha256", text e.previousEventSha256), ("payload_sha256", text e.payloadSha256),
    ("observed_at_epoch", .int e.observedAtEpoch), ("owner_id", text e.ownerId), ("description", text e.description)]

def IncidentEvent.toDict (text : String → Json) (texts : List String → Json) (e : IncidentEvent) : Json :=
  .obj (("event_sha256", text e.eventSha256) :: e.material text texts)

def ContainmentAction.toDict (text : String → Json) (texts : List String → Json) (a : ContainmentAction) : Json :=
  .obj [("action_id", text a.actionId), ("incident_id", text a.incidentId), ("kind", text a.kind.value), ("target_id", text a.targetId),
    ("evidence_event_ids", texts a.evidenceEventIds), ("evidence_digest_sha256", text a.evidenceDigestSha256),
    ("issued_at_epoch", .int a.issuedAtEpoch), ("owner_id", text a.ownerId), ("description", text a.description)]

def ForensicPackage.toDict (text : String → Json) (texts : List String → Json) (p : ForensicPackage) : Json :=
  .obj [("package_id", text p.packageId), ("incident_id", text p.incidentId), ("scope_event_ids", texts p.scopeEventIds),
    ("reconstruction_event_ids", texts p.reconstructionEventIds), ("root_event_ids", texts p.rootEventIds),
    ("preserved_event_sha256_by_id", .obj (p.preservedEventSha256ById.map fun q => (q.1, text q.2))),
    ("generated_at_epoch", .int p.generatedAtEpoch), ("owner_id", text p.ownerId), ("description", text p.description)]

def ReentryAuthorization.toDict (text : String → Json) (_ : List String → Json) (r : ReentryAuthorization) : Json :=
  .obj [("reentry_id", text r.reentryId), ("incident_id", text r.incidentId), ("agent_id", text r.agentId),
    ("safe_checkpoint_id", text r.safeCheckpointId), ("forensic_package_sha256", text r.forensicPackageSha256),
    ("replacement_credential_sha256", text r.replacementCredentialSha256), ("minimum_state_version", .int r.minimumStateVersion),
    ("issued_at_epoch", .int r.issuedAtEpoch), ("not_before_epoch", .int r.notBeforeEpoch), ("expires_at_epoch", .int r.expiresAtEpoch),
    ("owner_id", text r.ownerId), ("description", text r.description)]

def IncidentCase.toDict (text : String → Json) (texts : List String → Json) (i : IncidentCase) : Json :=
  .obj [("incident_id", text i.incidentId), ("trigger_event_ids", texts i.triggerEventIds),
    ("containment_action_ids", texts i.containmentActionIds), ("forensic_package_id", text i.forensicPackageId),
    ("reentry_authorization_ids", texts i.reentryAuthorizationIds), ("contained_at_epoch", .int i.containedAtEpoch),
    ("owner_id", text i.ownerId), ("description", text i.description)]

/-- `_norm` of a text, and of a tuple of texts. -/
def normText (s : String) : Json := .str (Canonical.normText rt s)

def normTexts (ts : List String) : Json := .arr ((sortOn id ts).map (normText rt))

/-- `incident_event_digest`. -/
def IncidentEvent.digest (e : IncidentEvent) : String := rt.sha256 (Json.obj (e.material (normText rt) (normTexts rt))).sorted

/-- `forensic_package_digest`. -/
def ForensicPackage.digest (p : ForensicPackage) : String := rt.sha256 (p.toDict (normText rt) (normTexts rt)).sorted

/-- `reconstruction_digest`. -/
def reconstructionDigest (eventIds : List String) : String := rt.sha256 (.obj [("reconstruction_event_ids", normTexts rt eventIds)])

/-- `evidence_scope_digest`, of the events in scope. -/
def evidenceScopeDigest (scope : List IncidentEvent) : String :=
  rt.sha256 (.obj ((sortOn (·.eventId) scope).map fun e => (e.eventId, normText rt (rt.casefold e.eventSha256))))

/-- `canonical_agent_incident_forensics_manifest_bytes`. -/
def AgentIncidentForensicsManifest.canonical (m : AgentIncidentForensicsManifest) : Json :=
  .obj [("containment_actions", normTuple rt ContainmentAction.toDict m.containmentActions), ("created_at_epoch", .int m.createdAtEpoch),
    ("events", normTuple rt IncidentEvent.toDict m.events), ("forensic_packages", normTuple rt ForensicPackage.toDict m.forensicPackages),
    ("graph_id", normText rt m.graphId), ("incidents", normTuple rt IncidentCase.toDict m.incidents),
    ("p8g_assessment_evidence_sha256", normText rt m.p8gAssessmentEvidenceSha256),
    ("p8h_assessment_evidence_sha256", normText rt m.p8hAssessmentEvidenceSha256),
    ("p8i_assessment_evidence_sha256", normText rt m.p8iAssessmentEvidenceSha256),
    ("p8j_assessment_evidence_sha256", normText rt m.p8jAssessmentEvidenceSha256),
    ("reentry_authorizations", normTuple rt ReentryAuthorization.toDict m.reentryAuthorizations),
    ("schema_version", normText rt m.schemaVersion), ("version", normText rt m.version)]

/-- `agent_incident_forensics_manifest_digest`. -/
def AgentIncidentForensicsManifest.digest (m : AgentIncidentForensicsManifest) : String := rt.sha256 (m.canonical rt)

/-! ## The event graph -/

/-- `events.values()` by agent. -/
def byAgent (events : List IncidentEvent) : List (String × List IncidentEvent) := groupBy IncidentEvent.agentId events

/-- `sorted(events, key=lambda e: (e.sequence, e.event_id))`. -/
def ordered (events : List IncidentEvent) : List IncidentEvent := sortOn (fun e => toLex (e.sequence, e.eventId)) events

/-- The loop over the events of one agent. -/
def chainFrom (previousHash : String) (previousSequence : Int) : List IncidentEvent → Check Unit
  | [] => .ok ()
  | e :: es => do
    rejectIf (e.sequence ≤ previousSequence) .manifestInvalid "non-monotonic agent event sequence" (some e.eventId)
    rejectIf (rt.casefold e.previousEventSha256 ≠ rt.casefold previousHash) .manifestInvalid "agent event hash chain is broken"
      (some e.eventId)
    chainFrom e.eventSha256 e.sequence es

/-- One causal parent of an event. -/
def validateParent (events : List IncidentEvent) (e : IncidentEvent) (parentId : String) : Check Unit :=
  match Dict.ofItems IncidentEvent.eventId events parentId with
  | none => .error (.rejected .referenceInvalid "causal parent event is missing" (some e.eventId))
  | some parent =>
    rejectIf (parent.sequence ≥ e.sequence ∨ parent.observedAtEpoch > e.observedAtEpoch) .referenceInvalid
      "causal parent order is invalid" (some e.eventId)

/-- `_validate_event_chain`. -/
def validateEventChain (events : List IncidentEvent) : Check Unit := do
  rejectIf ((∃ e ∈ events, e.sequence ≤ 0) ∨ ¬ (events.map (·.sequence)).Nodup) .manifestInvalid
    "event sequence numbers are invalid" none
  forEach (fun group => chainFrom rt zeroSha256 0 (ordered group.2)) (byAgent events)
  forEach (fun e => forEach (validateParent events e) e.parentEventIds) events

/-- `previous_id`: the event of the same agent before each event. -/
def previousIds (events : List IncidentEvent) : List (String × Option String) :=
  (byAgent events).flatMap fun group =>
    (Passes.neighbours none (ordered group.2)).map fun n => (n.1.eventId, n.2.map (·.eventId))

/-- `_event_parent_ids`. -/
def eventParentIds (events : List IncidentEvent) : List (String × List String) :=
  events.map fun e =>
    let prior := ((previousIds events).find? fun p => p.1 = e.eventId).bind (·.2)
    (e.eventId, e.parentEventIds ++ (prior.filter fun p => p ∉ e.parentEventIds).toList)

/-- `_derive_scope`. -/
def deriveScope (events : List IncidentEvent) (triggerEventIds : List String) : Check (List String) :=
  match Passes.settle (eventParentIds events) (events.length + 1) triggerEventIds.dedup with
  | none => .error .recursion
  | some scope => do
    let found ← Checks.gather (getItem (Dict.ofItems IncidentEvent.eventId events)) scope
    pure ((ordered found).map (·.eventId))

/-! ## Validation -/

/-- `_validate_policy`. -/
def validatePolicy (p : AgentIncidentForensicsPolicy) : Check Unit := do
  rejectIf (p.expectedGraphId = "" ∨ p.expectedGraphVersion = "" ∨ ¬ sha rt p.expectedGraphSha256) .policyInvalid "invalid graph pin" none
  rejectIf (∃ d ∈ [p.expectedP8gAssessmentEvidenceSha256, p.expectedP8hAssessmentEvidenceSha256, p.expectedP8iAssessmentEvidenceSha256,
    p.expectedP8jAssessmentEvidenceSha256], ¬ sha rt d) .policyInvalid "invalid upstream digest pin" none
  rejectIf (p.requiredEventIds = [] ∨ p.requiredIncidentIds = [] ∨ p.trustedOwnerIds = []) .policyInvalid
    "required policy coverage is empty" none
  rejectIf (¬ sameSet (p.expectedEventProfiles.map (·.1)) p.requiredEventIds) .policyInvalid "event profile coverage mismatch" none
  rejectIf (¬ sameSet (p.expectedIncidentProfiles.map (·.1)) p.requiredIncidentIds) .policyInvalid
    "incident profile coverage mismatch" none
  rejectIf (¬ sameSet (p.safeCheckpointIdByAgent.map (·.1)) (p.replacementCredentialSha256ByAgent.map (·.1))) .policyInvalid
    "re-entry agent policy mismatch" none
  rejectIf (¬ sameSet (p.safeCheckpointIdByAgent.map (·.1)) (p.minimumReentryStateVersionByAgent.map (·.1))) .policyInvalid
    "re-entry state policy mismatch" none
  rejectIf (∃ c ∈ p.replacementCredentialSha256ByAgent, ¬ sha rt c.2) .policyInvalid "invalid replacement credential digest" none
  rejectIf (p.maxManifestAgeSeconds ≤ 0 ∨ p.maxForensicPackageAgeSeconds ≤ 0 ∨ p.maxFutureSkewSeconds < 0) .policyInvalid
    "invalid freshness policy" none

/-- One row of `checks` in `_validate_upstream`. -/
def validateUpstreamFacts (value : Json) (pin bindingFlag callerFlag collection : String) : Check Unit := do
  rejectIf (digest rt value ≠ rt.casefold pin) .upstreamInvalid "upstream evidence digest mismatch" none
  rejectIf (truthy (getattr value bindingFlag (.bool false)) = false) .upstreamInvalid "upstream exact binding is not verified" none
  rejectIf (truthy (getattr value callerFlag (.bool true)) = true) .upstreamInvalid "upstream trusts caller-declared safety" none
  let records := elements (getattr value collection .nil)
  rejectIf (records = [] ∨ ∃ x ∈ records, ¬ safe rt x) .upstreamInvalid
    "upstream security assessment contains unsafe or missing facts" none

/-- `_validate_upstream`. -/
def validateUpstream (p : AgentIncidentForensicsPolicy) (p8g p8h p8i p8j : Json) : Check Unit := do
  validateUpstreamFacts rt p8g p.expectedP8gAssessmentEvidenceSha256 "exact_agent_message_graph_binding_verified"
    "caller_declared_message_safety_trusted" "messages"
  validateUpstreamFacts rt p8h p.expectedP8hAssessmentEvidenceSha256 "exact_state_transition_graph_binding_verified"
    "caller_declared_state_safety_trusted" "transitions"
  validateUpstreamFacts rt p8i p.expectedP8iAssessmentEvidenceSha256 "exact_artifact_graph_binding_verified"
    "caller_declared_artifact_safety_trusted" "actions"
  validateUpstreamFacts rt p8j p.expectedP8jAssessmentEvidenceSha256 "exact_recovery_graph_binding_verified"
    "caller_declared_recovery_safety_trusted" "recoveries"

/-- `_coverage`. -/
def coverage {α : Type} (id : α → String) (required : List String) (name : String) (items : List α) : Check Unit := do
  rejectIf (¬ (items.map id).Nodup) .coverageMismatch ("duplicate " ++ name ++ " identifier") none
  rejectIf (¬ sameSet (items.map id) required) .coverageMismatch (name ++ " coverage mismatch") none

/-- `_assert_owner`. -/
def assertOwner (p : AgentIncidentForensicsPolicy) (ownerId itemId : String) : Check Unit :=
  rejectIf (ownerId ∉ p.trustedOwnerIds) .ownerUntrusted "untrusted evidence owner" (some itemId)

def validateEvent (p : AgentIncidentForensicsPolicy) (e : IncidentEvent) : Check Unit := do
  assertOwner p e.ownerId e.eventId
  rejectIf (¬ (sha rt e.previousEventSha256 ∧ sha rt e.payloadSha256 ∧ sha rt e.eventSha256)) .manifestInvalid "invalid event digest"
    (some e.eventId)
  rejectIf (rt.casefold e.eventSha256 ≠ e.digest rt) .manifestInvalid "event self-digest mismatch" (some e.eventId)
  rejectIf (some (e.profile rt) ≠ Dict.mapping p.expectedEventProfiles e.eventId) .policyDrift "event security profile drift"
    (some e.eventId)

def validateAction (p : AgentIncidentForensicsPolicy) (a : ContainmentAction) : Check Unit := do
  assertOwner p a.ownerId a.actionId
  rejectIf (¬ sha rt a.evidenceDigestSha256) .manifestInvalid "invalid containment evidence digest" (some a.actionId)

def validatePackage (p : AgentIncidentForensicsPolicy) (now : Int) (f : ForensicPackage) : Check Unit := do
  assertOwner p f.ownerId f.packageId
  rejectIf (f.generatedAtEpoch > now + p.maxFutureSkewSeconds) .manifestInvalid "forensic package is from the future" (some f.packageId)
  rejectIf (now - f.generatedAtEpoch > p.maxForensicPackageAgeSeconds) .manifestInvalid "forensic package is stale" (some f.packageId)
  rejectIf (∃ q ∈ f.preservedEventSha256ById, ¬ sha rt q.2) .manifestInvalid "invalid preserved event digest" (some f.packageId)

def validateReentry (p : AgentIncidentForensicsPolicy) (r : ReentryAuthorization) : Check Unit := do
  assertOwner p r.ownerId r.reentryId
  rejectIf (¬ (sha rt r.forensicPackageSha256 ∧ sha rt r.replacementCredentialSha256)) .manifestInvalid "invalid re-entry digest"
    (some r.reentryId)

def validateIncident (p : AgentIncidentForensicsPolicy) (i : IncidentCase) : Check Unit := do
  assertOwner p i.ownerId i.incidentId
  rejectIf (some i.profile ≠ Dict.mapping p.expectedIncidentProfiles i.incidentId) .policyDrift "incident security profile drift"
    (some i.incidentId)

/-- `_validate_manifest`. -/
def validateManifest (p : AgentIncidentForensicsPolicy) (m : AgentIncidentForensicsManifest) (now : Int) : Check Unit := do
  rejectIf (m.schemaVersion ≠ incidentSchemaVersion) .manifestInvalid "incident manifest schema drift" none
  rejectIf (m.graphId ≠ p.expectedGraphId ∨ m.version ≠ p.expectedGraphVersion) .manifestInvalid
    "incident manifest graph identity drift" none
  rejectIf (rt.casefold (m.digest rt) ≠ rt.casefold p.expectedGraphSha256) .manifestInvalid "incident manifest SHA-256 mismatch" none
  rejectIf (m.createdAtEpoch > now + p.maxFutureSkewSeconds) .manifestInvalid "incident manifest is from the future" none
  rejectIf (now - m.createdAtEpoch > p.maxManifestAgeSeconds) .manifestInvalid "incident manifest is stale" none
  rejectIf ([m.p8gAssessmentEvidenceSha256, m.p8hAssessmentEvidenceSha256, m.p8iAssessmentEvidenceSha256,
    m.p8jAssessmentEvidenceSha256].map rt.casefold ≠ [p.expectedP8gAssessmentEvidenceSha256, p.expectedP8hAssessmentEvidenceSha256,
    p.expectedP8iAssessmentEvidenceSha256, p.expectedP8jAssessmentEvidenceSha256].map rt.casefold) .manifestInvalid
    "manifest upstream evidence mismatch" none
  coverage IncidentEvent.eventId p.requiredEventIds "event" m.events
  coverage ContainmentAction.actionId p.requiredContainmentActionIds "containment action" m.containmentActions
  coverage ForensicPackage.packageId p.requiredForensicPackageIds "forensic package" m.forensicPackages
  coverage ReentryAuthorization.reentryId p.requiredReentryAuthorizationIds "reentry authorization" m.reentryAuthorizations
  coverage IncidentCase.incidentId p.requiredIncidentIds "incident" m.incidents
  forEach (validateEvent rt p) m.events
  forEach (validateAction rt p) m.containmentActions
  forEach (validatePackage rt p now) m.forensicPackages
  forEach (validateReentry rt p) m.reentryAuthorizations
  forEach (validateIncident p) m.incidents
  validateEventChain rt m.events

/-! ## Derivation -/

/-- What `derive` reads for every incident. -/
structure Context where
  policy : AgentIncidentForensicsPolicy
  eventList : List IncidentEvent
  actions : Dict ContainmentAction
  packages : Dict ForensicPackage
  reentries : Dict ReentryAuthorization
  now : Int

def Context.events (c : Context) : Dict IncidentEvent := Dict.ofItems IncidentEvent.eventId c.eventList

def contextOf (p : AgentIncidentForensicsPolicy) (m : AgentIncidentForensicsManifest) (now : Int) : Context where
  policy := p
  eventList := m.events
  actions := Dict.ofItems ContainmentAction.actionId m.containmentActions
  packages := Dict.ofItems ForensicPackage.packageId m.forensicPackages
  reentries := Dict.ofItems ReentryAuthorization.reentryId m.reentryAuthorizations
  now := now

/-- `not triggers or any(trigger_id not in events …)`. -/
def TriggersInvalid (c : Context) (i : IncidentCase) : Prop := i.triggerEventIds = [] ∨ ∃ t ∈ i.triggerEventIds, c.events t = none

instance decidableTriggersInvalid (c : Context) (i : IncidentCase) : Decidable (TriggersInvalid c i) :=
  inferInstanceAs (Decidable (_ ∨ _))

def scopeAgents (scope : List IncidentEvent) : List String := sortedSet id (scope.map (·.agentId))

/-- The objects of the events of some kinds. -/
def objectsOf (kinds : List IncidentEventKind) (scope : List IncidentEvent) : List String :=
  sortedSet id ((scope.filter fun e => e.kind ∈ kinds).map (·.objectId))

/-- A listed action of the incident. -/
def actionOf (c : Context) (i : IncidentCase) (actionId : String) : Option ContainmentAction :=
  (c.actions actionId).filter fun a => a.incidentId = i.incidentId

/-- `action_values`. -/
def actionValues (c : Context) (i : IncidentCase) : List ContainmentAction := i.containmentActionIds.filterMap (actionOf c i)

/-- `trigger_time`. -/
def triggerTime (c : Context) (i : IncidentCase) : Int :=
  ((i.triggerEventIds.filterMap fun t => (c.events t).map (·.observedAtEpoch)).min?).getD i.containedAtEpoch

/-- `_has`. -/
def Has (actions : List ContainmentAction) (kind : ContainmentKind) (targetId : String) : Prop :=
  ∃ a ∈ actions, a.kind = kind ∧ a.targetId = targetId

instance decidableHas (actions : List ContainmentAction) (kind : ContainmentKind) (targetId : String) :
    Decidable (Has actions kind targetId) := inferInstanceAs (Decidable (∃ a ∈ actions, _))

def scopeRisks (c : Context) (i : IncidentCase) (scope : List IncidentEvent) : List IncidentRisk :=
  flag (TriggersInvalid c i) IncidentRisk.incidentTriggerInvalid ++
    flag (∃ e ∈ scope, e.observedAtEpoch > i.containedAtEpoch) IncidentRisk.postContainmentActivity

def containmentRisks (c : Context) (i : IncidentCase) (scope : List IncidentEvent) : List IncidentRisk :=
  let actions := actionValues c i
  flag (∃ a ∈ i.containmentActionIds, actionOf c i a = none) IncidentRisk.containmentActionInvalid ++
    flag (∃ a ∈ actions, a.issuedAtEpoch < triggerTime c i ∨ a.issuedAtEpoch > i.containedAtEpoch) IncidentRisk.containmentTimeInvalid ++
    flag (∃ a ∈ scopeAgents scope, ¬ Has actions .quarantineAgent a) IncidentRisk.agentNotQuarantined ++
    flag (∃ o ∈ objectsOf [.message] scope, ¬ Has actions .isolateChannel o) IncidentRisk.channelNotIsolated ++
    flag (∃ o ∈ objectsOf [.stateTransition, .recovery] scope, ¬ Has actions .freezeState o) IncidentRisk.stateNotFrozen ++
    flag (∃ o ∈ objectsOf [.credentialUse] scope, ¬ Has actions .revokeCredential o) IncidentRisk.credentialNotRevoked

/-- The evidence that is to be preserved: one action over the scope. -/
def evidenceRisks (c : Context) (i : IncidentCase) (scope : List IncidentEvent) : List IncidentRisk :=
  match (actionValues c i).filter fun a => a.kind = .preserveEvidence ∧ a.targetId = i.incidentId with
  | [a] =>
    flag (a.evidenceEventIds ≠ scope.map (·.eventId)) IncidentRisk.evidenceScopeIncomplete ++
      flag (rt.casefold a.evidenceDigestSha256 ≠ evidenceScopeDigest rt scope) IncidentRisk.evidenceDigestMismatch
  | _ => [.evidenceScopeIncomplete]

/-- Two mappings are equal. -/
def SameMapping (a b : List (String × String)) : Prop := ∀ k ∈ a.map (·.1) ++ b.map (·.1), Dict.mapping a k = Dict.mapping b k

instance decidableSameMapping (a b : List (String × String)) : Decidable (SameMapping a b) :=
  inferInstanceAs (Decidable (∀ k ∈ a.map (·.1) ++ b.map (·.1), _))

/-- `expected_preserved`. -/
def expectedPreserved (scope : List IncidentEvent) : List (String × String) :=
  scope.map fun e => (e.eventId, rt.casefold e.eventSha256)

/-- The package of the incident. -/
def packageOf (c : Context) (i : IncidentCase) : Option ForensicPackage := c.packages i.forensicPackageId

def packageRisks (c : Context) (i : IncidentCase) (scope : List IncidentEvent) : List IncidentRisk :=
  match packageOf c i with
  | none => [.forensicPackageMissing]
  | some f =>
    if f.incidentId ≠ i.incidentId then [.forensicPackageMissing]
    else
      flag (f.scopeEventIds ≠ scope.map (·.eventId)) IncidentRisk.forensicPackageScopeMismatch ++
        flag (¬ SameMapping f.preservedEventSha256ById (expectedPreserved rt scope)) IncidentRisk.forensicPackageHashMismatch ++
        flag (f.reconstructionEventIds ≠ (ordered scope).map (·.eventId)) IncidentRisk.reconstructionOrderInvalid ++
        flag (f.rootEventIds ≠ sortOn id i.triggerEventIds) IncidentRisk.reconstructionRootMismatch ++
        flag (f.generatedAtEpoch < i.containedAtEpoch) IncidentRisk.containmentTimeInvalid

/-- A listed re-entry of the incident. -/
def reentryOf (c : Context) (i : IncidentCase) (reentryId : String) : Option ReentryAuthorization :=
  (c.reentries reentryId).filter fun r => r.incidentId = i.incidentId

/-- `listed_reentries`. -/
def listedReentries (c : Context) (i : IncidentCase) : List ReentryAuthorization := i.reentryAuthorizationIds.filterMap (reentryOf c i)

/-- `lower_bound`. -/
def lowerBound (i : IncidentCase) : Option ForensicPackage → Int
  | none => i.containedAtEpoch
  | some f => max i.containedAtEpoch f.generatedAtEpoch

/-- The risks of one listed re-entry. -/
def reentryItemRisks (c : Context) (i : IncidentCase) (scope : List IncidentEvent) (r : ReentryAuthorization) : List IncidentRisk :=
  match Dict.mapping c.policy.safeCheckpointIdByAgent r.agentId with
  | none => [.reentryUnauthorized]
  | some checkpoint =>
    if r.agentId ∉ scopeAgents scope then [.reentryUnauthorized]
    else
      flag (r.safeCheckpointId ≠ checkpoint) IncidentRisk.reentryCheckpointMismatch ++
        flag (¬ ∃ credential ∈ Dict.mapping c.policy.replacementCredentialSha256ByAgent r.agentId,
          rt.casefold r.replacementCredentialSha256 = rt.casefold credential) IncidentRisk.reentryCredentialNotRotated ++
        flag (¬ ∃ version ∈ Dict.mapping c.policy.minimumReentryStateVersionByAgent r.agentId, version ≤ r.minimumStateVersion)
          IncidentRisk.reentryStateVersionStale ++
        flag (¬ ∃ f ∈ packageOf c i, rt.casefold r.forensicPackageSha256 = f.digest rt) IncidentRisk.reentryPackageMismatch ++
        flag (r.issuedAtEpoch < lowerBound i (packageOf c i) ∨ r.notBeforeEpoch < lowerBound i (packageOf c i) ∨
          r.notBeforeEpoch > r.expiresAtEpoch) IncidentRisk.reentryBeforeContainment ++
        flag (r.expiresAtEpoch < c.now) IncidentRisk.reentryExpired

/-- `required_reentry_agents`. -/
def requiredReentryAgents (c : Context) (scope : List IncidentEvent) : List String :=
  (c.policy.safeCheckpointIdByAgent.map (·.1)).filter (· ∈ scopeAgents scope)

def reentryRisks (c : Context) (i : IncidentCase) (scope : List IncidentEvent) : List IncidentRisk :=
  let listed := listedReentries c i
  flag (∃ r ∈ i.reentryAuthorizationIds, reentryOf c i r = none) IncidentRisk.reentryUnauthorized ++
    flag (¬ (listed.map (·.agentId)).Nodup) IncidentRisk.reentryUnauthorized ++
    listed.flatMap (reentryItemRisks rt c i scope) ++
    flag (¬ sameSet (listed.map (·.agentId)) (requiredReentryAgents c scope)) IncidentRisk.reentryUnauthorized

/-- `scope_ids`. -/
def scopeIdsOf (c : Context) (i : IncidentCase) : Check (List String) :=
  if TriggersInvalid c i then .ok [] else deriveScope c.eventList i.triggerEventIds

/-- The body of the loop over the incidents. -/
def factOf (c : Context) (i : IncidentCase) : Check IncidentForensicsFact := do
  let scopeIds ← scopeIdsOf c i
  let scope ← Checks.gather (getItem c.events) scopeIds
  let risks := scopeRisks c i scope ++ containmentRisks c i scope ++ evidenceRisks rt c i scope ++ packageRisks rt c i scope ++
    reentryRisks rt c i scope
  let listed := sorted IncidentRisk.value risks
  pure {
    incidentId := i.incidentId
    decision := if risks = [] then .allow else .deny
    risks := listed
    triggerEventIds := i.triggerEventIds
    scopeEventIds := scopeIds
    scopeAgentIds := scopeAgents scope
    containmentActionIds := i.containmentActionIds
    forensicPackageId := i.forensicPackageId
    reconstructionSha256 :=
      match (packageOf c i).filter fun f => f.incidentId = i.incidentId with
      | none => rt.sha256 (.obj [])
      | some _ => reconstructionDigest rt ((ordered scope).map (·.eventId))
    reentryAuthorizationIds := i.reentryAuthorizationIds
    riskScore := listed.length * 10 }

/-- The analyzer, whose policy `__init__` has validated. -/
structure AgentProvenanceIncidentForensicsAnalyzer where
  policy : AgentIncidentForensicsPolicy
  valid : validatePolicy rt policy = .ok ()

/-- `derive`. -/
def AgentProvenanceIncidentForensicsAnalyzer.derive {rt : Runtime} (analyzer : AgentProvenanceIncidentForensicsAnalyzer rt)
    (m : AgentIncidentForensicsManifest) (p8g p8h p8i p8j : Json) (now : Int) : Check (List IncidentForensicsFact) := do
  validateUpstream rt analyzer.policy p8g p8h p8i p8j
  validateManifest rt analyzer.policy m now
  Checks.gather (factOf rt (contextOf analyzer.policy m now)) (sortOn IncidentCase.incidentId m.incidents)

end Aegis.Agentic.IncidentForensics
