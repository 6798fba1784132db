/-
  Aegis.Agentic.Delegation — `MultiAgentDelegationSecurityAnalyzer.evaluate`
  (delegation_security.py): each delegation is compared with its parent alone, after the parent
  has been evaluated, and has its requested capabilities in effect when no risk is found.

  `evaluate_record` calls itself for the parent; the interpreter's recursion limit is a parameter.
-/

import Aegis.Agentic.Evidence
import Aegis.Data.Ascent

namespace Aegis.Agentic.Delegation

open Data Evidence Checked

def delegationSchemaVersion : String := "aegis-agent-delegation-manifest-v1"

inductive AgentRole where
  | orchestrator | retrievalAgent | toolBroker | toolAgent | securityAgent | releaseAgent | observabilityAgent
  deriving DecidableEq, Repr

def AgentRole.value : AgentRole → String
  | orchestrator => "orchestrator"
  | retrievalAgent => "retrieval_agent"
  | toolBroker => "tool_broker"
  | toolAgent => "tool_agent"
  | securityAgent => "security_agent"
  | releaseAgent => "release_agent"
  | observabilityAgent => "observability_agent"

inductive TenantScope where
  | tenantBound | system
  deriving DecidableEq, Repr

def TenantScope.value : TenantScope → String
  | tenantBound => "tenant_bound"
  | system => "system"

inductive DelegationDecision where
  | allow | deny
  deriving DecidableEq, Repr

/-- `DelegationRisk`, in the order of falling priorities. -/
inductive DelegationRisk where
  | crossTenant | confusedDeputy | capabilityLaundering | scopeAmplification | upstreamPrivilegeExposed
  | controlPlaneRouteExposed | architectureInvariantUnsafe | identityContinuity | provenanceMismatch | chainDiscontinuity
  | chainTooDeep | taskNotAuthorized | untrustedAgent | expired
  deriving DecidableEq, Repr

namespace DelegationRisk

def all : List DelegationRisk :=
  [crossTenant, confusedDeputy, capabilityLaundering, scopeAmplification, upstreamPrivilegeExposed, controlPlaneRouteExposed,
    architectureInvariantUnsafe, identityContinuity, provenanceMismatch, chainDiscontinuity, chainTooDeep, taskNotAuthorized,
    untrustedAgent, expired]

/-- A set of risks as the tuple `sorted(set(risks), key=(-priority, value))`: no two priorities are the same. -/
def sorted (risks : List DelegationRisk) : List DelegationRisk := all.filter (· ∈ risks)

end DelegationRisk

inductive DelegationRejectReason where
  | policyInvalid | requestInvalid | p7bUnverified | p7bDigestMismatch | p7hUnverified | p7hDigestMismatch | p7iUnverified
  | p7iDigestMismatch | manifestInvalid | manifestDigestMismatch | manifestStale | manifestFuture | agentDuplicate
  | agentCoverageMismatch | agentOwnerUntrusted | agentRoleDrift | agentTenantDrift | agentTrustDomainDrift
  | agentCapabilityDrift | agentPrivilegePathDrift | agentPrivilegePathUnknown | agentControlRouteDrift
  | agentControlRouteUnknown | agentDelegationFlagDrift | agentDepthDrift | capabilityDuplicate | capabilityCoverageMismatch
  | capabilityFamilyDrift | capabilityLevelDrift | capabilityScopeDrift | capabilityPrivilegeDrift | capabilityRouteDrift
  | capabilityInvariantDrift | capabilityReferenceUnknown | delegationDuplicate | delegationCoverageMismatch
  | delegationOwnerUntrusted | delegationReferenceUnknown | delegationCapabilityUnknown | delegationParentUnknown
  | delegationCycle | delegationTimeInvalid | delegationProvenanceInvalid | originalPrincipalUnknown
  | declaredDecisionMismatch | declaredRiskMismatch
  deriving DecidableEq, Repr

abbrev Check := Checked DelegationRejectReason

/-! ## The manifest, the request and the policy -/

structure AgentIdentity where
  agentId : String
  role : AgentRole
  tenantId : String
  trustDomain : String
  ownerId : String
  maximumCapabilityIds : List String
  p7bPathIds : List String
  p7hRouteIds : List String
  acceptsDelegation : Bool
  maxDelegationDepth : Int
  description : String
  deriving DecidableEq, Repr

structure AgentCapability where
  capabilityId : String
  family : String
  privilegeLevel : Int
  tenantScope : TenantScope
  privileged : Bool
  requiredP7hRouteIds : List String
  requiredP7iInvariantIds : List String
  description : String
  deriving DecidableEq, Repr

structure DelegationRecord where
  delegationId : String
  parentDelegationId : Option String
  originalPrincipalId : String
  delegatorAgentId : String
  delegateeAgentId : String
  taskClass : String
  tenantId : String
  requestedCapabilityIds : List String
  originalRequestSha256 : String
  issuedAtEpoch : Int
  expiresAtEpoch : Int
  ownerId : String
  description : String
  deriving DecidableEq, Repr

structure AgentDelegationManifest where
  graphId : String
  version : String
  p7bAssessmentEvidenceSha256 : String
  p7hAssessmentEvidenceSha256 : String
  p7iAssessmentEvidenceSha256 : String
  createdAtEpoch : Int
  agents : List AgentIdentity
  capabilities : List AgentCapability
  delegations : List DelegationRecord
  schemaVersion : String
  deriving DecidableEq, Repr

structure AgentDelegationRequest where
  graphId : String
  graphVersion : String
  graphSha256 : String
  p7bAssessmentEvidenceSha256 : String
  p7hAssessmentEvidenceSha256 : String
  p7iAssessmentEvidenceSha256 : String
  evaluatedAtEpoch : Int
  delegationIds : List String
  declaredDeniedDelegationIds : List String
  declaredRiskIdsByDelegation : List (String × List DelegationRisk)

structure AgentDelegationPolicy where
  expectedGraphId : String
  expectedGraphVersion : String
  expectedGraphSha256 : String
  expectedP7bAssessmentEvidenceSha256 : String
  expectedP7hAssessmentEvidenceSha256 : String
  expectedP7iAssessmentEvidenceSha256 : String
  requiredAgentIds : List String
  requiredCapabilityIds : List String
  requiredDelegationIds : List String
  trustedOwnerIds : List String
  trustedTrustDomains : List String
  sharedAgentIds : List String
  expectedAgentRole : List (String × AgentRole)
  expectedAgentTenant : List (String × String)
  expectedAgentTrustDomain : List (String × String)
  expectedAgentCapabilityIds : List (String × List String)
  expectedAgentP7bPathIds : List (String × List String)
  expectedAgentP7hRouteIds : List (String × List String)
  expectedAgentAcceptsDelegation : List (String × Bool)
  expectedAgentMaxDepth : List (String × Int)
  expectedCapabilityFamily : List (String × String)
  expectedCapabilityLevel : List (String × Int)
  expectedCapabilityScope : List (String × TenantScope)
  expectedCapabilityPrivileged : List (String × Bool)
  expectedCapabilityP7hRouteIds : List (String × List String)
  expectedCapabilityP7iInvariantIds : List (String × List String)
  originalPrincipalTenant : List (String × String)
  originalPrincipalAllowedTaskClasses : List (String × List String)
  originalPrincipalMaxLevelByFamily : List (String × List (String × Int))
  maxChainDepth : Int
  maxManifestAgeSeconds : Int
  maxFutureSkewSeconds : Int

variable (rt : Runtime)

/-! ## Digests -/

/-- `_is_sha256`. -/
def isSha256 (value : String) : Prop := (rt.casefold value).length = 64 ∧ ∀ c ∈ (rt.casefold value).toList, c ∈ hexDigits

instance decidableIsSha256 (value : String) : Decidable (isSha256 rt value) :=
  decidable_of_iff ((letters (rt.casefold value)).length = 64 ∧ (letters (rt.casefold value)).all hexDigit = true) (by
    rw [isSha256, letters_eq, String.length_toList, List.all_eq_true]
    simp only [mem_hexDigits])

/-- `sorted(values)` of texts. -/
def sortedTexts (values : List String) : List String := sortOn id values

def texts (values : List String) : Json := .arr ((sortedTexts values).map .str)

def AgentIdentity.document (a : AgentIdentity) : Json :=
  .obj [("accepts_delegation", .bool a.acceptsDelegation), ("agent_id", .str a.agentId), ("description", .str a.description),
    ("max_delegation_depth", .int a.maxDelegationDepth), ("maximum_capability_ids", texts a.maximumCapabilityIds),
    ("owner_id", .str a.ownerId), ("p7b_path_ids", texts a.p7bPathIds), ("p7h_route_ids", texts a.p7hRouteIds),
    ("role", .str a.role.value), ("tenant_id", .str a.tenantId), ("trust_domain", .str a.trustDomain)]

def AgentCapability.document (c : AgentCapability) : Json :=
  .obj [("capability_id", .str c.capabilityId), ("description", .str c.description), ("family", .str c.family),
    ("privilege_level", .int c.privilegeLevel), ("privileged", .bool c.privileged),
    ("required_p7h_route_ids", texts c.requiredP7hRouteIds), ("required_p7i_invariant_ids", texts c.requiredP7iInvariantIds),
    ("tenant_scope", .str c.tenantScope.value)]

def DelegationRecord.document (d : DelegationRecord) : Json :=
  .obj [("delegatee_agent_id", .str d.delegateeAgentId), ("delegation_id", .str d.delegationId),
    ("delegator_agent_id", .str d.delegatorAgentId), ("description", .str d.description),
    ("expires_at_epoch", .int d.expiresAtEpoch), ("issued_at_epoch", .int d.issuedAtEpoch),
    ("original_principal_id", .str d.originalPrincipalId),
    ("original_request_sha256", .str (rt.casefold d.originalRequestSha256)), ("owner_id", .str d.ownerId),
    ("parent_delegation_id", optText d.parentDelegationId), ("requested_capability_ids", texts d.requestedCapabilityIds),
    ("task_class", .str d.taskClass), ("tenant_id", .str d.tenantId)]

/-- `canonical_agent_delegation_manifest_bytes`. -/
def AgentDelegationManifest.canonical (m : AgentDelegationManifest) : Json :=
  .obj [("agents", .arr ((sortOn (·.agentId) m.agents).map (·.document))),
    ("capabilities", .arr ((sortOn (·.capabilityId) m.capabilities).map (·.document))),
    ("created_at_epoch", .int m.createdAtEpoch),
    ("delegations", .arr ((sortOn (·.delegationId) m.delegations).map (·.document rt))), ("graph_id", .str m.graphId),
    ("p7b_assessment_evidence_sha256", .str (rt.casefold m.p7bAssessmentEvidenceSha256)),
    ("p7h_assessment_evidence_sha256", .str (rt.casefold m.p7hAssessmentEvidenceSha256)),
    ("p7i_assessment_evidence_sha256", .str (rt.casefold m.p7iAssessmentEvidenceSha256)),
    ("schema_version", .str m.schemaVersion), ("version", .str m.version)]

/-- `agent_delegation_manifest_digest`. -/
def AgentDelegationManifest.digest (m : AgentDelegationManifest) : String := rt.sha256 (m.canonical rt)

namespace AgentDelegationManifest

variable (m : AgentDelegationManifest)

def agent : Dict AgentIdentity := .ofItems AgentIdentity.agentId m.agents

def capability : Dict AgentCapability := .ofItems AgentCapability.capabilityId m.capabilities

def delegation : Dict DelegationRecord := .ofItems DelegationRecord.delegationId m.delegations

/-- `delegations[id].parent_delegation_id`. -/
def parentOf : Dict String := fun id => (m.delegation id).bind (·.parentDelegationId)

end AgentDelegationManifest

/-! ## Validation -/

/-- The keys of `agent_maps`. -/
def AgentDelegationPolicy.agentMaps (p : AgentDelegationPolicy) : List (List String) :=
  [p.expectedAgentRole.map (·.1), p.expectedAgentTenant.map (·.1), p.expectedAgentTrustDomain.map (·.1),
    p.expectedAgentCapabilityIds.map (·.1), p.expectedAgentP7bPathIds.map (·.1), p.expectedAgentP7hRouteIds.map (·.1),
    p.expectedAgentAcceptsDelegation.map (·.1), p.expectedAgentMaxDepth.map (·.1)]

/-- The keys of `capability_maps`. -/
def AgentDelegationPolicy.capabilityMaps (p : AgentDelegationPolicy) : List (List String) :=
  [p.expectedCapabilityFamily.map (·.1), p.expectedCapabilityLevel.map (·.1), p.expectedCapabilityScope.map (·.1),
    p.expectedCapabilityPrivileged.map (·.1), p.expectedCapabilityP7hRouteIds.map (·.1),
    p.expectedCapabilityP7iInvariantIds.map (·.1)]

/-- `_validate_policy`. -/
def validatePolicy (p : AgentDelegationPolicy) : Check Unit := do
  rejectIf (p.expectedGraphId = "" ∨ p.expectedGraphVersion = "" ∨
    ¬ (isSha256 rt p.expectedGraphSha256 ∧ isSha256 rt p.expectedP7bAssessmentEvidenceSha256 ∧
      isSha256 rt p.expectedP7hAssessmentEvidenceSha256 ∧ isSha256 rt p.expectedP7iAssessmentEvidenceSha256) ∨
    p.requiredAgentIds = [] ∨ p.requiredCapabilityIds = [] ∨ p.requiredDelegationIds = [] ∨ p.trustedOwnerIds = [] ∨
    p.trustedTrustDomains = [] ∨ p.maxChainDepth ≤ 0 ∨ p.maxManifestAgeSeconds ≤ 0 ∨ p.maxFutureSkewSeconds < 0)
    .policyInvalid "delegation policy metadata is invalid" none
  rejectIf (∃ keys ∈ p.agentMaps, ¬ sameSet keys p.requiredAgentIds) .policyInvalid
    "agent policy maps must exactly cover required agents" none
  rejectIf (∃ keys ∈ p.capabilityMaps, ¬ sameSet keys p.requiredCapabilityIds) .policyInvalid
    "capability policy maps must exactly cover required capabilities" none
  rejectIf (∃ l ∈ p.expectedCapabilityLevel, l.2 ≤ 0) .policyInvalid "capability privilege levels must be positive" none
  rejectIf (∃ d ∈ p.expectedAgentMaxDepth, d.2 ≤ 0 ∨ d.2 > p.maxChainDepth) .policyInvalid
    "agent delegation depth is outside the global policy bound" none
  rejectIf (p.originalPrincipalTenant = [] ∨
    ¬ sameSet (p.originalPrincipalAllowedTaskClasses.map (·.1)) (p.originalPrincipalTenant.map (·.1)) ∨
    ¬ sameSet (p.originalPrincipalMaxLevelByFamily.map (·.1)) (p.originalPrincipalTenant.map (·.1))) .policyInvalid
    "original-principal policy maps must have identical coverage" none
  rejectIf (∃ t ∈ p.originalPrincipalAllowedTaskClasses, t.2 = []) .policyInvalid
    "every original principal must have at least one allowed task class" none
  rejectIf (∃ f ∈ p.originalPrincipalMaxLevelByFamily, f.2 = [] ∨ ∃ l ∈ f.2, l.2 ≤ 0) .policyInvalid
    "original-principal authority maps are invalid" none

/-- `_verified`. -/
def verified (value : Json) (flags : List String) : Prop := ∀ f ∈ flags, truthy (getattr value f (.bool false)) = true

instance (value : Json) (flags : List String) : Decidable (verified value flags) := inferInstanceAs (Decidable (∀ f ∈ flags, _))

/-- `_unique_inventory`. -/
def uniqueInventory (value : Json) (name attr : String) (reason : DelegationRejectReason) : Check (Dict Json) := do
  let items := elements (getattr value name .nil)
  let key (item : Json) := text rt (getattr item attr (.str ""))
  keysFrom (fun seen id => rejectIf (id = "" ∨ id ∈ seen) reason "upstream evidence contains duplicate or empty identifiers" none)
    key [] items
  rejectIf (items = []) reason "upstream evidence inventory is empty" none
  pure (Dict.ofItems key items)

structure Upstreams where
  p7bPaths : Dict Json
  p7hRoutes : Dict Json
  p7iInvariants : Dict Json

/-- `_validate_upstreams`. -/
def validateUpstreams (p : AgentDelegationPolicy) (p7b p7h p7i : Json) : Check Upstreams := do
  rejectIf (¬ verified p7b ["exact_identity_graph_binding_verified", "privilege_amplification_derived_from_evidence"])
    .p7bUnverified "P7-B privilege evidence is not fully verified" none
  rejectIf (Evidence.digest rt p7b ≠ rt.casefold p.expectedP7bAssessmentEvidenceSha256) .p7bDigestMismatch
    "P7-B evidence digest does not match delegation policy" none
  rejectIf (¬ verified p7h ["exact_control_plane_binding_verified", "path_risk_derived_from_evidence",
    "separation_of_duties_enforced"]) .p7hUnverified "P7-H control-plane evidence is not fully verified" none
  rejectIf (Evidence.digest rt p7h ≠ rt.casefold p.expectedP7hAssessmentEvidenceSha256) .p7hDigestMismatch
    "P7-H evidence digest does not match delegation policy" none
  rejectIf (¬ verified p7i ["exact_catalog_binding_verified", "blast_radius_derived_from_evidence",
    "counterevidence_preserved"]) .p7iUnverified "P7-I invariant evidence is not fully verified" none
  rejectIf (Evidence.digest rt p7i ≠ rt.casefold p.expectedP7iAssessmentEvidenceSha256) .p7iDigestMismatch
    "P7-I evidence digest does not match delegation policy" none
  let p7bPaths ← uniqueInventory rt p7b "paths" "path_id" .p7bUnverified
  let p7hRoutes ← uniqueInventory rt p7h "routes" "route_id" .p7hUnverified
  let p7iInvariants ← uniqueInventory rt p7i "invariants" "invariant_id" .p7iUnverified
  pure ⟨p7bPaths, p7hRoutes, p7iInvariants⟩

/-- The loop that fills `agents`, `capabilities` or `delegations`. -/
def unique (id : α → String) (reason : DelegationRejectReason) (message : String) (items : List α) : Check Unit :=
  keysFrom (fun seen key => rejectIf (key = "" ∨ key ∈ seen) reason message (if key = "" then none else some key)) id [] items

/-- `xs` has the items of `ys`, each once. -/
def exactly (xs ys : List String) : Prop := sameSet xs ys ∧ xs.Nodup

instance (xs ys : List String) : Decidable (exactly xs ys) := inferInstanceAs (Decidable (_ ∧ _))

def validateAgent (p : AgentDelegationPolicy) (up : Upstreams) (a : AgentIdentity) : Check Unit := do
  rejectIf (a.ownerId ∉ p.trustedOwnerIds ∨ a.trustDomain ∉ p.trustedTrustDomains) .agentOwnerUntrusted
    "agent owner/trust domain is untrusted" (some a.agentId)
  rejectIf (some a.role ≠ Dict.mapping p.expectedAgentRole a.agentId) .agentRoleDrift "agent role differs from policy"
    (some a.agentId)
  rejectIf (some a.tenantId ≠ Dict.mapping p.expectedAgentTenant a.agentId) .agentTenantDrift
    "agent tenant differs from policy" (some a.agentId)
  rejectIf (some a.trustDomain ≠ Dict.mapping p.expectedAgentTrustDomain a.agentId) .agentTrustDomainDrift
    "agent trust domain differs from policy" (some a.agentId)
  let capabilities ← getItem (Dict.mapping p.expectedAgentCapabilityIds) a.agentId
  rejectIf (¬ exactly a.maximumCapabilityIds capabilities) .agentCapabilityDrift
    "agent maximum capabilities differ from policy" (some a.agentId)
  let paths ← getItem (Dict.mapping p.expectedAgentP7bPathIds) a.agentId
  rejectIf (¬ exactly a.p7bPathIds paths) .agentPrivilegePathDrift "agent P7-B privilege paths differ from policy"
    (some a.agentId)
  rejectIf (∃ path ∈ a.p7bPathIds, up.p7bPaths path = none) .agentPrivilegePathUnknown
    "agent references unknown P7-B path" (some a.agentId)
  let routes ← getItem (Dict.mapping p.expectedAgentP7hRouteIds) a.agentId
  rejectIf (¬ exactly a.p7hRouteIds routes) .agentControlRouteDrift "agent P7-H routes differ from policy" (some a.agentId)
  rejectIf (∃ route ∈ a.p7hRouteIds, up.p7hRoutes route = none) .agentControlRouteUnknown
    "agent references unknown P7-H route" (some a.agentId)
  rejectIf (some a.acceptsDelegation ≠ Dict.mapping p.expectedAgentAcceptsDelegation a.agentId) .agentDelegationFlagDrift
    "agent delegation acceptance differs from policy" (some a.agentId)
  rejectIf (some a.maxDelegationDepth ≠ Dict.mapping p.expectedAgentMaxDepth a.agentId ∨ a.maxDelegationDepth ≤ 0 ∨
    a.maxDelegationDepth > p.maxChainDepth) .agentDepthDrift "agent delegation depth differs from policy" (some a.agentId)

def validateCapability (p : AgentDelegationPolicy) (up : Upstreams) (c : AgentCapability) : Check Unit := do
  rejectIf (some c.family ≠ Dict.mapping p.expectedCapabilityFamily c.capabilityId) .capabilityFamilyDrift
    "capability family differs from policy" (some c.capabilityId)
  rejectIf (some c.privilegeLevel ≠ Dict.mapping p.expectedCapabilityLevel c.capabilityId ∨ c.privilegeLevel ≤ 0)
    .capabilityLevelDrift "capability privilege level differs from policy" (some c.capabilityId)
  rejectIf (some c.tenantScope ≠ Dict.mapping p.expectedCapabilityScope c.capabilityId) .capabilityScopeDrift
    "capability tenant scope differs from policy" (some c.capabilityId)
  rejectIf (some c.privileged ≠ Dict.mapping p.expectedCapabilityPrivileged c.capabilityId) .capabilityPrivilegeDrift
    "capability privilege flag differs from policy" (some c.capabilityId)
  let routes ← getItem (Dict.mapping p.expectedCapabilityP7hRouteIds) c.capabilityId
  rejectIf (¬ sameSet c.requiredP7hRouteIds routes) .capabilityRouteDrift
    "capability control-plane routes differ from policy" (some c.capabilityId)
  let invariants ← getItem (Dict.mapping p.expectedCapabilityP7iInvariantIds) c.capabilityId
  rejectIf (¬ sameSet c.requiredP7iInvariantIds invariants) .capabilityInvariantDrift
    "capability invariants differ from policy" (some c.capabilityId)
  rejectIf ((∃ route ∈ c.requiredP7hRouteIds, up.p7hRoutes route = none) ∨
    ∃ invariant ∈ c.requiredP7iInvariantIds, up.p7iInvariants invariant = none) .capabilityReferenceUnknown
    "capability references unknown P7-H/P7-I evidence" (some c.capabilityId)

def validateAgentCapabilities (m : AgentDelegationManifest) (a : AgentIdentity) : Check Unit :=
  rejectIf (∃ id ∈ a.maximumCapabilityIds, id ∉ m.capabilities.map (·.capabilityId)) .agentCapabilityDrift
    "agent references unknown capability" (some a.agentId)

def validateDelegation (p : AgentDelegationPolicy) (evaluatedAtEpoch : Int) (m : AgentDelegationManifest)
    (d : DelegationRecord) : Check Unit := do
  rejectIf (d.ownerId ∉ p.trustedOwnerIds) .delegationOwnerUntrusted "delegation owner is untrusted" (some d.delegationId)
  rejectIf (d.delegatorAgentId ∉ m.agents.map (·.agentId) ∨ d.delegateeAgentId ∉ m.agents.map (·.agentId))
    .delegationReferenceUnknown "delegation references unknown agent" (some d.delegationId)
  rejectIf (d.originalPrincipalId ∉ p.originalPrincipalTenant.map (·.1)) .originalPrincipalUnknown
    "delegation references unknown original principal" (some d.delegationId)
  rejectIf (d.requestedCapabilityIds = [] ∨ ¬ d.requestedCapabilityIds.Nodup ∨
    ∃ id ∈ d.requestedCapabilityIds, id ∉ m.capabilities.map (·.capabilityId)) .delegationCapabilityUnknown
    "delegation capabilities are empty, duplicate, or unknown" (some d.delegationId)
  rejectIf (∃ parent ∈ d.parentDelegationId, parent ∉ m.delegations.map (·.delegationId)) .delegationParentUnknown
    "delegation parent is unknown" (some d.delegationId)
  rejectIf (¬ isSha256 rt d.originalRequestSha256) .delegationProvenanceInvalid
    "delegation original request digest is invalid" (some d.delegationId)
  rejectIf (d.issuedAtEpoch > evaluatedAtEpoch + p.maxFutureSkewSeconds ∨ d.expiresAtEpoch ≤ d.issuedAtEpoch)
    .delegationTimeInvalid "delegation timestamps are invalid" (some d.delegationId)

/-- The walk up from a delegation, which gives up after so many. -/
def revisits (parent : Dict String) : Nat → List String → Option String → Bool
  | _, _, none => false
  | 0, _, some _ => false
  | n + 1, seen, some x => if x ∈ seen then true else revisits parent n (x :: seen) (parent x)

/-- The cycle check breaks off when it has seen more than `max_chain_depth + 1`. -/
def validateAncestry (p : AgentDelegationPolicy) (m : AgentDelegationManifest) (d : DelegationRecord) : Check Unit :=
  rejectIf (revisits m.parentOf (p.maxChainDepth + 2).toNat [] (some d.delegationId) = true) .delegationCycle
    "delegation graph contains a cycle" (some d.delegationId)

/-- `_validate_manifest`. -/
def validateManifest (p : AgentDelegationPolicy) (request : AgentDelegationRequest) (m : AgentDelegationManifest)
    (up : Upstreams) : Check Unit := do
  rejectIf (m.schemaVersion ≠ delegationSchemaVersion ∨ m.graphId ≠ p.expectedGraphId ∨ m.version ≠ p.expectedGraphVersion ∨
    m.agents = [] ∨ m.capabilities = [] ∨ m.delegations = []) .manifestInvalid "delegation manifest metadata is invalid" none
  rejectIf (rt.casefold m.p7bAssessmentEvidenceSha256 ≠ rt.casefold p.expectedP7bAssessmentEvidenceSha256 ∨
    rt.casefold m.p7hAssessmentEvidenceSha256 ≠ rt.casefold p.expectedP7hAssessmentEvidenceSha256 ∨
    rt.casefold m.p7iAssessmentEvidenceSha256 ≠ rt.casefold p.expectedP7iAssessmentEvidenceSha256) .manifestInvalid
    "delegation manifest upstream evidence pins are invalid" none
  rejectIf (m.createdAtEpoch > request.evaluatedAtEpoch + p.maxFutureSkewSeconds) .manifestFuture
    "delegation manifest is future-dated" none
  rejectIf (request.evaluatedAtEpoch - m.createdAtEpoch > p.maxManifestAgeSeconds) .manifestStale
    "delegation manifest is stale" none
  rejectIf (m.digest rt ≠ rt.casefold p.expectedGraphSha256 ∨ m.digest rt ≠ rt.casefold request.graphSha256)
    .manifestDigestMismatch "delegation manifest digest does not match request/policy" none
  unique AgentIdentity.agentId .agentDuplicate "agent is duplicate or empty" m.agents
  rejectIf (¬ sameSet (m.agents.map (·.agentId)) p.requiredAgentIds) .agentCoverageMismatch
    "agent coverage differs from policy" none
  forEach (validateAgent p up) m.agents
  unique AgentCapability.capabilityId .capabilityDuplicate "capability is duplicate or empty" m.capabilities
  rejectIf (¬ sameSet (m.capabilities.map (·.capabilityId)) p.requiredCapabilityIds) .capabilityCoverageMismatch
    "capability coverage differs from policy" none
  forEach (validateCapability p up) m.capabilities
  forEach (validateAgentCapabilities m) m.agents
  unique DelegationRecord.delegationId .delegationDuplicate "delegation is duplicate or empty" m.delegations
  rejectIf (¬ sameSet (m.delegations.map (·.delegationId)) p.requiredDelegationIds) .delegationCoverageMismatch
    "delegation coverage differs from policy" none
  forEach (validateDelegation rt p request.evaluatedAtEpoch m) m.delegations
  forEach (validateAncestry p m) m.delegations

/-! ## Risks -/

structure DelegationSecurityFact where
  delegationId : String
  parentDelegationId : Option String
  originalPrincipalId : String
  delegatorAgentId : String
  delegateeAgentId : String
  taskClass : String
  tenantId : String
  chainDepth : Nat
  requestedCapabilityIds : List String
  requestedFamilies : List String
  decision : DelegationDecision
  risks : List DelegationRisk
  effectiveDelegatorCapabilityIds : List String
  delegateeMaximumCapabilityIds : List String
  p7bPathIds : List String
  p7hRouteIds : List String
  p7iInvariantIds : List String
  deriving DecidableEq, Repr

/-- What `evaluate_record` reads for every delegation. -/
structure Context where
  policy : AgentDelegationPolicy
  evaluatedAtEpoch : Int
  manifest : AgentDelegationManifest
  upstreams : Upstreams

/-- What is known of the parent when a delegation is evaluated. -/
structure Parent where
  record : DelegationRecord
  effective : List String
  depth : Nat

def flag (c : Prop) [Decidable c] (r : DelegationRisk) : List DelegationRisk := if c then [r] else []

@[simp] theorem flag_eq_nil {c : Prop} [Decidable c] {r : DelegationRisk} : flag c r = [] ↔ ¬ c := by
  unfold flag
  split <;> simp_all

/-- The capabilities of the ids, which are there. -/
def capabilitiesOf (m : AgentDelegationManifest) (ids : List String) : List AgentCapability := ids.filterMap m.capability

/-- `_max_level_by_family`. -/
def maxLevelByFamily (capabilities : List AgentCapability) : Dict Int := fun family =>
  match capabilities.filter fun c => c.family = family with
  | [] => none
  | cs => some ((cs.map (·.privilegeLevel)).foldl max 0)

/-- `family not in levels or level > levels[family]`. -/
def above (levels : Dict Int) (c : AgentCapability) : Prop := ∀ level ∈ levels c.family, c.privilegeLevel > level

instance (levels : Dict Int) (c : AgentCapability) : Decidable (above levels c) := inferInstanceAs (Decidable (∀ l ∈ _, _))

def depthRisks (c : Context) (depth : Nat) (delegator delegatee : AgentIdentity) : List DelegationRisk :=
  flag ((depth : Int) > c.policy.maxChainDepth ∨ (depth : Int) > delegator.maxDelegationDepth ∨
    (depth : Int) > delegatee.maxDelegationDepth) .chainTooDeep ++
    flag (delegatee.acceptsDelegation = false) .untrustedAgent

def tenantRisks (c : Context) (record : DelegationRecord) (delegator delegatee : AgentIdentity) (principalTenant : String) :
    List DelegationRisk :=
  flag (record.tenantId ≠ principalTenant) .crossTenant ++
    flag (delegator.tenantId ∉ [record.tenantId, "system"] ∨ delegatee.tenantId ∉ [record.tenantId, "system"]) .crossTenant ++
    flag ((delegator.agentId ∈ c.policy.sharedAgentIds ∨ delegatee.agentId ∈ c.policy.sharedAgentIds) ∧
      record.tenantId ≠ "system" ∧
      ∃ cap ∈ capabilitiesOf c.manifest record.requestedCapabilityIds, cap.tenantScope = .tenantBound) .crossTenant

def continuityRisks (parent record : DelegationRecord) : List DelegationRisk :=
  flag (parent.delegateeAgentId ≠ record.delegatorAgentId) .chainDiscontinuity ++
    flag (parent.originalPrincipalId ≠ record.originalPrincipalId ∨ parent.tenantId ≠ record.tenantId) .identityContinuity ++
    flag (rt.casefold parent.originalRequestSha256 ≠ rt.casefold record.originalRequestSha256) .provenanceMismatch ++
    flag (record.issuedAtEpoch < parent.issuedAtEpoch ∨ record.expiresAtEpoch > parent.expiresAtEpoch) .provenanceMismatch

def authorityRisks (c : Context) (record : DelegationRecord) (delegator delegatee : AgentIdentity)
    (principalLevels : Dict Int) (parent : Option Parent) : List DelegationRisk :=
  let requested := capabilitiesOf c.manifest record.requestedCapabilityIds
  flag (∃ cap ∈ requested, above principalLevels cap) .confusedDeputy ++
    flag (¬ ∀ id ∈ record.requestedCapabilityIds, id ∈ delegatee.maximumCapabilityIds) .scopeAmplification ++
    (match parent with
    | none => []
    | some parent =>
      flag (∃ cap ∈ requested, above (maxLevelByFamily (capabilitiesOf c.manifest parent.effective)) cap)
        .capabilityLaundering) ++
    flag (¬ ∀ id ∈ record.requestedCapabilityIds, id ∈ delegator.maximumCapabilityIds) .scopeAmplification

/-- `_unsafe_p7b` and `_unsafe_p7h`. -/
def exposed (value : Json) : Prop := truthy (getattr value "exposed" (.bool false)) = true

instance (value : Json) : Decidable (exposed value) := inferInstanceAs (Decidable (_ = true))

/-- `_unsafe_p7i`. -/
def unsafeP7i (invariant : Json) : Prop :=
  rt.casefold (text rt (enumValue (getattr invariant "state" (.str "holds")))) ∈ ["degraded", "violated"]

instance (invariant : Json) : Decidable (unsafeP7i rt invariant) := inferInstanceAs (Decidable (_ ∈ _))

def evidenceRisks (c : Context) (record : DelegationRecord) (delegator delegatee : AgentIdentity) : List DelegationRisk :=
  let requested := capabilitiesOf c.manifest record.requestedCapabilityIds
  let routes := requested.flatMap (·.requiredP7hRouteIds)
  let invariants := requested.flatMap (·.requiredP7iInvariantIds)
  flag (∃ path ∈ delegator.p7bPathIds ++ delegatee.p7bPathIds, ∃ x ∈ c.upstreams.p7bPaths path, exposed x)
      .upstreamPrivilegeExposed ++
    flag (∃ cap ∈ requested, cap.privileged = true ∧ cap.requiredP7iInvariantIds = []) .architectureInvariantUnsafe ++
    flag (¬ ∀ route ∈ routes, route ∈ delegator.p7hRouteIds ++ delegatee.p7hRouteIds) .scopeAmplification ++
    flag (∃ route ∈ routes, ∃ x ∈ c.upstreams.p7hRoutes route, exposed x) .controlPlaneRouteExposed ++
    flag (∃ invariant ∈ invariants, ∃ x ∈ c.upstreams.p7iInvariants invariant, unsafeP7i rt x) .architectureInvariantUnsafe

def risksOf (c : Context) (record : DelegationRecord) (parent : Option Parent) (depth : Nat)
    (delegator delegatee : AgentIdentity) : Check (List DelegationRisk) := do
  let principalTenant ← getItem (Dict.mapping c.policy.originalPrincipalTenant) record.originalPrincipalId
  let taskClasses ← getItem (Dict.mapping c.policy.originalPrincipalAllowedTaskClasses) record.originalPrincipalId
  let principalLevels ← getItem (Dict.mapping c.policy.originalPrincipalMaxLevelByFamily) record.originalPrincipalId
  pure (depthRisks c depth delegator delegatee ++ tenantRisks c record delegator delegatee principalTenant ++
    flag (record.taskClass ∉ taskClasses) .taskNotAuthorized ++ (match parent with
    | none => []
    | some parent => continuityRisks rt parent.record record) ++
    flag (record.expiresAtEpoch ≤ c.evaluatedAtEpoch) .expired ++
    authorityRisks c record delegator delegatee (Dict.mapping principalLevels) parent ++
    evidenceRisks rt c record delegator delegatee)

/-! ## Evaluation -/

/-- What the evaluation of one delegation leaves to the others: `effective_capabilities`, `depths` and `facts`. -/
structure Memo where
  effective : Dict (List String)
  depths : Dict Nat
  facts : List DelegationSecurityFact

def factOf (c : Context) (record : DelegationRecord) (parent : Option Parent) (depth : Nat)
    (delegator delegatee : AgentIdentity) (risks : List DelegationRisk) : DelegationSecurityFact where
  delegationId := record.delegationId
  parentDelegationId := record.parentDelegationId
  originalPrincipalId := record.originalPrincipalId
  delegatorAgentId := record.delegatorAgentId
  delegateeAgentId := record.delegateeAgentId
  taskClass := record.taskClass
  tenantId := record.tenantId
  chainDepth := depth
  requestedCapabilityIds := sortedTexts record.requestedCapabilityIds
  requestedFamilies := sortedTexts ((capabilitiesOf c.manifest record.requestedCapabilityIds).map (·.family)).dedup
  decision := if DelegationRisk.sorted risks = [] then .allow else .deny
  risks := DelegationRisk.sorted risks
  effectiveDelegatorCapabilityIds := sortedTexts ((parent.map (·.effective)).getD delegator.maximumCapabilityIds)
  delegateeMaximumCapabilityIds := sortedTexts delegatee.maximumCapabilityIds
  p7bPathIds := sortedTexts (delegator.p7bPathIds ++ delegatee.p7bPathIds).dedup
  p7hRouteIds := sortedTexts ((capabilitiesOf c.manifest record.requestedCapabilityIds).flatMap (·.requiredP7hRouteIds)).dedup
  p7iInvariantIds :=
    sortedTexts ((capabilitiesOf c.manifest record.requestedCapabilityIds).flatMap (·.requiredP7iInvariantIds)).dedup

def Memo.add (memo : Memo) (record : DelegationRecord) (fact : DelegationSecurityFact) : Memo where
  effective := memo.effective.set fact.delegationId (if fact.decision = .allow then record.requestedCapabilityIds else [])
  depths := memo.depths.set fact.delegationId fact.chainDepth
  facts := memo.facts ++ [fact]

/-- The body of `evaluate_record` once the parent is evaluated. -/
def conclude (c : Context) (record : DelegationRecord) (parent : Option Parent) (memo : Memo) : Check Memo := do
  let delegator ← getItem c.manifest.agent record.delegatorAgentId
  let delegatee ← getItem c.manifest.agent record.delegateeAgentId
  let depth := (parent.map (·.depth)).getD 0 + 1
  let risks ← risksOf rt c record parent depth delegator delegatee
  pure (memo.add record (factOf c record parent depth delegator delegatee risks))

def parentIn (c : Context) (memo : Memo) (id : String) : Check Parent := do
  let record ← getItem c.manifest.delegation id
  let effective ← getItem memo.effective id
  let depth ← getItem memo.depths id
  pure ⟨record, effective, depth⟩

/-- `evaluate_record`; the first argument is how many more calls the interpreter allows. -/
def evaluateRecord (c : Context) : Nat → String → List String → Memo → Check Memo
  | 0, _, _, _ => .error .recursion
  | limit + 1, id, stack, memo =>
    if (memo.effective id).isSome then .ok memo
    else if id ∈ stack then
      .error (.rejected .delegationCycle "delegation cycle detected during evaluation" (some id))
    else do
      let record ← getItem c.manifest.delegation id
      match record.parentDelegationId with
      | none => conclude rt c record none memo
      | some parentId => do
        let memo ← evaluateRecord c limit parentId (stack ++ [id]) memo
        let parent ← parentIn c memo parentId
        conclude rt c record (some parent) memo

def evaluateAll (c : Context) (limit : Nat) (memo : Memo) : List String → Check Memo
  | [] => .ok memo
  | id :: ids => do
    let memo ← evaluateRecord rt c limit id [] memo
    evaluateAll c limit memo ids

def validateRequest (p : AgentDelegationPolicy) (request : AgentDelegationRequest) : Check Unit :=
  rejectIf (request.graphId ≠ p.expectedGraphId ∨ request.graphVersion ≠ p.expectedGraphVersion ∨
    ¬ (isSha256 rt request.graphSha256 ∧ isSha256 rt request.p7bAssessmentEvidenceSha256 ∧
      isSha256 rt request.p7hAssessmentEvidenceSha256 ∧ isSha256 rt request.p7iAssessmentEvidenceSha256) ∨
    rt.casefold request.graphSha256 ≠ rt.casefold p.expectedGraphSha256 ∨
    rt.casefold request.p7bAssessmentEvidenceSha256 ≠ rt.casefold p.expectedP7bAssessmentEvidenceSha256 ∨
    rt.casefold request.p7hAssessmentEvidenceSha256 ≠ rt.casefold p.expectedP7hAssessmentEvidenceSha256 ∨
    rt.casefold request.p7iAssessmentEvidenceSha256 ≠ rt.casefold p.expectedP7iAssessmentEvidenceSha256 ∨
    ¬ exactly request.delegationIds p.requiredDelegationIds) .requestInvalid
    "delegation request identity/evidence/scope is invalid" none

def validateDeclaredRisks (request : AgentDelegationRequest) (fact : DelegationSecurityFact) : Check Unit := do
  let declared ← getItem (Dict.mapping request.declaredRiskIdsByDelegation) fact.delegationId
  rejectIf (¬ ((∀ r ∈ declared, r ∈ fact.risks) ∧ (∀ r ∈ fact.risks, r ∈ declared) ∧ declared.Nodup)) .declaredRiskMismatch
    "caller-declared delegation risks differ from derived evidence" (some fact.delegationId)

def validateDeclared (request : AgentDelegationRequest) (facts : List DelegationSecurityFact) : Check Unit := do
  rejectIf (¬ sameSet request.declaredDeniedDelegationIds ((facts.filter (·.decision = .deny)).map (·.delegationId)))
    .declaredDecisionMismatch "caller-declared denied delegations differ from derived evidence" none
  rejectIf (¬ sameSet (request.declaredRiskIdsByDelegation.map (·.1)) request.delegationIds) .declaredRiskMismatch
    "caller risk map must exactly cover delegation IDs" none
  forEach (validateDeclaredRisks request) facts

/-- `evaluate`: the `delegations` of the assessment. No delegation is evaluated twice (`evaluateAll_facts`), so that
`by_id` has every fact. -/
def evaluate (recursionLimit : Nat) (p : AgentDelegationPolicy) (request : AgentDelegationRequest)
    (m : AgentDelegationManifest) (p7b p7h p7i : Json) : Check (List DelegationSecurityFact) := do
  validatePolicy rt p
  validateRequest rt p request
  let up ← validateUpstreams rt p p7b p7h p7i
  validateManifest rt p request m up
  let c : Context := ⟨p, request.evaluatedAtEpoch, m, up⟩
  let memo ← evaluateAll rt c recursionLimit ⟨fun _ => none, fun _ => none, []⟩ (sortedTexts (m.delegations.map (·.delegationId)))
  let facts := sortOn (·.delegationId) memo.facts
  validateDeclared request facts
  pure facts

end Aegis.Agentic.Delegation
