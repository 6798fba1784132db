/-
  Aegis.Incidents.Execution — governance decisions, execution requests and handoffs (governance.py,
  execution.py, handoff.py), as far as they touch no ledger.

  A request carries the governance record it projects, which carries the incident's history.
  `validateRequest` recomputes all their digests and compares the request with its record; it asks
  for no particular decision or state. `createRequest` and `createHandoff` do.
-/

import Aegis.Incidents.Lifecycle
import Mathlib.Data.Prod.Lex

namespace Aegis.Incidents

open Data Data.Checks
open Assurance (Runtime)

def P16_GOVERNANCE_SCHEMA_VERSION : String := "aegis-incident-governance-v1"
def P16_GOVERNANCE_DECISION_DOMAIN : String := "aegis-p16-incident-governance-decision-v1"
def P17_EXECUTION_SCHEMA_VERSION : String := "aegis-incident-execution-request-v1"
def P17_EXECUTION_REQUEST_DOMAIN : String := "aegis-p17-incident-execution-request-v1"
def P17_EXECUTION_ID_DOMAIN : String := "aegis-p17-incident-execution-identity-v1"
def P17_EXECUTION_STATUS : String := "projected"
def P18_HANDOFF_SCHEMA_VERSION : String := "aegis-response-handoff-request-v1"
def P18_HANDOFF_REQUEST_DOMAIN : String := "aegis-p18-response-handoff-request-v1"

inductive IncidentGovernanceDecision where
  | approved
  | denied
  | requiresApproval
  deriving DecidableEq, Repr

namespace IncidentGovernanceDecision

def value : IncidentGovernanceDecision → String
  | approved => "approved"
  | denied => "denied"
  | requiresApproval => "requires_approval"

end IncidentGovernanceDecision

structure IncidentGovernanceRecord where
  lifecycle : IncidentLifecycleRecord
  tenantRef : String
  workloadRef : String
  requestedAction : String
  decision : IncidentGovernanceDecision
  decisionSha256 : String
  schemaVersion : String := P16_GOVERNANCE_SCHEMA_VERSION

def IncidentGovernanceRecord.incidentId (g : IncidentGovernanceRecord) : String := g.lifecycle.incidentId

structure IncidentExecutionRequest where
  governance : IncidentGovernanceRecord
  incidentId : String
  governanceDecision : IncidentGovernanceDecision
  lifecycleState : IncidentLifecycleState
  requestedAction : String
  evidenceReferences : List (String × String)
  policyReferences : List String
  provenanceReferences : List String
  requestSha256 : String
  schemaVersion : String := P17_EXECUTION_SCHEMA_VERSION

structure IncidentExecutionResult where
  incidentId : String
  governanceDecisionReference : String
  requestedAction : String
  policyReferences : List String
  evidenceReferences : List (String × String)
  executionIdentity : String
  status : String := P17_EXECUTION_STATUS
  schemaVersion : String := P17_EXECUTION_SCHEMA_VERSION
  deriving DecidableEq, Repr

structure IncidentResponseHandoffRequest where
  execution : IncidentExecutionRequest
  handoffId : String
  incidentId : String
  executionRequestSha256 : String
  governanceDecision : IncidentGovernanceDecision
  lifecycleState : IncidentLifecycleState
  evidenceReferences : List (String × String)
  policyReferences : List String
  provenanceReferences : List String
  requestedAction : String
  schemaVersion : String := P18_HANDOFF_SCHEMA_VERSION

section
variable (rt : Runtime)

/-! ## Governance -/

def governanceMaterial (lifecycle : IncidentLifecycleRecord) (tenantRef workloadRef requestedAction : String)
    (decision : IncidentGovernanceDecision) : Json := .obj [
  ("decision", .str decision.value), ("domain", .str P16_GOVERNANCE_DECISION_DOMAIN),
  ("incident_id", .str lifecycle.incidentId), ("intake_root_sha256", .str (rt.casefold lifecycle.intakeRootSha256)),
  ("lifecycle_head_sha256", .str (rt.casefold (head lifecycle))), ("lifecycle_state", .str lifecycle.state.value),
  ("requested_action", .str requestedAction), ("tenant_ref", .str tenantRef), ("workload_ref", .str workloadRef)]

/-- `governance_decision_digest`, which every caller gives the fields of a lifecycle record. -/
def governanceDecisionDigest (lifecycle : IncidentLifecycleRecord) (tenantRef workloadRef requestedAction : String)
    (decision : IncidentGovernanceDecision) : String :=
  rt.sha256 (governanceMaterial rt lifecycle tenantRef workloadRef requestedAction decision)

/-- `IncidentGovernanceBoundary.evaluate`. -/
def evaluateGovernance (lifecycle : IncidentLifecycleRecord) (tenantRef workloadRef requestedAction : String)
    (policyDecision : IncidentGovernanceDecision) : Checked IncidentGovernanceRecord := do
  validateRecord rt lifecycle
  raiseIf (lifecycle.state = .closed) "CLOSED_INCIDENT_ACTION_REJECTED"
  raiseIf (tenantRef ≠ lifecycle.intake.tenantRef) "INCIDENT_GOVERNANCE_TENANT_MISMATCH"
  raiseIf (workloadRef ≠ lifecycle.intake.workloadRef) "INCIDENT_GOVERNANCE_WORKLOAD_MISMATCH"
  raiseIf (requestedAction = "") "INCIDENT_GOVERNANCE_ACTION_REQUIRED"
  return {
    lifecycle
    tenantRef
    workloadRef
    requestedAction
    decision := policyDecision
    decisionSha256 := governanceDecisionDigest rt lifecycle tenantRef workloadRef requestedAction policyDecision }

/-- `_validate_governance`; the head of the incident's history. -/
def validateGovernance (g : IncidentGovernanceRecord) : Checked String := do
  raiseIf (g.incidentId = "") "INCIDENT_EXECUTION_INCIDENT_ID_REQUIRED"
  validateRecord rt g.lifecycle
  raiseIf (g.schemaVersion ≠ P16_GOVERNANCE_SCHEMA_VERSION) "INCIDENT_GOVERNANCE_SCHEMA_INVALID"
  raiseIf (g.tenantRef ≠ g.lifecycle.intake.tenantRef) "INCIDENT_GOVERNANCE_TENANT_MISMATCH"
  raiseIf (g.workloadRef ≠ g.lifecycle.intake.workloadRef) "INCIDENT_GOVERNANCE_WORKLOAD_MISMATCH"
  raiseIf (g.requestedAction = "") "INCIDENT_GOVERNANCE_ACTION_REQUIRED"
  raiseIf (g.decisionSha256 = "" ∨ rt.casefold g.decisionSha256 ≠
    governanceDecisionDigest rt g.lifecycle g.tenantRef g.workloadRef g.requestedAction g.decision)
    "INCIDENT_GOVERNANCE_RECORD_INVALID"
  return rt.casefold (head g.lifecycle)

/-! ## Execution requests -/

def executionRequestMaterial (incidentId : String) (governanceDecision : IncidentGovernanceDecision)
    (governanceDecisionSha256 : String) (lifecycleState : IncidentLifecycleState)
    (lifecycleHeadSha256 intakeRootSha256 tenantRef workloadRef requestedAction : String)
    (evidenceReferences : List (String × String)) : Json := .obj [
  ("domain", .str P17_EXECUTION_REQUEST_DOMAIN), ("evidence_references", references evidenceReferences),
  ("governance_decision", .str governanceDecision.value),
  ("governance_decision_sha256", .str (rt.casefold governanceDecisionSha256)), ("incident_id", .str incidentId),
  ("intake_root_sha256", .str (rt.casefold intakeRootSha256)),
  ("lifecycle_head_sha256", .str (rt.casefold lifecycleHeadSha256)), ("lifecycle_state", .str lifecycleState.value),
  ("requested_action", .str requestedAction), ("tenant_ref", .str tenantRef), ("workload_ref", .str workloadRef)]

def executionRequestDigest (incidentId : String) (governanceDecision : IncidentGovernanceDecision)
    (governanceDecisionSha256 : String) (lifecycleState : IncidentLifecycleState)
    (lifecycleHeadSha256 intakeRootSha256 tenantRef workloadRef requestedAction : String)
    (evidenceReferences : List (String × String)) : String :=
  rt.sha256 (executionRequestMaterial rt incidentId governanceDecision governanceDecisionSha256 lifecycleState
    lifecycleHeadSha256 intakeRootSha256 tenantRef workloadRef requestedAction evidenceReferences)

/-- The digest that a request should have, with the head of the incident's history. -/
def IncidentExecutionRequest.digest (request : IncidentExecutionRequest) (lifecycleHead : String) : String :=
  executionRequestDigest rt request.incidentId request.governanceDecision request.governance.decisionSha256
    request.lifecycleState lifecycleHead request.governance.lifecycle.intakeRootSha256 request.governance.tenantRef
    request.governance.workloadRef request.requestedAction request.evidenceReferences

def validateRequest (request : IncidentExecutionRequest) : Checked Unit := do
  let lifecycleHead ← validateGovernance rt request.governance
  let governance := request.governance
  raiseIf (request.schemaVersion ≠ P17_EXECUTION_SCHEMA_VERSION ∨ request.incidentId ≠ governance.incidentId ∨
    request.governanceDecision ≠ governance.decision ∨ request.lifecycleState ≠ governance.lifecycle.state ∨
    request.requestedAction ≠ governance.requestedAction ∨
    request.evidenceReferences ≠ governance.lifecycle.intake.evidenceReferences ∨
    request.policyReferences ≠ [rt.casefold governance.decisionSha256] ∨
    request.provenanceReferences ≠ [rt.casefold governance.lifecycle.intakeRootSha256, lifecycleHead])
    "INCIDENT_EXECUTION_REQUEST_INVALID"
  raiseIf (rt.casefold request.requestSha256 ≠ request.digest rt lifecycleHead) "INCIDENT_EXECUTION_REQUEST_INVALID"

/-- What `create_request` makes of a record and the head of its history. -/
def project (governance : IncidentGovernanceRecord) (lifecycleHead : String) : IncidentExecutionRequest where
  governance := governance
  incidentId := governance.incidentId
  governanceDecision := governance.decision
  lifecycleState := governance.lifecycle.state
  requestedAction := governance.requestedAction
  evidenceReferences := governance.lifecycle.intake.evidenceReferences
  policyReferences := [rt.casefold governance.decisionSha256]
  provenanceReferences := [rt.casefold governance.lifecycle.intakeRootSha256, lifecycleHead]
  requestSha256 := executionRequestDigest rt governance.incidentId governance.decision governance.decisionSha256
    governance.lifecycle.state lifecycleHead governance.lifecycle.intakeRootSha256 governance.tenantRef
    governance.workloadRef governance.requestedAction governance.lifecycle.intake.evidenceReferences

/-- `IncidentExecutionBoundary.create_request`. -/
def createRequest (governance : IncidentGovernanceRecord) : Checked IncidentExecutionRequest := do
  let lifecycleHead ← validateGovernance rt governance
  raiseIf (governance.lifecycle.state = .closed) "CLOSED_INCIDENT_EXECUTION_REJECTED"
  raiseIf (governance.decision = .denied) "DENIED_GOVERNANCE_EXECUTION_REJECTED"
  raiseIf (governance.decision ≠ .approved) "INCIDENT_EXECUTION_APPROVAL_REQUIRED"
  return project rt governance lifecycleHead

/-! ## Identities -/

/-- Tuples compare item by item. -/
def pairKey (p : String × String) : Lex (String × String) := toLex p

def canonicalStrings (values : List String) (error : String) : Checked (List String) := do
  raiseIf (values = [] ∨ "" ∈ values) error
  return sortOn id values.dedup

def canonicalEvidence (values : List (String × String)) : Checked (List (String × String)) := do
  raiseIf (values = [] ∨ ∃ p ∈ values, p.1 = "" ∨ p.2 = "") "INCIDENT_EXECUTION_EVIDENCE_REQUIRED"
  return sortOn pairKey values.dedup

def identityMaterial (incidentId governanceDecisionReference requestedAction : String) (policy : List String)
    (evidence : List (String × String)) : Json := .obj [
  ("domain", .str P17_EXECUTION_ID_DOMAIN), ("evidence_references", references evidence),
  ("governance_decision_reference", .str (rt.casefold governanceDecisionReference)), ("incident_id", .str incidentId),
  ("policy_references", .arr (policy.map .str)), ("requested_action", .str requestedAction)]

def executionIdentity (incidentId governanceDecisionReference requestedAction : String) (policyReferences : List String)
    (evidenceReferences : List (String × String)) : Checked String := do
  raiseIf (incidentId = "") "INCIDENT_EXECUTION_INCIDENT_ID_REQUIRED"
  let evidence ← canonicalEvidence evidenceReferences
  let policy ← canonicalStrings policyReferences "INCIDENT_EXECUTION_POLICY_REQUIRED"
  return "execution-" ++ rt.sha256 (identityMaterial rt incidentId governanceDecisionReference requestedAction policy evidence)

namespace IncidentExecutionRequest

variable (request : IncidentExecutionRequest)

def governanceDecisionReference : String := rt.casefold request.governance.decisionSha256

def executionIdentity : Checked String :=
  Incidents.executionIdentity rt request.incidentId (request.governanceDecisionReference rt) request.requestedAction
    request.policyReferences request.evidenceReferences

end IncidentExecutionRequest

/-! ## Handoffs -/

/-- `_validate_execution_request`. -/
def validateExecutionRequest (request : IncidentExecutionRequest) : Checked Unit := do
  let lifecycleHead ← validateGovernance rt request.governance
  let lifecycle := request.governance.lifecycle
  raiseIf (request.schemaVersion ≠ P17_EXECUTION_SCHEMA_VERSION ∨ request.incidentId ≠ request.governance.incidentId ∨
    request.governanceDecision ≠ request.governance.decision ∨ request.lifecycleState ≠ lifecycle.state ∨
    request.requestedAction ≠ request.governance.requestedAction ∨
    request.evidenceReferences ≠ lifecycle.intake.evidenceReferences ∨
    request.policyReferences ≠ [rt.casefold request.governance.decisionSha256] ∨
    request.provenanceReferences ≠ [rt.casefold lifecycle.intakeRootSha256, lifecycleHead])
    "INCIDENT_EXECUTION_REQUEST_INVALID"
  raiseIf (rt.casefold request.requestSha256 ≠ request.digest rt lifecycleHead) "INCIDENT_EXECUTION_REQUEST_INVALID"

def handoffMaterial (execution : IncidentExecutionRequest) : Json := .obj [
  ("domain", .str P18_HANDOFF_REQUEST_DOMAIN), ("evidence_references", references execution.evidenceReferences),
  ("execution_request_sha256", .str (rt.casefold execution.requestSha256)),
  ("governance_decision", .str execution.governanceDecision.value), ("incident_id", .str execution.incidentId),
  ("lifecycle_state", .str execution.lifecycleState.value),
  ("policy_references", .arr (execution.policyReferences.map .str)),
  ("provenance_references", .arr (execution.provenanceReferences.map .str)),
  ("requested_action", .str execution.requestedAction)]

def handoff (execution : IncidentExecutionRequest) : IncidentResponseHandoffRequest where
  execution := execution
  handoffId := "handoff-" ++ rt.sha256 (handoffMaterial rt execution)
  incidentId := execution.incidentId
  executionRequestSha256 := rt.casefold execution.requestSha256
  governanceDecision := execution.governanceDecision
  lifecycleState := execution.lifecycleState
  evidenceReferences := execution.evidenceReferences
  policyReferences := execution.policyReferences
  provenanceReferences := execution.provenanceReferences
  requestedAction := execution.requestedAction

/-- `IncidentResponseHandoffBoundary.create_handoff`. -/
def createHandoff (execution : IncidentExecutionRequest) : Checked IncidentResponseHandoffRequest := do
  validateExecutionRequest rt execution
  raiseIf (execution.governanceDecision ≠ .approved) "INCIDENT_HANDOFF_APPROVED_EXECUTION_REQUIRED"
  raiseIf (execution.lifecycleState = .closed) "CLOSED_INCIDENT_HANDOFF_REJECTED"
  return handoff rt execution

/-- What `_validate_governance` accepts. -/
structure IncidentGovernanceRecord.Valid (g : IncidentGovernanceRecord) : Prop where
  incidentId : g.incidentId ≠ ""
  lifecycle : g.lifecycle.Valid rt
  schemaVersion : g.schemaVersion = P16_GOVERNANCE_SCHEMA_VERSION
  tenantRef : g.tenantRef = g.lifecycle.intake.tenantRef
  workloadRef : g.workloadRef = g.lifecycle.intake.workloadRef
  requestedAction : g.requestedAction ≠ ""
  decisionSha256 : g.decisionSha256 ≠ ""
  digest : rt.casefold g.decisionSha256 = governanceDecisionDigest rt g.lifecycle g.tenantRef g.workloadRef g.requestedAction g.decision

/-- What `_validate_request` accepts. -/
structure IncidentExecutionRequest.Valid (request : IncidentExecutionRequest) : Prop where
  governance : request.governance.Valid rt
  schemaVersion : request.schemaVersion = P17_EXECUTION_SCHEMA_VERSION
  incidentId : request.incidentId = request.governance.incidentId
  governanceDecision : request.governanceDecision = request.governance.decision
  lifecycleState : request.lifecycleState = request.governance.lifecycle.state
  requestedAction : request.requestedAction = request.governance.requestedAction
  evidenceReferences : request.evidenceReferences = request.governance.lifecycle.intake.evidenceReferences
  policyReferences : request.policyReferences = [rt.casefold request.governance.decisionSha256]
  provenanceReferences : request.provenanceReferences =
    [rt.casefold request.governance.lifecycle.intakeRootSha256, rt.casefold (head request.governance.lifecycle)]
  digest : rt.casefold request.requestSha256 = request.digest rt (rt.casefold (head request.governance.lifecycle))

end

section
variable {rt : Runtime} {g : IncidentGovernanceRecord} {request : IncidentExecutionRequest} {lifecycle : IncidentLifecycleRecord}
  {tenantRef workloadRef requestedAction : String} {decision : IncidentGovernanceDecision}

theorem validateGovernance_ok {s : String} :
    validateGovernance rt g = .ok s ↔ g.Valid rt ∧ rt.casefold (head g.lifecycle) = s := by
  simp only [validateGovernance, ok_seq, raiseIf_ok, not_or, not_not, validateRecord_ok]
  constructor
  · rintro ⟨h1, h2, h3, h4, h5, h6, ⟨h7, h8⟩, h9⟩
    exact ⟨⟨h1, h2, h3, h4, h5, h6, h7, h8⟩, Except.ok.inj h9⟩
  · rintro ⟨⟨h1, h2, h3, h4, h5, h6, h7, h8⟩, h9⟩
    exact ⟨h1, h2, h3, h4, h5, h6, ⟨h7, h8⟩, congrArg _ h9⟩

theorem validateRequest_ok : validateRequest rt request = .ok () ↔ request.Valid rt := by
  simp only [validateRequest]
  rw [ok_bind]
  simp only [validateGovernance_ok, ok_seq, raiseIf_ok, not_or, not_not]
  constructor
  · rintro ⟨head, ⟨hg, rfl⟩, ⟨h1, h2, h3, h4, h5, h6, h7, h8⟩, h9⟩
    exact ⟨hg, h1, h2, h3, h4, h5, h6, h7, h8, h9⟩
  · rintro ⟨hg, h1, h2, h3, h4, h5, h6, h7, h8, h9⟩
    exact ⟨_, ⟨hg, rfl⟩, ⟨h1, h2, h3, h4, h5, h6, h7, h8⟩, h9⟩

/-- The two validators of requests make the same checks. -/
theorem validateExecutionRequest_eq : validateExecutionRequest rt request = validateRequest rt request := rfl

/-- What the boundaries before it return, a boundary accepts. -/
theorem evaluateGovernance_valid (hl : Lowercase rt)
    (h : evaluateGovernance rt lifecycle tenantRef workloadRef requestedAction decision = .ok g) :
    g.Valid rt ∧ g.lifecycle = lifecycle ∧ g.decision = decision := by
  simp only [evaluateGovernance, ok_seq, raiseIf_ok, not_not, validateRecord_ok] at h
  obtain ⟨hvalid, -, htenant, hworkload, haction, h⟩ := h
  obtain rfl := Except.ok.inj h
  have hincident : lifecycle.incidentId ≠ "" := by
    have hintake := hvalid.intake
    simp only [validateIntake, raiseIf_ok, not_or] at hintake
    exact hintake.1
  refine ⟨⟨hincident, hvalid, rfl, htenant, hworkload, haction, ?_, hl.digest _⟩, rfl, rfl⟩
  exact ne_empty_of_not_blank (rt.sha256_not_blank _)

theorem project_valid (hl : Lowercase rt) (h : g.Valid rt) : (project rt g (rt.casefold (head g.lifecycle))).Valid rt :=
  ⟨h, rfl, rfl, rfl, rfl, rfl, rfl, rfl, rfl, hl.digest _⟩

theorem createHandoff_ok : (∃ h, createHandoff rt request = .ok h) ↔ request.Valid rt ∧ request.governance.decision = .approved ∧
    request.governance.lifecycle.state ≠ .closed := by
  simp only [createHandoff, ok_seq, raiseIf_ok, not_not, validateExecutionRequest_eq, validateRequest_ok]
  constructor
  · rintro ⟨h, hvalid, happroved, hopen, -⟩
    exact ⟨hvalid, hvalid.governanceDecision ▸ happroved, hvalid.lifecycleState ▸ hopen⟩
  · rintro ⟨hvalid, happroved, hopen⟩
    exact ⟨_, hvalid, hvalid.governanceDecision.trans happroved, hvalid.lifecycleState ▸ hopen, rfl⟩

end

/-! ## An action on the incident -/

namespace Sample

variable {rt : Runtime} {decision : IncidentGovernanceDecision}

/-- The decision on an action. -/
def governance (rt : Runtime) (decision : IncidentGovernanceDecision) : IncidentGovernanceRecord where
  lifecycle := opened rt
  tenantRef := "tenant"
  workloadRef := "workload"
  requestedAction := "isolate-workload"
  decision := decision
  decisionSha256 := governanceDecisionDigest rt (opened rt) "tenant" "workload" "isolate-workload" decision

theorem evaluated (hl : Lowercase rt) :
    evaluateGovernance rt (opened rt) "tenant" "workload" "isolate-workload" decision = .ok (governance rt decision) := by
  simp only [evaluateGovernance, ok_seq, raiseIf_ok, validateRecord_ok]
  exact ⟨opened_valid hl, (by decide : IncidentLifecycleState.open ≠ .closed), fun h => h rfl, fun h => h rfl, by simp, rfl⟩

theorem governance_valid (hl : Lowercase rt) : (governance rt decision).Valid rt := (evaluateGovernance_valid hl (evaluated hl)).1

/-- The request that projects it. -/
def request (rt : Runtime) (decision : IncidentGovernanceDecision) : IncidentExecutionRequest :=
  project rt (governance rt decision) (rt.casefold (head (opened rt)))

theorem request_valid (hl : Lowercase rt) : (request rt decision).Valid rt := project_valid hl (governance_valid hl)

end Sample

end Aegis.Incidents
