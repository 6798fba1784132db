/-
  Aegis.Assurance.Waivers — the P6-B gate, which governs exceptions to a release's regressions
  (waiver_governance.py).

  An invariant registry names an owner for every case of the corpus. A release whose evidence shows
  that an attack case is no longer blocked passes only with one waiver for each such case, bound to
  the case, its owner and the release, of limited duration and approved by the roles that the policy
  asks for its severity.
-/

import Aegis.Assurance.Regression
import Mathlib.Data.Prod.Lex

namespace Aegis.Assurance

open Data Data.Checks

def P6A_EVIDENCE_SCHEMA_VERSION : String := "aegis-security-regression-evidence-v1"
def P6B_WAIVER_POLICY_VERSION : String := "security-invariant-waiver-governance-v1"
def P6B_INVARIANT_REGISTRY_SCHEMA_VERSION : String := "aegis-security-invariant-registry-v1"
def P6B_WAIVER_SCHEMA_VERSION : String := "aegis-security-waiver-v1"

/-! ## Release evidence (P6-A) -/

structure CaseObservation where
  caseId : String
  caseDefinitionSha256 : String
  observedOutcome : AssuranceExpectation

structure ReleaseAssuranceEvidence where
  releaseId : String
  commitSha : String
  packageVersion : String
  corpusSha256 : String
  runnerId : String
  results : List CaseObservation
  schemaVersion : String

/-- `observations[case_id].observed_outcome`. -/
def observed (results : List CaseObservation) (caseId : String) : Option AssuranceExpectation :=
  (results.find? fun r => r.caseId = caseId).map (·.observedOutcome)

section
variable (rt : Runtime)

def canonicalObservation (r : CaseObservation) : Json := .obj [
  ("case_definition_sha256", .str (rt.casefold r.caseDefinitionSha256)), ("case_id", .str r.caseId),
  ("observed_outcome", .str r.observedOutcome.value)]

def canonicalObservations (results : List CaseObservation) : Json :=
  .arr ((sortOn CaseObservation.caseId results).map (canonicalObservation rt))

def canonicalReleaseEvidence (e : ReleaseAssuranceEvidence) : Json := .obj [
  ("commit_sha", .str (rt.casefold e.commitSha)), ("corpus_sha256", .str (rt.casefold e.corpusSha256)),
  ("package_version", .str e.packageVersion), ("release_id", .str e.releaseId),
  ("results", canonicalObservations rt e.results), ("runner_id", .str e.runnerId),
  ("schema_version", .str e.schemaVersion)]

def releaseEvidenceDigest (e : ReleaseAssuranceEvidence) : String := rt.sha256 (canonicalReleaseEvidence rt e)

end

/-! ## The invariant registry -/

structure InvariantRecord where
  caseId : String
  caseDefinitionSha256 : String
  ownerId : String
  severity : AssuranceSeverity

structure InvariantRegistry where
  registryId : String
  version : String
  corpusSha256 : String
  records : List InvariantRecord
  schemaVersion : String

/-- `records[case_id]`. -/
def InvariantRegistry.find (registry : InvariantRegistry) (caseId : String) : Option InvariantRecord :=
  registry.records.find? fun r => r.caseId = caseId

section
variable (rt : Runtime)

def canonicalRecord (r : InvariantRecord) : Json := .obj [
  ("case_definition_sha256", .str (rt.casefold r.caseDefinitionSha256)), ("case_id", .str r.caseId),
  ("owner_id", .str r.ownerId), ("severity", .str r.severity.value)]

def canonicalInvariantRegistry (registry : InvariantRegistry) : Json := .obj [
  ("corpus_sha256", .str (rt.casefold registry.corpusSha256)),
  ("records", .arr ((sortOn InvariantRecord.caseId registry.records).map (canonicalRecord rt))),
  ("registry_id", .str registry.registryId), ("schema_version", .str registry.schemaVersion),
  ("version", .str registry.version)]

def invariantRegistryDigest (registry : InvariantRegistry) : String := rt.sha256 (canonicalInvariantRegistry rt registry)

end

namespace Waivers

inductive WaiverGovernanceRejectReason where
  | corpusInvalid
  | corpusDigestMismatch
  | registryInvalid
  | registryDigestMismatch
  | invariantDrift
  | invariantOwnerMismatch
  | candidateEvidenceInvalid
  | candidateIdentityMismatch
  | runnerUntrusted
  | caseCoverageMismatch
  | caseDefinitionMismatch
  | waiverInvalid
  | waiverDuplicate
  | waiverScopeMismatch
  | waiverExpired
  | waiverNotYetValid
  | waiverDurationExceeded
  | waiverSeverityDowngrade
  | waiverNotPermitted
  | approverUntrusted
  | ownerApprovalMismatch
  | approvalInsufficient
  | regressionUnwaived
  | safeTaskRegression
  deriving DecidableEq, Repr

/-- What `evaluate` raises: `WaiverGovernanceRejected`, or a KeyError. -/
inductive Error where
  | rejected (reason : WaiverGovernanceRejectReason) (message : String) (caseId waiverId : Option String)
  | key (k : String)
  deriving DecidableEq, Repr

abbrev Gate (α : Type) := Except Error α

structure WaiverApproval where
  approverId : String
  role : String
  approvedAtEpoch : Int
  deriving DecidableEq

structure SecurityWaiver where
  waiverId : String
  caseId : String
  caseDefinitionSha256 : String
  ownerId : String
  severity : AssuranceSeverity
  candidateReleaseId : String
  candidateCommitSha : String
  candidatePackageVersion : String
  corpusSha256 : String
  candidateEvidenceSha256 : String
  reason : String
  trackingRef : String
  issuedAtEpoch : Int
  expiresAtEpoch : Int
  approvals : List WaiverApproval
  schemaVersion : String

structure WaiverGovernanceRequest where
  candidateReleaseId : String
  candidateCommitSha : String
  candidatePackageVersion : String
  corpusSha256 : String
  candidateEvidenceSha256 : String
  evaluatedAtEpoch : Int

/-- Mappings are lists of their items. -/
structure WaiverGovernancePolicy where
  expectedCorpusSha256 : String
  expectedRegistrySha256 : String
  expectedOwnerByCase : List (String × String)
  trustedRunnerIds : List String
  trustedApproversByRole : List (String × List String)
  requiredRolesBySeverity : List (AssuranceSeverity × List String)
  maxWaiverSecondsBySeverity : List (AssuranceSeverity × Int)
  waivableSeverities : List AssuranceSeverity

structure VerifiedWaiverGovernance where
  candidateReleaseId : String
  candidateCommitSha : String
  candidatePackageVersion : String
  corpusSha256 : String
  registrySha256 : String
  candidateEvidenceSha256 : String
  regressionCaseIds : List String
  approvedWaiverIds : List String
  approvedWaivedCaseIds : List String
  waiverCount : Int
  highWaiverCount : Int
  mediumWaiverCount : Int
  lowWaiverCount : Int
  criticalWaiverCount : Int
  earliestExpiryEpoch : Option Int
  governanceEvidenceSha256 : String
  invariantDefinitionsVerified : Bool
  invariantOwnershipVerified : Bool
  exactRegressionScopeVerified : Bool
  expiryVerified : Bool
  approvalRolesVerified : Bool
  severityDowngradePrevented : Bool
  criticalWaiversPermitted : Bool

section
variable (rt : Runtime)

/-! ## Canonical documents -/

def canonicalApproval (a : WaiverApproval) : Json := .obj [
  ("approved_at_epoch", .int a.approvedAtEpoch), ("approver_id", .str a.approverId), ("role", .str a.role)]

/-- `key=lambda item: (item.role, item.approver_id, item.approved_at_epoch)`. -/
def approvalKey (a : WaiverApproval) : Lex (String × Lex (String × Int)) := toLex (a.role, toLex (a.approverId, a.approvedAtEpoch))

def canonicalWaiver (w : SecurityWaiver) : Json := .obj [
  ("approvals", .arr ((sortOn approvalKey w.approvals).map canonicalApproval)),
  ("candidate_commit_sha", .str (rt.casefold w.candidateCommitSha)),
  ("candidate_evidence_sha256", .str (rt.casefold w.candidateEvidenceSha256)),
  ("candidate_package_version", .str w.candidatePackageVersion), ("candidate_release_id", .str w.candidateReleaseId),
  ("case_definition_sha256", .str (rt.casefold w.caseDefinitionSha256)), ("case_id", .str w.caseId),
  ("corpus_sha256", .str (rt.casefold w.corpusSha256)), ("expires_at_epoch", .int w.expiresAtEpoch),
  ("issued_at_epoch", .int w.issuedAtEpoch), ("owner_id", .str w.ownerId), ("reason", .str w.reason),
  ("schema_version", .str w.schemaVersion), ("severity", .str w.severity.value), ("tracking_ref", .str w.trackingRef),
  ("waiver_id", .str w.waiverId)]

def waiverDigest (w : SecurityWaiver) : String := rt.sha256 (canonicalWaiver rt w)

/-! ## Validation -/

def reject (reason : WaiverGovernanceRejectReason) (message : String) : Error := .rejected reason message none none

def rejectCase (reason : WaiverGovernanceRejectReason) (message caseId : String) : Error := .rejected reason message (some caseId) none

/-- `x or None`. -/
def orNone (s : String) : Option String := if s = "" then none else some s

def validateCorpus (corpus : AssuranceCorpus) (policy : WaiverGovernancePolicy) : Gate Unit := do
  Assurance.validateCorpus (reject .corpusInvalid "assurance corpus metadata is invalid")
    (fun c => .rejected .corpusInvalid "assurance corpus contains an invalid case definition" (orNone c.caseId) none)
    (fun c => rejectCase .corpusInvalid "assurance corpus contains duplicate case IDs" c.caseId) corpus
  raiseIf (¬ isSha256 rt policy.expectedCorpusSha256 ∨ corpusDigest rt corpus ≠ rt.casefold policy.expectedCorpusSha256)
    (reject .corpusDigestMismatch "assurance corpus does not match the waiver-policy pin")

def validateRecord (registry : InvariantRegistry) (policy : WaiverGovernancePolicy) (c : AssuranceCase) : Gate Unit := do
  let record ← orRaise (.key c.caseId) (registry.find c.caseId)
  raiseIf (rt.casefold record.caseDefinitionSha256 ≠ caseDefinitionDigest rt c ∨ record.severity ≠ c.severity)
    (rejectCase .invariantDrift "registry definition or severity drifted from the immutable corpus case" c.caseId)
  let expectedOwner ← orRaise (.key c.caseId) (policy.expectedOwnerByCase.lookup c.caseId)
  raiseIf (expectedOwner = "" ∨ record.ownerId ≠ expectedOwner)
    (rejectCase .invariantOwnerMismatch "security invariant owner does not match the policy-pinned owner" c.caseId)

def validateRegistry (registry : InvariantRegistry) (corpus : AssuranceCorpus) (policy : WaiverGovernancePolicy) : Gate Unit := do
  raiseIf (registry.schemaVersion ≠ P6B_INVARIANT_REGISTRY_SCHEMA_VERSION ∨ registry.registryId = "" ∨
    registry.version = "" ∨ ¬ isSha256 rt registry.corpusSha256 ∨ registry.records = [])
    (reject .registryInvalid "security invariant registry metadata is invalid")
  raiseIf (rt.casefold registry.corpusSha256 ≠ corpusDigest rt corpus)
    (reject .invariantDrift "security invariant registry is not bound to the exact assurance corpus")
  scan (fun seen r => do
    raiseIf (r.caseId = "" ∨ r.ownerId = "" ∨ ¬ isSha256 rt r.caseDefinitionSha256)
      (.rejected .registryInvalid "security invariant registry contains an invalid record" (orNone r.caseId) none)
    raiseIf (r.caseId ∈ seen.map InvariantRecord.caseId)
      (rejectCase .registryInvalid "security invariant registry contains duplicate case IDs" r.caseId)) [] registry.records
  raiseIf (¬ Agentic.sameSet (registry.records.map InvariantRecord.caseId) corpus.ids)
    (reject .invariantDrift "security invariant registry must exactly cover the assurance corpus")
  raiseIf (¬ Agentic.sameSet (policy.expectedOwnerByCase.map Prod.fst) corpus.ids)
    (reject .registryInvalid "waiver policy must pin one invariant owner for every corpus case")
  forEach (validateRecord rt registry policy) (sortOn AssuranceCase.caseId corpus.cases)
  raiseIf (¬ isSha256 rt policy.expectedRegistrySha256 ∨
    invariantRegistryDigest rt registry ≠ rt.casefold policy.expectedRegistrySha256)
    (reject .registryDigestMismatch "security invariant registry does not match the policy-pinned digest")

def validateCandidateEvidence (evidence : ReleaseAssuranceEvidence) (corpus : AssuranceCorpus) (policy : WaiverGovernancePolicy) :
    Gate Unit := do
  raiseIf (evidence.schemaVersion ≠ P6A_EVIDENCE_SCHEMA_VERSION ∨ evidence.releaseId = "" ∨ evidence.packageVersion = "" ∨
    ¬ isSha256 rt evidence.commitSha ∨ ¬ isSha256 rt evidence.corpusSha256)
    (reject .candidateEvidenceInvalid "candidate assurance evidence metadata is invalid")
  raiseIf (rt.casefold evidence.corpusSha256 ≠ corpusDigest rt corpus)
    (reject .candidateIdentityMismatch "candidate assurance evidence does not bind to the exact corpus")
  raiseIf (evidence.runnerId ∉ policy.trustedRunnerIds)
    (reject .runnerUntrusted "candidate assurance evidence came from an untrusted deterministic runner ID")
  scan (fun seen r => do
    raiseIf (r.caseId ∈ seen.map CaseObservation.caseId)
      (rejectCase .caseCoverageMismatch "candidate assurance evidence contains a duplicate case result" r.caseId)
    let c ← orRaise (rejectCase .caseCoverageMismatch "candidate assurance evidence contains an unknown case result" r.caseId)
      (corpus.find r.caseId)
    raiseIf (¬ isSha256 rt r.caseDefinitionSha256 ∨ rt.casefold r.caseDefinitionSha256 ≠ caseDefinitionDigest rt c)
      (rejectCase .caseDefinitionMismatch "candidate case result does not bind to the immutable case definition" r.caseId))
    [] evidence.results
  raiseIf (¬ Agentic.sameSet (evidence.results.map CaseObservation.caseId) corpus.ids)
    (reject .caseCoverageMismatch "candidate assurance evidence must exactly cover the assurance corpus")

/-- `for severity in AssuranceSeverity`. -/
def severities : List AssuranceSeverity := [.critical, .high, .medium, .low]

def validatePolicy (policy : WaiverGovernancePolicy) : Gate Unit := do
  raiseIf (policy.trustedRunnerIds = [] ∨ policy.waivableSeverities = [])
    (reject .registryInvalid "waiver policy trust sets are empty")
  forEach (fun severity => do
    raiseIf ((policy.requiredRolesBySeverity.lookup severity).isNone = true)
      (reject .registryInvalid "waiver policy must define approval roles for every severity")
    let limit ← orRaise (reject .registryInvalid "waiver policy must define maximum duration for every severity")
      (policy.maxWaiverSecondsBySeverity.lookup severity)
    raiseIf (limit ≤ 0) (reject .registryInvalid "waiver policy duration limits must be positive")) severities
  forEach (fun item => raiseIf (item.1 = "" ∨ item.2 = [])
    (reject .registryInvalid "trusted waiver-approver role mappings may not be empty")) policy.trustedApproversByRole

def validateApproval (w : SecurityWaiver) (c : AssuranceCase) (record : InvariantRecord) (policy : WaiverGovernancePolicy)
    (seen : List WaiverApproval) (a : WaiverApproval) : Gate Unit := do
  let rejected := fun reason message => Error.rejected reason message (some c.caseId) (some w.waiverId)
  raiseIf (a.approverId = "" ∨ a.role = "" ∨ a.approvedAtEpoch ≤ 0 ∨ a.approvedAtEpoch > w.issuedAtEpoch)
    (rejected .waiverInvalid "security waiver contains invalid or post-issuance approval evidence")
  raiseIf ((a.role, a.approverId) ∈ seen.map fun b => (b.role, b.approverId))
    (rejected .waiverInvalid "security waiver contains duplicate approval evidence")
  raiseIf (a.approverId ∉ (policy.trustedApproversByRole.lookup a.role).getD [])
    (rejected .approverUntrusted "security waiver approval came from an untrusted approver for the declared role")
  raiseIf (a.role = "invariant_owner" ∧ a.approverId ≠ record.ownerId)
    (rejected .ownerApprovalMismatch "invariant-owner approval must come from the exact policy-pinned owner")

def validateWaiver (w : SecurityWaiver) (c : AssuranceCase) (record : InvariantRecord) (request : WaiverGovernanceRequest)
    (policy : WaiverGovernancePolicy) : Gate Unit := do
  let rejected := fun reason message => Error.rejected reason message (some c.caseId) (some w.waiverId)
  raiseIf (w.schemaVersion ≠ P6B_WAIVER_SCHEMA_VERSION ∨ w.waiverId = "" ∨ w.caseId = "" ∨ w.ownerId = "" ∨
    blank w.reason = true ∨ blank w.trackingRef = true ∨ ¬ isSha256 rt w.caseDefinitionSha256 ∨
    ¬ isSha256 rt w.candidateCommitSha ∨ ¬ isSha256 rt w.corpusSha256 ∨ ¬ isSha256 rt w.candidateEvidenceSha256 ∨
    w.issuedAtEpoch ≤ 0 ∨ w.expiresAtEpoch ≤ 0)
    (.rejected .waiverInvalid "security waiver metadata is invalid" (orNone w.caseId) (orNone w.waiverId))
  raiseIf (w.caseId ≠ c.caseId) (rejected .waiverScopeMismatch "security waiver targets the wrong regression case")
  raiseIf (rt.casefold w.caseDefinitionSha256 ≠ caseDefinitionDigest rt c)
    (rejected .waiverScopeMismatch "security waiver does not bind to the immutable case definition")
  raiseIf (w.ownerId ≠ record.ownerId)
    (rejected .waiverScopeMismatch "security waiver does not bind to the policy-pinned invariant owner")
  raiseIf (w.severity ≠ c.severity)
    (rejected .waiverSeverityDowngrade "security waiver severity must exactly match the corpus severity")
  raiseIf (w.severity ∉ policy.waivableSeverities)
    (rejected .waiverNotPermitted "policy does not permit waivers for this regression severity")
  raiseIf (w.candidateReleaseId ≠ request.candidateReleaseId ∨
    rt.casefold w.candidateCommitSha ≠ rt.casefold request.candidateCommitSha ∨
    w.candidatePackageVersion ≠ request.candidatePackageVersion ∨
    rt.casefold w.corpusSha256 ≠ rt.casefold request.corpusSha256 ∨
    rt.casefold w.candidateEvidenceSha256 ≠ rt.casefold request.candidateEvidenceSha256)
    (rejected .waiverScopeMismatch "security waiver does not bind to the exact candidate release evidence")
  raiseIf (w.issuedAtEpoch > request.evaluatedAtEpoch)
    (rejected .waiverNotYetValid "security waiver was issued after the deterministic evaluation time")
  raiseIf (w.expiresAtEpoch ≤ request.evaluatedAtEpoch) (rejected .waiverExpired "security waiver has expired")
  let maxDuration ← orRaise (.key w.severity.value) (policy.maxWaiverSecondsBySeverity.lookup w.severity)
  raiseIf (w.expiresAtEpoch - w.issuedAtEpoch ≤ 0 ∨ w.expiresAtEpoch - w.issuedAtEpoch > maxDuration)
    (rejected .waiverDurationExceeded "security waiver exceeds the severity-specific maximum duration")
  scan (validateApproval w c record policy) [] w.approvals
  let requiredRoles ← orRaise (.key w.severity.value) (policy.requiredRolesBySeverity.lookup w.severity)
  raiseIf (∃ role ∈ requiredRoles, role ∉ w.approvals.map WaiverApproval.role)
    (rejected .approvalInsufficient "security waiver is missing one or more severity-required approval roles")

/-! ## The gate -/

def validateRequest (request : WaiverGovernanceRequest) (candidate : ReleaseAssuranceEvidence) (corpus : AssuranceCorpus) :
    Gate Unit :=
  raiseIf (request.candidateReleaseId = "" ∨ request.candidatePackageVersion = "" ∨ ¬ isSha256 rt request.candidateCommitSha ∨
    ¬ isSha256 rt request.corpusSha256 ∨ ¬ isSha256 rt request.candidateEvidenceSha256 ∨ request.evaluatedAtEpoch ≤ 0 ∨
    request.candidateReleaseId ≠ candidate.releaseId ∨
    rt.casefold request.candidateCommitSha ≠ rt.casefold candidate.commitSha ∨
    request.candidatePackageVersion ≠ candidate.packageVersion ∨
    rt.casefold request.corpusSha256 ≠ corpusDigest rt corpus ∨
    rt.casefold request.candidateEvidenceSha256 ≠ releaseEvidenceDigest rt candidate)
    (reject .candidateIdentityMismatch "waiver-governance request does not bind to the exact candidate evidence")

/-- The cases whose observed outcome is not the expected one, in the order of their ids. -/
def mismatches (corpus : AssuranceCorpus) (candidate : ReleaseAssuranceEvidence) : List AssuranceCase :=
  (sortOn AssuranceCase.caseId corpus.cases).filter fun c => observed candidate.results c.caseId ≠ some c.expectation

def safeTaskRegressions (corpus : AssuranceCorpus) (candidate : ReleaseAssuranceEvidence) : List AssuranceCase :=
  (mismatches corpus candidate).filter fun c => c.expectation = .allow

def securityRegressions (corpus : AssuranceCorpus) (candidate : ReleaseAssuranceEvidence) : List AssuranceCase :=
  (mismatches corpus candidate).filter fun c => c.Blocks

/-- `waiver_by_case[case_id]`. -/
def waiverOf (waivers : List SecurityWaiver) (caseId : String) : Option SecurityWaiver := waivers.find? fun w => w.caseId = caseId

/-- What the loop over the regressions does with one of them: its waiver is validated, and kept. -/
def approve (registry : InvariantRegistry) (waivers : List SecurityWaiver) (request : WaiverGovernanceRequest)
    (policy : WaiverGovernancePolicy) (c : AssuranceCase) : Gate SecurityWaiver := do
  let w ← orRaise (.key c.caseId) (waiverOf waivers c.caseId)
  let record ← orRaise (.key c.caseId) (registry.find c.caseId)
  validateWaiver rt w c record request policy
  return w

def requestDocument (request : WaiverGovernanceRequest) : Json := .obj [
  ("candidate_commit_sha", .str request.candidateCommitSha),
  ("candidate_evidence_sha256", .str request.candidateEvidenceSha256),
  ("candidate_package_version", .str request.candidatePackageVersion),
  ("candidate_release_id", .str request.candidateReleaseId), ("corpus_sha256", .str request.corpusSha256),
  ("evaluated_at_epoch", .int request.evaluatedAtEpoch)]

def governanceDocument (registry : InvariantRegistry) (corpus : AssuranceCorpus) (candidate : ReleaseAssuranceEvidence)
    (request : WaiverGovernanceRequest) (approved : List SecurityWaiver) : Json := .obj [
  ("candidate_evidence_sha256", .str (releaseEvidenceDigest rt candidate)),
  ("corpus_sha256", .str (corpusDigest rt corpus)), ("policy_version", .str P6B_WAIVER_POLICY_VERSION),
  ("registry_sha256", .str (invariantRegistryDigest rt registry)), ("request", requestDocument request),
  ("waiver_sha256s", .arr ((sortOn SecurityWaiver.waiverId approved).map fun w => .str (waiverDigest rt w)))]

def severityCount (approved : List SecurityWaiver) (severity : AssuranceSeverity) : Int :=
  (approved.filter fun w => w.severity = severity).length

def verified (registry : InvariantRegistry) (corpus : AssuranceCorpus) (candidate : ReleaseAssuranceEvidence)
    (request : WaiverGovernanceRequest) (approved : List SecurityWaiver) : VerifiedWaiverGovernance where
  candidateReleaseId := candidate.releaseId
  candidateCommitSha := rt.casefold candidate.commitSha
  candidatePackageVersion := candidate.packageVersion
  corpusSha256 := corpusDigest rt corpus
  registrySha256 := invariantRegistryDigest rt registry
  candidateEvidenceSha256 := releaseEvidenceDigest rt candidate
  regressionCaseIds := (securityRegressions corpus candidate).map (·.caseId)
  approvedWaiverIds := sortOn id (approved.map (·.waiverId))
  approvedWaivedCaseIds := sortOn id (approved.map (·.caseId))
  waiverCount := approved.length
  highWaiverCount := severityCount approved .high
  mediumWaiverCount := severityCount approved .medium
  lowWaiverCount := severityCount approved .low
  criticalWaiverCount := severityCount approved .critical
  earliestExpiryEpoch := (approved.map (·.expiresAtEpoch)).min?
  governanceEvidenceSha256 := rt.sha256 (governanceDocument rt registry corpus candidate request approved)
  invariantDefinitionsVerified := true
  invariantOwnershipVerified := true
  exactRegressionScopeVerified := true
  expiryVerified := true
  approvalRolesVerified := true
  severityDowngradePrevented := true
  criticalWaiversPermitted := false

/-- `SecurityInvariantWaiverGovernanceGate.evaluate`. -/
def evaluate (corpus : AssuranceCorpus) (registry : InvariantRegistry) (policy : WaiverGovernancePolicy)
    (request : WaiverGovernanceRequest) (candidate : ReleaseAssuranceEvidence) (waivers : List SecurityWaiver) :
    Gate VerifiedWaiverGovernance := do
  validatePolicy policy
  validateCorpus rt corpus policy
  validateRegistry rt registry corpus policy
  validateCandidateEvidence rt candidate corpus policy
  validateRequest rt request candidate corpus
  raiseIf (safeTaskRegressions corpus candidate ≠ [])
    (.rejected .safeTaskRegression "benign safe-task regressions are not convertible into security waivers"
      ((safeTaskRegressions corpus candidate).head?.map (·.caseId)) none)
  let regressions := securityRegressions corpus candidate
  scan (fun seen w => raiseIf (w.waiverId ∈ seen.map SecurityWaiver.waiverId ∨ w.caseId ∈ seen.map SecurityWaiver.caseId)
    (.rejected .waiverDuplicate "each security regression may have at most one unique waiver" (some w.caseId)
      (some w.waiverId))) [] waivers
  let extra := sortOn id ((waivers.map SecurityWaiver.caseId).filter fun i => i ∉ regressions.map (·.caseId))
  raiseIf (extra ≠ [])
    (.rejected .waiverScopeMismatch "security waivers may only target actual candidate security regressions" extra.head?
      ((extra.head?.bind (waiverOf waivers)).map (·.waiverId)))
  let missing := sortOn id ((regressions.map (·.caseId)).filter fun i => i ∉ waivers.map SecurityWaiver.caseId)
  raiseIf (missing ≠ [])
    (.rejected .regressionUnwaived "candidate contains an unwaived security regression" missing.head? none)
  let approved ← gather (approve rt registry waivers request policy) regressions
  return verified rt registry corpus candidate request approved

end

end Waivers

end Aegis.Assurance
