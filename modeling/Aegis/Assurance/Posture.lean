/-
  Aegis.Assurance.Posture — the P6-D reporter, which derives the posture of a release from the
  evidence of two other gates (posture_reporting.py).

  `evaluate` checks the handle of P6-B and that of P6-C once more, against the corpus, and then
  assesses each control of the catalog: satisfied, exceptioned by a waiver of one of its cases, or
  not evaluated. The rating is computed from the assessments.
-/

import Aegis.Assurance.Evolution
import Aegis.Assurance.Waivers

namespace Aegis.Assurance.Posture

open Data Data.Checks
open Evolution (VerifiedCorpusEvolution sortedTexts texts orNone blockCases allowCases criticalCount highOrCriticalCount)
open Waivers (VerifiedWaiverGovernance)

def P6D_POSTURE_POLICY_VERSION : String := "ai-security-posture-control-coverage-v1"
def P6D_CONTROL_CATALOG_SCHEMA_VERSION : String := "aegis-ai-security-control-catalog-v1"

inductive ControlStatus where
  | satisfied
  | exceptioned
  | notEvaluated
  deriving DecidableEq, Repr

def ControlStatus.value : ControlStatus → String
  | .satisfied => "satisfied"
  | .exceptioned => "exceptioned"
  | .notEvaluated => "not_evaluated"

inductive PostureRating where
  | green
  | amber
  | red
  deriving DecidableEq, Repr

def PostureRating.value : PostureRating → String
  | .green => "green"
  | .amber => "amber"
  | .red => "red"

inductive PostureRejectReason where
  | catalogInvalid
  | catalogDigestMismatch
  | controlDuplicate
  | controlMappingInvalid
  | requiredControlMissing
  | requiredRiskDomainMissing
  | requestInvalid
  | releaseIdentityMismatch
  | corpusInvalid
  | corpusDigestMismatch
  | waiverGovernanceUnverified
  | corpusEvolutionUnverified
  | evidenceBindingMismatch
  | waiverScopeMismatch
  | upstreamCountMismatch
  | declaredPostureMismatch
  deriving DecidableEq, Repr

/-- `SecurityPostureRejected`. -/
structure SecurityPostureRejected where
  reason : PostureRejectReason
  message : String
  controlId : Option String
  deriving DecidableEq, Repr

abbrev Gate (α : Type) := Except SecurityPostureRejected α

structure SecurityControlObjective where
  controlId : String
  riskDomain : String
  title : String
  severity : AssuranceSeverity
  mappedCaseIds : List String
  requiredBoundaries : List String
  exceptionPermitted : Bool := true

structure SecurityControlCatalog where
  catalogId : String
  version : String
  controls : List SecurityControlObjective
  schemaVersion : String := P6D_CONTROL_CATALOG_SCHEMA_VERSION

structure SecurityPostureRequest where
  candidateReleaseId : String
  candidateCommitSha : String
  candidatePackageVersion : String
  corpusSha256 : String
  controlCatalogSha256 : String
  waiverGovernanceEvidenceSha256 : String
  corpusEvolutionEvidenceSha256 : String
  declaredRating : Option PostureRating := none

structure SecurityPosturePolicy where
  expectedControlCatalogSha256 : String
  requiredControlIds : List String
  requiredRiskDomains : List String
  criticalExceptionIsRed : Bool := true
  highOrCriticalNotEvaluatedIsRed : Bool := true

structure ControlPostureAssessment where
  controlId : String
  riskDomain : String
  severity : AssuranceSeverity
  status : ControlStatus
  mappedCaseIds : List String
  exceptionCaseIds : List String
  missingCaseIds : List String
  missingBoundaries : List String
  evidenceSha256 : String

structure VerifiedSecurityPosture where
  candidateReleaseId : String
  candidateCommitSha : String
  candidatePackageVersion : String
  corpusId : String
  corpusVersion : String
  corpusSha256 : String
  controlCatalogId : String
  controlCatalogVersion : String
  controlCatalogSha256 : String
  waiverGovernanceEvidenceSha256 : String
  corpusEvolutionEvidenceSha256 : String
  overallRating : PostureRating
  controlCount : Int
  satisfiedControlIds : List String
  exceptionedControlIds : List String
  notEvaluatedControlIds : List String
  assessments : List ControlPostureAssessment
  postureEvidenceSha256 : String

def reject (reason : PostureRejectReason) (message : String) (controlId : Option String) : SecurityPostureRejected :=
  ⟨reason, message, controlId⟩

section
variable (rt : Runtime)

/-! ## The catalog -/

def canonicalControl (c : SecurityControlObjective) : Json := .obj [
  ("control_id", .str c.controlId), ("exception_permitted", .bool c.exceptionPermitted),
  ("mapped_case_ids", texts (sortedTexts c.mappedCaseIds)),
  ("required_boundaries", texts (sortedTexts c.requiredBoundaries)), ("risk_domain", .str c.riskDomain),
  ("severity", .str c.severity.value), ("title", .str c.title)]

def sortedControls (catalog : SecurityControlCatalog) : List SecurityControlObjective :=
  sortOn SecurityControlObjective.controlId catalog.controls

def canonicalControlCatalog (catalog : SecurityControlCatalog) : Json := .obj [
  ("catalog_id", .str catalog.catalogId), ("controls", .arr ((sortedControls catalog).map canonicalControl)),
  ("schema_version", .str catalog.schemaVersion), ("version", .str catalog.version)]

def controlCatalogDigest (catalog : SecurityControlCatalog) : String := rt.sha256 (canonicalControlCatalog catalog)

def validateControl (seen : List SecurityControlObjective) (c : SecurityControlObjective) : Gate Unit := do
  raiseIf (c.controlId = "" ∨ c.riskDomain = "" ∨ c.title = "" ∨ c.mappedCaseIds = [] ∨ c.requiredBoundaries = [])
    (reject .controlMappingInvalid "control objective metadata is invalid" (orNone c.controlId))
  raiseIf (c.controlId ∈ seen.map SecurityControlObjective.controlId)
    (reject .controlDuplicate "control catalog contains duplicate control IDs" (some c.controlId))
  raiseIf (¬ c.mappedCaseIds.Nodup ∨ ¬ c.requiredBoundaries.Nodup ∨ "" ∈ c.mappedCaseIds ∨ "" ∈ c.requiredBoundaries)
    (reject .controlMappingInvalid "control mappings contain duplicates or empty identifiers" (some c.controlId))

def validateCatalog (catalog : SecurityControlCatalog) (policy : SecurityPosturePolicy) : Gate Unit := do
  raiseIf (catalog.schemaVersion ≠ P6D_CONTROL_CATALOG_SCHEMA_VERSION ∨ catalog.catalogId = "" ∨ catalog.version = "" ∨
    catalog.controls.isEmpty) (reject .catalogInvalid "control catalog metadata is invalid" none)
  scan validateControl [] catalog.controls
  raiseIf (¬ isSha256 rt policy.expectedControlCatalogSha256 ∨
    controlCatalogDigest rt catalog ≠ rt.casefold policy.expectedControlCatalogSha256)
    (reject .catalogDigestMismatch "control catalog does not match the policy-pinned digest" none)
  let missing := sortedTexts (policy.requiredControlIds.filter fun i =>
    i ∉ catalog.controls.map SecurityControlObjective.controlId)
  raiseIf (missing ≠ []) (reject .requiredControlMissing "control catalog omits a policy-required control" missing.head?)
  raiseIf (∃ d ∈ policy.requiredRiskDomains, d ∉ catalog.controls.map SecurityControlObjective.riskDomain)
    (reject .requiredRiskDomainMissing "control catalog omits a policy-required risk domain" none)

def validateCorpus (corpus : AssuranceCorpus) : Gate Unit :=
  Assurance.validateCorpus (reject .corpusInvalid "assurance corpus metadata is invalid" none)
    (fun _ => reject .corpusInvalid "assurance corpus contains an invalid case" none)
    (fun _ => reject .corpusInvalid "assurance corpus contains duplicate case IDs" none) corpus

/-! ## The handles of the other gates -/

def validateRequest (request : SecurityPostureRequest) (catalogSha256 corpusSha256 : String) (waiver : VerifiedWaiverGovernance)
    (evolution : VerifiedCorpusEvolution) : Gate Unit := do
  raiseIf (request.candidateReleaseId = "" ∨ ¬ isSha256 rt request.candidateCommitSha ∨ request.candidatePackageVersion = "" ∨
    ¬ isSha256 rt request.corpusSha256 ∨ ¬ isSha256 rt request.controlCatalogSha256 ∨
    ¬ isSha256 rt request.waiverGovernanceEvidenceSha256 ∨ ¬ isSha256 rt request.corpusEvolutionEvidenceSha256)
    (reject .requestInvalid "security posture request metadata is invalid" none)
  raiseIf (request.candidateReleaseId ≠ waiver.candidateReleaseId ∨
    rt.casefold request.candidateCommitSha ≠ rt.casefold waiver.candidateCommitSha ∨
    request.candidatePackageVersion ≠ waiver.candidatePackageVersion)
    (reject .releaseIdentityMismatch "posture request does not match the exact governed candidate release identity" none)
  raiseIf (rt.casefold request.corpusSha256 ≠ corpusSha256)
    (reject .corpusDigestMismatch "posture request does not bind to the exact assurance corpus digest" none)
  raiseIf (rt.casefold request.controlCatalogSha256 ≠ catalogSha256)
    (reject .catalogDigestMismatch "posture request does not bind to the exact control catalog digest" none)
  raiseIf (rt.casefold request.waiverGovernanceEvidenceSha256 ≠ rt.casefold waiver.governanceEvidenceSha256 ∨
    rt.casefold request.corpusEvolutionEvidenceSha256 ≠ rt.casefold evolution.evidenceSha256)
    (reject .evidenceBindingMismatch "posture request does not bind to exact upstream assurance evidence digests" none)

/-- The summary of waivers is consistent in itself. -/
def validateWaiverScope (w : VerifiedWaiverGovernance) : Gate Unit :=
  raiseIf (¬ w.regressionCaseIds.Nodup ∨ ¬ w.approvedWaivedCaseIds.Nodup ∨ ¬ w.approvedWaiverIds.Nodup ∨
    ¬ (∀ i ∈ w.approvedWaivedCaseIds, i ∈ w.regressionCaseIds) ∨ w.waiverCount ≠ w.approvedWaivedCaseIds.length ∨
    w.waiverCount ≠ w.approvedWaiverIds.length ∨
    w.highWaiverCount + w.mediumWaiverCount + w.lowWaiverCount + w.criticalWaiverCount ≠ w.waiverCount ∨
    (w.criticalWaiversPermitted = false ∧ w.criticalWaiverCount ≠ 0))
    (reject .waiverScopeMismatch "waiver governance summary has inconsistent regression or waiver scope" none)

def validateWaiverGovernance (w : VerifiedWaiverGovernance) (corpusSha256 : String) : Gate Unit := do
  raiseIf (w.invariantDefinitionsVerified = false ∨ w.invariantOwnershipVerified = false ∨
    w.exactRegressionScopeVerified = false ∨ w.expiryVerified = false ∨ w.approvalRolesVerified = false ∨
    w.severityDowngradePrevented = false ∨ ¬ isSha256 rt w.candidateCommitSha ∨ ¬ isSha256 rt w.corpusSha256 ∨
    ¬ isSha256 rt w.registrySha256 ∨ ¬ isSha256 rt w.candidateEvidenceSha256 ∨ ¬ isSha256 rt w.governanceEvidenceSha256)
    (reject .waiverGovernanceUnverified "waiver governance handle is incomplete or no longer verified" none)
  raiseIf (rt.casefold w.corpusSha256 ≠ corpusSha256)
    (reject .evidenceBindingMismatch "waiver governance evidence is bound to a different assurance corpus" none)
  validateWaiverScope w

def validateCorpusEvolution (evolution : VerifiedCorpusEvolution) (corpus : AssuranceCorpus) (corpusSha256 : String) : Gate Unit := do
  raiseIf (evolution.exactChangeCoverageVerified = false ∨ evolution.removalTombstonesVerified = false ∨
    evolution.coverageFloorsVerified = false ∨ evolution.weakeningPrevented = false ∨
    evolution.silentCoverageShrinkPrevented = false ∨ ¬ isSha256 rt evolution.baselineCorpusSha256 ∨
    ¬ isSha256 rt evolution.candidateCorpusSha256 ∨ ¬ isSha256 rt evolution.changeManifestSha256 ∨
    ¬ isSha256 rt evolution.evidenceSha256)
    (reject .corpusEvolutionUnverified "corpus evolution handle is incomplete or no longer verified" none)
  raiseIf (evolution.corpusId ≠ corpus.corpusId ∨ evolution.candidateVersion ≠ corpus.version ∨
    rt.casefold evolution.candidateCorpusSha256 ≠ corpusSha256)
    (reject .evidenceBindingMismatch "corpus evolution evidence does not bind to the current assurance corpus" none)
  raiseIf (evolution.candidateCaseCount ≠ corpus.cases.length ∨ evolution.candidateBlockCaseCount ≠ (blockCases corpus).length ∨
    evolution.candidateAllowCaseCount ≠ (allowCases corpus).length ∨
    evolution.candidateCriticalBlockCount ≠ criticalCount corpus ∨
    evolution.candidateHighOrCriticalBlockCount ≠ highOrCriticalCount corpus)
    (reject .upstreamCountMismatch "corpus evolution summary counts do not match the current corpus" none)

/-! ## Assessments -/

def assessmentDocument (c : SecurityControlObjective) (status : ControlStatus)
    (exceptionCaseIds missingCaseIds missingBoundaries : List String) (corpusSha256 waiverSha256 evolutionSha256 : String) : Json := .obj [
  ("control", canonicalControl c), ("corpus_evolution_evidence_sha256", .str (rt.casefold evolutionSha256)),
  ("corpus_sha256", .str corpusSha256), ("exception_case_ids", texts exceptionCaseIds),
  ("missing_boundaries", texts missingBoundaries), ("missing_case_ids", texts missingCaseIds),
  ("status", .str status.value), ("waiver_governance_evidence_sha256", .str (rt.casefold waiverSha256))]

def missingCases (corpus : AssuranceCorpus) (c : SecurityControlObjective) : List String :=
  sortedTexts (c.mappedCaseIds.filter fun i => i ∉ corpus.ids)

def missingBoundaries (corpus : AssuranceCorpus) (c : SecurityControlObjective) : List String :=
  sortedTexts (c.requiredBoundaries.filter fun b => b ∉ corpus.cases.map AssuranceCase.boundary)

def exceptionCases (waived : List String) (c : SecurityControlObjective) : List String :=
  sortedTexts (c.mappedCaseIds.filter fun i => i ∈ waived)

def status (corpus : AssuranceCorpus) (waived : List String) (c : SecurityControlObjective) : ControlStatus :=
  if exceptionCases waived c ≠ [] ∧ c.exceptionPermitted = false then .exceptioned
  else if missingCases corpus c ≠ [] ∨ missingBoundaries corpus c ≠ [] then .notEvaluated
  else if exceptionCases waived c ≠ [] then .exceptioned
  else .satisfied

def assess (corpus : AssuranceCorpus) (w : VerifiedWaiverGovernance) (evolution : VerifiedCorpusEvolution)
    (c : SecurityControlObjective) : ControlPostureAssessment where
  controlId := c.controlId
  riskDomain := c.riskDomain
  severity := c.severity
  status := status corpus w.approvedWaivedCaseIds c
  mappedCaseIds := sortedTexts c.mappedCaseIds
  exceptionCaseIds := exceptionCases w.approvedWaivedCaseIds c
  missingCaseIds := missingCases corpus c
  missingBoundaries := missingBoundaries corpus c
  evidenceSha256 := rt.sha256 (assessmentDocument rt c (status corpus w.approvedWaivedCaseIds c)
    (exceptionCases w.approvedWaivedCaseIds c) (missingCases corpus c) (missingBoundaries corpus c) (corpusDigest rt corpus)
    w.governanceEvidenceSha256 evolution.evidenceSha256)

/-- What makes the rating red, when the status is not satisfied. -/
def IsRed (policy : SecurityPosturePolicy) (c : SecurityControlObjective) : ControlStatus → Prop
  | .satisfied => False
  | .exceptioned => c.exceptionPermitted = false ∨ (policy.criticalExceptionIsRed = true ∧ c.severity = .critical)
  | .notEvaluated => policy.highOrCriticalNotEvaluatedIsRed = true ∧ (c.severity = .high ∨ c.severity = .critical)

instance decidableIsRed (policy : SecurityPosturePolicy) (c : SecurityControlObjective) (s : ControlStatus) :
    Decidable (IsRed policy c s) :=
  match s with
  | .satisfied => inferInstanceAs (Decidable False)
  | .exceptioned => inferInstanceAs (Decidable (_ ∨ _))
  | .notEvaluated => inferInstanceAs (Decidable (_ ∧ _))

def overallRating (policy : SecurityPosturePolicy) (corpus : AssuranceCorpus) (waived : List String)
    (controls : List SecurityControlObjective) : PostureRating :=
  if ∃ c ∈ controls, IsRed policy c (status corpus waived c) then .red
  else if ∃ c ∈ controls, status corpus waived c ≠ .satisfied then .amber
  else .green

/-- The ids of the controls that have a status. -/
def withStatus (assessments : List ControlPostureAssessment) (s : ControlStatus) : List String :=
  (assessments.filter fun a => a.status = s).map ControlPostureAssessment.controlId

def evidenceDocument (catalogSha256 corpusSha256 : String) (request : SecurityPostureRequest) (w : VerifiedWaiverGovernance)
    (evolution : VerifiedCorpusEvolution) (assessments : List ControlPostureAssessment) (rating : PostureRating) : Json := .obj [
  ("assessments", .arr (assessments.map fun a => .obj [
    ("control_id", .str a.controlId), ("evidence_sha256", .str a.evidenceSha256), ("status", .str a.status.value)])),
  ("catalog_sha256", .str catalogSha256), ("corpus_evolution_evidence_sha256", .str evolution.evidenceSha256),
  ("corpus_sha256", .str corpusSha256), ("overall_rating", .str rating.value),
  ("policy_version", .str P6D_POSTURE_POLICY_VERSION), ("release", .obj [
    ("commit_sha", .str (rt.casefold request.candidateCommitSha)),
    ("package_version", .str request.candidatePackageVersion), ("release_id", .str request.candidateReleaseId)]),
  ("waiver_governance_evidence_sha256", .str w.governanceEvidenceSha256)]

/-! ## The reporter -/

def posture (catalog : SecurityControlCatalog) (policy : SecurityPosturePolicy) (request : SecurityPostureRequest)
    (corpus : AssuranceCorpus) (w : VerifiedWaiverGovernance) (evolution : VerifiedCorpusEvolution) : VerifiedSecurityPosture :=
  let assessments := (sortedControls catalog).map (assess rt corpus w evolution)
  let rating := overallRating policy corpus w.approvedWaivedCaseIds (sortedControls catalog)
  { candidateReleaseId := request.candidateReleaseId
    candidateCommitSha := rt.casefold request.candidateCommitSha
    candidatePackageVersion := request.candidatePackageVersion
    corpusId := corpus.corpusId
    corpusVersion := corpus.version
    corpusSha256 := corpusDigest rt corpus
    controlCatalogId := catalog.catalogId
    controlCatalogVersion := catalog.version
    controlCatalogSha256 := controlCatalogDigest rt catalog
    waiverGovernanceEvidenceSha256 := w.governanceEvidenceSha256
    corpusEvolutionEvidenceSha256 := evolution.evidenceSha256
    overallRating := rating
    controlCount := assessments.length
    satisfiedControlIds := withStatus assessments .satisfied
    exceptionedControlIds := withStatus assessments .exceptioned
    notEvaluatedControlIds := withStatus assessments .notEvaluated
    assessments := assessments
    postureEvidenceSha256 := rt.sha256 (evidenceDocument rt (controlCatalogDigest rt catalog) (corpusDigest rt corpus) request w
      evolution assessments rating) }

/-- `AISecurityPostureReporter.evaluate`. -/
def evaluate (catalog : SecurityControlCatalog) (policy : SecurityPosturePolicy) (request : SecurityPostureRequest)
    (corpus : AssuranceCorpus) (w : VerifiedWaiverGovernance) (evolution : VerifiedCorpusEvolution) : Gate VerifiedSecurityPosture := do
  validateCatalog rt catalog policy
  validateCorpus corpus
  validateWaiverGovernance rt w (corpusDigest rt corpus)
  validateCorpusEvolution rt evolution corpus (corpusDigest rt corpus)
  validateRequest rt request (controlCatalogDigest rt catalog) (corpusDigest rt corpus) w evolution
  raiseIf ((∃ i ∈ w.regressionCaseIds, i ∉ corpus.ids) ∨ ∃ i ∈ w.approvedWaivedCaseIds, i ∉ corpus.ids)
    (reject .waiverScopeMismatch "upstream regression or waiver scope references a case outside the current corpus" none)
  let rating := overallRating policy corpus w.approvedWaivedCaseIds (sortedControls catalog)
  raiseIf (request.declaredRating ≠ none ∧ request.declaredRating ≠ some rating)
    (reject .declaredPostureMismatch "caller-declared posture does not match evidence-derived posture" none)
  return posture rt catalog policy request corpus w evolution

end

end Aegis.Assurance.Posture
