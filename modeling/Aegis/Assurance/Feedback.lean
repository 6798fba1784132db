/-
  Aegis.Assurance.Feedback — the P6-F gate, which binds a material incident to regression coverage
  (incident_feedback.py).

  A ledger holds one obligation for each incident. An evaluation takes the incident decision of P5-I,
  the step of the corpus with its P6-C evidence, and the ledger before and after: the new ledger must
  have the old obligations and one more, and the candidate corpus a blocking case, marked with the
  trace digest, for each of them.
-/

import Mathlib.Data.Prod.Lex
import Aegis.Assurance.Evolution
import Aegis.Serving.AbuseResponse

namespace Aegis.Assurance.Feedback

open Data Data.Checks
open Evolution (CorpusChangeManifest CorpusChangeRecord VerifiedCorpusEvolution changeManifestDigest sortedTexts texts orNone
  blockCases allowCases criticalCount highOrCriticalCount)
open Serving (AbuseSignalType IncidentAction VerifiedIncidentDecision)

def P6F_FEEDBACK_SCHEMA_VERSION : String := "aegis-incident-assurance-feedback-v1"
def P6F_LEDGER_SCHEMA_VERSION : String := "aegis-incident-coverage-ledger-v1"

inductive IncidentFeedbackRejectReason where
  | policyInvalid
  | incidentUnverified
  | incidentNotActionable
  | incidentIdentityMismatch
  | corpusInvalid
  | baselineDigestMismatch
  | candidateDigestMismatch
  | evolutionUnverified
  | evolutionBindingMismatch
  | ledgerInvalid
  | ledgerDigestMismatch
  | ledgerVersionInvalid
  | obligationDuplicate
  | obligationDropped
  | obligationMutated
  | currentObligationMissing
  | feedbackInvalid
  | feedbackDigestMismatch
  | feedbackDuplicate
  | signalScopeMismatch
  | caseLinkMissing
  | caseLinkDuplicate
  | caseDefinitionMismatch
  | caseNotSecurityBlock
  | caseSeverityInsufficient
  | caseBoundaryDisallowed
  | caseAttackClassMismatch
  | incidentTraceMissing
  | changeRecordMissing
  | changeTypeInvalid
  | changeOwnerUntrusted
  | changeReasonMismatch
  | historicalCoverageMissing
  deriving DecidableEq, Repr

/-- What `evaluate` raises: `IncidentFeedbackRejected`, the KeyError of a severity map, or the TypeError of
    `hmac.compare_digest` on a text that is not ASCII. -/
inductive Error where
  | rejected (reason : IncidentFeedbackRejectReason) (message : String) (incidentId caseId obligationId : Option String)
  | key
  | type
  deriving DecidableEq, Repr

abbrev Gate (α : Type) := Except Error α

structure IncidentCoverageObligation where
  obligationId : String
  incidentId : String
  incidentBatchSha256 : String
  requiredMinSeverity : AssuranceSeverity
  requiredSignalTypes : List String
  createdInCorpusVersion : String
  traceSha256 : String

structure IncidentCoverageLedger where
  ledgerId : String
  version : Int
  previousLedgerSha256 : String
  obligations : List IncidentCoverageObligation
  schemaVersion : String := P6F_LEDGER_SCHEMA_VERSION

structure IncidentCaseLink where
  caseId : String
  caseDefinitionSha256 : String
  changeId : String
  signalTypes : List String

structure IncidentAssuranceFeedback where
  feedbackId : String
  incidentId : String
  deploymentId : String
  incidentBatchSha256 : String
  incidentAction : IncidentAction
  incidentRiskPoints : Int
  incidentSignalCounts : List (String × Int)
  baselineCorpusSha256 : String
  candidateCorpusSha256 : String
  changeManifestSha256 : String
  previousLedgerSha256 : String
  candidateLedgerSha256 : String
  links : List IncidentCaseLink
  createdAtEpoch : Int
  schemaVersion : String := P6F_FEEDBACK_SCHEMA_VERSION

structure IncidentFeedbackRequest where
  feedbackId : String
  feedbackSha256 : String
  incidentId : String
  incidentBatchSha256 : String
  candidateCorpusSha256 : String
  candidateLedgerSha256 : String
  evolutionEvidenceSha256 : String

structure IncidentFeedbackPolicy where
  expectedBaselineCorpusId : String
  expectedBaselineCorpusSha256 : String
  expectedPreviousLedgerSha256 : String
  trustedChangeOwnerIds : List String
  allowedTargetBoundaries : List String
  requiredAttackClass : String := "incident_derived_serving_abuse"
  materialActions : List IncidentAction := [.quarantine, .revokeDeployment]
  minimumSeverityByAction : Option (List (IncidentAction × AssuranceSeverity)) := none

/-- `severity_map`. -/
def IncidentFeedbackPolicy.severityMap (policy : IncidentFeedbackPolicy) : List (IncidentAction × AssuranceSeverity) :=
  policy.minimumSeverityByAction.getD [(.quarantine, .high), (.revokeDeployment, .critical)]

structure VerifiedIncidentFeedback where
  feedbackId : String
  incidentId : String
  deploymentId : String
  incidentBatchSha256 : String
  incidentAction : IncidentAction
  incidentRiskPoints : Int
  baselineCorpusSha256 : String
  candidateCorpusSha256 : String
  changeManifestSha256 : String
  previousLedgerSha256 : String
  candidateLedgerSha256 : String
  currentObligationId : String
  currentObligationTraceSha256 : String
  linkedCaseIds : List String
  coveredSignalTypes : List String
  activeObligationIds : List String
  feedbackSha256 : String
  evidenceSha256 : String

def reject (reason : IncidentFeedbackRejectReason) (message : String) (incidentId caseId obligationId : Option String) : Error :=
  .rejected reason message incidentId caseId obligationId

section
variable (rt : Runtime)

/-! ## Canonical documents -/

/-- `_canonical_signal_counts`. -/
def canonicalSignalCounts (counts : List (String × Int)) : List (String × Int) :=
  sortOn (fun c => (toLex c : Lex (String × Int))) counts

def signalCountsDocument (counts : List (String × Int)) : Json :=
  .arr ((canonicalSignalCounts counts).map fun c => .arr [.str c.1, .int c.2])

def traceDocument (incident : VerifiedIncidentDecision) (requiredMinSeverity : AssuranceSeverity) : Json := .obj [
  ("action", .str incident.action.value), ("batch_sha256", .str (rt.casefold incident.batchSha256)),
  ("deployment_id", .str incident.deploymentId), ("incident_id", .str incident.incidentId),
  ("required_min_severity", .str requiredMinSeverity.value), ("risk_points", .int incident.riskPoints),
  ("signal_counts", signalCountsDocument incident.signalCounts)]

/-- `incident_trace_digest`. -/
def incidentTraceDigest (incident : VerifiedIncidentDecision) (requiredMinSeverity : AssuranceSeverity) : String :=
  rt.sha256 (traceDocument rt incident requiredMinSeverity)

def canonicalObligation (o : IncidentCoverageObligation) : Json := .obj [
  ("created_in_corpus_version", .str o.createdInCorpusVersion),
  ("incident_batch_sha256", .str (rt.casefold o.incidentBatchSha256)), ("incident_id", .str o.incidentId),
  ("obligation_id", .str o.obligationId), ("required_min_severity", .str o.requiredMinSeverity.value),
  ("required_signal_types", texts (sortedTexts o.requiredSignalTypes)),
  ("trace_sha256", .str (rt.casefold o.traceSha256))]

/-- `canonical_incident_coverage_ledger_bytes`. -/
def canonicalLedger (ledger : IncidentCoverageLedger) : Json := .obj [
  ("ledger_id", .str ledger.ledgerId),
  ("obligations", .arr ((sortOn IncidentCoverageObligation.obligationId ledger.obligations).map (canonicalObligation rt))),
  ("previous_ledger_sha256", .str (rt.casefold ledger.previousLedgerSha256)),
  ("schema_version", .str ledger.schemaVersion), ("version", .int ledger.version)]

def ledgerDigest (ledger : IncidentCoverageLedger) : String := rt.sha256 (canonicalLedger rt ledger)

def canonicalLink (l : IncidentCaseLink) : Json := .obj [
  ("case_definition_sha256", .str (rt.casefold l.caseDefinitionSha256)), ("case_id", .str l.caseId),
  ("change_id", .str l.changeId), ("signal_types", texts (sortedTexts l.signalTypes))]

/-- `canonical_incident_feedback_bytes`. -/
def canonicalFeedback (f : IncidentAssuranceFeedback) : Json := .obj [
  ("baseline_corpus_sha256", .str (rt.casefold f.baselineCorpusSha256)),
  ("candidate_corpus_sha256", .str (rt.casefold f.candidateCorpusSha256)),
  ("candidate_ledger_sha256", .str (rt.casefold f.candidateLedgerSha256)),
  ("change_manifest_sha256", .str (rt.casefold f.changeManifestSha256)), ("created_at_epoch", .int f.createdAtEpoch),
  ("deployment_id", .str f.deploymentId), ("feedback_id", .str f.feedbackId),
  ("incident_action", .str f.incidentAction.value), ("incident_batch_sha256", .str (rt.casefold f.incidentBatchSha256)),
  ("incident_id", .str f.incidentId), ("incident_risk_points", .int f.incidentRiskPoints),
  ("incident_signal_counts", signalCountsDocument f.incidentSignalCounts),
  ("links", .arr ((sortOn IncidentCaseLink.caseId f.links).map (canonicalLink rt))),
  ("previous_ledger_sha256", .str (rt.casefold f.previousLedgerSha256)), ("schema_version", .str f.schemaVersion)]

def feedbackDigest (f : IncidentAssuranceFeedback) : String := rt.sha256 (canonicalFeedback rt f)

/-- `_expected_change_reason`. -/
def expectedChangeReason (feedbackId incidentId batchSha256 : String) : String :=
  "incident-feedback:" ++ feedbackId ++ ":" ++ incidentId ++ ":" ++ rt.casefold batchSha256

/-- `incident_trace_sha256=…`. -/
def marker (o : IncidentCoverageObligation) : String := "incident_trace_sha256=" ++ rt.casefold o.traceSha256

/-- `needle in text`. -/
def contains (needle text : String) : Prop := needle.toList <:+: text.toList

instance decidableContains (needle text : String) : Decidable (contains needle text) := inferInstanceAs (Decidable (_ <:+: _))

/-! ## Policy, incident and corpora -/

/-- `set(severity_map) == set(material_actions)`. -/
def mapsActions (policy : IncidentFeedbackPolicy) : Prop :=
  (∀ a ∈ policy.severityMap.map Prod.fst, a ∈ policy.materialActions) ∧
    ∀ a ∈ policy.materialActions, a ∈ policy.severityMap.map Prod.fst

instance decidableMapsActions (policy : IncidentFeedbackPolicy) : Decidable (mapsActions policy) :=
  inferInstanceAs (Decidable (_ ∧ _))

def validatePolicy (policy : IncidentFeedbackPolicy) : Gate Unit :=
  raiseIf (policy.expectedBaselineCorpusId = "" ∨ ¬ isSha256 rt policy.expectedBaselineCorpusSha256 ∨
    ¬ isSha256 rt policy.expectedPreviousLedgerSha256 ∨ policy.trustedChangeOwnerIds = [] ∨ policy.allowedTargetBoundaries = [] ∨
    policy.requiredAttackClass = "" ∨ policy.materialActions = [] ∨ ¬ mapsActions policy)
    (reject .policyInvalid "incident feedback policy is invalid" none none none)

def validateCorpus (corpus : AssuranceCorpus) (label : String) : Gate Unit :=
  let invalid := fun c : AssuranceCase => reject .corpusInvalid
    (label ++ " assurance corpus contains an invalid or duplicate case") none (orNone c.caseId) none
  Assurance.validateCorpus (reject .corpusInvalid (label ++ " assurance corpus metadata is invalid") none none none)
    invalid invalid corpus

/-- `for signal, count in incident.signal_counts`: the material signals, in that order. -/
def materialSignals (incidentId : String) (seen : List AbuseSignalType) : List (String × Int) → Gate (List String)
  | [] => .ok []
  | (signal, count) :: rest => do
    let signalType ← orRaise (reject .incidentUnverified "incident contains an unknown serving-abuse signal" (some incidentId) none none)
      (AbuseSignalType.ofValue signal)
    raiseIf (signalType ∈ seen ∨ count ≤ 0)
      (reject .incidentUnverified "incident signal counts are duplicate or invalid" (some incidentId) none none)
    let others ← materialSignals incidentId (signalType :: seen) rest
    return if signalType = .normalQuery then others else signalType.value :: others

/-- `_validate_incident`: the severity that the action requires, and the material signals. -/
def validateIncident (incident : VerifiedIncidentDecision) (policy : IncidentFeedbackPolicy) :
    Gate (AssuranceSeverity × List String) := do
  raiseIf (incident.incidentId = "" ∨ incident.deploymentId = "" ∨ ¬ isSha256 rt incident.batchSha256 ∨ incident.riskPoints < 0 ∨
    incident.telemetrySignatureVerified = false ∨ incident.telemetryChainVerified = false ∨ incident.telemetryComplete = false ∨
    incident.networkOperations ≠ 0)
    (reject .incidentUnverified "incident feedback requires an intact P5-I verified incident decision" (orNone incident.incidentId)
      none none)
  raiseIf (incident.action ∉ policy.materialActions)
    (reject .incidentNotActionable "incident action does not meet the policy threshold for durable regression feedback"
      (some incident.incidentId) none none)
  let signals ← materialSignals incident.incidentId [] incident.signalCounts
  raiseIf (signals = [])
    (reject .incidentUnverified "material incident has no non-benign threat signals" (some incident.incidentId) none none)
  let severity ← orRaise .key ((policy.severityMap.find? fun m => m.1 = incident.action).map Prod.snd)
  return (severity, sortedTexts signals)

/-! ## The step of the corpus -/

def ascii (text : String) : Prop := ∀ c ∈ text.toList, c.toNat < 128

instance decidableAscii (text : String) : Decidable (ascii text) := List.decidableBAll _ _

/-- `if not hmac.compare_digest(digest.casefold(), expected)`, of a text that nothing has validated. -/
def compareDigest (digest expected : String) (e : Error) : Gate Unit := do
  raiseIf (¬ ascii (rt.casefold digest)) .type
  raiseIf (rt.casefold digest ≠ expected) e

def validateEvolution (evolution : VerifiedCorpusEvolution) (baseline candidate : AssuranceCorpus) (manifest : CorpusChangeManifest) :
    Gate Unit := do
  raiseIf (manifest.schemaVersion ≠ Evolution.P6C_CHANGE_MANIFEST_SCHEMA_VERSION ∨
    evolution.exactChangeCoverageVerified = false ∨ evolution.removalTombstonesVerified = false ∨
    evolution.coverageFloorsVerified = false ∨ evolution.weakeningPrevented = false ∨
    evolution.silentCoverageShrinkPrevented = false ∨ evolution.networkOperations ≠ 0 ∨ ¬ isSha256 rt evolution.evidenceSha256)
    (reject .evolutionUnverified "incident feedback requires intact P6-C corpus-evolution evidence" none none none)
  let unbound := reject .evolutionBindingMismatch "P6-C evolution evidence does not bind to the exact current corpus transition"
    none none none
  raiseIf (evolution.corpusId ≠ candidate.corpusId ∨ evolution.baselineVersion ≠ baseline.version ∨
    evolution.candidateVersion ≠ candidate.version) unbound
  compareDigest rt evolution.baselineCorpusSha256 (corpusDigest rt baseline) unbound
  compareDigest rt evolution.candidateCorpusSha256 (corpusDigest rt candidate) unbound
  compareDigest rt evolution.changeManifestSha256 (changeManifestDigest rt manifest) unbound
  raiseIf (evolution.candidateCaseCount ≠ candidate.cases.length ∨ evolution.candidateBlockCaseCount ≠ (blockCases candidate).length ∨
    evolution.candidateAllowCaseCount ≠ (allowCases candidate).length ∨
    evolution.candidateCriticalBlockCount ≠ criticalCount candidate ∨
    evolution.candidateHighOrCriticalBlockCount ≠ highOrCriticalCount candidate) unbound

/-! ## Ledgers -/

def validateObligation (label : String) (seen : List IncidentCoverageObligation) (o : IncidentCoverageObligation) : Gate Unit := do
  raiseIf (o.obligationId = "" ∨ o.incidentId = "" ∨ ¬ isSha256 rt o.incidentBatchSha256 ∨ o.requiredSignalTypes = [] ∨
    ¬ o.requiredSignalTypes.Nodup ∨ o.createdInCorpusVersion = "" ∨ ¬ isSha256 rt o.traceSha256)
    (reject .ledgerInvalid (label ++ " ledger contains an invalid obligation") none none (orNone o.obligationId))
  raiseIf (o.obligationId ∈ seen.map IncidentCoverageObligation.obligationId ∨
    rt.casefold o.traceSha256 ∈ seen.map (fun x => rt.casefold x.traceSha256) ∨
    o.incidentId ∈ seen.map IncidentCoverageObligation.incidentId)
    (reject .obligationDuplicate (label ++ " ledger contains duplicate incident obligations") none none (some o.obligationId))

def validateLedger (ledger : IncidentCoverageLedger) (label : String) : Gate Unit := do
  raiseIf (ledger.schemaVersion ≠ P6F_LEDGER_SCHEMA_VERSION ∨ ledger.ledgerId = "" ∨ ledger.version < 0 ∨
    ¬ isSha256 rt ledger.previousLedgerSha256)
    (reject .ledgerInvalid (label ++ " incident coverage ledger is invalid") none none none)
  scan (validateObligation rt label) [] ledger.obligations

/-- `obligations[obligation_id]`. -/
def IncidentCoverageLedger.find (ledger : IncidentCoverageLedger) (obligationId : String) : Option IncidentCoverageObligation :=
  ledger.obligations.find? fun o => o.obligationId = obligationId

def IncidentCoverageLedger.ids (ledger : IncidentCoverageLedger) : List String :=
  ledger.obligations.map IncidentCoverageObligation.obligationId

/-- `_obligation_identity`. -/
def obligationIdentity (o : IncidentCoverageObligation) : String × String × String × AssuranceSeverity × List String × String × String :=
  (o.obligationId, o.incidentId, rt.casefold o.incidentBatchSha256, o.requiredMinSeverity, sortedTexts o.requiredSignalTypes,
    o.createdInCorpusVersion, rt.casefold o.traceSha256)

/-- A historical obligation is in the candidate, as it was. -/
def checkPrior (candidate : IncidentCoverageLedger) (prior : IncidentCoverageObligation) : Gate Unit := do
  let current ← orRaise (reject .obligationDropped "candidate ledger dropped a historical incident coverage obligation" none none
    (some prior.obligationId)) (candidate.find prior.obligationId)
  raiseIf (obligationIdentity rt current ≠ obligationIdentity rt prior)
    (reject .obligationMutated "candidate ledger mutated a historical incident coverage obligation" none none
      (some prior.obligationId))

/-- The obligations of the candidate that are not in the previous ledger. -/
def newObligations (previous candidate : IncidentCoverageLedger) : List IncidentCoverageObligation :=
  candidate.obligations.filter fun o => o.obligationId ∉ previous.ids

/-- The only new obligation. -/
def currentObligation (incidentId : String) : List IncidentCoverageObligation → Gate IncidentCoverageObligation
  | [o] => .ok o
  | _ => .error (reject .currentObligationMissing "candidate ledger must append exactly one obligation for the current incident"
      (some incidentId) none none)

/-- `_validate_ledger_transition`. -/
def validateLedgerTransition (previous candidate : IncidentCoverageLedger) (policy : IncidentFeedbackPolicy)
    (incident : VerifiedIncidentDecision) (requiredMinSeverity : AssuranceSeverity) (signals : List String) (candidateVersion : String) :
    Gate IncidentCoverageObligation := do
  validateLedger rt previous "previous"
  validateLedger rt candidate "candidate"
  raiseIf (ledgerDigest rt previous ≠ rt.casefold policy.expectedPreviousLedgerSha256)
    (reject .ledgerDigestMismatch "previous incident coverage ledger digest does not match policy" none none none)
  raiseIf (candidate.ledgerId ≠ previous.ledgerId ∨ candidate.version ≠ previous.version + 1 ∨
    rt.casefold candidate.previousLedgerSha256 ≠ ledgerDigest rt previous)
    (reject .ledgerVersionInvalid "candidate incident coverage ledger does not extend the exact previous ledger" none none none)
  forEach (checkPrior rt candidate) previous.obligations
  let current ← currentObligation incident.incidentId (newObligations previous candidate)
  raiseIf (current.incidentId ≠ incident.incidentId ∨
    rt.casefold current.incidentBatchSha256 ≠ rt.casefold incident.batchSha256 ∨
    current.requiredMinSeverity ≠ requiredMinSeverity ∨ sortedTexts current.requiredSignalTypes ≠ sortedTexts signals ∨
    current.createdInCorpusVersion ≠ candidateVersion ∨
    rt.casefold current.traceSha256 ≠ incidentTraceDigest rt incident requiredMinSeverity)
    (reject .currentObligationMissing "new ledger obligation does not exactly represent the current verified incident"
      (some incident.incidentId) none (some current.obligationId))
  return current

/-- `_find_obligation_coverage`. -/
def obligationCoverage (candidate : AssuranceCorpus) (o : IncidentCoverageObligation) : List String :=
  sortedTexts ((candidate.cases.filter fun c => contains (marker rt o) c.invariant ∧ c.Blocks ∧
    severityRank o.requiredMinSeverity ≤ severityRank c.severity).map AssuranceCase.caseId)

/-! ## Feedback and its links -/

def validateFeedback (seen : List String) (f : IncidentAssuranceFeedback) (incident : VerifiedIncidentDecision)
    (baseline candidate : AssuranceCorpus) (manifest : CorpusChangeManifest) (previousLedger candidateLedger : IncidentCoverageLedger) :
    Gate Unit := do
  raiseIf (f.schemaVersion ≠ P6F_FEEDBACK_SCHEMA_VERSION ∨ f.feedbackId = "" ∨ f.incidentId = "" ∨ f.deploymentId = "" ∨
    ¬ isSha256 rt f.incidentBatchSha256 ∨ f.incidentRiskPoints < 0 ∨ ¬ isSha256 rt f.baselineCorpusSha256 ∨
    ¬ isSha256 rt f.candidateCorpusSha256 ∨ ¬ isSha256 rt f.changeManifestSha256 ∨ ¬ isSha256 rt f.previousLedgerSha256 ∨
    ¬ isSha256 rt f.candidateLedgerSha256 ∨ f.links.isEmpty ∨ f.createdAtEpoch ≤ 0)
    (reject .feedbackInvalid "incident assurance feedback metadata is invalid" (orNone f.incidentId) none none)
  raiseIf (f.feedbackId ∈ seen)
    (reject .feedbackDuplicate "incident assurance feedback ID was already processed" (some f.incidentId) none none)
  raiseIf (f.incidentId ≠ incident.incidentId ∨ f.deploymentId ≠ incident.deploymentId ∨
    rt.casefold f.incidentBatchSha256 ≠ rt.casefold incident.batchSha256 ∨ f.incidentAction ≠ incident.action ∨
    f.incidentRiskPoints ≠ incident.riskPoints ∨
    canonicalSignalCounts f.incidentSignalCounts ≠ canonicalSignalCounts incident.signalCounts)
    (reject .incidentIdentityMismatch "feedback does not bind to the exact verified P5-I incident" (some f.incidentId) none none)
  raiseIf (rt.casefold f.baselineCorpusSha256 ≠ corpusDigest rt baseline ∨
    rt.casefold f.candidateCorpusSha256 ≠ corpusDigest rt candidate ∨
    rt.casefold f.changeManifestSha256 ≠ changeManifestDigest rt manifest ∨
    rt.casefold f.previousLedgerSha256 ≠ ledgerDigest rt previousLedger ∨
    rt.casefold f.candidateLedgerSha256 ≠ ledgerDigest rt candidateLedger)
    (reject .feedbackDigestMismatch "feedback does not bind to exact corpus/change/ledger evidence" (some f.incidentId) none none)

def validateRequest (request : IncidentFeedbackRequest) (f : IncidentAssuranceFeedback) (incident : VerifiedIncidentDecision)
    (candidate : AssuranceCorpus) (candidateLedger : IncidentCoverageLedger) (evolution : VerifiedCorpusEvolution) : Gate Unit := do
  raiseIf (request.feedbackId = "" ∨ ¬ isSha256 rt request.feedbackSha256 ∨ request.incidentId = "" ∨
    ¬ isSha256 rt request.incidentBatchSha256 ∨ ¬ isSha256 rt request.candidateCorpusSha256 ∨
    ¬ isSha256 rt request.candidateLedgerSha256 ∨ ¬ isSha256 rt request.evolutionEvidenceSha256)
    (reject .feedbackInvalid "incident feedback request metadata is invalid" (orNone request.incidentId) none none)
  raiseIf (request.feedbackId ≠ f.feedbackId ∨ request.incidentId ≠ incident.incidentId ∨
    rt.casefold request.feedbackSha256 ≠ feedbackDigest rt f ∨
    rt.casefold request.incidentBatchSha256 ≠ rt.casefold incident.batchSha256 ∨
    rt.casefold request.candidateCorpusSha256 ≠ corpusDigest rt candidate ∨
    rt.casefold request.candidateLedgerSha256 ≠ ledgerDigest rt candidateLedger ∨
    rt.casefold request.evolutionEvidenceSha256 ≠ rt.casefold evolution.evidenceSha256)
    (reject .feedbackDigestMismatch "feedback request does not bind to exact incident/corpus/ledger/evolution evidence"
      (some request.incidentId) none none)

/-- `for link in feedback.links`, the links before it in `seen`. -/
def validateLink (policy : IncidentFeedbackPolicy) (incident : VerifiedIncidentDecision) (candidate : AssuranceCorpus)
    (manifest : CorpusChangeManifest) (requiredMinSeverity : AssuranceSeverity) (signals : List String)
    (current : IncidentCoverageObligation) (feedbackId : String) (seen : List IncidentCaseLink) (l : IncidentCaseLink) : Gate Unit := do
  let rejected := fun reason message => reject reason message (some incident.incidentId) (some l.caseId) none
  raiseIf (l.caseId = "" ∨ ¬ isSha256 rt l.caseDefinitionSha256 ∨ l.changeId = "" ∨ l.signalTypes = [] ∨ ¬ l.signalTypes.Nodup)
    (reject .feedbackInvalid "incident case link is invalid" (some incident.incidentId) (orNone l.caseId) none)
  raiseIf (l.caseId ∈ seen.map IncidentCaseLink.caseId ∨ l.changeId ∈ seen.map IncidentCaseLink.changeId)
    (rejected .caseLinkDuplicate "incident feedback contains duplicate case/change links")
  let c ← orRaise (rejected .caseLinkMissing "incident feedback references a case absent from the candidate corpus")
    (candidate.find l.caseId)
  raiseIf (rt.casefold l.caseDefinitionSha256 ≠ caseDefinitionDigest rt c)
    (rejected .caseDefinitionMismatch "incident case link does not bind to the exact candidate case definition")
  raiseIf (¬ c.Blocks) (rejected .caseNotSecurityBlock "incident-derived regression coverage must remain an attack-blocking case")
  raiseIf (severityRank c.severity < severityRank requiredMinSeverity)
    (rejected .caseSeverityInsufficient "incident-derived case severity is below the action-derived minimum")
  raiseIf (c.boundary ∉ policy.allowedTargetBoundaries)
    (rejected .caseBoundaryDisallowed "incident-derived case targets a boundary outside feedback policy")
  raiseIf (c.attackClass ≠ policy.requiredAttackClass)
    (rejected .caseAttackClassMismatch "incident-derived case does not use the policy-required attack class")
  raiseIf (¬ contains (marker rt current) c.invariant)
    (rejected .incidentTraceMissing "incident-derived case invariant is missing the exact incident trace digest")
  let noRecord := rejected .changeRecordMissing "incident-derived case lacks the exact P6-C change record"
  let change ← orRaise noRecord (manifest.change l.caseId)
  raiseIf (change.changeId ≠ l.changeId) noRecord
  raiseIf (change.changeType ≠ .add ∧ change.changeType ≠ .modify)
    (rejected .changeTypeInvalid "incident feedback can only bind to added or strengthened cases")
  raiseIf (change.ownerId ∉ policy.trustedChangeOwnerIds)
    (rejected .changeOwnerUntrusted "incident-derived P6-C change owner is not trusted")
  raiseIf (¬ isSha256 rt change.newCaseDefinitionSha256 ∨
    rt.casefold change.newCaseDefinitionSha256 ≠ caseDefinitionDigest rt c)
    (rejected .caseDefinitionMismatch "P6-C change record does not bind to the incident-derived case definition")
  raiseIf (change.reason ≠ expectedChangeReason rt feedbackId incident.incidentId incident.batchSha256)
    (rejected .changeReasonMismatch "P6-C change reason is not explicitly bound to the incident feedback record")
  forEach (fun signal => raiseIf (signal ∉ signals)
    (rejected .signalScopeMismatch "incident case link claims a signal not present in the verified incident")) l.signalTypes

/-- `set(xs).issubset(ys)`. -/
def subset (xs ys : List String) : Prop := ∀ x ∈ xs, x ∈ ys

instance decidableSubset (xs ys : List String) : Decidable (subset xs ys) := inferInstanceAs (Decidable (∀ _ ∈ _, _))

/-- The checks of all links together. -/
def validateScope (incident : VerifiedIncidentDecision) (evolution : VerifiedCorpusEvolution) (signals : List String)
    (links : List IncidentCaseLink) : Gate Unit := do
  raiseIf (¬ Agentic.sameSet (links.flatMap IncidentCaseLink.signalTypes) signals)
    (reject .signalScopeMismatch "incident-derived case links do not cover every material verified incident signal"
      (some incident.incidentId) none none)
  raiseIf (¬ subset (links.map IncidentCaseLink.caseId) (evolution.addedCaseIds ++ evolution.modifiedCaseIds))
    (reject .changeRecordMissing "incident-derived links are not reflected in P6-C added/modified evidence"
      (some incident.incidentId) none none)

/-- Every obligation has a case that covers for it, and the links are such cases for the current one. -/
def validateCoverage (incident : VerifiedIncidentDecision) (candidate : AssuranceCorpus) (ledger : IncidentCoverageLedger)
    (current : IncidentCoverageObligation) (links : List IncidentCaseLink) : Gate Unit := do
  forEach (fun o => raiseIf (obligationCoverage rt candidate o = [])
    (reject .historicalCoverageMissing "candidate corpus no longer contains qualifying coverage for an active incident obligation"
      (some o.incidentId) none (some o.obligationId))) ledger.obligations
  raiseIf (¬ subset (links.map IncidentCaseLink.caseId) (obligationCoverage rt candidate current))
    (reject .caseLinkMissing "explicit incident links are not qualifying coverage for the current obligation"
      (some incident.incidentId) none none)

/-! ## The gate -/

structure Evaluation where
  policy : IncidentFeedbackPolicy
  /-- The ids that the gate has processed. -/
  seenFeedbackIds : List String
  request : IncidentFeedbackRequest
  feedback : IncidentAssuranceFeedback
  incident : VerifiedIncidentDecision
  baseline : AssuranceCorpus
  candidate : AssuranceCorpus
  manifest : CorpusChangeManifest
  evolution : VerifiedCorpusEvolution
  previousLedger : IncidentCoverageLedger
  candidateLedger : IncidentCoverageLedger

def linkedCaseIds (f : IncidentAssuranceFeedback) : List String := sortedTexts (f.links.map IncidentCaseLink.caseId)

def evidenceDocument (e : Evaluation) (signals : List String) : Json := .obj [
  ("active_obligation_ids", texts (sortedTexts e.candidateLedger.ids)),
  ("candidate_corpus_sha256", .str (corpusDigest rt e.candidate)),
  ("candidate_ledger_sha256", .str (ledgerDigest rt e.candidateLedger)),
  ("feedback_sha256", .str (feedbackDigest rt e.feedback)),
  ("incident_batch_sha256", .str (rt.casefold e.incident.batchSha256)), ("incident_id", .str e.incident.incidentId),
  ("linked_case_ids", texts (linkedCaseIds e.feedback)), ("material_signals", texts (sortedTexts signals)),
  ("previous_ledger_sha256", .str (ledgerDigest rt e.previousLedger))]

def verified (e : Evaluation) (signals : List String) (current : IncidentCoverageObligation) : VerifiedIncidentFeedback where
  feedbackId := e.feedback.feedbackId
  incidentId := e.incident.incidentId
  deploymentId := e.incident.deploymentId
  incidentBatchSha256 := rt.casefold e.incident.batchSha256
  incidentAction := e.incident.action
  incidentRiskPoints := e.incident.riskPoints
  baselineCorpusSha256 := corpusDigest rt e.baseline
  candidateCorpusSha256 := corpusDigest rt e.candidate
  changeManifestSha256 := changeManifestDigest rt e.manifest
  previousLedgerSha256 := ledgerDigest rt e.previousLedger
  candidateLedgerSha256 := ledgerDigest rt e.candidateLedger
  currentObligationId := current.obligationId
  currentObligationTraceSha256 := rt.casefold current.traceSha256
  linkedCaseIds := linkedCaseIds e.feedback
  coveredSignalTypes := sortedTexts signals
  activeObligationIds := sortedTexts e.candidateLedger.ids
  feedbackSha256 := feedbackDigest rt e.feedback
  evidenceSha256 := rt.sha256 (evidenceDocument rt e signals)

/-- `IncidentToAssuranceFeedbackGate.evaluate`; on return the gate remembers the feedback id. -/
def evaluate (e : Evaluation) : Gate VerifiedIncidentFeedback := do
  validatePolicy rt e.policy
  let (requiredMinSeverity, signals) ← validateIncident rt e.incident e.policy
  validateCorpus e.baseline "baseline"
  validateCorpus e.candidate "candidate"
  raiseIf (e.baseline.corpusId ≠ e.policy.expectedBaselineCorpusId ∨
    corpusDigest rt e.baseline ≠ rt.casefold e.policy.expectedBaselineCorpusSha256)
    (reject .baselineDigestMismatch "baseline assurance corpus does not match the policy-pinned release" none none none)
  raiseIf (e.candidate.corpusId ≠ e.baseline.corpusId)
    (reject .candidateDigestMismatch "candidate assurance corpus is from a different lineage" none none none)
  validateEvolution rt e.evolution e.baseline e.candidate e.manifest
  let current ← validateLedgerTransition rt e.previousLedger e.candidateLedger e.policy e.incident requiredMinSeverity signals
    e.candidate.version
  validateFeedback rt e.seenFeedbackIds e.feedback e.incident e.baseline e.candidate e.manifest e.previousLedger e.candidateLedger
  validateRequest rt e.request e.feedback e.incident e.candidate e.candidateLedger e.evolution
  raiseIf (¬ (e.manifest.changes.map CorpusChangeRecord.caseId).Nodup)
    (reject .changeRecordMissing "change manifest contains duplicate case records" none none none)
  scan (validateLink rt e.policy e.incident e.candidate e.manifest requiredMinSeverity signals current e.feedback.feedbackId) []
    e.feedback.links
  validateScope e.incident e.evolution signals e.feedback.links
  validateCoverage rt e.incident e.candidate e.candidateLedger current e.feedback.links
  return verified rt e signals current

end

end Aegis.Assurance.Feedback
