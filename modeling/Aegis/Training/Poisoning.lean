/-
  Aegis.Training.Poisoning — `TrainingDataPoisoningAnalyzer` (training/data_poisoning_security.py):
  who contributed and labelled each training record, which records are quarantined, and which are left.

  The record ids the policy pins are its own; of the provenance assessment it reads the identity of
  the dataset, the flags, and two digests.
-/

import Aegis.Training.Provenance

namespace Aegis.Training.Poisoning

open Data Checks Provenance
open Agentic (Runtime sameSet)
open Agentic.Decision (flag sorted)

def p9bPolicyVersion : String := "training-data-poisoning-label-integrity-v1"

def p9bSchemaVersion : String := "aegis-training-poisoning-manifest-v1"

def p9bAssessmentSchemaVersion : String := "aegis-training-poisoning-assessment-v1"

def p9bAssessmentMode : String := "deterministic-evidence-bound-training-poisoning-v1"

inductive ContributorTrust where
  | trusted | reviewed | untrusted
  deriving DecidableEq, Repr

def ContributorTrust.value : ContributorTrust → String
  | trusted => "trusted"
  | reviewed => "reviewed"
  | untrusted => "untrusted"

inductive ReviewDecision where
  | approve | reject
  deriving DecidableEq, Repr

def ReviewDecision.value : ReviewDecision → String
  | approve => "approve"
  | reject => "reject"

inductive PoisoningDecision where
  | allow | deny
  deriving DecidableEq, Repr

def PoisoningDecision.value : PoisoningDecision → String
  | allow => "allow"
  | deny => "deny"

inductive PoisoningRisk where
  | upstreamP9aInvalid | upstreamBindingMismatch | recordCoverageMismatch | recordDigestMismatch | recordSourceMismatch
  | contributorIdentityMismatch | contributorTrustMismatch | contributorWeightMismatch | contributorConcentration | labelMismatch
  | labelConfidenceInvalid | anomalyScoreExceeded | poisoningSignalPresent | duplicateClusterAbuse | reviewRequired | reviewInvalid
  | reviewConflict | quarantineRequired | quarantineBypass | includedRecordSetMismatch
  deriving DecidableEq, Repr

def PoisoningRisk.value : PoisoningRisk → String
  | upstreamP9aInvalid => "upstream_p9a_invalid"
  | upstreamBindingMismatch => "upstream_binding_mismatch"
  | recordCoverageMismatch => "record_coverage_mismatch"
  | recordDigestMismatch => "record_digest_mismatch"
  | recordSourceMismatch => "record_source_mismatch"
  | contributorIdentityMismatch => "contributor_identity_mismatch"
  | contributorTrustMismatch => "contributor_trust_mismatch"
  | contributorWeightMismatch => "contributor_weight_mismatch"
  | contributorConcentration => "contributor_concentration"
  | labelMismatch => "label_mismatch"
  | labelConfidenceInvalid => "label_confidence_invalid"
  | anomalyScoreExceeded => "anomaly_score_exceeded"
  | poisoningSignalPresent => "poisoning_signal_present"
  | duplicateClusterAbuse => "duplicate_cluster_abuse"
  | reviewRequired => "review_required"
  | reviewInvalid => "review_invalid"
  | reviewConflict => "review_conflict"
  | quarantineRequired => "quarantine_required"
  | quarantineBypass => "quarantine_bypass"
  | includedRecordSetMismatch => "included_record_set_mismatch"

/-! ## Evidence -/

structure ContributorEvidence where
  contributorId : String
  trust : ContributorTrust
  trustWeightBps : Int
  deriving DecidableEq, Repr

structure LabelReviewEvidence where
  reviewId : String
  recordId : String
  reviewerId : String
  decision : ReviewDecision
  approvedLabel : String
  reviewedPayloadSha256 : String
  evidenceSha256 : String
  deriving DecidableEq, Repr

structure TrainingRecordSecurityEvidence where
  recordId : String
  payloadSha256 : String
  sourceId : String
  contributorId : String
  label : String
  labelConfidenceBps : Int
  anomalyScoreBps : Int
  poisoningSignalIds : List String
  duplicateClusterId : String
  quarantined : Bool
  reviewIds : List String
  deriving DecidableEq, Repr

structure TrainingPoisoningManifest where
  schemaVersion : String
  manifestId : String
  datasetId : String
  datasetVersion : String
  createdAtEpoch : Int
  p9aAssessmentSha256 : String
  p9aFinalDatasetSha256 : String
  contributors : List ContributorEvidence
  records : List TrainingRecordSecurityEvidence
  reviews : List LabelReviewEvidence
  includedRecordIds : List String
  deriving DecidableEq, Repr

structure TrainingPoisoningPolicy where
  policyVersion : String
  expectedManifestId : String
  expectedDatasetId : String
  expectedDatasetVersion : String
  expectedManifestSha256 : String
  expectedP9aAssessmentSha256 : String
  expectedP9aFinalDatasetSha256 : String
  expectedRecordSha256ById : Mapping String String
  expectedSourceByRecordId : Mapping String String
  expectedContributorByRecordId : Mapping String String
  expectedLabelByRecordId : Mapping String String
  contributorTrustById : Mapping String ContributorTrust
  contributorWeightBpsById : Mapping String Int
  trustedReviewerIds : List String
  minimumReviewWeightBps : Int
  maxContributorShareBps : Int
  maxAnomalyScoreBps : Int
  maxDuplicateClusterSize : Int
  allowedPoisoningSignalIds : List String
  minLabelConfidenceBps : Int
  maxManifestAgeSeconds : Int
  maxFutureSkewSeconds : Int
  deriving DecidableEq, Repr

structure TrainingPoisoningRequest where
  manifestId : String
  manifestSha256 : String
  datasetId : String
  datasetVersion : String
  evaluatedAtEpoch : Int
  declaredIncludedRecordIds : List String
  declaredQuarantinedRecordIds : List String
  declaredWeightedRiskScore : Int
  declaredTrainingDataSafe : Bool
  declaredLabelIntegrityVerified : Bool
  deriving DecidableEq, Repr

structure VerifiedTrainingPoisoningAssessment where
  manifestId : String
  datasetId : String
  datasetVersion : String
  decision : PoisoningDecision
  risks : List PoisoningRisk
  recordCount : Int
  includedRecordIds : List String
  quarantinedRecordIds : List String
  contributorCount : Int
  reviewedRecordCount : Int
  weightedRiskScore : Int
  upstreamP9aBound : Bool
  recordIntegrityVerified : Bool
  labelIntegrityVerified : Bool
  contributorTrustVerified : Bool
  poisoningIndicatorsClear : Bool
  callerDeclaredTrainingDataSafetyTrusted : Bool
  productionDataQualityPlatformIntegrated : Bool
  semanticPoisoningDetectionValidated : Bool
  humanReviewIdentityCryptographicallyAuthenticated : Bool
  assessmentSchemaVersion : String
  assessmentMode : String
  assessmentEvidenceSha256 : String
  deriving DecidableEq, Repr

/-! ## Digests -/

def ContributorEvidence.toJson (c : ContributorEvidence) : Json :=
  .obj [("contributor_id", .str c.contributorId), ("trust", .str c.trust.value), ("trust_weight_bps", .int c.trustWeightBps)]

def LabelReviewEvidence.toJson (v : LabelReviewEvidence) : Json :=
  .obj [("approved_label", .str v.approvedLabel), ("decision", .str v.decision.value), ("evidence_sha256", .str v.evidenceSha256),
    ("record_id", .str v.recordId), ("review_id", .str v.reviewId), ("reviewed_payload_sha256", .str v.reviewedPayloadSha256),
    ("reviewer_id", .str v.reviewerId)]

def TrainingRecordSecurityEvidence.toJson (r : TrainingRecordSecurityEvidence) : Json :=
  .obj [("anomaly_score_bps", .int r.anomalyScoreBps), ("contributor_id", .str r.contributorId),
    ("duplicate_cluster_id", .str r.duplicateClusterId), ("label", .str r.label), ("label_confidence_bps", .int r.labelConfidenceBps),
    ("payload_sha256", .str r.payloadSha256), ("poisoning_signal_ids", texts r.poisoningSignalIds), ("quarantined", .bool r.quarantined),
    ("record_id", .str r.recordId), ("review_ids", texts r.reviewIds), ("source_id", .str r.sourceId)]

def TrainingPoisoningManifest.toJson (m : TrainingPoisoningManifest) : Json :=
  .obj [("contributors", .arr (m.contributors.map ContributorEvidence.toJson)), ("created_at_epoch", .int m.createdAtEpoch),
    ("dataset_id", .str m.datasetId), ("dataset_version", .str m.datasetVersion), ("included_record_ids", texts m.includedRecordIds),
    ("manifest_id", .str m.manifestId), ("p9a_assessment_sha256", .str m.p9aAssessmentSha256),
    ("p9a_final_dataset_sha256", .str m.p9aFinalDatasetSha256),
    ("records", .arr (m.records.map TrainingRecordSecurityEvidence.toJson)),
    ("reviews", .arr (m.reviews.map LabelReviewEvidence.toJson)), ("schema_version", .str m.schemaVersion)]

variable (rt : Runtime)

def reviewEvidenceDigest (v : LabelReviewEvidence) : String :=
  rt.sha256 (.obj [("approved_label", .str v.approvedLabel), ("decision", .str v.decision.value), ("record_id", .str v.recordId),
    ("review_id", .str v.reviewId), ("reviewed_payload_sha256", .str v.reviewedPayloadSha256), ("reviewer_id", .str v.reviewerId)])

def trainingPoisoningManifestDigest (m : TrainingPoisoningManifest) : String := rt.sha256 m.toJson

/-! ## The policy and the manifest -/

/-- `_validate_policy`. -/
def validatePolicy (p : TrainingPoisoningPolicy) : Check Unit := do
  raiseIf (p.policyVersion ≠ p9bPolicyVersion) (policyInvalid "unexpected policy version")
  raiseIf (p.expectedManifestId = "" ∨ p.expectedDatasetId = "" ∨ p.expectedDatasetVersion = "") (policyInvalid "identity pins required")
  raiseIf (¬ ∀ s ∈ [p.expectedManifestSha256, p.expectedP9aAssessmentSha256, p.expectedP9aFinalDatasetSha256], isSha s = true)
    (policyInvalid "digest pins must be sha256")
  raiseIf (∃ keys ∈ [p.expectedSourceByRecordId.keys, p.expectedContributorByRecordId.keys, p.expectedLabelByRecordId.keys],
    ¬ sameSet keys p.expectedRecordSha256ById.keys) (policyInvalid "record maps must cover identical IDs")
  raiseIf (¬ sameSet p.contributorTrustById.keys p.contributorWeightBpsById.keys) (policyInvalid "contributor maps mismatch")
  raiseIf (¬ (0 ≤ p.minimumReviewWeightBps ∧ p.minimumReviewWeightBps ≤ 10000 ∧ 0 < p.maxContributorShareBps ∧
    p.maxContributorShareBps ≤ 10000 ∧ 0 ≤ p.maxAnomalyScoreBps ∧ p.maxAnomalyScoreBps ≤ 10000 ∧ 0 ≤ p.minLabelConfidenceBps ∧
    p.minLabelConfidenceBps ≤ 10000 ∧ p.maxDuplicateClusterSize > 0)) (policyInvalid "invalid thresholds")
  raiseIf (p.maxManifestAgeSeconds < 0 ∨ p.maxFutureSkewSeconds < 0) (policyInvalid "invalid freshness")

def validateRecord (r : TrainingRecordSecurityEvidence) : Check Unit := do
  raiseIf (r.recordId = "" ∨ r.sourceId = "" ∨ r.contributorId = "" ∨ r.label = "" ∨ isSha r.payloadSha256 = false)
    (manifestInvalid "invalid record evidence")
  raiseIf (¬ (0 ≤ r.labelConfidenceBps ∧ r.labelConfidenceBps ≤ 10000) ∨ ¬ (0 ≤ r.anomalyScoreBps ∧ r.anomalyScoreBps ≤ 10000))
    (manifestInvalid "invalid record scores")
  raiseIf (¬ r.poisoningSignalIds.Nodup ∨ ¬ r.reviewIds.Nodup) (manifestInvalid "duplicate record signal/review IDs")

/-- `_validate_manifest`. -/
def validateManifest (p : TrainingPoisoningPolicy) (m : TrainingPoisoningManifest) : Check Unit := do
  raiseIf (m.schemaVersion ≠ p9bSchemaVersion ∨ m.manifestId ≠ p.expectedManifestId ∨ m.datasetId ≠ p.expectedDatasetId ∨
    m.datasetVersion ≠ p.expectedDatasetVersion) (manifestInvalid "manifest identity/schema mismatch")
  raiseIf (isSha m.p9aAssessmentSha256 = false ∨ isSha m.p9aFinalDatasetSha256 = false) (manifestInvalid "upstream digests invalid")
  raiseIf (¬ (m.contributors.map (·.contributorId)).Nodup) (manifestInvalid "duplicate contributor IDs")
  raiseIf (¬ (m.records.map (·.recordId)).Nodup) (manifestInvalid "duplicate record IDs")
  raiseIf (¬ (m.reviews.map (·.reviewId)).Nodup) (manifestInvalid "duplicate review IDs")
  raiseIf (¬ m.includedRecordIds.Nodup) (manifestInvalid "duplicate included record IDs")
  raiseIf (∃ c ∈ m.contributors, c.contributorId = "" ∨ ¬ (0 ≤ c.trustWeightBps ∧ c.trustWeightBps ≤ 10000))
    (manifestInvalid "invalid contributor evidence")
  forEach validateRecord m.records
  raiseIf (∃ v ∈ m.reviews, v.reviewId = "" ∨ v.recordId = "" ∨ v.reviewerId = "" ∨ isSha v.reviewedPayloadSha256 = false ∨
    isSha v.evidenceSha256 = false) (manifestInvalid "invalid review evidence")

/-- `_validate_upstream`. -/
def UpstreamOk (p : TrainingPoisoningPolicy) (a : VerifiedTrainingDatasetAssessment) : Prop :=
  a.decision = .allow ∧ a.risks = [] ∧
    (∀ f ∈ [a.exactManifestBindingVerified, a.trustedSourceSnapshotsVerified, a.recordHashCoverageVerified, a.splitIsolationVerified,
      a.transformLineageVerified], f = true) ∧
    a.datasetId = p.expectedDatasetId ∧ a.datasetVersion = p.expectedDatasetVersion ∧
    (∀ f ∈ [a.callerDeclaredTrainingDataSafetyTrusted, a.productionDataLakeIntegration, a.productionTrainingPipelineAttestation,
      a.cryptographicSourceAuthentication], f = false) ∧
    a.assessmentSchemaVersion = p9aAssessmentSchemaVersion ∧ a.assessmentMode = p9aAssessmentMode ∧ a.networkOperations = 0

instance decidableUpstreamOk (p : TrainingPoisoningPolicy) (a : VerifiedTrainingDatasetAssessment) : Decidable (UpstreamOk p a) := by
  unfold UpstreamOk
  infer_instance

/-! ## Risks -/

variable (p : TrainingPoisoningPolicy) (m : TrainingPoisoningManifest)

def bindingRisks (a : VerifiedTrainingDatasetAssessment) : List PoisoningRisk :=
  flag (¬ UpstreamOk p a) PoisoningRisk.upstreamP9aInvalid ++
  flag (rt.casefold m.p9aAssessmentSha256 ≠ rt.casefold p.expectedP9aAssessmentSha256 ∨
    rt.casefold a.assessmentEvidenceSha256 ≠ rt.casefold p.expectedP9aAssessmentSha256 ∨
    rt.casefold m.p9aFinalDatasetSha256 ≠ rt.casefold p.expectedP9aFinalDatasetSha256 ∨
    rt.casefold a.finalDatasetSha256 ≠ rt.casefold p.expectedP9aFinalDatasetSha256) .upstreamBindingMismatch

def contributorRisks : List PoisoningRisk :=
  let expected := p.contributorTrustById.keys
  flag (¬ sameSet (m.contributors.map (·.contributorId)) expected) PoisoningRisk.contributorIdentityMismatch ++
  (m.contributors.filter (·.contributorId ∈ expected)).flatMap fun c =>
    flag (p.contributorTrustById.get? c.contributorId ≠ some c.trust) PoisoningRisk.contributorTrustMismatch ++
    flag (p.contributorWeightBpsById.get? c.contributorId ≠ some c.trustWeightBps) PoisoningRisk.contributorWeightMismatch

/-- `expected_ids & set(records)`, as the records. -/
def sharedRecords : List TrainingRecordSecurityEvidence := m.records.filter (·.recordId ∈ p.expectedRecordSha256ById.keys)

/-- `weight`. -/
def TrainingPoisoningManifest.weight (contributorId : String) : Int :=
  match m.contributors.find? (·.contributorId = contributorId) with
  | none => 0
  | some c => c.trustWeightBps

/-- A review the record `r` names that stands up. -/
def ValidReview (r : TrainingRecordSecurityEvidence) (v : LabelReviewEvidence) : Prop :=
  v.recordId = r.recordId ∧ v.reviewerId ∈ p.trustedReviewerIds ∧ rt.casefold v.reviewedPayloadSha256 = rt.casefold r.payloadSha256 ∧
    rt.casefold v.evidenceSha256 = rt.casefold (reviewEvidenceDigest rt v)

instance decidableValidReview (r : TrainingRecordSecurityEvidence) (v : LabelReviewEvidence) : Decidable (ValidReview rt p r v) := by
  unfold ValidReview
  infer_instance

/-- `reviews.get(review_id)`. -/
def TrainingPoisoningManifest.review? (reviewId : String) : Option LabelReviewEvidence := m.reviews.find? (·.reviewId = reviewId)

/-- `valid_reviews`. -/
def validReviews (r : TrainingRecordSecurityEvidence) : List LabelReviewEvidence :=
  r.reviewIds.filterMap fun reviewId => (m.review? reviewId).filter (ValidReview rt p r ·)

/-- `approved`, the labels the valid reviews approve of. -/
def approvedLabels (r : TrainingRecordSecurityEvidence) : List String :=
  (((validReviews rt p m r).filter (·.decision = .approve)).map (·.approvedLabel)).dedup

def AnomalyExceeded (r : TrainingRecordSecurityEvidence) : Prop := r.anomalyScoreBps > p.maxAnomalyScoreBps

def SignalPresent (r : TrainingRecordSecurityEvidence) : Prop := ∃ signal ∈ r.poisoningSignalIds, signal ∉ p.allowedPoisoningSignalIds

def ReviewMissing (r : TrainingRecordSecurityEvidence) : Prop :=
  m.weight r.contributorId < p.minimumReviewWeightBps ∧ validReviews rt p m r = []

def ReviewsConflict (r : TrainingRecordSecurityEvidence) : Prop :=
  (approvedLabels rt p m r).length > 1 ∨ (approvedLabels rt p m r ≠ [] ∧ r.label ∉ approvedLabels rt p m r) ∨
    ∃ v ∈ validReviews rt p m r, v.decision = .reject

/-- `rid in computed_quarantine`. -/
def NeedsQuarantine (r : TrainingRecordSecurityEvidence) : Prop :=
  AnomalyExceeded p r ∨ SignalPresent p r ∨ ReviewMissing rt p m r ∨ ReviewsConflict rt p m r

instance decidableAnomalyExceeded (r : TrainingRecordSecurityEvidence) : Decidable (AnomalyExceeded p r) := by
  unfold AnomalyExceeded
  infer_instance

instance decidableSignalPresent (r : TrainingRecordSecurityEvidence) : Decidable (SignalPresent p r) := by
  unfold SignalPresent
  infer_instance

instance decidableReviewMissing (r : TrainingRecordSecurityEvidence) : Decidable (ReviewMissing rt p m r) := by
  unfold ReviewMissing
  infer_instance

instance decidableReviewsConflict (r : TrainingRecordSecurityEvidence) : Decidable (ReviewsConflict rt p m r) := by
  unfold ReviewsConflict
  infer_instance

instance decidableNeedsQuarantine (r : TrainingRecordSecurityEvidence) : Decidable (NeedsQuarantine rt p m r) := by
  unfold NeedsQuarantine
  infer_instance

/-- What is wrong with a record the policy expects. -/
def recordRisksOf (r : TrainingRecordSecurityEvidence) : List PoisoningRisk :=
  flag ((p.expectedRecordSha256ById.get? r.recordId).map rt.casefold ≠ some (rt.casefold r.payloadSha256))
    PoisoningRisk.recordDigestMismatch ++
  flag (p.expectedSourceByRecordId.get? r.recordId ≠ some r.sourceId) PoisoningRisk.recordSourceMismatch ++
  flag (p.expectedContributorByRecordId.get? r.recordId ≠ some r.contributorId ∨ r.contributorId ∉ m.contributors.map (·.contributorId))
    PoisoningRisk.contributorIdentityMismatch ++
  flag (p.expectedLabelByRecordId.get? r.recordId ≠ some r.label) PoisoningRisk.labelMismatch ++
  flag (r.labelConfidenceBps < p.minLabelConfidenceBps) PoisoningRisk.labelConfidenceInvalid ++
  flag (AnomalyExceeded p r) PoisoningRisk.anomalyScoreExceeded ++
  flag (SignalPresent p r) PoisoningRisk.poisoningSignalPresent ++
  flag (∃ reviewId ∈ r.reviewIds, ¬ ∃ v ∈ m.review? reviewId, ValidReview rt p r v) PoisoningRisk.reviewInvalid ++
  flag (ReviewMissing rt p m r) PoisoningRisk.reviewRequired ++
  flag (ReviewsConflict rt p m r) PoisoningRisk.reviewConflict ++
  flag (r.quarantined = true ∧ ¬ NeedsQuarantine rt p m r) PoisoningRisk.quarantineBypass

/-- `counts[contributor_id]`. -/
def contributorCount (contributorId : String) : Int := ((sharedRecords p m).filter (·.contributorId = contributorId)).length

/-- `cluster_counts[cluster_id]`. -/
def clusterCount (clusterId : String) : Int := ((sharedRecords p m).filter (·.duplicateClusterId = clusterId)).length

/-- `declared_q`. -/
def TrainingPoisoningManifest.declaredQuarantine : List String := (m.records.filter (·.quarantined)).map (·.recordId)

/-- `expected_included`. -/
def TrainingPoisoningManifest.expectedIncluded : List String :=
  sortOn id ((m.records.map (·.recordId)).filter (· ∉ m.declaredQuarantine))

def datasetRisks : List PoisoningRisk :=
  let total : Int := max 1 m.records.length
  flag (∃ c ∈ m.contributors, contributorCount p m c.contributorId * 10000 / total > p.maxContributorShareBps)
    PoisoningRisk.contributorConcentration ++
  flag (∃ r ∈ sharedRecords p m, r.duplicateClusterId ≠ "" ∧ clusterCount p m r.duplicateClusterId > p.maxDuplicateClusterSize)
    PoisoningRisk.duplicateClusterAbuse ++
  flag (∃ r ∈ sharedRecords p m, NeedsQuarantine rt p m r ∧ r.recordId ∉ m.declaredQuarantine) PoisoningRisk.quarantineRequired ++
  flag (sortOn id m.includedRecordIds ≠ m.expectedIncluded) PoisoningRisk.includedRecordSetMismatch

/-- `risks`. -/
def risksOf (a : VerifiedTrainingDatasetAssessment) : List PoisoningRisk :=
  bindingRisks rt p m a ++
  flag (¬ sameSet (m.records.map (·.recordId)) p.expectedRecordSha256ById.keys) PoisoningRisk.recordCoverageMismatch ++
  contributorRisks p m ++ (sharedRecords p m).flatMap (recordRisksOf rt p m) ++ datasetRisks rt p m

/-- `reviewed_count`. -/
def reviewedCount : Int := ((sharedRecords p m).filter fun r => validReviews rt p m r ≠ []).length

/-- `weighted_score`. -/
def weightedScore : Int :=
  ((sharedRecords p m).map fun r =>
    (10000 - m.weight r.contributorId) * (r.anomalyScoreBps + 1000 * (r.poisoningSignalIds.length : Int)) / 10000).sum

/-- What `derive` returns. -/
structure Derived where
  risks : List PoisoningRisk
  included : List String
  quarantined : List String
  reviewedCount : Int
  weightedScore : Int
  deriving DecidableEq, Repr

/-- `derive`. -/
def derive (a : VerifiedTrainingDatasetAssessment) : Check Derived := do
  validateManifest p m
  pure {
    risks := sorted PoisoningRisk.value (risksOf rt p m a)
    included := m.expectedIncluded
    quarantined := sortOn id m.declaredQuarantine
    reviewedCount := reviewedCount rt p m
    weightedScore := weightedScore p m }

/-! ## The assessment -/

def assessmentJson (decision : PoisoningDecision) (d : Derived) : Json :=
  .obj [("decision", .str decision.value), ("included", texts d.included), ("manifest", .str m.manifestId), ("mode", .str p9bAssessmentMode),
    ("p9a", .str m.p9aAssessmentSha256), ("quarantined", texts d.quarantined), ("risks", texts (d.risks.map PoisoningRisk.value)),
    ("schema", .str p9bAssessmentSchemaVersion), ("score", .int d.weightedScore)]

/-- `evaluate`. -/
def evaluate (request : TrainingPoisoningRequest) (a : VerifiedTrainingDatasetAssessment) : Check VerifiedTrainingPoisoningAssessment := do
  validateManifest p m
  let actual := trainingPoisoningManifestDigest rt m
  raiseIf (rt.casefold actual ≠ rt.casefold p.expectedManifestSha256) ⟨.manifestDigestMismatch, "manifest differs from policy pin"⟩
  raiseIf (request.manifestId ≠ m.manifestId ∨ rt.casefold request.manifestSha256 ≠ actual ∨ request.datasetId ≠ m.datasetId ∨
    request.datasetVersion ≠ m.datasetVersion) (requestInvalid "request binding mismatch")
  raiseIf (request.evaluatedAtEpoch < m.createdAtEpoch - p.maxFutureSkewSeconds ∨
    request.evaluatedAtEpoch > m.createdAtEpoch + p.maxManifestAgeSeconds) (requestInvalid "manifest freshness invalid")
  let d ← derive rt p m a
  let decision := if d.risks = [] then PoisoningDecision.allow else .deny
  raiseIf (sortOn id request.declaredIncludedRecordIds ≠ d.included ∨ sortOn id request.declaredQuarantinedRecordIds ≠ d.quarantined ∨
    request.declaredWeightedRiskScore ≠ d.weightedScore ∨ request.declaredTrainingDataSafe ≠ decide (decision = .allow) ∨
    request.declaredLabelIntegrityVerified ≠ decide (PoisoningRisk.labelMismatch ∉ d.risks))
    (summaryMismatch "caller summary differs from evidence")
  pure {
    manifestId := m.manifestId
    datasetId := m.datasetId
    datasetVersion := m.datasetVersion
    decision
    risks := d.risks
    recordCount := m.records.length
    includedRecordIds := d.included
    quarantinedRecordIds := d.quarantined
    contributorCount := m.contributors.length
    reviewedRecordCount := d.reviewedCount
    weightedRiskScore := d.weightedScore
    upstreamP9aBound := clear d.risks [.upstreamP9aInvalid, .upstreamBindingMismatch]
    recordIntegrityVerified := clear d.risks [.recordCoverageMismatch, .recordDigestMismatch, .recordSourceMismatch]
    labelIntegrityVerified := clear d.risks [.labelMismatch]
    contributorTrustVerified := clear d.risks
      [.contributorIdentityMismatch, .contributorTrustMismatch, .contributorWeightMismatch, .contributorConcentration]
    poisoningIndicatorsClear := clear d.risks [.anomalyScoreExceeded, .poisoningSignalPresent, .duplicateClusterAbuse]
    callerDeclaredTrainingDataSafetyTrusted := false
    productionDataQualityPlatformIntegrated := false
    semanticPoisoningDetectionValidated := false
    humanReviewIdentityCryptographicallyAuthenticated := false
    assessmentSchemaVersion := p9bAssessmentSchemaVersion
    assessmentMode := p9bAssessmentMode
    assessmentEvidenceSha256 := rt.sha256 (assessmentJson m decision d) }

end Aegis.Training.Poisoning
