/-
  Aegis.Training.Provenance — `TrainingDatasetProvenanceAnalyzer` (training/data_provenance_security.py):
  where a training dataset comes from, how its records are split, and the chain of transforms from
  its raw digest to its final one.

  A mapping is the list of its items, which name each key once. A set of risks is a list in which a risk may
  stand more than once until it is sorted.
-/

import Aegis.Agentic.Decision
import Mathlib.Algebra.Ring.Int.Defs

namespace Aegis.Training

open Data Checks
open Agentic (Runtime sameSet)
open Agentic.Decision (flag sorted)

/-- The members of `TrainingDataRejectReason`, which the analyzers of this package have in common. -/
inductive RejectReason where
  | policyInvalid | manifestInvalid | manifestDigestMismatch | requestInvalid | declaredSummaryMismatch
  deriving DecidableEq, Repr

structure Rejected where
  reason : RejectReason
  message : String
  deriving DecidableEq, Repr

abbrev Check := Except Rejected

/-- `_sha`: `[0-9a-fA-F]{64}`, the whole text. -/
def isSha (s : String) : Bool :=
  s.toList.length = 64 && s.toList.all fun c => ('0' ≤ c && c ≤ '9') || ('a' ≤ c && c ≤ 'f') || ('A' ≤ c && c ≤ 'F')

def zeroSha256 : String := Agentic.hex '0'

abbrev Mapping (κ α : Type) := List (κ × α)

def Mapping.keys {κ α : Type} (m : Mapping κ α) : List κ := m.map (·.1)

def Mapping.values {κ α : Type} (m : Mapping κ α) : List α := m.map (·.2)

def Mapping.get? {κ α : Type} [DecidableEq κ] (m : Mapping κ α) (k : κ) : Option α := (m.find? fun item => item.1 = k).map (·.2)

namespace Provenance

def p9aDatasetPolicyVersion : String := "training-dataset-provenance-lineage-v1"

def p9aDatasetSchemaVersion : String := "aegis-training-dataset-manifest-v1"

def p9aAssessmentSchemaVersion : String := "aegis-training-dataset-assessment-v1"

def p9aAssessmentMode : String := "deterministic-evidence-bound-training-data-provenance-v1"

inductive DatasetSplit where
  | train | validation | test
  deriving DecidableEq, Repr

def DatasetSplit.value : DatasetSplit → String
  | train => "train"
  | validation => "validation"
  | test => "test"

/-- `for split in DatasetSplit`. -/
def DatasetSplit.all : List DatasetSplit := [train, validation, test]

/-- The splits in the order of their values. -/
def DatasetSplit.sorted : List DatasetSplit := [test, train, validation]

inductive TransformKind where
  | normalizeText | deduplicateExact | canonicalizeFields
  deriving DecidableEq, Repr

def TransformKind.value : TransformKind → String
  | normalizeText => "normalize_text"
  | deduplicateExact => "deduplicate_exact"
  | canonicalizeFields => "canonicalize_fields"

inductive TrainingDataDecision where
  | allow | deny
  deriving DecidableEq, Repr

def TrainingDataDecision.value : TrainingDataDecision → String
  | allow => "allow"
  | deny => "deny"

inductive TrainingDataRisk where
  | sourceIdentityMismatch | sourceOwnerUntrusted | sourceUriUntrusted | sourceRevisionMismatch | sourceDigestMismatch
  | sourceTimeInvalid | recordCoverageMismatch | recordDigestMismatch | recordSourceMismatch | recordKeyMismatch
  | recordParentMismatch | recordParentMissing | splitCoverageMismatch | splitAssignmentMismatch | splitOverlap | holdoutLeakage
  | transformCoverageMismatch | transformUnauthorized | transformOwnerMismatch | transformConfigMismatch | transformChainBroken
  | finalDatasetDigestMismatch | networkSideEffectReported
  deriving DecidableEq, Repr

def TrainingDataRisk.value : TrainingDataRisk → String
  | sourceIdentityMismatch => "source_identity_mismatch"
  | sourceOwnerUntrusted => "source_owner_untrusted"
  | sourceUriUntrusted => "source_uri_untrusted"
  | sourceRevisionMismatch => "source_revision_mismatch"
  | sourceDigestMismatch => "source_digest_mismatch"
  | sourceTimeInvalid => "source_time_invalid"
  | recordCoverageMismatch => "record_coverage_mismatch"
  | recordDigestMismatch => "record_digest_mismatch"
  | recordSourceMismatch => "record_source_mismatch"
  | recordKeyMismatch => "record_key_mismatch"
  | recordParentMismatch => "record_parent_mismatch"
  | recordParentMissing => "record_parent_missing"
  | splitCoverageMismatch => "split_coverage_mismatch"
  | splitAssignmentMismatch => "split_assignment_mismatch"
  | splitOverlap => "split_overlap"
  | holdoutLeakage => "holdout_leakage"
  | transformCoverageMismatch => "transform_coverage_mismatch"
  | transformUnauthorized => "transform_unauthorized"
  | transformOwnerMismatch => "transform_owner_mismatch"
  | transformConfigMismatch => "transform_config_mismatch"
  | transformChainBroken => "transform_chain_broken"
  | finalDatasetDigestMismatch => "final_dataset_digest_mismatch"
  | networkSideEffectReported => "network_side_effect_reported"

/-! ## Evidence -/

structure DatasetSourceSnapshot where
  sourceId : String
  owner : String
  uri : String
  revision : String
  snapshotSha256 : String
  observedAtEpoch : Int
  deriving DecidableEq, Repr

structure DatasetRecordEvidence where
  recordId : String
  sourceId : String
  sourceRecordKey : String
  payloadSha256 : String
  parentRecordIds : List String
  deriving DecidableEq, Repr

structure DatasetTransformEvidence where
  transformId : String
  kind : TransformKind
  owner : String
  configSha256 : String
  inputDatasetSha256 : String
  outputDatasetSha256 : String
  predecessorTransformSha256 : String
  networkOperations : Int
  deriving DecidableEq, Repr

structure TrainingDatasetManifest where
  schemaVersion : String
  manifestId : String
  datasetId : String
  datasetVersion : String
  createdAtEpoch : Int
  sourceSnapshots : List DatasetSourceSnapshot
  records : List DatasetRecordEvidence
  splitRecordIdsBySplit : Mapping DatasetSplit (List String)
  transforms : List DatasetTransformEvidence
  finalDatasetSha256 : String
  deriving DecidableEq, Repr

structure TrainingDatasetPolicy where
  policyVersion : String
  expectedManifestId : String
  expectedDatasetId : String
  expectedDatasetVersion : String
  expectedManifestSha256 : String
  trustedSourceOwners : List String
  allowedSourceUriPrefixByOwner : Mapping String String
  expectedSourceRevisionById : Mapping String String
  expectedSourceSnapshotSha256ById : Mapping String String
  expectedRecordSha256ById : Mapping String String
  expectedRecordSourceById : Mapping String String
  expectedRecordKeyById : Mapping String String
  expectedParentRecordIdsById : Mapping String (List String)
  expectedSplitByRecordId : Mapping String DatasetSplit
  expectedTransformOrder : List String
  expectedTransformKindById : Mapping String TransformKind
  expectedTransformOwnerById : Mapping String String
  expectedTransformConfigSha256ById : Mapping String String
  expectedFinalDatasetSha256 : String
  maxManifestAgeSeconds : Int
  maxFutureSkewSeconds : Int
  maxSourceAgeSeconds : Int
  deriving DecidableEq, Repr

structure TrainingDatasetRequest where
  manifestId : String
  manifestSha256 : String
  datasetId : String
  datasetVersion : String
  evaluatedAtEpoch : Int
  declaredSourceIds : List String
  declaredRecordCount : Int
  declaredSplitCounts : Mapping DatasetSplit Int
  declaredFinalDatasetSha256 : String
  declaredTrainingDataSafe : Bool
  declaredProvenanceComplete : Bool
  deriving DecidableEq, Repr

structure VerifiedTrainingDatasetAssessment where
  manifestId : String
  datasetId : String
  datasetVersion : String
  decision : TrainingDataDecision
  risks : List TrainingDataRisk
  sourceCount : Int
  recordCount : Int
  splitCounts : Mapping DatasetSplit Int
  transformCount : Int
  finalDatasetSha256 : String
  exactManifestBindingVerified : Bool
  trustedSourceSnapshotsVerified : Bool
  recordHashCoverageVerified : Bool
  splitIsolationVerified : Bool
  transformLineageVerified : Bool
  callerDeclaredTrainingDataSafetyTrusted : Bool
  productionDataLakeIntegration : Bool
  productionTrainingPipelineAttestation : Bool
  cryptographicSourceAuthentication : Bool
  networkOperations : Int
  assessmentSchemaVersion : String
  assessmentMode : String
  assessmentEvidenceSha256 : String
  deriving DecidableEq, Repr

/-! ## Digests

`digest_json` sorts the keys of what it hashes, so the fields stand in that order. -/

def texts (xs : List String) : Json := .arr (xs.map .str)

def DatasetSourceSnapshot.toJson (s : DatasetSourceSnapshot) : Json :=
  .obj [("observed_at_epoch", .int s.observedAtEpoch), ("owner", .str s.owner), ("revision", .str s.revision),
    ("snapshot_sha256", .str s.snapshotSha256), ("source_id", .str s.sourceId), ("uri", .str s.uri)]

def DatasetRecordEvidence.toJson (r : DatasetRecordEvidence) : Json :=
  .obj [("parent_record_ids", texts r.parentRecordIds), ("payload_sha256", .str r.payloadSha256), ("record_id", .str r.recordId),
    ("source_id", .str r.sourceId), ("source_record_key", .str r.sourceRecordKey)]

def DatasetTransformEvidence.toJson (t : DatasetTransformEvidence) : Json :=
  .obj [("config_sha256", .str t.configSha256), ("input_dataset_sha256", .str t.inputDatasetSha256), ("kind", .str t.kind.value),
    ("network_operations", .int t.networkOperations), ("output_dataset_sha256", .str t.outputDatasetSha256), ("owner", .str t.owner),
    ("predecessor_transform_sha256", .str t.predecessorTransformSha256), ("transform_id", .str t.transformId)]

/-- A mapping by splits, its keys in the order of their values. -/
def splitsJson {α : Type} (toJson : α → Json) (m : Mapping DatasetSplit α) : Json :=
  .obj (DatasetSplit.sorted.filterMap fun split => (m.get? split).map fun x => (split.value, toJson x))

def TrainingDatasetManifest.toJson (m : TrainingDatasetManifest) : Json :=
  .obj [("created_at_epoch", .int m.createdAtEpoch), ("dataset_id", .str m.datasetId), ("dataset_version", .str m.datasetVersion),
    ("final_dataset_sha256", .str m.finalDatasetSha256), ("manifest_id", .str m.manifestId),
    ("records", .arr (m.records.map DatasetRecordEvidence.toJson)), ("schema_version", .str m.schemaVersion),
    ("source_snapshots", .arr (m.sourceSnapshots.map DatasetSourceSnapshot.toJson)),
    ("split_record_ids_by_split", splitsJson texts m.splitRecordIdsBySplit),
    ("transforms", .arr (m.transforms.map DatasetTransformEvidence.toJson))]

def TrainingDatasetManifest.rawJson (m : TrainingDatasetManifest) : Json :=
  .obj [("records", .arr (m.records.map DatasetRecordEvidence.toJson)),
    ("source_snapshots", .arr (m.sourceSnapshots.map DatasetSourceSnapshot.toJson)),
    ("split_record_ids_by_split", splitsJson texts m.splitRecordIdsBySplit)]

variable (rt : Runtime)

def trainingDatasetManifestDigest (m : TrainingDatasetManifest) : String := rt.sha256 m.toJson

def rawDatasetDigest (m : TrainingDatasetManifest) : String := rt.sha256 m.rawJson

def transformEvidenceDigest (t : DatasetTransformEvidence) : String := rt.sha256 t.toJson

def deterministicTransformOutputDigest (inputDatasetSha256 transformId : String) (kind : TransformKind) (owner configSha256 : String) :
    String :=
  rt.sha256 (.obj [("config_sha256", .str (rt.casefold configSha256)), ("input_dataset_sha256", .str (rt.casefold inputDatasetSha256)),
    ("kind", .str kind.value), ("owner", .str owner), ("transform_id", .str transformId)])

/-! ## The policy -/

def policyInvalid (message : String) : Rejected := ⟨.policyInvalid, message⟩

/-- `_validate_policy`. -/
def validatePolicy (p : TrainingDatasetPolicy) : Check Unit := do
  raiseIf (p.policyVersion ≠ p9aDatasetPolicyVersion) (policyInvalid "unexpected policy version")
  raiseIf (p.expectedManifestId = "" ∨ p.expectedDatasetId = "" ∨ p.expectedDatasetVersion = "")
    (policyInvalid "dataset identity pins are required")
  raiseIf (isSha p.expectedManifestSha256 = false ∨ isSha p.expectedFinalDatasetSha256 = false)
    (policyInvalid "manifest/final dataset pins must be sha256")
  let recordIds := p.expectedRecordSha256ById.keys
  raiseIf (∃ keys ∈ [p.expectedRecordSourceById.keys, p.expectedRecordKeyById.keys, p.expectedParentRecordIdsById.keys,
    p.expectedSplitByRecordId.keys], ¬ sameSet keys recordIds) (policyInvalid "record policy maps must cover identical record IDs")
  raiseIf (¬ sameSet p.expectedSourceRevisionById.keys p.expectedSourceSnapshotSha256ById.keys)
    (policyInvalid "source policy maps must cover identical source IDs")
  raiseIf (¬ p.expectedTransformOrder.Nodup) (policyInvalid "duplicate transform IDs")
  raiseIf (¬ sameSet p.expectedTransformKindById.keys p.expectedTransformOrder)
    (policyInvalid "transform kind pins must cover transform order")
  raiseIf (¬ sameSet p.expectedTransformOwnerById.keys p.expectedTransformOrder)
    (policyInvalid "transform owner pins must cover transform order")
  raiseIf (¬ sameSet p.expectedTransformConfigSha256ById.keys p.expectedTransformOrder)
    (policyInvalid "transform config pins must cover transform order")
  raiseIf (∃ digest ∈ p.expectedRecordSha256ById.values ++ p.expectedSourceSnapshotSha256ById.values ++
    p.expectedTransformConfigSha256ById.values, isSha digest = false) (policyInvalid "evidence pins must be sha256")
  raiseIf (p.maxManifestAgeSeconds < 0 ∨ p.maxFutureSkewSeconds < 0 ∨ p.maxSourceAgeSeconds < 0)
    (policyInvalid "freshness limits must be non-negative")

/-! ## The manifest -/

def manifestInvalid (message : String) : Rejected := ⟨.manifestInvalid, message⟩

def validateRecord (r : DatasetRecordEvidence) : Check Unit := do
  raiseIf (r.recordId = "" ∨ r.sourceId = "" ∨ r.sourceRecordKey = "" ∨ isSha r.payloadSha256 = false)
    (manifestInvalid "invalid record evidence")
  raiseIf (¬ r.parentRecordIds.Nodup) (manifestInvalid "duplicate parent record IDs")

def validateTransform (t : DatasetTransformEvidence) : Check Unit := do
  raiseIf (t.transformId = "" ∨ t.owner = "") (manifestInvalid "invalid transform identity")
  raiseIf (¬ ∀ v ∈ [t.configSha256, t.inputDatasetSha256, t.outputDatasetSha256, t.predecessorTransformSha256], isSha v = true)
    (manifestInvalid "transform digests must be sha256")
  raiseIf (t.networkOperations < 0) (manifestInvalid "network operation count cannot be negative")

/-- `manifest.split_record_ids_by_split.get(split, ())`. -/
def TrainingDatasetManifest.splitIds (m : TrainingDatasetManifest) (split : DatasetSplit) : List String :=
  (m.splitRecordIdsBySplit.get? split).getD []

/-- `_validate_manifest_shape`. -/
def validateManifestShape (p : TrainingDatasetPolicy) (m : TrainingDatasetManifest) : Check Unit := do
  raiseIf (m.schemaVersion ≠ p9aDatasetSchemaVersion) (manifestInvalid "unexpected manifest schema")
  raiseIf (m.manifestId ≠ p.expectedManifestId) (manifestInvalid "manifest identity mismatch")
  raiseIf (m.datasetId ≠ p.expectedDatasetId ∨ m.datasetVersion ≠ p.expectedDatasetVersion) (manifestInvalid "dataset identity mismatch")
  raiseIf (isSha m.finalDatasetSha256 = false) (manifestInvalid "final dataset digest must be sha256")
  raiseIf (¬ (m.sourceSnapshots.map (·.sourceId)).Nodup) (manifestInvalid "duplicate source IDs")
  raiseIf (¬ (m.records.map (·.recordId)).Nodup) (manifestInvalid "duplicate record IDs")
  raiseIf (¬ (m.records.map fun r => (r.sourceId, r.sourceRecordKey)).Nodup) (manifestInvalid "duplicate source record keys")
  raiseIf (¬ (m.transforms.map (·.transformId)).Nodup) (manifestInvalid "duplicate transform IDs")
  raiseIf (∃ s ∈ m.sourceSnapshots, s.sourceId = "" ∨ s.owner = "" ∨ s.uri = "" ∨ s.revision = "" ∨ isSha s.snapshotSha256 = false)
    (manifestInvalid "invalid source snapshot")
  forEach validateRecord m.records
  forEach (fun split => raiseIf (¬ (m.splitIds split).Nodup) (manifestInvalid ("duplicate record inside " ++ split.value ++ " split")))
    DatasetSplit.all
  forEach validateTransform m.transforms

/-! ## Risks -/

variable (p : TrainingDatasetPolicy) (m : TrainingDatasetManifest)

/-- What is wrong with a source the policy expects. -/
def sourceRisksOf (s : DatasetSourceSnapshot) : List TrainingDataRisk :=
  flag (s.owner ∉ p.trustedSourceOwners) TrainingDataRisk.sourceOwnerUntrusted ++
  flag (¬ ∃ start ∈ p.allowedSourceUriPrefixByOwner.get? s.owner, start.toList <+: s.uri.toList)
    TrainingDataRisk.sourceUriUntrusted ++
  flag (p.expectedSourceRevisionById.get? s.sourceId ≠ some s.revision) TrainingDataRisk.sourceRevisionMismatch ++
  flag ((p.expectedSourceSnapshotSha256ById.get? s.sourceId).map rt.casefold ≠ some (rt.casefold s.snapshotSha256))
    TrainingDataRisk.sourceDigestMismatch ++
  flag (s.observedAtEpoch > m.createdAtEpoch + p.maxFutureSkewSeconds) TrainingDataRisk.sourceTimeInvalid ++
  flag (m.createdAtEpoch - s.observedAtEpoch > p.maxSourceAgeSeconds) TrainingDataRisk.sourceTimeInvalid

def sourceRisks : List TrainingDataRisk :=
  let expected := p.expectedSourceSnapshotSha256ById.keys
  flag (¬ sameSet (m.sourceSnapshots.map (·.sourceId)) expected) TrainingDataRisk.sourceIdentityMismatch ++
  (m.sourceSnapshots.filter (·.sourceId ∈ expected)).flatMap (sourceRisksOf rt p m)

/-- What is wrong with a record the policy expects. -/
def recordRisksOf (r : DatasetRecordEvidence) : List TrainingDataRisk :=
  flag ((p.expectedRecordSha256ById.get? r.recordId).map rt.casefold ≠ some (rt.casefold r.payloadSha256))
    TrainingDataRisk.recordDigestMismatch ++
  flag (p.expectedRecordSourceById.get? r.recordId ≠ some r.sourceId) TrainingDataRisk.recordSourceMismatch ++
  flag (p.expectedRecordKeyById.get? r.recordId ≠ some r.sourceRecordKey) TrainingDataRisk.recordKeyMismatch ++
  flag (p.expectedParentRecordIdsById.get? r.recordId ≠ some r.parentRecordIds) TrainingDataRisk.recordParentMismatch ++
  flag (r.sourceId ∉ m.sourceSnapshots.map (·.sourceId)) TrainingDataRisk.recordSourceMismatch ++
  flag (∃ parent ∈ r.parentRecordIds, parent ∉ m.records.map (·.recordId)) TrainingDataRisk.recordParentMissing

def recordRisks : List TrainingDataRisk :=
  let expected := p.expectedRecordSha256ById.keys
  flag (¬ sameSet (m.records.map (·.recordId)) expected) TrainingDataRisk.recordCoverageMismatch ++
  (m.records.filter (·.recordId ∈ expected)).flatMap (recordRisksOf rt p m)

/-- `split_membership.get(record_id, [])`. -/
def TrainingDatasetManifest.membership (recordId : String) : List DatasetSplit :=
  DatasetSplit.all.flatMap fun split => ((m.splitIds split).filter (· = recordId)).map fun _ => split

/-- The keys of `split_membership`. -/
def TrainingDatasetManifest.members : List String := DatasetSplit.all.flatMap m.splitIds

def splitRisks : List TrainingDataRisk :=
  flag (¬ sameSet m.members (m.records.map (·.recordId))) TrainingDataRisk.splitCoverageMismatch ++
  flag (∃ recordId ∈ m.members, (m.membership recordId).length ≠ 1) TrainingDataRisk.splitOverlap ++
  p.expectedSplitByRecordId.flatMap fun item =>
    flag (m.membership item.1 ≠ [item.2]) TrainingDataRisk.splitAssignmentMismatch ++
    flag (item.2 ∈ [DatasetSplit.validation, .test] ∧ DatasetSplit.train ∈ m.membership item.1) TrainingDataRisk.holdoutLeakage

/-- What is wrong with a transform that comes after `previous` and is to take `input`. -/
def transformRisksOf (input previous : String) (t : DatasetTransformEvidence) : List TrainingDataRisk :=
  (if t.transformId ∉ p.expectedTransformKindById.keys then [TrainingDataRisk.transformUnauthorized]
  else
    flag (p.expectedTransformKindById.get? t.transformId ≠ some t.kind) TrainingDataRisk.transformUnauthorized ++
    flag (p.expectedTransformOwnerById.get? t.transformId ≠ some t.owner) TrainingDataRisk.transformOwnerMismatch ++
    flag ((p.expectedTransformConfigSha256ById.get? t.transformId).map rt.casefold ≠ some (rt.casefold t.configSha256))
      TrainingDataRisk.transformConfigMismatch) ++
  flag (rt.casefold t.inputDatasetSha256 ≠ rt.casefold input) TrainingDataRisk.transformChainBroken ++
  flag (rt.casefold t.predecessorTransformSha256 ≠ rt.casefold previous) TrainingDataRisk.transformChainBroken ++
  flag (rt.casefold t.outputDatasetSha256 ≠
    rt.casefold (deterministicTransformOutputDigest rt input t.transformId t.kind t.owner t.configSha256))
    TrainingDataRisk.transformChainBroken ++
  flag (t.networkOperations ≠ 0) TrainingDataRisk.networkSideEffectReported

/-- `for transform in manifest.transforms`. -/
def chainRisks (input previous : String) : List DatasetTransformEvidence → List TrainingDataRisk
  | [] => []
  | t :: ts => transformRisksOf rt p input previous t ++ chainRisks t.outputDatasetSha256 (transformEvidenceDigest rt t) ts

/-- `current_input` after the loop. -/
def chainHead (input : String) : List DatasetTransformEvidence → String
  | [] => input
  | t :: ts => chainHead t.outputDatasetSha256 ts

def transformRisks : List TrainingDataRisk :=
  flag (m.transforms.map (·.transformId) ≠ p.expectedTransformOrder) TrainingDataRisk.transformCoverageMismatch ++
  chainRisks rt p (rawDatasetDigest rt m) zeroSha256 m.transforms ++
  flag (rt.casefold m.finalDatasetSha256 ≠ rt.casefold (chainHead (rawDatasetDigest rt m) m.transforms))
    TrainingDataRisk.finalDatasetDigestMismatch ++
  flag (rt.casefold m.finalDatasetSha256 ≠ rt.casefold p.expectedFinalDatasetSha256) TrainingDataRisk.finalDatasetDigestMismatch

/-- `risks`. -/
def risksOf : List TrainingDataRisk := sourceRisks rt p m ++ recordRisks rt p m ++ splitRisks p m ++ transformRisks rt p m

/-- `derive`. -/
def derive : Check (List TrainingDataRisk) := do
  validateManifestShape p m
  pure (sorted TrainingDataRisk.value (risksOf rt p m))

/-! ## The assessment -/

/-- `split_counts`. -/
def splitCounts : Mapping DatasetSplit Int := DatasetSplit.all.map fun split => (split, ((m.splitIds split).length : Int))

def sourceRiskSet : List TrainingDataRisk :=
  [.sourceIdentityMismatch, .sourceOwnerUntrusted, .sourceUriUntrusted, .sourceRevisionMismatch, .sourceDigestMismatch, .sourceTimeInvalid]

def recordRiskSet : List TrainingDataRisk :=
  [.recordCoverageMismatch, .recordDigestMismatch, .recordSourceMismatch, .recordKeyMismatch, .recordParentMismatch, .recordParentMissing]

def splitRiskSet : List TrainingDataRisk := [.splitCoverageMismatch, .splitAssignmentMismatch, .splitOverlap, .holdoutLeakage]

def transformRiskSet : List TrainingDataRisk :=
  [.transformCoverageMismatch, .transformUnauthorized, .transformOwnerMismatch, .transformConfigMismatch, .transformChainBroken,
    .finalDatasetDigestMismatch, .networkSideEffectReported]

/-- `not bool(risk_set.intersection(kind))`. -/
def clear {ρ : Type} [DecidableEq ρ] (risks kind : List ρ) : Bool := kind.all fun risk => risk ∉ risks

def requestInvalid (message : String) : Rejected := ⟨.requestInvalid, message⟩

def summaryMismatch (message : String) : Rejected := ⟨.declaredSummaryMismatch, message⟩

/-- `assessment_payload`. -/
def assessmentJson (decision : TrainingDataDecision) (risks : List TrainingDataRisk) (sources : List String) : Json :=
  .obj [("dataset_id", .str m.datasetId), ("dataset_version", .str m.datasetVersion), ("decision", .str decision.value),
    ("final_dataset_sha256", .str (rt.casefold m.finalDatasetSha256)), ("manifest_id", .str m.manifestId), ("mode", .str p9aAssessmentMode),
    ("record_count", .int m.records.length), ("risks", texts (risks.map TrainingDataRisk.value)),
    ("schema", .str p9aAssessmentSchemaVersion), ("sources", texts sources), ("split_counts", splitsJson .int (splitCounts m)),
    ("transform_count", .int m.transforms.length)]

/-- `evaluate`. -/
def evaluate (request : TrainingDatasetRequest) : Check VerifiedTrainingDatasetAssessment := do
  validateManifestShape p m
  let actual := trainingDatasetManifestDigest rt m
  raiseIf (rt.casefold actual ≠ rt.casefold p.expectedManifestSha256)
    ⟨.manifestDigestMismatch, "manifest differs from policy-pinned evidence"⟩
  raiseIf (request.manifestId ≠ m.manifestId ∨ rt.casefold request.manifestSha256 ≠ actual)
    (requestInvalid "request manifest binding mismatch")
  raiseIf (request.datasetId ≠ m.datasetId ∨ request.datasetVersion ≠ m.datasetVersion)
    (requestInvalid "request dataset identity mismatch")
  raiseIf (request.evaluatedAtEpoch < m.createdAtEpoch - p.maxFutureSkewSeconds)
    (requestInvalid "evaluation predates manifest beyond allowed skew")
  raiseIf (request.evaluatedAtEpoch > m.createdAtEpoch + p.maxManifestAgeSeconds) (requestInvalid "manifest is stale")
  let risks ← derive rt p m
  let decision := if risks = [] then TrainingDataDecision.allow else .deny
  let sourceIds := sortOn id (m.sourceSnapshots.map (·.sourceId))
  raiseIf (request.declaredSourceIds ≠ sourceIds) (summaryMismatch "declared source IDs differ from evidence")
  raiseIf (request.declaredRecordCount ≠ m.records.length) (summaryMismatch "declared record count differs from evidence")
  raiseIf (¬ ∀ split ∈ DatasetSplit.all, request.declaredSplitCounts.get? split = (splitCounts m).get? split)
    (summaryMismatch "declared split counts differ from evidence")
  raiseIf (rt.casefold request.declaredFinalDatasetSha256 ≠ rt.casefold m.finalDatasetSha256)
    (summaryMismatch "declared final dataset digest differs from evidence")
  let expectedSafe := decide (decision = .allow)
  raiseIf (request.declaredTrainingDataSafe ≠ expectedSafe ∨ request.declaredProvenanceComplete ≠ expectedSafe)
    (summaryMismatch "caller-declared training safety differs from derived evidence")
  pure {
    manifestId := m.manifestId
    datasetId := m.datasetId
    datasetVersion := m.datasetVersion
    decision
    risks
    sourceCount := m.sourceSnapshots.length
    recordCount := m.records.length
    splitCounts := splitCounts m
    transformCount := m.transforms.length
    finalDatasetSha256 := rt.casefold m.finalDatasetSha256
    exactManifestBindingVerified := true
    trustedSourceSnapshotsVerified := clear risks sourceRiskSet
    recordHashCoverageVerified := clear risks recordRiskSet
    splitIsolationVerified := clear risks splitRiskSet
    transformLineageVerified := clear risks transformRiskSet
    callerDeclaredTrainingDataSafetyTrusted := false
    productionDataLakeIntegration := false
    productionTrainingPipelineAttestation := false
    cryptographicSourceAuthentication := false
    networkOperations := (m.transforms.map (·.networkOperations)).sum
    assessmentSchemaVersion := p9aAssessmentSchemaVersion
    assessmentMode := p9aAssessmentMode
    assessmentEvidenceSha256 := rt.sha256 (assessmentJson rt m decision risks sourceIds) }

end Provenance

end Aegis.Training
