/-
  Aegis.Training.FineTuning — `FineTuningAdmissionAnalyzer` (training/fine_tuning_security.py): which
  records a fine-tuning run selects, under whose grant, and on which base model and adapters.
-/

import Aegis.Training.Poisoning

namespace Aegis.Training.FineTuning

open Data Checks Provenance Poisoning
open Agentic (Runtime sameSet)
open Agentic.Decision (flag sorted)

def p9cPolicyVersion : String := "fine-tuning-authorization-base-binding-v1"

def p9cSchemaVersion : String := "aegis-fine-tuning-admission-manifest-v1"

def p9cAssessmentSchemaVersion : String := "aegis-fine-tuning-admission-assessment-v1"

def p9cAssessmentMode : String := "deterministic-evidence-bound-fine-tuning-admission-v1"

inductive FineTuneMode where
  | full | lora | adapter
  deriving DecidableEq, Repr

def FineTuneMode.value : FineTuneMode → String
  | full => "full"
  | lora => "lora"
  | adapter => "adapter"

inductive FineTuneDecision where
  | allow | deny
  deriving DecidableEq, Repr

def FineTuneDecision.value : FineTuneDecision → String
  | allow => "allow"
  | deny => "deny"

inductive FineTuneRisk where
  | upstreamP9bInvalid | upstreamBindingMismatch | selectedDataMismatch | authorizationInvalid | authorizationExpired
  | principalTaskMismatch | baseModelIdentityMismatch | baseModelDigestMismatch | baseModelRuntimeMismatch | modeUnauthorized
  | adapterCoverageMismatch | adapterFormatUnsafe | adapterRankInvalid | adapterAlphaInvalid | adapterTargetUnauthorized
  | adapterInitMismatch | adapterStackInvalid | remoteOrCustomCode | hyperparameterOutOfPolicy | outputIdentityMismatch
  deriving DecidableEq, Repr

def FineTuneRisk.value : FineTuneRisk → String
  | upstreamP9bInvalid => "upstream_p9b_invalid"
  | upstreamBindingMismatch => "upstream_binding_mismatch"
  | selectedDataMismatch => "selected_data_mismatch"
  | authorizationInvalid => "authorization_invalid"
  | authorizationExpired => "authorization_expired"
  | principalTaskMismatch => "principal_task_mismatch"
  | baseModelIdentityMismatch => "base_model_identity_mismatch"
  | baseModelDigestMismatch => "base_model_digest_mismatch"
  | baseModelRuntimeMismatch => "base_model_runtime_mismatch"
  | modeUnauthorized => "mode_unauthorized"
  | adapterCoverageMismatch => "adapter_coverage_mismatch"
  | adapterFormatUnsafe => "adapter_format_unsafe"
  | adapterRankInvalid => "adapter_rank_invalid"
  | adapterAlphaInvalid => "adapter_alpha_invalid"
  | adapterTargetUnauthorized => "adapter_target_unauthorized"
  | adapterInitMismatch => "adapter_init_mismatch"
  | adapterStackInvalid => "adapter_stack_invalid"
  | remoteOrCustomCode => "remote_or_custom_code"
  | hyperparameterOutOfPolicy => "hyperparameter_out_of_policy"
  | outputIdentityMismatch => "output_identity_mismatch"

/-! ## Evidence -/

structure FineTuneBaseModelEvidence where
  modelId : String
  revision : String
  artifactSha256 : String
  packageSha256 : String
  tokenizerSha256 : String
  runtimeProfile : String
  deriving DecidableEq, Repr

structure FineTuneAdapterSpec where
  adapterId : String
  mode : FineTuneMode
  serializationFormat : String
  rank : Int
  alphaBps : Int
  targetModules : List String
  initSha256 : String
  parentAdapterIds : List String
  remoteCode : Bool
  customCode : Bool
  nativeExtensions : Bool
  deriving DecidableEq, Repr

structure FineTuneHyperparameters where
  learningRateMicros : Int
  epochsMilli : Int
  batchSize : Int
  maxSteps : Int
  seed : Int
  gradientAccumulationSteps : Int
  deriving DecidableEq, Repr

structure FineTuneAuthorizationEvidence where
  grantId : String
  principalId : String
  taskId : String
  p9bAssessmentSha256 : String
  baseModelArtifactSha256 : String
  selectedDataSha256 : String
  issuedAtEpoch : Int
  expiresAtEpoch : Int
  allowedModes : List FineTuneMode
  deriving DecidableEq, Repr

structure FineTuningAdmissionManifest where
  schemaVersion : String
  manifestId : String
  datasetId : String
  datasetVersion : String
  createdAtEpoch : Int
  p9bAssessmentSha256 : String
  selectedRecordIds : List String
  selectedDataSha256 : String
  principalId : String
  taskId : String
  baseModel : FineTuneBaseModelEvidence
  adapters : List FineTuneAdapterSpec
  hyperparameters : FineTuneHyperparameters
  authorization : FineTuneAuthorizationEvidence
  plannedOutputArtifactId : String
  deriving DecidableEq, Repr

structure FineTuningAdmissionPolicy where
  policyVersion : String
  expectedManifestId : String
  expectedDatasetId : String
  expectedDatasetVersion : String
  expectedManifestSha256 : String
  expectedP9bAssessmentSha256 : String
  expectedSelectedRecordIds : List String
  expectedSelectedDataSha256 : String
  expectedPrincipalId : String
  expectedTaskId : String
  expectedGrantId : String
  expectedBaseModelId : String
  expectedBaseModelRevision : String
  expectedBaseModelArtifactSha256 : String
  expectedBaseModelPackageSha256 : String
  expectedTokenizerSha256 : String
  expectedRuntimeProfile : String
  expectedAdapterOrder : List String
  allowedModes : List FineTuneMode
  allowedSerializationFormats : List String
  expectedAdapterInitSha256ById : Mapping String String
  allowedTargetModules : List String
  maxAdapterRank : Int
  maxAdapterAlphaBps : Int
  maxAdapterStackDepth : Int
  minLearningRateMicros : Int
  maxLearningRateMicros : Int
  minEpochsMilli : Int
  maxEpochsMilli : Int
  maxBatchSize : Int
  maxSteps : Int
  allowedSeeds : List Int
  maxGradientAccumulationSteps : Int
  expectedOutputArtifactId : String
  maxManifestAgeSeconds : Int
  maxFutureSkewSeconds : Int
  deriving DecidableEq, Repr

structure FineTuningAdmissionRequest where
  manifestId : String
  manifestSha256 : String
  datasetId : String
  datasetVersion : String
  evaluatedAtEpoch : Int
  declaredSelectedRecordIds : List String
  declaredSelectedDataSha256 : String
  declaredBaseModelArtifactSha256 : String
  declaredAdapterIds : List String
  declaredAuthorized : Bool
  declaredBaseModelBound : Bool
  declaredAdapterPolicySafe : Bool
  declaredTrainingAdmissionSafe : Bool
  deriving DecidableEq, Repr

structure VerifiedFineTuningAdmissionAssessment where
  manifestId : String
  datasetId : String
  datasetVersion : String
  decision : FineTuneDecision
  risks : List FineTuneRisk
  principalId : String
  taskId : String
  selectedRecordIds : List String
  selectedDataSha256 : String
  baseModelId : String
  baseModelRevision : String
  baseModelArtifactSha256 : String
  adapterIds : List String
  plannedOutputArtifactId : String
  upstreamP9bBound : Bool
  authorizationVerified : Bool
  baseModelBindingVerified : Bool
  adapterPolicyVerified : Bool
  hyperparameterPolicyVerified : Bool
  callerDeclaredSafetyTrusted : Bool
  productionTrainingRuntimeIntegrated : Bool
  productionIdentityProviderIntegrated : Bool
  proofOfTrainingExecution : Bool
  assessmentSchemaVersion : String
  assessmentMode : String
  assessmentEvidenceSha256 : String
  deriving DecidableEq, Repr

/-! ## Digests -/

def FineTuneBaseModelEvidence.toJson (b : FineTuneBaseModelEvidence) : Json :=
  .obj [("artifact_sha256", .str b.artifactSha256), ("model_id", .str b.modelId), ("package_sha256", .str b.packageSha256),
    ("revision", .str b.revision), ("runtime_profile", .str b.runtimeProfile), ("tokenizer_sha256", .str b.tokenizerSha256)]

def FineTuneAdapterSpec.toJson (a : FineTuneAdapterSpec) : Json :=
  .obj [("adapter_id", .str a.adapterId), ("alpha_bps", .int a.alphaBps), ("custom_code", .bool a.customCode),
    ("init_sha256", .str a.initSha256), ("mode", .str a.mode.value), ("native_extensions", .bool a.nativeExtensions),
    ("parent_adapter_ids", texts a.parentAdapterIds), ("rank", .int a.rank), ("remote_code", .bool a.remoteCode),
    ("serialization_format", .str a.serializationFormat), ("target_modules", texts a.targetModules)]

def FineTuneHyperparameters.toJson (h : FineTuneHyperparameters) : Json :=
  .obj [("batch_size", .int h.batchSize), ("epochs_milli", .int h.epochsMilli),
    ("gradient_accumulation_steps", .int h.gradientAccumulationSteps), ("learning_rate_micros", .int h.learningRateMicros),
    ("max_steps", .int h.maxSteps), ("seed", .int h.seed)]

def FineTuneAuthorizationEvidence.toJson (a : FineTuneAuthorizationEvidence) : Json :=
  .obj [("allowed_modes", texts (a.allowedModes.map FineTuneMode.value)), ("base_model_artifact_sha256", .str a.baseModelArtifactSha256),
    ("expires_at_epoch", .int a.expiresAtEpoch), ("grant_id", .str a.grantId), ("issued_at_epoch", .int a.issuedAtEpoch),
    ("p9b_assessment_sha256", .str a.p9bAssessmentSha256), ("principal_id", .str a.principalId),
    ("selected_data_sha256", .str a.selectedDataSha256), ("task_id", .str a.taskId)]

def FineTuningAdmissionManifest.toJson (m : FineTuningAdmissionManifest) : Json :=
  .obj [("adapters", .arr (m.adapters.map FineTuneAdapterSpec.toJson)), ("authorization", m.authorization.toJson),
    ("base_model", m.baseModel.toJson), ("created_at_epoch", .int m.createdAtEpoch), ("dataset_id", .str m.datasetId),
    ("dataset_version", .str m.datasetVersion), ("hyperparameters", m.hyperparameters.toJson), ("manifest_id", .str m.manifestId),
    ("p9b_assessment_sha256", .str m.p9bAssessmentSha256), ("planned_output_artifact_id", .str m.plannedOutputArtifactId),
    ("principal_id", .str m.principalId), ("schema_version", .str m.schemaVersion), ("selected_data_sha256", .str m.selectedDataSha256),
    ("selected_record_ids", texts m.selectedRecordIds), ("task_id", .str m.taskId)]

variable (rt : Runtime)

def selectedTrainingDataDigest (p9bAssessmentSha256 : String) (recordIds : List String) : String :=
  rt.sha256 (.obj [("p9b_assessment_sha256", .str (rt.casefold p9bAssessmentSha256)), ("record_ids", texts (sortOn id recordIds))])

def fineTuningManifestDigest (m : FineTuningAdmissionManifest) : String := rt.sha256 m.toJson

/-! ## The policy and the manifest -/

/-- `_validate_policy`. -/
def validatePolicy (p : FineTuningAdmissionPolicy) : Check Unit := do
  raiseIf (p.policyVersion ≠ p9cPolicyVersion) (policyInvalid "unexpected policy version")
  raiseIf ("" ∈ [p.expectedManifestId, p.expectedDatasetId, p.expectedDatasetVersion, p.expectedPrincipalId, p.expectedTaskId,
    p.expectedGrantId]) (policyInvalid "identity pins are required")
  raiseIf (¬ ∀ v ∈ [p.expectedManifestSha256, p.expectedP9bAssessmentSha256, p.expectedSelectedDataSha256,
    p.expectedBaseModelArtifactSha256, p.expectedBaseModelPackageSha256, p.expectedTokenizerSha256] ++
    p.expectedAdapterInitSha256ById.values, isSha v = true) (policyInvalid "digest pins must be sha256")
  raiseIf (¬ p.expectedSelectedRecordIds.Nodup) (policyInvalid "selected record IDs must be unique")
  raiseIf (¬ p.expectedAdapterOrder.Nodup) (policyInvalid "adapter order must be unique")
  raiseIf (¬ sameSet p.expectedAdapterInitSha256ById.keys p.expectedAdapterOrder)
    (policyInvalid "adapter init pins must cover adapter order")
  raiseIf (p.allowedModes = [] ∨ p.allowedSerializationFormats = [] ∨ p.allowedTargetModules = [])
    (policyInvalid "adapter policy allowlists are required")
  raiseIf (p.maxAdapterRank ≤ 0 ∨ p.maxAdapterAlphaBps ≤ 0 ∨ p.maxAdapterStackDepth ≤ 0)
    (policyInvalid "adapter bounds must be positive")
  raiseIf (¬ (0 < p.minLearningRateMicros ∧ p.minLearningRateMicros ≤ p.maxLearningRateMicros))
    (policyInvalid "learning-rate bounds invalid")
  raiseIf (¬ (0 < p.minEpochsMilli ∧ p.minEpochsMilli ≤ p.maxEpochsMilli)) (policyInvalid "epoch bounds invalid")
  raiseIf (p.maxBatchSize ≤ 0 ∨ p.maxSteps ≤ 0 ∨ p.maxGradientAccumulationSteps ≤ 0) (policyInvalid "training bounds must be positive")
  raiseIf (p.allowedSeeds = []) (policyInvalid "at least one deterministic seed is required")
  raiseIf (p.maxManifestAgeSeconds < 0 ∨ p.maxFutureSkewSeconds < 0) (policyInvalid "freshness bounds invalid")

def validateAdapter (a : FineTuneAdapterSpec) : Check Unit := do
  raiseIf (a.adapterId = "" ∨ a.serializationFormat = "" ∨ isSha a.initSha256 = false) (manifestInvalid "invalid adapter evidence")
  raiseIf (¬ a.targetModules.Nodup ∨ ¬ a.parentAdapterIds.Nodup) (manifestInvalid "duplicate adapter target/parent IDs")

/-- `_validate_manifest`. -/
def validateManifest (p : FineTuningAdmissionPolicy) (m : FineTuningAdmissionManifest) : Check Unit := do
  raiseIf (m.schemaVersion ≠ p9cSchemaVersion) (manifestInvalid "unexpected manifest schema")
  raiseIf (m.manifestId ≠ p.expectedManifestId) (manifestInvalid "manifest identity mismatch")
  raiseIf (m.datasetId ≠ p.expectedDatasetId ∨ m.datasetVersion ≠ p.expectedDatasetVersion) (manifestInvalid "dataset identity mismatch")
  raiseIf (isSha m.p9bAssessmentSha256 = false ∨ isSha m.selectedDataSha256 = false)
    (manifestInvalid "upstream/selected data digests invalid")
  raiseIf (¬ m.selectedRecordIds.Nodup) (manifestInvalid "duplicate selected record IDs")
  let base := m.baseModel
  raiseIf ("" ∈ [base.modelId, base.revision, base.runtimeProfile]) (manifestInvalid "base model identity incomplete")
  raiseIf (¬ ∀ v ∈ [base.artifactSha256, base.packageSha256, base.tokenizerSha256], isSha v = true)
    (manifestInvalid "base model digests invalid")
  raiseIf (¬ (m.adapters.map (·.adapterId)).Nodup) (manifestInvalid "duplicate adapter IDs")
  forEach validateAdapter m.adapters
  let auth := m.authorization
  raiseIf ("" ∈ [auth.grantId, auth.principalId, auth.taskId]) (manifestInvalid "authorization identity incomplete")
  raiseIf (¬ ∀ v ∈ [auth.p9bAssessmentSha256, auth.baseModelArtifactSha256, auth.selectedDataSha256], isSha v = true)
    (manifestInvalid "authorization digests invalid")
  raiseIf (auth.issuedAtEpoch > auth.expiresAtEpoch) (manifestInvalid "authorization validity window invalid")
  let hp := m.hyperparameters
  raiseIf (∃ v ∈ [hp.learningRateMicros, hp.epochsMilli, hp.batchSize, hp.maxSteps, hp.gradientAccumulationSteps], v ≤ 0)
    (manifestInvalid "training hyperparameters must be positive")
  raiseIf (m.plannedOutputArtifactId = "") (manifestInvalid "planned output artifact identity required")

/-- `_upstream_ok`. -/
def UpstreamOk (p : FineTuningAdmissionPolicy) (a : VerifiedTrainingPoisoningAssessment) : Prop :=
  a.decision = .allow ∧ a.risks = [] ∧
    (∀ f ∈ [a.upstreamP9aBound, a.recordIntegrityVerified, a.labelIntegrityVerified, a.contributorTrustVerified,
      a.poisoningIndicatorsClear], f = true) ∧
    a.datasetId = p.expectedDatasetId ∧ a.datasetVersion = p.expectedDatasetVersion ∧
    (∀ f ∈ [a.callerDeclaredTrainingDataSafetyTrusted, a.productionDataQualityPlatformIntegrated,
      a.semanticPoisoningDetectionValidated, a.humanReviewIdentityCryptographicallyAuthenticated], f = false) ∧
    a.assessmentSchemaVersion = p9bAssessmentSchemaVersion ∧ a.assessmentMode = p9bAssessmentMode

instance decidableUpstreamOk (p : FineTuningAdmissionPolicy) (a : VerifiedTrainingPoisoningAssessment) : Decidable (UpstreamOk p a) := by
  unfold UpstreamOk
  infer_instance

/-! ## Risks -/

variable (p : FineTuningAdmissionPolicy) (m : FineTuningAdmissionManifest)

def bindingRisks (a : VerifiedTrainingPoisoningAssessment) : List FineTuneRisk :=
  flag (¬ UpstreamOk p a) FineTuneRisk.upstreamP9bInvalid ++
  flag (rt.casefold m.p9bAssessmentSha256 ≠ rt.casefold p.expectedP9bAssessmentSha256 ∨
    rt.casefold a.assessmentEvidenceSha256 ≠ rt.casefold p.expectedP9bAssessmentSha256) .upstreamBindingMismatch

def selectedDataRisks (a : VerifiedTrainingPoisoningAssessment) : List FineTuneRisk :=
  flag (sortOn id m.selectedRecordIds ≠ sortOn id p.expectedSelectedRecordIds) FineTuneRisk.selectedDataMismatch ++
  flag (sortOn id m.selectedRecordIds ≠ sortOn id a.includedRecordIds) FineTuneRisk.selectedDataMismatch ++
  flag (rt.casefold m.selectedDataSha256 ≠ rt.casefold (selectedTrainingDataDigest rt m.p9bAssessmentSha256 m.selectedRecordIds) ∨
    rt.casefold m.selectedDataSha256 ≠ rt.casefold p.expectedSelectedDataSha256) .selectedDataMismatch

def authorizationRisks (now : Int) : List FineTuneRisk :=
  let auth := m.authorization
  flag (auth.grantId ≠ p.expectedGrantId) FineTuneRisk.authorizationInvalid ++
  flag (m.principalId ≠ p.expectedPrincipalId ∨ m.taskId ≠ p.expectedTaskId) FineTuneRisk.principalTaskMismatch ++
  flag (auth.principalId ≠ m.principalId ∨ auth.taskId ≠ m.taskId) FineTuneRisk.principalTaskMismatch ++
  flag (rt.casefold auth.p9bAssessmentSha256 ≠ rt.casefold m.p9bAssessmentSha256) FineTuneRisk.authorizationInvalid ++
  flag (rt.casefold auth.selectedDataSha256 ≠ rt.casefold m.selectedDataSha256) FineTuneRisk.authorizationInvalid ++
  flag (rt.casefold auth.baseModelArtifactSha256 ≠ rt.casefold m.baseModel.artifactSha256) FineTuneRisk.authorizationInvalid ++
  flag (now < auth.issuedAtEpoch - p.maxFutureSkewSeconds ∨ now > auth.expiresAtEpoch) FineTuneRisk.authorizationExpired ++
  flag (auth.allowedModes = [] ∨ ∃ mode ∈ auth.allowedModes, mode ∉ p.allowedModes) FineTuneRisk.authorizationInvalid

def baseModelRisks : List FineTuneRisk :=
  let base := m.baseModel
  flag (base.modelId ≠ p.expectedBaseModelId ∨ base.revision ≠ p.expectedBaseModelRevision) FineTuneRisk.baseModelIdentityMismatch ++
  flag (rt.casefold base.artifactSha256 ≠ rt.casefold p.expectedBaseModelArtifactSha256 ∨
    rt.casefold base.packageSha256 ≠ rt.casefold p.expectedBaseModelPackageSha256 ∨
    rt.casefold base.tokenizerSha256 ≠ rt.casefold p.expectedTokenizerSha256) FineTuneRisk.baseModelDigestMismatch ++
  flag (base.runtimeProfile ≠ p.expectedRuntimeProfile) FineTuneRisk.baseModelRuntimeMismatch

/-- What is wrong with an adapter that comes after those in `seen`. -/
def adapterRisksOf (seen : List String) (a : FineTuneAdapterSpec) : List FineTuneRisk :=
  flag (a.mode ∉ p.allowedModes ∨ a.mode ∉ m.authorization.allowedModes) FineTuneRisk.modeUnauthorized ++
  flag (a.serializationFormat ∉ p.allowedSerializationFormats) FineTuneRisk.adapterFormatUnsafe ++
  flag (a.rank ≤ 0 ∨ a.rank > p.maxAdapterRank) FineTuneRisk.adapterRankInvalid ++
  flag (a.alphaBps ≤ 0 ∨ a.alphaBps > p.maxAdapterAlphaBps) FineTuneRisk.adapterAlphaInvalid ++
  flag (a.targetModules = [] ∨ ∃ target ∈ a.targetModules, target ∉ p.allowedTargetModules)
    FineTuneRisk.adapterTargetUnauthorized ++
  flag ((p.expectedAdapterInitSha256ById.get? a.adapterId).map rt.casefold ≠ some (rt.casefold a.initSha256))
    FineTuneRisk.adapterInitMismatch ++
  flag (a.remoteCode = true ∨ a.customCode = true ∨ a.nativeExtensions = true) FineTuneRisk.remoteOrCustomCode ++
  flag ((a.parentAdapterIds.length : Int) > p.maxAdapterStackDepth) FineTuneRisk.adapterStackInvalid ++
  flag (∃ parent ∈ a.parentAdapterIds, parent ∉ seen) FineTuneRisk.adapterStackInvalid

/-- `for adapter in manifest.adapters`. -/
def adapterLoop (seen : List String) : List FineTuneAdapterSpec → List FineTuneRisk
  | [] => []
  | a :: adapters => adapterRisksOf rt p m seen a ++ adapterLoop (seen ++ [a.adapterId]) adapters

def adapterRisks : List FineTuneRisk :=
  flag (m.adapters.map (·.adapterId) ≠ p.expectedAdapterOrder) FineTuneRisk.adapterCoverageMismatch ++
  adapterLoop rt p m [] m.adapters ++
  flag ((m.adapters.length : Int) > p.maxAdapterStackDepth) FineTuneRisk.adapterStackInvalid

def hyperparameterRisks : List FineTuneRisk :=
  let hp := m.hyperparameters
  flag (¬ (p.minLearningRateMicros ≤ hp.learningRateMicros ∧ hp.learningRateMicros ≤ p.maxLearningRateMicros))
    FineTuneRisk.hyperparameterOutOfPolicy ++
  flag (¬ (p.minEpochsMilli ≤ hp.epochsMilli ∧ hp.epochsMilli ≤ p.maxEpochsMilli)) FineTuneRisk.hyperparameterOutOfPolicy ++
  flag (hp.batchSize > p.maxBatchSize ∨ hp.maxSteps > p.maxSteps) FineTuneRisk.hyperparameterOutOfPolicy ++
  flag (hp.seed ∉ p.allowedSeeds ∨ hp.gradientAccumulationSteps > p.maxGradientAccumulationSteps)
    FineTuneRisk.hyperparameterOutOfPolicy ++
  flag (m.plannedOutputArtifactId ≠ p.expectedOutputArtifactId) FineTuneRisk.outputIdentityMismatch

/-- `risks`. -/
def risksOf (a : VerifiedTrainingPoisoningAssessment) (now : Int) : List FineTuneRisk :=
  bindingRisks rt p m a ++ selectedDataRisks rt p m a ++ authorizationRisks rt p m now ++ baseModelRisks rt p m ++
    adapterRisks rt p m ++ hyperparameterRisks p m

/-- `derive`. -/
def derive (a : VerifiedTrainingPoisoningAssessment) (now : Int) : Check (List FineTuneRisk) := do
  validateManifest p m
  pure (sorted FineTuneRisk.value (risksOf rt p m a now))

/-! ## The assessment -/

def authorizationRiskSet : List FineTuneRisk := [.authorizationInvalid, .authorizationExpired, .principalTaskMismatch]

def baseModelRiskSet : List FineTuneRisk := [.baseModelIdentityMismatch, .baseModelDigestMismatch, .baseModelRuntimeMismatch]

def adapterRiskSet : List FineTuneRisk :=
  [.modeUnauthorized, .adapterCoverageMismatch, .adapterFormatUnsafe, .adapterRankInvalid, .adapterAlphaInvalid,
    .adapterTargetUnauthorized, .adapterInitMismatch, .adapterStackInvalid, .remoteOrCustomCode]

def assessmentJson (decision : FineTuneDecision) (risks : List FineTuneRisk) : Json :=
  .obj [("adapter_ids", texts (m.adapters.map (·.adapterId))), ("base_model_artifact_sha256", .str m.baseModel.artifactSha256),
    ("decision", .str decision.value), ("manifest_id", .str m.manifestId), ("mode", .str p9cAssessmentMode),
    ("p9b_assessment_sha256", .str m.p9bAssessmentSha256), ("planned_output_artifact_id", .str m.plannedOutputArtifactId),
    ("principal_id", .str m.principalId), ("risks", texts (risks.map FineTuneRisk.value)), ("schema", .str p9cAssessmentSchemaVersion),
    ("selected_data_sha256", .str m.selectedDataSha256), ("task_id", .str m.taskId)]

/-- `evaluate`. -/
def evaluate (request : FineTuningAdmissionRequest) (a : VerifiedTrainingPoisoningAssessment) :
    Check VerifiedFineTuningAdmissionAssessment := do
  validateManifest p m
  let actual := fineTuningManifestDigest rt m
  raiseIf (rt.casefold actual ≠ rt.casefold p.expectedManifestSha256)
    ⟨.manifestDigestMismatch, "manifest differs from policy-pinned evidence"⟩
  raiseIf (request.manifestId ≠ m.manifestId ∨ rt.casefold request.manifestSha256 ≠ rt.casefold actual)
    (requestInvalid "request manifest binding mismatch")
  raiseIf (request.datasetId ≠ m.datasetId ∨ request.datasetVersion ≠ m.datasetVersion)
    (requestInvalid "request dataset identity mismatch")
  raiseIf (request.evaluatedAtEpoch < m.createdAtEpoch - p.maxFutureSkewSeconds)
    (requestInvalid "evaluation predates manifest beyond allowed skew")
  raiseIf (request.evaluatedAtEpoch > m.createdAtEpoch + p.maxManifestAgeSeconds) (requestInvalid "manifest is stale")
  let risks ← derive rt p m a request.evaluatedAtEpoch
  let decision := if risks = [] then FineTuneDecision.allow else .deny
  let adapterIds := m.adapters.map (·.adapterId)
  let authorizationOk := clear risks authorizationRiskSet
  let baseOk := clear risks baseModelRiskSet
  let adapterOk := clear risks adapterRiskSet
  raiseIf (sortOn id request.declaredSelectedRecordIds ≠ sortOn id m.selectedRecordIds)
    (summaryMismatch "declared selected records differ from evidence")
  raiseIf (rt.casefold request.declaredSelectedDataSha256 ≠ rt.casefold m.selectedDataSha256)
    (summaryMismatch "declared selected data digest differs from evidence")
  raiseIf (rt.casefold request.declaredBaseModelArtifactSha256 ≠ rt.casefold m.baseModel.artifactSha256)
    (summaryMismatch "declared base model digest differs from evidence")
  raiseIf (request.declaredAdapterIds ≠ adapterIds) (summaryMismatch "declared adapter IDs differ from evidence")
  raiseIf (request.declaredAuthorized ≠ authorizationOk) (summaryMismatch "declared authorization differs from evidence")
  raiseIf (request.declaredBaseModelBound ≠ baseOk) (summaryMismatch "declared base binding differs from evidence")
  raiseIf (request.declaredAdapterPolicySafe ≠ adapterOk) (summaryMismatch "declared adapter safety differs from evidence")
  raiseIf (request.declaredTrainingAdmissionSafe ≠ decide (decision = .allow))
    (summaryMismatch "declared admission safety differs from evidence")
  pure {
    manifestId := m.manifestId
    datasetId := m.datasetId
    datasetVersion := m.datasetVersion
    decision
    risks
    principalId := m.principalId
    taskId := m.taskId
    selectedRecordIds := sortOn id m.selectedRecordIds
    selectedDataSha256 := m.selectedDataSha256
    baseModelId := m.baseModel.modelId
    baseModelRevision := m.baseModel.revision
    baseModelArtifactSha256 := m.baseModel.artifactSha256
    adapterIds
    plannedOutputArtifactId := m.plannedOutputArtifactId
    upstreamP9bBound := clear risks [.upstreamP9bInvalid, .upstreamBindingMismatch]
    authorizationVerified := authorizationOk
    baseModelBindingVerified := baseOk
    adapterPolicyVerified := adapterOk
    hyperparameterPolicyVerified := clear risks [.hyperparameterOutOfPolicy]
    callerDeclaredSafetyTrusted := false
    productionTrainingRuntimeIntegrated := false
    productionIdentityProviderIntegrated := false
    proofOfTrainingExecution := false
    assessmentSchemaVersion := p9cAssessmentSchemaVersion
    assessmentMode := p9cAssessmentMode
    assessmentEvidenceSha256 := rt.sha256 (assessmentJson m decision risks) }

end Aegis.Training.FineTuning
