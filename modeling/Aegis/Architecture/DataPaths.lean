/-
  Aegis.Architecture.DataPaths — the P7-C analyzer, which follows data objects from their origin to the
  sinks the policy watches (data_types.py, data_manifest.py, data_evidence.py, data_paths.py).

  `evaluate` validates policy, request, upstream evidence and data-flow graph, and follows the edges of
  every entry object until they reach a target sink.
-/

import Aegis.Architecture.PrivilegePaths

namespace Aegis.Architecture.DataPaths

open Data Data.Checks Data.BoundedSearch
open Agentic (Dict sameSet)
open Assurance (Runtime isSha256)
open Assurance.Posture (ControlStatus)
open AttackPaths (ArchitectureAsset ArchitectureFlow ArchitectureManifest AssetGraph VerifiedAttackPathAssessment architectureManifestDigest)
open PrivilegePaths (VerifiedPrivilegeEscalationAssessment)

def P7C_DATA_MANIFEST_SCHEMA_VERSION : String := "aegis-data-flow-manifest-v1"
inductive DataClassification where
  | publicData
  | internal
  | confidential
  | restricted
  | secret
  deriving DecidableEq, Repr

def DataClassification.value : DataClassification → String
  | publicData => "public"
  | internal => "internal"
  | confidential => "confidential"
  | restricted => "restricted"
  | secret => "secret"

def classificationRank : DataClassification → Int
  | .publicData => 0
  | .internal => 1
  | .confidential => 2
  | .restricted => 3
  | .secret => 4

inductive DataKind where
  | tenantContent
  | credential
  | modelInput
  | modelOutput
  | securityTelemetry
  deriving DecidableEq, Repr

def DataKind.value : DataKind → String
  | tenantContent => "tenant_content"
  | credential => "credential"
  | modelInput => "model_input"
  | modelOutput => "model_output"
  | securityTelemetry => "security_telemetry"

/-- `DataTransform.NONE` is `untransformed`. -/
inductive DataTransform where
  | untransformed
  | redacted
  | aggregated
  | tokenized
  deriving DecidableEq, Repr

def DataTransform.value : DataTransform → String
  | untransformed => "none"
  | redacted => "redacted"
  | aggregated => "aggregated"
  | tokenized => "tokenized"

inductive DataPathRejectReason where
  | policyInvalid
  | requestInvalid
  | architectureInvalid
  | architectureDigestMismatch
  | p7aAssessmentUnverified
  | p7aAssessmentMismatch
  | p7bAssessmentUnverified
  | p7bAssessmentMismatch
  | postureUnverified
  | postureDigestMismatch
  | controlCatalogMismatch
  | controlEvidenceInvalid
  | controlStatusMismatch
  | dataManifestInvalid
  | dataManifestDigestMismatch
  | dataManifestStale
  | dataManifestFuture
  | dataDuplicate
  | dataCoverageMismatch
  | dataOwnerUntrusted
  | dataOriginInvalid
  | dataTenantDrift
  | dataKindDrift
  | dataClassificationDowngrade
  | edgeDuplicate
  | edgeCoverageMismatch
  | edgeOwnerUntrusted
  | edgeReferenceInvalid
  | edgeSelfLoop
  | edgeDataDrift
  | edgeEndpointDrift
  | edgeFlowDrift
  | edgeControlDrift
  | edgeTransformDisallowed
  | edgeFlowInvalid
  | edgeControlUnknown
  | entryDataScopeMismatch
  | targetSinkScopeMismatch
  | pathLimitExceeded
  | declaredPathMismatch
  | declaredRiskMismatch
  deriving DecidableEq, Repr

structure DataPathRejected where
  reason : DataPathRejectReason
  message : String
  dataId : Option String := none
  edgeId : Option String := none
  controlId : Option String := none
  deriving DecidableEq, Repr

abbrev Gate (α : Type) := Checked DataPathRejected α

structure DataObject where
  dataId : String
  tenantId : String
  dataKind : DataKind
  classification : DataClassification
  originAssetId : String
  ownerId : String
  description : String
  deriving DecidableEq

structure DataFlowEdge where
  edgeId : String
  dataId : String
  sourceAssetId : String
  targetAssetId : String
  destinationTenantId : String
  transform : DataTransform
  ownerId : String
  viaFlowIds : List String
  requiredControlIds : List String
  purpose : String
  deriving DecidableEq

structure DataFlowManifest where
  dataGraphId : String
  version : String
  architectureSha256 : String
  createdAtEpoch : Int
  dataObjects : List DataObject
  edges : List DataFlowEdge
  schemaVersion : String := P7C_DATA_MANIFEST_SCHEMA_VERSION

structure DataPathRequest where
  dataGraphId : String
  dataGraphVersion : String
  dataGraphSha256 : String
  architectureSha256 : String
  p7aAssessmentEvidenceSha256 : String
  p7bAssessmentEvidenceSha256 : String
  postureEvidenceSha256 : String
  entryDataIds : List String
  targetSinkAssetIds : List String
  evaluatedAtEpoch : Int
  declaredExposedPathIds : List String
  declaredMaxExposedRiskScore : Int

structure DataPathPolicy where
  expectedDataGraphId : String
  expectedDataGraphVersion : String
  expectedDataGraphSha256 : String
  expectedArchitectureSha256 : String
  expectedP7aAssessmentEvidenceSha256 : String
  expectedP7bAssessmentEvidenceSha256 : String
  expectedPostureEvidenceSha256 : String
  expectedControlCatalogSha256 : String
  requiredDataIds : List String
  requiredEdgeIds : List String
  entryDataIds : List String
  targetSinkAssetIds : List String
  trustedOwnerIds : List String
  expectedTenantByData : List (String × String)
  expectedKindByData : List (String × DataKind)
  expectedOriginAssetByData : List (String × String)
  minimumClassificationByData : List (String × DataClassification)
  expectedDataIdByEdge : List (String × String)
  expectedEndpointsByEdge : List (String × (String × String))
  expectedFlowIdsByEdge : List (String × List String)
  expectedControlIdsByEdge : List (String × List String)
  allowedTransformsByEdge : List (String × List DataTransform)
  allowedDestinationTenantsByData : List (String × List String)
  allowedSinkAssetsByData : List (String × List String)
  maxClassificationBySinkAsset : List (String × DataClassification)
  allowedFinalTransformsBySinkAsset : List (String × List DataTransform)
  egressSinkAssetIds : List String
  maxManifestAgeSeconds : Int := 86400
  maxFutureSkewSeconds : Int := 30
  maxPathHops : Int := 10
  maxPaths : Int := 128

structure DataPathFact where
  pathId : String
  dataId : String
  originAssetId : String
  targetSinkAssetId : String
  assetIds : List String
  edgeIds : List String
  architectureFlowIds : List String
  tenantSequence : List String
  transformSequence : List String
  classification : DataClassification
  dataKind : DataKind
  satisfiedControlIds : List String
  exceptionedControlIds : List String
  notEvaluatedControlIds : List String
  tenantViolationEdgeIds : List String
  sinkAllowed : Bool
  classificationAllowed : Bool
  finalTransformAllowed : Bool
  externalEgress : Bool
  exposed : Bool
  riskScore : Int
  exposureReasons : List String
  mitigatingControlIds : List String
  deriving DecidableEq

structure VerifiedDataExfiltrationAssessment where
  dataGraphId : String
  dataGraphVersion : String
  dataGraphSha256 : String
  architectureSha256 : String
  p7aAssessmentEvidenceSha256 : String
  p7bAssessmentEvidenceSha256 : String
  postureEvidenceSha256 : String
  controlCatalogSha256 : String
  entryDataIds : List String
  targetSinkAssetIds : List String
  topologyPathCount : Int
  exposedPathCount : Int
  controlledPathCount : Int
  restrictedOrSecretExposedPathCount : Int
  crossTenantExposedPathCount : Int
  externalEgressExposedPathCount : Int
  maxExposedRiskScore : Int
  prioritizedExposedPathIds : List String
  paths : List DataPathFact
  assessmentEvidenceSha256 : String
  exactDataGraphBindingVerified : Bool := true
  exactArchitectureBindingVerified : Bool := true
  exfiltrationDerivedFromEvidence : Bool := true
  mitigatingControlsVisible : Bool := true

/-! ## Canonical documents -/

/-- `_canonical_data_object`. -/
def canonicalDataObject (d : DataObject) : Json := .obj [
  ("classification", .str d.classification.value), ("data_id", .str d.dataId), ("data_kind", .str d.dataKind.value),
  ("description", .str d.description), ("origin_asset_id", .str d.originAssetId), ("owner_id", .str d.ownerId),
  ("tenant_id", .str d.tenantId)]

/-- `_canonical_edge`. -/
def canonicalEdge (e : DataFlowEdge) : Json := .obj [
  ("data_id", .str e.dataId), ("destination_tenant_id", .str e.destinationTenantId), ("edge_id", .str e.edgeId),
  ("owner_id", .str e.ownerId), ("purpose", .str e.purpose),
  ("required_control_ids", texts (sortOn id e.requiredControlIds)), ("source_asset_id", .str e.sourceAssetId),
  ("target_asset_id", .str e.targetAssetId), ("transform", .str e.transform.value),
  ("via_flow_ids", texts e.viaFlowIds)]

section
variable (rt : Runtime)

/-- `canonical_data_flow_manifest_bytes`. -/
def canonicalDataFlowManifest (m : DataFlowManifest) : Json := .obj [
  ("architecture_sha256", .str (rt.casefold m.architectureSha256)), ("created_at_epoch", .int m.createdAtEpoch),
  ("data_graph_id", .str m.dataGraphId),
  ("data_objects", .arr ((sortOn DataObject.dataId m.dataObjects).map canonicalDataObject)),
  ("edges", .arr ((sortOn DataFlowEdge.edgeId m.edges).map canonicalEdge)), ("schema_version", .str m.schemaVersion),
  ("version", .str m.version)]

def dataFlowManifestDigest (m : DataFlowManifest) : String := rt.sha256 (canonicalDataFlowManifest rt m)

def pathDocument (dataId originAssetId targetSinkAssetId : String) (assetIds edgeIds : List String) : Json := .obj [
  ("asset_ids", texts assetIds), ("data_id", .str dataId), ("edge_ids", texts edgeIds),
  ("origin_asset_id", .str originAssetId), ("target_sink_asset_id", .str targetSinkAssetId)]

/-- `data_path_identifier`. -/
def dataPathIdentifier (dataId originAssetId targetSinkAssetId : String) (assetIds edgeIds : List String) : String :=
  "data-path-" ++ String.ofList ((rt.sha256 (pathDocument dataId originAssetId targetSinkAssetId assetIds edgeIds)).toList.take 20)

/-! ## Policy and request -/

def plain (reason : DataPathRejectReason) (message : String) : DataPathRejected := ⟨reason, message, none, none, none⟩

def ofData (reason : DataPathRejectReason) (message dataId : String) : DataPathRejected := ⟨reason, message, some dataId, none, none⟩

def ofEdge (reason : DataPathRejectReason) (message edgeId : String) : DataPathRejected := ⟨reason, message, none, some edgeId, none⟩

/-- The policy's own mappings of a required data object. -/
def validateDataPins (p : DataPathPolicy) (i : String) : Gate Unit := do
  let tenant ← getItem (Dict.mapping p.expectedTenantByData) i
  let _ ← getItem (Dict.mapping p.expectedKindByData) i
  let origin ← getItem (Dict.mapping p.expectedOriginAssetByData) i
  let _ ← getItem (Dict.mapping p.minimumClassificationByData) i
  let destinations ← getItem (Dict.mapping p.allowedDestinationTenantsByData) i
  let sinks ← getItem (Dict.mapping p.allowedSinkAssetsByData) i
  rejectIf (tenant = "" ∨ origin = "" ∨ destinations = [] ∨ sinks = [] ∨ "" ∈ destinations ∨ "" ∈ sinks)
    (ofData .policyInvalid "data-object policy mapping is invalid" i)

/-- The policy's own mappings of a required edge. -/
def validateEdgePins (p : DataPathPolicy) (i : String) : Gate Unit := do
  let dataId ← getItem (Dict.mapping p.expectedDataIdByEdge) i
  let endpoints ← getItem (Dict.mapping p.expectedEndpointsByEdge) i
  let flowIds ← getItem (Dict.mapping p.expectedFlowIdsByEdge) i
  let controls ← getItem (Dict.mapping p.expectedControlIdsByEdge) i
  let transforms ← getItem (Dict.mapping p.allowedTransformsByEdge) i
  rejectIf (dataId ∉ p.requiredDataIds ∨ endpoints.1 = "" ∨ endpoints.2 = "" ∨ endpoints.1 = endpoints.2 ∨ flowIds = [] ∨
    ¬ flowIds.Nodup ∨ "" ∈ flowIds ∨ "" ∈ controls ∨ transforms = []) (ofEdge .policyInvalid "data-flow edge policy mapping is invalid" i)

def validatePolicy (p : DataPathPolicy) : Gate Unit := do
  rejectIf (p.expectedDataGraphId = "" ∨ p.expectedDataGraphVersion = "" ∨ ¬ isSha256 rt p.expectedDataGraphSha256 ∨
    ¬ isSha256 rt p.expectedArchitectureSha256 ∨ ¬ isSha256 rt p.expectedP7aAssessmentEvidenceSha256 ∨
    ¬ isSha256 rt p.expectedP7bAssessmentEvidenceSha256 ∨ ¬ isSha256 rt p.expectedPostureEvidenceSha256 ∨
    ¬ isSha256 rt p.expectedControlCatalogSha256 ∨ p.requiredDataIds = [] ∨ p.requiredEdgeIds = [] ∨ p.entryDataIds = [] ∨
    p.targetSinkAssetIds = [] ∨ p.trustedOwnerIds = [] ∨ (∃ i ∈ p.entryDataIds, i ∉ p.requiredDataIds) ∨ p.maxManifestAgeSeconds < 0 ∨
    p.maxFutureSkewSeconds < 0 ∨ p.maxPathHops ≤ 0 ∨ p.maxPaths ≤ 0) (plain .policyInvalid "data-path policy metadata is invalid")
  rejectIf (¬ covers p.requiredDataIds p.expectedTenantByData ∨ ¬ covers p.requiredDataIds p.expectedKindByData ∨
    ¬ covers p.requiredDataIds p.expectedOriginAssetByData ∨ ¬ covers p.requiredDataIds p.minimumClassificationByData ∨
    ¬ covers p.requiredDataIds p.allowedDestinationTenantsByData ∨ ¬ covers p.requiredDataIds p.allowedSinkAssetsByData)
    (plain .policyInvalid "required data objects lack policy-pinned metadata")
  rejectIf (¬ covers p.requiredEdgeIds p.expectedDataIdByEdge ∨ ¬ covers p.requiredEdgeIds p.expectedEndpointsByEdge ∨
    ¬ covers p.requiredEdgeIds p.expectedFlowIdsByEdge ∨ ¬ covers p.requiredEdgeIds p.expectedControlIdsByEdge ∨
    ¬ covers p.requiredEdgeIds p.allowedTransformsByEdge) (plain .policyInvalid "required data-flow edges lack policy-pinned metadata")
  rejectIf (¬ covers p.targetSinkAssetIds p.maxClassificationBySinkAsset)
    (plain .policyInvalid "target sinks lack classification ceilings")
  rejectIf (¬ covers p.targetSinkAssetIds p.allowedFinalTransformsBySinkAsset)
    (plain .policyInvalid "target sinks lack final-transform policy")
  rejectIf (∃ i ∈ p.egressSinkAssetIds, i ∉ p.targetSinkAssetIds)
    (plain .policyInvalid "egress sinks must be within the target sink set")
  forEach (validateDataPins p) p.requiredDataIds
  forEach (validateEdgePins p) p.requiredEdgeIds
  forEach (fun (i, _) => rejectIf (i = "") (plain .policyInvalid "sink classification policy is invalid")) p.maxClassificationBySinkAsset
  forEach (fun (i, transforms) => rejectIf (i = "" ∨ transforms = []) (plain .policyInvalid "sink transform policy is invalid"))
    p.allowedFinalTransformsBySinkAsset

def validateRequest (r : DataPathRequest) (p : DataPathPolicy) : Gate Unit := do
  rejectIf (r.dataGraphId = "" ∨ r.dataGraphVersion = "" ∨ ¬ isSha256 rt r.dataGraphSha256 ∨ ¬ isSha256 rt r.architectureSha256 ∨
    ¬ isSha256 rt r.p7aAssessmentEvidenceSha256 ∨ ¬ isSha256 rt r.p7bAssessmentEvidenceSha256 ∨ ¬ isSha256 rt r.postureEvidenceSha256 ∨
    r.entryDataIds = [] ∨ r.targetSinkAssetIds = [] ∨ r.evaluatedAtEpoch ≤ 0 ∨ r.declaredMaxExposedRiskScore < 0 ∨
    ¬ r.entryDataIds.Nodup ∨ ¬ r.targetSinkAssetIds.Nodup ∨ ¬ r.declaredExposedPathIds.Nodup)
    (plain .requestInvalid "data-path request metadata is invalid")
  rejectIf (¬ sameSet r.entryDataIds p.entryDataIds) (plain .entryDataScopeMismatch "entry data scope differs from policy")
  rejectIf (¬ sameSet r.targetSinkAssetIds p.targetSinkAssetIds) (plain .targetSinkScopeMismatch "target sink scope differs from policy")

/-! ## Upstream evidence -/

def validateArchitecture (m : ArchitectureManifest) (r : DataPathRequest) (p : DataPathPolicy) : Gate AssetGraph := do
  rejectIf (m.architectureId = "" ∨ m.version = "" ∨ m.assets = [] ∨ m.flows = [])
    (plain .architectureInvalid "architecture manifest metadata is invalid")
  let sha := architectureManifestDigest rt m
  rejectIf (sha ≠ rt.casefold p.expectedArchitectureSha256 ∨ rt.casefold r.architectureSha256 ≠ sha)
    (plain .architectureDigestMismatch "request/policy do not bind to exact P7-A architecture")
  rejectIf (¬ (m.assets.map ArchitectureAsset.assetId).Nodup ∨ ¬ (m.flows.map ArchitectureFlow.flowId).Nodup)
    (plain .architectureInvalid "architecture contains duplicate asset or flow IDs")
  return ⟨m.assets, m.flows, sha⟩

def controlRejections : ControlRejections DataPathRejected where
  invalid c := ⟨.controlEvidenceInvalid, "P6-D control assessment is invalid", none, none, orNone c⟩
  duplicate c := ⟨.controlEvidenceInvalid, "P6-D posture contains duplicate control assessments", none, none, some c⟩
  count := plain .controlEvidenceInvalid "P6-D control count does not match assessment coverage"
  status := plain .controlStatusMismatch "P6-D aggregate control-status lists do not match assessments"

/-- Every digest that is compared here was found to be one, so that no comparison is an error. -/
def validateUpstreamEvidence (r : DataPathRequest) (p : DataPathPolicy) (sha : String) (a : VerifiedAttackPathAssessment)
    (b : VerifiedPrivilegeEscalationAssessment) (s : SecurityPosture) : Gate (Dict ControlStatus) := do
  rejectIf (¬ a.Intact ∨ ¬ isSha256 rt a.architectureSha256 ∨ ¬ isSha256 rt a.postureEvidenceSha256 ∨
    ¬ isSha256 rt a.controlCatalogSha256 ∨ ¬ isSha256 rt a.assessmentEvidenceSha256)
    (plain .p7aAssessmentUnverified "data-flow analysis requires intact P7-A attack-path evidence")
  rejectIf (rt.casefold a.architectureSha256 ≠ rt.casefold sha ∨
    rt.casefold a.assessmentEvidenceSha256 ≠ rt.casefold p.expectedP7aAssessmentEvidenceSha256 ∨
    rt.casefold r.p7aAssessmentEvidenceSha256 ≠ rt.casefold a.assessmentEvidenceSha256)
    (plain .p7aAssessmentMismatch "P7-A architecture/assessment evidence differs from P7-C policy")
  rejectIf (¬ b.Intact ∨ ¬ isSha256 rt b.architectureSha256 ∨ ¬ isSha256 rt b.p7aAssessmentEvidenceSha256 ∨
    ¬ isSha256 rt b.postureEvidenceSha256 ∨ ¬ isSha256 rt b.controlCatalogSha256 ∨ ¬ isSha256 rt b.assessmentEvidenceSha256)
    (plain .p7bAssessmentUnverified "data-flow analysis requires intact P7-B privilege evidence")
  rejectIf (rt.casefold b.architectureSha256 ≠ rt.casefold sha ∨
    rt.casefold b.p7aAssessmentEvidenceSha256 ≠ rt.casefold a.assessmentEvidenceSha256 ∨
    rt.casefold b.assessmentEvidenceSha256 ≠ rt.casefold p.expectedP7bAssessmentEvidenceSha256 ∨
    rt.casefold r.p7bAssessmentEvidenceSha256 ≠ rt.casefold b.assessmentEvidenceSha256)
    (plain .p7bAssessmentMismatch "P7-B privilege evidence differs from P7-C policy")
  rejectIf (¬ s.Intact ∨ ¬ isSha256 rt s.postureEvidenceSha256 ∨ ¬ isSha256 rt s.controlCatalogSha256)
    (plain .postureUnverified "data-flow analysis requires intact P6-D posture evidence")
  rejectIf (rt.casefold s.postureEvidenceSha256 ≠ rt.casefold p.expectedPostureEvidenceSha256 ∨
    rt.casefold r.postureEvidenceSha256 ≠ rt.casefold s.postureEvidenceSha256 ∨
    rt.casefold a.postureEvidenceSha256 ≠ rt.casefold s.postureEvidenceSha256 ∨
    rt.casefold b.postureEvidenceSha256 ≠ rt.casefold s.postureEvidenceSha256)
    (plain .postureDigestMismatch "P6-D posture evidence differs from P7-C policy or upstream assessments")
  rejectIf (rt.casefold s.controlCatalogSha256 ≠ rt.casefold p.expectedControlCatalogSha256 ∨
    rt.casefold a.controlCatalogSha256 ≠ rt.casefold s.controlCatalogSha256 ∨
    rt.casefold b.controlCatalogSha256 ≠ rt.casefold s.controlCatalogSha256)
    (plain .controlCatalogMismatch "P6-D control catalog differs across P7-A/P7-B/P7-C evidence")
  postureControls rt controlRejections s

/-! ## The data-flow graph -/

/-- The objects and edges of a manifest, each with an id of its own, and its digest. -/
structure DataGraph where
  dataObjects : List DataObject
  edges : List DataFlowEdge
  sha256 : String

def DataGraph.data (g : DataGraph) : Dict DataObject := Dict.ofItems DataObject.dataId g.dataObjects

def validateDataObject (assets : AssetGraph) (p : DataPathPolicy) (seen : List DataObject) (d : DataObject) : Gate Unit := do
  rejectIf (d.dataId = "" ∨ d.tenantId = "" ∨ d.originAssetId = "" ∨ d.ownerId = "" ∨ d.description = "")
    ⟨.dataManifestInvalid, "data object metadata is invalid", orNone d.dataId, none, none⟩
  rejectIf (d.dataId ∈ seen.map DataObject.dataId) (ofData .dataDuplicate "data-flow manifest contains duplicate data IDs" d.dataId)
  rejectIf (d.ownerId ∉ p.trustedOwnerIds) (ofData .dataOwnerUntrusted "data owner is not trusted" d.dataId)
  rejectIf (assets.asset d.originAssetId = none)
    (ofData .dataOriginInvalid "data object origin is not in the architecture" d.dataId)

/-- The comparison of a data object with what the policy pins. -/
def compareDataObject (p : DataPathPolicy) (d : DataObject) : Gate Unit := do
  let tenant ← getItem (Dict.mapping p.expectedTenantByData) d.dataId
  rejectIf (d.tenantId ≠ tenant) (ofData .dataTenantDrift "data tenant ownership differs from policy" d.dataId)
  let kind ← getItem (Dict.mapping p.expectedKindByData) d.dataId
  rejectIf (d.dataKind ≠ kind) (ofData .dataKindDrift "data kind differs from policy" d.dataId)
  let origin ← getItem (Dict.mapping p.expectedOriginAssetByData) d.dataId
  rejectIf (d.originAssetId ≠ origin) (ofData .dataOriginInvalid "data origin differs from policy" d.dataId)
  let minimum ← getItem (Dict.mapping p.minimumClassificationByData) d.dataId
  rejectIf (classificationRank d.classification < classificationRank minimum)
    (ofData .dataClassificationDowngrade "data classification is below policy floor" d.dataId)

def validateEdge (assets : AssetGraph) (data : Dict DataObject) (p : DataPathPolicy) (seen : List DataFlowEdge) (e : DataFlowEdge) :
    Gate Unit := do
  rejectIf (e.edgeId = "" ∨ e.dataId = "" ∨ e.sourceAssetId = "" ∨ e.targetAssetId = "" ∨ e.destinationTenantId = "" ∨ e.ownerId = "" ∨
    e.viaFlowIds = [] ∨ e.purpose = "" ∨ ¬ e.viaFlowIds.Nodup ∨ ¬ e.requiredControlIds.Nodup ∨ "" ∈ e.requiredControlIds)
    ⟨.dataManifestInvalid, "data-flow edge metadata is invalid", none, orNone e.edgeId, none⟩
  rejectIf (e.edgeId ∈ seen.map DataFlowEdge.edgeId) (ofEdge .edgeDuplicate "data-flow manifest contains duplicate edge IDs" e.edgeId)
  rejectIf (e.ownerId ∉ p.trustedOwnerIds) (ofEdge .edgeOwnerUntrusted "data-flow edge owner is not trusted" e.edgeId)
  rejectIf (data e.dataId = none ∨ assets.asset e.sourceAssetId = none ∨ assets.asset e.targetAssetId = none)
    (ofEdge .edgeReferenceInvalid "data-flow edge references unknown data or assets" e.edgeId)
  rejectIf (e.sourceAssetId = e.targetAssetId) (ofEdge .edgeSelfLoop "data-flow edge may not self-loop" e.edgeId)

/-- The loop over `via_flow_ids`: where the route leads. -/
def followRoute (assets : AssetGraph) (edgeId current : String) : List String → Gate String
  | [] => .ok current
  | i :: rest => do
    let invalid : Raised DataPathRejected :=
      .rejected (ofEdge .edgeFlowInvalid "data-flow edge route is not contiguous in P7-A architecture" edgeId)
    let f ← orRaise invalid (assets.flow i)
    raiseIf (f.sourceAssetId ≠ current) invalid
    followRoute assets edgeId f.targetAssetId rest

/-- The comparison of an edge with what the policy pins, and its route through the architecture. -/
def compareEdge (assets : AssetGraph) (controls : Dict ControlStatus) (p : DataPathPolicy) (e : DataFlowEdge) : Gate Unit := do
  let dataId ← getItem (Dict.mapping p.expectedDataIdByEdge) e.edgeId
  rejectIf (e.dataId ≠ dataId) (ofEdge .edgeDataDrift "data-flow edge data binding differs from policy" e.edgeId)
  let endpoints ← getItem (Dict.mapping p.expectedEndpointsByEdge) e.edgeId
  rejectIf ((e.sourceAssetId, e.targetAssetId) ≠ endpoints) (ofEdge .edgeEndpointDrift "data-flow edge endpoints differ from policy" e.edgeId)
  let flows ← getItem (Dict.mapping p.expectedFlowIdsByEdge) e.edgeId
  rejectIf (e.viaFlowIds ≠ flows) (ofEdge .edgeFlowDrift "data-flow edge architecture route differs from policy" e.edgeId)
  let expected ← getItem (Dict.mapping p.expectedControlIdsByEdge) e.edgeId
  rejectIf (¬ sameSet e.requiredControlIds expected) (ofEdge .edgeControlDrift "data-flow edge control set differs from policy" e.edgeId)
  let transforms ← getItem (Dict.mapping p.allowedTransformsByEdge) e.edgeId
  rejectIf (e.transform ∉ transforms) (ofEdge .edgeTransformDisallowed "data-flow edge transform is not policy-authorized" e.edgeId)
  forEach (fun c => rejectIf (controls c = none)
    ⟨.edgeControlUnknown, "data-flow edge references control absent from P6-D posture", none, some e.edgeId, some c⟩) e.requiredControlIds
  let last ← followRoute assets e.edgeId e.sourceAssetId e.viaFlowIds
  rejectIf (last ≠ e.targetAssetId) (ofEdge .edgeFlowInvalid "data-flow edge route does not terminate at its target asset" e.edgeId)

def validateManifest (m : DataFlowManifest) (r : DataPathRequest) (p : DataPathPolicy) (assets : AssetGraph) (controls : Dict ControlStatus) :
    Gate DataGraph := do
  rejectIf (m.schemaVersion ≠ P7C_DATA_MANIFEST_SCHEMA_VERSION ∨ m.dataGraphId = "" ∨ m.version = "" ∨ ¬ isSha256 rt m.architectureSha256 ∨
    m.createdAtEpoch ≤ 0 ∨ m.dataObjects = [] ∨ m.edges = []) (plain .dataManifestInvalid "data-flow manifest metadata is invalid")
  let sha := dataFlowManifestDigest rt m
  rejectIf (m.dataGraphId ≠ p.expectedDataGraphId ∨ m.version ≠ p.expectedDataGraphVersion ∨ r.dataGraphId ≠ m.dataGraphId ∨
    r.dataGraphVersion ≠ m.version ∨ sha ≠ rt.casefold p.expectedDataGraphSha256 ∨ rt.casefold r.dataGraphSha256 ≠ sha ∨
    rt.casefold m.architectureSha256 ≠ rt.casefold assets.sha256)
    (plain .dataManifestDigestMismatch "request/policy do not bind to exact data-flow manifest")
  rejectIf (m.createdAtEpoch > r.evaluatedAtEpoch + p.maxFutureSkewSeconds)
    (plain .dataManifestFuture "data-flow manifest is future-dated")
  rejectIf (r.evaluatedAtEpoch - m.createdAtEpoch > p.maxManifestAgeSeconds)
    (plain .dataManifestStale "data-flow manifest is older than policy permits")
  let g : DataGraph := ⟨m.dataObjects, m.edges, sha⟩
  scan (validateDataObject assets p) [] m.dataObjects
  rejectIf (¬ sameSet (m.dataObjects.map DataObject.dataId) p.requiredDataIds)
    (plain .dataCoverageMismatch "data-object coverage differs from policy")
  forEach (compareDataObject p) m.dataObjects
  scan (validateEdge assets g.data p) [] m.edges
  rejectIf (¬ sameSet (m.edges.map DataFlowEdge.edgeId) p.requiredEdgeIds)
    (plain .edgeCoverageMismatch "data-flow edge coverage differs from policy")
  forEach (compareEdge assets controls p) m.edges
  return g

/-! ## Paths -/

/-- `_path_fact` of the path that begins with `first`. -/
def pathFact (controls : Dict ControlStatus) (p : DataPathPolicy) (d : DataObject) (first : DataFlowEdge) (rest : List DataFlowEdge) :
    Gate DataPathFact := do
  let path := first :: rest
  let assetIds := first.sourceAssetId :: path.map DataFlowEdge.targetAssetId
  let edgeIds := path.map DataFlowEdge.edgeId
  let destinations ← getItem (Dict.mapping p.allowedDestinationTenantsByData) d.dataId
  let violations := (path.filter fun e => e.destinationTenantId ∉ destinations).map DataFlowEdge.edgeId
  let t ← tally controls (path.flatMap DataFlowEdge.requiredControlIds)
  let last := rest.getLast?.getD first
  let sink := last.targetAssetId
  let sinks ← getItem (Dict.mapping p.allowedSinkAssetsByData) d.dataId
  let sinkAllowed : Bool := sink ∈ sinks
  let transforms ← getItem (Dict.mapping p.allowedFinalTransformsBySinkAsset) sink
  let finalTransformAllowed : Bool := last.transform ∈ transforms
  let ceiling ← getItem (Dict.mapping p.maxClassificationBySinkAsset) sink
  let classificationAllowed : Bool := classificationRank d.classification ≤ classificationRank ceiling ∨
    last.transform ∈ [.redacted, .aggregated, .tokenized] ∧ finalTransformAllowed
  let externalEgress : Bool := sink ∈ p.egressSinkAssetIds
  let reasons := violations.map ("tenant_boundary_violation:" ++ ·) ++ (if sinkAllowed then [] else ["sink_not_authorized:" ++ sink]) ++
    (if classificationAllowed then [] else ["classification_exceeds_sink:" ++ sink]) ++
    (if finalTransformAllowed then [] else ["final_transform_not_authorized:" ++ last.transform.value]) ++
    t.exceptioned.map ("exceptioned_control:" ++ ·) ++ t.notEvaluated.map ("not_evaluated_control:" ++ ·)
  return {
    pathId := dataPathIdentifier rt d.dataId d.originAssetId sink assetIds edgeIds
    dataId := d.dataId
    originAssetId := d.originAssetId
    targetSinkAssetId := sink
    assetIds := assetIds
    edgeIds := edgeIds
    architectureFlowIds := path.flatMap DataFlowEdge.viaFlowIds
    tenantSequence := d.tenantId :: path.map DataFlowEdge.destinationTenantId
    transformSequence := path.map fun e => e.transform.value
    classification := d.classification
    dataKind := d.dataKind
    satisfiedControlIds := t.satisfied
    exceptionedControlIds := t.exceptioned
    notEvaluatedControlIds := t.notEvaluated
    tenantViolationEdgeIds := violations
    sinkAllowed := sinkAllowed
    classificationAllowed := classificationAllowed
    finalTransformAllowed := finalTransformAllowed
    externalEgress := externalEgress
    exposed := reasons ≠ []
    riskScore := 5 + classificationRank d.classification * 20 + path.length * 2 + (if externalEgress then 12 else 0) +
      violations.length * 20 + (if sinkAllowed then 0 else 16) + (if classificationAllowed then 0 else 18) +
      (if finalTransformAllowed then 0 else 12) + t.exceptioned.length * 10 + t.notEvaluated.length * 6
    exposureReasons := sortOn id reasons
    mitigatingControlIds := t.satisfied }

/-- `adjacency` of a data object; the walk stops at the first target sink it comes to. -/
def graph (edges : List DataFlowEdge) (targets : List String) (dataId : String) : BoundedSearch.Graph String DataFlowEdge where
  outgoing i := sortOn DataFlowEdge.edgeId (edges.filter fun e => e.dataId = dataId ∧ e.sourceAssetId = i)
  target := DataFlowEdge.targetAssetId
  halts current path := current ∈ targets ∧ path ≠ []

def pathLimit (message : String) : Raised DataPathRejected := .rejected (plain .pathLimitExceeded message)

/-- `walk(data, …)`. -/
def walkFrom (edges : List DataFlowEdge) (controls : Dict ControlStatus) (p : DataPathPolicy) (d : DataObject) :
    Search String DataFlowEdge DataPathFact (Raised DataPathRejected) where
  toGraph := graph edges p.targetSinkAssetIds d.dataId
  emits current path := match path with
    | [] => .ok []
    | first :: rest => if current ∈ p.targetSinkAssetIds then do
        let fact ← pathFact rt controls p d first rest
        return [fact]
      else .ok []
  maxResults := p.maxPaths
  tooMany := pathLimit "data topology produced more paths than policy permits"

/-- `_enumerate_paths`; every entry object is looked up, and followed from its origin. -/
def enumeratePaths (g : DataGraph) (controls : Dict ControlStatus) (p : DataPathPolicy) : Gate (List DataPathFact) := do
  let entries ← gather (getItem g.data) (distinct p.entryDataIds)
  let (results, truncated) ← entries.foldlM (fun st d =>
    walk (walkFrom rt g.edges controls p d) p.maxPathHops.toNat d.originAssetId [] [d.originAssetId] st) ([], false)
  raiseIf truncated (pathLimit "data-path hop bound truncated a reachable topology frontier")
  raiseIf (¬ (results.map DataPathFact.pathId).Nodup) (pathLimit "deterministic data-path identifier collision detected")
  return sortOn DataPathFact.pathId results

/-! ## The assessment -/

/-- `asdict(item)`. -/
def factDocument (f : DataPathFact) : Json := .obj [
  ("architecture_flow_ids", texts f.architectureFlowIds), ("asset_ids", texts f.assetIds),
  ("classification", .str f.classification.value), ("classification_allowed", .bool f.classificationAllowed),
  ("data_id", .str f.dataId), ("data_kind", .str f.dataKind.value), ("edge_ids", texts f.edgeIds),
  ("exceptioned_control_ids", texts f.exceptionedControlIds), ("exposed", .bool f.exposed),
  ("exposure_reasons", texts f.exposureReasons), ("external_egress", .bool f.externalEgress),
  ("final_transform_allowed", .bool f.finalTransformAllowed), ("mitigating_control_ids", texts f.mitigatingControlIds),
  ("not_evaluated_control_ids", texts f.notEvaluatedControlIds), ("origin_asset_id", .str f.originAssetId),
  ("path_id", .str f.pathId), ("risk_score", .int f.riskScore), ("satisfied_control_ids", texts f.satisfiedControlIds),
  ("sink_allowed", .bool f.sinkAllowed), ("target_sink_asset_id", .str f.targetSinkAssetId),
  ("tenant_sequence", texts f.tenantSequence), ("tenant_violation_edge_ids", texts f.tenantViolationEdgeIds),
  ("transform_sequence", texts f.transformSequence)]

/-- `sorted(exposed, key=(-risk_score, data_id, path_id))`. -/
def prioritized (exposed : List DataPathFact) : List String :=
  (sortOn DataPathFact.pathId exposed |> sortOn DataPathFact.dataId |> sortOn fun f => -f.riskScore).map DataPathFact.pathId

/-- `max(…, default=0)`; no score is negative. -/
def maxRisk (exposed : List DataPathFact) : Int := (exposed.map DataPathFact.riskScore).foldl max 0

/-- `TenantIsolationExfiltrationAnalyzer.evaluate`. -/
def evaluate (p : DataPathPolicy) (r : DataPathRequest) (m : DataFlowManifest) (architecture : ArchitectureManifest)
    (a : VerifiedAttackPathAssessment) (b : VerifiedPrivilegeEscalationAssessment) (s : SecurityPosture) :
    Gate VerifiedDataExfiltrationAssessment := do
  validatePolicy rt p
  validateRequest rt r p
  let assets ← validateArchitecture rt architecture r p
  let controls ← validateUpstreamEvidence rt r p assets.sha256 a b s
  let g ← validateManifest rt m r p assets controls
  let paths ← enumeratePaths rt g controls p
  let exposed := paths.filter fun f => f.exposed
  let controlled := paths.filter fun f => ¬ f.exposed
  let restricted := exposed.filter fun f => f.classification = .restricted ∨ f.classification = .secret
  let crossTenant := exposed.filter fun f => f.tenantViolationEdgeIds ≠ []
  let egress := exposed.filter fun f => f.externalEgress
  rejectIf (¬ sameSet r.declaredExposedPathIds (prioritized exposed))
    (plain .declaredPathMismatch "caller-declared exposed data paths differ from evidence-derived paths")
  rejectIf (r.declaredMaxExposedRiskScore ≠ maxRisk exposed)
    (plain .declaredRiskMismatch "caller-declared maximum exfiltration risk differs from evidence-derived risk")
  let document : Json := .obj [
    ("architecture_sha256", .str assets.sha256), ("control_catalog_sha256", .str (rt.casefold s.controlCatalogSha256)),
    ("data_graph_sha256", .str g.sha256), ("entry_data_ids", texts (sortOn id r.entryDataIds)),
    ("exposed_path_ids", texts (prioritized exposed)), ("max_exposed_risk_score", .int (maxRisk exposed)),
    ("p7a_assessment_evidence_sha256", .str (rt.casefold a.assessmentEvidenceSha256)),
    ("p7b_assessment_evidence_sha256", .str (rt.casefold b.assessmentEvidenceSha256)),
    ("path_facts", .arr (paths.map factDocument)),
    ("posture_evidence_sha256", .str (rt.casefold s.postureEvidenceSha256)),
    ("target_sink_asset_ids", texts (sortOn id r.targetSinkAssetIds))]
  return {
    dataGraphId := m.dataGraphId
    dataGraphVersion := m.version
    dataGraphSha256 := g.sha256
    architectureSha256 := assets.sha256
    p7aAssessmentEvidenceSha256 := rt.casefold a.assessmentEvidenceSha256
    p7bAssessmentEvidenceSha256 := rt.casefold b.assessmentEvidenceSha256
    postureEvidenceSha256 := rt.casefold s.postureEvidenceSha256
    controlCatalogSha256 := rt.casefold s.controlCatalogSha256
    entryDataIds := sortOn id r.entryDataIds
    targetSinkAssetIds := sortOn id r.targetSinkAssetIds
    topologyPathCount := paths.length
    exposedPathCount := exposed.length
    controlledPathCount := controlled.length
    restrictedOrSecretExposedPathCount := restricted.length
    crossTenantExposedPathCount := crossTenant.length
    externalEgressExposedPathCount := egress.length
    maxExposedRiskScore := maxRisk exposed
    prioritizedExposedPathIds := prioritized exposed
    paths := paths
    assessmentEvidenceSha256 := rt.sha256 document }

end

end Aegis.Architecture.DataPaths
