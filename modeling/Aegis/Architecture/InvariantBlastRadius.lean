/-
  Aegis.Architecture.InvariantBlastRadius — the P7-I analyzer, which says of every security invariant
  of an architecture whether it holds (invariant_blast_radius.py).

  An invariant is bound to objects of the assessments of P7-A to P7-H and to controls of P6-D, and
  has required controls beside them. `evaluate` validates request, evidence and catalog, judges each
  binding, and compares the states, the blast radius and the greatest score with what the caller
  declared. The evidence is any object, which is read attribute by attribute.
-/

import Aegis.Architecture.Evidence

namespace Aegis.Architecture.InvariantBlastRadius

open Data Data.Checks
open Agentic (Dict Runtime sameSet)
open Agentic.Evidence (digest elements enumValue getattr text truthy)

def P7I_INVARIANT_CATALOG_SCHEMA_VERSION : String := "aegis-security-architecture-invariant-catalog-v1"

inductive InvariantSeverity where
  | low
  | medium
  | high
  | critical
  deriving DecidableEq, Repr

def InvariantSeverity.value : InvariantSeverity → String
  | low => "low"
  | medium => "medium"
  | high => "high"
  | critical => "critical"

inductive InvariantState where
  | holds
  | degraded
  | violated
  deriving DecidableEq, Repr

def InvariantState.value : InvariantState → String
  | holds => "holds"
  | degraded => "degraded"
  | violated => "violated"

inductive InvariantRejectReason where
  | policyInvalid
  | requestInvalid
  | upstreamUnverified
  | upstreamDigestMismatch
  | postureUnverified
  | postureDigestMismatch
  | controlCatalogMismatch
  | controlEvidenceInvalid
  | catalogInvalid
  | catalogDigestMismatch
  | catalogStale
  | catalogFuture
  | invariantDuplicate
  | invariantCoverageMismatch
  | invariantOwnerUntrusted
  | invariantSeverityDowngrade
  | invariantBindingDrift
  | invariantBindingDuplicate
  | invariantBindingUnknown
  | invariantLayerCoverageWeak
  | invariantAssetDrift
  | invariantIdentityDrift
  | invariantDependencyDrift
  | invariantRouteDrift
  | invariantControlDrift
  | invariantControlUnknown
  | invariantDescriptionEmpty
  | declaredStateMismatch
  | declaredBlastRadiusMismatch
  | declaredMaxRiskMismatch
  deriving DecidableEq, Repr

structure InvariantAssessmentRejected where
  reason : InvariantRejectReason
  message : String
  invariantId : Option String := none
  bindingId : Option String := none
  deriving DecidableEq, Repr

abbrev Gate (α : Type) := Checked InvariantAssessmentRejected α

structure ArchitectureInvariant where
  invariantId : String
  title : String
  description : String
  ownerId : String
  severity : InvariantSeverity
  requiredBindingIds : List String
  protectedAssetIds : List String
  affectedIdentityIds : List String
  dependencyIds : List String
  controlPlaneRouteIds : List String
  requiredControlIds : List String
  deriving DecidableEq

/-- The digests of the evidence, which catalog, request and policy each have a field for. -/
structure EvidencePins where
  p7aAssessmentEvidenceSha256 : String
  p7bAssessmentEvidenceSha256 : String
  p7cAssessmentEvidenceSha256 : String
  p7dAssessmentEvidenceSha256 : String
  p7eAssessmentEvidenceSha256 : String
  p7fAssessmentEvidenceSha256 : String
  p7gAssessmentEvidenceSha256 : String
  p7hAssessmentEvidenceSha256 : String
  postureEvidenceSha256 : String
  deriving DecidableEq

def EvidencePins.toList (p : EvidencePins) : List String :=
  [p.p7aAssessmentEvidenceSha256, p.p7bAssessmentEvidenceSha256, p.p7cAssessmentEvidenceSha256, p.p7dAssessmentEvidenceSha256,
    p.p7eAssessmentEvidenceSha256, p.p7fAssessmentEvidenceSha256, p.p7gAssessmentEvidenceSha256, p.p7hAssessmentEvidenceSha256,
    p.postureEvidenceSha256]

structure InvariantCatalog extends EvidencePins where
  catalogId : String
  version : String
  createdAtEpoch : Int
  invariants : List ArchitectureInvariant
  schemaVersion : String := P7I_INVARIANT_CATALOG_SCHEMA_VERSION

structure InvariantAssessmentRequest extends EvidencePins where
  catalogId : String
  catalogVersion : String
  catalogSha256 : String
  evaluatedAtEpoch : Int
  invariantIds : List String
  declaredViolatedInvariantIds : List String
  declaredDegradedInvariantIds : List String
  declaredCrossLayerBlastRadius : Int
  declaredMaxBlastRadiusScore : Int

/-- A `Mapping` is the list of its items. -/
structure InvariantBlastRadiusPolicy where
  expectedCatalogId : String
  expectedCatalogVersion : String
  expectedCatalogSha256 : String
  expected : EvidencePins
  expectedControlCatalogSha256 : String
  requiredInvariantIds : List String
  trustedOwnerIds : List String
  minimumSeverityByInvariant : List (String × InvariantSeverity)
  expectedBindingIdsByInvariant : List (String × List String)
  expectedAssetIdsByInvariant : List (String × List String)
  expectedIdentityIdsByInvariant : List (String × List String)
  expectedDependencyIdsByInvariant : List (String × List String)
  expectedRouteIdsByInvariant : List (String × List String)
  expectedControlIdsByInvariant : List (String × List String)
  minDistinctLayersByInvariant : List (String × Int)
  maxCatalogAgeSeconds : Int := 86400
  maxFutureSkewSeconds : Int := 30

structure InvariantBlastRadiusFact where
  invariantId : String
  title : String
  severity : InvariantSeverity
  state : InvariantState
  violatingBindingIds : List String
  degradedControlIds : List String
  exposedLayerIds : List String
  protectedAssetIds : List String
  affectedIdentityIds : List String
  affectedDependencyIds : List String
  affectedControlPlaneRouteIds : List String
  blastRadiusUnits : Int
  blastRadiusScore : Int
  mitigatingBindingIds : List String
  deriving DecidableEq

structure VerifiedInvariantBlastRadiusAssessment extends EvidencePins where
  catalogId : String
  catalogVersion : String
  catalogSha256 : String
  controlCatalogSha256 : String
  invariantCount : Int
  holdingInvariantCount : Int
  degradedInvariantCount : Int
  violatedInvariantCount : Int
  criticalViolatedInvariantCount : Int
  crossLayerBlastRadius : Int
  maxBlastRadiusScore : Int
  prioritizedInvariantIds : List String
  invariants : List InvariantBlastRadiusFact
  assessmentEvidenceSha256 : String

/-- The assessments of P7-A to P7-H, and the posture of P6-D. -/
structure Evidence where
  p7a : Json
  p7b : Json
  p7c : Json
  p7d : Json
  p7e : Json
  p7f : Json
  p7g : Json
  p7h : Json
  posture : Json

/-- `_rank`. -/
def rank : InvariantSeverity → Int
  | .low => 1
  | .medium => 2
  | .high => 3
  | .critical => 4

/-! ## Binding ids -/

/-- `binding_id.split(":", 1)[0]`. -/
def sourceOf (bindingId : String) : String := String.ofList (bindingId.toList.takeWhile (· ≠ ':'))

/-- The other part of `binding_id.split(":", 1)`, where there is one. -/
def objectIdOf (bindingId : String) : String := String.ofList ((bindingId.toList.dropWhile (· ≠ ':')).drop 1)

/-- `value.startswith("p6d:")` -/
def ofControl (bindingId : String) : Bool := "p6d:".toList.isPrefixOf bindingId.toList

def bindingPrefixes : List String := ["p7a:", "p7b:", "p7c:", "p7d:", "p7e:", "p7f:", "p7g:", "p7h:", "p6d:"]

section
variable (rt : Runtime)

/-! ## Canonical document -/

def canonicalInvariant (i : ArchitectureInvariant) : Json := .obj [
  ("affected_identity_ids", texts (sortOn id i.affectedIdentityIds)),
  ("control_plane_route_ids", texts (sortOn id i.controlPlaneRouteIds)),
  ("dependency_ids", texts (sortOn id i.dependencyIds)), ("description", .str i.description),
  ("invariant_id", .str i.invariantId), ("owner_id", .str i.ownerId),
  ("protected_asset_ids", texts (sortOn id i.protectedAssetIds)),
  ("required_binding_ids", texts (sortOn id i.requiredBindingIds)),
  ("required_control_ids", texts (sortOn id i.requiredControlIds)), ("severity", .str i.severity.value),
  ("title", .str i.title)]

/-- `canonical_invariant_catalog_bytes`. -/
def canonicalInvariantCatalog (c : InvariantCatalog) : Json := .obj [
  ("catalog_id", .str c.catalogId), ("created_at_epoch", .int c.createdAtEpoch),
  ("invariants", .arr ((sortOn ArchitectureInvariant.invariantId c.invariants).map canonicalInvariant)),
  ("p7a_assessment_evidence_sha256", .str (rt.casefold c.p7aAssessmentEvidenceSha256)),
  ("p7b_assessment_evidence_sha256", .str (rt.casefold c.p7bAssessmentEvidenceSha256)),
  ("p7c_assessment_evidence_sha256", .str (rt.casefold c.p7cAssessmentEvidenceSha256)),
  ("p7d_assessment_evidence_sha256", .str (rt.casefold c.p7dAssessmentEvidenceSha256)),
  ("p7e_assessment_evidence_sha256", .str (rt.casefold c.p7eAssessmentEvidenceSha256)),
  ("p7f_assessment_evidence_sha256", .str (rt.casefold c.p7fAssessmentEvidenceSha256)),
  ("p7g_assessment_evidence_sha256", .str (rt.casefold c.p7gAssessmentEvidenceSha256)),
  ("p7h_assessment_evidence_sha256", .str (rt.casefold c.p7hAssessmentEvidenceSha256)),
  ("posture_evidence_sha256", .str (rt.casefold c.postureEvidenceSha256)), ("schema_version", .str c.schemaVersion),
  ("version", .str c.version)]

def invariantCatalogDigest (c : InvariantCatalog) : String := rt.sha256 (canonicalInvariantCatalog rt c)

/-! ## Validation -/

/-- `_is_sha256`. -/
def isSha256 (value : String) : Prop := Assurance.isSha256 ⟨rt.toHashing, rt.casefold⟩ value

instance decidableIsSha256 (value : String) : Decidable (isSha256 rt value) := inferInstanceAs (Decidable (Assurance.isSha256 _ value))

/-- `left.casefold() == right.casefold()` of each of the pairs. -/
def samePins (left right : EvidencePins) : Prop := left.toList.map rt.casefold = right.toList.map rt.casefold

instance decidableSamePins (left right : EvidencePins) : Decidable (samePins rt left right) := inferInstanceAs (Decidable (_ = _))

/-- `_validate_policy`. -/
def validatePolicy (p : InvariantBlastRadiusPolicy) : Gate Unit := do
  rejectIf (p.expectedCatalogId = "" ∨ p.expectedCatalogVersion = "" ∨
    ¬ (∀ v ∈ p.expectedCatalogSha256 :: p.expected.toList ++ [p.expectedControlCatalogSha256], isSha256 rt v) ∨
    p.requiredInvariantIds = [] ∨ p.trustedOwnerIds = [] ∨ p.maxCatalogAgeSeconds ≤ 0 ∨ p.maxFutureSkewSeconds < 0)
    ⟨.policyInvalid, "invariant policy metadata is invalid", none, none⟩
  rejectIf (¬ sameSet (p.minimumSeverityByInvariant.map Prod.fst) p.requiredInvariantIds ∨
    ¬ sameSet (p.expectedBindingIdsByInvariant.map Prod.fst) p.requiredInvariantIds ∨
    ¬ sameSet (p.expectedAssetIdsByInvariant.map Prod.fst) p.requiredInvariantIds ∨
    ¬ sameSet (p.expectedIdentityIdsByInvariant.map Prod.fst) p.requiredInvariantIds ∨
    ¬ sameSet (p.expectedDependencyIdsByInvariant.map Prod.fst) p.requiredInvariantIds ∨
    ¬ sameSet (p.expectedRouteIdsByInvariant.map Prod.fst) p.requiredInvariantIds ∨
    ¬ sameSet (p.expectedControlIdsByInvariant.map Prod.fst) p.requiredInvariantIds ∨
    ¬ sameSet (p.minDistinctLayersByInvariant.map Prod.fst) p.requiredInvariantIds)
    ⟨.policyInvalid, "invariant policy maps must exactly cover required invariant IDs", none, none⟩
  forEach (fun i => do
    let bindings ← getItem (Dict.mapping p.expectedBindingIdsByInvariant) i
    let controls ← getItem (Dict.mapping p.expectedControlIdsByInvariant) i
    let layers ← getItem (Dict.mapping p.minDistinctLayersByInvariant) i
    rejectIf (bindings = [] ∨ controls = [] ∨ layers < 2)
      ⟨.policyInvalid, "invariant policy must require cross-layer evidence and controls", some i, none⟩
    rejectIf (¬ (bindings.all fun b => bindingPrefixes.any fun s => s.toList.isPrefixOf b.toList) = true)
      ⟨.policyInvalid, "invariant policy contains unsupported binding source", some i, none⟩) p.requiredInvariantIds

/-- A row of `specs` in `_validate_upstreams`: what is read of one assessment. -/
structure Spec where
  source : String
  evidence : Evidence → Json
  pin : EvidencePins → String
  flags : List String
  collection : String
  idAttr : String

def specs : List Spec := [
  ⟨"p7a", Evidence.p7a, EvidencePins.p7aAssessmentEvidenceSha256, ["exact_architecture_binding_verified", "required_graph_coverage_verified"],
    "paths", "path_id"⟩,
  ⟨"p7b", Evidence.p7b, EvidencePins.p7bAssessmentEvidenceSha256,
    ["exact_identity_graph_binding_verified", "privilege_amplification_derived_from_evidence"], "paths", "path_id"⟩,
  ⟨"p7c", Evidence.p7c, EvidencePins.p7cAssessmentEvidenceSha256, ["exact_data_graph_binding_verified", "exfiltration_derived_from_evidence"],
    "paths", "path_id"⟩,
  ⟨"p7d", Evidence.p7d, EvidencePins.p7dAssessmentEvidenceSha256, ["exact_secret_graph_binding_verified", "blast_radius_derived_from_evidence"],
    "paths", "path_id"⟩,
  ⟨"p7e", Evidence.p7e, EvidencePins.p7eAssessmentEvidenceSha256, ["exact_dependency_graph_binding_verified", "risk_derived_from_evidence"],
    "paths", "path_id"⟩,
  ⟨"p7f", Evidence.p7f, EvidencePins.p7fAssessmentEvidenceSha256,
    ["exact_resilience_plan_binding_verified", "security_degradation_derived_from_evidence"], "scenarios", "scenario_id"⟩,
  ⟨"p7g", Evidence.p7g, EvidencePins.p7gAssessmentEvidenceSha256,
    ["exact_telemetry_plan_binding_verified", "audit_integrity_derived_from_evidence", "fallback_observability_derived_from_evidence"],
    "requirements", "requirement_id"⟩,
  ⟨"p7h", Evidence.p7h, EvidencePins.p7hAssessmentEvidenceSha256,
    ["exact_control_plane_binding_verified", "path_risk_derived_from_evidence", "separation_of_duties_enforced"], "routes", "route_id"⟩]

/-- `_verified`. -/
def isVerified (value : Json) (flags : List String) : Prop := ∀ f ∈ flags, truthy (getattr value f (.bool false)) = true

instance decidableIsVerified (value : Json) (flags : List String) : Decidable (isVerified value flags) :=
  inferInstanceAs (Decidable (∀ f ∈ flags, _))

/-- `str(getattr(item, attr, ""))`. -/
def textAttr (item : Json) (attr : String) : String := text rt (getattr item attr (.str ""))

/-- `_collect_unique`: nothing at all when an id is empty or comes twice. -/
def collectUnique (items : List Json) (attr : String) : List (String × Json) :=
  let ids := items.map fun item => textAttr rt item attr
  if "" ∈ ids ∨ ¬ ids.Nodup then [] else ids.zip items

/-- `"P7A"` for `"p7a"`. -/
def upper (source : String) : String := source.map Char.toUpper

/-- The loop body of `_validate_upstreams`. -/
def validateUpstream (p : InvariantBlastRadiusPolicy) (e : Evidence) (s : Spec) : Gate (String × List (String × Json)) := do
  rejectIf (¬ isVerified (s.evidence e) s.flags)
    ⟨.upstreamUnverified, upper s.source ++ " evidence is not fully verified", none, none⟩
  rejectIf (digest rt (s.evidence e) ≠ rt.casefold (s.pin p.expected))
    ⟨.upstreamDigestMismatch, upper s.source ++ " evidence digest does not match invariant policy", none, none⟩
  let catalog := collectUnique rt (elements (getattr (s.evidence e) s.collection .nil)) s.idAttr
  rejectIf (catalog = []) ⟨.upstreamUnverified, upper s.source ++ " object inventory is empty or malformed", none, none⟩
  return (s.source, catalog)

/-- `_status_value(getattr(assessment, "status", ""))`. -/
def statusOf (assessment : Json) : String := rt.casefold (text rt (enumValue (getattr assessment "status" (.str ""))))

/-- `set(getattr(posture, name, ())) == {key for key, value in statuses.items() if value == status}`. -/
def summaryMatches (posture : Json) (name status : String) (statuses : List (String × String)) : Prop :=
  let declared := elements (getattr posture name .nil)
  let derived := (statuses.filter fun s => s.2 = status).map fun s => Json.str s.1
  (∀ x ∈ declared, x ∈ derived) ∧ ∀ x ∈ derived, x ∈ declared

instance decidableSummaryMatches (posture : Json) (name status : String) (statuses : List (String × String)) :
    Decidable (summaryMatches posture name status statuses) := inferInstanceAs (Decidable (_ ∧ _))

/-- `statuses[control_id] = status` for the assessments of the posture. -/
def controlStatuses (posture : Json) : List (String × String) :=
  (elements (getattr posture "assessments" .nil)).map fun a => (textAttr rt a "control_id", statusOf rt a)

/-- The rest of `_validate_upstreams`: the posture. -/
def validatePosture (p : InvariantBlastRadiusPolicy) (posture : Json) : Gate (List (String × String)) := do
  rejectIf (¬ isVerified posture ["exact_release_identity_verified", "exact_upstream_evidence_binding_verified", "control_catalog_verified",
    "status_derived_from_evidence"]) ⟨.postureUnverified, "P6-D posture evidence is not fully verified", none, none⟩
  rejectIf (rt.casefold (textAttr rt posture "posture_evidence_sha256") ≠ rt.casefold p.expected.postureEvidenceSha256)
    ⟨.postureDigestMismatch, "P6-D posture digest does not match invariant policy", none, none⟩
  rejectIf (rt.casefold (textAttr rt posture "control_catalog_sha256") ≠ rt.casefold p.expectedControlCatalogSha256)
    ⟨.controlCatalogMismatch, "P6-D control catalog digest does not match invariant policy", none, none⟩
  let statuses := controlStatuses rt posture
  scan (fun seen s => rejectIf (s.1 = "" ∨ s.1 ∈ seen.map Prod.fst ∨ s.2 ∉ ["satisfied", "exceptioned", "not_evaluated"])
    ⟨.controlEvidenceInvalid, "P6-D control evidence is duplicate or malformed", none, none⟩) [] statuses
  rejectIf (¬ summaryMatches posture "satisfied_control_ids" "satisfied" statuses)
    ⟨.controlEvidenceInvalid, "P6-D satisfied-control summary is inconsistent", none, none⟩
  rejectIf (¬ summaryMatches posture "exceptioned_control_ids" "exceptioned" statuses)
    ⟨.controlEvidenceInvalid, "P6-D exception summary is inconsistent", none, none⟩
  rejectIf (¬ summaryMatches posture "not_evaluated_control_ids" "not_evaluated" statuses)
    ⟨.controlEvidenceInvalid, "P6-D not-evaluated summary is inconsistent", none, none⟩
  return statuses

/-- The objects of every source, by source and id. -/
abbrev Catalogs := Dict (Dict Json)

/-- `catalogs` of the inventories, with a bare object for every control. -/
def catalogsOf (inventories : List (String × List (String × Json))) (statuses : List (String × String)) : Catalogs :=
  Dict.mapping ((inventories.map fun c => (c.1, Dict.mapping c.2)) ++ [("p6d", Dict.mapping (statuses.map fun s => (s.1, Json.null)))])

/-- `_validate_upstreams`. -/
def validateUpstreams (p : InvariantBlastRadiusPolicy) (e : Evidence) : Gate (Catalogs × Dict String) := do
  let inventories ← gather (validateUpstream rt p e) specs
  let statuses ← validatePosture rt p e.posture
  return (catalogsOf inventories statuses, Dict.mapping statuses)

/-- `_binding_exists`. -/
def bindingExists (bindingId : String) (catalogs : Catalogs) : Prop :=
  ':' ∈ bindingId.toList ∧ ∃ objects ∈ catalogs (sourceOf bindingId), objects (objectIdOf bindingId) ≠ none

instance decidableBindingExists (bindingId : String) (catalogs : Catalogs) : Decidable (bindingExists bindingId catalogs) :=
  inferInstanceAs (Decidable (_ ∧ ∃ objects ∈ catalogs (sourceOf bindingId), _))

/-- `_unsafe`. -/
def isUnsafe (source : String) (item : Json) (statuses : Dict String) (objectId : String) : Gate Bool :=
  if source = "p6d" then do
    let status ← getItem statuses objectId
    return status ≠ "satisfied"
  else if source = "p7g" then return truthy (getattr item "blind_spot" (.bool false))
  else if source = "p7c" then return truthy (getattr item "exposed" (getattr item "exfiltration_possible" (.bool false)))
  else return truthy (getattr item "exposed" (.bool false))

/-- The checks of one invariant of the catalog. -/
def validateInvariant (p : InvariantBlastRadiusPolicy) (catalogs : Catalogs) (statuses : Dict String) (i : ArchitectureInvariant) : Gate Unit := do
  let r (reason : InvariantRejectReason) (message : String) : InvariantAssessmentRejected := ⟨reason, message, some i.invariantId, none⟩
  let drift (ids : List String) (expected : List (String × List String)) (rejected : InvariantAssessmentRejected) : Gate Unit := do
    let expected ← getItem (Dict.mapping expected) i.invariantId
    rejectIf (¬ sameSet ids expected) rejected
  rejectIf (i.ownerId ∉ p.trustedOwnerIds) (r .invariantOwnerUntrusted "invariant owner is untrusted")
  let floor ← getItem (Dict.mapping p.minimumSeverityByInvariant) i.invariantId
  rejectIf (rank i.severity < rank floor) (r .invariantSeverityDowngrade "invariant severity is below policy floor")
  rejectIf (i.title = "" ∨ i.description = "") (r .invariantDescriptionEmpty "invariant title/description cannot be empty")
  rejectIf (¬ i.requiredBindingIds.Nodup) (r .invariantBindingDuplicate "invariant contains duplicate evidence binding")
  drift i.requiredBindingIds p.expectedBindingIdsByInvariant (r .invariantBindingDrift "invariant evidence bindings differ from policy")
  forEach (fun b => rejectIf (¬ bindingExists b catalogs)
    ⟨.invariantBindingUnknown, "invariant references unknown evidence object", some i.invariantId, some b⟩) i.requiredBindingIds
  let layers ← getItem (Dict.mapping p.minDistinctLayersByInvariant) i.invariantId
  rejectIf (((i.requiredBindingIds.map sourceOf).dedup.length : Int) < layers)
    (r .invariantLayerCoverageWeak "invariant does not meet cross-layer coverage floor")
  drift i.protectedAssetIds p.expectedAssetIdsByInvariant (r .invariantAssetDrift "invariant protected assets differ from policy")
  drift i.affectedIdentityIds p.expectedIdentityIdsByInvariant (r .invariantIdentityDrift "invariant identity blast-radius set differs from policy")
  drift i.dependencyIds p.expectedDependencyIdsByInvariant (r .invariantDependencyDrift "invariant dependency blast-radius set differs from policy")
  drift i.controlPlaneRouteIds p.expectedRouteIdsByInvariant (r .invariantRouteDrift "invariant control-plane route set differs from policy")
  drift i.requiredControlIds p.expectedControlIdsByInvariant (r .invariantControlDrift "invariant required controls differ from policy")
  rejectIf (∃ c ∈ i.requiredControlIds, statuses c = none) (r .invariantControlUnknown "invariant references unknown P6-D control")

/-- `_validate_catalog`, which returns the digest; the invariants are those of the catalog. -/
def validateCatalog (p : InvariantBlastRadiusPolicy) (r : InvariantAssessmentRequest) (c : InvariantCatalog) (catalogs : Catalogs)
    (statuses : Dict String) : Gate String := do
  rejectIf (c.schemaVersion ≠ P7I_INVARIANT_CATALOG_SCHEMA_VERSION ∨ c.catalogId ≠ p.expectedCatalogId ∨ c.version ≠ p.expectedCatalogVersion ∨
    c.invariants = []) ⟨.catalogInvalid, "invariant catalog metadata is invalid", none, none⟩
  rejectIf (¬ samePins rt c.toEvidencePins p.expected) ⟨.catalogInvalid, "invariant catalog upstream evidence binding is invalid", none, none⟩
  rejectIf (c.createdAtEpoch > r.evaluatedAtEpoch + p.maxFutureSkewSeconds) ⟨.catalogFuture, "invariant catalog is future-dated", none, none⟩
  rejectIf (r.evaluatedAtEpoch - c.createdAtEpoch > p.maxCatalogAgeSeconds) ⟨.catalogStale, "invariant catalog is stale", none, none⟩
  let actual := invariantCatalogDigest rt c
  rejectUnequal actual (rt.casefold p.expectedCatalogSha256) ⟨.catalogDigestMismatch, "invariant catalog digest does not match request/policy", none, none⟩
  rejectUnequal actual (rt.casefold r.catalogSha256) ⟨.catalogDigestMismatch, "invariant catalog digest does not match request/policy", none, none⟩
  scan (fun seen i => rejectIf (i.invariantId = "" ∨ i.invariantId ∈ seen.map ArchitectureInvariant.invariantId)
    ⟨.invariantDuplicate, "invariant ID is empty or duplicate", orNone i.invariantId, none⟩) [] c.invariants
  rejectIf (¬ sameSet (c.invariants.map ArchitectureInvariant.invariantId) p.requiredInvariantIds)
    ⟨.invariantCoverageMismatch, "invariant coverage differs from policy", none, none⟩
  forEach (validateInvariant p catalogs statuses) c.invariants
  return actual

/-! ## Facts -/

def severityBase : InvariantSeverity → Int
  | .low => 20
  | .medium => 40
  | .high => 65
  | .critical => 85

/-- `_blast_score`. -/
def blastScore (severity : InvariantSeverity) (state : InvariantState) (layerCount blastUnits violatingCount : Int) : Int :=
  if state = .holds then 0
  else severityBase severity + (if state = .degraded then 10 else 25) + max 0 (layerCount - 1) * 8 + max 0 (blastUnits - 1) * 3 +
    max 0 (violatingCount - 1) * 4

/-- `blast_entities`, a set. -/
def blastEntities (i : ArchitectureInvariant) : List String :=
  (i.protectedAssetIds.map ("asset:" ++ ·) ++ i.affectedIdentityIds.map ("identity:" ++ ·) ++ i.dependencyIds.map ("dependency:" ++ ·) ++
    i.controlPlaneRouteIds.map ("route:" ++ ·)).dedup

/-- The state of an invariant with these violating bindings and degraded controls. -/
def stateOf (violating degraded : List String) : InvariantState :=
  if violating.filter (fun b => ! ofControl b) ≠ [] then .violated else if degraded ≠ [] then .degraded else .holds

/-- `_unsafe(source, catalogs[source][object_id], statuses, object_id)`. -/
def judge (catalogs : Catalogs) (statuses : Dict String) (bindingId : String) : Gate Bool := do
  let objects ← getItem catalogs (sourceOf bindingId)
  let item ← getItem objects (objectIdOf bindingId)
  isUnsafe (sourceOf bindingId) item statuses (objectIdOf bindingId)

/-- The loop body of `evaluate`. -/
def invariantFact (catalogs : Catalogs) (statuses : Dict String) (i : ArchitectureInvariant) : Gate InvariantBlastRadiusFact := do
  let controls ← gather (fun c => do
    let status ← getItem statuses c
    return (c, status)) i.requiredControlIds
  let degradedControls := sortOn id ((controls.filter fun c => c.2 ≠ "satisfied").map Prod.fst)
  let judged ← gather (fun b => do
    let isBad ← judge catalogs statuses b
    return (b, isBad)) (sortOn id i.requiredBindingIds)
  let violating := (judged.filter fun b => b.2).map Prod.fst
  let mitigating := (judged.filter fun b => ! b.2).map Prod.fst
  let state := stateOf violating degradedControls
  let exposedLayers := distinct (violating.map sourceOf)
  let blastUnits : Int := if state ≠ .holds then (blastEntities i).length else 0
  return {
    invariantId := i.invariantId
    title := i.title
    severity := i.severity
    state := state
    violatingBindingIds := violating
    degradedControlIds := degradedControls
    exposedLayerIds := exposedLayers
    protectedAssetIds := sortOn id i.protectedAssetIds
    affectedIdentityIds := sortOn id i.affectedIdentityIds
    affectedDependencyIds := sortOn id i.dependencyIds
    affectedControlPlaneRouteIds := sortOn id i.controlPlaneRouteIds
    blastRadiusUnits := blastUnits
    blastRadiusScore := blastScore i.severity state exposedLayers.length blastUnits violating.length
    mitigatingBindingIds := mitigating }

/-- `all_blast_entities`: the entities of the invariants that do not hold. -/
def allBlastEntities (judged : List (ArchitectureInvariant × InvariantBlastRadiusFact)) : List String :=
  ((judged.filter fun x => x.2.state ≠ .holds).flatMap fun x => blastEntities x.1).dedup

/-! ## The assessment -/

/-- `asdict(item)`. -/
def factDocument (f : InvariantBlastRadiusFact) : Json := .obj [
  ("affected_control_plane_route_ids", texts f.affectedControlPlaneRouteIds),
  ("affected_dependency_ids", texts f.affectedDependencyIds), ("affected_identity_ids", texts f.affectedIdentityIds),
  ("blast_radius_score", .int f.blastRadiusScore), ("blast_radius_units", .int f.blastRadiusUnits),
  ("degraded_control_ids", texts f.degradedControlIds), ("exposed_layer_ids", texts f.exposedLayerIds),
  ("invariant_id", .str f.invariantId), ("mitigating_binding_ids", texts f.mitigatingBindingIds),
  ("protected_asset_ids", texts f.protectedAssetIds), ("severity", .str f.severity.value),
  ("state", .str f.state.value), ("title", .str f.title), ("violating_binding_ids", texts f.violatingBindingIds)]

/-- The ids of the facts in a state. -/
def idsIn (state : InvariantState) (facts : List InvariantBlastRadiusFact) : List String :=
  (facts.filter fun f => f.state = state).map InvariantBlastRadiusFact.invariantId

/-- `sorted(…, key=lambda value: (-value.blast_radius_score, value.invariant_id))`. -/
def prioritized (facts : List InvariantBlastRadiusFact) : List String :=
  (sortOn InvariantBlastRadiusFact.invariantId (facts.filter fun f => f.state ≠ .holds) |> sortOn fun f => -f.blastRadiusScore).map
    InvariantBlastRadiusFact.invariantId

/-- `max(…, default=0)`; no score is negative. -/
def maxScore (facts : List InvariantBlastRadiusFact) : Int := (facts.map InvariantBlastRadiusFact.blastRadiusScore).foldl max 0

/-- The check of the request at the head of `evaluate`. -/
def validateRequest (p : InvariantBlastRadiusPolicy) (r : InvariantAssessmentRequest) : Gate Unit :=
  rejectIf (r.catalogId ≠ p.expectedCatalogId ∨ r.catalogVersion ≠ p.expectedCatalogVersion ∨
    ¬ (∀ v ∈ r.catalogSha256 :: r.toEvidencePins.toList, isSha256 rt v) ∨ rt.casefold r.catalogSha256 ≠ rt.casefold p.expectedCatalogSha256 ∨
    ¬ samePins rt r.toEvidencePins p.expected ∨ ¬ sameSet r.invariantIds p.requiredInvariantIds ∨ ¬ r.invariantIds.Nodup)
    ⟨.requestInvalid, "invariant assessment request identity/evidence/scope is invalid", none, none⟩

/-- The digests of the evidence, as the assessment has them. -/
def evidencePins (e : Evidence) : EvidencePins :=
  ⟨digest rt e.p7a, digest rt e.p7b, digest rt e.p7c, digest rt e.p7d, digest rt e.p7e, digest rt e.p7f, digest rt e.p7g, digest rt e.p7h,
    rt.casefold (textAttr rt e.posture "posture_evidence_sha256")⟩

/-- `evidence_document`. -/
def evidenceDocument (e : Evidence) (sha : String) (facts : List InvariantBlastRadiusFact) (blastRadius : Int) : Json := .obj [
  ("catalog_sha256", .str sha),
  ("control_catalog_sha256", .str (rt.casefold (textAttr rt e.posture "control_catalog_sha256"))),
  ("cross_layer_blast_radius", .int blastRadius), ("invariants", .arr (facts.map factDocument)),
  ("p7a_assessment_evidence_sha256", .str (digest rt e.p7a)),
  ("p7b_assessment_evidence_sha256", .str (digest rt e.p7b)),
  ("p7c_assessment_evidence_sha256", .str (digest rt e.p7c)),
  ("p7d_assessment_evidence_sha256", .str (digest rt e.p7d)),
  ("p7e_assessment_evidence_sha256", .str (digest rt e.p7e)),
  ("p7f_assessment_evidence_sha256", .str (digest rt e.p7f)),
  ("p7g_assessment_evidence_sha256", .str (digest rt e.p7g)),
  ("p7h_assessment_evidence_sha256", .str (digest rt e.p7h)),
  ("posture_evidence_sha256", .str (rt.casefold (textAttr rt e.posture "posture_evidence_sha256"))),
  ("prioritized_invariant_ids", texts (prioritized facts))]

/-- `SecurityArchitectureInvariantAnalyzer(policy).evaluate`. -/
def evaluate (p : InvariantBlastRadiusPolicy) (r : InvariantAssessmentRequest) (c : InvariantCatalog) (e : Evidence) :
    Gate VerifiedInvariantBlastRadiusAssessment := do
  validatePolicy rt p
  validateRequest rt p r
  let (catalogs, statuses) ← validateUpstreams rt p e
  let sha ← validateCatalog rt p r c catalogs statuses
  let sorted := sortOn ArchitectureInvariant.invariantId c.invariants
  let facts ← gather (invariantFact catalogs statuses) sorted
  let violated := idsIn .violated facts
  let degraded := idsIn .degraded facts
  let blastRadius : Int := (allBlastEntities (sorted.zip facts)).length
  rejectIf (¬ sameSet r.declaredViolatedInvariantIds violated ∨ ¬ sameSet r.declaredDegradedInvariantIds degraded)
    ⟨.declaredStateMismatch, "caller-declared invariant states differ from derived evidence", none, none⟩
  rejectIf (r.declaredCrossLayerBlastRadius ≠ blastRadius)
    ⟨.declaredBlastRadiusMismatch, "caller-declared cross-layer blast radius differs from derived evidence", none, none⟩
  rejectIf (r.declaredMaxBlastRadiusScore ≠ maxScore facts)
    ⟨.declaredMaxRiskMismatch, "caller-declared maximum blast-radius score differs from derived evidence", none, none⟩
  return {
    toEvidencePins := evidencePins rt e
    catalogId := c.catalogId
    catalogVersion := c.version
    catalogSha256 := sha
    controlCatalogSha256 := rt.casefold (textAttr rt e.posture "control_catalog_sha256")
    invariantCount := facts.length
    holdingInvariantCount := (idsIn .holds facts).length
    degradedInvariantCount := degraded.length
    violatedInvariantCount := violated.length
    criticalViolatedInvariantCount := (facts.filter fun f => f.state = .violated ∧ f.severity = .critical).length
    crossLayerBlastRadius := blastRadius
    maxBlastRadiusScore := maxScore facts
    prioritizedInvariantIds := prioritized facts
    invariants := facts
    assessmentEvidenceSha256 := rt.sha256 (evidenceDocument rt e sha facts blastRadius) }

end

end Aegis.Architecture.InvariantBlastRadius
