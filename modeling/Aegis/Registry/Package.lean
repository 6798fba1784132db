/-
  Aegis.Registry.Package — the P5-B loader, which hands over a signed package and every artifact it
  declares (package_provenance.py).

  The manifest is signed in a canonical form: components by id, and the dependencies of each sorted.
  - A manifest is valid (`validateManifest_ok`) on conditions that do not depend on those two orders;
    the dependency graph is searched in the order of the manifest, and `Acyclic` is what the search decides.
  - So two manifests of one canonical form, with the same artifacts, are loaded alike (`load_same`).
  - The loader raises nothing but its own rejections (`load_rejects`): every artifact it looks up is there.
-/

import Aegis.Data.DepthFirst
import Aegis.Registry.Artifact

namespace Aegis.Registry

open Data Data.Checks Data.DepthFirst
open Assurance (isSha256)
open Agentic (Dict sameSet)

def P5B_PACKAGE_POLICY_VERSION : String := "transitive-model-package-provenance-v1"
def P5B_PACKAGE_MANIFEST_SCHEMA_VERSION : String := "aegis-model-package-manifest-v1"
def P5B_PACKAGE_LOADER_MODE : String := "verified-transitive-opaque-handoff-v1"

inductive ModelPackageComponentRole where
  | primaryModel
  | config
  | tokenizer
  | adapter
  | quantizationMetadata
  | externalData
  deriving DecidableEq, Repr

namespace ModelPackageComponentRole

def value : ModelPackageComponentRole → String
  | primaryModel => "primary_model"
  | config => "config"
  | tokenizer => "tokenizer"
  | adapter => "adapter"
  | quantizationMetadata => "quantization_metadata"
  | externalData => "external_data"

/-- `for role in ModelPackageComponentRole`. -/
def all : List ModelPackageComponentRole := [primaryModel, config, tokenizer, adapter, quantizationMetadata, externalData]

theorem value_injective : Function.Injective value := by
  intro a b h
  cases a <;> cases b <;> simp [value] at h <;> rfl

end ModelPackageComponentRole

inductive ModelPackageRejectReason where
  | manifestInvalid
  | identityMismatch
  | packagePublisherUntrusted
  | packageSignatureInvalid
  | componentSetMismatch
  | componentRoleMismatch
  | componentPublisherDisallowed
  | remoteCodeRequired
  | dependencyInvalid
  | componentInvalid
  deriving DecidableEq, Repr

def ModelPackageRejectReason.value : ModelPackageRejectReason → String
  | manifestInvalid => "manifest_invalid"
  | identityMismatch => "identity_mismatch"
  | packagePublisherUntrusted => "package_publisher_untrusted"
  | packageSignatureInvalid => "package_signature_invalid"
  | componentSetMismatch => "component_set_mismatch"
  | componentRoleMismatch => "component_role_mismatch"
  | componentPublisherDisallowed => "component_publisher_disallowed"
  | remoteCodeRequired => "remote_code_required"
  | dependencyInvalid => "dependency_invalid"
  | componentInvalid => "component_invalid"

/-- What `load` raises: `ModelPackageRejected`, or the KeyError of `artifacts[…]`. -/
inductive LoadError where
  | rejected (reason : ModelPackageRejectReason) (message : String) (componentId nestedReason : Option String)
  | key
  deriving DecidableEq, Repr

structure ModelPackageRequest where
  packageId : String
  modelId : String
  revision : String

structure ModelPackageComponent where
  artifactId : String
  role : ModelPackageComponentRole
  artifactFormat : String
  publisherId : String
  sha256 : String
  sizeBytes : Int
  dependsOn : List String := []
  requiresRemoteCode : Bool := false
  deriving DecidableEq

structure ModelPackageManifest where
  packageId : String
  modelId : String
  revision : String
  publisherId : String
  components : List ModelPackageComponent
  requiresRemoteCode : Bool := false
  schemaVersion : String := P5B_PACKAGE_MANIFEST_SCHEMA_VERSION

def ModelPackageManifest.ids (m : ModelPackageManifest) : List String := m.components.map (·.artifactId)

structure SignedModelArtifact where
  manifest : ModelArtifactManifest
  signature : Bytes
  payload : Bytes

/-- The `Mapping` of artifacts, by id. -/
structure Artifacts where
  items : List (String × SignedModelArtifact)
  nodup : (items.map Prod.fst).Nodup

def Artifacts.ids (artifacts : Artifacts) : List String := artifacts.items.map Prod.fst

def Artifacts.get (artifacts : Artifacts) (id : String) : Option SignedModelArtifact :=
  (artifacts.items.find? fun p => p.1 = id).map Prod.snd

structure ModelPackageTrustPolicy where
  packagePublishers : Dict Bytes
  artifactPolicy : ModelArtifactTrustPolicy
  rolePublishers : ModelPackageComponentRole → Option (List String)
  allowedRoles : List ModelPackageComponentRole := ModelPackageComponentRole.all
  allowRemoteCode : Bool := false

structure VerifiedModelPackage where
  packageId : String
  modelId : String
  revision : String
  packagePublisherId : String
  componentArtifactIds : List String
  componentRoles : List String
  componentPublishers : List String
  packageSignatureVerified : Bool := true
  transitiveComponentsVerified : Bool := true
  dependencyGraphVerified : Bool := true
  remoteCodeRequired : Bool := false
  policyVersion : String := P5B_PACKAGE_POLICY_VERSION
  loaderMode : String := P5B_PACKAGE_LOADER_MODE
  deserialized : Bool := false
  codeExecutionCapable : Bool := false
  networkOperations : Int := 0
  deriving DecidableEq

/-! ## The canonical form -/

def canonicalComponent (c : ModelPackageComponent) : Json := .obj [
  ("artifact_format", .str c.artifactFormat), ("artifact_id", .str c.artifactId),
  ("depends_on", .arr ((sortOn id c.dependsOn).map .str)), ("publisher_id", .str c.publisherId),
  ("requires_remote_code", .bool c.requiresRemoteCode), ("role", .str c.role.value), ("sha256", .str c.sha256),
  ("size_bytes", .int c.sizeBytes)]

/-- `canonical_package_manifest_bytes`. -/
def canonicalPackageManifest (m : ModelPackageManifest) : Json := .obj [
  ("components", .arr ((sortOn ModelPackageComponent.artifactId m.components).map canonicalComponent)),
  ("model_id", .str m.modelId), ("package_id", .str m.packageId), ("publisher_id", .str m.publisherId),
  ("requires_remote_code", .bool m.requiresRemoteCode), ("revision", .str m.revision),
  ("schema_version", .str m.schemaVersion)]

/-! ## Validation -/

section
variable (rt : Runtime) (policy : ModelPackageTrustPolicy)

/-- The checks of one component, in `_validate_manifest`; `known` are the ids of the manifest. -/
def validateComponent (known : List String) (c : ModelPackageComponent) : Except LoadError Unit := do
  raiseIf (c.role ∉ policy.allowedRoles)
    (.rejected .componentRoleMismatch "component role is not allowed by package policy" (some c.artifactId) none)
  raiseIf (c.artifactFormat = "" ∨ c.publisherId = "")
    (.rejected .manifestInvalid "component format and publisher must be non-empty" (some c.artifactId) none)
  raiseIf (¬ isSha256 rt.toRuntime c.sha256)
    (.rejected .manifestInvalid "component digest must be SHA-256 hex" (some c.artifactId) none)
  raiseIf (c.sizeBytes < 0) (.rejected .manifestInvalid "component size must be non-negative" (some c.artifactId) none)
  raiseIf (c.artifactId ∈ c.dependsOn)
    (.rejected .dependencyInvalid "component may not depend on itself" (some c.artifactId) none)
  raiseIf (¬ c.dependsOn.Nodup)
    (.rejected .dependencyInvalid "component dependency list contains duplicates" (some c.artifactId) none)
  raiseIf (∃ d ∈ c.dependsOn, d ∉ known)
    (.rejected .dependencyInvalid "component dependency references an undeclared artifact" (some c.artifactId) none)

/-- `dependency_graph[artifact_id]`; every id that is visited is declared. -/
def dependencies (m : ModelPackageManifest) (id : String) : List String :=
  ((Dict.ofItems ModelPackageComponent.artifactId m.components id).map (·.dependsOn)).getD []

/-- `for artifact_id in sorted(dependency_graph): visit(artifact_id)`. -/
def visitAll (m : ModelPackageManifest) : Except LoadError Unit :=
  match search (dependencies m) (sortOn id m.ids) with
  | .error id => .error (.rejected .dependencyInvalid "component dependency graph contains a cycle" (some id) none)
  | .ok _ => .ok ()

/-- `_validate_manifest`. -/
def validateManifest (m : ModelPackageManifest) : Except LoadError Unit := do
  raiseIf (m.schemaVersion ≠ P5B_PACKAGE_MANIFEST_SCHEMA_VERSION)
    (.rejected .manifestInvalid "unsupported model package manifest schema" none none)
  raiseIf (m.packageId = "" ∨ m.modelId = "" ∨ m.revision = "" ∨ m.publisherId = "")
    (.rejected .manifestInvalid "package identity fields must be non-empty" none none)
  raiseIf (m.components = []) (.rejected .manifestInvalid "model package must declare at least one component" none none)
  raiseIf ("" ∈ m.ids ∨ ¬ m.ids.Nodup)
    (.rejected .manifestInvalid "component artifact IDs must be unique and non-empty" none none)
  forEach (validateComponent rt policy m.ids) m.components
  raiseIf (m.components.countP (·.role = .primaryModel) ≠ 1)
    (.rejected .manifestInvalid "model package must declare exactly one primary model" none none)
  visitAll m

/-! ## Loading -/

/-- One turn of the loop over the sorted components in `load`. -/
def loadComponent (m : ModelPackageManifest) (artifacts : Artifacts) (c : ModelPackageComponent) :
    Except LoadError (ModelPackageComponent × VerifiedModelArtifact) := do
  let bundle ← orRaise .key (artifacts.get c.artifactId)
  raiseIf (bundle.manifest.publisherId ≠ c.publisherId ∨ rt.casefold bundle.manifest.sha256 ≠ rt.casefold c.sha256 ∨
    bundle.manifest.sizeBytes ≠ c.sizeBytes)
    (.rejected .componentRoleMismatch "artifact provenance metadata does not match the exact signed package pin"
      (some c.artifactId) none)
  raiseIf (bundle.manifest.publisherId ∉ (policy.rolePublishers c.role).getD [])
    (.rejected .componentPublisherDisallowed "artifact publisher is not allowed for the signed component role"
      (some c.artifactId) none)
  raiseIf (rt.casefold bundle.manifest.artifactFormat ≠ rt.casefold c.artifactFormat)
    (.rejected .componentRoleMismatch "artifact format does not match signed package component declaration"
      (some c.artifactId) none)
  match loadArtifact rt policy.artifactPolicy ⟨c.artifactId, m.modelId, m.revision⟩ bundle.manifest bundle.signature
    bundle.payload with
  | .error e =>
    .error (.rejected .componentInvalid "transitive artifact failed provenance validation" (some c.artifactId) (some e.reason.value))
  | .ok handle => .ok (c, handle)

/-- `RestrictedModelPackageLoader.load`. -/
def load (request : ModelPackageRequest) (m : ModelPackageManifest) (packageSignature : Bytes) (artifacts : Artifacts) :
    Except LoadError VerifiedModelPackage := do
  validateManifest rt policy m
  raiseIf (request.packageId ≠ m.packageId ∨ request.modelId ≠ m.modelId ∨ request.revision ≠ m.revision)
    (.rejected .identityMismatch "signed package identity does not match caller request" none none)
  let packageKey ← orRaise (.rejected .packagePublisherUntrusted "package publisher is not trusted by policy" none none)
    (policy.packagePublishers m.publisherId)
  raiseIf (rt.verifies packageKey packageSignature (canonicalPackageManifest m) = false)
    (.rejected .packageSignatureInvalid "model package manifest signature verification failed" none none)
  raiseIf (m.requiresRemoteCode = true ∧ policy.allowRemoteCode = false)
    (.rejected .remoteCodeRequired "package requires remote code but policy forbids it" none none)
  forEach (fun c => raiseIf (c.requiresRemoteCode = true ∧ policy.allowRemoteCode = false)
    (.rejected .remoteCodeRequired "package component requires remote code but policy forbids it" (some c.artifactId) none))
    m.components
  raiseIf (¬ sameSet artifacts.ids m.ids)
    (.rejected .componentSetMismatch "supplied artifact set does not exactly match signed package closure" none none)
  let verified ← gather (loadComponent rt policy m artifacts) (sortOn ModelPackageComponent.artifactId m.components)
  return {
    packageId := m.packageId
    modelId := m.modelId
    revision := m.revision
    packagePublisherId := m.publisherId
    componentArtifactIds := verified.map fun v => v.1.artifactId
    componentRoles := verified.map fun v => v.1.role.value
    componentPublishers := verified.map fun v => v.2.publisherId }

/-! ## What a valid manifest is -/

/-- `y` is a dependency of the component `x`. -/
def Depends (m : ModelPackageManifest) (x y : String) : Prop := ∃ c ∈ m.components, c.artifactId = x ∧ y ∈ c.dependsOn

structure ModelPackageComponent.Valid (known : List String) (c : ModelPackageComponent) : Prop where
  role : c.role ∈ policy.allowedRoles
  format : c.artifactFormat ≠ ""
  publisher : c.publisherId ≠ ""
  digest : isSha256 rt.toRuntime c.sha256
  size : 0 ≤ c.sizeBytes
  other : c.artifactId ∉ c.dependsOn
  distinct : c.dependsOn.Nodup
  declared : ∀ d ∈ c.dependsOn, d ∈ known

structure ModelPackageManifest.Valid (m : ModelPackageManifest) : Prop where
  schema : m.schemaVersion = P5B_PACKAGE_MANIFEST_SCHEMA_VERSION
  package : m.packageId ≠ ""
  model : m.modelId ≠ ""
  revision : m.revision ≠ ""
  publisher : m.publisherId ≠ ""
  some : m.components ≠ []
  named : "" ∉ m.ids
  distinct : m.ids.Nodup
  components : ∀ c ∈ m.components, c.Valid rt policy m.ids
  primary : m.components.countP (·.role = .primaryModel) = 1
  acyclic : ∀ x ∈ m.ids, ¬ Relation.TransGen (Depends m) x x

variable {rt} {policy} {m m' : ModelPackageManifest} {c c' : ModelPackageComponent} {u : Unit}

theorem validateComponent_ok {known : List String} :
    validateComponent rt policy known c = .ok u ↔ c.Valid rt policy known := by
  simp only [validateComponent, ok_seq, raiseIf_ok, not_not, not_or, not_lt, not_exists, not_and]
  constructor
  · rintro ⟨hrole, ⟨hformat, hpublisher⟩, hdigest, hsize, hother, hdistinct, hdeclared⟩
    exact ⟨hrole, hformat, hpublisher, hdigest, hsize, hother, hdistinct, hdeclared⟩
  · intro h
    exact ⟨h.role, ⟨h.format, h.publisher⟩, h.digest, h.size, h.other, h.distinct, h.declared⟩

theorem edge_dependencies (hn : m.ids.Nodup) : Edge (dependencies m) = Depends m := by
  funext x y
  apply propext
  constructor
  · intro h
    change y ∈ dependencies m x at h
    rw [dependencies] at h
    cases hx : Dict.ofItems ModelPackageComponent.artifactId m.components x with
    | none => simp [hx] at h
    | some c =>
      obtain ⟨hc, hid⟩ := Dict.ofItems_mem hx
      rw [hx] at h
      exact ⟨c, hc, hid, h⟩
  · rintro ⟨c, hc, rfl, hy⟩
    show y ∈ dependencies m c.artifactId
    rw [dependencies, Dict.ofItems_self hn hc]
    exact hy

theorem visitAll_ok (hn : m.ids.Nodup) (hdeclared : ∀ c ∈ m.components, ∀ d ∈ c.dependsOn, d ∈ m.ids) :
    visitAll m = .ok u ↔ ∀ x ∈ m.ids, ¬ Relation.TransGen (Depends m) x x := by
  have hclosed : ∀ x ∈ sortOn id m.ids, ∀ y ∈ dependencies m x, y ∈ sortOn id m.ids := by
    intro x _ y hy
    obtain ⟨c, hc, -, hy⟩ : Depends m x y := edge_dependencies hn ▸ (hy : Edge (dependencies m) x y)
    exact mem_sortOn.mpr (hdeclared c hc y hy)
  have hsearch := search_ok hclosed
  simp only [Acyclic, mem_sortOn, edge_dependencies hn] at hsearch
  rw [← hsearch, visitAll]
  cases search (dependencies m) (sortOn id m.ids) with
  | error x => simp
  | ok visited => simp

theorem validateManifest_ok : validateManifest rt policy m = .ok u ↔ m.Valid rt policy := by
  simp only [validateManifest, ok_seq, raiseIf_ok, forEach_ok, validateComponent_ok, not_not, not_or]
  constructor
  · rintro ⟨hschema, ⟨hpackage, hmodel, hrevision, hpublisher⟩, hsome, ⟨hnamed, hdistinct⟩, hcomponents, hprimary, hvisit⟩
    exact ⟨hschema, hpackage, hmodel, hrevision, hpublisher, hsome, hnamed, hdistinct, hcomponents, hprimary,
      (visitAll_ok hdistinct fun c hc => (hcomponents c hc).declared).mp hvisit⟩
  · intro h
    exact ⟨h.schema, ⟨h.package, h.model, h.revision, h.publisher⟩, h.some, ⟨h.named, h.distinct⟩, h.components, h.primary,
      (visitAll_ok h.distinct fun c hc => (h.components c hc).declared).mpr h.acyclic⟩

/-! ## One canonical form, one outcome -/

/-- Components that differ in the order of their dependencies only. -/
def SameComponent (c c' : ModelPackageComponent) : Prop := canonicalComponent c = canonicalComponent c'

theorem SameComponent.iff : SameComponent c c' ↔ c.artifactId = c'.artifactId ∧ c.role = c'.role ∧
    c.artifactFormat = c'.artifactFormat ∧ c.publisherId = c'.publisherId ∧ c.sha256 = c'.sha256 ∧
    c.sizeBytes = c'.sizeBytes ∧ c.requiresRemoteCode = c'.requiresRemoteCode ∧
    sortOn id c.dependsOn = sortOn id c'.dependsOn := by
  have hstr : Function.Injective Json.str := fun a b h => Json.str.inj h
  simp only [SameComponent, canonicalComponent, Json.obj_cons, Json.field.injEq, Json.str.injEq, Json.int.injEq,
    Json.bool.injEq, Json.arr_inj, (List.map_injective_iff.mpr hstr).eq_iff, ModelPackageComponentRole.value_injective.eq_iff,
    true_and, and_true]
  tauto

theorem SameComponent.perm (h : SameComponent c c') : c.dependsOn.Perm c'.dependsOn :=
  (perm_sortOn id _).symm.trans (((SameComponent.iff).mp h).2.2.2.2.2.2.2 ▸ perm_sortOn id _)

theorem SameComponent.valid {known known' : List String} (h : SameComponent c c') (hk : known.Perm known')
    (hv : c.Valid rt policy known) : c'.Valid rt policy known' := by
  have hp := h.perm
  obtain ⟨hid, hrole, hformat, hpublisher, hsha, hsize, -, -⟩ := (SameComponent.iff).mp h
  refine ⟨hrole ▸ hv.role, hformat ▸ hv.format, hpublisher ▸ hv.publisher, hsha ▸ hv.digest, hsize ▸ hv.size, ?_, ?_, ?_⟩
  · rw [← hid, ← hp.mem_iff]
    exact hv.other
  · exact hp.nodup_iff.mp hv.distinct
  · exact fun d hd => hk.mem_iff.mp (hv.declared d (hp.mem_iff.mpr hd))

/-- Manifests of one canonical form. -/
def SamePackage (m m' : ModelPackageManifest) : Prop := canonicalPackageManifest m = canonicalPackageManifest m'

theorem SamePackage.iff : SamePackage m m' ↔ m.packageId = m'.packageId ∧ m.modelId = m'.modelId ∧ m.revision = m'.revision ∧
    m.publisherId = m'.publisherId ∧ m.requiresRemoteCode = m'.requiresRemoteCode ∧ m.schemaVersion = m'.schemaVersion ∧
    List.Forall₂ SameComponent (sortOn (·.artifactId) m.components) (sortOn (·.artifactId) m'.components) := by
  have hcomponents : List.Forall₂ SameComponent (sortOn (·.artifactId) m.components) (sortOn (·.artifactId) m'.components) ↔
      (sortOn ModelPackageComponent.artifactId m.components).map canonicalComponent =
        (sortOn ModelPackageComponent.artifactId m'.components).map canonicalComponent := by
    rw [← List.forall₂_eq_eq_eq, List.forall₂_map_left_iff, List.forall₂_map_right_iff]
    rfl
  rw [hcomponents]
  simp only [SamePackage, canonicalPackageManifest, Json.obj_cons, Json.field.injEq, Json.str.injEq, Json.bool.injEq,
    Json.arr_inj, true_and, and_true]
  tauto

namespace SamePackage

variable (h : SamePackage m m')
include h

theorem symm : SamePackage m' m := Eq.symm h

theorem modelId : m.modelId = m'.modelId := ((SamePackage.iff).mp h).2.1

theorem revision : m.revision = m'.revision := ((SamePackage.iff).mp h).2.2.1

theorem components :
    List.Forall₂ SameComponent (sortOn (·.artifactId) m.components) (sortOn (·.artifactId) m'.components) :=
  ((SamePackage.iff).mp h).2.2.2.2.2.2

theorem component (hc : c' ∈ m'.components) : ∃ c ∈ m.components, SameComponent c c' := by
  obtain ⟨c, hmem, hsame⟩ := exists_of_forall₂ h.components (mem_sortOn.mpr hc)
  exact ⟨c, mem_sortOn.mp hmem, hsame⟩

/-- What does not depend on the order of the dependencies agrees up to the order of the components. -/
theorem perm_map {β : Type} {f : ModelPackageComponent → β} (hf : ∀ c c', SameComponent c c' → f c = f c') :
    (m.components.map f).Perm (m'.components.map f) := by
  have hmap : (sortOn (·.artifactId) m.components).map f = (sortOn (·.artifactId) m'.components).map f :=
    map_eq_of_forall₂ hf h.components
  have hsorted := (perm_sortOn (·.artifactId) m.components).map f
  rw [hmap] at hsorted
  exact hsorted.symm.trans ((perm_sortOn _ _).map f)

theorem ids : m.ids.Perm m'.ids := h.perm_map fun _ _ hs => ((SameComponent.iff).mp hs).1

theorem depends {x y : String} (hxy : Depends m' x y) : Depends m x y := by
  obtain ⟨c', hc', rfl, hy⟩ := hxy
  obtain ⟨c, hc, hsame⟩ := h.component hc'
  exact ⟨c, hc, ((SameComponent.iff).mp hsame).1, hsame.perm.mem_iff.mpr hy⟩

theorem valid (hv : m.Valid rt policy) : m'.Valid rt policy := by
  obtain ⟨hpackage, hmodel, hrevision, hpublisher, -, hschema, -⟩ := (SamePackage.iff).mp h
  have hcount : m'.components.countP (·.role = .primaryModel) = m.components.countP (·.role = .primaryModel) := by
    have hroles := h.perm_map (f := (·.role)) fun _ _ hs => ((SameComponent.iff).mp hs).2.1
    have := hroles.countP_eq fun role => role = .primaryModel
    simpa [List.countP_map, Function.comp_def] using this.symm
  have hsome : m'.components ≠ [] := by
    intro hnil
    have := h.ids.length_eq
    simp only [ModelPackageManifest.ids, hnil, List.map_nil, List.length_nil, List.length_map, List.length_eq_zero_iff] at this
    exact hv.some this
  refine ⟨hschema ▸ hv.schema, hpackage ▸ hv.package, hmodel ▸ hv.model, hrevision ▸ hv.revision, hpublisher ▸ hv.publisher,
    hsome, fun hn => hv.named (h.ids.mem_iff.mpr hn), h.ids.nodup_iff.mp hv.distinct, fun c' hc' => ?_, hcount.trans hv.primary,
    fun x hx hcycle => ?_⟩
  · obtain ⟨c, hc, hsame⟩ := h.component hc'
    exact hsame.valid h.ids (hv.components c hc)
  · have hle : Depends m' ≤ Depends m := fun _ _ => h.depends
    exact hv.acyclic x (h.ids.mem_iff.mpr hx) (Relation.TransGen.mono hle x x hcycle)

end SamePackage

variable {request : ModelPackageRequest} {packageSignature : Bytes} {artifacts artifacts' : Artifacts}

theorem get_perm (ha : artifacts.items.Perm artifacts'.items) (id : String) : artifacts.get id = artifacts'.get id := by
  rw [Artifacts.get, Artifacts.get, find?_perm ha artifacts.nodup]

variable {v : ModelPackageComponent × VerifiedModelArtifact}

theorem loadComponent_ok :
    loadComponent rt policy m artifacts c = .ok v ↔ ∃ bundle, artifacts.get c.artifactId = some bundle ∧
      bundle.manifest.publisherId = c.publisherId ∧ rt.casefold bundle.manifest.sha256 = rt.casefold c.sha256 ∧
      bundle.manifest.sizeBytes = c.sizeBytes ∧ bundle.manifest.publisherId ∈ (policy.rolePublishers c.role).getD [] ∧
      rt.casefold bundle.manifest.artifactFormat = rt.casefold c.artifactFormat ∧
      loadArtifact rt policy.artifactPolicy ⟨c.artifactId, m.modelId, m.revision⟩ bundle.manifest bundle.signature bundle.payload =
        .ok v.2 ∧ v.1 = c := by
  simp only [loadComponent, ok_bind, orRaise_ok, raiseIf_ok, exists_const, not_or, not_not, ne_eq, and_assoc]
  refine exists_congr fun bundle => and_congr_right fun _ => and_congr_right fun _ => and_congr_right fun _ =>
    and_congr_right fun _ => and_congr_right fun _ => and_congr_right fun _ => ?_
  obtain ⟨component, handle⟩ := v
  cases loadArtifact rt policy.artifactPolicy ⟨c.artifactId, m.modelId, m.revision⟩ bundle.manifest bundle.signature
      bundle.payload with
  | error e => simp
  | ok handle' =>
    simp only [Except.ok.injEq, Prod.mk.injEq]
    rw [and_comm, eq_comm (a := c)]

theorem loadComponent_same (h : SamePackage m m') (ha : artifacts.items.Perm artifacts'.items) (hc : SameComponent c c') (hv : loadComponent rt policy m artifacts c = .ok v) :
    loadComponent rt policy m' artifacts' c' = .ok (c', v.2) ∧ v.1 = c := by
  obtain ⟨hid, hrole, hformat, hpublisher, hsha, hsize, -, -⟩ := (SameComponent.iff).mp hc
  rw [loadComponent_ok] at hv ⊢
  obtain ⟨bundle, hbundle, hp, hs, hz, hallowed, hf, hhandle, hfirst⟩ := hv
  rw [← hid, ← hrole, ← hformat, ← hpublisher, ← hsha, ← hsize, ← h.modelId, ← h.revision, ← get_perm ha]
  exact ⟨⟨bundle, hbundle, hp, hs, hz, hallowed, hf, hhandle, rfl⟩, hfirst⟩

/-- What is loaded depends on the canonical form of the manifest and on the set of the artifacts only. -/
theorem load_same (h : SamePackage m m') (ha : artifacts.items.Perm artifacts'.items) {p : VerifiedModelPackage}
    (hp : load rt policy request m packageSignature artifacts = .ok p) :
    load rt policy request m' packageSignature artifacts' = .ok p := by
  simp only [load, ok_bind, validateManifest_ok, raiseIf_ok, orRaise_ok, forEach_ok, not_not, exists_const] at hp ⊢
  obtain ⟨hvalid, hidentity, key, hkey, hsignature, hremote, hcomponents, hset, verified, hverified, hp⟩ := hp
  obtain ⟨hpackage, hmodel, hrevision, hpublisher, hcode, -, hforall⟩ := (SamePackage.iff).mp h
  have hload : ∀ c c' v, SameComponent c c' → loadComponent rt policy m artifacts c = .ok v →
      ∃ v', loadComponent rt policy m' artifacts' c' = .ok v' ∧ SameComponent v.1 v'.1 ∧ v.2 = v'.2 := by
    intro c c' v hc hv
    obtain ⟨hv', rfl⟩ := loadComponent_same h ha hc hv
    exact ⟨(c', v.2), hv', hc, rfl⟩
  obtain ⟨verified', hverified', hsame⟩ := gather_of_forall₂ hload hforall hverified
  refine ⟨h.valid hvalid, ?_, key, ?_, ?_, ?_, fun c' hc' => ?_, ?_, verified', hverified', ?_⟩
  · rwa [← hpackage, ← hmodel, ← hrevision]
  · rwa [← hpublisher]
  · have hcanonical : canonicalPackageManifest m = canonicalPackageManifest m' := h
    rwa [← hcanonical]
  · rwa [← hcode]
  · obtain ⟨c, hc, hs⟩ := h.component hc'
    rw [← ((SameComponent.iff).mp hs).2.2.2.2.2.2.1]
    exact hcomponents c hc
  · have hids : ∀ id, id ∈ artifacts'.ids ↔ id ∈ artifacts.ids := fun id => ((ha.map Prod.fst).mem_iff).symm
    have hknown : ∀ id, id ∈ m'.ids ↔ id ∈ m.ids := fun id => h.ids.mem_iff.symm
    exact ⟨fun id hi => (hknown id).mpr (hset.1 id ((hids id).mp hi)), fun id hi => (hids id).mpr (hset.2 id ((hknown id).mp hi))⟩
  · have hids := map_eq_of_forall₂ (f := fun v => v.1.artifactId) (g := fun v => v.1.artifactId)
      (fun _ _ hs => ((SameComponent.iff).mp hs.1).1) hsame
    have hroles := map_eq_of_forall₂ (f := fun v => v.1.role.value) (g := fun v => v.1.role.value)
      (fun _ _ hs => congrArg _ ((SameComponent.iff).mp hs.1).2.1) hsame
    have hpublishers := map_eq_of_forall₂ (f := fun v => v.2.publisherId) (g := fun v => v.2.publisherId)
      (fun _ _ hs => congrArg _ hs.2) hsame
    rw [← hp, hids, hroles, hpublishers, hpackage, hmodel, hrevision, hpublisher]

/-! ## The loader raises its own rejections only -/

theorem validateManifest_rejects : Raises (· ≠ .key) (validateManifest rt policy m) := by
  have hcomponent : ∀ c ∈ m.components, Raises (· ≠ .key) (validateComponent rt policy m.ids c) := fun c _ =>
    .bind (.raiseIf nofun) fun _ _ => .bind (.raiseIf nofun) fun _ _ => .bind (.raiseIf nofun) fun _ _ =>
      .bind (.raiseIf nofun) fun _ _ => .bind (.raiseIf nofun) fun _ _ => .bind (.raiseIf nofun) fun _ _ => .raiseIf nofun
  have hvisit : Raises (· ≠ .key) (visitAll m) := by
    unfold visitAll
    split
    · exact .error nofun
    · exact .ok
  exact .bind (.raiseIf nofun) fun _ _ => .bind (.raiseIf nofun) fun _ _ => .bind (.raiseIf nofun) fun _ _ =>
    .bind (.raiseIf nofun) fun _ _ => .bind (.forEach hcomponent) fun _ _ => .bind (.raiseIf nofun) fun _ _ => hvisit

theorem get_ne_none {id : String} (h : id ∈ artifacts.ids) : artifacts.get id ≠ none := by
  obtain ⟨p, hp, hid⟩ := List.mem_map.mp h
  rw [Artifacts.get, ne_eq, Option.map_eq_none_iff, List.find?_eq_none]
  exact fun hall => hall p hp (by simpa using hid)

theorem loadComponent_rejects (hc : c.artifactId ∈ artifacts.ids) :
    Raises (· ≠ .key) (loadComponent rt policy m artifacts c) := by
  refine .bind (.orRaise fun hnone => absurd hnone (get_ne_none hc)) fun _ _ => .bind (.raiseIf nofun) fun _ _ =>
    .bind (.raiseIf nofun) fun _ _ => .bind (.raiseIf nofun) fun _ _ => ?_
  split
  · exact .error nofun
  · exact .ok

theorem load_rejects : Raises (· ≠ .key) (load rt policy request m packageSignature artifacts) := by
  refine .bind validateManifest_rejects fun _ _ => .bind (.raiseIf nofun) fun _ _ => .bind (.orRaise nofun) fun _ _ =>
    .bind (.raiseIf nofun) fun _ _ => .bind (.raiseIf nofun) fun _ _ => .bind (.forEach fun _ _ => .raiseIf nofun) fun _ _ =>
      .bind (.raiseIf nofun) fun _ hset => .bind (.gather fun c hc => loadComponent_rejects ?_) fun _ _ => .ok
  exact (not_not.mp (raiseIf_ok.mp hset)).2 _ (List.mem_map_of_mem (mem_sortOn.mp hc))

end

end Aegis.Registry
