/-
  Aegis.Registry.PackageClosure — what the dependencies of a package have to be, and what a loaded package consists of.

  `visit` is recursive, and the interpreter lets calls nest up to a limit only; `validateManifestWithin` is the validator
  under one.
  - `validateManifestWithin_sound`: whatever the limit is, what is accepted is closed, without duplicates and without a
    cycle of any length.
  - `validateManifestWithin_iff`: with a limit above the number of components this is all that the dependencies are asked for.
  - `load_exact`: the artifacts of a loaded package are its components, each from the publisher, of the size, digest and
    format that were signed; digest and format in any case of their letters.
  - `shouted_loaded`: a package that declares the format of an artifact in other letters.
-/

import Aegis.Registry.Transparency

namespace Aegis.Registry

open Data Data.Checks Data.DepthFirst
open Assurance (isSha256)
open Agentic (sameSet)

/-! ## The validator under a limit -/

section
variable (rt : Runtime) (policy : ModelPackageTrustPolicy)

/-- `_validate_manifest`, up to the search. -/
def validateDeclaration (m : ModelPackageManifest) : Except LoadError Unit := do
  raiseIf (m.schemaVersion ≠ P5B_PACKAGE_MANIFEST_SCHEMA_VERSION)
    (.rejected .manifestInvalid "unsupported model package manifest schema" none none)
  raiseIf (m.packageId = "" ∨ m.modelId = "" ∨ m.revision = "" ∨ m.publisherId = "")
    (.rejected .manifestInvalid "package identity fields must be non-empty" none none)
  raiseIf (m.components = []) (.rejected .manifestInvalid "model package must declare at least one component" none none)
  raiseIf ("" ∈ m.ids ∨ ¬ m.ids.Nodup)
    (.rejected .manifestInvalid "component artifact IDs must be unique and non-empty" none none)
  forEach (validateComponent rt policy m.ids) m.components
  raiseIf (m.components.countP (·.role = .primaryModel) ≠ 1)
    (.rejected .manifestInvalid "model package must declare exactly one primary model" none none)

/-- The search, where `visit` may nest `limit` deep; `none` is the RecursionError. -/
def visitAllWithin (limit : Nat) (m : ModelPackageManifest) : Except (Option LoadError) Unit :=
  match searchWithin (dependencies m) limit (sortOn id m.ids) with
  | .error none => .error none
  | .error (some id) =>
    .error (some (.rejected .dependencyInvalid "component dependency graph contains a cycle" (some id) none))
  | .ok _ => .ok ()

/-- `_validate_manifest`, as an interpreter with that limit runs it. -/
def validateManifestWithin (limit : Nat) (m : ModelPackageManifest) : Except (Option LoadError) Unit :=
  match validateDeclaration rt policy m with
  | .error e => .error (some e)
  | .ok () => visitAllWithin limit m

/-- What is asked of a component besides its dependencies. -/
structure ModelPackageComponent.Declared (c : ModelPackageComponent) : Prop where
  role : c.role ∈ policy.allowedRoles
  format : c.artifactFormat ≠ ""
  publisher : c.publisherId ≠ ""
  digest : isSha256 rt.toRuntime c.sha256
  size : 0 ≤ c.sizeBytes

/-- What is asked of a manifest besides its dependencies. -/
structure ModelPackageManifest.Declared (m : ModelPackageManifest) : Prop where
  schema : m.schemaVersion = P5B_PACKAGE_MANIFEST_SCHEMA_VERSION
  named : m.packageId ≠ "" ∧ m.modelId ≠ "" ∧ m.revision ≠ "" ∧ m.publisherId ≠ ""
  some : m.components ≠ []
  ids : "" ∉ m.ids ∧ m.ids.Nodup
  components : ∀ c ∈ m.components, c.Declared rt policy
  primary : m.components.countP (·.role = .primaryModel) = 1

end

/-- The dependencies are declared, listed once each, and lead in no circle. -/
structure ModelPackageManifest.Closed (m : ModelPackageManifest) : Prop where
  declared : ∀ c ∈ m.components, ∀ d ∈ c.dependsOn, d ∈ m.ids
  distinct : ∀ c ∈ m.components, c.dependsOn.Nodup
  acyclic : ∀ x ∈ m.ids, ¬ Relation.TransGen (Depends m) x x

section

variable {rt : Runtime} {policy : ModelPackageTrustPolicy} {m : ModelPackageManifest} {c : ModelPackageComponent} {limit : Nat}
  {u : Unit}

/-- A component that depends on itself is a circle. -/
theorem ModelPackageManifest.Closed.other (h : m.Closed) (hc : c ∈ m.components) : c.artifactId ∉ c.dependsOn := by
  intro hself
  exact h.acyclic c.artifactId (List.mem_map_of_mem hc) (.single ⟨c, hc, rfl, hself⟩)

theorem validateDeclaration_ok : validateDeclaration rt policy m = .ok u ↔ m.Declared rt policy ∧
    (∀ c ∈ m.components, c.artifactId ∉ c.dependsOn ∧ c.dependsOn.Nodup ∧ ∀ d ∈ c.dependsOn, d ∈ m.ids) := by
  simp only [validateDeclaration, ok_bind, raiseIf_ok, forEach_ok, exists_const, not_not, not_or]
  constructor
  · rintro ⟨hschema, hnamed, hsome, hids, hcomponents, hprimary⟩
    have hvalid := fun c hc => validateComponent_ok.mp (hcomponents c hc)
    refine ⟨⟨hschema, hnamed, hsome, hids, fun c hc => ?_, hprimary⟩, fun c hc => ?_⟩
    · exact ⟨(hvalid c hc).role, (hvalid c hc).format, (hvalid c hc).publisher, (hvalid c hc).digest, (hvalid c hc).size⟩
    · exact ⟨(hvalid c hc).other, (hvalid c hc).distinct, (hvalid c hc).declared⟩
  · rintro ⟨h, hdependencies⟩
    refine ⟨h.schema, h.named, h.some, h.ids, fun c hc => validateComponent_ok.mpr ?_, h.primary⟩
    obtain ⟨hother, hdistinct, hdeclared⟩ := hdependencies c hc
    exact ⟨(h.components c hc).role, (h.components c hc).format, (h.components c hc).publisher, (h.components c hc).digest,
      (h.components c hc).size, hother, hdistinct, hdeclared⟩

theorem visitAllWithin_ok :
    visitAllWithin limit m = .ok u ↔ ∃ visited, searchWithin (dependencies m) limit (sortOn id m.ids) = .ok visited := by
  unfold visitAllWithin
  cases searchWithin (dependencies m) limit (sortOn id m.ids) with
  | error e =>
    cases e with
    | none => simp
    | some x => simp
  | ok visited => simp

theorem acyclic_iff (hn : m.ids.Nodup) :
    Acyclic (dependencies m) (sortOn id m.ids) ↔ ∀ x ∈ m.ids, ¬ Relation.TransGen (Depends m) x x := by
  simp only [Acyclic, mem_sortOn, edge_dependencies hn]

/-- Declared dependencies lead from ids of the manifest to ids of the manifest. -/
theorem dependencies_closed (hn : m.ids.Nodup) (hdeclared : ∀ c ∈ m.components, ∀ d ∈ c.dependsOn, d ∈ m.ids) :
    ∀ x ∈ sortOn id m.ids, ∀ y ∈ dependencies m x, y ∈ sortOn id m.ids := by
  intro x _ y hy
  have hedge : Edge (dependencies m) x y := hy
  rw [edge_dependencies hn] at hedge
  obtain ⟨c, hc, -, hd⟩ := hedge
  exact mem_sortOn.mpr (hdeclared c hc y hd)

theorem sorted_length : (sortOn id m.ids).length = m.components.length := by
  rw [(perm_sortOn id m.ids).length_eq, ModelPackageManifest.ids, List.length_map]

theorem validateManifestWithin_ok : validateManifestWithin rt policy limit m = .ok u ↔
    validateDeclaration rt policy m = .ok () ∧ visitAllWithin limit m = .ok () := by
  unfold validateManifestWithin
  cases validateDeclaration rt policy m with
  | error e => simp
  | ok => simp

/-- What is accepted under any limit at all has no cycle. -/
theorem validateManifestWithin_sound (h : validateManifestWithin rt policy limit m = .ok ()) : m.Declared rt policy ∧ m.Closed := by
  obtain ⟨hdeclaration, hvisit⟩ := validateManifestWithin_ok.mp h
  obtain ⟨hm, hdependencies⟩ := validateDeclaration_ok.mp hdeclaration
  obtain ⟨visited, hsearch⟩ := visitAllWithin_ok.mp hvisit
  exact ⟨hm, fun c hc => (hdependencies c hc).2.2, fun c hc => (hdependencies c hc).2.1,
    (acyclic_iff hm.ids.2).mp (searchWithin_acyclic hsearch)⟩

theorem validateManifestWithin_iff (hlimit : m.components.length < limit) :
    validateManifestWithin rt policy limit m = .ok () ↔ m.Declared rt policy ∧ m.Closed := by
  refine ⟨validateManifestWithin_sound, fun h => ?_⟩
  obtain ⟨hm, hclosed⟩ := h
  refine validateManifestWithin_ok.mpr ⟨validateDeclaration_ok.mpr ⟨hm, fun c hc => ?_⟩, visitAllWithin_ok.mpr ?_⟩
  · exact ⟨hclosed.other hc, hclosed.distinct c hc, hclosed.declared c hc⟩
  · refine (searchWithin_ok (dependencies_closed hm.ids.2 hclosed.declared) ?_).mpr ((acyclic_iff hm.ids.2).mpr hclosed.acyclic)
    rw [sorted_length]
    exact hlimit

/-- Whatever else is wrong with the dependencies of a manifest that is declared well, it is rejected for them. -/
theorem validateManifestWithin_rejects (hlimit : m.components.length < limit) (hm : m.Declared rt policy) :
    Raises (fun e => ∃ message id, e = some (.rejected .dependencyInvalid message (some id) none))
      (validateManifestWithin rt policy limit m) := by
  have hdeclaration : Raises (fun e => ∃ message id, e = .rejected .dependencyInvalid message (some id) none)
      (validateDeclaration rt policy m) := by
    refine .bind (.raiseIf fun hc => absurd hm.schema hc) fun _ _ => .bind (.raiseIf fun hc => ?_) fun _ _ =>
      .bind (.raiseIf fun hc => absurd hc hm.some) fun _ _ => .bind (.raiseIf fun hc => ?_) fun _ _ =>
        .bind (.forEach fun c hc => ?_) fun _ _ => .raiseIf fun hc => absurd hm.primary hc
    · exact absurd hm.named (by tauto)
    · exact absurd hm.ids (by tauto)
    · have hd := hm.components c hc
      exact .bind (.raiseIf fun hr => absurd hd.role hr) fun _ _ =>
        .bind (.raiseIf fun hr => hr.elim (absurd · hd.format) (absurd · hd.publisher)) fun _ _ =>
          .bind (.raiseIf fun hr => absurd hd.digest hr) fun _ _ => .bind (.raiseIf fun hr => absurd hd.size (not_le.mpr hr)) fun _ _ =>
            .bind (.raiseIf fun _ => ⟨_, _, rfl⟩) fun _ _ => .bind (.raiseIf fun _ => ⟨_, _, rfl⟩) fun _ _ =>
              .raiseIf fun _ => ⟨_, _, rfl⟩
  intro e he
  unfold validateManifestWithin at he
  cases hv : validateDeclaration rt policy m with
  | error e' =>
    rw [hv] at he
    obtain ⟨message, id, rfl⟩ := hdeclaration e' hv
    exact ⟨message, id, (Except.error.inj he).symm⟩
  | ok u =>
    rw [hv] at he
    obtain ⟨-, hdependencies⟩ := validateDeclaration_ok.mp hv
    have hdeep := searchWithin_deep (dependencies_closed hm.ids.2 fun c hc => (hdependencies c hc).2.2) (sorted_length ▸ hlimit)
    simp only [visitAllWithin] at he
    cases hs : searchWithin (dependencies m) limit (sortOn id m.ids) with
    | ok visited => simp [hs] at he
    | error x =>
      cases x with
      | none => exact absurd hs hdeep
      | some x =>
        rw [hs] at he
        exact ⟨_, x, (Except.error.inj he).symm⟩

/-! ## A loaded package -/

/-- The artifact is the one that was signed for the component, and its publisher is one for its role. -/
structure Pinned (rt : Runtime) (policy : ModelPackageTrustPolicy) (c : ModelPackageComponent) (bundle : SignedModelArtifact) : Prop where
  publisher : bundle.manifest.publisherId = c.publisherId
  allowed : bundle.manifest.publisherId ∈ (policy.rolePublishers c.role).getD []
  size : bundle.manifest.sizeBytes = c.sizeBytes ∧ (bundle.payload.length : Int) = c.sizeBytes
  digest : rt.casefold bundle.manifest.sha256 = rt.casefold c.sha256 ∧ rt.sha256Bytes bundle.payload = rt.casefold c.sha256
  format : rt.casefold bundle.manifest.artifactFormat = rt.casefold c.artifactFormat

variable {request : ModelPackageRequest} {packageSignature : Bytes} {artifacts : Artifacts} {p : VerifiedModelPackage}

theorem payload_of_loadArtifact {artifactPolicy : ModelArtifactTrustPolicy} {request : ModelArtifactRequest} {manifest : ModelArtifactManifest}
    {signature payload : Bytes} {handle : VerifiedModelArtifact}
    (h : loadArtifact rt artifactPolicy request manifest signature payload = .ok handle) :
    (payload.length : Int) = manifest.sizeBytes ∧ rt.sha256Bytes payload = rt.casefold manifest.sha256 := by
  simp only [loadArtifact, ok_bind, raiseIf_ok, orRaise_ok, exists_const, not_not] at h
  obtain ⟨⟨⟩, -, -, -, -, -, -, -, hsize, hdigest, -⟩ := h
  exact ⟨hsize, hdigest⟩

theorem pinned_of_loadComponent {v : ModelPackageComponent × VerifiedModelArtifact}
    (h : loadComponent rt policy m artifacts c = .ok v) : ∃ bundle, artifacts.get c.artifactId = some bundle ∧ Pinned rt policy c bundle := by
  obtain ⟨bundle, hbundle, hpublisher, hdigest, hsize, hallowed, hformat, hloaded, -⟩ := loadComponent_ok.mp h
  obtain ⟨hlength, hpayload⟩ := payload_of_loadArtifact hloaded
  exact ⟨bundle, hbundle, hpublisher, hallowed, ⟨hsize, hlength.trans hsize⟩, ⟨hdigest, hpayload.trans hdigest⟩, hformat⟩

/-- The artifacts of a loaded package are those declared, as they were signed. -/
theorem load_exact (h : load rt policy request m packageSignature artifacts = .ok p) : sameSet artifacts.ids m.ids ∧
    ∀ c ∈ m.components, ∃ bundle, artifacts.get c.artifactId = some bundle ∧ Pinned rt policy c bundle := by
  simp only [load, ok_bind, raiseIf_ok, orRaise_ok, forEach_ok, exists_const, not_not] at h
  obtain ⟨⟨⟩, -, -, key, -, -, -, -, hset, verified, hverified, -⟩ := h
  refine ⟨hset, fun c hc => ?_⟩
  obtain ⟨v, -, hv⟩ := exists_of_forall₂ (gather_ok.mp hverified).flip (mem_sortOn.mpr hc)
  exact pinned_of_loadComponent hv

/-- What is accepted of the dependencies, with calls that may nest more deeply than there are components; what is
    accepted of them under any limit; and what a loaded package consists of. -/
theorem closure_exact (rt : Runtime) (policy : ModelPackageTrustPolicy) (m : ModelPackageManifest) :
    (∀ limit, m.components.length < limit →
      (validateManifestWithin rt policy limit m = .ok () ↔ m.Declared rt policy ∧ m.Closed) ∧
        (m.Declared rt policy →
          Raises (fun e => ∃ message id, e = some (.rejected .dependencyInvalid message (some id) none))
            (validateManifestWithin rt policy limit m))) ∧
      (∀ limit, validateManifestWithin rt policy limit m = .ok () → m.Closed) ∧
      ∀ request packageSignature artifacts p, load rt policy request m packageSignature artifacts = .ok p →
        sameSet artifacts.ids m.ids ∧ ∀ c ∈ m.components, ∃ bundle, artifacts.get c.artifactId = some bundle ∧ Pinned rt policy c bundle :=
  ⟨fun _ hlimit => ⟨validateManifestWithin_iff hlimit, validateManifestWithin_rejects hlimit⟩,
    fun _ h => (validateManifestWithin_sound h).2, fun _ _ _ _ h => load_exact h⟩

end

namespace Sample

open Agentic (hex)

theorem declared : manifest.Declared runtime acquirer.packageLoader where
  schema := manifest_valid.schema
  named := ⟨manifest_valid.package, manifest_valid.model, manifest_valid.revision, manifest_valid.publisher⟩
  some := manifest_valid.some
  ids := ⟨manifest_valid.named, manifest_valid.distinct⟩
  components c hc := by
    obtain rfl := List.mem_singleton.mp hc
    exact ⟨component_valid.role, component_valid.format, component_valid.publisher, component_valid.digest, component_valid.size⟩
  primary := manifest_valid.primary

theorem closed : manifest.Closed where
  declared c hc := by
    obtain rfl := List.mem_singleton.mp hc
    exact component_valid.declared
  distinct c hc := by
    obtain rfl := List.mem_singleton.mp hc
    exact component_valid.distinct
  acyclic := manifest_valid.acyclic

/-- The texts of the package that are not in small letters. -/
def foldingRuntime : Runtime := { runtime with casefold := fun s => if s = "ONNX" then "onnx" else s }

theorem folded_self {s : String} (h : s ≠ "ONNX") : foldingRuntime.casefold s = s := if_neg h

def shoutedComponent : ModelPackageComponent := { component with artifactFormat := "ONNX" }

def shoutedManifest : ModelPackageManifest := { manifest with components := [shoutedComponent] }

def bundle : SignedModelArtifact := ⟨artifact, sign (canonicalManifest artifact), payload⟩

def supplied : Artifacts := ⟨[("weights", bundle)], List.nodup_singleton _⟩

theorem isSha256_folded : isSha256 foldingRuntime.toRuntime (hex '0') := by
  have hfold : foldingRuntime.casefold (hex '0') = hex '0' := folded_self (by decide)
  have hzero := isSha256_pinned
  rw [isSha256] at hzero ⊢
  rw [hfold]
  exact hzero

theorem shouted_valid : shoutedManifest.Valid foldingRuntime acquirer.packageLoader where
  schema := rfl
  package := manifest_valid.package
  model := manifest_valid.model
  revision := manifest_valid.revision
  publisher := manifest_valid.publisher
  some := by simp [shoutedManifest]
  named := manifest_valid.named
  distinct := manifest_valid.distinct
  components c hc := by
    obtain rfl := List.mem_singleton.mp hc
    exact ⟨component_valid.role, by simp [shoutedComponent], component_valid.publisher, isSha256_folded, component_valid.size,
      component_valid.other, component_valid.distinct, component_valid.declared⟩
  primary := rfl
  acyclic x _ hcycle := by
    obtain ⟨y, ⟨c, hc, -, hy⟩, -⟩ := Relation.TransGen.head'_iff.mp hcycle
    obtain rfl := List.mem_singleton.mp hc
    exact List.not_mem_nil hy

theorem folded_loaded : ∃ handle, loadArtifact foldingRuntime acquirer.packageLoader.artifactPolicy ⟨"weights", "model", "1"⟩ artifact
    (sign (canonicalManifest artifact)) payload = .ok handle := by
  simp only [loadArtifact, validateManifestShape, ok_bind, raiseIf_ok, orRaise_ok, exists_const]
  refine ⟨_, ⟨by simp [artifact], by simp [artifact], by simp [artifact], by simp [artifact], not_not.mpr isSha256_folded⟩,
    by simp [artifact], key, rfl, not_not.mpr source_trusted, ?_, ?_, ?_, ?_, ?_, rfl⟩
  · have hfold : foldingRuntime.casefold artifact.artifactFormat = "onnx" := folded_self (by decide)
    rw [hfold]
    decide
  · show ¬ (1 : Int) > 1073741824
    simp
  · simp [payload, artifact]
  · have hfold : foldingRuntime.casefold artifact.sha256 = hex '0' := folded_self (by decide)
    rw [hfold]
    exact not_not.mpr payload_digest
  · simp [foldingRuntime, runtime, runtimeOf]

end Sample

open Sample in
/-- A package with a limit on nested calls that it does not meet. -/
theorem closure_exact_package : validateManifestWithin runtime acquirer.packageLoader 1000 manifest = .ok () ∧ manifest.Closed ∧
    sameSet supplied.ids manifest.ids ∧
    ∀ c ∈ manifest.components, ∃ bundle, supplied.get c.artifactId = some bundle ∧ Pinned runtime acquirer.packageLoader c bundle := by
  obtain ⟨hiff, hsound, hload⟩ := closure_exact runtime acquirer.packageLoader manifest
  have hlimit : manifest.components.length < 1000 := by simp [manifest]
  have hvalid := (hiff 1000 hlimit).1.mpr ⟨declared, closed⟩
  have hloaded : ∃ p, load runtime acquirer.packageLoader ⟨"package", "model", "1"⟩ manifest (sign (canonicalPackageManifest manifest))
      supplied = .ok p := by
    obtain ⟨handle, hhandle, -⟩ := component_loaded "stable"
    simp only [load, ok_bind, validateManifest_ok, raiseIf_ok, orRaise_ok, forEach_ok, exists_const]
    refine ⟨_, manifest_valid, by simp [manifest], key, rfl, by simp [runtime, runtimeOf], by simp [manifest], ?_, ?_,
      [(component, handle)], gather_ok.mpr (.cons hhandle .nil), rfl⟩
    · intro c hc
      obtain rfl := List.mem_singleton.mp hc
      simp [component]
    · rw [not_not]
      exact ⟨fun id hid => hid, fun id hid => hid⟩
  obtain ⟨p, hp⟩ := hloaded
  exact ⟨hvalid, hsound 1000 hvalid, hload _ _ _ p hp⟩

open Sample in
/-- A package is loaded whose declaration has the format of its artifact in other letters. -/
theorem shouted_loaded : ∃ p, load foldingRuntime acquirer.packageLoader ⟨"package", "model", "1"⟩ shoutedManifest
      (sign (canonicalPackageManifest shoutedManifest)) supplied = .ok p ∧
    shoutedComponent ∈ shoutedManifest.components ∧ supplied.get shoutedComponent.artifactId = some bundle ∧
    bundle.manifest.artifactFormat ≠ shoutedComponent.artifactFormat := by
  obtain ⟨handle, hhandle⟩ := folded_loaded
  have hformat : foldingRuntime.casefold artifact.artifactFormat = foldingRuntime.casefold shoutedComponent.artifactFormat := by
    have hsmall : foldingRuntime.casefold artifact.artifactFormat = "onnx" := folded_self (by decide)
    have hlarge : foldingRuntime.casefold shoutedComponent.artifactFormat = "onnx" := rfl
    rw [hsmall, hlarge]
  have hallowed : artifact.publisherId ∈ ["publisher"] := List.mem_singleton_self _
  have hcomponent : loadComponent foldingRuntime acquirer.packageLoader shoutedManifest supplied shoutedComponent =
      .ok (shoutedComponent, handle) :=
    loadComponent_ok.mpr ⟨bundle, rfl, rfl, rfl, rfl, hallowed, hformat, hhandle, rfl⟩
  simp only [load, ok_bind, validateManifest_ok, raiseIf_ok, orRaise_ok, forEach_ok, exists_const]
  refine ⟨_, ⟨shouted_valid, by simp [shoutedManifest, manifest], key, rfl, by simp [foldingRuntime, runtime, runtimeOf],
    by simp [shoutedManifest, manifest], ?_, ?_, [(shoutedComponent, handle)], gather_ok.mpr (.cons hcomponent .nil), rfl⟩,
    List.mem_singleton_self _, rfl, by decide⟩
  · intro c hc
    obtain rfl := List.mem_singleton.mp hc
    simp [shoutedComponent, component]
  · rw [not_not]
    exact ⟨fun id hid => hid, fun id hid => hid⟩

end Aegis.Registry
