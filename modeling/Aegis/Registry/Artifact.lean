/-
  Aegis.Registry.Artifact — the P5-A loader, which hands over one signed artifact (provenance.py).

  The payload is opaque: identity, publisher, source, format, size, digest and signature are checked,
  in this order, and nothing is parsed.
-/

import Aegis.Assurance.Regression

namespace Aegis.Registry

open Data Data.Checks
open Assurance (isSha256)
open Agentic (Dict)

abbrev Bytes := List UInt8

/-- `sha256_hex` of raw bytes, and Ed25519: `verifies` is false for a key or a signature it cannot read. -/
structure Runtime extends Assurance.Runtime where
  sha256Bytes : Bytes → String
  verifies : Bytes → Bytes → Json → Bool

def P5A_MODEL_ARTIFACT_POLICY_VERSION : String := "model-artifact-provenance-safe-loading-v1"
def P5A_MANIFEST_SCHEMA_VERSION : String := "aegis-model-artifact-manifest-v1"
def P5A_SAFE_LOADER_MODE : String := "verified-opaque-handoff-v1"

inductive ModelArtifactRejectReason where
  | manifestInvalid
  | identityMismatch
  | publisherUntrusted
  | sourceUntrusted
  | formatUnsafe
  | payloadTooLarge
  | sizeMismatch
  | digestMismatch
  | signatureInvalid
  deriving DecidableEq, Repr

def ModelArtifactRejectReason.value : ModelArtifactRejectReason → String
  | manifestInvalid => "manifest_invalid"
  | identityMismatch => "identity_mismatch"
  | publisherUntrusted => "publisher_untrusted"
  | sourceUntrusted => "source_untrusted"
  | formatUnsafe => "format_unsafe"
  | payloadTooLarge => "payload_too_large"
  | sizeMismatch => "size_mismatch"
  | digestMismatch => "digest_mismatch"
  | signatureInvalid => "signature_invalid"

structure ModelArtifactRejected where
  reason : ModelArtifactRejectReason
  message : String
  deriving DecidableEq, Repr

structure ModelArtifactRequest where
  artifactId : String
  modelId : String
  revision : String

structure ModelArtifactManifest where
  artifactId : String
  modelId : String
  revision : String
  publisherId : String
  source : String
  artifactFormat : String
  sha256 : String
  sizeBytes : Int
  schemaVersion : String := P5A_MANIFEST_SCHEMA_VERSION
  deriving DecidableEq

structure ModelArtifactTrustPolicy where
  trustedPublishers : Dict Bytes
  trustedSourcePrefixes : Dict (List String)
  allowedFormats : List String := ["safetensors", "onnx"]
  maxArtifactBytes : Int := 1073741824

structure VerifiedModelArtifact where
  artifactId : String
  modelId : String
  revision : String
  publisherId : String
  source : String
  artifactFormat : String
  sha256 : String
  sizeBytes : Int
  policyVersion : String := P5A_MODEL_ARTIFACT_POLICY_VERSION
  loaderMode : String := P5A_SAFE_LOADER_MODE
  deserialized : Bool := false
  codeExecutionCapable : Bool := false
  networkOperations : Int := 0
  deriving DecidableEq

/-- `canonical_manifest_bytes`. -/
def canonicalManifest (manifest : ModelArtifactManifest) : Json := .obj [
  ("artifact_format", .str manifest.artifactFormat), ("artifact_id", .str manifest.artifactId),
  ("model_id", .str manifest.modelId), ("publisher_id", .str manifest.publisherId),
  ("revision", .str manifest.revision), ("schema_version", .str manifest.schemaVersion),
  ("sha256", .str manifest.sha256), ("size_bytes", .int manifest.sizeBytes), ("source", .str manifest.source)]

theorem canonicalManifest_injective : Function.Injective canonicalManifest := by
  intro m m' h
  cases m
  cases m'
  simp only [canonicalManifest, Json.obj_cons, Json.field.injEq, Json.str.injEq, Json.int.injEq, true_and, and_true] at h
  simp [h]

/-- `source.startswith(prefix)` for one of the prefixes. -/
def sourceAllowed (source : String) (prefixes : List String) : Prop := ∃ p ∈ prefixes, p.toList <+: source.toList

instance decidableSourceAllowed (source : String) (prefixes : List String) : Decidable (sourceAllowed source prefixes) :=
  inferInstanceAs (Decidable (∃ _ ∈ _, _))

section
variable (rt : Runtime)

/-- `_validate_manifest_shape`. -/
def validateManifestShape (manifest : ModelArtifactManifest) : Except ModelArtifactRejected Unit := do
  raiseIf (manifest.schemaVersion ≠ P5A_MANIFEST_SCHEMA_VERSION) ⟨.manifestInvalid, "unsupported model artifact manifest schema"⟩
  raiseIf (manifest.artifactId = "" ∨ manifest.modelId = "" ∨ manifest.revision = "")
    ⟨.manifestInvalid, "artifact identity fields must be non-empty"⟩
  raiseIf (manifest.publisherId = "" ∨ manifest.source = "" ∨ manifest.artifactFormat = "")
    ⟨.manifestInvalid, "publisher source and format must be non-empty"⟩
  raiseIf (manifest.sizeBytes < 0) ⟨.manifestInvalid, "artifact size must be non-negative"⟩
  raiseIf (¬ isSha256 rt.toRuntime manifest.sha256)
    ⟨.manifestInvalid, "artifact digest must be lowercase-compatible SHA-256 hex"⟩

/-- `RestrictedModelArtifactLoader.load`. -/
def loadArtifact (policy : ModelArtifactTrustPolicy) (request : ModelArtifactRequest) (manifest : ModelArtifactManifest)
    (signature payload : Bytes) : Except ModelArtifactRejected VerifiedModelArtifact := do
  validateManifestShape rt manifest
  raiseIf (request.artifactId ≠ manifest.artifactId ∨ request.modelId ≠ manifest.modelId ∨ request.revision ≠ manifest.revision)
    ⟨.identityMismatch, "signed artifact identity does not match the caller request"⟩
  let publicKey ← orRaise ⟨.publisherUntrusted, "publisher is not trusted by policy"⟩ (policy.trustedPublishers manifest.publisherId)
  raiseIf (¬ sourceAllowed manifest.source ((policy.trustedSourcePrefixes manifest.publisherId).getD []))
    ⟨.sourceUntrusted, "artifact source is not trusted for publisher"⟩
  raiseIf (rt.casefold manifest.artifactFormat ∉ policy.allowedFormats)
    ⟨.formatUnsafe, "artifact format is not in the data-only allowlist"⟩
  raiseIf (payload.length > policy.maxArtifactBytes) ⟨.payloadTooLarge, "artifact exceeds configured byte budget"⟩
  raiseIf (payload.length ≠ manifest.sizeBytes) ⟨.sizeMismatch, "artifact size does not match signed manifest"⟩
  raiseIf (rt.sha256Bytes payload ≠ rt.casefold manifest.sha256)
    ⟨.digestMismatch, "artifact payload digest does not match manifest"⟩
  raiseIf (rt.verifies publicKey signature (canonicalManifest manifest) = false)
    ⟨.signatureInvalid, "artifact manifest signature verification failed"⟩
  return {
    artifactId := manifest.artifactId
    modelId := manifest.modelId
    revision := manifest.revision
    publisherId := manifest.publisherId
    source := manifest.source
    artifactFormat := rt.casefold manifest.artifactFormat
    sha256 := rt.sha256Bytes payload
    sizeBytes := payload.length }

end

end Aegis.Registry
