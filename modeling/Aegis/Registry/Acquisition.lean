/-
  Aegis.Registry.Acquisition — acquiring a pinned release from a registry (registry_acquisition.py).

  The digest of a release covers its content, and not its alias: registry, channel and tag are checked
  on the envelope, after it was fetched or found in the cache. The cache is keyed by the digest and
  takes every envelope that has it, before the alias and the package are checked.
-/

import Aegis.Assurance.Feedback
import Aegis.Registry.Package

namespace Aegis.Registry

open Data Data.Checks
open Assurance (isSha256)
open Assurance.Feedback (ascii)
open Agentic (Dict)

def P5C_REGISTRY_POLICY_VERSION : String := "immutable-model-registry-acquisition-v1"
def P5C_RELEASE_SCHEMA_VERSION : String := "aegis-model-registry-release-v1"
def P5C_ACQUISITION_MODE : String := "digest-pinned-release-handoff-v1"

inductive RegistryAcquisitionRejectReason where
  | pinInvalid
  | registryUntrusted
  | channelUnpinned
  | tagDrift
  | sourceUntrusted
  | redirectUntrusted
  | releaseNotFound
  | releaseIdentityMismatch
  | releaseDigestMismatch
  | cacheDigestMismatch
  | packageInvalid
  deriving DecidableEq, Repr

/-- Other exceptions: those of the transport, and the TypeError of `hmac.compare_digest` on a text that is not ASCII. -/
inductive Raised where
  | key
  | type
  | other (message : String)
  deriving DecidableEq, Repr

/-- What `acquire` raises. -/
inductive AcquireError where
  | rejected (reason : RegistryAcquisitionRejectReason) (message : String) (nestedReason : Option String)
  | raised (e : Raised)
  deriving DecidableEq, Repr

structure RegistryReleasePin where
  registryId : String
  channel : String
  tag : String
  releaseDigest : String
  packageId : String
  modelId : String
  revision : String

structure RegistryReleasePointer where
  registryId : String
  channel : String
  tag : String
  releaseDigest : String
  source : String

structure RegistryReleaseEnvelope where
  registryId : String
  channel : String
  tag : String
  packageManifest : ModelPackageManifest
  packageSignature : Bytes
  artifacts : Artifacts
  schemaVersion : String := P5C_RELEASE_SCHEMA_VERSION

structure RegistryFetchResult where
  envelope : RegistryReleaseEnvelope
  finalSource : String
  redirects : List String := []

structure RegistryAcquisitionPolicy where
  trustedRegistrySources : Dict (List String)
  channelPins : String × String × String → Option String
  allowRedirects : Bool := false
  trustedRedirectSources : Option (Dict (List String)) := none

structure VerifiedRegistryRelease where
  registryId : String
  channel : String
  tag : String
  releaseDigest : String
  source : String
  redirectCount : Nat
  package : VerifiedModelPackage
  policyVersion : String := P5C_REGISTRY_POLICY_VERSION
  acquisitionMode : String := P5C_ACQUISITION_MODE
  digestAddressed : Bool := true
  mutableTagPinVerified : Bool := true
  cacheVerified : Bool := true
  networkOperations : Int := 0
  codeExecutionCapable : Bool := false

/-- A transport, as one call meets it: what each request would return or raise. -/
structure ModelRegistryTransport where
  resolve (registryId channel tag : String) : Except Raised RegistryReleasePointer
  fetchByDigest (registryId source releaseDigest : String) : Except Raised RegistryFetchResult

/-- An acquirer's policies; its cache is the state of its calls. -/
structure ImmutableModelRegistryAcquirer where
  policy : RegistryAcquisitionPolicy
  packageLoader : ModelPackageTrustPolicy

structure RegistryReleaseCache where
  entries : Dict RegistryReleaseEnvelope

section
variable (rt : Runtime)

namespace RegistryReleaseCache

def empty : RegistryReleaseCache := ⟨fun _ => none⟩

def put (cache : RegistryReleaseCache) (releaseDigest : String) (envelope : RegistryReleaseEnvelope) : RegistryReleaseCache :=
  ⟨cache.entries.set (rt.casefold releaseDigest) envelope⟩

def get (cache : RegistryReleaseCache) (releaseDigest : String) : Option RegistryReleaseEnvelope :=
  cache.entries (rt.casefold releaseDigest)

end RegistryReleaseCache

/-! ## The digest of a release -/

def releaseArtifact (item : String × SignedModelArtifact) : Json := .obj [
  ("artifact_id", .str item.1), ("manifest_sha256", .str (rt.sha256 (canonicalManifest item.2.manifest))),
  ("payload_sha256", .str (rt.sha256Bytes item.2.payload)), ("payload_size", .int item.2.payload.length),
  ("signature_sha256", .str (rt.sha256Bytes item.2.signature))]

/-- `canonical_registry_release_bytes`. -/
def canonicalRegistryRelease (envelope : RegistryReleaseEnvelope) : Json := .obj [
  ("artifacts", .arr ((sortOn Prod.fst envelope.artifacts.items).map (releaseArtifact rt))),
  ("package_manifest_sha256", .str (rt.sha256 (canonicalPackageManifest envelope.packageManifest))),
  ("package_signature_sha256", .str (rt.sha256Bytes envelope.packageSignature)),
  ("schema_version", .str envelope.schemaVersion)]

def registryReleaseDigest (envelope : RegistryReleaseEnvelope) : String := rt.sha256 (canonicalRegistryRelease rt envelope)

/-! ## Acquiring -/

/-- `if not hmac.compare_digest(a, b)`, of texts that nothing has validated. -/
def compareDigest (a b : String) (e : AcquireError) : Except AcquireError Unit := do
  raiseIf (¬ ascii a ∨ ¬ ascii b) (.raised .type)
  raiseIf (a ≠ b) e

variable (acquirer : ImmutableModelRegistryAcquirer)

/-- `source_prefixes`; no entry and an empty one are alike. -/
def sourcePrefixes (pin : RegistryReleasePin) : List String :=
  (acquirer.policy.trustedRegistrySources pin.registryId).getD []

def redirectPrefixes (pin : RegistryReleasePin) : List String :=
  match acquirer.policy.trustedRedirectSources with
  | some sources => (sources pin.registryId).getD []
  | none => sourcePrefixes acquirer pin

/-- `acquire`, up to the lookup in the cache. -/
def resolvePinned (pin : RegistryReleasePin) (transport : ModelRegistryTransport) :
    Except AcquireError RegistryReleasePointer := do
  raiseIf (pin.registryId = "" ∨ pin.channel = "" ∨ pin.tag = "" ∨ pin.packageId = "" ∨ pin.modelId = "" ∨ pin.revision = "" ∨
    ¬ isSha256 rt.toRuntime pin.releaseDigest) (.rejected .pinInvalid "release pin is incomplete or malformed" none)
  raiseIf (sourcePrefixes acquirer pin = []) (.rejected .registryUntrusted "registry is not trusted by policy" none)
  let configuredDigest ← orRaise (.rejected .channelUnpinned "release channel and tag are not pinned" none)
    (acquirer.policy.channelPins (pin.registryId, pin.channel, pin.tag))
  compareDigest (rt.casefold configuredDigest) (rt.casefold pin.releaseDigest)
    (.rejected .channelUnpinned "caller pin does not match deployment channel pin" none)
  let pointer ← (transport.resolve pin.registryId pin.channel pin.tag).mapError .raised
  raiseIf (pointer.registryId ≠ pin.registryId ∨ pointer.channel ≠ pin.channel ∨ pointer.tag ≠ pin.tag)
    (.rejected .releaseIdentityMismatch "registry pointer identity mismatch" none)
  compareDigest (rt.casefold pointer.releaseDigest) (rt.casefold pin.releaseDigest)
    (.rejected .tagDrift "mutable tag no longer resolves to the pinned release" none)
  raiseIf (¬ sourceAllowed pointer.source (sourcePrefixes acquirer pin))
    (.rejected .sourceUntrusted "resolved registry source is outside trusted prefixes" none)
  return pointer

/-- What a KeyError of the transport becomes. -/
def notFound : Raised → AcquireError
  | .key => .rejected .releaseNotFound "pinned immutable release was not found" none
  | e => .raised e

/-- The branch of `acquire` that fetches, up to `cache.put`. -/
def fetchPinned (pin : RegistryReleasePin) (pointer : RegistryReleasePointer) (transport : ModelRegistryTransport) :
    Except AcquireError RegistryFetchResult := do
  let fetched ← (transport.fetchByDigest pin.registryId pointer.source pin.releaseDigest).mapError notFound
  raiseIf (fetched.redirects ≠ [] ∧ acquirer.policy.allowRedirects = false)
    (.rejected .redirectUntrusted "registry redirects are disabled" none)
  forEach (fun source => raiseIf (¬ sourceAllowed source (redirectPrefixes acquirer pin))
    (.rejected .redirectUntrusted "redirect or final source is untrusted" none)) (fetched.redirects ++ [fetched.finalSource])
  raiseIf (registryReleaseDigest rt fetched.envelope ≠ rt.casefold pin.releaseDigest)
    (.rejected .releaseDigestMismatch "fetched release bytes do not match immutable digest" none)
  return fetched

/-- `acquire`, from the check of the envelope's identity on. -/
def handOff (pin : RegistryReleasePin) (envelope : RegistryReleaseEnvelope) (finalSource : String) (redirects : List String) :
    Except AcquireError VerifiedRegistryRelease := do
  raiseIf (envelope.schemaVersion ≠ P5C_RELEASE_SCHEMA_VERSION ∨ envelope.registryId ≠ pin.registryId ∨
    envelope.channel ≠ pin.channel ∨ envelope.tag ≠ pin.tag)
    (.rejected .releaseIdentityMismatch "release envelope identity mismatch" none)
  raiseIf (envelope.packageManifest.packageId ≠ pin.packageId ∨ envelope.packageManifest.modelId ≠ pin.modelId ∨
    envelope.packageManifest.revision ≠ pin.revision)
    (.rejected .releaseIdentityMismatch "release package identity does not match pin" none)
  match load rt acquirer.packageLoader ⟨pin.packageId, pin.modelId, pin.revision⟩ envelope.packageManifest
    envelope.packageSignature envelope.artifacts with
  | .error (.rejected reason _ _ _) =>
    .error (.rejected .packageInvalid "acquired release failed model-package provenance verification" (some reason.value))
  | .error .key => .error (.raised .key)
  | .ok package => .ok {
      registryId := pin.registryId
      channel := pin.channel
      tag := pin.tag
      releaseDigest := rt.casefold pin.releaseDigest
      source := finalSource
      redirectCount := redirects.length
      package := package }

/-- The branch of `acquire` that finds the release in the cache. -/
def reuse (pin : RegistryReleasePin) (pointer : RegistryReleasePointer) (cached : RegistryReleaseEnvelope) :
    Except AcquireError VerifiedRegistryRelease := do
  raiseIf (registryReleaseDigest rt cached ≠ rt.casefold pin.releaseDigest)
    (.rejected .cacheDigestMismatch "cached release does not match immutable key" none)
  handOff rt acquirer pin cached pointer.source []

/-- `acquire`, without a cache or with one; and the cache after it. -/
def acquire (cache : Option RegistryReleaseCache) (pin : RegistryReleasePin) (transport : ModelRegistryTransport) :
    Except AcquireError VerifiedRegistryRelease × Option RegistryReleaseCache :=
  match resolvePinned rt acquirer pin transport with
  | .error e => (.error e, cache)
  | .ok pointer =>
    match cache.bind fun c => c.get rt pin.releaseDigest with
    | some cached => (reuse rt acquirer pin pointer cached, cache)
    | none =>
      match fetchPinned rt acquirer pin pointer transport with
      | .error e => (.error e, cache)
      | .ok fetched =>
        (handOff rt acquirer pin fetched.envelope fetched.finalSource fetched.redirects,
          cache.map fun c => c.put rt pin.releaseDigest fetched.envelope)

/-- A call of `acquire`, with the transport it meets. -/
structure Call where
  pin : RegistryReleasePin
  transport : ModelRegistryTransport

/-- The cache after a sequence of calls. -/
def cacheAfter (cache : Option RegistryReleaseCache) (calls : List Call) : Option RegistryReleaseCache :=
  calls.foldl (fun c call => (acquire rt acquirer c call.pin call.transport).2) cache

end

end Aegis.Registry
