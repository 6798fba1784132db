/-
  Aegis.Registry.Transparency — what the cache of an acquirer changes.

  A release is found in the cache by its digest, and then checked for the alias of the pin; the alias is
  not part of the digest. The cache keeps one envelope for each digest, whichever alias it came with.
  - After any calls every envelope in the cache has the digest it is kept under (`cacheAfter_sound`), and
    envelopes of one digest are loaded alike (`loads_alike`).
  - So a call that is served the pinned release comes to what it would without the cache exactly when the
    cached release carries the identity of the pin if and only if the served one does, and the sources it
    was served through are trusted (`cache_transparent_iff`).
  - Two tags of one release suffice for the other case, and so does an envelope with another alias,
    which is refused and kept all the same (`second_tag_refused`).
-/

import Aegis.Registry.Acquisition

namespace Aegis.Registry

open Data Data.Checks
open Assurance (isSha256)
open Assurance.Feedback (ascii)
open Agentic (Dict)

/-! ## What a call comes to -/

/-- Why there is no package; messages and nested reasons are left out. -/
def AcquireError.cause : AcquireError → RegistryAcquisitionRejectReason ⊕ Raised
  | .rejected reason _ _ => .inl reason
  | .raised e => .inr e

def verdict : Except AcquireError VerifiedRegistryRelease → Except (RegistryAcquisitionRejectReason ⊕ Raised) VerifiedModelPackage
  | .ok release => .ok release.package
  | .error e => .error e.cause

/-- The envelope has the alias of the pin, and its package is the one the pin names. -/
structure Identified (pin : RegistryReleasePin) (envelope : RegistryReleaseEnvelope) : Prop where
  schema : envelope.schemaVersion = P5C_RELEASE_SCHEMA_VERSION
  registry : envelope.registryId = pin.registryId
  channel : envelope.channel = pin.channel
  tag : envelope.tag = pin.tag
  package : envelope.packageManifest.packageId = pin.packageId
  model : envelope.packageManifest.modelId = pin.modelId
  revision : envelope.packageManifest.revision = pin.revision

section
variable (rt : Runtime) (acquirer : ImmutableModelRegistryAcquirer)

/-- The pin is complete, it is the one the policy has for its channel and tag, and the pointer agrees with it. -/
structure PinAccepted (pin : RegistryReleasePin) (pointer : RegistryReleasePointer) : Prop where
  complete : pin.registryId ≠ "" ∧ pin.channel ≠ "" ∧ pin.tag ≠ "" ∧ pin.packageId ≠ "" ∧ pin.modelId ≠ "" ∧ pin.revision ≠ ""
  digest : isSha256 rt.toRuntime pin.releaseDigest
  registry : sourcePrefixes acquirer pin ≠ []
  pinned : ∃ configured, acquirer.policy.channelPins (pin.registryId, pin.channel, pin.tag) = some configured ∧
    ascii (rt.casefold configured) ∧ rt.casefold configured = rt.casefold pin.releaseDigest
  pointed : pointer.registryId = pin.registryId ∧ pointer.channel = pin.channel ∧ pointer.tag = pin.tag
  drift : ascii (rt.casefold pointer.releaseDigest) ∧ rt.casefold pointer.releaseDigest = rt.casefold pin.releaseDigest
  source : sourceAllowed pointer.source (sourcePrefixes acquirer pin)

/-- The policy allows the redirects of the fetched release, and where it came from. -/
structure Trusted (pin : RegistryReleasePin) (fetched : RegistryFetchResult) : Prop where
  redirects : fetched.redirects = [] ∨ acquirer.policy.allowRedirects = true
  sources : ∀ source ∈ fetched.redirects ++ [fetched.finalSource], sourceAllowed source (redirectPrefixes acquirer pin)

/-- The transport resolves the tag to `pointer`, and serves a release of the pinned digest from there. -/
structure Serves (pin : RegistryReleasePin) (transport : ModelRegistryTransport) (pointer : RegistryReleasePointer)
    (fetched : RegistryFetchResult) : Prop where
  resolved : transport.resolve pin.registryId pin.channel pin.tag = .ok pointer
  found : transport.fetchByDigest pin.registryId pointer.source pin.releaseDigest = .ok fetched
  digest : registryReleaseDigest rt fetched.envelope = rt.casefold pin.releaseDigest

end

section
variable {rt : Runtime} {acquirer : ImmutableModelRegistryAcquirer} {pin : RegistryReleasePin}
  {transport : ModelRegistryTransport} {pointer : RegistryReleasePointer} {fetched : RegistryFetchResult}
  {e e' : RegistryReleaseEnvelope} {digest finalSource : String}

/-! ## The parts of a call -/

@[simp] theorem mapError_ok {ε ε' α : Type} {f : ε → ε'} {x : Except ε α} {a : α} : x.mapError f = .ok a ↔ x = .ok a := by
  cases x with
  | error e => simp [Except.mapError]
  | ok b => simp [Except.mapError]

theorem compareDigest_ok {a b : String} {err : AcquireError} {u : Unit} :
    compareDigest a b err = .ok u ↔ (ascii a ∧ ascii b) ∧ a = b := by
  simp only [compareDigest, ok_seq, raiseIf_ok, not_or, not_not]

theorem ascii_digest (h : isSha256 rt.toRuntime digest) : ascii (rt.casefold digest) := by
  intro c hc
  have hdigit := (Agentic.Evidence.mem_hexDigits c).mp (h.2 c hc)
  simp only [Agentic.Evidence.hexDigit, Bool.or_eq_true, Bool.and_eq_true, decide_eq_true_eq] at hdigit
  omega

theorem resolvePinned_ok : resolvePinned rt acquirer pin transport = .ok pointer ↔
    transport.resolve pin.registryId pin.channel pin.tag = .ok pointer ∧ PinAccepted rt acquirer pin pointer := by
  simp only [resolvePinned, ok_bind, raiseIf_ok, orRaise_ok, compareDigest_ok, mapError_ok, exists_const, not_or, not_not, ne_eq]
  constructor
  · rintro ⟨⟨hr, hc, ht, hp, hm, hv, hdigest⟩, hregistry, configured, hpinned, ⟨⟨hascii, -⟩, hsame⟩, answer, hresolve,
      hpointed, ⟨⟨hascii', -⟩, hdrift⟩, hsource, h⟩
    obtain rfl := Except.ok.inj h
    exact ⟨hresolve, ⟨hr, hc, ht, hp, hm, hv⟩, hdigest, hregistry, ⟨configured, hpinned, hascii, hsame⟩, hpointed,
      ⟨hascii', hdrift⟩, hsource⟩
  · rintro ⟨hresolve, h⟩
    obtain ⟨configured, hpinned, hascii, hsame⟩ := h.pinned
    obtain ⟨hr, hc, ht, hp, hm, hv⟩ := h.complete
    have hpin := ascii_digest h.digest
    exact ⟨⟨hr, hc, ht, hp, hm, hv, h.digest⟩, h.registry, configured, hpinned, ⟨⟨hascii, hpin⟩, hsame⟩, pointer, hresolve,
      h.pointed, ⟨⟨h.drift.1, hpin⟩, h.drift.2⟩, h.source, rfl⟩

theorem fetchPinned_ok : fetchPinned rt acquirer pin pointer transport = .ok fetched ↔
    transport.fetchByDigest pin.registryId pointer.source pin.releaseDigest = .ok fetched ∧ Trusted acquirer pin fetched ∧
      registryReleaseDigest rt fetched.envelope = rt.casefold pin.releaseDigest := by
  have hallowed : ∀ {f : RegistryFetchResult}, ¬ (f.redirects ≠ [] ∧ acquirer.policy.allowRedirects = false) ↔
      f.redirects = [] ∨ acquirer.policy.allowRedirects = true := by
    intro f
    rw [not_and_or, ne_eq, not_not, Bool.not_eq_false]
  simp only [fetchPinned, ok_bind, mapError_ok, raiseIf_ok, forEach_ok, hallowed, not_not, exists_const, ne_eq]
  constructor
  · rintro ⟨answer, hfound, hredirects, hsources, hdigest, h⟩
    obtain rfl := Except.ok.inj h
    exact ⟨hfound, ⟨hredirects, hsources⟩, hdigest⟩
  · rintro ⟨hfound, htrusted, hdigest⟩
    exact ⟨fetched, hfound, htrusted.redirects, htrusted.sources, hdigest, rfl⟩

/-- When the pinned release is served, only its sources can be refused. -/
theorem fetchPinned_raises (h : Serves rt pin transport pointer fetched) :
    Raises (fun e => e.cause = .inl .redirectUntrusted) (fetchPinned rt acquirer pin pointer transport) := by
  unfold fetchPinned
  rw [h.found]
  refine .bind .ok fun f hf => ?_
  obtain rfl := Except.ok.inj hf
  exact .bind (.raiseIf fun _ => rfl) fun _ _ => .bind (.forEach fun _ _ => .raiseIf fun _ => rfl) fun _ _ =>
    .bind (.raiseIf fun hne => absurd h.digest hne) fun _ _ => .ok

instance decidableIdentified : Decidable (Identified pin e) :=
  decidable_of_iff (e.schemaVersion = P5C_RELEASE_SCHEMA_VERSION ∧ e.registryId = pin.registryId ∧ e.channel = pin.channel ∧
    e.tag = pin.tag ∧ e.packageManifest.packageId = pin.packageId ∧ e.packageManifest.modelId = pin.modelId ∧
    e.packageManifest.revision = pin.revision)
    ⟨fun ⟨hs, hr, hc, ht, hp, hm, hv⟩ => ⟨hs, hr, hc, ht, hp, hm, hv⟩,
      fun h => ⟨h.schema, h.registry, h.channel, h.tag, h.package, h.model, h.revision⟩⟩

/-- The loader, as `handOff` calls it. -/
def loadPinned (rt : Runtime) (acquirer : ImmutableModelRegistryAcquirer) (pin : RegistryReleasePin)
    (envelope : RegistryReleaseEnvelope) : Except LoadError VerifiedModelPackage :=
  load rt acquirer.packageLoader ⟨pin.packageId, pin.modelId, pin.revision⟩ envelope.packageManifest envelope.packageSignature
    envelope.artifacts

theorem handOff_verdict {redirects : List String} : verdict (handOff rt acquirer pin e finalSource redirects) =
      if Identified pin e then
        match loadPinned rt acquirer pin e with
        | .ok package => .ok package
        | .error _ => .error (.inl .packageInvalid)
      else .error (.inl .releaseIdentityMismatch) := by
  by_cases hi : Identified pin e
  · have hload : Raises (· ≠ .key) (loadPinned rt acquirer pin e) := load_rejects
    rw [if_pos hi, handOff]
    simp only [hi.schema, hi.registry, hi.channel, hi.tag, hi.package, hi.model, hi.revision, ne_eq, not_true_eq_false, or_self,
      raiseIf, if_false]
    cases hp : loadPinned rt acquirer pin e with
    | ok package =>
      unfold loadPinned at hp
      rw [hp]
      rfl
    | error err =>
      cases err with
      | rejected =>
        unfold loadPinned at hp
        rw [hp]
        rfl
      | key => exact absurd rfl (hload .key hp)
  · rw [if_neg hi, handOff]
    by_cases hn : e.schemaVersion ≠ P5C_RELEASE_SCHEMA_VERSION ∨ e.registryId ≠ pin.registryId ∨ e.channel ≠ pin.channel ∨
        e.tag ≠ pin.tag
    · simp only [raiseIf, if_pos hn]
      rfl
    · have hp : e.packageManifest.packageId ≠ pin.packageId ∨ e.packageManifest.modelId ≠ pin.modelId ∨
          e.packageManifest.revision ≠ pin.revision := by
        simp only [not_or, not_not, ne_eq] at hn
        by_contra hsame
        simp only [not_or, not_not, ne_eq] at hsame
        exact hi ⟨hn.1, hn.2.1, hn.2.2.1, hn.2.2.2, hsame.1, hsame.2.1, hsame.2.2⟩
      simp only [raiseIf, if_neg hn, if_pos hp]
      rfl

/-! ## Releases of one digest -/

theorem releaseArtifact_injective (hH : Function.Injective rt.sha256) (hB : Function.Injective rt.sha256Bytes) :
    Function.Injective (releaseArtifact rt) := by
  rintro ⟨id, manifest, signature, payload⟩ ⟨id', manifest', signature', payload'⟩ h
  simp only [releaseArtifact, Json.obj_cons, Json.field.injEq, Json.str.injEq, Json.int.injEq, hH.eq_iff, hB.eq_iff,
    canonicalManifest_injective.eq_iff, true_and, and_true] at h
  obtain ⟨rfl, rfl, rfl, -, rfl⟩ := h
  rfl

/-- What the digest of a release binds. -/
structure SameContent (e e' : RegistryReleaseEnvelope) : Prop where
  schema : e.schemaVersion = e'.schemaVersion
  package : SamePackage e.packageManifest e'.packageManifest
  signature : e.packageSignature = e'.packageSignature
  artifacts : e.artifacts.items.Perm e'.artifacts.items

theorem SameContent.symm (h : SameContent e e') : SameContent e' e :=
  ⟨h.schema.symm, h.package.symm, h.signature.symm, h.artifacts.symm⟩

theorem sameContent_of_digest (hH : Function.Injective rt.sha256) (hB : Function.Injective rt.sha256Bytes)
    (h : registryReleaseDigest rt e = registryReleaseDigest rt e') : SameContent e e' := by
  have hdoc : canonicalRegistryRelease rt e = canonicalRegistryRelease rt e' := hH h
  simp only [canonicalRegistryRelease, Json.obj_cons, Json.field.injEq, Json.str.injEq, Json.arr_inj, hH.eq_iff, hB.eq_iff,
    (List.map_injective_iff.mpr (releaseArtifact_injective hH hB)).eq_iff, true_and, and_true] at hdoc
  obtain ⟨hitems, hpackage, hsignature, hschema⟩ := hdoc
  have hsorted := perm_sortOn Prod.fst e.artifacts.items
  rw [hitems] at hsorted
  exact ⟨hschema, hpackage, hsignature, hsorted.symm.trans (perm_sortOn _ _)⟩

theorem loadPinned_same (h : SameContent e e') {p : VerifiedModelPackage} (hp : loadPinned rt acquirer pin e = .ok p) :
    loadPinned rt acquirer pin e' = .ok p := by
  unfold loadPinned at hp ⊢
  rw [← h.signature]
  exact load_same h.package h.artifacts hp

/-- Releases of one content come to one verdict, when both or neither carry the identity of the pin. -/
theorem loads_alike (h : SameContent e e') {finalSource' : String} {redirects redirects' : List String} :
    verdict (handOff rt acquirer pin e finalSource redirects) = verdict (handOff rt acquirer pin e' finalSource' redirects') ↔
      (Identified pin e ↔ Identified pin e') := by
  rw [handOff_verdict, handOff_verdict]
  by_cases hi : Identified pin e
  · rw [if_pos hi]
    by_cases hi' : Identified pin e'
    · rw [if_pos hi']
      refine iff_of_true ?_ (iff_of_true hi hi')
      cases hp : loadPinned rt acquirer pin e with
      | ok p => rw [loadPinned_same h hp]
      | error err =>
        cases hp' : loadPinned rt acquirer pin e' with
        | ok p => exact nomatch hp.symm.trans (loadPinned_same h.symm hp')
        | error err' => rfl
    · rw [if_neg hi']
      refine iff_of_false ?_ fun hiff => hi' (hiff.mp hi)
      cases loadPinned rt acquirer pin e <;> simp
  · rw [if_neg hi]
    by_cases hi' : Identified pin e'
    · rw [if_pos hi']
      refine iff_of_false ?_ fun hiff => hi (hiff.mpr hi')
      cases loadPinned rt acquirer pin e' <;> simp
    · rw [if_neg hi']
      exact iff_of_true rfl (iff_of_false hi hi')

/-! ## The cache -/

/-- Every envelope has the digest it is kept under. -/
def Sound (rt : Runtime) (cache : RegistryReleaseCache) : Prop :=
  ∀ digest e, cache.entries digest = some e → registryReleaseDigest rt e = digest

theorem sound_empty : Sound rt .empty := nofun

variable {cache : RegistryReleaseCache}

theorem get_put : (cache.put rt digest e).get rt digest = some e :=
  Dict.set_self _ _ _

theorem Sound.put (h : Sound rt cache) {releaseDigest : String}
    (he : registryReleaseDigest rt e = rt.casefold releaseDigest) : Sound rt (cache.put rt releaseDigest e) := by
  intro digest e' hget
  change (cache.entries.set (rt.casefold releaseDigest) e) digest = some e' at hget
  by_cases hd : digest = rt.casefold releaseDigest
  · rw [hd, Dict.set_self, Option.some.injEq] at hget
    rw [hd, ← hget, he]
  · rw [Dict.set_ne hd] at hget
    exact h digest e' hget

theorem acquire_sound (h : Sound rt cache) :
    ∃ cache', (acquire rt acquirer (some cache) pin transport).2 = some cache' ∧ Sound rt cache' := by
  unfold acquire
  split
  · exact ⟨cache, rfl, h⟩
  · split
    · exact ⟨cache, rfl, h⟩
    · split
      · exact ⟨cache, rfl, h⟩
      · rename_i hfetched
        exact ⟨_, rfl, h.put (fetchPinned_ok.mp hfetched).2.2⟩

theorem cacheAfter_sound (calls : List Call) (h : Sound rt cache) :
    ∃ cache', cacheAfter rt acquirer (some cache) calls = some cache' ∧ Sound rt cache' := by
  induction calls generalizing cache with
  | nil => exact ⟨cache, rfl, h⟩
  | cons call calls ih =>
    obtain ⟨next, hnext, hsound⟩ : ∃ next, (acquire rt acquirer (some cache) call.pin call.transport).2 = some next ∧ Sound rt next :=
      acquire_sound h
    obtain ⟨cache', hafter, hsound'⟩ := ih hsound
    exact ⟨cache', by rw [← hafter, ← hnext]; rfl, hsound'⟩

/-! ## Transparency -/

/-- A release of the pinned digest is handed off as if it had been fetched from the pointer's source. -/
theorem reuse_eq (h : registryReleaseDigest rt e = rt.casefold pin.releaseDigest) :
    reuse rt acquirer pin pointer e = handOff rt acquirer pin e pointer.source [] := by
  rw [reuse, raiseIf, if_neg (not_not.mpr h)]
  rfl

/-- A call that finds nothing in the cache is handed what it is served, and keeps it. -/
theorem acquire_served (h : Serves rt pin transport pointer fetched) (ha : PinAccepted rt acquirer pin pointer)
    (ht : Trusted acquirer pin fetched) {cache : Option RegistryReleaseCache}
    (hnone : (cache.bind fun c => c.get rt pin.releaseDigest) = none) :
    acquire rt acquirer cache pin transport = (handOff rt acquirer pin fetched.envelope fetched.finalSource fetched.redirects,
      cache.map fun c => c.put rt pin.releaseDigest fetched.envelope) := by
  rw [acquire, resolvePinned_ok.mpr ⟨h.resolved, ha⟩]
  simp only [hnone, fetchPinned_ok.mpr ⟨h.found, ht, h.digest⟩]

/-- A call that finds a release of the pinned digest is handed that. -/
theorem acquire_found (h : Serves rt pin transport pointer fetched) (ha : PinAccepted rt acquirer pin pointer) (hget : cache.get rt pin.releaseDigest = some e)
    (he : registryReleaseDigest rt e = rt.casefold pin.releaseDigest) :
    acquire rt acquirer (some cache) pin transport = (handOff rt acquirer pin e pointer.source [], some cache) := by
  rw [acquire, resolvePinned_ok.mpr ⟨h.resolved, ha⟩]
  simp only [Option.bind_some, hget, reuse_eq he]

/-- With a sound cache. -/
theorem acquire_transparent_iff (hH : Function.Injective rt.sha256) (hB : Function.Injective rt.sha256Bytes) (hs : Sound rt cache) (h : Serves rt pin transport pointer fetched) :
    verdict (acquire rt acquirer (some cache) pin transport).1 = verdict (acquire rt acquirer none pin transport).1 ↔
      ¬ PinAccepted rt acquirer pin pointer ∨ ∀ cached, cache.get rt pin.releaseDigest = some cached →
        Trusted acquirer pin fetched ∧ (Identified pin cached ↔ Identified pin fetched.envelope) := by
  unfold acquire
  cases hresolve : resolvePinned rt acquirer pin transport with
  | error err =>
    have hnot : ¬ PinAccepted rt acquirer pin pointer := fun ha =>
      nomatch hresolve.symm.trans (resolvePinned_ok.mpr ⟨h.resolved, ha⟩)
    simp only [hnot, not_false_eq_true, true_or]
  | ok pointer' =>
    obtain ⟨hresolved, haccepted⟩ := resolvePinned_ok.mp hresolve
    obtain rfl : pointer = pointer' := Except.ok.inj (h.resolved.symm.trans hresolved)
    simp only [haccepted, not_true, false_or, Option.bind_some, Option.bind_none]
    cases hget : cache.get rt pin.releaseDigest with
    | none =>
      simp only [reduceCtorEq, false_implies, implies_true, iff_true]
      cases fetchPinned rt acquirer pin pointer transport with
      | error err => rfl
      | ok f => rfl
    | some cached =>
      have hcached : registryReleaseDigest rt cached = rt.casefold pin.releaseDigest := hs _ _ hget
      simp only [Option.some.injEq, forall_eq', reuse_eq hcached]
      cases hfetch : fetchPinned rt acquirer pin pointer transport with
      | ok f =>
        obtain ⟨hfound, htrusted, hdigest⟩ := fetchPinned_ok.mp hfetch
        obtain rfl : fetched = f := Except.ok.inj (h.found.symm.trans hfound)
        rw [loads_alike (sameContent_of_digest hH hB (hcached.trans hdigest.symm))]
        simp only [htrusted, true_and]
      | error err =>
        -- the cache hands a release off whose sources the policy refuses
        have hcause : err.cause = .inl .redirectUntrusted := fetchPinned_raises h err hfetch
        have hnot : ¬ Trusted acquirer pin fetched := fun ht =>
          nomatch hfetch.symm.trans (fetchPinned_ok.mpr ⟨h.found, ht, h.digest⟩)
        simp only [hnot, false_and, iff_false, verdict, hcause]
        change verdict (handOff rt acquirer pin cached pointer.source []) ≠ _
        rw [handOff_verdict]
        split
        · split
          · nofun
          · nofun
        · nofun

/-- After any calls on a new cache. -/
theorem cache_transparent_iff (hH : Function.Injective rt.sha256) (hB : Function.Injective rt.sha256Bytes) (history : List Call)
    (h : Serves rt pin transport pointer fetched) :
    verdict (acquire rt acquirer (cacheAfter rt acquirer (some .empty) history) pin transport).1 =
        verdict (acquire rt acquirer none pin transport).1 ↔
      ¬ PinAccepted rt acquirer pin pointer ∨
        ∀ cached, ((cacheAfter rt acquirer (some .empty) history).bind fun c => c.get rt pin.releaseDigest) = some cached →
          Trusted acquirer pin fetched ∧ (Identified pin cached ↔ Identified pin fetched.envelope) := by
  obtain ⟨cache, hcache, hsound⟩ : ∃ cache, cacheAfter rt acquirer (some .empty) history = some cache ∧ Sound rt cache :=
    cacheAfter_sound history sound_empty
  rw [hcache]
  exact acquire_transparent_iff hH hB hsound h

end

/-! ## Two tags of one release -/

namespace Sample

open Assurance (tabledDigest tabledDigest_injective)
open Agentic (hex)

def payload : Bytes := [1]

def key : Bytes := [7]

def numbers (b : Bytes) : Json := .arr (b.map fun x => .int x.toNat)

/-- A signature spells the document out. -/
def sign (doc : Json) : Bytes := doc.code.map fun c => .ofNat c.toNat

def runtimeOf (docs : List Json) : Runtime where
  toRuntime := .tabled docs
  sha256Bytes b := tabledDigest [numbers payload] (numbers b)
  verifies k signature doc := k = key ∧ signature = sign doc

def artifact : ModelArtifactManifest :=
  { artifactId := "weights", modelId := "model", revision := "1", publisherId := "publisher", source := "registry",
    artifactFormat := "onnx", sha256 := hex '0', sizeBytes := 1 }

def component : ModelPackageComponent :=
  { artifactId := "weights", role := .primaryModel, artifactFormat := "onnx", publisherId := "publisher", sha256 := hex '0',
    sizeBytes := 1 }

def manifest : ModelPackageManifest :=
  { packageId := "package", modelId := "model", revision := "1", publisherId := "publisher", components := [component] }

/-- The release, as it is published under `tag`. -/
def envelope (tag : String) : RegistryReleaseEnvelope :=
  { registryId := "registry", channel := "production", tag := tag, packageManifest := manifest,
    packageSignature := sign (canonicalPackageManifest manifest),
    artifacts := ⟨[("weights", ⟨artifact, sign (canonicalManifest artifact), payload⟩)], List.nodup_singleton _⟩ }

/-- Its document, which no tag is part of. -/
def document : Json := canonicalRegistryRelease (runtimeOf []) (envelope "stable")

def runtime : Runtime := runtimeOf [document]

def acquirer : ImmutableModelRegistryAcquirer where
  policy := {
    trustedRegistrySources := .mapping [("registry", ["registry"])]
    channelPins := fun (registry, channel, tag) =>
      if registry = "registry" ∧ channel = "production" ∧ tag ∈ ["stable", "candidate"] then some (hex '0') else none }
  packageLoader := {
    packagePublishers := .mapping [("publisher", key)]
    artifactPolicy := {
      trustedPublishers := .mapping [("publisher", key)]
      trustedSourcePrefixes := .mapping [("publisher", ["registry"])] }
    rolePublishers := fun _ => some ["publisher"] }

def pin (tag : String) : RegistryReleasePin := ⟨"registry", "production", tag, hex '0', "package", "model", "1"⟩

def pointer (tag : String) : RegistryReleasePointer := ⟨"registry", "production", tag, hex '0', "registry"⟩

def fetched (tag : String) : RegistryFetchResult := { envelope := envelope tag, finalSource := "registry" }

/-- A transport that resolves every tag to the release, and serves the envelope of `tag`. -/
def transport (tag : String) : ModelRegistryTransport where
  resolve _ _ tag' := .ok (pointer tag')
  fetchByDigest _ _ _ := .ok (fetched tag)

def package : VerifiedModelPackage :=
  { packageId := "package", modelId := "model", revision := "1", packagePublisherId := "publisher",
    componentArtifactIds := ["weights"], componentRoles := ["primary_model"], componentPublishers := ["publisher"] }

/-! ### Digests -/

theorem injective : Function.Injective runtime.sha256 ∧ Function.Injective runtime.sha256Bytes := by
  refine ⟨tabledDigest_injective _, fun a b h => ?_⟩
  have hnumbers : numbers a = numbers b := tabledDigest_injective _ h
  have hinj : Function.Injective fun x : UInt8 => Json.int x.toNat := by
    intro x y hxy
    exact UInt8.toNat_inj.mp (Int.ofNat.inj (Json.int.inj hxy))
  exact (List.map_injective_iff.mpr hinj) (Json.arr_injective hnumbers)

theorem payload_digest : runtime.sha256Bytes payload = hex '0' := Assurance.tabled_digest 0 (by simp) rfl (by simp)

theorem isSha256_pinned : isSha256 runtime.toRuntime (hex '0') := Assurance.isSha256_hex rfl

theorem digest_other {doc : Json} (h : doc ≠ document) : runtime.sha256 doc = (runtimeOf []).sha256 doc := by
  show tabledDigest [document] doc = tabledDigest [] doc
  simp [tabledDigest, List.idxOf_cons_ne _ (Ne.symm h)]

theorem release_digest (tag : String) : registryReleaseDigest runtime (envelope tag) = hex '0' := by
  have hartifact : canonicalManifest artifact ≠ document := by
    simp [canonicalManifest, document, canonicalRegistryRelease]
  have hmanifest : canonicalPackageManifest manifest ≠ document := by
    simp [canonicalPackageManifest, document, canonicalRegistryRelease]
  have hdocument : canonicalRegistryRelease runtime (envelope tag) = document := by
    have hitem : ∀ item ∈ sortOn Prod.fst (envelope tag).artifacts.items,
        releaseArtifact runtime item = releaseArtifact (runtimeOf []) item := by
      intro item hitem
      obtain rfl := List.mem_singleton.mp (mem_sortOn.mp hitem)
      simp only [releaseArtifact, digest_other hartifact]
      rfl
    have hpackage : runtime.sha256 (canonicalPackageManifest (envelope tag).packageManifest) =
        (runtimeOf []).sha256 (canonicalPackageManifest (envelope tag).packageManifest) := digest_other hmanifest
    rw [canonicalRegistryRelease, List.map_congr_left hitem, hpackage]
    rfl
  rw [registryReleaseDigest, hdocument]
  exact Assurance.tabled_digest 0 (by simp) rfl (by simp)

/-! ### Calls -/

theorem identified_iff {tag tag' : String} : Identified (pin tag) (envelope tag') ↔ tag' = tag := by
  constructor
  · exact fun h => h.tag
  · rintro rfl
    exact ⟨rfl, rfl, rfl, rfl, rfl, rfl, rfl⟩

theorem source_trusted : sourceAllowed "registry" ["registry"] := ⟨_, List.mem_singleton_self _, List.prefix_rfl⟩

theorem trusted (tag tag' : String) : Trusted acquirer (pin tag) (fetched tag') := by
  refine ⟨.inl rfl, fun source hs => ?_⟩
  obtain rfl := List.mem_singleton.mp hs
  exact source_trusted

theorem pin_accepted {tag : String} (h : tag ∈ ["stable", "candidate"]) : PinAccepted runtime acquirer (pin tag) (pointer tag) := by
  have htag : tag ≠ "" := by
    rintro rfl
    simp at h
  have hascii : ascii (runtime.casefold (hex '0')) := ascii_digest isSha256_pinned
  refine ⟨⟨by simp [pin], by simp [pin], htag, by simp [pin], by simp [pin], by simp [pin]⟩, isSha256_pinned, ?_,
    ⟨hex '0', if_pos ⟨rfl, rfl, h⟩, hascii, rfl⟩, ⟨rfl, rfl, rfl⟩, ⟨hascii, rfl⟩, source_trusted⟩
  show ["registry"] ≠ []
  simp

theorem component_valid : component.Valid runtime acquirer.packageLoader manifest.ids :=
  ⟨by decide, by simp [component], by simp [component], isSha256_pinned, by simp [component], List.not_mem_nil, List.nodup_nil,
    by simp [component]⟩

theorem manifest_valid : manifest.Valid runtime acquirer.packageLoader where
  schema := rfl
  package := by simp [manifest]
  model := by simp [manifest]
  revision := by simp [manifest]
  publisher := by simp [manifest]
  some := by simp [manifest]
  named := by simp [ModelPackageManifest.ids, manifest, component]
  distinct := List.nodup_singleton _
  components c hc := by
    obtain rfl := List.mem_singleton.mp hc
    exact component_valid
  primary := rfl
  acyclic x _ hcycle := by
    obtain ⟨y, ⟨c, hc, -, hy⟩, -⟩ := Relation.TransGen.head'_iff.mp hcycle
    obtain rfl := List.mem_singleton.mp hc
    exact List.not_mem_nil hy

theorem artifact_loaded : ∃ handle, loadArtifact runtime acquirer.packageLoader.artifactPolicy
    ⟨component.artifactId, manifest.modelId, manifest.revision⟩ artifact (sign (canonicalManifest artifact)) payload = .ok handle ∧
      handle.publisherId = "publisher" := by
  simp only [loadArtifact, validateManifestShape, ok_bind, raiseIf_ok, orRaise_ok, exists_const]
  refine ⟨_, ⟨⟨by simp [artifact], by simp [artifact], by simp [artifact], by simp [artifact], not_not.mpr isSha256_pinned⟩,
    by simp [component, manifest, artifact], key, rfl, not_not.mpr source_trusted, ?_, ?_, ?_, ?_, ?_, rfl⟩, rfl⟩
  · show ¬ "onnx" ∉ ["safetensors", "onnx"]
    simp
  · show ¬ (1 : Int) > 1073741824
    simp
  · simp [payload, artifact]
  · rw [payload_digest]
    exact not_not.mpr rfl
  · simp [runtime, runtimeOf]

theorem component_loaded (tag : String) : ∃ handle, loadComponent runtime acquirer.packageLoader manifest (envelope tag).artifacts
    component = .ok (component, handle) ∧ handle.publisherId = "publisher" := by
  obtain ⟨handle, hhandle, hpublisher⟩ := artifact_loaded
  have hallowed : artifact.publisherId ∈ ["publisher"] := List.mem_singleton_self _
  exact ⟨handle, loadComponent_ok.mpr ⟨⟨artifact, sign (canonicalManifest artifact), payload⟩, rfl, rfl, rfl, rfl, hallowed, rfl,
    hhandle, rfl⟩, hpublisher⟩

theorem loaded (tag tag' : String) : loadPinned runtime acquirer (pin tag) (envelope tag') = .ok package := by
  obtain ⟨handle, hhandle, hpublisher⟩ := component_loaded tag'
  simp only [loadPinned, load, ok_bind, validateManifest_ok, raiseIf_ok, orRaise_ok, forEach_ok, exists_const]
  refine ⟨manifest_valid, by simp [pin, envelope, manifest], key, rfl, by simp [runtime, runtimeOf, envelope],
    by simp [envelope, manifest], ?_, ?_, [(component, handle)], ?_, ?_⟩
  · intro c hc
    obtain rfl := List.mem_singleton.mp hc
    simp [component]
  · rw [not_not]
    exact ⟨fun id hid => hid, fun id hid => hid⟩
  · exact gather_ok.mpr (.cons hhandle .nil)
  · simp only [List.map_cons, List.map_nil, hpublisher]
    rfl

theorem handed {tag tag' finalSource : String} {redirects : List String} :
    verdict (handOff runtime acquirer (pin tag) (fetched tag').envelope finalSource redirects) =
      if tag' = tag then .ok package else .error (.inl .releaseIdentityMismatch) := by
  rw [handOff_verdict, show (fetched tag').envelope = envelope tag' from rfl]
  by_cases h : tag' = tag
  · rw [if_pos h, if_pos (identified_iff.mpr h), loaded]
  · rw [if_neg h, if_neg (mt identified_iff.mp h)]

theorem serves (tag tag' : String) : Serves runtime (pin tag) (transport tag') (pointer tag) (fetched tag') :=
  ⟨rfl, rfl, release_digest tag'⟩

section
variable {tag tag' : String} (htag : tag ∈ ["stable", "candidate"])
include htag

/-- A call that finds nothing in the cache. -/
theorem acquire_fresh {cache : Option RegistryReleaseCache} (hnone : (cache.bind fun c => c.get runtime (pin tag).releaseDigest) = none) :
    verdict (acquire runtime acquirer cache (pin tag) (transport tag')).1 =
      if tag' = tag then .ok package else .error (.inl .releaseIdentityMismatch) := by
  rw [acquire_served (serves tag tag') (pin_accepted htag) (trusted tag tag') hnone]
  rw [handed]

/-- What a call on a new cache was served is what every later call finds. -/
theorem acquire_after {first served : String} (hfirst : first ∈ ["stable", "candidate"]) :
    verdict (acquire runtime acquirer (cacheAfter runtime acquirer (some .empty) [⟨pin first, transport tag'⟩]) (pin tag)
      (transport served)).1 = if tag' = tag then .ok package else .error (.inl .releaseIdentityMismatch) := by
  have hcache : cacheAfter runtime acquirer (some .empty) [⟨pin first, transport tag'⟩] =
      some (RegistryReleaseCache.empty.put runtime (pin first).releaseDigest (fetched tag').envelope) := by
    rw [cacheAfter, List.foldl_cons, List.foldl_nil, acquire_served (serves first tag') (pin_accepted hfirst) (trusted first tag') rfl]
    rfl
  have hget : (RegistryReleaseCache.empty.put runtime (pin first).releaseDigest (fetched tag').envelope).get runtime
      (pin tag).releaseDigest = some (fetched tag').envelope := get_put
  rw [hcache, acquire_found (serves tag served) (pin_accepted htag) hget (release_digest tag')]
  rw [handed]

end

end Sample

open Sample Agentic in
/-- The release is published under two tags, and honestly served for both. Each tag is acquired without a
    cache; with one, the second is refused. So is a tag for which the envelope of the other came first, which
    was refused then. -/
theorem second_tag_refused :
    Function.Injective runtime.sha256 ∧ Function.Injective runtime.sha256Bytes ∧
      Serves runtime (pin "candidate") (transport "candidate") (pointer "candidate") (fetched "candidate") ∧
      verdict (acquire runtime acquirer none (pin "candidate") (transport "candidate")).1 = .ok package ∧
      (verdict (acquire runtime acquirer (some .empty) (pin "stable") (transport "stable")).1 = .ok package ∧
        verdict (acquire runtime acquirer (cacheAfter runtime acquirer (some .empty) [⟨pin "stable", transport "stable"⟩])
          (pin "candidate") (transport "candidate")).1 = .error (.inl .releaseIdentityMismatch)) ∧
      verdict (acquire runtime acquirer (some .empty) (pin "candidate") (transport "stable")).1 =
          .error (.inl .releaseIdentityMismatch) ∧
        verdict (acquire runtime acquirer (cacheAfter runtime acquirer (some .empty) [⟨pin "candidate", transport "stable"⟩])
          (pin "candidate") (transport "candidate")).1 = .error (.inl .releaseIdentityMismatch) := by
  have hstable : "stable" ∈ ["stable", "candidate"] := by simp
  have hcandidate : "candidate" ∈ ["stable", "candidate"] := by simp
  have hne : "stable" ≠ "candidate" := by decide
  refine ⟨injective.1, injective.2, serves _ _, ?_, ⟨?_, ?_⟩, ?_, ?_⟩
  · rw [acquire_fresh hcandidate rfl, if_pos rfl]
  · rw [acquire_fresh hstable rfl, if_pos rfl]
  · rw [acquire_after hcandidate hstable, if_neg hne]
  · rw [acquire_fresh hcandidate rfl, if_neg hne]
  · rw [acquire_after hcandidate hcandidate, if_neg hne]

open Sample in
theorem cache_transparent_candidate :
    verdict (acquire runtime acquirer (cacheAfter runtime acquirer (some .empty) []) (pin "candidate") (transport "candidate")).1 =
      verdict (acquire runtime acquirer none (pin "candidate") (transport "candidate")).1 :=
  (cache_transparent_iff injective.1 injective.2 [] (serves "candidate" "candidate")).mpr (.inr nofun)

end Aegis.Registry
