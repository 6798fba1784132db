/-
  Aegis.Registry.KeyLifecycle — which signing keys the P5-D verifier lets through, and when (key_lifecycle.py).

  A key carries a state, set by hand, and times: of its validity, its retirement and its revocation. The verifier
  reads revocation off the state and off the clock, and retirement off the state alone.
  - `verify_ok`: what is verified is `Bound` to its key, which no clock changes, and `Timely`.
  - `in_force_iff`: a verified key is in force whenever it is verified, and stays out once it has expired or been
    revoked or retired, exactly when the clock retires no unflagged key that is otherwise good (`Overdue`).
  - `overdue_accepted`: a key whose retirement has come verifies a new signature.
-/

import Aegis.Registry.Artifact

namespace Aegis.Registry

open Data Data.Checks
open Assurance (isSha256)

def P5D_SIGNATURE_ENVELOPE_SCHEMA_VERSION : String := "aegis-provenance-signature-envelope-v1"

inductive SigningKeyUsage where
  | modelArtifact
  | modelPackage
  deriving DecidableEq, Repr

def SigningKeyUsage.value : SigningKeyUsage → String
  | modelArtifact => "model_artifact"
  | modelPackage => "model_package"

inductive SigningKeyState where
  | active
  | retired
  | revoked
  deriving DecidableEq, Repr

inductive KeyLifecycleRejectReason where
  | policyInvalid
  | signatureEnvelopeInvalid
  | keyUnknown
  | issuerUntrusted
  | issuerMismatch
  | publisherMismatch
  | usageMismatch
  | keyNotYetValid
  | keyExpired
  | keyRetired
  | keyRevoked
  | signedAtInvalid
  | subjectMismatch
  | signatureInvalid
  deriving DecidableEq, Repr

/-- What the verifier raises: `KeyLifecycleRejected`, or the AssertionError of a retired key without a time. -/
inductive KeyLifecycleError where
  | rejected (reason : KeyLifecycleRejectReason) (message : String) (keyId : Option String)
  | assertion
  deriving DecidableEq, Repr

structure SigningKeyRecord where
  keyId : String
  issuerId : String
  publisherId : String
  publicKey : Bytes
  usages : List SigningKeyUsage
  validFrom : Int
  validUntil : Int
  state : SigningKeyState := .active
  retiredAt : Option Int := none
  revokedAt : Option Int := none
  successorKeyId : Option String := none
  deriving DecidableEq

structure BoundProvenanceSignature where
  keyId : String
  issuerId : String
  publisherId : String
  usage : SigningKeyUsage
  signedAt : Int
  subjectSha256 : String
  signature : Bytes
  legacySignature : Bytes
  schemaVersion : String := P5D_SIGNATURE_ENVELOPE_SCHEMA_VERSION

/-- The `Mapping` of keys, by key id. -/
structure Keyring where
  items : List (String × SigningKeyRecord)
  nodup : (items.map Prod.fst).Nodup

def Keyring.get (keys : Keyring) (id : String) : Option SigningKeyRecord := (keys.items.find? fun p => p.1 = id).map Prod.snd

structure KeyLifecyclePolicy where
  keys : Keyring
  trustedIssuers : List String
  evaluationTime : Int
  maxFutureSkewSeconds : Int := 0
  acceptRetiredSignatures : Bool := false

/-- The same keyring and rules, at another evaluation time. -/
def KeyLifecyclePolicy.at (p : KeyLifecyclePolicy) (t : Int) : KeyLifecyclePolicy := { p with evaluationTime := t }

/-- `canonical_bound_signature_bytes`. -/
def canonicalBoundSignature (s : BoundProvenanceSignature) : Json := .obj [
  ("issuer_id", .str s.issuerId), ("key_id", .str s.keyId), ("publisher_id", .str s.publisherId),
  ("schema_version", .str s.schemaVersion), ("signed_at", .int s.signedAt), ("subject_sha256", .str s.subjectSha256),
  ("usage", .str s.usage.value)]

/-! ## The policy -/

/-- `text or None`. -/
def orNone (text : String) : Option String := if text = "" then none else some text

/-- `_validate_record`. -/
def validateRecord (r : SigningKeyRecord) : Except KeyLifecycleError Unit := do
  raiseIf (r.keyId = "" ∨ r.issuerId = "" ∨ r.publisherId = "")
    (.rejected .policyInvalid "key identity fields must be non-empty" (orNone r.keyId))
  raiseIf (r.publicKey.length ≠ 32) (.rejected .policyInvalid "Ed25519 public key must be 32 bytes" (some r.keyId))
  raiseIf (r.usages = []) (.rejected .policyInvalid "key must authorize at least one provenance usage" (some r.keyId))
  raiseIf (r.validFrom < 0 ∨ r.validUntil ≤ r.validFrom) (.rejected .policyInvalid "key validity window is invalid" (some r.keyId))
  raiseIf (r.state = .retired ∧ r.retiredAt = none) (.rejected .policyInvalid "retired key must declare retired_at" (some r.keyId))
  raiseIf (r.state = .revoked ∧ r.revokedAt = none) (.rejected .policyInvalid "revoked key must declare revoked_at" (some r.keyId))
  raiseIf (∃ t ∈ r.retiredAt, t < r.validFrom) (.rejected .policyInvalid "retirement precedes key validity" (some r.keyId))
  raiseIf (∃ t ∈ r.revokedAt, t < r.validFrom) (.rejected .policyInvalid "revocation precedes key validity" (some r.keyId))

/-- The body of the loop of `_validate_policy`; `seen` are the entries before. -/
def validateKey (seen : List (String × SigningKeyRecord)) (entry : String × SigningKeyRecord) : Except KeyLifecycleError Unit := do
  validateRecord entry.2
  raiseIf (entry.1 ≠ entry.2.keyId)
    (.rejected .policyInvalid "keyring mapping key must equal record key_id" (some entry.2.keyId))
  raiseIf (entry.2.keyId ∈ seen.map (·.2.keyId)) (.rejected .policyInvalid "duplicate key ID" (some entry.2.keyId))
  raiseIf (entry.2.successorKeyId = some entry.2.keyId)
    (.rejected .policyInvalid "key may not supersede itself" (some entry.2.keyId))

/-- `_validate_policy`. -/
def validatePolicy (p : KeyLifecyclePolicy) : Except KeyLifecycleError Unit := do
  raiseIf (p.evaluationTime < 0 ∨ p.maxFutureSkewSeconds < 0)
    (.rejected .policyInvalid "evaluation time and future skew must be non-negative" none)
  raiseIf (p.trustedIssuers = []) (.rejected .policyInvalid "at least one provenance issuer must be trusted" none)
  scan validateKey [] p.keys.items

/-! ## The verifier -/

section
variable (rt : Runtime)

/-- `if record.state is SigningKeyState.RETIRED`, in `verify`. -/
def verifyUnretired (p : KeyLifecyclePolicy) (s : BoundProvenanceSignature) (r : SigningKeyRecord) : Except KeyLifecycleError Unit :=
  if r.state = .retired then do
    raiseIf (p.acceptRetiredSignatures = false)
      (.rejected .keyRetired "signer key was retired during controlled rotation" (some r.keyId))
    let retiredAt ← orRaise .assertion r.retiredAt
    raiseIf (s.signedAt ≥ retiredAt)
      (.rejected .keyRetired "retired signer key was used at or after retirement" (some r.keyId))
  else .ok ()

/-- `KeyLifecycleVerifier.verify`; the subject is the document whose bytes are signed. -/
def verify (p : KeyLifecyclePolicy) (subject : Json) (expectedPublisherId : String) (expectedUsage : SigningKeyUsage)
    (s : BoundProvenanceSignature) : Except KeyLifecycleError SigningKeyRecord := do
  raiseIf (s.schemaVersion ≠ P5D_SIGNATURE_ENVELOPE_SCHEMA_VERSION)
    (.rejected .signatureEnvelopeInvalid "unsupported provenance signature envelope schema" (some s.keyId))
  raiseIf (s.keyId = "" ∨ s.issuerId = "" ∨ s.publisherId = "")
    (.rejected .signatureEnvelopeInvalid "signature envelope identity fields must be non-empty" (orNone s.keyId))
  raiseIf (¬ isSha256 rt.toRuntime s.subjectSha256)
    (.rejected .signatureEnvelopeInvalid "signature envelope subject digest must be SHA-256 hex" (some s.keyId))
  let r ← orRaise (.rejected .keyUnknown "signature references an unknown key ID" (some s.keyId)) (p.keys.get s.keyId)
  raiseIf (r.issuerId ∉ p.trustedIssuers)
    (.rejected .issuerUntrusted "key issuer is not trusted by deployment policy" (some r.keyId))
  raiseIf (s.issuerId ≠ r.issuerId) (.rejected .issuerMismatch "signature issuer does not match key record" (some r.keyId))
  raiseIf (s.publisherId ≠ expectedPublisherId ∨ r.publisherId ≠ expectedPublisherId)
    (.rejected .publisherMismatch "signing key is not bound to the expected publisher" (some r.keyId))
  raiseIf (s.usage ≠ expectedUsage ∨ expectedUsage ∉ r.usages)
    (.rejected .usageMismatch "signing key is not authorized for this provenance usage" (some r.keyId))
  raiseIf (rt.sha256 subject ≠ rt.casefold s.subjectSha256)
    (.rejected .subjectMismatch "bound signature does not match the provenance subject" (some r.keyId))
  raiseIf (s.signedAt > p.evaluationTime + p.maxFutureSkewSeconds)
    (.rejected .signedAtInvalid "signature timestamp is in the future beyond policy skew" (some r.keyId))
  raiseIf (s.signedAt < r.validFrom) (.rejected .keyNotYetValid "signature predates signer key validity" (some r.keyId))
  raiseIf (s.signedAt > r.validUntil) (.rejected .keyExpired "signature was created after signer key expiry" (some r.keyId))
  raiseIf (p.evaluationTime < r.validFrom)
    (.rejected .keyNotYetValid "signer key is not yet valid at policy evaluation time" (some r.keyId))
  raiseIf (p.evaluationTime > r.validUntil)
    (.rejected .keyExpired "signer key is expired at policy evaluation time" (some r.keyId))
  raiseIf (r.state = .revoked ∨ ∃ t ∈ r.revokedAt, p.evaluationTime ≥ t)
    (.rejected .keyRevoked "signer key is revoked by current deployment policy" (some r.keyId))
  verifyUnretired p s r
  raiseIf (rt.verifies r.publicKey s.signature (canonicalBoundSignature s) = false)
    (.rejected .signatureInvalid "provenance lifecycle signature verification failed" (some r.keyId))
  return r

end

/-! ## Keys over time -/

def Expired (r : SigningKeyRecord) (t : Int) : Prop := r.validUntil < t

def Revoked (r : SigningKeyRecord) (t : Int) : Prop := r.state = .revoked ∨ ∃ since ∈ r.revokedAt, since ≤ t

def Retired (r : SigningKeyRecord) (t : Int) : Prop := r.state = .retired ∨ ∃ since ∈ r.retiredAt, since ≤ t

/-- Signatures of retired keys are accepted, and this one is from before the retirement. -/
def Tolerated (p : KeyLifecyclePolicy) (r : SigningKeyRecord) (s : BoundProvenanceSignature) : Prop :=
  p.acceptRetiredSignatures = true ∧ ∃ since ∈ r.retiredAt, s.signedAt < since

/-- The key is in force at the evaluation time, for this signature. -/
structure InForce (p : KeyLifecyclePolicy) (r : SigningKeyRecord) (s : BoundProvenanceSignature) : Prop where
  begun : r.validFrom ≤ p.evaluationTime
  unexpired : ¬ Expired r p.evaluationTime
  unrevoked : ¬ Revoked r p.evaluationTime
  unretired : ¬ Retired r p.evaluationTime ∨ Tolerated p r s

/-- From `t` to `t'` the key has expired, or been revoked or retired. -/
def Falls (r : SigningKeyRecord) (t t' : Int) : Prop :=
  (¬ Expired r t ∧ Expired r t') ∨ (¬ Revoked r t ∧ Revoked r t') ∨ (¬ Retired r t ∧ Retired r t')

/-- The clock retires the key while nothing else is against it: it is not flagged as retired, has not expired by
    then and is not revoked. -/
def Overdue (r : SigningKeyRecord) : Prop :=
  r.state ≠ .retired ∧ ∃ since ∈ r.retiredAt, ¬ Expired r since ∧ ¬ Revoked r since

theorem Expired.later {r : SigningKeyRecord} {t t' : Int} (h : Expired r t) (ht : t ≤ t') : Expired r t' := by
  unfold Expired at *
  omega

theorem Revoked.later {r : SigningKeyRecord} {t t' : Int} (h : Revoked r t) (ht : t ≤ t') : Revoked r t' := by
  rcases h with hstate | ⟨since, hsince, hle⟩
  · exact .inl hstate
  · exact .inr ⟨since, hsince, hle.trans ht⟩

/-! ## What is verified -/

variable {rt : Runtime} {p : KeyLifecyclePolicy} {subject : Json} {publisherId : String} {usage : SigningKeyUsage}
  {s : BoundProvenanceSignature} {r r' : SigningKeyRecord}

/-- The envelope is one of the key, for the subject; the evaluation time is not part of it. -/
structure Bound (rt : Runtime) (p : KeyLifecyclePolicy) (subject : Json) (publisherId : String) (usage : SigningKeyUsage)
    (s : BoundProvenanceSignature) (r : SigningKeyRecord) : Prop where
  schema : s.schemaVersion = P5D_SIGNATURE_ENVELOPE_SCHEMA_VERSION
  named : s.keyId ≠ "" ∧ s.issuerId ≠ "" ∧ s.publisherId ≠ ""
  digest : isSha256 rt.toRuntime s.subjectSha256
  key : p.keys.get s.keyId = some r
  trusted : r.issuerId ∈ p.trustedIssuers
  issuer : s.issuerId = r.issuerId
  publisher : s.publisherId = publisherId ∧ r.publisherId = publisherId
  usage : s.usage = usage ∧ usage ∈ r.usages
  subject : rt.sha256 subject = rt.casefold s.subjectSha256
  verifies : rt.verifies r.publicKey s.signature (canonicalBoundSignature s) = true

/-- The times at which the key and the signature are let through. -/
structure Timely (p : KeyLifecyclePolicy) (s : BoundProvenanceSignature) (r : SigningKeyRecord) : Prop where
  past : s.signedAt ≤ p.evaluationTime + p.maxFutureSkewSeconds
  signed : r.validFrom ≤ s.signedAt ∧ s.signedAt ≤ r.validUntil
  begun : r.validFrom ≤ p.evaluationTime
  unexpired : ¬ Expired r p.evaluationTime
  unrevoked : ¬ Revoked r p.evaluationTime
  flagged : r.state = .retired → Tolerated p r s

theorem verifyUnretired_ok {u : Unit} : verifyUnretired p s r = .ok u ↔ (r.state = .retired → Tolerated p r s) := by
  unfold verifyUnretired
  by_cases hstate : r.state = .retired
  · simp only [hstate, if_true, ok_bind, raiseIf_ok, orRaise_ok, exists_const, Bool.not_eq_false, ge_iff_le, not_le, Tolerated,
      Option.mem_def, forall_const]
  · simp only [hstate, if_false, false_implies]

theorem verify_ok : verify rt p subject publisherId usage s = .ok r ↔
    Bound rt p subject publisherId usage s r ∧ Timely p s r := by
  simp only [verify, ok_bind, raiseIf_ok, orRaise_ok, verifyUnretired_ok, exists_const, not_or, not_not, Bool.not_eq_false,
    gt_iff_lt, not_lt, ge_iff_le]
  constructor
  · rintro ⟨hschema, hnamed, hdigest, key, hkey, htrusted, hissuer, hpublisher, husage, hsubject, hpast, hfrom, huntil, hbegun,
      hunexpired, hunrevoked, hflagged, hverifies, he⟩
    obtain rfl : key = r := Except.ok.inj he
    exact ⟨⟨hschema, hnamed, hdigest, hkey, htrusted, hissuer, hpublisher, husage, hsubject, hverifies⟩,
      ⟨hpast, ⟨hfrom, huntil⟩, hbegun, not_lt.mpr hunexpired, not_or.mpr hunrevoked, hflagged⟩⟩
  · rintro ⟨hb, ht⟩
    exact ⟨hb.schema, hb.named, hb.digest, r, hb.key, hb.trusted, hb.issuer, hb.publisher, hb.usage, hb.subject, ht.past, ht.signed.1,
      ht.signed.2, ht.begun, not_lt.mp ht.unexpired, not_or.mp ht.unrevoked, ht.flagged, hb.verifies, rfl⟩

/-- A signature is bound to its key at any evaluation time alike. -/
theorem Bound.at (t : Int) (h : Bound rt p subject publisherId usage s r) : Bound rt (p.at t) subject publisherId usage s r :=
  ⟨h.schema, h.named, h.digest, h.key, h.trusted, h.issuer, h.publisher, h.usage, h.subject, h.verifies⟩

theorem Bound.unique (h : Bound rt p subject publisherId usage s r) (h' : Bound rt p subject publisherId usage s r') : r = r' :=
  Option.some.inj (h.key.symm.trans h'.key)

/-- What has been verified is verified at every time that its own times allow. -/
theorem verify_at {t : Int} (h : verify rt p subject publisherId usage s = .ok r) (hpast : s.signedAt ≤ t + p.maxFutureSkewSeconds)
    (hbegun : r.validFrom ≤ t) (hunexpired : ¬ Expired r t) (hunrevoked : ¬ Revoked r t) :
    verify rt (p.at t) subject publisherId usage s = .ok r := by
  obtain ⟨hb, ht⟩ := verify_ok.mp h
  exact verify_ok.mpr ⟨hb.at t, hpast, ht.signed, hbegun, hunexpired, hunrevoked, ht.flagged⟩

/-! ## Valid policies -/

theorem validatePolicy_ok {u : Unit} : validatePolicy p = .ok u ↔ (0 ≤ p.evaluationTime ∧ 0 ≤ p.maxFutureSkewSeconds) ∧
    p.trustedIssuers ≠ [] ∧ scan validateKey [] p.keys.items = .ok () := by
  simp only [validatePolicy, ok_bind, raiseIf_ok, exists_const, not_or, not_lt, ne_eq]

/-- A policy that is valid stays so at any other evaluation time. -/
theorem valid_at {t : Int} (h : validatePolicy p = .ok ()) (ht : 0 ≤ t) : validatePolicy (p.at t) = .ok () := by
  obtain ⟨⟨-, hskew⟩, hissuers, hkeys⟩ := validatePolicy_ok.mp h
  exact validatePolicy_ok.mpr ⟨⟨ht, hskew⟩, hissuers, hkeys⟩

/-- The keys of a valid policy are not retired before they are valid, nor valid before time begins. -/
theorem key_of_policy {id : String} (h : validatePolicy p = .ok ()) (hr : p.keys.get id = some r) :
    0 ≤ r.validFrom ∧ ∀ since ∈ r.retiredAt, r.validFrom ≤ since := by
  obtain ⟨-, -, hkeys⟩ := validatePolicy_ok.mp h
  have hall := (@scan_keys_ok _ _ _ _ _ _ (fun e : String × SigningKeyRecord => e.2.keyId)
    (fun e => validateRecord e.2 = .ok () ∧ e.1 = e.2.keyId ∧ e.2.successorKeyId ≠ some e.2.keyId) _ (fun seen e => by
      simp only [validateKey, ok_bind, raiseIf_ok, exists_const, not_not]
      tauto)).mp hkeys
  obtain ⟨entry, hentry, rfl⟩ := Option.map_eq_some_iff.mp hr
  have hrecord := (hall.1 entry (List.mem_of_find?_eq_some hentry)).1
  simp only [validateRecord, ok_bind, raiseIf_ok, exists_const, not_or, not_lt] at hrecord
  obtain ⟨-, -, -, ⟨hfrom, -⟩, -, -, hretired, -⟩ := hrecord
  exact ⟨hfrom, fun since hsince => not_lt.mp fun hlt => hretired ⟨since, hsince, hlt⟩⟩

/-! ## Keys in force -/

/-- Whenever the signature is verified, its key is in force. -/
def InForceWhenever (rt : Runtime) (p : KeyLifecyclePolicy) (subject : Json) (publisherId : String) (usage : SigningKeyUsage)
    (s : BoundProvenanceSignature) : Prop :=
  ∀ t, validatePolicy (p.at t) = .ok () → ∀ r, verify rt (p.at t) subject publisherId usage s = .ok r → InForce (p.at t) r s

/-- A key that was let through and has fallen out by some time is let through at no time from then on. -/
def LostForGood (rt : Runtime) (p : KeyLifecyclePolicy) (subject : Json) (publisherId : String) (usage : SigningKeyUsage)
    (s : BoundProvenanceSignature) : Prop :=
  ∀ t t' t'', t ≤ t' → t' ≤ t'' → validatePolicy (p.at t) = .ok () → ∀ r, verify rt (p.at t) subject publisherId usage s = .ok r →
    Falls r t t' → ∀ r', verify rt (p.at t'') subject publisherId usage s ≠ .ok r'

theorem overdue_of_retired {t t' : Int} (hretired : Retired r t) (hstate : r.state ≠ .retired) (ht : t ≤ t')
    (hunexpired : ¬ Expired r t') (hunrevoked : ¬ Revoked r t') : Overdue r := by
  obtain ⟨since, hsince, hle⟩ := hretired.resolve_left hstate
  exact ⟨hstate, since, hsince, fun hc => hunexpired (hc.later (hle.trans ht)), fun hc => hunrevoked (hc.later (hle.trans ht))⟩

theorem inForce_of_timely (h : Timely p s r) (hor : ¬ Overdue r ∨ Tolerated p r s) : InForce p r s := by
  refine ⟨h.begun, h.unexpired, h.unrevoked, ?_⟩
  by_cases hstate : r.state = .retired
  · exact .inr (h.flagged hstate)
  · rcases hor with hoverdue | htolerated
    · exact .inl fun hretired => hoverdue (overdue_of_retired hretired hstate (le_refl _) h.unexpired h.unrevoked)
    · exact .inr htolerated

theorem lostForGood_of_not_overdue (h : verify rt p subject publisherId usage s = .ok r) (hoverdue : ¬ Overdue r) :
    LostForGood rt p subject publisherId usage s := by
  intro t t' t'' htt ht' _ r₀ h₀ hfalls r₂ h₂
  obtain ⟨hb, -⟩ := verify_ok.mp h
  obtain ⟨hb₀, -⟩ := verify_ok.mp h₀
  obtain ⟨hb₂, ht₂⟩ := verify_ok.mp h₂
  obtain rfl := (hb.at t).unique hb₀
  obtain rfl := (hb.at t'').unique hb₂
  rcases hfalls with ⟨-, hexpired⟩ | ⟨-, hrevoked⟩ | ⟨hnot, hretired⟩
  · exact ht₂.unexpired (hexpired.later ht')
  · exact ht₂.unrevoked (hrevoked.later ht')
  · exact hoverdue (overdue_of_retired hretired (fun hc => hnot (.inl hc)) ht' ht₂.unexpired ht₂.unrevoked)

/-- A key that is good when the clock retires it is let through once it is retired. -/
theorem verified_retired (hpolicy : validatePolicy p = .ok ()) (h : verify rt p subject publisherId usage s = .ok r) {since : Int}
    (hsince : since ∈ r.retiredAt) (hunexpired : ¬ Expired r since) (hunrevoked : ¬ Revoked r since) :
    ∃ t, validatePolicy (p.at t) = .ok () ∧ verify rt (p.at t) subject publisherId usage s = .ok r ∧ since ≤ t := by
  obtain ⟨hb, ht⟩ := verify_ok.mp h
  obtain ⟨hfrom, hretired⟩ := key_of_policy hpolicy hb.key
  have hbegun := hretired since hsince
  by_cases hlt : p.evaluationTime < since
  · have hpast := ht.past
    exact ⟨since, valid_at hpolicy (hfrom.trans hbegun), verify_at h (by omega) hbegun hunexpired hunrevoked, le_refl _⟩
  · exact ⟨p.evaluationTime, hpolicy, h, not_lt.mp hlt⟩

/-- Where a tolerated signature has been verified, it could have been just before its key was retired. -/
theorem verified_before (hpolicy : validatePolicy p = .ok ()) (h : verify rt p subject publisherId usage s = .ok r) {since : Int}
    (hsigned : s.signedAt < since) (hunexpired : ¬ Expired r since) (hunrevoked : ¬ Revoked r since) :
    validatePolicy (p.at (since - 1)) = .ok () ∧ verify rt (p.at (since - 1)) subject publisherId usage s = .ok r := by
  obtain ⟨hb, ht⟩ := verify_ok.mp h
  obtain ⟨hfrom, -⟩ := key_of_policy hpolicy hb.key
  obtain ⟨⟨-, hskew⟩, -⟩ := validatePolicy_ok.mp hpolicy
  have hbegun : r.validFrom ≤ since - 1 := by
    have hsignedFrom := ht.signed.1
    omega
  refine ⟨valid_at hpolicy (hfrom.trans hbegun), verify_at h (by omega) hbegun ?_ ?_⟩
  · exact fun hc => hunexpired (hc.later (by omega))
  · exact fun hc => hunrevoked (hc.later (by omega))

/-- A signature that is verified at some time has its key in force whenever it is verified, and loses it for good,
    exactly when the key is not overdue; the first of the two also when the policy tolerates the signature. -/
theorem in_force_iff (p : KeyLifecyclePolicy) (subject : Json) (publisherId : String) (usage : SigningKeyUsage)
    (s : BoundProvenanceSignature) (r : SigningKeyRecord) (hpolicy : validatePolicy p = .ok ())
    (h : verify rt p subject publisherId usage s = .ok r) :
    (InForceWhenever rt p subject publisherId usage s ∧ LostForGood rt p subject publisherId usage s ↔ ¬ Overdue r) ∧
      (InForceWhenever rt p subject publisherId usage s ↔ ¬ Overdue r ∨ Tolerated p r s) := by
  obtain ⟨hb, -⟩ := verify_ok.mp h
  have hkept : ¬ Overdue r ∨ Tolerated p r s → InForceWhenever rt p subject publisherId usage s := by
    intro hor t _ r' h'
    obtain ⟨hb', ht'⟩ := verify_ok.mp h'
    obtain rfl := (hb.at t).unique hb'
    exact inForce_of_timely ht' hor
  have htolerated : InForceWhenever rt p subject publisherId usage s → Overdue r → Tolerated p r s := by
    intro hforce hoverdue
    obtain ⟨hstate, since, hsince, hunexpired, hunrevoked⟩ := hoverdue
    obtain ⟨t, hvalid, hverified, hle⟩ := verified_retired hpolicy h hsince hunexpired hunrevoked
    exact (hforce t hvalid r hverified).unretired.resolve_left fun hc => hc (.inr ⟨since, hsince, hle⟩)
  refine ⟨⟨?_, fun hoverdue => ⟨hkept (.inl hoverdue), lostForGood_of_not_overdue h hoverdue⟩⟩, ?_, hkept⟩
  · intro hboth hoverdue
    obtain ⟨-, since', hsince', hsigned⟩ := htolerated hboth.1 hoverdue
    obtain ⟨hstate, since, hsince, hunexpired, hunrevoked⟩ := hoverdue
    obtain rfl := Option.some.inj (hsince'.symm.trans hsince)
    obtain ⟨t, -, hverified, hle⟩ := verified_retired hpolicy h hsince hunexpired hunrevoked
    obtain ⟨hvalid, hbefore⟩ := verified_before hpolicy h hsigned hunexpired hunrevoked
    -- between the last moment before the retirement and the retirement itself the key falls
    have hnot : ¬ Retired r (since' - 1) := by
      rintro (hc | ⟨x, hx, hle'⟩)
      · exact hstate hc
      · obtain rfl := Option.some.inj (hx.symm.trans hsince)
        omega
    exact hboth.2 (since' - 1) since' t (by omega) hle hvalid r hbefore (.inr (.inr ⟨hnot, .inr ⟨since', hsince, le_refl _⟩⟩)) r hverified
  · intro hforce
    by_cases hoverdue : Overdue r
    · exact .inr (htolerated hforce hoverdue)
    · exact .inl hoverdue

namespace KeySample

open Agentic (hex)

def publicKey : Bytes := List.replicate 32 7

def document : Json := .str "manifest"

/-- A signature spells the document out. -/
def sign (doc : Json) : Bytes := doc.code.map fun c => .ofNat c.toNat

def runtime : Runtime where
  toRuntime := .tabled [document]
  sha256Bytes _ := hex '0'
  verifies k signature doc := k = publicKey ∧ signature = sign doc

/-- An active key, retired or revoked at a time. -/
def keyOf (retiredAt revokedAt : Option Int) : SigningKeyRecord :=
  { keyId := "key", issuerId := "issuer", publisherId := "publisher", publicKey := publicKey, usages := [.modelPackage],
    validFrom := 0, validUntil := 1000, retiredAt := retiredAt, revokedAt := revokedAt }

def policyOf (r : SigningKeyRecord) (t : Int) : KeyLifecyclePolicy :=
  { keys := ⟨[("key", r)], List.nodup_singleton _⟩, trustedIssuers := ["issuer"], evaluationTime := t }

def envelope (signedAt : Int) : BoundProvenanceSignature where
  keyId := "key"
  issuerId := "issuer"
  publisherId := "publisher"
  usage := .modelPackage
  signedAt := signedAt
  subjectSha256 := hex '0'
  signature := []
  legacySignature := []

def signed (signedAt : Int) : BoundProvenanceSignature :=
  { envelope signedAt with signature := sign (canonicalBoundSignature (envelope signedAt)) }

theorem policy_valid {retiredAt revokedAt : Option Int} {t : Int} (ht : 0 ≤ t) (hretired : ∀ since ∈ retiredAt, 0 ≤ since)
    (hrevoked : ∀ since ∈ revokedAt, 0 ≤ since) : validatePolicy (policyOf (keyOf retiredAt revokedAt) t) = .ok () := by
  have hrecord : validateRecord (keyOf retiredAt revokedAt) = .ok () := by
    simp only [validateRecord, ok_bind, raiseIf_ok, exists_const]
    refine ⟨by simp [keyOf], by simp [keyOf, publicKey], by simp [keyOf], by simp [keyOf], by simp [keyOf], by simp [keyOf], ?_, ?_⟩
    · rintro ⟨since, hsince, hlt⟩
      exact absurd (hretired since hsince) (not_le.mpr hlt)
    · rintro ⟨since, hsince, hlt⟩
      exact absurd (hrevoked since hsince) (not_le.mpr hlt)
  refine validatePolicy_ok.mpr ⟨⟨ht, le_refl _⟩, by simp [policyOf], ?_⟩
  have hkey : validateKey [] ("key", keyOf retiredAt revokedAt) = .ok () := by
    simp only [validateKey, hrecord, ok_bind, raiseIf_ok, exists_const]
    exact ⟨trivial, by simp [keyOf], by simp, by simp [keyOf]⟩
  simp only [policyOf, scan, hkey]

theorem verified {retiredAt revokedAt : Option Int} {t signedAt : Int} (hsigned : 0 ≤ signedAt ∧ signedAt ≤ t) (ht : t ≤ 1000)
    (hrevoked : ∀ since ∈ revokedAt, t < since) :
    verify runtime (policyOf (keyOf retiredAt revokedAt) t) document "publisher" .modelPackage (signed signedAt) =
      .ok (keyOf retiredAt revokedAt) := by
  have hdigest : runtime.sha256 document = hex '0' := Assurance.tabled_digest 0 (by simp) rfl (by simp)
  refine verify_ok.mpr ⟨⟨rfl, by simp [signed, envelope], Assurance.isSha256_hex rfl, rfl, List.mem_singleton_self _, rfl, ⟨rfl, rfl⟩,
    ⟨rfl, List.mem_singleton_self _⟩, hdigest, ?_⟩, ?_⟩
  · have hsame : canonicalBoundSignature (signed signedAt) = canonicalBoundSignature (envelope signedAt) := rfl
    rw [hsame]
    exact decide_eq_true ⟨rfl, rfl⟩
  · refine ⟨?_, ⟨hsigned.1, hsigned.2.trans ht⟩, hsigned.1.trans hsigned.2, not_lt.mpr ht, ?_, fun hc => by cases hc⟩
    · show signedAt ≤ t + 0
      omega
    · rintro (hc | ⟨since, hsince, hle⟩)
      · cases hc
      · exact absurd hle (not_le.mpr (hrevoked since hsince))

end KeySample

open KeySample in
/-- A key that is revoked some day is in force until then. -/
theorem in_force_revocable : InForceWhenever runtime (policyOf (keyOf none (some 500)) 150) document "publisher" .modelPackage (signed 120) ∧
    LostForGood runtime (policyOf (keyOf none (some 500)) 150) document "publisher" .modelPackage (signed 120) := by
  have hpolicy : validatePolicy (policyOf (keyOf none (some 500)) 150) = .ok () := policy_valid (by decide) (by decide) (by decide)
  have hverified := @verified none (some 500) 150 120 (by decide) (by decide) (by decide)
  refine (in_force_iff _ document "publisher" .modelPackage (signed 120) _ hpolicy hverified).1.mpr ?_
  rintro ⟨-, since, hsince, -⟩
  cases hsince

open KeySample in
/-- A key that was to be retired at 100 verifies a signature of 120 at 150. -/
theorem overdue_accepted : validatePolicy (policyOf (keyOf (some 100) none) 150) = .ok () ∧
    verify runtime (policyOf (keyOf (some 100) none) 150) document "publisher" .modelPackage (signed 120) = .ok (keyOf (some 100) none) ∧
    ¬ InForce (policyOf (keyOf (some 100) none) 150) (keyOf (some 100) none) (signed 120) := by
  refine ⟨policy_valid (by decide) (by decide) (by decide), verified (by decide) (by decide) (by decide), fun h => ?_⟩
  rcases h.unretired with hnot | ⟨haccepts, -⟩
  · exact hnot (.inr ⟨100, rfl, by decide⟩)
  · cases haccepts

end Aegis.Registry
