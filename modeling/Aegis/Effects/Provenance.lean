/-
  Aegis.Effects.Provenance — signed authorization decisions (signed_authorization.py): the issuer
  that signs what a replica evaluated, and the service that takes only decisions of a trusted key
  of the current epoch.

  Ed25519 is a verifying function of the public key; a signer is one whose signatures verify under
  its own key. Base64 and the length of a signature are not modelled.
-/

import Aegis.Effects.Versioned

namespace Aegis.Effects

open Data Txn Txn.Prog

def authorizationDecisionSchema : String := "aegis.authz-decision.v1"

/-- The fields of `AuthorizationDecisionClaims`. -/
structure AuthorizationDecisionClaims where
  issuerId : String
  audience : String
  keyId : String
  keyEpoch : Nat
  tenantId : String
  recordBindingHash : String
  policyVersion : Nat
  revocationEpoch : Nat
  reason : ExecutionReason
  issuedAt : Int
  expiresAt : Int
  deriving DecidableEq, Repr

namespace AuthorizationDecisionClaims

/-- The constraints on the fields, and `_expiry_after_issue`. -/
def Valid (c : AuthorizationDecisionClaims) : Prop :=
  within 128 c.issuerId ∧ within 128 c.audience ∧ within 128 c.keyId ∧ 1 ≤ c.keyEpoch ∧ within 256 c.tenantId ∧
    1 ≤ c.policyVersion ∧ 1 ≤ c.revocationEpoch ∧ 0 ≤ c.issuedAt ∧ c.issuedAt < c.expiresAt

instance (c : AuthorizationDecisionClaims) : Decidable c.Valid := inferInstanceAs (Decidable (_ ∧ _))

/-- `canonical_authorization_claims`. -/
def toJson (c : AuthorizationDecisionClaims) : Json :=
  .obj [("audience", .str c.audience), ("expires_at", .int c.expiresAt), ("issued_at", .int c.issuedAt),
    ("issuer_id", .str c.issuerId), ("key_epoch", .int c.keyEpoch), ("key_id", .str c.keyId),
    ("policy_version", .int c.policyVersion), ("reason", .str c.reason.value),
    ("record_binding_hash", .str c.recordBindingHash), ("revocation_epoch", .int c.revocationEpoch),
    ("schema_version", .str authorizationDecisionSchema), ("tenant_id", .str c.tenantId)]

end AuthorizationDecisionClaims

/-- `SignedAuthorizationDecision`. -/
structure SignedAuthorizationDecision where
  claims : AuthorizationDecisionClaims
  signature : String
  deriving DecidableEq, Repr

structure Ed25519 where
  verify : (publicKeyHex : String) → (payload : Json) → (signature : String) → Bool

/-- `AuthorizationDecisionSigner`. -/
structure AuthorizationDecisionSigner (V : Ed25519) where
  issuerId : String
  audience : String
  keyId : String
  keyEpoch : Nat
  ttlSeconds : Nat
  publicKeyHex : String
  sign : Json → String
  keyEpoch_positive : 1 ≤ keyEpoch
  ttl_positive : 1 ≤ ttlSeconds
  verify_sign : ∀ payload, V.verify publicKeyHex payload (sign payload) = true

variable (H : Hashing) {V : Ed25519}

namespace AuthorizationDecisionSigner

/-- `issue` at this time. -/
def issue (signer : AuthorizationDecisionSigner V) (decision : CachedAuthorizationDecision) (issuedAt : Int) :
    Except Error SignedAuthorizationDecision :=
  let claims : AuthorizationDecisionClaims := {
    issuerId := signer.issuerId
    audience := signer.audience
    keyId := signer.keyId
    keyEpoch := signer.keyEpoch
    tenantId := decision.tenantId
    recordBindingHash := decision.recordBindingHash
    policyVersion := decision.policyVersion
    revocationEpoch := decision.revocationEpoch
    reason := decision.reason
    issuedAt
    expiresAt := issuedAt + signer.ttlSeconds }
  if ¬ claims.Valid then .error .validation else .ok ⟨claims, signer.sign claims.toJson⟩

end AuthorizationDecisionSigner

/-- `SignedAuthorizationReplica.evaluate`. -/
def SignedAuthorizationReplica.evaluate (signer : AuthorizationDecisionSigner V) (record : OutboxRecord) (issuedAt : Int) :
    Prog Label World Error SignedAuthorizationDecision := do
  let decision ← CachedAuthorizationReplica.evaluate H record
  ofResult (signer.issue decision issuedAt)

/-- What `ProvenanceFencedSyntheticEffectService` expects of a decision's issuer. -/
structure ProvenanceFence where
  expectedIssuerId : String
  expectedAudience : String
  deriving DecidableEq, Repr

namespace ProvenanceFencedSyntheticEffectService

variable (V) (fence : ProvenanceFence)

/-- The end of `_decision_failure`, which the signature does not bear on. -/
def freshnessFailure (a : AuthorizationState) (record : OutboxRecord) (claims : AuthorizationDecisionClaims) (now : Int) :
    Option ProvenanceReason :=
  if now < claims.issuedAt then some .decisionNotYetValid
  else if claims.expiresAt ≤ now then some .decisionExpired
  else if claims.tenantId ≠ record.tenantId then some .tenantBindingMismatch
  else if claims.recordBindingHash ≠ authorizationRecordBinding H record then some .decisionBindingMismatch
  else
    match a.version? record.tenantId with
    | none => some .authoritativeVersionNotFound
    | some authoritative =>
      if claims.revocationEpoch ≠ authoritative.revocationEpoch then some .revocationEpochMismatch
      else if claims.policyVersion ≠ authoritative.policyVersion then some .policyVersionMismatch
      else if claims.reason ≠ .allowed then some .cachedAuthorizationDenied
      else none

/-- `_decision_failure`. -/
def decisionFailure (a : AuthorizationState) (record : OutboxRecord) (decision : SignedAuthorizationDecision) (now : Int) :
    Option ProvenanceReason :=
  let claims := decision.claims
  if claims.issuerId ≠ fence.expectedIssuerId then some .issuerMismatch
  else if claims.audience ≠ fence.expectedAudience then some .audienceMismatch
  else
    match a.key? claims.issuerId claims.audience claims.keyId, a.currentEpoch? claims.issuerId claims.audience with
    | none, _ => some .untrustedSigningKey
    | some _, none => some .untrustedSigningKey
    | some key, some current =>
      if claims.keyEpoch ≠ key.keyEpoch ∨ claims.keyEpoch ≠ current then some .keyEpochMismatch
      else if V.verify key.publicKeyHex claims.toJson decision.signature = false then some .signatureInvalid
      else freshnessFailure H a record claims now

/-- `execute_with_decision`, on the execution database. -/
def execute (record : OutboxRecord) (decision : SignedAuthorizationDecision) (now : Int) (x : ExecutionDb) :
    Except Error EffectExecution × ExecutionDb :=
  let tables : EffectTables ProvenanceReason := ⟨x.ledger, x.denials⟩
  let (answer, tables) := EffectTables.settle .provenance
    (tables.execute "authorization provenance denial binding mismatch"
      (decisionFailure H V fence x.authorization record decision now) record) tables
  (answer, { x with ledger := tables.ledger, denials := tables.denials })

def executeWithDecision (record : OutboxRecord) (decision : SignedAuthorizationDecision) (now : Int) :
    Prog Label World Error EffectExecution :=
  attempt (.execute record.approvalId) fun w =>
    let (answer, execution) := execute H V fence record decision now w.execution
    (answer, { w with execution })

end ProvenanceFencedSyntheticEffectService

end Aegis.Effects
