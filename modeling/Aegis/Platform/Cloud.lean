/-
  Aegis.Platform.Cloud — a provider-neutral cloud (cloud_security.py): a broker that exchanges
  workload tokens for short-lived credentials, IAM rules, a key management service, secrets, a
  metadata service and the audit trail, whose head stands for its events (`trail_binds`).

  A function returns what it answers and the state it leaves; where it raises, the state is as it
  was. `canonical_bytes` of a context is represented by the value it encodes, and AES-GCM by an
  ideal cipher, whose texts are drawn as keys and nonces are.
-/

import Aegis.Data.Checks
import Aegis.Data.Dumps
import Aegis.Data.IdealCipher

namespace Aegis.Platform

open Data Checks

/-- `SecurityDenied`, or a `KeyError`. -/
inductive Raised where
  | denied (reason : String)
  | key (name : String)
  deriving DecidableEq, Repr

abbrev Answer := Except Raised

abbrev Bytes := List UInt8

/-! ## The broker -/

structure Credential where
  token : String
  principalId : String
  tenantId : String
  generation : Int
  expiresAt : Int
  deriving DecidableEq, Repr

/-- The claims of a token, as far as they are read; a claim may be missing. -/
structure Claims where
  cluster : Option String
  namespace_ : Option String
  serviceAccount : Option String
  tenant : Option String
  audience : Option String
  subject : Option String
  expiry : Option Int
  deriving DecidableEq, Repr

/-- `digest` of a text, the verifier of tokens and the cluster the broker expects. -/
structure Runtime where
  digest : String → String
  verifier : String → Answer Claims
  expectedCluster : String

def workload : String := "system:serviceaccount:tenant-acme:inference"

structure IdentityBroker where
  generation : String → Option Int
  revoked : List String
  credentials : String → Option Credential

namespace IdentityBroker

def maxCredentialTtlSeconds : Int := 120

/-- `self.generation.get(principal, 1)`. -/
def generationOf (b : IdentityBroker) (principal : String) : Int := (b.generation principal).getD 1

/-- `expected`. -/
def Expected (rt : Runtime) (claims : Claims) : Prop :=
  (claims.cluster, claims.namespace_, claims.serviceAccount, claims.tenant, claims.audience) =
    (some rt.expectedCluster, some "tenant-acme", some "inference", some "acme", some "aegisdesk-cloud-broker")

instance decidableExpected (rt : Runtime) (claims : Claims) : Decidable (Expected rt claims) := inferInstanceAs (Decidable (_ = _))

/-- `exchange`, which reads the clock twice; `overrides` are the values a caller asks for, `raw` is drawn. -/
def exchange (rt : Runtime) (b : IdentityBroker) (now later : Int) (token : String) (overrides : String → Option String) (raw : String) :
    Answer (Credential × IdentityBroker) := do
  let claims ← rt.verifier token
  let subject := claims.subject.getD ""
  raiseIf (¬ Expected rt claims ∨ subject ≠ workload) (.denied "IDENTITY_BINDING_DENIED")
  raiseIf (claims.expiry.getD 0 ≤ now) (.denied "TOKEN_EXPIRED")
  let derived := [("tenant", "acme"), ("namespace", "tenant-acme"), ("service_account", "inference"), ("principal", subject)]
  raiseIf (∃ e ∈ derived, ∃ v ∈ overrides e.1, v ≠ e.2) (.denied "CALLER_OVERRIDE_DENIED")
  raiseIf (subject ∈ b.revoked) (.denied "IDENTITY_REVOKED")
  let cred : Credential :=
    ⟨raw, subject, "acme", b.generationOf subject, min (claims.expiry.getD 0) (later + maxCredentialTtlSeconds)⟩
  pure (cred, { b with credentials := Function.update b.credentials (rt.digest raw) (some cred) })

def authenticate (rt : Runtime) (b : IdentityBroker) (now : Int) (raw : String) : Answer Credential := do
  let cred ← orRaise (.denied "CREDENTIAL_STALE_OR_REVOKED") (b.credentials (rt.digest raw))
  raiseIf (cred.expiresAt ≤ now ∨ cred.principalId ∈ b.revoked ∨ b.generationOf cred.principalId ≠ cred.generation)
    (.denied "CREDENTIAL_STALE_OR_REVOKED")
  pure cred

def revoke (b : IdentityBroker) (principal : String) : IdentityBroker :=
  { b with
    revoked := if principal ∈ b.revoked then b.revoked else b.revoked ++ [principal]
    generation := Function.update b.generation principal (some (b.generationOf principal + 1)) }

def recover (b : IdentityBroker) (principal : String) : IdentityBroker :=
  { b with revoked := b.revoked.filter (· ≠ principal) }

end IdentityBroker

/-! ## IAM -/

/-- `rules`. -/
def rules (principal : String) : List (String × String) :=
  if principal = workload then
    [("kms:Encrypt", "kms/acme/app"), ("kms:Decrypt", "kms/acme/app"), ("secrets:GetCurrent", "secret/acme/model-token"),
      ("metadata:GetIdentity", "metadata/acme/inference")]
  else if principal = "incident-admin" then
    [("secrets:Rotate", "secret/acme/model-token"), ("kms:Rotate", "kms/acme/app"), ("incident:RevokeIdentity", "identity/acme/inference")]
  else []

/-- `good`. -/
def Allowed (cred : Credential) (action resource tenant : String) : Prop :=
  tenant = cred.tenantId ∧ '*' ∉ (action ++ resource).toList ∧ (action, resource) ∈ rules cred.principalId

instance decidableAllowed (cred : Credential) (action resource tenant : String) : Decidable (Allowed cred action resource tenant) :=
  inferInstanceAs (Decidable (_ ∧ _))

/-- `IAM.authorize`. The broker is not asked. -/
def authorize (cred : Credential) (action resource tenant : String) : Answer Unit :=
  raiseIf (¬ Allowed cred action resource tenant) (.denied "IAM_DENY")

/-! ## Keys -/

inductive KeyState where
  | active | decryptOnly | revoked
  deriving DecidableEq, Repr

structure Envelope where
  keyId : String
  keyVersion : Int
  tenantId : String
  resourceId : String
  nonce : Bytes
  ciphertext : Bytes
  wrapNonce : Bytes
  wrappedDek : Bytes
  deriving DecidableEq, Repr

/-- What an encryption draws: a key, two nonces, and the texts of the cipher. -/
structure Draw where
  dek : Bytes
  nonce : Bytes
  wrapNonce : Bytes
  ciphertext : Bytes
  wrappedDek : Bytes
  deriving DecidableEq, Repr

structure LocalKMS where
  keys : String → Option (Int → Option Bytes)
  active : String → Option Int
  states : String × Int → Option KeyState
  /-- What has been sealed. -/
  log : List (Sealing Bytes Json)

namespace LocalKMS

/-- `LocalKMS(…)`, with the first key it draws. -/
def create (kek : Bytes) : LocalKMS where
  keys := Function.update (fun _ => none) "kms/acme/app" (some (Function.update (fun _ => none) 1 (some kek)))
  active := Function.update (fun _ => none) "kms/acme/app" (some 1)
  states := Function.update (fun _ => none) ("kms/acme/app", 1) (some .active)
  log := []

/-- `self.keys[key_id][version]`. -/
def kek (k : LocalKMS) (keyId : String) (version : Int) : Option Bytes := (k.keys keyId).bind (· version)

/-- `context`. -/
def context (tenant resource purpose : String) (version : Int) : Json :=
  .obj [("key_version", .int version), ("purpose", .str purpose), ("resource_id", .str resource), ("tenant_id", .str tenant)]

def encrypt (k : LocalKMS) (cred : Credential) (keyId tenant resource : String) (plaintext : Bytes) (d : Draw) :
    Answer (Envelope × LocalKMS) := do
  authorize cred "kms:Encrypt" keyId tenant
  raiseIf (k.keys keyId = none) (.denied "KEY_UNKNOWN")
  let version ← orRaise (.key keyId) (k.active keyId)
  let kek ← orRaise (.key (toString version)) (k.kek keyId version)
  let ctx := context tenant resource "secret" version
  pure (⟨keyId, version, tenant, resource, d.nonce, d.ciphertext, d.wrapNonce, d.wrappedDek⟩,
    { k with log := k.log ++ [⟨d.dek, d.nonce, ctx, plaintext, d.ciphertext⟩, ⟨kek, d.wrapNonce, ctx, d.dek, d.wrappedDek⟩] })

def decrypt (k : LocalKMS) (cred : Credential) (e : Envelope) (tenant resource : String) : Answer Bytes := do
  authorize cred "kms:Decrypt" e.keyId tenant
  raiseIf (tenant ≠ e.tenantId ∨ resource ≠ e.resourceId) (.denied "CONTEXT_MISMATCH")
  let kek ← orRaise (.denied "KEY_UNKNOWN") (k.kek e.keyId e.keyVersion)
  raiseIf (k.states (e.keyId, e.keyVersion) = some .revoked) (.denied "KEY_REVOKED")
  let ctx := context tenant resource "secret" e.keyVersion
  let dek ← orRaise (.denied "AUTHENTICATED_DECRYPT_FAILED") (IdealCipher.open? k.log kek e.wrapNonce ctx e.wrappedDek)
  orRaise (.denied "AUTHENTICATED_DECRYPT_FAILED") (IdealCipher.open? k.log dek e.nonce ctx e.ciphertext)

/-- `rotate`; `kek` is drawn. -/
def rotate (k : LocalKMS) (operator : Credential) (keyId : String) (kek : Bytes) : Answer (Int × LocalKMS) := do
  authorize operator "kms:Rotate" keyId operator.tenantId
  let old ← orRaise (.key keyId) (k.active keyId)
  let versions ← orRaise (.key keyId) (k.keys keyId)
  let new := old + 1
  pure (new, { k with
    keys := Function.update k.keys keyId (some (Function.update versions new (some kek)))
    active := Function.update k.active keyId (some new)
    states := Function.update (Function.update k.states (keyId, old) (some .decryptOnly)) (keyId, new) (some .active) })

def revokeVersion (k : LocalKMS) (keyId : String) (version : Int) : LocalKMS :=
  { k with states := Function.update k.states (keyId, version) (some .revoked) }

end LocalKMS

/-! ## Secrets and metadata -/

structure SecretManager where
  versions : String → Option (Int → Option Envelope)
  current : String → Option Int
  retired : List (String × Int)

structure MetadataService where
  capabilities : String → Option (String × Int)

/-- The broker and the services. -/
structure Cloud where
  broker : IdentityBroker
  kms : LocalKMS
  secrets : SecretManager
  metadata : MetadataService

def Cloud.create (kek : Bytes) : Cloud where
  broker := ⟨fun _ => none, [], fun _ => none⟩
  kms := .create kek
  secrets := ⟨fun _ => none, fun _ => none, []⟩
  metadata := ⟨fun _ => none⟩

namespace Cloud

/-- `SecretManager.seed`. -/
def seed (s : Cloud) (cred : Credential) (secretId : String) (plaintext : Bytes) (d : Draw) : Answer (Unit × Cloud) := do
  let (envelope, kms) ← s.kms.encrypt cred "kms/acme/app" "acme" secretId plaintext d
  pure ((), { s with
    kms
    secrets := { s.secrets with
      versions := Function.update s.secrets.versions secretId (some (Function.update (fun _ => none) 1 (some envelope)))
      current := Function.update s.secrets.current secretId (some 1) } })

/-- `SecretManager.get_current`. -/
def getCurrent (s : Cloud) (cred : Credential) (secretId tenant : String) : Answer Bytes := do
  authorize cred "secrets:GetCurrent" secretId tenant
  let version ← orRaise (.key secretId) (s.secrets.current secretId)
  raiseIf ((secretId, version) ∈ s.secrets.retired) (.denied "SECRET_RETIRED")
  let versions ← orRaise (.key secretId) (s.secrets.versions secretId)
  let envelope ← orRaise (.key (toString version)) (versions version)
  s.kms.decrypt cred envelope tenant secretId

/-- `SecretManager.rotate`. -/
def rotateSecret (s : Cloud) (operator appCred : Credential) (secretId : String) (plaintext : Bytes) (d : Draw) : Answer (Int × Cloud) := do
  authorize operator "secrets:Rotate" secretId operator.tenantId
  let old ← orRaise (.key secretId) (s.secrets.current secretId)
  let new := old + 1
  let (envelope, kms) ← s.kms.encrypt appCred "kms/acme/app" "acme" secretId plaintext d
  let versions ← orRaise (.key secretId) (s.secrets.versions secretId)
  pure (new, { s with
    kms
    secrets := {
      versions := Function.update s.secrets.versions secretId (some (Function.update versions new (some envelope)))
      current := Function.update s.secrets.current secretId (some new)
      retired := if (secretId, old) ∈ s.secrets.retired then s.secrets.retired else s.secrets.retired ++ [(secretId, old)] } })

/-- `MetadataService.session`; the capability `token` is drawn. -/
def session (rt : Runtime) (s : Cloud) (now : Int) (cred : Credential) (token : String) : Answer (String × Cloud) := do
  authorize cred "metadata:GetIdentity" "metadata/acme/inference" cred.tenantId
  pure (token, { s with
    metadata := ⟨Function.update s.metadata.capabilities (rt.digest token) (some (cred.principalId, now + 30))⟩ })

/-- `MetadataService.get`: the principal, the tenant and the generation of the credential. -/
def metadataGet (rt : Runtime) (s : Cloud) (now : Int) (cred : Credential) (capability path : String) : Answer (String × String × Int) := do
  let record ← orRaise (.denied "METADATA_TOKEN_INVALID") (s.metadata.capabilities (rt.digest capability))
  raiseIf (record.2 ≤ now) (.denied "METADATA_TOKEN_INVALID")
  raiseIf (record.1 ≠ cred.principalId) (.denied "METADATA_WORKLOAD_MISMATCH")
  raiseIf (path ≠ "/identity") (.denied "METADATA_PATH_DENIED")
  pure (cred.principalId, cred.tenantId, cred.generation)

end Cloud

/-! ## The audit trail -/

/-- An event, as what its digest covers and the digest. -/
structure AuditEvent where
  candidate : Json
  eventSha256 : String
  deriving DecidableEq, Repr

structure AuditTrail where
  events : List AuditEvent
  head : String
  deriving DecidableEq, Repr

/-- The arguments of `record`. -/
structure AuditEntry where
  principalId : String
  tenantId : String
  action : String
  resourceId : String
  decision : String
  reasonCode : String
  credentialGeneration : Int := 0
  keyVersion : Int := 0
  secretVersion : Int := 0
  incidentId : String := ""
  deriving DecidableEq, Repr

namespace AuditTrail

def genesis : String := String.ofList (List.replicate 64 '0')

def new : AuditTrail := ⟨[], genesis⟩

/-- `f"{n:04d}"`. -/
def padded (n : Nat) : String := String.ofList (n.repr.toList.leftpad 4 '0')

/-- The event before `event_sha256` is added. -/
def candidate (t : AuditTrail) (e : AuditEntry) : Json :=
  .obj [("action", .str e.action), ("credential_generation", .int e.credentialGeneration), ("decision", .str e.decision),
    ("event_id", .str ("audit-" ++ padded (t.events.length + 1))), ("incident_id", .str e.incidentId),
    ("key_version", .int e.keyVersion), ("order", .int (t.events.length + 1)), ("previous_sha256", .str t.head),
    ("principal_id", .str e.principalId), ("reason_code", .str e.reasonCode), ("resource_id", .str e.resourceId),
    ("secret_version", .int e.secretVersion), ("tenant_id", .str e.tenantId)]

variable (sha256 : Json → String)

def record (t : AuditTrail) (e : AuditEntry) : AuditTrail :=
  ⟨t.events ++ [⟨t.candidate e, sha256 (t.candidate e)⟩], sha256 (t.candidate e)⟩

def recorded (entries : List AuditEntry) : AuditTrail := entries.foldl (record sha256) new

def validate (events : List AuditEvent) : Answer String :=
  events.foldlM (fun head e => do
    raiseIf (e.candidate.str? "previous_sha256" ≠ some head ∨ sha256 e.candidate ≠ e.eventSha256)
      (.denied "audit hash-chain mismatch")
    pure e.eventSha256) genesis

variable {sha256} {events : List AuditEvent} {e : AuditEvent} {head : String}

theorem validate_concat : validate sha256 (events ++ [e]) = .ok head ↔
    ∃ previous, validate sha256 events = .ok previous ∧ e.candidate.str? "previous_sha256" = some previous ∧
      sha256 e.candidate = head ∧ e.eventSha256 = head := by
  simp only [validate, List.foldlM_append, List.foldlM_cons, List.foldlM_nil, ok_bind, raiseIf_ok, not_or, not_not,
    exists_const, pure, Except.pure, Except.ok.injEq]
  grind

/-- What `validate` accepts with the head of a trail is the trail: no event can be changed, dropped,
    added or moved under its head. -/
theorem trail_binds (hinj : Function.Injective sha256) (hgenesis : ∀ j, sha256 j ≠ genesis) (entries : List AuditEntry) :
    validate sha256 events = .ok (recorded sha256 entries).head ↔ events = (recorded sha256 entries).events := by
  induction entries using List.reverseRecOn generalizing events with
  | nil =>
    rcases List.eq_nil_or_concat events with rfl | ⟨events, e, rfl⟩
    · exact iff_of_true rfl rfl
    · rw [List.concat_eq_append, validate_concat]
      refine iff_of_false ?_ (by simp [recorded, new])
      rintro ⟨_, _, _, h, _⟩
      exact hgenesis _ h
  | append_singleton entries entry ih =>
    rw [recorded, List.foldl_append, List.foldl_cons, List.foldl_nil, ← recorded]
    generalize recorded sha256 entries = t at ih
    rcases List.eq_nil_or_concat events with rfl | ⟨events, e, rfl⟩
    · exact iff_of_false (fun h => hgenesis _ (Except.ok.inj h).symm) (by simp [record])
    · rw [List.concat_eq_append, validate_concat]
      constructor
      · rintro ⟨previous, hprevious, hlink, hdigest, hclaimed⟩
        obtain ⟨said, claimed⟩ := e
        obtain rfl : said = _ := hinj hdigest
        obtain rfl : claimed = _ := hclaimed
        obtain rfl := Option.some.inj hlink
        rw [ih.mp hprevious]
        rfl
      · intro h
        obtain ⟨hevents, he⟩ := List.append_inj' h rfl
        obtain rfl := List.singleton_inj.mp he
        exact ⟨_, ih.mpr hevents, rfl, rfl, rfl⟩

namespace Sample

def exchanged : AuditEntry where
  principalId := "workload"
  tenantId := "acme"
  action := "exchange"
  resourceId := "broker"
  decision := "ALLOW"
  reasonCode := "EXCHANGED"
  credentialGeneration := 1

theorem coded_ne (j : Json) : Hashing.coded.sha256 j ≠ genesis := by
  intro h
  have := String.ofList_injective h
  simp at this

end Sample

theorem trail_binds_exchanged : validate Hashing.coded.sha256 (recorded Hashing.coded.sha256 [Sample.exchanged]).events =
    .ok (recorded Hashing.coded.sha256 [Sample.exchanged]).head :=
  (trail_binds Hashing.coded_injective Sample.coded_ne [Sample.exchanged]).mpr rfl

end AuditTrail

end Aegis.Platform
