/-
  Aegis.Effects.Mutation — control-plane mutations and the authorization state they change
  (`ControlPlaneMutation` and `_apply_mutation_locked` of control_plane_recovery.py; the
  tables are those of revalidation.py, versioned_revalidation.py and signed_authorization.py).

  The model class has one optional field per argument and a validator that allows exactly
  the fields of the mutation's kind: here a `Mutation` is one constructor per kind and a
  `ControlPlaneMutation` one whose field constraints hold. Its stored text is read back by
  `ofJson?`, the model's own validation.
-/

import Aegis.Data.Json
import Aegis.Data.Table
import Aegis.Effects.Reason

namespace Aegis.Effects

open Data

def controlPlaneChangeSchema : String := "aegis.control-plane-change.v1"

inductive MutationKind where
  | subjectActive | passwordResetEnabled | signingKeyRotation
  deriving DecidableEq, Repr

def MutationKind.value : MutationKind → String
  | subjectActive => "subject_active"
  | passwordResetEnabled => "password_reset_enabled"
  | signingKeyRotation => "signing_key_rotation"

def MutationKind.ofValue? (s : String) : Option MutationKind :=
  [subjectActive, passwordResetEnabled, signingKeyRotation].find? (·.value = s)

inductive Mutation where
  | subjectActive (tenantId userId : String) (active : Bool)
  | passwordResetEnabled (tenantId : String) (enabled : Bool)
  | signingKeyRotation (issuerId audience keyId : String) (keyEpoch : Nat) (publicKeyHex : String)
  deriving DecidableEq, Repr

/-- `Field(min_length=1, max_length=n)`. -/
def within (n : Nat) (s : String) : Prop := 1 ≤ s.length ∧ s.length ≤ n

instance (n : Nat) (s : String) : Decidable (within n s) := inferInstanceAs (Decidable (_ ∧ _))

def isHexDigit (c : Char) : Bool := c.isDigit || ('a' ≤ c && c ≤ 'f') || ('A' ≤ c && c ≤ 'F')

namespace Mutation

def kind : Mutation → MutationKind
  | subjectActive .. => .subjectActive
  | passwordResetEnabled .. => .passwordResetEnabled
  | signingKeyRotation .. => .signingKeyRotation

/-- The constraints on single fields; a public key is 32 bytes of hex. -/
def Valid : Mutation → Prop
  | subjectActive tenantId userId _ => within 256 tenantId ∧ within 256 userId
  | passwordResetEnabled tenantId _ => within 256 tenantId
  | signingKeyRotation issuerId audience keyId keyEpoch publicKeyHex =>
    within 128 issuerId ∧ within 128 audience ∧ within 128 keyId ∧ 1 ≤ keyEpoch ∧
      publicKeyHex.length = 64 ∧ publicKeyHex.toList.all isHexDigit = true

instance (m : Mutation) : Decidable m.Valid := by
  cases m <;> unfold Valid <;> infer_instance

/-- `model_dump(mode="json")`, its fields sorted as `canonical_control_plane_mutation` writes them. -/
def toJson (m : Mutation) : Json :=
  match m with
  | subjectActive tenantId userId active => dump m.kind (.bool active) .null .null .null .null .null .null (.str tenantId)
      (.str userId)
  | passwordResetEnabled tenantId enabled => dump m.kind .null .null .null .null .null (.bool enabled) .null
      (.str tenantId) .null
  | signingKeyRotation issuerId audience keyId keyEpoch publicKeyHex => dump m.kind .null (.str audience) (.str issuerId)
      (.int keyEpoch) (.str keyId) .null (.str publicKeyHex) .null .null
where
  dump (kind : MutationKind) (active audience issuerId keyEpoch keyId enabled publicKeyHex tenantId userId : Json) : Json :=
    .obj [("active", active), ("audience", audience), ("issuer_id", issuerId), ("key_epoch", keyEpoch),
      ("key_id", keyId), ("kind", .str kind.value), ("password_reset_enabled", enabled),
      ("public_key_hex", publicKeyHex), ("schema_version", .str controlPlaneChangeSchema), ("tenant_id", tenantId),
      ("user_id", userId)]

/-- `_validate_kind_fields`: the fields of the kind are there and no other is. -/
def ofFields (kind : MutationKind) (tenantId userId : Option String) (active enabled : Option Bool)
    (issuerId audience keyId : Option String) (keyEpoch : Option Nat) (publicKeyHex : Option String) : Option Mutation :=
  match kind, tenantId, userId, active, enabled, issuerId, audience, keyId, keyEpoch, publicKeyHex with
  | .subjectActive, some t, some u, some a, none, none, none, none, none, none => some (subjectActive t u a)
  | .passwordResetEnabled, some t, none, none, some e, none, none, none, none, none => some (passwordResetEnabled t e)
  | .signingKeyRotation, none, none, none, none, some i, some d, some k, some n, some h =>
    some (signingKeyRotation i d k n h)
  | _, _, _, _, _, _, _, _, _, _ => none

/-- An optional field: absent or null, or of its type. -/
def field? (j : Json) (name : String) (read : Json → Option α) : Option (Option α) :=
  match j.get? name with
  | none => some none
  | some .null => some none
  | some v => (read v).map some

def text? : Json → Option String
  | .str s => some s
  | _ => none

def flag? : Json → Option Bool
  | .bool b => some b
  | _ => none

def number? : Json → Option Nat
  | .int (.ofNat n) => some n
  | _ => none

def fieldNames : List String :=
  ["active", "audience", "issuer_id", "key_epoch", "key_id", "kind", "password_reset_enabled", "public_key_hex",
    "schema_version", "tenant_id", "user_id"]

/-- Validation of a stored text; `extra="forbid"`. -/
def ofJson? (j : Json) : Option Mutation := do
  guard (j.names.all (· ∈ fieldNames))
  let schema ← field? j "schema_version" text?
  let kind ← text? (← j.get? "kind")
  let kind ← MutationKind.ofValue? kind
  let m ← ofFields kind (← field? j "tenant_id" text?) (← field? j "user_id" text?) (← field? j "active" flag?)
    (← field? j "password_reset_enabled" flag?) (← field? j "issuer_id" text?) (← field? j "audience" text?)
    (← field? j "key_id" text?) (← field? j "key_epoch" number?) (← field? j "public_key_hex" text?)
  if schema.getD controlPlaneChangeSchema = controlPlaneChangeSchema then some m else none

/-- What is written is read back. -/
@[simp] theorem ofJson?_toJson (m : Mutation) : ofJson? m.toJson = some m := by
  cases m <;> rfl

theorem toJson_injective : Function.Injective toJson := by
  intro m m' h
  simpa using congrArg ofJson? h

end Mutation

/-- `ControlPlaneMutation`. -/
abbrev ControlPlaneMutation := { m : Mutation // m.Valid }

namespace ControlPlaneMutation

/-- `model_validate_json`. -/
def ofJson? (j : Json) : Option ControlPlaneMutation :=
  match Mutation.ofJson? j with
  | some m => if h : m.Valid then some ⟨m, h⟩ else none
  | none => none

@[simp] theorem ofJson?_toJson (m : ControlPlaneMutation) : ofJson? m.1.toJson = some m := by
  simp [ofJson?, m.2]

/-- `control_plane_mutation_hash`. -/
def sha256 (H : Hashing) (m : ControlPlaneMutation) : String := H.sha256 m.1.toJson

end ControlPlaneMutation

/-! ## The authorization state of the execution database -/

structure SubjectRow where
  userId : String
  tenantId : String
  active : Bool
  rolesJson : Json
  deriving DecidableEq, Repr

structure ResourceRow where
  tenantId : String
  resource : String
  enabled : Bool
  ownerUserId : Option String
  requiredRole : Option String
  deriving DecidableEq, Repr

structure TenantPolicyRow where
  tenantId : String
  passwordResetEnabled : Bool
  deriving DecidableEq, Repr

/-- `AuthorizationVersionState`. -/
structure VersionRow where
  tenantId : String
  policyVersion : Nat
  revocationEpoch : Nat
  deriving DecidableEq, Repr

structure TrustedKeyRow where
  issuerId : String
  audience : String
  keyId : String
  keyEpoch : Nat
  publicKeyHex : String
  deriving DecidableEq, Repr

structure KeyEpochRow where
  issuerId : String
  audience : String
  currentKeyEpoch : Nat
  deriving DecidableEq, Repr

structure AuthorizationState where
  subjects : List SubjectRow
  resources : List ResourceRow
  tenantPolicies : List TenantPolicyRow
  versions : List VersionRow
  trustedKeys : List TrustedKeyRow
  keyEpochs : List KeyEpochRow
  deriving DecidableEq, Repr

namespace AuthorizationState

def version? (a : AuthorizationState) (tenantId : String) : Option VersionRow :=
  Table.lookup VersionRow.tenantId a.versions tenantId

def key? (a : AuthorizationState) (issuerId audience keyId : String) : Option TrustedKeyRow :=
  Table.lookup (fun r => (r.issuerId, r.audience, r.keyId)) a.trustedKeys (issuerId, audience, keyId)

/-- `_current_epoch_locked`. -/
def currentEpoch? (a : AuthorizationState) (issuerId audience : String) : Option Nat :=
  (Table.lookup (fun r => (r.issuerId, r.audience)) a.keyEpochs (issuerId, audience)).map (·.currentKeyEpoch)

/-- `INSERT … ON CONFLICT DO UPDATE`. -/
def upsert {ρ κ : Type} [DecidableEq κ] (key : ρ → κ) (rows : List ρ) (row : ρ) (set : ρ → ρ) : List ρ :=
  match Table.lookup key rows (key row) with
  | some _ => Table.update key rows (key row) set
  | none => rows ++ [row]

/-- `_apply_mutation_locked`. -/
def applyMutation (a : AuthorizationState) : Mutation → Except Error AuthorizationState
  | .subjectActive tenantId userId active =>
    match Table.lookup SubjectRow.userId a.subjects userId with
    | none => .error (.key "synthetic subject mutation target not found")
    | some row =>
      if row.tenantId ≠ tenantId then .error (.key "synthetic subject mutation target not found")
      else if (a.version? tenantId).isNone then .error (.key "synthetic authorization version not found")
      else .ok { a with
        subjects := Table.update SubjectRow.userId a.subjects userId fun r => { r with active }
        versions := Table.update VersionRow.tenantId a.versions tenantId fun r =>
          { r with revocationEpoch := r.revocationEpoch + 1 } }
  | .passwordResetEnabled tenantId enabled =>
    if (a.version? tenantId).isNone then .error (.key "synthetic authorization version not found")
    else .ok { a with
      tenantPolicies := upsert TenantPolicyRow.tenantId a.tenantPolicies ⟨tenantId, enabled⟩ fun r =>
        { r with passwordResetEnabled := enabled }
      versions := Table.update VersionRow.tenantId a.versions tenantId fun r =>
        { r with policyVersion := r.policyVersion + 1 } }
  | .signingKeyRotation issuerId audience keyId keyEpoch publicKeyHex =>
    match a.currentEpoch? issuerId audience with
    | none => .error (.key "authorization issuer trust not initialized")
    | some current =>
      if keyEpoch ≤ current then .error (.value "authorization signing key epochs are monotonic")
      else .ok { a with
        trustedKeys := upsert (fun r => (r.issuerId, r.audience, r.keyId)) a.trustedKeys
          ⟨issuerId, audience, keyId, keyEpoch, publicKeyHex⟩ fun r => { r with keyEpoch, publicKeyHex }
        keyEpochs := Table.update (fun r => (r.issuerId, r.audience)) a.keyEpochs (issuerId, audience) fun r =>
          { r with currentKeyEpoch := keyEpoch } }

end AuthorizationState

end Aegis.Effects
