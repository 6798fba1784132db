/-
  Aegis.Effects.Versioned — cached authorization decisions under a version fence
  (versioned_revalidation.py): the controller whose mutations advance a version, the replica
  that evaluates a record, and the service that takes its decisions.

  The replica reads the authoritative database, as in the default stack, and each of its
  queries is a read of its own: first the versions, then the subject, then what the action
  is about.
-/

import Aegis.Effects.Revalidation

namespace Aegis.Effects

open Data Txn Txn.Prog

variable (H : Hashing)

/-- `authorization_record_binding`. -/
def authorizationRecordBinding (record : OutboxRecord) : String :=
  H.sha256 (.str (Json.unitJoin ["aegisdesk-p2n-authorization-evidence-v1", record.approvalId, record.idempotencyKey,
    record.requesterUserId, record.tenantId, record.action.value, record.normalizedArguments.dumps]))

/-- `CachedAuthorizationDecision`. -/
structure CachedAuthorizationDecision where
  tenantId : String
  recordBindingHash : String
  policyVersion : Nat
  revocationEpoch : Nat
  reason : ExecutionReason
  deriving DecidableEq, Repr

/-! ## The controller -/

namespace VersionedAuthorizationController

def advanceRevocationEpoch (row : VersionRow) : VersionRow := { row with revocationEpoch := row.revocationEpoch + 1 }

def advancePolicyVersion (row : VersionRow) : VersionRow := { row with policyVersion := row.policyVersion + 1 }

/-- A mutation of this tenant's state, with the advance of its version. -/
def advance (tenantId : String) (bump : VersionRow → VersionRow) (a : AuthorizationState) : AuthorizationState :=
  { a with versions := Table.update VersionRow.tenantId a.versions tenantId bump }

def setSubjectActive (userId : String) (active : Bool) (a : AuthorizationState) : Except Error AuthorizationState :=
  match a.subject? userId with
  | none => .error (.key "synthetic subject not found")
  | some row =>
    if (a.version? row.tenantId).isNone then .error (.key "synthetic authorization version not found")
    else .ok (advance row.tenantId advanceRevocationEpoch
      { a with subjects := Table.update SubjectRow.userId a.subjects userId fun r => { r with active } })

def setResourceOwner (tenantId resource : String) (ownerUserId : Option String) (a : AuthorizationState) :
    Except Error AuthorizationState :=
  if (a.version? tenantId).isNone then .error (.key "synthetic authorization version not found")
  else if (a.resource? tenantId resource).isNone then .error (.key "synthetic resource not found")
  else .ok (advance tenantId advanceRevocationEpoch
    { a with resources := Table.update (fun r => (r.tenantId, r.resource)) a.resources (tenantId, resource) fun r =>
        { r with ownerUserId } })

def setPasswordResetEnabled (tenantId : String) (enabled : Bool) (a : AuthorizationState) : Except Error AuthorizationState :=
  if (a.version? tenantId).isNone then .error (.key "synthetic authorization version not found")
  else .ok (advance tenantId advancePolicyVersion
    { a with tenantPolicies := AuthorizationState.upsert TenantPolicyRow.tenantId a.tenantPolicies ⟨tenantId, enabled⟩ fun r =>
        { r with passwordResetEnabled := enabled } })

end VersionedAuthorizationController

/-! ## The replica -/

namespace CachedAuthorizationReplica

/-- `AuthorizationVersionStore.get`. -/
def getVersion (tenantId : String) : Prog Label World Error VersionRow :=
  query .step fun w =>
    match w.execution.authorization.version? tenantId with
    | none => .error (.key "synthetic authorization version not found")
    | some row => .ok row

/-- `SyntheticAuthorizationStateStore.evaluate`, query by query. -/
def evaluateState (record : OutboxRecord) : Prog Label World Error ExecutionReason := do
  let roles ← read .step fun w =>
    AuthorizationState.subjectReason record (w.execution.authorization.subject? record.requesterUserId)
  match roles with
  | .error reason => pure reason
  | .ok roles => read .step fun w => AuthorizationState.actionReason record roles w.execution.authorization

def evaluate (record : OutboxRecord) : Prog Label World Error CachedAuthorizationDecision := do
  let version ← getVersion record.tenantId
  let reason ← evaluateState record
  pure ⟨record.tenantId, authorizationRecordBinding H record, version.policyVersion, version.revocationEpoch, reason⟩

end CachedAuthorizationReplica

/-! ## The service -/

/-- The authoritative database with the denials of the version fence. -/
structure Versioned where
  world : World
  freshnessDenials : List (Denial FreshnessReason)

namespace VersionFencedSyntheticEffectService

/-- `_decision_failure`. -/
def decisionFailure (a : AuthorizationState) (record : OutboxRecord) (decision : CachedAuthorizationDecision) :
    Option FreshnessReason :=
  if decision.tenantId ≠ record.tenantId then some .tenantBindingMismatch
  else if decision.recordBindingHash ≠ authorizationRecordBinding H record then some .decisionBindingMismatch
  else
    match a.version? record.tenantId with
    | none => some .authoritativeVersionNotFound
    | some authoritative =>
      if decision.revocationEpoch ≠ authoritative.revocationEpoch then some .revocationEpochMismatch
      else if decision.policyVersion ≠ authoritative.policyVersion then some .policyVersionMismatch
      else if decision.reason ≠ .allowed then some .cachedAuthorizationDenied
      else none

/-- `execute_with_decision`. -/
def executeWithDecision (record : OutboxRecord) (decision : CachedAuthorizationDecision) :
    Prog Label Versioned Error EffectExecution :=
  attempt .step fun v =>
    let tables : EffectTables FreshnessReason := ⟨v.world.execution.ledger, v.freshnessDenials⟩
    let (answer, tables) := EffectTables.settle .freshness
      (tables.execute "authorization freshness denial binding mismatch"
        (decisionFailure H v.world.execution.authorization record decision) record) tables
    (answer, { v with
      world := { v.world with execution := { v.world.execution with ledger := tables.ledger } }
      freshnessDenials := tables.denials })

end VersionFencedSyntheticEffectService

end Aegis.Effects
