/-
  Aegis.Effects.Revalidation — execution-time revalidation of approved effects (revalidation.py):
  `_authorization_reason`, `SyntheticRevalidatingEffectService` and
  `RevalidatingDurableEffectWorker`, with the approvals and the outbox before them.

  Approvals and outbox share one file, authorization state, ledger and denials another; each
  transaction is on one of the two. Authorization may change in any way at any time.
-/

import Aegis.Effects.Outbox
import Aegis.Txn.System

namespace Aegis.Effects

open Data Txn Txn.Prog
open Approvals (ApprovalRecord ApprovalDb Principal ApprovalAction)

/-! ## Authorization -/

namespace AuthorizationState

def subject? (a : AuthorizationState) (userId : String) : Option SubjectRow :=
  Table.lookup SubjectRow.userId a.subjects userId

def resource? (a : AuthorizationState) (tenantId resource : String) : Option ResourceRow :=
  Table.lookup (fun r => (r.tenantId, r.resource)) a.resources (tenantId, resource)

def tenantPolicy? (a : AuthorizationState) (tenantId : String) : Option TenantPolicyRow :=
  Table.lookup TenantPolicyRow.tenantId a.tenantPolicies tenantId

/-- `_decode_roles`: a list of texts, or no role at all. -/
def decodeRoles : Json → List String
  | .cons (.str role) rest => if isTextList rest then role :: decodeRoles rest else []
  | _ => []
where
  isTextList : Json → Bool
    | .nil => true
    | .cons (.str _) rest => isTextList rest
    | _ => false

/-- `_authorization_reason` up to its second query: a reason against, or the subject's roles. -/
def subjectReason (record : OutboxRecord) : Option SubjectRow → Except ExecutionReason (List String)
  | none => .error .subjectNotFound
  | some subject =>
    if ¬ subject.active then .error .subjectInactive
    else if subject.tenantId ≠ record.tenantId then .error .tenantMembershipChanged
    else if ¬ record.normalizedArguments.isObj then .error .invalidBoundArguments
    else .ok (decodeRoles subject.rolesJson)

def accessReason (record : OutboxRecord) (roles : List String) : Option ResourceRow → ExecutionReason
  | none => .resourceNotFound
  | some resource =>
    if ¬ resource.enabled then .resourceDisabled
    else if resource.ownerUserId.any (· ≠ record.requesterUserId) then .resourceOwnerMismatch
    else if resource.requiredRole.any (· ∉ roles) then .requiredRoleMissing
    else .allowed

/-- The rest of `_authorization_reason`, with its second query. -/
def actionReason (record : OutboxRecord) (roles : List String) (a : AuthorizationState) : ExecutionReason :=
  match record.action with
  | .requestAccess =>
    match record.normalizedArguments.str? "resource" with
    | none => .invalidBoundArguments
    | some resource =>
      if resource = "" then .invalidBoundArguments
      else accessReason record roles (a.resource? record.tenantId resource)
  | .requestPasswordReset =>
    if (a.tenantPolicy? record.tenantId).any (·.passwordResetEnabled) then .allowed else .passwordResetDisabled

/-- `_authorization_reason`. -/
def authorizationReason (a : AuthorizationState) (record : OutboxRecord) : ExecutionReason :=
  match subjectReason record (a.subject? record.requesterUserId) with
  | .error reason => reason
  | .ok roles => actionReason record roles a

end AuthorizationState

/-! ## The pipeline -/

/-- The two files: approvals with their outbox; authorization with ledger and denials. -/
structure Pipeline where
  approvals : ApprovalDb
  outbox : Outbox
  authorization : AuthorizationState
  effects : EffectTables ExecutionReason

namespace Pipeline

variable (H : Hashing)

/-- A transaction on the outbox. -/
def onOutbox (f : Outbox → Except Error (OutboxRecord × Outbox)) : Prog Label Pipeline Error OutboxRecord :=
  atomic .step fun w => do
    let (row, outbox) ← f w.outbox
    pure (row, { w with outbox })

/-- `RevalidatingEffectOutboxStore.cancel`. -/
def cancel (approvalId idempotencyKey : String) : Prog Label Pipeline Error OutboxRecord := do
  let _ ← onOutbox fun o => o.cancel approvalId idempotencyKey
  query .step fun w => w.outbox.get approvalId

/-- What the service has against a first effect now. -/
def failure (w : Pipeline) (record : OutboxRecord) : Option ExecutionReason :=
  if w.authorization.authorizationReason record = .allowed then none else some (w.authorization.authorizationReason record)

/-- `SyntheticRevalidatingEffectService.execute`. -/
def execute (record : OutboxRecord) : Prog Label Pipeline Error EffectExecution :=
  attempt .step fun w =>
    let (answer, effects) := EffectTables.settle .executionAuthorization
      (w.effects.execute "authorization denial binding mismatch" (w.failure record) record) w.effects
    (answer, { w with effects })

/-- `RevalidatingDurableEffectWorker.deliver`. -/
def deliver (approvalId : String) (crashAfterEffect : Bool) : Prog Label Pipeline Error EffectExecution := do
  let current ← query .step fun w => w.outbox.get approvalId
  raiseIf (current.status = .cancelled) (.executionAuthorization .outboxCancelled)
  let record ← onOutbox fun o => o.beginDelivery approvalId
  let execution ← (execute record).handle fun
    | .executionAuthorization reason => do
      let _ ← cancel approvalId record.idempotencyKey
      fail (.executionAuthorization reason)
    | e => fail e
  raiseIf (crashAfterEffect = true) .workerCrash
  let _ ← onOutbox fun o => o.complete approvalId record.idempotencyKey
  pure execution

/-! ## The system -/

inductive Call where
  /-- An operation of `DurableApprovalStore`. -/
  | approvals (op : Approvals.Operation)
  /-- `resolve_after_review_and_enqueue`. -/
  | enqueue (approvalId : String) (requester : Principal) (action : ApprovalAction) (arguments : Json) (now later : Int)
  | deliver (approvalId : String) (crashAfterEffect : Bool)
  /-- The current authorization state becomes another. -/
  | authorize (change : AuthorizationState → AuthorizationState)

inductive Answer where
  | record (r : ApprovalRecord)
  | execution (e : EffectExecution)
  | done

def body : Call → Prog Label Pipeline Error Answer
  | .approvals op => do
    let r ← atomic .step fun w => do
      let (r, approvals) ← Approvals.DurableApprovalStore.transaction H op w.approvals
      pure (r, { w with approvals })
    pure (.record r)
  | .enqueue approvalId requester action arguments now later => do
    let r ← atomic .step fun w => do
      let (r, approvals, outbox) ←
        Outbox.resolveAfterReviewAndEnqueue H approvalId requester action arguments now later w.approvals w.outbox
      pure (r, { w with approvals, outbox })
    pure (.record r)
  | .deliver approvalId crashAfterEffect => do
    let e ← deliver approvalId crashAfterEffect
    pure (.execution e)
  | .authorize change => do
    modify .step fun w => { w with authorization := change w.authorization }
    pure .done

/-- Nothing is approved, queued or executed yet. -/
def Fresh (w : Pipeline) : Prop :=
  w.approvals = ⟨[], []⟩ ∧ w.outbox = [] ∧ w.effects = ⟨[], []⟩

/-- Any number of calls, interleaved transaction by transaction. -/
def system : System Call Label Pipeline Error Answer where
  init := Fresh
  body _ := body H
  start _ _ := True
  ok _ _ := True

instance : ∀ k c, Decidable ((system H).start k c) := fun _ _ => inferInstanceAs (Decidable True)

instance : ∀ l s, Decidable ((system H).ok l s) := fun _ _ => inferInstanceAs (Decidable True)

end Pipeline

end Aegis.Effects
