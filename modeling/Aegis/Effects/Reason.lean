/-
  Aegis.Effects.Reason — the reason codes of the effect boundary and its errors
  (control_plane_recovery.py, protected_checkpoint.py, checkpoint_receipt_boundary.py,
  rollback_anchor.py, signed_authorization.py, versioned_revalidation.py, revalidation.py,
  durable.py; the approval errors are those of approvals/store.py).
-/

import Mathlib.Logic.Basic

namespace Aegis.Effects

/-- `ControlPlaneCrashPoint`. -/
inductive CrashPoint where
  | afterPrepare | afterExecutionApply | afterMarkApplied
  deriving DecidableEq, Repr

/-- `ControlPlaneConvergenceReason`. -/
inductive ConvergenceReason where
  | changePending | executionStateNotInitialized | executionGenerationMismatch | changeConflict
  deriving DecidableEq, Repr

/-- `ProtectedCheckpointReason`. -/
inductive CheckpointReason where
  | notInitialized | localGenerationRollback | checkpointBehind | journalHeadMismatch | journalChainInvalid
  | checkpointConflict
  deriving DecidableEq, Repr

/-- `CheckpointReceiptReason`. -/
inductive ReceiptReason where
  | authorityMismatch | audienceMismatch | keyMismatch | signatureInvalid | historyInvalid | equivocationDetected
  | localGenerationMismatch | localJournalHeadMismatch
  deriving DecidableEq, Repr

/-- `RollbackAnchorReason`. -/
inductive AnchorReason where
  | outboxCancelled | anchorNotInitialized | controlPlaneGenerationMismatch | envelopeSignatureInvalid
  deriving DecidableEq, Repr

/-- `AuthorizationProvenanceReason`. -/
inductive ProvenanceReason where
  | outboxCancelled | issuerMismatch | audienceMismatch | untrustedSigningKey | keyEpochMismatch | signatureInvalid
  | decisionNotYetValid | decisionExpired | tenantBindingMismatch | decisionBindingMismatch
  | authoritativeVersionNotFound | revocationEpochMismatch | policyVersionMismatch | cachedAuthorizationDenied
  deriving DecidableEq, Repr

/-- `ExecutionAuthorizationReason`. -/
inductive ExecutionReason where
  | allowed | subjectNotFound | subjectInactive | tenantMembershipChanged | requiredRoleMissing | resourceNotFound
  | resourceDisabled | resourceOwnerMismatch | passwordResetDisabled | invalidBoundArguments | outboxCancelled
  deriving DecidableEq, Repr

def ExecutionReason.value : ExecutionReason → String
  | allowed => "allowed"
  | subjectNotFound => "subject_not_found"
  | subjectInactive => "subject_inactive"
  | tenantMembershipChanged => "tenant_membership_changed"
  | requiredRoleMissing => "required_role_missing"
  | resourceNotFound => "resource_not_found"
  | resourceDisabled => "resource_disabled"
  | resourceOwnerMismatch => "resource_owner_mismatch"
  | passwordResetDisabled => "password_reset_disabled"
  | invalidBoundArguments => "invalid_bound_arguments"
  | outboxCancelled => "outbox_cancelled"

/-- `AuthorizationFreshnessReason`. -/
inductive FreshnessReason where
  | outboxCancelled | decisionBindingMismatch | tenantBindingMismatch | authoritativeVersionNotFound
  | revocationEpochMismatch | policyVersionMismatch | cachedAuthorizationDenied
  deriving DecidableEq, Repr

/-- What a call may raise. -/
inductive Error where
  | key (message : String)
  | value (message : String)
  /-- A pydantic ValidationError. -/
  | validation
  /-- An sqlite3.IntegrityError. -/
  | integrity
  | convergence (reason : ConvergenceReason)
  | controlPlaneCrash (point : CrashPoint)
  | protectedCheckpoint (reason : CheckpointReason)
  | protectedCheckpointCrash
  | receipt (reason : ReceiptReason)
  | anchor (reason : AnchorReason)
  | provenance (reason : ProvenanceReason)
  | binding (message : String)
  | approvalState (message : String)
  | approvalNotFound (message : String)
  | approvalAuthorization (message : String)
  | approvalBinding (message : String)
  | executionAuthorization (reason : ExecutionReason)
  | freshness (reason : FreshnessReason)
  | workerCrash
  deriving DecidableEq, Repr

end Aegis.Effects
