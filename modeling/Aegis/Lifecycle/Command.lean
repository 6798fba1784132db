/-
  Aegis.Lifecycle.Command — lifecycle commands, their receipts and the errors of the layers
  that execute them (checkpoint_lifecycle_fencing.py, checkpoint_lifecycle_capabilities.py
  and the reason enumerations of the journal, provider and outcome modules).

  A `Command` is what `CheckpointLifecycleCommand.__post_init__` lets through: the checks are
  fields, and `Command.make` is the constructor that makes them.
-/

import Aegis.Data.Json

namespace Aegis.Lifecycle

open Data

/-- `CheckpointLifecycleCommandOperation`, and with the same values `CheckpointLifecycleCapability`. -/
inductive Operation where
  | migration | snapshot | restore
  deriving DecidableEq, Repr

namespace Operation

def value : Operation → String
  | migration => "checkpoint_encryption_migration"
  | snapshot => "checkpoint_backup_snapshot"
  | restore => "checkpoint_backup_restore"

def ofValue? (s : String) : Option Operation := [migration, snapshot, restore].find? (·.value = s)

@[simp] theorem ofValue?_value (o : Operation) : ofValue? o.value = some o := by
  cases o <;> decide

theorem value_injective : Function.Injective value := by
  intro a b h
  have := congrArg ofValue? h
  simpa using this

end Operation

/-! ## Commands -/

@[ext] structure Command where
  commandId : String
  operation : Operation
  fenceToken : Nat
  expectedAnchorFingerprint : String
  resourceId : String
  commandId_ok : blank commandId = false
  fenceToken_ok : 1 ≤ fenceToken
  anchor_ok : blank expectedAnchorFingerprint = false
  resourceId_ok : blank resourceId = false
  deriving DecidableEq

namespace Command

/-- `__post_init__`; an error is the text of the ValueError. -/
def make (commandId : String) (operation : Operation) (fenceToken : Nat) (expectedAnchorFingerprint resourceId : String) :
    Except String Command :=
  if h1 : blank commandId = true then .error "checkpoint lifecycle command id must be non-empty"
  else if h2 : fenceToken < 1 then .error "checkpoint lifecycle fence token must be positive"
  else if h3 : blank expectedAnchorFingerprint = true then
    .error "checkpoint lifecycle anchor fingerprint must be non-empty"
  else if h4 : blank resourceId = true then .error "checkpoint lifecycle resource id must be non-empty"
  else .ok {
    commandId, operation, fenceToken, expectedAnchorFingerprint, resourceId
    commandId_ok := by simpa using h1
    fenceToken_ok := by omega
    anchor_ok := by simpa using h3
    resourceId_ok := by simpa using h4 }

@[simp] theorem make_self (c : Command) :
    make c.commandId c.operation c.fenceToken c.expectedAnchorFingerprint c.resourceId = .ok c := by
  have := c.fenceToken_ok
  simp [make, c.commandId_ok, c.anchor_ok, c.resourceId_ok, show ¬ c.fenceToken < 1 by omega]

theorem of_make {i o n a r} {c : Command} (h : make i o n a r = .ok c) :
    c.commandId = i ∧ c.operation = o ∧ c.fenceToken = n ∧ c.expectedAnchorFingerprint = a ∧ c.resourceId = r := by
  unfold make at h
  split_ifs at h
  cases h
  exact ⟨rfl, rfl, rfl, rfl, rfl⟩

def digest (H : Hashing) (c : Command) : String :=
  H.sha256 (.obj [("command_id", .str c.commandId),
    ("expected_anchor_fingerprint", .str c.expectedAnchorFingerprint), ("fence_token", .int c.fenceToken),
    ("operation", .str c.operation.value), ("resource_id", .str c.resourceId)])

end Command

/-- `CheckpointLifecycleCommandReceipt`. -/
structure CommandReceipt where
  commandId : String
  operation : Operation
  fenceToken : Nat
  commandDigest : String
  anchorFingerprintAfter : String
  providerId : String
  replayed : Bool
  deriving DecidableEq, Repr

/-! ## Errors -/

inductive JournalFault where
  | none | afterPreparedBeforeProvider | afterProviderBeforeCommit | afterCommitBeforeResponse
  deriving DecidableEq, Repr

inductive ProviderFault where
  | none | afterPrepareBeforeMutation | afterMutationBeforeReceipt | afterReceiptBeforeResponse
  deriving DecidableEq, Repr

/-- `CheckpointLifecycleJournalReason`. -/
inductive JournalReason where
  | integrityFailed | commandConflict | commandMissing | fenceStale | stateInvalid | reconciliationRequired
  | reconciliationUnprovable | providerIdMismatch | anchorFenceMismatch | operationArgumentsInvalid | syntheticCrash
  deriving DecidableEq, Repr

/-- `ProviderCommandStateReason`. -/
inductive ProviderReason where
  | storeStateInvalid | integrityFailed | commandConflict | commandMissing | argumentConflict | stateInvalid
  | reconciliationUnprovable | syntheticCrash
  deriving DecidableEq, Repr

/-- `ProviderLifecycleOutcomeReason`. -/
inductive OutcomeReason where
  | storeStateInvalid | receiptIntegrityFailed | commandConflict | receiptNotFound | providerIdMismatch
  | anchorPreconditionMismatch | anchorPostconditionMismatch | operationArgumentsInvalid
  deriving DecidableEq, Repr

inductive Error where
  | value (text : String)
  | journal (reason : JournalReason) (commandId : Option String) (fault : Option JournalFault)
  | provider (reason : ProviderReason) (commandId : Option String) (fault : Option ProviderFault)
  | outcome (reason : OutcomeReason) (commandId : Option String)
  /-- `CheckpointLifecycleCapabilityError(CAPABILITY_UNSUPPORTED)`. -/
  | capability (capability : Operation)
  /-- `CheckpointExternalLifecycleError(ANCHOR_SNAPSHOT_INVALID)`. -/
  | anchorSnapshot
  /-- `CheckpointConfidentialityError` from a stored row that is no envelope. -/
  | envelope
  /-- `sqlite3.IntegrityError`. -/
  | sqlite
  /-- Whatever the lifecycle operation itself raised. -/
  | raised
  /-- `RecursionError`. -/
  | recursion
  deriving DecidableEq, Repr

/-! ## Capabilities -/

/-- What `require_lifecycle_capability` looks at on a provider. `commandAware` is
    `provider_internal_crash_recovery` with a callable `execute_lifecycle_command`. -/
structure ProviderFace where
  providerId : String
  capabilities : List Operation
  directOperations : List Operation
  commandAware : Bool

def requireLifecycleCapability (p : ProviderFace) (c : Operation) : Except Error Unit :=
  if c ∉ p.capabilities ∨ ¬ (c ∈ p.directOperations ∨ p.commandAware = true) then .error (.capability c)
  else .ok ()

/-! ## Operation arguments -/

/-- The four optional paths of `execute`. A path stands for its resolved form. -/
structure Args where
  checkpointDestination : Option String
  anchorDestination : Option String
  backupDatabasePath : Option String
  backupAnchorPath : Option String
  deriving DecidableEq, Repr

def Args.none : Args := ⟨.none, .none, .none, .none⟩

/-- The test of `_validate_operation_arguments` and of the provider's `_validate_arguments`. -/
def Args.missing (c : Command) (a : Args) : Prop :=
  (c.operation = .snapshot ∧ (a.checkpointDestination = .none ∨ a.anchorDestination = .none)) ∨
    (c.operation = .restore ∧ (a.backupDatabasePath = .none ∨ a.backupAnchorPath = .none))

instance (c : Command) (a : Args) : Decidable (a.missing c) := by unfold Args.missing; infer_instance

end Aegis.Lifecycle
