/-
  Aegis.Lifecycle.CrashSafeProvider — `SyntheticCrashSafeOutcomeReceiptLifecycleProvider`,
  transaction by transaction (checkpoint_lifecycle_provider_state_machine.py).

  `execute_lifecycle_command` and `recover_lifecycle_command` call each other: `depth` bounds
  how often, and running out of it is Python's RecursionError.
-/

import Aegis.Lifecycle.Coordinator
import Aegis.Lifecycle.ProviderStore

namespace Aegis.Lifecycle

open Data Txn Prog

structure ProviderWorld where
  commandStore : CommandStore
  outcomeStore : OutcomeStore
  inner : Plain

/-- What the provider was built with: the inner provider's capabilities and the keys of its stores. -/
structure CrashSafe where
  capabilities : List Operation
  commandKey : String
  outcomeKey : String

namespace CrashSafe

def providerId : String := "synthetic-crash-safe-provider-outcome-checkpoint-lifecycle"

def face (S : CrashSafe) : ProviderFace := ⟨providerId, S.capabilities, [], true⟩

def innerLens : Lens ProviderWorld Plain where
  get p := p.inner
  set x p := { p with inner := x }
  get_set _ _ := rfl
  set_get _ := rfl
  set_set _ _ _ := rfl

variable (H : Hashing) (S : CrashSafe)

def argumentDigest (c : Command) (a : Args) : String :=
  H.sha256 (.obj [("anchor_destination", .opt .str a.anchorDestination),
    ("backup_anchor_path", .opt .str a.backupAnchorPath), ("backup_database_path", .opt .str a.backupDatabasePath),
    ("checkpoint_destination", .opt .str a.checkpointDestination), ("operation", .str c.operation.value)])

/-- `_receipt`. -/
def receipt (c : Command) (anchorFingerprintAfter : String) : OutcomeReceipt where
  commandId := c.commandId
  operation := c.operation
  fenceToken := c.fenceToken
  resourceId := c.resourceId
  commandDigest := c.digest H
  expectedAnchorFingerprint := c.expectedAnchorFingerprint
  anchorFingerprintAfter
  providerId
  replayed := false

/-- The proof `recover_lifecycle_command` asks for, by operation. -/
def operationProven (l : Live) (c : Command) (preObservation : Json) (a : Args) : Except Error Bool :=
  match c.operation with
  | .migration => do
    let current ← l.providerMigrationObservation H
    pure (migrationCommitProven preObservation current)
  | .snapshot => l.snapshotCommitProven H preObservation a
  | .restore => .ok (l.restoreCommitProven H preObservation)

/-! ## Transactions -/

def anchorFingerprint : Prog Label ProviderWorld Error String :=
  read .step fun p => p.inner.live.anchorFingerprint H

def getOutcome (c : Command) : Prog Label ProviderWorld Error (Option OutcomeReceipt) :=
  query .step fun p => p.outcomeStore.get H S.outcomeKey c

def requireCommand (c : Command) (a : Args) : Prog Label ProviderWorld Error ProviderRecord :=
  query .step fun p => p.commandStore.require H S.commandKey c (argumentDigest H c a)

def prepare (c : Command) (a : Args) (preObservation : Json) : Prog Label ProviderWorld Error ProviderRecord :=
  atomic .step fun p => do
    let (record, s) ← p.commandStore.prepare H S.commandKey c (argumentDigest H c a) preObservation providerId
    pure (record, { p with commandStore := s })

def setState (record : ProviderRecord) (state : ProviderState) (anchorFingerprintAfter : Option String) :
    Prog Label ProviderWorld Error ProviderRecord :=
  atomic .step fun p => do
    let (record, s) ← p.commandStore.setState H S.commandKey record state anchorFingerprintAfter
    pure (record, { p with commandStore := s })

def putOutcome (r : OutcomeReceipt) : Prog Label ProviderWorld Error OutcomeReceipt :=
  atomic .step fun p => do
    let (r, s) ← p.outcomeStore.put H S.outcomeKey r
    pure (r, { p with outcomeStore := s })

/-! ## Calls -/

/-- `execute_lifecycle_command` from the transition to MUTATION_STARTED on. -/
def mutate (c : Command) (record : ProviderRecord) (behaviour : Behaviour) (fault : ProviderFault) :
    Prog Label ProviderWorld Error OutcomeReceipt := do
  let record ← setState H S record .mutationStarted none
  (Plain.operate c behaviour).zoom innerLens
  raiseIf (fault = .afterMutationBeforeReceipt) (.provider .syntheticCrash (some c.commandId) (some fault))
  let anchor ← anchorFingerprint H
  let stored ← putOutcome H S (receipt H c anchor)
  let _ ← setState H S record .committed (some stored.anchorFingerprintAfter)
  raiseIf (fault = .afterReceiptBeforeResponse) (.provider .syntheticCrash (some c.commandId) (some fault))
  pure stored

/-- `execute_lifecycle_command` for a prepared record. -/
def mutatePrepared (c : Command) (record : ProviderRecord) (behaviour : Behaviour) (fault : ProviderFault) :
    Prog Label ProviderWorld Error OutcomeReceipt := do
  raiseIf (record.state = .committed) (.provider .stateInvalid (some c.commandId) none)
  let anchor ← anchorFingerprint H
  raiseIf (c.expectedAnchorFingerprint ≠ anchor) (.outcome .anchorPreconditionMismatch (some c.commandId))
  raiseIf (fault = .afterPrepareBeforeMutation) (.provider .syntheticCrash (some c.commandId) (some fault))
  mutate H S c record behaviour fault

/-- The body of `execute_lifecycle_command`; `recover` is its call of `recover_lifecycle_command`. -/
def executeWith (recover : Prog Label ProviderWorld Error OutcomeReceipt) (c : Command) (a : Args)
    (behaviour : Behaviour) (fault : ProviderFault) : Prog Label ProviderWorld Error OutcomeReceipt := do
  raiseIf (a.missing c) (.outcome .operationArgumentsInvalid (some c.commandId))
  let existing ← getOutcome H S c
  match existing with
  | some r => do
    let _ ← requireCommand H S c a
    pure { r with replayed := true }
  | none => do
    ofResult (requireLifecycleCapability S.face c.operation)
    let preObservation ← query .step fun p => p.inner.live.preObservation H c a
    let record ← prepare H S c a preObservation
    if record.state = .mutationStarted then recover else mutatePrepared H S c record behaviour fault

/-- `recover_lifecycle_command` for a record whose mutation was started. -/
def proveOutcome (c : Command) (a : Args) (record : ProviderRecord) : Prog Label ProviderWorld Error OutcomeReceipt := do
  raiseIf (record.state ≠ .mutationStarted) (.provider .stateInvalid (some c.commandId) none)
  let proven ← query .step fun p => operationProven H p.inner.live c record.preObservation a
  raiseIf (proven = false) (.provider .reconciliationUnprovable (some c.commandId) none)
  let anchor ← anchorFingerprint H
  let stored ← putOutcome H S (receipt H c anchor)
  let _ ← setState H S record .committed (some anchor)
  pure { stored with replayed := true }

/-- The body of `recover_lifecycle_command`; `execute` is its call of `execute_lifecycle_command`. -/
def recoverWith (execute : Prog Label ProviderWorld Error OutcomeReceipt) (c : Command) (a : Args) :
    Prog Label ProviderWorld Error OutcomeReceipt := do
  raiseIf (a.missing c) (.outcome .operationArgumentsInvalid (some c.commandId))
  let record ← requireCommand H S c a
  let existing ← getOutcome H S c
  match existing with
  | some r => do
    let _ ← if record.state ≠ .committed then setState H S record .committed (some r.anchorFingerprintAfter)
      else pure record
    pure { r with replayed := true }
  | none =>
    if record.state = .prepared then do
      let r ← execute
      pure { r with replayed := true }
    else proveOutcome H S c a record

mutual

def executeLifecycleCommand (depth : Nat) (c : Command) (a : Args) (behaviour : Behaviour) (fault : ProviderFault) :
    Prog Label ProviderWorld Error OutcomeReceipt :=
  match depth with
  | 0 => fail .recursion
  | depth + 1 => executeWith H S (recoverLifecycleCommand depth c a behaviour fault) c a behaviour fault

def recoverLifecycleCommand (depth : Nat) (c : Command) (a : Args) (behaviour : Behaviour) (fault : ProviderFault) :
    Prog Label ProviderWorld Error OutcomeReceipt :=
  match depth with
  | 0 => fail .recursion
  | depth + 1 => recoverWith H S (executeLifecycleCommand depth c a behaviour fault) c a

end

/-- Restart on the same files: both stores verify every row. -/
def reopen : Prog Label ProviderWorld Error Unit := do
  query .step fun p => p.commandStore.verifyAll H S.commandKey
  query .step fun p => p.outcomeStore.verifyAll H S.outcomeKey

/-! ## The system -/

inductive Call where
  | execute (command : Command) (args : Args) (behaviour : Behaviour) (fault : ProviderFault)
  | recover (command : Command) (args : Args) (behaviour : Behaviour) (fault : ProviderFault)
  | reopen
  | external (change : Live → Live)

def body (depth : Nat) : Call → Prog Label ProviderWorld Error (Option OutcomeReceipt)
  | .execute c a behaviour fault => do
    let r ← executeLifecycleCommand H S depth c a behaviour fault
    pure (some r)
  | .recover c a behaviour fault => do
    let r ← recoverLifecycleCommand H S depth c a behaviour fault
    pure (some r)
  | .reopen => do
    reopen H S
    pure none
  | .external change => do
    modify .step fun p => { p with inner := { p.inner with live := change p.inner.live } }
    pure none

/-- Stores just created, with any live state. -/
def Fresh (p : ProviderWorld) : Prop :=
  p.commandStore = [] ∧ p.outcomeStore = [] ∧ p.inner.starts = [] ∧ p.inner.completions = []

/-- The provider used directly: one call at a time. -/
def system (depth : Nat) : System Call Label ProviderWorld Error (Option OutcomeReceipt) where
  init := Fresh
  body _ := body H S depth
  start _ c := c.quiet
  ok _ _ := True

/-- The provider as the coordinator of checkpoint_lifecycle_outcome_receipts.py calls it. -/
def asProvider (depth : Nat) : Provider ProviderWorld where
  face := S.face
  live p := p.inner.live
  disturb f p := { p with inner := { p.inner with live := f p.inner.live } }
  invoke c a behaviour fault := do
    let _ ← executeLifecycleCommand H S depth c a behaviour fault
    pure ()

end CrashSafe

end Aegis.Lifecycle
