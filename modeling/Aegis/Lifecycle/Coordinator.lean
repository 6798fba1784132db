/-
  Aegis.Lifecycle.Coordinator — `DurableSyntheticCheckpointLifecycleCoordinator`: what
  `issue_command`, `execute`, `reconcile` and reopening do, transaction by transaction
  (checkpoint_lifecycle_journal.py).

  The lifecycle provider is a parameter: a call hands it the command (`invoke`) and observes
  the state it is bound to (`live`). What the operation does this time (`Behaviour`) and the
  armed faults are arguments of the call. Reads outside BEGIN IMMEDIATE are transactions of
  their own, so `_load_record_for_command` makes two.

  `invocations` and `starters` are histories: the ids handed to the provider, and which call
  moved which row to PROVIDER_STARTED.
-/

import Aegis.Txn.System
import Aegis.Lifecycle.Journal

namespace Aegis.Lifecycle

open Data Txn Prog

inductive Label where
  | step
  /-- A transaction that writes the state and tag of the caller's copy of a row. -/
  | write (copy : JournalRecord)

structure Provider (π : Type) where
  face : ProviderFace
  live : π → Live
  /-- What others do to the live state between calls. -/
  disturb : (Live → Live) → π → π
  invoke : Command → Args → Behaviour → ProviderFault → Prog Label π Error Unit

structure World (π : Type) where
  journal : Journal
  provider : π
  invocations : List String
  starters : List (String × Nat)

variable {π : Type}

def providerLens : Lens (World π) π where
  get w := w.provider
  set p w := { w with provider := p }
  get_set _ _ := rfl
  set_get _ := rfl
  set_set _ _ _ := rfl

inductive Answer where
  | command (c : Command)
  | receipt (r : CommandReceipt)
  | done
  deriving DecidableEq

namespace Coordinator

variable (H : Hashing) (key : String) (P : Provider π)

/-- `anchor_fingerprint`. -/
def anchorFingerprint : Prog Label (World π) Error String :=
  read .step fun w => (P.live w.provider).anchorFingerprint H

def issueCommand (commandId : String) (operation : Operation) (resourceId : String) :
    Prog Label (World π) Error Command := do
  raiseIf (blank commandId = true ∨ blank resourceId = true)
    (.value "checkpoint lifecycle command and resource ids must be non-empty")
  let currentAnchor ← anchorFingerprint H P
  let preObservation ← query .step fun w => (P.live w.provider).operationObservation H operation
  raiseIf (preObservation.str? "anchor_fingerprint" ≠ some currentAnchor)
    (.journal .anchorFenceMismatch (some commandId) none)
  atomic .step fun w => do
    let (command, j) ← w.journal.issueCommand H key commandId operation resourceId currentAnchor preObservation
      P.face.providerId
    pure (command, { w with journal := j })

/-- `_load_record_for_command`. -/
def loadRecordForCommand (command : Command) : Prog Label (World π) Error (JournalRecord × Nat) := do
  let m ← query .step fun w => w.journal.readMeta H key
  let record ← query .step fun w => w.journal.loadRecord H key command P.face.providerId
  pure (record, m.highestCommittedFence)

/-- `_set_state`. -/
def setState (me : Nat) (record : JournalRecord) (state : JournalState) :
    Prog Label (World π) Error JournalRecord :=
  atomic (.write record) fun w => do
    let (record', j) ← w.journal.setState H key record state
    pure (record', { w with
      journal := j
      starters := if state = .providerStarted then w.starters ++ [(record.command.commandId, me)] else w.starters })

/-- `_commit_receipt`. -/
def commitReceipt (record : JournalRecord) (anchorFingerprintAfter : String) :
    Prog Label (World π) Error CommandReceipt :=
  atomic (.write record) fun w => do
    let (receipt, j) ← w.journal.commitReceipt H key record anchorFingerprintAfter
    pure (receipt, { w with journal := j })

/-- A row found PROVIDER_STARTED is moved to RECONCILIATION_REQUIRED first. -/
def settleStarted (me : Nat) (record : JournalRecord) : Prog Label (World π) Error JournalRecord :=
  if record.state = .providerStarted then setState H key me record .reconciliationRequired else pure record

/-- `_invoke_provider`. -/
def invokeProvider (command : Command) (args : Args) (behaviour : Behaviour) (providerFault : ProviderFault) :
    Prog Label (World π) Error Unit := do
  modify .step fun w => { w with invocations := w.invocations ++ [command.commandId] }
  (P.invoke command args behaviour providerFault).zoom providerLens

/-- `execute` from the transition to PROVIDER_STARTED on. -/
def startProvider (me : Nat) (command : Command) (record : JournalRecord) (args : Args) (behaviour : Behaviour)
    (providerFault : ProviderFault) (fault : JournalFault) : Prog Label (World π) Error CommandReceipt := do
  let record ← setState H key me record .providerStarted
  (invokeProvider P command args behaviour providerFault).handle fun _ => do
    let _ ← setState H key me record .reconciliationRequired
    fail (.journal .reconciliationRequired (some command.commandId) none)
  raiseIf (fault = .afterProviderBeforeCommit) (.journal .syntheticCrash (some command.commandId) (some fault))
  let anchor ← anchorFingerprint H P
  let receipt ← commitReceipt H key record anchor
  raiseIf (fault = .afterCommitBeforeResponse) (.journal .syntheticCrash (some command.commandId) (some fault))
  pure receipt

/-- `execute` on a row that was not COMMITTED. -/
def executeOpen (me : Nat) (command : Command) (record : JournalRecord) (highestCommitted : Nat) (args : Args)
    (behaviour : Behaviour) (providerFault : ProviderFault) (fault : JournalFault) :
    Prog Label (World π) Error CommandReceipt := do
  let record ← settleStarted H key me record
  raiseIf (record.state = .reconciliationRequired) (.journal .reconciliationRequired (some command.commandId) none)
  raiseIf (record.state ≠ .prepared) (.journal .stateInvalid (some command.commandId) none)
  raiseIf (command.fenceToken ≤ highestCommitted) (.journal .fenceStale (some command.commandId) none)
  let anchor ← anchorFingerprint H P
  raiseIf (command.expectedAnchorFingerprint ≠ anchor) (.journal .anchorFenceMismatch (some command.commandId) none)
  raiseIf (args.missing command) (.journal .operationArgumentsInvalid (some command.commandId) none)
  ofResult (requireLifecycleCapability P.face command.operation)
  raiseIf (fault = .afterPreparedBeforeProvider) (.journal .syntheticCrash (some command.commandId) (some fault))
  startProvider H key P me command record args behaviour providerFault fault

def execute (me : Nat) (command : Command) (args : Args) (behaviour : Behaviour) (providerFault : ProviderFault)
    (fault : JournalFault) : Prog Label (World π) Error CommandReceipt := do
  let (record, highestCommitted) ← loadRecordForCommand H key P command
  if record.state = .committed then ofResult (receiptFromRecord H record true)
  else executeOpen H key P me command record highestCommitted args behaviour providerFault fault

/-- The end of `reconcile`: only a migration can be proven. -/
def proveCommit (command : Command) (record : JournalRecord) : Prog Label (World π) Error CommandReceipt :=
  if command.operation = .migration then do
    let current ← query .step fun w => (P.live w.provider).migrationObservation H
    if migrationCommitProven record.preObservation current = true then do
      let receipt ← commitReceipt H key record ((current.str? "anchor_fingerprint").getD "")
      pure { receipt with replayed := true }
    else fail (.journal .reconciliationUnprovable (some command.commandId) none)
  else fail (.journal .reconciliationUnprovable (some command.commandId) none)

/-- `reconcile` up to the point where the three coordinators differ; `resolve` is what each does there. -/
def reconcileWith (resolve : JournalRecord → Prog Label (World π) Error CommandReceipt) (me : Nat) (command : Command) :
    Prog Label (World π) Error CommandReceipt := do
  let (record, _) ← loadRecordForCommand H key P command
  if record.state = .committed then ofResult (receiptFromRecord H record true)
  else do
    let record ← settleStarted H key me record
    raiseIf (record.state ≠ .reconciliationRequired)
      (.journal .reconciliationUnprovable (some command.commandId) none)
    resolve record

def reconcile (me : Nat) (command : Command) : Prog Label (World π) Error CommandReceipt :=
  reconcileWith H key P (proveCommit H key P command) me command

/-- `_verify_store`. -/
def verifyStore : Prog Label (World π) Error Unit := do
  let m ← query .step fun w => w.journal.readMeta H key
  query .step fun w => Journal.verifyRows H key m w.journal

/-- `__init__` on an existing store: `_verify_store`, then `_recover_started_commands`. -/
def reopen : Prog Label (World π) Error Unit := do
  verifyStore H key
  atomic .step fun w => do
    let ((), j) ← w.journal.recoverStartedCommands H key
    pure ((), { w with journal := j })

/-! ## The system -/

inductive Call where
  | issue (commandId : String) (operation : Operation) (resourceId : String)
  | execute (command : Command) (args : Args) (behaviour : Behaviour) (providerFault : ProviderFault)
      (fault : JournalFault)
  | reconcile (command : Command) (args : Args) (behaviour : Behaviour) (providerFault : ProviderFault)
  | reopen
  /-- Anyone else changes the live state. -/
  | external (change : Live → Live)

/-- The calls of a coordinator whose `reconcile` ends in `resolve`. -/
def body (resolve : Command → Args → Behaviour → ProviderFault → JournalRecord →
    Prog Label (World π) Error CommandReceipt) (me : Nat) : Call → Prog Label (World π) Error Answer
  | .issue commandId operation resourceId => do
    let command ← issueCommand H key P commandId operation resourceId
    pure (.command command)
  | .execute command args behaviour providerFault fault => do
    let receipt ← execute H key P me command args behaviour providerFault fault
    pure (.receipt receipt)
  | .reconcile command args behaviour providerFault => do
    let receipt ← reconcileWith H key P (resolve command args behaviour providerFault) me command
    pure (.receipt receipt)
  | .reopen => do
    reopen H key
    pure .done
  | .external change => do
    modify .step fun w => { w with provider := P.disturb change w.provider }
    pure .done

/-- The journal's own coordinator: `reconcile` takes no operation arguments. -/
def journalBody (me : Nat) : Call → Prog Label (World π) Error Answer :=
  body H key P (fun command _ _ _ => proveCommit H key P command) me

/-- A journal just created, with any provider state. -/
def Fresh (w : World π) : Prop := w.journal = Journal.create H key ∧ w.invocations = [] ∧ w.starters = []

end Coordinator

/-! ## A plain lifecycle provider -/

/-- The live state, and as histories the commands whose operation was started and the ones whose
    operation ran to completion. -/
structure Plain where
  live : Live
  starts : List Command
  completions : List Command
  deriving DecidableEq

/-- `migrate_to_active_encryption_key`, `snapshot_pair` or `restore_pair`, called for `c`. -/
def Plain.operate (c : Command) (behaviour : Behaviour) : Prog Label Plain Error Unit :=
  attempt .step fun p =>
    let (live, completed) := behaviour p.live
    (if completed then .ok () else .error .raised,
      { live, starts := p.starts ++ [c], completions := if completed then p.completions ++ [c] else p.completions })

/-- A provider that only has the three operations, `LocalSqliteCheckpointLifecycleProvider` for one. -/
def plainProvider (face : ProviderFace) : Provider Plain where
  face
  live p := p.live
  disturb f p := { p with live := f p.live }
  invoke c _ behaviour _ := Plain.operate c behaviour

/-! ## A small instance

One checkpoint still encrypted under the old key `k1`. -/

namespace Sample

def live : Live where
  database := ⟨[⟨.str "row", some "k1"⟩], []⟩
  anchor := ⟨[.str "head"], []⟩
  activeKeyId := "k2"
  files := []

def operations : List Operation := [.migration, .snapshot, .restore]

def face : ProviderFace := ⟨"plain", operations, operations, false⟩

def world : World Plain := ⟨Journal.create Hashing.light "key", ⟨live, [], []⟩, [], []⟩

/-- The `n`-th command issued, when the anchor is still the first one. -/
def command (commandId : String) (operation : Operation) (n : Nat) (h1 : blank commandId = false) (h2 : 1 ≤ n) :
    Command where
  commandId
  operation
  fenceToken := n
  expectedAnchorFingerprint := live.anchorFingerprint Hashing.light
  resourceId := "resource"
  commandId_ok := h1
  fenceToken_ok := h2
  anchor_ok := live.anchorFingerprint_not_blank _
  resourceId_ok := by decide

theorem first_not_blank : blank "first" = false := by decide

theorem second_not_blank : blank "second" = false := by decide

theorem first_fence : 1 ≤ 1 := Nat.le_refl 1

theorem second_fence : 1 ≤ 2 := Nat.le_succ 1

def first (operation : Operation) : Command := command "first" operation 1 first_not_blank first_fence

def second (operation : Operation) : Command := command "second" operation 2 second_not_blank second_fence

def args : Args := ⟨some "database copy", some "anchor copy", none, none⟩

/-- Every row is encrypted under the active key and the anchor moves on. -/
def migrate : Behaviour := fun l =>
  ({ l with
    database := ⟨l.database.checkpoints.map fun r => { r with keyId := some l.activeKeyId },
      l.database.writes.map fun r => { r with keyId := some l.activeKeyId }⟩
    anchor := { l.anchor with checkpointHeads := l.anchor.checkpointHeads ++ [.str l.activeKeyId] } }, true)

/-- The copies are written; the live state stays. -/
def snapshot : Behaviour := fun l =>
  ({ l with files := [("database copy", .database l.database), ("anchor copy", .anchor l.anchor)] }, true)

def raise : Behaviour := fun l => (l, false)

end Sample

end Aegis.Lifecycle
