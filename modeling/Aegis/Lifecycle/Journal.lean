/-
  Aegis.Lifecycle.Journal — the tables of the durable lifecycle journal and its transactions
  (checkpoint_lifecycle_journal.py).

  Rows are stored as SQLite has them, each with an HMAC over everything in it; reading one
  back (`rowToRecord`) recomputes the digest and the tag. Every transaction is a function of
  the whole file that either raises or gives the file to commit.
-/

import Aegis.Lifecycle.Live

namespace Aegis.Lifecycle

open Data

def journalPolicyVersion : String := "durable-synthetic-checkpoint-lifecycle-journal-v1"
def journalSchemaVersion : String := "p4m-lifecycle-journal-schema-v1"

inductive JournalState where
  | prepared | providerStarted | reconciliationRequired | committed
  deriving DecidableEq, Repr

namespace JournalState

def value : JournalState → String
  | prepared => "prepared"
  | providerStarted => "provider_started"
  | reconciliationRequired => "reconciliation_required"
  | committed => "committed"

def ofValue? (s : String) : Option JournalState :=
  [prepared, providerStarted, reconciliationRequired, committed].find? (·.value = s)

@[simp] theorem ofValue?_value (s : JournalState) : ofValue? s.value = some s := by
  cases s <;> decide

theorem value_injective : Function.Injective value := by
  intro a b h
  have := congrArg ofValue? h
  simpa using this

end JournalState

structure JournalMeta where
  schemaVersion : String
  highestIssuedFence : Nat
  highestCommittedFence : Nat
  integrityTag : String
  deriving DecidableEq, Repr

structure JournalRow where
  commandId : String
  operation : String
  fenceToken : Nat
  expectedAnchorFingerprint : String
  resourceId : String
  commandDigest : String
  state : String
  preObservationJson : Json
  anchorFingerprintAfter : Option String
  providerId : String
  integrityTag : String
  deriving DecidableEq, Repr

structure Journal where
  journalMeta : JournalMeta
  lifecycleCommands : List JournalRow
  deriving DecidableEq, Repr

/-- `DurableCheckpointLifecycleJournalRecord`. -/
structure JournalRecord where
  command : Command
  state : JournalState
  preObservation : Json
  anchorFingerprintAfter : Option String
  providerId : String
  deriving DecidableEq

variable (H : Hashing) (key : String)

def metaTag (highestIssuedFence highestCommittedFence : Nat) : String :=
  H.hmac key (.obj [("highest_committed_fence", .int highestCommittedFence),
    ("highest_issued_fence", .int highestIssuedFence), ("policy_version", .str journalPolicyVersion),
    ("schema_version", .str journalSchemaVersion)])

def commandTag (command : Command) (state : JournalState) (preObservationJson : Json)
    (anchorFingerprintAfter : Option String) (providerId : String) : String :=
  H.hmac key (.obj [("anchor_fingerprint_after", .opt .str anchorFingerprintAfter),
    ("command_digest", .str (command.digest H)), ("command_id", .str command.commandId),
    ("expected_anchor_fingerprint", .str command.expectedAnchorFingerprint), ("fence_token", .int command.fenceToken),
    ("operation", .str command.operation.value), ("policy_version", .str journalPolicyVersion),
    ("pre_observation_json", preObservationJson), ("provider_id", .str providerId),
    ("resource_id", .str command.resourceId), ("state", .str state.value)])

/-- `_row_to_record`. -/
def rowToRecord (row : JournalRow) : Except Error JournalRecord :=
  match Operation.ofValue? row.operation, JournalState.ofValue? row.state with
  | some operation, some state =>
    match Command.make row.commandId operation row.fenceToken row.expectedAnchorFingerprint row.resourceId with
    | .error _ => .error (.journal .stateInvalid none none)
    | .ok command =>
      if row.preObservationJson.isObj = false then .error (.journal .stateInvalid none none)
      else if row.commandDigest ≠ command.digest H then
        .error (.journal .integrityFailed (some command.commandId) none)
      else if row.integrityTag ≠ commandTag H key command state row.preObservationJson row.anchorFingerprintAfter
          row.providerId then
        .error (.journal .integrityFailed (some command.commandId) none)
      else if state = .committed ∧ row.anchorFingerprintAfter.getD "" = "" then
        .error (.journal .stateInvalid (some command.commandId) none)
      else .ok ⟨command, state, row.preObservationJson, row.anchorFingerprintAfter, row.providerId⟩
  | _, _ => .error (.journal .stateInvalid none none)

namespace Journal

/-- `_open_or_create_store` on a path where nothing exists yet. -/
def create : Journal := ⟨⟨journalSchemaVersion, 0, 0, metaTag H key 0 0⟩, []⟩

def readMeta (j : Journal) : Except Error JournalMeta :=
  let m := j.journalMeta
  if m.schemaVersion ≠ journalSchemaVersion then .error (.journal .stateInvalid none none)
  else if m.integrityTag ≠ metaTag H key m.highestIssuedFence m.highestCommittedFence then
    .error (.journal .integrityFailed none none)
  else if m.highestCommittedFence > m.highestIssuedFence then .error (.journal .stateInvalid none none)
  else .ok m

def loadRow (j : Journal) (commandId : String) : Option JournalRow :=
  Table.lookup JournalRow.commandId j.lifecycleCommands commandId

/-- The rows of `_load_record_for_command` and the checks on them. -/
def loadRecord (j : Journal) (command : Command) (providerId : String) : Except Error JournalRecord :=
  match j.loadRow command.commandId with
  | none => .error (.journal .commandMissing (some command.commandId) none)
  | some row => do
    let record ← rowToRecord H key row
    if record.command.digest H ≠ command.digest H then
      .error (.journal .commandConflict (some command.commandId) none)
    else if record.providerId ≠ providerId then
      .error (.journal .providerIdMismatch (some command.commandId) none)
    else .ok record

/-- How `_set_state` and `_commit_receipt` look at the row again: the digest only. -/
def recheck (j : Journal) (record : JournalRecord) : Except Error JournalMeta := do
  let m ← j.readMeta H key
  match j.loadRow record.command.commandId with
  | none => .error (.journal .commandMissing (some record.command.commandId) none)
  | some row =>
    let current ← rowToRecord H key row
    if current.command.digest H ≠ record.command.digest H then
      .error (.journal .commandConflict (some record.command.commandId) none)
    else .ok m

def updateRow (j : Journal) (commandId : String) (f : JournalRow → JournalRow) : Journal :=
  { j with lifecycleCommands := Table.update JournalRow.commandId j.lifecycleCommands commandId f }

/-- The transaction of `_set_state`: state and tag are those of the caller's copy. -/
def setState (j : Journal) (record : JournalRecord) (state : JournalState) :
    Except Error (JournalRecord × Journal) := do
  let tag := commandTag H key record.command state record.preObservation record.anchorFingerprintAfter record.providerId
  let _ ← j.recheck H key record
  .ok ({ record with state },
    j.updateRow record.command.commandId fun row => { row with state := state.value, integrityTag := tag })

/-- The transaction of `_commit_receipt`. -/
def commitReceipt (j : Journal) (record : JournalRecord) (anchorFingerprintAfter : String) :
    Except Error (CommandReceipt × Journal) := do
  let tag := commandTag H key record.command .committed record.preObservation (some anchorFingerprintAfter)
    record.providerId
  let m ← j.recheck H key record
  let committed := max m.highestCommittedFence record.command.fenceToken
  let j := j.updateRow record.command.commandId fun row =>
    { row with state := JournalState.committed.value, anchorFingerprintAfter := some anchorFingerprintAfter,
               integrityTag := tag }
  .ok ({ commandId := record.command.commandId
         operation := record.command.operation
         fenceToken := record.command.fenceToken
         commandDigest := record.command.digest H
         anchorFingerprintAfter
         providerId := record.providerId
         replayed := false },
    { j with journalMeta := { j.journalMeta with
        highestCommittedFence := committed
        integrityTag := metaTag H key m.highestIssuedFence committed } })

/-- The transaction of `issue_command`. -/
def issueCommand (j : Journal) (commandId : String) (operation : Operation) (resourceId currentAnchor : String)
    (preObservation : Json) (providerId : String) : Except Error (Command × Journal) := do
  let m ← j.readMeta H key
  match j.loadRow commandId with
  | some row =>
    let existing ← rowToRecord H key row
    if existing.command.operation ≠ operation ∨ existing.command.resourceId ≠ resourceId ∨
        existing.providerId ≠ providerId then
      .error (.journal .commandConflict (some commandId) none)
    else .ok (existing.command, j)
  | none =>
    let fence := m.highestIssuedFence + 1
    match Command.make commandId operation fence currentAnchor resourceId with
    | .error text => .error (.value text)
    | .ok command =>
      -- fence_token is UNIQUE
      if fence ∈ j.lifecycleCommands.map JournalRow.fenceToken then .error .sqlite
      else .ok (command, {
        journalMeta := { j.journalMeta with
          highestIssuedFence := fence
          integrityTag := metaTag H key fence m.highestCommittedFence }
        lifecycleCommands := j.lifecycleCommands ++ [{
          commandId := command.commandId
          operation := command.operation.value
          fenceToken := command.fenceToken
          expectedAnchorFingerprint := command.expectedAnchorFingerprint
          resourceId := command.resourceId
          commandDigest := command.digest H
          state := JournalState.prepared.value
          preObservationJson := preObservation
          anchorFingerprintAfter := none
          providerId
          integrityTag := commandTag H key command .prepared preObservation none providerId }] })

/-- `max(fences, default=0)`. -/
def maxFence (fences : List Nat) : Nat := fences.foldr max 0

/-- `ORDER BY fence_token`. -/
def rowsByFence (j : Journal) : List JournalRow :=
  j.lifecycleCommands.mergeSort fun a b => a.fenceToken ≤ b.fenceToken

/-- The second read of `_verify_store`, with the meta row of the first. -/
def verifyRows (m : JournalMeta) (j : Journal) : Except Error Unit := do
  let records ← j.rowsByFence.mapM (rowToRecord H key)
  let issued := maxFence (records.map (·.command.fenceToken))
  let committed := maxFence ((records.filter (·.state = .committed)).map (·.command.fenceToken))
  -- without rows both maxima are 0, which is the `elif` of the source
  if issued ≠ m.highestIssuedFence then .error (.journal .stateInvalid none none)
  else if committed ≠ m.highestCommittedFence then .error (.journal .stateInvalid none none)
  else .ok ()

/-- One turn of the loop of `_recover_started_commands`. -/
def recoverRow (j : Journal) (row : JournalRow) : Except Error Journal := do
  let record ← rowToRecord H key row
  let tag := commandTag H key record.command .reconciliationRequired record.preObservation none record.providerId
  .ok (j.updateRow record.command.commandId fun r =>
    { r with state := JournalState.reconciliationRequired.value, integrityTag := tag })

/-- The transaction of `_recover_started_commands`. -/
def recoverStartedCommands (j : Journal) : Except Error (Unit × Journal) := do
  let _ ← j.readMeta H key
  let started := j.rowsByFence.filter (·.state = JournalState.providerStarted.value)
  let j' ← started.foldlM (recoverRow H key) j
  .ok ((), j')

end Journal

/-- `_receipt_from_record`. -/
def receiptFromRecord (record : JournalRecord) (replayed : Bool) : Except Error CommandReceipt :=
  match record.anchorFingerprintAfter with
  | none => .error (.journal .stateInvalid (some record.command.commandId) none)
  | some anchorFingerprintAfter => .ok {
      commandId := record.command.commandId
      operation := record.command.operation
      fenceToken := record.command.fenceToken
      commandDigest := record.command.digest H
      anchorFingerprintAfter
      providerId := record.providerId
      replayed }

end Aegis.Lifecycle
