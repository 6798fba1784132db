/-
  Aegis.Lifecycle.Witness — `WitnessedDurableSyntheticCheckpointLifecycleCoordinator`: the
  journal's coordinator behind a second, separately authenticated file that remembers how far
  the journal had got (checkpoint_lifecycle_journal_witness.py).

  The witness file is the value its text encodes, or missing; a text that is no JSON is a value
  that is no object, which is refused for the same reason. Writing it is one step: the new text
  is complete in a temporary file before `os.replace`. `witnessKey` is both what
  `secrets.token_bytes(32)` gave and the key the coordinator holds in memory.
-/

import Aegis.Lifecycle.AtMostOnce

namespace Aegis.Lifecycle

open Data Txn Prog

def witnessPolicyVersion : String := "independent-local-synthetic-lifecycle-journal-witness-v1"
def witnessSchemaVersion : String := "p4n-lifecycle-journal-witness-schema-v1"

/-- `CheckpointLifecycleJournalWitnessFaultMode`. -/
inductive WitnessFault where
  | none | afterJournalBeforeWitness
  deriving DecidableEq, Repr

/-- `CheckpointLifecycleJournalWitnessReason`. -/
inductive WitnessReason where
  | witnessIntegrityFailed | witnessStateInvalid | witnessMissingForExistingJournal | journalRollbackDetected
  | journalWitnessDivergence | syntheticCrash
  deriving DecidableEq, Repr

inductive WitnessedError where
  | lifecycle (e : Error)
  | witness (reason : WitnessReason) (fault : Option WitnessFault)
  deriving DecidableEq, Repr

/-! ## Attestations -/

/-- `LifecycleJournalCommandSummary`. -/
structure CommandSummary where
  fenceToken : Int
  commandDigest : String
  stableIdentityDigest : String
  state : String
  anchorFingerprintAfter : Option String
  deriving DecidableEq, Repr

/-- `LifecycleJournalAttestation`. -/
structure Attestation where
  highestIssuedFence : Int
  highestCommittedFence : Int
  commandCount : Int
  committedCount : Int
  journalStateDigest : String
  commands : List CommandSummary
  deriving DecidableEq, Repr

/-- `LifecycleJournalWitnessRecord`. -/
structure WitnessRecord where
  witnessGeneration : Int
  attestation : Attestation
  deriving DecidableEq, Repr

/-- `_STATE_RANK`. -/
def stateRank (state : String) : Option Nat := (JournalState.ofValue? state).map fun
  | .prepared => 0
  | .providerStarted => 1
  | .reconciliationRequired => 2
  | .committed => 3

theorem stateRank_state (s : Status) : stateRank s.state.value = some s.rank := by
  rw [stateRank, JournalState.ofValue?_value]
  cases s <;> rfl

variable (H : Hashing)

/-- `_stable_identity_digest`. -/
def stableIdentityDigest (record : JournalRecord) : String :=
  H.sha256 (.obj [("command_digest", .str (record.command.digest H)), ("command_id", .str record.command.commandId),
    ("expected_anchor_fingerprint", .str record.command.expectedAnchorFingerprint),
    ("fence_token", .int record.command.fenceToken), ("operation", .str record.command.operation.value),
    ("pre_observation_digest", .str (H.sha256 record.preObservation)), ("provider_id", .str record.providerId),
    ("resource_id", .str record.command.resourceId)])

def summaryOf (record : JournalRecord) : CommandSummary where
  fenceToken := record.command.fenceToken
  commandDigest := record.command.digest H
  stableIdentityDigest := stableIdentityDigest H record
  state := record.state.value
  anchorFingerprintAfter := record.anchorFingerprintAfter

/-- A row of the digested payload, and of the attestation's own. -/
def CommandSummary.payload (s : CommandSummary) : Json :=
  .obj [("anchor_fingerprint_after", .opt .str s.anchorFingerprintAfter), ("command_digest", .str s.commandDigest),
    ("fence_token", .int s.fenceToken), ("stable_identity_digest", .str s.stableIdentityDigest), ("state", .str s.state)]

def journalStateDigest (providerId : String) (issued committed : Int) (commands : List CommandSummary) : String :=
  H.sha256 (.obj [("commands", .arr (commands.map CommandSummary.payload)), ("highest_committed_fence", .int committed),
    ("highest_issued_fence", .int issued), ("p4m_policy_version", .str journalPolicyVersion),
    ("p4m_schema_version", .str journalSchemaVersion), ("provider_id", .str providerId)])

/-- `_journal_attestation` on what it has read. -/
def attestationOf (providerId : String) (m : JournalMeta) (records : List JournalRecord) : Attestation where
  highestIssuedFence := m.highestIssuedFence
  highestCommittedFence := m.highestCommittedFence
  commandCount := records.length
  committedCount := (records.filter (·.state = .committed)).length
  journalStateDigest := journalStateDigest H providerId m.highestIssuedFence m.highestCommittedFence
    (records.map (summaryOf H))
  commands := records.map (summaryOf H)

/-! ## The witness file -/

/-- `_attestation_payload`. -/
def Attestation.payload (a : Attestation) : Json :=
  .obj [("command_count", .int a.commandCount), ("commands", .arr (a.commands.map CommandSummary.payload)),
    ("committed_count", .int a.committedCount), ("highest_committed_fence", .int a.highestCommittedFence),
    ("highest_issued_fence", .int a.highestIssuedFence), ("journal_state_digest", .str a.journalStateDigest)]

/-- The payload `_witness_tag` covers. -/
def WitnessRecord.payload (r : WitnessRecord) : Json :=
  .obj [("attestation", r.attestation.payload), ("policy_version", .str witnessPolicyVersion),
    ("schema_version", .str witnessSchemaVersion), ("witness_generation", .int r.witnessGeneration)]

/-- The text `_write_witness` writes. -/
def witnessText (witnessKey : String) (r : WitnessRecord) : Json :=
  .obj [("attestation", r.attestation.payload), ("integrity_tag", .str (H.hmac witnessKey r.payload)),
    ("policy_version", .str witnessPolicyVersion), ("schema_version", .str witnessSchemaVersion),
    ("witness_generation", .int r.witnessGeneration)]

/-- `item.get("anchor_fingerprint_after")`. -/
def readAnchor (item : Json) : Option (Option String) :=
  match item.get? "anchor_fingerprint_after" with
  | none | some .null => some none
  | some (.str anchor) => some (some anchor)
  | some _ => none

def readSummary (item : Json) : Option CommandSummary := do
  let fenceToken ← item.int? "fence_token"
  let commandDigest ← item.str? "command_digest"
  let stableIdentityDigest ← item.str? "stable_identity_digest"
  let state ← item.str? "state"
  let anchorFingerprintAfter ← readAnchor item
  pure { fenceToken, commandDigest, stableIdentityDigest, state, anchorFingerprintAfter }

/-- The second `try` of `_read_witness`; `none` is any error in it. -/
def parseWitness (payload : Json) : Option WitnessRecord := do
  let schema ← payload.get? "schema_version"
  let policy ← payload.get? "policy_version"
  guard (schema = .str witnessSchemaVersion ∧ policy = .str witnessPolicyVersion)
  let witnessGeneration ← payload.int? "witness_generation"
  let attestation ← payload.get? "attestation"
  let commands ← ((← attestation.get? "commands").elems?)
  let commands ← commands.mapM readSummary
  guard (0 ≤ witnessGeneration ∧ ∀ c ∈ commands, (stateRank c.state).isSome)
  let highestIssuedFence ← attestation.int? "highest_issued_fence"
  let highestCommittedFence ← attestation.int? "highest_committed_fence"
  let commandCount ← attestation.int? "command_count"
  let committedCount ← attestation.int? "committed_count"
  let journalStateDigest ← attestation.str? "journal_state_digest"
  pure ⟨witnessGeneration,
    { highestIssuedFence, highestCommittedFence, commandCount, committedCount, journalStateDigest, commands }⟩

/-- `_read_witness`. -/
def readWitness (witnessKey : String) (file : Option Json) : Except WitnessReason WitnessRecord :=
  match file with
  | none => .error .witnessStateInvalid
  | some text =>
    if text.isObj = false then .error .witnessStateInvalid
    else if text.str? "integrity_tag" ≠ some (H.hmac witnessKey (text.pop "integrity_tag")) then
      .error .witnessIntegrityFailed
    else
      match parseWitness (text.pop "integrity_tag") with
      | none => .error .witnessStateInvalid
      | some record =>
        if record.attestation.commandCount ≠ record.attestation.commands.length ∨
            record.attestation.highestCommittedFence > record.attestation.highestIssuedFence then
          .error .witnessStateInvalid
        else .ok record

/-- What `_read_witness` asks of a record. -/
structure WitnessRecord.Proper (r : WitnessRecord) : Prop where
  generation : 0 ≤ r.witnessGeneration
  states : ∀ c ∈ r.attestation.commands, (stateRank c.state).isSome = true
  count : r.attestation.commandCount = r.attestation.commands.length
  committed : r.attestation.highestCommittedFence ≤ r.attestation.highestIssuedFence

theorem readSummary_payload (s : CommandSummary) : readSummary s.payload = some s := by
  cases s with
  | mk f d i st a => cases a <;> simp [readSummary, CommandSummary.payload, readAnchor, Json.int?, Json.str?, Json.get?, Json.opt]

theorem mapM_readSummary (ss : List CommandSummary) : (ss.map CommandSummary.payload).mapM readSummary = some ss := by
  induction ss with
  | nil => rfl
  | cons s ss ih => simp [readSummary_payload, ih]

theorem parseWitness_payload {r : WitnessRecord} (h : r.Proper) : parseWitness r.payload = some r := by
  have hschema : r.payload.get? "schema_version" = some (.str witnessSchemaVersion) := by
    simp [WitnessRecord.payload, Json.get?]
  have hpolicy : r.payload.get? "policy_version" = some (.str witnessPolicyVersion) := by
    simp [WitnessRecord.payload, Json.get?]
  have hgeneration : r.payload.int? "witness_generation" = some r.witnessGeneration := by
    simp [WitnessRecord.payload, Json.int?, Json.get?]
  have hattestation : r.payload.get? "attestation" = some r.attestation.payload := by
    simp [WitnessRecord.payload, Json.get?]
  have hcommands : r.attestation.payload.get? "commands" = some (.arr (r.attestation.commands.map CommandSummary.payload)) := by
    simp [Attestation.payload, Json.get?]
  have hissued : r.attestation.payload.int? "highest_issued_fence" = some r.attestation.highestIssuedFence := by
    simp [Attestation.payload, Json.int?, Json.get?]
  have hcommitted : r.attestation.payload.int? "highest_committed_fence" = some r.attestation.highestCommittedFence := by
    simp [Attestation.payload, Json.int?, Json.get?]
  have hcount : r.attestation.payload.int? "command_count" = some r.attestation.commandCount := by
    simp [Attestation.payload, Json.int?, Json.get?]
  have hcount' : r.attestation.payload.int? "committed_count" = some r.attestation.committedCount := by
    simp [Attestation.payload, Json.int?, Json.get?]
  have hdigest : r.attestation.payload.str? "journal_state_digest" = some r.attestation.journalStateDigest := by
    simp [Attestation.payload, Json.str?, Json.get?]
  have hguard : 0 ≤ r.witnessGeneration ∧ ∀ c ∈ r.attestation.commands, (stateRank c.state).isSome = true :=
    ⟨h.generation, h.states⟩
  simp only [parseWitness, hschema, hpolicy, hgeneration, hattestation, hcommands, hissued, hcommitted, hcount, hcount',
    hdigest, Json.elems?_arr, mapM_readSummary, Option.bind_eq_bind, Option.bind_some, guard, if_pos hguard, and_self,
    if_true]
  rfl

/-- A record read back from the file it was written to. -/
theorem readWitness_witnessText (witnessKey : String) {r : WitnessRecord} (h : r.Proper) :
    readWitness H witnessKey (some (witnessText H witnessKey r)) = .ok r := by
  have hpop : (witnessText H witnessKey r).pop "integrity_tag" = r.payload := by
    simp [witnessText, WitnessRecord.payload, Json.pop]
  have htag : (witnessText H witnessKey r).str? "integrity_tag" = some (H.hmac witnessKey r.payload) := by
    simp [witnessText, Json.str?, Json.get?]
  have hobj : (witnessText H witnessKey r).isObj = true := Json.isObj_obj _
  have hcommitted : ¬ r.attestation.highestCommittedFence > r.attestation.highestIssuedFence := not_lt.mpr h.committed
  simp [readWitness, hpop, htag, hobj, parseWitness_payload h, h.count, hcommitted]

/-! ## Comparing a journal with its witness -/

/-- `current_by_fence.get`: of two commands with one fence the later counts. -/
def byFence (commands : List CommandSummary) (fence : Int) : Option CommandSummary :=
  Table.lookup CommandSummary.fenceToken commands.reverse fence

/-- One turn of the loop over the witnessed commands: whether the command has moved on. -/
def compareCommand (previous now : CommandSummary) : Except WitnessReason Bool :=
  if now.commandDigest ≠ previous.commandDigest ∨ now.stableIdentityDigest ≠ previous.stableIdentityDigest then
    .error .journalWitnessDivergence
  else
    match stateRank previous.state, stateRank now.state with
    | some previousRank, some currentRank =>
      if currentRank < previousRank then .error .journalRollbackDetected
      else if previous.state = JournalState.committed.value ∧ (now.state ≠ JournalState.committed.value ∨
          now.anchorFingerprintAfter ≠ previous.anchorFingerprintAfter) then .error .journalWitnessDivergence
      else .ok (decide (previousRank < currentRank))
    | _, _ => .error .witnessStateInvalid

/-- The loop; the value is `strict_progress`. -/
def compareCommands (current : List CommandSummary) : List CommandSummary → Bool → Except WitnessReason Bool
  | [], strictProgress => .ok strictProgress
  | previous :: rest, strictProgress =>
    match byFence current previous.fenceToken with
    | none => .error .journalRollbackDetected
    | some now => do
      let advanced ← compareCommand previous now
      compareCommands current rest (strictProgress || advanced)

/-- One of the four counters is lower. -/
def Attestation.Behind (a b : Attestation) : Prop :=
  a.highestIssuedFence < b.highestIssuedFence ∨ a.highestCommittedFence < b.highestCommittedFence ∨
    a.commandCount < b.commandCount ∨ a.committedCount < b.committedCount

instance decidableBehind (a b : Attestation) : Decidable (a.Behind b) := inferInstanceAs (Decidable (_ ∨ _))

/-- A command that the witness should know and does not. -/
def Attestation.Unknown (witnessed : Attestation) (item : CommandSummary) : Prop :=
  item.fenceToken ∉ witnessed.commands.map CommandSummary.fenceToken ∧ item.fenceToken ≤ witnessed.highestIssuedFence

instance decidableUnknown (witnessed : Attestation) (item : CommandSummary) : Decidable (witnessed.Unknown item) :=
  inferInstanceAs (Decidable (_ ∧ _))

/-- `_classify_current_against_witness`. The only caller raises the reason it returns, as
    `_state_rank` raises its own; both are the error here. -/
def classifyCurrentAgainstWitness (witnessed current : Attestation) : Except WitnessReason Unit :=
  if current.Behind witnessed then .error .journalRollbackDetected
  else do
    let strictProgress ← compareCommands current.commands witnessed.commands (decide (witnessed.Behind current))
    if ∃ item ∈ current.commands, witnessed.Unknown item then .error .journalWitnessDivergence
    else if current.journalStateDigest = witnessed.journalStateDigest then .ok ()
    else if strictProgress then .ok ()
    else .error .journalWitnessDivergence

/-! ## The coordinator -/

structure Watched (π : Type) where
  inner : World π
  witness : Option Json
  witnessKey : Option String

variable {π : Type}

def innerLens : Lens (Watched π) (World π) where
  get w := w.inner
  set v w := { w with inner := v }
  get_set _ _ := rfl
  set_get _ := rfl
  set_set _ _ _ := rfl

def Watched.withInner (v : World π) (w : Watched π) : Watched π := { w with inner := v }

def Watched.withWitness (text : Json) (w : Watched π) : Watched π := { w with witness := some text }

namespace Witnessed

inductive Call where
  /-- A call of the journal's coordinator, with the fault armed for the witness. -/
  | journal (call : Coordinator.Call) (fault : WitnessFault)
  | publicPosture

inductive Answer where
  | journal (answer : Lifecycle.Answer)
  | publicPosture (witnessGeneration : Int) (highestIssuedFence highestCommittedFence receiptCount : Nat)
  deriving DecidableEq

variable (key : String) (P : Provider π) (witnessKey : String)

/-- What the journal's own coordinator does. -/
def lift (p : Prog Label (World π) Error α) : Prog Label (Watched π) WitnessedError α :=
  (p.zoom innerLens).mapError .lifecycle

/-- `except sqlite3.DatabaseError` around the reads of `_journal_attestation`. -/
def readError : Error → WitnessedError
  | .sqlite => .witness .witnessStateInvalid none
  | e => .lifecycle e

/-- `_journal_attestation`. -/
def journalAttestation : Prog Label (Watched π) WitnessedError Attestation := do
  lift (Coordinator.verifyStore H key)
  let m ← query .step fun w => (w.inner.journal.readMeta H key).mapError readError
  let records ← query .step fun w => (w.inner.journal.rowsByFence.mapM (rowToRecord H key)).mapError readError
  pure (attestationOf H P.face.providerId m records)

def raised (r : Except WitnessReason α) : Except WitnessedError α := r.mapError fun reason => .witness reason none

/-- `_write_witness`. -/
def writeWitness (record : WitnessRecord) : Prog Label (Watched π) WitnessedError Unit :=
  modify .step (Watched.withWitness (witnessText H witnessKey record))

/-- `_verify_or_advance_witness`. -/
def verifyOrAdvanceWitness : Prog Label (Watched π) WitnessedError Unit := do
  let record ← query .step fun w => raised (readWitness H witnessKey w.witness)
  let current ← journalAttestation H key P
  if current.journalStateDigest = record.attestation.journalStateDigest then pure ()
  else do
    ofResult (raised (classifyCurrentAgainstWitness record.attestation current))
    writeWitness H witnessKey ⟨record.witnessGeneration + 1, current⟩

/-- `_sync_after_journal_mutation`. -/
def syncAfterJournalMutation (fault : WitnessFault) : Prog Label (Watched π) WitnessedError Unit := do
  raiseIf (fault = .afterJournalBeforeWitness) (.witness .syntheticCrash (some fault))
  verifyOrAdvanceWitness H key P witnessKey

/-- A property of the journal. -/
def journalMeta : Prog Label (Watched π) WitnessedError JournalMeta :=
  query .step fun w => (w.inner.journal.readMeta H key).mapError .lifecycle

/-- `_open_or_create_witness`; the key it gives is the file's, or a new one. -/
def openOrCreateWitness : Prog Label (Watched π) WitnessedError String := do
  let witnessExists ← read .step fun w => w.witness.isSome
  let keyFile ← read .step fun w => w.witnessKey
  if witnessExists ≠ keyFile.isSome then do
    let m ← journalMeta H key
    raiseIf (m.highestIssuedFence > 0) (.witness .witnessMissingForExistingJournal none)
    fail (.witness .witnessStateInvalid none)
  else
    match keyFile with
    | some found => do
      raiseIf (found.length ≠ 32) (.witness .witnessStateInvalid none)
      pure found
    | none => do
      let m ← journalMeta H key
      raiseIf (m.highestIssuedFence > 0) (.witness .witnessMissingForExistingJournal none)
      modify .step fun w => { w with witnessKey := some witnessKey }
      let attestation ← journalAttestation H key P
      writeWitness H witnessKey ⟨0, attestation⟩
      pure witnessKey

/-- `__init__` once the journal is open. -/
def openWitness : Prog Label (Watched π) WitnessedError Unit := do
  let found ← openOrCreateWitness H key P witnessKey
  verifyOrAdvanceWitness H key P found

/-- `__init__` on an existing journal. -/
def reopen : Prog Label (Watched π) WitnessedError Unit := do
  lift (Coordinator.reopen H key)
  openWitness H key P witnessKey

/-- `public_posture`, with what its parts read. -/
def publicPosture : Prog Label (Watched π) WitnessedError Answer := do
  verifyOrAdvanceWitness H key P witnessKey
  let record ← query .step fun w => raised (readWitness H witnessKey w.witness)
  let issued ← journalMeta H key
  let committed ← journalMeta H key
  let _ ← journalMeta H key
  let receipts ← read .step fun w =>
    (w.inner.journal.lifecycleCommands.filter (·.state = JournalState.committed.value)).length
  pure (.publicPosture record.witnessGeneration issued.highestIssuedFence committed.highestCommittedFence receipts)

def body (me : Nat) : Call → Prog Label (Watched π) WitnessedError Answer
  | .journal .reopen _ => do
    reopen H key P witnessKey
    pure (.journal .done)
  | .journal (.external change) _ => do
    let answer ← lift (Coordinator.journalBody H key P me (.external change))
    pure (.journal answer)
  | .journal call fault => do
    verifyOrAdvanceWitness H key P witnessKey
    let answer ← lift (Coordinator.journalBody H key P me call)
    syncAfterJournalMutation H key P witnessKey fault
    pure (.journal answer)
  | .publicPosture => publicPosture H key P witnessKey

/-- The store once the constructor has returned for the first time. -/
def Created (w : Watched π) : Prop :=
  witnessKey.length = 32 ∧ ∃ w0 : Watched π, Coordinator.Fresh H key w0.inner ∧ w0.witness = none ∧
    w0.witnessKey = none ∧ (openWitness H key P witnessKey).run w0 = (.ok (), w)

/-- One coordinator: a call begins only when the one before has returned or crashed. -/
def witnessedSystem : System Call Label (Watched π) WitnessedError Answer where
  init := Created H key P witnessKey
  body := body H key P witnessKey
  start _ c := c.quiet
  ok _ _ := True

end Witnessed

end Aegis.Lifecycle
