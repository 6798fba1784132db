/-
  Aegis.Lifecycle.ProviderStore — the two tables of the crash-safe provider: its commands
  (checkpoint_lifecycle_provider_state_machine.py) and its outcome receipts
  (checkpoint_lifecycle_outcome_receipts.py). They are separate files with separate keys, and
  every transaction is on one of them.
-/

import Aegis.Lifecycle.Live

namespace Aegis.Lifecycle

open Data

def commandStorePolicyVersion : String := "crash-safe-provider-command-state-v1"
def commandStoreSchemaVersion : String := "p4p-provider-command-state-schema-v1"
def outcomeSchemaVersion : String := "p4o-provider-outcome-receipt-schema-v1"

/-! ## Commands -/

inductive ProviderState where
  | prepared | mutationStarted | committed
  deriving DecidableEq, Repr

namespace ProviderState

def value : ProviderState → String
  | prepared => "prepared"
  | mutationStarted => "mutation_started"
  | committed => "committed"

def ofValue? (s : String) : Option ProviderState := [prepared, mutationStarted, committed].find? (·.value = s)

@[simp] theorem ofValue?_value (s : ProviderState) : ofValue? s.value = some s := by
  cases s <;> decide

theorem value_injective : Function.Injective value := by
  intro a b h
  have := congrArg ofValue? h
  simpa using this

end ProviderState

structure ProviderRow where
  commandId : String
  operation : String
  fenceToken : Nat
  expectedAnchorFingerprint : String
  resourceId : String
  commandDigest : String
  argumentDigest : String
  state : String
  preObservationJson : Json
  anchorFingerprintAfter : Option String
  providerId : String
  integrityTag : String
  deriving DecidableEq, Repr

/-- `ProviderCommandStateRecord`. -/
structure ProviderRecord where
  command : Command
  argumentDigest : String
  state : ProviderState
  preObservation : Json
  anchorFingerprintAfter : Option String
  providerId : String
  deriving DecidableEq

abbrev CommandStore := List ProviderRow

variable (H : Hashing) (key : String)

/-- `SyntheticProviderCommandStateStore._tag`. -/
def providerTag (command : Command) (argumentDigest : String) (state : ProviderState) (preObservationJson : Json)
    (anchorFingerprintAfter : Option String) (providerId : String) : String :=
  H.hmac key (.obj [("anchor_fingerprint_after", .opt .str anchorFingerprintAfter),
    ("argument_digest", .str argumentDigest), ("command_digest", .str (command.digest H)),
    ("command_id", .str command.commandId), ("expected_anchor_fingerprint", .str command.expectedAnchorFingerprint),
    ("fence_token", .int command.fenceToken), ("operation", .str command.operation.value),
    ("policy_version", .str commandStorePolicyVersion), ("pre_observation_json", preObservationJson),
    ("provider_id", .str providerId), ("resource_id", .str command.resourceId),
    ("schema_version", .str commandStoreSchemaVersion), ("state", .str state.value)])

/-- `_row_to_record`. -/
def providerRowToRecord (row : ProviderRow) : Except Error ProviderRecord :=
  match Operation.ofValue? row.operation, ProviderState.ofValue? row.state with
  | some operation, some state =>
    match Command.make row.commandId operation row.fenceToken row.expectedAnchorFingerprint row.resourceId with
    | .error _ => .error (.provider .storeStateInvalid none none)
    | .ok command =>
      if row.preObservationJson.isObj = false then .error (.provider .storeStateInvalid none none)
      else if row.commandDigest ≠ command.digest H then
        .error (.provider .integrityFailed (some command.commandId) none)
      else if row.integrityTag ≠ providerTag H key command row.argumentDigest state row.preObservationJson
          row.anchorFingerprintAfter row.providerId then
        .error (.provider .integrityFailed (some command.commandId) none)
      else if state = .committed ∧ row.anchorFingerprintAfter.getD "" = "" then
        .error (.provider .stateInvalid (some command.commandId) none)
      else .ok ⟨command, row.argumentDigest, state, row.preObservationJson, row.anchorFingerprintAfter, row.providerId⟩
  | _, _ => .error (.provider .storeStateInvalid none none)

namespace CommandStore

def loadRow (s : CommandStore) (commandId : String) : Option ProviderRow :=
  Table.lookup ProviderRow.commandId s commandId

/-- `_verify_all`. -/
def verifyAll (s : CommandStore) : Except Error Unit := do
  let _ ← s.mapM (providerRowToRecord H key)
  pure ()

def prepare (s : CommandStore) (command : Command) (argumentDigest : String) (preObservation : Json)
    (providerId : String) : Except Error (ProviderRecord × CommandStore) :=
  match s.loadRow command.commandId with
  | some row => do
    let existing ← providerRowToRecord H key row
    if existing.command.digest H ≠ command.digest H then
      .error (.provider .commandConflict (some command.commandId) none)
    else if existing.argumentDigest ≠ argumentDigest then
      .error (.provider .argumentConflict (some command.commandId) none)
    else if existing.providerId ≠ providerId then
      .error (.provider .commandConflict (some command.commandId) none)
    else .ok (existing, s)
  | none =>
    .ok (⟨command, argumentDigest, .prepared, preObservation, none, providerId⟩, s ++ [{
      commandId := command.commandId
      operation := command.operation.value
      fenceToken := command.fenceToken
      expectedAnchorFingerprint := command.expectedAnchorFingerprint
      resourceId := command.resourceId
      commandDigest := command.digest H
      argumentDigest
      state := ProviderState.prepared.value
      preObservationJson := preObservation
      anchorFingerprintAfter := none
      providerId
      integrityTag := providerTag H key command argumentDigest .prepared preObservation none providerId }])

def require (s : CommandStore) (command : Command) (argumentDigest : String) : Except Error ProviderRecord :=
  match s.loadRow command.commandId with
  | none => .error (.provider .commandMissing (some command.commandId) none)
  | some row => do
    let record ← providerRowToRecord H key row
    if record.command.digest H ≠ command.digest H then
      .error (.provider .commandConflict (some command.commandId) none)
    else if record.argumentDigest ≠ argumentDigest then
      .error (.provider .argumentConflict (some command.commandId) none)
    else .ok record

def setState (s : CommandStore) (record : ProviderRecord) (state : ProviderState)
    (anchorFingerprintAfter : Option String) : Except Error (ProviderRecord × CommandStore) :=
  let nextAnchor := anchorFingerprintAfter.or record.anchorFingerprintAfter
  let tag := providerTag H key record.command record.argumentDigest state record.preObservation nextAnchor
    record.providerId
  match s.loadRow record.command.commandId with
  | none => .error (.provider .commandMissing (some record.command.commandId) none)
  | some row => do
    let current ← providerRowToRecord H key row
    if current.command.digest H ≠ record.command.digest H then
      .error (.provider .commandConflict (some record.command.commandId) none)
    else .ok ({ record with state, anchorFingerprintAfter := nextAnchor },
      Table.update ProviderRow.commandId s record.command.commandId fun row =>
        { row with state := state.value, anchorFingerprintAfter := nextAnchor, integrityTag := tag })

end CommandStore

/-! ## Outcome receipts -/

/-- `ProviderLifecycleOutcomeReceipt`. -/
structure OutcomeReceipt where
  commandId : String
  operation : Operation
  fenceToken : Nat
  resourceId : String
  commandDigest : String
  expectedAnchorFingerprint : String
  anchorFingerprintAfter : String
  providerId : String
  replayed : Bool
  deriving DecidableEq, Repr

def OutcomeReceipt.digest (r : OutcomeReceipt) : String :=
  H.sha256 (.obj [("anchor_fingerprint_after", .str r.anchorFingerprintAfter), ("command_digest", .str r.commandDigest),
    ("command_id", .str r.commandId), ("expected_anchor_fingerprint", .str r.expectedAnchorFingerprint),
    ("fence_token", .int r.fenceToken), ("operation", .str r.operation.value), ("provider_id", .str r.providerId),
    ("resource_id", .str r.resourceId), ("schema_version", .str outcomeSchemaVersion)])

structure OutcomeRow where
  commandId : String
  operation : String
  fenceToken : Nat
  resourceId : String
  commandDigest : String
  expectedAnchorFingerprint : String
  anchorFingerprintAfter : String
  providerId : String
  receiptDigest : String
  integrityTag : String
  deriving DecidableEq, Repr

abbrev OutcomeStore := List OutcomeRow

/-- `SyntheticProviderOutcomeReceiptStore._tag`. -/
def outcomeTag (r : OutcomeReceipt) : String :=
  H.hmac key (.obj [("receipt_digest", .str (r.digest H)), ("schema_version", .str outcomeSchemaVersion)])

/-- `_verify_row_with_key`. -/
def verifyOutcomeRow (row : OutcomeRow) : Except Error OutcomeReceipt :=
  match Operation.ofValue? row.operation with
  | none => .error (.outcome .storeStateInvalid none)
  | some operation =>
    let receipt : OutcomeReceipt := ⟨row.commandId, operation, row.fenceToken, row.resourceId, row.commandDigest,
      row.expectedAnchorFingerprint, row.anchorFingerprintAfter, row.providerId, false⟩
    if row.receiptDigest ≠ receipt.digest H then .error (.outcome .receiptIntegrityFailed (some receipt.commandId))
    else if row.integrityTag ≠ outcomeTag H key receipt then
      .error (.outcome .receiptIntegrityFailed (some receipt.commandId))
    else .ok receipt

namespace OutcomeStore

def loadRow (s : OutcomeStore) (commandId : String) : Option OutcomeRow :=
  Table.lookup OutcomeRow.commandId s commandId

/-- `_verify_all`. -/
def verifyAll (s : OutcomeStore) : Except Error Unit := do
  let _ ← s.mapM (verifyOutcomeRow H key)
  pure ()

def get (s : OutcomeStore) (command : Command) : Except Error (Option OutcomeReceipt) :=
  match s.loadRow command.commandId with
  | none => .ok none
  | some row => do
    let receipt ← verifyOutcomeRow H key row
    if receipt.commandDigest ≠ command.digest H then .error (.outcome .commandConflict (some command.commandId))
    else .ok (some receipt)

def put (s : OutcomeStore) (receipt : OutcomeReceipt) : Except Error (OutcomeReceipt × OutcomeStore) :=
  match s.loadRow receipt.commandId with
  | some row => do
    let existing ← verifyOutcomeRow H key row
    if existing.commandDigest ≠ receipt.commandDigest then
      .error (.outcome .commandConflict (some receipt.commandId))
    else .ok ({ existing with replayed := true }, s)
  | none =>
    .ok (receipt, s ++ [{
      commandId := receipt.commandId
      operation := receipt.operation.value
      fenceToken := receipt.fenceToken
      resourceId := receipt.resourceId
      commandDigest := receipt.commandDigest
      expectedAnchorFingerprint := receipt.expectedAnchorFingerprint
      anchorFingerprintAfter := receipt.anchorFingerprintAfter
      providerId := receipt.providerId
      receiptDigest := receipt.digest H
      integrityTag := outcomeTag H key receipt }])

end OutcomeStore

/-! ## Stored commands and outcomes -/

inductive Progress where
  | prepared | started
  | committed (anchorAfter : String) (ok : anchorAfter ≠ "")

namespace Progress

def state : Progress → ProviderState
  | prepared => .prepared
  | started => .mutationStarted
  | committed _ _ => .committed

def anchor : Progress → Option String
  | committed a _ => some a
  | _ => none

end Progress

/-- A stored command of the provider. -/
structure Task where
  command : Command
  argumentDigest : String
  preObservation : Json
  providerId : String
  progress : Progress
  pre_ok : preObservation.isObj = true

namespace Task

def id (t : Task) : String := t.command.commandId

def record (t : Task) : ProviderRecord :=
  ⟨t.command, t.argumentDigest, t.progress.state, t.preObservation, t.progress.anchor, t.providerId⟩

def row (t : Task) : ProviderRow where
  commandId := t.command.commandId
  operation := t.command.operation.value
  fenceToken := t.command.fenceToken
  expectedAnchorFingerprint := t.command.expectedAnchorFingerprint
  resourceId := t.command.resourceId
  commandDigest := t.command.digest H
  argumentDigest := t.argumentDigest
  state := t.progress.state.value
  preObservationJson := t.preObservation
  anchorFingerprintAfter := t.progress.anchor
  providerId := t.providerId
  integrityTag := providerTag H key t.command t.argumentDigest t.progress.state t.preObservation t.progress.anchor
    t.providerId

def withProgress (p : Progress) (t : Task) : Task := { t with progress := p }

theorem withProgress_id {i : String} (p : Progress) (t : Task) (h : t.id = i) : (t.withProgress p).id = i := h

theorem rowToRecord_row (t : Task) : providerRowToRecord H key (t.row H key) = .ok t.record := by
  have hanchor : ¬ (t.progress.state = .committed ∧ t.progress.anchor.getD "" = "") := by
    rintro ⟨hs, ha⟩
    cases hp : t.progress with
    | committed a ok => rw [hp] at ha; exact ok ha
    | prepared | started => rw [hp] at hs; cases hs
  simp [providerRowToRecord, row, record, t.pre_ok, hanchor]

end Task

/-- A stored receipt. -/
def OutcomeReceipt.row (r : OutcomeReceipt) : OutcomeRow where
  commandId := r.commandId
  operation := r.operation.value
  fenceToken := r.fenceToken
  resourceId := r.resourceId
  commandDigest := r.commandDigest
  expectedAnchorFingerprint := r.expectedAnchorFingerprint
  anchorFingerprintAfter := r.anchorFingerprintAfter
  providerId := r.providerId
  receiptDigest := r.digest H
  integrityTag := outcomeTag H key r

/-- `replayed` is no part of what is stored. -/
theorem verifyOutcomeRow_row (r : OutcomeReceipt) :
    verifyOutcomeRow H key (r.row H key) = .ok { r with replayed := false } := by
  have hd : (⟨r.commandId, r.operation, r.fenceToken, r.resourceId, r.commandDigest, r.expectedAnchorFingerprint,
      r.anchorFingerprintAfter, r.providerId, false⟩ : OutcomeReceipt).digest H = r.digest H := rfl
  simp [verifyOutcomeRow, OutcomeReceipt.row, outcomeTag, hd]

section Stores

variable {tasks : List Task} {t : Task} {c : Command} {receipts : List OutcomeReceipt} {r : OutcomeReceipt}

def findTask (tasks : List Task) (i : String) : Option Task := Table.lookup Task.id tasks i

def findReceipt (receipts : List OutcomeReceipt) (i : String) : Option OutcomeReceipt :=
  Table.lookup OutcomeReceipt.commandId receipts i

theorem id_of_findTask {i : String} (h : findTask tasks i = some t) : t.id = i :=
  Table.key_of_lookup h

theorem id_of_findReceipt {i : String} (h : findReceipt receipts i = some r) : r.commandId = i :=
  Table.key_of_lookup h

theorem loadRow_tasks (tasks : List Task) (i : String) :
    CommandStore.loadRow (tasks.map (Task.row H key)) i = (findTask tasks i).map (Task.row H key) :=
  Table.lookup_map (Task.row H key) Task.id (fun _ => rfl) i

theorem loadRow_receipts (receipts : List OutcomeReceipt) (i : String) :
    OutcomeStore.loadRow (receipts.map (OutcomeReceipt.row H key)) i =
      (findReceipt receipts i).map (OutcomeReceipt.row H key) :=
  Table.lookup_map (OutcomeReceipt.row H key) OutcomeReceipt.commandId (fun _ => rfl) i

/-- `prepare` finds the command, with the same digest, arguments and provider, or adds it. -/
theorem prepare_tasks {argumentDigest provider : String} {pre : Json} (hpre : pre.isObj = true) {r : ProviderRecord}
    {s : CommandStore}
    (h : CommandStore.prepare H key (tasks.map (Task.row H key)) c argumentDigest pre provider = .ok (r, s)) :
    (∃ t, findTask tasks c.commandId = some t ∧ t.command.digest H = c.digest H ∧ t.argumentDigest = argumentDigest ∧
        r = t.record ∧ s = tasks.map (Task.row H key)) ∨
      (findTask tasks c.commandId = none ∧
        ∃ t : Task, t.command = c ∧ t.argumentDigest = argumentDigest ∧ t.preObservation = pre ∧ t.progress = .prepared ∧
          r = t.record ∧ s = (tasks ++ [t]).map (Task.row H key)) := by
  simp only [CommandStore.prepare, loadRow_tasks] at h
  cases hf : findTask tasks c.commandId with
  | some t =>
    simp only [hf, Option.map_some, Task.rowToRecord_row, bind, Except.bind] at h
    split_ifs at h with h1 h2
    cases h
    exact .inl ⟨t, rfl, not_not.mp h1, not_not.mp h2, rfl, rfl⟩
  | none =>
    simp only [hf, Option.map_none] at h
    cases h
    refine .inr ⟨rfl, ⟨c, argumentDigest, pre, provider, .prepared, hpre⟩, rfl, rfl, rfl, rfl, rfl, ?_⟩
    rw [List.map_append]
    rfl

theorem require_tasks {argumentDigest : String} {r : ProviderRecord}
    (h : CommandStore.require H key (tasks.map (Task.row H key)) c argumentDigest = .ok r) :
    ∃ t, findTask tasks c.commandId = some t ∧ t.command.digest H = c.digest H ∧ t.argumentDigest = argumentDigest ∧
      r = t.record := by
  simp only [CommandStore.require, loadRow_tasks] at h
  cases hf : findTask tasks c.commandId with
  | none => simp [hf] at h
  | some t =>
    simp only [hf, Option.map_some, Task.rowToRecord_row, bind, Except.bind] at h
    split_ifs at h with h1 h2
    cases h
    exact ⟨t, rfl, not_not.mp h1, not_not.mp h2, rfl⟩

/-- `set_state` by a caller that holds the stored record. -/
theorem setState_tasks (hn : (tasks.map Task.id).Nodup) (hf : findTask tasks t.id = some t) (p : Progress)
    {a : Option String} (ha : a.or t.progress.anchor = p.anchor) :
    CommandStore.setState H key (tasks.map (Task.row H key)) t.record p.state a = .ok ((t.withProgress p).record,
        (Table.update Task.id tasks t.id (Task.withProgress p)).map (Task.row H key)) := by
  have hid : t.record.command.commandId = t.id := rfl
  have hanchor : a.or t.record.anchorFingerprintAfter = p.anchor := ha
  simp only [CommandStore.setState, hid, loadRow_tasks, hf, Option.map_some, Task.rowToRecord_row, bind, Except.bind,
    hanchor, ne_eq, not_true_eq_false, if_false]
  congr 2
  refine Table.update_map (Task.row H key) Task.id (fun _ => rfl) fun x hx hk => ?_
  have hx' := Table.lookup_of_mem hn hx
  rw [hk] at hx'
  obtain rfl : x = t := by
    rw [show Table.lookup Task.id tasks t.id = some t from hf] at hx'
    exact (Option.some.inj hx').symm
  rfl

theorem get_receipts {o : Option OutcomeReceipt}
    (h : OutcomeStore.get H key (receipts.map (OutcomeReceipt.row H key)) c = .ok o) :
    (findReceipt receipts c.commandId = none ∧ o = none) ∨
      ∃ r, findReceipt receipts c.commandId = some r ∧ r.commandDigest = c.digest H ∧
        o = some { r with replayed := false } := by
  simp only [OutcomeStore.get, loadRow_receipts] at h
  cases hf : findReceipt receipts c.commandId with
  | none =>
    simp only [hf, Option.map_none] at h
    cases h
    exact .inl ⟨rfl, rfl⟩
  | some r =>
    simp only [hf, Option.map_some, verifyOutcomeRow_row, bind, Except.bind] at h
    split_ifs at h with h1
    cases h
    exact .inr ⟨r, rfl, not_not.mp h1, rfl⟩

theorem put_receipts (hf : findReceipt receipts r.commandId = none) :
    OutcomeStore.put H key (receipts.map (OutcomeReceipt.row H key)) r =
      .ok (r, (receipts ++ [r]).map (OutcomeReceipt.row H key)) := by
  simp only [OutcomeStore.put, loadRow_receipts, hf, Option.map_none, List.map_append]
  rfl

end Stores

end Aegis.Lifecycle
