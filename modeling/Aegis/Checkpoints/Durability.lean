/-
  Aegis.Checkpoints.Durability — the durable saver of agent checkpoints and its successors
  (checkpoint_durability.py, checkpoint_confidentiality.py, checkpoint_operation_runtime.py,
  checkpoint_runtime_providers.py).

  Checkpoints and pending writes are rows of one database, each with an HMAC of its own; a second
  database, the anchor, holds the head of every namespace and the aggregate of every set of writes.
  The P4-B saver stores serialized values as they are, P4-C and P4-H encrypt them; P4-H moves its
  heads through a provider. What LangGraph, the cipher and HMAC contribute is a parameter.
-/

import Mathlib.Data.Prod.Lex
import Aegis.Data.Checks
import Aegis.Data.Json
import Aegis.Data.Sorted
import Aegis.Data.Table

namespace Aegis.Checkpoints

open Data Data.Checks

/-- `bytes` -/
abbrev Blob := List UInt8

inductive CheckpointIntegrityReason where
  | checkpointConflict
  | checkpointIntegrityMismatch
  | checkpointChainBroken
  | checkpointRollbackDetected
  | writeIntegrityMismatch
  | writeSetMismatch
  deriving DecidableEq, Repr

inductive CheckpointConfidentialityReason where
  | ciphertextEnvelopeInvalid
  | encryptionKeyMismatch
  | unknownEncryptionKey
  | revokedEncryptionKey
  | decryptionFailed
  | sensitiveMetadataRejected
  deriving DecidableEq, Repr

inductive CheckpointRuntimeProviderReason where
  | anchorConflict
  | anchorRollbackRejected
  deriving DecidableEq, Repr

inductive CheckpointExternalLifecycleReason where
  | anchorSnapshotInvalid
  deriving DecidableEq, Repr

/-- What an operation of a saver raises: an error of its own, of a constraint of SQLite, of a dict
lookup, of `compare_digest`, of an argument's value, or of a reader of stored bytes. -/
inductive Raised where
  | integrity (reason : CheckpointIntegrityReason)
  | confidentiality (reason : CheckpointConfidentialityReason)
  | provider (reason : CheckpointRuntimeProviderReason)
  | lifecycle (reason : CheckpointExternalLifecycleReason)
  | constraint
  | key
  | type
  | value
  | unreadable
  deriving DecidableEq, Repr

abbrev Check (α : Type) := Except Raised α

/-! ## Rows -/

/-- A thread and a checkpoint namespace. -/
abbrev Namespace := String × String

structure CheckpointRow where
  threadId : String
  checkpointNs : String
  checkpointId : String
  parentCheckpointId : Option String
  type : String
  checkpoint : Blob
  metadata : Blob
  generation : Nat
  previousDigest : String
  integrityDigest : String
  deriving DecidableEq, Repr

structure WriteRow where
  threadId : String
  checkpointNs : String
  checkpointId : String
  taskId : String
  idx : Int
  channel : String
  type : String
  value : Blob
  integrityDigest : String
  deriving DecidableEq, Repr

structure Database where
  checkpoints : List CheckpointRow
  writes : List WriteRow
  deriving DecidableEq, Repr

structure CheckpointHead where
  threadId : String
  checkpointNs : String
  generation : Nat
  checkpointId : String
  checkpointDigest : String
  deriving DecidableEq, Repr

structure WriteHead where
  threadId : String
  checkpointNs : String
  checkpointId : String
  writeCount : Nat
  aggregateDigest : String
  deriving DecidableEq, Repr

/-- The two tables of the anchor database. -/
structure Anchor where
  checkpointHeads : List CheckpointHead
  writeHeads : List WriteHead
  deriving DecidableEq, Repr

def CheckpointRow.ns (r : CheckpointRow) : Namespace := (r.threadId, r.checkpointNs)

/-- The primary key of `checkpoints`. -/
def CheckpointRow.key (r : CheckpointRow) : String × String × String := (r.threadId, r.checkpointNs, r.checkpointId)

/-- The key of `checkpoints` beside its primary key. -/
def CheckpointRow.place (r : CheckpointRow) : String × String × Nat := (r.threadId, r.checkpointNs, r.generation)

/-- The checkpoint a write belongs to. -/
def WriteRow.of (r : WriteRow) : String × String × String := (r.threadId, r.checkpointNs, r.checkpointId)

/-- What is left of the primary key of `writes`. -/
def WriteRow.slot (r : WriteRow) : String × Int := (r.taskId, r.idx)

/-- The primary key of `writes`. -/
def WriteRow.key (r : WriteRow) : (String × String × String) × String × Int := (r.of, r.slot)

def CheckpointHead.ns (h : CheckpointHead) : Namespace := (h.threadId, h.checkpointNs)

def WriteHead.of (h : WriteHead) : String × String × String := (h.threadId, h.checkpointNs, h.checkpointId)

/-! ## The anchor -/

namespace Anchor

/-- `_current_head`. -/
def currentHead (a : Anchor) (ns : Namespace) : Option CheckpointHead := Table.lookup CheckpointHead.ns a.checkpointHeads ns

def currentWriteHead (a : Anchor) (checkpoint : String × String × String) : Option WriteHead :=
  Table.lookup WriteHead.of a.writeHeads checkpoint

/-- `INSERT` of the head of a namespace that has none, `UPDATE` of the one it has. -/
def putHead (a : Anchor) (h : CheckpointHead) : Anchor := { a with checkpointHeads := Table.put CheckpointHead.ns a.checkpointHeads h }

/-- `INSERT … ON CONFLICT … DO UPDATE`. -/
def setWriteHead (a : Anchor) (h : WriteHead) : Anchor := { a with writeHeads := Table.put WriteHead.of a.writeHeads h }

/-- The anchor transaction of `DurableIntegrityCheckpointer.put`: the head is still the one read before. -/
def compareAndPut (a : Anchor) (head : Option CheckpointHead) (new : CheckpointHead) : Check Anchor := do
  raiseIf (a.currentHead new.ns ≠ head) (.integrity .checkpointConflict)
  return a.putHead new

/-- `LocalSqliteCheckpointAnchorProvider.advance`. -/
def advance (a : Anchor) (new : CheckpointHead) (expectedGeneration : Option Nat) : Check Anchor := do
  raiseIf (new.generation < 1) (.provider .anchorRollbackRejected)
  raiseIf ((a.currentHead new.ns).map (·.generation) ≠ expectedGeneration) (.provider .anchorConflict)
  match a.currentHead new.ns with
  | none => raiseIf (new.generation ≠ 1) (.provider .anchorConflict)
  | some current => do
    raiseIf (new.generation ≤ current.generation) (.provider .anchorRollbackRejected)
    raiseIf (new.generation ≠ current.generation + 1) (.provider .anchorConflict)
  return a.putHead new

def deleteThread (a : Anchor) (threadId : String) : Anchor :=
  ⟨a.checkpointHeads.filter (·.threadId ≠ threadId), a.writeHeads.filter (·.threadId ≠ threadId)⟩

theorem currentHead_putHead (a : Anchor) (h : CheckpointHead) : (a.putHead h).currentHead h.ns = some h := Table.lookup_put_self

theorem currentWriteHead_setWriteHead (a : Anchor) (h : WriteHead) : (a.setWriteHead h).currentWriteHead h.of = some h :=
  Table.lookup_put_self

end Anchor

/-! ## What the saver takes from elsewhere -/

def ascii (s : String) : Bool := (letters s).all fun c => c.toNat < 128

/-- HMAC and SHA-256, and LangGraph: the index of its special channels, and the readers of stored values.
A hexdigest is ASCII. -/
structure Runtime (δ : Type) where
  hmac : Json → String
  hmac_ascii : ∀ j, ascii (hmac j) = true
  keyId : String
  blobSha256 : Blob → String
  writesIdx : String → Option Int
  loadsTyped : String → Blob → Check δ
  loadsMetadata : Blob → Check Json
  casefold : String → String

/-- How serialized values are stored, under their type tag: as they are, or encrypted, with a number for
the nonce. What was stored opens to what it was. -/
structure Cipher where
  encrypt : String → Blob → Nat → Blob
  decrypt : String → Blob → Check Blob
  envelopeKeyId : Blob → Check String
  decrypt_encrypt : ∀ type plain nonce, decrypt type (encrypt type plain nonce) = .ok plain

/-- The savers of P4-B, P4-C and P4-H. -/
inductive Saver where
  | durable
  | confidential (cipher : Cipher)
  | operation (cipher : Cipher)

namespace Saver

/-- `serde.dumps_typed`, once a value is serialized. -/
def dumps : Saver → String → Blob → Nat → Blob
  | durable, _, plain, _ => plain
  | confidential cipher, type, plain, nonce => cipher.encrypt type plain nonce
  | operation cipher, type, plain, nonce => cipher.encrypt type plain nonce

/-- The serialized value that is stored in a blob. -/
def opened : Saver → String → Blob → Check Blob
  | durable, _, blob => .ok blob
  | confidential cipher, type, blob => cipher.decrypt type blob
  | operation cipher, type, blob => cipher.decrypt type blob

theorem opened_dumps (s : Saver) (type : String) (plain : Blob) (nonce : Nat) : s.opened type (s.dumps type plain nonce) = .ok plain := by
  cases s with
  | durable => rfl
  | confidential cipher => exact cipher.decrypt_encrypt type plain nonce
  | operation cipher => exact cipher.decrypt_encrypt type plain nonce

end Saver

/-- `hmac.compare_digest`, of a hexdigest and a stored text. -/
def compareDigest (expected stored : String) : Check Bool :=
  if ascii expected = true ∧ ascii stored = true then .ok (expected = stored) else .error .type

/-- `if not hmac.compare_digest(expected, stored): raise r`. -/
def rejectUnequal (expected stored : String) (reason : CheckpointIntegrityReason) : Check Unit := do
  let same ← compareDigest expected stored
  raiseIf (¬ same) (.integrity reason)

theorem rejectUnequal_self {s : String} (h : ascii s = true) (reason : CheckpointIntegrityReason) : rejectUnequal s s reason = .ok () := by
  simp [rejectUnequal, compareDigest, h]

def zeroDigest : String := String.ofList (List.replicate 64 '0')

section
variable {δ : Type} (rt : Runtime δ)

/-! ## Digests -/

def checkpointSchema : String := "aegis.agent-checkpoint-integrity.v1"

def writeSchema : String := "aegis.agent-checkpoint-write-integrity.v1"

/-- `_checkpoint_digest`, of everything in a row but the digest. -/
def checkpointDigest (r : CheckpointRow) : String := rt.hmac (.obj [
  ("checkpoint_id", .str r.checkpointId), ("checkpoint_ns", .str r.checkpointNs),
  ("checkpoint_sha256", .str (rt.blobSha256 r.checkpoint)), ("generation", .int r.generation),
  ("key_id", .str rt.keyId), ("metadata_sha256", .str (rt.blobSha256 r.metadata)),
  ("parent_checkpoint_id", Json.opt .str r.parentCheckpointId), ("previous_digest", .str r.previousDigest),
  ("schema_version", .str checkpointSchema), ("thread_id", .str r.threadId), ("type", .str r.type)])

/-- `_write_digest`, of everything in a row but the digest. -/
def writeDigest (r : WriteRow) : String := rt.hmac (.obj [
  ("channel", .str r.channel), ("checkpoint_id", .str r.checkpointId), ("checkpoint_ns", .str r.checkpointNs),
  ("idx", .int r.idx), ("key_id", .str rt.keyId), ("schema_version", .str writeSchema), ("task_id", .str r.taskId),
  ("thread_id", .str r.threadId), ("type", .str r.type), ("value_sha256", .str (rt.blobSha256 r.value))])

/-- `_write_aggregate`. -/
def writeAggregate (rows : List WriteRow) : String := rt.hmac (.obj [
  ("entries", .arr (rows.map fun r => .obj [
    ("channel", .str r.channel), ("idx", .int r.idx), ("integrity_digest", .str r.integrityDigest),
    ("task_id", .str r.taskId)])),
  ("key_id", .str rt.keyId), ("schema_version", .str writeSchema)])

/-! ## Verification -/

/-- `_checkpoint_row`. -/
def checkpointRow (db : Database) (key : String × String × String) : Option CheckpointRow :=
  Table.lookup CheckpointRow.key db.checkpoints key

/-- `_verify_checkpoint_row`. -/
def verifyCheckpointRow (r : CheckpointRow) : Check Unit := rejectUnequal (checkpointDigest rt r) r.integrityDigest .checkpointIntegrityMismatch

/-- The loop of `_verify_checkpoint_chain`, down to the first generation. -/
def verifyChainFrom (db : Database) : Nat → CheckpointRow → Check Unit
  | 0, r => do
    verifyCheckpointRow rt r
    .error (.integrity .checkpointChainBroken)
  | 1, r => do
    verifyCheckpointRow rt r
    raiseIf (r.previousDigest ≠ zeroDigest) (.integrity .checkpointChainBroken)
  | generation + 2, r => do
    verifyCheckpointRow rt r
    match Table.lookup CheckpointRow.place db.checkpoints (r.threadId, r.checkpointNs, generation + 1) with
    | none => .error (.integrity .checkpointChainBroken)
    | some previous => do
      rejectUnequal r.previousDigest previous.integrityDigest .checkpointChainBroken
      verifyChainFrom db (generation + 1) previous

/-- `_verify_checkpoint_chain`. -/
def verifyCheckpointChain (db : Database) (r : CheckpointRow) : Check Unit := verifyChainFrom rt db r.generation r

/-- `_write_rows`. -/
def writeRows (db : Database) (checkpoint : String × String × String) : List WriteRow :=
  sortOn (fun r => toLex r.slot) (db.writes.filter fun r => r.of = checkpoint)

/-- The check of one row in `_verify_write_set`. -/
def verifyWriteRow (r : WriteRow) : Check Unit := rejectUnequal (writeDigest rt r) r.integrityDigest .writeIntegrityMismatch

/-- `_verify_write_set`. -/
def verifyWriteSet (a : Anchor) (checkpoint : String × String × String) (rows : List WriteRow) : Check Unit := do
  forEach (verifyWriteRow rt) rows
  match a.currentWriteHead checkpoint with
  | none => raiseIf (rows ≠ []) (.integrity .writeSetMismatch)
  | some head => do
    raiseIf (head.writeCount ≠ rows.length) (.integrity .writeSetMismatch)
    rejectUnequal head.aggregateDigest (writeAggregate rt rows) .writeSetMismatch

/-! ## Reading -/

/-- The databases of a saver. -/
structure Store where
  db : Database
  anchor : Anchor
  deriving DecidableEq, Repr

/-- `CheckpointTuple`; the configs are given by their identifiers. -/
structure CheckpointTuple (δ : Type) where
  key : String × String × String
  checkpoint : δ
  metadata : Json
  parent : Option String
  pendingWrites : List (String × String × δ)

/-- `serde.loads_typed`. -/
def load (saver : Saver) (type : String) (blob : Blob) : Check δ := do
  let plain ← saver.opened type blob
  rt.loadsTyped type plain

/-- `_tuple_from_row`. -/
def tupleFromRow (saver : Saver) (s : Store) (r : CheckpointRow) (requireCurrentHead : Bool) : Check (CheckpointTuple δ) := do
  verifyCheckpointChain rt s.db r
  if requireCurrentHead then
    match s.anchor.currentHead r.ns with
    | none => .error (.integrity .checkpointRollbackDetected)
    | some head => do
      raiseIf (head.generation ≠ r.generation ∨ head.checkpointId ≠ r.checkpointId) (.integrity .checkpointRollbackDetected)
      rejectUnequal head.checkpointDigest r.integrityDigest .checkpointRollbackDetected
  else .ok ()
  let rows := writeRows s.db r.key
  verifyWriteSet rt s.anchor r.key rows
  let checkpoint ← load rt saver r.type r.checkpoint
  let metadata ← rt.loadsMetadata r.metadata
  let pendingWrites ← gather (fun w => do
    let value ← load rt saver w.type w.value
    return (w.taskId, w.channel, value)) rows
  return ⟨r.key, checkpoint, metadata, r.parentCheckpointId, pendingWrites⟩

/-- `get_tuple`, with or without a checkpoint id. -/
def getTuple (saver : Saver) (s : Store) (ns : Namespace) (requested : Option String) : Check (Option (CheckpointTuple δ)) :=
  match requested with
  | some checkpointId =>
    match checkpointRow s.db (ns.1, ns.2, checkpointId) with
    | none => .ok none
    | some r => do
      let tuple ← tupleFromRow rt saver s r false
      return some tuple
  | none =>
    match s.anchor.currentHead ns with
    | none => .ok none
    | some head =>
      match checkpointRow s.db (ns.1, ns.2, head.checkpointId) with
      | none => .error (.integrity .checkpointRollbackDetected)
      | some r => do
        let tuple ← tupleFromRow rt saver s r true
        return some tuple

/-! ## Writing checkpoints -/

/-- What `put` is called with: the checkpoint as it serializes, and the metadata with the text that is
stored of it. -/
structure PutRequest where
  threadId : String
  checkpointNs : String
  checkpointId : String
  parentCheckpointId : Option String
  type : String
  plain : Blob
  metadata : Json
  metadataBlob : Blob

def PutRequest.ns (r : PutRequest) : Namespace := (r.threadId, r.checkpointNs)

def PutRequest.key (r : PutRequest) : String × String × String := (r.threadId, r.checkpointNs, r.checkpointId)

def sensitiveMetadataKeyFragments : List String := ["authorization", "credential", "password", "secret", "token", "prompt", "message", "content",
  "arguments", "tool_result"]

/-- `fragment in key`. -/
def contains (key fragment : String) : Bool := key.toList.tails.any fun rest => fragment.toList.isPrefixOf rest

/-- `_assert_metadata_minimized`. -/
def assertMetadataMinimized : Json → Check Unit
  | .field name value rest => do
    raiseIf ((sensitiveMetadataKeyFragments.any fun fragment => contains (rt.casefold name) fragment) = true)
      (.confidentiality .sensitiveMetadataRejected)
    assertMetadataMinimized value
    assertMetadataMinimized rest
  | .cons value rest => do
    assertMetadataMinimized value
    assertMetadataMinimized rest
  | _ => .ok ()

/-- The check of P4-C and P4-H at the head of `put`. -/
def admits (saver : Saver) (r : PutRequest) : Check Unit :=
  match saver with
  | .durable => .ok ()
  | .confidential _ => assertMetadataMinimized rt r.metadata
  | .operation _ => assertMetadataMinimized rt r.metadata

/-- The stored row is that of the same call: the idempotent replay of `put`. -/
def sameCall (saver : Saver) (existing : CheckpointRow) (r : PutRequest) : Check Bool :=
  if existing.type = r.type then do
    let plain ← saver.opened existing.type existing.checkpoint
    return plain = r.plain ∧ existing.metadata = r.metadataBlob ∧ existing.parentCheckpointId = r.parentCheckpointId
  else .ok false

/-- The row of a checkpoint after the head of its namespace. -/
def newRow (saver : Saver) (head : Option CheckpointHead) (r : PutRequest) (nonce : Nat) : CheckpointRow :=
  let row : CheckpointRow := {
    threadId := r.threadId
    checkpointNs := r.checkpointNs
    checkpointId := r.checkpointId
    parentCheckpointId := r.parentCheckpointId
    type := r.type
    checkpoint := saver.dumps r.type r.plain nonce
    metadata := r.metadataBlob
    generation := (head.map fun h => h.generation + 1).getD 1
    previousDigest := (head.map (·.checkpointDigest)).getD zeroDigest
    integrityDigest := "" }
  { row with integrityDigest := checkpointDigest rt row }

def CheckpointRow.head (r : CheckpointRow) : CheckpointHead := ⟨r.threadId, r.checkpointNs, r.generation, r.checkpointId, r.integrityDigest⟩

/-- Keys of three texts are compared as they are. -/
instance lawful_triple : LawfulBEq (String × String × String) := inferInstance

/-- `INSERT INTO checkpoints`, under its two keys. -/
def insertCheckpoint (db : Database) (r : CheckpointRow) : Check Database := do
  raiseIf (r.key ∈ db.checkpoints.map CheckpointRow.key ∨ r.place ∈ db.checkpoints.map CheckpointRow.place) .constraint
  return { db with checkpoints := db.checkpoints ++ [r] }

/-- What `put` has come to when its first transaction is over. -/
inductive PutProgress where
  | replayed
  | inserted (db : Database) (head : Option CheckpointHead) (row : CheckpointRow)

/-- `put` up to and with the commit of the checkpoint database. -/
def putDatabase (saver : Saver) (s : Store) (r : PutRequest) (nonce : Nat) : Check PutProgress := do
  admits rt saver r
  match checkpointRow s.db r.key with
  | some existing => do
    verifyCheckpointRow rt existing
    let same ← sameCall saver existing r
    raiseIf (¬ same) (.integrity .checkpointConflict)
    return .replayed
  | none => do
    let head := s.anchor.currentHead r.ns
    let row := newRow rt saver head r nonce
    let db ← insertCheckpoint s.db row
    return .inserted db head row

/-- The anchor transaction of `put`. -/
def putAnchor (saver : Saver) (a : Anchor) (head : Option CheckpointHead) (row : CheckpointRow) : Check Anchor :=
  match saver with
  | .durable => a.compareAndPut head row.head
  | .confidential _ => a.compareAndPut head row.head
  | .operation _ => a.advance row.head (head.map (·.generation))

/-- `put`: the new state, and what is raised; a head that cannot be moved takes the row with it. -/
def put (saver : Saver) (s : Store) (r : PutRequest) (nonce : Nat) : Store × Check Unit :=
  match putDatabase rt saver s r nonce with
  | .error e => (s, .error e)
  | .ok .replayed => (s, .ok ())
  | .ok (.inserted db head row) =>
    match putAnchor saver s.anchor head row with
    | .ok anchor => (⟨db, anchor⟩, .ok ())
    | .error e => (⟨{ db with checkpoints := db.checkpoints.filter (·.key ≠ r.key) }, s.anchor⟩, .error e)

/-! ## Pending writes -/

/-- One of the `writes` of `put_writes`, as its value serializes. -/
structure Write where
  channel : String
  type : String
  plain : Blob
  nonce : Nat

/-- The row of a write, at its place in the list or that of its special channel. -/
def candidate (saver : Saver) (checkpoint : String × String × String) (taskId : String) (w : Write) (idx : Nat) : WriteRow :=
  let row : WriteRow := {
    threadId := checkpoint.1
    checkpointNs := checkpoint.2.1
    checkpointId := checkpoint.2.2
    taskId := taskId
    idx := (rt.writesIdx w.channel).getD idx
    channel := w.channel
    type := w.type
    value := saver.dumps w.type w.plain w.nonce
    integrityDigest := "" }
  { row with integrityDigest := writeDigest rt row }

def candidates (saver : Saver) (checkpoint : String × String × String) (taskId : String) (writes : List Write) : List WriteRow :=
  writes.zipIdx.map fun w => candidate rt saver checkpoint taskId w.1 w.2

/-- `INSERT OR IGNORE INTO writes`. -/
def insertOrIgnore (rows : List WriteRow) (r : WriteRow) : List WriteRow :=
  if r.key ∈ rows.map WriteRow.key then rows else rows ++ [r]

/-- `INSERT OR REPLACE INTO writes`. -/
def insertOrReplace (rows : List WriteRow) (r : WriteRow) : List WriteRow := rows.filter (·.key ≠ r.key) ++ [r]

/-- `all(channel in WRITES_IDX_MAP for channel, _ in writes)`. -/
def replaces (writes : List Write) : Bool := writes.all fun w => (rt.writesIdx w.channel).isSome

/-- `put_writes`: rows, and then the aggregate of whatever rows are there. -/
def putWrites (saver : Saver) (s : Store) (checkpoint : String × String × String) (taskId : String) (writes : List Write) : Store :=
  let insert := if replaces rt writes then insertOrReplace else insertOrIgnore
  let db : Database := { s.db with writes := (candidates rt saver checkpoint taskId writes).foldl insert s.db.writes }
  let rows := writeRows db checkpoint
  ⟨db, s.anchor.setWriteHead ⟨checkpoint.1, checkpoint.2.1, checkpoint.2.2, rows.length, writeAggregate rt rows⟩⟩

/-- `delete_thread`. -/
def deleteThread (s : Store) (threadId : String) : Store :=
  ⟨⟨s.db.checkpoints.filter (·.threadId ≠ threadId), s.db.writes.filter (·.threadId ≠ threadId)⟩, s.anchor.deleteThread threadId⟩

end

namespace Sample

theorem ascii_repr (n : Nat) : ascii (Nat.repr n) = true := by
  rw [ascii, letters_eq, Nat.toList_repr, List.all_eq_true]
  intro c hc
  have hdigit : c.isDigit = true := Nat.isDigit_of_mem_toDigits (by decide) (by decide) hc
  simp only [Char.isDigit, Bool.and_eq_true, decide_eq_true_eq] at hdigit
  have hhigh : c.toNat ≤ 57 := hdigit.2
  rw [decide_eq_true_iff]
  omega

/-- Digests are numbers, values are their own bytes and the special channels are those of LangGraph. -/
def runtime : Runtime Blob where
  hmac j := Nat.repr j.weight
  hmac_ascii j := ascii_repr j.weight
  keyId := "key"
  blobSha256 b := Nat.repr (b.foldl (fun n x => n * 257 + x.toNat + 1) 0)
  writesIdx channel :=
    if channel = "__error__" then some (-1) else if channel = "__scheduled__" then some (-2)
    else if channel = "__interrupt__" then some (-3) else if channel = "__resume__" then some (-4) else none
  loadsTyped _ b := .ok b
  loadsMetadata _ := .ok .null
  casefold s := s

end Sample

end Aegis.Checkpoints
