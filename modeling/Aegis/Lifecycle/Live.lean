/-
  Aegis.Lifecycle.Live — what a lifecycle operation acts on, and how the journal and the
  provider observe it: the saver's database, the bound anchor, the active encryption key and
  the files a snapshot writes or a restore reads.

  A stored row is the columns the logical fingerprint selects and the key id of its
  ciphertext envelope (`none` when it does not parse). A lifecycle operation is an arbitrary
  `Behaviour`: it may change anything and then complete or raise.
-/

import Aegis.Data.Checks
import Aegis.Lifecycle.Command
import Aegis.Data.Table

namespace Aegis.Lifecycle

open Data

structure StoredRow where
  columns : Json
  keyId : Option String
  deriving DecidableEq, Repr

structure Database where
  checkpoints : List StoredRow
  writes : List StoredRow
  deriving DecidableEq, Repr

structure Anchor where
  checkpointHeads : List Json
  writeHeads : List Json
  deriving DecidableEq, Repr

inductive File where
  | database (d : Database)
  | anchor (a : Anchor)
  | other
  deriving DecidableEq, Repr

structure Live where
  database : Database
  anchor : Anchor
  activeKeyId : String
  files : List (String × File)
  deriving DecidableEq, Repr

/-- One run of a lifecycle operation: what it leaves, and whether it completed. -/
abbrev Behaviour := Live → Live × Bool

def Live.file? (l : Live) (path : String) : Option File :=
  (Table.lookup Prod.fst l.files path).map Prod.snd

variable (H : Hashing)

/-! ## Fingerprints -/

/-- `_fingerprint_state`. -/
def Anchor.fingerprint (a : Anchor) : String :=
  H.sha256 (.obj [("checkpoint_heads", .arr a.checkpointHeads), ("write_heads", .arr a.writeHeads)])

/-- `anchor_fingerprint`. -/
def Live.anchorFingerprint (l : Live) : String := l.anchor.fingerprint H

/-- `_logical_checkpoint_db_fingerprint` of a database that opens. -/
def Database.fingerprint (d : Database) : String :=
  H.sha256 (.obj [("checkpoints", .arr (d.checkpoints.map (·.columns))), ("writes", .arr (d.writes.map (·.columns)))])

/-- `_logical_checkpoint_db_fingerprint(path)`. -/
def Live.databaseFileFingerprint (l : Live) (path : String) : Except Error String :=
  match l.file? path with
  | some (.database d) => .ok (d.fingerprint H)
  | _ => .error (.provider .storeStateInvalid none none)

/-- `_anchor_snapshot_fingerprint(path)`. -/
def Live.anchorFileFingerprint (l : Live) (path : String) : Except Error String :=
  match l.file? path with
  | some (.anchor a) => .ok (a.fingerprint H)
  | _ => .error .anchorSnapshot

theorem Live.anchorFingerprint_not_blank (l : Live) : blank (l.anchorFingerprint H) = false :=
  H.sha256_not_blank _

theorem Live.anchorFingerprint_ne (l : Live) : l.anchorFingerprint H ≠ "" :=
  ne_empty_of_not_blank (l.anchorFingerprint_not_blank H)

/-! ## Observations -/

/-- `envelope_key_id` of every row. -/
def keyIds (rows : List StoredRow) : Except Error (List String) :=
  rows.mapM fun r => match r.keyId with
    | some i => .ok i
    | none => .error .envelope

/-- The two `_migration_observation`s; `extra` is what the provider's adds. -/
def Live.observeMigration (l : Live) (extra : List (String × Json)) : Except Error Json := do
  let checkpointIds ← keyIds l.database.checkpoints
  let writeIds ← keyIds l.database.writes
  pure (.obj ([("active_key_id", .str l.activeKeyId), ("anchor_fingerprint", .str (l.anchorFingerprint H)),
    ("checkpoint_active", .int (checkpointIds.count l.activeKeyId)), ("checkpoint_total", .int checkpointIds.length)]
    ++ extra
    ++ [("write_active", .int (writeIds.count l.activeKeyId)), ("write_total", .int writeIds.length)]))

/-- `_migration_observation` of the journal's coordinator. -/
def Live.migrationObservation (l : Live) : Except Error Json := l.observeMigration H []

/-- `_migration_observation` of the provider. -/
def Live.providerMigrationObservation (l : Live) : Except Error Json :=
  l.observeMigration H [("database_fingerprint", .str (l.database.fingerprint H))]

/-- `_operation_observation` of the journal's coordinator. -/
def Live.operationObservation (l : Live) : Operation → Except Error Json
  | .migration => l.migrationObservation H
  | _ => .ok (.obj [("anchor_fingerprint", .str (l.anchorFingerprint H))])

/-- `_pre_observation` of the provider. The backup paths were validated before. -/
def Live.preObservation (l : Live) (c : Command) (a : Args) : Except Error Json :=
  match c.operation with
  | .migration => l.providerMigrationObservation H
  | .snapshot =>
    .ok (.obj [("anchor_fingerprint", .str (l.anchorFingerprint H)),
      ("database_fingerprint", .str (l.database.fingerprint H))])
  | .restore => do
    let backupDatabase ← l.databaseFileFingerprint H (a.backupDatabasePath.getD "")
    let backupAnchor ← l.anchorFileFingerprint H (a.backupAnchorPath.getD "")
    pure (.obj [("anchor_fingerprint", .str (l.anchorFingerprint H)),
      ("backup_anchor_fingerprint", .str backupAnchor), ("backup_database_fingerprint", .str backupDatabase),
      ("database_fingerprint", .str (l.database.fingerprint H))])

variable {l : Live} {j : Json}

theorem Live.observeMigration_isObj {extra : List (String × Json)}
    (h : l.observeMigration H extra = .ok j) : j.isObj = true := by
  simp only [observeMigration, Checks.ok_bind] at h
  obtain ⟨cs, -, ws, -, he⟩ := h
  rw [← Except.ok.inj he, Json.isObj_obj]

theorem Live.observeMigration_anchor (h : l.migrationObservation H = .ok j) :
    (j.str? "anchor_fingerprint").getD "" = l.anchorFingerprint H := by
  simp only [migrationObservation, observeMigration, Checks.ok_bind] at h
  obtain ⟨cs, -, ws, -, he⟩ := h
  rw [← Except.ok.inj he]
  rfl

theorem Live.operationObservation_isObj {o : Operation} (h : l.operationObservation H o = .ok j) : j.isObj = true := by
  cases o with
  | migration => exact observeMigration_isObj H h
  | snapshot => cases h; rfl
  | restore => cases h; rfl

theorem Live.preObservation_isObj {c : Command} {a : Args} (h : l.preObservation H c a = .ok j) : j.isObj = true := by
  unfold preObservation at h
  split at h
  · exact observeMigration_isObj H h
  · cases h; rfl
  · simp only [Checks.ok_bind] at h
    obtain ⟨d, -, b, -, he⟩ := h
    rw [← Except.ok.inj he, Json.isObj_obj]

/-! ## Commit proofs -/

/-- `_migration_commit_proven`, the same in the journal and in the provider. -/
def migrationCommitProven (before current : Json) : Bool :=
  (do
    let beforeTotal := (← before.int? "checkpoint_total") + (← before.int? "write_total")
    let beforeActive := (← before.int? "checkpoint_active") + (← before.int? "write_active")
    let currentTotal := (← current.int? "checkpoint_total") + (← current.int? "write_total")
    let currentActive := (← current.int? "checkpoint_active") + (← current.int? "write_active")
    let beforeKey ← before.str? "active_key_id"
    let currentKey ← current.str? "active_key_id"
    let beforeAnchor ← before.str? "anchor_fingerprint"
    let currentAnchor ← current.str? "anchor_fingerprint"
    pure (decide (beforeTotal > 0 ∧ beforeTotal = currentTotal ∧ beforeActive < beforeTotal ∧
      currentActive = currentTotal ∧ beforeKey = currentKey ∧ beforeAnchor ≠ currentAnchor)) :
    Option Bool).getD false

/-- `_snapshot_commit_proven`. Only the anchor snapshot's own error gets out. -/
def Live.snapshotCommitProven (l : Live) (before : Json) (a : Args) : Except Error Bool :=
  match a.checkpointDestination, a.anchorDestination with
  | some checkpointDestination, some anchorDestination =>
    if (l.file? checkpointDestination).isNone ∨ (l.file? anchorDestination).isNone then .ok false
    else
      match l.databaseFileFingerprint H checkpointDestination, before.str? "database_fingerprint" with
      | .ok d, some d' =>
        if d = d' then do
          let f ← l.anchorFileFingerprint H anchorDestination
          pure (decide (before.str? "anchor_fingerprint" = some f))
        else .ok false
      | _, _ => .ok false
  | _, _ => .ok false

/-- `_restore_commit_proven`. -/
def Live.restoreCommitProven (l : Live) (before : Json) : Bool :=
  decide (before.str? "backup_database_fingerprint" = some (l.database.fingerprint H)) &&
    decide (before.str? "backup_anchor_fingerprint" = some (l.anchorFingerprint H))

end Aegis.Lifecycle
