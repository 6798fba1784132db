/-
  Aegis.Checkpoints.KeyMigration — the migration to the active encryption key
  (checkpoint_key_lifecycle.py, checkpoint_lifecycle_capabilities.py, checkpoint_external_lifecycle.py).

  Both migrations read what they migrate from the checkpoint database. The local one then updates the heads of
  the namespaces it found; the external-style one replaces the state of the anchor by the heads it found, so
  that a namespace whose rows are gone loses its head, and with it the evidence of the rollback.
  - `validated`: a migration that returns has read every namespace that has rows.
  - `mem_heads_of_pass`: the heads it comes to are those of the namespaces that have rows.
  - `evidence_kept_iff`: a migration that returns keeps the evidence of every rollback if and only if it is
    local, or every anchored namespace still has rows.
  - `Sample.erased`: the rows of a thread are gone, another thread is migrated, and the read of the first, which
    raised, returns none.
-/

import Mathlib.Data.List.Dedup
import Aegis.Checkpoints.Durability

namespace Aegis.Checkpoints

open Data Data.Checks

/-- Who migrates: the P4-D saver itself, or the lifecycle provider of a P4-H saver. -/
inductive Lifecycle where
  | keyLifecycle
  | localSqlite
  | external
  deriving DecidableEq, Repr

def Lifecycle.saver (lifecycle : Lifecycle) (cipher : Cipher) : Saver :=
  match lifecycle with
  | keyLifecycle => .confidential cipher
  | localSqlite => .operation cipher
  | external => .operation cipher

structure CheckpointKeyMigrationReport where
  activeKeyId : String
  checkpointsReencrypted : Nat
  writesReencrypted : Nat
  checkpointsExamined : Nat
  writesExamined : Nat
  deriving DecidableEq, Repr

/-- The nonces the rows are encrypted with. -/
structure Nonces where
  checkpoint : String × String × String → Nat
  write : (String × String × String) × String × Int → Nat

section
variable {δ : Type} (rt : Runtime δ) (cipher : Cipher) (activeKeyId : String) (nonces : Nonces)

/-! ## The rows -/

/-- What is stored of a blob after the migration, and whether it was encrypted again. -/
def reencrypt (type : String) (blob : Blob) (nonce : Nat) : Check (Blob × Bool) := do
  let plain ← cipher.decrypt type blob
  let keyId ← cipher.envelopeKeyId blob
  return if keyId = activeKeyId then (blob, false) else (cipher.encrypt type plain nonce, true)

/-- The loop over `checkpoints`. The digests of `previous_by_namespace` are those of `heads`. -/
structure CheckpointPass where
  db : Database
  heads : List CheckpointHead
  reencrypted : Nat

/-- `0` for the first generation, else `previous_by_namespace[namespace]`. -/
def previousDigest (heads : List CheckpointHead) (r : CheckpointRow) : Check String :=
  if r.generation = 1 then .ok zeroDigest
  else orRaise .key ((Table.lookup CheckpointHead.ns heads r.ns).map (·.checkpointDigest))

def migrateCheckpoint (p : CheckpointPass) (r : CheckpointRow) : Check CheckpointPass := do
  let blob ← reencrypt cipher activeKeyId r.type r.checkpoint (nonces.checkpoint r.key)
  let previous ← previousDigest p.heads r
  let digest := checkpointDigest rt { r with checkpoint := blob.1, previousDigest := previous }
  return {
    db := { p.db with checkpoints := Table.update CheckpointRow.key p.db.checkpoints r.key fun old =>
      { old with checkpoint := blob.1, previousDigest := previous, integrityDigest := digest } }
    heads := Table.put CheckpointHead.ns p.heads ⟨r.threadId, r.checkpointNs, r.generation, r.checkpointId, digest⟩
    reencrypted := p.reencrypted + if blob.2 = true then 1 else 0 }

/-- The loop over `writes`. -/
structure WritePass where
  db : Database
  reencrypted : Nat

def migrateWrite (p : WritePass) (r : WriteRow) : Check WritePass := do
  let blob ← reencrypt cipher activeKeyId r.type r.value (nonces.write r.key)
  let digest := writeDigest rt { r with value := blob.1 }
  return {
    db := { p.db with writes := Table.update WriteRow.key p.db.writes r.key fun old => { old with value := blob.1, integrityDigest := digest } }
    reencrypted := p.reencrypted + if blob.2 = true then 1 else 0 }

/-- `ORDER BY thread_id, checkpoint_ns, generation` -/
def checkpointsInOrder (db : Database) : List CheckpointRow :=
  sortOn (fun r => toLex (r.threadId, toLex (r.checkpointNs, r.generation))) db.checkpoints

/-- `ORDER BY thread_id, checkpoint_ns, checkpoint_id, task_id, idx` -/
def writesInOrder (db : Database) : List WriteRow :=
  sortOn (fun r => toLex (r.threadId, toLex (r.checkpointNs, toLex (r.checkpointId, toLex (r.taskId, r.idx))))) db.writes

/-- The heads of the sets of writes that have rows. -/
def migratedWriteHeads (db : Database) (writes : List WriteRow) : List WriteHead :=
  (writes.map WriteRow.of).dedup.map fun checkpoint =>
    ⟨checkpoint.1, checkpoint.2.1, checkpoint.2.2, (writeRows db checkpoint).length, writeAggregate rt (writeRows db checkpoint)⟩

/-! ## The anchor -/

/-- The `UPDATE`s of the local migration. -/
def updateHeads (a : Anchor) (heads : List CheckpointHead) (writeHeads : List WriteHead) : Anchor where
  checkpointHeads := heads.foldl (fun anchored h => Table.update CheckpointHead.ns anchored h.ns fun _ => h) a.checkpointHeads
  writeHeads := writeHeads.foldl (fun anchored h => Table.update WriteHead.of anchored h.of fun _ => h) a.writeHeads

/-- `SyntheticExternalCheckpointAnchorRuntimeBridge.replace_state`. -/
def replaceState (heads : List CheckpointHead) (writeHeads : List WriteHead) : Check Anchor := do
  scan (fun seen h => do
    raiseIf (h.generation < 1) .value
    raiseIf (h.ns ∈ seen.map CheckpointHead.ns) .value) [] heads
  scan (fun seen h => raiseIf (h.of ∈ seen.map WriteHead.of) .value) [] writeHeads
  return ⟨heads, writeHeads⟩

def sortedHeads (heads : List CheckpointHead) : List CheckpointHead := sortOn (fun h => toLex (h.threadId, h.checkpointNs)) heads

def sortedWriteHeads (heads : List WriteHead) : List WriteHead :=
  sortOn (fun h => toLex (h.threadId, toLex (h.checkpointNs, h.checkpointId))) heads

/-- The anchor after the migration. The external-style one keeps the heads of writes it did not migrate. -/
def migrateAnchor (lifecycle : Lifecycle) (a : Anchor) (heads : List CheckpointHead) (writeHeads : List WriteHead) : Check Anchor :=
  match lifecycle with
  | .keyLifecycle => .ok (updateHeads a heads writeHeads)
  | .localSqlite => .ok (updateHeads a heads writeHeads)
  | .external => replaceState (sortedHeads heads) (sortedWriteHeads ((a.writeHeads ++ writeHeads).foldl (Table.put WriteHead.of) []))

/-! ## The migration -/

/-- `SELECT DISTINCT thread_id, checkpoint_ns` -/
def namespaces (db : Database) : List Namespace := ((checkpointsInOrder db).map CheckpointRow.ns).dedup

def readNamespace (saver : Saver) (s : Store) (ns : Namespace) : Check Unit := (getTuple rt saver s ns none).map fun _ => ()

/-- What is read before the migration: every namespace, and every checkpoint. -/
def validate (saver : Saver) (s : Store) : Check Unit := do
  forEach (readNamespace rt saver s) (namespaces s.db)
  forEach (fun r => (getTuple rt saver s r.ns (some r.checkpointId)).map fun _ => ()) (checkpointsInOrder s.db)

/-- The transaction of the migration. -/
def migrateRows (lifecycle : Lifecycle) (s : Store) : Check (Store × CheckpointKeyMigrationReport) := do
  let rows := checkpointsInOrder s.db
  let checkpoints ← rows.foldlM (migrateCheckpoint rt cipher activeKeyId nonces) ⟨s.db, [], 0⟩
  let writeRows := writesInOrder checkpoints.db
  let writes ← writeRows.foldlM (migrateWrite rt cipher activeKeyId nonces) ⟨checkpoints.db, 0⟩
  let anchor ← migrateAnchor lifecycle s.anchor checkpoints.heads (migratedWriteHeads rt writes.db writeRows)
  return (⟨writes.db, anchor⟩, ⟨activeKeyId, checkpoints.reencrypted, writes.reencrypted, rows.length, writeRows.length⟩)

/-- `migrate_to_active_encryption_key`: the new state, and what is returned or raised. The namespaces are read
again when the transaction has been committed. -/
def migrate (lifecycle : Lifecycle) (s : Store) : Store × Check CheckpointKeyMigrationReport :=
  match validate rt (lifecycle.saver cipher) s with
  | .error e => (s, .error e)
  | .ok () =>
    match migrateRows rt cipher activeKeyId nonces lifecycle s with
    | .error e => (s, .error e)
    | .ok (migrated, report) =>
      (migrated, (forEach (readNamespace rt (lifecycle.saver cipher) migrated) (namespaces s.db)).map fun _ => report)

/-- Every read of a current checkpoint that raised raises afterwards, and every anchored namespace is anchored. -/
structure EvidenceKept (saver : Saver) (before after : Store) : Prop where
  raises : ∀ ns reason, getTuple rt saver before ns none = .error (.integrity reason) →
    ∃ reason', getTuple rt saver after ns none = .error (.integrity reason')
  anchored : ∀ head ∈ before.anchor.checkpointHeads, head.ns ∈ after.anchor.checkpointHeads.map CheckpointHead.ns

end

section
variable {δ : Type} {rt : Runtime δ} {cipher : Cipher} {activeKeyId : String} {nonces : Nonces} {lifecycle : Lifecycle} {saver : Saver}
  {s s' : Store} {report : CheckpointKeyMigrationReport} {ns : Namespace}

/-! ## Namespaces with rows -/

theorem mem_namespaces {db : Database} : ns ∈ namespaces db ↔ ns ∈ db.checkpoints.map CheckpointRow.ns := by
  unfold namespaces checkpointsInOrder
  rw [List.mem_dedup]
  exact ((perm_sortOn _ _).map _).mem_iff

/-- A namespace without rows is read from its head alone. -/
theorem getTuple_of_no_rows (h : ns ∉ s.db.checkpoints.map CheckpointRow.ns) :
    getTuple rt saver s ns none = match s.anchor.currentHead ns with
      | none => .ok none
      | some _ => .error (.integrity .checkpointRollbackDetected) := by
  unfold getTuple
  cases s.anchor.currentHead ns with
  | none => rfl
  | some head =>
    have hnone : checkpointRow s.db (ns.1, ns.2, head.checkpointId) = none := by
      refine Table.lookup_eq_none.mpr fun hin => h ?_
      obtain ⟨r, hr, hkey⟩ := List.mem_map.mp hin
      obtain ⟨hthread, hrest⟩ := Prod.mk.inj hkey
      obtain ⟨hcheckpoint, -⟩ := Prod.mk.inj hrest
      exact List.mem_map.mpr ⟨r, hr, Prod.ext hthread hcheckpoint⟩
    simp only [hnone]

/-! ## The loops -/

/-- What a row does to the keys of `checkpoints` and to the heads. -/
theorem migrateCheckpoint_ok {p p' : CheckpointPass} {r : CheckpointRow} (h : migrateCheckpoint rt cipher activeKeyId nonces p r = .ok p') :
    p'.db.checkpoints.map CheckpointRow.key = p.db.checkpoints.map CheckpointRow.key ∧
      ∃ head, head.ns = r.ns ∧ p'.heads = Table.put CheckpointHead.ns p.heads head := by
  unfold migrateCheckpoint at h
  simp only [ok_bind] at h
  obtain ⟨blob, -, previous, -, he⟩ := h
  obtain rfl := Except.ok.inj he
  exact ⟨Table.map_key_update fun _ hk => hk, _, rfl, rfl⟩

theorem checkpointPass {rows : List CheckpointRow} {p p' : CheckpointPass}
    (h : rows.foldlM (migrateCheckpoint rt cipher activeKeyId nonces) p = .ok p') :
    p'.db.checkpoints.map CheckpointRow.key = p.db.checkpoints.map CheckpointRow.key ∧
      ∀ ns, ns ∈ p'.heads.map CheckpointHead.ns ↔ ns ∈ p.heads.map CheckpointHead.ns ∨ ns ∈ rows.map CheckpointRow.ns := by
  induction rows generalizing p with
  | nil =>
    obtain rfl := Except.ok.inj h
    simp
  | cons r rows ih =>
    rw [List.foldlM_cons, ok_bind] at h
    obtain ⟨q, hstep, hrest⟩ := h
    obtain ⟨hkeys, head, hns, hheads⟩ := migrateCheckpoint_ok hstep
    obtain ⟨hkeys', hheads'⟩ := ih hrest
    refine ⟨hkeys'.trans hkeys, fun ns => ?_⟩
    rw [hheads', hheads, Table.mem_keys_put, hns, List.map_cons, List.mem_cons, or_assoc]

theorem migrateWrite_ok {p p' : WritePass} {r : WriteRow} (h : migrateWrite rt cipher activeKeyId nonces p r = .ok p') :
    p'.db.checkpoints = p.db.checkpoints := by
  unfold migrateWrite at h
  rw [ok_bind] at h
  obtain ⟨blob, -, he⟩ := h
  obtain rfl := Except.ok.inj he
  rfl

theorem writePass {rows : List WriteRow} {p p' : WritePass} (h : rows.foldlM (migrateWrite rt cipher activeKeyId nonces) p = .ok p') :
    p'.db.checkpoints = p.db.checkpoints := by
  induction rows generalizing p with
  | nil =>
    obtain rfl := Except.ok.inj h
    rfl
  | cons r rows ih =>
    rw [List.foldlM_cons, ok_bind] at h
    obtain ⟨q, hstep, hrest⟩ := h
    exact (ih hrest).trans (migrateWrite_ok hstep)

/-! ## What a migration that returns has done -/

/-- The rows have the keys they had, and the anchor was made from heads for the namespaces that have rows. -/
structure Migrated (lifecycle : Lifecycle) (s s' : Store) : Prop where
  keys : s'.db.checkpoints.map CheckpointRow.key = s.db.checkpoints.map CheckpointRow.key
  moved : ∃ heads writeHeads, migrateAnchor lifecycle s.anchor heads writeHeads = .ok s'.anchor ∧
    ∀ ns, ns ∈ heads.map CheckpointHead.ns ↔ ns ∈ s.db.checkpoints.map CheckpointRow.ns

theorem migrated_of_rows (h : migrateRows rt cipher activeKeyId nonces lifecycle s = .ok (s', report)) : Migrated lifecycle s s' := by
  unfold migrateRows at h
  simp only [ok_bind] at h
  obtain ⟨checkpoints, hcheckpoints, writes, hwrites, anchor, hanchor, he⟩ := h
  obtain ⟨rfl, rfl⟩ := Prod.mk.inj (Except.ok.inj he)
  obtain ⟨hkeys, hheads⟩ := checkpointPass hcheckpoints
  have hrows : ∀ ns, ns ∈ (checkpointsInOrder s.db).map CheckpointRow.ns ↔ ns ∈ s.db.checkpoints.map CheckpointRow.ns :=
    fun ns => ((perm_sortOn _ _).map _).mem_iff
  refine ⟨?_, _, _, hanchor, fun ns => ?_⟩
  · exact (congrArg (List.map CheckpointRow.key) (writePass hwrites)).trans hkeys
  · rw [hheads, hrows]
    simp

theorem migrate_ok (h : (migrate rt cipher activeKeyId nonces lifecycle s).2 = .ok report) :
    validate rt (lifecycle.saver cipher) s = .ok () ∧ Migrated lifecycle s (migrate rt cipher activeKeyId nonces lifecycle s).1 := by
  cases hv : validate rt (lifecycle.saver cipher) s with
  | error e =>
    simp only [migrate, hv] at h
    cases h
  | ok u =>
    cases hm : migrateRows rt cipher activeKeyId nonces lifecycle s with
    | error e =>
      simp only [migrate, hv, hm] at h
      cases h
    | ok migrated =>
      refine ⟨rfl, ?_⟩
      simp only [migrate, hv, hm]
      exact migrated_of_rows hm

/-- A migration that returns has read every namespace that has rows. -/
theorem validated (h : validate rt saver s = .ok ()) (hns : ns ∈ s.db.checkpoints.map CheckpointRow.ns) :
    ∃ tuple, getTuple rt saver s ns none = .ok tuple := by
  unfold validate at h
  rw [ok_seq, forEach_ok] at h
  have hread := h.1 ns (mem_namespaces.mpr hns)
  unfold readNamespace at hread
  cases hg : getTuple rt saver s ns none with
  | error e =>
    rw [hg] at hread
    cases hread
  | ok tuple => exact ⟨tuple, rfl⟩

theorem rows_kept (h : Migrated lifecycle s s') : ns ∈ s'.db.checkpoints.map CheckpointRow.ns ↔ ns ∈ s.db.checkpoints.map CheckpointRow.ns := by
  have hns : ∀ rows : List CheckpointRow, rows.map CheckpointRow.ns = (rows.map CheckpointRow.key).map fun k => (k.1, k.2.1) := by
    intro rows
    rw [List.map_map]
    rfl
  rw [hns, hns, h.keys]

/-! ## The anchors -/

theorem keys_updates (heads anchored : List CheckpointHead) :
    (heads.foldl (fun anchored h => Table.update CheckpointHead.ns anchored h.ns fun _ => h) anchored).map CheckpointHead.ns =
      anchored.map CheckpointHead.ns := by
  induction heads generalizing anchored with
  | nil => rfl
  | cons h heads ih => exact (ih _).trans (Table.map_key_update fun _ hk => hk.symm ▸ rfl)

/-- A local migration keeps every head. -/
theorem local_keys (hlocal : lifecycle ≠ .external) (h : Migrated lifecycle s s') :
    s'.anchor.checkpointHeads.map CheckpointHead.ns = s.anchor.checkpointHeads.map CheckpointHead.ns := by
  obtain ⟨heads, writeHeads, hanchor, -⟩ := h.moved
  have hupdated : s'.anchor = updateHeads s.anchor heads writeHeads := by
    cases lifecycle with
    | keyLifecycle => exact (Except.ok.inj hanchor).symm
    | localSqlite => exact (Except.ok.inj hanchor).symm
    | external => exact absurd rfl hlocal
  rw [hupdated]
  exact keys_updates heads _

/-- An external-style migration has heads for the namespaces that have rows. -/
theorem external_keys (h : Migrated .external s s') :
    ns ∈ s'.anchor.checkpointHeads.map CheckpointHead.ns ↔ ns ∈ s.db.checkpoints.map CheckpointRow.ns := by
  obtain ⟨heads, writeHeads, hanchor, hheads⟩ := h.moved
  have hreplaced : s'.anchor.checkpointHeads = sortedHeads heads := by
    simp only [migrateAnchor, replaceState, ok_seq] at hanchor
    rw [← Except.ok.inj hanchor.2.2]
  rw [hreplaced, ← hheads ns]
  exact ((perm_sortOn _ _).map _).mem_iff

theorem currentHead_isSome {a : Anchor} : (a.currentHead ns).isSome = true ↔ ns ∈ a.checkpointHeads.map CheckpointHead.ns :=
  Table.mem_keys_iff.symm

/-- A namespace that is read with an integrity error has no rows, and has a head. -/
theorem raised_of_validated {reason : CheckpointIntegrityReason} (hv : validate rt saver s = .ok ())
    (h : getTuple rt saver s ns none = .error (.integrity reason)) :
    ns ∉ s.db.checkpoints.map CheckpointRow.ns ∧ ns ∈ s.anchor.checkpointHeads.map CheckpointHead.ns := by
  have hrows : ns ∉ s.db.checkpoints.map CheckpointRow.ns := by
    intro hns
    obtain ⟨tuple, hread⟩ := validated hv hns
    rw [hread] at h
    cases h
  refine ⟨hrows, currentHead_isSome.mp ?_⟩
  rw [getTuple_of_no_rows hrows] at h
  cases hhead : s.anchor.currentHead ns with
  | none =>
    rw [hhead] at h
    cases h
  | some head => rfl

theorem raises_of_head (hrows : ns ∉ s.db.checkpoints.map CheckpointRow.ns) (hhead : ns ∈ s.anchor.checkpointHeads.map CheckpointHead.ns) :
    getTuple rt saver s ns none = .error (.integrity .checkpointRollbackDetected) := by
  obtain ⟨head, hcurrent⟩ := Option.isSome_iff_exists.mp (currentHead_isSome.mpr hhead)
  rw [getTuple_of_no_rows hrows, hcurrent]

/-- A migration that returns keeps the evidence of every rollback, unless it is the external-style one and a
namespace that is anchored has no rows. -/
theorem evidence_kept_iff (h : (migrate rt cipher activeKeyId nonces lifecycle s).2 = .ok report) :
    EvidenceKept rt (lifecycle.saver cipher) s (migrate rt cipher activeKeyId nonces lifecycle s).1 ↔
      (lifecycle = .external → ∀ head ∈ s.anchor.checkpointHeads, ∃ row ∈ s.db.checkpoints, row.ns = head.ns) := by
  obtain ⟨hv, hm⟩ := migrate_ok h
  constructor
  · intro hkept hexternal head hhead
    subst hexternal
    exact List.mem_map.mp (external_keys hm |>.mp (hkept.anchored head hhead))
  · intro hrows
    by_cases hlocal : lifecycle = .external
    · subst hlocal
      have hanchored : ∀ ns, ns ∈ s.anchor.checkpointHeads.map CheckpointHead.ns → ns ∈ s.db.checkpoints.map CheckpointRow.ns := by
        intro ns hns
        obtain ⟨head, hhead, rfl⟩ := List.mem_map.mp hns
        exact List.mem_map.mpr (hrows rfl head hhead)
      refine ⟨fun ns reason hraised => ?_, fun head hhead => ?_⟩
      · obtain ⟨hnone, hhead⟩ := raised_of_validated hv hraised
        exact absurd (hanchored ns hhead) hnone
      · exact (external_keys hm).mpr (hanchored _ (List.mem_map_of_mem hhead))
    · refine ⟨fun ns reason hraised => ?_, fun head hhead => ?_⟩
      · obtain ⟨hnone, hhead⟩ := raised_of_validated hv hraised
        refine ⟨_, raises_of_head (mt (rows_kept hm).mp hnone) ?_⟩
        rw [local_keys hlocal hm]
        exact hhead
      · rw [local_keys hlocal hm]
        exact List.mem_map_of_mem hhead

end

namespace Sample

/-- An envelope is the number of its key before the plain bytes. -/
def openEnvelope (_type : String) : Blob → Check Blob
  | [] => .error (.confidentiality .ciphertextEnvelopeInvalid)
  | _ :: plain => .ok plain

def envelopeKey : Blob → Check String
  | [] => .error (.confidentiality .ciphertextEnvelopeInvalid)
  | key :: _ => .ok (if key = 0 then "old" else "new")

theorem openEnvelope_seal (key : UInt8) (type : String) (plain : Blob) (_nonce : Nat) : openEnvelope type (key :: plain) = .ok plain := rfl

def keyring (key : UInt8) : Cipher where
  encrypt _ plain _ := key :: plain
  decrypt := openEnvelope
  envelopeKeyId := envelopeKey
  decrypt_encrypt := openEnvelope_seal key

def seen (threadId : String) : PutRequest := ⟨threadId, "", "one", none, "msgpack", [1], .obj [], [2]⟩

/-- Two threads, with a checkpoint each under the old key. -/
def stored : Store :=
  (put runtime (.operation (keyring 0)) (put runtime (.operation (keyring 0)) ⟨⟨[], []⟩, ⟨[], []⟩⟩ (seen "kept") 0).1 (seen "lost") 0).1

/-- The rows of one thread are gone. -/
def rolledBack : Store := { stored with db := { stored.db with checkpoints := stored.db.checkpoints.filter (·.threadId ≠ "lost") } }

def oneNonce : Nonces := ⟨fun _ => 0, fun _ => 0⟩

def migrated (lifecycle : Lifecycle) : Store × Check CheckpointKeyMigrationReport := migrate runtime (keyring 1) "new" oneNonce lifecycle rolledBack

/-- The id of the current checkpoint of a thread, as it is read with both keys. -/
def current (s : Store) (threadId : String) : Check (Option String) :=
  (getTuple runtime (.operation (keyring 1)) s (threadId, "") none).map fun tuple => tuple.map (·.key.2.2)

/-- The external-style migration of the other thread returns; the thread that was read with an error reads as
one that never was. The local migration leaves the error. -/
theorem erased : (migrated .external).2 = .ok ⟨"new", 1, 0, 1, 0⟩ ∧ current rolledBack "lost" = .error (.integrity .checkpointRollbackDetected) ∧
    current (migrated .external).1 "lost" = .ok none ∧ current (migrated .external).1 "kept" = .ok (some "one") ∧
    (migrated .localSqlite).2 = .ok ⟨"new", 1, 0, 1, 0⟩ ∧ current (migrated .localSqlite).1 "lost" = .error (.integrity .checkpointRollbackDetected) ∧
    ¬ EvidenceKept runtime (.operation (keyring 1)) rolledBack (migrated .external).1 := by
  have hbefore : current rolledBack "lost" = .error (.integrity .checkpointRollbackDetected) := by decide +kernel
  have hafter : current (migrated .external).1 "lost" = .ok none := by decide +kernel
  refine ⟨by decide +kernel, hbefore, hafter, by decide +kernel, by decide +kernel, by decide +kernel, fun hkept => ?_⟩
  have hraised : getTuple runtime (.operation (keyring 1)) rolledBack ("lost", "") none = .error (.integrity .checkpointRollbackDetected) := by
    unfold current at hbefore
    cases hread : getTuple runtime (.operation (keyring 1)) rolledBack ("lost", "") none with
    | error e =>
      rw [hread] at hbefore
      rw [Except.error.inj hbefore]
    | ok tuple =>
      rw [hread] at hbefore
      cases hbefore
  obtain ⟨reason, hstill⟩ := hkept.raises _ _ hraised
  unfold current at hafter
  rw [hstill] at hafter
  cases hafter

theorem evidence_kept_local : EvidenceKept runtime (.operation (keyring 1)) rolledBack (migrated .localSqlite).1 := by
  have hreturned : (migrated .localSqlite).2 = .ok ⟨"new", 1, 0, 1, 0⟩ := by decide +kernel
  refine (evidence_kept_iff hreturned).mpr fun hexternal => ?_
  cases hexternal

end Sample

end Aegis.Checkpoints
