/-
  Aegis.Checkpoints.Fingerprints — what proves that a snapshot or a restore has been committed
  (checkpoint_external_runtime_bridge.py, checkpoint_external_lifecycle.py,
  checkpoint_lifecycle_provider_state_machine.py).

  The live fingerprint takes the heads in the order of their scopes, which are JSON texts, and that of a
  snapshot takes them in the order of their columns. A digest of a list depends on its order.
  - `encodeCheckpointScope_lt_iff`, `scope_lt_iff_inOrder`: when the two orders agree on two namespaces.
  - `fingerprints_eq_iff`: the fingerprints are equal if and only if the orders agree on every two heads.
  - `commit_proven_iff`: so a completed snapshot or restore is proven exactly when they do.
  - `aligned_of_plain`: which they do when no id has a character below the quotation mark, or a backslash.
  - `Sample.unproven`: threads "a" and "a b".
-/

import Aegis.Checkpoints.KeyMigration
import Aegis.Data.QuotedOrder

namespace Aegis.Checkpoints

open Data Data.Checks Data.QuotedOrder

/-! ## The bridge -/

/-- `encode_checkpoint_scope`. -/
def encodeCheckpointScope (ns : Namespace) : String := (Json.arr [.str ns.1, .str ns.2]).dumpsText

def WriteHead.ns (h : WriteHead) : Namespace := (h.threadId, h.checkpointNs)

/-- `export_heads`. -/
def exportHeads (a : Anchor) : List CheckpointHead := sortOn (fun h => encodeCheckpointScope h.ns) a.checkpointHeads

/-- `export_write_heads`. -/
def exportWriteHeads (a : Anchor) : List WriteHead := sortOn (fun h => toLex (encodeCheckpointScope h.ns, h.checkpointId)) a.writeHeads

/-! ## Snapshots -/

/-- The two files of a snapshot. -/
structure PairSnapshot where
  db : Database
  anchor : Anchor
  deriving DecidableEq, Repr

/-- `_write_anchor_snapshot`: the tables have the heads in the order they came in, under their keys. -/
def writeAnchorSnapshot (heads : List CheckpointHead) (writeHeads : List WriteHead) : Check Anchor := do
  scan (fun seen h => raiseIf (h.generation < 1 ∨ h.ns ∈ seen.map CheckpointHead.ns) (.lifecycle .anchorSnapshotInvalid)) [] heads
  scan (fun seen h => raiseIf (h.of ∈ seen.map WriteHead.of) (.lifecycle .anchorSnapshotInvalid)) [] writeHeads
  return ⟨heads, writeHeads⟩

/-- `_read_anchor_snapshot`: both tables in the order of their keys. -/
def readAnchorSnapshot (a : Anchor) : List CheckpointHead × List WriteHead := (sortedHeads a.checkpointHeads, sortedWriteHeads a.writeHeads)

/-- `snapshot_pair`. -/
def snapshotPair (s : Store) : Check PairSnapshot := do
  let anchor ← writeAnchorSnapshot (exportHeads s.anchor) (exportWriteHeads s.anchor)
  return ⟨s.db, anchor⟩

/-- `restore_pair`: all there was is replaced by what the files have. -/
def restorePair (backup : PairSnapshot) : Check Store := do
  let heads := readAnchorSnapshot backup.anchor
  raiseIf (¬ ((backup.db.checkpoints.map CheckpointRow.key).Nodup ∧ (backup.db.checkpoints.map CheckpointRow.place).Nodup)) .constraint
  raiseIf (¬ (backup.db.writes.map WriteRow.key).Nodup) .constraint
  let anchor ← replaceState heads.1 heads.2
  return ⟨backup.db, anchor⟩

/-! ## Fingerprints -/

def CheckpointHead.toJson (h : CheckpointHead) : Json := .obj [
  ("checkpoint_digest", .str h.checkpointDigest), ("checkpoint_id", .str h.checkpointId),
  ("checkpoint_ns", .str h.checkpointNs), ("generation", .int h.generation), ("thread_id", .str h.threadId)]

def WriteHead.toJson (h : WriteHead) : Json := .obj [
  ("aggregate_digest", .str h.aggregateDigest), ("checkpoint_id", .str h.checkpointId),
  ("checkpoint_ns", .str h.checkpointNs), ("thread_id", .str h.threadId), ("write_count", .int h.writeCount)]

def hexDigitUpper (n : Nat) : Char := if n < 10 then Char.ofNat (48 + n) else Char.ofNat (55 + n)

/-- SQLite's `hex`. -/
def hexBlob (b : Blob) : String := String.ofList (b.flatMap fun x => [hexDigitUpper (x.toNat / 16), hexDigitUpper (x.toNat % 16)])

/-- A row as `_logical_checkpoint_db_fingerprint` selects it. -/
def CheckpointRow.toJson (r : CheckpointRow) : Json := .arr [.str r.threadId, .str r.checkpointNs, .str r.checkpointId,
  Json.opt .str r.parentCheckpointId, .str r.type, .str (hexBlob r.checkpoint), .str (hexBlob r.metadata), .int r.generation,
  .str r.previousDigest, .str r.integrityDigest]

def WriteRow.toJson (r : WriteRow) : Json := .arr [.str r.threadId, .str r.checkpointNs, .str r.checkpointId, .str r.taskId, .int r.idx,
  .str r.channel, .str r.type, .str (hexBlob r.value), .str r.integrityDigest]

section
variable (H : Hashing)

/-- `_logical_checkpoint_db_fingerprint`. -/
def logicalCheckpointDbFingerprint (db : Database) : String := H.sha256 (.obj [
  ("checkpoints", .arr ((checkpointsInOrder db).map CheckpointRow.toJson)),
  ("writes", .arr ((writesInOrder db).map WriteRow.toJson))])

/-- `_fingerprint_state`. -/
def fingerprintState (heads : List CheckpointHead) (writeHeads : List WriteHead) : String := H.sha256 (.obj [
  ("checkpoint_heads", .arr (heads.map CheckpointHead.toJson)),
  ("write_heads", .arr (writeHeads.map WriteHead.toJson))])

/-- `anchor_fingerprint`, of the live bridge. -/
def anchorFingerprint (a : Anchor) : String := fingerprintState H (exportHeads a) (exportWriteHeads a)

/-- `_anchor_snapshot_fingerprint`. -/
def anchorSnapshotFingerprint (a : Anchor) : String := fingerprintState H (readAnchorSnapshot a).1 (readAnchorSnapshot a).2

/-- What is observed before a snapshot or a restore. -/
structure Observation where
  anchorFingerprint : String
  databaseFingerprint : String
  backupDatabaseFingerprint : Option String
  backupAnchorFingerprint : Option String

/-- `_pre_observation`; a restore has a backup. -/
def preObservation (s : Store) (backup : Option PairSnapshot) : Observation where
  anchorFingerprint := anchorFingerprint H s.anchor
  databaseFingerprint := logicalCheckpointDbFingerprint H s.db
  backupDatabaseFingerprint := backup.map fun b => logicalCheckpointDbFingerprint H b.db
  backupAnchorFingerprint := backup.map fun b => anchorSnapshotFingerprint H b.anchor

/-- `_snapshot_commit_proven`, of the files that were written. -/
def snapshotCommitProven (before : Observation) (written : PairSnapshot) : Bool :=
  logicalCheckpointDbFingerprint H written.db = before.databaseFingerprint &&
    anchorSnapshotFingerprint H written.anchor = before.anchorFingerprint

/-- `_restore_commit_proven`. -/
def restoreCommitProven (before : Observation) (s : Store) : Bool :=
  some (logicalCheckpointDbFingerprint H s.db) = before.backupDatabaseFingerprint &&
    some (anchorFingerprint H s.anchor) = before.backupAnchorFingerprint

end

/-! ## The order of scopes -/

/-- The order of two scopes is that of their columns: the marks in which the thread ids first differ, or else
the namespaces, compare as they are written in JSON. -/
def InOrderNs (a b : Namespace) : Prop := InOrder a.1 b.1 ∧ (a.1 = b.1 → InOrder a.2 b.2)

/-- The order of every two heads is that of their columns. -/
structure Aligned (a : Anchor) : Prop where
  heads : ∀ h ∈ a.checkpointHeads, ∀ h' ∈ a.checkpointHeads, InOrderNs h.ns h'.ns
  writeHeads : ∀ h ∈ a.writeHeads, ∀ h' ∈ a.writeHeads, InOrderNs h.ns h'.ns

theorem encodeCheckpointScope_toList (ns : Namespace) : (encodeCheckpointScope ns).toList =
    '[' :: ((Json.quotedText ns.1).toList ++ ',' :: ((Json.quotedText ns.2).toList ++ [']'])) := by
  have htext : encodeCheckpointScope ns = "[" ++ Json.quotedText ns.1 ++ ("," ++ Json.quotedText ns.2 ++ "]") := rfl
  rw [htext]
  simp [String.toList_append]

theorem encodeCheckpointScope_injective : Function.Injective encodeCheckpointScope := by
  intro a b h
  have hlist := congrArg String.toList h
  rw [encodeCheckpointScope_toList, encodeCheckpointScope_toList, List.cons.injEq] at hlist
  have hthread := Json.readText_quoted a.1 (',' :: ((Json.quotedText a.2).toList ++ [']']))
  rw [hlist.2, Json.readText_quoted, Option.some.injEq, Prod.mk.injEq, List.cons.injEq] at hthread
  have hcheckpoint := Json.readText_quoted a.2 [']']
  rw [← hthread.2.2, Json.readText_quoted, Option.some.injEq, Prod.mk.injEq] at hcheckpoint
  exact Prod.ext hthread.1.symm hcheckpoint.1.symm

/-- Scopes compare by the thread ids as they are quoted, and then by the namespaces. -/
theorem encodeCheckpointScope_lt_iff (a b : Namespace) : encodeCheckpointScope a < encodeCheckpointScope b ↔
    (Json.quotedText a.1).toList ++ ',' :: ((Json.quotedText a.2).toList ++ [']']) <
      (Json.quotedText b.1).toList ++ ',' :: ((Json.quotedText b.2).toList ++ [']']) := by
  rw [String.lt_iff_toList_lt, encodeCheckpointScope_toList, encodeCheckpointScope_toList, List.cons_lt_cons_iff]
  simp

/-- Two namespaces are in order if and only if their scopes compare as their columns. -/
theorem scope_lt_iff_inOrder (a b : Namespace) : (encodeCheckpointScope a < encodeCheckpointScope b ↔ toLex a < toLex b) ↔ InOrderNs a b := by
  rw [encodeCheckpointScope_lt_iff, Prod.Lex.toLex_lt_toLex, InOrderNs]
  by_cases hthread : a.1 = b.1
  · rw [hthread, append_left_lt_iff, List.cons_lt_cons_iff]
    by_cases hns : a.2 = b.2
    · simp [hns, inOrder_self]
    · rw [inOrder_iff hns [']'] [']']]
      simp [inOrder_self, iff_comm]
  · rw [inOrder_iff hthread (',' :: ((Json.quotedText a.2).toList ++ [']'])) (',' :: ((Json.quotedText b.2).toList ++ [']']))]
    simp [hthread, iff_comm]

theorem inOrderNs_self (ns : Namespace) : InOrderNs ns ns := ⟨inOrder_self ns.1, fun _ => inOrder_self ns.2⟩

/-! ## Keys of more than one column -/

section
variable {α β γ : Type} [LinearOrder α] [LinearOrder β] [LinearOrder γ]

theorem lex_head {a a' : α} (h : a ≠ a') (b b' : β) : toLex (a, b) < toLex (a', b') ↔ a < a' := by
  simp [Prod.Lex.toLex_lt_toLex, h]

theorem lex_tail (a : α) (b b' : β) : toLex (a, b) < toLex (a, b') ↔ b < b' := by
  simp [Prod.Lex.toLex_lt_toLex]

theorem lex_columns {a a' : α} {b b' : β} (h : (a, b) ≠ (a', b')) (c c' : γ) :
    toLex (a, toLex (b, c)) < toLex (a', toLex (b', c')) ↔ toLex (a, b) < toLex (a', b') := by
  by_cases ha : a = a'
  · subst ha
    have hb : b ≠ b' := fun he => h (congrArg _ he)
    rw [lex_tail, lex_tail, lex_head hb]
  · rw [lex_head ha, lex_head ha]

end

/-! ## The fingerprints -/

theorem CheckpointHead.toJson_injective : Function.Injective CheckpointHead.toJson := by
  intro a b h
  cases a
  cases b
  simp only [CheckpointHead.toJson, Json.obj_cons, Json.field.injEq, Json.str.injEq, Json.int.injEq, Int.natCast_inj, true_and, and_true] at h
  simp [h]

theorem WriteHead.toJson_injective : Function.Injective WriteHead.toJson := by
  intro a b h
  cases a
  cases b
  simp only [WriteHead.toJson, Json.obj_cons, Json.field.injEq, Json.str.injEq, Json.int.injEq, Int.natCast_inj, true_and, and_true] at h
  simp [h]

variable {writeHeads writeHeads' : List WriteHead} {heads heads' : List CheckpointHead}

theorem fingerprintState_inj {H : Hashing} (hH : Function.Injective H.sha256) :
    fingerprintState H heads writeHeads = fingerprintState H heads' writeHeads' ↔ heads = heads' ∧ writeHeads = writeHeads' := by
  rw [fingerprintState, fingerprintState, hH.eq_iff]
  simp only [Json.obj_cons, Json.field.injEq, true_and, and_true, Json.arr_inj, CheckpointHead.toJson_injective.list_map.eq_iff,
    WriteHead.toJson_injective.list_map.eq_iff]

/-- The heads of an anchor, one for a namespace, and one for the writes of a checkpoint. -/
structure Keyed (a : Anchor) : Prop where
  heads : (a.checkpointHeads.map CheckpointHead.ns).Nodup
  writeHeads : (a.writeHeads.map WriteHead.of).Nodup

variable {a : Anchor}

theorem exported_iff (h : Keyed a) : exportHeads a = sortedHeads a.checkpointHeads ↔
    ∀ x ∈ a.checkpointHeads, ∀ y ∈ a.checkpointHeads, InOrderNs x.ns y.ns := by
  have hns : ∀ x ∈ a.checkpointHeads, ∀ y ∈ a.checkpointHeads, x.ns = y.ns → x = y :=
    fun x hx y hy he => List.inj_on_of_nodup_map h.heads hx hy he
  refine (sortOn_eq_iff (fun x hx y hy he => hns x hx y hy (encodeCheckpointScope_injective he)) fun x hx y hy he => ?_).trans ?_
  · exact hns x hx y hy (toLex.injective he)
  · refine forall₂_congr fun x hx => forall₂_congr fun y hy => ?_
    exact scope_lt_iff_inOrder x.ns y.ns

theorem exportedWrites_iff (h : Keyed a) : exportWriteHeads a = sortedWriteHeads a.writeHeads ↔
    ∀ x ∈ a.writeHeads, ∀ y ∈ a.writeHeads, InOrderNs x.ns y.ns := by
  have hof : ∀ x ∈ a.writeHeads, ∀ y ∈ a.writeHeads, x.ns = y.ns → x.checkpointId = y.checkpointId → x = y := by
    intro x hx y hy he hid
    obtain ⟨hthread, hcheckpoint⟩ := Prod.mk.inj he
    exact List.inj_on_of_nodup_map h.writeHeads hx hy (Prod.ext hthread (Prod.ext hcheckpoint hid))
  refine (sortOn_eq_iff (fun x hx y hy he => ?_) fun x hx y hy he => ?_).trans ?_
  · obtain ⟨hscope, hid⟩ := Prod.mk.inj (toLex.injective he)
    exact hof x hx y hy (encodeCheckpointScope_injective hscope) hid
  · obtain ⟨hthread, hrest⟩ := Prod.mk.inj (toLex.injective he)
    obtain ⟨hcheckpoint, hid⟩ := Prod.mk.inj (toLex.injective hrest)
    exact hof x hx y hy (Prod.ext hthread hcheckpoint) hid
  · refine forall₂_congr fun x hx => forall₂_congr fun y hy => ?_
    by_cases hns : x.ns = y.ns
    · rw [hns]
      refine iff_of_true ?_ (inOrderNs_self _)
      obtain ⟨hthread, hcheckpoint⟩ := Prod.mk.inj hns
      rw [hthread, hcheckpoint, lex_tail, lex_tail, lex_tail]
    · have hscope : encodeCheckpointScope x.ns ≠ encodeCheckpointScope y.ns := fun he => hns (encodeCheckpointScope_injective he)
      rw [lex_head hscope, lex_columns hns]
      exact scope_lt_iff_inOrder x.ns y.ns

theorem fingerprints_eq_iff {H : Hashing} (hH : Function.Injective H.sha256) (h : Keyed a) :
    anchorFingerprint H a = fingerprintState H (sortedHeads a.checkpointHeads) (sortedWriteHeads a.writeHeads) ↔ Aligned a := by
  rw [anchorFingerprint, fingerprintState_inj hH, exported_iff h, exportedWrites_iff h]
  exact ⟨fun h => ⟨h.1, h.2⟩, fun h => ⟨h.heads, h.writeHeads⟩⟩

/-! ## Completed operations -/

theorem keyed_perm {a b : Anchor} (hheads : a.checkpointHeads.Perm b.checkpointHeads) (hwrites : a.writeHeads.Perm b.writeHeads) (h : Keyed a) :
    Keyed b :=
  ⟨(hheads.map _).nodup_iff.mp h.heads, (hwrites.map _).nodup_iff.mp h.writeHeads⟩

theorem sortedHeads_perm {xs ys : List CheckpointHead} (h : xs.Perm ys) (hn : (xs.map CheckpointHead.ns).Nodup) : sortedHeads xs = sortedHeads ys :=
  sortOn_perm h fun _ hx _ hy he => List.inj_on_of_nodup_map hn hx hy (toLex.injective he)

theorem sortedWriteHeads_perm {xs ys : List WriteHead} (h : xs.Perm ys) (hn : (xs.map WriteHead.of).Nodup) :
    sortedWriteHeads xs = sortedWriteHeads ys := by
  refine sortOn_perm h fun x hx y hy he => List.inj_on_of_nodup_map hn hx hy ?_
  obtain ⟨hthread, hrest⟩ := Prod.mk.inj (toLex.injective he)
  exact Prod.ext hthread (toLex.injective hrest)

theorem writeAnchorSnapshot_ok (h : writeAnchorSnapshot heads writeHeads = .ok a) : Keyed a ∧ a = ⟨heads, writeHeads⟩ := by
  simp only [writeAnchorSnapshot, ok_seq] at h
  obtain ⟨hheads, hwrites, he⟩ := h
  obtain rfl := Except.ok.inj he
  have hasked := (@scan_keys_ok _ _ _ _ _ _ CheckpointHead.ns (fun h => ¬ h.generation < 1) _ fun seen x => by
    rw [raiseIf_ok, not_or]).mp hheads
  have hasked' := (@scan_keys_ok _ _ _ _ _ _ WriteHead.of (fun _ => True) _ fun seen x => by
    rw [raiseIf_ok, true_and]).mp hwrites
  exact ⟨⟨hasked.2, hasked'.2⟩, rfl⟩

theorem replaceState_ok (h : replaceState heads writeHeads = .ok a) : Keyed a ∧ a = ⟨heads, writeHeads⟩ := by
  simp only [replaceState, ok_seq] at h
  obtain ⟨hheads, hwrites, he⟩ := h
  obtain rfl := Except.ok.inj he
  have hasked := (@scan_keys_ok _ _ _ _ _ _ CheckpointHead.ns (fun h => ¬ h.generation < 1) _ fun seen x => by
    rw [ok_seq, raiseIf_ok, raiseIf_ok]).mp hheads
  have hasked' := (@scan_keys_ok _ _ _ _ _ _ WriteHead.of (fun _ => True) _ fun seen x => by
    rw [raiseIf_ok, true_and]).mp hwrites
  exact ⟨⟨hasked.2, hasked'.2⟩, rfl⟩

/-- A snapshot that was written has the rows and the heads there were, these under their keys. -/
theorem snapshotPair_ok {s : Store} {written : PairSnapshot} (h : snapshotPair s = .ok written) :
    Keyed s.anchor ∧ written.db = s.db ∧ readAnchorSnapshot written.anchor = (sortedHeads s.anchor.checkpointHeads, sortedWriteHeads s.anchor.writeHeads) := by
  rw [snapshotPair, ok_bind] at h
  obtain ⟨a, ha, he⟩ := h
  obtain rfl := Except.ok.inj he
  obtain ⟨hkeyed, rfl⟩ := writeAnchorSnapshot_ok ha
  have hheads : (exportHeads s.anchor).Perm s.anchor.checkpointHeads := perm_sortOn _ _
  have hwrites : (exportWriteHeads s.anchor).Perm s.anchor.writeHeads := perm_sortOn _ _
  refine ⟨keyed_perm hheads hwrites hkeyed, rfl, ?_⟩
  simp only [readAnchorSnapshot, sortedHeads_perm hheads hkeyed.heads, sortedWriteHeads_perm hwrites hkeyed.writeHeads]

/-- What was restored has the rows and the heads of the backup, these under their keys. -/
theorem restorePair_ok {s : Store} {backup : PairSnapshot} (h : restorePair backup = .ok s) : Keyed s.anchor ∧ s.db = backup.db ∧
    s.anchor = ⟨sortedHeads backup.anchor.checkpointHeads, sortedWriteHeads backup.anchor.writeHeads⟩ := by
  simp only [restorePair, ok_bind] at h
  obtain ⟨-, -, -, -, a, ha, he⟩ := h
  obtain rfl := Except.ok.inj he
  obtain ⟨hkeyed, rfl⟩ := replaceState_ok ha
  exact ⟨hkeyed, rfl, rfl⟩

theorem aligned_perm {a b : Anchor} (hheads : a.checkpointHeads.Perm b.checkpointHeads) (hwrites : a.writeHeads.Perm b.writeHeads) :
    Aligned a ↔ Aligned b := by
  constructor
  · intro h
    exact ⟨fun x hx y hy => h.heads x (hheads.mem_iff.mpr hx) y (hheads.mem_iff.mpr hy),
      fun x hx y hy => h.writeHeads x (hwrites.mem_iff.mpr hx) y (hwrites.mem_iff.mpr hy)⟩
  · intro h
    exact ⟨fun x hx y hy => h.heads x (hheads.mem_iff.mp hx) y (hheads.mem_iff.mp hy),
      fun x hx y hy => h.writeHeads x (hwrites.mem_iff.mp hx) y (hwrites.mem_iff.mp hy)⟩

/-- A snapshot that was written is proven, and a restore that was installed, if and only if the scopes of every
two heads compare as their columns. -/
theorem commit_proven_iff (H : Hashing) (hH : Function.Injective H.sha256) :
    (∀ s written, snapshotPair s = .ok written →
      (anchorFingerprint H s.anchor = anchorSnapshotFingerprint H written.anchor ↔ Aligned s.anchor) ∧
      (snapshotCommitProven H (preObservation H s none) written = true ↔ Aligned s.anchor)) ∧
    (∀ s s' backup, restorePair backup = .ok s' →
      (anchorFingerprint H s'.anchor = anchorSnapshotFingerprint H backup.anchor ↔ Aligned backup.anchor) ∧
      (restoreCommitProven H (preObservation H s (some backup)) s' = true ↔ Aligned backup.anchor)) := by
  constructor
  · intro s written hwritten
    obtain ⟨hkeyed, hdb, hread⟩ := snapshotPair_ok hwritten
    have hsame : anchorFingerprint H s.anchor = anchorSnapshotFingerprint H written.anchor ↔ Aligned s.anchor := by
      rw [anchorSnapshotFingerprint, hread]
      exact fingerprints_eq_iff hH hkeyed
    refine ⟨hsame, ?_⟩
    rw [← hsame]
    simp [snapshotCommitProven, preObservation, hdb, eq_comm]
  · intro s s' backup hrestored
    obtain ⟨hkeyed, hdb, hanchor⟩ := restorePair_ok hrestored
    have hheads : s'.anchor.checkpointHeads.Perm backup.anchor.checkpointHeads := hanchor ▸ perm_sortOn _ _
    have hwrites : s'.anchor.writeHeads.Perm backup.anchor.writeHeads := hanchor ▸ perm_sortOn _ _
    have hsame : anchorFingerprint H s'.anchor = anchorSnapshotFingerprint H backup.anchor ↔ Aligned backup.anchor := by
      rw [← aligned_perm hheads hwrites, ← fingerprints_eq_iff hH hkeyed, sortedHeads_perm hheads hkeyed.heads,
        sortedWriteHeads_perm hwrites hkeyed.writeHeads]
      rfl
    refine ⟨hsame, ?_⟩
    rw [← hsame]
    simp [restoreCommitProven, preObservation, hdb]

/-- Ids without a character below the quotation mark, and without a backslash, are always in order. -/
theorem aligned_of_plain
    (hheads : ∀ h ∈ a.checkpointHeads, h.threadId.toList.all plain = true ∧ h.checkpointNs.toList.all plain = true)
    (hwrites : ∀ h ∈ a.writeHeads, h.threadId.toList.all plain = true ∧ h.checkpointNs.toList.all plain = true) : Aligned a := by
  constructor
  · intro x hx y hy
    exact ⟨inOrder_of_plain (hheads x hx).1 (hheads y hy).1, fun _ => inOrder_of_plain (hheads x hx).2 (hheads y hy).2⟩
  · intro x hx y hy
    exact ⟨inOrder_of_plain (hwrites x hx).1 (hwrites y hy).1, fun _ => inOrder_of_plain (hwrites x hx).2 (hwrites y hy).2⟩

namespace Sample

/-- Two threads, the id of the second of which is that of the first with a space and more. -/
def spaced : Store := ⟨⟨[], []⟩, ⟨[⟨"a", "", 1, "one", "d"⟩, ⟨"a b", "", 1, "one", "d"⟩], []⟩⟩

def plainIds : Store := ⟨⟨[], []⟩, ⟨[⟨"b", "", 1, "one", "d"⟩, ⟨"a", "", 1, "one", "d"⟩], []⟩⟩

/-- The snapshot of the two threads is written, and not proven; nor is the restore of it. -/
theorem unproven : ∃ written restored, snapshotPair spaced = .ok written ∧ restorePair written = .ok restored ∧
    snapshotCommitProven Hashing.unary (preObservation Hashing.unary spaced none) written = false ∧
    restoreCommitProven Hashing.unary (preObservation Hashing.unary spaced (some written)) restored = false := by
  have hordered : sortedHeads spaced.anchor.checkpointHeads = spaced.anchor.checkpointHeads := by decide +kernel
  have hexported : exportHeads spaced.anchor = spaced.anchor.checkpointHeads.reverse := by decide +kernel
  have hne : spaced.anchor.checkpointHeads.reverse ≠ spaced.anchor.checkpointHeads := by decide +kernel
  have hread : sortedHeads spaced.anchor.checkpointHeads.reverse = spaced.anchor.checkpointHeads := by decide +kernel
  have hdiffer : ∀ writeHeads, fingerprintState Hashing.unary spaced.anchor.checkpointHeads.reverse writeHeads ≠
      fingerprintState Hashing.unary spaced.anchor.checkpointHeads writeHeads :=
    fun _ he => hne ((fingerprintState_inj Hashing.unary_injective).mp he).1
  have hlive : anchorFingerprint Hashing.unary spaced.anchor = fingerprintState Hashing.unary spaced.anchor.checkpointHeads.reverse [] := by
    rw [anchorFingerprint, hexported]
    rfl
  have hsnapshot : anchorSnapshotFingerprint Hashing.unary ⟨spaced.anchor.checkpointHeads.reverse, []⟩ =
      fingerprintState Hashing.unary spaced.anchor.checkpointHeads [] := by
    rw [anchorSnapshotFingerprint, readAnchorSnapshot, hread]
    rfl
  refine ⟨⟨⟨[], []⟩, ⟨spaced.anchor.checkpointHeads.reverse, []⟩⟩, spaced, by decide +kernel, by decide +kernel, ?_, ?_⟩
  · rw [snapshotCommitProven, preObservation, hsnapshot, hlive, Bool.and_eq_false_iff]
    exact .inr (decide_eq_false (hdiffer []).symm)
  · rw [restoreCommitProven, preObservation, Option.map_some, Option.map_some, hsnapshot, hlive, Bool.and_eq_false_iff]
    exact .inr (decide_eq_false fun he => hdiffer [] (Option.some.inj he))

theorem proven_plain : ∃ written, snapshotPair plainIds = .ok written ∧
    snapshotCommitProven Hashing.unary (preObservation Hashing.unary plainIds none) written = true := by
  obtain ⟨written, hwritten⟩ := ok_of_isSome (show (snapshotPair plainIds).toOption.isSome = true by decide +kernel)
  have hplain : plainIds.anchor.checkpointHeads.all (fun h => h.threadId.toList.all plain && h.checkpointNs.toList.all plain) = true := by
    decide +kernel
  refine ⟨written, hwritten, (((commit_proven_iff Hashing.unary Hashing.unary_injective).1 plainIds written hwritten).2).mpr ?_⟩
  refine aligned_of_plain (fun h hh => ?_) fun h hh => ?_
  · exact (Bool.and_eq_true _ _).mp (List.all_eq_true.mp hplain h hh)
  · cases hh

end Sample

end Aegis.Checkpoints
