/-
  Aegis.Checkpoints.LaunderedWrites — what `put_writes` makes of pending writes that do not verify.

  The aggregate in the anchor is computed anew from whatever rows the database has, so nothing is
  left of the one that did not fit.
  - `verifyWriteSet_putWrites`: after `put_writes` the writes verify exactly when every row has its
    own digest.
  - `mem_rows_putWrites`: the rows are the new ones and the old ones that were not replaced.
  - `stays_tampered_iff`: writes that do not verify still do not after `put_writes`, if and only if
    one of the rows that stay has a digest that is not its own.
  - `Sample.forgotten`: a row that was removed is forgotten.
-/

import Aegis.Checkpoints.Durability

namespace Aegis.Checkpoints

open Data Data.Checks

section
variable {δ : Type} {rt : Runtime δ} {saver : Saver} {s : Store} {checkpoint : String × String × String}

/-- The pending writes of a checkpoint verify. -/
def WritesVerify (rt : Runtime δ) (s : Store) (checkpoint : String × String × String) : Prop :=
  verifyWriteSet rt s.anchor checkpoint (writeRows s.db checkpoint) = .ok ()

/-- A row has the digest that is its own. -/
def Authentic (rt : Runtime δ) (r : WriteRow) : Prop := verifyWriteRow rt r = .ok ()

instance decidableAuthentic (r : WriteRow) : Decidable (Authentic rt r) := inferInstanceAs (Decidable (_ = _))

variable {r : WriteRow} {rows : List WriteRow} {writes : List Write} {taskId : String}

theorem mem_writeRows {db : Database} : r ∈ writeRows db checkpoint ↔ r ∈ db.writes ∧ r.of = checkpoint := by
  rw [writeRows, mem_sortOn, List.mem_filter, decide_eq_true_iff]

theorem candidate_authentic (taskId : String) (w : Write) (idx : Nat) : Authentic rt (candidate rt saver checkpoint taskId w idx) :=
  rejectUnequal_self (rt.hmac_ascii _) _

theorem candidate_of (taskId : String) (w : Write) (idx : Nat) : (candidate rt saver checkpoint taskId w idx).of = checkpoint := rfl

theorem mem_candidates (h : r ∈ candidates rt saver checkpoint taskId writes) : Authentic rt r ∧ r.of = checkpoint := by
  obtain ⟨w, -, rfl⟩ := List.mem_map.mp h
  exact ⟨candidate_authentic taskId w.1 w.2, candidate_of taskId w.1 w.2⟩

/-! ## Rows -/

theorem mem_insertOrIgnore {new r : WriteRow} (h : r ∈ insertOrIgnore rows new) : r ∈ rows ∨ r = new := by
  unfold insertOrIgnore at h
  split at h
  · exact .inl h
  · rcases List.mem_append.mp h with h | h
    · exact .inl h
    · exact .inr (List.mem_singleton.mp h)

theorem subset_insertOrIgnore {new r : WriteRow} (h : r ∈ rows) : r ∈ insertOrIgnore rows new := by
  unfold insertOrIgnore
  split
  · exact h
  · exact List.mem_append_left _ h

theorem mem_insertOrReplace {new r : WriteRow} : r ∈ insertOrReplace rows new ↔ r ∈ rows ∧ r.key ≠ new.key ∨ r = new := by
  rw [insertOrReplace, List.mem_append, List.mem_filter, List.mem_singleton, decide_eq_true_iff]

/-- Rows inserted and none replaced: all rows from before are there. -/
theorem mem_ignoring {rows new : List WriteRow} :
    (r ∈ rows → r ∈ new.foldl insertOrIgnore rows) ∧ (r ∈ new.foldl insertOrIgnore rows → r ∈ rows ∨ r ∈ new) := by
  induction new generalizing rows with
  | nil => exact ⟨fun h => h, fun h => .inl h⟩
  | cons x new ih =>
    rw [List.foldl_cons]
    refine ⟨fun h => ih.1 (subset_insertOrIgnore h), fun h => ?_⟩
    rcases ih.2 h with h | h
    · rcases mem_insertOrIgnore h with h | rfl
      · exact .inl h
      · exact .inr List.mem_cons_self
    · exact .inr (List.mem_cons_of_mem _ h)

/-- Rows inserted in place of those with their keys: the others from before are there. -/
theorem mem_replacing {rows new : List WriteRow} :
    (r ∈ rows → r.key ∉ new.map WriteRow.key → r ∈ new.foldl insertOrReplace rows) ∧
      (r ∈ new.foldl insertOrReplace rows → r ∈ rows ∧ r.key ∉ new.map WriteRow.key ∨ r ∈ new) := by
  induction new generalizing rows with
  | nil => exact ⟨fun h _ => h, fun h => .inl ⟨h, List.not_mem_nil⟩⟩
  | cons x new ih =>
    rw [List.foldl_cons, List.map_cons]
    constructor
    · intro h hkey
      rw [List.mem_cons, not_or] at hkey
      exact ih.1 (mem_insertOrReplace.mpr (.inl ⟨h, hkey.1⟩)) hkey.2
    · intro h
      rcases ih.2 h with ⟨h, hkey⟩ | h
      · rcases mem_insertOrReplace.mp h with ⟨h, hne⟩ | rfl
        · exact .inl ⟨h, List.not_mem_cons_of_ne_of_not_mem hne hkey⟩
        · exact .inr List.mem_cons_self
      · exact .inr (List.mem_cons_of_mem _ h)

/-- A row that `put_writes` leaves where it is. -/
def Stays (rt : Runtime δ) (saver : Saver) (checkpoint : String × String × String) (taskId : String) (writes : List Write) (r : WriteRow) : Prop :=
  replaces rt writes = true → r.key ∉ (candidates rt saver checkpoint taskId writes).map WriteRow.key

theorem mem_rows_putWrites : (r ∈ writeRows s.db checkpoint → Stays rt saver checkpoint taskId writes r →
      r ∈ writeRows (putWrites rt saver s checkpoint taskId writes).db checkpoint) ∧
    (r ∈ writeRows (putWrites rt saver s checkpoint taskId writes).db checkpoint →
      r ∈ writeRows s.db checkpoint ∧ Stays rt saver checkpoint taskId writes r ∨ r ∈ candidates rt saver checkpoint taskId writes) := by
  simp only [mem_writeRows, putWrites]
  cases hr : replaces rt writes with
  | true =>
    simp only [if_true, Stays, hr, true_imp_iff]
    refine ⟨fun h hstays => ⟨mem_replacing.1 h.1 hstays, h.2⟩, fun h => ?_⟩
    rcases mem_replacing.2 h.1 with hold | hnew
    · exact .inl ⟨⟨hold.1, h.2⟩, hold.2⟩
    · exact .inr hnew
  | false =>
    simp only [Bool.false_eq_true, if_false, Stays, hr, false_imp_iff, and_true, forall_const]
    refine ⟨fun h => ⟨mem_ignoring.1 h.1, h.2⟩, fun h => ?_⟩
    rcases mem_ignoring.2 h.1 with hold | hnew
    · exact .inl ⟨hold, h.2⟩
    · exact .inr hnew

/-! ## Verification after `put_writes` -/

theorem verifyWriteSet_putWrites (taskId : String) (writes : List Write) : WritesVerify rt (putWrites rt saver s checkpoint taskId writes) checkpoint ↔
    ∀ r ∈ writeRows (putWrites rt saver s checkpoint taskId writes).db checkpoint, Authentic rt r := by
  have hhead : (putWrites rt saver s checkpoint taskId writes).anchor.currentWriteHead checkpoint =
      some ⟨checkpoint.1, checkpoint.2.1, checkpoint.2.2, (writeRows (putWrites rt saver s checkpoint taskId writes).db checkpoint).length,
        writeAggregate rt (writeRows (putWrites rt saver s checkpoint taskId writes).db checkpoint)⟩ :=
    Anchor.currentWriteHead_setWriteHead s.anchor _
  unfold WritesVerify verifyWriteSet
  rw [ok_seq, forEach_ok, hhead]
  dsimp only
  rw [ok_seq, raiseIf_ok]
  refine ⟨fun h => h.1, fun h => ⟨h, not_not_intro rfl, rejectUnequal_self (rt.hmac_ascii _) _⟩⟩

/-- Writes that do not verify still do not after `put_writes`, if and only if they did verify or a row that
stays has a digest that is not its own. -/
theorem stays_tampered_iff (rt : Runtime δ) (saver : Saver) (s : Store) (checkpoint : String × String × String) (taskId : String)
    (writes : List Write) :
    (¬ WritesVerify rt s checkpoint → ¬ WritesVerify rt (putWrites rt saver s checkpoint taskId writes) checkpoint) ↔
      WritesVerify rt s checkpoint ∨ ∃ r ∈ writeRows s.db checkpoint, ¬ Authentic rt r ∧ Stays rt saver checkpoint taskId writes r := by
  rw [verifyWriteSet_putWrites]
  constructor
  · intro h
    by_cases hbefore : WritesVerify rt s checkpoint
    · exact .inl hbefore
    · obtain ⟨r, hr, hforged⟩ : ∃ r ∈ writeRows (putWrites rt saver s checkpoint taskId writes).db checkpoint, ¬ Authentic rt r := by
        by_contra hnone
        refine h hbefore fun r hr => ?_
        by_contra hforged
        exact hnone ⟨r, hr, hforged⟩
      rcases mem_rows_putWrites.2 hr with ⟨hold, hstays⟩ | hnew
      · exact .inr ⟨r, hold, hforged, hstays⟩
      · exact absurd (mem_candidates hnew).1 hforged
  · rintro (hbefore | ⟨r, hr, hforged, hstays⟩) hnot h
    · exact hnot hbefore
    · exact hforged (h r (mem_rows_putWrites.1 hr hstays))

end

namespace Sample

def checkpoint : String × String × String := ("thread", "", "one")

/-- A store in which one write is anchored. -/
def anchored : Store := putWrites runtime .durable ⟨⟨[], []⟩, ⟨[], []⟩⟩ checkpoint "task" [⟨"messages", "msgpack", [1], 0⟩]

/-- The row is deleted, and the writes do not verify until the next `put_writes`; then they do without it. -/
theorem forgotten : WritesVerify runtime anchored checkpoint ∧ ¬ WritesVerify runtime { anchored with db := ⟨[], []⟩ } checkpoint ∧
    WritesVerify runtime (putWrites runtime .durable { anchored with db := ⟨[], []⟩ } checkpoint "other" [⟨"messages", "msgpack", [2], 0⟩]) checkpoint ∧
    (writeRows (putWrites runtime .durable { anchored with db := ⟨[], []⟩ } checkpoint "other" [⟨"messages", "msgpack", [2], 0⟩]).db checkpoint).map
      (·.value) = [[2]] := by
  unfold WritesVerify
  decide +kernel

end Sample

end Aegis.Checkpoints
