/-
  Aegis.Checkpoints.InterruptedPut — a `put` that stops between its two commits, and its repetition.

  The row that is left behind is the row of the same call, so the repeated `put` takes it for an
  idempotent replay and leaves the anchor as it is; and it has the next generation of its namespace.
  - `put_of_crashed`: the repeated `put` returns and changes nothing.
  - `put_blocked`: no other checkpoint can be put into the namespace.
  - `currentHead_put`: a `put` that was not interrupted moves the head to the new checkpoint.
  - `never_retryable`: so a `put` that stopped there is never completed by its repetition, for each
    of the three savers.
  - `Sample.lost`: the repeated `put` of a first checkpoint returns, and nothing is read back.
-/

import Aegis.Checkpoints.Durability

namespace Aegis.Checkpoints

open Data Data.Checks

section
variable {δ : Type} {rt : Runtime δ} {saver : Saver} {s s' : Store} {r next : PutRequest} {nonce : Nat} {row : CheckpointRow}
  {db : Database}

/-- What is left of a `put` that stops after the commit of the checkpoint database. -/
def crashed (rt : Runtime δ) (saver : Saver) (s : Store) (r : PutRequest) (nonce : Nat) : Option Store :=
  match putDatabase rt saver s r nonce with
  | .ok (.inserted db _ _) => some { s with db := db }
  | _ => none

/-- A `put` that stopped there is completed by its repetition: when that returns, the state is the one the
`put` would have come to, and new checkpoints go into the namespace as they would have. -/
def Retryable (rt : Runtime δ) (saver : Saver) (s : Store) (r : PutRequest) (nonce : Nat) : Prop :=
  ∀ s' nonce', crashed rt saver s r nonce = some s' → (put rt saver s' r nonce').2 = .ok () →
    (put rt saver s' r nonce').1 = (put rt saver s r nonce).1 ∧
    getTuple rt saver (put rt saver s' r nonce').1 r.ns none = getTuple rt saver (put rt saver s r nonce).1 r.ns none ∧
    ∀ next nonce'', next.ns = r.ns → admits rt saver next = .ok () → checkpointRow (put rt saver s r nonce).1.db next.key = none →
      (put rt saver (put rt saver s' r nonce').1 next nonce'').2 = .ok ()

/-! ## The first transaction -/

theorem insertCheckpoint_ok {db' : Database} : insertCheckpoint db row = .ok db' ↔
    (row.key ∉ db.checkpoints.map CheckpointRow.key ∧ row.place ∉ db.checkpoints.map CheckpointRow.place) ∧
      db' = { db with checkpoints := db.checkpoints ++ [row] } := by
  rw [insertCheckpoint, ok_seq, raiseIf_ok, not_or]
  exact and_congr_right fun _ => ⟨fun h => (Except.ok.inj h).symm, fun h => h ▸ rfl⟩

/-- What a `put` has done when its first transaction is over. -/
structure Inserted (rt : Runtime δ) (saver : Saver) (s : Store) (r : PutRequest) (nonce : Nat) (db : Database) (row : CheckpointRow) : Prop where
  admitted : admits rt saver r = .ok ()
  made : row = newRow rt saver (s.anchor.currentHead r.ns) r nonce
  fresh : row.key ∉ s.db.checkpoints.map CheckpointRow.key
  grown : db = { s.db with checkpoints := s.db.checkpoints ++ [row] }

theorem inserted_of_putDatabase {head : Option CheckpointHead}
    (h : putDatabase rt saver s r nonce = .ok (.inserted db head row)) : Inserted rt saver s r nonce db row ∧ head = s.anchor.currentHead r.ns := by
  rw [putDatabase, ok_seq] at h
  obtain ⟨hadmitted, h⟩ := h
  cases hrow : checkpointRow s.db r.key with
  | some existing =>
    rw [hrow] at h
    simp only [ok_bind] at h
    obtain ⟨-, -, -, -, -, -, he⟩ := h
    cases he
  | none =>
    rw [hrow] at h
    simp only [ok_bind, insertCheckpoint_ok] at h
    obtain ⟨db', ⟨hfresh, rfl⟩, he⟩ := h
    obtain ⟨rfl, rfl, rfl⟩ := PutProgress.inserted.inj (Except.ok.inj he)
    exact ⟨⟨hadmitted, rfl, hfresh.1, rfl⟩, rfl⟩

theorem newRow_verifies (head : Option CheckpointHead) : verifyCheckpointRow rt (newRow rt saver head r nonce) = .ok () :=
  rejectUnequal_self (rt.hmac_ascii _) _

/-- The row of a call is recognized by the same call. -/
theorem sameCall_newRow (head : Option CheckpointHead) : sameCall saver (newRow rt saver head r nonce) r = .ok true := by
  have hopened : saver.opened r.type (saver.dumps r.type r.plain nonce) = .ok r.plain := Saver.opened_dumps saver _ _ _
  simp only [sameCall, newRow, if_true, hopened, bind, Except.bind, pure, Except.pure]
  simp

theorem crashed_eq (h : crashed rt saver s r nonce = some s') :
    ∃ row, Inserted rt saver s r nonce s'.db row ∧ s'.anchor = s.anchor ∧
      putDatabase rt saver s r nonce = .ok (.inserted s'.db (s.anchor.currentHead r.ns) row) := by
  unfold crashed at h
  split at h
  · rename_i db head row hdb
    obtain ⟨hinserted, rfl⟩ := inserted_of_putDatabase hdb
    obtain rfl := Option.some.inj h
    exact ⟨row, hinserted, rfl, hdb⟩
  · cases h

/-! ## The repetition -/

theorem checkpointRow_crashed (h : Inserted rt saver s r nonce db row) : checkpointRow db r.key = some row := by
  have hkey : row.key = r.key := by
    rw [h.made]
    rfl
  rw [h.grown, checkpointRow, ← hkey]
  exact Table.lookup_append_new (Table.lookup_eq_none.mpr h.fresh)

/-- The repeated `put` finds its own row: it returns, and nothing changes. -/
theorem put_of_crashed (h : crashed rt saver s r nonce = some s') (nonce' : Nat) : put rt saver s' r nonce' = (s', .ok ()) := by
  obtain ⟨row, hinserted, -, -⟩ := crashed_eq h
  have hreplayed : putDatabase rt saver s' r nonce' = .ok .replayed := by
    have hrow := checkpointRow_crashed hinserted
    rw [putDatabase, hinserted.admitted, hrow, hinserted.made]
    simp only [bind, Except.bind, newRow_verifies, sameCall_newRow]
    rfl
  unfold put
  rw [hreplayed]

/-- The row that is left has the next generation of the namespace, so that no other checkpoint gets it. -/
theorem put_blocked (h : crashed rt saver s r nonce = some s') (hns : next.ns = r.ns)
    (hadmitted : admits rt saver next = .ok ()) (hnew : checkpointRow s'.db next.key = none) (nonce' : Nat) :
    (put rt saver s' next nonce').2 = .error .constraint := by
  obtain ⟨row, hinserted, hanchor, -⟩ := crashed_eq h
  have hplace : (newRow rt saver (s'.anchor.currentHead next.ns) next nonce').place = row.place := by
    rw [hinserted.made, hanchor, hns]
    obtain ⟨hthread, hcheckpoint⟩ := Prod.mk.inj hns
    simp only [CheckpointRow.place, newRow, hthread, hcheckpoint]
  have hin : row ∈ s'.db.checkpoints := by
    rw [hinserted.grown]
    exact List.mem_append_right _ List.mem_cons_self
  have htaken : insertCheckpoint s'.db (newRow rt saver (s'.anchor.currentHead next.ns) next nonce') = .error .constraint := by
    rw [insertCheckpoint, raiseIf, if_pos (.inr (hplace ▸ List.mem_map_of_mem hin))]
    rfl
  have hraised : putDatabase rt saver s' next nonce' = .error .constraint := by
    rw [putDatabase, hadmitted, hnew]
    simp only [bind, Except.bind, htaken]
  unfold put
  rw [hraised]

/-! ## Without interruption -/

theorem putAnchor_moves : putAnchor saver s.anchor (s.anchor.currentHead r.ns) (newRow rt saver (s.anchor.currentHead r.ns) r nonce) =
    .ok (s.anchor.putHead (newRow rt saver (s.anchor.currentHead r.ns) r nonce).head) := by
  have hns : (newRow rt saver (s.anchor.currentHead r.ns) r nonce).head.ns = r.ns := rfl
  have hcompared : s.anchor.compareAndPut (s.anchor.currentHead r.ns) (newRow rt saver (s.anchor.currentHead r.ns) r nonce).head =
      .ok (s.anchor.putHead (newRow rt saver (s.anchor.currentHead r.ns) r nonce).head) := by
    rw [Anchor.compareAndPut, hns, raiseIf, if_neg (not_not_intro rfl)]
    rfl
  cases saver with
  | durable => exact hcompared
  | confidential cipher => exact hcompared
  | operation cipher =>
    unfold putAnchor Anchor.advance
    rw [hns]
    cases hhead : s.anchor.currentHead r.ns with
    | none => rfl
    | some head =>
      have hgeneration : (newRow rt (.operation cipher) (some head) r nonce).head.generation = head.generation + 1 := rfl
      simp only [hgeneration, Option.map_some, raiseIf]
      rw [if_neg (by omega), if_neg (not_not_intro rfl), if_neg (by omega), if_neg (not_not_intro rfl)]
      rfl

/-- A `put` that is not interrupted moves the head to the new checkpoint. -/
theorem currentHead_put (h : crashed rt saver s r nonce = some s') : (put rt saver s r nonce).2 = .ok () ∧
      (put rt saver s r nonce).1.anchor.currentHead r.ns = some (newRow rt saver (s.anchor.currentHead r.ns) r nonce).head := by
  obtain ⟨row, hinserted, -, hdb⟩ := crashed_eq h
  unfold put
  rw [hdb, hinserted.made]
  dsimp only
  rw [putAnchor_moves]
  exact ⟨rfl, Anchor.currentHead_putHead s.anchor (newRow rt saver (s.anchor.currentHead r.ns) r nonce).head⟩

theorem newRow_head_ne (rt : Runtime δ) (saver : Saver) (head : Option CheckpointHead) (r : PutRequest) (nonce : Nat) :
    head ≠ some (newRow rt saver head r nonce).head := by
  intro he
  cases head with
  | none => cases he
  | some h =>
    have hgeneration : h.generation = h.generation + 1 := congrArg CheckpointHead.generation (Option.some.inj he)
    omega

/-- A `put` that stops between its commits is never completed by its repetition: that returns and leaves the
anchor where it was, and nothing else can be put into the namespace. -/
theorem never_retryable {s' : Store} (h : crashed rt saver s r nonce = some s') :
    (∀ nonce', put rt saver s' r nonce' = (s', .ok ())) ∧ s'.anchor.currentHead r.ns ≠ (put rt saver s r nonce).1.anchor.currentHead r.ns ∧
      (∀ next nonce', next.ns = r.ns → admits rt saver next = .ok () → checkpointRow s'.db next.key = none →
        (put rt saver s' next nonce').2 = .error .constraint) ∧ ¬ Retryable rt saver s r nonce := by
  have hanchor : s'.anchor = s.anchor := by
    obtain ⟨_, _, hanchor, _⟩ := crashed_eq h
    exact hanchor
  have hmoved : s'.anchor.currentHead r.ns ≠ (put rt saver s r nonce).1.anchor.currentHead r.ns := by
    rw [(currentHead_put h).2, hanchor]
    exact newRow_head_ne rt saver _ r nonce
  refine ⟨put_of_crashed h, hmoved, fun next nonce' hns hadmitted hnew => put_blocked h hns hadmitted hnew nonce', fun hretryable => ?_⟩
  have hagain := put_of_crashed h nonce
  have hsame := (hretryable s' nonce h (by rw [hagain])).1
  rw [hagain] at hsame
  exact hmoved (congrArg (fun t : Store => t.anchor.currentHead r.ns) hsame)

end

namespace Sample

def first : PutRequest := ⟨"thread", "", "one", none, "msgpack", [1], .obj [("source", .str "loop")], [2]⟩

def fresh : Store := ⟨⟨[], []⟩, ⟨[], []⟩⟩

/-- What is read without an id, by its id. -/
def latest (s : Store) : Check (Option String) := (getTuple runtime .durable s ("thread", "") none).map fun tuple => tuple.map (·.key.2.2)

/-- The first checkpoint of a thread: it is put again and is not read, where the uninterrupted `put` has it read;
and no other checkpoint of the thread can be put. -/
theorem lost : ∃ s', crashed runtime .durable fresh first 0 = some s' ∧ (put runtime .durable s' first 0).2 = .ok () ∧
    latest (put runtime .durable s' first 0).1 = .ok none ∧ latest (put runtime .durable fresh first 0).1 = .ok (some "one") ∧
    (put runtime .durable (put runtime .durable s' first 0).1 { first with checkpointId := "two", plain := [3] } 0).2 = .error .constraint ∧
    ¬ Retryable runtime .durable fresh first 0 := by
  obtain ⟨s', hs'⟩ := Option.isSome_iff_exists.mp (show (crashed runtime .durable fresh first 0).isSome = true by decide +kernel)
  have hread : (crashed runtime .durable fresh first 0).map (fun s' => ((put runtime .durable s' first 0).2, latest (put runtime .durable s' first 0).1,
      (put runtime .durable (put runtime .durable s' first 0).1 { first with checkpointId := "two", plain := [3] } 0).2)) =
        some (.ok (), .ok none, .error .constraint) := by
    decide +kernel
  rw [hs', Option.map_some, Option.some.injEq, Prod.mk.injEq, Prod.mk.injEq] at hread
  have hwhole : latest (put runtime .durable fresh first 0).1 = .ok (some "one") := by
    decide +kernel
  refine ⟨s', hs', hread.1, hread.2.1, hwhole, hread.2.2, fun hretryable => ?_⟩
  have hsame := (hretryable s' 0 hs' hread.1).1
  have hnone := hread.2.1
  rw [hsame, hwhole] at hnone
  cases hnone

end Sample

open Sample in
theorem never_retryable_first : ¬ Retryable runtime .durable fresh first 0 := by
  obtain ⟨s', hs'⟩ := Option.isSome_iff_exists.mp (show (crashed runtime .durable fresh first 0).isSome = true by decide +kernel)
  exact (never_retryable hs').2.2.2

end Aegis.Checkpoints
