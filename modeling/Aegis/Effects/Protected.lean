/-
  Aegis.Effects.Protected — the protected checkpoint over the local files
  (protected_checkpoint.py): the chained head of the active journal,
  `SyntheticProtectedCheckpointAuthority.advance` and
  `ExternallyCheckpointedControlPlaneCoordinator`.

  All who write the checkpoint hold the lock on the generation store while they do. So what a
  section under that lock reads of the store is read in one step, after its reads of the other
  files; and `advance` answers what it wrote. A checkpoint's own columns and their pydantic
  checks (a digest in lowercase hex) are not modelled.
-/

import Aegis.Data.HashChain
import Aegis.Effects.ControlPlane
import Mathlib.Data.List.Sort

namespace Aegis.Effects

open Data Txn Prog

variable (H : Hashing) (authorityId : String)

/-! ## The head of the active journal -/

def protectedJournalLinkSchema : String := "aegis.protected-control-plane-journal-link.v1"

/-- `"0" * 64`. -/
def zeroDigest : String := "0000000000000000000000000000000000000000000000000000000000000000"

def genesisJournalHead : String :=
  H.sha256 (.obj [("authority_id", .str authorityId), ("change_id", .str "genesis"), ("generation", .int 1),
    ("mutation_sha256", .str zeroDigest), ("previous_head_sha256", .str zeroDigest),
    ("schema_version", .str protectedJournalLinkSchema)])

/-- `_extend_journal_head`. -/
def extendJournalHead (previousHead : String) (fromGeneration targetGeneration : Nat) (changeId mutationSha256 : String) :
    String :=
  H.sha256 (.obj [("authority_id", .str authorityId), ("change_id", .str changeId),
    ("from_generation", .int fromGeneration), ("generation", .int targetGeneration),
    ("mutation_sha256", .str mutationSha256), ("previous_head_sha256", .str previousHead),
    ("schema_version", .str protectedJournalLinkSchema)])

/-- The heads as a chain over the changes; the first link leads from generation 1. -/
def journalChain : HashChain Link String where
  genesis := genesisJournalHead H authorityId
  extend n previousHead link :=
    extendJournalHead H authorityId previousHead (n + 1) (n + 2) link.changeId (link.mutation.sha256 H)

namespace GenerationDb

/-- The active changes up to `current`, in the order of their generations. -/
def activeJournal (g : GenerationDb) (current : Nat) : List ChangeRow :=
  (g.changes.filter fun r => r.status = .active ∧ r.targetGeneration ≤ current).insertionSort fun a b =>
    a.targetGeneration ≤ b.targetGeneration

/-- The loop of `active_journal_heads`: what it checks of each row, and the generation it reaches. -/
def journalLinks (expected : Nat) : List ChangeRow → Except Error (List Link × Nat)
  | [] => .ok ([], expected)
  | row :: rows =>
    if row.fromGeneration ≠ expected ∨ row.targetGeneration ≠ expected + 1 then
      .error (.protectedCheckpoint .journalChainInvalid)
    else
      match ControlPlaneMutation.ofJson? row.mutationJson with
      | none => .error (.protectedCheckpoint .journalChainInvalid)
      | some mutation =>
        if mutation.sha256 H ≠ row.mutationSha256 then .error (.protectedCheckpoint .journalChainInvalid)
        else
          match journalLinks row.targetGeneration rows with
          | .ok (links, reached) => .ok (⟨row.changeId, mutation⟩ :: links, reached)
          | .error e => .error e

/-- `active_journal_heads`, with the changes it chained. -/
def activeJournalHeads (g : GenerationDb) (current : Nat) : Except Error (List Link × List String) :=
  if current < 1 then .error (.protectedCheckpoint .journalChainInvalid)
  else if current = 1 then .ok ([], [genesisJournalHead H authorityId])
  else do
    let (links, reached) ← journalLinks H 1 (g.activeJournal current)
    if reached ≠ current then .error (.protectedCheckpoint .journalChainInvalid)
    else .ok (links, (journalChain H authorityId).heads links)

/-- `_heads`. -/
def localHeads (g : GenerationDb) (state : Option ExecutionState) (localGeneration : Nat) :
    Except Error (List Link × List String) := do
  let heads ← g.activeJournalHeads H authorityId localGeneration
  match state with
  | none => .error (.convergence .executionStateNotInitialized)
  | some state =>
    if state.appliedGeneration ≠ localGeneration then .error (.protectedCheckpoint .journalChainInvalid)
    else if 1 < localGeneration then
      match g.changes.find? fun r => r.status = .active ∧ r.targetGeneration = localGeneration with
      | none => .error (.protectedCheckpoint .journalChainInvalid)
      | some row =>
        if state.lastChangeId ≠ some row.changeId ∨ state.lastMutationSha256 ≠ some row.mutationSha256 then
          .error (.protectedCheckpoint .journalChainInvalid)
        else .ok heads
    else .ok heads

end GenerationDb

/-- `heads[generation]`; `none` is a KeyError. -/
def headAt (heads : List String) (generation : Nat) : Option String :=
  if generation < 1 then none else heads[generation - 1]?

/-! ## The checkpoint -/

/-- `current` and what `locked_current` yields. -/
def currentCheckpoint (checkpoint : Option Checkpoint) : Except Error Checkpoint :=
  match checkpoint with
  | none => .error (.protectedCheckpoint .notInitialized)
  | some checkpoint => .ok checkpoint

/-- The transaction of `advance`. -/
def advanceCheckpoint (checkpoint : Option Checkpoint) (expectedGeneration : Nat) (expectedHead : String)
    (targetGeneration : Nat) (targetHead : String) : Except Error Checkpoint :=
  if targetGeneration ≠ expectedGeneration + 1 then
    .error (.value "protected checkpoint generations advance exactly one step")
  else
    match checkpoint with
    | none => .error (.protectedCheckpoint .notInitialized)
    | some current =>
      if current.generation ≠ expectedGeneration ∨ current.journalHeadSha256 ≠ expectedHead then
        .error (.protectedCheckpoint .checkpointConflict)
      else .ok ⟨targetGeneration, targetHead⟩

namespace Protected

/-- The local journal and its heads, as a call under the lock has them. -/
structure Journal where
  generation : Nat
  links : List Link
  heads : List String

/-- `synchronize_checkpoint` before its loop, for the reads it makes of the other files. -/
def compare (g : GenerationDb) (state : Option ExecutionState) (checkpoint : Option Checkpoint)
    (state' : Option ExecutionState) : Except Error (Journal × Checkpoint) := do
  let localGeneration ← g.lockedActiveGeneration state
  let checkpoint ← currentCheckpoint checkpoint
  if localGeneration < checkpoint.generation then .error (.protectedCheckpoint .localGenerationRollback)
  else do
    let (links, heads) ← g.localHeads H authorityId state' localGeneration
    if headAt heads checkpoint.generation ≠ some checkpoint.journalHeadSha256 then
      .error (.protectedCheckpoint .journalHeadMismatch)
    else .ok (⟨localGeneration, links, heads⟩, checkpoint)

/-- One turn of the loop: `advance` to the next generation. The checkpoint's history takes in the
    change that leads there. -/
def advance (journal : Journal) (checkpoint : Checkpoint) : Prog Label World Error Checkpoint :=
  let target := checkpoint.generation + 1
  match headAt journal.heads target, journal.links[checkpoint.generation - 1]? with
  | some head, some link =>
    atomic (.advance checkpoint.generation) fun w => do
      let next ← advanceCheckpoint w.checkpoint checkpoint.generation checkpoint.journalHeadSha256 target head
      pure (next, { w with
        checkpoint := some next
        history := { w.history with recorded := w.history.recorded ++ [link] } })
  | _, _ => fail (.key (toString target))

/-- `while checkpoint.generation < local_generation`; every turn takes it one generation on, so that
    many turns are enough. -/
def advanceAll (journal : Journal) : Nat → Checkpoint → Prog Label World Error Checkpoint
  | 0, checkpoint => pure checkpoint
  | turns + 1, checkpoint =>
    if checkpoint.generation < journal.generation then do
      let checkpoint ← advance journal checkpoint
      advanceAll journal turns checkpoint
    else pure checkpoint

def synchronizeCheckpoint : Prog Label World Error Checkpoint := do
  let state ← ControlPlane.readState
  let checkpoint ← read .step fun w => w.checkpoint
  let state' ← ControlPlane.readState
  let (journal, checkpoint) ← query .step fun w => compare H authorityId w.generation state checkpoint state'
  advanceAll journal (journal.generation - checkpoint.generation) checkpoint

def commit (changeId : String) (mutation : ControlPlaneMutation) (crashAfterLocalActivation : Bool) :
    Prog Label World Error Change := do
  let change ← ControlPlane.commit H changeId mutation none
  raiseIf (crashAfterLocalActivation = true) .protectedCheckpointCrash
  let _ ← synchronizeCheckpoint H authorityId
  pure change

def recover : Prog Label World Error (Option Change) := do
  let recovered ← ControlPlane.recover
  let _ ← synchronizeCheckpoint H authorityId
  pure recovered

/-- What `locked_active_generation` checks before it yields. -/
def lockedActiveGeneration (g : GenerationDb) (state state' : Option ExecutionState) (checkpoint : Option Checkpoint) :
    Except Error Nat := do
  let localGeneration ← g.lockedActiveGeneration state
  let (_, heads) ← g.localHeads H authorityId state' localGeneration
  let checkpoint ← currentCheckpoint checkpoint
  if localGeneration < checkpoint.generation then .error (.protectedCheckpoint .localGenerationRollback)
  else if checkpoint.generation < localGeneration then .error (.protectedCheckpoint .checkpointBehind)
  else if headAt heads localGeneration ≠ some checkpoint.journalHeadSha256 then
    .error (.protectedCheckpoint .journalHeadMismatch)
  else .ok localGeneration

/-- `current_active_generation`. -/
def currentActiveGeneration : Prog Label World Error Nat := do
  let state ← ControlPlane.readState
  let state' ← ControlPlane.readState
  atomic .step fun w => do
    let g ← lockedActiveGeneration H authorityId w.generation state state' w.checkpoint
    pure (g, { w with history := { w.history with
      protectedYields := w.history.protectedYields ++ [⟨g, w.generation, w.execution.state, w.checkpoint⟩] } })

/-! ## The system, with rollbacks of both local files -/

inductive Call where
  | commit (changeId : String) (mutation : ControlPlaneMutation) (crashAfterLocalActivation : Bool)
  | recover
  | currentActiveGeneration
  /-- Someone keeps a copy of both local files. -/
  | backup
  /-- Both local files are replaced by one of the copies. -/
  | restore (n : Nat)

def backup (w : World) : World :=
  { w with history := { w.history with snapshots := w.history.snapshots ++ [(w.generation, w.execution)] } }

def restore (n : Nat) (w : World) : World :=
  match w.history.snapshots[n]? with
  | some (generation, execution) => { w with generation, execution }
  | none => w

def body : Call → Prog Label World Error Unit
  | .commit changeId mutation crash => do
    let _ ← commit H authorityId changeId mutation crash
    pure ()
  | .recover => do
    let _ ← recover H authorityId
    pure ()
  | .currentActiveGeneration => do
    let _ ← currentActiveGeneration H authorityId
    pure ()
  | .backup => modify .step backup
  | .restore n => modify .step (restore n)

/-- `initialize` at generation 1, with any authorization state. -/
structure Initialized (w : World) : Prop where
  generation : w.generation = ⟨some 1, []⟩
  state : w.execution.state = some ⟨1, none, none⟩
  checkpoint : w.checkpoint = some ⟨1, genesisJournalHead H authorityId⟩
  snapshots : w.history.snapshots = []
  recorded : w.history.recorded = []
  protectedYields : w.history.protectedYields = []

/-- Any number of coordinators at once, and copies put back at any moment. -/
def system : System Call Label World Error Unit where
  init := Initialized H authorityId
  body _ := body H authorityId
  start _ _ := True
  ok _ _ := True

end Protected

end Aegis.Effects
