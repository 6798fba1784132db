/-
  Aegis.Effects.Databases — the databases behind the effect boundary, for one authority:
  the generation store with its journal of changes, the execution database, the protected
  checkpoint with its receipts, the receipt witness and the outbox; and the transactions of
  `CrashSafeControlPlaneCoordinator` on the first two (control_plane_recovery.py).

  Each file commits by itself. `History` is no part of any of them: it notes what the results
  speak of.
-/

import Aegis.Data.Checks
import Aegis.Effects.Mutation
import Mathlib.Data.List.MinMax

namespace Aegis.Effects

open Data

/-! ## Generation store -/

/-- `ControlPlaneChangeStatus`. -/
inductive ChangeStatus where
  | prepared | applied | active
  deriving DecidableEq, Repr

structure ChangeRow where
  changeId : String
  fromGeneration : Nat
  targetGeneration : Nat
  mutationSha256 : String
  mutationJson : Json
  status : ChangeStatus
  deriving DecidableEq, Repr

/-- `ControlPlaneChange`. -/
structure Change where
  changeId : String
  fromGeneration : Nat
  targetGeneration : Nat
  mutationSha256 : String
  mutation : ControlPlaneMutation
  status : ChangeStatus
  deriving DecidableEq

/-- `control_plane_generations` and `control_plane_changes`. -/
structure GenerationDb where
  currentGeneration : Option Nat
  changes : List ChangeRow
  deriving DecidableEq, Repr

/-! ## Execution database -/

/-- `ExecutionControlPlaneState`. -/
structure ExecutionState where
  appliedGeneration : Nat
  lastChangeId : Option String
  lastMutationSha256 : Option String
  deriving DecidableEq, Repr

/-- `ApprovalAction`. -/
inductive Action where
  | requestAccess | requestPasswordReset
  deriving DecidableEq, Repr

def Action.value : Action → String
  | requestAccess => "request_access"
  | requestPasswordReset => "request_password_reset"

/-- `synthetic_effect_ledger`. -/
structure LedgerRow where
  idempotencyKey : String
  approvalId : String
  requesterUserId : String
  tenantId : String
  action : Action
  normalizedArguments : Json
  effectRef : String
  deriving DecidableEq, Repr

/-- A row of a table of durable denials, for the reasons of one service. -/
structure Denial (ρ : Type) where
  approvalId : String
  idempotencyKey : String
  reason : ρ
  deriving DecidableEq, Repr

/-- `authorization_provenance_denials`. -/
abbrev DenialRow := Denial ProvenanceReason

structure ExecutionDb where
  authorization : AuthorizationState
  state : Option ExecutionState
  ledger : List LedgerRow
  denials : List DenialRow
  deriving DecidableEq, Repr

/-! ## Protected checkpoint, receipts and witness -/

/-- `ProtectedControlPlaneCheckpoint`. -/
structure Checkpoint where
  generation : Nat
  journalHeadSha256 : String
  deriving DecidableEq, Repr

/-- `CheckpointReceiptPayload`. -/
structure ReceiptPayload where
  authorityId : String
  audience : String
  keyId : String
  keyEpoch : Nat
  generation : Nat
  journalHeadSha256 : String
  previousReceiptSha256 : String
  deriving DecidableEq, Repr

/-- `AuthenticatedCheckpointReceipt`, and a row of `authenticated_checkpoint_receipts`. -/
structure Receipt where
  payload : ReceiptPayload
  signatureHex : String
  deriving DecidableEq, Repr

/-- `receipt_witness`. -/
structure WitnessRow where
  generation : Nat
  receiptSha256 : String
  deriving DecidableEq, Repr

/-! ## Outbox -/

inductive OutboxStatus where
  | pending | completed | cancelled
  deriving DecidableEq, Repr

/-- `EffectOutboxRecord`, and a row of `effect_outbox`. -/
structure OutboxRecord where
  approvalId : String
  idempotencyKey : String
  requesterUserId : String
  tenantId : String
  action : Action
  normalizedArguments : Json
  status : OutboxStatus
  deliveryAttempts : Nat
  deriving DecidableEq, Repr

/-! ## The whole -/

/-- A moment at which a fence yielded `generation`. -/
structure Yield where
  generation : Nat
  store : GenerationDb
  state : Option ExecutionState
  checkpoint : Option Checkpoint
  deriving DecidableEq

/-- A change as the protected checkpoint took it in: its id and its mutation. -/
structure Link where
  changeId : String
  mutation : ControlPlaneMutation
  deriving DecidableEq

structure History where
  /-- The authorization state at initialization. -/
  origin : AuthorizationState
  /-- The changes whose mutation was applied, each time. -/
  applications : List String
  yields : List Yield
  protectedYields : List Yield
  /-- Earlier states of the two local files. -/
  snapshots : List (GenerationDb × ExecutionDb)
  /-- The changes the protected checkpoint advanced over. -/
  recorded : List Link
  /-- The approvals whose delivery a fence refused. -/
  refusals : List String

structure World where
  generation : GenerationDb
  execution : ExecutionDb
  checkpoint : Option Checkpoint
  receipts : List Receipt
  witness : List WitnessRow
  outbox : List OutboxRecord
  history : History

inductive Label where
  | step
  /-- The protected checkpoint is about to leave this generation. -/
  | advance (generation : Nat)
  /-- A worker is about to cancel a row that a fence refused. -/
  | refuse (approvalId : String)
  /-- A delivery is past its fence and about to record the effect. -/
  | execute (approvalId : String)
  deriving DecidableEq

/-! ## Transactions on the generation store -/

/-- `_row_to_change`. -/
def rowToChange (row : ChangeRow) : Except Error Change :=
  match ControlPlaneMutation.ofJson? row.mutationJson with
  | none => .error .validation
  | some mutation =>
    .ok ⟨row.changeId, row.fromGeneration, row.targetGeneration, row.mutationSha256, mutation, row.status⟩

namespace GenerationDb

def row? (g : GenerationDb) (changeId : String) : Option ChangeRow := Table.lookup ChangeRow.changeId g.changes changeId

/-- `get_change`. -/
def getChange (g : GenerationDb) (changeId : String) : Except Error Change :=
  match g.row? changeId with
  | none => .error (.key "control-plane change not found")
  | some row => rowToChange row

def pendingRows (g : GenerationDb) : List ChangeRow := g.changes.filter (·.status ≠ .active)

def activeRows (g : GenerationDb) : List ChangeRow := g.changes.filter (·.status = .active)

/-- `pending_change`. -/
def pendingChange (g : GenerationDb) : Except Error (Option Change) :=
  match g.pendingRows.argmin (·.targetGeneration) with
  | none => .ok none
  | some row => (rowToChange row).map some

/-- The transaction of `prepare`; it answers the change when the id is known. -/
def prepare (H : Hashing) (g : GenerationDb) (changeId : String) (mutation : ControlPlaneMutation) :
    Except Error (Option Change × GenerationDb) :=
  match g.row? changeId with
  | some row => do
    let change ← rowToChange row
    if change.mutationSha256 ≠ mutation.sha256 H then .error (.convergence .changeConflict) else .ok (some change, g)
  | none =>
    if g.pendingRows ≠ [] then .error (.convergence .changePending)
    else
      match g.currentGeneration with
      | none => .error (.convergence .executionStateNotInitialized)
      | some current =>
        -- UNIQUE (authority_id, target_generation)
        if g.changes.any (·.targetGeneration = current + 1) then .error .integrity
        else .ok (none, { g with changes := g.changes ++ [{
          changeId
          fromGeneration := current
          targetGeneration := current + 1
          mutationSha256 := mutation.sha256 H
          mutationJson := mutation.1.toJson
          status := .prepared }] })

def setStatus (g : GenerationDb) (changeId : String) (old new : ChangeStatus) : GenerationDb :=
  { g with changes := Table.update ChangeRow.changeId g.changes changeId fun r =>
      if r.status = old then { r with status := new } else r }

end GenerationDb

/-- The execution state is the one `change` leaves. -/
def ExecutionState.shows (s : ExecutionState) (change : Change) : Prop :=
  s.appliedGeneration = change.targetGeneration ∧ s.lastChangeId = some change.changeId ∧
    s.lastMutationSha256 = some change.mutationSha256

instance (s : ExecutionState) (change : Change) : Decidable (s.shows change) := inferInstanceAs (Decidable (_ ∧ _))

namespace GenerationDb

/-- The transaction of `_mark_applied`, with the execution state read in it. It answers the
    change when it is active. -/
def markApplied (g : GenerationDb) (changeId : String) (state : Option ExecutionState) :
    Except Error (Option Change × GenerationDb) :=
  match g.row? changeId with
  | none => .error (.key "control-plane change not found")
  | some row => do
    let change ← rowToChange row
    if change.status = .active then .ok (some change, g)
    else
      match state with
      | none => .error (.convergence .executionStateNotInitialized)
      | some state =>
        if ¬ state.shows change then .error (.convergence .executionGenerationMismatch)
        else if change.status = .prepared then .ok (none, g.setStatus changeId .prepared .applied)
        else .ok (none, g)

/-- The transaction of `activate`. -/
def activate (g : GenerationDb) (changeId : String) (state : Option ExecutionState) :
    Except Error (Option Change × GenerationDb) :=
  match g.row? changeId with
  | none => .error (.key "control-plane change not found")
  | some row => do
    let change ← rowToChange row
    if change.status = .active then
      if g.currentGeneration ≠ some change.targetGeneration then .error (.convergence .executionGenerationMismatch)
      else .ok (some change, g)
    else if change.status ≠ .applied then .error (.convergence .changePending)
    else
      match state with
      | none => .error (.convergence .executionStateNotInitialized)
      | some state =>
        if ¬ state.shows change then .error (.convergence .executionGenerationMismatch)
        else if g.currentGeneration ≠ some change.fromGeneration then
          .error (.convergence .executionGenerationMismatch)
        else .ok (none, { g with currentGeneration := some change.targetGeneration }.setStatus changeId .applied .active)

/-- What `locked_active_generation` checks before it yields. -/
def lockedActiveGeneration (g : GenerationDb) (state : Option ExecutionState) : Except Error Nat :=
  if g.pendingRows ≠ [] then .error (.convergence .changePending)
  else
    match g.currentGeneration, state with
    | none, _ => .error (.convergence .executionStateNotInitialized)
    | some _, none => .error (.convergence .executionStateNotInitialized)
    | some current, some state =>
      if state.appliedGeneration ≠ current then .error (.convergence .executionGenerationMismatch) else .ok current

theorem lockedActiveGeneration_eq_ok {g : GenerationDb} {state : Option ExecutionState} {n : Nat} :
    g.lockedActiveGeneration state = .ok n ↔
      g.pendingRows = [] ∧ g.currentGeneration = some n ∧ state.map (·.appliedGeneration) = some n := by
  unfold lockedActiveGeneration
  by_cases hp : g.pendingRows = []
  · cases hg : g.currentGeneration with
    | none => simp [hp]
    | some current =>
      cases state with
      | none => simp [hp]
      | some state =>
        by_cases hs : state.appliedGeneration = current
        · simp [hp, hs]
        · simp [hp, hs]
          omega
  · simp [hp]

end GenerationDb

/-! ## Transactions on the execution database -/

namespace ExecutionDb

/-- `execution_state`. -/
def executionState (x : ExecutionDb) : Except Error ExecutionState :=
  match x.state with
  | none => .error (.convergence .executionStateNotInitialized)
  | some s => .ok s

/-- The transaction of `_apply_execution`; the answer says whether it applied the mutation. -/
def applyExecution (x : ExecutionDb) (change : Change) : Except Error (Bool × ExecutionDb) :=
  match x.state with
  | none => .error (.convergence .executionStateNotInitialized)
  | some state =>
    if state.appliedGeneration = change.targetGeneration then
      if ¬ state.shows change then .error (.convergence .changeConflict) else .ok (false, x)
    else if state.appliedGeneration ≠ change.fromGeneration then .error (.convergence .executionGenerationMismatch)
    else do
      let authorization ← x.authorization.applyMutation change.mutation.1
      pure (true, { x with
        authorization
        state := some ⟨change.targetGeneration, some change.changeId, some change.mutationSha256⟩ })

theorem applyExecution_frame {x x' : ExecutionDb} {change : Change} {applied : Bool}
    (h : x.applyExecution change = .ok (applied, x')) : x'.ledger = x.ledger ∧ x'.denials = x.denials := by
  unfold applyExecution at h
  split at h
  · cases h
  · split_ifs at h
    · cases h
      exact ⟨rfl, rfl⟩
    · obtain ⟨a, -, he⟩ := Data.Checks.ok_bind.mp h
      cases he
      exact ⟨rfl, rfl⟩

end ExecutionDb

end Aegis.Effects
