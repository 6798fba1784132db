/-
  Aegis.Effects.ControlPlane — `CrashSafeControlPlaneCoordinator`, transaction by transaction
  (control_plane_recovery.py), and any number of its instances on the same two files.

  A transaction on the generation store that also reads the execution state is two steps: the
  read, on the other file, and then the transaction. The lock on the generation store holds
  from the first read in it to its commit, so what it reads there is read at the second step;
  the execution database is not locked and others may commit to it in between.
-/

import Aegis.Txn.System
import Aegis.Effects.Databases

namespace Aegis.Effects

open Data Txn Prog

namespace ControlPlane

variable (H : Hashing)

/-- A transaction on the generation store. -/
def onStore (f : GenerationDb → Except Error (α × GenerationDb)) : Prog Label World Error α :=
  atomic .step fun w => do
    let (a, generation) ← f w.generation
    pure (a, { w with generation })

/-- The execution state, as a read inside another transaction finds it. -/
def readState : Prog Label World Error (Option ExecutionState) := read .step fun w => w.execution.state

def executionState : Prog Label World Error ExecutionState := query .step fun w => w.execution.executionState

def getChange (changeId : String) : Prog Label World Error Change := query .step fun w => w.generation.getChange changeId

def pendingChange : Prog Label World Error (Option Change) := query .step fun w => w.generation.pendingChange

/-- The end of `prepare`, `_mark_applied` and `activate`: the change, read again unless the
    transaction returned it. -/
def changeOr (changeId : String) (change : Option Change) : Prog Label World Error Change :=
  match change with
  | some change => pure change
  | none => getChange changeId

def prepare (changeId : String) (mutation : ControlPlaneMutation) : Prog Label World Error Change := do
  let change ← onStore fun g => g.prepare H changeId mutation
  changeOr changeId change

/-- `_apply_execution`. -/
def applyExecution (change : Change) : Prog Label World Error Unit := do
  let applied ← atomic .step fun w => do
    let (applied, execution) ← w.execution.applyExecution change
    pure (applied, { w with
      execution
      history := if applied then { w.history with applications := w.history.applications ++ [change.changeId] }
        else w.history })
  if applied = true then do
    let _ ← executionState
    pure ()
  else pure ()

/-- `_mark_applied`. -/
def markApplied (changeId : String) : Prog Label World Error Change := do
  let state ← readState
  let change ← onStore fun g => g.markApplied changeId state
  changeOr changeId change

def apply (changeId : String) : Prog Label World Error Change := do
  let change ← getChange changeId
  applyExecution change
  markApplied changeId

def activate (changeId : String) : Prog Label World Error Change := do
  let state ← readState
  let change ← onStore fun g => g.activate changeId state
  changeOr changeId change

def commit (changeId : String) (mutation : ControlPlaneMutation) (crashAt : Option CrashPoint) :
    Prog Label World Error Change := do
  let change ← prepare H changeId mutation
  raiseIf (crashAt = some .afterPrepare) (.controlPlaneCrash .afterPrepare)
  applyExecution change
  raiseIf (crashAt = some .afterExecutionApply) (.controlPlaneCrash .afterExecutionApply)
  let _ ← markApplied changeId
  raiseIf (crashAt = some .afterMarkApplied) (.controlPlaneCrash .afterMarkApplied)
  activate changeId

/-- `current_active_generation`: `locked_active_generation` with nothing done under the lock. -/
def currentActiveGeneration : Prog Label World Error Nat := do
  let state ← readState
  atomic .step fun w => do
    let g ← w.generation.lockedActiveGeneration state
    pure (g, { w with history := { w.history with
      yields := w.history.yields ++ [⟨g, w.generation, w.execution.state, w.checkpoint⟩] } })

/-- `recover` for a pending change. -/
def recoverChange (change : Change) : Prog Label World Error (Option Change) := do
  let state ← executionState
  if state.appliedGeneration = change.fromGeneration then applyExecution change
  else do
    raiseIf (state.appliedGeneration ≠ change.targetGeneration) (.convergence .executionGenerationMismatch)
    raiseIf (¬ state.shows change) (.convergence .changeConflict)
  let _ ← markApplied change.changeId
  let change ← activate change.changeId
  pure (some change)

def recover : Prog Label World Error (Option Change) := do
  let change ← pendingChange
  match change with
  | some change => recoverChange change
  | none => do
    let _ ← currentActiveGeneration
    pure none

/-! ## The system -/

inductive Call where
  | prepare (changeId : String) (mutation : ControlPlaneMutation)
  | apply (changeId : String)
  | activate (changeId : String)
  | commit (changeId : String) (mutation : ControlPlaneMutation) (crashAt : Option CrashPoint)
  | recover
  | currentActiveGeneration

def body : Call → Prog Label World Error Unit
  | .prepare changeId mutation => do
    let _ ← prepare H changeId mutation
    pure ()
  | .apply changeId => do
    let _ ← apply changeId
    pure ()
  | .activate changeId => do
    let _ ← activate changeId
    pure ()
  | .commit changeId mutation crashAt => do
    let _ ← commit H changeId mutation crashAt
    pure ()
  | .recover => do
    let _ ← recover
    pure ()
  | .currentActiveGeneration => do
    let _ ← currentActiveGeneration
    pure ()

/-- Initialized at generation 1, with any authorization state. -/
structure Initialized (w : World) : Prop where
  generation : w.generation = ⟨some 1, []⟩
  state : w.execution.state = some ⟨1, none, none⟩
  origin : w.history.origin = w.execution.authorization
  applications : w.history.applications = []
  yields : w.history.yields = []

/-- Any number of coordinators at once. -/
def system : System Call Label World Error Unit where
  init := Initialized
  body _ := body H
  start _ _ := True
  ok _ _ := True

instance (k : Call) (c : Conf Call Label World Error Unit) : Decidable ((system H).start k c) :=
  inferInstanceAs (Decidable True)

instance (l : Label) (w : World) : Decidable ((system H).ok l w) := inferInstanceAs (Decidable True)

end ControlPlane

/-! ## A sample world -/

namespace Sample

def authorization : AuthorizationState where
  subjects := [⟨"user", "tenant", true, .arr []⟩]
  resources := []
  tenantPolicies := [⟨"tenant", true⟩]
  versions := [⟨"tenant", 1, 1⟩]
  trustedKeys := [⟨"issuer", "effects", "key", 1, "public"⟩]
  keyEpochs := [⟨"issuer", "effects", 1⟩]

def world : World where
  generation := ⟨some 1, []⟩
  execution := ⟨authorization, some ⟨1, none, none⟩, [], []⟩
  checkpoint := none
  receipts := []
  witness := []
  outbox := []
  history := ⟨authorization, [], [], [], [], [], []⟩

theorem world_initialized : ControlPlane.Initialized world := ⟨rfl, rfl, rfl, rfl, rfl⟩

def enablePasswordReset : ControlPlaneMutation := ⟨.passwordResetEnabled "tenant" true, by decide⟩

def disablePasswordReset : ControlPlaneMutation := ⟨.passwordResetEnabled "tenant" false, by decide⟩

end Sample

end Aegis.Effects
