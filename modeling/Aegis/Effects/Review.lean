/-
  Aegis.Effects.Review — reviews of approvals that a workflow waits for
  (`AgentRunner._review_and_resume_durable` of agent/graph.py, with
  `DurableApprovedEffectPipeline` and `DurableEffectWorker` of durable.py).

  A runner is deployed on databases it shares with others (`Layout`), with an effect pipeline
  or without. A review makes four kinds of transactions: it reads the journal, decides, resolves
  (and delivers), and completes the workflow. Any number of them run at a time, and each may
  stop between two transactions.

  A `Worker` is a delivery with what is promised of it: it leaves the approvals alone, rows keep
  what they bind and effects stay, and it answers only with the effect of the row.
-/

import Aegis.Approvals.Workflow
import Aegis.Effects.Revalidation
import Aegis.Txn.Safe

namespace Aegis.Effects

open Data Txn Txn.Prog
open Approvals (ApprovalRecord ApprovalDb Principal ApprovalAction ApprovalDecision ApprovalStatus WorkflowRow)

variable {σ γ : Type}

/-- The databases: the approvals with their journal, the outbox, the ledger of the effects, and the
    changes `γ` others make to the rest. -/
structure Layout (σ γ : Type) where
  approvals : Lens σ ApprovalDb
  outbox : Lens σ Outbox
  ledger : σ → List LedgerRow
  change : γ → σ → σ
  approvals_set_outbox : ∀ o s, approvals.get (outbox.set o s) = approvals.get s
  outbox_set_approvals : ∀ a s, outbox.get (approvals.set a s) = outbox.get s
  ledger_set_approvals : ∀ a s, ledger (approvals.set a s) = ledger s
  ledger_set_outbox : ∀ o s, ledger (outbox.set o s) = ledger s
  approvals_change : ∀ x s, approvals.get (change x s) = approvals.get s
  outbox_change : ∀ x s, outbox.get (change x s) = outbox.get s
  ledger_change : ∀ x s, ledger (change x s) = ledger s

namespace Layout

variable (L : Layout σ γ)

/-- Rows keep what they bind, and effects stay. -/
structure Grows (s s' : σ) : Prop where
  outbox : ∀ i row, (L.outbox.get s).row? i = some row →
    ∃ row', (L.outbox.get s').row? i = some row' ∧ Outbox.Bound row row'
  ledger : ∀ l ∈ L.ledger s, l ∈ L.ledger s'

variable {L} in
theorem Grows.refl (s : σ) : L.Grows s s := ⟨fun _ row h => ⟨row, h, .refl row⟩, fun _ h => h⟩

variable {L} in
theorem Grows.trans {a b c : σ} (h : L.Grows a b) (h' : L.Grows b c) : L.Grows a c := by
  refine ⟨fun i row hrow => ?_, fun l hl => h'.ledger l (h.ledger l hl)⟩
  obtain ⟨row1, h1, hb1⟩ := h.outbox i row hrow
  obtain ⟨row2, h2, hb2⟩ := h'.outbox i row1 h1
  exact ⟨row2, h2, hb1.trans hb2⟩

/-- What a delivery may do, and what others may do meanwhile. -/
def delivery : Contract σ where
  inv _ := True
  rely _ := L.Grows
  guar _ s s' := L.approvals.get s' = L.approvals.get s ∧ L.Grows s s'
  rely_refl _ := .refl
  rely_trans := .trans
  guar_refl _ s _ := ⟨rfl, .refl s⟩

/-- The ledger has the effect of the row of this approval. -/
def Executed (approvalId : String) (s : σ) : Prop :=
  ∃ row l, (L.outbox.get s).row? approvalId = some row ∧ l ∈ L.ledger s ∧ l.IsOf row

end Layout

structure Worker (L : Layout σ γ) where
  deliver : (approvalId : String) → (crashAfterEffect : Bool) → Prog Label σ Error EffectExecution
  safe : ∀ me approvalId crashAfterEffect s,
    Safe (fun _ _ => True) L.delivery me (OnOk fun _ => L.Executed approvalId) (deliver approvalId crashAfterEffect) s

/-! ## The runner -/

inductive AgentRunStatus where
  | completed | pendingApproval | approved | rejected
  deriving DecidableEq, Repr

/-- `result` of the response. -/
structure ReviewResult where
  approvalId : String
  action : ApprovalAction
  status : ApprovalStatus
  expiresAt : Int
  deriving DecidableEq, Repr

/-- `AgentRunResponse`, of a review. -/
structure AgentRunResponse where
  tool : ApprovalAction
  result : ReviewResult
  toolCalls : Nat
  status : AgentRunStatus
  approvalId : String
  deriving DecidableEq, Repr

/-- One completed workflow: the client that completed it, for whom and how. -/
structure Completion where
  approvalId : String
  client : Nat
  approver : Principal
  decision : ApprovalDecision
  outcome : String
  deriving DecidableEq, Repr

/-- The databases, and a history of the workflows completed, which no code reads. -/
structure Desk (σ : Type) where
  store : σ
  completions : List Completion

/-- The readings of the clock in a review. -/
structure Clock where
  decideNow : Int
  decidedAt : Int
  resolveNow : Int
  consumedAt : Int
  completedAt : Int

namespace AgentRunner

def store : Lens (Desk σ) σ where
  get := Desk.store
  set s d := { d with store := s }
  get_set _ _ := rfl
  set_get _ := rfl
  set_set _ _ _ := rfl

variable (H : Hashing) (L : Layout σ γ)

/-- A transaction on the approvals. -/
def onApprovals (f : ApprovalDb → Except Error (ApprovalRecord × ApprovalDb)) : Prog Label (Desk σ) Error ApprovalRecord :=
  atomic .step fun d => do
    let (record, approvals) ← f (L.approvals.get d.store)
    pure (record, { d with store := L.approvals.set approvals d.store })

/-- The coordinator's transaction, on the approvals and the outbox. -/
def enqueue (approvalId : String) (pending : WorkflowRow) (clock : Clock) : Prog Label (Desk σ) Error ApprovalRecord :=
  atomic .step fun d => do
    let (record, approvals, outbox) ← Outbox.resolveAfterReviewAndEnqueue H approvalId pending.requester pending.action
      pending.normalizedArguments clock.resolveNow clock.consumedAt (L.approvals.get d.store) (L.outbox.get d.store)
    pure (record, { d with store := L.outbox.set outbox (L.approvals.set approvals d.store) })

variable {L}

/-- `DurableApprovedEffectPipeline.resolve_and_deliver`. -/
def resolveAndDeliver (worker : Worker L) (approvalId : String) (pending : WorkflowRow) (clock : Clock) (crashAfterEffect : Bool) :
    Prog Label (Desk σ) Error (ApprovalRecord × Option EffectExecution) := do
  let record ← enqueue H L approvalId pending clock
  if record.status = .rejected then pure (record, none)
  else do
    raiseIf (record.status ≠ .consumed) (.approvalState "unexpected approval status before effect delivery")
    let effect ← (worker.deliver approvalId crashAfterEffect).zoom store
    pure (record, some effect)

/-- The record a review goes on with. -/
def resolve (pipeline : Option (Worker L)) (approvalId : String) (pending : WorkflowRow) (clock : Clock) (crashAfterEffect : Bool) :
    Prog Label (Desk σ) Error ApprovalRecord :=
  match pipeline with
  | some worker => do
    let (record, _) ← resolveAndDeliver H worker approvalId pending clock crashAfterEffect
    pure record
  | none => onApprovals L fun db => Approvals.DurableApprovalStore.resolveAfterReview H approvalId pending.requester
      pending.action pending.normalizedArguments clock.resolveNow clock.consumedAt db

def outcomeOf (record : ApprovalRecord) : Except Error (String × AgentRunStatus) :=
  if record.status = .rejected then .ok ("rejected", .rejected)
  else if record.status = .consumed then .ok ("approved", .approved)
  else .error (.approvalState "unexpected durable approval state after review")

variable (L) in
/-- `DurableWorkflowStore.complete`, with its entry in the history. -/
def complete (x : Completion) (completedAt : Int) : Prog Label (Desk σ) Error Unit :=
  atomic .step fun d => do
    let (_, approvals) ← Approvals.DurableWorkflowStore.complete x.approvalId x.outcome completedAt (L.approvals.get d.store)
    pure ((), { store := L.approvals.set approvals d.store, completions := d.completions ++ [x] })

/-- `_review_and_resume_durable`, as the call of this client. -/
def reviewAndResumeDurable (pipeline : Option (Worker L)) (client : Nat) (approvalId : String) (approver : Principal)
    (decision : ApprovalDecision) (clock : Clock) (crashAfterEffect : Bool) : Prog Label (Desk σ) Error AgentRunResponse := do
  let pending ← query .step fun d => Approvals.DurableWorkflowStore.requirePending approvalId (L.approvals.get d.store)
  let _ ← onApprovals L fun db =>
    Approvals.DurableApprovalStore.decide approvalId approver decision clock.decideNow clock.decidedAt db
  let record ← resolve H pipeline approvalId pending clock crashAfterEffect
  let (outcome, status) ← ofResult (outcomeOf record)
  complete L ⟨approvalId, client, approver, decision, outcome⟩ clock.completedAt
  pure {
    tool := pending.action
    result := ⟨record.approvalId, record.action, record.status, record.expiresAt⟩
    toolCalls := pending.toolCalls
    status
    approvalId }

/-! ## The system -/

inductive Call (γ : Type) where
  /-- An operation of `DurableApprovalStore` that uses no approval up. -/
  | approvals (op : Approvals.Operation)
  | change (x : γ)
  | review (approvalId : String) (approver : Principal) (decision : ApprovalDecision) (clock : Clock) (crashAfterEffect : Bool)

inductive Answer where
  | record (r : ApprovalRecord)
  | response (r : AgentRunResponse)
  | done

variable (pipeline : Option (Worker L))

def body (client : Nat) : Call γ → Prog Label (Desk σ) Error Answer
  | .approvals op => do
    let r ← onApprovals L (Approvals.DurableApprovalStore.transaction H op)
    pure (.record r)
  | .change x => do
    modify .step fun d => { d with store := L.change x d.store }
    pure .done
  | .review approvalId approver decision clock crashAfterEffect => do
    let r ← reviewAndResumeDurable H pipeline client approvalId approver decision clock crashAfterEffect
    pure (.response r)

/-- The call uses approvals up by itself, without a review. -/
def Call.Consumes : Call γ → Prop
  | .approvals (.resolveAfterReview ..) | .approvals (.consume ..) => True
  | _ => False

instance : (k : Call γ) → Decidable k.Consumes
  | .approvals (.resolveAfterReview ..) | .approvals (.consume ..) => .isTrue trivial
  | .approvals (.create ..) | .approvals (.get ..) | .approvals (.decide ..) | .change _ | .review .. => .isFalse id

/-- Any number of calls, interleaved transaction by transaction; approvals are made, read and decided
    on, and used up only by reviews. -/
def system : System (Call γ) Label (Desk σ) Error Answer where
  init d := L.approvals.get d.store = ⟨[], []⟩ ∧ d.completions = []
  body := body H pipeline
  start k _ := ¬ k.Consumes
  ok _ _ := True

instance : ∀ k c, Decidable ((system H pipeline).start k c) := fun k _ => inferInstanceAs (Decidable (¬ k.Consumes))

instance : ∀ l s, Decidable ((system H pipeline).ok l s) := fun _ _ => inferInstanceAs (Decidable True)

end AgentRunner

end Aegis.Effects
