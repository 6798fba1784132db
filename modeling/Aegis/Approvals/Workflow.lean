/-
  Aegis.Approvals.Workflow — the journal of the workflows that wait for a review
  (`DurableWorkflowStore` of approvals/durable.py), in the file of the approvals.

  A workflow is opened in the transaction that creates its approval, with the requester, the
  action and the arguments the approval binds, and is completed once (`Filed`). The record it
  waits for, once decided, names an approver who could decide (`Sound`), and what was approved
  is never rejected afterwards (`Steady`).

  - `decide_repeats`, `resolve_repeats`: on a record rejected or used up, the recorded approver
    with the recorded decision is answered as before, and nothing changes.
  - `decide_refuses`: anyone else, or another decision, is refused.
-/

import Aegis.Approvals.Authority
import Aegis.Data.Reordering

namespace Aegis.Approvals

open Data
open Effects (Error)

/-- `DurableWorkflowRecord.requester`. -/
def WorkflowRow.requester (row : WorkflowRow) : Principal := ⟨row.requesterUserId, row.tenantId, row.requesterRoles⟩

def workflow? (db : ApprovalDb) (approvalId : String) : Option WorkflowRow :=
  Table.lookup WorkflowRow.approvalId db.workflows approvalId

namespace DurableWorkflowStore

def get (approvalId : String) (db : ApprovalDb) : Except Error WorkflowRow :=
  match workflow? db approvalId with
  | none => .error (.approvalState "no durable workflow for approval")
  | some row => .ok row

def requirePending (approvalId : String) (db : ApprovalDb) : Except Error WorkflowRow := do
  let record ← get approvalId db
  if record.completed = true then .error (.approvalState "approval workflow is already completed") else .ok record

/-- The row `complete` leaves. -/
def closed (row : WorkflowRow) (outcome : String) (completedAt : Int) : WorkflowRow :=
  { row with completed := true, finalOutcome := some outcome, completedAt := some completedAt }

def complete (approvalId outcome : String) (completedAt : Int) (db : ApprovalDb) : Except Error (WorkflowRow × ApprovalDb) :=
  match workflow? db approvalId with
  | none => .error (.approvalState "no durable workflow for approval")
  | some record =>
    if record.completed = true then .error (.approvalState "approval workflow is already completed")
    else .ok (closed record outcome completedAt, { db with
      workflows := Table.update WorkflowRow.approvalId db.workflows approvalId fun row =>
        if row.completed = false then closed row outcome completedAt else row })

end DurableWorkflowStore

variable {H : Hashing} {op : Operation} {r r' r'' : ApprovalRecord} {i j : String} {db db' : ApprovalDb}
  {x : Option ApprovalRecord} {p : Principal}

/-! ## Records -/

/-- What stays of a record, and that one approved is not rejected afterwards. -/
structure Steady (r r' : ApprovalRecord) : Prop extends Kept r r' where
  approved : r.status = .approved → r'.status = .approved ∨ r'.status = .consumed ∨ r'.status = .expired

theorem Steady.refl (r : ApprovalRecord) : Steady r r := ⟨.refl r, fun h => .inl h⟩

theorem Steady.trans (h : Steady r r') (h' : Steady r' r'') : Steady r r'' := by
  refine ⟨h.toKept.trans h'.toKept, fun hs => ?_⟩
  rcases h.approved hs with h1 | h1 | h1
  · exact h'.approved h1
  · rw [h'.final (.inr (.inl h1))]
    exact .inr (.inl h1)
  · rw [h'.final (.inr (.inr h1))]
    exact .inr (.inr h1)

theorem Moves.steady (h : Moves H op r r') (hw : r.WellFormed) : Steady r r' := by
  refine ⟨h.kept hw, fun hs => ?_⟩
  cases h with
  | same => exact .inl hs
  | expire _ => exact .inr (.inr rfl)
  | decide decision p later _ hp =>
    rw [hp] at hs
    cases hs
  | use later _ _ => exact .inr (.inl rfl)

theorem ApprovalRecord.Approver.kept (h : r.Approver p) (hk : Kept r r') : r'.Approver p := by
  refine ⟨h.role, ?_, ?_⟩
  · rw [hk.tenantId]
    exact h.tenant
  · rw [hk.requesterUserId]
    exact h.other

theorem ApprovalRecord.Matches.kept {requester : Principal} {action : ApprovalAction} {arguments : Json}
    (h : r.Matches H requester action arguments) (hk : Kept r r') : r'.Matches H requester action arguments := by
  show Approvals.bindingHash _ _ _ _ _ _ = _
  rw [hk.nonce, hk.bindingHash]
  exact h

/-- A record as the stores keep them. -/
structure Sound (r : ApprovalRecord) : Prop where
  wellFormed : r.WellFormed
  attested : r.status ≠ .pending → r.status ≠ .expired → ∃ p, r.Approver p ∧ r.approverUserId = some p.userId

theorem Moves.sound (h : Moves H op r r') (hr : Sound r) : Sound r' := by
  refine ⟨h.wellFormed hr.wellFormed, fun hpending hexpired => ?_⟩
  have hk := h.kept hr.wellFormed
  cases h with
  | same => exact hr.attested hpending hexpired
  | expire _ => exact absurd rfl hexpired
  | decide decision p later hd _ => exact ⟨p, hd.2.kept hk, rfl⟩
  | use later _ hs =>
    obtain ⟨p, hp, hid⟩ := hr.attested (by rw [hs]; decide) (by rw [hs]; decide)
    exact ⟨p, hp.kept hk, hid⟩

theorem Operation.Makes.sound (h : op.Makes H r) : Sound r := by
  refine ⟨h.wellFormed, fun hpending => ?_⟩
  obtain ⟨nonce, requester, action, arguments, workflow, now, ttl, -, hr⟩ := h
  rw [hr] at hpending
  exact absurd rfl hpending

theorem Turns.steady (h : Turns H False op i (some r) x) (hr : Sound r) : ∃ r', x = some r' ∧ Steady r r' := by
  cases h with
  | moves _ r' hm => exact ⟨r', rfl, hm.steady hr.wellFormed⟩
  | remade _ _ hfalse => exact hfalse.elim

theorem Turns.sound (h : Turns H False op i x (some r')) (hx : ∀ r, x = some r → Sound r) : Sound r' := by
  cases h with
  | moves r _ hm => exact hm.sound (hx r rfl)
  | made _ _ hm => exact hm.sound
  | remade _ _ hfalse => exact hfalse.elim

/-- The record was rejected or used up after this principal's decision. -/
structure Recorded (r : ApprovalRecord) (p : Principal) (decision : ApprovalDecision) : Prop where
  approver : r.Approver p
  approverUserId : r.approverUserId = some p.userId
  decision : decision = .reject ∧ r.status = .rejected ∨ decision = .approve ∧ r.status = .consumed

/-- Rejected or used up. -/
def Settled (r : ApprovalRecord) : Prop := r.status = .rejected ∨ r.status = .consumed

theorem Settled.final (h : Settled r) : r.Final := by
  rcases h with h | h
  · exact .inl h
  · exact .inr (.inl h)

theorem Recorded.settled {decision : ApprovalDecision} (h : Recorded r p decision) : Settled r := by
  rcases h.decision with ⟨-, h⟩ | ⟨-, h⟩
  · exact .inl h
  · exact .inr h

theorem Sound.recorded (hr : Sound r) (h : Settled r) : ∃ p decision, Recorded r p decision := by
  rcases h with h | h
  · obtain ⟨p, hp, hid⟩ := hr.attested (by rw [h]; decide) (by rw [h]; decide)
    exact ⟨p, .reject, hp, hid, .inl ⟨rfl, h⟩⟩
  · obtain ⟨p, hp, hid⟩ := hr.attested (by rw [h]; decide) (by rw [h]; decide)
    exact ⟨p, .approve, hp, hid, .inr ⟨rfl, h⟩⟩

/-! ## What one transaction does -/

namespace DurableApprovalStore

variable {now later : Int} {requester : Principal} {action : ApprovalAction} {arguments : Json}

theorem loadLocked_open (hr : find db.records i = some r) (ho : ¬ r.Overdue now) : loadLocked i now db = .ok (r, db) := by
  unfold loadLocked
  rw [hr]
  exact if_neg ho

theorem loadLocked_final (hr : find db.records i = some r) (hf : r.Final) : loadLocked i now db = .ok (r, db) := by
  apply loadLocked_open hr
  intro ho
  rcases ho.1 with hs | hs <;> rcases hf with hf | hf | hf <;> cases hs.symm.trans hf

theorem loadLocked_workflows {x : ApprovalRecord × ApprovalDb} (h : loadLocked i now db = .ok x) :
    x.2.workflows = db.workflows := by
  unfold loadLocked at h
  split at h
  · cases h
  · split at h <;> cases h <;> rfl

variable {decision : ApprovalDecision} {p : Principal}

/-- Who decided is recorded, and the decision is the record's. -/
theorem decide_records (h : decide i p decision now later db = .ok (r, db')) :
    find db'.records i = some r ∧ r.Approver p ∧ r.approverUserId = some p.userId ∧
      (decision = .reject ∧ r.status = .rejected ∨
        decision = .approve ∧ (r.status = .approved ∨ r.status = .consumed)) := by
  obtain ⟨y, hl, hp, ⟨hs, hx⟩ | ⟨rfl, -, hid, hagain⟩⟩ := decide_ok h
  · cases hx
    refine ⟨find_written (f := fun r => r.decided decision p.userId later) (fun _ => rfl) (find_loaded hl) hs,
      ⟨hp.role, hp.tenant, hp.other⟩, rfl, ?_⟩
    cases decision with
    | approve => exact .inr ⟨rfl, .inl rfl⟩
    | reject => exact .inl ⟨rfl, rfl⟩
  · refine ⟨find_loaded hl, hp, hid, ?_⟩
    cases decision with
    | approve =>
      rcases hagain with hs | ⟨hs, -⟩
      · exact .inr ⟨rfl, .inl hs⟩
      · exact .inr ⟨rfl, .inr hs⟩
    | reject =>
      rcases hagain with hs | ⟨-, hs⟩
      · exact .inl ⟨rfl, hs⟩
      · cases hs

theorem verified_of_approver (h : r.Approver p) : verifyApprover r p = .ok () := by
  unfold verifyApprover
  rw [if_neg (not_not_intro h.role), if_neg (not_not_intro h.tenant), if_neg h.other]

theorem decide_repeats (hr : find db.records i = some r)
    (h : Recorded r p decision) : decide i p decision now later db = .ok (r, db) := by
  have hv := verified_of_approver h.approver
  have hpending : r.status ≠ .pending := by
    rcases h.settled with hs | hs <;> rw [hs] <;> simp
  have hagain : r.approverUserId = some p.userId ∧
      (r.status = desiredStatus decision ∨ r.status = .consumed ∧ desiredStatus decision = .approved) := by
    refine ⟨h.approverUserId, ?_⟩
    rcases h.decision with ⟨rfl, hs⟩ | ⟨rfl, hs⟩
    · exact .inl hs
    · exact .inr ⟨hs, rfl⟩
  unfold decide
  simp only [loadLocked_final hr h.settled.final, hv, bind, Except.bind]
  rw [if_neg hpending, if_pos hagain]

theorem decide_refuses (hr : find db.records i = some r) (hs : Settled r)
    (h : ¬ Recorded r p decision) : ∃ e, decide i p decision now later db = .error e := by
  cases hd : decide i p decision now later db with
  | error e => exact ⟨e, rfl⟩
  | ok x =>
    refine absurd ?_ h
    obtain ⟨hfind, hp, hid, hdecision⟩ := decide_records hd
    have hsame : x.1 = r := by
      obtain ⟨y, hl, -, ⟨hpending, -⟩ | ⟨rfl, -⟩⟩ := decide_ok hd
      · cases (loadLocked_final hr hs.final).symm.trans hl
        rcases hs with hs | hs <;> cases hs.symm.trans hpending
      · cases (loadLocked_final hr hs.final).symm.trans hl
        rfl
    rw [hsame] at hp hid hdecision
    refine ⟨hp, hid, ?_⟩
    rcases hdecision with ⟨he, h1⟩ | ⟨he, h1 | h1⟩
    · exact .inl ⟨he, h1⟩
    · rcases hs with hs | hs <;> cases hs.symm.trans h1
    · exact .inr ⟨he, h1⟩

theorem resolve_settles (h : resolveAfterReview H i requester action arguments now later db = .ok (r, db')) :
    find db'.records i = some r ∧ Settled r := by
  obtain ⟨y, hl, -, ⟨hs, rfl⟩ | ⟨hs, hx⟩⟩ := resolveAfterReview_ok h
  · exact ⟨find_loaded hl, hs⟩
  · cases hx
    exact ⟨find_used (find_loaded hl) hs, .inr rfl⟩

theorem verified_of_matches (h : r.Matches H requester action arguments) :
    verifyBinding H r requester action arguments = .ok () := if_neg (not_not_intro h)

theorem resolve_repeats (hr : find db.records i = some r) (hs : Settled r) (h : r.Matches H requester action arguments) :
    resolveAfterReview H i requester action arguments now later db = .ok (r, db) := by
  unfold resolveAfterReview
  simp only [loadLocked_final hr hs.final, verified_of_matches h, bind, Except.bind]
  rcases hs with hs | hs
  · rw [if_pos hs]
  · rw [if_neg (by rw [hs]; decide), if_pos hs]

end DurableApprovalStore

/-! ## The journal -/

/-- The context of a workflow stays, and all of it once it is completed. -/
structure Filed (row row' : WorkflowRow) : Prop where
  context : { row' with completed := row.completed, finalOutcome := row.finalOutcome, completedAt := row.completedAt } = row
  closed : row.completed = true → row' = row

theorem Filed.refl (row : WorkflowRow) : Filed row row := ⟨rfl, fun _ => rfl⟩

theorem Filed.trans {a b c : WorkflowRow} (h : Filed a b) (h' : Filed b c) : Filed a c := by
  refine ⟨?_, fun hc => ?_⟩
  · have h1 := h.context
    rw [← h'.context] at h1
    exact h1
  · have hb := h.closed hc
    exact (h'.closed (hb ▸ hc)).trans hb

theorem Filed.closes (row : WorkflowRow) (outcome : String) (completedAt : Int) (h : row.completed = false) :
    Filed row (DurableWorkflowStore.closed row outcome completedAt) := by
  refine ⟨rfl, fun hc => ?_⟩
  rw [h] at hc
  cases hc

/-- The workflow waits for this record: it carries what the record binds. -/
def WorkflowRow.Awaits (H : Hashing) (row : WorkflowRow) (r : ApprovalRecord) : Prop :=
  r.Matches H row.requester row.action row.normalizedArguments

theorem WorkflowRow.Awaits.kept {row row' : WorkflowRow} (h : row.Awaits H r) (hf : Filed row row') (hk : Kept r r') :
    row'.Awaits H r' := by
  have hc := hf.context
  have h' : r'.Matches H row.requester row.action row.normalizedArguments := ApprovalRecord.Matches.kept h hk
  rw [← hc] at h'
  exact h'

namespace DurableApprovalStore

/-- A transaction on the approvals leaves the journal, or opens the workflow of the record it makes. -/
theorem transaction_workflows {x : ApprovalRecord × ApprovalDb} (h : transaction H op db = .ok x) :
    x.2.workflows = db.workflows ∨
      ∃ row r, x.2.workflows = db.workflows ++ [row] ∧ workflow? db row.approvalId = none ∧ row.completed = false ∧
        find x.2.records row.approvalId = some r ∧ row.Awaits H r := by
  cases op with
  | create j nonce requester action arguments workflow now ttl =>
    simp only [transaction, create] at h
    split_ifs at h with hnew
    split at h
    · cases h
      exact .inl rfl
    · split at h
      · cases h
      · rename_i context hfree
        cases h
        refine .inr ⟨_, .fresh H j nonce requester action arguments now ttl, rfl, ?_, rfl, ?_, ?_⟩
        · refine Table.lookup_eq_none.mpr fun hmem => hfree ?_
          obtain ⟨row, hrow, he⟩ := List.mem_map.mp hmem
          exact List.any_eq_true.mpr ⟨row, hrow, decide_eq_true (.inl he)⟩
        · have hnone : find db.records j = none := by simpa using hnew
          exact (find_concat hnone j).trans (if_pos rfl)
        · show Approvals.bindingHash _ _ _ _ _ (canonicalize (canonicalize arguments)) = _
          rw [show canonicalize (canonicalize arguments) = canonicalize arguments from Json.sorted_sorted _]
          rfl
  | get j now => exact .inl (loadLocked_workflows h)
  | decide j p decision now later =>
    obtain ⟨y, hl, -, hx⟩ := decide_ok h
    have hsame := loadLocked_workflows hl
    rcases hx with ⟨-, rfl⟩ | ⟨rfl, -⟩ <;> exact .inl hsame
  | resolveAfterReview j requester action arguments now later =>
    obtain ⟨y, hl, -, hx⟩ := resolveAfterReview_ok h
    have hsame := loadLocked_workflows hl
    rcases hx with ⟨-, rfl⟩ | ⟨-, rfl⟩ <;> exact .inl hsame
  | consume j requester action arguments now later =>
    obtain ⟨y, hl, -, hx⟩ := consume_ok h
    have hsame := loadLocked_workflows hl
    rcases hx with ⟨-, rfl⟩ | ⟨-, rfl⟩ <;> exact .inl hsame

end DurableApprovalStore

namespace DurableWorkflowStore

variable {row : WorkflowRow} {outcome : String} {completedAt : Int}

section

variable (h : workflow? db i = some row)
include h

theorem requirePending_of (hc : row.completed = false) : requirePending i db = .ok row := by
  simp [requirePending, get, h, hc, bind, Except.bind]

theorem requirePending_closed (hc : row.completed = true) :
    requirePending i db = .error (.approvalState "approval workflow is already completed") := by
  simp [requirePending, get, h, hc, bind, Except.bind]

theorem complete_of (hc : row.completed = false) :
    ∃ db', complete i outcome completedAt db = .ok (closed row outcome completedAt, db') := by
  unfold complete
  rw [h]
  simp only [hc, Bool.false_eq_true, if_false]
  exact ⟨_, rfl⟩

end

/-- `complete` closes the one workflow it is of, and touches nothing else. -/
theorem complete_ok {x : WorkflowRow × ApprovalDb} (h : complete i outcome completedAt db = .ok x) :
    ∃ row, workflow? db i = some row ∧ row.completed = false ∧ x.2.records = db.records ∧
      workflow? x.2 i = some (closed row outcome completedAt) ∧ ∀ j, j ≠ i → workflow? x.2 j = workflow? db j := by
  unfold complete at h
  split at h
  · cases h
  · rename_i row hrow
    split_ifs at h with hc
    have hpending : row.completed = false := by simpa using hc
    have hkey : ∀ row : WorkflowRow, row.approvalId = i →
        (if row.completed = false then closed row outcome completedAt else row).approvalId = i := by
      intro row hid
      split <;> exact hid
    cases h
    refine ⟨row, hrow, hpending, rfl, ?_, fun j hj => Table.lookup_update_ne hkey hj⟩
    show Table.lookup WorkflowRow.approvalId (Table.update _ _ _ _) i = _
    rw [Table.lookup_update_self hkey, show Table.lookup WorkflowRow.approvalId db.workflows i = some row from hrow,
      Option.map_some, if_pos hpending]

end DurableWorkflowStore

end Aegis.Approvals
