/-
  Aegis.Effects.ReviewSafety — the workflow journal agrees with the approvals, whatever reviews
  run at a time and wherever they stop.

  `Agrees` ties the journal to the records: a workflow waits for the record it was opened with,
  a completed one was completed once, by the approver and with the decision the record names,
  and with a pipeline an approval used up is in the outbox. Records, workflows, rows, effects
  and completions only move forward (`Evolves`), so what a review learnt before it was
  interrupted still holds when it goes on.

  - `workflow_agrees`: at most one review of an approval returns; a workflow is completed as
    approved or rejected as its approval was; a settled approval whose workflow is pending is
    completed by the recorded approver and decision and by no other; and afterwards every
    review is one read that raises.
-/

import Aegis.Effects.ExactlyOnce
import Aegis.Effects.Workers
import Aegis.Txn.Crash

namespace Aegis.Approvals

open Data

variable {H : Hashing} {op : Operation} {r r' : ApprovalRecord} {i : String}

/-- A record used up was so already, or the operation uses it up. -/
theorem Turns.consumed {x : Option ApprovalRecord} (h : Turns H False op i x (some r')) (hs : r'.status = .consumed) :
    x = some r' ∨ ∃ r later, x = some r ∧ op.Uses H r later := by
  cases h with
  | moves r _ hm =>
    cases hm with
    | same => exact .inl rfl
    | expire _ => cases hs
    | decide decision _ _ _ _ => cases decision <;> cases hs
    | use later hu _ => exact .inr ⟨r, later, rfl, hu⟩
  | made _ _ hm =>
    obtain ⟨nonce, requester, action, arguments, workflow, now, ttl, -, hr⟩ := hm
    rw [hr] at hs
    cases hs
  | remade _ _ hfalse => exact hfalse.elim

end Aegis.Approvals

namespace Aegis.Effects

open Data Txn Txn.Prog
open Approvals
open DurableApprovalStore DurableWorkflowStore

variable {σ γ : Type} {r : ApprovalRecord} {H : Hashing}

/-- The effect is of this approval. -/
structure LedgerRow.Fulfils (l : LedgerRow) (r : ApprovalRecord) : Prop where
  approvalId : l.approvalId = r.approvalId
  requesterUserId : l.requesterUserId = r.requesterUserId
  tenantId : l.tenantId = r.tenantId
  action : l.action = r.action
  normalizedArguments : l.normalizedArguments = r.normalizedArguments

theorem Outbox.insertOrValidate_carries {o o' : Outbox} {row : OutboxRecord}
    (h : insertOrValidate H r o = .ok (row, o')) : o'.row? r.approvalId = some row ∧ Carries H row r := by
  unfold insertOrValidate at h
  dsimp only at h
  split at h
  · cases h
  · rename_i row1 hrow
    split at h
    · cases h
    · rename_i hc
      cases h
      exact ⟨hrow, not_not.mp hc⟩

/-- A row that is there is found again. -/
theorem Outbox.insertOrValidate_repeats {o : Outbox} {row : OutboxRecord}
    (h : o.row? r.approvalId = some row) (hc : Carries H row r) : insertOrValidate H r o = .ok (row, o) := by
  unfold insertOrValidate
  have hsome : (o.row? r.approvalId).isSome = true := by
    rw [h]
    rfl
  dsimp only
  rw [if_pos (.inl hsome), h]
  exact if_neg (not_not_intro hc)

theorem Outbox.row?_of_enqueued {o o' : Outbox} {row row' : OutboxRecord} {i : String}
    (h : insertOrValidate H r o = .ok (row, o')) (hi : o.row? i = some row') : o'.row? i = some row' := by
  rcases insertOrValidate_ok h with rfl | ⟨-, rfl⟩
  · exact hi
  · exact Table.lookup_append_of_some hi

namespace AgentRunner

variable (H : Hashing) {L : Layout σ γ} (pipeline : Option (Worker L))

variable (L) in
def record? (d : Desk σ) (approvalId : String) : Option ApprovalRecord :=
  Approvals.find (L.approvals.get d.store).records approvalId

variable (L) in
def workflow? (d : Desk σ) (approvalId : String) : Option WorkflowRow :=
  Approvals.workflow? (L.approvals.get d.store) approvalId

/-- How the workflow of a settled approval ends. -/
def Ends (outcome : String) (r : ApprovalRecord) : Prop :=
  outcome = "approved" ∧ r.status = .consumed ∨ outcome = "rejected" ∧ r.status = .rejected

/-- With a pipeline, an approval used up has its effect. -/
def Effective (d : Desk σ) (r : ApprovalRecord) : Prop :=
  pipeline.isSome = true → r.status = .consumed → ∃ l ∈ L.ledger d.store, l.Fulfils r

/-- The completion is of a workflow closed with its outcome, for the decision the record names. -/
def Concluded (d : Desk σ) (x : Completion) : Prop :=
  ∃ row r, workflow? L d x.approvalId = some row ∧ row.completed = true ∧ row.finalOutcome = some x.outcome ∧
    record? L d x.approvalId = some r ∧ Recorded r x.approver x.decision ∧ Ends x.outcome r ∧ Effective pipeline d r

structure Agrees (d : Desk σ) : Prop where
  sound : ∀ i r, record? L d i = some r → Sound r
  awaited : ∀ i row, workflow? L d i = some row → ∃ r, record? L d i = some r ∧ row.Awaits H r
  queued : pipeline.isSome = true → ∀ i r, record? L d i = some r → r.status = .consumed →
    ∃ row, (L.outbox.get d.store).row? i = some row ∧ Outbox.Carries H row r
  once : (d.completions.map Completion.approvalId).Nodup
  concluded : ∀ x ∈ d.completions, Concluded pipeline d x
  completed : ∀ i row, workflow? L d i = some row → row.completed = true → ∃ x ∈ d.completions, x.approvalId = i

variable (L) in
structure Evolves (d d' : Desk σ) : Prop extends L.Grows d.store d'.store where
  records : ∀ i r, record? L d i = some r → ∃ r', record? L d' i = some r' ∧ Steady r r'
  workflows : ∀ i row, workflow? L d i = some row → ∃ row', workflow? L d' i = some row' ∧ Filed row row'
  completions : ∀ x ∈ d.completions, x ∈ d'.completions

theorem Evolves.refl (d : Desk σ) : Evolves L d d :=
  ⟨.refl _, fun _ r h => ⟨r, h, .refl r⟩, fun _ row h => ⟨row, h, .refl row⟩, fun _ h => h⟩

theorem Evolves.trans {a b c : Desk σ} (h : Evolves L a b) (h' : Evolves L b c) : Evolves L a c := by
  refine ⟨h.toGrows.trans h'.toGrows, fun i r hr => ?_, fun i row hrow => ?_, fun x hx => h'.completions x (h.completions x hx)⟩
  · obtain ⟨r1, h1, hs1⟩ := h.records i r hr
    obtain ⟨r2, h2, hs2⟩ := h'.records i r1 h1
    exact ⟨r2, h2, hs1.trans hs2⟩
  · obtain ⟨row1, h1, hf1⟩ := h.workflows i row hrow
    obtain ⟨row2, h2, hf2⟩ := h'.workflows i row1 h1
    exact ⟨row2, h2, hf1.trans hf2⟩

variable {H pipeline} {d d' : Desk σ} {i : String} {r : ApprovalRecord} {row : WorkflowRow} {x : Completion}

theorem Evolves.settled (h : Evolves L d d') (hr : record? L d i = some r) (hs : Settled r) : record? L d' i = some r := by
  obtain ⟨r', hr', hsteady⟩ := h.records i r hr
  rw [hr', hsteady.final hs.final]

theorem Evolves.closed (h : Evolves L d d') (hrow : workflow? L d i = some row) (hc : row.completed = true) :
    workflow? L d' i = some row := by
  obtain ⟨row', hrow', hf⟩ := h.workflows i row hrow
  rw [hrow', hf.closed hc]

theorem Effective.grows (h : Effective pipeline d r) (hg : L.Grows d.store d'.store) : Effective pipeline d' r := by
  intro hp hs
  obtain ⟨l, hl, hf⟩ := h hp hs
  exact ⟨l, hg.ledger l hl, hf⟩

theorem Concluded.evolves (h : Concluded pipeline d x) (he : Evolves L d d') : Concluded pipeline d' x := by
  obtain ⟨row, r, h1, h2, h3, h4, h5, h6, h7⟩ := h
  exact ⟨row, r, he.closed h1 h2, h2, h3, he.settled h4 h5.settled, h5, h6, h7.grows he.toGrows⟩

/-! ## One transaction -/

/-- A transaction of the approval store, with what becomes of the outbox in it. -/
theorem Agrees.approvals {op : Operation} {x : ApprovalRecord × ApprovalDb} {o : Outbox} (hd : Agrees H pipeline d)
    (h : transaction H op (L.approvals.get d.store) = .ok x)
    (hgrow : ∀ i row, (L.outbox.get d.store).row? i = some row → o.row? i = some row)
    (hqueued : pipeline.isSome = true → ∀ i r, Approvals.find x.2.records i = some r → r.status = .consumed →
      record? L d i = some r ∨ ∃ row, o.row? i = some row ∧ Outbox.Carries H row r) :
    Agrees H pipeline { d with store := L.outbox.set o (L.approvals.set x.2 d.store) } ∧
      Evolves L d { d with store := L.outbox.set o (L.approvals.set x.2 d.store) } := by
  have happ : L.approvals.get (L.outbox.set o (L.approvals.set x.2 d.store)) = x.2 := by
    rw [L.approvals_set_outbox, L.approvals.get_set]
  have hout : L.outbox.get (L.outbox.set o (L.approvals.set x.2 d.store)) = o := L.outbox.get_set _ _
  have hledger : L.ledger (L.outbox.set o (L.approvals.set x.2 d.store)) = L.ledger d.store := by
    rw [L.ledger_set_outbox, L.ledger_set_approvals]
  have hturns := fun i => transaction_turns (i := i) h
  have hjournal := transaction_workflows h
  have hworkflow : ∀ i row, workflow? L d i = some row → Approvals.workflow? x.2 i = some row := by
    intro i row hrow
    unfold Approvals.workflow?
    rcases hjournal with hsame | ⟨row1, r1, happend, -⟩
    · rw [hsame]
      exact hrow
    · rw [happend]
      exact Table.lookup_append_of_some hrow
  have hrecord : ∀ i r, record? L d i = some r → ∃ r', Approvals.find x.2.records i = some r' ∧ Steady r r' := by
    intro i r hr
    have hturn := hturns i
    rw [show Approvals.find (L.approvals.get d.store).records i = some r from hr] at hturn
    exact hturn.steady (hd.sound i r hr)
  -- a workflow of the new journal is an old one, or the one just opened
  have hbefore : ∀ i row, Approvals.workflow? x.2 i = some row → workflow? L d i = some row ∨
      row.completed = false ∧ ∃ r, Approvals.find x.2.records i = some r ∧ row.Awaits H r := by
    intro i row hrow
    unfold Approvals.workflow? at hrow
    rcases hjournal with hsame | ⟨row1, r1, happend, -, hopen, hfind, hawaits⟩
    · rw [hsame] at hrow
      exact .inl hrow
    · rw [happend, Table.lookup_append, Option.or_eq_some_iff] at hrow
      rcases hrow with hrow | ⟨-, hrow⟩
      · exact .inl hrow
      · split_ifs at hrow with hid
        cases hrow
        subst hid
        exact .inr ⟨hopen, r1, hfind, hawaits⟩
  have hevolves : Evolves L d { d with store := L.outbox.set o (L.approvals.set x.2 d.store) } := by
    refine ⟨⟨fun i row hrow => ⟨row, ?_, .refl row⟩, fun l hl => ?_⟩, fun i r hr => ?_, fun i row hrow => ⟨row, ?_, .refl row⟩,
      fun _ h => h⟩
    · rw [hout]
      exact hgrow i row hrow
    · rw [hledger]
      exact hl
    · simp only [record?, happ]
      exact hrecord i r hr
    · simp only [workflow?, happ]
      exact hworkflow i row hrow
  refine ⟨⟨fun i r hr => ?_, fun i row hrow => ?_, fun hp i r hr hs => ?_, hd.once,
    fun y hy => (hd.concluded y hy).evolves hevolves, fun i row hrow hc => ?_⟩, hevolves⟩
  · simp only [record?, happ] at hr
    have hturn := hturns i
    rw [hr] at hturn
    exact hturn.sound (hd.sound i)
  · simp only [workflow?, record?, happ] at hrow ⊢
    rcases hbefore i row hrow with hold | ⟨-, hnew⟩
    · obtain ⟨r, hr, hawaits⟩ := hd.awaited i row hold
      obtain ⟨r', hr', hsteady⟩ := hrecord i r hr
      exact ⟨r', hr', hawaits.kept (.refl row) hsteady.toKept⟩
    · exact hnew
  · simp only [record?, happ] at hr
    rw [hout]
    rcases hqueued hp i r hr hs with hold | hnew
    · obtain ⟨row, hrow, hcarries⟩ := hd.queued hp i r hold hs
      exact ⟨row, hgrow i row hrow, hcarries⟩
    · exact hnew
  · simp only [workflow?, happ] at hrow
    rcases hbefore i row hrow with hold | ⟨hopen, -⟩
    · exact hd.completed i row hold hc
    · rw [hopen] at hc
      cases hc

/-- A transaction that leaves the approvals alone. -/
theorem Agrees.elsewhere {s : σ} (hd : Agrees H pipeline d) (happ : L.approvals.get s = L.approvals.get d.store)
    (hgrows : L.Grows d.store s) : Agrees H pipeline { d with store := s } ∧ Evolves L d { d with store := s } := by
  have hevolves : Evolves L d { d with store := s } := by
    refine ⟨hgrows, fun i r hr => ⟨r, ?_, .refl r⟩, fun i row hrow => ⟨row, ?_, .refl row⟩, fun _ h => h⟩
    · simp only [record?, happ]
      exact hr
    · simp only [workflow?, happ]
      exact hrow
  refine ⟨⟨fun i r hr => ?_, fun i row hrow => ?_, fun hp i r hr hs => ?_, hd.once,
    fun y hy => (hd.concluded y hy).evolves hevolves, fun i row hrow hc => ?_⟩, hevolves⟩
  · simp only [record?, happ] at hr
    exact hd.sound i r hr
  · simp only [workflow?, record?, happ] at hrow ⊢
    exact hd.awaited i row hrow
  · simp only [record?, happ] at hr
    obtain ⟨row, hrow, hcarries⟩ := hd.queued hp i r hr hs
    obtain ⟨row', hrow', hbound⟩ := hgrows.outbox i row hrow
    exact ⟨row', hrow', hcarries.bound hbound⟩
  · simp only [workflow?, happ] at hrow
    exact hd.completed i row hrow hc

/-- A workflow is completed for a record settled by the decision of the review. -/
theorem Agrees.completes {completedAt : Int} {y : WorkflowRow × ApprovalDb} (hd : Agrees H pipeline d)
    (hr : record? L d x.approvalId = some r) (hrecorded : Recorded r x.approver x.decision) (hends : Ends x.outcome r)
    (heffect : Effective pipeline d r)
    (h : DurableWorkflowStore.complete x.approvalId x.outcome completedAt (L.approvals.get d.store) = .ok y) :
    Agrees H pipeline { store := L.approvals.set y.2 d.store, completions := d.completions ++ [x] } ∧
      Evolves L d { store := L.approvals.set y.2 d.store, completions := d.completions ++ [x] } := by
  obtain ⟨row, hrow, hopen, hrecords, hclosed, hothers⟩ := complete_ok h
  have happ : L.approvals.get (L.approvals.set y.2 d.store) = y.2 := L.approvals.get_set _ _
  have hfind : ∀ i, Approvals.find (L.approvals.get (L.approvals.set y.2 d.store)).records i = record? L d i := by
    intro i
    rw [happ, hrecords]
    rfl
  have hevolves : Evolves L d { store := L.approvals.set y.2 d.store, completions := d.completions ++ [x] } := by
    refine ⟨⟨fun i row hrow => ⟨row, ?_, .refl row⟩, fun l hl => ?_⟩, fun i r hr => ⟨r, (hfind i).trans hr, .refl r⟩,
      fun i row1 hrow1 => ?_, fun _ h => List.mem_append_left _ h⟩
    · rw [L.outbox_set_approvals]
      exact hrow
    · rw [L.ledger_set_approvals]
      exact hl
    · simp only [workflow?, happ]
      by_cases hi : i = x.approvalId
      · subst hi
        rw [show workflow? L d x.approvalId = some row from hrow] at hrow1
        cases hrow1
        exact ⟨_, hclosed, .closes row _ _ hopen⟩
      · exact ⟨row1, (hothers i hi).trans hrow1, .refl row1⟩
  refine ⟨⟨fun i r hr => ?_, fun i row1 hrow1 => ?_, fun hp i r hr hs => ?_, ?_, fun z hz => ?_, fun i row1 hrow1 hc => ?_⟩,
    hevolves⟩
  · exact hd.sound i r ((hfind i).symm.trans hr)
  · simp only [workflow?, happ] at hrow1
    by_cases hi : i = x.approvalId
    · subst hi
      rw [hclosed] at hrow1
      cases hrow1
      obtain ⟨r1, hr1, hawaits⟩ := hd.awaited _ row hrow
      exact ⟨r1, (hfind _).trans hr1, hawaits.kept (.closes row _ _ hopen) (.refl r1)⟩
    · obtain ⟨r1, hr1, hawaits⟩ := hd.awaited i row1 ((hothers i hi).symm.trans hrow1)
      exact ⟨r1, (hfind i).trans hr1, hawaits⟩
  · simp only [L.outbox_set_approvals]
    exact hd.queued hp i r ((hfind i).symm.trans hr) hs
  · -- a completion of this workflow would have closed it
    rw [List.map_append, List.map_singleton, List.nodup_append]
    refine ⟨hd.once, List.nodup_singleton _, fun j hj k hk he => ?_⟩
    rw [List.mem_singleton] at hk
    obtain ⟨z, hz, hid⟩ := List.mem_map.mp hj
    obtain ⟨row1, -, hrow1, hc, -⟩ := hd.concluded z hz
    rw [hid, he, hk, show workflow? L d x.approvalId = some row from hrow] at hrow1
    cases hrow1
    rw [hopen] at hc
    cases hc
  · rcases List.mem_append.mp hz with hz | hz
    · exact (hd.concluded z hz).evolves hevolves
    · rw [List.mem_singleton.mp hz]
      refine ⟨closed row x.outcome completedAt, r, ?_, rfl, rfl, (hfind _).trans hr, hrecorded,
        hends, heffect.grows hevolves.toGrows⟩
      simp only [workflow?, happ]
      exact hclosed
  · simp only [workflow?, happ] at hrow1
    by_cases hi : i = x.approvalId
    · exact ⟨x, List.mem_append_right _ (List.mem_singleton_self x), hi.symm⟩
    · obtain ⟨z, hz, hid⟩ := hd.completed i row1 ((hothers i hi).symm.trans hrow1) hc
      exact ⟨z, List.mem_append_left _ hz, hid⟩

/-! ## Calls -/

variable (H pipeline) in
def contract : Contract (Desk σ) where
  inv := Agrees H pipeline
  rely _ := Evolves L
  guar _ := Evolves L
  rely_refl _ := .refl
  rely_trans := .trans
  guar_refl _ d _ := .refl d

section Calls

variable {ok : Label → Desk σ → Prop} {me : Nat} {clock : Clock} {pending : WorkflowRow} {crashAfterEffect : Bool}
  {p : Principal} {decision : ApprovalDecision}

/-- A record of this decision, which has not been used up or has expired since. -/
def Decided (i : String) (p : Principal) (decision : ApprovalDecision) (d : Desk σ) : Prop :=
  ∃ r, record? L d i = some r ∧ r.Approver p ∧ r.approverUserId = some p.userId ∧
    (decision = .reject ∧ r.status = .rejected ∨
      decision = .approve ∧ (r.status = .approved ∨ r.status = .consumed ∨ r.status = .expired))

theorem Decided.evolves (h : Decided (L := L) i p decision d) (he : Evolves L d d') : Decided (L := L) i p decision d' := by
  obtain ⟨r, hr, hp, hid, hstatus⟩ := h
  obtain ⟨r', hr', hsteady⟩ := he.records i r hr
  refine ⟨r', hr', hp.kept hsteady.toKept, ?_, ?_⟩
  · rw [hsteady.approverUserId (by rw [hid]; rfl), hid]
  · rcases hstatus with ⟨hdec, hs⟩ | ⟨hdec, hs | hs | hs⟩
    · rw [hsteady.final (.inl hs)]
      exact .inl ⟨hdec, hs⟩
    · exact .inr ⟨hdec, hsteady.approved hs⟩
    · rw [hsteady.final (.inr (.inl hs))]
      exact .inr ⟨hdec, .inr (.inl hs)⟩
    · rw [hsteady.final (.inr (.inr hs))]
      exact .inr ⟨hdec, .inr (.inr hs)⟩

/-- Once the record is settled, it is by that decision. -/
theorem Decided.recorded (h : Decided (L := L) i p decision d) (hr : record? L d i = some r) (hs : Settled r) :
    Recorded r p decision := by
  obtain ⟨r1, hr1, hp, hid, hstatus⟩ := h
  rw [hr] at hr1
  cases hr1
  refine ⟨hp, hid, ?_⟩
  rcases hstatus with ⟨hdec, h⟩ | ⟨hdec, h | h | h⟩
  · exact .inl ⟨hdec, h⟩
  · rcases hs with hs | hs <;> cases hs.symm.trans h
  · exact .inr ⟨hdec, h⟩
  · rcases hs with hs | hs <;> cases hs.symm.trans h

/-- A transaction of the approval store that uses nothing up, or does so without a pipeline. -/
theorem onApprovals_safe {op : Operation} {M : ApprovalRecord → Desk σ → Prop}
    (hop : pipeline.isSome = true → ∀ r later, ¬ op.Uses H r later)
    (hM : ∀ r db d', transaction H op db = .ok (r, L.approvals.get d'.store) → M r d') :
    Safe ok (contract H pipeline) me (OnOk M) (onApprovals L (transaction H op)) d := by
  refine Safe.write fun r d2 d1 hi _ _ hd => ?_
  obtain ⟨x, hx, hd⟩ := Checks.ok_bind.mp hd
  cases hd
  have hset : L.outbox.set (L.outbox.get d1.store) (L.approvals.set x.2 d1.store) = L.approvals.set x.2 d1.store := by
    rw [← L.outbox_set_approvals x.2 d1.store, L.outbox.set_get]
  have hqueued : pipeline.isSome = true → ∀ i r, Approvals.find x.2.records i = some r → r.status = .consumed →
      record? L d1 i = some r ∨ ∃ row, (L.outbox.get d1.store).row? i = some row ∧ Outbox.Carries H row r := by
    intro hp i r hr hs
    have hturn := transaction_turns (i := i) hx
    rw [hr] at hturn
    rcases hturn.consumed hs with hold | ⟨r0, later, -, huses⟩
    · exact .inl hold
    · exact absurd huses (hop hp r0 later)
  obtain ⟨h1, h2⟩ := hi.approvals hx (fun _ _ h => h) hqueued
  rw [hset] at h1 h2
  refine ⟨h1, h2, .ok (hM _ (L.approvals.get d1.store) _ ?_)⟩
  rw [L.approvals.get_set]
  exact hx

theorem enqueue_safe : Safe ok (contract H pipeline) me (OnOk fun r d => record? L d i = some r ∧ Settled r ∧
        (r.status = .consumed → ∃ row, (L.outbox.get d.store).row? i = some row ∧ Outbox.Carries H row r))
      (enqueue H L i pending clock) d := by
  refine Safe.write fun r d2 d1 hi _ _ hd => ?_
  obtain ⟨⟨r1, db, o⟩, hx, hd⟩ := Checks.ok_bind.mp hd
  cases hd
  obtain ⟨hres, hfind, ho⟩ := Pipeline.enqueue_resolves hx
  have hid : r.approvalId = i := id_of_find hfind
  have htransaction : transaction H (.resolveAfterReview i pending.requester pending.action pending.normalizedArguments
    clock.resolveNow clock.consumedAt) (L.approvals.get d1.store) = .ok (r, db) := hres
  have hgrow : ∀ j row, (L.outbox.get d1.store).row? j = some row → o.row? j = some row := by
    intro j row hrow
    rcases ho with ⟨-, rfl⟩ | ⟨-, row1, hins⟩
    · exact hrow
    · exact Outbox.row?_of_enqueued hins hrow
  have hcarries : r.status = .consumed → ∃ row, o.row? i = some row ∧ Outbox.Carries H row r := by
    intro hs
    rcases ho with ⟨hrej, -⟩ | ⟨-, row1, hins⟩
    · cases hs.symm.trans hrej
    · obtain ⟨h1, h2⟩ := Outbox.insertOrValidate_carries hins
      rw [hid] at h1
      exact ⟨row1, h1, h2⟩
  have hqueued : pipeline.isSome = true → ∀ j r1, Approvals.find db.records j = some r1 → r1.status = .consumed →
      record? L d1 j = some r1 ∨ ∃ row, o.row? j = some row ∧ Outbox.Carries H row r1 := by
    intro _ j r1 hr1 hs
    have hturn := transaction_turns (i := j) htransaction
    rw [hr1] at hturn
    rcases hturn.consumed hs with hold | ⟨r0, later, hr0, requester, action, arguments, now, -, hop⟩
    · exact .inl hold
    · -- the record used up is the one the operation is about
      have hij : j = i := by
        rw [← id_of_find hr0]
        rcases hop with hop | hop
        · cases hop
          rfl
        · cases hop
      subst hij
      rw [hfind] at hr1
      cases hr1
      exact .inr (hcarries hs)
  obtain ⟨h1, h2⟩ := hi.approvals htransaction hgrow hqueued
  refine ⟨h1, h2, .ok ⟨?_, ?_, ?_⟩⟩
  · simp only [record?, L.approvals_set_outbox, L.approvals.get_set]
    exact hfind
  · exact (resolve_settles hres).2
  · simp only [L.outbox.get_set]
    exact hcarries

/-- A delivery, for a record that is used up. -/
theorem deliver_safe (worker : Worker L) (hd : record? L d i = some r) (hs : Settled r) :
    Safe ok (contract H pipeline) me
      (fun a d => OnOk (fun _ => L.Executed i) a d.store ∧ record? L d i = some r)
      ((worker.deliver i crashAfterEffect).zoom store) d := by
  have hrely : ∀ d1 d2 : Desk σ, Agrees H pipeline d2 → record? L d1 i = some r → Evolves L d1 d2 →
      record? L d2 i = some r ∧ L.Grows d1.store d2.store := by
    intro d1 d2 _ hr he
    exact ⟨he.settled hr hs, he.toGrows⟩
  have hguar : ∀ (d1 : Desk σ) (s : σ), Agrees H pipeline d1 → record? L d1 i = some r → True →
      L.approvals.get s = L.approvals.get d1.store ∧ L.Grows d1.store s →
      Agrees H pipeline { d1 with store := s } ∧ Evolves L d1 { d1 with store := s } ∧
        record? L { d1 with store := s } i = some r := by
    intro d1 s hi hr _ hg
    obtain ⟨h1, h2⟩ := hi.elsewhere hg.1 hg.2
    exact ⟨h1, h2, h2.settled hr hs⟩
  exact Safe.zoom (C := contract H pipeline) (D := L.delivery) (L := store) (J := fun d => record? L d i = some r)
    (fun _ _ _ => trivial) hrely (fun _ _ _ => trivial) hguar hd (worker.safe me i crashAfterEffect d.store)

/-- The effect in the ledger is of the approval its row carries. -/
theorem Agrees.fulfilled (hd : Agrees H pipeline d) (hp : pipeline.isSome = true) (hr : record? L d i = some r)
    (hs : r.status = .consumed) (h : L.Executed i d.store) : ∃ l ∈ L.ledger d.store, l.Fulfils r := by
  obtain ⟨row, l, hrow, hl, h1, h2, h3, h4, h5⟩ := h
  obtain ⟨row1, hrow1, hcarries⟩ := hd.queued hp i r hr hs
  rw [hrow] at hrow1
  cases hrow1
  have hid : row.approvalId = i := Table.key_of_lookup hrow
  exact ⟨l, hl, h1.trans (hid.trans (id_of_find hr).symm), h2.trans hcarries.requesterUserId,
    h3.trans hcarries.tenantId, h4.trans hcarries.action, h5.trans hcarries.normalizedArguments⟩

/-- What a review goes on with is settled, and effective. -/
theorem resolve_safe (hd : Agrees H pipeline d) : Safe ok (contract H pipeline) me
      (OnOk fun r d => record? L d i = some r ∧ Settled r ∧ Effective pipeline d r)
      (resolve H pipeline i pending clock crashAfterEffect) d := by
  cases pipeline with
  | none =>
    have huses : ∀ op : Operation, (none : Option (Worker L)).isSome = true → ∀ r later, ¬ op.Uses H r later :=
      fun _ hp => by cases hp
    refine onApprovals_safe (huses (.resolveAfterReview i pending.requester pending.action pending.normalizedArguments
      clock.resolveNow clock.consumedAt)) fun r db d' h => ?_
    obtain ⟨h1, h2⟩ := resolve_settles h
    exact ⟨h1, h2, fun hp => by cases hp⟩
  | some worker =>
    have hdeliver : Safe ok (contract H (some worker)) me
        (OnOk fun x d => record? L d i = some x.1 ∧ Settled x.1 ∧ Effective (some worker) d x.1)
        (resolveAndDeliver H worker i pending clock crashAfterEffect) d := by
      refine Safe.bind_ok hd enqueue_safe fun r d1 hi1 henqueued => ?_
      obtain ⟨hr, hs, hrow⟩ := henqueued
      split
      · rename_i hrej
        refine Safe.pure (.ok ⟨hr, hs, fun _ hc => ?_⟩)
        cases hrej.symm.trans hc
      · refine Safe.guard fun hconsumed => ?_
        refine Safe.bind hi1 (deliver_safe worker hr hs) (fun a d2 hi2 hdone => ?_) fun _ _ _ _ => .error
        obtain ⟨hexecuted, hr2⟩ := hdone
        refine Safe.pure (.ok ⟨hr2, hs, fun hp hc => ?_⟩)
        exact hi2.fulfilled hp hr2 hc (hexecuted a rfl)
    exact Safe.bind_ok hd hdeliver fun x d1 _ h => Safe.pure (.ok h)

/-- A review that returns has completed the workflow itself. -/
theorem review_safe : Safe ok (contract H pipeline) me
      (OnOk fun _ d => ∃ x ∈ d.completions, x.approvalId = i ∧ x.client = me)
      (reviewAndResumeDurable H pipeline me i p decision clock crashAfterEffect) d := by
  refine Safe.ask fun pending d0 hi0 _ _ _ => ?_
  have hdecide : Safe ok (contract H pipeline) me (OnOk fun _ => Decided (L := L) i p decision)
      (onApprovals L fun db => DurableApprovalStore.decide i p decision clock.decideNow clock.decidedAt db) d0 := by
    have huses : ∀ r later, ¬ (Operation.decide i p decision clock.decideNow clock.decidedAt).Uses H r later := by
      intro r later h
      obtain ⟨_, _, _, _, -, hop | hop⟩ := h <;> cases hop
    refine onApprovals_safe (fun _ => huses) fun r db d' h => ?_
    obtain ⟨hr, hp, hid, hstatus⟩ := decide_records h
    refine ⟨r, hr, hp, hid, ?_⟩
    rcases hstatus with hstatus | ⟨hdec, hs | hs⟩
    · exact .inl hstatus
    · exact .inr ⟨hdec, .inl hs⟩
    · exact .inr ⟨hdec, .inr (.inl hs)⟩
  refine Safe.bind_ok hi0 hdecide fun _ d1 hi1 hdecided => ?_
  have hreviewed : Safe ok (contract H pipeline) me
      (OnOk fun r d => record? L d i = some r ∧ Settled r ∧ Effective pipeline d r)
      (resolve H pipeline i pending clock crashAfterEffect) d1 := resolve_safe hi1
  have hresolve := Safe.frame (K := Decided (L := L) i p decision) (fun _ _ _ he hK => hK.evolves he)
    (fun _ _ _ _ he hK => hK.evolves he) hdecided hreviewed
  refine Safe.bind hi1 hresolve (fun r d2 hi2 hresolved => ?_) fun _ _ _ _ => .error
  obtain ⟨hok, hdecided2⟩ := hresolved
  obtain ⟨hr, hs, heffect⟩ := hok r rfl
  have hrecorded : Recorded r p decision := hdecided2.recorded hr hs
  refine Safe.ofResult_bind (fun _ _ => .error) fun outcome houtcome => ?_
  have hends : Ends outcome.1 r := by
    unfold outcomeOf at houtcome
    split at houtcome
    · rename_i hrej
      cases houtcome
      exact .inr ⟨rfl, hrej⟩
    · split_ifs at houtcome with hconsumed
      cases houtcome
      exact .inl ⟨rfl, hconsumed⟩
  refine Safe.atomic_bind (fun _ _ _ _ _ _ => .error) fun _ d4 d3 hi3 he3 _ hcomplete => ?_
  obtain ⟨y, hx, he⟩ := Data.Checks.ok_bind.mp hcomplete
  cases he
  obtain ⟨h1, h2⟩ := hi3.completes (x := ⟨i, me, p, decision, outcome.1⟩) (he3.settled hr hs) hrecorded hends
    (heffect.grows he3.toGrows) hx
  exact ⟨h1, h2, Safe.pure (.ok ⟨_, List.mem_append_right _ (List.mem_singleton_self _), rfl, rfl⟩)⟩

end Calls

/-! ## Any run -/

/-- The call is a review of this approval. -/
def Call.Reviews (i : String) : Call γ → Prop
  | .review approvalId .. => approvalId = i
  | _ => False

/-- Every call keeps the contract, and a review that returned has its entry. -/
theorem body_safe (me : Nat) (k : Call γ) (hk : ¬ k.Consumes) (hd : Agrees H pipeline d) :
    Safe (system H pipeline).ok (contract H pipeline) me
      (fun a d => k.Reviews i → OnOk (fun _ d => ∃ x ∈ d.completions, x.approvalId = i ∧ x.client = me) a d)
      (body H pipeline me k) d := by
  cases k with
  | approvals op =>
    have hop : pipeline.isSome = true → ∀ r later, ¬ op.Uses H r later := by
      intro _ r later h
      obtain ⟨requester, action, arguments, now, -, rfl | rfl⟩ := h
      · exact hk trivial
      · exact hk trivial
    exact Safe.bind hd (onApprovals_safe (M := fun _ _ => True) hop fun _ _ _ _ => trivial)
      (fun _ _ _ _ => Safe.pure fun h => h.elim) fun _ _ _ _ h => h.elim
  | change x =>
    refine Safe.modify_bind fun d1 hi _ _ => ?_
    have hgrows : L.Grows d1.store (L.change x d1.store) := by
      refine ⟨fun i row hrow => ⟨row, ?_, .refl row⟩, fun l hl => ?_⟩
      · rw [L.outbox_change]
        exact hrow
      · rw [L.ledger_change]
        exact hl
    obtain ⟨h1, h2⟩ := hi.elsewhere (L.approvals_change x d1.store) hgrows
    exact ⟨h1, h2, Safe.pure fun h => h.elim⟩
  | review j p decision clock crashAfterEffect =>
    refine Safe.bind hd review_safe (fun a d1 _ hdone => Safe.pure fun hj => ?_) fun _ _ _ _ _ => .error
    have hij : j = i := hj
    subst hij
    exact .ok (hdone a rfl)

theorem agrees_of_init (hd : (system H pipeline).init d) : Agrees H pipeline d := by
  obtain ⟨hdb, hnone⟩ := hd
  have hrecord : ∀ i r, record? L d i ≠ some r := by
    intro i r h
    rw [record?, hdb] at h
    cases h
  have hworkflow : ∀ i row, workflow? L d i ≠ some row := by
    intro i row h
    rw [workflow?, hdb] at h
    cases h
  refine ⟨fun i r h => absurd h (hrecord i r), fun i row h => absurd h (hworkflow i row),
    fun _ i r h => absurd h (hrecord i r), ?_, fun x hx => ?_, fun i row h => absurd h (hworkflow i row)⟩
  · rw [hnone]
    exact List.nodup_nil
  · rw [hnone] at hx
    cases hx

theorem apart_of_evolves (i j : Nat) (d d' : Desk σ) (_ : i ≠ j) (_ : (contract H pipeline).inv d)
    (_ : (contract H pipeline).inv d') (h : (contract H pipeline).guar j d d') : (contract H pipeline).rely i d d' := h

variable (H pipeline) in
theorem system_meets : (system H pipeline).Meets (contract H pipeline) fun _ _ _ => True where
  init _ := agrees_of_init
  body me k _ hk hd := (body_safe (i := "") me k hk hd).mono hd fun _ _ _ _ => trivial
  apart := .inr apart_of_evolves
  stable _ _ _ _ _ _ _ _ h := h

section Runs

variable {c c' : Conf (Call γ) Label (Desk σ) Error Answer}

theorem agrees_reach (hc : (system H pipeline).Reach c) : Agrees H pipeline c.st := (system_meets H pipeline).inv hc

theorem evolves_later (hc : (system H pipeline).Reach c) (h : (system H pipeline).Later c c') : Evolves L c.st c'.st :=
  (system_meets H pipeline).later (Evolves L) .refl .trans id hc h

/-- This client reviewed this approval and its call returned normally. -/
def Returned (c : Conf (Call γ) Label (Desk σ) Error Answer) (n : Nat) (i : String) : Prop :=
  ∃ k a, c.clients[n]? = some (.returned k (.ok a)) ∧ k.Reviews i

theorem Returned.completion (hc : (system H pipeline).Reach c) {n : Nat} (h : Returned c n i) :
    ∃ x ∈ c.st.completions, x.approvalId = i ∧ x.client = n := by
  obtain ⟨k, a, hn, hk⟩ := h
  have hdone := (system_meets H pipeline).returned_at apart_of_evolves
    (Q := fun n k a d => k.Reviews i → OnOk (fun _ d => ∃ x ∈ d.completions, x.approvalId = i ∧ x.client = n) a d)
    (fun n k j a d d' _ _ he hQ hk b hb => ?_) (fun n k _ hk hd => body_safe n k hk hd) hc hn
  · exact hdone hk a rfl
  · obtain ⟨x, hx, hid, hclient⟩ := hQ hk b hb
    exact ⟨x, he.completions x hx, hid, hclient⟩

end Runs

/-! ## A review running by itself -/

section Alone

variable {client : Nat} {clock : Clock} {pending : WorkflowRow} {crashAfterEffect : Bool} {p : Principal}
  {decision : ApprovalDecision}

/-- Where it is called, the worker delivers. -/
def Delivers (worker : Worker L) (i : String) (crashAfterEffect : Bool) (d : Desk σ) : Prop :=
  ∃ execution s, (worker.deliver i crashAfterEffect).run d.store = (.ok execution, s)

theorem onApprovals_repeats {f : ApprovalDb → Except Error (ApprovalRecord × ApprovalDb)}
    (h : f (L.approvals.get d.store) = .ok (r, L.approvals.get d.store)) : (onApprovals L f).run d = (.ok r, d) := by
  refine run_atomic_eq_ok.mpr ?_
  simp only [h, bind, Except.bind, L.approvals.set_get]
  rfl

theorem enqueue_repeats (hd : Agrees H pipeline d) (hp : pipeline.isSome = true) (hr : record? L d i = some r)
    (hs : Settled r) (hawaits : pending.Awaits H r) : (enqueue H L i pending clock).run d = (.ok r, d) := by
  have hresolved : Outbox.resolveAfterReviewAndEnqueue H i pending.requester pending.action pending.normalizedArguments
      clock.resolveNow clock.consumedAt (L.approvals.get d.store) (L.outbox.get d.store) =
        .ok (r, L.approvals.get d.store, L.outbox.get d.store) := by
    have hverified : verifyBinding H r pending.requester pending.action pending.normalizedArguments = .ok () :=
      verified_of_matches hawaits
    unfold Outbox.resolveAfterReviewAndEnqueue
    simp only [loadLocked_final hr hs.final, hverified, bind, Except.bind]
    rcases hs with hs | hs
    · rw [if_pos hs]
    · obtain ⟨row, hrow, hcarries⟩ := hd.queued hp i r hr hs
      rw [← id_of_find hr] at hrow
      rw [if_neg (by rw [hs]; decide), if_pos hs, Outbox.insertOrValidate_repeats hrow hcarries]
  refine run_atomic_eq_ok.mpr ?_
  simp only [hresolved, bind, Except.bind, L.approvals.set_get, L.outbox.set_get]
  rfl

/-- A delivery leaves the approvals alone. -/
theorem deliver_keeps (worker : Worker L) (d : Desk σ) :
    L.approvals.get ((worker.deliver i crashAfterEffect).run d.store).2 = L.approvals.get d.store :=
  Safe.run_guar (C := L.delivery) (T := fun s s' => L.approvals.get s' = L.approvals.get s) (fun _ => rfl)
    (fun h h' => h'.trans h) (fun _ _ h => h.1) (fun _ _ => trivial) trivial (worker.safe 0 i crashAfterEffect d.store)

theorem resolve_repeats (hd : Agrees H pipeline d) (hr : record? L d i = some r) (hs : Settled r)
    (hawaits : pending.Awaits H r)
    (hdeliver : ∀ worker, pipeline = some worker → r.status = .consumed → Delivers worker i crashAfterEffect d) :
    ∃ d', (resolve H pipeline i pending clock crashAfterEffect).run d = (.ok r, d') ∧
      L.approvals.get d'.store = L.approvals.get d.store := by
  cases pipeline with
  | none => exact ⟨d, onApprovals_repeats (resolve_repeats hr hs hawaits), rfl⟩
  | some worker =>
    have henqueue : (enqueue H L i pending clock).run d = (.ok r, d) := enqueue_repeats hd rfl hr hs hawaits
    rcases hs with hs | hs
    · have hdelivered : (resolveAndDeliver H worker i pending clock crashAfterEffect).run d = (.ok (r, none), d) := by
        unfold resolveAndDeliver
        rw [run_bind_ok henqueue, if_pos hs]
        rfl
      exact ⟨d, run_bind_ok hdelivered, rfl⟩
    · obtain ⟨execution, s, hrun⟩ := hdeliver worker rfl hs
      refine ⟨{ d with store := s }, ?_, ?_⟩
      · have hraise : (raiseIf (r.status ≠ .consumed) (Error.approvalState "unexpected approval status before effect delivery") :
            Prog Label (Desk σ) Error Unit).run d = (.ok (), d) := by
          rw [run_raiseIf, if_neg (not_not_intro hs)]
        have hzoom : ((worker.deliver i crashAfterEffect).zoom store).run d = (.ok execution, { d with store := s }) := by
          rw [run_zoom, show (worker.deliver i crashAfterEffect).run (store.get d) = (.ok execution, s) from hrun]
          rfl
        have hdelivered : (resolveAndDeliver H worker i pending clock crashAfterEffect).run d =
            (.ok (r, some execution), { d with store := s }) := by
          unfold resolveAndDeliver
          rw [run_bind_ok henqueue, if_neg (by rw [hs]; decide), run_bind_ok hraise, run_bind_ok hzoom]
          rfl
        exact run_bind_ok hdelivered
      · have hkeeps : L.approvals.get ((worker.deliver i crashAfterEffect).run d.store).2 = _ := deliver_keeps worker d
        rw [hrun] at hkeeps
        exact hkeeps

/-- The recorded approver, with the recorded decision, completes the workflow. -/
theorem review_completes (hd : Agrees H pipeline d) (hrow : workflow? L d i = some row) (hopen : row.completed = false)
    (hr : record? L d i = some r) (hrecorded : Recorded r p decision)
    (hdeliver : ∀ worker, pipeline = some worker → r.status = .consumed → Delivers worker i crashAfterEffect d) :
    ∃ a d' row' outcome, (reviewAndResumeDurable H pipeline client i p decision clock crashAfterEffect).run d = (.ok a, d') ∧
      workflow? L d' i = some row' ∧ row'.completed = true ∧ row'.finalOutcome = some outcome ∧ Ends outcome r ∧
      record? L d' i = some r := by
  have hs := hrecorded.settled
  obtain ⟨r1, hr1, hawaits⟩ := hd.awaited i row hrow
  rw [hr] at hr1
  cases hr1
  obtain ⟨d1, hresolve, hsame⟩ : ∃ d', (resolve H pipeline i row clock crashAfterEffect).run d = (.ok r, d') ∧ _ :=
    resolve_repeats hd hr hs hawaits hdeliver
  obtain ⟨outcome, status, houtcome, hends⟩ : ∃ outcome status, outcomeOf r = .ok (outcome, status) ∧ Ends outcome r := by
    unfold outcomeOf
    rcases hs with hs | hs
    · rw [if_pos hs]
      exact ⟨_, _, rfl, .inr ⟨rfl, hs⟩⟩
    · rw [if_neg (by rw [hs]; decide), if_pos hs]
      exact ⟨_, _, rfl, .inl ⟨rfl, hs⟩⟩
  have hrow1 : Approvals.workflow? (L.approvals.get d1.store) i = some row := by
    rw [hsame]
    exact hrow
  obtain ⟨db, hcomplete⟩ : ∃ db', DurableWorkflowStore.complete i outcome clock.completedAt (L.approvals.get d1.store) =
      .ok (closed row outcome clock.completedAt, db') :=
    complete_of hrow1 hopen
  obtain ⟨row1, hfound, -, hrecords, hclosed, -⟩ := complete_ok hcomplete
  rw [hrow1] at hfound
  cases hfound
  have hlast : (complete L ⟨i, client, p, decision, outcome⟩ clock.completedAt).run d1 =
      (.ok (), ⟨L.approvals.set db d1.store, d1.completions ++ [⟨i, client, p, decision, outcome⟩]⟩) := by
    refine run_atomic_eq_ok.mpr ?_
    simp only [hcomplete, bind, Except.bind]
    rfl
  have hpending : (query Label.step fun d : Desk σ =>
      requirePending i (L.approvals.get d.store)).run d = (.ok row, d) := by
    rw [run_query, requirePending_of hrow hopen]
  have hdecide := onApprovals_repeats (L := L) (d := d) (f := fun db =>
    DurableApprovalStore.decide i p decision clock.decideNow clock.decidedAt db)
    (decide_repeats hr hrecorded)
  refine ⟨⟨row.action, ⟨r.approvalId, r.action, r.status, r.expiresAt⟩, row.toolCalls, status, i⟩,
    ⟨L.approvals.set db d1.store, d1.completions ++ [⟨i, client, p, decision, outcome⟩]⟩,
    closed row outcome clock.completedAt, outcome, ?_, ?_, rfl, rfl, hends, ?_⟩
  · unfold reviewAndResumeDurable
    rw [run_bind_ok hpending, run_bind_ok hdecide, run_bind_ok hresolve, houtcome, run_bind_ok (run_ofResult _ _)]
    exact run_bind_ok hlast
  · rw [workflow?, L.approvals.get_set]
    exact hclosed
  · rw [record?, L.approvals.get_set, hrecords, hsame]
    exact hr

/-- Another approver, or another decision, is refused and changes nothing. -/
theorem review_refuses (hrow : workflow? L d i = some row) (hopen : row.completed = false) (hr : record? L d i = some r)
    (hs : Settled r) (h : ¬ Recorded r p decision) :
    ∃ e, (reviewAndResumeDurable H pipeline client i p decision clock crashAfterEffect).run d = (.error e, d) := by
  obtain ⟨e, he⟩ : ∃ e, DurableApprovalStore.decide i p decision clock.decideNow clock.decidedAt
      (L.approvals.get d.store) = .error e := decide_refuses hr hs h
  have hpending : (query Label.step fun d : Desk σ =>
      requirePending i (L.approvals.get d.store)).run d = (.ok row, d) := by
    rw [run_query, requirePending_of hrow hopen]
  have hdecide : (onApprovals L fun db =>
      DurableApprovalStore.decide i p decision clock.decideNow clock.decidedAt db).run d = (.error e, d) := by
    refine run_atomic_error ?_
    simp only [he, bind, Except.bind]
  refine ⟨e, ?_⟩
  unfold reviewAndResumeDurable
  rw [run_bind_ok hpending]
  exact run_bind_error hdecide

end Alone

/-! ## The agreement -/

section Agreement

variable (H) (pipeline) (c : Conf (Call γ) Label (Desk σ) Error Answer) (i : String)

/-- A settled approval, as long as its workflow is pending: its decision is recorded, and a review
    that repeats it, when a delivery it needs succeeds, completes the workflow with its outcome; a
    review with any other approver or decision is refused; and whoever completes the workflow later
    repeated it. -/
structure Resumable (r : ApprovalRecord) : Prop where
  recorded : ∃ p decision, Recorded r p decision
  repeats : ∀ client p decision clock crashAfterEffect, Recorded r p decision →
    (∀ worker, pipeline = some worker → r.status = .consumed → Delivers worker i crashAfterEffect c.st) →
    ∃ a d row outcome, (reviewAndResumeDurable H pipeline client i p decision clock crashAfterEffect).run c.st = (.ok a, d) ∧
      workflow? L d i = some row ∧ row.completed = true ∧ row.finalOutcome = some outcome ∧ Ends outcome r ∧
      record? L d i = some r
  others : ∀ client p decision clock crashAfterEffect, ¬ Recorded r p decision →
    ∃ e, (reviewAndResumeDurable H pipeline client i p decision clock crashAfterEffect).run c.st = (.error e, c.st)
  completed : ∀ c', (system H pipeline).Later c c' → ∀ x ∈ c'.st.completions, x.approvalId = i →
    Recorded r x.approver x.decision

/-- A completed workflow and its approval stay as they are, and a review made at any time from now on
    is one read and an error. -/
structure Closed (row : WorkflowRow) : Prop where
  record : ∀ c', (system H pipeline).Later c c' → record? L c'.st i = record? L c.st i
  workflow : ∀ c', (system H pipeline).Later c c' → workflow? L c'.st i = some row
  raises : ∀ client p decision clock crashAfterEffect, ∃ next,
    reviewAndResumeDurable H pipeline client i p decision clock crashAfterEffect = .txn .step id next ∧
      ∀ c', (system H pipeline).Later c c' →
        next c'.st = .done (.error (.approvalState "approval workflow is already completed"))

/-- However reviews of any approvals are interleaved with each other, with the making, reading and
    deciding of approvals and with changes of the rest, and wherever they stop: at most one review of
    an approval returns; a workflow is completed as approved only with its approval used up, and with
    a pipeline its effect in the ledger, and as rejected only with its approval rejected; from when an
    approval is rejected or used up it stays so, and as long as its workflow is pending the recorded
    decision, and no other, completes it; and from when the workflow is completed nothing changes. -/
theorem workflow_agrees {c : Conf (Call γ) Label (Desk σ) Error Answer} (hc : (system H pipeline).Reach c) :
    (∀ n m, Returned c n i → Returned c m i → n = m) ∧
    (∀ row, workflow? L c.st i = some row → row.completed = true → ∃ r outcome, record? L c.st i = some r ∧
      row.finalOutcome = some outcome ∧ Ends outcome r ∧ Effective pipeline c.st r) ∧
    (∀ r, record? L c.st i = some r → Settled r → ∀ c', (system H pipeline).Later c c' → record? L c'.st i = some r ∧
      ∀ row, workflow? L c'.st i = some row → row.completed = false → Resumable H pipeline c' i r) ∧
    ∀ row, workflow? L c.st i = some row → row.completed = true → Closed H pipeline c i row := by
  have hi := agrees_reach hc
  refine ⟨fun n m hn hm => ?_, fun row hrow hc => ?_, fun r hr hs c' hl => ?_, fun row hrow hclosed => ?_⟩
  · obtain ⟨x, hx, hxi, hxn⟩ := hn.completion hc
    obtain ⟨y, hy, hyi, hym⟩ := hm.completion hc
    have hxy : x = y := List.inj_on_of_nodup_map hi.once hx hy (hxi.trans hyi.symm)
    rw [← hxn, ← hym, hxy]
  · obtain ⟨x, hx, hid⟩ := hi.completed i row hrow hc
    obtain ⟨row1, r, hrow1, -, houtcome, hr, -, hends, heffect⟩ := hi.concluded x hx
    rw [hid] at hrow1 hr
    rw [hrow] at hrow1
    cases hrow1
    exact ⟨r, x.outcome, hr, houtcome, hends, heffect⟩
  · have hr' := (evolves_later hc hl).settled hr hs
    have hc' := hc.later hl
    have hi' := agrees_reach hc'
    refine ⟨hr', fun row hrow hopen => ⟨(hi'.sound i r hr').recorded hs, ?_, ?_, ?_⟩⟩
    · exact fun client p decision clock crashAfterEffect hrecorded hdeliver =>
        review_completes hi' hrow hopen hr' hrecorded hdeliver
    · exact fun client p decision clock crashAfterEffect h => review_refuses hrow hopen hr' hs h
    · intro c2 hl2 x hx hid
      obtain ⟨-, r2, -, -, -, hr2, hrecorded, -⟩ := (agrees_reach (hc'.later hl2)).concluded x hx
      rw [hid, (evolves_later hc' hl2).settled hr' hs] at hr2
      cases hr2
      exact hrecorded
  · have hworkflow : ∀ c', (system H pipeline).Later c c' → workflow? L c'.st i = some row :=
      fun c' hl => (evolves_later hc hl).closed hrow hclosed
    obtain ⟨x, hx, hid⟩ := hi.completed i row hrow hclosed
    obtain ⟨-, r, -, -, -, hr, hrecorded, -⟩ := hi.concluded x hx
    rw [hid] at hr
    refine ⟨fun c' hl => ?_, hworkflow, fun client p decision clock crashAfterEffect => ⟨_, rfl, fun c' hl => ?_⟩⟩
    · rw [hr]
      exact (evolves_later hc hl).settled hr hrecorded.settled
    · show Prog.andThen (.done (requirePending i (L.approvals.get c'.st.store))) _ = _
      rw [requirePending_closed (hworkflow c' hl) hclosed]
      rfl

end Agreement

/-! ## A run -/

namespace Sample

def approver : Principal := ⟨"bob", "tenant", [.adminApprover]⟩

def desk : Desk Pipeline := ⟨Pipeline.Sample.world, []⟩

/-- An access is approved and its effect recorded, and the worker dies before it says so. -/
def interrupted : List (System.Move (Call (AuthorizationState → AuthorizationState))) :=
  [.call (.approvals (.create "apr" "nonce" Pipeline.Sample.requester .requestAccess Pipeline.Sample.arguments
      (some ⟨"thread", "trace", 1⟩) 0 Pipeline.Sample.ttl)), .txn 0, .ret 0,
    .call (.review "apr" approver .approve ⟨10, 11, 12, 13, 14⟩ true), .txn 1, .txn 1, .txn 1, .txn 1, .txn 1, .txn 1, .ret 1]

/-- The review is made again, long after the approval would have expired. -/
def repeated : List (System.Move (Call (AuthorizationState → AuthorizationState))) :=
  [.call (.review "apr" approver .approve ⟨9000, 9001, 9002, 9003, 9004⟩ false), .txn 2, .txn 2, .txn 2, .txn 2, .txn 2, .txn 2,
    .txn 2, .txn 2, .ret 2]

end Sample

theorem workflow_agrees_repeated : ∃ c c' : Conf (Call (AuthorizationState → AuthorizationState)) Label (Desk Pipeline) Error Answer,
    (system Hashing.light (some revalidatingDurableEffectWorker)).Later c c' ∧
      (∃ r, record? Pipeline.layout c.st "apr" = some r ∧ Resumable Hashing.light (some revalidatingDurableEffectWorker) c "apr" r) ∧
      ∃ row r, Closed Hashing.light (some revalidatingDurableEffectWorker) c' "apr" row ∧
        row.finalOutcome = some "approved" ∧ ∃ l ∈ c'.st.store.effects.ledger, l.Fulfils r := by
  obtain ⟨c, c', hc, hl, hr, hopen, hstatus, hrow, hdone⟩ := System.exec_find₂
    (S := system Hashing.light (some revalidatingDurableEffectWorker)) (s := Sample.desk) Sample.interrupted Sample.repeated
    (fun c c' => ((record? Pipeline.layout c.st "apr").map (·.status) = some .consumed ∧
      (workflow? Pipeline.layout c.st "apr").map (·.completed) = some false ∧
      (record? Pipeline.layout c'.st "apr").map (·.status) = some .consumed ∧
      (workflow? Pipeline.layout c'.st "apr").map (·.completed) = some true ∧
      (workflow? Pipeline.layout c'.st "apr").map (·.finalOutcome) = some (some "approved")))
    ⟨rfl, rfl⟩ (by decide +kernel)
  obtain ⟨r, hr, hs⟩ := Option.map_eq_some_iff.mp hr
  obtain ⟨row, hrow0, hopen⟩ := Option.map_eq_some_iff.mp hopen
  obtain ⟨row', hrow', hclosed⟩ := Option.map_eq_some_iff.mp hrow
  obtain ⟨row1, hrow1, houtcome⟩ := Option.map_eq_some_iff.mp hdone
  rw [hrow'] at hrow1
  cases hrow1
  obtain ⟨-, -, hsettled, -⟩ := workflow_agrees Hashing.light (some revalidatingDurableEffectWorker) "apr" hc
  obtain ⟨-, hcompleted, -, hclosing⟩ := workflow_agrees Hashing.light (some revalidatingDurableEffectWorker) "apr" (hc.later hl)
  obtain ⟨hsame, hresumable⟩ := hsettled r hr (.inr hs) c .refl
  obtain ⟨r', outcome, hr', hout, hends, heffect⟩ := hcompleted row' hrow' hclosed
  refine ⟨c, c', hl, ⟨r, hr, hresumable row hrow0 hopen⟩, row', r', hclosing row' hrow' hclosed, houtcome, heffect rfl ?_⟩
  rw [hr', Option.map_some] at hstatus
  exact Option.some.inj hstatus

end AgentRunner

end Aegis.Effects
