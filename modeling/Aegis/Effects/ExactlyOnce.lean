/-
  Aegis.Effects.ExactlyOnce — approved effects happen at most once, and only as approved.

  `Consistent` ties the tables together: an effect is of a queued row, a row is of an approval
  used up, an approval has no effect and a denial both, and a row is closed only for its effect
  or its denial. Rows keep what they bind, ledger and denials only grow (`Grows`), so what a
  worker learnt before it is interrupted still holds when it goes on.
-/

import Aegis.Approvals.Authority
import Aegis.Effects.Revalidation
import Aegis.Txn.Safe

namespace Aegis.Effects.Pipeline

open Data Txn Txn.Prog
open Approvals Approvals.DurableApprovalStore
open Data.Checks (ok_bind)

variable (H : Hashing)

structure Consistent (w : Pipeline) : Prop where
  outboxIds : (w.outbox.map OutboxRecord.approvalId).Nodup
  approved : ∀ row ∈ w.outbox, ∃ r, find w.approvals.records row.approvalId = some r ∧ r.status = .consumed ∧
    Outbox.Carries H row r
  ledgerIds : (w.effects.ledger.map LedgerRow.approvalId).Nodup
  queued : ∀ l ∈ w.effects.ledger, ∃ row ∈ w.outbox, l.IsOf row
  apart : ∀ l ∈ w.effects.ledger, ∀ d ∈ w.effects.denials, d.approvalId ≠ l.approvalId
  completed : ∀ row ∈ w.outbox, row.status = .completed → ∃ l ∈ w.effects.ledger, l.approvalId = row.approvalId
  cancelled : ∀ row ∈ w.outbox, row.status = .cancelled → ∃ d ∈ w.effects.denials, d.approvalId = row.approvalId

/-- Rows keep what they bind; effects and denials stay. -/
structure Grows (w w' : Pipeline) : Prop where
  outbox : ∀ row ∈ w.outbox, ∃ row' ∈ w'.outbox, Outbox.Bound row row'
  ledger : ∀ l ∈ w.effects.ledger, l ∈ w'.effects.ledger
  denials : ∀ d ∈ w.effects.denials, d ∈ w'.effects.denials

theorem Grows.refl (w : Pipeline) : Grows w w :=
  ⟨fun row hrow => ⟨row, hrow, .refl row⟩, fun _ h => h, fun _ h => h⟩

theorem Grows.trans {a b c : Pipeline} (h : Grows a b) (h' : Grows b c) : Grows a c := by
  refine ⟨fun row hrow => ?_, fun l hl => h'.ledger l (h.ledger l hl), fun d hd => h'.denials d (h.denials d hd)⟩
  obtain ⟨row1, h1, hb1⟩ := h.outbox row hrow
  obtain ⟨row2, h2, hb2⟩ := h'.outbox row1 h1
  exact ⟨row2, h2, hb1.trans hb2⟩

def contract : Contract Pipeline where
  inv := Consistent H
  rely _ := Grows
  guar _ := Grows
  rely_refl _ := .refl
  rely_trans := .trans
  guar_refl _ w _ := .refl w

variable {H} {w : Pipeline}

/-! ## One transaction -/

variable {i : String} {r : ApprovalRecord} {db db' : ApprovalDb} {action : ApprovalAction} {record : OutboxRecord}

section

variable (h : Consistent H w)
include h

/-- A change of the outbox that keeps what rows bind and closes them only with reason. -/
theorem Consistent.update {f : OutboxRecord → OutboxRecord} (hf : ∀ row, Outbox.Bound row (f row))
    (hcompleted : ∀ row ∈ w.outbox, row.approvalId = i → (f row).status = .completed →
      ∃ l ∈ w.effects.ledger, l.approvalId = i)
    (hcancelled : ∀ row ∈ w.outbox, row.approvalId = i → (f row).status = .cancelled →
      ∃ d ∈ w.effects.denials, d.approvalId = i) :
    Consistent H { w with outbox := Table.update OutboxRecord.approvalId w.outbox i f } ∧
      Grows w { w with outbox := Table.update OutboxRecord.approvalId w.outbox i f } := by
  have hmem : ∀ row ∈ w.outbox, ∃ row' ∈ Table.update OutboxRecord.approvalId w.outbox i f, Outbox.Bound row row' := by
    intro row hrow
    refine ⟨_, List.mem_map_of_mem hrow, ?_⟩
    split
    · exact hf row
    · exact .refl row
  refine ⟨⟨?_, ?_, h.ledgerIds, ?_, h.apart, ?_, ?_⟩, ⟨hmem, fun _ h => h, fun _ h => h⟩⟩
  · rw [Table.map_key_update fun row hrow => (hf row).approvalId.trans hrow]
    exact h.outboxIds
  · intro row hrow
    rcases Table.mem_update hrow with ⟨hold, -⟩ | ⟨row0, h0, -, rfl⟩
    · exact h.approved row hold
    · obtain ⟨r, h1, h2, h3⟩ := h.approved row0 h0
      exact ⟨r, by rw [(hf row0).approvalId]; exact h1, h2, h3.bound (hf row0)⟩
  · intro l hl
    obtain ⟨row, hrow, h1, h2, h3, h4, h5⟩ := h.queued l hl
    obtain ⟨row', hrow', hb⟩ := hmem row hrow
    exact ⟨row', hrow', h1.trans hb.1.symm, h2.trans hb.3.symm, h3.trans hb.4.symm, h4.trans hb.5.symm, h5.trans hb.6.symm⟩
  · intro row hrow hs
    rcases Table.mem_update hrow with ⟨hold, -⟩ | ⟨row0, h0, hid, rfl⟩
    · exact h.completed row hold hs
    · rw [(hf row0).approvalId, hid]
      exact hcompleted row0 h0 hid hs
  · intro row hrow hs
    rcases Table.mem_update hrow with ⟨hold, -⟩ | ⟨row0, h0, hid, rfl⟩
    · exact h.cancelled row hold hs
    · rw [(hf row0).approvalId, hid]
      exact hcancelled row0 h0 hid hs

theorem Consistent.attempted (i : String) :
    Consistent H { w with outbox := Table.update OutboxRecord.approvalId w.outbox i Outbox.attempted } ∧
      Grows w { w with outbox := Table.update OutboxRecord.approvalId w.outbox i Outbox.attempted } :=
  h.update Outbox.bound_attempted (fun row hrow hid hs => hid ▸ h.completed row hrow hs)
    fun row hrow hid hs => hid ▸ h.cancelled row hrow hs

theorem Consistent.acknowledged (he : ∃ l ∈ w.effects.ledger, l.approvalId = i) :
    Consistent H { w with outbox := Table.update OutboxRecord.approvalId w.outbox i Outbox.acknowledged } ∧
      Grows w { w with outbox := Table.update OutboxRecord.approvalId w.outbox i Outbox.acknowledged } := by
  refine h.update Outbox.bound_acknowledged (fun _ _ _ _ => he) fun row hrow hid hs => ?_
  unfold Outbox.acknowledged at hs
  split_ifs at hs
  exact hid ▸ h.cancelled row hrow hs

theorem Consistent.withdrawn (hd : ∃ d ∈ w.effects.denials, d.approvalId = i) :
    Consistent H { w with outbox := Table.update OutboxRecord.approvalId w.outbox i Outbox.withdrawn } ∧
      Grows w { w with outbox := Table.update OutboxRecord.approvalId w.outbox i Outbox.withdrawn } := by
  refine h.update Outbox.bound_withdrawn (fun row hrow hid hs => ?_) fun _ _ _ _ => hd
  unfold Outbox.withdrawn at hs
  split_ifs at hs
  exact hid ▸ h.completed row hrow hs

/-- A new row, for an approval just used up. -/
theorem Consistent.enqueue (hr : find w.approvals.records r.approvalId = some r) (hs : r.status = .consumed)
    (hnew : Outbox.row? w.outbox r.approvalId = none) :
    Consistent H { w with outbox := w.outbox ++ [Outbox.rowOf H r] } ∧
      Grows w { w with outbox := w.outbox ++ [Outbox.rowOf H r] } := by
  refine ⟨⟨?_, ?_, h.ledgerIds, ?_, h.apart, ?_, ?_⟩,
    ⟨fun row hrow => ⟨row, List.mem_append_left _ hrow, .refl row⟩, fun _ h => h, fun _ h => h⟩⟩
  · exact Table.nodup_append h.outboxIds hnew
  · intro row hrow
    rcases List.mem_append.mp hrow with hrow | hrow
    · exact h.approved row hrow
    · rw [List.mem_singleton.mp hrow]
      exact ⟨r, hr, hs, ⟨rfl, rfl, rfl, rfl, rfl⟩⟩
  · intro l hl
    obtain ⟨row, hrow, hof⟩ := h.queued l hl
    exact ⟨row, List.mem_append_left _ hrow, hof⟩
  · intro row hrow hst
    rcases List.mem_append.mp hrow with hrow | hrow
    · exact h.completed row hrow hst
    · rw [List.mem_singleton.mp hrow] at hst
      cases hst
  · intro row hrow hst
    rcases List.mem_append.mp hrow with hrow | hrow
    · exact h.cancelled row hrow hst
    · rw [List.mem_singleton.mp hrow] at hst
      cases hst

/-- Operations on the approvals leave alone those used up. -/
theorem Consistent.approvals (hkeep : ∀ i r, find w.approvals.records i = some r → r.status = .consumed →
      find db.records i = some r) :
    Consistent H { w with approvals := db } ∧ Grows w { w with approvals := db } := by
  refine ⟨⟨h.outboxIds, fun row hrow => ?_, h.ledgerIds, h.queued, h.apart, h.completed, h.cancelled⟩,
    ⟨fun row hrow => ⟨row, hrow, .refl row⟩, fun _ h => h, fun _ h => h⟩⟩
  obtain ⟨r, h1, h2, h3⟩ := h.approved row hrow
  exact ⟨r, hkeep _ r h1 h2, h2, h3⟩

end

variable (w) in
/-- The delivery is of a row of the outbox. -/
def Delivers (record : OutboxRecord) : Prop := ∃ row ∈ w.outbox, Outbox.Bound record row

theorem Delivers.grows {w' : Pipeline} (h : w.Delivers record) (hg : Grows w w') : w'.Delivers record := by
  obtain ⟨row, hrow, hb⟩ := h
  obtain ⟨row', hrow', hb'⟩ := hg.outbox row hrow
  exact ⟨row', hrow', hb.trans hb'⟩

/-- What a service's transaction leaves. -/
theorem Consistent.executes {failure : Option ExecutionReason} {v : Verdict ExecutionReason}
    {t : EffectTables ExecutionReason} (h : Consistent H w) (hd : w.Delivers record)
    (he : EffectTables.Executes failure record w.effects v t) :
    Consistent H { w with effects := t } ∧ Grows w { w with effects := t } ∧ match v with
      | .executed _ => ∃ l ∈ t.ledger, l.approvalId = record.approvalId
      | .denied _ => ∃ d ∈ t.denials, d.approvalId = record.approvalId := by
  cases he with
  | again l hl hof => exact ⟨h, .refl w, l, hl, hof.1⟩
  | deniedAgain d hmem hid => exact ⟨h, .refl w, d, hmem, hid⟩
  | deny reason _ hfree =>
    refine ⟨⟨h.outboxIds, h.approved, h.ledgerIds, h.queued, ?_, h.completed, ?_⟩,
      ⟨fun row hrow => ⟨row, hrow, .refl row⟩, fun _ h => h, fun _ h => List.mem_append_left _ h⟩,
      _, List.mem_append_right _ (List.mem_singleton_self _), rfl⟩
    · intro l hl d hmem
      rcases List.mem_append.mp hmem with hmem | hmem
      · exact h.apart l hl d hmem
      · rw [List.mem_singleton.mp hmem]
        exact (hfree l hl).symm
    · intro row hrow hs
      obtain ⟨d, hmem, hid⟩ := h.cancelled row hrow hs
      exact ⟨d, List.mem_append_left _ hmem, hid⟩
  | execute _ hfree hclear =>
    refine ⟨⟨h.outboxIds, h.approved, ?_, ?_, ?_, ?_, h.cancelled⟩,
      ⟨fun row hrow => ⟨row, hrow, .refl row⟩, fun _ h => List.mem_append_left _ h, fun _ h => h⟩,
      _, List.mem_append_right _ (List.mem_singleton_self _), rfl⟩
    · refine Table.nodup_append h.ledgerIds (Table.lookup_eq_none.mpr fun hmem => ?_)
      obtain ⟨l, hl, heq⟩ := List.mem_map.mp hmem
      exact hfree l hl heq
    · intro l hl
      rcases List.mem_append.mp hl with hl | hl
      · exact h.queued l hl
      · obtain ⟨row, hrow, hb⟩ := hd
        rw [List.mem_singleton.mp hl]
        exact ⟨row, hrow, hb.1.symm, hb.3.symm, hb.4.symm, hb.5.symm, hb.6.symm⟩
    · intro l hl d hmem
      rcases List.mem_append.mp hl with hl | hl
      · exact h.apart l hl d hmem
      · rw [List.mem_singleton.mp hl]
        exact hclear d hmem
    · intro row hrow hs
      obtain ⟨l, hl, hid⟩ := h.completed row hrow hs
      exact ⟨l, List.mem_append_left _ hl, hid⟩

/-! ## Calls -/

section Calls

variable {ok : Label → Pipeline → Prop} {me : Nat} {s : Pipeline}

theorem onOutbox_safe {f : Outbox → Except Error (OutboxRecord × Outbox)} {M : OutboxRecord → Pipeline → Prop}
    (hf : ∀ w row o, Consistent H w → Grows s w → f w.outbox = .ok (row, o) →
      Consistent H { w with outbox := o } ∧ Grows w { w with outbox := o } ∧ M row { w with outbox := o }) :
    Safe ok (contract H) me (OnOk M) (onOutbox f) s := by
  refine Safe.write fun row w1 w hi hr _ hw => ?_
  obtain ⟨⟨row, o⟩, hx, hw⟩ := ok_bind.mp hw
  cases hw
  obtain ⟨h1, h2, h3⟩ := hf w row o hi hr hx
  exact ⟨h1, h2, .ok h3⟩

theorem beginDelivery_safe (i : String) :
    Safe ok (contract H) me (OnOk fun record w => w.Delivers record ∧ record.approvalId = i)
      (onOutbox fun o => o.beginDelivery i) s := by
  refine onOutbox_safe fun w row o hi _ h => ?_
  obtain ⟨row0, h0, hid, rfl, rfl⟩ := Outbox.beginDelivery_ok h
  obtain ⟨h1, h2⟩ := hi.attempted i
  obtain ⟨row1, h3, hb⟩ := h2.outbox row0 h0
  refine ⟨h1, h2, ⟨row1, h3, ?_⟩, hid⟩
  exact ⟨hb.1, hb.2, hb.3, hb.4, hb.5, hb.6⟩

theorem complete_safe {i key : String} (he : ∃ l ∈ s.effects.ledger, l.approvalId = i) :
    Safe ok (contract H) me (OnOk fun _ _ => True) (onOutbox fun o => o.complete i key) s := by
  refine onOutbox_safe fun w row o hi hr h => ?_
  have he : ∃ l ∈ w.effects.ledger, l.approvalId = i := by
    obtain ⟨l, hl, hid⟩ := he
    exact ⟨l, hr.ledger l hl, hid⟩
  rcases Outbox.complete_ok h with rfl | rfl
  · exact ⟨hi, .refl w, trivial⟩
  · obtain ⟨h1, h2⟩ := hi.acknowledged he
    exact ⟨h1, h2, trivial⟩

theorem cancel_safe {i key : String} (hs : Consistent H s) (hd : ∃ d ∈ s.effects.denials, d.approvalId = i) :
    Safe ok (contract H) me (OnOk fun _ _ => True) (cancel i key) s := by
  refine Safe.bind_ok (M := fun _ _ => True) hs (onOutbox_safe fun w row o hi hr h => ?_) fun _ _ _ _ =>
    Safe.query fun _ _ _ _ _ _ => trivial
  have hd : ∃ d ∈ w.effects.denials, d.approvalId = i := by
    obtain ⟨d, hmem, hid⟩ := hd
    exact ⟨d, hr.denials d hmem, hid⟩
  rcases Outbox.cancel_ok h with rfl | rfl
  · exact ⟨hi, .refl w, trivial⟩
  · obtain ⟨h1, h2⟩ := hi.withdrawn hd
    exact ⟨h1, h2, trivial⟩

/-- After the service ran there is an effect, or it raised its denial and there is one. -/
def Settled (i : String) (r : Except Error EffectExecution) (w : Pipeline) : Prop :=
  match r with
  | .ok _ => ∃ l ∈ w.effects.ledger, l.approvalId = i
  | .error (.executionAuthorization _) => ∃ d ∈ w.effects.denials, d.approvalId = i
  | .error _ => True

theorem execute_safe (hd : s.Delivers record) :
    Safe ok (contract H) me (Settled record.approvalId) (execute record) s := by
  refine Safe.attempt fun w hi hr _ => ?_
  show Consistent H _ ∧ Grows w _ ∧ Settled record.approvalId _ _
  cases hx : w.effects.execute "authorization denial binding mismatch" (w.failure record) record with
  | error e =>
    refine ⟨hi, .refl w, ?_⟩
    show Settled _ (.error e) _
    rcases EffectTables.execute_error hx with ⟨message, rfl⟩ | rfl
    · exact trivial
    · exact trivial
  | ok x =>
    obtain ⟨v, t⟩ := x
    obtain ⟨h1, h2, h3⟩ := hi.executes (hd.grows hr) (EffectTables.executes_of_ok hx)
    cases v with
    | executed e => exact ⟨h1, h2, h3⟩
    | denied reason => exact ⟨h1, h2, h3⟩

theorem deliver_safe (i : String) (crashAfterEffect : Bool) :
    Safe ok (contract H) me (OnOk fun _ _ => True) (deliver i crashAfterEffect) s := by
  refine Safe.ask fun current w0 hi0 _ _ _ => ?_
  refine Safe.guard fun _ => ?_
  refine Safe.bind_ok hi0 (beginDelivery_safe i) fun record w1 hi1 hbegun => ?_
  obtain ⟨hd, hid⟩ := hbegun
  refine Safe.bind_ok (M := fun _ w => ∃ l ∈ w.effects.ledger, l.approvalId = i) hi1 ?_ fun execution w2 hi2 he => ?_
  · refine Safe.handle hi1 (execute_safe hd) (fun _ _ _ h => .ok (hid ▸ h)) fun e w hi h => ?_
    cases e with
    | executionAuthorization reason =>
      exact Safe.bind_ok hi (cancel_safe hi (hid ▸ h)) fun _ _ _ _ => Safe.fail .error
    | _ => exact Safe.fail .error
  · refine Safe.guard fun _ => ?_
    exact Safe.bind_ok hi2 (complete_safe he) fun _ _ _ _ => Safe.pure (.ok trivial)

end Calls

/-! ## Any run -/

theorem enqueue_resolves {requester : Principal} {arguments : Json} {now later : Int} {o o' : Outbox}
    (h : Outbox.resolveAfterReviewAndEnqueue H i requester action arguments now later db o = .ok (r, db', o')) :
    DurableApprovalStore.resolveAfterReview H i requester action arguments now later db = .ok (r, db') ∧
      find db'.records i = some r ∧
      (r.status = .rejected ∧ o' = o ∨ r.status = .consumed ∧ ∃ row, Outbox.insertOrValidate H r o = .ok (row, o')) := by
  obtain ⟨⟨r1, db1⟩, hl, h⟩ := ok_bind.mp h
  obtain ⟨u, hv, h⟩ := ok_bind.mp h
  have hr1 : find db1.records i = some r1 := find_loaded hl
  unfold DurableApprovalStore.resolveAfterReview
  simp only [hl, hv, bind, Except.bind]
  split_ifs at h with hrej hcon happ
  · cases h
    rw [if_pos hrej]
    exact ⟨rfl, hr1, .inl ⟨hrej, rfl⟩⟩
  · obtain ⟨y, hy, h⟩ := ok_bind.mp h
    cases h
    rw [if_neg hrej, if_pos hcon]
    exact ⟨rfl, hr1, .inr ⟨hcon, y.1, hy⟩⟩
  · obtain ⟨y, hy, h⟩ := ok_bind.mp h
    cases h
    rw [if_neg hrej, if_neg hcon, if_neg (not_not.mpr happ)]
    exact ⟨rfl, find_used hr1 happ, .inr ⟨rfl, y.1, hy⟩⟩

theorem keeps_consumed {op : Operation} {x : ApprovalRecord × ApprovalDb}
    (h : transaction H op db = .ok x) (i : String) (r : ApprovalRecord)
    (hr : find db.records i = some r) (hs : r.status = .consumed) : find x.2.records i = some r := by
  have hturn := transaction_turns (i := i) h
  rw [hr] at hturn
  exact hturn.final (.inr (.inl hs))

theorem enqueue_safe {requester : Principal} {arguments : Json} {now later : Int} {o : Outbox} (hi : Consistent H w)
    (h : Outbox.resolveAfterReviewAndEnqueue H i requester action arguments now later w.approvals w.outbox = .ok (r, db, o)) :
    Consistent H { w with approvals := db, outbox := o } ∧ Grows w { w with approvals := db, outbox := o } := by
  obtain ⟨hres, hfind, ho⟩ := enqueue_resolves h
  obtain ⟨h1, h2⟩ := hi.approvals (keeps_consumed (show transaction H
    (.resolveAfterReview i requester action arguments now later) w.approvals = .ok (r, db) from hres))
  rcases ho with ⟨-, rfl⟩ | ⟨hs, row, hins⟩
  · exact ⟨h1, h2⟩
  · have hid : r.approvalId = i := id_of_find hfind
    rcases Outbox.insertOrValidate_ok hins with rfl | ⟨hnew, rfl⟩
    · exact ⟨h1, h2⟩
    · obtain ⟨h3, h4⟩ := h1.enqueue (r := r) (by rw [hid]; exact hfind) hs hnew
      exact ⟨h3, h2.trans h4⟩

theorem consistent_of_fresh (h : Fresh w) : Consistent H w := by
  obtain ⟨h1, h2, h3⟩ := h
  refine ⟨?_, ?_, ?_, ?_, ?_, ?_, ?_⟩ <;> simp [h2, h3]

theorem system_meets : (system H).Meets (contract H) fun _ _ _ => True where
  init _ := consistent_of_fresh
  body me k c _ hi := by
    cases k with
    | approvals op =>
      refine Safe.discard hi (M := fun _ _ => True) (Safe.atomic (fun _ _ _ _ _ _ => trivial) fun r w1 w hi _ _ hw => ?_)
      obtain ⟨x, hx, hw⟩ := ok_bind.mp hw
      cases hw
      obtain ⟨h1, h2⟩ := hi.approvals (keeps_consumed hx)
      exact ⟨h1, h2, trivial⟩
    | enqueue i requester action arguments now later =>
      refine Safe.discard hi (M := fun _ _ => True) (Safe.atomic (fun _ _ _ _ _ _ => trivial) fun r w1 w hi _ _ hw => ?_)
      obtain ⟨⟨r, db, o⟩, hx, hw⟩ := ok_bind.mp hw
      cases hw
      obtain ⟨h1, h2⟩ := enqueue_safe hi hx
      exact ⟨h1, h2, trivial⟩
    | deliver i crash =>
      exact Safe.discard hi (deliver_safe i crash)
    | authorize change =>
      refine Safe.modify_bind fun w hi _ _ => ⟨?_, ?_, Safe.pure trivial⟩
      · exact ⟨hi.outboxIds, hi.approved, hi.ledgerIds, hi.queued, hi.apart, hi.completed, hi.cancelled⟩
      · exact ⟨fun row hrow => ⟨row, hrow, .refl row⟩, fun _ h => h, fun _ h => h⟩
  apart := .inr fun _ _ _ _ _ _ _ h => h
  stable _ _ _ _ _ _ _ _ h := h

/-- The approval a row or an effect is of, used up and binding what it carries. -/
structure ApprovedBy (w : Pipeline) (approvalId requesterUserId tenantId : String) (action : Action)
    (normalizedArguments : Json) (r : ApprovalRecord) : Prop where
  stored : find w.approvals.records approvalId = some r
  consumed : r.status = .consumed
  requester : requesterUserId = r.requesterUserId
  tenant : tenantId = r.tenantId
  action : action = r.action
  arguments : normalizedArguments = r.normalizedArguments

/-- Whatever is decided, enqueued and delivered, in any order and with any crashes, and however the
    authorization changes meanwhile: an approval has at most one effect, and that is of what was
    approved; only an approval that was used up has an effect or a row in the outbox; it never has an
    effect and a denial both; and a row is completed only with its effect, cancelled only with its
    denial. -/
theorem exactly_once (H : Hashing) {c : Conf Call Label Pipeline Error Answer} (hc : (system H).Reach c) :
    (c.st.effects.ledger.map LedgerRow.approvalId).Nodup ∧
    (∀ l ∈ c.st.effects.ledger, ∃ r, ApprovedBy c.st l.approvalId l.requesterUserId l.tenantId l.action
      l.normalizedArguments r) ∧
    (∀ row ∈ c.st.outbox, ∃ r, ApprovedBy c.st row.approvalId row.requesterUserId row.tenantId row.action
      row.normalizedArguments r) ∧
    (∀ l ∈ c.st.effects.ledger, ∀ d ∈ c.st.effects.denials, d.approvalId ≠ l.approvalId) ∧
    (∀ row ∈ c.st.outbox, row.status = .completed → ∃ l ∈ c.st.effects.ledger, l.approvalId = row.approvalId) ∧
    ∀ row ∈ c.st.outbox, row.status = .cancelled → ∃ d ∈ c.st.effects.denials, d.approvalId = row.approvalId := by
  have hi : Consistent H c.st := system_meets.inv hc
  have hrow : ∀ row ∈ c.st.outbox, ∃ r, ApprovedBy c.st row.approvalId row.requesterUserId row.tenantId row.action
      row.normalizedArguments r := by
    intro row hrow
    obtain ⟨r, h1, h2, h3⟩ := hi.approved row hrow
    exact ⟨r, h1, h2, h3.requesterUserId, h3.tenantId, h3.action, h3.normalizedArguments⟩
  refine ⟨hi.ledgerIds, fun l hl => ?_, hrow, hi.apart, hi.completed, hi.cancelled⟩
  obtain ⟨row, hmem, h1, h2, h3, h4, h5⟩ := hi.queued l hl
  rw [h1, h2, h3, h4, h5]
  exact hrow row hmem

/-! ## A run -/

namespace Sample

def requester : Principal := ⟨"alice", "tenant", [.employee]⟩

def arguments : Json := .obj [("resource", .str "vpn")]

def authorization : AuthorizationState where
  subjects := [⟨"alice", "tenant", true, .arr [.str "employee"]⟩]
  resources := [⟨"tenant", "vpn", true, none, some "employee"⟩]
  tenantPolicies := []
  versions := []
  trustedKeys := []
  keyEpochs := []

def world : Pipeline := ⟨⟨[], []⟩, [], authorization, ⟨[], []⟩⟩

def ttl : Ttl := ⟨600, Int.ofNat_succ_pos 599⟩

/-- One approval is delivered twice, the first time with a crash after the effect; the authorization is
    withdrawn in between, and a second approval is denied. -/
def deliverTwice : List (System.Move Call) :=
  [.call (.approvals (.create "first" "n1" requester .requestAccess arguments none 0 ttl)), .txn 0, .ret 0,
    .call (.approvals (.decide "first" ⟨"bob", "tenant", [.adminApprover]⟩ .approve 10 11)), .txn 1, .ret 1,
    .call (.enqueue "first" requester .requestAccess arguments 20 21), .txn 2, .ret 2,
    .call (.deliver "first" true), .txn 3, .txn 3, .txn 3, .ret 3,
    .call (.authorize fun a => { a with subjects := [] }), .txn 4, .ret 4,
    .call (.deliver "first" false), .txn 5, .txn 5, .txn 5, .txn 5, .ret 5,
    .call (.approvals (.create "second" "n22" requester .requestPasswordReset arguments none 30 ttl)), .txn 6, .ret 6,
    .call (.approvals (.decide "second" ⟨"bob", "tenant", [.adminApprover]⟩ .approve 40 41)), .txn 7, .ret 7,
    .call (.enqueue "second" requester .requestPasswordReset arguments 50 51), .txn 8, .ret 8,
    .call (.deliver "second" false), .txn 9, .txn 9, .txn 9, .txn 9, .txn 9, .ret 9]

end Sample

theorem exactly_once_deliverTwice :
    ∃ c, (system Hashing.light).Reach c ∧ c.st.outbox.map (·.status) = [.completed, .cancelled] ∧
      c.st.effects.ledger.map (·.approvalId) = ["first"] ∧ c.st.effects.denials.map (·.approvalId) = ["second"] ∧
      (∀ l ∈ c.st.effects.ledger, ∃ r, ApprovedBy c.st l.approvalId l.requesterUserId l.tenantId l.action
        l.normalizedArguments r) := by
  obtain ⟨c, hc, h1, h2, h3⟩ := System.exec_find (S := system Hashing.light) (s := Sample.world) Sample.deliverTwice
    (fun c => c.st.outbox.map (·.status) = [.completed, .cancelled] ∧
      c.st.effects.ledger.map (·.approvalId) = ["first"] ∧ c.st.effects.denials.map (·.approvalId) = ["second"])
    ⟨rfl, rfl, rfl⟩ (by decide +kernel)
  exact ⟨c, hc, h1, h2, h3, (exactly_once Hashing.light hc).2.1⟩

/-- Nothing that came of an approval is taken back: from any reachable state to any later one effects and
    denials stay, rows keep what they bind, and a row that was closed is not closed the other way. -/
theorem outcome_final (H : Hashing) {c c' : Conf Call Label Pipeline Error Answer} (hc : (system H).Reach c)
    (hl : (system H).Later c c') :
    (∀ l ∈ c.st.effects.ledger, l ∈ c'.st.effects.ledger) ∧ (∀ d ∈ c.st.effects.denials, d ∈ c'.st.effects.denials) ∧
    ∀ row ∈ c.st.outbox, ∃ row' ∈ c'.st.outbox, Outbox.Bound row row' ∧
      (row.status = .completed → row'.status ≠ .cancelled) ∧ (row.status = .cancelled → row'.status ≠ .completed) := by
  have hi : Consistent H c.st := system_meets.inv hc
  have hi' : Consistent H c'.st := system_meets.inv (hc.later hl)
  have hg : Grows c.st c'.st := system_meets.later Grows .refl .trans id hc hl
  refine ⟨hg.ledger, hg.denials, fun row hrow => ?_⟩
  obtain ⟨row', hrow', hb⟩ := hg.outbox row hrow
  refine ⟨row', hrow', hb, fun hs hs' => ?_, fun hs hs' => ?_⟩
  · obtain ⟨l, hl, hid⟩ := hi.completed row hrow hs
    obtain ⟨d, hd, hid'⟩ := hi'.cancelled row' hrow' hs'
    exact hi'.apart l (hg.ledger l hl) d hd (hid'.trans (hb.approvalId.trans hid.symm))
  · obtain ⟨d, hd, hid⟩ := hi.cancelled row hrow hs
    obtain ⟨l, hl, hid'⟩ := hi'.completed row' hrow' hs'
    exact hi'.apart l hl d (hg.denials d hd) (hid.trans (hb.approvalId.symm.trans hid'.symm))

theorem outcome_final_deliverTwice :
    ∃ c c', (system Hashing.light).Reach c ∧ (system Hashing.light).Later c c' ∧ c.st.outbox.map (·.status) = [.completed] ∧
      c'.st.outbox.length = 2 ∧ ∀ l ∈ c.st.effects.ledger, l ∈ c'.st.effects.ledger := by
  obtain ⟨c, c', hc, hl, h, h'⟩ := System.exec_find₂ (S := system Hashing.light) (s := Sample.world)
    (Sample.deliverTwice.take 24) (Sample.deliverTwice.drop 24)
    (fun c c' => c.st.outbox.map (·.status) = [.completed] ∧ c'.st.outbox.length = 2) ⟨rfl, rfl, rfl⟩ (by decide +kernel)
  exact ⟨c, c', hc, hl, h, h', (outcome_final Hashing.light hc hl).1⟩

end Aegis.Effects.Pipeline
