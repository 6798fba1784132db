/-
  Aegis.Effects.Workers — the workers of an effect pipeline, as what a review relies on:
  `DurableEffectWorker` (durable.py) and `RevalidatingDurableEffectWorker` (revalidation.py).

  Either begins a delivery, lets its service execute the row and acknowledges it. The service
  answers only with an effect of that row in the ledger (`Executes.executed`), and rows keep what
  they bind (`bound_update`), so the effect is still the row's when the worker returns.
-/

import Aegis.Effects.Review
import Aegis.Txn.Follow

namespace Aegis.Effects

open Data Txn Txn.Prog
open Approvals (ApprovalDb)

/-! ## Rows and effects -/

theorem Outbox.bound_update {f : OutboxRecord → OutboxRecord} (hf : ∀ row, Bound row (f row)) (o : Outbox) (j : String)
    (i : String) (row : OutboxRecord) (h : o.row? i = some row) :
    ∃ row', Outbox.row? (Table.update OutboxRecord.approvalId o j f) i = some row' ∧ Bound row row' := by
  have hkey : ∀ row : OutboxRecord, row.approvalId = j → (f row).approvalId = j :=
    fun row hid => (hf row).approvalId.trans hid
  by_cases hi : i = j
  · subst hi
    refine ⟨f row, ?_, hf row⟩
    exact (Table.lookup_update_self hkey).trans (congrArg (Option.map f) h)
  · exact ⟨row, (Table.lookup_update_ne hkey hi).trans h, .refl row⟩

theorem Outbox.row?_beginDelivery {o o' : Outbox} {i : String} {row : OutboxRecord} (h : o.beginDelivery i = .ok (row, o')) :
    o'.row? i = some row := by
  unfold beginDelivery at h
  split at h
  · cases h
  · rename_i row0 hrow
    cases h
    have hkey : ∀ row : OutboxRecord, row.approvalId = i → (attempted row).approvalId = i := fun _ hid => hid
    exact (Table.lookup_update_self hkey).trans (congrArg (Option.map attempted) hrow)

theorem LedgerRow.IsOf.bound {l : LedgerRow} {row row' : OutboxRecord} (h : l.IsOf row) (hb : Outbox.Bound row row') :
    l.IsOf row' := by
  obtain ⟨h1, h2, h3, h4, h5⟩ := h
  exact ⟨h1.trans hb.approvalId.symm, h2.trans hb.requesterUserId.symm, h3.trans hb.tenantId.symm,
    h4.trans hb.action.symm, h5.trans hb.normalizedArguments.symm⟩

namespace EffectTables

variable {ρ : Type} {failure : Option ρ} {record : OutboxRecord} {t t' : EffectTables ρ} {v : Verdict ρ}

theorem Executes.ledger (h : Executes failure record t v t') : ∀ l ∈ t.ledger, l ∈ t'.ledger := by
  cases h with
  | again | deniedAgain | deny => exact fun _ hl => hl
  | execute => exact fun _ hl => List.mem_append_left _ hl

theorem Executes.executed {execution : EffectExecution} (h : Executes failure record t (.executed execution) t') :
    ∃ l ∈ t'.ledger, l.IsOf record := by
  cases h with
  | again l hl hof => exact ⟨l, hl, hof⟩
  | execute =>
    exact ⟨.ofRecord record, List.mem_append_right _ (List.mem_singleton_self _), rfl, rfl, rfl, rfl, rfl⟩

end EffectTables

namespace Pipeline

/-- The two files of the pipeline; others change the authorization. -/
def layout : Layout Pipeline (AuthorizationState → AuthorizationState) where
  approvals := ⟨Pipeline.approvals, fun a w => { w with approvals := a }, fun _ _ => rfl, fun _ => rfl, fun _ _ _ => rfl⟩
  outbox := ⟨Pipeline.outbox, fun o w => { w with outbox := o }, fun _ _ => rfl, fun _ => rfl, fun _ _ _ => rfl⟩
  ledger w := w.effects.ledger
  change x w := { w with authorization := x w.authorization }
  approvals_set_outbox _ _ := rfl
  outbox_set_approvals _ _ := rfl
  ledger_set_approvals _ _ := rfl
  ledger_set_outbox _ _ := rfl
  approvals_change _ _ := rfl
  outbox_change _ _ := rfl
  ledger_change _ _ := rfl

/-! ## What the parts of a delivery keep -/

section Parts

variable {ok : Label → Pipeline → Prop} {me : Nat} {w w' : Pipeline} {i key : String}

/-- The outbox has the row that is being delivered. -/
def Holds (i : String) (record : OutboxRecord) (w : Pipeline) : Prop :=
  ∃ row, w.outbox.row? i = some row ∧ Outbox.Bound record row

theorem Holds.grows {record : OutboxRecord} (h : Holds i record w) (hg : layout.Grows w w') : Holds i record w' := by
  obtain ⟨row, hrow, hb⟩ := h
  obtain ⟨row', hrow', hb'⟩ := hg.outbox i row hrow
  exact ⟨row', hrow', hb.trans hb'⟩

theorem executed_grows (h : layout.Executed i w) (hg : layout.Grows w w') : layout.Executed i w' := by
  obtain ⟨row, l, hrow, hl, hof⟩ := h
  obtain ⟨row', hrow', hb⟩ := hg.outbox i row hrow
  exact ⟨row', l, hrow', hg.ledger l hl, hof.bound hb⟩

theorem delivery_onOutbox {f : Outbox → Except Error (OutboxRecord × Outbox)} {M : OutboxRecord → Pipeline → Prop}
    (hf : ∀ w row o, layout.Grows w w → f w.outbox = .ok (row, o) →
      (∀ i row, w.outbox.row? i = some row → ∃ row', o.row? i = some row' ∧ Outbox.Bound row row') ∧
        M row { w with outbox := o }) : Safe ok layout.delivery me (OnOk M) (onOutbox f) w := by
  refine Safe.write fun row w2 w1 _ _ _ hw => ?_
  obtain ⟨x, hx, hw⟩ := Checks.ok_bind.mp hw
  cases hw
  obtain ⟨h1, h2⟩ := hf w1 x.1 x.2 (.refl w1) hx
  exact ⟨trivial, ⟨rfl, h1, fun _ h => h⟩, .ok h2⟩

theorem delivery_begin :
    Safe ok layout.delivery me (OnOk fun record => Holds i record) (onOutbox fun o => o.beginDelivery i) w := by
  refine delivery_onOutbox fun w1 row o _ h => ⟨?_, row, Outbox.row?_beginDelivery h, .refl row⟩
  obtain ⟨row0, -, -, -, rfl⟩ := Outbox.beginDelivery_ok h
  exact Outbox.bound_update Outbox.bound_attempted _ i

theorem delivery_complete : Safe ok layout.delivery me (OnOk fun _ _ => True) (onOutbox fun o => o.complete i key) w := by
  refine delivery_onOutbox fun w1 row o _ h => ⟨?_, trivial⟩
  rcases Outbox.complete_ok h with rfl | rfl
  · exact fun _ row h => ⟨row, h, .refl row⟩
  · exact Outbox.bound_update Outbox.bound_acknowledged _ i

theorem delivery_cancel : Safe ok layout.delivery me (OnOk fun _ _ => True) (cancel i key) w := by
  refine Safe.bind_ok (M := fun _ _ => True) trivial (delivery_onOutbox fun w1 row o _ h => ⟨?_, trivial⟩)
    fun _ _ _ _ => Safe.query fun _ _ _ _ _ _ => trivial
  rcases Outbox.cancel_ok h with rfl | rfl
  · exact fun _ row h => ⟨row, h, .refl row⟩
  · exact Outbox.bound_update Outbox.bound_withdrawn _ i

/-- The end of a delivery: the acknowledgement, which leaves the effect where it is. -/
theorem delivery_acknowledge {execution : EffectExecution} (crashAfterEffect : Bool) (h : layout.Executed i w) :
    Safe ok layout.delivery me (OnOk fun _ => layout.Executed i)
      (do
        raiseIf (crashAfterEffect = true) .workerCrash
        let _ ← onOutbox fun o => o.complete i key
        pure execution) w := by
  refine Safe.guard fun _ => ?_
  have hframe := Safe.frame (C := layout.delivery) (K := layout.Executed i) (fun _ _ _ hg hK => executed_grows hK hg)
    (fun _ _ _ _ hg hK => executed_grows hK hg.2) h (@delivery_complete ok me w i key)
  exact Safe.bind trivial hframe (fun _ _ _ hdone => Safe.pure (.ok hdone.2)) fun _ _ _ _ => .error

end Parts

end Pipeline

/-! ## `DurableEffectWorker` -/

namespace DurableEffectWorker

open Pipeline

/-- `SyntheticIdempotentEffectService.execute`: no reason stands against an effect, and none was denied. -/
def execute (record : OutboxRecord) : Prog Label Pipeline Error EffectExecution :=
  atomic .step fun w =>
    match EffectTables.execute "" none record (⟨w.effects.ledger, []⟩ : EffectTables Empty) with
    | .error e => .error e
    | .ok (.executed execution, t) => .ok (execution, { w with effects := { w.effects with ledger := t.ledger } })

def deliver (approvalId : String) (crashAfterEffect : Bool) : Prog Label Pipeline Error EffectExecution := do
  let record ← onOutbox fun o => o.beginDelivery approvalId
  let execution ← execute record
  raiseIf (crashAfterEffect = true) .workerCrash
  let _ ← onOutbox fun o => o.complete approvalId record.idempotencyKey
  pure execution

theorem execute_safe {ok : Label → Pipeline → Prop} {me : Nat} {w : Pipeline} {i : String} {record : OutboxRecord}
    (h : Holds i record w) : Safe ok layout.delivery me (OnOk fun _ => layout.Executed i) (execute record) w := by
  refine Safe.write fun execution w2 w1 _ hg _ hw => ?_
  split at hw
  · cases hw
  · rename_i execution1 t hx
    cases hw
    have hexec := EffectTables.executes_of_ok hx
    obtain ⟨row, hrow, hb⟩ := h.grows hg
    obtain ⟨l, hl, hof⟩ := hexec.executed
    exact ⟨trivial, ⟨rfl, fun _ row h => ⟨row, h, .refl row⟩, hexec.ledger⟩, .ok ⟨row, l, hrow, hl, hof.bound hb⟩⟩

end DurableEffectWorker

def durableEffectWorker : Worker Pipeline.layout where
  deliver := DurableEffectWorker.deliver
  safe me i crashAfterEffect w := by
    refine Safe.bind_ok trivial Pipeline.delivery_begin fun record w1 _ hholds => ?_
    exact Safe.bind_ok trivial (DurableEffectWorker.execute_safe hholds) fun _ _ _ hdone =>
      Pipeline.delivery_acknowledge crashAfterEffect hdone

/-! ## `RevalidatingDurableEffectWorker` -/

namespace Pipeline

theorem delivery_execute {ok : Label → Pipeline → Prop} {me : Nat} {w : Pipeline} {i : String} {record : OutboxRecord}
    (h : Holds i record w) : Safe ok layout.delivery me (OnOk fun _ => layout.Executed i) (execute record) w := by
  refine Safe.attempt fun w1 _ hg _ => ?_
  show True ∧ (_ ∧ layout.Grows w1 _) ∧ OnOk _ _ _
  cases hx : w1.effects.execute "authorization denial binding mismatch" (w1.failure record) record with
  | error e => exact ⟨trivial, ⟨rfl, .refl w1⟩, .error⟩
  | ok x =>
    obtain ⟨v, t⟩ := x
    have hexec := EffectTables.executes_of_ok hx
    have hgrows : layout.Grows w1 { w1 with effects := t } := ⟨fun _ row h => ⟨row, h, .refl row⟩, hexec.ledger⟩
    cases v with
    | denied reason => exact ⟨trivial, ⟨rfl, hgrows⟩, .error⟩
    | executed execution =>
      obtain ⟨row, hrow, hb⟩ := h.grows hg
      obtain ⟨l, hl, hof⟩ := hexec.executed
      exact ⟨trivial, ⟨rfl, hgrows⟩, .ok ⟨row, l, hrow, hl, hof.bound hb⟩⟩

end Pipeline

def revalidatingDurableEffectWorker : Worker Pipeline.layout where
  deliver := Pipeline.deliver
  safe me i crashAfterEffect w := by
    refine Safe.query_bind (fun _ _ _ _ _ _ => .error) fun current w0 _ _ _ _ => ?_
    refine Safe.raiseIf_bind (fun _ => .error) fun _ => ?_
    refine Safe.bind_ok trivial Pipeline.delivery_begin fun record w1 _ hholds => ?_
    refine Safe.bind_ok trivial (Safe.handle trivial (Pipeline.delivery_execute hholds) (fun _ _ _ h => h) ?_)
      fun _ _ _ hdone => Pipeline.delivery_acknowledge crashAfterEffect hdone
    intro e w2 _ _
    cases e with
    | executionAuthorization reason =>
      exact Safe.bind_ok trivial Pipeline.delivery_cancel fun _ _ _ _ => Safe.fail .error
    | _ => exact Safe.fail .error

end Aegis.Effects
