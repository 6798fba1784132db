/-
  Aegis.Effects.Outbox — the outbox of approved effects and the ledger of executed ones
  (`TransactionalEffectCoordinator`, `DurableEffectOutboxStore`, `RevalidatingEffectOutboxStore`
  and the effect services of durable.py, revalidation.py, versioned_revalidation.py and
  signed_authorization.py).

  The services differ in what they check before the first effect of an approval and in the
  table their denials go to; `EffectTables.execute` is their transaction, with that check's
  answer and the table as parameters.
-/

import Aegis.Approvals.Store

namespace Aegis.Effects

open Data
open Approvals (ApprovalRecord ApprovalDb Principal ApprovalAction)

variable (H : Hashing)

/-! ## Outbox -/

/-- `_idempotency_key`. -/
def idempotencyKey (r : ApprovalRecord) : String :=
  H.sha256 (.str (Json.unitJoin ["aegisdesk-p2l-v1", r.approvalId, r.bindingHash, r.requesterUserId, r.tenantId,
    r.action.value, r.normalizedArguments.dumps]))

abbrev Outbox := List OutboxRecord

namespace Outbox

def row? (o : Outbox) (approvalId : String) : Option OutboxRecord := Table.lookup OutboxRecord.approvalId o approvalId

/-- The row `_insert_or_validate_outbox` inserts. -/
def rowOf (r : ApprovalRecord) : OutboxRecord where
  approvalId := r.approvalId
  idempotencyKey := Effects.idempotencyKey H r
  requesterUserId := r.requesterUserId
  tenantId := r.tenantId
  action := r.action
  normalizedArguments := r.normalizedArguments
  status := .pending
  deliveryAttempts := 0

/-- The row carries what the approval binds. -/
structure Carries (row : OutboxRecord) (r : ApprovalRecord) : Prop where
  idempotencyKey : row.idempotencyKey = Effects.idempotencyKey H r
  requesterUserId : row.requesterUserId = r.requesterUserId
  tenantId : row.tenantId = r.tenantId
  action : row.action = r.action
  normalizedArguments : row.normalizedArguments = r.normalizedArguments

instance (row : OutboxRecord) (r : ApprovalRecord) : Decidable (Carries H row r) :=
  decidable_of_iff (row.idempotencyKey = Effects.idempotencyKey H r ∧ row.requesterUserId = r.requesterUserId ∧
      row.tenantId = r.tenantId ∧ row.action = r.action ∧ row.normalizedArguments = r.normalizedArguments)
    ⟨fun ⟨h1, h2, h3, h4, h5⟩ => ⟨h1, h2, h3, h4, h5⟩, fun ⟨h1, h2, h3, h4, h5⟩ => ⟨h1, h2, h3, h4, h5⟩⟩

/-- `_insert_or_validate_outbox`; INSERT OR IGNORE passes over a row whose id or key is there. -/
def insertOrValidate (r : ApprovalRecord) (o : Outbox) : Except Error (OutboxRecord × Outbox) :=
  let o := if (o.row? r.approvalId).isSome ∨ o.any (fun row => row.idempotencyKey = Effects.idempotencyKey H r) then o
    else o ++ [rowOf H r]
  match o.row? r.approvalId with
  | none => .error (.approvalState "effect outbox row was not created")
  | some row =>
    if ¬ Carries H row r then .error (.binding "existing effect outbox binding mismatch") else .ok (row, o)

def get (o : Outbox) (approvalId : String) : Except Error OutboxRecord :=
  match o.row? approvalId with
  | none => .error (.approvalState "no effect outbox row for approval")
  | some row => .ok row

def attempted (row : OutboxRecord) : OutboxRecord := { row with deliveryAttempts := row.deliveryAttempts + 1 }

/-- `begin_delivery`. -/
def beginDelivery (o : Outbox) (approvalId : String) : Except Error (OutboxRecord × Outbox) :=
  match o.row? approvalId with
  | none => .error (.approvalState "no effect outbox row for approval")
  | some row => .ok (attempted row, Table.update OutboxRecord.approvalId o approvalId attempted)

def acknowledged (row : OutboxRecord) : OutboxRecord :=
  if row.status = .pending then { row with status := .completed } else row

def complete (o : Outbox) (approvalId idempotencyKey : String) : Except Error (OutboxRecord × Outbox) :=
  match o.row? approvalId with
  | none => .error (.approvalState "no effect outbox row for approval")
  | some row =>
    if row.idempotencyKey ≠ idempotencyKey then .error (.binding "effect outbox idempotency key mismatch")
    else if row.status = .completed then .ok (row, o)
    else .ok (acknowledged row, Table.update OutboxRecord.approvalId o approvalId acknowledged)

def withdrawn (row : OutboxRecord) : OutboxRecord :=
  if row.status ≠ .completed then { row with status := .cancelled } else row

/-- `cancel`, up to the read of its answer. -/
def cancel (o : Outbox) (approvalId idempotencyKey : String) : Except Error (OutboxRecord × Outbox) :=
  match o.row? approvalId with
  | none => .error (.approvalState "no effect outbox row for approval")
  | some row =>
    if row.idempotencyKey ≠ idempotencyKey then .error (.binding "effect outbox idempotency key mismatch")
    else if row.status = .completed then .ok (row, o)
    else if row.status ≠ .cancelled then .ok (withdrawn row, Table.update OutboxRecord.approvalId o approvalId withdrawn)
    else .ok (row, o)

/-- Nothing but the status and the number of attempts differs. -/
structure Bound (row row' : OutboxRecord) : Prop where
  approvalId : row'.approvalId = row.approvalId
  idempotencyKey : row'.idempotencyKey = row.idempotencyKey
  requesterUserId : row'.requesterUserId = row.requesterUserId
  tenantId : row'.tenantId = row.tenantId
  action : row'.action = row.action
  normalizedArguments : row'.normalizedArguments = row.normalizedArguments

theorem Bound.refl (row : OutboxRecord) : Bound row row := ⟨rfl, rfl, rfl, rfl, rfl, rfl⟩

theorem Bound.trans {a b c : OutboxRecord} (h : Bound a b) (h' : Bound b c) : Bound a c :=
  ⟨h'.1.trans h.1, h'.2.trans h.2, h'.3.trans h.3, h'.4.trans h.4, h'.5.trans h.5, h'.6.trans h.6⟩

theorem bound_attempted (row : OutboxRecord) : Bound row (attempted row) := ⟨rfl, rfl, rfl, rfl, rfl, rfl⟩

theorem bound_acknowledged (row : OutboxRecord) : Bound row (acknowledged row) := by
  unfold acknowledged
  split
  · exact ⟨rfl, rfl, rfl, rfl, rfl, rfl⟩
  · exact .refl row

theorem bound_withdrawn (row : OutboxRecord) : Bound row (withdrawn row) := by
  unfold withdrawn
  split
  · exact ⟨rfl, rfl, rfl, rfl, rfl, rfl⟩
  · exact .refl row

variable {H} in
theorem Carries.bound {row row' : OutboxRecord} {r : ApprovalRecord} (h : Carries H row r) (hb : Bound row row') :
    Carries H row' r :=
  ⟨hb.2.trans h.1, hb.3.trans h.2, hb.4.trans h.3, hb.5.trans h.4, hb.6.trans h.5⟩

/-! What each transaction on the outbox comes to. -/

variable {o o' : Outbox} {row : OutboxRecord} {i key : String}

theorem beginDelivery_ok (h : o.beginDelivery i = .ok (row, o')) :
    ∃ row0 ∈ o, row0.approvalId = i ∧ row = attempted row0 ∧ o' = Table.update OutboxRecord.approvalId o i attempted := by
  unfold beginDelivery at h
  split at h
  · cases h
  · rename_i row0 hrow
    cases h
    exact ⟨row0, Table.mem_of_lookup hrow, Table.key_of_lookup hrow, rfl, rfl⟩

theorem complete_ok (h : o.complete i key = .ok (row, o')) :
    o' = o ∨ o' = Table.update OutboxRecord.approvalId o i acknowledged := by
  unfold complete at h
  split at h
  · cases h
  · split_ifs at h
    · cases h
      exact .inl rfl
    · cases h
      exact .inr rfl

theorem cancel_ok (h : o.cancel i key = .ok (row, o')) :
    o' = o ∨ o' = Table.update OutboxRecord.approvalId o i withdrawn := by
  unfold cancel at h
  split at h
  · cases h
  · split_ifs at h
    · cases h
      exact .inl rfl
    · cases h
      exact .inr rfl
    · cases h
      exact .inl rfl

variable {H} in
theorem insertOrValidate_ok {r : ApprovalRecord} (h : insertOrValidate H r o = .ok (row, o')) :
    o' = o ∨ o.row? r.approvalId = none ∧ o' = o ++ [rowOf H r] := by
  unfold insertOrValidate at h
  dsimp only at h
  split at h
  · cases h
  · split at h
    · cases h
    · cases h
      by_cases hc : (o.row? r.approvalId).isSome = true ∨ o.any (fun row => row.idempotencyKey = Effects.idempotencyKey H r) = true
      · rw [if_pos hc]
        exact .inl rfl
      · rw [if_neg hc]
        rw [not_or] at hc
        exact .inr ⟨by simpa using hc.1, rfl⟩

/-- `resolve_after_review_and_enqueue`: the transaction on the approvals and the outbox, which share
    a file. -/
def resolveAfterReviewAndEnqueue (approvalId : String) (requester : Principal) (action : ApprovalAction) (arguments : Json)
    (now later : Int) (db : ApprovalDb) (o : Outbox) : Except Error (ApprovalRecord × ApprovalDb × Outbox) := do
  let (record, db) ← Approvals.DurableApprovalStore.loadLocked approvalId now db
  Approvals.verifyBinding H record requester action arguments
  if record.status = .rejected then .ok (record, db, o)
  else if record.status = .consumed then do
    let (_, o) ← insertOrValidate H record o
    .ok (record, db, o)
  else if record.status = .approved then do
    let (consumed, db) := Approvals.DurableApprovalStore.consumeLocked approvalId record later db
    let (_, o) ← insertOrValidate H consumed o
    .ok (consumed, db, o)
  else .error (.approvalState "approval is not ready for effect enqueue")

end Outbox

/-! ## Ledger -/

/-- `SyntheticEffectExecution`. -/
structure EffectExecution where
  effectRef : String
  approvalId : String
  action : Action
  duplicateSuppressed : Bool
  deriving DecidableEq, Repr

/-- The ledger, and the denials of one service. -/
structure EffectTables (ρ : Type) where
  ledger : List LedgerRow
  denials : List (Denial ρ)
  deriving DecidableEq, Repr

/-- What the transaction of a service comes to: an effect, or a denial that is committed before it
    is raised. -/
inductive Verdict (ρ : Type) where
  | executed (execution : EffectExecution)
  | denied (reason : ρ)
  deriving DecidableEq, Repr

/-- The ledger row is of this delivery. -/
def LedgerRow.IsOf (row : LedgerRow) (record : OutboxRecord) : Prop :=
  row.approvalId = record.approvalId ∧ row.requesterUserId = record.requesterUserId ∧ row.tenantId = record.tenantId ∧
    row.action = record.action ∧ row.normalizedArguments = record.normalizedArguments

instance (row : LedgerRow) (record : OutboxRecord) : Decidable (row.IsOf record) :=
  inferInstanceAs (Decidable (_ ∧ _))

def effectRef (idempotencyKey : String) : String := "synthetic-effect-" ++ String.ofList (idempotencyKey.toList.take 20)

/-- The row a service inserts. -/
def LedgerRow.ofRecord (record : OutboxRecord) : LedgerRow where
  idempotencyKey := record.idempotencyKey
  approvalId := record.approvalId
  requesterUserId := record.requesterUserId
  tenantId := record.tenantId
  action := record.action
  normalizedArguments := record.normalizedArguments
  effectRef := Effects.effectRef record.idempotencyKey

namespace EffectTables

variable {ρ : Type} {record : OutboxRecord} {failure : Option ρ} {mismatch : String}

/-- The transaction of `execute` and of `execute_with_decision`. `mismatch` is what a denial under
    another key raises; `failure` is what the service has against the first effect. -/
def execute (mismatch : String) (failure : Option ρ) (record : OutboxRecord) (t : EffectTables ρ) :
    Except Error (Verdict ρ × EffectTables ρ) :=
  match Table.lookup LedgerRow.idempotencyKey t.ledger record.idempotencyKey with
  | some existing =>
    -- `_validate_existing`
    if ¬ existing.IsOf record then .error (.binding "idempotency key reused with a different effect payload")
    else .ok (.executed ⟨existing.effectRef, record.approvalId, record.action, true⟩, t)
  | none =>
    if (Table.lookup LedgerRow.approvalId t.ledger record.approvalId).isSome then
      .error (.binding "approval already mapped to another idempotency key")
    else
      match Table.lookup Denial.approvalId t.denials record.approvalId with
      | some denial =>
        if denial.idempotencyKey ≠ record.idempotencyKey then .error (.binding mismatch)
        else .ok (.denied denial.reason, t)
      | none =>
        match failure with
        | some reason =>
          if t.denials.any (fun d => d.idempotencyKey = record.idempotencyKey) then .error .integrity
          else .ok (.denied reason, { t with denials := t.denials ++ [⟨record.approvalId, record.idempotencyKey, reason⟩] })
        | none =>
          if t.ledger.any (fun l => l.effectRef = effectRef record.idempotencyKey) then .error .integrity
          else .ok (.executed ⟨effectRef record.idempotencyKey, record.approvalId, record.action, false⟩,
            { t with ledger := t.ledger ++ [.ofRecord record] })

theorem execute_error {t : EffectTables ρ} {e : Error}
    (h : t.execute mismatch failure record = .error e) : (∃ message, e = .binding message) ∨ e = .integrity := by
  unfold execute at h
  split at h
  · split_ifs at h
    cases h
    exact .inl ⟨_, rfl⟩
  · split at h
    · cases h
      exact .inl ⟨_, rfl⟩
    · split at h
      · split_ifs at h
        cases h
        exact .inl ⟨_, rfl⟩
      · split at h <;> split at h <;> cases h <;> exact .inr rfl

/-- What the transaction can come to. -/
inductive Executes (failure : Option ρ) (record : OutboxRecord) (t : EffectTables ρ) : Verdict ρ → EffectTables ρ → Prop
  | again (l : LedgerRow) : l ∈ t.ledger → l.IsOf record →
      Executes failure record t (.executed ⟨l.effectRef, record.approvalId, record.action, true⟩) t
  | deniedAgain (d : Denial ρ) : d ∈ t.denials → d.approvalId = record.approvalId →
      Executes failure record t (.denied d.reason) t
  | deny (reason : ρ) : failure = some reason → (∀ l ∈ t.ledger, l.approvalId ≠ record.approvalId) →
      Executes failure record t (.denied reason)
        { t with denials := t.denials ++ [⟨record.approvalId, record.idempotencyKey, reason⟩] }
  | execute : failure = none → (∀ l ∈ t.ledger, l.approvalId ≠ record.approvalId) →
      (∀ d ∈ t.denials, d.approvalId ≠ record.approvalId) →
      Executes failure record t (.executed ⟨effectRef record.idempotencyKey, record.approvalId, record.action, false⟩)
        { t with ledger := t.ledger ++ [.ofRecord record] }

theorem executes_of_ok {t t' : EffectTables ρ}
    {v : Verdict ρ} (h : t.execute mismatch failure record = .ok (v, t')) : Executes failure record t v t' := by
  unfold execute at h
  split at h
  · rename_i l hl
    split_ifs at h with hof
    cases h
    exact .again l (Table.mem_of_lookup hl) hof
  · split at h
    · cases h
    · rename_i hfree
      have hledger : ∀ l ∈ t.ledger, l.approvalId ≠ record.approvalId := by
        intro l hl heq
        have hnone : Table.lookup LedgerRow.approvalId t.ledger record.approvalId = none := by simpa using hfree
        exact Table.lookup_eq_none.mp hnone (heq ▸ List.mem_map_of_mem hl)
      split at h
      · rename_i d hd
        split_ifs at h
        cases h
        exact .deniedAgain d (Table.mem_of_lookup hd) (Table.key_of_lookup hd)
      · rename_i hd
        split at h
        · split_ifs at h
          cases h
          exact .deny _ rfl hledger
        · split_ifs at h
          cases h
          refine .execute rfl hledger fun d hmem heq => ?_
          exact Table.lookup_eq_none.mp hd (heq ▸ List.mem_map_of_mem hmem)

/-- The transaction, and what is raised when it is over. -/
def settle (raised : ρ → Error) (r : Except Error (Verdict ρ × EffectTables ρ)) (t : EffectTables ρ) :
    Except Error EffectExecution × EffectTables ρ :=
  match r with
  | .error e => (.error e, t)
  | .ok (.denied reason, t') => (.error (raised reason), t')
  | .ok (.executed execution, t') => (.ok execution, t')

end EffectTables

end Aegis.Effects
