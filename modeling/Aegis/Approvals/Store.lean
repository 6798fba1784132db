/-
  Aegis.Approvals.Store — the two stores of approval records: `ApprovalStore` in memory
  (approvals/store.py) and `DurableApprovalStore` in SQLite (approvals/durable.py).

  The first keeps what an operation wrote before it raised; the second rolls it back, so an
  expiry is stored only by an operation that returns. The durable store also answers an
  approver's or requester's repetition of what was done already.

  `memory_turns` and `durable_turns` say what either does to the record of one id.
-/

import Aegis.Approvals.Record

namespace Aegis.Approvals

open Data
open Effects (Error)

abbrev Records := List ApprovalRecord

def find (s : Records) (approvalId : String) : Option ApprovalRecord :=
  Table.lookup ApprovalRecord.approvalId s approvalId

variable (H : Hashing)

/-- `_verify_binding`. -/
def verifyBinding (r : ApprovalRecord) (requester : Principal) (action : ApprovalAction) (arguments : Json) :
    Except Error Unit :=
  if ¬ r.Matches H requester action arguments then .error (.approvalBinding "approval binding mismatch") else .ok ()

/-- The checks `decide` makes of its principal. -/
def verifyApprover (r : ApprovalRecord) (approver : Principal) : Except Error Unit :=
  if .adminApprover ∉ approver.roles then .error (.approvalAuthorization "principal is not an approver")
  else if approver.tenantId ≠ r.tenantId then .error (.approvalAuthorization "cross-tenant approval is forbidden")
  else if approver.userId = r.requesterUserId then .error (.approvalAuthorization "self-approval is forbidden")
  else .ok ()

/-! ## In memory -/

namespace ApprovalStore

/-- `self._records[record.approval_id] = record`. -/
def put (s : Records) (r : ApprovalRecord) : Records :=
  match find s r.approvalId with
  | some _ => Table.update ApprovalRecord.approvalId s r.approvalId fun _ => r
  | none => s ++ [r]

/-- `_expire_if_needed`. -/
def expireIfNeeded (now : Int) (s : Records) (r : ApprovalRecord) : ApprovalRecord × Records :=
  if r.Overdue now then (r.lapsed, put s r.lapsed) else (r, s)

/-- What every operation but `create` starts with. -/
def load (now : Int) (s : Records) (approvalId : String) (body : ApprovalRecord → Records → Except Error ApprovalRecord × Records) :
    Except Error ApprovalRecord × Records :=
  match find s approvalId with
  | none => (.error (.approvalNotFound "approval not found"), s)
  | some r => body (expireIfNeeded now s r).1 (expireIfNeeded now s r).2

def create (approvalId nonce : String) (requester : Principal) (action : ApprovalAction) (arguments : Json) (now : Int)
    (ttl : Ttl) (s : Records) : Except Error ApprovalRecord × Records :=
  let record := .fresh H approvalId nonce requester action arguments now ttl
  (.ok record, put s record)

def get (approvalId : String) (now : Int) (s : Records) : Except Error ApprovalRecord × Records :=
  load now s approvalId fun record s => (.ok record, s)

def decide (approvalId : String) (approver : Principal) (decision : ApprovalDecision) (now later : Int) (s : Records) :
    Except Error ApprovalRecord × Records :=
  load now s approvalId fun record s =>
    match verifyApprover record approver with
    | .error e => (.error e, s)
    | .ok () =>
      if record.status ≠ .pending then (.error (.approvalState "approval is not pending"), s)
      else (.ok (record.decided decision approver.userId later), put s (record.decided decision approver.userId later))

/-- `_consume_locked`. -/
def consumeLocked (record : ApprovalRecord) (requester : Principal) (action : ApprovalAction) (arguments : Json) (later : Int)
    (s : Records) : Except Error ApprovalRecord × Records :=
  match verifyBinding H record requester action arguments with
  | .error e => (.error e, s)
  | .ok () => (.ok (record.used later), put s (record.used later))

def resolveAfterReview (approvalId : String) (requester : Principal) (action : ApprovalAction) (arguments : Json)
    (now later : Int) (s : Records) : Except Error ApprovalRecord × Records :=
  load now s approvalId fun record s =>
    if record.status = .rejected then ((verifyBinding H record requester action arguments).map fun _ => record, s)
    else if record.status ≠ .approved then (.error (.approvalState "approval is not ready for consumption"), s)
    else consumeLocked H record requester action arguments later s

def consume (approvalId : String) (requester : Principal) (action : ApprovalAction) (arguments : Json) (now later : Int)
    (s : Records) : Except Error ApprovalRecord × Records :=
  load now s approvalId fun record s =>
    if record.status ≠ .approved then (.error (.approvalState "approval is not approved"), s)
    else consumeLocked H record requester action arguments later s

def step : Operation → Records → Except Error ApprovalRecord × Records
  | .create approvalId nonce requester action arguments _ now ttl => create H approvalId nonce requester action arguments now ttl
  | .get approvalId now => get approvalId now
  | .decide approvalId approver decision now later => decide approvalId approver decision now later
  | .resolveAfterReview approvalId requester action arguments now later =>
    resolveAfterReview H approvalId requester action arguments now later
  | .consume approvalId requester action arguments now later => consume H approvalId requester action arguments now later

end ApprovalStore

/-! ## In SQLite -/

/-- `approval_workflows`. -/
structure WorkflowRow where
  approvalId : String
  threadId : String
  traceId : String
  requesterUserId : String
  tenantId : String
  requesterRoles : List Role
  action : ApprovalAction
  normalizedArguments : Json
  toolCalls : Nat
  completed : Bool
  finalOutcome : Option String
  createdAt : Int
  completedAt : Option Int
  deriving DecidableEq, Repr

/-- `approval_records` and `approval_workflows`. -/
structure ApprovalDb where
  records : Records
  workflows : List WorkflowRow
  deriving DecidableEq, Repr

namespace DurableApprovalStore

/-- `UPDATE approval_records SET … WHERE approval_id = ? AND status = ?`. -/
def updateWhere (db : ApprovalDb) (approvalId : String) (status : ApprovalStatus) (f : ApprovalRecord → ApprovalRecord) :
    ApprovalDb :=
  { db with records := Table.update ApprovalRecord.approvalId db.records approvalId fun r => if r.status = status then f r else r }

/-- `_load_locked`. -/
def loadLocked (approvalId : String) (now : Int) (db : ApprovalDb) : Except Error (ApprovalRecord × ApprovalDb) :=
  match find db.records approvalId with
  | none => .error (.approvalNotFound "approval not found")
  | some record =>
    if record.Overdue now then
      .ok (record.lapsed, { db with records := Table.update ApprovalRecord.approvalId db.records approvalId ApprovalRecord.lapsed })
    else .ok (record, db)

def create (approvalId nonce : String) (requester : Principal) (action : ApprovalAction) (arguments : Json)
    (workflow : Option WorkflowContext) (now : Int) (ttl : Ttl) (db : ApprovalDb) :
    Except Error (ApprovalRecord × ApprovalDb) :=
  let record := .fresh H approvalId nonce requester action arguments now ttl
  if (find db.records approvalId).isSome then .error .integrity
  else
    match workflow with
    | none => .ok (record, { db with records := db.records ++ [record] })
    | some context =>
      -- the primary key, and UNIQUE (thread_id)
      if db.workflows.any (fun row => row.approvalId = approvalId ∨ row.threadId = context.threadId) then .error .integrity
      else .ok (record,
        { records := db.records ++ [record]
          workflows := db.workflows ++ [{
            approvalId
            threadId := context.threadId
            traceId := context.traceId
            requesterUserId := requester.userId
            tenantId := requester.tenantId
            requesterRoles := requester.roles
            action
            normalizedArguments := canonicalize arguments
            toolCalls := context.toolCalls
            completed := false
            finalOutcome := none
            createdAt := now
            completedAt := none }] })

def get (approvalId : String) (now : Int) (db : ApprovalDb) : Except Error (ApprovalRecord × ApprovalDb) :=
  loadLocked approvalId now db

/-- The status a decision asks for. -/
def desiredStatus : ApprovalDecision → ApprovalStatus
  | .approve => .approved
  | .reject => .rejected

def decide (approvalId : String) (approver : Principal) (decision : ApprovalDecision) (now later : Int) (db : ApprovalDb) :
    Except Error (ApprovalRecord × ApprovalDb) := do
  let (record, db) ← loadLocked approvalId now db
  verifyApprover record approver
  if record.status = .pending then
    .ok (record.decided decision approver.userId later,
      updateWhere db approvalId .pending fun r => r.decided decision approver.userId later)
  else if record.approverUserId = some approver.userId ∧ (record.status = desiredStatus decision ∨
      record.status = .consumed ∧ desiredStatus decision = .approved) then .ok (record, db)
  else .error (.approvalState "approval is not pending")

/-- The end of `resolve_after_review` and of `consume`. -/
def consumeLocked (approvalId : String) (record : ApprovalRecord) (later : Int) (db : ApprovalDb) : ApprovalRecord × ApprovalDb :=
  (record.used later, updateWhere db approvalId .approved fun r => r.used later)

def resolveAfterReview (approvalId : String) (requester : Principal) (action : ApprovalAction) (arguments : Json)
    (now later : Int) (db : ApprovalDb) : Except Error (ApprovalRecord × ApprovalDb) := do
  let (record, db) ← loadLocked approvalId now db
  verifyBinding H record requester action arguments
  if record.status = .rejected then .ok (record, db)
  else if record.status = .consumed then .ok (record, db)
  else if record.status ≠ .approved then .error (.approvalState "approval is not ready for consumption")
  else .ok (consumeLocked approvalId record later db)

def consume (approvalId : String) (requester : Principal) (action : ApprovalAction) (arguments : Json) (now later : Int)
    (db : ApprovalDb) : Except Error (ApprovalRecord × ApprovalDb) := do
  let (record, db) ← loadLocked approvalId now db
  verifyBinding H record requester action arguments
  if record.status = .consumed then .ok (record, db)
  else if record.status ≠ .approved then .error (.approvalState "approval is not approved")
  else .ok (consumeLocked approvalId record later db)

/-- The transaction of an operation. -/
def transaction : Operation → ApprovalDb → Except Error (ApprovalRecord × ApprovalDb)
  | .create approvalId nonce requester action arguments workflow now ttl =>
    create H approvalId nonce requester action arguments workflow now ttl
  | .get approvalId now => get approvalId now
  | .decide approvalId approver decision now later => decide approvalId approver decision now later
  | .resolveAfterReview approvalId requester action arguments now later =>
    resolveAfterReview H approvalId requester action arguments now later
  | .consume approvalId requester action arguments now later => consume H approvalId requester action arguments now later

/-- What it raises undoes it. -/
def step (op : Operation) (db : ApprovalDb) : Except Error ApprovalRecord × ApprovalDb :=
  match transaction H op db with
  | .ok (record, db') => (.ok record, db')
  | .error e => (.error e, db)

end DurableApprovalStore

end Aegis.Approvals
