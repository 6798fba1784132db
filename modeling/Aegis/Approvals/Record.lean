/-
  Aegis.Approvals.Record — approval records and what may happen to one (approvals/models.py,
  approvals/store.py, identity/models.py).

  Times are numbers. `Moves` is the life of a record: pending until an approver decides or it
  expires, approved until its requester uses it up or it expires, and then nothing more.
-/

import Aegis.Data.Dumps
import Aegis.Effects.Databases

namespace Aegis.Approvals

open Data
open Effects (Error)

/-- `ApprovalAction`, which the effects share. -/
abbrev ApprovalAction := Effects.Action

inductive Role where
  | employee | supportAnalyst | adminApprover | attacker
  deriving DecidableEq, Repr

structure Principal where
  userId : String
  tenantId : String
  roles : List Role
  deriving DecidableEq, Repr

inductive ApprovalStatus where
  | pending | approved | rejected | consumed | expired
  deriving DecidableEq, Repr

inductive ApprovalDecision where
  | approve | reject
  deriving DecidableEq, Repr

structure ApprovalRecord where
  approvalId : String
  nonce : String
  requesterUserId : String
  tenantId : String
  action : ApprovalAction
  normalizedArguments : Json
  bindingHash : String
  createdAt : Int
  expiresAt : Int
  status : ApprovalStatus
  approverUserId : Option String
  decidedAt : Option Int
  consumedAt : Option Int
  deriving DecidableEq, Repr

/-- A time to live that the constructor of a store accepts. -/
abbrev Ttl := { t : Int // 0 < t }

/-- `_canonicalize`, as the value of the text. -/
def canonicalize (arguments : Json) : Json := arguments.sorted

/-- `_binding_hash`. -/
def bindingHash (H : Hashing) (nonce requesterUserId tenantId : String) (action : ApprovalAction)
    (normalizedArguments : Json) : String :=
  H.sha256 (.str (Json.unitJoin [nonce, requesterUserId, tenantId, action.value, normalizedArguments.dumps]))

namespace ApprovalRecord

/-- The record `create` makes. -/
def fresh (H : Hashing) (approvalId nonce : String) (requester : Principal) (action : ApprovalAction) (arguments : Json)
    (now : Int) (ttl : Ttl) : ApprovalRecord where
  approvalId
  nonce
  requesterUserId := requester.userId
  tenantId := requester.tenantId
  action
  normalizedArguments := canonicalize arguments
  bindingHash := Approvals.bindingHash H nonce requester.userId requester.tenantId action (canonicalize arguments)
  createdAt := now
  expiresAt := now + ttl.1
  status := .pending
  approverUserId := none
  decidedAt := none
  consumedAt := none

/-- The candidate hash of `_verify_binding` is the record's. -/
def Matches (H : Hashing) (r : ApprovalRecord) (requester : Principal) (action : ApprovalAction) (arguments : Json) : Prop :=
  Approvals.bindingHash H r.nonce requester.userId requester.tenantId action (canonicalize arguments) = r.bindingHash

instance (H : Hashing) (r : ApprovalRecord) (requester : Principal) (action : ApprovalAction) (arguments : Json) :
    Decidable (r.Matches H requester action arguments) :=
  inferInstanceAs (Decidable (_ = _))

/-- The record is open and its time is over. -/
def Overdue (now : Int) (r : ApprovalRecord) : Prop := (r.status = .pending ∨ r.status = .approved) ∧ r.expiresAt ≤ now

instance (now : Int) (r : ApprovalRecord) : Decidable (r.Overdue now) := inferInstanceAs (Decidable (_ ∧ _))

def lapsed (r : ApprovalRecord) : ApprovalRecord := { r with status := .expired }

/-- The record `decide` leaves. -/
def decided (r : ApprovalRecord) (decision : ApprovalDecision) (approverUserId : String) (now : Int) : ApprovalRecord :=
  { r with
    status := match decision with
      | .approve => .approved
      | .reject => .rejected
    approverUserId := some approverUserId
    decidedAt := some now }

/-- The record `_consume_locked` leaves. -/
def used (r : ApprovalRecord) (now : Int) : ApprovalRecord :=
  { r with status := .consumed, consumedAt := some now }

/-- Nothing more happens to a record that is rejected, used up or stored as expired. -/
def Final (r : ApprovalRecord) : Prop := r.status = .rejected ∨ r.status = .consumed ∨ r.status = .expired

/-- A record's status and what is noted of its decision and its use agree. -/
structure WellFormed (r : ApprovalRecord) : Prop where
  undecided : r.status = .pending → r.approverUserId = none ∧ r.decidedAt = none
  decided : r.status = .approved → r.approverUserId.isSome ∧ r.decidedAt.isSome
  unused : r.status ≠ .consumed → r.consumedAt = none

/-- Who may decide on the record. -/
structure Approver (p : Principal) (r : ApprovalRecord) : Prop where
  role : .adminApprover ∈ p.roles
  tenant : p.tenantId = r.tenantId
  other : p.userId ≠ r.requesterUserId

instance (p : Principal) (r : ApprovalRecord) : Decidable (r.Approver p) :=
  decidable_of_iff (.adminApprover ∈ p.roles ∧ p.tenantId = r.tenantId ∧ p.userId ≠ r.requesterUserId)
    ⟨fun h => ⟨h.1, h.2.1, h.2.2⟩, fun h => ⟨h.role, h.tenant, h.other⟩⟩

end ApprovalRecord

/-! ## Operations -/

/-- `ApprovalWorkflowContext`. -/
structure WorkflowContext where
  threadId : String
  traceId : String
  toolCalls : Nat
  deriving DecidableEq, Repr

/-- The operations on a store of records, with the random tokens drawn, the workflow context bound
    and the readings of the clock: `now` is the first, `later` the second. -/
inductive Operation where
  | create (approvalId nonce : String) (requester : Principal) (action : ApprovalAction) (arguments : Json)
      (workflow : Option WorkflowContext) (now : Int) (ttl : Ttl)
  | get (approvalId : String) (now : Int)
  | decide (approvalId : String) (approver : Principal) (decision : ApprovalDecision) (now later : Int)
  | resolveAfterReview (approvalId : String) (requester : Principal) (action : ApprovalAction) (arguments : Json)
      (now later : Int)
  | consume (approvalId : String) (requester : Principal) (action : ApprovalAction) (arguments : Json) (now later : Int)

namespace Operation

/-- The record an operation is about. -/
def approvalId : Operation → String
  | create i .. | get i _ | decide i .. | resolveAfterReview i .. | consume i .. => i

/-- The operation makes this record. -/
def Makes (H : Hashing) (r : ApprovalRecord) (op : Operation) : Prop :=
  ∃ nonce requester action arguments workflow now ttl,
    op = .create r.approvalId nonce requester action arguments workflow now ttl ∧
      r = .fresh H r.approvalId nonce requester action arguments now ttl

/-- The operation is a `create` that draws this id. -/
def Draws (i : String) : Operation → Prop
  | create j .. => j = i
  | _ => False

/-- The operation decides on `r`, by a principal who may. -/
def Decides (r : ApprovalRecord) (decision : ApprovalDecision) (approver : Principal) (later : Int) (op : Operation) : Prop :=
  (∃ now, op = .decide r.approvalId approver decision now later) ∧ r.Approver approver

/-- The operation uses `r` up, for a requester, an action and arguments that are the record's. -/
def Uses (H : Hashing) (r : ApprovalRecord) (later : Int) (op : Operation) : Prop :=
  ∃ requester action arguments now, r.Matches H requester action arguments ∧
    (op = .resolveAfterReview r.approvalId requester action arguments now later ∨
      op = .consume r.approvalId requester action arguments now later)

end Operation

/-- What an operation may do to a record. -/
inductive Moves (H : Hashing) (op : Operation) : ApprovalRecord → ApprovalRecord → Prop
  | same (r : ApprovalRecord) : Moves H op r r
  | expire (r : ApprovalRecord) : r.status = .pending ∨ r.status = .approved → Moves H op r r.lapsed
  | decide (r : ApprovalRecord) (decision : ApprovalDecision) (p : Principal) (later : Int) :
      op.Decides r decision p later → r.status = .pending → Moves H op r (r.decided decision p.userId later)
  | use (r : ApprovalRecord) (later : Int) : op.Uses H r later → r.status = .approved → Moves H op r (r.used later)

/-- What an operation may do to the record stored under an id. Where ids can be drawn twice, the
    record under it may be replaced by a new one. -/
inductive Turns (H : Hashing) (replaces : Prop) (op : Operation) (i : String) :
    Option ApprovalRecord → Option ApprovalRecord → Prop
  | absent : Turns H replaces op i none none
  | moves (r r' : ApprovalRecord) : Moves H op r r' → Turns H replaces op i (some r) (some r')
  | made (r : ApprovalRecord) : r.approvalId = i → op.Makes H r → Turns H replaces op i none (some r)
  | remade (r r' : ApprovalRecord) : replaces → op.Draws i → r'.approvalId = i → op.Makes H r' →
      Turns H replaces op i (some r) (some r')

/-- What no operation changes of a record, and what it sets only once. -/
structure Kept (r r' : ApprovalRecord) : Prop where
  approvalId : r'.approvalId = r.approvalId
  nonce : r'.nonce = r.nonce
  requesterUserId : r'.requesterUserId = r.requesterUserId
  tenantId : r'.tenantId = r.tenantId
  action : r'.action = r.action
  normalizedArguments : r'.normalizedArguments = r.normalizedArguments
  bindingHash : r'.bindingHash = r.bindingHash
  createdAt : r'.createdAt = r.createdAt
  expiresAt : r'.expiresAt = r.expiresAt
  approverUserId : r.approverUserId.isSome → r'.approverUserId = r.approverUserId
  decidedAt : r.decidedAt.isSome → r'.decidedAt = r.decidedAt
  consumedAt : r.consumedAt.isSome → r'.consumedAt = r.consumedAt
  final : r.Final → r' = r

/-! ## The life of a record -/

variable {H : Hashing} {op : Operation} {r r' r'' : ApprovalRecord}

theorem Kept.refl (r : ApprovalRecord) : Kept r r :=
  ⟨rfl, rfl, rfl, rfl, rfl, rfl, rfl, rfl, rfl, fun _ => rfl, fun _ => rfl, fun _ => rfl, fun _ => rfl⟩

theorem Kept.trans (h : Kept r r') (h' : Kept r' r'') : Kept r r'' where
  approvalId := h'.approvalId.trans h.approvalId
  nonce := h'.nonce.trans h.nonce
  requesterUserId := h'.requesterUserId.trans h.requesterUserId
  tenantId := h'.tenantId.trans h.tenantId
  action := h'.action.trans h.action
  normalizedArguments := h'.normalizedArguments.trans h.normalizedArguments
  bindingHash := h'.bindingHash.trans h.bindingHash
  createdAt := h'.createdAt.trans h.createdAt
  expiresAt := h'.expiresAt.trans h.expiresAt
  approverUserId hs := by
    have h1 := h.approverUserId hs
    rw [h'.approverUserId (h1 ▸ hs), h1]
  decidedAt hs := by
    have h1 := h.decidedAt hs
    rw [h'.decidedAt (h1 ▸ hs), h1]
  consumedAt hs := by
    have h1 := h.consumedAt hs
    rw [h'.consumedAt (h1 ▸ hs), h1]
  final hf := by
    have h1 := h.final hf
    rw [h'.final (h1 ▸ hf), h1]

theorem Moves.final (h : Moves H op r r') (hf : r.Final) : r' = r := by
  cases h with
  | same => rfl
  | expire hs => rcases hs with hs | hs <;> rcases hf with h | h | h <;> cases hs.symm.trans h
  | decide decision p later _ hs => rcases hf with h | h | h <;> cases hs.symm.trans h
  | use later _ hs => rcases hf with h | h | h <;> cases hs.symm.trans h

theorem Turns.final {i : String} {x : Option ApprovalRecord} (h : Turns H False op i (some r) x) (hf : r.Final) :
    x = some r := by
  cases h with
  | moves _ r' hm => rw [hm.final hf]
  | remade _ _ hfalse => exact hfalse.elim

theorem Moves.kept (h : Moves H op r r') (hw : r.WellFormed) : Kept r r' := by
  have hfinal := h.final
  cases h with
  | same => exact .refl r
  | expire hs => exact ⟨rfl, rfl, rfl, rfl, rfl, rfl, rfl, rfl, rfl, fun _ => rfl, fun _ => rfl, fun _ => rfl, hfinal⟩
  | decide decision p later _ hs =>
    obtain ⟨h1, h2⟩ := hw.undecided hs
    refine ⟨rfl, rfl, rfl, rfl, rfl, rfl, rfl, rfl, rfl, ?_, ?_, fun _ => rfl, hfinal⟩
    · intro h
      rw [h1] at h
      cases h
    · intro h
      rw [h2] at h
      cases h
  | use later _ hs =>
    refine ⟨rfl, rfl, rfl, rfl, rfl, rfl, rfl, rfl, rfl, fun _ => rfl, fun _ => rfl, ?_, hfinal⟩
    intro h
    rw [hw.unused (by rw [hs]; nofun)] at h
    cases h

theorem Moves.wellFormed (h : Moves H op r r') (hw : r.WellFormed) : r'.WellFormed := by
  cases h with
  | same => exact hw
  | expire hs =>
    refine ⟨nofun, nofun, fun _ => hw.unused fun h => ?_⟩
    rcases hs with hs | hs <;> cases hs.symm.trans h
  | decide decision p later _ hs =>
    cases decision with
    | approve => exact ⟨nofun, fun _ => ⟨rfl, rfl⟩, fun _ => hw.unused (by rw [hs]; nofun)⟩
    | reject => exact ⟨nofun, nofun, fun _ => hw.unused (by rw [hs]; nofun)⟩
  | use later _ hs => exact ⟨nofun, nofun, fun h => absurd rfl h⟩

theorem fresh_wellFormed (H : Hashing) (i nonce : String) (requester : Principal) (action : ApprovalAction)
    (arguments : Json) (now : Int) (ttl : Ttl) : (ApprovalRecord.fresh H i nonce requester action arguments now ttl).WellFormed :=
  ⟨fun _ => ⟨rfl, rfl⟩, nofun, fun _ => rfl⟩

end Aegis.Approvals
