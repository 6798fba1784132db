/-
  Aegis.Approvals.Expiry — whether an approval can be decided on or used up once it has expired
  (approvals/store.py, approvals/durable.py and `resolve_after_review_and_enqueue` of
  effects/durable.py).

  An operation reads the clock to test the expiry and reads it again to stamp the record. `stamp`
  is the second reading, where the operation gets that far. Of the stores only three facts are
  used (`Stamps`): what is not stamped stays or lapses, what is stamped has that time, and a
  record is made as `create` makes it.

  - `inTime_iff`: along a run every stamp is before the expiry exactly when every second reading
    that stamps a record is.
  - `Sample.late`: a clock that only moves forward, and passes the expiry between two readings.
-/

import Aegis.Approvals.Workflow
import Aegis.Effects.ExactlyOnce

namespace Aegis.Approvals

open Data
open Effects (Error Outbox)

/-- Decided on, and used up, before it expired. -/
structure InTime (r : ApprovalRecord) : Prop where
  decided : ∀ t, r.decidedAt = some t → t < r.expiresAt
  consumed : r.status = .consumed → ∃ t, r.consumedAt = some t ∧ t < r.expiresAt

variable (H : Hashing)

/-- The time the operation stamps this record with, if it gets that far. -/
def Operation.stamp (r : ApprovalRecord) : Operation → Option Int
  | decide _ approver _ now later =>
    if r.status = .pending ∧ ¬ r.Overdue now ∧ r.Approver approver then some later else none
  | resolveAfterReview _ requester action arguments now later | consume _ requester action arguments now later =>
    if r.status = .approved ∧ ¬ r.Overdue now ∧ r.Matches H requester action arguments then some later else none
  | _ => none

/-- What the expiry rests on, of operations `ω` on a state `σ` that holds records. -/
structure Stamps {σ ω : Type} (records : σ → Records) (step : ω → σ → σ) (subject : ω → String)
    (stamp : ω → σ → ApprovalRecord → Option Int) : Prop where
  made : ∀ x s i, find (records s) i = none → ∀ r', find (records (step x s)) i = some r' → InTime r'
  quiet : ∀ x s i r, find (records s) i = some r → (subject x = i → stamp x s r = none) → ∀ r', find (records (step x s)) i = some r' →
    r' = r ∨ r' = r.lapsed ∨ InTime r'
  stamped : ∀ x s r t, find (records s) (subject x) = some r → stamp x s r = some t →
    ∃ decision approver r', find (records (step x s)) (subject x) = some r' ∧ (r' = r.decided decision approver t ∨ r' = r.used t)

/-! ## Along a run -/

section Runs

variable {σ ω : Type} {records : σ → Records} {step : ω → σ → σ} {subject : ω → String}
  {stamp : ω → σ → ApprovalRecord → Option Int} {r : ApprovalRecord} {s : σ} {run : List ω}

/-- The state after the first `n` operations of a run. -/
def reached (step : ω → σ → σ) (s : σ) (run : List ω) (n : Nat) : σ := (run.take n).foldl (fun s x => step x s) s

theorem reached_succ {n : Nat} {x : ω} (h : run[n]? = some x) :
    reached step s run (n + 1) = step x (reached step s run n) := by
  unfold reached
  rw [List.take_add_one, h, List.foldl_append]
  rfl

theorem reached_end {n : Nat} (h : run[n]? = none) : reached step s run (n + 1) = reached step s run n := by
  unfold reached
  rw [List.take_add_one, h]
  simp

theorem InTime.lapsed (h : InTime r) : InTime r.lapsed := ⟨h.decided, fun hs => by cases hs⟩

theorem InTime.decided_at {decision : ApprovalDecision} {approver : String} {t : Int} (ht : t < r.expiresAt) :
    InTime (r.decided decision approver t) := by
  refine ⟨fun u hu => ?_, fun hs => ?_⟩
  · cases hu
    exact ht
  · cases decision <;> cases hs

theorem InTime.used_at {t : Int} (h : InTime r) (ht : t < r.expiresAt) : InTime (r.used t) :=
  ⟨h.decided, fun _ => ⟨t, rfl, ht⟩⟩

/-- The next operation stamps no record at or after its expiry. -/
def Prompt (records : σ → Records) (subject : ω → String) (stamp : ω → σ → ApprovalRecord → Option Int) (x : ω) (s : σ) : Prop :=
  ∀ r t, find (records s) (subject x) = some r → stamp x s r = some t → t < r.expiresAt

theorem inTime_step (h : Stamps records step subject stamp) {x : ω} (hp : Prompt records subject stamp x s)
    (hs : ∀ i r, find (records s) i = some r → InTime r) (i : String) (r' : ApprovalRecord)
    (hr' : find (records (step x s)) i = some r') : InTime r' := by
  cases hr : find (records s) i with
  | none => exact h.made x s i hr r' hr'
  | some r =>
    have hin := hs i r hr
    cases hstamp : stamp x s r with
    | none =>
      rcases h.quiet x s i r hr (fun _ => hstamp) r' hr' with rfl | rfl | hin'
      · exact hin
      · exact hin.lapsed
      · exact hin'
    | some t =>
      by_cases hi : subject x = i
      · subst hi
        have ht := hp r t hr hstamp
        obtain ⟨decision, approver, r1, hnew, hr1⟩ := h.stamped x s r t hr hstamp
        rw [hnew] at hr'
        cases hr'
        rcases hr1 with rfl | rfl
        · exact .decided_at ht
        · exact hin.used_at ht
      · rcases h.quiet x s i r hr (fun he => absurd he hi) r' hr' with rfl | rfl | hin'
        · exact hin
        · exact hin.lapsed
        · exact hin'

/-- Every record of every state of a run is in time exactly when every operation was prompt. -/
theorem inTime_iff (h : Stamps records step subject stamp) (hempty : ∀ i, find (records s) i = none) (run : List ω) :
    (∀ n i r, find (records (reached step s run n)) i = some r → InTime r) ↔
      ∀ n x, run[n]? = some x → Prompt records subject stamp x (reached step s run n) := by
  constructor
  · intro hall n x hx r t hr hstamp
    have hnext := hall (n + 1) (subject x)
    rw [reached_succ hx] at hnext
    obtain ⟨decision, approver, r1, hnew, hr1⟩ := h.stamped x _ r t hr hstamp
    rcases hr1 with rfl | rfl
    · exact (hnext _ hnew).decided t rfl
    · obtain ⟨u, hu, hlt⟩ := (hnext _ hnew).consumed rfl
      cases hu
      exact hlt
  · intro hprompt n
    induction n with
    | zero =>
      intro i r hr
      rw [show reached step s run 0 = s from rfl, hempty i] at hr
      cases hr
    | succ n ih =>
      intro i r hr
      cases hx : run[n]? with
      | none =>
        rw [reached_end hx] at hr
        exact ih i r hr
      | some x =>
        rw [reached_succ hx] at hr
        exact inTime_step h (hprompt n x hx) ih i r hr

end Runs

/-! ## What an operation stamps -/

variable {H} {op : Operation} {r r' : ApprovalRecord} {i : String}

/-- The reading an operation tests the expiry by. -/
def Operation.now : Operation → Int
  | create _ _ _ _ _ _ now _ | get _ now | decide _ _ _ now _ | resolveAfterReview _ _ _ _ now _ | consume _ _ _ _ now _ => now

theorem fresh_inTime (i nonce : String) (requester : Principal) (action : ApprovalAction) (arguments : Json) (now : Int)
    (ttl : Ttl) : InTime (.fresh H i nonce requester action arguments now ttl) :=
  ⟨fun _ h => (by cases h), fun h => (by cases h)⟩

theorem Operation.Makes.inTime (h : op.Makes H r) : InTime r := by
  obtain ⟨nonce, requester, action, arguments, workflow, now, ttl, -, hr⟩ := h
  rw [hr]
  exact fresh_inTime _ nonce requester action arguments now ttl

/-- An operation that does not stamp a record leaves it, lets it lapse or replaces it, unless it was
    overdue when the operation began. -/
theorem Turns.unstamped {replaces : Prop} (h : Turns H replaces op i (some r) (some r')) (hid : r.approvalId = i)
    (hn : op.approvalId = i → op.stamp H r = none) :
    r' = r ∨ r' = r.lapsed ∨ InTime r' ∨ (op.approvalId = i ∧ ¬ op.Draws i ∧ r.Overdue op.now) := by
  cases h with
  | remade _ _ _ _ _ hm => exact .inr (.inr (.inl hm.inTime))
  | moves _ _ hm =>
    cases hm with
    | same => exact .inl rfl
    | expire _ => exact .inr (.inl rfl)
    | decide decision p later hd hs =>
      obtain ⟨⟨now, rfl⟩, hp⟩ := hd
      by_cases ho : r.Overdue now
      · exact .inr (.inr (.inr ⟨hid, id, ho⟩))
      · have hstamp := hn hid
        rw [Operation.stamp, if_pos ⟨hs, ho, hp⟩] at hstamp
        cases hstamp
    | use later hu hs =>
      obtain ⟨requester, action, arguments, now, hm, rfl | rfl⟩ := hu
      · by_cases ho : r.Overdue now
        · exact .inr (.inr (.inr ⟨hid, id, ho⟩))
        · have hstamp := hn hid
          rw [Operation.stamp, if_pos ⟨hs, ho, hm⟩] at hstamp
          cases hstamp
      · by_cases ho : r.Overdue now
        · exact .inr (.inr (.inr ⟨hid, id, ho⟩))
        · have hstamp := hn hid
          rw [Operation.stamp, if_pos ⟨hs, ho, hm⟩] at hstamp
          cases hstamp

/-- The record an operation leaves that stamps it. -/
def Operation.leaves (r : ApprovalRecord) (t : Int) : Operation → ApprovalRecord
  | decide _ approver decision _ _ => r.decided decision approver.userId t
  | _ => r.used t

theorem Operation.leaves_stamped (op : Operation) (r : ApprovalRecord) (t : Int) :
    ∃ decision approver, op.leaves r t = r.decided decision approver t ∨ op.leaves r t = r.used t := by
  cases op with
  | decide j p decision now later => exact ⟨decision, p.userId, .inl rfl⟩
  | _ => exact ⟨.approve, "", .inr rfl⟩

/-- What is stamped is open and not overdue, and the stamp is of an operation about it. -/
inductive Operation.Stamped (H : Hashing) (r : ApprovalRecord) (t : Int) : Operation → Prop
  | decide (p : Principal) (decision : ApprovalDecision) (now : Int) : r.status = .pending → ¬ r.Overdue now → r.Approver p →
      Stamped H r t (.decide r.approvalId p decision now t)
  | resolve (requester : Principal) (action : ApprovalAction) (arguments : Json) (now : Int) : r.status = .approved →
      ¬ r.Overdue now → r.Matches H requester action arguments →
      Stamped H r t (.resolveAfterReview r.approvalId requester action arguments now t)
  | consume (requester : Principal) (action : ApprovalAction) (arguments : Json) (now : Int) : r.status = .approved →
      ¬ r.Overdue now → r.Matches H requester action arguments →
      Stamped H r t (.consume r.approvalId requester action arguments now t)

theorem Operation.stamped_of {t : Int} (hid : r.approvalId = op.approvalId) (h : op.stamp H r = some t) : op.Stamped H r t := by
  cases op with
  | create | get => cases h
  | decide j p decision now later =>
    simp only [stamp] at h
    split_ifs at h with hc
    cases h
    obtain ⟨hs, ho, hp⟩ := hc
    cases show r.approvalId = j from hid
    exact .decide p decision now hs ho hp
  | resolveAfterReview j requester action arguments now later =>
    simp only [stamp] at h
    split_ifs at h with hc
    cases h
    obtain ⟨hs, ho, hm⟩ := hc
    cases show r.approvalId = j from hid
    exact .resolve requester action arguments now hs ho hm
  | consume j requester action arguments now later =>
    simp only [stamp] at h
    split_ifs at h with hc
    cases h
    obtain ⟨hs, ho, hm⟩ := hc
    cases show r.approvalId = j from hid
    exact .consume requester action arguments now hs ho hm

/-! ## In memory -/

namespace ApprovalStore

variable {s : Records}

theorem find_overdue (hr : find s i = some r) (hi : op.approvalId = i) (hd : ¬ op.Draws i) (ho : r.Overdue op.now) :
    find (step H op s).2 i = some r.lapsed := by
  have hload : ∀ {body : ApprovalRecord → Records → Except Error ApprovalRecord × Records},
      (body r.lapsed (put s r.lapsed)).2 = put s r.lapsed → find (load op.now s i body).2 i = some r.lapsed := by
    intro body hb
    unfold load
    rw [hr]
    simp only [expireIfNeeded, if_pos ho, hb, find_put]
    exact if_pos (id_of_find hr)
  cases op with
  | create => exact absurd hi hd
  | get j now =>
    cases hi
    exact hload rfl
  | decide j p decision now later =>
    cases hi
    refine hload ?_
    cases verifyApprover r.lapsed p <;> rfl
  | resolveAfterReview j requester action arguments now later =>
    cases hi
    exact hload rfl
  | consume j requester action arguments now later =>
    cases hi
    exact hload rfl

theorem find_stamped {t : Int} (hr : find s op.approvalId = some r) (h : op.stamp H r = some t) :
    find (step H op s).2 op.approvalId = some (op.leaves r t) := by
  have hload : ∀ {now : Int} {body : ApprovalRecord → Records → Except Error ApprovalRecord × Records} {r' : ApprovalRecord},
      ¬ r.Overdue now → r'.approvalId = r.approvalId → (body r s).2 = put s r' → find s r.approvalId = some r →
        find (load now s r.approvalId body).2 r.approvalId = some r' := by
    intro now body r' ho hid hb hr
    unfold load
    rw [hr]
    simp only [expireIfNeeded, if_neg ho, hb, find_put]
    exact if_pos hid
  cases Operation.stamped_of (id_of_find hr) h with
  | decide p decision now hs ho hp =>
    refine hload ho rfl ?_ hr
    simp only [DurableApprovalStore.verified_of_approver hp, hs, ne_eq, not_true_eq_false, if_false]
    rfl
  | resolve requester action arguments now hs ho hm =>
    refine hload ho rfl ?_ hr
    rw [if_neg (by rw [hs]; decide), if_neg (not_not_intro hs), consumeLocked, DurableApprovalStore.verified_of_matches hm]
    rfl
  | consume requester action arguments now hs ho hm =>
    refine hload ho rfl ?_ hr
    rw [if_neg (not_not_intro hs), consumeLocked, DurableApprovalStore.verified_of_matches hm]
    rfl

variable (H) in
theorem stamps : Stamps id (fun op s => (step H op s).2) Operation.approvalId fun op _ r => op.stamp H r where
  made op s i hr r' hr' := by
    have hturn := memory_turns (H := H) op s i
    rw [show find s i = none from hr, show find (step H op s).2 i = some r' from hr'] at hturn
    cases hturn with
    | made _ _ hm => exact hm.inTime
  quiet op s i r hr hn r' hr' := by
    have hturn := memory_turns (H := H) op s i
    rw [show find s i = some r from hr, show find (step H op s).2 i = some r' from hr'] at hturn
    rcases hturn.unstamped (id_of_find hr) hn with h | h | h | ⟨hi, hd, ho⟩
    · exact .inl h
    · exact .inr (.inl h)
    · exact .inr (.inr h)
    · have hlapsed : find (step H op s).2 i = some r.lapsed := find_overdue hr hi hd ho
      exact .inr (.inl (Option.some.inj (hr'.symm.trans hlapsed)))
  stamped op s r t hr h := by
    obtain ⟨decision, approver, hleaves⟩ := op.leaves_stamped r t
    exact ⟨decision, approver, _, find_stamped hr h, hleaves⟩

end ApprovalStore

/-! ## In SQLite -/

namespace DurableApprovalStore

variable {db db' : ApprovalDb} {x : ApprovalRecord × ApprovalDb}

theorem find_overdue (hr : find db.records i = some r) (hi : op.approvalId = i) (hd : ¬ op.Draws i) (ho : r.Overdue op.now)
    (h : transaction H op db = .ok x) : find x.2.records i = some r.lapsed := by
  have hload : ∀ {y : ApprovalRecord × ApprovalDb}, loadLocked i op.now db = .ok y →
      y.1 = r.lapsed ∧ find y.2.records i = some r.lapsed := by
    intro y hl
    have hlapsed : y.1 = r.lapsed := by
      unfold loadLocked at hl
      rw [hr] at hl
      simp only [if_pos ho] at hl
      cases hl
      rfl
    exact ⟨hlapsed, hlapsed ▸ find_loaded hl⟩
  cases op with
  | create => exact absurd hi hd
  | get j now =>
    cases hi
    exact (hload h).2
  | decide j p decision now later =>
    cases hi
    obtain ⟨y, hl, -, ⟨hs, -⟩ | ⟨rfl, -⟩⟩ := decide_ok h
    · rw [(hload hl).1] at hs
      cases hs
    · exact (hload hl).2
  | resolveAfterReview j requester action arguments now later =>
    cases hi
    obtain ⟨y, hl, -, ⟨-, rfl⟩ | ⟨hs, -⟩⟩ := resolveAfterReview_ok h
    · exact (hload hl).2
    · rw [(hload hl).1] at hs
      cases hs
  | consume j requester action arguments now later =>
    cases hi
    obtain ⟨y, hl, -, ⟨-, rfl⟩ | ⟨hs, -⟩⟩ := consume_ok h
    · exact (hload hl).2
    · rw [(hload hl).1] at hs
      cases hs

/-- What a transaction that commits does to a record it does not stamp. -/
theorem find_unstamped (hr : find db.records i = some r) (hn : op.approvalId = i → op.stamp H r = none)
    (h : transaction H op db = .ok x) (hr' : find x.2.records i = some r') : r' = r ∨ r' = r.lapsed ∨ InTime r' := by
  have hturn := transaction_turns (i := i) h
  rw [hr, hr'] at hturn
  rcases hturn.unstamped (id_of_find hr) hn with h1 | h1 | h1 | ⟨hi, hd, ho⟩
  · exact .inl h1
  · exact .inr (.inl h1)
  · exact .inr (.inr h1)
  · rw [find_overdue hr hi hd ho h] at hr'
    exact .inr (.inl (Option.some.inj hr').symm)

theorem find_stamped {t : Int} (hr : find db.records op.approvalId = some r) (h : op.stamp H r = some t) :
    ∃ db', transaction H op db = .ok (op.leaves r t, db') ∧ find db'.records op.approvalId = some (op.leaves r t) := by
  have hfound : find db.records r.approvalId = some r := by
    rw [id_of_find hr]
    exact hr
  cases Operation.stamped_of (id_of_find hr) h with
  | decide p decision now hs ho hp =>
    refine ⟨updateWhere db r.approvalId .pending fun r => r.decided decision p.userId t, ?_,
      find_written (f := fun r => r.decided decision p.userId t) (fun _ => rfl) hfound hs⟩
    simp only [transaction, decide, loadLocked_open hfound ho, verified_of_approver hp, bind, Except.bind, if_pos hs]
    rfl
  | resolve requester action arguments now hs ho hm =>
    refine ⟨(consumeLocked r.approvalId r t db).2, ?_, find_used hfound hs⟩
    simp only [transaction, resolveAfterReview, loadLocked_open hfound ho, verified_of_matches hm, bind, Except.bind]
    rw [if_neg (by rw [hs]; decide), if_neg (by rw [hs]; decide), if_neg (not_not_intro hs)]
    rfl
  | consume requester action arguments now hs ho hm =>
    refine ⟨(consumeLocked r.approvalId r t db).2, ?_, find_used hfound hs⟩
    simp only [transaction, consume, loadLocked_open hfound ho, verified_of_matches hm, bind, Except.bind]
    rw [if_neg (by rw [hs]; decide), if_neg (not_not_intro hs)]
    rfl

end DurableApprovalStore

/-! ## With the coordinator of effects -/

/-- The operations on the file of approvals and outbox. -/
inductive Coordinated where
  | store (op : Operation)
  /-- `resolve_after_review_and_enqueue`. -/
  | enqueue (approvalId : String) (requester : Principal) (action : ApprovalAction) (arguments : Json) (now later : Int)

namespace Coordinated

open DurableApprovalStore (find_stamped loadLocked_open verified_of_matches find_used consumeLocked transaction_turns find_unstamped)

/-- What the operation is on the approvals. -/
def operation : Coordinated → Operation
  | store op => op
  | enqueue approvalId requester action arguments now later => .resolveAfterReview approvalId requester action arguments now later

variable (H) in
def step (x : Coordinated) (s : ApprovalDb × Outbox) : ApprovalDb × Outbox :=
  match x with
  | store op => ((DurableApprovalStore.step H op s.1).2, s.2)
  | enqueue approvalId requester action arguments now later =>
    match Outbox.resolveAfterReviewAndEnqueue H approvalId requester action arguments now later s.1 s.2 with
    | .ok (_, db, o) => (db, o)
    | .error _ => s

variable (H) in
/-- The outbox takes the row of the approval used up, or the transaction comes to nothing. -/
def stamp (x : Coordinated) (s : ApprovalDb × Outbox) (r : ApprovalRecord) : Option Int :=
  match x with
  | store op => op.stamp H r
  | enqueue .. => (x.operation.stamp H r).filter fun t => (Outbox.insertOrValidate H (r.used t) s.2).toBool

variable {s : ApprovalDb × Outbox} {x : Coordinated}

/-- What an operation comes to is nothing, or what its transaction on the approvals comes to. -/
theorem step_transaction : (step H x s).1 = s.1 ∨ ∃ y, DurableApprovalStore.transaction H x.operation s.1 = .ok y ∧ (step H x s).1 = y.2 := by
  cases x with
  | store op =>
    show (DurableApprovalStore.step H op s.1).2 = _ ∨ ∃ y, _ ∧ (DurableApprovalStore.step H op s.1).2 = _
    unfold DurableApprovalStore.step
    cases h : DurableApprovalStore.transaction H op s.1 with
    | error e => exact .inl rfl
    | ok y => exact .inr ⟨y, h, rfl⟩
  | enqueue j requester action arguments now later =>
    cases h : Outbox.resolveAfterReviewAndEnqueue H j requester action arguments now later s.1 s.2 with
    | error e =>
      refine .inl ?_
      simp only [step, h]
    | ok y =>
      refine .inr ⟨(y.1, y.2.1), (Effects.Pipeline.enqueue_resolves h).1, ?_⟩
      simp only [step, h]

/-- An operation that stamps nothing leaves the record to its transaction, which stamps nothing either,
    or comes to nothing. -/
theorem unstamped (hr : find s.1.records i = some r) (hn : x.operation.approvalId = i → stamp H x s r = none) :
    (step H x s).1 = s.1 ∨ (x.operation.approvalId = i → x.operation.stamp H r = none) := by
  cases x with
  | store op => exact .inr hn
  | enqueue j requester action arguments now later =>
    by_cases hj : j = i
    · subst hj
      cases hstamp : Operation.stamp H r (.resolveAfterReview j requester action arguments now later) with
      | none => exact .inr fun _ => hstamp
      | some t =>
        refine .inl ?_
        have hnone := hn rfl
        simp only [stamp, operation, hstamp, Option.filter_some] at hnone
        -- the transaction would have used the record up, and its row was not taken
        cases h : Outbox.resolveAfterReviewAndEnqueue H j requester action arguments now later s.1 s.2 with
        | error e => simp only [step, h]
        | ok y =>
          obtain ⟨r1, db, o⟩ := y
          obtain ⟨hres, -, ho⟩ := Effects.Pipeline.enqueue_resolves h
          have htransaction : DurableApprovalStore.transaction H (.resolveAfterReview j requester action arguments now later) s.1 =
              .ok (r1, db) := hres
          have hused : ∃ db', DurableApprovalStore.transaction H (.resolveAfterReview j requester action arguments now later) s.1 =
              .ok (_, db') ∧ _ := find_stamped hr hstamp
          obtain ⟨db', hused, -⟩ := hused
          rw [htransaction] at hused
          cases hused
          rcases ho with ⟨hrejected, -⟩ | ⟨-, row, hins⟩
          · cases hrejected
          · rw [show Outbox.insertOrValidate H (r.used t) s.2 = .ok (row, o) from hins] at hnone
            cases hnone
    · exact .inr fun he => absurd he hj

theorem find_stamped {t : Int} (hr : find s.1.records x.operation.approvalId = some r) (h : stamp H x s r = some t) :
    find (step H x s).1.records x.operation.approvalId = some (x.operation.leaves r t) := by
  cases x with
  | store op =>
    obtain ⟨db', htransaction, hfind⟩ := find_stamped hr h
    rw [show (step H (store op) s).1 = db' by
      simp only [step, DurableApprovalStore.step]
      rw [show DurableApprovalStore.transaction H op s.1 = _ from htransaction]]
    exact hfind
  | enqueue j requester action arguments now later =>
    simp only [stamp] at h
    obtain ⟨hstamp, htaken⟩ := Option.filter_eq_some_iff.mp h
    have hresolved := Operation.stamped_of (id_of_find hr) hstamp
    obtain ⟨db', -, hfind⟩ := find_stamped hr hstamp
    cases hins : Outbox.insertOrValidate H (r.used t) s.2 with
    | error e =>
      rw [hins] at htaken
      cases htaken
    | ok y =>
      generalize hop : Coordinated.operation (.enqueue j requester action arguments now later) = op at hresolved
      cases hresolved with
      | resolve _ _ _ _ hs ho hm =>
        cases hop
        have hfound : find s.1.records r.approvalId = some r := hr
        have henqueued : Outbox.resolveAfterReviewAndEnqueue H r.approvalId requester action arguments now t s.1 s.2 =
            .ok (r.used t, (consumeLocked r.approvalId r t s.1).2, y.2) := by
          unfold Outbox.resolveAfterReviewAndEnqueue
          simp only [loadLocked_open hfound ho, verified_of_matches hm, bind, Except.bind]
          rw [if_neg (by rw [hs]; decide), if_neg (by rw [hs]; decide), if_pos hs]
          simp only [consumeLocked, hins]
        simp only [step, henqueued]
        exact find_used hfound hs
      | _ => cases hop

variable (H) in
theorem stamps : Stamps (fun s : ApprovalDb × Outbox => s.1.records) (step H) (fun x => x.operation.approvalId) (stamp H) where
  made x s i hr r' hr' := by
    rcases step_transaction (H := H) (s := s) (x := x) with hsame | ⟨y, hy, hnext⟩
    · rw [hsame, hr] at hr'
      cases hr'
    · have hturn := transaction_turns (i := i) hy
      rw [hnext] at hr'
      rw [hr, hr'] at hturn
      cases hturn with
      | made _ _ hm => exact hm.inTime
  quiet x s i r hr hn r' hr' := by
    rcases unstamped hr hn with hsame | hn
    · rw [hsame, hr] at hr'
      cases hr'
      exact .inl rfl
    · rcases step_transaction (H := H) (s := s) (x := x) with hsame | ⟨y, hy, hnext⟩
      · rw [hsame, hr] at hr'
        cases hr'
        exact .inl rfl
      · rw [hnext] at hr'
        exact find_unstamped hr hn hy hr'
  stamped x s r t hr h := by
    obtain ⟨decision, approver, hleaves⟩ := x.operation.leaves_stamped r t
    exact ⟨decision, approver, _, find_stamped hr h, hleaves⟩

end Coordinated

/-! ## Any run -/

/-- In every run of either store, of the second also with the coordinator of effects, whatever the
    clock: every record of every state was decided on and used up before it expired, exactly when every
    operation that stamped a record read a time before its expiry the second time too. -/
theorem stamped_in_time_iff (H : Hashing) (run : List Operation) (coordinated : List Coordinated) (outbox : Outbox) :
    ((∀ n i r, find (reached (fun op s => (ApprovalStore.step H op s).2) [] run n) i = some r → InTime r) ↔
      ∀ n op, run[n]? = some op → Prompt id Operation.approvalId (fun op _ r => op.stamp H r) op
        (reached (fun op s => (ApprovalStore.step H op s).2) [] run n)) ∧
    ((∀ n i r, find (reached (Coordinated.step H) (⟨[], []⟩, outbox) coordinated n).1.records i = some r → InTime r) ↔
      ∀ n x, coordinated[n]? = some x → Prompt (fun s : ApprovalDb × Outbox => s.1.records) (fun x => x.operation.approvalId)
        (Coordinated.stamp H) x (reached (Coordinated.step H) (⟨[], []⟩, outbox) coordinated n)) :=
  ⟨inTime_iff (ApprovalStore.stamps H) (fun _ => rfl) run,
    inTime_iff (Coordinated.stamps H) (s := (⟨[], []⟩, outbox)) (fun _ => rfl) coordinated⟩

/-! ## A clock that passes the expiry -/

/-- The readings of the clock in an operation, in their order. -/
def Operation.readings : Operation → List Int
  | create _ _ _ _ _ _ now _ | get _ now => [now]
  | decide _ _ _ now later | resolveAfterReview _ _ _ _ now later | consume _ _ _ _ now later => [now, later]

/-- The clock never goes back. -/
def Monotone (run : List Operation) : Prop := (run.flatMap Operation.readings).Pairwise (· ≤ ·)

instance (run : List Operation) : Decidable (Monotone run) := inferInstanceAs (Decidable (List.Pairwise _ _))

namespace Sample

theorem ttl_pos : (0 : Int) < 600 := Int.ofNat_succ_pos 599

def ttl : Ttl := ⟨600, ttl_pos⟩

/-- The approval expires at 600: it is decided on in time and used in time as far as the first reading
    goes, and the second reading is later than that. -/
def late : List Operation :=
  let requester : Principal := ⟨"alice", "tenant", [.employee]⟩
  let approver : Principal := ⟨"bob", "tenant", [.adminApprover]⟩
  [.create "apr" "nonce" requester .requestAccess .empty none 0 ttl, .decide "apr" approver .approve 500 501,
    .consume "apr" requester .requestAccess .empty 599 601]

theorem late_monotone : Monotone late := by decide

theorem stamped_late :
    ¬ (∀ (H : Hashing) (run : List Operation), Monotone run → ∀ i r,
        find (run.foldl (fun s op => (ApprovalStore.step H op s).2) []) i = some r → InTime r) ∧
    ¬ (∀ (H : Hashing) (run : List Operation), Monotone run → ∀ i r,
        find (run.foldl (fun db op => (DurableApprovalStore.step H op db).2) ⟨[], []⟩).records i = some r → InTime r) := by
  constructor
  · intro h
    have hlate : (find (late.foldl (fun s op => (ApprovalStore.step Hashing.light op s).2) []) "apr").any
        (fun r => r.status = .consumed ∧ r.consumedAt = some 601 ∧ r.expiresAt = 600) = true := by decide +kernel
    obtain ⟨r, hr, hstatus⟩ := (Option.any_eq_true _ _).mp hlate
    obtain ⟨hs, hconsumed, hexpires⟩ := of_decide_eq_true hstatus
    obtain ⟨t, ht, hlt⟩ := (h Hashing.light late late_monotone "apr" r hr).consumed hs
    rw [hconsumed] at ht
    cases ht
    rw [hexpires] at hlt
    exact absurd hlt (by decide)
  · intro h
    have hlate : (find (late.foldl (fun db op => (DurableApprovalStore.step Hashing.light op db).2) ⟨[], []⟩).records "apr").any
        (fun r => r.status = .consumed ∧ r.consumedAt = some 601 ∧ r.expiresAt = 600) = true := by decide +kernel
    obtain ⟨r, hr, hstatus⟩ := (Option.any_eq_true _ _).mp hlate
    obtain ⟨hs, hconsumed, hexpires⟩ := of_decide_eq_true hstatus
    obtain ⟨t, ht, hlt⟩ := (h Hashing.light late late_monotone "apr" r hr).consumed hs
    rw [hconsumed] at ht
    cases ht
    rw [hexpires] at hlt
    exact absurd hlt (by decide)

end Sample

end Aegis.Approvals
