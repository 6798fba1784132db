/-
  Aegis.Approvals.Authority — who can have let an approval be used up.

  Either store does to the record of one id only what `Turns` allows (`memory_turns`,
  `durable_turns`). From that alone: every stored record was made, then decided on by an
  approver of its tenant who is not its requester, then used up with what its binding hash
  binds (`Life`), and what was settled of it stays (`Kept`).
-/

import Aegis.Approvals.Store

namespace Aegis.Approvals

open Data
open Data.Checks (ok_bind)
open Effects (Error)

variable {H : Hashing} {op : Operation} {r r' : ApprovalRecord} {i j : String} {p : Principal}

theorem Moves.approvalId (h : Moves H op r r') : r'.approvalId = r.approvalId := by
  cases h <;> rfl

theorem Moves.of_expired (h : Moves H op r r') (hs : r.status = .expired) : r' = r := by
  cases h with
  | same => rfl
  | expire h => rcases h with h | h <;> cases hs.symm.trans h
  | decide decision p later _ h => cases hs.symm.trans h
  | use later _ h => cases hs.symm.trans h

theorem id_of_find {s : Records} (h : find s i = some r) : r.approvalId = i := Table.key_of_lookup h

theorem find_concat {s : Records} (hnew : find s r.approvalId = none) (i : String) :
    find (s ++ [r]) i = if r.approvalId = i then some r else find s i := by
  by_cases hi : r.approvalId = i
  · subst hi
    rw [if_pos rfl]
    exact Table.lookup_append_new hnew
  · rw [if_neg hi]
    exact Table.lookup_append_ne hi

theorem find_update {f : ApprovalRecord → ApprovalRecord} (hf : ∀ r, (f r).approvalId = r.approvalId) (s : Records)
    (j i : String) : find (Table.update ApprovalRecord.approvalId s j f) i =
      if j = i then (find s i).map f else find s i := by
  have hkey : ∀ r : ApprovalRecord, r.approvalId = j → (f r).approvalId = j := fun r hr => (hf r).trans hr
  by_cases hi : j = i
  · subst hi
    rw [if_pos rfl]
    exact Table.lookup_update_self hkey
  · rw [if_neg hi]
    exact Table.lookup_update_ne hkey (Ne.symm hi)

theorem Turns.same (replaces : Prop) (x : Option ApprovalRecord) : Turns H replaces op i x x := by
  cases x with
  | none => exact .absent
  | some r => exact .moves r r (.same r)

/-- Open and overdue, a record expires. -/
theorem moves_overdue {now : Int} (h : r.Overdue now) : Moves H op r r.lapsed := .expire r h.1

theorem approver_of_verified (h : verifyApprover r p = .ok ()) : r.Approver p := by
  unfold verifyApprover at h
  split at h
  · cases h
  · rename_i hrole
    split_ifs at h with htenant hself
    exact ⟨not_not.mp hrole, not_not.mp htenant, hself⟩

/-! ## In memory -/

namespace ApprovalStore

variable {s : Records} {now : Int} {action : ApprovalAction} {requester : Principal} {arguments : Json}

theorem find_put (s : Records) (r : ApprovalRecord) (i : String) :
    find (put s r) i = if r.approvalId = i then some r else find s i := by
  unfold put
  split
  · rename_i x hx
    by_cases hi : r.approvalId = i
    · subst hi
      rw [if_pos rfl, find, Table.lookup_update_self fun _ _ => rfl]
      exact congrArg (Option.map fun _ => r) hx
    · rw [if_neg hi]
      exact Table.lookup_update_ne (fun _ _ => rfl) (Ne.symm hi)
  · rename_i hx
    exact find_concat hx i

theorem create_turns {nonce : String} {workflow : Option WorkflowContext} {ttl : Ttl} :
    Turns H True (.create j nonce requester action arguments workflow now ttl) i (find s i)
      (find (create H j nonce requester action arguments now ttl s).2 i) := by
  show Turns _ _ _ _ _ (find (put s _) i)
  rw [find_put]
  by_cases hi : j = i
  · subst hi
    rw [if_pos (show (ApprovalRecord.fresh H j nonce requester action arguments now ttl).approvalId = j from rfl)]
    have hmade : (Operation.create j nonce requester action arguments workflow now ttl).Makes H
        (.fresh H j nonce requester action arguments now ttl) := ⟨_, _, _, _, _, _, _, rfl, rfl⟩
    cases find s j with
    | none => exact .made _ rfl hmade
    | some r => exact .remade r _ trivial rfl rfl hmade
  · rw [if_neg (show ¬ (ApprovalRecord.fresh H j nonce requester action arguments now ttl).approvalId = i from hi)]
    exact .same _ _

/-- A record read is as it was, or has lapsed and is stored so. -/
theorem expireIfNeeded_find (hf : find s j = some r) :
    ((expireIfNeeded now s r).1 = r ∨ r.Overdue now ∧ (expireIfNeeded now s r).1 = r.lapsed) ∧
      ∀ i, find (expireIfNeeded now s r).2 i = if j = i then some (expireIfNeeded now s r).1 else find s i := by
  have hid : r.approvalId = j := id_of_find hf
  by_cases ho : r.Overdue now
  · rw [expireIfNeeded, if_pos ho]
    refine ⟨.inr ⟨ho, rfl⟩, fun i => ?_⟩
    rw [find_put, show r.lapsed.approvalId = j from hid]
  · rw [expireIfNeeded, if_neg ho]
    refine ⟨.inl rfl, fun i => ?_⟩
    by_cases hi : j = i
    · rw [if_pos hi, ← hi, hf]
    · rw [if_neg hi]

/-- An operation that writes at most once, and then what may become of the record it loaded. -/
theorem load_turns {body : ApprovalRecord → Records → Except Error ApprovalRecord × Records}
    (hb : ∀ r s, r.approvalId = j → (body r s).2 = s ∨ ∃ r', Moves H op r r' ∧ (body r s).2 = put s r') :
    Turns H True op i (find s i) (find (load now s j body).2 i) := by
  cases hf : find s j with
  | none =>
    rw [load, hf]
    exact .same _ _
  | some r =>
    have hid : r.approvalId = j := id_of_find hf
    rw [load, hf]
    show Turns H True op i (find s i) (find (body (expireIfNeeded now s r).1 (expireIfNeeded now s r).2).2 i)
    obtain ⟨hr, hfind⟩ := @expireIfNeeded_find r j s now hf
    generalize (expireIfNeeded now s r).1 = r1 at hr hfind ⊢
    generalize (expireIfNeeded now s r).2 = s1 at hfind ⊢
    have hid1 : r1.approvalId = j := by
      rcases hr with rfl | ⟨-, rfl⟩
      · exact hid
      · exact hid
    rcases hb r1 s1 hid1 with h | ⟨r', hm, h⟩
    · rw [h, hfind]
      by_cases hi : j = i
      · subst hi
        rw [if_pos rfl, hf]
        rcases hr with rfl | ⟨ho, rfl⟩
        · exact .same _ _
        · exact .moves _ _ (moves_overdue ho)
      · rw [if_neg hi]
        exact .same _ _
    · rw [h, find_put, hm.approvalId, hid1, hfind]
      by_cases hi : j = i
      · subst hi
        rw [if_pos rfl, hf]
        rcases hr with rfl | ⟨ho, rfl⟩
        · exact .moves _ _ hm
        · rw [hm.of_expired rfl]
          exact .moves _ _ (moves_overdue ho)
      · rw [if_neg hi, if_neg hi]
        exact .same _ _

theorem consumeLocked_puts {later : Int}
    (hs : r.status = .approved) (hop : op = .resolveAfterReview r.approvalId requester action arguments now later ∨
      op = .consume r.approvalId requester action arguments now later) :
    (consumeLocked H r requester action arguments later s).2 = s ∨
      ∃ r', Moves H op r r' ∧ (consumeLocked H r requester action arguments later s).2 = put s r' := by
  unfold consumeLocked verifyBinding
  by_cases hm : r.Matches H requester action arguments
  · rw [if_neg (not_not.mpr hm)]
    exact .inr ⟨_, .use r later ⟨requester, action, arguments, now, hm, hop⟩ hs, rfl⟩
  · rw [if_pos hm]
    exact .inl rfl

theorem memory_turns (op : Operation) (s : Records) (i : String) :
    Turns H True op i (find s i) (find (step H op s).2 i) := by
  cases op with
  | create j nonce requester action arguments workflow now ttl => exact create_turns
  | get j now => exact load_turns fun _ _ _ => .inl rfl
  | decide j p decision now later =>
    refine load_turns fun r s hid => ?_
    subst hid
    cases hv : verifyApprover r p with
    | error e => exact .inl rfl
    | ok u =>
      by_cases hs : r.status = .pending
      · refine .inr ⟨_, .decide r decision p later ⟨⟨now, rfl⟩, approver_of_verified hv⟩ hs, ?_⟩
        simp only [hs, ne_eq, not_true_eq_false, if_false]
      · simp only [ne_eq, hs, not_false_eq_true, if_true]
        exact .inl trivial
  | resolveAfterReview j requester action arguments now later =>
    refine load_turns fun r s hid => ?_
    subst hid
    by_cases hrej : r.status = .rejected
    · rw [if_pos hrej]
      exact .inl rfl
    · rw [if_neg hrej]
      by_cases hs : r.status = .approved
      · rw [if_neg (not_not.mpr hs)]
        exact consumeLocked_puts hs (.inl rfl)
      · rw [if_pos hs]
        exact .inl rfl
  | consume j requester action arguments now later =>
    refine load_turns fun r s hid => ?_
    subst hid
    by_cases hs : r.status = .approved
    · rw [if_neg (not_not.mpr hs)]
      exact consumeLocked_puts hs (.inr rfl)
    · rw [if_pos hs]
      exact .inl rfl

end ApprovalStore

/-! ## In SQLite -/

namespace DurableApprovalStore

variable {db : ApprovalDb} {now : Int} {x : ApprovalRecord × ApprovalDb} {f : ApprovalRecord → ApprovalRecord}
  {status : ApprovalStatus}

theorem create_turns {nonce : String} {requester : Principal} {action : ApprovalAction} {arguments : Json}
    {workflow : Option WorkflowContext} {ttl : Ttl}
    (h : create H j nonce requester action arguments workflow now ttl db = .ok x) :
    Turns H False (.create j nonce requester action arguments workflow now ttl) i (find db.records i)
      (find x.2.records i) := by
  have hrecords : find db.records j = none ∧
      x.2.records = db.records ++ [.fresh H j nonce requester action arguments now ttl] := by
    unfold create at h
    split_ifs at h with hnew
    have hnone : find db.records j = none := by simpa using hnew
    split at h
    · cases h
      exact ⟨hnone, rfl⟩
    · split_ifs at h
      cases h
      exact ⟨hnone, rfl⟩
  obtain ⟨hnone, hx⟩ := hrecords
  rw [hx, find_concat hnone]
  by_cases hi : j = i
  · subst hi
    rw [hnone, if_pos (show (ApprovalRecord.fresh H j nonce requester action arguments now ttl).approvalId = j from rfl)]
    exact .made _ rfl ⟨_, _, _, _, _, _, _, rfl, rfl⟩
  · rw [if_neg (show ¬ (ApprovalRecord.fresh H j nonce requester action arguments now ttl).approvalId = i from hi)]
    exact .same _ _

theorem find_updateWhere (hf : ∀ r, (f r).approvalId = r.approvalId) (db : ApprovalDb) (j i : String) :
    find (updateWhere db j status f).records i =
      if j = i then (find db.records i).map fun r => if r.status = status then f r else r else find db.records i := by
  refine find_update (fun r => ?_) db.records j i
  split
  · exact hf r
  · rfl

/-- A record loaded is as it was, or has lapsed and is stored so. -/
theorem loadLocked_find (h : loadLocked j now db = .ok x) :
    ∃ r, find db.records j = some r ∧ (x.1 = r ∨ r.Overdue now ∧ x.1 = r.lapsed) ∧
      ∀ i, find x.2.records i = if j = i then some x.1 else find db.records i := by
  unfold loadLocked at h
  split at h
  · cases h
  · rename_i r hf
    refine ⟨r, hf, ?_⟩
    have hid : r.approvalId = j := id_of_find hf
    by_cases ho : r.Overdue now
    · rw [if_pos ho] at h
      cases h
      refine ⟨.inr ⟨ho, rfl⟩, fun i => (find_update (f := ApprovalRecord.lapsed) (fun _ => rfl) db.records j i).trans ?_⟩
      by_cases hi : j = i
      · subst hi
        rw [if_pos rfl, if_pos rfl, hf]
        rfl
      · rw [if_neg hi, if_neg hi]
    · rw [if_neg ho] at h
      cases h
      refine ⟨.inl rfl, fun i => ?_⟩
      by_cases hi : j = i
      · rw [if_pos hi, ← hi, hf]
      · rw [if_neg hi]

theorem find_loaded (h : loadLocked j now db = .ok x) : find x.2.records j = some x.1 := by
  obtain ⟨_, -, -, hfind⟩ := loadLocked_find h
  exact (hfind j).trans (if_pos rfl)

theorem find_written (hf : ∀ r, (f r).approvalId = r.approvalId)
    (hr : find db.records j = some r) (hs : r.status = status) : find (updateWhere db j status f).records j = some (f r) := by
  rw [find_updateWhere hf, if_pos rfl, hr, Option.map_some, if_pos hs]

theorem find_used {later : Int} (hr : find db.records j = some r) (hs : r.status = .approved) :
    find (consumeLocked j r later db).2.records j = some (r.used later) :=
  find_written (f := fun r => r.used later) (fun _ => rfl) hr hs

/-- What an operation does to the record it loaded is one write, or nothing. -/
def Writes (H : Hashing) (op : Operation) (j : String) (r : ApprovalRecord) (db db' : ApprovalDb) : Prop :=
  db' = db ∨ ∃ f, Moves H op r (f r) ∧ (∀ r, (f r).approvalId = r.approvalId) ∧ db' = updateWhere db j r.status f

theorem loaded_turns {x y : ApprovalRecord × ApprovalDb} (hl : loadLocked j now db = .ok y)
    (hw : y.1.approvalId = j → Writes H op j y.1 y.2 x.2) : Turns H False op i (find db.records i) (find x.2.records i) := by
  obtain ⟨r, hf, hr, hfind⟩ := loadLocked_find hl
  have hid : r.approvalId = j := id_of_find hf
  obtain ⟨r1, db1⟩ := y
  dsimp only at hr hfind hw
  have hid1 : r1.approvalId = j := by
    rcases hr with rfl | ⟨-, rfl⟩
    · exact hid
    · exact hid
  by_cases hi : j = i
  · subst hi
    have hr1 : Moves H op r r1 := by
      rcases hr with rfl | ⟨ho, rfl⟩
      · exact .same _
      · exact moves_overdue ho
    rw [hf]
    rcases hw hid1 with h | ⟨f, hm, hf1, h⟩
    · rw [h, hfind, if_pos rfl]
      exact .moves _ _ hr1
    · rw [h, find_updateWhere hf1, if_pos rfl, hfind, if_pos rfl, Option.map_some, if_pos rfl]
      rcases hr with rfl | ⟨-, rfl⟩
      · exact .moves _ _ hm
      · rw [hm.of_expired rfl]
        exact .moves _ _ hr1
  · rcases hw hid1 with h | ⟨f, -, hf1, h⟩
    · rw [h, hfind, if_neg hi]
      exact .same _ _
    · rw [h, find_updateWhere hf1, if_neg hi, hfind, if_neg hi]
      exact .same _ _

section Loaded

variable {x y : ApprovalRecord × ApprovalDb} {later : Int} {requester : Principal} {action : ApprovalAction} {arguments : Json}

theorem matches_of_verified (h : verifyBinding H r requester action arguments = .ok ()) : r.Matches H requester action arguments := by
  unfold verifyBinding at h
  split at h
  · cases h
  · rename_i hm
    exact not_not.mp hm

/-- A decision goes through on a record that is open, or that has it already. -/
theorem decide_ok {decision : ApprovalDecision} (h : decide j p decision now later db = .ok x) :
    ∃ y, loadLocked j now db = .ok y ∧ y.1.Approver p ∧
      (y.1.status = .pending ∧ x = (y.1.decided decision p.userId later,
          updateWhere y.2 j .pending fun r => r.decided decision p.userId later) ∨
        x = y ∧ y.1.status ≠ .pending ∧ y.1.approverUserId = some p.userId ∧
          (y.1.status = desiredStatus decision ∨ y.1.status = .consumed ∧ desiredStatus decision = .approved)) := by
  obtain ⟨y, hl, h⟩ := ok_bind.mp h
  obtain ⟨u, hv, h⟩ := ok_bind.mp h
  refine ⟨y, hl, approver_of_verified hv, ?_⟩
  split_ifs at h with hs hagain
  · exact .inl ⟨hs, (Except.ok.inj h).symm⟩
  · exact .inr ⟨(Except.ok.inj h).symm, hs, hagain⟩

/-- A record resolved was settled already, or is used up. -/
theorem resolveAfterReview_ok (h : resolveAfterReview H j requester action arguments now later db = .ok x) :
    ∃ y, loadLocked j now db = .ok y ∧ y.1.Matches H requester action arguments ∧
      ((y.1.status = .rejected ∨ y.1.status = .consumed) ∧ x = y ∨ y.1.status = .approved ∧ x = consumeLocked j y.1 later y.2) := by
  obtain ⟨y, hl, h⟩ := ok_bind.mp h
  obtain ⟨u, hv, h⟩ := ok_bind.mp h
  refine ⟨y, hl, matches_of_verified hv, ?_⟩
  split_ifs at h with hrejected hconsumed hs
  · exact .inl ⟨.inl hrejected, (Except.ok.inj h).symm⟩
  · exact .inl ⟨.inr hconsumed, (Except.ok.inj h).symm⟩
  · exact .inr ⟨not_not.mp hs, (Except.ok.inj h).symm⟩

theorem consume_ok (h : consume H j requester action arguments now later db = .ok x) :
    ∃ y, loadLocked j now db = .ok y ∧ y.1.Matches H requester action arguments ∧
      (y.1.status = .consumed ∧ x = y ∨ y.1.status = .approved ∧ x = consumeLocked j y.1 later y.2) := by
  obtain ⟨y, hl, h⟩ := ok_bind.mp h
  obtain ⟨u, hv, h⟩ := ok_bind.mp h
  refine ⟨y, hl, matches_of_verified hv, ?_⟩
  split_ifs at h with hconsumed hs
  · exact .inl ⟨hconsumed, (Except.ok.inj h).symm⟩
  · exact .inr ⟨not_not.mp hs, (Except.ok.inj h).symm⟩

theorem used_turns (hl : loadLocked j now db = .ok y) (hm : y.1.Matches H requester action arguments)
    (hs : y.1.status = .approved) (hop : op = .resolveAfterReview j requester action arguments now later ∨
      op = .consume j requester action arguments now later) :
    Turns H False op i (find db.records i) (find (consumeLocked j y.1 later y.2).2.records i) := by
  refine loaded_turns hl fun hid => ?_
  subst hid
  refine .inr ⟨fun r => r.used later, .use y.1 later ⟨requester, action, arguments, now, hm, hop⟩ hs, fun _ => rfl, ?_⟩
  rw [hs]
  rfl

theorem transaction_turns (h : transaction H op db = .ok x) : Turns H False op i (find db.records i) (find x.2.records i) := by
  cases op with
  | create j nonce requester action arguments workflow now ttl => exact create_turns h
  | get j now => exact loaded_turns h fun _ => .inl rfl
  | decide j p decision now later =>
    obtain ⟨y, hl, hp, ⟨hs, rfl⟩ | ⟨rfl, -⟩⟩ := decide_ok h
    · refine loaded_turns hl fun hid => ?_
      subst hid
      refine .inr ⟨fun r => r.decided decision p.userId later, .decide y.1 decision p later ⟨⟨now, rfl⟩, hp⟩ hs, fun _ => rfl, ?_⟩
      rw [hs]
    · exact loaded_turns hl fun _ => .inl rfl
  | resolveAfterReview j requester action arguments now later =>
    obtain ⟨y, hl, hm, ⟨-, rfl⟩ | ⟨hs, rfl⟩⟩ := resolveAfterReview_ok h
    · exact loaded_turns hl fun _ => .inl rfl
    · exact used_turns hl hm hs (.inl rfl)
  | consume j requester action arguments now later =>
    obtain ⟨y, hl, hm, ⟨-, rfl⟩ | ⟨hs, rfl⟩⟩ := consume_ok h
    · exact loaded_turns hl fun _ => .inl rfl
    · exact used_turns hl hm hs (.inr rfl)

end Loaded

theorem durable_turns (op : Operation) (db : ApprovalDb) (i : String) :
    Turns H False op i (find db.records i) (find (step H op db).2.records i) := by
  unfold step
  cases h : transaction H op db with
  | error e => exact .same _ _
  | ok x => exact transaction_turns h

end DurableApprovalStore

/-! ## Runs -/

/-- The store after a sequence of operations. -/
def after (step : Operation → σ → Except Error ApprovalRecord × σ) (s : σ) (ops : List Operation) : σ :=
  ops.foldl (fun s op => (step op s).2) s

variable (H) in
/-- The life of a record along a sequence of operations. -/
inductive Life : List Operation → ApprovalRecord → Prop
  | made (ops : List Operation) (op : Operation) (r : ApprovalRecord) : op.Makes H r → Life (ops ++ [op]) r
  | moved (ops : List Operation) (op : Operation) (r r' : ApprovalRecord) : Life ops r → Moves H op r r' →
      Life (ops ++ [op]) r'

theorem Operation.Makes.wellFormed (h : op.Makes H r) : r.WellFormed := by
  obtain ⟨nonce, requester, action, arguments, workflow, now, ttl, -, hr⟩ := h
  rw [hr]
  exact fresh_wellFormed H _ nonce requester action arguments now ttl

variable {ops : List Operation}

theorem Life.wellFormed (h : Life H ops r) : r.WellFormed := by
  induction h with
  | made ops op r hm => exact hm.wellFormed
  | moved ops op r r' _ hm ih => exact hm.wellFormed ih

variable (H) in
/-- The decision that approved a record: made of it after its creation, by an approver of its
    tenant other than its requester. -/
structure Approved (ops : List Operation) (r : ApprovalRecord) (n : Nat) : Prop where
  made : ∃ m < n, ∃ op r₀, ops[m]? = some op ∧ op.Makes H r₀ ∧ Kept r₀ r
  decided : ∃ op approver later, ops[n]? = some op ∧ op.Decides r .approve approver later ∧
    r.approverUserId = some approver.userId ∧ r.decidedAt = some later

variable (H) in
/-- How a record came to be used up: approved, and then used by an operation whose requester,
    action and arguments are those its binding hash binds. -/
def Authorized (ops : List Operation) (r : ApprovalRecord) : Prop :=
  ∃ n k, n < k ∧ Approved H ops r n ∧ ∃ op later, ops[k]? = some op ∧ op.Uses H r later ∧ r.consumedAt = some later

theorem getElem?_concat {n : Nat} {x op : Operation} (h : ops[n]? = some x) : (ops ++ [op])[n]? = some x := by
  rw [List.getElem?_append_left (List.getElem?_eq_some_iff.mp h).1, h]

/-- A decision or a use stays one of the record whatever happens to it later. -/
theorem Operation.Decides.kept {decision : ApprovalDecision} {later : Int}
    (h : op.Decides r decision p later) (hk : Kept r r') : op.Decides r' decision p later := by
  obtain ⟨⟨now, hop⟩, ha⟩ := h
  refine ⟨⟨now, by rw [hk.approvalId, hop]⟩, ha.role, by rw [hk.tenantId, ha.tenant], ?_⟩
  rw [hk.requesterUserId]
  exact ha.other

theorem Operation.Uses.kept {later : Int} (h : op.Uses H r later) (hk : Kept r r') : op.Uses H r' later := by
  obtain ⟨requester, action, arguments, now, hm, hop⟩ := h
  refine ⟨requester, action, arguments, now, ?_, by rw [hk.approvalId]; exact hop⟩
  show bindingHash _ _ _ _ _ _ = _
  rw [hk.nonce, hk.bindingHash]
  exact hm

theorem Approved.later {n : Nat} (h : Approved H ops r n) (hk : Kept r r') : Approved H (ops ++ [op]) r' n := by
  obtain ⟨⟨m, hm, op0, r0, h1, h2, h3⟩, op1, p, later, h4, h5, h6, h7⟩ := h
  refine ⟨⟨m, hm, op0, r0, getElem?_concat h1, h2, h3.trans hk⟩, op1, p, later, getElem?_concat h4, h5.kept hk, ?_, ?_⟩
  · rw [hk.approverUserId (by rw [h6]; rfl), h6]
  · rw [hk.decidedAt (by rw [h7]; rfl), h7]

theorem Life.created (h : Life H ops r) : ∃ m < ops.length, ∃ op r₀, ops[m]? = some op ∧ op.Makes H r₀ ∧ Kept r₀ r := by
  induction h with
  | made ops op r hm =>
    refine ⟨ops.length, by simp, op, r, by simp, hm, .refl r⟩
  | moved ops op r r' hl hm ih =>
    obtain ⟨m, hlt, op0, r0, h1, h2, h3⟩ := ih
    exact ⟨m, by simp; omega, op0, r0, getElem?_concat h1, h2, h3.trans (hm.kept hl.wellFormed)⟩

theorem Life.approved (h : Life H ops r) (hs : r.status = .approved) : ∃ n < ops.length, Approved H ops r n := by
  induction h with
  | made ops op r hm =>
    obtain ⟨_, _, _, _, _, _, _, -, hr⟩ := hm
    rw [hr] at hs
    cases hs
  | moved ops op r r' hl hm ih =>
    have hk := hm.kept hl.wellFormed
    cases hm with
    | same =>
      obtain ⟨n, hlt, ha⟩ := ih hs
      exact ⟨n, by simp; omega, ha.later hk⟩
    | expire => cases hs
    | decide decision p later hd hp =>
      cases decision with
      | reject => cases hs
      | approve =>
        obtain ⟨m, hlt, op0, r0, h1, h2, h3⟩ := hl.created
        exact ⟨ops.length, by simp, ⟨m, hlt, op0, r0, getElem?_concat h1, h2, h3.trans hk⟩, op, p, later, by simp,
          hd.kept hk, rfl, rfl⟩
    | use => cases hs

theorem Life.authorized (h : Life H ops r) (hs : r.status = .consumed) : Authorized H ops r := by
  induction h with
  | made ops op r hm =>
    obtain ⟨_, _, _, _, _, _, _, -, hr⟩ := hm
    rw [hr] at hs
    cases hs
  | moved ops op r r' hl hm ih =>
    have hk := hm.kept hl.wellFormed
    cases hm with
    | same =>
      obtain ⟨n, k, hlt, ha, op1, later, h1, h2, h3⟩ := ih hs
      exact ⟨n, k, hlt, ha.later hk, op1, later, getElem?_concat h1, h2, h3⟩
    | expire => cases hs
    | decide decision p later hd hp => cases decision <;> cases hs
    | use later hu hap =>
      obtain ⟨n, hlt, ha⟩ := hl.approved hap
      exact ⟨n, ops.length, hlt, ha.later hk, op, later, by simp, hu.kept hk, rfl⟩

section Runs

variable {σ : Type} {records : σ → Records} {step : Operation → σ → Except Error ApprovalRecord × σ} {replaces : Prop}

section

variable (hstep : ∀ op s i, Turns H replaces op i (find (records s) i) (find (records (step op s).2) i))
include hstep

/-- Every record of a store whose operations only do what `Turns` allows has lived along the run. -/
theorem life_of_turns
    {s : σ} (hempty : ∀ i, find (records s) i = none) (ops : List Operation) (i : String) {r : ApprovalRecord}
    (h : find (records (after step s ops)) i = some r) : Life H ops r := by
  induction ops using List.reverseRecOn generalizing r with
  | nil =>
    rw [show after step s [] = s from rfl, hempty] at h
    cases h
  | append_singleton ops op ih =>
    have hturn := hstep op (after step s ops) i
    rw [show (step op (after step s ops)).2 = after step s (ops ++ [op]) by simp [after], h] at hturn
    generalize hfound : find (records (after step s ops)) i = before at hturn
    cases hturn with
    | moves r0 _ hm => exact .moved ops op r0 r (ih hfound) hm
    | made _ _ hm => exact .made ops op r hm
    | remade _ _ _ _ _ hm => exact .made ops op r hm

/-- A record stays where it is, and what is settled of it stays, unless its id is drawn again. -/
theorem kept_of_turns
    {s : σ} {i : String} {r : ApprovalRecord} (hw : r.WellFormed) (h : find (records s) i = some r) (more : List Operation) :
    (replaces ∧ ∃ op ∈ more, op.Draws i) ∨ ∃ r', find (records (after step s more)) i = some r' ∧ Kept r r' := by
  induction more generalizing s r with
  | nil => exact .inr ⟨r, h, .refl r⟩
  | cons op more ih =>
    have hturn := hstep op s i
    rw [h] at hturn
    generalize hfound : find (records (step op s).2) i = next at hturn
    cases hturn with
    | moves _ r1 hm =>
      rcases ih (hm.wellFormed hw) hfound with ⟨hr, op', hop', hd⟩ | ⟨r', hr', hk⟩
      · exact .inl ⟨hr, op', List.mem_cons_of_mem _ hop', hd⟩
      · exact .inr ⟨r', hr', (hm.kept hw).trans hk⟩
    | remade _ r1 hr hd _ _ => exact .inl ⟨hr, op, List.mem_cons_self, hd⟩

end

end Runs

/-- Whatever is called on a store, by whom and when: a record used up was approved by an approver of
    its tenant other than its requester and then used with what its binding hash binds; and from then
    on, as long as its entry is its own (in memory, until `create` draws its id again), nothing of it
    that was settled changes, and nothing at all once it is rejected, used up or stored as expired. -/
theorem approval_authority (H : Hashing) (ops more : List Operation) (i : String) (r : ApprovalRecord) :
    (find (after (ApprovalStore.step H) [] ops) i = some r →
      (r.status = .consumed → Authorized H ops r) ∧
      ((∃ op ∈ more, op.Draws i) ∨
        ∃ r', find (after (ApprovalStore.step H) [] (ops ++ more)) i = some r' ∧ Kept r r')) ∧
    (find (after (DurableApprovalStore.step H) ⟨[], []⟩ ops).records i = some r →
      (r.status = .consumed → Authorized H ops r) ∧
      ∃ r', find (after (DurableApprovalStore.step H) ⟨[], []⟩ (ops ++ more)).records i = some r' ∧ Kept r r') := by
  constructor
  · intro h
    have hlife := @life_of_turns H _ id _ _ ApprovalStore.memory_turns _ (fun _ => rfl) ops i _ h
    refine ⟨hlife.authorized, ?_⟩
    rcases @kept_of_turns H _ id _ _ ApprovalStore.memory_turns _ i _ hlife.wellFormed h more with ⟨-, hd⟩ | hk
    · exact .inl hd
    · rw [after, List.foldl_append]
      exact .inr hk
  · intro h
    have hlife := @life_of_turns H _ ApprovalDb.records _ _ DurableApprovalStore.durable_turns _ (fun _ => rfl) ops i _ h
    refine ⟨hlife.authorized, ?_⟩
    rcases @kept_of_turns H _ ApprovalDb.records _ _ DurableApprovalStore.durable_turns _ i _ hlife.wellFormed h more with
      ⟨hf, -⟩ | hk
    · exact hf.elim
    · rw [after, List.foldl_append]
      exact hk

end Aegis.Approvals
