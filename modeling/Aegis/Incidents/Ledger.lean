/-
  Aegis.Incidents.Ledger — the execution ledger, which any number of boundaries share
  (IncidentExecutionBoundary.execute).

  A call looks its identity up, and inserts a row when there is none. The `SELECT` opens no
  transaction (the driver begins one at the `INSERT`), so another boundary may insert between the
  two; the key of the table then refuses the second row, and the call raises.
  - In every run there is at most one row per identity, rows stay as they are, and whatever calls
    return for one identity is equal (`Sound`, `meets`).
  - In runs where no row of an identity appears between a call's lookup and its insert
    (`Undisturbed`) every call with a valid request returns (`ledger_exactly_once`).
  - Two boundaries that execute one request at once suffice for the other case
    (`second_insert_refused`).
-/

import Aegis.Incidents.Execution
import Aegis.Data.Table
import Aegis.Txn.Safe

namespace Aegis.Incidents

open Data Data.Checks Txn
open Assurance (Runtime)
open Agentic (Dict)

/-! ## The ledger -/

/-- A row of `incident_execution_ledger`. -/
structure LedgerRow where
  executionIdentity : String
  requestSha256 : String
  requestFingerprint : String
  resultJson : Json
  deriving DecidableEq

/-- The ledger file, and the `_results` of each boundary. -/
structure Ledger where
  rows : List LedgerRow
  results : Nat → Dict IncidentExecutionResult

namespace Ledger

/-- `SELECT … WHERE execution_identity = ?`. -/
def select (w : Ledger) (identity : String) : Option LedgerRow := Table.lookup LedgerRow.executionIdentity w.rows identity

/-- `INSERT`; `none` is an IntegrityError. -/
def insert (w : Ledger) (row : LedgerRow) : Option Ledger :=
  if row.executionIdentity ∈ w.rows.map LedgerRow.executionIdentity ∨ row.requestSha256 ∈ w.rows.map LedgerRow.requestSha256
  then none else some { w with rows := w.rows ++ [row] }

/-- `self._results[identity] = result`. -/
def remember (w : Ledger) (boundary : Nat) (identity : String) (result : IncidentExecutionResult) : Ledger :=
  { w with results := Function.update w.results boundary ((w.results boundary).set identity result) }

/-- What is remembered is either new or was remembered before. -/
theorem results_remember {w : Ledger} {boundary b : Nat} {identity i : String} {result r : IncidentExecutionResult}
    (h : (w.remember boundary identity result).results b i = some r) : (i = identity ∧ r = result) ∨ w.results b i = some r := by
  change Function.update w.results boundary ((w.results boundary).set identity result) b i = some r at h
  by_cases hb : b = boundary
  · subst hb
    rw [Function.update_self] at h
    by_cases hi : i = identity
    · subst hi
      rw [Dict.set_self] at h
      exact .inl ⟨rfl, (Option.some.inj h).symm⟩
    · rw [Dict.set_ne hi] at h
      exact .inr h
  · rw [Function.update_of_ne hb] at h
    exact .inr h

end Ledger

section
variable (rt : Runtime)

def fingerprintMaterial (identity requestSha256 schemaVersion : String) : Json := .obj [
  ("execution_identity", .str identity), ("request_sha256", .str (rt.casefold requestSha256)),
  ("schema_version", .str schemaVersion)]

def resultJson (result : IncidentExecutionResult) : Json := .obj [
  ("evidence_references", references result.evidenceReferences), ("execution_identity", .str result.executionIdentity),
  ("governance_decision_reference", .str result.governanceDecisionReference), ("incident_id", .str result.incidentId),
  ("policy_references", .arr (result.policyReferences.map .str)), ("requested_action", .str result.requestedAction)]

def projection (request : IncidentExecutionRequest) (identity : String) : IncidentExecutionResult where
  incidentId := request.incidentId
  governanceDecisionReference := request.governanceDecisionReference rt
  requestedAction := request.requestedAction
  policyReferences := request.policyReferences
  evidenceReferences := request.evidenceReferences
  executionIdentity := identity

def rowOf (request : IncidentExecutionRequest) (identity : String) : LedgerRow where
  executionIdentity := identity
  requestSha256 := rt.casefold request.requestSha256
  requestFingerprint := rt.sha256 (fingerprintMaterial rt identity request.requestSha256 request.schemaVersion)
  resultJson := resultJson (projection rt request identity)

/-- What `execute` does before it opens the ledger: the identity of a valid request. -/
def prepare (request : IncidentExecutionRequest) : Checked String := do
  validateRequest rt request
  request.executionIdentity rt

def REPLAY_CONFLICT : String := "INCIDENT_EXECUTION_REPLAY_CONFLICT"

/-- The transactions of `execute`; the last are of the boundary's own memory. -/
inductive Label where
  | lookup
  | insert (identity : String)
  | memory

/-- `execute`. -/
def execute (boundary : Nat) (request : IncidentExecutionRequest) : Prog Label Ledger String IncidentExecutionResult := do
  let identity ← Prog.ofResult (prepare rt request)
  let result := projection rt request identity
  let expected := rowOf rt request identity
  let prior ← Prog.read .lookup fun w => w.select identity
  match prior with
  | some row =>
    Prog.raiseIf (row ≠ expected) REPLAY_CONFLICT
    Prog.attempt .memory fun w =>
      match w.results boundary identity with
      | some cached => (.ok cached, w)
      | none => (.ok result, w.remember boundary identity result)
  | none =>
    Prog.atomic (.insert identity) fun w =>
      match w.insert expected with
      | some w' => .ok ((), w')
      | none => .error REPLAY_CONFLICT
    Prog.modify .memory fun w => w.remember boundary identity result
    return result

/-! ## Boundaries on one ledger -/

structure Execution where
  boundary : Nat
  request : IncidentExecutionRequest

/-- A boundary is not in the middle of a call. -/
def Idle (boundary : Nat) (c : Conf Execution Label Ledger String IncidentExecutionResult) : Prop :=
  ∀ (i : Nat) k p, c.clients[i]? = some (Client.running k p) → k.boundary ≠ boundary

/-- Any number of boundaries, with the requests that are made of them and the transactions that may commit. -/
def boundaries (admits : IncidentExecutionRequest → Prop) (ok : Label → Ledger → Prop) :
    System Execution Label Ledger String IncidentExecutionResult where
  init w := w.rows = [] ∧ w.results = fun _ _ => none
  body _ k := execute rt k.boundary k.request
  start k c := admits k.request ∧ Idle k.boundary c
  ok

/-- No row of the identity has appeared since the lookup, which found none. -/
def Undisturbed : Label → Ledger → Prop
  | .insert identity, w => w.select identity = none
  | _, _ => True

/-- Requests that pass the checks of `execute`. -/
def Prepared (request : IncidentExecutionRequest) : Prop := ∃ identity, prepare rt request = .ok identity

end

/-! ## Requests of one identity -/

section
variable {rt : Runtime} {request request' : IncidentExecutionRequest} {identity identity' : String}

theorem references_injective : Function.Injective references := by
  refine Json.arr_injective.comp (List.map_injective_iff.mpr ?_)
  rintro ⟨a, b⟩ ⟨c, d⟩ h
  simp only [Json.arr_inj, List.cons.injEq, Json.str.injEq, and_true] at h
  rw [h.1, h.2]

theorem canonicalEvidence_ok {values sorted : List (String × String)} :
    canonicalEvidence values = .ok sorted ↔ (values ≠ [] ∧ ∀ p ∈ values, p.1 ≠ "" ∧ p.2 ≠ "") ∧ sortOn pairKey values.dedup = sorted := by
  simp only [canonicalEvidence, ok_seq, raiseIf_ok, not_or, not_exists, not_and]
  exact and_congr_right fun _ => ⟨Except.ok.inj, congrArg _⟩

theorem canonicalStrings_ok {values sorted : List String} {error : String} :
    canonicalStrings values error = .ok sorted ↔ (values ≠ [] ∧ "" ∉ values) ∧ sortOn id values.dedup = sorted := by
  simp only [canonicalStrings, ok_seq, raiseIf_ok, not_or]
  exact and_congr_right fun _ => ⟨Except.ok.inj, congrArg _⟩

/-- The digest part of an identity. -/
def identityDigest (rt : Runtime) (request : IncidentExecutionRequest) : String :=
  rt.sha256 (identityMaterial rt request.incidentId (request.governanceDecisionReference rt) request.requestedAction
    (sortOn id request.policyReferences.dedup) (sortOn pairKey request.evidenceReferences.dedup))

theorem executionIdentity_ok (h : request.executionIdentity rt = .ok identity) : "execution-" ++ identityDigest rt request = identity := by
  unfold IncidentExecutionRequest.executionIdentity executionIdentity at h
  obtain ⟨-, h⟩ := ok_seq.mp h
  obtain ⟨evidence, hevidence, h⟩ := ok_bind.mp h
  obtain ⟨policy, hpolicy, h⟩ := ok_bind.mp h
  obtain ⟨-, rfl⟩ := canonicalEvidence_ok.mp hevidence
  obtain ⟨-, rfl⟩ := canonicalStrings_ok.mp hpolicy
  exact Except.ok.inj h

theorem prepare_ok : prepare rt request = .ok identity ↔ request.Valid rt ∧ request.executionIdentity rt = .ok identity := by
  rw [prepare, ok_seq, validateRequest_ok]

/-- The requests that pass the checks of `execute`: valid ones whose evidence has no empty texts. -/
theorem prepared_iff : Prepared rt request ↔ request.Valid rt ∧ ∀ p ∈ request.evidenceReferences, p.1 ≠ "" ∧ p.2 ≠ "" := by
  simp only [Prepared, prepare_ok, exists_and_left]
  refine and_congr_right fun hv => ?_
  have hincident : request.incidentId ≠ "" := hv.incidentId ▸ hv.governance.incidentId
  have hevidence : request.evidenceReferences ≠ [] := by
    have hintake := hv.governance.lifecycle.intake
    simp only [validateIntake, raiseIf_ok, not_or] at hintake
    exact hv.evidenceReferences ▸ hintake.2.2.2.2
  have hpolicy : "" ∉ request.policyReferences := by
    rw [hv.policyReferences, List.mem_singleton, hv.governance.digest]
    exact (ne_empty_of_not_blank (rt.sha256_not_blank _)).symm
  have hpolicies : request.policyReferences ≠ [] := by
    rw [hv.policyReferences]
    exact List.cons_ne_nil _ _
  unfold IncidentExecutionRequest.executionIdentity executionIdentity
  constructor
  · rintro ⟨identity, h⟩
    obtain ⟨-, h⟩ := ok_seq.mp h
    obtain ⟨evidence, h, -⟩ := ok_bind.mp h
    exact (canonicalEvidence_ok.mp h).1.2
  · intro h
    refine ⟨"execution-" ++ identityDigest rt request, ok_seq.mpr ⟨raiseIf_ok.mpr hincident,
      ok_bind.mpr ⟨_, canonicalEvidence_ok.mpr ⟨⟨hevidence, h⟩, rfl⟩, ?_⟩⟩⟩
    exact ok_bind.mpr ⟨_, canonicalStrings_ok.mpr ⟨⟨hpolicies, hpolicy⟩, rfl⟩, rfl⟩

/-- Requests that project the same. -/
structure Same (rt : Runtime) (a b : IncidentExecutionRequest) : Prop where
  incidentId : a.incidentId = b.incidentId
  reference : a.governanceDecisionReference rt = b.governanceDecisionReference rt
  requestedAction : a.requestedAction = b.requestedAction
  policyReferences : a.policyReferences = b.policyReferences
  evidenceReferences : a.evidenceReferences = b.evidenceReferences
  requestSha256 : rt.casefold a.requestSha256 = rt.casefold b.requestSha256
  schemaVersion : a.schemaVersion = b.schemaVersion

namespace Same

variable (h : Same rt request request')
include h

theorem projection_eq : projection rt request identity = projection rt request' identity := by
  unfold projection
  rw [h.incidentId, h.reference, h.requestedAction, h.policyReferences, h.evidenceReferences]

theorem rowOf_eq : rowOf rt request identity = rowOf rt request' identity := by
  unfold rowOf fingerprintMaterial
  rw [h.requestSha256, h.schemaVersion, h.projection_eq]

theorem identity_eq : request.executionIdentity rt = request'.executionIdentity rt := by
  unfold IncidentExecutionRequest.executionIdentity
  rw [h.incidentId, h.reference, h.requestedAction, h.policyReferences, h.evidenceReferences]

end Same

variable (hH : Function.Injective rt.sha256) (hv : request.Valid rt) (hv' : request'.Valid rt)
include hH hv hv'

/-- The decision digest covers the intake root and the head of the history, and the root covers the evidence. -/
theorem same_of_reference (he : request.governanceDecisionReference rt = request'.governanceDecisionReference rt) :
    Same rt request request' := by
  have hdecision := hH (hv.governance.digest.symm.trans (he.trans hv'.governance.digest))
  simp only [governanceMaterial, Json.obj_cons, Json.obj_nil, Json.field.injEq, Json.str.injEq, true_and, and_true] at hdecision
  obtain ⟨hvalue, hincident, hroot, hhead, hstate, haction, htenant, hworkload⟩ := hdecision
  have hintake := hH (hv.governance.lifecycle.root.symm.trans (hroot.trans hv'.governance.lifecycle.root))
  simp only [intakeRootMaterial, Json.obj_cons, Json.obj_nil, Json.field.injEq, Json.str.injEq, true_and, and_true] at hintake
  have hevidence : request.evidenceReferences = request'.evidenceReferences := by
    rw [hv.evidenceReferences, hv'.evidenceReferences]
    exact references_injective hintake.2.1
  have hincident' : request.incidentId = request'.incidentId := hv.incidentId.trans (hincident.trans hv'.incidentId.symm)
  have haction' : request.requestedAction = request'.requestedAction :=
    hv.requestedAction.trans (haction.trans hv'.requestedAction.symm)
  have hreference : rt.casefold request.governance.decisionSha256 = rt.casefold request'.governance.decisionSha256 := he
  refine ⟨hincident', he, haction', ?_, hevidence, ?_, hv.schemaVersion.trans hv'.schemaVersion.symm⟩
  · rw [hv.policyReferences, hv'.policyReferences, hreference]
  · rw [hv.digest, hv'.digest]
    unfold IncidentExecutionRequest.digest executionRequestDigest executionRequestMaterial
    rw [hincident', haction', hevidence, hreference, hv.governanceDecision, hv'.governanceDecision, hv.lifecycleState,
      hv'.lifecycleState, hvalue, hstate, hhead, hroot, htenant, hworkload]

theorem same_of_identity (hl : Lowercase rt) (h : request.executionIdentity rt = .ok identity)
    (h' : request'.executionIdentity rt = .ok identity) : Same rt request request' := by
  refine same_of_reference hH hv hv' ?_
  have hdigest : identityDigest rt request = identityDigest rt request' := by
    have htext := (executionIdentity_ok h).trans (executionIdentity_ok h').symm
    exact (String.append_right_inj _).mp htext
  have hmaterial := hH hdigest
  simp only [identityMaterial, Json.obj_cons, Json.obj_nil, Json.field.injEq, Json.str.injEq, true_and, and_true] at hmaterial
  have hfold : ∀ {r : IncidentExecutionRequest}, r.Valid rt →
      rt.casefold (r.governanceDecisionReference rt) = r.governanceDecisionReference rt := by
    intro r hr
    have hdecision : r.governanceDecisionReference rt = rt.sha256 _ := hr.governance.digest
    rw [hdecision, hl.digest]
  rw [← hfold hv, ← hfold hv']
  exact hmaterial.2.1

theorem same_of_requestSha256 (he : rt.casefold request.requestSha256 = rt.casefold request'.requestSha256) :
    Same rt request request' := by
  refine same_of_reference hH hv hv' ?_
  have hmaterial := hH (hv.digest.symm.trans (he.trans hv'.digest))
  simp only [executionRequestMaterial, Json.obj_cons, Json.obj_nil, Json.field.injEq, Json.str.injEq, true_and, and_true] at hmaterial
  exact hmaterial.2.2.1

end

/-! ## The invariant -/

/-- Every row, and every result a boundary remembers, is what some valid request projects. -/
structure Sound (rt : Runtime) (w : Ledger) : Prop where
  identities : (w.rows.map LedgerRow.executionIdentity).Nodup
  rows : ∀ row ∈ w.rows, ∃ request, prepare rt request = .ok row.executionIdentity ∧ rowOf rt request row.executionIdentity = row
  results : ∀ boundary identity result, w.results boundary identity = some result →
    ∃ request, prepare rt request = .ok identity ∧ projection rt request identity = result

/-- Rows are added, and stay as they are. -/
def ledgerContract (rt : Runtime) : Contract Ledger where
  inv := Sound rt
  rely _ w w' := w.rows <+: w'.rows
  guar _ w w' := w.rows <+: w'.rows
  rely_refl _ _ := List.prefix_rfl
  rely_trans := List.IsPrefix.trans
  guar_refl _ _ _ := List.prefix_rfl

/-- A call returns what its request projects, and leaves its row; it raises when the request is not valid, or when `ok` lets
    inserts be disturbed. -/
def Outcome (rt : Runtime) (ok : Label → Ledger → Prop) (k : Execution) (r : Except String IncidentExecutionResult) (w : Ledger) :
    Prop :=
  match r with
  | .ok result => ∃ identity, prepare rt k.request = .ok identity ∧ projection rt k.request identity = result ∧
      rowOf rt k.request identity ∈ w.rows
  | .error _ => (¬ Prepared rt k.request) ∨ ¬ ∀ l w, ok l w → Undisturbed l w

section
variable {rt : Runtime} {request : IncidentExecutionRequest} {identity : String} {w w' : Ledger} {row : LedgerRow}
  {ok : Label → Ledger → Prop} {admits : IncidentExecutionRequest → Prop} {boundary me : Nat} {k : Execution}

theorem select_some (h : w.select identity = some row) : row ∈ w.rows ∧ row.executionIdentity = identity :=
  ⟨Table.mem_of_lookup h, Table.key_of_lookup h⟩

theorem insert_some (h : w.insert row = some w') :
    row.executionIdentity ∉ w.rows.map LedgerRow.executionIdentity ∧ w' = { w with rows := w.rows ++ [row] } := by
  unfold Ledger.insert at h
  split_ifs at h with hc
  rw [not_or] at hc
  exact ⟨hc.1, (Option.some.inj h).symm⟩

section
variable (hH : Function.Injective rt.sha256) (hl : Lowercase rt)
include hH hl

/-- The row of an identity is the row of every valid request of that identity. -/
theorem Sound.row_eq (hs : Sound rt w) (hrow : row ∈ w.rows) (hp : prepare rt request = .ok row.executionIdentity) :
    row = rowOf rt request row.executionIdentity := by
  obtain ⟨r, hr, he⟩ := hs.rows row hrow
  obtain ⟨hvalid, hid⟩ := prepare_ok.mp hr
  obtain ⟨hvalid', hid'⟩ := prepare_ok.mp hp
  have hsame := same_of_identity hH hvalid hvalid' hl hid hid'
  rw [← hsame.rowOf_eq, he]

/-- What is remembered of an identity is what every valid request of that identity projects. -/
theorem Sound.result_eq (hs : Sound rt w) {result : IncidentExecutionResult} (hr : w.results boundary identity = some result)
    (hp : prepare rt request = .ok identity) : result = projection rt request identity := by
  obtain ⟨r, hr, he⟩ := hs.results boundary identity result hr
  obtain ⟨hvalid, hid⟩ := prepare_ok.mp hr
  obtain ⟨hvalid', hid'⟩ := prepare_ok.mp hp
  have hsame := same_of_identity hH hvalid hvalid' hl hid hid'
  rw [← hsame.projection_eq, he]

omit hl in
/-- The insert of a valid request is refused only for a row of its own identity. -/
theorem Sound.insert_none (hs : Sound rt w) (hp : prepare rt request = .ok identity) (h : w.insert (rowOf rt request identity) = none) :
    w.select identity ≠ none := by
  intro hselect
  have hfresh : identity ∉ w.rows.map LedgerRow.executionIdentity := Table.lookup_eq_none.mp hselect
  unfold Ledger.insert at h
  split_ifs at h with hc
  rcases hc with hc | hc
  · exact hfresh hc
  · -- a row of the same request digest is of the same identity
    obtain ⟨row, hrow, hsha⟩ := List.mem_map.mp hc
    obtain ⟨r, hr, he⟩ := hs.rows row hrow
    obtain ⟨hvalid, hid⟩ := prepare_ok.mp hr
    obtain ⟨hvalid', hid'⟩ := prepare_ok.mp hp
    have hsame := same_of_requestSha256 hH hvalid hvalid' (by rw [← he] at hsha; exact hsha)
    rw [hsame.identity_eq, hid'] at hid
    exact hfresh (Except.ok.inj hid ▸ List.mem_map_of_mem hrow)

end

theorem Sound.insert (hs : Sound rt w) (hp : prepare rt request = .ok identity)
    (h : w.insert (rowOf rt request identity) = some w') : Sound rt w' ∧ w.rows <+: w'.rows ∧ rowOf rt request identity ∈ w'.rows := by
  obtain ⟨hfresh, rfl⟩ := insert_some h
  refine ⟨⟨?_, ?_, hs.results⟩, List.prefix_append _ _, by simp⟩
  · exact Table.nodup_append hs.identities (Table.lookup_eq_none.mpr hfresh)
  · intro row hrow
    rcases List.mem_append.mp hrow with hrow | hrow
    · exact hs.rows row hrow
    · obtain rfl := List.mem_singleton.mp hrow
      exact ⟨request, hp, rfl⟩

theorem Sound.remember (hs : Sound rt w) (hp : prepare rt request = .ok identity) :
    Sound rt (w.remember boundary identity (projection rt request identity)) := by
  refine ⟨hs.identities, hs.rows, fun b i result hresult => ?_⟩
  rcases Ledger.results_remember hresult with ⟨rfl, rfl⟩ | hresult
  · exact ⟨request, hp, rfl⟩
  · exact hs.results b i result hresult

/-- One call keeps the invariant, whatever other calls insert in between. -/
theorem execute_safe (hH : Function.Injective rt.sha256) (hl : Lowercase rt) :
    Safe ok (ledgerContract rt) me (Outcome rt ok k) (execute rt k.boundary k.request) w := by
  refine Safe.ofResult_bind (fun e he => .inl ?_) fun identity hp => ?_
  · rintro ⟨identity, hp⟩
    rw [he] at hp
    cases hp
  · refine Safe.read_bind fun w1 hs _ _ => ?_
    cases hselect : w1.select identity with
    | some row =>
      obtain ⟨hrow, rfl⟩ := select_some hselect
      have hexpected := hs.row_eq hH hl hrow hp
      refine Safe.raiseIf_bind (fun hne => absurd hexpected hne) fun _ => ?_
      refine Safe.attempt fun w2 hs2 hgrows _ => ?_
      have hstored : rowOf rt k.request row.executionIdentity ∈ w2.rows := hgrows.subset (hexpected ▸ hrow)
      cases hcached : w2.results k.boundary row.executionIdentity with
      | some cached => exact ⟨hs2, List.prefix_rfl, _, hp, (hs2.result_eq hH hl hcached hp).symm, hstored⟩
      | none => exact ⟨hs2.remember hp, List.prefix_rfl, _, hp, rfl, hstored⟩
    | none =>
      refine Safe.atomic_bind (fun e w2 hs2 _ hok he => .inr fun hall => ?_) fun u w3 w2 hs2 _ _ he => ?_
      · -- refused
        cases hinsert : w2.insert (rowOf rt k.request identity) with
        | some w3 => simp [hinsert] at he
        | none => exact hs2.insert_none hH hp hinsert (hall _ _ hok)
      · cases hinsert : w2.insert (rowOf rt k.request identity) with
        | none => simp [hinsert] at he
        | some w4 =>
          simp only [hinsert, Except.ok.injEq, Prod.mk.injEq, true_and] at he
          subst he
          obtain ⟨hs4, hgrows, hstored⟩ := hs2.insert hp hinsert
          refine ⟨hs4, hgrows, Safe.modify_bind fun w5 hs5 hgrows5 _ => ?_⟩
          exact ⟨hs5.remember hp, List.prefix_rfl, Safe.pure ⟨identity, hp, rfl, hgrows5.subset hstored⟩⟩

theorem meets (hH : Function.Injective rt.sha256) (hl : Lowercase rt) :
    (boundaries rt admits ok).Meets (ledgerContract rt) (Outcome rt ok) where
  init w h := by
    obtain ⟨hrows, hresults⟩ := h
    refine ⟨by simp [hrows], by simp [hrows], fun b i result hr => ?_⟩
    rw [hresults] at hr
    cases hr
  body _ _ _ _ _ := execute_safe hH hl
  apart := .inr fun _ _ _ _ _ _ _ h => h
  stable _ k r w w' _ _ hgrows h := by
    cases r with
    | ok result =>
      obtain ⟨identity, hp, he, hrow⟩ := h
      exact ⟨identity, hp, he, hgrows.subset hrow⟩
    | error e => exact h

/-- The call of a client. -/
def call (x : Client Execution Label Ledger String IncidentExecutionResult) : Execution :=
  match x with
  | .running k _ => k
  | .returned k _ => k
  | .crashed k => k

/-- Every client's request was admitted. -/
theorem clients_admitted {c : Conf Execution Label Ledger String IncidentExecutionResult} (hc : (boundaries rt admits ok).Reach c) :
    ∀ (i : Nat) x, c.clients[i]? = some x → admits (call x).request := by
  induction hc with
  | init s hs => simp
  | @step c c' hc hs ih =>
    have hset : ∀ (i : Nat) x y, c.clients[i]? = some x → call y = call x →
        ∀ (j : Nat) z, (c.clients.set i y)[j]? = some z → admits (call z).request := by
      intro i x y hi he j z hj
      rcases List.mem_or_eq_of_mem_set (List.mem_of_getElem? hj) with hz | rfl
      · obtain ⟨m, hm⟩ := List.getElem?_of_mem hz
        exact ih m z hm
      · exact he ▸ ih i x hi
    cases hs with
    | call k hk =>
      intro i x hi
      rcases List.mem_append.mp (List.mem_of_getElem? hi) with hx | hx
      · obtain ⟨m, hm⟩ := List.getElem?_of_mem hx
        exact ih m x hm
      · obtain rfl := List.mem_singleton.mp hx
        exact hk.1
    | txn i k l t f hi ho => exact hset i _ _ hi rfl
    | ret i k r hi => exact hset i _ _ hi rfl
    | crash i k p hi => exact hset i _ _ hi rfl

/-- A call with nothing in between returns. -/
theorem execute_returns (hH : Function.Injective rt.sha256) (hl : Lowercase rt) (hs : Sound rt w)
    (hp : prepare rt request = .ok identity) :
    ((execute rt boundary request).run w).1 = .ok (projection rt request identity) := by
  unfold execute
  rw [hp, Prog.run_bind_ok (Prog.run_ofResult _ _), Prog.run_bind_ok (Prog.run_read _ _ _)]
  cases hselect : w.select identity with
  | some row =>
    obtain ⟨hrow, rfl⟩ := select_some hselect
    have hexpected := hs.row_eq hH hl hrow hp
    have hsame : Prog.raiseIf (ℓ := Label) (σ := Ledger) (row ≠ rowOf rt request row.executionIdentity) REPLAY_CONFLICT = pure () :=
      if_neg (not_not.mpr hexpected)
    simp only [hsame]
    rw [Prog.run_bind_ok (Prog.run_pure _ _), Prog.run_attempt]
    cases hcached : w.results boundary row.executionIdentity with
    | some cached => exact congrArg _ (hs.result_eq hH hl hcached hp)
    | none => rfl
  | none =>
    cases hinsert : w.insert (rowOf rt request identity) with
    | none => exact absurd hselect (hs.insert_none hH hp hinsert)
    | some w' =>
      have hrun : (Prog.atomic (Label.insert identity) fun w => match w.insert (rowOf rt request identity) with
          | some w' => (Except.ok ((), w') : Except String (Unit × Ledger))
          | none => .error REPLAY_CONFLICT).run w = (.ok (), w') := by
        rw [Prog.run_atomic]
        simp only [Prog.answer, Prog.commit, hinsert, Except.map]
      simp only
      rw [Prog.run_bind_ok hrun, Prog.run_bind_ok (Prog.run_modify _ _ _)]
      rfl

end

/-! ## Two boundaries and one request -/

namespace Sample

variable {rt : Runtime} {request : IncidentExecutionRequest} {identity : String}

theorem prepared (hl : Lowercase rt) {decision : IncidentGovernanceDecision} : Prepared rt (Sample.request rt decision) := by
  refine prepared_iff.mpr ⟨request_valid hl, ?_⟩
  show ∀ p ∈ [("tenant_ref", "tenant")], _
  simp

def emptyLedger : Ledger := ⟨[], fun _ _ => none⟩

theorem sound_empty : Sound rt emptyLedger :=
  ⟨List.nodup_nil, fun _ hrow => absurd hrow List.not_mem_nil, fun _ _ _ h => by cases h⟩

/-- What a call does after a lookup that found nothing. -/
def insertRow (rt : Runtime) (boundary : Nat) (request : IncidentExecutionRequest) (identity : String) :
    Prog Label Ledger String IncidentExecutionResult := do
  Prog.atomic (.insert identity) fun w =>
    match w.insert (rowOf rt request identity) with
    | some w' => .ok ((), w')
    | none => .error REPLAY_CONFLICT
  Prog.modify .memory fun w => w.remember boundary identity (projection rt request identity)
  return projection rt request identity

theorem execute_lookup (hp : prepare rt request = .ok identity) (boundary : Nat) :
    ∃ f, execute rt boundary request = .txn .lookup id f ∧ f emptyLedger = insertRow rt boundary request identity := by
  unfold execute
  rw [hp]
  exact ⟨_, rfl, rfl⟩

theorem insertRow_refused {w : Ledger} (boundary : Nat) (h : w.insert (rowOf rt request identity) = none) :
    ∃ t f, insertRow rt boundary request identity = .txn (.insert identity) t f ∧ t w = w ∧ f w = .done (.error REPLAY_CONFLICT) := by
  refine ⟨_, _, rfl, ?_, ?_⟩
  · simp only [Prog.commit, h]
  · simp only [Prog.answer, h]
    rfl

/-- The first call looks its identity up, then the second runs from start to end, and then the first goes on. -/
theorem race (hH : Function.Injective rt.sha256) (hl : Lowercase rt) (hp : prepare rt request = .ok identity) :
    ∃ c, (boundaries rt (Prepared rt) fun _ _ => True).Reach c ∧
      c.clients[0]? = some (.returned ⟨0, request⟩ (.error REPLAY_CONFLICT)) := by
  have hprepared : Prepared rt request := ⟨identity, hp⟩
  obtain ⟨f, hf, hnone⟩ := execute_lookup hp 0
  have hinit : (boundaries rt (Prepared rt) fun _ _ => True).init emptyLedger := ⟨rfl, rfl⟩
  have hnobody : Idle 0 ⟨emptyLedger, []⟩ := by
    intro i k p hi
    simp at hi
  have hbegin := System.Reach.step (.init _ hinit) (.call _ ⟨0, request⟩ ⟨hprepared, hnobody⟩)
  change (boundaries rt (Prepared rt) fun _ _ => True).Reach ⟨emptyLedger, [.running ⟨0, request⟩ (execute rt 0 request)]⟩ at hbegin
  rw [hf] at hbegin
  have hlookup := System.Reach.step hbegin (.txn _ 0 _ _ _ _ rfl trivial)
  change (boundaries rt (Prepared rt) fun _ _ => True).Reach ⟨emptyLedger, [.running ⟨0, request⟩ (f emptyLedger)]⟩ at hlookup
  rw [hnone] at hlookup
  have hidle : Idle 1 ⟨emptyLedger, [.running ⟨0, request⟩ (insertRow rt 0 request identity)]⟩ := by
    intro i k p hi
    obtain rfl := Client.running.inj (List.mem_singleton.mp (List.mem_of_getElem? hi)) |>.1
    exact Nat.zero_ne_one
  have hother := hlookup.later (System.later_call (k := ⟨1, request⟩) (fun _ _ => trivial) ⟨hprepared, hidle⟩)
  have hreturned : ((execute rt 1 request).run emptyLedger).1 = .ok (projection rt request identity) :=
    execute_returns hH hl sound_empty hp
  change (boundaries rt (Prepared rt) fun _ _ => True).Reach ⟨((execute rt 1 request).run emptyLedger).2,
    [.running ⟨0, request⟩ (insertRow rt 0 request identity), .returned ⟨1, request⟩ ((execute rt 1 request).run emptyLedger).1]⟩ at hother
  rw [hreturned] at hother
  generalize ((execute rt 1 request).run emptyLedger).2 = w at hother
  obtain ⟨identity', hp', -, hrow⟩ := (meets hH hl).returned hother (i := 1) rfl
  obtain rfl : identity = identity' := Except.ok.inj (hp.symm.trans hp')
  obtain ⟨t, g, hg, hsame, herror⟩ := insertRow_refused 0
    (show w.insert (rowOf rt request identity) = none from if_pos (.inl (List.mem_map_of_mem hrow)))
  rw [hg] at hother
  have hinsert := System.Reach.step hother (.txn _ 0 _ _ _ _ rfl trivial)
  change (boundaries rt (Prepared rt) fun _ _ => True).Reach ⟨t w, [.running ⟨0, request⟩ (g w), _]⟩ at hinsert
  rw [herror] at hinsert
  exact ⟨_, .step hinsert (.ret _ 0 _ _ rfl), rfl⟩

end Sample

open Sample

end Aegis.Incidents
