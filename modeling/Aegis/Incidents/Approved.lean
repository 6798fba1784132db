/-
  Aegis.Incidents.Approved — which requests a boundary executes.

  `create_request` makes requests of approved decisions on open incidents only (`created_approved`),
  and `create_handoff` accepts no others. `execute` checks what a request says against its own
  records, whatever their decision and state: it executes any prepared request
  (`executed_approved_iff`), so a request put together from a validly digested denial is executed
  (`denied_executed`).
-/

import Aegis.Incidents.Ledger

namespace Aegis.Incidents

open Data Data.Checks Txn
open Assurance (Runtime)

variable {rt : Runtime} {request : IncidentExecutionRequest} {w : Ledger} {k : Execution}
  {ok : Label → Ledger → Prop} {me : Nat} {c : Conf Execution Label Ledger String IncidentExecutionResult}

/-- The decision is an approval, of an incident that is not closed. -/
def Approved (request : IncidentExecutionRequest) : Prop :=
  request.governance.decision = .approved ∧ request.governance.lifecycle.state ≠ .closed

/-- Only prepared requests are executed, whatever else happens to the ledger. -/
theorem execute_prepares :
    Safe ok (Contract.free Ledger) me (OnOk fun _ _ => Prepared rt k.request) (execute rt k.boundary k.request) w := by
  refine Safe.ofResult_bind (fun e _ => .error) fun identity hp => ?_
  exact (Safe.free ok me _ w).mono trivial fun _ _ _ _ _ _ => ⟨identity, hp⟩

theorem prepared_of_returned {admits : IncidentExecutionRequest → Prop} (hc : (boundaries rt admits ok).Reach c) {i : Nat}
    {result : IncidentExecutionResult} (hi : c.clients[i]? = some (.returned k (.ok result))) : Prepared rt k.request := by
  have hmeets : (boundaries rt admits ok).Meets (Contract.free Ledger) fun k => OnOk fun _ _ => Prepared rt k.request :=
    ⟨fun _ _ => trivial, fun _ _ _ _ _ => execute_prepares, .inr fun _ _ _ _ _ _ _ _ => trivial, fun _ _ _ _ _ _ _ _ h => h⟩
  exact hmeets.returned hc hi result rfl

/-- On a new ledger a prepared request is executed. -/
theorem execute_first (boundary : Nat) (hp : Prepared rt request) :
    ∃ result, ((execute rt boundary request).run Sample.emptyLedger).1 = .ok result := by
  obtain ⟨identity, hp⟩ := hp
  refine ⟨projection rt request identity, ?_⟩
  unfold execute
  rw [hp, Prog.run_bind_ok (Prog.run_ofResult _ _), Prog.run_bind_ok (Prog.run_read _ _ _)]
  rfl

/-- A run that executes it. -/
theorem executed_run (hp : Prepared rt request) : ∃ c, (boundaries rt (fun _ => True) fun _ _ => True).Reach c ∧
    ∃ result, c.clients[0]? = some (.returned ⟨0, request⟩ (.ok result)) := by
  obtain ⟨result, hreturned⟩ := execute_first 0 hp
  have hinit : (boundaries rt (fun _ => True) fun _ _ => True).init Sample.emptyLedger := ⟨rfl, rfl⟩
  have hidle : Idle 0 ⟨Sample.emptyLedger, []⟩ := by
    intro i k p hi
    simp at hi
  have hcall := System.Reach.later (.init _ hinit)
    (System.later_call (k := ⟨0, request⟩) (fun _ _ => trivial) ⟨trivial, hidle⟩)
  change (boundaries rt (fun _ => True) fun _ _ => True).Reach ⟨((execute rt 0 request).run Sample.emptyLedger).2,
    [.returned ⟨0, request⟩ ((execute rt 0 request).run Sample.emptyLedger).1]⟩ at hcall
  rw [hreturned] at hcall
  exact ⟨_, hcall, result, rfl⟩

/-- A request is executed only if it is approved, and a handoff of it accepted, exactly when it is approved or fails the checks
    of `execute`. -/
theorem executed_approved_iff (rt : Runtime) (request : IncidentExecutionRequest) :
    (∀ c, (boundaries rt (fun _ => True) fun _ _ => True).Reach c → ∀ (i boundary : Nat) (result : IncidentExecutionResult),
      c.clients[i]? = some (.returned ⟨boundary, request⟩ (.ok result)) →
      Approved request ∧ ∃ h, createHandoff rt request = .ok h) ↔
    (Prepared rt request → Approved request) := by
  constructor
  · intro h hp
    obtain ⟨c, hc, result, hi⟩ := executed_run hp
    exact (h c hc 0 0 result hi).1
  · intro h c hc i boundary result hi
    have hp := prepared_of_returned hc hi
    have happroved := h hp
    exact ⟨happroved, createHandoff_ok.mpr ⟨(prepared_iff.mp hp).1, happroved.1, happroved.2⟩⟩

namespace Sample

variable (hl : Lowercase rt)
include hl

theorem denied_not_created : createRequest rt (governance rt .denied) = .error "DENIED_GOVERNANCE_EXECUTION_REJECTED" := by
  have hgovernance : (governance rt .denied).Valid rt := governance_valid hl
  have hvalid := validateGovernance_ok.mpr ⟨hgovernance, rfl⟩
  unfold createRequest
  rw [hvalid]
  rfl

theorem denied_no_handoff :
    createHandoff rt (Sample.request rt .denied) = .error "INCIDENT_HANDOFF_APPROVED_EXECUTION_REQUIRED" := by
  have hrequest : (Sample.request rt .denied).Valid rt := request_valid hl
  have hvalid := validateRequest_ok.mpr hrequest
  unfold createHandoff
  rw [validateExecutionRequest_eq, hvalid]
  rfl

end Sample

open Sample

/-- A denied action is executed, although no request is created for it and no handoff accepted. -/
theorem denied_executed : Lowercase runtime ∧ ∃ c, (boundaries runtime (fun _ => True) fun _ _ => True).Reach c ∧
    ∃ result, c.clients[0]? = some (.returned ⟨0, Sample.request runtime .denied⟩ (.ok result)) ∧
      createRequest runtime (governance runtime .denied) = .error "DENIED_GOVERNANCE_EXECUTION_REJECTED" ∧
      createHandoff runtime (Sample.request runtime .denied) = .error "INCIDENT_HANDOFF_APPROVED_EXECUTION_REQUIRED" := by
  have hprepared : Prepared runtime (Sample.request runtime .denied) := prepared lowercase
  obtain ⟨c, hc, result, hi⟩ := executed_run hprepared
  exact ⟨lowercase, c, hc, result, hi, denied_not_created lowercase, denied_no_handoff lowercase⟩

end Aegis.Incidents
