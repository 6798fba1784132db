/-
  Aegis.Agentic.DelegatedCharges — who may be charging a delegated budget in an allowed run.

  A budget is delegated by an allocation, which names an agent and a delegation of it. The analyzer compares the
  delegation of the allocation with that of the budget, that of the budget with that of the event and the agent of the
  allocation with that of the delegation, but no agent with that of the event.
  - `delegation_followed`: an event charged to a delegated budget is under the allowed delegation of its allocation, and
    the budget lies in the tree of the run.
  - `charges_follow_iff`: its agent is the one that the budget was delegated to exactly where the manifest says so.
  - `charged_by_another`: an allowed run whose delegated budget an agent charges that nothing was delegated to.
-/

import Aegis.Agentic.Ceilings

namespace Aegis.Agentic.ExecutionBudget

open Data Evidence Checked Ascent

variable {rt : Runtime} {p : ExecutionBudgetPolicy} {m : ExecutionBudgetManifest} {up : Upstreams} {run : ExecutionRun}
  {fact : ExecutionBudgetFact} {e : ExecutionEvent} {a : BudgetAllocation}

/-! ## Charges -/

/-- The delegation is there, allowed, and to the agent as far as it names one. -/
def DelegatedTo (rt : Runtime) (up : Upstreams) (delegationId agentId : String) : Prop :=
  ∃ d ∈ up.delegations delegationId, decisionAllowed rt d ∧ text rt (getattr d "delegatee_agent_id" (.str agentId)) = agentId

/-- The event is under the delegation of the allocation, which is one to its agent, and charges the tree of the run. -/
structure Delegated (rt : Runtime) (m : ExecutionBudgetManifest) (up : Upstreams) (run : ExecutionRun) (a : BudgetAllocation)
    (e : ExecutionEvent) : Prop where
  delegation : e.delegationId = some a.delegationId
  allowed : DelegatedTo rt up a.delegationId a.delegateeAgentId
  tree : Above m.parentOf e.budgetId run.rootBudgetId

/-- The event is one of the agent that its budget was delegated to. -/
def FollowsDelegation (rt : Runtime) (m : ExecutionBudgetManifest) (up : Upstreams) (run : ExecutionRun) (a : BudgetAllocation)
    (e : ExecutionEvent) : Prop :=
  e.agentId = a.delegateeAgentId ∧ Delegated rt m up run a e

/-! ## What an allowed run has gone through -/

/-- What the checks of an allowed run have found of its events and of the allocations in its tree. -/
structure Continuous (rt : Runtime) (m : ExecutionBudgetManifest) (up : Upstreams) (run : ExecutionRun) : Prop where
  allocations : ∀ a ∈ m.allocations, m.rootOf a.parentBudgetId = run.rootBudgetId → allocationRisks rt m up a = []
  events : ∀ e ∈ runEvents m run, eventRisks rt m up run e = .ok []

theorem continuous_of_runFact (h : runFact rt m up run = .ok fact) (hd : fact.decision = .allow) : Continuous rt m up run := by
  unfold runFact at h
  simp only [bind_ok, getItem_ok] at h
  obtain ⟨root, -, ofEvents, hevents, h⟩ := h
  cases h
  simp only [factOf, ite_eq_left_iff, reduceCtorEq, imp_false, not_not, BudgetRisk.sorted_eq_nil, List.append_eq_nil_iff] at hd
  obtain ⟨⟨⟨⟨⟨⟨hallocations, -⟩, -⟩, -⟩, rfl⟩, -⟩, -⟩ := hd
  refine ⟨fun a ha hroot => ?_, collectRisks_nil hevents⟩
  rw [allocationRisksByRoot, List.append_eq_nil_iff] at hallocations
  exact List.flatMap_eq_nil_iff.mp hallocations.1 a (List.mem_filter.mpr ⟨ha, decide_eq_true hroot⟩)

/-- An allocation without risks hands its child budget on under its own delegation, to its own agent. -/
theorem delegated_of_allocationRisks {child parent : BudgetEnvelope} (hchild : m.budget a.childBudgetId = some child)
    (hparent : m.budget a.parentBudgetId = some parent) (h : allocationRisks rt m up a = []) :
    child.delegationId = some a.delegationId ∧ DelegatedTo rt up a.delegationId a.delegateeAgentId := by
  unfold allocationRisks at h
  simp only [hchild, hparent, List.append_eq_nil_iff, flag_eq_nil, not_not] at h
  obtain ⟨⟨-, hdelegation⟩, hfact⟩ := h
  refine ⟨hdelegation, ?_⟩
  cases hd : up.delegations a.delegationId with
  | none =>
    rw [hd] at hfact
    cases hfact
  | some d =>
    rw [hd] at hfact
    by_cases hallowed : decisionAllowed rt d
    · simp only [not_true_eq_false, if_false, hallowed, flag_eq_nil, not_not] at hfact
      exact ⟨d, hd, hallowed, hfact⟩
    · simp only [hallowed, not_false_eq_true, if_true, reduceCtorEq] at hfact

/-- An event without risks is under the delegation of the budget it charges, unless that is the root budget. -/
theorem delegationId_of_eventRisks {budget : BudgetEnvelope} (hbudget : m.budget e.budgetId = some budget)
    (hroot : e.budgetId ≠ run.rootBudgetId) (h : eventRisks rt m up run e = .ok []) : e.delegationId = budget.delegationId := by
  unfold eventRisks at h
  simp only [bind_ok, getItem_ok] at h
  obtain ⟨found, hfound, ⟨⟩, -, h⟩ := h
  obtain rfl : budget = found := Option.some.inj (hbudget.symm.trans hfound)
  simp only [pure, Except.pure, Except.ok.injEq, List.append_eq_nil_iff, flag_eq_nil] at h
  obtain ⟨⟨⟨⟨⟨-, hdelegation⟩, -⟩, -⟩, -⟩, -⟩ := h
  by_contra hne
  exact hdelegation ⟨hne, fun hc => hroot hc.1⟩

theorem budget_found (ha : Accepted m) {id : String} (h : id ∈ m.budgets.map (·.budgetId)) : ∃ b, m.budget id = some b := by
  obtain ⟨b, hb, rfl⟩ := List.mem_map.mp h
  exact ⟨b, budget_self ha hb⟩

/-- A budget in the tree of a run that an allocation hands on hangs on the root of the run through it. -/
theorem rootOf_parent (ha : Accepted m) (hrun : run ∈ m.runs) (hmem : a ∈ m.allocations)
    (hbelow : Above m.parentOf a.childBudgetId run.rootBudgetId) :
    a.childBudgetId ≠ run.rootBudgetId ∧ m.rootOf a.parentBudgetId = run.rootBudgetId := by
  have hroot : m.parentOf run.rootBudgetId = none := (ha.roots run hrun).2
  have hparent : m.parentOf a.childBudgetId = some a.parentBudgetId := by
    rw [ExecutionBudgetManifest.parentOf, Dict.ofItems_self ha.children hmem, Option.map_some]
  have hne : a.childBudgetId ≠ run.rootBudgetId := by
    intro hsame
    rw [hsame, hroot] at hparent
    cases hparent
  refine ⟨hne, ?_⟩
  have habove : Above m.parentOf a.parentBudgetId run.rootBudgetId := by
    rcases Relation.ReflTransGen.cases_head hbelow with hsame | ⟨y, hy, habove⟩
    · exact absurd hsame hne
    · rw [hparent, Option.some.injEq] at hy
      exact hy ▸ habove
  have hknown : a.parentBudgetId ∈ m.budgets.map (·.budgetId) := (ha.allocated a hmem).1
  obtain ⟨b, hb, hid⟩ := List.mem_map.mp hknown
  obtain ⟨d, hd⟩ := ha.ancestry b hb
  rw [hid] at hd
  have hlen : d ≤ (m.budgets.map (·.budgetId)).length := by
    refine hd.le_length hknown fun y _ z hz => ?_
    obtain ⟨x, hx, -, rfl⟩ := parentOf_mem hz
    exact (ha.allocated x hx).1
  rw [List.length_map] at hlen
  exact hd.top hlen habove hroot

/-- An event of an allowed run that charges a delegated budget is under the delegation of the allocation. -/
theorem delegation_followed (ha : Accepted m) (hc : Continuous rt m up run) (hrun : run ∈ m.runs) (he : e ∈ runEvents m run)
    (hmem : a ∈ m.allocations) (hcharged : a.childBudgetId = e.budgetId) : Delegated rt m up run a e := by
  have hrisks := hc.events e he
  have hbelow : Above m.parentOf e.budgetId run.rootBudgetId :=
    (mem_descendants ha (ha.roots run hrun).1).mp (eventRisks_nil hrisks)
  obtain ⟨hne, hroot⟩ := rootOf_parent ha hrun hmem (hcharged ▸ hbelow)
  obtain ⟨parent, hparent⟩ := budget_found ha (ha.allocated a hmem).1
  obtain ⟨child, hchild⟩ := budget_found ha (ha.allocated a hmem).2
  obtain ⟨hdelegation, hallowed⟩ := delegated_of_allocationRisks hchild hparent (hc.allocations a hmem hroot)
  have hbudget : m.budget e.budgetId = some child := hcharged ▸ hchild
  refine ⟨?_, hallowed, hbelow⟩
  rw [delegationId_of_eventRisks hbudget (hcharged ▸ hne) hrisks, hdelegation]

/-- The charges of an allowed run follow the delegations exactly when each event that charges a delegated budget is one
    of the agent that the allocation names. -/
theorem charges_follow_iff (p : ExecutionBudgetPolicy) (m : ExecutionBudgetManifest) (p8a p8c p8d : Json) (now : Int)
    (facts : List ExecutionBudgetFact) (run : ExecutionRun) (fact : ExecutionBudgetFact)
    (h : derive rt p m p8a p8c p8d now = .ok facts) (hrun : run ∈ m.runs) (hfact : fact ∈ facts)
    (hid : fact.runId = run.runId) (hd : fact.decision = .allow) :
    (∀ e ∈ runEvents m run, ∀ a ∈ m.allocations, a.childBudgetId = e.budgetId →
      FollowsDelegation rt m (upstreamsOf rt p8a p8c p8d) run a e) ↔
      ∀ e ∈ runEvents m run, ∀ a ∈ m.allocations, a.childBudgetId = e.budgetId → e.agentId = a.delegateeAgentId := by
  obtain ⟨ha, hf⟩ := derive_run h hrun hfact hid
  have hc := continuous_of_runFact hf hd
  constructor
  · intro hall e he a hmem hcharged
    exact (hall e he a hmem hcharged).1
  · intro hagents e he a hmem hcharged
    exact ⟨hagents e he a hmem hcharged, delegation_followed ha hc hrun he hmem hcharged⟩

namespace Sample

/-- The delegation to the finder, allowed. -/
def delegationsToFinder : Json :=
  upstream 'a' "exact_delegation_graph_binding_verified" "caller_declared_delegation_authorization_trusted"
    ("delegations", .arr [.obj [("delegation_id", .str "d"), ("delegatee_agent_id", .str "finder"), ("decision", .str "allow")]])

theorem delegatedDigest_not_blank : blank delegatedDigest = false := rfl

def finderFacts : Check (List ExecutionBudgetFact) :=
  derive (.folded delegatedDigest delegatedDigest_not_blank) (policy delegated delegatedDigest) delegated delegationsToFinder steps observations 200

/-- An event of another agent, charged to the budget of the finder. -/
def intrusion : ExecutionEvent := { retry child with agentId := "intruder" }

def intruded : ExecutionBudgetManifest := { delegated with events := [intrusion] }

def intrudedDigest : String := "0f49ec763135a957899357ec0e9f363afa65c40bb702101bb22a0b3214835bda"

def intrudedFacts : Check (List ExecutionBudgetFact) :=
  derive (.folded intrudedDigest rfl) (policy intruded intrudedDigest) intruded delegationsToFinder steps observations 200

end Sample

open Sample in
/-- The finder charges the budget that was delegated to it. -/
theorem charges_follow_finder : ∃ f, finderFacts = .ok [f] ∧ f.decision = .allow ∧
    ∀ e ∈ runEvents delegated searchRun, ∀ a ∈ delegated.allocations, a.childBudgetId = e.budgetId →
      FollowsDelegation (.folded delegatedDigest rfl) delegated
        (upstreamsOf (.folded delegatedDigest rfl) delegationsToFinder steps observations) searchRun a e := by
  obtain ⟨f, hf, hid, hd⟩ := @fact_of_allowed finderFacts (by decide +kernel)
  have hagents : ∀ e ∈ runEvents delegated searchRun, ∀ a ∈ delegated.allocations, a.childBudgetId = e.budgetId →
      e.agentId = a.delegateeAgentId := by decide
  exact ⟨f, hf, hd, (charges_follow_iff _ delegated delegationsToFinder steps observations 200 [f] searchRun f hf
    List.mem_cons_self List.mem_cons_self hid hd).mpr hagents⟩

open Sample in
/-- A run is allowed although another agent charges the budget that was delegated to the finder. -/
theorem charged_by_another : ∃ f, intrudedFacts = .ok [f] ∧ f.runId = searchRun.runId ∧ f.decision = .allow ∧
    intrusion ∈ runEvents intruded searchRun ∧ allocation ∈ intruded.allocations ∧
    allocation.childBudgetId = intrusion.budgetId ∧ intrusion.agentId ≠ allocation.delegateeAgentId := by
  obtain ⟨f, hf, hid, hd⟩ := @fact_of_allowed intrudedFacts (by decide +kernel)
  exact ⟨f, hf, hid, hd, by decide, by decide, by decide, by decide⟩

end Aegis.Agentic.ExecutionBudget
