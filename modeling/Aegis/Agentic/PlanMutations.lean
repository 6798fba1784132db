/-
  Aegis.Agentic.PlanMutations — the mutations of a plan and the boundaries of its steps.

  The two loops ask for the same boundaries, but the one over the mutations does not look at the expiry of the goal,
  and takes every invariant an action requires to be in the evidence.
  - `anyUnsafe_returns`: the invariants of an action are gone through up to the first unsafe one; one that is missing
    before it raises a KeyError.
  - `mutations_bounded_iff`: whatever the caller declares, `evaluate` returns or rejects and its allowed mutations keep
    within the boundaries of steps exactly when no mutation comes to a missing invariant, and none on an expired goal
    is clean otherwise.
-/

import Aegis.Agentic.AcceptedPlans

namespace Aegis.Agentic.GoalPlan

open Data Evidence Checked Decision
open Delegation (isSha256)

variable {rt : Runtime} {c : Context} {g : AgentGoal}

/-! ## Delegations and contexts -/

/-- The delegation of a goal is allowed, and for the principal and the tenant of the goal. -/
def Continues (rt : Runtime) (up : Upstreams) (g : AgentGoal) : Prop :=
  ∀ d ∈ g.delegationId, d ≠ "" ∧ ∃ delegation, up.delegations d = some delegation ∧ decidedAllow rt delegation ∧
    text rt (getattr delegation "original_principal_id" (.str "")) = g.originalPrincipalId ∧
    text rt (getattr delegation "tenant_id" (.str "")) = g.tenantId

/-- The delegation of a goal covers the capabilities. -/
def Covers (up : Upstreams) (g : AgentGoal) (required : List String) : Prop :=
  ∀ d ∈ g.delegationId, ∃ delegation, up.delegations d = some delegation ∧
    ∀ k ∈ required, Json.str k ∈ elements (getattr delegation "requested_capability_ids" .nil)

theorem continues_iff : goalDelegationRisks rt c g = [] ↔ Continues rt c.upstreams g := by
  unfold goalDelegationRisks delegationRisks Continues
  cases hd : g.delegationId with
  | none => simp
  | some d =>
    by_cases hempty : d = ""
    · simp [hempty, Option.filter_some]
    · simp only [Option.filter_some, hempty, ne_eq, not_false_eq_true, decide_true, if_true, Option.bind_some, Option.mem_def, Option.some.injEq,
        forall_eq', true_and]
      cases hdelegation : c.upstreams.delegations d with
      | none => simp
      | some delegation => simp

variable {required ks : List String} {u : PlanMutation}

theorem covers_iff : coverageRisks c g required = .ok [] ↔ Covers c.upstreams g required := by
  unfold coverageRisks Covers
  cases hd : g.delegationId with
  | none => simp
  | some d =>
    simp only [bind_ok, getItem_ok, Option.mem_def, Option.some.injEq, forall_eq']
    refine exists_congr fun delegation => and_congr_right fun _ => ?_
    constructor
    · intro h
      simpa using Except.ok.inj h
    · intro h
      show Except.ok _ = _
      rw [flag_eq_nil.mpr (not_not_intro h)]

/-- An instruction belongs to a goal, and so does the memory it came from, which may be used. -/
structure InContext (rt : Runtime) (c : Context) (g : AgentGoal) (i : InstructionRecord) : Prop where
  goal : i.goalId = none ∨ i.goalId = some g.goalId
  principal : i.originalPrincipalId = g.originalPrincipalId
  tenant : i.tenantId = g.tenantId
  session : i.sessionId = g.sessionId
  memory : ∀ r ∈ i.memoryRetrievalId, ∃ x, c.upstreams.retrievals r = some x ∧ decidedAllow rt x ∧
    text rt (getattr x "tenant_id" (.str "")) = g.tenantId ∧ getattr x "session_id" .null = optText g.sessionId

theorem inContext_iff {i : InstructionRecord} : instructionContextRisks rt c g i = .ok [] ↔ InContext rt c g i := by
  have hmemory : retrievalContextRisks rt c i g = .ok [] ↔ ∀ r ∈ i.memoryRetrievalId, ∃ x, c.upstreams.retrievals r = some x ∧
      decidedAllow rt x ∧ text rt (getattr x "tenant_id" (.str "")) = g.tenantId ∧ getattr x "session_id" .null = optText g.sessionId := by
    unfold retrievalContextRisks
    cases hr : i.memoryRetrievalId with
    | none => simp
    | some r =>
      simp only [bind_ok, getItem_ok, Option.mem_def, Option.some.injEq, forall_eq']
      refine exists_congr fun x => and_congr_right fun _ => ?_
      constructor
      · intro h
        have h := Except.ok.inj h
        simpa [not_or] using h
      · intro h
        show Except.ok _ = _
        rw [flag_eq_nil.mpr (not_not_intro h.1), flag_eq_nil.mpr (by simp [h.2])]
        rfl
  simp only [instructionContextRisks, bind_ok]
  constructor
  · rintro ⟨risks, hrisks, he⟩
    have he := Except.ok.inj he
    simp only [List.append_eq_nil_iff, flag_eq_nil, not_not, ne_eq, List.mem_cons, List.not_mem_nil, or_false] at he
    obtain ⟨⟨⟨⟨hgoal, hprincipal⟩, htenant⟩, hsession⟩, rfl⟩ := he
    exact ⟨hgoal, hprincipal, htenant, hsession, hmemory.mp hrisks⟩
  · intro h
    refine ⟨[], hmemory.mpr h.memory, ?_⟩
    have hgoal : i.goalId ∈ [none, some g.goalId] := by simpa using h.goal
    show Except.ok _ = _
    rw [flag_eq_nil.mpr (not_not_intro hgoal), flag_eq_nil.mpr (not_not_intro h.principal), flag_eq_nil.mpr (not_not_intro h.tenant),
      flag_eq_nil.mpr (not_not_intro h.session)]
    rfl

/-! ## Invariants -/

/-- The invariant is in the evidence, and holds. -/
def Holds (rt : Runtime) (c : Context) (k : String) : Prop := ∃ i, c.upstreams.invariants k = some i ∧ ¬ invariantUnsafe rt i

/-- Going through the invariants, an unsafe one is met before any that is missing. -/
def Found (rt : Runtime) (c : Context) (required : List String) : Prop :=
  ∀ before k after, required = before ++ k :: after → c.upstreams.invariants k = none →
    ∃ k' ∈ before, ∃ i, c.upstreams.invariants k' = some i ∧ invariantUnsafe rt i

theorem found_of_unsafe {k : String} {i : Json} (hi : c.upstreams.invariants k = some i) (hexposed : invariantUnsafe rt i) :
    Found rt c (k :: ks) := by
  intro before k' after hsplit hmissing
  cases before with
  | nil =>
    obtain ⟨rfl, -⟩ := List.cons.inj hsplit
    rw [hi] at hmissing
    cases hmissing
  | cons x before =>
    obtain ⟨rfl, -⟩ := List.cons.inj hsplit
    exact ⟨k, List.mem_cons_self, i, hi, hexposed⟩

theorem found_cons {k : String} {i : Json} (hi : c.upstreams.invariants k = some i) (hsafe : ¬ invariantUnsafe rt i) :
    Found rt c (k :: ks) ↔ Found rt c ks := by
  constructor
  · intro h before k' after hsplit hmissing
    obtain ⟨x, hx, j, hj, hexposed⟩ := h (k :: before) k' after (by rw [hsplit]; rfl) hmissing
    rcases List.mem_cons.mp hx with rfl | hx
    · rw [hi] at hj
      exact absurd (Option.some.inj hj ▸ hexposed) hsafe
    · exact ⟨x, hx, j, hj, hexposed⟩
  · intro h before k' after hsplit hmissing
    cases before with
    | nil =>
      obtain ⟨rfl, -⟩ := List.cons.inj hsplit
      rw [hi] at hmissing
      cases hmissing
    | cons x before =>
      obtain ⟨rfl, htail⟩ := List.cons.inj hsplit
      obtain ⟨y, hy, hrest⟩ := h before k' after htail hmissing
      exact ⟨y, List.mem_cons_of_mem _ hy, hrest⟩

theorem anyUnsafe_returns : (∃ b, anyUnsafe rt c required = .ok b) ↔ Found rt c required := by
  induction required with
  | nil =>
    refine ⟨fun _ before k after hsplit => ?_, fun _ => ⟨false, rfl⟩⟩
    cases before with
    | nil => cases hsplit
    | cons _ _ => cases hsplit
  | cons k ks ih =>
    unfold anyUnsafe
    simp only [bind_ok, getItem_ok]
    cases hk : c.upstreams.invariants k with
    | none =>
      refine ⟨fun h => ?_, fun h => ?_⟩
      · obtain ⟨_, _, hnone, -⟩ := h
        cases hnone
      · obtain ⟨_, hmem, -⟩ := h [] k ks rfl hk
        cases hmem
    | some i =>
      by_cases hexposed : invariantUnsafe rt i
      · refine ⟨fun _ => found_of_unsafe hk hexposed, fun _ => ⟨true, i, rfl, ?_⟩⟩
        rw [if_pos hexposed]
        rfl
      · rw [found_cons hk hexposed, ← ih]
        refine exists_congr fun b => ⟨fun h => ?_, fun h => ⟨i, rfl, ?_⟩⟩
        · obtain ⟨j, hj, hrest⟩ := h
          obtain rfl := Option.some.inj hj
          rw [if_neg hexposed] at hrest
          exact hrest
        · rw [if_neg hexposed]
          exact h

/-- No invariant is found to be unsafe where all are there and hold. -/
theorem anyUnsafe_false : anyUnsafe rt c required = .ok false ↔ ∀ k ∈ required, Holds rt c k := by
  induction required with
  | nil => simp [anyUnsafe]
  | cons k ks ih =>
    rw [List.forall_mem_cons, ← ih, anyUnsafe]
    simp only [bind_ok, getItem_ok]
    constructor
    · intro h
      obtain ⟨i, hi, hrest⟩ := h
      by_cases hexposed : invariantUnsafe rt i
      · rw [if_pos hexposed] at hrest
        cases hrest
      · rw [if_neg hexposed] at hrest
        exact ⟨⟨i, hi, hexposed⟩, hrest⟩
    · intro h
      obtain ⟨⟨i, hi, hexposed⟩, hrest⟩ := h
      refine ⟨i, hi, ?_⟩
      rw [if_neg hexposed]
      exact hrest

/-! ## The boundaries of an action class -/

/-- An action class on a goal is within its boundaries. -/
structure Within (rt : Runtime) (c : Context) (g : AgentGoal) (action : String) : Prop where
  unexpired : c.evaluatedAtEpoch < g.expiresAtEpoch
  continues : Continues rt c.upstreams g
  covers : ∃ required, Dict.mapping c.policy.actionRequiredCapabilities action = some required ∧ Covers c.upstreams g required
  goalScope : action ∈ g.allowedActionClasses
  rootScope : ∃ root, c.manifest.instruction g.rootInstructionId = some root ∧ action ∈ root.allowedActionClasses
  invariants : ∃ required, Dict.mapping c.policy.actionRequiredP7iInvariants action = some required ∧ ∀ k ∈ required, Holds rt c k

/-! ## Clean mutations -/

/-- A mutation meets what the loop over the mutations asks of it. -/
structure Clean (rt : Runtime) (c : Context) (u : PlanMutation) (g : AgentGoal) (root source : InstructionRecord) : Prop where
  continues : Continues rt c.upstreams g
  context : InContext rt c g source
  authority : root.precedence ≤ source.precedence ∧ root.trust.rank ≤ source.trust.rank
  /-- The action class it proposes is in scope, covered, and its invariants hold. -/
  action : ∀ a ∈ u.proposedActionClass, (a ∈ g.allowedActionClasses ∧ a ∈ root.allowedActionClasses) ∧
    (∃ required, Dict.mapping c.policy.actionRequiredCapabilities a = some required ∧ Covers c.upstreams g required) ∧
    ∃ required, Dict.mapping c.policy.actionRequiredP7iInvariants a = some required ∧ ∀ k ∈ required, Holds rt c k
  directive : u.mutationType ∈ [PlanMutationType.terminate, .rollback] → source.directive ∈ [InstructionDirective.terminate, .rollback, .constraint]
  proposed : ∃ candidates, (Checks.gather (getItem c.manifest.instruction) u.proposedInstructionIds : Check _) = .ok candidates ∧
    ¬ ∃ i ∈ candidates, i.precedence > root.precedence ∧ i.trust.rank < root.trust.rank

theorem authority_nil {root source : InstructionRecord} :
    authorityRisks root source = [] ↔ root.precedence ≤ source.precedence ∧ root.trust.rank ≤ source.trust.rank := by
  unfold authorityRisks
  by_cases h : source.precedence < root.precedence ∨ source.trust.rank < root.trust.rank
  · rw [if_pos h]
    simp only [reduceCtorEq, false_iff, not_and_or, not_le]
    exact h
  · rw [if_neg h, ← not_lt, ← not_lt, ← not_or]
    exact ⟨fun _ => h, fun _ => rfl⟩

theorem proposed_nil {root : InstructionRecord} {proposed : Option String} : proposedRisks rt c g root proposed = .ok [] ↔
    ∀ a ∈ proposed, (a ∈ g.allowedActionClasses ∧ a ∈ root.allowedActionClasses) ∧
      (∃ required, Dict.mapping c.policy.actionRequiredCapabilities a = some required ∧ Covers c.upstreams g required) ∧
      ∃ required, Dict.mapping c.policy.actionRequiredP7iInvariants a = some required ∧ ∀ k ∈ required, Holds rt c k := by
  cases proposed with
  | none => simp [proposedRisks]
  | some a =>
    simp only [proposedRisks, bind_ok, getItem_ok, Option.mem_def, Option.some.injEq, forall_eq']
    constructor
    · intro h
      obtain ⟨required, hrequired, coverage, hcoverage, invariants, hinvariants, found, hfound, he⟩ := h
      have he := Except.ok.inj he
      simp only [List.append_eq_nil_iff, flag_eq_nil, not_or, not_not, Bool.not_eq_true] at he
      obtain ⟨⟨hscope, rfl⟩, rfl⟩ := he
      exact ⟨hscope, ⟨required, hrequired, covers_iff.mp hcoverage⟩, invariants, hinvariants, anyUnsafe_false.mp hfound⟩
    · intro h
      obtain ⟨hscope, ⟨required, hrequired, hcovers⟩, invariants, hinvariants, hholds⟩ := h
      refine ⟨required, hrequired, [], covers_iff.mpr hcovers, invariants, hinvariants, false, anyUnsafe_false.mpr hholds, ?_⟩
      show Except.ok _ = _
      rw [flag_eq_nil.mpr (by rw [not_or, not_not, not_not]; exact hscope), flag_eq_nil.mpr (by simp)]
      rfl

theorem clean_iff {root source : InstructionRecord} :
    mutationRisks rt c u g root source = .ok [] ↔ Clean rt c u g root source := by
  simp only [mutationRisks, bind_ok]
  constructor
  · intro h
    obtain ⟨context, hcontext, proposed, hproposed, candidates, hcandidates, he⟩ := h
    have he := Except.ok.inj he
    simp only [List.append_eq_nil_iff, flag_eq_nil, not_and, not_not] at he
    obtain ⟨⟨⟨⟨⟨hcontinues, rfl⟩, hauthority⟩, rfl⟩, hdirective⟩, hgain⟩ := he
    exact ⟨continues_iff.mp hcontinues, inContext_iff.mp hcontext, authority_nil.mp hauthority, proposed_nil.mp hproposed, hdirective,
      candidates, hcandidates, hgain⟩
  · intro h
    obtain ⟨candidates, hcandidates, hgain⟩ := h.proposed
    refine ⟨[], inContext_iff.mpr h.context, [], proposed_nil.mpr h.action, candidates, hcandidates, ?_⟩
    show Except.ok _ = _
    rw [continues_iff.mpr h.continues, authority_nil.mpr h.authority, flag_eq_nil.mpr (by rw [not_and, not_not]; exact h.directive),
      flag_eq_nil.mpr hgain]
    rfl

theorem mutationFact_ok {f : PlanMutationIntegrityFact} (h : mutationFact rt c u = .ok f) :
    f.goalId = u.goalId ∧ f.proposedActionClass = u.proposedActionClass ∧ ∃ g root source, c.manifest.goal u.goalId = some g ∧
      c.manifest.instruction g.rootInstructionId = some root ∧ c.manifest.instruction u.sourceInstructionId = some source ∧
      (f.decision = .allow ↔ Clean rt c u g root source) := by
  simp only [mutationFact, bind_ok, getItem_ok] at h
  obtain ⟨g, hg, root, hroot, source, hsource, risks, hrisks, he⟩ := h
  obtain rfl := Except.ok.inj he
  refine ⟨rfl, rfl, g, root, source, hg, hroot, hsource, ?_⟩
  rw [← clean_iff, hrisks]
  dsimp only
  by_cases hnone : risks = []
  · rw [if_pos hnone, hnone]
    exact ⟨fun _ => rfl, fun _ => rfl⟩
  · rw [if_neg hnone]
    refine ⟨fun hdeny => ?_, fun hok => absurd (Except.ok.inj hok) hnone⟩
    cases hdeny

/-- The decisions on mutations raise KeyErrors only. -/
theorem mutationFact_raises : Checks.Raises (fun e => ∃ k, e = .key k) (mutationFact rt c u) := by
  have hitem : ∀ {α : Type} {d : Dict α} {k : String}, Checks.Raises (fun e => ∃ k, e = .key k) (getItem d k : Check α) :=
    getItem_raises fun _ => ⟨_, rfl⟩
  have hany : ∀ ks, Checks.Raises (fun e => ∃ k, e = .key k) (anyUnsafe rt c ks) := by
    intro ks
    induction ks with
    | nil => exact .ok
    | cons k ks ih =>
      rw [anyUnsafe]
      refine .bind hitem fun i _ => ?_
      split
      · exact .ok
      · exact ih
  have hcoverage : ∀ {g required}, Checks.Raises (fun e => ∃ k, e = .key k) (coverageRisks c g required) := by
    intro g required
    unfold coverageRisks
    split
    · exact .ok
    · exact .bind hitem fun _ _ => .ok
  have hcontext : ∀ {g i}, Checks.Raises (fun e => ∃ k, e = .key k) (instructionContextRisks rt c g i) := by
    intro g i
    unfold instructionContextRisks retrievalContextRisks
    refine .bind ?_ fun _ _ => .ok
    split
    · exact .ok
    · exact .bind hitem fun _ _ => .ok
  have hproposed : ∀ {g root}, Checks.Raises (fun e => ∃ k, e = .key k) (proposedRisks rt c g root u.proposedActionClass) := by
    intro g root
    cases u.proposedActionClass with
    | none => exact .ok
    | some a => exact .bind hitem fun _ _ => .bind hcoverage fun _ _ => .bind hitem fun _ _ => .bind (hany _) fun _ _ => .ok
  unfold mutationFact mutationRisks
  refine .bind hitem fun _ _ => .bind hitem fun _ _ => .bind hitem fun _ _ => .bind ?_ fun _ _ => .ok
  exact .bind hcontext fun _ _ => .bind hproposed fun _ _ => .bind (.gather fun _ _ => hitem) fun _ _ => .ok

section
variable {rt : GoalPlanRuntime} {p : GoalPlanPolicy} {q : GoalPlanRequest} {m : GoalPlanManifest} {up : Upstreams} {now : Int}

/-- A mutation is decided exactly when no missing invariant is come to. -/
theorem mutationFact_returns (hp : Covered p) (ha : Accepted rt p m up) (hu : u ∈ m.mutations) :
    (∃ f, mutationFact rt.toRuntime ⟨p, m, up, now⟩ u = .ok f) ↔ ∀ a ∈ u.proposedActionClass, ∀ required,
      Dict.mapping p.actionRequiredP7iInvariants a = some required → Found rt.toRuntime ⟨p, m, up, now⟩ required := by
  have hrefers := ha.mutations u hu
  obtain ⟨g, hg⟩ := hrefers.goal
  obtain ⟨root, hroot, -⟩ := ha.roots g (Dict.ofItems_mem hg).1
  obtain ⟨source, hsource⟩ := hrefers.source
  simp only [mutationFact, mutationRisks, bind_ok, getItem_ok]
  constructor
  · intro h a hproposes required hrequired
    obtain ⟨-, g', -, root', -, source', -, -, ⟨-, -, proposed, hproposed, -⟩, -⟩ := h
    rw [Option.mem_def.mp hproposes] at hproposed
    simp only [proposedRisks, bind_ok, getItem_ok] at hproposed
    obtain ⟨-, -, -, -, invariants, hinvariants, found, hfound, -⟩ := hproposed
    obtain rfl := Option.some.inj (hrequired.symm.trans hinvariants)
    exact anyUnsafe_returns.mp ⟨found, hfound⟩
  · intro h
    obtain ⟨context, hcontext⟩ := @context_returns rt p m up source g now ha (Dict.ofItems_mem hsource).1
    obtain ⟨candidates, hcandidates⟩ := gather_exists (ε := Raised GoalPlanSecurityRejected) fun i hi =>
      (hrefers.proposed i hi).imp fun x hx => getItem_ok.mpr hx
    obtain ⟨proposed, hproposed⟩ : ∃ risks, proposedRisks rt.toRuntime ⟨p, m, up, now⟩ g root u.proposedActionClass = .ok risks := by
      cases hproposes : u.proposedActionClass with
      | none => exact ⟨_, rfl⟩
      | some a =>
        have haction := hrefers.action a hproposes
        obtain ⟨capabilities, hcapabilities⟩ := mapping_some haction
        obtain ⟨invariants, hinvariants⟩ := mapping_some (hp.actions.2 _ haction)
        obtain ⟨coverage, hcoverage⟩ := @coverage_returns rt p m up g now ha (Dict.ofItems_mem hg).1 capabilities
        obtain ⟨found, hfound⟩ := anyUnsafe_returns.mpr (h a hproposes invariants hinvariants)
        simp only [proposedRisks, bind_ok, getItem_ok]
        exact ⟨_, capabilities, hcapabilities, coverage, hcoverage, invariants, hinvariants, found, hfound, rfl⟩
    exact ⟨_, g, hg, root, hroot, source, hsource, _, ⟨context, hcontext, proposed, hproposed, candidates, hcandidates, rfl⟩, rfl⟩

/-! ## The two loops -/

/-- The request that declares what is derived. -/
def truthful (q : GoalPlanRequest) (steps : List PlanStepIntegrityFact) (mutations : List PlanMutationIntegrityFact)
    (goals : List GoalIntegrityFact) : GoalPlanRequest :=
  { q with
    declaredDeniedStepIds := deniedSteps steps
    declaredDeniedMutationIds := deniedMutations mutations
    declaredUnsafeGoalIds := unsafeGoals goals
    declaredMaxIntegrityRiskScore := maxRisk steps mutations goals }

variable {mutations : List PlanMutationIntegrityFact} {steps : List PlanStepIntegrityFact}

theorem truthful_declared {goals : List GoalIntegrityFact} :
    validateDeclared (truthful q steps mutations goals) steps mutations goals = .ok () := by
  simp only [validateDeclared, bind_ok, rejectIf_ok, exists_const, not_not]
  exact ⟨sameSet_self _, sameSet_self _, sameSet_self _, rfl⟩

variable {p8a p8b p7i : Json}

/-- `evaluate` returns or rejects, and the allowed mutations that propose an action class keep within its boundaries. -/
def MutationsBounded (rt : GoalPlanRuntime) (p : GoalPlanPolicy) (q : GoalPlanRequest) (m : GoalPlanManifest) (p8a p8b p7i : Json) : Prop :=
  Checks.Raises IsRejection (evaluate rt p q m p8a p8b p7i) ∧
    ∀ a, evaluate rt p q m p8a p8b p7i = .ok a → ∀ f ∈ a.mutations, f.decision = .allow → ∀ action ∈ f.proposedActionClass,
      ∃ g, m.goal f.goalId = some g ∧ Within rt.toRuntime (contextOf rt.toRuntime p m p8a p8b p7i q.evaluatedAtEpoch) g action

/-- The policy, the evidence and the manifest pass the checks at that time, for one request or another. -/
def Admitted (rt : GoalPlanRuntime) (p : GoalPlanPolicy) (m : GoalPlanManifest) (p8a p8b p7i : Json) (now : Int) : Prop :=
  ∃ q, q.evaluatedAtEpoch = now ∧ Passes rt p q m p8a p8b p7i

/-- No mutation that proposes an action class comes to an invariant that is missing from the evidence, and none on an
expired goal is clean otherwise. -/
def NoneAstray (rt : Runtime) (c : Context) : Prop :=
  ∀ u ∈ c.manifest.mutations, ∀ action ∈ u.proposedActionClass,
    (∀ required, Dict.mapping c.policy.actionRequiredP7iInvariants action = some required → Found rt c required) ∧
    ∀ g root source, c.manifest.goal u.goalId = some g → c.manifest.instruction g.rootInstructionId = some root →
      c.manifest.instruction u.sourceInstructionId = some source → g.expiresAtEpoch ≤ c.evaluatedAtEpoch → ¬ Clean rt c u g root source

section

variable (h : Passes rt p q m p8a p8b p7i)
include h

/-- A KeyError of the decisions on mutations gets out of `evaluate`. -/
theorem evaluate_error {e : Raised GoalPlanSecurityRejected}
    (hsteps : Checks.gather (stepFact rt.toRuntime (contextOf rt.toRuntime p m p8a p8b p7i q.evaluatedAtEpoch)) (sortOn PlanStep.stepId m.steps) =
      .ok steps)
    (hmutations : Checks.gather (mutationFact rt.toRuntime (contextOf rt.toRuntime p m p8a p8b p7i q.evaluatedAtEpoch))
      (sortOn PlanMutation.mutationId m.mutations) = .error e) : evaluate rt p q m p8a p8b p7i = .error e := by
  unfold contextOf at hsteps hmutations
  simp only [evaluate, h.policy, h.request, h.upstreams, h.manifest, hsteps, hmutations, bind, Except.bind]

theorem mutations_decided (hbounded : MutationsBounded rt p q m p8a p8b p7i) :
    ∃ steps mutations, Derived rt (contextOf rt.toRuntime p m p8a p8b p7i q.evaluatedAtEpoch) steps mutations := by
  have hsteps : ∀ s ∈ sortOn PlanStep.stepId m.steps,
      ∃ f, stepFact rt.toRuntime (contextOf rt.toRuntime p m p8a p8b p7i q.evaluatedAtEpoch) s = .ok f :=
    fun s hs => stepFact_returns (covered_of_valid h.policy) h.accepted (mem_sortOn.mp hs)
  obtain ⟨steps, hsteps⟩ := gather_exists hsteps
  cases hmutations : Checks.gather (mutationFact rt.toRuntime (contextOf rt.toRuntime p m p8a p8b p7i q.evaluatedAtEpoch))
      (sortOn PlanMutation.mutationId m.mutations) with
  | error e =>
    obtain ⟨k, rfl⟩ := Checks.Raises.gather (fun _ _ => mutationFact_raises) e hmutations
    exact (hbounded.1 _ (evaluate_error h hsteps hmutations)).elim
  | ok mutations => exact ⟨steps, mutations, hsteps, hmutations⟩

/-- The caller that declares what is derived gets the decisions, so they are bounded. -/
theorem within_of_bounded
    (hderived : Derived rt (contextOf rt.toRuntime p m p8a p8b p7i q.evaluatedAtEpoch) steps mutations)
    (hbounded : ∀ q', q'.evaluatedAtEpoch = q.evaluatedAtEpoch → MutationsBounded rt p q' m p8a p8b p7i) {f : PlanMutationIntegrityFact}
    (hf : f ∈ mutations) (hallow : f.decision = .allow) {action : String} (hproposes : action ∈ f.proposedActionClass) :
    ∃ g, m.goal f.goalId = some g ∧ Within rt.toRuntime (contextOf rt.toRuntime p m p8a p8b p7i q.evaluatedAtEpoch) g action := by
  have hpasses : Passes rt p (truthful q steps mutations (goalFacts rt.toRuntime (contextOf rt.toRuntime p m p8a p8b p7i q.evaluatedAtEpoch)
    steps mutations)) m p8a p8b p7i := ⟨h.policy, h.request, h.upstreams, h.manifest⟩
  have hok := evaluate_ok.mpr ⟨hpasses, steps, mutations, hderived, truthful_declared, rfl⟩
  exact (hbounded (truthful q steps mutations (goalFacts rt.toRuntime (contextOf rt.toRuntime p m p8a p8b p7i q.evaluatedAtEpoch)
    steps mutations)) rfl).2 _ hok f hf hallow action hproposes

end

/-- Whatever the caller declares, `evaluate` returns or rejects and its allowed mutations keep within the boundaries of
steps, exactly when no mutation of what passes the checks goes astray. -/
theorem mutations_bounded_iff (rt : GoalPlanRuntime) (p : GoalPlanPolicy) (m : GoalPlanManifest) (p8a p8b p7i : Json) (now : Int) :
    (∀ q, q.evaluatedAtEpoch = now → MutationsBounded rt p q m p8a p8b p7i) ↔
      (Admitted rt p m p8a p8b p7i now → NoneAstray rt.toRuntime (contextOf rt.toRuntime p m p8a p8b p7i now)) := by
  constructor
  · rintro hbounded ⟨q, rfl, hpasses⟩
    obtain ⟨steps, mutations, hderived⟩ := mutations_decided hpasses (hbounded q rfl)
    intro u hu action hproposes
    obtain ⟨f, hmem, hf⟩ := Checks.mem_gather hderived.mutations (mem_sortOn.mpr hu)
    refine ⟨(mutationFact_returns (covered_of_valid hpasses.policy) hpasses.accepted hu).mp ⟨f, hf⟩ action hproposes, ?_⟩
    intro g root source hg hroot hsource hexpired hclean
    obtain ⟨hgoalId, hproposed, g', root', source', hg', hroot', hsource', hallow⟩ := mutationFact_ok hf
    obtain rfl := Option.some.inj (hg.symm.trans hg')
    obtain rfl := Option.some.inj (hroot.symm.trans hroot')
    obtain rfl := Option.some.inj (hsource.symm.trans hsource')
    obtain ⟨g', hg', hwithin⟩ := within_of_bounded hpasses hderived hbounded hmem (hallow.mpr hclean) (hproposed ▸ hproposes)
    rw [hgoalId] at hg'
    obtain rfl := Option.some.inj (hg.symm.trans hg')
    exact absurd hwithin.unexpired (not_lt.mpr hexpired)
  · rintro hcond q rfl
    refine ⟨evaluate_raises (fun _ h => h) fun hpasses => ?_, fun a hok f hf hallow action hproposes => ?_⟩
    · have hnone := hcond ⟨q, rfl, hpasses⟩
      refine .gather fun u hu e he => ?_
      have hu := mem_sortOn.mp hu
      obtain ⟨f, hf⟩ := (mutationFact_returns (covered_of_valid hpasses.policy) hpasses.accepted hu).mpr fun action hproposes =>
        (hnone u hu action hproposes).1
      cases hf.symm.trans he
    · obtain ⟨hpasses, steps, mutations, hderived, -, rfl⟩ := evaluate_ok.mp hok
      obtain ⟨u, hu, hfact⟩ := Checks.exists_of_forall₂ (Checks.gather_ok.mp hderived.mutations) hf
      obtain ⟨hgoalId, hproposed, g, root, source, hg, hroot, hsource, hclean⟩ := mutationFact_ok hfact
      rw [hproposed] at hproposes
      have hclean := hclean.mp hallow
      obtain ⟨hscope, hcovers, hholds⟩ := hclean.action action hproposes
      have hunexpired := (hcond ⟨q, rfl, hpasses⟩ u (mem_sortOn.mp hu) action hproposes).2 g root source hg hroot hsource
      refine ⟨g, hgoalId ▸ hg, ?_, hclean.continues, hcovers, hscope.1, ⟨root, hroot, hscope.2⟩, hholds⟩
      exact not_le.mp fun hexpired => hunexpired hexpired hclean

end

namespace Sample

/-- What the user asks for. -/
def ask : InstructionRecord :=
  ⟨"ask", some "goal", .userGoal, .objective, .userAuthorized, 10, "acme", none, "pat", hex 'a', hex 'a', none, none, none, ["search"], false, none, 5,
    "owner", ""⟩

def goal (expires : Int) : AgentGoal := ⟨"goal", "ask", "pat", "acme", none, none, ["search"], 3, 5, expires, "owner", ""⟩

def search : PlanStep := ⟨"search", "goal", 1, "bot", "search", ["ask"], ["read"], [], false, none, 6, "owner", ""⟩

/-- A mutation that proposes one more search. -/
def again : PlanMutation := ⟨"again", "goal", "bot", none, .append, "ask", some "search", [], 7, "owner", ""⟩

/-- One goal, a step that searches, and a mutation that proposes to search again. -/
def proposed (expires : Int) : GoalPlanManifest := manifestOf [ask] [goal expires] [search] [again]

def policy (expires : Int) : GoalPlanPolicy := policyFor (proposed expires) [("search", ["inv"])] [] []

def proposedText (expires : Int) : Json := (proposed expires).canonical (runtime .null).toRuntime

/-- The invariant that a search requires is not in the evidence. -/
theorem missing_raised : (evaluate (runtime (proposedText 1000)) (policy 1000) (requestFor (proposed 1000) 20) (proposed 1000) delegations memory
    (architecture "other")).map (fun _ => ()) = .error (.key "inv") := by decide +kernel

/-- What a caller declares once the goal has expired: its step is denied. -/
def late : GoalPlanRequest :=
  { requestFor (proposed 40) 60 with
    declaredDeniedStepIds := ["search"]
    declaredUnsafeGoalIds := ["goal"]
    declaredMaxIntegrityRiskScore := 60 }

/-- The goal has expired, and the mutation is allowed. -/
theorem expired_allowed : ((evaluate (runtime (proposedText 40)) (policy 40) late (proposed 40) delegations memory
    (architecture "inv")).toOption.map fun a => a.mutations.map fun f => (f.decision, f.goalId, f.proposedActionClass)) =
      some [(.allow, "goal", some "search")] := by decide +kernel

/-- An action's invariant is missing from the evidence, and a KeyError gets out. Or the goal has expired, and a mutation
that proposes an action for it is allowed. -/
theorem mutations_astray :
    ¬ (∀ q, q.evaluatedAtEpoch = 20 → MutationsBounded (runtime (proposedText 1000)) (policy 1000) q (proposed 1000) delegations memory
      (architecture "other")) ∧
    ¬ ∀ q, q.evaluatedAtEpoch = 60 → MutationsBounded (runtime (proposedText 40)) (policy 40) q (proposed 40) delegations memory
      (architecture "inv") := by
  constructor
  · intro hbounded
    obtain ⟨hraises, -⟩ := hbounded (requestFor (proposed 1000) 20) rfl
    cases hraises _ (Checks.error_of_map missing_raised)
  · intro hbounded
    obtain ⟨a, ha, hshown⟩ := Checks.ok_of_map expired_allowed
    obtain ⟨f, hmutations, hf⟩ := List.map_eq_singleton_iff.mp hshown
    obtain ⟨hallow, hgoal, hproposes⟩ := Prod.mk.inj hf |>.imp_right Prod.mk.inj
    obtain ⟨g, hg, hwithin⟩ := (hbounded late rfl).2 a ha f (hmutations ▸ List.mem_cons_self) hallow _ hproposes
    rw [hgoal] at hg
    obtain rfl := Option.some.inj hg
    exact absurd hwithin.unexpired (by decide)

end Sample

end Aegis.Agentic.GoalPlan
