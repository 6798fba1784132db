/-
  Aegis.Agentic.ObservationUpstreams — the assessments of the other analyzers do not pass as
  upstream evidence of tool observations.

  `_upstream` reads three attributes that no assessment has: `exact_agent_delegation_graph_binding_verified`,
  `caller_declared_goal_plan_safety_trusted` and `exact_architecture_binding_verified`. Their
  defaults are those of unverified evidence. `derive` reads `unsafe_invariant_ids`, which is not
  there either.

  - `upstreams_never_compose`: whatever the assessments, each is rejected, nothing is derived, and
    no invariant counts as unsafe.
-/

import Aegis.Agentic.PlanMutations
import Aegis.Agentic.ObservationIntegrity
import Aegis.Agentic.Attenuation
import Aegis.Architecture.HoldsMeansSafe

namespace Aegis

open Data

namespace Agentic.Delegation

def DelegationDecision.value : DelegationDecision → String
  | allow => "allow"
  | deny => "deny"

def DelegationSecurityFact.toJson (f : DelegationSecurityFact) : Json :=
  .obj [("delegation_id", .str f.delegationId), ("parent_delegation_id", optText f.parentDelegationId),
    ("original_principal_id", .str f.originalPrincipalId), ("delegator_agent_id", .str f.delegatorAgentId),
    ("delegatee_agent_id", .str f.delegateeAgentId), ("task_class", .str f.taskClass), ("tenant_id", .str f.tenantId),
    ("decision", Decision.member f.decision.value), ("p7i_invariant_ids", texts f.p7iInvariantIds)]

/-- The attributes of `VerifiedAgentDelegationAssessment` that other analyzers read, the flags among them at their defaults. -/
def evidence (m : AgentDelegationManifest) (delegations : List DelegationSecurityFact) (assessmentEvidenceSha256 : String) : Json :=
  .obj [("graph_id", .str m.graphId), ("graph_version", .str m.version),
    ("delegations", .arr (delegations.map DelegationSecurityFact.toJson)), ("assessment_evidence_sha256", .str assessmentEvidenceSha256),
    ("exact_delegation_graph_binding_verified", .bool true), ("exact_p7b_assessment_binding_verified", .bool true),
    ("exact_p7h_assessment_binding_verified", .bool true), ("exact_p7i_assessment_binding_verified", .bool true),
    ("agent_identity_continuity_verified", .bool true), ("tenant_continuity_verified", .bool true),
    ("authority_non_amplification_verified", .bool true), ("capability_laundering_detection_enabled", .bool true),
    ("confused_deputy_detection_enabled", .bool true), ("caller_declared_delegation_authorization_trusted", .bool false)]

end Agentic.Delegation

namespace Architecture.InvariantBlastRadius

/-- The attributes of an assessment that other analyzers read, the flags among them at their defaults. -/
def VerifiedInvariantBlastRadiusAssessment.evidence (a : VerifiedInvariantBlastRadiusAssessment) : Json :=
  .obj [("catalog_id", .str a.catalogId), ("catalog_version", .str a.catalogVersion), ("catalog_sha256", .str a.catalogSha256),
    ("invariants", .arr (a.invariants.map factDocument)), ("assessment_evidence_sha256", .str a.assessmentEvidenceSha256),
    ("exact_catalog_binding_verified", .bool true), ("invariant_definitions_policy_pinned", .bool true),
    ("cross_layer_binding_coverage_verified", .bool true), ("blast_radius_derived_from_evidence", .bool true),
    ("counterevidence_preserved", .bool true), ("caller_declared_architecture_safety_trusted", .bool false)]

end Architecture.InvariantBlastRadius

namespace Agentic.ObservationIntegrity

open Evidence Checked Decision
open Delegation (AgentDelegationManifest DelegationSecurityFact)
open GoalPlan (VerifiedGoalPlanIntegrityAssessment)
open Architecture.InvariantBlastRadius (VerifiedInvariantBlastRadiusAssessment)

/-- The evidence is accepted, and an observation's invariants are unsafe where one is not in state `holds`. -/
structure Composes (rt : ObservationRuntime) (p : ToolObservationPolicy) (m : ToolObservationManifest) (now : Int) (p8a p8c : Json)
    (p7i : VerifiedInvariantBlastRadiusAssessment) : Prop where
  accepted : validateUpstreams rt.toRuntime p m p8a p8c p7i.evidence = .ok ()
  unsafe_iff : ∀ o ∈ m.observations, ∀ j, join m o = .ok j →
    (.requiredInvariantUnsafe ∈ (factOf rt p m (upstreamsOf rt.toRuntime p8a p8c p7i.evidence) now j).risks ↔
      ∃ k ∈ j.contract.requiredP7iInvariantIds, ∀ f ∈ p7i.invariants, f.invariantId = k → f.state ≠ .holds)

theorem upstream_unverified {rt : Runtime} {value : Json} {pin manifestPin verifiedFlag callerFlag : String}
    (h : truthy (getattr value verifiedFlag (.bool false)) = false ∨ truthy (getattr value callerFlag (.bool true)) = true) :
    validateUpstream rt value pin manifestPin verifiedFlag callerFlag = .error (.rejected .upstreamInvalid "unverified upstream evidence" none) := by
  unfold validateUpstream rejectIf
  rw [if_pos]
  exact h.elim (fun h => .inr (.inr (.inl h))) fun h => .inr (.inr (.inr h))

section
variable (rt : ObservationRuntime) (p : ToolObservationPolicy) (m : ToolObservationManifest)

/-- Whatever the other analyzers return, each of the assessments is rejected, nothing is derived, and no invariant
    counts as unsafe. -/
theorem upstreams_never_compose (now : Int) (d : AgentDelegationManifest) (delegations : List DelegationSecurityFact) (sha : String)
    (c : VerifiedGoalPlanIntegrityAssessment) (i : VerifiedInvariantBlastRadiusAssessment) :
    (∀ pin manifestPin, validateUpstream rt.toRuntime (Delegation.evidence d delegations sha) pin manifestPin
        "exact_agent_delegation_graph_binding_verified" "caller_declared_delegation_authorization_trusted" ≠ .ok ()) ∧
      (∀ pin manifestPin, validateUpstream rt.toRuntime c.evidence pin manifestPin
        "exact_goal_plan_graph_binding_verified" "caller_declared_goal_plan_safety_trusted" ≠ .ok ()) ∧
      (∀ pin manifestPin, validateUpstream rt.toRuntime i.evidence pin manifestPin
        "exact_architecture_binding_verified" "caller_declared_architecture_safety_trusted" ≠ .ok ()) ∧
      (∀ j, ObservationRisk.requiredInvariantUnsafe ∉
        upstreamRisks rt.toRuntime (upstreamsOf rt.toRuntime (Delegation.evidence d delegations sha) c.evidence i.evidence) j) ∧
      (∀ facts, derive rt p m (Delegation.evidence d delegations sha) c.evidence i.evidence now ≠ .ok facts) ∧
      ¬ Composes rt p m now (Delegation.evidence d delegations sha) c.evidence i := by
  have hdelegations : ∀ pin manifestPin, validateUpstream rt.toRuntime (Delegation.evidence d delegations sha) pin manifestPin
      "exact_agent_delegation_graph_binding_verified" "caller_declared_delegation_authorization_trusted" ≠ .ok () := by
    intro pin manifestPin hok
    cases (upstream_unverified (.inl rfl)).symm.trans hok
  have hrefused : validateUpstreams rt.toRuntime p m (Delegation.evidence d delegations sha) c.evidence i.evidence ≠ .ok () := by
    intro hok
    simp only [validateUpstreams, bind_ok] at hok
    obtain ⟨_, hok, -⟩ := hok
    exact hdelegations _ _ hok
  refine ⟨hdelegations, fun pin manifestPin hok => ?_, fun pin manifestPin hok => ?_, fun j hj => ?_, fun facts hok => ?_, fun h => hrefused h.accepted⟩
  · cases (upstream_unverified (.inr rfl)).symm.trans hok
  · cases (upstream_unverified (.inl rfl)).symm.trans hok
  · have hnone : (upstreamsOf rt.toRuntime (Delegation.evidence d delegations sha) c.evidence i.evidence).unsafeInvariantIds = [] := rfl
    unfold upstreamRisks at hj
    rw [hnone] at hj
    simp [flag] at hj
  · simp only [derive, bind_ok] at hok
    obtain ⟨_, -, _, hok, -⟩ := hok
    exact hrefused hok

end

namespace Upstreams.Sample

/-- A runtime for texts in small letters, whose digests are all alike. -/
def runtime : ObservationRuntime := { Runtime.folded (hex '0') hex_not_blank with textSha256 := id }

def plans : GoalPlan.GoalPlanRuntime := { Runtime.folded (hex '0') hex_not_blank with textSha256 := id }

def delegated : Delegation.Check (List DelegationSecurityFact) :=
  Delegation.evaluate runtime.toRuntime 1000 { Delegation.Sample.policy with expectedGraphSha256 := hex '0' }
    { Delegation.Sample.request with graphSha256 := hex '0' } Delegation.Sample.manifest
    (Delegation.Sample.upstream '2' ["exact_identity_graph_binding_verified", "privilege_amplification_derived_from_evidence"] "paths" "path_id")
    (Delegation.Sample.upstream '3' ["exact_control_plane_binding_verified", "path_risk_derived_from_evidence",
      "separation_of_duties_enforced"] "routes" "route_id")
    (Delegation.Sample.upstream '4' ["exact_catalog_binding_verified", "blast_radius_derived_from_evidence", "counterevidence_preserved"]
      "invariants" "invariant_id")

def planned : GoalPlan.Check VerifiedGoalPlanIntegrityAssessment :=
  GoalPlan.evaluate plans (GoalPlan.Sample.policy 1000) (GoalPlan.Sample.requestFor (GoalPlan.Sample.proposed 1000) 20)
    (GoalPlan.Sample.proposed 1000) GoalPlan.Sample.delegations GoalPlan.Sample.memory (GoalPlan.Sample.architecture "inv")

def assessed : Architecture.InvariantBlastRadius.Gate VerifiedInvariantBlastRadiusAssessment :=
  Architecture.InvariantBlastRadius.evaluate runtime.toRuntime (Architecture.InvariantBlastRadius.Sample.policy "AC-1" "AC-1")
    (Architecture.InvariantBlastRadius.Sample.request ["INV"] 1 75) (Architecture.InvariantBlastRadius.Sample.catalog "AC-1" "AC-1")
    Architecture.InvariantBlastRadius.Sample.evidence

/-- No observations, and the assessments pinned by their digests. -/
def manifest : ToolObservationManifest :=
  ⟨"graph", "1", hex '0', hex '0', hex '0', 10, [], [], [], [], [], toolSchemaVersion⟩

def policy : ToolObservationPolicy where
  expectedGraphId := "graph"
  expectedGraphVersion := "1"
  expectedGraphSha256 := hex '0'
  expectedP8aAssessmentEvidenceSha256 := hex '0'
  expectedP8cAssessmentEvidenceSha256 := hex '0'
  expectedP7iAssessmentEvidenceSha256 := hex '0'
  requiredContractIds := []
  requiredSnapshotIds := []
  requiredInvocationIds := []
  requiredResultIds := []
  requiredObservationIds := []
  trustedOwnerIds := ["owner"]
  expectedContractTenantScope := []
  expectedContractEffect := []
  expectedContractAuthoritative := []
  expectedContractMaxAge := []
  expectedContractRequiresAck := []
  expectedContractInvariantIds := []
  expectedSnapshotTenant := []
  expectedSnapshotStateVersion := []
  expectedSnapshotStateSha256 := []
  allowedAttestationSha256 := []
  maxManifestAgeSeconds := 100
  maxFutureSkewSeconds := 0

/-- The three analyzers return, the observations are pinned to what they return, and it is refused. -/
theorem returned_refused : ∃ delegations c i, delegated = .ok delegations ∧ planned = .ok c ∧ assessed = .ok i ∧
    validatePolicy runtime.toRuntime policy = .ok () ∧ validateManifest runtime.toRuntime policy manifest 20 = .ok () ∧
    (Delegation.evidence Delegation.Sample.manifest delegations (hex '0')).get? "assessment_evidence_sha256" =
      some (.str policy.expectedP8aAssessmentEvidenceSha256) ∧
    c.assessmentEvidenceSha256 = policy.expectedP8cAssessmentEvidenceSha256 ∧
    i.assessmentEvidenceSha256 = policy.expectedP7iAssessmentEvidenceSha256 ∧
    ¬ Composes runtime policy manifest 20 (Delegation.evidence Delegation.Sample.manifest delegations (hex '0')) c.evidence i := by
  obtain ⟨delegations, hdelegations, -⟩ := Checks.ok_of_map (show (delegated.toOption.map fun _ => ()) = some () by decide +kernel)
  obtain ⟨c, hc, hcdigest⟩ := Checks.ok_of_map
    (show (planned.toOption.map (·.assessmentEvidenceSha256)) = some (hex '0') by decide +kernel)
  obtain ⟨i, hi, hidigest⟩ := Checks.ok_of_map
    (show (assessed.toOption.map (·.assessmentEvidenceSha256)) = some (hex '0') by decide +kernel)
  refine ⟨delegations, c, i, hdelegations, hc, hi, by decide +kernel, by decide +kernel, rfl, hcdigest, hidigest, fun h => ?_⟩
  have haccepted := h.accepted
  simp only [validateUpstreams, bind_ok] at haccepted
  obtain ⟨_, hok, -⟩ := haccepted
  cases (upstream_unverified (.inl rfl)).symm.trans hok

end Upstreams.Sample

end Agentic.ObservationIntegrity

end Aegis
