/-
  Aegis.Agentic.HumanApproval — `HumanHandoffAutonomySecurityAnalyzer` (human_approval_security.py):
  pending actions, the rule of an action's class, and the approvals recorded for an action.

  An approval is held against its action on its own (`approvalRisks`); the outcome of an action is
  then a matter of how many approvals carry no risk, and of what else the action carries.
-/

import Aegis.Agentic.Decision
import Aegis.Data.Groups

namespace Aegis.Agentic.HumanApproval

open Data Evidence Checked Decision

def approvalSchemaVersion : String := "aegis-human-approval-manifest-v1"

inductive AutonomyLevel where
  | supervised | bounded | conditional | unsupervised
  deriving DecidableEq, Repr

def AutonomyLevel.value : AutonomyLevel → String
  | supervised => "supervised"
  | bounded => "bounded"
  | conditional => "conditional"
  | unsupervised => "unsupervised"

/-- `_AUTONOMY_ORDER`. -/
def AutonomyLevel.order : AutonomyLevel → Nat
  | supervised => 0
  | bounded => 1
  | conditional => 2
  | unsupervised => 3

inductive ActionRisk where
  | low | sensitive | high | irreversible
  deriving DecidableEq, Repr

def ActionRisk.value : ActionRisk → String
  | low => "low"
  | sensitive => "sensitive"
  | high => "high"
  | irreversible => "irreversible"

inductive ApprovalDecision where
  | approve | reject | edit
  deriving DecidableEq, Repr

def ApprovalDecision.value : ApprovalDecision → String
  | approve => "approve"
  | reject => "reject"
  | edit => "edit"

inductive ApprovalOutcome where
  | allow | deny | pause
  deriving DecidableEq, Repr

inductive ApprovalRisk where
  | requiredApprovalMissing | approvalRejected | approvalExpired | approvalFuture | approverUnauthorized | selfApproval
  | actionBindingMismatch | planBindingMismatch | approvalReplay | editNotAllowed | editBindingMismatch
  | insufficientApproverCount | approverSeparationViolation | autonomyLevelExceeded | humanStopBypass | upstreamPlanUnsafe
  | upstreamObservationUnsafe | upstreamBudgetUnsafe | tenantMismatch | principalMismatch | goalStepMismatch
  deriving DecidableEq, Repr

namespace ApprovalRisk

def value : ApprovalRisk → String
  | requiredApprovalMissing => "required_approval_missing"
  | approvalRejected => "approval_rejected"
  | approvalExpired => "approval_expired"
  | approvalFuture => "approval_future"
  | approverUnauthorized => "approver_unauthorized"
  | selfApproval => "self_approval"
  | actionBindingMismatch => "action_binding_mismatch"
  | planBindingMismatch => "plan_binding_mismatch"
  | approvalReplay => "approval_replay"
  | editNotAllowed => "edit_not_allowed"
  | editBindingMismatch => "edit_binding_mismatch"
  | insufficientApproverCount => "insufficient_approver_count"
  | approverSeparationViolation => "approver_separation_violation"
  | autonomyLevelExceeded => "autonomy_level_exceeded"
  | humanStopBypass => "human_stop_bypass"
  | upstreamPlanUnsafe => "upstream_plan_unsafe"
  | upstreamObservationUnsafe => "upstream_observation_unsafe"
  | upstreamBudgetUnsafe => "upstream_budget_unsafe"
  | tenantMismatch => "tenant_mismatch"
  | principalMismatch => "principal_mismatch"
  | goalStepMismatch => "goal_step_mismatch"

/-- `_RISK_SCORE`. -/
def score : ApprovalRisk → Nat
  | requiredApprovalMissing => 85
  | approvalRejected => 80
  | approvalExpired => 88
  | approvalFuture => 92
  | approverUnauthorized => 95
  | selfApproval => 110
  | actionBindingMismatch => 105
  | planBindingMismatch => 108
  | approvalReplay => 112
  | editNotAllowed => 100
  | editBindingMismatch => 102
  | insufficientApproverCount => 98
  | approverSeparationViolation => 106
  | autonomyLevelExceeded => 104
  | humanStopBypass => 114
  | upstreamPlanUnsafe => 96
  | upstreamObservationUnsafe => 97
  | upstreamBudgetUnsafe => 99
  | tenantMismatch => 101
  | principalMismatch => 101
  | goalStepMismatch => 103

end ApprovalRisk

/-- The reasons `derive` raises. -/
inductive ApprovalRejectReason where
  | policyInvalid | upstreamInvalid | manifestInvalid | coverageMismatch | ownerUntrusted | policyDrift | referenceInvalid
  deriving DecidableEq, Repr

abbrev Check := Checked ApprovalRejectReason

/-! ## The manifest and the policy -/

structure HumanApprovalRule where
  ruleId : String
  actionClass : String
  risk : ActionRisk
  maximumAutonomy : AutonomyLevel
  requiresHuman : Bool
  requiredReviewerRoles : List String
  minimumApproverCount : Int
  requiresIndependentApprovers : Bool
  allowEdit : Bool
  maxApprovalAgeSeconds : Int
  description : String
  deriving DecidableEq, Repr

structure PendingHumanAction where
  actionId : String
  runId : String
  goalId : String
  stepId : String
  delegationId : Option String
  originalPrincipalId : String
  tenantId : String
  actorAgentId : String
  actionClass : String
  argsSha256 : String
  planSha256 : String
  requestedAutonomy : AutonomyLevel
  requesterIdentityId : String
  irreversible : Bool
  createdAtEpoch : Int
  ownerId : String
  description : String
  deriving DecidableEq, Repr

structure HumanApprovalRecord where
  approvalId : String
  actionId : String
  reviewerIdentityId : String
  reviewerRole : String
  reviewerGroupId : String
  decision : ApprovalDecision
  boundArgsSha256 : String
  boundPlanSha256 : String
  editedArgsSha256 : Option String
  approvalNonce : String
  issuedAtEpoch : Int
  expiresAtEpoch : Int
  ownerId : String
  description : String
  deriving DecidableEq, Repr

structure HumanApprovalManifest where
  graphId : String
  version : String
  p8cAssessmentEvidenceSha256 : String
  p8dAssessmentEvidenceSha256 : String
  p8eAssessmentEvidenceSha256 : String
  createdAtEpoch : Int
  rules : List HumanApprovalRule
  actions : List PendingHumanAction
  approvals : List HumanApprovalRecord
  schemaVersion : String
  deriving DecidableEq, Repr

/-- `_rule_profile`. -/
structure RuleProfile where
  actionClass : String
  risk : ActionRisk
  maximumAutonomy : AutonomyLevel
  requiresHuman : Bool
  requiredReviewerRoles : List String
  minimumApproverCount : Int
  requiresIndependentApprovers : Bool
  allowEdit : Bool
  maxApprovalAgeSeconds : Int
  deriving DecidableEq, Repr

/-- `_action_binding`. -/
structure ActionBinding where
  runId : String
  goalId : String
  stepId : String
  delegationId : Option String
  originalPrincipalId : String
  tenantId : String
  actorAgentId : String
  actionClass : String
  requestedAutonomy : AutonomyLevel
  requesterIdentityId : String
  irreversible : Bool
  deriving DecidableEq, Repr

structure HumanApprovalPolicy where
  expectedGraphId : String
  expectedGraphVersion : String
  expectedGraphSha256 : String
  expectedP8cAssessmentEvidenceSha256 : String
  expectedP8dAssessmentEvidenceSha256 : String
  expectedP8eAssessmentEvidenceSha256 : String
  requiredRuleIds : List String
  requiredActionIds : List String
  requiredApprovalIds : List String
  trustedOwnerIds : List String
  reviewerRolesByIdentity : List (String × List String)
  reviewerGroupByIdentity : List (String × String)
  expectedRuleProfiles : List (String × RuleProfile)
  expectedActionBindings : List (String × ActionBinding)
  maxManifestAgeSeconds : Int
  maxFutureSkewSeconds : Int

structure HumanApprovalFact where
  actionId : String
  actionClass : String
  outcome : ApprovalOutcome
  risks : List ApprovalRisk
  approvalIds : List String
  validApprovalIds : List String
  reviewerIdentityIds : List String
  requestedAutonomy : AutonomyLevel
  maximumAutonomy : AutonomyLevel
  humanReviewRequired : Bool
  riskScore : Nat
  deriving DecidableEq, Repr

def HumanApprovalRule.profile (r : HumanApprovalRule) : RuleProfile where
  actionClass := r.actionClass
  risk := r.risk
  maximumAutonomy := r.maximumAutonomy
  requiresHuman := r.requiresHuman
  requiredReviewerRoles := r.requiredReviewerRoles
  minimumApproverCount := r.minimumApproverCount
  requiresIndependentApprovers := r.requiresIndependentApprovers
  allowEdit := r.allowEdit
  maxApprovalAgeSeconds := r.maxApprovalAgeSeconds

def PendingHumanAction.binding (a : PendingHumanAction) : ActionBinding where
  runId := a.runId
  goalId := a.goalId
  stepId := a.stepId
  delegationId := a.delegationId
  originalPrincipalId := a.originalPrincipalId
  tenantId := a.tenantId
  actorAgentId := a.actorAgentId
  actionClass := a.actionClass
  requestedAutonomy := a.requestedAutonomy
  requesterIdentityId := a.requesterIdentityId
  irreversible := a.irreversible

variable (rt : Runtime)

/-! ## Digests -/

def HumanApprovalRule.fields (text : String → Json) (texts : List String → Json) (r : HumanApprovalRule) : List (String × Json) :=
  [("rule_id", text r.ruleId), ("action_class", text r.actionClass), ("risk", text r.risk.value),
    ("maximum_autonomy", text r.maximumAutonomy.value), ("requires_human", .bool r.requiresHuman),
    ("required_reviewer_roles", texts r.requiredReviewerRoles), ("minimum_approver_count", .int r.minimumApproverCount),
    ("requires_independent_approvers", .bool r.requiresIndependentApprovers), ("allow_edit", .bool r.allowEdit),
    ("max_approval_age_seconds", .int r.maxApprovalAgeSeconds), ("description", text r.description)]

def PendingHumanAction.fields (text : String → Json) (_ : List String → Json) (a : PendingHumanAction) : List (String × Json) :=
  [("action_id", text a.actionId), ("run_id", text a.runId), ("goal_id", text a.goalId), ("step_id", text a.stepId),
    ("delegation_id", Json.opt text a.delegationId), ("original_principal_id", text a.originalPrincipalId),
    ("tenant_id", text a.tenantId), ("actor_agent_id", text a.actorAgentId), ("action_class", text a.actionClass),
    ("args_sha256", text a.argsSha256), ("plan_sha256", text a.planSha256),
    ("requested_autonomy", text a.requestedAutonomy.value), ("requester_identity_id", text a.requesterIdentityId),
    ("irreversible", .bool a.irreversible), ("created_at_epoch", .int a.createdAtEpoch), ("owner_id", text a.ownerId),
    ("description", text a.description)]

def HumanApprovalRecord.fields (text : String → Json) (_ : List String → Json) (a : HumanApprovalRecord) : List (String × Json) :=
  [("approval_id", text a.approvalId), ("action_id", text a.actionId), ("reviewer_identity_id", text a.reviewerIdentityId),
    ("reviewer_role", text a.reviewerRole), ("reviewer_group_id", text a.reviewerGroupId), ("decision", text a.decision.value),
    ("bound_args_sha256", text a.boundArgsSha256), ("bound_plan_sha256", text a.boundPlanSha256),
    ("edited_args_sha256", Json.opt text a.editedArgsSha256), ("approval_nonce", text a.approvalNonce),
    ("issued_at_epoch", .int a.issuedAtEpoch), ("expires_at_epoch", .int a.expiresAtEpoch), ("owner_id", text a.ownerId),
    ("description", text a.description)]

/-- `_norm` of a text. -/
def normText (s : String) : Json := .str (Canonical.normText rt s)

/-- `canonical_human_approval_manifest_bytes`. -/
def HumanApprovalManifest.canonical (m : HumanApprovalManifest) : Json :=
  .obj [("actions", normTuple rt (fun text texts a => .obj (PendingHumanAction.fields text texts a)) m.actions),
    ("approvals", normTuple rt (fun text texts a => .obj (HumanApprovalRecord.fields text texts a)) m.approvals),
    ("created_at_epoch", .int m.createdAtEpoch), ("graph_id", normText rt m.graphId),
    ("p8c_assessment_evidence_sha256", normText rt m.p8cAssessmentEvidenceSha256),
    ("p8d_assessment_evidence_sha256", normText rt m.p8dAssessmentEvidenceSha256),
    ("p8e_assessment_evidence_sha256", normText rt m.p8eAssessmentEvidenceSha256),
    ("rules", normTuple rt (fun text texts r => .obj (HumanApprovalRule.fields text texts r)) m.rules),
    ("schema_version", normText rt m.schemaVersion), ("version", normText rt m.version)]

/-- `human_approval_manifest_digest`. -/
def HumanApprovalManifest.digest (m : HumanApprovalManifest) : String := rt.sha256 (m.canonical rt)

/-! ## Validation -/

/-- `_state`. -/
def stateOf (value : Json) : String := rt.casefold (text rt (enumValue (getattr value "decision" (getattr value "state" (.str "")))))

/-- `_safe_state`. -/
def SafeState (value : Json) : Prop := stateOf rt value ∈ ["allow", "allowed", "safe", "holds"]

instance decidableSafeState (value : Json) : Decidable (SafeState rt value) := inferInstanceAs (Decidable (_ ∈ _))

/-- `_validate_policy`. -/
def validatePolicy (p : HumanApprovalPolicy) : Check Unit := do
  rejectIf (p.expectedGraphId = "" ∨ p.expectedGraphVersion = "") .policyInvalid "graph identity missing" none
  rejectIf (¬ (sha rt p.expectedGraphSha256 ∧ sha rt p.expectedP8cAssessmentEvidenceSha256 ∧
    sha rt p.expectedP8dAssessmentEvidenceSha256 ∧ sha rt p.expectedP8eAssessmentEvidenceSha256)) .policyInvalid "invalid digest pin" none
  rejectIf (p.trustedOwnerIds = [] ∨ p.maxManifestAgeSeconds ≤ 0 ∨ p.maxFutureSkewSeconds < 0) .policyInvalid
    "invalid trust/freshness policy" none
  rejectIf (¬ sameSet (p.reviewerRolesByIdentity.map (·.1)) (p.reviewerGroupByIdentity.map (·.1))) .policyInvalid
    "reviewer maps differ" none

/-- `_validate_upstreams`. -/
def validateUpstreams (p : HumanApprovalPolicy) (m : HumanApprovalManifest) (p8c p8d p8e : Json) : Check Unit := do
  validateUpstream rt .upstreamInvalid p8c p.expectedP8cAssessmentEvidenceSha256 m.p8cAssessmentEvidenceSha256
    ["exact_goal_plan_graph_binding_verified"] "caller_declared_goal_safety_trusted"
  validateUpstream rt .upstreamInvalid p8d p.expectedP8dAssessmentEvidenceSha256 m.p8dAssessmentEvidenceSha256
    ["exact_tool_observation_graph_binding_verified"] "caller_declared_tool_observation_safety_trusted"
  validateUpstream rt .upstreamInvalid p8e p.expectedP8eAssessmentEvidenceSha256 m.p8eAssessmentEvidenceSha256
    ["exact_execution_budget_graph_binding_verified"] "caller_declared_resource_safety_trusted"

/-- `_map`. -/
def uniqueIds {α : Type} (id : α → String) (items : List α) : Check Unit :=
  keysFrom (fun seen key => rejectIf (key ∈ seen) .coverageMismatch "duplicate id" (some key)) id [] items

@[simp] theorem uniqueIds_ok {α : Type} {id : α → String} {items : List α} {u : Unit} :
    uniqueIds id items = .ok u ↔ (items.map id).Nodup := by
  unfold uniqueIds
  rw [keysFrom_ok (P := fun _ => True) (by simp)]
  simp

def validateRule (p : HumanApprovalPolicy) (r : HumanApprovalRule) : Check Unit := do
  rejectIf (Dict.mapping p.expectedRuleProfiles r.ruleId ≠ some r.profile) .policyDrift "rule drift" (some r.ruleId)
  rejectIf (r.minimumApproverCount < 0 ∨ r.maxApprovalAgeSeconds ≤ 0 ∨ r.requiredReviewerRoles = []) .policyInvalid "invalid rule"
    (some r.ruleId)

def validateAction (p : HumanApprovalPolicy) (m : HumanApprovalManifest) (a : PendingHumanAction) : Check Unit := do
  rejectIf (a.ownerId ∉ p.trustedOwnerIds) .ownerUntrusted "action owner" (some a.actionId)
  rejectIf (Dict.mapping p.expectedActionBindings a.actionId ≠ some a.binding ∨ ¬ sha rt a.argsSha256 ∨ ¬ sha rt a.planSha256)
    .policyDrift "action binding drift" (some a.actionId)
  rejectIf (¬ ∃ r ∈ m.rules, r.actionClass = a.actionClass) .referenceInvalid "no action rule" (some a.actionId)

def validateApproval (p : HumanApprovalPolicy) (m : HumanApprovalManifest) (a : HumanApprovalRecord) : Check Unit := do
  rejectIf (a.ownerId ∉ p.trustedOwnerIds) .ownerUntrusted "approval owner" (some a.approvalId)
  rejectIf (a.actionId ∉ m.actions.map (·.actionId) ∨ ¬ sha rt a.boundArgsSha256 ∨ ¬ sha rt a.boundPlanSha256) .referenceInvalid
    "approval reference invalid" (some a.approvalId)
  rejectIf (∃ edited ∈ a.editedArgsSha256, ¬ sha rt edited) .referenceInvalid "edited args digest invalid" (some a.approvalId)
  rejectIf (a.approvalNonce = "") .referenceInvalid "approval nonce empty" (some a.approvalId)

/-- `_validate_manifest`. -/
def validateManifest (p : HumanApprovalPolicy) (m : HumanApprovalManifest) (now : Int) : Check Unit := do
  rejectIf (m.schemaVersion ≠ approvalSchemaVersion ∨ m.graphId ≠ p.expectedGraphId ∨ m.version ≠ p.expectedGraphVersion)
    .manifestInvalid "manifest identity invalid" none
  rejectIf (m.digest rt ≠ rt.casefold p.expectedGraphSha256) .manifestInvalid "manifest digest mismatch" none
  rejectIf (now - m.createdAtEpoch > p.maxManifestAgeSeconds ∨ m.createdAtEpoch - now > p.maxFutureSkewSeconds) .manifestInvalid
    "manifest freshness invalid" none
  uniqueIds (·.ruleId) m.rules
  uniqueIds (·.actionId) m.actions
  uniqueIds (·.approvalId) m.approvals
  rejectIf (¬ sameSet (m.rules.map (·.ruleId)) p.requiredRuleIds ∨ ¬ sameSet (m.actions.map (·.actionId)) p.requiredActionIds ∨
    ¬ sameSet (m.approvals.map (·.approvalId)) p.requiredApprovalIds) .coverageMismatch "required coverage mismatch" none
  forEach (validateRule p) m.rules
  forEach (validateAction rt p m) m.actions
  forEach (validateApproval rt p m) m.approvals

/-! ## Approvals and outcomes -/

/-- `rule_by_action_class`: of the rules of a class the last one counts. -/
def ruleByActionClass (rules : List HumanApprovalRule) : Dict HumanApprovalRule := fun actionClass =>
  rules.reverse.find? fun r => r.actionClass = actionClass

/-- `approvals_by_action[action_id]`. -/
def approvalsOf (m : HumanApprovalManifest) (actionId : String) : List HumanApprovalRecord :=
  m.approvals.filter fun a => a.actionId = actionId

/-- `nonce_count[nonce]`. -/
def nonceCount (m : HumanApprovalManifest) (nonce : String) : Nat := (m.approvals.filter fun a => a.approvalNonce = nonce).length

/-- `local_risks`. -/
def approvalRisks (p : HumanApprovalPolicy) (m : HumanApprovalManifest) (now : Int) (r : HumanApprovalRule) (action : PendingHumanAction)
    (a : HumanApprovalRecord) : List ApprovalRisk :=
  let roles := (Dict.mapping p.reviewerRolesByIdentity a.reviewerIdentityId).getD []
  let group := Dict.mapping p.reviewerGroupByIdentity a.reviewerIdentityId
  flag (a.reviewerRole ∉ roles ∨ a.reviewerRole ∉ r.requiredReviewerRoles ∨ group ≠ some a.reviewerGroupId)
    ApprovalRisk.approverUnauthorized ++
  flag (a.reviewerIdentityId ∈ [action.requesterIdentityId, action.actorAgentId, action.originalPrincipalId])
    ApprovalRisk.selfApproval ++
  flag (rt.casefold a.boundArgsSha256 ≠ rt.casefold action.argsSha256) ApprovalRisk.actionBindingMismatch ++
  flag (rt.casefold a.boundPlanSha256 ≠ rt.casefold action.planSha256) ApprovalRisk.planBindingMismatch ++
  flag (a.issuedAtEpoch > now + p.maxFutureSkewSeconds) ApprovalRisk.approvalFuture ++
  flag (a.expiresAtEpoch < now ∨ now - a.issuedAtEpoch > r.maxApprovalAgeSeconds) ApprovalRisk.approvalExpired ++
  flag (a.expiresAtEpoch < a.issuedAtEpoch) ApprovalRisk.approvalExpired ++
  flag (nonceCount m a.approvalNonce > 1) ApprovalRisk.approvalReplay ++
  flag (a.decision = .reject) ApprovalRisk.approvalRejected ++ (if a.decision = .edit then
    flag (r.allowEdit = false) ApprovalRisk.editNotAllowed ++
    flag (∀ edited ∈ a.editedArgsSha256, rt.casefold edited = rt.casefold action.argsSha256) ApprovalRisk.editBindingMismatch
  else flag (a.editedArgsSha256 ≠ none) ApprovalRisk.editBindingMismatch)

/-- `valid`. -/
def validApprovals (p : HumanApprovalPolicy) (m : HumanApprovalManifest) (now : Int) (r : HumanApprovalRule) (action : PendingHumanAction) :
    List HumanApprovalRecord :=
  (approvalsOf m action.actionId).filter fun a =>
    approvalRisks rt p m now r action a = [] ∧ a.decision ∈ [ApprovalDecision.approve, .edit]

/-- The values of `p8d_observations`: of the observations of an identifier the last one. -/
def observations (p8d : Json) : List Json :=
  (elements (getattr p8d "observations" .nil)).filter fun o =>
    inventory rt p8d "observations" "observation_id" (text rt (getattr o "observation_id" (.str ""))) = some o

/-- `getattr(run, name, default)` of a run that may be None. -/
def runAttr (run : Option Json) (name default : String) : Json :=
  (run.map fun r => getattr r name (.str default)).getD (.str default)

/-- What an action carries by itself and from upstream. -/
def actionRisks (m : HumanApprovalManifest) (p8c p8d p8e : Json) (r : HumanApprovalRule) (action : PendingHumanAction) :
    List ApprovalRisk :=
  let step := inventory rt p8c "steps" "step_id" action.stepId
  let run := inventory rt p8e "runs" "run_id" action.runId
  flag (r.maximumAutonomy.order < action.requestedAutonomy.order) ApprovalRisk.autonomyLevelExceeded ++
  flag (r.requiresHuman = true ∧ approvalsOf m action.actionId = []) ApprovalRisk.requiredApprovalMissing ++
  flag (action.irreversible = true ∧ r.requiresHuman = false) ApprovalRisk.humanStopBypass ++
  flag (¬ ∃ s ∈ step, SafeState rt s) ApprovalRisk.upstreamPlanUnsafe ++
  flag (∃ s ∈ step, SafeState rt s ∧ text rt (getattr s "goal_id" (.str action.goalId)) ≠ action.goalId)
    ApprovalRisk.goalStepMismatch ++
  flag (¬ ∃ x ∈ run, SafeState rt x) ApprovalRisk.upstreamBudgetUnsafe ++
  flag (runAttr run "goal_id" action.goalId ≠ .str action.goalId) ApprovalRisk.goalStepMismatch ++
  flag (runAttr run "original_principal_id" action.originalPrincipalId ≠ .str action.originalPrincipalId)
    ApprovalRisk.principalMismatch ++
  flag (runAttr run "tenant_id" action.tenantId ≠ .str action.tenantId) ApprovalRisk.tenantMismatch ++
  flag (∃ o ∈ observations rt p8d, text rt (getattr o "step_id" (.str "")) = action.stepId ∧ ¬ SafeState rt o)
    ApprovalRisk.upstreamObservationUnsafe

/-- What the valid approvals of an action fall short of. -/
def countRisks (r : HumanApprovalRule) (valid : List HumanApprovalRecord) : List ApprovalRisk :=
  flag (r.requiresHuman = true ∧ (valid.length : Int) < r.minimumApproverCount) ApprovalRisk.insufficientApproverCount ++
  flag (r.requiresIndependentApprovers = true ∧ r.minimumApproverCount > 1 ∧ (valid.length : Int) ≥ r.minimumApproverCount ∧
    (((valid.map (·.reviewerGroupId)).dedup.length : Int) < r.minimumApproverCount ∨
      ((valid.map (·.reviewerIdentityId)).dedup.length : Int) < r.minimumApproverCount)) ApprovalRisk.approverSeparationViolation

/-- `risks`. -/
def risksOf (p : HumanApprovalPolicy) (m : HumanApprovalManifest) (p8c p8d p8e : Json) (now : Int) (r : HumanApprovalRule)
    (action : PendingHumanAction) : List ApprovalRisk :=
  actionRisks rt m p8c p8d p8e r action ++ (approvalsOf m action.actionId).flatMap (approvalRisks rt p m now r action) ++
    countRisks r (validApprovals rt p m now r action)

/-- `outcome`: what is only missing can still be supplied. -/
def outcomeOf (risks : List ApprovalRisk) : ApprovalOutcome :=
  if risks = [] then .allow
  else if ∀ risk ∈ risks, risk ∈ [ApprovalRisk.requiredApprovalMissing, .insufficientApproverCount] then .pause
  else .deny

def factOf (p : HumanApprovalPolicy) (m : HumanApprovalManifest) (p8c p8d p8e : Json) (now : Int) (action : PendingHumanAction) :
    Check HumanApprovalFact := do
  let r ← getItem (ruleByActionClass m.rules) action.actionClass
  let risks := sortedSet ApprovalRisk.value (risksOf rt p m p8c p8d p8e now r action)
  return {
    actionId := action.actionId
    actionClass := action.actionClass
    outcome := outcomeOf risks
    risks := risks
    approvalIds := sortOn id ((approvalsOf m action.actionId).map (·.approvalId))
    validApprovalIds := sortOn id ((validApprovals rt p m now r action).map (·.approvalId))
    reviewerIdentityIds := sortedSet id ((approvalsOf m action.actionId).map (·.reviewerIdentityId))
    requestedAutonomy := action.requestedAutonomy
    maximumAutonomy := r.maximumAutonomy
    humanReviewRequired := r.requiresHuman
    riskScore := maxScore ApprovalRisk.score risks }

structure HumanHandoffAutonomySecurityAnalyzer where
  policy : HumanApprovalPolicy

/-- `derive`. -/
def HumanHandoffAutonomySecurityAnalyzer.derive (analyzer : HumanHandoffAutonomySecurityAnalyzer) (m : HumanApprovalManifest)
    (p8c p8d p8e : Json) (now : Int) : Check (List HumanApprovalFact) := do
  validatePolicy rt analyzer.policy
  validateUpstreams rt analyzer.policy m p8c p8d p8e
  validateManifest rt analyzer.policy m now
  Checks.gather (factOf rt analyzer.policy m p8c p8d p8e now) (sortOn (·.actionId) m.actions)

end Aegis.Agentic.HumanApproval
