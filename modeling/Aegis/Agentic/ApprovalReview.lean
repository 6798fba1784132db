/-
  Aegis.Agentic.ApprovalReview — what an allowed action was approved by, and what its outcome hangs on.

  - `reviewed_of_risks`: an approval without risks is one by somebody else who holds a required
    role, of these arguments and this plan, in time and under a nonce of its own.
  - `approved_of_allow`: an allowed action whose rule asks for a human has no other approvals, and
    has enough of them; they are by as many people where the rule asks for independent approvers.
  - `facts_of_listed`: the facts do not depend on the order of rules, actions and approvals, as
    long as no two rules are for one class of actions.
  - `listed_of_canonical`: manifests with one canonical form list the same items, where the texts
    that look like digests are in small letters.
-/

import Aegis.Agentic.HumanApproval
import Aegis.Agentic.CanonicalForm

namespace Aegis.Agentic.HumanApproval

open Data Evidence Checked Decision

variable {rt : Runtime} {p : HumanApprovalPolicy} {m m' : HumanApprovalManifest} {p8c p8d p8e : Json} {now : Int}
  {a b : HumanApprovalRecord}

/-! ## Approvals -/

/-- An approval that counts: what a reviewer other than the people of the action says of this action. -/
structure Reviewed (rt : Runtime) (p : HumanApprovalPolicy) (m : HumanApprovalManifest) (now : Int) (r : HumanApprovalRule)
    (action : PendingHumanAction) (a : HumanApprovalRecord) : Prop where
  role : ∃ roles, Dict.mapping p.reviewerRolesByIdentity a.reviewerIdentityId = some roles ∧ a.reviewerRole ∈ roles
  required : a.reviewerRole ∈ r.requiredReviewerRoles
  group : Dict.mapping p.reviewerGroupByIdentity a.reviewerIdentityId = some a.reviewerGroupId
  other : a.reviewerIdentityId ∉ [action.requesterIdentityId, action.actorAgentId, action.originalPrincipalId]
  args : rt.casefold a.boundArgsSha256 = rt.casefold action.argsSha256
  plan : rt.casefold a.boundPlanSha256 = rt.casefold action.planSha256
  issued : a.issuedAtEpoch ≤ now + p.maxFutureSkewSeconds
  fresh : now - a.issuedAtEpoch ≤ r.maxApprovalAgeSeconds
  unexpired : now ≤ a.expiresAtEpoch
  ordered : a.issuedAtEpoch ≤ a.expiresAtEpoch
  nonce : ∀ b ∈ m.approvals, b.approvalNonce = a.approvalNonce → b = a
  decided : a.decision = .approve ∧ a.editedArgsSha256 = none ∨
    a.decision = .edit ∧ r.allowEdit = true ∧ ∃ edited ∈ a.editedArgsSha256, rt.casefold edited ≠ rt.casefold action.argsSha256

/-- The arguments an approval lets through. -/
def effectiveArgs (rt : Runtime) (action : PendingHumanAction) (a : HumanApprovalRecord) : String :=
  match a.decision with
  | .edit => rt.casefold (a.editedArgsSha256.getD action.argsSha256)
  | _ => rt.casefold action.argsSha256

theorem eq_of_nonceCount (h : ¬ nonceCount m a.approvalNonce > 1) (ha : a ∈ m.approvals)
    (hb : b ∈ m.approvals) (hn : b.approvalNonce = a.approvalNonce) : b = a := by
  have hina : a ∈ m.approvals.filter fun c => c.approvalNonce = a.approvalNonce := List.mem_filter.mpr ⟨ha, by simp⟩
  have hinb : b ∈ m.approvals.filter fun c => c.approvalNonce = a.approvalNonce := List.mem_filter.mpr ⟨hb, by simpa using hn⟩
  have hlength : (m.approvals.filter fun c => c.approvalNonce = a.approvalNonce).length = 1 := by
    have hpos := List.length_pos_of_mem hina
    unfold nonceCount at h
    omega
  obtain ⟨c, hc⟩ := List.length_eq_one_iff.mp hlength
  rw [hc, List.mem_singleton] at hina hinb
  rw [hina, hinb]

variable {r : HumanApprovalRule}

theorem reviewed_of_risks {action : PendingHumanAction}
    (h : approvalRisks rt p m now r action a = []) (ha : a ∈ m.approvals) : Reviewed rt p m now r action a := by
  simp only [approvalRisks, List.append_eq_nil_iff, flag_eq_nil, not_or, not_not, not_lt, gt_iff_lt, ne_eq] at h
  obtain ⟨⟨⟨⟨⟨⟨⟨⟨⟨⟨hrole, hrequired, hgroup⟩, hother⟩, hargs⟩, hplan⟩, hissued⟩, hunexpired, hfresh⟩, hordered⟩, hnonce⟩, hreject⟩,
    hdecided⟩ := h
  refine ⟨?_, hrequired, hgroup, hother, hargs, hplan, hissued, hfresh, hunexpired, hordered,
    fun b hb hn => eq_of_nonceCount (by simpa using hnonce) ha hb hn, ?_⟩
  · cases hroles : Dict.mapping p.reviewerRolesByIdentity a.reviewerIdentityId with
    | none => simp [hroles] at hrole
    | some roles => exact ⟨roles, rfl, by simpa [hroles] using hrole⟩
  · by_cases hedit : a.decision = .edit
    · rw [if_pos hedit, List.append_eq_nil_iff, flag_eq_nil, flag_eq_nil] at hdecided
      obtain ⟨hallow, hedited⟩ := hdecided
      push Not at hedited
      exact .inr ⟨hedit, by simpa using hallow, hedited⟩
    · rw [if_neg hedit, flag_eq_nil, not_not] at hdecided
      refine .inl ⟨?_, hdecided⟩
      cases hd : a.decision with
      | approve => rfl
      | reject => exact absurd hd hreject
      | edit => exact absurd hd hedit

theorem Reviewed.effective {action : PendingHumanAction} (h : Reviewed rt p m now r action a) (hedit : r.allowEdit = false) :
    a.decision = .approve ∧ effectiveArgs rt action a = rt.casefold action.argsSha256 := by
  rcases h.decided with ⟨happrove, -⟩ | ⟨-, hallow, -⟩
  · exact ⟨happrove, by rw [effectiveArgs, happrove]⟩
  · rw [hedit] at hallow
    cases hallow

/-! ## Allowed actions -/

/-- As many people as the rule asks for, at least one, let the same arguments through. -/
def ApprovedByPeople (rt : Runtime) (p : HumanApprovalPolicy) (m : HumanApprovalManifest) (now : Int) (r : HumanApprovalRule)
    (action : PendingHumanAction) : Prop :=
  ∃ approvals ⊆ approvalsOf m action.actionId, (approvals.map (·.reviewerIdentityId)).Nodup ∧
    max 1 r.minimumApproverCount ≤ approvals.length ∧ (∀ a ∈ approvals, Reviewed rt p m now r action a) ∧
    ∀ a ∈ approvals, ∀ b ∈ approvals, effectiveArgs rt action a = effectiveArgs rt action b

/-- Enough approvals and none that does not count; by as many people where the rule asks for independent approvers, or for
    no more than one; of the action's own arguments where the rule lets nobody edit them. -/
structure Approved (rt : Runtime) (p : HumanApprovalPolicy) (m : HumanApprovalManifest) (now : Int) (r : HumanApprovalRule)
    (action : PendingHumanAction) : Prop where
  reviewed : ∀ a ∈ approvalsOf m action.actionId, Reviewed rt p m now r action a
  distinct : ((approvalsOf m action.actionId).map (·.approvalId)).Nodup
  enough : max 1 r.minimumApproverCount ≤ (approvalsOf m action.actionId).length
  people : r.requiresIndependentApprovers = true ∨ r.minimumApproverCount ≤ 1 →
    ∃ approvals ⊆ approvalsOf m action.actionId, (approvals.map (·.reviewerIdentityId)).Nodup ∧
      max 1 r.minimumApproverCount ≤ approvals.length
  payload : r.allowEdit = false → ∀ a ∈ approvalsOf m action.actionId,
    a.decision = .approve ∧ effectiveArgs rt action a = rt.casefold action.argsSha256

theorem outcomeOf_allow {risks : List ApprovalRisk} : outcomeOf risks = .allow ↔ risks = [] := by
  unfold outcomeOf
  by_cases h : risks = []
  · simp [h]
  · rw [if_neg h]
    split <;> simp [h]

/-- One approval of each reviewer. -/
theorem exists_people (approvals : List HumanApprovalRecord) : ∃ people ⊆ approvals,
    (people.map (·.reviewerIdentityId)).Nodup ∧ people.length = (approvals.map (·.reviewerIdentityId)).dedup.length := by
  refine ⟨approvals.pwFilter fun a b => a.reviewerIdentityId ≠ b.reviewerIdentityId, List.pwFilter_subset _, ?_, ?_⟩
  · exact List.pairwise_map.mpr (List.pairwise_pwFilter _)
  · rw [List.dedup, List.pwFilter_map, List.length_map]

theorem approved_of_risks {action : PendingHumanAction} (hids : (m.approvals.map (·.approvalId)).Nodup)
    (h : risksOf rt p m p8c p8d p8e now r action = []) (hhuman : r.requiresHuman = true) : Approved rt p m now r action := by
  simp only [risksOf, List.append_eq_nil_iff, List.flatMap_eq_nil_iff] at h
  obtain ⟨⟨haction, hnone⟩, hcount⟩ := h
  have hmem : ∀ a ∈ approvalsOf m action.actionId, a ∈ m.approvals := fun a ha => (List.mem_filter.mp ha).1
  have hreviewed : ∀ a ∈ approvalsOf m action.actionId, Reviewed rt p m now r action a :=
    fun a ha => reviewed_of_risks (hnone a ha) (hmem a ha)
  have hvalid : validApprovals rt p m now r action = approvalsOf m action.actionId := by
    refine List.filter_eq_self.mpr fun a ha => decide_eq_true ⟨hnone a ha, ?_⟩
    rcases (hreviewed a ha).decided with ⟨hd, -⟩ | ⟨hd, -⟩
    · simp [hd]
    · simp [hd]
  have hsome : approvalsOf m action.actionId ≠ [] := by
    simp only [actionRisks, List.append_eq_nil_iff, flag_eq_nil] at haction
    exact fun he => haction.1.1.1.1.1.1.1.1.2 ⟨hhuman, he⟩
  have hpos := List.length_pos_of_ne_nil hsome
  rw [hvalid] at hcount
  simp only [countRisks, List.append_eq_nil_iff, flag_eq_nil, hhuman, true_and] at hcount
  obtain ⟨hfew, hseparate⟩ := hcount
  refine ⟨hreviewed, hids.sublist (List.filter_sublist.map _), by omega, fun hask => ?_, fun hedit a ha => (hreviewed a ha).effective hedit⟩
  obtain ⟨people, hsub, hnodup, hlength⟩ := exists_people (approvalsOf m action.actionId)
  refine ⟨people, hsub, hnodup, ?_⟩
  have hone : 0 < people.length := by
    rw [hlength]
    apply List.length_pos_of_ne_nil
    intro he
    rw [List.dedup_eq_nil, List.map_eq_nil_iff] at he
    exact hsome he
  by_cases hmin : r.minimumApproverCount ≤ 1
  · omega
  · have hindependent := hask.resolve_right hmin
    have hreviewers : ¬ ((((approvalsOf m action.actionId).map (·.reviewerIdentityId)).dedup.length : Int) < r.minimumApproverCount) :=
      fun hlt => hseparate ⟨hindependent, by omega, by omega, .inr hlt⟩
    omega

/-! ## The order of the tuples -/

theorem ApprovalRisk.value_injective : Function.Injective ApprovalRisk.value := by
  let all : List ApprovalRisk := [.requiredApprovalMissing, .approvalRejected, .approvalExpired, .approvalFuture, .approverUnauthorized,
    .selfApproval, .actionBindingMismatch, .planBindingMismatch, .approvalReplay, .editNotAllowed, .editBindingMismatch,
    .insufficientApproverCount, .approverSeparationViolation, .autonomyLevelExceeded, .humanStopBypass, .upstreamPlanUnsafe,
    .upstreamObservationUnsafe, .upstreamBudgetUnsafe, .tenantMismatch, .principalMismatch, .goalStepMismatch]
  have hall : ∀ risk, risk ∈ all := by
    intro risk
    cases risk <;> decide
  have hnodup : (all.map ApprovalRisk.value).Nodup := by decide
  intro a b h
  exact List.inj_on_of_nodup_map hnodup (hall a) (hall b) h

/-- The same rules, actions and approvals in another order. -/
structure Listed (m m' : HumanApprovalManifest) : Prop where
  rules : m.rules.Perm m'.rules
  actions : m.actions.Perm m'.actions
  approvals : m.approvals.Perm m'.approvals

section

variable (h : Listed m m')
include h

theorem Listed.approvalsOf (actionId : String) : (approvalsOf m actionId).Perm (approvalsOf m' actionId) :=
  h.approvals.filter _

theorem Listed.nonceCount (nonce : String) : nonceCount m nonce = nonceCount m' nonce :=
  (h.approvals.filter _).length_eq

theorem Listed.ruleByActionClass (hclasses : (m.rules.map (·.actionClass)).Nodup) :
    ruleByActionClass m.rules = ruleByActionClass m'.rules := by
  funext actionClass
  refine find?_perm ((List.reverse_perm _).trans (h.rules.trans (List.reverse_perm _).symm)) ?_ actionClass
  rw [List.map_reverse]
  exact (List.reverse_perm _).nodup_iff.mpr hclasses

theorem Listed.approvalRisks (r : HumanApprovalRule) (action : PendingHumanAction) :
    approvalRisks rt p m now r action = approvalRisks rt p m' now r action := by
  funext a
  simp only [HumanApproval.approvalRisks, h.nonceCount]

theorem Listed.validApprovals (r : HumanApprovalRule) (action : PendingHumanAction) :
    (validApprovals rt p m now r action).Perm (validApprovals rt p m' now r action) := by
  unfold HumanApproval.validApprovals
  rw [h.approvalRisks]
  exact (h.approvalsOf _).filter _

theorem Listed.actionRisks (r : HumanApprovalRule) (action : PendingHumanAction) :
    actionRisks rt m p8c p8d p8e r action = actionRisks rt m' p8c p8d p8e r action := by
  have hnil : HumanApproval.approvalsOf m action.actionId = [] ↔ HumanApproval.approvalsOf m' action.actionId = [] := by
    constructor
    · intro he
      exact List.perm_nil.mp (he ▸ (h.approvalsOf action.actionId).symm)
    · intro he
      exact List.perm_nil.mp (he ▸ h.approvalsOf action.actionId)
  simp only [HumanApproval.actionRisks, hnil]

end

theorem countRisks_perm {valid valid' : List HumanApprovalRecord} (h : valid.Perm valid') :
    countRisks r valid = countRisks r valid' := by
  have hgroups := (h.map (·.reviewerGroupId)).dedup.length_eq
  have hreviewers := (h.map (·.reviewerIdentityId)).dedup.length_eq
  simp only [countRisks, h.length_eq, hgroups, hreviewers]

theorem Listed.risksOf (h : Listed m m') (r : HumanApprovalRule) (action : PendingHumanAction) (risk : ApprovalRisk) :
    risk ∈ risksOf rt p m p8c p8d p8e now r action ↔ risk ∈ risksOf rt p m' p8c p8d p8e now r action := by
  simp only [HumanApproval.risksOf, List.mem_append, List.mem_flatMap, h.actionRisks, h.approvalRisks, (h.approvalsOf _).mem_iff,
    countRisks_perm (h.validApprovals r action)]

theorem Listed.factOf (h : Listed m m') (hclasses : (m.rules.map (·.actionClass)).Nodup) (action : PendingHumanAction) :
    factOf rt p m p8c p8d p8e now action = factOf rt p m' p8c p8d p8e now action := by
  have hrisks : ∀ r, sortedSet ApprovalRisk.value (HumanApproval.risksOf rt p m p8c p8d p8e now r action) =
      sortedSet ApprovalRisk.value (HumanApproval.risksOf rt p m' p8c p8d p8e now r action) := fun r =>
    sortedSet_congr _ (fun a _ b _ hab => ApprovalRisk.value_injective hab) (h.risksOf r action)
  have hids : ∀ {as bs : List HumanApprovalRecord}, as.Perm bs →
      sortOn id (as.map (·.approvalId)) = sortOn id (bs.map (·.approvalId)) := fun hperm =>
    sortOn_perm (hperm.map _) fun a _ b _ hab => hab
  have hreviewers : sortedSet id ((HumanApproval.approvalsOf m action.actionId).map (·.reviewerIdentityId)) =
      sortedSet id ((HumanApproval.approvalsOf m' action.actionId).map (·.reviewerIdentityId)) :=
    sortedSet_congr _ (fun a _ b _ hab => hab) fun a => ((h.approvalsOf _).map _).mem_iff
  unfold HumanApproval.factOf
  rw [h.ruleByActionClass hclasses]
  simp only [hrisks, hids (h.approvalsOf _), hids (h.validApprovals _ action), hreviewers]

/-- `derive` raises or returns a fact for each action, in the order of their identifiers. -/
theorem derive_ok {analyzer : HumanHandoffAutonomySecurityAnalyzer} {facts : List HumanApprovalFact}
    (h : analyzer.derive rt m p8c p8d p8e now = .ok facts) : validateManifest rt analyzer.policy m now = .ok () ∧
      List.Forall₂ (fun action fact => factOf rt analyzer.policy m p8c p8d p8e now action = .ok fact) (sortOn (·.actionId) m.actions) facts := by
  simp only [HumanHandoffAutonomySecurityAnalyzer.derive, bind_ok] at h
  obtain ⟨_, -, _, -, _, hmanifest, hfacts⟩ := h
  exact ⟨hmanifest, Checks.gather_ok.mp hfacts⟩

theorem validateManifest_unique (h : validateManifest rt p m now = .ok ()) : (m.rules.map (·.ruleId)).Nodup ∧
    (m.actions.map (·.actionId)).Nodup ∧ (m.approvals.map (·.approvalId)).Nodup ∧ ∀ r ∈ m.rules, validateRule p r = .ok () := by
  simp only [validateManifest, bind_ok, rejectIf_ok, uniqueIds_ok, forEach_ok, exists_const] at h
  obtain ⟨-, -, -, hrules, hactions, happrovals, -, hrule, -⟩ := h
  exact ⟨hrules, hactions, happrovals, hrule⟩

theorem facts_of_listed {analyzer : HumanHandoffAutonomySecurityAnalyzer} {facts facts' : List HumanApprovalFact}
    (h : analyzer.derive rt m p8c p8d p8e now = .ok facts) (h' : analyzer.derive rt m' p8c p8d p8e now = .ok facts')
    (hlisted : Listed m m') (hclasses : (m.rules.map (·.actionClass)).Nodup) : facts' = facts := by
  obtain ⟨hmanifest, hfacts⟩ := derive_ok h
  obtain ⟨-, hfacts'⟩ := derive_ok h'
  obtain ⟨-, hactions, -, -⟩ := validateManifest_unique hmanifest
  have hsorted : sortOn (·.actionId) m.actions = sortOn (·.actionId) m'.actions :=
    sortOn_perm hlisted.actions fun a ha b hb hab => List.inj_on_of_nodup_map hactions ha hb hab
  rw [← hsorted] at hfacts'
  have hgather := Checks.gather_ok.mpr hfacts
  have hgather' := Checks.gather_ok.mpr hfacts'
  have hfact : factOf rt analyzer.policy m p8c p8d p8e now = factOf rt analyzer.policy m' p8c p8d p8e now :=
    funext (hlisted.factOf hclasses)
  rw [← hfact, hgather] at hgather'
  exact (Except.ok.inj hgather').symm

/-! ## Canonical forms -/

theorem AutonomyLevel.value_injective : Function.Injective AutonomyLevel.value := by
  intro a b h
  cases a <;> cases b <;> first | rfl | simp [value] at h

theorem ApprovalDecision.value_injective : Function.Injective ApprovalDecision.value := by
  intro a b h
  cases a <;> cases b <;> first | rfl | simp [value] at h

/-- The texts of a manifest that look like digests are in small letters. -/
structure HumanApprovalManifest.InLetters (rt : Runtime) (m : HumanApprovalManifest) : Prop where
  rules : ∀ r ∈ m.rules, Decision.InLetters rt HumanApprovalRule.fields r
  actions : ∀ a ∈ m.actions, Decision.InLetters rt PendingHumanAction.fields a
  approvals : ∀ a ∈ m.approvals, Decision.InLetters rt HumanApprovalRecord.fields a

theorem action_of_shown {a b : PendingHumanAction} (h : shown rt PendingHumanAction.fields a = shown rt PendingHumanAction.fields b) :
    a = b := by
  cases a
  cases b
  simpa [shown, PendingHumanAction.fields, Json.sorted, AutonomyLevel.value_injective.eq_iff] using h

theorem approval_of_shown (h : shown rt HumanApprovalRecord.fields a = shown rt HumanApprovalRecord.fields b) :
    a = b := by
  cases a
  cases b
  simpa [shown, HumanApprovalRecord.fields, Json.sorted, ApprovalDecision.value_injective.eq_iff] using h

/-- A rule is told but for the order of its roles, and that is pinned by its profile. -/
theorem rule_of_shown {r s : HumanApprovalRule} (hr : validateRule p r = .ok ()) (hs : validateRule p s = .ok ())
    (h : shown rt HumanApprovalRule.fields r = shown rt HumanApprovalRule.fields s) : r = s := by
  simp only [validateRule, bind_ok, rejectIf_ok, not_not, exists_const] at hr hs
  have hid : r.ruleId = s.ruleId := by
    simpa [Json.sorted] using (List.cons.inj h).1
  have hprofile : r.profile = s.profile := by
    have hsome := hr.1.symm.trans (hid ▸ hs.1)
    exact Option.some.inj hsome
  have hdescription : r.description = s.description := by
    simp only [shown, HumanApprovalRule.fields, List.map_cons, List.map_nil, List.cons.injEq, Json.sorted, Json.str.injEq, and_true] at h
    exact h.2.2.2.2.2.2.2.2.2.2
  cases r
  cases s
  simp_all [HumanApprovalRule.profile]

theorem listed_of_canonical (hm : validateManifest rt p m now = .ok ()) (hm' : validateManifest rt p m' now = .ok ())
    (h : m.canonical rt = m'.canonical rt) (hl : m.InLetters rt) (hl' : m'.InLetters rt) : Listed m m' := by
  obtain ⟨-, -, -, hrule⟩ := validateManifest_unique hm
  obtain ⟨-, -, -, hrule'⟩ := validateManifest_unique hm'
  simp only [HumanApprovalManifest.canonical, Json.obj_cons, Json.field.injEq, true_and] at h
  obtain ⟨hactions, happrovals, -, -, -, -, -, hrules, -⟩ := h
  refine ⟨perm_of_paired (paired_of_normTuple hrules hl.rules hl'.rules (fun _ _ => rfl) fun _ => ?_) ?_,
    perm_of_paired (paired_of_normTuple hactions hl.actions hl'.actions (fun _ _ => rfl) fun _ => ?_) ?_,
    perm_of_paired (paired_of_normTuple happrovals hl.approvals hl'.approvals (fun _ _ => rfl) fun _ => ?_) ?_⟩
  · simp [HumanApprovalRule.fields]
  · exact fun r hr s hs he => rule_of_shown (hrule r hr) (hrule' s hs) he
  · simp [PendingHumanAction.fields]
  · exact fun a _ b _ he => action_of_shown he
  · simp [HumanApprovalRecord.fields]
  · exact fun a _ b _ he => approval_of_shown he

/-! ## What derive promises -/

theorem factOf_ok {action : PendingHumanAction} {fact : HumanApprovalFact} (h : factOf rt p m p8c p8d p8e now action = .ok fact) :
    ∃ r, ruleByActionClass m.rules action.actionClass = some r ∧ fact.actionId = action.actionId ∧
      (fact.outcome = .allow ↔ risksOf rt p m p8c p8d p8e now r action = []) := by
  simp only [factOf, bind_ok, getItem_ok] at h
  obtain ⟨r, hr, he⟩ := h
  have hfact := Except.ok.inj he
  have hid : fact.actionId = action.actionId := by rw [← hfact]
  have houtcome : fact.outcome = outcomeOf (sortedSet ApprovalRisk.value (risksOf rt p m p8c p8d p8e now r action)) := by rw [← hfact]
  exact ⟨r, hr, hid, by rw [houtcome, outcomeOf_allow, sortedSet_eq_nil]⟩

/-- What an allowed action that needs a human was approved by, and what its outcome hangs on. -/
theorem approved_by_people {analyzer : HumanHandoffAutonomySecurityAnalyzer} {facts : List HumanApprovalFact}
    (h : analyzer.derive rt m p8c p8d p8e now = .ok facts) :
    (∀ fact ∈ facts, fact.outcome = .allow → ∃ action ∈ m.actions, ∃ r, action.actionId = fact.actionId ∧
      ruleByActionClass m.rules action.actionClass = some r ∧ (r.requiresHuman = true → Approved rt analyzer.policy m now r action)) ∧
    ∀ m' facts', analyzer.derive rt m' p8c p8d p8e now = .ok facts' → m.canonical rt = m'.canonical rt →
      m.InLetters rt → m'.InLetters rt → (m.rules.map (·.actionClass)).Nodup → facts' = facts := by
  obtain ⟨hmanifest, hfacts⟩ := derive_ok h
  obtain ⟨-, -, hids, -⟩ := validateManifest_unique hmanifest
  refine ⟨fun fact hfact hallow => ?_, fun m' facts' h' hcanonical hletters hletters' hclasses => ?_⟩
  · obtain ⟨action, haction, hof⟩ := Checks.exists_of_forall₂ hfacts hfact
    obtain ⟨r, hr, hid, houtcome⟩ := factOf_ok hof
    exact ⟨action, mem_sortOn.mp haction, r, hid.symm, hr, approved_of_risks hids (houtcome.mp hallow)⟩
  · obtain ⟨hmanifest', -⟩ := derive_ok h'
    exact facts_of_listed h h' (listed_of_canonical hmanifest hmanifest' hcanonical hletters hletters') hclasses

/-- What is asked of the approvals of every allowed action: as many people as its rule needs. -/
def AllByPeople (rt : Runtime) (p : HumanApprovalPolicy) (m : HumanApprovalManifest) (now : Int) (facts : List HumanApprovalFact) : Prop :=
  ∀ fact ∈ facts, fact.outcome = .allow → ∃ action ∈ m.actions, ∃ r, action.actionId = fact.actionId ∧
    ruleByActionClass m.rules action.actionClass = some r ∧ (r.requiresHuman = true → ApprovedByPeople rt p m now r action)

/-! ## The release of a deployment -/

namespace Sample

def capital : String := hex 'A'

/-- Texts in small letters, but for one. -/
def runtime : Runtime := { Runtime.folded (hex '0') hex_not_blank with casefold := fun s => if s = capital then hex 'a' else s }

def evidence : Json := .obj [("assessment_evidence_sha256", .str (hex '0')), ("exact_goal_plan_graph_binding_verified", .bool true),
  ("caller_declared_goal_safety_trusted", .bool false), ("exact_tool_observation_graph_binding_verified", .bool true),
  ("caller_declared_tool_observation_safety_trusted", .bool false), ("exact_execution_budget_graph_binding_verified", .bool true),
  ("caller_declared_resource_safety_trusted", .bool false), ("steps", .arr [.obj [("step_id", .str "step"), ("decision", .str "allow")]]),
  ("runs", .arr [.obj [("run_id", .str "run"), ("decision", .str "allow")]])]

def rule (ruleId : String) (minimum : Int) (independent allowEdit : Bool) : HumanApprovalRule :=
  ⟨ruleId, "deploy", .irreversible, .supervised, true, ["lead"], minimum, independent, allowEdit, 100, ""⟩

def action : PendingHumanAction :=
  ⟨"release", "run", "goal", "step", none, "pat", "acme", "bot", "deploy", hex '1', hex '2', .supervised, "bot", true, 0, "owner", ""⟩

def approval (approvalId reviewer : String) : HumanApprovalRecord :=
  ⟨approvalId, "release", reviewer, "lead", reviewer, .approve, hex '1', hex '2', none, approvalId, 10, 20, "owner", ""⟩

def edited (approvalId reviewer : String) : HumanApprovalRecord :=
  { approval approvalId reviewer with decision := .edit, editedArgsSha256 := some (hex '3') }

def manifest (rules : List HumanApprovalRule) (approvals : List HumanApprovalRecord) : HumanApprovalManifest :=
  ⟨"graph", "1", hex '0', hex '0', hex '0', 10, rules, [action], approvals, approvalSchemaVersion⟩

def analyzer (rules : List HumanApprovalRule) (approvals : List HumanApprovalRecord) : HumanHandoffAutonomySecurityAnalyzer where
  policy := {
    expectedGraphId := "graph", expectedGraphVersion := "1", expectedGraphSha256 := hex '0'
    expectedP8cAssessmentEvidenceSha256 := hex '0', expectedP8dAssessmentEvidenceSha256 := hex '0'
    expectedP8eAssessmentEvidenceSha256 := hex '0', requiredRuleIds := rules.map (·.ruleId), requiredActionIds := ["release"]
    requiredApprovalIds := approvals.map (·.approvalId), trustedOwnerIds := ["owner"]
    reviewerRolesByIdentity := [("ann", ["lead"]), ("ben", ["lead"]), (hex 'a', ["lead"])]
    reviewerGroupByIdentity := [("ann", "ann"), ("ben", "ben"), (hex 'a', hex 'a')]
    expectedRuleProfiles := rules.map fun r => (r.ruleId, r.profile), expectedActionBindings := [("release", action.binding)]
    maxManifestAgeSeconds := 100, maxFutureSkewSeconds := 0 }

/-- What is decided on the release by the analyzer that pins the rules and approvals, of a manifest with others. -/
def outcomes (rules rules' : List HumanApprovalRule) (approvals approvals' : List HumanApprovalRecord) : Option (List ApprovalOutcome) :=
  ((analyzer rules approvals).derive runtime (manifest rules' approvals') evidence evidence evidence 15).toOption.map
    fun facts => facts.map (·.outcome)

theorem derive_release {rules rules' : List HumanApprovalRule} {approvals approvals' : List HumanApprovalRecord} {outcome : ApprovalOutcome}
    (h : outcomes rules rules' approvals approvals' = some [outcome]) :
    ∃ fact, (analyzer rules approvals).derive runtime (manifest rules' approvals') evidence evidence evidence 15 = .ok [fact] ∧
      fact.outcome = outcome := by
  obtain ⟨facts, hderive, hfacts⟩ := Checks.ok_of_map h
  obtain ⟨fact, rfl, houtcome⟩ := List.map_eq_singleton_iff.mp hfacts
  exact ⟨fact, hderive, houtcome⟩

def strict : HumanApprovalRule := rule "strict" 2 true false

def lax : HumanApprovalRule := rule "lax" 2 false true

def single : HumanApprovalRule := rule "single" 1 false false

def both : List HumanApprovalRecord := [approval "first" "ann", approval "second" "ben"]

def twice : List HumanApprovalRecord := [approval "first" "ann", approval "second" "ann"]

def mixed : List HumanApprovalRecord := [approval "first" "ann", edited "second" "ben"]

/-- Two approvals, both by the same person. -/
theorem twice_not_by_people : ¬ ApprovedByPeople runtime (analyzer [lax] twice).policy (manifest [lax] twice) 15 lax action := by
  rintro ⟨approvals, hsub, hnodup, hlength, -, -⟩
  have hann : approvals.map (·.reviewerIdentityId) ⊆ ["ann"] := by
    intro x hx
    obtain ⟨a, ha, rfl⟩ := List.mem_map.mp hx
    have hin : a ∈ twice := (List.mem_filter.mp (hsub ha)).1
    simp only [twice, List.mem_cons, List.not_mem_nil, or_false] at hin
    rcases hin with rfl | rfl
    · exact List.mem_cons_self
    · exact List.mem_cons_self
  have hle := (List.subperm_of_subset hnodup hann).length_le
  rw [List.length_map, List.length_singleton] at hle
  have htwo : (max 1 2 : Int) ≤ approvals.length := hlength
  omega

/-- Two people, one of whom lets other arguments through. -/
theorem mixed_not_by_people : ¬ ApprovedByPeople runtime (analyzer [lax] mixed).policy (manifest [lax] mixed) 15 lax action := by
  rintro ⟨approvals, hsub, hnodup, hlength, -, hsame⟩
  have hin : approvals ⊆ mixed := fun a ha => (List.mem_filter.mp (hsub ha)).1
  have htwo : (max 1 2 : Int) ≤ approvals.length := hlength
  have hperm := (List.subperm_of_subset (List.Nodup.of_map _ hnodup) hin).perm_of_length_le (by
    show 2 ≤ approvals.length
    omega)
  have heffective := hsame (approval "first" "ann") (hperm.mem_iff.mpr List.mem_cons_self) (edited "second" "ben")
    (hperm.mem_iff.mpr (List.mem_cons_of_mem _ List.mem_cons_self))
  have hargs : runtime.casefold (hex '1') ≠ runtime.casefold (hex '3') := by decide +kernel
  exact hargs heffective

theorem not_all_by_people {approvals : List HumanApprovalRecord} {fact : HumanApprovalFact} (hallow : fact.outcome = .allow)
    (h : ¬ ApprovedByPeople runtime (analyzer [lax] approvals).policy (manifest [lax] approvals) 15 lax action) :
    ¬ AllByPeople runtime (analyzer [lax] approvals).policy (manifest [lax] approvals) 15 [fact] := by
  intro hall
  obtain ⟨a, ha, r, -, hr, hby⟩ := hall fact List.mem_cons_self hallow
  obtain rfl := List.mem_singleton.mp ha
  have hlax : ruleByActionClass [lax] "deploy" = some lax := rfl
  obtain rfl := Option.some.inj (hlax.symm.trans hr)
  exact h (hby rfl)

/-- A reviewer who is named in other letters. -/
theorem canonical_capital : (manifest [single] [approval "first" capital]).canonical runtime =
    (manifest [single] [approval "first" (hex 'a')]).canonical runtime := by
  have hname : Canonical.normText runtime capital = Canonical.normText runtime (hex 'a') := by decide +kernel
  have hrecord : (Json.obj (HumanApprovalRecord.fields (written runtime) (writtenAll runtime) (approval "first" capital))).sorted =
      (Json.obj (HumanApprovalRecord.fields (written runtime) (writtenAll runtime) (approval "first" (hex 'a')))).sorted := by
    simp only [HumanApprovalRecord.fields, approval, written, hname]
  have htuple : normTuple runtime (fun text texts a => .obj (HumanApprovalRecord.fields text texts a)) [approval "first" capital] =
      normTuple runtime (fun text texts a => .obj (HumanApprovalRecord.fields text texts a)) [approval "first" (hex 'a')] :=
    congrArg (fun record => Json.arr [record]) hrecord
  simp only [HumanApprovalManifest.canonical, manifest]
  rw [htuple]

/-- None of the four is so of every manifest: people, payload, the order of the rules, the letters of a name. -/
theorem not_by_people :
    (∃ facts, (analyzer [lax] twice).derive runtime (manifest [lax] twice) evidence evidence evidence 15 = .ok facts ∧
      ¬ AllByPeople runtime (analyzer [lax] twice).policy (manifest [lax] twice) 15 facts) ∧
    (∃ facts, (analyzer [lax] mixed).derive runtime (manifest [lax] mixed) evidence evidence evidence 15 = .ok facts ∧
      ¬ AllByPeople runtime (analyzer [lax] mixed).policy (manifest [lax] mixed) 15 facts) ∧
    (∃ facts facts', (analyzer [strict, lax] mixed).derive runtime (manifest [strict, lax] mixed) evidence evidence evidence 15 = .ok facts ∧
      (analyzer [strict, lax] mixed).derive runtime (manifest [lax, strict] mixed) evidence evidence evidence 15 = .ok facts' ∧
      (manifest [strict, lax] mixed).canonical runtime = (manifest [lax, strict] mixed).canonical runtime ∧ facts ≠ facts') ∧
    ∃ facts facts', (analyzer [single] [approval "first" (hex 'a')]).derive runtime (manifest [single] [approval "first" capital])
        evidence evidence evidence 15 = .ok facts ∧
      (analyzer [single] [approval "first" (hex 'a')]).derive runtime (manifest [single] [approval "first" (hex 'a')])
        evidence evidence evidence 15 = .ok facts' ∧
      (manifest [single] [approval "first" capital]).canonical runtime = (manifest [single] [approval "first" (hex 'a')]).canonical runtime ∧
      facts ≠ facts' := by
  have hne : ∀ {fact fact' : HumanApprovalFact}, fact.outcome ≠ fact'.outcome → [fact] ≠ [fact'] := by
    intro fact fact' h he
    obtain ⟨rfl, -⟩ := List.cons.inj he
    exact h rfl
  refine ⟨?_, ?_, ?_, ?_⟩
  · obtain ⟨fact, hderive, hallow⟩ := @derive_release [lax] [lax] twice twice .allow (by decide +kernel)
    exact ⟨[fact], hderive, not_all_by_people hallow twice_not_by_people⟩
  · obtain ⟨fact, hderive, hallow⟩ := @derive_release [lax] [lax] mixed mixed .allow (by decide +kernel)
    exact ⟨[fact], hderive, not_all_by_people hallow mixed_not_by_people⟩
  · obtain ⟨fact, hderive, hallow⟩ := @derive_release [strict, lax] [strict, lax] mixed mixed .allow (by decide +kernel)
    obtain ⟨fact', hderive', hdeny⟩ := @derive_release [strict, lax] [lax, strict] mixed mixed .deny (by decide +kernel)
    refine ⟨[fact], [fact'], hderive, hderive', ?_, hne (by rw [hallow, hdeny]; decide)⟩
    simp only [HumanApprovalManifest.canonical, manifest]
    rw [normTuple_perm (List.Perm.swap lax strict []) (by decide)]
  · obtain ⟨fact, hderive, hdeny⟩ := @derive_release [single] [single] [approval "first" (hex 'a')] [approval "first" capital] .deny
      (by decide +kernel)
    obtain ⟨fact', hderive', hallow⟩ := @derive_release [single] [single] [approval "first" (hex 'a')] [approval "first" (hex 'a')] .allow
      (by decide +kernel)
    exact ⟨[fact], [fact'], hderive, hderive', canonical_capital, hne (by rw [hallow, hdeny]; decide)⟩

theorem approved_by_people_both : ∃ facts,
    (analyzer [strict] both).derive runtime (manifest [strict] both) evidence evidence evidence 15 = .ok facts ∧
    (∃ fact ∈ facts, fact.outcome = .allow ∧ Approved runtime (analyzer [strict] both).policy (manifest [strict] both) 15 strict action) ∧
    (analyzer [strict] both).derive runtime (manifest [strict] both.reverse) evidence evidence evidence 15 = .ok facts := by
  obtain ⟨fact, hderive, hallow⟩ := @derive_release [strict] [strict] both both .allow (by decide +kernel)
  obtain ⟨fact', hderive', -⟩ := @derive_release [strict] [strict] both both.reverse .allow (by decide +kernel)
  have hcanonical : (manifest [strict] both).canonical runtime = (manifest [strict] both.reverse).canonical runtime := by
    simp only [HumanApprovalManifest.canonical, manifest]
    rw [normTuple_perm (List.reverse_perm both).symm (by decide)]
  have hletters : ∀ approvals ⊆ both, (manifest [strict] approvals).InLetters runtime := by
    intro approvals hsub
    have hone : Canonical.normText runtime (hex '1') = hex '1' := by decide +kernel
    have htwo : Canonical.normText runtime (hex '2') = hex '2' := by decide +kernel
    refine ⟨?_, ?_, ?_⟩
    · intro r hr texts
      rw [List.mem_singleton.mp hr]
      simp (disch := decide) [HumanApprovalRule.fields, strict, rule, written, Decision.normText_short, ActionRisk.value, AutonomyLevel.value]
    · intro a ha texts
      rw [List.mem_singleton.mp ha]
      simp (disch := decide) [PendingHumanAction.fields, action, written, Decision.normText_short, AutonomyLevel.value, hone, htwo, Json.opt]
    · intro a ha texts
      have hin := hsub ha
      simp only [both, List.mem_cons, List.not_mem_nil, or_false] at hin
      rcases hin with rfl | rfl
      · simp (disch := decide) [HumanApprovalRecord.fields, approval, written, Decision.normText_short, ApprovalDecision.value, hone, htwo, Json.opt]
      · simp (disch := decide) [HumanApprovalRecord.fields, approval, written, Decision.normText_short, ApprovalDecision.value, hone, htwo, Json.opt]
  obtain ⟨hallowed, hsame⟩ := approved_by_people hderive
  obtain ⟨a, ha, r, -, hr, happroved⟩ := hallowed fact List.mem_cons_self hallow
  obtain rfl := List.mem_singleton.mp ha
  have hstrict : ruleByActionClass [strict] "deploy" = some strict := rfl
  obtain rfl := Option.some.inj (hstrict.symm.trans hr)
  refine ⟨[fact], hderive, ⟨fact, List.mem_cons_self, hallow, happroved rfl⟩, ?_⟩
  rw [hderive', hsame _ _ hderive' hcanonical (hletters _ (List.Subset.refl _)) (hletters _ fun x hx => List.mem_reverse.mp hx) (by decide)]

end Sample

end Aegis.Agentic.HumanApproval
