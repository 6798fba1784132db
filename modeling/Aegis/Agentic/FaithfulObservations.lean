/-
  Aegis.Agentic.FaithfulObservations — what an allowed tool observation answers for.

  The checks compare the records in pairs: the result with its invocation, the observation with both, and its state
  with the snapshot it names. The pairs of an observation without a risk make it agree with all of them.
  - `faithful_of_clean`: an observation without a risk to its integrity agrees with its result, its invocation and
    the digest the policy pins for the snapshot it names, and is not older than its invocation's snapshot.
  - `observations_faithful`: so an allowed observation does; and an observation whose trust is derived as verified
    does as well, comes from an authoritative tool with an allowlisted attestation, and is allowed unless it claims
    less trust than that.
  - `Sample.modest_denied`: one that claims less is denied, and its trust is derived as verified all the same; and an
    allowed observation may have a version that is not the one of the snapshot it names.
-/

import Aegis.Agentic.CanonicalForm
import Aegis.Agentic.ObservationIntegrity
import Aegis.Assurance.Regression

namespace Aegis.Agentic.ObservationIntegrity

open Data Evidence Checked Decision

variable {rt : ObservationRuntime} {p : ToolObservationPolicy} {m : ToolObservationManifest}

/-- The records an observation is joined with are those of the manifest that it names. -/
structure Joined.Of (m : ToolObservationManifest) (j : Joined) : Prop where
  result : j.result ∈ m.results ∧ j.result.resultId = j.observation.resultId
  invocation : j.invocation ∈ m.invocations ∧ j.invocation.invocationId = j.observation.invocationId
  contract : j.contract ∈ m.contracts ∧ j.contract.toolId = j.observation.toolId
  before : j.before ∈ m.snapshots ∧ j.before.snapshotId = j.invocation.environmentSnapshotId
  snapshot : j.snapshot ∈ m.snapshots ∧ j.snapshot.snapshotId = j.observation.environmentSnapshotId

variable {j : Joined} {o : ToolObservation} {now : Int} {up : Upstreams}

theorem join_of (h : join m o = .ok j) : j.observation = o ∧ j.Of m := by
  simp only [join, bind_ok, getItem_ok] at h
  obtain ⟨r, hr, i, hi, c, hc, b, hb, s, hs, he⟩ := h
  obtain rfl := Except.ok.inj he
  exact ⟨rfl, Dict.ofItems_mem hr, Dict.ofItems_mem hi, Dict.ofItems_mem hc, Dict.ofItems_mem hb, Dict.ofItems_mem hs⟩

/-! ## What the manifest is checked for -/

/-- The parts of a valid manifest the decisions rest on. -/
structure Pinned (rt : Runtime) (p : ToolObservationPolicy) (m : ToolObservationManifest) : Prop where
  contracts : ∀ c ∈ m.contracts, AsExpected p c
  versions : ∀ s ∈ m.snapshots, Dict.mapping p.expectedSnapshotStateVersion s.snapshotId = some s.stateVersion
  digests : ∀ s ∈ m.snapshots,
    rt.casefold s.stateSha256 = rt.casefold ((Dict.mapping p.expectedSnapshotStateSha256 s.snapshotId).getD "")

theorem pinned_of_valid {rt : Runtime} {u : Unit} (h : validateManifest rt p m now = .ok u) : Pinned rt p m := by
  simp only [validateManifest, bind_ok, rejectIf_ok, unique_ok, forEach_ok] at h
  obtain ⟨-, -, -, -, -, -, -, -, -, -, -, -, -, -, -, hcontracts, -, hsnapshots, -⟩ := h
  have hsnapshot : ∀ s ∈ m.snapshots, Dict.mapping p.expectedSnapshotStateVersion s.snapshotId = some s.stateVersion ∧
      rt.casefold s.stateSha256 = rt.casefold ((Dict.mapping p.expectedSnapshotStateSha256 s.snapshotId).getD "") := by
    intro s hs
    have hvalid := hsnapshots s hs
    simp only [validateSnapshot, bind_ok, rejectIf_ok, not_or, ne_eq, not_not] at hvalid
    obtain ⟨-, -, -, hversion, hdigest, -⟩ := hvalid
    exact ⟨hversion, hdigest⟩
  refine ⟨fun c hc => ?_, fun s hs => (hsnapshot s hs).1, fun s hs => (hsnapshot s hs).2⟩
  have hvalid := hcontracts c hc
  simp only [validateContract, bind_ok, rejectIf_ok, not_not] at hvalid
  obtain ⟨-, -, hexpected⟩ := hvalid
  exact hexpected

/-! ## An observation without a risk -/

/-- An observation agrees with what it names. -/
structure Faithful (rt : ObservationRuntime) (p : ToolObservationPolicy) (m : ToolObservationManifest) (j : Joined) : Prop where
  invocation : j.result.invocationId = j.invocation.invocationId
  tool : j.observation.toolId = j.invocation.toolId ∧ j.result.toolId = j.invocation.toolId
  arguments : rt.casefold j.result.argsSha256 = rt.casefold j.invocation.argsSha256
  tenant : j.observation.tenantId = j.invocation.tenantId
  principal : j.observation.originalPrincipalId = j.invocation.originalPrincipalId
  task : j.observation.taskId = j.invocation.taskId
  goal : j.observation.goalId = j.invocation.goalId
  step : j.observation.stepId = j.invocation.stepId
  /-- No other result carries the nonce. -/
  nonce : ∀ r ∈ m.results, r.resultNonce = j.result.resultNonce → r = j.result
  version : j.observation.environmentVersion = j.result.observedEnvironmentVersion
  /-- The version is not older than the one pinned for the snapshot of the invocation. -/
  notOlder : ∃ v ∈ Dict.mapping p.expectedSnapshotStateVersion j.invocation.environmentSnapshotId, v ≤ j.observation.environmentVersion
  observed : rt.casefold j.observation.environmentStateSha256 = rt.casefold j.result.observedEnvironmentStateSha256
  /-- The state is the one pinned for the snapshot the observation names. -/
  state : rt.casefold j.observation.environmentStateSha256 =
    rt.casefold ((Dict.mapping p.expectedSnapshotStateSha256 j.observation.environmentSnapshotId).getD "")
  /-- What asks for an acknowledgement carries the one for this effect, payload and version. -/
  acknowledged : AsksAck j.contract → ∃ effect ∈ j.result.sideEffectId, ∃ given ∈ j.result.sideEffectAckSha256,
    effect ≠ "" ∧ rt.casefold given = ack rt effect j.result.payloadSha256 j.observation.environmentVersion

/-- The tool is authoritative, by its contract and by the policy, and the attestation of the result is allowlisted. -/
structure Authoritative (rt : Runtime) (p : ToolObservationPolicy) (j : Joined) : Prop where
  contract : j.contract.authoritativeResult = true
  policy : Dict.mapping p.expectedContractAuthoritative j.observation.toolId = some true
  attested : Attested rt p j.result

theorem nonce_unique {r r' : ToolResult} (hr : r ∈ m.results) (hr' : r' ∈ m.results)
    (hnonce : r'.resultNonce = r.resultNonce) (hcount : ¬ nonceCount m r.resultNonce > 1) : r' = r := by
  by_contra hne
  have hsub : [r', r] ⊆ m.results.filter fun x => x.resultNonce = r.resultNonce := by
    intro x hx
    rcases List.mem_pair.mp hx with rfl | rfl
    · exact List.mem_filter.mpr ⟨hr', by simpa using hnonce⟩
    · exact List.mem_filter.mpr ⟨hr, by simp⟩
  have hpair : [r', r].Nodup := by simpa using hne
  have hlength := (List.subperm_of_subset hpair hsub).length_le
  exact hcount hlength

theorem acknowledged_of_clean {r : ToolResult} (h : ackRisks rt r = []) : ∃ effect ∈ r.sideEffectId, ∃ given ∈ r.sideEffectAckSha256,
    effect ≠ "" ∧ rt.casefold given = ack rt effect r.payloadSha256 r.observedEnvironmentVersion := by
  unfold ackRisks at h
  cases heffect : r.sideEffectId with
  | none =>
    rw [heffect] at h
    cases h
  | some effect =>
    cases hgiven : r.sideEffectAckSha256 with
    | none =>
      rw [heffect, hgiven] at h
      cases h
    | some given =>
      rw [heffect, hgiven] at h
      dsimp only at h
      by_cases hempty : effect = "" ∨ given = ""
      · rw [if_pos hempty] at h
        cases h
      · rw [if_neg hempty, flag_eq_nil, not_not] at h
        exact ⟨effect, rfl, given, rfl, fun he => hempty (.inl he), h⟩

/-- An observation without a risk to its integrity agrees with what it names. -/
theorem faithful_of_clean (hp : Pinned rt.toRuntime p m) (hj : j.Of m)
    (h : integrityRisks rt p m up now j = []) : Faithful rt p m j := by
  simp only [integrityRisks, List.append_eq_nil_iff] at h
  obtain ⟨⟨⟨⟨hidentity, hfreshness⟩, henvironment⟩, heffect⟩, -⟩ := h
  simp only [identityRisks, freshnessRisks, environmentRisks, List.append_eq_nil_iff, flag_eq_nil, not_or, ne_eq, not_not]
    at hidentity hfreshness henvironment
  obtain ⟨⟨⟨⟨⟨⟨hinvocation, htool⟩, harguments⟩, htenant⟩, htask⟩, hprincipal⟩, hgoal, hstep⟩ := hidentity
  obtain ⟨⟨hsnapshot, hversion, hobserved, hstate⟩, hregression⟩ := henvironment
  refine ⟨hinvocation, htool.symm, harguments, htenant.1, hprincipal, htask, hgoal, hstep, ?_, hversion, ?_, hobserved, ?_, ?_⟩
  · intro r hr hnonce
    exact nonce_unique hj.result.1 hr hnonce hfreshness.2
  · refine ⟨j.before.stateVersion, ?_, by omega⟩
    rw [← hj.before.2]
    exact hp.versions j.before hj.before.1
  · rw [hstate, ← hj.snapshot.2]
    exact hp.digests j.snapshot hj.snapshot.1
  · intro hasks
    rw [sideEffectRisks, if_pos hasks] at heffect
    rw [hversion]
    exact acknowledged_of_clean heffect

/-! ## What is derived of an observation -/

/-- What the fact of an observation says of it. -/
structure Answers (rt : ObservationRuntime) (p : ToolObservationPolicy) (m : ToolObservationManifest) (j : Joined)
    (f : ToolObservationFact) : Prop where
  names : f.observationId = j.observation.observationId ∧ f.resultId = j.result.resultId ∧ f.invocationId = j.invocation.invocationId
  allowed : f.decision = .allow → Faithful rt p m j
  verified : f.derivedTrust = .verified → Faithful rt p m j ∧ Authoritative rt.toRuntime p j ∧
    (f.decision = .allow ∨ f.risks = [.observationTrustMismatch] ∧ j.observation.claimedTrust ≠ .verified)

theorem verified_iff {risks : List ObservationRisk} : trustOf rt.toRuntime p risks j = .verified ↔
    j.contract.authoritativeResult = true ∧ Attested rt.toRuntime p j.result ∧ risks = [] := by
  unfold trustOf
  by_cases h : j.contract.authoritativeResult = true ∧ Attested rt.toRuntime p j.result ∧ risks = []
  · rw [if_pos h]
    exact ⟨fun _ => h, fun _ => rfl⟩
  · rw [if_neg h]
    exact ⟨nofun, fun hv => absurd hv h⟩

/-- Trust that is derived as verified is contradicted by a claim of less only. -/
theorem trustRisks_verified :
    trustRisks .verified o = [] ∨ trustRisks .verified o = [.observationTrustMismatch] ∧ o.claimedTrust ≠ .verified := by
  unfold trustRisks
  by_cases h : o.claimedTrust = .verified
  · left
    simp [h]
  · right
    exact ⟨by simp [flag, h], h⟩

theorem fact_answers (hp : Pinned rt.toRuntime p m) (hj : j.Of m) : Answers rt p m j (factOf rt p m up now j) := by
  refine ⟨⟨rfl, rfl, rfl⟩, fun hallow => ?_, fun hverified => ?_⟩
  · simp only [factOf] at hallow
    split_ifs at hallow with hrisks
    exact faithful_of_clean hp hj (List.append_eq_nil_iff.mp hrisks).1
  · have htrust : trustOf rt.toRuntime p (integrityRisks rt p m up now j) j = .verified := hverified
    obtain ⟨hauthoritative, hattested, hclean⟩ := verified_iff.mp htrust
    refine ⟨faithful_of_clean hp hj hclean, ⟨hauthoritative, ?_, hattested⟩, ?_⟩
    · rw [← hj.contract.2, ← hauthoritative]
      exact (hp.contracts j.contract hj.contract.1).2.2.1
    · rw [hclean] at htrust
      simp only [factOf, hclean, List.nil_append, htrust]
      rcases @trustRisks_verified j.observation with hnone | ⟨hless, hclaim⟩
      · left
        rw [if_pos hnone]
      · right
        rw [hless]
        exact ⟨rfl, hclaim⟩

/-- Every observation is decided, in the order of the identifiers. An allowed one agrees with its result, with its
invocation and with the state that is pinned for the snapshot it names. One whose trust is derived as verified agrees
with them too, comes from an authoritative tool and is attested; it is denied only for claiming less trust. -/
theorem observations_faithful (p : ToolObservationPolicy) (m : ToolObservationManifest) (p8a p8c p7i : Json) (evaluatedAtEpoch : Int)
    (facts : List ToolObservationFact) (h : derive rt p m p8a p8c p7i evaluatedAtEpoch = .ok facts) :
    List.Forall₂ (fun o f => ∃ j : Joined, j.observation = o ∧ j.Of m ∧ Answers rt p m j f) (sortOn (·.observationId) m.observations) facts := by
  simp only [derive, bind_ok] at h
  obtain ⟨-, -, -, -, _, hvalid, hfacts⟩ := h
  have hpinned := pinned_of_valid hvalid
  refine (Checks.gather_ok.mp hfacts).imp fun o f hfact => ?_
  simp only [fact, bind_ok] at hfact
  obtain ⟨j, hjoin, he⟩ := hfact
  obtain rfl := Except.ok.inj he
  obtain ⟨ho, hj⟩ := join_of hjoin
  exact ⟨j, ho, hj, fact_answers hpinned hj⟩

/-! ## Samples -/

namespace Sample

/-- The acknowledgement of the effect `ticket-1` of the sample's payload at version 2. -/
def acknowledgement : String := "7f0588343a04c7b18509418eb35edc0ad6c7273266c65e71dca7553983377170"

def textDigest (s : String) : String := if s = "ticket-1" ++ ":" ++ hex 'b' ++ ":" ++ "2" then acknowledgement else s

/-- A runtime for texts in small letters, one manifest and one acknowledgement. -/
def runtime (document : Json) : ObservationRuntime :=
  { Runtime.folded (hex '0') hex_not_blank with
    sha256 := Assurance.tabledDigest [document]
    sha256_not_blank := Assurance.tabledDigest_one_not_blank document
    textSha256 := textDigest }

def contract : ToolContract := ⟨"ticket", "owner", "acme", .mutating, true, 100, true, ["admin"], ""⟩

/-- The tracker before the call, and after it. -/
def before : EnvironmentSnapshot := ⟨"before", "acme", 1, hex 'c', 5, "owner", ""⟩

def after : EnvironmentSnapshot := ⟨"after", "acme", 2, hex 'd', 30, "owner", ""⟩

def invocation : ToolInvocation := ⟨"call", "ticket", "bot", "pat", "acme", "task", "goal", "step", some "grant", hex 'a', "before", 10, "owner", ""⟩

def result (state : Char) : ToolResult :=
  ⟨"result", "call", "ticket", hex 'a', hex 'b', "once", "before", 2, hex state, some "ticket-1", some acknowledgement, some (hex 'e'), 20, 50,
    "owner", ""⟩

def observation (snapshot : String) (state : Char) (claim : ObservationTrust) : ToolObservation :=
  ⟨"seen", "result", "call", "ticket", "pat", "acme", "task", "goal", "step", snapshot, 2, hex state, hex 'f', claim, "owner", ""⟩

/-- A ticket is opened, and what was done is observed under the name of a snapshot. -/
def manifest (snapshot : String) (state : Char) (claim : ObservationTrust) : ToolObservationManifest where
  graphId := "graph"
  version := "1"
  p8aAssessmentEvidenceSha256 := hex '0'
  p8cAssessmentEvidenceSha256 := hex '0'
  p7iAssessmentEvidenceSha256 := hex '0'
  createdAtEpoch := 30
  contracts := [contract]
  snapshots := [before, after]
  invocations := [invocation]
  results := [result state]
  observations := [observation snapshot state claim]
  schemaVersion := toolSchemaVersion

def policy : ToolObservationPolicy where
  expectedGraphId := "graph"
  expectedGraphVersion := "1"
  expectedGraphSha256 := hex '0'
  expectedP8aAssessmentEvidenceSha256 := hex '0'
  expectedP8cAssessmentEvidenceSha256 := hex '0'
  expectedP7iAssessmentEvidenceSha256 := hex '0'
  requiredContractIds := ["ticket"]
  requiredSnapshotIds := ["before", "after"]
  requiredInvocationIds := ["call"]
  requiredResultIds := ["result"]
  requiredObservationIds := ["seen"]
  trustedOwnerIds := ["owner"]
  expectedContractTenantScope := [("ticket", "acme")]
  expectedContractEffect := [("ticket", .mutating)]
  expectedContractAuthoritative := [("ticket", true)]
  expectedContractMaxAge := [("ticket", 100)]
  expectedContractRequiresAck := [("ticket", true)]
  expectedContractInvariantIds := [("ticket", ["admin"])]
  expectedSnapshotTenant := [("before", "acme"), ("after", "acme")]
  expectedSnapshotStateVersion := [("before", 1), ("after", 2)]
  expectedSnapshotStateSha256 := [("before", hex 'c'), ("after", hex 'd')]
  allowedAttestationSha256 := [hex 'e']
  maxManifestAgeSeconds := 100
  maxFutureSkewSeconds := 0

/-- The delegation and the plan allow the call, and no invariant is unsafe. -/
def delegations : Json := .obj [("assessment_evidence_sha256", .str (hex '0')), ("exact_agent_delegation_graph_binding_verified", .bool true),
  ("caller_declared_delegation_authorization_trusted", .bool false),
  ("delegations", .arr [.obj [("delegation_id", .str "grant"), ("decision", .str "allow")]])]

def plan : Json := .obj [("assessment_evidence_sha256", .str (hex '0')), ("exact_goal_plan_graph_binding_verified", .bool true),
  ("caller_declared_goal_plan_safety_trusted", .bool false), ("steps", .arr [.obj [("step_id", .str "step"), ("decision", .str "allow")]])]

def architecture : Json := .obj [("assessment_evidence_sha256", .str (hex '0')), ("exact_architecture_binding_verified", .bool true),
  ("caller_declared_architecture_safety_trusted", .bool false), ("unsafe_invariant_ids", .arr [])]

variable {document : Json} {snapshot : String} {state : Char} {claim trust : ObservationTrust}

theorem canonical_document (m : ToolObservationManifest) : m.canonical (runtime document).toRuntime = m.canonical (runtime .null).toRuntime := by
  have hcase : (runtime document).casefold = (runtime .null).casefold := rfl
  have hstr : (runtime document).str = (runtime .null).str := rfl
  simp only [ToolObservationManifest.canonical, normTuple, normText_congr hcase, normItems_congr hcase hstr, hstr]

theorem digest_document (hdocument : document = (manifest snapshot state claim).canonical (runtime .null).toRuntime) :
    (manifest snapshot state claim).digest (runtime document).toRuntime = hex '0' := by
  rw [ToolObservationManifest.digest, canonical_document, ← hdocument]
  show Assurance.tabledDigest [document] document = hex '0'
  simp [Assurance.tabledDigest]

/-- The text of the sample's manifest. -/
def manifestText (snapshot : String) (state : Char) (claim : ObservationTrust) : Json :=
  (manifest snapshot state claim).canonical (runtime .null).toRuntime

theorem digest_manifest (snapshot : String) (state : Char) (claim : ObservationTrust) :
    (manifest snapshot state claim).digest (runtime (manifestText snapshot state claim)).toRuntime = hex '0' := digest_document rfl

/-- What is derived of the observation, and what is decided on it. -/
def shown (snapshot : String) (state : Char) (claim : ObservationTrust) : Option (List (ObservationTrust × ObservationDecision × Int)) :=
  (derive (runtime (manifestText snapshot state claim)) policy (manifest snapshot state claim) delegations plan architecture 40).toOption.map
    fun facts => facts.map fun f => (f.derivedTrust, f.decision, f.environmentVersion)

theorem shown_ok {version : Int} {decision : ObservationDecision}
    (h : shown snapshot state claim = some [(trust, decision, version)]) :
    ∃ f, derive (runtime (manifestText snapshot state claim)) policy (manifest snapshot state claim) delegations plan architecture 40 = .ok [f] ∧
      f.derivedTrust = trust ∧ f.decision = decision ∧ f.environmentVersion = version := by
  obtain ⟨facts, hderive, hfacts⟩ := Checks.ok_of_map h
  obtain ⟨f, rfl, hf⟩ := List.map_eq_singleton_iff.mp hfacts
  obtain ⟨htrust, hdecision, hversion⟩ := Prod.mk.inj hf |>.imp_right Prod.mk.inj
  exact ⟨f, hderive, htrust, hdecision, hversion⟩

/-- An observation that claims less trust than is derived of it is denied, and its trust is verified. An allowed one
has version 2 and names a snapshot of version 1. -/
theorem modest_denied :
    (∃ f, derive (runtime (manifestText "after" 'd' .toolAsserted)) policy (manifest "after" 'd' .toolAsserted) delegations plan architecture 40 =
      .ok [f] ∧ f.derivedTrust = .verified ∧ f.decision = .deny) ∧
    ∃ f, derive (runtime (manifestText "before" 'c' .verified)) policy (manifest "before" 'c' .verified) delegations plan architecture 40 = .ok [f] ∧
      f.decision = .allow ∧ f.environmentVersion = 2 ∧ Dict.mapping policy.expectedSnapshotStateVersion "before" = some 1 := by
  have hmodest : shown "after" 'd' .toolAsserted = some [(.verified, .deny, 2)] := by
    simp only [shown, derive, validateManifest, digest_manifest]
    decide +kernel
  have hearlier : shown "before" 'c' .verified = some [(.verified, .allow, 2)] := by
    simp only [shown, derive, validateManifest, digest_manifest]
    decide +kernel
  constructor
  · obtain ⟨f, hderive, htrust, hdecision, -⟩ := shown_ok hmodest
    exact ⟨f, hderive, htrust, hdecision⟩
  · obtain ⟨f, hderive, -, hdecision, hversion⟩ := shown_ok hearlier
    exact ⟨f, hderive, hdecision, hversion, rfl⟩

/-- The ticket is observed as it is after the call. -/
theorem ticket_faithful : ∃ f, ∃ j : Joined,
    derive (runtime (manifestText "after" 'd' .verified)) policy (manifest "after" 'd' .verified) delegations plan architecture 40 = .ok [f] ∧
      f.decision = .allow ∧ j.observation = observation "after" 'd' .verified ∧
      Faithful (runtime (manifestText "after" 'd' .verified)) policy (manifest "after" 'd' .verified) j ∧
      Authoritative (runtime (manifestText "after" 'd' .verified)).toRuntime policy j := by
  have hshown : shown "after" 'd' .verified = some [(.verified, .allow, 2)] := by
    simp only [shown, derive, validateManifest, digest_manifest]
    decide +kernel
  obtain ⟨f, hderive, htrust, hdecision, -⟩ := shown_ok hshown
  have hall := observations_faithful policy (manifest "after" 'd' .verified) delegations plan architecture 40 [f] hderive
  obtain ⟨o, ho, j, hj, -, hanswers⟩ := Checks.exists_of_forall₂ hall List.mem_cons_self
  obtain rfl : o = observation "after" 'd' .verified := List.mem_singleton.mp (mem_sortOn.mp ho)
  exact ⟨f, j, hderive, hdecision, hj, (hanswers.verified htrust).1, (hanswers.verified htrust).2.1⟩

end Sample

end Aegis.Agentic.ObservationIntegrity
