/-
  Aegis.Inference.BatchStart — what runs once an allowed batch is started.

  The limits are checked of what runs before the batch, the batch limits of the batch alone:
  - `fill_chosen`: the batch is made of requests that wait, with the memory it says.
  - `running_started`: starting the batch adds its requests to those that run.
  - `startable_iff`: where no risk is attached, what runs afterwards is within the limits exactly if
    the tenant and the pool have room for the batch beside what they run already.
  - `Sample.overrun`: a tenant at its concurrency limit is given a batch of one more.
-/

import Aegis.Inference.Scheduler
import Mathlib.Algebra.BigOperators.Group.List.Basic

namespace Aegis.Inference.Scheduler

open Data Checks
open Agentic (Runtime Dict sameSet hex)
open Agentic.Decision (flag_eq_nil sorted_eq_nil)

variable {rt : Runtime} {p : InferenceSchedulerPolicy} {m : InferenceSchedulerManifest}
  {a : VerifiedInferenceTenantIsolationAssessment} {f : SchedulerRequestEvidence → Int}

/-- A request of the batch is marked as running. -/
def start (ids : List String) (r : SchedulerRequestEvidence) : SchedulerRequestEvidence :=
  if r.requestId ∈ ids then { r with running := true } else r

/-- All requests of the selected batch are marked as running. -/
def startBatch (m : InferenceSchedulerManifest) : InferenceSchedulerManifest :=
  { m with requests := m.requests.map (start m.selectedBatch.requestIds) }

/-- What runs is within the limits of the policy and of the pool. -/
structure WithinLimits (p : InferenceSchedulerPolicy) (m : InferenceSchedulerManifest) : Prop where
  tenants : ∀ t ∈ p.allowedTenantIds, number (·.running) (ofTenant m.requests t) ≤ limit p.maxConcurrentByTenant t
  slots : number (·.running) m.requests ≤ m.resources.totalSlots
  memory : tally (·.running) (·.memoryUnits) m.requests ≤ m.resources.totalMemoryUnits

/-- There is room for the batch beside what its tenant and the pool account for. -/
structure Room (p : InferenceSchedulerPolicy) (m : InferenceSchedulerManifest) : Prop where
  tenant : ∃ st ∈ states m m.selectedBatch.tenantId,
    st.activeRequests + m.selectedBatch.requestIds.length ≤ limit p.maxConcurrentByTenant m.selectedBatch.tenantId
  slots : m.resources.activeSlots + m.selectedBatch.requestIds.length ≤ m.resources.totalSlots
  memory : m.resources.usedMemoryUnits + m.selectedBatch.totalMemoryUnits ≤ m.resources.totalMemoryUnits

/-! ## The batch -/

/-- The loop takes some of the requests, in their order, and adds up their memory. -/
theorem fill_chosen (b : Batch) (rs : List SchedulerRequestEvidence) : ∃ chosen : List SchedulerRequestEvidence,
    chosen.Sublist rs ∧ (fill p b rs).requestIds = b.requestIds ++ chosen.map (·.requestId) ∧
      (fill p b rs).memory = b.memory + (chosen.map (·.memoryUnits)).sum := by
  induction rs generalizing b with
  | nil => exact ⟨[], List.Sublist.refl _, by simp [fill], by simp [fill]⟩
  | cons r rs ih =>
    unfold fill
    by_cases hfull : p.maxBatchSize ≤ b.requestIds.length
    · rw [if_pos hfull]
      exact ⟨[], List.nil_sublist _, by simp, by simp⟩
    rw [if_neg hfull]
    by_cases hfits : b.tokens + r.tokens ≤ p.maxBatchReservedTokens ∧ b.memory + r.memoryUnits ≤ p.maxBatchMemoryUnits
    · rw [if_pos hfits]
      obtain ⟨chosen, hsub, hids, hmemory⟩ := ih ⟨b.requestIds ++ [r.requestId], b.tokens + r.tokens, b.memory + r.memoryUnits⟩
      refine ⟨r :: chosen, hsub.cons_cons r, ?_, ?_⟩
      · simp [hids]
      · rw [hmemory, List.map_cons, List.sum_cons, ← Int.add_assoc]
    · rw [if_neg hfits]
      obtain ⟨chosen, hsub, hids, hmemory⟩ := ih b
      exact ⟨chosen, hsub.cons r, hids, hmemory⟩

/-- The requests of the batch that the greedy selection plans. -/
structure Planned (m : InferenceSchedulerManifest) (chosen : List SchedulerRequestEvidence) : Prop where
  perm : (m.requests.filter fun r => r.requestId ∈ m.selectedBatch.requestIds).Perm chosen
  ids : m.selectedBatch.requestIds = chosen.map (·.requestId)
  memory : m.selectedBatch.totalMemoryUnits = (chosen.map (·.memoryUnits)).sum
  tenant : ∀ r ∈ chosen, r.tenantId = m.selectedBatch.tenantId
  waiting : ∀ r ∈ chosen, r.running = false

theorem planned (hids : (m.requests.map (·.requestId)).Nodup)
    (hplan : Batch.mk m.selectedBatch.requestIds m.selectedBatch.totalReservedTokens m.selectedBatch.totalMemoryUnits =
      greedyBatch p m.requests m.selectedBatch.tenantId) : ∃ chosen, Planned m chosen := by
  obtain ⟨chosen, hsub, hchosen, hmemory⟩ := fill_chosen (p := p) ⟨[], 0, 0⟩ (candidates p m.requests m.selectedBatch.tenantId)
  have hbatch : m.selectedBatch.requestIds = chosen.map (·.requestId) := by
    refine (congrArg Batch.requestIds hplan).trans ?_
    simpa [greedyBatch] using hchosen
  have hmem : ∀ r ∈ chosen, r ∈ m.requests ∧ r.tenantId = m.selectedBatch.tenantId ∧ r.eligible = true := by
    intro r hr
    have hr' := mem_sortOn.mp (hsub.subset hr)
    simpa using List.mem_filter.mp hr'
  have hnodup : m.requests.Nodup := List.Nodup.of_map _ hids
  have hchosen_nodup : chosen.Nodup := ((perm_sortOn _ _).nodup_iff.mpr (hnodup.filter _)).sublist hsub
  refine ⟨chosen, ?_, hbatch, ?_, fun r hr => (hmem r hr).2.1, fun r hr => ?_⟩
  · refine (List.perm_ext_iff_of_nodup (hnodup.filter _) hchosen_nodup).mpr fun r => ?_
    rw [List.mem_filter, decide_eq_true_eq, hbatch]
    constructor
    · intro h
      obtain ⟨s, hs, hid⟩ := List.mem_map.mp h.2
      obtain rfl : s = r := List.inj_on_of_nodup_map hids (hmem s hs).1 h.1 hid
      exact hs
    · intro h
      exact ⟨(hmem r h).1, List.mem_map_of_mem h⟩
  · refine (congrArg Batch.memory hplan).trans ?_
    simpa [greedyBatch] using hmemory
  · have he := (hmem r hr).2.2
    simp only [SchedulerRequestEvidence.eligible, Bool.and_eq_true, Bool.not_eq_true'] at he
    exact he.1.2

/-! ## Starting it -/

theorem tally_cons (c : SchedulerRequestEvidence → Bool) (f : SchedulerRequestEvidence → Int) (r : SchedulerRequestEvidence)
    (rs : List SchedulerRequestEvidence) : tally c f (r :: rs) = (if c r = true then f r else 0) + tally c f rs := by
  unfold tally
  by_cases h : c r = true
  · rw [if_pos h, List.filter_cons_of_pos h, List.map_cons, List.sum_cons]
  · rw [if_neg h, List.filter_cons_of_neg h, Int.zero_add]

/-- Starting requests that do not run adds them to those that do. -/
theorem running_started {ids : List String} (hf : ∀ r, f (start ids r) = f r)
    {rs : List SchedulerRequestEvidence} (hwait : ∀ r ∈ rs, r.requestId ∈ ids → r.running = false) :
    tally (·.running) f (rs.map (start ids)) = tally (·.running) f rs + tally (fun r => r.requestId ∈ ids) f rs := by
  induction rs with
  | nil => rfl
  | cons r rs ih =>
    have hrest := ih fun s hs => hwait s (List.mem_cons_of_mem _ hs)
    have hr := hwait r List.mem_cons_self
    rw [List.map_cons, tally_cons, tally_cons, tally_cons, hrest, hf]
    by_cases hin : r.requestId ∈ ids
    · have hstart : (start ids r).running = true := by simp [start, hin]
      simp only [hstart, hr hin, hin, decide_true, if_true, Bool.false_eq_true, if_false]
      omega
    · have hstart : start ids r = r := if_neg hin
      simp only [hstart, hin, decide_false, Bool.false_eq_true, if_false]
      omega

theorem tally_perm {c : SchedulerRequestEvidence → Bool} {rs chosen : List SchedulerRequestEvidence}
    (h : (rs.filter c).Perm chosen) : tally c f rs = (chosen.map f).sum := (h.map f).sum_eq

@[simp] theorem sum_ones (rs : List SchedulerRequestEvidence) : (rs.map fun _ => (1 : Int)).sum = rs.length := by
  induction rs with
  | nil => rfl
  | cons r rs ih =>
    rw [List.map_cons, List.sum_cons, ih, List.length_cons]
    omega

theorem ofTenant_started (ids : List String) (rs : List SchedulerRequestEvidence) (t : String) :
    ofTenant (rs.map (start ids)) t = (ofTenant rs t).map (start ids) := by
  have hsame : ∀ r, (start ids r).tenantId = r.tenantId := by
    intro r
    unfold start
    split <;> rfl
  rw [ofTenant, List.filter_map]
  congr 1
  refine List.filter_congr fun r _ => ?_
  simp only [Function.comp_apply, hsame]

/-! ## What the checks say -/

/-- What a manifest without a risk has, as far as it bears on what runs. -/
structure Clear (p : InferenceSchedulerPolicy) (m : InferenceSchedulerManifest) : Prop where
  requestIds : (m.requests.map (·.requestId)).Nodup
  states : ∀ t ∈ p.allowedTenantIds, ∃ st, states m t = some st ∧ st.activeRequests = number (·.running) (ofTenant m.requests t) ∧
    number (·.running) (ofTenant m.requests t) ≤ limit p.maxConcurrentByTenant t
  activeSlots : m.resources.activeSlots = number (·.running) m.requests
  usedMemory : m.resources.usedMemoryUnits = tally (·.running) (·.memoryUnits) m.requests
  tenant : m.selectedBatch.tenantId ∈ p.allowedTenantIds
  plan : Batch.mk m.selectedBatch.requestIds m.selectedBatch.totalReservedTokens m.selectedBatch.totalMemoryUnits =
    greedyBatch p m.requests m.selectedBatch.tenantId

theorem derive_clear (h : derive rt p m a = .ok []) : Clear p m := by
  simp only [derive, ok_seq] at h
  obtain ⟨hmanifest, h⟩ := h
  have hrisks : risksOf rt p m a = [] := sorted_eq_nil.mp (Except.ok.inj h)
  simp only [validateManifest, ok_seq, raiseIf_ok, not_or, not_not] at hmanifest
  obtain ⟨-, -, ⟨-, hids⟩, -⟩ := hmanifest
  simp only [risksOf, List.append_eq_nil_iff, List.flatMap_eq_nil_iff] at hrisks
  obtain ⟨⟨⟨⟨⟨⟨⟨-, hcoverage⟩, -⟩, htenants⟩, hcapacity⟩, -⟩, hbatch⟩, -⟩ := hrisks
  simp only [coverageRisks, List.append_eq_nil_iff, flag_eq_nil, not_not] at hcoverage
  obtain ⟨-, hcovered⟩ := hcoverage
  simp only [capacityRisks, flag_eq_nil, not_or, not_not, ne_eq] at hcapacity
  obtain ⟨-, -, hactive, -, -, hused, -⟩ := hcapacity
  simp only [batchRisks, List.append_eq_nil_iff, flag_eq_nil, not_or, not_not, ne_eq] at hbatch
  obtain ⟨⟨⟨htenant, -⟩, hplan⟩, -⟩ := hbatch
  refine ⟨hids, fun t ht => ?_, hactive, hused, htenant, hplan⟩
  obtain ⟨st, hst, hid⟩ := List.mem_map.mp (hcovered.2 t ht)
  cases hfound : states m t with
  | none =>
    have hnone := List.find?_eq_none.mp hfound st hst
    exact absurd (by simpa using hid) hnone
  | some st' =>
    have hrisk := htenants t ht
    simp only [hfound, Option.map_some, Option.getD_some, tenantRisks, List.append_eq_nil_iff, flag_eq_nil, not_or, not_not, ne_eq,
      gt_iff_lt, not_lt] at hrisk
    obtain ⟨⟨⟨⟨hconcurrent, -⟩, -⟩, -⟩, -, -, -, -, hcounts⟩ := hrisk
    exact ⟨st', rfl, congrArg Prod.fst hcounts, hconcurrent⟩

/-- Where no risk is attached, the started batch keeps within the limits exactly if there is room for it. -/
theorem startable_iff (h : derive rt p m a = .ok []) : WithinLimits p (startBatch m) ↔ Room p m := by
  have hclear := derive_clear h
  obtain ⟨chosen, hplanned⟩ := planned hclear.requestIds hclear.plan
  have hwait : ∀ r ∈ m.requests, r.requestId ∈ m.selectedBatch.requestIds → r.running = false := by
    intro r hr hin
    exact hplanned.waiting r (hplanned.perm.mem_iff.mp (List.mem_filter.mpr ⟨hr, by simpa using hin⟩))
  have hlength : (m.selectedBatch.requestIds.length : Int) = chosen.length := by
    rw [hplanned.ids, List.length_map]
  have hslots : number (·.running) (startBatch m).requests = m.resources.activeSlots + m.selectedBatch.requestIds.length := by
    rw [number, startBatch, running_started (fun _ => rfl) hwait, tally_perm hplanned.perm, sum_ones, hlength, hclear.activeSlots]
    rfl
  have hmemory : tally (·.running) (·.memoryUnits) (startBatch m).requests =
      m.resources.usedMemoryUnits + m.selectedBatch.totalMemoryUnits := by
    have hsame : ∀ r, (start m.selectedBatch.requestIds r).memoryUnits = r.memoryUnits := by
      intro r
      unfold start
      split <;> rfl
    rw [startBatch, running_started hsame hwait, tally_perm hplanned.perm, hclear.usedMemory, hplanned.memory]
  have htenant : ∀ t, number (·.running) (ofTenant (startBatch m).requests t) =
      number (·.running) (ofTenant m.requests t) + if t = m.selectedBatch.tenantId then (m.selectedBatch.requestIds.length : Int) else 0 := by
    intro t
    have hwait' : ∀ r ∈ ofTenant m.requests t, r.requestId ∈ m.selectedBatch.requestIds → r.running = false := fun r hr =>
      hwait r (List.mem_filter.mp hr).1
    have hperm : ((ofTenant m.requests t).filter fun r => r.requestId ∈ m.selectedBatch.requestIds).Perm
        (chosen.filter fun r => r.tenantId = t) := by
      rw [ofTenant, List.filter_comm]
      exact hplanned.perm.filter _
    rw [startBatch, ofTenant_started, number, running_started (fun _ => rfl) hwait', tally_perm hperm, sum_ones]
    congr 1
    by_cases ht : t = m.selectedBatch.tenantId
    · rw [if_pos ht, hlength, List.filter_eq_self.mpr fun r hr => by simp [hplanned.tenant r hr, ht]]
    · rw [if_neg ht, List.filter_eq_nil_iff.mpr fun r hr => by simp [hplanned.tenant r hr, Ne.symm ht]]
      rfl
  obtain ⟨st, hst, hactive, -⟩ := hclear.states _ hclear.tenant
  constructor
  · intro hwithin
    refine ⟨⟨st, hst, ?_⟩, ?_, ?_⟩
    · have := hwithin.tenants _ hclear.tenant
      rw [htenant, if_pos rfl, ← hactive] at this
      exact this
    · rw [← hslots]
      exact hwithin.slots
    · rw [← hmemory]
      exact hwithin.memory
  · intro hroom
    refine ⟨fun t ht => ?_, ?_, ?_⟩
    · rw [htenant]
      by_cases hbatch : t = m.selectedBatch.tenantId
      · obtain ⟨st', hst', hroom'⟩ := hroom.tenant
        obtain rfl : st = st' := Option.some.inj (hst.symm.trans hst')
        rw [if_pos hbatch, hbatch, ← hactive]
        exact hroom'
      · obtain ⟨_, -, -, hlimit⟩ := hclear.states t ht
        rw [if_neg hbatch]
        omega
    · rw [hslots]
      exact hroom.slots
    · rw [hmemory]
      exact hroom.memory

/-! ## A tenant at its limit -/

namespace Sample

def ledger : String := "875c0ecf8eb2977847173c66f287664d8c95e04b259ba44a4865a893f775079e"

def runtime : Runtime := .folded ledger rfl

def request (id : String) (running : Bool) : SchedulerRequestEvidence where
  requestId := id
  tenantId := "acme"
  sessionId := "tenant/acme/session/s-001"
  sequenceNo := 1
  priorityClass := "normal"
  promptTokens := 100
  maxOutputTokens := 100
  memoryUnits := 2
  queueAgeSeconds := 10
  admitted := true
  running := running
  cancelled := false

/-- One request of the tenant runs, one waits. -/
def manifest : InferenceSchedulerManifest where
  schemaVersion := p10bSchemaVersion
  manifestId := "p10b-manifest"
  createdAtEpoch := 1800
  p10aAssessmentSha256 := hex 'a'
  upstreamRequestId := "request-1"
  upstreamTenantId := "acme"
  upstreamSessionId := "tenant/acme/session/s-001"
  schedulerId := "scheduler-1"
  schedulingEpoch := 1
  requests := [request "request-1" true, request "request-2" false]
  tenantStates := [{ tenantId := "acme", configuredWeight := 1, deficitBefore := 0, serviceUnits := 200, deficitAfter := 200,
                     activeRequests := 1, queuedRequests := 1, reservedTokens := 400, reservedMemoryUnits := 4 }]
  resources := { workerPoolId := "pool-1", totalSlots := 4, activeSlots := 1, totalMemoryUnits := 16, usedMemoryUnits := 2 }
  selectedBatch := { batchId := "batch-1", schedulerId := "scheduler-1", tenantId := "acme", requestIds := ["request-2"],
                     totalReservedTokens := 200, totalMemoryUnits := 2 }
  priorAdmittedRequestIds := []
  priorAdmittedLedgerSha256 := ledger
  networkOperations := 0

/-- The tenant may run one request at a time. -/
def policy : InferenceSchedulerPolicy where
  policyVersion := p10bPolicyVersion
  expectedManifestId := "p10b-manifest"
  expectedManifestSha256 := hex 'b'
  expectedP10aAssessmentSha256 := hex 'a'
  expectedUpstreamRequestId := "request-1"
  expectedUpstreamTenantId := "acme"
  expectedUpstreamSessionId := "tenant/acme/session/s-001"
  allowedSchedulerIds := ["scheduler-1"]
  allowedWorkerPoolIds := ["pool-1"]
  allowedTenantIds := ["acme"]
  tenantWeights := [("acme", 1)]
  maxConcurrentByTenant := [("acme", 1)]
  maxQueueDepthByTenant := [("acme", 4)]
  maxReservedTokensByTenant := [("acme", 600)]
  maxReservedMemoryByTenant := [("acme", 6)]
  allowedPriorityClasses := ["normal"]
  priorityRank := [("normal", 1)]
  maxWaitSecondsByPriority := [("normal", 300)]
  deficitQuantum := 400
  maxDeficitUnits := 5000
  maxRequestTokens := 300
  maxRequestMemoryUnits := 4
  maxGlobalSlots := 4
  maxGlobalReservedTokens := 1200
  maxGlobalMemoryUnits := 16
  maxBatchSize := 2
  maxBatchReservedTokens := 500
  maxBatchMemoryUnits := 6
  expectedPriorAdmittedLedgerSha256 := ledger
  maxManifestAgeSeconds := 300
  maxFutureSkewSeconds := 5

def assessment : VerifiedInferenceTenantIsolationAssessment where
  requestId := "request-1"
  tenantId := "acme"
  sessionId := "tenant/acme/session/s-001"
  decision := .allow
  risks := []
  upstreamDeploymentBound := true
  upstreamPromotionBound := true
  routeIdentityVerified := true
  requestIdentityVerified := true
  batchIsolationVerified := true
  kvAndPrefixCacheIsolationVerified := true
  outputBindingVerified := true
  requestReplayClear := true
  callerDeclaredSafetyTrusted := false
  productionInferenceGatewayIntegrated := false
  productionSchedulerIsolationEnforced := false
  productionKvCacheMemoryIsolationVerified := false
  sideChannelResistanceValidated := false
  hardwareAttestationVerified := false
  assessmentSchemaVersion := p10aAssessmentSchemaVersion
  assessmentMode := p10aAssessmentMode
  assessmentEvidenceSha256 := hex 'a'

theorem derived : derive runtime policy manifest assessment = .ok [] := by
  decide +kernel

/-- No risk is attached to a batch that takes the tenant over its limit. -/
theorem overrun : validatePolicy policy = .ok () ∧ derive runtime policy manifest assessment = .ok [] ∧
    ¬ WithinLimits policy (startBatch manifest) := by
  refine ⟨by decide +kernel, derived, fun hwithin => ?_⟩
  have hrunning := hwithin.tenants "acme" (by decide)
  revert hrunning
  decide +kernel

end Sample

open Sample in
theorem startable_iff_overrun : derive runtime policy manifest assessment = .ok [] ∧
    (WithinLimits policy (startBatch manifest) ↔ Room policy manifest) := ⟨derived, startable_iff derived⟩

end Aegis.Inference.Scheduler
