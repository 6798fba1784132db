/-
  Aegis.Inference.HonestScheduler — the manifest of a scheduler that does what the analyzer expects:
  the tenant whose turn it is, its greedy batch, and the accounts charged for it.

  The batch is filled without regard to what its tenant can pay, and nothing caps what the others
  save up:
  - `fill_empty_iff`: the batch is empty exactly if no waiting request fits into an empty one.
  - `turn_complete`: charging for the batch does not change whose turn it is.
  - `scheduled_iff`: so the manifest is accepted, with no fairness and no batch risk, a batch that is
    not empty and accounts that are within their bounds, exactly if the tenant can pay for its
    batch, some request of it fits, and nobody has more than the bound left.
  - `Sample.penniless`: a tenant that is charged more than it has.
-/

import Aegis.Inference.BatchStart

namespace Aegis.Inference.Scheduler

open Data Checks
open Agentic (Runtime Dict sameSet hex)
open Agentic.Decision (flag flag_eq_nil mem_flag sorted)

variable {rt : Runtime} {p : InferenceSchedulerPolicy} {m : InferenceSchedulerManifest}
  {a : VerifiedInferenceTenantIsolationAssessment}

/-! ## What the scheduler is to answer -/

/-- The tenant whose turn it is. -/
def turn (p : InferenceSchedulerPolicy) (m : InferenceSchedulerManifest) : Option String :=
  (leastOn (turnKey p) (eligibleTenants p m)).map (·.1)

/-- The account of a tenant once a batch is selected. -/
def charge (p : InferenceSchedulerPolicy) (tenant : String) (batch : Batch) (st : TenantSchedulerState) : TenantSchedulerState :=
  let service := if tenant = st.tenantId then batch.tokens else 0
  { st with serviceUnits := service, deficitAfter := credit p st.tenantId st - service }

/-- The manifest with the greedy batch of a tenant, charged to it. -/
def complete (p : InferenceSchedulerPolicy) (m : InferenceSchedulerManifest) (tenant : String) : InferenceSchedulerManifest :=
  let batch := greedyBatch p m.requests tenant
  { m with
    tenantStates := m.tenantStates.map (charge p tenant batch)
    selectedBatch := { m.selectedBatch with
      tenantId := tenant, requestIds := batch.requestIds, totalReservedTokens := batch.tokens, totalMemoryUnits := batch.memory } }

/-- The manifest before anything is selected: an empty batch and nobody served. -/
def draft (m : InferenceSchedulerManifest) : InferenceSchedulerManifest :=
  { m with
    tenantStates := m.tenantStates.map fun st => { st with serviceUnits := 0, deficitAfter := 0 }
    selectedBatch := { m.selectedBatch with
      tenantId := m.upstreamTenantId, requestIds := [], totalReservedTokens := 0, totalMemoryUnits := 0 } }

/-- The requests of a tenant are within its limits, and its state says what they come to. -/
structure Accounted (p : InferenceSchedulerPolicy) (m : InferenceSchedulerManifest) (t : String) (st : TenantSchedulerState) : Prop where
  active : number (·.running) (ofTenant m.requests t) ≤ limit p.maxConcurrentByTenant t
  queued : number (·.queued) (ofTenant m.requests t) ≤ limit p.maxQueueDepthByTenant t
  tokens : tally (·.reserved) (·.tokens) (ofTenant m.requests t) ≤ limit p.maxReservedTokensByTenant t
  memory : tally (·.reserved) (·.memoryUnits) (ofTenant m.requests t) ≤ limit p.maxReservedMemoryByTenant t
  weight : st.configuredWeight = limit p.tenantWeights t
  counts : st.counts = countsOf (ofTenant m.requests t)

/-- Requests, accounts and resources that violate no admission, capacity, priority or starvation check, with a request that waits. -/
structure Ready (p : InferenceSchedulerPolicy) (m : InferenceSchedulerManifest) : Prop where
  policy : validatePolicy p = .ok ()
  wellFormed : validateManifest p (draft m) = .ok ()
  requests : ∀ r ∈ m.requests, requestRisks p r = []
  tenants : ∀ t ∈ p.allowedTenantIds, ∀ st ∈ states m t, Accounted p m t st
  capacity : capacityRisks p m = []
  deficits : ∀ st ∈ m.tenantStates, 0 ≤ st.deficitBefore ∧ st.deficitBefore ≤ p.maxDeficitUnits
  waiting : ∃ r ∈ m.requests, r.eligible = true ∧ r.tenantId ∈ p.allowedTenantIds ∧ r.tenantId ∈ m.tenantStates.map (·.tenantId)

def fairnessAndBatchRisks : List SchedulerRisk := [.fairnessStateMismatch, .fairnessSelectionMismatch, .batchPlanMismatch, .batchCapacityExceeded]

/-- A manifest after which the next round can be scheduled too. -/
structure Scheduled (rt : Runtime) (p : InferenceSchedulerPolicy) (m : InferenceSchedulerManifest)
    (a : VerifiedInferenceTenantIsolationAssessment) : Prop where
  derived : ∃ risks, derive rt p m a = .ok risks ∧ ∀ risk ∈ risks, risk ∉ fairnessAndBatchRisks
  batch : m.selectedBatch.requestIds ≠ []
  deficits : ∀ st ∈ m.tenantStates, 0 ≤ st.deficitAfter ∧ st.deficitAfter ≤ p.maxDeficitUnits

/-- `rt` and the memory of a request, beside nothing else in the batch. -/
def Fits (p : InferenceSchedulerPolicy) (r : SchedulerRequestEvidence) : Prop :=
  r.tokens ≤ p.maxBatchReservedTokens ∧ r.memoryUnits ≤ p.maxBatchMemoryUnits

/-- The tenant has a request that fits and pays for its batch; neither it nor another is left with more than the bound. -/
structure Affordable (p : InferenceSchedulerPolicy) (m : InferenceSchedulerManifest) (t : String) : Prop where
  fits : ∃ r ∈ m.requests, r.tenantId = t ∧ r.eligible = true ∧ Fits p r
  pays : ∀ st ∈ m.tenantStates, st.tenantId = t → (greedyBatch p m.requests t).tokens ≤ credit p t st
  spends : ∀ st ∈ m.tenantStates, st.tenantId = t → credit p t st ≤ p.maxDeficitUnits + (greedyBatch p m.requests t).tokens
  saves : ∀ st ∈ m.tenantStates, st.tenantId ≠ t → credit p st.tenantId st ≤ p.maxDeficitUnits

/-! ## The greedy batch -/

/-- The loop keeps within the limits of a batch. -/
theorem fill_within {b : Batch} (hsize : (b.requestIds.length : Int) ≤ p.maxBatchSize) (htokens : b.tokens ≤ p.maxBatchReservedTokens)
    (hmemory : b.memory ≤ p.maxBatchMemoryUnits) (rs : List SchedulerRequestEvidence) :
    ((fill p b rs).requestIds.length : Int) ≤ p.maxBatchSize ∧ (fill p b rs).tokens ≤ p.maxBatchReservedTokens ∧
      (fill p b rs).memory ≤ p.maxBatchMemoryUnits := by
  induction rs generalizing b with
  | nil => exact ⟨hsize, htokens, hmemory⟩
  | cons r rs ih =>
    unfold fill
    by_cases hfull : p.maxBatchSize ≤ b.requestIds.length
    · rw [if_pos hfull]
      exact ⟨hsize, htokens, hmemory⟩
    rw [if_neg hfull]
    by_cases hfits : b.tokens + r.tokens ≤ p.maxBatchReservedTokens ∧ b.memory + r.memoryUnits ≤ p.maxBatchMemoryUnits
    · rw [if_pos hfits]
      apply ih
      · simp only [List.length_append, List.length_singleton, Nat.cast_add, Nat.cast_one]
        omega
      · exact hfits.1
      · exact hfits.2
    · rw [if_neg hfits]
      exact ih hsize htokens hmemory

theorem fill_grows {rs : List SchedulerRequestEvidence} (h : ∀ r ∈ rs, 0 ≤ r.tokens ∧ 0 ≤ r.memoryUnits) (b : Batch) :
    b.tokens ≤ (fill p b rs).tokens ∧ b.memory ≤ (fill p b rs).memory := by
  induction rs generalizing b with
  | nil => exact ⟨le_refl _, le_refl _⟩
  | cons r rs ih =>
    have hrest := ih fun s hs => h s (List.mem_cons_of_mem _ hs)
    have hr := h r List.mem_cons_self
    unfold fill
    split
    · exact ⟨le_refl _, le_refl _⟩
    · split
      · have hnext := hrest ⟨b.requestIds ++ [r.requestId], b.tokens + r.tokens, b.memory + r.memoryUnits⟩
        dsimp only at hnext
        omega
      · exact hrest b

/-- Nothing is chosen exactly if nothing fits. -/
theorem fill_empty_iff (hsize : 0 < p.maxBatchSize) (rs : List SchedulerRequestEvidence) :
    (fill p ⟨[], 0, 0⟩ rs).requestIds = [] ↔ ∀ r ∈ rs, ¬ Fits p r := by
  induction rs with
  | nil => simp [fill]
  | cons r rs ih =>
    unfold fill
    have hroom : ¬ p.maxBatchSize ≤ (([] : List String).length : Int) := by
      simpa using hsize
    rw [if_neg hroom, List.forall_mem_cons]
    simp only [Int.zero_add]
    by_cases hfits : Fits p r
    · rw [if_pos (show r.tokens ≤ p.maxBatchReservedTokens ∧ r.memoryUnits ≤ p.maxBatchMemoryUnits from hfits)]
      obtain ⟨chosen, -, hids, -⟩ := fill_chosen (p := p) ⟨[] ++ [r.requestId], r.tokens, r.memoryUnits⟩ rs
      rw [hids]
      simp [hfits]
    · rw [if_neg (show ¬ (r.tokens ≤ p.maxBatchReservedTokens ∧ r.memoryUnits ≤ p.maxBatchMemoryUnits) from hfits), ih]
      exact ⟨fun h => ⟨hfits, h⟩, fun h => h.2⟩

variable {t tenant : String} {r : SchedulerRequestEvidence} {st : TenantSchedulerState}

theorem mem_candidates : r ∈ candidates p m.requests t ↔ r ∈ m.requests ∧ r.tenantId = t ∧ r.eligible = true := by
  unfold candidates
  rw [mem_sortOn, List.mem_filter, Bool.and_eq_true, decide_eq_true_eq]

/-! ## Whose turn it is -/

section Least

variable {α κ : Type} [LinearOrder κ] {key : α → κ} {xs : List α}

theorem leastOn_mem {x : α} (h : leastOn key xs = some x) : x ∈ xs := by
  have hfold : ∀ (ys : List α) (y : α), ys.foldl (fun best z => if key z < key best then z else best) y ∈ y :: ys := by
    intro ys
    induction ys with
    | nil => exact fun y => List.mem_singleton_self y
    | cons z zs ih =>
      intro y
      rw [List.foldl_cons]
      split
      · exact List.mem_cons_of_mem _ (ih z)
      · rcases List.mem_cons.mp (ih y) with h | h
        · rw [h]
          exact List.mem_cons_self
        · exact List.mem_cons_of_mem _ (List.mem_cons_of_mem _ h)
  cases xs with
  | nil => cases h
  | cons y ys =>
    rw [← Option.some.inj h]
    exact hfold ys y

theorem leastOn_map {β : Type} {f : β → α} {ys : List β} : leastOn key (ys.map f) = (leastOn (fun y => key (f y)) ys).map f := by
  cases ys with
  | nil => rfl
  | cons y ys =>
    show some _ = some _
    congr 1
    induction ys generalizing y with
    | nil => rfl
    | cons z zs ih =>
      rw [List.map_cons, List.foldl_cons, List.foldl_cons]
      split
      · exact ih z
      · exact ih y

end Least

section Charge

variable {tenant : String} {batch : Batch} {st : TenantSchedulerState}

end Charge

theorem states_complete :
    states (complete p m tenant) t = (states m t).map (charge p tenant (greedyBatch p m.requests tenant)) := by
  unfold states complete Dict.ofItems
  rw [List.find?_map]
  rfl

theorem eligibleTenants_complete : eligibleTenants p (complete p m tenant) =
    (eligibleTenants p m).map fun e => (e.1, charge p tenant (greedyBatch p m.requests tenant) e.2) := by
  unfold eligibleTenants
  rw [List.map_filterMap]
  refine List.filterMap_congr fun t _ => ?_
  rw [states_complete]
  show (if (ofTenant m.requests t).any (·.eligible) = true then _ else _) = _
  split
  · rw [Option.map_map, Option.map_map]
    rfl
  · rfl

/-- Charging for the batch does not change whose turn it is. -/
theorem turn_complete : turn p (complete p m tenant) = turn p m := by
  unfold turn
  rw [eligibleTenants_complete, leastOn_map, Option.map_map]
  rfl

theorem turn_spec (h : turn p m = some t) : t ∈ p.allowedTenantIds ∧ ∃ st ∈ m.tenantStates, states m t = some st ∧ st.tenantId = t := by
  obtain ⟨e, hleast, rfl⟩ := Option.map_eq_some_iff.mp h
  obtain ⟨t, ht, he⟩ := List.mem_filterMap.mp (leastOn_mem hleast)
  split_ifs at he
  obtain ⟨st, hst, rfl⟩ := Option.map_eq_some_iff.mp he
  obtain ⟨hmem, hid⟩ := Dict.ofItems_mem hst
  exact ⟨ht, st, hmem, hst, hid⟩

section

variable (h : Ready p m)
include h

theorem Ready.turn_exists : ∃ t, turn p m = some t := by
  obtain ⟨r, hr, heligible, hallowed, hstate⟩ := h.waiting
  obtain ⟨st, hst, hid⟩ := List.mem_map.mp hstate
  have hfound : ∃ st', states m r.tenantId = some st' :=
    Option.isSome_iff_exists.mp (List.find?_isSome.mpr ⟨st, hst, by simpa using hid⟩)
  obtain ⟨st', hst'⟩ := hfound
  have hany : (ofTenant m.requests r.tenantId).any (·.eligible) = true :=
    List.any_eq_true.mpr ⟨r, List.mem_filter.mpr ⟨hr, by simp⟩, heligible⟩
  have hmem : (r.tenantId, st') ∈ eligibleTenants p m := by
    refine List.mem_filterMap.mpr ⟨r.tenantId, hallowed, ?_⟩
    rw [if_pos hany, hst']
    rfl
  unfold turn
  cases hlist : eligibleTenants p m with
  | nil =>
    rw [hlist] at hmem
    cases hmem
  | cons e es => exact ⟨_, rfl⟩


/-! ## The manifest is accepted -/

/-- The requests of a draft that is well formed. -/
theorem Ready.request (hr : r ∈ m.requests) : 0 ≤ r.tokens ∧ 0 ≤ r.memoryUnits := by
  have hmanifest := h.wellFormed
  simp only [validateManifest, ok_seq, forEach_ok] at hmanifest
  obtain ⟨-, -, -, hrequests, -⟩ := hmanifest
  have hrequest := hrequests r hr
  simp only [validateRequest, ok_seq, raiseIf_ok, not_or, not_exists, not_and, not_lt, List.forall_mem_cons] at hrequest
  obtain ⟨⟨-, -, hprompt, houtput, hmemory, -⟩, -⟩ := hrequest
  refine ⟨?_, hmemory⟩
  unfold SchedulerRequestEvidence.tokens
  omega

theorem Ready.requestIds : (m.requests.map (·.requestId)).Nodup := by
  have hmanifest := h.wellFormed
  simp only [validateManifest, ok_seq, raiseIf_ok, not_or, not_not] at hmanifest
  exact hmanifest.2.2.1.2

theorem Ready.batchNodup (t : String) : (greedyBatch p m.requests t).requestIds.Nodup := by
  obtain ⟨chosen, hsub, hids, -⟩ := fill_chosen (p := p) ⟨[], 0, 0⟩ (candidates p m.requests t)
  have hall : ((candidates p m.requests t).map (·.requestId)).Nodup := by
    refine (((perm_sortOn _ _).map _).nodup_iff).mpr ?_
    exact h.requestIds.sublist (List.filter_sublist.map _)
  unfold greedyBatch
  rw [hids, List.nil_append]
  exact hall.sublist (hsub.map _)

theorem Ready.batchNonneg (t : String) : 0 ≤ (greedyBatch p m.requests t).tokens ∧ 0 ≤ (greedyBatch p m.requests t).memory :=
  fill_grows (fun _ hr => h.request (mem_candidates.mp hr).1) ⟨[], 0, 0⟩

/-- What the other fields say is as in the draft; what is charged must leave nobody with less than nothing. -/
theorem Ready.accepted_iff (ht : turn p m = some t) :
    validateManifest p (complete p m t) = .ok () ↔ ∀ st ∈ (complete p m t).tenantStates, 0 ≤ st.deficitAfter := by
  have hmanifest := h.wellFormed
  obtain ⟨htokens, hmemory⟩ := h.batchNonneg t
  simp only [validateManifest, ok_seq, raiseIf_ok, forEach_ok] at hmanifest
  obtain ⟨hidentity, hupstream, hids, hrequests, hnodup, hstates, hresources, hbatch, hledger⟩ := hmanifest
  have hstate : ∀ st ∈ m.tenantStates, isId st.tenantId = true ∧ 0 ≤ st.configuredWeight ∧ 0 ≤ st.deficitBefore ∧ 0 ≤ st.activeRequests ∧
      0 ≤ st.queuedRequests ∧ 0 ≤ st.reservedTokens ∧ 0 ≤ st.reservedMemoryUnits := by
    intro st hst
    have hvalid := hstates _ (List.mem_map_of_mem hst)
    simp only [validateTenantState, raiseIf_ok, not_or, Bool.not_eq_false, not_exists, not_and, not_lt, List.forall_mem_cons] at hvalid
    obtain ⟨hid, hweight, hbefore, -, -, hactive, hqueued, htok, hmem, -⟩ := hvalid
    exact ⟨hid, hweight, hbefore, hactive, hqueued, htok, hmem⟩
  obtain ⟨-, st, hst, -, rfl⟩ := turn_spec ht
  have htenant := (hstate st hst).1
  constructor
  · intro hvalid st' hst'
    simp only [validateManifest, ok_seq, forEach_ok] at hvalid
    obtain ⟨-, -, -, -, -, hcharged, -⟩ := hvalid
    have hcheck := hcharged st' hst'
    simp only [validateTenantState, raiseIf_ok, not_or, not_exists, not_and, not_lt, List.forall_mem_cons] at hcheck
    exact hcheck.2.2.2.2.1
  · intro hleft
    simp only [validateManifest, ok_seq, raiseIf_ok, forEach_ok]
    refine ⟨hidentity, hupstream, hids, hrequests, ?_, ?_, hresources, ?_, hledger⟩
    · simp only [draft, complete, List.map_map] at hnodup ⊢
      exact hnodup
    · intro st' hst'
      have hafter := hleft st' hst'
      obtain ⟨st0, hst0, rfl⟩ := List.mem_map.mp hst'
      obtain ⟨hid, hweight, hbefore, hactive, hqueued, htok, hmem⟩ := hstate st0 hst0
      have hservice : 0 ≤ (charge p st.tenantId (greedyBatch p m.requests st.tenantId) st0).serviceUnits := by
        unfold charge
        dsimp only
        split
        · exact htokens
        · exact le_refl _
      simp only [validateTenantState, raiseIf_ok, not_or, Bool.not_eq_false, not_exists, not_and, not_lt, List.forall_mem_cons]
      exact ⟨hid, hweight, hbefore, hservice, hafter, hactive, hqueued, htok, hmem, fun _ hx => by cases hx⟩
    · simp only [not_or, not_not, not_lt, List.forall_mem_cons] at hbatch ⊢
      obtain ⟨⟨hbatchId, hscheduler, -, -⟩, -⟩ := hbatch
      exact ⟨⟨hbatchId, hscheduler, htenant, fun _ hx => by cases hx⟩, h.batchNodup st.tenantId, htokens, hmemory⟩

/-! ## No fairness and no batch risk -/

theorem Ready.credit_nonneg (hst : st ∈ m.tenantStates) : 0 ≤ credit p st.tenantId st := by
  have hpolicy := h.policy
  simp only [validatePolicy, ok_seq, raiseIf_ok, not_or, not_exists, not_and, not_lt, not_le] at hpolicy
  obtain ⟨-, -, -, -, -, -, -, ⟨hweights, -⟩, -, -, hbounds⟩ := hpolicy
  have hquantum : 0 < p.deficitQuantum := hbounds _ (by simp)
  have hweight : 0 ≤ limit p.tenantWeights st.tenantId := by
    unfold limit Dict.mapping
    cases hfind : p.tenantWeights.find? fun e => e.1 = st.tenantId with
    | none => exact le_refl _
    | some e => exact (hweights e (List.mem_of_find?_eq_some hfind)).le
  have hbefore := (h.deficits st hst).1
  have hgain := Int.mul_nonneg hweight hquantum.le
  unfold credit
  omega

theorem Ready.tenantRisks_complete {t' : String} (ht' : t' ∈ p.allowedTenantIds)
    (hst : states m t' = some st) : tenantRisks p (complete p m t) t' (charge p t (greedyBatch p m.requests t) st) = [] := by
  have haccounted := h.tenants t' ht' st hst
  obtain ⟨hmem, rfl⟩ := Dict.ofItems_mem hst
  have hdeficit := (h.deficits st hmem).2
  simp only [tenantRisks, List.append_eq_nil_iff, flag_eq_nil, not_or, not_not, not_lt, gt_iff_lt, ne_eq]
  exact ⟨⟨⟨⟨haccounted.active, haccounted.queued⟩, haccounted.tokens⟩, haccounted.memory⟩,
    haccounted.weight, hdeficit, rfl, rfl, haccounted.counts⟩

theorem Ready.batchRisks_complete (ht : t ∈ p.allowedTenantIds) : batchRisks p (complete p m t) = [] := by
  have hpolicy := h.policy
  simp only [validatePolicy, ok_seq, raiseIf_ok, not_or, not_exists, not_and, not_lt, not_le] at hpolicy
  obtain ⟨-, -, -, -, -, -, -, -, -, hbounds, -⟩ := hpolicy
  have hwithin := fill_within (p := p) (b := ⟨[], 0, 0⟩) (hbounds p.maxBatchSize (by simp [InferenceSchedulerPolicy.bounds]))
    (hbounds p.maxBatchReservedTokens (by simp [InferenceSchedulerPolicy.bounds]))
    (hbounds p.maxBatchMemoryUnits (by simp [InferenceSchedulerPolicy.bounds])) (candidates p m.requests t)
  have hchosen : ∀ i ∈ (greedyBatch p m.requests t).requestIds, ∃ r ∈ m.requests, r.requestId = i ∧ r.tenantId = t := by
    intro i hi
    obtain ⟨chosen, hsub, hids, -⟩ := fill_chosen (p := p) ⟨[], 0, 0⟩ (candidates p m.requests t)
    unfold greedyBatch at hi
    rw [hids, List.nil_append] at hi
    obtain ⟨r, hr, rfl⟩ := List.mem_map.mp hi
    have hcandidate := mem_candidates.mp (hsub.subset hr)
    exact ⟨r, hcandidate.1, rfl, hcandidate.2.1⟩
  simp only [batchRisks, List.append_eq_nil_iff, flag_eq_nil, not_or, not_not, not_lt, gt_iff_lt, ne_eq, not_exists, not_and]
  refine ⟨⟨⟨ht, fun i hi hnone => ?_⟩, rfl⟩, hwithin⟩
  obtain ⟨r, hr, hid, htenant⟩ := hchosen i hi
  exact hnone r hr hid htenant

/-- The analyzer finds what it would have chosen itself. -/
theorem Ready.fair (ht : turn p m = some t) {risk : SchedulerRisk} (hrisk : risk ∈ risksOf rt p (complete p m t) a) :
    risk ∉ fairnessAndBatchRisks := by
  have hturn : turn p (complete p m t) = some t := turn_complete.trans ht
  have hselection : selectionRisks p (complete p m t) = [] := by
    obtain ⟨e, hleast, hid⟩ := Option.map_eq_some_iff.mp hturn
    unfold selectionRisks
    rw [hleast]
    exact flag_eq_nil.mpr (not_not_intro hid.symm)
  have htenants : ∀ t' ∈ p.allowedTenantIds, ((states (complete p m t) t').map (tenantRisks p (complete p m t) t')).getD [] = [] := by
    intro t' ht'
    rw [states_complete]
    cases hst : states m t' with
    | none => rfl
    | some st => exact h.tenantRisks_complete ht' hst
  have htenants' := List.flatMap_eq_nil_iff.mpr htenants
  simp only [risksOf, htenants', hselection, h.batchRisks_complete (turn_spec ht).1, List.append_nil, List.mem_append, List.mem_flatMap,
    bindingRisks, coverageRisks, requestRisks, capacityRisks, ledgerRisks, mem_flag] at hrisk
  unfold fairnessAndBatchRisks
  aesop

end

/-- The manifest of a scheduler that does as the analyzer expects is accepted, and the next round can be scheduled too, exactly if
its tenant can pay for the batch, some request of it fits and nobody saves up more than the bound. -/
theorem scheduled_iff (h : Ready p m) : ∃ t, turn p m = some t ∧ (Scheduled rt p (complete p m t) a ↔ Affordable p m t) := by
  obtain ⟨t, ht⟩ := h.turn_exists
  refine ⟨t, ht, ?_⟩
  have hsize : 0 < p.maxBatchSize := by
    have hpolicy := h.policy
    simp only [validatePolicy, ok_seq, raiseIf_ok, not_or, not_exists, not_and, not_lt, not_le] at hpolicy
    obtain ⟨-, -, -, -, -, -, -, -, -, -, hpositive⟩ := hpolicy
    exact hpositive _ (by simp)
  have hbatch : (greedyBatch p m.requests t).requestIds ≠ [] ↔ ∃ r ∈ m.requests, r.tenantId = t ∧ r.eligible = true ∧ Fits p r := by
    unfold greedyBatch
    rw [ne_eq, fill_empty_iff hsize]
    simp only [not_forall, not_not, mem_candidates, exists_prop, and_assoc]
  have hafter : ∀ st ∈ m.tenantStates, (charge p t (greedyBatch p m.requests t) st).deficitAfter =
      credit p st.tenantId st - if t = st.tenantId then (greedyBatch p m.requests t).tokens else 0 := fun st _ => rfl
  constructor
  · intro hscheduled
    have hbounds : ∀ st ∈ m.tenantStates, 0 ≤ (charge p t (greedyBatch p m.requests t) st).deficitAfter ∧
        (charge p t (greedyBatch p m.requests t) st).deficitAfter ≤ p.maxDeficitUnits := fun st hst =>
      hscheduled.deficits _ (List.mem_map_of_mem hst)
    refine ⟨hbatch.mp hscheduled.batch, ?_, ?_, ?_⟩
    · intro st hst hid
      have hbound := (hbounds st hst).1
      rw [hafter st hst, if_pos hid.symm, hid] at hbound
      omega
    · intro st hst hid
      have hbound := (hbounds st hst).2
      rw [hafter st hst, if_pos hid.symm, hid] at hbound
      omega
    · intro st hst hid
      have hbound := (hbounds st hst).2
      rw [hafter st hst, if_neg (Ne.symm hid)] at hbound
      omega
  · intro haffordable
    have hbounds : ∀ st ∈ (complete p m t).tenantStates, 0 ≤ st.deficitAfter ∧ st.deficitAfter ≤ p.maxDeficitUnits := by
      intro st' hst'
      obtain ⟨st, hst, rfl⟩ := List.mem_map.mp hst'
      rw [hafter st hst]
      by_cases hid : st.tenantId = t
      · have hpays := haffordable.pays st hst hid
        have hspends := haffordable.spends st hst hid
        rw [if_pos hid.symm, hid]
        omega
      · have hsaves := haffordable.saves st hst hid
        have hcredit := h.credit_nonneg hst
        rw [if_neg (Ne.symm hid)]
        omega
    refine ⟨⟨sorted SchedulerRisk.value (risksOf rt p (complete p m t) a), ?_, ?_⟩, hbatch.mpr haffordable.fits, hbounds⟩
    · unfold derive
      rw [(h.accepted_iff ht).mpr fun st hst => (hbounds st hst).1]
      rfl
    · intro risk hrisk
      unfold sorted at hrisk
      rw [mem_sortOn, List.mem_dedup] at hrisk
      exact h.fair ht hrisk

/-! ## A tenant that cannot pay -/

namespace Sample

/-- The tenant is given 100 units a round; its waiting request takes 200 tokens. -/
def poorPolicy : InferenceSchedulerPolicy := { policy with deficitQuantum := 100 }

theorem accounted (t : String) (ht : t ∈ policy.allowedTenantIds) (st : TenantSchedulerState) (hst : st ∈ states manifest t) :
    Accounted policy manifest t st := by
  obtain rfl := List.mem_singleton.mp ht
  obtain rfl := Option.some.inj hst
  exact ⟨by decide, by decide, by decide, by decide, by decide, by decide⟩

theorem ready : Ready policy manifest where
  policy := by decide +kernel
  wellFormed := by decide +kernel
  requests := by decide
  tenants := accounted
  capacity := by decide
  deficits := by decide
  waiting := ⟨request "request-2" false, by decide, by decide, by decide, by decide⟩

theorem poor_ready : Ready poorPolicy manifest where
  policy := by decide +kernel
  wellFormed := by decide +kernel
  requests := by decide
  tenants t ht st hst :=
    have h := accounted t ht st hst
    ⟨h.active, h.queued, h.tokens, h.memory, h.weight, h.counts⟩
  capacity := by decide
  deficits := by decide
  waiting := ⟨request "request-2" false, by decide, by decide, by decide, by decide⟩

/-- It is charged more than it has, and the manifest that says so is malformed. -/
theorem penniless : Ready poorPolicy manifest ∧ turn poorPolicy manifest = some "acme" ∧
    ¬ Scheduled runtime poorPolicy (complete poorPolicy manifest "acme") assessment := by
  refine ⟨poor_ready, by decide +kernel, fun hscheduled => ?_⟩
  obtain ⟨risks, hderived, -⟩ := hscheduled.derived
  simp only [derive, ok_seq] at hderived
  have hmalformed : validateManifest poorPolicy (complete poorPolicy manifest "acme") ≠ .ok () := by decide +kernel
  exact hmalformed hderived.1

end Sample

open Sample in
theorem scheduled_iff_paid : ∃ t, turn policy manifest = some t ∧
    (Scheduled runtime policy (complete policy manifest t) assessment ↔ Affordable policy manifest t) := scheduled_iff ready

end Aegis.Inference.Scheduler
