/-
  Aegis.Agentic.PinnedBudgets — what the digest of an execution-budget manifest settles of its
  results.

  - `alike_of_digest`: manifests of one digest whose texts are of one spelling list the same items,
    in some order and but for what the analyzer does not read.
  - `Shared`: what the dicts of such manifests have in common; everything the analyzer computes is
    computed from it, so `derive` gives both the same facts (`derive_of_digest`).
-/

import Aegis.Agentic.CanonicalForm
import Aegis.Agentic.Ceilings
import Mathlib.Algebra.BigOperators.Group.List.Basic

namespace Aegis.Agentic.ExecutionBudget

open Data Evidence Checked
open Decision (Folds SameDigest OneSpelling Told eq_of_normText sameDigest_of_normText member_of_normText told_of_oneSpelling
  shownItem paired_of_normItems)

variable {rt : Runtime} {p : ExecutionBudgetPolicy} {m m' : ExecutionBudgetManifest} {up : Upstreams} {now : Int}

/-! ## What the analyzer reads -/

/-- An item without the texts no check reads. -/
def ModelCostRate.bare (r : ModelCostRate) : ModelCostRate := { r with description := "" }

def BudgetEnvelope.bare (b : BudgetEnvelope) : BudgetEnvelope := { b with description := "" }

def BudgetAllocation.bare (a : BudgetAllocation) : BudgetAllocation := { a with delegatorAgentId := "", description := "" }

def ExecutionRun.bare (r : ExecutionRun) : ExecutionRun := { r with description := "" }

def ExecutionEvent.bare (e : ExecutionEvent) : ExecutionEvent := { e with agentId := "", description := "" }

/-- The other texts, digests apart. -/
def ModelCostRate.texts (r : ModelCostRate) : List String := [r.modelId, r.ownerId]

def BudgetEnvelope.texts (b : BudgetEnvelope) : List String :=
  [b.budgetId, b.originalPrincipalId, b.tenantId, b.goalId, b.ownerId] ++ b.delegationId.toList

def BudgetAllocation.texts (a : BudgetAllocation) : List String :=
  [a.allocationId, a.parentBudgetId, a.childBudgetId, a.delegateeAgentId, a.delegationId, a.ownerId]

def ExecutionRun.texts (r : ExecutionRun) : List String := [r.runId, r.rootBudgetId, r.originalPrincipalId, r.tenantId, r.goalId, r.ownerId]

def ExecutionEvent.texts (e : ExecutionEvent) : List String :=
  [e.eventId, e.runId, e.budgetId, e.operationKey, e.originalPrincipalId, e.tenantId, e.goalId, e.stepId, e.ownerId] ++
    e.parentEventId.toList ++ e.delegationId.toList ++ e.modelId.toList ++ e.p8dObservationId.toList

def ExecutionBudgetManifest.texts (m : ExecutionBudgetManifest) : List String :=
  [m.graphId, m.version] ++ m.modelRates.flatMap ModelCostRate.texts ++ m.budgets.flatMap BudgetEnvelope.texts ++
    m.allocations.flatMap BudgetAllocation.texts ++ m.runs.flatMap ExecutionRun.texts ++ m.events.flatMap ExecutionEvent.texts

/-- The manifests list the same items. -/
structure Alike (rt : Runtime) (m m' : ExecutionBudgetManifest) : Prop where
  graphId : m.graphId = m'.graphId
  version : m.version = m'.version
  createdAtEpoch : m.createdAtEpoch = m'.createdAtEpoch
  schemaVersion : m.schemaVersion = budgetSchemaVersion → m'.schemaVersion = budgetSchemaVersion
  p8a : SameDigest rt m.p8aAssessmentEvidenceSha256 m'.p8aAssessmentEvidenceSha256
  p8c : SameDigest rt m.p8cAssessmentEvidenceSha256 m'.p8cAssessmentEvidenceSha256
  p8d : SameDigest rt m.p8dAssessmentEvidenceSha256 m'.p8dAssessmentEvidenceSha256
  modelRates : AlikeBy ModelCostRate.bare m.modelRates m'.modelRates
  budgets : AlikeBy BudgetEnvelope.bare m.budgets m'.budgets
  allocations : AlikeBy BudgetAllocation.bare m.allocations m'.allocations
  runs : AlikeBy ExecutionRun.bare m.runs m'.runs
  events : AlikeBy ExecutionEvent.bare m.events m'.events
  digest : m.digest rt = m'.digest rt

theorem ModelCostRate.of_bare {r r' : ModelCostRate} (h : r.bare = r'.bare) : ∃ description, r' = { r with description := description } :=
  ⟨r'.description, (congrArg (fun x : ModelCostRate => { x with description := r'.description }) h).symm⟩

theorem BudgetEnvelope.of_bare {b b' : BudgetEnvelope} (h : b.bare = b'.bare) : ∃ description, b' = { b with description := description } :=
  ⟨b'.description, (congrArg (fun x : BudgetEnvelope => { x with description := b'.description }) h).symm⟩

theorem BudgetAllocation.of_bare {a a' : BudgetAllocation} (h : a.bare = a'.bare) :
    ∃ delegator description, a' = { a with delegatorAgentId := delegator, description := description } :=
  ⟨a'.delegatorAgentId, a'.description,
    (congrArg (fun x : BudgetAllocation => { x with delegatorAgentId := a'.delegatorAgentId, description := a'.description }) h).symm⟩

theorem ExecutionRun.of_bare {r r' : ExecutionRun} (h : r.bare = r'.bare) : ∃ description, r' = { r with description := description } :=
  ⟨r'.description, (congrArg (fun x : ExecutionRun => { x with description := r'.description }) h).symm⟩

theorem ExecutionEvent.of_bare {e e' : ExecutionEvent} (h : e.bare = e'.bare) :
    ∃ agentId description, e' = { e with agentId := agentId, description := description } :=
  ⟨e'.agentId, e'.description,
    (congrArg (fun x : ExecutionEvent => { x with agentId := e'.agentId, description := e'.description }) h).symm⟩

/-! ## Manifests of one digest -/

theorem ExecutionEventType.value_injective : Function.Injective ExecutionEventType.value := by
  intro a b h
  cases a <;> cases b <;> simp_all [ExecutionEventType.value]

theorem ExecutionEventType.length_value (x : ExecutionEventType) : x.value.length ≠ 64 := by
  cases x <;> decide

theorem rate_bare {r r' : ModelCostRate} (htold : Told rt r.texts r'.texts)
    (h : shownItem rt ModelCostRate.toDict r = shownItem rt ModelCostRate.toDict r') : r.bare = r'.bare := by
  simp only [shownItem, ModelCostRate.toDict, Json.entries_obj, List.map_cons, List.map_nil, Canonical.normItem.normValue, Json.sorted,
    List.cons.injEq, Json.str.injEq, Json.int.injEq, and_true] at h
  obtain ⟨hid, hinput, houtput, howner, -⟩ := h
  have hid := htold r.modelId (by simp [ModelCostRate.texts]) r'.modelId (by simp [ModelCostRate.texts]) hid
  have howner := htold r.ownerId (by simp [ModelCostRate.texts]) r'.ownerId (by simp [ModelCostRate.texts]) howner
  simp only [ModelCostRate.bare, hid, hinput, houtput, howner]

theorem allocation_bare {a a' : BudgetAllocation} (htold : Told rt a.texts a'.texts)
    (h : shownItem rt BudgetAllocation.toDict a = shownItem rt BudgetAllocation.toDict a') : a.bare = a'.bare := by
  simp only [shownItem, BudgetAllocation.toDict, Json.entries_obj, List.map_cons, List.map_nil, Canonical.normItem.normValue, Json.sorted,
    List.cons.injEq, Json.str.injEq, and_true] at h
  obtain ⟨hid, hparent, hchild, -, hdelegatee, hdelegation, howner, -⟩ := h
  have htexts := htold.all (by simp [BudgetAllocation.texts, hid, hparent, hchild, hdelegatee, hdelegation, howner])
  simp only [BudgetAllocation.texts, List.cons.injEq] at htexts
  simp only [BudgetAllocation.bare, htexts]

theorem run_bare {r r' : ExecutionRun} (htold : Told rt r.texts r'.texts)
    (h : shownItem rt ExecutionRun.toDict r = shownItem rt ExecutionRun.toDict r') : r.bare = r'.bare := by
  simp only [shownItem, ExecutionRun.toDict, Json.entries_obj, List.map_cons, List.map_nil, Canonical.normItem.normValue, Json.sorted,
    List.cons.injEq, Json.str.injEq, Json.int.injEq, and_true] at h
  obtain ⟨hid, hroot, hprincipal, htenant, hgoal, hstarted, hcompleted, howner, -⟩ := h
  have htexts := htold.all (by simp [ExecutionRun.texts, hid, hroot, hprincipal, htenant, hgoal, howner])
  simp only [ExecutionRun.texts, List.cons.injEq] at htexts
  simp only [ExecutionRun.bare, htexts, hstarted, hcompleted]

theorem budget_bare {b b' : BudgetEnvelope} (htold : Told rt b.texts b'.texts)
    (h : shownItem rt BudgetEnvelope.toDict b = shownItem rt BudgetEnvelope.toDict b') : b.bare = b'.bare := by
  simp only [shownItem, BudgetEnvelope.toDict, Json.entries_obj, List.map_cons, List.map_nil, Decision.normValue_opt,
    Decision.sorted_optText, Decision.optText_inj, List.cons.injEq, and_true] at h
  simp only [Canonical.normItem.normValue, Json.sorted, Json.str.injEq, Json.int.injEq] at h
  obtain ⟨hid, hprincipal, htenant, hgoal, hdelegation, h1, h2, h3, h4, h5, h6, h7, h8, h9, h10, h11, h12, howner, -⟩ := h
  have htexts := htold.all (by simp [BudgetEnvelope.texts, ← Option.toList_map, hid, hprincipal, htenant, hgoal, howner, hdelegation])
  have hmem : ∀ (b : BudgetEnvelope) (s : String), s ∈ b.delegationId → s ∈ b.texts := by
    intro b s hs
    simp [BudgetEnvelope.texts, Option.mem_def.mp hs]
  have hdelegation := htold.opt (hmem b) (hmem b') hdelegation
  simp only [BudgetEnvelope.texts, List.cons_append, List.cons.injEq] at htexts
  simp only [BudgetEnvelope.bare, htexts, hdelegation, h1, h2, h3, h4, h5, h6, h7, h8, h9, h10, h11, h12]

theorem optional_texts (e : ExecutionEvent) :
    ∀ o ∈ [e.parentEventId, e.delegationId, e.modelId, e.p8dObservationId], ∀ s ∈ o, s ∈ e.texts := by
  intro o ho s hs
  simp only [List.mem_cons, List.not_mem_nil, or_false] at ho
  rcases ho with rfl | rfl | rfl | rfl
  all_goals simp [ExecutionEvent.texts, Option.mem_def.mp hs]

theorem event_bare (hfolds : Folds rt) {e e' : ExecutionEvent} (htold : Told rt e.texts e'.texts)
    (h : shownItem rt ExecutionEvent.toDict e = shownItem rt ExecutionEvent.toDict e') : e.bare = e'.bare := by
  simp only [shownItem, ExecutionEvent.toDict, Json.entries_obj, List.map_cons, List.map_nil, Decision.normValue_opt,
    Decision.sorted_optText, Decision.optText_inj, List.cons.injEq, and_true] at h
  simp only [Canonical.normItem.normValue, Json.sorted, Json.str.injEq, Json.int.injEq, Json.bool.injEq] at h
  obtain ⟨hid, hrun, hparent, hbudget, htype, hoperation, -, hprincipal, htenant, hgoal, hstep, hdelegation, hmodel, hinput, houtput,
    hclaimed, hattempt, hstarted, hended, hirreversible, hobservation, howner, -⟩ := h
  have htexts := htold.all (by simp [ExecutionEvent.texts, ← Option.toList_map, hid, hrun, hbudget, hoperation, hprincipal, htenant,
    hgoal, hstep, howner, hparent, hdelegation, hmodel, hobservation])
  simp only [ExecutionEvent.texts, List.append_assoc, List.cons_append, List.cons.injEq] at htexts
  have hparent := htold.opt (optional_texts e e.parentEventId (by simp)) (optional_texts e' e'.parentEventId (by simp)) hparent
  have hdelegation := htold.opt (optional_texts e e.delegationId (by simp)) (optional_texts e' e'.delegationId (by simp)) hdelegation
  have hmodel := htold.opt (optional_texts e e.modelId (by simp)) (optional_texts e' e'.modelId (by simp)) hmodel
  have hobservation := htold.opt (optional_texts e e.p8dObservationId (by simp)) (optional_texts e' e'.p8dObservationId (by simp)) hobservation
  have htype := member_of_normText hfolds ExecutionEventType.value_injective ExecutionEventType.length_value htype
  simp only [ExecutionEvent.bare, htexts, hparent, htype, hdelegation, hmodel, hinput, houtput, hclaimed, hattempt, hstarted, hended,
    hirreversible, hobservation]

theorem texts_subset {α : Type} {texts : α → List String} {xs : List α} {all : List String} (h : xs.flatMap texts ⊆ all) {x : α} (hx : x ∈ xs) :
    texts x ⊆ all := fun _ hs => h (List.mem_flatMap.mpr ⟨x, hx, hs⟩)

theorem alike_of_digest (hfolds : Folds rt) (hsha : Function.Injective rt.sha256) (hdigest : m.digest rt = m'.digest rt)
    (hone : OneSpelling rt (m.texts ++ m'.texts)) : Alike rt m m' := by
  have htold := told_of_oneSpelling hone
  have hcanonical := hsha hdigest
  simp only [ExecutionBudgetManifest.canonical, Json.obj_cons, Json.field.injEq, true_and, Json.str.injEq, Json.int.injEq] at hcanonical
  obtain ⟨hallocations, hbudgets, hcreated, hevents, hgraph, hrates, hp8a, hp8c, hp8d, hruns, hschema, hversion, -⟩ := hcanonical
  have hsub : ∀ m : ExecutionBudgetManifest, m.modelRates.flatMap ModelCostRate.texts ⊆ m.texts ∧
      m.budgets.flatMap BudgetEnvelope.texts ⊆ m.texts ∧ m.allocations.flatMap BudgetAllocation.texts ⊆ m.texts ∧
      m.runs.flatMap ExecutionRun.texts ⊆ m.texts ∧ m.events.flatMap ExecutionEvent.texts ⊆ m.texts := by
    intro m
    refine ⟨fun s hs => ?_, fun s hs => ?_, fun s hs => ?_, fun s hs => ?_, fun s hs => ?_⟩
    all_goals simp [ExecutionBudgetManifest.texts, hs]
  obtain ⟨hr, hb, ha, hu, he⟩ := hsub m
  obtain ⟨hr', hb', ha', hu', he'⟩ := hsub m'
  constructor
  · exact htold m.graphId (by simp [ExecutionBudgetManifest.texts]) m'.graphId (by simp [ExecutionBudgetManifest.texts]) hgraph
  · exact htold m.version (by simp [ExecutionBudgetManifest.texts]) m'.version (by simp [ExecutionBudgetManifest.texts]) hversion
  · exact hcreated
  · intro hs
    rw [hs] at hschema
    exact (eq_of_normText hfolds hschema (by decide)).symm
  · exact sameDigest_of_normText hfolds hp8a
  · exact sameDigest_of_normText hfolds hp8c
  · exact sameDigest_of_normText hfolds hp8d
  · refine .of_paired (paired_of_normItems hrates (fun _ => rfl) (fun _ _ => rfl) fun _ => ?_) fun x hx y hy hxy => ?_
    · simp [ModelCostRate.toDict, Json.entries]
    · exact rate_bare (htold.mono (texts_subset hr hx) (texts_subset hr' hy)) hxy
  · refine .of_paired (paired_of_normItems hbudgets (fun _ => rfl) (fun _ _ => rfl) fun _ => ?_) fun x hx y hy hxy => ?_
    · simp [BudgetEnvelope.toDict, Json.entries]
    · exact budget_bare (htold.mono (texts_subset hb hx) (texts_subset hb' hy)) hxy
  · refine .of_paired (paired_of_normItems hallocations (fun _ => rfl) (fun _ _ => rfl) fun _ => ?_) fun x hx y hy hxy => ?_
    · simp [BudgetAllocation.toDict, Json.entries]
    · exact allocation_bare (htold.mono (texts_subset ha hx) (texts_subset ha' hy)) hxy
  · refine .of_paired (paired_of_normItems hruns (fun _ => rfl) (fun _ _ => rfl) fun _ => ?_) fun x hx y hy hxy => ?_
    · simp [ExecutionRun.toDict, Json.entries]
    · exact run_bare (htold.mono (texts_subset hu hx) (texts_subset hu' hy)) hxy
  · refine .of_paired (paired_of_normItems hevents (fun _ => rfl) (fun _ _ => rfl) fun _ => ?_) fun x hx y hy hxy => ?_
    · simp [ExecutionEvent.toDict, Json.entries]
    · exact event_bare hfolds (htold.mono (texts_subset he hx) (texts_subset he' hy)) hxy
  · exact hdigest

/-! ## What the dicts have in common -/

/-- What is read of either manifest. -/
structure Shared (m m' : ExecutionBudgetManifest) : Prop where
  rate : ∀ k, (m.rate k).map ModelCostRate.bare = (m'.rate k).map ModelCostRate.bare
  budget : ∀ k, (m.budget k).map BudgetEnvelope.bare = (m'.budget k).map BudgetEnvelope.bare
  run : ∀ k, (m.run k).map ExecutionRun.bare = (m'.run k).map ExecutionRun.bare
  event : ∀ k, (m.event k).map ExecutionEvent.bare = (m'.event k).map ExecutionEvent.bare
  parentOf : m.parentOf = m'.parentOf
  parentEvent : m.parentEvent = m'.parentEvent
  budgetChildren : ∀ b, (m.budgetChildren b).Perm (m'.budgetChildren b)
  budgetIds : ∀ k, k ∈ m.budgets.map (·.budgetId) ↔ k ∈ m'.budgets.map (·.budgetId)
  budgets : AlikeBy BudgetEnvelope.bare m.budgets m'.budgets
  allocations : AlikeBy BudgetAllocation.bare m.allocations m'.allocations
  events : AlikeBy ExecutionEvent.bare m.events m'.events

/-- An item found on one side is found on the other. -/
theorem found {α β κ : Type} {view : α → β} {d d' : κ → Option α} (h : ∀ k, (d k).map view = (d' k).map view) {k : κ} {x : α}
    (hx : d k = some x) : ∃ y, d' k = some y ∧ view x = view y := by
  have hk := h k
  rw [hx, Option.map_some] at hk
  obtain ⟨y, hy, he⟩ := Option.map_eq_some_iff.mp hk.symm
  exact ⟨y, hy, he.symm⟩

theorem shared_of_alike (h : Alike rt m m') (ha : Accepted m) (hrates : (m.modelRates.map (·.modelId)).Nodup) : Shared m m' := by
  have hevent : ∀ k, (m.event k).map ExecutionEvent.bare = (m'.event k).map ExecutionEvent.bare :=
    h.events.find? (·.eventId) ha.events
  constructor
  · exact h.modelRates.find? (·.modelId) hrates
  · exact h.budgets.find? (·.budgetId) ha.budgets
  · exact h.runs.find? (·.runId) ha.runs
  · exact hevent
  · funext child
    have hfound := h.allocations.find? (·.childBudgetId) ha.children child
    have hparent := congrArg (Option.map (·.parentBudgetId)) hfound
    rw [Option.map_map, Option.map_map] at hparent
    exact hparent
  · funext id
    have hparent := congrArg (fun o => Option.bind o (·.parentEventId)) (hevent id)
    rw [Option.bind_map, Option.bind_map] at hparent
    exact hparent
  · intro b
    exact (h.allocations.filter fun a => a.parentBudgetId = b).map (·.childBudgetId)
  · intro k
    exact (h.budgets.map (·.budgetId)).mem_iff
  · exact h.budgets
  · exact h.allocations
  · exact h.events

theorem maxDefault_perm {xs ys : List Int} (h : xs.Perm ys) : maxDefault xs = maxDefault ys := by
  have hmax : xs.max? = ys.max? := by
    cases hx : xs.max? with
    | none =>
      obtain rfl := List.max?_eq_none_iff.mp hx
      obtain rfl : ys = [] := List.nil_perm.mp h
      rfl
    | some x =>
      rw [List.max?_eq_some_iff] at hx
      exact (List.max?_eq_some_iff.mpr ⟨h.subset hx.1, fun y hy => hx.2 y (h.symm.subset hy)⟩).symm
  rw [maxDefault, hmax, maxDefault]

section Computed

variable (h : Shared m m') {e e' : ExecutionEvent} {b b' : BudgetEnvelope} {run run' : ExecutionRun} {es es' : List ExecutionEvent}

include h

theorem rootOf_shared (id : String) : m'.rootOf id = m.rootOf id := by
  unfold ExecutionBudgetManifest.rootOf
  rw [h.parentOf, h.budgets.length_eq]

theorem depth_shared (he : e.bare = e'.bare) : m'.depth e' = m.depth e := by
  obtain ⟨_, _, rfl⟩ := e.of_bare he
  unfold ExecutionBudgetManifest.depth
  rw [h.parentEvent, h.events.length_eq]

theorem fanout_shared (he : e.bare = e'.bare) : m'.fanout e' = m.fanout e := by
  obtain ⟨_, _, rfl⟩ := e.of_bare he
  exact (h.events.filter fun c => c.parentEventId = some e.eventId).length_eq.symm

theorem costOf_shared (he : e.bare = e'.bare) : costOf m' e' = costOf m e := by
  obtain ⟨_, _, rfl⟩ := e.of_bare he
  unfold costOf
  dsimp only
  have hrate := h.rate (e.modelId.getD "")
  cases hfound : m.rate (e.modelId.getD "") with
  | none =>
    rw [hfound] at hrate
    rw [Option.map_eq_none_iff.mp hrate.symm]
  | some r =>
    obtain ⟨r', hr', hbare⟩ := found h.rate hfound
    obtain ⟨_, rfl⟩ := r.of_bare hbare
    rw [hr']
    cases e.eventType <;> rfl

section

variable (hes : AlikeBy ExecutionEvent.bare es es')
include hes

theorem derivedCost_shared : derivedCost m' es' = derivedCost m es := by
  have hcost : costOf m' = costOf m := funext fun e => costOf_shared h rfl
  unfold derivedCost
  rw [hcost]
  exact (hes.map (costOf m)).sum_eq.symm

theorem maxDepth_shared : maxDepth m' es' = maxDepth m es := by
  have hdepth : m'.depth = m.depth := funext fun e => depth_shared h rfl
  unfold maxDepth
  rw [hdepth]
  exact maxDefault_perm (hes.map fun e => (m.depth e : Int)).symm

theorem maxFanout_shared : maxFanout m' es' = maxFanout m es := by
  have hfanout : m'.fanout = m.fanout := funext fun e => fanout_shared h rfl
  unfold maxFanout
  rw [hfanout]
  exact maxDefault_perm (hes.map fun e => (m.fanout e : Int)).symm

end

theorem runEvents_shared (hrun : run.bare = run'.bare) : AlikeBy ExecutionEvent.bare (runEvents m run) (runEvents m' run') := by
  obtain ⟨_, rfl⟩ := run.of_bare hrun
  exact h.events.filter fun e => e.runId = run.runId

theorem oversubscribed_shared (hb : b.bare = b'.bare) : oversubscribed m' b' ↔ oversubscribed m b := by
  obtain ⟨_, rfl⟩ := b.of_bare hb
  have hsum : ∀ i, (((m'.budgetChildren b.budgetId).filterMap m'.budget).map fun c => c.ceilings.getD i 0).sum =
      (((m.budgetChildren b.budgetId).filterMap m.budget).map fun c => c.ceilings.getD i 0).sum := by
    intro i
    have hceiling : (fun k => (m'.budget k).map fun c => c.ceilings.getD i 0) = fun k => (m.budget k).map fun c => c.ceilings.getD i 0 := by
      funext k
      have hk := congrArg (Option.map fun c : BudgetEnvelope => c.ceilings.getD i 0) (h.budget k)
      rw [Option.map_map, Option.map_map] at hk
      exact hk.symm
    rw [List.map_filterMap, List.map_filterMap, hceiling]
    exact ((h.budgetChildren b.budgetId).filterMap _).sum_eq.symm
  simp only [oversubscribed, hsum]
  rfl

theorem allocationRisks_shared {a a' : BudgetAllocation} (ha : a.bare = a'.bare) : allocationRisks rt m' up a' = allocationRisks rt m up a := by
  obtain ⟨_, _, rfl⟩ := a.of_bare ha
  have hchild := h.budget a.childBudgetId
  have hparent := h.budget a.parentBudgetId
  unfold allocationRisks
  dsimp only
  cases hc : m.budget a.childBudgetId with
  | none =>
    rw [hc] at hchild
    rw [Option.map_eq_none_iff.mp hchild.symm]
  | some child =>
    obtain ⟨child', hc', hbare⟩ := found h.budget hc
    obtain ⟨_, rfl⟩ := child.of_bare hbare
    cases hp : m.budget a.parentBudgetId with
    | none =>
      rw [hp] at hparent
      rw [hc', Option.map_eq_none_iff.mp hparent.symm]
    | some parent =>
      obtain ⟨parent', hp', hbare'⟩ := found h.budget hp
      obtain ⟨_, rfl⟩ := parent.of_bare hbare'
      rw [hc', hp']
      rfl

end Computed

variable {es es' : List ExecutionEvent}

section

variable (hes : AlikeBy ExecutionEvent.bare es es')
include hes

theorem modelCalls_alike : modelCalls es' = modelCalls es :=
  congrArg Nat.cast (hes.filter fun e => e.eventType = .modelCall).length_eq.symm

theorem toolCalls_alike : toolCalls es' = toolCalls es :=
  congrArg Nat.cast (hes.filter fun e => e.eventType = .toolCall).length_eq.symm

theorem stepsCount_alike : stepsCount es' = stepsCount es :=
  congrArg Nat.cast (hes.filter fun e => e.eventType = .agentStep).length_eq.symm

theorem irreversibleActions_alike :
    irreversibleActions es' = irreversibleActions es := congrArg Nat.cast (hes.filter fun e => e.irreversible).length_eq.symm

theorem totalTokens_alike : totalTokens es' = totalTokens es :=
  (hes.map fun e => e.inputTokens + e.outputTokens).sum_eq.symm

theorem maxRetry_alike : maxRetry es' = maxRetry es :=
  maxDefault_perm (hes.map fun e => e.attempt - 1).symm

theorem maxRepeat_alike : maxRepeat es' = maxRepeat es := by
  have hcount : operationCount es' = operationCount es := funext fun key => (hes.filter fun e => e.operationKey = key).length_eq.symm
  unfold maxRepeat
  rw [hcount]
  exact maxDefault_perm (hes.map fun e => (operationCount es e.operationKey : Int)).symm

theorem irreversibleTimes_alike : irreversibleTimes es' = irreversibleTimes es :=
  (sortOn_perm ((hes.filter fun e => e.irreversible).map (·.startedAtMs)) fun _ _ _ _ he => he).symm

/-! ## Validation -/

end

section Validation

variable {α β : Type} {view : α → β}

theorem exists_view {a b : Option α} (h : a.map view = b.map view) (P : β → Prop) : (∃ y ∈ b, P (view y)) ↔ ∃ x ∈ a, P (view x) := by
  have hiff : ∀ o : Option α, (∃ x ∈ o, P (view x)) ↔ ∃ v ∈ o.map view, P v := by
    intro o
    simp
  rw [hiff, hiff, h]

theorem none_view {a b : Option α} (h : a.map view = b.map view) : b = none ↔ a = none := by
  rw [← Option.map_eq_none_iff (f := view), ← h, Option.map_eq_none_iff]

theorem unique_alike {xs ys : List α} (h : AlikeBy view xs ys) (id : β → String) (hx : unique (fun x => id (view x)) xs = .ok ()) :
    unique (fun y => id (view y)) ys = .ok () := by
  rw [unique_ok] at hx ⊢
  refine ⟨(h.map id).nodup_iff.mp hx.1, fun y hy => ?_⟩
  obtain ⟨x, hxs, he⟩ := h.symm.exists_mem hy
  rw [he]
  exact hx.2 x hxs

theorem covers_alike {xs ys : List α} (h : AlikeBy view xs ys) (id : β → String) {required : List String}
    (hx : covers (fun x => id (view x)) xs required = .ok ()) : covers (fun y => id (view y)) ys required = .ok () := by
  have hmem : ∀ k, k ∈ ys.map (fun y => id (view y)) ↔ k ∈ xs.map fun x => id (view x) := fun k => (h.map id).mem_iff.symm
  unfold covers at hx ⊢
  rw [rejectIf_ok, not_not] at hx ⊢
  simp only [sameSet, hmem] at hx ⊢
  exact hx

theorem forall_alike {xs ys : List α} (h : AlikeBy view xs ys) {check check' : α → Check Unit}
    (hc : ∀ x y, view x = view y → check x = .ok () → check' y = .ok ()) (hx : ∀ x ∈ xs, check x = .ok ()) : ∀ y ∈ ys, check' y = .ok () := by
  intro y hy
  obtain ⟨x, hxs, he⟩ := h.symm.exists_mem hy
  exact hc x y he.symm (hx x hxs)

end Validation

section Checks

variable (h : Shared m m')

include h

theorem validateAllocation_shared {a a' : BudgetAllocation} (ha : a.bare = a'.bare) (hv : validateAllocation p m a = .ok ()) :
    validateAllocation p m' a' = .ok () := by
  obtain ⟨_, _, rfl⟩ := a.of_bare ha
  simp only [validateAllocation, bind_ok, rejectIf_ok, h.budgetIds] at hv ⊢
  exact hv

theorem validateAncestry_shared {b b' : BudgetEnvelope} (hb : b.bare = b'.bare) (hv : validateAncestry m b = .ok ()) :
    validateAncestry m' b' = .ok () := by
  obtain ⟨_, rfl⟩ := b.of_bare hb
  simp only [validateAncestry, rejectIf_ok, h.parentOf, h.budgets.length_eq] at hv ⊢
  exact hv

theorem validateRun_shared {r r' : ExecutionRun} (hr : r.bare = r'.bare) (hv : validateRun p m r = .ok ()) : validateRun p m' r' = .ok () := by
  obtain ⟨_, rfl⟩ := r.of_bare hr
  simp only [validateRun, bind_ok, rejectIf_ok, h.budgetIds, h.parentOf] at hv ⊢
  exact hv

variable {e e' : ExecutionEvent}

theorem placed_shared (he : e.bare = e'.bare) : placed m' e' ↔ placed m e := by
  obtain ⟨_, _, rfl⟩ := e.of_bare he
  unfold placed
  rw [h.budgetIds]
  exact and_congr_right fun _ => exists_view (h.run e.runId) fun run => run.startedAtMs ≤ e.startedAtMs ∧ e.startedAtMs ≤ e.endedAtMs ∧
    e.endedAtMs ≤ run.completedAtMs ∧ 0 < e.attempt

theorem validateEvent_shared (he : e.bare = e'.bare) (hv : validateEvent p m e = .ok ()) :
    validateEvent p m' e' = .ok () := by
  have hplaced := placed_shared h he
  have hother : ∀ parent, (∃ q ∈ m'.event parent, q.runId ≠ e.runId) ↔ ∃ q ∈ m.event parent, q.runId ≠ e.runId :=
    fun parent => exists_view (h.event parent) fun q => q.runId ≠ e.runId
  have hparent : ∀ parent, m'.event parent = none ↔ m.event parent = none := fun parent => none_view (h.event parent)
  have hrate : ∀ id, m'.rate id = none ↔ m.rate id = none := fun id => none_view (h.rate id)
  obtain ⟨_, _, rfl⟩ := e.of_bare he
  unfold validateEvent at hv ⊢
  by_cases htype : e.eventType = .modelCall
  · simp only [bind_ok, rejectIf_ok, if_pos htype, hplaced, hother, hparent, hrate] at hv ⊢
    exact hv
  · simp only [bind_ok, rejectIf_ok, if_neg htype, hplaced, hother, hparent] at hv ⊢
    exact hv

theorem validateEventAncestry_shared (he : e.bare = e'.bare) (hv : validateEventAncestry m e = .ok ()) :
    validateEventAncestry m' e' = .ok () := by
  obtain ⟨_, _, rfl⟩ := e.of_bare he
  simp only [validateEventAncestry, rejectIf_ok, h.parentEvent, h.events.length_eq] at hv ⊢
  exact hv

end Checks

theorem validateManifest_alike (h : Alike rt m m') (hv : validateManifest rt p m now = .ok ()) :
    validateManifest rt p m' now = .ok () ∧ Shared m m' := by
  have ha := accepted_of_validateManifest hv
  have hchildren := ha.children
  unfold validateManifest at hv ⊢
  simp only [bind_ok, rejectIf_ok, forEach_ok, validateAllocations_ok, exists_const, ← h.digest, ← h.graphId, ← h.version,
    ← h.createdAtEpoch] at hv ⊢
  obtain ⟨hidentity, ⟨⟩, hnr, ⟨⟩, hnb, ⟨⟩, hna, ⟨⟩, hnu, ⟨⟩, hne, ⟨⟩, hcr, ⟨⟩, hcb, ⟨⟩, hca, ⟨⟩, hcu, ⟨⟩, hce, hr, hb, ha', hanc, hu, he, heanc⟩ := hv
  have hs := shared_of_alike h ha (unique_ok.mp hnr).1
  refine ⟨⟨?_, (), ?_, (), ?_, (), ?_, (), ?_, (), ?_, (), ?_, (), ?_, (), ?_, (), ?_, (), ?_, ?_, ?_, ?_, ?_, ?_, ?_, ?_⟩, hs⟩
  · rw [not_or, not_ne_iff] at hidentity ⊢
    exact ⟨h.schemaVersion hidentity.1, hidentity.2⟩
  · exact unique_alike h.modelRates (·.modelId) hnr
  · exact unique_alike h.budgets (·.budgetId) hnb
  · exact unique_alike h.allocations (·.allocationId) hna
  · exact unique_alike h.runs (·.runId) hnu
  · exact unique_alike h.events (·.eventId) hne
  · exact covers_alike h.modelRates (·.modelId) hcr
  · exact covers_alike h.budgets (·.budgetId) hcb
  · exact covers_alike h.allocations (·.allocationId) hca
  · exact covers_alike h.runs (·.runId) hcu
  · exact covers_alike h.events (·.eventId) hce
  · refine forall_alike h.modelRates (fun r r' hrr hok => ?_) hr
    obtain ⟨_, rfl⟩ := r.of_bare hrr
    exact hok
  · refine forall_alike h.budgets (fun b b' hbb hok => ?_) hb
    obtain ⟨_, rfl⟩ := b.of_bare hbb
    exact hok
  · refine ⟨fun a' hin => ?_, (h.allocations.map (·.childBudgetId)).nodup_iff.mp hchildren⟩
    obtain ⟨a, hin', haa⟩ := h.allocations.symm.exists_mem hin
    exact ⟨validateAllocation_shared hs haa.symm (ha'.1 a hin').1, List.not_mem_nil⟩
  · exact forall_alike h.budgets (fun _ _ hbb hok => validateAncestry_shared hs hbb hok) hanc
  · exact forall_alike h.runs (fun _ _ hrr hok => validateRun_shared hs hrr hok) hu
  · exact forall_alike h.events (fun _ _ hee hok => validateEvent_shared hs hee hok) he
  · exact forall_alike h.events (fun _ _ hee hok => validateEventAncestry_shared hs hee hok) heanc

/-! ## Facts -/

section Facts

variable {f : ExecutionEvent → Check (List BudgetRisk)} {es : List ExecutionEvent} {risks risks' : List BudgetRisk}

theorem collectRisks_each (h : collectRisks f es = .ok risks) : ∀ e ∈ es, ∃ here, f e = .ok here := by
  induction es generalizing risks with
  | nil => simp
  | cons e es ih =>
    unfold collectRisks at h
    simp only [bind_ok] at h
    obtain ⟨here, hhere, rest, hrest, -⟩ := h
    exact List.forall_mem_cons.mpr ⟨⟨here, hhere⟩, ih hrest⟩

theorem collectRisks_total (h : ∀ e ∈ es, ∃ here, f e = .ok here) : ∃ risks, collectRisks f es = .ok risks := by
  induction es with
  | nil => exact ⟨[], rfl⟩
  | cons e es ih =>
    obtain ⟨here, hhere⟩ := h e List.mem_cons_self
    obtain ⟨rest, hrest⟩ := ih fun x hx => h x (List.mem_cons_of_mem _ hx)
    refine ⟨here ++ rest, ?_⟩
    unfold collectRisks
    rw [hhere, hrest]
    rfl

theorem mem_collectRisks (h : collectRisks f es = .ok risks) (r : BudgetRisk) :
    r ∈ risks ↔ ∃ e ∈ es, ∃ here, f e = .ok here ∧ r ∈ here := by
  induction es generalizing risks with
  | nil =>
    cases h
    simp
  | cons e es ih =>
    unfold collectRisks at h
    simp only [bind_ok] at h
    obtain ⟨here, hhere, rest, hrest, h⟩ := h
    obtain rfl : here ++ rest = risks := Except.ok.inj h
    rw [List.mem_append, ih hrest, List.exists_mem_cons_iff]
    refine or_congr_left ?_
    constructor
    · intro hr
      exact ⟨here, hhere, hr⟩
    · intro hr
      obtain ⟨here', hhere', hr⟩ := hr
      obtain rfl := Except.ok.inj (hhere.symm.trans hhere')
      exact hr

theorem sorted_congr (h : ∀ r, r ∈ risks' ↔ r ∈ risks) : BudgetRisk.sorted risks' = BudgetRisk.sorted risks := by
  unfold BudgetRisk.sorted
  simp only [h]

end Facts

section Risks

variable (h : Shared m m') {b b' : BudgetEnvelope} {run run' : ExecutionRun} {es es' : List ExecutionEvent} {risks risks' : List BudgetRisk}

include h

theorem scopedRisks_shared (hb : b.bare = b'.bare) (hes : AlikeBy ExecutionEvent.bare es es') :
    scopedRisks m' b' es' = scopedRisks m b es := by
  obtain ⟨_, rfl⟩ := b.of_bare hb
  unfold scopedRisks
  rw [modelCalls_alike hes, toolCalls_alike hes, totalTokens_alike hes, derivedCost_shared h hes, stepsCount_alike hes,
    irreversibleActions_alike hes]

theorem rootRisks_shared (hrr : run.bare = run'.bare) (hb : b.bare = b'.bare) (hes : AlikeBy ExecutionEvent.bare es es') :
    rootRisks m' run' b' es' = rootRisks m run b es := by
  obtain ⟨_, rfl⟩ := run.of_bare hrr
  obtain ⟨_, rfl⟩ := b.of_bare hb
  unfold rootRisks
  rw [modelCalls_alike hes, toolCalls_alike hes, totalTokens_alike hes, derivedCost_shared h hes, stepsCount_alike hes,
    irreversibleActions_alike hes, maxDepth_shared h hes, maxFanout_shared h hes, maxRetry_alike hes, maxRepeat_alike hes,
    irreversibleTimes_alike hes]

theorem factOf_shared (hrr : run.bare = run'.bare) (hr : ∀ r, r ∈ risks' ↔ r ∈ risks) : factOf m' run' risks' = factOf m run risks := by
  have hes := runEvents_shared h hrr
  obtain ⟨_, rfl⟩ := run.of_bare hrr
  unfold factOf
  rw [modelCalls_alike hes, toolCalls_alike hes, totalTokens_alike hes, derivedCost_shared h hes, stepsCount_alike hes,
    irreversibleActions_alike hes, maxDepth_shared h hes, maxFanout_shared h hes, maxRetry_alike hes, maxRepeat_alike hes,
    irreversibleTimes_alike hes, sorted_congr hr]

end Risks

section Derived

variable (h : Shared m m') (ha : Accepted m) (ha' : Accepted m') {run run' : ExecutionRun}

include h

theorem allocationRisksByRoot_shared (root : String) (r : BudgetRisk) :
    r ∈ allocationRisksByRoot rt m' up root ↔ r ∈ allocationRisksByRoot rt m up root := by
  have hallocations : (∃ a ∈ m'.allocations, m'.rootOf a.parentBudgetId = root ∧ r ∈ allocationRisks rt m' up a) ↔
      ∃ a ∈ m.allocations, m.rootOf a.parentBudgetId = root ∧ r ∈ allocationRisks rt m up a := by
    refine h.allocations.exists_iff fun a a' haa => ?_
    rw [allocationRisks_shared h haa, rootOf_shared h]
    obtain ⟨_, _, rfl⟩ := a.of_bare haa
    rfl
  have hover : (∃ b ∈ m'.budgets, m'.budgetChildren b.budgetId ≠ [] ∧ m'.rootOf b.budgetId = root ∧ oversubscribed m' b) ↔
      ∃ b ∈ m.budgets, m.budgetChildren b.budgetId ≠ [] ∧ m.rootOf b.budgetId = root ∧ oversubscribed m b := by
    refine h.budgets.exists_iff fun b b' hbb => ?_
    rw [oversubscribed_shared h hbb, rootOf_shared h]
    obtain ⟨_, rfl⟩ := b.of_bare hbb
    have hnil : m.budgetChildren b.budgetId = [] ↔ m'.budgetChildren b.budgetId = [] := by
      rw [← List.length_eq_zero_iff, (h.budgetChildren b.budgetId).length_eq, List.length_eq_zero_iff]
    exact and_congr_left fun _ => not_congr hnil
  unfold allocationRisksByRoot
  rw [List.mem_append, List.mem_append, List.mem_flatMap, List.mem_flatMap]
  simp only [List.mem_filter, decide_eq_true_eq, and_assoc, hallocations, hover]

include ha ha'

theorem descendants_shared {root : String} (hroot : root ∈ m.budgets.map (·.budgetId)) (x : String) :
    x ∈ m'.descendants root ↔ x ∈ m.descendants root := by
  rw [mem_descendants ha hroot, mem_descendants ha' ((h.budgetIds root).mp hroot), h.parentOf]

theorem eventRisks_shared (hrun : run ∈ m.runs) (hrr : run.bare = run'.bare) {e e' : ExecutionEvent} (he : e.bare = e'.bare)
    {risks : List BudgetRisk} (hr : eventRisks rt m up run e = .ok risks) : eventRisks rt m' up run' e' = .ok risks := by
  have hcost := costOf_shared h he
  have hdescendants := descendants_shared h ha ha' (ha.roots run hrun).1
  obtain ⟨_, rfl⟩ := run.of_bare hrr
  obtain ⟨_, _, rfl⟩ := e.of_bare he
  unfold eventRisks at hr ⊢
  simp only [bind_ok, getItem_ok, hcost, hdescendants] at hr ⊢
  obtain ⟨budget, hbudget, ⟨⟩, hrated, hr⟩ := hr
  obtain ⟨budget', hbudget', hbb⟩ := found h.budget hbudget
  obtain ⟨_, rfl⟩ := budget.of_bare hbb
  refine ⟨_, hbudget', (), ?_, hr⟩
  unfold rated at hrated ⊢
  dsimp only
  have hrate := h.rate (e.modelId.getD "")
  cases hfound : m.rate (e.modelId.getD "") with
  | none =>
    rw [hfound] at hrated hrate
    rw [Option.map_eq_none_iff.mp hrate.symm]
    exact hrated
  | some r =>
    obtain ⟨r', hr', -⟩ := found h.rate hfound
    rw [hr']
    cases e.eventType <;> rfl

theorem scopedEvents_shared (hrr : run.bare = run'.bare) {id : String} (hid : id ∈ m.budgets.map (·.budgetId)) :
    AlikeBy ExecutionEvent.bare (scopedEvents m run id) (scopedEvents m' run' id) := by
  unfold scopedEvents
  simp only [descendants_shared h ha ha' hid]
  exact (runEvents_shared h hrr).filter fun e => e.budgetId ∈ m.descendants id

theorem mem_scoped_shared (hrun : run ∈ m.runs) (hrr : run.bare = run'.bare) (r : BudgetRisk) :
    r ∈ ((m'.descendants run'.rootBudgetId).filterMap m'.budget).flatMap (fun b => scopedRisks m' b (scopedEvents m' run' b.budgetId)) ↔
      r ∈ ((m.descendants run.rootBudgetId).filterMap m.budget).flatMap fun b => scopedRisks m b (scopedEvents m run b.budgetId) := by
  have hroot : run'.rootBudgetId = run.rootBudgetId := by
    obtain ⟨_, rfl⟩ := run.of_bare hrr
    rfl
  have hscoped : ∀ b b', b.bare = b'.bare → b ∈ m.budgets →
      scopedRisks m' b' (scopedEvents m' run' b'.budgetId) = scopedRisks m b (scopedEvents m run b.budgetId) := by
    intro b b' hbb hb
    obtain ⟨_, rfl⟩ := b.of_bare hbb
    exact scopedRisks_shared h hbb (scopedEvents_shared h ha ha' hrr (List.mem_map_of_mem hb))
  simp only [List.mem_flatMap, List.mem_filterMap, hroot, descendants_shared h ha ha' (ha.roots run hrun).1]
  constructor
  · intro hin
    obtain ⟨b', ⟨id, hid, hb'⟩, hr⟩ := hin
    obtain ⟨b, hb, hbb⟩ := found (fun k => (h.budget k).symm) hb'
    rw [hscoped b b' hbb.symm (Dict.ofItems_mem hb).1] at hr
    exact ⟨b, ⟨id, hid, hb⟩, hr⟩
  · intro hin
    obtain ⟨b, ⟨id, hid, hb⟩, hr⟩ := hin
    obtain ⟨b', hb', hbb⟩ := found h.budget hb
    rw [← hscoped b b' hbb (Dict.ofItems_mem hb).1] at hr
    exact ⟨b', ⟨id, hid, hb'⟩, hr⟩

theorem runFact_shared (hrun : run ∈ m.runs) (hrr : run.bare = run'.bare) {fact : ExecutionBudgetFact}
    (hf : runFact rt m up run = .ok fact) : runFact rt m' up run' = .ok fact := by
  have hevents := runEvents_shared h hrr
  have hevent : ∀ e e', e.bare = e'.bare → ∀ here, eventRisks rt m up run e = .ok here → eventRisks rt m' up run' e' = .ok here :=
    fun _ _ he _ hr => eventRisks_shared h ha ha' hrun hrr he hr
  have hscoped := mem_scoped_shared h ha ha' hrun hrr
  have hrootRisks : ∀ root root' : BudgetEnvelope, root.bare = root'.bare →
      rootRisks m' run' root' (runEvents m' run') = rootRisks m run root (runEvents m run) := fun _ _ hbb => rootRisks_shared h hrr hbb hevents
  have hfactOf : ∀ risks risks', (∀ r, r ∈ risks' ↔ r ∈ risks) → factOf m' run' risks' = factOf m run risks :=
    fun _ _ hr => factOf_shared h hrr hr
  unfold runFact at hf ⊢
  simp only [bind_ok, getItem_ok] at hf ⊢
  obtain ⟨root, hroot, ofEvents, hofEvents, hf⟩ := hf
  obtain ⟨root', hroot', hbare⟩ := found h.budget hroot
  obtain ⟨ofEvents', hofEvents'⟩ := @collectRisks_total (eventRisks rt m' up run') (runEvents m' run') fun e' he' => by
    obtain ⟨e, he, hee⟩ := hevents.symm.exists_mem he'
    obtain ⟨here, hhere⟩ := collectRisks_each hofEvents e he
    exact ⟨here, hevent e e' hee.symm here hhere⟩
  have hmem : ∀ r, r ∈ ofEvents' ↔ r ∈ ofEvents := by
    intro r
    rw [mem_collectRisks hofEvents, mem_collectRisks hofEvents']
    refine ⟨fun hin => ?_, fun hin => ?_⟩
    · obtain ⟨e', he', here, hhere, hr⟩ := hin
      obtain ⟨e, he, hee⟩ := hevents.symm.exists_mem he'
      obtain ⟨here', hhere'⟩ := collectRisks_each hofEvents e he
      have hsame := Except.ok.inj (hhere.symm.trans (hevent e e' hee.symm here' hhere'))
      exact ⟨e, he, here', hhere', hsame ▸ hr⟩
    · obtain ⟨e, he, here, hhere, hr⟩ := hin
      obtain ⟨e', he', hee⟩ := hevents.exists_mem he
      exact ⟨e', he', here, hevent e e' hee here hhere, hr⟩
  have hsame := hrootRisks root root' hbare
  have hidentity : run'.rootBudgetId = run.rootBudgetId ∧ run'.originalPrincipalId = run.originalPrincipalId ∧
      run'.tenantId = run.tenantId ∧ run'.goalId = run.goalId := by
    obtain ⟨_, rfl⟩ := run.of_bare hrr
    exact ⟨rfl, rfl, rfl, rfl⟩
  obtain ⟨_, rfl⟩ := root.of_bare hbare
  refine ⟨_, hidentity.1 ▸ hroot', ofEvents', hofEvents', ?_⟩
  rw [← hf]
  refine congrArg Except.ok (hfactOf _ _ fun r => ?_)
  obtain ⟨hrootId, hprincipal, htenant, hgoal⟩ := hidentity
  simp only [List.mem_append]
  rw [hscoped r, hsame, hmem r, hprincipal, htenant, hgoal, hrootId, allocationRisksByRoot_shared h]

theorem runFacts_shared {runs runs' : List ExecutionRun} (hruns : List.Forall₂ (fun r r' => r.bare = r'.bare) runs runs')
    (hin : ∀ r ∈ runs, r ∈ m.runs) {facts : List ExecutionBudgetFact} (hf : runFacts rt m up runs = .ok facts) :
    runFacts rt m' up runs' = .ok facts := by
  induction hruns generalizing facts with
  | nil => exact hf
  | cons hrr _ ih =>
    unfold runFacts at hf ⊢
    simp only [bind_ok] at hf ⊢
    obtain ⟨fact, hfact, rest, hrest, he⟩ := hf
    refine ⟨fact, runFact_shared h ha ha' (hin _ List.mem_cons_self) hrr hfact, rest, ih (fun r hr => hin r ?_) hrest, he⟩
    exact List.mem_cons_of_mem _ hr

end Derived

/-! ## Derivation -/

/-- Where the texts of two manifests of one digest are of one spelling, what is derived for one is derived for the other. -/
theorem derive_of_digest (hfolds : Folds rt) (hsha : Function.Injective rt.sha256) (hdigest : m.digest rt = m'.digest rt)
    (hone : OneSpelling rt (m.texts ++ m'.texts)) {p8a p8c p8d : Json} {facts : List ExecutionBudgetFact}
    (hr : derive rt p m p8a p8c p8d now = .ok facts) : derive rt p m' p8a p8c p8d now = .ok facts := by
  have h := alike_of_digest hfolds hsha hdigest hone
  unfold derive at hr ⊢
  simp only [bind_ok] at hr ⊢
  obtain ⟨⟨⟩, hp, ⟨⟩, hu, ⟨⟩, hv, hfacts⟩ := hr
  obtain ⟨hv', hs⟩ := validateManifest_alike h hv
  have ha := accepted_of_validateManifest hv
  have ha' := accepted_of_validateManifest hv'
  refine ⟨(), hp, (), ?_, (), hv', ?_⟩
  · simp only [validateUpstreams, validateUpstream, h.p8a.casefold, h.p8c.casefold, h.p8d.casefold] at hu ⊢
    exact hu
  · exact runFacts_shared hs ha ha' (h.runs.forall₂_sortOn (·.runId) ha'.runs) (fun r hr => mem_sortOn.mp hr) hfacts

end Aegis.Agentic.ExecutionBudget
