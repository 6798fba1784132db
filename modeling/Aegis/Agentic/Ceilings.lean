/-
  Aegis.Agentic.Ceilings — which ceilings of which budgets an allowed run respects.

  `Spent` and `Shaped` are the twelve ceilings of a budget, six each, over the events charged to
  it or below it. The analyzer checks both for the root budget of a run and `Spent` alone for
  those delegated from it (`root_respected`, `delegated_spent`), so an allowed run respects every
  budget of its tree exactly when it is `Shaped` for the delegated ones (`ceilings_hold`). The rate of
  irreversible actions is found by a window that slides over their times (`irreversible_rate`).
-/

import Aegis.Agentic.ExecutionBudget

namespace Aegis.Agentic.ExecutionBudget

open Data Evidence Checked Ascent

variable {rt : Runtime} {p : ExecutionBudgetPolicy} {m : ExecutionBudgetManifest} {up : Upstreams} {run : ExecutionRun}
  {fact : ExecutionBudgetFact} {b : BudgetEnvelope} {es : List ExecutionEvent} {facts : List ExecutionBudgetFact}
  {e : ExecutionEvent} {times : List Int}

/-! ## Ceilings -/

open Classical in
/-- The events of the run charged to the budget or to one below it. -/
noncomputable def chargedBelow (m : ExecutionBudgetManifest) (run : ExecutionRun) (b : BudgetEnvelope) : List ExecutionEvent :=
  (runEvents m run).filter fun e => Above m.parentOf e.budgetId b.budgetId

/-- The ceilings on what is used up. -/
structure Spent (m : ExecutionBudgetManifest) (b : BudgetEnvelope) (es : List ExecutionEvent) : Prop where
  modelCalls : modelCalls es ≤ b.maxModelCalls
  toolCalls : toolCalls es ≤ b.maxToolCalls
  tokens : totalTokens es ≤ b.maxTotalTokens
  cost : derivedCost m es ≤ b.maxCostMicrousd
  steps : stepsCount es ≤ b.maxSteps
  irreversible : irreversibleActions es ≤ b.maxIrreversibleActions

/-- How many irreversible actions start within the minute from `from_ms` on. -/
def irreversibleWithin (es : List ExecutionEvent) (fromMs : Int) : Nat :=
  (es.filter fun e => e.irreversible ∧ fromMs ≤ e.startedAtMs ∧ e.startedAtMs - fromMs < 60000).length

/-- The ceilings on how it is used. -/
structure Shaped (m : ExecutionBudgetManifest) (b : BudgetEnvelope) (es : List ExecutionEvent) : Prop where
  elapsed : ∀ first ∈ es, ∀ last ∈ es, last.endedAtMs - first.startedAtMs ≤ b.maxElapsedMs
  depth : ∀ e ∈ es, ∀ d, Rooted m.parentEvent e.eventId d → (d : Int) ≤ b.maxRecursionDepth
  fanout : ∀ e ∈ es, (m.fanout e : Int) ≤ b.maxFanoutPerEvent
  retries : ∀ e ∈ es, e.attempt - 1 ≤ b.maxRetriesPerOperation
  repeated : ∀ e ∈ es, (operationCount es e.operationKey : Int) ≤ b.maxRepeatedOperationCount
  perMinute : ∀ e ∈ es, e.irreversible = true →
    (irreversibleWithin es e.startedAtMs : Int) ≤ b.maxIrreversibleActionsPerMinute

/-- Every ceiling. -/
def Respects (m : ExecutionBudgetManifest) (b : BudgetEnvelope) (es : List ExecutionEvent) : Prop := Spent m b es ∧ Shaped m b es

/-! ## What the accounting finds -/

theorem le_maxDefault {xs : List Int} {x : Int} (h : x ∈ xs) : x ≤ maxDefault xs := by
  unfold maxDefault
  cases hm : xs.max? with
  | none =>
    rw [List.max?_eq_none_iff.mp hm] at h
    cases h
  | some y => exact (List.max?_eq_some_iff.mp hm).2 x h

theorem le_maxDefault_map {f : ExecutionEvent → Int} (h : e ∈ es) : f e ≤ maxDefault (es.map f) :=
  le_maxDefault (List.mem_map_of_mem h)

section

variable (h : times.Pairwise (· ≤ ·))
include h

/-- In a sorted list the items below a bound come first. -/
theorem takeWhile_sorted (t : Int) :
    (times.takeWhile fun s => s - t < 60000) = times.filter fun s => s - t < 60000 := by
  induction times with
  | nil => rfl
  | cons s times ih =>
    obtain ⟨hs, htimes⟩ := List.pairwise_cons.mp h
    by_cases hlt : s - t < 60000
    · rw [List.takeWhile_cons_of_pos (by simpa using hlt), List.filter_cons_of_pos (by simpa using hlt), ih htimes]
    · rw [List.takeWhile_cons_of_neg (by simpa using hlt), List.filter_cons_of_neg (by simpa using hlt), eq_comm,
        List.filter_eq_nil_iff]
      intro s' hs'
      have := hs s' hs'
      simp only [decide_eq_true_eq]
      omega

/-- No minute holds more than the most found. -/
theorem window_le_maxPerMinute (t : Int) :
    (times.filter fun s => t ≤ s ∧ s - t < 60000).length ≤ maxPerMinute times := by
  induction times with
  | nil => exact Nat.le_refl 0
  | cons s times ih =>
    obtain ⟨hs, htimes⟩ := List.pairwise_cons.mp h
    unfold maxPerMinute
    by_cases hts : t ≤ s
    · -- The minute from `s` on ends no sooner, and no time is before `s`.
      have hlater : (times.filter fun x => t ≤ x ∧ x - t < 60000).length ≤ (times.filter fun x => x - s < 60000).length := by
        refine (List.monotone_filter_right times fun x hx => ?_).length_le
        simp only [decide_eq_true_eq] at hx ⊢
        omega
      rw [takeWhile_sorted htimes, List.filter_cons]
      split
      · rw [List.length_cons]
        omega
      · omega
    · rw [List.filter_cons_of_neg (by simp; omega)]
      exact Nat.le_trans (ih htimes) (Nat.le_max_right _ _)

/-- Some minute holds the most found. -/
theorem exists_window_ge : ∃ t, maxPerMinute times ≤ (times.filter fun s => t ≤ s ∧ s - t < 60000).length := by
  induction times with
  | nil => exact ⟨0, Nat.le_refl 0⟩
  | cons s times ih =>
    obtain ⟨hs, htimes⟩ := List.pairwise_cons.mp h
    obtain ⟨t, ht⟩ := ih htimes
    unfold maxPerMinute
    rcases Nat.le_total (maxPerMinute times) (1 + (times.takeWhile fun later => later - s < 60000).length) with hle | hle
    · refine ⟨s, ?_⟩
      have hsame : (times.filter fun x => s ≤ x ∧ x - s < 60000) = times.filter fun x => x - s < 60000 := by
        refine List.filter_congr fun x hx => ?_
        simp [hs x hx]
      rw [Nat.max_eq_left hle, takeWhile_sorted htimes, List.filter_cons_of_pos (by simp), List.length_cons, hsame]
      omega
    · refine ⟨t, ?_⟩
      rw [Nat.max_eq_right hle]
      exact ht.trans ((List.sublist_cons_self s times).filter _).length_le

end

theorem irreversibleWithin_eq (es : List ExecutionEvent) (t : Int) :
    irreversibleWithin es t = ((irreversibleTimes es).filter fun s => t ≤ s ∧ s - t < 60000).length := by
  unfold irreversibleWithin irreversibleTimes
  rw [((perm_sortOn id _).filter _).length_eq, List.filter_map, List.length_map, List.filter_filter]
  congr 1
  refine List.filter_congr fun x _ => ?_
  simp [Bool.and_comm]

/-- The irreversible rate is the most over all minutes, wherever they start. -/
theorem maxPerMinute_isGreatest (es : List ExecutionEvent) :
    IsGreatest (Set.range (irreversibleWithin es)) (maxPerMinute (irreversibleTimes es)) := by
  have hsorted : (irreversibleTimes es).Pairwise (· ≤ ·) := pairwise_sortOn id _
  have hle : ∀ t, irreversibleWithin es t ≤ maxPerMinute (irreversibleTimes es) := by
    intro t
    rw [irreversibleWithin_eq]
    exact window_le_maxPerMinute hsorted t
  obtain ⟨t, ht⟩ := exists_window_ge hsorted
  rw [← irreversibleWithin_eq] at ht
  exact ⟨⟨t, le_antisymm (hle t) ht⟩, Set.forall_mem_range.mpr hle⟩

/-! ## An accepted manifest -/

/-- What `validateManifest` has found. -/
structure Accepted (m : ExecutionBudgetManifest) : Prop where
  budgets : (m.budgets.map (·.budgetId)).Nodup
  runs : (m.runs.map (·.runId)).Nodup
  events : (m.events.map (·.eventId)).Nodup
  allocated : ∀ a ∈ m.allocations, a.parentBudgetId ∈ m.budgets.map (·.budgetId) ∧ a.childBudgetId ∈ m.budgets.map (·.budgetId)
  children : (m.allocations.map (·.childBudgetId)).Nodup
  ancestry : ∀ b ∈ m.budgets, ∃ d, Rooted m.parentOf b.budgetId d
  roots : ∀ r ∈ m.runs, r.rootBudgetId ∈ m.budgets.map (·.budgetId) ∧ m.parentOf r.rootBudgetId = none
  placed : ∀ e ∈ m.events, placed m e
  eventParents : ∀ e ∈ m.events, ∀ q ∈ e.parentEventId, q ∈ m.events.map (·.eventId)
  eventAncestry : ∀ e ∈ m.events, ∃ d, Rooted m.parentEvent e.eventId d

theorem unique_ok {α : Type} {id : α → String} {items : List α} {u : Unit} :
    unique id items = .ok u ↔ (items.map id).Nodup ∧ ∀ x ∈ items, id x ≠ "" := by
  unfold unique
  rw [keysFrom_ok (P := fun key => key ≠ "") fun seen key => by simp [and_comm]]
  simp

theorem validateAllocations_ok {children : List String} {as : List BudgetAllocation} {u : Unit} :
    validateAllocations p m children as = .ok u ↔
      (∀ a ∈ as, validateAllocation p m a = .ok () ∧ a.childBudgetId ∉ children) ∧ (as.map (·.childBudgetId)).Nodup := by
  induction as generalizing children with
  | nil => simp [validateAllocations]
  | cons a as ih =>
    unfold validateAllocations
    rw [List.forall_mem_cons, List.map_cons, List.nodup_cons]
    simp only [bind_ok, rejectIf_ok, ih, List.mem_cons, not_or]
    constructor
    · rintro ⟨⟨⟩, ha, ⟨⟩, hc, hall, hn⟩
      refine ⟨⟨⟨ha, hc⟩, fun x hx => ⟨(hall x hx).1, (hall x hx).2.2⟩⟩, fun hm => ?_, hn⟩
      obtain ⟨x, hx, he⟩ := List.mem_map.mp hm
      exact (hall x hx).2.1 he
    · rintro ⟨⟨⟨ha, hc⟩, hall⟩, hnot, hn⟩
      exact ⟨(), ha, (), hc, fun x hx => ⟨(hall x hx).1, fun he => hnot (he ▸ List.mem_map_of_mem hx), (hall x hx).2⟩, hn⟩

theorem parentOf_mem {child parent : String} (h : m.parentOf child = some parent) :
    ∃ a ∈ m.allocations, a.childBudgetId = child ∧ a.parentBudgetId = parent := by
  obtain ⟨a, ha, rfl⟩ := Option.map_eq_some_iff.mp h
  obtain ⟨hmem, hc⟩ := Dict.ofItems_mem ha
  exact ⟨a, hmem, hc, rfl⟩

theorem parentEvent_mem {e q : String} (h : m.parentEvent e = some q) :
    ∃ x ∈ m.events, x.eventId = e ∧ x.parentEventId = some q := by
  obtain ⟨x, hx, hq⟩ := Option.bind_eq_some_iff.mp h
  obtain ⟨hmem, he⟩ := Dict.ofItems_mem hx
  exact ⟨x, hmem, he, hq⟩

theorem accepted_of_validateManifest {now : Int} (h : validateManifest rt p m now = .ok ()) : Accepted m := by
  unfold validateManifest at h
  simp only [bind_ok, rejectIf_ok, unique_ok, forEach_ok, validateAllocations_ok] at h
  obtain ⟨-, -, -, -, -, ⟨hbudgets, -⟩, -, -, -, ⟨hruns, -⟩, -, ⟨hevents, -⟩, -, -, -, -, -, -, -, -, -, -, -, -, -, -, -,
    ⟨hallocs, hchildren⟩, -, hanc, -, hrun, -, hevent, heanc⟩ := h
  have hallocated : ∀ a ∈ m.allocations,
      a.parentBudgetId ∈ m.budgets.map (·.budgetId) ∧ a.childBudgetId ∈ m.budgets.map (·.budgetId) := by
    intro a ha
    have hv := (hallocs a ha).1
    simp only [validateAllocation, bind_ok, rejectIf_ok, exists_const, not_or, not_not] at hv
    exact ⟨hv.2.1, hv.2.2.1⟩
  have hplaced : ∀ e ∈ m.events, placed m e ∧ ∀ q ∈ e.parentEventId, q ∈ m.events.map (·.eventId) := by
    intro e he
    have hv := hevent e he
    simp only [validateEvent, bind_ok, rejectIf_ok, exists_const] at hv
    refine ⟨not_not.mp hv.2.1, fun q hq => ?_⟩
    cases hx : m.event q with
    | none => exact absurd ⟨q, hq, hx⟩ hv.2.2.1
    | some x =>
      obtain ⟨hmem, rfl⟩ := Dict.ofItems_mem hx
      exact List.mem_map_of_mem hmem
  refine ⟨hbudgets, hruns, hevents, hallocated, hchildren, fun b hb => ?_, fun r hr => ?_, fun e he => (hplaced e he).1,
    fun e he => (hplaced e he).2, fun e he => ?_⟩
  · have hv := hanc b hb
    simp only [validateAncestry, rejectIf_ok, Bool.not_eq_false] at hv
    obtain ⟨d, -, hd⟩ := walk_rooted hv
    exact ⟨d, hd⟩
  · have hv := hrun r hr
    simp only [validateRun, bind_ok, rejectIf_ok, getItem_ok, exists_const, not_or, not_not] at hv
    obtain ⟨-, ⟨hroot, -⟩, -, -, -, hnone⟩ := hv
    exact ⟨hroot, hnone⟩
  · have hv := heanc e he
    simp only [validateEventAncestry, rejectIf_ok, Bool.not_eq_false] at hv
    obtain ⟨d, -, hd⟩ := walk_rooted hv
    exact ⟨d, hd⟩

section

variable (h : Accepted m)
include h

theorem budget_self (hb : b ∈ m.budgets) : m.budget b.budgetId = some b := Dict.ofItems_self h.budgets hb

theorem mem_budgetChildren {parent child : String} :
    child ∈ m.budgetChildren parent ↔ m.parentOf child = some parent := by
  unfold ExecutionBudgetManifest.budgetChildren
  constructor
  · intro hm
    obtain ⟨a, ha, rfl⟩ := List.mem_map.mp hm
    obtain ⟨hmem, hp⟩ := List.mem_filter.mp ha
    rw [decide_eq_true_eq] at hp
    rw [ExecutionBudgetManifest.parentOf, Dict.ofItems_self h.children hmem, Option.map_some, hp]
  · intro hp
    obtain ⟨a, hmem, rfl, rfl⟩ := parentOf_mem hp
    exact List.mem_map_of_mem (List.mem_filter.mpr ⟨hmem, by simp⟩)

/-- The descendants of a budget are it and those below it. -/
theorem mem_descendants {x root : String} (hroot : root ∈ m.budgets.map (·.budgetId)) :
    x ∈ m.descendants root ↔ Above m.parentOf x root := by
  have hclosed : ∀ y ∈ m.budgets.map (·.budgetId), ∀ z ∈ m.budgetChildren y, z ∈ m.budgets.map (·.budgetId) := by
    intro y _ z hz
    obtain ⟨a, ha, rfl⟩ := List.mem_map.mp hz
    exact (h.allocated a (List.mem_filter.mp ha).1).2
  have hlen : (m.budgets.map (·.budgetId)).length = m.budgets.length := List.length_map _
  unfold ExecutionBudgetManifest.descendants
  rw [← hlen, Worklist.mem_closure hroot hclosed]
  unfold Worklist.Reaches Above
  rw [← Relation.reflTransGen_swap]
  simp only [mem_budgetChildren h]

theorem scopedEvents_eq (hb : b ∈ m.budgets) : scopedEvents m run b.budgetId = chargedBelow m run b := by
  unfold scopedEvents chargedBelow
  refine List.filter_congr fun e _ => ?_
  exact decide_eq_decide.mpr (mem_descendants h (List.mem_map_of_mem hb))

/-- The depth computed for an event is the number of events up to its root. -/
theorem depth_eq (he : e ∈ m.events) {d : Nat} (hd : Rooted m.parentEvent e.eventId d) : m.depth e = d := by
  have hlen : (m.events.map (·.eventId)).length = m.events.length := List.length_map _
  refine hd.depth (hlen ▸ hd.le_length (List.mem_map_of_mem he) fun y _ z hz => ?_)
  obtain ⟨x, hx, -, hq⟩ := parentEvent_mem hz
  exact h.eventParents x hx z hq

end

/-! ## An allowed run -/

theorem BudgetRisk.sorted_eq_nil {risks : List BudgetRisk} : sorted risks = [] ↔ risks = [] :=
  filter_mem_eq_nil fun r => by cases r <;> decide

/-- What the checks of an allowed run have found. -/
structure Allowed (m : ExecutionBudgetManifest) (run : ExecutionRun) (root : BudgetEnvelope) : Prop where
  budget : m.budget run.rootBudgetId = some root
  charged : ∀ e ∈ runEvents m run, e.budgetId ∈ m.descendants run.rootBudgetId
  rootRisks : rootRisks m run root (runEvents m run) = []
  scopedRisks : ∀ id ∈ m.descendants run.rootBudgetId, ∀ b ∈ m.budget id,
    scopedRisks m b (scopedEvents m run b.budgetId) = []

theorem collectRisks_nil {risks : ExecutionEvent → Check (List BudgetRisk)} (h : collectRisks risks es = .ok []) :
    ∀ e ∈ es, risks e = .ok [] := by
  induction es with
  | nil => simp
  | cons e es ih =>
    unfold collectRisks at h
    simp only [bind_ok] at h
    obtain ⟨here, hhere, rest, hrest, h⟩ := h
    obtain ⟨rfl, rfl⟩ := List.append_eq_nil_iff.mp (Except.ok.inj h)
    exact List.forall_mem_cons.mpr ⟨hhere, ih hrest⟩

theorem eventRisks_nil (h : eventRisks rt m up run e = .ok []) : e.budgetId ∈ m.descendants run.rootBudgetId := by
  unfold eventRisks at h
  simp only [bind_ok] at h
  obtain ⟨budget, -, ⟨⟩, -, h⟩ := h
  simp only [pure, Except.pure, Except.ok.injEq, List.append_eq_nil_iff, flag_eq_nil, not_not] at h
  exact h.1.1.1.1.1.1.1.1

theorem allowed_of_runFact (h : runFact rt m up run = .ok fact) (hd : fact.decision = .allow) :
    ∃ root, Allowed m run root := by
  unfold runFact at h
  simp only [bind_ok, getItem_ok] at h
  obtain ⟨root, hroot, ofEvents, hevents, h⟩ := h
  cases h
  simp only [factOf, ite_eq_left_iff, reduceCtorEq, imp_false, not_not, BudgetRisk.sorted_eq_nil, List.append_eq_nil_iff,
    List.flatMap_eq_nil_iff] at hd
  obtain ⟨⟨⟨-, rfl⟩, hrootRisks⟩, hscoped⟩ := hd
  refine ⟨root, hroot, fun e he => eventRisks_nil (collectRisks_nil hevents e he), hrootRisks, fun id hid b hb => ?_⟩
  exact hscoped b (List.mem_filterMap.mpr ⟨id, hid, hb⟩)

theorem spent_of_scopedRisks (h : scopedRisks m b es = []) : Spent m b es := by
  simp only [scopedRisks, List.append_eq_nil_iff, flag_eq_nil, gt_iff_lt, not_lt] at h
  obtain ⟨⟨⟨⟨⟨h1, h2⟩, h3⟩, h4⟩, h5⟩, h6⟩ := h
  exact ⟨h1, h2, h3, h4, h5, h6⟩

/-- Every budget of an allowed run's tree is kept to by what is used up. -/
theorem delegated_spent (ha : Accepted m) {root : BudgetEnvelope} (h : Allowed m run root) (hrun : run ∈ m.runs)
    (hb : b ∈ m.budgets) (hbelow : Above m.parentOf b.budgetId run.rootBudgetId) : Spent m b (chargedBelow m run b) := by
  rw [← scopedEvents_eq ha hb]
  refine spent_of_scopedRisks (h.scopedRisks b.budgetId ?_ b (budget_self ha hb))
  exact (mem_descendants ha (ha.roots run hrun).1).mpr hbelow

/-- The root budget of an allowed run is charged with all of it. -/
theorem chargedBelow_root (ha : Accepted m) {root : BudgetEnvelope} (h : Allowed m run root) (hroot : root ∈ m.budgets)
    (hid : root.budgetId = run.rootBudgetId) : chargedBelow m run root = runEvents m run := by
  rw [← scopedEvents_eq ha hroot, hid]
  exact List.filter_eq_self.mpr fun e he => by simpa using h.charged e he

theorem root_shaped (ha : Accepted m) {root : BudgetEnvelope} (h : Allowed m run root) (hrun : run ∈ m.runs) :
    Shaped m root (runEvents m run) := by
  have hrisks := h.rootRisks
  simp only [rootRisks, List.append_eq_nil_iff, flag_eq_nil, gt_iff_lt, not_lt] at hrisks
  obtain ⟨⟨⟨⟨⟨⟨⟨⟨-, helapsed⟩, -⟩, hdepth⟩, hfanout⟩, hretry⟩, hrepeat⟩, -⟩, hminute⟩ := hrisks
  have hplaced : ∀ e ∈ runEvents m run, run.startedAtMs ≤ e.startedAtMs ∧ e.endedAtMs ≤ run.completedAtMs := by
    intro e he
    obtain ⟨hmem, hid⟩ := List.mem_filter.mp he
    rw [decide_eq_true_eq] at hid
    obtain ⟨-, r, hr, hstart, -, hend, -⟩ := ha.placed e hmem
    rw [hid, ExecutionBudgetManifest.run, Dict.ofItems_self ha.runs hrun, Option.mem_some_iff] at hr
    subst hr
    exact ⟨hstart, hend⟩
  refine ⟨fun first hf last hl => ?_, fun e he d hd => ?_, fun e he => ?_, fun e he => ?_, fun e he => ?_, fun e he hi => ?_⟩
  · have := (hplaced first hf).1
    have := (hplaced last hl).2
    omega
  · rw [← depth_eq ha (List.mem_filter.mp he).1 hd]
    exact le_trans (le_maxDefault_map (f := fun e => (m.depth e : Int)) he) hdepth
  · exact le_trans (le_maxDefault_map (f := fun e => (m.fanout e : Int)) he) hfanout
  · exact le_trans (le_maxDefault_map (f := fun e => e.attempt - 1) he) hretry
  · exact le_trans (le_maxDefault_map (f := fun e => (operationCount (runEvents m run) e.operationKey : Int)) he) hrepeat
  · exact le_trans (Int.ofNat_le.mpr ((maxPerMinute_isGreatest _).2 ⟨_, rfl⟩)) hminute

/-! ## Delegated ceilings -/

theorem runFacts_mem {runs : List ExecutionRun} (h : runFacts rt m up runs = .ok facts) :
    ∀ f ∈ facts, ∃ r ∈ runs, runFact rt m up r = .ok f := by
  induction runs generalizing facts with
  | nil =>
    cases h
    simp
  | cons r runs ih =>
    unfold runFacts at h
    simp only [bind_ok] at h
    obtain ⟨f, hf, fs, hfs, h⟩ := h
    cases h
    refine List.forall_mem_cons.mpr ⟨⟨r, List.mem_cons_self, hf⟩, fun f' hf' => ?_⟩
    obtain ⟨r', hr', he⟩ := ih hfs f' hf'
    exact ⟨r', List.mem_cons_of_mem _ hr', he⟩

theorem runFact_runId (h : runFact rt m up run = .ok fact) : fact.runId = run.runId ∧
    fact.maxIrreversibleActionsPerMinute = maxPerMinute (irreversibleTimes (runEvents m run)) := by
  unfold runFact at h
  simp only [bind_ok] at h
  obtain ⟨root, -, ofEvents, -, h⟩ := h
  cases h
  exact ⟨rfl, rfl⟩

/-- The manifest is accepted, and the fact is that of the run it names. -/
theorem derive_run {p8a p8c p8d : Json} {now : Int}
    (h : derive rt p m p8a p8c p8d now = .ok facts) (hrun : run ∈ m.runs) (hfact : fact ∈ facts) (hid : fact.runId = run.runId) :
    Accepted m ∧ runFact rt m (upstreamsOf rt p8a p8c p8d) run = .ok fact := by
  unfold derive at h
  simp only [bind_ok] at h
  obtain ⟨⟨⟩, -, ⟨⟩, -, ⟨⟩, hm, hfacts⟩ := h
  have ha := accepted_of_validateManifest hm
  obtain ⟨r, hr, hf⟩ := runFacts_mem hfacts fact hfact
  have hsame : r = run := List.inj_on_of_nodup_map ha.runs (mem_sortOn.mp hr) hrun ((runFact_runId hf).1.symm.trans hid)
  exact ⟨ha, hsame ▸ hf⟩

/-- An allowed run respects every budget of its tree exactly when the delegated ones are respected
in how it is used: their elapsed time, depth, fan-out, retries, repetitions and irreversible rate. -/
theorem ceilings_hold (p : ExecutionBudgetPolicy) (m : ExecutionBudgetManifest) (p8a p8c p8d : Json) (now : Int)
    (facts : List ExecutionBudgetFact) (run : ExecutionRun) (fact : ExecutionBudgetFact)
    (h : derive rt p m p8a p8c p8d now = .ok facts) (hrun : run ∈ m.runs) (hfact : fact ∈ facts)
    (hid : fact.runId = run.runId) (hd : fact.decision = .allow) :
    (∀ b ∈ m.budgets, Above m.parentOf b.budgetId run.rootBudgetId → Respects m b (chargedBelow m run b)) ↔
      ∀ b ∈ m.budgets, Above m.parentOf b.budgetId run.rootBudgetId → b.budgetId ≠ run.rootBudgetId →
        Shaped m b (chargedBelow m run b) := by
  obtain ⟨ha, hf⟩ := derive_run h hrun hfact hid
  obtain ⟨root, hallowed⟩ := allowed_of_runFact hf hd
  constructor
  · intro hall b hb hbelow _
    exact (hall b hb hbelow).2
  · intro hdelegated b hb hbelow
    refine ⟨delegated_spent ha hallowed hrun hb hbelow, ?_⟩
    by_cases hroot : b.budgetId = run.rootBudgetId
    · have hsame : root = b := Option.some.inj (hallowed.budget.symm.trans (hroot ▸ budget_self ha hb))
      subst hsame
      rw [chargedBelow_root ha hallowed hb hroot]
      exact root_shaped ha hallowed hrun
    · exact hdelegated b hb hbelow hroot

namespace Sample

def budget (id : String) (delegationId : Option String) (retries : Int) : BudgetEnvelope where
  budgetId := id
  originalPrincipalId := "alice"
  tenantId := "acme"
  goalId := "goal"
  delegationId := delegationId
  maxModelCalls := 2
  maxToolCalls := 2
  maxTotalTokens := 1000
  maxCostMicrousd := 1000
  maxElapsedMs := 60000
  maxSteps := 4
  maxRecursionDepth := 3
  maxFanoutPerEvent := 3
  maxRetriesPerOperation := retries
  maxRepeatedOperationCount := 3
  maxIrreversibleActions := 0
  maxIrreversibleActionsPerMinute := 0
  ownerId := "ops"
  description := ""

def root : BudgetEnvelope := budget "root" none 3

/-- A delegated budget that allows no retry. -/
def child : BudgetEnvelope := budget "child" (some "d") 0

def allocation : BudgetAllocation := ⟨"a", "root", "child", "planner", "finder", "d", "ops", ""⟩

def searchRun : ExecutionRun := ⟨"r", "root", "alice", "acme", "goal", 0, 1000, "ops", ""⟩

/-- A step done again. -/
def retry (b : BudgetEnvelope) : ExecutionEvent where
  eventId := "e"
  runId := "r"
  parentEventId := none
  budgetId := b.budgetId
  eventType := .agentStep
  operationKey := "search"
  agentId := "finder"
  originalPrincipalId := "alice"
  tenantId := "acme"
  goalId := "goal"
  stepId := "s"
  delegationId := b.delegationId
  modelId := none
  inputTokens := 0
  outputTokens := 0
  claimedCostMicrousd := 0
  attempt := 2
  startedAtMs := 10
  endedAtMs := 20
  irreversible := false
  p8dObservationId := none
  ownerId := "ops"
  description := ""

def manifest (budgets : List BudgetEnvelope) (allocations : List BudgetAllocation) (charged : BudgetEnvelope) :
    ExecutionBudgetManifest where
  graphId := "g"
  version := "1"
  p8aAssessmentEvidenceSha256 := hex 'a'
  p8cAssessmentEvidenceSha256 := hex 'c'
  p8dAssessmentEvidenceSha256 := hex 'd'
  createdAtEpoch := 100
  modelRates := [⟨"small", 10, 20, "ops", ""⟩]
  budgets := budgets
  allocations := allocations
  runs := [searchRun]
  events := [retry charged]
  schemaVersion := budgetSchemaVersion

def policy (m : ExecutionBudgetManifest) (digest : String) : ExecutionBudgetPolicy where
  expectedGraphId := "g"
  expectedGraphVersion := "1"
  expectedGraphSha256 := digest
  expectedP8aAssessmentEvidenceSha256 := hex 'a'
  expectedP8cAssessmentEvidenceSha256 := hex 'c'
  expectedP8dAssessmentEvidenceSha256 := hex 'd'
  requiredModelIds := ["small"]
  requiredBudgetIds := m.budgets.map (·.budgetId)
  requiredAllocationIds := m.allocations.map (·.allocationId)
  requiredRunIds := ["r"]
  requiredEventIds := ["e"]
  trustedOwnerIds := ["ops"]
  expectedModelRates := [("small", (10, 20))]
  expectedBudgetProfiles := m.budgets.map fun b => (b.budgetId, b.profile)
  expectedRunBindings := [("r", ("root", "alice", "acme", "goal"))]
  maxManifestAgeSeconds := 600
  maxFutureSkewSeconds := 60

def upstream (pin : Char) (verifiedFlag callerFlag : String) (items : String × Json) : Json :=
  .obj [("assessment_evidence_sha256", .str (hex pin)), (verifiedFlag, .bool true), (callerFlag, .bool false), items]

def delegations : Json :=
  upstream 'a' "exact_delegation_graph_binding_verified" "caller_declared_delegation_authorization_trusted"
    ("delegations", .arr [.obj [("delegation_id", .str "d"), ("decision", .str "allow")]])

def steps : Json :=
  upstream 'c' "exact_goal_plan_graph_binding_verified" "caller_declared_goal_safety_trusted"
    ("steps", .arr [.obj [("step_id", .str "s"), ("decision", .str "allow")]])

def observations : Json :=
  upstream 'd' "exact_tool_observation_graph_binding_verified" "caller_declared_tool_observation_safety_trusted"
    ("observations", .arr [])

def aloneDigest : String := "970b4f083a78f9e50011a1d0cf9a1ddf008a2024bbb1f79b84ef2582ff697da3"

def alone : ExecutionBudgetManifest := manifest [root] [] root

def aloneFacts : Check (List ExecutionBudgetFact) :=
  derive (.folded aloneDigest rfl) (policy alone aloneDigest) alone delegations steps observations 200

def delegatedDigest : String := "04efa8d48d697d482539dc5c2e23351d306d6e82b9706a470582df00c9763853"

def delegated : ExecutionBudgetManifest := manifest [root, child] [allocation] child

def delegatedFacts : Check (List ExecutionBudgetFact) :=
  derive (.folded delegatedDigest rfl) (policy delegated delegatedDigest) delegated delegations steps observations 200

/-- The one fact of a run allowed. -/
theorem fact_of_allowed {facts : Check (List ExecutionBudgetFact)}
    (h : (facts.toOption.map fun fs => fs.map fun f => (f.runId, f.decision)) = some [("r", .allow)]) :
    ∃ f, facts = .ok [f] ∧ f.runId = "r" ∧ f.decision = .allow := by
  cases facts with
  | error e => cases h
  | ok fs =>
    obtain ⟨f, rfl, hf⟩ := List.map_eq_singleton_iff.mp (Option.some.inj h)
    exact ⟨f, rfl, congrArg Prod.fst hf, congrArg Prod.snd hf⟩

end Sample

open Sample in
/-- A run under its root budget alone keeps to all of its ceilings. -/
theorem ceilings_hold_alone : ∃ f, aloneFacts = .ok [f] ∧ f.decision = .allow ∧
    ∀ b ∈ alone.budgets, Above alone.parentOf b.budgetId "root" → Respects alone b (chargedBelow alone searchRun b) := by
  obtain ⟨f, hf, hid, hd⟩ := @fact_of_allowed aloneFacts (by decide +kernel)
  refine ⟨f, hf, hd, (ceilings_hold _ alone delegations steps observations 200 [f] searchRun f hf List.mem_cons_self
    List.mem_cons_self hid hd).mpr fun b hb _ hne => ?_⟩
  rw [List.mem_singleton.mp hb] at hne
  exact absurd rfl hne

open Sample in
/-- A run is allowed although the one event charged to the delegated budget is a retry, of which
that budget allows none. -/
theorem delegated_retry_allowed : ∃ f, delegatedFacts = .ok [f] ∧ f.runId = searchRun.runId ∧ f.decision = .allow ∧
    child ∈ delegated.budgets ∧ Above delegated.parentOf child.budgetId searchRun.rootBudgetId ∧
    ¬ Respects delegated child (chargedBelow delegated searchRun child) := by
  obtain ⟨f, hf, hid, hd⟩ := @fact_of_allowed delegatedFacts (by decide +kernel)
  refine ⟨f, hf, hid, hd, by decide, .single (by decide +kernel), fun hr => ?_⟩
  have hcharged : retry child ∈ chargedBelow delegated searchRun child := by
    unfold chargedBelow
    simp only [List.mem_filter, decide_eq_true_eq]
    exact ⟨List.mem_singleton_self _, .refl⟩
  exact absurd (hr.2.retries _ hcharged) (by decide)

end Aegis.Agentic.ExecutionBudget
