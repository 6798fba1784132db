/-
  Aegis.Detection.IncidentContext — detections correlated by tenant and workload
  (incident_context.py).

  Contexts of one event are told apart from conflicting ones, grouped by the tenant and the workload
  they refer to, and summarized group by group:
  - `buildContexts_ok`: what is accepted, and the result as a function of the set of contexts.
  - `buildContexts_congr`: so neither the order of the contexts nor a repetition matters.
-/

import Aegis.Data.Checks
import Aegis.Data.Groups
import Mathlib.Data.Prod.Lex
import Mathlib.Data.String.Basic

namespace Aegis.Detection

open Data Checks

/-- `_SEVERITY_RANK`. -/
def severityRank : List (String × Nat) := [("info", 0), ("low", 1), ("medium", 2), ("high", 3), ("critical", 4)]

def rankOf (severity : String) : Nat := (severityRank.lookup severity).getD 0

/-- The key severities are sorted by. -/
def severityKey (severity : String) : Lex (Nat × String) := toLex (rankOf severity, severity)

structure DetectionIntelligenceContext where
  eventId : String
  eventTime : Int
  sourceId : String
  sourceKind : String
  eventType : String
  category : String
  action : String
  outcome : String
  severity : String
  reasonCode : String
  sequence : Int
  evidenceReferences : List (String × String)
  deriving DecidableEq, Repr

structure CorrelatedDetectionContext where
  tenantRef : String
  workloadRef : String
  contributingEventIds : List String
  evidenceReferences : List (String × String)
  severities : List String
  highestSeverity : String
  categories : List String
  deriving DecidableEq, Repr

/-- A tenant and a workload. -/
abbrev Scope := String × String

/-- `tuple(value for name, value in references if name == …)`. -/
def valuesOf (name : String) (references : List (String × String)) : List String :=
  (references.filter fun r => r.1 = name).map (·.2)

/-- The loop over the contexts: one context for each event. -/
def uniqueContexts (unique : List DetectionIntelligenceContext) :
    List DetectionIntelligenceContext → Except String (List DetectionIntelligenceContext)
  | [] => .ok unique
  | c :: cs =>
    if c.eventId = "" ∨ c.severity ∉ severityRank.map (·.1) then .error "DETECTION_CONTEXT_INVALID"
    else
      match unique.find? fun c' => c'.eventId = c.eventId with
      | some existing => if existing ≠ c then .error "CONFLICTING_EVENT_ID" else uniqueContexts unique cs
      | none => uniqueContexts (unique ++ [c]) cs

/-- The one tenant and the one workload of a context. -/
def scopeOf (c : DetectionIntelligenceContext) : Except String Scope :=
  match valuesOf "tenant_ref" c.evidenceReferences, valuesOf "workload_ref" c.evidenceReferences with
  | [tenantRef], [workloadRef] =>
    if tenantRef = "" ∨ workloadRef = "" then .error "CORRELATION_CONTEXT_REQUIRED" else .ok (tenantRef, workloadRef)
  | _, _ => .error "CORRELATION_CONTEXT_REQUIRED"

/-- The loop over the unique contexts. -/
def groupContexts (grouped : List (Scope × List DetectionIntelligenceContext)) :
    List DetectionIntelligenceContext → Except String (List (Scope × List DetectionIntelligenceContext))
  | [] => .ok grouped
  | c :: cs => do
    let scope ← scopeOf c
    groupContexts (update (· ++ [c]) scope grouped) cs

/-- A group summarized; it has a member. -/
def correlate (scope : Scope) (members : List DetectionIntelligenceContext) : CorrelatedDetectionContext :=
  let severities := sortedSet severityKey (members.map (·.severity))
  { tenantRef := scope.1
    workloadRef := scope.2
    contributingEventIds := (sortOn (·.eventId) members).map (·.eventId)
    evidenceReferences := sortedSet toLex (members.flatMap (·.evidenceReferences))
    severities := severities
    highestSeverity := severities.getLast?.getD ""
    categories := sortedSet id (members.map (·.category)) }

/-- `build_contexts`. -/
def buildContexts (contexts : List DetectionIntelligenceContext) : Except String (List CorrelatedDetectionContext) := do
  raiseIf (contexts = []) "DETECTION_CONTEXTS_REQUIRED"
  let unique ← uniqueContexts [] contexts
  let grouped ← groupContexts [] unique
  pure ((sortOn (fun g => toLex g.1) grouped).map fun g => correlate g.1 g.2)

/-! ## What is accepted -/

/-- A context of one event, with one tenant and one workload. -/
structure Correlatable (c : DetectionIntelligenceContext) : Prop where
  named : c.eventId ≠ ""
  known : c.severity ∈ severityRank.map (·.1)
  tenant : ∃ t, t ≠ "" ∧ valuesOf "tenant_ref" c.evidenceReferences = [t]
  workload : ∃ w, w ≠ "" ∧ valuesOf "workload_ref" c.evidenceReferences = [w]

/-- Contexts of one event are the same. -/
def Agree (xs : List DetectionIntelligenceContext) : Prop := ∀ c ∈ xs, ∀ c' ∈ xs, c.eventId = c'.eventId → c = c'

/-- The tenant and the workload of a context that has them. -/
def DetectionIntelligenceContext.scope (c : DetectionIntelligenceContext) : Scope :=
  ((valuesOf "tenant_ref" c.evidenceReferences).headD "", (valuesOf "workload_ref" c.evidenceReferences).headD "")

variable {unique xs ys cs u : List DetectionIntelligenceContext} {c : DetectionIntelligenceContext}

theorem scopeOf_ok {scope : Scope} : scopeOf c = .ok scope ↔
    (∃ t, t ≠ "" ∧ valuesOf "tenant_ref" c.evidenceReferences = [t]) ∧
      (∃ w, w ≠ "" ∧ valuesOf "workload_ref" c.evidenceReferences = [w]) ∧ scope = c.scope := by
  unfold scopeOf DetectionIntelligenceContext.scope
  constructor
  · intro h
    split at h
    · next t w ht hw =>
      by_cases hblank : t = "" ∨ w = ""
      · rw [if_pos hblank] at h
        cases h
      · rw [if_neg hblank] at h
        obtain ⟨ht', hw'⟩ := not_or.mp hblank
        exact ⟨⟨t, ht', ht⟩, ⟨w, hw', hw⟩, by rw [ht, hw]; exact (Except.ok.inj h).symm⟩
    · cases h
  · rintro ⟨⟨t, ht, htenant⟩, ⟨w, hw, hworkload⟩, rfl⟩
    rw [htenant, hworkload]
    simp [ht, hw]

theorem agree_of_nodup (h : (xs.map (·.eventId)).Nodup) : Agree xs := fun _ ha _ hb => List.inj_on_of_nodup_map h ha hb

/-- The unique contexts are those there are, each event once. -/
theorem uniqueContexts_ok (hn : (unique.map (·.eventId)).Nodup) (h : uniqueContexts unique cs = .ok u) :
    (∀ c ∈ cs, c.eventId ≠ "" ∧ c.severity ∈ severityRank.map (·.1)) ∧ (u.map (·.eventId)).Nodup ∧ ∀ x, x ∈ u ↔ x ∈ unique ∨ x ∈ cs := by
  induction cs generalizing unique with
  | nil =>
    obtain rfl := Except.ok.inj h
    exact ⟨nofun, hn, fun x => by simp⟩
  | cons c cs ih =>
    unfold uniqueContexts at h
    by_cases hvalid : c.eventId = "" ∨ c.severity ∉ severityRank.map (·.1)
    · rw [if_pos hvalid] at h
      cases h
    · rw [if_neg hvalid] at h
      obtain ⟨hnamed, hknown⟩ := not_or.mp hvalid
      have hc : c.eventId ≠ "" ∧ c.severity ∈ severityRank.map (·.1) := ⟨hnamed, not_not.mp hknown⟩
      cases hfind : unique.find? fun c' => c'.eventId = c.eventId with
      | some existing =>
        rw [hfind] at h
        dsimp only at h
        by_cases hsame : existing = c
        · subst hsame
          rw [if_neg (not_not_intro rfl)] at h
          obtain ⟨hall, hnodup, hmem⟩ := ih hn h
          refine ⟨List.forall_mem_cons.mpr ⟨hc, hall⟩, hnodup, fun x => ?_⟩
          rw [hmem, List.mem_cons]
          constructor
          · exact Or.imp_right .inr
          · rintro (hx | rfl | hx)
            · exact .inl hx
            · exact .inl (List.mem_of_find?_eq_some hfind)
            · exact .inr hx
        · rw [if_pos hsame] at h
          cases h
      | none =>
        rw [hfind] at h
        have hfresh : c.eventId ∉ unique.map (·.eventId) := by
          intro hin
          obtain ⟨c', hc', hid⟩ := List.mem_map.mp hin
          exact List.find?_eq_none.mp hfind c' hc' (decide_eq_true hid)
        have hn' : ((unique ++ [c]).map (·.eventId)).Nodup := by
          rw [List.map_append, List.map_singleton]
          exact List.nodup_append.mpr ⟨hn, List.nodup_singleton _, fun a ha b hb hab => hfresh (List.mem_singleton.mp hb ▸ hab ▸ ha)⟩
        obtain ⟨hall, hnodup, hmem⟩ := ih hn' h
        refine ⟨List.forall_mem_cons.mpr ⟨hc, hall⟩, hnodup, fun x => ?_⟩
        rw [hmem, List.mem_append, List.mem_singleton, List.mem_cons, or_assoc]

theorem uniqueContexts_returns (unique : List DetectionIntelligenceContext) (hvalid : ∀ c ∈ cs, c.eventId ≠ "" ∧ c.severity ∈ severityRank.map (·.1)) (ha : Agree (unique ++ cs)) :
    ∃ u, uniqueContexts unique cs = .ok u := by
  induction cs generalizing unique with
  | nil => exact ⟨unique, rfl⟩
  | cons c cs ih =>
    obtain ⟨⟨hnamed, hknown⟩, hrest⟩ := List.forall_mem_cons.mp hvalid
    unfold uniqueContexts
    rw [if_neg (not_or.mpr ⟨hnamed, not_not_intro hknown⟩)]
    cases hfind : unique.find? fun c' => c'.eventId = c.eventId with
    | some existing =>
      have hid : existing.eventId = c.eventId := by simpa using List.find?_some hfind
      obtain rfl := ha existing (List.mem_append_left _ (List.mem_of_find?_eq_some hfind)) c
        (List.mem_append_right _ List.mem_cons_self) hid
      dsimp only
      rw [if_neg (not_not_intro rfl)]
      have hsub : ∀ x, x ∈ unique ++ cs → x ∈ unique ++ existing :: cs := fun x hx =>
        List.mem_append.mpr ((List.mem_append.mp hx).imp_right (List.mem_cons_of_mem _))
      exact ih _ hrest fun x hx y hy => ha x (hsub x hx) y (hsub y hy)
    | none =>
      refine ih _ hrest ?_
      rw [List.append_assoc]
      exact ha

theorem uniqueContexts_nil (h : uniqueContexts [] cs = .ok u) :
    (∀ c ∈ cs, c.eventId ≠ "" ∧ c.severity ∈ severityRank.map (·.1)) ∧ (u.map (·.eventId)).Nodup ∧ ∀ x, x ∈ u ↔ x ∈ cs := by
  have hnil : (([] : List DetectionIntelligenceContext).map (·.eventId)).Nodup := List.nodup_nil
  obtain ⟨hall, hnodup, hmem⟩ := uniqueContexts_ok hnil h
  exact ⟨hall, hnodup, fun x => by simp [hmem]⟩

/-- A group holds the contexts of its scope in their order. -/
theorem groupContexts_ok {groups g : List (Scope × List DetectionIntelligenceContext)} (hn : (groups.map (·.1)).Nodup)
    (h : groupContexts groups cs = .ok g) :
    (∀ c ∈ cs, scopeOf c = .ok c.scope) ∧ (g.map (·.1)).Nodup ∧ (∀ s, s ∈ g.map (·.1) ↔ s ∈ groups.map (·.1) ∨ s ∈ cs.map (·.scope)) ∧
      ∀ s, groupAt g s = groupAt groups s ++ cs.filter fun c => c.scope = s := by
  induction cs generalizing groups with
  | nil =>
    obtain rfl := Except.ok.inj h
    exact ⟨nofun, hn, fun s => by simp, fun s => by simp⟩
  | cons c cs ih =>
    rw [groupContexts, ok_bind] at h
    obtain ⟨scope, hscope, hrest⟩ := h
    obtain rfl := (scopeOf_ok.mp hscope).2.2
    obtain ⟨hall, hnodup, hkeys, hgroups⟩ := ih (nodup_keys_update hn) hrest
    refine ⟨List.forall_mem_cons.mpr ⟨hscope, hall⟩, hnodup, fun s => ?_, fun s => ?_⟩
    · rw [hkeys, mem_keys_update, List.map_cons, List.mem_cons]
      tauto
    · rw [hgroups, groupAt_update]
      by_cases hs : c.scope = s
      · subst hs
        rw [if_pos rfl, List.filter_cons_of_pos (by simp), List.append_assoc]
        rfl
      · rw [if_neg hs, List.filter_cons_of_neg (by simpa using hs)]

theorem groupContexts_nil {g : List (Scope × List DetectionIntelligenceContext)} (h : groupContexts [] cs = .ok g) :
    (∀ c ∈ cs, scopeOf c = .ok c.scope) ∧ (g.map (·.1)).Nodup ∧ (∀ s, s ∈ g.map (·.1) ↔ s ∈ cs.map (·.scope)) ∧
      ∀ s, groupAt g s = cs.filter fun c => c.scope = s := by
  have hnil : (([] : List (Scope × List DetectionIntelligenceContext)).map (·.1)).Nodup := List.nodup_nil
  obtain ⟨hall, hnodup, hkeys, hgroups⟩ := groupContexts_ok hnil h
  exact ⟨hall, hnodup, fun s => (hkeys s).trans ⟨fun h => h.resolve_left nofun, .inr⟩, hgroups⟩

theorem groupContexts_returns (groups : List (Scope × List DetectionIntelligenceContext)) (h : ∀ c ∈ cs, scopeOf c = .ok c.scope) :
    ∃ g, groupContexts groups cs = .ok g := by
  induction cs generalizing groups with
  | nil => exact ⟨groups, rfl⟩
  | cons c cs ih =>
    obtain ⟨hc, hrest⟩ := List.forall_mem_cons.mp h
    obtain ⟨g, hg⟩ : ∃ g, groupContexts (update (· ++ [c]) c.scope groups) cs = .ok g := ih _ hrest
    refine ⟨g, ?_⟩
    rw [groupContexts, hc]
    exact hg

/-! ## The result -/

theorem severityKey_injective : Function.Injective severityKey := fun _ _ h => (Prod.mk.inj (toLex.injective h)).2

/-- A summary depends on which contexts there are. -/
theorem correlate_congr {scope : Scope} (hx : (xs.map (·.eventId)).Nodup) (hy : (ys.map (·.eventId)).Nodup) (h : ∀ c, c ∈ xs ↔ c ∈ ys) :
    correlate scope xs = correlate scope ys := by
  have hperm : xs.Perm ys := (List.perm_ext_iff_of_nodup hx.of_map hy.of_map).mpr h
  have hids : sortOn DetectionIntelligenceContext.eventId xs = sortOn DetectionIntelligenceContext.eventId ys :=
    sortOn_perm hperm fun a ha b hb => agree_of_nodup hx a ha b hb
  have hrefs : sortedSet toLex (xs.flatMap (·.evidenceReferences)) = sortedSet toLex (ys.flatMap (·.evidenceReferences)) :=
    sortedSet_congr _ (fun a _ b _ hab => toLex.injective hab) fun a => by simp [h]
  have hseverities : sortedSet severityKey (xs.map (·.severity)) = sortedSet severityKey (ys.map (·.severity)) :=
    sortedSet_congr _ (fun a _ b _ hab => severityKey_injective hab) fun a => by simp [h]
  have hcategories : sortedSet id (xs.map (·.category)) = sortedSet id (ys.map (·.category)) :=
    sortedSet_congr _ (fun a _ b _ hab => hab) fun a => by simp [h]
  rw [correlate, correlate, hids, hrefs, hseverities, hcategories]

/-- The summaries of a set of contexts. -/
def correlated (xs : List DetectionIntelligenceContext) : List CorrelatedDetectionContext :=
  (sortedSet toLex (xs.map (·.scope))).map fun s => correlate s (xs.dedup.filter fun c => c.scope = s)

theorem nodup_members (ha : Agree xs) (s : Scope) : (((xs.dedup.filter fun c => c.scope = s)).map (·.eventId)).Nodup := by
  refine (List.nodup_map_iff_inj_on (xs.nodup_dedup.filter _)).mpr fun a hx b hy => ?_
  exact ha a (List.mem_dedup.mp (List.mem_filter.mp hx).1) b (List.mem_dedup.mp (List.mem_filter.mp hy).1)

/-- What `build_contexts` accepts, and what it returns. -/
theorem buildContexts_ok {result : List CorrelatedDetectionContext} : buildContexts xs = .ok result ↔
    xs ≠ [] ∧ (∀ c ∈ xs, Correlatable c) ∧ Agree xs ∧ result = correlated xs := by
  have hresult : ∀ u g, uniqueContexts [] xs = .ok u → groupContexts [] u = .ok g →
      ((sortOn (fun g => toLex g.1) g).map fun g => correlate g.1 g.2) = correlated xs := by
    intro u g hu hg
    obtain ⟨-, hnodup, hmem⟩ := uniqueContexts_nil hu
    obtain ⟨-, hkeys, hscopes, hgroups⟩ := groupContexts_nil hg
    have hagree : Agree xs := fun x hx y hy => agree_of_nodup hnodup x ((hmem x).mpr hx) y ((hmem y).mpr hy)
    have hsorted : sortOn toLex (g.map (·.1)) = sortedSet toLex (xs.map (·.scope)) := by
      rw [← sortedSet_of_nodup hkeys]
      exact sortedSet_congr _ (fun a _ b _ hab => toLex.injective hab) fun s => by simp [hscopes, hmem]
    rw [sortOn_groups toLex.injective hkeys, hsorted, List.map_map, correlated]
    refine List.map_congr_left fun s _ => ?_
    show correlate s (groupAt g s) = _
    have hgroup : ((u.filter fun c => c.scope = s).map (·.eventId)).Nodup := hnodup.sublist (List.filter_sublist.map _)
    rw [hgroups]
    exact correlate_congr hgroup (nodup_members hagree s) fun c => by simp [hmem]
  simp only [buildContexts, raiseIf_ok, ok_bind]
  constructor
  · rintro ⟨-, hne, u, hu, g, hg, he⟩
    obtain ⟨hvalid, hnodup, hmem⟩ := uniqueContexts_nil hu
    obtain ⟨hscoped, -⟩ := groupContexts_nil hg
    refine ⟨hne, fun c hc => ?_, fun x hx y hy => agree_of_nodup hnodup x ((hmem x).mpr hx) y ((hmem y).mpr hy),
      (Except.ok.inj he).symm.trans (hresult u g hu hg)⟩
    obtain ⟨htenant, hworkload, -⟩ := scopeOf_ok.mp (hscoped c ((hmem c).mpr hc))
    exact ⟨(hvalid c hc).1, (hvalid c hc).2, htenant, hworkload⟩
  · rintro ⟨hne, hall, hagree, rfl⟩
    obtain ⟨u, hu⟩ := uniqueContexts_returns [] (fun c hc => ⟨(hall c hc).named, (hall c hc).known⟩) hagree
    obtain ⟨-, -, hmem⟩ := uniqueContexts_nil hu
    obtain ⟨g, hg⟩ := groupContexts_returns [] fun c hc => by
      have hc' : c ∈ xs := (hmem c).mp hc
      exact scopeOf_ok.mpr ⟨(hall c hc').tenant, (hall c hc').workload, rfl⟩
    exact ⟨(), hne, u, hu, g, hg, congrArg Except.ok (hresult u g hu hg)⟩

theorem correlated_congr (ha : Agree xs) (h : ∀ c, c ∈ xs ↔ c ∈ ys) : correlated xs = correlated ys := by
  have hb : Agree ys := fun c hc c' hc' => ha c ((h c).mpr hc) c' ((h c').mpr hc')
  have hscopes : sortedSet toLex (xs.map (·.scope)) = sortedSet toLex (ys.map (·.scope)) :=
    sortedSet_congr _ (fun a _ b _ hab => toLex.injective hab) fun s => by simp [h]
  rw [correlated, correlated, hscopes]
  exact List.map_congr_left fun s _ => correlate_congr (nodup_members ha s) (nodup_members hb s) fun c => by simp [h]

/-- Neither the order of the contexts nor a repetition matters. -/
theorem buildContexts_congr (h : ∀ c, c ∈ xs ↔ c ∈ ys) : (buildContexts xs).toOption = (buildContexts ys).toOption := by
  have himp : ∀ {xs ys : List DetectionIntelligenceContext} {result}, (∀ c, c ∈ xs ↔ c ∈ ys) →
      buildContexts xs = .ok result → buildContexts ys = .ok result := by
    intro xs ys result h hx
    obtain ⟨hne, hall, hagree, rfl⟩ := buildContexts_ok.mp hx
    obtain ⟨x, hmem⟩ := List.exists_mem_of_ne_nil xs hne
    exact buildContexts_ok.mpr ⟨List.ne_nil_of_mem ((h x).mp hmem), fun c hc => hall c ((h c).mpr hc),
      fun c hc c' hc' => hagree c ((h c).mpr hc) c' ((h c').mpr hc'), correlated_congr hagree h⟩
  cases hx : buildContexts xs with
  | ok result => rw [himp h hx]
  | error e =>
    cases hy : buildContexts ys with
    | ok result => exact absurd ((himp (fun c => (h c).symm) hy).symm.trans hx) nofun
    | error e' => rfl

end Aegis.Detection
