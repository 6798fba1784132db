/-
  Aegis.Incidents.Intake — incidents opened for correlated detections (intake.py).

  A correlated context is validated, its events are claimed for its tenant and workload, and the
  contexts of one tenant and workload are merged into one incident:
  - `intake_ok`: what is accepted, and the result as a function of the set of contexts.
  - `intake_lossless`: correlation and intake together partition the events.
  - `buildContexts_nothing`: no contexts at all are refused too.
-/

import Aegis.Detection.IncidentContext
import Aegis.Incidents.Lifecycle

namespace Aegis.Incidents

open Data Data.Checks
open Detection (CorrelatedDetectionContext DetectionIntelligenceContext Scope valuesOf Correlatable Agree buildContexts buildContexts_ok
  correlate correlated)

/-- `_SEVERITY_RANK`. -/
def severityRank : List (String × Nat) := [("info", 0), ("low", 1), ("medium", 2), ("high", 3), ("critical", 4)]

def rankOf (severity : String) : Nat := (severityRank.lookup severity).getD 0

/-- The key severities are sorted by. -/
def severityKey (severity : String) : Lex (Nat × String) := toLex (rankOf severity, severity)

/-- `IncidentIntakeRecord`, with what its lifecycle does not read. -/
structure IntakeRecord extends IncidentIntakeRecord where
  severities : List String
  highestSeverity : String
  categories : List String
  deriving DecidableEq, Repr

/-- `_incident_id`. -/
def incidentId (hexdigest : Json → String) (scope : Scope) : String :=
  "incident-" ++ String.ofList ((hexdigest (.obj [("tenant_ref", .str scope.1), ("workload_ref", .str scope.2)])).toList.take 32)

/-- `max(xs, key=…)`: the first item of the greatest key. -/
def maxOn (key : String → Nat) (xs : List String) : Option String :=
  xs.foldl (fun best x =>
    match best with
    | none => some x
    | some b => if key b < key x then some x else some b) none

/-- `_validate`. -/
def validate (context : CorrelatedDetectionContext) : Except String Unit := do
  raiseIf (context.tenantRef = "" ∨ context.workloadRef = "" ∨ context.contributingEventIds = [] ∨ context.evidenceReferences = [] ∨
    context.severities = [] ∨ context.categories = [] ∨ context.highestSeverity ∉ severityRank.map (·.1) ∨
    ∃ s ∈ context.severities, s ∉ severityRank.map (·.1)) "CORRELATED_DETECTION_CONTEXT_INVALID"
  raiseIf (¬ context.contributingEventIds.Nodup ∨ ¬ context.evidenceReferences.Nodup ∨ ¬ context.severities.Nodup ∨
    ¬ context.categories.Nodup) "CORRELATED_DETECTION_CONTEXT_DUPLICATE"
  raiseIf (valuesOf "tenant_ref" context.evidenceReferences ≠ [context.tenantRef] ∨
    valuesOf "workload_ref" context.evidenceReferences ≠ [context.workloadRef]) "INCIDENT_SCOPE_MISMATCH"
  raiseIf (some context.highestSeverity ≠ maxOn rankOf context.severities) "INCIDENT_SEVERITY_MISMATCH"

def scope (context : CorrelatedDetectionContext) : Scope := (context.tenantRef, context.workloadRef)

/-- The loop over the events of a context: each is of one scope. -/
def claimEvents (scope : Scope) (eventScope : List (String × Scope)) : List String → Except String (List (String × Scope))
  | [] => .ok eventScope
  | eventId :: rest =>
    match eventScope.lookup eventId with
    | some prior => if prior ≠ scope then .error "CROSS_TENANT_EVENT_CONFLICT" else claimEvents scope eventScope rest
    | none => claimEvents scope ((eventId, scope) :: eventScope) rest

/-- The loop over the contexts. -/
def groupScopes (grouped : List (Scope × List CorrelatedDetectionContext)) (eventScope : List (String × Scope)) :
    List CorrelatedDetectionContext → Except String (List (Scope × List CorrelatedDetectionContext))
  | [] => .ok grouped
  | context :: rest => do
    validate context
    let eventScope ← claimEvents (scope context) eventScope context.contributingEventIds
    groupScopes (update (fun members => if context ∈ members then members else members ++ [context]) (scope context) grouped) eventScope rest

/-- The incident of a group; it has a member. -/
def incident (hexdigest : Json → String) (scope : Scope) (members : List CorrelatedDetectionContext) : IntakeRecord :=
  let severities := sortedSet severityKey (members.flatMap (·.severities))
  { incidentId := incidentId hexdigest scope
    tenantRef := scope.1
    workloadRef := scope.2
    contributingEventIds := sortedSet id (members.flatMap (·.contributingEventIds))
    evidenceReferences := sortedSet toLex (members.flatMap (·.evidenceReferences))
    severities := severities
    highestSeverity := severities.getLast?.getD ""
    categories := sortedSet id (members.flatMap (·.categories)) }

/-- `intake`. -/
def intake (hexdigest : Json → String) (contexts : List CorrelatedDetectionContext) : Except String (List IntakeRecord) := do
  raiseIf (contexts = []) "CORRELATED_DETECTION_CONTEXTS_REQUIRED"
  let grouped ← groupScopes [] [] contexts
  pure ((sortOn (fun g => toLex g.1) grouped).map fun g => incident hexdigest g.1 g.2)

/-! ## What is accepted -/

variable {hexdigest : Json → String} {cs : List CorrelatedDetectionContext} {known : List (String × Scope)}

/-- No event is of two scopes. -/
def OneScope (cs : List CorrelatedDetectionContext) : Prop :=
  ∀ c ∈ cs, ∀ c' ∈ cs, ∀ id ∈ c.contributingEventIds, id ∈ c'.contributingEventIds → scope c = scope c'

variable {s : Scope} {ids : List String}

theorem lookup_cons {id id' : String} :
    ((id, s) :: known).lookup id' = if id' = id then some s else known.lookup id' := by
  rw [List.lookup_cons]
  by_cases h : id' = id
  · simp [h]
  · simp [h, beq_eq_false_iff_ne.mpr h]

theorem claimEvents_ok {k : List (String × Scope)} (h : claimEvents s known ids = .ok k) :
    (∀ id ∈ ids, ∀ prior, known.lookup id = some prior → prior = s) ∧ ∀ id, k.lookup id = if id ∈ ids then some s else known.lookup id := by
  induction ids generalizing known with
  | nil =>
    obtain rfl := Except.ok.inj h
    exact ⟨nofun, fun id => by simp⟩
  | cons id ids ih =>
    unfold claimEvents at h
    cases hprior : known.lookup id with
    | some prior =>
      rw [hprior] at h
      dsimp only at h
      by_cases hsame : prior = s
      · subst hsame
        rw [if_neg (not_not_intro rfl)] at h
        obtain ⟨hall, hlookup⟩ := ih h
        refine ⟨List.forall_mem_cons.mpr ⟨fun p hp => Option.some.inj (hp.symm.trans hprior), hall⟩, fun id' => ?_⟩
        rw [hlookup]
        by_cases hid : id' = id
        · subst hid
          simp [hprior]
        · simp [hid]
      · rw [if_pos hsame] at h
        cases h
    | none =>
      rw [hprior] at h
      obtain ⟨hall, hlookup⟩ := ih h
      refine ⟨List.forall_mem_cons.mpr ⟨fun p hp => absurd (hp.symm.trans hprior) nofun, fun id' hid' p hp => ?_⟩, fun id' => ?_⟩
      · have hne : id' ≠ id := fun heq => absurd ((heq ▸ hp).symm.trans hprior) nofun
        exact hall id' hid' p (by rw [lookup_cons, if_neg hne, hp])
      · rw [hlookup, lookup_cons]
        by_cases hid : id' = id
        · simp [hid]
        · simp [hid]

theorem claimEvents_returns (h : ∀ id ∈ ids, ∀ prior, known.lookup id = some prior → prior = s) :
    ∃ k, claimEvents s known ids = .ok k := by
  induction ids generalizing known with
  | nil => exact ⟨known, rfl⟩
  | cons id ids ih =>
    obtain ⟨hid, hrest⟩ := List.forall_mem_cons.mp h
    unfold claimEvents
    cases hprior : known.lookup id with
    | some prior =>
      dsimp only
      rw [if_neg (not_not_intro (hid prior hprior))]
      exact ih hrest
    | none =>
      refine ih fun id' hid' p hp => ?_
      rw [lookup_cons] at hp
      by_cases heq : id' = id
      · rw [if_pos heq] at hp
        exact (Option.some.inj hp).symm
      · rw [if_neg heq] at hp
        exact hrest id' hid' p hp

/-- What the loop accepts, given the events claimed before it. -/
structure Accepted (known : List (String × Scope)) (cs : List CorrelatedDetectionContext) : Prop where
  valid : ∀ c ∈ cs, validate c = .ok ()
  before : ∀ c ∈ cs, ∀ id ∈ c.contributingEventIds, ∀ prior, known.lookup id = some prior → prior = scope c
  oneScope : OneScope cs

theorem groupScopes_ok {groups g : List (Scope × List CorrelatedDetectionContext)} (hn : (groups.map (·.1)).Nodup)
    (h : groupScopes groups known cs = .ok g) :
    Accepted known cs ∧ (g.map (·.1)).Nodup ∧ (∀ s, s ∈ g.map (·.1) ↔ s ∈ groups.map (·.1) ∨ s ∈ cs.map scope) ∧
      ∀ s x, x ∈ groupAt g s ↔ x ∈ groupAt groups s ∨ x ∈ cs ∧ scope x = s := by
  induction cs generalizing groups known with
  | nil =>
    obtain rfl := Except.ok.inj h
    exact ⟨⟨nofun, nofun, nofun⟩, hn, fun s => by simp, fun s x => by simp⟩
  | cons c cs ih =>
    simp only [groupScopes, ok_bind] at h
    obtain ⟨_, hvalid, k, hclaim, hrest⟩ := h
    obtain ⟨hbefore, hlookup⟩ := claimEvents_ok hclaim
    obtain ⟨haccepted, hnodup, hkeys, hgroups⟩ := ih (nodup_keys_update hn) hrest
    have hlater : ∀ c' ∈ cs, ∀ id ∈ c'.contributingEventIds, id ∈ c.contributingEventIds → scope c = scope c' := fun c' hc' id hid hin =>
      haccepted.before c' hc' id hid _ (by rw [hlookup, if_pos hin])
    refine ⟨⟨List.forall_mem_cons.mpr ⟨hvalid, haccepted.valid⟩, List.forall_mem_cons.mpr ⟨hbefore, fun c' hc' id hid p hp => ?_⟩, ?_⟩,
      hnodup, fun s => ?_, fun s x => ?_⟩
    · by_cases hin : id ∈ c.contributingEventIds
      · rw [hbefore id hin p hp]
        exact hlater c' hc' id hid hin
      · exact haccepted.before c' hc' id hid p (by rw [hlookup, if_neg hin, hp])
    · intro a ha b hb id hida hidb
      rcases List.mem_cons.mp ha with rfl | ha'
      · rcases List.mem_cons.mp hb with rfl | hb'
        · rfl
        · exact hlater b hb' id hidb hida
      · rcases List.mem_cons.mp hb with rfl | hb'
        · exact (hlater a ha' id hida hidb).symm
        · exact haccepted.oneScope a ha' b hb' id hida hidb
    · rw [hkeys, mem_keys_update, List.map_cons, List.mem_cons]
      tauto
    · rw [hgroups, groupAt_update, List.mem_cons]
      by_cases hs : scope c = s
      · subst hs
        rw [if_pos rfl]
        by_cases hin : c ∈ groupAt groups (scope c)
        · rw [if_pos hin]
          constructor
          · rintro (hx | ⟨hx, hxs⟩)
            · exact .inl hx
            · exact .inr ⟨.inr hx, hxs⟩
          · rintro (hx | ⟨rfl | hx, hxs⟩)
            · exact .inl hx
            · exact .inl hin
            · exact .inr ⟨hx, hxs⟩
        · rw [if_neg hin, List.mem_append, List.mem_singleton]
          constructor
          · rintro ((hx | rfl) | ⟨hx, hxs⟩)
            · exact .inl hx
            · exact .inr ⟨.inl rfl, rfl⟩
            · exact .inr ⟨.inr hx, hxs⟩
          · rintro (hx | ⟨rfl | hx, hxs⟩)
            · exact .inl (.inl hx)
            · exact .inl (.inr rfl)
            · exact .inr ⟨hx, hxs⟩
      · rw [if_neg hs]
        refine or_congr_right ⟨fun ⟨hx, hxs⟩ => ⟨.inr hx, hxs⟩, ?_⟩
        rintro ⟨rfl | hx, hxs⟩
        · exact absurd hxs hs
        · exact ⟨hx, hxs⟩

theorem groupScopes_returns (groups : List (Scope × List CorrelatedDetectionContext)) (h : Accepted known cs) :
    ∃ g, groupScopes groups known cs = .ok g := by
  induction cs generalizing groups known with
  | nil => exact ⟨groups, rfl⟩
  | cons c cs ih =>
    obtain ⟨k, hclaim⟩ := claimEvents_returns (h.before c List.mem_cons_self)
    obtain ⟨-, hlookup⟩ := claimEvents_ok hclaim
    have hrest : Accepted k cs := by
      refine ⟨fun c' hc' => h.valid c' (List.mem_cons_of_mem _ hc'), fun c' hc' id hid p hp => ?_, fun a ha b hb =>
        h.oneScope a (List.mem_cons_of_mem _ ha) b (List.mem_cons_of_mem _ hb)⟩
      rw [hlookup] at hp
      by_cases hin : id ∈ c.contributingEventIds
      · rw [if_pos hin] at hp
        rw [← Option.some.inj hp]
        exact h.oneScope c List.mem_cons_self c' (List.mem_cons_of_mem _ hc') id hin hid
      · rw [if_neg hin] at hp
        exact h.before c' (List.mem_cons_of_mem _ hc') id hid p hp
    obtain ⟨g, hg⟩ := ih (update (fun members => if c ∈ members then members else members ++ [c]) (scope c) groups) hrest
    refine ⟨g, ?_⟩
    simp only [groupScopes, ok_bind]
    exact ⟨(), h.valid c List.mem_cons_self, k, hclaim, hg⟩

/-! ## The result -/

theorem severityKey_injective : Function.Injective severityKey := fun _ _ h => (Prod.mk.inj (toLex.injective h)).2

/-- An incident depends on what its contexts hold together. -/
theorem incident_congr {ms ms' : List CorrelatedDetectionContext}
    (hids : ∀ x, x ∈ ms.flatMap (·.contributingEventIds) ↔ x ∈ ms'.flatMap (·.contributingEventIds))
    (hrefs : ∀ x, x ∈ ms.flatMap (·.evidenceReferences) ↔ x ∈ ms'.flatMap (·.evidenceReferences))
    (hseverities : ∀ x, x ∈ ms.flatMap (·.severities) ↔ x ∈ ms'.flatMap (·.severities))
    (hcategories : ∀ x, x ∈ ms.flatMap (·.categories) ↔ x ∈ ms'.flatMap (·.categories)) :
    incident hexdigest s ms = incident hexdigest s ms' := by
  have h1 := sortedSet_congr id (fun a _ b _ hab => hab) hids
  have h2 := sortedSet_congr toLex (fun a _ b _ hab => toLex.injective hab) hrefs
  have h3 := sortedSet_congr severityKey (fun a _ b _ hab => severityKey_injective hab) hseverities
  have h4 := sortedSet_congr id (fun a _ b _ hab => hab) hcategories
  rw [incident, incident, h1, h2, h3, h4]

/-- The incidents of a set of contexts. -/
def incidents (hexdigest : Json → String) (cs : List CorrelatedDetectionContext) : List IntakeRecord :=
  (sortedSet toLex (cs.map scope)).map fun s => incident hexdigest s (cs.filter fun c => scope c = s)

/-- What `intake` accepts, and what it returns. -/
theorem intake_ok {result : List IntakeRecord} : intake hexdigest cs = .ok result ↔
    cs ≠ [] ∧ Accepted [] cs ∧ result = incidents hexdigest cs := by
  have hnil : (([] : List (Scope × List CorrelatedDetectionContext)).map (·.1)).Nodup := List.nodup_nil
  have hresult : ∀ g, groupScopes [] [] cs = .ok g →
      ((sortOn (fun g => toLex g.1) g).map fun g => incident hexdigest g.1 g.2) = incidents hexdigest cs := by
    intro g hg
    obtain ⟨-, hkeys, hscopes, hgroups⟩ := groupScopes_ok hnil hg
    have hmem : ∀ s x, x ∈ groupAt g s ↔ x ∈ cs.filter fun c => scope c = s := fun s x => by
      rw [hgroups, List.mem_filter, decide_eq_true_eq]
      exact ⟨fun h => h.resolve_left nofun, .inr⟩
    have hsorted : sortOn toLex (g.map (·.1)) = sortedSet toLex (cs.map scope) := by
      rw [← sortedSet_of_nodup hkeys]
      exact sortedSet_congr _ (fun a _ b _ hab => toLex.injective hab) fun s => (hscopes s).trans ⟨fun h => h.resolve_left nofun, .inr⟩
    rw [sortOn_groups toLex.injective hkeys, hsorted, List.map_map, incidents]
    refine List.map_congr_left fun s _ => ?_
    show incident hexdigest s (groupAt g s) = _
    apply incident_congr
    · exact fun x => by simp only [List.mem_flatMap, hmem]
    · exact fun x => by simp only [List.mem_flatMap, hmem]
    · exact fun x => by simp only [List.mem_flatMap, hmem]
    · exact fun x => by simp only [List.mem_flatMap, hmem]
  simp only [intake, raiseIf_ok, ok_bind]
  constructor
  · rintro ⟨-, hne, g, hg, he⟩
    exact ⟨hne, (groupScopes_ok hnil hg).1, (Except.ok.inj he).symm.trans (hresult g hg)⟩
  · rintro ⟨hne, haccepted, rfl⟩
    obtain ⟨g, hg⟩ := groupScopes_returns [] haccepted
    exact ⟨(), hne, g, hg, congrArg Except.ok (hresult g hg)⟩

/-! ## Correlated contexts -/

variable {xs ys ms : List DetectionIntelligenceContext} {refs : List (String × String)}

theorem mem_correlated {a : CorrelatedDetectionContext} :
    a ∈ correlated xs ↔ ∃ s ∈ xs.map (·.scope), correlate s (xs.dedup.filter fun c => c.scope = s) = a := by
  simp only [correlated, List.mem_map, mem_sortedSet]

theorem mem_scopes : s ∈ (correlated xs).map scope ↔ s ∈ xs.map (·.scope) := by
  simp only [correlated, List.map_map, List.mem_map, mem_sortedSet]
  exact ⟨fun ⟨_, h, hs⟩ => hs ▸ h, fun h => ⟨s, h, rfl⟩⟩

/-- A field of a summary holds what a field of the contexts holds. -/
def Collects {α : Type} (f : CorrelatedDetectionContext → List α) (g : DetectionIntelligenceContext → List α) : Prop :=
  ∀ s ms x, x ∈ f (correlate s ms) ↔ ∃ c ∈ ms, x ∈ g c

theorem collects_events : Collects (·.contributingEventIds) fun c => [c.eventId] := fun s ms x => by
  simp [correlate, eq_comm]

theorem collects_references : Collects (·.evidenceReferences) (·.evidenceReferences) := fun s ms x => by
  simp [correlate]

theorem collects_severities : Collects (·.severities) fun c => [c.severity] := fun s ms x => by
  simp [correlate, eq_comm]

theorem collects_categories : Collects (·.categories) fun c => [c.category] := fun s ms x => by
  simp [correlate, eq_comm]

/-- What the summaries of one scope hold is what the contexts of that scope do. -/
theorem mem_collected {α : Type} {f : CorrelatedDetectionContext → List α} {g : DetectionIntelligenceContext → List α}
    (h : Collects f g) {x : α} :
    x ∈ ((correlated xs).filter fun c => scope c = s).flatMap f ↔ ∃ c ∈ xs, c.scope = s ∧ x ∈ g c := by
  simp only [List.mem_flatMap, List.mem_filter, decide_eq_true_eq, mem_correlated]
  constructor
  · rintro ⟨-, ⟨⟨s', -, rfl⟩, hs⟩, hx⟩
    obtain rfl : s' = s := hs
    obtain ⟨c, hc, hxc⟩ := (h _ _ x).mp hx
    obtain ⟨hmem, hscope⟩ := List.mem_filter.mp hc
    exact ⟨c, List.mem_dedup.mp hmem, of_decide_eq_true hscope, hxc⟩
  · rintro ⟨c, hc, rfl, hx⟩
    refine ⟨_, ⟨⟨c.scope, List.mem_map_of_mem hc, rfl⟩, rfl⟩, (h _ _ x).mpr ⟨c, ?_, hx⟩⟩
    exact List.mem_filter.mpr ⟨List.mem_dedup.mpr hc, decide_eq_true rfl⟩

/-- Two batches merged into incidents are one batch correlated. -/
theorem incidents_merge : incidents hexdigest (correlated xs ++ correlated ys) = incidents hexdigest (correlated (xs ++ ys)) := by
  have hscopes : sortedSet toLex ((correlated xs ++ correlated ys).map scope) = sortedSet toLex ((correlated (xs ++ ys)).map scope) := by
    refine sortedSet_congr _ (fun a _ b _ hab => toLex.injective hab) fun s => ?_
    rw [List.map_append, List.mem_append, mem_scopes, mem_scopes, mem_scopes, List.map_append, List.mem_append]
  have hcollected : ∀ {α : Type} {f : CorrelatedDetectionContext → List α} {g : DetectionIntelligenceContext → List α}, Collects f g →
      ∀ s x, x ∈ ((correlated xs ++ correlated ys).filter fun c => scope c = s).flatMap f ↔
        x ∈ ((correlated (xs ++ ys)).filter fun c => scope c = s).flatMap f := by
    intro α f g h s x
    rw [List.filter_append, List.flatMap_append, List.mem_append, mem_collected h, mem_collected h, mem_collected h]
    simp only [List.mem_append, or_and_right, exists_or]
  rw [incidents, incidents, hscopes]
  refine List.map_congr_left fun s _ => ?_
  exact incident_congr (hcollected collects_events s) (hcollected collects_references s) (hcollected collects_severities s)
    (hcollected collects_categories s)

/-! ## Intake accepts what correlation returns -/

theorem eq_singleton_of_nodup {α : Type} {xs : List α} {a : α} (hn : xs.Nodup) (ha : a ∈ xs) (h : ∀ x ∈ xs, x = a) : xs = [a] := by
  cases xs with
  | nil => cases ha
  | cons x xs =>
    obtain rfl := h x List.mem_cons_self
    cases xs with
    | nil => rfl
    | cons y ys =>
      have hy := h y (List.mem_cons_of_mem _ List.mem_cons_self)
      exact absurd (hy ▸ List.mem_cons_self) (List.nodup_cons.mp hn).1

theorem valuesOf_eq {name v : String} (hn : refs.Nodup) (hin : (name, v) ∈ refs)
    (h : ∀ r ∈ refs, r.1 = name → r.2 = v) : valuesOf name refs = [v] := by
  have hone : refs.filter (fun r => r.1 = name) = [(name, v)] := by
    refine eq_singleton_of_nodup (hn.filter _) (List.mem_filter.mpr ⟨hin, decide_eq_true rfl⟩) fun r hr => ?_
    obtain ⟨hmem, hname⟩ := List.mem_filter.mp hr
    have hname' : r.1 = name := of_decide_eq_true hname
    exact Prod.ext hname' (h r hmem hname')
  rw [valuesOf, hone]
  rfl

theorem mem_of_valuesOf {name v : String} (h : valuesOf name refs = [v]) :
    (name, v) ∈ refs ∧ ∀ r ∈ refs, r.1 = name → r.2 = v := by
  have hmem : ∀ w, w ∈ valuesOf name refs ↔ (name, w) ∈ refs := by
    intro w
    simp [valuesOf]
  refine ⟨(hmem v).mp (h ▸ List.mem_cons_self), fun r hr hname => ?_⟩
  have hr' : r.2 ∈ valuesOf name refs := (hmem r.2).mpr (hname ▸ hr)
  rw [h] at hr'
  exact List.mem_singleton.mp hr'

theorem maxOn_spec (key : String → Nat) {xs : List String} (hne : xs ≠ []) :
    ∃ m, maxOn key xs = some m ∧ m ∈ xs ∧ ∀ x ∈ xs, key x ≤ key m := by
  have hfold : ∀ (xs : List String) (b : String), ∃ m, xs.foldl (fun best x =>
      match best with
      | none => some x
      | some b => if key b < key x then some x else some b) (some b) = some m ∧ (m = b ∨ m ∈ xs) ∧ key b ≤ key m ∧ ∀ x ∈ xs, key x ≤ key m := by
    intro xs
    induction xs with
    | nil => exact fun b => ⟨b, rfl, .inl rfl, Nat.le_refl _, nofun⟩
    | cons x xs ih =>
      intro b
      rw [List.foldl_cons]
      dsimp only
      by_cases hlt : key b < key x
      · rw [if_pos hlt]
        obtain ⟨m, hm, hin, hle, hall⟩ := ih x
        refine ⟨m, hm, .inr (hin.elim (fun h => h ▸ List.mem_cons_self) (List.mem_cons_of_mem _)), by omega, ?_⟩
        exact List.forall_mem_cons.mpr ⟨hle, hall⟩
      · rw [if_neg hlt]
        obtain ⟨m, hm, hin, hle, hall⟩ := ih b
        exact ⟨m, hm, hin.imp_right (List.mem_cons_of_mem _), hle, List.forall_mem_cons.mpr ⟨by omega, hall⟩⟩
  cases xs with
  | nil => exact absurd rfl hne
  | cons x xs =>
    obtain ⟨m, hm, hin, hle, hall⟩ := hfold xs x
    exact ⟨m, hm, List.mem_cons.mpr hin, List.forall_mem_cons.mpr ⟨hle, hall⟩⟩

/-- Known severities have ranks of their own. -/
theorem rankOf_injOn : ∀ a ∈ severityRank.map (·.1), ∀ b ∈ severityRank.map (·.1), rankOf a = rankOf b → a = b := by
  decide

theorem rank_le_of_key_le {a b : String} (h : severityKey a ≤ severityKey b) : rankOf a ≤ rankOf b := by
  rcases Prod.Lex.le_iff.mp h with hlt | ⟨heq, -⟩
  · exact Nat.le_of_lt hlt
  · exact Nat.le_of_eq heq

/-- The last of the sorted severities is one of them, and of the highest rank. -/
theorem highest_spec {xs : List String} (hne : xs ≠ []) : (sortedSet severityKey xs).getLast?.getD "" ∈ xs ∧
    ∀ s ∈ xs, rankOf s ≤ rankOf ((sortedSet severityKey xs).getLast?.getD "") := by
  cases hlast : (sortedSet severityKey xs).getLast? with
  | none => exact absurd (List.getLast?_eq_none_iff.mp hlast) (sortedSet_ne_nil _ hne)
  | some s =>
    obtain ⟨hmem, hle⟩ := getLast_sortedSet hlast
    exact ⟨hmem, fun s' hs' => rank_le_of_key_le (hle s' hs')⟩

/-- The summary of a group is valid. -/
theorem validate_correlate (hne : ms ≠ []) (hids : (ms.map (·.eventId)).Nodup)
    (h : ∀ c ∈ ms, Correlatable c) (hs : ∀ c ∈ ms, c.scope = s) : validate (correlate s ms) = .ok () := by
  obtain ⟨c, hc⟩ := List.exists_mem_of_ne_nil ms hne
  have htenant : ∀ c ∈ ms, s.1 ≠ "" ∧ valuesOf "tenant_ref" c.evidenceReferences = [s.1] := by
    intro c hc
    obtain ⟨t, ht, hvalues⟩ := (h c hc).tenant
    have hst : s.1 = t := by rw [← hs c hc, DetectionIntelligenceContext.scope, hvalues]; rfl
    exact ⟨hst ▸ ht, hst ▸ hvalues⟩
  have hworkload : ∀ c ∈ ms, s.2 ≠ "" ∧ valuesOf "workload_ref" c.evidenceReferences = [s.2] := by
    intro c hc
    obtain ⟨w, hw, hvalues⟩ := (h c hc).workload
    have hsw : s.2 = w := by rw [← hs c hc, DetectionIntelligenceContext.scope, hvalues]; rfl
    exact ⟨hsw ▸ hw, hsw ▸ hvalues⟩
  have hvalues : ∀ {name v : String}, (∀ c ∈ ms, valuesOf name c.evidenceReferences = [v]) →
      valuesOf name (correlate s ms).evidenceReferences = [v] := by
    intro name v hall
    refine valuesOf_eq nodup_sortedSet ?_ fun r hr hname => ?_
    · exact (collects_references s ms _).mpr ⟨c, hc, (mem_of_valuesOf (hall c hc)).1⟩
    · obtain ⟨c', hc', hr'⟩ := (collects_references s ms r).mp hr
      exact (mem_of_valuesOf (hall c' hc')).2 r hr' hname
  have hne' : ms.map (·.severity) ≠ [] := by simpa using hne
  obtain ⟨hhighest, hgreatest⟩ := highest_spec hne'
  have hknown : ∀ sev ∈ ms.map (·.severity), sev ∈ severityRank.map (·.1) := by
    intro sev hsev
    obtain ⟨c', hc', rfl⟩ := List.mem_map.mp hsev
    exact (h c' hc').known
  obtain ⟨m, hmax, hmem, hle⟩ := maxOn_spec rankOf (sortedSet_ne_nil severityKey hne')
  have heq : (sortedSet severityKey (ms.map (·.severity))).getLast?.getD "" = m := by
    rw [mem_sortedSet] at hmem
    exact rankOf_injOn _ (hknown _ hhighest) _ (hknown m hmem)
      (Nat.le_antisymm (hle _ (mem_sortedSet.mpr hhighest)) (hgreatest m hmem))
  simp only [validate, ok_seq, raiseIf_ok, not_or, not_not, not_exists, not_and]
  refine ⟨⟨(htenant c hc).1, (hworkload c hc).1, ?_, ?_, sortedSet_ne_nil _ hne', ?_, hknown _ hhighest, ?_⟩, ⟨?_, nodup_sortedSet,
    nodup_sortedSet, nodup_sortedSet⟩, ⟨hvalues fun c hc => (htenant c hc).2, hvalues fun c hc => (hworkload c hc).2⟩, ?_⟩
  · exact List.ne_nil_of_mem ((collects_events s ms _).mpr ⟨c, hc, List.mem_cons_self⟩)
  · exact List.ne_nil_of_mem ((collects_references s ms _).mpr ⟨c, hc, (mem_of_valuesOf (htenant c hc).2).1⟩)
  · exact List.ne_nil_of_mem ((collects_categories s ms _).mpr ⟨c, hc, List.mem_cons_self⟩)
  · exact fun sev hsev => hknown sev (mem_sortedSet.mp hsev)
  · exact ((perm_sortOn _ ms).map _).nodup_iff.mpr hids
  · exact (congrArg some heq).trans hmax.symm

theorem accepted_correlated (h : ∀ c ∈ xs, Correlatable c) (ha : Agree xs) : Accepted [] (correlated xs) := by
  have hcontext : ∀ a ∈ correlated xs, ∀ id, id ∈ a.contributingEventIds → ∃ c ∈ xs, c.scope = scope a ∧ c.eventId = id := by
    intro a ha' id hid
    obtain ⟨c, hc, hs, hx⟩ := mem_collected collects_events |>.mp
      (List.mem_flatMap.mpr ⟨a, List.mem_filter.mpr ⟨ha', decide_eq_true rfl⟩, hid⟩)
    exact ⟨c, hc, hs, (List.mem_singleton.mp hx).symm⟩
  refine ⟨fun a ha' => ?_, fun c hc id hid prior hp => (nomatch hp), fun a ha' b hb' id hida hidb => ?_⟩
  · obtain ⟨s, hs, rfl⟩ := mem_correlated.mp ha'
    obtain ⟨c, hc, hcs⟩ := List.mem_map.mp hs
    refine validate_correlate ?_ (Detection.nodup_members ha s) (fun c' hc' => ?_) fun c' hc' => of_decide_eq_true (List.mem_filter.mp hc').2
    · exact List.ne_nil_of_mem (List.mem_filter.mpr ⟨List.mem_dedup.mpr hc, decide_eq_true hcs⟩)
    · exact h c' (List.mem_dedup.mp (List.mem_filter.mp hc').1)
  · obtain ⟨c, hc, hcs, hcid⟩ := hcontext a ha' id hida
    obtain ⟨c', hc', hcs', hcid'⟩ := hcontext b hb' id hidb
    obtain rfl := ha c hc c' hc' (hcid.trans hcid'.symm)
    exact hcs.symm.trans hcs'

/-! ## Lossless -/

def IntakeRecord.scope (i : IntakeRecord) : Scope := (i.tenantRef, i.workloadRef)

/-- The incidents partition the events: each is in that of its tenant and workload, which holds what its events hold. -/
structure Partition (xs : List DetectionIntelligenceContext) (is : List IntakeRecord) : Prop where
  scopes : (is.map (·.scope)).Nodup
  once : ∀ c ∈ xs, ∃! i, i ∈ is ∧ c.eventId ∈ i.contributingEventIds
  own : ∀ c ∈ xs, ∀ i ∈ is, c.eventId ∈ i.contributingEventIds → i.scope = c.scope
  events : ∀ i ∈ is, i.contributingEventIds.Nodup ∧ ∀ x, x ∈ i.contributingEventIds ↔ ∃ c ∈ xs, c.scope = i.scope ∧ c.eventId = x
  references : ∀ i ∈ is, i.evidenceReferences.Nodup ∧
    ∀ x, x ∈ i.evidenceReferences ↔ ∃ c ∈ xs, c.scope = i.scope ∧ x ∈ c.evidenceReferences
  severities : ∀ i ∈ is, i.severities.Nodup ∧ ∀ x, x ∈ i.severities ↔ ∃ c ∈ xs, c.scope = i.scope ∧ c.severity = x
  categories : ∀ i ∈ is, i.categories.Nodup ∧ ∀ x, x ∈ i.categories ↔ ∃ c ∈ xs, c.scope = i.scope ∧ c.category = x
  highest : ∀ i ∈ is, i.highestSeverity ∈ i.severities ∧ ∀ s ∈ i.severities, rankOf s ≤ rankOf i.highestSeverity

theorem partition_incidents (ha : Agree xs) : Partition xs (incidents hexdigest (correlated xs)) := by
  have hscope : ∀ i ∈ incidents hexdigest (correlated xs), i.scope ∈ xs.map (·.scope) ∧
      i = incident hexdigest i.scope ((correlated xs).filter fun c => scope c = i.scope) := by
    intro i hi
    obtain ⟨s, hs, rfl⟩ := List.mem_map.mp hi
    rw [mem_sortedSet, mem_scopes] at hs
    exact ⟨hs, rfl⟩
  have hscopes : ((incidents hexdigest (correlated xs)).map (·.scope)) = sortedSet toLex ((correlated xs).map scope) := by
    rw [incidents, List.map_map]
    exact List.map_id _
  have hfield : ∀ {α : Type} [DecidableEq α] {κ : Type} [LinearOrder κ] (key : α → κ) {f : CorrelatedDetectionContext → List α}
      {g : DetectionIntelligenceContext → List α} (s : Scope), Collects f g →
      (sortedSet key (((correlated xs).filter fun c => scope c = s).flatMap f)).Nodup ∧
        ∀ x, x ∈ sortedSet key (((correlated xs).filter fun c => scope c = s).flatMap f) ↔ ∃ c ∈ xs, c.scope = s ∧ x ∈ g c :=
    fun _ _ _ _ h => ⟨nodup_sortedSet, fun x => mem_sortedSet.trans (mem_collected h)⟩
  have hsingle : ∀ {s : Scope} {field : DetectionIntelligenceContext → String} {x : String},
      (∃ c ∈ xs, c.scope = s ∧ x ∈ [field c]) ↔ ∃ c ∈ xs, c.scope = s ∧ field c = x := by
    simp only [List.mem_singleton, eq_comm, implies_true]
  have hevents : ∀ i ∈ incidents hexdigest (correlated xs), i.contributingEventIds.Nodup ∧
      ∀ x, x ∈ i.contributingEventIds ↔ ∃ c ∈ xs, c.scope = i.scope ∧ c.eventId = x := by
    intro i hi
    obtain ⟨-, he⟩ := hscope i hi
    obtain ⟨hn, hmem⟩ := hfield id i.scope collects_events
    rw [he]
    exact ⟨hn, fun x => (hmem x).trans hsingle⟩
  have hown : ∀ c ∈ xs, ∀ i ∈ incidents hexdigest (correlated xs), c.eventId ∈ i.contributingEventIds → i.scope = c.scope := by
    intro c hc i hi hin
    obtain ⟨c', hc', hs, hid⟩ := ((hevents i hi).2 _).mp hin
    obtain rfl := ha c' hc' c hc hid
    exact hs.symm
  refine ⟨?_, fun c hc => ?_, hown, hevents, fun i hi => ?_, fun i hi => ?_, fun i hi => ?_, fun i hi => ?_⟩
  · rw [hscopes]
    exact nodup_sortedSet
  · have hin : incident hexdigest c.scope ((correlated xs).filter fun a => scope a = c.scope) ∈ incidents hexdigest (correlated xs) :=
      List.mem_map_of_mem (mem_sortedSet.mpr (mem_scopes.mpr (List.mem_map_of_mem hc)))
    refine ⟨_, ⟨hin, ((hevents _ hin).2 _).mpr ⟨c, hc, rfl, rfl⟩⟩, fun i ⟨hi, hci⟩ => ?_⟩
    rw [(hscope i hi).2, hown c hc i hi hci]
  · obtain ⟨-, he⟩ := hscope i hi
    rw [he]
    exact hfield _ _ collects_references
  · obtain ⟨-, he⟩ := hscope i hi
    obtain ⟨hn, hmem⟩ := hfield severityKey i.scope collects_severities
    rw [he]
    exact ⟨hn, fun x => (hmem x).trans hsingle⟩
  · obtain ⟨-, he⟩ := hscope i hi
    obtain ⟨hn, hmem⟩ := hfield id i.scope collects_categories
    rw [he]
    exact ⟨hn, fun x => (hmem x).trans hsingle⟩
  · obtain ⟨hmem, he⟩ := hscope i hi
    obtain ⟨c, hc, hcs⟩ := List.mem_map.mp hmem
    have hne : ((correlated xs).filter fun c => scope c = i.scope).flatMap (·.severities) ≠ [] :=
      List.ne_nil_of_mem ((mem_collected collects_severities).mpr ⟨c, hc, hcs, List.mem_cons_self⟩)
    obtain ⟨hin, hle⟩ := highest_spec hne
    rw [he]
    exact ⟨mem_sortedSet.mpr hin, fun s hs => hle s (mem_sortedSet.mp hs)⟩

/-- Correlation refuses nothing but what conflicts, what has no tenant and workload, and nothing at all; neither stage depends on
    the order of the contexts or on a repetition; together they partition the events; and batches may be merged before or after. -/
theorem intake_lossless (hexdigest : Json → String) :
    (∀ xs, (∃ e, buildContexts xs = .error e) ↔
      xs = [] ∨ (∃ c ∈ xs, ¬ Correlatable c) ∨ ∃ c ∈ xs, ∃ c' ∈ xs, c.eventId = c'.eventId ∧ c ≠ c') ∧
    (∀ xs ys, (∀ c, c ∈ xs ↔ c ∈ ys) → (buildContexts xs).toOption = (buildContexts ys).toOption ∧
      (buildContexts xs >>= intake hexdigest).toOption = (buildContexts ys >>= intake hexdigest).toOption) ∧
    (∀ xs cs, buildContexts xs = .ok cs → ∃ is, intake hexdigest cs = .ok is ∧ Partition xs is) ∧
    (∀ xs ys a b ab is is', buildContexts xs = .ok a → buildContexts ys = .ok b → intake hexdigest (a ++ b) = .ok is →
      buildContexts (xs ++ ys) = .ok ab → intake hexdigest ab = .ok is' → is = is') := by
  refine ⟨fun xs => ?_, fun xs ys h => ?_, fun xs cs h => ?_, fun xs ys a b ab is is' ha hb hi hab hi' => ?_⟩
  · have hok : (∃ e, buildContexts xs = .error e) ↔ ¬ ∃ cs, buildContexts xs = .ok cs := by
      cases buildContexts xs with
      | ok cs => exact ⟨fun ⟨_, h⟩ => (nomatch h), fun h => absurd ⟨cs, rfl⟩ h⟩
      | error e => exact ⟨fun _ ⟨_, h⟩ => (nomatch h), fun _ => ⟨e, rfl⟩⟩
    have haccepts : (∃ cs, buildContexts xs = .ok cs) ↔ xs ≠ [] ∧ (∀ c ∈ xs, Correlatable c) ∧ Agree xs := by
      simp only [buildContexts_ok, exists_and_left, exists_eq, and_true]
    rw [hok, haccepts]
    simp only [Agree, not_and_or, not_forall, not_not, exists_prop]
  · have hsame := Detection.buildContexts_congr h
    refine ⟨hsame, ?_⟩
    cases hx : buildContexts xs with
    | ok cs =>
      cases hy : buildContexts ys with
      | ok cs' =>
        rw [hx, hy] at hsame
        rw [Option.some.inj hsame]
      | error e =>
        rw [hx, hy] at hsame
        cases hsame
    | error e =>
      cases hy : buildContexts ys with
      | ok cs' =>
        rw [hx, hy] at hsame
        cases hsame
      | error e' => rfl
  · obtain ⟨hne, hall, hagree, rfl⟩ := buildContexts_ok.mp h
    obtain ⟨c, hc⟩ := List.exists_mem_of_ne_nil xs hne
    have hne' : correlated xs ≠ [] := List.ne_nil_of_mem (mem_correlated.mpr ⟨c.scope, List.mem_map_of_mem hc, rfl⟩)
    exact ⟨_, intake_ok.mpr ⟨hne', accepted_correlated hall hagree, rfl⟩, partition_incidents hagree⟩
  · obtain ⟨-, -, -, rfl⟩ := buildContexts_ok.mp ha
    obtain ⟨-, -, -, rfl⟩ := buildContexts_ok.mp hb
    obtain ⟨-, -, -, rfl⟩ := buildContexts_ok.mp hab
    rw [(intake_ok.mp hi).2.2, (intake_ok.mp hi').2.2, incidents_merge]

/-- No contexts at all are refused, and there is no conflict among them. -/
theorem buildContexts_nothing : buildContexts [] = .error "DETECTION_CONTEXTS_REQUIRED" ∧
    (¬ ∃ c ∈ ([] : List DetectionIntelligenceContext), ¬ Correlatable c) ∧
    ¬ ∃ c ∈ ([] : List DetectionIntelligenceContext), ∃ c' ∈ ([] : List DetectionIntelligenceContext), c.eventId = c'.eventId ∧ c ≠ c' :=
  ⟨rfl, nofun, nofun⟩

end Aegis.Incidents
