/-
  Aegis.Agentic.IncidentScope — the scope of an incident, and what its containment covers.

  An event follows its causal parents and the event of the same agent before it:
  - `deriveScope_spec`: the loop of `_derive_scope` ends, with all events that follow from the
    triggers and no others, in the order of their sequence numbers.
  - `deriveScope_mono`: another causal parent or another trigger only adds to it.
  - `contained_of_allow`: an incident without a risk is contained: everything in its scope is
    quarantined, isolated, frozen or revoked in time, all of it is preserved, and the agents that
    re-enter are those policy names.
-/

import Aegis.Agentic.IncidentForensics
import Aegis.Assurance.Regression

namespace Aegis.Agentic.IncidentForensics

open Data Evidence Checked Decision

/-! ## Events that follow -/

/-- `p` is the event of the same agent before `e`. -/
structure Next (es : List IncidentEvent) (p e : IncidentEvent) : Prop where
  agent : p.agentId = e.agentId
  lt : p.sequence < e.sequence
  between : ∀ c ∈ es, c.agentId = e.agentId → p.sequence < c.sequence → ¬ c.sequence < e.sequence

/-- `e` follows `p`: it names it as a causal parent, or is the next event of its agent. -/
def Follows (es : List IncidentEvent) (p e : IncidentEvent) : Prop :=
  p ∈ es ∧ e ∈ es ∧ (p.eventId ∈ e.parentEventIds ∨ Next es p e)

/-- `e` is reached from a trigger. -/
def Reached (es : List IncidentEvent) (triggers : List String) (e : IncidentEvent) : Prop :=
  ∃ t ∈ es, t.eventId ∈ triggers ∧ Relation.ReflTransGen (Follows es) t e

/-- Events with identifiers and sequence numbers of their own. -/
structure Distinct (es : List IncidentEvent) : Prop where
  ids : (es.map (·.eventId)).Nodup
  sequences : (es.map (·.sequence)).Nodup

variable {es es' part : List IncidentEvent} {e e' : IncidentEvent} {triggers triggers' ids ks : List String}

theorem Distinct.eq (h : Distinct es) (he : e ∈ es) (he' : e' ∈ es) (hid : e.eventId = e'.eventId) : e = e' :=
  List.inj_on_of_nodup_map h.ids he he' hid

theorem Distinct.sublist (h : Distinct es) (hsub : part.Sublist es) : Distinct part :=
  ⟨h.ids.sublist (hsub.map _), h.sequences.sublist (hsub.map _)⟩

theorem mem_ordered : e ∈ ordered es ↔ e ∈ es := mem_sortOn

/-- Sorted events are in strictly increasing order. -/
theorem Distinct.ordered (h : Distinct es) : (ordered es).Pairwise fun a b => a.sequence < b.sequence := by
  have hne : (IncidentForensics.ordered es).Pairwise fun a b => a.sequence ≠ b.sequence := by
    refine List.pairwise_map.mp ?_
    exact ((perm_sortOn _ es).map _).nodup_iff.mpr h.sequences
  refine (hne.and (pairwise_sortOn _ es)).imp fun {a b} hab => ?_
  rcases Prod.Lex.le_iff.mp hab.2 with hlt | ⟨heq, -⟩
  · exact hlt
  · exact absurd heq hab.1

theorem mem_byAgent {group : String × List IncidentEvent} :
    group ∈ byAgent es ↔ ∃ e ∈ es, group = (e.agentId, es.filter fun x => x.agentId = e.agentId) := mem_groupBy

/-- The event before another one of its agent. -/
theorem mem_previousIds (h : Distinct es) {x q : String} :
    (x, some q) ∈ previousIds es ↔ ∃ p ∈ es, ∃ e ∈ es, e.eventId = x ∧ p.eventId = q ∧ Next es p e := by
  have hneighbours : ∀ e₀ : IncidentEvent, ∀ p e : IncidentEvent,
      (e, some p) ∈ Passes.neighbours none (IncidentForensics.ordered (es.filter fun x => x.agentId = e₀.agentId)) ↔
        p ∈ es ∧ e ∈ es ∧ e.agentId = e₀.agentId ∧ Next es p e := by
    intro e₀ p e
    rw [Passes.mem_neighbours (r := fun a b : IncidentEvent => a.sequence < b.sequence) (fun a => Int.lt_irrefl _)
      (fun a b hab hba => Int.lt_irrefl _ (hab.trans hba)) (h.sublist List.filter_sublist).ordered]
    simp only [mem_ordered, List.mem_filter, decide_eq_true_eq]
    constructor
    · rintro ⟨⟨hp, hpa⟩, ⟨he, hea⟩, hlt, hnone⟩
      exact ⟨hp, he, hea, hpa.trans hea.symm, hlt, fun c hc hca => hnone c ⟨hc, hca.trans hea⟩⟩
    · rintro ⟨hp, he, hea, hnext⟩
      exact ⟨⟨hp, hnext.agent.trans hea⟩, ⟨he, hea⟩, hnext.lt, fun c hc => hnext.between c hc.1 (hc.2.trans hea.symm)⟩
  simp only [previousIds, List.mem_flatMap, List.mem_map, mem_byAgent, Prod.mk.injEq]
  constructor
  · rintro ⟨-, ⟨e₀, -, rfl⟩, ⟨e, prior⟩, hin, hx, hq⟩
    obtain ⟨p, rfl, hpq⟩ := Option.map_eq_some_iff.mp hq
    obtain ⟨hp, he, -, hnext⟩ := (hneighbours e₀ p e).mp hin
    exact ⟨p, hp, e, he, hx, hpq, hnext⟩
  · rintro ⟨p, hp, e, he, hx, hq, hnext⟩
    exact ⟨_, ⟨e, he, rfl⟩, (e, some p), (hneighbours e p e).mpr ⟨hp, he, rfl, hnext⟩, hx, congrArg some hq⟩

theorem nodup_previousIds (h : Distinct es) : ((previousIds es).map (·.1)).Nodup := by
  have hkeys : (previousIds es).map (·.1) = (byAgent es).flatMap fun group => (IncidentForensics.ordered group.2).map (·.eventId) := by
    rw [previousIds, List.map_flatMap]
    refine List.flatMap_congr fun group _ => ?_
    rw [List.map_map]
    conv_rhs => rw [← Passes.map_neighbours none (IncidentForensics.ordered group.2), List.map_map]
    rfl
  rw [hkeys, List.nodup_flatMap]
  constructor
  · intro group hgroup
    obtain ⟨e, -, rfl⟩ := mem_byAgent.mp hgroup
    exact ((perm_sortOn _ _).map _).nodup_iff.mpr (h.sublist List.filter_sublist).ids
  · refine (List.pairwise_map.mp (groupBy_spec IncidentEvent.agentId es).1).imp_of_mem fun {a b} ha hb hne x hx hy => ?_
    obtain ⟨e₁, -, rfl⟩ := mem_byAgent.mp ha
    obtain ⟨e₂, -, rfl⟩ := mem_byAgent.mp hb
    obtain ⟨x₁, hx₁, rfl⟩ := List.mem_map.mp hx
    obtain ⟨x₂, hx₂, hid⟩ := List.mem_map.mp hy
    obtain ⟨hm₁, ha₁⟩ := List.mem_filter.mp (mem_ordered.mp hx₁)
    obtain ⟨hm₂, ha₂⟩ := List.mem_filter.mp (mem_ordered.mp hx₂)
    obtain rfl := h.eq hm₂ hm₁ hid
    exact hne ((of_decide_eq_true ha₁).symm.trans (of_decide_eq_true ha₂))

theorem find?_of_nodup {β : Type} {xs : List (String × β)} (hn : (xs.map (·.1)).Nodup) {k : String} {v : β} :
    (k, v) ∈ xs ↔ (xs.find? fun p => p.1 = k).map (·.2) = some v := by
  constructor
  · intro hin
    cases hfound : xs.find? fun p => p.1 = k with
    | none => exact absurd (List.find?_eq_none.mp hfound _ hin) (by simp)
    | some p =>
      have hk : p.1 = k := by simpa using List.find?_some hfound
      rw [List.inj_on_of_nodup_map hn (List.mem_of_find?_eq_some hfound) hin hk]
      rfl
  · intro hfound
    obtain ⟨p, hp, rfl⟩ := Option.map_eq_some_iff.mp hfound
    have hk : p.1 = k := by simpa using List.find?_some hp
    exact hk ▸ List.mem_of_find?_eq_some hp

/-- The edges the loop follows are those of `Follows`. -/
theorem source_iff (h : Distinct es) {s x : String} : Passes.Source (eventParentIds es) s x ↔
    ∃ e ∈ es, e.eventId = x ∧ (s ∈ e.parentEventIds ∨ ∃ p ∈ es, p.eventId = s ∧ Next es p e) := by
  have hprior : ∀ e ∈ es, ((previousIds es).find? fun p => p.1 = e.eventId).bind (·.2) = some s ↔
      ∃ p ∈ es, p.eventId = s ∧ Next es p e := by
    intro e he
    have hbind : ((previousIds es).find? fun p => p.1 = e.eventId).bind (·.2) = some s ↔
        ((previousIds es).find? fun p => p.1 = e.eventId).map (·.2) = some (some s) := by
      cases (previousIds es).find? fun p => p.1 = e.eventId with
      | none => simp
      | some p => simp
    rw [hbind, ← find?_of_nodup (nodup_previousIds h), mem_previousIds h]
    constructor
    · rintro ⟨p, hp, e', he', hid, hs, hnext⟩
      obtain rfl := h.eq he' he hid
      exact ⟨p, hp, hs, hnext⟩
    · rintro ⟨p, hp, hs, hnext⟩
      exact ⟨p, hp, e, he, rfl, hs, hnext⟩
  unfold Passes.Source eventParentIds
  simp only [List.mem_map, Prod.mk.injEq]
  constructor
  · rintro ⟨-, ⟨e, he, rfl, rfl⟩, hs⟩
    refine ⟨e, he, rfl, ?_⟩
    rcases List.mem_append.mp hs with hs | hs
    · exact .inl hs
    · rw [Option.mem_toList, Option.filter_eq_some_iff] at hs
      exact .inr ((hprior e he).mp hs.1)
  · rintro ⟨e, he, rfl, hs⟩
    refine ⟨_, ⟨e, he, rfl, rfl⟩, List.mem_append.mpr ?_⟩
    by_cases hin : s ∈ e.parentEventIds
    · exact .inl hin
    · have hnext := (hprior e he).mpr (hs.resolve_left hin)
      refine .inr ?_
      rw [Option.mem_toList, Option.filter_eq_some_iff]
      exact ⟨hnext, decide_eq_true hin⟩

theorem reached_iff (h : Distinct es) (ht : triggers ⊆ es.map (·.eventId)) {x : String} :
    (∃ s ∈ triggers.dedup, Relation.ReflTransGen (Passes.Source (eventParentIds es)) s x) ↔
      ∃ e ∈ es, e.eventId = x ∧ Reached es triggers e := by
  constructor
  · rintro ⟨s, hs, hpath⟩
    rw [List.mem_dedup] at hs
    induction hpath with
    | refl =>
      obtain ⟨t, ht', rfl⟩ := List.mem_map.mp (ht hs)
      exact ⟨t, ht', rfl, t, ht', hs, .refl⟩
    | tail _ hstep ih =>
      obtain ⟨p, hp, hpid, t, ht', htrigger, hreached⟩ := ih
      obtain ⟨e, he, hid, hedge⟩ := (source_iff h).mp hstep
      refine ⟨e, he, hid, t, ht', htrigger, hreached.tail ⟨hp, he, ?_⟩⟩
      rcases hedge with hparent | ⟨p', hp', hpid', hnext⟩
      · exact .inl (hpid ▸ hparent)
      · obtain rfl := h.eq hp' hp (hpid'.trans hpid.symm)
        exact .inr hnext
  · rintro ⟨e, -, rfl, t, ht', htrigger, hreached⟩
    refine ⟨t.eventId, List.mem_dedup.mpr htrigger, hreached.lift _ fun p e ⟨hp, he, hedge⟩ => ?_⟩
    exact (source_iff h).mpr ⟨e, he, rfl, hedge.imp_right fun hnext => ⟨p, hp, rfl, hnext⟩⟩

theorem gather_getItem {α : Type} {d : Dict α} {xs : List α} (h : List.Forall₂ (fun k x => d k = some x) ks xs) :
    Checks.gather (getItem d : String → Check α) ks = .ok xs := by
  rw [Checks.gather_ok]
  refine h.imp fun k x hk => ?_
  rw [getItem, hk]

/-- The loop ends, with all that is reached from the triggers and nothing else, in the order of the sequence numbers. -/
theorem deriveScope_spec (h : Distinct es) (ht : triggers ⊆ es.map (·.eventId)) :
    ∃ scope : List IncidentEvent, deriveScope es triggers = .ok (scope.map (·.eventId)) ∧ (scope.Pairwise fun a b => a.sequence < b.sequence) ∧
      ∀ e, e ∈ scope ↔ e ∈ es ∧ Reached es triggers e := by
  obtain ⟨result, hsettle, hnodup, hmem⟩ := Passes.settle_spec (eventParentIds es) triggers.nodup_dedup
  have hlength : (eventParentIds es).length = es.length := by rw [eventParentIds, List.length_map]
  rw [hlength] at hsettle
  have hevents : ∀ x ∈ result, ∃ e ∈ es, e.eventId = x ∧ Reached es triggers e := fun x hx => (reached_iff h ht).mp ((hmem x).mp hx)
  obtain ⟨found, hfound⟩ : ∃ found : List IncidentEvent,
      List.Forall₂ (fun k x => Dict.ofItems IncidentEvent.eventId es k = some x) result found := by
    refine ⟨result.filterMap (Dict.ofItems IncidentEvent.eventId es), ?_⟩
    clear hsettle hnodup hmem
    induction result with
    | nil => exact .nil
    | cons x xs ih =>
      obtain ⟨e, he, rfl, -⟩ := hevents x List.mem_cons_self
      have hlookup := Dict.ofItems_self h.ids he
      rw [List.filterMap_cons_some hlookup]
      exact .cons hlookup (ih fun y hy => hevents y (List.mem_cons_of_mem _ hy))
  have hids : found.map (·.eventId) = result := by
    clear hsettle hnodup hmem hevents
    induction hfound with
    | nil => rfl
    | cons hk _ ih => rw [List.map_cons, ih, (Dict.ofItems_mem hk).2]
  have hsub : ∀ e, e ∈ found ↔ e ∈ es ∧ Reached es triggers e := by
    intro e
    constructor
    · intro he
      obtain ⟨k, hk, hlookup⟩ := Checks.exists_of_forall₂ hfound he
      obtain ⟨e', he', rfl, hreached⟩ := hevents k hk
      obtain rfl := Option.some.inj ((Dict.ofItems_self h.ids he').symm.trans hlookup)
      exact ⟨he', hreached⟩
    · rintro ⟨he, hreached⟩
      have hin : e.eventId ∈ found.map (·.eventId) := hids ▸ (hmem _).mpr ((reached_iff h ht).mpr ⟨e, he, rfl, hreached⟩)
      obtain ⟨e', he', hid⟩ := List.mem_map.mp hin
      obtain ⟨k, hk, hlookup⟩ := Checks.exists_of_forall₂ hfound he'
      obtain rfl := h.eq (Dict.ofItems_mem hlookup).1 he hid
      exact he'
  have hdistinct : Distinct found := by
    have hn : (found.map (·.eventId)).Nodup := hids ▸ hnodup
    refine ⟨hn, (List.nodup_map_iff_inj_on hn.of_map).mpr fun a ha b hb hab => ?_⟩
    exact List.inj_on_of_nodup_map h.sequences ((hsub a).mp ha).1 ((hsub b).mp hb).1 hab
  refine ⟨IncidentForensics.ordered found, ?_, hdistinct.ordered, fun e => mem_ordered.trans (hsub e)⟩
  unfold deriveScope
  rw [hsettle]
  dsimp only
  rw [gather_getItem hfound]
  rfl

/-! ## More parents, more triggers -/

/-- The events with causal parents added. -/
def Extended (es es' : List IncidentEvent) : Prop :=
  List.Forall₂ (fun e e' => e'.eventId = e.eventId ∧ e'.sequence = e.sequence ∧ e'.agentId = e.agentId ∧
    e.parentEventIds ⊆ e'.parentEventIds) es es'

section

variable (h : Extended es es')
include h

theorem Extended.map_eq {β : Type} {f : IncidentEvent → β}
    (hf : ∀ e e' : IncidentEvent, e'.eventId = e.eventId → e'.sequence = e.sequence → e'.agentId = e.agentId → f e' = f e) :
    es'.map f = es.map f := by
  unfold Extended at h
  induction h with
  | nil => rfl
  | cons hee' _ ih => rw [List.map_cons, List.map_cons, ih, hf _ _ hee'.1 hee'.2.1 hee'.2.2.1]

theorem Extended.distinct (hd : Distinct es) : Distinct es' :=
  ⟨h.map_eq (fun _ _ hid _ _ => hid) ▸ hd.ids, h.map_eq (fun _ _ _ hseq _ => hseq) ▸ hd.sequences⟩

/-- The event that another one became. -/
theorem Extended.image (he : e ∈ es) :
    ∃ e' ∈ es', e'.eventId = e.eventId ∧ e'.sequence = e.sequence ∧ e'.agentId = e.agentId ∧ e.parentEventIds ⊆ e'.parentEventIds := by
  unfold Extended at h
  induction h with
  | nil => cases he
  | cons hee' _ ih =>
    rcases List.mem_cons.mp he with rfl | he
    · exact ⟨_, List.mem_cons_self, hee'⟩
    · obtain ⟨e', he', hrest⟩ := ih he
      exact ⟨e', List.mem_cons_of_mem _ he', hrest⟩

theorem Extended.reached (hd : Distinct es) (ht : triggers ⊆ triggers')
    (hr : Reached es triggers e) : ∃ e' ∈ es', e'.eventId = e.eventId ∧ Reached es' triggers' e' := by
  obtain ⟨t, htin, htrigger, hpath⟩ := hr
  have hd' := h.distinct hd
  induction hpath with
  | refl =>
    obtain ⟨t', ht', hid, -⟩ := h.image htin
    exact ⟨t', ht', hid, t', ht', hid ▸ ht htrigger, .refl⟩
  | @tail p e _ hstep ih =>
    obtain ⟨p', hp', hpid, t', ht', htrigger', hpath'⟩ := ih
    obtain ⟨hp, he, hedge⟩ := hstep
    obtain ⟨e', he', hid, hseq, hagent, hparents⟩ := h.image he
    refine ⟨e', he', hid, t', ht', htrigger', hpath'.tail ⟨hp', he', ?_⟩⟩
    rcases hedge with hparent | hnext
    · exact .inl (hpid ▸ hparents hparent)
    · obtain ⟨p'', hp'', hpid'', hpseq, hpagent, -⟩ := h.image hp
      obtain rfl := hd'.eq hp'' hp' (hpid''.trans hpid.symm)
      refine .inr ⟨hpagent.trans (hnext.agent.trans hagent.symm), by rw [hpseq, hseq]; exact hnext.lt, fun c hc hca hlt => ?_⟩
      have hsame : (c.agentId, c.sequence) ∈ es.map fun c => (c.agentId, c.sequence) := by
        rw [← h.map_eq (f := fun c => (c.agentId, c.sequence)) fun _ _ _ hs ha => by rw [hs, ha]]
        exact List.mem_map_of_mem hc
      obtain ⟨c₀, hc₀, hpair⟩ := List.mem_map.mp hsame
      obtain ⟨hca₀, hcs₀⟩ := Prod.mk.inj hpair
      rw [hpseq, ← hcs₀] at hlt
      rw [hseq, ← hcs₀]
      exact hnext.between c₀ hc₀ (hca₀.trans (hca.trans hagent)) hlt

end

/-- Another causal parent or another trigger never removes an event from the scope. -/
theorem deriveScope_mono (hd : Distinct es) (h : Extended es es') (ht : triggers ⊆ triggers')
    (ht' : triggers' ⊆ es.map (·.eventId)) (hids : deriveScope es triggers = .ok ids) :
    ∃ ids', deriveScope es' triggers' = .ok ids' ∧ ids ⊆ ids' := by
  obtain ⟨scope, hscope, -, hmem⟩ := deriveScope_spec hd (List.Subset.trans ht ht')
  obtain rfl := Except.ok.inj (hscope.symm.trans hids)
  have hknown : triggers' ⊆ es'.map (·.eventId) := by
    rw [h.map_eq fun _ _ hid _ _ => hid]
    exact ht'
  obtain ⟨scope', hscope', -, hmem'⟩ := deriveScope_spec (h.distinct hd) hknown
  refine ⟨_, hscope', fun x hx => ?_⟩
  obtain ⟨e, he, rfl⟩ := List.mem_map.mp hx
  obtain ⟨e', he', hid, hreached⟩ := h.reached hd ht ((hmem e).mp he).2
  exact hid ▸ List.mem_map_of_mem ((hmem' e').mpr ⟨he', hreached⟩)

/-! ## Containment -/

section Containment

variable {rt : Runtime} {p : AgentIncidentForensicsPolicy} {m : AgentIncidentForensicsManifest} {now : Int} {i : IncidentCase}
  {u : Unit}

/-- The events in the scope of an incident. -/
def InScope (m : AgentIncidentForensicsManifest) (i : IncidentCase) (e : IncidentEvent) : Prop :=
  e ∈ m.events ∧ Reached m.events i.triggerEventIds e

/-- A listed action of the incident on a target, issued between the first trigger and containment. -/
def Issued (m : AgentIncidentForensicsManifest) (i : IncidentCase) (kind : ContainmentKind) (targetId : String) : Prop :=
  ∃ a ∈ m.containmentActions, a.actionId ∈ i.containmentActionIds ∧ a.incidentId = i.incidentId ∧ a.kind = kind ∧ a.targetId = targetId ∧
    (∃ t ∈ m.events, t.eventId ∈ i.triggerEventIds ∧ t.observedAtEpoch ≤ a.issuedAtEpoch) ∧ a.issuedAtEpoch ≤ i.containedAtEpoch

/-- A listed re-entry of the incident. -/
def Reenters (m : AgentIncidentForensicsManifest) (i : IncidentCase) (r : ReentryAuthorization) : Prop :=
  r ∈ m.reentryAuthorizations ∧ r.reentryId ∈ i.reentryAuthorizationIds ∧ r.incidentId = i.incidentId

/-- The package of the incident, over exactly its scope, and the re-entries that come after it. -/
structure Packaged (rt : Runtime) (m : AgentIncidentForensicsManifest) (i : IncidentCase) (f : ForensicPackage) : Prop where
  listed : f ∈ m.forensicPackages ∧ f.packageId = i.forensicPackageId ∧ f.incidentId = i.incidentId
  scope : ∀ x, x ∈ f.scopeEventIds ↔ ∃ e, InScope m i e ∧ e.eventId = x
  preserved : ∀ x hash, Dict.mapping f.preservedEventSha256ById x = some hash ↔
    ∃ e, InScope m i e ∧ e.eventId = x ∧ hash = rt.casefold e.eventSha256
  after : i.containedAtEpoch ≤ f.generatedAtEpoch
  reentries : ∀ r, Reenters m i r → f.generatedAtEpoch ≤ r.issuedAtEpoch ∧ f.generatedAtEpoch ≤ r.notBeforeEpoch

/-- What an incident that is allowed has been contained to. -/
structure Contained (rt : Runtime) (p : AgentIncidentForensicsPolicy) (m : AgentIncidentForensicsManifest) (i : IncidentCase) : Prop where
  triggers : i.triggerEventIds ≠ [] ∧ i.triggerEventIds ⊆ m.events.map (·.eventId)
  agents : ∀ e, InScope m i e → Issued m i .quarantineAgent e.agentId
  channels : ∀ e, InScope m i e → e.kind = .message → Issued m i .isolateChannel e.objectId
  states : ∀ e, InScope m i e → e.kind = .stateTransition ∨ e.kind = .recovery → Issued m i .freezeState e.objectId
  credentials : ∀ e, InScope m i e → e.kind = .credentialUse → Issued m i .revokeCredential e.objectId
  quiet : ∀ e, InScope m i e → e.observedAtEpoch ≤ i.containedAtEpoch
  evidence : ∃ a ∈ m.containmentActions, a.actionId ∈ i.containmentActionIds ∧ a.kind = .preserveEvidence ∧ a.targetId = i.incidentId ∧
    ∀ x, x ∈ a.evidenceEventIds ↔ ∃ e, InScope m i e ∧ e.eventId = x
  packaged : ∃ f, Packaged rt m i f
  reentry : ∀ agent, (∃ r, Reenters m i r ∧ r.agentId = agent) ↔
    agent ∈ p.safeCheckpointIdByAgent.map (·.1) ∧ ∃ e, InScope m i e ∧ e.agentId = agent
  waited : ∀ r, Reenters m i r → i.containedAtEpoch ≤ r.issuedAtEpoch ∧ i.containedAtEpoch ≤ r.notBeforeEpoch

/-- What a manifest that is accepted keeps apart. -/
structure Apart (m : AgentIncidentForensicsManifest) : Prop where
  events : Distinct m.events
  actions : (m.containmentActions.map (·.actionId)).Nodup
  packages : (m.forensicPackages.map (·.packageId)).Nodup
  reentries : (m.reentryAuthorizations.map (·.reentryId)).Nodup

theorem coverage_ok {α : Type} {id : α → String} {required : List String} {name : String} {items : List α}
    (h : coverage id required name items = .ok u) : (items.map id).Nodup := by
  simp only [coverage, bind_ok, rejectIf_ok, not_not] at h
  exact h.choose_spec.1

theorem validateEventChain_ok (h : validateEventChain rt m.events = .ok u) : (m.events.map (·.sequence)).Nodup := by
  simp only [validateEventChain, bind_ok, rejectIf_ok, not_or, not_not] at h
  exact h.choose_spec.1.2

theorem validateManifest_apart (hm : validateManifest rt p m now = .ok u) : Apart m := by
  simp only [validateManifest, bind_ok] at hm
  obtain ⟨-, -, -, -, -, -, -, -, -, -, -, -, _, hevents, _, hactions, _, hpackages, _, hreentries, -, -, -, -, -, -, -, -, -, -, -, -,
    hchain⟩ := hm
  exact ⟨⟨coverage_ok hevents, validateEventChain_ok hchain⟩, coverage_ok hactions, coverage_ok hpackages, coverage_ok hreentries⟩

variable {c : Context} {r : ReentryAuthorization} {scope : List IncidentEvent} {fact : IncidentForensicsFact}

theorem actionOf_some {id : String} {a : ContainmentAction} :
    actionOf c i id = some a ↔ c.actions id = some a ∧ a.incidentId = i.incidentId := by
  simp [actionOf, Option.filter_eq_some_iff]

theorem reentryOf_some {id : String} :
    reentryOf c i id = some r ↔ c.reentries id = some r ∧ r.incidentId = i.incidentId := by
  simp [reentryOf, Option.filter_eq_some_iff]

theorem mem_scopeAgents {a : String} : a ∈ scopeAgents scope ↔ ∃ e ∈ scope, e.agentId = a := by
  simp [scopeAgents]

theorem mem_objectsOf {kinds : List IncidentEventKind} {o : String} :
    o ∈ objectsOf kinds scope ↔ ∃ e ∈ scope, e.kind ∈ kinds ∧ e.objectId = o := by
  simp [objectsOf, and_assoc]

/-- The time of some trigger is no later than the trigger time. -/
theorem triggerTime_le (h : ¬ TriggersInvalid (contextOf p m now) i) :
    ∃ t ∈ m.events, t.eventId ∈ i.triggerEventIds ∧ t.observedAtEpoch ≤ triggerTime (contextOf p m now) i := by
  obtain ⟨hsome, hknown⟩ := not_or.mp h
  obtain ⟨t, ht⟩ := List.exists_mem_of_ne_nil _ hsome
  unfold triggerTime
  cases hmin : (i.triggerEventIds.filterMap fun t => ((contextOf p m now).events t).map (·.observedAtEpoch)).min? with
  | none =>
    obtain ⟨e, he⟩ := Option.ne_none_iff_exists'.mp fun hnone => hknown ⟨t, ht, hnone⟩
    have hin : e.observedAtEpoch ∈ i.triggerEventIds.filterMap fun t => ((contextOf p m now).events t).map (·.observedAtEpoch) :=
      List.mem_filterMap.mpr ⟨t, ht, by rw [he]; rfl⟩
    rw [List.min?_eq_none_iff.mp hmin] at hin
    cases hin
  | some time =>
    obtain ⟨t, ht, hlookup⟩ := List.mem_filterMap.mp (List.min?_eq_some_iff.mp hmin).1
    obtain ⟨e, he, rfl⟩ := Option.map_eq_some_iff.mp hlookup
    obtain ⟨hin, hid⟩ := Dict.ofItems_mem he
    exact ⟨e, hin, hid ▸ ht, Int.le_refl _⟩

/-- A fact that allows has no risk in any part. -/
theorem factOf_allow (h : factOf rt c i = .ok fact) (ha : fact.decision = .allow) :
    fact.incidentId = i.incidentId ∧ ∃ scopeIds scope, scopeIdsOf c i = .ok scopeIds ∧ Checks.gather (getItem c.events : String → Check IncidentEvent) scopeIds = .ok scope ∧
      scopeRisks c i scope = [] ∧ containmentRisks c i scope = [] ∧ evidenceRisks rt c i scope = [] ∧ packageRisks rt c i scope = [] ∧ reentryRisks rt c i scope = [] := by
  simp only [factOf, bind_ok] at h
  obtain ⟨scopeIds, hids, scope, hscope, h⟩ := h
  obtain rfl := Except.ok.inj h
  dsimp only at ha
  split_ifs at ha
  next hrisks =>
  simp only [List.append_eq_nil_iff] at hrisks
  exact ⟨rfl, scopeIds, scope, hids, hscope, hrisks.1.1.1.1, hrisks.1.1.1.2, hrisks.1.1.2, hrisks.1.2, hrisks.2⟩

theorem mapping_map {β : Type} {f : IncidentEvent → β} (hn : (scope.map (·.eventId)).Nodup) {x : String} {v : β} :
    Dict.mapping (scope.map fun e => (e.eventId, f e)) x = some v ↔ ∃ e ∈ scope, e.eventId = x ∧ v = f e := by
  have hkeys : ((scope.map fun e => (e.eventId, f e)).map (·.1)).Nodup := by
    rw [List.map_map]
    exact hn
  unfold Dict.mapping
  rw [← find?_of_nodup hkeys, List.mem_map]
  constructor
  · rintro ⟨e, he, hpair⟩
    obtain ⟨hid, hv⟩ := Prod.mk.inj hpair
    exact ⟨e, he, hid, hv.symm⟩
  · rintro ⟨e, he, rfl, rfl⟩
    exact ⟨e, he, rfl⟩

/-- Equal mappings have equal entries. -/
theorem SameMapping.eq {a b : List (String × String)} (h : SameMapping a b) (k : String) : Dict.mapping a k = Dict.mapping b k := by
  have hnone : ∀ {pairs : List (String × String)}, k ∉ pairs.map (·.1) → Dict.mapping pairs k = none := by
    intro pairs hk
    unfold Dict.mapping
    rw [Option.map_eq_none_iff, List.find?_eq_none]
    intro q hq hkey
    exact hk (List.mem_map.mpr ⟨q, hq, of_decide_eq_true hkey⟩)
  by_cases hk : k ∈ a.map (·.1) ++ b.map (·.1)
  · exact h k hk
  · obtain ⟨ha, hb⟩ := not_or.mp fun hor => hk (List.mem_append.mpr hor)
    rw [hnone ha, hnone hb]

/-- Every listed action is one of the incident's, and is issued in time. -/
theorem issued_of_has (h : containmentRisks (contextOf p m now) i scope = [])
    (ht : ¬ TriggersInvalid (contextOf p m now) i) {kind : ContainmentKind} {target : String}
    (hhas : Has (actionValues (contextOf p m now) i) kind target) : Issued m i kind target := by
  simp only [containmentRisks, List.append_eq_nil_iff, flag_eq_nil, not_exists, not_and, not_or, Int.not_lt, gt_iff_lt] at h
  obtain ⟨⟨⟨⟨⟨-, htime⟩, -⟩, -⟩, -⟩, -⟩ := h
  obtain ⟨a, ha, hkind, htarget⟩ := hhas
  obtain ⟨hafter, hbefore⟩ := htime a ha
  obtain ⟨id, hid, hlookup⟩ := List.mem_filterMap.mp ha
  obtain ⟨haction, hincident⟩ := actionOf_some.mp hlookup
  obtain ⟨hin, rfl⟩ := Dict.ofItems_mem haction
  obtain ⟨t, htin, htid, hle⟩ := triggerTime_le ht
  exact ⟨a, hin, hid, hincident, hkind, htarget, ⟨t, htin, htid, hle.trans hafter⟩, hbefore⟩

theorem packageRisks_nil (h : packageRisks rt c i scope = []) :
    ∃ f, packageOf c i = some f ∧ f.incidentId = i.incidentId ∧ f.scopeEventIds = scope.map (·.eventId) ∧
      SameMapping f.preservedEventSha256ById (expectedPreserved rt scope) ∧ i.containedAtEpoch ≤ f.generatedAtEpoch := by
  unfold packageRisks at h
  cases hf : packageOf c i with
  | none =>
    rw [hf] at h
    cases h
  | some f =>
    rw [hf] at h
    dsimp only at h
    by_cases hid : f.incidentId = i.incidentId
    · rw [if_neg (not_not_intro hid)] at h
      simp only [List.append_eq_nil_iff, flag_eq_nil, not_not, Int.not_lt] at h
      exact ⟨f, rfl, hid, h.1.1.1.1, h.1.1.1.2, h.2⟩
    · rw [if_pos hid] at h
      cases h

/-- A listed re-entry without a risk is that of an agent in scope that policy lets in, and waits for the package. -/
theorem reentryItemRisks_nil (h : reentryItemRisks rt c i scope r = []) : lowerBound i (packageOf c i) ≤ r.issuedAtEpoch ∧
      lowerBound i (packageOf c i) ≤ r.notBeforeEpoch := by
  unfold reentryItemRisks at h
  cases hc : Dict.mapping c.policy.safeCheckpointIdByAgent r.agentId with
  | none =>
    rw [hc] at h
    cases h
  | some checkpoint =>
    rw [hc] at h
    dsimp only at h
    by_cases hagent : r.agentId ∈ scopeAgents scope
    · rw [if_neg (not_not_intro hagent)] at h
      simp only [List.append_eq_nil_iff, flag_eq_nil, not_or, Int.not_lt] at h
      exact ⟨h.1.2.1, h.1.2.2.1⟩
    · rw [if_pos hagent] at h
      cases h

theorem mem_listedReentries (hm : Apart m) : r ∈ listedReentries (contextOf p m now) i ↔ Reenters m i r := by
  unfold listedReentries Reenters
  rw [List.mem_filterMap]
  constructor
  · rintro ⟨id, hid, hlookup⟩
    obtain ⟨hreentry, hincident⟩ := reentryOf_some.mp hlookup
    obtain ⟨hin, rfl⟩ := Dict.ofItems_mem hreentry
    exact ⟨hin, hid, hincident⟩
  · rintro ⟨hin, hid, hincident⟩
    exact ⟨r.reentryId, hid, reentryOf_some.mpr ⟨Dict.ofItems_self hm.reentries hin, hincident⟩⟩

/-- An incident without a risk is contained. -/
theorem contained_of_allow (hm : Apart m) (h : factOf rt (contextOf p m now) i = .ok fact)
    (ha : fact.decision = .allow) : Contained rt p m i := by
  obtain ⟨-, scopeIds, scope, hids, hgather, hscope, hcontainment, hevidence, hpackage, hreentry⟩ := factOf_allow h ha
  simp only [scopeRisks, List.append_eq_nil_iff, flag_eq_nil, not_exists, not_and, Int.not_lt, gt_iff_lt] at hscope
  obtain ⟨htriggers, hquiet⟩ := hscope
  obtain ⟨hsome, hknown⟩ := not_or.mp htriggers
  have hsub : i.triggerEventIds ⊆ m.events.map (·.eventId) := by
    intro t ht
    obtain ⟨e, he⟩ := Option.ne_none_iff_exists'.mp fun hnone => hknown ⟨t, ht, hnone⟩
    obtain ⟨hin, hid⟩ := Dict.ofItems_mem he
    exact List.mem_map.mpr ⟨e, hin, hid⟩
  -- the scope is what follows from the triggers
  obtain ⟨derived, hderived, hincreasing, hmem⟩ := deriveScope_spec hm.events hsub
  rw [scopeIdsOf, if_neg htriggers] at hids
  obtain rfl := Except.ok.inj (hderived.symm.trans hids)
  have hself : List.Forall₂ (fun k x => (contextOf p m now).events k = some x) (derived.map (·.eventId)) derived := by
    rw [List.forall₂_map_left_iff, List.forall₂_same]
    exact fun e he => Dict.ofItems_self hm.events.ids ((hmem e).mp he).1
  obtain rfl := Except.ok.inj ((gather_getItem hself).symm.trans hgather)
  have hscopeIds : ∀ x, x ∈ derived.map (·.eventId) ↔ ∃ e, InScope m i e ∧ e.eventId = x := by
    intro x
    simp only [List.mem_map, hmem, InScope]
  have hnodup : (derived.map (·.eventId)).Nodup := by
    have hn : derived.Nodup := hincreasing.imp fun {a b} hlt (heq : a = b) => Int.lt_irrefl b.sequence (heq ▸ hlt)
    exact (List.nodup_map_iff_inj_on hn).mpr fun a ha b hb => hm.events.eq ((hmem a).mp ha).1 ((hmem b).mp hb).1
  have hissued := fun {kind target} (hhas : Has (actionValues (contextOf p m now) i) kind target) => issued_of_has hcontainment htriggers hhas
  have hparts := hcontainment
  simp only [containmentRisks, List.append_eq_nil_iff, flag_eq_nil, not_exists, not_and, not_not] at hparts
  obtain ⟨⟨⟨⟨-, hagents⟩, hchannels⟩, hstates⟩, hcredentials⟩ := hparts
  have hobject : ∀ {kinds : List IncidentEventKind} {kind : ContainmentKind} {e : IncidentEvent},
      (∀ o ∈ objectsOf kinds derived, Has (actionValues (contextOf p m now) i) kind o) → InScope m i e → e.kind ∈ kinds →
        Issued m i kind e.objectId :=
    fun hall he hk => hissued (hall _ (mem_objectsOf.mpr ⟨_, (hmem _).mpr he, hk, rfl⟩))
  -- the package, and the re-entries that wait for it
  obtain ⟨f, hf, hfIncident, hfScope, hfPreserved, hfAfter⟩ := packageRisks_nil hpackage
  obtain ⟨hfIn, hfId⟩ := Dict.ofItems_mem hf
  simp only [reentryRisks, List.append_eq_nil_iff, flag_eq_nil, not_not, List.flatMap_eq_nil_iff] at hreentry
  obtain ⟨⟨-, hitems⟩, hagentSet⟩ := hreentry
  have hwaits : ∀ r, Reenters m i r → max i.containedAtEpoch f.generatedAtEpoch ≤ r.issuedAtEpoch ∧
      max i.containedAtEpoch f.generatedAtEpoch ≤ r.notBeforeEpoch := by
    intro r hr
    have hbound := reentryItemRisks_nil (hitems r ((mem_listedReentries hm).mpr hr))
    rw [hf] at hbound
    exact hbound
  have hpreserved : ∀ x hash, Dict.mapping f.preservedEventSha256ById x = some hash ↔
      ∃ e, InScope m i e ∧ e.eventId = x ∧ hash = rt.casefold e.eventSha256 := by
    intro x hash
    rw [hfPreserved.eq x, expectedPreserved, mapping_map hnodup]
    simp only [hmem, InScope]
  have hreenter : ∀ agent, (∃ r, Reenters m i r ∧ r.agentId = agent) ↔ agent ∈ (listedReentries (contextOf p m now) i).map (·.agentId) := by
    intro agent
    simp only [List.mem_map, mem_listedReentries hm]
  refine ⟨⟨hsome, hsub⟩, fun e he => hissued (hagents _ (mem_scopeAgents.mpr ⟨e, (hmem e).mpr he, rfl⟩)),
    fun e he hk => hobject hchannels he (List.mem_singleton.mpr hk), fun e he hk => hobject hstates he (by simpa using hk),
    fun e he hk => hobject hcredentials he (List.mem_singleton.mpr hk), fun e he => hquiet e ((hmem e).mpr he), ?_,
    ⟨f, ⟨hfIn, hfId, hfIncident⟩, fun x => by rw [hfScope, hscopeIds], hpreserved, hfAfter, fun r hr => ?_⟩, fun agent => ?_,
    fun r hr => ?_⟩
  · unfold evidenceRisks at hevidence
    split at hevidence
    · next a haction =>
      obtain ⟨hin, hkind⟩ := List.mem_filter.mp (haction ▸ List.mem_singleton_self a)
      obtain ⟨id, hid, hlookup⟩ := List.mem_filterMap.mp hin
      obtain ⟨hain, rfl⟩ := Dict.ofItems_mem (actionOf_some.mp hlookup).1
      simp only [List.append_eq_nil_iff, flag_eq_nil, not_not] at hevidence
      obtain ⟨hk, htarget⟩ := of_decide_eq_true hkind
      exact ⟨a, hain, hid, hk, htarget, fun x => by rw [hevidence.1, hscopeIds]⟩
    · cases hevidence
  · have hbound := hwaits r hr
    omega
  · have hrequired : agent ∈ requiredReentryAgents (contextOf p m now) derived ↔
        agent ∈ p.safeCheckpointIdByAgent.map (·.1) ∧ ∃ e, InScope m i e ∧ e.agentId = agent := by
      rw [requiredReentryAgents, List.mem_filter, decide_eq_true_eq, mem_scopeAgents]
      simp only [hmem, InScope]
      rfl
    rw [hreenter, ← hrequired]
    exact ⟨hagentSet.1 agent, hagentSet.2 agent⟩
  · have hbound := hwaits r hr
    omega

/-- The loop never runs on, whatever the triggers are. -/
theorem deriveScope_shallow (triggers : List String) : Shallow (deriveScope es triggers) := by
  obtain ⟨result, hsettle, -⟩ := Passes.settle_spec (eventParentIds es) triggers.nodup_dedup
  have hlength : (eventParentIds es).length = es.length := by rw [eventParentIds, List.length_map]
  rw [hlength] at hsettle
  unfold deriveScope
  rw [hsettle]
  exact .bind (gather_shallow fun _ => .getItem) fun _ _ => .ok

/-- The scope of an incident is exactly what follows from its triggers, it only grows with the graph, and containment covers it. -/
theorem incident_contained (analyzer : AgentProvenanceIncidentForensicsAnalyzer rt)
    (hm : validateManifest rt analyzer.policy m now = .ok ()) :
    (∀ triggers, deriveScope m.events triggers ≠ .error .recursion) ∧
    (∀ triggers, triggers ⊆ m.events.map (·.eventId) → ∃ scope : List IncidentEvent,
      deriveScope m.events triggers = .ok (scope.map (·.eventId)) ∧ (scope.Pairwise fun a b => a.sequence < b.sequence) ∧
      ∀ e, e ∈ scope ↔ e ∈ m.events ∧ Reached m.events triggers e) ∧
    (∀ es' triggers triggers' ids, Extended m.events es' → triggers ⊆ triggers' → triggers' ⊆ m.events.map (·.eventId) →
      deriveScope m.events triggers = .ok ids → ∃ ids', deriveScope es' triggers' = .ok ids' ∧ ids ⊆ ids') ∧
    (∀ p8g p8h p8i p8j facts, analyzer.derive m p8g p8h p8i p8j now = .ok facts → ∀ fact ∈ facts, fact.decision = .allow →
      ∃ i ∈ m.incidents, i.incidentId = fact.incidentId ∧ Contained rt analyzer.policy m i) := by
  have hapart := validateManifest_apart hm
  refine ⟨deriveScope_shallow, fun triggers ht => deriveScope_spec hapart.events ht,
    fun es' triggers triggers' ids h ht ht' hids => deriveScope_mono hapart.events h ht ht' hids, ?_⟩
  intro p8g p8h p8i p8j facts hfacts fact hfact hallow
  simp only [AgentProvenanceIncidentForensicsAnalyzer.derive, bind_ok, Checks.gather_ok] at hfacts
  obtain ⟨-, -, -, -, hfacts⟩ := hfacts
  obtain ⟨i, hi, hfactOf⟩ := Checks.exists_of_forall₂ hfacts hfact
  exact ⟨i, mem_sortOn.mp hi, (factOf_allow hfactOf hallow).1.symm, contained_of_allow hapart hfactOf hallow⟩

end Containment

/-! ## An alert, a message and a state -/

namespace Sample

def event (id agent : String) (sequence : Int) (kind : IncidentEventKind) (object : String) (parents : List String) (previous self : Char) :
    IncidentEvent where
  eventId := id
  sequence := sequence
  agentId := agent
  originalPrincipalId := "alice"
  tenantId := "acme"
  sessionId := none
  kind := kind
  objectId := object
  parentEventIds := parents
  previousEventSha256 := hex previous
  payloadSha256 := hex 'e'
  eventSha256 := hex self
  observedAtEpoch := 100 + sequence
  ownerId := "ops"
  description := ""

def alert : IncidentEvent := event "e1" "reader" 1 .alert "mail" [] '0' '1'

/-- The next event of the same agent. -/
def message : IncidentEvent := event "e2" "reader" 2 .message "bus" [] '1' '2'

/-- What the message led another agent to. -/
def transition : IncidentEvent := event "e3" "writer" 3 .stateTransition "ledger" ["e2"] '0' '3'

/-- Nothing that follows from the alert. -/
def bystander : IncidentEvent := event "e4" "clerk" 4 .message "other" [] '0' '4'

def action (id : String) (kind : ContainmentKind) (target : String) : ContainmentAction where
  actionId := id
  incidentId := "i1"
  kind := kind
  targetId := target
  evidenceEventIds := if kind = .preserveEvidence then ["e1", "e2", "e3"] else []
  evidenceDigestSha256 := hex '5'
  issuedAtEpoch := 110
  ownerId := "ops"
  description := ""

def package : ForensicPackage where
  packageId := "f1"
  incidentId := "i1"
  scopeEventIds := ["e1", "e2", "e3"]
  reconstructionEventIds := ["e1", "e2", "e3"]
  rootEventIds := ["e1"]
  preservedEventSha256ById := [("e1", hex '1'), ("e2", hex '2'), ("e3", hex '3')]
  generatedAtEpoch := 130
  ownerId := "ops"
  description := ""

def reentry : ReentryAuthorization where
  reentryId := "r1"
  incidentId := "i1"
  agentId := "writer"
  safeCheckpointId := "cp"
  forensicPackageSha256 := hex '6'
  replacementCredentialSha256 := hex 'd'
  minimumStateVersion := 2
  issuedAtEpoch := 140
  notBeforeEpoch := 150
  expiresAtEpoch := 400
  ownerId := "ops"
  description := ""

def incident : IncidentCase where
  incidentId := "i1"
  triggerEventIds := ["e1"]
  containmentActionIds := ["a1", "a2", "a3", "a4", "a5"]
  forensicPackageId := "f1"
  reentryAuthorizationIds := ["r1"]
  containedAtEpoch := 120
  ownerId := "ops"
  description := ""

def manifest : AgentIncidentForensicsManifest where
  graphId := "g"
  version := "1"
  p8gAssessmentEvidenceSha256 := hex 'a'
  p8hAssessmentEvidenceSha256 := hex 'a'
  p8iAssessmentEvidenceSha256 := hex 'a'
  p8jAssessmentEvidenceSha256 := hex 'a'
  createdAtEpoch := 200
  events := [transition, alert, bystander, message]
  containmentActions := [action "a1" .quarantineAgent "reader", action "a2" .quarantineAgent "writer", action "a3" .isolateChannel "bus",
    action "a4" .freezeState "ledger", action "a5" .preserveEvidence "i1"]
  forensicPackages := [package]
  reentryAuthorizations := [reentry]
  incidents := [incident]
  schemaVersion := incidentSchemaVersion

/-- What stands for the digest of a document: an event, the package, the manifest or the evidence. -/
def digestOf (j : Json) : Char :=
  match j.str? "event_id" with
  | some "e1" => '1'
  | some "e2" => '2'
  | some "e3" => '3'
  | some _ => '4'
  | none => if (j.get? "package_id").isSome then '6' else if (j.get? "graph_id").isSome then '0' else '5'

theorem digestOf_not_blank (j : Json) : blank (hex (digestOf j)) = false := by
  have hspace : isSpace (digestOf j) = false := by
    unfold digestOf
    split
    · rfl
    · rfl
    · rfl
    · rfl
    · split
      · rfl
      · split <;> rfl
  rw [blank, Assurance.hex_toList, List.all_cons, hspace, Bool.false_and]

def base : Runtime := Runtime.folded (hex '0') hex_not_blank

def runtime : Runtime :=
  { base with sha256 := fun j => hex (digestOf j), hmac := fun _ j => hex (digestOf j), sha256_not_blank := digestOf_not_blank }

def policy : AgentIncidentForensicsPolicy where
  expectedGraphId := "g"
  expectedGraphVersion := "1"
  expectedGraphSha256 := hex '0'
  expectedP8gAssessmentEvidenceSha256 := hex 'a'
  expectedP8hAssessmentEvidenceSha256 := hex 'a'
  expectedP8iAssessmentEvidenceSha256 := hex 'a'
  expectedP8jAssessmentEvidenceSha256 := hex 'a'
  requiredEventIds := ["e1", "e2", "e3", "e4"]
  requiredContainmentActionIds := ["a1", "a2", "a3", "a4", "a5"]
  requiredForensicPackageIds := ["f1"]
  requiredReentryAuthorizationIds := ["r1"]
  requiredIncidentIds := ["i1"]
  trustedOwnerIds := ["ops"]
  expectedEventProfiles := [alert, message, transition, bystander].map fun e => (e.eventId, e.profile base)
  expectedIncidentProfiles := [("i1", incident.profile)]
  safeCheckpointIdByAgent := [("writer", "cp"), ("clerk", "cp")]
  replacementCredentialSha256ByAgent := [("writer", hex 'd'), ("clerk", hex 'd')]
  minimumReentryStateVersionByAgent := [("writer", 2), ("clerk", 2)]
  maxManifestAgeSeconds := 600
  maxForensicPackageAgeSeconds := 600
  maxFutureSkewSeconds := 30

theorem policy_valid : validatePolicy runtime policy = .ok () := by decide +kernel

def analyzer : AgentProvenanceIncidentForensicsAnalyzer runtime where
  policy := policy
  valid := policy_valid

def upstream (verifiedFlag callerFlag name : String) : Json :=
  .obj [("assessment_evidence_sha256", .str (hex 'a')), (verifiedFlag, .bool true), (callerFlag, .bool false),
    (name, .arr [.obj [("decision", .obj [("value", .str "allow")])]])]

def derived : Check (List IncidentForensicsFact) :=
  analyzer.derive manifest (upstream "exact_agent_message_graph_binding_verified" "caller_declared_message_safety_trusted" "messages")
    (upstream "exact_state_transition_graph_binding_verified" "caller_declared_state_safety_trusted" "transitions")
    (upstream "exact_artifact_graph_binding_verified" "caller_declared_artifact_safety_trusted" "actions")
    (upstream "exact_recovery_graph_binding_verified" "caller_declared_recovery_safety_trusted" "recoveries") 200

theorem accepted : validateManifest runtime policy manifest 200 = .ok () := by decide +kernel

theorem derived_allows : ∃ facts, derived = .ok facts ∧ facts.map (fun f => (f.incidentId, f.scopeEventIds, f.decision)) =
    [("i1", ["e1", "e2", "e3"], .allow)] := by
  obtain ⟨facts, hfacts, hmap⟩ := Checks.ok_of_map (x := Checks.gather (factOf runtime (contextOf policy manifest 200)) [incident])
    (f := fun facts : List IncidentForensicsFact => facts.map fun f => (f.incidentId, f.scopeEventIds, f.decision))
    (b := [("i1", ["e1", "e2", "e3"], .allow)]) (by decide +kernel)
  refine ⟨facts, ?_, hmap⟩
  simp only [derived, AgentProvenanceIncidentForensicsAnalyzer.derive, validateUpstream, bind_ok]
  exact ⟨(), ⟨(), by decide +kernel, (), by decide +kernel, (), by decide +kernel, by decide +kernel⟩, (), accepted, hfacts⟩

end Sample

open Sample in
theorem incident_contained_message : Contained runtime policy manifest incident := by
  obtain ⟨facts, hderived, hallowed⟩ := derived_allows
  have hmem : ("i1", ["e1", "e2", "e3"], IncidentDecision.allow) ∈ facts.map fun f => (f.incidentId, f.scopeEventIds, f.decision) := by
    rw [hallowed]
    exact List.mem_singleton_self _
  obtain ⟨fact, hfact, hpair⟩ := List.mem_map.mp hmem
  obtain ⟨-, hdecision⟩ := Prod.mk.inj (Prod.mk.inj hpair).2
  obtain ⟨i, hi, -, hcontained⟩ := (incident_contained analyzer accepted).2.2.2 _ _ _ _ facts hderived fact hfact hdecision
  obtain rfl := List.mem_singleton.mp hi
  exact hcontained

end Aegis.Agentic.IncidentForensics
