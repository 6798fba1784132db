/-
  Aegis.Detection.ReplaySuppression — which events `ingest` answers `DEDUPLICATED`.

  The store holds one row for an identifier, and producers choose their identifiers.
  - `ingestEvent_cases`: an event whose identifier is in the store is dropped; any other is stored
    and the rules are evaluated for it.
  - `only_replays_iff`: in a run every dropped event is one that is stored already, if and only if
    no two verified events of the run share an identifier and differ in their source or their body.
  - `Sample.impersonated`: one source uses the identifier of another first, and the event of the
    other is neither stored nor evaluated.
-/

import Aegis.Detection.AlertChain

namespace Aegis.Detection

open Data Checks

section

variable {rt : Runtime} {reg : SourceRegistry} {rules : List Rule} {v : SignedEventEnvelope}

/-- The events of the store. -/
def EventStore.stored (s : EventStore) : List SecurityEvent := s.events.map (·.event)

/-- The events of the calls that the registry verifies, as they come. -/
def verified (rt : Runtime) (reg : SourceRegistry) (calls : List (SignedEventEnvelope × Int)) : List SecurityEvent :=
  calls.filterMap fun c => (reg.verify rt c.1 c.2).toOption

/-- What is asked of one call: `DEDUPLICATED` is the answer to an event that is stored already, and an
event that is not is stored and the rules are evaluated for it. The body of an event is stored with it. -/
structure OnlyReplays (rt : Runtime) (reg : SourceRegistry) (rules : List Rule) (c : SignedEventEnvelope × Int) (s : EventStore) : Prop where
  dropped : ∀ e, reg.verify rt c.1 c.2 = .ok e → (ingest rt reg rules c.1 c.2 s).2 = .ok .deduplicated → e ∈ s.stored
  kept : ∀ e, reg.verify rt c.1 c.2 = .ok e → e ∉ s.stored → e ∈ (ingest rt reg rules c.1 c.2 s).1.stored ∧
    ∃ order appended, ingest rt reg rules c.1 c.2 s =
      ((evaluate rt rules e order appended).1, (evaluate rt rules e order appended).2.map .accepted)

/-! ## One call -/

/-- An event whose identifier is in the store, and any other. -/
theorem ingestEvent_cases (e : SecurityEvent) (s : EventStore) :
    (e.eventId ∈ s.stored.map (·.eventId) ∧ (ingestEvent rt rules e s).2 = .ok .deduplicated ∧ (ingestEvent rt rules e s).1.stored = s.stored) ∨
    (e.eventId ∉ s.stored.map (·.eventId) ∧ (ingestEvent rt rules e s).1.stored = s.stored ++ [e] ∧
      ∃ order appended, ingestEvent rt rules e s =
        ((evaluate rt rules e order appended).1, (evaluate rt rules e order appended).2.map .accepted)) := by
  have hids : s.stored.map (·.eventId) = s.events.map (·.event.eventId) := List.map_map
  rw [hids]
  unfold ingestEvent append
  by_cases hin : e.eventId ∈ s.events.map (·.event.eventId)
  · refine .inl ⟨hin, ?_⟩
    rw [if_pos hin]
    exact ⟨rfl, rfl⟩
  · refine .inr ⟨hin, ?_⟩
    rw [if_neg hin]
    refine ⟨?_, _, _, rfl⟩
    unfold EventStore.stored evaluate
    dsimp only
    rw [(evaluateRules_evaluated rt _ e _ rules _).events, List.map_append]
    rfl

theorem ingest_of_verified {now : Int} {e : SecurityEvent} (h : reg.verify rt v now = .ok e) (s : EventStore) :
    ingest rt reg rules v now s = ingestEvent rt rules e s := by
  unfold ingest
  rw [h]

theorem ingest_of_denied {now : Int} {x : Raised} (h : reg.verify rt v now = .error x) (s : EventStore) :
    (ingest rt reg rules v now s).1.stored = s.stored := by
  unfold ingest
  rw [h]
  cases x with
  | denied reason => rfl
  | typeError => rfl
  | attributeError name => rfl

theorem stored_subset_ingest (c : SignedEventEnvelope × Int) (s : EventStore) : s.stored ⊆ (ingest rt reg rules c.1 c.2 s).1.stored := by
  cases hv : reg.verify rt c.1 c.2 with
  | error x =>
    rw [ingest_of_denied hv]
    exact List.Subset.refl _
  | ok e =>
    rw [ingest_of_verified hv]
    rcases @ingestEvent_cases rt rules e s with ⟨-, -, hstored⟩ | ⟨-, hstored, -⟩
    · rw [hstored]
      exact List.Subset.refl _
    · rw [hstored]
      exact List.subset_append_left _ _

theorem stored_subset_run (s : EventStore) (calls : List (SignedEventEnvelope × Int)) : s.stored ⊆ (run rt reg rules s calls).stored := by
  induction calls generalizing s with
  | nil => exact List.Subset.refl _
  | cons c calls ih => exact List.Subset.trans (stored_subset_ingest c s) (ih _)

/-! ## A run -/

/-- The store holds some of the verified events, one of every identifier. -/
structure FirstOfEach (vs : List SecurityEvent) (s : EventStore) : Prop where
  verified : s.stored ⊆ vs
  covered : ∀ e ∈ vs, e.eventId ∈ s.stored.map (·.eventId)
  nodup : (s.stored.map (·.eventId)).Nodup

theorem FirstOfEach.ingest {vs : List SecurityEvent} {s : EventStore} (h : FirstOfEach vs s) (c : SignedEventEnvelope × Int) :
    FirstOfEach (vs ++ Detection.verified rt reg [c]) (Detection.ingest rt reg rules c.1 c.2 s).1 := by
  unfold Detection.verified
  cases hv : reg.verify rt c.1 c.2 with
  | error x =>
    have hnone : [c].filterMap (fun c => (reg.verify rt c.1 c.2).toOption) = [] := by
      rw [List.filterMap_cons, hv]
      rfl
    rw [hnone, List.append_nil]
    constructor
    · rw [ingest_of_denied hv]
      exact h.verified
    · rw [ingest_of_denied hv]
      exact h.covered
    · rw [ingest_of_denied hv]
      exact h.nodup
  | ok e =>
    have hone : [c].filterMap (fun c => (reg.verify rt c.1 c.2).toOption) = [e] := by
      rw [List.filterMap_cons, hv]
      rfl
    rw [hone, ingest_of_verified hv]
    rcases @ingestEvent_cases rt rules e s with ⟨hin, -, hstored⟩ | ⟨hnew, hstored, -⟩
    · constructor
      · rw [hstored]
        exact List.Subset.trans h.verified (List.subset_append_left _ _)
      · intro f hf
        rw [hstored]
        rcases List.mem_append.mp hf with hf | hf
        · exact h.covered f hf
        · rw [List.mem_singleton.mp hf]
          exact hin
      · rw [hstored]
        exact h.nodup
    · constructor
      · rw [hstored]
        intro f hf
        rcases List.mem_append.mp hf with hf | hf
        · exact List.mem_append_left _ (h.verified hf)
        · exact List.mem_append_right _ hf
      · intro f hf
        rw [hstored, List.map_append, List.mem_append]
        rcases List.mem_append.mp hf with hf | hf
        · exact .inl (h.covered f hf)
        · rw [List.mem_singleton.mp hf]
          exact .inr List.mem_cons_self
      · rw [hstored, List.map_append]
        exact List.nodup_append.mpr ⟨h.nodup, List.nodup_singleton _, fun x hx y hy => by
          rw [List.mem_singleton.mp hy]
          rintro rfl
          exact hnew hx⟩

theorem verified_append (calls more : List (SignedEventEnvelope × Int)) :
    verified rt reg (calls ++ more) = verified rt reg calls ++ verified rt reg more := List.filterMap_append

theorem firstOfEach_run (calls : List (SignedEventEnvelope × Int)) : FirstOfEach (verified rt reg calls) (run rt reg rules .empty calls) := by
  induction calls using List.reverseRecOn with
  | nil => exact ⟨List.Subset.refl _, fun e he => absurd he List.not_mem_nil, List.nodup_nil⟩
  | append_singleton calls c ih =>
    rw [verified_append, run_append]
    exact ih.ingest c

/-- In a run, whatever is dropped is stored already and whatever is not stored is kept, if and only if
verified events of one identifier are one event. -/
theorem only_replays_iff (calls : List (SignedEventEnvelope × Int)) :
    (∀ before c after, calls = before ++ c :: after → OnlyReplays rt reg rules c (run rt reg rules .empty before)) ↔
      ∀ e ∈ verified rt reg calls, ∀ e' ∈ verified rt reg calls, e.eventId = e'.eventId → e = e' := by
  constructor
  · intro h
    have hstored : ∀ e ∈ verified rt reg calls, e ∈ (run rt reg rules .empty calls).stored := by
      intro e he
      obtain ⟨c, hc, hverify⟩ := List.mem_filterMap.mp he
      obtain ⟨before, after, rfl⟩ := List.append_of_mem hc
      have hok : reg.verify rt c.1 c.2 = .ok e := by
        cases hv : reg.verify rt c.1 c.2 with
        | error x =>
          rw [hv] at hverify
          cases hverify
        | ok e' =>
          rw [hv] at hverify
          rw [Option.some.inj hverify]
      have hreplay := h before c after rfl
      rw [run_append]
      refine stored_subset_run _ after ?_
      by_cases hin : e ∈ (run rt reg rules .empty before).stored
      · exact stored_subset_ingest c _ hin
      · exact (hreplay.kept e hok hin).1
    intro e he e' he' hid
    exact List.inj_on_of_nodup_map (firstOfEach_run calls).nodup (hstored e he) (hstored e' he') hid
  · rintro hsame before c after rfl
    have hfirst := @firstOfEach_run rt reg rules before
    have hreplay : ∀ e, reg.verify rt c.1 c.2 = .ok e → e.eventId ∈ (run rt reg rules .empty before).stored.map (·.eventId) →
        e ∈ (run rt reg rules .empty before).stored := by
      intro e hv hid
      obtain ⟨f, hf, hfid⟩ := List.mem_map.mp hid
      have hfv : f ∈ verified rt reg (before ++ c :: after) := by
        rw [verified_append]
        exact List.mem_append_left _ (hfirst.verified hf)
      have hev : e ∈ verified rt reg (before ++ c :: after) := by
        refine List.mem_filterMap.mpr ⟨c, by simp, ?_⟩
        rw [hv]
        rfl
      rw [← hsame f hfv e hev hfid]
      exact hf
    constructor
    · intro e hv hdropped
      rw [ingest_of_verified hv] at hdropped
      rcases @ingestEvent_cases rt rules e (run rt reg rules .empty before) with ⟨hin, -, -⟩ | ⟨-, -, order, appended, he⟩
      · exact hreplay e hv hin
      · rw [he] at hdropped
        cases hx : (evaluate rt rules e order appended).2 with
        | error x =>
          rw [hx] at hdropped
          cases hdropped
        | ok alerts =>
          rw [hx] at hdropped
          cases hdropped
    · intro e hv hnot
      rw [ingest_of_verified hv]
      rcases @ingestEvent_cases rt rules e (run rt reg rules .empty before) with ⟨hin, -, -⟩ | ⟨-, hstored, hevaluated⟩
      · exact absurd (hreplay e hv hin) hnot
      · refine ⟨?_, hevaluated⟩
        rw [hstored]
        exact List.mem_append_right _ List.mem_cons_self

end

namespace Sample

/-- What another source sends under the identifier of `first`, and no rule is about. -/
def impostor : SecurityEvent := { event "event-1" "LOGIN_SUCCEEDED" 900 1 with sourceId := "console", sourceKind := "CONSOLE" }

def sources : SourceRegistry where
  policies := [⟨"agent", "AGENT", "key", ["application_agent"], ["DETERMINISTIC_FIXTURE"]⟩,
    ⟨"console", "CONSOLE", "console-key", ["application_agent"], ["DETERMINISTIC_FIXTURE"]⟩]
  nodup := by decide

/-- What is hashed when the other source comes first. -/
def shared : Runtime where
  sha256 := Assurance.tabledDigest [impostor.toDict, chained "p11f-event-chain" genesis impostor.toDict, first.toDict]
  hmac _ := Assurance.tabledDigest []
  sha256_not_blank := Assurance.tabledDigest_not_blank _
  canonicalBytes _ := 700
  sensitiveMaterialFree _ := true
  verifies _ _ _ := true

def sent (e : SecurityEvent) : SignedEventEnvelope × Int :=
  (⟨e.sourceId, e.eventId, e.eventTime, e.sequence, shared.sha256 e.toDict, e.toDict, "signature"⟩, e.eventTime)

/-- The registry verifies both events, and the second, which a rule is about, is dropped for the first. -/
theorem impersonated :
    sources.verify shared (sent impostor).1 (sent impostor).2 = .ok impostor ∧ sources.verify shared (sent first).1 (sent first).2 = .ok first ∧
    (ingest shared sources rules (sent first).1 (sent first).2 (run shared sources rules .empty [sent impostor])).2 = .ok .deduplicated ∧
    (run shared sources rules .empty [sent impostor, sent first]).stored = [impostor] ∧
    ¬ ∀ before c after, [sent impostor, sent first] = before ++ c :: after →
      OnlyReplays shared sources rules c (run shared sources rules .empty before) := by
  have hverified : sources.verify shared (sent first).1 (sent first).2 = .ok first := by
    decide +kernel
  have hdropped : (ingest shared sources rules (sent first).1 (sent first).2 (run shared sources rules .empty [sent impostor])).2 =
      .ok .deduplicated := by
    decide +kernel
  have hstored : (run shared sources rules .empty [sent impostor]).stored = [impostor] := by
    decide +kernel
  refine ⟨by decide +kernel, hverified, hdropped, by decide +kernel, ?_⟩
  intro h
  have hin := (h [sent impostor] (sent first) [] rfl).dropped first hverified hdropped
  rw [hstored] at hin
  have hne : first ≠ impostor := by
    decide +kernel
  exact hne (List.mem_singleton.mp hin)

end Sample

end Aegis.Detection
