/-
  Aegis.Agentic.PinnedTransitions — what the digest of a state-transition manifest settles of its
  results.

  `_norm` writes every text of 64 hexadecimal letters in small letters, also where the analyzer
  compares texts letter by letter: identifiers, idempotency keys, observations.

  - `respelled_of_digest`: manifests of one digest whose texts are of one spelling list the same
    items, but for their order, the letters of digests, and descriptions.
  - `step_respelled`: none of this shows in a step, so `derive` gives both the same results
    (`derive_respelled`).
-/

import Aegis.Agentic.CanonicalForm
import Aegis.Agentic.SerialChain

namespace Aegis.Agentic.StateMachine

open Data Evidence Checked
open Decision (Folds SameDigest OneSpelling Told eq_of_normText sameDigest_of_normText rel_of_normText member_of_normText told_of_oneSpelling
  shownItem paired_of_normItems)

variable {rt : Runtime} {p : AgentStateTransitionPolicy} {m m' : AgentStateTransitionManifest} {now : Int}

/-! ## Texts that are neither digests nor descriptions -/

def StateObject.texts (o : StateObject) : List String := [o.objectId, o.tenantId, o.ownerId]

def LeaseRecord.texts (l : LeaseRecord) : List String := [l.leaseId, l.objectId, l.ownerAgentId, l.ownerId]

def StateTransition.texts (t : StateTransition) : List String :=
  [t.transitionId, t.objectId, t.messageId, t.actorAgentId, t.originalPrincipalId, t.tenantId, t.ownerId] ++
    t.approvalActionId.toList ++ t.observationId.toList ++ t.idempotencyKey.toList ++ t.leaseId.toList

def AgentStateTransitionManifest.texts (m : AgentStateTransitionManifest) : List String :=
  [m.graphId, m.version] ++ m.objects.flatMap StateObject.texts ++ m.leases.flatMap LeaseRecord.texts ++
    m.transitions.flatMap StateTransition.texts

/-! ## Respelled items -/

/-- The same but for the letters of digests and the description. -/
def StateObject.Respelled (rt : Runtime) (o o' : StateObject) : Prop :=
  ∃ sha256 description, SameDigest rt o.stateSha256 sha256 ∧
    o' = { o with stateSha256 := sha256, description := description }

def LeaseRecord.Respelled (l l' : LeaseRecord) : Prop := ∃ description, l' = { l with description := description }

def StateTransition.Respelled (rt : Runtime) (t t' : StateTransition) : Prop :=
  ∃ expected proposed payload bound description, SameDigest rt t.expectedStateSha256 expected ∧
    SameDigest rt t.proposedStateSha256 proposed ∧ SameDigest rt t.payloadSha256 payload ∧
    Option.Rel (SameDigest rt) t.approvalBoundStateSha256 bound ∧ t' = { t with
      expectedStateSha256 := expected, proposedStateSha256 := proposed, payloadSha256 := payload, approvalBoundStateSha256 := bound,
      description := description }

/-- The tuples list respelled items in the same order. -/
structure Respelled (rt : Runtime) (m m' : AgentStateTransitionManifest) : Prop where
  graphId : m.graphId = m'.graphId
  version : m.version = m'.version
  createdAtEpoch : m.createdAtEpoch = m'.createdAtEpoch
  schemaVersion : m.schemaVersion = stateSchemaVersion → m'.schemaVersion = stateSchemaVersion
  p8d : SameDigest rt m.p8dAssessmentEvidenceSha256 m'.p8dAssessmentEvidenceSha256
  p8f : SameDigest rt m.p8fAssessmentEvidenceSha256 m'.p8fAssessmentEvidenceSha256
  p8g : SameDigest rt m.p8gAssessmentEvidenceSha256 m'.p8gAssessmentEvidenceSha256
  objects : List.Forall₂ (StateObject.Respelled rt) m.objects m'.objects
  leases : List.Forall₂ LeaseRecord.Respelled m.leases m'.leases
  transitions : List.Forall₂ (StateTransition.Respelled rt) m.transitions m'.transitions
  digest : m.digest rt = m'.digest rt

theorem StateObjectType.length_value (x : StateObjectType) : x.value.length ≠ 64 := by
  cases x <;> decide

theorem TransitionIntent.length_value (x : TransitionIntent) : x.value.length ≠ 64 := by
  cases x <;> decide

theorem ConcurrencyControl.length_value (x : ConcurrencyControl) : x.value.length ≠ 64 := by
  cases x <;> decide

theorem object_respelled (hfolds : Folds rt) {o o' : StateObject} (htold : Told rt o.texts o'.texts)
    (h : shownItem rt StateObject.toDict o = shownItem rt StateObject.toDict o') : o.Respelled rt o' := by
  simp only [shownItem, StateObject.toDict, Json.entries_obj, List.map_cons, List.map_nil, Canonical.normItem.normValue, Json.sorted,
    List.cons.injEq, Json.str.injEq, Json.int.injEq, and_true] at h
  obtain ⟨hid, htype, htenant, hversion, hstate, howner, -⟩ := h
  have hid := htold o.objectId (by simp [StateObject.texts]) o'.objectId (by simp [StateObject.texts]) hid
  have htenant := htold o.tenantId (by simp [StateObject.texts]) o'.tenantId (by simp [StateObject.texts]) htenant
  have howner := htold o.ownerId (by simp [StateObject.texts]) o'.ownerId (by simp [StateObject.texts]) howner
  have htype := member_of_normText hfolds StateObjectType.value_injective StateObjectType.length_value htype
  refine ⟨o'.stateSha256, o'.description, sameDigest_of_normText hfolds hstate, ?_⟩
  rw [hid, htype, htenant, hversion, howner]

theorem lease_respelled {l l' : LeaseRecord} (htold : Told rt l.texts l'.texts)
    (h : shownItem rt LeaseRecord.toDict l = shownItem rt LeaseRecord.toDict l') : l.Respelled l' := by
  simp only [shownItem, LeaseRecord.toDict, Json.entries_obj, List.map_cons, List.map_nil, Canonical.normItem.normValue, Json.sorted,
    List.cons.injEq, Json.str.injEq, Json.int.injEq, and_true] at h
  obtain ⟨hid, hobject, hagent, hissued, hexpires, howner, -⟩ := h
  have htexts := htold.all (by simp [LeaseRecord.texts, hid, hobject, hagent, howner])
  simp only [LeaseRecord.texts, List.cons.injEq] at htexts
  refine ⟨l'.description, ?_⟩
  simp only [htexts, hissued, hexpires]

theorem optional_texts (t : StateTransition) :
    ∀ o ∈ [t.approvalActionId, t.observationId, t.idempotencyKey, t.leaseId], ∀ s ∈ o, s ∈ t.texts := by
  intro o ho s hs
  simp only [List.mem_cons, List.not_mem_nil, or_false] at ho
  rcases ho with rfl | rfl | rfl | rfl
  all_goals simp [StateTransition.texts, Option.mem_def.mp hs]

theorem transition_respelled (hfolds : Folds rt) {t t' : StateTransition} (htold : Told rt t.texts t'.texts)
    (h : shownItem rt StateTransition.toDict t = shownItem rt StateTransition.toDict t') : t.Respelled rt t' := by
  simp only [shownItem, StateTransition.toDict, Json.entries_obj, List.map_cons, List.map_nil, Decision.normValue_opt,
    Decision.sorted_optText, Decision.optText_inj, Decision.normValue_optInt, optInt_injective.eq_iff, List.cons.injEq, and_true] at h
  simp only [Canonical.normItem.normValue, Json.sorted, Json.str.injEq, Json.int.injEq, Json.bool.injEq] at h
  obtain ⟨hid, hobject, hmessage, happroval, hobservation, hactor, hprincipal, htenant, hintent, hcontrol, hversion, hexpected, hnext,
    hproposed, hkey, hlease, hbound, hboundState, hpayload, hirreversible, hissued, hcommit, howner, -⟩ := h
  have htexts := htold.all (by simp [StateTransition.texts, ← Option.toList_map, hid, hobject, hmessage, hactor, hprincipal, htenant, howner,
    happroval, hobservation, hkey, hlease])
  simp only [StateTransition.texts, List.append_assoc, List.cons_append, List.cons.injEq] at htexts
  have happroval := htold.opt (optional_texts t t.approvalActionId (by simp)) (optional_texts t' t'.approvalActionId (by simp)) happroval
  have hobservation := htold.opt (optional_texts t t.observationId (by simp)) (optional_texts t' t'.observationId (by simp)) hobservation
  have hkey := htold.opt (optional_texts t t.idempotencyKey (by simp)) (optional_texts t' t'.idempotencyKey (by simp)) hkey
  have hlease := htold.opt (optional_texts t t.leaseId (by simp)) (optional_texts t' t'.leaseId (by simp)) hlease
  have hintent := member_of_normText hfolds TransitionIntent.value_injective TransitionIntent.length_value hintent
  have hcontrol := member_of_normText hfolds ConcurrencyControl.value_injective ConcurrencyControl.length_value hcontrol
  refine ⟨t'.expectedStateSha256, t'.proposedStateSha256, t'.payloadSha256, t'.approvalBoundStateSha256, t'.description,
    sameDigest_of_normText hfolds hexpected, sameDigest_of_normText hfolds hproposed, sameDigest_of_normText hfolds hpayload,
    rel_of_normText hfolds hboundState, ?_⟩
  simp only [htexts, happroval, hobservation, hintent, hcontrol, hversion, hnext, hkey, hlease, hbound, hirreversible, hissued, hcommit]

/-! ## Manifests of one digest -/

theorem subset_texts :
    (∀ o ∈ m.objects, o.texts ⊆ m.texts) ∧ (∀ l ∈ m.leases, l.texts ⊆ m.texts) ∧ ∀ t ∈ m.transitions, t.texts ⊆ m.texts := by
  unfold AgentStateTransitionManifest.texts
  refine ⟨fun o ho s hs => ?_, fun l hl s hs => ?_, fun t ht s hs => ?_⟩
  · have hin : s ∈ m.objects.flatMap StateObject.texts := List.mem_flatMap.mpr ⟨o, ho, hs⟩
    simp [hin]
  · have hin : s ∈ m.leases.flatMap LeaseRecord.texts := List.mem_flatMap.mpr ⟨l, hl, hs⟩
    simp [hin]
  · have hin : s ∈ m.transitions.flatMap StateTransition.texts := List.mem_flatMap.mpr ⟨t, ht, hs⟩
    simp [hin]

/-- Manifests of one digest list respelled items, once the second is put in the order of the first. -/
theorem respelled_of_digest (hfolds : Folds rt) (hsha : Function.Injective rt.sha256) (hdigest : m.digest rt = m'.digest rt)
    (hone : OneSpelling rt (m.texts ++ m'.texts)) : ∃ m'', Permutes m' m'' ∧ Respelled rt m m'' := by
  have htold := told_of_oneSpelling hone
  have hcanonical := hsha hdigest
  simp only [AgentStateTransitionManifest.canonical, Json.obj_cons, Json.field.injEq, true_and, Json.str.injEq, Json.int.injEq] at hcanonical
  obtain ⟨hcreated, hgraph, hleases, hobjects, hp8d, hp8f, hp8g, hschema, htransitions, hversion, -⟩ := hcanonical
  obtain ⟨objects, hobjects, hpairs⟩ := paired_of_normItems hobjects (fun _ => rfl) (fun _ _ => rfl)
    fun _ => by simp [StateObject.toDict, Json.entries]
  obtain ⟨leases, hleases, hpairs'⟩ := paired_of_normItems hleases (fun _ => rfl) (fun _ _ => rfl)
    fun _ => by simp [LeaseRecord.toDict, Json.entries]
  obtain ⟨transitions, htransitions, hpairs''⟩ := paired_of_normItems htransitions (fun _ => rfl) (fun _ _ => rfl)
    fun _ => by simp [StateTransition.toDict, Json.entries]
  let m'' : AgentStateTransitionManifest := { m' with objects := objects, leases := leases, transitions := transitions }
  have hpermutes : Permutes m' m'' := ⟨hobjects.symm, hleases.symm, htransitions.symm, rfl⟩
  refine ⟨m'', hpermutes, ?_⟩
  constructor
  · exact htold m.graphId (by simp [AgentStateTransitionManifest.texts]) m'.graphId (by simp [AgentStateTransitionManifest.texts]) hgraph
  · exact htold m.version (by simp [AgentStateTransitionManifest.texts]) m'.version (by simp [AgentStateTransitionManifest.texts]) hversion
  · exact hcreated
  · intro hs
    rw [hs] at hschema
    exact (eq_of_normText hfolds hschema (by decide)).symm
  · exact sameDigest_of_normText hfolds hp8d
  · exact sameDigest_of_normText hfolds hp8f
  · exact sameDigest_of_normText hfolds hp8g
  · refine forall₂_mem hpairs fun o ho o' ho' he => ?_
    exact object_respelled hfolds (htold.mono (subset_texts.1 o ho) (subset_texts.1 o' (hobjects.subset ho'))) he
  · refine forall₂_mem hpairs' fun l hl l' hl' he => ?_
    exact lease_respelled (htold.mono (subset_texts.2.1 l hl) (subset_texts.2.1 l' (hleases.subset hl'))) he
  · refine forall₂_mem hpairs'' fun t ht t' ht' he => ?_
    exact transition_respelled hfolds (htold.mono (subset_texts.2.2 t ht) (subset_texts.2.2 t' (htransitions.subset ht'))) he
  · exact hdigest.trans (digest_permuted hpermutes).symm

/-! ## Validation -/

theorem validateUpstreams_respelled (h : Respelled rt m m') (p8d p8f p8g : Json) :
    validateUpstreams rt p m' p8d p8f p8g = validateUpstreams rt p m p8d p8f p8g := by
  simp only [validateUpstreams, validateUpstream, h.p8d.casefold, h.p8f.casefold, h.p8g.casefold]

theorem validateObject_respelled {o o' : StateObject} (h : o.Respelled rt o') :
    validateObject rt p o' = .ok () ↔ validateObject rt p o = .ok () := by
  obtain ⟨sha256, description, hsame, rfl⟩ := h
  simp only [validateObject, bind_ok, rejectIf_ok, getItem_ok]
  simp only [StateObject.profile, hsame.sha_iff, hsame.casefold]

theorem validateLease_respelled (hobjects : m.objects.map (·.objectId) = m'.objects.map (·.objectId)) {l l' : LeaseRecord}
    (h : l.Respelled l') : validateLease p m' l' = .ok () ↔ validateLease p m l = .ok () := by
  obtain ⟨description, rfl⟩ := h
  simp only [validateLease, bind_ok, rejectIf_ok, hobjects]

theorem isNone_of_rel {b b' : Option String} (h : Option.Rel (SameDigest rt) b b') : b'.isNone = b.isNone := by
  cases h with
  | none => rfl
  | some _ => rfl

theorem sha_of_rel {b b' : Option String} (h : Option.Rel (SameDigest rt) b b') : (∃ x ∈ b', ¬ sha rt x) ↔ ∃ x ∈ b, ¬ sha rt x := by
  cases h with
  | none => simp
  | some hsame => simp [hsame.sha_iff]

theorem validateTransition_respelled (hobjects : m.objects.map (·.objectId) = m'.objects.map (·.objectId))
    (hleases : m.leases.map (·.leaseId) = m'.leases.map (·.leaseId)) {t t' : StateTransition} (h : t.Respelled rt t') :
    validateTransition rt p m' t' = .ok () ↔ validateTransition rt p m t = .ok () := by
  obtain ⟨_, _, _, _, _, hexpected, hproposed, hpayload, hbound, rfl⟩ := h
  simp only [validateTransition, bind_ok, rejectIf_ok, hobjects, hleases, hexpected.sha_iff, hproposed.sha_iff, hpayload.sha_iff,
    isNone_of_rel hbound, sha_of_rel hbound]

section

variable (h : Respelled rt m m')
include h

theorem objectIds_eq : m.objects.map (·.objectId) = m'.objects.map (·.objectId) := by
  refine Checks.map_eq_of_forall₂ (fun o o' ho => ?_) h.objects
  obtain ⟨_, _, -, rfl⟩ := ho
  rfl

theorem leaseIds_eq : m.leases.map (·.leaseId) = m'.leases.map (·.leaseId) := by
  refine Checks.map_eq_of_forall₂ (fun l l' hl => ?_) h.leases
  obtain ⟨_, rfl⟩ := hl
  rfl

theorem transitionIds_eq : m.transitions.map (·.transitionId) = m'.transitions.map (·.transitionId) := by
  refine Checks.map_eq_of_forall₂ (fun t t' ht => ?_) h.transitions
  obtain ⟨_, _, _, _, _, -, -, -, -, rfl⟩ := ht
  rfl

theorem validateManifest_respelled (hv : validateManifest rt p m now = .ok ()) :
    validateManifest rt p m' now = .ok () := by
  have hobjects := objectIds_eq h
  have hleases := leaseIds_eq h
  have htransitions := transitionIds_eq h
  unfold validateManifest at hv ⊢
  simp only [bind_ok, rejectIf_ok, unique_ok, forEach_ok, exists_const] at hv ⊢
  rw [← hobjects, ← hleases, ← htransitions, ← h.digest, ← h.graphId, ← h.version, ← h.createdAtEpoch]
  obtain ⟨hidentity, hdigest, hfresh, hno, hnl, hnt, hcovers, ho, hl, ht⟩ := hv
  refine ⟨?_, hdigest, hfresh, hno, hnl, hnt, hcovers, ?_, ?_, ?_⟩
  · rw [not_or, not_ne_iff] at hidentity ⊢
    exact ⟨h.schemaVersion hidentity.1, hidentity.2⟩
  · intro o' ho'
    obtain ⟨o, hin, hoo⟩ := Checks.exists_of_forall₂ h.objects ho'
    exact (validateObject_respelled hoo).mpr (ho o hin)
  · intro l' hl'
    obtain ⟨l, hin, hll⟩ := Checks.exists_of_forall₂ h.leases hl'
    exact (validateLease_respelled hobjects hll).mpr (hl l hin)
  · intro t' ht'
    obtain ⟨t, hin, htt⟩ := Checks.exists_of_forall₂ h.transitions ht'
    exact (validateTransition_respelled hobjects hleases htt).mpr (ht t hin)

end

/-! ## Steps -/

/-- What is read for every transition, when items are respelled. -/
structure Context.Respelled (rt : Runtime) (c c' : Context) : Prop where
  policy : c.policy = c'.policy
  observations : c.observations = c'.observations
  approvals : c.approvals = c'.approvals
  messages : c.messages = c'.messages
  objects : ∀ k, Option.Rel (StateObject.Respelled rt) (c.objects k) (c'.objects k)
  leases : ∀ k, Option.Rel LeaseRecord.Respelled (c.leases k) (c'.leases k)
  ordered : List.Forall₂ (StateTransition.Respelled rt) c.ordered c'.ordered

variable {c c' : Context} {t t' : StateTransition} {s : Progress} {version : Int} {hash : String}
  {ts ts' : List StateTransition} {r : List StateTransitionFact × Dict Int × Dict String}

theorem observationUseCount_respelled (h : List.Forall₂ (StateTransition.Respelled rt) ts ts') (o : String) :
    observationUseCount ts' o = observationUseCount ts o := by
  unfold observationUseCount
  induction h with
  | nil => rfl
  | cons ht _ ih =>
    obtain ⟨_, _, _, _, _, -, -, -, -, rfl⟩ := ht
    rw [List.filter_cons, List.filter_cons]
    split
    · simpa using ih
    · exact ih

theorem writers_respelled (h : List.Forall₂ (StateTransition.Respelled rt) ts ts') (o : String) (v : Int) :
    (writers ts' o v).map (·.intent) = (writers ts o v).map (·.intent) := by
  unfold writers
  induction h with
  | nil => rfl
  | cons ht _ ih =>
    obtain ⟨_, _, _, _, _, -, -, -, -, rfl⟩ := ht
    rw [List.filter_cons, List.filter_cons]
    split
    · simpa using ih
    · exact ih

theorem fingerprint_respelled (h : t.Respelled rt t') : t'.fingerprint rt = t.fingerprint rt := by
  obtain ⟨_, _, _, _, _, hexpected, hproposed, hpayload, -, rfl⟩ := h
  simp only [StateTransition.fingerprint, hexpected.casefold, hproposed.casefold, hpayload.casefold]

theorem writeRisks_respelled (hc : c.Respelled rt c') (h : t.Respelled rt t') :
    writeRisks rt c' s version hash t' = writeRisks rt c s version hash t := by
  have hlength : ∀ o v, (writers c'.ordered o v).length = (writers c.ordered o v).length := by
    intro o v
    simpa using congrArg List.length (writers_respelled hc.ordered o v)
  have hrollback : ∀ o v, (∃ r ∈ writers c'.ordered o v, r.intent = .rollback) ↔ ∃ r ∈ writers c.ordered o v, r.intent = .rollback := by
    intro o v
    have hmem : (.rollback ∈ (writers c'.ordered o v).map (·.intent)) ↔ .rollback ∈ (writers c.ordered o v).map (·.intent) := by
      rw [writers_respelled hc.ordered o v]
    simpa using hmem
  obtain ⟨_, _, _, _, _, hexpected, -, -, -, rfl⟩ := h
  simp only [writeRisks, hlength, hrollback, hexpected.casefold, hc.policy]

theorem readRisks_respelled (h : t.Respelled rt t') : readRisks rt t' = readRisks rt t := by
  obtain ⟨_, _, _, _, _, hexpected, hproposed, -, -, rfl⟩ := h
  simp only [readRisks, hexpected.casefold, hproposed.casefold]

section

variable (hc : c.Respelled rt c')
include hc

section

variable (h : t.Respelled rt t')
include h

theorem approvalRisks_respelled : approvalRisks rt c' version hash t' = approvalRisks rt c version hash t := by
  obtain ⟨_, _, _, _, _, -, -, -, hbound, rfl⟩ := h
  cases hb : t.approvalBoundStateSha256 with
  | none =>
    rw [hb] at hbound
    cases hbound
    simp only [approvalRisks, hb, hc.policy, hc.approvals]
  | some sha256 =>
    rw [hb] at hbound
    cases hbound with
    | some hsame =>
      cases hv : t.approvalBoundVersion with
      | none => simp only [approvalRisks, hb, hv, hc.policy, hc.approvals]
      | some bound => simp only [approvalRisks, hb, hv, hc.policy, hc.approvals, hsame.casefold]

theorem observationRisks_respelled : observationRisks rt c' t' = observationRisks rt c t := by
  obtain ⟨_, _, _, _, _, -, -, -, -, rfl⟩ := h
  simp only [observationRisks, observationUseCount_respelled hc.ordered, hc.policy, hc.observations]

theorem idempotencyRisks_respelled : idempotencyRisks rt c' s t' = idempotencyRisks rt c s t := by
  have hfingerprint := fingerprint_respelled h
  obtain ⟨_, _, _, _, _, -, -, -, -, rfl⟩ := h
  simp only [idempotencyRisks, hfingerprint, hc.policy]

theorem messageRisks_respelled : messageRisks rt c' t' = messageRisks rt c t := by
  obtain ⟨_, _, _, _, _, -, -, -, -, rfl⟩ := h
  simp only [messageRisks, hc.messages]

theorem leaseRisks_respelled {l l' : Option LeaseRecord}
    (hl : Option.Rel LeaseRecord.Respelled l l') : leaseRisks c' l' t' = leaseRisks c l t := by
  obtain ⟨_, _, _, _, _, -, -, -, -, rfl⟩ := h
  cases hl with
  | none => simp only [leaseRisks, hc.policy]
  | some hlease =>
    obtain ⟨description, rfl⟩ := hlease
    simp only [leaseRisks, hc.policy]

/-- The lease a transition names is there for both or for neither. -/
theorem leaseOf_respelled {l : Option LeaseRecord} (hl : leaseOf c t = .ok l) :
    ∃ l', leaseOf c' t' = .ok l' ∧ Option.Rel LeaseRecord.Respelled l l' := by
  obtain ⟨_, _, _, _, _, -, -, -, -, rfl⟩ := h
  unfold leaseOf at hl ⊢
  rw [← hc.policy]
  split at hl
  · cases hid : t.leaseId with
    | none =>
      rw [hid] at hl
      cases hl
      exact ⟨none, by rw [if_pos ‹_›], .none⟩
    | some id =>
      rw [hid] at hl
      simp only [bind_ok, getItem_ok] at hl
      obtain ⟨lease, hlease, he⟩ := hl
      cases he
      have hrel := hc.leases id
      rw [hlease] at hrel
      cases hfound : c'.leases id with
      | none =>
        rw [hfound] at hrel
        cases hrel
      | some lease' =>
        rw [hfound] at hrel
        refine ⟨some lease', ?_, hrel⟩
        rw [if_pos ‹_›]
        simp only [bind_ok, getItem_ok]
        exact ⟨lease', hfound, rfl⟩
  · cases hl
    exact ⟨none, by rw [if_neg ‹_›], .none⟩

theorem risksOf_respelled {risks : List TransitionRisk}
    (hr : risksOf rt c s t version hash = .ok risks) : risksOf rt c' s t' version hash = .ok risks := by
  have hmessage := messageRisks_respelled hc h
  have happroval := @approvalRisks_respelled rt c c' t t' version hash hc h
  have hobservation := observationRisks_respelled hc h
  have hidempotency := @idempotencyRisks_respelled rt c c' t t' s hc h
  have hwrite := @writeRisks_respelled rt c c' t t' s version hash hc h
  have hread := readRisks_respelled h
  have hleaseOf := @leaseOf_respelled rt c c' t t' hc h
  have hleaseRisks := @leaseRisks_respelled rt c c' t t' hc h
  obtain ⟨_, _, _, _, _, -, -, -, -, rfl⟩ := h
  unfold risksOf at hr ⊢
  simp only [bind_ok, getItem_ok, hmessage, happroval, hobservation, hidempotency, hwrite, hread] at hr ⊢
  obtain ⟨object, hobject, intents, hintents, controls, hcontrols, lease, hlease, he⟩ := hr
  obtain ⟨lease', hlease', hrel⟩ := hleaseOf hlease
  have hobjects := hc.objects t.objectId
  rw [hobject] at hobjects
  cases hfound : c'.objects t.objectId with
  | none =>
    rw [hfound] at hobjects
    cases hobjects
  | some object' =>
    rw [hfound] at hobjects
    cases hobjects with
    | some hsame =>
      obtain ⟨sha256, described, -, rfl⟩ := hsame
      refine ⟨_, rfl, intents, hc.policy ▸ hintents, controls, hc.policy ▸ hcontrols, lease', hlease', ?_⟩
      rw [hleaseRisks hrel]
      exact he

end

end

theorem remember_respelled (h : t.Respelled rt t') : remember rt s t' = remember rt s t := by
  have hfingerprint := fingerprint_respelled h
  obtain ⟨_, _, _, _, _, -, -, -, -, rfl⟩ := h
  simp only [remember, hfingerprint]

theorem apply_respelled (h : t.Respelled rt t') : apply rt s t' = apply rt s t := by
  obtain ⟨_, _, _, _, _, -, hproposed, -, -, rfl⟩ := h
  simp only [apply, hproposed.casefold]

theorem factOf_respelled (h : t.Respelled rt t') (preVersion : Int) (risks : List TransitionRisk) (applied : Int) :
    factOf t' preVersion risks applied = factOf t preVersion risks applied := by
  obtain ⟨_, _, _, _, _, -, -, -, -, rfl⟩ := h
  rfl

/-- A step comes to the same whatever the letters of digests. -/
theorem step_respelled (hc : c.Respelled rt c') (h : t.Respelled rt t') {r : StateTransitionFact × Progress}
    (hr : step rt c s t = .ok r) : step rt c' s t' = .ok r := by
  have hrisks := @risksOf_respelled rt c c' t t' s
  have hintent : t'.intent = t.intent ∧ t'.objectId = t.objectId ∧ t'.proposedVersion = t.proposedVersion := by
    obtain ⟨_, _, _, _, _, -, -, -, -, rfl⟩ := h
    exact ⟨rfl, rfl, rfl⟩
  unfold step at hr ⊢
  simp only [bind_ok, getItem_ok] at hr ⊢
  obtain ⟨version, hversion, hash, hhash, risks, hr, he⟩ := hr
  rw [hintent.2.1]
  refine ⟨version, hversion, hash, hhash, risks, hrisks hc h hr, ?_⟩
  rw [hintent.1, hintent.2.2, factOf_respelled h, factOf_respelled h, remember_respelled h, apply_respelled h]
  exact he

theorem steps_respelled (hc : c.Respelled rt c') (h : List.Forall₂ (StateTransition.Respelled rt) ts ts')
    {r : List StateTransitionFact × Progress} (hr : steps rt c s ts = .ok r) : steps rt c' s ts' = .ok r := by
  induction h generalizing s r with
  | nil => exact hr
  | cons ht _ ih =>
    unfold steps at hr ⊢
    simp only [bind_ok] at hr ⊢
    obtain ⟨⟨fact, s'⟩, hstep, ⟨facts, s''⟩, hrest, he⟩ := hr
    exact ⟨(fact, s'), step_respelled hc ht hstep, (facts, s''), ih hrest, he⟩

/-! ## Derivation -/

theorem contextOf_respelled (h : Respelled rt m m') (p8d p8f p8g : Json) :
    (contextOf rt p m p8d p8f p8g).Respelled rt (contextOf rt p m' p8d p8f p8g) := by
  constructor
  · rfl
  · rfl
  · rfl
  · rfl
  · refine fun k => find?_of_forall₂ (fun o o' ho => ?_) h.objects
    obtain ⟨_, _, -, rfl⟩ := ho
    rfl
  · refine fun k => find?_of_forall₂ (fun l l' hl => ?_) h.leases
    obtain ⟨_, rfl⟩ := hl
    rfl
  · refine forall₂_sortOn (fun t t' ht => ?_) h.transitions
    obtain ⟨_, _, _, _, _, -, -, -, -, rfl⟩ := ht
    rfl

theorem map_of_rel {α β κ : Type} {R : α → β → Prop} {f : α → κ} {g : β → κ} (hR : ∀ x y, R x y → f x = g y) {a : Option α} {b : Option β}
    (h : Option.Rel R a b) : b.map g = a.map f := by
  cases h with
  | none => rfl
  | some hxy => rw [Option.map_some, Option.map_some, hR _ _ hxy]

theorem initial_respelled (hc : c.Respelled rt c') : initial rt c' = initial rt c := by
  have hversions : ∀ id, (c'.objects id).map (·.version) = (c.objects id).map (·.version) := by
    refine fun id => map_of_rel (fun o o' ho => ?_) (hc.objects id)
    obtain ⟨_, _, -, rfl⟩ := ho
    rfl
  have hhashes : ∀ id, ((c'.objects id).map fun o => rt.casefold o.stateSha256) = (c.objects id).map fun o => rt.casefold o.stateSha256 := by
    refine fun id => map_of_rel (fun o o' ho => ?_) (hc.objects id)
    obtain ⟨_, _, hsame, rfl⟩ := ho
    exact hsame.casefold
  simp only [initial, hversions, hhashes]

theorem derive_respelled (h : Respelled rt m m') {p8d p8f p8g : Json}
    (hr : derive rt p m p8d p8f p8g now = .ok r) : derive rt p m' p8d p8f p8g now = .ok r := by
  have hc := @contextOf_respelled rt p m m' h p8d p8f p8g
  obtain ⟨facts, versions, hashes⟩ := r
  obtain ⟨hp, hu, hv, s, hs, hversions, hhashes⟩ := derive_ok.mp hr
  refine derive_ok.mpr ⟨hp, (validateUpstreams_respelled h p8d p8f p8g).trans hu, validateManifest_respelled h hv, s, ?_, hversions, hhashes⟩
  rw [initial_respelled hc]
  exact steps_respelled hc hc.ordered hs

/-- Where the texts of two manifests of one digest are of one spelling, what is derived for one is derived for the other. -/
theorem derive_of_digest (hfolds : Folds rt) (hsha : Function.Injective rt.sha256) (hdigest : m.digest rt = m'.digest rt)
    (hone : OneSpelling rt (m.texts ++ m'.texts)) {p8d p8f p8g : Json}
    (hr : derive rt p m p8d p8f p8g now = .ok r) : derive rt p m' p8d p8f p8g now = .ok r := by
  obtain ⟨m'', hpermutes, hrespelled⟩ := respelled_of_digest hfolds hsha hdigest hone
  obtain ⟨facts, versions, hashes⟩ := r
  have hback : Permutes m'' m' := by
    refine ⟨hpermutes.objects.symm, hpermutes.leases.symm, hpermutes.transitions.symm, ?_⟩
    rw [hpermutes.rest]
  exact derive_permuted hback (derive_respelled hrespelled hr)

end Aegis.Agentic.StateMachine
