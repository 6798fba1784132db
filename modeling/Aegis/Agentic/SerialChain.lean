/-
  Aegis.Agentic.SerialChain — the writes the state-machine analyzer allows form one serial chain
  per object.

  `step_allowed` says what a transition without risks satisfies; the rest is by induction on the
  transitions in order: each allowed write takes its object from the version and hash the last
  one left (`run_chain`), keys and observations are used once (`run_keys`,
  `observations_nodup`), a cancellation is followed by a rollback (`run_cancelled`). Nothing
  depends on the order of the manifest's tuples (`derive_permuted`).
-/

import Aegis.Agentic.StateMachine
import Mathlib.Data.List.Chain
import Mathlib.Data.List.Nodup

namespace Aegis.Agentic.StateMachine

open Data Evidence Checked

variable {rt : Runtime} {c : Context} {s s' : Progress} {t : StateTransition} {f : StateTransitionFact}

/-! ## One transition -/

/-- What a transition without risks satisfies. -/
structure Clean (rt : Runtime) (c : Context) (s : Progress) (t : StateTransition) (version : Int) (hash : String) : Prop where
  observation : ∀ o ∈ t.observationId, observationUseCount c.ordered o ≤ 1
  key : ∀ k ∈ t.idempotencyKey, s.idemSeen k = none
  expectedVersion : t.intent ≠ .read → t.expectedVersion = version
  expectedHash : t.intent ≠ .read → rt.casefold t.expectedStateSha256 = hash
  proposedVersion : t.intent ≠ .read → t.proposedVersion = t.expectedVersion + 1
  cancelled : t.intent ≠ .read → t.objectId ∈ s.cancelledObjects → t.intent = .rollback

theorem clean_of_risksOf {version : Int} {hash : String} (h : risksOf rt c s t version hash = .ok []) :
    Clean rt c s t version hash := by
  unfold risksOf at h
  simp only [bind_ok, getItem_ok] at h
  obtain ⟨object, -, intents, -, controls, -, lease, -, h⟩ := h
  simp only [pure, Except.pure, Except.ok.injEq, List.append_eq_nil_iff] at h
  obtain ⟨⟨⟨⟨⟨⟨⟨⟨-, -⟩, -⟩, -⟩, -⟩, hobs⟩, -⟩, hkey⟩, hrest⟩ := h
  have hwrite : t.intent ≠ .read → writeRisks rt c s version hash t = [] := by
    intro hi
    rwa [if_pos hi] at hrest
  refine ⟨?_, ?_, ?_, ?_, ?_, ?_⟩
  · unfold observationRisks at hobs
    have hdup := flag_eq_nil.mp (List.append_eq_nil_iff.mp hobs).2
    intro o ho
    by_contra hgt
    exact hdup ⟨o, ho, by omega⟩
  · intro k hk
    unfold idempotencyRisks at hkey
    rw [Option.mem_def.mp hk] at hkey
    dsimp only at hkey
    split at hkey
    · split at hkey <;> cases hkey
    · assumption
  all_goals
    intro hi
    have hw := hwrite hi
    simp only [writeRisks, List.append_eq_nil_iff, flag_eq_nil] at hw
  · exact not_not.mp hw.1.1.1.1.1.1.1
  · by_contra hne
    rw [if_pos hne] at hw
    cases hw.1.1.1.1.1.2
  · exact not_not.mp hw.1.1.1.1.2
  · intro hc
    by_contra hne
    exact hw.1.1.2 ⟨hc, hne⟩

/-- What one turn of the loop does. -/
inductive Turns (rt : Runtime) (c : Context) (s : Progress) (t : StateTransition) : StateTransitionFact → Progress → Prop
  | write (f : StateTransitionFact) (version : Int) (hash : String) : f.transitionId = t.transitionId →
      f.decision = .allow → t.intent ≠ .read → s.currentVersions t.objectId = some version →
      s.currentHashes t.objectId = some hash → Clean rt c s t version hash →
      Turns rt c s t f (apply rt (remember rt s t) t)
  | read (f : StateTransitionFact) (version : Int) (hash : String) : f.transitionId = t.transitionId →
      f.decision = .allow → t.intent = .read → Clean rt c s t version hash → Turns rt c s t f (remember rt s t)
  | deny (f : StateTransitionFact) : f.transitionId = t.transitionId → f.decision = .deny →
      Turns rt c s t f (remember rt s t)

theorem step_turns (h : step rt c s t = .ok (f, s')) : Turns rt c s t f s' := by
  unfold step at h
  simp only [bind_ok, getItem_ok] at h
  obtain ⟨version, hv, hash, hh, risks, hr, h⟩ := h
  split at h
  · rename_i hcond
    obtain ⟨rfl, hi⟩ := hcond
    cases h
    exact .write _ version hash rfl rfl hi hv hh (clean_of_risksOf hr)
  · rename_i hcond
    cases h
    by_cases hnil : risks = []
    · subst hnil
      have hi : t.intent = .read := by
        by_contra hi
        exact hcond ⟨rfl, hi⟩
      exact .read _ version hash rfl rfl hi (clean_of_risksOf hr)
    · refine .deny _ rfl ?_
      simp only [factOf, if_neg hnil]

/-! ## A run over the transitions in order -/

/-- The allowed ones among the transitions that `facts` are about. -/
def allowedOf (ordered : List StateTransition) (facts : List StateTransitionFact) : List StateTransition :=
  ((ordered.zip facts).filter fun x => x.2.decision = .allow).map (·.1)

/-- The allowed writes on an object. -/
def writesOf (objectId : String) (ordered : List StateTransition) (facts : List StateTransitionFact) : List StateTransition :=
  (allowedOf ordered facts).filter fun t => t.objectId = objectId ∧ t.intent ≠ .read

variable {ts : List StateTransition} {facts fs : List StateTransitionFact} {m m' : AgentStateTransitionManifest}
  {p : AgentStateTransitionPolicy} {now : Int} {hashes : Dict String} {versions : Dict Int} {o k : String}

theorem allowedOf_cons :
    allowedOf (t :: ts) (f :: fs) = if f.decision = .allow then t :: allowedOf ts fs else allowedOf ts fs := by
  unfold allowedOf
  simp only [List.zip_cons_cons, List.filter_cons, decide_eq_true_eq]
  split <;> rfl

theorem allowedOf_sublist (ts : List StateTransition) (fs : List StateTransitionFact) : (allowedOf ts fs).Sublist ts := by
  induction ts generalizing fs with
  | nil => exact List.Sublist.refl _
  | cons t ts ih =>
    cases fs with
    | nil => exact List.nil_sublist _
    | cons f fs =>
      rw [allowedOf_cons]
      split
      · exact (ih fs).cons_cons t
      · exact (ih fs).cons t

/-- A run, turn by turn. -/
theorem steps_cons (h : steps rt c s (t :: ts) = .ok (facts, s')) :
    ∃ f s1 fs, Turns rt c s t f s1 ∧ steps rt c s1 ts = .ok (fs, s') ∧ facts = f :: fs := by
  unfold steps at h
  simp only [bind_ok] at h
  obtain ⟨⟨f, s1⟩, h1, ⟨fs, s2⟩, h2, h3⟩ := h
  cases h3
  exact ⟨f, s1, fs, step_turns h1, h2, rfl⟩

theorem steps_ids (h : steps rt c s ts = .ok (facts, s')) : facts.map (·.transitionId) = ts.map (·.transitionId) := by
  induction ts generalizing s facts with
  | nil =>
    cases h
    rfl
  | cons t ts ih =>
    obtain ⟨f, s1, fs, hturn, hrest, rfl⟩ := steps_cons h
    have hid : f.transitionId = t.transitionId := by
      cases hturn <;> assumption
    simp only [List.map_cons, hid, ih hrest]

/-! ### Versions and hashes -/

/-- From a version and a hash on, each transition expects what the one before it proposed. -/
def Chain (rt : Runtime) (version : Int) (hash : String) : List StateTransition → Int → String → Prop
  | [], version', hash' => version' = version ∧ hash' = hash
  | t :: ts, version', hash' => t.expectedVersion = version ∧ rt.casefold t.expectedStateSha256 = hash ∧
      t.proposedVersion = version + 1 ∧ Chain rt t.proposedVersion (rt.casefold t.proposedStateSha256) ts version' hash'

theorem Chain.length {version version' : Int} {hash hash' : String}
    (h : Chain rt version hash ts version' hash') : version' = version + ts.length := by
  induction ts generalizing version hash with
  | nil =>
    rw [h.1]
    simp
  | cons t ts ih =>
    obtain ⟨-, -, hp, hrest⟩ := h
    rw [ih hrest, hp, List.length_cons]
    push_cast
    omega

@[simp] theorem remember_versions (s : Progress) (t : StateTransition) :
    (remember rt s t).currentVersions = s.currentVersions := by
  unfold remember
  split
  · split <;> rfl
  · rfl

@[simp] theorem remember_hashes (s : Progress) (t : StateTransition) : (remember rt s t).currentHashes = s.currentHashes := by
  unfold remember
  split
  · split <;> rfl
  · rfl

@[simp] theorem remember_cancelled (s : Progress) (t : StateTransition) :
    (remember rt s t).cancelledObjects = s.cancelledObjects := by
  unfold remember
  split
  · split <;> rfl
  · rfl

theorem writesOf_cons : writesOf o (t :: ts) (f :: fs) =
      if f.decision = .allow ∧ t.objectId = o ∧ t.intent ≠ .read then t :: writesOf o ts fs else writesOf o ts fs := by
  unfold writesOf
  rw [allowedOf_cons]
  by_cases hd : f.decision = .allow
  · simp only [hd, if_true, true_and, List.filter_cons, decide_eq_true_eq]
  · simp only [hd, if_false, false_and]

theorem run_chain (h : steps rt c s ts = .ok (facts, s')) {v : Int} {d : String} (hv : s.currentVersions o = some v)
    (hh : s.currentHashes o = some d) :
    ∃ version' hash', s'.currentVersions o = some version' ∧ s'.currentHashes o = some hash' ∧
      Chain rt v d (writesOf o ts facts) version' hash' := by
  induction ts generalizing s facts v d with
  | nil =>
    cases h
    exact ⟨v, d, hv, hh, rfl, rfl⟩
  | cons t ts ih =>
    obtain ⟨f, s1, fs, hturn, hrest, rfl⟩ := steps_cons h
    rw [writesOf_cons]
    cases hturn with
    | write v0 h0 _ hd hi hv0 hh0 hclean =>
      by_cases ho : t.objectId = o
      · subst ho
        rw [hv0, Option.some.injEq] at hv
        rw [hh0, Option.some.injEq] at hh
        subst hv hh
        obtain ⟨v', h', hv', hh', hchain⟩ := ih hrest (v := t.proposedVersion)
          (d := rt.casefold t.proposedStateSha256) (Dict.set_self _ _ _) (Dict.set_self _ _ _)
        rw [if_pos ⟨hd, rfl, hi⟩]
        refine ⟨v', h', hv', hh', hclean.expectedVersion hi, hclean.expectedHash hi, ?_, hchain⟩
        rw [hclean.proposedVersion hi, hclean.expectedVersion hi]
      · rw [if_neg fun hx => ho hx.2.1]
        refine ih hrest ?_ ?_
        · simp only [apply, Dict.set_ne (Ne.symm ho), remember_versions, hv]
        · simp only [apply, Dict.set_ne (Ne.symm ho), remember_hashes, hh]
    | read v0 h0 _ _ hi _ =>
      rw [if_neg fun hx => hx.2.2 hi]
      exact ih hrest (by simpa using hv) (by simpa using hh)
    | deny _ hd =>
      rw [if_neg fun hx => by rw [hd] at hx; cases hx.1]
      exact ih hrest (by simpa using hv) (by simpa using hh)

/-! ### Keys and observations -/

theorem remember_keeps (h : (remember rt s t).idemSeen k = none) : s.idemSeen k = none := by
  unfold remember at h
  split at h
  · split at h
    · exact h
    · rename_i k0 hk0 hnone
      by_cases hk : k = k0
      · rw [hk]
        simpa using hnone
      · simpa only [Dict.set_ne hk] using h
  · exact h

theorem remember_key (hk : t.idempotencyKey = some k) : (remember rt s t).idemSeen k ≠ none := by
  unfold remember
  rw [hk]
  dsimp only
  split
  · rename_i h
    intro hn
    rw [hn] at h
    cases h
  · simp

/-- No two allowed transitions have a key in common, and none has one seen before. -/
theorem run_keys (h : steps rt c s ts = .ok (facts, s')) : ((allowedOf ts facts).filterMap (·.idempotencyKey)).Nodup ∧
      ∀ k ∈ (allowedOf ts facts).filterMap (·.idempotencyKey), s.idemSeen k = none := by
  induction ts generalizing s facts with
  | nil =>
    cases h
    simp [allowedOf]
  | cons t ts ih =>
    obtain ⟨f, s1, fs, hturn, hrest, rfl⟩ := steps_cons h
    obtain ⟨hn, hfree⟩ := ih hrest
    have hseen : ∀ k, s1.idemSeen k = none → (remember rt s t).idemSeen k = none := by
      cases hturn <;> exact fun k hk => hk
    rw [allowedOf_cons]
    by_cases hd : f.decision = .allow
    · have hkey : ∀ k ∈ t.idempotencyKey, s.idemSeen k = none := by
        cases hturn with
        | write _ _ _ _ _ _ _ hclean => exact hclean.key
        | read _ _ _ _ _ hclean => exact hclean.key
        | deny _ hdeny =>
          rw [hdeny] at hd
          cases hd
      rw [if_pos hd, List.filterMap_cons]
      split
      · exact ⟨hn, fun k hk => remember_keeps (hseen k (hfree k hk))⟩
      · rename_i k hk
        refine ⟨List.nodup_cons.mpr ⟨fun hmem => remember_key hk (hseen k (hfree k hmem)), hn⟩, fun k' hk' => ?_⟩
        rcases List.mem_cons.mp hk' with rfl | hk'
        · exact hkey _ hk
        · exact remember_keeps (hseen k' (hfree k' hk'))
    · rw [if_neg hd]
      exact ⟨hn, fun k hk => remember_keeps (hseen k (hfree k hk))⟩

theorem run_observed (h : steps rt c s ts = .ok (facts, s')) :
    ∀ t ∈ allowedOf ts facts, ∀ o ∈ t.observationId, observationUseCount c.ordered o ≤ 1 := by
  induction ts generalizing s facts with
  | nil =>
    cases h
    simp [allowedOf]
  | cons t ts ih =>
    obtain ⟨f, s1, fs, hturn, hrest, rfl⟩ := steps_cons h
    rw [allowedOf_cons]
    split
    · rename_i hd
      intro t' ht'
      rcases List.mem_cons.mp ht' with rfl | ht'
      · cases hturn with
        | write _ _ _ _ _ _ _ hclean => exact hclean.observation
        | read _ _ _ _ _ hclean => exact hclean.observation
        | deny _ hdeny =>
          rw [hdeny] at hd
          cases hd
      · exact ih hrest t' ht'
    · exact ih hrest

/-- What is counted at most once in a list occurs at most once in any part of it. -/
theorem nodup_filterMap {α β : Type} [DecidableEq β] {g : α → Option β} {xs ys : List α} (hs : xs.Sublist ys)
    (h : ∀ x ∈ xs, ∀ b ∈ g x, (ys.filter fun y => g y = some b).length ≤ 1) : (xs.filterMap g).Nodup := by
  rw [List.nodup_iff_count_le_one]
  intro b
  by_cases hb : b ∈ xs.filterMap g
  · obtain ⟨x, hx, hgx⟩ := List.mem_filterMap.mp hb
    rw [List.count_filterMap]
    refine Nat.le_trans ?_ (h x hx b hgx)
    rw [← List.countP_eq_length_filter]
    refine Nat.le_trans (hs.countP_le) (Nat.le_of_eq ?_)
    refine List.countP_congr fun y _ => ?_
    simp
  · rw [List.count_eq_zero_of_not_mem hb]
    omega

/-! ### Cancellations -/

theorem run_cancelled (h : steps rt c s ts = .ok (facts, s')) (o : String) :
    (o ∈ s.cancelledObjects → ∀ w ∈ (writesOf o ts facts).head?, w.intent = .rollback) ∧
      (writesOf o ts facts).IsChain fun a b => a.intent = .cancel → b.intent = .rollback := by
  induction ts generalizing s facts with
  | nil =>
    cases h
    simp [writesOf, allowedOf]
  | cons t ts ih =>
    obtain ⟨f, s1, fs, hturn, hrest, rfl⟩ := steps_cons h
    obtain ⟨hhead, hchain⟩ := ih hrest
    rw [writesOf_cons]
    cases hturn with
    | write v0 h0 _ hd hi _ _ hclean =>
      by_cases ho : t.objectId = o
      · subst ho
        rw [if_pos ⟨hd, rfl, hi⟩]
        refine ⟨fun hc w hw => ?_, List.isChain_cons.mpr ⟨fun b hb ha => hhead ?_ b hb, hchain⟩⟩
        · rw [List.head?_cons, Option.mem_some_iff] at hw
          exact hw ▸ hclean.cancelled hi hc
        · simp [apply, ha]
      · rw [if_neg fun hx => ho hx.2.1]
        refine ⟨fun hc => hhead ?_, hchain⟩
        simp only [apply, remember_cancelled]
        split
        · exact List.mem_cons_of_mem _ hc
        · split
          · exact List.mem_filter.mpr ⟨hc, by simpa using Ne.symm ho⟩
          · exact hc
    | read v0 h0 _ _ hi _ =>
      rw [if_neg fun hx => hx.2.2 hi]
      exact ⟨fun hc => hhead (by simpa using hc), hchain⟩
    | deny _ hd =>
      rw [if_neg fun hx => by rw [hd] at hx; cases hx.1]
      exact ⟨fun hc => hhead (by simpa using hc), hchain⟩

/-! ## The order of the manifest's tuples -/

/-- The manifests differ in the order of their tuples only. -/
structure Permutes (m m' : AgentStateTransitionManifest) : Prop where
  objects : m.objects.Perm m'.objects
  leases : m.leases.Perm m'.leases
  transitions : m.transitions.Perm m'.transitions
  rest : m' = { m with objects := m'.objects, leases := m'.leases, transitions := m'.transitions }

theorem unique_ok {α : Type} {id : α → String} {items : List α} {u : Unit} : unique id items = .ok u ↔ (items.map id).Nodup := by
  unfold unique
  rw [keysFrom_ok (P := fun _ => True) fun seen key => by simp]
  simp

theorem StateObjectType.value_injective : Function.Injective StateObjectType.value := by
  intro a b h
  cases a <;> cases b <;> simp_all [StateObjectType.value]

theorem TransitionIntent.value_injective : Function.Injective TransitionIntent.value := by
  intro a b h
  cases a <;> cases b <;> simp_all [TransitionIntent.value]

theorem ConcurrencyControl.value_injective : Function.Injective ConcurrencyControl.value := by
  intro a b h
  cases a <;> cases b <;> simp_all [ConcurrencyControl.value]

theorem StateObject.toDict_injective : Function.Injective StateObject.toDict := by
  rintro ⟨i, ty, te, v, h, ow, d⟩ ⟨i', ty', te', v', h', ow', d'⟩ he
  simp only [toDict, Json.obj_cons, Json.obj_nil, Json.field.injEq, Json.str.injEq, Json.int.injEq, true_and, and_true,
    StateObjectType.value_injective.eq_iff] at he
  simp only [StateObject.mk.injEq]
  exact he

theorem LeaseRecord.toDict_injective : Function.Injective LeaseRecord.toDict := by
  rintro ⟨i, ob, ow, is, ex, o, d⟩ ⟨i', ob', ow', is', ex', o', d'⟩ he
  simp only [toDict, Json.obj_cons, Json.obj_nil, Json.field.injEq, Json.str.injEq, Json.int.injEq, true_and, and_true] at he
  simp only [LeaseRecord.mk.injEq]
  exact he

theorem optInt_injective : Function.Injective (Json.opt Json.int) :=
  Json.opt_injective (fun _ _ h => Json.int.inj h) fun _ => nofun

theorem StateTransition.toDict_injective : Function.Injective StateTransition.toDict := by
  intro a b he
  cases a
  cases b
  simp only [toDict, Json.obj_cons, Json.obj_nil, Json.field.injEq, Json.str.injEq, Json.int.injEq, Json.bool.injEq,
    true_and, and_true, TransitionIntent.value_injective.eq_iff, ConcurrencyControl.value_injective.eq_iff,
    optText_injective.eq_iff, optInt_injective.eq_iff] at he
  simp only [StateTransition.mk.injEq]
  exact he

theorem digest_permuted (h : Permutes m m') : m'.digest rt = m.digest rt := by
  unfold AgentStateTransitionManifest.digest AgentStateTransitionManifest.canonical
  rw [h.rest]
  dsimp only
  rw [Canonical.normItems_perm rt h.objects fun _ _ _ _ he => StateObject.toDict_injective he,
    Canonical.normItems_perm rt h.leases fun _ _ _ _ he => LeaseRecord.toDict_injective he,
    Canonical.normItems_perm rt h.transitions fun _ _ _ _ he => StateTransition.toDict_injective he]

theorem validateManifest_permuted
    (h : Permutes m m') (hv : validateManifest rt p m now = .ok ()) : validateManifest rt p m' now = .ok () := by
  have hob : ∀ o, o ∈ m'.objects.map (·.objectId) ↔ o ∈ m.objects.map (·.objectId) := fun o =>
    (h.objects.map _).mem_iff.symm
  have hle : ∀ l, l ∈ m'.leases.map (·.leaseId) ↔ l ∈ m.leases.map (·.leaseId) := fun l => (h.leases.map _).mem_iff.symm
  have htr : ∀ t, t ∈ m'.transitions.map (·.transitionId) ↔ t ∈ m.transitions.map (·.transitionId) := fun t =>
    (h.transitions.map _).mem_iff.symm
  have hlease : ∀ l, validateLease p m' l = validateLease p m l := by
    intro l
    unfold validateLease
    simp only [hob]
  have htransition : ∀ t, validateTransition rt p m' t = validateTransition rt p m t := by
    intro t
    unfold validateTransition
    simp only [hob, hle]
  obtain ⟨hschema, hgraph, hversion, hcreated⟩ : m'.schemaVersion = m.schemaVersion ∧ m'.graphId = m.graphId ∧
      m'.version = m.version ∧ m'.createdAtEpoch = m.createdAtEpoch := by
    rw [h.rest]
    exact ⟨rfl, rfl, rfl, rfl⟩
  unfold validateManifest at hv ⊢
  simp only [bind_ok, rejectIf_ok, unique_ok, forEach_ok, exists_const] at hv ⊢
  simp only [sameSet, digest_permuted h, hlease, htransition, hob, hle, htr, ← h.objects.mem_iff, ← h.leases.mem_iff,
    ← h.transitions.mem_iff, ← (h.objects.map _).nodup_iff, ← (h.leases.map _).nodup_iff,
    ← (h.transitions.map _).nodup_iff, hschema, hgraph, hversion, hcreated] at hv ⊢
  exact hv

/-- An accepted manifest names each of its items once. -/
theorem validateManifest_nodup (hv : validateManifest rt p m now = .ok ()) :
    (m.objects.map (·.objectId)).Nodup ∧ (m.leases.map (·.leaseId)).Nodup ∧ (m.transitions.map (·.transitionId)).Nodup := by
  unfold validateManifest at hv
  simp only [bind_ok, rejectIf_ok, unique_ok, exists_const] at hv
  obtain ⟨-, -, -, hob, hle, htr, -⟩ := hv
  exact ⟨hob, hle, htr⟩

theorem inOrder_permuted {ts ts' : List StateTransition} (h : ts.Perm ts') (hn : (ts.map (·.transitionId)).Nodup) :
    inOrder ts = inOrder ts' := by
  refine sortOn_perm h fun a ha b hb hk => ?_
  have hid : a.transitionId = b.transitionId := congrArg (fun k => (ofLex (ofLex k).2).2) hk
  exact List.inj_on_of_nodup_map hn ha hb hid

theorem contextOf_permuted {p8d p8f p8g : Json} (h : Permutes m m') (hv : validateManifest rt p m now = .ok ()) :
    contextOf rt p m' p8d p8f p8g = contextOf rt p m p8d p8f p8g := by
  obtain ⟨hob, hle, htr⟩ := validateManifest_nodup hv
  have hobjects : Dict.ofItems StateObject.objectId m'.objects = Dict.ofItems StateObject.objectId m.objects :=
    funext fun k => (find?_perm h.objects hob k).symm
  have hleases : Dict.ofItems LeaseRecord.leaseId m'.leases = Dict.ofItems LeaseRecord.leaseId m.leases :=
    funext fun k => (find?_perm h.leases hle k).symm
  unfold contextOf
  rw [hobjects, hleases, ← inOrder_permuted h.transitions htr]

/-- What an accepted manifest has gone through. -/
theorem derive_ok {p8d p8f p8g : Json} : derive rt p m p8d p8f p8g now = .ok (facts, versions, hashes) ↔
      validatePolicy rt p = .ok () ∧ validateUpstreams rt p m p8d p8f p8g = .ok () ∧ validateManifest rt p m now = .ok () ∧
        ∃ s, steps rt (contextOf rt p m p8d p8f p8g) (initial rt (contextOf rt p m p8d p8f p8g)) (inOrder m.transitions) =
          .ok (facts, s) ∧ versions = s.currentVersions ∧ hashes = s.currentHashes := by
  unfold derive
  simp only [bind_ok, Prod.exists]
  constructor
  · rintro ⟨⟨⟩, hp, ⟨⟩, hu, ⟨⟩, hm, fs, s, hs, he⟩
    cases he
    exact ⟨hp, hu, hm, s, hs, rfl, rfl⟩
  · rintro ⟨hp, hu, hm, s, hs, rfl, rfl⟩
    exact ⟨(), hp, (), hu, (), hm, facts, s, hs, rfl⟩

theorem derive_permuted {p8d p8f p8g : Json} (h : Permutes m m')
    (hd : derive rt p m p8d p8f p8g now = .ok (facts, versions, hashes)) :
    derive rt p m' p8d p8f p8g now = .ok (facts, versions, hashes) := by
  obtain ⟨hp, hu, hm, s, hs, hv, hh⟩ := derive_ok.mp hd
  refine derive_ok.mpr ⟨hp, ?_, validateManifest_permuted h hm, s, ?_, hv, hh⟩
  · rw [h.rest]
    exact hu
  · rw [contextOf_permuted h hm, ← inOrder_permuted h.transitions (validateManifest_nodup hm).2.2]
    exact hs

/-! ## One serial chain per object -/

/-- In an accepted run the allowed writes of each object form one chain from its manifest version
and hash to the returned ones, allowed transitions share neither keys nor observations, what follows
a cancellation is a rollback, and the order of the manifest's tuples does not matter. -/
theorem serial_chain (p : AgentStateTransitionPolicy) (m : AgentStateTransitionManifest) (p8d p8f p8g : Json) (now : Int)
    (facts : List StateTransitionFact) (versions : Dict Int) (hashes : Dict String)
    (h : derive rt p m p8d p8f p8g now = .ok (facts, versions, hashes)) :
    facts.map (·.transitionId) = (inOrder m.transitions).map (·.transitionId) ∧
      (∀ o ∈ m.objects, ∃ version hash, versions o.objectId = some version ∧ hashes o.objectId = some hash ∧
        Chain rt o.version (rt.casefold o.stateSha256) (writesOf o.objectId (inOrder m.transitions) facts) version hash ∧
        version = o.version + (writesOf o.objectId (inOrder m.transitions) facts).length) ∧
      ((allowedOf (inOrder m.transitions) facts).filterMap (·.idempotencyKey)).Nodup ∧
      ((allowedOf (inOrder m.transitions) facts).filterMap (·.observationId)).Nodup ∧
      (∀ o, (writesOf o (inOrder m.transitions) facts).IsChain fun a b => a.intent = .cancel → b.intent = .rollback) ∧
      ∀ m', Permutes m m' → derive rt p m' p8d p8f p8g now = .ok (facts, versions, hashes) := by
  obtain ⟨-, -, hm, s, hs, rfl, rfl⟩ := derive_ok.mp h
  have hnodup := (validateManifest_nodup hm).1
  refine ⟨steps_ids hs, fun o ho => ?_, (run_keys hs).1, ?_, fun o => (run_cancelled hs o).2, fun m' hm' => derive_permuted hm' h⟩
  · have hfind : Dict.ofItems StateObject.objectId m.objects o.objectId = some o := Dict.ofItems_self hnodup ho
    obtain ⟨version, hash, hv, hh, hchain⟩ := run_chain hs (o := o.objectId) (v := o.version)
      (d := rt.casefold o.stateSha256) (by simp only [initial, contextOf, hfind, Option.map_some])
      (by simp only [initial, contextOf, hfind, Option.map_some])
    exact ⟨version, hash, hv, hh, hchain, hchain.length⟩
  · refine nodup_filterMap (allowedOf_sublist _ _) fun t ht b hb => ?_
    exact run_observed hs t ht b hb

namespace Sample

def digest : String := "ec1e90c7a54a049a621689e32095da7be3d3abdc02f24909a2880a0c10586a29"

def runtime : Runtime := .folded digest rfl

def job : StateObject := ⟨"job", .task, "acme", 3, hex 'a', "ops", ""⟩

def transition (id : String) (intent : TransitionIntent) (version : Int) (state next : Char) (key : Option String)
    (epoch : Int) : StateTransition where
  transitionId := id
  objectId := "job"
  messageId := "ask"
  approvalActionId := none
  observationId := none
  actorAgentId := "planner"
  originalPrincipalId := "alice"
  tenantId := "acme"
  intent := intent
  concurrencyControl := .expectedVersion
  expectedVersion := version
  expectedStateSha256 := hex state
  proposedVersion := version + 1
  proposedStateSha256 := hex next
  idempotencyKey := key
  leaseId := none
  approvalBoundVersion := none
  approvalBoundStateSha256 := none
  payloadSha256 := hex '9'
  irreversible := false
  issuedAtEpoch := epoch
  commitAtEpoch := epoch
  ownerId := "ops"
  description := ""

/-- A change, a cancellation and a rollback. -/
def manifest : AgentStateTransitionManifest where
  graphId := "g"
  version := "1"
  p8dAssessmentEvidenceSha256 := hex 'd'
  p8fAssessmentEvidenceSha256 := hex 'f'
  p8gAssessmentEvidenceSha256 := hex 'e'
  createdAtEpoch := 100
  objects := [job]
  leases := []
  transitions := [transition "t3" .rollback 5 'c' 'a' none 30, transition "t1" .mutate 3 'a' 'b' (some "k1") 10,
    transition "t2" .cancel 4 'b' 'c' none 20]
  schemaVersion := stateSchemaVersion

def policy : AgentStateTransitionPolicy where
  expectedGraphId := "g"
  expectedGraphVersion := "1"
  expectedGraphSha256 := digest
  expectedP8dAssessmentEvidenceSha256 := hex 'd'
  expectedP8fAssessmentEvidenceSha256 := hex 'f'
  expectedP8gAssessmentEvidenceSha256 := hex 'e'
  requiredObjectIds := ["job"]
  requiredLeaseIds := []
  requiredTransitionIds := ["t1", "t2", "t3"]
  trustedOwnerIds := ["ops"]
  expectedObjectProfiles := [("job", job.profile runtime)]
  allowedIntentsByObject := [("job", [.mutate, .cancel, .rollback])]
  allowedControlsByObject := [("job", [.expectedVersion])]
  approvalRequiredObjectIds := []
  observationRequiredObjectIds := []
  leaseRequiredObjectIds := []
  irreversibleObjectIds := []
  maxManifestAgeSeconds := 600
  maxFutureSkewSeconds := 60

def upstream (pin : Char) (verifiedFlag callerFlag : String) : Json :=
  .obj [("assessment_evidence_sha256", .str (hex pin)), (verifiedFlag, .bool true), (callerFlag, .bool false),
    ("messages", .arr [.obj [("message_id", .str "ask"), ("decision", .str "allow")]])]

def observations : Json :=
  upstream 'd' "exact_tool_observation_graph_binding_verified" "caller_declared_tool_observation_safety_trusted"

def approvals : Json := upstream 'f' "exact_human_approval_graph_binding_verified" "caller_declared_approval_safety_trusted"

def messages : Json := upstream 'e' "exact_agent_message_graph_binding_verified" "caller_declared_message_safety_trusted"

def derived : Check (List StateTransitionFact × Dict Int × Dict String) :=
  derive runtime policy manifest observations approvals messages 200

end Sample

open Sample in
/-- Three allowed writes take the job from version 3 to version 6. -/
theorem serial_chain_rolled_back : ∃ facts versions hashes, derived = .ok (facts, versions, hashes) ∧
    (writesOf "job" (inOrder manifest.transitions) facts).map (·.transitionId) = ["t1", "t2", "t3"] ∧
    versions "job" = some 6 := by
  have hok : (derived.toOption.map fun r =>
      ((writesOf "job" (inOrder manifest.transitions) r.1).map (·.transitionId))) = some ["t1", "t2", "t3"] := by
    decide +kernel
  cases hd : derived with
  | error e =>
    rw [hd] at hok
    cases hok
  | ok r =>
    obtain ⟨facts, versions, hashes⟩ := r
    rw [hd] at hok
    have hwrites : (writesOf "job" (inOrder manifest.transitions) facts).map (·.transitionId) = ["t1", "t2", "t3"] :=
      Option.some.inj hok
    obtain ⟨-, hobjects, -⟩ := serial_chain policy manifest observations approvals messages 200 facts versions hashes hd
    obtain ⟨version, hash, hv, -, -, hcount⟩ := hobjects job List.mem_cons_self
    have hlength : (writesOf "job" (inOrder manifest.transitions) facts).length = 3 := by
      simpa using congrArg List.length hwrites
    refine ⟨facts, versions, hashes, rfl, hwrites, hv.trans ?_⟩
    rw [hcount, show job.objectId = "job" from rfl, hlength]
    rfl

end Aegis.Agentic.StateMachine
