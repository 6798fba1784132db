/-
  Aegis.Agentic.Attenuation — delegation never amplifies authority.

  `Bounded` is what an allowed delegation keeps to on its own, `Inherits` what it keeps to of
  another. `evaluate_record` compares with the parent alone; that an allowed delegation inherits
  from all above it is an induction (`Sound.above`). A denied parent has no capabilities in
  effect, so its children are found to launder theirs (`parent_allowed`). A cycle is found by the
  explicit check or, when that has given up, by the stack of the evaluation, which ends when the
  interpreter allows a call for each delegation and one more (`evaluateRecord_shallow`).
-/

import Aegis.Agentic.Delegation

namespace Aegis.Agentic.Delegation

open Data Evidence Checked Ascent

variable {rt : Runtime} {c : Context} {p : AgentDelegationPolicy} {m : AgentDelegationManifest} {up : Upstreams}
  {a d record : DelegationRecord} {memo memo' : Memo} {f : DelegationSecurityFact} {limit : Nat} {id : String}
  {stack : List String}

/-! ## Authority -/

/-- The level of the original principal for a family. -/
def principalLevel (p : AgentDelegationPolicy) (principal family : String) : Option Int :=
  (Dict.mapping p.originalPrincipalMaxLevelByFamily principal).bind fun levels => Dict.mapping levels family

/-- The agent allows the depth and may have every requested capability. -/
def Accommodates (agent : AgentIdentity) (d : DelegationRecord) (depth : Nat) : Prop :=
  (depth : Int) ≤ agent.maxDelegationDepth ∧ ∀ id ∈ d.requestedCapabilityIds, id ∈ agent.maximumCapabilityIds

/-- What an allowed delegation keeps to on its own. -/
structure Bounded (p : AgentDelegationPolicy) (m : AgentDelegationManifest) (d : DelegationRecord) (depth : Nat) : Prop where
  chain : (depth : Int) ≤ p.maxChainDepth
  delegator : ∃ agent, m.agent d.delegatorAgentId = some agent ∧ Accommodates agent d depth
  delegatee : ∃ agent, m.agent d.delegateeAgentId = some agent ∧ Accommodates agent d depth
  principal : ∀ id ∈ d.requestedCapabilityIds, ∃ cap, m.capability id = some cap ∧
    ∃ level, principalLevel p d.originalPrincipalId cap.family = some level ∧ cap.privilegeLevel ≤ level

/-- What `d` keeps to of `a`. -/
structure Inherits (rt : Runtime) (m : AgentDelegationManifest) (a d : DelegationRecord) : Prop where
  principal : d.originalPrincipalId = a.originalPrincipalId
  tenant : d.tenantId = a.tenantId
  request : rt.casefold d.originalRequestSha256 = rt.casefold a.originalRequestSha256
  issued : a.issuedAtEpoch ≤ d.issuedAtEpoch
  expires : d.expiresAtEpoch ≤ a.expiresAtEpoch
  level : ∀ id ∈ d.requestedCapabilityIds, ∃ cap, m.capability id = some cap ∧ ∃ id' ∈ a.requestedCapabilityIds,
    ∃ cap', m.capability id' = some cap' ∧ cap'.family = cap.family ∧ cap.privilegeLevel ≤ cap'.privilegeLevel

theorem Inherits.trans {b : DelegationRecord} (h : Inherits rt m a b) (h' : Inherits rt m b d) : Inherits rt m a d := by
  refine ⟨h'.principal.trans h.principal, h'.tenant.trans h.tenant, h'.request.trans h.request,
    le_trans h.issued h'.issued, le_trans h'.expires h.expires, fun id hid => ?_⟩
  obtain ⟨cap, hcap, id', hid', cap', hcap', hfamily, hle⟩ := h'.level id hid
  obtain ⟨cap2, hcap2, id'', hid'', cap'', hcap'', hfamily', hle'⟩ := h.level id' hid'
  rw [hcap', Option.some.injEq] at hcap2
  subst hcap2
  exact ⟨cap, hcap, id'', hid'', cap'', hcap'', hfamily'.trans hfamily, le_trans hle hle'⟩

/-! ## An accepted manifest -/

/-- What `validateManifest` has found. -/
structure Valid (m : AgentDelegationManifest) : Prop where
  delegations : (m.delegations.map (·.delegationId)).Nodup
  levels : ∀ cap ∈ m.capabilities, 0 < cap.privilegeLevel
  requested : ∀ d ∈ m.delegations, d.requestedCapabilityIds ≠ [] ∧
    ∀ id ∈ d.requestedCapabilityIds, ∃ cap, m.capability id = some cap

theorem unique_ok {α : Type} {key : α → String} {reason : DelegationRejectReason} {message : String} {items : List α}
    {u : Unit} : unique key reason message items = .ok u ↔ (items.map key).Nodup ∧ ∀ x ∈ items, key x ≠ "" := by
  unfold unique
  rw [keysFrom_ok (P := fun k => k ≠ "") fun seen k => by simp [and_comm]]
  simp

theorem valid_of_validateManifest {request : AgentDelegationRequest} (h : validateManifest rt p request m up = .ok ()) :
    Valid m := by
  unfold validateManifest at h
  simp only [bind_ok, rejectIf_ok, unique_ok, forEach_ok] at h
  obtain ⟨-, -, -, -, -, -, -, -, -, -, -, -, -, -, -, -, -, ⟨hcaps, -⟩, -, -, -, hcap, -, -, -, ⟨hnodup, -⟩, -, -, -, hdel,
    -⟩ := h
  refine ⟨hnodup, fun cap hc => ?_, fun d hd => ?_⟩
  · have hv := hcap cap hc
    simp only [validateCapability, bind_ok, rejectIf_ok, not_or, not_le] at hv
    obtain ⟨-, -, -, ⟨-, hpos⟩, -⟩ := hv
    exact hpos
  · have hv := hdel d hd
    simp only [validateDelegation, bind_ok, rejectIf_ok, not_or] at hv
    obtain ⟨-, -, -, -, -, -, -, ⟨hne, -, hknown⟩, -⟩ := hv
    refine ⟨hne, fun id hid => ?_⟩
    have hmem : id ∈ m.capabilities.map (·.capabilityId) := by
      by_contra hn
      exact hknown ⟨id, hid, hn⟩
    obtain ⟨cap, hc, rfl⟩ := List.mem_map.mp hmem
    exact ⟨cap, Dict.ofItems_self hcaps hc⟩

/-! ## One delegation -/

theorem sorted_eq_nil {risks : List DelegationRisk} : DelegationRisk.sorted risks = [] ↔ risks = [] :=
  filter_mem_eq_nil fun r => by cases r <;> decide

theorem le_foldl_max {x s : Int} {xs : List Int} (h : x ≤ xs.foldl max s) : x ≤ s ∨ ∃ y ∈ xs, x ≤ y := by
  induction xs generalizing s with
  | nil => exact .inl h
  | cons y xs ih =>
    rcases ih h with h | ⟨z, hz, hle⟩
    · rcases le_max_iff.mp h with h | h
      · exact .inl h
      · exact .inr ⟨y, List.mem_cons_self, h⟩
    · exact .inr ⟨z, List.mem_cons_of_mem _ hz, hle⟩

variable {cap : AgentCapability} {parent : Option Parent} {facts : List DelegationSecurityFact} {ids : List String}
  {depth : Nat}

theorem not_above {levels : Dict Int} :
    ¬ above levels cap ↔ ∃ level, levels cap.family = some level ∧ cap.privilegeLevel ≤ level := by
  unfold above
  simp only [gt_iff_lt, not_forall, not_lt, Option.mem_def, exists_prop]

/-- A positive level within the highest of a family is within that of one of its capabilities. -/
theorem exists_level {caps : List AgentCapability} (hpos : 0 < cap.privilegeLevel)
    (h : ¬ above (maxLevelByFamily caps) cap) :
    ∃ cap' ∈ caps, cap'.family = cap.family ∧ cap.privilegeLevel ≤ cap'.privilegeLevel := by
  obtain ⟨level, hlevel, hle⟩ := not_above.mp h
  unfold maxLevelByFamily at hlevel
  split at hlevel
  · cases hlevel
  · cases hlevel
    rcases le_foldl_max hle with h | ⟨y, hy, hle⟩
    · omega
    · obtain ⟨cap', hcap', rfl⟩ := List.mem_map.mp hy
      obtain ⟨hmem, hfamily⟩ := List.mem_filter.mp hcap'
      exact ⟨cap', hmem, by simpa using hfamily, hle⟩

theorem mem_capabilitiesOf : cap ∈ capabilitiesOf m ids ↔ ∃ id ∈ ids, m.capability id = some cap := List.mem_filterMap

/-- What the absence of risks says, against the parent if there is one. -/
structure Clean (rt : Runtime) (c : Context) (record : DelegationRecord) (parent : Option Parent) (depth : Nat) : Prop where
  bounded : Bounded c.policy c.manifest record depth
  continuous : ∀ q ∈ parent, record.originalPrincipalId = q.record.originalPrincipalId ∧ record.tenantId = q.record.tenantId ∧
    rt.casefold record.originalRequestSha256 = rt.casefold q.record.originalRequestSha256 ∧
    q.record.issuedAtEpoch ≤ record.issuedAtEpoch ∧ record.expiresAtEpoch ≤ q.record.expiresAtEpoch
  levels : ∀ q ∈ parent, ∀ cap ∈ capabilitiesOf c.manifest record.requestedCapabilityIds,
    ¬ above (maxLevelByFamily (capabilitiesOf c.manifest q.effective)) cap

theorem clean_of_risksOf {delegator delegatee : AgentIdentity}
    (hv : ∀ id ∈ record.requestedCapabilityIds, ∃ cap, c.manifest.capability id = some cap)
    (hor : c.manifest.agent record.delegatorAgentId = some delegator)
    (hee : c.manifest.agent record.delegateeAgentId = some delegatee)
    (h : risksOf rt c record parent depth delegator delegatee = .ok []) : Clean rt c record parent depth := by
  unfold risksOf at h
  simp only [bind_ok, getItem_ok] at h
  obtain ⟨tenant, -, tasks, -, levels, hlevels, h⟩ := h
  simp only [pure, Except.pure, Except.ok.injEq, List.append_eq_nil_iff] at h
  obtain ⟨⟨⟨⟨⟨⟨hdepth, -⟩, -⟩, hcont⟩, -⟩, hauth⟩, -⟩ := h
  simp only [depthRisks, List.append_eq_nil_iff, flag_eq_nil, not_or, not_lt, gt_iff_lt] at hdepth
  simp only [authorityRisks, List.append_eq_nil_iff, flag_eq_nil, not_not] at hauth
  obtain ⟨⟨hchain, hdelegator, hdelegatee⟩, -⟩ := hdepth
  obtain ⟨⟨⟨hprincipal, hmaxee⟩, hlaunder⟩, hmaxor⟩ := hauth
  refine ⟨⟨hchain, ⟨delegator, hor, hdelegator, hmaxor⟩, ⟨delegatee, hee, hdelegatee, hmaxee⟩, fun id hid => ?_⟩,
    fun q hq => ?_, fun q hq cap hcap habove => ?_⟩
  · obtain ⟨cap, hcap⟩ := hv id hid
    have hnot : ¬ above (Dict.mapping levels) cap := fun ha => hprincipal ⟨cap, mem_capabilitiesOf.mpr ⟨id, hid, hcap⟩, ha⟩
    obtain ⟨level, hlevel, hle⟩ := not_above.mp hnot
    refine ⟨cap, hcap, level, ?_, hle⟩
    rw [principalLevel, hlevels]
    exact hlevel
  · rw [Option.mem_def] at hq
    subst hq
    simp only [continuityRisks, List.append_eq_nil_iff, flag_eq_nil, not_or, not_not, not_lt, gt_iff_lt] at hcont
    obtain ⟨⟨⟨-, hprin, hten⟩, hreq⟩, hissued, hexpires⟩ := hcont
    exact ⟨hprin.symm, hten.symm, hreq.symm, hissued, hexpires⟩
  · rw [Option.mem_def] at hq
    subst hq
    exact flag_eq_nil.mp hlaunder ⟨cap, hcap, habove⟩

/-! ## Evaluation -/

/-- The fact of a delegation, and the parent's among `facts` when it is allowed. -/
def Sound (rt : Runtime) (c : Context) (facts : List DelegationSecurityFact) (f : DelegationSecurityFact) : Prop :=
  ∃ d, c.manifest.delegation f.delegationId = some d ∧ Rooted c.manifest.parentOf f.delegationId f.chainDepth ∧
    (f.decision = .allow → Bounded c.policy c.manifest d f.chainDepth ∧ ∀ q, d.parentDelegationId = some q →
      ∃ a, c.manifest.delegation q = some a ∧ Inherits rt c.manifest a d ∧
        ∃ g ∈ facts, g.delegationId = q ∧ g.decision = .allow)

theorem Sound.mono {facts facts' : List DelegationSecurityFact} (h : Sound rt c facts f) (hs : ∀ g ∈ facts, g ∈ facts') :
    Sound rt c facts' f := by
  obtain ⟨d, hd, hr, hall⟩ := h
  refine ⟨d, hd, hr, fun ha => ⟨(hall ha).1, fun q hq => ?_⟩⟩
  obtain ⟨a, hqa, hinh, g, hg, hgid, hgd⟩ := (hall ha).2 q hq
  exact ⟨a, hqa, hinh, g, hs g hg, hgid, hgd⟩

/-- What holds of the memo between two evaluations. -/
structure MemoInv (rt : Runtime) (c : Context) (memo : Memo) : Prop where
  sound : ∀ f ∈ memo.facts, Sound rt c memo.facts f
  effective : ∀ id ids, memo.effective id = some ids → ∃ f ∈ memo.facts, f.delegationId = id ∧
    memo.depths id = some f.chainDepth ∧ ∃ d, c.manifest.delegation id = some d ∧
      ids = if f.decision = .allow then d.requestedCapabilityIds else []
  evaluated : ∀ f ∈ memo.facts, (memo.effective f.delegationId).isSome
  nodup : (memo.facts.map (·.delegationId)).Nodup

theorem delegation_id (h : m.delegation id = some d) : d ∈ m.delegations ∧ d.delegationId = id := Dict.ofItems_mem h

theorem MemoInv.add (h : MemoInv rt c memo) (hd : c.manifest.delegation f.delegationId = some d)
    (hnew : memo.effective f.delegationId = none) (hf : Sound rt c (memo.facts ++ [f]) f) : MemoInv rt c (memo.add d f) := by
  refine ⟨fun g hg => ?_, fun id ids he => ?_, fun g hg => ?_, ?_⟩
  · rcases List.mem_append.mp hg with hg | hg
    · exact (h.sound g hg).mono fun x hx => List.mem_append_left _ hx
    · exact List.mem_singleton.mp hg ▸ hf
  · by_cases hid : id = f.delegationId
    · subst hid
      simp only [Memo.add, Dict.set_self, Option.some.injEq] at he
      refine ⟨f, List.mem_append_right _ (List.mem_singleton_self f), rfl, ?_, d, hd, he.symm⟩
      exact Dict.set_self _ _ _
    · simp only [Memo.add, Dict.set_ne hid] at he ⊢
      obtain ⟨g, hg, hrest⟩ := h.effective id ids he
      exact ⟨g, List.mem_append_left _ hg, hrest⟩
  · simp only [Memo.add]
    by_cases hid : g.delegationId = f.delegationId
    · rw [hid, Dict.set_self]
      rfl
    · rw [Dict.set_ne hid]
      rcases List.mem_append.mp hg with hg | hg
      · exact h.evaluated g hg
      · exact absurd (congrArg (·.delegationId) (List.mem_singleton.mp hg)) hid
  · simp only [Memo.add, List.map_append, List.map_cons, List.map_nil]
    refine List.nodup_append.mpr ⟨h.nodup, List.nodup_singleton _, ?_⟩
    intro x hx y hy
    rw [List.mem_singleton.mp hy]
    rintro rfl
    obtain ⟨g, hg, hid⟩ := List.mem_map.mp hx
    have hsome := h.evaluated g hg
    rw [hid, hnew] at hsome
    cases hsome

/-- What `conclude` adds. -/
theorem conclude_ok (hv : ∀ id ∈ record.requestedCapabilityIds, ∃ cap, c.manifest.capability id = some cap)
    (h : conclude rt c record parent memo = .ok memo') :
    ∃ f, memo' = memo.add record f ∧ f.delegationId = record.delegationId ∧
      f.chainDepth = (parent.map (·.depth)).getD 0 + 1 ∧ (f.decision = .allow → Clean rt c record parent f.chainDepth) := by
  unfold conclude at h
  simp only [bind_ok, getItem_ok] at h
  obtain ⟨delegator, hor, delegatee, hee, risks, hrisks, h⟩ := h
  cases h
  refine ⟨_, rfl, rfl, rfl, fun ha => ?_⟩
  have hnil : risks = [] := by
    by_contra hne
    simp only [factOf, if_neg (mt sorted_eq_nil.mp hne)] at ha
    cases ha
  exact clean_of_risksOf hv hor hee (hnil ▸ hrisks)

/-- The parent of an allowed delegation is allowed: its capabilities in effect are those it requested. -/
theorem parent_allowed {q : Parent} (hv : Valid c.manifest) (hrec : record ∈ c.manifest.delegations)
    (hc : Clean rt c record (some q) depth) {g : DelegationSecurityFact}
    (heff : q.effective = if g.decision = .allow then a.requestedCapabilityIds else []) :
    g.decision = .allow ∧ q.effective = a.requestedCapabilityIds := by
  by_cases hg : g.decision = .allow
  · exact ⟨hg, by rw [heff, if_pos hg]⟩
  · obtain ⟨hne, hknown⟩ := hv.requested record hrec
    obtain ⟨id, hid⟩ := List.exists_mem_of_ne_nil _ hne
    obtain ⟨cap, hcap⟩ := hknown id hid
    have hlevel := hc.levels q rfl cap (mem_capabilitiesOf.mpr ⟨id, hid, hcap⟩)
    rw [heff, if_neg hg] at hlevel
    exact absurd (fun level hl => by cases hl) hlevel

theorem inherits_of_clean {q : Parent} (hv : Valid c.manifest) (hrec : record ∈ c.manifest.delegations)
    (hc : Clean rt c record (some q) depth) (heff : q.effective = q.record.requestedCapabilityIds) :
    Inherits rt c.manifest q.record record := by
  obtain ⟨hprin, hten, hreq, hissued, hexpires⟩ := hc.continuous q rfl
  refine ⟨hprin, hten, hreq, hissued, hexpires, fun id hid => ?_⟩
  obtain ⟨cap, hcap⟩ := (hv.requested record hrec).2 id hid
  have hpos := hv.levels cap (Dict.ofItems_mem hcap).1
  obtain ⟨cap', hcap', hfamily, hle⟩ := exists_level hpos (hc.levels q rfl cap (mem_capabilitiesOf.mpr ⟨id, hid, hcap⟩))
  rw [heff] at hcap'
  obtain ⟨id', hid', hcap'⟩ := mem_capabilitiesOf.mp hcap'
  exact ⟨cap, hcap, id', hid', cap', hcap', hfamily, hle⟩

/-- What one evaluation does to the memo. -/
structure Evaluates (rt : Runtime) (c : Context) (id : String) (stack : List String) (memo memo' : Memo) : Prop where
  inv : MemoInv rt c memo'
  done : (memo'.effective id).isSome
  grows : ∀ k, (memo.effective k).isSome → (memo'.effective k).isSome
  waiting : ∀ k ∈ stack, memo.effective k = none → memo'.effective k = none

theorem Evaluates.of_add (h : MemoInv rt c (memo'.add d f)) (hid : f.delegationId = id) (hstack : id ∉ stack)
    (hgrows : ∀ k, (memo.effective k).isSome → (memo'.effective k).isSome)
    (hwaiting : ∀ k ∈ stack, memo.effective k = none → memo'.effective k = none) :
    Evaluates rt c id stack memo (memo'.add d f) := by
  subst hid
  refine ⟨h, by simp [Memo.add], fun k hk => ?_, fun k hk hnone => ?_⟩
  · by_cases he : k = f.delegationId
    · simp [Memo.add, he]
    · simpa [Memo.add, Dict.set_ne he] using hgrows k hk
  · have hne : k ≠ f.delegationId := fun he => hstack (he ▸ hk)
    simpa [Memo.add, Dict.set_ne hne] using hwaiting k hk hnone

theorem evaluateRecord_inv (hv : Valid c.manifest) (hinv : MemoInv rt c memo)
    (h : evaluateRecord rt c limit id stack memo = .ok memo') : Evaluates rt c id stack memo memo' := by
  induction limit generalizing id stack memo memo' with
  | zero => cases h
  | succ limit ih =>
    unfold evaluateRecord at h
    split at h
    · rename_i hdone
      cases h
      exact ⟨hinv, hdone, fun _ hk => hk, fun _ _ hk => hk⟩
    · rename_i hnew
      rw [Option.not_isSome_iff_eq_none] at hnew
      split_ifs at h with hstack
      simp only [bind_ok, getItem_ok] at h
      obtain ⟨record, hrec, h⟩ := h
      obtain ⟨hmem, rfl⟩ := delegation_id hrec
      have hknown := (hv.requested record hmem).2
      split at h
      · -- no parent: nothing to compare with
        rename_i hparent
        obtain ⟨f, rfl, hfid, hdepth, hclean⟩ := conclude_ok hknown h
        have hroot : c.manifest.parentOf record.delegationId = none := by
          rw [AgentDelegationManifest.parentOf, hrec]
          exact hparent
        refine .of_add (hinv.add (hfid ▸ hrec) (hfid ▸ hnew) ?_) hfid hstack (fun _ hk => hk) fun _ _ hk => hk
        refine ⟨record, hfid ▸ hrec, ?_, fun ha => ⟨(hclean ha).bounded, fun q hq => ?_⟩⟩
        · rw [hfid, hdepth]
          exact .root hroot
        · rw [hparent] at hq
          cases hq
      · -- the parent is evaluated first, with this delegation on the stack
        rename_i parentId hparent
        simp only [bind_ok] at h
        obtain ⟨memo1, h1, q, hq, h⟩ := h
        obtain ⟨hinv1, -, hgrows, hwaiting⟩ := ih hinv h1
        have hnew1 : memo1.effective record.delegationId = none := hwaiting _ (by simp) hnew
        simp only [parentIn, bind_ok, getItem_ok] at hq
        obtain ⟨a, ha, ids, hids, depth, hdep, hq⟩ := hq
        cases hq
        obtain ⟨g, hg, hgid, hgdepth, a', ha', heff⟩ := hinv1.effective parentId ids hids
        rw [ha, Option.some.injEq] at ha'
        subst ha'
        rw [hgdepth, Option.some.injEq] at hdep
        obtain ⟨f, rfl, hfid, hdepth, hclean⟩ := conclude_ok hknown h
        have hup : c.manifest.parentOf record.delegationId = some parentId := by
          rw [AgentDelegationManifest.parentOf, hrec]
          exact hparent
        refine .of_add (hinv1.add (hfid ▸ hrec) (hfid ▸ hnew1) ?_) hfid hstack hgrows fun k hk hnone =>
          hwaiting k (List.mem_append_left _ hk) hnone
        refine ⟨record, hfid ▸ hrec, ?_, fun hallow => ⟨(hclean hallow).bounded, fun q hq => ?_⟩⟩
        · obtain ⟨-, -, hroot, -⟩ := hinv1.sound g hg
          rw [hgid, hdep] at hroot
          rw [hfid, hdepth]
          exact .child hup hroot
        · rw [hparent, Option.some.injEq] at hq
          subst hq
          obtain ⟨hgallow, hids⟩ := parent_allowed hv hmem (hclean hallow) heff
          exact ⟨a, ha, inherits_of_clean hv hmem (hclean hallow) hids, g, List.mem_append_left _ hg, hgid, hgallow⟩

theorem evaluateAll_inv (hv : Valid c.manifest) (hinv : MemoInv rt c memo)
    (h : evaluateAll rt c limit memo ids = .ok memo') :
    MemoInv rt c memo' ∧ (∀ k, (memo.effective k).isSome → (memo'.effective k).isSome) ∧
      ∀ id ∈ ids, (memo'.effective id).isSome := by
  induction ids generalizing memo with
  | nil =>
    cases h
    exact ⟨hinv, fun _ hk => hk, by simp⟩
  | cons id ids ih =>
    unfold evaluateAll at h
    simp only [bind_ok] at h
    obtain ⟨memo1, h1, h2⟩ := h
    have hone := evaluateRecord_inv hv hinv h1
    obtain ⟨hinv', hgrows, hall⟩ := ih hone.inv h2
    refine ⟨hinv', fun k hk => hgrows k (hone.grows k hk), fun k hk => ?_⟩
    rcases List.mem_cons.mp hk with rfl | hk
    · exact hgrows _ hone.done
    · exact hall k hk

/-! ## The end of the evaluation -/

theorem risksOf_shallow {delegator delegatee : AgentIdentity} :
    Shallow (risksOf rt c record parent depth delegator delegatee) := by
  unfold risksOf
  refine .bind .getItem fun _ _ => ?_
  refine .bind .getItem fun _ _ => ?_
  exact .bind .getItem fun _ _ => .ok

theorem conclude_shallow : Shallow (conclude rt c record parent memo) := by
  unfold conclude
  refine .bind .getItem fun _ _ => ?_
  refine .bind .getItem fun _ _ => ?_
  exact .bind risksOf_shallow fun _ _ => .ok

theorem parentIn_shallow : Shallow (parentIn c memo id) := by
  unfold parentIn
  refine .bind .getItem fun _ _ => ?_
  refine .bind .getItem fun _ _ => ?_
  exact .bind .getItem fun _ _ => .ok

/-- The stack holds different delegations, so that it cannot outgrow them. -/
theorem evaluateRecord_shallow (hn : stack.Nodup) (hs : ∀ k ∈ stack, k ∈ c.manifest.delegations.map (·.delegationId))
    (hl : c.manifest.delegations.length < limit + stack.length) : Shallow (evaluateRecord rt c limit id stack memo) := by
  induction limit generalizing id stack memo with
  | zero =>
    have hle := (List.subperm_of_subset hn hs).length_le
    rw [List.length_map] at hle
    omega
  | succ limit ih =>
    unfold evaluateRecord
    split
    · exact .ok
    · split
      · intro h
        cases h
      · rename_i hstack
        refine .bind .getItem fun record hrec => ?_
        rw [getItem_ok] at hrec
        obtain ⟨hmem, hid⟩ := delegation_id hrec
        split
        · exact conclude_shallow
        · refine .bind (ih ?_ ?_ ?_) fun _ _ => .bind parentIn_shallow fun _ _ => conclude_shallow
          · refine List.nodup_append.mpr ⟨hn, List.nodup_singleton id, fun x hx y hy => ?_⟩
            rw [List.mem_singleton.mp hy]
            exact fun he => hstack (he ▸ hx)
          · intro k hk
            rcases List.mem_append.mp hk with hk | hk
            · exact hs k hk
            · rw [List.mem_singleton.mp hk, ← hid]
              exact List.mem_map_of_mem hmem
          · rw [List.length_append, List.length_singleton]
            omega

theorem evaluateAll_shallow (hl : c.manifest.delegations.length < limit) :
    Shallow (evaluateAll rt c limit memo ids) := by
  induction ids generalizing memo with
  | nil => exact .ok
  | cons id ids ih =>
    unfold evaluateAll
    exact .bind (evaluateRecord_shallow List.nodup_nil (by simp) (by simpa using hl)) fun _ _ => ih

theorem validateAgent_shallow (x : AgentIdentity) : Shallow (validateAgent p up x) := by
  unfold validateAgent
  iterate 4 refine .bind .rejectIf fun _ _ => ?_
  refine .bind .getItem fun _ _ => .bind .rejectIf fun _ _ => ?_
  refine .bind .getItem fun _ _ => .bind .rejectIf fun _ _ => ?_
  refine .bind .rejectIf fun _ _ => ?_
  refine .bind .getItem fun _ _ => .bind .rejectIf fun _ _ => ?_
  iterate 2 refine .bind .rejectIf fun _ _ => ?_
  exact .rejectIf

theorem validateCapability_shallow (x : AgentCapability) : Shallow (validateCapability p up x) := by
  unfold validateCapability
  iterate 4 refine .bind .rejectIf fun _ _ => ?_
  refine .bind .getItem fun _ _ => .bind .rejectIf fun _ _ => ?_
  refine .bind .getItem fun _ _ => .bind .rejectIf fun _ _ => ?_
  exact .rejectIf

theorem validateDelegation_shallow {now : Int} (x : DelegationRecord) : Shallow (validateDelegation rt p now m x) := by
  unfold validateDelegation
  iterate 6 refine .bind .rejectIf fun _ _ => ?_
  exact .rejectIf

theorem unique_shallow {α : Type} {key : α → String} {reason : DelegationRejectReason} {message : String}
    {items : List α} : Shallow (unique key reason message items) :=
  .keysFrom (fun _ _ => .rejectIf) key [] items

theorem validateManifest_shallow {request : AgentDelegationRequest} : Shallow (validateManifest rt p request m up) := by
  unfold validateManifest
  iterate 5 refine .bind .rejectIf fun _ _ => ?_
  refine .bind unique_shallow fun _ _ => .bind .rejectIf fun _ _ => ?_
  refine .bind (.forEach validateAgent_shallow _) fun _ _ => ?_
  refine .bind unique_shallow fun _ _ => .bind .rejectIf fun _ _ => ?_
  refine .bind (.forEach validateCapability_shallow _) fun _ _ => ?_
  refine .bind (.forEach (fun _ => .rejectIf) _) fun _ _ => ?_
  refine .bind unique_shallow fun _ _ => .bind .rejectIf fun _ _ => ?_
  refine .bind (.forEach validateDelegation_shallow _) fun _ _ => ?_
  exact .forEach (fun _ => .rejectIf) _

theorem validateUpstreams_shallow {p7b p7h p7i : Json} : Shallow (validateUpstreams rt p p7b p7h p7i) := by
  have hinv : ∀ value name attr reason, Shallow (uniqueInventory rt value name attr reason) := by
    intro value name attr reason
    unfold uniqueInventory
    refine .bind (.keysFrom (fun _ _ => .rejectIf) _ _ _) fun _ _ => ?_
    exact .bind .rejectIf fun _ _ => .ok
  unfold validateUpstreams
  iterate 6 refine .bind .rejectIf fun _ _ => ?_
  iterate 3 refine .bind (hinv _ _ _ _) fun _ _ => ?_
  exact .ok

theorem validatePolicy_shallow : Shallow (validatePolicy rt p) := by
  unfold validatePolicy
  iterate 7 refine .bind .rejectIf fun _ _ => ?_
  exact .rejectIf

theorem validateDeclared_shallow {request : AgentDelegationRequest} : Shallow (validateDeclared request facts) := by
  unfold validateDeclared
  iterate 2 refine .bind .rejectIf fun _ _ => ?_
  refine .forEach (fun _ => ?_) _
  exact .bind .getItem fun _ _ => .rejectIf

theorem evaluate_shallow {request : AgentDelegationRequest} {p7b p7h p7i : Json} (hl : m.delegations.length < limit) :
    Shallow (evaluate rt limit p request m p7b p7h p7i) := by
  unfold evaluate
  refine .bind validatePolicy_shallow fun _ _ => ?_
  refine .bind .rejectIf fun _ _ => ?_
  refine .bind validateUpstreams_shallow fun _ _ => ?_
  refine .bind validateManifest_shallow fun _ _ => ?_
  refine .bind (evaluateAll_shallow hl) fun _ _ => ?_
  exact .bind validateDeclared_shallow fun _ _ => .ok

/-! ## Attenuation -/

/-- The facts of an accepted manifest: each is sound, and every delegation has one. -/
theorem evaluate_sound {request : AgentDelegationRequest} {p7b p7h p7i : Json}
    (h : evaluate rt limit p request m p7b p7h p7i = .ok facts) :
    ∃ c : Context, c.policy = p ∧ c.manifest = m ∧ Valid m ∧ (facts.map (·.delegationId)).Nodup ∧
      (∀ f ∈ facts, Sound rt c facts f) ∧ ∀ d ∈ m.delegations, ∃ f ∈ facts, f.delegationId = d.delegationId := by
  unfold evaluate at h
  simp only [bind_ok] at h
  obtain ⟨⟨⟩, -, ⟨⟩, -, up, -, ⟨⟩, hm, memo, hall, ⟨⟩, -, h⟩ := h
  cases h
  have hv := valid_of_validateManifest hm
  have hstart : MemoInv rt ⟨p, request.evaluatedAtEpoch, m, up⟩ ⟨fun _ => none, fun _ => none, []⟩ :=
    ⟨by simp, by simp, by simp, List.nodup_nil⟩
  obtain ⟨hinv, -, hdone⟩ := evaluateAll_inv hv hstart hall
  have hperm := perm_sortOn (·.delegationId) memo.facts
  refine ⟨⟨p, request.evaluatedAtEpoch, m, up⟩, rfl, rfl, hv, (hperm.map _).nodup_iff.mpr hinv.nodup, fun f hf => ?_, fun d hd => ?_⟩
  · exact (hinv.sound f (mem_sortOn.mp hf)).mono fun g hg => mem_sortOn.mpr hg
  · have hmem : d.delegationId ∈ sortedTexts (m.delegations.map (·.delegationId)) :=
      mem_sortOn.mpr (List.mem_map_of_mem hd)
    obtain ⟨ids, hids⟩ := Option.isSome_iff_exists.mp (hdone d.delegationId hmem)
    obtain ⟨f, hf, hid, -⟩ := hinv.effective d.delegationId ids hids
    exact ⟨f, mem_sortOn.mpr hf, hid⟩

/-- An allowed delegation inherits from every delegation above it, all of them allowed. -/
theorem Sound.above (hs : ∀ f ∈ facts, Sound rt c facts f)
    {x : String} (habove : Above c.manifest.parentOf id x) (hf : f ∈ facts) (hid : f.delegationId = id)
    (hallow : f.decision = .allow) (hd : c.manifest.delegation id = some d) :
    x = id ∨ ∃ a, c.manifest.delegation x = some a ∧ Inherits rt c.manifest a d ∧
      ∃ g ∈ facts, g.delegationId = x ∧ g.decision = .allow := by
  induction habove with
  | refl => exact .inl rfl
  | @tail y z _ hyz ih =>
    -- the parent of what is above is above
    have hstep : ∀ g ∈ facts, g.delegationId = y → g.decision = .allow → ∃ b a, c.manifest.delegation y = some b ∧
        c.manifest.delegation z = some a ∧ Inherits rt c.manifest a b ∧
        ∃ g' ∈ facts, g'.delegationId = z ∧ g'.decision = .allow := by
      intro g hg hgid hgallow
      obtain ⟨b, hb, -, hall⟩ := hs g hg
      rw [hgid] at hb
      have hparent : b.parentDelegationId = some z := by
        rw [AgentDelegationManifest.parentOf, hb] at hyz
        exact hyz
      obtain ⟨a, ha, hinh, g', hg', hgid', hgallow'⟩ := (hall hgallow).2 z hparent
      exact ⟨b, a, hb, ha, hinh, g', hg', hgid', hgallow'⟩
    refine .inr ?_
    rcases ih with rfl | ⟨b, hb, hinh, g, hg, hgid, hgallow⟩
    · obtain ⟨b, a, hb, ha, hinh, hrest⟩ := hstep f hf hid hallow
      rw [hd, Option.some.injEq] at hb
      exact ⟨a, ha, hb ▸ hinh, hrest⟩
    · obtain ⟨b', a, hb', ha, hinh', hrest⟩ := hstep g hg hgid hgallow
      rw [hb, Option.some.injEq] at hb'
      subst hb'
      exact ⟨a, ha, hinh'.trans hinh, hrest⟩

/-- Evaluation ends, given a call for each delegation and one more; no manifest with a cycle of
parents is accepted; and in an accepted one every allowed delegation keeps to the principal's levels,
to both agents' and the policy's bounds, and to every delegation above it, which is allowed. -/
theorem authority_attenuates (recursionLimit : Nat) (p : AgentDelegationPolicy) (request : AgentDelegationRequest)
    (m : AgentDelegationManifest) (p7b p7h p7i : Json) :
    (m.delegations.length < recursionLimit → evaluate rt recursionLimit p request m p7b p7h p7i ≠ .error .recursion) ∧
      ((∃ x y, m.parentOf x = some y ∧ Above m.parentOf y x) →
        ∀ facts, evaluate rt recursionLimit p request m p7b p7h p7i ≠ .ok facts) ∧
      ∀ facts, evaluate rt recursionLimit p request m p7b p7h p7i = .ok facts → ∀ f ∈ facts, f.decision = .allow →
        ∃ d ∈ m.delegations, d.delegationId = f.delegationId ∧ Rooted m.parentOf d.delegationId f.chainDepth ∧
          Bounded p m d f.chainDepth ∧ ∀ a ∈ m.delegations, Above m.parentOf d.delegationId a.delegationId →
            a ≠ d → Inherits rt m a d ∧ ∃ g ∈ facts, g.delegationId = a.delegationId ∧ g.decision = .allow := by
  refine ⟨evaluate_shallow, ?_, fun facts h f hf hallow => ?_⟩
  · rintro ⟨x, y, hxy, hyx⟩ facts h
    obtain ⟨c, -, rfl, -, -, hsound, hall⟩ := evaluate_sound h
    obtain ⟨d, hd, -⟩ := Option.bind_eq_some_iff.mp hxy
    obtain ⟨hmem, rfl⟩ := delegation_id hd
    obtain ⟨f, hf, hid⟩ := hall d hmem
    obtain ⟨-, -, hroot, -⟩ := hsound f hf
    rw [hid] at hroot
    exact hroot.not_cycle hxy hyx
  · obtain ⟨c, rfl, rfl, hv, -, hsound, -⟩ := evaluate_sound h
    obtain ⟨d, hd, hroot, hbounds⟩ := hsound f hf
    obtain ⟨hmem, hid⟩ := delegation_id hd
    refine ⟨d, hmem, hid, hid ▸ hroot, (hbounds hallow).1, fun a ha habove hne => ?_⟩
    rcases Sound.above hsound habove hf hid.symm hallow (hid ▸ hd) with hsame | ⟨a', ha', hrest⟩
    · exact absurd (List.inj_on_of_nodup_map hv.delegations ha hmem hsame) hne
    · rw [AgentDelegationManifest.delegation, Dict.ofItems_self hv.delegations ha, Option.some.injEq] at ha'
      exact ha' ▸ hrest

namespace Sample

def agent (id : String) (role : AgentRole) : AgentIdentity := ⟨id, role, "acme", "core", "ops", ["read"], [], [], true, 2, ""⟩

def capability : AgentCapability := ⟨"read", "docs", 1, .tenantBound, false, [], [], ""⟩

def delegation (id : String) (parent : Option String) (delegator delegatee : String) (issued expires : Int) :
    DelegationRecord :=
  ⟨id, parent, "alice", delegator, delegatee, "search", "acme", ["read"], hex '1', issued, expires, "ops", ""⟩

/-- The planner delegates to the broker, and the broker back within that. -/
def manifest : AgentDelegationManifest where
  graphId := "g"
  version := "1"
  p7bAssessmentEvidenceSha256 := hex '2'
  p7hAssessmentEvidenceSha256 := hex '3'
  p7iAssessmentEvidenceSha256 := hex '4'
  createdAtEpoch := 100
  agents := [agent "planner" .orchestrator, agent "broker" .toolBroker]
  capabilities := [capability]
  delegations := [delegation "d1" none "planner" "broker" 100 900, delegation "d2" (some "d1") "broker" "planner" 110 800]
  schemaVersion := delegationSchemaVersion

def digest : String := "96879a0783c3f3c372b3e9d07535fb9cbcbeecf54eafeb23fbcbe2a20b6212ae"

def both (x : α) : List (String × α) := [("planner", x), ("broker", x)]

def policy : AgentDelegationPolicy where
  expectedGraphId := "g"
  expectedGraphVersion := "1"
  expectedGraphSha256 := digest
  expectedP7bAssessmentEvidenceSha256 := hex '2'
  expectedP7hAssessmentEvidenceSha256 := hex '3'
  expectedP7iAssessmentEvidenceSha256 := hex '4'
  requiredAgentIds := ["planner", "broker"]
  requiredCapabilityIds := ["read"]
  requiredDelegationIds := ["d1", "d2"]
  trustedOwnerIds := ["ops"]
  trustedTrustDomains := ["core"]
  sharedAgentIds := []
  expectedAgentRole := [("planner", .orchestrator), ("broker", .toolBroker)]
  expectedAgentTenant := both "acme"
  expectedAgentTrustDomain := both "core"
  expectedAgentCapabilityIds := both ["read"]
  expectedAgentP7bPathIds := both []
  expectedAgentP7hRouteIds := both []
  expectedAgentAcceptsDelegation := both true
  expectedAgentMaxDepth := both 2
  expectedCapabilityFamily := [("read", "docs")]
  expectedCapabilityLevel := [("read", 1)]
  expectedCapabilityScope := [("read", .tenantBound)]
  expectedCapabilityPrivileged := [("read", false)]
  expectedCapabilityP7hRouteIds := [("read", [])]
  expectedCapabilityP7iInvariantIds := [("read", [])]
  originalPrincipalTenant := [("alice", "acme")]
  originalPrincipalAllowedTaskClasses := [("alice", ["search"])]
  originalPrincipalMaxLevelByFamily := [("alice", [("docs", 2)])]
  maxChainDepth := 4
  maxManifestAgeSeconds := 600
  maxFutureSkewSeconds := 30

def request : AgentDelegationRequest where
  graphId := "g"
  graphVersion := "1"
  graphSha256 := digest
  p7bAssessmentEvidenceSha256 := hex '2'
  p7hAssessmentEvidenceSha256 := hex '3'
  p7iAssessmentEvidenceSha256 := hex '4'
  evaluatedAtEpoch := 200
  delegationIds := ["d1", "d2"]
  declaredDeniedDelegationIds := []
  declaredRiskIdsByDelegation := [("d1", []), ("d2", [])]

def upstream (pin : Char) (flags : List String) (items attr : String) : Json :=
  .obj ([("assessment_evidence_sha256", .str (hex pin)), (items, .arr [.obj [(attr, .str "x")]])] ++
    flags.map fun f => (f, .bool true))

def evaluated : Check (List DelegationSecurityFact) :=
  evaluate (.folded digest rfl) 1000 policy request manifest
    (upstream '2' ["exact_identity_graph_binding_verified", "privilege_amplification_derived_from_evidence"] "paths" "path_id")
    (upstream '3' ["exact_control_plane_binding_verified", "path_risk_derived_from_evidence", "separation_of_duties_enforced"]
      "routes" "route_id")
    (upstream '4' ["exact_catalog_binding_verified", "blast_radius_derived_from_evidence", "counterevidence_preserved"]
      "invariants" "invariant_id")

end Sample

open Sample in
/-- The second of two allowed delegations is two deep and inherits from the first. -/
theorem authority_attenuates_twice : ∃ facts, evaluated = .ok facts ∧ ∃ f ∈ facts, f.delegationId = "d2" ∧ f.chainDepth = 2 ∧
    ∃ a ∈ manifest.delegations, ∃ d ∈ manifest.delegations, a.delegationId = "d1" ∧ d.delegationId = "d2" ∧
      Inherits (.folded digest rfl) manifest a d := by
  have hok : (evaluated.toOption.map fun fs => fs.map fun f => (f.delegationId, f.chainDepth, f.decision)) =
      some [("d1", 1, .allow), ("d2", 2, .allow)] := by
    decide +kernel
  cases hd : evaluated with
  | error e =>
    rw [hd] at hok
    cases hok
  | ok facts =>
    rw [hd] at hok
    have hlist : facts.map (fun f => (f.delegationId, f.chainDepth, f.decision)) = [("d1", 1, .allow), ("d2", 2, .allow)] :=
      Option.some.inj hok
    obtain ⟨f, hf, he⟩ : ∃ f ∈ facts, (f.delegationId, f.chainDepth, f.decision) = ("d2", 2, .allow) := by
      refine List.mem_map.mp ?_
      rw [hlist]
      exact List.mem_cons_of_mem _ List.mem_cons_self
    simp only [Prod.mk.injEq] at he
    obtain ⟨hid, hdepth, hallow⟩ := he
    obtain ⟨d, hmem, hdid, -, -, hinh⟩ := (authority_attenuates 1000 policy request manifest _ _ _).2.2 facts hd f hf hallow
    rw [hid] at hdid
    refine ⟨facts, rfl, f, hf, hid, hdepth, delegation "d1" none "planner" "broker" 100 900, List.mem_cons_self, d, hmem, rfl,
      hdid, (hinh _ List.mem_cons_self (.single ?_) ?_).1⟩
    · rw [hdid]
      decide +kernel
    · rintro rfl
      exact absurd hdid (by decide)

end Aegis.Agentic.Delegation
