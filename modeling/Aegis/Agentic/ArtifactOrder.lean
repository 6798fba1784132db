/-
  Aegis.Agentic.ArtifactOrder — what the results of the actions of a manifest owe to their order.

  - `act_reads`: an action reads the digest of its own artifact and the trust of its sources, and
    changes no artifact but its own; two actions of which neither reads what the other changes
    commute (`commutes_of_apart`).
  - `act_alike`: the order of the sources and of the archive members of an action does not matter.
  - `actAll_alike`: so actions listed in another order have the same results where those that
    meet in an artifact keep their order.
-/

import Aegis.Agentic.ArtifactSecurity
import Aegis.Data.Commuting
import Mathlib.Algebra.BigOperators.Group.List.Basic

namespace Aegis.Agentic.ArtifactSecurity

open Data Evidence Checked Decision Commuting

variable {rt : Runtime} {m m' : AgentArtifactManifest} {c : Upstreams}

/-! ## What an action reads and changes -/

/-- The artifact of an action as the action leaves it. -/
def Current.take (rt : Runtime) (cur : Current) (a : ArtifactAction) : Current :=
  ⟨cur.sha.set a.artifactId (rt.casefold a.proposedContentSha256), cur.trust.set a.artifactId a.proposedTrust⟩

/-- The artifacts are for an action what they were. -/
structure Unread (cur cur' : Current) (a : ArtifactAction) : Prop where
  sha : cur'.sha a.artifactId = cur.sha a.artifactId
  trust : ∀ source ∈ a.sourceArtifactIds, cur'.trust source = cur.trust source

theorem gather_congr {α β ε : Type} {f g : α → Except ε β} {xs : List α} (h : ∀ x ∈ xs, f x = g x) : Checks.gather f xs = Checks.gather g xs := by
  induction xs with
  | nil => rfl
  | cons x xs ih =>
    unfold Checks.gather
    rw [h x List.mem_cons_self, ih fun y hy => h y (List.mem_cons_of_mem _ hy)]

variable {cur cur' : Current} {fact : ArtifactActionFact} {a b : ArtifactAction} {facts : List ArtifactActionFact}
  {members : List ArchiveMember} {sources : List String}

theorem act_reads (h : act rt m c cur a = .ok (cur', fact)) :
    ∃ changed : Bool, cur' = (if changed then cur.take rt a else cur) ∧
      ∀ t, Unread cur t a → act rt m c t a = .ok (if changed then t.take rt a else t, fact) := by
  unfold act at h
  simp only [bind_ok, getItem_ok] at h
  obtain ⟨artifact, hartifact, w, hw, kinds, hkinds, base, hbase, sources, hsources, he⟩ := h
  obtain ⟨rfl, hfact⟩ := Prod.mk.inj (Except.ok.inj he)
  refine ⟨decide (sortedSet ArtifactRisk.value (pathRisks c w a ++ authorityRisks rt c w artifact kinds a ++ persistenceRisks rt c w a ++
    currentRisks rt base sources a) = [] ∧ a.operation ∈ resulting), by simp only [decide_eq_true_eq, Current.take], fun t ht => ?_⟩
  have hsources' : Checks.gather (getItem t.trust) a.sourceArtifactIds = (.ok sources : Check (List ArtifactTrust)) := by
    rw [← hsources]
    refine gather_congr fun source hin => ?_
    unfold getItem
    rw [ht.trust source hin]
  unfold act
  simp only [bind_ok, getItem_ok]
  refine ⟨artifact, hartifact, w, hw, kinds, hkinds, base, ht.sha.trans hbase, sources, hsources', ?_⟩
  rw [← hfact]
  simp only [decide_eq_true_eq, Current.take]
  rfl

/-- What one action can do: it is allowed exactly when it carries no risk, and an allowed one that changes its artifact leaves it so. -/
theorem act_ok (h : act rt m c cur a = .ok (cur', fact)) :
    ∃ artifact w kinds base sources, m.artifact a.artifactId = some artifact ∧ m.workspace artifact.workspaceId = some w ∧
      cur.sha a.artifactId = some base ∧ Checks.gather (getItem cur.trust) a.sourceArtifactIds = (.ok sources : Check (List ArtifactTrust)) ∧
      fact.actionId = a.actionId ∧ cur' = (if fact.decision = .allow ∧ a.operation ∈ resulting then cur.take rt a else cur) ∧
      (fact.decision = .allow ↔ pathRisks c w a = [] ∧ authorityRisks rt c w artifact kinds a = [] ∧ persistenceRisks rt c w a = [] ∧
        currentRisks rt base sources a = []) := by
  unfold act at h
  simp only [bind_ok, getItem_ok] at h
  obtain ⟨artifact, hartifact, w, hw, kinds, -, base, hbase, sources, hsources, he⟩ := h
  obtain ⟨rfl, rfl⟩ := Prod.mk.inj (Except.ok.inj he)
  have hallow : ∀ (P : Prop) [Decidable P], (if P then ArtifactDecision.allow else .deny) = .allow ↔ P := by
    intro P _
    split_ifs with h <;> simp [h]
  refine ⟨artifact, w, kinds, base, sources, hartifact, hw, hbase, hsources, rfl, ?_, ?_⟩
  · simp only [hallow, Current.take]
  · simp only [hallow, sortedSet_eq_nil, List.append_eq_nil_iff, and_assoc]

/-- Neither action reads what the other changes. -/
def Meet (a b : ArtifactAction) : Prop :=
  a.artifactId = b.artifactId ∨ a.artifactId ∈ b.sourceArtifactIds ∨ b.artifactId ∈ a.sourceArtifactIds

theorem unread_of_apart {changed : Bool} (h : ¬ Meet a b) :
    Unread cur (if changed then cur.take rt a else cur) b ∧ Unread (if changed then cur.take rt a else cur) cur b := by
  simp only [Meet, not_or] at h
  cases changed with
  | false => exact ⟨⟨rfl, fun _ _ => rfl⟩, ⟨rfl, fun _ _ => rfl⟩⟩
  | true =>
    have hsha : (cur.take rt a).sha b.artifactId = cur.sha b.artifactId := Dict.set_ne (Ne.symm h.1)
    have htrust : ∀ source ∈ b.sourceArtifactIds, (cur.take rt a).trust source = cur.trust source := fun source hin =>
      Dict.set_ne fun he => h.2.1 (he ▸ hin)
    exact ⟨⟨hsha, htrust⟩, ⟨hsha.symm, fun source hin => (htrust source hin).symm⟩⟩

theorem set_comm {α : Type} (d : Dict α) {k k' : String} (x y : α) (h : k ≠ k') : (d.set k x).set k' y = (d.set k' y).set k x := by
  funext j
  unfold Dict.set
  by_cases hk : j = k
  · have hk' : j ≠ k' := fun he => h (hk.symm.trans he)
    rw [if_neg hk', if_pos hk, if_pos hk]
  · rw [if_neg hk, if_neg hk]

theorem commutes_of_apart (h : ¬ Meet a b) : Commutes (act rt m c) a b := by
  intro s s' s'' x y ha hb
  obtain ⟨changedA, hs', hreadA⟩ := act_reads ha
  obtain ⟨changedB, hs'', hreadB⟩ := act_reads hb
  have hba : ¬ Meet b a := by
    intro hm
    rcases hm with he | he | he
    · exact h (.inl he.symm)
    · exact h (.inr (.inr he))
    · exact h (.inr (.inl he))
  have hbfirst := hreadB s (hs' ▸ (unread_of_apart h).2)
  have hathen := hreadA (if changedB then s.take rt b else s) (unread_of_apart hba).1
  refine ⟨_, hbfirst, ?_⟩
  rw [hathen, hs'', hs']
  have hne : a.artifactId ≠ b.artifactId := fun he => h (.inl he)
  cases changedA with
  | false => rfl
  | true =>
    cases changedB with
    | false => rfl
    | true =>
      have hsame : (s.take rt b).take rt a = (s.take rt a).take rt b := by
        unfold Current.take
        rw [set_comm _ _ _ hne.symm, set_comm s.trust _ _ hne.symm]
      simp only [if_true, hsame]

theorem actAll_eq (cur : Current) (as : List ArtifactAction) :
    actAll rt m c cur as = (runAll (act rt m c) cur as).map fun r => (r.1, r.2.sha) := by
  induction as generalizing cur with
  | nil => rfl
  | cons a as ih =>
    unfold actAll runAll
    cases h : act rt m c cur a with
    | error e => rfl
    | ok r =>
      show (actAll rt m c r.1 as >>= fun q => pure (r.2 :: q.1, q.2)) = _
      rw [ih]
      dsimp only
      cases runAll (act rt m c) r.1 as with
      | error e => rfl
      | ok q => rfl

/-! ## Actions that are alike -/

/-- The same action but for the order of its sources and of its archive members. -/
structure Alike (a b : ArtifactAction) : Prop where
  same : b = { a with sourceArtifactIds := b.sourceArtifactIds, archiveMembers := b.archiveMembers }
  sources : a.sourceArtifactIds.Perm b.sourceArtifactIds
  members : a.archiveMembers.Perm b.archiveMembers

theorem gather_perm {α β ε : Type} {f : α → Except ε β} {xs xs' : List α} (h : xs.Perm xs') {ys : List β} (hy : Checks.gather f xs = .ok ys) :
    ∃ ys', Checks.gather f xs' = .ok ys' ∧ ys.Perm ys' := by
  obtain ⟨ys', hy', hperm⟩ := List.perm_comp_forall₂ h.symm (Checks.gather_ok.mp hy)
  exact ⟨ys', Checks.gather_ok.mpr hy', hperm.symm⟩

theorem pathRisks_perm {w : WorkspaceRoot} (h : a.archiveMembers.Perm members) :
    pathRisks c w { a with sourceArtifactIds := sources, archiveMembers := members } = pathRisks c w a := by
  have hnil : members = [] ↔ a.archiveMembers = [] := by
    constructor
    · intro he
      exact List.perm_nil.mp (he ▸ h)
    · intro he
      exact List.perm_nil.mp (he ▸ h.symm)
  have hsum := (h.map (·.sizeBytes)).sum_eq
  simp only [pathRisks, ne_eq, hnil, h.length_eq, hsum, h.mem_iff]

theorem currentRisks_perm {base : String} {trusts trusts' : List ArtifactTrust} (h : trusts.Perm trusts') :
    currentRisks rt base trusts' { a with sourceArtifactIds := sources, archiveMembers := members } = currentRisks rt base trusts a := by
  simp only [currentRisks, h.mem_iff]

theorem act_alike (hartifacts : m.artifact = m'.artifact) (hworkspaces : m.workspace = m'.workspace)
    (hab : Alike a b) (h : act rt m c cur a = .ok (cur', fact)) :
    act rt m' c cur b = .ok (cur', fact) := by
  unfold act at h
  simp only [bind_ok, getItem_ok] at h
  obtain ⟨artifact, hartifact, w, hw, kinds, hkinds, base, hbase, sources, hsources, he⟩ := h
  obtain ⟨sources', hsources', hperm⟩ := gather_perm hab.sources hsources
  have hpath : pathRisks c w { a with sourceArtifactIds := b.sourceArtifactIds, archiveMembers := b.archiveMembers } = pathRisks c w a :=
    pathRisks_perm hab.members
  have hcurrent : currentRisks rt base sources' { a with sourceArtifactIds := b.sourceArtifactIds, archiveMembers := b.archiveMembers } =
      currentRisks rt base sources a := currentRisks_perm hperm
  rw [hab.same]
  unfold act
  simp only [bind_ok, getItem_ok]
  refine ⟨artifact, hartifacts ▸ hartifact, w, hworkspaces ▸ hw, kinds, hkinds, base, hbase, sources', hsources', ?_⟩
  rw [hpath, hcurrent]
  exact he

theorem Alike.actionId (h : Alike a b) : b.actionId = a.actionId := by
  rw [h.same]

theorem Alike.artifactId (h : Alike a b) : b.artifactId = a.artifactId := by
  rw [h.same]

theorem Alike.meet {b x y : ArtifactAction} (ha : Alike a x) (hb : Alike b y) (h : Meet x y) : Meet a b := by
  unfold Meet at h ⊢
  rw [ha.artifactId, hb.artifactId] at h
  rcases h with h | h | h
  · exact .inl h
  · exact .inr (.inl (hb.sources.mem_iff.mpr h))
  · exact .inr (.inr (ha.sources.mem_iff.mpr h))

/-! ## Actions in another order -/

/-- The actions that meet come in the same order. -/
def InOrder (as bs : List ArtifactAction) : Prop := ∀ a ∈ as, ∀ b ∈ as, Meet a b →
  ([a.actionId, b.actionId].Sublist (as.map (·.actionId)) ↔ [a.actionId, b.actionId].Sublist (bs.map (·.actionId)))

/-- The same actions, each but for the order of its tuples, in another order. -/
def Listed (as bs : List ArtifactAction) : Prop := ∃ zs, zs.Perm bs ∧ List.Forall₂ Alike as zs

theorem runAll_alike (hartifacts : m.artifact = m'.artifact) (hworkspaces : m.workspace = m'.workspace) {as zs : List ArtifactAction}
    (h : List.Forall₂ Alike as zs)
    (hrun : runAll (act rt m c) cur as = .ok (facts, cur')) : runAll (act rt m' c) cur zs = .ok (facts, cur') := by
  induction h generalizing cur facts with
  | nil => exact hrun
  | cons hab _ ih =>
    obtain ⟨s1, fact, rest, hact, hrest, rfl⟩ := runAll_cons.mp hrun
    exact runAll_cons.mpr ⟨s1, fact, rest, act_alike hartifacts hworkspaces hab hact, ih hrest, rfl⟩

theorem pair_sublist_of_ids {x y : ArtifactAction} {bs : List ArtifactAction} (hn : (bs.map (·.actionId)).Nodup) (hx : x ∈ bs) (hy : y ∈ bs)
    (h : [x.actionId, y.actionId].Sublist (bs.map (·.actionId))) : [x, y].Sublist bs := by
  obtain ⟨l, hl, he⟩ := List.sublist_map_iff.mp h
  obtain ⟨x', l', rfl, hx', hrest⟩ := List.map_eq_cons_iff.mp he.symm
  obtain ⟨y', l'', rfl, hy', hnil⟩ := List.map_eq_cons_iff.mp hrest
  obtain rfl := List.map_eq_nil_iff.mp hnil
  obtain rfl := List.inj_on_of_nodup_map hn (hl.subset (by simp)) hx hx'
  obtain rfl := List.inj_on_of_nodup_map hn (hl.subset (by simp)) hy hy'
  exact hl

theorem actAll_alike (hartifacts : m.artifact = m'.artifact) (hworkspaces : m.workspace = m'.workspace) {as bs : List ArtifactAction}
    (hn : (as.map (·.actionId)).Nodup) (hlisted : Listed as bs) (horder : InOrder as bs)
    {results : Dict String} (h : actAll rt m c cur as = .ok (facts, results)) :
    ∃ facts', actAll rt m' c cur bs = .ok (facts', results) ∧ facts.Perm facts' := by
  obtain ⟨zs, hperm, halike⟩ := hlisted
  rw [actAll_eq] at h
  cases hrun : runAll (act rt m c) cur as with
  | error e =>
    rw [hrun] at h
    cases h
  | ok r =>
    rw [hrun] at h
    obtain ⟨rfl, rfl⟩ := Prod.mk.inj (Except.ok.inj h)
    have hids : as.map (·.actionId) = zs.map (·.actionId) := Checks.map_eq_of_forall₂ (fun a b hab => hab.actionId.symm) halike
    have hnz : (zs.map (·.actionId)).Nodup := hids ▸ hn
    have hnb : (bs.map (·.actionId)).Nodup := (hperm.map _).nodup_iff.mp hnz
    have hpairs : ∀ x y, [x, y].Sublist zs → ¬ Commutes (act rt m' c) x y → [x, y].Sublist bs := by
      intro x y hxy hno
      have hmeet : Meet x y := by
        by_contra hapart
        exact hno (commutes_of_apart hapart)
      have hx : x ∈ zs := hxy.subset (by simp)
      have hy : y ∈ zs := hxy.subset (by simp)
      obtain ⟨a, ha, hax⟩ := Checks.exists_of_forall₂ halike hx
      obtain ⟨b, hb, hby⟩ := Checks.exists_of_forall₂ halike hy
      have hsub := hxy.map (·.actionId)
      rw [← hids] at hsub
      have hsame := (horder a ha b hb (hax.meet hby hmeet)).mp (by simpa [hax.actionId, hby.actionId] using hsub)
      rw [← hax.actionId, ← hby.actionId] at hsame
      exact pair_sublist_of_ids hnb (hperm.mem_iff.mp hx) (hperm.mem_iff.mp hy) hsame
    obtain ⟨facts', hrun', hfacts⟩ := runAll_perm hperm hnz.of_map hpairs (runAll_alike hartifacts hworkspaces halike hrun)
    refine ⟨facts', ?_, hfacts⟩
    rw [actAll_eq, hrun']
    rfl

end Aegis.Agentic.ArtifactSecurity
