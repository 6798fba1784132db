/-
  Aegis.Agentic.ArtifactResults — what the digest of a manifest settles of its results.

  - `alike_of_canonical`: manifests of one canonical form list the same items, but for the letters
    of texts that look like digests, the order of the actions, and the order of the prefixes of a
    workspace.
  - `results_of_canonical`: where these are the same too, `derive` rejects both, or gives every
    action the same fact and leaves every artifact the same digest.
  - `results_not_pinned`: each of the three makes a difference.
-/

import Aegis.Agentic.ArtifactOrder
import Aegis.Agentic.CanonicalForm
import Aegis.Assurance.Regression

namespace Aegis.Agentic.ArtifactSecurity

open Data Evidence Checked Decision

variable {rt : Runtime} {p : AgentArtifactPolicy} {m m' : AgentArtifactManifest} {now : Int}

/-! ## Canonical forms -/

theorem ArtifactKind.value_injective : Function.Injective ArtifactKind.value := by
  let all : List ArtifactKind := [.source, .patch, .dependencyManifest, .lockfile, .buildConfig, .ciWorkflow, .startupHook, .archive,
    .executable, .modelArtifact, .document]
  have hall : ∀ kind, kind ∈ all := by
    intro kind
    cases kind <;> decide
  have hnodup : (all.map ArtifactKind.value).Nodup := by decide
  intro a b h
  exact List.inj_on_of_nodup_map hnodup (hall a) (hall b) h

theorem ArtifactOperation.value_injective : Function.Injective ArtifactOperation.value := by
  intro a b h
  cases a <;> cases b <;> first | rfl | simp [value] at h

theorem ArtifactTrust.value_injective : Function.Injective ArtifactTrust.value := by
  intro a b h
  cases a <;> cases b <;> first | rfl | simp [value] at h

theorem ArchiveMemberType.value_injective : Function.Injective ArchiveMemberType.value := by
  intro a b h
  cases a <;> cases b <;> first | rfl | simp [value] at h

/-- The texts of a manifest that look like digests are in small letters. -/
structure AgentArtifactManifest.InLetters (rt : Runtime) (m : AgentArtifactManifest) : Prop where
  header : ∀ s ∈ [m.graphId, m.version, m.p8cAssessmentEvidenceSha256, m.p8fAssessmentEvidenceSha256, m.p8hAssessmentEvidenceSha256,
    m.schemaVersion], Canonical.normText rt s = s
  workspaces : ∀ w ∈ m.workspaces, Decision.InLetters rt WorkspaceRoot.fields w
  artifacts : ∀ a ∈ m.artifacts, Decision.InLetters rt WorkspaceArtifact.fields a
  actions : ∀ a ∈ m.actions, Decision.InLetters rt (ArtifactAction.fields (normMembers rt)) a
  sources : ∀ a ∈ m.actions, ∀ s ∈ a.sourceArtifactIds, Canonical.normText rt s = s
  members : ∀ a ∈ m.actions, ∀ x ∈ a.archiveMembers, Decision.InLetters rt ArchiveMember.fields x

/-- A workspace lists its prefixes in the same order in both manifests. -/
def SamePrefixes (m m' : AgentArtifactManifest) : Prop := ∀ w ∈ m.workspaces, ∀ w' ∈ m'.workspaces, w.workspaceId = w'.workspaceId →
  w.allowedWritePrefixes = w'.allowedWritePrefixes ∧ w.allowedExecutePrefixes = w'.allowedExecutePrefixes ∧
    w.buildContextPrefixes = w'.buildContextPrefixes

theorem artifact_of_shown {a b : WorkspaceArtifact} (h : shown rt WorkspaceArtifact.fields a = shown rt WorkspaceArtifact.fields b) :
    a = b := by
  cases a
  cases b
  simpa [shown, WorkspaceArtifact.fields, Json.sorted, ArtifactKind.value_injective.eq_iff, ArtifactTrust.value_injective.eq_iff] using h

theorem workspace_of_shown {w w' : WorkspaceRoot} (h : shown rt WorkspaceRoot.fields w = shown rt WorkspaceRoot.fields w')
    (hsame : w.workspaceId = w'.workspaceId → w.allowedWritePrefixes = w'.allowedWritePrefixes ∧
      w.allowedExecutePrefixes = w'.allowedExecutePrefixes ∧ w.buildContextPrefixes = w'.buildContextPrefixes) : w = w' := by
  simp only [shown, WorkspaceRoot.fields, List.map_cons, List.map_nil, List.cons.injEq, Json.sorted, Json.str.injEq, and_true] at h
  obtain ⟨hid, htenant, hroot, -, -, -, howner, hdescription⟩ := h
  obtain ⟨hwrite, hexecute, hbuild⟩ := hsame hid
  cases w
  cases w'
  simp_all

theorem perm_of_writtenAll {xs ys : List String} (h : (writtenAll rt xs).sorted = (writtenAll rt ys).sorted)
    (hx : ∀ s ∈ xs, Canonical.normText rt s = s) (hy : ∀ s ∈ ys, Canonical.normText rt s = s) : xs.Perm ys := by
  unfold writtenAll at h
  rw [Json.sorted_arr_map, Json.sorted_arr_map] at h
  have hmaps : (sortOn id xs).map (Canonical.normText rt) = (sortOn id ys).map (Canonical.normText rt) := by
    have hstr : Function.Injective (List.map Json.str) := List.map_injective_iff.mpr fun _ _ => Json.str.inj
    refine hstr ?_
    simpa [List.map_map, Function.comp_def] using Json.arr_injective h
  have hid : ∀ {zs : List String}, (∀ s ∈ zs, Canonical.normText rt s = s) → (sortOn id zs).map (Canonical.normText rt) = sortOn id zs := by
    intro zs hz
    exact (List.map_congr_left fun s hs => hz s (mem_sortOn.mp hs)).trans (List.map_id _)
  have hsorted : sortOn id xs = sortOn id ys := (hid hx).symm.trans (hmaps.trans (hid hy))
  exact (perm_sortOn id xs).symm.trans ((List.Perm.of_eq hsorted).trans (perm_sortOn id ys))

/-- A member as the canonical form of its action shows it, which sorts its fields twice. -/
theorem member_of_sorted {x y : ArchiveMember}
    (h : (Json.obj (ArchiveMember.fields .str (writtenAll rt) x)).sorted.sorted = (Json.obj (ArchiveMember.fields .str (writtenAll rt) y)).sorted.sorted) :
    x = y := by
  have hvalues : ∀ (j : Json) (name : String), j.sorted.sorted.get? name = (j.get? name).map fun v => v.sorted.sorted := by
    intro j name
    rw [Json.get?_sorted, Json.get?_sorted, Option.map_map]
    rfl
  have hlist := Json.values_inj (f := fun j => j.sorted.sorted) (g := fun v => v.sorted.sorted) hvalues (by rfl)
    (by simp [ArchiveMember.fields]) h
  simp only [ArchiveMember.fields, List.map_cons, List.map_nil, List.cons.injEq, Json.sorted, Json.str.injEq, Json.int.injEq,
    sorted_opt_str, opt_str_inj, and_true, ArchiveMemberType.value_injective.eq_iff] at hlist
  obtain ⟨hpath, htype, hsize, htarget⟩ := hlist
  cases x
  cases y
  subst hpath htype hsize htarget
  rfl

theorem perm_of_normMembers {xs ys : List ArchiveMember} (h : (normMembers rt xs).sorted = (normMembers rt ys).sorted)
    (hx : ∀ x ∈ xs, Decision.InLetters rt ArchiveMember.fields x) (hy : ∀ y ∈ ys, Decision.InLetters rt ArchiveMember.fields y) :
    xs.Perm ys := by
  unfold normMembers normTuple at h
  rw [Json.sorted_arr, Json.sorted_arr, List.map_map, List.map_map] at h
  have hmaps := Json.arr_injective h
  have hperm := ((perm_sortOn _ xs).map _).symm.trans ((List.Perm.of_eq hmaps).trans ((perm_sortOn _ ys).map _))
  refine perm_of_paired (R := Eq) (forall₂_of_map hperm fun x hxin y hyin he => @member_of_sorted rt x y ?_) fun _ _ _ _ he => he
  rw [← hx x hxin (writtenAll rt), ← hy y hyin (writtenAll rt)]
  exact he

/-- The values of an action, as its canonical form shows them. -/
theorem normActions_eq (as : List ArtifactAction) : ∃ key : ArtifactAction → String, normActions rt as =
    .arr ((sortOn key as).map fun a => (Json.obj (a.fields (normMembers rt) (written rt) (writtenAll rt))).sorted) := ⟨_, rfl⟩

variable {a b : ArtifactAction} {as bs : List ArtifactAction}

theorem alike_of_shown
    (h : (a.fields (normMembers rt) .str (writtenAll rt)).map (·.2.sorted) = (b.fields (normMembers rt) .str (writtenAll rt)).map (·.2.sorted))
    (hsources : (writtenAll rt a.sourceArtifactIds).sorted = (writtenAll rt b.sourceArtifactIds).sorted → a.sourceArtifactIds.Perm b.sourceArtifactIds)
    (hmembers : (normMembers rt a.archiveMembers).sorted = (normMembers rt b.archiveMembers).sorted → a.archiveMembers.Perm b.archiveMembers) :
    Alike a b := by
  simp only [ArtifactAction.fields, List.map_cons, List.map_nil, List.cons.injEq, Json.sorted, Json.str.injEq, Json.int.injEq, Json.bool.injEq,
    sorted_opt_str, opt_str_inj, and_true, ArtifactOperation.value_injective.eq_iff, ArtifactKind.value_injective.eq_iff,
    ArtifactTrust.value_injective.eq_iff] at h
  obtain ⟨hid, hartifact, hoperation, hactor, hprincipal, htenant, hstep, happroval, htransition, hmessage, htarget, hbase, hproposed, hs,
    hrequest, hpatch, hkind, htrust, hexecutable, hsymlink, hhardlink, hm, hissued, howner, hdescription⟩ := h
  refine ⟨?_, hsources hs, hmembers hm⟩
  clear hsources hmembers hs hm
  cases a
  cases b
  subst hid hartifact hoperation hactor hprincipal htenant hstep happroval htransition hmessage htarget hbase hproposed hrequest hpatch hkind
    htrust hexecutable hsymlink hhardlink hissued howner hdescription
  rfl

theorem listed_of_normActions (hcanonical : normActions rt m.actions = normActions rt m'.actions) (hm : m.InLetters rt) (hm' : m'.InLetters rt) :
    Listed m.actions m'.actions := by
  obtain ⟨key, hkey⟩ := @normActions_eq rt m.actions
  obtain ⟨key', hkey'⟩ := @normActions_eq rt m'.actions
  have hmaps := Json.arr_injective (hkey.symm.trans (hcanonical.trans hkey'))
  have hperm := ((perm_sortOn key m.actions).map _).symm.trans ((List.Perm.of_eq hmaps).trans ((perm_sortOn key' m'.actions).map _))
  refine forall₂_of_map hperm fun a ha b hb he => ?_
  rw [hm.actions a ha (writtenAll rt), hm'.actions b hb (writtenAll rt)] at he
  refine alike_of_shown (Json.sorted_inj (by rfl) (by simp [ArtifactAction.fields]) he) (fun hs => ?_) (fun hs => ?_)
  · exact perm_of_writtenAll hs (hm.sources a ha) (hm'.sources b hb)
  · exact perm_of_normMembers hs (hm.members a ha) (hm'.members b hb)

/-! ## Manifests of one canonical form -/

/-- What two manifests of one canonical form share. -/
structure SameManifest (rt : Runtime) (m m' : AgentArtifactManifest) : Prop where
  graphId : m.graphId = m'.graphId
  version : m.version = m'.version
  p8c : m.p8cAssessmentEvidenceSha256 = m'.p8cAssessmentEvidenceSha256
  p8f : m.p8fAssessmentEvidenceSha256 = m'.p8fAssessmentEvidenceSha256
  p8h : m.p8hAssessmentEvidenceSha256 = m'.p8hAssessmentEvidenceSha256
  createdAtEpoch : m.createdAtEpoch = m'.createdAtEpoch
  schemaVersion : m.schemaVersion = m'.schemaVersion
  workspaces : m.workspaces.Perm m'.workspaces
  artifacts : m.artifacts.Perm m'.artifacts
  actions : Listed m.actions m'.actions
  canonical : m.canonical rt = m'.canonical rt

theorem alike_of_canonical (h : m.canonical rt = m'.canonical rt) (hm : m.InLetters rt) (hm' : m'.InLetters rt) (hprefixes : SamePrefixes m m') :
    SameManifest rt m m' := by
  have hcanonical := h
  simp only [AgentArtifactManifest.canonical, Json.obj_cons, Json.field.injEq, true_and, normText, Json.str.injEq, Json.int.injEq] at h
  obtain ⟨hactions, hartifacts, hcreated, hgraph, hp8c, hp8f, hp8h, hschema, hversion, hworkspaces, -⟩ := h
  have hplain : ∀ {s s' : String}, Canonical.normText rt s = Canonical.normText rt s' →
      s ∈ [m.graphId, m.version, m.p8cAssessmentEvidenceSha256, m.p8fAssessmentEvidenceSha256, m.p8hAssessmentEvidenceSha256,
        m.schemaVersion] → s' ∈ [m'.graphId, m'.version, m'.p8cAssessmentEvidenceSha256, m'.p8fAssessmentEvidenceSha256,
        m'.p8hAssessmentEvidenceSha256, m'.schemaVersion] → s = s' := by
    intro s s' he hs hs'
    rw [hm.header s hs, hm'.header s' hs'] at he
    exact he
  constructor
  · exact hplain hgraph (by simp) (by simp)
  · exact hplain hversion (by simp) (by simp)
  · exact hplain hp8c (by simp) (by simp)
  · exact hplain hp8f (by simp) (by simp)
  · exact hplain hp8h (by simp) (by simp)
  · exact hcreated
  · exact hplain hschema (by simp) (by simp)
  · refine perm_of_paired (paired_of_normTuple hworkspaces hm.workspaces hm'.workspaces (fun _ _ => rfl) fun _ => ?_) ?_
    · simp [WorkspaceRoot.fields]
    · intro w hw w' hw' he
      exact workspace_of_shown he (hprefixes w hw w' hw')
  · refine perm_of_paired (paired_of_normTuple hartifacts hm.artifacts hm'.artifacts (fun _ _ => rfl) fun _ => ?_) ?_
    · simp [WorkspaceArtifact.fields]
    · intro a _ b _ he
      exact artifact_of_shown he
  · exact listed_of_normActions hactions hm hm'
  · exact hcanonical

theorem Alike.symm (h : Alike a b) : Alike b a := by
  refine ⟨?_, h.sources.symm, h.members.symm⟩
  rw [h.same]

theorem Listed.symm (h : Listed as bs) : Listed bs as := by
  obtain ⟨zs, hperm, hzs⟩ := h
  have hback : List.Forall₂ Alike zs as := by
    induction hzs generalizing bs with
    | nil => exact .nil
    | cons hab _ ih => exact .cons hab.symm (ih (.refl _))
  obtain ⟨ys, hys, hpermys⟩ := List.perm_comp_forall₂ hperm.symm hback
  exact ⟨ys, hpermys, hys⟩

theorem SameManifest.symm (h : SameManifest rt m m') : SameManifest rt m' m :=
  ⟨h.graphId.symm, h.version.symm, h.p8c.symm, h.p8f.symm, h.p8h.symm, h.createdAtEpoch.symm, h.schemaVersion.symm, h.workspaces.symm,
    h.artifacts.symm, h.actions.symm, h.canonical.symm⟩

/-- The actions of one manifest, each with its own in the other. -/
theorem Listed.exists (h : Listed as bs) (hb : b ∈ bs) : ∃ a ∈ as, Alike a b := by
  obtain ⟨zs, hperm, hzs⟩ := h
  exact Checks.exists_of_forall₂ hzs (hperm.mem_iff.mpr hb)

theorem Listed.ids (h : Listed as bs) : (as.map (·.actionId)).Perm (bs.map (·.actionId)) := by
  obtain ⟨zs, hperm, hzs⟩ := h
  have hids : as.map (·.actionId) = zs.map (·.actionId) := Checks.map_eq_of_forall₂ (fun a b hab => hab.actionId.symm) hzs
  exact hids ▸ hperm.map _

theorem InOrder.symm (hlisted : Listed as bs) (h : InOrder as bs) : InOrder bs as := by
  intro x hx y hy hmeet
  obtain ⟨a, ha, hax⟩ := hlisted.exists hx
  obtain ⟨b, hb, hby⟩ := hlisted.exists hy
  rw [hax.actionId, hby.actionId]
  exact (h a ha b hb (hax.meet hby hmeet)).symm

theorem ofItems_perm {α : Type} {key : α → String} {xs ys : List α} (h : xs.Perm ys) (hn : (xs.map key).Nodup) :
    Dict.ofItems key xs = Dict.ofItems key ys := by
  funext k
  exact find?_perm h hn k

theorem sameSet_perm {xs ys ids : List String} (h : xs.Perm ys) : sameSet xs ids ↔ sameSet ys ids := by
  unfold sameSet
  simp only [h.mem_iff]

theorem validateAction_alike {artifacts : Dict WorkspaceArtifact} (hab : Alike a b)
    (h : validateAction rt p artifacts now a = .ok ()) : validateAction rt p artifacts now b = .ok () := by
  rw [hab.same]
  simp only [validateAction, bind_ok, rejectIf_ok, forEach_ok, exists_const] at h ⊢
  obtain ⟨howner, href, hdigest, hskew, hsources, hkind, hmembers⟩ := h
  refine ⟨howner, href, hdigest, hskew, ?_, hkind, ?_⟩
  · rintro ⟨source, hin, hmissing⟩
    exact hsources ⟨source, hab.sources.mem_iff.mpr hin, hmissing⟩
  · intro x hx
    exact hmembers x (hab.members.mem_iff.mpr hx)

/-- The checks of `_validate_manifest` that a manifest passes. -/
theorem validateManifest_unique (h : validateManifest rt p m now = .ok ()) : (m.workspaces.map (·.workspaceId)).Nodup ∧
    (m.artifacts.map (·.artifactId)).Nodup ∧ (m.actions.map (·.actionId)).Nodup := by
  simp only [validateManifest, bind_ok, rejectIf_ok, unique_ok, exists_const] at h
  obtain ⟨-, -, -, hworkspaces, hartifacts, hactions, -⟩ := h
  exact ⟨hworkspaces, hartifacts, hactions⟩

theorem SameManifest.workspace (h : SameManifest rt m m') (hn : (m.workspaces.map (·.workspaceId)).Nodup) : m.workspace = m'.workspace :=
  ofItems_perm h.workspaces hn

theorem SameManifest.artifact (h : SameManifest rt m m') (hn : (m.artifacts.map (·.artifactId)).Nodup) : m.artifact = m'.artifact :=
  ofItems_perm h.artifacts hn

theorem validateManifest_same (hs : SameManifest rt m m') (h : validateManifest rt p m now = .ok ()) : validateManifest rt p m' now = .ok () := by
  obtain ⟨hnw, hna, hnx⟩ := validateManifest_unique h
  have hartifact := hs.artifact hna
  have hworkspace := hs.workspace hnw
  have hids := hs.actions.ids
  simp only [validateManifest, bind_ok, rejectIf_ok, unique_ok, forEach_ok, exists_const] at h ⊢
  obtain ⟨hidentity, hdigest, hfresh, -, -, -, hcoverage, hworkspaces, hartifacts, hactions⟩ := h
  refine ⟨?_, ?_, ?_, ?_, ?_, ?_, ?_, ?_, ?_, ?_⟩
  · rw [← hs.schemaVersion, ← hs.graphId, ← hs.version]
    exact hidentity
  · rw [AgentArtifactManifest.digest, ← hs.canonical]
    exact hdigest
  · rw [← hs.createdAtEpoch]
    exact hfresh
  · exact (hs.workspaces.map _).nodup_iff.mp hnw
  · exact (hs.artifacts.map _).nodup_iff.mp hna
  · exact hids.nodup_iff.mp hnx
  · rw [← sameSet_perm (hs.workspaces.map _), ← sameSet_perm (hs.artifacts.map _), ← sameSet_perm hids]
    exact hcoverage
  · intro w hw
    exact hworkspaces w (hs.workspaces.mem_iff.mpr hw)
  · intro a ha
    rw [← hworkspace]
    exact hartifacts a (hs.artifacts.mem_iff.mpr ha)
  · intro b hb
    obtain ⟨a, ha, hab⟩ := hs.actions.exists hb
    rw [← hartifact]
    exact validateAction_alike hab (hactions a ha)

variable {p8c p8f p8h : Json}

theorem derive_ok {analyzer : AgentArtifactWorkspaceSecurityAnalyzer} {r : List ArtifactActionFact × Dict String} :
    analyzer.derive rt m p8c p8f p8h now = .ok r ↔ validatePolicy rt analyzer.policy = .ok () ∧
      validateUpstreams rt analyzer.policy m p8c p8f p8h = .ok () ∧ validateManifest rt analyzer.policy m now = .ok () ∧
      actAll rt m (upstreamsOf rt analyzer.policy p8c p8f p8h) (initial rt m) m.actions = .ok r := by
  simp only [AgentArtifactWorkspaceSecurityAnalyzer.derive, bind_ok]
  constructor
  · intro h
    obtain ⟨_, hpolicy, _, hupstreams, _, hmanifest, hact⟩ := h
    exact ⟨hpolicy, hupstreams, hmanifest, hact⟩
  · intro h
    exact ⟨(), h.1, (), h.2.1, (), h.2.2.1, h.2.2.2⟩

theorem derive_same {analyzer : AgentArtifactWorkspaceSecurityAnalyzer} (hs : SameManifest rt m m') (horder : InOrder m.actions m'.actions)
    {facts : List ArtifactActionFact} {results : Dict String} (h : analyzer.derive rt m p8c p8f p8h now = .ok (facts, results)) :
    ∃ facts', analyzer.derive rt m' p8c p8f p8h now = .ok (facts', results) ∧ facts.Perm facts' := by
  obtain ⟨hpolicy, hupstreams, hmanifest, hact⟩ := derive_ok.mp h
  obtain ⟨hnw, hna, hnx⟩ := validateManifest_unique hmanifest
  have hartifact := hs.artifact hna
  obtain ⟨facts', hact', hperm⟩ := actAll_alike hartifact (hs.workspace hnw) hnx hs.actions horder hact
  have hinitial : initial rt m = initial rt m' := by
    unfold initial
    rw [hartifact]
  have hupstreams' : validateUpstreams rt analyzer.policy m' p8c p8f p8h = .ok () := by
    unfold validateUpstreams at hupstreams ⊢
    rw [← hs.p8c, ← hs.p8f, ← hs.p8h]
    exact hupstreams
  exact ⟨facts', derive_ok.mpr ⟨hpolicy, hupstreams', validateManifest_same hs hmanifest, hinitial ▸ hact'⟩, hperm⟩

/-- Both are rejected, or both give every action the same fact and leave every artifact the same digest. -/
def SameResults (x y : Check (List ArtifactActionFact × Dict String)) : Prop :=
  (∃ facts facts' results, x = .ok (facts, results) ∧ y = .ok (facts', results) ∧ facts.Perm facts') ∨
    ((∃ e, x = .error e) ∧ ∃ e, y = .error e)

/-- Manifests of one digest have the same results where what the digest forgets is the same too: the letters of texts that look like
    digests, the order of the prefixes of a workspace, and the order of the actions that meet. -/
theorem results_of_canonical {analyzer : AgentArtifactWorkspaceSecurityAnalyzer} (hsha : Function.Injective rt.sha256)
    (hdigest : m.digest rt = m'.digest rt) (hm : m.InLetters rt) (hm' : m'.InLetters rt) (hprefixes : SamePrefixes m m')
    (horder : InOrder m.actions m'.actions) :
    SameResults (analyzer.derive rt m p8c p8f p8h now) (analyzer.derive rt m' p8c p8f p8h now) := by
  have hs := alike_of_canonical (hsha hdigest) hm hm' hprefixes
  cases h : analyzer.derive rt m p8c p8f p8h now with
  | ok r =>
    obtain ⟨facts', h', hperm⟩ := derive_same hs horder h
    exact .inl ⟨r.1, facts', r.2, rfl, h', hperm⟩
  | error e =>
    cases h' : analyzer.derive rt m' p8c p8f p8h now with
    | ok r =>
      obtain ⟨facts, hback, -⟩ := derive_same hs.symm (horder.symm hs.actions) h'
      rw [h] at hback
      cases hback
    | error e' => exact .inr ⟨⟨e, rfl⟩, e', rfl⟩

theorem canonical_congr {rt' : Runtime} (hcase : rt.casefold = rt'.casefold) (hstr : rt.str = rt'.str) : m.canonical rt = m.canonical rt' := by
  have hnorm : Canonical.normText rt = Canonical.normText rt' := by
    funext s
    unfold Canonical.normText
    rw [hcase]
  have htext : normText rt = normText rt' := by
    funext s
    simp only [normText, hnorm]
  have hmembers : normMembers rt = normMembers rt' := by
    funext ms
    simp only [normMembers, normTuple, hnorm, hstr]
  simp only [AgentArtifactManifest.canonical, normActions, normTuple, htext, hnorm, hmembers, hstr]

theorem normActions_perm (h : as.Perm bs) (hn : (as.map (·.actionId)).Nodup) :
    normActions rt as = normActions rt bs := by
  unfold normActions
  dsimp only
  rw [sortOn_perm h]
  intro a ha b hb he
  have hfields := rt.str_injective he
  simp only [ArtifactAction.fields, Json.obj_cons, Json.field.injEq, Json.str.injEq] at hfields
  exact List.inj_on_of_nodup_map hn ha hb hfields.2.1

theorem digest_of_canonical {document : Json} (h : m.canonical rt = document) : m.digest rt = rt.sha256 document := congrArg rt.sha256 h

/-! ## A document that two actions change -/

namespace Sample

def capital : String := hex 'A'

/-- Texts in small letters, but for one, and one manifest whose digest looks like that of SHA-256. -/
def runtime (document : Json) : Runtime :=
  { Runtime.folded (hex '0') hex_not_blank with
    sha256 := Assurance.tabledDigest [document]
    sha256_not_blank := Assurance.tabledDigest_one_not_blank document
    casefold := fun s => if s = capital then hex 'a' else s }

theorem injective (document : Json) : Function.Injective (runtime document).sha256 := Assurance.tabledDigest_injective [document]

def evidence : Json := .obj [("assessment_evidence_sha256", .str (hex '0')), ("exact_goal_plan_graph_binding_verified", .bool true),
  ("caller_declared_goal_safety_trusted", .bool false), ("exact_human_approval_graph_binding_verified", .bool true),
  ("caller_declared_approval_safety_trusted", .bool false), ("exact_state_transition_graph_binding_verified", .bool true),
  ("caller_declared_state_safety_trusted", .bool false),
  ("steps", .arr [.obj [("step_id", .str (hex 'a')), ("decision", .str "allow"), ("agent_id", .str "bot")]])]

def workspace (prefixes : List String) : WorkspaceRoot := ⟨"repo", "acme", "/repo", prefixes, [], [], "owner", ""⟩

def pathOf (artifactId : String) : String := if artifactId = "plan" then "docs/plan" else "docs/note"

def artifact (artifactId : String) : WorkspaceArtifact :=
  ⟨artifactId, "repo", "acme", pathOf artifactId, .document, .verified, hex '1', false, none, none, "owner", ""⟩

def change (actionId artifactId step : String) (base next : Char) : ArtifactAction :=
  ⟨actionId, artifactId, .modify, "bot", "pat", "acme", step, none, none, "message", pathOf artifactId, hex base, hex next, [], hex '1',
    hex '1', .document, .verified, false, none, none, [], 10, "owner", ""⟩

def manifest (prefixes : List String) (actions : List ArtifactAction) : AgentArtifactManifest :=
  ⟨"graph", "1", hex '0', hex '0', hex '0', 10, [workspace prefixes], [artifact "plan", artifact "note"], actions, artifactSchemaVersion⟩

/-- The prefixes of the workspace are pinned in this order. -/
def pinned : List String := ["docs", "src"]

def analyzer (actionIds : List String) : AgentArtifactWorkspaceSecurityAnalyzer where
  policy := {
    expectedGraphId := "graph", expectedGraphVersion := "1", expectedGraphSha256 := hex '0'
    expectedP8cAssessmentEvidenceSha256 := hex '0', expectedP8fAssessmentEvidenceSha256 := hex '0'
    expectedP8hAssessmentEvidenceSha256 := hex '0', requiredWorkspaceIds := ["repo"], requiredArtifactIds := ["plan", "note"]
    requiredActionIds := actionIds, trustedOwnerIds := ["owner"]
    expectedWorkspaceProfiles := [("repo", (workspace pinned).profile)]
    expectedArtifactProfiles := [("plan", (artifact "plan").profile (.folded (hex '0') hex_not_blank)),
      ("note", (artifact "note").profile (.folded (hex '0') hex_not_blank))]
    allowedOperationsByKind := [(.document, [.modify])], allowedKindsByWorkspace := [("repo", [.document])], approvalRequiredKinds := []
    controlPathPrefixes := [], dependencyPathPrefixes := [], stateRequiredOperations := [], provenanceRequiredOperations := []
    maxArchiveMembers := 1, maxArchiveTotalBytes := 1, maxManifestAgeSeconds := 100, maxFutureSkewSeconds := 0 }

variable {document : Json} {prefixes : List String} {actions : List ArtifactAction} {actionIds : List String}

theorem manifest_digest (hdocument : document = (manifest prefixes actions).canonical (runtime .null)) :
    (manifest prefixes actions).digest (runtime document) = hex '0' := by
  have hsame : (manifest prefixes actions).canonical (runtime document) = (manifest prefixes actions).canonical (runtime .null) :=
    canonical_congr rfl rfl
  have htabled : Assurance.tabledDigest [document] document = hex '0' := by
    simp [Assurance.tabledDigest]
  exact (digest_of_canonical (hsame.trans hdocument.symm)).trans htabled

/-- What is decided of the actions. -/
def decisions (document : Json) (actionIds : List String) (actions : List ArtifactAction) : Option (List ArtifactDecision) :=
  ((analyzer actionIds).derive (runtime document) (manifest pinned actions) evidence evidence evidence 15).toOption.map
    fun r => r.1.map (·.decision)

theorem unlike_of_decisions {x y : Check (List ArtifactActionFact × Dict String)} {facts facts' : List ArtifactActionFact} {results results' : Dict String}
    (hx : x = .ok (facts, results)) (hy : y = .ok (facts', results'))
    (h : ¬ (facts.map (·.decision)).Perm (facts'.map (·.decision))) : ¬ SameResults x y := by
  intro hsame
  rcases hsame with ⟨_, _, _, hx', hy', hperm⟩ | ⟨⟨e, he⟩, -⟩
  · obtain ⟨rfl, -⟩ := Prod.mk.inj (Except.ok.inj (hx.symm.trans hx'))
    obtain ⟨rfl, -⟩ := Prod.mk.inj (Except.ok.inj (hy.symm.trans hy'))
    exact h (hperm.map _)
  · rw [hx] at he
    cases he

def first (step : String) : ArtifactAction := change "first" "plan" step '1' '2'

def second : ArtifactAction := change "second" "plan" (hex 'a') '2' '3'

def chain : Json := (manifest pinned [first (hex 'a'), second]).canonical (runtime .null)

def empty : Json := (manifest pinned []).canonical (runtime .null)

def lettered : Json := (manifest pinned [first (hex 'a')]).canonical (runtime .null)

theorem canonical_swapped : (manifest pinned [second, first (hex 'a')]).canonical (runtime .null) = chain := by
  unfold chain
  simp only [AgentArtifactManifest.canonical, manifest]
  rw [normActions_perm (List.Perm.swap (first (hex 'a')) second []) (by decide)]

theorem canonical_prefixes : (manifest ["src", "docs"] []).canonical (runtime .null) = empty := by
  have hsorted : sortOn id ["src", "docs"] = sortOn id ["docs", "src"] := sortOn_perm (List.Perm.swap "docs" "src" []) fun _ _ _ _ he => he
  have hrecord : (Json.obj ((workspace ["src", "docs"]).fields (written (runtime .null)) (writtenAll (runtime .null)))).sorted =
      (Json.obj ((workspace pinned).fields (written (runtime .null)) (writtenAll (runtime .null)))).sorted := by
    simp only [WorkspaceRoot.fields, workspace, pinned, writtenAll, hsorted]
  have hworkspaces : normTuple (runtime .null) (fun text texts w => .obj (WorkspaceRoot.fields text texts w)) [workspace ["src", "docs"]] =
      normTuple (runtime .null) (fun text texts w => .obj (WorkspaceRoot.fields text texts w)) [workspace pinned] :=
    congrArg (fun record => Json.arr [record]) hrecord
  unfold empty
  simp only [AgentArtifactManifest.canonical, manifest]
  rw [hworkspaces]

theorem normText_digit {c : Char} (hc : c ∈ "0123456789abcdefABCDEF".toList) (h : c ≠ 'A') :
    Canonical.normText (runtime document) (hex c) = hex c :=
  (Decision.normText_digestLike (Decision.digestLike_hex hc)).trans (if_neg fun he => h (Assurance.hex_inj.mp he))

theorem normText_capital : Canonical.normText (runtime document) capital = Canonical.normText (runtime document) (hex 'a') := by
  rw [normText_digit (by decide) (by decide)]
  have hlarge : (runtime document).casefold capital = hex 'a' := by
    show (if capital = capital then hex 'a' else capital) = hex 'a'
    rw [if_pos rfl]
  exact (Decision.normText_digestLike (Decision.digestLike_hex (by decide))).trans hlarge

theorem canonical_capital : (manifest pinned [first capital]).canonical (runtime .null) = lettered := by
  have hrecord : (Json.obj ((first capital).fields (normMembers (runtime .null)) (normText (runtime .null)) (writtenAll (runtime .null)))).sorted =
      (Json.obj ((first (hex 'a')).fields (normMembers (runtime .null)) (normText (runtime .null)) (writtenAll (runtime .null)))).sorted := by
    simp only [ArtifactAction.fields, first, change, normText, normText_capital]
  have hactions : normActions (runtime .null) [first capital] = normActions (runtime .null) [first (hex 'a')] :=
    congrArg (fun record => Json.arr [record]) hrecord
  unfold lettered
  simp only [AgentArtifactManifest.canonical, manifest]
  rw [hactions]

theorem chain_allowed : decisions chain ["first", "second"] [first (hex 'a'), second] = some [.allow, .allow] := by
  have hdigest : (manifest pinned [first (hex 'a'), second]).digest (runtime chain) = hex '0' := manifest_digest rfl
  simp only [decisions, AgentArtifactWorkspaceSecurityAnalyzer.derive, validateManifest, hdigest]
  decide +kernel

/-- A digest does not settle the results: the order of the actions, the order of the prefixes, the letters of a name. -/
theorem results_not_pinned :
    (∃ document actionIds m m', Function.Injective (runtime document).sha256 ∧ m.digest (runtime document) = m'.digest (runtime document) ∧
      m.actions = m'.actions.reverse ∧ ¬ SameResults ((analyzer actionIds).derive (runtime document) m evidence evidence evidence 15)
        ((analyzer actionIds).derive (runtime document) m' evidence evidence evidence 15)) ∧
    (∃ document actionIds m m', Function.Injective (runtime document).sha256 ∧ m.digest (runtime document) = m'.digest (runtime document) ∧
      m.actions = m'.actions ∧ ¬ SameResults ((analyzer actionIds).derive (runtime document) m evidence evidence evidence 15)
        ((analyzer actionIds).derive (runtime document) m' evidence evidence evidence 15)) ∧
    ∃ document actionIds m m', Function.Injective (runtime document).sha256 ∧ m.digest (runtime document) = m'.digest (runtime document) ∧
      m.actions.map (·.actionId) = m'.actions.map (·.actionId) ∧
      ¬ SameResults ((analyzer actionIds).derive (runtime document) m evidence evidence evidence 15)
        ((analyzer actionIds).derive (runtime document) m' evidence evidence evidence 15) := by
  refine ⟨?_, ?_, ?_⟩
  · have hdigest : (manifest pinned [first (hex 'a'), second]).digest (runtime chain) = hex '0' := manifest_digest rfl
    have hdigest' : (manifest pinned [second, first (hex 'a')]).digest (runtime chain) = hex '0' := manifest_digest canonical_swapped.symm
    have hother : decisions chain ["first", "second"] [second, first (hex 'a')] = some [.deny, .allow] := by
      simp only [decisions, AgentArtifactWorkspaceSecurityAnalyzer.derive, validateManifest, hdigest']
      decide +kernel
    obtain ⟨r, h, hfacts⟩ := Checks.ok_of_map chain_allowed
    obtain ⟨r', h', hfacts'⟩ := Checks.ok_of_map hother
    refine ⟨chain, ["first", "second"], _, _, injective chain, hdigest.trans hdigest'.symm, rfl, unlike_of_decisions h h' ?_⟩
    rw [hfacts, hfacts']
    decide
  · have hdigest : (manifest pinned []).digest (runtime empty) = hex '0' := manifest_digest rfl
    have hnone : decisions empty [] [] = some [] := by
      simp only [decisions, AgentArtifactWorkspaceSecurityAnalyzer.derive, validateManifest, hdigest]
      decide +kernel
    obtain ⟨r, h, -⟩ := Checks.ok_of_map hnone
    refine ⟨empty, [], manifest pinned [], manifest ["src", "docs"] [], injective empty, ?_, rfl, ?_⟩
    · exact hdigest.trans (manifest_digest canonical_prefixes.symm).symm
    · intro hsame
      rcases hsame with ⟨_, _, _, -, hok, -⟩ | ⟨⟨e, he⟩, -⟩
      · obtain ⟨-, -, hmanifest, -⟩ := derive_ok.mp hok
        simp only [validateManifest, bind_ok, rejectIf_ok, unique_ok, forEach_ok, exists_const] at hmanifest
        obtain ⟨-, -, -, -, -, -, -, hworkspaces, -⟩ := hmanifest
        have hworkspace := hworkspaces (workspace ["src", "docs"]) (by simp [manifest])
        simp only [validateWorkspace, bind_ok, rejectIf_ok, exists_const] at hworkspace
        obtain ⟨-, -, hprofile, -⟩ := hworkspace
        exact hprofile (by decide)
      · rw [h] at he
        cases he
  · have hdigest : (manifest pinned [first (hex 'a')]).digest (runtime lettered) = hex '0' := manifest_digest rfl
    have hdigest' : (manifest pinned [first capital]).digest (runtime lettered) = hex '0' := manifest_digest canonical_capital.symm
    have hsmall : decisions lettered ["first"] [first (hex 'a')] = some [.allow] := by
      simp only [decisions, AgentArtifactWorkspaceSecurityAnalyzer.derive, validateManifest, hdigest]
      decide +kernel
    have hlarge : decisions lettered ["first"] [first capital] = some [.deny] := by
      simp only [decisions, AgentArtifactWorkspaceSecurityAnalyzer.derive, validateManifest, hdigest']
      decide +kernel
    obtain ⟨r, h, hfacts⟩ := Checks.ok_of_map hsmall
    obtain ⟨r', h', hfacts'⟩ := Checks.ok_of_map hlarge
    refine ⟨lettered, ["first"], manifest pinned [first (hex 'a')], manifest pinned [first capital], injective lettered, hdigest.trans hdigest'.symm,
      rfl, unlike_of_decisions h h' ?_⟩
    rw [hfacts, hfacts']
    decide

def other : ArtifactAction := change "other" "note" (hex 'a') '1' '3'

def apart : Json := (manifest pinned [first (hex 'a'), other]).canonical (runtime .null)

theorem letters_valid (h : ∀ a ∈ actions, a = first (hex 'a') ∨ a = other) :
    (manifest pinned actions).InLetters (runtime document) := by
  have hzero : Canonical.normText (runtime document) (hex '0') = hex '0' := normText_digit (by decide) (by decide)
  have hone : Canonical.normText (runtime document) (hex '1') = hex '1' := normText_digit (by decide) (by decide)
  have htwo : Canonical.normText (runtime document) (hex '2') = hex '2' := normText_digit (by decide) (by decide)
  have hthree : Canonical.normText (runtime document) (hex '3') = hex '3' := normText_digit (by decide) (by decide)
  have hstep : Canonical.normText (runtime document) (hex 'a') = hex 'a' := normText_digit (by decide) (by decide)
  refine ⟨?_, ?_, ?_, ?_, ?_, ?_⟩
  · intro s hs
    simp only [manifest, List.mem_cons, List.not_mem_nil, or_false] at hs
    rcases hs with rfl | rfl | rfl | rfl | rfl | rfl
    · exact Decision.normText_short (by decide)
    · exact Decision.normText_short (by decide)
    · exact hzero
    · exact hzero
    · exact hzero
    · exact Decision.normText_short (by decide)
  · intro w hw texts
    rw [List.mem_singleton.mp hw]
    simp (disch := decide) [WorkspaceRoot.fields, workspace, written, Decision.normText_short]
  · intro a ha texts
    have hin : a = artifact "plan" ∨ a = artifact "note" := by simpa [manifest] using ha
    rcases hin with rfl | rfl
    · simp (disch := decide) [WorkspaceArtifact.fields, artifact, pathOf, written, Decision.normText_short, ArtifactKind.value, ArtifactTrust.value, hone, Json.opt]
    · simp (disch := decide) [WorkspaceArtifact.fields, artifact, pathOf, written, Decision.normText_short, ArtifactKind.value, ArtifactTrust.value, hone, Json.opt]
  · intro a ha texts
    rcases h a ha with rfl | rfl
    · simp (disch := decide) [ArtifactAction.fields, first, change, pathOf, written, Decision.normText_short, ArtifactKind.value, ArtifactTrust.value,
        ArtifactOperation.value, hone, htwo, hstep, Json.opt]
    · simp (disch := decide) [ArtifactAction.fields, other, change, pathOf, written, Decision.normText_short, ArtifactKind.value, ArtifactTrust.value,
        ArtifactOperation.value, hone, hthree, hstep, Json.opt]
  · intro a ha s hs
    rcases h a ha with rfl | rfl
    · cases hs
    · cases hs
  · intro a ha x hx
    rcases h a ha with rfl | rfl
    · cases hx
    · cases hx

theorem canonical_apart : (manifest pinned [other, first (hex 'a')]).canonical (runtime .null) = apart := by
  unfold apart
  simp only [AgentArtifactManifest.canonical, manifest]
  rw [normActions_perm (List.Perm.swap (first (hex 'a')) other []) (by decide)]

theorem in_order : InOrder [first (hex 'a'), other] [other, first (hex 'a')] := by
  have hmeet : ¬ Meet (first (hex 'a')) other := by
    simp [Meet, first, other, change]
  have hmeet' : ¬ Meet other (first (hex 'a')) := by
    simp [Meet, first, other, change]
  intro a ha b hb h
  rcases List.mem_pair.mp ha with rfl | rfl
  · rcases List.mem_pair.mp hb with rfl | rfl
    · decide
    · exact absurd h hmeet
  · rcases List.mem_pair.mp hb with rfl | rfl
    · exact absurd h hmeet'
    · decide

/-- Two changes of two artifacts, in either order. -/
theorem results_of_canonical_apart : SameResults
    ((analyzer ["first", "other"]).derive (runtime apart) (manifest pinned [first (hex 'a'), other]) evidence evidence evidence 15)
    ((analyzer ["first", "other"]).derive (runtime apart) (manifest pinned [other, first (hex 'a')]) evidence evidence evidence 15) := by
  refine results_of_canonical (injective apart) ?_ (letters_valid ?_) (letters_valid ?_) ?_ in_order
  · exact (manifest_digest rfl).trans (manifest_digest canonical_apart.symm).symm
  · intro a ha
    exact List.mem_pair.mp ha
  · intro a ha
    exact (List.mem_pair.mp ha).symm
  · intro w hw w' hw' _
    rw [List.mem_singleton.mp hw, List.mem_singleton.mp hw']
    exact ⟨rfl, rfl, rfl⟩

end Sample

end Aegis.Agentic.ArtifactSecurity
