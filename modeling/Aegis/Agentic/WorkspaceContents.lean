/-
  Aegis.Agentic.WorkspaceContents — what the files of a workspace hold after the actions of a
  manifest, and what `derive` says they hold.

  `derive` keeps a digest for every artifact and holds the base of an action against the digest of
  its artifact; the action writes to a path of its own.
  - `actAll_based`: by artifact, every write is based on the digest of the artifact by then, and the
    results are what the writes leave.
  - `contents_of_results`: the same of the file of an artifact, where the writes to its path are
    those of its own actions.
  - `Sample.written_elsewhere`: an allowed action of one artifact writes the file of another, which
    the results know nothing of.
-/

import Aegis.Agentic.ArtifactResults
import Aegis.Data.KeyedWrites

namespace Aegis.Agentic.ArtifactSecurity

open Data Evidence Checked Decision KeyedWrites

variable {rt : Runtime} {m : AgentArtifactManifest} {c : Upstreams}

/-- An action and its fact. -/
abbrev Taken := ArtifactAction × ArtifactActionFact

/-- What is written: the proposed content, by an allowed action that changes content. -/
def writes (rt : Runtime) (x : Taken) : Option String :=
  if x.2.decision = .allow ∧ x.1.operation ∈ resulting then some (rt.casefold x.1.proposedContentSha256) else none

theorem writes_of {x : Taken} (h : x.2.decision = .allow) (ho : x.1.operation ∈ resulting) :
    writes rt x = some (rt.casefold x.1.proposedContentSha256) := if_pos ⟨h, ho⟩

/-- The content an action is based on. -/
def basis (rt : Runtime) (x : Taken) : String := rt.casefold x.1.expectedBaseSha256

/-- A path in a workspace. -/
abbrev Place := String × String

def WorkspaceArtifact.place (a : WorkspaceArtifact) : Place := (a.workspaceId, a.relativePath)

/-- Where an action writes: its path, in the workspace of its artifact. -/
def target (m : AgentArtifactManifest) (x : Taken) : Place :=
  (((m.artifact x.1.artifactId).map (·.workspaceId)).getD "", x.1.targetRelativePath)

/-- What the files hold after the actions, by their digests. -/
def contents (rt : Runtime) (m : AgentArtifactManifest) (found : Place → Option String) (xs : List Taken) : Place → Option String :=
  writeAll (target m) (writes rt) found xs

/-! ## By artifact -/

/-- One action: its fact, its base and what it writes. -/
theorem act_writes {cur cur' : Current} {a : ArtifactAction} {fact : ArtifactActionFact} (h : act rt m c cur a = .ok (cur', fact)) :
    fact.actionId = a.actionId ∧ ((writes rt (a, fact)).isSome = true → cur.sha a.artifactId = some (basis rt (a, fact))) ∧
      cur'.sha = write (fun x : Taken => x.1.artifactId) (writes rt) cur.sha (a, fact) := by
  obtain ⟨artifact, w, kinds, base, sources, -, -, hbase, -, hid, rfl, hiff⟩ := act_ok h
  by_cases hchanged : fact.decision = .allow ∧ a.operation ∈ resulting
  · have hcurrent := (hiff.mp hchanged.1).2.2.2
    simp only [currentRisks, List.append_eq_nil_iff, flag_eq_nil, not_not] at hcurrent
    refine ⟨hid, fun _ => ?_, ?_⟩
    · rw [hbase, basis, hcurrent.1]
    · funext k
      rw [if_pos hchanged, write_some (writes_of hchanged.1 hchanged.2)]
      rfl
  · have hnone : writes rt (a, fact) = none := if_neg hchanged
    refine ⟨hid, fun hw => ?_, ?_⟩
    · rw [hnone] at hw
      cases hw
    · rw [if_neg hchanged, write_none hnone]

/-- The run: the facts are those of the actions, every write is based on the digest of its artifact
by then, and the results are what the writes leave. -/
theorem actAll_based {cur : Current} {as : List ArtifactAction} {facts : List ArtifactActionFact} {results : Dict String}
    (h : actAll rt m c cur as = .ok (facts, results)) :
    List.Forall₂ (fun a fact => fact.actionId = a.actionId) as facts ∧
      Based (fun x : Taken => x.1.artifactId) (writes rt) (basis rt) cur.sha (as.zip facts) ∧
      results = writeAll (fun x : Taken => x.1.artifactId) (writes rt) cur.sha (as.zip facts) := by
  induction as generalizing cur facts with
  | nil =>
    obtain ⟨rfl, rfl⟩ := Prod.mk.inj (Except.ok.inj h)
    exact ⟨.nil, trivial, rfl⟩
  | cons a as ih =>
    unfold actAll at h
    simp only [bind_ok, Prod.exists] at h
    obtain ⟨cur', fact, hact, facts', results', hrest, he⟩ := h
    obtain ⟨rfl, rfl⟩ := Prod.mk.inj (Except.ok.inj he)
    obtain ⟨hid, hbase, hsha⟩ := act_writes hact
    obtain ⟨hids, hbased, hresults⟩ := ih hrest
    rw [hsha] at hbased hresults
    exact ⟨.cons hid hids, ⟨hbase, hbased⟩, hresults⟩

/-! ## By path -/

/-- The writes to the path of an artifact are those of its own actions. -/
def OwnPath (rt : Runtime) (m : AgentArtifactManifest) (x : WorkspaceArtifact) (xs : List Taken) : Prop :=
  ∀ y ∈ xs, (writes rt y).isSome = true → (y.1.artifactId = x.artifactId ↔ target m y = x.place)

/-- The digest of an artifact changes only by an allowed action on it whose base is that digest, and
so does the file of an artifact whose path is written by its own actions only; the results are what
is held at the end. -/
theorem contents_of_results (analyzer : AgentArtifactWorkspaceSecurityAnalyzer) (p8c p8f p8h : Json) (now : Int)
    (facts : List ArtifactActionFact) (results : Dict String) (h : analyzer.derive rt m p8c p8f p8h now = .ok (facts, results)) :
    List.Forall₂ (fun a fact => fact.actionId = a.actionId) m.actions facts ∧
    results = writeAll (fun x : Taken => x.1.artifactId) (writes rt) (initial rt m).sha (m.actions.zip facts) ∧
    (∀ before y after, m.actions.zip facts = before ++ y :: after → (writes rt y).isSome = true →
      writeAll (fun x : Taken => x.1.artifactId) (writes rt) (initial rt m).sha before y.1.artifactId = some (basis rt y)) ∧
    ∀ x, m.artifact x.artifactId = some x → OwnPath rt m x (m.actions.zip facts) →
      ∀ found : Place → Option String, found x.place = some (rt.casefold x.contentSha256) →
        (∀ before y after, m.actions.zip facts = before ++ y :: after → (writes rt y).isSome = true → target m y = x.place →
          contents rt m found before x.place = some (basis rt y)) ∧
        results x.artifactId = contents rt m found (m.actions.zip facts) x.place := by
  obtain ⟨-, -, -, hall⟩ := derive_ok.mp h
  obtain ⟨hids, hbased, hresults⟩ := actAll_based hall
  refine ⟨hids, hresults, fun before y after hsplit hw => ?_, fun x hx hown found hfound => ?_⟩
  · rw [hsplit] at hbased
    exact hbased.at_write hw
  · have hinitial : (initial rt m).sha x.artifactId = found x.place := by
      simp only [initial, hx, hfound, Option.map_some]
    refine ⟨fun before y after hsplit hw hplace => ?_, ?_⟩
    · rw [OwnPath, hsplit] at hown
      rw [hsplit] at hbased
      exact hbased.at_place hinitial hown hw hplace
    · rw [hresults]
      exact writeAll_agree hinitial hown

namespace Sample

/-- A change of the plan that goes to the path of the note. -/
def stray : ArtifactAction := { first (hex 'a') with targetRelativePath := pathOf "note" }

def astray : AgentArtifactManifest := manifest pinned [stray]

def straying : Json := astray.canonical (runtime .null)

/-- The files as the manifest declares them. -/
def found : Place → Option String := fun p => if p = (artifact "plan").place ∨ p = (artifact "note").place then some (hex '1') else none

/-- The change is allowed on the digest of the plan and replaces the content of the note, and the
results have a new digest for the plan. -/
theorem written_elsewhere : ∃ fact results, (analyzer ["first"]).derive (runtime straying) astray evidence evidence evidence 15 = .ok ([fact], results) ∧
    fact.decision = .allow ∧ astray.artifact stray.artifactId = some (artifact "plan") ∧ target astray (stray, fact) = (artifact "note").place ∧
    (artifact "note").place ≠ (artifact "plan").place ∧
    contents (runtime straying) astray found [(stray, fact)] (artifact "note").place = some (hex '2') ∧ results "note" = some (hex '1') ∧
    contents (runtime straying) astray found [(stray, fact)] (artifact "plan").place = some (hex '1') ∧ results "plan" = some (hex '2') := by
  have hdigest : astray.digest (runtime straying) = hex '0' := manifest_digest rfl
  have hshown : ((analyzer ["first"]).derive (runtime straying) astray evidence evidence evidence 15).toOption.map
      (fun r => (r.1.map (·.decision), r.2 "note", r.2 "plan")) = some ([.allow], some (hex '1'), some (hex '2')) := by
    simp only [AgentArtifactWorkspaceSecurityAnalyzer.derive, validateManifest, hdigest]
    decide +kernel
  obtain ⟨⟨facts, results⟩, hderive, hrun⟩ := Checks.ok_of_map hshown
  simp only [Prod.mk.injEq] at hrun
  obtain ⟨hdecisions, hnote, hplan⟩ := hrun
  obtain ⟨fact, rfl, hallow⟩ := List.map_eq_singleton_iff.mp hdecisions
  have hwrites : writes (runtime straying) (stray, fact) = some (hex '2') := by
    rw [writes_of hallow (show stray.operation ∈ resulting by decide)]
    have hsmall : (runtime .null).casefold (hex '2') = hex '2' := by decide +kernel
    exact congrArg some hsmall
  have htarget : target astray (stray, fact) = (artifact "note").place := rfl
  have hplaces : (artifact "note").place ≠ (artifact "plan").place := by
    decide
  refine ⟨fact, results, hderive, hallow, rfl, htarget, hplaces, ?_, hnote, ?_, hplan⟩
  · rw [contents, writeAll_cons, writeAll_nil, write_some hwrites, if_pos htarget.symm]
  · rw [contents, writeAll_cons, writeAll_nil, write_some hwrites, htarget, if_neg hplaces.symm]
    exact if_pos (.inl rfl)

/-- The plan is changed twice, and its file holds what the results say. -/
theorem contents_of_chain : ∃ facts results,
    (analyzer ["first", "second"]).derive (runtime chain) (manifest pinned [first (hex 'a'), second]) evidence evidence evidence 15 = .ok (facts, results) ∧
    facts.map (·.decision) = [.allow, .allow] ∧
    results "plan" = contents (runtime chain) (manifest pinned [first (hex 'a'), second]) found ([first (hex 'a'), second].zip facts) (artifact "plan").place := by
  obtain ⟨⟨facts, results⟩, h, hfacts⟩ := Checks.ok_of_map chain_allowed
  have hresults := contents_of_results (analyzer ["first", "second"]) evidence evidence evidence 15 facts results h
  refine ⟨facts, results, h, hfacts, (hresults.2.2.2 (artifact "plan") rfl ?_ found ?_).2⟩
  · intro y hy _
    have hin : y.1 ∈ [first (hex 'a'), second] := (List.of_mem_zip (a := y.1) (b := y.2) hy).1
    rcases List.mem_pair.mp hin with he | he
    · rw [target, he]
      exact ⟨fun _ => rfl, fun _ => rfl⟩
    · rw [target, he]
      exact ⟨fun _ => rfl, fun _ => rfl⟩
  · have hsmall : (runtime .null).casefold (hex '1') = hex '1' := by decide +kernel
    exact (if_pos (.inl rfl)).trans (congrArg some hsmall.symm)

end Sample

end Aegis.Agentic.ArtifactSecurity
