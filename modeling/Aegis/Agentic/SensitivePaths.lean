/-
  Aegis.Agentic.SensitivePaths — where an action that nobody approved puts things.

  The target of an action is held against the control paths, the dependency paths and the build context; the
  members of an archive are only asked not to leave the target. A sensitive prefix that is nested below the
  target is reached by a member.
  - `act_allowed`, `actAll_taken`: an allowed action carries no risk, whatever was current by then.
  - `under_joined_iff`: a member is under a prefix its target is not under exactly when the prefix is nested
    below the target and the member is under what is left of it.
  - `off_sensitive_iff`: so an allowed and unapproved action stays off the sensitive paths if and only if no
    member of its archive is under what is left of a nested prefix.
  - `Sample.hooked`: an archive that is extracted above the hooks and has one.
-/

import Aegis.Agentic.WorkspaceContents

namespace Aegis.Agentic.ArtifactSecurity

open Data Evidence Checked Decision KeyedWrites

variable {rt : Runtime} {m : AgentArtifactManifest} {c : Upstreams}

/-! ## Allowed actions -/

variable {a : ArtifactAction} {w : WorkspaceRoot}

/-- An allowed action carries no risk. -/
theorem act_allowed {cur cur' : Current} {fact : ArtifactActionFact} (h : act rt m c cur a = .ok (cur', fact))
    (hallow : fact.decision = .allow) : ∃ artifact w kinds base sources, m.artifact a.artifactId = some artifact ∧
      m.workspace artifact.workspaceId = some w ∧ Checks.gather (getItem cur.trust) a.sourceArtifactIds = (.ok sources : Check (List ArtifactTrust)) ∧
      pathRisks c w a = [] ∧ authorityRisks rt c w artifact kinds a = [] ∧ persistenceRisks rt c w a = [] ∧ currentRisks rt base sources a = [] := by
  obtain ⟨artifact, w, kinds, base, sources, hartifact, hw, -, hsources, -, -, hiff⟩ := act_ok h
  exact ⟨artifact, w, kinds, base, sources, hartifact, hw, hsources, hiff.mp hallow⟩

/-- Every action of a run has been taken by itself. -/
theorem actAll_taken {cur : Current} {as : List ArtifactAction} {facts : List ArtifactActionFact} {results : Dict String}
    (h : actAll rt m c cur as = .ok (facts, results)) {x : Taken} (hx : x ∈ as.zip facts) : ∃ t t', act rt m c t x.1 = .ok (t', x.2) := by
  induction as generalizing cur facts with
  | nil =>
    rw [List.zip_nil_left] at hx
    cases hx
  | cons a as ih =>
    unfold actAll at h
    simp only [bind_ok, Prod.exists] at h
    obtain ⟨cur', fact, hact, facts', results', hrest, he⟩ := h
    obtain ⟨rfl, rfl⟩ := Prod.mk.inj (Except.ok.inj he)
    rw [List.zip_cons_cons, List.mem_cons] at hx
    rcases hx with rfl | hx
    · exact ⟨cur, cur', hact⟩
    · exact ih hrest hx

/-! ## Places -/

/-- A path below the target of an action. -/
def joined (a : ArtifactAction) (path : String) : String := String.ofList (PosixPath.join a.targetRelativePath.toList path.toList)

/-- Where an action puts things: its target, and the members of an archive it extracts. -/
def placed (a : ArtifactAction) : List String :=
  a.targetRelativePath :: if a.operation = .extract then a.archiveMembers.map fun member => joined a member.memberPath else []

def Untrusted (a : ArtifactAction) : Prop := a.proposedTrust ∈ [ArtifactTrust.untrustedInput, .generated]

/-- Nothing is put under a control path or a dependency path, and nothing untrusted into the build context. -/
def OffSensitivePaths (p : AgentArtifactPolicy) (w : WorkspaceRoot) (a : ArtifactAction) : Prop :=
  ∀ path ∈ placed a, (∀ scope ∈ p.controlPathPrefixes ++ p.dependencyPathPrefixes, ¬ Under path scope) ∧
    (Untrusted a → ∀ scope ∈ w.buildContextPrefixes, ¬ Under path scope)

/-- The prefix is nested below the target, and the path is under what is left of it. -/
def ReachesNested (target scope path : String) : Prop :=
  ∃ rest, PosixPath.rstrip scope.toList = target.toList ++ '/' :: rest ∧ (path.toList = rest ∨ rest ++ ['/'] <+: path.toList)

/-- No member of an archive reaches a sensitive prefix that is nested below the target. -/
def MembersApart (p : AgentArtifactPolicy) (w : WorkspaceRoot) (a : ArtifactAction) : Prop :=
  a.operation = .extract → ∀ member ∈ a.archiveMembers,
    (∀ scope ∈ p.controlPathPrefixes ++ p.dependencyPathPrefixes, ¬ ReachesNested a.targetRelativePath scope member.memberPath) ∧
    (Untrusted a → ∀ scope ∈ w.buildContextPrefixes, ¬ ReachesNested a.targetRelativePath scope member.memberPath)

/-! ## Paths -/

/-- A path without a reason against it is not absolute, and none of its components is empty. -/
theorem relative_of_pathReason {path : String} (h : pathReason path = none) :
    path.toList ≠ [] ∧ path.toList.head? ≠ some '/' ∧ path.toList.getLast? ≠ some '/' := by
  unfold pathReason at h
  dsimp only at h
  split_ifs at h with hempty habsolute hslash hparts hnormal
  rw [not_or] at hempty habsolute
  refine ⟨hempty.1, habsolute.1, fun hlast => hparts ⟨[], ?_, by simp⟩⟩
  obtain ⟨cs, hcs⟩ := List.getLast?_eq_some_iff.mp hlast
  rw [hcs, PosixPath.components_snoc_slash]
  exact List.mem_append_right _ List.mem_cons_self

/-- A member is under a prefix that its target is not under exactly when it reaches the prefix below the target. -/
theorem under_joined_iff {path scope : String} (htarget : pathReason a.targetRelativePath = none)
    (hpath : pathReason path = none) (hout : ¬ Under a.targetRelativePath scope) :
    Under (joined a path) scope ↔ ReachesNested a.targetRelativePath scope path := by
  obtain ⟨hnonempty, -, hlast⟩ := relative_of_pathReason htarget
  obtain ⟨-, hrelative, -⟩ := relative_of_pathReason hpath
  obtain ⟨hne, hbelow⟩ := not_or.mp hout
  rw [Under, joined, String.toList_ofList, PosixPath.join_eq hrelative hnonempty hlast]
  exact PosixPath.below_iff hne hbelow

/-! ## What an allowed action keeps off -/

/-- What the checks on the target of an action come to. -/
structure Kept (c : Upstreams) (w : WorkspaceRoot) (a : ArtifactAction) : Prop where
  target : pathReason a.targetRelativePath = none
  members : ∀ member ∈ a.archiveMembers, pathReason member.memberPath = none
  sensitive : ∀ scope ∈ c.policy.controlPathPrefixes ++ c.policy.dependencyPathPrefixes, ¬ Under a.targetRelativePath scope
  context : Untrusted a → ∀ scope ∈ w.buildContextPrefixes, ¬ Under a.targetRelativePath scope

theorem kept_of_risks (hpath : pathRisks c w a = []) (hpersistence : persistenceRisks rt c w a = [])
    (hun : ¬ ApprovalOk rt c a) : Kept c w a := by
  simp only [pathRisks, List.append_eq_nil_iff, flag_eq_nil] at hpath
  simp only [persistenceRisks, List.append_eq_nil_iff, flag_eq_nil] at hpersistence
  obtain ⟨⟨⟨⟨⟨⟨htarget, -⟩, -⟩, -⟩, hmembers⟩, -⟩, -⟩ := hpath
  obtain ⟨⟨⟨⟨hcontrol, hdependency⟩, hcontext⟩, -⟩, -⟩ := hpersistence
  refine ⟨?_, ?_, ?_, ?_⟩
  · cases hreason : pathReason a.targetRelativePath with
    | none => rfl
    | some reason =>
      rw [hreason] at htarget
      cases htarget
  · intro member hmember
    by_contra hreason
    exact hmembers ⟨member, hmember, hreason⟩
  · intro scope hscope hunder
    rcases List.mem_append.mp hscope with hin | hin
    · exact hcontrol ⟨⟨scope, hin, hunder⟩, hun⟩
    · exact hdependency ⟨⟨scope, hin, hunder⟩, hun⟩
  · intro huntrusted scope hscope hunder
    exact hcontext ⟨⟨scope, hscope, hunder⟩, huntrusted, hun⟩

theorem off_iff_of_kept (h : Kept c w a) : OffSensitivePaths c.policy w a ↔ MembersApart c.policy w a := by
  have hmember : ∀ member ∈ a.archiveMembers, ∀ scope, ¬ Under a.targetRelativePath scope →
      (Under (joined a member.memberPath) scope ↔ ReachesNested a.targetRelativePath scope member.memberPath) :=
    fun member hin scope hout => under_joined_iff h.target (h.members member hin) hout
  constructor
  · intro hoff hextract member hin
    have hplaced : joined a member.memberPath ∈ placed a := by
      rw [placed, if_pos hextract]
      exact List.mem_cons_of_mem _ (List.mem_map_of_mem hin)
    obtain ⟨hsensitive, hcontext⟩ := hoff _ hplaced
    refine ⟨fun scope hscope hreach => ?_, fun huntrusted scope hscope hreach => ?_⟩
    · exact hsensitive scope hscope ((hmember member hin scope (h.sensitive scope hscope)).mpr hreach)
    · exact hcontext huntrusted scope hscope ((hmember member hin scope (h.context huntrusted scope hscope)).mpr hreach)
  · intro hapart path hpath
    rcases List.mem_cons.mp hpath with rfl | hpath
    · exact ⟨h.sensitive, h.context⟩
    · by_cases hextract : a.operation = .extract
      · rw [if_pos hextract] at hpath
        obtain ⟨member, hin, rfl⟩ := List.mem_map.mp hpath
        obtain ⟨hsensitive, hcontext⟩ := hapart hextract member hin
        refine ⟨fun scope hscope hunder => ?_, fun huntrusted scope hscope hunder => ?_⟩
        · exact hsensitive scope hscope ((hmember member hin scope (h.sensitive scope hscope)).mp hunder)
        · exact hcontext huntrusted scope hscope ((hmember member hin scope (h.context huntrusted scope hscope)).mp hunder)
      · rw [if_neg hextract] at hpath
        cases hpath

/-- An allowed action without a safe approval keeps off the sensitive paths if and only if no member of its
archive reaches a sensitive prefix that is nested below its target. -/
theorem off_sensitive_iff (analyzer : AgentArtifactWorkspaceSecurityAnalyzer) (p8c p8f p8h : Json) (now : Int) (facts : List ArtifactActionFact)
    (results : Dict String) (h : analyzer.derive rt m p8c p8f p8h now = .ok (facts, results)) :
    List.Forall₂ (fun a fact => fact.actionId = a.actionId) m.actions facts ∧
    ∀ x ∈ m.actions.zip facts, x.2.decision = .allow → ¬ ApprovalOk rt (upstreamsOf rt analyzer.policy p8c p8f p8h) x.1 →
      ∃ artifact w, m.artifact x.1.artifactId = some artifact ∧ m.workspace artifact.workspaceId = some w ∧
        (OffSensitivePaths analyzer.policy w x.1 ↔ MembersApart analyzer.policy w x.1) := by
  obtain ⟨-, -, -, hall⟩ := derive_ok.mp h
  refine ⟨(actAll_based hall).1, fun x hx hallow hun => ?_⟩
  obtain ⟨t, t', hact⟩ := actAll_taken hall hx
  obtain ⟨artifact, w, kinds, base, sources, hartifact, hw, -, hpath, -, hpersistence, -⟩ := act_allowed hact hallow
  have hiff := off_iff_of_kept (kept_of_risks hpath hpersistence hun)
  exact ⟨artifact, w, hartifact, hw, hiff⟩

namespace Sample

/-- An archive that is extracted to the place of the plan. -/
def unpack (path : String) : ArtifactAction :=
  { change "unpack" "plan" (hex 'a') '1' '2' with operation := .extract, archiveMembers := [⟨path, .file, 1, none⟩] }

def unpacked (path : String) : AgentArtifactManifest := manifest pinned [unpack path]

/-- The hooks are below the place of the plan. -/
def hooksPinned : AgentArtifactWorkspaceSecurityAnalyzer where
  policy := { (analyzer ["unpack"]).policy with
    allowedOperationsByKind := [(.document, [.extract])], controlPathPrefixes := ["docs/plan/hooks"] }

def unpackedText (path : String) : Json := (unpacked path).canonical (runtime .null)

theorem unpacked_digest (path : String) : (unpacked path).digest (runtime (unpackedText path)) = hex '0' := manifest_digest rfl

/-- What is decided of the one action. -/
def unpackDecisions (path : String) : Option (List ArtifactDecision) :=
  (hooksPinned.derive (runtime (unpackedText path)) (unpacked path) evidence evidence evidence 15).toOption.map fun r => r.1.map (·.decision)

theorem unpacked_run {path : String} (h : unpackDecisions path = some [.allow]) :
    ∃ fact results, hooksPinned.derive (runtime (unpackedText path)) (unpacked path) evidence evidence evidence 15 = .ok ([fact], results) ∧
      fact.decision = .allow := by
  obtain ⟨⟨facts, results⟩, hderive, hdecisions⟩ := Checks.ok_of_map h
  obtain ⟨fact, rfl, hallow⟩ := List.map_eq_singleton_iff.mp hdecisions
  exact ⟨fact, results, hderive, hallow⟩

theorem unapproved (path : String) : ¬ ApprovalOk (runtime (unpackedText path))
    (upstreamsOf (runtime (unpackedText path)) hooksPinned.policy evidence evidence evidence) (unpack path) := by
  intro h
  obtain ⟨id, hid, -⟩ := h
  cases hid

/-- An archive with a hook is extracted, by nobody's leave, above the hooks. -/
theorem hooked : ∃ fact results,
    hooksPinned.derive (runtime (unpackedText "hooks/run")) (unpacked "hooks/run") evidence evidence evidence 15 = .ok ([fact], results) ∧
    fact.decision = .allow ∧ (unpack "hooks/run").approvalActionId = none ∧
    joined (unpack "hooks/run") "hooks/run" = "docs/plan/hooks/run" ∧ Under "docs/plan/hooks/run" "docs/plan/hooks" ∧
    ¬ OffSensitivePaths hooksPinned.policy (workspace pinned) (unpack "hooks/run") := by
  have hdecided : unpackDecisions "hooks/run" = some [.allow] := by
    simp only [unpackDecisions, AgentArtifactWorkspaceSecurityAnalyzer.derive, validateManifest, unpacked_digest]
    decide +kernel
  obtain ⟨fact, results, h, hallow⟩ := unpacked_run hdecided
  have hjoined : joined (unpack "hooks/run") "hooks/run" = "docs/plan/hooks/run" := by decide +kernel
  have hunder : Under "docs/plan/hooks/run" "docs/plan/hooks" := by decide +kernel
  refine ⟨fact, results, h, hallow, rfl, hjoined, hunder, fun hoff => ?_⟩
  have hplaced : joined (unpack "hooks/run") "hooks/run" ∈ placed (unpack "hooks/run") := List.mem_cons_of_mem _ List.mem_cons_self
  exact (hoff _ hplaced).1 "docs/plan/hooks" List.mem_cons_self (hjoined ▸ hunder)

/-- An archive with a note instead keeps off the hooks. -/
theorem off_sensitive_note : ∃ fact results,
    hooksPinned.derive (runtime (unpackedText "note")) (unpacked "note") evidence evidence evidence 15 = .ok ([fact], results) ∧
    OffSensitivePaths hooksPinned.policy (workspace pinned) (unpack "note") := by
  have hdecided : unpackDecisions "note" = some [.allow] := by
    simp only [unpackDecisions, AgentArtifactWorkspaceSecurityAnalyzer.derive, validateManifest, unpacked_digest]
    decide +kernel
  obtain ⟨fact, results, h, hallow⟩ := unpacked_run hdecided
  obtain ⟨artifact, w, hartifact, hw, hiff⟩ :=
    (off_sensitive_iff hooksPinned evidence evidence evidence 15 [fact] results h).2 (unpack "note", fact) List.mem_cons_self hallow (unapproved "note")
  obtain rfl : artifact = Sample.artifact "plan" := (Option.some.inj hartifact).symm
  obtain rfl : w = workspace pinned := (Option.some.inj hw).symm
  refine ⟨fact, results, h, hiff.mpr fun _ member hmember => ?_⟩
  obtain rfl := List.mem_singleton.mp hmember
  have hstripped : PosixPath.rstrip "docs/plan/hooks".toList = "docs/plan/hooks".toList := by decide +kernel
  have hsplit : "docs/plan/hooks".toList = (unpack "note").targetRelativePath.toList ++ '/' :: "hooks".toList := by decide +kernel
  refine ⟨fun scope hscope hreach => ?_, fun _ scope hscope => ?_⟩
  · obtain rfl : scope = "docs/plan/hooks" := List.mem_singleton.mp hscope
    obtain ⟨rest, hrest, hinside⟩ := hreach
    rw [hstripped] at hrest
    obtain rfl : "hooks".toList = rest := (List.cons.inj (List.append_cancel_left (hsplit.symm.trans hrest))).2
    revert hinside
    decide +kernel
  · cases hscope

end Sample

end Aegis.Agentic.ArtifactSecurity
