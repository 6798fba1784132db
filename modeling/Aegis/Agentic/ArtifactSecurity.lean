/-
  Aegis.Agentic.ArtifactSecurity — `AgentArtifactWorkspaceSecurityAnalyzer` (artifact_security.py):
  workspaces, the artifacts in them, and actions that change what an artifact holds.

  `derive` goes through the actions in the order they are listed and carries the digest and the
  trust of every artifact along (`Current`): what an allowed action leaves is what the next one
  is held against.
-/

import Aegis.Agentic.Decision
import Aegis.Data.Groups
import Aegis.Data.PosixPath
import Mathlib.Algebra.Ring.Int.Defs

namespace Aegis.Agentic.ArtifactSecurity

open Data Evidence Checked Decision

def artifactSchemaVersion : String := "aegis-agent-artifact-workspace-manifest-v1"

inductive ArtifactKind where
  | source | patch | dependencyManifest | lockfile | buildConfig | ciWorkflow | startupHook | archive | executable
  | modelArtifact | document
  deriving DecidableEq, Repr

def ArtifactKind.value : ArtifactKind → String
  | source => "source"
  | patch => "patch"
  | dependencyManifest => "dependency_manifest"
  | lockfile => "lockfile"
  | buildConfig => "build_config"
  | ciWorkflow => "ci_workflow"
  | startupHook => "startup_hook"
  | archive => "archive"
  | executable => "executable"
  | modelArtifact => "model_artifact"
  | document => "document"

inductive ArtifactOperation where
  | create | modify | delete | extract | execute | publish
  deriving DecidableEq, Repr

def ArtifactOperation.value : ArtifactOperation → String
  | create => "create"
  | modify => "modify"
  | delete => "delete"
  | extract => "extract"
  | execute => "execute"
  | publish => "publish"

inductive ArtifactTrust where
  | untrustedInput | generated | verified | trustedControl
  deriving DecidableEq, Repr

def ArtifactTrust.value : ArtifactTrust → String
  | untrustedInput => "untrusted_input"
  | generated => "generated"
  | verified => "verified"
  | trustedControl => "trusted_control"

inductive ArchiveMemberType where
  | file | directory | symlink | hardlink
  deriving DecidableEq, Repr

def ArchiveMemberType.value : ArchiveMemberType → String
  | file => "file"
  | directory => "directory"
  | symlink => "symlink"
  | hardlink => "hardlink"

inductive ArtifactDecision where
  | allow | deny
  deriving DecidableEq, Repr

inductive ArtifactRisk where
  | absolutePath | pathEscape | outOfScopeWrite | symlinkEscape | hardlinkEscape | archiveTraversal | archiveLinkEscape
  | archiveLimitExceeded | crossTenant | workspaceMismatch | operationUnauthorized | kindUnauthorized | contentDigestMismatch
  | baseDigestMismatch | provenanceMissing | provenanceMismatch | generatedCodeLaundering | dependencyPersistence
  | controlPathPersistence | buildContextPoisoning | executableWrite | executionUnapproved | upstreamPlanUnsafe
  | upstreamApprovalUnsafe | upstreamStateUnsafe
  deriving DecidableEq, Repr

namespace ArtifactRisk

def value : ArtifactRisk → String
  | absolutePath => "absolute_path"
  | pathEscape => "path_escape"
  | outOfScopeWrite => "out_of_scope_write"
  | symlinkEscape => "symlink_escape"
  | hardlinkEscape => "hardlink_escape"
  | archiveTraversal => "archive_traversal"
  | archiveLinkEscape => "archive_link_escape"
  | archiveLimitExceeded => "archive_limit_exceeded"
  | crossTenant => "cross_tenant"
  | workspaceMismatch => "workspace_mismatch"
  | operationUnauthorized => "operation_unauthorized"
  | kindUnauthorized => "kind_unauthorized"
  | contentDigestMismatch => "content_digest_mismatch"
  | baseDigestMismatch => "base_digest_mismatch"
  | provenanceMissing => "provenance_missing"
  | provenanceMismatch => "provenance_mismatch"
  | generatedCodeLaundering => "generated_code_laundering"
  | dependencyPersistence => "dependency_persistence"
  | controlPathPersistence => "control_path_persistence"
  | buildContextPoisoning => "build_context_poisoning"
  | executableWrite => "executable_write"
  | executionUnapproved => "execution_unapproved"
  | upstreamPlanUnsafe => "upstream_plan_unsafe"
  | upstreamApprovalUnsafe => "upstream_approval_unsafe"
  | upstreamStateUnsafe => "upstream_state_unsafe"

/-- `_RISK_SCORE`. -/
def score : ArtifactRisk → Nat
  | absolutePath => 120
  | pathEscape => 120
  | outOfScopeWrite => 118
  | symlinkEscape => 121
  | hardlinkEscape => 121
  | archiveTraversal => 122
  | archiveLinkEscape => 123
  | archiveLimitExceeded => 108
  | crossTenant => 120
  | workspaceMismatch => 112
  | operationUnauthorized => 110
  | kindUnauthorized => 108
  | contentDigestMismatch => 115
  | baseDigestMismatch => 117
  | provenanceMissing => 112
  | provenanceMismatch => 116
  | generatedCodeLaundering => 124
  | dependencyPersistence => 120
  | controlPathPersistence => 125
  | buildContextPoisoning => 119
  | executableWrite => 123
  | executionUnapproved => 126
  | upstreamPlanUnsafe => 116
  | upstreamApprovalUnsafe => 120
  | upstreamStateUnsafe => 118

end ArtifactRisk

/-- The reasons `derive` raises. -/
inductive ArtifactRejectReason where
  | policyInvalid | upstreamInvalid | manifestInvalid | coverageMismatch | ownerUntrusted | policyDrift | referenceInvalid
  deriving DecidableEq, Repr

abbrev Check := Checked ArtifactRejectReason

/-! ## The manifest and the policy -/

structure WorkspaceRoot where
  workspaceId : String
  tenantId : String
  rootPath : String
  allowedWritePrefixes : List String
  allowedExecutePrefixes : List String
  buildContextPrefixes : List String
  ownerId : String
  description : String
  deriving DecidableEq, Repr

structure WorkspaceArtifact where
  artifactId : String
  workspaceId : String
  tenantId : String
  relativePath : String
  kind : ArtifactKind
  trust : ArtifactTrust
  contentSha256 : String
  executable : Bool
  symlinkTarget : Option String
  hardlinkTarget : Option String
  ownerId : String
  description : String
  deriving DecidableEq, Repr

structure ArchiveMember where
  memberPath : String
  memberType : ArchiveMemberType
  sizeBytes : Int
  linkTarget : Option String
  deriving DecidableEq, Repr

structure ArtifactAction where
  actionId : String
  artifactId : String
  operation : ArtifactOperation
  actorAgentId : String
  originalPrincipalId : String
  tenantId : String
  planStepId : String
  approvalActionId : Option String
  stateTransitionId : Option String
  messageId : String
  targetRelativePath : String
  expectedBaseSha256 : String
  proposedContentSha256 : String
  sourceArtifactIds : List String
  sourceRequestSha256 : String
  patchSha256 : String
  proposedKind : ArtifactKind
  proposedTrust : ArtifactTrust
  proposedExecutable : Bool
  proposedSymlinkTarget : Option String
  proposedHardlinkTarget : Option String
  archiveMembers : List ArchiveMember
  issuedAtEpoch : Int
  ownerId : String
  description : String
  deriving DecidableEq, Repr

structure AgentArtifactManifest where
  graphId : String
  version : String
  p8cAssessmentEvidenceSha256 : String
  p8fAssessmentEvidenceSha256 : String
  p8hAssessmentEvidenceSha256 : String
  createdAtEpoch : Int
  workspaces : List WorkspaceRoot
  artifacts : List WorkspaceArtifact
  actions : List ArtifactAction
  schemaVersion : String
  deriving DecidableEq, Repr

/-- `_workspace_profile`. -/
structure WorkspaceProfile where
  tenantId : String
  rootPath : String
  allowedWritePrefixes : List String
  allowedExecutePrefixes : List String
  buildContextPrefixes : List String
  deriving DecidableEq, Repr

/-- `_artifact_profile`. -/
structure ArtifactProfile where
  workspaceId : String
  tenantId : String
  relativePath : String
  kind : ArtifactKind
  trust : ArtifactTrust
  contentSha256 : String
  executable : Bool
  symlinkTarget : Option String
  hardlinkTarget : Option String
  deriving DecidableEq, Repr

structure AgentArtifactPolicy where
  expectedGraphId : String
  expectedGraphVersion : String
  expectedGraphSha256 : String
  expectedP8cAssessmentEvidenceSha256 : String
  expectedP8fAssessmentEvidenceSha256 : String
  expectedP8hAssessmentEvidenceSha256 : String
  requiredWorkspaceIds : List String
  requiredArtifactIds : List String
  requiredActionIds : List String
  trustedOwnerIds : List String
  expectedWorkspaceProfiles : List (String × WorkspaceProfile)
  expectedArtifactProfiles : List (String × ArtifactProfile)
  allowedOperationsByKind : List (ArtifactKind × List ArtifactOperation)
  allowedKindsByWorkspace : List (String × List ArtifactKind)
  approvalRequiredKinds : List ArtifactKind
  controlPathPrefixes : List String
  dependencyPathPrefixes : List String
  stateRequiredOperations : List ArtifactOperation
  provenanceRequiredOperations : List ArtifactOperation
  maxArchiveMembers : Int
  maxArchiveTotalBytes : Int
  maxManifestAgeSeconds : Int
  maxFutureSkewSeconds : Int

structure ArtifactActionFact where
  actionId : String
  artifactId : String
  operation : ArtifactOperation
  decision : ArtifactDecision
  risks : List ArtifactRisk
  targetRelativePath : String
  resultingContentSha256 : String
  proposedKind : ArtifactKind
  proposedTrust : ArtifactTrust
  proposedExecutable : Bool
  riskScore : Nat
  deriving DecidableEq, Repr

variable (rt : Runtime)

def WorkspaceRoot.profile (w : WorkspaceRoot) : WorkspaceProfile where
  tenantId := w.tenantId
  rootPath := w.rootPath
  allowedWritePrefixes := w.allowedWritePrefixes
  allowedExecutePrefixes := w.allowedExecutePrefixes
  buildContextPrefixes := w.buildContextPrefixes

def WorkspaceArtifact.profile (a : WorkspaceArtifact) : ArtifactProfile where
  workspaceId := a.workspaceId
  tenantId := a.tenantId
  relativePath := a.relativePath
  kind := a.kind
  trust := a.trust
  contentSha256 := rt.casefold a.contentSha256
  executable := a.executable
  symlinkTarget := a.symlinkTarget
  hardlinkTarget := a.hardlinkTarget

/-! ## Digests -/

def WorkspaceRoot.fields (text : String → Json) (texts : List String → Json) (w : WorkspaceRoot) : List (String × Json) :=
  [("workspace_id", text w.workspaceId), ("tenant_id", text w.tenantId), ("root_path", text w.rootPath),
    ("allowed_write_prefixes", texts w.allowedWritePrefixes), ("allowed_execute_prefixes", texts w.allowedExecutePrefixes),
    ("build_context_prefixes", texts w.buildContextPrefixes), ("owner_id", text w.ownerId), ("description", text w.description)]

def WorkspaceArtifact.fields (text : String → Json) (_ : List String → Json) (a : WorkspaceArtifact) : List (String × Json) :=
  [("artifact_id", text a.artifactId), ("workspace_id", text a.workspaceId), ("tenant_id", text a.tenantId),
    ("relative_path", text a.relativePath), ("kind", text a.kind.value), ("trust", text a.trust.value),
    ("content_sha256", text a.contentSha256), ("executable", .bool a.executable), ("symlink_target", Json.opt text a.symlinkTarget),
    ("hardlink_target", Json.opt text a.hardlinkTarget), ("owner_id", text a.ownerId), ("description", text a.description)]

def ArchiveMember.fields (text : String → Json) (_ : List String → Json) (m : ArchiveMember) : List (String × Json) :=
  [("member_path", text m.memberPath), ("member_type", text m.memberType.value), ("size_bytes", .int m.sizeBytes),
    ("link_target", Json.opt text m.linkTarget)]

/-- The fields of an action; `members` writes its archive members. -/
def ArtifactAction.fields (members : List ArchiveMember → Json) (text : String → Json) (texts : List String → Json) (a : ArtifactAction) :
    List (String × Json) :=
  [("action_id", text a.actionId), ("artifact_id", text a.artifactId), ("operation", text a.operation.value),
    ("actor_agent_id", text a.actorAgentId), ("original_principal_id", text a.originalPrincipalId), ("tenant_id", text a.tenantId),
    ("plan_step_id", text a.planStepId), ("approval_action_id", Json.opt text a.approvalActionId),
    ("state_transition_id", Json.opt text a.stateTransitionId), ("message_id", text a.messageId),
    ("target_relative_path", text a.targetRelativePath), ("expected_base_sha256", text a.expectedBaseSha256),
    ("proposed_content_sha256", text a.proposedContentSha256), ("source_artifact_ids", texts a.sourceArtifactIds),
    ("source_request_sha256", text a.sourceRequestSha256), ("patch_sha256", text a.patchSha256),
    ("proposed_kind", text a.proposedKind.value), ("proposed_trust", text a.proposedTrust.value),
    ("proposed_executable", .bool a.proposedExecutable), ("proposed_symlink_target", Json.opt text a.proposedSymlinkTarget),
    ("proposed_hardlink_target", Json.opt text a.proposedHardlinkTarget), ("archive_members", members a.archiveMembers),
    ("issued_at_epoch", .int a.issuedAtEpoch), ("owner_id", text a.ownerId), ("description", text a.description)]

/-- `_norm` of a text. -/
def normText (s : String) : Json := .str (Canonical.normText rt s)

/-- The members of an archive as `str` shows them, and as `_norm` sorts them. -/
def shownMembers (ms : List ArchiveMember) : Json := .arr (ms.map fun m => .obj (m.fields .str fun _ => .nil))

def normMembers (ms : List ArchiveMember) : Json := normTuple rt (fun text texts m => .obj (ArchiveMember.fields text texts m)) ms

/-- `_norm` of the actions, which are tuples of texts and of members themselves. -/
def normActions (actions : List ArtifactAction) : Json :=
  let shown a := rt.str (.obj (ArtifactAction.fields shownMembers .str (fun ts => .arr (ts.map .str)) a))
  .arr ((sortOn shown actions).map fun a =>
    (Json.obj (a.fields (normMembers rt) (normText rt) fun ts => .arr ((sortOn id ts).map (normText rt)))).sorted)

/-- `canonical_agent_artifact_manifest_bytes`. -/
def AgentArtifactManifest.canonical (m : AgentArtifactManifest) : Json :=
  .obj [("actions", normActions rt m.actions),
    ("artifacts", normTuple rt (fun text texts a => .obj (WorkspaceArtifact.fields text texts a)) m.artifacts),
    ("created_at_epoch", .int m.createdAtEpoch), ("graph_id", normText rt m.graphId),
    ("p8c_assessment_evidence_sha256", normText rt m.p8cAssessmentEvidenceSha256),
    ("p8f_assessment_evidence_sha256", normText rt m.p8fAssessmentEvidenceSha256),
    ("p8h_assessment_evidence_sha256", normText rt m.p8hAssessmentEvidenceSha256), ("schema_version", normText rt m.schemaVersion),
    ("version", normText rt m.version),
    ("workspaces", normTuple rt (fun text texts w => .obj (WorkspaceRoot.fields text texts w)) m.workspaces)]

/-- `agent_artifact_manifest_digest`. -/
def AgentArtifactManifest.digest (m : AgentArtifactManifest) : String := rt.sha256 (m.canonical rt)

/-! ## Paths -/

/-- `_path_reason`. -/
def pathReason (path : String) : Option ArtifactRisk :=
  let p := path.toList
  if p = [] ∨ '\x00' ∈ p then some .pathEscape
  else if p.head? = some '/' ∨ p.head? = some '\\' ∨ p[1]? = some ':' then some .absolutePath
  else if '\\' ∈ p then some .pathEscape
  else if ∃ part ∈ PosixPath.components p, part ∈ [[], PosixPath.here, PosixPath.up] then some .pathEscape
  else
    let normalized := PosixPath.normpath p
    if normalized ≠ p ∨ normalized = PosixPath.up ∨ PosixPath.up ++ ['/'] <+: normalized then some .pathEscape
    else none

/-- `_under`. -/
def Under (path : String) (scope : String) : Prop :=
  let p := PosixPath.rstrip scope.toList
  path.toList = p ∨ p ++ ['/'] <+: path.toList

instance decidableUnder (path scope : String) : Decidable (Under path scope) := inferInstanceAs (Decidable (_ ∨ _))

/-- `posixpath.normpath(posixpath.join(posixpath.dirname(source_path), target))`. -/
def linkPath (sourcePath target : String) : List Char :=
  PosixPath.normpath (PosixPath.join (PosixPath.dirname sourcePath.toList) target.toList)

/-- `_link_escapes`. -/
def LinkEscapes (sourcePath : String) (target : Option String) : Prop :=
  ∃ t ∈ target, pathReason t = some .absolutePath ∨ '\\' ∈ t.toList ∨ '\x00' ∈ t.toList ∨ linkPath sourcePath t = PosixPath.up ∨
    PosixPath.up ++ ['/'] <+: linkPath sourcePath t ∨ ['/'] <+: linkPath sourcePath t

instance decidableLinkEscapes (sourcePath : String) (target : Option String) : Decidable (LinkEscapes sourcePath target) :=
  inferInstanceAs (Decidable (∃ t ∈ target, _))

/-- `_requires_approval`. -/
def RequiresApproval (p : AgentArtifactPolicy) (a : ArtifactAction) : Prop :=
  a.proposedKind ∈ p.approvalRequiredKinds ∨ a.operation ∈ [ArtifactOperation.execute, .publish] ∨ a.proposedExecutable = true ∨
    ∃ scope ∈ p.controlPathPrefixes ++ p.dependencyPathPrefixes, Under a.targetRelativePath scope

instance decidableRequiresApproval (p : AgentArtifactPolicy) (a : ArtifactAction) : Decidable (RequiresApproval p a) :=
  inferInstanceAs (Decidable (_ ∨ _))

/-! ## Validation -/

/-- `_validate_policy`. -/
def validatePolicy (p : AgentArtifactPolicy) : Check Unit := do
  rejectIf (p.expectedGraphId = "" ∨ p.expectedGraphVersion = "" ∨ p.trustedOwnerIds = []) .policyInvalid
    "missing graph or trust policy" none
  rejectIf (¬ (sha rt p.expectedGraphSha256 ∧ sha rt p.expectedP8cAssessmentEvidenceSha256 ∧
    sha rt p.expectedP8fAssessmentEvidenceSha256 ∧ sha rt p.expectedP8hAssessmentEvidenceSha256)) .policyInvalid
    "invalid digest pin" none
  rejectIf (p.maxArchiveMembers ≤ 0 ∨ p.maxArchiveTotalBytes ≤ 0) .policyInvalid "invalid archive policy" none
  rejectIf (p.maxManifestAgeSeconds ≤ 0 ∨ p.maxFutureSkewSeconds < 0) .policyInvalid "invalid freshness policy" none
  rejectIf (¬ sameSet (p.expectedWorkspaceProfiles.map (·.1)) p.requiredWorkspaceIds) .policyInvalid
    "workspace profile coverage mismatch" none
  rejectIf (¬ sameSet (p.expectedArtifactProfiles.map (·.1)) p.requiredArtifactIds) .policyInvalid
    "artifact profile coverage mismatch" none
  rejectIf (¬ sameSet (p.allowedKindsByWorkspace.map (·.1)) p.requiredWorkspaceIds) .policyInvalid
    "workspace kind policy coverage mismatch" none
  rejectIf (p.allowedOperationsByKind = []) .policyInvalid "missing kind operation policy" none

/-- `_validate_upstreams`. -/
def validateUpstreams (p : AgentArtifactPolicy) (m : AgentArtifactManifest) (p8c p8f p8h : Json) : Check Unit := do
  validateUpstream rt .upstreamInvalid p8c p.expectedP8cAssessmentEvidenceSha256 m.p8cAssessmentEvidenceSha256
    ["exact_goal_plan_graph_binding_verified"] "caller_declared_goal_safety_trusted"
  validateUpstream rt .upstreamInvalid p8f p.expectedP8fAssessmentEvidenceSha256 m.p8fAssessmentEvidenceSha256
    ["exact_human_approval_graph_binding_verified"] "caller_declared_approval_safety_trusted"
  validateUpstream rt .upstreamInvalid p8h p.expectedP8hAssessmentEvidenceSha256 m.p8hAssessmentEvidenceSha256
    ["exact_state_transition_graph_binding_verified"] "caller_declared_state_safety_trusted"

def validateWorkspace (p : AgentArtifactPolicy) (w : WorkspaceRoot) : Check Unit := do
  rejectIf (w.ownerId ∉ p.trustedOwnerIds) .ownerUntrusted "workspace owner untrusted" (some w.workspaceId)
  rejectIf (w.rootPath.toList.head? ≠ some '/' ∨ PosixPath.normpath w.rootPath.toList ≠ w.rootPath.toList) .referenceInvalid
    "workspace root invalid" (some w.workspaceId)
  rejectIf (Dict.mapping p.expectedWorkspaceProfiles w.workspaceId ≠ some w.profile) .policyDrift "workspace profile drift"
    (some w.workspaceId)
  rejectIf (∃ scope ∈ w.allowedWritePrefixes ++ w.allowedExecutePrefixes ++ w.buildContextPrefixes, pathReason scope ≠ none)
    .referenceInvalid "workspace prefix invalid" (some w.workspaceId)

def validateArtifact (p : AgentArtifactPolicy) (workspaces : Dict WorkspaceRoot) (a : WorkspaceArtifact) : Check Unit := do
  rejectIf (a.ownerId ∉ p.trustedOwnerIds) .ownerUntrusted "artifact owner untrusted" (some a.artifactId)
  rejectIf ((workspaces a.workspaceId).isSome = false ∨ ¬ sha rt a.contentSha256) .referenceInvalid "artifact reference invalid"
    (some a.artifactId)
  rejectIf (pathReason a.relativePath ≠ none) .referenceInvalid "artifact path invalid" (some a.artifactId)
  rejectIf (Dict.mapping p.expectedArtifactProfiles a.artifactId ≠ some (a.profile rt)) .policyDrift "artifact profile drift"
    (some a.artifactId)
  let w ← getItem workspaces a.workspaceId
  rejectIf (a.tenantId ≠ w.tenantId) .policyDrift "artifact tenant drift" (some a.artifactId)
  let kinds ← getItem (Dict.mapping p.allowedKindsByWorkspace) a.workspaceId
  rejectIf (a.kind ∉ kinds) .policyDrift "artifact kind not allowed in workspace" (some a.artifactId)
  rejectIf (LinkEscapes a.relativePath a.symlinkTarget ∨ LinkEscapes a.relativePath a.hardlinkTarget) .referenceInvalid
    "artifact link escapes workspace" (some a.artifactId)

def validateMember (actionId : String) (m : ArchiveMember) : Check Unit := do
  rejectIf (m.sizeBytes < 0) .referenceInvalid "archive member size invalid" (some actionId)
  rejectIf (m.memberType ∈ [ArchiveMemberType.symlink, .hardlink] ∧ m.linkTarget = none) .referenceInvalid
    "archive link missing target" (some actionId)

def validateAction (p : AgentArtifactPolicy) (artifacts : Dict WorkspaceArtifact) (now : Int) (a : ArtifactAction) : Check Unit := do
  rejectIf (a.ownerId ∉ p.trustedOwnerIds) .ownerUntrusted "action owner untrusted" (some a.actionId)
  rejectIf ((artifacts a.artifactId).isSome = false ∨ a.planStepId = "" ∨ a.messageId = "") .referenceInvalid
    "action reference invalid" (some a.actionId)
  rejectIf (¬ (sha rt a.expectedBaseSha256 ∧ sha rt a.proposedContentSha256 ∧ sha rt a.sourceRequestSha256 ∧ sha rt a.patchSha256))
    .referenceInvalid "action digest invalid" (some a.actionId)
  rejectIf (a.issuedAtEpoch > now + p.maxFutureSkewSeconds) .referenceInvalid "action future skew invalid" (some a.actionId)
  rejectIf (∃ source ∈ a.sourceArtifactIds, (artifacts source).isSome = false) .referenceInvalid "unknown source artifact"
    (some a.actionId)
  rejectIf (a.proposedKind ∉ p.allowedOperationsByKind.map (·.1)) .referenceInvalid "unknown proposed kind" (some a.actionId)
  forEach (validateMember a.actionId) a.archiveMembers

def AgentArtifactManifest.workspace (m : AgentArtifactManifest) : Dict WorkspaceRoot := .ofItems WorkspaceRoot.workspaceId m.workspaces

def AgentArtifactManifest.artifact (m : AgentArtifactManifest) : Dict WorkspaceArtifact := .ofItems WorkspaceArtifact.artifactId m.artifacts

/-- `_validate_manifest`. -/
def validateManifest (p : AgentArtifactPolicy) (m : AgentArtifactManifest) (now : Int) : Check Unit := do
  rejectIf (m.schemaVersion ≠ artifactSchemaVersion ∨ m.graphId ≠ p.expectedGraphId ∨ m.version ≠ p.expectedGraphVersion)
    .manifestInvalid "manifest identity invalid" none
  rejectIf (m.digest rt ≠ rt.casefold p.expectedGraphSha256) .manifestInvalid "manifest digest mismatch" none
  rejectIf (now - m.createdAtEpoch > p.maxManifestAgeSeconds ∨ m.createdAtEpoch - now > p.maxFutureSkewSeconds) .manifestInvalid
    "manifest freshness invalid" none
  unique .coverageMismatch (·.workspaceId) m.workspaces
  unique .coverageMismatch (·.artifactId) m.artifacts
  unique .coverageMismatch (·.actionId) m.actions
  rejectIf (¬ sameSet (m.workspaces.map (·.workspaceId)) p.requiredWorkspaceIds ∨
    ¬ sameSet (m.artifacts.map (·.artifactId)) p.requiredArtifactIds ∨ ¬ sameSet (m.actions.map (·.actionId)) p.requiredActionIds)
    .coverageMismatch "manifest coverage mismatch" none
  forEach (validateWorkspace p) m.workspaces
  forEach (validateArtifact rt p m.workspace) m.artifacts
  forEach (validateAction rt p m.artifact now) m.actions

/-! ## Actions -/

/-- `current_sha` and `current_trust`. -/
structure Current where
  sha : Dict String
  trust : Dict ArtifactTrust

/-- What an action is held against besides the artifacts: the policy, and `steps`, `approvals` and `transitions`. -/
structure Upstreams where
  policy : AgentArtifactPolicy
  steps : Dict Json
  approvals : Dict Json
  transitions : Dict Json

/-- `approval_ok`. -/
def ApprovalOk (c : Upstreams) (a : ArtifactAction) : Prop := ∃ id ∈ a.approvalActionId, ∃ approval ∈ c.approvals id, safe rt approval

instance decidableApprovalOk (c : Upstreams) (a : ArtifactAction) : Decidable (ApprovalOk rt c a) :=
  inferInstanceAs (Decidable (∃ id ∈ a.approvalActionId, _))

/-- The risks of the path, of the links and of the members of an archive. -/
def pathRisks (c : Upstreams) (w : WorkspaceRoot) (a : ArtifactAction) : List ArtifactRisk :=
  (match pathReason a.targetRelativePath with
    | some reason => [reason]
    | none => flag (¬ ∃ scope ∈ w.allowedWritePrefixes, Under a.targetRelativePath scope) ArtifactRisk.outOfScopeWrite) ++
  flag (LinkEscapes a.targetRelativePath a.proposedSymlinkTarget) ArtifactRisk.symlinkEscape ++
  flag (LinkEscapes a.targetRelativePath a.proposedHardlinkTarget) ArtifactRisk.hardlinkEscape ++
  flag (a.archiveMembers ≠ [] ∧ ((a.archiveMembers.length : Int) > c.policy.maxArchiveMembers ∨
    (a.archiveMembers.map (·.sizeBytes)).sum > c.policy.maxArchiveTotalBytes)) ArtifactRisk.archiveLimitExceeded ++
  flag (∃ m ∈ a.archiveMembers, pathReason m.memberPath ≠ none) ArtifactRisk.archiveTraversal ++
  flag (∃ m ∈ a.archiveMembers, m.memberType = .symlink ∧ LinkEscapes m.memberPath m.linkTarget) ArtifactRisk.archiveLinkEscape ++
  flag (∃ m ∈ a.archiveMembers, m.memberType = .hardlink ∧ LinkEscapes m.memberPath m.linkTarget) ArtifactRisk.archiveLinkEscape

/-- The risks of who may do what, and of what vouches for it. -/
def authorityRisks (c : Upstreams) (w : WorkspaceRoot) (artifact : WorkspaceArtifact) (kinds : List ArtifactKind) (a : ArtifactAction) :
    List ArtifactRisk :=
  let step := c.steps a.planStepId
  flag (a.tenantId ≠ artifact.tenantId ∨ a.tenantId ≠ w.tenantId) ArtifactRisk.crossTenant ++
  flag (a.proposedKind ∉ kinds) ArtifactRisk.kindUnauthorized ++
  flag (a.operation ∉ ((c.policy.allowedOperationsByKind.find? fun q => q.1 = a.proposedKind).map (·.2)).getD [])
    ArtifactRisk.operationUnauthorized ++
  flag (¬ sha rt a.proposedContentSha256) ArtifactRisk.contentDigestMismatch ++
  flag (¬ Vouched rt step) ArtifactRisk.upstreamPlanUnsafe ++
  flag (∃ s ∈ step, safe rt s ∧ text rt (getattr s "agent_id" (.str "")) ≠ a.actorAgentId) ArtifactRisk.provenanceMismatch ++
  flag (a.operation ∈ c.policy.stateRequiredOperations ∧ ¬ Vouched rt (c.transitions (a.stateTransitionId.getD "")))
    ArtifactRisk.upstreamStateUnsafe ++
  flag (RequiresApproval c.policy a ∧ ¬ ApprovalOk rt c a) ArtifactRisk.upstreamApprovalUnsafe ++
  flag (a.operation ∈ c.policy.provenanceRequiredOperations ∧ (¬ sha rt a.sourceRequestSha256 ∨ ¬ sha rt a.patchSha256))
    ArtifactRisk.provenanceMissing ++
  flag (a.operation ∈ c.policy.provenanceRequiredOperations ∧
    (a.actorAgentId = "" ∨ a.originalPrincipalId = "" ∨ a.messageId = "")) ArtifactRisk.provenanceMissing

/-- The risks of what stays behind and of what runs. -/
def persistenceRisks (c : Upstreams) (w : WorkspaceRoot) (a : ArtifactAction) : List ArtifactRisk :=
  flag ((∃ scope ∈ c.policy.controlPathPrefixes, Under a.targetRelativePath scope) ∧ ¬ ApprovalOk rt c a)
    ArtifactRisk.controlPathPersistence ++
  flag ((∃ scope ∈ c.policy.dependencyPathPrefixes, Under a.targetRelativePath scope) ∧ ¬ ApprovalOk rt c a)
    ArtifactRisk.dependencyPersistence ++
  flag ((∃ scope ∈ w.buildContextPrefixes, Under a.targetRelativePath scope) ∧
    a.proposedTrust ∈ [ArtifactTrust.untrustedInput, .generated] ∧ ¬ ApprovalOk rt c a) ArtifactRisk.buildContextPoisoning ++
  flag (a.proposedExecutable = true ∧ (¬ ApprovalOk rt c a ∨ ¬ ∃ scope ∈ w.allowedExecutePrefixes, Under a.targetRelativePath scope))
    ArtifactRisk.executableWrite ++
  flag (a.operation = .execute ∧ ¬ ApprovalOk rt c a) ArtifactRisk.executionUnapproved

/-- The risks of what the artifact and the sources of an action are by then. -/
def currentRisks (base : String) (sources : List ArtifactTrust) (a : ArtifactAction) : List ArtifactRisk :=
  flag (rt.casefold a.expectedBaseSha256 ≠ base) ArtifactRisk.baseDigestMismatch ++
  flag ((∃ trust ∈ sources, trust ∈ [ArtifactTrust.untrustedInput, .generated]) ∧
    a.proposedTrust ∈ [ArtifactTrust.verified, .trustedControl]) ArtifactRisk.generatedCodeLaundering

/-- The operations whose result an artifact takes on. -/
def resulting : List ArtifactOperation := [.create, .modify, .extract, .delete, .publish]

/-- One action of the loop of `derive`. -/
def act (m : AgentArtifactManifest) (c : Upstreams) (cur : Current) (a : ArtifactAction) : Check (Current × ArtifactActionFact) := do
  let artifact ← getItem m.artifact a.artifactId
  let w ← getItem m.workspace artifact.workspaceId
  let kinds ← getItem (Dict.mapping c.policy.allowedKindsByWorkspace) artifact.workspaceId
  let base ← getItem cur.sha a.artifactId
  let sources ← Checks.gather (getItem cur.trust) a.sourceArtifactIds
  let risks := sortedSet ArtifactRisk.value (pathRisks c w a ++ authorityRisks rt c w artifact kinds a ++ persistenceRisks rt c w a ++
    currentRisks rt base sources a)
  let changed := risks = [] ∧ a.operation ∈ resulting
  return (
    if changed then ⟨cur.sha.set a.artifactId (rt.casefold a.proposedContentSha256), cur.trust.set a.artifactId a.proposedTrust⟩ else cur,
    { actionId := a.actionId
      artifactId := a.artifactId
      operation := a.operation
      decision := if risks = [] then .allow else .deny
      risks := risks
      targetRelativePath := a.targetRelativePath
      resultingContentSha256 := if changed then rt.casefold a.proposedContentSha256 else base
      proposedKind := a.proposedKind
      proposedTrust := a.proposedTrust
      proposedExecutable := a.proposedExecutable
      riskScore := maxScore ArtifactRisk.score risks })

/-- The loop of `derive`. -/
def actAll (m : AgentArtifactManifest) (c : Upstreams) (cur : Current) : List ArtifactAction → Check (List ArtifactActionFact × Dict String)
  | [] => .ok ([], cur.sha)
  | a :: as => do
    let (cur', fact) ← act rt m c cur a
    let (facts, results) ← actAll m c cur' as
    return (fact :: facts, results)

def upstreamsOf (p : AgentArtifactPolicy) (p8c p8f p8h : Json) : Upstreams where
  policy := p
  steps := inventory rt p8c "steps" "step_id"
  approvals := inventory rt p8f "actions" "action_id"
  transitions := inventory rt p8h "transitions" "transition_id"

def initial (m : AgentArtifactManifest) : Current where
  sha id := (m.artifact id).map fun a => rt.casefold a.contentSha256
  trust id := (m.artifact id).map (·.trust)

structure AgentArtifactWorkspaceSecurityAnalyzer where
  policy : AgentArtifactPolicy

/-- `derive`: the facts in the order of the actions, and the digests the artifacts are left with. -/
def AgentArtifactWorkspaceSecurityAnalyzer.derive (analyzer : AgentArtifactWorkspaceSecurityAnalyzer) (m : AgentArtifactManifest)
    (p8c p8f p8h : Json) (now : Int) : Check (List ArtifactActionFact × Dict String) := do
  validatePolicy rt analyzer.policy
  validateUpstreams rt analyzer.policy m p8c p8f p8h
  validateManifest rt analyzer.policy m now
  actAll rt m (upstreamsOf rt analyzer.policy p8c p8f p8h) (initial rt m) m.actions

end Aegis.Agentic.ArtifactSecurity
