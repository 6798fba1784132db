/-
  Aegis.Assurance.Finding — the P6-E gate on the lifecycle of an adversarial finding
  (finding_lifecycle.py).

  A finding is a record that is replaced, never changed in place: each transition names the digest of
  the record before and of the proposed one. `evaluate` validates both records against the corpus and
  the invariant registry, compares them, and for a closure checks the evidence of a retest.
-/

import Aegis.Assurance.Waivers

namespace Aegis.Assurance.Finding

open Data Data.Checks

def P6E_FINDING_POLICY_VERSION : String := "adversarial-finding-lifecycle-closure-v1"
def P6E_FINDING_SCHEMA_VERSION : String := "aegis-adversarial-finding-v1"
def P6E_RETEST_SCHEMA_VERSION : String := "aegis-adversarial-finding-retest-v1"

inductive FindingState where
  | open
  | fixInProgress
  | readyForRetest
  | closed
  deriving DecidableEq, Repr

def FindingState.value : FindingState → String
  | .open => "open"
  | .fixInProgress => "fix_in_progress"
  | .readyForRetest => "ready_for_retest"
  | .closed => "closed"

inductive FindingLifecycleRejectReason where
  | corpusInvalid
  | corpusDigestMismatch
  | registryInvalid
  | registryDigestMismatch
  | invariantDrift
  | findingInvalid
  | findingIdentityMismatch
  | findingOwnerUntrusted
  | findingScopeMismatch
  | invariantOwnerBindingMismatch
  | findingSeverityDowngrade
  | findingVersionInvalid
  | transitionInvalid
  | timestampInvalid
  | targetIdentityInvalid
  | requestInvalid
  | retestRequired
  | retestUnexpected
  | retestInvalid
  | retestRunnerUntrusted
  | retestIdentityMismatch
  | retestCaseCoverageMismatch
  | retestCaseDefinitionMismatch
  | retestFailed
  | retestStale
  | retestFuture
  | retestDigestMismatch
  deriving DecidableEq, Repr

/-- What `evaluate` raises: `FindingLifecycleRejected`, a KeyError, or the ValueError of `max` of nothing. -/
inductive Error where
  | rejected (reason : FindingLifecycleRejectReason) (message : String) (findingId caseId : Option String)
  | key (k : String)
  | value
  deriving DecidableEq, Repr

abbrev Gate (α : Type) := Except Error α

structure AdversarialFinding where
  findingId : String
  version : Int
  title : String
  severity : AssuranceSeverity
  ownerId : String
  affectedCaseIds : List String
  affectedBoundaries : List String
  invariantOwnerIds : List String
  discoveredReleaseId : String
  discoveredCommitSha : String
  discoveredPackageVersion : String
  state : FindingState
  trackingRef : String
  openedAtEpoch : Int
  updatedAtEpoch : Int
  targetReleaseId : String
  targetCommitSha : String
  targetPackageVersion : String
  closureRetestSha256 : String
  schemaVersion : String

structure FindingRetestEvidence where
  findingId : String
  readyRecordSha256 : String
  releaseId : String
  commitSha : String
  packageVersion : String
  corpusSha256 : String
  runnerId : String
  executedAtEpoch : Int
  results : List CaseObservation
  schemaVersion : String

structure FindingLifecycleRequest where
  findingId : String
  expectedPreviousRecordSha256 : String
  proposedRecordSha256 : String
  evaluatedAtEpoch : Int

structure FindingLifecyclePolicy where
  expectedCorpusSha256 : String
  expectedInvariantRegistrySha256 : String
  trustedFindingOwnerIds : List String
  trustedRetestRunnerIds : List String
  maxRetestAgeSeconds : Int

structure VerifiedFindingTransition where
  findingId : String
  previousVersion : Int
  currentVersion : Int
  previousState : FindingState
  currentState : FindingState
  severity : AssuranceSeverity
  ownerId : String
  affectedCaseIds : List String
  affectedBoundaries : List String
  invariantOwnerIds : List String
  previousRecordSha256 : String
  currentRecordSha256 : String
  corpusSha256 : String
  invariantRegistrySha256 : String
  retestEvidenceSha256 : Option String
  transitionEvidenceSha256 : String
  closureVerified : Bool

/-- `_ALLOWED_TRANSITIONS[state]`. -/
def allowedTransitions : FindingState → List FindingState
  | .open => [.fixInProgress]
  | .fixInProgress => [.readyForRetest]
  | .readyForRetest => [.closed]
  | .closed => []

/-! ## Canonical documents -/

section
variable (rt : Runtime)

def sortedTexts (ids : List String) : List String := sortOn id ids

def texts (ids : List String) : Json := .arr (ids.map .str)

def findingDocument (f : AdversarialFinding) : Json := .obj [
  ("affected_boundaries", texts (sortedTexts f.affectedBoundaries)),
  ("affected_case_ids", texts (sortedTexts f.affectedCaseIds)),
  ("closure_retest_sha256", .str (rt.casefold f.closureRetestSha256)),
  ("discovered_commit_sha", .str (rt.casefold f.discoveredCommitSha)),
  ("discovered_package_version", .str f.discoveredPackageVersion),
  ("discovered_release_id", .str f.discoveredReleaseId), ("finding_id", .str f.findingId),
  ("invariant_owner_ids", texts (sortedTexts f.invariantOwnerIds)), ("opened_at_epoch", .int f.openedAtEpoch),
  ("owner_id", .str f.ownerId), ("schema_version", .str f.schemaVersion), ("severity", .str f.severity.value),
  ("state", .str f.state.value), ("target_commit_sha", .str (rt.casefold f.targetCommitSha)),
  ("target_package_version", .str f.targetPackageVersion), ("target_release_id", .str f.targetReleaseId),
  ("title", .str f.title), ("tracking_ref", .str f.trackingRef), ("updated_at_epoch", .int f.updatedAtEpoch),
  ("version", .int f.version)]

def findingDigest (f : AdversarialFinding) : String := rt.sha256 (findingDocument rt f)

def canonicalRetest (r : FindingRetestEvidence) : Json := .obj [
  ("commit_sha", .str (rt.casefold r.commitSha)), ("corpus_sha256", .str (rt.casefold r.corpusSha256)),
  ("executed_at_epoch", .int r.executedAtEpoch), ("finding_id", .str r.findingId),
  ("package_version", .str r.packageVersion), ("ready_record_sha256", .str (rt.casefold r.readyRecordSha256)),
  ("release_id", .str r.releaseId), ("results", canonicalObservations rt r.results), ("runner_id", .str r.runnerId),
  ("schema_version", .str r.schemaVersion)]

def retestDigest (r : FindingRetestEvidence) : String := rt.sha256 (canonicalRetest rt r)

/-! ## The corpus and the registry -/

/-- `x or None`. -/
def orNone (s : String) : Option String := if s = "" then none else some s

def reject (reason : FindingLifecycleRejectReason) (message : String) : Error := .rejected reason message none none

def rejectCase (reason : FindingLifecycleRejectReason) (message caseId : String) : Error :=
  .rejected reason message none (some caseId)

def rejectFinding (reason : FindingLifecycleRejectReason) (message findingId : String) : Error :=
  .rejected reason message (some findingId) none

def validateCorpus (corpus : AssuranceCorpus) (policy : FindingLifecyclePolicy) : Gate Unit := do
  Assurance.validateCorpus (reject .corpusInvalid "assurance corpus metadata is invalid")
    (fun c => .rejected .corpusInvalid "assurance corpus contains an invalid case" none (orNone c.caseId))
    (fun c => rejectCase .corpusInvalid "assurance corpus contains duplicate case IDs" c.caseId) corpus
  raiseIf (¬ isSha256 rt policy.expectedCorpusSha256 ∨ corpusDigest rt corpus ≠ rt.casefold policy.expectedCorpusSha256)
    (reject .corpusDigestMismatch "assurance corpus does not match the policy-pinned digest")

def validateRegistry (registry : InvariantRegistry) (corpus : AssuranceCorpus) (policy : FindingLifecyclePolicy) : Gate Unit := do
  raiseIf (registry.schemaVersion ≠ P6B_INVARIANT_REGISTRY_SCHEMA_VERSION ∨ registry.registryId = "" ∨
    registry.version = "" ∨ ¬ isSha256 rt registry.corpusSha256 ∨ registry.records = [])
    (reject .registryInvalid "invariant registry metadata is invalid")
  raiseIf (rt.casefold registry.corpusSha256 ≠ corpusDigest rt corpus)
    (reject .invariantDrift "invariant registry is bound to a different assurance corpus")
  raiseIf (¬ isSha256 rt policy.expectedInvariantRegistrySha256 ∨
    invariantRegistryDigest rt registry ≠ rt.casefold policy.expectedInvariantRegistrySha256)
    (reject .registryDigestMismatch "invariant registry does not match the policy-pinned digest")
  scan (fun seen r => do
    raiseIf (r.caseId = "" ∨ ¬ isSha256 rt r.caseDefinitionSha256 ∨ r.ownerId = "")
      (.rejected .registryInvalid "invariant registry contains an invalid record" none (orNone r.caseId))
    raiseIf (r.caseId ∈ seen.map InvariantRecord.caseId)
      (rejectCase .registryInvalid "invariant registry contains duplicate case IDs" r.caseId)
    let c ← orRaise (rejectCase .invariantDrift "invariant registry references a case outside the assurance corpus" r.caseId)
      (corpus.find r.caseId)
    raiseIf (rt.casefold r.caseDefinitionSha256 ≠ caseDefinitionDigest rt c ∨ r.severity ≠ c.severity)
      (rejectCase .invariantDrift "invariant registry definition or severity drifted from the assurance corpus" r.caseId))
    [] registry.records
  raiseIf (¬ Agentic.sameSet (registry.records.map InvariantRecord.caseId) corpus.ids)
    (reject .invariantDrift "invariant registry must have exact one-to-one assurance-case coverage")

/-! ## A finding record -/

/-- A case that the finding names: it must be a blocking case of the corpus. -/
def linkedCase (corpus : AssuranceCorpus) (findingId caseId : String) : Gate AssuranceCase := do
  let c ← orRaise (.rejected .findingScopeMismatch "finding references an unknown assurance case" (some findingId) (some caseId))
    (corpus.find caseId)
  raiseIf (¬ c.Blocks) (.rejected .findingScopeMismatch
    "adversarial findings may only link to attack-blocking assurance cases" (some findingId) (some caseId))
  return c

/-- `max(cases, key=lambda case: _SEVERITY_RANK[case.severity]).severity`: the first of the highest rank. -/
def highestSeverity : List AssuranceCase → Option AssuranceSeverity
  | [] => none
  | c :: cs => some (cs.foldl (fun best d => if severityRank best.severity < severityRank d.severity then d else best) c).severity

def hasTarget (f : AdversarialFinding) : Prop := f.targetReleaseId ≠ "" ∨ f.targetCommitSha ≠ "" ∨ f.targetPackageVersion ≠ ""

instance decidableHasTarget (f : AdversarialFinding) : Decidable (hasTarget f) := inferInstanceAs (Decidable (_ ∨ _))

/-- The last checks of a record: target and closure evidence, by its state. -/
def validateTarget (f : AdversarialFinding) : Gate Unit :=
  match f.state with
  | .open => raiseIf (hasTarget f ∨ f.closureRetestSha256 ≠ "")
      (rejectFinding .targetIdentityInvalid "open findings may not carry fix-target or closure evidence" f.findingId)
  | state => do
    raiseIf (f.targetReleaseId = "" ∨ ¬ isSha256 rt f.targetCommitSha ∨ f.targetPackageVersion = "")
      (rejectFinding .targetIdentityInvalid "findings beyond open state require an exact fix-target release identity" f.findingId)
    raiseIf (state ≠ .closed ∧ f.closureRetestSha256 ≠ "")
      (rejectFinding .retestUnexpected "non-closed findings may not carry closure retest evidence" f.findingId)
    raiseIf (state = .closed ∧ ¬ isSha256 rt f.closureRetestSha256)
      (rejectFinding .retestRequired "closed findings require an exact closure retest digest" f.findingId)

def validateFinding (f : AdversarialFinding) (corpus : AssuranceCorpus) (registry : InvariantRegistry)
    (trustedOwnerIds : List String) : Gate Unit := do
  raiseIf (f.schemaVersion ≠ P6E_FINDING_SCHEMA_VERSION ∨ f.findingId = "" ∨ f.version ≤ 0 ∨ f.title = "" ∨ f.ownerId = "" ∨
    f.affectedCaseIds = [] ∨ f.affectedBoundaries = [] ∨ f.invariantOwnerIds = [] ∨ f.discoveredReleaseId = "" ∨
    ¬ isSha256 rt f.discoveredCommitSha ∨ f.discoveredPackageVersion = "" ∨ f.trackingRef = "" ∨ f.openedAtEpoch ≤ 0 ∨
    f.updatedAtEpoch < f.openedAtEpoch)
    (.rejected .findingInvalid "finding metadata is invalid" (orNone f.findingId) none)
  raiseIf (f.ownerId ∉ trustedOwnerIds)
    (rejectFinding .findingOwnerUntrusted "finding owner is not trusted by lifecycle policy" f.findingId)
  raiseIf (¬ f.affectedCaseIds.Nodup ∨ ¬ f.affectedBoundaries.Nodup ∨ ¬ f.invariantOwnerIds.Nodup)
    (rejectFinding .findingScopeMismatch
      "finding scope contains duplicate case, boundary, or invariant-owner identifiers" f.findingId)
  let linked ← gather (linkedCase corpus f.findingId) f.affectedCaseIds
  raiseIf (sortedTexts f.affectedBoundaries ≠ sortedTexts (linked.map (·.boundary)).dedup)
    (rejectFinding .findingScopeMismatch "finding boundary scope does not match linked assurance cases" f.findingId)
  let owners ← gather (fun c => orRaise (.key c.caseId) ((registry.find c.caseId).map (·.ownerId))) linked
  raiseIf (sortedTexts f.invariantOwnerIds ≠ sortedTexts owners.dedup)
    (rejectFinding .invariantOwnerBindingMismatch "finding does not bind the exact invariant owners of linked cases" f.findingId)
  let expectedSeverity ← orRaise .value (highestSeverity linked)
  raiseIf (f.severity ≠ expectedSeverity)
    (rejectFinding .findingSeverityDowngrade
      "finding severity must equal the highest severity of its linked assurance cases" f.findingId)
  validateTarget rt f

/-! ## A transition -/

/-- `immutable_pairs`, one side. -/
structure Identity where
  title : String
  severity : AssuranceSeverity
  ownerId : String
  affectedCaseIds : List String
  affectedBoundaries : List String
  invariantOwnerIds : List String
  discoveredReleaseId : String
  discoveredCommitSha : String
  discoveredPackageVersion : String
  trackingRef : String
  openedAtEpoch : Int
  deriving DecidableEq

def identity (f : AdversarialFinding) : Identity where
  title := f.title
  severity := f.severity
  ownerId := f.ownerId
  affectedCaseIds := sortedTexts f.affectedCaseIds
  affectedBoundaries := sortedTexts f.affectedBoundaries
  invariantOwnerIds := sortedTexts f.invariantOwnerIds
  discoveredReleaseId := f.discoveredReleaseId
  discoveredCommitSha := rt.casefold f.discoveredCommitSha
  discoveredPackageVersion := f.discoveredPackageVersion
  trackingRef := f.trackingRef
  openedAtEpoch := f.openedAtEpoch

/-- The fix target of a record. -/
def target (f : AdversarialFinding) : String × String × String :=
  (f.targetReleaseId, rt.casefold f.targetCommitSha, f.targetPackageVersion)

def validateTransition (previous proposed : AdversarialFinding) (evaluatedAtEpoch : Int) : Gate Unit := do
  raiseIf (previous.findingId ≠ proposed.findingId)
    (rejectFinding .findingIdentityMismatch "finding ID changed across lifecycle transition" proposed.findingId)
  raiseIf (identity rt previous ≠ identity rt proposed)
    (rejectFinding .findingIdentityMismatch "immutable finding identity or scope changed across transition" proposed.findingId)
  raiseIf (proposed.version ≠ previous.version + 1)
    (rejectFinding .findingVersionInvalid "finding version must advance by exactly one" proposed.findingId)
  raiseIf (proposed.state ∉ allowedTransitions previous.state)
    (rejectFinding .transitionInvalid "finding state transition is not permitted" proposed.findingId)
  raiseIf (previous.updatedAtEpoch > evaluatedAtEpoch ∨ proposed.updatedAtEpoch > evaluatedAtEpoch ∨
    proposed.updatedAtEpoch ≤ previous.updatedAtEpoch)
    (rejectFinding .timestampInvalid "finding timestamps are future-dated or non-monotonic" proposed.findingId)
  raiseIf (previous.state ≠ .open ∧ target rt previous ≠ target rt proposed)
    (rejectFinding .targetIdentityInvalid "fix-target release identity changed after remediation began" proposed.findingId)

def validateRequest (request : FindingLifecycleRequest) (previous proposed : AdversarialFinding) : Gate Unit := do
  raiseIf (request.findingId = "" ∨ ¬ isSha256 rt request.expectedPreviousRecordSha256 ∨
    ¬ isSha256 rt request.proposedRecordSha256 ∨ request.evaluatedAtEpoch ≤ 0)
    (.rejected .requestInvalid "finding lifecycle request metadata is invalid" (orNone request.findingId) none)
  raiseIf (request.findingId ≠ previous.findingId ∨ request.findingId ≠ proposed.findingId ∨
    rt.casefold request.expectedPreviousRecordSha256 ≠ findingDigest rt previous ∨
    rt.casefold request.proposedRecordSha256 ≠ findingDigest rt proposed)
    (rejectFinding .findingIdentityMismatch
      "lifecycle request does not bind to exact previous/proposed finding records" request.findingId)

/-! ## A retest -/

def validateResult (corpus : AssuranceCorpus) (findingId : String) (seen : List CaseObservation) (r : CaseObservation) :
    Gate Unit := do
  let rejected := fun reason message => Error.rejected reason message (some findingId) (some r.caseId)
  raiseIf (r.caseId ∈ seen.map CaseObservation.caseId)
    (rejected .retestCaseCoverageMismatch "closure retest contains a duplicate assurance-case result")
  let c ← orRaise (rejected .retestCaseCoverageMismatch "closure retest contains an unknown assurance-case result")
    (corpus.find r.caseId)
  raiseIf (¬ isSha256 rt r.caseDefinitionSha256 ∨ rt.casefold r.caseDefinitionSha256 ≠ caseDefinitionDigest rt c)
    (rejected .retestCaseDefinitionMismatch "closure retest result does not bind to the immutable case definition")

def validateLinkedResult (corpus : AssuranceCorpus) (results : List CaseObservation) (findingId caseId : String) : Gate Unit := do
  let c ← orRaise (.key caseId) (corpus.find caseId)
  let outcome ← orRaise (.key caseId) (observed results caseId)
  raiseIf (outcome ≠ c.expectation)
    (.rejected .retestFailed "one or more finding-linked assurance cases still fail on the target release" (some findingId)
      (some caseId))

def validateRetest (retest : FindingRetestEvidence) (previous proposed : AdversarialFinding) (corpus : AssuranceCorpus)
    (policy : FindingLifecyclePolicy) (evaluatedAtEpoch : Int) : Gate Unit := do
  let rejected := fun reason message => rejectFinding reason message proposed.findingId
  raiseIf (retest.schemaVersion ≠ P6E_RETEST_SCHEMA_VERSION ∨ retest.findingId = "" ∨ ¬ isSha256 rt retest.readyRecordSha256 ∨
    retest.releaseId = "" ∨ ¬ isSha256 rt retest.commitSha ∨ retest.packageVersion = "" ∨ ¬ isSha256 rt retest.corpusSha256 ∨
    retest.runnerId = "" ∨ retest.executedAtEpoch ≤ 0 ∨ retest.results = [])
    (rejected .retestInvalid "finding closure retest metadata is invalid")
  raiseIf (retest.runnerId ∉ policy.trustedRetestRunnerIds)
    (rejected .retestRunnerUntrusted "finding closure retest was produced by an untrusted runner")
  raiseIf (retest.findingId ≠ proposed.findingId ∨ rt.casefold retest.readyRecordSha256 ≠ findingDigest rt previous ∨
    retest.releaseId ≠ proposed.targetReleaseId ∨ rt.casefold retest.commitSha ≠ rt.casefold proposed.targetCommitSha ∨
    retest.packageVersion ≠ proposed.targetPackageVersion ∨ rt.casefold retest.corpusSha256 ≠ corpusDigest rt corpus)
    (rejected .retestIdentityMismatch
      "closure retest does not bind to exact finding, ready state, target release, or corpus")
  raiseIf (retest.executedAtEpoch > evaluatedAtEpoch) (rejected .retestFuture "closure retest is future-dated")
  raiseIf (retest.executedAtEpoch < previous.updatedAtEpoch ∨
    evaluatedAtEpoch - retest.executedAtEpoch > policy.maxRetestAgeSeconds)
    (rejected .retestStale "closure retest predates ready-for-retest state or exceeds freshness policy")
  scan (validateResult rt corpus proposed.findingId) [] retest.results
  raiseIf (¬ Agentic.sameSet (retest.results.map CaseObservation.caseId) corpus.ids)
    (rejected .retestCaseCoverageMismatch "closure retest must contain exact one-to-one corpus case coverage")
  forEach (validateLinkedResult corpus retest.results proposed.findingId) proposed.affectedCaseIds
  raiseIf (rt.casefold proposed.closureRetestSha256 ≠ retestDigest rt retest)
    (rejected .retestDigestMismatch "closed finding record does not bind to the exact retest evidence digest")

/-- The retest that a transition needs, or must not have; its digest. -/
def validateClosure (previous proposed : AdversarialFinding) (retest : Option FindingRetestEvidence) (corpus : AssuranceCorpus)
    (policy : FindingLifecyclePolicy) (evaluatedAtEpoch : Int) : Gate (Option String) :=
  match proposed.state, retest with
  | .closed, none => .error (rejectFinding .retestRequired "a finding cannot close without exact retest evidence" proposed.findingId)
  | .closed, some r => do
    validateRetest rt r previous proposed corpus policy evaluatedAtEpoch
    return some (retestDigest rt r)
  | _, none => .ok none
  | _, some _ => .error (rejectFinding .retestUnexpected
      "retest evidence is only accepted for a closure transition" proposed.findingId)

/-! ## The gate -/

def transitionDocument (corpusSha256 registrySha256 : String) (request : FindingLifecycleRequest)
    (previous proposed : AdversarialFinding) (retestSha256 : Option String) : Json := .obj [
  ("corpus_sha256", .str corpusSha256), ("evaluated_at_epoch", .int request.evaluatedAtEpoch),
  ("finding_id", .str proposed.findingId), ("invariant_registry_sha256", .str registrySha256),
  ("policy_version", .str P6E_FINDING_POLICY_VERSION), ("previous_record_sha256", .str (findingDigest rt previous)),
  ("proposed_record_sha256", .str (findingDigest rt proposed)), ("retest_evidence_sha256", .opt .str retestSha256)]

def verified (corpus : AssuranceCorpus) (registry : InvariantRegistry) (request : FindingLifecycleRequest)
    (previous proposed : AdversarialFinding) (retestSha256 : Option String) : VerifiedFindingTransition where
  findingId := proposed.findingId
  previousVersion := previous.version
  currentVersion := proposed.version
  previousState := previous.state
  currentState := proposed.state
  severity := proposed.severity
  ownerId := proposed.ownerId
  affectedCaseIds := sortedTexts proposed.affectedCaseIds
  affectedBoundaries := sortedTexts proposed.affectedBoundaries
  invariantOwnerIds := sortedTexts proposed.invariantOwnerIds
  previousRecordSha256 := findingDigest rt previous
  currentRecordSha256 := findingDigest rt proposed
  corpusSha256 := corpusDigest rt corpus
  invariantRegistrySha256 := invariantRegistryDigest rt registry
  retestEvidenceSha256 := retestSha256
  transitionEvidenceSha256 := rt.sha256 (transitionDocument rt (corpusDigest rt corpus) (invariantRegistryDigest rt registry)
    request previous proposed retestSha256)
  closureVerified := proposed.state = .closed

/-- `AdversarialFindingLifecycleGate.evaluate`. -/
def evaluate (corpus : AssuranceCorpus) (registry : InvariantRegistry) (policy : FindingLifecyclePolicy)
    (request : FindingLifecycleRequest) (previous proposed : AdversarialFinding) (retest : Option FindingRetestEvidence) :
    Gate VerifiedFindingTransition := do
  raiseIf (policy.trustedFindingOwnerIds = [] ∨ policy.trustedRetestRunnerIds = [] ∨ policy.maxRetestAgeSeconds ≤ 0)
    (reject .requestInvalid "finding lifecycle policy is invalid")
  validateCorpus rt corpus policy
  validateRegistry rt registry corpus policy
  validateFinding rt previous corpus registry policy.trustedFindingOwnerIds
  validateFinding rt proposed corpus registry policy.trustedFindingOwnerIds
  validateRequest rt request previous proposed
  validateTransition rt previous proposed request.evaluatedAtEpoch
  let retestSha256 ← validateClosure rt previous proposed retest corpus policy request.evaluatedAtEpoch
  return verified rt corpus registry request previous proposed retestSha256

end

end Aegis.Assurance.Finding
