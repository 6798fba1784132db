/-
  Aegis.Assurance.Evolution — the P6-C gate, which governs the step from one version of the
  corpus to the next (corpus_evolution.py).

  A change manifest has one record for every case that is added, modified or deprecated, and a
  tombstone for every removed one; the policy pins the baseline and its coverage floors. `evaluate`
  goes through the checks in the order of the source. Dicts of changes and tombstones are the
  manifest's lists, whose ids the gate has found to be keys.
-/

import Aegis.Assurance.Regression

namespace Aegis.Assurance.Evolution

open Data Data.Checks
open Agentic (Raised)

def P6C_EVOLUTION_POLICY_VERSION : String := "assurance-corpus-evolution-governance-v1"
def P6C_CHANGE_MANIFEST_SCHEMA_VERSION : String := "aegis-assurance-corpus-change-manifest-v1"
def P6C_TOMBSTONE_SCHEMA_VERSION : String := "aegis-assurance-case-tombstone-v1"

inductive CorpusChangeType where
  | add
  | modify
  | deprecate
  deriving DecidableEq, Repr

def CorpusChangeType.value : CorpusChangeType → String
  | .add => "add"
  | .modify => "modify"
  | .deprecate => "deprecate"

inductive CorpusEvolutionRejectReason where
  | baselineInvalid
  | baselineDigestMismatch
  | candidateInvalid
  | candidateIdentityMismatch
  | versionNotAdvanced
  | requestInvalid
  | manifestInvalid
  | manifestDigestMismatch
  | changeCoverageMismatch
  | changeDuplicate
  | changeDefinitionMismatch
  | changeOwnerUntrusted
  | expectationWeakened
  | severityDowngraded
  | boundaryReclassified
  | attackClassReclassified
  | tombstoneMissing
  | tombstoneInvalid
  | tombstoneDuplicate
  | replacementRequired
  | replacementInvalid
  | coverageFloorViolated
  deriving DecidableEq, Repr

/-- What `evaluate` returns or raises; the item of a rejection is its `case_id`. -/
abbrev Gate (α : Type) := Except (Raised CorpusEvolutionRejectReason) α

structure CoverageFloor where
  boundary : String
  minBlockCases : Int
  minHighOrCriticalBlockCases : Int

structure CorpusChangeRecord where
  changeId : String
  changeType : CorpusChangeType
  caseId : String
  ownerId : String
  reason : String
  oldCaseDefinitionSha256 : String
  newCaseDefinitionSha256 : String
  replacementCaseIds : List String

structure CaseTombstone where
  caseId : String
  caseDefinitionSha256 : String
  boundary : String
  severity : AssuranceSeverity
  expectation : AssuranceExpectation
  removedInVersion : String
  replacementCaseIds : List String
  schemaVersion : String

structure CorpusChangeManifest where
  baselineCorpusSha256 : String
  candidateCorpusSha256 : String
  changes : List CorpusChangeRecord
  tombstones : List CaseTombstone
  schemaVersion : String

structure CorpusEvolutionRequest where
  candidateCorpusId : String
  candidateVersion : String
  candidateCorpusSha256 : String
  changeManifestSha256 : String

structure CorpusEvolutionPolicy where
  expectedBaselineCorpusId : String
  expectedBaselineCorpusSha256 : String
  trustedChangeOwnerIds : List String
  coverageFloors : List CoverageFloor
  minCriticalBlockCases : Int
  minHighOrCriticalBlockCases : Int
  minAllowCases : Int
  requireReplacementForHighCriticalRemoval : Bool
  forbidBlockToAllow : Bool
  forbidAttackSeverityDowngrade : Bool

structure VerifiedCorpusEvolution where
  corpusId : String
  baselineVersion : String
  candidateVersion : String
  baselineCorpusSha256 : String
  candidateCorpusSha256 : String
  changeManifestSha256 : String
  addedCaseIds : List String
  modifiedCaseIds : List String
  deprecatedCaseIds : List String
  tombstonedCaseIds : List String
  candidateCaseCount : Int
  candidateBlockCaseCount : Int
  candidateAllowCaseCount : Int
  candidateCriticalBlockCount : Int
  candidateHighOrCriticalBlockCount : Int
  evidenceSha256 : String
  exactChangeCoverageVerified : Bool
  removalTombstonesVerified : Bool
  coverageFloorsVerified : Bool
  weakeningPrevented : Bool
  silentCoverageShrinkPrevented : Bool
  networkOperations : Int

/-- `changes_by_case[case_id]`. -/
def CorpusChangeManifest.change (m : CorpusChangeManifest) (caseId : String) : Option CorpusChangeRecord :=
  m.changes.find? fun c => c.caseId = caseId

/-- `tombstones_by_case[case_id]`. -/
def CorpusChangeManifest.tombstone (m : CorpusChangeManifest) (caseId : String) : Option CaseTombstone :=
  m.tombstones.find? fun t => t.caseId = caseId

/-! ## Canonical documents -/

section
variable (rt : Runtime)

def sortedTexts (ids : List String) : List String := sortOn id ids

@[simp] theorem mem_sortedTexts {ids : List String} {i : String} : i ∈ sortedTexts ids ↔ i ∈ ids := mem_sortOn

def texts (ids : List String) : Json := .arr (ids.map .str)

def canonicalChange (c : CorpusChangeRecord) : Json := .obj [
  ("case_id", .str c.caseId), ("change_id", .str c.changeId), ("change_type", .str c.changeType.value),
  ("new_case_definition_sha256", .str (rt.casefold c.newCaseDefinitionSha256)),
  ("old_case_definition_sha256", .str (rt.casefold c.oldCaseDefinitionSha256)), ("owner_id", .str c.ownerId),
  ("reason", .str c.reason), ("replacement_case_ids", texts (sortedTexts c.replacementCaseIds))]

def canonicalTombstone (t : CaseTombstone) : Json := .obj [
  ("boundary", .str t.boundary), ("case_definition_sha256", .str (rt.casefold t.caseDefinitionSha256)),
  ("case_id", .str t.caseId), ("expectation", .str t.expectation.value),
  ("removed_in_version", .str t.removedInVersion), ("replacement_case_ids", texts (sortedTexts t.replacementCaseIds)),
  ("schema_version", .str t.schemaVersion), ("severity", .str t.severity.value)]

def canonicalChangeManifest (m : CorpusChangeManifest) : Json := .obj [
  ("baseline_corpus_sha256", .str (rt.casefold m.baselineCorpusSha256)),
  ("candidate_corpus_sha256", .str (rt.casefold m.candidateCorpusSha256)),
  ("changes", .arr ((sortOn CorpusChangeRecord.changeId m.changes).map (canonicalChange rt))),
  ("schema_version", .str m.schemaVersion),
  ("tombstones", .arr ((sortOn CaseTombstone.caseId m.tombstones).map (canonicalTombstone rt)))]

def changeManifestDigest (m : CorpusChangeManifest) : String := rt.sha256 (canonicalChangeManifest rt m)

/-! ## Validation -/

/-- `case_id or None`. -/
def orNone (s : String) : Option String := if s = "" then none else some s

def reject (reason : CorpusEvolutionRejectReason) (message : String) (caseId : Option String) :
    Raised CorpusEvolutionRejectReason := .rejected reason message caseId

def validateEither (reason : CorpusEvolutionRejectReason) (label : String) (corpus : AssuranceCorpus) : Gate Unit :=
  validateCorpus (reject reason (label ++ " assurance corpus metadata is invalid") none)
    (fun c => reject reason (label ++ " assurance corpus contains an invalid case") (orNone c.caseId))
    (fun c => reject reason (label ++ " assurance corpus contains duplicate case IDs") (some c.caseId)) corpus

def validatePolicy (policy : CorpusEvolutionPolicy) : Gate Unit := do
  raiseIf (policy.expectedBaselineCorpusId = "" ∨ ¬ isSha256 rt policy.expectedBaselineCorpusSha256 ∨
    policy.trustedChangeOwnerIds = [] ∨ policy.minCriticalBlockCases < 0 ∨ policy.minHighOrCriticalBlockCases < 0 ∨
    policy.minAllowCases < 0) (reject .baselineInvalid "corpus evolution policy is invalid" none)
  scan (fun seen floor => raiseIf (floor.boundary = "" ∨ floor.minBlockCases < 0 ∨ floor.minHighOrCriticalBlockCases < 0 ∨
    floor.boundary ∈ seen.map CoverageFloor.boundary) (reject .baselineInvalid "coverage-floor policy is invalid" none))
    [] policy.coverageFloors

def validateRequest (request : CorpusEvolutionRequest) (candidate : AssuranceCorpus) (candidateSha256 manifestSha256 : String) :
    Gate Unit := do
  raiseIf (request.candidateCorpusId = "" ∨ request.candidateVersion = "" ∨ ¬ isSha256 rt request.candidateCorpusSha256 ∨
    ¬ isSha256 rt request.changeManifestSha256)
    (reject .requestInvalid "corpus evolution request metadata is invalid" none)
  raiseIf (request.candidateCorpusId ≠ candidate.corpusId ∨ request.candidateVersion ≠ candidate.version ∨
    rt.casefold request.candidateCorpusSha256 ≠ candidateSha256)
    (reject .candidateIdentityMismatch "request does not bind to the exact candidate corpus identity" none)
  raiseIf (rt.casefold request.changeManifestSha256 ≠ manifestSha256)
    (reject .manifestDigestMismatch "request does not bind to the exact change manifest digest" none)

def indexManifest (m : CorpusChangeManifest) (baselineSha256 candidateSha256 : String) (trustedChangeOwnerIds : List String) :
    Gate Unit := do
  raiseIf (m.schemaVersion ≠ P6C_CHANGE_MANIFEST_SCHEMA_VERSION ∨ ¬ isSha256 rt m.baselineCorpusSha256 ∨
    ¬ isSha256 rt m.candidateCorpusSha256) (reject .manifestInvalid "change manifest metadata is invalid" none)
  raiseIf (rt.casefold m.baselineCorpusSha256 ≠ baselineSha256 ∨ rt.casefold m.candidateCorpusSha256 ≠ candidateSha256)
    (reject .manifestDigestMismatch "change manifest does not bind to exact baseline/candidate corpus digests" none)
  scan (fun seen c => do
    raiseIf (c.changeId = "" ∨ c.caseId = "" ∨ c.ownerId = "" ∨ c.reason = "")
      (reject .manifestInvalid "change manifest contains an invalid change record" (orNone c.caseId))
    raiseIf (c.changeId ∈ seen.map CorpusChangeRecord.changeId ∨ c.caseId ∈ seen.map CorpusChangeRecord.caseId)
      (reject .changeDuplicate "change manifest contains a duplicate change ID or case target" (some c.caseId))
    raiseIf (c.ownerId ∉ trustedChangeOwnerIds)
      (reject .changeOwnerUntrusted "change record owner is not trusted by policy" (some c.caseId))) [] m.changes
  scan (fun seen t => do
    raiseIf (t.caseId ∈ seen.map CaseTombstone.caseId)
      (reject .tombstoneDuplicate "duplicate tombstone for removed case" (some t.caseId))
    raiseIf (t.schemaVersion ≠ P6C_TOMBSTONE_SCHEMA_VERSION ∨ t.caseId = "" ∨ ¬ isSha256 rt t.caseDefinitionSha256 ∨
      t.boundary = "" ∨ t.removedInVersion = "")
      (reject .tombstoneInvalid "tombstone metadata is invalid" (orNone t.caseId))) [] m.tombstones

/-! ## The diff of two corpora -/

def addedIds (baseline candidate : AssuranceCorpus) : List String :=
  sortedTexts (candidate.ids.filter fun i => i ∉ baseline.ids)

def removedIds (baseline candidate : AssuranceCorpus) : List String :=
  sortedTexts (baseline.ids.filter fun i => i ∉ candidate.ids)

/-- The ids of both whose case definitions differ. -/
def modifiedIds (baseline candidate : AssuranceCorpus) : List String :=
  sortedTexts (baseline.ids.filter fun i => i ∈ candidate.ids ∧
    (baseline.find i).map (caseDefinitionDigest rt) ≠ (candidate.find i).map (caseDefinitionDigest rt))

/-- `sorted(a - b)`. -/
def difference (a b : List String) : List String := sortedTexts (a.filter fun i => i ∉ b)

/-- `(missing or orphan or [None])[0]`. -/
def firstOf (missing orphan : List String) : Option String := missing.head?.or orphan.head?

def checkCoverage (expected : List String) (m : CorpusChangeManifest) : Gate Unit :=
  let changed := m.changes.map CorpusChangeRecord.caseId
  let missing := difference expected changed
  let orphan := difference changed expected
  raiseIf (missing ≠ [] ∨ orphan ≠ [])
    (reject .changeCoverageMismatch ("change manifest must provide exact one-to-one coverage for every " ++
      "add/modify/deprecate operation and no unchanged cases") (firstOf missing orphan))

def checkAdded (candidate : AssuranceCorpus) (m : CorpusChangeManifest) (caseId : String) : Gate Unit := do
  let change ← orRaise (.key caseId) (m.change caseId)
  let new ← orRaise (.key caseId) (candidate.find caseId)
  raiseIf (change.changeType ≠ .add ∨ change.oldCaseDefinitionSha256 ≠ "" ∨ ¬ isSha256 rt change.newCaseDefinitionSha256 ∨
    rt.casefold change.newCaseDefinitionSha256 ≠ caseDefinitionDigest rt new ∨ change.replacementCaseIds ≠ [])
    (reject .changeDefinitionMismatch "add record does not bind to the exact new case definition" (some caseId))

def checkModified (policy : CorpusEvolutionPolicy) (baseline candidate : AssuranceCorpus) (m : CorpusChangeManifest)
    (caseId : String) : Gate Unit := do
  let change ← orRaise (.key caseId) (m.change caseId)
  let old ← orRaise (.key caseId) (baseline.find caseId)
  let new ← orRaise (.key caseId) (candidate.find caseId)
  raiseIf (change.changeType ≠ .modify ∨ ¬ isSha256 rt change.oldCaseDefinitionSha256 ∨
    ¬ isSha256 rt change.newCaseDefinitionSha256 ∨ rt.casefold change.oldCaseDefinitionSha256 ≠ caseDefinitionDigest rt old ∨
    rt.casefold change.newCaseDefinitionSha256 ≠ caseDefinitionDigest rt new ∨ change.replacementCaseIds ≠ [])
    (reject .changeDefinitionMismatch "modify record does not bind to exact old/new case definitions" (some caseId))
  raiseIf (old.boundary ≠ new.boundary)
    (reject .boundaryReclassified
      "existing case boundary may not be silently reclassified; deprecate and add a new case instead" (some caseId))
  raiseIf (old.attackClass ≠ new.attackClass)
    (reject .attackClassReclassified
      "existing case attack class may not be silently reclassified; deprecate and add a new case instead" (some caseId))
  raiseIf (policy.forbidBlockToAllow ∧ old.Blocks ∧ ¬ new.Blocks)
    (reject .expectationWeakened "attack-blocking case may not be weakened into an allow expectation" (some caseId))
  raiseIf (policy.forbidAttackSeverityDowngrade ∧ old.Blocks ∧ severityRank new.severity < severityRank old.severity)
    (reject .severityDowngraded "attack case severity may not be downgraded during in-place modification" (some caseId))

def checkTombstones (removed : List String) (m : CorpusChangeManifest) : Gate Unit :=
  let tombstoned := m.tombstones.map CaseTombstone.caseId
  let missing := difference removed tombstoned
  let extra := difference tombstoned removed
  raiseIf (missing ≠ [] ∨ extra ≠ [])
    (reject (if missing ≠ [] then .tombstoneMissing else .tombstoneInvalid)
      "removed cases require exact tombstone coverage and unchanged cases may not be tombstoned" (firstOf missing extra))

/-- One of the replacements that a removed attack case needs. -/
def checkReplacement (candidate : AssuranceCorpus) (added : List String) (old : AssuranceCase) (replacementId : String) :
    Gate Unit := do
  let rejected := reject .replacementInvalid
    "replacement must be a newly added same-boundary block case of equal-or-higher severity" (some old.caseId)
  let replacement ← orRaise rejected (candidate.find replacementId)
  raiseIf (replacementId ∉ added ∨ ¬ replacement.Blocks ∨ replacement.boundary ≠ old.boundary ∨
    severityRank replacement.severity < severityRank old.severity) rejected

def checkRemoved (policy : CorpusEvolutionPolicy) (baseline candidate : AssuranceCorpus) (added : List String)
    (m : CorpusChangeManifest) (caseId : String) : Gate Unit := do
  let old ← orRaise (.key caseId) (baseline.find caseId)
  let change ← orRaise (.key caseId) (m.change caseId)
  let tombstone ← orRaise (.key caseId) (m.tombstone caseId)
  raiseIf (change.changeType ≠ .deprecate ∨ ¬ isSha256 rt change.oldCaseDefinitionSha256 ∨
    rt.casefold change.oldCaseDefinitionSha256 ≠ caseDefinitionDigest rt old ∨ change.newCaseDefinitionSha256 ≠ "")
    (reject .changeDefinitionMismatch "deprecation record does not bind to the exact removed case definition" (some caseId))
  raiseIf (rt.casefold tombstone.caseDefinitionSha256 ≠ caseDefinitionDigest rt old ∨ tombstone.boundary ≠ old.boundary ∨
    tombstone.severity ≠ old.severity ∨ tombstone.expectation ≠ old.expectation ∨
    tombstone.removedInVersion ≠ candidate.version ∨
    sortedTexts tombstone.replacementCaseIds ≠ sortedTexts change.replacementCaseIds)
    (reject .tombstoneInvalid "tombstone does not preserve exact removed-case identity and replacement metadata" (some caseId))
  if policy.requireReplacementForHighCriticalRemoval ∧ old.Blocks ∧ old.Grave then
    match change.replacementCaseIds with
    | [] => .error (reject .replacementRequired "high/critical removed attack cases require explicit replacement coverage"
        (some caseId))
    | ids => forEach (checkReplacement candidate added old) ids
  else .ok ()

/-! ## Coverage floors -/

def blockCases (corpus : AssuranceCorpus) : List AssuranceCase := corpus.cases.filter fun c => c.Blocks

def allowCases (corpus : AssuranceCorpus) : List AssuranceCase := corpus.cases.filter fun c => c.expectation = .allow

def criticalCount (corpus : AssuranceCorpus) : Int := ((blockCases corpus).filter fun c => c.severity = .critical).length

def highOrCriticalCount (corpus : AssuranceCorpus) : Int := ((blockCases corpus).filter fun c => c.Grave).length

def boundaryCases (corpus : AssuranceCorpus) (boundary : String) : List AssuranceCase :=
  (blockCases corpus).filter fun c => c.boundary = boundary

def boundaryHigh (corpus : AssuranceCorpus) (boundary : String) : List AssuranceCase :=
  (boundaryCases corpus boundary).filter fun c => c.Grave

def validateCoverageFloors (candidate : AssuranceCorpus) (policy : CorpusEvolutionPolicy) : Gate Unit := do
  raiseIf (criticalCount candidate < policy.minCriticalBlockCases)
    (reject .coverageFloorViolated "candidate corpus falls below the global critical attack-case floor" none)
  raiseIf (highOrCriticalCount candidate < policy.minHighOrCriticalBlockCases)
    (reject .coverageFloorViolated "candidate corpus falls below the global high/critical attack-case floor" none)
  raiseIf (((allowCases candidate).length : Int) < policy.minAllowCases)
    (reject .coverageFloorViolated "candidate corpus falls below the benign safe-task floor" none)
  forEach (fun floor => raiseIf (((boundaryCases candidate floor.boundary).length : Int) < floor.minBlockCases ∨
      ((boundaryHigh candidate floor.boundary).length : Int) < floor.minHighOrCriticalBlockCases)
    (reject .coverageFloorViolated
      ("candidate corpus violates the coverage floor for boundary " ++ floor.boundary) none)) policy.coverageFloors

/-! ## The gate -/

def requestDocument (request : CorpusEvolutionRequest) : Json := .obj [
  ("candidate_corpus_id", .str request.candidateCorpusId),
  ("candidate_corpus_sha256", .str request.candidateCorpusSha256), ("candidate_version", .str request.candidateVersion),
  ("change_manifest_sha256", .str request.changeManifestSha256)]

def evidenceDocument (request : CorpusEvolutionRequest) (baselineSha256 candidateSha256 manifestSha256 : String) : Json := .obj [
  ("baseline_corpus_sha256", .str baselineSha256), ("candidate_corpus_sha256", .str candidateSha256),
  ("change_manifest_sha256", .str manifestSha256), ("policy_version", .str P6C_EVOLUTION_POLICY_VERSION),
  ("request", requestDocument request)]

/-- The evidence of an accepted step. -/
def verified (request : CorpusEvolutionRequest) (baseline candidate : AssuranceCorpus) (m : CorpusChangeManifest) :
    VerifiedCorpusEvolution where
  corpusId := candidate.corpusId
  baselineVersion := baseline.version
  candidateVersion := candidate.version
  baselineCorpusSha256 := corpusDigest rt baseline
  candidateCorpusSha256 := corpusDigest rt candidate
  changeManifestSha256 := changeManifestDigest rt m
  addedCaseIds := addedIds baseline candidate
  modifiedCaseIds := modifiedIds rt baseline candidate
  deprecatedCaseIds := removedIds baseline candidate
  tombstonedCaseIds := sortedTexts (m.tombstones.map CaseTombstone.caseId)
  candidateCaseCount := candidate.cases.length
  candidateBlockCaseCount := (blockCases candidate).length
  candidateAllowCaseCount := (allowCases candidate).length
  candidateCriticalBlockCount := criticalCount candidate
  candidateHighOrCriticalBlockCount := highOrCriticalCount candidate
  evidenceSha256 := rt.sha256 (evidenceDocument request (corpusDigest rt baseline) (corpusDigest rt candidate)
    (changeManifestDigest rt m))
  exactChangeCoverageVerified := true
  removalTombstonesVerified := true
  coverageFloorsVerified := true
  weakeningPrevented := true
  silentCoverageShrinkPrevented := true
  networkOperations := 0

/-- `AssuranceCorpusEvolutionGate.evaluate`. -/
def evaluate (policy : CorpusEvolutionPolicy) (request : CorpusEvolutionRequest) (baseline candidate : AssuranceCorpus)
    (m : CorpusChangeManifest) : Gate VerifiedCorpusEvolution := do
  validatePolicy rt policy
  validateEither .baselineInvalid "baseline" baseline
  validateEither .candidateInvalid "candidate" candidate
  raiseIf (baseline.corpusId ≠ policy.expectedBaselineCorpusId ∨
    corpusDigest rt baseline ≠ rt.casefold policy.expectedBaselineCorpusSha256)
    (reject .baselineDigestMismatch "baseline corpus does not match the policy-pinned identity and digest" none)
  raiseIf (candidate.corpusId ≠ baseline.corpusId)
    (reject .candidateIdentityMismatch "candidate corpus ID must remain in the same versioned corpus lineage" none)
  raiseIf (candidate.version = baseline.version)
    (reject .versionNotAdvanced "candidate corpus version must advance" none)
  validateRequest rt request candidate (corpusDigest rt candidate) (changeManifestDigest rt m)
  indexManifest rt m (corpusDigest rt baseline) (corpusDigest rt candidate) policy.trustedChangeOwnerIds
  checkCoverage (addedIds baseline candidate ++ removedIds baseline candidate ++ modifiedIds rt baseline candidate) m
  forEach (checkAdded rt candidate m) (addedIds baseline candidate)
  forEach (checkModified rt policy baseline candidate m) (modifiedIds rt baseline candidate)
  checkTombstones (removedIds baseline candidate) m
  forEach (checkRemoved rt policy baseline candidate (addedIds baseline candidate) m) (removedIds baseline candidate)
  validateCoverageFloors candidate policy
  return verified rt request baseline candidate m

end

end Aegis.Assurance.Evolution
