/-
  Aegis.Assurance.ToleratedRegressions — the P6-A gate (regression.py), and what its evidence says of a
  candidate with regressions that its budgets tolerate.

  - `counts_exact`: the two counts are those of the cases that regressed.
  - `evidence_honest_iff`: `passed_case_ids` lists the whole corpus, so the evidence is honest exactly
    when every case passed.
  - `leak_passed`: with a budget of one, the case that regressed is listed as passed.
-/

import Aegis.Assurance.Agreement

namespace Aegis.Assurance.Continuous

open Data Data.Checks
open Waivers (orNone)

inductive AssuranceRejectReason where
  | corpusInvalid | corpusDigestMismatch | boundaryCoverageMismatch | evidenceInvalid | evidenceIdentityMismatch | runnerUntrusted
  | caseCoverageMismatch | caseDuplicate | caseDefinitionMismatch | baselineIdentityMismatch | baselineNotSecure | securityRegression
  | safeTaskRegression
  deriving DecidableEq, Repr

structure AssuranceRejected where
  reason : AssuranceRejectReason
  message : String
  caseId : Option String
  deriving DecidableEq, Repr

abbrev Gate (α : Type) := Except AssuranceRejected α

structure AssuranceRequest where
  candidateReleaseId : String
  candidateCommitSha : String
  candidatePackageVersion : String
  corpusSha256 : String

structure AssurancePolicy where
  expectedCorpusSha256 : String
  baselineReleaseId : String
  baselineCommitSha : String
  baselinePackageVersion : String
  trustedRunnerIds : List String
  requiredBoundaries : List String
  maxRegressions : Int
  maxSafeTaskRegressions : Int

structure VerifiedAssuranceEvidence where
  candidateReleaseId : String
  candidateCommitSha : String
  candidatePackageVersion : String
  baselineReleaseId : String
  baselineCommitSha : String
  corpusId : String
  corpusVersion : String
  corpusSha256 : String
  caseCount : Nat
  attackCaseCount : Nat
  safeTaskCaseCount : Nat
  regressionCount : Nat
  safeTaskRegressionCount : Nat
  passedCaseIds : List String
  evidenceSha256 : String

def P6A_ASSURANCE_POLICY_VERSION : String := "continuous-ai-security-assurance-v1"

section
variable (rt : Runtime)

def reject (reason : AssuranceRejectReason) (message : String) : AssuranceRejected := ⟨reason, message, none⟩

def rejectCase (reason : AssuranceRejectReason) (message caseId : String) : AssuranceRejected := ⟨reason, message, some caseId⟩

def validateCorpus (corpus : AssuranceCorpus) (policy : AssurancePolicy) : Gate Unit := do
  Assurance.validateCorpus (reject .corpusInvalid "assurance corpus metadata is invalid")
    (fun c => ⟨.corpusInvalid, "assurance corpus contains an invalid case definition", orNone c.caseId⟩)
    (fun c => rejectCase .corpusInvalid "assurance corpus contains duplicate case IDs" c.caseId) corpus
  raiseIf (¬ isSha256 rt (rt.casefold policy.expectedCorpusSha256) ∨ corpusDigest rt corpus ≠ rt.casefold policy.expectedCorpusSha256)
    (reject .corpusDigestMismatch "assurance corpus does not match the policy-pinned digest")
  raiseIf (policy.requiredBoundaries = [] ∨ ∃ boundary ∈ policy.requiredBoundaries, boundary ∉ corpus.cases.map (·.boundary))
    (reject .boundaryCoverageMismatch "versioned assurance corpus does not cover every policy-required boundary")
  raiseIf (policy.maxRegressions < 0 ∨ policy.maxSafeTaskRegressions < 0)
    (reject .corpusInvalid "regression budgets may not be negative")

def validateResult (corpus : AssuranceCorpus) (seen : List CaseObservation) (r : CaseObservation) : Gate Unit := do
  raiseIf (r.caseId ∈ seen.map CaseObservation.caseId)
    (rejectCase .caseDuplicate "release evidence contains a duplicate case result" r.caseId)
  let c ← orRaise (rejectCase .caseCoverageMismatch "release evidence contains an unknown case ID" r.caseId) (corpus.find r.caseId)
  raiseIf (¬ isSha256 rt r.caseDefinitionSha256 ∨ rt.casefold r.caseDefinitionSha256 ≠ caseDefinitionDigest rt c)
    (rejectCase .caseDefinitionMismatch "case result does not bind to the immutable case definition" r.caseId)

def validateEvidence (evidence : ReleaseAssuranceEvidence) (corpus : AssuranceCorpus) (trustedRunnerIds : List String) : Gate Unit := do
  raiseIf (evidence.schemaVersion ≠ P6A_EVIDENCE_SCHEMA_VERSION ∨ evidence.releaseId = "" ∨ evidence.packageVersion = "" ∨
    ¬ isSha256 rt evidence.commitSha ∨ ¬ isSha256 rt evidence.corpusSha256)
    (reject .evidenceInvalid "release assurance evidence metadata is invalid")
  raiseIf (rt.casefold evidence.corpusSha256 ≠ rt.casefold (corpusDigest rt corpus))
    (reject .evidenceIdentityMismatch "release evidence does not bind to the exact versioned corpus digest")
  raiseIf (evidence.runnerId ∉ trustedRunnerIds)
    (reject .runnerUntrusted "assurance evidence was produced by an untrusted deterministic runner ID")
  scan (validateResult rt corpus) [] evidence.results
  raiseIf (¬ Agentic.sameSet (evidence.results.map CaseObservation.caseId) corpus.ids)
    (reject .caseCoverageMismatch "release evidence must contain exact one-to-one corpus case coverage")

def evidenceDocument (corpus : AssuranceCorpus) (request : AssuranceRequest) (baseline candidate : ReleaseAssuranceEvidence) : Json := .obj [
  ("baseline_evidence_sha256", .str (releaseEvidenceDigest rt baseline)),
  ("candidate_evidence_sha256", .str (releaseEvidenceDigest rt candidate)),
  ("corpus_sha256", .str (corpusDigest rt corpus)), ("policy_version", .str P6A_ASSURANCE_POLICY_VERSION),
  ("request", .obj [
    ("candidate_commit_sha", .str request.candidateCommitSha),
    ("candidate_package_version", .str request.candidatePackageVersion),
    ("candidate_release_id", .str request.candidateReleaseId), ("corpus_sha256", .str request.corpusSha256)])]

def verified (corpus : AssuranceCorpus) (request : AssuranceRequest) (baseline candidate : ReleaseAssuranceEvidence) :
    VerifiedAssuranceEvidence where
  candidateReleaseId := candidate.releaseId
  candidateCommitSha := rt.casefold candidate.commitSha
  candidatePackageVersion := candidate.packageVersion
  baselineReleaseId := baseline.releaseId
  baselineCommitSha := rt.casefold baseline.commitSha
  corpusId := corpus.corpusId
  corpusVersion := corpus.version
  corpusSha256 := corpusDigest rt corpus
  caseCount := corpus.cases.length
  attackCaseCount := corpus.cases.countP fun c => c.expectation = .block
  safeTaskCaseCount := corpus.cases.countP fun c => c.expectation = .allow
  regressionCount := (Waivers.securityRegressions corpus candidate).length
  safeTaskRegressionCount := (Waivers.safeTaskRegressions corpus candidate).length
  -- `tuple(sorted(case_map))`
  passedCaseIds := sortOn id corpus.ids
  evidenceSha256 := rt.sha256 (evidenceDocument rt corpus request baseline candidate)

/-- `ContinuousSecurityAssuranceGate.evaluate`. -/
def evaluate (corpus : AssuranceCorpus) (policy : AssurancePolicy) (request : AssuranceRequest)
    (baseline candidate : ReleaseAssuranceEvidence) : Gate VerifiedAssuranceEvidence := do
  validateCorpus rt corpus policy
  raiseIf (rt.casefold request.corpusSha256 ≠ corpusDigest rt corpus ∨ ¬ isSha256 rt request.candidateCommitSha ∨
    request.candidateReleaseId = "" ∨ request.candidatePackageVersion = "")
    (reject .evidenceIdentityMismatch "assurance request does not bind to the exact candidate/corpus identity")
  validateEvidence rt baseline corpus policy.trustedRunnerIds
  raiseIf (baseline.releaseId ≠ policy.baselineReleaseId ∨ rt.casefold baseline.commitSha ≠ rt.casefold policy.baselineCommitSha ∨
    baseline.packageVersion ≠ policy.baselinePackageVersion)
    (reject .baselineIdentityMismatch "baseline evidence does not match the policy-pinned release identity")
  raiseIf (Waivers.mismatches corpus baseline ≠ [])
    ⟨.baselineNotSecure, "policy baseline does not satisfy every corpus expectation",
      (Waivers.mismatches corpus baseline).head?.map (·.caseId)⟩
  validateEvidence rt candidate corpus policy.trustedRunnerIds
  raiseIf (candidate.releaseId ≠ request.candidateReleaseId ∨ rt.casefold candidate.commitSha ≠ rt.casefold request.candidateCommitSha ∨
    candidate.packageVersion ≠ request.candidatePackageVersion)
    (reject .evidenceIdentityMismatch "candidate evidence does not match the requested release identity")
  raiseIf ((Waivers.securityRegressions corpus candidate).length > policy.maxRegressions)
    ⟨.securityRegression, "candidate release regressed one or more attack-blocking expectations",
      (Waivers.securityRegressions corpus candidate).head?.map (·.caseId)⟩
  raiseIf ((Waivers.safeTaskRegressions corpus candidate).length > policy.maxSafeTaskRegressions)
    ⟨.safeTaskRegression, "candidate release regressed one or more benign safe-task expectations",
      (Waivers.safeTaskRegressions corpus candidate).head?.map (·.caseId)⟩
  return verified rt corpus request baseline candidate

end

/-! ## The evidence -/

/-- The cases of one expectation whose observation differs from it. -/
def regressed (corpus : AssuranceCorpus) (candidate : ReleaseAssuranceEvidence) (expectation : AssuranceExpectation) : Nat :=
  corpus.cases.countP fun c => c.expectation = expectation ∧ observed candidate.results c.caseId ≠ some c.expectation

/-- What the evidence says of the cases is so. -/
structure Honest (corpus : AssuranceCorpus) (candidate : ReleaseAssuranceEvidence) (v : VerifiedAssuranceEvidence) : Prop where
  passed : ∀ i, i ∈ v.passedCaseIds ↔ ∃ c ∈ corpus.cases, c.caseId = i ∧ observed candidate.results c.caseId = some c.expectation
  regressions : v.regressionCount = regressed corpus candidate .block
  safeTasks : v.safeTaskRegressionCount = regressed corpus candidate .allow
  total : v.passedCaseIds.length + v.regressionCount + v.safeTaskRegressionCount = v.caseCount

section
variable {rt : Runtime} {corpus : AssuranceCorpus} {policy : AssurancePolicy} {request : AssuranceRequest}
  {baseline candidate : ReleaseAssuranceEvidence} {v : VerifiedAssuranceEvidence}

theorem evaluate_verified (h : evaluate rt corpus policy request baseline candidate = .ok v) :
    corpus.WellFormed ∧ v = verified rt corpus request baseline candidate := by
  simp only [evaluate, validateCorpus, ok_seq, validateCorpus_ok] at h
  obtain ⟨⟨hwell, -⟩, -, -, -, -, -, -, -, -, he⟩ := h
  exact ⟨hwell, (Except.ok.inj he).symm⟩

theorem length_mismatches (expectation : AssuranceExpectation) :
    ((Waivers.mismatches corpus candidate).filter fun c => c.expectation = expectation).length = regressed corpus candidate expectation := by
  rw [Waivers.mismatches, List.filter_filter, ← List.countP_eq_length_filter, regressed, (perm_sortOn _ corpus.cases).countP_eq]
  refine List.countP_congr fun c _ => ?_
  simp only [Bool.and_eq_true, decide_eq_true_eq]

/-- The counts are those of the regressions, however many are tolerated. -/
theorem counts_exact (h : evaluate rt corpus policy request baseline candidate = .ok v) :
    v.regressionCount = regressed corpus candidate .block ∧ v.safeTaskRegressionCount = regressed corpus candidate .allow := by
  obtain ⟨-, rfl⟩ := evaluate_verified h
  exact ⟨length_mismatches .block, length_mismatches .allow⟩

theorem regressed_eq_zero (hall : ∀ c ∈ corpus.cases, observed candidate.results c.caseId = some c.expectation)
    (expectation : AssuranceExpectation) : regressed corpus candidate expectation = 0 := by
  rw [regressed, List.countP_eq_zero]
  intro c hc hregressed
  exact (of_decide_eq_true hregressed).2 (hall c hc)

/-- The evidence is honest exactly when every case passed. -/
theorem evidence_honest_iff (h : evaluate rt corpus policy request baseline candidate = .ok v) :
    Honest corpus candidate v ↔ ∀ c ∈ corpus.cases, observed candidate.results c.caseId = some c.expectation := by
  obtain ⟨hregressions, hsafe⟩ := counts_exact h
  obtain ⟨hwell, rfl⟩ := evaluate_verified h
  constructor
  · intro hhonest c hc
    have hlisted : c.caseId ∈ sortOn id corpus.ids := mem_sortOn.mpr (List.mem_map_of_mem hc)
    obtain ⟨k, hk, hid, hobserved⟩ := (hhonest.passed c.caseId).mp hlisted
    obtain rfl := hwell.unique hk hc hid
    exact hobserved
  · intro hall
    refine ⟨fun i => ?_, hregressions, hsafe, ?_⟩
    · rw [verified, mem_sortOn, AssuranceCorpus.mem_ids]
      exact exists_congr fun c => and_congr_right fun hc => (and_iff_left (hall c hc)).symm
    · rw [hregressions, hsafe, regressed_eq_zero hall, regressed_eq_zero hall]
      show (sortOn id corpus.ids).length + 0 + 0 = corpus.cases.length
      rw [(perm_sortOn id _).length_eq, AssuranceCorpus.ids, List.length_map]
      omega

end

/-! ## A budget of one -/

namespace Sample

open Agentic (hex)
open Posture.Sample (after leak candidate constant)
def baseline : ReleaseAssuranceEvidence :=
  { candidate constant with releaseId := "baseline", results := [⟨"leak", caseDefinitionDigest constant leak, .block⟩] }

def policy : AssurancePolicy where
  expectedCorpusSha256 := corpusDigest constant after
  baselineReleaseId := "baseline"
  baselineCommitSha := hex 'a'
  baselinePackageVersion := "1.0"
  trustedRunnerIds := ["runner"]
  requiredBoundaries := ["output"]
  maxRegressions := 1
  maxSafeTaskRegressions := 0

def request : AssuranceRequest := ⟨"release", hex 'a', "1.0", corpusDigest constant after⟩

theorem evaluated : (evaluate constant after policy request baseline (candidate constant)).toOption.map (·.passedCaseIds) =
    some ["leak"] := by decide +kernel

/-- The candidate lets the attack pass, and the case is listed as passed. -/
theorem leak_passed : ∃ v, evaluate constant after policy request baseline (candidate constant) = .ok v ∧
    v.passedCaseIds = ["leak"] ∧ ¬ Honest after (candidate constant) v := by
  obtain ⟨v, hv, hpassed⟩ := ok_of_map evaluated
  refine ⟨v, hv, hpassed, fun hhonest => ?_⟩
  obtain ⟨c, hc, -, hobserved⟩ := (hhonest.passed "leak").mp (hpassed ▸ List.mem_cons_self)
  obtain rfl := List.mem_singleton.mp hc
  exact absurd hobserved (by decide)

theorem leak_honest_iff : ∃ v, evaluate constant after policy request baseline (candidate constant) = .ok v ∧
    (Honest after (candidate constant) v ↔ ∀ c ∈ after.cases, observed (candidate constant).results c.caseId = some c.expectation) := by
  obtain ⟨v, hv, -⟩ := ok_of_map evaluated
  exact ⟨v, hv, evidence_honest_iff hv⟩

end Sample

end Aegis.Assurance.Continuous
