/-
  Aegis.Assurance.Agreement — what the P6-D reporter makes of the handles of P6-B and P6-C.

  P6-C's handle always passes (`evolution_accepted`). P6-B's passes when none of its waivers is of a
  critical case (`governance_accepted_iff`): P6-B never sets `critical_waivers_permitted`, whatever
  severities its policy lets be waived, and P6-D then wants no critical waiver. So the reporter
  returns a posture exactly when no critical attack case regressed (`posture_agrees_iff`); where one
  did, under a waiver that P6-B approved, it rejects (`critical_waiver_rejected`).
-/

import Aegis.Assurance.Posture
import Mathlib.Algebra.Ring.Nat

namespace Aegis.Assurance.Posture

open Data Data.Checks
open Evolution (VerifiedCorpusEvolution CorpusEvolutionPolicy CorpusEvolutionRequest CorpusChangeManifest mem_sortedTexts)
open Waivers (VerifiedWaiverGovernance WaiverGovernancePolicy WaiverGovernanceRequest SecurityWaiver approve waiverOf severityCount
  securityRegressions mismatches)

section
variable {rt : Runtime} {corpus baseline : AssuranceCorpus} {registry : InvariantRegistry} {wpolicy : WaiverGovernancePolicy}
  {wrequest : WaiverGovernanceRequest} {candidate : ReleaseAssuranceEvidence} {waivers approved : List SecurityWaiver}
  {w : VerifiedWaiverGovernance} {x : SecurityWaiver} {epolicy : CorpusEvolutionPolicy} {erequest : CorpusEvolutionRequest}
  {manifest : CorpusChangeManifest} {e : VerifiedCorpusEvolution} {catalog : SecurityControlCatalog}
  {policy : SecurityPosturePolicy} {request : SecurityPostureRequest} {c : AssuranceCase}

/-! ## What P6-B has governed -/

theorem approve_ok (h : approve rt registry waivers wrequest wpolicy c = .ok x) :
    x ∈ waivers ∧ x.caseId = c.caseId ∧ x.severity = c.severity := by
  simp only [approve, ok_bind, orRaise_ok] at h
  obtain ⟨y, hy, record, -, u, hvalid, he⟩ := h
  obtain rfl : y = x := Except.ok.inj he
  simp only [Waivers.validateWaiver, ok_seq, raiseIf_ok, not_not] at hvalid
  exact ⟨List.mem_of_find?_eq_some hy, by simpa using List.find?_some hy, hvalid.2.2.2.2.1⟩

/-- The parts of an evaluation of P6-B that returned. -/
structure Governed (rt : Runtime) (corpus : AssuranceCorpus) (registry : InvariantRegistry) (wrequest : WaiverGovernanceRequest)
    (candidate : ReleaseAssuranceEvidence) (waivers approved : List SecurityWaiver) (w : VerifiedWaiverGovernance) : Prop where
  wellFormed : corpus.WellFormed
  releaseId : candidate.releaseId ≠ ""
  packageVersion : candidate.packageVersion ≠ ""
  commitSha : isSha256 rt candidate.commitSha
  waiverIds : waivers.Pairwise fun a b => a.waiverId ≠ b.waiverId
  covered : List.Forall₂ (fun c x => x ∈ waivers ∧ x.caseId = c.caseId ∧ x.severity = c.severity)
    (securityRegressions corpus candidate) approved
  handle : w = Waivers.verified rt registry corpus candidate wrequest approved

theorem governed_of_evaluate (h : Waivers.evaluate rt corpus registry wpolicy wrequest candidate waivers = .ok w) :
    ∃ approved, Governed rt corpus registry wrequest candidate waivers approved w := by
  have hdistinct : ∀ (seen : List SecurityWaiver) (x : SecurityWaiver),
      raiseIf (x.waiverId ∈ seen.map SecurityWaiver.waiverId ∨ x.caseId ∈ seen.map SecurityWaiver.caseId)
        (Waivers.Error.rejected .waiverDuplicate "each security regression may have at most one unique waiver" (some x.caseId)
          (some x.waiverId)) = .ok () ↔ True ∧ ∀ y ∈ seen, y.waiverId ≠ x.waiverId ∧ y.caseId ≠ x.caseId := by
    intro seen x
    rw [raiseIf_ok, not_or, List.mem_map, List.mem_map, true_and]
    constructor
    · rintro ⟨hid, hcase⟩ y hy
      exact ⟨fun he => hid ⟨y, hy, he⟩, fun he => hcase ⟨y, hy, he⟩⟩
    · intro hall
      exact ⟨fun ⟨y, hy, he⟩ => (hall y hy).1 he, fun ⟨y, hy, he⟩ => (hall y hy).2 he⟩
  simp only [Waivers.evaluate, ok_seq, raiseIf_ok, scan_ok hdistinct, Waivers.validateCorpus, validateCorpus_ok,
    Waivers.validateRequest, Waivers.validateCandidateEvidence, not_or, not_not] at h
  obtain ⟨-, ⟨hcorpus, -⟩, -, ⟨⟨-, hrelease, hpackage, hcommit, -⟩, -⟩, -, -, ⟨-, hwaivers, -⟩, -, -, h⟩ := h
  obtain ⟨approved, hgather, he⟩ := ok_bind.mp h
  refine ⟨approved, hcorpus, hrelease, hpackage, hcommit, hwaivers.imp fun h => h.1, ?_, (Except.ok.inj he).symm⟩
  exact (gather_ok.mp hgather).imp fun _ _ h => approve_ok h

theorem mem_securityRegressions : c ∈ securityRegressions corpus candidate ↔
    c ∈ corpus.cases ∧ c.Blocks ∧ observed candidate.results c.caseId ≠ some .block := by
  simp only [securityRegressions, mismatches, List.mem_filter, mem_sortOn, decide_eq_true_eq]
  constructor
  · rintro ⟨⟨hc, hobserved⟩, hblocks⟩
    rw [hblocks] at hobserved
    exact ⟨hc, hblocks, hobserved⟩
  · rintro ⟨hc, hblocks, hobserved⟩
    rw [← hblocks] at hobserved
    exact ⟨⟨hc, hobserved⟩, hblocks⟩

namespace Governed

variable (h : Governed rt corpus registry wrequest candidate waivers approved w) {i : String}
include h

theorem cases_eq : (securityRegressions corpus candidate).map AssuranceCase.caseId = approved.map SecurityWaiver.caseId :=
  map_eq_of_forall₂ (fun _ _ h => h.2.1.symm) h.covered

theorem severities_eq : (securityRegressions corpus candidate).map AssuranceCase.severity = approved.map SecurityWaiver.severity :=
  map_eq_of_forall₂ (fun _ _ h => h.2.2.symm) h.covered

theorem regressions_nodup : ((securityRegressions corpus candidate).map AssuranceCase.caseId).Nodup := by
  have hsorted : ((sortOn AssuranceCase.caseId corpus.cases).map AssuranceCase.caseId).Nodup :=
    (((perm_sortOn _ corpus.cases).map _).nodup_iff).mpr h.wellFormed.nodup
  exact ((List.filter_sublist.trans List.filter_sublist).map _).nodup hsorted

theorem mem_regressions (hi : i ∈ w.regressionCaseIds) : ∃ c ∈ securityRegressions corpus candidate, c.caseId = i := by
  obtain rfl := h.handle
  exact List.mem_map.mp hi

theorem ids_of_regression (hi : i ∈ w.regressionCaseIds) : i ∈ corpus.ids := by
  obtain ⟨c, hc, rfl⟩ := h.mem_regressions hi
  exact List.mem_map_of_mem (mem_securityRegressions.mp hc).1

/-- A waived case is a regression. -/
theorem regression_of_waived (hi : i ∈ w.approvedWaivedCaseIds) : i ∈ w.regressionCaseIds := by
  obtain rfl := h.handle
  have hi : i ∈ approved.map SecurityWaiver.caseId := mem_sortOn.mp hi
  rw [← h.cases_eq] at hi
  exact hi

theorem mem_waivers (hx : x ∈ approved) : x ∈ waivers := by
  obtain ⟨c, -, hc⟩ := exists_of_forall₂ h.covered hx
  exact hc.1

/-- Approved waivers are of distinct cases, hence distinct, and distinct waivers have ids of their own. -/
theorem waiverIds_nodup : (approved.map SecurityWaiver.waiverId).Nodup := by
  have hdistinct : approved.Nodup := List.Nodup.of_map _ (h.cases_eq ▸ h.regressions_nodup)
  refine hdistinct.map_on fun a ha b hb he => ?_
  exact List.inj_on_of_nodup_map (nodup_map h.waiverIds) (h.mem_waivers ha) (h.mem_waivers hb) he

end Governed

/-- Every waiver has one of the four severities. -/
theorem severityCount_sum (xs : List SecurityWaiver) : severityCount xs .high + severityCount xs .medium + severityCount xs .low +
    severityCount xs .critical = xs.length := by
  unfold severityCount
  induction xs with
  | nil => rfl
  | cons x xs ih =>
    simp only [List.filter_cons, List.length_cons]
    cases hs : x.severity <;> simp <;> omega

theorem severityCount_eq_zero {s : AssuranceSeverity} : severityCount approved s = 0 ↔ s ∉ approved.map SecurityWaiver.severity := by
  rw [severityCount, Int.natCast_eq_zero, List.length_eq_zero_iff, List.filter_eq_nil_iff, List.mem_map]
  simp

/-- A critical attack case that the candidate does not block. -/
def CriticalRegression (corpus : AssuranceCorpus) (candidate : ReleaseAssuranceEvidence) : Prop :=
  ∃ c ∈ corpus.cases, c.Blocks ∧ c.severity = .critical ∧ observed candidate.results c.caseId ≠ some .block

theorem critical_mem_regressions : AssuranceSeverity.critical ∈ (securityRegressions corpus candidate).map AssuranceCase.severity ↔
    CriticalRegression corpus candidate := by
  simp only [List.mem_map, mem_securityRegressions, CriticalRegression]
  constructor
  · rintro ⟨c, ⟨hc, hblocks, hobserved⟩, hcritical⟩
    exact ⟨c, hc, hblocks, hcritical, hobserved⟩
  · rintro ⟨c, hc, hblocks, hcritical, hobserved⟩
    exact ⟨c, ⟨hc, hblocks, hobserved⟩, hcritical⟩

/-! ## The two handles -/

/-- The summary of waivers is consistent unless a critical case is waived. -/
theorem scope_accepted_iff (h : Governed rt corpus registry wrequest candidate waivers approved w) :
    validateWaiverScope w = .ok () ↔ ¬ CriticalRegression corpus candidate := by
  have hids : (sortOn id (approved.map SecurityWaiver.waiverId)).Nodup := ((perm_sortOn _ _).nodup_iff).mpr h.waiverIds_nodup
  have hcases : (sortOn id (approved.map SecurityWaiver.caseId)).Nodup :=
    ((perm_sortOn _ _).nodup_iff).mpr (h.cases_eq ▸ h.regressions_nodup)
  have hsubset : ∀ i ∈ sortOn id (approved.map SecurityWaiver.caseId), i ∈ (securityRegressions corpus candidate).map (·.caseId) := by
    intro i hi
    rw [mem_sortOn, ← h.cases_eq] at hi
    exact hi
  have hlength : ∀ ids : List String, (sortOn id ids).length = ids.length := fun ids => (perm_sortOn id ids).length_eq
  have hsum := severityCount_sum approved
  rw [← critical_mem_regressions, h.severities_eq, ← severityCount_eq_zero, validateWaiverScope, raiseIf_ok]
  obtain rfl := h.handle
  simp only [not_or, not_not, not_and]
  constructor
  · rintro ⟨-, -, -, -, -, -, -, hcritical⟩
    exact hcritical rfl
  · intro hcritical
    refine ⟨h.regressions_nodup, hcases, hids, hsubset, ?_, ?_, hsum, fun _ => hcritical⟩
    · simp [Waivers.verified, hlength]
    · simp [Waivers.verified, hlength]

/-- Of P6-B's handle only the summary of waivers is in question. -/
theorem governance_eq_scope (hex : rt.Hex) (h : Governed rt corpus registry wrequest candidate waivers approved w) :
    validateWaiverGovernance rt w (corpusDigest rt corpus) = validateWaiverScope w := by
  rw [validateWaiverGovernance, raiseIf, if_neg ?_, raiseIf, if_neg ?_]
  · rfl
  · rw [not_not, h.handle]
    exact hex.casefold_digest _
  · obtain rfl := h.handle
    have hset : ¬ true = false := by decide
    simp only [not_or, not_not]
    exact ⟨hset, hset, hset, hset, hset, hset, hex.isSha256_casefold h.commitSha, hex.isSha256_digest _,
      hex.isSha256_digest _, hex.isSha256_digest _, hex.isSha256_digest _⟩

/-- P6-B's handle passes the reporter's checks unless a critical case is waived. -/
theorem governance_accepted_iff (hex : rt.Hex) (h : Governed rt corpus registry wrequest candidate waivers approved w) :
    validateWaiverGovernance rt w (corpusDigest rt corpus) = .ok () ↔ ¬ CriticalRegression corpus candidate := by
  rw [governance_eq_scope hex h, scope_accepted_iff h]

/-- P6-C's handle always passes them. -/
theorem evolution_accepted (hex : rt.Hex) (h : Evolution.evaluate rt epolicy erequest baseline corpus manifest = .ok e) :
    validateCorpusEvolution rt e corpus (corpusDigest rt corpus) = .ok () := by
  simp only [Evolution.evaluate, ok_seq] at h
  obtain ⟨-, -, -, -, -, -, -, -, -, -, -, -, -, -, h⟩ := h
  obtain rfl := Except.ok.inj h
  have hset : ¬ true = false := by decide
  simp only [validateCorpusEvolution, ok_seq, raiseIf_ok, not_or, not_not]
  exact ⟨⟨hset, hset, hset, hset, hset, hex.isSha256_digest _, hex.isSha256_digest _, hex.isSha256_digest _,
    hex.isSha256_digest _⟩, ⟨rfl, rfl, hex.casefold_digest _⟩, rfl, rfl, rfl, rfl, rfl⟩

/-! ## The posture -/

variable (rt) in
/-- A request for the release that `w` governs, with the digests of all evidence, in letters of either case, and no rating. -/
structure Bound (catalog : SecurityControlCatalog) (corpus : AssuranceCorpus) (w : VerifiedWaiverGovernance)
    (e : VerifiedCorpusEvolution) (request : SecurityPostureRequest) : Prop where
  releaseId : request.candidateReleaseId = w.candidateReleaseId
  commitSha : rt.casefold request.candidateCommitSha = w.candidateCommitSha
  packageVersion : request.candidatePackageVersion = w.candidatePackageVersion
  corpusSha256 : rt.casefold request.corpusSha256 = corpusDigest rt corpus
  catalogSha256 : rt.casefold request.controlCatalogSha256 = controlCatalogDigest rt catalog
  waiverEvidence : rt.casefold request.waiverGovernanceEvidenceSha256 = w.governanceEvidenceSha256
  evolutionEvidence : rt.casefold request.corpusEvolutionEvidenceSha256 = e.evidenceSha256
  declaredRating : request.declaredRating = none

variable (rt) in
/-- The reporter returns a posture, which is red when a critical case that a critical control maps is waived and the policy
    says so. -/
def Agrees (catalog : SecurityControlCatalog) (policy : SecurityPosturePolicy) (request : SecurityPostureRequest)
    (corpus : AssuranceCorpus) (w : VerifiedWaiverGovernance) (e : VerifiedCorpusEvolution) : Prop :=
  ∃ p, evaluate rt catalog policy request corpus w e = .ok p ∧ (policy.criticalExceptionIsRed = true →
    (∃ c ∈ catalog.controls, c.severity = .critical ∧ ∃ i ∈ c.mappedCaseIds, i ∈ w.approvedWaivedCaseIds ∧
      ∃ k, corpus.find i = some k ∧ k.severity = .critical) → p.overallRating = .red)

theorem isSha256_of_casefold (hex : rt.Hex) {s : String} {j : Json} (h : rt.casefold s = rt.sha256 j) : isSha256 rt s := by
  rw [isSha256, h]
  exact hex.digest j

theorem request_accepted (hex : rt.Hex) (h : Governed rt corpus registry wrequest candidate waivers approved w)
    (he : Evolution.evaluate rt epolicy erequest baseline corpus manifest = .ok e) (hb : Bound rt catalog corpus w e request) :
    validateRequest rt request (controlCatalogDigest rt catalog) (corpusDigest rt corpus) w e = .ok () := by
  simp only [Evolution.evaluate, ok_seq] at he
  obtain ⟨-, -, -, -, -, -, -, -, -, -, -, -, -, -, he⟩ := he
  obtain rfl := Except.ok.inj he
  obtain rfl := h.handle
  have hcommit : isSha256 rt request.candidateCommitSha := by
    rw [isSha256, hb.commitSha]
    exact h.commitSha
  simp only [validateRequest, ok_seq, raiseIf_ok, not_or, not_not]
  refine ⟨⟨?_, hcommit, ?_, isSha256_of_casefold hex hb.corpusSha256, isSha256_of_casefold hex hb.catalogSha256,
    isSha256_of_casefold hex hb.waiverEvidence, isSha256_of_casefold hex hb.evolutionEvidence⟩, ⟨hb.releaseId, ?_, hb.packageVersion⟩,
    hb.corpusSha256, hb.catalogSha256, ?_, ?_⟩
  · rw [hb.releaseId]
    exact h.releaseId
  · rw [hb.packageVersion]
    exact h.packageVersion
  · rw [hb.commitSha]
    exact (hex.casefold_casefold h.commitSha).symm
  · rw [hb.waiverEvidence]
    exact (hex.casefold_digest _).symm
  · rw [hb.evolutionEvidence]
    exact (hex.casefold_digest _).symm

/-- For a release that P6-B and P6-C have accepted, a valid catalog and a request bound to both, the reporter agrees with them
    exactly when no critical attack case regressed. -/
theorem posture_agrees_iff (hex : rt.Hex) (hw : Waivers.evaluate rt corpus registry wpolicy wrequest candidate waivers = .ok w)
    (he : Evolution.evaluate rt epolicy erequest baseline corpus manifest = .ok e)
    (hcatalog : validateCatalog rt catalog policy = .ok ()) (hb : Bound rt catalog corpus w e request) :
    Agrees rt catalog policy request corpus w e ↔ ¬ CriticalRegression corpus candidate := by
  obtain ⟨approved, h⟩ := governed_of_evaluate hw
  constructor
  · rintro ⟨p, hp, -⟩
    simp only [evaluate, ok_seq] at hp
    exact (governance_accepted_iff hex h).mp hp.2.2.1
  · intro hno
    refine ⟨posture rt catalog policy request corpus w e, ?_, ?_⟩
    · simp only [evaluate, ok_seq, raiseIf_ok]
      refine ⟨hcatalog, validateCorpus_ok.mpr h.wellFormed, (governance_accepted_iff hex h).mpr hno, evolution_accepted hex he,
        request_accepted hex h he hb, ?_, ?_, rfl⟩
      · rw [not_or]
        constructor
        · rintro ⟨i, hi, hno⟩
          exact hno (h.ids_of_regression hi)
        · rintro ⟨i, hi, hno⟩
          exact hno (h.ids_of_regression (h.regression_of_waived hi))
      · rintro ⟨hne, -⟩
        exact hne hb.declaredRating
    · -- no critical case is waived
      rintro - ⟨c, -, -, i, -, hi, k, hk, hcritical⟩
      obtain ⟨k', hk', rfl⟩ := h.mem_regressions (h.regression_of_waived hi)
      obtain ⟨hmem, hblocks, hobserved⟩ := mem_securityRegressions.mp hk'
      rw [h.wellFormed.find hmem, Option.some.injEq] at hk
      exact absurd ⟨k', hmem, hblocks, hk ▸ hcritical, hobserved⟩ hno

end

/-! ## A critical waiver -/

namespace Sample

open Agentic (hex)

def leak : AssuranceCase where
  caseId := "leak"
  boundary := "output"
  attackClass := "secret"
  severity := .critical
  expectation := .block
  invariant := "secrets stay inside"

def before : AssuranceCorpus := ⟨"corpus", "1", [leak], P6A_CORPUS_SCHEMA_VERSION⟩

def after : AssuranceCorpus := ⟨"corpus", "2", [leak], P6A_CORPUS_SCHEMA_VERSION⟩

section
variable (rt : Runtime)

def record : InvariantRecord := ⟨"leak", caseDefinitionDigest rt leak, "owner", .critical⟩

def registry : InvariantRegistry where
  registryId := "registry"
  version := "1"
  corpusSha256 := corpusDigest rt after
  records := [record rt]
  schemaVersion := P6B_INVARIANT_REGISTRY_SCHEMA_VERSION

/-- The candidate lets the attack pass. -/
def candidate : ReleaseAssuranceEvidence where
  releaseId := "release"
  commitSha := hex 'a'
  packageVersion := "1.0"
  corpusSha256 := corpusDigest rt after
  runnerId := "runner"
  results := [⟨"leak", caseDefinitionDigest rt leak, .allow⟩]
  schemaVersion := P6A_EVIDENCE_SCHEMA_VERSION

/-- A policy that lets critical cases be waived. -/
def wpolicy : WaiverGovernancePolicy where
  expectedCorpusSha256 := corpusDigest rt after
  expectedRegistrySha256 := invariantRegistryDigest rt (registry rt)
  expectedOwnerByCase := [("leak", "owner")]
  trustedRunnerIds := ["runner"]
  trustedApproversByRole := [("security", ["alice"])]
  requiredRolesBySeverity := Waivers.severities.map fun s => (s, ["security"])
  maxWaiverSecondsBySeverity := Waivers.severities.map fun s => (s, 60)
  waivableSeverities := [.critical]

def wrequest : WaiverGovernanceRequest where
  candidateReleaseId := "release"
  candidateCommitSha := hex 'a'
  candidatePackageVersion := "1.0"
  corpusSha256 := corpusDigest rt after
  candidateEvidenceSha256 := releaseEvidenceDigest rt (candidate rt)
  evaluatedAtEpoch := 20

def waiver : SecurityWaiver where
  waiverId := "waiver"
  caseId := "leak"
  caseDefinitionSha256 := caseDefinitionDigest rt leak
  ownerId := "owner"
  severity := .critical
  candidateReleaseId := "release"
  candidateCommitSha := hex 'a'
  candidatePackageVersion := "1.0"
  corpusSha256 := corpusDigest rt after
  candidateEvidenceSha256 := releaseEvidenceDigest rt (candidate rt)
  reason := "hotfix"
  trackingRef := "issue"
  issuedAtEpoch := 10
  expiresAtEpoch := 50
  approvals := [⟨"alice", "security", 5⟩]
  schemaVersion := P6B_WAIVER_SCHEMA_VERSION

def governance : VerifiedWaiverGovernance := Waivers.verified rt (registry rt) after (candidate rt) (wrequest rt) [waiver rt]

/-- Nothing changed but the version. -/
def manifest : CorpusChangeManifest where
  baselineCorpusSha256 := corpusDigest rt before
  candidateCorpusSha256 := corpusDigest rt after
  changes := []
  tombstones := []
  schemaVersion := Evolution.P6C_CHANGE_MANIFEST_SCHEMA_VERSION

def epolicy : CorpusEvolutionPolicy where
  expectedBaselineCorpusId := "corpus"
  expectedBaselineCorpusSha256 := corpusDigest rt before
  trustedChangeOwnerIds := ["owner"]
  coverageFloors := []
  minCriticalBlockCases := 1
  minHighOrCriticalBlockCases := 1
  minAllowCases := 0
  requireReplacementForHighCriticalRemoval := true
  forbidBlockToAllow := true
  forbidAttackSeverityDowngrade := true

def erequest : CorpusEvolutionRequest := ⟨"corpus", "2", corpusDigest rt after, Evolution.changeManifestDigest rt (manifest rt)⟩

def evolution : VerifiedCorpusEvolution := Evolution.verified rt (erequest rt) before after (manifest rt)

def catalog : SecurityControlCatalog where
  catalogId := "catalog"
  version := "1"
  controls := [⟨"control", "leakage", "no secret leaves", .critical, ["leak"], ["output"], true⟩]

def policy : SecurityPosturePolicy where
  expectedControlCatalogSha256 := controlCatalogDigest rt catalog
  requiredControlIds := ["control"]
  requiredRiskDomains := ["leakage"]

def request : SecurityPostureRequest where
  candidateReleaseId := "release"
  candidateCommitSha := hex 'a'
  candidatePackageVersion := "1.0"
  corpusSha256 := corpusDigest rt after
  controlCatalogSha256 := controlCatalogDigest rt catalog
  waiverGovernanceEvidenceSha256 := (governance rt).governanceEvidenceSha256
  corpusEvolutionEvidenceSha256 := (evolution rt).evidenceSha256

end

theorem leak_complete : leak.Complete := ⟨by simp [leak], by simp [leak], by simp [leak], by simp [leak]⟩

theorem after_wellFormed : after.WellFormed where
  schemaVersion := rfl
  corpusId := by simp [after]
  version := by simp [after]
  cases := by simp [after]
  complete := by simp [after, leak_complete]
  nodup := by simp [AssuranceCorpus.ids, after]

theorem before_wellFormed : before.WellFormed where
  schemaVersion := rfl
  corpusId := by simp [before]
  version := by simp [before]
  cases := by simp [before]
  complete := by simp [before, leak_complete]
  nodup := by simp [AssuranceCorpus.ids, before]

variable {rt : Runtime}

theorem find_record : (registry rt).find leak.caseId = some (record rt) := by
  simp [InvariantRegistry.find, registry, record, leak]

theorem regressions : securityRegressions after (candidate rt) = [leak] := by
  have hsorted : sortOn AssuranceCase.caseId after.cases = [leak] := rfl
  simp [securityRegressions, mismatches, hsorted, candidate, observed, leak, AssuranceCase.Blocks]

theorem roles_pinned : Waivers.validatePolicy (wpolicy rt) = .ok () := by
  simp only [Waivers.validatePolicy, ok_seq, raiseIf_ok, forEach_ok]
  refine ⟨by simp [wpolicy], ?_, by simp [wpolicy]⟩
  intro s _
  have hroles : ((wpolicy rt).requiredRolesBySeverity.lookup s).isNone = false := by cases s <;> rfl
  have hlimit : (wpolicy rt).maxWaiverSecondsBySeverity.lookup s = some 60 := by cases s <;> rfl
  rw [hroles, hlimit]
  exact ⟨Bool.false_ne_true, ok_bind.mpr ⟨60, rfl, raiseIf_ok.mpr (by decide)⟩⟩

section
variable {rt : Runtime} (h : rt.Hex)
include h

theorem isSha256_hexa : isSha256 rt (hex 'a') := by
  have hmem : ∀ c ∈ (hex 'a').toList, c ∈ Agentic.Evidence.hexDigits := (hex_digits rfl).2
  rw [isSha256, h.casefold _ hmem]
  exact ⟨(hex_digits rfl).1, hmem⟩

theorem registry_valid : Waivers.validateRegistry rt (registry rt) after (wpolicy rt) = .ok () := by
  have hrecord : Waivers.validateRecord rt (registry rt) (wpolicy rt) leak = .ok () := by
    simp only [Waivers.validateRecord, ok_bind, orRaise_ok, raiseIf_ok]
    refine ⟨record rt, find_record, (), ?_, "owner", by simp [wpolicy, leak], ?_⟩
    · rw [not_or, not_not, not_not]
      exact ⟨h.casefold_digest _, rfl⟩
    · simp [record]
  simp only [Waivers.validateRegistry, ok_seq, raiseIf_ok, forEach_ok]
  refine ⟨?_, ?_, ?_, ?_, ?_, ?_, ?_⟩
  · simp [registry, corpusDigest, h.isSha256_digest]
  · exact not_not.mpr (h.casefold_digest _)
  · simp [registry, record, scan, caseDefinitionDigest, h.isSha256_digest, raiseIf, bind, Except.bind]
  · simp [registry, record, after, AssuranceCorpus.ids, leak, Agentic.sameSet]
  · simp [wpolicy, after, AssuranceCorpus.ids, leak, Agentic.sameSet]
  · simp [after, hrecord]
  · simp [wpolicy, invariantRegistryDigest, h.isSha256_digest, h.casefold_digest]

theorem candidate_valid : Waivers.validateCandidateEvidence rt (candidate rt) after (wpolicy rt) = .ok () := by
  simp only [Waivers.validateCandidateEvidence, ok_seq, raiseIf_ok]
  refine ⟨?_, ?_, ?_, ?_, ?_⟩
  · simp [candidate, corpusDigest, h.isSha256_digest, isSha256_hexa h]
  · exact not_not.mpr (h.casefold_digest _)
  · simp [candidate, wpolicy]
  · simp [candidate, scan, AssuranceCorpus.find, after, leak, caseDefinitionDigest, h.isSha256_digest, h.casefold_digest, orRaise, raiseIf, bind, Except.bind]
  · simp [candidate, after, AssuranceCorpus.ids, leak, Agentic.sameSet]

theorem wrequest_valid : Waivers.validateRequest rt (wrequest rt) (candidate rt) after = .ok () := by
  simp only [Waivers.validateRequest, raiseIf_ok, not_or, not_not]
  exact ⟨by simp [wrequest], by simp [wrequest], isSha256_hexa h, h.isSha256_digest _, h.isSha256_digest _, by simp [wrequest], rfl, rfl,
    rfl, h.casefold_digest _, h.casefold_digest _⟩

theorem waiver_valid : Waivers.validateWaiver rt (waiver rt) leak (record rt) (wrequest rt) (wpolicy rt) = .ok () := by
  have happroval : Waivers.validateApproval (waiver rt) leak (record rt) (wpolicy rt) [] ⟨"alice", "security", 5⟩ = .ok () := by
    simp only [Waivers.validateApproval, ok_seq, raiseIf_ok]
    exact ⟨by simp [waiver], by simp, by simp [wpolicy], by simp⟩
  have happrovals : scan (Waivers.validateApproval (waiver rt) leak (record rt) (wpolicy rt)) [] (waiver rt).approvals = .ok () := by
    show scan _ [] [Waivers.WaiverApproval.mk "alice" "security" 5] = _
    rw [scan, happroval]
    rfl
  simp only [Waivers.validateWaiver, ok_seq, raiseIf_ok]
  refine ⟨?_, by simp [waiver, leak], not_not.mpr (h.casefold_digest _), by simp [waiver, record], by simp [waiver, leak],
    by simp [waiver, wpolicy], ?_, by simp [waiver, wrequest], by simp [waiver, wrequest], ok_bind.mpr ⟨60, rfl, ?_⟩⟩
  · simp only [not_or, not_not]
    exact ⟨rfl, by simp [waiver], by simp [waiver], by simp [waiver], (by decide : ¬ blank "hotfix" = true), (by decide : ¬ blank "issue" = true),
      h.isSha256_digest _, isSha256_hexa h,
      h.isSha256_digest _, h.isSha256_digest _, by simp [waiver], by simp [waiver]⟩
  · simp only [not_or, not_not]
    exact ⟨rfl, rfl, rfl, rfl, rfl⟩
  · simp only [ok_seq, raiseIf_ok]
    exact ⟨by simp [waiver], happrovals, ok_bind.mpr ⟨["security"], rfl, by simp [waiver]⟩⟩

/-- P6-B approves the waiver. -/
theorem governed : Waivers.evaluate rt after (registry rt) (wpolicy rt) (wrequest rt) (candidate rt) [waiver rt] =
    .ok (governance rt) := by
  have hcorpus : Waivers.validateCorpus rt after (wpolicy rt) = .ok () := by
    simp only [Waivers.validateCorpus, ok_seq, validateCorpus_ok, raiseIf_ok, not_or, not_not]
    exact ⟨after_wellFormed, h.isSha256_digest _, (h.casefold_digest _).symm⟩
  have happrove : Waivers.approve rt (registry rt) [waiver rt] (wrequest rt) (wpolicy rt) leak = .ok (waiver rt) := by
    simp only [Waivers.approve, ok_bind, orRaise_ok]
    exact ⟨waiver rt, by simp [Waivers.waiverOf, waiver, leak], record rt, find_record, (), waiver_valid h, rfl⟩
  simp only [Waivers.evaluate, ok_seq, raiseIf_ok, regressions]
  refine ⟨roles_pinned, hcorpus, registry_valid h, candidate_valid h, wrequest_valid h, ?_, ?_, ?_, ?_, ?_⟩
  · simp [Waivers.safeTaskRegressions, mismatches, after, candidate, leak]
  · simp [scan, raiseIf]
  · simp [waiver, leak, sortOn]
  · simp [waiver, leak, sortOn]
  · simp only [ok_bind]
    exact ⟨[waiver rt], gather_ok.mpr (.cons happrove .nil), rfl⟩

/-- P6-C accepts the new version. -/
theorem evolved : Evolution.evaluate rt (epolicy rt) (erequest rt) before after (manifest rt) = .ok (evolution rt) := by
  have hadded : Evolution.addedIds before after = [] := by simp [Evolution.addedIds, before, after, AssuranceCorpus.ids, Evolution.sortedTexts, sortOn]
  have hremoved : Evolution.removedIds before after = [] := by simp [Evolution.removedIds, before, after, AssuranceCorpus.ids, Evolution.sortedTexts, sortOn]
  have hmodified : Evolution.modifiedIds rt before after = [] := by
    simp [Evolution.modifiedIds, before, after, AssuranceCorpus.ids, AssuranceCorpus.find, Evolution.sortedTexts, sortOn]
  simp only [Evolution.evaluate, ok_seq, raiseIf_ok, Evolution.validateEither, validateCorpus_ok, hadded, hremoved, hmodified]
  refine ⟨?_, before_wellFormed, after_wellFormed, ?_, by simp [before, after], by simp [before, after], ?_, ?_, ?_, rfl, rfl, ?_, rfl,
    ?_, rfl⟩
  · simp [Evolution.validatePolicy, epolicy, corpusDigest, h.isSha256_digest, scan, raiseIf, bind, Except.bind]
  · rw [not_or, not_not, not_not]
    exact ⟨rfl, (h.casefold_digest _).symm⟩
  · simp only [Evolution.validateRequest, ok_seq, raiseIf_ok, not_or, not_not]
    exact ⟨⟨by simp [erequest], by simp [erequest], h.isSha256_digest _, h.isSha256_digest _⟩, ⟨rfl, rfl, h.casefold_digest _⟩,
      h.casefold_digest _⟩
  · simp only [Evolution.indexManifest, ok_seq, raiseIf_ok, not_or, not_not]
    exact ⟨⟨rfl, h.isSha256_digest _, h.isSha256_digest _⟩, ⟨h.casefold_digest _, h.casefold_digest _⟩, rfl, rfl⟩
  · simp [Evolution.checkCoverage, manifest, Evolution.difference, Evolution.sortedTexts, sortOn, raiseIf]
  · simp [Evolution.checkTombstones, manifest, Evolution.difference, Evolution.sortedTexts, sortOn, raiseIf]
  · have hblock : Evolution.blockCases after = [leak] := rfl
    simp only [Evolution.validateCoverageFloors, ok_seq, raiseIf_ok]
    refine ⟨?_, ?_, by simp [epolicy], rfl⟩
    · simp [Evolution.criticalCount, hblock, leak, epolicy]
    · simp [Evolution.highOrCriticalCount, hblock, leak, AssuranceCase.Grave, epolicy]

theorem catalog_valid : validateCatalog rt catalog (policy rt) = .ok () := by
  simp only [validateCatalog, ok_seq, raiseIf_ok]
  refine ⟨by simp [catalog], ?_, ?_, by simp [policy, catalog, Evolution.sortedTexts, sortOn], by simp [policy, catalog]⟩
  · simp [catalog, scan, validateControl, raiseIf, bind, Except.bind]
  · rw [not_or, not_not, not_not]
    exact ⟨h.isSha256_digest _, (h.casefold_digest _).symm⟩

theorem bound : Bound rt catalog after (governance rt) (evolution rt) (request rt) where
  releaseId := rfl
  commitSha := rfl
  packageVersion := rfl
  corpusSha256 := h.casefold_digest _
  catalogSha256 := h.casefold_digest _
  waiverEvidence := h.casefold_digest _
  evolutionEvidence := h.casefold_digest _
  declaredRating := rfl

/-- The reporter does not, whatever the digests are. -/
theorem rejected : evaluate rt catalog (policy rt) (request rt) after (governance rt) (evolution rt) =
    .error (reject .waiverScopeMismatch "waiver governance summary has inconsistent regression or waiver scope" none) := by
  have hcorpus : validateCorpus after = .ok () := validateCorpus_ok.mpr after_wellFormed
  have hscope : validateWaiverScope (governance rt) =
      .error (reject .waiverScopeMismatch "waiver governance summary has inconsistent regression or waiver scope" none) := by
    have hcount : severityCount [waiver rt] .critical ≠ 0 := by simp [severityCount, waiver]
    rw [validateWaiverScope, raiseIf, if_pos]
    exact .inr (.inr (.inr (.inr (.inr (.inr (.inr ⟨rfl, hcount⟩))))))
  obtain ⟨approved, hgoverned⟩ := governed_of_evaluate (governed h)
  simp only [evaluate, catalog_valid h, hcorpus, governance_eq_scope h hgoverned, hscope, bind, Except.bind]

end

/-- Every letter counts. -/
def checksum (j : Json) : Nat := (j.code.map Char.toNat).sum % 16

/-- A runtime for texts in small letters, whose digest is a check digit. -/
def runtime : Runtime where
  sha256 j := hex (Nat.digitChar (checksum j))
  hmac _ j := hex (Nat.digitChar (checksum j))
  sha256_not_blank j := by
    have hdigit : ∀ n < 16, isSpace (Nat.digitChar n) = false := by decide
    have hj : checksum j < 16 := Nat.mod_lt _ (by omega)
    rw [blank, hex_toList, List.all_cons, hdigit _ hj, Bool.false_and]
  casefold s := s

/-- One digest for everything. -/
def constant : Runtime where
  sha256 _ := hex '0'
  hmac _ _ := hex '0'
  sha256_not_blank _ := Agentic.hex_not_blank
  casefold s := s

theorem digests : runtime.Hex where
  digest j := by
    have hdigit : ∀ n < 16, Agentic.Evidence.hexDigit (Nat.digitChar n) = true := by decide
    exact hex_digits (hdigit _ (Nat.mod_lt _ (by omega)))
  casefold _ _ := rfl

end Sample

open Sample

/-- P6-B approves a critical waiver, P6-C accepts the corpus, and the reporter rejects the summary of waivers. -/
theorem critical_waiver_rejected : runtime.Hex ∧
    Waivers.evaluate runtime after (registry runtime) (wpolicy runtime) (wrequest runtime) (candidate runtime) [waiver runtime] =
      .ok (governance runtime) ∧
    Evolution.evaluate runtime (epolicy runtime) (erequest runtime) before after (manifest runtime) = .ok (evolution runtime) ∧
    validateCatalog runtime catalog (policy runtime) = .ok () ∧
    Bound runtime catalog after (governance runtime) (evolution runtime) (request runtime) ∧
    evaluate runtime catalog (policy runtime) (request runtime) after (governance runtime) (evolution runtime) =
      .error (reject .waiverScopeMismatch "waiver governance summary has inconsistent regression or waiver scope" none) :=
  ⟨digests, governed digests, evolved digests, catalog_valid digests, bound digests, rejected digests⟩

theorem posture_agrees_iff_critical : Agrees runtime catalog (policy runtime) (request runtime) after (governance runtime)
    (evolution runtime) ↔ ¬ CriticalRegression after (candidate runtime) :=
  posture_agrees_iff digests (governed digests) (evolved digests) (catalog_valid digests) (bound digests)

end Aegis.Assurance.Posture
