/-
  Aegis.Training.HoldoutChain — what the three gates of training data say together about holdouts.

  Each gate pins the records it expects in a policy of its own, and hands on a digest and, from the second on, a
  list of ids. So what is selected is what the second gate's policy pins and its manifest does not quarantine
  (`selected_iff`), and a record of the first gate's validation or test split is among it unless the policies agree:
  - `isolated_iff`: every selected record is a training record of the first gate, with the payload it verified, exactly
    when the second policy pins no other records but those.
  - `Sample.holdout_selected`: two policies that do not agree, and a validation record is selected.
-/

import Aegis.Assurance.Regression
import Aegis.Training.FineTuning

namespace Aegis.Training

open Data Checks Provenance Poisoning FineTuning
open Agentic (Runtime sameSet)
open Agentic.Decision (flag flag_eq_nil sorted sorted_eq_nil)

/-! ## Mappings -/

theorem Mapping.mem_of_get? {κ α : Type} [DecidableEq κ] {m : Mapping κ α} {k : κ} {x : α} (h : m.get? k = some x) : (k, x) ∈ m := by
  obtain ⟨item, hitem, rfl⟩ := Option.map_eq_some_iff.mp h
  obtain rfl : item.1 = k := by simpa using List.find?_some hitem
  exact List.mem_of_find?_eq_some hitem

theorem Mapping.get?_of_key {κ α : Type} [DecidableEq κ] {m : Mapping κ α} {k : κ} (h : k ∈ m.keys) : ∃ x, m.get? k = some x := by
  obtain ⟨item, hitem, rfl⟩ := List.mem_map.mp h
  cases hf : m.find? fun other => other.1 = item.1 with
  | none => exact absurd (List.find?_eq_none.mp hf item hitem) (by simp)
  | some other =>
    refine ⟨other.2, ?_⟩
    rw [Mapping.get?, hf]
    rfl

theorem Mapping.key_of_get? {κ α : Type} [DecidableEq κ] {m : Mapping κ α} {k : κ} {x : α} (h : m.get? k = some x) : k ∈ m.keys :=
  List.mem_map_of_mem (f := fun item : κ × α => item.1) (Mapping.mem_of_get? h)

variable {rt : Runtime}

/-! ## The first gate -/

section Provenance

variable {p : TrainingDatasetPolicy} {m : TrainingDatasetManifest} {request : TrainingDatasetRequest}
variable {a : VerifiedTrainingDatasetAssessment} {split : DatasetSplit} {recordId : String}

theorem Provenance.evaluate_allows (h : Provenance.evaluate rt p m request = .ok a) (ha : a.decision = .allow) :
    Provenance.risksOf rt p m = [] := by
  simp only [Provenance.evaluate, Provenance.derive, ok_bind, pure, Except.pure, Except.ok.injEq] at h
  obtain ⟨-, -, -, -, -, -, -, -, -, -, -, -, risks, ⟨-, -, rfl⟩, -, -, -, -, -, -, -, -, -, -, rfl⟩ := h
  by_cases hr : sorted TrainingDataRisk.value (Provenance.risksOf rt p m) = []
  · exact sorted_eq_nil.mp hr
  · rw [if_neg hr] at ha
    cases ha

theorem mem_membership : split ∈ m.membership recordId ↔ recordId ∈ m.splitIds split := by
  have hall : ∀ other : DatasetSplit, other ∈ DatasetSplit.all := by
    intro other
    cases other <;> decide
  simp only [TrainingDatasetManifest.membership, List.mem_flatMap, List.mem_map, List.mem_filter, decide_eq_true_eq]
  constructor
  · rintro ⟨other, -, recordId', ⟨hmem, rfl⟩, rfl⟩
    exact hmem
  · intro h
    exact ⟨split, hall split, recordId, ⟨h, rfl⟩, rfl⟩

/-- What no risk says of the records and splits of a dataset. -/
structure Provenance.Sound (rt : Runtime) (p : TrainingDatasetPolicy) (m : TrainingDatasetManifest) : Prop where
  pinned : ∀ recordId, (∃ split, p.expectedSplitByRecordId.get? recordId = some split) ↔ ∃ r ∈ m.records, r.recordId = recordId
  split : ∀ recordId split, p.expectedSplitByRecordId.get? recordId = some split → m.membership recordId = [split]
  payload : ∀ r ∈ m.records, (p.expectedRecordSha256ById.get? r.recordId).map rt.casefold = some (rt.casefold r.payloadSha256)

theorem Provenance.Sound.of_no_risk (hp : Provenance.validatePolicy p = .ok ()) (h : Provenance.risksOf rt p m = []) : Sound rt p m := by
  simp only [Provenance.validatePolicy, ok_seq, raiseIf_ok] at hp
  obtain ⟨-, -, -, hkeys, -⟩ := hp
  simp only [List.mem_cons, List.not_mem_nil, or_false, exists_eq_or_imp, exists_eq_left, not_or, not_not] at hkeys
  obtain ⟨-, -, -, hsplits⟩ := hkeys
  simp only [Provenance.risksOf, Provenance.recordRisks, splitRisks, List.append_eq_nil_iff, flag_eq_nil, List.flatMap_eq_nil_iff,
    not_not] at h
  obtain ⟨⟨⟨-, hcover, hrecords⟩, ⟨-, hassigned⟩⟩, -⟩ := h
  refine ⟨?_, ?_, ?_⟩
  · intro recordId
    constructor
    · rintro ⟨split, hsplit⟩
      exact List.mem_map.mp (hcover.2 recordId (hsplits.1 recordId (Mapping.key_of_get? hsplit)))
    · rintro ⟨r, hr, rfl⟩
      exact Mapping.get?_of_key (hsplits.2 r.recordId (hcover.1 r.recordId (List.mem_map_of_mem hr)))
  · intro recordId split hsplit
    exact (hassigned (recordId, split) (Mapping.mem_of_get? hsplit)).1
  · intro r hr
    have hpinned := hcover.1 r.recordId (List.mem_map_of_mem hr)
    have hnone := hrecords r (List.mem_filter.mpr ⟨hr, decide_eq_true hpinned⟩)
    simp only [Provenance.recordRisksOf, List.append_eq_nil_iff, flag_eq_nil, not_not] at hnone
    exact hnone.1.1.1.1.1

/-- A record stands in one split, the one the policy has for it. -/
theorem Provenance.Sound.mem_split (h : Sound rt p m)
    (hpin : p.expectedSplitByRecordId.get? recordId = some split) (other : DatasetSplit) :
    recordId ∈ m.splitIds other ↔ other = split := by
  rw [← mem_membership, h.split recordId split hpin, List.mem_singleton]

end Provenance

/-! ## The second gate -/

section Poisoning

variable {p : TrainingPoisoningPolicy} {m : TrainingPoisoningManifest} {request : TrainingPoisoningRequest}
variable {a : VerifiedTrainingDatasetAssessment} {b : VerifiedTrainingPoisoningAssessment}

theorem Poisoning.evaluate_allows (h : Poisoning.evaluate rt p m request a = .ok b) (hb : b.decision = .allow) :
    Poisoning.risksOf rt p m a = [] ∧ b.includedRecordIds = m.expectedIncluded := by
  simp only [Poisoning.evaluate, Poisoning.derive, ok_bind, pure, Except.pure, Except.ok.injEq] at h
  obtain ⟨-, -, -, -, -, -, -, -, d, ⟨-, -, rfl⟩, -, -, rfl⟩ := h
  refine ⟨?_, rfl⟩
  by_cases hr : sorted PoisoningRisk.value (Poisoning.risksOf rt p m a) = []
  · exact sorted_eq_nil.mp hr
  · rw [if_neg hr] at hb
    cases hb

/-- What no risk says of the records of the second gate. -/
theorem Poisoning.records_of_no_risk (h : Poisoning.risksOf rt p m a = []) :
    sameSet (m.records.map (·.recordId)) p.expectedRecordSha256ById.keys ∧
      ∀ r ∈ m.records, (p.expectedRecordSha256ById.get? r.recordId).map rt.casefold = some (rt.casefold r.payloadSha256) := by
  simp only [Poisoning.risksOf, List.append_eq_nil_iff, flag_eq_nil, List.flatMap_eq_nil_iff, not_not] at h
  obtain ⟨⟨⟨⟨-, hcover⟩, -⟩, hrecords⟩, -⟩ := h
  refine ⟨hcover, ?_⟩
  intro r hr
  have hpinned := hcover.1 r.recordId (List.mem_map_of_mem hr)
  have hnone := hrecords r (List.mem_filter.mpr ⟨hr, decide_eq_true hpinned⟩)
  simp only [Poisoning.recordRisksOf, List.append_eq_nil_iff, flag_eq_nil, not_not] at hnone
  exact hnone.1.1.1.1.1.1.1.1.1.1

end Poisoning

/-! ## The third gate -/

section FineTuning

variable {p : FineTuningAdmissionPolicy} {m : FineTuningAdmissionManifest} {request : FineTuningAdmissionRequest}
variable {b : VerifiedTrainingPoisoningAssessment} {c : VerifiedFineTuningAdmissionAssessment}

theorem FineTuning.evaluate_allows (h : FineTuning.evaluate rt p m request b = .ok c) (hc : c.decision = .allow) :
    c.selectedRecordIds = sortOn id b.includedRecordIds := by
  simp only [FineTuning.evaluate, FineTuning.derive, ok_bind, pure, Except.pure, Except.ok.injEq] at h
  obtain ⟨-, -, -, -, -, -, -, -, -, -, -, -, risks, ⟨-, -, rfl⟩, -, -, -, -, -, -, -, -, -, -, -, -, -, -, -, -, rfl⟩ := h
  have hr : sorted FineTuneRisk.value (FineTuning.risksOf rt p m b request.evaluatedAtEpoch) = [] := by
    by_contra hr
    rw [if_neg hr] at hc
    cases hc
  have hnone := sorted_eq_nil.mp hr
  simp only [FineTuning.risksOf, selectedDataRisks, List.append_eq_nil_iff, flag_eq_nil, not_not] at hnone
  obtain ⟨⟨⟨⟨⟨-, hselected⟩, -⟩, -⟩, -⟩, -⟩ := hnone
  exact hselected.1.2

end FineTuning

/-! ## The chain -/

/-- An admission that all of the gates allow: each takes the assessment of the one before it. -/
structure Admission (rt : Runtime) where
  dataPolicy : TrainingDatasetPolicy
  data : TrainingDatasetManifest
  dataRequest : TrainingDatasetRequest
  dataAssessment : VerifiedTrainingDatasetAssessment
  poisoningPolicy : TrainingPoisoningPolicy
  poisoning : TrainingPoisoningManifest
  poisoningRequest : TrainingPoisoningRequest
  poisoningAssessment : VerifiedTrainingPoisoningAssessment
  tuningPolicy : FineTuningAdmissionPolicy
  tuning : FineTuningAdmissionManifest
  tuningRequest : FineTuningAdmissionRequest
  tuningAssessment : VerifiedFineTuningAdmissionAssessment
  data_valid : Provenance.validatePolicy dataPolicy = .ok ()
  data_evaluated : Provenance.evaluate rt dataPolicy data dataRequest = .ok dataAssessment
  data_allowed : dataAssessment.decision = .allow
  poisoning_valid : Poisoning.validatePolicy poisoningPolicy = .ok ()
  poisoning_evaluated : Poisoning.evaluate rt poisoningPolicy poisoning poisoningRequest dataAssessment = .ok poisoningAssessment
  poisoning_allowed : poisoningAssessment.decision = .allow
  tuning_valid : FineTuning.validatePolicy tuningPolicy = .ok ()
  tuning_evaluated : FineTuning.evaluate rt tuningPolicy tuning tuningRequest poisoningAssessment = .ok tuningAssessment
  tuning_allowed : tuningAssessment.decision = .allow

namespace Admission

variable (x : Admission rt)

/-- A selected record is a record of the second gate with the payload its policy pins, and not in quarantine. -/
def Screened : Prop :=
  ∀ recordId ∈ x.tuningAssessment.selectedRecordIds, recordId ∉ x.poisoning.declaredQuarantine ∧
    ∃ r ∈ x.poisoning.records, r.recordId = recordId ∧
      (x.poisoningPolicy.expectedRecordSha256ById.get? recordId).map rt.casefold = some (rt.casefold r.payloadSha256)

/-- A selected record stands in the training split of the first gate and in no other, with the payload that gate verified. -/
def Isolated : Prop :=
  ∀ recordId ∈ x.tuningAssessment.selectedRecordIds, ∃ r ∈ x.data.records, r.recordId = recordId ∧
    (∀ split, recordId ∈ x.data.splitIds split ↔ split = .train) ∧
    ∃ s ∈ x.poisoning.records, s.recordId = recordId ∧ rt.casefold s.payloadSha256 = rt.casefold r.payloadSha256

/-- What the second policy pins and its manifest leaves in, the first policy has as a training record with the same payload. -/
def Agree : Prop :=
  ∀ recordId ∈ x.poisoningPolicy.expectedRecordSha256ById.keys, recordId ∉ x.poisoning.declaredQuarantine →
    x.dataPolicy.expectedSplitByRecordId.get? recordId = some .train ∧
    (x.dataPolicy.expectedRecordSha256ById.get? recordId).map rt.casefold =
      (x.poisoningPolicy.expectedRecordSha256ById.get? recordId).map rt.casefold

variable {x} {recordId : String}

theorem sound : Provenance.Sound rt x.dataPolicy x.data :=
  .of_no_risk x.data_valid (Provenance.evaluate_allows x.data_evaluated x.data_allowed)

/-- What is selected is what the second policy pins and its manifest does not quarantine. -/
theorem selected_iff : recordId ∈ x.tuningAssessment.selectedRecordIds ↔
    recordId ∈ x.poisoningPolicy.expectedRecordSha256ById.keys ∧ recordId ∉ x.poisoning.declaredQuarantine := by
  obtain ⟨hnone, hincluded⟩ := Poisoning.evaluate_allows x.poisoning_evaluated x.poisoning_allowed
  have hcover := (Poisoning.records_of_no_risk hnone).1
  rw [FineTuning.evaluate_allows x.tuning_evaluated x.tuning_allowed, hincluded, TrainingPoisoningManifest.expectedIncluded, mem_sortOn,
    mem_sortOn, List.mem_filter, decide_eq_true_eq]
  exact and_congr_left fun _ => ⟨hcover.1 recordId, hcover.2 recordId⟩

/-- A record the second policy pins, and what it verified of it. -/
theorem poisoning_record (h : recordId ∈ x.poisoningPolicy.expectedRecordSha256ById.keys) :
    ∃ r ∈ x.poisoning.records, r.recordId = recordId ∧
      (x.poisoningPolicy.expectedRecordSha256ById.get? recordId).map rt.casefold = some (rt.casefold r.payloadSha256) := by
  obtain ⟨hnone, -⟩ := Poisoning.evaluate_allows x.poisoning_evaluated x.poisoning_allowed
  obtain ⟨hcover, hpayload⟩ := Poisoning.records_of_no_risk hnone
  obtain ⟨r, hr, rfl⟩ := List.mem_map.mp (hcover.2 recordId h)
  exact ⟨r, hr, rfl, hpayload r hr⟩

theorem screened : x.Screened := by
  intro recordId h
  obtain ⟨hpinned, hkept⟩ := selected_iff.mp h
  exact ⟨hkept, poisoning_record hpinned⟩

theorem Isolated.agree (h : x.Isolated) : x.Agree := by
  intro recordId hpinned hkept
  obtain ⟨r, hr, rfl, hsplits, s, hs, hid, hpayload⟩ := h recordId (selected_iff.mpr ⟨hpinned, hkept⟩)
  obtain ⟨split, hsplit⟩ := (x.sound.pinned r.recordId).mpr ⟨r, hr, rfl⟩
  have htrain : DatasetSplit.train = split := (x.sound.mem_split hsplit .train).mp ((hsplits .train).mpr rfl)
  have hverified := (Poisoning.records_of_no_risk (Poisoning.evaluate_allows x.poisoning_evaluated x.poisoning_allowed).1).2 s hs
  rw [hid] at hverified
  refine ⟨?_, ?_⟩
  · rw [hsplit, htrain]
  · rw [x.sound.payload r hr, hverified, hpayload]

theorem Agree.isolated (h : x.Agree) : x.Isolated := by
  intro recordId hselected
  obtain ⟨hpinned, hkept⟩ := selected_iff.mp hselected
  obtain ⟨htrain, hsame⟩ := h recordId hpinned hkept
  obtain ⟨r, hr, rfl⟩ := (x.sound.pinned recordId).mp ⟨.train, htrain⟩
  obtain ⟨s, hs, hid, hverified⟩ := poisoning_record hpinned
  rw [x.sound.payload r hr, hverified] at hsame
  exact ⟨r, hr, rfl, x.sound.mem_split htrain, s, hs, hid, (Option.some.inj hsame).symm⟩

/-- What is selected has passed the second gate, and is isolated from the holdouts of the first exactly when their policies agree. -/
theorem isolated_iff : x.Screened ∧ (x.Isolated ↔ x.Agree) := ⟨screened, Isolated.agree, Agree.isolated⟩

end Admission

namespace Sample

def records : List DatasetRecordEvidence :=
  [⟨"record-01", "src-helpdesk", "key-01", Agentic.hex 'a', []⟩, ⟨"record-07", "src-helpdesk", "key-07", Agentic.hex 'b', []⟩]

def data : TrainingDatasetManifest where
  schemaVersion := p9aDatasetSchemaVersion
  manifestId := "p9a-manifest"
  datasetId := "helpdesk"
  datasetVersion := "2026.08"
  createdAtEpoch := 1000
  sourceSnapshots := [⟨"src-helpdesk", "curated", "dataset://curated/tickets", "tickets@1", Agentic.hex 'c', 900⟩]
  records
  splitRecordIdsBySplit := [(.train, ["record-01"]), (.validation, ["record-07"])]
  transforms := []
  finalDatasetSha256 := Agentic.hex '0'

def dataPolicy : TrainingDatasetPolicy where
  policyVersion := p9aDatasetPolicyVersion
  expectedManifestId := "p9a-manifest"
  expectedDatasetId := "helpdesk"
  expectedDatasetVersion := "2026.08"
  expectedManifestSha256 := Agentic.hex '1'
  trustedSourceOwners := ["curated"]
  allowedSourceUriPrefixByOwner := [("curated", "dataset://curated/")]
  expectedSourceRevisionById := [("src-helpdesk", "tickets@1")]
  expectedSourceSnapshotSha256ById := [("src-helpdesk", Agentic.hex 'c')]
  expectedRecordSha256ById := [("record-01", Agentic.hex 'a'), ("record-07", Agentic.hex 'b')]
  expectedRecordSourceById := [("record-01", "src-helpdesk"), ("record-07", "src-helpdesk")]
  expectedRecordKeyById := [("record-01", "key-01"), ("record-07", "key-07")]
  expectedParentRecordIdsById := [("record-01", []), ("record-07", [])]
  expectedSplitByRecordId := [("record-01", .train), ("record-07", .validation)]
  expectedTransformOrder := []
  expectedTransformKindById := []
  expectedTransformOwnerById := []
  expectedTransformConfigSha256ById := []
  expectedFinalDatasetSha256 := Agentic.hex '0'
  maxManifestAgeSeconds := 300
  maxFutureSkewSeconds := 5
  maxSourceAgeSeconds := 300

def dataRequest : TrainingDatasetRequest where
  manifestId := "p9a-manifest"
  manifestSha256 := Agentic.hex '1'
  datasetId := "helpdesk"
  datasetVersion := "2026.08"
  evaluatedAtEpoch := 1000
  declaredSourceIds := ["src-helpdesk"]
  declaredRecordCount := 2
  declaredSplitCounts := [(.train, 1), (.validation, 1), (.test, 0)]
  declaredFinalDatasetSha256 := Agentic.hex '0'
  declaredTrainingDataSafe := true
  declaredProvenanceComplete := true

def dataAssessment : VerifiedTrainingDatasetAssessment where
  manifestId := "p9a-manifest"
  datasetId := "helpdesk"
  datasetVersion := "2026.08"
  decision := .allow
  risks := []
  sourceCount := 1
  recordCount := 2
  splitCounts := [(.train, 1), (.validation, 1), (.test, 0)]
  transformCount := 0
  finalDatasetSha256 := Agentic.hex '0'
  exactManifestBindingVerified := true
  trustedSourceSnapshotsVerified := true
  recordHashCoverageVerified := true
  splitIsolationVerified := true
  transformLineageVerified := true
  callerDeclaredTrainingDataSafetyTrusted := false
  productionDataLakeIntegration := false
  productionTrainingPipelineAttestation := false
  cryptographicSourceAuthentication := false
  networkOperations := 0
  assessmentSchemaVersion := p9aAssessmentSchemaVersion
  assessmentMode := p9aAssessmentMode
  assessmentEvidenceSha256 := Agentic.hex '2'

/-- The second gate has both records, the one of the validation split as well. -/
def poisoning : TrainingPoisoningManifest where
  schemaVersion := p9bSchemaVersion
  manifestId := "p9b-manifest"
  datasetId := "helpdesk"
  datasetVersion := "2026.08"
  createdAtEpoch := 1000
  p9aAssessmentSha256 := Agentic.hex '2'
  p9aFinalDatasetSha256 := Agentic.hex '0'
  contributors := [⟨"curator", .trusted, 10000⟩]
  records := [⟨"record-01", Agentic.hex 'a', "src-helpdesk", "curator", "benign", 9800, 200, [], "", false, []⟩,
    ⟨"record-07", Agentic.hex 'b', "src-helpdesk", "curator", "benign", 9800, 200, [], "", false, []⟩]
  reviews := []
  includedRecordIds := ["record-01", "record-07"]

def poisoningPolicy : TrainingPoisoningPolicy where
  policyVersion := p9bPolicyVersion
  expectedManifestId := "p9b-manifest"
  expectedDatasetId := "helpdesk"
  expectedDatasetVersion := "2026.08"
  expectedManifestSha256 := Agentic.hex '3'
  expectedP9aAssessmentSha256 := Agentic.hex '2'
  expectedP9aFinalDatasetSha256 := Agentic.hex '0'
  expectedRecordSha256ById := [("record-01", Agentic.hex 'a'), ("record-07", Agentic.hex 'b')]
  expectedSourceByRecordId := [("record-01", "src-helpdesk"), ("record-07", "src-helpdesk")]
  expectedContributorByRecordId := [("record-01", "curator"), ("record-07", "curator")]
  expectedLabelByRecordId := [("record-01", "benign"), ("record-07", "benign")]
  contributorTrustById := [("curator", .trusted)]
  contributorWeightBpsById := [("curator", 10000)]
  trustedReviewerIds := []
  minimumReviewWeightBps := 8000
  maxContributorShareBps := 10000
  maxAnomalyScoreBps := 7500
  maxDuplicateClusterSize := 2
  allowedPoisoningSignalIds := []
  minLabelConfidenceBps := 9000
  maxManifestAgeSeconds := 300
  maxFutureSkewSeconds := 5

def poisoningRequest : TrainingPoisoningRequest where
  manifestId := "p9b-manifest"
  manifestSha256 := Agentic.hex '3'
  datasetId := "helpdesk"
  datasetVersion := "2026.08"
  evaluatedAtEpoch := 1000
  declaredIncludedRecordIds := ["record-01", "record-07"]
  declaredQuarantinedRecordIds := []
  declaredWeightedRiskScore := 0
  declaredTrainingDataSafe := true
  declaredLabelIntegrityVerified := true

def poisoningAssessment : VerifiedTrainingPoisoningAssessment where
  manifestId := "p9b-manifest"
  datasetId := "helpdesk"
  datasetVersion := "2026.08"
  decision := .allow
  risks := []
  recordCount := 2
  includedRecordIds := ["record-01", "record-07"]
  quarantinedRecordIds := []
  contributorCount := 1
  reviewedRecordCount := 0
  weightedRiskScore := 0
  upstreamP9aBound := true
  recordIntegrityVerified := true
  labelIntegrityVerified := true
  contributorTrustVerified := true
  poisoningIndicatorsClear := true
  callerDeclaredTrainingDataSafetyTrusted := false
  productionDataQualityPlatformIntegrated := false
  semanticPoisoningDetectionValidated := false
  humanReviewIdentityCryptographicallyAuthenticated := false
  assessmentSchemaVersion := p9bAssessmentSchemaVersion
  assessmentMode := p9bAssessmentMode
  assessmentEvidenceSha256 := Agentic.hex '4'

def selectedJson : Json :=
  .obj [("p9b_assessment_sha256", .str (Agentic.hex '4')), ("record_ids", texts ["record-01", "record-07"])]

def tuning : FineTuningAdmissionManifest where
  schemaVersion := p9cSchemaVersion
  manifestId := "p9c-manifest"
  datasetId := "helpdesk"
  datasetVersion := "2026.08"
  createdAtEpoch := 1000
  p9bAssessmentSha256 := Agentic.hex '4'
  selectedRecordIds := ["record-01", "record-07"]
  selectedDataSha256 := Agentic.hex '5'
  principalId := "trainer"
  taskId := "tune"
  baseModel := ⟨"base-7b", "r42", Agentic.hex 'a', Agentic.hex 'b', Agentic.hex 'c', "safe-v3"⟩
  adapters := []
  hyperparameters := ⟨100, 1000, 8, 10, 7, 1⟩
  authorization := ⟨"grant", "trainer", "tune", Agentic.hex '4', Agentic.hex 'a', Agentic.hex '5', 900, 2000, [.lora]⟩
  plannedOutputArtifactId := "adapter://helpdesk"

def tuningPolicy : FineTuningAdmissionPolicy where
  policyVersion := p9cPolicyVersion
  expectedManifestId := "p9c-manifest"
  expectedDatasetId := "helpdesk"
  expectedDatasetVersion := "2026.08"
  expectedManifestSha256 := Agentic.hex '6'
  expectedP9bAssessmentSha256 := Agentic.hex '4'
  expectedSelectedRecordIds := ["record-01", "record-07"]
  expectedSelectedDataSha256 := Agentic.hex '5'
  expectedPrincipalId := "trainer"
  expectedTaskId := "tune"
  expectedGrantId := "grant"
  expectedBaseModelId := "base-7b"
  expectedBaseModelRevision := "r42"
  expectedBaseModelArtifactSha256 := Agentic.hex 'a'
  expectedBaseModelPackageSha256 := Agentic.hex 'b'
  expectedTokenizerSha256 := Agentic.hex 'c'
  expectedRuntimeProfile := "safe-v3"
  expectedAdapterOrder := []
  allowedModes := [.lora]
  allowedSerializationFormats := ["safetensors"]
  expectedAdapterInitSha256ById := []
  allowedTargetModules := ["q_proj"]
  maxAdapterRank := 16
  maxAdapterAlphaBps := 3200
  maxAdapterStackDepth := 2
  minLearningRateMicros := 1
  maxLearningRateMicros := 500
  minEpochsMilli := 1
  maxEpochsMilli := 3000
  maxBatchSize := 16
  maxSteps := 100
  allowedSeeds := [7]
  maxGradientAccumulationSteps := 4
  expectedOutputArtifactId := "adapter://helpdesk"
  maxManifestAgeSeconds := 300
  maxFutureSkewSeconds := 5

def tuningRequest : FineTuningAdmissionRequest where
  manifestId := "p9c-manifest"
  manifestSha256 := Agentic.hex '6'
  datasetId := "helpdesk"
  datasetVersion := "2026.08"
  evaluatedAtEpoch := 1000
  declaredSelectedRecordIds := ["record-01", "record-07"]
  declaredSelectedDataSha256 := Agentic.hex '5'
  declaredBaseModelArtifactSha256 := Agentic.hex 'a'
  declaredAdapterIds := []
  declaredAuthorized := true
  declaredBaseModelBound := true
  declaredAdapterPolicySafe := true
  declaredTrainingAdmissionSafe := true

def tuningAssessment : VerifiedFineTuningAdmissionAssessment where
  manifestId := "p9c-manifest"
  datasetId := "helpdesk"
  datasetVersion := "2026.08"
  decision := .allow
  risks := []
  principalId := "trainer"
  taskId := "tune"
  selectedRecordIds := ["record-01", "record-07"]
  selectedDataSha256 := Agentic.hex '5'
  baseModelId := "base-7b"
  baseModelRevision := "r42"
  baseModelArtifactSha256 := Agentic.hex 'a'
  adapterIds := []
  plannedOutputArtifactId := "adapter://helpdesk"
  upstreamP9bBound := true
  authorizationVerified := true
  baseModelBindingVerified := true
  adapterPolicyVerified := true
  hyperparameterPolicyVerified := true
  callerDeclaredSafetyTrusted := false
  productionTrainingRuntimeIntegrated := false
  productionIdentityProviderIntegrated := false
  proofOfTrainingExecution := false
  assessmentSchemaVersion := p9cAssessmentSchemaVersion
  assessmentMode := p9cAssessmentMode
  assessmentEvidenceSha256 := Agentic.hex '7'

def dataAssessmentJson : Json :=
  .obj [("dataset_id", .str "helpdesk"), ("dataset_version", .str "2026.08"), ("decision", .str "allow"),
    ("final_dataset_sha256", .str (Agentic.hex '0')), ("manifest_id", .str "p9a-manifest"), ("mode", .str p9aAssessmentMode),
    ("record_count", .int 2), ("risks", .nil), ("schema", .str p9aAssessmentSchemaVersion), ("sources", texts ["src-helpdesk"]),
    ("split_counts", .obj [("test", .int 0), ("train", .int 1), ("validation", .int 1)]), ("transform_count", .int 0)]

/-- The eight texts that are hashed, each with a digest of its own. -/
def runtime : Runtime where
  sha256 := Assurance.tabledDigest [data.rawJson, data.toJson, dataAssessmentJson, poisoning.toJson,
    Poisoning.assessmentJson poisoning .allow ⟨[], ["record-01", "record-07"], [], 0, 0⟩, selectedJson, tuning.toJson,
    FineTuning.assessmentJson tuning .allow []]
  hmac _ := Assurance.tabledDigest []
  sha256_not_blank := Assurance.tabledDigest_not_blank _
  casefold s := s
  str j := String.ofList j.code
  str_injective := Agentic.code_text_injective

/-- A digit all over is a digest. -/
theorem isSha_hex (c : Char) :
    isSha (Agentic.hex c) = (('0' ≤ c && c ≤ '9') || ('a' ≤ c && c ≤ 'f') || ('A' ≤ c && c ≤ 'F')) := by
  rw [isSha, Agentic.hex, String.toList_ofList, List.length_replicate, List.all_replicate]
  simp

theorem data_valid : Provenance.validatePolicy dataPolicy = .ok () := by
  simp only [Provenance.validatePolicy, ok_seq, raiseIf_ok]
  simp only [dataPolicy, Mapping.keys, Mapping.values, List.map_cons, List.map_nil, List.cons_append, List.nil_append, List.append_nil,
    List.mem_cons, List.not_mem_nil, or_false, exists_eq_or_imp, exists_eq_left, isSha_hex]
  decide

theorem data_shape : Provenance.validateManifestShape dataPolicy data = .ok () := by
  simp only [Provenance.validateManifestShape, Provenance.validateRecord, Provenance.validateTransform, ok_seq, raiseIf_ok, forEach_ok]
  simp only [data, records, List.mem_cons, List.not_mem_nil, or_false, exists_eq_left, forall_eq_or_imp, forall_eq, false_imp_iff,
    implies_true, and_true, isSha_hex]
  decide

theorem data_evaluated : Provenance.evaluate runtime dataPolicy data dataRequest = .ok dataAssessment := by
  rw [Provenance.evaluate, Provenance.derive, data_shape]
  decide +kernel

theorem poisoning_valid : Poisoning.validatePolicy poisoningPolicy = .ok () := by
  simp only [Poisoning.validatePolicy, ok_seq, raiseIf_ok]
  simp only [poisoningPolicy, List.mem_cons, List.not_mem_nil, or_false, exists_eq_or_imp, exists_eq_left, forall_eq_or_imp, forall_eq,
    isSha_hex]
  decide

theorem poisoning_shape : Poisoning.validateManifest poisoningPolicy poisoning = .ok () := by
  simp only [Poisoning.validateManifest, Poisoning.validateRecord, ok_seq, raiseIf_ok, forEach_ok]
  simp only [poisoning, List.mem_cons, List.not_mem_nil, or_false, exists_eq_left, forall_eq_or_imp, forall_eq, false_and, exists_false,
    isSha_hex]
  decide

theorem poisoning_evaluated :
    Poisoning.evaluate runtime poisoningPolicy poisoning poisoningRequest dataAssessment = .ok poisoningAssessment := by
  rw [Poisoning.evaluate, Poisoning.derive, poisoning_shape]
  decide +kernel

theorem tuning_valid : FineTuning.validatePolicy tuningPolicy = .ok () := by
  simp only [FineTuning.validatePolicy, ok_seq, raiseIf_ok]
  simp only [tuningPolicy, Mapping.values, List.map_nil, List.append_nil, List.mem_cons, List.not_mem_nil, or_false, forall_eq_or_imp,
    forall_eq, isSha_hex]
  decide

theorem tuning_shape : FineTuning.validateManifest tuningPolicy tuning = .ok () := by
  simp only [FineTuning.validateManifest, FineTuning.validateAdapter, ok_seq, raiseIf_ok, forEach_ok]
  simp only [tuning, List.mem_cons, List.not_mem_nil, or_false, exists_eq_or_imp, exists_eq_left, forall_eq_or_imp, forall_eq,
    false_imp_iff, implies_true, true_and, isSha_hex]
  decide

theorem tuning_evaluated :
    FineTuning.evaluate runtime tuningPolicy tuning tuningRequest poisoningAssessment = .ok tuningAssessment := by
  rw [FineTuning.evaluate, FineTuning.derive, tuning_shape]
  decide +kernel

def admission : Admission runtime where
  dataPolicy
  data
  dataRequest
  dataAssessment
  poisoningPolicy
  poisoning
  poisoningRequest
  poisoningAssessment
  tuningPolicy
  tuning
  tuningRequest
  tuningAssessment
  data_valid
  data_evaluated
  data_allowed := rfl
  poisoning_valid
  poisoning_evaluated
  poisoning_allowed := rfl
  tuning_valid
  tuning_evaluated
  tuning_allowed := rfl

/-- A record of the validation split is selected for fine-tuning, and every gate allows it. -/
theorem holdout_selected : "record-07" ∈ data.splitIds .validation ∧ "record-07" ∈ admission.tuningAssessment.selectedRecordIds ∧
    ¬ admission.Isolated := by
  refine ⟨by decide, by decide, ?_⟩
  intro h
  obtain ⟨r, -, -, hsplits, -⟩ := h "record-07" (by decide)
  exact absurd ((hsplits .validation).mp (by decide)) (by decide)

end Sample

end Aegis.Training
