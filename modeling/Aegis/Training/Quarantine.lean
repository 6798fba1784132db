/-
  Aegis.Training.Quarantine — what the second gate makes of a dataset whose bad records are quarantined.

  A record that needs quarantine is one of a list, and a risk as well, whether it is quarantined or not.
  - `risks_nil_iff`: so where nothing else is wrong, there is no risk exactly when no record needs quarantine, and the
    quarantine and what is included are exact.
  - `quarantine_effective_iff`: quarantine makes a dataset admissible exactly when there was nothing to quarantine.
  - `Sample.quarantined_denied`: one bad record, quarantined and left out, and the dataset is denied.
-/

import Aegis.Training.HoldoutChain

namespace Aegis.Training.Poisoning

open Data Checks Provenance
open Agentic (Runtime sameSet)
open Agentic.Decision (flag_eq_nil sorted_eq_nil)

variable {rt : Runtime} {p : TrainingPoisoningPolicy} {m : TrainingPoisoningManifest} {a : VerifiedTrainingDatasetAssessment}
  {r : TrainingRecordSecurityEvidence}

/-- The pins of a record, and how sure its label is. -/
structure Pinned (rt : Runtime) (p : TrainingPoisoningPolicy) (m : TrainingPoisoningManifest) (r : TrainingRecordSecurityEvidence) : Prop where
  payload : (p.expectedRecordSha256ById.get? r.recordId).map rt.casefold = some (rt.casefold r.payloadSha256)
  source : p.expectedSourceByRecordId.get? r.recordId = some r.sourceId
  contributor : p.expectedContributorByRecordId.get? r.recordId = some r.contributorId ∧ r.contributorId ∈ m.contributors.map (·.contributorId)
  label : p.expectedLabelByRecordId.get? r.recordId = some r.label
  confidence : p.minLabelConfidenceBps ≤ r.labelConfidenceBps

/-- Nothing is wrong but what has to do with quarantine. -/
structure Otherwise (rt : Runtime) (p : TrainingPoisoningPolicy) (m : TrainingPoisoningManifest) (a : VerifiedTrainingDatasetAssessment) :
    Prop where
  upstream : bindingRisks rt p m a = []
  coverage : sameSet (m.records.map (·.recordId)) p.expectedRecordSha256ById.keys
  contributors : contributorRisks p m = []
  pinned : ∀ r ∈ m.records, Pinned rt p m r
  reviews : ∀ r ∈ m.records, ∀ reviewId ∈ r.reviewIds, ∃ v ∈ m.review? reviewId, ValidReview rt p r v
  concentration : ∀ c ∈ m.contributors, contributorCount p m c.contributorId * 10000 / (max 1 m.records.length : Int) ≤ p.maxContributorShareBps
  clusters : ∀ r ∈ m.records, r.duplicateClusterId ≠ "" → clusterCount p m r.duplicateClusterId ≤ p.maxDuplicateClusterSize

/-- Quarantined are the records that need it, and included the others. -/
structure Exact (rt : Runtime) (p : TrainingPoisoningPolicy) (m : TrainingPoisoningManifest) : Prop where
  quarantined : ∀ r ∈ m.records, r.quarantined = true ↔ NeedsQuarantine rt p m r
  included : ∀ id, id ∈ m.includedRecordIds ↔ ∃ r ∈ m.records, r.recordId = id ∧ ¬ NeedsQuarantine rt p m r

/-- Exact quarantine makes a dataset admissible, and nothing bad is included where it is. -/
structure Effective (rt : Runtime) (p : TrainingPoisoningPolicy) (m : TrainingPoisoningManifest) (d : Derived) : Prop where
  admissible : d.risks = [] ↔ Exact rt p m
  clean : d.risks = [] → ∀ r ∈ m.records, r.recordId ∈ d.included → ¬ NeedsQuarantine rt p m r

/-! ## One record -/

theorem shared_eq (hcover : sameSet (m.records.map (·.recordId)) p.expectedRecordSha256ById.keys) : sharedRecords p m = m.records :=
  List.filter_eq_self.mpr fun r hr => decide_eq_true (hcover.1 r.recordId (List.mem_map_of_mem hr))

/-- A record is a risk exactly when it needs quarantine, or is quarantined in vain. -/
theorem recordRisks_nil (hpinned : Pinned rt p m r)
    (hreviews : ∀ reviewId ∈ r.reviewIds, ∃ v ∈ m.review? reviewId, ValidReview rt p r v) :
    recordRisksOf rt p m r = [] ↔ ¬ NeedsQuarantine rt p m r ∧ r.quarantined = false := by
  simp only [recordRisksOf, List.append_eq_nil_iff, flag_eq_nil, not_not, not_and]
  constructor
  · intro h
    obtain ⟨⟨⟨⟨⟨⟨-, hanomaly⟩, hsignal⟩, -⟩, hmissing⟩, hconflict⟩, hvain⟩ := h
    have hneeds : ¬ NeedsQuarantine rt p m r := by
      intro hneeds
      rcases hneeds with h | h | h | h
      · exact hanomaly h
      · exact hsignal h
      · exact hmissing h
      · exact hconflict h
    exact ⟨hneeds, Bool.eq_false_iff.mpr fun hq => hneeds (hvain hq)⟩
  · intro h
    obtain ⟨hneeds, hq⟩ := h
    obtain ⟨hanomaly, hrest⟩ := not_or.mp hneeds
    obtain ⟨hsignal, hrest⟩ := not_or.mp hrest
    obtain ⟨hmissing, hconflict⟩ := not_or.mp hrest
    refine ⟨⟨⟨⟨⟨⟨⟨⟨⟨⟨hpinned.payload, hpinned.source⟩, ?_⟩, hpinned.label⟩, Int.not_lt.mpr hpinned.confidence⟩, hanomaly⟩, hsignal⟩, ?_⟩,
      hmissing⟩, hconflict⟩, fun hin => ?_⟩
    · exact not_or.mpr ⟨not_not_intro hpinned.contributor.1, not_not_intro hpinned.contributor.2⟩
    · exact fun hinvalid => hinvalid.elim fun reviewId hbad => hbad.2 (hreviews reviewId hbad.1)
    · rw [hq] at hin
      cases hin

/-! ## The dataset -/

section

variable (hids : (m.records.map (·.recordId)).Nodup)
include hids

theorem mem_declared (hr : r ∈ m.records) : r.recordId ∈ m.declaredQuarantine ↔ r.quarantined = true := by
  simp only [TrainingPoisoningManifest.declaredQuarantine, List.mem_map, List.mem_filter]
  constructor
  · intro h
    obtain ⟨s, ⟨hs, hq⟩, he⟩ := h
    exact List.inj_on_of_nodup_map hids hs hr he ▸ hq
  · intro hq
    exact ⟨r, ⟨hr, hq⟩, rfl⟩

theorem mem_expected {id : String} :
    id ∈ m.expectedIncluded ↔ ∃ r ∈ m.records, r.recordId = id ∧ r.quarantined = false := by
  simp only [TrainingPoisoningManifest.expectedIncluded, mem_sortOn, List.mem_filter, decide_eq_true_eq]
  constructor
  · intro h
    obtain ⟨⟨r, hr, rfl⟩, hnot⟩ := And.imp_left List.mem_map.mp h
    rw [mem_declared hids hr, Bool.not_eq_true] at hnot
    exact ⟨r, hr, rfl, hnot⟩
  · intro h
    obtain ⟨r, hr, rfl, hq⟩ := h
    rw [mem_declared hids hr, hq]
    exact ⟨List.mem_map_of_mem hr, Bool.false_ne_true⟩

/-- What is included is compared as a set. -/
theorem included_eq_iff (hincluded : m.includedRecordIds.Nodup) : sortOn id m.includedRecordIds = m.expectedIncluded ↔
      ∀ id, id ∈ m.includedRecordIds ↔ ∃ r ∈ m.records, r.recordId = id ∧ r.quarantined = false := by
  constructor
  · intro h id
    rw [← mem_expected hids, ← h, mem_sortOn]
  · intro h
    refine sortOn_perm ((List.perm_ext_iff_of_nodup hincluded (hids.filter _)).mpr fun id => ?_) fun _ _ _ _ he => he
    rw [h id, ← mem_expected hids, TrainingPoisoningManifest.expectedIncluded, mem_sortOn]

theorem risks_nil_iff (hincluded : m.includedRecordIds.Nodup) (ho : Otherwise rt p m a) :
    risksOf rt p m a = [] ↔ Exact rt p m ∧ ∀ r ∈ m.records, ¬ NeedsQuarantine rt p m r := by
  have hshared : sharedRecords p m = m.records := shared_eq ho.coverage
  have hconcentration : ¬ ∃ c ∈ m.contributors, contributorCount p m c.contributorId * 10000 / (max 1 m.records.length : Int) > p.maxContributorShareBps :=
    fun h => h.elim fun c hc => absurd (ho.concentration c hc.1) (Int.not_le.mpr hc.2)
  have hclusters : ¬ ∃ r ∈ m.records, r.duplicateClusterId ≠ "" ∧ clusterCount p m r.duplicateClusterId > p.maxDuplicateClusterSize :=
    fun h => h.elim fun r hr => absurd (ho.clusters r hr.1 hr.2.1) (Int.not_le.mpr hr.2.2)
  simp only [risksOf, datasetRisks, List.append_eq_nil_iff, List.flatMap_eq_nil_iff, flag_eq_nil, not_not, hshared, ho.upstream, ho.coverage,
    ho.contributors, hconcentration, hclusters, true_and, not_false_eq_true, included_eq_iff hids hincluded]
  constructor
  · intro h
    obtain ⟨hrecords, -, hsame⟩ := h
    have hclean := fun r hr => (recordRisks_nil (ho.pinned r hr) (ho.reviews r hr)).mp (hrecords r hr)
    refine ⟨⟨fun r hr => ?_, fun id => (hsame id).trans (exists_congr fun r => and_congr_right fun hr => ?_)⟩, fun r hr => (hclean r hr).1⟩
    · simp only [(hclean r hr).1, (hclean r hr).2, Bool.false_eq_true]
    · simp only [(hclean r hr).1, (hclean r hr).2, not_false_eq_true]
  · intro h
    obtain ⟨hexact, hnone⟩ := h
    have hopen : ∀ r ∈ m.records, r.quarantined = false := fun r hr => Bool.eq_false_iff.mpr fun hq =>
      hnone r hr ((hexact.quarantined r hr).mp hq)
    refine ⟨fun r hr => (recordRisks_nil (ho.pinned r hr) (ho.reviews r hr)).mpr ⟨hnone r hr, hopen r hr⟩, ?_, fun id => ?_⟩
    · intro hneeds
      obtain ⟨r, hr, hneed, -⟩ := hneeds
      exact hnone r hr hneed
    · refine (hexact.included id).trans (exists_congr fun r => and_congr_right fun hr => ?_)
      simp only [hnone r hr, hopen r hr, not_false_eq_true]

end

/-- Quarantine is effective exactly when an exact one has nothing to quarantine. -/
theorem quarantine_effective_iff {d : Derived} (h : derive rt p m a = .ok d) (ho : Otherwise rt p m a) :
    Effective rt p m d ↔ (Exact rt p m → ∀ r ∈ m.records, ¬ NeedsQuarantine rt p m r) := by
  simp only [derive, ok_bind, pure, Except.pure, Except.ok.injEq] at h
  obtain ⟨_, hvalid, rfl⟩ := h
  simp only [validateManifest, ok_seq, raiseIf_ok, not_not] at hvalid
  obtain ⟨-, -, -, hids, -, hincluded, -⟩ := hvalid
  have hrisks := risks_nil_iff hids hincluded ho
  constructor
  · intro he hexact
    exact (hrisks.mp (sorted_eq_nil.mp (he.admissible.mpr hexact))).2
  · intro hnone
    refine ⟨?_, fun hclear r hr _ => (hrisks.mp (sorted_eq_nil.mp hclear)).2 r hr⟩
    rw [sorted_eq_nil, hrisks]
    exact ⟨fun h => h.1, fun hexact => ⟨hexact, hnone hexact⟩⟩

namespace Sample

open Training.Sample (poisoning poisoningPolicy dataAssessment runtime)

/-- The second record is anomalous. -/
def anomalous : TrainingRecordSecurityEvidence :=
  ⟨"record-07", Agentic.hex 'b', "src-helpdesk", "curator", "benign", 9800, 9000, [], "", true, []⟩

/-- It is quarantined, and the first record is left. -/
def quarantined : TrainingPoisoningManifest :=
  { poisoning with records := poisoning.records.take 1 ++ [anomalous], includedRecordIds := ["record-01"] }

theorem otherwise : Otherwise runtime poisoningPolicy quarantined dataAssessment where
  upstream := by decide +kernel
  coverage := by decide +kernel
  contributors := by decide +kernel
  pinned r hr := by
    rcases List.mem_pair.mp hr with rfl | rfl
    · exact ⟨rfl, rfl, ⟨rfl, List.mem_cons_self⟩, rfl, by decide⟩
    · exact ⟨rfl, rfl, ⟨rfl, List.mem_cons_self⟩, rfl, by decide⟩
  reviews r hr reviewId hin := by
    rcases List.mem_pair.mp hr with rfl | rfl
    · cases hin
    · cases hin
  concentration := by decide +kernel
  clusters := by decide +kernel

theorem bad_quarantined : Exact runtime poisoningPolicy quarantined where
  quarantined := by decide +kernel
  included id := by
    have hneeds : ∀ r ∈ quarantined.records, ¬ NeedsQuarantine runtime poisoningPolicy quarantined r ↔ r.recordId = "record-01" := by
      decide +kernel
    constructor
    · intro hin
      obtain rfl := List.mem_singleton.mp hin
      exact ⟨_, List.mem_cons_self, rfl, (hneeds _ List.mem_cons_self).mpr rfl⟩
    · intro hleft
      obtain ⟨r, hr, rfl, hnot⟩ := hleft
      exact List.mem_singleton.mpr ((hneeds r hr).mp hnot)

theorem quarantined_risks : (derive runtime poisoningPolicy quarantined dataAssessment).toOption.map (·.risks) =
    some [.anomalyScoreExceeded] := by decide +kernel

/-- The bad record is quarantined and left out, and the dataset is denied for it. -/
theorem quarantined_denied : ∃ d, derive runtime poisoningPolicy quarantined dataAssessment = .ok d ∧
    Otherwise runtime poisoningPolicy quarantined dataAssessment ∧ Exact runtime poisoningPolicy quarantined ∧
    d.risks = [.anomalyScoreExceeded] ∧ ¬ Effective runtime poisoningPolicy quarantined d := by
  obtain ⟨d, hd, hrisks⟩ := ok_of_map quarantined_risks
  refine ⟨d, hd, otherwise, bad_quarantined, hrisks, fun heffective => ?_⟩
  rw [heffective.admissible.mpr bad_quarantined] at hrisks
  cases hrisks

theorem quarantine_effective_anomalous : ∃ d, derive runtime poisoningPolicy quarantined dataAssessment = .ok d ∧
    (Effective runtime poisoningPolicy quarantined d ↔
      (Exact runtime poisoningPolicy quarantined → ∀ r ∈ quarantined.records, ¬ NeedsQuarantine runtime poisoningPolicy quarantined r)) := by
  obtain ⟨d, hd, -⟩ := ok_of_map quarantined_risks
  exact ⟨d, hd, quarantine_effective_iff hd otherwise⟩

end Sample

end Aegis.Training.Poisoning
