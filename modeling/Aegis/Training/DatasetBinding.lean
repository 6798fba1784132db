/-
  Aegis.Training.DatasetBinding — what the final digest of a dataset says of it.

  The digest of a transform's output covers what it took in, so that a chain is read off its last digest, step by step
  to its base; the base is a digest too, of a text that no step hashes.
  - `chain_binds`: two unbroken chains that end alike have like steps, and the same base.
  - `final_digest_binds`: two datasets without risk that end alike have the same sources, records and splits.
-/

import Aegis.Assurance.Regression
import Aegis.Training.Provenance

namespace Aegis.Training.Provenance

open Data Checks
open Agentic (Runtime)
open Agentic.Decision (flag_eq_nil sorted_eq_nil)

variable {rt : Runtime} {p p' : TrainingDatasetPolicy} {m m' : TrainingDatasetManifest}

/-- Alike but for the letters of the configuration's digest. -/
structure SameStep (rt : Runtime) (t t' : DatasetTransformEvidence) : Prop where
  transformId : t.transformId = t'.transformId
  kind : t.kind = t'.kind
  owner : t.owner = t'.owner
  config : rt.casefold t.configSha256 = rt.casefold t'.configSha256

/-! ## What is hashed -/

theorem texts_injective : Function.Injective texts := fun _ _ h =>
  List.map_injective_iff.mpr (fun _ _ he => Json.str.inj he) (Json.arr_inj.mp h)

theorem DatasetSourceSnapshot.toJson_injective : Function.Injective DatasetSourceSnapshot.toJson := by
  intro s s' h
  cases s
  cases s'
  simpa [DatasetSourceSnapshot.toJson, Json.obj, and_comm, and_left_comm, and_assoc] using h

theorem DatasetRecordEvidence.toJson_injective : Function.Injective DatasetRecordEvidence.toJson := by
  intro r r' h
  cases r
  cases r'
  simpa [DatasetRecordEvidence.toJson, Json.obj, texts_injective.eq_iff, and_comm, and_left_comm, and_assoc] using h

theorem TransformKind.value_injective : Function.Injective TransformKind.value := by
  intro k k' h
  cases k <;> cases k' <;> first | rfl | exact absurd h (by decide)

/-- A mapping by splits is read back from what it is shown as. -/
theorem get?_splitsJson {α : Type} (toJson : α → Json) (splits : Mapping DatasetSplit α) (split : DatasetSplit) :
    (splitsJson toJson splits).get? split.value = (splits.get? split).map toJson := by
  unfold splitsJson DatasetSplit.sorted
  cases htest : splits.get? .test <;> cases htrain : splits.get? .train <;> cases hvalidation : splits.get? .validation <;> cases split <;>
  simp [htest, htrain, hvalidation, Json.get?, DatasetSplit.value]

/-- What the base of a chain covers. -/
theorem rawJson_inj (h : m.rawJson = m'.rawJson) : m.sourceSnapshots = m'.sourceSnapshots ∧ m.records = m'.records ∧
    ∀ split, m.splitRecordIdsBySplit.get? split = m'.splitRecordIdsBySplit.get? split := by
  simp only [TrainingDatasetManifest.rawJson, Json.obj_cons, Json.obj_nil, Json.field.injEq, Json.arr_inj, true_and, and_true] at h
  obtain ⟨hrecords, hsources, hsplits⟩ := h
  refine ⟨List.map_injective_iff.mpr DatasetSourceSnapshot.toJson_injective hsources,
    List.map_injective_iff.mpr DatasetRecordEvidence.toJson_injective hrecords, fun split => ?_⟩
  refine Option.map_injective texts_injective ?_
  rw [← get?_splitsJson, ← get?_splitsJson, hsplits]

section

variable (hinj : Function.Injective rt.sha256)
include hinj

/-- What a step's output covers. -/
theorem output_inj {input input' : String} {t t' : DatasetTransformEvidence}
    (h : deterministicTransformOutputDigest rt input t.transformId t.kind t.owner t.configSha256 =
      deterministicTransformOutputDigest rt input' t'.transformId t'.kind t'.owner t'.configSha256) :
    SameStep rt t t' ∧ rt.casefold input = rt.casefold input' := by
  have hjson := hinj h
  simp only [Json.obj_cons, Json.obj_nil, Json.field.injEq, Json.str.injEq, true_and, and_true] at hjson
  obtain ⟨hconfig, hinput, hkind, howner, hid⟩ := hjson
  exact ⟨⟨hid, TransformKind.value_injective hkind, howner, hconfig⟩, hinput⟩

/-- No step's output is the base of a chain. -/
theorem raw_ne_output {input : String} {t : DatasetTransformEvidence} :
    rawDatasetDigest rt m ≠ deterministicTransformOutputDigest rt input t.transformId t.kind t.owner t.configSha256 := by
  intro h
  have hjson := hinj h
  simp [TrainingDatasetManifest.rawJson, Json.obj] at hjson

end

/-! ## Chains -/

theorem chainHead_snoc (input : String) (ts : List DatasetTransformEvidence) (t : DatasetTransformEvidence) :
    chainHead input (ts ++ [t]) = t.outputDatasetSha256 := by
  induction ts generalizing input with
  | nil => rfl
  | cons s ts ih => exact ih s.outputDatasetSha256

/-- The last step of an unbroken chain takes in what the steps before it end with. -/
theorem chain_snoc {input previous : String} {ts : List DatasetTransformEvidence} {t : DatasetTransformEvidence}
    (h : chainRisks rt p input previous (ts ++ [t]) = []) :
    chainRisks rt p input previous ts = [] ∧ rt.casefold t.outputDatasetSha256 =
      rt.casefold (deterministicTransformOutputDigest rt (chainHead input ts) t.transformId t.kind t.owner t.configSha256) := by
  induction ts generalizing input previous with
  | nil =>
    simp only [List.nil_append, chainRisks, transformRisksOf, List.append_eq_nil_iff, flag_eq_nil, not_not] at h
    exact ⟨rfl, h.1.1.2⟩
  | cons s ts ih =>
    simp only [List.cons_append, chainRisks, List.append_eq_nil_iff] at h ⊢
    obtain ⟨hrest, houtput⟩ := ih h.2
    exact ⟨⟨h.1, hrest⟩, houtput⟩

theorem chain_binds (hinj : Function.Injective rt.sha256) (hsmall : ∀ j, rt.casefold (rt.sha256 j) = rt.sha256 j) {previous previous' : String}
    {ts ts' : List DatasetTransformEvidence} (h : chainRisks rt p (rawDatasetDigest rt m) previous ts = [])
    (h' : chainRisks rt p' (rawDatasetDigest rt m') previous' ts' = [])
    (he : rt.casefold (chainHead (rawDatasetDigest rt m) ts) = rt.casefold (chainHead (rawDatasetDigest rt m') ts')) :
    m.rawJson = m'.rawJson ∧ List.Forall₂ (SameStep rt) ts ts' := by
  have hraw : ∀ n : TrainingDatasetManifest, rt.casefold (rawDatasetDigest rt n) = rawDatasetDigest rt n := fun n => hsmall _
  have hout : ∀ input (t : DatasetTransformEvidence), rt.casefold (deterministicTransformOutputDigest rt input t.transformId t.kind t.owner
      t.configSha256) = deterministicTransformOutputDigest rt input t.transformId t.kind t.owner t.configSha256 := fun _ _ => hsmall _
  induction ts using List.reverseRecOn generalizing ts' with
  | nil =>
    rcases List.eq_nil_or_concat ts' with rfl | ⟨ts', t', rfl⟩
    · rw [chainHead, chainHead, hraw, hraw] at he
      exact ⟨hinj he, .nil⟩
    · rw [List.concat_eq_append] at h' he
      rw [chainHead, chainHead_snoc, (chain_snoc h').2, hraw, hout] at he
      exact absurd he (raw_ne_output hinj)
  | append_singleton ts t ih =>
    rcases List.eq_nil_or_concat ts' with rfl | ⟨ts', t', rfl⟩
    · rw [chainHead, chainHead_snoc, (chain_snoc h).2, hraw, hout] at he
      exact absurd he.symm (raw_ne_output hinj)
    · rw [List.concat_eq_append] at h' he ⊢
      rw [chainHead_snoc, chainHead_snoc, (chain_snoc h).2, (chain_snoc h').2, hout, hout] at he
      obtain ⟨hstep, hinput⟩ := output_inj hinj he
      obtain ⟨hbase, hsteps⟩ := ih (chain_snoc h).1 (chain_snoc h').1 hinput
      exact ⟨hbase, List.rel_append hsteps (.cons hstep .nil)⟩

/-- The final digest binds the whole dataset, but for the letters of the digests its steps carry. -/
theorem final_digest_binds (hinj : Function.Injective rt.sha256) (hsmall : ∀ j, rt.casefold (rt.sha256 j) = rt.sha256 j)
    (h : derive rt p m = .ok []) (h' : derive rt p' m' = .ok []) (he : rt.casefold m.finalDatasetSha256 = rt.casefold m'.finalDatasetSha256) :
    m.sourceSnapshots = m'.sourceSnapshots ∧ m.records = m'.records ∧
      (∀ split, m.splitRecordIdsBySplit.get? split = m'.splitRecordIdsBySplit.get? split) ∧
      List.Forall₂ (SameStep rt) m.transforms m'.transforms := by
  have hchain : ∀ {q : TrainingDatasetPolicy} {n : TrainingDatasetManifest}, derive rt q n = .ok [] →
      chainRisks rt q (rawDatasetDigest rt n) zeroSha256 n.transforms = [] ∧
        rt.casefold n.finalDatasetSha256 = rt.casefold (chainHead (rawDatasetDigest rt n) n.transforms) := by
    intro q n hn
    simp only [derive, ok_bind, pure, Except.pure, Except.ok.injEq, sorted_eq_nil] at hn
    obtain ⟨-, -, hn⟩ := hn
    simp only [risksOf, transformRisks, List.append_eq_nil_iff, flag_eq_nil, not_not] at hn
    exact ⟨hn.2.1.1.2, hn.2.1.2⟩
  rw [(hchain h).2, (hchain h').2] at he
  obtain ⟨hbase, hsteps⟩ := chain_binds hinj hsmall (hchain h).1 (hchain h').1 he
  obtain ⟨hsources, hrecords, hsplits⟩ := rawJson_inj hbase
  exact ⟨hsources, hrecords, hsplits, hsteps⟩

namespace Sample

/-- One record, whose duplicates are dropped in one step. -/
def data (manifestId : String) (createdAtEpoch : Int) : TrainingDatasetManifest where
  schemaVersion := p9aDatasetSchemaVersion
  manifestId
  datasetId := "helpdesk"
  datasetVersion := "1"
  createdAtEpoch
  sourceSnapshots := [⟨"tickets", "curated", "dataset://tickets", "1", Agentic.hex 'c', 900⟩]
  records := [⟨"record", "tickets", "key", Agentic.hex 'a', []⟩]
  splitRecordIdsBySplit := [(.train, ["record"])]
  transforms := [⟨"dedupe", .deduplicateExact, "curated", Agentic.hex 'd', Agentic.hex '0', Agentic.hex '1', zeroSha256, 0⟩]
  finalDatasetSha256 := Agentic.hex '1'

def policy (manifestId : String) : TrainingDatasetPolicy where
  policyVersion := p9aDatasetPolicyVersion
  expectedManifestId := manifestId
  expectedDatasetId := "helpdesk"
  expectedDatasetVersion := "1"
  expectedManifestSha256 := Agentic.hex '9'
  trustedSourceOwners := ["curated"]
  allowedSourceUriPrefixByOwner := [("curated", "dataset://")]
  expectedSourceRevisionById := [("tickets", "1")]
  expectedSourceSnapshotSha256ById := [("tickets", Agentic.hex 'c')]
  expectedRecordSha256ById := [("record", Agentic.hex 'a')]
  expectedRecordSourceById := [("record", "tickets")]
  expectedRecordKeyById := [("record", "key")]
  expectedParentRecordIdsById := [("record", [])]
  expectedSplitByRecordId := [("record", .train)]
  expectedTransformOrder := ["dedupe"]
  expectedTransformKindById := [("dedupe", .deduplicateExact)]
  expectedTransformOwnerById := [("dedupe", "curated")]
  expectedTransformConfigSha256ById := [("dedupe", Agentic.hex 'd')]
  expectedFinalDatasetSha256 := Agentic.hex '1'
  maxManifestAgeSeconds := 300
  maxFutureSkewSeconds := 5
  maxSourceAgeSeconds := 300

/-- The text of the dataset, and what its step hashes. -/
def documents : List Json := [(data "first" 1000).rawJson,
  .obj [("config_sha256", .str (Agentic.hex 'd')), ("input_dataset_sha256", .str (Agentic.hex '0')), ("kind", .str "deduplicate_exact"),
    ("owner", .str "curated"), ("transform_id", .str "dedupe")]]

def runtime : Runtime where
  sha256 := Assurance.tabledDigest documents
  hmac _ := Assurance.tabledDigest documents
  sha256_not_blank := Assurance.tabledDigest_not_blank documents
  casefold s := s
  str j := String.ofList j.code
  str_injective := Agentic.code_text_injective

/-- Two manifests of one dataset. -/
theorem final_digest_binds_twice :
    (data "first" 1000).sourceSnapshots = (data "second" 1100).sourceSnapshots ∧
    (data "first" 1000).records = (data "second" 1100).records ∧
    (∀ split, (data "first" 1000).splitRecordIdsBySplit.get? split =
      (data "second" 1100).splitRecordIdsBySplit.get? split) ∧
    List.Forall₂ (SameStep runtime) (data "first" 1000).transforms (data "second" 1100).transforms := by
  have hfirst : derive runtime (policy "first") (data "first" 1000) = .ok [] := by decide +kernel
  have hsecond : derive runtime (policy "second") (data "second" 1100) = .ok [] := by decide +kernel
  exact final_digest_binds (Assurance.tabledDigest_injective _) (fun _ => rfl) hfirst hsecond rfl

end Sample

end Aegis.Training.Provenance
