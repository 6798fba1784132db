/-
  Aegis.Assurance.Coverage — what a chain of accepted corpora keeps (P6-C).

  `Passed` is all that an accepted step has checked (`passed_of_evaluate`). From one corpus to the
  next a high or critical attack case stays, is modified in place, or is replaced by an added one of
  its boundary (`handed_on`), so by `Along.carry` each has a descendant at the end of every chain
  (`coverage_preserved`).

  A case id means the same as long as every corpus has it. Tombstones live in one manifest only,
  and a version is compared with the one before it only: an id that was removed may come back as any
  case, and a version may come back (`identifiers_reused`). What holds of the ids of a chain is
  `identifiers_kept`.
-/

import Aegis.Assurance.Evolution
import Aegis.Data.Lineage

namespace Aegis.Assurance.Evolution

open Data Data.Checks
open Agentic (Raised)

/-- A step that a gate is asked for: its policy, and all that `evaluate` is given. -/
structure Evaluation where
  policy : CorpusEvolutionPolicy
  request : CorpusEvolutionRequest
  baseline : AssuranceCorpus
  candidate : AssuranceCorpus
  manifest : CorpusChangeManifest

/-- The flags that the policy has by default. -/
structure CorpusEvolutionPolicy.Default (policy : CorpusEvolutionPolicy) : Prop where
  requireReplacementForHighCriticalRemoval : policy.requireReplacementForHighCriticalRemoval = true
  forbidBlockToAllow : policy.forbidBlockToAllow = true
  forbidAttackSeverityDowngrade : policy.forbidAttackSeverityDowngrade = true

variable {rt : Runtime} {s : Evaluation} {a b : AssuranceCorpus} {k k' : AssuranceCase} {i : String}

variable (rt) in
/-- The gate accepts the step. -/
def Evaluation.Accepted (s : Evaluation) : Prop :=
  ∃ e, evaluate rt s.policy s.request s.baseline s.candidate s.manifest = .ok e

variable (rt) in
/-- An accepted step from `a`, to whose digest the policy is pinned. -/
structure Evolves (a : AssuranceCorpus) (s : Evaluation) (b : AssuranceCorpus) : Prop where
  default : s.policy.Default
  pinned : rt.casefold s.policy.expectedBaselineCorpusSha256 = corpusDigest rt a
  accepted : s.Accepted rt
  candidate : s.candidate = b

/-! ## What an accepted step has checked -/

variable (rt) in
structure Passed (s : Evaluation) : Prop where
  baseline : s.baseline.WellFormed
  candidate : s.candidate.WellFormed
  pinned : corpusDigest rt s.baseline = rt.casefold s.policy.expectedBaselineCorpusSha256
  version : s.candidate.version ≠ s.baseline.version
  added : ∀ i ∈ addedIds s.baseline s.candidate, checkAdded rt s.candidate s.manifest i = .ok ()
  modified : ∀ i ∈ modifiedIds rt s.baseline s.candidate,
    checkModified rt s.policy s.baseline s.candidate s.manifest i = .ok ()
  removed : ∀ i ∈ removedIds s.baseline s.candidate,
    checkRemoved rt s.policy s.baseline s.candidate (addedIds s.baseline s.candidate) s.manifest i = .ok ()
  floors : validateCoverageFloors s.candidate s.policy = .ok ()

theorem passed_of_evaluate (h : s.Accepted rt) : Passed rt s := by
  obtain ⟨e, h⟩ := h
  simp only [evaluate, validateEither, ok_seq, raiseIf_ok, validateCorpus_ok, forEach_ok, not_or, not_not] at h
  obtain ⟨-, hb, hc, ⟨-, hpin⟩, -, hv, -, -, -, hadd, hmod, -, hrem, hfloor, -⟩ := h
  exact ⟨hb, hc, hpin, hv, hadd, hmod, hrem, hfloor⟩

theorem mem_addedIds : i ∈ addedIds a b ↔ i ∈ b.ids ∧ i ∉ a.ids := by simp [addedIds]

theorem mem_removedIds : i ∈ removedIds a b ↔ i ∈ a.ids ∧ i ∉ b.ids := by simp [removedIds]

/-- A case of both corpora is the same in both, or the gate has looked at its modification. -/
theorem eq_or_modified (hH : Function.Injective rt.sha256) (ha : a.WellFormed) (hb : b.WellFormed) (hk : k ∈ a.cases)
    (hk' : k' ∈ b.cases) (he : k'.caseId = k.caseId) : k' = k ∨ k.caseId ∈ modifiedIds rt a b := by
  have hfind : a.find k.caseId = some k := ha.find hk
  have hfind' : b.find k.caseId = some k' := he ▸ hb.find hk'
  by_cases hd : caseDefinitionDigest rt k = caseDefinitionDigest rt k'
  · exact .inl (case_of_digest hH hd).symm
  · right
    rw [modifiedIds, mem_sortedTexts, List.mem_filter]
    refine ⟨AssuranceCorpus.mem_ids.mpr ⟨k, hk, rfl⟩, ?_⟩
    rw [decide_eq_true_eq, hfind, hfind']
    exact ⟨AssuranceCorpus.mem_ids.mpr ⟨k', hk', he⟩, fun h => hd (Option.some.inj h)⟩

/-! ## Attack cases are handed on -/

/-- What a case of an id must be, when a blocking case had the id before. -/
structure AssuranceCase.Keeps (k k' : AssuranceCase) : Prop where
  blocks : k'.Blocks
  boundary : k'.boundary = k.boundary
  attackClass : k'.attackClass = k.attackClass
  severity : severityRank k.severity ≤ severityRank k'.severity

/-- What covers for an attack case: a blocking case of its boundary, no less severe. -/
structure AssuranceCase.Covers (k k' : AssuranceCase) : Prop where
  blocks : k'.Blocks
  boundary : k'.boundary = k.boundary
  severity : severityRank k.severity ≤ severityRank k'.severity

theorem AssuranceCase.Keeps.refl (h : k.Blocks) : AssuranceCase.Keeps k k := ⟨h, rfl, rfl, le_rfl⟩

theorem AssuranceCase.Keeps.trans {k₁ k₂ k₃ : AssuranceCase} (h : AssuranceCase.Keeps k₁ k₂) (h' : AssuranceCase.Keeps k₂ k₃) :
    AssuranceCase.Keeps k₁ k₃ :=
  ⟨h'.blocks, h'.boundary.trans h.boundary, h'.attackClass.trans h.attackClass, h.severity.trans h'.severity⟩

theorem AssuranceCase.Keeps.covers (h : AssuranceCase.Keeps k k') : AssuranceCase.Covers k k' := ⟨h.blocks, h.boundary, h.severity⟩

/-- How a case of the candidate comes from one of the baseline: it is that case, a declared modification of it, or a
    declared replacement. -/
inductive Descends (k : AssuranceCase) (s : Evaluation) : AssuranceCase → Prop
  | unchanged : k ∈ s.candidate.cases → Descends k s k
  | modified {k' : AssuranceCase} {change : CorpusChangeRecord} : k' ∈ s.candidate.cases → k'.caseId = k.caseId →
      s.manifest.change k.caseId = some change → change.changeType = .modify → Descends k s k'
  | replaced {k' : AssuranceCase} {change : CorpusChangeRecord} : k' ∈ s.candidate.cases →
      s.manifest.change k.caseId = some change → change.changeType = .deprecate → k'.caseId ∈ change.replacementCaseIds →
      Descends k s k'

/-- What the gate has checked of a modification in place. -/
theorem keeps_of_modified (hp : Passed rt s) (hd : s.policy.Default) (hk : k ∈ s.baseline.cases) (hk' : k' ∈ s.candidate.cases)
    (he : k'.caseId = k.caseId) (hm : k.caseId ∈ modifiedIds rt s.baseline s.candidate) (hblock : k.Blocks) :
    AssuranceCase.Keeps k k' ∧ ∃ change, s.manifest.change k.caseId = some change ∧ change.changeType = .modify := by
  have hcheck := hp.modified _ hm
  simp only [checkModified, ok_bind, orRaise_ok, raiseIf_ok, exists_const, not_or, not_not] at hcheck
  obtain ⟨change, hchange, old, hold, new, hnew, ⟨htype, -⟩, hboundary, hclass, hblocks, hseverity⟩ := hcheck
  rw [hp.baseline.find hk, Option.some.injEq] at hold
  rw [← he, hp.candidate.find hk', Option.some.injEq] at hnew
  subst hold hnew
  refine ⟨⟨?_, hboundary.symm, hclass.symm, ?_⟩, change, hchange, htype⟩
  · by_contra hno
    exact hblocks ⟨hd.forbidBlockToAllow, hblock, hno⟩
  · by_contra hlt
    exact hseverity ⟨hd.forbidAttackSeverityDowngrade, hblock, by omega⟩

/-- What the gate has checked of a removal: the tombstone is that of the removed case. -/
structure Tombstoned (rt : Runtime) (s : Evaluation) (k : AssuranceCase) (change : CorpusChangeRecord) (t : CaseTombstone) :
    Prop where
  recorded : s.manifest.change k.caseId = some change
  kept : s.manifest.tombstone k.caseId = some t
  changeType : change.changeType = .deprecate
  definition : rt.casefold t.caseDefinitionSha256 = caseDefinitionDigest rt k
  boundary : t.boundary = k.boundary
  severity : t.severity = k.severity
  expectation : t.expectation = k.expectation
  removedInVersion : t.removedInVersion = s.candidate.version

theorem tombstoned_of_removed (hp : Passed rt s) (hk : k ∈ s.baseline.cases) (hno : k.caseId ∉ s.candidate.ids) :
    ∃ change t, Tombstoned rt s k change t ∧ (s.policy.Default → k.Blocks → k.Grave →
      change.replacementCaseIds ≠ [] ∧ ∀ i ∈ change.replacementCaseIds,
        checkReplacement s.candidate (addedIds s.baseline s.candidate) k i = .ok ()) := by
  have hcheck := hp.removed _ (mem_removedIds.mpr ⟨AssuranceCorpus.mem_ids.mpr ⟨k, hk, rfl⟩, hno⟩)
  simp only [checkRemoved, ok_bind, orRaise_ok, raiseIf_ok, exists_const, not_or, not_not] at hcheck
  obtain ⟨old, hold, change, hchange, t, ht, ⟨htype, -⟩, ⟨hdef, hboundary, hseverity, hexp, hversion, -⟩, hreplace⟩ := hcheck
  rw [hp.baseline.find hk, Option.some.injEq] at hold
  subst hold
  refine ⟨change, t, ⟨hchange, ht, htype, hdef, hboundary, hseverity, hexp, hversion⟩, fun hd hblock hgrave => ?_⟩
  rw [if_pos ⟨hd.requireReplacementForHighCriticalRemoval, hblock, hgrave⟩] at hreplace
  cases hids : change.replacementCaseIds with
  | nil =>
    rw [hids] at hreplace
    cases hreplace
  | cons i is =>
    rw [hids] at hreplace
    exact ⟨List.cons_ne_nil _ _, forEach_ok.mp hreplace⟩

theorem covers_of_replacement {added : List String} (h : checkReplacement b added k i = .ok ()) :
    ∃ k' ∈ b.cases, k'.caseId = i ∧ AssuranceCase.Covers k k' := by
  simp only [checkReplacement, ok_bind, orRaise_ok, raiseIf_ok, not_or, not_not] at h
  obtain ⟨k', hfind, -, hblocks, hboundary, hseverity⟩ := h
  obtain ⟨hmem, hid⟩ := AssuranceCorpus.mem_of_find hfind
  exact ⟨k', hmem, hid, hblocks, hboundary, by omega⟩

theorem Grave.of_covers (hg : k.Grave) (h : AssuranceCase.Covers k k') : k'.Grave := by
  have hrank := h.severity
  rcases hg with hg | hg <;> rw [hg] at hrank <;> cases hs : k'.severity <;> simp_all [severityRank, AssuranceCase.Grave]

/-- Every high or critical attack case of the baseline has a descendant that covers for it. -/
theorem handed_on (hH : Function.Injective rt.sha256) (h : Evolves rt a s b) (hk : k ∈ a.cases) (hblock : k.Blocks)
    (hgrave : k.Grave) : ∃ k' ∈ b.cases, AssuranceCase.Covers k k' ∧ Descends k s k' := by
  obtain ⟨hd, hpin, hacc, rfl⟩ := h
  have hp := passed_of_evaluate hacc
  have hsame : a.Same s.baseline := same_of_digest hH (hpin.symm.trans hp.pinned.symm)
  have hk := hsame.mem.mp hk
  by_cases hin : k.caseId ∈ s.candidate.ids
  · obtain ⟨k', hk', he⟩ := AssuranceCorpus.mem_ids.mp hin
    rcases eq_or_modified hH hp.baseline hp.candidate hk hk' he with rfl | hm
    · exact ⟨k', hk', (AssuranceCase.Keeps.refl hblock).covers, .unchanged hk'⟩
    · obtain ⟨hkeeps, change, hchange, htype⟩ := keeps_of_modified hp hd hk hk' he hm hblock
      exact ⟨k', hk', hkeeps.covers, .modified hk' he hchange htype⟩
  · obtain ⟨change, t, ht, hreplace⟩ := tombstoned_of_removed hp hk hin
    obtain ⟨hne, hall⟩ := hreplace hd hblock hgrave
    obtain ⟨i, hi⟩ := List.exists_mem_of_ne_nil _ hne
    obtain ⟨k', hk', rfl, hcovers⟩ := covers_of_replacement (hall i hi)
    exact ⟨k', hk', hcovers, .replaced hk' ht.recorded ht.changeType hi⟩

/-- The floors of a policy. -/
structure MeetsFloors (policy : CorpusEvolutionPolicy) (corpus : AssuranceCorpus) : Prop where
  critical : policy.minCriticalBlockCases ≤ criticalCount corpus
  highOrCritical : policy.minHighOrCriticalBlockCases ≤ highOrCriticalCount corpus
  allow : policy.minAllowCases ≤ ((allowCases corpus).length : Int)
  boundary : ∀ floor ∈ policy.coverageFloors, floor.minBlockCases ≤ ((boundaryCases corpus floor.boundary).length : Int) ∧
    floor.minHighOrCriticalBlockCases ≤ ((boundaryHigh corpus floor.boundary).length : Int)

theorem validateCoverageFloors_ok {policy : CorpusEvolutionPolicy} {u : Unit} :
    validateCoverageFloors a policy = .ok u ↔ MeetsFloors policy a := by
  simp only [validateCoverageFloors, ok_seq, raiseIf_ok, forEach_ok, not_or, not_lt]
  constructor
  · rintro ⟨h1, h2, h3, h4⟩
    exact ⟨h1, h2, h3, h4⟩
  · rintro ⟨h1, h2, h3, h4⟩
    exact ⟨h1, h2, h3, h4⟩

/-- Over every chain of accepted steps, each high or critical attack case of the first corpus has in the last one a
    blocking case of its boundary, no less severe, that descends from it by modifications in place and declared
    replacements; and every corpus that was accepted meets the floors of its policy. -/
theorem coverage_preserved (hH : Function.Injective rt.sha256) {steps : List Evaluation}
    (h : Along (Evolves rt) a steps b) :
    (∀ k ∈ a.cases, k.Blocks → k.Grave → ∃ k' ∈ b.cases, AssuranceCase.Covers k k' ∧ Along Descends k steps k') ∧
      ∀ s ∈ steps, MeetsFloors s.policy s.candidate := by
  constructor
  · intro k hk hblock hgrave
    -- the line from `k` stays with cases that cover for `k`, which are grave themselves
    have hstep : ∀ c s d, Evolves rt c s d → ∀ x, x ∈ c.cases ∧ AssuranceCase.Covers k x →
        ∃ y, (y ∈ d.cases ∧ AssuranceCase.Covers k y) ∧ Descends x s y := by
      rintro c s d hstep x ⟨hx, hcovers⟩
      obtain ⟨y, hy, hxy, hline⟩ := handed_on hH hstep hx hcovers.blocks (Grave.of_covers hgrave hcovers)
      exact ⟨y, ⟨hy, hxy.blocks, hxy.boundary.trans hcovers.boundary, hcovers.severity.trans hxy.severity⟩, hline⟩
    obtain ⟨k', ⟨hk', hcovers⟩, hline⟩ := h.carry hstep ⟨hk, hblock, rfl, le_rfl⟩
    exact ⟨k', hk', hcovers, hline⟩
  · intro s hs
    obtain ⟨before, after, c, d, -, -, hstep, -⟩ := h.split hs
    exact validateCoverageFloors_ok.mp (passed_of_evaluate hstep.accepted).floors

/-! ## Two steps: a probe is removed, and its id added again -/

namespace Sample

def probe : AssuranceCase := ⟨"probe", "gateway", "replay", .low, .block, "replays are refused"⟩

def task : AssuranceCase := ⟨"probe", "tools", "safe-task", .low, .allow, "safe tasks pass"⟩

def leak : AssuranceCase := ⟨"leak", "memory", "extraction", .high, .block, "canaries do not leak"⟩

def corpus (version : String) (cases : List AssuranceCase) : AssuranceCorpus :=
  ⟨"corpus", version, cases, P6A_CORPUS_SCHEMA_VERSION⟩

def first : AssuranceCorpus := corpus "1" [probe, leak]

def second : AssuranceCorpus := corpus "2" [leak]

def third : AssuranceCorpus := corpus "1" [task, leak]

/-- The digest of the `n`th of `documents`. -/
def digestOf (n : Nat) : String := Agentic.hex (Nat.digitChar n)

def removal : CorpusChangeManifest :=
  ⟨digestOf 0, digestOf 1, [⟨"change", .deprecate, "probe", "owner", "obsolete", digestOf 3, "", []⟩],
    [⟨"probe", digestOf 3, "gateway", .low, .block, "2", [], P6C_TOMBSTONE_SCHEMA_VERSION⟩],
    P6C_CHANGE_MANIFEST_SCHEMA_VERSION⟩

def addition : CorpusChangeManifest :=
  ⟨digestOf 1, digestOf 2, [⟨"change", .add, "probe", "owner", "coverage", "", digestOf 4, []⟩], [],
    P6C_CHANGE_MANIFEST_SCHEMA_VERSION⟩

def documents : List Json :=
  [canonicalCorpus first, canonicalCorpus second, canonicalCorpus third, canonicalCase probe, canonicalCase task,
    canonicalChangeManifest (.tabled []) removal, canonicalChangeManifest (.tabled []) addition]

def runtime : Runtime := .tabled documents

def policy (n : Nat) : CorpusEvolutionPolicy := ⟨"corpus", digestOf n, ["owner"], [⟨"memory", 1, 1⟩], 0, 1, 0, true, true, true⟩

def remove : Evaluation := ⟨policy 0, ⟨"corpus", "2", digestOf 1, digestOf 5⟩, first, second, removal⟩

def add : Evaluation := ⟨policy 1, ⟨"corpus", "1", digestOf 2, digestOf 6⟩, second, third, addition⟩

theorem along : Along (Evolves runtime) first [remove, add] third := by
  refine ⟨second, ⟨⟨rfl, rfl, rfl⟩, ?_, ?_, rfl⟩, third, ⟨⟨rfl, rfl, rfl⟩, ?_, ?_, rfl⟩, rfl⟩
  · decide +kernel
  · exact ok_of_isSome (by decide +kernel)
  · decide +kernel
  · exact ok_of_isSome (by decide +kernel)

theorem injective : Function.Injective runtime.sha256 := tabledDigest_injective documents

end Sample

open Sample in
theorem coverage_preserved_removal : (∃ k' ∈ third.cases, AssuranceCase.Covers leak k' ∧ Along Descends leak [remove, add] k') ∧
    MeetsFloors (policy 0) second := by
  obtain ⟨hcases, hfloors⟩ := coverage_preserved injective along
  exact ⟨hcases leak (by simp [first, corpus]) rfl (.inl rfl), hfloors remove (by simp)⟩

/-! ## Identifiers -/

/-- A step that removed the case, under a tombstone of its own. -/
def Removes (rt : Runtime) (s : Evaluation) (k : AssuranceCase) : Prop :=
  k ∈ s.baseline.cases ∧ k.caseId ∉ s.candidate.ids ∧ ∃ change t, Tombstoned rt s k change t

/-- A step that added a case of the id, under an ADD record of its definition. -/
def Adds (rt : Runtime) (s : Evaluation) (i : String) : Prop :=
  i ∉ s.baseline.ids ∧ ∃ change k, s.manifest.change i = some change ∧ s.candidate.find i = some k ∧ change.changeType = .add ∧
    rt.casefold change.newCaseDefinitionSha256 = caseDefinitionDigest rt k

/-- A blocking case whose id the next corpus has too keeps what it is, up to severity. -/
theorem kept_or_absent (hH : Function.Injective rt.sha256) (h : Evolves rt a s b) (hk : k ∈ a.cases) (hblock : k.Blocks) :
    (∃ k' ∈ b.cases, k'.caseId = k.caseId ∧ AssuranceCase.Keeps k k') ∨ Removes rt s k := by
  obtain ⟨hd, hpin, hacc, rfl⟩ := h
  have hp := passed_of_evaluate hacc
  have hsame : a.Same s.baseline := same_of_digest hH (hpin.symm.trans hp.pinned.symm)
  have hk := hsame.mem.mp hk
  by_cases hin : k.caseId ∈ s.candidate.ids
  · obtain ⟨k', hk', he⟩ := AssuranceCorpus.mem_ids.mp hin
    rcases eq_or_modified hH hp.baseline hp.candidate hk hk' he with rfl | hm
    · exact .inl ⟨k', hk', rfl, .refl hblock⟩
    · exact .inl ⟨k', hk', he, (keeps_of_modified hp hd hk hk' he hm hblock).1⟩
  · obtain ⟨change, t, ht, -⟩ := tombstoned_of_removed hp hk hin
    exact .inr ⟨hk, hin, change, t, ht⟩

theorem adds_of_absent (hH : Function.Injective rt.sha256) (h : Evolves rt a s b) (ha : i ∉ a.ids) (hb : i ∈ b.ids) :
    Adds rt s i := by
  obtain ⟨-, hpin, hacc, rfl⟩ := h
  have hp := passed_of_evaluate hacc
  have hsame : a.Same s.baseline := same_of_digest hH (hpin.symm.trans hp.pinned.symm)
  have hno : i ∉ s.baseline.ids := fun hi => ha (((hsame.cases.map _).mem_iff).mpr hi)
  have hcheck := hp.added i (mem_addedIds.mpr ⟨hb, hno⟩)
  simp only [checkAdded, ok_bind, orRaise_ok, raiseIf_ok, not_or, not_not] at hcheck
  obtain ⟨change, hchange, k, hfind, htype, -, -, hnew, -⟩ := hcheck
  exact ⟨hno, change, k, hchange, hfind, htype, hnew⟩

theorem wellFormed_of_along {steps : List Evaluation} (h : Along (Evolves rt) a steps b) (hne : steps ≠ []) : b.WellFormed := by
  obtain ⟨steps, s, rfl⟩ := List.eq_nil_or_concat steps |>.resolve_left hne
  obtain ⟨c, -, d, hstep, hend⟩ := Along.append.mp (List.concat_eq_append ▸ h)
  rw [← Along.nil.mp hend, ← hstep.candidate]
  exact (passed_of_evaluate hstep.accepted).candidate

/-- A case of a later corpus that has the id of a blocking case keeps its boundary and attack class, blocks, and is no less
    severe; or the id was removed in between, under a tombstone of the case it then was, and added again. The version
    of a corpus is not that of the one before. -/
theorem identifiers_kept (hH : Function.Injective rt.sha256) {steps : List Evaluation} (h : Along (Evolves rt) a steps b) :
    (∀ k ∈ a.cases, k.Blocks → steps ≠ [] → ∀ k' ∈ b.cases, k'.caseId = k.caseId → AssuranceCase.Keeps k k' ∨
      ∃ before s mid t after old, steps = before ++ s :: (mid ++ t :: after) ∧ old.caseId = k.caseId ∧
        AssuranceCase.Keeps k old ∧ Removes rt s old ∧ Adds rt t k.caseId) ∧
      (a.version :: steps.map fun s => s.candidate.version).IsChain (· ≠ ·) := by
  constructor
  · intro k hk hblock hne k' hk' he
    have hb := wellFormed_of_along h hne
    -- as long as the corpora have the id, there is a case that keeps what `k` was
    rcases h.keeps_until (I := fun c => ∃ x ∈ c.cases, x.caseId = k.caseId ∧ AssuranceCase.Keeps k x)
      ⟨k, hk, rfl, .refl hblock⟩ with ⟨x, hx, hid, hkeeps⟩ | ⟨before, s, after, c, d, rfl, hstep, ⟨old, hold, hid, hkeeps⟩, hno, hafter⟩
    · exact .inl (hb.unique hx hk' (hid.trans he.symm) ▸ hkeeps)
    · have hremoves : Removes rt s old := by
        rcases kept_or_absent hH hstep hold hkeeps.blocks with ⟨y, hy, hyid, hyk⟩ | hr
        · exact absurd ⟨y, hy, hyid.trans hid, hkeeps.trans hyk⟩ hno
        · exact hr
      have habsent : k.caseId ∉ d.ids := hid ▸ hstep.candidate ▸ hremoves.2.1
      rcases hafter.keeps_until (I := fun c => k.caseId ∉ c.ids) habsent with hend |
        ⟨mid, t, rest, e, f, rfl, hstep', he', hf, -⟩
      · exact absurd (AssuranceCorpus.mem_ids.mpr ⟨k', hk', he⟩) hend
      · exact .inr ⟨before, s, mid, t, rest, old, rfl, hid, hkeeps, hremoves, adds_of_absent hH hstep' he' (not_not.mp hf)⟩
  · have hversions : (a :: steps.map Evaluation.candidate).IsChain fun x y => x.version ≠ y.version := by
      refine h.chain fun x s y hstep => ⟨hstep.candidate, ?_⟩
      have hp := passed_of_evaluate hstep.accepted
      have hsame : x.Same s.baseline := same_of_digest hH (hstep.pinned.symm.trans hp.pinned.symm)
      rw [hsame.version, ← hstep.candidate]
      exact hp.version.symm
    have hmap := (List.isChain_map AssuranceCorpus.version).mpr hversions
    rwa [List.map_cons, List.map_map] at hmap

open Sample in
theorem identifiers_kept_removal : (AssuranceCase.Keeps leak leak ∨ ∃ before s mid t after old,
      [remove, add] = before ++ s :: (mid ++ t :: after) ∧ old.caseId = leak.caseId ∧ AssuranceCase.Keeps leak old ∧
        Removes runtime s old ∧ Adds runtime t leak.caseId) ∧
    ["1", "2", "1"].IsChain (· ≠ ·) := by
  obtain ⟨hcases, hversions⟩ := identifiers_kept injective along
  exact ⟨hcases leak (by simp [first, corpus]) rfl nofun leak (by simp [third, corpus]) rfl, hversions⟩

open Sample in
/-- A blocking case is removed and its id comes back for a safe task of another boundary, in a corpus of the first
    one's version. -/
theorem identifiers_reused : Function.Injective runtime.sha256 ∧ Along (Evolves runtime) first [remove, add] third ∧
    probe ∈ first.cases ∧ probe.Blocks ∧ task ∈ third.cases ∧ task.caseId = probe.caseId ∧ ¬ task.Blocks ∧
    task.boundary ≠ probe.boundary ∧ third.version = first.version :=
  ⟨injective, along, by decide, rfl, by decide, rfl, by decide, by decide, rfl⟩

end Aegis.Assurance.Evolution
