/-
  Aegis.Assurance.FeedbackChain — obligations over a chain of accepted evaluations (P6-F).

  A ledger is compared with the one before it only, by its digest. `Appends` is what holds between
  the two (`appends_of_accepted`); it composes (`Contains.trans`), so each ledger of a chain contains
  all before it. Coverage is checked in the newest corpus for every obligation of the newest ledger,
  hence for every obligation there ever was (`obligations_covered`).
-/

import Aegis.Assurance.Feedback
import Aegis.Data.Lineage

namespace Aegis.Assurance.Feedback

open Data Data.Checks

variable {rt : Runtime} {e : Evaluation} {x y z : IncidentCoverageLedger} {o o' : IncidentCoverageObligation}
  {corpus : AssuranceCorpus} {label : String}

variable (rt) in
def Evaluation.Accepted (e : Evaluation) : Prop := ∃ v, evaluate rt e = .ok v

variable (rt) in
/-- An accepted evaluation from the ledger `x`, by its digest, to `y`. -/
structure Extends (x : IncidentCoverageLedger) (e : Evaluation) (y : IncidentCoverageLedger) : Prop where
  pinned : rt.casefold e.policy.expectedPreviousLedgerSha256 = ledgerDigest rt x
  accepted : e.Accepted rt
  candidate : e.candidateLedger = y

/-! ## Ledgers -/

variable (rt) in
/-- Every obligation of `x` is one of `y`. -/
def Contains (x y : IncidentCoverageLedger) : Prop :=
  ∀ o ∈ x.obligations, ∃ o' ∈ y.obligations, obligationIdentity rt o' = obligationIdentity rt o

theorem Contains.trans (hxy : Contains rt x y) (hyz : Contains rt y z) : Contains rt x z := by
  intro o ho
  obtain ⟨o', ho', he⟩ := hxy o ho
  obtain ⟨o'', ho'', he'⟩ := hyz o' ho'
  exact ⟨o'', ho'', he'.trans he⟩

variable (rt) in
/-- No obligation, incident or trace digest twice. -/
structure Distinct (x : IncidentCoverageLedger) : Prop where
  ids : x.ids.Nodup
  incidents : (x.obligations.map IncidentCoverageObligation.incidentId).Nodup
  traces : (x.obligations.map fun o => rt.casefold o.traceSha256).Nodup

/-- The checks of an obligation that do not look at others. -/
structure Complete (rt : Runtime) (o : IncidentCoverageObligation) : Prop where
  obligationId : o.obligationId ≠ ""
  incidentId : o.incidentId ≠ ""
  batch : isSha256 rt o.incidentBatchSha256
  signals : o.requiredSignalTypes ≠ []
  nodup : o.requiredSignalTypes.Nodup
  version : o.createdInCorpusVersion ≠ ""
  trace : isSha256 rt o.traceSha256

theorem validateObligation_ok (seen : List IncidentCoverageObligation) (o : IncidentCoverageObligation) :
    validateObligation rt label seen o = .ok () ↔ Complete rt o ∧ ∀ y ∈ seen, y.obligationId ≠ o.obligationId ∧
      rt.casefold y.traceSha256 ≠ rt.casefold o.traceSha256 ∧ y.incidentId ≠ o.incidentId := by
  simp only [validateObligation, ok_seq, raiseIf_ok, not_or, not_not, List.mem_map, not_exists, not_and]
  constructor
  · rintro ⟨⟨h1, h2, h3, h4, h5, h6, h7⟩, hid, htrace, hincident⟩
    exact ⟨⟨h1, h2, h3, h4, h5, h6, h7⟩, fun y hy => ⟨hid y hy, htrace y hy, hincident y hy⟩⟩
  · rintro ⟨⟨h1, h2, h3, h4, h5, h6, h7⟩, hseen⟩
    exact ⟨⟨h1, h2, h3, h4, h5, h6, h7⟩, fun y hy => (hseen y hy).1, fun y hy => (hseen y hy).2.1, fun y hy => (hseen y hy).2.2⟩

theorem distinct_of_validateLedger {u : Unit} (h : validateLedger rt x label = .ok u) : Distinct rt x := by
  simp only [validateLedger, ok_seq, scan_ok validateObligation_ok] at h
  obtain ⟨-, -, hpairs, -⟩ := h
  exact ⟨nodup_map (hpairs.imp fun h => h.1), nodup_map (hpairs.imp fun h => h.2.2), nodup_map (hpairs.imp fun h => h.2.1)⟩

/-! ## Ledgers of one digest -/

theorem identity_of_document (h : canonicalObligation rt o = canonicalObligation rt o') :
    obligationIdentity rt o = obligationIdentity rt o' := by
  simp only [canonicalObligation, Json.obj_cons, Json.obj_nil, Json.field.injEq, Json.str.injEq, true_and, and_true] at h
  obtain ⟨hversion, hbatch, hincident, hid, hseverity, hsignals, htrace⟩ := h
  have hsignals := List.map_injective_iff.mpr (fun _ _ h => Json.str.inj h) (Json.arr_inj.mp hsignals)
  rw [obligationIdentity, obligationIdentity, hid, hincident, hbatch, AssuranceSeverity.value_injective hseverity, hsignals,
    hversion, htrace]

variable (rt) in
/-- What the digest of a ledger says of it. -/
structure Same (x y : IncidentCoverageLedger) : Prop where
  version : x.version = y.version
  identities : (x.obligations.map (obligationIdentity rt)).Perm (y.obligations.map (obligationIdentity rt))

theorem same_of_digest (hH : Function.Injective rt.sha256) (h : ledgerDigest rt x = ledgerDigest rt y) : Same rt x y := by
  have hdoc := hH h
  simp only [canonicalLedger, Json.obj_cons, Json.obj_nil, Json.field.injEq, Json.str.injEq, Json.int.injEq, Json.arr_inj,
    true_and, and_true] at hdoc
  obtain ⟨-, hobligations, -, -, hversion⟩ := hdoc
  refine ⟨hversion, ?_⟩
  have hsorted : (sortOn IncidentCoverageObligation.obligationId x.obligations).map (obligationIdentity rt) =
      (sortOn IncidentCoverageObligation.obligationId y.obligations).map (obligationIdentity rt) := by
    rw [← List.forall₂_eq_eq_eq, List.forall₂_map_left_iff, List.forall₂_map_right_iff] at hobligations ⊢
    exact hobligations.imp fun _ _ h => identity_of_document h
  exact ((perm_sortOn _ x.obligations).map _).symm.trans (hsorted ▸ (perm_sortOn _ y.obligations).map _)

namespace Same

theorem length (h : Same rt x y) : x.obligations.length = y.obligations.length := by
  simpa using h.identities.length_eq

theorem contains (h : Same rt x y) : Contains rt x y := by
  intro o ho
  obtain ⟨o', ho', he⟩ := List.mem_map.mp (h.identities.mem_iff.mp (List.mem_map_of_mem ho))
  exact ⟨o', ho', he⟩

theorem distinct (h : Same rt x y) (hy : Distinct rt y) : Distinct rt x := by
  have hpart : ∀ {α : Type} (f : _ → α), (y.obligations.map fun o => f (obligationIdentity rt o)).Nodup →
      (x.obligations.map fun o => f (obligationIdentity rt o)).Nodup := by
    intro α f hn
    have hperm := h.identities.map f
    rw [List.map_map, List.map_map] at hperm
    exact hperm.nodup_iff.mpr hn
  exact ⟨hpart (fun i => i.1) hy.ids, hpart (fun i => i.2.1) hy.incidents, hpart (fun i => i.2.2.2.2.2.2) hy.traces⟩

end Same

/-! ## One evaluation -/

variable (rt) in
/-- `y` is the next ledger after `x`. -/
structure Appends (x y : IncidentCoverageLedger) : Prop where
  contains : Contains rt x y
  version : y.version = x.version + 1
  length : y.obligations.length = x.obligations.length + 1

theorem checkPrior_ok {u : Unit} (h : checkPrior rt y o = .ok u) :
    ∃ o' ∈ y.obligations, obligationIdentity rt o' = obligationIdentity rt o := by
  simp only [checkPrior, ok_bind, orRaise_ok, raiseIf_ok, not_not] at h
  obtain ⟨current, hfind, he⟩ := h
  exact ⟨current, List.mem_of_find?_eq_some hfind, he⟩

/-- Ledgers of distinct obligations differ in length by the new ones. -/
theorem length_of_contains (hx : Distinct rt x) (hy : Distinct rt y) (h : Contains rt x y) :
    y.obligations.length = x.obligations.length + (newObligations x y).length := by
  have hold : ((y.obligations.filter fun o => o.obligationId ∈ x.ids).map IncidentCoverageObligation.obligationId).Perm x.ids := by
    refine (List.perm_ext_iff_of_nodup ((List.filter_sublist.map _).nodup hy.ids) hx.ids).mpr fun i => ?_
    rw [List.mem_map]
    constructor
    · rintro ⟨o, ho, rfl⟩
      simpa using (List.mem_filter.mp ho).2
    · intro hi
      obtain ⟨o, ho, rfl⟩ := List.mem_map.mp hi
      obtain ⟨o', ho', he⟩ := h o ho
      have hid : o'.obligationId = o.obligationId := congrArg Prod.fst he
      exact ⟨o', List.mem_filter.mpr ⟨ho', by simpa [hid] using hi⟩, hid⟩
  have hlen := hold.length_eq
  have hids : x.ids.length = x.obligations.length := List.length_map _
  rw [List.length_map] at hlen
  have hsplit := List.length_eq_length_filter_add (l := y.obligations) fun o => decide (o.obligationId ∈ x.ids)
  simp only [newObligations, decide_not]
  omega

variable (rt) in
/-- Some case of the corpus covers for the obligation. -/
def Covered (corpus : AssuranceCorpus) (o : IncidentCoverageObligation) : Prop :=
  ∃ c ∈ corpus.cases, c.Blocks ∧ contains (marker rt o) c.invariant ∧
    severityRank o.requiredMinSeverity ≤ severityRank c.severity

theorem covered_of_coverage (h : obligationCoverage rt corpus o ≠ []) : Covered rt corpus o := by
  obtain ⟨i, hi⟩ := List.exists_mem_of_ne_nil _ h
  rw [obligationCoverage, Evolution.mem_sortedTexts] at hi
  obtain ⟨c, hc, -⟩ := List.mem_map.mp hi
  obtain ⟨hmem, hcovers⟩ := List.mem_filter.mp hc
  rw [decide_eq_true_eq] at hcovers
  exact ⟨c, hmem, hcovers.2.1, hcovers.1, hcovers.2.2⟩

/-- Coverage looks at the trace digest and the severity of an obligation only. -/
theorem Covered.of_identity (h : Covered rt corpus o')
    (he : obligationIdentity rt o' = obligationIdentity rt o) : Covered rt corpus o := by
  have htrace : rt.casefold o'.traceSha256 = rt.casefold o.traceSha256 := congrArg (fun i => i.2.2.2.2.2.2) he
  have hseverity : o'.requiredMinSeverity = o.requiredMinSeverity := congrArg (fun i => i.2.2.2.1) he
  unfold Covered marker at h ⊢
  rwa [htrace, hseverity] at h

/-- What an accepted evaluation has checked. -/
structure Passed (rt : Runtime) (e : Evaluation) : Prop where
  previous : Distinct rt e.previousLedger
  candidate : Distinct rt e.candidateLedger
  pinned : ledgerDigest rt e.previousLedger = rt.casefold e.policy.expectedPreviousLedgerSha256
  appends : Appends rt e.previousLedger e.candidateLedger
  covered : ∀ o ∈ e.candidateLedger.obligations, Covered rt e.candidate o

theorem passed_of_accepted (h : e.Accepted rt) : Passed rt e := by
  obtain ⟨v, h⟩ := h
  simp only [evaluate, ok_seq] at h
  obtain ⟨-, h⟩ := h
  obtain ⟨⟨severity, signals⟩, -, h⟩ := ok_bind.mp h
  simp only [ok_seq] at h
  obtain ⟨-, -, -, -, -, h⟩ := h
  obtain ⟨current, htransition, h⟩ := ok_bind.mp h
  simp only [ok_seq] at h
  obtain ⟨-, -, -, -, -, hcoverage, -⟩ := h
  simp only [validateCoverage, ok_seq, forEach_ok, raiseIf_ok] at hcoverage
  simp only [validateLedgerTransition, ok_seq, forEach_ok, raiseIf_ok, not_or, not_not] at htransition
  obtain ⟨hx, hy, hpinned, ⟨-, hversion, -⟩, hprior, htransition⟩ := htransition
  obtain ⟨o, hcurrent, -⟩ := ok_bind.mp htransition
  have hnew : (newObligations e.previousLedger e.candidateLedger).length = 1 := by
    unfold currentObligation at hcurrent
    split at hcurrent
    · rename_i heq
      rw [heq, List.length_singleton]
    · cases hcurrent
  have hx := distinct_of_validateLedger hx
  have hy := distinct_of_validateLedger hy
  have hcontains : Contains rt e.previousLedger e.candidateLedger := fun o ho => checkPrior_ok (hprior o ho)
  have hlength := length_of_contains hx hy hcontains
  rw [hnew] at hlength
  exact ⟨hx, hy, hpinned, ⟨hcontains, hversion, hlength⟩, fun o ho => covered_of_coverage (hcoverage.1 o ho)⟩

theorem same_of_extends (hH : Function.Injective rt.sha256) (h : Extends rt x e y) : Same rt x e.previousLedger :=
  same_of_digest hH (h.pinned.symm.trans (passed_of_accepted h.accepted).pinned.symm)

theorem appends_of_extends (hH : Function.Injective rt.sha256) (h : Extends rt x e y) : Appends rt x y := by
  have hsame := same_of_extends hH h
  have happends := (passed_of_accepted h.accepted).appends
  rw [h.candidate] at happends
  exact ⟨hsame.contains.trans happends.contains, hsame.version ▸ happends.version, hsame.length ▸ happends.length⟩

/-! ## Chains -/

/-- The ledgers of a chain. -/
def ledgers (x : IncidentCoverageLedger) (es : List Evaluation) : List IncidentCoverageLedger :=
  x :: es.map Evaluation.candidateLedger

variable {es : List Evaluation}

section

variable (hH : Function.Injective rt.sha256)
include hH

theorem contains_last (h : Along (Extends rt) x es y) : ∀ z ∈ ledgers x es, Contains rt z y := by
  induction es generalizing x with
  | nil =>
    intro z hz
    rw [List.mem_singleton.mp hz, Along.nil.mp h]
    exact fun o ho => ⟨o, ho, rfl⟩
  | cons e es ih =>
    obtain ⟨c, hstep, hrest⟩ := h
    have htail := ih hrest
    intro z hz
    rcases List.mem_cons.mp hz with rfl | hz
    · exact (appends_of_extends hH hstep).contains.trans (htail c List.mem_cons_self)
    · rw [List.map_cons, hstep.candidate] at hz
      exact htail z hz

theorem pairwise_contains (h : Along (Extends rt) x es y) : (ledgers x es).Pairwise (Contains rt) := by
  have hchain : (ledgers x es).IsChain (Contains rt) := h.chain fun _ _ _ hs => ⟨hs.candidate, (appends_of_extends hH hs).contains⟩
  have htrans : IsTrans _ (Contains rt) := ⟨fun _ _ _ => Contains.trans⟩
  exact List.isChain_iff_pairwise.mp hchain

theorem distinct_along (h : Along (Extends rt) x es y) (hne : es ≠ []) : ∀ z ∈ ledgers x es, Distinct rt z := by
  intro z hz
  rcases List.mem_cons.mp hz with rfl | hz
  · obtain ⟨e, es, rfl⟩ := List.exists_cons_of_ne_nil hne
    obtain ⟨c, hstep, -⟩ := h
    exact (same_of_extends hH hstep).distinct (passed_of_accepted hstep.accepted).previous
  · obtain ⟨e, he, rfl⟩ := List.mem_map.mp hz
    obtain ⟨-, -, c, d, -, -, hstep, -⟩ := h.split he
    exact (passed_of_accepted hstep.accepted).candidate

end

/-- Over every chain of accepted evaluations, each pinned to the ledger before: a ledger contains every obligation of all
    before it, versions grow by one and obligations by one, no obligation id, incident or trace digest has two obligations,
    and in the last corpus some blocking case with the trace marker, no less severe than required, covers for every
    obligation of any of the ledgers. -/
theorem obligations_covered (hH : Function.Injective rt.sha256) (h : Along (Extends rt) x es y) :
    (ledgers x es).Pairwise (Contains rt) ∧
      (ledgers x es).IsChain (fun a b => b.version = a.version + 1 ∧ b.obligations.length = a.obligations.length + 1) ∧
      (es ≠ [] → ∀ z ∈ ledgers x es, Distinct rt z) ∧
      ∀ before last, es = before ++ [last] → ∀ z ∈ ledgers x es, ∀ o ∈ z.obligations, Covered rt last.candidate o := by
  refine ⟨pairwise_contains hH h, h.chain fun _ _ _ hs => ⟨hs.candidate, ?_⟩, distinct_along hH h, ?_⟩
  · have happends := appends_of_extends hH hs
    exact ⟨happends.version, happends.length⟩
  · rintro before last rfl z hz o ho
    obtain ⟨c, hbefore, d, hstep, hend⟩ := Along.append.mp h
    obtain ⟨o', ho', he⟩ := contains_last hH h z hz o ho
    rw [← Along.nil.mp hend, ← hstep.candidate] at ho'
    exact ((passed_of_accepted hstep.accepted).covered o' ho').of_identity he

/-! ## A first incident -/

namespace Sample

open Agentic (hex)
open Evolution (CorpusChangeManifest VerifiedCorpusEvolution P6C_CHANGE_MANIFEST_SCHEMA_VERSION changeManifestDigest
  canonicalChangeManifest canonicalChange)
open Serving (VerifiedIncidentDecision AbuseSignalType)

def task : AssuranceCase := ⟨"task", "tools", "safe-task", .low, .allow, "safe tasks pass"⟩

/-- Its invariant carries the trace digest of the incident. -/
def probe : AssuranceCase :=
  ⟨"probe", "gateway", "incident_derived_serving_abuse", .high, .block, "incident_trace_sha256=" ++ hex '4'⟩

def baseline : AssuranceCorpus := ⟨"corpus", "1", [task], P6A_CORPUS_SCHEMA_VERSION⟩

def candidate : AssuranceCorpus := ⟨"corpus", "2", [task, probe], P6A_CORPUS_SCHEMA_VERSION⟩

def incident : VerifiedIncidentDecision :=
  ⟨"incident", "deployment", "package", "model", "revision", "runtime", "collector", "batch", hex 'a', 1, 1, .quarantine, 20, 1,
    [("extraction_signal", 3)], hex 'b', true, true, true, true, false, 0⟩

def manifest : CorpusChangeManifest :=
  ⟨hex '0', hex '1', [⟨"change", .add, "probe", "owner", expectedChangeReason (.tabled []) "feedback" "incident" (hex 'a'), "", hex '3',
    []⟩], [], P6C_CHANGE_MANIFEST_SCHEMA_VERSION⟩

def evolution : VerifiedCorpusEvolution :=
  ⟨"corpus", "1", "2", hex '0', hex '1', hex '2', ["probe"], [], [], [], 2, 1, 1, 0, 1, hex 'c', true, true, true, true, true, 0⟩

def obligation : IncidentCoverageObligation := ⟨"obligation", "incident", hex 'a', .high, ["extraction_signal"], "2", hex '4'⟩

def empty : IncidentCoverageLedger := ⟨"ledger", 0, hex '0', [], P6F_LEDGER_SCHEMA_VERSION⟩

def first : IncidentCoverageLedger := ⟨"ledger", 1, hex '5', [obligation], P6F_LEDGER_SCHEMA_VERSION⟩

def feedback : IncidentAssuranceFeedback :=
  ⟨"feedback", "incident", "deployment", hex 'a', .quarantine, 20, [("extraction_signal", 3)], hex '0', hex '1', hex '2', hex '5', hex '6',
    [⟨"probe", hex '3', "change", ["extraction_signal"]⟩], 30, P6F_FEEDBACK_SCHEMA_VERSION⟩

def documents : List Json :=
  [canonicalCorpus baseline, canonicalCorpus candidate, canonicalChangeManifest (.tabled []) manifest, canonicalCase probe,
    traceDocument (.tabled []) incident .high, canonicalLedger (.tabled []) empty, canonicalLedger (.tabled []) first,
    canonicalFeedback (.tabled []) feedback]

def runtime : Runtime := .tabled documents

def policy : IncidentFeedbackPolicy where
  expectedBaselineCorpusId := "corpus"
  expectedBaselineCorpusSha256 := hex '0'
  expectedPreviousLedgerSha256 := hex '5'
  trustedChangeOwnerIds := ["owner"]
  allowedTargetBoundaries := ["gateway"]

def evaluation : Evaluation where
  policy := policy
  seenFeedbackIds := []
  request := ⟨"feedback", hex '7', "incident", hex 'a', hex '1', hex '6', hex 'c'⟩
  feedback := feedback
  incident := incident
  baseline := baseline
  candidate := candidate
  manifest := manifest
  evolution := evolution
  previousLedger := empty
  candidateLedger := first

theorem accepted : evaluation.Accepted runtime := ok_of_isSome (by decide +kernel)

theorem along : Along (Extends runtime) empty [evaluation] first := by
  refine ⟨first, ⟨?_, accepted, rfl⟩, rfl⟩
  decide +kernel

theorem injective : Function.Injective runtime.sha256 := tabledDigest_injective documents

end Sample

open Sample in
theorem obligations_covered_first : [empty, first].Pairwise (Contains runtime) ∧ Covered runtime candidate obligation := by
  obtain ⟨hcontains, -, -, hcovered⟩ := obligations_covered injective along
  exact ⟨hcontains, hcovered [] evaluation rfl first (by simp [ledgers, evaluation]) obligation (by simp [first])⟩

end Aegis.Assurance.Feedback
