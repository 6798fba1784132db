/-
  Aegis.Assurance.FindingChain — what a chain of accepted transitions says about a finding (P6-E).

  A transition compares two records; `Follows` is all that it makes hold between them
  (`follows_of_advances`), and a chain is therefore a list of records of which neighbours follow each
  other (`Along.chain`). From there: the states are a path from OPEN, the identity is that of the
  first record, the fix target is that of the first fixed one, and a closed record is the last
  (`lifecycle_path`). A closing transition also reads a retest, whose execution lies between the
  ready record and the evaluation (`retested_of_advances`).

  Not between the ready and the closed record: the gate compares the retest with the clock of the
  evaluation, not with the time that the closed record states (`retested_after_closing`).
-/

import Aegis.Assurance.Finding
import Aegis.Data.Lineage

namespace Aegis.Assurance.Finding

open Data Data.Checks

/-- All that `evaluate` is given. -/
structure Transition where
  corpus : AssuranceCorpus
  registry : InvariantRegistry
  policy : FindingLifecyclePolicy
  request : FindingLifecycleRequest
  previous : AdversarialFinding
  proposed : AdversarialFinding
  retest : Option FindingRetestEvidence

variable {rt : Runtime} {t : Transition} {f g f' : AdversarialFinding} {r : FindingRetestEvidence} {i findingId : String}
  {u : Unit} {c : AssuranceCase}

variable (rt) in
/-- The gate accepts the transition. -/
def Transition.Accepted (t : Transition) : Prop :=
  ∃ v, evaluate rt t.corpus t.registry t.policy t.request t.previous t.proposed t.retest = .ok v

variable (rt) in
/-- An accepted transition from the record `f`, by its digest. -/
structure Advances (f : AdversarialFinding) (t : Transition) (g : AdversarialFinding) : Prop where
  bound : rt.casefold t.request.expectedPreviousRecordSha256 = findingDigest rt f
  accepted : t.Accepted rt
  proposed : t.proposed = g

/-! ## Records of one digest -/

variable (rt) in
/-- What the digest of a record says of it. -/
structure Same (f g : AdversarialFinding) : Prop where
  findingId : f.findingId = g.findingId
  identity : identity rt f = identity rt g
  version : f.version = g.version
  state : f.state = g.state
  updatedAtEpoch : f.updatedAtEpoch = g.updatedAtEpoch
  target : target rt f = target rt g

theorem FindingState.value_injective : Function.Injective FindingState.value := by
  intro a b
  cases a <;> cases b <;> simp [value]

theorem texts_inj {as bs : List String} (h : texts as = texts bs) : as = bs :=
  List.map_injective_iff.mpr (fun _ _ h => Json.str.inj h) (Json.arr_inj.mp h)

theorem same_of_digest (hH : Function.Injective rt.sha256) (h : findingDigest rt f = findingDigest rt g) : Same rt f g := by
  have hdoc := hH h
  simp only [findingDocument, Json.obj_cons, Json.obj_nil, Json.field.injEq, Json.str.injEq, Json.int.injEq, true_and,
    and_true] at hdoc
  obtain ⟨hbound, hcase, -, hcommit, hpkg, hrel, hid, hinv, hopened, howner, -, hsev, hstate, htcommit, htpkg, htrel, htitle,
    htrack, hupd, hver⟩ := hdoc
  refine ⟨hid, ?_, hver, FindingState.value_injective hstate, hupd, ?_⟩
  · rw [identity, identity, htitle, AssuranceSeverity.value_injective hsev, howner, texts_inj hcase, texts_inj hbound,
      texts_inj hinv, hrel, hcommit, hpkg, htrack, hopened]
  · rw [target, target, htrel, htcommit, htpkg]

/-! ## What an accepted transition has checked -/

variable (rt) in
/-- `g` is the next record of the finding after `f`. -/
structure Follows (f g : AdversarialFinding) : Prop where
  findingId : g.findingId = f.findingId
  identity : identity rt g = identity rt f
  version : g.version = f.version + 1
  state : g.state ∈ allowedTransitions f.state
  updatedAtEpoch : f.updatedAtEpoch < g.updatedAtEpoch
  target : f.state ≠ .open → target rt g = target rt f

theorem follows_of_validateTransition {evaluatedAtEpoch : Int}
    (h : validateTransition rt f g evaluatedAtEpoch = .ok u) : Follows rt f g ∧ g.updatedAtEpoch ≤ evaluatedAtEpoch := by
  simp only [validateTransition, ok_seq, raiseIf_ok, not_or, not_not, not_and, not_lt, not_le] at h
  obtain ⟨hid, hidentity, hversion, hstate, ⟨-, hclock, hupd⟩, htarget⟩ := h
  exact ⟨⟨hid.symm, hidentity.symm, hversion, hstate, hupd, fun hs => (htarget hs).symm⟩, hclock⟩

theorem Same.follows (h : Same rt f f') (hf : Follows rt f' g) : Follows rt f g where
  findingId := hf.findingId.trans h.findingId.symm
  identity := hf.identity.trans h.identity.symm
  version := h.version ▸ hf.version
  state := h.state ▸ hf.state
  updatedAtEpoch := h.updatedAtEpoch ▸ hf.updatedAtEpoch
  target hs := (hf.target (h.state ▸ hs)).trans h.target.symm

/-- The parts of an accepted evaluation. -/
structure Passed (rt : Runtime) (t : Transition) : Prop where
  corpus : t.corpus.WellFormed
  finding : validateFinding rt t.proposed t.corpus t.registry t.policy.trustedFindingOwnerIds = .ok ()
  previous : rt.casefold t.request.expectedPreviousRecordSha256 = findingDigest rt t.previous
  transition : validateTransition rt t.previous t.proposed t.request.evaluatedAtEpoch = .ok ()
  closure : ∃ d, validateClosure rt t.previous t.proposed t.retest t.corpus t.policy t.request.evaluatedAtEpoch = .ok d

theorem passed_of_accepted (h : t.Accepted rt) : Passed rt t := by
  obtain ⟨v, h⟩ := h
  simp only [evaluate, ok_seq, raiseIf_ok, validateCorpus, validateRequest, validateCorpus_ok, not_or, not_not] at h
  obtain ⟨-, ⟨hcorpus, -⟩, -, -, hfinding, ⟨-, -, -, hprevious, -⟩, htransition, h⟩ := h
  obtain ⟨d, hclosure, -⟩ := ok_bind.mp h
  exact ⟨hcorpus, hfinding, hprevious, htransition, d, hclosure⟩

theorem same_of_advances (hH : Function.Injective rt.sha256) (h : Advances rt f t g) : Same rt f t.previous :=
  same_of_digest hH (h.bound.symm.trans (passed_of_accepted h.accepted).previous)

theorem follows_of_advances (hH : Function.Injective rt.sha256) (h : Advances rt f t g) : Follows rt f g := by
  have hfollows := (follows_of_validateTransition (passed_of_accepted h.accepted).transition).1
  exact (same_of_advances hH h).follows (h.proposed ▸ hfollows)

/-! ## The retest of a closure -/

variable (rt) in
/-- The retest `r` of the transition `t` that closes the finding whose record before is `ready`. -/
structure Retested (ready : AdversarialFinding) (t : Transition) (r : FindingRetestEvidence) : Prop where
  digest : rt.casefold t.proposed.closureRetestSha256 = retestDigest rt r
  finding : r.findingId = t.proposed.findingId
  readyRecord : rt.casefold r.readyRecordSha256 = findingDigest rt ready
  runner : r.runnerId ∈ t.policy.trustedRetestRunnerIds
  target : (r.releaseId, rt.casefold r.commitSha, r.packageVersion) = target rt t.proposed
  corpus : rt.casefold r.corpusSha256 = corpusDigest rt t.corpus
  covers : (r.results.map CaseObservation.caseId).Perm t.corpus.ids
  blocked : ∀ i ∈ t.proposed.affectedCaseIds, ∃ c, t.corpus.find i = some c ∧ c.Blocks ∧ observed r.results i = some .block
  afterReady : ready.updatedAtEpoch ≤ r.executedAtEpoch
  evaluated : r.executedAtEpoch ≤ t.request.evaluatedAtEpoch
  fresh : t.request.evaluatedAtEpoch - r.executedAtEpoch ≤ t.policy.maxRetestAgeSeconds

theorem linkedCase_ok {corpus : AssuranceCorpus} :
    linkedCase corpus findingId i = .ok c ↔ corpus.find i = some c ∧ c.Blocks := by
  simp only [linkedCase, ok_bind, orRaise_ok, raiseIf_ok, exists_const, not_not]
  constructor
  · rintro ⟨k, hfind, hblocks, hk⟩
    cases hk
    exact ⟨hfind, hblocks⟩
  · rintro ⟨hfind, hblocks⟩
    exact ⟨c, hfind, hblocks, rfl⟩

theorem blocks_of_validateFinding {corpus : AssuranceCorpus} {registry : InvariantRegistry} {owners : List String}
    (h : validateFinding rt f corpus registry owners = .ok u) : ∀ i ∈ f.affectedCaseIds, ∃ c, corpus.find i = some c ∧ c.Blocks := by
  simp only [validateFinding, ok_seq] at h
  obtain ⟨-, -, -, h⟩ := h
  obtain ⟨linked, hlinked, -⟩ := ok_bind.mp h
  intro i hi
  obtain ⟨c, -, hc⟩ := mem_gather hlinked hi
  exact ⟨c, linkedCase_ok.mp hc⟩

theorem validateResult_ok {corpus : AssuranceCorpus} (seen : List CaseObservation) (o : CaseObservation) :
    validateResult rt corpus findingId seen o = .ok () ↔
      (∃ c, corpus.find o.caseId = some c ∧ isSha256 rt o.caseDefinitionSha256 ∧
        rt.casefold o.caseDefinitionSha256 = caseDefinitionDigest rt c) ∧ o.caseId ∉ seen.map CaseObservation.caseId := by
  simp only [validateResult, ok_bind, orRaise_ok, raiseIf_ok, exists_const, not_or, not_not]
  exact and_comm

theorem validateLinkedResult_ok {corpus : AssuranceCorpus} {results : List CaseObservation} (hfind : corpus.find i = some c) (h : validateLinkedResult corpus results findingId i = .ok u) :
    observed results i = some c.expectation := by
  simp only [validateLinkedResult, ok_bind, orRaise_ok, raiseIf_ok, not_not] at h
  obtain ⟨k, hk, o, ho, he⟩ := h
  rw [hfind, Option.some.injEq] at hk
  rw [ho, he, hk]

theorem sameSet_perm {xs ys : List String} (h : Agentic.sameSet xs ys) (hx : xs.Nodup) (hy : ys.Nodup) : xs.Perm ys :=
  (List.perm_ext_iff_of_nodup hx hy).mpr fun i => ⟨h.1 i, h.2 i⟩

theorem retested_of_validateRetest (ht : Passed rt t)
    (h : validateRetest rt r t.previous t.proposed t.corpus t.policy t.request.evaluatedAtEpoch = .ok u) :
    Retested rt t.previous t r := by
  simp only [validateRetest, ok_seq, raiseIf_ok, scan_keys_ok validateResult_ok, forEach_ok, not_or, not_not, not_lt] at h
  obtain ⟨-, hrunner, ⟨hid, hready, hrel, hcommit, hpkg, hcorpus⟩, hfuture, ⟨hafter, hfresh⟩, ⟨-, hnodup⟩, hsame, hlinked, hdigest⟩ := h
  refine ⟨hdigest, hid, hready, hrunner, ?_, hcorpus, sameSet_perm hsame hnodup ht.corpus.nodup, ?_, hafter, hfuture, hfresh⟩
  · rw [target, hrel, hcommit, hpkg]
  · intro i hi
    obtain ⟨c, hfind, hblocks⟩ := blocks_of_validateFinding ht.finding i hi
    have hobserved := validateLinkedResult_ok hfind (hlinked i hi)
    exact ⟨c, hfind, hblocks, hblocks ▸ hobserved⟩

/-- A record is closed by a retest only. -/
theorem retested_of_advances (hH : Function.Injective rt.sha256) (h : Advances rt f t g) (hg : g.state = .closed) :
    ∃ r, t.retest = some r ∧ Retested rt f t r := by
  have ht := passed_of_accepted h.accepted
  have hsame := same_of_advances hH h
  have hstate : t.proposed.state = .closed := h.proposed ▸ hg
  obtain ⟨d, hclosure⟩ := ht.closure
  unfold validateClosure at hclosure
  rw [hstate] at hclosure
  cases hr : t.retest with
  | none =>
    rw [hr] at hclosure
    cases hclosure
  | some r =>
    rw [hr] at hclosure
    obtain ⟨u, hretest, -⟩ := ok_bind.mp hclosure
    have hretested := retested_of_validateRetest ht hretest
    refine ⟨r, rfl, { hretested with readyRecord := ?_, afterReady := ?_ }⟩
    · rw [hretested.readyRecord, ← ht.previous, h.bound]
    · rw [hsame.updatedAtEpoch]
      exact hretested.afterReady

/-! ## Chains -/

/-- The states of a finding, from `state` on. -/
def FindingState.path : FindingState → List FindingState
  | .open => [.open, .fixInProgress, .readyForRetest, .closed]
  | .fixInProgress => [.fixInProgress, .readyForRetest, .closed]
  | .readyForRetest => [.readyForRetest, .closed]
  | .closed => [.closed]

theorem FindingState.path_cons {s next : FindingState} (h : next ∈ allowedTransitions s) : s.path = s :: next.path := by
  cases s <;> simp only [allowedTransitions, List.mem_singleton, List.not_mem_nil] at h <;> rw [h] <;> rfl

theorem FindingState.prefix_path {s : FindingState} {ss : List FindingState}
    (h : (s :: ss).IsChain fun x y => y ∈ allowedTransitions x) : s :: ss <+: s.path := by
  induction ss generalizing s with
  | nil => cases s <;> exact ⟨_, rfl⟩
  | cons next ss ih =>
    obtain ⟨hnext, hrest⟩ := List.isChain_cons_cons.mp h
    rw [FindingState.path_cons hnext]
    exact List.cons_prefix_cons.mpr ⟨rfl, ih hrest⟩

/-- The records of a chain. -/
def records (f : AdversarialFinding) (ts : List Transition) : List AdversarialFinding := f :: ts.map Transition.proposed

variable {ts : List Transition}

theorem follows_along (hH : Function.Injective rt.sha256) (h : Along (Advances rt) f ts g) : (records f ts).IsChain (Follows rt) :=
  h.chain fun _ _ _ hstep => ⟨hstep.proposed, follows_of_advances hH hstep⟩

/-- What every transition keeps is kept from the first record on. -/
theorem kept_along {β : Type} {out : AdversarialFinding → β} (hout : ∀ f g, Follows rt f g → out g = out f)
    (h : (records f ts).IsChain (Follows rt)) : ∀ x ∈ records f ts, out x = out f := by
  induction ts generalizing f with
  | nil => simp [records]
  | cons t ts ih =>
    obtain ⟨hfollows, hrest⟩ := List.isChain_cons_cons.mp h
    intro x hx
    rcases List.mem_cons.mp hx with rfl | hx
    · rfl
    · exact (ih hrest x hx).trans (hout _ _ hfollows)

theorem target_along (h : (records f ts).IsChain (Follows rt)) (hf : f.state ≠ .open) :
    ∀ x ∈ records f ts, target rt x = target rt f := by
  induction ts generalizing f with
  | nil => simp [records]
  | cons t ts ih =>
    obtain ⟨hfollows, hrest⟩ := List.isChain_cons_cons.mp h
    have hnext : t.proposed.state ≠ .open := by
      intro he
      have hstate := hfollows.state
      rw [he] at hstate
      cases hs : f.state <;> simp [hs, allowedTransitions] at hstate
    intro x hx
    rcases List.mem_cons.mp hx with rfl | hx
    · rfl
    · exact (ih hrest hnext x hx).trans (hfollows.target hf)

/-- The records of a chain from an open one: their states are a path from OPEN, versions grow by one and times strictly,
    the identity never changes, nor does the target of a fix, and nothing follows a closed record. A closing transition
    has a retest of the target, by a trusted runner, that covers the corpus, in which the linked cases were blocked, and
    that was executed between the time of the ready record and that of the evaluation. -/
theorem lifecycle_path (hH : Function.Injective rt.sha256) (hopen : f.state = .open) (h : Along (Advances rt) f ts g) :
    (records f ts).map AdversarialFinding.state <+: [.open, .fixInProgress, .readyForRetest, .closed] ∧
      (records f ts).IsChain (fun x y => y.version = x.version + 1 ∧ x.updatedAtEpoch < y.updatedAtEpoch) ∧
      (∀ x ∈ records f ts, x.findingId = f.findingId ∧ identity rt x = identity rt f) ∧
      (∀ x ∈ ts.map Transition.proposed, ∀ y ∈ ts.map Transition.proposed, target rt x = target rt y) ∧
      (g.state = .closed → ∀ t k, ¬ Advances rt g t k) ∧
      ∀ t ∈ ts, t.proposed.state = .closed → ∃ ready ∈ records f ts, ready.state = .readyForRetest ∧
        t.proposed.updatedAtEpoch ≤ t.request.evaluatedAtEpoch ∧ ∃ r, t.retest = some r ∧ Retested rt ready t r := by
  have hchain := follows_along hH h
  refine ⟨?_, hchain.imp fun x y hxy => ⟨hxy.version, hxy.updatedAtEpoch⟩, ?_, ?_, ?_, ?_⟩
  · have hstates : ((records f ts).map AdversarialFinding.state).IsChain fun x y => y ∈ allowedTransitions x :=
      (List.isChain_map _).mpr (hchain.imp fun x y hxy => hxy.state)
    rw [records, List.map_cons] at hstates ⊢
    have hpre := FindingState.prefix_path hstates
    rwa [hopen] at hpre ⊢
  · intro x hx
    exact ⟨kept_along (fun _ _ hxy => hxy.findingId) hchain x hx, kept_along (fun _ _ hxy => hxy.identity) hchain x hx⟩
  · cases ts with
    | nil => simp
    | cons t ts =>
      obtain ⟨hfollows, hrest⟩ := List.isChain_cons_cons.mp hchain
      have hstate := hfollows.state
      rw [hopen] at hstate
      have hfix : t.proposed.state ≠ .open := by
        rw [List.mem_singleton.mp hstate]
        nofun
      intro x hx y hy
      rw [target_along hrest hfix x hx, target_along hrest hfix y hy]
  · intro hclosed t k hstep
    have hstate := (follows_of_advances hH hstep).state
    rw [hclosed] at hstate
    exact List.not_mem_nil hstate
  · intro t ht hclosed
    obtain ⟨before, after, c, d, rfl, hbefore, hstep, -⟩ := h.split ht
    have hclock := (follows_of_validateTransition (passed_of_accepted hstep.accepted).transition).2
    have hd : d.state = .closed := hstep.proposed ▸ hclosed
    have hready : c.state = .readyForRetest := by
      have hstate := (follows_of_advances hH hstep).state
      rw [hd] at hstate
      cases hs : c.state <;> simp [hs, allowedTransitions] at hstate
      rfl
    refine ⟨c, ?_, hready, hclock, retested_of_advances hH hstep hd⟩
    -- the record before the closing one is the last of those before
    rcases List.eq_nil_or_concat before with rfl | ⟨before, s, rfl⟩
    · rw [Along.nil.mp hbefore]
      exact List.mem_cons_self
    · obtain ⟨b, -, e, hs, he⟩ := Along.append.mp (List.concat_eq_append ▸ hbefore)
      rw [← Along.nil.mp he, ← hs.proposed]
      simp [records]

/-! ## A finding from OPEN to CLOSED -/

namespace Sample

open Agentic (hex)

def leak : AssuranceCase := ⟨"leak", "memory", "extraction", .high, .block, "canaries do not leak"⟩

def corpus : AssuranceCorpus := ⟨"corpus", "1", [leak], P6A_CORPUS_SCHEMA_VERSION⟩

def registry : InvariantRegistry :=
  ⟨"registry", "1", hex '0', [⟨"leak", hex '2', "owner", .high⟩], P6B_INVARIANT_REGISTRY_SCHEMA_VERSION⟩

/-- The finding, with what its transitions change. -/
def record (version : Int) (state : FindingState) (updatedAtEpoch : Int) (target : String × String × String)
    (closureRetestSha256 : String) : AdversarialFinding :=
  ⟨"finding", version, "canary extraction", .high, "security", ["leak"], ["memory"], ["owner"], "release", hex '8', "1.0", state,
    "issue-1", 10, updatedAtEpoch, target.1, target.2.1, target.2.2, closureRetestSha256, P6E_FINDING_SCHEMA_VERSION⟩

def fixTarget : String × String × String := ("fixed", hex '9', "1.1")

def opened : AdversarialFinding := record 1 .open 10 ("", "", "") ""

def fixing : AdversarialFinding := record 2 .fixInProgress 20 fixTarget ""

def ready : AdversarialFinding := record 3 .readyForRetest 30 fixTarget ""

def closed : AdversarialFinding := record 4 .closed 40 fixTarget (hex '7')

/-- Executed after the time that the closed record states, and before it was evaluated. -/
def retest : FindingRetestEvidence :=
  ⟨"finding", hex '5', "fixed", hex '9', "1.1", hex '0', "runner", 50, [⟨"leak", hex '2', .block⟩], P6E_RETEST_SCHEMA_VERSION⟩

def documents : List Json :=
  [canonicalCorpus corpus, canonicalInvariantRegistry (.tabled []) registry, canonicalCase leak, findingDocument (.tabled []) opened,
    findingDocument (.tabled []) fixing, findingDocument (.tabled []) ready, findingDocument (.tabled []) closed,
    canonicalRetest (.tabled []) retest]

def runtime : Runtime := .tabled documents

def policy : FindingLifecyclePolicy := ⟨hex '0', hex '1', ["security"], ["runner"], 100⟩

/-- A transition at the time `clock`, from the record of one digest to that of another. -/
def transition (clock : Int) (before after : String) (previous proposed : AdversarialFinding) (retest : Option FindingRetestEvidence) :
    Transition :=
  ⟨corpus, registry, policy, ⟨"finding", before, after, clock⟩, previous, proposed, retest⟩

def start : Transition := transition 20 (hex '3') (hex '4') opened fixing none

def fix : Transition := transition 30 (hex '4') (hex '5') fixing ready none

def close : Transition := transition 60 (hex '5') (hex '6') ready closed (some retest)

theorem retest_digest : retestDigest runtime retest = hex '7' := by decide +kernel

theorem along : Along (Advances runtime) opened [start, fix, close] closed := by
  have hstart : start.Accepted runtime := ok_of_isSome (by decide +kernel)
  have hfix : fix.Accepted runtime := ok_of_isSome (by decide +kernel)
  have hclose : close.Accepted runtime := ok_of_isSome (by decide +kernel)
  exact ⟨fixing, ⟨by decide +kernel, hstart, rfl⟩, ready, ⟨by decide +kernel, hfix, rfl⟩, closed, ⟨by decide +kernel, hclose, rfl⟩, rfl⟩

theorem injective : Function.Injective runtime.sha256 := tabledDigest_injective documents

end Sample

open Sample in
theorem lifecycle_path_closed : [opened, fixing, ready, closed].map AdversarialFinding.state <+:
      [.open, .fixInProgress, .readyForRetest, .closed] ∧ ∃ r, some retest = some r ∧ Retested runtime ready close r := by
  obtain ⟨hpath, -, -, -, -, hclosed⟩ := lifecycle_path injective rfl along
  obtain ⟨x, hx, hstate, -, r, hr, hretested⟩ := hclosed close (by simp) rfl
  have hready : x = ready := by
    simp only [records, List.map_cons, List.map_nil, List.mem_cons, List.not_mem_nil, or_false] at hx
    rcases hx with rfl | rfl | rfl | rfl
    · cases hstate
    · cases hstate
    · rfl
    · cases hstate
  exact ⟨hpath, r, hr, hready ▸ hretested⟩

open Sample in
/-- The retest that closed the finding was executed after the time of the closed record. -/
theorem retested_after_closing : Function.Injective runtime.sha256 ∧ opened.state = .open ∧
    Along (Advances runtime) opened [start, fix, close] closed ∧ closed.state = .closed ∧
    closed.closureRetestSha256 = retestDigest runtime retest ∧ ¬ retest.executedAtEpoch ≤ closed.updatedAtEpoch :=
  ⟨injective, rfl, along, rfl, retest_digest.symm, by decide⟩

end Aegis.Assurance.Finding
