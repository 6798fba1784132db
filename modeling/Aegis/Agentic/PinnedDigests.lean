/-
  Aegis.Agentic.PinnedDigests — whether the pinned digest of a manifest settles what is decided of
  it, for state transitions and for execution budgets.

  - `decided_by_digest`: it does for manifests whose texts are of one spelling.
  - `spelled_apart`: an idempotency key or an operation key of 64 letters that is spelled in two
    ways is one key to the digest and two keys to the analyzer. Of manifests with one digest, one is
    denied for a key used again, or for a loop, and the other is allowed.
-/

import Aegis.Agentic.ArtifactResults
import Aegis.Agentic.PinnedBudgets
import Aegis.Agentic.PinnedTransitions

namespace Aegis.Agentic.PinnedDigests

open Data Evidence Checked
open Decision (DigestLike Folds OneSpelling digestLike_hex normText_digestLike normText_short)

variable {rt : Runtime}

/-- Both give the same result, or both are rejected. -/
def SameOutcome {ρ α : Type} (x y : Checked ρ α) : Prop := ∀ r, x = .ok r ↔ y = .ok r

theorem oneSpelling_comm {ts ts' : List String} (h : OneSpelling rt (ts ++ ts')) : OneSpelling rt (ts' ++ ts) := by
  intro s hs s' hs'
  exact h s (List.perm_append_comm.subset hs) s' (List.perm_append_comm.subset hs')

theorem oneSpelling_of_normal {ts : List String} (h : ∀ s ∈ ts, Canonical.normText rt s = s) : OneSpelling rt ts := by
  intro s hs s' hs' he
  rw [h s hs, h s' hs'] at he
  exact he

/-- Manifests of one digest whose texts, digests and those no check reads apart, do not differ in what
`_norm` erases are decided alike, whatever the policy, the upstream evidence and the time. -/
theorem decided_by_digest (hfolds : Folds rt) (hsha : Function.Injective rt.sha256) :
    (∀ (p : StateMachine.AgentStateTransitionPolicy) (m m' : StateMachine.AgentStateTransitionManifest) (p8d p8f p8g : Json) (now : Int),
      m.digest rt = m'.digest rt → OneSpelling rt (m.texts ++ m'.texts) →
        SameOutcome (StateMachine.derive rt p m p8d p8f p8g now) (StateMachine.derive rt p m' p8d p8f p8g now)) ∧
    ∀ (p : ExecutionBudget.ExecutionBudgetPolicy) (m m' : ExecutionBudget.ExecutionBudgetManifest) (p8a p8c p8d : Json) (now : Int),
      m.digest rt = m'.digest rt → OneSpelling rt (m.texts ++ m'.texts) →
        SameOutcome (ExecutionBudget.derive rt p m p8a p8c p8d now) (ExecutionBudget.derive rt p m' p8a p8c p8d now) := by
  refine ⟨fun p m m' p8d p8f p8g now hdigest hone r => ?_, fun p m m' p8a p8c p8d now hdigest hone r => ?_⟩
  · constructor
    · exact StateMachine.derive_of_digest hfolds hsha hdigest hone
    · exact StateMachine.derive_of_digest hfolds hsha hdigest.symm (oneSpelling_comm hone)
  · constructor
    · exact ExecutionBudget.derive_of_digest hfolds hsha hdigest hone
    · exact ExecutionBudget.derive_of_digest hfolds hsha hdigest.symm (oneSpelling_comm hone)

namespace Sample

open ArtifactSecurity.Sample (runtime injective capital normText_digit normText_capital)
open StateMachine (StateTransition AgentStateTransitionManifest)
open ExecutionBudget (BudgetEnvelope ExecutionEvent ExecutionBudgetManifest)
open ExecutionBudget.Sample (delegations steps root retry)

variable {document : Json}

theorem folds : Folds (runtime document) := by
  intro s hs
  show DigestLike (if s = capital then hex 'a' else s)
  split
  · exact digestLike_hex (by decide)
  · exact hs

theorem append_lt {p xs ys : List Char} (h : xs < ys) : p ++ xs < p ++ ys := by
  induction p with
  | nil => exact h
  | cons c p ih =>
    rw [List.cons_append, List.cons_append, List.cons_lt_cons_iff]
    exact .inr ⟨rfl, ih⟩

/-- Dicts whose first texts differ in a letter are sorted by it. -/
theorem str_lt {n a b : String} {rest rest' : Json} {p x y : List Char} {c d : Char} (ha : (Json.quoted a).toList = p ++ c :: x)
    (hb : (Json.quoted b).toList = p ++ d :: y) (h : c < d) :
    (runtime document).str (.field n (.str a) rest) < (runtime document).str (.field n (.str b) rest') := by
  show String.ofList (Json.field n (.str a) rest).code < String.ofList (Json.field n (.str b) rest').code
  rw [String.lt_iff_toList_lt, String.toList_ofList, String.toList_ofList]
  simp only [Json.code, ha, hb, List.append_assoc, List.cons_append]
  have hrest : c :: (x ++ rest.code) < d :: (y ++ rest'.code) := List.cons_lt_cons_iff.mpr (.inl h)
  have happend := append_lt (p := '\x7b' :: ((Json.quoted n).toList ++ 's' :: p)) hrest
  simpa only [List.append_assoc, List.cons_append] using happend

/-- Two items are shown in the order of their dicts. -/
theorem normItems_pair {α : Type} {toDict : α → Json} {x y : α}
    (h : (runtime document).str (toDict x) < (runtime document).str (toDict y)) :
    Canonical.normItems (runtime document) toDict [x, y] =
      .arr [(Canonical.normItem (runtime document) (toDict x)).sorted, (Canonical.normItem (runtime document) (toDict y)).sorted] := by
  have hsorted : sortOn (fun x => (runtime document).str (toDict x)) [x, y] = [x, y] := by
    simp [sortOn, List.insertionSort_cons, h.le]
  rw [Canonical.normItems, hsorted]
  rfl

/-! ### State transitions -/

section Transitions

open StateMachine.Sample (transition observations approvals messages job)

/-- A change, and one after it under a key of its own or the same. -/
def first : StateTransition := transition "t1" .mutate 3 'a' 'b' (some (hex 'a')) 10

def second (key payload : String) : StateTransition :=
  { transition "t2" .mutate 4 'b' 'c' (some key) 20 with payloadSha256 := payload }

def transitions (key payload : String) : AgentStateTransitionManifest :=
  { StateMachine.Sample.manifest with transitions := [first, second key payload] }

def transitionPolicy : StateMachine.AgentStateTransitionPolicy :=
  { StateMachine.Sample.policy with expectedGraphSha256 := hex '0', requiredTransitionIds := ["t1", "t2"] }

/-- Neither a key nor a payload shows its capitals. -/
theorem transitions_canonical {key key' payload payload' : String}
    (hkey : Canonical.normText (runtime document) key = Canonical.normText (runtime document) key')
    (hpayload : Canonical.normText (runtime document) payload = Canonical.normText (runtime document) payload') :
    (transitions key payload).canonical (runtime document) = (transitions key' payload').canonical (runtime document) := by
  have hlt : ∀ key payload, (runtime document).str first.toDict < (runtime document).str (second key payload).toDict := fun key payload =>
    str_lt (a := "t1") (b := "t2") (p := ['"', 't']) (c := '1') (d := '2') (x := ['"']) (y := ['"']) (by rfl) (by rfl) (by decide)
  have hitem : Canonical.normItem (runtime document) (second key payload).toDict =
      Canonical.normItem (runtime document) (second key' payload').toDict := by
    simp only [StateTransition.toDict, second, transition, Decision.normItem_obj, List.map_cons, Decision.normValue_opt,
      Option.map_some, hkey]
    simp only [Canonical.normItem.normValue, hpayload]
  unfold AgentStateTransitionManifest.canonical transitions
  dsimp only
  rw [normItems_pair (hlt key payload), normItems_pair (hlt key' payload'), hitem]

theorem transitions_document (m : AgentStateTransitionManifest) : m.canonical (runtime document) = m.canonical (runtime .null) := by
  have hcase : (runtime document).casefold = (runtime .null).casefold := rfl
  simp only [AgentStateTransitionManifest.canonical, Decision.normText_congr hcase, Decision.normItems_congr hcase rfl]

theorem sha256_document : (runtime document).sha256 document = hex '0' := by
  show Assurance.tabledDigest [document] document = hex '0'
  simp [Assurance.tabledDigest]

theorem transitions_digest {key payload : String} (hdocument : document = (transitions key payload).canonical (runtime .null)) :
    (transitions key payload).digest (runtime document) = hex '0' :=
  (congrArg (runtime document).sha256 ((transitions_document _).trans hdocument.symm)).trans sha256_document

/-- What is decided of the two transitions. -/
def transitionDecisions (document : Json) (key payload : String) : Option (List StateMachine.TransitionDecision) :=
  (StateMachine.derive (runtime document) transitionPolicy (transitions key payload) observations approvals messages 200).toOption.map
    fun r => r.1.map (·.decision)

def reused : Json := (transitions (hex 'a') (hex 'a')).canonical (runtime .null)

def keyed : Json := (transitions "k2" (hex 'a')).canonical (runtime .null)

theorem transitions_decided : transitionDecisions reused (hex 'a') (hex 'a') = some [.allow, .deny] ∧
    transitionDecisions reused capital (hex 'a') = some [.allow, .allow] ∧
    transitionDecisions keyed "k2" (hex 'a') = some [.allow, .allow] := by
  have hreused : (transitions (hex 'a') (hex 'a')).digest (runtime reused) = hex '0' := transitions_digest rfl
  have hcapital : (transitions capital (hex 'a')).digest (runtime reused) = hex '0' :=
    transitions_digest (transitions_canonical normText_capital rfl).symm
  have hkeyed : (transitions "k2" (hex 'a')).digest (runtime keyed) = hex '0' := transitions_digest rfl
  refine ⟨?_, ?_, ?_⟩
  all_goals
    simp only [transitionDecisions, StateMachine.derive, StateMachine.validateManifest, hreused, hcapital, hkeyed]
    decide +kernel

end Transitions

/-! ### Execution budgets -/

/-- A budget under which no operation is done twice. -/
def once : BudgetEnvelope := { root with maxRepeatedOperationCount := 1 }

/-- A step, and one after it that names its own operation or the same. -/
def earlier : ExecutionEvent := { retry once with eventId := "e1", operationKey := hex 'a' }

def later (key note : String) : ExecutionEvent :=
  { retry once with eventId := "e2", operationKey := key, description := note }

def events (key note : String) : ExecutionBudgetManifest :=
  { ExecutionBudget.Sample.manifest [once] [] once with events := [earlier, later key note] }

def budgetPolicy : ExecutionBudget.ExecutionBudgetPolicy :=
  { ExecutionBudget.Sample.policy (ExecutionBudget.Sample.manifest [once] [] once) (hex '0') with requiredEventIds := ["e1", "e2"] }

theorem events_canonical {key key' note note' : String}
    (hkey : Canonical.normText (runtime document) key = Canonical.normText (runtime document) key')
    (hnote : Canonical.normText (runtime document) note = Canonical.normText (runtime document) note') :
    (events key note).canonical (runtime document) = (events key' note').canonical (runtime document) := by
  have hlt : ∀ key note, (runtime document).str earlier.toDict < (runtime document).str (later key note).toDict := fun key note =>
    str_lt (a := "e1") (b := "e2") (p := ['"', 'e']) (c := '1') (d := '2') (x := ['"']) (y := ['"']) (by rfl) (by rfl) (by decide)
  have hitem : Canonical.normItem (runtime document) (later key note).toDict = Canonical.normItem (runtime document) (later key' note').toDict := by
    simp only [ExecutionEvent.toDict, later, Decision.normItem_obj, List.map_cons, Decision.normValue_opt]
    simp only [Canonical.normItem.normValue, hkey, hnote]
  unfold ExecutionBudgetManifest.canonical events
  dsimp only
  rw [normItems_pair (hlt key note), normItems_pair (hlt key' note'), hitem]

theorem events_document (m : ExecutionBudgetManifest) : m.canonical (runtime document) = m.canonical (runtime .null) := by
  have hcase : (runtime document).casefold = (runtime .null).casefold := rfl
  simp only [ExecutionBudgetManifest.canonical, Decision.normText_congr hcase, Decision.normItems_congr hcase rfl]

theorem events_digest {key note : String} (hdocument : document = (events key note).canonical (runtime .null)) :
    (events key note).digest (runtime document) = hex '0' :=
  (congrArg (runtime document).sha256 ((events_document _).trans hdocument.symm)).trans sha256_document

/-- What is decided of the run. -/
def runDecisions (document : Json) (key note : String) : Option (List ExecutionBudget.BudgetDecision) :=
  (ExecutionBudget.derive (runtime document) budgetPolicy (events key note) delegations steps
    ExecutionBudget.Sample.observations 200).toOption.map fun facts => facts.map (·.decision)

def repeated : Json := (events (hex 'a') "").canonical (runtime .null)

def named : Json := (events "find" (hex 'a')).canonical (runtime .null)

theorem run_decided : runDecisions repeated (hex 'a') "" = some [.deny] ∧ runDecisions repeated capital "" = some [.allow] ∧
    runDecisions named "find" (hex 'a') = some [.allow] := by
  have hrepeated : (events (hex 'a') "").digest (runtime repeated) = hex '0' := events_digest rfl
  have hcapital : (events capital "").digest (runtime repeated) = hex '0' := events_digest (events_canonical normText_capital rfl).symm
  have hnamed : (events "find" (hex 'a')).digest (runtime named) = hex '0' := events_digest rfl
  refine ⟨?_, ?_, ?_⟩
  all_goals
    simp only [runDecisions, ExecutionBudget.derive, ExecutionBudget.validateManifest, hrepeated, hcapital, hnamed]
    decide +kernel

/-! ### Two keys of the analyzer that are one key of the digest -/

/-- The digest of a manifest does not settle what is decided of it: of two manifests that differ in the capitals of one key, the key
is used again in one, and denied, and is another in the other. -/
theorem spelled_apart :
    (∃ rt p m m' p8d p8f p8g now, Folds rt ∧ Function.Injective rt.sha256 ∧ m.digest rt = m'.digest rt ∧
      ¬ SameOutcome (StateMachine.derive rt p m p8d p8f p8g now) (StateMachine.derive rt p m' p8d p8f p8g now)) ∧
    ∃ rt p m m' p8a p8c p8d now, Folds rt ∧ Function.Injective rt.sha256 ∧ m.digest rt = m'.digest rt ∧
      ¬ SameOutcome (ExecutionBudget.derive rt p m p8a p8c p8d now) (ExecutionBudget.derive rt p m' p8a p8c p8d now) := by
  constructor
  · have hsame : (transitions (hex 'a') (hex 'a')).digest (runtime reused) = (transitions capital (hex 'a')).digest (runtime reused) :=
      congrArg (runtime reused).sha256 (transitions_canonical normText_capital rfl).symm
    obtain ⟨r, hr, hdenied⟩ := Checks.ok_of_map transitions_decided.1
    obtain ⟨r', hr', hallowed⟩ := Checks.ok_of_map transitions_decided.2.1
    refine ⟨runtime reused, transitionPolicy, transitions (hex 'a') (hex 'a'), transitions capital (hex 'a'), StateMachine.Sample.observations,
      StateMachine.Sample.approvals, StateMachine.Sample.messages, 200, folds, injective reused, hsame, fun houtcome => ?_⟩
    obtain rfl := Except.ok.inj (((houtcome r).mp hr).symm.trans hr')
    cases hdenied.symm.trans hallowed
  · have hsame : (events (hex 'a') "").digest (runtime repeated) = (events capital "").digest (runtime repeated) :=
      congrArg (runtime repeated).sha256 (events_canonical normText_capital rfl).symm
    obtain ⟨facts, hfacts, hdenied⟩ := Checks.ok_of_map run_decided.1
    obtain ⟨facts', hfacts', hallowed⟩ := Checks.ok_of_map run_decided.2.1
    refine ⟨runtime repeated, budgetPolicy, events (hex 'a') "", events capital "", delegations,
      steps, ExecutionBudget.Sample.observations, 200, folds, injective repeated, hsame, fun houtcome => ?_⟩
    obtain rfl := Except.ok.inj (((houtcome facts).mp hfacts).symm.trans hfacts')
    cases hdenied.symm.trans hallowed

/-! ### Capitals that make no difference -/

theorem transitions_spelling (payload payload' : String) :
    OneSpelling (runtime document) ((transitions "k2" payload).texts ++ (transitions "k2" payload').texts) := by
  refine oneSpelling_of_normal fun s hs => ?_
  have hshort : ∀ s ∈ ["g", "1", "job", "acme", "ops", "t1", "ask", "planner", "alice", "t2", "k2"], s.length ≠ 64 := by decide
  have hin : s = hex 'a' ∨ s ∈ ["g", "1", "job", "acme", "ops", "t1", "ask", "planner", "alice", "t2", "k2"] := by
    simp [transitions, AgentStateTransitionManifest.texts, StateMachine.StateObject.texts, StateTransition.texts,
      StateMachine.Sample.manifest, StateMachine.Sample.job, first, second, StateMachine.Sample.transition] at hs ⊢
    tauto
  rcases hin with rfl | hin
  · exact normText_digit (by decide) (by decide)
  · exact normText_short (hshort s hin)

theorem events_spelling (note note' : String) :
    OneSpelling (runtime document) ((events "find" note).texts ++ (events "find" note').texts) := by
  refine oneSpelling_of_normal fun s hs => ?_
  have hshort : ∀ s ∈ ["g", "1", "small", "ops", "root", "alice", "acme", "goal", "r", "e1", "e2", "s", "find"], s.length ≠ 64 := by decide
  have hin : s = hex 'a' ∨ s ∈ ["g", "1", "small", "ops", "root", "alice", "acme", "goal", "r", "e1", "e2", "s", "find"] := by
    simp [events, ExecutionBudgetManifest.texts, ExecutionBudget.ModelCostRate.texts, BudgetEnvelope.texts,
      ExecutionBudget.ExecutionRun.texts, ExecutionEvent.texts, ExecutionBudget.Sample.manifest, ExecutionBudget.Sample.searchRun,
      once, root, ExecutionBudget.Sample.budget, earlier, later, retry] at hs ⊢
    tauto
  rcases hin with rfl | hin
  · exact normText_digit (by decide) (by decide)
  · exact normText_short (hshort s hin)

/-- A payload digest or a description may be spelled as one likes. -/
theorem decided_by_digest_respelled :
    (∃ r, StateMachine.derive (runtime keyed) transitionPolicy (transitions "k2" (hex 'a')) StateMachine.Sample.observations
        StateMachine.Sample.approvals StateMachine.Sample.messages 200 = .ok r ∧
      StateMachine.derive (runtime keyed) transitionPolicy (transitions "k2" capital) StateMachine.Sample.observations
        StateMachine.Sample.approvals StateMachine.Sample.messages 200 = .ok r) ∧
    ∃ facts, ExecutionBudget.derive (runtime named) budgetPolicy (events "find" (hex 'a')) delegations
        steps ExecutionBudget.Sample.observations 200 = .ok facts ∧
      ExecutionBudget.derive (runtime named) budgetPolicy (events "find" capital) delegations
        steps ExecutionBudget.Sample.observations 200 = .ok facts := by
  constructor
  · have hsame : (transitions "k2" (hex 'a')).digest (runtime keyed) = (transitions "k2" capital).digest (runtime keyed) :=
      congrArg (runtime keyed).sha256 (transitions_canonical rfl normText_capital.symm)
    obtain ⟨r, hr, -⟩ := Checks.ok_of_map transitions_decided.2.2
    refine ⟨r, hr, ?_⟩
    exact ((decided_by_digest folds (injective keyed)).1 _ _ _ _ _ _ _ hsame (transitions_spelling _ _) r).mp hr
  · have hsame : (events "find" (hex 'a')).digest (runtime named) = (events "find" capital).digest (runtime named) :=
      congrArg (runtime named).sha256 (events_canonical rfl normText_capital.symm)
    obtain ⟨facts, hfacts, -⟩ := Checks.ok_of_map run_decided.2.2
    refine ⟨facts, hfacts, ?_⟩
    exact ((decided_by_digest folds (injective named)).2 _ _ _ _ _ _ _ hsame (events_spelling _ _) facts).mp hfacts

end Sample

end Aegis.Agentic.PinnedDigests
