/-
  Aegis.Incidents.Lifecycle — incident records and their lifecycle (types.py, lifecycle.py).

  A record carries its whole history: the intake, and one hash-chained item for each transition.
  `validateRecord` recomputes every hash (`validateRecord_ok` says what it accepts: a path of the
  state graph, `PathFrom`). A boundary keeps, for each intake root, the digest it has seen at each
  position (`canonicalTransitions`) and refuses a record that disagrees with it.

  Records are values of the caller's. Digests are hexadecimal and are compared up to letter case.
-/

import Aegis.Assurance.Regression

namespace Aegis.Incidents

open Data Data.Checks
open Assurance (Runtime)
open Agentic (Dict hex)

def P15_LIFECYCLE_SCHEMA_VERSION : String := "aegis-incident-lifecycle-v1"
def P15_INTAKE_ROOT_DOMAIN : String := "aegis-p15-incident-intake-root-v1"
def P15_TRANSITION_DOMAIN : String := "aegis-p15-incident-lifecycle-transition-v1"
def ZERO_SHA256 : String := hex '0'

/-- What returns, or raises a ValueError with a text. -/
abbrev Checked (α : Type) := Except String α

inductive IncidentLifecycleState where
  | open
  | acknowledged
  | investigating
  | contained
  | resolved
  | closed
  deriving DecidableEq, Repr

namespace IncidentLifecycleState

def value : IncidentLifecycleState → String
  | .open => "open"
  | acknowledged => "acknowledged"
  | investigating => "investigating"
  | contained => "contained"
  | resolved => "resolved"
  | closed => "closed"

theorem value_injective : Function.Injective value := by
  intro a b
  cases a <;> cases b <;> simp [value]

end IncidentLifecycleState

/-- `_ALLOWED_TRANSITIONS`. -/
def allowedTransitions : IncidentLifecycleState → List IncidentLifecycleState
  | .open => [.acknowledged]
  | .acknowledged => [.investigating]
  | .investigating => [.contained, .resolved]
  | .contained => [.resolved]
  | .resolved => [.closed]
  | .closed => []

/-- What the digests cover of an intake record. -/
structure IncidentIntakeRecord where
  incidentId : String
  tenantRef : String
  workloadRef : String
  contributingEventIds : List String
  evidenceReferences : List (String × String)
  deriving DecidableEq, Repr

structure IncidentLifecycleTransition where
  incidentId : String
  intakeRootSha256 : String
  sequence : Int
  fromState : IncidentLifecycleState
  toState : IncidentLifecycleState
  previousTransitionSha256 : String
  transitionSha256 : String
  deriving DecidableEq, Repr

structure IncidentLifecycleRecord where
  intake : IncidentIntakeRecord
  intakeRootSha256 : String
  state : IncidentLifecycleState
  transitions : List IncidentLifecycleTransition := []
  schemaVersion : String := P15_LIFECYCLE_SCHEMA_VERSION
  deriving DecidableEq, Repr

def IncidentLifecycleRecord.incidentId (r : IncidentLifecycleRecord) : String := r.intake.incidentId

/-- Digests are written in small letters, which `casefold` leaves alone. -/
structure Lowercase (rt : Runtime) : Prop where
  digest : ∀ j, rt.casefold (rt.sha256 j) = rt.sha256 j
  zero : rt.casefold ZERO_SHA256 = ZERO_SHA256

section
variable (rt : Runtime)

/-! ## Digests -/

def references (pairs : List (String × String)) : Json := .arr (pairs.map fun p => .arr [.str p.1, .str p.2])

def intakeRootMaterial (intake : IncidentIntakeRecord) : Json := .obj [
  ("contributing_event_ids", .arr (intake.contributingEventIds.map .str)), ("domain", .str P15_INTAKE_ROOT_DOMAIN),
  ("evidence_references", references intake.evidenceReferences), ("incident_id", .str intake.incidentId),
  ("tenant_ref", .str intake.tenantRef), ("workload_ref", .str intake.workloadRef)]

def validateIntake (intake : IncidentIntakeRecord) : Checked Unit :=
  raiseIf (intake.incidentId = "" ∨ intake.tenantRef = "" ∨ intake.workloadRef = "" ∨ intake.contributingEventIds = [] ∨
    intake.evidenceReferences = []) "INCIDENT_INTAKE_RECORD_INVALID"

def intakeRootDigest (intake : IncidentIntakeRecord) : Checked String := do
  validateIntake intake
  return rt.sha256 (intakeRootMaterial intake)

def transitionMaterial (incidentId intakeRootSha256 : String) (sequence : Int) (fromState toState : IncidentLifecycleState)
    (previousTransitionSha256 : String) : Json := .obj [
  ("domain", .str P15_TRANSITION_DOMAIN), ("from_state", .str fromState.value), ("incident_id", .str incidentId),
  ("intake_root_sha256", .str (rt.casefold intakeRootSha256)),
  ("previous_transition_sha256", .str (rt.casefold previousTransitionSha256)), ("sequence", .int sequence),
  ("to_state", .str toState.value)]

def transitionDigest (incidentId intakeRootSha256 : String) (sequence : Int) (fromState toState : IncidentLifecycleState)
    (previousTransitionSha256 : String) : String :=
  rt.sha256 (transitionMaterial rt incidentId intakeRootSha256 sequence fromState toState previousTransitionSha256)

/-- The digest that an item should have. -/
def IncidentLifecycleTransition.digest (t : IncidentLifecycleTransition) : String :=
  transitionDigest rt t.incidentId t.intakeRootSha256 t.sequence t.fromState t.toState t.previousTransitionSha256

/-! ## Validation -/

/-- The loop of `_validate_record`, from an item on; the state that the items lead to. -/
def validateChain (r : IncidentLifecycleRecord) (sequence : Int) (expectedState : IncidentLifecycleState) (previous : String) :
    List IncidentLifecycleTransition → Checked IncidentLifecycleState
  | [] => .ok expectedState
  | item :: rest => do
    raiseIf (item.incidentId ≠ r.incidentId ∨ rt.casefold item.intakeRootSha256 ≠ rt.casefold r.intakeRootSha256 ∨
      item.sequence ≠ sequence ∨ item.fromState ≠ expectedState ∨ item.toState ∉ allowedTransitions expectedState ∨
      rt.casefold item.previousTransitionSha256 ≠ previous ∨ rt.casefold item.transitionSha256 ≠ item.digest rt)
      "INCIDENT_LIFECYCLE_CHAIN_INVALID"
    validateChain r (sequence + 1) item.toState (rt.casefold item.transitionSha256) rest

def validateRecord (r : IncidentLifecycleRecord) : Checked Unit := do
  validateIntake r.intake
  raiseIf (r.schemaVersion ≠ P15_LIFECYCLE_SCHEMA_VERSION) "INCIDENT_LIFECYCLE_SCHEMA_INVALID"
  let root ← intakeRootDigest rt r.intake
  raiseIf (rt.casefold r.intakeRootSha256 ≠ root) "INCIDENT_LIFECYCLE_INTAKE_ROOT_INVALID"
  let expectedState ← validateChain rt r 1 .open ZERO_SHA256 r.transitions
  raiseIf (r.state ≠ expectedState) "INCIDENT_LIFECYCLE_STATE_INVALID"

/-- An item of `r` at a position, after an item with the digest `previous`. -/
structure Follows (r : IncidentLifecycleRecord) (sequence : Int) (s : IncidentLifecycleState) (previous : String)
    (item : IncidentLifecycleTransition) : Prop where
  incidentId : item.incidentId = r.incidentId
  root : rt.casefold item.intakeRootSha256 = rt.casefold r.intakeRootSha256
  sequence : item.sequence = sequence
  fromState : item.fromState = s
  toState : item.toState ∈ allowedTransitions s
  previous : rt.casefold item.previousTransitionSha256 = previous
  digest : rt.casefold item.transitionSha256 = item.digest rt

/-- The items are numbered, and lead along the state graph, each with the hash of the one before it. -/
def PathFrom (r : IncidentLifecycleRecord) (sequence : Int) (s : IncidentLifecycleState) (previous : String) :
    List IncidentLifecycleTransition → IncidentLifecycleState → Prop
  | [], s' => s = s'
  | item :: rest, s' => Follows rt r sequence s previous item ∧
    PathFrom r (sequence + 1) item.toState (rt.casefold item.transitionSha256) rest s'

/-- What `_validate_record` accepts. -/
structure IncidentLifecycleRecord.Valid (r : IncidentLifecycleRecord) : Prop where
  intake : validateIntake r.intake = .ok ()
  schemaVersion : r.schemaVersion = P15_LIFECYCLE_SCHEMA_VERSION
  root : rt.casefold r.intakeRootSha256 = rt.sha256 (intakeRootMaterial r.intake)
  path : PathFrom rt r 1 .open ZERO_SHA256 r.transitions r.state

end

section
variable {rt : Runtime} {r : IncidentLifecycleRecord} {items rest : List IncidentLifecycleTransition} {n : Int}
  {s s' : IncidentLifecycleState} {previous : String} {item : IncidentLifecycleTransition} {intake : IncidentIntakeRecord}

@[simp] theorem intakeRootDigest_ok {d : String} : intakeRootDigest rt intake = .ok d ↔
    validateIntake intake = .ok () ∧ rt.sha256 (intakeRootMaterial intake) = d := by
  simp only [intakeRootDigest, ok_seq]
  exact and_congr_right fun _ => ⟨Except.ok.inj, congrArg Except.ok⟩

theorem validateChain_ok : validateChain rt r n s previous items = .ok s' ↔ PathFrom rt r n s previous items s' := by
  induction items generalizing n s previous with
  | nil => exact ⟨Except.ok.inj, congrArg Except.ok⟩
  | cons item rest ih =>
    simp only [validateChain, ok_seq, raiseIf_ok, not_or, not_not, ih, PathFrom]
    constructor
    · rintro ⟨⟨h1, h2, h3, h4, h5, h6, h7⟩, hrest⟩
      exact ⟨⟨h1, h2, h3, h4, h5, h6, h7⟩, hrest⟩
    · rintro ⟨⟨h1, h2, h3, h4, h5, h6, h7⟩, hrest⟩
      exact ⟨⟨h1, h2, h3, h4, h5, h6, h7⟩, hrest⟩

theorem validateRecord_ok : validateRecord rt r = .ok () ↔ r.Valid rt := by
  simp only [validateRecord, ok_seq, raiseIf_ok, not_not]
  constructor
  · rintro ⟨hintake, hschema, h⟩
    obtain ⟨root, hroot, h⟩ := ok_bind.mp h
    obtain ⟨hr, h⟩ := ok_seq.mp h
    obtain ⟨expected, hchain, hstate⟩ := ok_bind.mp h
    obtain ⟨-, rfl⟩ := intakeRootDigest_ok.mp hroot
    rw [raiseIf_ok, not_not] at hr hstate
    subst hstate
    exact ⟨hintake, hschema, hr, validateChain_ok.mp hchain⟩
  · rintro ⟨hintake, hschema, hroot, hpath⟩
    refine ⟨hintake, hschema, ok_bind.mpr ⟨_, intakeRootDigest_ok.mpr ⟨hintake, rfl⟩, ok_seq.mpr ⟨?_, ?_⟩⟩⟩
    · rw [raiseIf_ok, not_not]
      exact hroot
    · refine ok_bind.mpr ⟨_, validateChain_ok.mpr hpath, ?_⟩
      rw [raiseIf_ok, not_not]

end

/-! ## The boundary -/

/-- The digest recorded at each position. -/
abbrev Chain := Int → Option String

namespace Chain

def set (chain : Chain) (k : Int) (digest : String) : Chain := fun j => if j = k then some digest else chain j

@[simp] theorem set_self (chain : Chain) (k : Int) (d : String) : chain.set k d k = some d := if_pos rfl

theorem set_ne {chain : Chain} {j k : Int} {d : String} (h : j ≠ k) : chain.set k d j = chain j := if_neg h

/-- What is recorded is recorded again. -/
theorem set_recorded {chain : Chain} {k : Int} {d : String} (h : chain k = some d) : chain.set k d = chain := by
  funext j
  by_cases hj : j = k
  · rw [hj, set_self, h]
  · rw [set_ne hj]

end Chain

/-- `IncidentLifecycleBoundary`: what it keeps, by intake root. -/
structure IncidentLifecycleBoundary where
  canonicalTransitions : Dict Chain

namespace IncidentLifecycleBoundary

/-- `__init__`. -/
def fresh : IncidentLifecycleBoundary := ⟨fun _ => none⟩

/-- `setdefault(root, {})`. -/
def chain (b : IncidentLifecycleBoundary) (root : String) : Chain := (b.canonicalTransitions root).getD fun _ => none

end IncidentLifecycleBoundary

def FORK_INVALID : String := "INCIDENT_LIFECYCLE_FORK_INVALID"

section
variable (rt : Runtime)

/-- The loop of `_bind_chain`. -/
def bindItems (canonical : Chain) : List IncidentLifecycleTransition → Checked Unit × Chain
  | [] => (.ok (), canonical)
  | item :: rest =>
    let digest := rt.casefold item.transitionSha256
    if (canonical item.sequence).isSome = true ∧ canonical item.sequence ≠ some digest then (.error FORK_INVALID, canonical)
    else bindItems (Chain.set canonical item.sequence digest) rest

/-- `_bind_chain`; what the loop wrote stays when it raises. -/
def bindChain (b : IncidentLifecycleBoundary) (r : IncidentLifecycleRecord) : Checked Unit × IncidentLifecycleBoundary :=
  let root := rt.casefold r.intakeRootSha256
  let bound := bindItems rt (b.chain root) r.transitions
  (bound.1, ⟨b.canonicalTransitions.set root bound.2⟩)

def openRecord (intake : IncidentIntakeRecord) (root : String) : IncidentLifecycleRecord where
  intake := intake
  intakeRootSha256 := root
  state := .open

/-- `open`. -/
def openIncident (b : IncidentLifecycleBoundary) (intake : IncidentIntakeRecord) :
    Checked IncidentLifecycleRecord × IncidentLifecycleBoundary :=
  match validateIntake intake, intakeRootDigest rt intake with
  | .ok (), .ok root =>
    let r := openRecord intake root
    match bindChain rt b r with
    | (.ok (), b') => (.ok r, b')
    | (.error e, b') => (.error e, b')
  | .error e, _ => (.error e, b)
  | _, .error e => (.error e, b)

/-- `record.transitions[-1].transition_sha256 if record.transitions else ZERO_SHA256`. -/
def head (r : IncidentLifecycleRecord) : String := (r.transitions.getLast?.map (·.transitionSha256)).getD ZERO_SHA256

def newItem (r : IncidentLifecycleRecord) (toState : IncidentLifecycleState) : IncidentLifecycleTransition where
  incidentId := r.incidentId
  intakeRootSha256 := r.intakeRootSha256
  sequence := r.transitions.length + 1
  fromState := r.state
  toState := toState
  previousTransitionSha256 := head r
  transitionSha256 := transitionDigest rt r.incidentId r.intakeRootSha256 (r.transitions.length + 1) r.state toState (head r)

def extend (r : IncidentLifecycleRecord) (toState : IncidentLifecycleState) : IncidentLifecycleRecord where
  intake := r.intake
  intakeRootSha256 := r.intakeRootSha256
  state := toState
  transitions := r.transitions ++ [newItem rt r toState]

/-- `transition`. -/
def transition (b : IncidentLifecycleBoundary) (r : IncidentLifecycleRecord) (toState : IncidentLifecycleState) :
    Checked IncidentLifecycleRecord × IncidentLifecycleBoundary :=
  match validateRecord rt r with
  | .error e => (.error e, b)
  | .ok () =>
    match bindChain rt b r with
    | (.error e, b') => (.error e, b')
    | (.ok (), b') =>
      -- reapplying the latest completed transition is a replay
      if r.transitions ≠ [] ∧ toState = r.state then (.ok r, b')
      else if toState ∉ allowedTransitions r.state then (.error "INCIDENT_LIFECYCLE_TRANSITION_INVALID", b')
      else
        match bindChain rt b' (extend rt r toState) with
        | (.error e, b'') => (.error e, b'')
        | (.ok (), b'') => (.ok (extend rt r toState), b'')

end

theorem openRecord_valid {rt : Runtime} {intake : IncidentIntakeRecord} (hl : Lowercase rt) (h : validateIntake intake = .ok ()) :
    (openRecord intake (rt.sha256 (intakeRootMaterial intake))).Valid rt where
  intake := h
  schemaVersion := rfl
  root := hl.digest _
  path := rfl

/-! ## An incident -/

namespace Sample

/-- Every text has a digest of its own; `casefold` makes letters small. -/
def runtime : Runtime where
  toHashing := .unary
  casefold s := String.ofList (s.toList.map Char.toLower)

theorem injective : Function.Injective runtime.sha256 := Hashing.unary_injective

theorem casefold_replicate (n : Nat) (c : Char) :
    runtime.casefold (String.ofList (List.replicate n c)) = String.ofList (List.replicate n c.toLower) := by
  show String.ofList ((String.ofList (List.replicate n c)).toList.map Char.toLower) = _
  rw [String.toList_ofList, List.map_replicate]

theorem lowercase : Lowercase runtime where
  digest _ := casefold_replicate _ 'h'
  zero := casefold_replicate _ '0'

def intake : IncidentIntakeRecord where
  incidentId := "incident"
  tenantRef := "tenant"
  workloadRef := "workload"
  contributingEventIds := ["event"]
  evidenceReferences := [("tenant_ref", "tenant")]

theorem intake_valid : validateIntake intake = .ok () := by
  simp [validateIntake, intake, raiseIf]

def opened (rt : Runtime) : IncidentLifecycleRecord := openRecord intake (rt.sha256 (intakeRootMaterial intake))

theorem opened_valid {rt : Runtime} (hl : Lowercase rt) : (opened rt).Valid rt := openRecord_valid hl intake_valid

end Sample

end Aegis.Incidents
