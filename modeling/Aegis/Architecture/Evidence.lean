/-
  Aegis.Architecture.Evidence — what the analyzers of Phase 7 share: the P6-D posture they read,
  sets of identifiers, and the status of the controls along a path.

  A set is given by the list of its elements; `distinct` is `sorted(set)`. Every analyzer reads the
  status of each control from the assessments of the posture, and sorts the controls of a path by it
  (`tally`); when satisfied controls come to lack evidence, the other two sets of the tally only grow
  (`Weakened.length_le`).
-/

import Aegis.Assurance.Posture

namespace Aegis.Architecture

open Data Data.Checks
open Agentic (Dict sameSet)
open Assurance.Posture (ControlStatus ControlPostureAssessment VerifiedSecurityPosture)

/-- What an analyzer raises: its own rejection, the KeyError of a lookup, or the TypeError of `compare_digest`. -/
inductive Raised (ρ : Type) where
  | rejected (r : ρ)
  | key (k : String)
  | type
  deriving DecidableEq, Repr

abbrev Checked (ρ α : Type) := Except (Raised ρ) α

variable {ρ α : Type} {xs ys : List String}

def rejectIf (c : Prop) [Decidable c] (r : ρ) : Checked ρ Unit := raiseIf c (.rejected r)

/-- `d[k]`. -/
def getItem (d : Dict α) (k : String) : Checked ρ α := orRaise (.key k) (d k)

@[simp] theorem rejectIf_ok {c : Prop} [Decidable c] {r : ρ} {u : Unit} : rejectIf c r = .ok u ↔ ¬ c := raiseIf_ok

@[simp] theorem getItem_ok {d : Dict α} {k : String} {a : α} : (getItem d k : Checked ρ α) = .ok a ↔ d k = some a := orRaise_ok

/-- `hmac.compare_digest(a, b)`, which takes ASCII texts only. -/
def compareDigest (a b : String) : Checked ρ Bool :=
  if (a.toList ++ b.toList).all fun c => c.toNat < 128 then .ok (a = b) else .error .type

/-- `if not hmac.compare_digest(a, b): raise r`. -/
def rejectUnequal (a b : String) (r : ρ) : Checked ρ Unit := do
  let same ← compareDigest a b
  rejectIf (¬ same) r

/-- `x or None`. -/
def orNone (s : String) : Option String := if s = "" then none else some s

def texts (xs : List String) : Json := .arr (xs.map .str)

/-! ## Sets of identifiers -/

/-- `sorted(set(xs))`. -/
def distinct (xs : List String) : List String := sortOn id xs.dedup

@[simp] theorem mem_distinct {x : String} : x ∈ distinct xs ↔ x ∈ xs := by
  simp [distinct]

theorem nodup_distinct (xs : List String) : (distinct xs).Nodup := (perm_sortOn id _).nodup_iff.mpr (List.nodup_dedup xs)

theorem distinct_eq_nil : distinct xs = [] ↔ xs = [] := by
  rw [List.eq_nil_iff_forall_not_mem, List.eq_nil_iff_forall_not_mem]
  simp

theorem length_distinct_le (h : ∀ x ∈ xs, x ∈ ys) : (distinct xs).length ≤ (distinct ys).length := by
  refine ((nodup_distinct xs).subperm fun x hx => ?_).length_le
  rw [mem_distinct] at hx ⊢
  exact h x hx

/-- Every required id is a key of the mapping. -/
def covers (required : List String) (mapping : List (String × α)) : Prop := ∀ i ∈ required, i ∈ mapping.map Prod.fst

instance decidableCovers (required : List String) (mapping : List (String × α)) : Decidable (covers required mapping) :=
  inferInstanceAs (Decidable (∀ i ∈ required, i ∈ mapping.map Prod.fst))

/-! ## The posture -/

def P6D_POSTURE_EVIDENCE_SCHEMA_VERSION : String := "aegis-ai-security-posture-evidence-v1"

/-- `VerifiedSecurityPosture`, with what it says of itself. -/
structure SecurityPosture extends VerifiedSecurityPosture where
  exactReleaseIdentityVerified : Bool := true
  exactUpstreamEvidenceBindingVerified : Bool := true
  controlCatalogVerified : Bool := true
  statusDerivedFromEvidence : Bool := true
  missingEvidenceVisible : Bool := true
  exceptionScopeVisible : Bool := true
  callerDeclaredGreenTrusted : Bool := false
  networkOperations : Int := 0
  schemaVersion : String := P6D_POSTURE_EVIDENCE_SCHEMA_VERSION

/-- What makes a posture intact, for P7-A, P7-B and P7-C; their checks of its digests come beside it. -/
def SecurityPosture.Intact (p : SecurityPosture) : Prop :=
  p.schemaVersion = P6D_POSTURE_EVIDENCE_SCHEMA_VERSION ∧ p.exactReleaseIdentityVerified ∧ p.exactUpstreamEvidenceBindingVerified ∧
    p.controlCatalogVerified ∧ p.statusDerivedFromEvidence ∧ p.missingEvidenceVisible ∧ p.exceptionScopeVisible ∧
    ¬ p.callerDeclaredGreenTrusted ∧ p.networkOperations = 0

instance decidableIntact (p : SecurityPosture) : Decidable p.Intact := inferInstanceAs (Decidable (_ ∧ _))

variable (rt : Assurance.Runtime)

/-- `controls[assessment.control_id] = assessment.status`, over assessments with ids of their own. -/
def controlStatuses (assessments : List ControlPostureAssessment) : Dict ControlStatus :=
  Dict.mapping (assessments.map fun a => (a.controlId, a.status))

/-- `{control_id for control_id, status in controls.items() if status == s}`. -/
def controlsWith (assessments : List ControlPostureAssessment) (s : ControlStatus) : List String :=
  (assessments.filter fun a => a.status = s).map (·.controlId)

/-- How P7-A, P7-B and P7-C reject the assessments of a posture; the first two take a control id. -/
structure ControlRejections (ρ : Type) where
  invalid : String → ρ
  duplicate : String → ρ
  count : ρ
  status : ρ

/-- The loop over the assessments, and the checks of the lists beside them. -/
def postureControls (r : ControlRejections ρ) (s : SecurityPosture) : Checked ρ (Dict ControlStatus) := do
  scan (fun seen a => do
    rejectIf (a.controlId = "" ∨ ¬ Assurance.isSha256 rt a.evidenceSha256) (r.invalid a.controlId)
    rejectIf (a.controlId ∈ seen.map ControlPostureAssessment.controlId) (r.duplicate a.controlId)) [] s.assessments
  rejectIf (s.controlCount ≠ s.assessments.length) r.count
  rejectIf (¬ sameSet s.satisfiedControlIds (controlsWith s.assessments .satisfied) ∨
    ¬ sameSet s.exceptionedControlIds (controlsWith s.assessments .exceptioned) ∨
    ¬ sameSet s.notEvaluatedControlIds (controlsWith s.assessments .notEvaluated)) r.status
  return controlStatuses s.assessments

/-! ## The controls of a path -/

structure Tally where
  satisfied : List String
  exceptioned : List String
  notEvaluated : List String
  deriving DecidableEq, Repr

/-- The controls that have status `s`. -/
def withStatus (controls : Dict ControlStatus) (required : List String) (s : ControlStatus) : List String :=
  distinct (required.filter fun c => controls c = some s)

/-- The loop over the required controls of a path: each is looked up, and goes to the set of its status. -/
def tally (controls : Dict ControlStatus) (required : List String) : Checked ρ Tally := do
  forEach (fun c => raiseIf (controls c = none) (.key c)) required
  return ⟨withStatus controls required .satisfied, withStatus controls required .exceptioned, withStatus controls required .notEvaluated⟩

/-- Only satisfied controls change, and they come to lack evidence or to be excepted. -/
def Weakened (controls controls' : Dict ControlStatus) : Prop :=
  ∀ c, controls' c = controls c ∨ controls c = some .satisfied ∧ (controls' c = some .notEvaluated ∨ controls' c = some .exceptioned)

variable {controls controls' : Dict ControlStatus} {required : List String} {s : ControlStatus}

@[simp] theorem mem_withStatus {c : String} : c ∈ withStatus controls required s ↔ c ∈ required ∧ controls c = some s := by
  simp [withStatus]

theorem tally_ok {t : Tally} : (tally controls required : Checked ρ Tally) = .ok t ↔ (∀ c ∈ required, controls c ≠ none) ∧
    t = ⟨withStatus controls required .satisfied, withStatus controls required .exceptioned, withStatus controls required .notEvaluated⟩ := by
  simp only [tally, ok_seq, forEach_ok, raiseIf_ok, ne_eq]
  refine and_congr_right fun _ => ?_
  exact ⟨fun h => (Except.ok.inj h).symm, fun h => h ▸ rfl⟩

/-- Some control of the path is not satisfied. -/
theorem unsatisfied_iff (hknown : ∀ c ∈ required, controls c ≠ none) :
    (withStatus controls required .exceptioned ≠ [] ∨ withStatus controls required .notEvaluated ≠ []) ↔
      ∃ c ∈ required, controls c ≠ some .satisfied := by
  constructor
  · rintro (h | h) <;> obtain ⟨c, hc⟩ := List.exists_mem_of_ne_nil _ h <;> obtain ⟨hc, hs⟩ := mem_withStatus.mp hc
    all_goals exact ⟨c, hc, by simp [hs]⟩
  · rintro ⟨c, hc, hne⟩
    cases hs : controls c with
    | none => exact absurd hs (hknown c hc)
    | some s =>
      cases s with
      | satisfied => exact absurd hs hne
      | exceptioned => exact .inl (List.ne_nil_of_mem (mem_withStatus.mpr ⟨hc, hs⟩))
      | notEvaluated => exact .inr (List.ne_nil_of_mem (mem_withStatus.mpr ⟨hc, hs⟩))

section

variable (h : Weakened controls controls')
include h

theorem Weakened.subset (hs : s ≠ .satisfied) :
    ∀ c ∈ required.filter (fun c => controls c = some s), c ∈ required.filter (fun c => controls' c = some s) := by
  intro c hc
  simp only [List.mem_filter, decide_eq_true_eq] at hc ⊢
  refine ⟨hc.1, ?_⟩
  rcases h c with h | ⟨h, -⟩
  · rw [h]
    exact hc.2
  · rw [hc.2] at h
    exact absurd (Option.some.inj h) hs

theorem Weakened.length_le (hs : s ≠ .satisfied) :
    (withStatus controls required s).length ≤ (withStatus controls' required s).length := length_distinct_le (h.subset hs)

theorem Weakened.known {c : String} (hc : controls c ≠ none) : controls' c ≠ none := by
  rcases h c with h | ⟨-, h | h⟩ <;> rw [h]
  · exact hc
  all_goals simp

end

end Aegis.Architecture
