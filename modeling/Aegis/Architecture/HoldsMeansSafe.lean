/-
  Aegis.Architecture.HoldsMeansSafe — what P7-I means by an invariant that holds.

  The state of an invariant comes from its violating bindings other than those to controls, and from
  its required controls; score and blast radius come from the state.
  - `invariantFact_read`: a fact, by what is unsafe and what is not satisfied.
  - `blastScore_le`: the score rises with the state and with every count.
  - `radius_count`: the blast radius counts the entities of the invariants that do not hold.
  - `holds_means_safe_iff`: an invariant holds if and only if all of it is safe, and more unsafe
    evidence never makes it better, unless an unsatisfied control is bound and not required.
  - `Sample.concealed`: an invariant that holds with a violating binding.
-/

import Mathlib.Data.Finset.Dedup
import Aegis.Architecture.InvariantBlastRadius

namespace Aegis.Architecture.InvariantBlastRadius

open Data Data.Checks
open Agentic (Dict Runtime sameSet)
open Agentic.Evidence (elements getattr)

section
variable {rt : Runtime} {p : InvariantBlastRadiusPolicy}

/-! ## What the evidence says -/

/-- The objects of the evidence, and the statuses of its controls. -/
def Evidence.catalogs (rt : Runtime) (e : Evidence) : Catalogs :=
  catalogsOf (specs.map fun s => (s.source, collectUnique rt (elements (getattr (s.evidence e) s.collection .nil)) s.idAttr))
    (controlStatuses rt e.posture)

def Evidence.statuses (rt : Runtime) (e : Evidence) : Dict String := Dict.mapping (controlStatuses rt e.posture)

/-- The object of a binding is unsafe: for a control, it is not satisfied. -/
def Unsafe (rt : Runtime) (e : Evidence) (bindingId : String) : Prop :=
  (judge (e.catalogs rt) (e.statuses rt) bindingId).toOption = some true

instance decidableUnsafe (e : Evidence) (bindingId : String) : Decidable (Unsafe rt e bindingId) := inferInstanceAs (Decidable (_ = _))

def Satisfied (rt : Runtime) (e : Evidence) (controlId : String) : Prop := e.statuses rt controlId = some "satisfied"

instance decidableSatisfied (e : Evidence) (controlId : String) : Decidable (Satisfied rt e controlId) := inferInstanceAs (Decidable (_ = _))

/-- No required binding of the invariant is unsafe, and every required control is satisfied. -/
def Safe (rt : Runtime) (e : Evidence) (i : ArchitectureInvariant) : Prop :=
  (∀ b ∈ i.requiredBindingIds, ¬ Unsafe rt e b) ∧ ∀ c ∈ i.requiredControlIds, Satisfied rt e c

/-- What is unsafe of the invariant is bound controls, and the required controls are other ones. -/
def Concealed (rt : Runtime) (e : Evidence) (i : ArchitectureInvariant) : Prop :=
  (∃ b ∈ i.requiredBindingIds, Unsafe rt e b) ∧ (∀ b ∈ i.requiredBindingIds, Unsafe rt e b → ofControl b = true) ∧
    ∀ c ∈ i.requiredControlIds, Satisfied rt e c

variable {e : Evidence}

theorem validateUpstreams_read {catalogs : Catalogs} {statuses : Dict String}
    (h : validateUpstreams rt p e = .ok (catalogs, statuses)) : catalogs = e.catalogs rt ∧ statuses = e.statuses rt := by
  simp only [validateUpstreams, ok_bind] at h
  obtain ⟨inventories, hinventories, controls, hcontrols, he⟩ := h
  obtain ⟨rfl, rfl⟩ := Prod.mk.inj (Except.ok.inj he)
  have hread : controls = controlStatuses rt e.posture := by
    simp only [validatePosture, ok_bind] at hcontrols
    obtain ⟨-, -, -, -, -, -, -, -, -, -, -, -, -, -, hcontrols⟩ := hcontrols
    exact (Except.ok.inj hcontrols).symm
  have hall : inventories =
      specs.map fun s => (s.source, collectUnique rt (elements (getattr (s.evidence e) s.collection .nil)) s.idAttr) := by
    refine (List.map_id _).symm.trans (map_eq_of_forall₂ (fun s x hx => ?_) (gather_ok.mp hinventories)).symm
    simp only [validateUpstream, ok_bind] at hx
    obtain ⟨-, -, -, -, -, -, hx⟩ := hx
    exact Except.ok.inj hx
  rw [hread, hall]
  exact ⟨rfl, rfl⟩

/-! ## One fact -/

/-- The items with a good result, of the results gathered beside the items. -/
theorem filter_gathered {ε α β : Type} {g : α → Except ε β} (P : β → Bool) {xs : List α} {ys : List (α × β)}
    (h : gather (fun x => do let y ← g x; return (x, y)) xs = .ok ys) :
    (ys.filter fun y => P y.2).map Prod.fst = xs.filter fun x => (g x).toOption.any P := by
  have hall := gather_ok.mp h
  induction hall with
  | nil => rfl
  | @cons x y xs ys hxy hrest ih =>
    simp only [ok_bind] at hxy
    obtain ⟨b, hb, he⟩ := hxy
    obtain rfl := Except.ok.inj he
    have hrest := ih (gather_ok.mpr hrest)
    have hany : Option.any P (g x).toOption = P b := by
      rw [hb]
      rfl
    rw [List.filter_cons, List.filter_cons, hany]
    by_cases hP : P b = true
    · rw [if_pos hP, if_pos hP, List.map_cons, hrest]
    · rw [if_neg hP, if_neg hP, hrest]

/-- A fact, by what is unsafe and what is not satisfied. -/
structure Reads (rt : Runtime) (e : Evidence) (i : ArchitectureInvariant) (f : InvariantBlastRadiusFact) : Prop where
  invariantId : f.invariantId = i.invariantId
  violating : f.violatingBindingIds = (sortOn id i.requiredBindingIds).filter fun b => Unsafe rt e b
  degraded : f.degradedControlIds = sortOn id (i.requiredControlIds.filter fun c => ¬ Satisfied rt e c)
  state : f.state = stateOf f.violatingBindingIds f.degradedControlIds
  units : f.blastRadiusUnits = if f.state ≠ .holds then ((blastEntities i).length : Int) else 0
  score : f.blastRadiusScore = blastScore i.severity f.state (distinct (f.violatingBindingIds.map sourceOf)).length f.blastRadiusUnits
    f.violatingBindingIds.length

variable {i : ArchitectureInvariant} {severity : InvariantSeverity} {e' : Evidence}

theorem invariantFact_read {f : InvariantBlastRadiusFact}
    (h : invariantFact (e.catalogs rt) (e.statuses rt) i = .ok f) : Reads rt e i f := by
  unfold invariantFact at h
  rw [ok_bind] at h
  obtain ⟨controls, hcontrols, h⟩ := h
  rw [ok_bind] at h
  obtain ⟨judged, hjudged, h⟩ := h
  obtain rfl := Except.ok.inj h
  refine ⟨rfl, ?_, ?_, rfl, rfl, rfl⟩
  · refine (filter_gathered (fun y => y) hjudged).trans (List.filter_congr fun b _ => ?_)
    show (judge (e.catalogs rt) (e.statuses rt) b).toOption.any (fun y => y) =
      decide ((judge (e.catalogs rt) (e.statuses rt) b).toOption = some true)
    cases (judge (e.catalogs rt) (e.statuses rt) b).toOption with
    | none => rfl
    | some y => cases y <;> rfl
  · have hunsatisfied : ∀ c ∈ i.requiredControlIds, (getItem (e.statuses rt) c : Gate String).toOption.any (fun s => s ≠ "satisfied") =
        decide (¬ Satisfied rt e c) := by
      intro c hc
      obtain ⟨y, -, hy⟩ := mem_gather hcontrols hc
      simp only [ok_bind, getItem_ok] at hy
      obtain ⟨status, hstatus, -⟩ := hy
      show (orRaise (.key c) (e.statuses rt c) : Gate String).toOption.any (fun s => s ≠ "satisfied") = decide (¬ e.statuses rt c = some "satisfied")
      rw [hstatus]
      simp [orRaise, Except.toOption]
    exact congrArg (sortOn id) ((filter_gathered (fun s => s ≠ "satisfied") hcontrols).trans (List.filter_congr hunsatisfied))

namespace Reads

variable {e : Evidence} {i : ArchitectureInvariant} {f : InvariantBlastRadiusFact} (h : Reads rt e i f)
include h

theorem mem_violating {b : String} : b ∈ f.violatingBindingIds ↔ b ∈ i.requiredBindingIds ∧ Unsafe rt e b := by
  rw [h.violating, List.mem_filter, mem_sortOn, decide_eq_true_iff]

theorem mem_degraded {c : String} : c ∈ f.degradedControlIds ↔ c ∈ i.requiredControlIds ∧ ¬ Satisfied rt e c := by
  rw [h.degraded, mem_sortOn, List.mem_filter, decide_eq_true_iff]

theorem safe_iff : Safe rt e i ↔ f.violatingBindingIds = [] ∧ f.degradedControlIds = [] := by
  rw [List.eq_nil_iff_forall_not_mem, List.eq_nil_iff_forall_not_mem]
  simp only [h.mem_violating, h.mem_degraded, not_and, not_not]
  exact Iff.rfl

theorem violated_iff : f.state = .violated ↔ ∃ b ∈ i.requiredBindingIds, Unsafe rt e b ∧ ofControl b = false := by
  have hmem : f.violatingBindingIds.filter (fun b => ! ofControl b) ≠ [] ↔ ∃ b ∈ i.requiredBindingIds, Unsafe rt e b ∧ ofControl b = false := by
    rw [ne_eq, List.eq_nil_iff_forall_not_mem]
    simp only [List.mem_filter, h.mem_violating, Bool.not_eq_true', and_assoc, not_forall, not_not]
  rw [← hmem, h.state, stateOf]
  by_cases hv : f.violatingBindingIds.filter (fun b => ! ofControl b) ≠ []
  · rw [if_pos hv]
    exact iff_of_true rfl hv
  · rw [if_neg hv]
    refine iff_of_false (fun he => ?_) hv
    split at he
    · cases he
    · cases he

theorem holds_iff : f.state = .holds ↔ (∀ b ∈ i.requiredBindingIds, Unsafe rt e b → ofControl b = true) ∧
    ∀ c ∈ i.requiredControlIds, Satisfied rt e c := by
  have hdegraded : f.degradedControlIds = [] ↔ ∀ c ∈ i.requiredControlIds, Satisfied rt e c := by
    rw [List.eq_nil_iff_forall_not_mem]
    simp only [h.mem_degraded, not_and, not_not]
  have hcontrols : f.violatingBindingIds.filter (fun b => ! ofControl b) = [] ↔ ∀ b ∈ i.requiredBindingIds, Unsafe rt e b → ofControl b = true := by
    rw [List.filter_eq_nil_iff]
    simp only [h.mem_violating, and_imp, Bool.not_eq_true', Bool.not_eq_false]
  rw [← hcontrols, ← hdegraded, h.state, stateOf]
  by_cases hv : f.violatingBindingIds.filter (fun b => ! ofControl b) = []
  · rw [if_neg (not_not_intro hv)]
    by_cases hd : f.degradedControlIds = []
    · rw [if_neg (not_not_intro hd)]
      exact iff_of_true rfl ⟨hv, hd⟩
    · rw [if_pos hd]
      exact iff_of_false (fun he => by cases he) fun hboth => hd hboth.2
  · rw [if_pos hv]
    exact iff_of_false (fun he => by cases he) fun hboth => hv hboth.1

/-- An invariant that holds is safe, but for what it conceals. -/
theorem holds_iff_safe : (f.state = .holds ↔ Safe rt e i) ↔ ¬ Concealed rt e i := by
  rw [h.holds_iff, Safe, Concealed]
  constructor
  · rintro hiff ⟨⟨b, hb, hunsafe⟩, hcontrols, hsatisfied⟩
    exact (hiff.mp ⟨hcontrols, hsatisfied⟩).1 b hb hunsafe
  · intro hnot
    constructor
    · intro hholds
      exact ⟨fun b hb hunsafe => hnot ⟨⟨b, hb, hunsafe⟩, hholds.1, hholds.2⟩, hholds.2⟩
    · intro hsafe
      exact ⟨fun b hb hunsafe => absurd hunsafe (hsafe.1 b hb), hsafe.2⟩

end Reads

/-! ## Scores -/

def InvariantState.level : InvariantState → Nat
  | holds => 0
  | degraded => 1
  | violated => 2

theorem severityBase_pos (severity : InvariantSeverity) : 0 < severityBase severity := by
  cases severity <;> decide

theorem blastScore_pos {state : InvariantState} (h : state ≠ .holds) (layers units violating : Int) :
    0 < blastScore severity state layers units violating := by
  have hbase := severityBase_pos severity
  rw [blastScore, if_neg h]
  split_ifs
  · omega
  · omega

/-- The score rises with the state, the layers, the entities and the violating bindings. -/
theorem blastScore_le {state state' : InvariantState} {layers layers' units units' violating violating' : Int}
    (hstate : state.level ≤ state'.level) (hlayers : layers ≤ layers') (hunits : units ≤ units') (hviolating : violating ≤ violating') :
    blastScore severity state layers units violating ≤ blastScore severity state' layers' units' violating' := by
  by_cases hholds : state = .holds
  · rw [blastScore, if_pos hholds]
    by_cases hholds' : state' = .holds
    · rw [blastScore, if_pos hholds']
    · exact (blastScore_pos hholds' layers' units' violating').le
  · have hholds' : state' ≠ .holds := by
      rintro rfl
      cases state with
      | holds => exact hholds rfl
      | degraded => exact absurd hstate (by decide)
      | violated => exact absurd hstate (by decide)
    have hweight : (if state = .degraded then 10 else 25 : Int) ≤ if state' = .degraded then 10 else 25 := by
      cases state with
      | holds => exact absurd rfl hholds
      | degraded =>
        rw [if_pos rfl]
        split_ifs
        · exact le_refl _
        · decide
      | violated =>
        cases state' with
        | holds => exact absurd rfl hholds'
        | degraded => exact absurd hstate (by decide)
        | violated => exact le_refl _
    rw [blastScore, blastScore, if_neg hholds, if_neg hholds']
    omega

/-! ## Entities -/

inductive EntityKind where
  | asset
  | identity
  | dependency
  | route
  deriving DecidableEq

/-- Something an invariant reaches when it fails. -/
abbrev Entity := EntityKind × String

def EntityKind.label : EntityKind → String
  | asset => "asset:"
  | identity => "identity:"
  | dependency => "dependency:"
  | route => "route:"

/-- The text that stands for an entity. -/
def entityName (x : Entity) : String := x.1.label ++ x.2

def entities (i : ArchitectureInvariant) : List Entity :=
  i.protectedAssetIds.map (.asset, ·) ++ i.affectedIdentityIds.map (.identity, ·) ++ i.dependencyIds.map (.dependency, ·) ++
    i.controlPlaneRouteIds.map (.route, ·)

theorem entityName_injective : Function.Injective entityName := by
  rintro ⟨kind, v⟩ ⟨kind', v'⟩ h
  have hlist : kind.label.toList ++ v.toList = kind'.label.toList ++ v'.toList := by
    simpa [entityName] using congrArg String.toList h
  cases kind <;> cases kind' <;> simp [EntityKind.label] at hlist
  all_goals rw [String.toList_inj.mp hlist]

theorem blastEntities_eq (i : ArchitectureInvariant) : blastEntities i = ((entities i).map entityName).dedup := by
  unfold blastEntities entities
  simp only [List.map_append, List.map_map]
  rfl

theorem mem_blastEntities {s : String} : s ∈ blastEntities i ↔ ∃ x ∈ entities i, entityName x = s := by
  rw [blastEntities_eq, List.mem_dedup, List.mem_map]

/-- The entities of the invariants that do not hold. -/
def exposed (judged : List (ArchitectureInvariant × InvariantBlastRadiusFact)) : Finset Entity :=
  ((judged.filter fun x => x.2.state ≠ .holds).flatMap fun x => entities x.1).toFinset

theorem mem_exposed {judged : List (ArchitectureInvariant × InvariantBlastRadiusFact)} {x : Entity} :
    x ∈ exposed judged ↔ ∃ y ∈ judged, y.2.state ≠ .holds ∧ x ∈ entities y.1 := by
  simp only [exposed, List.mem_toFinset, List.mem_flatMap, List.mem_filter, decide_eq_true_eq, and_assoc]

theorem radius_count (judged : List (ArchitectureInvariant × InvariantBlastRadiusFact)) :
    (allBlastEntities judged).length = (exposed judged).card := by
  have himage : (allBlastEntities judged).toFinset = (exposed judged).image entityName := by
    ext s
    simp only [allBlastEntities, List.mem_toFinset, List.mem_dedup, List.mem_flatMap, mem_blastEntities, Finset.mem_image, mem_exposed,
      List.mem_filter, decide_eq_true_eq]
    constructor
    · rintro ⟨y, ⟨hy, hstate⟩, x, hx, rfl⟩
      exact ⟨x, ⟨y, hy, hstate, hx⟩, rfl⟩
    · rintro ⟨x, ⟨y, hy, hstate, hx⟩, rfl⟩
      exact ⟨y, ⟨hy, hstate⟩, x, hx, rfl⟩
  rw [← Finset.card_image_of_injective (exposed judged) entityName_injective, ← himage,
    List.toFinset_card_of_nodup (show (allBlastEntities judged).Nodup from List.nodup_dedup _)]

/-! ## Worse evidence -/

/-- Whatever is unsafe stays so, and whatever control is not satisfied stays so. -/
structure Worse (rt : Runtime) (e e' : Evidence) : Prop where
  unsafe_stays : ∀ b, Unsafe rt e b → Unsafe rt e' b
  unsatisfied_stays : ∀ c, ¬ Satisfied rt e c → ¬ Satisfied rt e' c

/-- A fact that is no better: further from holding, with no smaller score. -/
structure NoBetter (f f' : InvariantBlastRadiusFact) : Prop where
  invariantId : f'.invariantId = f.invariantId
  state : f.state.level ≤ f'.state.level
  score : f.blastRadiusScore ≤ f'.blastRadiusScore

theorem Reads.noBetter {f f' : InvariantBlastRadiusFact} (h : Reads rt e i f) (h' : Reads rt e' i f')
    (hworse : Worse rt e e') : NoBetter f f' := by
  have hviolating : ∀ b ∈ f.violatingBindingIds, b ∈ f'.violatingBindingIds := by
    intro b hb
    rw [h.mem_violating] at hb
    rw [h'.mem_violating]
    exact ⟨hb.1, hworse.unsafe_stays b hb.2⟩
  have hstate : f.state.level ≤ f'.state.level := by
    cases hs' : f'.state with
    | holds =>
      obtain ⟨hcontrols, hsatisfied⟩ := h'.holds_iff.mp hs'
      have hholds : f.state = .holds := by
        refine h.holds_iff.mpr ⟨fun b hb hunsafe => hcontrols b hb (hworse.unsafe_stays b hunsafe), fun c hc => ?_⟩
        by_contra hnot
        exact hworse.unsatisfied_stays c hnot (hsatisfied c hc)
      rw [hholds]
    | degraded =>
      have hnot : f.state ≠ .violated := by
        intro hviolated
        obtain ⟨b, hb, hunsafe, hc⟩ := h.violated_iff.mp hviolated
        have hviolated' := h'.violated_iff.mpr ⟨b, hb, hworse.unsafe_stays b hunsafe, hc⟩
        rw [hs'] at hviolated'
        cases hviolated'
      cases hs : f.state with
      | holds => decide
      | degraded => decide
      | violated => exact absurd hs hnot
    | violated =>
      cases f.state <;> decide
  have hunits : f.blastRadiusUnits ≤ f'.blastRadiusUnits := by
    rw [h.units, h'.units]
    by_cases hs : f.state = .holds
    · rw [if_neg (not_not_intro hs)]
      split_ifs
      · omega
      · omega
    · have hs' : f'.state ≠ .holds := by
        intro he
        rw [he] at hstate
        cases hcase : f.state with
        | holds => exact hs hcase
        | degraded =>
          rw [hcase] at hstate
          exact absurd hstate (by decide)
        | violated =>
          rw [hcase] at hstate
          exact absurd hstate (by decide)
      rw [if_pos hs, if_pos hs']
  have hlayers : (distinct (f.violatingBindingIds.map sourceOf)).length ≤ (distinct (f'.violatingBindingIds.map sourceOf)).length :=
    length_distinct_le fun s hs => by
      obtain ⟨b, hb, rfl⟩ := List.mem_map.mp hs
      exact List.mem_map_of_mem (hviolating b hb)
  have hcount : f.violatingBindingIds.length ≤ f'.violatingBindingIds.length := by
    rw [h.violating, h'.violating]
    refine List.Sublist.length_le (List.monotone_filter_right _ fun b hb => ?_)
    rw [decide_eq_true_iff] at hb ⊢
    exact hworse.unsafe_stays b hb
  refine ⟨h'.invariantId.trans h.invariantId.symm, hstate, ?_⟩
  rw [h.score, h'.score]
  exact blastScore_le hstate (by exact_mod_cast hlayers) hunits (by exact_mod_cast hcount)

/-! ## Assessments -/

/-- What an assessment says of every invariant of its catalog. -/
theorem evaluate_reads {r : InvariantAssessmentRequest} {c : InvariantCatalog}
    {a : VerifiedInvariantBlastRadiusAssessment} (h : evaluate rt p r c e = .ok a) :
    (c.invariants.map (·.invariantId)).Nodup ∧ List.Forall₂ (Reads rt e) (sortOn ArchitectureInvariant.invariantId c.invariants) a.invariants ∧
      a.crossLayerBlastRadius = (exposed ((sortOn ArchitectureInvariant.invariantId c.invariants).zip a.invariants)).card := by
  unfold evaluate at h
  simp only [ok_bind, Prod.exists] at h
  obtain ⟨-, -, -, -, catalogs, statuses, hupstreams, sha, hcatalog, facts, hfacts, -, -, -, -, -, -, he⟩ := h
  obtain ⟨rfl, rfl⟩ := validateUpstreams_read hupstreams
  obtain rfl := Except.ok.inj he
  refine ⟨?_, (gather_ok.mp hfacts).imp fun i f hf => invariantFact_read hf, ?_⟩
  · simp only [validateCatalog, ok_bind] at hcatalog
    obtain ⟨-, -, -, -, -, -, -, -, -, -, -, -, u, hids, -⟩ := hcatalog
    exact ((@scan_keys_ok _ _ _ _ _ _ ArchitectureInvariant.invariantId _ _ fun seen i => by rw [rejectIf_ok, not_or]).mp hids).2
  · exact congrArg Nat.cast (radius_count _)

/-- What is asked of an assessment: an invariant holds when all of it is safe, and otherwise has a score
and counts; the radius counts the entities of what does not hold; on worse evidence nothing gets better. -/
structure HoldsMeansSafe (rt : Runtime) (c : InvariantCatalog) (e : Evidence) (a : VerifiedInvariantBlastRadiusAssessment) : Prop where
  assessed : ∀ i ∈ c.invariants, ∃ f ∈ a.invariants, f.invariantId = i.invariantId
  holds : ∀ i ∈ c.invariants, ∀ f ∈ a.invariants, f.invariantId = i.invariantId →
    (f.state = .holds ↔ Safe rt e i) ∧ (Safe rt e i ↔ f.violatingBindingIds = [] ∧ f.degradedControlIds = []) ∧
      (f.state ≠ .holds → 0 < f.blastRadiusScore)
  radius : ∃ union : Finset Entity, a.crossLayerBlastRadius = union.card ∧ ∀ x, x ∈ union ↔
    ∃ i ∈ c.invariants, ∃ f ∈ a.invariants, f.invariantId = i.invariantId ∧ f.state ≠ .holds ∧ x ∈ entities i
  monotone : ∀ p' r' c' e' a', evaluate rt p' r' c' e' = .ok a' → c'.invariants = c.invariants → Worse rt e e' →
    List.Forall₂ NoBetter a.invariants a'.invariants ∧ a.crossLayerBlastRadius ≤ a'.crossLayerBlastRadius

theorem NoBetter.fails {f f' : InvariantBlastRadiusFact} (h : NoBetter f f') (hf : f.state ≠ .holds) : f'.state ≠ .holds := by
  intro hf'
  have hlevel := h.state
  rw [hf'] at hlevel
  cases hs : f.state with
  | holds => exact hf hs
  | degraded =>
    rw [hs] at hlevel
    exact absurd hlevel (by decide)
  | violated =>
    rw [hs] at hlevel
    exact absurd hlevel (by decide)

/-- The facts of two lists of invariants' readings, invariant by invariant. -/
theorem noBetter_of_worse (hworse : Worse rt e e') {is : List ArchitectureInvariant} {fs fs' : List InvariantBlastRadiusFact}
    (h : List.Forall₂ (Reads rt e) is fs) (h' : List.Forall₂ (Reads rt e') is fs') :
    List.Forall₂ NoBetter fs fs' ∧ exposed (is.zip fs) ⊆ exposed (is.zip fs') := by
  induction h generalizing fs' with
  | nil =>
    obtain rfl := List.forall₂_nil_left_iff.mp h'
    exact ⟨.nil, Finset.Subset.refl _⟩
  | @cons i f is fs hread hrest ih =>
    obtain ⟨f', rest', hread', hrest', rfl⟩ := List.forall₂_cons_left_iff.mp h'
    obtain ⟨hall, hsubset⟩ := ih hrest'
    have hno := hread.noBetter hread' hworse
    refine ⟨.cons hno hall, fun x hx => ?_⟩
    rw [mem_exposed] at hx ⊢
    obtain ⟨y, hy, hstate, hentity⟩ := hx
    rw [List.zip_cons_cons] at hy ⊢
    rcases List.mem_cons.mp hy with rfl | hy
    · exact ⟨(i, f'), List.mem_cons_self, hno.fails hstate, hentity⟩
    · obtain ⟨z, hz, hz'⟩ := mem_exposed.mp (hsubset (mem_exposed.mpr ⟨y, hy, hstate, hentity⟩))
      exact ⟨z, List.mem_cons_of_mem _ hz, hz'⟩

/-- An assessment means by holding that all is safe, if and only if no invariant conceals an unsatisfied control. -/
theorem holds_means_safe_iff {p : InvariantBlastRadiusPolicy} {r : InvariantAssessmentRequest} {c : InvariantCatalog} {e : Evidence}
    {a : VerifiedInvariantBlastRadiusAssessment} (h : evaluate rt p r c e = .ok a) :
    HoldsMeansSafe rt c e a ↔ ∀ i ∈ c.invariants, ¬ Concealed rt e i := by
  obtain ⟨hids, hreads, hradius⟩ := evaluate_reads h
  -- invariants and facts in pairs: each invariant has a fact, and a fact is that of the invariant of its id
  have hpairs : List.Forall₂ (fun i f => (i, f) ∈ (sortOn ArchitectureInvariant.invariantId c.invariants).zip a.invariants ∧ Reads rt e i f)
      (sortOn ArchitectureInvariant.invariantId c.invariants) a.invariants :=
    List.forall₂_iff_zip.mpr ⟨hreads.length_eq, fun hy => ⟨hy, List.forall₂_zip hreads hy⟩⟩
  have hassessed : ∀ i ∈ c.invariants, ∃ f ∈ a.invariants, Reads rt e i f := by
    intro i hi
    obtain ⟨f, hf, -, hread⟩ := exists_of_forall₂ hpairs.flip (mem_sortOn.mpr hi)
    exact ⟨f, hf, hread⟩
  have hpair : ∀ i ∈ c.invariants, ∀ f ∈ a.invariants, f.invariantId = i.invariantId →
      (i, f) ∈ (sortOn ArchitectureInvariant.invariantId c.invariants).zip a.invariants ∧ Reads rt e i f := by
    intro i hi f hf hid
    obtain ⟨j, hj, hzip, hread⟩ := exists_of_forall₂ hpairs hf
    rw [List.inj_on_of_nodup_map hids hi (mem_sortOn.mp hj) (hid.symm.trans hread.invariantId)]
    exact ⟨hzip, hread⟩
  constructor
  · intro hmeans i hi
    obtain ⟨f, hf, hread⟩ := hassessed i hi
    exact hread.holds_iff_safe.mp (hmeans.holds i hi f hf hread.invariantId).1
  · intro hopen
    refine ⟨?_, ?_, ⟨_, hradius, fun x => ?_⟩, ?_⟩
    · intro i hi
      obtain ⟨f, hf, hread⟩ := hassessed i hi
      exact ⟨f, hf, hread.invariantId⟩
    · intro i hi f hf hid
      have hone := (hpair i hi f hf hid).2
      refine ⟨hone.holds_iff_safe.mpr (hopen i hi), hone.safe_iff, fun hstate => ?_⟩
      rw [hone.score]
      exact blastScore_pos hstate _ _ _
    · rw [mem_exposed]
      constructor
      · rintro ⟨⟨i, f⟩, hy, hstate, hx⟩
        obtain ⟨hi, hf⟩ := List.of_mem_zip hy
        exact ⟨i, mem_sortOn.mp hi, f, hf, (List.forall₂_zip hreads hy).invariantId, hstate, hx⟩
      · rintro ⟨i, hi, f, hf, hid, hstate, hx⟩
        exact ⟨(i, f), (hpair i hi f hf hid).1, hstate, hx⟩
    · intro p' r' c' e' a' h' hsame hworse
      obtain ⟨-, hreads', hradius'⟩ := evaluate_reads h'
      rw [hsame] at hreads' hradius'
      obtain ⟨hall, hsubset⟩ := noBetter_of_worse hworse hreads hreads'
      refine ⟨hall, ?_⟩
      rw [hradius, hradius']
      exact_mod_cast Finset.card_le_card hsubset

end

namespace Sample

open Agentic (hex hex_not_blank)

/-- A runtime for texts in small letters and one catalog. -/
def runtime (document : Json) : Runtime :=
  { Runtime.folded (hex '0') hex_not_blank with
    sha256 := Assurance.tabledDigest [document]
    sha256_not_blank := Assurance.tabledDigest_one_not_blank document }

/-- An assessment with one object, which is safe. -/
def assessment (flags : List String) (collection idAttr : String) : Json :=
  .obj (("assessment_evidence_sha256", .str (hex '0')) ::
    (collection, .arr [.obj [("blind_spot", .bool false), ("exposed", .bool false), (idAttr, .str "only")]]) :: flags.map fun f => (f, .bool true))

def posture (exceptioned satisfied : String) : Json := .obj [
  ("assessments", .arr [.obj [("control_id", .str exceptioned), ("status", .str "exceptioned")],
    .obj [("control_id", .str satisfied), ("status", .str "satisfied")]]),
  ("control_catalog_sha256", .str (hex '0')), ("control_catalog_verified", .bool true),
  ("exact_release_identity_verified", .bool true), ("exact_upstream_evidence_binding_verified", .bool true),
  ("exceptioned_control_ids", .arr [.str exceptioned]), ("posture_evidence_sha256", .str (hex '0')),
  ("satisfied_control_ids", .arr [.str satisfied]), ("status_derived_from_evidence", .bool true)]

/-- The assessments are safe, and one of two controls is excepted. -/
def evidence : Evidence where
  p7a := assessment ["exact_architecture_binding_verified", "required_graph_coverage_verified"] "paths" "path_id"
  p7b := assessment ["exact_identity_graph_binding_verified", "privilege_amplification_derived_from_evidence"] "paths" "path_id"
  p7c := assessment ["exact_data_graph_binding_verified", "exfiltration_derived_from_evidence"] "paths" "path_id"
  p7d := assessment ["exact_secret_graph_binding_verified", "blast_radius_derived_from_evidence"] "paths" "path_id"
  p7e := assessment ["exact_dependency_graph_binding_verified", "risk_derived_from_evidence"] "paths" "path_id"
  p7f := assessment ["exact_resilience_plan_binding_verified", "security_degradation_derived_from_evidence"] "scenarios" "scenario_id"
  p7g := assessment ["exact_telemetry_plan_binding_verified", "audit_integrity_derived_from_evidence",
    "fallback_observability_derived_from_evidence"] "requirements" "requirement_id"
  p7h := assessment ["exact_control_plane_binding_verified", "path_risk_derived_from_evidence", "separation_of_duties_enforced"] "routes" "route_id"
  posture := posture "AC-1" "AC-2"

def pins : EvidencePins := ⟨hex '0', hex '0', hex '0', hex '0', hex '0', hex '0', hex '0', hex '0', hex '0'⟩

/-- An invariant bound to a path and to `bound`, which requires `required`. -/
def invariant (bound required : String) : ArchitectureInvariant where
  invariantId := "INV"
  title := "title"
  description := "description"
  ownerId := "owner"
  severity := .high
  requiredBindingIds := ["p7a:only", "p6d:" ++ bound]
  protectedAssetIds := ["asset"]
  affectedIdentityIds := []
  dependencyIds := []
  controlPlaneRouteIds := []
  requiredControlIds := [required]

def catalog (bound required : String) : InvariantCatalog where
  toEvidencePins := pins
  catalogId := "catalog"
  version := "1"
  createdAtEpoch := 10
  invariants := [invariant bound required]

def policy (bound required : String) : InvariantBlastRadiusPolicy where
  expectedCatalogId := "catalog"
  expectedCatalogVersion := "1"
  expectedCatalogSha256 := hex '0'
  expected := pins
  expectedControlCatalogSha256 := hex '0'
  requiredInvariantIds := ["INV"]
  trustedOwnerIds := ["owner"]
  minimumSeverityByInvariant := [("INV", .high)]
  expectedBindingIdsByInvariant := [("INV", ["p7a:only", "p6d:" ++ bound])]
  expectedAssetIdsByInvariant := [("INV", ["asset"])]
  expectedIdentityIdsByInvariant := [("INV", [])]
  expectedDependencyIdsByInvariant := [("INV", [])]
  expectedRouteIdsByInvariant := [("INV", [])]
  expectedControlIdsByInvariant := [("INV", [required])]
  minDistinctLayersByInvariant := [("INV", 2)]

def request (degraded : List String) (radius score : Int) : InvariantAssessmentRequest where
  toEvidencePins := pins
  catalogId := "catalog"
  catalogVersion := "1"
  catalogSha256 := hex '0'
  evaluatedAtEpoch := 15
  invariantIds := ["INV"]
  declaredViolatedInvariantIds := []
  declaredDegradedInvariantIds := degraded
  declaredCrossLayerBlastRadius := radius
  declaredMaxBlastRadiusScore := score

def read (a : VerifiedInvariantBlastRadiusAssessment) : List (String × InvariantState × List String × Int) :=
  a.invariants.map fun f => (f.invariantId, f.state, f.violatingBindingIds, f.blastRadiusScore)

/-- The excepted control is bound and another one is required: the invariant holds, with a violating binding. -/
theorem concealed : ∃ a, evaluate (runtime (canonicalInvariantCatalog (runtime .null) (catalog "AC-1" "AC-2"))) (policy "AC-1" "AC-2") (request [] 0 0)
      (catalog "AC-1" "AC-2") evidence = .ok a ∧
    read a = [("INV", .holds, ["p6d:AC-1"], 0)] ∧
    ¬ HoldsMeansSafe (runtime (canonicalInvariantCatalog (runtime .null) (catalog "AC-1" "AC-2"))) (catalog "AC-1" "AC-2") evidence a := by
  obtain ⟨a, ha, hread⟩ := ok_of_map (show (evaluate (runtime (canonicalInvariantCatalog (runtime .null) (catalog "AC-1" "AC-2")))
    (policy "AC-1" "AC-2") (request [] 0 0) (catalog "AC-1" "AC-2") evidence).toOption.map read = some [("INV", .holds, ["p6d:AC-1"], 0)] by
      decide +kernel)
  refine ⟨a, ha, hread, fun hmeans => ?_⟩
  obtain ⟨f, hf, hfact⟩ := List.map_eq_singleton_iff.mp hread
  simp only [Prod.mk.injEq] at hfact
  obtain ⟨hid, hstate, hviolating, -⟩ := hfact
  have hholds := hmeans.holds (invariant "AC-1" "AC-2") List.mem_cons_self f (hf ▸ List.mem_cons_self) hid
  have hnone := (hholds.2.1.mp (hholds.1.mp hstate)).1
  rw [hviolating] at hnone
  cases hnone

/-- The bound control is the required one, and the invariant is degraded. -/
theorem holds_means_safe_degraded : ∃ a, evaluate (runtime (canonicalInvariantCatalog (runtime .null) (catalog "AC-1" "AC-1")))
      (policy "AC-1" "AC-1") (request ["INV"] 1 75) (catalog "AC-1" "AC-1") evidence = .ok a ∧
    read a = [("INV", .degraded, ["p6d:AC-1"], 75)] ∧
    HoldsMeansSafe (runtime (canonicalInvariantCatalog (runtime .null) (catalog "AC-1" "AC-1"))) (catalog "AC-1" "AC-1") evidence a := by
  obtain ⟨a, ha, hread⟩ := ok_of_map (show (evaluate (runtime (canonicalInvariantCatalog (runtime .null) (catalog "AC-1" "AC-1")))
    (policy "AC-1" "AC-1") (request ["INV"] 1 75) (catalog "AC-1" "AC-1") evidence).toOption.map read =
      some [("INV", .degraded, ["p6d:AC-1"], 75)] by decide +kernel)
  refine ⟨a, ha, hread, (holds_means_safe_iff ha).mpr fun i hi => ?_⟩
  rw [List.mem_singleton.mp hi]
  rintro ⟨-, -, hsatisfied⟩
  exact absurd (hsatisfied "AC-1" List.mem_cons_self) (by decide +kernel)

end Sample

end Aegis.Architecture.InvariantBlastRadius
