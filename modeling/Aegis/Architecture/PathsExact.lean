/-
  Aegis.Architecture.PathsExact — what the enumeration of P7-A finds.

  - `enumeratePaths_exact`: for a validated architecture, the facts that are returned are the simple
    paths from a required entry to a required target, each once and of any length; a path that is longer
    than the hop bound, or more paths than the bound on their number, are an error. A path is exposed by
    what its flows lack, and no control that comes to lack evidence takes an exposed path away or lowers
    a risk score.
-/

import Aegis.Architecture.AttackPaths

namespace Aegis.Architecture.AttackPaths

open Data Data.Checks Data.BoundedSearch
open Agentic (Dict sameSet)
open Assurance (Runtime isSha256)
open Assurance.Posture (ControlStatus)

/-! ## Paths of flows -/

/-- `path` leads from `a` to `b` along flows of the architecture. -/
def FlowPath (flows : List ArchitectureFlow) : String → List ArchitectureFlow → String → Prop
  | a, [], b => a = b
  | a, f :: path, b => f ∈ flows ∧ f.sourceAssetId = a ∧ FlowPath flows f.targetAssetId path b

/-- A path on which no asset is repeated. -/
structure SimplePath (flows : List ArchitectureFlow) (entry : String) (path : List ArchitectureFlow) (target : String) : Prop where
  leads : FlowPath flows entry path target
  nodup : (entry :: path.map ArchitectureFlow.targetAssetId).Nodup

variable {path flows : List ArchitectureFlow} {entry target : String} {fact : AttackPathFact}
  {route : String × String × List ArchitectureFlow} {results : List AttackPathFact} {g : AssetGraph}

theorem flowPath_iff {a b : String} :
    FlowPath g.flows a path b ↔ Trail (graphTo g b) a path ∧ arrival (graphTo g b) a path = b := by
  induction path generalizing a with
  | nil => simp [FlowPath, Trail]
  | cons f path ih =>
    rw [FlowPath, ih, Trail, arrival_cons]
    simp only [graphTo, mem_sortOn, List.mem_filter, decide_eq_true_eq]
    tauto

theorem FlowPath.mem {a b : String} (h : FlowPath flows a path b) : ∀ f ∈ path, f ∈ flows := by
  induction path generalizing a with
  | nil => nofun
  | cons f path ih =>
    intro f' hf'
    rcases List.mem_cons.mp hf' with rfl | hf'
    · exact h.1
    · exact ih h.2.2 f' hf'

/-- The walk to a target goes along exactly the simple paths to it. -/
theorem open_iff_simplePath :
    Open (graphTo g target) entry [] [entry] path ∧ arrival (graphTo g target) entry path = target ↔ SimplePath g.flows entry path target := by
  rw [open_iff]
  constructor
  · rintro ⟨⟨htrail, hnodup, havoid, -⟩, harrive⟩
    refine ⟨flowPath_iff.mpr ⟨htrail, harrive⟩, List.nodup_cons.mpr ⟨?_, hnodup⟩⟩
    intro hmem
    obtain ⟨f, hf, heq⟩ := List.mem_map.mp hmem
    exact havoid f hf (List.mem_singleton.mpr heq)
  · rintro ⟨hleads, hnodup⟩
    obtain ⟨htrail, harrive⟩ := flowPath_iff.mp hleads
    refine ⟨⟨htrail, (List.nodup_cons.mp hnodup).2, ?_, ?_⟩, harrive⟩
    · intro f hf hmem
      exact (List.nodup_cons.mp hnodup).1 (List.mem_singleton.mp hmem ▸ List.mem_map_of_mem hf)
    · -- the target is met only at the end of the path
      rintro pre f post rfl
      have hne : arrival (graphTo g target) entry pre ≠ arrival (graphTo g target) entry (pre ++ f :: post) := arrival_ne hnodup
      rw [harrive] at hne
      simp only [graphTo, List.nil_append, decide_eq_false_iff_not]
      exact hne

/-! ## A validated architecture -/

/-- What is known of an architecture, its controls and its policy once they are validated. -/
structure Sound (g : AssetGraph) (controls : Dict ControlStatus) (p : AttackPathPolicy) : Prop where
  flowIds : (g.flows.map ArchitectureFlow.flowId).Nodup
  endpoints : ∀ f ∈ g.flows, g.asset f.sourceAssetId ≠ none ∧ g.asset f.targetAssetId ≠ none
  controlled : ∀ f ∈ g.flows, ∀ c ∈ f.requiredControlIds, controls c ≠ none
  entries : ∀ a ∈ p.requiredEntryAssetIds, g.asset a ≠ none
  apart : ∀ a ∈ p.requiredEntryAssetIds, a ∉ p.requiredTargetAssetIds
  hops : 0 < p.maxPathHops
  paths : 0 < p.maxPaths

variable {rt : Runtime} {p : AttackPathPolicy} {r : AttackPathRequest} {m : ArchitectureManifest} {s : SecurityPosture} {g : AssetGraph}
  {controls controls' : Dict ControlStatus} {facts : List AttackPathFact} {assetIds flowIds unguarded ids : List String} {i : String}

theorem asset_known {assets flows : List _} {sha : String} :
    (AssetGraph.mk assets flows sha).asset i ≠ none ↔ i ∈ assets.map ArchitectureAsset.assetId := by
  simp [AssetGraph.asset, Dict.ofItems, List.find?_eq_none]

theorem scan_validateFlow {assets : Dict ArchitectureAsset} (h : scan (validateFlow p assets) [] flows = .ok ()) :
    (flows.map ArchitectureFlow.flowId).Nodup ∧ ∀ f ∈ flows, assets f.sourceAssetId ≠ none ∧ assets f.targetAssetId ≠ none := by
  have hstep : ∀ seen f, validateFlow p assets seen f = .ok () ↔
      validateFlow p assets [] f = .ok () ∧ f.flowId ∉ seen.map ArchitectureFlow.flowId := by
    intro seen f
    simp only [validateFlow, ok_seq, rejectIf_ok, List.map_nil, List.not_mem_nil, not_false_eq_true, true_and]
    tauto
  obtain ⟨hall, hids⟩ := (scan_keys_ok hstep).mp h
  refine ⟨hids, fun f hf => ?_⟩
  have hf := hall f hf
  simp only [validateFlow, ok_seq, rejectIf_ok, not_or] at hf
  exact hf.2.2.2.1

theorem sound_of_valid (hp : validatePolicy rt p = .ok ()) (hm : validateManifest rt m r p = .ok g)
    (hs : validatePosture rt s r p g.flows = .ok controls) : Sound g controls p := by
  simp only [validatePolicy, ok_seq, rejectIf_ok, not_or, not_exists, not_and, not_not, not_le] at hp
  obtain ⟨-, -, -, -, -, -, -, -, -, -, -, -, hapart, hentries, -, -, -, hhops, hpaths⟩ := hp.1
  simp only [validateManifest, ok_seq, rejectIf_ok, not_not, distinct_eq_nil] at hm
  obtain ⟨-, -, -, -, -, hrequired, -, -, hflows, -, -, -, hg⟩ := hm
  obtain rfl := Except.ok.inj hg
  simp only [validatePosture, ok_bind, exists_const, rejectIf_ok, forEach_ok] at hs
  obtain ⟨-, -, -, read, -, hknown, hc⟩ := hs
  obtain rfl := Except.ok.inj hc
  obtain ⟨hids, hends⟩ := scan_validateFlow hflows
  refine ⟨hids, hends, hknown, fun a ha => ?_, hapart, hhops, hpaths⟩
  rw [asset_known]
  by_contra hmissing
  have hmem : a ∈ p.requiredAssetIds.filter fun a => a ∉ m.assets.map ArchitectureAsset.assetId :=
    List.mem_filter.mpr ⟨hentries a ha, by simpa using hmissing⟩
  rw [hrequired] at hmem
  cases hmem

/-! ## The fact of a path -/

/-- The flow goes from one trust zone to another. -/
def Crosses (g : AssetGraph) (f : ArchitectureFlow) : Prop :=
  (g.asset f.sourceAssetId).map ArchitectureAsset.trustZone ≠ (g.asset f.targetAssetId).map ArchitectureAsset.trustZone

/-- The flow has a control that is not satisfied, or crosses a trust boundary without any. -/
def Exposes (g : AssetGraph) (controls : Dict ControlStatus) (f : ArchitectureFlow) : Prop :=
  (∃ c ∈ f.requiredControlIds, controls c ≠ some .satisfied) ∨ Crosses g f ∧ f.requiredControlIds = []

theorem crossesBoundary_ok {f : ArchitectureFlow} {crosses : Bool} : crossesBoundary g.asset f = .ok crosses ↔
    g.asset f.sourceAssetId ≠ none ∧ g.asset f.targetAssetId ≠ none ∧ (crosses = true ↔ Crosses g f) := by
  simp only [crossesBoundary, trustZone, ok_bind, getItem_ok, Crosses]
  cases hsource : g.asset f.sourceAssetId with
  | none => simp
  | some a =>
    cases htarget : g.asset f.targetAssetId with
    | none => simp
    | some b =>
      by_cases hzone : a.trustZone = b.trustZone <;> cases crosses <;> simp [hzone, pure, Except.pure]

theorem unguardedFlows_ok (h : unguardedFlows g.asset path = .ok unguarded) : i ∈ unguarded ↔ ∃ f ∈ path, Crosses g f ∧ f.requiredControlIds = [] ∧ f.flowId = i := by
  simp only [unguardedFlows, ok_bind] at h
  obtain ⟨crossing, hcrossing, h⟩ := h
  obtain rfl := Except.ok.inj h
  have hall := gather_ok.mp hcrossing
  have hpair : ∀ f crosses, (f, crosses) ∈ crossing → f ∈ path ∧ crossesBoundary g.asset f = .ok crosses := by
    intro f crosses hmem
    obtain ⟨f', hf', h⟩ := exists_of_forall₂ hall hmem
    obtain ⟨crosses', hc, h⟩ := ok_bind.mp h
    obtain ⟨rfl, rfl⟩ := Prod.mk.inj (Except.ok.inj h)
    exact ⟨hf', hc⟩
  simp only [mem_distinct, List.mem_map, List.mem_filter, Prod.exists, decide_eq_true_eq]
  constructor
  · rintro ⟨f, crosses, ⟨hmem, htrue, hnone⟩, rfl⟩
    obtain ⟨hf, hc⟩ := hpair f crosses hmem
    exact ⟨f, hf, (crossesBoundary_ok.mp hc).2.2.mp htrue, hnone, rfl⟩
  · rintro ⟨f, hf, hcross, hnone, rfl⟩
    obtain ⟨pair, hmem, h⟩ := mem_gather hcrossing hf
    obtain ⟨crosses, hc, h⟩ := ok_bind.mp h
    obtain rfl := Except.ok.inj h
    exact ⟨f, crosses, ⟨hmem, (crossesBoundary_ok.mp hc).2.2.mpr hcross, hnone⟩, rfl⟩

/-- The controls that the flows of a path require. -/
def required (path : List ArchitectureFlow) : List String := path.flatMap ArchitectureFlow.requiredControlIds

/-- What the fact of a path is made of. -/
structure Made (rt : Runtime) (g : AssetGraph) (controls : Dict ControlStatus) (assetIds flowIds : List String) (fact : AttackPathFact)
    (zones : List String) (path : List ArchitectureFlow) (unguarded : List String) (a : ArchitectureAsset) : Prop where
  inZones : gather (trustZone g.asset) assetIds = .ok zones
  alongFlows : (gather (getItem g.flow) flowIds : Gate _) = .ok path
  withoutGuard : unguardedFlows g.asset path = .ok unguarded
  known : ∀ c ∈ required path, controls c ≠ none
  atTarget : (getItem g.asset (assetIds.getLast?.getD "") : Gate _) = .ok a
  pathId : fact.pathId = attackPathIdentifier rt (assetIds.head?.getD "") (assetIds.getLast?.getD "") assetIds flowIds
  entryAssetId : fact.entryAssetId = assetIds.head?.getD ""
  namesFlows : fact.flowIds = flowIds
  exposed : fact.exposed = true ↔ withStatus controls (required path) .exceptioned ≠ [] ∨
    withStatus controls (required path) .notEvaluated ≠ [] ∨ unguarded ≠ []
  riskScore : fact.riskScore = sensitivityRank a.sensitivity * 20 +
    ((zones.zip zones.tail).countP fun (left, right) => left ≠ right : Nat) * 3 +
    (withStatus controls (required path) .exceptioned).length * 10 + (withStatus controls (required path) .notEvaluated).length * 6 +
    unguarded.length * 12 + max 0 (8 - (flowIds.length : Int))

theorem pathFact_made (h : pathFact rt g controls assetIds flowIds = .ok fact) :
    ∃ zones path unguarded a, Made rt g controls assetIds flowIds fact zones path unguarded a := by
  simp only [pathFact, ok_bind, tally_ok] at h
  obtain ⟨zones, hzones, path, hpath, unguarded, hunguarded, t, ⟨hcontrols, rfl⟩, a, ha, h⟩ := h
  obtain rfl := Except.ok.inj h
  exact ⟨zones, path, unguarded, a, hzones, hpath, hunguarded, hcontrols, ha, rfl, rfl, rfl, decide_eq_true_iff, rfl⟩

theorem trustZone_of {a : ArchitectureAsset} (ha : g.asset i = some a) : trustZone g.asset i = .ok a.trustZone := by
  rw [trustZone, getItem_ok.mpr ha]
  rfl

/-- The lookups of a path's fact succeed where all that it names is known. -/
theorem pathFact_returns (hassets : ∀ i ∈ assetIds, g.asset i ≠ none)
    (hne : assetIds ≠ []) (hflows : ∀ f ∈ path, g.flow f.flowId = some f)
    (hends : ∀ f ∈ path, g.asset f.sourceAssetId ≠ none ∧ g.asset f.targetAssetId ≠ none) (hcontrols : ∀ c ∈ required path, controls c ≠ none) :
    ∃ fact, pathFact rt g controls assetIds (path.map ArchitectureFlow.flowId) = .ok fact := by
  have hzone : ∀ i ∈ assetIds, ∃ zone, trustZone g.asset i = .ok zone := by
    intro i hi
    obtain ⟨a, ha⟩ := Option.ne_none_iff_exists'.mp (hassets i hi)
    exact ⟨a.trustZone, trustZone_of ha⟩
  have hpath : (gather (getItem g.flow) (path.map ArchitectureFlow.flowId) : Gate _) = .ok path := by
    rw [gather_ok, List.forall₂_map_left_iff, List.forall₂_same]
    exact fun f hf => getItem_ok.mpr (hflows f hf)
  have hcross : ∀ f ∈ path, ∃ pair, (do
      let crosses ← crossesBoundary g.asset f
      return (f, crosses) : Gate (ArchitectureFlow × Bool)) = .ok pair := by
    intro f hf
    obtain ⟨a, ha⟩ := Option.ne_none_iff_exists'.mp (hends f hf).1
    obtain ⟨b, hb⟩ := Option.ne_none_iff_exists'.mp (hends f hf).2
    exact ⟨(f, decide (a.trustZone ≠ b.trustZone)), by rw [crossesBoundary, trustZone_of ha, trustZone_of hb]; rfl⟩
  have hlast : assetIds.getLast?.getD "" ∈ assetIds := by
    rw [List.getLast?_eq_some_getLast hne]
    exact List.getLast_mem hne
  obtain ⟨a, ha⟩ := Option.ne_none_iff_exists'.mp (hassets _ hlast)
  simp only [pathFact, ok_bind, tally_ok, unguardedFlows, getItem_ok]
  exact ⟨_, _, gather_returns hzone, _, hpath, _, ⟨_, gather_returns hcross, rfl⟩, _, ⟨hcontrols, rfl⟩, a, ha, rfl⟩

/-! ## The enumeration -/

/-- What the walks report, in their order: an entry, a target and a path between them. -/
def routes (g : AssetGraph) (p : AttackPathPolicy) : List (String × String × List ArchitectureFlow) :=
  (pairs p).flatMap fun pair => (trails (graphTo g pair.2) p.maxPathHops.toNat pair.1 [] [pair.1]).flatMap fun path =>
    if arrival (graphTo g pair.2) pair.1 path = pair.2 ∧ path ≠ [] then [(pair.1, pair.2, path)] else []

/-- Some walk is cut off at the hop bound. -/
def truncates (g : AssetGraph) (p : AttackPathPolicy) : Bool :=
  (pairs p).any fun pair => cut (graphTo g pair.2) p.maxPathHops.toNat pair.1 [] [pair.1]

def routeFact (rt : Runtime) (g : AssetGraph) (controls : Dict ControlStatus) (route : String × String × List ArchitectureFlow) :
    Gate AttackPathFact :=
  pathFact rt g controls (route.1 :: route.2.2.map ArchitectureFlow.targetAssetId) (route.2.2.map ArchitectureFlow.flowId)

theorem mem_pairs {pair : String × String} : pair ∈ pairs p ↔ pair.1 ∈ p.requiredEntryAssetIds ∧ pair.2 ∈ p.requiredTargetAssetIds := by
  obtain ⟨entry, target⟩ := pair
  simp [pairs]

theorem mem_routes (h : Sound g controls p) : (entry, target, path) ∈ routes g p ↔
    entry ∈ p.requiredEntryAssetIds ∧ target ∈ p.requiredTargetAssetIds ∧ SimplePath g.flows entry path target ∧
      path.length ≤ p.maxPathHops.toNat := by
  simp only [routes, List.mem_flatMap, mem_trails]
  constructor
  · rintro ⟨pair, hpair, path', ⟨hopen, hlength⟩, hmem⟩
    split_ifs at hmem with harrive
    · obtain ⟨rfl, rfl, rfl⟩ : entry = pair.1 ∧ target = pair.2 ∧ path = path' := by simpa using hmem
      exact ⟨(mem_pairs.mp hpair).1, (mem_pairs.mp hpair).2, open_iff_simplePath.mp ⟨hopen, harrive.1⟩, hlength⟩
    · cases hmem
  · rintro ⟨hentry, htarget, hsimple, hlength⟩
    obtain ⟨hopen, harrive⟩ := open_iff_simplePath.mpr hsimple
    refine ⟨(entry, target), mem_pairs.mpr ⟨hentry, htarget⟩, path, ⟨hopen, hlength⟩, ?_⟩
    have hne : path ≠ [] := by
      rintro rfl
      -- an entry is not a target
      have heq : entry = target := harrive
      exact h.apart entry hentry (heq ▸ htarget)
    rw [if_pos ⟨harrive, hne⟩]
    exact List.mem_singleton.mpr rfl

variable (rt) in
theorem SimplePath.known (h : Sound g controls p)
    (hentry : entry ∈ p.requiredEntryAssetIds) (hpath : FlowPath g.flows entry path target) :
    ∃ fact, routeFact rt g controls (entry, target, path) = .ok fact := by
  refine pathFact_returns ?_ (by simp) ?_ ?_ ?_
  · intro i hi
    rcases List.mem_cons.mp hi with rfl | hi
    · exact h.entries i hentry
    · obtain ⟨f, hf, rfl⟩ := List.mem_map.mp hi
      exact (h.endpoints f (hpath.mem f hf)).2
  · exact fun f hf => Dict.ofItems_self h.flowIds (hpath.mem f hf)
  · exact fun f hf => h.endpoints f (hpath.mem f hf)
  · intro c hc
    obtain ⟨f, hf, hc⟩ := List.mem_flatMap.mp hc
    exact h.controlled f (hpath.mem f hf) c hc

/-- The outcome of an enumeration that finds `results`. -/
def outcome (g : AssetGraph) (p : AttackPathPolicy) (results : List AttackPathFact) : Gate (List AttackPathFact) := do
  raiseIf (p.maxPaths < results.length) (pathLimit "topology produced more paths than policy permits")
  raiseIf (truncates g p) (pathLimit "path-hop bound truncated a reachable topology frontier")
  raiseIf (¬ (results.map AttackPathFact.pathId).Nodup) (pathLimit "deterministic path identifier collision detected")
  return sortOn AttackPathFact.pathId results

/-- A walk appends the fact of its path at the target. -/
theorem found_walkTo : found (walkTo rt g controls p entry target) entry path =
    if arrival (graphTo g target) entry path = target ∧ path ≠ [] then (routeFact rt g controls (entry, target, path)).toOption.toList
    else [] := by
  show Option.getD (Except.toOption (if arrival (graphTo g target) entry path = target ∧ path ≠ [] then _ else _)) [] = _
  by_cases harrive : arrival (graphTo g target) entry path = target ∧ path ≠ []
  · rw [if_pos harrive, if_pos harrive]
    show Option.getD (Except.toOption (routeFact rt g controls (entry, target, path) >>= _)) [] = _
    cases routeFact rt g controls (entry, target, path) <;> rfl
  · rw [if_neg harrive, if_neg harrive]
    rfl

variable (rt) in
theorem enumeratePaths_eq (h : Sound g controls p) : ∃ results,
    gather (routeFact rt g controls) (routes g p) = .ok results ∧ enumeratePaths rt g controls p = outcome g p results := by
  have hroutes : ∀ route ∈ routes g p, ∃ fact, routeFact rt g controls route = .ok fact := by
    rintro ⟨entry, target, path⟩ hroute
    obtain ⟨hentry, -, hsimple, -⟩ := (mem_routes h).mp hroute
    exact SimplePath.known rt h hentry hsimple.leads
  refine ⟨_, gather_returns hroutes, ?_⟩
  have hends : forEach (fun (f : ArchitectureFlow) => raiseIf (g.asset f.sourceAssetId = none) (.key f.sourceAssetId)) g.flows =
      (.ok () : Gate Unit) := by
    simp only [forEach_ok, raiseIf_ok]
    exact fun f hf => (h.endpoints f hf).1
  have hok : ∀ pair ∈ pairs p, ∀ path ∈ trails (walkTo rt g controls p pair.1 pair.2).toGraph p.maxPathHops.toNat pair.1 [] [pair.1],
      ∃ fs, (walkTo rt g controls p pair.1 pair.2).emits (arrival (walkTo rt g controls p pair.1 pair.2).toGraph pair.1 path) path = .ok fs := by
    intro pair hpair path hpath
    simp only [walkTo]
    split_ifs with harrive
    · have hsimple := open_iff_simplePath.mp ⟨(mem_trails.mp hpath).1, harrive.1⟩
      obtain ⟨fact, hfact⟩ := SimplePath.known rt h (mem_pairs.mp hpair).1 hsimple.leads
      exact ⟨[fact], ok_bind.mpr ⟨fact, hfact, rfl⟩⟩
    · exact ⟨[], rfl⟩
  -- what the walks append is what the routes are worth
  have hfound : ((pairs p).flatMap fun pair => (trails (graphTo g pair.2) p.maxPathHops.toNat pair.1 [] [pair.1]).flatMap
      (found (walkTo rt g controls p pair.1 pair.2) pair.1)) =
      (routes g p).flatMap fun route => (routeFact rt g controls route).toOption.toList := by
    rw [routes, List.flatMap_assoc]
    refine List.flatMap_congr fun pair _ => ?_
    rw [List.flatMap_assoc]
    refine List.flatMap_congr fun path _ => ?_
    rw [found_walkTo]
    split_ifs with harrive
    · rw [List.flatMap_singleton]
    · rfl
  have hwalks : (pairs p).foldlM (fun st pair => walk (walkTo rt g controls p pair.1 pair.2) p.maxPathHops.toNat pair.1 [] [pair.1] st)
      ([], false) = extend p.maxPaths (pathLimit "topology produced more paths than policy permits") ([], false)
        ((routes g p).flatMap fun route => (routeFact rt g controls route).toOption.toList) (truncates g p) := by
    rw [← hfound]
    exact walks_eq (fun _ => ⟨rfl, rfl⟩) h.paths.le hok
  unfold enumeratePaths outcome
  rw [hends, hwalks, extend, List.nil_append]
  by_cases hmany : p.maxPaths < ((routes g p).flatMap fun route => (routeFact rt g controls route).toOption.toList).length
  · rw [if_pos hmany, raiseIf, if_pos hmany]
    rfl
  · rw [if_neg hmany, raiseIf, if_neg hmany]
    rfl

/-! ## Each path once -/

theorem nodup_pairs : (pairs p).Nodup := by
  rw [pairs, List.nodup_flatMap]
  refine ⟨fun entry _ => (nodup_distinct _).map fun _ _ h => (Prod.mk.inj h).2, (nodup_distinct _).imp fun {a b} hne => ?_⟩
  intro pair ha hb
  obtain ⟨_, -, rfl⟩ := List.mem_map.mp ha
  obtain ⟨_, -, heq⟩ := List.mem_map.mp hb
  exact hne (Prod.mk.inj heq).1.symm

theorem nodup_routes (h : Sound g controls p) : (routes g p).Nodup := by
  have hout : ∀ target v, ((graphTo g target).outgoing v).Nodup := by
    intro target v
    have hflows : g.flows.Nodup := .of_map _ h.flowIds
    exact (perm_sortOn _ _).nodup_iff.mpr (hflows.filter _)
  have hmem : ∀ (pair : String × String) path route, route ∈ (if arrival (graphTo g pair.2) pair.1 path = pair.2 ∧ path ≠ [] then [(pair.1, pair.2, path)] else [] :
      List (String × String × List ArchitectureFlow)) → route = (pair.1, pair.2, path) := by
    intro pair path route hroute
    split_ifs at hroute with harrive
    · exact List.mem_singleton.mp hroute
    · cases hroute
  rw [routes, List.nodup_flatMap]
  constructor
  · intro pair _
    rw [List.nodup_flatMap]
    refine ⟨fun path _ => ?_, (nodup_trails (hout pair.2)).imp fun {a b} hne => ?_⟩
    · split_ifs <;> simp
    · intro route ha hb
      obtain heq := (hmem pair a route ha).symm.trans (hmem pair b route hb)
      exact hne (Prod.mk.inj (Prod.mk.inj heq).2).2
  · refine nodup_pairs.imp fun {a b} hne => ?_
    intro route ha hb
    obtain ⟨x, -, ha⟩ := List.mem_flatMap.mp ha
    obtain ⟨y, -, hb⟩ := List.mem_flatMap.mp hb
    obtain heq := (hmem a x route ha).symm.trans (hmem b y route hb)
    exact hne (Prod.ext (Prod.mk.inj heq).1 (Prod.mk.inj (Prod.mk.inj heq).2).1)

/-- A path is known by its start and the ids of its flows. -/
theorem flowPath_unique (hids : (g.flows.map ArchitectureFlow.flowId).Nodup) {a b : String} {path path' : List ArchitectureFlow}
    (h : FlowPath g.flows entry path a) (h' : FlowPath g.flows entry path' b)
    (heq : path.map ArchitectureFlow.flowId = path'.map ArchitectureFlow.flowId) : path = path' ∧ a = b := by
  induction path generalizing entry path' with
  | nil =>
    obtain rfl : path' = [] := List.map_eq_nil_iff.mp heq.symm
    exact ⟨rfl, Eq.trans (Eq.symm h) h'⟩
  | cons f path ih =>
    cases path' with
    | nil => cases heq
    | cons f' path' =>
      obtain ⟨hid, hrest⟩ := List.cons.inj heq
      obtain rfl := List.inj_on_of_nodup_map hids h.1 h'.1 hid
      obtain ⟨rfl, rfl⟩ := ih h.2.2 h'.2.2 hrest
      exact ⟨rfl, rfl⟩

def RouteOf (g : AssetGraph) (p : AttackPathPolicy) (entry : String) (path : List ArchitectureFlow) : Prop :=
  entry ∈ p.requiredEntryAssetIds ∧ ∃ target ∈ p.requiredTargetAssetIds, SimplePath g.flows entry path target

theorem routeFact_named (h : routeFact rt g controls route = .ok fact) :
    (fact.entryAssetId, fact.flowIds) = (route.1, route.2.2.map ArchitectureFlow.flowId) := by
  obtain ⟨_, _, _, _, hmade⟩ := pathFact_made h
  rw [hmade.entryAssetId, hmade.namesFlows]
  rfl

theorem results_named (h : gather (routeFact rt g controls) (routes g p) = .ok results) :
    results.map (fun fact => (fact.entryAssetId, fact.flowIds)) =
      (routes g p).map fun route => (route.1, route.2.2.map ArchitectureFlow.flowId) := by
  refine (map_eq_of_forall₂ (fun route fact hfact => ?_) (gather_ok.mp h)).symm
  exact (routeFact_named hfact).symm

theorem nodup_results (hsound : Sound g controls p) (h : gather (routeFact rt g controls) (routes g p) = .ok results) :
    (results.map fun fact => (fact.entryAssetId, fact.flowIds)).Nodup := by
  rw [results_named h]
  refine (nodup_routes hsound).map_on ?_
  rintro ⟨entry, target, path⟩ hroute ⟨entry', target', path'⟩ hroute' heq
  obtain ⟨rfl, hids⟩ := Prod.mk.inj heq
  obtain ⟨-, -, hsimple, -⟩ := (mem_routes hsound).mp hroute
  obtain ⟨-, -, hsimple', -⟩ := (mem_routes hsound).mp hroute'
  obtain ⟨rfl, rfl⟩ := flowPath_unique hsound.flowIds hsimple.leads hsimple'.leads hids
  rfl

/-! ## The bounds -/

/-- A path that is longer than the hop bound cuts a walk off. -/
theorem truncates_of_long (hsound : Sound g controls p) (h : RouteOf g p entry path)
    (hlong : p.maxPathHops < path.length) : truncates g p = true := by
  obtain ⟨hentry, target, htarget, hsimple⟩ := h
  refine List.any_eq_true.mpr ⟨(entry, target), mem_pairs.mpr ⟨hentry, htarget⟩, ?_⟩
  by_contra hcut
  rw [Bool.not_eq_true] at hcut
  have hlength := length_le_of_not_cut hcut (open_iff_simplePath.mpr hsimple).1
  have hpos := hsound.hops
  omega

theorem outcome_ok (h : outcome g p results = .ok facts) :
    (results.length : Int) ≤ p.maxPaths ∧ truncates g p = false ∧ (results.map AttackPathFact.pathId).Nodup ∧
      facts = sortOn AttackPathFact.pathId results := by
  simp only [outcome, ok_seq, raiseIf_ok, not_lt, Bool.not_eq_true, not_not] at h
  exact ⟨h.1, h.2.1, h.2.2.1, (Except.ok.inj h.2.2.2).symm⟩

/-! ## What is returned -/

theorem results_of_ok (hsound : Sound g controls p) (h : enumeratePaths rt g controls p = .ok facts) :
    ∃ results, gather (routeFact rt g controls) (routes g p) = .ok results ∧ outcome g p results = .ok facts := by
  obtain ⟨results, hresults, heq⟩ := enumeratePaths_eq rt hsound
  exact ⟨results, hresults, heq ▸ h⟩

/-- Every simple path is among the routes, unless a walk was cut off. -/
theorem mem_routes_of_not_truncated (hsound : Sound g controls p) (htrunc : truncates g p = false) (h : RouteOf g p entry path) : ∃ target, (entry, target, path) ∈ routes g p := by
  have hlength : (path.length : Int) ≤ p.maxPathHops := by
    by_contra hlong
    rw [truncates_of_long hsound h (by omega)] at htrunc
    cases htrunc
  obtain ⟨hentry, target, htarget, hsimple⟩ := h
  exact ⟨target, (mem_routes hsound).mpr ⟨hentry, htarget, hsimple, by omega⟩⟩

theorem named_iff (hsound : Sound g controls p)
    (hresults : gather (routeFact rt g controls) (routes g p) = .ok results) (htrunc : truncates g p = false) : (entry, ids) ∈ results.map (fun fact => (fact.entryAssetId, fact.flowIds)) ↔
      ∃ path, RouteOf g p entry path ∧ path.map ArchitectureFlow.flowId = ids := by
  rw [results_named hresults, List.mem_map]
  constructor
  · rintro ⟨⟨entry', target, path⟩, hroute, heq⟩
    obtain ⟨rfl, rfl⟩ := Prod.mk.inj heq
    obtain ⟨hentry, htarget, hsimple, -⟩ := (mem_routes hsound).mp hroute
    exact ⟨path, ⟨hentry, target, htarget, hsimple⟩, rfl⟩
  · rintro ⟨path, hroute, rfl⟩
    obtain ⟨target, hmem⟩ := mem_routes_of_not_truncated hsound htrunc hroute
    exact ⟨_, hmem, rfl⟩

/-- The fact of a route is exposed by the flows of the route. -/
theorem routeFact_exposed (hsound : Sound g controls p) (hroute : route ∈ routes g p) (h : routeFact rt g controls route = .ok fact) :
    fact.exposed = true ↔ ∃ f ∈ g.flows, f.flowId ∈ fact.flowIds ∧ Exposes g controls f := by
  obtain ⟨entry, target, path⟩ := route
  obtain ⟨-, -, hsimple, -⟩ := (mem_routes hsound).mp hroute
  obtain ⟨_, path', unguarded, _, hmade⟩ := pathFact_made h
  have hpath : path' = path := by
    have hgather : (gather (getItem g.flow) (path.map ArchitectureFlow.flowId) : Gate _) = .ok path := by
      rw [gather_ok, List.forall₂_map_left_iff, List.forall₂_same]
      exact fun f hf => getItem_ok.mpr (Dict.ofItems_self hsound.flowIds (hsimple.leads.mem f hf))
    exact Except.ok.inj (hmade.alongFlows.symm.trans hgather)
  subst hpath
  have hmem : ∀ f ∈ g.flows, f.flowId ∈ fact.flowIds ↔ f ∈ path' := by
    intro f hf
    rw [hmade.namesFlows]
    constructor
    · intro hid
      obtain ⟨f', hf', heq⟩ := List.mem_map.mp hid
      rwa [← List.inj_on_of_nodup_map hsound.flowIds (hsimple.leads.mem f' hf') hf heq]
    · exact fun hf => List.mem_map_of_mem hf
  rw [hmade.exposed, ← or_assoc, unsatisfied_iff hmade.known]
  constructor
  · rintro (⟨c, hc, hne⟩ | hne)
    · obtain ⟨f, hf, hc⟩ := List.mem_flatMap.mp hc
      have hflow := hsimple.leads.mem f hf
      exact ⟨f, hflow, (hmem f hflow).mpr hf, .inl ⟨c, hc, hne⟩⟩
    · obtain ⟨i, hi⟩ := List.exists_mem_of_ne_nil _ hne
      obtain ⟨f, hf, hcross, hnone, -⟩ := (unguardedFlows_ok hmade.withoutGuard).mp hi
      have hflow := hsimple.leads.mem f hf
      exact ⟨f, hflow, (hmem f hflow).mpr hf, .inr ⟨hcross, hnone⟩⟩
  · rintro ⟨f, hflow, hid, ⟨c, hc, hne⟩ | ⟨hcross, hnone⟩⟩
    · exact .inl ⟨c, List.mem_flatMap.mpr ⟨f, (hmem f hflow).mp hid, hc⟩, hne⟩
    · exact .inr (List.ne_nil_of_mem ((unguardedFlows_ok hmade.withoutGuard).mpr ⟨f, (hmem f hflow).mp hid, hcross, hnone, rfl⟩))

/-! ## Controls that come to lack evidence -/

/-- The fact of the same path, exposed where the other is and of no lower score. -/
structure Worse (fact fact' : AttackPathFact) : Prop where
  pathId : fact'.pathId = fact.pathId
  entryAssetId : fact'.entryAssetId = fact.entryAssetId
  flowIds : fact'.flowIds = fact.flowIds
  exposed : fact.exposed = true → fact'.exposed = true
  riskScore : fact.riskScore ≤ fact'.riskScore

theorem ne_nil_of_length_le {α : Type} {xs ys : List α} (h : xs.length ≤ ys.length) (hxs : xs ≠ []) : ys ≠ [] := by
  rw [← List.length_pos_iff] at hxs ⊢
  omega

theorem pathFact_weakened (hw : Weakened controls controls') (h : pathFact rt g controls assetIds flowIds = .ok fact) :
    ∃ fact', pathFact rt g controls' assetIds flowIds = .ok fact' ∧ Worse fact fact' := by
  obtain ⟨zones, path, unguarded, a, hmade⟩ := pathFact_made h
  obtain ⟨fact', hfact'⟩ : ∃ fact', pathFact rt g controls' assetIds flowIds = .ok fact' := by
    simp only [pathFact, ok_bind, tally_ok]
    exact ⟨_, zones, hmade.inZones, path, hmade.alongFlows, unguarded, hmade.withoutGuard, _,
      ⟨fun c hc => hw.known (hmade.known c hc), rfl⟩, a, hmade.atTarget, rfl⟩
  obtain ⟨zones', path', unguarded', a', hmade'⟩ := pathFact_made hfact'
  obtain rfl := Except.ok.inj (hmade.inZones.symm.trans hmade'.inZones)
  obtain rfl := Except.ok.inj (hmade.alongFlows.symm.trans hmade'.alongFlows)
  obtain rfl := Except.ok.inj (hmade.withoutGuard.symm.trans hmade'.withoutGuard)
  obtain rfl := Except.ok.inj (hmade.atTarget.symm.trans hmade'.atTarget)
  have hexceptioned : (withStatus controls (required path) .exceptioned).length ≤ (withStatus controls' (required path) .exceptioned).length :=
    hw.length_le (by simp)
  have hmissing : (withStatus controls (required path) .notEvaluated).length ≤ (withStatus controls' (required path) .notEvaluated).length :=
    hw.length_le (by simp)
  refine ⟨fact', hfact', hmade'.pathId.trans hmade.pathId.symm, hmade'.entryAssetId.trans hmade.entryAssetId.symm,
    hmade'.namesFlows.trans hmade.namesFlows.symm, fun hexposed => ?_, ?_⟩
  · rw [hmade'.exposed]
    rcases hmade.exposed.mp hexposed with h | h | h
    · exact .inl (ne_nil_of_length_le hexceptioned h)
    · exact .inr (.inl (ne_nil_of_length_le hmissing h))
    · exact .inr (.inr h)
  · rw [hmade.riskScore, hmade'.riskScore]
    omega

theorem Sound.weakened (h : Sound g controls p) (hw : Weakened controls controls') : Sound g controls' p :=
  { h with controlled := fun f hf c hc => hw.known (h.controlled f hf c hc) }

theorem enumeratePaths_weakened (hsound : Sound g controls p) (hw : Weakened controls controls')
    (h : enumeratePaths rt g controls p = .ok facts) :
    ∃ facts', enumeratePaths rt g controls' p = .ok facts' ∧ ∀ fact ∈ facts, ∃ fact' ∈ facts', Worse fact fact' := by
  obtain ⟨results, hresults, hout⟩ := results_of_ok hsound h
  obtain ⟨hcount, htrunc, hids, rfl⟩ := outcome_ok hout
  obtain ⟨results', hresults', hworse⟩ : ∃ results', gather (routeFact rt g controls') (routes g p) = .ok results' ∧
      List.Forall₂ Worse results results' := by
    refine gather_of_forall₂ (R := Eq) ?_ (List.forall₂_same.mpr fun _ _ => rfl) hresults
    rintro route _ fact rfl hfact
    exact pathFact_weakened hw hfact
  obtain ⟨_, hresults'', heq⟩ := enumeratePaths_eq rt (hsound.weakened hw)
  obtain rfl := Except.ok.inj (hresults'.symm.trans hresults'')
  refine ⟨sortOn AttackPathFact.pathId results', ?_, fun fact hfact => ?_⟩
  · have hpathIds := map_eq_of_forall₂ (fun a b (hab : Worse a b) => hab.pathId.symm) hworse
    have hlength := hworse.length_eq
    rw [heq, outcome, raiseIf, if_neg (by omega), raiseIf, if_neg (by simp [htrunc]), raiseIf, if_neg (by rw [← hpathIds]; simpa using hids)]
    rfl
  · obtain ⟨fact', hfact', hw⟩ := exists_of_forall₂ hworse.flip (mem_sortOn.mp hfact)
    exact ⟨fact', mem_sortOn.mpr hfact', hw⟩

theorem error_of_not_ok {α ε : Type} {x : Except ε α} (h : ∀ a, x ≠ .ok a) : ∃ e, x = .error e := by
  cases x with
  | error e => exact ⟨e, rfl⟩
  | ok a => exact absurd rfl (h a)

/-- An assessment has the paths that were enumerated for its validated architecture and controls. -/
theorem evaluate_paths {a : VerifiedAttackPathAssessment} (h : evaluate rt p r m s = .ok a) :
    ∃ g controls, validateManifest rt m r p = .ok g ∧ validatePosture rt s r p g.flows = .ok controls ∧
      enumeratePaths rt g controls p = .ok a.paths := by
  simp only [evaluate, ok_bind, rejectIf_ok] at h
  obtain ⟨_, -, _, -, g, hg, controls, hcontrols, paths, hpaths, _, -, _, -, h⟩ := h
  obtain rfl := Except.ok.inj h
  exact ⟨g, controls, hg, hcontrols, hpaths⟩

/-- For a validated architecture. -/
theorem enumeratePaths_exact (hp : validatePolicy rt p = .ok ()) (hm : validateManifest rt m r p = .ok g)
    (hs : validatePosture rt s r p g.flows = .ok controls) :
    (∀ facts, enumeratePaths rt g controls p = .ok facts →
      (∀ entry ids, (∃ fact ∈ facts, fact.entryAssetId = entry ∧ fact.flowIds = ids) ↔
        ∃ path, RouteOf g p entry path ∧ path.map ArchitectureFlow.flowId = ids) ∧
      (facts.map fun fact => (fact.entryAssetId, fact.flowIds)).Nodup ∧
      (∀ fact ∈ facts, fact.exposed = true ↔ ∃ f ∈ g.flows, f.flowId ∈ fact.flowIds ∧ Exposes g controls f) ∧
      ∀ controls', Weakened controls controls' → ∃ facts', enumeratePaths rt g controls' p = .ok facts' ∧
        ∀ fact ∈ facts, ∃ fact' ∈ facts', Worse fact fact') ∧
    (∀ entry path, RouteOf g p entry path → p.maxPathHops < path.length → ∃ e, enumeratePaths rt g controls p = .error e) ∧
    (∀ found : List (String × List ArchitectureFlow), found.Nodup → (∀ q ∈ found, RouteOf g p q.1 q.2) → p.maxPaths < found.length →
      ∃ e, enumeratePaths rt g controls p = .error e) ∧
    ∀ a, evaluate rt p r m s = .ok a → enumeratePaths rt g controls p = .ok a.paths := by
  have hsound := sound_of_valid hp hm hs
  refine ⟨fun facts h => ?_, fun entry path hroute hlong => error_of_not_ok fun facts h => ?_,
    fun found hnodup hfound hmany => error_of_not_ok fun facts h => ?_, fun a ha => ?_⟩
  · obtain ⟨results, hresults, hout⟩ := results_of_ok hsound h
    obtain ⟨-, htrunc, -, rfl⟩ := outcome_ok hout
    refine ⟨fun entry ids => ?_, ?_, fun fact hfact => ?_, fun controls' hw => enumeratePaths_weakened hsound hw h⟩
    · rw [← named_iff hsound hresults htrunc]
      simp
    · exact ((perm_sortOn _ results).map _).nodup_iff.mpr (nodup_results hsound hresults)
    · obtain ⟨route, hroute, hrf⟩ := exists_of_forall₂ (gather_ok.mp hresults) (mem_sortOn.mp hfact)
      exact routeFact_exposed hsound hroute hrf
  · obtain ⟨results, -, hout⟩ := results_of_ok hsound h
    have htrunc := (outcome_ok hout).2.1
    rw [truncates_of_long hsound hroute hlong] at htrunc
    cases htrunc
  · obtain ⟨results, hresults, hout⟩ := results_of_ok hsound h
    obtain ⟨hcount, htrunc, -, -⟩ := outcome_ok hout
    -- every path that was found is a route, so there are at least as many of these
    have hsubset : found ⊆ (routes g p).map fun route => (route.1, route.2.2) := by
      rintro ⟨entry, path⟩ hq
      obtain ⟨target, hmem⟩ := mem_routes_of_not_truncated hsound htrunc (hfound _ hq)
      exact List.mem_map.mpr ⟨_, hmem, rfl⟩
    have hle := (hnodup.subperm hsubset).length_le
    have hlength := (gather_ok.mp hresults).length_eq
    rw [List.length_map] at hle
    omega
  · obtain ⟨g', controls', hg, hcontrols, hpaths⟩ := evaluate_paths ha
    obtain rfl := Except.ok.inj (hm.symm.trans hg)
    obtain rfl := Except.ok.inj (hs.symm.trans hcontrols)
    exact hpaths

namespace Sample

open Agentic (hex)

def gateway : ArchitectureAsset := ⟨"gateway", .apiGateway, "edge", "owner", .low, "takes requests"⟩

def store : ArchitectureAsset := ⟨"store", .vectorStore, "core", "owner", .high, "keeps vectors"⟩

def call : ArchitectureFlow := ⟨"call", "gateway", "store", .retrieval, "owner", ["auth"], "reads vectors"⟩

def manifest : ArchitectureManifest where
  architectureId := "architecture"
  version := "1"
  createdAtEpoch := 10
  assets := [gateway, store]
  flows := [call]

def runtime : Runtime := .tabled [canonicalArchitectureManifest manifest]

def graph : AssetGraph := ⟨[gateway, store], [call], hex '0'⟩

def policy : AttackPathPolicy where
  expectedArchitectureId := "architecture"
  expectedArchitectureVersion := "1"
  expectedArchitectureSha256 := hex '0'
  expectedPostureEvidenceSha256 := hex 'a'
  expectedControlCatalogSha256 := hex 'b'
  attackerProfileId := "outsider"
  requiredAssetIds := ["gateway", "store"]
  requiredFlowIds := ["call"]
  requiredEntryAssetIds := ["gateway"]
  requiredTargetAssetIds := ["store"]
  trustedOwnerIds := ["owner"]
  allowedTrustZones := ["edge", "core"]
  expectedTrustZoneByAsset := [("gateway", "edge"), ("store", "core")]
  minimumSensitivityByAsset := [("store", .high)]
  expectedFlowEndpoints := [("call", "gateway", "store")]
  expectedControlIdsByFlow := [("call", ["auth"])]

def request : AttackPathRequest :=
  ⟨"architecture", "1", hex '0', hex 'a', "outsider", ["gateway"], ["store"], 20, [], 0⟩

def posture : SecurityPosture where
  candidateReleaseId := "release"
  candidateCommitSha := hex 'c'
  candidatePackageVersion := "1"
  corpusId := "corpus"
  corpusVersion := "1"
  corpusSha256 := hex 'd'
  controlCatalogId := "catalog"
  controlCatalogVersion := "1"
  controlCatalogSha256 := hex 'b'
  waiverGovernanceEvidenceSha256 := hex 'e'
  corpusEvolutionEvidenceSha256 := hex 'f'
  overallRating := .green
  controlCount := 1
  satisfiedControlIds := ["auth"]
  exceptionedControlIds := []
  notEvaluatedControlIds := []
  assessments := [⟨"auth", "access", .high, .satisfied, [], [], [], [], hex '1'⟩]
  postureEvidenceSha256 := hex 'a'

@[simp] theorem casefold_id (s : String) : runtime.casefold s = s := rfl

@[simp] theorem isSha256_digest {c : Char} (hc : Agentic.Evidence.hexDigit c = true) : isSha256 runtime (hex c) := Assurance.isSha256_hex hc

theorem manifest_digest : architectureManifestDigest runtime manifest = hex '0' :=
  Assurance.tabled_digest 0 (by simp) (by simp) (by simp)

theorem policy_valid : validatePolicy runtime policy = .ok () := by
  simp only [validatePolicy, ok_seq, rejectIf_ok, forEach_ok]
  simp [policy, Agentic.Evidence.hexDigit]

theorem assets_valid : scan (validateAsset policy) [] [gateway, store] = .ok () := by
  simp [scan, validateAsset, gateway, store, policy, rejectIf, raiseIf, bind, Except.bind]

theorem flows_valid : scan (validateFlow policy graph.asset) [] [call] = .ok () := by
  simp [scan, validateFlow, call, policy, rejectIf, raiseIf, bind, Except.bind, crossesBoundary, trustZone, AssetGraph.asset, graph,
    Dict.ofItems, gateway, store, getItem, orRaise, pure, Except.pure]

theorem manifest_valid : validateManifest runtime manifest request policy = .ok graph := by
  have hassets : scan (validateAsset policy) [] manifest.assets = .ok () := assets_valid
  have hflows : scan (validateFlow policy graph.asset) [] manifest.flows = .ok () := flows_valid
  simp only [validateManifest, ok_seq, rejectIf_ok, forEach_ok, manifest_digest, hassets, true_and]
  simp [manifest, request, policy, distinct_eq_nil, P7A_ARCHITECTURE_SCHEMA_VERSION, AssetGraph.asset, AssetGraph.flow, Dict.ofItems,
    gateway, store, call, sensitivityRank, sameSet]
  exact ⟨hflows, rfl⟩

theorem controls_read : postureControls runtime controlRejections posture = .ok (controlStatuses posture.assessments) := by
  simp [postureControls, scan, posture, rejectIf, raiseIf, bind, Except.bind, pure, Except.pure, Agentic.Evidence.hexDigit, sameSet, controlsWith]

theorem posture_valid : validatePosture runtime posture request policy graph.flows = .ok (controlStatuses posture.assessments) := by
  simp only [validatePosture, ok_bind, exists_const, rejectIf_ok, forEach_ok, controls_read]
  refine ⟨?_, ?_, ?_, _, rfl, ?_, rfl⟩
  · simp [posture, Agentic.Evidence.hexDigit, SecurityPosture.Intact]
  · simp [posture, request, policy]
  · simp [posture, policy]
  · simp [graph, call, posture, controlStatuses, Dict.mapping]

/-- The path from the gateway to the store is reported. -/
theorem call_reported : ∃ facts, enumeratePaths runtime graph (controlStatuses posture.assessments) policy = .ok facts ∧
    ∃ fact ∈ facts, fact.entryAssetId = "gateway" ∧ fact.flowIds = ["call"] := by
  obtain ⟨facts, hfacts⟩ := ok_of_isSome (show (enumeratePaths runtime graph (controlStatuses posture.assessments) policy).toOption.isSome = true by
    decide +kernel)
  obtain ⟨hexact, -⟩ := (enumeratePaths_exact policy_valid manifest_valid posture_valid).1 facts hfacts
  refine ⟨facts, hfacts, (hexact "gateway" ["call"]).mpr ⟨[call], ⟨by simp [policy], "store", by simp [policy], ?_⟩, rfl⟩⟩
  exact ⟨⟨by simp [graph], rfl, rfl⟩, by simp [call]⟩

end Sample

end Aegis.Architecture.AttackPaths
