/-
  Aegis.Agentic.TrustLaundering — what becomes of the trust of generated content along a run.

  An action is held against the trust its sources have by then, never against that of the artifact it changes,
  which may be left out of its sources.
  - `actAll_at`: the action at any place of a run has been taken on the trust the actions before it granted.
  - `taken_low`: an allowed action that has a source of low trust grants low trust.
  - `reached_low`: so whatever comes from content of low trust has low trust, in every run in which an action that
    raises an artifact of low trust names a source of low trust.
  - `never_trusted_of_named`: and no allowed action of such a run grants it more.
  - `Sample.plan_laundered`: a generated plan is changed in place, without sources, and is verified.
-/

import Aegis.Agentic.SensitivePaths

namespace Aegis.Agentic.ArtifactSecurity

open Data Evidence Checked Decision KeyedWrites

variable {rt : Runtime} {m : AgentArtifactManifest} {c : Upstreams} {xs before after : List Taken} {y : Taken}

def ArtifactTrust.Low (t : ArtifactTrust) : Prop := t ∈ [ArtifactTrust.untrustedInput, .generated]

def ArtifactTrust.High (t : ArtifactTrust) : Prop := t ∈ [ArtifactTrust.verified, .trustedControl]

theorem ArtifactTrust.low_or_high (t : ArtifactTrust) : t.Low ∨ t.High := by
  unfold Low High
  cases t
  all_goals decide

/-- The trust an action grants its artifact. -/
def grants (x : Taken) : Option ArtifactTrust := if x.2.decision = .allow ∧ x.1.operation ∈ resulting then some x.1.proposedTrust else none

/-- `current_trust` after the actions. -/
def trustAfter (start : Dict ArtifactTrust) (xs : List Taken) : Dict ArtifactTrust := writeAll (fun x : Taken => x.1.artifactId) grants start xs

/-- An artifact has low trust. -/
def IsLow (trust : Dict ArtifactTrust) (id : String) : Prop := ∃ t ∈ trust id, t.Low

/-! ## What comes from an artifact -/

/-- An allowed action brings its artifact among what is reached, if one of its sources is. -/
def reach (reached : String → Prop) (x : Taken) (id : String) : Prop :=
  reached id ∨ ((grants x).isSome = true ∧ id = x.1.artifactId ∧ ∃ source ∈ x.1.sourceArtifactIds, reached source)

/-- What comes from an artifact by the actions: itself, and what they derive from it. -/
def Comes (origin : String) (xs : List Taken) : String → Prop := xs.foldl reach (· = origin)

/-- An action changes something that comes from an artifact, or derives something from it. -/
def Touches (origin : String) (xs : List Taken) (y : Taken) : Prop :=
  Comes origin xs y.1.artifactId ∨ ∃ source ∈ y.1.sourceArtifactIds, Comes origin xs source

/-- Once an artifact has low trust, no action grants high trust to it, or to what is derived from it. -/
def NeverTrusted (start : Dict ArtifactTrust) (xs : List Taken) : Prop :=
  ∀ before between y after, xs = before ++ between ++ y :: after → ∀ origin, IsLow (trustAfter start before) origin →
    Touches origin between y → (grants y).isSome = true → ¬ y.1.proposedTrust.High

/-- An action that would raise an artifact of low trust names a source of low trust, its own artifact for one. -/
def Named (start : Dict ArtifactTrust) (xs : List Taken) : Prop :=
  ∀ before y after, xs = before ++ y :: after → y.1.proposedTrust.High → IsLow (trustAfter start before) y.1.artifactId →
    ∃ source ∈ y.1.sourceArtifactIds, IsLow (trustAfter start before) source

theorem Comes.snoc {origin : String} : Comes origin (xs ++ [y]) = reach (Comes origin xs) y :=
  List.foldl_append

theorem trustAfter_snoc {start : Dict ArtifactTrust} :
    trustAfter start (xs ++ [y]) = write (fun x : Taken => x.1.artifactId) grants (trustAfter start xs) y := List.foldl_append

/-! ## The run -/

/-- An action leaves the trust it grants. -/
theorem act_trust {cur cur' : Current} {a : ArtifactAction} {fact : ArtifactActionFact} (h : act rt m c cur a = .ok (cur', fact)) :
    cur'.trust = write (fun x : Taken => x.1.artifactId) grants cur.trust (a, fact) := by
  obtain ⟨artifact, w, kinds, base, sources, -, -, -, -, -, rfl, -⟩ := act_ok h
  by_cases hchanged : fact.decision = .allow ∧ a.operation ∈ resulting
  · rw [if_pos hchanged]
    funext k
    have hgranted : grants (a, fact) = some a.proposedTrust := if_pos hchanged
    rw [write_some hgranted]
    rfl
  · have hnone : grants (a, fact) = none := if_neg hchanged
    rw [if_neg hchanged, write_none hnone]

/-- The action at any place of a run is taken on the trust the actions before it granted. -/
theorem actAll_at {cur : Current} {as : List ArtifactAction} {facts : List ArtifactActionFact} {results : Dict String}
    (h : actAll rt m c cur as = .ok (facts, results))
    (hsplit : as.zip facts = before ++ y :: after) : ∃ t t', act rt m c t y.1 = .ok (t', y.2) ∧ t.trust = trustAfter cur.trust before := by
  induction before generalizing cur as facts with
  | nil =>
    cases as with
    | nil => cases hsplit
    | cons a as =>
      unfold actAll at h
      simp only [bind_ok, Prod.exists] at h
      obtain ⟨cur', fact, hact, facts', results', -, he⟩ := h
      obtain ⟨rfl, -⟩ := Prod.mk.inj (Except.ok.inj he)
      obtain ⟨rfl, -⟩ := List.cons.inj hsplit
      exact ⟨cur, cur', hact, rfl⟩
  | cons x before ih =>
    cases as with
    | nil => cases hsplit
    | cons a as =>
      unfold actAll at h
      simp only [bind_ok, Prod.exists] at h
      obtain ⟨cur', fact, hact, facts', results', hrest, he⟩ := h
      obtain ⟨rfl, rfl⟩ := Prod.mk.inj (Except.ok.inj he)
      obtain ⟨rfl, htail⟩ := List.cons.inj hsplit
      obtain ⟨t, t', ht, htrust⟩ := ih hrest htail
      exact ⟨t, t', ht, htrust.trans (congrArg (fun trust => trustAfter trust before) (act_trust hact))⟩

section
variable {start : Current} {as : List ArtifactAction} {facts : List ArtifactActionFact} {results : Dict String} {before between after : List Taken}
  {y : Taken}

section

variable (h : actAll rt m c start as = .ok (facts, results))
include h

/-- An allowed action that has a source of low trust grants low trust. -/
theorem taken_low (hsplit : as.zip facts = before ++ y :: after)
    (hgranted : (grants y).isSome = true) (hsource : ∃ source ∈ y.1.sourceArtifactIds, IsLow (trustAfter start.trust before) source) :
    ¬ y.1.proposedTrust.High := by
  obtain ⟨t, t', hact, htrust⟩ := actAll_at h hsplit
  have hallow : y.2.decision = .allow := by
    by_contra hdeny
    rw [grants, if_neg fun hg => hdeny hg.1] at hgranted
    cases hgranted
  obtain ⟨artifact, w, kinds, base, sources, -, -, hsources, -, -, -, hrisks⟩ := act_allowed hact hallow
  simp only [currentRisks, List.append_eq_nil_iff, flag_eq_nil] at hrisks
  intro hhigh
  obtain ⟨source, hin, trust, hsome, hlow⟩ := hsource
  obtain ⟨trust', hmem, hread⟩ := Checks.mem_gather hsources hin
  rw [getItem_ok, htrust] at hread
  obtain rfl : trust = trust' := Option.some.inj (hsome.symm.trans hread)
  exact hrisks.2 ⟨⟨trust, hmem, hlow⟩, hhigh⟩

theorem granted_low (hn : Named start.trust (as.zip facts))
    (hsplit : as.zip facts = before ++ y :: after) (hgranted : (grants y).isSome = true)
    (hlow : IsLow (trustAfter start.trust before) y.1.artifactId ∨ ∃ source ∈ y.1.sourceArtifactIds, IsLow (trustAfter start.trust before) source) :
    ¬ y.1.proposedTrust.High := by
  intro hhigh
  rcases hlow with hlow | hsource
  · exact taken_low h hsplit hgranted (hn before y after hsplit hhigh hlow) hhigh
  · exact taken_low h hsplit hgranted hsource hhigh

/-- What comes from an artifact of low trust has low trust. -/
theorem reached_low (hn : Named start.trust (as.zip facts)) {origin : String}
    (hsplit : as.zip facts = before ++ between ++ after) (horigin : IsLow (trustAfter start.trust before) origin) {id : String}
    (hid : Comes origin between id) : IsLow (trustAfter start.trust (before ++ between)) id := by
  induction between using List.reverseRecOn generalizing id after with
  | nil =>
    obtain rfl : id = origin := hid
    rw [List.append_nil]
    exact horigin
  | append_singleton between y ih =>
    have hrest : as.zip facts = (before ++ between) ++ y :: after := by simpa using hsplit
    have hreached : ∀ k, Comes origin between k → IsLow (trustAfter start.trust (before ++ between)) k := fun k hk => ih hrest hk
    rw [← List.append_assoc, trustAfter_snoc, IsLow]
    rw [Comes.snoc] at hid
    cases hgranted : grants y with
    | none =>
      rw [write_none hgranted]
      rcases hid with hid | ⟨hsome, -⟩
      · exact hreached id hid
      · rw [hgranted] at hsome
        cases hsome
    | some trust =>
      have hsome : (grants y).isSome = true := by
        rw [hgranted]
        rfl
      have hproposed : trust = y.1.proposedTrust := by
        unfold grants at hgranted
        split_ifs at hgranted
        exact (Option.some.inj hgranted).symm
      rw [write_some hgranted]
      by_cases hk : id = y.1.artifactId
      · rw [if_pos hk]
        refine ⟨trust, rfl, hproposed ▸ (y.1.proposedTrust.low_or_high.resolve_right (granted_low h hn hrest hsome ?_))⟩
        rcases hid with hid | ⟨-, -, source, hin, hsource⟩
        · exact .inl (hreached _ (hk ▸ hid))
        · exact .inr ⟨source, hin, hreached source hsource⟩
      · rw [if_neg hk]
        rcases hid with hid | ⟨-, he, -⟩
        · exact hreached id hid
        · exact absurd he hk

end

end

/-- In every run in which an action that would raise an artifact of low trust names a source of low trust, what has
low trust never comes to high trust, nor does what is derived from it. -/
theorem never_trusted_of_named (analyzer : AgentArtifactWorkspaceSecurityAnalyzer) (p8c p8f p8h : Json) (now : Int) (facts : List ArtifactActionFact)
    (results : Dict String) (h : analyzer.derive rt m p8c p8f p8h now = .ok (facts, results)) (hn : Named (initial rt m).trust (m.actions.zip facts)) :
    List.Forall₂ (fun a fact => fact.actionId = a.actionId) m.actions facts ∧ NeverTrusted (initial rt m).trust (m.actions.zip facts) := by
  obtain ⟨-, -, -, hall⟩ := derive_ok.mp h
  refine ⟨(actAll_based hall).1, fun before between y after hsplit origin horigin htouches hgranted => ?_⟩
  refine granted_low hall hn hsplit hgranted ?_
  rcases htouches with hid | ⟨source, hin, hsource⟩
  · exact .inl (reached_low hall hn hsplit horigin hid)
  · exact .inr ⟨source, hin, reached_low hall hn hsplit horigin hsource⟩

namespace Sample

/-- The plan is replaced by what was generated. -/
def generated : ArtifactAction := { first (hex 'a') with proposedTrust := .generated }

/-- The generated plan is changed, and declared as verified; `sources` are its sources. -/
def verifiedAgain (sources : List String) : ArtifactAction := { second with sourceArtifactIds := sources }

def laundering (sources : List String) : AgentArtifactManifest := manifest pinned [generated, verifiedAgain sources]

def launderingText (sources : List String) : Json := (laundering sources).canonical (runtime .null)

theorem laundering_digest (sources : List String) :
    (manifest pinned [generated, verifiedAgain sources]).digest (runtime (launderingText sources)) = hex '0' := manifest_digest rfl

/-- The plan is generated and then verified, by two allowed actions without sources. -/
theorem plan_laundered : ∃ facts results, (analyzer ["first", "second"]).derive (runtime (launderingText [])) (laundering []) evidence evidence evidence 15 =
      .ok (facts, results) ∧ facts.map (·.decision) = [.allow, .allow] ∧
    ¬ NeverTrusted (initial (runtime (launderingText [])) (laundering [])).trust ((laundering []).actions.zip facts) := by
  have hdecided : decisions (launderingText []) ["first", "second"] [generated, verifiedAgain []] = some [.allow, .allow] := by
    simp only [decisions, AgentArtifactWorkspaceSecurityAnalyzer.derive, validateManifest, laundering_digest]
    decide +kernel
  obtain ⟨⟨facts, results⟩, h, hdecisions⟩ := Checks.ok_of_map hdecided
  refine ⟨facts, results, h, hdecisions, fun hnever => ?_⟩
  obtain ⟨fact, rest, rfl, hallow, hrest⟩ := List.map_eq_cons_iff.mp hdecisions
  obtain ⟨fact', rfl, hallow'⟩ := List.map_eq_singleton_iff.mp hrest
  have hmodify : ArtifactOperation.modify ∈ resulting := by decide
  have hgenerated : grants (generated, fact) = some .generated := if_pos ⟨hallow, hmodify⟩
  have hverified : grants (verifiedAgain [], fact') = some .verified := if_pos ⟨hallow', hmodify⟩
  have hgranted : (grants (verifiedAgain [], fact')).isSome = true := by
    rw [hverified]
    rfl
  have hlow : IsLow (trustAfter (initial (runtime (launderingText [])) (laundering [])).trust [(generated, fact)]) "plan" := by
    rw [trustAfter, writeAll_cons, writeAll_nil, IsLow, write_some hgenerated]
    exact ⟨.generated, rfl, List.mem_cons_of_mem _ List.mem_cons_self⟩
  exact hnever [(generated, fact)] [] (verifiedAgain [], fact') [] rfl "plan" hlow (.inl rfl) hgranted List.mem_cons_self

/-- The plan among the sources: the second action is denied. -/
theorem never_trusted_sourced : ∃ facts results,
    (analyzer ["first", "second"]).derive (runtime (launderingText ["plan"])) (laundering ["plan"]) evidence evidence evidence 15 =
      .ok (facts, results) ∧ facts.map (·.decision) = [.allow, .deny] ∧
    NeverTrusted (initial (runtime (launderingText ["plan"])) (laundering ["plan"])).trust ((laundering ["plan"]).actions.zip facts) := by
  have hdecided : decisions (launderingText ["plan"]) ["first", "second"] [generated, verifiedAgain ["plan"]] = some [.allow, .deny] := by
    simp only [decisions, AgentArtifactWorkspaceSecurityAnalyzer.derive, validateManifest, laundering_digest]
    decide +kernel
  obtain ⟨⟨facts, results⟩, h, hdecisions⟩ := Checks.ok_of_map hdecided
  refine ⟨facts, results, h, hdecisions, (never_trusted_of_named _ _ _ _ _ facts results h ?_).2⟩
  obtain ⟨fact, rest, rfl, hallow, hrest⟩ := List.map_eq_cons_iff.mp hdecisions
  obtain ⟨fact', rfl, -⟩ := List.map_eq_singleton_iff.mp hrest
  intro before y after hsplit hhigh hlow
  rcases before with _ | ⟨x, before⟩
  · obtain ⟨rfl, -⟩ := List.cons.inj hsplit
    have hgenerated : ¬ ArtifactTrust.generated ∈ [ArtifactTrust.verified, .trustedControl] := by decide
    exact absurd hhigh hgenerated
  · obtain ⟨rfl, htail⟩ := List.cons.inj hsplit
    rcases before with _ | ⟨x, before⟩
    · obtain ⟨rfl, -⟩ := List.cons.inj htail
      exact ⟨"plan", List.mem_cons_self, hlow⟩
    · obtain ⟨-, hnone⟩ := List.cons.inj htail
      cases before with
      | nil => cases hnone
      | cons _ _ => cases hnone

end Sample

end Aegis.Agentic.ArtifactSecurity
