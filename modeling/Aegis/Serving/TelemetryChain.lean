/-
  Aegis.Serving.TelemetryChain — what a run of the P5-I engine has accepted, and how it responds.

  `verified_of_evaluate` says what an accepted call has checked. `Ledger` is the invariant of a
  deployment: its accepted batches lead, link by link, from the genesis cursor to the cursor of the
  engine, and the engine remembers every batch id and event id of theirs (`ledger_of_run`). Hence the
  sequence numbers of their events are 1, 2, 3, … in order (`sequences_along`).

  `action_mono` is about the response alone: risk points grow with the occurrences of the events,
  with further events, and with the principals of thresholded signals.
-/

import Mathlib.Algebra.Order.BigOperators.Group.List
import Aegis.Data.Lineage
import Aegis.Serving.AbuseResponse

namespace Aegis.Serving

open Data Data.Checks
open Agentic (Dict)
open Assurance (isSha256)

variable {κ σ : Type} {rt : Runtime κ σ} {policy : ServingAbusePolicy κ} {s s' : Engine} {c : Call σ} {b : ServingTelemetryBatch}
  {t t' : Tally} {e : ServingAbuseEvent} {es es' : List ServingAbuseEvent} {d : String}

/-! ## What an accepted batch has checked -/

variable (rt) in
/-- `b` extends the chain whose end is at `cur`, up to `next`. -/
structure Links (cur : TelemetryCursor) (b : ServingTelemetryBatch) (next : TelemetryCursor) : Prop where
  firstSequence : b.firstSequence = cur.lastSequence + 1
  lastSequence : b.firstSequence ≤ b.lastSequence
  sequences : b.events.map ServingAbuseEvent.sequence = intRange b.firstSequence (b.lastSequence + 1)
  previousBatchSha256 : rt.casefold b.previousBatchSha256 = rt.casefold cur.lastBatchSha256
  next : next = ⟨b.lastSequence, batchDigest rt b⟩

/-- The checks of an event that do not look at others. -/
structure Wellformed (policy : ServingAbusePolicy κ) (e : ServingAbuseEvent) : Prop where
  occurrences : 0 < e.occurrences
  score : ¬ BelowFloor policy e

/-- What the tally of some events is, after that of others. -/
structure Tallied (policy : ServingAbusePolicy κ) (t : Tally) (es : List ServingAbuseEvent) (t' : Tally) : Prop where
  eventIds : t'.eventIds = t.eventIds ++ es.map ServingAbuseEvent.eventId
  riskPoints : t'.riskPoints = t.riskPoints + (es.map fun e => weight policy e.signalType * e.occurrences).sum
  attackPrincipals : ∀ p, p ∈ t'.attackPrincipals ↔
    p ∈ t.attackPrincipals ∨ ∃ e ∈ es, Thresholded e.signalType ∧ e.principalId = p

theorem checkEvent_ok {u : Unit} (h : checkEvent policy s b t e = .ok u) :
    e.eventId ∉ t.eventIds ∧ (b.deploymentId, e.eventId) ∉ s.seenEventIds ∧ Wellformed policy e := by
  simp only [checkEvent, ok_seq, raiseIf_ok, not_or, not_le] at h
  obtain ⟨⟨-, hbatch, hseen⟩, -, ⟨-, -, -, -, -, -, hocc, -⟩, hfloor⟩ := h
  exact ⟨hbatch, hseen, hocc, hfloor⟩

theorem tallied_cons (h : Tallied policy (t.add policy e) es t') : Tallied policy t (e :: es) t' where
  eventIds := by
    rw [h.eventIds]
    simp [Tally.add]
  riskPoints := by
    rw [h.riskPoints, List.map_cons, List.sum_cons, ← Int.add_assoc]
    rfl
  attackPrincipals p := by
    rw [h.attackPrincipals, Tally.add]
    by_cases hsignal : Thresholded e.signalType
    · rw [if_pos hsignal, Finset.mem_insert]
      simp [hsignal, eq_comm, or_left_comm, or_assoc]
    · rw [if_neg hsignal]
      simp [hsignal]

/-- The loop counts every event once; none was seen before. -/
theorem tallyEvents_ok (h : tallyEvents policy s b t es = .ok t') :
    Tallied policy t es t' ∧ (∀ e ∈ es, Wellformed policy e ∧ (b.deploymentId, e.eventId) ∉ s.seenEventIds) ∧
      (es.map ServingAbuseEvent.eventId).Nodup ∧ ∀ e ∈ es, e.eventId ∉ t.eventIds := by
  induction es generalizing t with
  | nil =>
    cases h
    refine ⟨⟨by simp, by simp, by simp⟩, by simp, by simp, by simp⟩
  | cons e es ih =>
    simp only [tallyEvents, ok_seq] at h
    obtain ⟨hnew, hseen, hwell⟩ := checkEvent_ok h.1
    obtain ⟨htallied, hall, hnodup, hfresh⟩ := ih h.2
    have hrest : ∀ x ∈ es, x.eventId ≠ e.eventId ∧ x.eventId ∉ t.eventIds := by
      intro x hx
      have hx := hfresh x hx
      rw [Tally.add, List.mem_append, List.mem_singleton, not_or] at hx
      exact ⟨hx.2, hx.1⟩
    refine ⟨tallied_cons htallied, List.forall_mem_cons.mpr ⟨⟨hwell, hseen⟩, hall⟩, ?_,
      List.forall_mem_cons.mpr ⟨hnew, fun x hx => (hrest x hx).2⟩⟩
    rw [List.map_cons, List.nodup_cons]
    refine ⟨fun hmem => ?_, hnodup⟩
    obtain ⟨x, hx, he⟩ := List.mem_map.mp hmem
    exact (hrest x hx).1 he

/-- What an accepted call has checked, and what it counted. -/
structure Verified (rt : Runtime κ σ) (policy : ServingAbusePolicy κ) (s : Engine) (c : Call σ) (t : Tally) : Prop where
  valid : validatePolicy rt policy = .ok ()
  batchId : (c.batch.deploymentId, c.batch.batchId) ∉ s.seenBatchIds
  links : Links rt (s.cursor c.batch.deploymentId) c.batch ⟨c.batch.lastSequence, batchDigest rt c.batch⟩
  tallied : Tallied policy .zero c.batch.events t
  events : ∀ e ∈ c.batch.events, Wellformed policy e ∧ (c.batch.deploymentId, e.eventId) ∉ s.seenEventIds
  nodup : (c.batch.events.map ServingAbuseEvent.eventId).Nodup

theorem verified_of_verify (h : verify rt policy s c = .ok t) : Verified rt policy s c t := by
  simp only [verify, ok_seq, raiseIf_ok, not_or, not_not, not_lt] at h
  obtain ⟨hpolicy, -, -, -, -, ⟨-, -, -, -, -, -, -, hrange, -, -, -⟩, -, -, h⟩ := h
  obtain ⟨key, -, h⟩ := ok_bind.mp h
  simp only [ok_seq, raiseIf_ok, not_not] at h
  obtain ⟨-, hbatch, hfirst, hprevious, hsequences, htally⟩ := h
  obtain ⟨htallied, hevents, hnodup, -⟩ := tallyEvents_ok htally
  exact ⟨hpolicy, hbatch, ⟨hfirst, hrange, hsequences, hprevious, rfl⟩, htallied, hevents, hnodup⟩

/-! ## Runs -/

/-- What a call came to. -/
abbrev Served (σ : Type) := Call σ × Except AbuseTelemetryRejected VerifiedIncidentDecision

variable (rt policy) in
def Serves (s : Engine) (p : Served σ) (s' : Engine) : Prop := evaluate rt policy s p.1 = (p.2, s')

/-- The batches of a deployment that were accepted, in that order. -/
def accepted (d : String) (steps : List (Served σ)) : List ServingTelemetryBatch :=
  steps.filterMap fun p => if p.2.toOption.isSome ∧ p.1.batch.deploymentId = d then some p.1.batch else none

/-- A call is rejected and changes nothing, or its batch is verified and the engine moves on. -/
theorem serves_cases {p : Served σ} (h : Serves rt policy s p s') : (∃ e, p.2 = .error e ∧ s' = s) ∨
      ∃ t, Verified rt policy s p.1 t ∧ p.2 = .ok (decision rt policy p.1 t) ∧ s' = s.accept rt p.1.batch t := by
  unfold Serves evaluate at h
  cases hv : verify rt policy s p.1 with
  | error e =>
    rw [hv] at h
    exact .inl ⟨e, (congrArg Prod.fst h).symm, (congrArg Prod.snd h).symm⟩
  | ok t =>
    rw [hv] at h
    exact .inr ⟨t, verified_of_verify hv, (congrArg Prod.fst h).symm, (congrArg Prod.snd h).symm⟩

variable (rt) in
/-- The accepted batches `bs` of the deployment `d`, and what the engine remembers of them. -/
structure Ledger (s : Engine) (d : String) (bs : List ServingTelemetryBatch) : Prop where
  chained : Along (Links rt) {} bs (s.cursor d)
  batchIds : ∀ b ∈ bs, (d, b.batchId) ∈ s.seenBatchIds
  eventIds : ∀ i ∈ bs.flatMap fun b => b.events.map ServingAbuseEvent.eventId, (d, i) ∈ s.seenEventIds
  nodupBatches : (bs.map ServingTelemetryBatch.batchId).Nodup
  nodupEvents : (bs.flatMap fun b => b.events.map ServingAbuseEvent.eventId).Nodup

theorem ledger_init : Ledger rt .init d [] := ⟨rfl, by simp, by simp, by simp, by simp⟩

theorem cursor_accept_self : (s.accept rt b t).cursor b.deploymentId = ⟨b.lastSequence, batchDigest rt b⟩ := by
  simp [Engine.cursor, Engine.accept]

theorem cursor_accept_ne (h : d ≠ b.deploymentId) : (s.accept rt b t).cursor d = s.cursor d := by
  simp [Engine.cursor, Engine.accept, Dict.set_ne h]

variable {bs : List ServingTelemetryBatch}

/-- A deployment of its own is not touched by a batch of another. -/
theorem ledger_accept_ne (h : Ledger rt s d bs) (hd : d ≠ b.deploymentId) : Ledger rt (s.accept rt b t) d bs where
  chained := by
    rw [cursor_accept_ne hd]
    exact h.chained
  batchIds x hx := List.mem_cons_of_mem _ (h.batchIds x hx)
  eventIds i hi := List.mem_append_right _ (h.eventIds i hi)
  nodupBatches := h.nodupBatches
  nodupEvents := h.nodupEvents

theorem ledger_accept_self (h : Ledger rt s c.batch.deploymentId bs)
    (hv : Verified rt policy s c t) : Ledger rt (s.accept rt c.batch t) c.batch.deploymentId (bs ++ [c.batch]) where
  chained := Along.append.mpr ⟨_, h.chained, _, hv.links, cursor_accept_self.symm⟩
  batchIds x hx := by
    rcases List.mem_append.mp hx with hx | hx
    · exact List.mem_cons_of_mem _ (h.batchIds x hx)
    · rw [List.mem_singleton.mp hx]
      exact List.mem_cons_self
  eventIds i hi := by
    rw [List.flatMap_append, List.mem_append] at hi
    rcases hi with hi | hi
    · exact List.mem_append_right _ (h.eventIds i hi)
    · refine List.mem_append_left _ (List.mem_map.mpr ⟨i, ?_, rfl⟩)
      rw [hv.tallied.eventIds]
      simpa [Tally.zero] using hi
  nodupBatches := by
    rw [List.map_append, List.map_singleton]
    refine h.nodupBatches.append (List.nodup_singleton _) ?_
    rw [List.disjoint_singleton]
    intro hmem
    obtain ⟨x, hx, he⟩ := List.mem_map.mp hmem
    exact hv.batchId (he ▸ h.batchIds x hx)
  nodupEvents := by
    rw [List.flatMap_append]
    refine h.nodupEvents.append (by simpa using hv.nodup) fun i hi hnew => ?_
    obtain ⟨e, he, rfl⟩ : ∃ e ∈ c.batch.events, e.eventId = i := by simpa using hnew
    exact (hv.events e he).2 (h.eventIds _ hi)

/-- What a deployment's ledger is after a run. -/
theorem ledger_of_run {steps : List (Served σ)} (h : Along (Serves rt policy) .init steps s) (d : String) :
    Ledger rt s d (accepted d steps) := by
  rw [← List.nil_append steps]
  refine h.history (I := fun ts s => Ledger rt s d (accepted d ts)) ?_ ledger_init
  intro ts s p s' hstep hledger
  rw [accepted, List.filterMap_append, List.filterMap_cons, List.filterMap_nil]
  rcases serves_cases hstep with ⟨e, hp, rfl⟩ | ⟨t, hv, hp, rfl⟩
  · rw [if_neg (by simp [hp, Except.toOption]), List.append_nil]
    exact hledger
  · by_cases hd : p.1.batch.deploymentId = d
    · rw [if_pos ⟨by simp [hp, Except.toOption], hd⟩]
      exact hd ▸ ledger_accept_self (hd ▸ hledger) hv
    · rw [if_neg (by simp [hd]), List.append_nil]
      exact ledger_accept_ne hledger (Ne.symm hd)

/-! ## Sequence numbers -/

theorem intRange_append {a m b : Int} (ham : a ≤ m) (hmb : m ≤ b) : intRange a m ++ intRange m b = intRange a b := by
  have hlen : (b - a).toNat = (m - a).toNat + (b - m).toNat := by omega
  rw [intRange, intRange, intRange, hlen, List.range_add, List.map_append, List.map_map]
  congr 1
  refine List.map_congr_left fun n _ => ?_
  simp only [Function.comp_apply]
  omega

theorem sequences_along {cur cur' : TelemetryCursor} (h : Along (Links rt) cur bs cur') :
    cur.lastSequence ≤ cur'.lastSequence ∧
      (bs.flatMap fun b => b.events.map ServingAbuseEvent.sequence) = intRange (cur.lastSequence + 1) (cur'.lastSequence + 1) := by
  induction bs generalizing cur with
  | nil =>
    rw [Along.nil.mp h]
    simp [intRange]
  | cons b bs ih =>
    obtain ⟨next, hlinks, hrest⟩ := h
    obtain ⟨hle, hseq⟩ := ih hrest
    have hnext : next.lastSequence = b.lastSequence := by rw [hlinks.next]
    have hfirst := hlinks.firstSequence
    have hlast := hlinks.lastSequence
    refine ⟨by omega, ?_⟩
    rw [List.flatMap_cons, hseq, hlinks.sequences, hnext, hfirst]
    exact intRange_append (by omega) (by omega)

theorem pairwise_along {cur cur' : TelemetryCursor} (h : Along (Links rt) cur bs cur') :
    (∀ b ∈ bs, cur.lastSequence < b.firstSequence) ∧ bs.Pairwise fun b b' => b.lastSequence < b'.firstSequence := by
  induction bs generalizing cur with
  | nil => simp
  | cons b bs ih =>
    obtain ⟨next, hlinks, hrest⟩ := h
    obtain ⟨hafter, hpairs⟩ := ih hrest
    have hnext : next.lastSequence = b.lastSequence := by rw [hlinks.next]
    have hfirst := hlinks.firstSequence
    have hlast := hlinks.lastSequence
    refine ⟨List.forall_mem_cons.mpr ⟨by omega, fun x hx => ?_⟩, List.pairwise_cons.mpr ⟨fun x hx => ?_, hpairs⟩⟩
    · have hx := hafter x hx
      omega
    · have hx := hafter x hx
      omega

/-! ## The response is monotone -/

/-- `es'` has the events of `es`, with their occurrences raised, and perhaps others; and the principals of thresholded
    signals of `es` are some of those of `es'`. -/
structure Raises (es es' : List ServingAbuseEvent) : Prop where
  events : ∃ kept, kept.Subperm es' ∧ List.Forall₂ (fun e e' => e'.signalType = e.signalType ∧ e.occurrences ≤ e'.occurrences) es kept
  principals : ∀ e ∈ es, Thresholded e.signalType → ∃ e' ∈ es', Thresholded e'.signalType ∧ e'.principalId = e.principalId

section

variable (h : validatePolicy rt policy = .ok ())
include h

theorem weight_nonneg (signal : AbuseSignalType) : 0 ≤ weight policy signal := by
  simp only [validatePolicy, ok_seq, raiseIf_ok, not_or, not_exists, not_and, not_lt] at h
  obtain ⟨⟨-, -, -, -, -, -, -, -, -, -, hweights⟩, -⟩ := h
  unfold weight
  cases hf : policy.signalWeights.find? fun w => w.1 = signal with
  | none => simp
  | some w => simpa using hweights w (List.mem_of_find?_eq_some hf)

theorem riskPoints_mono (hr : Raises es es') (hpos : ∀ e ∈ es', 0 < e.occurrences) :
    (es.map fun e => weight policy e.signalType * e.occurrences).sum ≤
      (es'.map fun e => weight policy e.signalType * e.occurrences).sum := by
  obtain ⟨kept, ⟨l, hperm, hsub⟩, hraised⟩ := hr.events
  calc (es.map fun e => weight policy e.signalType * e.occurrences).sum
      ≤ (kept.map fun e => weight policy e.signalType * e.occurrences).sum := by
        refine List.Forall₂.sum_le_sum (List.forall₂_map_left_iff.mpr (List.forall₂_map_right_iff.mpr (hraised.imp ?_)))
        rintro e e' ⟨hsignal, hocc⟩
        rw [hsignal]
        exact Int.mul_le_mul_of_nonneg_left hocc (weight_nonneg h _)
    _ = (l.map fun e => weight policy e.signalType * e.occurrences).sum := ((hperm.map _).sum_eq).symm
    _ ≤ (es'.map fun e => weight policy e.signalType * e.occurrences).sum := by
        refine (hsub.map _).sum_le_sum fun x hx => ?_
        obtain ⟨e, he, rfl⟩ := List.mem_map.mp hx
        exact Int.mul_nonneg (weight_nonneg h _) (hpos e he).le

theorem action_rank_mono {m n : Int} (hmn : m ≤ n) : (action policy m).rank ≤ (action policy n).rank := by
  simp only [validatePolicy, ok_seq, raiseIf_ok, not_or, not_not] at h
  obtain ⟨⟨-, -, -, -, -, -, -, -, ⟨-, hquarantine, hrevoke⟩, -⟩, -⟩ := h
  unfold action
  split_ifs <;> simp only [IncidentAction.rank] <;> omega

end

/-- Raising occurrences, and adding principals of thresholded signals, never makes the response milder. -/
theorem action_mono {c c' : Call σ} (hv : Verified rt policy s c t) (hv' : Verified rt policy s' c' t')
    (hr : Raises c.batch.events c'.batch.events) :
    (action policy (t.risk policy)).rank ≤ (action policy (t'.risk policy)).rank := by
  have hpoints : t.riskPoints ≤ t'.riskPoints := by
    rw [hv.tallied.riskPoints, hv'.tallied.riskPoints]
    exact Int.add_le_add_left (riskPoints_mono hv.valid hr fun e he => (hv'.events e he).1.occurrences) _
  have hcard : (t.attackPrincipals.card : Int) ≤ t'.attackPrincipals.card := by
    refine Int.ofNat_le.mpr (Finset.card_le_card fun p hp => ?_)
    rw [hv.tallied.attackPrincipals] at hp
    rw [hv'.tallied.attackPrincipals]
    rcases hp with hp | ⟨e, he, hsignal, rfl⟩
    · exact .inl hp
    · exact .inr (hr.principals e he hsignal)
  have hbonus : 0 ≤ policy.distributedAttackBonusPoints := by
    have hpolicy := hv.valid
    simp only [validatePolicy, ok_seq, raiseIf_ok, not_or, not_lt] at hpolicy
    exact hpolicy.1.2.2.2.2.2.2.2.1
  refine action_rank_mono hv.valid ?_
  unfold Tally.risk
  split_ifs <;> omega

/-- The accepted batches of a deployment form one chain from the genesis digest to the cursor, whose events are numbered
    1, 2, 3, … in order; none overlaps another, and no batch id or event id occurs twice. A rejected call leaves the
    engine as it was. Among accepted calls the response is monotone. -/
theorem telemetry_chain {steps : List (Served σ)} (h : Along (Serves rt policy) .init steps s) :
    (∀ d, Along (Links rt) {} (accepted d steps) (s.cursor d) ∧
      ((accepted d steps).flatMap fun b => b.events.map ServingAbuseEvent.sequence) =
        intRange 1 ((s.cursor d).lastSequence + 1) ∧
      ((accepted d steps).Pairwise fun b b' => b.lastSequence < b'.firstSequence) ∧
      ((accepted d steps).map ServingTelemetryBatch.batchId).Nodup ∧
      ((accepted d steps).flatMap fun b => b.events.map ServingAbuseEvent.eventId).Nodup) ∧
    (∀ s c e s', Serves rt policy s (c, .error e) s' → s' = s) ∧
    ∀ s₁ c₁ v₁ s₁' s₂ c₂ v₂ s₂', Serves rt policy s₁ (c₁, .ok v₁) s₁' → Serves rt policy s₂ (c₂, .ok v₂) s₂' →
      Raises c₁.batch.events c₂.batch.events → v₁.action.rank ≤ v₂.action.rank := by
  refine ⟨fun d => ?_, ?_, ?_⟩
  · have hledger := ledger_of_run h d
    obtain ⟨-, hsequences⟩ := sequences_along hledger.chained
    exact ⟨hledger.chained, hsequences, (pairwise_along hledger.chained).2, hledger.nodupBatches, hledger.nodupEvents⟩
  · intro s c e s' hstep
    rcases serves_cases hstep with ⟨-, -, hs⟩ | ⟨t, -, hp, -⟩
    · exact hs
    · cases hp
  · intro s₁ c₁ v₁ s₁' s₂ c₂ v₂ s₂' h₁ h₂ hr
    rcases serves_cases h₁ with ⟨_, hp, -⟩ | ⟨t₁, hv₁, hp₁, -⟩
    · cases hp
    rcases serves_cases h₂ with ⟨_, hp, -⟩ | ⟨t₂, hv₂, hp₂, -⟩
    · cases hp
    rw [Except.ok.inj hp₁, Except.ok.inj hp₂]
    exact action_mono hv₁ hv₂ hr

/-! ## One batch of a deployment -/

namespace Sample

open Agentic (hex)

def probe : ServingAbuseEvent where
  eventId := "event"
  sequence := 1
  observedAtEpoch := 10
  principalId := "principal"
  sessionId := "session"
  queryFingerprint := "fingerprint"
  signalType := .canaryLeakage

def batch : ServingTelemetryBatch where
  deploymentId := "deployment"
  packageId := "package"
  modelId := "model"
  revision := "revision"
  runtimeId := "runtime"
  attestationStatementSha256 := hex 'a'
  collectorId := "collector"
  batchId := "batch"
  firstSequence := 1
  lastSequence := 1
  previousBatchSha256 := P5I_GENESIS_BATCH_SHA256
  windowStartEpoch := 10
  windowEndEpoch := 20
  complete := true
  events := [probe]

def attestation : VerifiedDeploymentAttestation :=
  ⟨"deployment", "package", "model", "revision", "runtime", hex 'a', true, true, true, true, true, true, true, 0⟩

def runtime : Runtime Unit Unit where
  toRuntime := .tabled [.null, canonicalBatch (fun s => s) batch]
  verifies _ _ _ := true

def servingPolicy : ServingAbusePolicy Unit where
  expectedAttestationStatementSha256 := hex 'a'
  trustedCollectors := [("collector", ())]

def call : Call Unit := ⟨"incident", attestation, ⟨batch, ()⟩, 20⟩

def tally : Tally := Tally.add servingPolicy .zero probe

@[simp] theorem isSha256_digest {d : Char} (hd : Agentic.Evidence.hexDigit d = true) : isSha256 runtime.toRuntime (hex d) :=
  Assurance.isSha256_hex hd

theorem policy_valid : validatePolicy runtime servingPolicy = .ok () :=
  default_policy_valid runtime (isSha256_digest (by decide)) (by simp)

theorem verified : verify runtime servingPolicy .init call = .ok tally := by
  simp only [verify, ok_seq, raiseIf_ok, policy_valid]
  refine ⟨trivial, ?_, ?_, ?_, ?_, ?_, ?_, ?_, ?_⟩
  · simp [validateAttestation, call, attestation, servingPolicy, Agentic.Evidence.hexDigit]
  · simp [call]
  · simp [call, batchIdentity, identity, batch, attestation]
  · simp [call, batch, attestation, Agentic.Evidence.hexDigit]
  · simp [call, batch, P5I_GENESIS_BATCH_SHA256, Agentic.Evidence.hexDigit]
  · simp [call, batch, servingPolicy]
  · simp [call, batch, servingPolicy]
  · refine ⟨rfl, (by decide : ¬ true = false), List.not_mem_nil, ?_, ?_, ?_, ?_⟩
    · simp [call, batch, Engine.cursor, Engine.init]
    · simp [call, batch, Engine.cursor, Engine.init]
    · simp [call, batch, probe, intRange]
    · simp only [call, batch, tallyEvents, ok_seq]
      refine ⟨?_, rfl⟩
      simp [checkEvent, probe, Tally.zero, Engine.init, servingPolicy, BelowFloor, scoreFloor, defaultScoreFloors]
      decide

theorem along : Along (Serves runtime servingPolicy) .init [(call, .ok (decision runtime servingPolicy call tally))]
    (Engine.init.accept runtime batch tally) := by
  refine ⟨_, ?_, rfl⟩
  rw [Serves, evaluate, verified]
  rfl

end Sample

open Sample in
theorem telemetry_chain_probe :
    Along (Links runtime) {} [batch] ((Engine.init.accept runtime batch tally).cursor "deployment") ∧
      [1] = intRange 1 (((Engine.init.accept runtime batch tally).cursor "deployment").lastSequence + 1) := by
  obtain ⟨hchain, hsequences, -⟩ := (telemetry_chain along).1 "deployment"
  exact ⟨hchain, hsequences⟩

end Aegis.Serving
