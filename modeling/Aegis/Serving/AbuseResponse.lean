/-
  Aegis.Serving.AbuseResponse — the P5-I engine, which turns signed telemetry of a deployment into a
  response (abuse_response.py).

  `verify` is all that `evaluate` checks of a batch, and the tally of its events; the engine then
  moves the cursor of the deployment and remembers the ids (`Engine.accept`). Nothing is written
  before the last check.
-/

import Aegis.Assurance.Regression
import Mathlib.Algebra.Ring.Int.Defs
import Mathlib.Data.Finset.Card

namespace Aegis.Serving

open Data Data.Checks
open Agentic (Dict)
open Assurance (isSha256)

/-- What the engine takes from outside: digests, `str.casefold`, and the check of an Ed25519 signature. -/
structure Runtime (κ σ : Type) extends Assurance.Runtime where
  verifies : κ → σ → Json → Bool

def P5I_TELEMETRY_SCHEMA_VERSION : String := "aegis-serving-abuse-telemetry-batch-v1"

def P5I_GENESIS_BATCH_SHA256 : String := Agentic.hex '0'

inductive AbuseSignalType where
  | normalQuery
  | outputDetailProbe
  | sensitiveChannelProbe
  | sessionBudgetExhaustion
  | repeatedQueryProbe
  | queryReplay
  | canaryLeakage
  | memorizationSignal
  | membershipInferenceSignal
  | extractionSignal
  | identityAnomaly
  deriving DecidableEq, Repr

namespace AbuseSignalType

def value : AbuseSignalType → String
  | normalQuery => "normal_query"
  | outputDetailProbe => "output_detail_probe"
  | sensitiveChannelProbe => "sensitive_channel_probe"
  | sessionBudgetExhaustion => "session_budget_exhaustion"
  | repeatedQueryProbe => "repeated_query_probe"
  | queryReplay => "query_replay"
  | canaryLeakage => "canary_leakage"
  | memorizationSignal => "memorization_signal"
  | membershipInferenceSignal => "membership_inference_signal"
  | extractionSignal => "extraction_signal"
  | identityAnomaly => "identity_anomaly"

/-- `for signal in AbuseSignalType`. -/
def all : List AbuseSignalType :=
  [normalQuery, outputDetailProbe, sensitiveChannelProbe, sessionBudgetExhaustion, repeatedQueryProbe, queryReplay,
    canaryLeakage, memorizationSignal, membershipInferenceSignal, extractionSignal, identityAnomaly]

/-- `AbuseSignalType(text)`. -/
def ofValue (text : String) : Option AbuseSignalType := all.find? fun signal => signal.value = text

end AbuseSignalType

inductive IncidentAction where
  | observe
  | throttle
  | quarantine
  | revokeDeployment
  deriving DecidableEq, Repr

namespace IncidentAction

def value : IncidentAction → String
  | observe => "observe"
  | throttle => "throttle"
  | quarantine => "quarantine"
  | revokeDeployment => "revoke_deployment"

/-- How severe an action is. -/
def rank : IncidentAction → Nat
  | observe => 0
  | throttle => 1
  | quarantine => 2
  | revokeDeployment => 3

end IncidentAction

inductive AbuseTelemetryRejectReason where
  | attestationUnverified
  | identityMismatch
  | policyInvalid
  | collectorUntrusted
  | signatureInvalid
  | batchInvalid
  | batchStale
  | batchFuture
  | batchReplay
  | sequenceMismatch
  | chainMismatch
  | sourceUntrusted
  | eventInvalid
  | eventDuplicate
  deriving DecidableEq, Repr

structure AbuseTelemetryRejected where
  reason : AbuseTelemetryRejectReason
  message : String
  deriving DecidableEq, Repr

structure ServingAbuseEvent where
  eventId : String
  sequence : Int
  observedAtEpoch : Int
  principalId : String
  sessionId : String
  queryFingerprint : String
  signalType : AbuseSignalType
  source : String := "privacy_gateway"
  occurrences : Int := 1
  observedScoreMilli : Int := 0

structure ServingTelemetryBatch where
  deploymentId : String
  packageId : String
  modelId : String
  revision : String
  runtimeId : String
  attestationStatementSha256 : String
  collectorId : String
  batchId : String
  firstSequence : Int
  lastSequence : Int
  previousBatchSha256 : String
  windowStartEpoch : Int
  windowEndEpoch : Int
  complete : Bool
  events : List ServingAbuseEvent
  schemaVersion : String := P5I_TELEMETRY_SCHEMA_VERSION

structure SignedServingTelemetryBatch (σ : Type) where
  batch : ServingTelemetryBatch
  signature : σ

def defaultSignalWeights : List (AbuseSignalType × Int) :=
  [(.normalQuery, 0), (.outputDetailProbe, 2), (.sensitiveChannelProbe, 5), (.sessionBudgetExhaustion, 4),
    (.repeatedQueryProbe, 4), (.queryReplay, 5), (.canaryLeakage, 40), (.memorizationSignal, 8), (.membershipInferenceSignal, 7),
    (.extractionSignal, 7), (.identityAnomaly, 20)]

def defaultScoreFloors : List (AbuseSignalType × Int) :=
  [(.memorizationSignal, 120), (.membershipInferenceSignal, 150), (.extractionSignal, 250)]

structure ServingAbusePolicy (κ : Type) where
  expectedAttestationStatementSha256 : String
  trustedCollectors : List (String × κ)
  allowedSources : List String := ["privacy_gateway", "serving_gateway"]
  signalWeights : List (AbuseSignalType × Int) := defaultSignalWeights
  scoreFloorsMilli : List (AbuseSignalType × Int) := defaultScoreFloors
  maxBatchAgeSeconds : Int := 300
  maxFutureSkewSeconds : Int := 30
  maxOccurrencesPerEvent : Int := 20
  distributedAttackPrincipals : Int := 3
  distributedAttackBonusPoints : Int := 6
  throttlePoints : Int := 8
  quarantinePoints : Int := 16
  revokePoints : Int := 32

/-- `VerifiedDeploymentAttestation` of P5-H, as far as the engine reads it. -/
structure VerifiedDeploymentAttestation where
  deploymentId : String
  packageId : String
  modelId : String
  revision : String
  runtimeId : String
  statementSha256 : String
  priorReleaseVerified : Bool
  runtimePolicyVerified : Bool
  scanEvidenceVerified : Bool
  privacyPolicyVerified : Bool
  environmentPolicyVerified : Bool
  attestorSignatureVerified : Bool
  leastPrivilegeEnvironmentVerified : Bool
  networkOperations : Int

structure VerifiedIncidentDecision where
  incidentId : String
  deploymentId : String
  packageId : String
  modelId : String
  revision : String
  runtimeId : String
  collectorId : String
  batchId : String
  batchSha256 : String
  firstSequence : Int
  lastSequence : Int
  action : IncidentAction
  riskPoints : Int
  distinctPrincipals : Int
  signalCounts : List (String × Int)
  attestationStatementSha256 : String
  telemetrySignatureVerified : Bool
  telemetryChainVerified : Bool
  telemetryComplete : Bool
  quarantineRequired : Bool
  deploymentRevocationRequired : Bool
  networkOperations : Int

structure TelemetryCursor where
  lastSequence : Int := 0
  lastBatchSha256 : String := P5I_GENESIS_BATCH_SHA256

/-- The state of a `ServingAbuseResponseEngine`. -/
structure Engine where
  cursors : Dict TelemetryCursor
  seenBatchIds : List (String × String)
  seenEventIds : List (String × String)

def Engine.init : Engine := ⟨fun _ => none, [], []⟩

/-- `self._cursors.get(deployment_id, _TelemetryCursor())`. -/
def Engine.cursor (s : Engine) (deploymentId : String) : TelemetryCursor := (s.cursors deploymentId).getD {}

/-! ## Canonical documents -/

section
variable (casefold : String → String)

def eventDocument (e : ServingAbuseEvent) : Json := .obj [
  ("event_id", .str e.eventId), ("observed_at_epoch", .int e.observedAtEpoch),
  ("observed_score_milli", .int e.observedScoreMilli), ("occurrences", .int e.occurrences),
  ("principal_id", .str e.principalId), ("query_fingerprint", .str e.queryFingerprint), ("sequence", .int e.sequence),
  ("session_id", .str e.sessionId), ("signal_type", .str e.signalType.value), ("source", .str e.source)]

/-- `canonical_serving_telemetry_batch_bytes`. -/
def canonicalBatch (b : ServingTelemetryBatch) : Json := .obj [
  ("attestation_statement_sha256", .str (casefold b.attestationStatementSha256)), ("batch_id", .str b.batchId),
  ("collector_id", .str b.collectorId), ("complete", .bool b.complete), ("deployment_id", .str b.deploymentId),
  ("events", .arr (b.events.map eventDocument)), ("first_sequence", .int b.firstSequence),
  ("last_sequence", .int b.lastSequence), ("model_id", .str b.modelId), ("package_id", .str b.packageId),
  ("previous_batch_sha256", .str (casefold b.previousBatchSha256)), ("revision", .str b.revision),
  ("runtime_id", .str b.runtimeId), ("schema_version", .str b.schemaVersion),
  ("window_end_epoch", .int b.windowEndEpoch), ("window_start_epoch", .int b.windowStartEpoch)]

end

section
variable {κ σ : Type} (rt : Runtime κ σ)

def batchDigest (b : ServingTelemetryBatch) : String := rt.sha256 (canonicalBatch rt.casefold b)

/-! ## Policy and attestation -/

def reject (reason : AbuseTelemetryRejectReason) (message : String) : AbuseTelemetryRejected := ⟨reason, message⟩

/-- `set(signal_weights) == set(AbuseSignalType)`. -/
def weighsAll (weights : List (AbuseSignalType × Int)) : Prop := ∀ signal ∈ AbuseSignalType.all, signal ∈ weights.map Prod.fst

instance decidableWeighsAll (weights : List (AbuseSignalType × Int)) : Decidable (weighsAll weights) :=
  inferInstanceAs (Decidable (∀ _ ∈ _, _))

def validatePolicy (policy : ServingAbusePolicy κ) : Except AbuseTelemetryRejected Unit := do
  raiseIf (¬ isSha256 rt.toRuntime policy.expectedAttestationStatementSha256 ∨ policy.trustedCollectors.isEmpty ∨
    policy.allowedSources = [] ∨ policy.maxBatchAgeSeconds < 0 ∨ policy.maxFutureSkewSeconds < 0 ∨
    policy.maxOccurrencesPerEvent ≤ 0 ∨ policy.distributedAttackPrincipals ≤ 1 ∨ policy.distributedAttackBonusPoints < 0 ∨
    ¬ (0 ≤ policy.throttlePoints ∧ policy.throttlePoints < policy.quarantinePoints ∧ policy.quarantinePoints < policy.revokePoints) ∨
    ¬ weighsAll policy.signalWeights ∨ ∃ w ∈ policy.signalWeights, w.2 < 0)
    (reject .policyInvalid "serving abuse policy is inconsistent")
  forEach (fun floor : AbuseSignalType × Int => raiseIf (¬ (0 ≤ floor.2 ∧ floor.2 ≤ 1000))
    (reject .policyInvalid "invalid signal score floor")) policy.scoreFloorsMilli

/-- The defaults of a policy pass its checks. -/
theorem default_policy_valid {digest : String} {collectors : List (String × κ)} (hd : isSha256 rt.toRuntime digest)
    (hc : collectors ≠ []) :
    validatePolicy rt { expectedAttestationStatementSha256 := digest, trustedCollectors := collectors } = .ok () := by
  have hweights : ¬ ∃ w ∈ defaultSignalWeights, w.2 < 0 := by decide
  have hall : weighsAll defaultSignalWeights := by decide
  simp only [validatePolicy, ok_seq, raiseIf_ok, forEach_ok]
  refine ⟨?_, by decide⟩
  simp only [not_or, not_not, hd, hweights, hall]
  simp [hc]

def validateAttestation (policy : ServingAbusePolicy κ) (a : VerifiedDeploymentAttestation) : Except AbuseTelemetryRejected Unit := do
  raiseIf (a.priorReleaseVerified = false ∨ a.runtimePolicyVerified = false ∨ a.scanEvidenceVerified = false ∨
    a.privacyPolicyVerified = false ∨ a.environmentPolicyVerified = false ∨ a.attestorSignatureVerified = false ∨
    a.leastPrivilegeEnvironmentVerified = false ∨ a.networkOperations ≠ 0)
    (reject .attestationUnverified "incident response requires an intact P5-H verified deployment attestation")
  raiseIf (¬ isSha256 rt.toRuntime a.statementSha256 ∨
    rt.casefold a.statementSha256 ≠ rt.casefold policy.expectedAttestationStatementSha256)
    (reject .attestationUnverified "deployment attestation does not match the response-policy statement digest")

/-! ## The events of a batch -/

/-- `signal_weights[signal]`. -/
def weight (policy : ServingAbusePolicy κ) (signal : AbuseSignalType) : Int :=
  ((policy.signalWeights.find? fun w => w.1 = signal).map Prod.snd).getD 0

/-- `score_floors_milli.get(signal)`. -/
def scoreFloor (policy : ServingAbusePolicy κ) (signal : AbuseSignalType) : Option Int :=
  (policy.scoreFloorsMilli.find? fun f => f.1 = signal).map Prod.snd

/-- The signals that count as a distributed attack. -/
def Thresholded (signal : AbuseSignalType) : Prop :=
  signal = .memorizationSignal ∨ signal = .membershipInferenceSignal ∨ signal = .extractionSignal

instance decidableThresholded (signal : AbuseSignalType) : Decidable (Thresholded signal) := inferInstanceAs (Decidable (_ ∨ _))

/-- What the loop over the events has gathered. -/
structure Tally where
  eventIds : List String
  signalCounts : AbuseSignalType → Int
  riskPoints : Int
  attackPrincipals : Finset String
  allPrincipals : Finset String

def Tally.zero : Tally := ⟨[], fun _ => 0, 0, ∅, ∅⟩

def Tally.add (policy : ServingAbusePolicy κ) (t : Tally) (e : ServingAbuseEvent) : Tally where
  eventIds := t.eventIds ++ [e.eventId]
  signalCounts signal := if signal = e.signalType then t.signalCounts signal + e.occurrences else t.signalCounts signal
  riskPoints := t.riskPoints + weight policy e.signalType * e.occurrences
  attackPrincipals := if Thresholded e.signalType then insert e.principalId t.attackPrincipals else t.attackPrincipals
  allPrincipals := insert e.principalId t.allPrincipals

/-- The score of an event is below the floor that the policy sets for its signal. -/
def BelowFloor (policy : ServingAbusePolicy κ) (e : ServingAbuseEvent) : Prop :=
  ∃ floor ∈ scoreFloor policy e.signalType, e.observedScoreMilli < floor

instance decidableBelowFloor (policy : ServingAbusePolicy κ) (e : ServingAbuseEvent) : Decidable (BelowFloor policy e) :=
  inferInstanceAs (Decidable (∃ floor ∈ scoreFloor policy e.signalType, _))

local instance lawfulPairs : LawfulBEq (String × String) := inferInstance

def checkEvent (policy : ServingAbusePolicy κ) (s : Engine) (b : ServingTelemetryBatch) (t : Tally) (e : ServingAbuseEvent) :
    Except AbuseTelemetryRejected Unit := do
  raiseIf (e.eventId = "" ∨ e.eventId ∈ t.eventIds ∨ (b.deploymentId, e.eventId) ∈ s.seenEventIds)
    (reject .eventDuplicate "event ID is duplicated or replayed")
  raiseIf (e.source ∉ policy.allowedSources) (reject .sourceUntrusted "event source is not allowlisted")
  raiseIf (e.principalId = "" ∨ e.sessionId = "" ∨ e.queryFingerprint = "" ∨ e.queryFingerprint.length < 8 ∨
    e.observedAtEpoch < b.windowStartEpoch ∨ e.observedAtEpoch > b.windowEndEpoch ∨ e.occurrences ≤ 0 ∨
    e.occurrences > policy.maxOccurrencesPerEvent ∨ ¬ (0 ≤ e.observedScoreMilli ∧ e.observedScoreMilli ≤ 1000))
    (reject .eventInvalid "telemetry event is malformed")
  raiseIf (BelowFloor policy e)
    (reject .eventInvalid "thresholded abuse signal does not meet the deployment-policy score floor")

/-- `for event in batch.events`. -/
def tallyEvents (policy : ServingAbusePolicy κ) (s : Engine) (b : ServingTelemetryBatch) (t : Tally) :
    List ServingAbuseEvent → Except AbuseTelemetryRejected Tally
  | [] => .ok t
  | e :: es => do
    checkEvent policy s b t e
    tallyEvents policy s b (t.add policy e) es

/-! ## The response -/

def Tally.risk (policy : ServingAbusePolicy κ) (t : Tally) : Int :=
  if policy.distributedAttackPrincipals ≤ (t.attackPrincipals.card : Int) then t.riskPoints + policy.distributedAttackBonusPoints
  else t.riskPoints

def action (policy : ServingAbusePolicy κ) (riskPoints : Int) : IncidentAction :=
  if riskPoints ≥ policy.revokePoints then .revokeDeployment
  else if riskPoints ≥ policy.quarantinePoints then .quarantine
  else if riskPoints ≥ policy.throttlePoints then .throttle
  else .observe

/-- The signals that occurred, in the order of their values. -/
def Tally.counts (t : Tally) : List (String × Int) :=
  ((sortOn AbuseSignalType.value AbuseSignalType.all).map fun signal => (signal.value, t.signalCounts signal)).filter fun c => c.2 ≠ 0

/-- `list(range(a, b))`. -/
def intRange (a b : Int) : List Int := (List.range (b - a).toNat).map fun (n : Nat) => a + (n : Int)

structure Call (σ : Type) where
  incidentId : String
  attestation : VerifiedDeploymentAttestation
  signedBatch : SignedServingTelemetryBatch σ
  evaluatedAtEpoch : Int

abbrev Call.batch (c : Call σ) : ServingTelemetryBatch := c.signedBatch.batch

/-- The identity of the attestation is that of the batch. -/
def identity (a : VerifiedDeploymentAttestation) : String × String × String × String × String :=
  (a.deploymentId, a.packageId, a.modelId, a.revision, a.runtimeId)

def batchIdentity (b : ServingTelemetryBatch) : String × String × String × String × String :=
  (b.deploymentId, b.packageId, b.modelId, b.revision, b.runtimeId)

/-- All that `evaluate` checks, and what it counts. -/
def verify (policy : ServingAbusePolicy κ) (s : Engine) (c : Call σ) : Except AbuseTelemetryRejected Tally := do
  let b := c.batch
  validatePolicy rt policy
  validateAttestation rt policy c.attestation
  raiseIf (c.incidentId = "" ∨ c.evaluatedAtEpoch < 0) (reject .batchInvalid "incident/evaluation identity is invalid")
  raiseIf (batchIdentity b ≠ identity c.attestation)
    (reject .identityMismatch "telemetry batch identity does not match the attested deployment")
  raiseIf (¬ isSha256 rt.toRuntime b.attestationStatementSha256 ∨
    rt.casefold b.attestationStatementSha256 ≠ rt.casefold c.attestation.statementSha256)
    (reject .identityMismatch "telemetry batch is not bound to the exact verified deployment attestation")
  raiseIf (b.schemaVersion ≠ P5I_TELEMETRY_SCHEMA_VERSION ∨ b.collectorId = "" ∨ b.batchId = "" ∨ b.complete = false ∨
    b.windowStartEpoch < 0 ∨ b.windowEndEpoch < b.windowStartEpoch ∨ b.firstSequence ≤ 0 ∨ b.lastSequence < b.firstSequence ∨
    b.events.isEmpty ∨ (b.events.length : Int) ≠ b.lastSequence - b.firstSequence + 1 ∨ ¬ isSha256 rt.toRuntime b.previousBatchSha256)
    (reject .batchInvalid "telemetry batch schema, completeness, sequence range, or window is invalid")
  raiseIf (c.evaluatedAtEpoch - b.windowEndEpoch > policy.maxBatchAgeSeconds) (reject .batchStale "telemetry batch is stale")
  raiseIf (b.windowEndEpoch - c.evaluatedAtEpoch > policy.maxFutureSkewSeconds)
    (reject .batchFuture "telemetry batch is too far in the future")
  let publicKey ← orRaise (reject .collectorUntrusted "telemetry collector is untrusted")
    (Dict.mapping policy.trustedCollectors b.collectorId)
  raiseIf (rt.verifies publicKey c.signedBatch.signature (canonicalBatch rt.casefold b) = false)
    (reject .signatureInvalid "telemetry signature is invalid")
  raiseIf ((b.deploymentId, b.batchId) ∈ s.seenBatchIds) (reject .batchReplay "telemetry batch ID was already consumed")
  raiseIf (b.firstSequence ≠ (s.cursor b.deploymentId).lastSequence + 1)
    (reject .sequenceMismatch "telemetry sequence does not continue from the last accepted batch")
  raiseIf (rt.casefold b.previousBatchSha256 ≠ rt.casefold (s.cursor b.deploymentId).lastBatchSha256)
    (reject .chainMismatch "telemetry batch does not extend the accepted deployment telemetry chain")
  raiseIf (b.events.map ServingAbuseEvent.sequence ≠ intRange b.firstSequence (b.lastSequence + 1))
    (reject .sequenceMismatch "events must be ordered and exactly contiguous within the signed batch")
  tallyEvents policy s b .zero b.events

/-- The engine after an accepted batch. -/
def Engine.accept (s : Engine) (b : ServingTelemetryBatch) (t : Tally) : Engine where
  cursors := s.cursors.set b.deploymentId ⟨b.lastSequence, batchDigest rt b⟩
  seenBatchIds := (b.deploymentId, b.batchId) :: s.seenBatchIds
  seenEventIds := t.eventIds.map (fun i => (b.deploymentId, i)) ++ s.seenEventIds

def decision (policy : ServingAbusePolicy κ) (c : Call σ) (t : Tally) : VerifiedIncidentDecision where
  incidentId := c.incidentId
  deploymentId := c.batch.deploymentId
  packageId := c.batch.packageId
  modelId := c.batch.modelId
  revision := c.batch.revision
  runtimeId := c.batch.runtimeId
  collectorId := c.batch.collectorId
  batchId := c.batch.batchId
  batchSha256 := batchDigest rt c.batch
  firstSequence := c.batch.firstSequence
  lastSequence := c.batch.lastSequence
  action := action policy (t.risk policy)
  riskPoints := t.risk policy
  distinctPrincipals := t.allPrincipals.card
  signalCounts := t.counts
  attestationStatementSha256 := rt.casefold c.attestation.statementSha256
  telemetrySignatureVerified := true
  telemetryChainVerified := true
  telemetryComplete := true
  quarantineRequired := action policy (t.risk policy) = .quarantine ∨ action policy (t.risk policy) = .revokeDeployment
  deploymentRevocationRequired := action policy (t.risk policy) = .revokeDeployment
  networkOperations := 0

/-- `ServingAbuseResponseEngine.evaluate`: what it returns or raises, and the engine after. -/
def evaluate (policy : ServingAbusePolicy κ) (s : Engine) (c : Call σ) :
    Except AbuseTelemetryRejected VerifiedIncidentDecision × Engine :=
  match verify rt policy s c with
  | .error e => (.error e, s)
  | .ok t => (.ok (decision rt policy c t), s.accept rt c.batch t)

end

end Aegis.Serving
