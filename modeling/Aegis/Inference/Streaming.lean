/-
  Aegis.Inference.Streaming — `InferenceStreamingSecurityAnalyzer` (streaming_security.py): a stream
  of frames, each encoded as a server-sent event, chained by their digests from a seed that is a
  digest of where the stream goes. `derive` attaches a risk for everything that is not as the
  policy has it or does not recompute.
-/

import Aegis.Data.EventStream
import Aegis.Data.JsonText
import Aegis.Inference.Scheduler

namespace Aegis.Inference

open Data Checks
open Agentic.Decision (flag sorted)
open Scheduler (isLowerAlnum isSha)

namespace Streaming

def p10gPolicyVersion : String := "inference-streaming-output-integrity-v1"

def p10gSchemaVersion : String := "aegis-inference-streaming-output-manifest-v1"

def p10fAssessmentSchemaVersion : String := "aegis-inference-accelerator-isolation-assessment-v1"

def p10fAssessmentMode : String := "deterministic-evidence-bound-accelerator-isolation-v1"

/-- `hashlib.sha256` of a text that is no JSON, and `json.loads`, which says why it fails. -/
structure Runtime extends Agentic.Runtime where
  textSha256 : String → String
  loads : String → Except String Json

inductive StreamFrameKind where
  | token | toolCall | cancelled | final
  deriving DecidableEq, Repr

def StreamFrameKind.value : StreamFrameKind → String
  | token => "token"
  | toolCall => "tool_call"
  | cancelled => "cancelled"
  | final => "final"

inductive StreamRisk where
  | upstreamP10fInvalid | upstreamBindingMismatch | requestRouteMismatch | outputChannelMismatch | streamIdentityMismatch
  | frameCoverageMismatch | frameSequenceMismatch | frameChainMismatch | frameDigestMismatch | frameSizeExceeded
  | totalOutputExceeded | backpressureBudgetExceeded | unackedWindowExceeded | cancellationBindingMismatch | outputAfterCancel
  | terminalFrameMismatch | toolCallFramingUnsafe | toolCallUnauthorized | toolArgumentDigestMismatch | contentTypeUnsafe
  | encodingUnsafe | streamReplay | priorStreamLedgerMismatch | networkOperationUnexpected
  deriving DecidableEq, Repr

def StreamRisk.value : StreamRisk → String
  | upstreamP10fInvalid => "upstream_p10f_invalid"
  | upstreamBindingMismatch => "upstream_binding_mismatch"
  | requestRouteMismatch => "request_route_mismatch"
  | outputChannelMismatch => "output_channel_mismatch"
  | streamIdentityMismatch => "stream_identity_mismatch"
  | frameCoverageMismatch => "frame_coverage_mismatch"
  | frameSequenceMismatch => "frame_sequence_mismatch"
  | frameChainMismatch => "frame_chain_mismatch"
  | frameDigestMismatch => "frame_digest_mismatch"
  | frameSizeExceeded => "frame_size_exceeded"
  | totalOutputExceeded => "total_output_exceeded"
  | backpressureBudgetExceeded => "backpressure_budget_exceeded"
  | unackedWindowExceeded => "unacked_window_exceeded"
  | cancellationBindingMismatch => "cancellation_binding_mismatch"
  | outputAfterCancel => "output_after_cancel"
  | terminalFrameMismatch => "terminal_frame_mismatch"
  | toolCallFramingUnsafe => "tool_call_framing_unsafe"
  | toolCallUnauthorized => "tool_call_unauthorized"
  | toolArgumentDigestMismatch => "tool_argument_digest_mismatch"
  | contentTypeUnsafe => "content_type_unsafe"
  | encodingUnsafe => "encoding_unsafe"
  | streamReplay => "stream_replay"
  | priorStreamLedgerMismatch => "prior_stream_ledger_mismatch"
  | networkOperationUnexpected => "network_operation_unexpected"

inductive StreamRejectReason where
  | policyInvalid | manifestInvalid | manifestDigestMismatch | requestInvalid | declaredSummaryMismatch
  deriving DecidableEq, Repr

structure InferenceStreamingSecurityRejected where
  reason : StreamRejectReason
  message : String
  deriving DecidableEq, Repr

abbrev Check := Except InferenceStreamingSecurityRejected

/-! ## The manifest and the policy -/

structure StreamFrameEvidence where
  frameId : String
  seqNo : Int
  kind : StreamFrameKind
  payloadText : String
  payloadSha256 : String
  sseSha256 : String
  encodedBytes : Int
  acked : Bool
  previousFrameSha256 : String
  toolName : String
  toolArgumentsJson : String
  toolArgumentsSha256 : String
  deriving DecidableEq, Repr

structure StreamCancellationEvidence where
  cancellationId : String
  requestedAfterSeq : Int
  effectiveBeforeSeq : Int
  reasonCode : String
  authorizationSha256 : String
  deriving DecidableEq, Repr

structure StreamBackpressureEvidence where
  observedHighWaterBytes : Int
  observedHighWaterUnackedFrames : Int
  producerPauseCount : Int
  queueDrained : Bool
  deriving DecidableEq, Repr

structure StreamingOutputEvidence where
  streamId : String
  outputChannelId : String
  requestId : String
  tenantId : String
  sessionId : String
  streamGeneration : Int
  contentType : String
  encoding : String
  maxFrameBytes : Int
  maxTotalOutputBytes : Int
  maxBufferedBytes : Int
  maxUnackedFrames : Int
  frameChainSeedSha256 : String
  frames : List StreamFrameEvidence
  cancellation : StreamCancellationEvidence
  backpressure : StreamBackpressureEvidence
  terminalKind : StreamFrameKind
  deriving DecidableEq, Repr

structure InferenceStreamingSecurityManifest where
  schemaVersion : String
  manifestId : String
  createdAtEpoch : Int
  p10fAssessmentSha256 : String
  requestId : String
  tenantId : String
  sessionId : String
  targetModelId : String
  targetModelRevision : String
  adapterIds : List String
  adapterGeneration : Int
  partitionIds : List String
  stream : StreamingOutputEvidence
  priorStreamIds : List String
  priorStreamLedgerSha256 : String
  networkOperations : Int
  deriving DecidableEq, Repr

structure InferenceStreamingSecurityPolicy where
  policyVersion : String
  expectedManifestId : String
  expectedManifestSha256 : String
  expectedP10fAssessmentSha256 : String
  expectedRequestId : String
  expectedTenantId : String
  expectedSessionId : String
  expectedTargetModelId : String
  expectedTargetModelRevision : String
  expectedAdapterIds : List String
  expectedAdapterGeneration : Int
  expectedPartitionIds : List String
  expectedStreamId : String
  expectedOutputChannelId : String
  expectedStreamGeneration : Int
  expectedContentType : String
  expectedEncoding : String
  expectedFrameIds : List String
  expectedTerminalKind : StreamFrameKind
  expectedCancellationId : String
  expectedCancellationAuthorizationSha256 : String
  maxCancelLagFrames : Int
  maxFrameBytes : Int
  maxTotalOutputBytes : Int
  maxBufferedBytes : Int
  maxUnackedFrames : Int
  maxToolArgumentsBytes : Int
  allowedToolNames : List String
  requireBackpressureObserved : Bool
  requireQueueDrained : Bool
  expectedPriorStreamLedgerSha256 : String
  maxManifestAgeSeconds : Int
  maxFutureSkewSeconds : Int

inductive AcceleratorDecision where
  | allow | deny
  deriving DecidableEq, Repr

/-- `VerifiedInferenceAcceleratorIsolationAssessment`, as far as it is read here; the risks by their values. -/
structure VerifiedInferenceAcceleratorIsolationAssessment where
  requestId : String
  tenantId : String
  sessionId : String
  decision : AcceleratorDecision
  risks : List String
  targetModelId : String
  targetModelRevision : String
  adapterIds : List String
  adapterGeneration : Int
  partitionIds : List String
  upstreamP10eBound : Bool
  hostProbeBound : Bool
  deviceAssignmentVerified : Bool
  dmaIsolationVerified : Bool
  memoryIsolationVerified : Bool
  sideChannelProfileVerified : Bool
  leaseSafetyVerified : Bool
  callerDeclaredSafetyTrusted : Bool
  liveGpuHardwareValidated : Bool
  productionGpuRuntimeIntegrated : Bool
  productionCgroupEnforcementVerified : Bool
  productionIommuEnforcementVerified : Bool
  physicalVramZeroizationVerified : Bool
  dmaAttackResistanceValidated : Bool
  sideChannelResistanceValidated : Bool
  hardwareAttestationVerified : Bool
  assessmentSchemaVersion : String
  assessmentMode : String
  assessmentEvidenceSha256 : String

/-! ## Encodings and digests

`digest_json` sorts the keys of what it hashes, so the fields stand in that order. -/

def canonicalJsonText (value : Json) : String := value.sorted.dumpsText

/-- The text whose bytes `encode_sse_event` gives. -/
def sseText (kind : StreamFrameKind) (payloadText : String) : String :=
  EventStream.eventText kind.value (canonicalJsonText (.obj [("kind", .str kind.value), ("payload", .str payloadText)]))

def encodeSseEvent (kind : StreamFrameKind) (payloadText : String) : ByteArray := (sseText kind payloadText).toUTF8

def toolCallPayload (toolName : String) (parsed : Json) : String :=
  canonicalJsonText (.obj [("tool", .str toolName), ("arguments", parsed)])

/-- `asdict`, an enumeration member by its value. -/
def StreamFrameEvidence.toJson (f : StreamFrameEvidence) : Json :=
  .obj [("acked", .bool f.acked), ("encoded_bytes", .int f.encodedBytes), ("frame_id", .str f.frameId), ("kind", .str f.kind.value),
    ("payload_sha256", .str f.payloadSha256), ("payload_text", .str f.payloadText), ("previous_frame_sha256", .str f.previousFrameSha256),
    ("seq_no", .int f.seqNo), ("sse_sha256", .str f.sseSha256), ("tool_arguments_json", .str f.toolArgumentsJson),
    ("tool_arguments_sha256", .str f.toolArgumentsSha256), ("tool_name", .str f.toolName)]

variable (rt : Runtime)

def streamFrameDigest (f : StreamFrameEvidence) : String := rt.sha256 f.toJson

def streamSeedDigest (streamId outputChannelId requestId tenantId sessionId : String) (generation : Int) : String :=
  rt.sha256 (.obj [("generation", .int generation), ("output_channel_id", .str outputChannelId), ("request_id", .str requestId),
    ("session_id", .str sessionId), ("stream_id", .str streamId), ("tenant_id", .str tenantId)])

def cancellationAuthorizationDigest (streamId tenantId sessionId cancellationId : String) (requestedAfterSeq : Int) (reasonCode : String) :
    String :=
  rt.sha256 (.obj [("cancellation_id", .str cancellationId), ("reason_code", .str reasonCode), ("requested_after_seq", .int requestedAfterSeq),
    ("session_id", .str sessionId), ("stream_id", .str streamId), ("tenant_id", .str tenantId)])

def priorStreamLedgerDigest (ids : List String) : String :=
  rt.sha256 (.obj [("prior_stream_ids", .arr ((sortOn id ids).map .str))])

/-! ## The policy -/

/-- `_ID`: `[a-z0-9][a-z0-9._:/@+-]{1,127}`, the whole text. -/
def isId (s : String) : Bool :=
  match s.toList with
  | [] => false
  | c :: cs => isLowerAlnum c && 1 ≤ cs.length && cs.length ≤ 127 && cs.all fun c => isLowerAlnum c || "._:/@+-".toList.contains c

/-- `session_id.startswith(f"tenant/{tenant_id}/session/")`. -/
def SessionOf (sessionId tenantId : String) : Prop := ("tenant/" ++ tenantId ++ "/session/").toList <+: sessionId.toList

instance decidableSessionOf (sessionId tenantId : String) : Decidable (SessionOf sessionId tenantId) := by
  unfold SessionOf
  infer_instance

def policyInvalid (message : String) : InferenceStreamingSecurityRejected := ⟨.policyInvalid, message⟩

/-- `_validate_policy`. -/
def validatePolicy (p : InferenceStreamingSecurityPolicy) : Check Unit := do
  raiseIf (p.policyVersion ≠ p10gPolicyVersion) (policyInvalid "unexpected policy version")
  raiseIf (¬ ∀ s ∈ [p.expectedManifestId, p.expectedRequestId, p.expectedTenantId, p.expectedSessionId, p.expectedTargetModelId,
    p.expectedTargetModelRevision, p.expectedStreamId, p.expectedOutputChannelId, p.expectedCancellationId], isId s = true)
    (policyInvalid "policy identity pins invalid")
  raiseIf (¬ SessionOf p.expectedSessionId p.expectedTenantId) (policyInvalid "policy session/tenant binding invalid")
  raiseIf (¬ ∀ s ∈ [p.expectedManifestSha256, p.expectedP10fAssessmentSha256, p.expectedCancellationAuthorizationSha256,
    p.expectedPriorStreamLedgerSha256], isSha s = true) (policyInvalid "policy digest pins invalid")
  raiseIf (p.expectedPartitionIds = [] ∨ ¬ p.expectedPartitionIds.Nodup) (policyInvalid "partition coverage invalid")
  raiseIf (p.expectedFrameIds = [] ∨ ¬ p.expectedFrameIds.Nodup) (policyInvalid "frame coverage invalid")
  raiseIf (¬ ∀ s ∈ p.expectedFrameIds, isId s = true) (policyInvalid "frame ids malformed")
  raiseIf (p.expectedContentType ≠ "text/event-stream") (policyInvalid "only SSE is allowed in P10-G")
  raiseIf (rt.casefold p.expectedEncoding ≠ "utf-8") (policyInvalid "only UTF-8 is allowed in P10-G")
  raiseIf ((∃ v ∈ [p.maxCancelLagFrames, p.maxFrameBytes, p.maxTotalOutputBytes, p.maxBufferedBytes, p.maxUnackedFrames,
    p.maxToolArgumentsBytes, p.maxManifestAgeSeconds, p.maxFutureSkewSeconds], v < 0) ∨
    ∃ v ∈ [p.maxFrameBytes, p.maxTotalOutputBytes, p.maxBufferedBytes, p.maxUnackedFrames, p.maxToolArgumentsBytes], v ≤ 0)
    (policyInvalid "policy bounds invalid")
  raiseIf (p.maxFrameBytes > p.maxTotalOutputBytes) (policyInvalid "frame budget exceeds total output budget")
  raiseIf (p.maxBufferedBytes > p.maxTotalOutputBytes) (policyInvalid "buffer budget exceeds total output budget")
  raiseIf (p.allowedToolNames = [] ∨ ¬ p.allowedToolNames.Nodup) (policyInvalid "tool allowlist invalid")
  raiseIf (¬ ∀ s ∈ p.allowedToolNames, isId s = true) (policyInvalid "tool allowlist malformed")
  raiseIf (p.expectedTerminalKind ∉ [StreamFrameKind.cancelled, .final]) (policyInvalid "terminal frame kind invalid")

/-! ## The manifest -/

def manifestInvalid (message : String) : InferenceStreamingSecurityRejected := ⟨.manifestInvalid, message⟩

def validateTool (f : StreamFrameEvidence) : Check Unit := do
  raiseIf (isId f.toolName = false ∨ f.toolArgumentsJson = "" ∨ isSha f.toolArgumentsSha256 = false)
    (manifestInvalid "tool frame evidence malformed")
  match rt.loads f.toolArgumentsJson with
  | .error exc => .error (manifestInvalid ("tool arguments are not JSON: " ++ exc))
  | .ok parsed => raiseIf (parsed.isObj = false) (manifestInvalid "tool arguments must be a JSON object")

def validateFrame (f : StreamFrameEvidence) : Check Unit := do
  raiseIf (isId f.frameId = false ∨ f.seqNo ≤ 0) (manifestInvalid "frame identity/sequence invalid")
  raiseIf ((¬ ∀ s ∈ [f.payloadSha256, f.sseSha256, f.previousFrameSha256], isSha s = true) ∨ f.encodedBytes ≤ 0)
    (manifestInvalid "frame digest/size invalid")
  if f.kind = .toolCall then
    validateTool rt f
  else
    raiseIf (f.toolName ≠ "" ∨ f.toolArgumentsJson ≠ "" ∨ f.toolArgumentsSha256 ≠ "")
      (manifestInvalid "non-tool frame carries tool evidence")

/-- `_validate_manifest`. -/
def validateManifest (p : InferenceStreamingSecurityPolicy) (m : InferenceStreamingSecurityManifest) : Check Unit := do
  raiseIf (m.schemaVersion ≠ p10gSchemaVersion ∨ m.manifestId ≠ p.expectedManifestId ∨ isId m.manifestId = false ∨
    m.createdAtEpoch ≤ 0 ∨ isSha m.p10fAssessmentSha256 = false) (manifestInvalid "manifest identity/schema/time invalid")
  raiseIf ((¬ ∀ s ∈ [m.requestId, m.tenantId, m.sessionId, m.targetModelId, m.targetModelRevision], isId s = true) ∨
    ¬ SessionOf m.sessionId m.tenantId) (manifestInvalid "manifest route identifiers invalid")
  raiseIf (m.partitionIds = [] ∨ ¬ m.partitionIds.Nodup ∨ ¬ ∀ s ∈ m.partitionIds, isId s = true)
    (manifestInvalid "partition evidence invalid")
  raiseIf (m.adapterGeneration < 0 ∨ m.networkOperations < 0) (manifestInvalid "manifest generation/network invalid")
  let s := m.stream
  raiseIf ((¬ ∀ v ∈ [s.streamId, s.outputChannelId, s.requestId, s.tenantId, s.sessionId], isId v = true) ∨
    ¬ SessionOf s.sessionId s.tenantId) (manifestInvalid "stream identifiers invalid")
  raiseIf (s.streamGeneration < 0 ∨ (∃ v ∈ [s.maxFrameBytes, s.maxTotalOutputBytes, s.maxBufferedBytes, s.maxUnackedFrames], v ≤ 0) ∨
    isSha s.frameChainSeedSha256 = false) (manifestInvalid "stream bounds/seed invalid")
  raiseIf (s.frames = [] ∨ ¬ (s.frames.map (·.frameId)).Nodup) (manifestInvalid "frame evidence empty or duplicated")
  forEach (validateFrame rt) s.frames
  let c := s.cancellation
  raiseIf (isId c.cancellationId = false ∨ c.requestedAfterSeq < 0 ∨ c.effectiveBeforeSeq ≤ 0 ∨ isId c.reasonCode = false ∨
    isSha c.authorizationSha256 = false) (manifestInvalid "cancellation evidence invalid")
  let b := s.backpressure
  raiseIf (∃ v ∈ [b.observedHighWaterBytes, b.observedHighWaterUnackedFrames, b.producerPauseCount], v < 0)
    (manifestInvalid "backpressure evidence invalid")
  raiseIf (¬ m.priorStreamIds.Nodup ∨ (∃ v ∈ m.priorStreamIds, isId v = false) ∨ isSha m.priorStreamLedgerSha256 = false)
    (manifestInvalid "prior stream ledger malformed")

/-- `_upstream_ok`. -/
def UpstreamOk (a : VerifiedInferenceAcceleratorIsolationAssessment) : Prop :=
  a.decision = .allow ∧ a.risks = [] ∧
    (∀ f ∈ [a.upstreamP10eBound, a.hostProbeBound, a.deviceAssignmentVerified, a.dmaIsolationVerified, a.memoryIsolationVerified,
      a.sideChannelProfileVerified, a.leaseSafetyVerified], f = true) ∧
    (∀ f ∈ [a.callerDeclaredSafetyTrusted, a.liveGpuHardwareValidated, a.productionGpuRuntimeIntegrated,
      a.productionCgroupEnforcementVerified, a.productionIommuEnforcementVerified, a.physicalVramZeroizationVerified,
      a.dmaAttackResistanceValidated, a.sideChannelResistanceValidated, a.hardwareAttestationVerified], f = false) ∧
    a.assessmentSchemaVersion = p10fAssessmentSchemaVersion ∧ a.assessmentMode = p10fAssessmentMode

instance decidableUpstreamOk (a : VerifiedInferenceAcceleratorIsolationAssessment) : Decidable (UpstreamOk a) :=
  inferInstanceAs (Decidable (_ ∧ _))

/-! ## Risks -/

variable (p : InferenceStreamingSecurityPolicy) (m : InferenceStreamingSecurityManifest)

/-- The risks of what is said before the frames. -/
def bindingRisks (a : VerifiedInferenceAcceleratorIsolationAssessment) : List StreamRisk :=
  let s := m.stream
  flag (¬ UpstreamOk a) StreamRisk.upstreamP10fInvalid ++
  flag (rt.casefold m.p10fAssessmentSha256 ≠ rt.casefold p.expectedP10fAssessmentSha256 ∨
    rt.casefold a.assessmentEvidenceSha256 ≠ rt.casefold p.expectedP10fAssessmentSha256) StreamRisk.upstreamBindingMismatch ++
  flag ((m.requestId, m.tenantId, m.sessionId) ≠ (p.expectedRequestId, p.expectedTenantId, p.expectedSessionId) ∨
    (a.requestId, a.tenantId, a.sessionId) ≠ (m.requestId, m.tenantId, m.sessionId) ∨
    (m.targetModelId, m.targetModelRevision) ≠ (p.expectedTargetModelId, p.expectedTargetModelRevision) ∨
    (a.targetModelId, a.targetModelRevision) ≠ (m.targetModelId, m.targetModelRevision) ∨
    m.adapterIds ≠ p.expectedAdapterIds ∨ a.adapterIds ≠ m.adapterIds ∨
    m.adapterGeneration ≠ p.expectedAdapterGeneration ∨ a.adapterGeneration ≠ m.adapterGeneration ∨
    m.partitionIds ≠ p.expectedPartitionIds ∨ a.partitionIds ≠ m.partitionIds) StreamRisk.requestRouteMismatch ++
  flag ((s.requestId, s.tenantId, s.sessionId) ≠ (m.requestId, m.tenantId, m.sessionId) ∨ s.streamId ≠ p.expectedStreamId ∨
    s.streamGeneration ≠ p.expectedStreamGeneration) StreamRisk.streamIdentityMismatch ++
  flag (s.outputChannelId ≠ p.expectedOutputChannelId) StreamRisk.outputChannelMismatch ++
  flag (s.contentType ≠ p.expectedContentType) StreamRisk.contentTypeUnsafe ++
  flag (rt.casefold s.encoding ≠ rt.casefold p.expectedEncoding) StreamRisk.encodingUnsafe ++
  flag (s.maxFrameBytes ≠ p.maxFrameBytes ∨ s.maxTotalOutputBytes ≠ p.maxTotalOutputBytes ∨ s.maxBufferedBytes ≠ p.maxBufferedBytes ∨
    s.maxUnackedFrames ≠ p.maxUnackedFrames) StreamRisk.backpressureBudgetExceeded ++
  flag (rt.casefold s.frameChainSeedSha256 ≠
    rt.casefold (streamSeedDigest rt s.streamId s.outputChannelId s.requestId s.tenantId s.sessionId s.streamGeneration))
    StreamRisk.frameChainMismatch ++
  flag (s.frames.map (·.frameId) ≠ p.expectedFrameIds) StreamRisk.frameCoverageMismatch

/-- `frame.kind in (StreamFrameKind.CANCELLED, StreamFrameKind.FINAL)`. -/
def StreamFrameEvidence.terminal (f : StreamFrameEvidence) : Bool := f.kind = .cancelled || f.kind = .final

/-- `previous`, `seen_terminal` and `unacked`, and `expected_seq` of the next frame. -/
structure Progress where
  previous : String
  seenTerminal : Bool
  unacked : Int
  expectedSeq : Int

def Progress.next (g : Progress) (f : StreamFrameEvidence) : Progress where
  previous := streamFrameDigest rt f
  seenTerminal := g.seenTerminal || f.terminal
  unacked := if f.acked then 0 else g.unacked + 1
  expectedSeq := g.expectedSeq + 1

/-- What is checked of a tool call: its arguments again, and its framing. -/
def toolRisks (f : StreamFrameEvidence) : List StreamRisk :=
  let encoded := (sseText f.kind f.payloadText).toList
  flag (f.toolName ∉ p.allowedToolNames) StreamRisk.toolCallUnauthorized ++ (match rt.loads f.toolArgumentsJson with
    | .error _ =>
      .toolArgumentDigestMismatch :: flag (f.payloadText ≠ "") StreamRisk.toolCallFramingUnsafe
    | .ok parsed =>
      flag (parsed.isObj = false ∨ rt.casefold f.toolArgumentsSha256 ≠ rt.casefold (rt.sha256 parsed.sorted))
        StreamRisk.toolArgumentDigestMismatch ++
      flag (f.payloadText ≠ toolCallPayload f.toolName parsed) StreamRisk.toolCallFramingUnsafe) ++
  flag ((f.toolArgumentsJson.utf8ByteSize : Int) > p.maxToolArgumentsBytes) StreamRisk.toolCallFramingUnsafe ++
  flag ("\n\nevent:".toList <:+: encoded.dropLast.dropLast ∨ '\r' ∈ encoded) StreamRisk.toolCallFramingUnsafe

/-- The body of the loop over the frames. -/
def frameRisks (g : Progress) (f : StreamFrameEvidence) : List StreamRisk :=
  flag (f.seqNo ≠ g.expectedSeq) StreamRisk.frameSequenceMismatch ++
  flag (rt.casefold f.previousFrameSha256 ≠ rt.casefold g.previous) StreamRisk.frameChainMismatch ++
  flag (rt.casefold f.payloadSha256 ≠ rt.casefold (rt.textSha256 f.payloadText)) StreamRisk.frameDigestMismatch ++
  flag (rt.casefold f.sseSha256 ≠ rt.casefold (rt.textSha256 (sseText f.kind f.payloadText))) StreamRisk.frameDigestMismatch ++
  flag (f.encodedBytes ≠ (encodeSseEvent f.kind f.payloadText).size) StreamRisk.frameDigestMismatch ++
  flag (f.encodedBytes > m.stream.maxFrameBytes ∨ f.encodedBytes > p.maxFrameBytes) StreamRisk.frameSizeExceeded ++
  flag ((g.next rt f).unacked > m.stream.maxUnackedFrames ∨ (g.next rt f).unacked > p.maxUnackedFrames) StreamRisk.unackedWindowExceeded ++
  flag (g.seenTerminal = true) StreamRisk.outputAfterCancel ++ (if f.kind = .toolCall then toolRisks rt p f else [])

/-- The loop over the frames. -/
def loopRisks (g : Progress) : List StreamFrameEvidence → List StreamRisk
  | [] => []
  | f :: fs => frameRisks rt p m g f ++ loopRisks (g.next rt f) fs

def start : Progress := ⟨m.stream.frameChainSeedSha256, false, 0, 1⟩

/-- `total_bytes`. -/
def totalBytes : Int := (m.stream.frames.map (·.encodedBytes)).sum

/-- What is checked of the frames together. -/
def streamRisks : List StreamRisk :=
  let s := m.stream
  flag (totalBytes m > s.maxTotalOutputBytes ∨ totalBytes m > p.maxTotalOutputBytes) StreamRisk.totalOutputExceeded ++
  flag ((s.frames.filter (·.terminal)).length ≠ 1 ∨ s.frames.getLast?.map (·.kind) ≠ some s.terminalKind ∨
    s.terminalKind ≠ p.expectedTerminalKind) StreamRisk.terminalFrameMismatch

def cancellationRisks : List StreamRisk :=
  let s := m.stream
  let c := s.cancellation
  flag (c.cancellationId ≠ p.expectedCancellationId ∨ rt.casefold c.authorizationSha256 ≠
      rt.casefold (cancellationAuthorizationDigest rt s.streamId s.tenantId s.sessionId c.cancellationId c.requestedAfterSeq c.reasonCode) ∨
    rt.casefold c.authorizationSha256 ≠ rt.casefold p.expectedCancellationAuthorizationSha256 ∨
    c.effectiveBeforeSeq ≤ c.requestedAfterSeq ∨ c.effectiveBeforeSeq - c.requestedAfterSeq > p.maxCancelLagFrames)
    StreamRisk.cancellationBindingMismatch ++
  -- `s.frames[c.effective_before_seq - 1]`: the position is positive, the manifest is valid
  (if s.terminalKind = .cancelled then
    flag (c.effectiveBeforeSeq > s.frames.length ∨
      s.frames[(c.effectiveBeforeSeq - 1).toNat]?.map (·.kind) ≠ some .cancelled) StreamRisk.cancellationBindingMismatch ++
    flag (∃ f ∈ s.frames, f.seqNo > c.effectiveBeforeSeq ∨ f.seqNo = c.effectiveBeforeSeq ∧ f.kind ≠ .cancelled) StreamRisk.outputAfterCancel
  else [])

def backpressureRisks : List StreamRisk :=
  let s := m.stream
  let b := s.backpressure
  flag (b.observedHighWaterBytes > s.maxBufferedBytes ∨ b.observedHighWaterBytes > p.maxBufferedBytes) StreamRisk.backpressureBudgetExceeded ++
  flag (b.observedHighWaterUnackedFrames > s.maxUnackedFrames ∨ b.observedHighWaterUnackedFrames > p.maxUnackedFrames)
    StreamRisk.unackedWindowExceeded ++
  flag (p.requireBackpressureObserved = true ∧ b.producerPauseCount ≤ 0) StreamRisk.backpressureBudgetExceeded ++
  flag (p.requireQueueDrained = true ∧ b.queueDrained = false) StreamRisk.backpressureBudgetExceeded

def ledgerRisks : List StreamRisk :=
  let ledger := rt.casefold (priorStreamLedgerDigest rt m.priorStreamIds)
  flag (m.stream.streamId ∈ m.priorStreamIds) StreamRisk.streamReplay ++
  flag (ledger ≠ rt.casefold m.priorStreamLedgerSha256 ∨ ledger ≠ rt.casefold p.expectedPriorStreamLedgerSha256)
    StreamRisk.priorStreamLedgerMismatch ++
  flag (m.networkOperations ≠ 0) StreamRisk.networkOperationUnexpected

/-- `risks`. -/
def risksOf (a : VerifiedInferenceAcceleratorIsolationAssessment) : List StreamRisk :=
  bindingRisks rt p m a ++ loopRisks rt p m (start m) m.stream.frames ++ streamRisks p m ++ cancellationRisks rt p m ++
    backpressureRisks p m ++ ledgerRisks rt p m

/-- `derive`. -/
def derive (a : VerifiedInferenceAcceleratorIsolationAssessment) : Check (List StreamRisk) := do
  validateManifest rt p m
  pure (sorted StreamRisk.value (risksOf rt p m a))

end Streaming

end Aegis.Inference
