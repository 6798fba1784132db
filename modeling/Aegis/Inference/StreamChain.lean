/-
  Aegis.Inference.StreamChain — frames cannot be injected, reordered or dropped.

  Whatever a payload says, its frame is one event:
  - `frame_read`: the bytes of `encode_sse_event` are read as one event of that kind, whose data is
    read back as that payload.
  - `frames_read`: the bytes of any frames, one after the other, are read as these frames.

  A stream is chained from its route to its last frame:
  - `linked_of_derive`: without a sequence or a chain risk every frame has its place in its sequence
    number and the digest of the frame before it, the first one the seed.
  - `linked_inj`: so the digest of the last frame determines the frames, from the last one back.
  - `frames_bound`: both together.
-/

import Aegis.Assurance.Regression
import Aegis.Inference.Streaming

namespace Aegis.Inference.Streaming

open Data Checks
open Agentic (hex)
open Agentic.Decision (flag flag_eq_nil mem_flag sorted)
open EventStream (Event Unbroken eventText)

variable {rt : Runtime} {p p' : InferenceStreamingSecurityPolicy} {m m' : InferenceStreamingSecurityManifest}
  {a a' : VerifiedInferenceAcceleratorIsolationAssessment} {fs fs' : List StreamFrameEvidence}

/-! ## Frames on the wire -/

/-- The event a frame is to be read as. -/
def eventOf (kind : StreamFrameKind) (payloadText : String) : Event :=
  ⟨kind.value, canonicalJsonText (.obj [("kind", .str kind.value), ("payload", .str payloadText)])⟩

theorem unbroken_of_uncontrolled {cs : List Char} (h : Json.Uncontrolled cs) : Unbroken cs := by
  intro c hc
  have hlow := h c hc
  constructor
  · rintro rfl
    exact absurd hlow (by decide)
  · rintro rfl
    exact absurd hlow (by decide)

theorem kind_unbroken (kind : StreamFrameKind) : kind.value ≠ "" ∧ Unbroken kind.value.toList := by
  cases kind <;> decide +kernel

theorem eventOf_framed (kind : StreamFrameKind) (payloadText : String) : (eventOf kind payloadText).type ≠ "" ∧
    Unbroken (eventOf kind payloadText).type.toList ∧ Unbroken (eventOf kind payloadText).data.toList :=
  ⟨(kind_unbroken kind).1, (kind_unbroken kind).2, unbroken_of_uncontrolled (Json.dumpsText_uncontrolled _)⟩

/-- The data of a frame is read back as its kind and its payload. -/
theorem data_read (kind : StreamFrameKind) (payloadText : String) :
    Json.readTexts (eventOf kind payloadText).data = some [("kind", kind.value), ("payload", payloadText)] := by
  have hsorted : (Json.obj [("kind", .str kind.value), ("payload", .str payloadText)]).sorted =
      Json.texts [("kind", kind.value), ("payload", payloadText)] := by
    show Json.insertField "kind" (.str kind.value) (.field "payload" (.str payloadText) .empty) = _
    unfold Json.insertField
    rw [if_neg (by decide)]
    rfl
  unfold eventOf canonicalJsonText
  rw [hsorted, Json.readTexts_dumps]

/-- The bytes of any frames are read as these frames. -/
theorem frames_read (frames : List (StreamFrameKind × String)) :
    EventStream.ofBytes (EventStream.concat (frames.map fun f => encodeSseEvent f.1 f.2)) = some (frames.map fun f => eventOf f.1 f.2) := by
  have hframed : ∀ e ∈ frames.map fun f => eventOf f.1 f.2, e.type ≠ "" ∧ EventStream.Unbroken e.type.toList ∧
      EventStream.Unbroken e.data.toList := by
    intro e he
    obtain ⟨f, -, rfl⟩ := List.mem_map.mp he
    exact eventOf_framed f.1 f.2
  have hread := EventStream.ofBytes_concat hframed
  rw [List.map_map] at hread
  exact hread

/-! ## Digests tell frames and routes apart -/

theorem kind_value_injective : Function.Injective StreamFrameKind.value := by
  intro k l h
  cases k <;> cases l <;> first | rfl | simp [StreamFrameKind.value] at h

theorem toJson_injective : Function.Injective StreamFrameEvidence.toJson := by
  intro f g h
  simp only [StreamFrameEvidence.toJson, Json.obj_cons, Json.field.injEq, Json.bool.injEq, Json.int.injEq, Json.str.injEq, true_and] at h
  obtain ⟨hacked, hbytes, hid, hkind, hpayload, htext, hprevious, hseq, hsse, hjson, hsha, hname, -⟩ := h
  cases f
  cases g
  simp only [StreamFrameEvidence.mk.injEq]
  exact ⟨hid, hseq, kind_value_injective hkind, htext, hpayload, hsse, hbytes, hacked, hprevious, hname, hjson, hsha⟩

/-! ## The chain -/

/-- Each frame stands at its place and names the frame before it, the first one `previous`. -/
def Linked (rt : Runtime) (previous : String) (seq : Int) : List StreamFrameEvidence → Prop
  | [] => True
  | f :: fs => f.seqNo = seq ∧ rt.casefold f.previousFrameSha256 = rt.casefold previous ∧ Linked rt (streamFrameDigest rt f) (seq + 1) fs

/-- What the next frame is to name. -/
def headOf (rt : Runtime) (previous : String) (fs : List StreamFrameEvidence) : String :=
  fs.foldl (fun _ f => streamFrameDigest rt f) previous

theorem headOf_concat (previous : String) (fs : List StreamFrameEvidence) (f : StreamFrameEvidence) :
    headOf rt previous (fs ++ [f]) = streamFrameDigest rt f := by
  unfold headOf
  rw [List.foldl_append]
  rfl

theorem linked_concat {previous : String} {seq : Int} {f : StreamFrameEvidence} : Linked rt previous seq (fs ++ [f]) ↔
      Linked rt previous seq fs ∧ f.seqNo = seq + fs.length ∧ rt.casefold f.previousFrameSha256 = rt.casefold (headOf rt previous fs) := by
  induction fs generalizing previous seq with
  | nil => simp [Linked, headOf]
  | cons g gs ih =>
    simp only [List.cons_append, Linked, ih, List.length_cons, headOf, List.foldl_cons]
    have hseq : seq + 1 + (gs.length : Int) = seq + ((gs.length + 1 : Nat) : Int) := by omega
    rw [hseq]
    exact ⟨fun h => ⟨⟨h.1, h.2.1, h.2.2.1⟩, h.2.2.2⟩, fun h => ⟨h.1.1, h.1.2.1, h.1.2.2, h.2⟩⟩

/-- What the digests of a stream rest on: SHA-256 tells texts apart, and a digest is in small letters. -/
structure Collisionless (rt : Runtime) : Prop where
  injective : Function.Injective rt.sha256
  lower : ∀ j, rt.casefold (rt.sha256 j) = rt.sha256 j

theorem frame_inj (h : Collisionless rt) {f g : StreamFrameEvidence}
    (hd : rt.casefold (streamFrameDigest rt f) = rt.casefold (streamFrameDigest rt g)) : f = g := by
  unfold streamFrameDigest at hd
  rw [h.lower, h.lower] at hd
  exact toJson_injective (h.injective hd)

/-- Chains of one length with one head are one chain, from the last frame back to the seed. -/
theorem linked_inj (h : Collisionless rt) {seed seed' : String} {seq seq' : Int}
    (hl : Linked rt seed seq fs) (hl' : Linked rt seed' seq' fs') (hlength : fs.length = fs'.length)
    (hhead : rt.casefold (headOf rt seed fs) = rt.casefold (headOf rt seed' fs')) :
    fs = fs' ∧ rt.casefold seed = rt.casefold seed' := by
  induction fs using List.reverseRecOn generalizing fs' with
  | nil =>
    obtain rfl := List.length_eq_zero_iff.mp hlength.symm
    exact ⟨rfl, hhead⟩
  | append_singleton gs f ih =>
    rcases List.eq_nil_or_concat fs' with rfl | ⟨gs', f', rfl⟩
    · simp at hlength
    obtain ⟨hgs, -, hprevious⟩ := linked_concat.mp hl
    rw [List.concat_eq_append] at hl' hlength hhead ⊢
    obtain ⟨hgs', -, hprevious'⟩ := linked_concat.mp hl'
    rw [headOf_concat, headOf_concat] at hhead
    obtain rfl := frame_inj h hhead
    have hshorter : gs.length = gs'.length := by simpa using hlength
    obtain ⟨hframes, hseed⟩ := ih hgs hgs' hshorter (hprevious.symm.trans hprevious')
    rw [hframes]
    exact ⟨rfl, hseed⟩

/-! ## What the analyzer sees to -/

/-- A stream to which no chain, sequence or digest risk is attached. -/
def Intact (risks : List StreamRisk) : Prop :=
  ∀ risk ∈ [StreamRisk.frameChainMismatch, .frameSequenceMismatch, .frameDigestMismatch], risk ∉ risks

instance decidableIntact (risks : List StreamRisk) : Decidable (Intact risks) := inferInstanceAs (Decidable (∀ _ ∈ _, _))

theorem loop_linked {g : Progress} (hseq : .frameSequenceMismatch ∉ loopRisks rt p m g fs)
    (hchain : .frameChainMismatch ∉ loopRisks rt p m g fs) : Linked rt g.previous g.expectedSeq fs := by
  induction fs generalizing g with
  | nil => trivial
  | cons f fs ih =>
    simp only [loopRisks, List.mem_append, not_or] at hseq hchain
    refine ⟨?_, ?_, ih hseq.2 hchain.2⟩
    · by_contra hne
      apply hseq.1
      simp [frameRisks, mem_flag, hne]
    · by_contra hne
      apply hchain.1
      simp [frameRisks, mem_flag, hne]

/-- The seed of a stream, and the digest of its route. -/
def routeDigest (rt : Runtime) (s : StreamingOutputEvidence) : String :=
  streamSeedDigest rt s.streamId s.outputChannelId s.requestId s.tenantId s.sessionId s.streamGeneration

theorem linked_of_derive {risks : List StreamRisk} (h : derive rt p m a = .ok risks) (hi : Intact risks) :
    Linked rt m.stream.frameChainSeedSha256 1 m.stream.frames ∧
      rt.casefold m.stream.frameChainSeedSha256 = rt.casefold (routeDigest rt m.stream) ∧ m.stream.frames ≠ [] := by
  simp only [derive, ok_seq] at h
  obtain ⟨hvalid, h⟩ := h
  have hrisks : risks = sorted StreamRisk.value (risksOf rt p m a) := (Except.ok.inj h).symm
  have hclear : ∀ risk ∈ [StreamRisk.frameChainMismatch, .frameSequenceMismatch, .frameDigestMismatch], risk ∉ risksOf rt p m a := by
    intro risk hrisk hin
    apply hi risk hrisk
    rw [hrisks]
    unfold sorted
    rw [mem_sortOn, List.mem_dedup]
    exact hin
  have hchain := hclear .frameChainMismatch (by simp)
  have hseq := hclear .frameSequenceMismatch (by simp)
  simp only [risksOf, List.mem_append, not_or] at hchain hseq
  refine ⟨loop_linked (g := start m) hseq.1.1.1.1.2 hchain.1.1.1.1.2, ?_, ?_⟩
  · by_contra hne
    apply hchain.1.1.1.1.1
    unfold routeDigest at hne
    simp [bindingRisks, mem_flag, hne]
  · simp only [validateManifest, ok_seq, raiseIf_ok, not_or] at hvalid
    exact hvalid.2.2.2.2.2.2.1.1

/-- What a stream is and where it goes. -/
structure SameStream (s s' : StreamingOutputEvidence) : Prop where
  frames : s.frames = s'.frames
  streamId : s.streamId = s'.streamId
  outputChannelId : s.outputChannelId = s'.outputChannelId
  requestId : s.requestId = s'.requestId
  tenantId : s.tenantId = s'.tenantId
  sessionId : s.sessionId = s'.sessionId
  streamGeneration : s.streamGeneration = s'.streamGeneration

theorem route_inj (h : Collisionless rt) {s s' : StreamingOutputEvidence} (hframes : s.frames = s'.frames)
    (hd : rt.casefold (routeDigest rt s) = rt.casefold (routeDigest rt s')) : SameStream s s' := by
  unfold routeDigest streamSeedDigest at hd
  rw [h.lower, h.lower] at hd
  have hroute := h.injective hd
  simp only [Json.obj_cons, Json.field.injEq, Json.int.injEq, Json.str.injEq, true_and] at hroute
  obtain ⟨hgeneration, hchannel, hrequest, hsession, hstream, htenant, -⟩ := hroute
  exact ⟨hframes, hstream, hchannel, hrequest, htenant, hsession, hgeneration⟩

/-- Any frames are read off their bytes, and two streams without a chain, sequence or digest risk whose last frames have one digest are
one stream. -/
theorem frames_bound (hc : Collisionless rt) {risks risks' : List StreamRisk} (h : derive rt p m a = .ok risks) (hi : Intact risks)
    (h' : derive rt p' m' a' = .ok risks') (hi' : Intact risks')
    (hlast : m.stream.frames.getLast?.map (streamFrameDigest rt) = m'.stream.frames.getLast?.map (streamFrameDigest rt))
    (frames : List (StreamFrameKind × String)) :
    (∃ events, EventStream.ofBytes (EventStream.concat (frames.map fun f => encodeSseEvent f.1 f.2)) = some events ∧
      List.Forall₂ (fun f e => e.type = f.1.value ∧ Json.readTexts e.data = some [("kind", f.1.value), ("payload", f.2)]) frames events) ∧
    SameStream m.stream m'.stream := by
  refine ⟨⟨_, frames_read frames, ?_⟩, ?_⟩
  · rw [List.forall₂_map_right_iff]
    exact List.forall₂_same.mpr fun f _ => ⟨rfl, data_read f.1 f.2⟩
  · obtain ⟨hlinked, hseed, hne⟩ := linked_of_derive h hi
    obtain ⟨hlinked', hseed', hne'⟩ := linked_of_derive h' hi'
    rcases List.eq_nil_or_concat m.stream.frames with hnil | ⟨gs, f, hfs⟩
    · exact absurd hnil hne
    rcases List.eq_nil_or_concat m'.stream.frames with hnil | ⟨gs', f', hfs'⟩
    · exact absurd hnil hne'
    rw [List.concat_eq_append] at hfs hfs'
    rw [hfs, hfs', List.getLast?_concat, List.getLast?_concat, Option.map_some, Option.map_some, Option.some.injEq] at hlast
    obtain rfl := frame_inj hc (congrArg rt.casefold hlast)
    have hplace := (linked_concat.mp (hfs ▸ hlinked)).2.1
    have hplace' := (linked_concat.mp (hfs' ▸ hlinked')).2.1
    have hlength : m.stream.frames.length = m'.stream.frames.length := by
      rw [hfs, hfs', List.length_append, List.length_append]
      have heq : (gs.length : Int) = gs'.length := by omega
      omega
    have hhead : rt.casefold (headOf rt m.stream.frameChainSeedSha256 m.stream.frames) =
        rt.casefold (headOf rt m'.stream.frameChainSeedSha256 m'.stream.frames) := by
      rw [hfs, hfs', headOf_concat, headOf_concat]
    obtain ⟨hframes, hseeds⟩ := linked_inj hc hlinked hlinked' hlength hhead
    exact route_inj hc hframes (hseed.symm.trans (hseeds.trans hseed'))

/-! ## A stream of two frames -/

namespace Sample

def routeText : Json :=
  .obj [("generation", .int 1), ("output_channel_id", .str "channel-1"), ("request_id", .str "request-1"),
    ("session_id", .str "tenant/acme/session/s-001"), ("stream_id", .str "stream-1"), ("tenant_id", .str "acme")]

def cancellationText : Json :=
  .obj [("cancellation_id", .str "cancel-1"), ("reason_code", .str "none"), ("requested_after_seq", .int 2),
    ("session_id", .str "tenant/acme/session/s-001"), ("stream_id", .str "stream-1"), ("tenant_id", .str "acme")]

def ledgerText : Json := .obj [("prior_stream_ids", .nil)]

/-- A payload that looks like the end of the stream. -/
def token : StreamFrameEvidence where
  frameId := "frame-1"
  seqNo := 1
  kind := .token
  payloadText := "ok\n\nevent: final"
  payloadSha256 := hex 'a'
  sseSha256 := hex 'a'
  encodedBytes := 68
  acked := true
  previousFrameSha256 := hex '0'
  toolName := ""
  toolArgumentsJson := ""
  toolArgumentsSha256 := ""

def last : StreamFrameEvidence :=
  { token with frameId := "frame-2", seqNo := 2, kind := .final, payloadText := "", encodedBytes := 50, previousFrameSha256 := hex '1' }

def runtime : Runtime where
  sha256 := Assurance.tabledDigest [routeText, token.toJson, cancellationText, ledgerText]
  hmac _ := Assurance.tabledDigest []
  sha256_not_blank := Assurance.tabledDigest_not_blank _
  casefold s := s
  str j := String.ofList j.code
  str_injective := Agentic.code_text_injective
  textSha256 _ := hex 'a'
  loads _ := .error "Expecting value"

def manifest : InferenceStreamingSecurityManifest where
  schemaVersion := p10gSchemaVersion
  manifestId := "p10g-manifest"
  createdAtEpoch := 1800
  p10fAssessmentSha256 := hex 'b'
  requestId := "request-1"
  tenantId := "acme"
  sessionId := "tenant/acme/session/s-001"
  targetModelId := "model-1"
  targetModelRevision := "revision-1"
  adapterIds := []
  adapterGeneration := 1
  partitionIds := ["partition-1"]
  stream := {
    streamId := "stream-1"
    outputChannelId := "channel-1"
    requestId := "request-1"
    tenantId := "acme"
    sessionId := "tenant/acme/session/s-001"
    streamGeneration := 1
    contentType := "text/event-stream"
    encoding := "utf-8"
    maxFrameBytes := 256
    maxTotalOutputBytes := 1024
    maxBufferedBytes := 512
    maxUnackedFrames := 2
    frameChainSeedSha256 := hex '0'
    frames := [token, last]
    cancellation := { cancellationId := "cancel-1", requestedAfterSeq := 2, effectiveBeforeSeq := 3, reasonCode := "none",
                      authorizationSha256 := hex '2' }
    backpressure := { observedHighWaterBytes := 128, observedHighWaterUnackedFrames := 1, producerPauseCount := 1, queueDrained := true }
    terminalKind := .final }
  priorStreamIds := []
  priorStreamLedgerSha256 := hex '3'
  networkOperations := 0

def policy : InferenceStreamingSecurityPolicy where
  policyVersion := p10gPolicyVersion
  expectedManifestId := "p10g-manifest"
  expectedManifestSha256 := hex 'c'
  expectedP10fAssessmentSha256 := hex 'b'
  expectedRequestId := "request-1"
  expectedTenantId := "acme"
  expectedSessionId := "tenant/acme/session/s-001"
  expectedTargetModelId := "model-1"
  expectedTargetModelRevision := "revision-1"
  expectedAdapterIds := []
  expectedAdapterGeneration := 1
  expectedPartitionIds := ["partition-1"]
  expectedStreamId := "stream-1"
  expectedOutputChannelId := "channel-1"
  expectedStreamGeneration := 1
  expectedContentType := "text/event-stream"
  expectedEncoding := "utf-8"
  expectedFrameIds := ["frame-1", "frame-2"]
  expectedTerminalKind := .final
  expectedCancellationId := "cancel-1"
  expectedCancellationAuthorizationSha256 := hex '2'
  maxCancelLagFrames := 2
  maxFrameBytes := 256
  maxTotalOutputBytes := 1024
  maxBufferedBytes := 512
  maxUnackedFrames := 2
  maxToolArgumentsBytes := 128
  allowedToolNames := ["search"]
  requireBackpressureObserved := true
  requireQueueDrained := true
  expectedPriorStreamLedgerSha256 := hex '3'
  maxManifestAgeSeconds := 300
  maxFutureSkewSeconds := 5

def assessment : VerifiedInferenceAcceleratorIsolationAssessment where
  requestId := "request-1"
  tenantId := "acme"
  sessionId := "tenant/acme/session/s-001"
  decision := .allow
  risks := []
  targetModelId := "model-1"
  targetModelRevision := "revision-1"
  adapterIds := []
  adapterGeneration := 1
  partitionIds := ["partition-1"]
  upstreamP10eBound := true
  hostProbeBound := true
  deviceAssignmentVerified := true
  dmaIsolationVerified := true
  memoryIsolationVerified := true
  sideChannelProfileVerified := true
  leaseSafetyVerified := true
  callerDeclaredSafetyTrusted := false
  liveGpuHardwareValidated := false
  productionGpuRuntimeIntegrated := false
  productionCgroupEnforcementVerified := false
  productionIommuEnforcementVerified := false
  physicalVramZeroizationVerified := false
  dmaAttackResistanceValidated := false
  sideChannelResistanceValidated := false
  hardwareAttestationVerified := false
  assessmentSchemaVersion := p10fAssessmentSchemaVersion
  assessmentMode := p10fAssessmentMode
  assessmentEvidenceSha256 := hex 'b'

theorem derived : derive runtime policy manifest assessment = .ok [] := by
  decide +kernel

theorem collisionless : Collisionless runtime where
  injective := Assurance.tabledDigest_injective _
  lower _ := rfl

end Sample

open Sample in
/-- The payload with a line that looks like an event is one event all the same. -/
theorem frames_bound_two :
    (∃ events, EventStream.ofBytes (EventStream.concat ([token, last].map fun f => encodeSseEvent f.kind f.payloadText)) = some events ∧
      List.Forall₂ (fun (f : StreamFrameKind × String) (e : Event) =>
        e.type = f.1.value ∧ Json.readTexts e.data = some [("kind", f.1.value), ("payload", f.2)])
        [(.token, "ok\n\nevent: final"), (.final, "")] events) ∧
    SameStream manifest.stream manifest.stream :=
  frames_bound collisionless derived (by decide) derived (by decide) rfl [(.token, "ok\n\nevent: final"), (.final, "")]

end Aegis.Inference.Streaming
