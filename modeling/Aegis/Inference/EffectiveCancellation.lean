/-
  Aegis.Inference.EffectiveCancellation — what is put out after a cancellation has taken effect.

  `derive` follows the frames with one loop, the end of the stream with a second check and the
  cancellation with a third, which asks where the cancellation takes effect only if the stream
  says that it ends with one.
  - `one_terminal`: a stream without a risk has one terminal frame, the last one.
  - `stopped_of_cancelled`: where the policy expects a cancelled stream, no frame comes after the
    cancellation has taken effect, and only so many after it was asked for.
  - `stopped_iff`: where it expects a final frame, this is so only for a cancellation that takes
    effect after the last frame.
  - `Sample.runs_on`: the cancellation takes effect before the second frame, and the stream runs
    to its final frame.
-/

import Aegis.Inference.StreamChain

namespace Aegis.Inference.Streaming

open Data Checks
open Agentic (hex)
open Agentic.Decision (flag flag_eq_nil sorted sorted_eq_nil)

variable {rt : Runtime} {p : InferenceStreamingSecurityPolicy} {m : InferenceStreamingSecurityManifest}
  {a : VerifiedInferenceAcceleratorIsolationAssessment} {fs : List StreamFrameEvidence} {f : StreamFrameEvidence}
  {previous : String}

/-! ## What is promised of a stream -/

/-- One terminal frame, and no frame after it. -/
def OneTerminal (s : StreamingOutputEvidence) : Prop :=
  ∃ before f, s.frames = before ++ [f] ∧ f.terminal = true ∧ ∀ g ∈ before, g.terminal = false

/-- Nothing is put out after the cancellation has taken effect. -/
structure Stopped (s : StreamingOutputEvidence) (maxCancelLagFrames : Int) : Prop where
  last : ∀ f ∈ s.frames, f.seqNo ≤ s.cancellation.effectiveBeforeSeq
  cancelled : ∃ f ∈ s.frames, f.seqNo = s.cancellation.effectiveBeforeSeq ∧ f.kind = .cancelled
  lag : ((s.frames.filter fun f => s.cancellation.requestedAfterSeq < f.seqNo).length : Int) ≤ maxCancelLagFrames

/-- The cancellation takes effect at one of the frames. -/
def TakesEffect (s : StreamingOutputEvidence) : Prop := s.cancellation.effectiveBeforeSeq ≤ s.frames.length

/-! ## Places -/

/-- The frame at a place has the number of the place. -/
theorem seqNo_of_linked {seq : Int} (h : Linked rt previous seq fs)
    {i : Nat} (hf : fs[i]? = some f) : f.seqNo = seq + i := by
  induction fs generalizing previous seq i with
  | nil => simp at hf
  | cons g gs ih =>
    obtain ⟨hseq, -, hrest⟩ := h
    cases i with
    | zero =>
      cases hf
      omega
    | succ i =>
      have hplace := ih hrest hf
      omega

/-- Frames numbered in order: after the number `r` come at most those up to the last one. -/
theorem after_le {seq r : Int} (h : Linked rt previous seq fs)
    (hr : r < seq + fs.length) : ((fs.filter fun f => r < f.seqNo).length : Int) ≤ seq + fs.length - 1 - r := by
  induction fs generalizing previous seq with
  | nil =>
    simp only [List.filter_nil, List.length_nil] at hr ⊢
    omega
  | cons f fs ih =>
    by_cases hfirst : r < seq
    · have hle := List.length_filter_le (fun f => r < f.seqNo) (f :: fs)
      omega
    · obtain ⟨hseq, -, hrest⟩ := h
      have hskip : ¬ r < f.seqNo := by omega
      rw [List.length_cons] at hr ⊢
      have hlater := ih hrest (by omega)
      simp only [List.filter_cons, hskip, decide_false, Bool.false_eq_true, if_false]
      omega

/-! ## A stream without a risk -/

section

variable (h : derive rt p m a = .ok [])
include h

theorem risksOf_of_derive : risksOf rt p m a = [] := by
  simp only [derive, ok_seq] at h
  exact sorted_eq_nil.mp (Except.ok.inj h.2)

theorem linked_of_safe : Linked rt m.stream.frameChainSeedSha256 1 m.stream.frames :=
  (linked_of_derive h (by simp [Intact])).1

theorem stream_of_safe :
    (m.stream.frames.filter (·.terminal)).length = 1 ∧ m.stream.frames.getLast?.map (·.kind) = some p.expectedTerminalKind ∧
      m.stream.terminalKind = p.expectedTerminalKind := by
  have hrisks := risksOf_of_derive h
  simp only [risksOf, List.append_eq_nil_iff, streamRisks, flag_eq_nil, not_or, not_not] at hrisks
  obtain ⟨⟨⟨⟨-, -, hone, hlast, hkind⟩, -⟩, -⟩, -⟩ := hrisks
  exact ⟨hone, hkind ▸ hlast, hkind⟩

end

/-- The kinds a policy may expect at the end. -/
theorem terminalKind_of_policy (hp : validatePolicy rt p = .ok ()) :
    p.expectedTerminalKind = .cancelled ∨ p.expectedTerminalKind = .final := by
  simp only [validatePolicy, ok_seq, raiseIf_ok, not_not] at hp
  obtain ⟨-, -, -, -, -, -, -, -, -, -, -, -, -, -, hkind⟩ := hp
  simpa using hkind

theorem one_terminal (hp : validatePolicy rt p = .ok ()) (h : derive rt p m a = .ok []) : OneTerminal m.stream := by
  obtain ⟨hone, hlast, -⟩ := stream_of_safe h
  rcases List.eq_nil_or_concat m.stream.frames with hnil | ⟨before, f, hframes⟩
  · rw [hnil] at hone
    cases hone
  rw [List.concat_eq_append] at hframes
  rw [hframes, List.getLast?_concat, Option.map_some, Option.some.injEq] at hlast
  have hf : f.terminal = true := by
    unfold StreamFrameEvidence.terminal
    rcases terminalKind_of_policy hp with hkind | hkind
    · rw [hlast, hkind]
      rfl
    · rw [hlast, hkind]
      rfl
  refine ⟨before, f, hframes, hf, fun g hg => ?_⟩
  rw [hframes, List.filter_append, List.filter_cons_of_pos hf, List.length_append] at hone
  have hnone : before.filter (·.terminal) = [] := by
    apply List.length_eq_zero_iff.mp
    simp only [List.filter_nil, List.length_cons, List.length_nil] at hone
    omega
  have hnot := List.filter_eq_nil_iff.mp hnone g hg
  simpa using hnot

/-- The frame of a terminal kind is the last one. -/
theorem OneTerminal.kind {s : StreamingOutputEvidence} (h : OneTerminal s) (hf : f ∈ s.frames)
    (ht : f.terminal = true) : s.frames.getLast?.map (·.kind) = some f.kind := by
  obtain ⟨before, g, hframes, -, hbefore⟩ := h
  rw [hframes] at hf ⊢
  rw [List.getLast?_concat]
  rcases List.mem_append.mp hf with hin | hlast
  · rw [hbefore f hin] at ht
    cases ht
  · rw [List.mem_singleton.mp hlast]
    rfl

theorem stopped_of_cancelled (h : derive rt p m a = .ok []) (hkind : p.expectedTerminalKind = .cancelled) :
    Stopped m.stream p.maxCancelLagFrames := by
  have hlinked := linked_of_safe h
  have hterminal : m.stream.terminalKind = .cancelled := (stream_of_safe h).2.2.trans hkind
  have hrisks := risksOf_of_derive h
  simp only [risksOf, List.append_eq_nil_iff, cancellationRisks, if_pos hterminal, flag_eq_nil, not_or, not_not] at hrisks
  obtain ⟨⟨⟨-, ⟨-, -, -, hafter, hbound⟩, ⟨hin, hat⟩, hlate⟩, -⟩, -⟩ := hrisks
  have hlast : ∀ f ∈ m.stream.frames, f.seqNo ≤ m.stream.cancellation.effectiveBeforeSeq := by
    intro f hf
    by_contra hgt
    exact hlate ⟨f, hf, .inl (by omega)⟩
  obtain ⟨f, hf, hfkind⟩ := Option.map_eq_some_iff.mp hat
  have hmem := List.mem_of_getElem? hf
  have hseq := seqNo_of_linked hlinked hf
  have hpositive : 0 < m.stream.cancellation.effectiveBeforeSeq := by
    have hle := hlast f hmem
    omega
  -- the last frame has the number of frames, so the effective number is that number
  obtain ⟨before, g, hframes⟩ : ∃ before g, m.stream.frames = before ++ [g] := by
    rcases List.eq_nil_or_concat m.stream.frames with hnil | ⟨before, g, hframes⟩
    · rw [hnil] at hmem
      cases hmem
    · exact ⟨before, g, hframes.trans (List.concat_eq_append ..)⟩
  have hg := (linked_concat.mp (hframes ▸ hlinked)).2.1
  have hglast := hlast g (by rw [hframes]; simp)
  have hlength : m.stream.frames.length = before.length + 1 := by
    rw [hframes, List.length_append, List.length_singleton]
  refine ⟨hlast, ⟨f, hmem, by omega, hfkind⟩, ?_⟩
  have hcount := after_le (r := m.stream.cancellation.requestedAfterSeq) hlinked (by omega)
  omega

/-! ## Whatever end is expected -/

/-- A stream without a risk has one terminal frame, the last one; that nothing is put out after a
cancellation that takes effect holds of a cancelled stream, and else of no such cancellation. -/
theorem stopped_iff (hp : validatePolicy rt p = .ok ()) (h : derive rt p m a = .ok []) :
    (OneTerminal m.stream ∧ (TakesEffect m.stream → Stopped m.stream p.maxCancelLagFrames)) ↔
      p.expectedTerminalKind = .cancelled ∨ (m.stream.frames.length : Int) < m.stream.cancellation.effectiveBeforeSeq := by
  constructor
  · rintro ⟨hone, hstopped⟩
    rcases terminalKind_of_policy hp with hkind | hkind
    · exact .inl hkind
    · right
      by_contra hle
      have heffect : TakesEffect m.stream := by
        unfold TakesEffect
        omega
      obtain ⟨f, hf, -, hcancelled⟩ := (hstopped heffect).cancelled
      have hlast := hone.kind hf (by simp [StreamFrameEvidence.terminal, hcancelled])
      rw [(stream_of_safe h).2.1, hkind, hcancelled] at hlast
      cases hlast
  · intro hwhen
    refine ⟨one_terminal hp h, fun heffect => ?_⟩
    rcases hwhen with hkind | hlate
    · exact stopped_of_cancelled h hkind
    · unfold TakesEffect at heffect
      omega

namespace Sample

/-- `_ID`, of the letters of a text. -/
def idLetters : List Char → Bool
  | [] => false
  | c :: cs => Scheduler.isLowerAlnum c && 1 ≤ cs.length && cs.length ≤ 127 && cs.all fun c => Scheduler.isLowerAlnum c || "._:/@+-".toList.contains c

theorem isId_letters (s : String) : Streaming.isId s = idLetters (letters s) := by
  rw [letters_eq]
  rfl
theorem isSha_hex (c : Char) : Scheduler.isSha (hex c) = (('0' ≤ c && c ≤ '9') || ('a' ≤ c && c ≤ 'f') || ('A' ≤ c && c ≤ 'F')) := by
  rw [Scheduler.isSha, hex, String.toList_ofList, List.length_replicate, List.all_replicate]
  simp

def cancellation (requestedAfterSeq : Int) : StreamCancellationEvidence where
  cancellationId := "cancel-1"
  requestedAfterSeq
  effectiveBeforeSeq := requestedAfterSeq + 1
  reasonCode := "none"
  authorizationSha256 := hex '2'

def requested (requestedAfterSeq : Int) : Json :=
  .obj [("cancellation_id", .str "cancel-1"), ("reason_code", .str "none"), ("requested_after_seq", .int requestedAfterSeq),
    ("session_id", .str "tenant/acme/session/s-001"), ("stream_id", .str "stream-1"), ("tenant_id", .str "acme")]

def runtimeAt (requestedAfterSeq : Int) : Runtime :=
  { runtime with
    sha256 := Assurance.tabledDigest [routeText, token.toJson, requested requestedAfterSeq, ledgerText]
    sha256_not_blank := Assurance.tabledDigest_not_blank _ }

/-- The stream of two frames, whose cancellation takes effect at the first. -/
def running : InferenceStreamingSecurityManifest :=
  { manifest with stream := { manifest.stream with cancellation := cancellation 0 } }

/-- The stream that is cancelled with its second frame. -/
def stopped : InferenceStreamingSecurityManifest :=
  { manifest with
    stream := { manifest.stream with
      frames := [token, { last with kind := .cancelled, encodedBytes := 58 }]
      cancellation := cancellation 1
      terminalKind := .cancelled } }

def cancelling : InferenceStreamingSecurityPolicy := { policy with expectedTerminalKind := .cancelled }

theorem policy_valid (hutf : rt.casefold "utf-8" = "utf-8") {kind : StreamFrameKind} (h : kind ∈ [StreamFrameKind.cancelled, .final]) :
    validatePolicy rt { policy with expectedTerminalKind := kind } = .ok () := by
  simp only [validatePolicy, ok_seq, raiseIf_ok]
  simp only [policy, List.mem_cons, List.not_mem_nil, or_false, exists_eq_or_imp, exists_eq_left, forall_eq_or_imp, forall_eq, isSha_hex,
    isId_letters]
  refine ⟨?_, ?_, ?_, ?_, ?_, ?_, ?_, ?_, not_not_intro hutf, ?_, ?_, ?_, ?_, ?_, not_not_intro (by simpa using h)⟩
  all_goals decide +kernel

theorem running_valid : validateManifest (runtimeAt 0) policy running = .ok () := by
  simp only [validateManifest, validateFrame, ok_seq, raiseIf_ok, forEach_ok]
  simp only [running, manifest, cancellation, token, last, List.mem_cons, List.not_mem_nil, or_false, exists_eq_or_imp, exists_eq_left,
    forall_eq_or_imp, forall_eq, false_and, exists_false, reduceCtorEq, if_false, raiseIf_ok, isSha_hex, isId_letters]
  repeat' apply And.intro
  all_goals decide +kernel

theorem stopped_valid : validateManifest (runtimeAt 1) cancelling stopped = .ok () := by
  simp only [validateManifest, validateFrame, ok_seq, raiseIf_ok, forEach_ok]
  simp only [stopped, manifest, cancellation, token, last, List.mem_cons, List.not_mem_nil, or_false, exists_eq_or_imp, exists_eq_left,
    forall_eq_or_imp, forall_eq, false_and, exists_false, reduceCtorEq, if_false, raiseIf_ok, isSha_hex, isId_letters]
  repeat' apply And.intro
  all_goals decide +kernel

theorem running_derived : derive (runtimeAt 0) policy running assessment = .ok [] := by
  rw [derive, running_valid]
  decide +kernel

theorem stopped_derived : derive (runtimeAt 1) cancelling stopped assessment = .ok [] := by
  rw [derive, stopped_valid]
  decide +kernel

end Sample

open Sample in
/-- A stream that is cancelled with its second frame. -/
theorem stopped_iff_second : TakesEffect stopped.stream ∧ OneTerminal stopped.stream ∧ Stopped stopped.stream 2 := by
  have heffect : TakesEffect stopped.stream := by
    unfold TakesEffect
    decide
  obtain ⟨hone, hstopped⟩ := (stopped_iff (policy_valid rfl (by decide)) stopped_derived).mpr (.inl rfl)
  exact ⟨heffect, hone, hstopped heffect⟩

open Sample in
/-- The cancellation takes effect at the first frame, no risk is attached, and a second frame follows. -/
theorem Sample.runs_on : validatePolicy (runtimeAt 0) policy = .ok () ∧ derive (runtimeAt 0) policy running assessment = .ok [] ∧
    TakesEffect running.stream ∧ ¬ Stopped running.stream policy.maxCancelLagFrames := by
  refine ⟨policy_valid rfl (by decide), running_derived, ?_, fun hstopped => ?_⟩
  · unfold TakesEffect
    decide
  · have hle := hstopped.last last (List.mem_cons_of_mem _ List.mem_cons_self)
    revert hle
    decide

end Aegis.Inference.Streaming
