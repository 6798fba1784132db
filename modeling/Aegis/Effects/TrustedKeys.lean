/-
  Aegis.Effects.TrustedKeys — `TrustedAuthorizationKeyStore` (signed_authorization.py): an issuer's
  first key is trusted, later ones come by rotation, and every rotation raises the issuer's epoch.

  A key is accepted for an epoch while its row bears that epoch and the issuer is in it
  (`Accepts`): those are the keys `_decision_failure` verifies a signature under
  (`decisionFailure_none`).

  - `one_key_iff`: over a run no epoch has two keys, and none goes back, exactly when every
    repeated initial trust brings the key that is accepted already.
  - `two_keys`: `trust_initial_key` takes a second key for the epoch an issuer is in.
-/

import Aegis.Effects.Freshness

namespace Aegis.Effects

open Data AuthorizationState

/-! ## The store -/

def hexDigitOf (n : Nat) : Char := if n < 10 then Char.ofNat (48 + n) else Char.ofNat (87 + n)

/-- `bytes.hex()`. -/
def bytesHex (bs : List UInt8) : String := String.ofList (bs.flatMap fun b => [hexDigitOf (b.toNat / 16), hexDigitOf (b.toNat % 16)])

namespace TrustedAuthorizationKeyStore

/-- `INSERT INTO authorization_trusted_keys … ON CONFLICT DO UPDATE`. -/
def trustKey (a : AuthorizationState) (issuerId audience keyId : String) (keyEpoch : Nat) (publicKeyHex : String) : List TrustedKeyRow :=
  upsert (fun r => (r.issuerId, r.audience, r.keyId)) a.trustedKeys ⟨issuerId, audience, keyId, keyEpoch, publicKeyHex⟩ fun r =>
    { r with keyEpoch, publicKeyHex }

/-- `trust_initial_key`. -/
def trustInitialKey (a : AuthorizationState) (issuerId audience keyId : String) (keyEpoch : Nat) (publicKeyBytes : List UInt8) :
    Except Error AuthorizationState :=
  if keyEpoch < 1 ∨ publicKeyBytes.length ≠ 32 then .error (.value "invalid Ed25519 trust key")
  else
    match a.currentEpoch? issuerId audience with
    | some current =>
      if current ≠ keyEpoch then .error (.value "initial trust epoch already established")
      else .ok { a with trustedKeys := trustKey a issuerId audience keyId keyEpoch (bytesHex publicKeyBytes) }
    | none =>
      .ok { a with
        trustedKeys := trustKey a issuerId audience keyId keyEpoch (bytesHex publicKeyBytes)
        keyEpochs := a.keyEpochs ++ [⟨issuerId, audience, keyEpoch⟩] }

/-- `rotate_key`. -/
def rotateKey (a : AuthorizationState) (issuerId audience keyId : String) (keyEpoch : Nat) (publicKeyBytes : List UInt8) :
    Except Error AuthorizationState :=
  if keyEpoch < 1 ∨ publicKeyBytes.length ≠ 32 then .error (.value "invalid Ed25519 trust key")
  else
    match a.currentEpoch? issuerId audience with
    | none => .error (.key "authorization issuer trust not initialized")
    | some current =>
      if keyEpoch ≤ current then .error (.value "authorization signing key epochs are monotonic")
      else .ok { a with
        trustedKeys := trustKey a issuerId audience keyId keyEpoch (bytesHex publicKeyBytes)
        keyEpochs := Table.update (fun r => (r.issuerId, r.audience)) a.keyEpochs (issuerId, audience) fun r =>
          { r with currentKeyEpoch := keyEpoch } }

inductive Operation where
  | trustInitialKey | rotateKey
  deriving DecidableEq, Repr

/-- A call of the store. -/
structure Call where
  operation : Operation
  issuerId : String
  audience : String
  keyId : String
  keyEpoch : Nat
  publicKeyBytes : List UInt8
  deriving DecidableEq, Repr

def Call.run (call : Call) (a : AuthorizationState) : Except Error AuthorizationState :=
  match call.operation with
  | .trustInitialKey => trustInitialKey a call.issuerId call.audience call.keyId call.keyEpoch call.publicKeyBytes
  | .rotateKey => rotateKey a call.issuerId call.audience call.keyId call.keyEpoch call.publicKeyBytes

/-- A store no issuer is trusted in yet. -/
def Fresh (a : AuthorizationState) : Prop := a.trustedKeys = [] ∧ a.keyEpochs = []

/-- The calls of a run that returned, each with the state it was made in. -/
inductive Run : List (AuthorizationState × Call) → AuthorizationState → Prop
  | fresh {a : AuthorizationState} (h : Fresh a) : Run [] a
  | call {steps : List (AuthorizationState × Call)} {a a' : AuthorizationState} {call : Call} (h : Run steps a) (hcall : call.run a = .ok a') :
      Run (steps ++ [(a, call)]) a'

/-! ## Keys that are accepted -/

/-- The key is one of the issuer's for this epoch, and the issuer is in it. -/
def Accepts (a : AuthorizationState) (issuerId audience : String) (keyEpoch : Nat) (publicKeyHex : String) : Prop :=
  a.currentEpoch? issuerId audience = some keyEpoch ∧
    ∃ keyId row, a.key? issuerId audience keyId = some row ∧ row.keyEpoch = keyEpoch ∧ row.publicKeyHex = publicKeyHex

/-! ## What a call does -/

variable {a a' b c : AuthorizationState} {call : Call} {issuerId audience keyId publicKeyHex : String} {keyEpoch : Nat}

theorem trustKey_self :
    Table.lookup (fun r => (r.issuerId, r.audience, r.keyId)) (trustKey a issuerId audience keyId keyEpoch publicKeyHex)
      (issuerId, audience, keyId) = some ⟨issuerId, audience, keyId, keyEpoch, publicKeyHex⟩ := by
  unfold trustKey upsert
  cases h : Table.lookup (fun r => (r.issuerId, r.audience, r.keyId)) a.trustedKeys (issuerId, audience, keyId) with
  | none =>
    exact Table.lookup_append_new h
  | some row =>
    dsimp only
    have hkey := Table.key_of_lookup h
    simp only [Prod.mk.injEq] at hkey
    rw [Table.lookup_update_self, h, Option.map_some, hkey.1, hkey.2.1, hkey.2.2]
    exact fun _ hr => hr

theorem trustKey_ne {k : String × String × String} (h : k ≠ (issuerId, audience, keyId)) :
    Table.lookup (fun r => (r.issuerId, r.audience, r.keyId)) (trustKey a issuerId audience keyId keyEpoch publicKeyHex) k =
      Table.lookup (fun r => (r.issuerId, r.audience, r.keyId)) a.trustedKeys k :=
  lookup_upsert_ne (fun _ => rfl) h

/-- The epoch a call may be made in: none yet or its own for an initial key, a lower one for a rotation. -/
def Call.Admits (call : Call) (current : Option Nat) : Prop :=
  match call.operation with
  | .trustInitialKey => ∀ e ∈ current, e = call.keyEpoch
  | .rotateKey => ∃ e ∈ current, e < call.keyEpoch

/-- All a call that returns does. -/
structure Returned (call : Call) (a a' : AuthorizationState) : Prop where
  admits : call.Admits (a.currentEpoch? call.issuerId call.audience)
  current : a'.currentEpoch? call.issuerId call.audience = some call.keyEpoch
  key : a'.key? call.issuerId call.audience call.keyId =
    some ⟨call.issuerId, call.audience, call.keyId, call.keyEpoch, bytesHex call.publicKeyBytes⟩
  others : ∀ issuerId audience keyId, (issuerId, audience, keyId) ≠ (call.issuerId, call.audience, call.keyId) →
    a'.key? issuerId audience keyId = a.key? issuerId audience keyId
  epochs : ∀ issuerId audience, (issuerId, audience) ≠ (call.issuerId, call.audience) →
    a'.currentEpoch? issuerId audience = a.currentEpoch? issuerId audience

theorem currentEpoch_append (h : a.currentEpoch? issuerId audience = none) :
    ({ a with keyEpochs := a.keyEpochs ++ [⟨issuerId, audience, keyEpoch⟩] } : AuthorizationState).currentEpoch? issuerId audience =
      some keyEpoch := by
  unfold currentEpoch? at h ⊢
  rw [Option.map_eq_none_iff] at h
  dsimp only
  rw [Table.lookup_append_new h, Option.map_some]

theorem currentEpoch_append_ne {i u : String} (h : (i, u) ≠ (issuerId, audience)) :
    ({ a with keyEpochs := a.keyEpochs ++ [⟨issuerId, audience, keyEpoch⟩] } : AuthorizationState).currentEpoch? i u = a.currentEpoch? i u := by
  have hne : (issuerId, audience) ≠ (i, u) := Ne.symm h
  unfold currentEpoch?
  dsimp only
  rw [Table.lookup_append_ne]
  exact hne

theorem currentEpoch_update {keyEpoch current : Nat} (h : a.currentEpoch? issuerId audience = some current) :
    ({ a with keyEpochs := Table.update (fun r => (r.issuerId, r.audience)) a.keyEpochs (issuerId, audience) fun r =>
      { r with currentKeyEpoch := keyEpoch } } : AuthorizationState).currentEpoch? issuerId audience = some keyEpoch := by
  unfold currentEpoch? at h ⊢
  dsimp only
  obtain ⟨row, hrow, -⟩ := Option.map_eq_some_iff.mp h
  rw [Table.lookup_update_self, hrow]
  · rfl
  · exact fun _ hr => hr

theorem currentEpoch_update_ne {i u : String} (h : (i, u) ≠ (issuerId, audience)) :
    ({ a with keyEpochs := Table.update (fun r => (r.issuerId, r.audience)) a.keyEpochs (issuerId, audience) fun r =>
      { r with currentKeyEpoch := keyEpoch } } : AuthorizationState).currentEpoch? i u = a.currentEpoch? i u := by
  unfold currentEpoch?
  dsimp only
  rw [Table.lookup_update_ne]
  · exact fun _ hr => hr
  · exact h

theorem run_returned (h : call.run a = .ok a') : Returned call a a' := by
  obtain ⟨operation, issuerId, audience, keyId, keyEpoch, publicKeyBytes⟩ := call
  cases operation with
  | trustInitialKey =>
    simp only [Call.run, trustInitialKey] at h
    split_ifs at h
    cases hcurrent : a.currentEpoch? issuerId audience with
    | some current =>
      simp only [hcurrent] at h
      split_ifs at h with hsame
      rw [not_not] at hsame
      cases h
      refine ⟨?_, hsame ▸ hcurrent, trustKey_self, fun _ _ _ hne => trustKey_ne hne, fun _ _ _ => rfl⟩
      intro e he
      dsimp only at he
      rw [hcurrent] at he
      exact (Option.some.inj he) ▸ hsame
    | none =>
      simp only [hcurrent] at h
      cases h
      refine ⟨?_, currentEpoch_append hcurrent, trustKey_self, fun _ _ _ hne => trustKey_ne hne, fun _ _ hne => currentEpoch_append_ne hne⟩
      intro e he
      dsimp only at he
      rw [hcurrent] at he
      cases he
  | rotateKey =>
    simp only [Call.run, rotateKey] at h
    split_ifs at h
    cases hcurrent : a.currentEpoch? issuerId audience with
    | none =>
      simp only [hcurrent] at h
      cases h
    | some current =>
      simp only [hcurrent] at h
      split_ifs at h with hlt
      cases h
      exact ⟨⟨current, hcurrent, Nat.lt_of_not_le hlt⟩, currentEpoch_update hcurrent, trustKey_self, fun _ _ _ hne => trustKey_ne hne,
        fun _ _ hne => currentEpoch_update_ne hne⟩

/-! ## One key for an epoch -/

/-- The states a run was in. -/
def visited (steps : List (AuthorizationState × Call)) (a : AuthorizationState) : List AuthorizationState := steps.map (·.1) ++ [a]

/-- Over these states no issuer has two keys for an epoch. -/
def OneKey (states : List AuthorizationState) : Prop := ∀ b ∈ states, ∀ b' ∈ states, ∀ issuerId audience keyEpoch publicKeyHex publicKeyHex',
  Accepts b issuerId audience keyEpoch publicKeyHex → Accepts b' issuerId audience keyEpoch publicKeyHex' → publicKeyHex = publicKeyHex'

/-- The epoch of an issuer is no earlier one. -/
def NotBack (a a' : AuthorizationState) : Prop := ∀ issuerId audience e, a.currentEpoch? issuerId audience = some e →
  ∃ e', a'.currentEpoch? issuerId audience = some e' ∧ e ≤ e'

/-- An initial key for an issuer that is trusted already is the key that is accepted. -/
def Call.Consistent (call : Call) (a : AuthorizationState) : Prop := call.operation = .trustInitialKey →
  ∀ publicKeyHex, Accepts a call.issuerId call.audience call.keyEpoch publicKeyHex → publicKeyHex = bytesHex call.publicKeyBytes

/-- No key is of a later epoch than its issuer. -/
def Bounded (a : AuthorizationState) : Prop := ∀ issuerId audience keyId row, a.key? issuerId audience keyId = some row →
  ∃ e, a.currentEpoch? issuerId audience = some e ∧ row.keyEpoch ≤ e

theorem NotBack.refl (a : AuthorizationState) : NotBack a a := fun _ _ e h => ⟨e, h, Nat.le_refl e⟩

theorem NotBack.trans (h : NotBack a b) (h' : NotBack b c) : NotBack a c := by
  intro issuerId audience e he
  obtain ⟨e1, he1, hle⟩ := h issuerId audience e he
  obtain ⟨e2, he2, hle'⟩ := h' issuerId audience e1 he1
  exact ⟨e2, he2, hle.trans hle'⟩

namespace Returned

section

variable (h : Returned call a a') {e : Nat}
include h

/-- The epoch before a call is no later than the call's. -/
theorem epoch_le (he : a.currentEpoch? call.issuerId call.audience = some e) : e ≤ call.keyEpoch := by
  have hadmits := h.admits
  unfold Call.Admits at hadmits
  cases hop : call.operation with
  | trustInitialKey =>
    rw [hop] at hadmits
    exact Nat.le_of_eq (hadmits e he)
  | rotateKey =>
    rw [hop] at hadmits
    obtain ⟨e', he', hlt⟩ := hadmits
    rw [Option.mem_def, he, Option.some.injEq] at he'
    omega

theorem notBack : NotBack a a' := by
  intro issuerId audience e he
  by_cases hsame : (issuerId, audience) = (call.issuerId, call.audience)
  · obtain ⟨rfl, rfl⟩ := Prod.mk.inj hsame
    exact ⟨call.keyEpoch, h.current, h.epoch_le he⟩
  · exact ⟨e, (h.epochs _ _ hsame).trans he, Nat.le_refl e⟩

theorem bounded (hb : Bounded a) : Bounded a' := by
  intro issuerId audience keyId row hrow
  by_cases hkey : (issuerId, audience, keyId) = (call.issuerId, call.audience, call.keyId)
  · simp only [Prod.mk.injEq] at hkey
    obtain ⟨rfl, rfl, rfl⟩ := hkey
    obtain rfl := Option.some.inj (h.key.symm.trans hrow)
    exact ⟨call.keyEpoch, h.current, Nat.le_refl _⟩
  · rw [h.others _ _ _ hkey] at hrow
    obtain ⟨e, he, hle⟩ := hb issuerId audience keyId row hrow
    obtain ⟨e', he', hle'⟩ := h.notBack issuerId audience e he
    exact ⟨e', he', hle.trans hle'⟩

/-- What is accepted after a call: its own key for its epoch, and what was accepted before in the same epoch. -/
theorem accepts (hb : Bounded a) (ha : Accepts a' issuerId audience e publicKeyHex) :
    ((issuerId, audience) = (call.issuerId, call.audience) ∧ e = call.keyEpoch ∧ publicKeyHex = bytesHex call.publicKeyBytes) ∨
      Accepts a issuerId audience e publicKeyHex := by
  obtain ⟨hcurrent, keyId, row, hrow, hepoch, hhex⟩ := ha
  by_cases hkey : (issuerId, audience, keyId) = (call.issuerId, call.audience, call.keyId)
  · simp only [Prod.mk.injEq] at hkey
    obtain ⟨rfl, rfl, rfl⟩ := hkey
    obtain rfl := Option.some.inj (h.key.symm.trans hrow)
    exact .inl ⟨rfl, hepoch.symm, hhex.symm⟩
  · rw [h.others _ _ _ hkey] at hrow
    refine .inr ⟨?_, keyId, row, hrow, hepoch, hhex⟩
    obtain ⟨e0, he0, hle⟩ := hb issuerId audience keyId row hrow
    obtain ⟨e1, he1, hle'⟩ := h.notBack issuerId audience e0 he0
    rw [hcurrent, Option.some.injEq] at he1
    have hsame : e0 = e := by omega
    exact hsame ▸ he0

/-- What stays accepted: the keys of the epoch the issuer is still in, where the call is consistent. -/
theorem accepts_kept (hc : call.Consistent a)
    (ha : Accepts a issuerId audience e publicKeyHex) (he : a'.currentEpoch? issuerId audience = some e) :
    Accepts a' issuerId audience e publicKeyHex := by
  obtain ⟨hcurrent, keyId, row, hrow, hepoch, hhex⟩ := ha
  by_cases hkey : (issuerId, audience, keyId) = (call.issuerId, call.audience, call.keyId)
  · simp only [Prod.mk.injEq] at hkey
    obtain ⟨rfl, rfl, rfl⟩ := hkey
    have hsame : e = call.keyEpoch := Option.some.inj (he.symm.trans h.current)
    have hinitial : call.operation = .trustInitialKey := by
      cases hop : call.operation with
      | trustInitialKey => rfl
      | rotateKey =>
        have hadmits := h.admits
        unfold Call.Admits at hadmits
        rw [hop] at hadmits
        obtain ⟨e', he', hlt⟩ := hadmits
        rw [Option.mem_def, hcurrent, Option.some.injEq] at he'
        omega
    have hown := hc hinitial publicKeyHex ⟨hsame ▸ hcurrent, call.keyId, row, hrow, hepoch.trans hsame, hhex⟩
    exact ⟨he, call.keyId, _, h.key, hsame.symm, hown.symm⟩
  · exact ⟨he, keyId, row, (h.others _ _ _ hkey).trans hrow, hepoch, hhex⟩

end

end Returned

/-- What holds of the states of a run whose calls were consistent. -/
structure Kept (states : List AuthorizationState) (a : AuthorizationState) : Prop where
  bounded : Bounded a
  notBack : ∀ b ∈ states, NotBack b a
  unique : ∀ issuerId audience e publicKeyHex publicKeyHex', Accepts a issuerId audience e publicKeyHex →
    Accepts a issuerId audience e publicKeyHex' → publicKeyHex = publicKeyHex'
  kept : ∀ b ∈ states, ∀ issuerId audience e publicKeyHex, Accepts b issuerId audience e publicKeyHex →
    a.currentEpoch? issuerId audience = some e → Accepts a issuerId audience e publicKeyHex
  oneKey : OneKey states

theorem fresh_bounded (h : Fresh a) : Bounded a := by
  intro issuerId audience keyId row hrow
  unfold key? at hrow
  rw [h.1] at hrow
  cases hrow

theorem visited_append (steps : List (AuthorizationState × Call)) (a a' : AuthorizationState) (call : Call) :
    visited (steps ++ [(a, call)]) a' = visited steps a ++ [a'] := by
  simp [visited]

variable {steps : List (AuthorizationState × Call)}

theorem notBack_of_run (h : Run steps a) : (visited steps a).Pairwise NotBack ∧ ∀ b ∈ visited steps a, NotBack b a := by
  induction h with
  | fresh hfresh => simp [visited, NotBack.refl]
  | @call steps a a' call _ hcall ih =>
    have hstep := (run_returned hcall).notBack
    have hlast : ∀ b ∈ visited steps a, NotBack b a' := fun b hb => (ih.2 b hb).trans hstep
    rw [visited_append]
    refine ⟨List.pairwise_append.mpr ⟨ih.1, List.pairwise_singleton _ _, ?_⟩, ?_⟩
    · intro b hb c hc
      rw [List.mem_singleton.mp hc]
      exact hlast b hb
    · intro b hb
      rcases List.mem_append.mp hb with hb | hb
      · exact hlast b hb
      · rw [List.mem_singleton.mp hb]
        exact .refl a'

theorem kept_step {states : List AuthorizationState} (hk : Kept states a) (h : Returned call a a') (hc : call.Consistent a) :
    Kept (states ++ [a']) a' := by
  have hkept : ∀ b ∈ states, ∀ issuerId audience e publicKeyHex, Accepts b issuerId audience e publicKeyHex →
      a'.currentEpoch? issuerId audience = some e → Accepts a' issuerId audience e publicKeyHex := by
    intro b hb issuerId audience e publicKeyHex ha he
    obtain ⟨e0, he0, hle⟩ := hk.notBack b hb issuerId audience e ha.1
    obtain ⟨e1, he1, hle'⟩ := h.notBack issuerId audience e0 he0
    rw [he, Option.some.injEq] at he1
    have hsame : e0 = e := by omega
    exact h.accepts_kept hc (hk.kept b hb issuerId audience e publicKeyHex ha (hsame ▸ he0)) he
  have hunique : ∀ issuerId audience e publicKeyHex publicKeyHex', Accepts a' issuerId audience e publicKeyHex →
      Accepts a' issuerId audience e publicKeyHex' → publicKeyHex = publicKeyHex' := by
    -- The call's own key is the one accepted before, unless the call is a rotation, and then none was.
    have hown : ∀ issuerId audience e publicKeyHex, (issuerId, audience) = (call.issuerId, call.audience) → e = call.keyEpoch →
        Accepts a issuerId audience e publicKeyHex → publicKeyHex = bytesHex call.publicKeyBytes := by
      intro issuerId audience e publicKeyHex hi he ha
      obtain ⟨rfl, rfl⟩ := Prod.mk.inj hi
      subst he
      cases hop : call.operation with
      | trustInitialKey => exact hc hop publicKeyHex ha
      | rotateKey =>
        have hadmits := h.admits
        unfold Call.Admits at hadmits
        rw [hop] at hadmits
        obtain ⟨e', he', hlt⟩ := hadmits
        rw [Option.mem_def, ha.1, Option.some.injEq] at he'
        omega
    intro issuerId audience e publicKeyHex publicKeyHex' ha ha'
    rcases h.accepts hk.bounded ha with ⟨hi, he, hhex⟩ | hbefore
    · rcases h.accepts hk.bounded ha' with ⟨-, -, hhex'⟩ | hbefore'
      · exact hhex.trans hhex'.symm
      · exact hhex.trans (hown issuerId audience e publicKeyHex' hi he hbefore').symm
    · rcases h.accepts hk.bounded ha' with ⟨hi, he, hhex'⟩ | hbefore'
      · exact (hown issuerId audience e publicKeyHex hi he hbefore).trans hhex'.symm
      · exact hk.unique issuerId audience e publicKeyHex publicKeyHex' hbefore hbefore'
  refine ⟨h.bounded hk.bounded, ?_, hunique, ?_, ?_⟩
  · intro b hb
    rcases List.mem_append.mp hb with hb | hb
    · exact (hk.notBack b hb).trans h.notBack
    · rw [List.mem_singleton.mp hb]
      exact .refl a'
  · intro b hb issuerId audience e publicKeyHex ha he
    rcases List.mem_append.mp hb with hb | hb
    · exact hkept b hb issuerId audience e publicKeyHex ha he
    · rw [List.mem_singleton.mp hb] at ha
      exact ha
  · intro b hb b' hb' issuerId audience e publicKeyHex publicKeyHex' ha ha'
    rcases List.mem_append.mp hb with hb | hb
    · rcases List.mem_append.mp hb' with hb' | hb'
      · exact hk.oneKey b hb b' hb' issuerId audience e publicKeyHex publicKeyHex' ha ha'
      · rw [List.mem_singleton.mp hb'] at ha'
        exact hunique issuerId audience e _ _ (hkept b hb issuerId audience e publicKeyHex ha ha'.1) ha'
    · rw [List.mem_singleton.mp hb] at ha
      rcases List.mem_append.mp hb' with hb' | hb'
      · exact hunique issuerId audience e _ _ ha (hkept b' hb' issuerId audience e publicKeyHex' ha' ha.1)
      · rw [List.mem_singleton.mp hb'] at ha'
        exact hunique issuerId audience e _ _ ha ha'

theorem kept_of_run (h : Run steps a) (hc : ∀ s ∈ steps, s.2.Consistent s.1) : Kept (visited steps a) a := by
  induction h with
  | @fresh a hfresh =>
    have hnone : ∀ issuerId audience e publicKeyHex, ¬ Accepts a issuerId audience e publicKeyHex := by
      intro issuerId audience e publicKeyHex ha
      obtain ⟨-, keyId, row, hrow, -⟩ := ha
      unfold key? at hrow
      rw [hfresh.1] at hrow
      cases hrow
    have hsingle : ∀ b ∈ visited [] a, b = a := fun b hb => List.mem_singleton.mp hb
    refine ⟨fresh_bounded hfresh, ?_, ?_, ?_, ?_⟩
    · intro b hb
      exact hsingle b hb ▸ .refl a
    · exact fun issuerId audience e publicKeyHex _ ha => absurd ha (hnone issuerId audience e publicKeyHex)
    · intro b hb issuerId audience e publicKeyHex ha
      rw [hsingle b hb] at ha
      exact absurd ha (hnone issuerId audience e publicKeyHex)
    · intro b hb b' _ issuerId audience e publicKeyHex _ ha
      rw [hsingle b hb] at ha
      exact absurd ha (hnone issuerId audience e publicKeyHex)
  | @call steps a a' call _ hcall ih =>
    rw [visited_append]
    exact kept_step (ih fun s hs => hc s (List.mem_append_left _ hs)) (run_returned hcall)
      (hc (a, call) (List.mem_append_right _ (List.mem_singleton_self _)))

/-- The states a call of a run was made in and led to are among those of the run. -/
theorem step_of_run (h : Run steps a) {s : AuthorizationState × Call} (hs : s ∈ steps) :
    s.1 ∈ visited steps a ∧ ∃ a' ∈ visited steps a, Returned s.2 s.1 a' := by
  induction h with
  | fresh _ => cases hs
  | @call steps a a' call _ hcall ih =>
    rw [visited_append]
    rcases List.mem_append.mp hs with hs | hs
    · obtain ⟨hbefore, b, hb, hreturned⟩ := ih hs
      exact ⟨List.mem_append_left _ hbefore, b, List.mem_append_left _ hb, hreturned⟩
    · obtain rfl := List.mem_singleton.mp hs
      exact ⟨List.mem_append_left _ (by simp [visited]), a', List.mem_append_right _ (List.mem_singleton_self a'), run_returned hcall⟩

/-- No epoch of an issuer has two keys over a run, and none goes back, exactly when every repeated initial trust brings the key that is
    accepted already. -/
theorem one_key_iff {steps : List (AuthorizationState × Call)} (h : Run steps a) :
    (OneKey (visited steps a) ∧ (visited steps a).Pairwise NotBack) ↔ ∀ s ∈ steps, s.2.Consistent s.1 := by
  constructor
  · intro hone s hs _ publicKeyHex ha
    obtain ⟨hbefore, b, hb, hreturned⟩ := step_of_run h hs
    exact hone.1 s.1 hbefore b hb _ _ _ _ _ ha ⟨hreturned.current, s.2.keyId, _, hreturned.key, rfl, rfl⟩
  · intro hc
    exact ⟨(kept_of_run h hc).oneKey, (notBack_of_run h).1⟩

/-! ## A second initial key -/

namespace Sample

def store : AuthorizationState := ⟨[], [], [], [], [], []⟩

def trust (keyId : String) (byte : UInt8) : Call := ⟨.trustInitialKey, "issuer", "effects", keyId, 1, List.replicate 32 byte⟩

def rotate (keyId : String) (byte : UInt8) : Call := ⟨.rotateKey, "issuer", "effects", keyId, 2, List.replicate 32 byte⟩

def after (calls : List Call) : AuthorizationState := calls.foldl (fun a call => (call.run a).toOption.getD a) store

theorem run_two {first second : Call} (h : (first.run store).isOk = true) (h' : (second.run (after [first])).isOk = true) :
    Run [(store, first), (after [first], second)] (after [first, second]) := by
  have hrun : Run [(store, first)] (after [first]) := by
    have hfresh : Run [] store := .fresh ⟨rfl, rfl⟩
    refine hfresh.call ?_
    cases hfirst : first.run store with
    | error e =>
      rw [hfirst] at h
      cases h
    | ok a =>
      simp only [after, List.foldl, hfirst]
      rfl
  refine hrun.call ?_
  cases hsecond : second.run (after [first]) with
  | error e =>
    rw [hsecond] at h'
    cases h'
  | ok a =>
    show Except.ok a = Except.ok ((second.run (after [first])).toOption.getD (after [first]))
    rw [hsecond]
    rfl

/-- Two initial keys for the first epoch: both are accepted. -/
theorem two_keys : ∃ steps a, Run steps a ∧ ¬ OneKey (visited steps a) := by
  have htrusted : ((trust "first" 1).run store).isOk = true := by decide +kernel
  have hagain : ((trust "second" 2).run (after [trust "first" 1])).isOk = true := by decide +kernel
  refine ⟨_, _, run_two htrusted hagain, fun hone => ?_⟩
  have hlast : after [trust "first" 1, trust "second" 2] ∈
      visited [(store, trust "first" 1), (after [trust "first" 1], trust "second" 2)] (after [trust "first" 1, trust "second" 2]) := by
    simp [visited]
  have hfirst : Accepts (after [trust "first" 1, trust "second" 2]) "issuer" "effects" 1 (bytesHex (List.replicate 32 1)) :=
    ⟨by decide +kernel, "first", ⟨"issuer", "effects", "first", 1, bytesHex (List.replicate 32 1)⟩, by decide +kernel, rfl, rfl⟩
  have hsecond : Accepts (after [trust "first" 1, trust "second" 2]) "issuer" "effects" 1 (bytesHex (List.replicate 32 2)) :=
    ⟨by decide +kernel, "second", ⟨"issuer", "effects", "second", 1, bytesHex (List.replicate 32 2)⟩, by decide +kernel, rfl, rfl⟩
  exact absurd (hone _ hlast _ hlast _ _ _ _ _ hfirst hsecond) (by decide +kernel)

/-- A rotation after the first key. -/
theorem one_key_rotated : OneKey (visited [(store, trust "first" 1), (after [trust "first" 1], rotate "second" 2)]
    (after [trust "first" 1, rotate "second" 2])) := by
  refine ((one_key_iff (run_two (by decide +kernel) (by decide +kernel))).mpr ?_).1
  intro s hs
  rcases List.mem_pair.mp hs with rfl | rfl
  · intro _ publicKeyHex ha
    cases ha.1
  · intro hop
    cases hop

end Sample

end TrustedAuthorizationKeyStore

end Aegis.Effects
