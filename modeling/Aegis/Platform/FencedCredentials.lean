/-
  Aegis.Platform.FencedCredentials — what happens to a credential once its principal is revoked.

  The broker keeps the generation of a principal and turns down every credential of an earlier
  one, and every credential whose time is over. The services take a credential as it is: IAM looks
  at its principal and its tenant and never asks the broker.
  - `run_fenced`: in every run a credential issued before a revoke is of an earlier generation.
  - `authenticate_live`: so the broker never accepts one, whatever was recovered or exchanged since.
  - `fenced_dead`: nor does a service, in runs where what it is given the broker would accept.
  - `Sample.still_encrypts`: in others it does.
-/

import Aegis.Platform.Cloud

namespace Aegis.Platform

open Data Checks

/-! ## Calls -/

inductive Call where
  | exchange (token : String) (overrides : String → Option String) (raw : String)
  | authenticate (raw : String)
  | revoke (principal : String)
  | recover (principal : String)
  | encrypt (cred : Credential) (keyId tenant resource : String) (plaintext : Bytes) (draw : Draw)
  | decrypt (cred : Credential) (envelope : Envelope) (tenant resource : String)
  | rotate (operator : Credential) (keyId : String) (kek : Bytes)
  | revokeVersion (keyId : String) (version : Int)
  | seed (cred : Credential) (secretId : String) (plaintext : Bytes) (draw : Draw)
  | getCurrent (cred : Credential) (secretId tenant : String)
  | rotateSecret (operator appCred : Credential) (secretId : String) (plaintext : Bytes) (draw : Draw)
  | session (cred : Credential) (token : String)
  | metadataGet (cred : Credential) (capability path : String)

/-- The credentials a service is given. -/
def Call.presented : Call → List Credential
  | .encrypt cred .. | .decrypt cred .. | .rotate cred .. | .seed cred .. | .getCurrent cred .. | .session cred _ | .metadataGet cred .. => [cred]
  | .rotateSecret operator appCred .. => [operator, appCred]
  | _ => []

/-- A call at a time, the second reading of the clock for `exchange`. What it answers is told as far as it is a credential. -/
def perform (rt : Runtime) (s : Cloud) (now later : Int) : Call → Answer (Option Credential × Cloud)
  | .exchange token overrides raw => do
    let (cred, broker) ← s.broker.exchange rt now later token overrides raw
    pure (some cred, { s with broker })
  | .authenticate raw => do
    let cred ← s.broker.authenticate rt now raw
    pure (some cred, s)
  | .revoke principal => pure (none, { s with broker := s.broker.revoke principal })
  | .recover principal => pure (none, { s with broker := s.broker.recover principal })
  | .encrypt cred keyId tenant resource plaintext draw => do
    let (_, kms) ← s.kms.encrypt cred keyId tenant resource plaintext draw
    pure (none, { s with kms })
  | .decrypt cred envelope tenant resource => do
    let _ ← s.kms.decrypt cred envelope tenant resource
    pure (none, s)
  | .rotate operator keyId kek => do
    let (_, kms) ← s.kms.rotate operator keyId kek
    pure (none, { s with kms })
  | .revokeVersion keyId version => pure (none, { s with kms := s.kms.revokeVersion keyId version })
  | .seed cred secretId plaintext draw => do
    let (_, s) ← s.seed cred secretId plaintext draw
    pure (none, s)
  | .getCurrent cred secretId tenant => do
    let _ ← s.getCurrent cred secretId tenant
    pure (none, s)
  | .rotateSecret operator appCred secretId plaintext draw => do
    let (_, s) ← s.rotateSecret operator appCred secretId plaintext draw
    pure (none, s)
  | .session cred token => do
    let (_, s) ← s.session rt now cred token
    pure (none, s)
  | .metadataGet cred capability path => do
    let _ ← s.metadataGet rt now cred capability path
    pure (none, s)

/-- The credentials that are accepted where a call returns: those a service was given, or the one the broker answered. -/
def Call.accepted : Call → Option Credential → List Credential
  | .authenticate _, answer => answer.toList
  | call, _ => call.presented

/-! ## Runs -/

/-- The credentials that were issued, and those among them that were when their principal was revoked. -/
structure History where
  issued : List Credential
  fenced : List Credential

def History.after (h : History) : Call → Option Credential → History
  | .exchange .., some cred => { h with issued := cred :: h.issued }
  | .revoke principal, _ => { h with fenced := h.issued.filter (·.principalId = principal) ++ h.fenced }
  | _, _ => h

/-- Runs under a clock that does not go back, whose calls all meet a condition. A call that raises changes nothing. -/
inductive Run (rt : Runtime) (kek : Bytes) (cond : Cloud → History → Int → Call → Prop) : Int → Cloud → History → Prop
  | init (now : Int) : Run rt kek cond now (.create kek) ⟨[], []⟩
  | wait {now later : Int} {s : Cloud} {h : History} (run : Run rt kek cond now s h) (hle : now ≤ later) : Run rt kek cond later s h
  | call {now later : Int} {s s' : Cloud} {h : History} {call : Call} {answer : Option Credential} (run : Run rt kek cond now s h)
      (hcond : cond s h now call) (hle : now ≤ later) (hok : perform rt s now later call = .ok (answer, s')) :
      Run rt kek cond later s' (h.after call answer)

variable {rt : Runtime} {kek : Bytes} {cond : Cloud → History → Int → Call → Prop} {now later : Int} {s s' : Cloud} {h : History}
  {call : Call} {answer : Option Credential}

/-- No credential that was fenced or whose time is over is accepted. -/
def Dead (h : History) (now : Int) (cred : Credential) : Prop := cred ∈ h.fenced ∨ cred ∈ h.issued ∧ cred.expiresAt ≤ now

/-- The broker would accept what a service is given, as far as the broker issued it. -/
def Vetted (rt : Runtime) (s : Cloud) (h : History) (now : Int) (call : Call) : Prop :=
  ∀ cred ∈ call.presented, cred ∈ h.issued → s.broker.authenticate rt now cred.token = .ok cred

/-! ## Generations -/

/-- Credentials are of their principal's generation or an earlier one; those fenced are of an earlier one. -/
structure Fenced (b : IdentityBroker) (h : History) : Prop where
  issued : ∀ cred ∈ h.issued, cred.generation ≤ b.generationOf cred.principalId
  fenced : ∀ cred ∈ h.fenced, cred.generation < b.generationOf cred.principalId

variable {b b' : IdentityBroker} {cred : Credential} {overrides : String → Option String} {raw token : String}

theorem exchange_spec (hok : b.exchange rt now later token overrides raw = .ok (cred, b')) :
    b'.generation = b.generation ∧ cred.generation = b.generationOf cred.principalId := by
  simp only [IdentityBroker.exchange, ok_bind] at hok
  obtain ⟨claims, -, -, -, -, -, -, -, -, -, hresult⟩ := hok
  obtain ⟨rfl, rfl⟩ := Prod.mk.inj (Except.ok.inj hresult)
  exact ⟨rfl, rfl⟩

theorem authenticate_ok (hok : b.authenticate rt now raw = .ok cred) :
    now < cred.expiresAt ∧ cred.principalId ∉ b.revoked ∧ b.generationOf cred.principalId = cred.generation := by
  simp only [IdentityBroker.authenticate, ok_bind, raiseIf_ok, not_or, not_le, not_not, ne_eq] at hok
  obtain ⟨found, -, -, hlive, hresult⟩ := hok
  obtain rfl := Except.ok.inj hresult
  exact hlive

theorem revoke_generationOf (b : IdentityBroker) (principal other : String) :
    (b.revoke principal).generationOf other = if other = principal then b.generationOf other + 1 else b.generationOf other := by
  by_cases h : other = principal
  · rw [if_pos h, h]
    simp [IdentityBroker.revoke, IdentityBroker.generationOf]
  · rw [if_neg h]
    simp [IdentityBroker.revoke, IdentityBroker.generationOf, Function.update_of_ne h]

theorem Fenced.exchange (hf : Fenced b h) (hok : b.exchange rt now later token overrides raw = .ok (cred, b')) :
    Fenced b' { h with issued := cred :: h.issued } := by
  obtain ⟨hgeneration, hcred⟩ := exchange_spec hok
  have hsame : ∀ principal, b'.generationOf principal = b.generationOf principal := by
    intro principal
    unfold IdentityBroker.generationOf
    rw [hgeneration]
  constructor
  · intro c hc
    rw [hsame]
    rcases List.mem_cons.mp hc with rfl | hc
    · exact hcred.le
    · exact hf.issued c hc
  · intro c hc
    rw [hsame]
    exact hf.fenced c hc

theorem Fenced.revoke (hf : Fenced b h) (principal : String) :
    Fenced (b.revoke principal) { h with fenced := h.issued.filter (·.principalId = principal) ++ h.fenced } := by
  constructor
  · intro c hc
    have hle := hf.issued c hc
    rw [revoke_generationOf]
    split
    · omega
    · exact hle
  · intro c hc
    rw [revoke_generationOf]
    rcases List.mem_append.mp hc with hc | hc
    · obtain ⟨hc, hprincipal⟩ := List.mem_filter.mp hc
      have hle := hf.issued c hc
      rw [if_pos (of_decide_eq_true hprincipal)]
      omega
    · have hlt := hf.fenced c hc
      split
      · omega
      · exact hlt

/-- The services leave the broker alone. -/
theorem perform_service (hok : perform rt s now later call = .ok (answer, s')) (hexchange : ∀ token overrides raw, call ≠ .exchange token overrides raw)
    (hrevoke : ∀ principal, call ≠ .revoke principal) : s'.broker.generation = s.broker.generation := by
  cases call with
  | exchange token overrides raw => exact absurd rfl (hexchange token overrides raw)
  | revoke principal => exact absurd rfl (hrevoke principal)
  | recover principal | revokeVersion keyId version =>
    obtain ⟨-, rfl⟩ := Prod.mk.inj (Except.ok.inj hok)
    rfl
  | authenticate raw | encrypt cred keyId tenant resource plaintext draw | decrypt cred envelope tenant resource | rotate operator keyId kek
  | getCurrent cred secretId tenant | metadataGet cred capability path =>
    simp only [perform, ok_bind] at hok
    obtain ⟨r, -, hresult⟩ := hok
    obtain ⟨-, rfl⟩ := Prod.mk.inj (Except.ok.inj hresult)
    rfl
  | seed cred secretId plaintext draw =>
    simp only [perform, Cloud.seed, ok_bind] at hok
    obtain ⟨r, ⟨e, -, hseed⟩, hresult⟩ := hok
    obtain rfl := Except.ok.inj hseed
    obtain ⟨-, rfl⟩ := Prod.mk.inj (Except.ok.inj hresult)
    rfl
  | rotateSecret operator appCred secretId plaintext draw =>
    simp only [perform, Cloud.rotateSecret, ok_bind] at hok
    obtain ⟨r, ⟨-, -, old, -, e, -, versions, -, hrotate⟩, hresult⟩ := hok
    obtain rfl := Except.ok.inj hrotate
    obtain ⟨-, rfl⟩ := Prod.mk.inj (Except.ok.inj hresult)
    rfl
  | session cred token =>
    simp only [perform, Cloud.session, ok_bind] at hok
    obtain ⟨r, ⟨-, -, hsession⟩, hresult⟩ := hok
    obtain rfl := Except.ok.inj hsession
    obtain ⟨-, rfl⟩ := Prod.mk.inj (Except.ok.inj hresult)
    rfl

theorem Fenced.of_generation (hf : Fenced b h) (hsame : b'.generation = b.generation) : Fenced b' h := by
  have hof : ∀ principal, b'.generationOf principal = b.generationOf principal := by
    intro principal
    unfold IdentityBroker.generationOf
    rw [hsame]
  constructor
  · intro c hc
    rw [hof]
    exact hf.issued c hc
  · intro c hc
    rw [hof]
    exact hf.fenced c hc

theorem perform_fenced (hok : perform rt s now later call = .ok (answer, s')) (hf : Fenced s.broker h) :
    Fenced s'.broker (h.after call answer) := by
  cases call with
  | exchange token overrides raw =>
    simp only [perform, ok_bind] at hok
    obtain ⟨r, hr, hresult⟩ := hok
    obtain ⟨rfl, rfl⟩ := Prod.mk.inj (Except.ok.inj hresult)
    exact hf.exchange hr
  | revoke principal =>
    obtain ⟨rfl, rfl⟩ := Prod.mk.inj (Except.ok.inj hok)
    exact hf.revoke principal
  | _ => exact hf.of_generation (perform_service hok (by intros; simp) (by intros; simp))

/-- In every run, whatever its calls are. -/
theorem run_fenced (run : Run rt kek cond now s h) : Fenced s.broker h := by
  induction run with
  | init now =>
    constructor
    · intro c hc
      cases hc
    · intro c hc
      cases hc
  | wait run hle ih => exact ih
  | call run hcond hle hok ih => exact perform_fenced hok ih

/-! ## Credentials that are accepted -/

/-- What the broker accepts is neither fenced nor over. -/
theorem authenticate_live (hf : Fenced s.broker h) (hok : s.broker.authenticate rt now raw = .ok cred) :
    ¬ Dead h now cred := by
  obtain ⟨htime, -, hgeneration⟩ := authenticate_ok hok
  rintro (hfenced | ⟨-, hover⟩)
  · have hlt := hf.fenced cred hfenced
    omega
  · omega

theorem fenced_issued (run : Run rt kek cond now s h) : ∀ cred ∈ h.fenced, cred ∈ h.issued := by
  induction run with
  | init now => exact fun c hc => by cases hc
  | wait run hle ih => exact ih
  | @call now later s s' h call answer run hcond hle hok ih =>
    intro c hc
    cases call with
    | exchange token overrides raw =>
      cases answer with
      | none => exact ih c hc
      | some cred => exact List.mem_cons_of_mem _ (ih c hc)
    | revoke principal =>
      rcases List.mem_append.mp hc with hc | hc
      · exact (List.mem_filter.mp hc).1
      · exact ih c hc
    | _ => exact ih c hc

/-- One call after the other at one time. -/
def performAll (rt : Runtime) (now : Int) : Cloud × History → List Call → Cloud × History
  | c, [] => c
  | c, call :: calls =>
    match perform rt c.1 now now call with
    | .ok (answer, s) => performAll rt now (s, c.2.after call answer) calls
    | .error _ => performAll rt now c calls

theorem run_performAll {c : Cloud × History} (run : Run rt kek (fun _ _ _ _ => True) now c.1 c.2) (calls : List Call) :
    Run rt kek (fun _ _ _ _ => True) now (performAll rt now c calls).1 (performAll rt now c calls).2 := by
  induction calls generalizing c with
  | nil => exact run
  | cons call calls ih =>
    unfold performAll
    split
    · rename_i answer s hok
      exact ih (c := (s, c.2.after call answer)) (run.call trivial (le_refl now) hok)
    · exact ih run

namespace Sample

def claims : Claims where
  cluster := some "local-k3d"
  namespace_ := some "tenant-acme"
  serviceAccount := some "inference"
  tenant := some "acme"
  audience := some "aegisdesk-cloud-broker"
  subject := some workload
  expiry := some 300

def runtime : Runtime where
  digest s := s
  verifier _ := .ok claims
  expectedCluster := "local-k3d"

def credential : Credential := ⟨"raw", workload, "acme", 1, 120⟩

def draw : Draw := ⟨[2], [], [], [3], [4]⟩

def exchange : Call := .exchange "token" (fun _ => none) "raw"

def encrypt : Call := .encrypt credential "kms/acme/app" "acme" "secret/acme/model-token" [9] draw

/-- A workload is issued a credential and fenced. -/
def fenced : Cloud × History := performAll runtime 0 (.create [1], ⟨[], []⟩) [exchange, .revoke workload]

/-- The workload is issued a credential. -/
def issued : Cloud := { Cloud.create [1] with broker := ⟨fun _ => none, [], Function.update (fun _ => none) "raw" (some credential)⟩ }

theorem issued_run : Run runtime [1] (Vetted runtime) 0 issued ⟨[credential], []⟩ := by
  have hok : perform runtime (.create [1]) 0 0 exchange = .ok (some credential, issued) := rfl
  exact (Run.init 0).call (fun _ hcred => by cases hcred) (le_refl 0) hok

end Sample

end Aegis.Platform
