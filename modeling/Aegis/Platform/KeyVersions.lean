/-
  Aegis.Platform.KeyVersions — the versions of a key through encryptions, rotations and revocations.

  `revoke_version` marks any version, `rotate` marks the version it leaves and the one it makes,
  whatever they were marked as, and `encrypt` looks at no mark. So a revoked version stays revoked
  if it was left before:
  - `inv_step`: what is sealed is what was produced, each under a key of its own, and the marks of
    the versions that are left stand for ever.
  - `decrypt_spec`: so an envelope opens exactly if it was produced, in its own context, under a
    version that is not revoked.
  - `lifecycle`: what a key service is for, in every run that revokes only versions that were left.
  - `Sample.revived`: a version revoked before it is left is decrypted again.
-/

import Aegis.Platform.Cloud

namespace Aegis.Platform.LocalKMS

open Data Checks

/-! ## Runs -/

inductive Call where
  | encrypt (cred : Credential) (keyId tenant resource : String) (plaintext : Bytes) (draw : Draw)
  | decrypt (cred : Credential) (envelope : Envelope) (tenant resource : String)
  | rotate (operator : Credential) (keyId : String) (kek : Bytes)
  | revokeVersion (keyId : String) (version : Int)

/-- An envelope, the plain text it is of and the keys it is under. -/
structure Production where
  envelope : Envelope
  plaintext : Bytes
  dek : Bytes
  kek : Bytes

/-- What was produced, the versions that were revoked, and the keys that were drawn. -/
structure History where
  produced : List Production
  revoked : List (String × Int)
  drawn : List Bytes

/-- A call and what comes of it. Random keys are distinct, and the cipher gives no text twice. -/
inductive Step : LocalKMS → History → Call → LocalKMS → History → Prop
  | encrypt {k k' : LocalKMS} {h : History} {cred : Credential} {keyId tenant resource : String} {plaintext : Bytes} {draw : Draw}
      {e : Envelope} {kek : Bytes} (hdek : draw.dek ∉ h.drawn)
      (htexts : (k.log.map (·.text) ++ [draw.ciphertext, draw.wrappedDek]).Nodup) (hkek : k.kek keyId e.keyVersion = some kek)
      (hok : k.encrypt cred keyId tenant resource plaintext draw = .ok (e, k')) :
      Step k h (.encrypt cred keyId tenant resource plaintext draw) k'
        { h with produced := h.produced ++ [⟨e, plaintext, draw.dek, kek⟩], drawn := draw.dek :: h.drawn }
  | decrypt {k : LocalKMS} {h : History} {cred : Credential} {e : Envelope} {tenant resource : String} {plaintext : Bytes}
      (hok : k.decrypt cred e tenant resource = .ok plaintext) : Step k h (.decrypt cred e tenant resource) k h
  | rotate {k k' : LocalKMS} {h : History} {operator : Credential} {keyId : String} {kek : Bytes} {version : Int}
      (hkek : kek ∉ h.drawn) (hok : k.rotate operator keyId kek = .ok (version, k')) :
      Step k h (.rotate operator keyId kek) k' { h with drawn := kek :: h.drawn }
  | revokeVersion {k : LocalKMS} {h : History} (keyId : String) (version : Int) :
      Step k h (.revokeVersion keyId version) (k.revokeVersion keyId version) { h with revoked := (keyId, version) :: h.revoked }

/-- Runs whose calls all meet a condition; a call that raises changes nothing and is no step. -/
inductive Run (cond : LocalKMS → Call → Prop) : LocalKMS → History → Prop
  | init (kek : Bytes) : Run cond (.create kek) ⟨[], [], [kek]⟩
  | step {k k' : LocalKMS} {h h' : History} {call : Call} (run : Run cond k h) (hcond : cond k call) (hstep : Step k h call k' h') :
      Run cond k' h'

/-- A version is revoked only after it was left. -/
def Left (k : LocalKMS) : Call → Prop
  | .revokeVersion keyId version => ∀ active, k.active keyId = some active → version < active
  | _ => True

/-! ## What a key service is for -/

def Production.version (x : Production) : String × Int := (x.envelope.keyId, x.envelope.keyVersion)

structure Lifecycle (k : LocalKMS) (h : History) : Prop where
  /-- The active version of a key is its highest one. -/
  highest : ∀ keyId version, k.active keyId = some version →
    (k.kek keyId version).isSome = true ∧ ∀ other, (k.kek keyId other).isSome = true → other ≤ version
  /-- No envelope under a revoked version is decrypted. -/
  notDecrypted : ∀ cred e tenant resource, (e.keyId, e.keyVersion) ∈ h.revoked → ∀ plaintext, k.decrypt cred e tenant resource ≠ .ok plaintext
  /-- No encryption uses one. -/
  notUsed : ∀ cred keyId tenant resource plaintext draw e k', k.encrypt cred keyId tenant resource plaintext draw = .ok (e, k') →
    (e.keyId, e.keyVersion) ∉ h.revoked
  /-- An envelope under a version that is not revoked decrypts to its plain text. -/
  roundTrip : ∀ x ∈ h.produced, x.version ∉ h.revoked → ∀ cred, Allowed cred "kms:Decrypt" x.envelope.keyId x.envelope.tenantId →
    k.decrypt cred x.envelope x.envelope.tenantId x.envelope.resourceId = .ok x.plaintext
  /-- With another tenant or resource it is denied. -/
  bound : ∀ x ∈ h.produced, ∀ cred tenant resource, (tenant, resource) ≠ (x.envelope.tenantId, x.envelope.resourceId) →
    ∃ reason, k.decrypt cred x.envelope tenant resource = .error (.denied reason)
  /-- With another key id, version, nonce, text or wrapped key it is denied, unless it is another envelope altogether. -/
  altered : ∀ x ∈ h.produced, ∀ e, e ≠ x.envelope →
    (e.wrappedDek = x.envelope.wrappedDek ∨ e.ciphertext = x.envelope.ciphertext ∨ ∀ y ∈ h.produced, y.envelope ≠ e) →
      ∀ cred tenant resource, ∃ reason, k.decrypt cred e tenant resource = .error (.denied reason)

/-! ## The invariant -/

variable {k k' : LocalKMS} {h h' : History} {call : Call}

def Production.context (x : Production) : Json := LocalKMS.context x.envelope.tenantId x.envelope.resourceId "secret" x.envelope.keyVersion

/-- The two uses of the cipher behind an envelope. -/
def Production.sealings (x : Production) : List (Sealing Bytes Json) :=
  [⟨x.dek, x.envelope.nonce, x.context, x.plaintext, x.envelope.ciphertext⟩,
    ⟨x.kek, x.envelope.wrapNonce, x.context, x.dek, x.envelope.wrappedDek⟩]

structure Inv (k : LocalKMS) (h : History) : Prop where
  /-- A key has the versions from one to its active one. -/
  versions : ∀ keyId version, (k.kek keyId version).isSome = true ↔ ∃ active, k.active keyId = some active ∧ 1 ≤ version ∧ version ≤ active
  positive : ∀ keyId active, k.active keyId = some active → 1 ≤ active
  /-- Keys are drawn once. -/
  keksDrawn : ∀ keyId version kek, k.kek keyId version = some kek → kek ∈ h.drawn
  keksApart : ∀ keyId version keyId' version' kek, k.kek keyId version = some kek → k.kek keyId' version' = some kek →
    keyId = keyId' ∧ version = version'
  deksDrawn : ∀ x ∈ h.produced, x.dek ∈ h.drawn
  deksApart : (h.produced.map (·.dek)).Nodup
  deksNotKeks : ∀ x ∈ h.produced, ∀ keyId version, k.kek keyId version ≠ some x.dek
  /-- What is sealed is what was produced. -/
  log : k.log = h.produced.flatMap Production.sealings
  texts : (k.log.map (·.text)).Nodup
  keks : ∀ x ∈ h.produced, k.kek x.envelope.keyId x.envelope.keyVersion = some x.kek
  /-- Exactly the revoked versions are marked so; versions of a key were left before. -/
  marked : ∀ keyId version, (keyId, version) ∈ h.revoked → k.states (keyId, version) = some .revoked
  marks : ∀ keyId version, k.states (keyId, version) = some .revoked → (keyId, version) ∈ h.revoked
  left : ∀ keyId version active, (keyId, version) ∈ h.revoked → k.active keyId = some active → version < active

theorem kek_create (kek : Bytes) (keyId : String) (version : Int) :
    (create kek).kek keyId version = if keyId = "kms/acme/app" ∧ version = 1 then some kek else none := by
  unfold LocalKMS.kek create
  dsimp only
  by_cases hkey : keyId = "kms/acme/app"
  · subst hkey
    rw [Function.update_self]
    by_cases hversion : version = 1
    · subst hversion
      simp
    · simp [hversion]
  · simp [hkey]

theorem inv_init (kek : Bytes) : Inv (create kek) ⟨[], [], [kek]⟩ := by
  have hactive : ∀ keyId active, (create kek).active keyId = some active ↔ keyId = "kms/acme/app" ∧ active = 1 := by
    intro keyId active
    unfold create
    dsimp only
    by_cases hkey : keyId = "kms/acme/app"
    · subst hkey
      rw [Function.update_self]
      simp [eq_comm]
    · simp [hkey]
  refine ⟨?_, ?_, ?_, ?_, ?_, .nil, ?_, rfl, .nil, ?_, ?_, ?_, ?_⟩
  · intro keyId version
    rw [kek_create]
    simp only [hactive]
    by_cases hkey : keyId = "kms/acme/app"
    · by_cases hversion : version = 1
      · simp [hkey, hversion]
      · simp only [hkey, hversion, and_false, if_false, true_and, Option.isSome_none, Bool.false_eq_true, false_iff]
        rintro ⟨active, rfl, hlow, hhigh⟩
        omega
    · simp [hkey]
  · intro keyId active h
    rw [((hactive keyId active).mp h).2]
  · intro keyId version kek' h
    rw [kek_create] at h
    split_ifs at h
    exact List.mem_singleton.mpr (Option.some.inj h).symm
  · intro keyId version keyId' version' kek' h h'
    rw [kek_create] at h h'
    split_ifs at h
    split at h'
    · rename_i hfirst hsecond
      exact ⟨hfirst.1.trans hsecond.1.symm, hfirst.2.trans hsecond.2.symm⟩
    · cases h'
  · intro x hx
    cases hx
  · intro x hx
    cases hx
  · intro x hx
    cases hx
  · intro keyId version hx
    cases hx
  · intro keyId version hstate
    unfold create at hstate
    dsimp only at hstate
    by_cases hkey : (keyId, version) = ("kms/acme/app", 1)
    · rw [hkey, Function.update_self] at hstate
      cases hstate
    · rw [Function.update_of_ne hkey] at hstate
      cases hstate
  · intro keyId version active hx
    cases hx

/-! ## One call -/

variable {cred : Credential} {e : Envelope} {keyId resource tenant : String} {version : Int} {plaintext kek : Bytes}
  {x y : Production}

theorem encrypt_spec {draw : Draw}
    (hok : k.encrypt cred keyId tenant resource plaintext draw = .ok (e, k')) : ∃ version kek, k.active keyId = some version ∧
      k.kek keyId version = some kek ∧
      e = ⟨keyId, version, tenant, resource, draw.nonce, draw.ciphertext, draw.wrapNonce, draw.wrappedDek⟩ ∧
      k' = { k with log := k.log ++ (Production.mk e plaintext draw.dek kek).sealings } := by
  simp only [encrypt, ok_bind, orRaise_ok] at hok
  obtain ⟨-, -, -, -, version, hversion, kek, hkek, hresult⟩ := hok
  obtain ⟨rfl, rfl⟩ := Prod.mk.inj (Except.ok.inj hresult)
  exact ⟨version, kek, hversion, hkek, rfl, rfl⟩

theorem rotate_spec {operator : Credential} (hok : k.rotate operator keyId kek = .ok (version, k')) :
    ∃ old versions, k.active keyId = some old ∧ k.keys keyId = some versions ∧ version = old + 1 ∧ k' = { k with
        keys := Function.update k.keys keyId (some (Function.update versions (old + 1) (some kek)))
        active := Function.update k.active keyId (some (old + 1))
        states := Function.update (Function.update k.states (keyId, old) (some .decryptOnly)) (keyId, old + 1) (some .active) } := by
  simp only [rotate, ok_bind, orRaise_ok] at hok
  obtain ⟨-, -, old, hold, versions, hversions, hresult⟩ := hok
  obtain ⟨rfl, rfl⟩ := Prod.mk.inj (Except.ok.inj hresult)
  exact ⟨old, versions, hold, hversions, rfl, rfl⟩

/-- The keys after a rotation: one more. -/
theorem kek_rotate {keyId : String} {kek : Bytes} {old : Int} {versions : Int → Option Bytes} (hversions : k.keys keyId = some versions)
    (hkeys : k'.keys = Function.update k.keys keyId (some (Function.update versions (old + 1) (some kek)))) (keyId' : String) (version : Int) :
    k'.kek keyId' version = if keyId' = keyId ∧ version = old + 1 then some kek else k.kek keyId' version := by
  unfold LocalKMS.kek
  rw [hkeys]
  by_cases hkey : keyId' = keyId
  · subst hkey
    rw [Function.update_self, hversions]
    by_cases hversion : version = old + 1
    · subst hversion
      simp
    · simp [hversion]
  · simp [hkey]

theorem inv_encrypt (hi : Inv k h) {draw : Draw} (hdek : draw.dek ∉ h.drawn) (htexts : (k.log.map (·.text) ++ [draw.ciphertext, draw.wrappedDek]).Nodup)
    (hkek : k.kek keyId e.keyVersion = some kek) (hok : k.encrypt cred keyId tenant resource plaintext draw = .ok (e, k')) :
    Inv k' { h with produced := h.produced ++ [⟨e, plaintext, draw.dek, kek⟩], drawn := draw.dek :: h.drawn } := by
  obtain ⟨version, kek', hactive, hkek', rfl, rfl⟩ := encrypt_spec hok
  obtain rfl : kek' = kek := Option.some.inj (hkek'.symm.trans hkek)
  have hfresh : ∀ keyId version, k.kek keyId version ≠ some draw.dek := by
    intro keyId version hsome
    exact hdek (hi.keksDrawn keyId version _ hsome)
  refine ⟨hi.versions, hi.positive, ?_, hi.keksApart, ?_, ?_, ?_, ?_, ?_, ?_, hi.marked, hi.marks, hi.left⟩
  · intro keyId version kek hsome
    exact List.mem_cons_of_mem _ (hi.keksDrawn keyId version kek hsome)
  · intro x hx
    rcases List.mem_append.mp hx with hx | hx
    · exact List.mem_cons_of_mem _ (hi.deksDrawn x hx)
    · obtain rfl := List.mem_singleton.mp hx
      exact List.mem_cons_self
  · rw [List.map_append, List.nodup_append]
    refine ⟨hi.deksApart, List.nodup_singleton _, ?_⟩
    intro dek hold dek' hnew heq
    obtain ⟨x, hx, rfl⟩ := List.mem_map.mp hold
    obtain rfl := List.mem_singleton.mp hnew
    have hsame : x.dek = draw.dek := heq
    exact hdek (hsame ▸ hi.deksDrawn x hx)
  · intro x hx
    rcases List.mem_append.mp hx with hx | hx
    · exact hi.deksNotKeks x hx
    · obtain rfl := List.mem_singleton.mp hx
      exact hfresh
  · rw [List.flatMap_append, ← hi.log]
    simp
  · rw [List.map_append]
    exact htexts
  · intro x hx
    rcases List.mem_append.mp hx with hx | hx
    · exact hi.keks x hx
    · obtain rfl := List.mem_singleton.mp hx
      exact hkek

theorem inv_rotate (hi : Inv k h) {operator : Credential} (hfresh : kek ∉ h.drawn)
    (hok : k.rotate operator keyId kek = .ok (version, k')) : Inv k' { h with drawn := kek :: h.drawn } := by
  obtain ⟨old, versions, hold, hversions, -, hk'⟩ := rotate_spec hok
  have hkeks := kek_rotate hversions (congrArg LocalKMS.keys hk')
  have hactive : ∀ keyId', k'.active keyId' = if keyId' = keyId then some (old + 1) else k.active keyId' := by
    intro keyId'
    rw [hk']
    dsimp only
    by_cases hkey : keyId' = keyId
    · subst hkey
      rw [Function.update_self, if_pos rfl]
    · rw [Function.update_of_ne hkey, if_neg hkey]
  have hlog : k'.log = k.log := by rw [hk']
  have hone := hi.positive keyId old hold
  -- the new version is beyond those there were
  have hnew : k.kek keyId (old + 1) = none := by
    cases hsome : k.kek keyId (old + 1) with
    | none => rfl
    | some kek' =>
      obtain ⟨active, hactive', -, hle⟩ := (hi.versions keyId (old + 1)).mp (by rw [hsome]; rfl)
      rw [hold] at hactive'
      cases hactive'
      omega
  have hkept : ∀ keyId' version' kek', k.kek keyId' version' = some kek' → k'.kek keyId' version' = some kek' := by
    intro keyId' version' kek' hsome
    rw [hkeks, if_neg ?_]
    · exact hsome
    · rintro ⟨rfl, rfl⟩
      rw [hnew] at hsome
      cases hsome
  have hstates : ∀ keyId' version', k'.states (keyId', version') = some .revoked ↔
      k.states (keyId', version') = some .revoked ∧ (keyId', version') ≠ (keyId, old) ∧ (keyId', version') ≠ (keyId, old + 1) := by
    intro keyId' version'
    rw [hk']
    dsimp only
    by_cases hnext : (keyId', version') = (keyId, old + 1)
    · rw [hnext, Function.update_self]
      simp
    · rw [Function.update_of_ne hnext]
      by_cases hlast : (keyId', version') = (keyId, old)
      · rw [hlast, Function.update_self]
        simp
      · rw [Function.update_of_ne hlast]
        simp [hnext, hlast]
  refine ⟨?_, ?_, ?_, ?_, ?_, hi.deksApart, ?_, hlog.trans hi.log, hlog ▸ hi.texts, ?_, ?_, ?_, ?_⟩
  · intro keyId' version'
    rw [hkeks, hactive]
    by_cases hkey : keyId' = keyId
    · subst hkey
      rw [if_pos rfl]
      by_cases hversion : version' = old + 1
      · subst hversion
        simp only [and_self, if_true, Option.isSome_some, true_iff]
        exact ⟨old + 1, rfl, by omega, le_refl _⟩
      · rw [if_neg fun h => hversion h.2, hi.versions]
        constructor
        · rintro ⟨active, hactive', hlow, hhigh⟩
          rw [hold] at hactive'
          cases hactive'
          exact ⟨old + 1, rfl, hlow, by omega⟩
        · rintro ⟨active, hactive', hlow, hhigh⟩
          cases hactive'
          exact ⟨old, hold, hlow, by omega⟩
    · rw [if_neg fun h => hkey h.1, if_neg hkey]
      exact hi.versions keyId' version'
  · intro keyId' active h'
    rw [hactive] at h'
    split at h'
    · cases h'
      omega
    · exact hi.positive keyId' active h'
  · intro keyId' version' kek' h'
    rw [hkeks] at h'
    split at h'
    · cases h'
      exact List.mem_cons_self
    · exact List.mem_cons_of_mem _ (hi.keksDrawn keyId' version' kek' h')
  · intro keyId1 version1 keyId2 version2 kek' h1 h2
    rw [hkeks] at h1 h2
    split at h1
    · rename_i hfirst
      cases h1
      split at h2
      · rename_i hsecond
        exact ⟨hfirst.1.trans hsecond.1.symm, hfirst.2.trans hsecond.2.symm⟩
      · exact absurd (hi.keksDrawn _ _ _ h2) hfresh
    · split at h2
      · cases h2
        exact absurd (hi.keksDrawn _ _ _ h1) hfresh
      · exact hi.keksApart keyId1 version1 keyId2 version2 kek' h1 h2
  · intro x hx
    exact List.mem_cons_of_mem _ (hi.deksDrawn x hx)
  · intro x hx keyId' version' h'
    rw [hkeks] at h'
    split at h'
    · apply hfresh
      rw [Option.some.inj h']
      exact hi.deksDrawn x hx
    · exact hi.deksNotKeks x hx keyId' version' h'
  · intro x hx
    exact hkept _ _ _ (hi.keks x hx)
  · intro keyId' version' hrevoked
    refine (hstates keyId' version').mpr ⟨hi.marked keyId' version' hrevoked, ?_, ?_⟩
    · rintro heq
      obtain ⟨rfl, rfl⟩ := Prod.mk.inj heq
      have hlt := hi.left _ _ _ hrevoked hold
      omega
    · rintro heq
      obtain ⟨rfl, rfl⟩ := Prod.mk.inj heq
      have hlt := hi.left _ _ _ hrevoked hold
      omega
  · intro keyId' version' hstate
    exact hi.marks keyId' version' ((hstates keyId' version').mp hstate).1
  · intro keyId' version' active hrevoked hactive'
    rw [hactive] at hactive'
    split at hactive'
    · rename_i hkey
      subst hkey
      cases hactive'
      have hlt := hi.left _ _ _ hrevoked hold
      omega
    · exact hi.left keyId' version' active hrevoked hactive'

theorem inv_revokeVersion (hi : Inv k h) (hleft : Left k (.revokeVersion keyId version)) :
    Inv (k.revokeVersion keyId version) { h with revoked := (keyId, version) :: h.revoked } := by
  have hstates : ∀ pair, (k.revokeVersion keyId version).states pair = if pair = (keyId, version) then some .revoked else k.states pair := by
    intro pair
    unfold revokeVersion
    dsimp only
    by_cases hpair : pair = (keyId, version)
    · subst hpair
      rw [Function.update_self, if_pos rfl]
    · rw [Function.update_of_ne hpair, if_neg hpair]
  refine ⟨hi.versions, hi.positive, hi.keksDrawn, hi.keksApart, hi.deksDrawn, hi.deksApart, hi.deksNotKeks, hi.log, hi.texts, hi.keks, ?_, ?_, ?_⟩
  · intro keyId' version' hrevoked
    rw [hstates]
    split
    · rfl
    · rename_i hne
      rcases List.mem_cons.mp hrevoked with heq | hrevoked
      · exact absurd heq hne
      · exact hi.marked keyId' version' hrevoked
  · intro keyId' version' hstate
    rw [hstates] at hstate
    split at hstate
    · rename_i heq
      rw [heq]
      exact List.mem_cons_self
    · exact List.mem_cons_of_mem _ (hi.marks keyId' version' hstate)
  · intro keyId' version' active hrevoked hactive
    rcases List.mem_cons.mp hrevoked with heq | hrevoked
    · obtain ⟨rfl, rfl⟩ := Prod.mk.inj heq
      exact hleft active hactive
    · exact hi.left keyId' version' active hrevoked hactive

/-- What one call preserves, where only versions that were left are revoked. -/
theorem inv_step (hi : Inv k h) (hleft : Left k call) (hstep : Step k h call k' h') : Inv k' h' := by
  cases hstep with
  | encrypt hdek htexts hkek hok => exact inv_encrypt hi hdek htexts hkek hok
  | decrypt hok => exact hi
  | rotate hkek hok => exact inv_rotate hi hkek hok
  | revokeVersion keyId version => exact inv_revokeVersion hi hleft

theorem run_inv (run : Run Left k h) : Inv k h := by
  induction run with
  | init kek => exact inv_init kek
  | step run hcond hstep ih => exact inv_step ih hcond hstep

/-! ## Decryption -/

theorem context_inj {tenant' resource' purpose : String} {version version' : Int}
    (heq : context tenant resource purpose version = context tenant' resource' purpose version') :
    tenant = tenant' ∧ resource = resource' ∧ version = version' := by
  simp only [context, Json.obj_cons, Json.field.injEq, Json.int.injEq, Json.str.injEq, true_and] at heq
  exact ⟨heq.2.2.1, heq.2.1, heq.1⟩

theorem mem_log (hi : Inv k h) (hx : x ∈ h.produced) {s : Sealing Bytes Json} (hs : s ∈ x.sealings) : s ∈ k.log := by
  rw [hi.log]
  exact List.mem_flatMap.mpr ⟨x, hx, hs⟩

/-- What opens under a key of some version is the key of one envelope. -/
theorem opens_kek (hi : Inv k h) {nonce text dek : Bytes} {ctx : Json}
    (hkek : k.kek keyId version = some kek) (hopen : IdealCipher.open? k.log kek nonce ctx text = some dek) :
    ∃ x ∈ h.produced, x.kek = kek ∧ x.envelope.wrapNonce = nonce ∧ x.context = ctx ∧ x.envelope.wrappedDek = text ∧ x.dek = dek := by
  have hmem := IdealCipher.sealed_of_open hopen
  rw [hi.log] at hmem
  obtain ⟨x, hx, hs⟩ := List.mem_flatMap.mp hmem
  rcases List.mem_cons.mp hs with heq | hs
  · cases heq
    exact absurd hkek (hi.deksNotKeks x hx keyId version)
  · cases List.mem_singleton.mp hs
    exact ⟨x, hx, rfl, rfl, rfl, rfl, rfl⟩

/-- What opens under the key of an envelope is that envelope. -/
theorem opens_dek (hi : Inv k h) (hx : x ∈ h.produced) {nonce text plain : Bytes} {ctx : Json}
    (hopen : IdealCipher.open? k.log x.dek nonce ctx text = some plain) :
    x.envelope.nonce = nonce ∧ x.context = ctx ∧ x.envelope.ciphertext = text ∧ x.plaintext = plain := by
  have hmem := IdealCipher.sealed_of_open hopen
  rw [hi.log] at hmem
  obtain ⟨y, hy, hs⟩ := List.mem_flatMap.mp hmem
  rcases List.mem_cons.mp hs with heq | hs
  · injection heq with hdek hnonce hctx hplain htext
    obtain rfl := List.inj_on_of_nodup_map hi.deksApart hx hy hdek
    exact ⟨hnonce.symm, hctx.symm, htext.symm, hplain.symm⟩
  · injection List.mem_singleton.mp hs with hkek
    exact absurd (hkek ▸ hi.keks y hy) (hi.deksNotKeks x hx _ _)

/-- An envelope opens exactly if it was produced, for an authorised caller, in its own context and under a version that is not revoked. -/
theorem decrypt_spec (hi : Inv k h) : k.decrypt cred e tenant resource = .ok plaintext ↔
      Allowed cred "kms:Decrypt" e.keyId tenant ∧ (e.keyId, e.keyVersion) ∉ h.revoked ∧ tenant = e.tenantId ∧ resource = e.resourceId ∧
        ∃ x ∈ h.produced, x.envelope = e ∧ x.plaintext = plaintext := by
  have hrevoked : k.states (e.keyId, e.keyVersion) = some .revoked ↔ (e.keyId, e.keyVersion) ∈ h.revoked :=
    ⟨hi.marks _ _, hi.marked _ _⟩
  simp only [decrypt, authorize, ok_bind, raiseIf_ok, orRaise_ok, not_not, not_or, ne_eq, hrevoked]
  constructor
  · rintro ⟨-, hallowed, -, ⟨htenant, hresource⟩, kek, hkek, -, hnot, dek, hwrapped, hopen⟩
    obtain ⟨x, hx, hxkek, hwrapNonce, hctx, hwrappedDek, rfl⟩ := opens_kek hi hkek hwrapped
    obtain ⟨hnonce, -, hciphertext, hplain⟩ := opens_dek hi hx hopen
    obtain ⟨htenant', hresource', hversion⟩ := context_inj hctx
    obtain ⟨hkeyId, -⟩ := hi.keksApart _ _ _ _ _ (hi.keks x hx) (hxkek ▸ hkek)
    refine ⟨hallowed, hnot, htenant, hresource, x, hx, ?_, hplain⟩
    show Envelope.mk x.envelope.keyId x.envelope.keyVersion x.envelope.tenantId x.envelope.resourceId x.envelope.nonce
      x.envelope.ciphertext x.envelope.wrapNonce x.envelope.wrappedDek = e
    rw [hkeyId, hversion, htenant', hresource', htenant, hresource, hnonce, hciphertext, hwrapNonce, hwrappedDek]
  · rintro ⟨hallowed, hnot, rfl, rfl, x, hx, rfl, rfl⟩
    have hkek := hi.keks x hx
    have hwrapped : IdealCipher.open? k.log x.kek x.envelope.wrapNonce x.context x.envelope.wrappedDek = some x.dek :=
      IdealCipher.open_sealed hi.texts (mem_log hi hx (List.mem_cons_of_mem _ (List.mem_singleton_self _)))
    have hopen : IdealCipher.open? k.log x.dek x.envelope.nonce x.context x.envelope.ciphertext = some x.plaintext :=
      IdealCipher.open_sealed hi.texts (mem_log hi hx List.mem_cons_self)
    exact ⟨(), hallowed, (), ⟨rfl, rfl⟩, x.kek, hkek, (), hnot, x.dek, hwrapped, hopen⟩

theorem decrypt_denied (hnot : ∀ plaintext, k.decrypt cred e tenant resource ≠ .ok plaintext) :
    ∃ reason, k.decrypt cred e tenant resource = .error (.denied reason) := by
  have hraises : Raises (fun r => ∃ reason, r = Raised.denied reason) (k.decrypt cred e tenant resource) := by
    unfold decrypt
    refine .bind (.raiseIf fun _ => ⟨_, rfl⟩) fun _ _ => .bind (.raiseIf fun _ => ⟨_, rfl⟩) fun _ _ => ?_
    refine .bind (.orRaise fun _ => ⟨_, rfl⟩) fun _ _ => .bind (.raiseIf fun _ => ⟨_, rfl⟩) fun _ _ => ?_
    exact .bind (.orRaise fun _ => ⟨_, rfl⟩) fun _ _ => .orRaise fun _ => ⟨_, rfl⟩
  cases hresult : k.decrypt cred e tenant resource with
  | ok plaintext => exact absurd hresult (hnot plaintext)
  | error r =>
    obtain ⟨reason, rfl⟩ := hraises r hresult
    exact ⟨reason, rfl⟩

/-- Envelopes are told apart by their wrapped keys, and by their texts. -/
theorem produced_apart (hi : Inv k h) (hx : x ∈ h.produced) (hy : y ∈ h.produced)
    (heq : y.envelope.wrappedDek = x.envelope.wrappedDek ∨ y.envelope.ciphertext = x.envelope.ciphertext) : y = x := by
  have hmem : ∀ z ∈ h.produced, ∀ s ∈ z.sealings, s ∈ k.log := fun z hz s hs => mem_log hi hz hs
  rcases heq with heq | heq
  · have hsame := List.inj_on_of_nodup_map hi.texts (hmem y hy _ (List.mem_cons_of_mem _ (List.mem_singleton_self _)))
      (hmem x hx _ (List.mem_cons_of_mem _ (List.mem_singleton_self _))) heq
    injection hsame with _ _ _ hdek
    exact List.inj_on_of_nodup_map hi.deksApart hy hx hdek
  · have hsame := List.inj_on_of_nodup_map hi.texts (hmem y hy _ List.mem_cons_self) (hmem x hx _ List.mem_cons_self) heq
    injection hsame with hdek
    exact List.inj_on_of_nodup_map hi.deksApart hy hx hdek

/-- What a key service is for, in every run that revokes only versions that were left. -/
theorem lifecycle (run : Run Left k h) : Lifecycle k h := by
  have hi := run_inv run
  refine ⟨?_, ?_, ?_, ?_, ?_, ?_⟩
  · intro keyId version hactive
    refine ⟨(hi.versions keyId version).mpr ⟨version, hactive, hi.positive keyId version hactive, le_refl _⟩, fun other hother => ?_⟩
    obtain ⟨active, hactive', -, hle⟩ := (hi.versions keyId other).mp hother
    rw [hactive] at hactive'
    cases hactive'
    exact hle
  · intro cred e tenant resource hrevoked plaintext hok
    exact ((decrypt_spec hi).mp hok).2.1 hrevoked
  · intro cred keyId tenant resource plaintext draw e k' hok hrevoked
    obtain ⟨version, kek, hactive, -, rfl, -⟩ := encrypt_spec hok
    have hlt := hi.left keyId version version hrevoked hactive
    omega
  · intro x hx hnot cred hallowed
    exact (decrypt_spec hi).mpr ⟨hallowed, hnot, rfl, rfl, x, hx, rfl, rfl⟩
  · intro x hx cred tenant resource hne
    refine decrypt_denied fun plaintext hok => hne ?_
    obtain ⟨-, -, htenant, hresource, -⟩ := (decrypt_spec hi).mp hok
    rw [htenant, hresource]
  · intro x hx e hne hor cred tenant resource
    refine decrypt_denied fun plaintext hok => ?_
    obtain ⟨-, -, -, -, y, hy, rfl, -⟩ := (decrypt_spec hi).mp hok
    have hapart : y.envelope.wrappedDek = x.envelope.wrappedDek ∨ y.envelope.ciphertext = x.envelope.ciphertext → False := by
      intro heq
      rw [produced_apart hi hx hy heq] at hne
      exact hne rfl
    rcases hor with heq | heq | hnone
    · exact hapart (.inl heq)
    · exact hapart (.inr heq)
    · exact hnone y hy rfl

/-! ## A version that comes back -/

namespace Sample

def workloadCredential : Credential := ⟨"raw", workload, "acme", 1, 120⟩

def operator : Credential := ⟨"operator", "incident-admin", "acme", 1, 120⟩

def draw : Draw := ⟨[2], [0], [1], [3], [4]⟩

def envelope : Envelope := ⟨"kms/acme/app", 1, "acme", "secret/acme/model-token", [0], [3], [1], [4]⟩

def encrypt : Call := .encrypt workloadCredential "kms/acme/app" "acme" "secret/acme/model-token" [9] draw

def encrypted : LocalKMS := { create [1] with log := (Production.mk envelope [9] [2] [1]).sealings }

theorem encrypt_step : Step (create [1]) ⟨[], [], [[1]]⟩ encrypt encrypted ⟨[⟨envelope, [9], [2], [1]⟩], [], [[2], [1]]⟩ := by
  have hok : (create [1]).encrypt workloadCredential "kms/acme/app" "acme" "secret/acme/model-token" [9] draw = .ok (envelope, encrypted) := by
    rfl
  exact Step.encrypt (by decide) (by decide) rfl hok

/-- The state after the first rotation: the version is marked as one that may decrypt. -/
def rotateOnce (k : LocalKMS) : LocalKMS :=
  { k with
    keys := Function.update k.keys "kms/acme/app" (some (Function.update (Function.update (fun _ => none) 1 (some [1])) 2 (some [5])))
    active := Function.update k.active "kms/acme/app" (some 2)
    states := Function.update (Function.update k.states ("kms/acme/app", 1) (some .decryptOnly)) ("kms/acme/app", 2) (some .active) }

/-- The only version is revoked while it is active, and then left. -/
def revoked : LocalKMS := rotateOnce (encrypted.revokeVersion "kms/acme/app" 1)

theorem revoked_decrypts : revoked.decrypt workloadCredential envelope "acme" "secret/acme/model-token" = .ok [9] := by rfl

/-- The version is revoked, and after a rotation its envelope is decrypted. -/
theorem revived : ¬ ∀ (k : LocalKMS) (h : History), Run (fun _ _ => True) k h → Lifecycle k h := by
  intro hclaim
  have hinit : Run (fun _ _ => True) (create [1]) ⟨[], [], [[1]]⟩ := Run.init [1]
  have hmarked := (hinit.step trivial encrypt_step).step trivial (Step.revokeVersion "kms/acme/app" 1)
  have hok : (encrypted.revokeVersion "kms/acme/app" 1).rotate operator "kms/acme/app" [5] = .ok (2, revoked) := by rfl
  have hrotated := hmarked.step trivial (Step.rotate (by decide) hok)
  exact (hclaim _ _ hrotated).notDecrypted _ _ _ _ (List.mem_singleton_self _) _ revoked_decrypts

/-- The only version is left, and then revoked. -/
def retired : LocalKMS := (rotateOnce encrypted).revokeVersion "kms/acme/app" 1

end Sample

open Sample in
theorem lifecycle_retired : Lifecycle retired ⟨[⟨envelope, [9], [2], [1]⟩], [("kms/acme/app", 1)], [[5], [2], [1]]⟩ := by
  have hinit : Run Left (create [1]) ⟨[], [], [[1]]⟩ := Run.init [1]
  have hencrypted := hinit.step (show Left (create [1]) Sample.encrypt from trivial) encrypt_step
  have hok : encrypted.rotate operator "kms/acme/app" [5] = .ok (2, rotateOnce encrypted) := by rfl
  have hrotated := hencrypted.step (show Left encrypted (.rotate operator "kms/acme/app" [5]) from trivial) (Step.rotate (by decide) hok)
  have hleft : Left (rotateOnce encrypted) (.revokeVersion "kms/acme/app" 1) := by
    intro active hactive
    obtain rfl : 2 = active := Option.some.inj hactive
    decide
  exact lifecycle (hrotated.step hleft (Step.revokeVersion "kms/acme/app" 1))

end Aegis.Platform.LocalKMS
