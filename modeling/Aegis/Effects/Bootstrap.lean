/-
  Aegis.Effects.Bootstrap — `build_default_high_impact_security_stack` (default_high_impact.py):
  the versions of the fixture's tenants, the first trusted key, then the generation store, the
  execution state and the protected checkpoint one after another, and a first look through the
  receipt fence. Each commits by itself.

  The next call looks at the generation store alone: when it has no generation all three are
  initialized, and otherwise the call recovers, which takes the other two for granted.

  - `restarts_iff`: wherever the first call dies, the next one succeeds and leaves what an
    uninterrupted one leaves, exactly if the generation store is still empty or the protected
    checkpoint is there already.
  - `Sample.stranded`: a first call that dies between these two; the next one fails.

  Ed25519 keys are functions of their seed labels. What the constructors set up (tables, paths,
  the trust profile) writes no row and is not modelled.
-/

import Aegis.Txn.Crash
import Aegis.Effects.Receipts
import Aegis.Effects.TrustedKeys

namespace Aegis.Effects

open Data Txn Prog

/-! ## Fixtures -/

namespace Bootstrap

/-- An item of `fixture["tenants"]`. -/
structure TenantFixture where
  tenantId : String
  policyVersion : Int
  revocationEpoch : Int
  deriving DecidableEq, Repr

/-- An item of `fixture["keys"]`. -/
structure KeyFixture where
  keyId : String
  keyEpoch : Int
  seedLabel : String
  deriving DecidableEq, Repr

structure AuthorizationKeyFixture where
  issuerId : String
  audience : String
  keys : List KeyFixture
  deriving DecidableEq, Repr

structure ControlPlaneFixture where
  authorityId : String
  initialGeneration : Int
  deriving DecidableEq, Repr

structure CheckpointReceiptFixture where
  authorityId : String
  audience : String
  keyId : String
  keyEpoch : Int
  seedLabel : String
  deriving DecidableEq, Repr

structure Fixtures where
  tenants : List TenantFixture
  authorizationKeys : AuthorizationKeyFixture
  controlPlane : ControlPlaneFixture
  checkpointReceipts : CheckpointReceiptFixture
  deriving DecidableEq, Repr

end Bootstrap

/-! ## Initialization -/

namespace GenerationDb

/-- The transaction of `ControlPlaneGenerationStore.initialize`. -/
def initializeAt (g : GenerationDb) (generation : Nat) : Except Error (Unit × GenerationDb) :=
  match g.currentGeneration with
  | some current =>
    if current ≠ generation then .error (.value "control-plane generation already initialized") else .ok ((), g)
  | none => .ok ((), { g with currentGeneration := some generation })

/-- `ControlPlaneGenerationStore.current`. -/
def current (g : GenerationDb) : Except Error Nat :=
  match g.currentGeneration with
  | some current => .ok current
  | none => .error (.key "control-plane generation not initialized")

end GenerationDb

/-- The transaction of `CrashSafeControlPlaneCoordinator.initialize`. -/
def ExecutionDb.initializeAt (x : ExecutionDb) (generation : Nat) : Except Error (Unit × ExecutionDb) :=
  match x.state with
  | some current =>
    if current.appliedGeneration ≠ generation then .error (.value "execution control-plane state already initialized")
    else .ok ((), x)
  | none => .ok ((), { x with state := some ⟨generation, none, none⟩ })

/-- The transaction of `SyntheticProtectedCheckpointAuthority.initialize`. -/
def initializeCheckpoint (checkpoint : Option Checkpoint) (candidate : Checkpoint) : Except Error (Unit × Option Checkpoint) :=
  match checkpoint with
  | some current =>
    if current ≠ candidate then .error (.protectedCheckpoint .checkpointConflict) else .ok ((), checkpoint)
  | none => .ok ((), some candidate)

namespace ControlPlane

/-- `initialize` of the generation store. -/
def initializeStore (authorityId : String) (generation : Nat) : Prog Label World Error Nat := do
  raiseIf (authorityId = "" ∨ generation < 1) (.value "invalid control-plane generation initialization")
  onStore fun g => g.initializeAt generation
  query .step fun w => w.generation.current

def initializeAt (authorityId : String) (generation : Nat) : Prog Label World Error ExecutionState := do
  let anchorGeneration ← initializeStore authorityId generation
  raiseIf (anchorGeneration ≠ generation) (.value "control-plane initialization generation mismatch")
  atomic .step fun w => do
    let (_, execution) ← w.execution.initializeAt generation
    pure ((), { w with execution })
  executionState

end ControlPlane

namespace Protected

/-- `SyntheticProtectedCheckpointAuthority.initialize`. -/
def initializeAuthority (candidate : Checkpoint) : Prog Label World Error Checkpoint := do
  atomic .step fun w => do
    let (_, checkpoint) ← initializeCheckpoint w.checkpoint candidate
    pure ((), { w with checkpoint })
  query .step fun w => currentCheckpoint w.checkpoint

def initializeAt (H : Hashing) (authorityId : String) (generation : Int) : Prog Label World Error Checkpoint := do
  raiseIf (generation ≠ 1) (.value "P2-R protected checkpoint initialization requires genesis generation 1")
  let _ ← ControlPlane.initializeAt authorityId generation.toNat
  initializeAuthority ⟨generation.toNat, genesisJournalHead H authorityId⟩

end Protected

/-! ## The build -/

namespace Bootstrap

/-- The transaction of `AuthorizationVersionStore.ensure`. -/
def insertVersion (tenant : TenantFixture) (a : AuthorizationState) : AuthorizationState :=
  match a.version? tenant.tenantId with
  | some _ => a
  | none => { a with versions := a.versions ++ [⟨tenant.tenantId, tenant.policyVersion.toNat, tenant.revocationEpoch.toNat⟩] }

def ensure (tenant : TenantFixture) : Prog Label AuthorizationState Error VersionRow := do
  raiseIf (tenant.policyVersion < 1 ∨ tenant.revocationEpoch < 1) .validation
  modify .step (insertVersion tenant)
  query .step fun a =>
    match a.version? tenant.tenantId with
    | some row => .ok row
    | none => .error (.key "synthetic authorization version not found")

/-- `_ensure_versions`. -/
def ensureVersions : List TenantFixture → Prog Label AuthorizationState Error Unit
  | [] => pure ()
  | tenant :: tenants => do
    let _ ← ensure tenant
    ensureVersions tenants

/-- `min(keys, key=lambda item: int(item["key_epoch"]))`: the first of the earliest. -/
def earliest : List KeyFixture → Option KeyFixture
  | [] => none
  | key :: keys =>
    match earliest keys with
    | none => some key
    | some later => if later.keyEpoch < key.keyEpoch then some later else some key

/-- The fixture's key of this epoch, which the signer is made of. -/
def signerKey (keys : List KeyFixture) (currentEpoch : Int) : Except Error KeyFixture :=
  match keys.filter (·.keyEpoch = currentEpoch) with
  | [key] => if key.keyEpoch < 1 then .error (.value "key epoch must be positive") else .ok key
  | _ => .error (.value "current synthetic authorization signing epoch has no unique fixture key")

section

variable (publicKey : String → List UInt8) (scheme : String → SignatureScheme) (H : Hashing)

/-- The transaction of `trust_initial_key`; a negative epoch is refused as 0 is. -/
def trustFirst (fixture : AuthorizationKeyFixture) (first : KeyFixture) (a : AuthorizationState) :
    Except Error (Unit × AuthorizationState) := do
  let a ← TrustedAuthorizationKeyStore.trustInitialKey a fixture.issuerId fixture.audience first.keyId first.keyEpoch.toNat
    (publicKey first.seedLabel)
  pure ((), a)

/-- `_authorization_signer`, without its private key. -/
def authorizationSigner (fixture : AuthorizationKeyFixture) : Prog Label AuthorizationState Error KeyFixture := do
  let current ← read .step fun a => a.currentEpoch? fixture.issuerId fixture.audience
  match current with
  | some currentEpoch => ofResult (signerKey fixture.keys currentEpoch)
  | none =>
    match earliest fixture.keys with
    | none => fail (.value "min() iterable argument is empty")
    | some first => do
      atomic .step (trustFirst publicKey fixture first)
      ofResult (signerKey fixture.keys first.keyEpoch)

/-- What the build does to the authorization state. -/
def authorize (fixtures : Fixtures) : Prog Label AuthorizationState Error KeyFixture := do
  ensureVersions fixtures.tenants
  authorizationSigner publicKey fixtures.authorizationKeys

/-- Initialization where the generation store is empty, recovery otherwise. -/
def startControlPlane (fixture : ControlPlaneFixture) : Prog Label World Error Unit := do
  let current ← read .step fun w => w.generation.currentGeneration
  match current with
  | none => do
    let _ ← Protected.initializeAt H fixture.authorityId fixture.initialGeneration
    pure ()
  | some _ => do
    let _ ← Protected.recover H fixture.authorityId
    pure ()

/-- `trusted_key` of the receipt source; the key's hex is well formed. -/
def trustedKey (fixture : CheckpointReceiptFixture) : Except Error TrustedCheckpointReceiptKey :=
  if fixture.authorityId.length < 1 ∨ 256 < fixture.authorityId.length then .error .validation
  else if fixture.audience.length < 1 ∨ 256 < fixture.audience.length then .error .validation
  else if fixture.keyId.length < 1 ∨ 128 < fixture.keyId.length then .error .validation
  else if fixture.keyEpoch < 1 then .error .validation
  else .ok ⟨fixture.authorityId, fixture.audience, fixture.keyId, fixture.keyEpoch.toNat⟩

/-- The receipt source, its observer, and the first look through the fence on them. -/
def startReceipts (authorityId : String) (fixture : CheckpointReceiptFixture) : Prog Label World Error Unit := do
  let key ← ofResult (trustedKey fixture)
  raiseIf (key.authorityId ≠ authorityId) (.value "checkpoint receipt authority must match the control-plane authority")
  let _ ← ReceiptFence.currentActiveGeneration H key (scheme fixture.seedLabel)
  pure ()

def authorizationLens : Lens World AuthorizationState where
  get w := w.execution.authorization
  set a w := { w with execution := { w.execution with authorization := a } }
  get_set _ _ := rfl
  set_get _ := rfl
  set_set _ _ _ := rfl

/-- What follows once the authorization state is there. -/
def start (fixtures : Fixtures) : Prog Label World Error Unit := do
  startControlPlane H fixtures.controlPlane
  startReceipts scheme H fixtures.controlPlane.authorityId fixtures.checkpointReceipts

/-- `build_default_high_impact_security_stack`. -/
def build (fixtures : Fixtures) : Prog Label World Error Unit := do
  let _ ← (authorize publicKey fixtures).zoom authorizationLens
  start scheme H fixtures

end

/-! ## The authorization state, wherever the build dies -/

section

variable {publicKey : String → List UInt8} {tenant : TenantFixture} {tenants : List TenantFixture} {a b u : AuthorizationState}
  {row : VersionRow}

/-- A tenant whose version the store takes. -/
def TenantFixture.Valid (tenant : TenantFixture) : Prop := 1 ≤ tenant.policyVersion ∧ 1 ≤ tenant.revocationEpoch

/-- Every tenant of the fixture has a version. -/
def Ensured (tenants : List TenantFixture) (a : AuthorizationState) : Prop :=
  ∀ tenant ∈ tenants, tenant.Valid ∧ ∃ row, a.version? tenant.tenantId = some row

/-- No version is lost or changed. -/
def Grown (a b : AuthorizationState) : Prop := ∀ tenantId row, a.version? tenantId = some row → b.version? tenantId = some row

theorem Grown.trans (h : Grown a b) (h' : Grown b u) : Grown a u := fun tenantId row hrow => h' tenantId row (h tenantId row hrow)

theorem grown_insertVersion : Grown a (insertVersion tenant a) := by
  intro tenantId row h
  unfold insertVersion
  split
  · exact h
  · exact Table.lookup_append_of_some h

theorem insertVersion_self (h : a.version? tenant.tenantId = some row) : insertVersion tenant a = a := by
  unfold insertVersion
  rw [h]

theorem version_insertVersion : ∃ row, (insertVersion tenant a).version? tenant.tenantId = some row := by
  cases h : a.version? tenant.tenantId with
  | some row => exact ⟨row, by rw [insertVersion_self h, h]⟩
  | none =>
    unfold insertVersion
    rw [h]
    exact ⟨_, Table.lookup_append_new h⟩

theorem ensure_run : (ensure tenant).run a = if tenant.policyVersion < 1 ∨ tenant.revocationEpoch < 1 then (.error .validation, a)
    else (match (insertVersion tenant a).version? tenant.tenantId with
      | some row => .ok row
      | none => .error (.key "synthetic authorization version not found"), insertVersion tenant a) := by
  unfold ensure
  rw [run_bind, run_raiseIf]
  by_cases h : tenant.policyVersion < 1 ∨ tenant.revocationEpoch < 1
  · rw [if_pos h, if_pos h]
  · rw [if_neg h, if_neg h]
    rfl

theorem ensure_ok (h : (ensure tenant).run a = (.ok row, b)) :
    tenant.Valid ∧ b = insertVersion tenant a ∧ b.version? tenant.tenantId = some row := by
  rw [ensure_run] at h
  split at h
  · simp at h
  · rename_i hvalid
    obtain ⟨row', hrow'⟩ : ∃ row', (insertVersion tenant a).version? tenant.tenantId = some row' := version_insertVersion
    rw [hrow'] at h
    simp only [Prod.mk.injEq, Except.ok.injEq] at h
    obtain ⟨rfl, rfl⟩ := h
    exact ⟨⟨by omega, by omega⟩, rfl, hrow'⟩

theorem ensure_idle (hvalid : tenant.Valid) (h : a.version? tenant.tenantId = some row) : (ensure tenant).run a = (.ok row, a) := by
  unfold TenantFixture.Valid at hvalid
  rw [ensure_run, if_neg (by omega), insertVersion_self h, h]

theorem ensure_crash (h : (ensure tenant).Crash a u) : u = a ∨ (tenant.Valid ∧ u = insertVersion tenant a) := by
  unfold ensure at h
  rcases crash_bind.mp h with h | ⟨x, t, hrun, h⟩
  · exact .inl (crash_raiseIf.mp h)
  · rw [run_raiseIf] at hrun
    obtain ⟨hvalid, rfl⟩ := Prod.mk.inj hrun
    rcases crash_bind.mp h with h | ⟨y, t, hrun, h⟩
    · rcases crash_modify.mp h with h | h
      · exact .inl h
      · refine .inr ⟨?_, h⟩
        by_cases hbad : tenant.policyVersion < 1 ∨ tenant.revocationEpoch < 1
        · rw [if_pos hbad] at hvalid
          cases hvalid
        · unfold TenantFixture.Valid
          omega
    · rw [run_modify] at hrun
      obtain ⟨-, rfl⟩ := Prod.mk.inj hrun
      refine .inr ⟨?_, crash_query.mp h⟩
      by_cases hbad : tenant.policyVersion < 1 ∨ tenant.revocationEpoch < 1
      · rw [if_pos hbad] at hvalid
        cases hvalid
      · unfold TenantFixture.Valid
        omega

theorem ensure_grown (h : (ensure tenant).Crash a u) : Grown a u := by
  rcases ensure_crash h with rfl | ⟨-, rfl⟩
  · exact fun _ _ hrow => hrow
  · exact grown_insertVersion

theorem ensure_resumable : Resumable (ensure tenant) a := by
  intro u hu
  rcases ensure_crash hu with rfl | ⟨hvalid, rfl⟩
  · rfl
  · obtain ⟨row, hrow⟩ : ∃ row, (insertVersion tenant a).version? tenant.tenantId = some row := version_insertVersion
    unfold TenantFixture.Valid at hvalid
    have hbad : ¬ (tenant.policyVersion < 1 ∨ tenant.revocationEpoch < 1) := by omega
    rw [ensure_run, ensure_run, insertVersion_self hrow, if_neg hbad, if_neg hbad]

/-! ### Every tenant -/

theorem ensureVersions_grown (h : (ensureVersions tenants).Crash a u) : Grown a u := by
  induction tenants generalizing a with
  | nil =>
    obtain rfl := crash_pure.mp h
    exact fun _ _ hrow => hrow
  | cons tenant tenants ih =>
    unfold ensureVersions at h
    rcases crash_bind.mp h with h | ⟨row, t, hrun, h⟩
    · exact ensure_grown h
    · have hfirst := ensure_grown (crash_run (ensure tenant) a)
      rw [hrun] at hfirst
      exact hfirst.trans (ih h)

theorem ensureVersions_resumable : Resumable (ensureVersions tenants) a := by
  induction tenants generalizing a with
  | nil =>
    intro u hu
    rw [crash_pure.mp hu]
  | cons tenant tenants ih =>
    refine ensure_resumable.bind fun row t hrun => ⟨ih, fun u hu => ?_⟩
    obtain ⟨hvalid, -, hrow⟩ := ensure_ok hrun
    exact ensure_idle hvalid (ensureVersions_grown hu _ _ hrow)

theorem ensureVersions_ok (h : (ensureVersions tenants).run a = (.ok (), b)) : Ensured tenants b := by
  induction tenants generalizing a with
  | nil =>
    intro tenant htenant
    cases htenant
  | cons tenant tenants ih =>
    unfold ensureVersions at h
    rw [run_bind] at h
    rcases hrun : (ensure tenant).run a with ⟨_ | row, t⟩
    · rw [hrun] at h
      cases h
    · rw [hrun] at h
      dsimp only at h
      obtain ⟨hvalid, -, hrow⟩ := ensure_ok hrun
      have hgrown := ensureVersions_grown (crash_run (ensureVersions tenants) t)
      rw [h] at hgrown
      intro other hother
      rcases List.mem_cons.mp hother with rfl | hother
      · exact ⟨hvalid, row, hgrown _ _ hrow⟩
      · exact ih h other hother

theorem ensureVersions_idle (h : Ensured tenants a) : (ensureVersions tenants).run a = (.ok (), a) := by
  induction tenants with
  | nil => rfl
  | cons tenant tenants ih =>
    obtain ⟨hvalid, row, hrow⟩ := h tenant List.mem_cons_self
    unfold ensureVersions
    rw [run_bind_ok (ensure_idle hvalid hrow)]
    exact ih fun other hother => h other (List.mem_cons_of_mem _ hother)

/-! ### The first trusted key -/

variable {fixture : AuthorizationKeyFixture} {fixtures : Fixtures}

theorem trustFirst_ok {first : KeyFixture} {x : Unit} (h : trustFirst publicKey fixture first a = .ok (x, b)) :
    b.versions = a.versions ∧ b.currentEpoch? fixture.issuerId fixture.audience = some first.keyEpoch.toNat ∧ 1 ≤ first.keyEpoch := by
  unfold trustFirst at h
  obtain ⟨b', htrusted, hb⟩ := Data.Checks.ok_bind.mp h
  obtain rfl : b' = b := by
    cases hb
    rfl
  have hcall : TrustedAuthorizationKeyStore.Call.run ⟨.trustInitialKey, fixture.issuerId, fixture.audience, first.keyId,
    first.keyEpoch.toNat, publicKey first.seedLabel⟩ a = .ok b' := htrusted
  have hreturned := TrustedAuthorizationKeyStore.run_returned hcall
  unfold TrustedAuthorizationKeyStore.trustInitialKey at htrusted
  split_ifs at htrusted
  refine ⟨?_, hreturned.current, by omega⟩
  split at htrusted
  · split_ifs at htrusted
    cases htrusted
    rfl
  · cases htrusted
    rfl

/-- Where the trust of the first key may die: before it, or with its epoch and key in place. -/
theorem authorizationSigner_crash (h : (authorizationSigner publicKey fixture).Crash a u) : u = a ∨
    (a.currentEpoch? fixture.issuerId fixture.audience = none ∧ ∃ first, earliest fixture.keys = some first ∧
      trustFirst publicKey fixture first a = .ok ((), u)) := by
  unfold authorizationSigner at h
  rcases crash_bind.mp h with h | ⟨current, t, hrun, h⟩
  · exact .inl (crash_read.mp h)
  · rw [run_read] at hrun
    obtain ⟨hcurrent, rfl⟩ := Prod.mk.inj hrun
    obtain rfl := Except.ok.inj hcurrent
    cases hepoch : a.currentEpoch? fixture.issuerId fixture.audience with
    | some currentEpoch =>
      rw [hepoch] at h
      exact .inl (crash_ofResult.mp h)
    | none =>
      rw [hepoch] at h
      cases hfirst : earliest fixture.keys with
      | none =>
        rw [hfirst] at h
        exact .inl (crash_fail.mp h)
      | some first =>
        rw [hfirst] at h
        dsimp only at h
        rcases crash_bind.mp h with h | ⟨x, t, hrun, h⟩
        · rcases crash_atomic.mp h with h | ⟨x, h⟩
          · exact .inl h
          · exact .inr ⟨rfl, first, rfl, h⟩
        · obtain rfl := crash_ofResult.mp h
          exact .inr ⟨rfl, first, rfl, run_atomic_eq_ok.mp hrun⟩

theorem authorizationSigner_versions (h : (authorizationSigner publicKey fixture).Crash a u) : u.versions = a.versions := by
  rcases authorizationSigner_crash h with rfl | ⟨-, first, -, htrusted⟩
  · rfl
  · exact (trustFirst_ok htrusted).1

theorem authorizationSigner_resumable : Resumable (authorizationSigner publicKey fixture) a := by
  intro u hu
  rcases authorizationSigner_crash hu with rfl | ⟨hepoch, first, hfirst, htrusted⟩
  · rfl
  · obtain ⟨-, hcurrent, hlow⟩ := trustFirst_ok htrusted
    have hcast : ((first.keyEpoch.toNat : Nat) : Int) = first.keyEpoch := by omega
    unfold authorizationSigner
    rw [run_bind, run_bind, run_read, run_read, hepoch, hcurrent]
    dsimp only
    rw [hfirst, hcast]
    dsimp only
    rw [run_bind_ok (run_atomic_eq_ok.mpr htrusted)]

/-! ### Both -/

theorem authorize_resumable : Resumable (authorize publicKey fixtures) a := by
  refine ensureVersions_resumable.bind fun x t hrun => ⟨authorizationSigner_resumable, fun u hu => ?_⟩
  have hensured := ensureVersions_ok hrun
  refine ensureVersions_idle fun tenant htenant => ?_
  obtain ⟨hvalid, row, hrow⟩ := hensured tenant htenant
  refine ⟨hvalid, row, ?_⟩
  unfold AuthorizationState.version? at hrow ⊢
  rw [authorizationSigner_versions hu, hrow]

/-- Once it is done there is nothing left of it to do. -/
theorem authorize_idle {key : KeyFixture} (h : (authorize publicKey fixtures).run a = (.ok key, b)) :
    (authorize publicKey fixtures).run b = (.ok key, b) := by
  have hagain : (authorize publicKey fixtures).run ((authorize publicKey fixtures).run a).2 = _ := authorize_resumable.again
  rw [h] at hagain
  exact hagain

end

/-! ## The control plane and the receipts, wherever the build dies -/

section

variable {H : Hashing} {scheme : String → SignatureScheme} {authorityId : String} {w u : World} {g : GenerationDb}

/-- Databases that no build has been at. -/
structure Fresh (w : World) : Prop where
  generation : w.generation = ⟨none, []⟩
  state : w.execution.state = none
  checkpoint : w.checkpoint = none
  receipts : w.receipts = []
  witness : w.witness = []

/-- With the generation committed. -/
def anchored (w : World) : World := { w with generation := { w.generation with currentGeneration := some 1 } }

/-- With the execution state committed too. -/
def initialized (w : World) : World := { anchored w with execution := { w.execution with state := some ⟨1, none, none⟩ } }

/-- And with the protected checkpoint. -/
def checkpointed (H : Hashing) (authorityId : String) (w : World) : World :=
  { initialized w with checkpoint := some ⟨1, genesisJournalHead H authorityId⟩ }

theorem onStore_leads {α : Type} {f : GenerationDb → Except Error (α × GenerationDb)} {a : α}
    (h : f w.generation = .ok (a, g)) : Leads (ControlPlane.onStore f) w [w, { w with generation := g }] a { w with generation := g } := by
  refine Leads.atomic ?_
  rw [h]
  rfl

theorem initializeStore_leads (hf : Fresh w) (hauthority : authorityId ≠ "") :
    Leads (ControlPlane.initializeStore authorityId 1) w [w, anchored w] 1 (anchored w) := by
  have hinsert : w.generation.initializeAt 1 = .ok ((), (anchored w).generation) := by
    unfold GenerationDb.initializeAt
    rw [hf.generation]
    unfold anchored
    rw [hf.generation]
  have hstore : Leads (ControlPlane.onStore fun g => g.initializeAt 1) w [w, anchored w] () (anchored w) := onStore_leads hinsert
  have hread : Leads (query Label.step fun w => w.generation.current) (anchored w) [anchored w] 1 (anchored w) := .query rfl
  refine Leads.mono (.bind (.raiseIf ?_) (hstore.bind hread)) ?_
  · simp [hauthority]
  · simp

theorem initializeExecution_leads (hf : Fresh w) (hauthority : authorityId ≠ "") :
    Leads (ControlPlane.initializeAt authorityId 1) w [w, anchored w, initialized w] ⟨1, none, none⟩ (initialized w) := by
  have hinsert : (anchored w).execution.initializeAt 1 = .ok ((), (initialized w).execution) := by
    unfold ExecutionDb.initializeAt
    rw [show (anchored w).execution.state = none from hf.state]
    rfl
  have hread : Leads ControlPlane.executionState (initialized w) [initialized w] ⟨1, none, none⟩ (initialized w) := .query rfl
  refine Leads.mono (.bind (initializeStore_leads hf hauthority) (.bind (.raiseIf ?_)
    (.bind (a := ()) (t := initialized w) (.atomic ?_) hread))) ?_
  · simp
  · rw [hinsert]
    rfl
  · simp

/-- The initialization of all three, and where it may die. -/
theorem initializeAt_leads (hf : Fresh w) (hauthority : authorityId ≠ "") :
    Leads (Protected.initializeAt H authorityId 1) w [w, anchored w, initialized w, checkpointed H authorityId w]
      ⟨1, genesisJournalHead H authorityId⟩ (checkpointed H authorityId w) := by
  have hinsert : initializeCheckpoint (initialized w).checkpoint ⟨1, genesisJournalHead H authorityId⟩ =
      .ok ((), (checkpointed H authorityId w).checkpoint) := by
    unfold initializeCheckpoint
    rw [show (initialized w).checkpoint = none from hf.checkpoint]
    rfl
  have hread : Leads (query Label.step fun w => currentCheckpoint w.checkpoint) (checkpointed H authorityId w)
    [checkpointed H authorityId w] ⟨1, genesisJournalHead H authorityId⟩ (checkpointed H authorityId w) := .query rfl
  refine Leads.mono (.bind (.raiseIf ?_) (.bind (initializeExecution_leads hf hauthority)
    (.bind (a := ()) (t := checkpointed H authorityId w) (.atomic ?_) hread))) ?_
  · simp
  · simp only [Int.toNat_one]
    rw [hinsert]
    rfl
  · simp

/-! ### Recovery -/

/-- All three are initialized and nothing has changed since. -/
structure Genesis (H : Hashing) (authorityId : String) (w : World) : Prop where
  generation : w.generation = ⟨some 1, []⟩
  state : w.execution.state = some ⟨1, none, none⟩
  checkpoint : w.checkpoint = some ⟨1, genesisJournalHead H authorityId⟩

theorem Genesis.active (hg : Genesis H authorityId w) : w.generation.lockedActiveGeneration w.execution.state = .ok 1 := by
  rw [hg.generation, hg.state]
  rfl

theorem Genesis.compare (hg : Genesis H authorityId w) :
    Protected.compare H authorityId w.generation w.execution.state w.checkpoint w.execution.state =
      .ok (⟨1, [], [genesisJournalHead H authorityId]⟩, ⟨1, genesisJournalHead H authorityId⟩) := by
  have hcheckpoint : currentCheckpoint w.checkpoint = .ok ⟨1, genesisJournalHead H authorityId⟩ := by
    rw [hg.checkpoint]
    rfl
  have hlocal : w.generation.localHeads H authorityId w.execution.state 1 = .ok ([], [genesisJournalHead H authorityId]) := by
    rw [hg.state]
    rfl
  refine Checks.ok_bind.mpr ⟨1, hg.active, Checks.ok_bind.mpr ⟨_, hcheckpoint, ?_⟩⟩
  rw [if_neg (Nat.lt_irrefl 1)]
  refine Checks.ok_bind.mpr ⟨_, hlocal, ?_⟩
  exact if_neg (not_not_intro rfl)

/-- The world, with a note of the look at it. -/
def noted (generation : Nat) (w : World) : World :=
  { w with history := { w.history with yields := w.history.yields ++ [⟨generation, w.generation, w.execution.state, w.checkpoint⟩] } }

theorem readState_leads : Leads ControlPlane.readState w [w] w.execution.state w := .read

theorem pendingChange_run (h : w.generation = ⟨some 1, []⟩) : ControlPlane.pendingChange.run w = (.ok none, w) := by
  unfold ControlPlane.pendingChange
  rw [run_query, h]
  rfl

theorem currentActiveGeneration_run {n : Nat} (h : w.generation.lockedActiveGeneration w.execution.state = .ok n) :
    ControlPlane.currentActiveGeneration.run w = (.ok n, noted n w) := by
  unfold ControlPlane.currentActiveGeneration
  rw [run_bind_ok readState_leads.run]
  refine run_atomic_eq_ok.mpr ?_
  rw [h]
  rfl

/-- Recovery with nothing to recover. -/
theorem recover_run (hg : Genesis H authorityId w) : (Protected.recover H authorityId).run w = (.ok none, noted 1 w) := by
  have hlocal : ControlPlane.recover.run w = (.ok none, noted 1 w) := by
    unfold ControlPlane.recover
    rw [run_bind_ok (pendingChange_run hg.generation)]
    exact run_bind_ok (currentActiveGeneration_run hg.active)
  have hafter : Genesis H authorityId (noted 1 w) := ⟨hg.generation, hg.state, hg.checkpoint⟩
  have hcompare : (query Label.step fun v => Protected.compare H authorityId v.generation (noted 1 w).execution.state (noted 1 w).checkpoint
      (noted 1 w).execution.state).run (noted 1 w) =
      (.ok (⟨1, [], [genesisJournalHead H authorityId]⟩, ⟨1, genesisJournalHead H authorityId⟩), noted 1 w) := by
    rw [run_query, hafter.compare]
  have hsynchronize : (Protected.synchronizeCheckpoint H authorityId).run (noted 1 w) =
      (.ok ⟨1, genesisJournalHead H authorityId⟩, noted 1 w) := by
    unfold Protected.synchronizeCheckpoint
    rw [run_bind_ok readState_leads.run, run_bind_ok (run_read ..), run_bind_ok readState_leads.run, run_bind_ok hcompare]
    rfl
  unfold Protected.recover
  rw [run_bind_ok hlocal]
  exact run_bind_ok hsynchronize

theorem compare_stuck {state state' : Option ExecutionState} :
    ∃ e, Protected.compare H authorityId g state none state' = .error e := by
  unfold Protected.compare
  cases g.lockedActiveGeneration state with
  | error e => exact ⟨e, rfl⟩
  | ok n => exact ⟨_, rfl⟩

/-- Without a checkpoint there is no recovery. -/
theorem recover_stuck (hgeneration : w.generation = ⟨some 1, []⟩) (hcheckpoint : w.checkpoint = none) :
    ∃ e v, (Protected.recover H authorityId).run w = (.error e, v) := by
  unfold Protected.recover
  cases hactive : w.generation.lockedActiveGeneration w.execution.state with
  | error e =>
    have hlook : ControlPlane.currentActiveGeneration.run w = (.error e, w) := by
      unfold ControlPlane.currentActiveGeneration
      rw [run_bind_ok readState_leads.run]
      refine run_atomic_error ?_
      rw [hactive]
      rfl
    have hlocal : ControlPlane.recover.run w = (.error e, w) := by
      unfold ControlPlane.recover
      rw [run_bind_ok (pendingChange_run hgeneration)]
      exact run_bind_error hlook
    exact ⟨e, w, run_bind_error hlocal⟩
  | ok n =>
    have hlocal : ControlPlane.recover.run w = (.ok none, noted n w) := by
      unfold ControlPlane.recover
      rw [run_bind_ok (pendingChange_run hgeneration)]
      exact run_bind_ok (currentActiveGeneration_run hactive)
    obtain ⟨e, hcompare⟩ : ∃ e, Protected.compare H authorityId (noted n w).generation (noted n w).execution.state (noted n w).checkpoint
        (noted n w).execution.state = .error e := by
      rw [show (noted n w).checkpoint = none from hcheckpoint]
      exact compare_stuck
    have hsynchronize : (Protected.synchronizeCheckpoint H authorityId).run (noted n w) = (.error e, noted n w) := by
      unfold Protected.synchronizeCheckpoint
      rw [run_bind_ok readState_leads.run, run_bind_ok (run_read ..), run_bind_ok readState_leads.run]
      refine run_bind_error ?_
      rw [run_query, hcompare]
    rw [run_bind_ok hlocal]
    exact ⟨e, noted n w, run_bind_error hsynchronize⟩

/-! ### Receipts -/

variable {key : TrustedCheckpointReceiptKey} {signer : SignatureScheme}

/-- The receipt of the genesis checkpoint. -/
def genesisReceipt (H : Hashing) (key : TrustedCheckpointReceiptKey) (signer : SignatureScheme) : Receipt :=
  ReceiptSource.mint key signer ⟨1, genesisJournalHead H key.authorityId⟩ genesisReceiptPredecessor

/-- With the receipt persisted. -/
def receipted (H : Hashing) (key : TrustedCheckpointReceiptKey) (signer : SignatureScheme) (w : World) : World :=
  { w with receipts := [genesisReceipt H key signer] }

/-- And with the receipt seen. -/
def witnessed (H : Hashing) (key : TrustedCheckpointReceiptKey) (signer : SignatureScheme) (w : World) : World :=
  { receipted H key signer w with witness := [⟨1, (genesisReceipt H key signer).sha256 H⟩] }

theorem receipted_self (h : w.receipts = [genesisReceipt H key signer]) : receipted H key signer w = w := by
  unfold receipted
  rw [← h]

theorem currentCheckpoint_leads (hg : Genesis H authorityId w) :
    Leads (query Label.step fun v => currentCheckpoint v.checkpoint) w [w] ⟨1, genesisJournalHead H authorityId⟩ w := by
  refine .query ?_
  rw [hg.checkpoint]
  rfl

theorem loadReceipt_leads {receipt : Option Receipt} (h : ReceiptSource.loadReceipt w.receipts 1 = receipt) :
    Leads (read Label.step fun v => ReceiptSource.loadReceipt v.receipts 1 : Prog Label World Error (Option Receipt)) w [w] receipt w := by
  rw [← h]
  exact .read

/-- The first receipt. -/
theorem current_leads (hg : Genesis H key.authorityId w) (hreceipts : w.receipts = []) :
    Leads (ReceiptSource.current H key signer) w [w, receipted H key signer w] (genesisReceipt H key signer) (receipted H key signer w) := by
  have hnone : ReceiptSource.loadReceipt w.receipts 1 = none := by
    rw [hreceipts]
    rfl
  have hpersist : ReceiptSource.persist H w.receipts (genesisReceipt H key signer) = .ok (receipted H key signer w).receipts := by
    rw [hreceipts]
    rfl
  unfold ReceiptSource.current
  refine Leads.mono (.bind (currentCheckpoint_leads hg) (.bind (loadReceipt_leads hnone)
    (.bind (a := genesisReceiptPredecessor) (.pure _)
      (.bind (a := ()) (t := receipted H key signer w) (.atomic ?_) (.pure _))))) ?_
  · show (ReceiptSource.persist H w.receipts (genesisReceipt H key signer) >>= _) = _
    rw [hpersist]
    rfl
  · simp

/-- The receipt again. -/
theorem current_again (hg : Genesis H key.authorityId w) (hreceipts : w.receipts = [genesisReceipt H key signer]) :
    Leads (ReceiptSource.current H key signer) w [w] (genesisReceipt H key signer) w := by
  have hsome : ReceiptSource.loadReceipt w.receipts 1 = some (genesisReceipt H key signer) := by
    rw [hreceipts]
    rfl
  have hkept : ¬ ((genesisReceipt H key signer).payload.journalHeadSha256 ≠ genesisJournalHead H key.authorityId ∨
      (genesisReceipt H key signer).payload.authorityId ≠ key.authorityId) := by
    simp [genesisReceipt, ReceiptSource.mint]
  unfold ReceiptSource.current
  refine Leads.mono (.bind (currentCheckpoint_leads hg) (.bind (E := [w]) (loadReceipt_leads hsome) ?_)) ?_
  · dsimp only
    rw [if_neg hkept]
    exact Leads.pure _
  · simp

theorem observe_leads (h : observeReceipt H w.witness (genesisReceipt H key signer) true = .ok (witnessed H key signer w).witness) :
    Leads (observe H key signer (genesisReceipt H key signer)) w [w, { w with witness := (witnessed H key signer w).witness }]
      (genesisReceipt H key signer).payload { w with witness := (witnessed H key signer w).witness } := by
  have hauthentic : signer.verify (genesisReceipt H key signer).payload.toJson (genesisReceipt H key signer).signatureHex = true :=
    signer.verify_sign _
  unfold observe
  refine Leads.mono (.bind (.raiseIf ?_) (.bind (.raiseIf ?_) (.bind (.raiseIf ?_)
    (.bind (a := ()) (t := { w with witness := (witnessed H key signer w).witness }) (.atomic ?_) (.pure _))))) ?_
  · simp [genesisReceipt, ReceiptSource.mint]
  · simp [genesisReceipt, ReceiptSource.mint]
  · simp [genesisReceipt, ReceiptSource.mint]
  · rw [hauthentic, h]
  · simp

theorem observeReceipt_first :
    observeReceipt H [] (genesisReceipt H key signer) true = .ok (witnessed H key signer w).witness := by
  simp [observeReceipt, genesisReceipt, ReceiptSource.mint, witnessed, Table.lookup]

theorem observeReceipt_again :
    observeReceipt H (witnessed H key signer w).witness (genesisReceipt H key signer) true = .ok (witnessed H key signer w).witness := by
  simp [observeReceipt, genesisReceipt, ReceiptSource.mint, witnessed, Table.lookup]

theorem fence_leads {v : World} {us : List World} (hg : Genesis H key.authorityId w)
    (hsource : Leads (ReceiptSource.current H key signer) w us (genesisReceipt H key signer) v)
    (hobserve : observeReceipt H v.witness (genesisReceipt H key signer) true = .ok (witnessed H key signer v).witness) :
    Leads (ReceiptFence.currentActiveGeneration H key signer) w (w :: us ++ [v, { v with witness := (witnessed H key signer v).witness }]) 1
      { v with witness := (witnessed H key signer v).witness } := by
  unfold ReceiptFence.currentActiveGeneration
  refine Leads.mono (.bind readState_leads (.bind (a := (1, [genesisJournalHead H key.authorityId]))
    (.query ?_) (.bind hsource (.bind (observe_leads hobserve) (.bind (.raiseIf ?_) (.bind (.raiseIf ?_)
    (.pure _))))))) ?_
  · rw [hg.active]
    rfl
  · simp [genesisReceipt, ReceiptSource.mint]
  · simp [genesisReceipt, ReceiptSource.mint, headAt]
  · simp

/-! ## The whole build -/

variable {publicKey : String → List UInt8} {fixtures : Fixtures} {built : World}

/-- What the start asks of the fixtures. -/
structure Accepted (fixtures : Fixtures) (key : TrustedCheckpointReceiptKey) : Prop where
  generation : fixtures.controlPlane.initialGeneration = 1
  authority : fixtures.controlPlane.authorityId ≠ ""
  trusted : trustedKey fixtures.checkpointReceipts = .ok key
  same : key.authorityId = fixtures.controlPlane.authorityId

theorem generation_leads (hf : Fresh w) :
    Leads (read Label.step fun v => v.generation.currentGeneration : Prog Label World Error (Option Nat)) w [w] none w := by
  have hnone : w.generation.currentGeneration = none := by
    rw [hf.generation]
  rw [← hnone]
  exact .read

theorem startControlPlane_leads (hf : Fresh w) (hgeneration : fixtures.controlPlane.initialGeneration = 1)
    (hauthority : fixtures.controlPlane.authorityId ≠ "") :
    Leads (startControlPlane H fixtures.controlPlane) w
      [w, anchored w, initialized w, checkpointed H fixtures.controlPlane.authorityId w] ()
      (checkpointed H fixtures.controlPlane.authorityId w) := by
  unfold startControlPlane
  rw [hgeneration]
  refine Leads.mono (.bind (generation_leads hf) (.bind (initializeAt_leads hf hauthority) (.pure _))) ?_
  simp

theorem startControlPlane_refuses (hf : Fresh w)
    (h : fixtures.controlPlane.initialGeneration ≠ 1 ∨ fixtures.controlPlane.authorityId = "") :
    ∃ e, (startControlPlane H fixtures.controlPlane).run w = (.error e, w) := by
  obtain ⟨e, hrefused⟩ : ∃ e, (Protected.initializeAt H fixtures.controlPlane.authorityId fixtures.controlPlane.initialGeneration).run w =
      (.error e, w) := by
    unfold Protected.initializeAt
    by_cases hgeneration : fixtures.controlPlane.initialGeneration = 1
    · have hauthority : fixtures.controlPlane.authorityId = "" := by simpa [hgeneration] using h
      have hstore : (ControlPlane.initializeStore fixtures.controlPlane.authorityId 1).run w =
          (.error (.value "invalid control-plane generation initialization"), w) := by
        refine run_bind_error ?_
        rw [run_raiseIf, if_pos (.inl hauthority)]
      rw [hgeneration]
      refine ⟨_, (run_bind_ok (a := ()) (t := w) ?_).trans (run_bind_error (run_bind_error hstore))⟩
      rw [run_raiseIf, if_neg (not_not_intro rfl)]
    · have hgenesis : (raiseIf (fixtures.controlPlane.initialGeneration ≠ 1)
          (.value "P2-R protected checkpoint initialization requires genesis generation 1") : Prog Label World Error Unit).run w =
          (.error (.value "P2-R protected checkpoint initialization requires genesis generation 1"), w) := by
        rw [run_raiseIf, if_pos hgeneration]
      exact ⟨_, run_bind_error hgenesis⟩
  unfold startControlPlane
  rw [run_bind_ok (generation_leads hf).run]
  exact ⟨e, run_bind_error hrefused⟩

theorem startReceipts_leads {v : World} {D : List World} (ha : Accepted fixtures key)
    (hfence : Leads (ReceiptFence.currentActiveGeneration H key (scheme fixtures.checkpointReceipts.seedLabel)) w D 1 v) :
    Leads (startReceipts scheme H fixtures.controlPlane.authorityId fixtures.checkpointReceipts) w (w :: D ++ [v]) () v := by
  unfold startReceipts
  refine Leads.mono (.bind (.ofResult ha.trusted) (.bind (.raiseIf ?_) (.bind hfence (.pure _)))) ?_
  · exact not_not_intro ha.same
  · simp

/-- Only accepted fixtures are started with. -/
theorem accepted_of_start (hf : Fresh w) (h : (start scheme H fixtures).run w = (.ok (), built)) : ∃ key, Accepted fixtures key := by
  unfold start at h
  by_cases hrefused : fixtures.controlPlane.initialGeneration ≠ 1 ∨ fixtures.controlPlane.authorityId = ""
  · obtain ⟨e, he⟩ := startControlPlane_refuses (H := H) hf hrefused
    rw [run_bind_error he] at h
    cases h
  · obtain ⟨hgeneration, hauthority⟩ := not_or.mp hrefused
    rw [not_not] at hgeneration
    rw [run_bind_ok (startControlPlane_leads hf hgeneration hauthority).run] at h
    unfold startReceipts at h
    cases hkey : trustedKey fixtures.checkpointReceipts with
    | error e =>
      rw [hkey] at h
      cases h
    | ok key =>
      refine ⟨key, hgeneration, hauthority, hkey, ?_⟩
      by_contra hsame
      have hother : (raiseIf (key.authorityId ≠ fixtures.controlPlane.authorityId)
          (.value "checkpoint receipt authority must match the control-plane authority") : Prog Label World Error Unit).run
            (checkpointed H fixtures.controlPlane.authorityId w) =
          (.error (.value "checkpoint receipt authority must match the control-plane authority"),
            checkpointed H fixtures.controlPlane.authorityId w) := by
        rw [run_raiseIf, if_pos hsame]
      rw [run_bind_ok (Leads.ofResult hkey).run, run_bind_error hother] at h
      cases h

/-- The start of a first build, and where it may die. -/
theorem start_leads (hf : Fresh w) (ha : Accepted fixtures key) :
    Leads (start scheme H fixtures) w [w, anchored w, initialized w, checkpointed H key.authorityId w,
        receipted H key (scheme fixtures.checkpointReceipts.seedLabel) (checkpointed H key.authorityId w),
        witnessed H key (scheme fixtures.checkpointReceipts.seedLabel) (checkpointed H key.authorityId w)] ()
      (witnessed H key (scheme fixtures.checkpointReceipts.seedLabel) (checkpointed H key.authorityId w)) := by
  have hg : Genesis H key.authorityId (checkpointed H key.authorityId w) := by
    refine ⟨?_, rfl, rfl⟩
    unfold checkpointed initialized anchored
    rw [hf.generation]
  have hwitness : (receipted H key (scheme fixtures.checkpointReceipts.seedLabel) (checkpointed H key.authorityId w)).witness = [] := hf.witness
  have hsource : Leads (ReceiptSource.current H key (scheme fixtures.checkpointReceipts.seedLabel)) _ _ _ _ := current_leads hg hf.receipts
  have hfence := fence_leads hg hsource (by
    rw [hwitness]
    exact observeReceipt_first)
  have hplane := startControlPlane_leads (H := H) hf ha.generation ha.authority
  rw [← ha.same] at hplane
  unfold start
  refine (hplane.bind (startReceipts_leads ha hfence)).mono ?_
  simp [witnessed]

/-- The start again, when all three are there. -/
theorem start_again (hg : Genesis H key.authorityId w) (ha : Accepted fixtures key)
    (hpinned : (w.receipts = [] ∧ w.witness = []) ∨
      (w.receipts = [genesisReceipt H key (scheme fixtures.checkpointReceipts.seedLabel)] ∧ (w.witness = [] ∨
        w.witness = (witnessed H key (scheme fixtures.checkpointReceipts.seedLabel) w).witness))) :
    (start scheme H fixtures).run w =
      (.ok (), witnessed H key (scheme fixtures.checkpointReceipts.seedLabel) (noted 1 w)) := by
  have hplane : (startControlPlane H fixtures.controlPlane).run w = (.ok (), noted 1 w) := by
    have hsome : Leads (read Label.step fun v => v.generation.currentGeneration : Prog Label World Error (Option Nat)) w [w] (some 1) w := by
      have hcurrent : w.generation.currentGeneration = some 1 := by
        rw [hg.generation]
      rw [← hcurrent]
      exact .read
    unfold startControlPlane
    rw [run_bind_ok hsome.run, ← ha.same]
    exact run_bind_ok (recover_run hg)
  have hafter : Genesis H key.authorityId (noted 1 w) := ⟨hg.generation, hg.state, hg.checkpoint⟩
  unfold start
  rw [run_bind_ok hplane]
  rcases hpinned with ⟨hreceipts, hwitness⟩ | ⟨hreceipts, hwitness⟩
  · have hseen : (receipted H key (scheme fixtures.checkpointReceipts.seedLabel) (noted 1 w)).witness = [] := hwitness
    refine (startReceipts_leads ha (fence_leads hafter (current_leads hafter hreceipts) ?_)).run
    rw [hseen]
    exact observeReceipt_first
  · have hkept : witnessed H key (scheme fixtures.checkpointReceipts.seedLabel) (noted 1 w) =
        { noted 1 w with witness := (witnessed H key (scheme fixtures.checkpointReceipts.seedLabel) (noted 1 w)).witness } := by
      unfold witnessed
      rw [receipted_self (w := noted 1 w) hreceipts]
    rw [hkept]
    refine (startReceipts_leads ha (fence_leads hafter (current_again hafter hreceipts) ?_)).run
    rcases hwitness with hwitness | hwitness
    · rw [show (noted 1 w).witness = [] from hwitness]
      exact observeReceipt_first
    · rw [show (noted 1 w).witness = _ from hwitness]
      exact observeReceipt_again

theorem start_stuck (hgeneration : w.generation = ⟨some 1, []⟩) (hcheckpoint : w.checkpoint = none) :
    ∃ e v, (start scheme H fixtures).run w = (.error e, v) := by
  have hsome : Leads (read Label.step fun v => v.generation.currentGeneration : Prog Label World Error (Option Nat)) w [w] (some 1) w := by
    have hcurrent : w.generation.currentGeneration = some 1 := by
      rw [hgeneration]
    rw [← hcurrent]
    exact .read
  obtain ⟨e, v, hrecover⟩ : ∃ e v, (Protected.recover H fixtures.controlPlane.authorityId).run w = (.error e, v) :=
    recover_stuck hgeneration hcheckpoint
  refine ⟨e, v, run_bind_error ?_⟩
  unfold startControlPlane
  rw [run_bind_ok hsome.run]
  exact run_bind_error hrecover

/-- Everything the databases hold; the history is none of it. -/
structure SameDatabases (w w' : World) : Prop where
  generation : w.generation = w'.generation
  execution : w.execution = w'.execution
  checkpoint : w.checkpoint = w'.checkpoint
  receipts : w.receipts = w'.receipts
  witness : w.witness = w'.witness
  outbox : w.outbox = w'.outbox

theorem SameDatabases.refl (w : World) : SameDatabases w w := ⟨rfl, rfl, rfl, rfl, rfl, rfl⟩

/-- Where a first start dies, and what the next one comes to. -/
theorem start_restarts (hf : Fresh w) (ha : Accepted fixtures key) (hcrash : (start scheme H fixtures).Crash w u) :
    u.execution.authorization = w.execution.authorization ∧
      ((∃ again, (start scheme H fixtures).run u = (.ok (), again) ∧ SameDatabases again
          (witnessed H key (scheme fixtures.checkpointReceipts.seedLabel) (checkpointed H key.authorityId w))) ↔
        u.generation.currentGeneration = none ∨ u.checkpoint ≠ none) := by
  have hleads : Leads (start scheme H fixtures) w _ _ _ := start_leads hf ha
  have hgeneration : (anchored w).generation = ⟨some 1, []⟩ := by
    unfold anchored
    rw [hf.generation]
  have hgenesis : Genesis H key.authorityId (checkpointed H key.authorityId w) := ⟨hgeneration, rfl, rfl⟩
  -- the generation is there and the checkpoint is not
  have hstuck : ∀ v : World, v.generation = ⟨some 1, []⟩ → v.checkpoint = none →
      ((∃ again, (start scheme H fixtures).run v = (.ok (), again) ∧ SameDatabases again
          (witnessed H key (scheme fixtures.checkpointReceipts.seedLabel) (checkpointed H key.authorityId w))) ↔
        v.generation.currentGeneration = none ∨ v.checkpoint ≠ none) := by
    intro v hg hc
    refine iff_of_false ?_ ?_
    · intro h
      obtain ⟨again, hagain, -⟩ := h
      obtain ⟨e, x, he⟩ : ∃ e x, (start scheme H fixtures).run v = (.error e, x) := start_stuck hg hc
      rw [he] at hagain
      cases hagain
    · simp [hg, hc]
  have hmem := hleads.crash u hcrash
  simp only [List.mem_cons, List.not_mem_nil, or_false] at hmem
  rcases hmem with rfl | rfl | rfl | rfl | rfl | rfl
  · refine ⟨rfl, iff_of_true ⟨_, hleads.run, .refl _⟩ (.inl ?_)⟩
    rw [hf.generation]
  · exact ⟨rfl, hstuck _ hgeneration hf.checkpoint⟩
  · exact ⟨rfl, hstuck _ hgeneration hf.checkpoint⟩
  · refine ⟨rfl, iff_of_true ⟨_, start_again hgenesis ha (.inl ⟨hf.receipts, hf.witness⟩), ?_⟩ (.inr ?_)⟩
    · exact ⟨rfl, rfl, rfl, rfl, rfl, rfl⟩
    · exact Option.some_ne_none _
  · refine ⟨rfl, iff_of_true ⟨_, start_again ⟨hgeneration, rfl, rfl⟩ ha (.inr ⟨rfl, .inl hf.witness⟩), ?_⟩ (.inr ?_)⟩
    · exact ⟨rfl, rfl, rfl, rfl, rfl, rfl⟩
    · exact Option.some_ne_none _
  · refine ⟨rfl, iff_of_true ⟨_, start_again ⟨hgeneration, rfl, rfl⟩ ha (.inr ⟨rfl, .inr rfl⟩), ?_⟩ (.inr ?_)⟩
    · exact ⟨rfl, rfl, rfl, rfl, rfl, rfl⟩
    · exact Option.some_ne_none _

/-- The build, called on what a crash left, succeeds and leaves what the one did that did not crash. -/
def Restarts (publicKey : String → List UInt8) (scheme : String → SignatureScheme) (H : Hashing) (fixtures : Fixtures)
    (built w : World) : Prop :=
  ∃ again, (build publicKey scheme H fixtures).run w = (.ok (), again) ∧ SameDatabases again built

variable {a : AuthorizationState} {k : KeyFixture}

/-- Once the authorization state is there the build is its start. -/
theorem build_start (h : (authorize publicKey fixtures).run a = (.ok k, w.execution.authorization)) :
    (build publicKey scheme H fixtures).run w = (start scheme H fixtures).run w := by
  have hidle : ((authorize publicKey fixtures).zoom authorizationLens).run w = (.ok k, w) := by
    rw [run_zoom, show authorizationLens.get w = w.execution.authorization from rfl, authorize_idle h]
    exact congrArg _ (authorizationLens.set_get w)
  unfold build
  rw [run_bind_ok hidle]

/-- Wherever a first build dies, the next one succeeds and leaves the same databases as an uninterrupted one, exactly if the
    generation store has no generation yet or the protected checkpoint is there. -/
theorem restarts_iff (hf : Fresh w) (hbuilt : (build publicKey scheme H fixtures).run w = (.ok (), built))
    (hcrash : (build publicKey scheme H fixtures).Crash w u) :
    Restarts publicKey scheme H fixtures built u ↔ u.generation.currentGeneration = none ∨ u.checkpoint ≠ none := by
  have hzoom : ((authorize publicKey fixtures).zoom authorizationLens).run w =
      (((authorize publicKey fixtures).run w.execution.authorization).1,
        authorizationLens.set ((authorize publicKey fixtures).run w.execution.authorization).2 w) := run_zoom ..
  rcases hauthorize : (authorize publicKey fixtures).run w.execution.authorization with ⟨e | k, a⟩
  · rw [hauthorize] at hzoom
    unfold build at hbuilt
    rw [run_bind_error hzoom] at hbuilt
    cases hbuilt
  · rw [hauthorize] at hzoom
    have hfresh : Fresh (authorizationLens.set a w) := ⟨hf.generation, hf.state, hf.checkpoint, hf.receipts, hf.witness⟩
    have hcrash' := hcrash
    unfold build at hcrash'
    rcases (crash_bind_ok hzoom).mp hcrash' with hbefore | hstart
    · -- before the start: all of it is made again
      have hsame : (build publicKey scheme H fixtures).run u = (build publicKey scheme H fixtures).run w := by
        unfold build
        rw [run_bind, run_bind, authorize_resumable.zoom u hbefore]
      have hnone : u.generation.currentGeneration = none := by
        obtain ⟨b, -, rfl⟩ := crash_zoom.mp hbefore
        show w.generation.currentGeneration = none
        rw [hf.generation]
      refine iff_of_true ⟨built, ?_, .refl built⟩ (.inl hnone)
      rw [hsame]
      exact hbuilt
    · unfold build at hbuilt
      rw [run_bind_ok hzoom] at hbuilt
      obtain ⟨key, ha⟩ := accepted_of_start hfresh hbuilt
      obtain ⟨hkept, hrestarts⟩ := start_restarts hfresh ha hstart
      obtain rfl : _ = built := congrArg Prod.snd ((start_leads hfresh ha).run.symm.trans hbuilt)
      rw [← hrestarts]
      unfold Restarts
      rw [build_start (k := k) (a := w.execution.authorization)]
      rw [hkept]
      exact hauthorize

/-- An uninterrupted first build. -/
theorem build_run (hf : Fresh w) (ha : Accepted fixtures key)
    (h : (authorize publicKey fixtures).run w.execution.authorization = (.ok k, a)) :
    (build publicKey scheme H fixtures).run w = (.ok (), witnessed H key (scheme fixtures.checkpointReceipts.seedLabel)
      (checkpointed H key.authorityId (authorizationLens.set a w))) := by
  have hzoom : ((authorize publicKey fixtures).zoom authorizationLens).run w = (.ok k, authorizationLens.set a w) := by
    rw [run_zoom]
    exact congrArg (fun r => (r.1, authorizationLens.set r.2 w)) h
  have hfresh : Fresh (authorizationLens.set a w) := ⟨hf.generation, hf.state, hf.checkpoint, hf.receipts, hf.witness⟩
  unfold build
  rw [run_bind_ok hzoom]
  exact (start_leads hfresh ha).run

/-- A first build may die with its generation committed and nothing after it. -/
theorem build_anchored (hf : Fresh w) (ha : Accepted fixtures key)
    (h : (authorize publicKey fixtures).run w.execution.authorization = (.ok k, a)) :
    (build publicKey scheme H fixtures).Crash w (anchored (authorizationLens.set a w)) := by
  have hzoom : ((authorize publicKey fixtures).zoom authorizationLens).run w = (.ok k, authorizationLens.set a w) := by
    rw [run_zoom]
    exact congrArg (fun r => (r.1, authorizationLens.set r.2 w)) h
  have hfresh : Fresh (authorizationLens.set a w) := ⟨hf.generation, hf.state, hf.checkpoint, hf.receipts, hf.witness⟩
  have hstore : (ControlPlane.initializeStore fixtures.controlPlane.authorityId 1).Crash (authorizationLens.set a w)
      (anchored (authorizationLens.set a w)) := by
    have hlast := crash_run (ControlPlane.initializeStore fixtures.controlPlane.authorityId 1) (authorizationLens.set a w)
    rw [(initializeStore_leads hfresh ha.authority).run] at hlast
    exact hlast
  have hprotected : (Protected.initializeAt H fixtures.controlPlane.authorityId fixtures.controlPlane.initialGeneration).Crash
      (authorizationLens.set a w) (anchored (authorizationLens.set a w)) := by
    rw [ha.generation]
    exact (crash_bind_ok (Leads.raiseIf (not_not_intro rfl)).run).mpr (.inr (crash_bind.mpr (.inl (crash_bind.mpr (.inl hstore)))))
  have hplane : (startControlPlane H fixtures.controlPlane).Crash (authorizationLens.set a w) (anchored (authorizationLens.set a w)) :=
    (crash_bind_ok (generation_leads hfresh).run).mpr (.inr (crash_bind.mpr (.inl hprotected)))
  exact (crash_bind_ok hzoom).mpr (.inr (crash_bind.mpr (.inl hplane)))

end

/-! ## A build that dies after its first database -/

namespace Sample

def fixtures : Fixtures where
  tenants := [⟨"tenant", 1, 1⟩, ⟨"other", 2, 1⟩]
  authorizationKeys := ⟨"issuer", "effects", [⟨"second", 2, "second-seed"⟩, ⟨"first", 1, "first-seed"⟩]⟩
  controlPlane := ⟨"authority", 1⟩
  checkpointReceipts := ⟨"authority", "effects", "checkpoint-key", 1, "checkpoint-seed"⟩

def publicKey (seedLabel : String) : List UInt8 := List.replicate 32 seedLabel.length.toUInt8

def scheme (_ : String) : SignatureScheme := Sample.signatures

/-- New databases. -/
def world : World where
  generation := ⟨none, []⟩
  execution := ⟨⟨[⟨"user", "tenant", true, .arr []⟩], [], [⟨"tenant", true⟩], [], [], []⟩, none, [], []⟩
  checkpoint := none
  receipts := []
  witness := []
  outbox := []
  history := ⟨⟨[], [], [], [], [], []⟩, [], [], [], [], [], []⟩

/-- What the build makes of the authorization state. -/
def authorized : AuthorizationState := ((authorize publicKey fixtures).run world.execution.authorization).2

theorem world_fresh : Fresh world := ⟨rfl, rfl, rfl, rfl, rfl⟩

theorem fixtures_accepted : Accepted fixtures Sample.receiptKey := ⟨rfl, by decide, rfl, rfl⟩

theorem world_authorized : (authorize publicKey fixtures).run world.execution.authorization = (.ok ⟨"first", 1, "first-seed"⟩, authorized) := by
  decide +kernel

/-- The uninterrupted build. -/
def built (H : Hashing) : World :=
  witnessed H Sample.receiptKey Sample.signatures (checkpointed H Sample.receiptKey.authorityId (authorizationLens.set authorized world))

/-- A build that dies with its generation committed and nothing after it: the next one does not succeed. -/
theorem stranded : (build publicKey scheme Hashing.light fixtures).run world = (.ok (), built Hashing.light) ∧
    ∃ u, (build publicKey scheme Hashing.light fixtures).Crash world u ∧
      ¬ Restarts publicKey scheme Hashing.light fixtures (built Hashing.light) u := by
  refine ⟨build_run world_fresh fixtures_accepted world_authorized,
    anchored (authorizationLens.set authorized world), build_anchored world_fresh fixtures_accepted world_authorized, ?_⟩
  intro h
  obtain ⟨again, hagain, -⟩ := h
  obtain ⟨e, v, hstuck⟩ : ∃ e v, (start scheme Hashing.light fixtures).run (anchored (authorizationLens.set authorized world)) = (.error e, v) :=
    start_stuck rfl rfl
  rw [build_start (a := world.execution.authorization) world_authorized, hstuck] at hagain
  cases hagain

/-- A build that dies after its last transaction, and one that dies before its first. -/
theorem restarts_at_ends : Restarts publicKey scheme Hashing.light fixtures (built Hashing.light) world ∧
    Restarts publicKey scheme Hashing.light fixtures (built Hashing.light) (built Hashing.light) := by
  have hrun : (build publicKey scheme Hashing.light fixtures).run world = (.ok (), built Hashing.light) :=
    build_run world_fresh fixtures_accepted world_authorized
  have hlast := crash_run (build publicKey scheme Hashing.light fixtures) world
  rw [hrun] at hlast
  exact ⟨(restarts_iff world_fresh hrun (.here _ _)).mpr (.inl rfl), (restarts_iff world_fresh hrun hlast).mpr (.inr (Option.some_ne_none _))⟩

end Sample

end Bootstrap

end Aegis.Effects
