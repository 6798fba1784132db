/-
  Aegis.Effects.Freshness — the version fence lets no stale authorization through.

  A tenant's authorization and its version change together: every mutation advances one of the
  tenant's two counters and touches no other tenant (`Evolves`). The replica reads the version
  before it reads the authorization, in transactions of their own; so when the version at the
  moment of the effect is the one it read, nothing changed in between (`Since`), and what it
  evaluated holds of the state the effect is recorded in.

  The binding of a decision is a digest of joined texts. It tells records apart whose id and key
  hold no separator, as those of the outbox do: the id is `apr_` with a random token, the key
  a digest (`Queued`).
-/

import Aegis.Effects.CallSafety
import Aegis.Effects.Provenance

namespace Aegis.Effects

open Data Txn Txn.Prog

/-! ## A tenant's authorization and its version -/

/-- No counter goes back. -/
def VersionRow.Le (v v' : VersionRow) : Prop :=
  v'.tenantId = v.tenantId ∧ v.revocationEpoch ≤ v'.revocationEpoch ∧ v.policyVersion ≤ v'.policyVersion

theorem VersionRow.Le.refl (v : VersionRow) : v.Le v := ⟨rfl, Nat.le_refl _, Nat.le_refl _⟩

theorem VersionRow.Le.trans {a b c : VersionRow} (h : a.Le b) (h' : b.Le c) : a.Le c :=
  ⟨h'.1.trans h.1, h.2.1.trans h'.2.1, h.2.2.trans h'.2.2⟩

theorem VersionRow.Le.antisymm {a b : VersionRow} (h : a.Le b) (h' : b.Le a) : b = a := by
  obtain ⟨t, p, e⟩ := a
  obtain ⟨t', p', e'⟩ := b
  obtain ⟨h1, h2, h3⟩ := h
  obtain ⟨-, h4, h5⟩ := h'
  rw [VersionRow.mk.injEq]
  exact ⟨h1, Nat.le_antisymm h5 h3, Nat.le_antisymm h4 h2⟩

namespace AuthorizationState

variable {T t : String} {a a' b c : AuthorizationState}

/-- The tenant's authorization is the same. -/
structure Same (T : String) (a a' : AuthorizationState) : Prop where
  subject : ∀ userId s, a.subject? userId = some s → s.tenantId = T → a'.subject? userId = some s
  resource : ∀ resource, a'.resource? T resource = a.resource? T resource
  policy : a'.tenantPolicy? T = a.tenantPolicy? T

theorem Same.refl (T : String) (a : AuthorizationState) : Same T a a := ⟨fun _ _ h _ => h, fun _ => rfl, rfl⟩

theorem Same.trans (h : Same T a b) (h' : Same T b c) : Same T a c :=
  ⟨fun u s hs ht => h'.subject u s (h.subject u s hs ht) ht, fun n => (h'.resource n).trans (h.resource n),
    h'.policy.trans h.policy⟩

/-- No version goes back, and the authorization of a tenant whose version stays is the same. -/
def Evolves (a a' : AuthorizationState) : Prop :=
  ∀ T v, a.version? T = some v → ∃ v', a'.version? T = some v' ∧ v.Le v' ∧ (v' = v → Same T a a')

theorem Evolves.refl (a : AuthorizationState) : Evolves a a := fun T v hv => ⟨v, hv, .refl v, fun _ => .refl T a⟩

theorem Evolves.trans (h : Evolves a b) (h' : Evolves b c) : Evolves a c := by
  intro T v hv
  obtain ⟨v1, h1, hle, hsame⟩ := h T v hv
  obtain ⟨v2, h2, hle', hsame'⟩ := h' T v1 h1
  refine ⟨v2, h2, hle.trans hle', ?_⟩
  rintro rfl
  obtain rfl := hle.antisymm hle'
  exact (hsame rfl).trans (hsame' rfl)

/-- A state of the same versions and of every tenant's same authorization. -/
theorem Evolves.of_same (hv : a'.versions = a.versions) (hs : ∀ T, Same T a a') : Evolves a a' := by
  intro T v h
  refine ⟨v, ?_, .refl v, fun _ => hs T⟩
  unfold version? at h ⊢
  rw [hv]
  exact h

/-- A mutation that advances its tenant's version and leaves other tenants alone. -/
theorem Evolves.advance {bump : VersionRow → VersionRow} (hv : a'.versions = Table.update VersionRow.tenantId a.versions t bump)
    (hb : ∀ v, v.Le (bump v) ∧ bump v ≠ v) (hs : ∀ T, T ≠ t → Same T a a') : Evolves a a' := by
  have hkey : ∀ r : VersionRow, r.tenantId = t → (bump r).tenantId = t := fun r hr => (hb r).1.1.trans hr
  intro T v h
  unfold version? at h ⊢
  rw [hv]
  by_cases hT : T = t
  · subst hT
    rw [Table.lookup_update_self hkey, h]
    exact ⟨bump v, rfl, (hb v).1, fun he => absurd he (hb v).2⟩
  · rw [Table.lookup_update_ne hkey hT]
    exact ⟨v, h, .refl v, fun _ => hs T hT⟩

/-! ### What the mutations leave alone -/

theorem same_of_subject {userId : String} {row : SubjectRow} {f : SubjectRow → SubjectRow} (hrow : a.subject? userId = some row)
    (ht : T ≠ row.tenantId) (hs : a'.subjects = Table.update SubjectRow.userId a.subjects userId f)
    (hf : ∀ r, (f r).userId = r.userId) (hr : a'.resources = a.resources) (hp : a'.tenantPolicies = a.tenantPolicies) :
    Same T a a' := by
  refine ⟨fun u s h hT => ?_, fun n => by unfold resource?; rw [hr], by unfold tenantPolicy?; rw [hp]⟩
  have hne : u ≠ userId := by
    rintro rfl
    rw [hrow, Option.some.injEq] at h
    exact ht (h ▸ hT.symm)
  unfold subject? at h ⊢
  rw [hs, Table.lookup_update_ne (fun r hr => (hf r).trans hr) hne]
  exact h

theorem same_of_resource {t resource : String} {f : ResourceRow → ResourceRow} (ht : T ≠ t)
    (hr : a'.resources = Table.update (fun r => (r.tenantId, r.resource)) a.resources (t, resource) f)
    (hf : ∀ r, ((f r).tenantId, (f r).resource) = (r.tenantId, r.resource)) (hs : a'.subjects = a.subjects)
    (hp : a'.tenantPolicies = a.tenantPolicies) : Same T a a' := by
  refine ⟨fun u s h _ => ?_, fun n => ?_, by unfold tenantPolicy?; rw [hp]⟩
  · unfold subject? at h ⊢
    rw [hs]
    exact h
  · unfold resource?
    rw [hr]
    exact Table.lookup_update_ne (fun r hr => (hf r).trans hr) fun he => ht (Prod.mk.inj he).1

theorem lookup_upsert_ne {ρ κ : Type} [DecidableEq κ] {key : ρ → κ} {rows : List ρ} {row : ρ} {set : ρ → ρ} {k : κ}
    (hset : ∀ r, key (set r) = key r) (hk : k ≠ key row) :
    Table.lookup key (upsert key rows row set) k = Table.lookup key rows k := by
  unfold upsert
  split
  · exact Table.lookup_update_ne (fun r hr => (hset r).trans hr) hk
  · exact Table.lookup_append_ne (Ne.symm hk)

theorem same_of_policy {row : TenantPolicyRow} {set : TenantPolicyRow → TenantPolicyRow} (ht : T ≠ row.tenantId)
    (hp : a'.tenantPolicies = upsert TenantPolicyRow.tenantId a.tenantPolicies row set)
    (hset : ∀ r, (set r).tenantId = r.tenantId) (hs : a'.subjects = a.subjects) (hr : a'.resources = a.resources) :
    Same T a a' := by
  refine ⟨fun u s h _ => ?_, fun n => by unfold resource?; rw [hr], ?_⟩
  · unfold subject? at h ⊢
    rw [hs]
    exact h
  · unfold tenantPolicy?
    rw [hp]
    exact lookup_upsert_ne hset ht

theorem revoked (v : VersionRow) : v.Le (VersionedAuthorizationController.advanceRevocationEpoch v) ∧
      VersionedAuthorizationController.advanceRevocationEpoch v ≠ v :=
  ⟨⟨rfl, Nat.le_succ _, Nat.le_refl _⟩, fun h => absurd (congrArg VersionRow.revocationEpoch h) (Nat.succ_ne_self _)⟩

theorem repoliced (v : VersionRow) : v.Le (VersionedAuthorizationController.advancePolicyVersion v) ∧
      VersionedAuthorizationController.advancePolicyVersion v ≠ v :=
  ⟨⟨rfl, Nat.le_refl _, Nat.le_succ _⟩, fun h => absurd (congrArg VersionRow.policyVersion h) (Nat.succ_ne_self _)⟩

/-- Every mutation of the control plane is such a step. -/
theorem evolves_applyMutation {m : Mutation} (h : a.applyMutation m = .ok a') : Evolves a a' := by
  cases m with
  | subjectActive tenantId userId active =>
    simp only [applyMutation] at h
    split at h
    · cases h
    · rename_i row hrow
      split_ifs at h with ht
      cases h
      exact .advance rfl revoked fun T hT =>
        same_of_subject hrow (not_not.mp ht ▸ hT) rfl (fun _ => rfl) rfl rfl
  | passwordResetEnabled tenantId enabled =>
    simp only [applyMutation] at h
    split_ifs at h
    cases h
    exact .advance rfl repoliced fun T hT => same_of_policy hT rfl (fun _ => rfl) rfl rfl
  | signingKeyRotation issuerId audience keyId keyEpoch publicKeyHex =>
    simp only [applyMutation] at h
    split at h
    · cases h
    · split_ifs at h
      cases h
      exact .of_same rfl fun T => ⟨fun _ _ h _ => h, fun _ => rfl, rfl⟩

end AuthorizationState

namespace VersionedAuthorizationController

open AuthorizationState

variable {a a' : AuthorizationState}

theorem evolves_setSubjectActive {userId : String} {active : Bool} (h : setSubjectActive userId active a = .ok a') :
    Evolves a a' := by
  unfold setSubjectActive at h
  split at h
  · cases h
  · rename_i row hrow
    split_ifs at h
    cases h
    exact .advance rfl revoked fun T hT => same_of_subject hrow hT rfl (fun _ => rfl) rfl rfl

theorem evolves_setResourceOwner {tenantId resource : String} {owner : Option String}
    (h : setResourceOwner tenantId resource owner a = .ok a') : Evolves a a' := by
  unfold setResourceOwner at h
  split_ifs at h
  cases h
  exact .advance rfl revoked fun T hT => same_of_resource hT rfl (fun _ => rfl) rfl rfl

theorem evolves_setPasswordResetEnabled {tenantId : String} {enabled : Bool}
    (h : setPasswordResetEnabled tenantId enabled a = .ok a') : Evolves a a' := by
  unfold setPasswordResetEnabled at h
  split_ifs at h
  cases h
  exact .advance rfl repoliced fun T hT => same_of_policy hT rfl (fun _ => rfl) rfl rfl

end VersionedAuthorizationController

/-! ## What a decision is about -/

/-- A record as the outbox hands it out. -/
structure OutboxRecord.Queued (record : OutboxRecord) : Prop where
  approvalId : Json.Plain record.approvalId
  idempotencyKey : Json.Plain record.idempotencyKey
  normalizedArguments : record.normalizedArguments.Proper

instance (record : OutboxRecord) : Decidable record.Queued :=
  decidable_of_iff (Json.Plain record.approvalId ∧ Json.Plain record.idempotencyKey ∧ record.normalizedArguments.Proper)
    ⟨fun ⟨h1, h2, h3⟩ => ⟨h1, h2, h3⟩, fun ⟨h1, h2, h3⟩ => ⟨h1, h2, h3⟩⟩

/-- The records are about the same. -/
structure OutboxRecord.Alike (record record' : OutboxRecord) : Prop where
  requesterUserId : record'.requesterUserId = record.requesterUserId
  tenantId : record'.tenantId = record.tenantId
  action : record'.action = record.action
  normalizedArguments : record'.normalizedArguments = record.normalizedArguments

theorem Action.value_injective : Function.Injective Action.value := by
  intro x y h
  cases x <;> cases y <;> simp_all [Action.value]

theorem plain_action (x : Action) : Json.Plain x.value := by
  cases x <;> decide

/-- Records of one tenant and one binding are about the same. -/
theorem alike_of_binding {H : Hashing} (hH : Function.Injective H.sha256) {record record' : OutboxRecord}
    (hr : record.Queued) (hr' : record'.Queued) (ht : record'.tenantId = record.tenantId)
    (h : authorizationRecordBinding H record' = authorizationRecordBinding H record) : record.Alike record' := by
  have htext := congrArg String.toList (Json.str.inj (hH h))
  simp only [Json.unitJoin_cons_cons, Json.unitJoin_singleton] at htext
  have h1 := List.append_cancel_left htext
  -- the id and the key are cut off at the front, the arguments and the action at the end
  obtain ⟨-, h2⟩ := Json.cut_first hr'.approvalId hr.approvalId (List.cons.inj h1).2
  obtain ⟨-, h3⟩ := Json.cut_first hr'.idempotencyKey hr.idempotencyKey h2
  rw [ht] at h3
  simp only [← List.cons_append, ← List.append_assoc] at h3
  obtain ⟨h4, hargs⟩ := Json.cut_last (Json.plain_dumps _) (Json.plain_dumps _) h3
  obtain ⟨h5, hact⟩ := Json.cut_last (plain_action _) (plain_action _) h4
  exact ⟨String.toList_inj.mp (List.append_cancel_right h5), ht, Action.value_injective (String.toList_inj.mp hact),
    Json.dumps_inj hr'.normalizedArguments hr.normalizedArguments (String.toList_inj.mp hargs)⟩

namespace AuthorizationState

variable {a a' : AuthorizationState} {record record' : OutboxRecord}

theorem authorizationReason_alike (h : record.Alike record') : a.authorizationReason record' = a.authorizationReason record := by
  simp only [authorizationReason, subjectReason, actionReason, accessReason, h.requesterUserId, h.tenantId, h.action,
    h.normalizedArguments]

theorem actionReason_same (h : Same record.tenantId a a') (roles : List String) :
    actionReason record roles a' = actionReason record roles a := by
  unfold actionReason
  rw [h.policy]
  simp only [h.resource]

theorem subjectReason_ne_allowed (s : Option SubjectRow) : subjectReason record s ≠ .error .allowed := by
  intro h
  cases s with
  | none => cases h
  | some s =>
    simp only [subjectReason] at h
    split_ifs at h <;> cases h

/-- The requester belongs to the tenant and has these roles. -/
def Member (record : OutboxRecord) (roles : List String) (a : AuthorizationState) : Prop :=
  ∃ s, a.subject? record.requesterUserId = some s ∧ s.tenantId = record.tenantId ∧ subjectReason record (some s) = .ok roles

variable {roles : List String} {v : VersionRow}

theorem member_of_subjectReason
    (h : subjectReason record (a.subject? record.requesterUserId) = .ok roles) : Member record roles a := by
  cases hs : a.subject? record.requesterUserId with
  | none =>
    rw [hs] at h
    cases h
  | some s =>
    rw [hs] at h
    refine ⟨s, hs, ?_, h⟩
    simp only [subjectReason] at h
    split_ifs at h with _ ht
    exact not_not.mp ht

theorem Member.same (h : Member record roles a) (hs : Same record.tenantId a a') : Member record roles a' := by
  obtain ⟨s, h1, h2, h3⟩ := h
  exact ⟨s, hs.subject _ s h1 h2, h2, h3⟩

theorem authorizationReason_member (h : Member record roles a) :
    a.authorizationReason record = actionReason record roles a := by
  obtain ⟨s, h1, -, h3⟩ := h
  simp only [authorizationReason, h1, h3]

def Allows (record : OutboxRecord) (a : AuthorizationState) : Prop := a.authorizationReason record = .allowed

theorem Allows.same (h : Allows record a) (hs : Same record.tenantId a a') : Allows record a' := by
  unfold Allows at h ⊢
  cases hr : subjectReason record (a.subject? record.requesterUserId) with
  | error e =>
    simp only [authorizationReason, hr] at h
    subst h
    exact absurd hr (subjectReason_ne_allowed _)
  | ok roles =>
    have hm := member_of_subjectReason hr
    rw [authorizationReason_member (hm.same hs), actionReason_same hs, ← authorizationReason_member hm]
    exact h

/-- The tenant's version has not gone back behind `v`, and if it is still `v` then `P` holds. -/
def Since (T : String) (v : VersionRow) (P : AuthorizationState → Prop) (a : AuthorizationState) : Prop :=
  ∃ v', a.version? T = some v' ∧ v.Le v' ∧ (v' = v → P a)

theorem Since.evolves {T : String} {P : AuthorizationState → Prop} (h : Since T v P a) (he : Evolves a a')
    (hP : Same T a a' → P a → P a') : Since T v P a' := by
  obtain ⟨v1, h1, hle, hp⟩ := h
  obtain ⟨v2, h2, hle', hsame⟩ := he T v1 h1
  refine ⟨v2, h2, hle.trans hle', ?_⟩
  rintro rfl
  obtain rfl := hle.antisymm hle'
  exact hP (hsame rfl) (hp rfl)

theorem Since.imp {T : String} {P Q : AuthorizationState → Prop} (h : Since T v P a) (hQ : P a → Q a) :
    Since T v Q a := by
  obtain ⟨v', h1, h2, h3⟩ := h
  exact ⟨v', h1, h2, fun he => hQ (h3 he)⟩

end AuthorizationState

/-! ## One transaction -/

open AuthorizationState

/-- The ledger is as before, or it has one more row, of a record that is allowed now. -/
def World.Inserts (w w' : World) : Prop :=
  w'.execution.ledger = w.execution.ledger ∨
    ∃ record, w'.execution.ledger = w.execution.ledger ++ [.ofRecord record] ∧ Allows record w'.execution.authorization

namespace Freshness

def contract : Contract World where
  inv _ := True
  rely _ w w' := Evolves w.execution.authorization w'.execution.authorization
  guar _ w w' := Evolves w.execution.authorization w'.execution.authorization ∧ w.Inserts w'
  rely_refl _ _ := .refl _
  rely_trans := .trans
  guar_refl _ _ _ := ⟨.refl _, .inl rfl⟩

/-- The same with the denials of the version fence, of which nothing is asked. -/
def contractV : Contract Versioned where
  inv _ := True
  rely i v v' := contract.rely i v.world v'.world
  guar i v v' := contract.guar i v.world v'.world
  rely_refl i v := contract.rely_refl i v.world
  rely_trans := contract.rely_trans
  guar_refl i v _ := contract.guar_refl i v.world trivial

theorem admits (H : Hashing) : ControlPlane.Admits H contract (fun _ _ => True) fun _ _ => True where
  onLoad _ _ := trivial
  onPending _ _ := trivial
  onRead _ := trivial
  knows_rely _ _ := trivial
  seen_rely _ _ := trivial
  onPrepare _ _ := ⟨trivial, ⟨.refl _, .inl rfl⟩, fun _ _ => trivial⟩
  onMarkApplied _ _ _ := ⟨trivial, ⟨.refl _, .inl rfl⟩, fun _ _ => trivial⟩
  onActivate _ _ _ := ⟨trivial, ⟨.refl _, .inl rfl⟩, fun _ _ => trivial⟩
  onExecute {_ w c b d} _ _ h := by
    refine ⟨trivial, ⟨?_, .inl (ExecutionDb.applyExecution_frame h).1⟩, trivial⟩
    show Evolves w.execution.authorization d.authorization
    unfold ExecutionDb.applyExecution at h
    split at h
    · cases h
    · split_ifs at h
      · cases h
        exact .refl _
      · obtain ⟨a, ha, he⟩ := Data.Checks.ok_bind.mp h
        cases he
        exact evolves_applyMutation ha
  onYield _ _ _ := ⟨trivial, .refl _, .inl rfl⟩

variable {H : Hashing} {ok : Label → World → Prop} {me : Nat} {w : World} {record : OutboxRecord}

/-- What a replica's decision says of the state: as long as the version is the one in the decision, the
    record is allowed if the decision says so. -/
def Evaluated (H : Hashing) (record : OutboxRecord) (d : CachedAuthorizationDecision) (w : World) : Prop :=
  d.tenantId = record.tenantId ∧ d.recordBindingHash = authorizationRecordBinding H record ∧
    (d.reason = .allowed → Since record.tenantId ⟨record.tenantId, d.policyVersion, d.revocationEpoch⟩ (Allows record)
      w.execution.authorization)

variable {d : CachedAuthorizationDecision} {a : AuthorizationState} {record' : OutboxRecord}
  {signer : AuthorizationDecisionSigner V} {okV : Label → Versioned → Prop} {V : Ed25519} {v : VersionRow} {issuedAt now : Int}

theorem Evaluated.rely {w' : World} (h : Evaluated H record d w) (hr : contract.rely me w w') : Evaluated H record d w' :=
  ⟨h.1, h.2.1, fun hd => (h.2.2 hd).evolves hr fun hs hp => hp.same hs⟩

theorem getVersion_safe : Safe ok contract me
    (OnOk fun v w => v.tenantId = record.tenantId ∧ Since record.tenantId v (fun _ => True) w.execution.authorization)
    (CachedAuthorizationReplica.getVersion record.tenantId) w := by
  refine Safe.query fun w' _ _ _ => ?_
  cases hv : w'.execution.authorization.version? record.tenantId with
  | none => exact .error
  | some v => exact .ok ⟨Table.key_of_lookup hv, v, hv, .refl v, fun _ => trivial⟩

theorem evaluateState_safe (hv : Since record.tenantId v (fun _ => True) w.execution.authorization) :
    Safe ok contract me
      (OnOk fun reason w => reason = .allowed → Since record.tenantId v (Allows record) w.execution.authorization)
      (CachedAuthorizationReplica.evaluateState record) w := by
  refine Safe.read_bind fun w1 _ hr1 _ => ?_
  have hv1 := hv.evolves hr1 fun _ _ => trivial
  cases hs : subjectReason record (w1.execution.authorization.subject? record.requesterUserId) with
  | error reason =>
    refine Safe.pure (.ok ?_)
    rintro rfl
    exact absurd hs (subjectReason_ne_allowed _)
  | ok roles =>
    have hm : Since record.tenantId v (Member record roles) w1.execution.authorization :=
      hv1.imp fun _ => member_of_subjectReason hs
    refine Safe.query fun w2 _ hr2 _ => .ok fun ha => ?_
    refine (hm.evolves hr2 fun hsame hp => hp.same hsame).imp fun hmem => ?_
    unfold Allows
    rw [authorizationReason_member hmem]
    exact ha

theorem evaluate_safe : Safe ok contract me (OnOk (Evaluated H record)) (CachedAuthorizationReplica.evaluate H record) w := by
  refine Safe.bind_ok trivial getVersion_safe fun v w1 _ hv => ?_
  obtain ⟨hT, hv⟩ := hv
  refine Safe.bind_ok trivial (evaluateState_safe hv) fun reason w2 _ hreason => Safe.pure (.ok ⟨rfl, rfl, fun hd => ?_⟩)
  obtain ⟨T, p, e⟩ := v
  cases hT
  exact hreason hd

/-! ### The services -/

/-- What both services ask of a decision's claims about the record. -/
structure Fits (H : Hashing) (a : AuthorizationState) (record : OutboxRecord) (d : CachedAuthorizationDecision) : Prop where
  tenantId : d.tenantId = record.tenantId
  binding : d.recordBindingHash = authorizationRecordBinding H record
  version : a.version? record.tenantId = some ⟨record.tenantId, d.policyVersion, d.revocationEpoch⟩
  allowed : d.reason = .allowed

theorem version_eq {T : String} {p e : Nat} (hv : a.version? T = some v)
    (he : e = v.revocationEpoch) (hp : p = v.policyVersion) : a.version? T = some ⟨T, p, e⟩ := by
  have ht : v.tenantId = T := Table.key_of_lookup hv
  rw [hv, he, hp, ← ht]

theorem fits_of_decision
    (h : VersionFencedSyntheticEffectService.decisionFailure H a record d = none) : Fits H a record d := by
  unfold VersionFencedSyntheticEffectService.decisionFailure at h
  cases hv : a.version? record.tenantId with
  | none =>
    simp only [hv] at h
    split_ifs at h
  | some v =>
    simp only [hv] at h
    split_ifs at h with ht hb he hp ha
    exact ⟨not_not.mp ht, not_not.mp hb, version_eq hv (not_not.mp he) (not_not.mp hp), not_not.mp ha⟩

/-- The claims without the signature's part. -/
def claimed (c : AuthorizationDecisionClaims) : CachedAuthorizationDecision :=
  ⟨c.tenantId, c.recordBindingHash, c.policyVersion, c.revocationEpoch, c.reason⟩

theorem fits_of_signed {fence : ProvenanceFence} {d : SignedAuthorizationDecision} (h : ProvenanceFencedSyntheticEffectService.decisionFailure H V fence a record d now = none) :
    Fits H a record (claimed d.claims) := by
  unfold ProvenanceFencedSyntheticEffectService.decisionFailure at h
  dsimp only at h
  split_ifs at h
  split at h
  · cases h
  · cases h
  · split_ifs at h
    unfold ProvenanceFencedSyntheticEffectService.freshnessFailure at h
    cases hv : a.version? record.tenantId with
    | none =>
      simp only [hv] at h
      split_ifs at h
    | some v =>
      simp only [hv] at h
      split_ifs at h with _ _ ht hb he hp ha
      exact ⟨not_not.mp ht, not_not.mp hb, version_eq hv (not_not.mp he) (not_not.mp hp), not_not.mp ha⟩

/-- A decision that fits now was evaluated on what is the state now. -/
theorem allows_of_fits (hH : Function.Injective H.sha256)
    (hq : record.Queued) (hq' : record'.Queued) (he : Evaluated H record' d w)
    (hf : Fits H w.execution.authorization record d) : Allows record w.execution.authorization := by
  obtain ⟨h1, h2, h3⟩ := he
  have ht : record'.tenantId = record.tenantId := h1.symm.trans hf.tenantId
  have halike := alike_of_binding hH hq hq' ht (h2.symm.trans hf.binding)
  obtain ⟨v, hv, -, hp⟩ := h3 hf.allowed
  have hver := hf.version
  rw [← ht, hv, Option.some.injEq] at hver
  have hallows := hp hver
  unfold Allows at hallows ⊢
  rw [← authorizationReason_alike halike]
  exact hallows

theorem settle_ledger {ρ : Type} {raised : ρ → Error} {mismatch : String} {failure : Option ρ} {t : EffectTables ρ} :
    (EffectTables.settle raised (t.execute mismatch failure record) t).2.ledger = t.ledger ∨ failure = none ∧
        (EffectTables.settle raised (t.execute mismatch failure record) t).2.ledger = t.ledger ++ [.ofRecord record] := by
  cases h : t.execute mismatch failure record with
  | error e => exact .inl rfl
  | ok r =>
    obtain ⟨v, t'⟩ := r
    cases EffectTables.executes_of_ok h with
    | again l _ _ => exact .inl rfl
    | deniedAgain d _ _ => exact .inl rfl
    | deny reason _ _ => exact .inl rfl
    | execute hf _ _ => exact .inr ⟨hf, rfl⟩

theorem executeWithDecision_safe (hH : Function.Injective H.sha256) {v : Versioned} (hq : record.Queued) (hq' : record'.Queued)
    (he : Evaluated H record' d v.world) :
    Safe okV contractV me (fun _ v => Evaluated H record' d v.world)
      (VersionFencedSyntheticEffectService.executeWithDecision H record d) v := by
  refine Safe.attempt fun v' _ hr _ => ?_
  have he' := he.rely (show contract.rely me v.world v'.world from hr)
  refine ⟨trivial, ⟨.refl _, ?_⟩, he'⟩
  rcases @settle_ledger record _ Error.freshness _ _ _ with hl | ⟨hf, hl⟩
  · exact .inl hl
  · exact .inr ⟨record, hl, allows_of_fits hH hq hq' he' (fits_of_decision hf)⟩

theorem executeSigned_safe (hH : Function.Injective H.sha256) {fence : ProvenanceFence} {d : SignedAuthorizationDecision} (hq : record.Queued) (hq' : record'.Queued)
    (he : Evaluated H record' (claimed d.claims) w) :
    Safe ok contract me (fun _ w => Evaluated H record' (claimed d.claims) w)
      (ProvenanceFencedSyntheticEffectService.executeWithDecision H V fence record d now) w := by
  refine Safe.attempt fun w' _ hr _ => ?_
  have he' := he.rely hr
  refine ⟨trivial, ⟨.refl _, ?_⟩, he'⟩
  rcases @settle_ledger record _ Error.provenance _ _ _ with hl | ⟨hf, hl⟩
  · exact .inl hl
  · exact .inr ⟨record, hl, allows_of_fits hH hq hq' he' (fits_of_signed hf)⟩

theorem issue_claims {s : SignedAuthorizationDecision} (h : signer.issue d issuedAt = .ok s) : claimed s.claims = d := by
  unfold AuthorizationDecisionSigner.issue at h
  dsimp only at h
  split_ifs at h
  cases h
  rfl

theorem evaluateSigned_safe : Safe ok contract me (OnOk fun d w => Evaluated H record (claimed d.claims) w)
      (SignedAuthorizationReplica.evaluate H signer record issuedAt) w := by
  refine Safe.bind_ok trivial evaluate_safe fun d w' _ hd => ?_
  intro s hs
  rw [issue_claims hs]
  exact hd

/-! ## Any run -/

def worldLens : Lens Versioned World where
  get v := v.world
  set w v := { v with world := w }
  get_set _ _ := rfl
  set_get _ := rfl
  set_set _ _ _ := rfl

/-- A mutation of the controller, and the version read back. -/
def mutate (tenantId : AuthorizationState → String) (f : AuthorizationState → Except Error AuthorizationState) :
    Prog Label World Error VersionRow := do
  let tenantId ← atomic .step fun w => do
    let a ← f w.execution.authorization
    pure (tenantId w.execution.authorization, { w with execution := { w.execution with authorization := a } })
  CachedAuthorizationReplica.getVersion tenantId

/-- What a client does with a decision: deliveries of any records, whatever each comes to. -/
def useAll (use : δ → Prog ℓ σ Error EffectExecution) : List δ → Prog ℓ σ Error Unit
  | [] => pure ()
  | x :: rest => do
    let _ ← (do
      let _ ← use x
      pure ()).handle fun _ => pure ()
    useAll use rest

inductive Call (V : Ed25519) where
  /-- A replica evaluates a record and the version-fenced service is called with its decision. -/
  | evaluate (record : OutboxRecord) (uses : List OutboxRecord)
  /-- The same with a signed decision and the provenance-fenced service, at these times. -/
  | evaluateSigned (signer : AuthorizationDecisionSigner V) (record : OutboxRecord) (issuedAt : Int)
      (uses : List (OutboxRecord × Int))
  | setSubjectActive (userId : String) (active : Bool)
  | setResourceOwner (tenantId resource : String) (ownerUserId : Option String)
  | setPasswordResetEnabled (tenantId : String) (enabled : Bool)
  | controlPlane (call : ControlPlane.Call)

variable (H) (V : Ed25519) (fence : ProvenanceFence)

def body : Call V → Prog Label Versioned Error Unit
  | .evaluate record uses => do
    let d ← (CachedAuthorizationReplica.evaluate H record).zoom worldLens
    useAll (fun r => VersionFencedSyntheticEffectService.executeWithDecision H r d) uses
  | .evaluateSigned signer record issuedAt uses => Prog.zoom worldLens do
    let d ← SignedAuthorizationReplica.evaluate H signer record issuedAt
    useAll (fun u => ProvenanceFencedSyntheticEffectService.executeWithDecision H V fence u.1 d u.2) uses
  | .setSubjectActive userId active => Prog.zoom worldLens do
    let _ ← mutate (fun a => (a.subject? userId).elim "" (·.tenantId))
      (VersionedAuthorizationController.setSubjectActive userId active)
    pure ()
  | .setResourceOwner tenantId resource ownerUserId => Prog.zoom worldLens do
    let _ ← mutate (fun _ => tenantId) (VersionedAuthorizationController.setResourceOwner tenantId resource ownerUserId)
    pure ()
  | .setPasswordResetEnabled tenantId enabled => Prog.zoom worldLens do
    let _ ← mutate (fun _ => tenantId) (VersionedAuthorizationController.setPasswordResetEnabled tenantId enabled)
    pure ()
  | .controlPlane call => (ControlPlane.body H call).zoom worldLens

/-- The records a call is about. -/
def Call.records : Call V → List OutboxRecord
  | .evaluate record uses => record :: uses
  | .evaluateSigned _ record _ uses => record :: uses.map (·.1)
  | _ => []

/-- Any number of clients, on databases in any state, with records of the outbox. -/
def system : System (Call V) Label Versioned Error Unit where
  init _ := True
  body _ := body H V fence
  start k _ := ∀ r ∈ k.records V, r.Queued
  ok _ _ := True

variable {H V fence}

theorem zoom_safe {α : Type} {post : Except Error α → World → Prop}
    {p : Prog Label World Error α} {v : Versioned} (h : Safe (fun _ _ => True) contract me post p v.world) :
    Safe okV contractV me (fun r v => post r v.world) (p.zoom worldLens) v :=
  (Safe.zoom (J := fun _ => True) (fun _ _ _ => trivial) (fun _ _ _ _ h => ⟨trivial, h⟩) (fun _ _ _ => trivial)
    (fun _ _ _ _ _ hg => ⟨trivial, hg, trivial⟩) trivial h).mono trivial fun _ _ _ hp => hp.1

theorem useAll_safe {σ ℓ δ : Type} {okS : ℓ → σ → Prop} {C : Contract σ} {Q : σ → Prop}
    {use : δ → Prog ℓ σ Error EffectExecution} {xs : List δ} {s : σ} (hs : C.inv s) (hq : Q s)
    (huse : ∀ x ∈ xs, ∀ s, C.inv s → Q s → Safe okS C me (fun _ s => Q s) (use x) s) :
    Safe okS C me (fun _ s => Q s) (useAll use xs) s := by
  induction xs generalizing s with
  | nil => exact hq
  | cons x rest ih =>
    have hone : Safe okS C me (fun _ s => Q s) ((do
        let _ ← use x
        pure ()).handle fun _ => pure () : Prog ℓ σ Error Unit) s :=
      Safe.handle (M := fun _ s => Q s) hs
        (Safe.bind hs (huse x List.mem_cons_self s hs hq) (fun _ _ _ h => h) fun _ _ _ h => h) (fun _ _ _ h => h)
        fun _ _ _ h => h
    exact Safe.bind hs hone (fun _ s' hi hq' => ih hi hq' fun y hy => huse y (List.mem_cons_of_mem x hy)) fun _ _ _ h => h

theorem mutate_safe {tenantId : AuthorizationState → String} {f : AuthorizationState → Except Error AuthorizationState}
    (hf : ∀ {a a'}, f a = .ok a' → Evolves a a') : Safe ok contract me (fun _ _ => True) (mutate tenantId f) w := by
  refine Safe.bind (M := fun _ _ => True) trivial (Safe.atomic (fun _ _ _ _ _ _ => trivial) fun t w1 w' _ _ _ h => ?_)
    (fun _ _ _ _ => Safe.query fun _ _ _ _ => trivial) fun _ _ _ _ => trivial
  obtain ⟨a, ha, he⟩ := Data.Checks.ok_bind.mp h
  cases he
  exact ⟨trivial, ⟨hf ha, .inl rfl⟩, trivial⟩

theorem controlPlane_safe (call : ControlPlane.Call) :
    Safe ok contract me (fun _ _ => True) (ControlPlane.body H call) w := by
  have hA := admits H
  cases call with
  | prepare i m => exact Safe.discard trivial (hA.prepare_safe trivial)
  | apply i => exact Safe.discard trivial (hA.apply_safe trivial)
  | activate i => exact Safe.discard trivial hA.activate_safe
  | commit i m crashAt => exact Safe.discard trivial (hA.commit_safe trivial)
  | recover => exact Safe.discard trivial hA.recover_safe
  | currentActiveGeneration => exact Safe.discard trivial hA.currentActiveGeneration_safe

theorem system_meets (hH : Function.Injective H.sha256) : (system H V fence).Meets contractV fun _ _ _ => True where
  init _ _ := trivial
  body me k c hk _ := by
    have done : ∀ {p : Prog Label World Error VersionRow}, Safe (fun _ _ => True) contract me (fun _ _ => True) p c.st.world →
        Safe (system H V fence).ok contractV me (fun _ _ => True)
          (Prog.zoom worldLens (p >>= fun _ => (pure () : Prog Label World Error Unit))) c.st := fun h =>
      zoom_safe (show Safe (fun _ _ => True) contract me (fun _ _ => True) _ _ from
        Safe.discard trivial h)
    cases k with
    | evaluate record uses =>
      refine Safe.bind (M := OnOk fun d v => Evaluated H record d v.world) trivial (zoom_safe evaluate_safe) ?_
        fun _ _ _ _ => trivial
      intro d v _ hd
      refine (useAll_safe (Q := fun v => Evaluated H record d v.world) trivial (hd d rfl) fun r hr v' _ hv' => ?_).mono trivial fun _ _ _ _ => trivial
      exact executeWithDecision_safe hH (hk r (List.mem_cons_of_mem _ hr)) (hk record List.mem_cons_self) hv'
    | evaluateSigned signer record issuedAt uses =>
      refine zoom_safe (show Safe (fun _ _ => True) contract me (fun _ _ => True) _ _ from ?_)
      refine Safe.bind (M := OnOk fun d w => Evaluated H record (claimed d.claims) w) trivial evaluateSigned_safe ?_
        fun _ _ _ _ => trivial
      intro d w _ hd
      refine (useAll_safe trivial (hd d rfl) fun u hu w' _ hw' => ?_).mono trivial fun _ _ _ _ => trivial
      exact executeSigned_safe hH (hk u.1 (List.mem_cons_of_mem _ (List.mem_map_of_mem hu))) (hk record List.mem_cons_self)
        hw'
    | setSubjectActive userId active =>
      exact done (mutate_safe VersionedAuthorizationController.evolves_setSubjectActive)
    | setResourceOwner tenantId resource owner =>
      exact done (mutate_safe VersionedAuthorizationController.evolves_setResourceOwner)
    | setPasswordResetEnabled tenantId enabled =>
      exact done (mutate_safe VersionedAuthorizationController.evolves_setPasswordResetEnabled)
    | controlPlane call => exact zoom_safe (show Safe (fun _ _ => True) contract me (fun _ _ => True) _ _ from controlPlane_safe call)
  apart := .inr fun _ _ _ _ _ _ _ h => h.1
  stable _ _ _ _ _ _ _ _ _ := trivial

/-- However evaluations, deliveries with their decisions and mutations are interleaved, a row is added
    to the ledger only for a record that the authorization state allows at that moment. -/
theorem freshness_fenced (hH : Function.Injective H.sha256) {c c' : Conf (Call V) Label Versioned Error Unit}
    (hc : (system H V fence).Reach c) (hs : (system H V fence).Step c c') :
    c'.st.world.execution.ledger = c.st.world.execution.ledger ∨
      ∃ record, c'.st.world.execution.ledger = c.st.world.execution.ledger ++ [.ofRecord record] ∧
        c'.st.world.execution.authorization.authorizationReason record = .allowed := by
  rcases (system_meets hH).step hc hs with h | ⟨i, -, h⟩
  · rw [h]
    exact .inl rfl
  · exact h

/-- However calls interleave, no counter of a tenant goes back; and where both stand still, whatever was
    allowed for the tenant still is. -/
theorem versions_onward (hH : Function.Injective H.sha256) {c c' : Conf (Call V) Label Versioned Error Unit}
    (hc : (system H V fence).Reach c) (hl : (system H V fence).Later c c') {T : String} {v : VersionRow}
    (hv : c.st.world.execution.authorization.version? T = some v) :
    ∃ v', c'.st.world.execution.authorization.version? T = some v' ∧ v.Le v' ∧
      (v' = v → ∀ record : OutboxRecord, record.tenantId = T → Allows record c.st.world.execution.authorization →
        Allows record c'.st.world.execution.authorization) := by
  have he := (system_meets hH).later (fun w w' => Evolves w.world.execution.authorization w'.world.execution.authorization)
    (fun _ => .refl _) .trans And.left hc hl
  obtain ⟨v', hv', hle, hsame⟩ := he T v hv
  refine ⟨v', hv', hle, fun hstill record ht hallows => ?_⟩
  subst ht
  exact hallows.same (hsame hstill)

instance : ∀ k c, Decidable ((system H V fence).start k c) := fun k _ =>
  inferInstanceAs (Decidable (∀ r ∈ k.records V, r.Queued))

instance : ∀ l s, Decidable ((system H V fence).ok l s) := fun _ _ => inferInstanceAs (Decidable True)

end Freshness

/-! ## A run -/

namespace Freshness

namespace Sample

def signatures : Ed25519 := ⟨fun publicKeyHex payload signature => decide (signature = Hashing.coded.hmac publicKeyHex payload)⟩

def fence : ProvenanceFence := ⟨"issuer", "effects"⟩

def world : Versioned := ⟨Effects.Sample.world, []⟩

def record (approvalId idempotencyKey : String) : OutboxRecord where
  approvalId
  idempotencyKey
  requesterUserId := "user"
  tenantId := "tenant"
  action := .requestPasswordReset
  normalizedArguments := .obj []
  status := .pending
  deliveryAttempts := 1

/-- A client evaluates a record, the subject is deactivated and activated again, and the client delivers:
    its decision is refused. A second client evaluates then. -/
def reactivated : List (System.Move (Call signatures)) :=
  [.call (.evaluate (record "apr_1" "key") [record "apr_1" "key"]), .txn 0, .txn 0, .txn 0,
    .call (.setSubjectActive "user" false), .txn 1, .txn 1,
    .call (.setSubjectActive "user" true), .txn 2, .txn 2, .txn 0,
    .call (.evaluate (record "apr_2" "other") [record "apr_2" "other"]), .txn 3, .txn 3, .txn 3]

end Sample

theorem freshness_fenced_reactivated :
    ∃ c c' : Conf (Call Sample.signatures) Label Versioned Error Unit,
      (system Hashing.coded Sample.signatures Sample.fence).Reach c ∧ c.st.world.execution.ledger = [] ∧ c.st.freshnessDenials.map (·.reason) = [.revocationEpochMismatch] ∧
      c'.st.world.execution.ledger.map (·.approvalId) = ["apr_2"] ∧
      (c'.st.world.execution.ledger = c.st.world.execution.ledger ∨
        ∃ record, c'.st.world.execution.ledger = c.st.world.execution.ledger ++ [.ofRecord record] ∧
          c'.st.world.execution.authorization.authorizationReason record = .allowed) := by
  obtain ⟨c, c', hc, hs, h1, h2, h3⟩ := System.exec_find_step (S := system Hashing.coded Sample.signatures Sample.fence)
    (s := Sample.world) Sample.reactivated (.txn 3)
    (fun c c' => c.st.world.execution.ledger = [] ∧ c.st.freshnessDenials.map (·.reason) = [.revocationEpochMismatch] ∧
      c'.st.world.execution.ledger.map (·.approvalId) = ["apr_2"]) trivial (by decide +kernel)
  exact ⟨c, c', hc, h1, h2, h3, freshness_fenced Hashing.coded_injective hc hs⟩

theorem versions_onward_reactivated : ∃ c c' : Conf (Call Sample.signatures) Label Versioned Error Unit,
      (system Hashing.coded Sample.signatures Sample.fence).Later c c' ∧
      (c.st.world.execution.authorization.version? "tenant").map (·.revocationEpoch) = some 1 ∧
      (c'.st.world.execution.authorization.version? "tenant").map (·.revocationEpoch) = some 3 ∧
      ∃ v', c'.st.world.execution.authorization.version? "tenant" = some v' := by
  obtain ⟨c, c', hc, hl, h, h'⟩ := System.exec_find₂ (S := system Hashing.coded Sample.signatures Sample.fence)
    (s := Sample.world) (Sample.reactivated.take 4) (Sample.reactivated.drop 4)
    (fun c c' => (c.st.world.execution.authorization.version? "tenant").map (·.revocationEpoch) = some 1 ∧
      (c'.st.world.execution.authorization.version? "tenant").map (·.revocationEpoch) = some 3) trivial (by decide +kernel)
  obtain ⟨v, hv, -⟩ := Option.map_eq_some_iff.mp h
  obtain ⟨v', hv', -⟩ := versions_onward Hashing.coded_injective hc hl hv
  exact ⟨c, c', hl, h, h', v', hv'⟩

end Freshness

end Aegis.Effects
