/-
  Aegis.Agentic.MessageChain — where the commands of an accepted manifest come from.

  A message is compared with its parent only, and never with what was decided about the parent:
  - `acyclic`: no message of an accepted manifest is among its own ancestors.
  - `allowed_iff_sound`: a message is allowed exactly if it is `Sound`, which is said of the
    message, its channel, its parent and the upstream evidence, not of any decision.
  - `provenance_iff`: the allowed commands have a clean provenance, along the whole chain, exactly
    if every ancestor of a sound command is sound too and no ancestor beyond its parent is
    information or came from outside.
  - `Sample.laundered`: an advisory from outside becomes a command in two hops.
-/

import Aegis.Agentic.MessageSecurity

namespace Aegis.Agentic.MessageSecurity

open Data Evidence Checked Decision

variable {rt : Runtime} {p : AgentMessagePolicy} {m : AgentMessageManifest} {p8a p8c p8f : Json} {now : Int}
  {facts : List AgentMessageFact}

/-- `y` is the parent message of `x`. -/
structure Parent (m : AgentMessageManifest) (x y : AgentMessage) : Prop where
  child : x ∈ m.messages
  parent : y ∈ m.messages
  named : x.parentMessageId = some y.messageId

def Ancestor (m : AgentMessageManifest) : AgentMessage → AgentMessage → Prop := Relation.TransGen (Parent m)

/-! ## What is accepted -/

/-- What a manifest has that `_validate_manifest` lets through. -/
structure Accepted (m : AgentMessageManifest) : Prop where
  channelIds : (m.channels.map (·.channelId)).Nodup
  messageIds : (m.messages.map (·.messageId)).Nodup
  channels : ∀ x ∈ m.messages, x.channelId ∈ m.channels.map (·.channelId)
  parents : ∀ x ∈ m.messages, ∀ i ∈ x.parentMessageId, i ∈ m.messages.map (·.messageId)
  followed : ∀ x ∈ m.messages,
    Ascent.walk (parentOf (Dict.ofItems AgentMessage.messageId m.messages)) m.messages.length [] (some x.messageId) = true

theorem validateManifest_accepted {u : Unit} (h : validateManifest rt p m now = .ok u) : Accepted m := by
  simp only [validateManifest, bind_ok, rejectIf_ok, unique_ok, forEach_ok] at h
  obtain ⟨-, -, -, -, -, -, _, hchannels, _, hmessages, -, -, -, -, -, hvalid, hfollow⟩ := h
  have hmessage : ∀ x ∈ m.messages, x.channelId ∈ m.channels.map (·.channelId) ∧
      ∀ i ∈ x.parentMessageId, i ∈ m.messages.map (·.messageId) := by
    intro x hx
    have hv := hvalid x hx
    simp only [validateMessage, bind_ok, rejectIf_ok, not_not, not_exists, not_and] at hv
    obtain ⟨-, -, -, hc, -, -, -, hp, -⟩ := hv
    exact ⟨hc, hp⟩
  refine ⟨hchannels, hmessages, fun x hx => (hmessage x hx).1, fun x hx => (hmessage x hx).2, fun x hx => ?_⟩
  have hf := hfollow x hx
  simpa only [followParents, rejectIf_ok, Bool.not_eq_false] using hf

theorem derive_ok (h : derive rt p m p8a p8c p8f now = .ok facts) :
    Accepted m ∧ Checks.gather (factOf rt (contextOf rt p m p8a p8c p8f now)) (sortOn AgentMessage.messageId m.messages) = .ok facts := by
  simp only [derive, bind_ok] at h
  obtain ⟨-, -, -, -, _, hmanifest, hfacts⟩ := h
  exact ⟨validateManifest_accepted hmanifest, hfacts⟩

variable {x : AgentMessage} {c : Context}

theorem Accepted.lookup (h : Accepted m) (hx : x ∈ m.messages) :
    Dict.ofItems AgentMessage.messageId m.messages x.messageId = some x := Dict.ofItems_self h.messageIds hx

/-- No message is among its own ancestors. -/
theorem Accepted.acyclic (h : Accepted m) (x : AgentMessage) : ¬ Ancestor m x x := by
  intro hcycle
  have hup : ∀ a b, Parent m a b →
      parentOf (Dict.ofItems AgentMessage.messageId m.messages) a.messageId = some b.messageId := by
    intro a b hab
    rw [parentOf, h.lookup hab.child]
    exact hab.named
  obtain ⟨y, hxy, hyx⟩ := Relation.TransGen.head'_iff.mp hcycle
  have habove : Ascent.Above (parentOf (Dict.ofItems AgentMessage.messageId m.messages)) y.messageId x.messageId :=
    Relation.ReflTransGen.lift AgentMessage.messageId hup _ _ hyx
  have hclosed : ∀ i ∈ m.messages.map (·.messageId), ∀ j,
      parentOf (Dict.ofItems AgentMessage.messageId m.messages) i = some j → j ∈ m.messages.map (·.messageId) := by
    intro i hi j hj
    obtain ⟨a, ha, rfl⟩ := List.mem_map.mp hi
    rw [parentOf, h.lookup ha] at hj
    exact h.parents a ha j hj
  have hlength : (m.messages.map (·.messageId)).length = m.messages.length := List.length_map _
  have hwalk := h.followed x hxy.child
  rw [← hlength, Ascent.walk_iff (List.mem_map_of_mem hxy.child) hclosed] at hwalk
  obtain ⟨d, hd⟩ := hwalk
  exact hd.not_cycle (hup x y hxy) habove

/-! ## What is allowed -/

/-- A message keeps to its channel. -/
structure OnChannel (rt : Runtime) (p : AgentMessagePolicy) (c : MessageChannelPolicy) (x : AgentMessage) : Prop where
  identified : Identified rt p x
  sender : x.senderAgentId ∈ c.allowedSenderIds
  receiver : x.receiverAgentId ∈ c.allowedReceiverIds
  intent : x.intent ∈ c.allowedIntents
  schema : x.schemaVersion = c.requiredSchemaVersion
  protocol : x.protocolVersion = c.protocolVersion
  capabilities : x.capabilityIds ⊆ c.allowedCapabilityIds
  tenant : c.tenantScope ∉ ["shared", "system", "external"] → x.tenantId = c.tenantScope
  notEscalated : c.channelType = .external → x.intent ≠ .command

structure Timely (c : Context) (channel : MessageChannelPolicy) (x : AgentMessage) : Prop where
  notFuture : x.issuedAtEpoch ≤ c.evaluatedAtEpoch + c.policy.maxFutureSkewSeconds
  ordered : x.issuedAtEpoch ≤ x.expiresAtEpoch
  current : c.evaluatedAtEpoch ≤ x.expiresAtEpoch
  fresh : c.evaluatedAtEpoch - x.issuedAtEpoch ≤ channel.maxMessageAgeSeconds
  once : c.nonces.count x.nonce ≤ 1

/-- The plan step of a message is safe, and is for its goal. -/
def Planned (rt : Runtime) (c : Context) (x : AgentMessage) : Prop :=
  ∃ step ∈ c.steps x.stepId, safe rt step ∧ text rt (getattr step "goal_id" (.str x.goalId)) = x.goalId

/-- The delegation of a message is safe and covers it. -/
structure Covers (rt : Runtime) (delegation : Json) (x : AgentMessage) : Prop where
  safe : safe rt delegation
  principal : text rt (getattr delegation "original_principal_id" (.str x.originalPrincipalId)) = x.originalPrincipalId
  tenant : text rt (getattr delegation "tenant_id" (.str x.tenantId)) = x.tenantId
  capabilities : ∀ i ∈ x.capabilityIds, Json.str i ∈ elements (getattr delegation "requested_capability_ids" .nil)

def Delegated (rt : Runtime) (c : Context) (x : AgentMessage) : Prop :=
  match x.delegationId with
  | some id => ∃ delegation ∈ c.delegations id, Covers rt delegation x
  | none => x.senderAgentId ∈ c.policy.trustedInternalAgentIds → x.intent ≠ .request ∧ x.intent ≠ .command

def Approved (rt : Runtime) (c : Context) (channel : MessageChannelPolicy) (x : AgentMessage) : Prop :=
  channel.commandRequiresApproval = true ∧ x.intent = .command →
    x.approvalActionId = channel.requiredApprovalActionId ∧ Vouched rt (c.approvals (x.approvalActionId.getD ""))

/-- What a message asks of its parent. -/
structure Follows (rt : Runtime) (c : Context) (parent : AgentMessage) (parentChannel : MessageChannelPolicy) (x : AgentMessage) :
    Prop where
  hop : parent.receiverAgentId = x.senderAgentId
  continues : Continues parent x
  delegation : DelegationContinues rt c parent x
  issued : parent.issuedAtEpoch ≤ x.issuedAtEpoch
  expires : x.expiresAtEpoch ≤ parent.expiresAtEpoch
  notLaundered : x.intent = .command → ¬ Tainted c.policy parentChannel parent

/-- Everything a message is checked for. -/
structure Sound (rt : Runtime) (c : Context) (x : AgentMessage) : Prop where
  evidence : ∃ channel ∈ c.channels x.channelId,
    OnChannel rt c.policy channel x ∧ Timely c channel x ∧ Planned rt c x ∧ Delegated rt c x ∧ Approved rt c channel x
  parent : ∀ id ∈ x.parentMessageId, ∃ parent ∈ c.messages id, ∃ channel ∈ c.channels parent.channelId,
    Follows rt c parent channel x

theorem channelRisks_nil {c : MessageChannelPolicy} : channelRisks rt p c x = [] ↔ OnChannel rt p c x := by
  have hprotocol : (if x.protocolVersion < c.protocolVersion then [MessageRisk.protocolDowngrade]
      else flag (x.protocolVersion ≠ c.protocolVersion) .schemaMismatch) = [] ↔ x.protocolVersion = c.protocolVersion := by
    by_cases hlt : x.protocolVersion < c.protocolVersion
    · rw [if_pos hlt]
      simp only [List.cons_ne_nil, false_iff]
      omega
    · rw [if_neg hlt, flag_eq_nil, not_not]
  simp only [channelRisks, List.append_eq_nil_iff, flag_eq_nil, hprotocol, not_not, ne_eq, not_and]
  constructor
  · rintro ⟨⟨⟨⟨⟨⟨⟨⟨hi, hs⟩, hr⟩, hn⟩, hm⟩, hv⟩, hc⟩, ht⟩, he⟩
    exact ⟨hi, hs, hr, hn, hm, hv, hc, ht, he⟩
  · intro h
    exact ⟨⟨⟨⟨⟨⟨⟨⟨h.identified, h.sender⟩, h.receiver⟩, h.intent⟩, h.schema⟩, h.protocol⟩, h.capabilities⟩, h.tenant⟩, h.notEscalated⟩

theorem timeRisks_nil {channel : MessageChannelPolicy} : timeRisks c channel x = [] ↔ Timely c channel x := by
  simp only [timeRisks, List.append_eq_nil_iff, flag_eq_nil, not_or, not_lt, gt_iff_lt]
  constructor
  · rintro ⟨⟨⟨hf, ho⟩, hc, ha⟩, hn⟩
    exact ⟨hf, ho, hc, ha, hn⟩
  · intro h
    exact ⟨⟨⟨h.notFuture, h.ordered⟩, h.current, h.fresh⟩, h.once⟩

theorem planRisks_nil : planRisks rt c x = [] ↔ Planned rt c x := by
  unfold planRisks Planned
  cases hstep : c.steps x.stepId with
  | none => simp
  | some step =>
    by_cases hsafe : safe rt step
    · simp [hsafe]
    · simp [hsafe]

theorem delegationRisks_nil : delegationRisks rt c x = [] ↔ Delegated rt c x := by
  unfold delegationRisks Delegated
  cases x.delegationId with
  | none => simp only [flag_eq_nil, not_and, not_or, ne_eq]
  | some id =>
    dsimp only
    cases hd : c.delegations id with
    | none => simp
    | some delegation =>
      by_cases hsafe : safe rt delegation
      · simp only [hsafe, not_true_eq_false, if_false, List.append_eq_nil_iff, flag_eq_nil, ne_eq, not_not, Option.mem_def,
          Option.some.injEq, exists_eq_left']
        constructor
        · intro h
          exact ⟨hsafe, h.1.1, h.1.2, h.2⟩
        · intro h
          exact ⟨⟨h.principal, h.tenant⟩, h.capabilities⟩
      · have hno : ¬ Covers rt delegation x := fun h => hsafe h.safe
        simp [hsafe, hno]

theorem approvalRisks_nil {channel : MessageChannelPolicy} :
    approvalRisks rt c channel x = [] ↔ Approved rt c channel x := by
  unfold approvalRisks Approved
  by_cases hneeded : channel.commandRequiresApproval = true ∧ x.intent = .command
  · rw [if_pos hneeded, List.append_eq_nil_iff, flag_eq_nil, ne_eq, not_not, forall_prop_of_true hneeded]
    refine and_congr_right fun _ => ?_
    unfold Vouched
    cases c.approvals (x.approvalActionId.getD "") with
    | none => simp
    | some approval => simp
  · rw [if_neg hneeded]
    exact ⟨fun _ h => absurd h hneeded, fun _ => rfl⟩

theorem parentRisks_nil {parent x : AgentMessage} {channel : MessageChannelPolicy} :
    parentRisks rt c parent channel x = [] ↔ Follows rt c parent channel x := by
  simp only [parentRisks, List.append_eq_nil_iff, flag_eq_nil, not_or, not_not, not_lt, gt_iff_lt, ne_eq, not_and]
  constructor
  · rintro ⟨⟨⟨hh, hc, hd⟩, hi, he⟩, hl⟩
    exact ⟨hh, hc, hd, hi, he, hl⟩
  · intro h
    exact ⟨⟨⟨h.hop, h.continues, h.delegation⟩, h.issued, h.expires⟩, h.notLaundered⟩

/-- The risks of a message are none exactly if it is sound. -/
theorem risksOf_nil {risks : List MessageRisk} (h : risksOf rt c x = .ok risks) : risks = [] ↔ Sound rt c x := by
  simp only [risksOf, bind_ok, getItem_ok] at h
  obtain ⟨channel, hchannel, h⟩ := h
  have hown : channelRisks rt c.policy channel x ++ timeRisks c channel x ++ planRisks rt c x ++ delegationRisks rt c x ++
      approvalRisks rt c channel x = [] ↔ OnChannel rt c.policy channel x ∧ Timely c channel x ∧ Planned rt c x ∧
        Delegated rt c x ∧ Approved rt c channel x := by
    simp only [List.append_eq_nil_iff, channelRisks_nil, timeRisks_nil, planRisks_nil, delegationRisks_nil, approvalRisks_nil,
      and_assoc]
  have hevidence : (∃ ch ∈ c.channels x.channelId, OnChannel rt c.policy ch x ∧ Timely c ch x ∧ Planned rt c x ∧
      Delegated rt c x ∧ Approved rt c ch x) ↔ OnChannel rt c.policy channel x ∧ Timely c channel x ∧ Planned rt c x ∧
        Delegated rt c x ∧ Approved rt c channel x := by
    rw [hchannel]
    simp
  cases hparent : x.parentMessageId with
  | none =>
    rw [hparent] at h
    obtain rfl := Except.ok.inj h
    rw [hown, ← hevidence]
    exact ⟨fun he => ⟨he, fun id hid => by rw [hparent] at hid; cases hid⟩, fun hs => hs.evidence⟩
  | some id =>
    rw [hparent] at h
    simp only [bind_ok, getItem_ok] at h
    obtain ⟨parent, hp, pc, hpc, h⟩ := h
    obtain rfl := Except.ok.inj h
    rw [List.append_eq_nil_iff, hown, ← hevidence, parentRisks_nil]
    constructor
    · rintro ⟨he, hf⟩
      refine ⟨he, fun i hi => ?_⟩
      obtain rfl : id = i := Option.some.inj (hparent.symm.trans hi)
      exact ⟨parent, hp, pc, hpc, hf⟩
    · intro hs
      obtain ⟨parent', hp', pc', hpc', hf⟩ := hs.parent id hparent
      obtain rfl : parent = parent' := Option.some.inj (hp.symm.trans hp')
      obtain rfl : pc = pc' := Option.some.inj (hpc.symm.trans hpc')
      exact ⟨hs.evidence, hf⟩

theorem factOf_ok {f : AgentMessageFact} (h : factOf rt c x = .ok f) :
    f.messageId = x.messageId ∧ f.intent = x.intent ∧ (f.decision = .allow ↔ Sound rt c x) := by
  simp only [factOf, bind_ok] at h
  obtain ⟨risks, hrisks, h⟩ := h
  obtain rfl := Except.ok.inj h
  refine ⟨rfl, rfl, ?_⟩
  rw [← risksOf_nil hrisks]
  by_cases hnil : risks = []
  · simp [hnil]
  · simp [hnil]

/-- A message of an accepted manifest is allowed exactly if it is sound. -/
theorem allowed_iff_sound (h : derive rt p m p8a p8c p8f now = .ok facts)
    (hx : x ∈ m.messages) : (∃ f ∈ facts, f.messageId = x.messageId ∧ f.decision = .allow) ↔
      Sound rt (contextOf rt p m p8a p8c p8f now) x := by
  obtain ⟨haccepted, hgather⟩ := derive_ok h
  constructor
  · rintro ⟨f, hf, hid, hallow⟩
    obtain ⟨y, hy, hfact⟩ := Checks.exists_of_forall₂ (Checks.gather_ok.mp hgather) hf
    obtain ⟨hyid, -, hdecision⟩ := factOf_ok hfact
    obtain rfl : y = x :=
      List.inj_on_of_nodup_map haccepted.messageIds (mem_sortOn.mp hy) hx (hyid.symm.trans hid)
    exact hdecision.mp hallow
  · intro hsound
    obtain ⟨f, hf, hfact⟩ := Checks.mem_gather hgather (mem_sortOn.mpr hx)
    obtain ⟨hid, -, hdecision⟩ := factOf_ok hfact
    exact ⟨f, hf, hid, hdecision.mpr hsound⟩

/-! ## Whole chains -/

/-- A message and its parent, of which it was found sound. -/
theorem Sound.follows (ha : Accepted m) {x y : AgentMessage} (h : Sound rt (contextOf rt p m p8a p8c p8f now) x)
    (hp : Parent m x y) : ∃ channel ∈ Dict.ofItems MessageChannelPolicy.channelId m.channels y.channelId,
      Follows rt (contextOf rt p m p8a p8c p8f now) y channel x := by
  obtain ⟨parent, hparent, channel, hchannel, hf⟩ := h.parent y.messageId hp.named
  obtain rfl : y = parent := Option.some.inj ((ha.lookup hp.parent).symm.trans hparent)
  exact ⟨channel, hchannel, hf⟩

/-- Along a chain of sound messages the principal, the tenant, the task and the goal stay, and the window narrows. -/
theorem Sound.carries (ha : Accepted m) {x a : AgentMessage} (hanc : Ancestor m x a)
    (hx : Sound rt (contextOf rt p m p8a p8c p8f now) x)
    (hall : ∀ b, Ancestor m x b → Sound rt (contextOf rt p m p8a p8c p8f now) b) :
    Continues a x ∧ a.issuedAtEpoch ≤ x.issuedAtEpoch ∧ x.expiresAtEpoch ≤ a.expiresAtEpoch := by
  induction hanc with
  | single hp =>
    obtain ⟨_, -, hf⟩ := hx.follows ha hp
    exact ⟨hf.continues, hf.issued, hf.expires⟩
  | @tail b a hb hp ih =>
    obtain ⟨⟨h1, h2, h3, h4⟩, hissued, hexpires⟩ := ih
    obtain ⟨_, -, hf⟩ := (hall b hb).follows ha hp
    obtain ⟨g1, g2, g3, g4⟩ := hf.continues
    exact ⟨⟨g1.trans h1, g2.trans h2, g3.trans h3, g4.trans h4⟩, hf.issued.trans hissued, hexpires.trans hf.expires⟩

/-- A message on its channel, as the manifest has it, is information or came from outside. -/
def FromOutside (p : AgentMessagePolicy) (m : AgentMessageManifest) (a : AgentMessage) : Prop :=
  ∃ channel ∈ m.channels, channel.channelId = a.channelId ∧ Tainted p channel a

theorem Accepted.channel (h : Accepted m) {channel : MessageChannelPolicy} {i : String} :
    Dict.ofItems MessageChannelPolicy.channelId m.channels i = some channel ↔ channel ∈ m.channels ∧ channel.channelId = i := by
  constructor
  · exact Dict.ofItems_mem
  · rintro ⟨hc, rfl⟩
    exact Dict.ofItems_self h.channelIds hc

/-- What the provenance of an allowed command asks of an ancestor. -/
structure Clean (p : AgentMessagePolicy) (m : AgentMessageManifest) (facts : List AgentMessageFact) (x a : AgentMessage) : Prop where
  allowed : ∃ f ∈ facts, f.messageId = a.messageId ∧ f.decision = .allow
  inside : ¬ FromOutside p m a
  continues : Continues a x
  issued : a.issuedAtEpoch ≤ x.issuedAtEpoch
  expires : x.expiresAtEpoch ≤ a.expiresAtEpoch

/-- Every allowed command has a clean provenance over its whole chain, and each hop's receiver is the next sender. -/
def CleanCommands (p : AgentMessagePolicy) (m : AgentMessageManifest) (facts : List AgentMessageFact) : Prop :=
  ∀ x ∈ m.messages, x.intent = .command → (∃ f ∈ facts, f.messageId = x.messageId ∧ f.decision = .allow) →
    (∀ a, Ancestor m x a → Clean p m facts x a) ∧
      ∀ b a, Relation.ReflTransGen (Parent m) x b → Parent m b a → a.receiverAgentId = b.senderAgentId

/-- Above every sound command the messages are sound, and those beyond its parent are not from outside. -/
def Upheld (rt : Runtime) (p : AgentMessagePolicy) (m : AgentMessageManifest) (c : Context) : Prop :=
  ∀ x ∈ m.messages, x.intent = .command → Sound rt c x →
    (∀ a, Ancestor m x a → Sound rt c a) ∧ ∀ b a, Ancestor m x b → Parent m b a → ¬ FromOutside p m a

/-- The parent of a sound command is not from outside. -/
theorem Sound.parent_inside (ha : Accepted m) {x y : AgentMessage} (h : Sound rt (contextOf rt p m p8a p8c p8f now) x)
    (hx : x.intent = .command) (hp : Parent m x y) : ¬ FromOutside p m y := by
  obtain ⟨channel, hchannel, hf⟩ := h.follows ha hp
  rintro ⟨channel', hmem, hid, htainted⟩
  obtain rfl : channel = channel' := Option.some.inj (hchannel.symm.trans (ha.channel.mpr ⟨hmem, hid⟩))
  exact hf.notLaundered hx htainted

/-- Parent cycles are rejected; and the provenance of the allowed commands is clean exactly if the chain above every sound
    command is sound, and is not from outside beyond the parent. -/
theorem provenance_iff {facts : List AgentMessageFact} (h : derive rt p m p8a p8c p8f now = .ok facts) :
    (∀ x, ¬ Ancestor m x x) ∧ (CleanCommands p m facts ↔ Upheld rt p m (contextOf rt p m p8a p8c p8f now)) := by
  obtain ⟨haccepted, -⟩ := derive_ok h
  have hmem : ∀ {x a}, Ancestor m x a → a ∈ m.messages := by
    intro x a hanc
    obtain ⟨b, -, hp⟩ := Relation.TransGen.tail'_iff.mp hanc
    exact hp.parent
  refine ⟨haccepted.acyclic, ?_⟩
  constructor
  · intro hclean x hx hcommand hsound
    obtain ⟨hchain, -⟩ := hclean x hx hcommand ((allowed_iff_sound h hx).mpr hsound)
    refine ⟨fun a hanc => (allowed_iff_sound h (hmem hanc)).mp (hchain a hanc).allowed, fun b a hb hp => ?_⟩
    exact (hchain a (hb.tail hp)).inside
  · intro hupheld x hx hcommand hallowed
    have hsound := (allowed_iff_sound h hx).mp hallowed
    obtain ⟨hall, hinside⟩ := hupheld x hx hcommand hsound
    refine ⟨fun a hanc => ?_, fun b a hb hp => ?_⟩
    · obtain ⟨hcontinues, hissued, hexpires⟩ := hsound.carries haccepted hanc hall
      refine ⟨(allowed_iff_sound h (hmem hanc)).mpr (hall a hanc), ?_, hcontinues, hissued, hexpires⟩
      -- the parent was compared with the command itself, what is beyond it was not
      rcases Relation.TransGen.tail'_iff.mp hanc with ⟨b, hb, hp⟩
      rcases Relation.reflTransGen_iff_eq_or_transGen.mp hb with rfl | hb
      · exact hsound.parent_inside haccepted hcommand hp
      · exact hinside b a hb hp
    · have hbsound : Sound rt (contextOf rt p m p8a p8c p8f now) b := by
        rcases Relation.reflTransGen_iff_eq_or_transGen.mp hb with rfl | hb
        · exact hsound
        · exact hall b hb
      obtain ⟨_, -, hf⟩ := hbsound.follows haccepted hp
      exact hf.hop

/-! ## An advisory from outside -/

namespace Sample

def digest : String := "197067d8664d1dc5d253eee4e33e9ece8babd696bce9eb547aed19a72b77003a"

def runtime : Runtime := .folded digest rfl

def advisory : MessageChannelPolicy where
  channelId := "advisory"
  channelType := .external
  ownerId := "ops"
  allowedSenderIds := ["advisor"]
  allowedReceiverIds := ["orchestrator"]
  allowedIntents := [.information]
  tenantScope := "external"
  requiredSchemaVersion := "s1"
  protocolVersion := 1
  allowedCapabilityIds := []
  commandRequiresApproval := false
  requiredApprovalActionId := none
  maxMessageAgeSeconds := 600
  description := ""

def tools : MessageChannelPolicy where
  channelId := "tools"
  channelType := .direct
  ownerId := "ops"
  allowedSenderIds := ["orchestrator", "broker"]
  allowedReceiverIds := ["broker", "executor"]
  allowedIntents := [.request, .command]
  tenantScope := "acme"
  requiredSchemaVersion := "s1"
  protocolVersion := 1
  allowedCapabilityIds := ["tool.run"]
  commandRequiresApproval := false
  requiredApprovalActionId := none
  maxMessageAgeSeconds := 600
  description := ""

/-- A message that only its place in the chain tells from the others. -/
def message (id channel sender receiver : String) (intent : MessageIntent) (delegation : Option String) (parent : Option String)
    (issued : Int) : AgentMessage where
  messageId := id
  channelId := channel
  senderAgentId := sender
  receiverAgentId := receiver
  senderIdentitySha256 := hex '1'
  originalPrincipalId := "alice"
  tenantId := "acme"
  taskId := "task"
  goalId := "goal"
  stepId := "step"
  delegationId := delegation
  approvalActionId := none
  intent := intent
  schemaVersion := "s1"
  protocolVersion := 1
  capabilityIds := []
  payloadSha256 := hex '2'
  parentMessageId := parent
  nonce := id
  issuedAtEpoch := issued
  expiresAtEpoch := 1000 - issued
  ownerId := "ops"
  description := ""

/-- The advice, a request made of it, and the command made of that. -/
def advice : AgentMessage := message "m1" "advisory" "advisor" "orchestrator" .information none none 100

def asked : AgentMessage := message "m2" "tools" "orchestrator" "broker" .request (some "d1") (some "m1") 110

def ordered : AgentMessage := message "m3" "tools" "broker" "executor" .command (some "d1") (some "m2") 120

def manifest : AgentMessageManifest where
  graphId := "g"
  version := "1"
  p8aAssessmentEvidenceSha256 := hex 'a'
  p8cAssessmentEvidenceSha256 := hex 'c'
  p8fAssessmentEvidenceSha256 := hex 'f'
  createdAtEpoch := 100
  channels := [advisory, tools]
  messages := [advice, asked, ordered]
  schemaVersion := messageSchemaVersion

def policy : AgentMessagePolicy where
  expectedGraphId := "g"
  expectedGraphVersion := "1"
  expectedGraphSha256 := digest
  expectedP8aAssessmentEvidenceSha256 := hex 'a'
  expectedP8cAssessmentEvidenceSha256 := hex 'c'
  expectedP8fAssessmentEvidenceSha256 := hex 'f'
  requiredChannelIds := ["advisory", "tools"]
  requiredMessageIds := ["m1", "m2", "m3"]
  trustedOwnerIds := ["ops"]
  trustedInternalAgentIds := ["orchestrator", "broker"]
  knownExternalSenderIds := ["advisor"]
  expectedSenderIdentitySha256 := [("orchestrator", hex '1'), ("broker", hex '1'), ("advisor", hex '1')]
  expectedChannelProfiles := [("advisory", advisory.profile), ("tools", tools.profile)]
  maxManifestAgeSeconds := 600
  maxFutureSkewSeconds := 60

def upstream (pin : Char) (verifiedFlag callerFlag name : String) (facts : List Json) : Json :=
  .obj [("assessment_evidence_sha256", .str (hex pin)), (verifiedFlag, .bool true), (callerFlag, .bool false),
    (name, .arr facts)]

def delegations : Json :=
  upstream 'a' "exact_delegation_graph_binding_verified" "caller_declared_delegation_authorization_trusted" "delegations"
    [.obj [("delegation_id", .str "d1"), ("decision", .obj [("value", .str "allow")]), ("parent_delegation_id", .null),
      ("original_principal_id", .str "alice"), ("tenant_id", .str "acme"), ("requested_capability_ids", .nil)]]

def plans : Json :=
  upstream 'c' "exact_goal_plan_graph_binding_verified" "caller_declared_goal_safety_trusted" "steps"
    [.obj [("step_id", .str "step"), ("decision", .obj [("value", .str "allow")]), ("goal_id", .str "goal")]]

def approvals : Json :=
  upstream 'f' "exact_human_approval_graph_binding_verified" "caller_declared_approval_safety_trusted" "actions" []

def derived : Check (List AgentMessageFact) := derive runtime policy manifest delegations plans approvals 200

theorem derived_allows : ∃ facts, derived = .ok facts ∧ facts.map (fun f => (f.messageId, f.decision)) =
    [("m1", .allow), ("m2", .allow), ("m3", .allow)] := by
  refine Checks.ok_of_map (f := fun facts : List AgentMessageFact => facts.map fun f => (f.messageId, f.decision)) ?_
  decide +kernel

/-- The advice comes before the command, two hops up. -/
theorem advice_above : Ancestor manifest ordered advice := by
  have hfirst : Parent manifest ordered asked := ⟨by decide, by decide, rfl⟩
  have hsecond : Parent manifest asked advice := ⟨by decide, by decide, rfl⟩
  exact (Relation.TransGen.single hfirst).tail hsecond

theorem advice_outside : FromOutside policy manifest advice := ⟨advisory, by decide, rfl, .inl rfl⟩

/-- The command is allowed though it comes from the advice. -/
theorem laundered : ∃ facts, derived = .ok facts ∧ ¬ CleanCommands policy manifest facts := by
  obtain ⟨facts, hderived, hallowed⟩ := derived_allows
  refine ⟨facts, hderived, fun hclean => ?_⟩
  have hmem : ("m3", MessageDecision.allow) ∈ facts.map fun f => (f.messageId, f.decision) := by
    rw [hallowed]
    decide
  obtain ⟨f, hf, hpair⟩ := List.mem_map.mp hmem
  obtain ⟨hid, hdecision⟩ := Prod.mk.inj hpair
  obtain ⟨hchain, -⟩ := hclean ordered (by decide) rfl ⟨f, hf, hid, hdecision⟩
  exact (hchain advice advice_above).inside advice_outside

end Sample

open Sample in
theorem provenance_iff_advice : ∃ facts, derived = .ok facts ∧ (∀ x, ¬ Ancestor manifest x x) ∧
    (CleanCommands policy manifest facts ↔ Upheld runtime policy manifest (contextOf runtime policy manifest delegations plans approvals 200)) := by
  obtain ⟨facts, hderived, -⟩ := derived_allows
  exact ⟨facts, hderived, provenance_iff hderived⟩

end Aegis.Agentic.MessageSecurity
