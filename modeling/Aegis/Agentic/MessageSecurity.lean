/-
  Aegis.Agentic.MessageSecurity — `AgentMessageProtocolSecurityAnalyzer` (message_security.py):
  a message between agents is allowed when its channel, its upstream evidence and its parent
  message raise no risk.
-/

import Aegis.Agentic.Decision
import Aegis.Data.Ascent

namespace Aegis.Agentic.MessageSecurity

open Data Evidence Checked Decision

def messageSchemaVersion : String := "aegis-agent-message-manifest-v1"

inductive MessageChannelType where
  | direct | bus | brokered | broadcast | external
  deriving DecidableEq, Repr

def MessageChannelType.value : MessageChannelType → String
  | direct => "direct"
  | bus => "bus"
  | brokered => "brokered"
  | broadcast => "broadcast"
  | external => "external"

inductive MessageIntent where
  | information | request | command | result | approvalNotice
  deriving DecidableEq, Repr

def MessageIntent.value : MessageIntent → String
  | information => "information"
  | request => "request"
  | command => "command"
  | result => "result"
  | approvalNotice => "approval_notice"

inductive MessageTrust where
  | untrusted | authenticated | verified
  deriving DecidableEq, Repr

inductive MessageDecision where
  | allow | deny
  deriving DecidableEq, Repr

inductive MessageRisk where
  | senderIdentityMismatch | receiverUnauthorized | senderUnauthorized | channelUnauthorized | tenantMismatch
  | principalMismatch | taskMismatch | goalMismatch | stepMismatch | delegationMismatch | messageReplay | messageStale
  | messageFuture | messageTimeInvalid | schemaMismatch | protocolDowngrade | intentUnauthorized
  | capabilityNegotiationMismatch | capabilityEscalation | parentChainBroken | provenanceDiscontinuity | commandLaundering
  | externalCommandEscalation | requiredApprovalMissing | upstreamDelegationUnsafe | upstreamPlanUnsafe
  | upstreamApprovalUnsafe
  deriving DecidableEq, Repr

namespace MessageRisk

def value : MessageRisk → String
  | senderIdentityMismatch => "sender_identity_mismatch"
  | receiverUnauthorized => "receiver_unauthorized"
  | senderUnauthorized => "sender_unauthorized"
  | channelUnauthorized => "channel_unauthorized"
  | tenantMismatch => "tenant_mismatch"
  | principalMismatch => "principal_mismatch"
  | taskMismatch => "task_mismatch"
  | goalMismatch => "goal_mismatch"
  | stepMismatch => "step_mismatch"
  | delegationMismatch => "delegation_mismatch"
  | messageReplay => "message_replay"
  | messageStale => "message_stale"
  | messageFuture => "message_future"
  | messageTimeInvalid => "message_time_invalid"
  | schemaMismatch => "schema_mismatch"
  | protocolDowngrade => "protocol_downgrade"
  | intentUnauthorized => "intent_unauthorized"
  | capabilityNegotiationMismatch => "capability_negotiation_mismatch"
  | capabilityEscalation => "capability_escalation"
  | parentChainBroken => "parent_chain_broken"
  | provenanceDiscontinuity => "provenance_discontinuity"
  | commandLaundering => "command_laundering"
  | externalCommandEscalation => "external_command_escalation"
  | requiredApprovalMissing => "required_approval_missing"
  | upstreamDelegationUnsafe => "upstream_delegation_unsafe"
  | upstreamPlanUnsafe => "upstream_plan_unsafe"
  | upstreamApprovalUnsafe => "upstream_approval_unsafe"

/-- `_RISK_SCORE`. -/
def score : MessageRisk → Nat
  | senderIdentityMismatch => 110
  | receiverUnauthorized => 102
  | senderUnauthorized => 104
  | channelUnauthorized => 100
  | tenantMismatch => 105
  | principalMismatch => 106
  | taskMismatch => 96
  | goalMismatch => 100
  | stepMismatch => 98
  | delegationMismatch => 107
  | messageReplay => 112
  | messageStale => 90
  | messageFuture => 92
  | messageTimeInvalid => 94
  | schemaMismatch => 97
  | protocolDowngrade => 109
  | intentUnauthorized => 103
  | capabilityNegotiationMismatch => 104
  | capabilityEscalation => 114
  | parentChainBroken => 106
  | provenanceDiscontinuity => 111
  | commandLaundering => 116
  | externalCommandEscalation => 118
  | requiredApprovalMissing => 110
  | upstreamDelegationUnsafe => 108
  | upstreamPlanUnsafe => 108
  | upstreamApprovalUnsafe => 113

end MessageRisk

inductive MessageRejectReason where
  | policyInvalid | requestInvalid | upstreamInvalid | manifestInvalid | coverageMismatch | ownerUntrusted | policyDrift
  | referenceInvalid | declaredDecisionMismatch | declaredRiskMismatch
  deriving DecidableEq, Repr

abbrev Check := Checked MessageRejectReason

/-! ## The manifest and the policy -/

structure MessageChannelPolicy where
  channelId : String
  channelType : MessageChannelType
  ownerId : String
  allowedSenderIds : List String
  allowedReceiverIds : List String
  allowedIntents : List MessageIntent
  tenantScope : String
  requiredSchemaVersion : String
  protocolVersion : Int
  allowedCapabilityIds : List String
  commandRequiresApproval : Bool
  requiredApprovalActionId : Option String
  maxMessageAgeSeconds : Int
  description : String
  deriving DecidableEq, Repr

structure AgentMessage where
  messageId : String
  channelId : String
  senderAgentId : String
  receiverAgentId : String
  senderIdentitySha256 : String
  originalPrincipalId : String
  tenantId : String
  taskId : String
  goalId : String
  stepId : String
  delegationId : Option String
  approvalActionId : Option String
  intent : MessageIntent
  schemaVersion : String
  protocolVersion : Int
  capabilityIds : List String
  payloadSha256 : String
  parentMessageId : Option String
  nonce : String
  issuedAtEpoch : Int
  expiresAtEpoch : Int
  ownerId : String
  description : String
  deriving DecidableEq, Repr

structure AgentMessageManifest where
  graphId : String
  version : String
  p8aAssessmentEvidenceSha256 : String
  p8cAssessmentEvidenceSha256 : String
  p8fAssessmentEvidenceSha256 : String
  createdAtEpoch : Int
  channels : List MessageChannelPolicy
  messages : List AgentMessage
  schemaVersion : String
  deriving DecidableEq, Repr

/-- `_channel_profile`. -/
structure ChannelProfile where
  channelType : MessageChannelType
  allowedSenderIds : List String
  allowedReceiverIds : List String
  allowedIntents : List MessageIntent
  tenantScope : String
  requiredSchemaVersion : String
  protocolVersion : Int
  allowedCapabilityIds : List String
  commandRequiresApproval : Bool
  requiredApprovalActionId : Option String
  maxMessageAgeSeconds : Int
  deriving DecidableEq, Repr

def MessageChannelPolicy.profile (c : MessageChannelPolicy) : ChannelProfile where
  channelType := c.channelType
  allowedSenderIds := c.allowedSenderIds
  allowedReceiverIds := c.allowedReceiverIds
  allowedIntents := c.allowedIntents
  tenantScope := c.tenantScope
  requiredSchemaVersion := c.requiredSchemaVersion
  protocolVersion := c.protocolVersion
  allowedCapabilityIds := c.allowedCapabilityIds
  commandRequiresApproval := c.commandRequiresApproval
  requiredApprovalActionId := c.requiredApprovalActionId
  maxMessageAgeSeconds := c.maxMessageAgeSeconds

structure AgentMessagePolicy where
  expectedGraphId : String
  expectedGraphVersion : String
  expectedGraphSha256 : String
  expectedP8aAssessmentEvidenceSha256 : String
  expectedP8cAssessmentEvidenceSha256 : String
  expectedP8fAssessmentEvidenceSha256 : String
  requiredChannelIds : List String
  requiredMessageIds : List String
  trustedOwnerIds : List String
  trustedInternalAgentIds : List String
  knownExternalSenderIds : List String
  expectedSenderIdentitySha256 : List (String × String)
  expectedChannelProfiles : List (String × ChannelProfile)
  maxManifestAgeSeconds : Int
  maxFutureSkewSeconds : Int

structure AgentMessageFact where
  messageId : String
  channelId : String
  senderAgentId : String
  receiverAgentId : String
  intent : MessageIntent
  decision : MessageDecision
  risks : List MessageRisk
  derivedTrust : MessageTrust
  parentMessageId : Option String
  tenantId : String
  goalId : String
  delegationId : Option String
  capabilityIds : List String
  riskScore : Nat
  deriving DecidableEq, Repr

variable (rt : Runtime)

/-! ## Digests -/

def MessageChannelPolicy.toDict (text : String → Json) (texts : List String → Json) (c : MessageChannelPolicy) : Json :=
  .obj [("channel_id", text c.channelId), ("channel_type", text c.channelType.value), ("owner_id", text c.ownerId),
    ("allowed_sender_ids", texts c.allowedSenderIds), ("allowed_receiver_ids", texts c.allowedReceiverIds),
    ("allowed_intents", texts (c.allowedIntents.map MessageIntent.value)), ("tenant_scope", text c.tenantScope),
    ("required_schema_version", text c.requiredSchemaVersion), ("protocol_version", .int c.protocolVersion),
    ("allowed_capability_ids", texts c.allowedCapabilityIds), ("command_requires_approval", .bool c.commandRequiresApproval),
    ("required_approval_action_id", Json.opt text c.requiredApprovalActionId),
    ("max_message_age_seconds", .int c.maxMessageAgeSeconds), ("description", text c.description)]

def AgentMessage.toDict (text : String → Json) (texts : List String → Json) (x : AgentMessage) : Json :=
  .obj [("message_id", text x.messageId), ("channel_id", text x.channelId), ("sender_agent_id", text x.senderAgentId),
    ("receiver_agent_id", text x.receiverAgentId), ("sender_identity_sha256", text x.senderIdentitySha256),
    ("original_principal_id", text x.originalPrincipalId), ("tenant_id", text x.tenantId), ("task_id", text x.taskId),
    ("goal_id", text x.goalId), ("step_id", text x.stepId), ("delegation_id", Json.opt text x.delegationId),
    ("approval_action_id", Json.opt text x.approvalActionId), ("intent", text x.intent.value),
    ("schema_version", text x.schemaVersion), ("protocol_version", .int x.protocolVersion),
    ("capability_ids", texts x.capabilityIds), ("payload_sha256", text x.payloadSha256),
    ("parent_message_id", Json.opt text x.parentMessageId), ("nonce", text x.nonce), ("issued_at_epoch", .int x.issuedAtEpoch),
    ("expires_at_epoch", .int x.expiresAtEpoch), ("owner_id", text x.ownerId), ("description", text x.description)]

/-- `canonical_agent_message_manifest_bytes`. -/
def AgentMessageManifest.canonical (m : AgentMessageManifest) : Json :=
  let norm s := Json.str (Canonical.normText rt s)
  .obj [("channels", normTuple rt MessageChannelPolicy.toDict m.channels), ("created_at_epoch", .int m.createdAtEpoch),
    ("graph_id", norm m.graphId), ("messages", normTuple rt AgentMessage.toDict m.messages),
    ("p8a_assessment_evidence_sha256", norm m.p8aAssessmentEvidenceSha256),
    ("p8c_assessment_evidence_sha256", norm m.p8cAssessmentEvidenceSha256),
    ("p8f_assessment_evidence_sha256", norm m.p8fAssessmentEvidenceSha256), ("schema_version", norm m.schemaVersion),
    ("version", norm m.version)]

/-- `agent_message_manifest_digest`. -/
def AgentMessageManifest.digest (m : AgentMessageManifest) : String := rt.sha256 (m.canonical rt)

/-! ## Validation -/

/-- `_validate_policy`. -/
def validatePolicy (p : AgentMessagePolicy) : Check Unit := do
  rejectIf (p.expectedGraphId = "" ∨ p.expectedGraphVersion = "" ∨ p.trustedOwnerIds = []) .policyInvalid
    "missing graph or owner policy" none
  rejectIf (¬ (sha rt p.expectedGraphSha256 ∧ sha rt p.expectedP8aAssessmentEvidenceSha256 ∧
    sha rt p.expectedP8cAssessmentEvidenceSha256 ∧ sha rt p.expectedP8fAssessmentEvidenceSha256)) .policyInvalid
    "invalid digest pin" none
  rejectIf (p.maxManifestAgeSeconds ≤ 0 ∨ p.maxFutureSkewSeconds < 0) .policyInvalid "invalid freshness policy" none
  let allSenders := p.trustedInternalAgentIds ++ p.knownExternalSenderIds
  rejectIf (allSenders = [] ∨ ¬ sameSet (p.expectedSenderIdentitySha256.map (·.1)) allSenders) .policyInvalid
    "sender identity policy coverage mismatch" none
  rejectIf (¬ ∀ i ∈ p.expectedSenderIdentitySha256, sha rt i.2) .policyInvalid "invalid sender identity digest" none

/-- `_validate_upstreams`. -/
def validateUpstreams (p : AgentMessagePolicy) (m : AgentMessageManifest) (p8a p8c p8f : Json) : Check Unit := do
  validateUpstream rt .upstreamInvalid p8a p.expectedP8aAssessmentEvidenceSha256 m.p8aAssessmentEvidenceSha256
    ["exact_delegation_graph_binding_verified"] "caller_declared_delegation_authorization_trusted"
  validateUpstream rt .upstreamInvalid p8c p.expectedP8cAssessmentEvidenceSha256 m.p8cAssessmentEvidenceSha256
    ["exact_goal_plan_graph_binding_verified"] "caller_declared_goal_safety_trusted"
  validateUpstream rt .upstreamInvalid p8f p.expectedP8fAssessmentEvidenceSha256 m.p8fAssessmentEvidenceSha256
    ["exact_human_approval_graph_binding_verified"] "caller_declared_approval_safety_trusted"

def validateChannel (p : AgentMessagePolicy) (c : MessageChannelPolicy) : Check Unit := do
  rejectIf (c.ownerId ∉ p.trustedOwnerIds) .ownerUntrusted "channel owner untrusted" (some c.channelId)
  rejectIf (some c.profile ≠ Dict.mapping p.expectedChannelProfiles c.channelId) .policyDrift "channel policy drift"
    (some c.channelId)
  rejectIf (c.allowedSenderIds = [] ∨ c.allowedReceiverIds = [] ∨ c.allowedIntents = [] ∨ c.protocolVersion ≤ 0 ∨
    c.maxMessageAgeSeconds ≤ 0) .policyInvalid "invalid channel" (some c.channelId)
  rejectIf (c.commandRequiresApproval = true ∧ c.requiredApprovalActionId.getD "" = "") .policyInvalid
    "approval-bound channel missing required approval action" (some c.channelId)
  rejectIf (c.commandRequiresApproval = false ∧ c.requiredApprovalActionId ≠ none) .policyInvalid
    "non-approval channel pins approval action" (some c.channelId)

def validateMessage (p : AgentMessagePolicy) (m : AgentMessageManifest) (x : AgentMessage) : Check Unit := do
  rejectIf (x.ownerId ∉ p.trustedOwnerIds) .ownerUntrusted "message owner untrusted" (some x.messageId)
  rejectIf (x.channelId ∉ m.channels.map (·.channelId)) .referenceInvalid "unknown channel" (some x.messageId)
  rejectIf (¬ sha rt x.senderIdentitySha256 ∨ ¬ sha rt x.payloadSha256 ∨ x.nonce = "") .referenceInvalid
    "invalid message evidence" (some x.messageId)
  rejectIf (∃ i ∈ x.parentMessageId, i ∉ m.messages.map (·.messageId)) .referenceInvalid "unknown parent" (some x.messageId)
  rejectIf (¬ x.capabilityIds.Nodup) .referenceInvalid "duplicate negotiated capability" (some x.messageId)

/-- `messages[cursor].parent_message_id if cursor in messages else None`. -/
def parentOf (messages : Dict AgentMessage) (id : String) : Option String := (messages id).bind (·.parentMessageId)

/-- The parents of a message are followed until there is none, or one comes a second time. -/
def followParents (m : AgentMessageManifest) (x : AgentMessage) : Check Unit :=
  rejectIf (Ascent.walk (parentOf (Dict.ofItems AgentMessage.messageId m.messages)) m.messages.length [] (some x.messageId) = false)
    .referenceInvalid "message parent cycle" (some x.messageId)

/-- `_validate_manifest`. -/
def validateManifest (p : AgentMessagePolicy) (m : AgentMessageManifest) (now : Int) : Check Unit := do
  rejectIf (m.schemaVersion ≠ messageSchemaVersion ∨ m.graphId ≠ p.expectedGraphId ∨ m.version ≠ p.expectedGraphVersion)
    .manifestInvalid "manifest identity invalid" none
  rejectIf (m.digest rt ≠ rt.casefold p.expectedGraphSha256) .manifestInvalid "manifest digest mismatch" none
  rejectIf (now - m.createdAtEpoch > p.maxManifestAgeSeconds ∨ m.createdAtEpoch - now > p.maxFutureSkewSeconds)
    .manifestInvalid "manifest freshness invalid" none
  unique .coverageMismatch MessageChannelPolicy.channelId m.channels
  unique .coverageMismatch AgentMessage.messageId m.messages
  rejectIf (¬ sameSet (m.channels.map (·.channelId)) p.requiredChannelIds ∨
    ¬ sameSet (m.messages.map (·.messageId)) p.requiredMessageIds) .coverageMismatch "manifest coverage mismatch" none
  forEach (validateChannel p) m.channels
  forEach (validateMessage rt p m) m.messages
  forEach (followParents m) m.messages

/-! ## Derivation -/

/-- What `derive` reads for every message. -/
structure Context where
  policy : AgentMessagePolicy
  channels : Dict MessageChannelPolicy
  messages : Dict AgentMessage
  nonces : List String
  delegations : Dict Json
  steps : Dict Json
  approvals : Dict Json
  evaluatedAtEpoch : Int

def contextOf (p : AgentMessagePolicy) (m : AgentMessageManifest) (p8a p8c p8f : Json) (evaluatedAtEpoch : Int) : Context where
  policy := p
  channels := Dict.ofItems MessageChannelPolicy.channelId m.channels
  messages := Dict.ofItems AgentMessage.messageId m.messages
  nonces := m.messages.map (·.nonce)
  delegations := inventory rt p8a "delegations" "delegation_id"
  steps := inventory rt p8c "steps" "step_id"
  approvals := inventory rt p8f "actions" "action_id"
  evaluatedAtEpoch := evaluatedAtEpoch

/-- The sender's identity evidence is the one the policy pins. -/
def Identified (p : AgentMessagePolicy) (x : AgentMessage) : Prop :=
  ∃ i ∈ Dict.mapping p.expectedSenderIdentitySha256 x.senderAgentId, rt.casefold x.senderIdentitySha256 = rt.casefold i

instance decidableIdentified (p : AgentMessagePolicy) (x : AgentMessage) : Decidable (Identified rt p x) :=
  inferInstanceAs (Decidable (∃ i ∈ Dict.mapping p.expectedSenderIdentitySha256 x.senderAgentId, _))

def channelRisks (p : AgentMessagePolicy) (c : MessageChannelPolicy) (x : AgentMessage) : List MessageRisk :=
  flag (¬ Identified rt p x) MessageRisk.senderIdentityMismatch ++
    flag (x.senderAgentId ∉ c.allowedSenderIds) MessageRisk.senderUnauthorized ++
    flag (x.receiverAgentId ∉ c.allowedReceiverIds) MessageRisk.receiverUnauthorized ++
    flag (x.intent ∉ c.allowedIntents) MessageRisk.intentUnauthorized ++
    flag (x.schemaVersion ≠ c.requiredSchemaVersion) MessageRisk.schemaMismatch ++
    (if x.protocolVersion < c.protocolVersion then [.protocolDowngrade]
      else flag (x.protocolVersion ≠ c.protocolVersion) MessageRisk.schemaMismatch) ++
    flag (¬ x.capabilityIds ⊆ c.allowedCapabilityIds) MessageRisk.capabilityNegotiationMismatch ++
    flag (c.tenantScope ∉ ["shared", "system", "external"] ∧ x.tenantId ≠ c.tenantScope) MessageRisk.tenantMismatch ++
    flag (c.channelType = .external ∧ x.intent = .command) MessageRisk.externalCommandEscalation

def timeRisks (c : Context) (channel : MessageChannelPolicy) (x : AgentMessage) : List MessageRisk :=
  flag (x.issuedAtEpoch > c.evaluatedAtEpoch + c.policy.maxFutureSkewSeconds) MessageRisk.messageFuture ++
    flag (x.expiresAtEpoch < x.issuedAtEpoch) MessageRisk.messageTimeInvalid ++
    flag (x.expiresAtEpoch < c.evaluatedAtEpoch ∨ c.evaluatedAtEpoch - x.issuedAtEpoch > channel.maxMessageAgeSeconds)
      MessageRisk.messageStale ++
    flag (c.nonces.count x.nonce > 1) MessageRisk.messageReplay

def planRisks (c : Context) (x : AgentMessage) : List MessageRisk :=
  match c.steps x.stepId with
  | none => [.upstreamPlanUnsafe]
  | some step =>
    if ¬ safe rt step then [.upstreamPlanUnsafe]
    else flag (text rt (getattr step "goal_id" (.str x.goalId)) ≠ x.goalId) MessageRisk.goalMismatch

def delegationRisks (c : Context) (x : AgentMessage) : List MessageRisk :=
  match x.delegationId with
  | some id =>
    match c.delegations id with
    | none => [.upstreamDelegationUnsafe]
    | some delegation =>
      if ¬ safe rt delegation then [.upstreamDelegationUnsafe]
      else
        flag (text rt (getattr delegation "original_principal_id" (.str x.originalPrincipalId)) ≠ x.originalPrincipalId)
            MessageRisk.principalMismatch ++
          flag (text rt (getattr delegation "tenant_id" (.str x.tenantId)) ≠ x.tenantId) MessageRisk.tenantMismatch ++
          flag (¬ ∀ i ∈ x.capabilityIds, Json.str i ∈ elements (getattr delegation "requested_capability_ids" .nil))
            MessageRisk.capabilityEscalation
  | none =>
    flag (x.senderAgentId ∈ c.policy.trustedInternalAgentIds ∧ (x.intent = .request ∨ x.intent = .command)) MessageRisk.delegationMismatch

def approvalRisks (c : Context) (channel : MessageChannelPolicy) (x : AgentMessage) : List MessageRisk :=
  if channel.commandRequiresApproval = true ∧ x.intent = .command then
    flag (x.approvalActionId ≠ channel.requiredApprovalActionId) MessageRisk.requiredApprovalMissing ++
      match c.approvals (x.approvalActionId.getD "") with
      | none => [.requiredApprovalMissing]
      | some approval => flag (¬ safe rt approval) MessageRisk.upstreamApprovalUnsafe
  else []

/-- The delegation of a message is its parent's, or one made under it. -/
def DelegationContinues (c : Context) (parent x : AgentMessage) : Prop :=
  parent.delegationId = x.delegationId ∨ ∃ id ∈ x.delegationId,
    text rt (getattr ((c.delegations id).getD .null) "parent_delegation_id" (.str "")) = parent.delegationId.getD "None"

instance decidableDelegationContinues (c : Context) (parent x : AgentMessage) : Decidable (DelegationContinues rt c parent x) :=
  inferInstanceAs (Decidable (_ ∨ ∃ id ∈ x.delegationId, _))

/-- The message stands for the same principal, tenant, task and goal as its parent. -/
def Continues (parent x : AgentMessage) : Prop :=
  parent.originalPrincipalId = x.originalPrincipalId ∧ parent.tenantId = x.tenantId ∧ parent.taskId = x.taskId ∧
    parent.goalId = x.goalId

instance decidableContinues (parent x : AgentMessage) : Decidable (Continues parent x) := inferInstanceAs (Decidable (_ ∧ _))

/-- What may not become a command: information, and what came from outside. -/
def Tainted (p : AgentMessagePolicy) (channel : MessageChannelPolicy) (x : AgentMessage) : Prop :=
  x.intent = .information ∨ channel.channelType = .external ∨ x.senderAgentId ∈ p.knownExternalSenderIds

instance decidableTainted (p : AgentMessagePolicy) (channel : MessageChannelPolicy) (x : AgentMessage) :
    Decidable (Tainted p channel x) := inferInstanceAs (Decidable (_ ∨ _))

def parentRisks (c : Context) (parent : AgentMessage) (parentChannel : MessageChannelPolicy) (x : AgentMessage) :
    List MessageRisk :=
  flag (parent.receiverAgentId ≠ x.senderAgentId) MessageRisk.parentChainBroken ++
    flag (¬ Continues parent x ∨ ¬ DelegationContinues rt c parent x) MessageRisk.provenanceDiscontinuity ++
    flag (x.issuedAtEpoch < parent.issuedAtEpoch ∨ x.expiresAtEpoch > parent.expiresAtEpoch) MessageRisk.provenanceDiscontinuity ++
    flag (x.intent = .command ∧ Tainted c.policy parentChannel parent) MessageRisk.commandLaundering

/-- The risks of a message. -/
def risksOf (c : Context) (x : AgentMessage) : Check (List MessageRisk) := do
  let channel ← getItem c.channels x.channelId
  let own := channelRisks rt c.policy channel x ++ timeRisks c channel x ++ planRisks rt c x ++ delegationRisks rt c x ++
    approvalRisks rt c channel x
  match x.parentMessageId with
  | none => pure own
  | some id => do
    let parent ← getItem c.messages id
    let parentChannel ← getItem c.channels parent.channelId
    pure (own ++ parentRisks rt c parent parentChannel x)

def trustOf (p : AgentMessagePolicy) (x : AgentMessage) (risks : List MessageRisk) : MessageTrust :=
  if x.senderAgentId ∈ p.trustedInternalAgentIds ∧ MessageRisk.senderIdentityMismatch ∉ risks then .verified
  else if x.senderAgentId ∈ p.knownExternalSenderIds ∧ MessageRisk.senderIdentityMismatch ∉ risks then .authenticated
  else .untrusted

/-- The body of the loop over the messages. -/
def factOf (c : Context) (x : AgentMessage) : Check AgentMessageFact := do
  let risks ← risksOf rt c x
  pure {
    messageId := x.messageId
    channelId := x.channelId
    senderAgentId := x.senderAgentId
    receiverAgentId := x.receiverAgentId
    intent := x.intent
    decision := if risks = [] then .allow else .deny
    risks := sorted MessageRisk.value risks
    derivedTrust := trustOf c.policy x risks
    parentMessageId := x.parentMessageId
    tenantId := x.tenantId
    goalId := x.goalId
    delegationId := x.delegationId
    capabilityIds := sortOn id x.capabilityIds
    riskScore := maxScore MessageRisk.score risks }

/-- `derive`. -/
def derive (p : AgentMessagePolicy) (m : AgentMessageManifest) (p8a p8c p8f : Json) (evaluatedAtEpoch : Int) :
    Check (List AgentMessageFact) := do
  validatePolicy rt p
  validateUpstreams rt p m p8a p8c p8f
  validateManifest rt p m evaluatedAtEpoch
  Checks.gather (factOf rt (contextOf rt p m p8a p8c p8f evaluatedAtEpoch)) (sortOn AgentMessage.messageId m.messages)

end Aegis.Agentic.MessageSecurity
