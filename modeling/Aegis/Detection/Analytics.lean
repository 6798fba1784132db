/-
  Aegis.Detection.Analytics — security events and the rules that make alerts of them
  (security_analytics.py): a registry that verifies producers' envelopes, an SQLite store of
  events and alerts, each row chained to one before it, and an engine that evaluates the rules
  once for every event that is new.

  The rows of a table are listed in the order they were inserted; a query that orders them
  leaves rows of equal keys in that order, as SQLite's sorter does.
-/

import Aegis.Agentic.Evidence
import Aegis.Data.Checks
import Mathlib.Data.Prod.Lex

namespace Aegis.Detection

open Data Checks
open Agentic (sameSet)

def eventSchema : String := "aegis.security-detection-event.v1"

def policyVersion : String := "p11f-detection-policy.v1"

def maxEventBytes : Nat := 4096

def maxString : Nat := 128

def maxAttributes : Nat := 8

def maxAttributeKey : Nat := 32

def maxAttributeValue : Nat := 128

def maxFutureSkew : Int := 30

def maxStaleAge : Int := 3600

/-- Digests, the length of a canonical text, the scan for secrets (`evidence_is_sensitive_material_free`), and the
    signature check of an envelope, its base64 included. -/
structure Runtime extends Hashing where
  canonicalBytes : Json → Nat
  sensitiveMaterialFree : Json → Bool
  verifies : String → String → Json → Bool

/-- `DetectionDenied`, or another exception that a caller of `ingest` sees. -/
inductive Raised where
  | denied (reason : String)
  | typeError
  | attributeError (name : String)
  deriving DecidableEq, Repr

/-! ## Events -/

structure SecurityEvent where
  schemaVersion : String
  eventId : String
  eventTime : Int
  sourceId : String
  sourceKind : String
  eventType : String
  category : String
  action : String
  outcome : String
  severity : String
  reasonCode : String
  tenantRef : String
  principalRef : String
  workloadRef : String
  namespaceRef : String
  resourceRef : String
  requestRef : String
  sessionRef : String
  traceRef : String
  policyVersion : String
  sequence : Int
  provenanceClassification : String
  attributes : List (String × String)
  deriving DecidableEq, Repr

namespace SecurityEvent

/-- The fields but for the attributes, by their names. -/
def fields (e : SecurityEvent) : List (String × Json) :=
  [("schema_version", .str e.schemaVersion), ("event_id", .str e.eventId), ("event_time", .int e.eventTime),
    ("source_id", .str e.sourceId), ("source_kind", .str e.sourceKind), ("event_type", .str e.eventType),
    ("category", .str e.category), ("action", .str e.action), ("outcome", .str e.outcome), ("severity", .str e.severity),
    ("reason_code", .str e.reasonCode), ("tenant_ref", .str e.tenantRef), ("principal_ref", .str e.principalRef),
    ("workload_ref", .str e.workloadRef), ("namespace_ref", .str e.namespaceRef), ("resource_ref", .str e.resourceRef),
    ("request_ref", .str e.requestRef), ("session_ref", .str e.sessionRef), ("trace_ref", .str e.traceRef),
    ("policy_version", .str e.policyVersion), ("sequence", .int e.sequence),
    ("provenance_classification", .str e.provenanceClassification)]

/-- `to_dict`. -/
def toDict (e : SecurityEvent) : Json := .obj (e.fields ++ [("attributes", .obj (e.attributes.map fun a => (a.1, .str a.2)))])

/-- `getattr(e, name)`; the attributes are a tuple of pairs. -/
def getattr (e : SecurityEvent) (name : String) : Option Json :=
  if name = "attributes" then some (.arr (e.attributes.map fun a => .arr [.str a.1, .str a.2]))
  else (e.fields.find? fun f => f.1 = name).map (·.2)

end SecurityEvent

/-- `__dataclass_fields__`. -/
def fieldNames : List String :=
  ["schema_version", "event_id", "event_time", "source_id", "source_kind", "event_type", "category", "action", "outcome", "severity",
    "reason_code", "tenant_ref", "principal_ref", "workload_ref", "namespace_ref", "resource_ref", "request_ref", "session_ref",
    "trace_ref", "policy_version", "sequence", "provenance_classification", "attributes"]

def isLower (c : Char) : Bool := 'a' ≤ c && c ≤ 'z'

def isUpper (c : Char) : Bool := 'A' ≤ c && c ≤ 'Z'

def isDecimal (c : Char) : Bool := '0' ≤ c && c ≤ '9'

def isIdChar (c : Char) : Bool := isLower c || isDecimal c || "._:-".toList.contains c

/-- `ID`: `[a-z0-9][a-z0-9._:-]{2,95}`, the whole text. -/
def isId (s : String) : Bool :=
  match s.toList with
  | [] => false
  | c :: cs => (isLower c || isDecimal c) && 2 ≤ cs.length && cs.length ≤ 95 && cs.all isIdChar

/-- `TOKEN`: `[A-Z][A-Z0-9_]{1,63}`, the whole text. -/
def isToken (s : String) : Bool :=
  match s.toList with
  | [] => false
  | c :: cs => isUpper c && 1 ≤ cs.length && cs.length ≤ 63 && cs.all fun c => isUpper c || isDecimal c || c == '_'

/-- `REF`: `(?:ref|hmac-sha256):[a-z0-9._:-]{3,96}`, the whole text. -/
def isRef (s : String) : Bool :=
  ["ref:", "hmac-sha256:"].any fun start =>
    let rest := s.toList.drop start.toList.length
    start.toList.isPrefixOf s.toList && 3 ≤ rest.length && rest.length ≤ 96 && rest.all isIdChar

def categories : List String := ["application_agent", "identity_iam", "serving_network", "kubernetes_platform", "supply_chain"]

def severities : List String := ["info", "low", "medium", "high", "critical"]

def provenances : List String := ["NATIVE_LIVE", "LIVE_CONTROL_OBSERVATION", "DETERMINISTIC_FIXTURE"]

abbrev Check := Except Raised

/-- The attributes of a body: a dict of short texts. -/
def readAttributes (body : Json) : Check (List (String × String)) :=
  match body.get? "attributes" with
  | some attrs => do
    raiseIf (attrs.isObj = false ∨ maxAttributes < attrs.names.length) (.denied "ATTRIBUTES_INVALID")
    let items ← gather (fun key =>
      match attrs.str? key with
      | some item =>
        if maxAttributeKey < key.length ∨ maxAttributeValue < item.length ∨ isId key = false then .error (.denied "ATTRIBUTES_INVALID")
        else .ok (key, item)
      | none => .error (.denied "ATTRIBUTES_INVALID")) attrs.names
    pure (sortOn (·.1) items)
  | none => .error (.denied "EVENT_SCHEMA_INVALID")

/-- A field that must be one text. -/
def exactField (body : Json) (name expected : String) : Check String :=
  if body.str? name = some expected then .ok expected else .error (.denied "EVENT_SCHEMA_INVALID")

/-- A field that a regular expression reads; it reads texts only. -/
def matchedField (body : Json) (shape : String → Bool) (reason name : String) : Check String :=
  match body.str? name with
  | some s => if shape s = true then .ok s else .error (.denied reason)
  | none => .error .typeError

/-- A field that is looked up in a set; a list or a dict has no hash. -/
def enumField (body : Json) (allowed : List String) (name : String) : Check String :=
  match body.get? name with
  | some (.str s) => if s ∈ allowed then .ok s else .error (.denied "EVENT_ENUM_INVALID")
  | some .nil | some (.cons _ _) | some .empty | some (.field _ _ _) => .error .typeError
  | _ => .error (.denied "EVENT_ENUM_INVALID")

def tokenField (body : Json) (name : String) : Check String :=
  match body.str? name with
  | some s => if s.length ≤ maxString ∧ isToken s = true then .ok s else .error (.denied "EVENT_TOKEN_INVALID")
  | none => .error (.denied "EVENT_TOKEN_INVALID")

def intField (body : Json) (name : String) : Check Int :=
  match body.int? name with
  | some n => .ok n
  | none => .error (.denied "EVENT_TIME_SEQUENCE_INVALID")

variable (rt : Runtime)

/-- `SecurityEvent.from_dict`, the checks of `validate` in their order. -/
def fromDict (body : Json) : Check SecurityEvent := do
  raiseIf (body.isObj = false ∨ ¬ sameSet body.names fieldNames) (.denied "EVENT_SCHEMA_INVALID")
  let attributes ← readAttributes body
  let schemaVersion ← exactField body "schema_version" eventSchema
  let policyVersion ← exactField body "policy_version" policyVersion
  let eventId ← matchedField body isId "EVENT_IDENTITY_INVALID" "event_id"
  let sourceId ← matchedField body isId "EVENT_IDENTITY_INVALID" "source_id"
  let category ← enumField body categories "category"
  let severity ← enumField body severities "severity"
  let provenanceClassification ← enumField body provenances "provenance_classification"
  let eventType ← tokenField body "event_type"
  let action ← tokenField body "action"
  let outcome ← tokenField body "outcome"
  let reasonCode ← tokenField body "reason_code"
  let sourceKind ← tokenField body "source_kind"
  let ref := matchedField body isRef "EVENT_REFERENCE_INVALID"
  let tenantRef ← ref "tenant_ref"
  let principalRef ← ref "principal_ref"
  let workloadRef ← ref "workload_ref"
  let namespaceRef ← ref "namespace_ref"
  let resourceRef ← ref "resource_ref"
  let requestRef ← ref "request_ref"
  let sessionRef ← ref "session_ref"
  let traceRef ← ref "trace_ref"
  let eventTime ← intField body "event_time"
  let sequence ← intField body "sequence"
  raiseIf (sequence < 1) (.denied "EVENT_TIME_SEQUENCE_INVALID")
  let event : SecurityEvent := ⟨schemaVersion, eventId, eventTime, sourceId, sourceKind, eventType, category, action, outcome, severity,
    reasonCode, tenantRef, principalRef, workloadRef, namespaceRef, resourceRef, requestRef, sessionRef, traceRef, policyVersion,
    sequence, provenanceClassification, attributes⟩
  raiseIf (maxEventBytes < rt.canonicalBytes event.toDict) (.denied "EVENT_TOO_LARGE")
  raiseIf (rt.sensitiveMaterialFree event.toDict = false) (.denied "SENSITIVE_MATERIAL_DENIED")
  pure event

/-! ## Sources -/

structure SignedEventEnvelope where
  sourceId : String
  eventId : String
  eventTime : Int
  sequence : Int
  bodySha256 : String
  body : Json
  signature : String

/-- `material`: what a producer signs. -/
def SignedEventEnvelope.material (v : SignedEventEnvelope) : Json :=
  .obj [("body_sha256", .str v.bodySha256), ("event_id", .str v.eventId), ("event_time", .int v.eventTime), ("sequence", .int v.sequence),
    ("source_id", .str v.sourceId)]

structure SourcePolicy where
  sourceId : String
  sourceKind : String
  publicKey : String
  allowedCategories : List String
  allowedProvenance : List String

/-- `SourceRegistry`: a policy for each source. -/
structure SourceRegistry where
  policies : List SourcePolicy
  nodup : (policies.map (·.sourceId)).Nodup

/-- `SourceRegistry.verify`. -/
def SourceRegistry.verify (reg : SourceRegistry) (v : SignedEventEnvelope) (now : Int) : Check SecurityEvent := do
  let policy ← orRaise (.denied "SOURCE_UNKNOWN") (reg.policies.find? fun p => p.sourceId = v.sourceId)
  let event ← fromDict rt v.body
  raiseIf (v.bodySha256 ≠ rt.sha256 v.body ∨
    (event.eventId, event.eventTime, event.sequence, event.sourceId) ≠ (v.eventId, v.eventTime, v.sequence, v.sourceId))
    (.denied "ENVELOPE_BINDING_INVALID")
  raiseIf (rt.verifies policy.publicKey v.signature v.material = false) (.denied "SIGNATURE_INVALID")
  raiseIf (event.sourceKind ≠ policy.sourceKind ∨ event.category ∉ policy.allowedCategories ∨
    event.provenanceClassification ∉ policy.allowedProvenance) (.denied "SOURCE_AUTHORIZATION_DENIED")
  raiseIf (event.eventTime > now + maxFutureSkew) (.denied "EVENT_FUTURE")
  raiseIf (event.eventTime < now - maxStaleAge) (.denied "EVENT_STALE")
  pure event

/-! ## Rules -/

inductive RuleKind where
  | single | threshold | correlation
  deriving DecidableEq, Repr

structure Rule where
  ruleId : String
  title : String
  version : Int
  enabled : Bool
  severity : String
  domain : String
  kind : RuleKind
  eventTypes : List String
  windowSeconds : Int
  groupBy : List String
  threshold : Int
  responseCategory : String
  deriving DecidableEq, Repr

def domains : List String := categories ++ ["cross_source_correlation"]

def validateRule (r : Rule) : Check Unit := do
  raiseIf (isId r.ruleId = false ∨ r.severity ∉ severities ∨ r.domain ∉ domains ∨ r.windowSeconds < 1 ∨ r.windowSeconds > 3600 ∨
    r.threshold < 1 ∨ r.groupBy = [] ∨ r.enabled = false) (.denied "RULE_POLICY_INVALID")
  raiseIf (r.kind = .correlation ∧ r.eventTypes.length < 3) (.denied "RULE_CORRELATION_INVALID")

/-- `load_rules`, once the items have the fields of a rule. -/
def loadRules (rules : List Rule) : Check Unit := do
  raiseIf (rules = []) (.denied "RULES_MISSING")
  forEach validateRule rules
  raiseIf (¬ (rules.map (·.ruleId)).Nodup) (.denied "RULE_ID_DUPLICATE")
  raiseIf (¬ sameSet (rules.map (·.domain)) domains) (.denied "RULE_DOMAIN_COVERAGE")

/-! ## The store -/

/-- A row of `events`; its payload is the canonical text of the event and reads back as it. -/
structure EventRow where
  storeOrder : Nat
  event : SecurityEvent
  chainHash : String
  deriving DecidableEq, Repr

structure AlertRow where
  alertId : String
  ruleId : String
  dedupKey : String
  severity : String
  firstTime : Int
  lastTime : Int
  eventRefs : List String
  detectionSequence : Nat
  chainHash : String
  deriving DecidableEq, Repr

structure Stats where
  attempted : Nat
  accepted : Nat
  rejected : Nat
  deduplicated : Nat
  replayed : Nat
  alertCandidates : Nat
  alertsCreated : Nat
  alertsDeduplicated : Nat
  deriving DecidableEq, Repr

structure EventStore where
  events : List EventRow
  alerts : List AlertRow
  stats : Stats
  deriving DecidableEq, Repr

def EventStore.empty : EventStore := ⟨[], [], ⟨0, 0, 0, 0, 0, 0, 0, 0⟩⟩

/-- `"0"*64`. -/
def genesis : String := String.ofList (List.replicate 64 '0')

/-- The digest of a row of `events` after `prior`. -/
def eventLink (prior : String) (e : SecurityEvent) : String := rt.sha256 (.arr [.str "p11f-event-chain", .str prior, e.toDict])

/-- `append`: the order of the new row, where the identifier is new. -/
def append (e : SecurityEvent) (s : EventStore) : EventStore × Option Nat :=
  let attempted := s.stats.attempted + 1
  if e.eventId ∈ s.events.map (·.event.eventId) then
    ({ s with stats := { s.stats with attempted := attempted, deduplicated := s.stats.deduplicated + 1,
                                      replayed := s.stats.replayed + 1 } }, none)
  else
    let last := s.events.getLast?
    let order := ((last.map (·.storeOrder)).getD 0) + 1
    let row : EventRow := ⟨order, e, eventLink rt ((last.map (·.chainHash)).getD genesis) e⟩
    ({ s with events := s.events ++ [row], stats := { s.stats with attempted := attempted, accepted := s.stats.accepted + 1 } },
      some order)

/-- `events`: in the order of their times, then of the store. -/
def EventStore.ordered (s : EventStore) : List SecurityEvent :=
  (sortOn (fun r => toLex (r.event.eventTime, r.storeOrder)) s.events).map (·.event)

/-- `material` of an alert. -/
def AlertRow.material (r : AlertRow) : Json :=
  .obj [("alert_id", .str r.alertId), ("event_refs", .arr (r.eventRefs.map .str)), ("first", .int r.firstTime), ("last", .int r.lastTime),
    ("rule_id", .str r.ruleId), ("sequence", .int r.detectionSequence), ("severity", .str r.severity)]

/-- The digest of a row of `alerts` after `prior`. -/
def alertLink (prior : String) (material : Json) : String := rt.sha256 (.arr [.str "p11f-alert-chain", .str prior, material])

/-- `ORDER BY detection_sequence DESC LIMIT 1`: the first inserted of those with the largest number. -/
def latest (rows : List AlertRow) : Option AlertRow :=
  rows.foldl (fun best r =>
    match best with
    | none => some r
    | some b => if b.detectionSequence < r.detectionSequence then some r else some b) none

/-- The values of `group_by`; the engine has raised for a name that is not a field. -/
def groupOf (r : Rule) (e : SecurityEvent) : List Json := r.groupBy.filterMap e.getattr

def firstTime (events : List SecurityEvent) : Int := (events.map (·.eventTime)).min?.getD 0

def lastTime (events : List SecurityEvent) : Int := (events.map (·.eventTime)).max?.getD 0

/-- `dedup`: the rule, the grouping of the last event and the bucket of the first time. -/
def dedupKey (r : Rule) (events : List SecurityEvent) : String :=
  rt.sha256 (.obj [("bucket", .int ((firstTime events).fdiv r.windowSeconds)),
    ("group", .arr ((events.getLast?.map (groupOf r)).getD [])), ("rule", .str r.ruleId)])

def alertIdOf (dedup : String) : String := "alert-" ++ String.ofList (dedup.toList.take 24)

/-- `persist_alert`: whether the alert was new. -/
def persistAlert (r : Rule) (events : List SecurityEvent) (sequence : Nat) (s : EventStore) : EventStore × Bool :=
  let dedup := dedupKey rt r events
  let candidates := s.stats.alertCandidates + 1
  if ∃ row ∈ s.alerts, row.alertId = alertIdOf dedup ∨ row.dedupKey = dedup then
    ({ s with stats := { s.stats with alertCandidates := candidates, alertsDeduplicated := s.stats.alertsDeduplicated + 1 } }, false)
  else
    let row : AlertRow :=
      { alertId := alertIdOf dedup, ruleId := r.ruleId, dedupKey := dedup, severity := r.severity, firstTime := firstTime events,
        lastTime := lastTime events, eventRefs := sortOn id (events.map (·.eventId)).dedup, detectionSequence := sequence, chainHash := "" }
    let chained := { row with chainHash := alertLink rt (((latest s.alerts).map (·.chainHash)).getD genesis) row.material }
    ({ s with alerts := s.alerts ++ [chained],
              stats := { s.stats with alertCandidates := candidates, alertsCreated := s.stats.alertsCreated + 1 } }, true)

/-- The loop of both verifications: every row carries the digest of itself after the row before. -/
def verifyChain {α : Type} (link : String → α → String) (stored : α → String) (tampered : String) : String → List α → Check String
  | prior, [] => .ok prior
  | prior, row :: rows => if stored row ≠ link prior row then .error (.denied tampered) else verifyChain link stored tampered (stored row) rows

/-- `verify_event_chain`. -/
def verifyEventChain (s : EventStore) : Check String :=
  verifyChain (fun prior r => eventLink rt prior r.event) (·.chainHash) "EVENT_CHAIN_TAMPERED" genesis (sortOn (·.storeOrder) s.events)

/-- `verify_alert_chain`. -/
def verifyAlertChain (s : EventStore) : Check String :=
  verifyChain (fun prior (r : AlertRow) => alertLink rt prior r.material) (·.chainHash) "ALERT_CHAIN_TAMPERED" genesis
    (sortOn (·.detectionSequence) s.alerts)

/-! ## The engine -/

/-- The events of the grouping of `current` in the window that ends with it. -/
def relevant (r : Rule) (current : SecurityEvent) (ordered : List SecurityEvent) : List SecurityEvent :=
  ordered.filter fun e => current.eventTime - r.windowSeconds ≤ e.eventTime ∧ e.eventTime ≤ current.eventTime ∧
    r.groupBy.all fun x => e.getattr x = current.getattr x

/-- The loop over the stages of a correlation: each is the first event of its type after the stage before. -/
def stages : List String → List SecurityEvent → Option (List SecurityEvent)
  | [], _ => some []
  | type :: types, events =>
    match events.dropWhile fun e => e.eventType ≠ type with
    | [] => none
    | e :: rest => (stages types rest).map (e :: ·)

/-- `matched`. -/
def matched (r : Rule) (current : SecurityEvent) (ordered : List SecurityEvent) : List SecurityEvent :=
  match r.kind with
  | .single => if current.eventType ∈ r.eventTypes then [current] else []
  | .threshold =>
    let events := (relevant r current ordered).filter fun e => e.eventType ∈ r.eventTypes
    if (events.length : Int) < r.threshold then [] else events
  | .correlation => (stages r.eventTypes (relevant r current ordered)).getD []

/-- The loop of `DetectionEngine.evaluate`: the rules that made an alert. A name of `group_by` that is no field raises. -/
def evaluateRules (ordered : List SecurityEvent) (current : SecurityEvent) (sequence : Nat) :
    List Rule → EventStore → EventStore × Check (List String)
  | [], s => (s, .ok [])
  | r :: rules, s =>
    match r.groupBy.find? fun x => x ∉ fieldNames with
    | some x => (s, .error (.attributeError x))
    | none =>
      match matched r current ordered with
      | [] => evaluateRules ordered current sequence rules s
      | e :: events =>
        let persisted := persistAlert rt r (e :: events) sequence s
        let rest := evaluateRules ordered current sequence rules persisted.1
        (rest.1, rest.2.map fun created => if persisted.2 = true then r.ruleId :: created else created)

/-- `DetectionEngine.evaluate`. -/
def evaluate (rules : List Rule) (current : SecurityEvent) (sequence : Nat) (s : EventStore) : EventStore × Check (List String) :=
  evaluateRules rt s.ordered current sequence rules s

inductive Answer where
  | accepted (alerts : List String)
  | deduplicated
  deriving DecidableEq, Repr

/-- `ingest` of an event that was verified. -/
def ingestEvent (rules : List Rule) (e : SecurityEvent) (s : EventStore) : EventStore × Check Answer :=
  match append rt e s with
  | (s', none) => (s', .ok .deduplicated)
  | (s', some order) =>
    let evaluated := evaluate rt rules e order s'
    (evaluated.1, evaluated.2.map .accepted)

/-- `CollectorService.ingest`. -/
def ingest (reg : SourceRegistry) (rules : List Rule) (v : SignedEventEnvelope) (now : Int) (s : EventStore) :
    EventStore × Check Answer :=
  match reg.verify rt v now with
  | .ok e => ingestEvent rt rules e s
  | .error (.denied reason) =>
    ({ s with stats := { s.stats with attempted := s.stats.attempted + 1, rejected := s.stats.rejected + 1 } }, .error (.denied reason))
  | .error e => (s, .error e)

end Aegis.Detection
