/-
  Aegis.Effects.Receipts — signed checkpoint receipts: the source that mints them
  (default_high_impact.py), the witness that pins them (receipt_witness.py), the observer and
  the fence on them (checkpoint_receipt_boundary.py).

  The source's table lies in the protected domain with the checkpoint, the witness in a file
  of its own; each transaction commits by itself. Ed25519 is a `SignatureScheme`: a signing
  and a verifying function of which one thing is known, that what was signed verifies. The
  formats of keys and digests are not modelled.
-/

import Aegis.Effects.Protected

namespace Aegis.Effects

open Data Txn Prog

/-! ## Receipts -/

def checkpointReceiptSchema : String := "aegis.protected-checkpoint-receipt.v1"

/-- `GENESIS_RECEIPT_PREDECESSOR`. -/
def genesisReceiptPredecessor : String := zeroDigest

def ReceiptPayload.toJson (p : ReceiptPayload) : Json :=
  .obj [("audience", .str p.audience), ("authority_id", .str p.authorityId), ("generation", .int p.generation),
    ("journal_head_sha256", .str p.journalHeadSha256), ("key_epoch", .int p.keyEpoch), ("key_id", .str p.keyId),
    ("previous_receipt_sha256", .str p.previousReceiptSha256), ("schema_version", .str checkpointReceiptSchema)]

def Receipt.toJson (r : Receipt) : Json :=
  .obj [("payload", r.payload.toJson), ("signature_hex", .str r.signatureHex)]

/-- `checkpoint_receipt_sha256`. -/
def Receipt.sha256 (H : Hashing) (r : Receipt) : String := H.sha256 r.toJson

theorem ReceiptPayload.toJson_injective : Function.Injective ReceiptPayload.toJson := by
  rintro ⟨⟩ ⟨⟩ h
  simp only [toJson, Json.obj_cons, Json.field.injEq, Json.str.injEq, Json.int.injEq, Int.natCast_inj, true_and,
    and_true] at h
  simp_all

theorem Receipt.toJson_injective : Function.Injective Receipt.toJson := by
  rintro ⟨p, s⟩ ⟨p', s'⟩ h
  simp only [toJson, Json.obj_cons, Json.field.injEq, Json.str.injEq, true_and, and_true] at h
  rw [ReceiptPayload.toJson_injective h.1, h.2]

structure SignatureScheme where
  sign : Json → String
  verify : Json → String → Bool
  verify_sign : ∀ payload, verify payload (sign payload) = true

/-- `TrustedCheckpointReceiptKey`; the key itself is the scheme's. -/
structure TrustedCheckpointReceiptKey where
  authorityId : String
  audience : String
  keyId : String
  keyEpoch : Nat
  deriving DecidableEq, Repr

variable (H : Hashing) (key : TrustedCheckpointReceiptKey) (scheme : SignatureScheme)

/-! ## The source -/

namespace ReceiptSource

/-- `_load_receipt`. -/
def loadReceipt (receipts : List Receipt) (generation : Nat) : Option Receipt :=
  Table.lookup (·.payload.generation) receipts generation

/-- The transaction of `_persist`: INSERT OR IGNORE, with a UNIQUE digest. -/
def persist (receipts : List Receipt) (receipt : Receipt) : Except Error (List Receipt) :=
  match loadReceipt receipts receipt.payload.generation with
  | some existing => if existing ≠ receipt then .error (.receipt .equivocationDetected) else .ok receipts
  | none =>
    if receipts.any (·.sha256 H = receipt.sha256 H) then .ok receipts
    else .ok (receipts ++ [receipt])

def mint (checkpoint : Checkpoint) (predecessor : String) : Receipt :=
  let payload : ReceiptPayload := {
    authorityId := key.authorityId
    audience := key.audience
    keyId := key.keyId
    keyEpoch := key.keyEpoch
    generation := checkpoint.generation
    journalHeadSha256 := checkpoint.journalHeadSha256
    previousReceiptSha256 := predecessor }
  ⟨payload, scheme.sign payload.toJson⟩

/-- The digest of the receipt before this generation's. -/
def predecessor (generation : Nat) : Prog Label World Error String :=
  if generation = 1 then pure genesisReceiptPredecessor
  else do
    let previous ← read .step fun w => loadReceipt w.receipts (generation - 1)
    match previous with
    | none => fail (.receipt .historyInvalid)
    | some previous => pure (previous.sha256 H)

def current : Prog Label World Error Receipt := do
  let checkpoint ← query .step fun w => currentCheckpoint w.checkpoint
  let existing ← read .step fun w => loadReceipt w.receipts checkpoint.generation
  match existing with
  | some existing =>
    if existing.payload.journalHeadSha256 ≠ checkpoint.journalHeadSha256 ∨ existing.payload.authorityId ≠ key.authorityId then
      fail (.receipt .historyInvalid)
    else pure existing
  | none => do
    let predecessor ← predecessor H checkpoint.generation
    let receipt := mint key scheme checkpoint predecessor
    atomic .step fun w => do
      let receipts ← persist H w.receipts receipt
      pure ((), { w with receipts })
    pure receipt

end ReceiptSource

/-! ## The witness and the observer -/

/-- `ReceiptWitnessError`. -/
inductive WitnessError where
  | authenticationFailed | equivocationDetected | historyInvalid
  deriving DecidableEq, Repr

def WitnessError.value : WitnessError → String
  | authenticationFailed => "receipt_authentication_failed"
  | equivocationDetected => "receipt_equivocation_detected"
  | historyInvalid => "receipt_history_invalid"

/-- `ReceiptWitness.observe`: the row of a generation seen for the first time, or of one seen before. -/
def observeReceipt (witness : List WitnessRow) (receipt : Receipt) (authentic : Bool) :
    Except WitnessError (List WitnessRow) :=
  if authentic = false then .error .authenticationFailed
  else
    match Table.lookup WitnessRow.generation witness receipt.payload.generation with
    | some same =>
      if same.receiptSha256 ≠ receipt.sha256 H then .error .equivocationDetected else .ok witness
    | none =>
      let row : WitnessRow := ⟨receipt.payload.generation, receipt.sha256 H⟩
      match witness.argmax WitnessRow.generation with
      | none =>
        if receipt.payload.generation ≠ 1 ∨ receipt.payload.previousReceiptSha256 ≠ genesisReceiptPredecessor then
          .error .historyInvalid
        else .ok (witness ++ [row])
      | some previous =>
        if receipt.payload.generation ≠ previous.generation + 1 then .error .historyInvalid
        else if receipt.payload.previousReceiptSha256 ≠ previous.receiptSha256 then .error .historyInvalid
        else .ok (witness ++ [row])

/-- How `observe` reports what the witness raised: it looks at the text. -/
def WitnessError.reason (e : WitnessError) : ReceiptReason :=
  if e.value = "receipt_authentication_failed" then .signatureInvalid
  else if e.value = "receipt_equivocation_detected" then .equivocationDetected
  else .historyInvalid

/-- `Ed25519CheckpointReceiptObserver.observe`. -/
def observe (receipt : Receipt) : Prog Label World Error ReceiptPayload := do
  let payload := receipt.payload
  raiseIf (payload.authorityId ≠ key.authorityId) (.receipt .authorityMismatch)
  raiseIf (payload.audience ≠ key.audience) (.receipt .audienceMismatch)
  raiseIf (payload.keyId ≠ key.keyId ∨ payload.keyEpoch ≠ key.keyEpoch) (.receipt .keyMismatch)
  let authentic := scheme.verify payload.toJson receipt.signatureHex
  atomic .step fun w =>
    match observeReceipt H w.witness receipt authentic with
    | .ok witness => .ok ((), { w with witness })
    | .error e => .error (.receipt e.reason)
  pure payload

/-! ## The fence -/

namespace ReceiptFence

/-- `locked_active_generation`. The lock on the generation store is held from its first read on, so the
    store is read once; the source and the observer commit their own transactions under it. -/
def currentActiveGeneration : Prog Label World Error Nat := do
  let state ← ControlPlane.readState
  let (localGeneration, heads) ← query .step fun w => do
    let g ← w.generation.lockedActiveGeneration state
    let (_, heads) ← w.generation.activeJournalHeads H key.authorityId g
    pure (g, heads)
  let receipt ← ReceiptSource.current H key scheme
  let payload ← observe H key scheme receipt
  raiseIf (payload.generation ≠ localGeneration) (.receipt .localGenerationMismatch)
  raiseIf (some payload.journalHeadSha256 ≠ headAt heads localGeneration) (.receipt .localJournalHeadMismatch)
  pure localGeneration

end ReceiptFence

namespace Sample

def receiptKey : TrustedCheckpointReceiptKey := ⟨"authority", "effects", "checkpoint-key", 1⟩

/-- A signature that anyone can make, and quickly. -/
def signatures : SignatureScheme where
  sign payload := letter (payload.weight + 7)
  verify payload signature := signature = letter (payload.weight + 7)
  verify_sign _ := by simp

/-- The sample world with its checkpoint initialized. -/
def protectedWorld (H : Hashing) : World :=
  { world with checkpoint := some ⟨1, genesisJournalHead H receiptKey.authorityId⟩ }

end Sample

end Aegis.Effects
