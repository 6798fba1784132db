/-
  Aegis.Checkpoints.Envelope — the envelope an encrypted checkpoint is stored in
  (checkpoint_confidentiality.py, checkpoint_keys.py).

  - `parseEnvelope_ok`: what is parsed is what was framed, and no other bytes are accepted.
  - `envelope_format`: the cipher of one key and the provider of that key alone open the same envelopes.
-/

import Aegis.Data.Checks

namespace Aegis.Checkpoints.Envelope

open Data.Checks

abbrev Bytes := List UInt8

inductive CheckpointConfidentialityReason where
  | ciphertextEnvelopeInvalid | encryptionKeyMismatch | unknownEncryptionKey | revokedEncryptionKey | decryptionFailed
  deriving DecidableEq, Repr

inductive CheckpointKeyState where
  | active | decryptOnly | revoked
  deriving DecidableEq, Repr

abbrev Check := Except CheckpointConfidentialityReason

/-! ## Bytes -/

/-- `text.encode("utf-8", "strict")` -/
def encode (text : String) : Bytes := text.toUTF8.data.toList

/-- `bytes.decode("utf-8", "strict")`; `none` is a UnicodeDecodeError. -/
def decode (bytes : Bytes) : Option String := String.fromUTF8? ⟨bytes.toArray⟩

/-- `n.to_bytes(2, "big")`, of what two bytes hold. -/
def toBytes (n : Nat) : Bytes := [UInt8.ofNat (n / 256), UInt8.ofNat n]

/-- `int.from_bytes(bytes, "big")` -/
def fromBytes (bytes : Bytes) : Nat := bytes.foldl (fun n b => 256 * n + b.toNat) 0

theorem decode_eq_some {bytes : Bytes} {text : String} : decode bytes = some text ↔ bytes = encode text := by
  unfold decode encode String.fromUTF8?
  constructor
  · intro h
    split_ifs at h
    obtain rfl := Option.some.inj h
    rfl
  · rintro rfl
    exact dif_pos text.isValidUTF8

theorem fromBytes_toBytes {n : Nat} (h : n ≤ 65535) : fromBytes (toBytes n) = n := by
  simp only [fromBytes, toBytes, List.foldl_cons, List.foldl_nil, UInt8.toNat_ofNat']
  omega

theorem toBytes_fromBytes (a b : UInt8) : toBytes (fromBytes [a, b]) = [a, b] := by
  have ha := a.toNat_lt
  have hb := b.toNat_lt
  simp only [fromBytes, toBytes, List.foldl_cons, List.foldl_nil, List.cons.injEq, and_true, ← UInt8.toNat_inj, UInt8.toNat_ofNat']
  omega

/-! ## The envelope -/

/-- `AEGIS-P4C-AESGCM-v1` and a zero byte. -/
def ciphertextMagic : Bytes := encode "AEGIS-P4C-AESGCM-v1\x00"

def nonceBytes : Nat := 12

/-- What an encryption returns. -/
def frame (keyIdBytes nonce ciphertext : Bytes) : Bytes :=
  ciphertextMagic ++ toBytes keyIdBytes.length ++ keyIdBytes ++ nonce ++ ciphertext

/-- The lengths that an envelope can have. -/
def Framed (keyIdBytes nonce ciphertext : Bytes) : Prop :=
  (0 < keyIdBytes.length ∧ keyIdBytes.length ≤ 65535) ∧ nonce.length = nonceBytes ∧ 16 ≤ ciphertext.length

/-- What both decryptions check first, and the three parts they go on with. -/
def parts (raw : Bytes) : Check (Bytes × Bytes × Bytes) :=
  if ciphertextMagic <+: raw then
    match raw.drop ciphertextMagic.length with
    | a :: b :: rest => do
      let keyIdLength := fromBytes [a, b]
      raiseIf (keyIdLength ≤ 0 ∨ rest.length < keyIdLength + nonceBytes + 16) .ciphertextEnvelopeInvalid
      return (rest.take keyIdLength, (rest.drop keyIdLength).take nonceBytes, rest.drop (keyIdLength + nonceBytes))
    | _ => .error .ciphertextEnvelopeInvalid
  else .error .ciphertextEnvelopeInvalid

theorem parts_ok {raw keyIdBytes nonce ciphertext : Bytes} :
    parts raw = .ok (keyIdBytes, nonce, ciphertext) ↔ raw = frame keyIdBytes nonce ciphertext ∧ Framed keyIdBytes nonce ciphertext := by
  unfold parts
  constructor
  · intro h
    split at h
    next hmagic =>
      obtain ⟨body, rfl⟩ := hmagic
      rw [List.drop_left] at h
      split at h
      next a b rest =>
        simp only [ok_seq, raiseIf_ok, not_or, Nat.not_le, Nat.not_lt] at h
        obtain ⟨⟨hpos, hmin⟩, h⟩ := h
        cases h
        have hle : fromBytes [a, b] ≤ 65535 := by
          have ha := a.toNat_lt
          have hb := b.toNat_lt
          simp only [fromBytes, List.foldl_cons, List.foldl_nil]
          omega
        have htake : (rest.take (fromBytes [a, b])).length = fromBytes [a, b] := List.length_take_of_le (by omega)
        refine ⟨?_, by omega, ?_, ?_⟩
        · rw [frame, htake, toBytes_fromBytes, ← List.drop_drop]
          simp only [List.append_assoc, List.cons_append, List.nil_append, List.take_append_drop]
        · rw [List.length_take, List.length_drop]
          omega
        · rw [List.length_drop]
          omega
      · cases h
    · cases h
  · rintro ⟨rfl, ⟨hpos, hle⟩, hnonce, hciphertext⟩
    have hlength := fromBytes_toBytes hle
    unfold toBytes at hlength
    simp only [frame, toBytes, List.append_assoc, List.prefix_append, if_true, List.drop_left, List.cons_append, List.nil_append, hlength,
      ok_seq, raiseIf_ok, List.length_append, List.take_left, ← hnonce, List.drop_length_add_append]
    exact ⟨by omega, rfl⟩

/-- `_parse_envelope` -/
def parseEnvelope (raw : Bytes) : Check (String × Bytes × Bytes) := do
  let (keyIdBytes, nonce, ciphertext) ← parts raw
  let keyId ← orRaise .ciphertextEnvelopeInvalid (decode keyIdBytes)
  return (keyId, nonce, ciphertext)

/-- `AESGCM`; `none` is an InvalidTag or a ValueError. -/
structure AesGcm where
  encrypt (key nonce plaintext aad : Bytes) : Bytes
  decrypt (key nonce ciphertext aad : Bytes) : Option Bytes

/-! ## P4-C -/

structure LocalSyntheticCheckpointCipher where
  key : Bytes
  keyId : String

namespace LocalSyntheticCheckpointCipher

variable (aead : AesGcm) (cipher : LocalSyntheticCheckpointCipher)

/-- `encrypt`, of a nonce drawn. -/
def encrypt (nonce plaintext aad : Bytes) : Bytes := frame (encode cipher.keyId) nonce (aead.encrypt cipher.key nonce plaintext aad)

def decrypt (envelope aad : Bytes) : Check Bytes := do
  let (observedKeyId, nonce, ciphertext) ← parts envelope
  raiseIf (observedKeyId ≠ encode cipher.keyId) .encryptionKeyMismatch
  orRaise .decryptionFailed (aead.decrypt cipher.key nonce ciphertext aad)

end LocalSyntheticCheckpointCipher

/-! ## P4-D -/

structure LocalSyntheticCheckpointKey where
  keyId : String
  key : Bytes
  state : CheckpointKeyState

/-- A keyring: its keys, of which no two have one id. -/
structure LocalSyntheticCheckpointKeyProvider where
  activeKeyId : String
  keys : List LocalSyntheticCheckpointKey

namespace LocalSyntheticCheckpointKeyProvider

variable (aead : AesGcm) (provider : LocalSyntheticCheckpointKeyProvider)

/-- `self._keys.get(key_id)` -/
def key? (keyId : String) : Option LocalSyntheticCheckpointKey := provider.keys.find? fun material => material.keyId = keyId

/-- `encrypt`, of a nonce drawn; `none` is a KeyError. -/
def encrypt (nonce plaintext aad : Bytes) : Option Bytes :=
  (provider.key? provider.activeKeyId).map fun material => frame (encode material.keyId) nonce (aead.encrypt material.key nonce plaintext aad)

def decrypt (envelope aad : Bytes) : Check Bytes := do
  let (keyId, nonce, ciphertext) ← parseEnvelope envelope
  let material ← orRaise .unknownEncryptionKey (provider.key? keyId)
  raiseIf (material.state = .revoked) .revokedEncryptionKey
  orRaise .decryptionFailed (aead.decrypt material.key nonce ciphertext aad)

end LocalSyntheticCheckpointKeyProvider

/-- `build_legacy_single_key_provider` -/
def buildLegacySingleKeyProvider (key : Bytes) (keyId : String) : LocalSyntheticCheckpointKeyProvider := ⟨keyId, [⟨keyId, key, .active⟩]⟩

theorem parseEnvelope_ok {raw nonce ciphertext : Bytes} {keyId : String} :
    parseEnvelope raw = .ok (keyId, nonce, ciphertext) ↔
      raw = frame (encode keyId) nonce ciphertext ∧ Framed (encode keyId) nonce ciphertext := by
  rw [← parts_ok]
  simp only [parseEnvelope, ok_bind, Prod.exists, orRaise_ok, decode_eq_some, pure, Except.pure, Except.ok.injEq, Prod.mk.injEq]
  constructor
  · rintro ⟨_, _, _, h, _, rfl, rfl, rfl, rfl⟩
    exact h
  · intro h
    exact ⟨_, _, _, h, _, rfl, rfl, rfl, rfl⟩

/-- An envelope is parsed to just what was framed, and no other bytes are parsed at all; what either encryption returns is parsed to
what went into it; and the two decryptions under one key give the same plaintext of the same bytes. -/
theorem envelope_format :
    (∀ raw keyId nonce ciphertext, parseEnvelope raw = .ok (keyId, nonce, ciphertext) ↔
      raw = frame (encode keyId) nonce ciphertext ∧ Framed (encode keyId) nonce ciphertext) ∧
    (∀ aead (cipher : LocalSyntheticCheckpointCipher) nonce plaintext aad,
      parseEnvelope (cipher.encrypt aead nonce plaintext aad) = .ok (cipher.keyId, nonce, aead.encrypt cipher.key nonce plaintext aad) ↔
        Framed (encode cipher.keyId) nonce (aead.encrypt cipher.key nonce plaintext aad)) ∧
    (∀ aead (provider : LocalSyntheticCheckpointKeyProvider) material, provider.key? provider.activeKeyId = some material →
      ∀ nonce plaintext aad, ∃ raw, provider.encrypt aead nonce plaintext aad = some raw ∧
        (parseEnvelope raw = .ok (material.keyId, nonce, aead.encrypt material.key nonce plaintext aad) ↔
          Framed (encode material.keyId) nonce (aead.encrypt material.key nonce plaintext aad))) ∧
    ∀ aead key keyId envelope aad plaintext, (LocalSyntheticCheckpointCipher.mk key keyId).decrypt aead envelope aad = .ok plaintext ↔
      (buildLegacySingleKeyProvider key keyId).decrypt aead envelope aad = .ok plaintext := by
  refine ⟨fun _ _ _ _ => parseEnvelope_ok, fun aead cipher nonce plaintext aad => ?_, fun aead provider material hactive nonce plaintext aad => ?_,
    fun aead key keyId envelope aad plaintext => ?_⟩
  · exact parseEnvelope_ok.trans (and_iff_right rfl)
  · refine ⟨_, ?_, parseEnvelope_ok.trans (and_iff_right rfl)⟩
    unfold LocalSyntheticCheckpointKeyProvider.encrypt
    rw [hactive]
    rfl
  have hkey : ∀ other material, (buildLegacySingleKeyProvider key keyId).key? other = some material ↔
      other = keyId ∧ material = ⟨keyId, key, .active⟩ := by
    intro other material
    unfold LocalSyntheticCheckpointKeyProvider.key? buildLegacySingleKeyProvider
    rw [List.find?_singleton]
    grind
  simp only [LocalSyntheticCheckpointCipher.decrypt, LocalSyntheticCheckpointKeyProvider.decrypt, ok_bind, raiseIf_ok, orRaise_ok,
    Prod.exists, not_not, parts_ok, parseEnvelope_ok, hkey, exists_const]
  constructor
  · rintro ⟨_, nonce, ciphertext, h, rfl, hplain⟩
    exact ⟨keyId, nonce, ciphertext, h, _, ⟨rfl, rfl⟩, by simp, hplain⟩
  · rintro ⟨_, nonce, ciphertext, h, _, ⟨rfl, rfl⟩, -, hplain⟩
    exact ⟨_, nonce, ciphertext, h, rfl, hplain⟩

end Aegis.Checkpoints.Envelope
