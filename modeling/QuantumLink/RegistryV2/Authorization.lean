import QuantumLink.RegistryV2.Record

/-! # Signed payloads and authorizations

The canonical payloads a wallet and a device sign, and the checks the registry
makes of an authorization. The hash, signature and address primitives live in
other crates and enter as parameters; everything the registry itself does before
and after calling them (hexadecimal, lengths, comparisons, the order of the
errors) is modelled. The wallet primitives come from different crates on the
native and on the wasm target, so each target builds its own `WalletBackend`.
-/

namespace QuantumLink.RegistryV2

open Json (stringBytes)
open List

/-! ## Primitives of other crates -/

/-- The `ml_dsa` crate: a signature of the right length may still fail to decode. -/
structure MlDsa65 where
  decodesSignature : Bytes → Bool
  verify : Bytes → Bytes → Bytes → Bool

/-- The two wallet functions that differ between targets. -/
structure WalletBackend where
  verifyWalletMldsa65Signature : Bytes → Bytes → Bytes → Except RegistryError Bool
  daddrFromPublicKey : Bytes → Except RegistryError String

/-- `dytallix_core`: signature verification and address derivation; `none` is an `Err`. -/
structure DytallixCore where
  verifyMldsa65 : Bytes → Bytes → Bytes → Option Bool
  daddrFromPublicKey : Bytes → Option String

/-- The crates behind the wasm target: `fips204`, `blake3` and `bech32`. -/
structure WasmCrates where
  decodesPublicKey : Bytes → Bool
  verify : Bytes → Bytes → Bytes → Bool
  blake3 : Bytes → Bytes
  /-- Bech32m text under the human-readable part, which the crate accepts as it stands. -/
  encodeBech32m : String → Bytes → Option String

/-- Everything the registry calls outside its own crate. -/
structure Env where
  sha256 : Bytes → Bytes
  deviceScheme : MlDsa65
  wallet : WalletBackend

/-- The native target: every failure of `dytallix_core` is an invalid signature. -/
def WalletBackend.native (core : DytallixCore) : WalletBackend where
  verifyWalletMldsa65Signature publicKey payload signature :=
    okOr (core.verifyMldsa65 publicKey payload signature) .invalidSignature
  daddrFromPublicKey publicKey := okOr (core.daddrFromPublicKey publicKey) .invalidSignature

def mldsa65PublicKeyLen : Nat := 1952
def mldsa65SignatureLen : Nat := 3309

/-- The wasm target checks both lengths before it calls the crates. -/
def WalletBackend.wasm (crates : WasmCrates) : WalletBackend where
  verifyWalletMldsa65Signature publicKey payload signature := do
    ensure (publicKey.length = mldsa65PublicKeyLen ∧ signature.length = mldsa65SignatureLen)
      .invalidSignature
    ensure (crates.decodesPublicKey publicKey = true) .invalidSignature
    pure (crates.verify publicKey payload signature)
  daddrFromPublicKey publicKey := do
    ensure (publicKey.length = mldsa65PublicKeyLen) .invalidSignature
    okOr (crates.encodeBech32m "dytallix" (crates.blake3 publicKey)) .invalidSignature

/-! ## Canonical payloads -/

def recordPayloadJson (operation : String) (record : StableIdentityRecord) : Json :=
  .obj [("contract", .str contractDomain),
    ("schema_version", .ofUInt8 registrySchemaVersion),
    ("operation", .str operation),
    ("record", record.toJson)]

def statusPayloadJson (operation peerId : String) (identityRevision : UInt64) : Json :=
  .obj [("contract", .str contractDomain),
    ("schema_version", .ofUInt8 registrySchemaVersion),
    ("operation", .str operation),
    ("peer_id", .str peerId),
    ("identity_revision", .ofUInt64 identityRevision)]

-- Writing these types never fails: their keys are strings and they hold no floats.
def canonicalRecordPayload (operation : String) (record : StableIdentityRecord) :
    Except RegistryError Bytes :=
  .ok (recordPayloadJson operation record).toBytes

def canonicalRegisterPayload (record : StableIdentityRecord) : Except RegistryError Bytes :=
  canonicalRecordPayload "register_identity" record

def canonicalUpdatePayload (record : StableIdentityRecord) : Except RegistryError Bytes :=
  canonicalRecordPayload "update_identity" record

def canonicalStatusPayload (operation peerId : String) (identityRevision : UInt64) :
    Except RegistryError Bytes := do
  validatePeerId peerId
  pure (statusPayloadJson operation peerId identityRevision).toBytes

def canonicalRevokePayload (peerId : String) (identityRevision : UInt64) :
    Except RegistryError Bytes :=
  canonicalStatusPayload "revoke_identity" peerId identityRevision

def canonicalSuspendPayload (peerId : String) (identityRevision : UInt64) :
    Except RegistryError Bytes :=
  canonicalStatusPayload "suspend_identity" peerId identityRevision

def canonicalDeviceAuthorizationPayload (record : StableIdentityRecord) :
    Except RegistryError Bytes :=
  .ok (Json.obj [("contract", .str contractDomain),
    ("schema_version", .ofUInt8 registrySchemaVersion),
    ("purpose", .str deviceAuthorizationPurpose),
    ("binding", record.toJson)]).toBytes

theorem canonicalStatusPayload_eq_ok_iff :
    canonicalStatusPayload operation peerId revision = .ok payload ↔
      ValidPeerId peerId ∧ (statusPayloadJson operation peerId revision).toBytes = payload := by
  simp [canonicalStatusPayload, bind_eq_ok_iff, pure, Except.pure]

/-! ## Authorization checks -/

def decodeHex (value : String) : Except RegistryError Bytes := okOr (Hex.decode value) .invalidHex

def quantumlinkPeerId (env : Env) (publicKey : Bytes) : String :=
  peerIdLabel ++ Base64.encodeUrlNoPad ((env.sha256 publicKey).take 16)

def devicePublicKeyHashHex (env : Env) (algorithm : String) (publicKey : Bytes) : String :=
  Hex.encode (env.sha256
    (Json.obj [("algorithm", .str algorithm), ("bytes", .ofByteList publicKey)]).toBytes)

def verifyQuantumlinkMldsa65Signature (env : Env) (publicKey payload signature : Bytes) :
    Except RegistryError Bool := do
  ensure (publicKey.length = mldsa65PublicKeyLen) .invalidSignature
  ensure (signature.length = mldsa65SignatureLen) .invalidSignature
  ensure (env.deviceScheme.decodesSignature signature = true) .invalidSignature
  pure (env.deviceScheme.verify publicKey payload signature)

def validateDeviceAuthorization (env : Env) (record : StableIdentityRecord)
    (authorization : DeviceAuthorization) : Except RegistryError Unit := do
  ensure (authorization.devicePublicKeyAlgorithm = "ML-DSA-65") .invalidSignature
  let publicKey ← decodeHex authorization.devicePublicKeyHex
  let signature ← decodeHex authorization.deviceSignatureHex
  ensure (quantumlinkPeerId env publicKey = record.peerId) .invalidPeerId
  ensure (devicePublicKeyHashHex env authorization.devicePublicKeyAlgorithm publicKey =
    record.devicePublicKeyHashHex) .invalidSignature
  let payload ← canonicalDeviceAuthorizationPayload record
  let verified ← verifyQuantumlinkMldsa65Signature env publicKey payload signature
  ensure (verified = true) .invalidSignature

def verifiedActorDaddr (wallet : WalletBackend) (authorization : WalletAuthorization)
    (payload : Bytes) : Except RegistryError String := do
  let publicKey ← decodeHex authorization.actorPublicKeyHex
  let signature ← decodeHex authorization.actorSignatureHex
  let verified ← wallet.verifyWalletMldsa65Signature publicKey payload signature
  ensure (verified = true) .invalidSignature
  wallet.daddrFromPublicKey publicKey

def requireMatchingOwner (expected actual : String) : Except RegistryError Unit :=
  ensure (expected = actual) .unauthorized

/-- `current.checked_add(1) == Some(proposed)`. -/
def requireNextRevision (current proposed : UInt64) : Except RegistryError Unit :=
  ensure (current.toNat + 1 = proposed.toNat) .invalidRevision

@[simp] theorem decodeHex_eq_ok_iff :
    decodeHex value = .ok bytes ↔ Hex.decode value = some bytes := by
  simp [decodeHex]

theorem verifiedActorDaddr_eq_ok_iff : verifiedActorDaddr wallet authorization payload = .ok actor ↔
      ∃ publicKey signature, Hex.decode authorization.actorPublicKeyHex = some publicKey ∧
        Hex.decode authorization.actorSignatureHex = some signature ∧
        wallet.verifyWalletMldsa65Signature publicKey payload signature = .ok true ∧
        wallet.daddrFromPublicKey publicKey = .ok actor := by
  simp only [verifiedActorDaddr, bind_eq_ok_iff, decodeHex_eq_ok_iff, ensure_eq_ok_iff]
  constructor
  · rintro ⟨publicKey, hk, signature, hs, v, hv, _, rfl, hd⟩
    exact ⟨publicKey, signature, hk, hs, hv, hd⟩
  · rintro ⟨publicKey, signature, hk, hs, hv, hd⟩
    exact ⟨publicKey, hk, signature, hs, true, hv, (), rfl, hd⟩

theorem validateDeviceAuthorization_eq_ok_iff :
    validateDeviceAuthorization env record authorization = .ok u ↔
      authorization.devicePublicKeyAlgorithm = "ML-DSA-65" ∧
      ∃ publicKey signature payload, Hex.decode authorization.devicePublicKeyHex = some publicKey ∧
        Hex.decode authorization.deviceSignatureHex = some signature ∧
        quantumlinkPeerId env publicKey = record.peerId ∧
        devicePublicKeyHashHex env authorization.devicePublicKeyAlgorithm publicKey =
          record.devicePublicKeyHashHex ∧
        canonicalDeviceAuthorizationPayload record = .ok payload ∧
        publicKey.length = mldsa65PublicKeyLen ∧ signature.length = mldsa65SignatureLen ∧
        env.deviceScheme.decodesSignature signature = true ∧
        env.deviceScheme.verify publicKey payload signature = true := by
  simp only [validateDeviceAuthorization, verifyQuantumlinkMldsa65Signature,
    bind_eq_ok_iff, decodeHex_eq_ok_iff, ensure_eq_ok_iff, exists_const]
  constructor
  · rintro ⟨ha, publicKey, hk, signature, hs, he, hh, payload, hp, _, ⟨hl, hsl, hd, hv⟩, rfl⟩
    exact ⟨ha, publicKey, signature, payload, hk, hs, he, hh, hp, hl, hsl, hd, Except.ok.inj hv⟩
  · rintro ⟨ha, publicKey, signature, payload, hk, hs, he, hh, hp, hl, hsl, hd, hv⟩
    exact ⟨ha, publicKey, hk, signature, hs, he, hh, payload, hp, true,
      ⟨hl, hsl, hd, congrArg Except.ok hv⟩, rfl⟩

/-! ## The grammar of derived identifiers -/

private theorem urlChar_isPeerIdByte :
    ∀ n < 64, isPeerIdByte (UInt8.ofNat (Base64.urlChar n).toNat) = true := by decide

theorem validPeerId_encodeUrlNoPad (h : bytes ≠ []) :
    ValidPeerId (peerIdLabel ++ Base64.encodeUrlNoPad bytes) := by
  have hl : (stringBytes peerIdLabel).all isPeerIdByte = true := by decide
  have hb : (stringBytes (Base64.encodeUrlNoPad bytes)).all isPeerIdByte = true := by
    rw [Base64.stringBytes_encodeUrlNoPad, all_map, all_eq_true]
    intro n hn
    exact urlChar_isPeerIdByte n (Base64.sextets_lt bytes n hn)
  have hp : 0 < (stringBytes (Base64.encodeUrlNoPad bytes)).length := by
    have hle := length_pos_iff.mpr h
    rw [Base64.stringBytes_encodeUrlNoPad, length_map, Base64.length_sextets]
    omega
  unfold ValidPeerId
  rw [Json.stringBytes_append, length_append, all_append, hl, hb]
  generalize stringBytes peerIdLabel = label
  refine ⟨prefix_append _ _, ?_, rfl⟩
  omega

theorem validHex32_encode {b : Bytes} (h : b.length = 32) : ValidHex32 (Hex.encode b) := by
  refine ⟨?_, ?_⟩
  · rw [Hex.length_stringBytes_encode, h]
  · rw [all_eq_true]
    intro d hd
    rcases Hex.stringBytes_encode_lower hd with ⟨h1, h2⟩ | ⟨h1, h2⟩
    · simp [isLowerHexByte, h1, h2]
    · simp [isLowerHexByte, h1, h2]

end QuantumLink.RegistryV2
