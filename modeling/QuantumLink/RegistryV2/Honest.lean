import QuantumLink.Foundation.Json.Size
import QuantumLink.Foundation.Sha256
import QuantumLink.Foundation.Shake256
import QuantumLink.RegistryV2.Storage

/-! # Calls of an honest owner

An owner wallet and a device that sign with the registry's own schemes produce calls
the registry accepts: a registration of a free peer id, and a status change at the
next revision of a live identity. The last section fixes one owner and one device.
-/

namespace QuantumLink.RegistryV2

open Json Hex StableIdentityRecord
open List

def Call.entryPoint : Call → EntryPoint
  | .register .. => .registerIdentity
  | .update .. => .updateIdentity
  | .suspend .. => .suspendIdentity
  | .revoke .. => .revokeIdentity

def recordRequestJson (record : StableIdentityRecord) (wallet : WalletAuthorization)
    (device : DeviceAuthorization) : Json :=
  .obj [("record", record.toJson),
    ("actor_public_key_hex", .str wallet.actorPublicKeyHex),
    ("actor_signature_hex", .str wallet.actorSignatureHex),
    ("device_public_key_algorithm", .str device.devicePublicKeyAlgorithm),
    ("device_public_key_hex", .str device.devicePublicKeyHex),
    ("device_signature_hex", .str device.deviceSignatureHex)]

def statusRequestJson (peerId : String) (revision : UInt64) (wallet : WalletAuthorization) : Json :=
  .obj [("peer_id", .str peerId),
    ("identity_revision", .ofUInt64 revision),
    ("actor_public_key_hex", .str wallet.actorPublicKeyHex),
    ("actor_signature_hex", .str wallet.actorSignatureHex)]

/-- The request a client sends for a call. -/
def Call.requestJson : Call → Json
  | .register record wallet device => recordRequestJson record wallet device
  | .update record wallet device => recordRequestJson record wallet device
  | .suspend peerId revision wallet => statusRequestJson peerId revision wallet
  | .revoke peerId revision wallet => statusRequestJson peerId revision wallet

def Call.invocation (call : Call) : Invocation := ⟨call.entryPoint, .ok call.requestJson.toBytes⟩

private theorem recordRequest_requestJson
    (m : StableIdentityRecord → WalletAuthorization → DeviceAuthorization → Call)
    (r : StableIdentityRecord) (wallet : WalletAuthorization) (device : DeviceAuthorization) :
    recordRequest m (recordRequestJson r wallet device) = some (m r wallet device) := by
  have hz : objectFields recordRequestNames (recordRequestJson r wallet device) = _ :=
    objectFields_zip recordRequestNames (by decide)
      [r.toJson, .str wallet.actorPublicKeyHex, .str wallet.actorSignatureHex,
        .str device.devicePublicKeyAlgorithm, .str device.devicePublicKeyHex,
        .str device.deviceSignatureHex] rfl
  simp [recordRequest, hz]

private theorem statusRequest_requestJson (m : String → UInt64 → WalletAuthorization → Call)
    (p : String) (r : UInt64) (wallet : WalletAuthorization) :
    statusRequest m (statusRequestJson p r wallet) = some (m p r wallet) := by
  have hz : objectFields statusRequestNames (statusRequestJson p r wallet) = _ :=
    objectFields_zip statusRequestNames (by decide)
      [.str p, .ofUInt64 r, .str wallet.actorPublicKeyHex, .str wallet.actorSignatureHex] rfl
  simp [statusRequest, hz]

theorem Call.request_requestJson (call : Call) :
    call.entryPoint.request call.requestJson = some call := by
  cases call with
  | register re w d => exact recordRequest_requestJson .register re w d
  | update re w d => exact recordRequest_requestJson .update re w d
  | suspend p r w => exact statusRequest_requestJson .suspend p r w
  | revoke p r w => exact statusRequest_requestJson .revoke p r w

theorem Call.invocation_call (w : WasmEnv) {call : Call}
    (h : call.requestJson.toBytes.length ≤ maxInputBytes) :
    call.invocation.call w = .ok call := by
  show (if maxInputBytes < call.requestJson.toBytes.length then _ else _) = _
  rw [if_neg (Nat.not_lt.mpr h), okOr_eq_ok_iff, ofBytes_toBytes, Option.bind_some]
  exact call.request_requestJson

/-- A wallet whose signatures verify, and its address. -/
structure Signer (wallet : WalletBackend) where
  publicKey : Bytes
  sign : Bytes → Bytes
  owner : String
  verifies : ∀ payload,
    wallet.verifyWalletMldsa65Signature publicKey payload (sign payload) = .ok true
  address : wallet.daddrFromPublicKey publicKey = .ok owner

def Signer.authorize {wallet : WalletBackend} (signer : Signer wallet) (payload : Bytes) :
    WalletAuthorization :=
  ⟨encode signer.publicKey, encode (signer.sign payload)⟩

theorem Signer.authorizedBy {env : Env} (signer : Signer env.wallet) {c : Call}
    (hp : c.payload = .ok payload) (hw : c.wallet = signer.authorize payload) :
    c.AuthorizedBy env signer.owner := by
  refine ⟨payload, signer.publicKey, signer.sign payload, hp, ?_, ?_,
    signer.verifies payload, signer.address⟩
  · rw [hw]
    exact decode_encode _
  · rw [hw]
    exact decode_encode _

/-- A device key whose signatures have the scheme's shape and verify. -/
structure DeviceSigner (env : Env) where
  publicKey : Bytes
  sign : Bytes → Bytes
  keyLength : publicKey.length = mldsa65PublicKeyLen
  signatureLength : ∀ payload, (sign payload).length = mldsa65SignatureLen
  decodes : ∀ payload, env.deviceScheme.decodesSignature (sign payload) = true
  verifies : ∀ payload, env.deviceScheme.verify publicKey payload (sign payload) = true

def deviceBinding (record : StableIdentityRecord) : Bytes :=
  (obj [("contract", .str contractDomain), ("schema_version", .ofUInt8 registrySchemaVersion),
    ("purpose", .str deviceAuthorizationPurpose), ("binding", record.toJson)]).toBytes

def DeviceSigner.authorize {env : Env} (device : DeviceSigner env) (record : StableIdentityRecord) :
    DeviceAuthorization :=
  ⟨"ML-DSA-65", encode device.publicKey, encode (device.sign (deviceBinding record))⟩

theorem DeviceSigner.validates {env : Env} (device : DeviceSigner env)
    {r : StableIdentityRecord} (hp : r.peerId = quantumlinkPeerId env device.publicKey)
    (hh : r.devicePublicKeyHashHex = devicePublicKeyHashHex env "ML-DSA-65" device.publicKey) :
    validateDeviceAuthorization env r (device.authorize r) = .ok () := by
  rw [validateDeviceAuthorization_eq_ok_iff]
  exact ⟨rfl, device.publicKey, device.sign (deviceBinding r), deviceBinding r,
    decode_encode _, decode_encode _, hp.symm, hh.symm, rfl, device.keyLength,
    device.signatureLength _, device.decodes _, device.verifies _⟩

/-- A first record for the device, owned by the wallet. -/
def firstRecord {env : Env} (signer : Signer env.wallet) (device : DeviceSigner env) :
    StableIdentityRecord where
  schemaVersion := registrySchemaVersion
  peerId := quantumlinkPeerId env device.publicKey
  ownerDaddr := signer.owner
  devicePublicKeyHashHex := devicePublicKeyHashHex env "ML-DSA-65" device.publicKey
  nodeSigningPublicKeyHashHex := devicePublicKeyHashHex env "ML-DSA-65" device.publicKey
  status := .active
  identityRevision := initialIdentityRevision
  authorizationExpiresAt := none
  maxPeerRecordTtlSeconds := 300
  meshScopeHashHex := none
  metadataCommitmentHex := none

def registerCall {env : Env} (signer : Signer env.wallet) (device : DeviceSigner env) : Call :=
  .register (firstRecord signer device)
    (signer.authorize (recordPayloadJson "register_identity" (firstRecord signer device)).toBytes)
    (device.authorize (firstRecord signer device))

def suspendCall {env : Env} (signer : Signer env.wallet) (peerId : String) (revision : UInt64) :
    Call :=
  .suspend peerId revision
    (signer.authorize (statusPayloadJson "suspend_identity" peerId revision).toBytes)

def revokeCall {env : Env} (signer : Signer env.wallet) (peerId : String) (revision : UInt64) :
    Call :=
  .revoke peerId revision
    (signer.authorize (statusPayloadJson "revoke_identity" peerId revision).toBytes)

section

variable {env : Env} (signer : Signer env.wallet) (device : DeviceSigner env)

theorem firstRecord_valid (hs : ∀ bytes, (env.sha256 bytes).length = 32)
    (ho : signer.owner ≠ "") : (firstRecord signer device).Valid := by
  have hh : ValidHex32 (devicePublicKeyHashHex env "ML-DSA-65" device.publicKey) :=
    validHex32_encode (hs _)
  have hp : ValidPeerId (quantumlinkPeerId env device.publicKey) := by
    apply validPeerId_encodeUrlNoPad
    intro hn
    have hl := congrArg length hn
    rw [length_take, hs] at hl
    simp at hl
  refine ⟨rfl, hp, hh, hh, nofun, nofun, ?_⟩
  simp [PolicyOutOfBounds, firstRecord, ho, initialIdentityRevision,
    RegistryV2.minPeerRecordTtlSeconds, RegistryV2.maxPeerRecordTtlSeconds]

theorem decision_registerCall (hs : ∀ bytes, (env.sha256 bytes).length = 32)
    (ho : signer.owner ≠ "") :
    (registerCall signer device).decision env none =
      .ok ⟨firstRecord signer device, (registerCall signer device).mkEvent signer.owner⟩ :=
  decision_register_eq_ok_iff.mpr ⟨firstRecord_valid signer device hs ho, rfl, rfl, rfl,
    signer.authorizedBy rfl rfl, device.validates rfl rfl, rfl⟩

theorem suspendCall_authorizedBy {p : String} (hp : ValidPeerId p) (r : UInt64) :
    (suspendCall signer p r).AuthorizedBy env signer.owner :=
  signer.authorizedBy (canonicalStatusPayload_eq_ok_iff.mpr ⟨hp, rfl⟩) rfl

theorem revokeCall_authorizedBy {p : String} (hp : ValidPeerId p) (r : UInt64) :
    (revokeCall signer p r).AuthorizedBy env signer.owner :=
  signer.authorizedBy (canonicalStatusPayload_eq_ok_iff.mpr ⟨hp, rfl⟩) rfl

end

/-! ## One owner and one device -/

/-- Stands in for signing: the signature of a message, as long as the scheme's. -/
def sampleSign (payload : Bytes) : Bytes := Shake256.hash mldsa65SignatureLen payload

/-- The address of the key of 1952 zero bytes. -/
def sampleAddress : String :=
  "dytallix1s3qp8uknhx62jy8e96m8g0zz9kr2t84x6rpza5ye2h898cgtm0qqwc63um"

@[irreducible] def sampleKey : Bytes := replicate mldsa65PublicKeyLen 0

/-- The digest of that key the address is made from. -/
def sampleDigest : Bytes :=
  [0x84, 0x40, 0x13, 0xf2, 0xd3, 0xb9, 0xb4, 0xa9, 0x10, 0xf9, 0x2e, 0xb6, 0x74, 0x3c, 0x42,
    0x2d, 0x86, 0xa5, 0x9e, 0xa6, 0xd0, 0xc2, 0x2e, 0xd0, 0x99, 0x55, 0xce, 0x53, 0xe1, 0x0b,
    0xdb, 0xc0]

/-- A wasm build whose signature scheme accepts exactly what `sampleSign` signed. -/
def sampleWasm : WasmEnv where
  sha256 := Sha256.hash
  deviceScheme :=
    { decodesSignature := fun _ => true
      verify := fun _ payload signature => decide (signature = sampleSign payload) }
  crates :=
    { decodesPublicKey := fun _ => true
      verify := fun _ payload signature => decide (signature = sampleSign payload)
      blake3 := fun _ => sampleDigest
      encodeBech32m := fun _ _ => some sampleAddress }
  serdeError := fun _ => "expected value at line 1 column 1"

theorem sampleKey_length : sampleKey.length = mldsa65PublicKeyLen := by
  unfold sampleKey
  exact length_replicate

theorem sampleSign_length (p : Bytes) : (sampleSign p).length = mldsa65SignatureLen :=
  Shake256.length_hash _ _

def sampleSigner : Signer sampleWasm.env.wallet where
  publicKey := sampleKey
  sign := sampleSign
  owner := sampleAddress
  verifies payload := by
    simp [sampleWasm, WasmEnv.env, WalletBackend.wasm, sampleKey_length, sampleSign_length,
      ensure_of, bind, Except.bind, pure, Except.pure]
  address := by
    simp [sampleWasm, WasmEnv.env, WalletBackend.wasm, sampleKey_length, ensure_of, bind,
      Except.bind, okOr]

def sampleDevice : DeviceSigner sampleWasm.env where
  publicKey := sampleKey
  sign := sampleSign
  keyLength := sampleKey_length
  signatureLength := sampleSign_length
  decodes _ := rfl
  verifies payload := by simp [sampleWasm, WasmEnv.env]

def sampleRecord : StableIdentityRecord := firstRecord sampleSigner sampleDevice

def sampleRegister : Call := registerCall sampleSigner sampleDevice

theorem sampleAddress_ne : sampleAddress ≠ "" := by decide

theorem sampleRecord_valid : sampleRecord.Valid :=
  firstRecord_valid sampleSigner sampleDevice Sha256.length_hash sampleAddress_ne

def sampleChange : Change := ⟨sampleRecord, sampleRegister.mkEvent sampleAddress⟩

theorem decision_sampleRegister : sampleRegister.decision sampleWasm.env none = .ok sampleChange :=
  decision_registerCall sampleSigner sampleDevice Sha256.length_hash sampleAddress_ne

/-! ## How much they take -/

theorem digits_le_twenty (n : UInt64) : (Nat.toDigits 10 n.toNat).length ≤ 20 := by
  have hlt : n.toNat < 2 ^ 64 := n.toNat_lt
  rw [Nat.length_toDigits_le_iff (by decide) (by decide)]
  omega

theorem quotedLength_sampleAddress : quotedLength sampleAddress = 69 := by decide +kernel

theorem quotedLength_quantumlinkPeerId {env : Env} (hs : ∀ bytes, (env.sha256 bytes).length = 32)
    (p : Bytes) : quotedLength (quantumlinkPeerId env p) = 30 := by
  rw [quantumlinkPeerId, quotedLength_base64 (by decide), length_take, hs]
  decide

theorem quotedLength_devicePublicKeyHashHex {env : Env}
    (hs : ∀ bytes, (env.sha256 bytes).length = 32) (a : String) (p : Bytes) :
    quotedLength (devicePublicKeyHashHex env a p) = 66 := by
  rw [devicePublicKeyHashHex, quotedLength_hex, hs]

theorem quotedLength_samplePeerId : quotedLength sampleRecord.peerId = 30 :=
  quotedLength_quantumlinkPeerId Sha256.length_hash sampleKey

theorem quotedLength_sampleHash : quotedLength sampleRecord.devicePublicKeyHashHex = 66 :=
  quotedLength_devicePublicKeyHashHex Sha256.length_hash "ML-DSA-65" sampleKey

theorem byteLength_status_le (s : IdentityStatus) : s.toJson.byteLength ≤ 11 := by
  cases s <;> decide

/-- Every version of the sample record stays far below the storage limit. -/
theorem length_encodeIdentity_sample (status : IdentityStatus) (r : UInt64) :
    (encodeIdentity { sampleRecord with status := status, identityRevision := r }).length ≤
      700 := by
  have hst := byteLength_status_le status
  have hd := digits_le_twenty r
  have hp := quotedLength_samplePeerId
  have hh := quotedLength_sampleHash
  have hno : quotedLength sampleRecord.nodeSigningPublicKeyHashHex = 66 := hh
  have ho : quotedLength sampleRecord.ownerDaddr = 69 := quotedLength_sampleAddress
  have hn : (fieldNames.map quotedLength).sum = 228 := by decide +kernel
  have hs : (ofUInt8 sampleRecord.schemaVersion).byteLength = 1 := by decide
  have he : (ofOption ofUInt64 sampleRecord.authorizationExpiresAt).byteLength = 4 := by
    decide
  have ht : (ofUInt64 sampleRecord.maxPeerRecordTtlSeconds).byteLength = 3 := by decide
  have hm : (ofOption str sampleRecord.meshScopeHashHex).byteLength = 4 := by decide
  have hme : (ofOption str sampleRecord.metadataCommitmentHex).byteLength = 4 := by decide
  have hi := byteLength_obj_zip fieldNames
    [.ofUInt8 sampleRecord.schemaVersion, .str sampleRecord.peerId,
      .str sampleRecord.ownerDaddr, .str sampleRecord.devicePublicKeyHashHex,
      .str sampleRecord.nodeSigningPublicKeyHashHex, status.toJson, .ofUInt64 r,
      .ofOption .ofUInt64 sampleRecord.authorizationExpiresAt,
      .ofUInt64 sampleRecord.maxPeerRecordTtlSeconds, .ofOption .str sampleRecord.meshScopeHashHex,
      .ofOption .str sampleRecord.metadataCommitmentHex] rfl (by decide)
  rw [encodeIdentity, length_toBytes]
  refine le_of_eq_of_le hi ?_
  have hr : (ofUInt64 r).byteLength ≤ 20 := hd
  simp only [hn, map_cons, map_nil, sum_cons, sum_nil, hs, he,
    ht, hm, hme, byteLength, hp, ho, hh, hno, show fieldNames.length = 11 from rfl]
  omega

theorem length_encodeIdentity_sampleRecord : (encodeIdentity sampleRecord).length ≤ 700 :=
  length_encodeIdentity_sample .active initialIdentityRevision

theorem byteLength_sampleEvent :
    (RegistryEvent.toJson ⟨sampleRecord.peerId, eventType, sampleAddress, revision⟩).byteLength =
      161 + quotedLength eventType + (Nat.toDigits 10 revision.toNat).length := by
  have hn : (RegistryEvent.fieldNames.map quotedLength).sum = 53 := by decide +kernel
  have hs := byteLength_obj_zip RegistryEvent.fieldNames
    [.str sampleRecord.peerId, .str eventType, .str sampleAddress, .ofUInt64 revision] rfl (by decide)
  refine Eq.trans hs ?_
  simp only [hn, map_cons, map_nil, sum_cons, sum_nil, byteLength,
    ofUInt64, quotedLength_samplePeerId, quotedLength_sampleAddress,
    show RegistryEvent.fieldNames.length = 4 from rfl]
  omega

theorem sampleChange_event : sampleChange.event =
    ⟨sampleRecord.peerId, "registered", sampleAddress, initialIdentityRevision⟩ := rfl

theorem length_encodeEvents_singleton :
    (encodeEvents [event]).length = 2 + event.toJson.byteLength := by
  rw [encodeEvents, length_toBytes, map_singleton]
  simp only [byteLength, itemsLength]
  omega

theorem byteLength_recordRequestJson (r : StableIdentityRecord) (wallet : WalletAuthorization)
    (device : DeviceAuthorization) :
    (recordRequestJson r wallet device).byteLength = 138 + r.toJson.byteLength +
      quotedLength wallet.actorPublicKeyHex + quotedLength wallet.actorSignatureHex +
      quotedLength device.devicePublicKeyAlgorithm +
      quotedLength device.devicePublicKeyHex + quotedLength device.deviceSignatureHex := by
  have hn : (recordRequestNames.map quotedLength).sum = 125 := by decide +kernel
  have hs := byteLength_obj_zip recordRequestNames
    [r.toJson, .str wallet.actorPublicKeyHex, .str wallet.actorSignatureHex,
      .str device.devicePublicKeyAlgorithm, .str device.devicePublicKeyHex,
      .str device.deviceSignatureHex] rfl (by decide)
  refine Eq.trans hs ?_
  simp only [hn, map_cons, map_nil, sum_cons, sum_nil, byteLength,
    show recordRequestNames.length = 6 from rfl]
  omega

theorem byteLength_statusRequestJson (p : String) (r : UInt64) (wallet : WalletAuthorization) :
    (statusRequestJson p r wallet).byteLength = 80 + quotedLength p +
      (Nat.toDigits 10 r.toNat).length + quotedLength wallet.actorPublicKeyHex +
      quotedLength wallet.actorSignatureHex := by
  have hn : (statusRequestNames.map quotedLength).sum = 71 := by decide +kernel
  have hs := byteLength_obj_zip statusRequestNames
    [.str p, .ofUInt64 r, .str wallet.actorPublicKeyHex,
      .str wallet.actorSignatureHex] rfl (by decide)
  refine Eq.trans hs ?_
  simp only [hn, map_cons, map_nil, sum_cons, sum_nil, byteLength,
    ofUInt64, show statusRequestNames.length = 4 from rfl]
  omega

theorem quotedLength_sampleKey : quotedLength (encode sampleKey) = 3906 := by
  rw [quotedLength_hex, sampleKey_length]
  rfl

theorem quotedLength_sampleSign (p : Bytes) : quotedLength (encode (sampleSign p)) = 6620 := by
  rw [quotedLength_hex, sampleSign_length]
  rfl

private theorem registerCall_requestJson {env : Env} (signer : Signer env.wallet)
    (device : DeviceSigner env) (r : StableIdentityRecord)
    (hr : firstRecord signer device = r) :
    (registerCall signer device).requestJson = recordRequestJson r ⟨encode signer.publicKey,
        encode (signer.sign (recordPayloadJson "register_identity" r).toBytes)⟩
      ⟨"ML-DSA-65", encode device.publicKey, encode (device.sign (deviceBinding r))⟩ := by
  subst hr
  rfl

private theorem sampleRegister_request_length :
    sampleRegister.requestJson.toBytes.length ≤ maxInputBytes := by
  have hr : sampleRecord.toJson.byteLength ≤ 700 := by
    have h := length_encodeIdentity_sampleRecord
    rwa [encodeIdentity, length_toBytes] at h
  have ha : quotedLength "ML-DSA-65" = 11 := by decide
  have hw : quotedLength (encode sampleSigner.publicKey) = 3906 := quotedLength_sampleKey
  have hd : quotedLength (encode sampleDevice.publicKey) = 3906 := quotedLength_sampleKey
  have hwa : ∀ payload, quotedLength (encode (sampleSigner.sign payload)) = 6620 :=
    quotedLength_sampleSign
  have he : ∀ payload, quotedLength (encode (sampleDevice.sign payload)) = 6620 :=
    quotedLength_sampleSign
  rw [sampleRegister, registerCall_requestJson sampleSigner sampleDevice sampleRecord rfl,
    length_toBytes, byteLength_recordRequestJson]
  simp only [ha, hw, hd, hwa, he, maxInputBytes]
  generalize sampleRecord.toJson.byteLength = size at hr ⊢
  clear ha hw hd hwa he
  omega

private theorem status_request_length (r : UInt64) (p : Bytes) :
    (statusRequestJson sampleRecord.peerId r (sampleSigner.authorize p)).toBytes.length ≤
      maxInputBytes := by
  have hr := digits_le_twenty r
  have hs := byteLength_statusRequestJson sampleRecord.peerId r
    ⟨encode sampleKey, encode (sampleSign p)⟩
  rw [length_toBytes]
  refine le_of_eq_of_le hs ?_
  simp only [quotedLength_samplePeerId, quotedLength_sampleKey, quotedLength_sampleSign,
    maxInputBytes]
  omega

theorem sampleRegister_invocation : sampleRegister.invocation.call sampleWasm = .ok sampleRegister :=
  Call.invocation_call sampleWasm sampleRegister_request_length

theorem sampleSuspend_invocation (r : UInt64) :
    (suspendCall sampleSigner sampleRecord.peerId r).invocation.call sampleWasm =
      .ok (suspendCall sampleSigner sampleRecord.peerId r) :=
  Call.invocation_call sampleWasm (status_request_length r _)

theorem sampleRevoke_invocation (r : UInt64) :
    (revokeCall sampleSigner sampleRecord.peerId r).invocation.call sampleWasm =
      .ok (revokeCall sampleSigner sampleRecord.peerId r) :=
  Call.invocation_call sampleWasm (status_request_length r _)

end QuantumLink.RegistryV2
