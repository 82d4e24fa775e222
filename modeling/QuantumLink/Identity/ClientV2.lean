import QuantumLink.Device.Keys

/-! # Stable identity records on the client

`dytallix_identity_v2` of `qlink-core`: the record a client builds for its device, the
checks it makes of a record before it signs, the canonical payloads, the two
authorizations and the request that carries them. The client has its own record type
and its own copies of the payload layouts; nothing here refers to the contract. Address
functions and the wallet belong to `dytallix_core` and are parameters.
-/

namespace QuantumLink.Identity

open Device List
open Json (stringBytes)

/-! ## Data -/

def stableIdentitySchemaVersion : UInt8 := 2
def contractDomain : String := "quantumlink-node-registry-v2"
def deviceAuthorizationPurpose : String := "authorize-stable-identity-binding"
def meshScopeHashDomain : String := "QuantumLink Dytallix stable identity mesh scope v2"
def minPeerRecordTtlSeconds : UInt64 := 30
def maxPeerRecordTtlSeconds : UInt64 := 86400

inductive RegistryIdentityStatusV2 where
  | active
  | revoked
  | suspended

structure RegistryIdentityRecordV2 where
  schemaVersion : UInt8
  peerId : String
  ownerDaddr : String
  devicePublicKeyHashHex : String
  nodeSigningPublicKeyHashHex : String
  status : RegistryIdentityStatusV2
  identityRevision : UInt64
  authorizationExpiresAt : Option UInt64
  maxPeerRecordTtlSeconds : UInt64
  meshScopeHashHex : Option String
  metadataCommitmentHex : Option String

/-- The errors that building, signing and verifying a record can end in. -/
inductive StableIdentityV2Error where
  | unsupportedSchemaVersion (version : UInt8)
  | invalidRecord (message : String)
  | missing
  | revoked
  | suspended
  | wrongDevice
  | wrongNodeSigningKey
  | authorizationExpired (expiresAt : UInt64)
  | missingSignedIssuedAt
  | invalidPeerRecordTtl (message : String)
  | peerRecordTtlExceeded (actualSeconds maximumSeconds : UInt64)
  | invalidPeerRecord (message : String)
  | wrongMeshScope
  | walletAuthorization (message : String)

/-- What the client calls outside its own crate; an error carries its text. -/
structure ClientCrates where
  sha256 : Bytes → Bytes
  device : DeviceCrates
  daddrFromStr : String → Except String Unit
  daddrFromPublicKey : Bytes → Except String String

/-- A wallet key pair of `dytallix_core`. -/
structure DytallixKeypair where
  publicKey : Bytes
  sign : Bytes → Except String Bytes

/-! ## Building a record -/

/-- The characters `str::trim` removes. -/
def isWhitespace (c : Char) : Bool :=
  let n := c.toNat
  (9 ≤ n && n ≤ 13) || n == 32 || n == 0x85 || n == 0xa0 || n == 0x1680 ||
    (0x2000 ≤ n && n ≤ 0x200a) || n == 0x2028 || n == 0x2029 || n == 0x202f || n == 0x205f ||
    n == 0x3000

def trim (text : String) : List Char :=
  ((text.toList.dropWhile isWhitespace).reverse.dropWhile isWhitespace).reverse

def isLowerHexDigit (byte : UInt8) : Bool :=
  (48 ≤ byte && byte ≤ 57) || (97 ≤ byte && byte ≤ 102)

/-- The texts `require_sha256_hex` lets through. -/
def Sha256Hex (value : String) : Prop :=
  (stringBytes value).length = 64 ∧ (stringBytes value).all isLowerHexDigit = true

instance (value : String) : Decidable (Sha256Hex value) := inferInstanceAs (Decidable (_ ∧ _))

def requireSha256Hex (field value : String) : Except StableIdentityV2Error Unit :=
  ensure (Sha256Hex value) (.invalidRecord (field ++ " must be 32-byte lowercase hexadecimal"))

def requireOptionalSha256Hex (field : String) : Option String → Except StableIdentityV2Error Unit
  | some value => requireSha256Hex field value
  | none => .ok ()

def RegistryIdentityRecordV2.validate (crates : ClientCrates) (record : RegistryIdentityRecordV2) :
    Except StableIdentityV2Error Unit := do
  ensure (record.schemaVersion = stableIdentitySchemaVersion)
    (.unsupportedSchemaVersion record.schemaVersion)
  ensure (trim record.peerId ≠ []) (.invalidRecord "peer_id must not be empty")
  (crates.daddrFromStr record.ownerDaddr).mapError fun err =>
    .invalidRecord ("owner_daddr is invalid: " ++ err)
  requireSha256Hex "device_public_key_hash_hex" record.devicePublicKeyHashHex
  requireSha256Hex "node_signing_public_key_hash_hex" record.nodeSigningPublicKeyHashHex
  ensure (record.identityRevision ≠ 0) (.invalidRecord "identity_revision must be greater than zero")
  ensure (record.authorizationExpiresAt ≠ some 0)
    (.invalidRecord "authorization_expires_at must be greater than zero when present")
  ensure (Identity.minPeerRecordTtlSeconds ≤ record.maxPeerRecordTtlSeconds ∧
      record.maxPeerRecordTtlSeconds ≤ Identity.maxPeerRecordTtlSeconds)
    (.invalidRecord "max_peer_record_ttl_seconds must be between 30 and 86400")
  requireOptionalSha256Hex "mesh_scope_hash_hex" record.meshScopeHashHex
  requireOptionalSha256Hex "metadata_commitment_hex" record.metadataCommitmentHex

def sha256Hex (crates : ClientCrates) (bytes : Bytes) : String := Hex.encode (crates.sha256 bytes)

def devicePublicKeyHashHex (crates : ClientCrates) (key : DevicePublicKey) : String :=
  sha256Hex crates key.toJson.toBytes

def meshScopeHashHex (crates : ClientCrates) (meshScope : String) : String :=
  sha256Hex crates (stringBytes meshScopeHashDomain ++ 0 :: stringBytes meshScope)

/-- The arguments of `from_device_public_key` besides the key. -/
structure RecordPolicy where
  ownerDaddr : String
  status : RegistryIdentityStatusV2
  identityRevision : UInt64
  authorizationExpiresAt : Option UInt64
  maxPeerRecordTtlSeconds : UInt64
  meshScope : Option String
  metadataCommitmentHex : Option String

def deviceRecord (crates : ClientCrates) (key : DevicePublicKey) (policy : RecordPolicy) :
    RegistryIdentityRecordV2 where
  schemaVersion := stableIdentitySchemaVersion
  peerId := key.peerId crates.device
  ownerDaddr := policy.ownerDaddr
  devicePublicKeyHashHex := devicePublicKeyHashHex crates key
  nodeSigningPublicKeyHashHex := devicePublicKeyHashHex crates key
  status := policy.status
  identityRevision := policy.identityRevision
  authorizationExpiresAt := policy.authorizationExpiresAt
  maxPeerRecordTtlSeconds := policy.maxPeerRecordTtlSeconds
  meshScopeHashHex := policy.meshScope.map (meshScopeHashHex crates)
  metadataCommitmentHex := policy.metadataCommitmentHex

def fromDevicePublicKey (crates : ClientCrates) (key : DevicePublicKey) (policy : RecordPolicy) :
    Except StableIdentityV2Error RegistryIdentityRecordV2 := do
  (deviceRecord crates key policy).validate crates
  pure (deviceRecord crates key policy)

/-! ## Canonical payloads -/

inductive RegistryIdentityOperationV2 where
  | register
  | update

def RegistryIdentityOperationV2.contractMethod : RegistryIdentityOperationV2 → String
  | .register => "register_identity"
  | .update => "update_identity"

def RegistryIdentityStatusV2.toJson : RegistryIdentityStatusV2 → Json
  | .active => .str "active"
  | .revoked => .str "revoked"
  | .suspended => .str "suspended"

def RegistryIdentityRecordV2.toJson (record : RegistryIdentityRecordV2) : Json :=
  .obj [("schema_version", .ofUInt8 record.schemaVersion),
    ("peer_id", .str record.peerId),
    ("owner_daddr", .str record.ownerDaddr),
    ("device_public_key_hash_hex", .str record.devicePublicKeyHashHex),
    ("node_signing_public_key_hash_hex", .str record.nodeSigningPublicKeyHashHex),
    ("status", record.status.toJson),
    ("identity_revision", .ofUInt64 record.identityRevision),
    ("authorization_expires_at", .ofOption .ofUInt64 record.authorizationExpiresAt),
    ("max_peer_record_ttl_seconds", .ofUInt64 record.maxPeerRecordTtlSeconds),
    ("mesh_scope_hash_hex", .ofOption .str record.meshScopeHashHex),
    ("metadata_commitment_hex", .ofOption .str record.metadataCommitmentHex)]

def walletPayloadJson (operation : RegistryIdentityOperationV2) (record : RegistryIdentityRecordV2) :
    Json :=
  .obj [("contract", .str contractDomain),
    ("schema_version", .ofUInt8 stableIdentitySchemaVersion),
    ("operation", .str operation.contractMethod),
    ("record", record.toJson)]

def devicePayloadJson (record : RegistryIdentityRecordV2) : Json :=
  .obj [("contract", .str contractDomain),
    ("schema_version", .ofUInt8 stableIdentitySchemaVersion),
    ("purpose", .str deviceAuthorizationPurpose),
    ("binding", record.toJson)]

def canonicalWalletPayloadBytes (crates : ClientCrates) (operation : RegistryIdentityOperationV2)
    (record : RegistryIdentityRecordV2) : Except StableIdentityV2Error Bytes := do
  record.validate crates
  pure (walletPayloadJson operation record).toBytes

-- The operation is an argument of the source too, and is not part of the payload.
def canonicalDevicePayloadBytes (crates : ClientCrates) (_operation : RegistryIdentityOperationV2)
    (record : RegistryIdentityRecordV2) : Except StableIdentityV2Error Bytes := do
  record.validate crates
  pure (devicePayloadJson record).toBytes

inductive RegistryIdentityStatusOperationV2 where
  | suspend
  | revoke

def RegistryIdentityStatusOperationV2.contractMethod : RegistryIdentityStatusOperationV2 → String
  | .suspend => "suspend_identity"
  | .revoke => "revoke_identity"

def canonicalStatusPayloadBytes (operation : RegistryIdentityStatusOperationV2) (peerId : String)
    (identityRevision : UInt64) : Except StableIdentityV2Error Bytes := do
  ensure (trim peerId ≠ []) (.invalidRecord "peer_id must not be empty")
  ensure (identityRevision ≠ 0) (.invalidRecord "identity_revision must be greater than zero")
  pure (Json.obj [("contract", .str contractDomain),
    ("schema_version", .ofUInt8 stableIdentitySchemaVersion),
    ("operation", .str operation.contractMethod),
    ("peer_id", .str peerId),
    ("identity_revision", .ofUInt64 identityRevision)]).toBytes

/-! ## Authorizations -/

structure WalletAuthorizationV2 where
  actorPublicKeyHex : String
  actorSignatureHex : String

structure DeviceAuthorizationV2 where
  devicePublicKeyAlgorithm : String
  devicePublicKeyHex : String
  deviceSignatureHex : String

def requireWalletOwner (crates : ClientCrates) (record : RegistryIdentityRecordV2)
    (publicKey : Bytes) : Except StableIdentityV2Error Unit := do
  let owner ← (crates.daddrFromPublicKey publicKey).mapError fun err =>
    .walletAuthorization ("wallet public key cannot derive a Dytallix owner address: " ++ err)
  ensure (owner = record.ownerDaddr)
    (.walletAuthorization "wallet public key does not match owner_daddr")

def requireRecordDevice (crates : ClientCrates) (record : RegistryIdentityRecordV2)
    (key : DevicePublicKey) : Except StableIdentityV2Error Unit :=
  ensure (record.peerId = key.peerId crates.device ∧
    record.devicePublicKeyHashHex = devicePublicKeyHashHex crates key) .wrongDevice

def WalletAuthorizationV2.signRecord (crates : ClientCrates)
    (operation : RegistryIdentityOperationV2) (record : RegistryIdentityRecordV2)
    (keypair : DytallixKeypair) : Except StableIdentityV2Error WalletAuthorizationV2 := do
  record.validate crates
  requireWalletOwner crates record keypair.publicKey
  let payload ← canonicalWalletPayloadBytes crates operation record
  let signature ← (keypair.sign payload).mapError fun err =>
    .walletAuthorization ("Dytallix wallet signing failed: " ++ err)
  pure ⟨Hex.encode keypair.publicKey, Hex.encode signature⟩

def DeviceAuthorizationV2.signRecord (crates : ClientCrates)
    (operation : RegistryIdentityOperationV2) (record : RegistryIdentityRecordV2)
    (keypair : DeviceKeypair) : Except StableIdentityV2Error DeviceAuthorizationV2 := do
  record.validate crates
  requireRecordDevice crates record keypair.publicKey
  let payload ← canonicalDevicePayloadBytes crates operation record
  pure ⟨keypair.publicKey.algorithm, Hex.encode keypair.publicKey.bytes,
    Hex.encode (keypair.sign payload)⟩

/-- `RecordMutationRequestV2`: the record with both authorizations flattened. -/
def recordMutationRequestJson (record : RegistryIdentityRecordV2) (wallet : WalletAuthorizationV2)
    (device : DeviceAuthorizationV2) : Json :=
  .obj [("record", record.toJson),
    ("actor_public_key_hex", .str wallet.actorPublicKeyHex),
    ("actor_signature_hex", .str wallet.actorSignatureHex),
    ("device_public_key_algorithm", .str device.devicePublicKeyAlgorithm),
    ("device_public_key_hex", .str device.devicePublicKeyHex),
    ("device_signature_hex", .str device.deviceSignatureHex)]

/-! ## What success means -/

structure RegistryIdentityRecordV2.Valid (crates : ClientCrates)
    (record : RegistryIdentityRecordV2) : Prop where
  schema : record.schemaVersion = stableIdentitySchemaVersion
  peer : trim record.peerId ≠ []
  owner : crates.daddrFromStr record.ownerDaddr = .ok ()
  deviceHash : Sha256Hex record.devicePublicKeyHashHex
  nodeHash : Sha256Hex record.nodeSigningPublicKeyHashHex
  revision : record.identityRevision ≠ 0
  expiry : record.authorizationExpiresAt ≠ some 0
  ttl : Identity.minPeerRecordTtlSeconds ≤ record.maxPeerRecordTtlSeconds ∧
    record.maxPeerRecordTtlSeconds ≤ Identity.maxPeerRecordTtlSeconds
  meshScope : ∀ value, record.meshScopeHashHex = some value → Sha256Hex value
  metadata : ∀ value, record.metadataCommitmentHex = some value → Sha256Hex value

theorem requireOptionalSha256Hex_eq_ok_iff :
    requireOptionalSha256Hex field value = .ok u ↔ ∀ text, value = some text → Sha256Hex text := by
  cases value with
  | none => simp [requireOptionalSha256Hex]
  | some text => simp [requireOptionalSha256Hex, requireSha256Hex]

variable {crates : ClientCrates} {record : RegistryIdentityRecordV2}

theorem validate_eq_ok_iff : record.validate crates = .ok u ↔ record.Valid crates := by
  simp only [RegistryIdentityRecordV2.validate, bind_eq_ok_iff, ensure_eq_ok_iff,
    mapError_eq_ok_iff, requireSha256Hex, requireOptionalSha256Hex_eq_ok_iff, exists_const]
  constructor
  · intro ⟨hs, hp, _, ho, hd, hn, hr, he, ht, hme, hm⟩
    exact ⟨hs, hp, ho, hd, hn, hr, he, ht, hme, hm⟩
  · intro h
    exact ⟨h.schema, h.peer, (), h.owner, h.deviceHash, h.nodeHash, h.revision, h.expiry, h.ttl,
      h.meshScope, h.metadata⟩

theorem trim_ne_nil {t : String} (hm : c ∈ t.toList)
    (hc : isWhitespace c = false) : trim t ≠ [] := by
  intro hn
  have hr : c ∈ t.toList.dropWhile isWhitespace := by
    rw [← takeWhile_append_dropWhile (p := isWhitespace) (l := t.toList), mem_append] at hm
    rcases hm with ht | hl
    · rw [mem_takeWhile_imp ht] at hc
      cases hc
    · exact hl
  have ha := dropWhile_eq_nil_iff.mp (reverse_eq_nil_iff.mp hn)
  have hs := ha c (mem_reverse.mpr hr)
  rw [hc] at hs
  cases hs

theorem sha256Hex_encode {b : Bytes} (h : b.length = 32) : Sha256Hex (Hex.encode b) := by
  refine ⟨by rw [Hex.length_stringBytes_encode, h], ?_⟩
  rw [all_eq_true]
  intro d hd
  rcases Hex.stringBytes_encode_lower hd with ⟨hl, hh⟩ | ⟨hl, hh⟩
  · simp [isLowerHexDigit, hl, hh]
  · simp [isLowerHexDigit, hl, hh]

theorem deviceRecord_valid {p : RecordPolicy} (hs : ∀ bytes, (crates.sha256 bytes).length = 32)
    (ho : crates.daddrFromStr p.ownerDaddr = .ok ())
    (hr : p.identityRevision ≠ 0) (he : p.authorizationExpiresAt ≠ some 0)
    (ht : Identity.minPeerRecordTtlSeconds ≤ p.maxPeerRecordTtlSeconds ∧
      p.maxPeerRecordTtlSeconds ≤ Identity.maxPeerRecordTtlSeconds)
    (hm : ∀ value, p.metadataCommitmentHex = some value → Sha256Hex value) :
    (deviceRecord crates key p).Valid crates := by
  have hl : 'q' ∈ (key.peerId crates.device).toList := by
    rw [DevicePublicKey.peerId, String.toList_append, mem_append]
    exact .inl (by decide)
  refine ⟨rfl, trim_ne_nil hl rfl, ho, sha256Hex_encode (hs _),
    sha256Hex_encode (hs _), hr, he, ht, ?_, hm⟩
  intro value hv
  obtain ⟨s, -, rfl⟩ := Option.map_eq_some_iff.mp hv
  exact sha256Hex_encode (hs _)

theorem fromDevicePublicKey_eq_ok_iff : fromDevicePublicKey crates key policy = .ok record ↔
      record.Valid crates ∧ record = deviceRecord crates key policy := by
  simp only [fromDevicePublicKey, bind_eq_ok_iff, validate_eq_ok_iff, exists_const]
  constructor
  · intro ⟨hv, hr⟩
    cases hr
    exact ⟨hv, rfl⟩
  · rintro ⟨hv, rfl⟩
    exact ⟨hv, rfl⟩

theorem signRecord_wallet_eq_ok_iff :
    WalletAuthorizationV2.signRecord crates operation record keypair = .ok authorization ↔
      record.Valid crates ∧ crates.daddrFromPublicKey keypair.publicKey = .ok record.ownerDaddr ∧
      ∃ signature, keypair.sign (walletPayloadJson operation record).toBytes = .ok signature ∧
        authorization = ⟨Hex.encode keypair.publicKey, Hex.encode signature⟩ := by
  simp only [WalletAuthorizationV2.signRecord, requireWalletOwner, canonicalWalletPayloadBytes,
    bind_eq_ok_iff, validate_eq_ok_iff, mapError_eq_ok_iff, ensure_eq_ok_iff, exists_const]
  constructor
  · rintro ⟨hv, ⟨o, ho, rfl⟩, p, ⟨_, hp⟩, signature, hs, ha⟩
    cases hp
    exact ⟨hv, ho, signature, hs, (Except.ok.inj ha).symm⟩
  · rintro ⟨hv, ho, signature, hs, rfl⟩
    exact ⟨hv, ⟨_, ho, rfl⟩, _, ⟨hv, rfl⟩, signature, hs, rfl⟩

theorem signRecord_device_eq_ok_iff :
    DeviceAuthorizationV2.signRecord crates operation record keypair = .ok authorization ↔
      record.Valid crates ∧ (record.peerId = keypair.publicKey.peerId crates.device ∧
        record.devicePublicKeyHashHex = devicePublicKeyHashHex crates keypair.publicKey) ∧
      authorization = ⟨keypair.publicKey.algorithm, Hex.encode keypair.publicKey.bytes,
        Hex.encode (keypair.sign (devicePayloadJson record).toBytes)⟩ := by
  simp only [DeviceAuthorizationV2.signRecord, requireRecordDevice, canonicalDevicePayloadBytes,
    bind_eq_ok_iff, validate_eq_ok_iff, ensure_eq_ok_iff, exists_const]
  constructor
  · rintro ⟨hv, hd, p, ⟨_, hp⟩, ha⟩
    cases hp
    exact ⟨hv, hd, (Except.ok.inj ha).symm⟩
  · rintro ⟨hv, hd, rfl⟩
    exact ⟨hv, hd, _, ⟨hv, rfl⟩, rfl⟩

end QuantumLink.Identity
