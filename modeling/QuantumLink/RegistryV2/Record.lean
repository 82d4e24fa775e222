import QuantumLink.Foundation.Op
import QuantumLink.Foundation.Hex
import QuantumLink.Foundation.Json.Record

/-! # Stable identity records of the node registry, version 2

The data of `quantumlink-node-registry-v2`: records, authorizations, events and
errors as the crate declares them, the field checks in the order the crate makes
them, and the JSON layout its derived codecs give them. Field checks look at
UTF-8 bytes, as the source does, so a string may hold any characters.
-/

namespace QuantumLink.RegistryV2

open Json (stringBytes)
open Json

/-! ## Data -/

def registrySchemaVersion : UInt8 := 2
def initialIdentityRevision : UInt64 := 1
def minPeerRecordTtlSeconds : UInt64 := 30
def maxPeerRecordTtlSeconds : UInt64 := 86400
def contractDomain : String := "quantumlink-node-registry-v2"
def deviceAuthorizationPurpose : String := "authorize-stable-identity-binding"

inductive IdentityStatus where
  | active
  | suspended
  | revoked
deriving DecidableEq

structure StableIdentityRecord where
  schemaVersion : UInt8
  peerId : String
  ownerDaddr : String
  devicePublicKeyHashHex : String
  nodeSigningPublicKeyHashHex : String
  status : IdentityStatus
  identityRevision : UInt64
  authorizationExpiresAt : Option UInt64
  maxPeerRecordTtlSeconds : UInt64
  meshScopeHashHex : Option String
  metadataCommitmentHex : Option String
deriving DecidableEq

structure WalletAuthorization where
  actorPublicKeyHex : String
  actorSignatureHex : String

structure DeviceAuthorization where
  devicePublicKeyAlgorithm : String
  devicePublicKeyHex : String
  deviceSignatureHex : String

structure RegistryEvent where
  peerId : String
  eventType : String
  actorDaddr : String
  identityRevision : UInt64
deriving DecidableEq

inductive RegistryError where
  | unsupportedSchemaVersion
  | unauthorized
  | notFound
  | invalidHex
  | invalidPeerId
  | invalidSignature
  | alreadyRegistered
  | invalidRevision
  | revoked
  | invalidStatusTransition
  | policyOutOfBounds

/-- The `Display` text of an error. -/
def RegistryError.message : RegistryError → String
  | .unsupportedSchemaVersion => "unsupported schema version"
  | .unauthorized => "unauthorized"
  | .notFound => "identity not found"
  | .invalidHex => "invalid hex field"
  | .invalidPeerId => "invalid peer id"
  | .invalidSignature => "invalid signature"
  | .alreadyRegistered => "identity already registered"
  | .invalidRevision => "invalid identity revision"
  | .revoked => "identity revoked"
  | .invalidStatusTransition => "invalid status transition"
  | .policyOutOfBounds => "policy value out of bounds"

/-! ## Field checks -/

variable (byte : UInt8)

def isAsciiAlphanumeric : Bool :=
  (48 ≤ byte && byte ≤ 57) || (65 ≤ byte && byte ≤ 90) || (97 ≤ byte && byte ≤ 122)

def isPeerIdByte : Bool :=
  isAsciiAlphanumeric byte || byte == 95 || byte == 45

def isLowerHexByte : Bool :=
  (48 ≤ byte && byte ≤ 57) || (97 ≤ byte && byte ≤ 102)

def peerIdLabel : String := "qlink_"

/-- The grammar `validate_peer_id` accepts. -/
def ValidPeerId (peerId : String) : Prop :=
  stringBytes peerIdLabel <+: stringBytes peerId ∧
    (stringBytes peerIdLabel).length < (stringBytes peerId).length ∧
    (stringBytes peerId).all isPeerIdByte = true

instance (peerId : String) : Decidable (ValidPeerId peerId) :=
  inferInstanceAs (Decidable (_ ∧ _ ∧ _))

def validatePeerId (peerId : String) : Except RegistryError Unit :=
  ensure (ValidPeerId peerId) .invalidPeerId

/-- The grammar `validate_hex32` accepts: 32 bytes in lowercase hexadecimal. -/
def ValidHex32 (value : String) : Prop :=
  (stringBytes value).length = 64 ∧ (stringBytes value).all isLowerHexByte = true

instance (value : String) : Decidable (ValidHex32 value) :=
  inferInstanceAs (Decidable (_ ∧ _))

def validateHex32 (value : String) : Except RegistryError Unit :=
  ensure (ValidHex32 value) .invalidHex

/-- `if let Some(value) = field { validate_hex32(value)? }`. -/
def validateOptionalHex32 : Option String → Except RegistryError Unit
  | some value => validateHex32 value
  | none => .ok ()

/-- The values `validate_record` refuses as `PolicyOutOfBounds`. -/
def StableIdentityRecord.PolicyOutOfBounds (record : StableIdentityRecord) : Prop :=
  record.ownerDaddr = "" ∨ record.identityRevision = 0 ∨
    record.authorizationExpiresAt = some 0 ∨
    ¬ (RegistryV2.minPeerRecordTtlSeconds ≤ record.maxPeerRecordTtlSeconds ∧
      record.maxPeerRecordTtlSeconds ≤ RegistryV2.maxPeerRecordTtlSeconds)

instance (record : StableIdentityRecord) : Decidable record.PolicyOutOfBounds :=
  inferInstanceAs (Decidable (_ ∨ _ ∨ _ ∨ _))

def validateRecord (record : StableIdentityRecord) : Except RegistryError Unit := do
  ensure (record.schemaVersion = registrySchemaVersion) .unsupportedSchemaVersion
  validatePeerId record.peerId
  validateHex32 record.devicePublicKeyHashHex
  validateHex32 record.nodeSigningPublicKeyHashHex
  validateOptionalHex32 record.meshScopeHashHex
  validateOptionalHex32 record.metadataCommitmentHex
  ensure (¬ record.PolicyOutOfBounds) .policyOutOfBounds

/-- What a record that passes `validate_record` looks like. -/
structure StableIdentityRecord.Valid (record : StableIdentityRecord) : Prop where
  schema : record.schemaVersion = registrySchemaVersion
  peerId : ValidPeerId record.peerId
  deviceHash : ValidHex32 record.devicePublicKeyHashHex
  nodeHash : ValidHex32 record.nodeSigningPublicKeyHashHex
  meshScope : ∀ value, record.meshScopeHashHex = some value → ValidHex32 value
  metadata : ∀ value, record.metadataCommitmentHex = some value → ValidHex32 value
  policy : ¬ record.PolicyOutOfBounds

@[simp] theorem validatePeerId_eq_ok_iff : validatePeerId peerId = .ok u ↔ ValidPeerId peerId := by
  simp [validatePeerId]

@[simp] theorem validateHex32_eq_ok_iff : validateHex32 value = .ok u ↔ ValidHex32 value := by
  simp [validateHex32]

@[simp] theorem validateOptionalHex32_eq_ok_iff :
    validateOptionalHex32 field = .ok u ↔ ∀ value, field = some value → ValidHex32 value := by
  cases field <;> simp [validateOptionalHex32]

theorem validateRecord_eq_ok_iff : validateRecord record = .ok u ↔ record.Valid := by
  simp only [validateRecord, bind_eq_ok_iff, ensure_eq_ok_iff, validatePeerId_eq_ok_iff,
    validateHex32_eq_ok_iff, validateOptionalHex32_eq_ok_iff, exists_const]
  constructor
  · rintro ⟨h1, h2, h3, h4, h5, h6, h7⟩
    exact ⟨h1, h2, h3, h4, h5, h6, h7⟩
  · rintro ⟨h1, h2, h3, h4, h5, h6, h7⟩
    exact ⟨h1, h2, h3, h4, h5, h6, h7⟩

theorem StableIdentityRecord.Valid.restamp {r : StableIdentityRecord} (h : r.Valid)
    (status : IdentityStatus) (hr : revision ≠ 0) :
    { r with status := status, identityRevision := revision }.Valid := by
  obtain ⟨h1, h2, h3, h4, h5, h6, h7⟩ := h
  refine ⟨h1, h2, h3, h4, h5, h6, ?_⟩
  simp only [StableIdentityRecord.PolicyOutOfBounds, not_or] at h7 ⊢
  exact ⟨h7.1, hr, h7.2.2.1, h7.2.2.2⟩

/-! ## JSON layout -/

def IdentityStatus.toJson : IdentityStatus → Json
  | .active => .str "active"
  | .suspended => .str "suspended"
  | .revoked => .str "revoked"

def IdentityStatus.ofName (name : String) : Option IdentityStatus :=
  if name = "active" then some .active
  else if name = "suspended" then some .suspended
  else if name = "revoked" then some .revoked
  else none

/-- A unit variant is read from its name, or from an object that maps its name to `null`. -/
def IdentityStatus.ofJson : Json → Option IdentityStatus
  | .str name => ofName name
  | .obj [(name, .null)] => ofName name
  | _ => none

def StableIdentityRecord.toJson (record : StableIdentityRecord) : Json :=
  .obj [("schema_version", .ofUInt8 record.schemaVersion),
    ("peer_id", .str record.peerId),
    ("owner_daddr", .str record.ownerDaddr),
    ("device_public_key_hash_hex", .str record.devicePublicKeyHashHex),
    ("node_signing_public_key_hash_hex", .str record.nodeSigningPublicKeyHashHex),
    ("status", record.status.toJson),
    ("identity_revision", .ofUInt64 record.identityRevision),
    ("authorization_expires_at", .ofOption .ofUInt64 record.authorizationExpiresAt),
    ("max_peer_record_ttl_seconds", .ofUInt64 record.maxPeerRecordTtlSeconds),
    ("mesh_scope_hash_hex", .ofOption .str record.meshScopeHashHex),
    ("metadata_commitment_hex", .ofOption .str record.metadataCommitmentHex)]

def StableIdentityRecord.fieldNames : List String :=
  ["schema_version", "peer_id", "owner_daddr", "device_public_key_hash_hex",
    "node_signing_public_key_hash_hex", "status", "identity_revision",
    "authorization_expires_at", "max_peer_record_ttl_seconds", "mesh_scope_hash_hex",
    "metadata_commitment_hex"]

def StableIdentityRecord.ofJson (value : Json) : Option StableIdentityRecord :=
  match structFields fieldNames value with
  | some [schemaVersion, peerId, ownerDaddr, deviceHash, nodeHash, status, revision, expiresAt,
      ttl, meshScope, metadata] => do
      pure {
        schemaVersion := ← required asUInt8 schemaVersion
        peerId := ← required asString peerId
        ownerDaddr := ← required asString ownerDaddr
        devicePublicKeyHashHex := ← required asString deviceHash
        nodeSigningPublicKeyHashHex := ← required asString nodeHash
        status := ← required IdentityStatus.ofJson status
        identityRevision := ← required asUInt64 revision
        authorizationExpiresAt := ← optional asUInt64 expiresAt
        maxPeerRecordTtlSeconds := ← required asUInt64 ttl
        meshScopeHashHex := ← optional asString meshScope
        metadataCommitmentHex := ← optional asString metadata }
  | _ => none

variable (event : RegistryEvent)

def RegistryEvent.toJson : Json :=
  .obj [("peer_id", .str event.peerId),
    ("event_type", .str event.eventType),
    ("actor_daddr", .str event.actorDaddr),
    ("identity_revision", .ofUInt64 event.identityRevision)]

def RegistryEvent.fieldNames : List String :=
  ["peer_id", "event_type", "actor_daddr", "identity_revision"]

def RegistryEvent.ofJson (value : Json) : Option RegistryEvent :=
  match structFields fieldNames value with
  | some [peerId, eventType, actorDaddr, revision] => do
      pure {
        peerId := ← required asString peerId
        eventType := ← required asString eventType
        actorDaddr := ← required asString actorDaddr
        identityRevision := ← required asUInt64 revision }
  | _ => none

@[simp] theorem IdentityStatus.ofJson_toJson (status : IdentityStatus) :
    ofJson status.toJson = some status := by
  cases status <;> rfl

private theorem optional_uint64 (x : Option UInt64) :
    optional asUInt64 (some (ofOption ofUInt64 x)) = some x :=
  optional_ofOption asUInt64_ofUInt64 (fun _ h => nomatch h) x

private theorem optional_string (x : Option String) :
    optional asString (some (ofOption str x)) = some x :=
  optional_ofOption asString_str (fun _ h => nomatch h) x

@[simp] theorem StableIdentityRecord.ofJson_toJson (record : StableIdentityRecord) :
    ofJson record.toJson = some record := by
  have hf := structFields_zip fieldNames (by decide)
    [.ofUInt8 record.schemaVersion, .str record.peerId, .str record.ownerDaddr,
      .str record.devicePublicKeyHashHex, .str record.nodeSigningPublicKeyHashHex,
      record.status.toJson, .ofUInt64 record.identityRevision,
      .ofOption .ofUInt64 record.authorizationExpiresAt, .ofUInt64 record.maxPeerRecordTtlSeconds,
      .ofOption .str record.meshScopeHashHex, .ofOption .str record.metadataCommitmentHex] rfl
  have hz : structFields fieldNames record.toJson = _ := hf
  simp [ofJson, hz, optional_uint64, optional_string]

@[simp] theorem RegistryEvent.ofJson_toJson :
    ofJson event.toJson = some event := by
  have hf := structFields_zip fieldNames (by decide)
    [.str event.peerId, .str event.eventType, .str event.actorDaddr,
      .ofUInt64 event.identityRevision] rfl
  have hz : structFields fieldNames event.toJson = _ := hf
  simp [ofJson, hz]

theorem StableIdentityRecord.toJson_injective : Function.Injective toJson := by
  intro a b h
  have hab := congrArg ofJson h
  simpa using hab

end QuantumLink.RegistryV2
