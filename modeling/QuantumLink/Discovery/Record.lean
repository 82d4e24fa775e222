import QuantumLink.Device.Keys
import QuantumLink.Foundation.Shake256

/-! # Signed peer records

What a peer publishes about itself: where it can be reached, for how long, and under which
sequence number, signed with its device key. The signature covers the JSON text of the body.
-/

namespace QuantumLink.Discovery

open Device

inductive CandidateType where
  | host
  | serverReflexive
  | quantumLinkRelay
  | relay
deriving DecidableEq

structure CandidateEndpoint where
  candidateType : CandidateType
  address : String
  port : UInt16
  priority : UInt32

structure IceCredentials where
  ufrag : String
  password : String

structure UnsignedPeerRecord where
  meshId : String
  peerId : String
  peerAlias : String
  devicePublicKey : DevicePublicKey
  endpoints : List CandidateEndpoint
  routes : List String
  /-- Zero in a record from before the field existed. -/
  issuedAtUnix : UInt64
  expiresAtUnix : UInt64
  sequence : UInt64
  iceCredentials : IceCredentials
  deviceCertificateDer : Bytes

structure PeerRecord where
  body : UnsignedPeerRecord
  signature : Bytes

/-! ## The signed text -/

def CandidateType.name : CandidateType → String
  | .host => "host"
  | .serverReflexive => "server_reflexive"
  | .quantumLinkRelay => "quantum_link_relay"
  | .relay => "relay"

def CandidateEndpoint.toJson (endpoint : CandidateEndpoint) : Json :=
  .obj [("candidate_type", .str endpoint.candidateType.name), ("address", .str endpoint.address),
    ("port", .num endpoint.port.toNat), ("priority", .num endpoint.priority.toNat)]

def IceCredentials.toJson (credentials : IceCredentials) : Json :=
  .obj [("ufrag", .str credentials.ufrag), ("password", .str credentials.password)]

/-- The time of issue is left out where it is zero, so that the signature of an older record
still covers the same text. -/
def UnsignedPeerRecord.toJson (body : UnsignedPeerRecord) : Json :=
  .obj ([("mesh_id", .str body.meshId), ("peer_id", .str body.peerId), ("alias", .str body.peerAlias),
      ("device_public_key", body.devicePublicKey.toJson),
      ("endpoints", .arr (body.endpoints.map CandidateEndpoint.toJson)),
      ("routes", .arr (body.routes.map .str))] ++
    (if body.issuedAtUnix = 0 then [] else [("issued_at_unix", .ofUInt64 body.issuedAtUnix)]) ++
    [("expires_at_unix", .ofUInt64 body.expiresAtUnix), ("sequence", .ofUInt64 body.sequence),
      ("ice_credentials", body.iceCredentials.toJson),
      ("device_certificate_der", .ofByteList body.deviceCertificateDer)])

def UnsignedPeerRecord.canonicalBytes (body : UnsignedPeerRecord) : Bytes := body.toJson.toBytes

namespace PeerRecord

def signed (body : UnsignedPeerRecord) (keypair : DeviceKeypair) : PeerRecord :=
  ⟨body, keypair.sign body.canonicalBytes⟩

/-! ## Verification -/

def verify (crates : DeviceCrates) (record : PeerRecord) (expectedMeshId : String) (now : UInt64) :
    Except QlinkError Unit := do
  ensure (record.body.meshId = expectedMeshId) (.protocol "peer record mesh id mismatch")
  ensure (¬ (record.body.issuedAtUnix ≠ 0 ∧ record.body.expiresAtUnix ≤ record.body.issuedAtUnix))
    (.protocol "peer record expiration must be after issuance")
  ensure (¬ record.body.expiresAtUnix ≤ now) .recordExpired
  ensure (record.body.devicePublicKey.peerId crates = record.body.peerId)
    (.protocol "peer id does not match device public key")
  record.body.devicePublicKey.verify crates record.body.canonicalBytes record.signature

/-- What a verified record is: of this mesh, unexpired, named after its key and signed with it. -/
structure Verified (crates : DeviceCrates) (record : PeerRecord) (meshId : String) (now : UInt64) :
    Prop where
  mesh : record.body.meshId = meshId
  issued : record.body.issuedAtUnix = 0 ∨ record.body.issuedAtUnix < record.body.expiresAtUnix
  unexpired : now < record.body.expiresAtUnix
  peer : record.body.devicePublicKey.peerId crates = record.body.peerId
  signature :
    record.body.devicePublicKey.verify crates record.body.canonicalBytes record.signature = .ok ()

theorem verify_eq_ok_iff {r : PeerRecord} : r.verify crates meshId now = .ok () ↔ Verified crates r meshId now := by
  have hi : ¬ (r.body.issuedAtUnix ≠ 0 ∧
        r.body.expiresAtUnix ≤ r.body.issuedAtUnix) ↔
      r.body.issuedAtUnix = 0 ∨ r.body.issuedAtUnix < r.body.expiresAtUnix := by
    rw [not_and_or, not_not, UInt64.not_le]
  simp only [verify, bind_eq_ok_iff, ensure_eq_ok_iff, exists_const, hi, UInt64.not_le]
  constructor
  · rintro ⟨hm, hi, hu, hp, hs⟩
    exact ⟨hm, hi, hu, hp, hs⟩
  · intro h
    exact ⟨h.mesh, h.issued, h.unexpired, h.peer, h.signature⟩

def toJson (record : PeerRecord) : Json :=
  .obj [("body", record.body.toJson), ("signature", .ofByteList record.signature)]

def recordHash (crates : DeviceCrates) (record : PeerRecord) : Bytes :=
  shake256Xof crates 32 (Json.stringBytes "QuantumLink peer record hash v1") [record.toJson.toBytes]

/-- A body that names the key it is signed with verifies until it expires. -/
theorem verify_signed {b : UnsignedPeerRecord} {k : DeviceKeypair} (hk : b.devicePublicKey = k.publicKey)
    (hp : b.peerId = k.publicKey.peerId crates)
    (hi : b.issuedAtUnix < b.expiresAtUnix) (hn : now < b.expiresAtUnix)
    (hv : ∀ message, k.publicKey.verify crates message (k.sign message) = .ok ()) :
    (signed b k).verify crates b.meshId now = .ok () := by
  rw [verify_eq_ok_iff]
  refine ⟨rfl, .inr hi, hn, ?_, ?_⟩
  · show b.devicePublicKey.peerId crates = b.peerId
    rw [hk, hp]
  · show b.devicePublicKey.verify crates b.canonicalBytes _ = _
    rw [hk]
    exact hv b.canonicalBytes

end PeerRecord

/-! ## A sample device -/

/-- The signatures of the sample device. -/
def sampleCrates : DeviceCrates where
  shake256 := Shake256.hash
  mlDsa65 :=
    { decodesKey := fun key => decide (key.length = mlDsa65KeyLength)
      decodesSignature := fun signature => decide (signature.length = mlDsa65SignatureLength)
      verify := fun _ message signature =>
        decide (signature = Shake256.hash mlDsa65SignatureLength message) }
  slhDsaShake128s :=
    { decodesKey := fun key => decide (key.length = 32)
      decodesSignature := fun signature => decide (signature.length = 7856)
      verify := fun _ _ _ => false }

@[irreducible] def sampleKey : Bytes := List.replicate mlDsa65KeyLength 0

def sampleDevice : DeviceKeypair := ⟨.mlDsa ⟨sampleKey, Shake256.hash mlDsa65SignatureLength⟩⟩

@[irreducible] def samplePeer : String := sampleDevice.publicKey.peerId sampleCrates

theorem samplePeer_eq : samplePeer = sampleDevice.publicKey.peerId sampleCrates := by
  unfold samplePeer
  rfl

theorem sampleDevice_verify (m : Bytes) :
    sampleDevice.publicKey.verify sampleCrates m (sampleDevice.sign m) = .ok () := by
  have hk : sampleKey.length = mlDsa65KeyLength := by
    unfold sampleKey
    exact List.length_replicate
  have hl : (Shake256.hash mlDsa65SignatureLength m).length = mlDsa65SignatureLength :=
    Shake256.length_hash _ _
  simp only [DevicePublicKey.verify, DeviceKeypair.publicKey, DeviceKeypair.sign, sampleDevice,
    if_true, hk, hl, sampleCrates, decide_true, ensure_of]
  rfl

def sampleBody (issuedAtUnix expiresAtUnix sequence : UInt64) : UnsignedPeerRecord where
  meshId := "devmesh"
  peerId := samplePeer
  peerAlias := "peer"
  devicePublicKey := sampleDevice.publicKey
  endpoints := []
  routes := []
  issuedAtUnix := issuedAtUnix
  expiresAtUnix := expiresAtUnix
  sequence := sequence
  iceCredentials := ⟨"ufrag", "password"⟩
  deviceCertificateDer := []

def sampleRecord (issuedAtUnix expiresAtUnix sequence : UInt64) : PeerRecord :=
  .signed (sampleBody issuedAtUnix expiresAtUnix sequence) sampleDevice

theorem sampleRecord_verify (s : UInt64)
    (hi : issuedAtUnix < expiresAtUnix) (hn : now < expiresAtUnix) :
    (sampleRecord issuedAtUnix expiresAtUnix s).verify sampleCrates "devmesh" now = .ok () := by
  have hb : (sampleBody issuedAtUnix expiresAtUnix s).meshId = "devmesh" := rfl
  rw [sampleRecord, ← hb]
  exact PeerRecord.verify_signed rfl samplePeer_eq hi hn sampleDevice_verify

end QuantumLink.Discovery
