import QuantumLink.Mesh.Connector

/-! # Inbound identity assertions

The first message on an inbound session names the peer, its key, the mesh and the time, and is
signed. It is verified before the access list is consulted: who cannot sign learns nothing about
the list.
-/

namespace QuantumLink.Mesh

open Device
open Relay (errorText)

structure InboundIdentityAssertion where
  peerId : String
  meshId : String
  timestampUnix : UInt64
  nonce : { bytes : Bytes // bytes.length = 16 }
  devicePublicKey : DevicePublicKey
  signature : Bytes

def canonicalSigningBytes (peerId meshId : String) (timestampUnix : UInt64) (nonce : Bytes) :
    Bytes :=
  (Json.obj [("v", .num 1), ("peer_id", .str peerId), ("mesh_id", .str meshId),
    ("timestamp_unix", .num timestampUnix.toNat), ("nonce_hex", .str (Hex.encode nonce))]).toBytes

inductive InboundDecision where
  | accepted
  | rejectedByCrypto (detail : String)
  | rejectedByAcl (decision : PeerAclDecision)

namespace InboundIdentityAssertion

variable (crates : DeviceCrates) (self : InboundIdentityAssertion) (expectedMeshId : String)
  (maxAgeSeconds now : UInt64)

def verifySignature : Except QlinkError Unit :=
  self.devicePublicKey.verify crates
    (canonicalSigningBytes self.peerId self.meshId self.timestampUnix self.nonce) self.signature

/-- The clock is read once. Its differences and sums saturate. -/
def verify : Except QlinkError Unit := do
  let derivedPeerId := self.devicePublicKey.peerId crates
  ensure (derivedPeerId = self.peerId)
    (.protocol ("inbound assertion peer_id (" ++ self.peerId ++
      ") does not match device_public_key-derived id (" ++ derivedPeerId ++ ")"))
  ensure (self.meshId = expectedMeshId)
    (.protocol ("inbound assertion mesh_id mismatch: claimed " ++ self.meshId ++
      " but receiver expects " ++ expectedMeshId))
  let age := now.toNat - self.timestampUnix.toNat
  ensure (¬ age > maxAgeSeconds.toNat)
    (.protocol ("inbound assertion is " ++ toString age ++ " s old (max " ++
      toString maxAgeSeconds ++ " s)"))
  ensure (¬ self.timestampUnix.toNat > min (now.toNat + maxAgeSeconds.toNat) (UInt64.size - 1))
    (.protocol "inbound assertion timestamp is too far in the future")
  self.verifySignature crates

/-- The key belongs to the peer, the mesh is the expected one, and the signature is good and made
within the maximum age of now, before or after. -/
structure Genuine : Prop where
  peerId : self.devicePublicKey.peerId crates = self.peerId
  meshId : self.meshId = expectedMeshId
  signature : self.verifySignature crates = .ok ()
  fresh : |(self.timestampUnix.toNat : Int) - now.toNat| ≤ maxAgeSeconds.toNat

theorem verify_eq_ok_iff : self.verify crates expectedMeshId maxAgeSeconds now = .ok () ↔
    Genuine crates self expectedMeshId maxAgeSeconds now := by
  have hb : self.timestampUnix.toNat ≤ UInt64.size - 1 := Nat.le_pred_of_lt self.timestampUnix.toNat_lt
  simp only [verify, bind_eq_ok_iff, ensure_eq_ok_iff, exists_const]
  constructor
  · rintro ⟨hp, hm, ha, hf, hs⟩
    exact ⟨hp, hm, hs, abs_le.mpr (by omega)⟩
  · rintro ⟨hp, hm, hs, hr⟩
    have hd := abs_le.mp hr
    exact ⟨hp, hm, by omega, by omega, hs⟩

end InboundIdentityAssertion

variable (crates : DeviceCrates)

variable (assertion : InboundIdentityAssertion)

variable (expectedMeshId : String)

def evaluateInbound (maxAgeSeconds now : UInt64) (inboundAcl : Option PeerAcl) :
    InboundDecision :=
  match assertion.verify crates expectedMeshId maxAgeSeconds now with
  | .error error => .rejectedByCrypto (errorText error)
  | .ok () =>
    match inboundAcl with
    | none => .accepted
    | some acl =>
      let decision := acl.evaluate assertion.peerId
      if decision = .allowed then .accepted else .rejectedByAcl decision

/-- An assertion that is not genuine is answered without regard to the access list, and the peer of
one that is gets in if the list permits it. -/
theorem inbound_admission_keeps_acl (maxAgeSeconds now : UInt64) :
    (¬ assertion.Genuine crates expectedMeshId maxAgeSeconds now → ∀ acl acl',
      evaluateInbound crates assertion expectedMeshId maxAgeSeconds now acl =
        evaluateInbound crates assertion expectedMeshId maxAgeSeconds now acl') ∧
    ∀ inboundAcl,
      evaluateInbound crates assertion expectedMeshId maxAgeSeconds now inboundAcl = .accepted ↔
        assertion.Genuine crates expectedMeshId maxAgeSeconds now ∧ ∀ acl ∈ inboundAcl,
          assertion.peerId ∉ acl.deny ∧ ∀ allowlist ∈ acl.allow, assertion.peerId ∈ allowlist := by
  simp only [← InboundIdentityAssertion.verify_eq_ok_iff, evaluateInbound]
  cases assertion.verify crates expectedMeshId maxAgeSeconds now with
  | error error => simp
  | ok _ =>
    refine ⟨fun h => absurd rfl h, fun inboundAcl => ?_⟩
    cases inboundAcl with
    | none => simp
    | some acl =>
      by_cases hd : assertion.peerId ∈ acl.deny
      · simp [PeerAcl.evaluate, hd]
      · cases ha : acl.allow with
        | none => simp [PeerAcl.evaluate, hd, ha]
        | some allowlist =>
          by_cases hl : assertion.peerId ∈ allowlist <;>
            simp [PeerAcl.evaluate, hd, ha, hl]

end QuantumLink.Mesh
