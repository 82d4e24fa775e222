import QuantumLink.Discovery.Record
import QuantumLink.Foundation.Json.Map
import QuantumLink.Session.Wire

/-! # Peer records as text

How a signed peer record is read from JSON, and that a record that was written is read back. A
record from before the time of issue was added has no such member, and none is written for it.
-/

namespace QuantumLink.Discovery

open Device
open Session (publicKeyOfJson publicKeyOfJson_toJson tagOfJson)
open UnsignedPeerRecord
open Json

/-- A field that has a default where it is absent. -/
def defaulted {α : Type} (read : Json → Option α) (value : α) : Option Json → Option α
  | none => some value
  | some field => read field

def CandidateType.ofJson (value : Json) : Option CandidateType := do
  let tag ← tagOfJson value
  if tag = "host" then some .host
  else if tag = "server_reflexive" then some .serverReflexive
  else if tag = "quantum_link_relay" then some .quantumLinkRelay
  else if tag = "relay" then some .relay
  else none

def CandidateEndpoint.ofJson (value : Json) : Option CandidateEndpoint :=
  match openFields ["candidate_type", "address", "port", "priority"] value with
  | some [candidateType, address, port, priority] => do
      pure {
        candidateType := ← required CandidateType.ofJson candidateType
        address := ← required asString address
        port := ← required asUInt16 port
        priority := ← required asUInt32 priority }
  | _ => none

def IceCredentials.ofJson (value : Json) : Option IceCredentials :=
  match openFields ["ufrag", "password"] value with
  | some [ufrag, password] => do
      pure {
        ufrag := ← required asString ufrag
        password := ← required asString password }
  | _ => none

def bodyNames : List String :=
  ["mesh_id", "peer_id", "alias", "device_public_key", "endpoints", "routes", "issued_at_unix",
    "expires_at_unix", "sequence", "ice_credentials", "device_certificate_der"]

/-- In an array the last field, which has a default, may be left off. -/
def bodyFields : Json → Option (List (Option Json))
  | .arr items =>
    if items.length + 1 = bodyNames.length then some (items.map some ++ [none])
    else openFields bodyNames (.arr items)
  | value => openFields bodyNames value

def UnsignedPeerRecord.ofJson (value : Json) : Option UnsignedPeerRecord :=
  match bodyFields value with
  | some [meshId, peerId, peerAlias, key, endpoints, routes, issued, expires, sequence, credentials,
      certificate] => do
      pure {
        meshId := ← required asString meshId
        peerId := ← required asString peerId
        peerAlias := ← required asString peerAlias
        devicePublicKey := ← required publicKeyOfJson key
        endpoints := ← required (asList CandidateEndpoint.ofJson) endpoints
        routes := ← required (asList asString) routes
        issuedAtUnix := ← defaulted asUInt64 0 issued
        expiresAtUnix := ← required asUInt64 expires
        sequence := ← required asUInt64 sequence
        iceCredentials := ← required IceCredentials.ofJson credentials
        deviceCertificateDer := ← defaulted (asList asUInt8) [] certificate }
  | _ => none

def PeerRecord.ofJson (value : Json) : Option PeerRecord :=
  match Json.openFields ["body", "signature"] value with
  | some [body, signature] => do
      pure {
        body := ← Json.required UnsignedPeerRecord.ofJson body
        signature := ← Json.required (Json.asList Json.asUInt8) signature }
  | _ => none

/-! ## What is written is read back -/

theorem CandidateType.ofJson_name (candidateType : CandidateType) :
    CandidateType.ofJson (.str candidateType.name) = some candidateType := by
  cases candidateType <;> rfl

theorem CandidateEndpoint.ofJson_toJson (endpoint : CandidateEndpoint) :
    CandidateEndpoint.ofJson endpoint.toJson = some endpoint := by
  have hz : openFields ["candidate_type", "address", "port", "priority"] endpoint.toJson = _ :=
    openFields_zip _ (by decide) [.str endpoint.candidateType.name, .str endpoint.address,
      .num endpoint.port.toNat, .num endpoint.priority.toNat] rfl
  simp [CandidateEndpoint.ofJson, hz, CandidateType.ofJson_name]

theorem IceCredentials.ofJson_toJson (credentials : IceCredentials) :
    IceCredentials.ofJson credentials.toJson = some credentials := by
  have hz : openFields ["ufrag", "password"] credentials.toJson = _ :=
    openFields_zip _ (by decide) [.str credentials.ufrag, .str credentials.password] rfl
  simp [IceCredentials.ofJson, hz]

/-- The fields of a body that was written: the time of issue is there unless it is zero. -/
theorem bodyFields_toJson (b : UnsignedPeerRecord) :
    bodyFields b.toJson = some [some (.str b.meshId), some (.str b.peerId),
      some (.str b.peerAlias), some b.devicePublicKey.toJson,
      some (.arr (b.endpoints.map CandidateEndpoint.toJson)), some (.arr (b.routes.map .str)),
      if b.issuedAtUnix = 0 then none else some (.ofUInt64 b.issuedAtUnix),
      some (.ofUInt64 b.expiresAtUnix), some (.ofUInt64 b.sequence),
      some b.iceCredentials.toJson, some (.ofByteList b.deviceCertificateDer)] := by
  by_cases hl : b.issuedAtUnix = 0
  · simp [bodyFields, toJson, hl, openFields, bodyNames, List.lookup]
  · simp [bodyFields, toJson, hl, openFields, bodyNames, List.lookup]

theorem UnsignedPeerRecord.ofJson_toJson (body : UnsignedPeerRecord) :
    ofJson body.toJson = some body := by
  have he := asList_map CandidateEndpoint.ofJson_toJson body.endpoints
  have hr := asList_map asString_str body.routes
  have hi : defaulted asUInt64 0 (if body.issuedAtUnix = 0 then none else
      some (.ofUInt64 body.issuedAtUnix)) = some body.issuedAtUnix := by
    split
    · rename_i hl
      rw [defaulted, hl]
    · rw [defaulted, asUInt64_ofUInt64]
  simp only [ofJson, bodyFields_toJson, hi]
  simp [he, hr, defaulted, publicKeyOfJson_toJson, IceCredentials.ofJson_toJson]

theorem PeerRecord.ofJson_toJson (record : PeerRecord) :
    PeerRecord.ofJson record.toJson = some record := by
  have hz : openFields ["body", "signature"] record.toJson = _ :=
    openFields_zip _ (by decide) [record.body.toJson, .ofByteList record.signature] rfl
  simp [PeerRecord.ofJson, hz, UnsignedPeerRecord.ofJson_toJson]

/-- A record that was written and read back is signed over the same bytes, verifies alike and has the
same hash, and the signed bytes determine the body. -/
theorem peer_record_survives_transport : (∀ record : PeerRecord, ∃ read,
      (ofBytes record.toJson.toBytes).bind PeerRecord.ofJson = some read ∧
      read.body.canonicalBytes = record.body.canonicalBytes ∧
      (∀ crates meshId now, read.verify crates meshId now = record.verify crates meshId now) ∧
      ∀ crates, read.recordHash crates = record.recordHash crates) ∧
    ∀ a b : UnsignedPeerRecord, a.canonicalBytes = b.canonicalBytes → a = b := by
  constructor
  · intro record
    refine ⟨record, ?_, rfl, fun _ _ _ => rfl, fun _ => rfl⟩
    rw [ofBytes_toBytes, Option.bind_some, PeerRecord.ofJson_toJson]
  · intro a b hb
    have hr := congrArg ofJson (toBytes_injective hb)
    rw [ofJson_toJson, ofJson_toJson] at hr
    exact Option.some.inj hr

end QuantumLink.Discovery
