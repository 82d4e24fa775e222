import QuantumLink.Identity.StableBinding

/-! # Checking a peer record against an exact registry record

The first version of the registry binds one peer record by its hash, so the registry record has
to change with every peer record. Here is the check of the two against each other, and the choice
between this version and the stable one, with what each trust policy makes of a record that is
not there.
-/

namespace QuantumLink.Identity

open Device Discovery
open Json (stringBytes)

/-! ## Data -/

inductive MeshTrustPolicy where
  | publicRequired
  | privatePreferred
  | developmentOptional
deriving DecidableEq

inductive RegistryNodeStatus where
  | active
  | revoked
  | suspended
deriving DecidableEq

structure RegistryNodeRecord where
  peerId : String
  ownerDaddr : String
  devicePublicKeyHashHex : String
  pqcBindingHashHex : String
  nodeSigningPublicKeyHashHex : String
  transportPublicKeyHashHex : String
  latestPeerRecordHashHex : String
  status : RegistryNodeStatus
  expiresAt : Option UInt64

inductive RegistryDecision where
  | accepted
  | acceptedWithoutRegistryPrivate
  | acceptedWithoutRegistryDevelopment

inductive DytallixRegistryBindingVersion where
  | exactPeerRecordV1
  | stableIdentityV2
deriving DecidableEq

inductive RegistryIdentityLookupRecord where
  | exactPeerRecordV1 (record : RegistryNodeRecord)
  | stableIdentityV2 (record : RegistryIdentityRecordV2)

/-! ## Hashes of a peer record -/

def latestPeerRecordHashHex (crates : ClientCrates) (record : PeerRecord) : String :=
  Hex.encode (record.recordHash crates.device)

def nodeSigningPublicKeyHashHex (crates : ClientCrates) (record : PeerRecord) : String :=
  devicePublicKeyHashHex crates record.body.devicePublicKey

def transportPublicKeyHashHex (crates : ClientCrates) (record : PeerRecord) : String :=
  sha256Hex crates record.body.deviceCertificateDer

def bindingPayloadJson (crates : ClientCrates) (ownerDaddr : String) (record : PeerRecord) : Json :=
  .obj [("contract", .str "quantumlink-node-registry"), ("version", .num 1),
    ("owner_daddr", .str ownerDaddr), ("peer_id", .str record.body.peerId),
    ("device_public_key_hash_hex",
      .str (devicePublicKeyHashHex crates record.body.devicePublicKey)),
    ("node_signing_public_key_hash_hex", .str (nodeSigningPublicKeyHashHex crates record)),
    ("transport_public_key_hash_hex", .str (transportPublicKeyHashHex crates record)),
    ("latest_peer_record_hash_hex", .str (latestPeerRecordHashHex crates record))]

def pqcBindingHashHex (crates : ClientCrates) (ownerDaddr : String) (record : PeerRecord) :
    String :=
  sha256Hex crates (bindingPayloadJson crates ownerDaddr record).toBytes

/-! ## The check -/

/-- The readings of the clock that one verification of a binding makes. -/
structure BindingClock where
  identity : UInt64
  registry : UInt64

def verifyPeerRecordIdentity (crates : DeviceCrates) (record : PeerRecord) (now : UInt64) :
    Except QlinkError Unit := do
  ensure (record.body.devicePublicKey.peerId crates = record.body.peerId)
    (.protocol "peer_id does not match device public key")
  ensure (¬ record.body.expiresAtUnix ≤ now) .recordExpired
  record.body.devicePublicKey.verify crates record.body.canonicalBytes record.signature

def requireMatch (field actual expected : String) : Except QlinkError Unit :=
  ensure (actual = expected) (.protocol (field ++ " mismatch"))

def RegistryNodeStatus.name : RegistryNodeStatus → String
  | .active => "active"
  | .revoked => "revoked"
  | .suspended => "suspended"

/-- What a policy makes of a peer that has no registry record. -/
def withoutRegistryRecord : MeshTrustPolicy → Except QlinkError RegistryDecision
  | .publicRequired => .error (.protocol "registry record required by public mesh trust policy")
  | .privatePreferred => .ok .acceptedWithoutRegistryPrivate
  | .developmentOptional => .ok .acceptedWithoutRegistryDevelopment

def verifyRegistryBinding (crates : ClientCrates) (record : PeerRecord)
    (registryRecord : Option RegistryNodeRecord) (policy : MeshTrustPolicy) (clock : BindingClock) :
    Except QlinkError RegistryDecision := do
  verifyPeerRecordIdentity crates.device record clock.identity
  match registryRecord with
  | none => withoutRegistryRecord policy
  | some registry =>
    ensure (registry.status = .active)
      (.protocol ("registry record is " ++ registry.status.name))
    ensure (∀ expiresAt ∈ registry.expiresAt, ¬ expiresAt ≤ clock.registry)
      (.protocol "registry record has expired")
    requireMatch "peer_id" registry.peerId record.body.peerId
    requireMatch "device_public_key_hash_hex" registry.devicePublicKeyHashHex
      (devicePublicKeyHashHex crates record.body.devicePublicKey)
    requireMatch "latest_peer_record_hash_hex" registry.latestPeerRecordHashHex
      (latestPeerRecordHashHex crates record)
    requireMatch "pqc_binding_hash_hex" registry.pqcBindingHashHex
      (pqcBindingHashHex crates registry.ownerDaddr record)
    requireMatch "node_signing_public_key_hash_hex" registry.nodeSigningPublicKeyHashHex
      (nodeSigningPublicKeyHashHex crates record)
    requireMatch "transport_public_key_hash_hex" registry.transportPublicKeyHashHex
      (transportPublicKeyHashHex crates record)
    pure .accepted

def StableIdentityV2Error.text : StableIdentityV2Error → String
  | .unsupportedSchemaVersion version =>
    "unsupported Dytallix stable identity schema version " ++ toString version.toNat
  | .invalidRecord message => "invalid Dytallix stable identity record: " ++ message
  | .missing => "Dytallix stable identity record is missing"
  | .revoked => "Dytallix stable identity is revoked"
  | .suspended => "Dytallix stable identity is suspended"
  | .wrongDevice => "Dytallix stable identity device binding does not match the peer record"
  | .wrongNodeSigningKey =>
    "Dytallix stable identity node signing key does not match the peer record"
  | .authorizationExpired expiresAt =>
    "Dytallix stable identity authorization expired at " ++ toString expiresAt.toNat
  | .missingSignedIssuedAt => "peer record does not contain a signed issued_at_unix timestamp"
  | .invalidPeerRecordTtl message => "peer record TTL is invalid: " ++ message
  | .peerRecordTtlExceeded actualSeconds maximumSeconds =>
    "peer record TTL " ++ toString actualSeconds.toNat ++ "s exceeds registry maximum " ++
      toString maximumSeconds.toNat ++ "s"
  | .invalidPeerRecord message => "peer record is invalid: " ++ message
  | .wrongMeshScope => "peer record mesh scope does not match the stable registry identity"
  | .walletAuthorization message => "wallet authorization is invalid: " ++ message

/-- A stable identity that does not verify is an error, unless there is none and the policy does
without. -/
def verifyStableLookup (crates : ClientCrates) (record : PeerRecord)
    (registryRecord : Option RegistryIdentityRecordV2) (policy : MeshTrustPolicy) (now : UInt64) :
    Except QlinkError RegistryDecision :=
  match verifyStableRegistryBindingAt crates record registryRecord now with
  | .ok _ => .ok .accepted
  | .error error =>
    match registryRecord, policy with
    | none, .privatePreferred => .ok .acceptedWithoutRegistryPrivate
    | none, .developmentOptional => .ok .acceptedWithoutRegistryDevelopment
    | _, _ =>
      .error (.protocol ("Dytallix stable identity v2 verification failed: " ++ error.text))

def verifyRegistryLookupBinding (crates : ClientCrates) (record : PeerRecord)
    (registryRecord : Option RegistryIdentityLookupRecord)
    (bindingVersion : DytallixRegistryBindingVersion) (policy : MeshTrustPolicy)
    (clock : BindingClock) : Except QlinkError RegistryDecision :=
  match bindingVersion, registryRecord with
  | .exactPeerRecordV1, some (.exactPeerRecordV1 registry) =>
    verifyRegistryBinding crates record (some registry) policy clock
  | .exactPeerRecordV1, some (.stableIdentityV2 _) =>
    .error (.protocol "Dytallix registry returned stable identity v2 for an exact v1 lookup")
  | .exactPeerRecordV1, none => verifyRegistryBinding crates record none policy clock
  | .stableIdentityV2, some (.stableIdentityV2 registry) =>
    verifyStableLookup crates record (some registry) policy clock.identity
  | .stableIdentityV2, some (.exactPeerRecordV1 _) =>
    .error (.protocol "Dytallix registry returned exact v1 identity for a stable v2 lookup")
  | .stableIdentityV2, none => verifyStableLookup crates record none policy clock.identity

/-! ## What an accepted binding has passed -/

/-- All that `verify_registry_binding` checks where there is a registry record. -/
structure NodeBound (crates : ClientCrates) (record : PeerRecord) (registry : RegistryNodeRecord)
    (clock : BindingClock) : Prop where
  peer : record.body.devicePublicKey.peerId crates.device = record.body.peerId
  live : clock.identity < record.body.expiresAtUnix
  signature : record.body.devicePublicKey.verify crates.device record.body.canonicalBytes
    record.signature = .ok ()
  active : registry.status = .active
  unexpired : ∀ expiresAt, registry.expiresAt = some expiresAt → clock.registry < expiresAt
  peerId : registry.peerId = record.body.peerId
  deviceKey : registry.devicePublicKeyHashHex =
    devicePublicKeyHashHex crates record.body.devicePublicKey
  latestRecord : registry.latestPeerRecordHashHex = latestPeerRecordHashHex crates record
  binding : registry.pqcBindingHashHex = pqcBindingHashHex crates registry.ownerDaddr record
  signingKey : registry.nodeSigningPublicKeyHashHex = nodeSigningPublicKeyHashHex crates record
  transport : registry.transportPublicKeyHashHex = transportPublicKeyHashHex crates record

/-- The registry record is of the version asked for and everything in it matches. -/
def LookupBound (crates : ClientCrates) (record : PeerRecord)
    (version : DytallixRegistryBindingVersion) (clock : BindingClock) :
    RegistryIdentityLookupRecord → Prop
  | .exactPeerRecordV1 registry =>
    version = .exactPeerRecordV1 ∧ NodeBound crates record registry clock
  | .stableIdentityV2 registry =>
    version = .stableIdentityV2 ∧ Bound crates record registry clock.identity ∧
      LifetimeAllowed record registry

section
variable {crates : ClientCrates} {record : PeerRecord} {policy : MeshTrustPolicy}
  {clock : BindingClock} {decision : RegistryDecision}

theorem verifyRegistryBinding_some_eq_ok_iff :
    verifyRegistryBinding crates record (some registry) policy clock = .ok decision ↔
      NodeBound crates record registry clock ∧ decision = .accepted := by
  simp only [verifyRegistryBinding, verifyPeerRecordIdentity, requireMatch, bind_eq_ok_iff,
    ensure_eq_ok_iff, exists_const, Option.mem_def, UInt64.not_le, pure, Except.pure]
  constructor
  · rintro ⟨_, ⟨he, hi, hs⟩, ha, hu, hp, hde, hl, hb, hsi, ht, hd⟩
    exact ⟨⟨he, hi, hs, ha, hu, hp, hde, hl, hb, hsi, ht⟩, (Except.ok.inj hd).symm⟩
  · rintro ⟨h, rfl⟩
    exact ⟨(), ⟨h.peer, h.live, h.signature⟩, h.active, h.unexpired, h.peerId, h.deviceKey,
      h.latestRecord, h.binding, h.signingKey, h.transport, rfl⟩

theorem verifyStableLookup_some_eq_ok_iff :
    verifyStableLookup crates record (some registry) policy now = .ok decision ↔
      (Bound crates record registry now ∧ LifetimeAllowed record registry) ∧
        decision = .accepted := by
  have hi : verifyStableRegistryBindingAt crates record (some registry) now = .ok .accepted ↔ _ :=
    verifyStableRegistryBindingAt_eq_ok_iff
  unfold verifyStableLookup
  cases hv : verifyStableRegistryBindingAt crates record (some registry) now with
  | ok b =>
    cases b
    obtain ⟨_, heq, hb⟩ := hi.mp hv
    cases heq
    simp [hb, eq_comm]
  | error error =>
    have hn : ¬ (Bound crates record registry now ∧ LifetimeAllowed record registry) := by
      intro hb
      rw [hi.mpr ⟨registry, rfl, hb⟩] at hv
      cases hv
    simp [hn]

/-- A registry record that is there has to match, whatever the policy. -/
theorem verifyRegistryLookupBinding_some_eq_ok_iff :
    verifyRegistryLookupBinding crates record (some registry) version policy clock = .ok decision ↔
      LookupBound crates record version clock registry ∧ decision = .accepted := by
  cases registry with
  | exactPeerRecordV1 registry =>
    cases version with
    | exactPeerRecordV1 =>
      simp [verifyRegistryLookupBinding, LookupBound, verifyRegistryBinding_some_eq_ok_iff]
    | stableIdentityV2 => simp [verifyRegistryLookupBinding, LookupBound]
  | stableIdentityV2 registry =>
    cases version with
    | exactPeerRecordV1 => simp [verifyRegistryLookupBinding, LookupBound]
    | stableIdentityV2 =>
      simp [verifyRegistryLookupBinding, LookupBound, verifyStableLookup_some_eq_ok_iff]

/-- Without a registry record the public policy lets nothing pass; the others let pass what is
signed, or, asked for a stable identity, anything. -/
theorem verifyRegistryLookupBinding_none_ok_iff :
    (∃ decision, verifyRegistryLookupBinding crates record none version policy clock =
        .ok decision) ↔
      policy ≠ .publicRequired ∧ (version = .exactPeerRecordV1 →
        verifyPeerRecordIdentity crates.device record clock.identity = .ok ()) := by
  cases version with
  | exactPeerRecordV1 =>
    have hi : (∃ u, verifyPeerRecordIdentity crates.device record clock.identity = .ok u) ↔
        verifyPeerRecordIdentity crates.device record clock.identity = .ok () :=
      ⟨fun ⟨(), h⟩ => h, fun h => ⟨(), h⟩⟩
    simp only [verifyRegistryLookupBinding, verifyRegistryBinding, bind_eq_ok_iff]
    cases policy <;> simp [withoutRegistryRecord, hi]
  | stableIdentityV2 =>
    simp only [verifyRegistryLookupBinding, verifyStableLookup]
    cases hv : verifyStableRegistryBindingAt crates record none clock.identity with
    | ok b =>
      obtain ⟨_, heq, -⟩ := verifyStableRegistryBindingAt_eq_ok_iff.mp hv
      cases heq
    | error error => cases policy <;> simp

end

end QuantumLink.Identity
