import QuantumLink.Mesh.Connector

/-! # Why the registry stops a connection

A call that has a verified peer record is stopped by the registry for one reason: the first check
that fails. Only the text of the error leaves the connector. Here the reason is worked out from the
data instead, and it is shown that the connector's error is the text of that reason.
-/

namespace QuantumLink.Mesh

open Device Discovery Identity
open Relay (errorText)

/-- The fields of an exact registry record that are compared with the peer record. -/
inductive NodeField where
  | peerId
  | devicePublicKeyHashHex
  | latestPeerRecordHashHex
  | pqcBindingHashHex
  | nodeSigningPublicKeyHashHex
  | transportPublicKeyHashHex
deriving DecidableEq

namespace NodeField

/-- The order in which they are compared. -/
def all : List NodeField :=
  [.peerId, .devicePublicKeyHashHex, .latestPeerRecordHashHex, .pqcBindingHashHex,
    .nodeSigningPublicKeyHashHex, .transportPublicKeyHashHex]

def name : NodeField → String
  | .peerId => "peer_id"
  | .devicePublicKeyHashHex => "device_public_key_hash_hex"
  | .latestPeerRecordHashHex => "latest_peer_record_hash_hex"
  | .pqcBindingHashHex => "pqc_binding_hash_hex"
  | .nodeSigningPublicKeyHashHex => "node_signing_public_key_hash_hex"
  | .transportPublicKeyHashHex => "transport_public_key_hash_hex"

def actual (registry : RegistryNodeRecord) : NodeField → String
  | .peerId => registry.peerId
  | .devicePublicKeyHashHex => registry.devicePublicKeyHashHex
  | .latestPeerRecordHashHex => registry.latestPeerRecordHashHex
  | .pqcBindingHashHex => registry.pqcBindingHashHex
  | .nodeSigningPublicKeyHashHex => registry.nodeSigningPublicKeyHashHex
  | .transportPublicKeyHashHex => registry.transportPublicKeyHashHex

def expected (crates : ClientCrates) (registry : RegistryNodeRecord) (record : PeerRecord) :
    NodeField → String
  | .peerId => record.body.peerId
  | .devicePublicKeyHashHex => Identity.devicePublicKeyHashHex crates record.body.devicePublicKey
  | .latestPeerRecordHashHex => Identity.latestPeerRecordHashHex crates record
  | .pqcBindingHashHex => Identity.pqcBindingHashHex crates registry.ownerDaddr record
  | .nodeSigningPublicKeyHashHex => Identity.nodeSigningPublicKeyHashHex crates record
  | .transportPublicKeyHashHex => Identity.transportPublicKeyHashHex crates record

end NodeField

/-- Why a verified record does not get past the registry. -/
inductive Rejection where
  | lookup (error : QlinkError)
  /-- The registry answered with a record of the version that was not asked for. -/
  | otherVersion (asked : DytallixRegistryBindingVersion)
  /-- The peer record ran out between its own verification and this one. -/
  | recordExpired
  | required
  | revoked
  | suspended
  | expired
  | mismatch (field : NodeField)
  | stable (error : StableIdentityV2Error)

def Rejection.error : Rejection → QlinkError
  | .lookup error => .protocol ("identity registry lookup failed: " ++ errorText error)
  | .otherVersion .exactPeerRecordV1 =>
    .protocol "Dytallix registry returned stable identity v2 for an exact v1 lookup"
  | .otherVersion .stableIdentityV2 =>
    .protocol "Dytallix registry returned exact v1 identity for a stable v2 lookup"
  | .recordExpired => .recordExpired
  | .required => .protocol "registry record required by public mesh trust policy"
  | .revoked => .protocol "registry record is revoked"
  | .suspended => .protocol "registry record is suspended"
  | .expired => .protocol "registry record has expired"
  | .mismatch field => .protocol (field.name ++ " mismatch")
  | .stable error =>
    .protocol ("Dytallix stable identity v2 verification failed: " ++ error.text)

/-! ## The first check that fails -/

/-- The reason the first version of the check has against a record, if it has one. -/
def nodeRejection (crates : ClientCrates) (record : PeerRecord)
    (registryRecord : Option RegistryNodeRecord) (policy : MeshTrustPolicy)
    (clock : BindingClock) : Option Rejection :=
  if record.body.expiresAtUnix ≤ clock.identity then some .recordExpired
  else
    match registryRecord with
    | none => if policy = .publicRequired then some .required else none
    | some registry =>
      match registry.status with
      | .revoked => some .revoked
      | .suspended => some .suspended
      | .active =>
        if ∃ expiresAt ∈ registry.expiresAt, expiresAt ≤ clock.registry then some .expired
        else
          (NodeField.all.find? fun field =>
            decide (field.actual registry ≠ field.expected crates registry record)).map
            .mismatch

/-- The reason the stable version has, if it has one. -/
def stableRejection (crates : ClientCrates) (record : PeerRecord)
    (registryRecord : Option RegistryIdentityRecordV2) (policy : MeshTrustPolicy) (now : UInt64) :
    Option Rejection :=
  match verifyStableRegistryBindingAt crates record registryRecord now with
  | .ok _ => none
  | .error error =>
    if registryRecord = none ∧ policy ≠ .publicRequired then none else some (.stable error)

def lookupRejection (crates : ClientCrates) (record : PeerRecord)
    (registryRecord : Option RegistryIdentityLookupRecord)
    (asked : DytallixRegistryBindingVersion) (policy : MeshTrustPolicy) (clock : BindingClock) :
    Option Rejection :=
  match asked, registryRecord with
  | .exactPeerRecordV1, some (.exactPeerRecordV1 registry) =>
    nodeRejection crates record (some registry) policy clock
  | .exactPeerRecordV1, none => nodeRejection crates record none policy clock
  | .stableIdentityV2, some (.stableIdentityV2 registry) =>
    stableRejection crates record (some registry) policy clock.identity
  | .stableIdentityV2, none => stableRejection crates record none policy clock.identity
  | asked, _ => some (.otherVersion asked)

/-- The reason for which the registry stops a call that has a verified record. -/
def rejection (crates : ClientCrates) (config : MeshConnectorConfig) (record : PeerRecord)
    (call : Call) : Option Rejection :=
  match config.identityRegistryLookup, call.registry, config.meshTrustPolicy with
  | some _, .error error, .publicRequired => some (.lookup error)
  | some _, .error _, _ | none, _, _ =>
    lookupRejection crates record none (bindingVersion config) config.meshTrustPolicy
      call.clock.binding
  | some _, .ok registry, _ =>
    lookupRejection crates record registry (bindingVersion config) config.meshTrustPolicy
      call.clock.binding

/-! ## The connector's error is the text of the reason -/

section
variable {crates : ClientCrates} {record : PeerRecord} {policy : MeshTrustPolicy}
  {clock : BindingClock}

/-- What a check returns against the reason it should have. -/
def Explains (found : Option Rejection) (result : Except QlinkError RegistryDecision) : Prop :=
  match found with
  | some reason => result = .error reason.error
  | none => ∃ decision, result = .ok decision

theorem comparisons_explained (crates : ClientCrates) (record : PeerRecord)
    (r : RegistryNodeRecord) :
    Explains ((NodeField.all.find? fun field =>
        decide (field.actual r ≠ field.expected crates r record)).map .mismatch)
      (do
        requireMatch "peer_id" r.peerId record.body.peerId
        requireMatch "device_public_key_hash_hex" r.devicePublicKeyHashHex
          (devicePublicKeyHashHex crates record.body.devicePublicKey)
        requireMatch "latest_peer_record_hash_hex" r.latestPeerRecordHashHex
          (latestPeerRecordHashHex crates record)
        requireMatch "pqc_binding_hash_hex" r.pqcBindingHashHex
          (pqcBindingHashHex crates r.ownerDaddr record)
        requireMatch "node_signing_public_key_hash_hex" r.nodeSigningPublicKeyHashHex
          (nodeSigningPublicKeyHashHex crates record)
        requireMatch "transport_public_key_hash_hex" r.transportPublicKeyHashHex
          (transportPublicKeyHashHex crates record)
        pure .accepted) := by
  simp only [NodeField.all, List.find?_cons, NodeField.actual, NodeField.expected, requireMatch,
    ensure]
  split_ifs <;> simp_all [Explains, Rejection.error, NodeField.name, bind, Except.bind, pure,
    Except.pure]

/-- Of the checks on the peer record itself, one that verified can only fail the one on the
clock. -/
theorem verifyPeerRecordIdentity_of_verified (hv : record.Verified crates.device meshId earlier) :
    verifyPeerRecordIdentity crates.device record now =
      if record.body.expiresAtUnix ≤ now then .error .recordExpired else .ok () := by
  unfold verifyPeerRecordIdentity
  rw [ensure_of hv.peer, hv.signature]
  by_cases he : record.body.expiresAtUnix ≤ now
  · rw [ensure, if_neg (not_not.mpr he), if_pos he]
    rfl
  · rw [ensure_of he, if_neg he]
    rfl

theorem verifyRegistryBinding_explained {m : String} {e : UInt64}
    (hv : record.Verified crates.device m e)
    (re : Option RegistryNodeRecord) :
    Explains (nodeRejection crates record re policy clock)
      (verifyRegistryBinding crates record re policy clock) := by
  unfold nodeRejection verifyRegistryBinding
  rw [verifyPeerRecordIdentity_of_verified hv]
  by_cases hl : record.body.expiresAtUnix ≤ clock.identity
  · rw [if_pos hl, if_pos hl]
    rfl
  · rw [if_neg hl, if_neg hl]
    cases re with
    | none =>
      cases policy <;>
        simp [Explains, Rejection.error, withoutRegistryRecord, bind, Except.bind]
    | some r =>
      cases hs : r.status with
      | revoked | suspended =>
        simp [hs, Explains, Rejection.error, ensure, RegistryNodeStatus.name, bind, Except.bind]
      | active =>
        by_cases he : ∃ expiresAt ∈ r.expiresAt, expiresAt ≤ clock.registry
        · have hn : ¬ ∀ expiresAt ∈ r.expiresAt, ¬ expiresAt ≤ clock.registry := by
            simpa using he
          simp only [hs, if_pos he, ensure, if_true, if_neg hn]
          rfl
        · have hn : ∀ expiresAt ∈ r.expiresAt, ¬ expiresAt ≤ clock.registry := by
            simpa using he
          simp only [hs, if_neg he, ensure_of hn]
          exact comparisons_explained crates record r

theorem verifyStableLookup_explained (r : Option RegistryIdentityRecordV2) (now : UInt64) :
    Explains (stableRejection crates record r policy now)
      (verifyStableLookup crates record r policy now) := by
  unfold stableRejection verifyStableLookup
  cases verifyStableRegistryBindingAt crates record r now with
  | ok _ => simp [Explains]
  | error error =>
    cases r <;> cases policy <;> simp [Explains, Rejection.error]

theorem verifyRegistryLookupBinding_explained (hv : record.Verified crates.device meshId earlier)
    (r : Option RegistryIdentityLookupRecord)
    (a : DytallixRegistryBindingVersion) :
    Explains (lookupRejection crates record r a policy clock)
      (verifyRegistryLookupBinding crates record r a policy clock) := by
  cases a with
  | exactPeerRecordV1 =>
    match r with
    | none => exact verifyRegistryBinding_explained hv none
    | some (.exactPeerRecordV1 registry) =>
      exact @verifyRegistryBinding_explained crates record policy clock _ _ hv
        (some registry)
    | some (.stableIdentityV2 _) => rfl
  | stableIdentityV2 =>
    match r with
    | none => exact verifyStableLookup_explained none clock.identity
    | some (.stableIdentityV2 registry) =>
      exact verifyStableLookup_explained (some registry) clock.identity
    | some (.exactPeerRecordV1 _) => rfl

theorem stableRejection_of_revoked {r : RegistryIdentityRecordV2}
    (hs : verifyPeerRecordSignature crates.device record now = .ok ())
    (ha : r.validate crates = .ok ()) (hr : r.status = .revoked) :
    stableRejection crates record (some r) policy now = some (.stable .revoked) := by
  have hv : verifyStableRegistryBindingAt crates record (some r) now =
      .error .revoked := by
    have ht : requireActiveAndUnexpired r now = .error .revoked := by
      rw [requireActiveAndUnexpired, hr]
    rw [verifyStableRegistryBindingAt, hs]
    show (r.validate crates >>= fun _ => _) = _
    rw [ha]
    show (requireActiveAndUnexpired r now >>= fun _ => _) = _
    rw [ht]
    rfl
  simp [stableRejection, hv]

end

variable {crates : ClientCrates} {config : MeshConnectorConfig} {call : Call} {record : PeerRecord}
  {reason : Rejection}

theorem verifyTrust_explained (hv : record.Verified crates.device config.meshId call.clock.verify) :
    Explains (rejection crates config record call) (verifyTrust crates config record call) := by
  have he := PeerRecord.verify_eq_ok_iff.mpr hv
  have hb (r : Option RegistryIdentityLookupRecord) :
      Explains
        (lookupRejection crates record r (bindingVersion config) config.meshTrustPolicy
          call.clock.binding)
        (verifyRegistryLookupBinding crates record r (bindingVersion config)
          config.meshTrustPolicy call.clock.binding) :=
    verifyRegistryLookupBinding_explained hv r (bindingVersion config)
  unfold rejection verifyTrust registryRecord
  rw [he]
  cases config.identityRegistryLookup with
  | none => exact hb none
  | some v =>
    cases call.registry with
    | ok r => exact hb r
    | error error =>
      have hn := hb none
      cases hp : config.meshTrustPolicy with
      | publicRequired => rfl
      | privatePreferred | developmentOptional =>
        rw [hp] at hn
        exact hn

/-! ## Calls that the registry stops -/

variable {σ : Type} [PeerStore σ] {store : σ}

/-- The call gets as far as a verified record, and the registry stops it for this reason. -/
structure Rejected (crates : ClientCrates) (config : MeshConnectorConfig) (store : σ) (call : Call)
    (reason : Rejection) : Prop where
  acl : checkAcl config call.remotePeerId = .ok ()
  record : ∃ record, Offered crates config store call record ∧
    record.Verified crates.device config.meshId call.clock.verify ∧
    rejection crates config record call = some reason

theorem Rejected.perform_eq (h : Rejected crates config store call reason) :
    (perform crates config store call).1 = .error reason.error := by
  obtain ⟨r, ho, hv, hr⟩ := h.record
  obtain ⟨s, hf⟩ := fetchRecord_eq_ok_iff.mpr ho
  have ht : verifyTrust crates config r call = .error reason.error := by
    have he := verifyTrust_explained hv
    rwa [hr] at he
  simp only [perform, h.acl, hf]
  show (verifyTrust crates config r call).map _ = _
  rw [ht]
  rfl

end QuantumLink.Mesh
