import QuantumLink.Identity.ClientV2
import QuantumLink.RegistryV2.Honest

/-! # A client's registration at the contract

What the contract makes of a registration that the client built and signed. The JSON
layouts, the key hash and the policy bounds of the two sides agree, so a request is read
as the client's own record and its payloads are the ones the wallet and the device
signed. The peer ids do not agree: the client takes sixteen bytes of SHAKE256 over a
labelled encoding of the key, the contract the first sixteen of SHA-256 over its bytes.
-/

namespace QuantumLink.Identity

open Device RegistryV2
open Json (stringBytes)

/-! ## The client's data as the contract reads it -/

def RegistryIdentityStatusV2.onChain : RegistryIdentityStatusV2 → IdentityStatus
  | .active => .active
  | .revoked => .revoked
  | .suspended => .suspended

def RegistryIdentityRecordV2.onChain (record : RegistryIdentityRecordV2) :
    StableIdentityRecord where
  schemaVersion := record.schemaVersion
  peerId := record.peerId
  ownerDaddr := record.ownerDaddr
  devicePublicKeyHashHex := record.devicePublicKeyHashHex
  nodeSigningPublicKeyHashHex := record.nodeSigningPublicKeyHashHex
  status := record.status.onChain
  identityRevision := record.identityRevision
  authorizationExpiresAt := record.authorizationExpiresAt
  maxPeerRecordTtlSeconds := record.maxPeerRecordTtlSeconds
  meshScopeHashHex := record.meshScopeHashHex
  metadataCommitmentHex := record.metadataCommitmentHex

variable (re : RegistryIdentityRecordV2)

theorem onChain_toJson : re.onChain.toJson = re.toJson := by
  have hs : re.onChain.status.toJson = re.status.toJson := by
    show re.status.onChain.toJson = _
    cases re.status <;> rfl
  unfold StableIdentityRecord.toJson RegistryIdentityRecordV2.toJson
  rw [hs]
  rfl

theorem onChain_status_eq_active_iff :
    re.onChain.status = .active ↔ re.status = .active := by
  show re.status.onChain = .active ↔ _
  cases re.status <;> simp [RegistryIdentityStatusV2.onChain]

def registrationCall (record : RegistryIdentityRecordV2) (wallet : WalletAuthorizationV2)
    (device : DeviceAuthorizationV2) : Call :=
  .register record.onChain ⟨wallet.actorPublicKeyHex, wallet.actorSignatureHex⟩
    ⟨device.devicePublicKeyAlgorithm, device.devicePublicKeyHex, device.deviceSignatureHex⟩

theorem request_recordMutationRequestJson (w : WalletAuthorizationV2) (d : DeviceAuthorizationV2) :
    EntryPoint.registerIdentity.request (recordMutationRequestJson re w d) =
      some (registrationCall re w d) := by
  have hj : recordMutationRequestJson re w d =
      (registrationCall re w d).requestJson := by
    unfold recordMutationRequestJson
    rw [← onChain_toJson]
    rfl
  rw [hj]
  exact (registrationCall re w d).request_requestJson

theorem walletPayloadJson_eq : walletPayloadJson operation record =
      recordPayloadJson operation.contractMethod record.onChain := by
  unfold walletPayloadJson recordPayloadJson
  rw [onChain_toJson]
  rfl

theorem devicePayloadJson_toBytes :
    (devicePayloadJson record).toBytes = deviceBinding record.onChain := by
  unfold devicePayloadJson deviceBinding
  rw [onChain_toJson]
  rfl

theorem devicePublicKeyHashHex_eq (client : ClientCrates) {env : Env}
    (hs : client.sha256 = env.sha256) (key : DevicePublicKey) :
    RegistryV2.devicePublicKeyHashHex env key.algorithm key.bytes =
      Identity.devicePublicKeyHashHex client key := by
  unfold RegistryV2.devicePublicKeyHashHex Identity.devicePublicKeyHashHex sha256Hex
  rw [hs]
  rfl

/-! ## Canonical payloads -/

/-- What a canonical payload of the contract is made from. -/
inductive CanonicalInput where
  | register (record : StableIdentityRecord)
  | update (record : StableIdentityRecord)
  | suspend (peerId : { peerId // ValidPeerId peerId }) (identityRevision : UInt64)
  | revoke (peerId : { peerId // ValidPeerId peerId }) (identityRevision : UInt64)
  | deviceAuthorization (record : StableIdentityRecord)

namespace CanonicalInput

def payload : CanonicalInput → Except RegistryError Bytes
  | .register record => canonicalRegisterPayload record
  | .update record => canonicalUpdatePayload record
  | .suspend peerId revision => canonicalSuspendPayload peerId revision
  | .revoke peerId revision => canonicalRevokePayload peerId revision
  | .deviceAuthorization record => canonicalDeviceAuthorizationPayload record

def json : CanonicalInput → Json
  | .register record => recordPayloadJson "register_identity" record
  | .update record => recordPayloadJson "update_identity" record
  | .suspend peerId revision => statusPayloadJson "suspend_identity" peerId revision
  | .revoke peerId revision => statusPayloadJson "revoke_identity" peerId revision
  | .deviceAuthorization record =>
    .obj [("contract", .str RegistryV2.contractDomain),
      ("schema_version", .ofUInt8 registrySchemaVersion),
      ("purpose", .str RegistryV2.deviceAuthorizationPurpose),
      ("binding", record.toJson)]

theorem payload_eq (i : CanonicalInput) : i.payload = .ok i.json.toBytes := by
  cases i with
  | register r | update r => rfl
  | suspend p re | revoke p re => exact canonicalStatusPayload_eq_ok_iff.mpr ⟨p.2, rfl⟩
  | deviceAuthorization r => rfl

/-- The keys tell a record's payload, a status's and a device's apart, and the operation the rest. -/
theorem json_injective : Function.Injective json := by
  intro a b h
  cases a <;> cases b <;>
    simp [json, recordPayloadJson, statusPayloadJson, StableIdentityRecord.toJson_injective.eq_iff,
      Subtype.ext_iff] at h ⊢ <;> exact h

end CanonicalInput

theorem canonicalStatusPayloadBytes_eq (hp : ValidPeerId peerId) (hr : revision ≠ 0)
    (o : RegistryIdentityStatusOperationV2) :
    canonicalStatusPayloadBytes o peerId revision =
      .ok (statusPayloadJson o.contractMethod peerId revision).toBytes := by
  have hq : (0x71 : UInt8) ∈ stringBytes peerId := hp.1.subset (by decide)
  obtain ⟨c, hm, hc⟩ := List.mem_flatMap.mp hq
  have ho := toNat_of_mem_utf8EncodeChar hc (by decide)
  have ht : trim peerId ≠ [] := trim_ne_nil hm (by simp [isWhitespace, ho])
  rw [canonicalStatusPayloadBytes, ensure_of ht, ensure_of hr]
  rfl

/-- The five payloads of the contract are told apart by their bytes, and so is what they were made
from. The client writes the same bytes wherever it writes any. -/
theorem canonical_payloads_agree (crates : ClientCrates) :
    (∃ bytes : CanonicalInput → Bytes, Function.Injective bytes ∧
      ∀ input : CanonicalInput, input.payload = .ok (bytes input)) ∧
    (∀ record : RegistryIdentityRecordV2, ∃ register update device,
      canonicalRegisterPayload record.onChain = .ok register ∧
      canonicalUpdatePayload record.onChain = .ok update ∧
      canonicalDeviceAuthorizationPayload record.onChain = .ok device ∧
      canonicalWalletPayloadBytes crates .register record =
        (record.validate crates).map (fun _ => register) ∧
      canonicalWalletPayloadBytes crates .update record =
        (record.validate crates).map (fun _ => update) ∧
      ∀ operation, canonicalDevicePayloadBytes crates operation record =
        (record.validate crates).map (fun _ => device)) ∧
    ∀ peerId revision, ValidPeerId peerId → ∃ suspend revoke,
      canonicalSuspendPayload peerId revision = .ok suspend ∧
      canonicalRevokePayload peerId revision = .ok revoke ∧
      (revision ≠ 0 → canonicalStatusPayloadBytes .suspend peerId revision = .ok suspend ∧
        canonicalStatusPayloadBytes .revoke peerId revision = .ok revoke) := by
  refine ⟨⟨fun input => input.json.toBytes, ?_, CanonicalInput.payload_eq⟩, ?_, ?_⟩
  · exact Json.toBytes_injective.comp CanonicalInput.json_injective
  · intro record
    refine ⟨_, _, _, rfl, rfl, rfl, ?_, ?_, fun operation => ?_⟩
    · rw [canonicalWalletPayloadBytes, walletPayloadJson_eq]
      rfl
    · rw [canonicalWalletPayloadBytes, walletPayloadJson_eq]
      rfl
    · rw [canonicalDevicePayloadBytes, devicePayloadJson_toBytes]
      rfl
  · intro peerId revision hp
    exact ⟨_, _, canonicalStatusPayload_eq_ok_iff.mpr ⟨hp, rfl⟩,
      canonicalStatusPayload_eq_ok_iff.mpr ⟨hp, rfl⟩, fun hr =>
        ⟨canonicalStatusPayloadBytes_eq hp hr .suspend,
          canonicalStatusPayloadBytes_eq hp hr .revoke⟩⟩

/-- A registration a client has built and signed. -/
structure ClientRegistration (client : ClientCrates) where
  device : DeviceKeypair
  wallet : DytallixKeypair
  policy : RecordPolicy
  record : RegistryIdentityRecordV2
  walletAuthorization : WalletAuthorizationV2
  deviceAuthorization : DeviceAuthorizationV2
  built : fromDevicePublicKey client device.publicKey policy = .ok record
  walletSigned :
    WalletAuthorizationV2.signRecord client .register record wallet = .ok walletAuthorization
  deviceSigned :
    DeviceAuthorizationV2.signRecord client .register record device = .ok deviceAuthorization

/-- The two builds use the same hash and the same addresses, with the output lengths of
the real hashes, and no address is the empty text. -/
structure CratesAgree (client : ClientCrates) (env : Env) : Prop where
  sha256 : client.sha256 = env.sha256
  sha256Length : ∀ bytes, (env.sha256 bytes).length = 32
  shake256Length : ∀ n bytes, (client.device.shake256 n bytes).length = n
  address : ∀ key owner, client.daddrFromPublicKey key = .ok owner →
    env.wallet.daddrFromPublicKey key = .ok owner
  emptyAddress : client.daddrFromStr "" ≠ .ok ()

namespace ClientRegistration

variable {client : ClientCrates} {env : Env}

/-- What the contract's crates say of signatures made with the registration's keys: they
have the shape of the scheme and verify. -/
structure IdealSignatures (r : ClientRegistration client) (env : Env) : Prop where
  wallet : ∀ payload signature, r.wallet.sign payload = .ok signature →
    env.wallet.verifyWalletMldsa65Signature r.wallet.publicKey payload signature = .ok true
  device : ∀ key, r.device.signingKey = .mlDsa key →
    key.verifyingKey.length = mldsa65PublicKeyLen ∧ ∀ payload,
      (key.sign payload).length = mldsa65SignatureLen ∧
      env.deviceScheme.decodesSignature (key.sign payload) = true ∧
      env.deviceScheme.verify key.verifyingKey payload (key.sign payload) = true

def request (r : ClientRegistration client) : Json :=
  recordMutationRequestJson r.record r.walletAuthorization r.deviceAuthorization

def call (r : ClientRegistration client) : Call :=
  registrationCall r.record r.walletAuthorization r.deviceAuthorization

/-- The contract reads the request and `register_identity` answers `Ok` on the registry. -/
def Accepted (r : ClientRegistration client) (env : Env) (s : Registry) : Prop :=
  ∃ call, EntryPoint.registerIdentity.request r.request = some call ∧ (step env s call).1 = .ok ()

/-- Client and contract derive the same peer id and the same hash from the device key. -/
def SameDerivations (r : ClientRegistration client) (env : Env) : Prop :=
  quantumlinkPeerId env r.device.publicKey.bytes = r.device.publicKey.peerId client.device ∧
  RegistryV2.devicePublicKeyHashHex env r.device.publicKey.algorithm r.device.publicKey.bytes =
    Identity.devicePublicKeyHashHex client r.device.publicKey

/-- The two digests of the device key coincide on their first sixteen bytes. -/
def DigestsMeet (r : ClientRegistration client) (env : Env) : Prop :=
  (env.sha256 r.device.publicKey.bytes).take 16 = r.device.publicKey.peerDigest client.device

theorem accepted_iff (r : ClientRegistration client) : r.Accepted env s ↔
      ∃ change, r.call.decision env (s.getIdentity r.call.peerId) = .ok change := by
  have hr : EntryPoint.registerIdentity.request r.request = some r.call :=
    request_recordMutationRequestJson _ _ _
  unfold Accepted
  rw [hr]
  constructor
  · rintro ⟨call, hc, hk⟩
    cases hc
    rcases step_cases env s r.call with ⟨change, hd, _⟩ | ⟨e, _, hs⟩
    · exact ⟨change, hd⟩
    · rw [hs] at hk
      cases hk
  · rintro ⟨change, hd⟩
    refine ⟨r.call, rfl, ?_⟩
    rcases step_cases env s r.call with ⟨_, _, hs⟩ | ⟨e, he, _⟩
    · rw [hs]
    · rw [hd] at he
      cases he

variable (r : ClientRegistration client)

theorem valid : r.record.Valid client :=
  (fromDevicePublicKey_eq_ok_iff.mp r.built).1

theorem record_eq : r.record = deviceRecord client r.device.publicKey r.policy :=
  (fromDevicePublicKey_eq_ok_iff.mp r.built).2

theorem peerId_eq : r.record.peerId = r.device.publicKey.peerId client.device := by
  rw [r.record_eq]
  rfl

theorem deviceHash_eq :
    r.record.devicePublicKeyHashHex = Identity.devicePublicKeyHashHex client r.device.publicKey := by
  rw [r.record_eq]
  rfl

variable (hcr : CratesAgree client env)

include hcr

theorem onChain_valid : r.record.onChain.Valid := by
  have hv := r.valid
  have hp : ValidPeerId r.record.peerId := by
    rw [r.peerId_eq]
    apply validPeerId_encodeUrlNoPad
    intro hn
    have hl := congrArg List.length hn
    rw [DevicePublicKey.peerDigest, shake256Xof, hcr.shake256Length] at hl
    cases hl
  have ho : r.record.ownerDaddr ≠ "" := by
    intro he
    have hk := hv.owner
    rw [he] at hk
    exact hcr.emptyAddress hk
  refine ⟨hv.schema, hp, hv.deviceHash, hv.nodeHash, hv.meshScope, hv.metadata, ?_⟩
  simp only [StableIdentityRecord.PolicyOutOfBounds, not_or, not_not]
  exact ⟨ho, hv.revision, hv.expiry, hv.ttl⟩

theorem samePeerId_iff :
    quantumlinkPeerId env r.device.publicKey.bytes = r.device.publicKey.peerId client.device ↔
      r.DigestsMeet env := by
  constructor
  · intro h
    have ht : Base64.encodeUrlNoPad ((env.sha256 r.device.publicKey.bytes).take 16) =
        Base64.encodeUrlNoPad (r.device.publicKey.peerDigest client.device) :=
      (String.append_right_inj _).mp h
    apply Base64.encodeUrlNoPad_injOn _ ht
    rw [List.length_take, hcr.sha256Length, DevicePublicKey.peerDigest, shake256Xof,
      hcr.shake256Length]
    rfl
  · intro h
    unfold quantumlinkPeerId DevicePublicKey.peerId
    rw [h]
    rfl

variable (hi : r.IdealSignatures env)

include hi

theorem authorizedBy_owner : r.call.AuthorizedBy env r.record.ownerDaddr := by
  obtain ⟨_, ho, s, hs, ha⟩ := signRecord_wallet_eq_ok_iff.mp r.walletSigned
  refine ⟨_, r.wallet.publicKey, s, rfl, ?_, ?_, ?_, hcr.address _ _ ho⟩
  · show Hex.decode r.walletAuthorization.actorPublicKeyHex = _
    rw [ha]
    exact Hex.decode_encode _
  · show Hex.decode r.walletAuthorization.actorSignatureHex = _
    rw [ha]
    exact Hex.decode_encode _
  · apply hi.wallet
    rw [walletPayloadJson_eq] at hs
    exact hs

theorem validateDevice_iff : validateDeviceAuthorization env r.record.onChain
        ⟨r.deviceAuthorization.devicePublicKeyAlgorithm, r.deviceAuthorization.devicePublicKeyHex,
          r.deviceAuthorization.deviceSignatureHex⟩ = .ok () ↔
      r.device.publicKey.algorithm = "ML-DSA-65" ∧ r.DigestsMeet env := by
  obtain ⟨_, _, hu⟩ := signRecord_device_eq_ok_iff.mp r.deviceSigned
  rw [validateDeviceAuthorization_eq_ok_iff, hu, ← r.samePeerId_iff hcr, ← r.peerId_eq]
  simp only [Hex.decode_encode, Option.some.injEq]
  constructor
  · rintro ⟨ha, publicKey, _, _, rfl, _, hp, _⟩
    exact ⟨ha, hp⟩
  · rintro ⟨ha, hp⟩
    obtain ⟨key, he⟩ : ∃ key, r.device.signingKey = .mlDsa key := by
      cases hk : r.device.signingKey with
      | mlDsa key => exact ⟨key, rfl⟩
      | slhDsa key =>
        have hn : r.device.publicKey.algorithm = "SLH-DSA-SHAKE-128S" := by
          rw [DeviceKeypair.publicKey, hk]
        rw [hn] at ha
        exact absurd ha (by decide)
    obtain ⟨hl, hg⟩ := hi.device key he
    have hb : r.device.publicKey.bytes = key.verifyingKey := by
      rw [DeviceKeypair.publicKey, he]
    have hsi : r.device.sign (devicePayloadJson r.record).toBytes =
        key.sign (deviceBinding r.record.onChain) := by
      rw [DeviceKeypair.sign, he, devicePayloadJson_toBytes]
    obtain ⟨hs, hd, hv⟩ := hg (deviceBinding r.record.onChain)
    refine ⟨ha, _, _, deviceBinding r.record.onChain, rfl, rfl, hp, ?_, rfl, ?_, ?_, ?_, ?_⟩
    · rw [devicePublicKeyHashHex_eq client hcr.sha256]
      exact r.deviceHash_eq.symm
    · rw [hb, hl]
    · rw [hsi, hs]
    · rw [hsi, hd]
    · rw [hb, hsi, hv]

/-- What acceptance of a free peer id comes down to. -/
theorem accepted_iff_conditions {s : Registry} (hf : s.getIdentity r.record.peerId = none) :
    r.Accepted env s ↔ r.device.publicKey.algorithm = "ML-DSA-65" ∧ r.policy.status = .active ∧
        r.policy.identityRevision = 1 ∧ r.DigestsMeet env := by
  have hs : r.record.onChain.status = .active ↔ r.policy.status = .active := by
    rw [onChain_status_eq_active_iff, r.record_eq]
    rfl
  have hr : r.record.onChain.identityRevision = r.policy.identityRevision := by
    rw [r.record_eq]
    rfl
  have ht : s.getIdentity r.call.peerId = none := hf
  rw [r.accepted_iff, ht]
  unfold call registrationCall
  simp only [decision_register_eq_ok_iff, r.validateDevice_iff hcr hi, hs, hr]
  constructor
  · rintro ⟨_, _, he, ha, _, _, ⟨hl, hm⟩, _⟩
    exact ⟨hl, ha, he, hm⟩
  · rintro ⟨hl, ha, he, hm⟩
    exact ⟨_, r.onChain_valid hcr, he, ha, trivial, r.authorizedBy_owner hcr hi, ⟨hl, hm⟩, rfl⟩

/-- Where the digests differ, the contract refuses the peer id of an otherwise good request. -/
theorem decision_of_digests_differ (hl : r.device.publicKey.algorithm = "ML-DSA-65")
    (ha : r.policy.status = .active) (he : r.policy.identityRevision = 1) (hdi : ¬ r.DigestsMeet env) :
    r.call.decision env none = .error .invalidPeerId := by
  have hva : validateRecord r.record.onChain = .ok () :=
    validateRecord_eq_ok_iff.mpr (r.onChain_valid hcr)
  have hs : r.record.onChain.status = .active := by
    rw [onChain_status_eq_active_iff, r.record_eq]
    exact ha
  have hr : r.record.onChain.identityRevision = initialIdentityRevision := by
    rw [r.record_eq]
    exact he
  obtain ⟨p, hp, hc⟩ := Call.authorizedBy_iff.mp (r.authorizedBy_owner hcr hi)
  have hd : validateDeviceAuthorization env r.record.onChain
      ⟨r.deviceAuthorization.devicePublicKeyAlgorithm, r.deviceAuthorization.devicePublicKeyHex,
        r.deviceAuthorization.deviceSignatureHex⟩ = .error .invalidPeerId := by
    obtain ⟨_, _, hu⟩ := signRecord_device_eq_ok_iff.mp r.deviceSigned
    have hpe : ¬ quantumlinkPeerId env r.device.publicKey.bytes = r.record.onChain.peerId := by
      show ¬ quantumlinkPeerId env r.device.publicKey.bytes = r.record.peerId
      rw [r.peerId_eq, r.samePeerId_iff hcr]
      exact hdi
    rw [hu]
    simp [validateDeviceAuthorization, decodeHex, okOr, Hex.decode_encode, hl, hpe, ensure,
      bind, Except.bind]
  have hv : verifiedActorDaddr env.wallet
      ⟨r.walletAuthorization.actorPublicKeyHex, r.walletAuthorization.actorSignatureHex⟩ p =
        .ok r.record.onChain.ownerDaddr := hc
  unfold call registrationCall at hp ⊢
  simp only [Call.decision, hva, hs, hr, hp, hv, hd, ensure_of,
    requireMatchingOwner, bind, Except.bind]

end ClientRegistration

/-- A client's registration of a free peer id is accepted, and both sides derive the same
identifiers, exactly for an active first record of an ML-DSA-65 key on which the two digests
meet. -/
theorem client_registration_accepted_iff {client : ClientCrates} {env : Env}
    (r : ClientRegistration client) (hcrates : CratesAgree client env)
    (hideal : r.IdealSignatures env) (s : Registry)
    (hfree : s.getIdentity r.record.peerId = none) :
    r.Accepted env s ∧ r.SameDerivations env ↔
      r.device.publicKey.algorithm = "ML-DSA-65" ∧ r.policy.status = .active ∧
        r.policy.identityRevision = 1 ∧
        (env.sha256 r.device.publicKey.bytes).take 16 =
          r.device.publicKey.peerDigest client.device := by
  have ha := r.accepted_iff_conditions hcrates hideal hfree
  constructor
  · intro h
    exact ha.mp h.1
  · intro h
    refine ⟨ha.mpr h, (r.samePeerId_iff hcrates).mpr h.2.2.2, ?_⟩
    exact devicePublicKeyHashHex_eq client hcrates.sha256 _

/-! ## One registration with the real hashes -/

/-- The crates of a client that shares the sample owner and device: real hashes, and the
address of the sample key. -/
def sampleClient : ClientCrates where
  sha256 := Sha256.hash
  device :=
    { shake256 := Shake256.hash
      mlDsa65 :=
        { decodesKey := fun key => decide (key.length = mlDsa65KeyLength)
          decodesSignature := fun _ => true
          verify := fun _ payload signature => decide (signature = sampleSign payload) }
      slhDsaShake128s :=
        { decodesKey := fun key => decide (key.length = 32)
          decodesSignature := fun signature => decide (signature.length = 7856)
          verify := fun _ _ _ => false } }
  daddrFromStr text := if text = sampleAddress then .ok () else .error "invalid address"
  daddrFromPublicKey key :=
    if key.length = mldsa65PublicKeyLen then .ok sampleAddress else .error "invalid public key"

def sampleKeypair : DeviceKeypair := ⟨.mlDsa ⟨sampleKey, sampleSign⟩⟩

def sampleWallet : DytallixKeypair := ⟨sampleKey, fun payload => .ok (sampleSign payload)⟩

def samplePolicy : RecordPolicy where
  ownerDaddr := sampleAddress
  status := .active
  identityRevision := 1
  authorizationExpiresAt := none
  maxPeerRecordTtlSeconds := 300
  meshScope := none
  metadataCommitmentHex := none

def sampleDeviceRecord : RegistryIdentityRecordV2 :=
  deviceRecord sampleClient sampleKeypair.publicKey samplePolicy

theorem sampleDeviceRecord_valid : sampleDeviceRecord.Valid sampleClient := by
  refine deviceRecord_valid Sha256.length_hash ?_ (by decide) nofun (by decide) nofun
  show sampleClient.daddrFromStr sampleAddress = _
  simp [sampleClient]

def sampleClientRegistration : ClientRegistration sampleClient where
  device := sampleKeypair
  wallet := sampleWallet
  policy := samplePolicy
  record := sampleDeviceRecord
  walletAuthorization :=
    ⟨Hex.encode sampleKey,
      Hex.encode (sampleSign (walletPayloadJson .register sampleDeviceRecord).toBytes)⟩
  deviceAuthorization :=
    ⟨"ML-DSA-65", Hex.encode sampleKey,
      Hex.encode (sampleSign (devicePayloadJson sampleDeviceRecord).toBytes)⟩
  built := fromDevicePublicKey_eq_ok_iff.mpr ⟨sampleDeviceRecord_valid, rfl⟩
  walletSigned := by
    refine signRecord_wallet_eq_ok_iff.mpr ⟨sampleDeviceRecord_valid, ?_, _, rfl, rfl⟩
    exact if_pos sampleKey_length
  deviceSigned := signRecord_device_eq_ok_iff.mpr ⟨sampleDeviceRecord_valid, ⟨rfl, rfl⟩, rfl⟩

theorem sampleClient_agrees : CratesAgree sampleClient sampleWasm.env where
  sha256 := rfl
  sha256Length := Sha256.length_hash
  shake256Length := Shake256.length_hash
  address key owner h := by
    by_cases hl : key.length = mldsa65PublicKeyLen
    · have ho : sampleAddress = owner := by simpa [sampleClient, hl] using h
      subst ho
      simp [sampleWasm, WasmEnv.env, WalletBackend.wasm, ensure_of, hl, okOr, bind, Except.bind]
    · simp [sampleClient, hl] at h
  emptyAddress := by
    have hne : ¬ ("" : String) = sampleAddress := sampleAddress_ne.symm
    simp [sampleClient, hne]

theorem sampleClientRegistration_ideal :
    sampleClientRegistration.IdealSignatures sampleWasm.env where
  wallet payload signature h := by
    cases h
    exact sampleSigner.verifies payload
  device key h := by
    obtain rfl := DeviceSigningKey.mlDsa.inj h
    exact ⟨sampleKey_length, fun payload => ⟨sampleSign_length payload, rfl,
      sampleDevice.verifies payload⟩⟩

theorem sample_digests_differ : ¬ sampleClientRegistration.DigestsMeet sampleWasm.env := by
  have hd : (Sha256.hash sampleKey).take 16 ≠
      Shake256.hash 16 (xofInput 16 (stringBytes peerIdDomain)
        [stringBytes "ML-DSA-65", sampleKey]) := by
    decide +kernel
  exact hd

theorem sample_client_registration_meets :
    sampleClientRegistration.Accepted sampleWasm.env Registry.new ∧
        sampleClientRegistration.SameDerivations sampleWasm.env ↔
      sampleClientRegistration.device.publicKey.algorithm = "ML-DSA-65" ∧
        sampleClientRegistration.policy.status = .active ∧
        sampleClientRegistration.policy.identityRevision = 1 ∧
        (sampleWasm.env.sha256 sampleClientRegistration.device.publicKey.bytes).take 16 =
          sampleClientRegistration.device.publicKey.peerDigest sampleClient.device :=
  client_registration_accepted_iff sampleClientRegistration sampleClient_agrees
    sampleClientRegistration_ideal Registry.new (Registry.getIdentity_new _)

/-- A client's honest first registration of an ML-DSA-65 device on an empty registry: the
contract reads it and answers that the peer id is invalid. -/
theorem sample_client_registration_refused :
    EntryPoint.registerIdentity.request sampleClientRegistration.request =
        some sampleClientRegistration.call ∧
      (step sampleWasm.env Registry.new sampleClientRegistration.call).1 = .error .invalidPeerId ∧
      sampleClientRegistration.IdealSignatures sampleWasm.env := by
  refine ⟨request_recordMutationRequestJson _ _ _, ?_, sampleClientRegistration_ideal⟩
  have he := sampleClientRegistration.decision_of_digests_differ sampleClient_agrees
    sampleClientRegistration_ideal rfl rfl rfl sample_digests_differ
  rcases step_cases sampleWasm.env Registry.new sampleClientRegistration.call with
    ⟨change, hd, _⟩ | ⟨e, hd, hs⟩
  · rw [Registry.getIdentity_new, he] at hd
    cases hd
  · rw [Registry.getIdentity_new, he] at hd
    obtain rfl := Except.error.inj hd
    rw [hs]

end QuantumLink.Identity
