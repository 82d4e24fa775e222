import QuantumLink.Discovery.Record
import QuantumLink.Foundation.Sha256
import QuantumLink.Identity.ClientV2

/-! # Checking a peer record against a stable identity

A peer record is signed by the device and short-lived; the registry record of the same device is
changed rarely and says, among other things, for how long one peer record may be valid. The check
of the two against each other takes the lifetime from the signed time of issue, which it does not
compare with the clock.
-/

namespace QuantumLink.Identity

open Device Discovery

variable {crates : ClientCrates} {record : PeerRecord} {registry : RegistryIdentityRecordV2}
  {now : UInt64}

inductive StableRegistryBindingDecisionV2 where
  | accepted

def checkedSub (a b : UInt64) : Option UInt64 := if b ≤ a then some (a - b) else none

/-! ## The checks -/

def verifyPeerRecordSignature (crates : DeviceCrates) (record : PeerRecord) (now : UInt64) :
    Except StableIdentityV2Error Unit := do
  ensure (¬ record.body.expiresAtUnix ≤ now) (.invalidPeerRecord "record has expired")
  ensure (record.body.devicePublicKey.peerId crates = record.body.peerId)
    (.invalidPeerRecord "peer_id does not match the signed device public key")
  (record.body.devicePublicKey.verify crates record.body.canonicalBytes record.signature).mapError
    fun _ => .invalidPeerRecord "peer record signature verification failed"

def signedPeerRecordIssuedAtUnix (record : PeerRecord) : Except StableIdentityV2Error UInt64 :=
  if record.body.issuedAtUnix = 0 then .error .missingSignedIssuedAt
  else .ok record.body.issuedAtUnix

def requireActiveAndUnexpired (record : RegistryIdentityRecordV2) (now : UInt64) :
    Except StableIdentityV2Error Unit :=
  match record.status with
  | .revoked => .error .revoked
  | .suspended => .error .suspended
  | .active =>
    match record.authorizationExpiresAt with
    | some expiresAt => ensure (¬ expiresAt ≤ now) (.authorizationExpired expiresAt)
    | none => .ok ()

def verifyStableRegistryBindingWithIssuedAt (crates : ClientCrates) (record : PeerRecord)
    (registry : RegistryIdentityRecordV2) (issuedAtUnix : UInt64) :
    Except StableIdentityV2Error StableRegistryBindingDecisionV2 := do
  ensure (registry.peerId = record.body.peerId) .wrongDevice
  let peerKeyHash := devicePublicKeyHashHex crates record.body.devicePublicKey
  ensure (registry.devicePublicKeyHashHex = peerKeyHash) .wrongDevice
  ensure (registry.nodeSigningPublicKeyHashHex = peerKeyHash) .wrongNodeSigningKey
  ensure (∀ expected ∈ registry.meshScopeHashHex,
    expected = meshScopeHashHex crates record.body.meshId) .wrongMeshScope
  let ttlSeconds ← okOr
    ((checkedSub record.body.expiresAtUnix issuedAtUnix).filter fun ttl => decide (0 < ttl))
    (.invalidPeerRecordTtl "expires_at_unix must be greater than signed issued_at_unix")
  ensure (ttlSeconds ≤ registry.maxPeerRecordTtlSeconds)
    (.peerRecordTtlExceeded ttlSeconds registry.maxPeerRecordTtlSeconds)
  pure .accepted

def verifyStableRegistryBindingAt (crates : ClientCrates) (record : PeerRecord)
    (registryRecord : Option RegistryIdentityRecordV2) (now : UInt64) :
    Except StableIdentityV2Error StableRegistryBindingDecisionV2 := do
  verifyPeerRecordSignature crates.device record now
  let registry ← okOr registryRecord .missing
  registry.validate crates
  requireActiveAndUnexpired registry now
  let issuedAtUnix ← signedPeerRecordIssuedAtUnix record
  verifyStableRegistryBindingWithIssuedAt crates record registry issuedAtUnix

/-! ## What an accepted record has passed -/

/-- The signature, the registry record and the keys are in order: all that is checked but the
lifetime. -/
structure Bound (crates : ClientCrates) (record : PeerRecord) (registry : RegistryIdentityRecordV2)
    (now : UInt64) : Prop where
  unexpired : now < record.body.expiresAtUnix
  peer : record.body.devicePublicKey.peerId crates.device = record.body.peerId
  signature : record.body.devicePublicKey.verify crates.device record.body.canonicalBytes
    record.signature = .ok ()
  valid : registry.Valid crates
  active : registry.status = .active
  authorized : ∀ expiresAt, registry.authorizationExpiresAt = some expiresAt → now < expiresAt
  issued : record.body.issuedAtUnix ≠ 0
  peerId : registry.peerId = record.body.peerId
  deviceKey : registry.devicePublicKeyHashHex =
    devicePublicKeyHashHex crates record.body.devicePublicKey
  signingKey : registry.nodeSigningPublicKeyHashHex =
    devicePublicKeyHashHex crates record.body.devicePublicKey
  meshScope : ∀ expected, registry.meshScopeHashHex = some expected →
    expected = meshScopeHashHex crates record.body.meshId

/-- The record is valid for some time, and from its issue on for no longer than the registry
allows. -/
def LifetimeAllowed (record : PeerRecord) (registry : RegistryIdentityRecordV2) : Prop :=
  record.body.issuedAtUnix.toNat < record.body.expiresAtUnix.toNat ∧
    record.body.expiresAtUnix.toNat ≤
      record.body.issuedAtUnix.toNat + registry.maxPeerRecordTtlSeconds.toNat

theorem verifyPeerRecordSignature_eq_ok_iff : verifyPeerRecordSignature device record now = .ok u ↔
      now < record.body.expiresAtUnix ∧
      record.body.devicePublicKey.peerId device = record.body.peerId ∧
      record.body.devicePublicKey.verify device record.body.canonicalBytes record.signature =
        .ok () := by
  cases u
  simp only [verifyPeerRecordSignature, bind_eq_ok_iff, ensure_eq_ok_iff, UInt64.not_le,
    mapError_eq_ok_iff, exists_const]

theorem signedPeerRecordIssuedAtUnix_eq_ok_iff :
    signedPeerRecordIssuedAtUnix record = .ok issuedAtUnix ↔
      record.body.issuedAtUnix ≠ 0 ∧ record.body.issuedAtUnix = issuedAtUnix := by
  unfold signedPeerRecordIssuedAtUnix
  split <;> simp_all

theorem requireActiveAndUnexpired_eq_ok_iff : requireActiveAndUnexpired registry now = .ok u ↔
      registry.status = .active ∧
        ∀ expiresAt, registry.authorizationExpiresAt = some expiresAt → now < expiresAt := by
  unfold requireActiveAndUnexpired
  cases registry.status with
  | revoked | suspended => simp
  | active =>
    cases registry.authorizationExpiresAt with
    | none | some expiresAt => simp

theorem positive_checkedSub_eq_some_iff :
    (checkedSub a b).filter (fun ttl => decide (0 < ttl)) = some ttl ↔
      b.toNat < a.toNat ∧ ttl.toNat = a.toNat - b.toNat := by
  unfold checkedSub
  by_cases hle : b ≤ a
  · have hs : (a - b).toNat = a.toNat - b.toNat := UInt64.toNat_sub_of_le _ _ hle
    rw [if_pos hle, Option.filter_eq_some_iff, decide_eq_true_eq]
    rw [UInt64.le_iff_toNat_le] at hle
    simp only [Option.some.injEq, UInt64.lt_iff_toNat_lt, ← UInt64.toNat_inj, UInt64.toNat_zero]
    omega
  · rw [if_neg hle]
    rw [UInt64.le_iff_toNat_le] at hle
    simp only [Option.filter_none, reduceCtorEq, false_iff]
    omega

theorem verifyStableRegistryBindingWithIssuedAt_eq_ok_iff :
    verifyStableRegistryBindingWithIssuedAt crates record registry record.body.issuedAtUnix =
        .ok decision ↔
      registry.peerId = record.body.peerId ∧
      registry.devicePublicKeyHashHex = devicePublicKeyHashHex crates record.body.devicePublicKey ∧
      registry.nodeSigningPublicKeyHashHex =
        devicePublicKeyHashHex crates record.body.devicePublicKey ∧
      (∀ expected, registry.meshScopeHashHex = some expected →
        expected = meshScopeHashHex crates record.body.meshId) ∧
      LifetimeAllowed record registry := by
  simp only [verifyStableRegistryBindingWithIssuedAt, bind_eq_ok_iff, ensure_eq_ok_iff,
    okOr_eq_ok_iff, positive_checkedSub_eq_some_iff, exists_const, Option.mem_def, LifetimeAllowed,
    pure, Except.pure, UInt64.le_iff_toNat_le]
  cases decision
  constructor
  · rintro ⟨hp, hd, hs, hc, ttl, ⟨hi, ht⟩, hm, -⟩
    exact ⟨hp, hd, hs, hc, hi, by omega⟩
  · rintro ⟨hp, hd, hs, hc, hi, hm⟩
    refine ⟨hp, hd, hs, hc, record.body.expiresAtUnix - record.body.issuedAtUnix,
      ⟨hi, ?_⟩, ?_, trivial⟩
    · exact UInt64.toNat_sub_of_le _ _ (UInt64.le_iff_toNat_le.mpr (by omega))
    · rw [UInt64.toNat_sub_of_le _ _ (UInt64.le_iff_toNat_le.mpr (by omega))]
      omega

theorem verifyStableRegistryBindingAt_eq_ok_iff :
    verifyStableRegistryBindingAt crates record registryRecord now = .ok decision ↔
      ∃ registry, registryRecord = some registry ∧ Bound crates record registry now ∧
        LifetimeAllowed record registry := by
  simp only [verifyStableRegistryBindingAt, bind_eq_ok_iff,
    verifyPeerRecordSignature_eq_ok_iff, okOr_eq_ok_iff, validate_eq_ok_iff,
    requireActiveAndUnexpired_eq_ok_iff, signedPeerRecordIssuedAtUnix_eq_ok_iff, exists_const]
  constructor
  · rintro ⟨⟨hu, he, hs⟩, registry, hr, hv, ⟨hc, ha⟩, _, ⟨hi, rfl⟩, hb⟩
    rw [verifyStableRegistryBindingWithIssuedAt_eq_ok_iff] at hb
    obtain ⟨hp, hd, hsi, hsc, hl⟩ := hb
    exact ⟨registry, hr, ⟨hu, he, hs, hv, hc, ha, hi, hp, hd, hsi, hsc⟩, hl⟩
  · rintro ⟨registry, hr, h, hl⟩
    refine ⟨⟨h.unexpired, h.peer, h.signature⟩, registry, hr, h.valid,
      ⟨h.active, h.authorized⟩, record.body.issuedAtUnix, ⟨h.issued, rfl⟩, ?_⟩
    rw [verifyStableRegistryBindingWithIssuedAt_eq_ok_iff]
    exact ⟨h.peerId, h.deviceKey, h.signingKey, h.meshScope, hl⟩

/-! ## Freshness -/

/-- The record is dated so far ahead that it outlives the maximum counted from now, though not
counted from its own time of issue. -/
def Postdated (record : PeerRecord) (registry : RegistryIdentityRecordV2) (now : UInt64) : Prop :=
  now.toNat + registry.maxPeerRecordTtlSeconds.toNat < record.body.expiresAtUnix.toNat ∧
    LifetimeAllowed record registry

/-- **Freshness.** An accepted record expires within the maximum from now exactly when it is not
dated ahead so far. -/
theorem accepted_fresh_iff (crates : ClientCrates) (record : PeerRecord)
    (registry : RegistryIdentityRecordV2) (now : UInt64) :
    (verifyStableRegistryBindingAt crates record (some registry) now = .ok .accepted →
        record.body.expiresAtUnix.toNat ≤ now.toNat + registry.maxPeerRecordTtlSeconds.toNat) ↔
      ¬ (Bound crates record registry now ∧ Postdated record registry now) := by
  rw [verifyStableRegistryBindingAt_eq_ok_iff]
  constructor
  · rintro h ⟨hb, ha, hl⟩
    have hf := h ⟨registry, rfl, hb, hl⟩
    omega
  · rintro h ⟨_, heq, hb, hl⟩
    cases heq
    by_contra ha
    exact h ⟨hb, by omega, hl⟩

def bindingCrates : ClientCrates where
  sha256 := Sha256.hash
  device := sampleCrates
  daddrFromStr text := if text = "dytallix1owner" then .ok () else .error "invalid address"
  daddrFromPublicKey _ := .ok "dytallix1owner"

def bindingPolicy : RecordPolicy where
  ownerDaddr := "dytallix1owner"
  status := .active
  identityRevision := 1
  authorizationExpiresAt := none
  maxPeerRecordTtlSeconds := 300
  meshScope := none
  metadataCommitmentHex := none

def sampleBinding : RegistryIdentityRecordV2 :=
  deviceRecord bindingCrates sampleDevice.publicKey bindingPolicy

theorem sampleBinding_bound (s : UInt64) (hi : issuedAtUnix ≠ 0) (hn : now < expiresAtUnix) :
    Bound bindingCrates (sampleRecord issuedAtUnix expiresAtUnix s) sampleBinding now where
  unexpired := hn
  peer := samplePeer_eq.symm
  signature := sampleDevice_verify _
  valid := deviceRecord_valid Sha256.length_hash rfl (by decide) nofun (by decide) nofun
  active := rfl
  authorized := nofun
  issued := hi
  peerId := samplePeer_eq.symm
  deviceKey := rfl
  signingKey := rfl
  meshScope := nofun

/-- At the time 1000 a record is accepted that is issued at 2000 and expires at 2300, 1300 seconds
later, where the maximum is 300. -/
theorem postdated_record_accepted :
    verifyStableRegistryBindingAt bindingCrates (sampleRecord 2000 2300 1) (some sampleBinding)
        1000 = .ok .accepted ∧
      sampleBinding.status = .active ∧
      (1000 : UInt64).toNat + sampleBinding.maxPeerRecordTtlSeconds.toNat <
        (sampleRecord 2000 2300 1).body.expiresAtUnix.toNat := by
  refine ⟨verifyStableRegistryBindingAt_eq_ok_iff.mpr ⟨sampleBinding, rfl, ?_, ?_⟩, rfl, ?_⟩
  · exact sampleBinding_bound 1 (by decide) (by decide)
  · exact ⟨(by decide : (2000 : UInt64).toNat < (2300 : UInt64).toNat),
      (by decide : (2300 : UInt64).toNat ≤ (2000 : UInt64).toNat + (300 : UInt64).toNat)⟩
  · exact (by decide : (1000 : UInt64).toNat + (300 : UInt64).toNat < (2300 : UInt64).toNat)

end QuantumLink.Identity
