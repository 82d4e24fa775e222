import QuantumLink.Identity.NodeBinding
import QuantumLink.PeerStore.Memory
import QuantumLink.Relay.Admission

/-! # Whom the connector trusts

Before it dials a peer, and again from time to time afterwards, the connector fetches the signed
record of the peer from rendezvous, or from its own store when rendezvous has none, verifies it
and checks it against the identity registry. What rendezvous and the registry answer is input, and
so is every reading of the clock. A call reads or writes the store once, so calls that overlap are
in the order in which they come to the store.
-/

namespace QuantumLink.Mesh

open Device Discovery Identity
open Relay (errorText)
open PeerStore.InMemoryPeerStore
open PeerStore

/-! ## Configuration and inputs -/

structure PeerAcl where
  allow : Option (Finset String)
  deny : Finset String

inductive PeerAclDecision where
  | allowed
  | deniedExplicitly
  | deniedNotInAllowlist
deriving DecidableEq

def PeerAclDecision.reason : PeerAclDecision → String
  | .allowed => "allowed"
  | .deniedExplicitly => "peer is on the deny list"
  | .deniedNotInAllowlist => "peer is not on the allow list"

def PeerAcl.evaluate (acl : PeerAcl) (peerId : String) : PeerAclDecision :=
  if peerId ∈ acl.deny then .deniedExplicitly
  else
    match acl.allow with
    | some allowlist => if peerId ∈ allowlist then .allowed else .deniedNotInAllowlist
    | none => .allowed

structure MeshConnectorConfig where
  meshId : String
  peerAcl : Option PeerAcl
  meshTrustPolicy : MeshTrustPolicy
  /-- The version a configured registry lookup asks for. -/
  identityRegistryLookup : Option DytallixRegistryBindingVersion

/-- The readings of the clock in one call, in the order they are made. -/
structure Readings where
  fresh : UInt64
  store : UInt64
  verify : UInt64
  binding : BindingClock

inductive CallKind where
  | connect
  | revalidatePeerTrust

structure Call where
  kind : CallKind
  remotePeerId : String
  rendezvous : Except QlinkError (Option PeerRecord)
  registry : Except QlinkError (Option RegistryIdentityLookupRecord)
  clock : Readings

inductive PeerRecordSource where
  | rendezvousLive
  | peerStoreCache

/-- What a call relies on once it is past the registry. -/
structure Trusted where
  record : PeerRecord
  source : PeerRecordSource
  decision : RegistryDecision

/-! ## The calls -/

def checkAcl (config : MeshConnectorConfig) (remotePeerId : String) : Except QlinkError Unit :=
  match config.peerAcl with
  | some acl =>
    ensure (acl.evaluate remotePeerId = .allowed)
      (.protocol ("peer " ++ remotePeerId ++ " rejected by ACL: " ++
        (acl.evaluate remotePeerId).reason))
  | none => .ok ()

def notFound (config : MeshConnectorConfig) (call : Call) : QlinkError :=
  match call.kind with
  | .connect =>
    .protocol ("peer " ++ call.remotePeerId ++ " not found in rendezvous " ++ config.meshId)
  | .revalidatePeerTrust =>
    .protocol ("peer " ++ call.remotePeerId ++ " not found during trust revalidation")

section
variable {σ : Type} [PeerStore σ]

/-- Where rendezvous has no record, the store may have one. -/
def fromStore (config : MeshConnectorConfig) (store : σ) (call : Call)
    (error : QlinkError) : Except QlinkError (PeerRecord × PeerRecordSource) :=
  match load store config.meshId call.remotePeerId with
  | some cached => .ok (cached, .peerStoreCache)
  | none => .error error

/-- The record a call works with, and the store after it. A record that does not verify is not
stored; `connect` finds that out a second time below, `revalidate_peer_trust` returns at once. -/
def fetchRecord (crates : ClientCrates) (config : MeshConnectorConfig) (store : σ) (call : Call) :
    Except QlinkError (PeerRecord × PeerRecordSource) × σ :=
  match call.rendezvous with
  | .ok (some fresh) =>
    match fresh.verify crates.device config.meshId call.clock.fresh with
    | .ok () =>
      (.ok (fresh, .rendezvousLive), PeerStore.store store config.meshId fresh call.clock.store)
    | .error error =>
      match call.kind with
      | .connect => (.ok (fresh, .rendezvousLive), store)
      | .revalidatePeerTrust => (.error error, store)
  | .ok none => (fromStore config store call (notFound config call), store)
  | .error error => (fromStore config store call error, store)

/-- A failed lookup is no record, unless the policy is public. -/
def registryRecord (config : MeshConnectorConfig) (call : Call) :
    Except QlinkError (Option RegistryIdentityLookupRecord) :=
  match config.identityRegistryLookup with
  | none => .ok none
  | some _ =>
    match call.registry with
    | .ok record => .ok record
    | .error error =>
      match config.meshTrustPolicy with
      | .publicRequired =>
        .error (.protocol ("identity registry lookup failed: " ++ errorText error))
      | _ => .ok none

def bindingVersion (config : MeshConnectorConfig) : DytallixRegistryBindingVersion :=
  config.identityRegistryLookup.getD .exactPeerRecordV1

def verifyTrust (crates : ClientCrates) (config : MeshConnectorConfig) (record : PeerRecord)
    (call : Call) : Except QlinkError RegistryDecision := do
  record.verify crates.device config.meshId call.clock.verify
  let registry ← registryRecord config call
  verifyRegistryLookupBinding crates record registry (bindingVersion config) config.meshTrustPolicy
    call.clock.binding

/-- `revalidate_peer_trust`, or `connect` up to the point where it starts to dial. -/
def perform (crates : ClientCrates) (config : MeshConnectorConfig) (store : σ) (call : Call) :
    Except QlinkError Trusted × σ :=
  match checkAcl config call.remotePeerId with
  | .error error => (.error error, store)
  | .ok () =>
    let (fetched, store) := fetchRecord crates config store call
    (fetched >>= fun (record, source) =>
      (verifyTrust crates config record call).map fun decision => ⟨record, source, decision⟩,
      store)

/-! ## What a call that passes has checked -/

variable {crates : ClientCrates} {config : MeshConnectorConfig} {store : σ} {call : Call}
  {record : PeerRecord} {decision : RegistryDecision} {trusted : Trusted}

/-- The record a call works with: what rendezvous answered, or else what the store has for the
peer. `revalidate_peer_trust` wants the answer verified before anything else. -/
def Offered (crates : ClientCrates) (config : MeshConnectorConfig) (store : σ) (call : Call)
    (record : PeerRecord) : Prop :=
  (call.rendezvous = .ok (some record) ∧ (call.kind = .revalidatePeerTrust →
      record.Verified crates.device config.meshId call.clock.fresh)) ∨
    (∀ fresh, call.rendezvous ≠ .ok (some fresh)) ∧
      load store config.meshId call.remotePeerId = some record

theorem fromStore_eq_ok_iff : (∃ source, fromStore config store call error = .ok (record, source)) ↔
      load store config.meshId call.remotePeerId = some record := by
  cases hl : load store config.meshId call.remotePeerId <;> simp [fromStore, hl]

theorem offered_iff_of_answer (ha : call.rendezvous = .ok (some fresh)) :
    Offered crates config store call record ↔ fresh = record ∧ (call.kind = .revalidatePeerTrust →
        fresh.verify crates.device config.meshId call.clock.fresh = .ok ()) := by
  have hf : ¬ ∀ other, call.rendezvous ≠ .ok (some other) := fun h => h fresh ha
  simp only [Offered, ha, Except.ok.injEq, Option.some.injEq, PeerRecord.verify_eq_ok_iff] at *
  constructor
  · rintro (⟨rfl, hv⟩ | ⟨hn, -⟩)
    · exact ⟨rfl, hv⟩
    · exact absurd hn hf
  · rintro ⟨rfl, hv⟩
    exact .inl ⟨rfl, hv⟩

theorem fetchRecord_eq_ok_iff :
    (∃ source, (fetchRecord crates config store call).1 = .ok (record, source)) ↔
      Offered crates config store call record := by
  cases ha : call.rendezvous with
  | error error => simp [fetchRecord, Offered, ha, fromStore_eq_ok_iff]
  | ok a =>
    cases a with
    | none => simp [fetchRecord, Offered, ha, fromStore_eq_ok_iff]
    | some f =>
      rw [offered_iff_of_answer ha]
      cases hv : f.verify crates.device config.meshId call.clock.fresh with
      | ok _ => simp [fetchRecord, ha, hv]
      | error error => cases hk : call.kind <;> simp [fetchRecord, ha, hv, hk]

/-- A call passes with a record exactly if the list of peers lets it, the record is offered, and it
verifies against the registry. -/
theorem perform_eq_ok_iff :
    (∃ source, (perform crates config store call).1 = .ok ⟨record, source, decision⟩) ↔
      checkAcl config call.remotePeerId = .ok () ∧ Offered crates config store call record ∧
        verifyTrust crates config record call = .ok decision := by
  cases ha : checkAcl config call.remotePeerId with
  | error error => simp [perform, ha]
  | ok _ =>
    rw [← fetchRecord_eq_ok_iff]
    simp only [perform, ha, bind_eq_ok_iff, true_and]
    constructor
    · rintro ⟨source, ⟨f, source'⟩, hf, ht⟩
      cases hv : verifyTrust crates config f call with
      | error error =>
        rw [hv] at ht
        cases ht
      | ok decision' =>
        rw [hv] at ht
        cases ht
        exact ⟨⟨_, hf⟩, hv⟩
    · rintro ⟨⟨source, hf⟩, ht⟩
      refine ⟨source, (record, source), hf, ?_⟩
      rw [ht]
      rfl

theorem perform_store (crates : ClientCrates) (config : MeshConnectorConfig) (store : σ)
    (call : Call) : (perform crates config store call).2 = store ∨
      ∃ fresh, call.rendezvous = .ok (some fresh) ∧
        fresh.Verified crates.device config.meshId call.clock.fresh ∧
        (perform crates config store call).2 =
          PeerStore.store store config.meshId fresh call.clock.store := by
  cases hc : checkAcl config call.remotePeerId with
  | error error => simp [perform, hc]
  | ok _ =>
    simp only [perform, hc]
    cases ha : call.rendezvous with
    | error error => simp [fetchRecord, ha]
    | ok a =>
      cases a with
      | none => simp [fetchRecord, ha]
      | some fresh =>
        cases hv : fresh.verify crates.device config.meshId call.clock.fresh with
        | ok _ =>
          right
          refine ⟨fresh, rfl, PeerRecord.verify_eq_ok_iff.mp hv, ?_⟩
          simp [fetchRecord, ha, hv]
        | error error =>
          left
          cases hk : call.kind <;> simp [fetchRecord, ha, hv, hk]

theorem perform_store_fresh (hc : checkAcl config call.remotePeerId = .ok ())
    (ha : call.rendezvous = .ok (some record))
    (hv : record.Verified crates.device config.meshId call.clock.fresh) :
    (perform crates config store call).2 =
      PeerStore.store store config.meshId record call.clock.store := by
  simp [perform, hc, fetchRecord, ha, PeerRecord.verify_eq_ok_iff.mpr hv]

end

variable {crates : ClientCrates} {config : MeshConnectorConfig} {call : Call} {record : PeerRecord}
  {decision : RegistryDecision}

theorem verifyTrust_eq_ok_iff : verifyTrust crates config record call = .ok decision ↔
      record.Verified crates.device config.meshId call.clock.verify ∧
      ∃ registry, registryRecord config call = .ok registry ∧
        verifyRegistryLookupBinding crates record registry (bindingVersion config)
          config.meshTrustPolicy call.clock.binding = .ok decision := by
  simp only [verifyTrust, bind_eq_ok_iff, ← PeerRecord.verify_eq_ok_iff]
  constructor
  · rintro ⟨_, hv, hr⟩
    exact ⟨hv, hr⟩
  · rintro ⟨hv, hr⟩
    exact ⟨(), hv, hr⟩

/-- What the registry says of a record lets it pass: nothing, where the policy asks for nothing,
or a record of its own that matches. -/
def Unopposed (crates : ClientCrates) (config : MeshConnectorConfig) (call : Call)
    (record : PeerRecord) : Prop :=
  (registryRecord config call = .ok none ∧ config.meshTrustPolicy ≠ .publicRequired ∧
      (bindingVersion config = .exactPeerRecordV1 →
        verifyPeerRecordIdentity crates.device record call.clock.binding.identity = .ok ())) ∨
    ∃ found, registryRecord config call = .ok (some found) ∧
      LookupBound crates record (bindingVersion config) call.clock.binding found

theorem verifyTrust_ok_iff : (∃ decision, verifyTrust crates config record call = .ok decision) ↔
      record.Verified crates.device config.meshId call.clock.verify ∧
        Unopposed crates config call record := by
  constructor
  · rintro ⟨decision, h⟩
    obtain ⟨hv, r, hr, hb⟩ := verifyTrust_eq_ok_iff.mp h
    refine ⟨hv, ?_⟩
    cases r with
    | none =>
      exact .inl ⟨hr, verifyRegistryLookupBinding_none_ok_iff.mp ⟨decision, hb⟩⟩
    | some f =>
      exact .inr ⟨f, hr, (verifyRegistryLookupBinding_some_eq_ok_iff.mp hb).1⟩
  · rintro ⟨hv, ⟨hr, hn⟩ | ⟨f, hr, ho⟩⟩
    · obtain ⟨decision, hb⟩ := verifyRegistryLookupBinding_none_ok_iff.mpr hn
      exact ⟨decision, verifyTrust_eq_ok_iff.mpr ⟨hv, none, hr, hb⟩⟩
    · exact ⟨.accepted, verifyTrust_eq_ok_iff.mpr ⟨hv, some f, hr,
        verifyRegistryLookupBinding_some_eq_ok_iff.mpr ⟨ho, rfl⟩⟩⟩

theorem registryRecord_of_ok
    (hl : config.identityRegistryLookup = some version) (hf : call.registry = .ok found) :
    registryRecord config call = .ok found := by
  simp [registryRecord, hl, hf]

theorem registryRecord_eq_some (h : registryRecord config call = .ok (some found)) :
    config.identityRegistryLookup = some (bindingVersion config) ∧
      call.registry = .ok (some found) := by
  unfold registryRecord at h
  unfold bindingVersion
  cases hl : config.identityRegistryLookup with
  | none => rw [hl] at h; cases h
  | some v =>
    cases hr : call.registry with
    | ok a =>
      rw [hl, hr] at h
      cases h
      exact ⟨rfl, rfl⟩
    | error error =>
      rw [hl, hr] at h
      cases hp : config.meshTrustPolicy <;> rw [hp] at h <;> cases h

/-! ## The registry -/

variable {σ : Type} [PeerStore σ]

/-- **Public trust fails closed.** Where the policy is public a call passes only on a registry
record of the configured version that matches the verified peer record, and accepts it; under any
policy, a registry record that is there and does not match stops the call. -/
theorem public_trust_fails_closed (crates : ClientCrates) (config : MeshConnectorConfig)
    (store : σ) (call : Call) (trusted : Trusted)
    (h : (perform crates config store call).1 = .ok trusted) :
    trusted.record.Verified crates.device config.meshId call.clock.verify ∧
      (config.meshTrustPolicy = .publicRequired →
        ∃ version found, config.identityRegistryLookup = some version ∧
          call.registry = .ok (some found) ∧
          LookupBound crates trusted.record version call.clock.binding found ∧
          trusted.decision = .accepted) ∧
      ∀ version found, config.identityRegistryLookup = some version →
        call.registry = .ok (some found) →
        LookupBound crates trusted.record version call.clock.binding found ∧
          trusted.decision = .accepted := by
  obtain ⟨-, -, ht⟩ := perform_eq_ok_iff.mp ⟨trusted.source, h⟩
  obtain ⟨hv, registry, hr, hb⟩ := verifyTrust_eq_ok_iff.mp ht
  refine ⟨hv, ?_, ?_⟩
  · intro hp
    cases registry with
    | none =>
      exact absurd hp
        (verifyRegistryLookupBinding_none_ok_iff.mp ⟨trusted.decision, hb⟩).1
    | some found =>
      obtain ⟨hl, hf⟩ := registryRecord_eq_some hr
      exact ⟨_, found, hl, hf, verifyRegistryLookupBinding_some_eq_ok_iff.mp hb⟩
  · intro version found hl hf
    rw [registryRecord_of_ok hl hf] at hr
    cases hr
    have he : bindingVersion config = version := by simp [bindingVersion, hl]
    rw [he] at hb
    exact verifyRegistryLookupBinding_some_eq_ok_iff.mp hb

def publicConfig : MeshConnectorConfig :=
  ⟨"devmesh", none, .publicRequired, some .stableIdentityV2⟩

def registeredCall (kind : CallKind) : Call :=
  ⟨kind, samplePeer, .ok (some (sampleRecord 1 100 1)),
    .ok (some (.stableIdentityV2 sampleBinding)), ⟨2, 3, 4, ⟨5, 6⟩⟩⟩

theorem sampleRecord_verified (s : UInt64)
    (hi : issuedAtUnix < expiresAtUnix) (hn : now < expiresAtUnix) :
    (sampleRecord issuedAtUnix expiresAtUnix s).Verified bindingCrates.device "devmesh" now:=
  PeerRecord.verify_eq_ok_iff.mp (sampleRecord_verify s hi hn)

theorem registeredCall_passes (k : CallKind) : ∃ source, (perform bindingCrates publicConfig new
      (registeredCall k)).1 = .ok ⟨sampleRecord 1 100 1, source, .accepted⟩ := by
  refine perform_eq_ok_iff.mpr ⟨rfl, .inl ⟨rfl, fun _ => ?_⟩, verifyTrust_eq_ok_iff.mpr ⟨?_, ?_⟩⟩
  · exact sampleRecord_verified 1 (by decide) (by decide : (2 : UInt64) < 100)
  · exact sampleRecord_verified 1 (by decide) (by decide : (4 : UInt64) < 100)
  · refine ⟨_, rfl, verifyRegistryLookupBinding_some_eq_ok_iff.mpr ⟨⟨rfl, ?_, ?_⟩, rfl⟩⟩
    · exact sampleBinding_bound 1 (by decide) (by decide : (5 : UInt64) < 100)
    · exact ⟨(by decide : (1 : UInt64).toNat < (100 : UInt64).toNat),
        (by decide : (100 : UInt64).toNat ≤ (1 : UInt64).toNat + (300 : UInt64).toNat)⟩

theorem registeredCall_fails_closed :
    ∃ trusted, (perform bindingCrates publicConfig new
        (registeredCall .connect)).1 = .ok trusted ∧
      LookupBound bindingCrates trusted.record .stableIdentityV2
        (registeredCall .connect).clock.binding (.stableIdentityV2 sampleBinding) ∧
      trusted.decision = .accepted := by
  obtain ⟨s, hp⟩ := registeredCall_passes .connect
  exact ⟨_, hp, (public_trust_fails_closed bindingCrates publicConfig _ _ _ hp).2.2 _ _ rfl rfl⟩

/-! ## The peer of the record -/

/-- A record of another peer is offered, and nothing stands against it. -/
structure Foreign (crates : ClientCrates) (config : MeshConnectorConfig) (store : σ) (call : Call)
    (record : PeerRecord) : Prop where
  offered : Offered crates config store call record
  other : record.body.peerId ≠ call.remotePeerId
  acl : checkAcl config call.remotePeerId = .ok ()
  verified : record.Verified crates.device config.meshId call.clock.verify
  unopposed : Unopposed crates config call record

/-- **The peer of the record.** A call that passes relies on a record of the peer it was asked
for, exactly when it is not offered one of another peer that nothing stands against. -/
theorem relied_record_own_iff (crates : ClientCrates) (config : MeshConnectorConfig) (store : σ)
    (call : Call) :
    (∀ trusted, (perform crates config store call).1 = .ok trusted →
        trusted.record.body.peerId = call.remotePeerId) ↔
      ¬ ∃ record, Foreign crates config store call record := by
  constructor
  · rintro h ⟨record, hf⟩
    obtain ⟨d, ht⟩ := verifyTrust_ok_iff.mpr ⟨hf.verified, hf.unopposed⟩
    obtain ⟨s, hp⟩ := perform_eq_ok_iff.mpr ⟨hf.acl, hf.offered, ht⟩
    exact hf.other (h _ hp)
  · intro h trusted hp
    obtain ⟨ha, ho, ht⟩ := perform_eq_ok_iff.mp ⟨trusted.source, hp⟩
    obtain ⟨hv, hu⟩ := verifyTrust_ok_iff.mp ⟨trusted.decision, ht⟩
    by_contra hot
    exact h ⟨trusted.record, ho, hot, ha, hv, hu⟩

def developmentConfig : MeshConnectorConfig := ⟨"devmesh", none, .developmentOptional, none⟩

/-- Rendezvous is asked for `bob` and answers with a record of the sample device. -/
def misdirectedCall (kind : CallKind) : Call :=
  ⟨kind, "bob", .ok (some (sampleRecord 1 100 1)), .ok none, ⟨2, 3, 4, ⟨5, 6⟩⟩⟩

theorem samplePeer_ne_bob : samplePeer ≠ "bob" := by
  rw [samplePeer_eq, DevicePublicKey.peerId]
  intro h
  have hh := congrArg (fun t => t.toList.head?) h
  rw [String.toList_append] at hh
  exact absurd hh (by decide)

theorem development_passes {store : σ}
    (ho : Offered bindingCrates developmentConfig store call record)
    (hv : record.Verified bindingCrates.device "devmesh" call.clock.verify)
    (hi : record.Verified bindingCrates.device "devmesh" call.clock.binding.identity) :
    ∃ source decision, (perform bindingCrates developmentConfig store call).1 =
      .ok ⟨record, source, decision⟩ := by
  have hu : Unopposed bindingCrates developmentConfig call record := by
    refine .inl ⟨rfl, by decide, fun _ => ?_⟩
    simp only [verifyPeerRecordIdentity, bind_eq_ok_iff, ensure_eq_ok_iff, exists_const,
      UInt64.not_le]
    exact ⟨hi.peer, hi.unexpired, hi.signature⟩
  obtain ⟨decision, ht⟩ := verifyTrust_ok_iff.mpr ⟨hv, hu⟩
  obtain ⟨source, hp⟩ := perform_eq_ok_iff.mpr ⟨rfl, ho, ht⟩
  exact ⟨source, decision, hp⟩

theorem passes_for_bob (k : CallKind) : ∃ trusted,
    (perform bindingCrates developmentConfig new (misdirectedCall k)).1 = .ok trusted ∧
      trusted.record.body.peerId ≠ (misdirectedCall k).remotePeerId := by
  have ho : Offered bindingCrates developmentConfig new
      (misdirectedCall k) (sampleRecord 1 100 1) :=
    .inl ⟨rfl, fun _ => sampleRecord_verified 1 (by decide) (by decide : (2 : UInt64) < 100)⟩
  obtain ⟨s, d, hp⟩ := development_passes ho
    (sampleRecord_verified 1 (by decide) (by decide : (4 : UInt64) < 100))
    (sampleRecord_verified 1 (by decide) (by decide : (5 : UInt64) < 100))
  exact ⟨_, hp, samplePeer_ne_bob⟩

theorem misdirectedCall_passes :
    (∃ trusted, (perform bindingCrates developmentConfig new
        (misdirectedCall .connect)).1 = .ok trusted ∧
      trusted.record.body.peerId ≠ (misdirectedCall .connect).remotePeerId) ∧
    ∃ trusted, (perform bindingCrates developmentConfig new
        (misdirectedCall .revalidatePeerTrust)).1 = .ok trusted ∧
      trusted.record.body.peerId ≠ (misdirectedCall .revalidatePeerTrust).remotePeerId :=
  ⟨passes_for_bob .connect, passes_for_bob .revalidatePeerTrust⟩

end QuantumLink.Mesh
