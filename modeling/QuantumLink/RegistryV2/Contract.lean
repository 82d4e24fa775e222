import QuantumLink.Foundation.Run
import QuantumLink.RegistryV2.Authorization

/-! # The registry and its four mutating operations

`QuantumLinkNodeRegistryV2` with its operations in the order of the source's
statements, each check an early return. Every operation reads one peer's record,
decides, and only then writes: `decision` is that per-peer decision, and
`exec_eq_settle` says an operation is nothing but its decision committed.
-/

namespace QuantumLink.RegistryV2

open Op

/-! ## State -/

structure Registry where
  identities : Finmap (fun _ : String => StableIdentityRecord)
  events : List RegistryEvent

namespace Registry

def new : Registry where
  identities := ∅
  events := []

def getIdentity (self : Registry) (peerId : String) : Option StableIdentityRecord :=
  self.identities.lookup peerId

/-- The method `events`: the log of one peer. -/
def eventsOf (self : Registry) (peerId : String) : List RegistryEvent :=
  self.events.filter fun event => event.peerId = peerId

def pushEvent (event : RegistryEvent) (self : Registry) : Registry :=
  { self with events := self.events ++ [event] }

def insertIdentity (peerId : String) (record : StableIdentityRecord) (self : Registry) : Registry :=
  { self with identities := self.identities.insert peerId record }

@[simp] theorem getIdentity_new (p : String) : new.getIdentity p = none :=
  Finmap.lookup_empty p

@[simp] theorem eventsOf_new : new.eventsOf peerId = [] := rfl

@[simp] theorem getIdentity_pushEvent :
    (pushEvent event self).getIdentity peerId = self.getIdentity peerId := rfl

@[simp] theorem eventsOf_insertIdentity :
    (insertIdentity key record self).eventsOf peerId = self.eventsOf peerId := rfl

theorem getIdentity_insertIdentity : (insertIdentity key record self).getIdentity peerId =
      if peerId = key then some record else self.getIdentity peerId := by
  by_cases h : peerId = key
  · rw [if_pos h, h]
    exact Finmap.lookup_insert _
  · rw [if_neg h]
    exact Finmap.lookup_insert_of_ne _ h

theorem eventsOf_pushEvent : (pushEvent event self).eventsOf peerId =
      self.eventsOf peerId ++ if event.peerId = peerId then [event] else [] := by
  simp [eventsOf, pushEvent, List.filter_cons]

end Registry

/-! ## Operations -/

def registerIdentity (env : Env) (record : StableIdentityRecord)
    (walletAuthorization : WalletAuthorization) (deviceAuthorization : DeviceAuthorization) :
    Op Registry RegistryError Unit := do
  check (validateRecord record)
  check (ensure (record.identityRevision = initialIdentityRevision) .invalidRevision)
  check (ensure (record.status = .active) .invalidStatusTransition)
  let existing ← read fun self => self.getIdentity record.peerId
  check (ensure (existing = none) .alreadyRegistered)
  let payload ← check (canonicalRegisterPayload record)
  let actorDaddr ← check (verifiedActorDaddr env.wallet walletAuthorization payload)
  check (requireMatchingOwner record.ownerDaddr actorDaddr)
  check (validateDeviceAuthorization env record deviceAuthorization)
  update (Registry.pushEvent {
    peerId := record.peerId
    eventType := "registered"
    actorDaddr := actorDaddr
    identityRevision := record.identityRevision })
  update (Registry.insertIdentity record.peerId record)

def updateIdentity (env : Env) (record : StableIdentityRecord)
    (walletAuthorization : WalletAuthorization) (deviceAuthorization : DeviceAuthorization) :
    Op Registry RegistryError Unit := do
  check (validateRecord record)
  check (ensure (record.status ≠ .revoked) .invalidStatusTransition)
  let found ← read fun self => self.getIdentity record.peerId
  let existing ← check (okOr found .notFound)
  check (ensure (existing.status ≠ .revoked) .revoked)
  check (ensure (record.ownerDaddr = existing.ownerDaddr) .unauthorized)
  check (requireNextRevision existing.identityRevision record.identityRevision)
  let payload ← check (canonicalUpdatePayload record)
  let actorDaddr ← check (verifiedActorDaddr env.wallet walletAuthorization payload)
  check (requireMatchingOwner existing.ownerDaddr actorDaddr)
  check (validateDeviceAuthorization env record deviceAuthorization)
  update (Registry.pushEvent {
    peerId := record.peerId
    eventType := "updated"
    actorDaddr := actorDaddr
    identityRevision := record.identityRevision })
  update (Registry.insertIdentity record.peerId record)

/-- The common body of `revoke_identity` and `suspend_identity`: they differ in the
payload, the status written and the name of the event. -/
def changeStatus (env : Env) (canonicalPayload : String → UInt64 → Except RegistryError Bytes)
    (status : IdentityStatus) (eventType : String) (peerId : String) (identityRevision : UInt64)
    (walletAuthorization : WalletAuthorization) : Op Registry RegistryError Unit := do
  check (validatePeerId peerId)
  let found ← read fun self => self.getIdentity peerId
  let existing ← check (okOr found .notFound)
  check (ensure (existing.status ≠ .revoked) .revoked)
  check (requireNextRevision existing.identityRevision identityRevision)
  let payload ← check (canonicalPayload peerId identityRevision)
  let actorDaddr ← check (verifiedActorDaddr env.wallet walletAuthorization payload)
  check (requireMatchingOwner existing.ownerDaddr actorDaddr)
  let found ← read fun self => self.getIdentity peerId
  let record ← check (okOr found .notFound)
  update (Registry.insertIdentity peerId
    { record with status := status, identityRevision := identityRevision })
  update (Registry.pushEvent {
    peerId := peerId
    eventType := eventType
    actorDaddr := actorDaddr
    identityRevision := identityRevision })

def revokeIdentity (env : Env) : String → UInt64 → WalletAuthorization →
    Op Registry RegistryError Unit :=
  changeStatus env canonicalRevokePayload .revoked "revoked"

def suspendIdentity (env : Env) : String → UInt64 → WalletAuthorization →
    Op Registry RegistryError Unit :=
  changeStatus env canonicalSuspendPayload .suspended "suspended"

/-- A call of one of the mutating operations with its arguments. -/
inductive Call where
  | register (record : StableIdentityRecord) (wallet : WalletAuthorization)
      (device : DeviceAuthorization)
  | update (record : StableIdentityRecord) (wallet : WalletAuthorization)
      (device : DeviceAuthorization)
  | suspend (peerId : String) (identityRevision : UInt64) (wallet : WalletAuthorization)
  | revoke (peerId : String) (identityRevision : UInt64) (wallet : WalletAuthorization)

namespace Call

def exec (env : Env) : Call → Op Registry RegistryError Unit
  | register record wallet device => registerIdentity env record wallet device
  | update record wallet device => updateIdentity env record wallet device
  | suspend peerId revision wallet => suspendIdentity env peerId revision wallet
  | revoke peerId revision wallet => revokeIdentity env peerId revision wallet

def peerId : Call → String
  | register record _ _ | update record _ _ => record.peerId
  | suspend peerId _ _ | revoke peerId _ _ => peerId

def identityRevision : Call → UInt64
  | register record _ _ | update record _ _ => record.identityRevision
  | suspend _ revision _ | revoke _ revision _ => revision

def wallet : Call → WalletAuthorization
  | register _ wallet _ | update _ wallet _ => wallet
  | suspend _ _ wallet | revoke _ _ wallet => wallet

/-- The bytes the wallet signature of a call is checked against. -/
def payload : Call → Except RegistryError Bytes
  | register record _ _ => canonicalRegisterPayload record
  | update record _ _ => canonicalUpdatePayload record
  | suspend peerId revision _ => canonicalSuspendPayload peerId revision
  | revoke peerId revision _ => canonicalRevokePayload peerId revision

def eventType : Call → String
  | register .. => "registered"
  | update .. => "updated"
  | suspend .. => "suspended"
  | revoke .. => "revoked"

end Call

/-- One call of a run: the registry's answer and the state it leaves. -/
def step (env : Env) (s : Registry) (call : Call) : Except RegistryError Unit × Registry :=
  call.exec env s

def reach (env : Env) (calls : List Call) : Registry := run (step env) Registry.new calls

/-! ## The decision about one peer -/

/-- What an accepted call writes: the peer's record and one event. -/
structure Change where
  record : StableIdentityRecord
  event : RegistryEvent

def Change.commit (change : Change) (s : Registry) : Registry :=
  Registry.pushEvent change.event (Registry.insertIdentity change.event.peerId change.record s)

def Call.mkEvent (call : Call) (actorDaddr : String) : RegistryEvent where
  peerId := call.peerId
  eventType := call.eventType
  actorDaddr := actorDaddr
  identityRevision := call.identityRevision

/-- The decision of a status change on an existing record. -/
def decideStatus (env : Env) (call : Call) (status : IdentityStatus)
    (stored : Option StableIdentityRecord) : Except RegistryError Change := do
  validatePeerId call.peerId
  let existing ← okOr stored .notFound
  ensure (existing.status ≠ .revoked) .revoked
  requireNextRevision existing.identityRevision call.identityRevision
  let payload ← call.payload
  let actorDaddr ← verifiedActorDaddr env.wallet call.wallet payload
  requireMatchingOwner existing.ownerDaddr actorDaddr
  pure ⟨{ existing with status := status, identityRevision := call.identityRevision },
    call.mkEvent actorDaddr⟩

/-- What a call does to the peer it names, given the record stored for it. -/
def Call.decision (env : Env) (stored : Option StableIdentityRecord) :
    Call → Except RegistryError Change
  | call@(.register record wallet device) => do
      validateRecord record
      ensure (record.identityRevision = initialIdentityRevision) .invalidRevision
      ensure (record.status = .active) .invalidStatusTransition
      ensure (stored = none) .alreadyRegistered
      let payload ← call.payload
      let actorDaddr ← verifiedActorDaddr env.wallet wallet payload
      requireMatchingOwner record.ownerDaddr actorDaddr
      validateDeviceAuthorization env record device
      pure ⟨record, call.mkEvent actorDaddr⟩
  | call@(.update record wallet device) => do
      validateRecord record
      ensure (record.status ≠ .revoked) .invalidStatusTransition
      let existing ← okOr stored .notFound
      ensure (existing.status ≠ .revoked) .revoked
      ensure (record.ownerDaddr = existing.ownerDaddr) .unauthorized
      requireNextRevision existing.identityRevision record.identityRevision
      let payload ← call.payload
      let actorDaddr ← verifiedActorDaddr env.wallet wallet payload
      requireMatchingOwner existing.ownerDaddr actorDaddr
      validateDeviceAuthorization env record device
      pure ⟨record, call.mkEvent actorDaddr⟩
  | call@(.suspend ..) => decideStatus env call .suspended stored
  | call@(.revoke ..) => decideStatus env call .revoked stored

private theorem registerIdentity_eq_settle (env : Env) (r : StableIdentityRecord)
    (w : WalletAuthorization) (d : DeviceAuthorization) (s : Registry) :
    registerIdentity env r w d s = settle Change.commit
        ((Call.register r w d).decision env (s.getIdentity r.peerId)) s := by
  unfold registerIdentity Call.decision
  iterate 3 (apply check_bind_settle; intro _ _)
  rw [read_bind]
  iterate 5 (apply check_bind_settle; intro _ _)
  rfl

private theorem updateIdentity_eq_settle (env : Env) (r : StableIdentityRecord)
    (w : WalletAuthorization) (d : DeviceAuthorization) (s : Registry) :
    updateIdentity env r w d s = settle Change.commit
        ((Call.update r w d).decision env (s.getIdentity r.peerId)) s := by
  unfold updateIdentity Call.decision
  iterate 2 (apply check_bind_settle; intro _ _)
  rw [read_bind]
  apply check_bind_settle
  intro e _
  iterate 7 (apply check_bind_settle; intro _ _)
  rfl

-- The second lookup finds the record of the first one, so its error is unreachable.
private theorem changeStatus_eq_settle (env : Env) (call : Call)
    (c : String → UInt64 → Except RegistryError Bytes)
    (hp : call.payload = c call.peerId call.identityRevision)
    (st : IdentityStatus) (s : Registry) :
    changeStatus env c st call.eventType call.peerId call.identityRevision call.wallet s =
      settle Change.commit (decideStatus env call st (s.getIdentity call.peerId)) s := by
  unfold changeStatus decideStatus
  apply check_bind_settle
  intro _ _
  rw [read_bind, hp]
  apply check_bind_settle
  intro e he
  iterate 5 (apply check_bind_settle; intro _ _)
  rw [read_bind, check_bind_ok he]
  rfl

theorem exec_eq_settle (env : Env) (call : Call) (s : Registry) : call.exec env s =
      settle Change.commit (call.decision env (s.getIdentity call.peerId)) s := by
  cases call with
  | register re w d => exact registerIdentity_eq_settle env re w d s
  | update re w d => exact updateIdentity_eq_settle env re w d s
  | suspend peerId r w =>
    exact changeStatus_eq_settle env (.suspend peerId r w) canonicalSuspendPayload
      rfl .suspended s
  | revoke peerId r w =>
    exact changeStatus_eq_settle env (.revoke peerId r w) canonicalRevokePayload
      rfl .revoked s

/-- What a step does: it commits an accepted decision, or it changes nothing. -/
theorem step_cases (env : Env) (s : Registry) (call : Call) :
    (∃ change, call.decision env (s.getIdentity call.peerId) = .ok change ∧
        step env s call = (.ok (), change.commit s)) ∨
      ∃ e, call.decision env (s.getIdentity call.peerId) = .error e ∧
        step env s call = (.error e, s) := by
  have h := exec_eq_settle env call s
  cases hd : call.decision env (s.getIdentity call.peerId) with
  | ok change =>
    rw [hd] at h
    exact .inl ⟨change, rfl, h⟩
  | error e =>
    rw [hd] at h
    exact .inr ⟨e, rfl, h⟩

/-! ## When a decision is to accept -/

/-- The authority behind an accepted call: its wallet signature verifies its
payload under a key whose address is `actor`. -/
def Call.AuthorizedBy (env : Env) (call : Call) (actor : String) : Prop :=
  ∃ payload publicKey signature, call.payload = .ok payload ∧
    Hex.decode call.wallet.actorPublicKeyHex = some publicKey ∧
    Hex.decode call.wallet.actorSignatureHex = some signature ∧
    env.wallet.verifyWalletMldsa65Signature publicKey payload signature = .ok true ∧
    env.wallet.daddrFromPublicKey publicKey = .ok actor

variable {env : Env} {call : Call}

theorem Call.authorizedBy_iff :
    call.AuthorizedBy env actor ↔ ∃ payload, call.payload = .ok payload ∧
      verifiedActorDaddr env.wallet call.wallet payload = .ok actor := by
  simp [AuthorizedBy, verifiedActorDaddr_eq_ok_iff]

variable {stored : Option StableIdentityRecord} {change : Change}

theorem decision_register_eq_ok_iff :
    (Call.register record wallet device).decision env stored = .ok change ↔
      record.Valid ∧ record.identityRevision = initialIdentityRevision ∧ record.status = .active ∧
        stored = none ∧ (Call.register record wallet device).AuthorizedBy env record.ownerDaddr ∧
        validateDeviceAuthorization env record device = .ok () ∧
        change = ⟨record, (Call.register record wallet device).mkEvent record.ownerDaddr⟩ := by
  simp only [Call.decision, bind_eq_ok_iff, ensure_eq_ok_iff, requireMatchingOwner,
    validateRecord_eq_ok_iff, exists_const, Call.authorizedBy_iff]
  constructor
  · rintro ⟨hv, hr, ha, hn, p, hp, a, hac, rfl, _, hd, hc⟩
    exact ⟨hv, hr, ha, hn, ⟨p, hp, hac⟩, hd, (Except.ok.inj hc).symm⟩
  · rintro ⟨hv, hr, ha, hn, ⟨p, hp, hac⟩, hd, rfl⟩
    exact ⟨hv, hr, ha, hn, p, hp, _, hac, rfl, (), hd, rfl⟩

theorem decision_update_eq_ok_iff :
    (Call.update record wallet device).decision env stored = .ok change ↔
      record.Valid ∧ record.status ≠ .revoked ∧ (∃ existing, stored = some existing ∧
        existing.status ≠ .revoked ∧ record.ownerDaddr = existing.ownerDaddr ∧
        existing.identityRevision.toNat + 1 = record.identityRevision.toNat) ∧
        (Call.update record wallet device).AuthorizedBy env record.ownerDaddr ∧
        validateDeviceAuthorization env record device = .ok () ∧
        change = ⟨record, (Call.update record wallet device).mkEvent record.ownerDaddr⟩ := by
  simp only [Call.decision, bind_eq_ok_iff, ensure_eq_ok_iff, requireMatchingOwner,
    requireNextRevision, okOr_eq_ok_iff, validateRecord_eq_ok_iff, exists_const,
    Call.authorizedBy_iff]
  constructor
  · rintro ⟨hv, hs, existing, hso, hl, ho, hn, p, hp, a, ha, rfl, _, hd, hc⟩
    rw [ho]
    exact ⟨hv, hs, ⟨existing, hso, hl, rfl, hn⟩, ⟨p, hp, ha⟩, hd, (Except.ok.inj hc).symm⟩
  · rintro ⟨hv, hs, ⟨existing, hso, hl, ho, hn⟩, ⟨p, hp, ha⟩, hd, rfl⟩
    exact ⟨hv, hs, existing, hso, hl, ho, hn, p, hp, _, ha, ho.symm, (), hd, rfl⟩

theorem decideStatus_eq_ok_iff : decideStatus env call status stored = .ok change ↔
      ValidPeerId call.peerId ∧ ∃ existing, stored = some existing ∧ existing.status ≠ .revoked ∧
        existing.identityRevision.toNat + 1 = call.identityRevision.toNat ∧
        call.AuthorizedBy env existing.ownerDaddr ∧
        change = ⟨{ existing with status := status, identityRevision := call.identityRevision },
          call.mkEvent existing.ownerDaddr⟩ := by
  simp only [decideStatus, bind_eq_ok_iff, validatePeerId_eq_ok_iff, okOr_eq_ok_iff,
    ensure_eq_ok_iff, requireNextRevision, requireMatchingOwner, exists_const,
    Call.authorizedBy_iff]
  constructor
  · rintro ⟨he, existing, hs, hl, hn, p, hp, a, ha, rfl, hc⟩
    exact ⟨he, existing, hs, hl, hn, ⟨p, hp, ha⟩, (Except.ok.inj hc).symm⟩
  · rintro ⟨he, existing, hs, hl, hn, ⟨p, hp, ha⟩, rfl⟩
    exact ⟨he, existing, hs, hl, hn, p, hp, _, ha, rfl, rfl⟩

/-- All that an accepted decision implies, whichever the operation. -/
structure Accepted (env : Env) (call : Call) (stored : Option StableIdentityRecord)
    (change : Change) : Prop where
  event : change.event = call.mkEvent change.record.ownerDaddr
  authorized : call.AuthorizedBy env change.record.ownerDaddr
  validPeerId : ValidPeerId call.peerId
  revision : change.record.identityRevision = call.identityRevision
  revoked : change.record.status = .revoked ↔ call.eventType = "revoked"
  /-- A first record is a registration with revision one. -/
  fresh : stored = none → call.eventType = "registered" ∧ change.record.Valid ∧
    change.record.peerId = call.peerId ∧ call.identityRevision = initialIdentityRevision
  /-- A later record keeps the owner and takes the next revision. -/
  next : ∀ existing, stored = some existing → call.eventType ≠ "registered" ∧
    existing.status ≠ .revoked ∧ change.record.ownerDaddr = existing.ownerDaddr ∧
    call.identityRevision.toNat = existing.identityRevision.toNat + 1 ∧
    (existing.Valid → change.record.Valid) ∧
    (existing.peerId = call.peerId → change.record.peerId = call.peerId)

private theorem decideStatus_inversion {s : IdentityStatus} (hr : call.eventType ≠ "registered")
    (hs : s = .revoked ↔ call.eventType = "revoked")
    (h : decideStatus env call s stored = .ok change) : Accepted env call stored change := by
  obtain ⟨hp, e, rfl, hl, hn, ha, rfl⟩ := decideStatus_eq_ok_iff.mp h
  have ho : call.identityRevision ≠ 0 := by
    intro h0
    rw [h0] at hn
    simp at hn
  refine ⟨rfl, ha, hp, rfl, hs, nofun, ?_⟩
  intro x hx
  cases hx
  exact ⟨hr, hl, rfl, hn.symm, fun hv => hv.restamp s ho, id⟩

theorem decision_inversion (h : call.decision env stored = .ok change) :
    Accepted env call stored change := by
  cases call with
  | register re w d =>
    obtain ⟨hv, hr, hc, rfl, ha, _, rfl⟩ := decision_register_eq_ok_iff.mp h
    refine ⟨rfl, ha, hv.peerId, rfl, ?_, ?_, nofun⟩
    · simp [hc, Call.eventType]
    · intro _
      exact ⟨rfl, hv, rfl, hr⟩
  | update re w d =>
    obtain ⟨hv, hs, ⟨e, rfl, hl, ho, hn⟩, ha, _, rfl⟩ := decision_update_eq_ok_iff.mp h
    refine ⟨rfl, ha, hv.peerId, rfl, ?_, nofun, ?_⟩
    · simp [hs, Call.eventType]
    · intro x hx
      cases hx
      exact ⟨by simp [Call.eventType], hl, ho, hn.symm, fun _ => hv, fun _ => rfl⟩
  | suspend p r w | revoke p r w =>
    exact decideStatus_inversion (by simp [Call.eventType]) (by simp [Call.eventType]) h

theorem Accepted.event_peerId
    (h : Accepted env call stored change) : change.event.peerId = call.peerId := by
  rw [h.event]
  rfl

theorem getIdentity_commit (change : Change) (s : Registry) (p : String) :
    (change.commit s).getIdentity p =
      if p = change.event.peerId then some change.record else s.getIdentity p := by
  rw [Change.commit, Registry.getIdentity_pushEvent, Registry.getIdentity_insertIdentity]

theorem eventsOf_commit (change : Change) (s : Registry) (p : String) :
    (change.commit s).eventsOf p =
      s.eventsOf p ++ if change.event.peerId = p then [change.event] else [] := by
  rw [Change.commit, Registry.eventsOf_pushEvent, Registry.eventsOf_insertIdentity]

end QuantumLink.RegistryV2
