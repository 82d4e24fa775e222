import QuantumLink.Mesh.FailureCodes
import QuantumLink.Planes.SteamOs
import QuantumLink.Publication.Worker

/-! # Packet access and the trust in the selected peer

`DaemonMeshTransport` lets packets through while the shared snapshot is current. The worker has the
selected peer's trust checked in each round and writes the decision into that snapshot, but the test
for currency does not look at the decision: a peer that the check found revoked keeps its packet
access for as long as this device's own record is current.
-/

namespace QuantumLink.Publication

open Device Discovery Identity Mesh
open Relay (errorText)
open SteamOs (DataPlaneError InboundTransportFrame)
open Packet (InstalledPeerSession)

def meshStateReady : UInt32 := 1

/-- `is_current` of the controller, which reads the snapshot as of the time it is asked for. -/
def PublicationCurrent (shared : PublicationSnapshot) (nowUnix : UInt64) : Prop :=
  (shared.atTime nowUnix).IsCurrent nowUnix

instance (shared : PublicationSnapshot) (nowUnix : UInt64) :
    Decidable (PublicationCurrent shared nowUnix) :=
  inferInstanceAs (Decidable ((shared.atTime nowUnix).IsCurrent nowUnix))

/-- A call of the packet path, with what the clock and the transport handle answer in it. -/
inductive PacketCall where
  | isReady (nowUnix : UInt64) (stateCode : UInt32)
      (defaultPacketSession : Except QlinkError (Option InstalledPeerSession))
  | sendFrame (nowUnix : UInt64) (sent : Except QlinkError Unit)
  | tryReceiveFrame (nowUnix : UInt64) (inbound : Option InboundTransportFrame)

inductive PacketAnswer where
  | ready (isReady : Bool)
  | sent (result : Except DataPlaneError Unit)
  | received (inbound : Option InboundTransportFrame)

/-- What the handle alone would let through. -/
def PacketCall.Open : PacketCall → Prop
  | .isReady _ stateCode session =>
    stateCode = meshStateReady ∧ ∃ lease, session = .ok (some lease)
  | .sendFrame _ sent => sent = .ok ()
  | .tryReceiveFrame _ inbound => inbound ≠ none

def PacketCall.nowUnix : PacketCall → UInt64
  | .isReady nowUnix _ _ => nowUnix
  | .sendFrame nowUnix _ => nowUnix
  | .tryReceiveFrame nowUnix _ => nowUnix

/-- Whether `default_packet_session` has a lease. -/
def hasSession : Except QlinkError (Option InstalledPeerSession) → Bool
  | .ok (some _) => true
  | _ => false

def PacketCall.answer (shared : PublicationSnapshot) : PacketCall → PacketAnswer
  | .isReady nowUnix stateCode session =>
    .ready (decide (PublicationCurrent shared nowUnix) && stateCode == meshStateReady &&
      hasSession session)
  | .sendFrame nowUnix sent =>
    .sent (if PublicationCurrent shared nowUnix then
        sent.mapError fun error => .transport (errorText error)
      else .error (.transport "signed local peer record is not current"))
  | .tryReceiveFrame nowUnix inbound =>
    .received (if PublicationCurrent shared nowUnix then inbound else none)

/-- The answer lets nothing through. -/
def PacketAnswer.Refuses : PacketAnswer → Prop
  | .ready isReady => isReady = false
  | .sent result => ∃ error, result = .error error
  | .received inbound => inbound = none

theorem publicationCurrent_iff : PublicationCurrent shared nowUnix ↔ shared.IsCurrent nowUnix :=
  shared.isCurrent_atTime nowUnix

theorem hasSession_iff : hasSession session = true ↔ ∃ lease, session = .ok (some lease) := by
  match session with
  | .ok (some lease) | .ok none => simp [hasSession]
  | .error error => simp [hasSession]

/-- A call is refused exactly if the snapshot is not current or the handle has nothing to give. -/
theorem answer_refuses_iff (sh : PublicationSnapshot) (c : PacketCall) :
    (c.answer sh).Refuses ↔ ¬ (sh.IsCurrent c.nowUnix ∧ c.Open) := by
  cases c with
  | isReady nowUnix s ses =>
    simp [PacketCall.answer, PacketAnswer.Refuses, PacketCall.Open, PacketCall.nowUnix,
      ← Bool.not_eq_true, hasSession_iff, publicationCurrent_iff, and_assoc]
  | sendFrame nowUnix se =>
    simp only [PacketCall.answer, PacketAnswer.Refuses, PacketCall.Open, PacketCall.nowUnix,
      publicationCurrent_iff]
    by_cases hc : sh.IsCurrent nowUnix
    · cases se <;> simp [hc, Except.mapError]
    · simp [hc]
  | tryReceiveFrame nowUnix i =>
    simp only [PacketCall.answer, PacketAnswer.Refuses, PacketCall.Open, PacketCall.nowUnix,
      publicationCurrent_iff]
    by_cases hc : sh.IsCurrent nowUnix <;> simp [hc]

section
variable {σ : Type} [PeerStore σ]

/-- The worker and the connector it asks about the selected peer. -/
structure Daemon (σ : Type) where
  selectedPeerId : String
  worker : Worker
  store : σ

structure TrustCheck where
  rendezvous : Except QlinkError (Option PeerRecord)
  registry : Except QlinkError (Option RegistryIdentityLookupRecord)
  clock : Readings

def TrustCheck.call (check : TrustCheck) (selectedPeerId : String) : Call :=
  ⟨.revalidatePeerTrust, selectedPeerId, check.rendezvous, check.registry, check.clock⟩

inductive DaemonEvent where
  /-- A step of the worker; `check` is what the trust check meets, or nothing if it times out. -/
  | worker (event : WorkerEvent) (check : Option TrustCheck)
  | packet (call : PacketCall)

def WorkerEvent.withTrust (trust : Timed QlinkError Unit) : WorkerEvent → WorkerEvent
  | .publish round => .publish { round with trust := trust }
  | event => event

/-- The step is a round that comes as far as the trust check. -/
def ChecksTrust (crates : DeviceCrates) (worker : Worker) : WorkerEvent → Prop
  | .publish round =>
    ∃ sequence, worker.stage = .publishing sequence ∧ worker.publicDytallixRequired = true ∧
      (publishedRecord crates sequence round worker.machine worker.recordFile).1.isSome = true
  | _ => False

instance (crates : DeviceCrates) (worker : Worker) (event : WorkerEvent) :
    Decidable (ChecksTrust crates worker event) :=
  match event, worker with
  | .publish round, ⟨required, .publishing sequence, machine, shared, stateFile, recordFile⟩ =>
    decidable_of_iff (required = true ∧
      (publishedRecord crates sequence round machine recordFile).1.isSome = true) (by
        constructor
        · exact fun h => ⟨sequence, rfl, h⟩
        · rintro ⟨other, hstage, h⟩
          obtain rfl := Stage.publishing.inj hstage
          exact h)
  | .publish _, ⟨_, .starting, _, _, _, _⟩ => isFalse (by rintro ⟨_, ⟨⟩, _⟩)
  | .publish _, ⟨_, .reserving, _, _, _, _⟩ => isFalse (by rintro ⟨_, ⟨⟩, _⟩)
  | .publish _, ⟨_, .waiting, _, _, _, _⟩ => isFalse (by rintro ⟨_, ⟨⟩, _⟩)
  | .publish _, ⟨_, .stopped, _, _, _, _⟩ => isFalse (by rintro ⟨_, ⟨⟩, _⟩)
  | .runtimeBuilt, _ => isFalse id
  | .runtimeFailed _ _, _ => isFalse id
  | .reserve _ _, _ => isFalse id
  | .woken _, _ => isFalse id

variable (crates : ClientCrates)

variable (config : MeshConnectorConfig)

variable (daemon : Daemon σ)

/-- What `revalidate_peer_trust` comes to. -/
def trustOutcome :
    Option TrustCheck → Timed QlinkError Unit
  | none => .timedOut
  | some check =>
    .answered ((perform crates config daemon.store (check.call daemon.selectedPeerId)).1.map
      fun _ => ())

def Daemon.step (crates : ClientCrates) (config : MeshConnectorConfig) (daemon : Daemon σ) :
    DaemonEvent → Option PacketAnswer × Daemon σ
  | .worker event check =>
    (none,
      { daemon with
        worker := (daemon.worker.step crates.device
          (event.withTrust (trustOutcome crates config daemon check))).2
        store :=
          match check with
          | some check =>
            if ChecksTrust crates.device daemon.worker event then
              (perform crates config daemon.store (check.call daemon.selectedPeerId)).2
            else daemon.store
          | none => daemon.store })
  | .packet call => (some (call.answer daemon.worker.shared), daemon)

/-- The reasons that speak against the peer: it is revoked or suspended, or what the registry has
for it does not match its record. -/
def AgainstPeer : Rejection → Prop
  | .revoked | .suspended | .mismatch _ => True
  | .stable .revoked | .stable .suspended | .stable .wrongDevice | .stable .wrongNodeSigningKey
  | .stable .wrongMeshScope => True
  | _ => False

/-- The last trust check that came to a verdict was against the selected peer. -/
def deniedAfter (event : DaemonEvent) (denied : Prop) : Prop :=
  match event with
  | .worker event (some check) =>
    if ChecksTrust crates.device daemon.worker event then
      (∃ reason, AgainstPeer reason ∧
        Rejected crates config daemon.store (check.call daemon.selectedPeerId) reason) ∨
      denied ∧ ¬ ∃ trusted,
        (perform crates config daemon.store (check.call daemon.selectedPeerId)).1 = .ok trusted
    else denied
  | _ => denied

variable (state : Daemon σ × Prop)

/-- While the peer is denied, a call of the packet path is refused. -/
def Withheld : DaemonEvent → Prop
  | .packet call => state.2 → (call.answer state.1.worker.shared).Refuses
  | .worker _ _ => True

/-- While the peer is denied, calls of the packet path come only when this device's own record is
not current, or when the handle has nothing to give. -/
def Idle : DaemonEvent → Prop
  | .packet call => state.2 → ¬ (state.1.worker.shared.IsCurrent call.nowUnix ∧ call.Open)
  | .worker _ _ => True

/-- **A peer found revoked loses packet access only by chance.** In a run of the daemon, every call
of the packet path made while the selected peer stands denied is refused exactly if every such call
comes while this device's own record is not current, or meets a handle that has nothing to give. -/
theorem denied_peer_withheld_iff (events : List DaemonEvent) :
    Along (withRecord (Daemon.step crates config) (deniedAfter crates config)) Withheld
        (daemon, False) events ↔
      Along (withRecord (Daemon.step crates config) (deniedAfter crates config)) Idle
        (daemon, False) events := by
  refine along_congr (fun _ => True) (fun _ _ _ => trivial) (fun s e _ => ?_) trivial events
  cases e with
  | worker e c => exact Iff.rfl
  | packet ca => exact imp_congr_right fun _ => answer_refuses_iff _ _

end

/-! ## A revoked peer that is served -/

section
variable {σ : Type} [PeerStore σ]

/-- A first round in which the trust check meets this. -/
def checkedRound (record : PeerRecord) (check : TrustCheck) : List DaemonEvent :=
  [.worker .runtimeBuilt none, .worker (.reserve 10 none) none,
    .worker (.publish (firstRound record .timedOut)) (some check)]

def freshDaemon (selectedPeerId : String) (store : σ) : Daemon σ :=
  ⟨selectedPeerId, freshWorker, store⟩

theorem checkedRound_worker (c : ClientCrates) (co : MeshConnectorConfig)
    (s : String) (st : σ) (r : PeerRecord) (ch : TrustCheck) :
    (run (Daemon.step c co) (freshDaemon s st) (checkedRound r ch)).worker =
      run (Worker.step c.device) freshWorker (firstEvents r
        (trustOutcome c co (freshDaemon s st) (some ch))) := rfl

theorem checkedRound_denied {crates : ClientCrates} {config : MeshConnectorConfig}
    {selected : String} {store : σ} {record : PeerRecord} {check : TrustCheck}
    {reason : Rejection}
    (hc : PublicationStateMachine.checkRecord crates.device 1 10 10 record = .ok ())
    (ha : AgainstPeer reason)
    (hr : Rejected crates config store (check.call selected) reason) :
    (run (withRecord (Daemon.step crates config) (deniedAfter crates config))
      (freshDaemon selected store, False) (checkedRound record check)).2 := by
  have hh : ChecksTrust crates.device
      (Worker.reserve 10 none { freshWorker with stage := .reserving }).2
      (.publish (firstRound record .timedOut)) := by
    refine ⟨1, rfl, rfl, ?_⟩
    simp [publishedRecord, firstRound, PublicationStateMachine.acceptRecord, hc, writeJsonAtomically]
  show deniedAfter crates config
    ⟨selected, (Worker.reserve 10 none { freshWorker with stage := .reserving }).2, store⟩
    (.worker (.publish (firstRound record .timedOut)) (some check)) False
  rw [deniedAfter, if_pos hh]
  exact .inl ⟨reason, ha, hr⟩

end

/-- The registry answers for the sample device with its revoked identity. -/
def revokedCheck : TrustCheck :=
  ⟨.ok (some (sampleRecord 1 100 1)), .ok (some (.stableIdentityV2 revokedBinding)),
    ⟨2, 3, 4, ⟨5, 6⟩⟩⟩

theorem revokedCheck_rejected {σ : Type} [PeerStore σ] (s : σ) :
    Rejected bindingCrates (publicConfigFor .stableIdentityV2) s (revokedCheck.call samplePeer)
      (.stable .revoked) where
  acl := rfl
  record := ⟨sampleRecord 1 100 1,
    .inl ⟨rfl, fun _ => sampleRecord_verified 1 (by decide) (by decide : (2 : UInt64) < 100)⟩,
    sampleRecord_verified 1 (by decide) (by decide : (4 : UInt64) < 100), revokedBinding_rejection⟩

/-- The trust check finds the selected peer revoked, and the packet path stays open: it is ready, it
sends, and it hands out what the peer sent. -/
theorem revoked_peer_served :
    let denied := run (withRecord (Daemon.step bindingCrates (publicConfigFor .stableIdentityV2))
        (deniedAfter bindingCrates (publicConfigFor .stableIdentityV2)))
      (freshDaemon samplePeer PeerStore.InMemoryPeerStore.new, False)
      (checkedRound (sampleRecord 1 100 1) revokedCheck)
    let l : InstalledPeerSession := ⟨samplePeer, .inbound, 1, [], 100, 0⟩
    denied.2 ∧
      (∀ c ∈ [PacketCall.isReady 11 1 (.ok (some l)), .sendFrame 11 (.ok ()),
          .tryReceiveFrame 11 (some ⟨[], l⟩)], ¬ (c.answer denied.1.worker.shared).Refuses) := by
  intro denied l
  have ha : AgainstPeer (.stable .revoked) := trivial
  refine ⟨checkedRound_denied sampleRecord_checked ha (revokedCheck_rejected _), ?_⟩
  have hc : denied.1.worker.shared.IsCurrent 11 := by
    rw [show denied.1 = run (Daemon.step _ _) _ _ from run_withRecord_fst _ _ _ _,
      checkedRound_worker]
    exact firstEvents_current sampleRecord_checked _ (by decide : (11 : UInt64) < 100)
  intro c hca
  rw [answer_refuses_iff, not_not]
  simp only [List.mem_cons, List.not_mem_nil, or_false] at hca
  obtain rfl | rfl | rfl := hca
  · exact ⟨hc, rfl, l, rfl⟩
  · exact ⟨hc, rfl⟩
  · exact ⟨hc, by simp [PacketCall.Open]⟩

end QuantumLink.Publication
