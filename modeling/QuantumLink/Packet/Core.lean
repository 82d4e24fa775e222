import QuantumLink.Frame.Protector
import QuantumLink.Packet.Frames

/-! # The packet tunnel core

`packet_core` of `qlink-core`: packets from the tunnel become frames for the transport and
back, each direction gated by an installed peer session if sessions are required. The
clock is an argument of the calls that read it. Metrics and the packet number are natural
numbers; the number is cut to 64 bits where it is written to a frame.
-/

namespace QuantumLink.Packet

open Device (QlinkError)
open Op
open QuantumLink.Frame (ReplayWindow)

/-! ## State -/

inductive PacketDisposition where
  | queuedForTransport
  | droppedUnprotected
  | droppedPeerSessionUnavailable
deriving DecidableEq

structure TunnelPacket where
  protocolFamily : UInt32
  bytes : Bytes

structure PacketCoreMetrics where
  packetsFromTunnel : Nat := 0
  packetsToTunnel : Nat := 0
  transportFramesOut : Nat := 0
  transportFramesIn : Nat := 0
  droppedUnprotected : Nat := 0
  droppedMalformed : Nat := 0
  droppedPeerSessionUnavailable : Nat := 0
  droppedReplay : Nat := 0

inductive PeerSessionDirection where
  | outbound
  | inbound
deriving DecidableEq

/-- The name the `Debug` format prints. -/
def PeerSessionDirection.name : PeerSessionDirection → String
  | outbound => "Outbound"
  | inbound => "Inbound"

structure InstalledPeerSession where
  peerId : String
  direction : PeerSessionDirection
  generation : UInt64
  transcriptBinding : Bytes
  expiresAtUnix : UInt64
  rekeyAfterBytes : UInt64
deriving DecidableEq

structure PacketTunnelCore where
  policy : RoutePolicy
  requirePeerSession : Bool
  outboundPeerSession : Option InstalledPeerSession
  inboundPeerSession : Option InstalledPeerSession
  outboundPeerSessionBytes : UInt64
  inboundPeerSessionBytes : UInt64
  replayWindow : ReplayWindow
  nextPacketNumber : Nat
  transportOutbox : List Bytes
  tunnelOutbox : List TunnelPacket
  metrics : PacketCoreMetrics

/-- `RoutePolicy::new` has parsed the routes. -/
structure PacketTunnelCoreConfig where
  policy : RoutePolicy
  mtu : Nat
  suite : String
  requirePeerSession : Bool

def supportedSuites : List String :=
  ["QLINK-FIPS203-MLKEM768-SHAKE256-v1", "QLINK-FIPS204-MLDSA65-SHAKE256-v1",
    "QLINK-FIPS205-SLHDSA-SHAKE128S-SHAKE256-v1"]

def validateSuiteName (suite : String) : Except QlinkError Unit :=
  ensure (suite ∈ supportedSuites) (.protocol ("unsupported suite " ++ suite))

namespace PacketTunnelCore

def initial (policy : RoutePolicy) (requirePeerSession : Bool) : PacketTunnelCore :=
  ⟨policy, requirePeerSession, none, none, 0, 0, ReplayWindow.new, 1, [], [], {}⟩

def new (config : PacketTunnelCoreConfig) : Except QlinkError PacketTunnelCore := do
  ensure (576 ≤ config.mtu) (.protocol "MTU must be at least 576 bytes")
  validateSuiteName config.suite
  pure (initial config.policy config.requirePeerSession)

/-! ## Sessions -/

variable (core : PacketTunnelCore)

def peerSession : PeerSessionDirection → Option InstalledPeerSession
  | .outbound => core.outboundPeerSession
  | .inbound => core.inboundPeerSession

def peerSessionBytes : PeerSessionDirection → UInt64
  | .outbound => core.outboundPeerSessionBytes
  | .inbound => core.inboundPeerSessionBytes

/-- Put a session, or none, into a direction's slot. The byte count starts again, and so does
the replay window if the direction is inbound. -/
def resetDirection (slot : Option InstalledPeerSession) :
    PeerSessionDirection → PacketTunnelCore
  | .outbound => { core with outboundPeerSession := slot, outboundPeerSessionBytes := 0 }
  | .inbound => { core with
      inboundPeerSession := slot, inboundPeerSessionBytes := 0, replayWindow := ReplayWindow.new }

/-- The installed session stays: it is the same one, or a newer one of the same peer. -/
def Keeps (session : InstalledPeerSession) : Prop :=
  ∃ current ∈ core.peerSession session.direction,
    current = session ∨ current.peerId = session.peerId ∧ session.generation ≤ current.generation

instance (core : PacketTunnelCore) (session : InstalledPeerSession) :
    Decidable (core.Keeps session) :=
  inferInstanceAs (Decidable (∃ current ∈ core.peerSession session.direction, _))

def installPeerSession (session : InstalledPeerSession) :
    Bool × PacketTunnelCore :=
  match core.peerSession session.direction with
  | some current =>
    if current = session then (true, core)
    else if current.peerId = session.peerId ∧ session.generation ≤ current.generation then
      (false, core)
    else (true, core.resetDirection (some session) session.direction)
  | none => (true, core.resetDirection (some session) session.direction)

def clearPeerSessions : PacketTunnelCore :=
  (core.resetDirection none .outbound).resetDirection none .inbound

variable (direction : PeerSessionDirection)

def clearPeerSessionDirection :
    PacketTunnelCore :=
  core.resetDirection none direction

/-- The installed session is the one a targeted clear names. -/
def Matches (peerId : String) (direction : PeerSessionDirection) (generation : UInt64) : Prop :=
  ∃ session ∈ core.peerSession direction, session.peerId = peerId ∧ session.generation = generation

instance (core : PacketTunnelCore) (peerId : String) (direction : PeerSessionDirection)
    (generation : UInt64) : Decidable (core.Matches peerId direction generation) :=
  inferInstanceAs (Decidable (∃ session ∈ core.peerSession direction, _))

def clearPeerSession (peerId : String) (direction : PeerSessionDirection) (generation : UInt64) :
    Bool × PacketTunnelCore :=
  let found := (core.peerSession direction).any fun session =>
    session.peerId = peerId ∧ session.generation = generation
  if found then (true, core.resetDirection none direction) else (false, core)

variable (now : UInt64)

def peerSessionBlockReason : Option String :=
  if core.requirePeerSession = false then none
  else
    match core.peerSession direction with
    | none => some ("authenticated " ++ direction.name ++
        " peer session readiness is not installed")
    | some session =>
      if session.expiresAtUnix ≤ now then
        some ("peer session for " ++ session.peerId ++ " is expired")
      else if 0 < session.rekeyAfterBytes ∧
          session.rekeyAfterBytes ≤ core.peerSessionBytes direction then
        some ("peer session for " ++ session.peerId ++ " requires rekey")
      else none

/-! ## Traffic -/

def saturatingAdd (a b : UInt64) : UInt64 :=
  if a.toNat + b.toNat < 2 ^ 64 then a + b else 0xffffffffffffffff

def count (f : PacketCoreMetrics → PacketCoreMetrics) :
    PacketTunnelCore :=
  { core with metrics := f core.metrics }

/-- The state after a packet has become a frame. -/
def enqueueFrame (frame : Bytes) : PacketTunnelCore :=
  { core with
    nextPacketNumber := core.nextPacketNumber + 1
    outboundPeerSessionBytes :=
      if core.requirePeerSession then
        saturatingAdd core.outboundPeerSessionBytes (UInt64.ofNat frame.length)
      else core.outboundPeerSessionBytes
    metrics := { core.metrics with transportFramesOut := core.metrics.transportFramesOut + 1 }
    transportOutbox := core.transportOutbox ++ [frame] }

/-- The part of `submit_tunnel_packet` after its gates. -/
def queuePacket (protocolFamily : UInt32) (packet : Bytes) :
    Op PacketTunnelCore QlinkError PacketDisposition := do
  let normalized ← check (normalizeIpv4Packet packet)
  let self ← read id
  let frame ← check (encodeTransportFrame self.nextPacketNumber protocolFamily normalized)
  update (·.enqueueFrame frame)
  pure .queuedForTransport

def submitTunnelPacket (protocolFamily : UInt32) (packet : Bytes) :
    Op PacketTunnelCore QlinkError PacketDisposition := do
  update (·.count fun m => { m with packetsFromTunnel := m.packetsFromTunnel + 1 })
  match ipv4Destination packet with
  | none =>
    update (·.count fun m => { m with droppedMalformed := m.droppedMalformed + 1 })
    check (.error (.protocol "only IPv4 packets are accepted in this adapter"))
  | some destination =>
    let self ← read id
    if self.policy.protects destination = false then
      update (·.count fun m => { m with droppedUnprotected := m.droppedUnprotected + 1 })
      pure .droppedUnprotected
    else if self.requirePeerSession ∧ (self.peerSessionBlockReason .outbound now).isSome then
      update (·.count fun m =>
        { m with droppedPeerSessionUnavailable := m.droppedPeerSessionUnavailable + 1 })
      pure .droppedPeerSessionUnavailable
    else queuePacket protocolFamily packet

def popTransportFrame : Option Bytes × PacketTunnelCore :=
  (core.transportOutbox.head?, { core with transportOutbox := core.transportOutbox.tail })

/-- The state after a frame has passed the replay window. -/
def enqueuePacket (frameLen : Nat) (packet : TunnelPacket) :
    PacketTunnelCore :=
  { core with
    metrics := { core.metrics with
      transportFramesIn := core.metrics.transportFramesIn + 1
      packetsToTunnel := core.metrics.packetsToTunnel + 1 }
    inboundPeerSessionBytes :=
      if core.requirePeerSession then
        saturatingAdd core.inboundPeerSessionBytes (UInt64.ofNat frameLen)
      else core.inboundPeerSessionBytes
    tunnelOutbox := core.tunnelOutbox ++ [packet] }

def acceptTransportFrame (frame : Bytes) : Op PacketTunnelCore QlinkError Unit := do
  let self ← read id
  match self.peerSessionBlockReason .inbound now with
  | some reason =>
    update (·.count fun m =>
      { m with droppedPeerSessionUnavailable := m.droppedPeerSessionUnavailable + 1 })
    check (.error (.protocol reason))
  | none =>
    match decodeTransportFrame frame with
    | .error error =>
      update (·.count fun m => { m with droppedMalformed := m.droppedMalformed + 1 })
      check (.error error)
    | .ok decoded =>
      let accepted ← act fun self =>
        let (accepted, window) := self.replayWindow.observe decoded.packetNumber
        (accepted, { self with replayWindow := window })
      if accepted = false then
        update (·.count fun m => { m with droppedReplay := m.droppedReplay + 1 })
        check (.error (.protocol "replayed transport frame rejected"))
      else
        update (·.enqueuePacket frame.length ⟨decoded.protocolFamily, decoded.packet⟩)

def popTunnelPacket : Option TunnelPacket × PacketTunnelCore :=
  (core.tunnelOutbox.head?, { core with tunnelOutbox := core.tunnelOutbox.tail })

end PacketTunnelCore

/-! ## The machine -/

/-- The calls. A pop does not read the clock; its time only says when it happens. -/
inductive Event where
  | install (session : InstalledPeerSession)
  | clearAll
  | clearDirection (direction : PeerSessionDirection)
  | clear (peerId : String) (direction : PeerSessionDirection) (generation : UInt64)
  | submit (now : UInt64) (protocolFamily : UInt32) (packet : Bytes)
  | popTransport (now : UInt64)
  | accept (now : UInt64) (frame : Bytes)
  | popTunnel

inductive Answer where
  | unit
  | flag (value : Bool)
  | submitted (result : Except QlinkError PacketDisposition)
  | transportFrame (frame : Option Bytes)
  | accepted (result : Except QlinkError Unit)
  | tunnelPacket (packet : Option TunnelPacket)

open PacketTunnelCore in
def step (core : PacketTunnelCore) : Event → Answer × PacketTunnelCore
  | .install session => let (value, core) := core.installPeerSession session; (.flag value, core)
  | .clearAll => (.unit, core.clearPeerSessions)
  | .clearDirection direction => (.unit, core.clearPeerSessionDirection direction)
  | .clear peerId direction generation =>
    let (value, core) := core.clearPeerSession peerId direction generation
    (.flag value, core)
  | .submit now protocolFamily packet =>
    let (result, core) := submitTunnelPacket now protocolFamily packet core
    (.submitted result, core)
  | .popTransport _ => let (frame, core) := core.popTransportFrame; (.transportFrame frame, core)
  | .accept now frame =>
    let (result, core) := acceptTransportFrame now frame core
    (.accepted result, core)
  | .popTunnel => let (packet, core) := core.popTunnelPacket; (.tunnelPacket packet, core)

/-! ## What each call does -/

namespace PacketTunnelCore

variable {core : PacketTunnelCore} {now : UInt64} {protocolFamily : UInt32}

section

variable (core) (slot : Option InstalledPeerSession) (direction : PeerSessionDirection)

@[simp] theorem peerSession_resetDirection :
    (core.resetDirection slot direction).peerSession direction = slot := by
  cases direction <;> rfl

@[simp] theorem peerSessionBytes_resetDirection :
    (core.resetDirection slot direction).peerSessionBytes direction = 0 := by
  cases direction <;> rfl

theorem peerSession_resetDirection_of_ne (h : other ≠ direction) :
    (core.resetDirection slot direction).peerSession other = core.peerSession other := by
  cases direction <;> cases other <;> first | rfl | exact absurd rfl h

theorem peerSessionBytes_resetDirection_of_ne (h : other ≠ direction) :
    (core.resetDirection slot direction).peerSessionBytes other = core.peerSessionBytes other := by
  cases direction <;> cases other <;> first | rfl | exact absurd rfl h

@[simp] theorem requirePeerSession_resetDirection :
    (core.resetDirection slot direction).requirePeerSession = core.requirePeerSession := by
  cases direction <;> rfl

@[simp] theorem tunnelOutbox_resetDirection :
    (core.resetDirection slot direction).tunnelOutbox = core.tunnelOutbox := by
  cases direction <;> rfl

@[simp] theorem metrics_resetDirection :
    (core.resetDirection slot direction).metrics = core.metrics := by
  cases direction <;> rfl

end

/-- An install replaces the slot unless the core keeps what it has. -/
theorem installPeerSession_cases (core : PacketTunnelCore) (s : InstalledPeerSession) :
    (core.Keeps s ∧ (core.installPeerSession s).2 = core) ∨
      (¬ core.Keeps s ∧ core.installPeerSession s =
        (true, core.resetDirection (some s) s.direction)) := by
  unfold installPeerSession Keeps
  cases hl : core.peerSession s.direction with
  | none => exact .inr ⟨by simp, rfl⟩
  | some c =>
    by_cases hs : c = s
    · simp only [if_pos hs]
      exact .inl ⟨⟨c, rfl, .inl hs⟩, trivial⟩
    by_cases ht : c.peerId = s.peerId ∧ s.generation ≤ c.generation
    · simp only [if_neg hs, if_pos ht]
      exact .inl ⟨⟨c, rfl, .inr ht⟩, trivial⟩
    · simp only [if_neg hs, if_neg ht]
      refine .inr ⟨?_, trivial⟩
      intro hk
      obtain ⟨o, ho, hc⟩ := hk
      cases ho
      exact hc.elim hs ht

theorem clearPeerSession_cases (core : PacketTunnelCore) (p : String)
    (direction : PeerSessionDirection) (g : UInt64) :
    (core.Matches p direction g ∧ core.clearPeerSession p direction g =
          (true, core.resetDirection none direction)) ∨
      (¬ core.Matches p direction g ∧ core.clearPeerSession p direction g = (false, core)) := by
  unfold clearPeerSession Matches
  cases hs : core.peerSession direction with
  | none => exact .inr ⟨by simp, rfl⟩
  | some s =>
    by_cases hm : s.peerId = p ∧ s.generation = g
    · refine .inl ⟨⟨s, rfl, hm⟩, ?_⟩
      simp [hm]
    · refine .inr ⟨?_, ?_⟩
      · intro h
        obtain ⟨o, ho, hc⟩ := h
        cases ho
        exact hm hc
      · simp [hm]

structure Open (core : PacketTunnelCore) (direction : PeerSessionDirection) (now : UInt64)
    (session : InstalledPeerSession) : Prop where
  installed : core.peerSession direction = some session
  unexpired : now < session.expiresAtUnix
  budget : 0 < session.rekeyAfterBytes → core.peerSessionBytes direction < session.rekeyAfterBytes

theorem peerSessionBlockReason_eq_none_iff (hre : core.requirePeerSession = true) :
    core.peerSessionBlockReason direction now = none ↔ ∃ session, core.Open direction now session := by
  have hn : ¬ core.requirePeerSession = false := by simp [hre]
  unfold peerSessionBlockReason
  rw [if_neg hn]
  cases hs : core.peerSession direction with
  | none =>
    simp only [reduceCtorEq, false_iff, not_exists]
    intro session ho
    cases hs.symm.trans ho.installed
  | some session =>
    by_cases he : session.expiresAtUnix ≤ now
    · simp only [if_pos he, reduceCtorEq, false_iff, not_exists]
      intro o ho
      cases hs.symm.trans ho.installed
      exact absurd ho.unexpired (UInt64.not_lt.mpr he)
    by_cases hr : 0 < session.rekeyAfterBytes ∧
        session.rekeyAfterBytes ≤ core.peerSessionBytes direction
    · simp only [if_neg he, if_pos hr, reduceCtorEq, false_iff, not_exists]
      intro o ho
      cases hs.symm.trans ho.installed
      exact absurd (ho.budget hr.1) (UInt64.not_lt.mpr hr.2)
    · simp only [if_neg he, if_neg hr, true_iff]
      refine ⟨session, hs, UInt64.not_le.mp he, ?_⟩
      intro hp
      exact UInt64.not_le.mp fun hle => hr ⟨hp, hle⟩

def Passes (core : PacketTunnelCore) (direction : PeerSessionDirection) (now : UInt64) : Prop :=
  core.requirePeerSession = true → ∃ session, core.Open direction now session

theorem peerSessionBlockReason_eq_none_iff_passes :
    core.peerSessionBlockReason direction now = none ↔ core.Passes direction now := by
  unfold Passes
  by_cases hr : core.requirePeerSession = true
  · rw [peerSessionBlockReason_eq_none_iff hr]
    simp [hr]
  · have hf : core.requirePeerSession = false := by simpa using hr
    simp [peerSessionBlockReason, hf]

/-- A protected packet that passed the gate cannot be made into a frame. -/
def Unframeable (protocolFamily : UInt32) (packet : Bytes) : Prop :=
  ¬ Normalizable packet ∨ 2 ^ 16 ≤ protocolFamily.toNat ∨ 2 ^ 32 ≤ packet.length

def countFromTunnel (m : PacketCoreMetrics) : PacketCoreMetrics :=
  { m with packetsFromTunnel := m.packetsFromTunnel + 1 }

theorem queuePacket_cases (core : PacketTunnelCore) (protocolFamily : UInt32) (p : Bytes) :
    (∃ error, Unframeable protocolFamily p ∧
        queuePacket protocolFamily p core = (.error error, core)) ∨
      ∃ normalized, normalizeIpv4Packet p = .ok normalized ∧ protocolFamily.toNat < 2 ^ 16 ∧
        normalized.length < 2 ^ 32 ∧ queuePacket protocolFamily p core =
          (.ok .queuedForTransport,
            core.enqueueFrame (transportFrame core.nextPacketNumber protocolFamily normalized)) := by
  unfold queuePacket
  cases hn : normalizeIpv4Packet p with
  | error error =>
    refine .inl ⟨error, .inl ?_, rfl⟩
    intro hk
    obtain ⟨normalized, ho⟩ := normalizeIpv4Packet_isOk_iff.mpr hk
    cases hn.symm.trans ho
  | ok normalized =>
    rw [check_bind_ok rfl, read_bind]
    have hs := length_normalizeIpv4Packet hn
    cases he : encodeTransportFrame core.nextPacketNumber protocolFamily normalized with
    | error error =>
      refine .inl ⟨error, .inr ?_, check_bind_error he _ _⟩
      by_contra hi
      simp only [not_or, not_le] at hi
      have hk : encodeTransportFrame core.nextPacketNumber protocolFamily normalized = .ok _ :=
        encodeTransportFrame_eq_ok_iff.mpr ⟨hi.1, hs ▸ hi.2, rfl⟩
      cases he.symm.trans hk
    | ok f =>
      obtain ⟨hf, hl, rfl⟩ := encodeTransportFrame_eq_ok_iff.mp he
      exact .inr ⟨normalized, rfl, hf, hl, check_bind_ok he _ _⟩

inductive Submission (core : PacketTunnelCore) (now : UInt64) (protocolFamily : UInt32)
    (packet : Bytes) (answer : Except QlinkError PacketDisposition) (next : PacketTunnelCore) : Prop
  | malformed (h : ipv4Destination packet = none)
      (hanswer : answer = .error (.protocol "only IPv4 packets are accepted in this adapter"))
      (hnext : next = core.count fun m =>
        { countFromTunnel m with droppedMalformed := m.droppedMalformed + 1 })
  | unprotected (destination : UInt32) (h : ipv4Destination packet = some destination)
      (hroute : core.policy.protects destination = false) (hanswer : answer = .ok .droppedUnprotected)
      (hnext : next = core.count fun m =>
        { countFromTunnel m with droppedUnprotected := m.droppedUnprotected + 1 })
  | blocked (destination : UInt32) (h : ipv4Destination packet = some destination)
      (hroute : core.policy.protects destination = true) (hblocked : ¬ core.Passes .outbound now)
      (hanswer : answer = .ok .droppedPeerSessionUnavailable)
      (hnext : next = core.count fun m => { countFromTunnel m with
        droppedPeerSessionUnavailable := m.droppedPeerSessionUnavailable + 1 })
  | refused (destination : UInt32) (error : QlinkError)
      (h : ipv4Destination packet = some destination)
      (hroute : core.policy.protects destination = true) (hpasses : core.Passes .outbound now)
      (hframe : Unframeable protocolFamily packet) (hanswer : answer = .error error)
      (hnext : next = core.count countFromTunnel)
  | queued (destination : UInt32) (normalized : Bytes)
      (h : ipv4Destination packet = some destination)
      (hroute : core.policy.protects destination = true) (hpasses : core.Passes .outbound now)
      (hnormalized : normalizeIpv4Packet packet = .ok normalized)
      (hfamily : protocolFamily.toNat < 2 ^ 16) (hlength : normalized.length < 2 ^ 32)
      (hanswer : answer = .ok .queuedForTransport)
      (hnext : next = (core.count countFromTunnel).enqueueFrame
        (transportFrame core.nextPacketNumber protocolFamily normalized))

theorem submitTunnelPacket_cases (core : PacketTunnelCore) (now : UInt64) (protocolFamily : UInt32)
    (p : Bytes) :
    ∃ answer next, submitTunnelPacket now protocolFamily p core = (answer, next) ∧
      Submission core now protocolFamily p answer next := by
  suffices h : Submission core now protocolFamily p
      (submitTunnelPacket now protocolFamily p core).1
      (submitTunnelPacket now protocolFamily p core).2 from ⟨_, _, rfl, h⟩
  unfold submitTunnelPacket
  rw [update_bind]
  cases hd : ipv4Destination p with
  | none => exact .malformed hd rfl rfl
  | some d =>
    simp only [read_bind, id]
    by_cases hr : core.policy.protects d = false
    · rw [if_pos (show (core.count _).policy.protects d = false from hr)]
      exact .unprotected d hd hr rfl rfl
    rw [if_neg (show ¬ (core.count _).policy.protects d = false from hr)]
    have hpr : core.policy.protects d = true := by simpa using hr
    by_cases hp : core.Passes .outbound now
    · have hno := peerSessionBlockReason_eq_none_iff_passes.mpr hp
      have ho : ¬ (core.requirePeerSession = true ∧
          (core.peerSessionBlockReason .outbound now).isSome = true) := by
        simp [hno]
      refine (if_neg ho).symm ▸ ?_
      rcases queuePacket_cases (core.count countFromTunnel) protocolFamily p with
        ⟨error, hfr, heq⟩ | ⟨normalized, hn, hf, hl, heq⟩
      · refine heq.symm ▸ ?_
        exact .refused d error hd hpr hp hfr rfl rfl
      · refine heq.symm ▸ ?_
        exact .queued d normalized hd hpr hp hn hf
          hl rfl rfl
    · have hc : core.requirePeerSession = true ∧
          (core.peerSessionBlockReason .outbound now).isSome = true := by
        have ht : ¬ core.peerSessionBlockReason .outbound now = none :=
          fun hno => hp (peerSessionBlockReason_eq_none_iff_passes.mp hno)
        refine ⟨?_, Option.isSome_iff_ne_none.mpr ht⟩
        by_contra he
        exact hp fun h => absurd h he
      refine (if_pos hc).symm ▸ ?_
      exact .blocked d hd hpr hp rfl rfl

inductive Acceptance (core : PacketTunnelCore) (now : UInt64) (frame : Bytes)
    (answer : Except QlinkError Unit) (next : PacketTunnelCore) : Prop
  | blocked (reason : String) (h : ¬ core.Passes .inbound now)
      (hanswer : answer = .error (.protocol reason))
      (hnext : next = core.count fun m =>
        { m with droppedPeerSessionUnavailable := m.droppedPeerSessionUnavailable + 1 })
  | malformed (error : QlinkError) (hpasses : core.Passes .inbound now)
      (h : decodeTransportFrame frame = .error error) (hanswer : answer = .error error)
      (hnext : next = core.count fun m => { m with droppedMalformed := m.droppedMalformed + 1 })
  | replayed (decoded : DecodedFrame) (hpasses : core.Passes .inbound now)
      (hdecoded : decodeTransportFrame frame = .ok decoded)
      (h : (core.replayWindow.observe decoded.packetNumber).1 = false)
      (hanswer : answer = .error (.protocol "replayed transport frame rejected"))
      (hnext : next = core.count fun m => { m with droppedReplay := m.droppedReplay + 1 })
  | accepted (decoded : DecodedFrame) (hpasses : core.Passes .inbound now)
      (hdecoded : decodeTransportFrame frame = .ok decoded)
      (h : (core.replayWindow.observe decoded.packetNumber).1 = true) (hanswer : answer = .ok ())
      (hnext : next = { core with
        replayWindow := (core.replayWindow.observe decoded.packetNumber).2 }.enqueuePacket
          frame.length ⟨decoded.protocolFamily, decoded.packet⟩)

theorem acceptTransportFrame_cases (core : PacketTunnelCore) (now : UInt64) (f : Bytes) :
    ∃ answer next, acceptTransportFrame now f core = (answer, next) ∧
      Acceptance core now f answer next := by
  suffices h : Acceptance core now f (acceptTransportFrame now f core).1
      (acceptTransportFrame now f core).2 from ⟨_, _, rfl, h⟩
  unfold acceptTransportFrame
  simp only [read_bind, id]
  cases hr : core.peerSessionBlockReason .inbound now with
  | some r =>
    refine .blocked r (fun hp => ?_) rfl rfl
    cases hr.symm.trans (peerSessionBlockReason_eq_none_iff_passes.mpr hp)
  | none =>
    have hp := peerSessionBlockReason_eq_none_iff_passes.mp hr
    cases hd : decodeTransportFrame f with
    | error error => exact .malformed error hp hd rfl rfl
    | ok d =>
      simp only [act_bind]
      cases ho : (core.replayWindow.observe d.packetNumber).1 with
      | false =>
        have hs : (core.replayWindow.observe d.packetNumber).2 = core.replayWindow :=
          SlidingWindow.observe_refused ho
        simp only [hs, if_true, update_bind]
        exact .replayed d hp hd ho rfl rfl
      | true => exact .accepted d hp hd ho rfl rfl

/-! ## Leases that are refused, frames that are accepted -/

/-- Another session of the same peer, not an older one, is in the slot. -/
def Refuses (core : PacketTunnelCore) (session : InstalledPeerSession) : Prop :=
  ∃ current ∈ core.peerSession session.direction,
    current ≠ session ∧ current.peerId = session.peerId ∧ session.generation ≤ current.generation

theorem installPeerSession_outcome (core : PacketTunnelCore) (s : InstalledPeerSession) :
    (core.Refuses s ∧ core.installPeerSession s = (false, core)) ∨
      (¬ core.Refuses s ∧ (core.installPeerSession s).1 = true ∧
        (core.installPeerSession s).2.peerSession s.direction = some s) := by
  unfold installPeerSession Refuses
  cases hl : core.peerSession s.direction with
  | none => exact .inr ⟨by simp, rfl, peerSession_resetDirection ..⟩
  | some c =>
    by_cases hs : c = s
    · simp only [if_pos hs]
      exact .inr ⟨by simp [hs], trivial, hs ▸ hl⟩
    by_cases ht : c.peerId = s.peerId ∧ s.generation ≤ c.generation
    · simp only [if_neg hs, if_pos ht]
      exact .inl ⟨⟨c, rfl, hs, ht⟩, trivial⟩
    · simp only [if_neg hs, if_neg ht]
      refine .inr ⟨?_, trivial, peerSession_resetDirection ..⟩
      intro hr
      obtain ⟨o, ho, _, hc⟩ := hr
      cases ho
      exact ht hc

theorem installPeerSession_reset (core : PacketTunnelCore) (s : InstalledPeerSession) :
    (core.installPeerSession s).2 = core ∨ (core.installPeerSession s).2 =
        core.resetDirection (some s) s.direction := by
  rcases installPeerSession_cases core s with ⟨_, hs⟩ | ⟨_, hn⟩
  · exact .inl hs
  · exact .inr (congrArg Prod.snd hn)

theorem clearPeerSession_reset (core : PacketTunnelCore) (p : String)
    (direction : PeerSessionDirection) (g : UInt64) :
    (core.clearPeerSession p direction g).2 = core ∨ (core.clearPeerSession p direction g).2 =
        core.resetDirection none direction := by
  rcases clearPeerSession_cases core p direction g with ⟨_, hn⟩ | ⟨_, ho⟩
  · exact .inr (congrArg Prod.snd hn)
  · exact .inl (congrArg Prod.snd ho)

/-- The gate is open for the frame, it is well formed, and its number is new. -/
def Accepts (core : PacketTunnelCore) (now : UInt64) (frame : Bytes) : Prop :=
  core.Passes .inbound now ∧ ∃ decoded, decodeTransportFrame frame = .ok decoded ∧
    (core.replayWindow.observe decoded.packetNumber).1 = true

theorem acceptTransportFrame_outcome (core : PacketTunnelCore) (now : UInt64) (f : Bytes) :
    (core.Accepts now f ∧ (acceptTransportFrame now f core).1 = .ok () ∧
        ∃ packet, (acceptTransportFrame now f core).2.tunnelOutbox =
          core.tunnelOutbox ++ [packet]) ∨
      (¬ core.Accepts now f ∧ (∃ error, (acceptTransportFrame now f core).1 = .error error) ∧
        (acceptTransportFrame now f core).2.tunnelOutbox = core.tunnelOutbox) := by
  obtain ⟨a, n, hr, hc⟩ := acceptTransportFrame_cases core now f
  rw [hr]
  cases hc with
  | blocked r hb ha hn =>
    exact .inr ⟨fun h => hb h.1, ⟨_, ha⟩, hn ▸ rfl⟩
  | malformed error _ he ha hn =>
    refine .inr ⟨?_, ⟨_, ha⟩, hn ▸ rfl⟩
    rintro ⟨_, d, hd, _⟩
    cases he.symm.trans hd
  | replayed d _ hd ho ha hn =>
    refine .inr ⟨?_, ⟨_, ha⟩, hn ▸ rfl⟩
    rintro ⟨_, o, ht, hne⟩
    cases hd.symm.trans ht
    cases ho.symm.trans hne
  | accepted d hp hd hne ha hn =>
    exact .inl ⟨⟨hp, d, hd, hne⟩, ha, ⟨d.protocolFamily, d.packet⟩, by rw [hn]; rfl⟩

theorem accepts_congr {o : PacketTunnelCore} (hr : o.requirePeerSession = core.requirePeerSession)
    (hs : o.inboundPeerSession = core.inboundPeerSession)
    (hb : o.inboundPeerSessionBytes = core.inboundPeerSessionBytes)
    (hw : o.replayWindow = core.replayWindow) :
    o.Accepts now frame ↔ core.Accepts now frame := by
  have ho : ∀ session, o.Open .inbound now session ↔ core.Open .inbound now session := by
    intro session
    constructor
    · intro h
      exact ⟨hs.symm.trans h.installed, h.unexpired,
        fun hp => by simpa only [peerSessionBytes, hb] using h.budget hp⟩
    · intro h
      exact ⟨hs.trans h.installed, h.unexpired,
        fun hp => by simpa only [peerSessionBytes, hb] using h.budget hp⟩
  have ha : o.Passes .inbound now ↔ core.Passes .inbound now := by
    rw [Passes, Passes, hr, exists_congr ho]
  rw [Accepts, Accepts, ha, hw]

/-- Every slot holds sessions of its own direction. -/
def Filed (core : PacketTunnelCore) : Prop :=
  ∀ direction session, core.peerSession direction = some session → session.direction = direction

theorem Filed.resetDirection
    (h : core.Filed) (hs : ∀ session, slot = some session → session.direction = direction) :
    (core.resetDirection slot direction).Filed := by
  intro o session he
  by_cases ho : o = direction
  · subst ho
    rw [peerSession_resetDirection] at he
    exact hs session he
  · rw [peerSession_resetDirection_of_ne _ _ _ ho] at he
    exact h o session he

theorem Filed.installPeerSession (h : core.Filed) (s : InstalledPeerSession) :
    (core.installPeerSession s).2.Filed := by
  rcases installPeerSession_reset core s with hs | hn
  · rwa [hs]
  · rw [hn]
    exact h.resetDirection fun o ho => by rw [← Option.some.inj ho]

theorem peerSession_submitTunnelPacket (core : PacketTunnelCore) (now : UInt64)
    (protocolFamily : UInt32) (p : Bytes) (direction : PeerSessionDirection) :
    (submitTunnelPacket now protocolFamily p core).2.peerSession direction =
      core.peerSession direction := by
  obtain ⟨a, n, hr, hc⟩ := submitTunnelPacket_cases core now protocolFamily p
  rw [hr]
  cases direction <;> cases hc <;> subst_vars <;> rfl

theorem peerSession_acceptTransportFrame (core : PacketTunnelCore) (now : UInt64) (f : Bytes)
    (direction : PeerSessionDirection) :
    (acceptTransportFrame now f core).2.peerSession direction = core.peerSession direction := by
  obtain ⟨a, n, hr, hc⟩ := acceptTransportFrame_cases core now f
  rw [hr]
  cases direction <;> cases hc <;> subst_vars <;> rfl

theorem tunnelOutbox_submitTunnelPacket (core : PacketTunnelCore) (now : UInt64)
    (protocolFamily : UInt32) (p : Bytes) :
    (submitTunnelPacket now protocolFamily p core).2.tunnelOutbox = core.tunnelOutbox := by
  obtain ⟨a, n, hr, hc⟩ := submitTunnelPacket_cases core now protocolFamily p
  rw [hr]
  cases hc <;> subst_vars <;> rfl

end PacketTunnelCore

end QuantumLink.Packet
