import QuantumLink.Packet.Leases
import QuantumLink.Relay.Admission

/-! # The SteamOS data plane

`data_plane` of `qlinkd`: a pump around the packet core, and a runtime that moves packets between
a TUN device and a mesh transport. A frame from the transport comes with the lease it was received
under; the plane installs the lease and then hands the frame to the core, without a look at whether
the core took the lease.

What sink, source and device report during a call is an argument of the call.
-/

namespace QuantumLink.SteamOs

open QuantumLink.Packet

inductive DataPlaneError where
  | core (message : String)
  | tun (message : String)
  | transport (message : String)

def protocolFamilyForPacket (packet : Bytes) : Option UInt32 :=
  match packet.head?.map fun byte : UInt8 => byte >>> 4 with
  | some 4 => some 2
  | some 6 => some 10
  | _ => none

structure InboundTransportFrame where
  frame : Bytes
  peerSession : InstalledPeerSession

inductive PeerSessionUpdate where
  | ready (session : InstalledPeerSession)
  | cleared (peerId : String) (direction : PeerSessionDirection) (generation : UInt64)

inductive PathKind where
  | direct
  | relay
  | probing
  | unavailable

structure PacketPumpCounters where
  observedPackets : Nat := 0
  queuedPackets : Nat := 0
  droppedPackets : Nat := 0
  emittedPackets : Nat := 0
  acceptedPackets : Nat := 0
  rejectedPackets : Nat := 0
  transportErrors : Nat := 0

/-- The result of a batch has the fields of the counters. -/
abbrev PacketPumpBatchResult := PacketPumpCounters

def PacketPumpCounters.addBatch (self : PacketPumpCounters) (batch : PacketPumpBatchResult) :
    PacketPumpCounters where
  observedPackets := self.observedPackets + batch.observedPackets
  queuedPackets := self.queuedPackets + batch.queuedPackets
  droppedPackets := self.droppedPackets + batch.droppedPackets
  emittedPackets := self.emittedPackets + batch.emittedPackets
  acceptedPackets := self.acceptedPackets + batch.acceptedPackets
  rejectedPackets := self.rejectedPackets + batch.rejectedPackets
  transportErrors := self.transportErrors + batch.transportErrors

/-- What transport and sessions report when a call looks at them. -/
structure TransportStatus where
  isReady : Bool
  pathKind : PathKind
  peerSessionReady : Bool
  lastTransportError : Option String

/-- What a sink reports during a call. `sends` says of each frame in turn whether it was sent. -/
structure SinkReading where
  updates : List PeerSessionUpdate
  status : TransportStatus
  installedPeerSession : Option InstalledPeerSession
  sends : List Bool

structure TunnelPacketPump where
  core : Option PacketTunnelCore
  counters : PacketPumpCounters

namespace TunnelPacketPump

def new (core : PacketTunnelCore) : TunnelPacketPump := ⟨some core, {}⟩

/-- The core's answer is dropped: the adapter returns nothing. -/
def installPeerSession (session : InstalledPeerSession) (self : TunnelPacketPump) :
    TunnelPacketPump :=
  { self with core := self.core.map fun core => (core.installPeerSession session).2 }

def clearPeerSession (peerId : String) (direction : PeerSessionDirection) (generation : UInt64)
    (self : TunnelPacketPump) : TunnelPacketPump :=
  { self with core := self.core.map fun core =>
      (core.clearPeerSession peerId direction generation).2 }

/-- The counts of a batch after its frames went to the sink, one by one. -/
def sendFrames : List Bool → List Bytes → PacketPumpBatchResult → PacketPumpBatchResult
  | _, [], result => result
  | sends, _ :: frames, result =>
    sendFrames sends.tail frames
      (if sends.headD true then { result with emittedPackets := result.emittedPackets + 1 }
      else { result with transportErrors := result.transportErrors + 1 })

def finish (core : Option PacketTunnelCore) (result : PacketPumpBatchResult)
    (self : TunnelPacketPump) : PacketPumpBatchResult × TunnelPacketPump :=
  (result, ⟨core, self.counters.addBatch result⟩)

def handlePacket (now : UInt64) (packet : Bytes) (sink : SinkReading) (self : TunnelPacketPump) :
    PacketPumpBatchResult × TunnelPacketPump :=
  let observed : PacketPumpBatchResult := { observedPackets := 1 }
  let dropped := { observed with droppedPackets := 1 }
  let rejected := { observed with rejectedPackets := 1 }
  match self.core with
  | none => self.finish none dropped
  | some core =>
    if sink.status.isReady = false ∨ sink.status.peerSessionReady = false then
      self.finish (some core) dropped
    else
      match sink.installedPeerSession with
      | none => self.finish (some core) dropped
      | some session =>
        let core := (core.installPeerSession session).2
        match protocolFamilyForPacket packet with
        | none => self.finish (some core) rejected
        | some protocolFamily =>
          match core.submitTunnelPacket now protocolFamily packet with
          | (.ok .queuedForTransport, core) =>
            -- the loop pops frames until none is left
            self.finish (some { core with transportOutbox := [] })
              (sendFrames sink.sends core.transportOutbox { observed with queuedPackets := 1 })
          | (.ok _, core) => self.finish (some core) dropped
          | (.error _, core) => self.finish (some core) rejected

def acceptTransportFrame (now : UInt64) (frame : Bytes) (self : TunnelPacketPump) :
    Except DataPlaneError PacketPumpBatchResult × TunnelPacketPump :=
  let accepted : PacketPumpBatchResult := { acceptedPackets := 1 }
  let rejected : PacketPumpBatchResult := { rejectedPackets := 1 }
  match self.core with
  | none =>
    (.error (.core "packet core is unavailable for inbound frame"),
      { self with counters := self.counters.addBatch rejected })
  | some core =>
    match core.acceptTransportFrame now frame with
    | (.ok (), core) => (.ok accepted, ⟨some core, self.counters.addBatch accepted⟩)
    | (.error error, core) =>
      (.error (.core (Relay.errorText error)), ⟨some core, self.counters.addBatch rejected⟩)

def popTunnelPacket (self : TunnelPacketPump) : Option TunnelPacket × TunnelPacketPump :=
  match self.core with
  | none => (none, self)
  | some core => (core.popTunnelPacket.1, { self with core := some core.popTunnelPacket.2 })

def applyPeerSessionUpdate (self : TunnelPacketPump) : PeerSessionUpdate → TunnelPacketPump
  | .ready session => self.installPeerSession session
  | .cleared peerId direction generation => self.clearPeerSession peerId direction generation

end TunnelPacketPump

/-- What a source reports during a call. -/
structure SourceReading where
  updates : List PeerSessionUpdate
  status : TransportStatus
  frame : Option InboundTransportFrame

inductive TunRead where
  | wouldBlock
  | failed (error : String)
  | packet (bytes : Bytes)

/-- `tun` lists the packets handed to the device, the latest last. -/
structure DataPlaneRuntime where
  tun : List Bytes
  pump : TunnelPacketPump
  lastError : Option String
  transportReady : Bool
  transportPath : Option PathKind
  peerSessionReady : Bool
  lastTransportError : Option String

namespace DataPlaneRuntime

def new (core : PacketTunnelCore) : DataPlaneRuntime :=
  ⟨[], .new core, none, false, none, false, none⟩

def applyPeerSessionUpdates (updates : List PeerSessionUpdate) (self : DataPlaneRuntime) :
    DataPlaneRuntime :=
  { self with pump := updates.foldl .applyPeerSessionUpdate self.pump }

def recordTransportStatus (status : TransportStatus) (self : DataPlaneRuntime) : DataPlaneRuntime :=
  { self with
    peerSessionReady := status.peerSessionReady
    transportReady := status.isReady && status.peerSessionReady
    transportPath := some status.pathKind
    lastTransportError := status.lastTransportError }

variable (now : UInt64)

variable (sink : SinkReading)

/-- A packet read from the device goes to the pump. -/
def submit (packet : Bytes) :
    Op DataPlaneRuntime DataPlaneError PacketPumpBatchResult := do
  let result ← Op.act fun self =>
    let (result, pump) := self.pump.handlePacket now packet sink
    (result, { self with pump := pump })
  if 0 < result.transportErrors then
    let message := "transport send failed for " ++ toString result.transportErrors ++ " frame(s)"
    Op.update ({ · with lastTransportError := some message, lastError := some message })
    Op.check (.error (.transport message))
  else pure result

def pumpTunToTransportOnce (read : TunRead) :
    Op DataPlaneRuntime DataPlaneError PacketPumpBatchResult := do
  Op.update (·.applyPeerSessionUpdates sink.updates)
  Op.update (·.recordTransportStatus sink.status)
  match read with
  | .wouldBlock => pure {}
  | .failed error =>
    Op.update ({ · with lastError := some error })
    Op.check (.error (.tun error))
  | .packet bytes => submit now sink bytes

def recordWriteError (error : String) (self : DataPlaneRuntime) : DataPlaneRuntime :=
  { self with
    pump := { self.pump with counters :=
      { self.pump.counters with transportErrors := self.pump.counters.transportErrors + 1 } }
    lastTransportError := some error
    lastError := some error }

variable (self : DataPlaneRuntime)

def recordTunnelPacketEmitted : DataPlaneRuntime :=
  { self with
    pump := { self.pump with counters :=
      { self.pump.counters with emittedPackets := self.pump.counters.emittedPackets + 1 } } }

/-- The loop that hands packets to the device. `writes` says of each write in turn how it fails,
if it does; there are not more rounds than packets. -/
def emitPackets : Nat → List (Option String) → PacketPumpBatchResult →
    Op DataPlaneRuntime DataPlaneError PacketPumpBatchResult
  | 0, _, result => pure result
  | rounds + 1, writes, result => do
      let popped ← Op.act fun self =>
        let (packet, pump) := self.pump.popTunnelPacket
        (packet, { self with pump := pump })
      match popped with
      | none => pure result
      | some packet =>
        Op.update fun self => { self with tun := self.tun ++ [packet.bytes] }
        match writes.headD none with
        | some error =>
          Op.update (·.recordWriteError error)
          Op.check (.error (.tun error))
        | none =>
          Op.update (·.recordTunnelPacketEmitted)
          emitPackets rounds writes.tail
            { result with emittedPackets := result.emittedPackets + 1 }

def waiting : Nat :=
  match self.pump.core with
  | none => 0
  | some core => core.tunnelOutbox.length

def acceptFrame (frame : Bytes) :
    Op DataPlaneRuntime DataPlaneError PacketPumpBatchResult := fun self =>
  let (result, pump) := self.pump.acceptTransportFrame now frame
  (result, { self with pump := pump })

/-- A frame of the transport: its lease is installed, then the core gets it. -/
def receive (inbound : InboundTransportFrame) (writes : List (Option String)) :
    Op DataPlaneRuntime DataPlaneError PacketPumpBatchResult := do
  Op.update fun self => { self with pump := self.pump.installPeerSession inbound.peerSession }
  let result ← acceptFrame now inbound.frame
  let rounds ← Op.read waiting
  emitPackets rounds writes result

def pumpTransportToTunOnce (source : SourceReading) (writes : List (Option String)) :
    Op DataPlaneRuntime DataPlaneError PacketPumpBatchResult := do
  Op.update (·.applyPeerSessionUpdates source.updates)
  Op.update (·.recordTransportStatus source.status)
  match source.frame with
  | none => pure {}
  | some inbound => receive now inbound writes

end DataPlaneRuntime

open DataPlaneRuntime

inductive Call where
  | tunToTransport (now : UInt64) (sink : SinkReading) (read : TunRead)
  | transportToTun (now : UInt64) (source : SourceReading) (writes : List (Option String))

def step (self : DataPlaneRuntime) : Call →
    Except DataPlaneError PacketPumpBatchResult × DataPlaneRuntime
  | .tunToTransport now sink read => pumpTunToTransportOnce now sink read self
  | .transportToTun now source writes =>
    pumpTransportToTunOnce now source writes self

inductive Input where
  | update (update : PeerSessionUpdate)
  | status (status : TransportStatus)
  | readError (error : String)
  | outbound (now : UInt64) (sink : SinkReading) (packet : Bytes)
  | inbound (now : UInt64) (inbound : InboundTransportFrame) (writes : List (Option String))

def inputStep (self : DataPlaneRuntime) : Input →
    Except DataPlaneError PacketPumpBatchResult × DataPlaneRuntime
  | .update update => (.ok {}, self.applyPeerSessionUpdates [update])
  | .status status => (.ok {}, self.recordTransportStatus status)
  | .readError error => (.error (.tun error), { self with lastError := some error })
  | .outbound now sink packet => submit now sink packet self
  | .inbound now inbound writes => receive now inbound writes self

def Call.inputs : Call → List Input
  | .tunToTransport now sink read =>
    sink.updates.map .update ++ [.status sink.status] ++
      match read with
      | .wouldBlock => []
      | .failed error => [.readError error]
      | .packet bytes => [.outbound now sink bytes]
  | .transportToTun now source writes =>
    source.updates.map .update ++ [.status source.status] ++
      match source.frame with
      | none => []
      | some inbound => [.inbound now inbound writes]

open TunnelPacketPump

theorem run_updates (self : DataPlaneRuntime) (updates : List PeerSessionUpdate) :
    run inputStep self (updates.map .update) = self.applyPeerSessionUpdates updates := by
  induction updates generalizing self with
  | nil => rfl
  | cons update updates ih =>
    rw [List.map_cons, run_cons]
    exact ih (self.applyPeerSessionUpdates [update])

theorem step_eq_run_inputs (self : DataPlaneRuntime) :
    (step self call).2 = run inputStep self call.inputs := by
  cases call with
  | tunToTransport now si r =>
    cases r <;>
      simp only [Call.inputs, run_append, run_updates] <;> rfl
  | transportToTun now s w =>
    cases hf : s.frame <;>
      simp only [Call.inputs, hf, run_append, run_updates, step,
        pumpTransportToTunOnce, Op.update_bind] <;> rfl

theorem run_eq_run_inputs (self : DataPlaneRuntime) :
    run step self calls = run inputStep self (calls.flatMap Call.inputs) := by
  induction calls generalizing self with
  | nil => rfl
  | cons c calls ih =>
    rw [run_cons, List.flatMap_cons, run_append, ← step_eq_run_inputs, ih]

/-- A core that requires sessions, its slots in order, with no packet waiting for the tunnel. -/
structure Quiet (core : PacketTunnelCore) : Prop where
  required : core.requirePeerSession = true
  filed : core.Filed
  drained : core.tunnelOutbox = []

namespace Quiet

variable {core : PacketTunnelCore}

theorem initial (p : RoutePolicy) : Quiet (.initial p true) :=
  ⟨rfl, fun d _ h => (by cases d <;> cases h), rfl⟩

theorem resetDirection
    (h : Quiet core) (hs : ∀ session, slot = some session → session.direction = direction) :
    Quiet (core.resetDirection slot direction) :=
  ⟨by simp [h.required], h.filed.resetDirection hs, by simp [h.drained]⟩

theorem installPeerSession (h : Quiet core) (session : InstalledPeerSession) :
    Quiet (core.installPeerSession session).2 := by
  rcases core.installPeerSession_reset session with hs | hn
  · rwa [hs]
  · rw [hn]
    exact h.resetDirection fun o ho => by rw [← Option.some.inj ho]

theorem clearPeerSession (h : Quiet core) (p : String) (d : PeerSessionDirection)
    (g : UInt64) : Quiet (core.clearPeerSession p d g).2 := by
  rcases core.clearPeerSession_reset p d g with hs | hn
  · rwa [hs]
  · rw [hn]
    exact h.resetDirection nofun

theorem submitTunnelPacket (h : Quiet core) (now : UInt64) (p : UInt32)
    (pa : Bytes) : Quiet (core.submitTunnelPacket now p pa).2 where
  required := (step_requirePeerSession core (.submit now p pa)).trans h.required
  filed direction session hs :=
    h.filed direction session ((core.peerSession_submitTunnelPacket ..).symm.trans hs)
  drained := (core.tunnelOutbox_submitTunnelPacket now p pa).trans h.drained

theorem acceptTransportFrame (h : Quiet core) (now : UInt64) (frame : Bytes) :
    Quiet { (core.acceptTransportFrame now frame).2 with tunnelOutbox := [] } where
  required := (step_requirePeerSession core (.accept now frame)).trans h.required
  filed direction session hs := by
    refine h.filed direction session ?_
    rw [← core.peerSession_acceptTransportFrame now frame direction, ← hs]
    cases direction <;> rfl
  drained := rfl

theorem applyPeerSessionUpdate (h : Quiet core) {pu : TunnelPacketPump}
    (hc : pu.core = some core) (u : PeerSessionUpdate) :
    ∃ next, (pu.applyPeerSessionUpdate u).core = some next ∧ Quiet next := by
  cases u with
  | ready s =>
    exact ⟨_, congrArg (Option.map _) hc, h.installPeerSession s⟩
  | cleared p d g =>
    exact ⟨_, congrArg (Option.map _) hc, h.clearPeerSession p d g⟩

theorem handlePacket (h : Quiet core) {pump : TunnelPacketPump} (hc : pump.core = some core)
    (now : UInt64) (packet : Bytes) (sink : SinkReading) :
    ∃ next, (pump.handlePacket now packet sink).2.core = some next ∧ Quiet next := by
  simp only [TunnelPacketPump.handlePacket, hc]
  by_cases hr : sink.status.isReady = false ∨ sink.status.peerSessionReady = false
  · rw [if_pos hr]
    exact ⟨core, rfl, h⟩
  rw [if_neg hr]
  cases sink.installedPeerSession with
  | none => exact ⟨core, rfl, h⟩
  | some s =>
    have hl := h.installPeerSession s
    cases protocolFamilyForPacket packet with
    | none => exact ⟨_, rfl, hl⟩
    | some p =>
      have hn := hl.submitTunnelPacket now p packet
      simp only
      rcases hs : (core.installPeerSession s).2.submitTunnelPacket now
        p packet with ⟨answer, next⟩
      rw [hs] at hn
      rcases answer with error | di
      · exact ⟨next, rfl, hn⟩
      · cases di with
        | queuedForTransport =>
          refine ⟨{ next with transportOutbox := [] }, rfl, hn.required, ?_, hn.drained⟩
          intro d s he
          exact hn.filed d s (by cases d <;> exact he)
        | droppedUnprotected | droppedPeerSessionUnavailable => exact ⟨next, rfl, hn⟩

end Quiet

section Receive

variable {self : DataPlaneRuntime} {core next : PacketTunnelCore} {now : UInt64}
  {inbound : InboundTransportFrame}

theorem receive_of_error (hc : self.pump.core = some core)
    (hr : (core.installPeerSession inbound.peerSession).2.acceptTransportFrame now
      inbound.frame = (.error error, next)) (w : List (Option String)) :
    (receive now inbound w self).2.pump.core = some next ∧
      (receive now inbound w self).2.tun = self.tun := by
  simp [receive, acceptFrame, Op.bind_apply, acceptTransportFrame, installPeerSession, hc, hr]

theorem receive_of_ok (hc : self.pump.core = some core)
    (hr : (core.installPeerSession inbound.peerSession).2.acceptTransportFrame now
      inbound.frame = (.ok (), next)) (hq : next.tunnelOutbox = [packet])
    (w : List (Option String)) :
    (receive now inbound w self).2.pump.core = some { next with tunnelOutbox := [] } ∧
      (receive now inbound w self).2.tun = self.tun ++ [packet.bytes] := by
  cases hw : w.head?.getD none <;>
    simp [receive, acceptFrame, Op.bind_apply, acceptTransportFrame,
      installPeerSession, hc, hr, waiting, hq, emitPackets, Op.act,
      popTunnelPacket, PacketTunnelCore.popTunnelPacket, hw, recordWriteError,
      recordTunnelPacketEmitted]

end Receive

/-- Everything `receive` can do with a quiet core: the frame is accepted and its packet is handed
to the device, or it is refused and nothing is. -/
theorem receive_outcome {self : DataPlaneRuntime} {core : PacketTunnelCore}
    (hc : self.pump.core = some core) (h : Quiet core) (now : UInt64)
    (inbound : InboundTransportFrame) (w : List (Option String)) :
    (∃ next, (receive now inbound w self).2.pump.core = some next ∧ Quiet next) ∧
      (((core.installPeerSession inbound.peerSession).2.Accepts now inbound.frame ∧
          ∃ packet, (receive now inbound w self).2.tun = self.tun ++ [packet]) ∨
        (¬ (core.installPeerSession inbound.peerSession).2.Accepts now inbound.frame ∧
          (receive now inbound w self).2.tun = self.tun)) := by
  have hl := h.installPeerSession inbound.peerSession
  have hu := hl.acceptTransportFrame now inbound.frame
  rcases hr : (core.installPeerSession inbound.peerSession).2.acceptTransportFrame now
    inbound.frame with ⟨answer, next⟩
  have ho := (core.installPeerSession inbound.peerSession).2.acceptTransportFrame_outcome now
    inbound.frame
  rw [hr] at hu ho
  rcases ho with ⟨hac, hk, packet, hq⟩ | ⟨hre, ⟨error, her⟩, hq⟩
  · obtain rfl : answer = .ok () := hk
    rw [hl.drained] at hq
    obtain ⟨ha, ht⟩ := receive_of_ok hc hr hq w
    exact ⟨⟨_, ha, hu⟩, .inl ⟨hac, packet.bytes, ht⟩⟩
  · obtain rfl : answer = .error error := her
    obtain ⟨ha, ht⟩ := receive_of_error hc hr w
    have he : { next with tunnelOutbox := [] } = next := by
      rw [← hl.drained, ← hq]
    exact ⟨⟨next, ha, he ▸ hu⟩, .inr ⟨hre, ht⟩⟩

def Resting (self : DataPlaneRuntime) : Prop := ∃ core, self.pump.core = some core ∧ Quiet core

theorem resting_inputStep (h : Resting self) (i : Input) : Resting (inputStep self i).2 := by
  obtain ⟨core, hc, hq⟩ := h
  cases i with
  | update update => exact hq.applyPeerSessionUpdate hc update
  | status status | readError error => exact ⟨core, hc, hq⟩
  | outbound now sink packet =>
    have hp := hq.handlePacket hc now packet sink
    show Resting (submit now sink packet self).2
    simp only [submit, Op.act_bind]
    split
    · exact hp
    · exact hp
  | inbound now inbound writes => exact (receive_outcome hc hq now inbound writes).1

theorem resting_new (p : RoutePolicy) : Resting (.new (.initial p true)) := ⟨_, rfl, Quiet.initial p⟩

theorem resting_run (p : RoutePolicy) (inp : List Input) :
    Resting (run inputStep (.new (.initial p true)) inp) :=
  run_invariant Resting (fun _ i h => resting_inputStep h i) (resting_new p) inp

/-! ## Frames and their leases -/

section Binding

variable {core : PacketTunnelCore} {session : InstalledPeerSession} {now : UInt64} {frame : Bytes}

/-- The inbound slot cannot get this lease: it is an outbound one, or the core refuses it. -/
def Misplaced (core : PacketTunnelCore) (session : InstalledPeerSession) : Prop :=
  session.direction = .outbound ∨ core.Refuses session

/-- The lease of a frame is in the inbound slot, and the core has taken it. -/
def Bound (core : PacketTunnelCore) (session : InstalledPeerSession) : Prop :=
  (core.installPeerSession session).1 = true ∧
    (core.installPeerSession session).2.inboundPeerSession = some session

theorem bound_iff_not_misplaced (hfi : core.Filed) :
    Bound core session ↔ ¬ Misplaced core session := by
  constructor
  · rintro ⟨ht, hs⟩ (ho | hr)
    · have hi := hfi.installPeerSession session .inbound session hs
      rw [ho] at hi
      cases hi
    · rcases core.installPeerSession_outcome session with ⟨_, hf⟩ | ⟨hn, _⟩
      · rw [hf] at ht
        cases ht
      · exact hn hr
  · intro h
    rw [Misplaced, not_or] at h
    have hi : session.direction = .inbound := by
      cases hd : session.direction with
      | outbound => exact absurd hd h.1
      | inbound => rfl
    rcases core.installPeerSession_outcome session with ⟨hr, _⟩ | ⟨_, ht, hs⟩
    · exact absurd hr h.2
    · rw [hi] at hs
      exact ⟨ht, hs⟩

/-- A misplaced lease leaves the inbound half of the core as it was. -/
theorem accepts_of_misplaced (h : Misplaced core session) :
    (core.installPeerSession session).2.Accepts now frame ↔ core.Accepts now frame := by
  rcases h with ho | hr
  · rcases core.installPeerSession_reset session with hs | hne
    · rw [hs]
    · rw [hne, ho]
      exact PacketTunnelCore.accepts_congr rfl rfl rfl rfl
  · rcases core.installPeerSession_outcome session with ⟨_, hs⟩ | ⟨hn, _⟩
    · rw [hs]
    · exact absurd hr hn

end Binding

/-- The core a frame of a call meets: the updates come first. -/
def arrivalCore (self : DataPlaneRuntime) (updates : List PeerSessionUpdate) :
    Option PacketTunnelCore :=
  (self.applyPeerSessionUpdates updates).pump.core

/-- A call hands a packet to the device only under the lease its frame came with. -/
def BindsInbound (self : DataPlaneRuntime) (now : UInt64) (source : SourceReading)
    (writes : List (Option String)) : Prop :=
  ∀ inbound, source.frame = some inbound →
    (pumpTransportToTunOnce now source writes self).2.tun ≠ self.tun →
    ∃ core, arrivalCore self source.updates = some core ∧ Bound core inbound.peerSession

/-- The frame of a call is acceptable under a session that is not its own. -/
def Misbinds (self : DataPlaneRuntime) (now : UInt64) (source : SourceReading) : Prop :=
  ∃ inbound core, source.frame = some inbound ∧ arrivalCore self source.updates = some core ∧
    Misplaced core inbound.peerSession ∧ core.Accepts now inbound.frame

theorem bindsInbound_iff (h : Resting self) (now : UInt64)
    (source : SourceReading) (w : List (Option String)) :
    BindsInbound self now source w ↔ ¬ Misbinds self now source := by
  have he : Resting (self.applyPeerSessionUpdates source.updates) := by
    rw [← run_updates]
    exact run_invariant Resting (fun _ inp h => resting_inputStep h inp) h _
  obtain ⟨core, hco, hq⟩ := he
  -- a frame reaches the device exactly if the core accepts it once its lease has been offered
  have hc : ∀ i, source.frame = some i →
      ((pumpTransportToTunOnce now source w self).2.tun ≠ self.tun ↔
        (core.installPeerSession i.peerSession).2.Accepts now i.frame) := by
    intro i hf
    have hr : pumpTransportToTunOnce now source w self =
        receive now i w
          ((self.applyPeerSessionUpdates source.updates).recordTransportStatus source.status) := by
      simp [pumpTransportToTunOnce, hf]
    have ho : ((self.applyPeerSessionUpdates source.updates).recordTransportStatus
        source.status).pump.core = some core := hco
    have ht : ((self.applyPeerSessionUpdates source.updates).recordTransportStatus
        source.status).tun = self.tun := rfl
    rw [hr]
    rcases (receive_outcome ho hq now i w).2 with
      ⟨ha, packet, hu⟩ | ⟨hre, hu⟩
    · rw [hu, ht]
      exact iff_of_true (fun hs => by simpa using congrArg List.length hs) ha
    · rw [hu, ht]
      exact iff_of_false (fun hne => hne rfl) hre
  constructor
  · rintro hb ⟨i, other, hf, har, hm, ha⟩
    cases hco.symm.trans har
    have hh := (hc i hf).mpr ((accepts_of_misplaced hm).mpr ha)
    obtain ⟨arrived, harr, hbo⟩ := hb i hf hh
    cases hco.symm.trans harr
    exact (bound_iff_not_misplaced hq.filed).mp hbo hm
  · intro hn i hf hh
    refine ⟨core, hco, (bound_iff_not_misplaced hq.filed).mpr fun hm => ?_⟩
    have ha := (accepts_of_misplaced hm).mp ((hc i hf).mp hh)
    exact hn ⟨i, core, hf, hco, hm, ha⟩

/-- In every run, a call binds its frame to the frame's own lease exactly if the core does not take
the frame under another session. -/
theorem inbound_binding_iff (policy : RoutePolicy) (calls : List Call) (now : UInt64)
    (source : SourceReading) (writes : List (Option String)) :
    BindsInbound (run step (.new (.initial policy true)) calls) now source writes ↔
      ¬ Misbinds (run step (.new (.initial policy true)) calls) now source := by
  refine bindsInbound_iff ?_ now source writes
  rw [run_eq_run_inputs]
  exact resting_run policy _

def sampleStatus : TransportStatus := ⟨true, .direct, true, none⟩

/-- A newer lease of the peer is ready; then a frame arrives under an older one. -/
def staleSource : SourceReading :=
  ⟨[.ready (sampleSession "peer-b" .inbound 5)], sampleStatus,
    some ⟨transportFrame 1 2 [0x45], sampleSession "peer-b" .inbound 3⟩⟩

/-- The core refuses the older lease, and the frame is delivered under the newer one. -/
theorem stale_frame_delivered :
    ¬ BindsInbound (.new (.initial samplePolicy true)) 10 staleSource [] ∧
      (pumpTransportToTunOnce 10 staleSource []
        (.new (.initial samplePolicy true))).2.tun = [[0x45]] := by
  have hd : (pumpTransportToTunOnce 10 staleSource []
      (.new (.initial samplePolicy true))).2.tun = [[0x45]] := by decide +kernel
  refine ⟨fun hb => ?_, hd⟩
  obtain ⟨c, hc, ht, _⟩ := hb _ rfl (by rw [hd]; decide)
  cases hc
  exact absurd ht (by decide +kernel)

end QuantumLink.SteamOs
