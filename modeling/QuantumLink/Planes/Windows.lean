import QuantumLink.Foundation.Table
import QuantumLink.Packet.Leases

/-! # The Windows packet pump

`pump` of `quantumlink-service`. Beside the core the pump keeps the lease of every peer and
direction it has installed, and the peer that is selected for outbound traffic. A frame from the
transport must come with an inbound lease of the selected peer that the pump and the core both take.
-/

namespace QuantumLink.Windows

open Device (QlinkError)
open QuantumLink.Packet

inductive PumpError where
  | coreUnavailable (message : String)
  | core (error : QlinkError)
  | peerSession (message : String)
deriving DecidableEq

structure PacketPumpBatchResult where
  packetsObserved : Nat := 0
  queuedForTransport : Nat := 0
  droppedUnprotected : Nat := 0
  droppedFailClosed : Nat := 0
  droppedKillSwitch : Nat := 0
  failedSubmissions : Nat := 0
  transportFramesEmitted : Nat := 0

structure PacketPumpCounters where
  packetsObserved : Nat := 0
  queuedForTransport : Nat := 0
  droppedUnprotected : Nat := 0
  droppedFailClosed : Nat := 0
  droppedKillSwitch : Nat := 0
  failedSubmissions : Nat := 0
  transportFramesEmitted : Nat := 0
  transportFramesAccepted : Nat := 0
  failedInboundFrames : Nat := 0
  tunnelPacketsEmitted : Nat := 0
  transportFramesAcceptedPerPeer : Table String Nat := ∅

/-- Leases are kept for each peer and direction. -/
abbrev SessionKey := String × PeerSessionDirection

structure TunnelPacketPump where
  core : Option PacketTunnelCore
  counters : PacketPumpCounters
  activePeerSessions : Table SessionKey InstalledPeerSession
  selectedOutboundPeer : Option (String × UInt64)

/-- What a sink reports during a batch. `sends` says of each frame in turn whether it was sent. -/
structure SinkReading where
  isReady : Bool
  installedPeerSession : Option InstalledPeerSession
  sends : List Bool

/-- A packet of a batch, with the clock when the core looks at it. -/
structure BatchPacket where
  now : UInt64
  family : UInt32
  packet : Bytes

namespace TunnelPacketPump

def new (core : Option PacketTunnelCore) : TunnelPacketPump := ⟨core, {}, ∅, none⟩

variable (self : TunnelPacketPump)

variable (session : InstalledPeerSession)

/-- Another peer is selected for outbound traffic, under a generation that is not older. -/
def Outranked : Prop :=
  session.direction = .outbound ∧ ∃ selected ∈ self.selectedOutboundPeer,
    selected.1 ≠ session.peerId ∧ session.generation ≤ selected.2

instance (self : TunnelPacketPump) (session : InstalledPeerSession) :
    Decidable (self.Outranked session) :=
  inferInstanceAs (Decidable (_ ∧ ∃ selected ∈ self.selectedOutboundPeer, _))

/-- The part of `install_peer_session` for a lease the pump does not have yet. -/
def installNew :
    Bool × TunnelPacketPump :=
  if self.Outranked session then (false, self)
  else
    match self.core with
    | none => (false, self)
    | some core =>
      match core.installPeerSession session with
      | (false, core) => (false, { self with core := some core })
      | (true, core) =>
        (true, { self with
          core := some core
          selectedOutboundPeer :=
            if session.direction = .outbound then some (session.peerId, session.generation)
            else self.selectedOutboundPeer
          activePeerSessions :=
            self.activePeerSessions.insert (session.peerId, session.direction) session })

def installPeerSession (self : TunnelPacketPump) (session : InstalledPeerSession) :
    Bool × TunnelPacketPump :=
  match self.activePeerSessions.lookup (session.peerId, session.direction) with
  | some current =>
    if current = session then
      match self.core with
      | none => (false, self)
      | some core =>
        let (taken, core) := core.installPeerSession session
        (taken, { self with core := some core })
    else if session.generation ≤ current.generation then (false, self)
    else self.installNew session
  | none => self.installNew session

def clearPeerSession (self : TunnelPacketPump) (peerId : String) (direction : PeerSessionDirection)
    (generation : UInt64) : Bool × TunnelPacketPump :=
  let found := (self.activePeerSessions.lookup (peerId, direction)).any fun session =>
    session.generation = generation
  if found then
    (true, { self with
      activePeerSessions := self.activePeerSessions.erase (peerId, direction)
      core := self.core.map fun core => (core.clearPeerSession peerId direction generation).2
      selectedOutboundPeer :=
        if direction = .outbound ∧ self.selectedOutboundPeer = some (peerId, generation) then none
        else self.selectedOutboundPeer })
  else (false, self)

def clearAllPeerSessions : TunnelPacketPump :=
  { self with
    activePeerSessions := ∅
    selectedOutboundPeer := none
    core := self.core.map PacketTunnelCore.clearPeerSessions }

/-- A batch on its way: the core, the counts, and the frames that went to the sink. -/
structure Batch where
  core : PacketTunnelCore
  result : PacketPumpBatchResult
  counters : PacketPumpCounters
  sends : List Bool
  handed : List Bytes

/-- The loop that hands frames to the sink. -/
def Batch.sendFrame (batch : Batch) (frame : Bytes) : Batch :=
  if batch.sends.headD true then
    { batch with
      sends := batch.sends.tail
      handed := batch.handed ++ [frame]
      result := { batch.result with
        transportFramesEmitted := batch.result.transportFramesEmitted + 1 } }
  else
    { batch with
      sends := batch.sends.tail
      handed := batch.handed ++ [frame]
      result := { batch.result with failedSubmissions := batch.result.failedSubmissions + 1 }
      counters := { batch.counters with
        failedSubmissions := batch.counters.failedSubmissions + 1 } }

def Batch.submit (batch : Batch) (packet : BatchPacket) : Batch :=
  match batch.core.submitTunnelPacket packet.now packet.family packet.packet with
  | (.ok .queuedForTransport, core) =>
    -- frames are popped until none is left
    core.transportOutbox.foldl Batch.sendFrame { batch with
      core := { core with transportOutbox := [] }
      result := { batch.result with queuedForTransport := batch.result.queuedForTransport + 1 }
      counters := { batch.counters with
        queuedForTransport := batch.counters.queuedForTransport + 1 } }
  | (.ok .droppedUnprotected, core) =>
    { batch with
      core := core
      result := { batch.result with droppedUnprotected := batch.result.droppedUnprotected + 1 }
      counters := { batch.counters with
        droppedUnprotected := batch.counters.droppedUnprotected + 1 } }
  | (.ok .droppedPeerSessionUnavailable, core) =>
    { batch with
      core := core
      result := { batch.result with droppedFailClosed := batch.result.droppedFailClosed + 1 }
      counters := { batch.counters with
        droppedFailClosed := batch.counters.droppedFailClosed + 1 } }
  | (.error _, core) =>
    { batch with
      core := core
      result := { batch.result with failedSubmissions := batch.result.failedSubmissions + 1 }
      counters := { batch.counters with
        failedSubmissions := batch.counters.failedSubmissions + 1 } }

/-- The session of the sink is made the outbound one, or none is. -/
def selectOutbound (session : Option InstalledPeerSession) :
    TunnelPacketPump :=
  let (ready, self) :=
    match session.filter fun session => session.direction = .outbound with
    | none => (false, self)
    | some session => self.installPeerSession session
  if ready then self
  else
    { self with
      core := self.core.map (·.clearPeerSessionDirection .outbound)
      selectedOutboundPeer := none }

/-- The packets of a batch go to the core, one after the other. -/
def submitBatch (core : PacketTunnelCore) (packets : List BatchPacket) (sends : List Bool) :
    (PacketPumpBatchResult × List Bytes) × TunnelPacketPump :=
  let batch := packets.foldl Batch.submit
    ⟨core, { packetsObserved := packets.length }, self.counters, sends, []⟩
  ((batch.result, batch.handed), { self with
    core := some batch.core
    counters := { batch.counters with transportFramesEmitted :=
      batch.counters.transportFramesEmitted + batch.result.transportFramesEmitted } })

/-- Also returns the frames handed to the sink. -/
def handlePackets (packets : List BatchPacket) (sink : SinkReading) :
    (PacketPumpBatchResult × List Bytes) × TunnelPacketPump :=
  let counters := { self.counters with
    packetsObserved := self.counters.packetsObserved + packets.length }
  let self := { self with counters := counters }
  match self.core with
  | none =>
    (({ packetsObserved := packets.length, droppedFailClosed := packets.length }, []),
      { self with counters := { counters with
        droppedFailClosed := counters.droppedFailClosed + packets.length } })
  | some core =>
    if sink.isReady = false then
      (({ packetsObserved := packets.length, droppedKillSwitch := packets.length }, []),
        { self with
          core := some (core.clearPeerSessionDirection .outbound)
          activePeerSessions := self.activePeerSessions.retain fun key _ => key.2 ≠ .outbound
          selectedOutboundPeer := none
          counters := { counters with
            droppedKillSwitch := counters.droppedKillSwitch + packets.length } })
    else
      let self :=
        if core.requirePeerSession then self.selectOutbound sink.installedPeerSession else self
      match self.core with
      | none => (({ packetsObserved := packets.length }, []), self)
      | some core => self.submitBatch core packets sink.sends

variable (peerId : Option String)

/-- The lease of a frame is an inbound one of the attributed peer, which is the selected one. -/
def Attributed (session : InstalledPeerSession) :
    Prop :=
  session.direction = .inbound ∧ (peerId.filter fun peer => peer ≠ "") = some session.peerId ∧
    ∃ selected ∈ self.selectedOutboundPeer, selected.1 = session.peerId

instance (self : TunnelPacketPump) (peerId : Option String) (session : InstalledPeerSession) :
    Decidable (self.Attributed peerId session) :=
  inferInstanceAs (Decidable (_ ∧ _ ∧ ∃ selected ∈ self.selectedOutboundPeer, _))

def countFailedInbound : TunnelPacketPump :=
  { self with counters := { self.counters with
    failedInboundFrames := self.counters.failedInboundFrames + 1 } }

def countAccepted (self : TunnelPacketPump) : TunnelPacketPump :=
  { self with counters := { self.counters with
    transportFramesAccepted := self.counters.transportFramesAccepted + 1
    transportFramesAcceptedPerPeer :=
      match peerId.filter fun peer => peer ≠ "" with
      | none => self.counters.transportFramesAcceptedPerPeer
      | some peer => self.counters.transportFramesAcceptedPerPeer.insert peer
          ((self.counters.transportFramesAcceptedPerPeer.lookup peer).getD 0 + 1) } }

/-- The core gets the frame. -/
def acceptByCore (core : PacketTunnelCore) (now : UInt64) (frame : Bytes) (peerId : Option String) :
    Except PumpError Unit × TunnelPacketPump :=
  match core.acceptTransportFrame now frame with
  | (.ok (), core) => (.ok (), countAccepted peerId { self with core := some core })
  | (.error error, core) => (.error (.core error), countFailedInbound { self with core := some core })

def acceptTransportFrame (now : UInt64) (frame : Bytes) (peerId : Option String)
    (peerSession : Option InstalledPeerSession) :
    Except PumpError Unit × TunnelPacketPump :=
  match self.core with
  | none =>
    (.error (.coreUnavailable "Rust core is unavailable for inbound transport frame"),
      self.countFailedInbound)
  | some core =>
    if core.requirePeerSession = false then self.acceptByCore core now frame peerId
    else
      match peerSession.filter fun session => self.Attributed peerId session with
      | none =>
        (.error (.peerSession "inbound lease does not match the attributed selected peer"),
          self.countFailedInbound)
      | some session =>
        match self.installPeerSession session with
        | (false, self) =>
          (.error (.peerSession
            "inbound lease is stale or conflicts with the active generation"),
            self.countFailedInbound)
        | (true, self) =>
          match self.core with
          -- not reached: an install succeeds only with a core
          | none =>
            (.error (.coreUnavailable "Rust core is unavailable for inbound transport frame"), self)
          | some core => self.acceptByCore core now frame peerId

def popTunnelPacket (self : TunnelPacketPump) : Option TunnelPacket × TunnelPacketPump :=
  match self.core with
  | none => (none, self)
  | some core =>
    match core.popTunnelPacket with
    | (none, core) => (none, { self with core := some core })
    | (some packet, core) =>
      (some packet, { self with
        core := some core
        counters := { self.counters with
          tunnelPacketsEmitted := self.counters.tunnelPacketsEmitted + 1 } })

end TunnelPacketPump

inductive Event where
  | install (session : InstalledPeerSession)
  | clear (peerId : String) (direction : PeerSessionDirection) (generation : UInt64)
  | clearAll
  | handle (packets : List BatchPacket) (sink : SinkReading)
  | accept (now : UInt64) (frame : Bytes) (peerId : Option String)
      (peerSession : Option InstalledPeerSession)
  | popTunnel

inductive Answer where
  | unit
  | flag (value : Bool)
  | handled (result : PacketPumpBatchResult) (handed : List Bytes)
  | accepted (result : Except PumpError Unit)
  | tunnelPacket (packet : Option TunnelPacket)

def step (self : TunnelPacketPump) : Event → Answer × TunnelPacketPump
  | .install session =>
    let (value, self) := self.installPeerSession session
    (.flag value, self)
  | .clear peerId direction generation =>
    let (value, self) := self.clearPeerSession peerId direction generation
    (.flag value, self)
  | .clearAll => (.unit, self.clearAllPeerSessions)
  | .handle packets sink =>
    let ((result, handed), self) := self.handlePackets packets sink
    (.handled result handed, self)
  | .accept now frame peerId peerSession =>
    let (result, self) := self.acceptTransportFrame now frame peerId peerSession
    (.accepted result, self)
  | .popTunnel => let (packet, self) := self.popTunnelPacket; (.tunnelPacket packet, self)

/-! ## The core behind the pump -/

/-- One state of the core leads to another by calls of the core. -/
def Reaches (core next : PacketTunnelCore) : Prop := ∃ events, run Packet.step core events = next

theorem Reaches.refl (core : PacketTunnelCore) : Reaches core core := ⟨[], rfl⟩

theorem Reaches.trans (hab : Reaches a b) (hbc : Reaches b c) : Reaches a c := by
  obtain ⟨f, rfl⟩ := hab
  obtain ⟨ba, rfl⟩ := hbc
  exact ⟨f ++ ba, run_append ..⟩

theorem Reaches.call (core : PacketTunnelCore) (e : Packet.Event) :
    Reaches core (Packet.step core e).2 := ⟨[e], rfl⟩

theorem Reaches.requirePeerSession (h : Reaches core next) :
    next.requirePeerSession = core.requirePeerSession := by
  obtain ⟨e, rfl⟩ := h
  exact run_requirePeerSession core e

/-- Popping frames until none is left empties the queue. -/
theorem Reaches.drained (core : PacketTunnelCore) : Reaches core { core with transportOutbox := [] } := by
  generalize hq : core.transportOutbox = q
  induction q generalizing core with
  | nil =>
    rw [← hq]
    exact Reaches.refl core
  | cons f q ih =>
    have hp := Reaches.call core (.popTransport 0)
    refine hp.trans (ih (Packet.step core (.popTransport 0)).2 ?_)
    show core.transportOutbox.tail = q
    rw [hq, List.tail_cons]

namespace TunnelPacketPump

variable {self : TunnelPacketPump} {core : PacketTunnelCore}

/-- The core of the pump, after some calls of the core that was there. -/
def Drives (core : PacketTunnelCore) (next : TunnelPacketPump) : Prop :=
  ∃ after, next.core = some after ∧ Reaches core after

theorem Drives.of_eq (hc : self.core = some core) : Drives core self :=
  ⟨core, hc, Reaches.refl core⟩

theorem drives_installNew (hc : self.core = some core) (session : InstalledPeerSession) :
    Drives core (self.installNew session).2 := by
  have hr := Reaches.call core (.install session)
  unfold installNew
  split
  · exact .of_eq hc
  · simp only [hc]
    rcases hi : core.installPeerSession session with ⟨_ | _, n⟩ <;>
      exact ⟨n, rfl, by simpa only [Packet.step, hi] using hr⟩

theorem drives_installPeerSession (hc : self.core = some core)
    (session : InstalledPeerSession) : Drives core (self.installPeerSession session).2 := by
  unfold installPeerSession
  split
  · split
    · simp only [hc]
      exact ⟨_, rfl, Reaches.call core (.install session)⟩
    · split
      · exact .of_eq hc
      · exact drives_installNew hc session
  · exact drives_installNew hc session

theorem drives_clearPeerSession (hc : self.core = some core) (p : String)
    (d : PeerSessionDirection) (g : UInt64) :
    Drives core (self.clearPeerSession p d g).2 := by
  unfold clearPeerSession
  by_cases hf : ((self.activePeerSessions.lookup (p, d)).any fun s =>
      s.generation = g) = true
  · simp only [if_pos hf, hc]
    exact ⟨_, rfl, Reaches.call core (.clear p d g)⟩
  · simp only [if_neg hf]
    exact .of_eq hc

theorem drives_selectOutbound (ho : self.core = some core) (o : Option InstalledPeerSession) :
    Drives core (self.selectOutbound o) := by
  have hc : ∀ p : TunnelPacketPump, Drives core p →
      Drives core { p with
        core := p.core.map (·.clearPeerSessionDirection .outbound), selectedOutboundPeer := none } := by
    rintro p ⟨a, ha, hr⟩
    exact ⟨_, congrArg (Option.map _) ha, hr.trans (Reaches.call a (.clearDirection .outbound))⟩
  unfold selectOutbound
  cases o.filter fun s => s.direction = .outbound with
  | none => exact hc self (.of_eq ho)
  | some s =>
    have hi := drives_installPeerSession ho s
    simp only
    split
    · exact hi
    · exact hc _ hi

variable (b : Batch)

theorem core_sendFrames (fr : List Bytes) : (fr.foldl Batch.sendFrame b).core = b.core := by
  induction fr generalizing b with
  | nil => rfl
  | cons f fr ih =>
    rw [List.foldl_cons, ih, Batch.sendFrame]
    split <;> rfl

theorem reaches_submit (p : BatchPacket) : Reaches b.core (b.submit p).core := by
  have hc := Reaches.call b.core (.submit p.now p.family p.packet)
  unfold Batch.submit
  rcases hs : b.core.submitTunnelPacket p.now p.family p.packet with
    ⟨answer, next⟩
  have hn : Reaches b.core next := by simpa only [Packet.step, hs] using hc
  rcases answer with error | d
  · exact hn
  · cases d with
    | queuedForTransport =>
      simp only [core_sendFrames]
      exact hn.trans (Reaches.drained next)
    | droppedUnprotected | droppedPeerSessionUnavailable => exact hn

theorem reaches_batch (pa : List BatchPacket) : Reaches b.core (pa.foldl Batch.submit b).core := by
  induction pa generalizing b with
  | nil => exact Reaches.refl _
  | cons p pa ih => exact (reaches_submit b p).trans (ih _)

theorem Drives.submitted {P : (PacketPumpBatchResult × List Bytes) × TunnelPacketPump → Prop}
    {p : TunnelPacketPump} (hd : Drives core p)
    (h : ∀ a, p.core = some a → Reaches core a → P (p.submitBatch a pa s)) :
    P (match p.core with
      | none => (({ packetsObserved := pa.length }, []), p)
      | some core => p.submitBatch core pa s) := by
  obtain ⟨a, ha, hr⟩ := hd
  simp only [ha]
  exact h a ha hr

theorem drives_handlePackets (hc : self.core = some core) (pa : List BatchPacket)
    (s : SinkReading) : Drives core (self.handlePackets pa s).2 := by
  unfold handlePackets
  simp only [hc]
  split
  · exact ⟨_, rfl, Reaches.call core (.clearDirection .outbound)⟩
  · refine Drives.submitted (P := fun r => Drives core r.2) ?_ fun a _ hr =>
      ⟨_, rfl, hr.trans (reaches_batch ⟨a, _, _, _, _⟩ pa)⟩
    split
    · exact drives_selectOutbound rfl _
    · exact .of_eq rfl

theorem drives_acceptByCore (self : TunnelPacketPump) (core : PacketTunnelCore) (now : UInt64)
    (f : Bytes) (p : Option String) :
    Drives core (self.acceptByCore core now f p).2 := by
  have hc := Reaches.call core (.accept now f)
  unfold acceptByCore
  rcases ha : core.acceptTransportFrame now f with ⟨_ | _, n⟩ <;>
    exact ⟨n, rfl, by simpa only [Packet.step, ha] using hc⟩

theorem drives_acceptTransportFrame (hc : self.core = some core) (now : UInt64) (f : Bytes)
    (pe : Option String) (ps : Option InstalledPeerSession) :
    Drives core (self.acceptTransportFrame now f pe ps).2 := by
  unfold acceptTransportFrame
  simp only [hc]
  split
  · exact drives_acceptByCore self core now f pe
  · split
    · exact .of_eq hc
    · rename_i session _
      have hi := drives_installPeerSession hc session
      rcases hr : self.installPeerSession session with ⟨_ | _, p⟩
      · rw [hr] at hi
        exact hi
      · rw [hr] at hi
        obtain ⟨a, ha, he⟩ := hi
        simp only at ha
        obtain ⟨l, hl, ht⟩ := drives_acceptByCore p a now f pe
        simp only [ha]
        exact ⟨l, hl, he.trans ht⟩

theorem drives_popTunnelPacket (ho : self.core = some core) :
    Drives core self.popTunnelPacket.2 := by
  have hc := Reaches.call core .popTunnel
  unfold popTunnelPacket
  simp only [ho]
  rcases hp : core.popTunnelPacket with ⟨_ | _, n⟩ <;>
    exact ⟨n, rfl, by simpa only [Packet.step, hp] using hc⟩

/-- The pump changes its core by calls of the core only. -/
theorem drives_step (hc : self.core = some core) (e : Event) : Drives core (step self e).2 := by
  cases e with
  | install s => exact drives_installPeerSession hc s
  | clear p d g => exact drives_clearPeerSession hc p d g
  | clearAll => exact ⟨_, congrArg (Option.map _) hc, Reaches.call core .clearAll⟩
  | handle pa si => exact drives_handlePackets hc pa si
  | accept now f p pe =>
    exact drives_acceptTransportFrame hc now f p pe
  | popTunnel => exact drives_popTunnelPacket hc

end TunnelPacketPump

/-! ## What an inbound frame needs -/

namespace TunnelPacketPump

variable {self : TunnelPacketPump} {core : PacketTunnelCore} {session : InstalledPeerSession}

/-- The pump has another lease of the peer and the direction, not an older one. -/
def Stale (self : TunnelPacketPump) (session : InstalledPeerSession) : Prop :=
  ∃ current ∈ self.activePeerSessions.lookup (session.peerId, session.direction),
    current ≠ session ∧ session.generation ≤ current.generation

theorem installNew_inbound (hc : self.core = some core) (hin : session.direction = .inbound) :
    (core.Refuses session ∧ (self.installNew session).1 = false) ∨
      (¬ core.Refuses session ∧ (self.installNew session).1 = true ∧
        (self.installNew session).2.core = some (core.installPeerSession session).2) := by
  have ha : ¬ self.Outranked session := fun h => by
    rw [Outranked, hin] at h
    cases h.1
  simp only [installNew, if_neg ha, hc]
  rcases hi : core.installPeerSession session with ⟨t, n⟩
  rcases core.installPeerSession_outcome session with ⟨hr, hf⟩ | ⟨hn, ht, _⟩
  · obtain rfl : t = false := congrArg Prod.fst (hi.symm.trans hf)
    exact .inl ⟨hr, rfl⟩
  · obtain rfl : t = true := (congrArg Prod.fst hi).symm.trans ht
    exact .inr ⟨hn, rfl, rfl⟩

/-- An inbound lease is taken if neither the pump nor the core has one that stands against it. -/
theorem installPeerSession_inbound (hc : self.core = some core)
    (hi : session.direction = .inbound) :
    ((self.Stale session ∨ core.Refuses session) ∧ (self.installPeerSession session).1 = false) ∨
      (¬ self.Stale session ∧ ¬ core.Refuses session ∧ (self.installPeerSession session).1 = true ∧
        (self.installPeerSession session).2.core = some (core.installPeerSession session).2) := by
  have he := installNew_inbound hc hi
  unfold installPeerSession Stale
  cases ha : self.activePeerSessions.lookup (session.peerId, session.direction) with
  | none =>
    rcases he with ⟨hr, hf⟩ | ⟨hn, ht, hne⟩
    · exact .inl ⟨.inr hr, hf⟩
    · exact .inr ⟨by simp, hn, ht, hne⟩
  | some c =>
    by_cases hs : c = session
    · simp only [if_pos hs, hc]
      rcases core.installPeerSession_outcome session with ⟨hr, hf⟩ | ⟨hn, ht, _⟩
      · exact .inl ⟨.inr hr, congrArg Prod.fst hf⟩
      · exact .inr ⟨by simp [hs], hn, ht, trivial⟩
    by_cases ho : session.generation ≤ c.generation
    · simp only [if_neg hs, if_pos ho]
      exact .inl ⟨.inl ⟨c, rfl, hs, ho⟩, trivial⟩
    · simp only [if_neg hs, if_neg ho]
      rcases he with ⟨hr, hf⟩ | ⟨hn, ht, hne⟩
      · exact .inl ⟨.inr hr, hf⟩
      · refine .inr ⟨?_, hn, ht, hne⟩
        rintro ⟨o, hot, _, hle⟩
        cases hot
        exact ho hle

theorem acceptByCore_ok_iff :
    (self.acceptByCore core now frame peerId).1 = .ok () ↔ core.Accepts now frame := by
  unfold acceptByCore
  have ho := core.acceptTransportFrame_outcome now frame
  rcases hre : core.acceptTransportFrame now frame with ⟨a, n⟩
  rw [hre] at ho
  rcases ho with ⟨ha, hk, _⟩ | ⟨hr, ⟨error, he⟩, _⟩
  · obtain rfl : a = .ok () := hk
    exact iff_of_true rfl ha
  · obtain rfl : a = .error error := he
    exact iff_of_false (by simp) hr

/-- A frame is accepted if its lease is attributed and taken, and the core then accepts it. -/
theorem acceptTransportFrame_ok_iff (hc : self.core = some core)
    (hr : core.requirePeerSession = true) :
    (self.acceptTransportFrame now frame peerId (some session)).1 = .ok () ↔
      self.Attributed peerId session ∧ ¬ self.Stale session ∧ ¬ core.Refuses session ∧
        (core.installPeerSession session).2.Accepts now frame := by
  have hne : ¬ core.requirePeerSession = false := by simp [hr]
  unfold acceptTransportFrame
  simp only [hc, if_neg hne]
  by_cases ha : self.Attributed peerId session
  · rw [Option.filter_some_pos (by simpa using ha)]
    rcases installPeerSession_inbound hc ha.1 with
      ⟨hg, hf⟩ | ⟨hfr, hn, ht, he⟩
    · rcases hi : self.installPeerSession session with ⟨t, a⟩
      obtain rfl : t = false := (congrArg Prod.fst hi).symm.trans hf
      refine iff_of_false (by simp [hi]) ?_
      rintro ⟨_, hfr, hn, _⟩
      exact hg.elim hfr hn
    · rcases hi : self.installPeerSession session with ⟨t, a⟩
      obtain rfl : t = true := (congrArg Prod.fst hi).symm.trans ht
      have haf : a.core = some (core.installPeerSession session).2 :=
        (congrArg (fun an => an.2.core) hi).symm.trans he
      simp only [hi, haf, acceptByCore_ok_iff]
      exact ⟨fun h => ⟨ha, hfr, hn, h⟩, fun h => h.2.2.2⟩
  · rw [Option.filter_some_neg (by simpa using ha)]
    exact iff_of_false (by simp) fun h => ha h.1

end TunnelPacketPump

end QuantumLink.Windows
