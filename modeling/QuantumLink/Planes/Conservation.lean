import QuantumLink.Planes.Windows

/-! # No packet of the Windows pump is lost

Every packet of a batch is counted once, as a frame that went out or under the reason why it did not,
because the core holds no frame between two calls of the pump.
-/

namespace QuantumLink.Windows

open Device (QlinkError)
open QuantumLink.Packet List PacketTunnelCore

namespace TunnelPacketPump

theorem transportOutbox_step (core : PacketTunnelCore) (e : Packet.Event)
    (hs : ∀ now p packet, e ≠ .submit now p packet) (ho : core.transportOutbox = []) :
    (Packet.step core e).2.transportOutbox = [] := by
  have hc := step_stepped core e
  generalize (Packet.step core e).2 = next at hc ⊢
  cases hc with
  | queued he => exact absurd he (hs _ _ _)
  | accepted _ _ _ _ hn =>
    rw [hn]
    exact ho
  | reset _ d => cases d <;> exact ho
  | poppedFrame => simp [popTransportFrame, ho]
  | _ => exact ho

/-- The frame is one of the packet. -/
def Encodes (packet : BatchPacket) (frame : Bytes) : Prop :=
  ∃ number normalized, normalizeIpv4Packet packet.packet = .ok normalized ∧
    frame = transportFrame number packet.family normalized

/-- What a batch counts over the counters it began with, once some of its packets are done. -/
structure Accounts (start : PacketPumpCounters) (n : Nat) (done : List BatchPacket) (batch : Batch) :
    Prop where
  outbox : batch.core.transportOutbox = []
  observed : batch.result.packetsObserved = n
  killSwitch : batch.result.droppedKillSwitch = 0
  once : batch.result.transportFramesEmitted + batch.result.droppedUnprotected +
    batch.result.droppedFailClosed + batch.result.failedSubmissions = done.length
  counters : batch.counters = { start with
    queuedForTransport := start.queuedForTransport + batch.result.queuedForTransport
    droppedUnprotected := start.droppedUnprotected + batch.result.droppedUnprotected
    droppedFailClosed := start.droppedFailClosed + batch.result.droppedFailClosed
    failedSubmissions := start.failedSubmissions + batch.result.failedSubmissions }
  handed : ∃ sent, sent.Sublist done ∧ List.Forall₂ Encodes sent batch.handed

variable {start : PacketPumpCounters} {n : Nat}

theorem handed_kept {handed : List Bytes}
    (h : ∃ sent, sent.Sublist done ∧ List.Forall₂ Encodes sent handed) (p : BatchPacket) :
    ∃ sent, sent.Sublist (done ++ [p]) ∧ List.Forall₂ Encodes sent handed := by
  obtain ⟨sent, hs, hf⟩ := h
  exact ⟨sent, hs.trans (sublist_append_left ..), hf⟩

theorem Accounts.submit {b : Batch} (h : Accounts start n done b) (p : BatchPacket) :
    Accounts start n (done ++ [p]) (b.submit p) := by
  obtain ⟨a, ne, hr, hc⟩ := b.core.submitTunnelPacket_cases p.now p.family p.packet
  have hon := h.once
  have hl : (done ++ [p]).length = done.length + 1 := length_append
  rw [Batch.submit, hr]
  cases hc with
  | malformed _ ha hn | refused _ _ _ _ _ _ ha hn | unprotected _ _ _ ha hn
  | blocked _ _ _ _ ha hn =>
    subst ha hn
    exact ⟨h.outbox, h.observed, h.killSwitch, by dsimp only; omega,
      by simp only [h.counters, Nat.add_assoc], handed_kept h.handed p⟩
  | queued _ no _ _ _ hno _ _ ha hn =>
    subst ha hn
    have ho : (((b.core.count countFromTunnel).enqueueFrame
        (transportFrame b.core.nextPacketNumber p.family no)).transportOutbox) =
          [transportFrame b.core.nextPacketNumber p.family no] := by
      show b.core.transportOutbox ++ _ = _
      rw [h.outbox]
      rfl
    obtain ⟨s, hs, hf⟩ := h.handed
    have hh : ∃ s, s.Sublist (done ++ [p]) ∧ List.Forall₂ Encodes s
        (b.handed ++ [transportFrame b.core.nextPacketNumber p.family no]) :=
      ⟨s ++ [p], hs.append (List.Sublist.refl _), rel_append hf (.cons ⟨_, no, hno, rfl⟩ .nil)⟩
    dsimp only
    rw [ho, foldl_cons, foldl_nil, Batch.sendFrame]
    split <;> exact ⟨rfl, h.observed, h.killSwitch, by dsimp only; omega,
      by simp only [h.counters, Nat.add_assoc], hh⟩

theorem Accounts.batch {b : Batch} (pa : List BatchPacket) (h : Accounts start n done b) :
    Accounts start n (done ++ pa) (pa.foldl Batch.submit b) := by
  induction pa generalizing done b with
  | nil => simpa using h
  | cons p pa ih => simpa using ih (h.submit p)

/-! ## Calls of the pump -/

def Drained (self : TunnelPacketPump) : Prop := ∀ core ∈ self.core, core.transportOutbox = []

def Balanced (c : PacketPumpCounters) : Prop :=
  c.packetsObserved = c.transportFramesEmitted + c.droppedUnprotected + c.droppedFailClosed +
    c.droppedKillSwitch + c.failedSubmissions

/-- What a call leaves that has taken `k` frames from the transport. -/
structure Moved (k : Nat) (pump next : TunnelPacketPump) : Prop where
  balanced : Balanced pump.counters → Balanced next.counters
  inbound : next.counters.transportFramesAccepted + next.counters.failedInboundFrames =
    pump.counters.transportFramesAccepted + pump.counters.failedInboundFrames + k
  drained : pump.Drained → next.Drained

variable {self next : TunnelPacketPump} {core : PacketTunnelCore}

/-- A call that counts nothing and leaves no frame behind. -/
structure Idle (pump next : TunnelPacketPump) : Prop where
  counters : next.counters = pump.counters
  drained : pump.Drained → next.Drained

theorem Idle.refl (self : TunnelPacketPump) : Idle self self := ⟨rfl, id⟩

theorem Idle.moved (h : Idle self next) : Moved 0 self next :=
  ⟨fun hb => h.counters ▸ hb, by rw [h.counters, Nat.add_zero], h.drained⟩

theorem drained_of_step {e : Packet.Event} (hs : ∀ now p packet, e ≠ .submit now p packet)
    (hc : self.core = some core) (hn : next.core = some (Packet.step core e).2) (h : self.Drained) :
    next.Drained := by
  intro a ha
  rw [hn] at ha
  cases ha
  exact transportOutbox_step core e hs (h core hc)

theorem drained_map {e : Packet.Event} (hs : ∀ now p packet, e ≠ .submit now p packet)
    (hn : next.core = self.core.map fun core => (Packet.step core e).2) (h : self.Drained) :
    next.Drained := by
  cases hc : self.core with
  | none => simp [Drained, hn, hc]
  | some core => exact drained_of_step hs hc (by simp [hn, hc]) h

theorem idle_installNew (self : TunnelPacketPump) (s : InstalledPeerSession) :
    Idle self (self.installNew s).2 := by
  unfold installNew
  split
  · exact .refl self
  · split
    · exact .refl self
    · rename_i core hc
      rcases hi : core.installPeerSession s with ⟨_ | _, n⟩ <;>
        exact ⟨rfl, drained_of_step (e := .install s) (by simp) hc (by simp [Packet.step, hi])⟩

theorem idle_installPeerSession (self : TunnelPacketPump) (s : InstalledPeerSession) :
    Idle self (self.installPeerSession s).2 := by
  unfold installPeerSession
  split
  · split
    · split
      · exact .refl self
      · rename_i core hc
        exact ⟨rfl, drained_of_step (e := .install s) (by simp) hc rfl⟩
    · split
      · exact .refl self
      · exact idle_installNew self s
  · exact idle_installNew self s

theorem idle_clearPeerSession (self : TunnelPacketPump) (p : String) (d : PeerSessionDirection)
    (g : UInt64) : Idle self (self.clearPeerSession p d g).2 := by
  simp only [clearPeerSession]
  split
  · exact ⟨rfl, drained_map (e := .clear p d g) (by simp) rfl⟩
  · exact .refl self

theorem idle_selectOutbound (self : TunnelPacketPump) (o : Option InstalledPeerSession) :
    Idle self (self.selectOutbound o) := by
  have hc : ∀ p, Idle self p → Idle self { p with
      core := p.core.map (·.clearPeerSessionDirection .outbound), selectedOutboundPeer := none } :=
    fun p hp => ⟨hp.counters,
      fun h => drained_map (e := .clearDirection .outbound) (by simp) rfl (hp.drained h)⟩
  unfold selectOutbound
  cases o.filter fun s => s.direction = .outbound with
  | none => exact hc self (.refl self)
  | some s =>
    have hi := idle_installPeerSession self s
    simp only
    split
    · exact hi
    · exact hc _ hi

theorem moved_acceptByCore (hc : self.core = some core) (now : UInt64) (f : Bytes)
    (p : Option String) : Moved 1 self (self.acceptByCore core now f p).2 := by
  unfold acceptByCore
  rcases ha : core.acceptTransportFrame now f with ⟨_ | _, n⟩
  · exact ⟨id, rfl, drained_of_step (e := .accept now f) (by simp) hc (by simp [Packet.step, ha]; rfl)⟩
  · refine ⟨id, ?_, drained_of_step (e := .accept now f) (by simp) hc (by simp [Packet.step, ha]; rfl)⟩
    simp only [countAccepted]
    omega

theorem moved_acceptTransportFrame (self : TunnelPacketPump) (now : UInt64) (f : Bytes)
    (p : Option String) (s : Option InstalledPeerSession) :
    Moved 1 self (self.acceptTransportFrame now f p s).2 := by
  have hf : ∀ n, Idle self n → Moved 1 self n.countFailedInbound := fun n h =>
    ⟨h.moved.balanced, congrArg (· + 1) h.moved.inbound, h.drained⟩
  unfold acceptTransportFrame
  split
  · exact hf self (.refl self)
  · rename_i core hc
    split
    · exact moved_acceptByCore hc now f p
    · split
      · exact hf self (.refl self)
      · rename_i session _
        have hi := idle_installPeerSession self session
        obtain ⟨a, ha, -⟩ := drives_installPeerSession hc session
        rcases hr : self.installPeerSession session with ⟨_ | _, n⟩
        · rw [hr] at hi
          exact hf n hi
        · rw [hr] at hi ha
          simp only at ha
          simp only [ha]
          have hm := moved_acceptByCore ha now f p
          exact ⟨fun h => hm.balanced (hi.moved.balanced h), hm.inbound.trans (by rw [hi.counters]),
            fun h => hm.drained (hi.drained h)⟩

theorem moved_popTunnelPacket (self : TunnelPacketPump) : Moved 0 self self.popTunnelPacket.2 := by
  unfold popTunnelPacket
  split
  · exact (Idle.refl self).moved
  · rename_i core hc
    rcases hp : core.popTunnelPacket with ⟨_ | _, n⟩ <;>
      exact ⟨id, rfl, drained_of_step (e := .popTunnel) (by simp) hc (by simp [Packet.step, hp])⟩

/-- What a batch leaves: it reports the change of the counters, and hands frames of its own packets
to the sink, in order. -/
structure Handled (packets : List BatchPacket) (pump : TunnelPacketPump)
    (outcome : (PacketPumpBatchResult × List Bytes) × TunnelPacketPump) : Prop where
  moved : Moved 0 pump outcome.2
  counters : outcome.2.counters = { pump.counters with
    packetsObserved := pump.counters.packetsObserved + outcome.1.1.packetsObserved
    queuedForTransport := pump.counters.queuedForTransport + outcome.1.1.queuedForTransport
    droppedUnprotected := pump.counters.droppedUnprotected + outcome.1.1.droppedUnprotected
    droppedFailClosed := pump.counters.droppedFailClosed + outcome.1.1.droppedFailClosed
    droppedKillSwitch := pump.counters.droppedKillSwitch + outcome.1.1.droppedKillSwitch
    failedSubmissions := pump.counters.failedSubmissions + outcome.1.1.failedSubmissions
    transportFramesEmitted :=
      pump.counters.transportFramesEmitted + outcome.1.1.transportFramesEmitted }
  handed : ∃ sent, sent.Sublist packets ∧ List.Forall₂ Encodes sent outcome.1.2

/-- The packets of a batch go to a core without frames. -/
theorem handled_submitBatch {pu : TunnelPacketPump} (p : List BatchPacket) (s : List Bool)
    (hd : pu.Drained) (hc : pu.core = some core)
    (hp : pu.counters = { self.counters with
      packetsObserved := self.counters.packetsObserved + p.length }) :
    Handled p self (pu.submitBatch core p s) := by
  have ha : Accounts pu.counters p.length ([] ++ p) (p.foldl Batch.submit
      ⟨core, { packetsObserved := p.length }, pu.counters, s, []⟩) :=
    Accounts.batch p ⟨hd core hc, rfl, rfl, rfl, rfl, [], .slnil, .nil⟩
  unfold submitBatch
  generalize p.foldl Batch.submit _ = b at ha ⊢
  obtain ⟨ho, hb, hk, hn, hco, hh⟩ := ha
  rw [hp] at hco
  refine ⟨⟨fun h => ?_, by simp only [hco, Nat.add_zero], fun _ a ha => Option.some.inj ha ▸ ho⟩, ?_, hh⟩
  · rw [nil_append] at hn
    simp only [Balanced, hco] at h ⊢
    omega
  · simp [hco, hb, hk]

theorem handled_handlePackets (hd : self.Drained) (pa : List BatchPacket) (s : SinkReading) :
    Handled pa self (self.handlePackets pa s) := by
  have hn : ∃ sent, sent.Sublist pa ∧ List.Forall₂ Encodes sent ([] : List Bytes) :=
    ⟨[], nil_sublist _, .nil⟩
  unfold handlePackets
  simp only
  split
  · refine ⟨⟨fun h => ?_, rfl, id⟩, rfl, hn⟩
    simp only [Balanced] at h ⊢
    omega
  · rename_i c hc
    split
    · refine ⟨⟨fun h => ?_, rfl, drained_of_step (e := .clearDirection .outbound) (by simp) hc rfl⟩,
        rfl, hn⟩
      simp only [Balanced] at h ⊢
      omega
    · refine Drives.submitted (P := Handled pa self) (?_ : Drives c _) fun a ha _ =>
        handled_submitBatch pa s.sends ?_ ha ?_
      · split
        · refine drives_selectOutbound ?_ _
          exact hc
        · exact .of_eq hc
      · split
        · exact (idle_selectOutbound _ _).drained hd
        · exact hd
      · split
        · exact (idle_selectOutbound _ _).counters
        · rfl

/-- The frames the pump is given from the transport. -/
def isAccept : Event → Bool
  | .accept .. => true
  | _ => false

theorem moved_step (hd : self.Drained) (e : Event) :
    Moved (if isAccept e then 1 else 0) self (step self e).2 := by
  cases e with
  | install s => exact (idle_installPeerSession self s).moved
  | clear p d g => exact (idle_clearPeerSession self p d g).moved
  | clearAll => exact Idle.moved ⟨rfl, drained_map (e := .clearAll) (by simp) rfl⟩
  | handle pa si => exact (handled_handlePackets hd pa si).moved
  | accept now f p s => exact moved_acceptTransportFrame self now f p s
  | popTunnel => exact moved_popTunnelPacket self

/-- Every packet is accounted for once, every batch reports what it counted, every frame from the
transport is accepted or counted as failed, and no frame waits in the core between two calls, so what
a batch hands to its sink are frames of its own packets, in order. -/
theorem pump_conserves_packets (policy : RoutePolicy) (required : Bool) (events : List Event) :
    let pump := run step (new (some (.initial policy required))) events
    Balanced pump.counters ∧
      pump.counters.transportFramesAccepted + pump.counters.failedInboundFrames =
        (events.filter isAccept).length ∧
      (∀ core ∈ pump.core, core.transportOutbox = []) ∧
      ∀ p s, Handled p pump (pump.handlePackets p s) := by
  suffices h : Moved (events.filter isAccept).length (new (some (.initial policy required)))
      (run step (new (some (.initial policy required))) events) by
    have hd := h.drained (by simp [Drained, new, initial])
    exact ⟨h.balanced rfl, h.inbound.trans (Nat.zero_add _), hd,
      fun p s => handled_handlePackets hd p s⟩
  have hn : (new (some (.initial policy required))).Drained := by
    simp [Drained, new, initial]
  generalize new (some (.initial policy required)) = pump at hn
  induction events generalizing pump with
  | nil => exact (Idle.refl pump).moved
  | cons e events ih =>
    have hm := moved_step hn e
    have hi := ih _ (hm.drained hn)
    refine ⟨fun h => hi.balanced (hm.balanced h), hi.inbound.trans ?_,
      fun h => hi.drained (hm.drained h)⟩
    rw [hm.inbound]
    rw [filter_cons]
    split_ifs
    · rw [length_cons]
      omega
    · omega

end TunnelPacketPump

end QuantumLink.Windows
