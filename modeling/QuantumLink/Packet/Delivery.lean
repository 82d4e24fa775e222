import QuantumLink.Packet.Leases

/-! # From one core to another

A core without session requirement numbers the packets it queues from one. Another such core,
given these frames in any order and any number of times, accepts each at most once and emits
the packets it accepts in the order in which it accepts them.
-/

namespace QuantumLink.Packet

open Device (QlinkError)
open PacketTunnelCore
open List

/-- What a submit queues: the family it was called with and the normalized packet. -/
def queuedPacket (core : PacketTunnelCore) : Event → Option TunnelPacket
  | .submit now protocolFamily packet =>
    match core.submitTunnelPacket now protocolFamily packet, normalizeIpv4Packet packet with
    | (.ok .queuedForTransport, _), .ok normalized => some ⟨protocolFamily, normalized⟩
    | _, _ => none
  | _ => none

def submits (packets : List (UInt64 × UInt32 × Bytes)) : List Event :=
  packets.map fun packet => .submit packet.1 packet.2.1 packet.2.2

def queuedPackets (policy : RoutePolicy) (packets : List (UInt64 × UInt32 × Bytes)) :
    List TunnelPacket :=
  observed step queuedPacket (.initial policy false) (submits packets)

def queuedFrames (policy : RoutePolicy) (packets : List (UInt64 × UInt32 × Bytes)) : List Bytes :=
  (run step (.initial policy false) (submits packets)).transportOutbox

/-- The frame of the packet at a position; numbers start at one. -/
def frameAt (index : Nat) (packet : TunnelPacket) : Bytes :=
  transportFrame (index + 1) packet.protocolFamily packet.bytes

/-- Family and length fit into a frame. -/
def Fits (packet : TunnelPacket) : Prop :=
  packet.protocolFamily.toNat < 2 ^ 16 ∧ packet.bytes.length < 2 ^ 32

theorem submit_not_queued (core : PacketTunnelCore) (now : UInt64) (p : UInt32) (packet : Bytes)
    (h : (core.submitTunnelPacket now p packet).1 ≠ .ok .queuedForTransport) :
    (core.submitTunnelPacket now p packet).2.transportOutbox = core.transportOutbox ∧
      (core.submitTunnelPacket now p packet).2.nextPacketNumber = core.nextPacketNumber := by
  obtain ⟨a, n, hr, hc⟩ := submitTunnelPacket_cases core now p packet
  rw [hr] at h ⊢
  cases hc with
  | malformed _ _ hn | unprotected _ _ _ _ hn => exact ⟨hn ▸ rfl, hn ▸ rfl⟩
  | blocked _ _ _ _ _ hn | refused _ _ _ _ _ _ _ hn => exact ⟨hn ▸ rfl, hn ▸ rfl⟩
  | queued _ _ _ _ _ _ _ _ ha => exact absurd ha h

theorem submit_queues (core : PacketTunnelCore) (now : UInt64) (p : UInt32) (packet : Bytes) :
    (queuedPacket core (.submit now p packet) = none ∧
        (step core (.submit now p packet)).2.transportOutbox = core.transportOutbox ∧
        (step core (.submit now p packet)).2.nextPacketNumber = core.nextPacketNumber) ∨
      ∃ queued, queuedPacket core (.submit now p packet) = some queued ∧ Fits queued ∧
        (step core (.submit now p packet)).2.transportOutbox = core.transportOutbox ++
          [transportFrame core.nextPacketNumber queued.protocolFamily queued.bytes] ∧
        (step core (.submit now p packet)).2.nextPacketNumber = core.nextPacketNumber + 1 := by
  by_cases hq : (core.submitTunnelPacket now p packet).1 = .ok .queuedForTransport
  · obtain ⟨a, next, hr, hc⟩ :=
      submitTunnelPacket_cases core now p packet
    have hs : (step core (.submit now p packet)).2 = next := congrArg Prod.snd hr
    rw [hr] at hq
    obtain rfl : a = .ok .queuedForTransport := hq
    cases hc with
    | malformed _ ha | unprotected _ _ _ ha => cases ha
    | blocked _ _ _ _ ha | refused _ _ _ _ _ _ ha => cases ha
    | queued _ n _ _ _ hn hf hl _ hne =>
      refine .inr ⟨⟨p, n⟩, ?_, ⟨hf, hl⟩, ?_, ?_⟩
      · simp [queuedPacket, hr, hn]
      · rw [hs, hne]
        rfl
      · rw [hs, hne]
        rfl
  · refine .inl ⟨?_, submit_not_queued core now p packet hq⟩
    simp only [queuedPacket]
    split
    · rename_i heq _
      exact absurd (congrArg Prod.fst heq) hq
    · rfl

/-- The outbox is the packets queued, framed and numbered from one. -/
structure Numbered (core : PacketTunnelCore) (packets : List TunnelPacket) : Prop where
  outbox : core.transportOutbox = packets.mapIdx frameAt
  next : core.nextPacketNumber = packets.length + 1
  fits : ∀ packet ∈ packets, Fits packet

theorem submits_concat (packets : List (UInt64 × UInt32 × Bytes)) (packet : UInt64 × UInt32 × Bytes) :
    submits (packets ++ [packet]) = submits packets ++ [.submit packet.1 packet.2.1 packet.2.2] :=
  map_append

theorem run_numbered (po : RoutePolicy) (packets : List (UInt64 × UInt32 × Bytes)) :
    Numbered (run step (.initial po false) (submits packets)) (queuedPackets po packets) := by
  induction packets using reverseRecOn with
  | nil => exact ⟨rfl, rfl, nofun⟩
  | append_singleton packets p ih =>
    rw [queuedPackets, submits_concat, observed_concat, run_concat]
    rcases submit_queues (run step (.initial po false) (submits packets)) p.1 p.2.1
      p.2.2 with ⟨hno, ho, hn⟩ | ⟨queued, hs, hf, ho, hn⟩
    · rw [hno, Option.toList_none, append_nil]
      exact ⟨ho.trans ih.outbox, hn.trans ih.next, ih.fits⟩
    · rw [hs, Option.toList_some]
      refine ⟨?_, ?_, ?_⟩
      · rw [ho, ih.outbox, ih.next, mapIdx_concat]
        rfl
      · rw [hn, ih.next, length_append, length_singleton]
        rfl
      · intro o ht
        rcases mem_append.mp ht with hol | hl
        · exact ih.fits o hol
        · exact mem_singleton.mp hl ▸ hf

theorem length_queuedPackets_le (p : RoutePolicy) (packets : List (UInt64 × UInt32 × Bytes)) :
    (queuedPackets p packets).length ≤ packets.length := by
  have h := length_observed_le step queuedPacket (.initial p false) (submits packets)
  rwa [submits, length_map] at h

def receivedNumbers (core : PacketTunnelCore) (events : List Event) : List Nat :=
  (acceptedNumbers core events).map Prod.snd

def poppedPacket (core : PacketTunnelCore) : Event → Option TunnelPacket
  | .popTunnel => core.popTunnelPacket.1
  | _ => none

def emitted (core : PacketTunnelCore) (events : List Event) : List TunnelPacket :=
  observed step poppedPacket core events ++ (run step core events).tunnelOutbox

/-- The calls of a receiver: frames of the sender arrive, packets are taken out. -/
def Arrival (packets : List TunnelPacket) (event : Event) : Prop :=
  event = .popTunnel ∨
    ∃ now index packet, packets[index]? = some packet ∧ event = .accept now (frameAt index packet)

/-- What the receiver has after some arrivals. -/
structure Received (packets : List TunnelPacket) (core : PacketTunnelCore) (events : List Event)
    (numbers : List Nat) (popped : List TunnelPacket) : Prop where
  ungated : core.requirePeerSession = false
  window : SlidingWindow.Tracks core.replayWindow {n | n ∈ numbers}
  once : numbers.Nodup
  arrived : ∀ n ∈ numbers, ∃ now index packet, packets[index]? = some packet ∧ n = index + 1 ∧
    Event.accept now (frameAt index packet) ∈ events
  emitted : numbers.map (fun n => packets[n - 1]?) = (popped ++ core.tunnelOutbox).map some

theorem passes_of_ungated {core : PacketTunnelCore}
    (h : core.requirePeerSession = false) : core.Passes direction now := by
  intro hr
  cases h.symm.trans hr

theorem decode_frameAt (hi : index + 1 < 2 ^ 64) (hf : Fits packet) :
    decodeTransportFrame (frameAt index packet) =
      .ok ⟨index + 1, packet.protocolFamily, packet.bytes⟩ :=
  decodeTransportFrame_transportFrame hi hf.1 hf.2

section

variable {packets : List TunnelPacket} {core : PacketTunnelCore} {events : List Event}
  {numbers : List Nat} {popped : List TunnelPacket} {now : UInt64} {index : Nat}
  {packet : TunnelPacket}

section

variable (h : Received packets core events numbers popped)
include h

theorem Received.idle (e : Event)
    {ne : PacketTunnelCore} (hg : ne.requirePeerSession = core.requirePeerSession)
    (hw : ne.replayWindow = core.replayWindow)
    (ho : ne.tunnelOutbox = core.tunnelOutbox) :
    Received packets ne (events ++ [e]) numbers popped := by
  refine ⟨hg.trans h.ungated, hw ▸ h.window, h.once, ?_, ho ▸ h.emitted⟩
  intro n hn
  obtain ⟨now, i, p, hp, heq, hm⟩ := h.arrived n hn
  exact ⟨now, i, p, hp, heq, mem_append_left _ hm⟩

/-- A frame of the sender is accepted just if the window takes its number. -/
theorem Received.accept_iff (hi : index + 1 < 2 ^ 64) (hf : Fits packet) :
    (core.acceptTransportFrame now (frameAt index packet)).1 = .ok () ↔
      index + 1 ∉ numbers ∧ ∀ m ∈ numbers, m < index + 1 + 128 := by
  have hd := decode_frameAt hi hf
  have hw : (core.replayWindow.observe (index + 1)).1 = true ↔
      index + 1 ∉ numbers ∧ ∀ m ∈ numbers, m < index + 1 + 128 :=
    h.window.observe_iff (by decide)
  rw [← hw]
  obtain ⟨a, n, hre, hc⟩ := acceptTransportFrame_cases core now (frameAt index packet)
  rw [hre]
  cases hc with
  | blocked _ hb => exact absurd (passes_of_ungated h.ungated) hb
  | malformed error _ he => cases hd.symm.trans he
  | replayed d _ hs hr ha =>
    cases hd.symm.trans hs
    simp [ha, hr]
  | accepted d _ hs hn ha =>
    cases hd.symm.trans hs
    simp [ha, hn]

theorem Received.accept (now : UInt64)
    (hp : packets[index]? = some packet) (hin : index + 1 < 2 ^ 64) (hf : Fits packet) :
    Received packets (step core (.accept now (frameAt index packet))).2
      (events ++ [.accept now (frameAt index packet)])
      (numbers ++ ((acceptedNumber core (.accept now (frameAt index packet))).map Prod.snd).toList)
      popped := by
  have hd := decode_frameAt hin hf
  obtain ⟨a, next, hr, hc⟩ := acceptTransportFrame_cases core now (frameAt index packet)
  have ht : (step core (.accept now (frameAt index packet))).2 = next := congrArg Prod.snd hr
  rw [ht]
  cases hc with
  | blocked _ hb => exact absurd (passes_of_ungated h.ungated) hb
  | malformed error _ he => cases hd.symm.trans he
  | replayed d _ _ _ ha hne =>
    have hq : Quiet core (.accept now (frameAt index packet)) := by
      rw [Quiet, hr, ha]
      simp
    rw [acceptedNumber_of_quiet hq, Option.map_none, Option.toList_none, append_nil]
    exact h.idle _ (hne ▸ rfl) (hne ▸ rfl) (hne ▸ rfl)
  | accepted d _ hso hw ha hne =>
    cases hd.symm.trans hso
    have hno : (acceptedNumber core (.accept now (frameAt index packet))).map Prod.snd =
        some (index + 1) := by
      rw [ha] at hr
      simp [acceptedNumber, hr, hd]
    obtain ⟨hnot, _⟩ := (h.window.observe_iff (by decide)).mp hw
    rw [hno, Option.toList_some]
    refine ⟨?_, ?_, ?_, ?_, ?_⟩
    · rw [hne]
      exact h.ungated
    · have hi : {n | n ∈ numbers ++ [index + 1]} = insert (index + 1) {n | n ∈ numbers} := by
        ext n
        simp [or_comm]
      rw [hne, hi]
      exact h.window.observe_accepted (by decide) hw
    · rw [← concat_eq_append]
      exact h.once.concat hnot
    · intro n hn
      rcases mem_append.mp hn with hol | hl
      · obtain ⟨w, o, s, hs, heq, hm⟩ := h.arrived n hol
        exact ⟨w, o, s, hs, heq, mem_append_left _ hm⟩
      · exact ⟨now, index, packet, hp, mem_singleton.mp hl, mem_append_right _ mem_cons_self⟩
    · have ho : next.tunnelOutbox =
          core.tunnelOutbox ++ [⟨packet.protocolFamily, packet.bytes⟩] := by
        rw [hne]
        rfl
      rw [ho, ← append_assoc, map_append, map_append, h.emitted,
        map_singleton, map_singleton, Nat.add_sub_cancel, hp]

theorem Received.pop : Received packets (step core .popTunnel).2 (events ++ [.popTunnel]) numbers
      (popped ++ (poppedPacket core .popTunnel).toList) := by
  refine ⟨h.ungated, h.window, h.once, ?_, ?_⟩
  · intro n hn
    obtain ⟨now, i, p, hp, heq, hm⟩ := h.arrived n hn
    exact ⟨now, i, p, hp, heq, mem_append_left _ hm⟩
  · have hs : core.tunnelOutbox.head?.toList ++ core.tunnelOutbox.tail = core.tunnelOutbox := by
      cases core.tunnelOutbox <;> rfl
    have ho : popped ++ (poppedPacket core .popTunnel).toList ++
        (step core .popTunnel).2.tunnelOutbox = popped ++ core.tunnelOutbox := by
      rw [append_assoc]
      exact congrArg (popped ++ ·) hs
    rw [ho]
    exact h.emitted
end

end

theorem receivedNumbers_concat (core : PacketTunnelCore) (events : List Event) :
    receivedNumbers core (events ++ [event]) = receivedNumbers core events ++
      ((acceptedNumber (run step core events) event).map Prod.snd).toList := by
  rw [receivedNumbers, acceptedNumbers, observed_concat, map_append]
  cases acceptedNumber (run step core events) event <;> rfl

theorem run_received (p : RoutePolicy) {packets : List TunnelPacket}
    (hc : packets.length < 2 ^ 64 - 1) (hf : ∀ packet ∈ packets, Fits packet)
    (ha : ∀ event ∈ events, Arrival packets event) :
    Received packets (run step (.initial p false) events) events
      (receivedNumbers (.initial p false) events)
      (observed step poppedPacket (.initial p false) events) := by
  induction events using List.reverseRecOn with
  | nil =>
    refine ⟨rfl, ?_, List.nodup_nil, nofun, rfl⟩
    have he : {n : Nat | n ∈ receivedNumbers (.initial p false) []} = ∅ :=
      Set.eq_empty_iff_forall_notMem.mpr fun n hn => absurd hn List.not_mem_nil
    rw [he]
    exact SlidingWindow.tracks_empty 128
  | append_singleton events event ih =>
    have hb := ih fun o ho => ha o (List.mem_append_left _ ho)
    rw [run_concat, receivedNumbers_concat, observed_concat]
    rcases ha event (List.mem_append_right _ List.mem_cons_self) with
      rfl | ⟨now, index, packet, hp, rfl⟩
    · have hno : acceptedNumber (run step (.initial p false) events) .popTunnel = none := rfl
      rw [hno, Option.map_none, Option.toList_none, List.append_nil]
      exact hb.pop
    · have hi : index < packets.length := (List.getElem?_eq_some_iff.mp hp).choose
      have hno : poppedPacket (run step (.initial p false) events)
          (.accept now (frameAt index packet)) = none := rfl
      rw [hno, Option.toList_none, List.append_nil]
      exact hb.accept now hp (by omega) (hf packet (List.mem_of_getElem? hp))

theorem mem_queuedFrames {p : RoutePolicy} (h : frame ∈ queuedFrames p packets) :
    ∃ index packet, (queuedPackets p packets)[index]? = some packet ∧
      frame = frameAt index packet := by
  have ho : queuedFrames p packets = (queuedPackets p packets).mapIdx frameAt :=
    (run_numbered p packets).outbox
  rw [ho] at h
  obtain ⟨index, hi, hf⟩ := mem_mapIdx.mp h
  exact ⟨index, _, getElem?_eq_getElem hi, hf.symm⟩

/-- Delivery from a sender to a receiver, both without session requirement. -/
theorem end_to_end_delivery (sender receiver : RoutePolicy)
    (packets : List (UInt64 × UInt32 × Bytes)) (hcount : packets.length < 2 ^ 64 - 1)
    (events : List Event)
    (harrivals : ∀ event ∈ events, event = .popTunnel ∨
      ∃ now frame, frame ∈ queuedFrames sender packets ∧ event = .accept now frame) :
    queuedFrames sender packets = (queuedPackets sender packets).mapIdx (fun index packet =>
          transportFrame (index + 1) packet.protocolFamily packet.bytes) ∧
      (receivedNumbers (.initial receiver false) events).Nodup ∧
      (∀ front now index packet back, events = front ++ .accept now (frameAt index packet) :: back →
        (queuedPackets sender packets)[index]? = some packet →
        (((run step (.initial receiver false) front).acceptTransportFrame now
            (frameAt index packet)).1 = .ok () ↔
          index + 1 ∉ receivedNumbers (.initial receiver false) front ∧
            ∀ m ∈ receivedNumbers (.initial receiver false) front, m < index + 1 + 128) ∧
        ((∀ earlier, Event.accept earlier (frameAt index packet) ∉ front) →
          index + 1 ∉ receivedNumbers (.initial receiver false) front)) ∧
      (receivedNumbers (.initial receiver false) events).map
          (fun number => (queuedPackets sender packets)[number - 1]?) =
        (emitted (.initial receiver false) events).map some ∧
      ∀ (core : PacketTunnelCore) now protocolFamily packet,
        (core.submitTunnelPacket now protocolFamily packet).1 ≠ .ok .queuedForTransport →
        (core.submitTunnelPacket now protocolFamily packet).2.transportOutbox =
            core.transportOutbox ∧
          (core.submitTunnelPacket now protocolFamily packet).2.nextPacketNumber =
            core.nextPacketNumber := by
  have hn := run_numbered sender packets
  have hl : (queuedPackets sender packets).length < 2 ^ 64 - 1 :=
    lt_of_le_of_lt (length_queuedPackets_le sender packets) hcount
  have ha : ∀ event ∈ events, Arrival (queuedPackets sender packets) event := by
    intro event hv
    rcases harrivals event hv with hpo | ⟨now, frame, hfr, hv⟩
    · exact Or.inl hpo
    · obtain ⟨index, packet, hp, rfl⟩ := mem_queuedFrames hfr
      exact Or.inr ⟨now, index, packet, hp, hv⟩
  have hr := run_received receiver hl hn.fits ha
  refine ⟨hn.outbox, hr.once, ?_, hr.emitted, submit_not_queued⟩
  intro front now index packet back heq hp
  have ho := run_received receiver hl hn.fits fun event hv =>
    ha event (heq ▸ List.mem_append_left _ hv)
  have hi : index < (queuedPackets sender packets).length :=
    (List.getElem?_eq_some_iff.mp hp).choose
  have hfi := hn.fits packet (List.mem_of_getElem? hp)
  refine ⟨ho.accept_iff (by omega) hfi, ?_⟩
  intro hf hm
  obtain ⟨earlier, other, s, hs, hu, he⟩ := ho.arrived (index + 1) hm
  obtain rfl : index = other := Nat.succ.inj hu
  cases hp.symm.trans hs
  exact hf earlier he

theorem sample_delivery : ∃ frame, queuedFrames samplePolicy [(0, 2, samplePacket)] = [frame] ∧
      (receivedNumbers (.initial samplePolicy false)
        [.accept 0 frame, .popTunnel, .accept 0 frame]).Nodup := by
  obtain ⟨frame, hr⟩ := submit_samplePacket
    (show (initial samplePolicy false).policy = samplePolicy from rfl)
    (show (initial samplePolicy false).Passes .outbound 0 from passes_of_ungated rfl)
  have hf : queuedFrames samplePolicy [(0, 2, samplePacket)] = [frame] :=
    congrArg (fun a => a.2.transportOutbox) hr
  have ha : ∀ e ∈ [Event.accept 0 frame, .popTunnel, .accept 0 frame],
      e = .popTunnel ∨ ∃ now arrived,
        arrived ∈ queuedFrames samplePolicy [(0, 2, samplePacket)] ∧ e = .accept now arrived := by
    intro e he
    have hm : frame ∈ queuedFrames samplePolicy [(0, 2, samplePacket)] := hf ▸ mem_cons_self
    simp only [mem_cons, not_mem_nil, or_false] at he
    rcases he with rfl | rfl | rfl
    · exact Or.inr ⟨0, frame, hm, rfl⟩
    · exact Or.inl rfl
    · exact Or.inr ⟨0, frame, hm, rfl⟩
  obtain ⟨_, ho, _⟩ := end_to_end_delivery samplePolicy samplePolicy [(0, 2, samplePacket)]
    (by decide) [.accept 0 frame, .popTunnel, .accept 0 frame] ha
  exact ⟨frame, hf, ho⟩

/-! ## The frames, whatever is called -/

def queuedFrame (core : PacketTunnelCore) (event : Event) : Option Bytes :=
  (queuedPacket core event).map fun packet =>
    transportFrame core.nextPacketNumber packet.protocolFamily packet.bytes

def poppedFrame (core : PacketTunnelCore) : Event → Option Bytes
  | .popTransport _ => core.popTransportFrame.1
  | _ => none

theorem step_frames (core : PacketTunnelCore) (event : Event) :
    core.transportOutbox ++ (queuedFrame core event).toList =
        (poppedFrame core event).toList ++ (step core event).2.transportOutbox ∧
      (step core event).2.nextPacketNumber =
        core.nextPacketNumber + (queuedPacket core event).toList.length := by
  have hi {slot direction} (h : (step core event).2 = core ∨
      (step core event).2 = core.resetDirection slot direction) :
      (step core event).2.transportOutbox = core.transportOutbox ∧
        (step core event).2.nextPacketNumber = core.nextPacketNumber := by
    rcases h with h | h
    · exact h.symm ▸ ⟨rfl, rfl⟩
    · cases direction <;> exact h.symm ▸ ⟨rfl, rfl⟩
  cases event with
  | install s =>
    obtain ⟨ho, hn⟩ := hi (core.installPeerSession_reset s)
    exact ⟨(append_nil _).trans ho.symm, hn⟩
  | clear p d g =>
    obtain ⟨ho, hn⟩ := hi (core.clearPeerSession_reset p d g)
    exact ⟨(append_nil _).trans ho.symm, hn⟩
  | clearDirection d => cases d <;> exact ⟨append_nil _, rfl⟩
  | clearAll | popTunnel => exact ⟨append_nil _, rfl⟩
  | submit now p packet =>
    rcases submit_queues core now p packet with ⟨hq, ho, hn⟩ | ⟨queued, hq, -, ho, hn⟩ <;>
      simp [queuedFrame, poppedFrame, hq, ho, hn]
  | popTransport now =>
    refine ⟨?_, rfl⟩
    cases h : core.transportOutbox <;>
      simp [queuedFrame, queuedPacket, poppedFrame, popTransportFrame, step, h]
  | accept now frame =>
    obtain ⟨a, next, hr, hc⟩ := core.acceptTransportFrame_cases now frame
    have hs : (step core (.accept now frame)).2 = next := congrArg Prod.snd hr
    rw [hs]
    cases hc with
    | blocked _ _ _ hn | malformed _ _ _ _ hn | replayed _ _ _ _ _ hn | accepted _ _ _ _ _ hn =>
      exact hn ▸ ⟨append_nil _, rfl⟩

/-- **Frames in order.** Whatever is called, the frames popped so far and those in the queue are
the queued packets in their order, numbered from one: none is lost, doubled or overtaken, and no
change of sessions starts the numbers again. -/
theorem frames_numbered_in_order (policy : RoutePolicy) (required : Bool) (events : List Event) :
    observed step poppedFrame (.initial policy required) events ++
        (run step (.initial policy required) events).transportOutbox =
      (observed step queuedPacket (.initial policy required) events).mapIdx frameAt := by
  rw [← observed_queue _ (fun core event => (step_frames core event).1)]
  show observed step queuedFrame (.initial policy required) events = _
  suffices h : _ ∧ (run step (.initial policy required) events).nextPacketNumber =
      (observed step queuedPacket (.initial policy required) events).length + 1 from h.1
  induction events using reverseRecOn with
  | nil => exact ⟨rfl, rfl⟩
  | append_singleton events event ih =>
    rw [observed_concat, observed_concat, run_concat, (step_frames _ event).2, ih.1, ih.2,
      queuedFrame, ih.2]
    cases queuedPacket (run step (.initial policy required) events) event <;>
      simp [frameAt, mapIdx_append]

end QuantumLink.Packet
