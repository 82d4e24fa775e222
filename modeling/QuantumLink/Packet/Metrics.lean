import QuantumLink.Packet.Core

/-! # What the metrics add up to

Every packet from the tunnel and every frame from the transport should end in one counter. A
protected packet that cannot be made into a frame ends in none: `submit_tunnel_packet` passes
the error of the normaliser or of the frame encoder on and counts nothing.
-/

namespace QuantumLink.Packet

open PacketCoreMetrics Event

/-- The counters that an outcome goes to. -/
def PacketCoreMetrics.outcomes (m : PacketCoreMetrics) : Nat :=
  m.transportFramesOut + m.transportFramesIn + m.droppedUnprotected + m.droppedMalformed +
    m.droppedPeerSessionUnavailable + m.droppedReplay

def Event.isAccept : Event → Bool
  | accept _ _ => true
  | _ => false

/-- Packets from the tunnel and accept calls are as many as outcomes. -/
def Conserved (core : PacketTunnelCore) (events : List Event) : Prop :=
  (run step core events).metrics.packetsFromTunnel + events.countP isAccept =
    (run step core events).metrics.outcomes

instance (core : PacketTunnelCore) (events : List Event) : Decidable (Conserved core events) :=
  inferInstanceAs (Decidable (_ = _))

/-- A protected packet that the gate lets through and that cannot be made into a frame. -/
def Uncounted (core : PacketTunnelCore) : Event → Prop
  | .submit now protocolFamily packet =>
    ∃ destination, ipv4Destination packet = some destination ∧
      core.policy.protects destination = true ∧ core.Passes .outbound now ∧
      PacketTunnelCore.Unframeable protocolFamily packet
  | _ => False

/-- What a call adds to the two sides. The packet it loses is the one no counter sees. -/
def Balances (core : PacketTunnelCore) (event : Event) (next : PacketTunnelCore) : Prop :=
  ∃ lost, next.metrics.packetsFromTunnel + [event].countP isAccept + core.metrics.outcomes =
      core.metrics.packetsFromTunnel + next.metrics.outcomes + lost ∧
    (lost = 0 ↔ ¬ Uncounted core event)

section

open PacketTunnelCore

variable (core : PacketTunnelCore)

theorem balances_of_same {e : Event} {next : PacketTunnelCore}
    (he : e.isAccept = false) (hu : ¬ Uncounted core e)
    (hm : next.metrics = core.metrics) : Balances core e next := by
  refine ⟨0, ?_, iff_of_true rfl hu⟩
  simp [hm, he]

theorem submit_balances (now : UInt64) (p : UInt32) (pa : Bytes) : Balances core (.submit now p pa)
      (submitTunnelPacket now p pa core).2 := by
  obtain ⟨a, next, he, hca⟩ := submitTunnelPacket_cases core now p pa
  have ha : (submitTunnelPacket now p pa core).2 = next := congrArg Prod.snd he
  have hc : [submit now p pa].countP isAccept = 0 := rfl
  rw [ha]
  cases hca with
  | malformed h _ hn =>
    refine ⟨0, ?_, iff_of_true rfl ?_⟩
    · simp only [hn, count, countFromTunnel, outcomes, hc]
      omega
    · rintro ⟨d, hd, _⟩
      cases h.symm.trans hd
  | unprotected d h hr _ hn =>
    refine ⟨0, ?_, iff_of_true rfl ?_⟩
    · simp only [hn, count, countFromTunnel, outcomes, hc]
      omega
    · rintro ⟨o, ho, hpr, _⟩
      cases h.symm.trans ho
      cases hr.symm.trans hpr
  | blocked _ _ _ hb _ hn =>
    refine ⟨0, ?_, iff_of_true rfl ?_⟩
    · simp only [hn, count, countFromTunnel, outcomes, hc]
      omega
    · rintro ⟨_, _, _, hp, _⟩
      exact hb hp
  | refused d _ h hr hp hf _ hn =>
    -- The error is passed on here and only the packet is counted.
    refine ⟨1, ?_, iff_of_false Nat.one_ne_zero fun hco => hco ?_⟩
    · simp only [hn, count, countFromTunnel, outcomes, hc]
      omega
    · exact ⟨d, h, hr, hp, hf⟩
  | queued _ n _ _ _ hno hfa hl _ hn =>
    refine ⟨0, ?_, iff_of_true rfl ?_⟩
    · simp only [hn, enqueueFrame, count, countFromTunnel, outcomes, hc]
      omega
    · rintro ⟨_, _, _, _, hh | hi | hlo⟩
      · exact hh (normalizeIpv4Packet_isOk_iff.mp ⟨n, hno⟩)
      · omega
      · have hs := length_normalizeIpv4Packet hno
        omega

theorem accept_balances (now : UInt64) (f : Bytes) :
    Balances core (.accept now f) (acceptTransportFrame now f core).2 := by
  obtain ⟨a, next, hr, hca⟩ := acceptTransportFrame_cases core now f
  have ha : (acceptTransportFrame now f core).2 = next := congrArg Prod.snd hr
  have hc : [accept now f].countP isAccept = 1 := rfl
  rw [ha]
  refine ⟨0, ?_, iff_of_true rfl id⟩
  cases hca with
  | blocked _ _ _ hn | malformed _ _ _ _ hn =>
    simp only [hn, count, outcomes, hc]
    omega
  | replayed _ _ _ _ _ hn =>
    simp only [hn, count, outcomes, hc]
    omega
  | accepted _ _ _ _ _ hn =>
    simp only [hn, enqueuePacket, outcomes, hc]
    omega

theorem step_balances (e : Event) : Balances core e (step core e).2 := by
  cases e with
  | install s =>
    refine balances_of_same core rfl id ?_
    rcases installPeerSession_cases core s with ⟨_, hs⟩ | ⟨_, hn⟩
    · exact congrArg metrics hs
    · have ht : (step core (.install s)).2 =
          core.resetDirection (some s) s.direction := congrArg Prod.snd hn
      rw [ht, metrics_resetDirection]
  | clearAll | popTransport now => exact balances_of_same core rfl id rfl
  | clearDirection cleared =>
    exact balances_of_same core rfl id (metrics_resetDirection core none cleared)
  | clear pe cleared g =>
    refine balances_of_same core rfl id ?_
    rcases clearPeerSession_cases core pe cleared g with ⟨_, hn⟩ | ⟨_, ho⟩
    · have ht : (step core (.clear pe cleared g)).2 =
          core.resetDirection none cleared := congrArg Prod.snd hn
      rw [ht, metrics_resetDirection]
    · exact congrArg (fun a => a.2.metrics) ho
  | submit now p pa => exact submit_balances core now p pa
  | accept now f => exact accept_balances core now f
  | popTunnel => exact balances_of_same core rfl id rfl

end

/-- The packets a run loses, and that it loses none just if no step is uncounted. -/
theorem run_balances (p : RoutePolicy) (r : Bool) (e : List Event) :
    ∃ lost, (run step (.initial p r) e).metrics.packetsFromTunnel + e.countP isAccept =
        (run step (.initial p r) e).metrics.outcomes + lost ∧
      (lost = 0 ↔ Along step (fun core event => ¬ Uncounted core event) (.initial p r) e) := by
  induction e using List.reverseRecOn with
  | nil => exact ⟨0, rfl, iff_of_true rfl trivial⟩
  | append_singleton e event ih =>
    obtain ⟨b, hb, hn⟩ := ih
    obtain ⟨l, hl, hc⟩ := step_balances (run step (.initial p r) e) event
    refine ⟨b + l, ?_, ?_⟩
    · rw [run_concat, List.countP_append]
      omega
    · rw [Nat.add_eq_zero_iff, hn, hc, along_append]
      simp [Along]

/-- The metrics add up just if no protected packet was refused after the gate. -/
theorem metrics_conserved_iff (policy : RoutePolicy) (requirePeerSession : Bool)
    (events : List Event) :
    Conserved (.initial policy requirePeerSession) events ↔
      Along step (fun core event => ¬ Uncounted core event) (.initial policy requirePeerSession)
        events := by
  obtain ⟨l, hs, hn⟩ := run_balances policy requirePeerSession events
  rw [← hn, Conserved]
  omega

/-- A packet whose header length field is below five words is counted by nothing. -/
theorem short_header_not_conserved : ¬ Conserved (.initial ⟨.fullTunnel, [], []⟩ false)
      [.submit 0 2 [0x44, 0, 0, 20, 0, 0, 0, 0, 64, 17, 0, 0, 10, 0, 0, 1, 10, 0, 0, 2]] := by
  decide +kernel

end QuantumLink.Packet
