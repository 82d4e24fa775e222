import QuantumLink.Planes.Cleared

/-! # The peer the Windows pump has selected

Which peer outbound packets go to is kept three times: in the outbound slot of the core, in the
pump's selected peer, and in the pump's table of leases. A frame is accepted only under an inbound
lease of the selected peer.
-/

namespace QuantumLink.Windows

open QuantumLink.Packet Event Option
open TunnelPacketPump

/-! ## What an install does to the pump -/

namespace TunnelPacketPump

variable {self : TunnelPacketPump} {core : PacketTunnelCore} {session : InstalledPeerSession}

/-- The install of a lease the pump does not have yet: nothing changes, or all three copies do. -/
theorem installNew_cases (hcor : self.core = some core) (session : InstalledPeerSession) :
    self.installNew session = (false, self) ∨ ((self.installNew session).1 = true ∧
        (self.installNew session).2.core = some (core.installPeerSession session).2 ∧
        (core.installPeerSession session).2.peerSession session.direction = some session ∧
        (self.installNew session).2.selectedOutboundPeer =
          (if session.direction = .outbound then some (session.peerId, session.generation)
            else self.selectedOutboundPeer) ∧
        (self.installNew session).2.activePeerSessions =
          self.activePeerSessions.insert (session.peerId, session.direction) session) := by
  unfold installNew
  split
  · exact .inl rfl
  · simp only [hcor]
    rcases core.installPeerSession_outcome session with ⟨-, hf⟩ | ⟨-, ht, hs⟩
    · simp only [hf]
      exact .inl (by rw [← hcor])
    · rcases hi : core.installPeerSession session with ⟨t, n⟩
      rw [hi] at ht hs
      obtain rfl : t = true := ht
      exact .inr ⟨rfl, rfl, hs, rfl, rfl⟩

/-- The install of a lease the pump has: the core is asked, the pump stays as it is. -/
theorem installPeerSession_of_active (hcor : self.core = some core)
    (ha : self.activePeerSessions.lookup (session.peerId, session.direction) = some session) :
    self.installPeerSession session = ((core.installPeerSession session).1,
        { self with core := some (core.installPeerSession session).2 }) := by
  simp [installPeerSession, ha, hcor]

theorem installPeerSession_of_ne
    (ha : self.activePeerSessions.lookup (session.peerId, session.direction) ≠ some session) :
    self.installPeerSession session = (false, self) ∨
      self.installPeerSession session = self.installNew session := by
  unfold installPeerSession
  cases hl : self.activePeerSessions.lookup (session.peerId, session.direction) with
  | none => exact .inr rfl
  | some c =>
    have ho : c ≠ session := fun heq => ha (heq ▸ hl)
    simp only [if_neg ho]
    split
    · exact .inl rfl
    · exact .inr rfl

theorem installPeerSession_of_false (hcor : self.core = some core)
    (hf : (self.installPeerSession session).1 = false) :
    (self.installPeerSession session).2 = self := by
  by_cases ha : self.activePeerSessions.lookup (session.peerId, session.direction) = some session
  · rw [installPeerSession_of_active hcor ha] at hf ⊢
    rcases core.installPeerSession_outcome session with ⟨-, hr⟩ | ⟨-, ht, -⟩
    · simp only [hr]
      rw [← hcor]
    · exact absurd (ht.symm.trans hf) (by decide)
  · rcases installPeerSession_of_ne ha with heq | heq
    · rw [heq]
    · rw [heq] at hf ⊢
      rcases installNew_cases hcor session with hn | ⟨ht, -⟩
      · rw [hn]
      · exact absurd (ht.symm.trans hf) (by decide)

/-- A frame is refused for its lease, or it is attributed, its lease is in the slot of the core, and
the core decides. -/
theorem acceptTransportFrame_cases (hcor : self.core = some core)
    (hr : core.requirePeerSession = true) (now : UInt64) (f : Bytes)
    (pe : Option String) (p : Option InstalledPeerSession) :
    ((self.acceptTransportFrame now f pe p).1 ≠ .ok () ∧
        (self.acceptTransportFrame now f pe p).2.core = some core) ∨
      ∃ lease after, p = some lease ∧ self.Attributed pe lease ∧
        after.peerSession .inbound = some lease ∧
        (∀ message, (self.acceptTransportFrame now f pe p).1 ≠ .error (.peerSession message)) ∧
        (self.acceptTransportFrame now f pe p).2.core = some after := by
  have hne : ¬ core.requirePeerSession = false := by simp [hr]
  unfold acceptTransportFrame
  simp only [hcor, if_neg hne]
  cases hfi : p.filter fun s => self.Attributed pe s with
  | none => exact .inl ⟨by simp, hcor⟩
  | some lease =>
    obtain ⟨hl, ha⟩ := filter_eq_some_iff.mp hfi
    have ha := of_decide_eq_true ha
    rcases hi : self.installPeerSession lease with ⟨_ | _, n⟩
    · have hs : (self.installPeerSession lease).2 = self :=
        installPeerSession_of_false hcor (by rw [hi])
      have hn : n.core = some core := by
        rw [hi] at hs
        exact (congrArg TunnelPacketPump.core hs).trans hcor
      simp only [hi]
      exact .inl ⟨by simp, hn⟩
    · have hin := ha.1
      have hn : n.core = some (core.installPeerSession lease).2 ∧
          (core.installPeerSession lease).2.peerSession .inbound = some lease := by
        rcases installPeerSession_inbound hcor hin with ⟨-, hf⟩ | ⟨-, ho, -, haf⟩
        · rw [hi] at hf
          cases hf
        · rw [hi] at haf
          rcases core.installPeerSession_outcome lease with ⟨he, -⟩ | ⟨-, -, hsl⟩
          · exact absurd he ho
          · exact ⟨haf, hin ▸ hsl⟩
      simp only [hi, hn.1]
      have hk := PacketTunnelCore.peerSession_acceptTransportFrame
        (core.installPeerSession lease).2 now f .inbound
      refine .inr ⟨lease, ((core.installPeerSession lease).2.acceptTransportFrame now f).2,
        hl, ha, hk.trans hn.2, ?_, ?_⟩
      · intro message
        unfold acceptByCore
        split <;> simp
      · unfold acceptByCore
        rcases hc : (core.installPeerSession lease).2.acceptTransportFrame now f with
          ⟨_ | _, last⟩
        · rfl
        · rfl

end TunnelPacketPump

/-- A frame is accepted only under an inbound lease of the attributed and selected peer, which is
then the inbound session of the core; a frame refused for its lease leaves the core as it was. -/
theorem inbound_attribution (policy : RoutePolicy) (events : List Event) (now : UInt64)
    (frame : Bytes) (peerId : Option String) (peerSession : Option InstalledPeerSession) :
    let self := run step (.new (some (.initial policy true))) events
    let o := self.acceptTransportFrame now frame peerId peerSession
    (o.1 = .ok () → ∃ lease g c, peerSession = some lease ∧
        lease.direction = .inbound ∧ peerId = some lease.peerId ∧
        self.selectedOutboundPeer = some (lease.peerId, g) ∧
        o.2.core = some c ∧ c.peerSession .inbound = some lease) ∧
      ∀ m, o.1 = .error (.peerSession m) → o.2.core = self.core := by
  intro self o
  obtain ⟨c, hc, hr⟩ : Gated self := gated_run policy events
  rcases acceptTransportFrame_cases hc hr now frame peerId peerSession with
    ⟨hre, hsa⟩ | ⟨lease, after, hl, ha, hsl, hd, hf⟩
  · exact ⟨fun hk => absurd hk hre, fun _ _ => hsa.trans hc.symm⟩
  · refine ⟨fun _ => ?_, fun m he => absurd he (hd m)⟩
    obtain ⟨hi, hp, ⟨s, g⟩, hs, rfl⟩ := ha
    exact ⟨lease, g, after, hl, hi, (filter_eq_some_iff.mp hp).1, hs, hf, hsl⟩

theorem selected_frame_attributed :
    (windowsReady.acceptTransportFrame 10 (transportFrame 1 2 [0x45]) (some "peer-b")
        (some (sampleSession "peer-b" .inbound 2))).1 = .ok () ∧
      ∃ generation, windowsReady.selectedOutboundPeer = some ("peer-b", generation) := by
  have ha : (windowsReady.acceptTransportFrame 10 (transportFrame 1 2 [0x45]) (some "peer-b")
      (some (sampleSession "peer-b" .inbound 2))).1 = .ok () := by decide +kernel
  obtain ⟨l, generation, -, -, -, hp, hs, -⟩ :=
    (inbound_attribution samplePolicy windowsEvents 10 (transportFrame 1 2 [0x45]) (some "peer-b")
      (some (sampleSession "peer-b" .inbound 2))).1 ha
  exact ⟨ha, generation, by rw [some.inj hp]; exact hs⟩

/-- The core has an outbound session exactly if its peer and generation are selected, and then the
pump has the lease. -/
structure Consistent (pump : TunnelPacketPump) : Prop where
  installed : ∀ core session, pump.core = some core → core.peerSession .outbound = some session →
    pump.selectedOutboundPeer = some (session.peerId, session.generation) ∧
      pump.activePeerSessions.lookup (session.peerId, .outbound) = some session
  selected : ∀ core selected, pump.core = some core → pump.selectedOutboundPeer = some selected →
    ∃ session, core.peerSession .outbound = some session ∧
      selected = (session.peerId, session.generation)

/-- The pump has the lease, the core does not have it as its outbound session. -/
def Reinstalls (self : TunnelPacketPump) (session : InstalledPeerSession) : Prop :=
  session.direction = .outbound ∧
    self.activePeerSessions.lookup (session.peerId, .outbound) = some session ∧
    ∀ core ∈ self.core, core.peerSession .outbound ≠ some session

instance (self : TunnelPacketPump) (session : InstalledPeerSession) :
    Decidable (Reinstalls self session) :=
  inferInstanceAs (Decidable (_ ∧ _ ∧ ∀ core ∈ self.core, _))

/-- The lease an event asks the pump to install for outbound traffic. -/
def Event.offered : Event → Option InstalledPeerSession
  | .install session => some session
  | .handle _ sink => if sink.isReady then sink.installedPeerSession else none
  | _ => none

namespace Consistent

variable {self other : TunnelPacketPump} {core next : PacketTunnelCore}
  {session : InstalledPeerSession}

theorem congr (h : Consistent self) (hcor : self.core = some core) (hn : other.core = some next)
    (hl : next.peerSession .outbound = core.peerSession .outbound)
    (hs : other.selectedOutboundPeer = self.selectedOutboundPeer)
    (ha : ∀ peerId, other.activePeerSessions.lookup (peerId, .outbound) =
      self.activePeerSessions.lookup (peerId, .outbound)) : Consistent other where
  installed := by
    intro core' session hc' he
    cases hn.symm.trans hc'
    rw [hs, ha]
    exact h.installed core session hcor (hl ▸ he)
  selected := by
    intro core' selected hc' ho
    cases hn.symm.trans hc'
    rw [hl]
    exact h.selected core selected hcor (hs ▸ ho)

theorem of_none (hn : other.core = some next) (hl : next.peerSession .outbound = none)
    (hs : other.selectedOutboundPeer = none) : Consistent other where
  installed := by
    intro core' session hc' he
    cases hn.symm.trans hc'
    rw [hl] at he
    cases he
  selected := by
    intro core' selected _ ho
    rw [hs] at ho
    cases ho

theorem clearAll (hcor : self.core = some core) : Consistent self.clearAllPeerSessions := by
  refine .of_none (congrArg (Option.map _) hcor) ?_ rfl
  exact PacketTunnelCore.peerSession_resetDirection_of_ne _ _ _ (by decide)

section

variable (h : Consistent self) (hcor : self.core = some core)

include h hcor

theorem not_refuses (hf : Reinstalls self session) : ¬ core.Refuses session := by
  obtain ⟨ho, ha, hn⟩ := hf
  rintro ⟨c, hc, hne, hp, -⟩
  rw [ho] at hc
  have hl := (h.installed core c hcor hc).2
  rw [hp, ha] at hl
  exact hne (some.inj hl).symm

/-- A lease that only the pump still has goes into the core and is not selected. -/
theorem install_reinstalls (hf : Reinstalls self session) :
    (self.installPeerSession session).1 = true ∧
      ¬ Consistent (self.installPeerSession session).2 := by
  have hn := h.not_refuses hcor hf
  obtain ⟨ho, ha, hab⟩ := hf
  rw [installPeerSession_of_active hcor (ho ▸ ha)]
  rcases core.installPeerSession_outcome session with ⟨hr, -⟩ | ⟨-, ht, hsl⟩
  · exact absurd hr hn
  · refine ⟨ht, fun haf => ?_⟩
    rw [ho] at hsl
    have hs := (haf.installed _ session rfl hsl).1
    obtain ⟨c, hc, heq⟩ := h.selected core _ hcor hs
    have hl := (h.installed core c hcor hc).2
    rw [← (Prod.mk.inj heq).1, ha] at hl
    exact hab core hcor ((some.inj hl) ▸ hc)

theorem install_outbound (ho : session.direction = .outbound) (hf : ¬ Reinstalls self session) :
    Consistent (self.installPeerSession session).2 := by
  by_cases ha : self.activePeerSessions.lookup (session.peerId, session.direction) = some session
  · -- the core has the lease as well: the install changes nothing
    have hl : core.peerSession .outbound = some session := by
      by_contra hnot
      refine hf ⟨ho, ho ▸ ha, fun o ht => ?_⟩
      cases hcor.symm.trans ht
      exact hnot
    rw [installPeerSession_of_active hcor ha]
    have hsa : (core.installPeerSession session).2.peerSession .outbound =
        core.peerSession .outbound := by
      simp [PacketTunnelCore.installPeerSession, ho, hl]
    exact h.congr hcor rfl hsa rfl fun _ => rfl
  · rcases installPeerSession_of_ne ha with heq | heq
    · rw [heq]
      exact h
    · rw [heq]
      rcases installNew_cases hcor session with
        hno | ⟨-, hn, hl, hs, ha'⟩
      · rw [hno]
        exact h
      · rw [ho] at hl ha'
        rw [if_pos ho] at hs
        refine ⟨?_, ?_⟩
        · intro core' o hc' ht
          cases hn.symm.trans hc'
          cases hl.symm.trans ht
          exact ⟨hs, by rw [ha', Finmap.lookup_insert]⟩
        · intro core' selected hc' hso
          cases hn.symm.trans hc'
          exact ⟨session, hl, mem_unique hso hs⟩

theorem install_inbound (hi : session.direction = .inbound) :
    Consistent (self.installPeerSession session).2 := by
  have hl : (core.installPeerSession session).2.peerSession .outbound =
      core.peerSession .outbound := by
    rcases core.installPeerSession_reset session with hsa | hr
    · rw [hsa]
    · rw [hr, hi]
      exact PacketTunnelCore.peerSession_resetDirection_of_ne _ _ _ (by decide)
  by_cases ha : self.activePeerSessions.lookup (session.peerId, session.direction) = some session
  · rw [installPeerSession_of_active hcor ha]
    exact h.congr hcor rfl hl rfl fun _ => rfl
  · rcases installPeerSession_of_ne ha with heq | heq
    · rw [heq]
      exact h
    · rw [heq]
      rcases installNew_cases hcor session with
        ho | ⟨-, hn, -, hs, ha'⟩
      · rw [ho]
        exact h
      · rw [if_neg (by simp [hi])] at hs
        refine h.congr hcor hn hl hs fun p => ?_
        rw [ha', Finmap.lookup_insert_of_ne _ (by simp [hi])]

/-- An install keeps the copies in step exactly if it does not put a lease back that only the pump
still has. -/
theorem install_iff (session : InstalledPeerSession) :
    Consistent (self.installPeerSession session).2 ↔ ¬ Reinstalls self session := by
  constructor
  · exact fun ha ho => (h.install_reinstalls hcor ho).2 ha
  · intro ho
    cases hd : session.direction with
    | outbound => exact h.install_outbound hcor hd ho
    | inbound => exact h.install_inbound hcor hd

theorem clear_outbound (hl : self.activePeerSessions.lookup (peerId, .outbound) = some lease)
    (hn : other.core = some (core.clearPeerSession peerId .outbound lease.generation).2)
    (hs : other.selectedOutboundPeer =
      if self.selectedOutboundPeer = some (peerId, lease.generation) then none
      else self.selectedOutboundPeer)
    (ha : other.activePeerSessions = self.activePeerSessions.erase (peerId, .outbound)) :
    Consistent other := by
  rcases core.clearPeerSession_cases peerId .outbound lease.generation with
    ⟨⟨c, hu, rfl, hg⟩, hcl⟩ | ⟨hm, hsa⟩
  · have hc := (h.installed core c hcor hu).1
    rw [hg] at hc
    rw [if_pos hc] at hs
    rw [hcl] at hn
    exact .of_none hn (PacketTunnelCore.peerSession_resetDirection core none .outbound) hs
  · have hc : self.selectedOutboundPeer ≠ some (peerId, lease.generation) := by
      intro hso
      obtain ⟨c, hu, heq⟩ := h.selected core _ hcor hso
      obtain ⟨hp, hg⟩ := Prod.mk.inj heq
      exact hm ⟨c, hu, hp.symm, hg.symm⟩
    rw [if_neg hc] at hs
    rw [hsa] at hn
    refine ⟨?_, ?_⟩
    · intro core' session hc' he
      cases hn.symm.trans hc'
      obtain ⟨hso, hlo⟩ := h.installed core session hcor he
      have ho : session.peerId ≠ peerId := by
        rintro rfl
        cases hl.symm.trans hlo
        exact hm ⟨lease, he, rfl, rfl⟩
      refine ⟨hs.trans hso, ?_⟩
      rw [ha, Finmap.lookup_erase_ne (by simp [ho])]
      exact hlo
    · intro core' selected hc' hso
      cases hn.symm.trans hc'
      exact h.selected core selected hcor (hs ▸ hso)

theorem clear_inbound (hn : other.core = some (core.clearPeerSession peerId .inbound generation).2)
    (hs : other.selectedOutboundPeer = self.selectedOutboundPeer)
    (ha : other.activePeerSessions = self.activePeerSessions.erase (peerId, .inbound)) :
    Consistent other := by
  refine h.congr hcor hn ?_ hs fun p => ?_
  · rcases core.clearPeerSession_reset peerId .inbound generation with hsa | hr
    · rw [hsa]
    · rw [hr]
      exact PacketTunnelCore.peerSession_resetDirection_of_ne _ _ _ (by decide)
  · rw [ha, Finmap.lookup_erase_ne (by simp)]

theorem clear (p : String) (d : PeerSessionDirection) (generation : UInt64) :
    Consistent (self.clearPeerSession p d generation).2 := by
  unfold clearPeerSession
  by_cases hf : ((self.activePeerSessions.lookup (p, d)).any fun s =>
      s.generation = generation) = true
  · simp only [if_pos hf, hcor, map_some]
    cases hl : self.activePeerSessions.lookup (p, d) with
    | none => simp [hl] at hf
    | some l =>
      obtain rfl : l.generation = generation := by simpa [hl] using hf
      cases d with
      | outbound => exact h.clear_outbound hcor hl rfl (by simp) rfl
      | inbound => exact h.clear_inbound hcor rfl (by simp) rfl
  · simp only [if_neg hf]
    exact h

/-- The lease of the sink is installed as above, or nothing stays selected. -/
theorem selectOutbound_iff (o : Option InstalledPeerSession) : Consistent (self.selectOutbound o) ↔
      ∀ session ∈ o, ¬ Reinstalls self session := by
  have hc : ∀ p : TunnelPacketPump, ∀ n, p.core = some n →
      Consistent { p with
        core := p.core.map (·.clearPeerSessionDirection .outbound), selectedOutboundPeer := none } := by
    intro p n hn
    exact .of_none (congrArg (Option.map _) hn) (PacketTunnelCore.peerSession_resetDirection ..) rfl
  unfold selectOutbound
  cases hf : o.filter fun session => session.direction = .outbound with
  | none =>
    refine iff_of_true (hc self core hcor) ?_
    intro session he ho
    rw [Option.mem_def.mp he, Option.filter_some_pos (by simp [ho.1])] at hf
    cases hf
  | some session =>
    obtain ⟨rfl, hu⟩ := Option.filter_eq_some_iff.mp hf
    have hi := h.install_iff hcor session
    simp only [Option.mem_def, Option.some.injEq, forall_eq']
    cases ht : (self.installPeerSession session).1 with
    | true => simpa only [ht, if_true] using hi
    | false =>
      have hs := installPeerSession_of_false hcor ht
      simp only [Bool.false_eq_true, if_false]
      refine iff_of_true (hc _ core (by rw [hs]; exact hcor)) ?_
      intro ho
      have hr := (h.install_reinstalls hcor ho).1
      rw [ht] at hr
      cases hr

end

end Consistent

namespace TunnelPacketPump

theorem peerSession_submit (b : Batch) (p : BatchPacket) (direction : PeerSessionDirection) :
    (b.submit p).core.peerSession direction = b.core.peerSession direction := by
  have hk := PacketTunnelCore.peerSession_submitTunnelPacket b.core p.now p.family
    p.packet direction
  unfold Batch.submit
  rcases hs : b.core.submitTunnelPacket p.now p.family p.packet with
    ⟨answer, next⟩
  rw [hs] at hk
  rcases answer with error | d
  · exact hk
  · cases d with
    | queuedForTransport =>
      simp only [core_sendFrames]
      cases direction <;> exact hk
    | droppedUnprotected | droppedPeerSessionUnavailable => exact hk

theorem peerSession_batch (b : Batch) (pa : List BatchPacket) (direction : PeerSessionDirection) :
    (pa.foldl Batch.submit b).core.peerSession direction = b.core.peerSession direction := by
  induction pa generalizing b with
  | nil => rfl
  | cons p pa ih => exact (ih _).trans (peerSession_submit b p direction)

end TunnelPacketPump

namespace Consistent

variable {self : TunnelPacketPump} {core : PacketTunnelCore}

theorem submitBatch_iff {pump : TunnelPacketPump} (hcor : pump.core = some core)
    (p : List BatchPacket) (s : List Bool) :
    Consistent (pump.submitBatch core p s).2 ↔ Consistent pump := by
  have hs := peerSession_batch
    ⟨core, { packetsObserved := p.length }, pump.counters, s, []⟩ p .outbound
  constructor
  · intro h
    exact h.congr rfl hcor hs.symm rfl fun _ => rfl
  · intro h
    exact h.congr hcor rfl hs rfl fun _ => rfl

section

variable (h : Consistent self) (hcor : self.core = some core)

include h hcor

theorem handle_iff (hr : core.requirePeerSession = true) (p : List BatchPacket) (s : SinkReading) :
    Consistent (self.handlePackets p s).2 ↔
      ∀ session ∈ (handle p s).offered, ¬ Reinstalls self session := by
  unfold handlePackets
  simp only [hcor, hr, if_true, offered]
  cases he : s.isReady with
  | false =>
    simp only [if_true, Bool.false_eq_true, if_false]
    refine iff_of_true (.of_none rfl ?_ rfl) (by simp)
    exact PacketTunnelCore.peerSession_resetDirection core none .outbound
  | true =>
    simp only [Bool.true_eq_false, if_false, if_true]
    refine Drives.submitted (P := fun r => Consistent r.2 ↔ _) (drives_selectOutbound rfl _)
      fun n hn _ => (submitBatch_iff hn p s.sends).trans ?_
    refine Iff.trans (selectOutbound_iff ?_ rfl _) ?_
    · exact h.congr hcor rfl rfl rfl fun _ => rfl
    · simp [Reinstalls, hcor]

theorem accept (hr : core.requirePeerSession = true) (now : UInt64) (f : Bytes)
    (pr : Option String) (pe : Option InstalledPeerSession) :
    Consistent (self.acceptTransportFrame now f pr pe).2 := by
  have hne : ¬ core.requirePeerSession = false := by simp [hr]
  unfold acceptTransportFrame
  simp only [hcor, if_neg hne]
  cases hf : pe.filter fun s => self.Attributed pr s with
  | none => exact h.congr hcor hcor rfl rfl fun _ => rfl
  | some l =>
    have ha := of_decide_eq_true (filter_eq_some_iff.mp hf).2
    have hin := h.install_inbound hcor ha.1
    obtain ⟨n, hn, -⟩ := drives_installPeerSession hcor l
    rcases hi : self.installPeerSession l with ⟨_ | _, p⟩
    · rw [hi] at hin hn
      simp only [hi]
      exact hin.congr hn hn rfl rfl fun _ => rfl
    · rw [hi] at hin hn
      have hk := PacketTunnelCore.peerSession_acceptTransportFrame n now f .outbound
      simp only at hn
      simp only [hi, hn, acceptByCore]
      rcases hc : n.acceptTransportFrame now f with ⟨_ | _, la⟩
      · rw [hc] at hk
        exact hin.congr hn rfl hk rfl fun _ => rfl
      · rw [hc] at hk
        exact hin.congr hn rfl hk rfl fun _ => rfl

theorem popTunnel : Consistent self.popTunnelPacket.2 := by
  unfold popTunnelPacket
  simp only [hcor]
  have hs : core.popTunnelPacket.2.peerSession .outbound = core.peerSession .outbound := rfl
  rcases hp : core.popTunnelPacket with ⟨_ | _, n⟩
  · rw [hp] at hs
    exact h.congr hcor rfl hs rfl fun _ => rfl
  · rw [hp] at hs
    exact h.congr hcor rfl hs rfl fun _ => rfl

end

/-- One event keeps the copies in step exactly if it does not put a lease back that only the pump
still has. -/
theorem step_iff (hg : Gated self) (h : Consistent self) (e : Event) :
    Consistent (step self e).2 ↔ ∀ session ∈ e.offered, ¬ Reinstalls self session := by
  obtain ⟨c, hc, hr⟩ := hg
  cases e with
  | install session =>
    simp only [offered, mem_def, some.injEq, forall_eq']
    exact h.install_iff hc session
  | clear p d g =>
    exact iff_of_true (h.clear hc p d g) (by simp [offered])
  | clearAll => exact iff_of_true (clearAll hc) (by simp [offered])
  | handle pa s => exact h.handle_iff hc hr pa s
  | accept now f p pe =>
    exact iff_of_true (h.accept hc hr now f p pe)
      (by simp [offered])
  | popTunnel => exact iff_of_true (h.popTunnel hc) (by simp [offered])

theorem new (p : RoutePolicy) : Consistent (.new (some (.initial p true))) :=
  .of_none rfl rfl rfl

end Consistent

/-- The three copies agree in every state of a run exactly if no event of it puts a lease back that
only the pump still has. -/
theorem selection_consistent_iff (policy : RoutePolicy) (events : List Event) :
    (∀ front, front <+: events → Consistent (run step (.new (some (.initial policy true))) front)) ↔
      Along step (fun self event => ∀ session ∈ event.offered, ¬ Reinstalls self session)
        (.new (some (.initial policy true))) events :=
  forall_prefix_iff_along Gated Consistent (fun _ event h => gated_step h event)
    (fun _ event hg h => h.step_iff hg event) (gated_run policy []) (.new policy) events

/-- A lease is installed and used, the sink has none for one batch, and has it again. -/
def leaseComesBack : List Event :=
  [.install (sampleSession "peer-b" .outbound 1), .handle [] ⟨true, none, []⟩,
    .handle [] ⟨true, some (sampleSession "peer-b" .outbound 1), []⟩]

theorem returned_lease_unselected :
    (run step (.new (some (.initial samplePolicy true))) leaseComesBack).selectedOutboundPeer = none ∧
      ((run step (.new (some (.initial samplePolicy true))) leaseComesBack).core.bind
        (·.peerSession .outbound)) = some (sampleSession "peer-b" .outbound 1) ∧
      ¬ Consistent (run step (.new (some (.initial samplePolicy true))) leaseComesBack) := by
  have hs : (run step (.new (some (.initial samplePolicy true)))
      leaseComesBack).selectedOutboundPeer = none := by decide +kernel
  have hl : ((run step (.new (some (.initial samplePolicy true))) leaseComesBack).core.bind
      (·.peerSession .outbound)) = some (sampleSession "peer-b" .outbound 1) := by decide +kernel
  refine ⟨hs, hl, fun hc => ?_⟩
  obtain ⟨core, ho, he⟩ := bind_eq_some_iff.mp hl
  have hh := (hc.installed core _ ho he).1
  rw [hs] at hh
  cases hh

/-- A batch under the lease of the sink, then an inbound frame of the same peer. -/
theorem used_lease_consistent : Consistent (run step (.new (some (.initial samplePolicy true)))
      [.install (sampleSession "peer-b" .outbound 1),
        .handle [] ⟨true, some (sampleSession "peer-b" .outbound 1), []⟩, sampleArrival]) :=
  (selection_consistent_iff samplePolicy _).mpr (by decide +kernel) _ (List.prefix_refl _)

end QuantumLink.Windows
