import QuantumLink.Packet.Core

/-! # The session gate

With sessions required, traffic passes only while a session of its direction is installed
and not expired, and only until the session's byte budget is used up. The bytes a direction
has processed since its slot was last reset are kept as a ledger beside the core. Calls of one
direction do not touch the other.
-/

namespace QuantumLink.Packet

open Device (QlinkError)

/-! ## Resets and traffic of a direction -/

/-- A call that resets a direction's slot. -/
def Resets (core : PacketTunnelCore) (direction : PeerSessionDirection) : Event → Prop
  | .install session => session.direction = direction ∧ ¬ core.Keeps session
  | .clearAll => True
  | .clearDirection cleared => cleared = direction
  | .clear peerId cleared generation =>
    cleared = direction ∧ core.Matches peerId cleared generation
  | _ => False

instance (core : PacketTunnelCore) (direction : PeerSessionDirection) (event : Event) :
    Decidable (Resets core direction event) :=
  match event with
  | .install session => inferInstanceAs (Decidable (session.direction = direction ∧ _))
  | .clearAll => isTrue trivial
  | .clearDirection cleared => inferInstanceAs (Decidable (cleared = direction))
  | .clear _ cleared _ => inferInstanceAs (Decidable (cleared = direction ∧ _))
  | .submit _ _ _ => isFalse id
  | .popTransport _ => isFalse id
  | .accept _ _ => isFalse id
  | .popTunnel => isFalse id

/-- The length of the frame a call processes in a direction. -/
def processed (core : PacketTunnelCore) (direction : PeerSessionDirection) : Event → Option Nat
  | .submit now protocolFamily packet =>
    match direction, core.submitTunnelPacket now protocolFamily packet with
    | .outbound, (.ok .queuedForTransport, next) => next.transportOutbox.getLast?.map List.length
    | _, _ => none
  | .accept now frame =>
    match direction, core.acceptTransportFrame now frame with
    | .inbound, (.ok _, _) => some frame.length
    | _, _ => none
  | _ => none

/-- The frame lengths since the last reset, in order. -/
def recordLedger (direction : PeerSessionDirection) (core : PacketTunnelCore) (event : Event)
    (ledger : List Nat) : List Nat :=
  if Resets core direction event then [] else ledger ++ (processed core direction event).toList

def ledger (direction : PeerSessionDirection) (core : PacketTunnelCore) (events : List Event) :
    List Nat :=
  (run (withRecord step (recordLedger direction)) (core, []) events).2

/-! ## What a call does -/

/-- No frame is queued, accepted or popped. -/
def Quiet (core : PacketTunnelCore) : Event → Prop
  | .submit now protocolFamily packet =>
    (core.submitTunnelPacket now protocolFamily packet).1 ≠ .ok .queuedForTransport
  | .accept now frame => (core.acceptTransportFrame now frame).1 ≠ .ok ()
  | .popTransport _ => False
  | _ => True

inductive Stepped (core : PacketTunnelCore) (event : Event) : PacketTunnelCore → Prop
  | quiet (f : PacketCoreMetrics → PacketCoreMetrics) (hquiet : Quiet core event)
      (hreset : ∀ direction, ¬ Resets core direction event) : Stepped core event (core.count f)
  | reset (slot : Option InstalledPeerSession) (direction : PeerSessionDirection)
      (hquiet : Quiet core event) (hreset : ∀ other, Resets core other event ↔ other = direction)
      (hslot : ∀ session, slot = some session →
        event = .install session ∧ session.direction = direction ∧ ¬ core.Keeps session) :
      Stepped core event (core.resetDirection slot direction)
  | cleared (hevent : event = .clearAll) : Stepped core event core.clearPeerSessions
  | queued {now : UInt64} {protocolFamily : UInt32} {packet normalized : Bytes}
      {next : PacketTunnelCore} (hevent : event = .submit now protocolFamily packet)
      (hpasses : core.Passes .outbound now) (hlength : normalized.length < 2 ^ 32)
      (hnext : next = (core.count PacketTunnelCore.countFromTunnel).enqueueFrame
        (transportFrame core.nextPacketNumber protocolFamily normalized))
      (hresult : core.submitTunnelPacket now protocolFamily packet =
        (.ok .queuedForTransport, next)) : Stepped core event next
  | accepted {now : UInt64} {frame : Bytes} {decoded : DecodedFrame} {next : PacketTunnelCore}
      (hevent : event = .accept now frame) (hpasses : core.Passes .inbound now)
      (hdecoded : decodeTransportFrame frame = .ok decoded)
      (hnew : (core.replayWindow.observe decoded.packetNumber).1 = true)
      (hnext : next = { core with
        replayWindow := (core.replayWindow.observe decoded.packetNumber).2 }.enqueuePacket
          frame.length ⟨decoded.protocolFamily, decoded.packet⟩)
      (hresult : core.acceptTransportFrame now frame = (.ok (), next)) : Stepped core event next
  | poppedFrame (now : UInt64) (hevent : event = .popTransport now) :
      Stepped core event core.popTransportFrame.2
  | poppedPacket (hevent : event = .popTunnel) : Stepped core event core.popTunnelPacket.2

section

variable (core : PacketTunnelCore)

theorem submit_stepped (now : UInt64) (p : UInt32) (pa : Bytes) : Stepped core (.submit now p pa)
      (core.submitTunnelPacket now p pa).2 := by
  obtain ⟨a, n, hr, hc⟩ := core.submitTunnelPacket_cases now p pa
  have hq (ha : a ≠ .ok .queuedForTransport) :
      Quiet core (.submit now p pa) := by rwa [Quiet, hr]
  rw [hr]
  show Stepped core _ n
  cases hc with
  | malformed _ ha hn | blocked _ _ _ _ ha hn => exact hn ▸ .quiet _ (hq (ha ▸ nofun)) fun _ => id
  | unprotected _ _ _ ha hn | refused _ _ _ _ _ _ ha hn =>
    exact hn ▸ .quiet _ (hq (ha ▸ nofun)) fun _ => id
  | queued _ _ _ _ hp _ _ hl ha hn =>
    exact .queued rfl hp hl hn (ha ▸ hr)

theorem accept_stepped (now : UInt64) (fr : Bytes) :
    Stepped core (.accept now fr) (core.acceptTransportFrame now fr).2 := by
  obtain ⟨a, n, hr, hc⟩ := core.acceptTransportFrame_cases now fr
  have hq (ha : a ≠ .ok ()) : Quiet core (.accept now fr) := by
    rwa [Quiet, hr]
  rw [hr]
  show Stepped core _ n
  cases hc with
  | blocked _ _ ha hn | malformed _ _ _ ha hn => exact hn ▸ .quiet _ (hq (ha ▸ nofun)) fun _ => id
  | replayed _ _ _ _ ha hn =>
    exact hn ▸ .quiet _ (hq (ha ▸ nofun)) fun _ => id
  | accepted _ hp hd hne ha hn =>
    exact .accepted rfl hp hd hne hn (ha ▸ hr)

theorem step_stepped (event : Event) : Stepped core event (step core event).2 := by
  cases event with
  | install s =>
    rcases core.installPeerSession_cases s with ⟨hk, hs⟩ | ⟨hk, hn⟩
    · have ht : (step core (.install s)).2 = core.count id := hs
      rw [ht]
      exact .quiet id trivial fun _ hr => hr.2 hk
    · have ht : (step core (.install s)).2 =
          core.resetDirection (some s) s.direction := congrArg Prod.snd hn
      rw [ht]
      refine .reset _ _ trivial (fun _ => ⟨fun h => h.1.symm, fun h => ⟨h.symm, hk⟩⟩) ?_
      intro o hot
      cases hot
      exact ⟨rfl, rfl, hk⟩
  | clearAll => exact .cleared rfl
  | clearDirection cleared => exact .reset none cleared trivial (fun _ => eq_comm) nofun
  | clear pe cleared g =>
    rcases core.clearPeerSession_cases pe cleared g with ⟨hm, hn⟩ | ⟨hm, ho⟩
    · have ht : (step core (.clear pe cleared g)).2 =
          core.resetDirection none cleared := congrArg Prod.snd hn
      rw [ht]
      exact .reset none cleared trivial
        (fun _ => ⟨fun h => h.1.symm, fun h => ⟨h.symm, hm⟩⟩) nofun
    · have ht : (step core (.clear pe cleared g)).2 = core.count id :=
        congrArg Prod.snd ho
      rw [ht]
      exact .quiet id trivial fun _ hr => hm hr.2
  | submit now p pa => exact submit_stepped core now p pa
  | popTransport now => exact .poppedFrame now rfl
  | accept now f => exact accept_stepped core now f
  | popTunnel => exact .poppedPacket rfl

theorem step_requirePeerSession (event : Event) :
    (step core event).2.requirePeerSession = core.requirePeerSession := by
  have hs := step_stepped core event
  generalize (step core event).2 = next at hs ⊢
  cases hs with
  | reset s d => exact core.requirePeerSession_resetDirection s d
  | queued _ _ _ hn | accepted _ _ _ _ hn => exact hn ▸ rfl
  | _ => rfl

end

theorem run_requirePeerSession (core : PacketTunnelCore) (ev : List Event) :
    (run step core ev).requirePeerSession = core.requirePeerSession :=
  run_invariant (fun n => n.requirePeerSession = core.requirePeerSession)
    (fun n e h => (step_requirePeerSession n e).trans h) rfl ev

theorem processed_of_quiet (h : Quiet core event)
    (direction : PeerSessionDirection) : processed core direction event = none := by
  unfold processed
  split
  · split
    · rename_i hr
      exact absurd (congrArg Prod.fst hr) h
    · rfl
  · split
    · rename_i hr
      exact absurd (congrArg Prod.fst hr) h
    · rfl
  · rfl

/-! ## What a call does to a direction -/

namespace PacketTunnelCore

section

variable (core : PacketTunnelCore) (f : PacketCoreMetrics → PacketCoreMetrics)
  (direction : PeerSessionDirection)

theorem peerSession_count : (core.count f).peerSession direction = core.peerSession direction := by
  cases direction <;> rfl

theorem peerSessionBytes_count :
    (core.count f).peerSessionBytes direction = core.peerSessionBytes direction := by
  cases direction <;> rfl
end

theorem toNat_saturatingAdd (a b : UInt64) :
    (saturatingAdd a b).toNat = min (a.toNat + b.toNat) (2 ^ 64 - 1) := by
  unfold saturatingAdd
  by_cases hf : a.toNat + b.toNat < 2 ^ 64
  · rw [if_pos hf, UInt64.toNat_add, Nat.mod_eq_of_lt hf]
    omega
  · rw [if_neg hf]
    have hm : (0xffffffffffffffff : UInt64).toNat = 2 ^ 64 - 1 := by decide
    omega

end PacketTunnelCore

theorem length_of_decodeTransportFrame
    (h : decodeTransportFrame frame = .ok decoded) : frame.length < 2 ^ 64 := by
  simp only [decodeTransportFrame, bind_eq_ok_iff, ensure_eq_ok_iff, exists_const] at h
  obtain ⟨_, _, hl, _⟩ := h
  have hlt := ofBigEndian_lt ((frame.drop 16).take 4)
  have hf : ((frame.drop 16).take 4).length ≤ 4 := List.length_take_le _ _
  have hp : 256 ^ ((frame.drop 16).take 4).length ≤ 256 ^ 4 := Nat.pow_le_pow_right (by decide) hf
  unfold frameHeaderLen at hl
  omega

/-- Everything a call can do to a direction: nothing, a reset, or one frame through the gate. -/
inductive DirectionMove (core : PacketTunnelCore) (direction : PeerSessionDirection)
    (event : Event) (next : PacketTunnelCore) : Prop
  | idle (hreset : ¬ Resets core direction event) (hprocessed : processed core direction event = none)
      (hsession : next.peerSession direction = core.peerSession direction)
      (hbytes : next.peerSessionBytes direction = core.peerSessionBytes direction)
  | reset (hreset : Resets core direction event) (hbytes : next.peerSessionBytes direction = 0)
  | traffic (now : UInt64) (length : Nat) (hreset : ¬ Resets core direction event)
      (hpasses : core.Passes direction now) (hlength : length < 2 ^ 64)
      (hprocessed : processed core direction event = some length)
      (hsession : next.peerSession direction = core.peerSession direction)
      (hbytes : core.requirePeerSession = true → next.peerSessionBytes direction =
        PacketTunnelCore.saturatingAdd (core.peerSessionBytes direction) (UInt64.ofNat length))

open PacketTunnelCore in
theorem step_direction (core : PacketTunnelCore) (direction : PeerSessionDirection)
    (event : Event) : DirectionMove core direction event (step core event).2 := by
  have ht := step_stepped core event
  generalize (step core event).2 = ne at ht ⊢
  cases ht with
  | quiet f hq hre =>
    exact .idle (hre direction) (processed_of_quiet hq direction)
      (peerSession_count core f direction) (peerSessionBytes_count core f direction)
  | reset s c hq hre =>
    by_cases hs : direction = c
    · exact .reset ((hre direction).mpr hs) (by simp [hs])
    · exact .idle (fun h => hs ((hre direction).mp h)) (processed_of_quiet hq direction)
        (peerSession_resetDirection_of_ne core _ _ hs)
        (peerSessionBytes_resetDirection_of_ne core _ _ hs)
  | cleared he =>
    subst he
    exact .reset trivial (by cases direction <;> rfl)
  | @queued now p pa n ne he hp hl hn hres =>
    subst he
    cases direction with
    | inbound => exact .idle id rfl (hn ▸ rfl) (hn ▸ rfl)
    | outbound =>
      have hf := length_transportFrame core.nextPacketNumber p n
      refine .traffic now
        (transportFrame core.nextPacketNumber p n).length id hp ?_ ?_
        (hn ▸ rfl) ?_
      · rw [hf, frameHeaderLen]
        omega
      · simp [processed, hres, hn, enqueueFrame]
      · intro hr
        rw [hn]
        show (if core.requirePeerSession = true then _ else _) = _
        rw [if_pos hr]
        rfl
  | @accepted now fr d ne he hp hd hne hn hres =>
    subst he
    cases direction with
    | outbound => exact .idle id rfl (hn ▸ rfl) (hn ▸ rfl)
    | inbound =>
      refine .traffic now fr.length id hp (length_of_decodeTransportFrame hd) ?_
        (hn ▸ rfl) ?_
      · simp [processed, hres]
      · intro hr
        rw [hn]
        show (if core.requirePeerSession = true then _ else _) = _
        rw [if_pos hr]
        rfl
  | poppedFrame now he | poppedPacket he =>
    subst he
    exact .idle id rfl (by cases direction <;> rfl) (by cases direction <;> rfl)

/-! ## The budget -/

/-- The byte count is what the ledger sums to, up to saturation, and all but the last frame of
the ledger stayed below the budget of the installed session. -/
structure Budget (direction : PeerSessionDirection) (s : PacketTunnelCore × List Nat) : Prop where
  required : s.1.requirePeerSession = true
  bytes : (s.1.peerSessionBytes direction).toNat = min s.2.sum (2 ^ 64 - 1)
  below : s.2 ≠ [] → ∃ session, s.1.peerSession direction = some session ∧
    (0 < session.rekeyAfterBytes → s.2.dropLast.sum < session.rekeyAfterBytes.toNat)

theorem budget_step (direction : PeerSessionDirection) (s : PacketTunnelCore × List Nat)
    (event : Event) (h : Budget direction s) :
    Budget direction (withRecord step (recordLedger direction) s event).2 := by
  obtain ⟨c, log⟩ := s
  have hr : (step c event).2.requirePeerSession = true :=
    (step_requirePeerSession c event).trans h.required
  have hm := step_direction c direction event
  show Budget direction ((step c event).2, recordLedger direction c event log)
  unfold recordLedger
  cases hm with
  | idle he hp hs hb =>
    rw [if_neg he, hp, Option.toList_none, List.append_nil]
    refine ⟨hr, ?_, ?_⟩
    · rw [hb]
      exact h.bytes
    · intro hne
      rw [hs]
      exact h.below hne
  | reset he hb =>
    rw [if_pos he]
    refine ⟨hr, ?_, fun hne => absurd rfl hne⟩
    rw [hb]
    rfl
  | traffic now l he ha hl hp hs hb =>
    obtain ⟨se, ho⟩ := ha h.required
    have hol := h.bytes
    rw [if_neg he, hp, Option.toList_some]
    refine ⟨hr, ?_, ?_⟩
    · rw [hb h.required, PacketTunnelCore.toNat_saturatingAdd,
        UInt64.toNat_ofNat_of_lt' hl, List.sum_append, List.sum_singleton]
      simp only at hol ⊢
      omega
    · intro _
      refine ⟨se, by rw [hs]; exact ho.installed, ?_⟩
      intro hpo
      have hbe := UInt64.lt_iff_toNat_lt.mp (ho.budget hpo)
      have hma := se.rekeyAfterBytes.toNat_lt
      simp only [List.dropLast_concat] at hol ⊢
      omega

theorem run_budget (direction : PeerSessionDirection) (p : RoutePolicy) (e : List Event) :
    Budget direction (run (withRecord step (recordLedger direction))
      (PacketTunnelCore.initial p true, []) e) := by
  refine run_invariant (Budget direction) (budget_step direction) ?_ e
  refine ⟨rfl, ?_, fun hne => absurd rfl hne⟩
  cases direction <;> rfl

/-! ## The gate -/

def Event.direction : Event → Option PeerSessionDirection
  | install session => some session.direction
  | clearAll => none
  | clearDirection direction => some direction
  | clear _ direction _ => some direction
  | submit _ _ _ => some .outbound
  | popTransport _ => some .outbound
  | accept _ _ => some .inbound
  | popTunnel => some .inbound

section

variable (core : PacketTunnelCore) {event : Event} (hev : event.direction = some direction)
  (hoth : other ≠ direction)
include hev hoth

theorem not_resets_of_direction : ¬ Resets core other event ∧ processed core other event = none := by
  cases event with
  | install s =>
    refine ⟨fun hr => hoth ?_, rfl⟩
    exact hr.1.symm.trans (Option.some.inj hev)
  | clearAll => cases hev
  | clearDirection c =>
    exact ⟨fun hr => hoth (hr.symm.trans (Option.some.inj hev)), rfl⟩
  | clear pe c g =>
    exact ⟨fun hr => hoth (hr.1.symm.trans (Option.some.inj hev)), rfl⟩
  | submit now p pa =>
    cases other with
    | outbound => exact absurd (Option.some.inj hev) hoth
    | inbound => exact ⟨id, rfl⟩
  | popTransport now | popTunnel => exact ⟨id, rfl⟩
  | accept now f =>
    cases other with
    | inbound => exact absurd (Option.some.inj hev) hoth
    | outbound => exact ⟨id, rfl⟩

theorem step_other_direction : (step core event).2.peerSession other = core.peerSession other ∧
      (step core event).2.peerSessionBytes other = core.peerSessionBytes other ∧
      ∀ now, (step core event).2.peerSessionBlockReason other now =
        core.peerSessionBlockReason other now := by
  obtain ⟨hn, ho⟩ := not_resets_of_direction core hev hoth
  have hr := step_requirePeerSession core event
  cases step_direction core other event with
  | reset he => exact absurd he hn
  | traffic now l _ _ _ hp => cases ho.symm.trans hp
  | idle _ _ hs hb =>
    refine ⟨hs, hb, fun now => ?_⟩
    simp [PacketTunnelCore.peerSessionBlockReason, hs, hb, hr]
end

/-- The gate over every run with sessions required. -/
theorem session_gate_fail_closed (policy : RoutePolicy) (events : List Event) :
    (∀ now protocolFamily packet,
      ((run step (.initial policy true) events).submitTunnelPacket now protocolFamily packet).1 =
        .ok .queuedForTransport →
      ∃ session, (run step (.initial policy true) events).outboundPeerSession = some session ∧
        now < session.expiresAtUnix) ∧
    (∀ now frame,
      ((run step (.initial policy true) events).acceptTransportFrame now frame).1 = .ok () →
      ∃ session, (run step (.initial policy true) events).inboundPeerSession = some session ∧
        now < session.expiresAtUnix) ∧
    (∀ direction, ledger direction (.initial policy true) events ≠ [] →
      ∃ session, (run step (.initial policy true) events).peerSession direction = some session ∧
        (0 < session.rekeyAfterBytes →
          (ledger direction (.initial policy true) events).dropLast.sum <
            session.rekeyAfterBytes.toNat)) ∧
    ∀ (core : PacketTunnelCore) event direction other, event.direction = some direction →
      other ≠ direction →
      (step core event).2.peerSession other = core.peerSession other ∧
        (step core event).2.peerSessionBytes other = core.peerSessionBytes other ∧
        ∀ now, (step core event).2.peerSessionBlockReason other now =
          core.peerSessionBlockReason other now := by
  have hre : (run step (.initial policy true) events).requirePeerSession = true :=
    run_requirePeerSession (.initial policy true) events
  refine ⟨?_, ?_, ?_, ?_⟩
  · intro now protocolFamily packet hq
    obtain ⟨a, n, hr, hc⟩ :=
      (run step (.initial policy true) events).submitTunnelPacket_cases now protocolFamily packet
    rw [hr] at hq
    obtain rfl : a = .ok .queuedForTransport := hq
    cases hc with
    | malformed _ ha | unprotected _ _ _ ha => cases ha
    | blocked _ _ _ _ ha | refused _ _ _ _ _ _ ha => cases ha
    | queued _ _ _ _ hp =>
      obtain ⟨session, ho⟩ := hp hre
      exact ⟨session, ho.installed, ho.unexpired⟩
  · intro now frame hac
    obtain ⟨a, n, hr, hc⟩ :=
      (run step (.initial policy true) events).acceptTransportFrame_cases now frame
    rw [hr] at hac
    obtain rfl : a = .ok () := hac
    cases hc with
    | blocked _ _ ha | malformed _ _ _ ha => cases ha
    | replayed _ _ _ _ ha => cases ha
    | accepted _ hp =>
      obtain ⟨session, ho⟩ := hp hre
      exact ⟨session, ho.installed, ho.unexpired⟩
  · intro direction hne
    have hb := run_budget direction policy events
    obtain ⟨session, hs, hbe⟩ := hb.below hne
    rw [run_withRecord_fst] at hs
    exact ⟨session, hs, hbe⟩
  · intro core event direction other he ht
    exact step_other_direction core he ht

end QuantumLink.Packet
