import QuantumLink.Planes.SteamOs
import QuantumLink.Planes.Windows

/-! # Leases that were cleared

A clear empties the slot of a lease, in the core and in the pump around it, and leaves no trace of
the generation. A frame brings its lease with it and the lease is installed on arrival, so a frame
under a cleared lease opens the slot again. Both data planes refuse such a frame only for what they
see when it arrives: a newer lease, an expired one, a frame that is malformed or replayed, and on
Windows a peer that is not the selected one.
-/

namespace QuantumLink.Packet.PacketTunnelCore

open QuantumLink.Frame (ReplayWindow)

variable {core : PacketTunnelCore} {session : InstalledPeerSession} {now : UInt64} {frame : Bytes}

/-- The core would take the frame if its lease were offered first: under the session it keeps, or
under the lease with a new budget and a new replay window. -/
def Admits (core : PacketTunnelCore) (now : UInt64) (session : InstalledPeerSession)
    (frame : Bytes) : Prop :=
  if session.direction = .outbound ∨ core.Keeps session then core.Accepts now frame
  else now < session.expiresAtUnix ∧ ∃ decoded, decodeTransportFrame frame = .ok decoded ∧
    (ReplayWindow.new.observe decoded.packetNumber).1 = true

theorem accepts_resetDirection (hr : core.requirePeerSession = true) :
    (core.resetDirection (some session) .inbound).Accepts now frame ↔
      now < session.expiresAtUnix ∧ ∃ decoded, decodeTransportFrame frame = .ok decoded ∧
        (ReplayWindow.new.observe decoded.packetNumber).1 = true := by
  have hp : (core.resetDirection (some session) .inbound).Passes .inbound now ↔
      now < session.expiresAtUnix := by
    constructor
    · intro h
      obtain ⟨other, ho⟩ := h hr
      cases ho.installed
      exact ho.unexpired
    · intro h _
      exact ⟨session, rfl, h, fun hpo => hpo⟩
  rw [Accepts, hp]
  rfl

theorem accepts_installPeerSession_iff (hr : core.requirePeerSession = true)
    (session : InstalledPeerSession) (now : UInt64) (frame : Bytes) :
    (core.installPeerSession session).2.Accepts now frame ↔ core.Admits now session frame := by
  rcases core.installPeerSession_cases session with ⟨hk, hs⟩ | ⟨hn, hne⟩
  · rw [hs, Admits, if_pos (.inr hk)]
  rw [hne]
  cases hd : session.direction with
  | outbound =>
    rw [Admits, if_pos (.inl hd)]
    exact accepts_congr rfl rfl rfl rfl
  | inbound =>
    rw [Admits, if_neg (by simp [hd, hn])]
    exact accepts_resetDirection hr

end QuantumLink.Packet.PacketTunnelCore

namespace QuantumLink

open QuantumLink.Packet

/-! ## SteamOS -/

namespace SteamOs

/-- A frame under a lease of the peer that is not newer than the generation. -/
def Old (peerId : String) (generation : UInt64) : Input → Prop
  | .inbound _ inbound _ =>
    inbound.peerSession.peerId = peerId ∧ inbound.peerSession.generation ≤ generation
  | _ => False

/-- No old frame of the inputs has its packet handed to the device. -/
def StaysDead (peerId : String) (generation : UInt64) (self : DataPlaneRuntime)
    (inputs : List Input) : Prop :=
  Along inputStep (fun self input =>
    Old peerId generation input → (inputStep self input).2.tun = self.tun) self inputs

/-- The core takes the frame once its lease has been offered. -/
def Readmits (self : DataPlaneRuntime) (now : UInt64) (inbound : InboundTransportFrame) : Prop :=
  ∃ core, self.pump.core = some core ∧ core.Admits now inbound.peerSession inbound.frame

theorem tun_receive_eq_iff (h : Resting self) (now : UInt64)
    (inbound : InboundTransportFrame) (w : List (Option String)) :
    (DataPlaneRuntime.receive now inbound w self).2.tun = self.tun ↔
      ¬ Readmits self now inbound := by
  obtain ⟨c, hc, hq⟩ := h
  have hd := PacketTunnelCore.accepts_installPeerSession_iff hq.required
    inbound.peerSession now inbound.frame
  have hr : Readmits self now inbound ↔
      c.Admits now inbound.peerSession inbound.frame := by
    simp [Readmits, hc]
  rw [hr, ← hd]
  rcases (receive_outcome hc hq now inbound w).2 with
    ⟨ha, packet, ht⟩ | ⟨he, ht⟩
  · rw [ht]
    exact iff_of_false (fun hs => by simpa using congrArg List.length hs) (by simpa using ha)
  · exact iff_of_true ht he

def Revives (self : DataPlaneRuntime) : Input → Prop
  | .inbound now inbound _ => Readmits self now inbound
  | _ => False

theorem staysDead_iff (h : Resting self) (p : String) (g : UInt64) (inputs : List Input) :
    StaysDead p g self inputs ↔
      Along inputStep (fun self input => Old p g input → ¬ Revives self input) self inputs := by
  refine along_congr Resting (fun _ input h => resting_inputStep h input) ?_ h inputs
  intro self input hr
  cases input with
  | inbound now inbound writes =>
    exact imp_congr_right fun _ => tun_receive_eq_iff hr now inbound writes
  | update update | status status => exact iff_of_true nofun nofun
  | readError error | outbound now sink packet => exact iff_of_true nofun nofun

end SteamOs

/-! ## Windows -/

namespace Windows

/-- A frame under a lease of the peer that is not newer than the generation. -/
def Old (peerId : String) (generation : UInt64) : Event → Prop
  | .accept _ _ _ (some session) => session.peerId = peerId ∧ session.generation ≤ generation
  | _ => False

/-- No old frame of the events is accepted. -/
def StaysDead (peerId : String) (generation : UInt64) (self : TunnelPacketPump)
    (events : List Event) : Prop :=
  Along step (fun self event =>
    Old peerId generation event → (step self event).1 ≠ .accepted (.ok ())) self events

/-- The pump and the core both take the lease of the frame, and the core then takes the frame. -/
def Readmits (self : TunnelPacketPump) (now : UInt64) (frame : Bytes) (peerId : Option String)
    (session : InstalledPeerSession) : Prop :=
  self.Attributed peerId session ∧ ¬ self.Stale session ∧
    ∃ core, self.core = some core ∧ ¬ core.Refuses session ∧ core.Admits now session frame

def Revives (self : TunnelPacketPump) : Event → Prop
  | .accept now frame peerId (some session) => Readmits self now frame peerId session
  | _ => False

def Gated (self : TunnelPacketPump) : Prop :=
  ∃ core, self.core = some core ∧ core.requirePeerSession = true

theorem gated_step (h : Gated self) (e : Event) : Gated (step self e).2 := by
  obtain ⟨c, hc, hr⟩ := h
  obtain ⟨n, hn, he⟩ := TunnelPacketPump.drives_step hc e
  exact ⟨n, hn, he.requirePeerSession.trans hr⟩

theorem gated_run (p : RoutePolicy) (ev : List Event) :
    Gated (run step (.new (some (.initial p true))) ev) :=
  run_invariant Gated (fun _ e h => gated_step h e) ⟨_, rfl, rfl⟩ ev

theorem accept_refused_iff (h : Gated self) (now : UInt64) (frame : Bytes)
    (p : Option String) (session : InstalledPeerSession) :
    (step self (.accept now frame p (some session))).1 ≠ .accepted (.ok ()) ↔
      ¬ Readmits self now frame p session := by
  obtain ⟨c, hc, hr⟩ := h
  have ha : (step self (.accept now frame p (some session))).1 = .accepted (.ok ()) ↔
      (self.acceptTransportFrame now frame p (some session)).1 = .ok () :=
    ⟨Answer.accepted.inj, congrArg Answer.accepted⟩
  rw [Ne, ha, TunnelPacketPump.acceptTransportFrame_ok_iff hc hr,
    PacketTunnelCore.accepts_installPeerSession_iff hr]
  simp [Readmits, hc]

theorem staysDead_iff (h : Gated self) (pe : String) (g : UInt64) (events : List Event) :
    StaysDead pe g self events ↔
      Along step (fun self event => Old pe g event → ¬ Revives self event) self events := by
  refine along_congr Gated (fun _ event h => gated_step h event) ?_ h events
  intro self event hg
  cases event with
  | accept now f a o =>
    cases o with
    | none => exact iff_of_true nofun nofun
    | some s =>
      exact imp_congr_right fun _ => accept_refused_iff hg now f a s
  | install s | clear pe d g => exact iff_of_true nofun nofun
  | clearAll | handle p si => exact iff_of_true nofun nofun
  | popTunnel => exact iff_of_true nofun nofun

end Windows

/-- On both planes: after the clear of an installed lease, no frame under a lease of the peer that
is not newer gets through exactly if none is admitted as it arrives. -/
theorem cleared_lease_dead_iff (policy : RoutePolicy) (peerId : String) (generation : UInt64) :
    (∀ before after : List SteamOs.Input,
      let self := run SteamOs.inputStep (.new (.initial policy true)) before
      let cleared := (SteamOs.inputStep self (.update (.cleared peerId .inbound generation))).2
      (∃ core, self.pump.core = some core ∧ core.Matches peerId .inbound generation) →
      (SteamOs.StaysDead peerId generation cleared after ↔
        Along SteamOs.inputStep (fun self input =>
          SteamOs.Old peerId generation input → ¬ SteamOs.Revives self input) cleared after)) ∧
    ∀ before after : List Windows.Event,
      let self := run Windows.step (.new (some (.initial policy true))) before
      let cleared := (Windows.step self (.clear peerId .inbound generation)).2
      (self.clearPeerSession peerId .inbound generation).1 = true →
      (Windows.StaysDead peerId generation cleared after ↔ Along Windows.step (fun self e =>
          Windows.Old peerId generation e → ¬ Windows.Revives self e) cleared after) := by
  refine ⟨?_, ?_⟩
  · intro before after self cleared _
    exact SteamOs.staysDead_iff (SteamOs.resting_inputStep (SteamOs.resting_run policy before) _)
      peerId generation after
  · intro before after self cleared _
    exact Windows.staysDead_iff (Windows.gated_step (Windows.gated_run policy before) _)
      peerId generation after

/-! ## Runs of each plane -/

def steamInputs : List SteamOs.Input := [.update (.ready (sampleSession "peer-b" .inbound 2))]

def steamReady : SteamOs.DataPlaneRuntime :=
  run SteamOs.inputStep (.new (.initial samplePolicy true)) steamInputs

def steamCleared : SteamOs.DataPlaneRuntime :=
  (SteamOs.inputStep steamReady (.update (.cleared "peer-b" .inbound 2))).2

def windowsEvents : List Windows.Event :=
  [.install (sampleSession "peer-b" .outbound 1), .install (sampleSession "peer-b" .inbound 2)]

def windowsReady : Windows.TunnelPacketPump :=
  run Windows.step (.new (some (.initial samplePolicy true))) windowsEvents

def windowsCleared : Windows.TunnelPacketPump :=
  (Windows.step windowsReady (.clear "peer-b" .inbound 2)).2

def sampleInbound : SteamOs.InboundTransportFrame :=
  ⟨transportFrame 1 2 [0x45], sampleSession "peer-b" .inbound 2⟩

def sampleArrival : Windows.Event :=
  .accept 10 (transportFrame 1 2 [0x45]) (some "peer-b") (some (sampleSession "peer-b" .inbound 2))

theorem steamReady_matches :
    ∃ core, steamReady.pump.core = some core ∧ core.Matches "peer-b" .inbound 2 :=
  ⟨_, rfl, by decide +kernel⟩

theorem windowsReady_clears : (windowsReady.clearPeerSession "peer-b" .inbound 2).1 = true := by
  decide +kernel

/-- A frame under the cleared lease gets through, on both planes. -/
theorem cleared_lease_revived :
    (∃ core, steamReady.pump.core = some core ∧ core.Matches "peer-b" .inbound 2) ∧
      ¬ SteamOs.StaysDead "peer-b" 2 steamCleared [.inbound 10 sampleInbound []] ∧
      (windowsReady.clearPeerSession "peer-b" .inbound 2).1 = true ∧
      ¬ Windows.StaysDead "peer-b" 2 windowsCleared [sampleArrival] := by
  refine ⟨steamReady_matches, fun hd => ?_, windowsReady_clears, fun hd => ?_⟩
  · exact absurd (hd.1 ⟨rfl, by decide⟩) (by decide +kernel)
  · have ha : (windowsCleared.acceptTransportFrame 10 (transportFrame 1 2 [0x45])
        (some "peer-b") (some (sampleSession "peer-b" .inbound 2))).1 = .ok () := by
      decide +kernel
    exact hd.1 ⟨rfl, by decide⟩ (congrArg Windows.Answer.accepted ha)

/-- An expired lease on SteamOS, and on Windows a newer one, keep the frame out. -/
theorem cleared_lease_kept_out :
    SteamOs.StaysDead "peer-b" 2 steamCleared [.inbound 200 sampleInbound []] ∧
      Windows.StaysDead "peer-b" 2 windowsCleared
        [.install (sampleSession "peer-b" .inbound 3), sampleArrival] := by
  have hi := cleared_lease_dead_iff samplePolicy "peer-b" 2
  refine ⟨(hi.1 steamInputs _ steamReady_matches).mpr ⟨fun _ => ?_, trivial⟩,
    (hi.2 windowsEvents _ windowsReady_clears).mpr ⟨nofun, fun _ => ?_, trivial⟩⟩
  · rintro ⟨c, hc, ha⟩
    cases hc
    rw [PacketTunnelCore.Admits, if_neg (by decide +kernel)] at ha
    exact absurd ha.1 (by decide)
  · rintro ⟨_, hf, _⟩
    exact hf ⟨sampleSession "peer-b" .inbound 3, by decide +kernel, by decide, by decide⟩

end QuantumLink
