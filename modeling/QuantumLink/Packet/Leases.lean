import QuantumLink.Packet.Gate

/-! # Leases and what they cover

An installed session is a lease: a peer, a generation and a transcript binding. Two questions
about leases over whole runs. Is a packet number accepted at most once under a lease? Not if a
lease is installed again after it was cleared or replaced, since every install starts a new
replay window. Does a frame leave only under the lease it was queued for? Not if the slot
changes or the lease expires while frames are queued, since a pop looks at neither. Both hold
for runs without these steps.
-/

namespace QuantumLink.Packet

open Device (QlinkError)
open QuantumLink.Frame (ReplayWindow)
open List Event
open PacketTunnelCore
open InstalledPeerSession

/-! ## Packet numbers under one lease -/

structure LeaseKey where
  peerId : String
  generation : UInt64
  transcriptBinding : Bytes
deriving DecidableEq

variable (session : InstalledPeerSession)

def InstalledPeerSession.key : LeaseKey :=
  ⟨session.peerId, session.generation, session.transcriptBinding⟩

def acceptedNumber (core : PacketTunnelCore) : Event → Option (Option LeaseKey × Nat)
  | .accept now frame =>
    match core.acceptTransportFrame now frame, decodeTransportFrame frame with
    | (.ok _, _), .ok decoded =>
      some (core.inboundPeerSession.map key, decoded.packetNumber)
    | _, _ => none
  | _ => none

def acceptedNumbers (core : PacketTunnelCore) (events : List Event) :
    List (Option LeaseKey × Nat) :=
  observed step acceptedNumber core events

/-- Everything a call can do to the inbound slot and the replay window. -/
inductive InboundMove (core : PacketTunnelCore) (event : Event) (next : PacketTunnelCore) : Prop
  | idle (hnone : acceptedNumber core event = none)
      (hslot : next.inboundPeerSession = core.inboundPeerSession)
      (hwindow : next.replayWindow = core.replayWindow)
  | reset (hnone : acceptedNumber core event = none) (hwindow : next.replayWindow = ReplayWindow.new)
      (horigin : ∀ session, next.inboundPeerSession = some session →
        event = .install session ∧ session.direction = .inbound ∧ ¬ core.Keeps session)
  | accepted (now : UInt64) (decoded : DecodedFrame) (hpasses : core.Passes .inbound now)
      (hnew : (core.replayWindow.observe decoded.packetNumber).1 = true)
      (hnoted : acceptedNumber core event =
        some (core.inboundPeerSession.map key, decoded.packetNumber))
      (hslot : next.inboundPeerSession = core.inboundPeerSession)
      (hwindow : next.replayWindow = (core.replayWindow.observe decoded.packetNumber).2)

variable {core : PacketTunnelCore} {event : Event}

theorem acceptedNumber_of_quiet (h : Quiet core event) : acceptedNumber core event = none := by
  unfold acceptedNumber
  split
  · split
    · rename_i hr _
      exact absurd (congrArg Prod.fst hr) h
    · rfl
  · rfl

theorem step_inbound (core : PacketTunnelCore) (event : Event) :
    InboundMove core event (step core event).2 := by
  have hs := step_stepped core event
  generalize (step core event).2 = next at hs ⊢
  cases hs with
  | quiet f hq => exact .idle (acceptedNumber_of_quiet hq) rfl rfl
  | reset s d hq _ hl =>
    cases d with
    | outbound => exact .idle (acceptedNumber_of_quiet hq) rfl rfl
    | inbound => exact .reset (acceptedNumber_of_quiet hq) rfl hl
  | cleared he => exact .reset (he ▸ rfl) rfl nofun
  | queued he _ _ hn => exact .idle (he ▸ rfl) (hn ▸ rfl) (hn ▸ rfl)
  | @accepted now fr de _ he hp hd hne hn hr =>
    refine .accepted now de hp hne ?_ (hn ▸ rfl) (hn ▸ rfl)
    simp [he, acceptedNumber, hr, hd]
  | poppedFrame now he | poppedPacket he => exact .idle (he ▸ rfl) rfl rfl

/-- Every inbound session that replaces the slot is under a lease not installed before. -/
def FreshLeases (policy : RoutePolicy) (events : List Event) : Prop :=
  ∀ front session back, events = front ++ .install session :: back →
    session.direction = .inbound →
    (run step (.initial policy true) front).Keeps session ∨
      ∀ earlier, install earlier ∈ front → earlier.direction = .inbound → earlier.key ≠ session.key

/-- The replay window stands for the numbers accepted under the installed lease. -/
structure LeaseInvariant (events : List Event) (core : PacketTunnelCore)
    (log : List (Option LeaseKey × Nat)) : Prop where
  required : core.requirePeerSession = true
  installed : ∀ session, core.inboundPeerSession = some session →
    install session ∈ events ∧ session.direction = .inbound
  logged : ∀ entry ∈ log, ∃ session, install session ∈ events ∧
    session.direction = .inbound ∧ entry.1 = some session.key
  window : ∀ session, core.inboundPeerSession = some session →
    SlidingWindow.Tracks core.replayWindow {n | (some session.key, n) ∈ log}
  once : log.Nodup

variable {policy : RoutePolicy} {events : List Event}

theorem leaseInvariant_step (h : LeaseInvariant events (run step (.initial policy true) events) log)
    (hf : FreshLeases policy (events ++ [event])) :
    LeaseInvariant (events ++ [event]) (step (run step (.initial policy true) events) event).2
      (log ++ (acceptedNumber (run step (.initial policy true) events) event).toList) := by
  have hr := (step_requirePeerSession (run step (.initial policy true) events) event).trans
    h.required
  have hm {session : InstalledPeerSession} (hol : install session ∈ events) :
      install session ∈ events ++ [event] := mem_append_left _ hol
  have hl : ∀ e ∈ log, ∃ session, install session ∈ events ++ [event] ∧
      session.direction = .inbound ∧ e.1 = some session.key := by
    intro e he
    obtain ⟨session, hi, hre⟩ := h.logged e he
    exact ⟨session, hm hi, hre⟩
  have hmo := step_inbound (run step (.initial policy true) events) event
  generalize hc : run step (.initial policy true) events = core at *
  cases hmo with
  | idle hno hs hw =>
    rw [hno, Option.toList_none, append_nil]
    refine ⟨hr, ?_, hl, ?_, h.once⟩
    · intro session hse
      obtain ⟨hi, hd⟩ := h.installed session (hs ▸ hse)
      exact ⟨hm hi, hd⟩
    · intro session hse
      rw [hw]
      exact h.window session (hs ▸ hse)
  | reset hno hw ho =>
    rw [hno, Option.toList_none, append_nil]
    refine ⟨hr, ?_, hl, ?_, h.once⟩
    · intro session hse
      obtain ⟨hv, hd, _⟩ := ho session hse
      exact ⟨hv ▸ mem_append_right _ mem_cons_self, hd⟩
    · -- The lease is new, so nothing was accepted under it yet.
      intro session hse
      obtain ⟨rfl, hd, hk⟩ := ho session hse
      have hem : {n | (some session.key, n) ∈ log} = ∅ := by
        apply Set.eq_empty_iff_forall_notMem.mpr
        intro n hn
        obtain ⟨ea, hi, hin, hy⟩ := h.logged _ hn
        rcases hf events session [] rfl hd with hke | hne
        · exact hk (hc ▸ hke)
        · exact hne ea hi hin (Option.some.inj hy).symm
      rw [hem, hw]
      exact SlidingWindow.tracks_empty 128
  | accepted now d hp hne hnot hs hw =>
    obtain ⟨session, hope⟩ := hp h.required
    have hinst : core.inboundPeerSession = some session := hope.installed
    rw [hinst, Option.map_some] at hnot
    have hnoti : (some session.key, d.packetNumber) ∉ log :=
      (((h.window session hinst).observe_iff (by decide)).mp hne).1
    rw [hnot, Option.toList_some]
    refine ⟨hr, ?_, ?_, ?_, ?_⟩
    · intro o ht
      obtain ⟨hi, hd⟩ := h.installed o (hs ▸ ht)
      exact ⟨hm hi, hd⟩
    · intro e he
      rcases mem_append.mp he with hol | ha
      · exact hl e hol
      · obtain ⟨hi, hd⟩ := h.installed session hinst
        rw [mem_singleton.mp ha]
        exact ⟨session, hm hi, hd, rfl⟩
    · intro o ht
      cases hinst.symm.trans (hs ▸ ht)
      have hins : {n | (some session.key, n) ∈ log ++ [(some session.key, d.packetNumber)]} =
          insert d.packetNumber {n | (some session.key, n) ∈ log} := by
        ext n
        simp [or_comm]
      rw [hins, hw]
      exact (h.window session hinst).observe_accepted (by decide) hne
    · rw [← concat_eq_append]
      exact h.once.concat hnoti

theorem freshLeases_front
    (h : FreshLeases policy (front ++ [event])) : FreshLeases policy front := by
  intro b s a heq
  refine h b s (a ++ [event]) ?_
  rw [heq, append_assoc, cons_append]

theorem run_leaseInvariant (policy : RoutePolicy) (events : List Event)
    (h : FreshLeases policy events) :
    LeaseInvariant events (run step (.initial policy true) events)
      (acceptedNumbers (.initial policy true) events) := by
  induction events using reverseRecOn with
  | nil => exact ⟨rfl, nofun, nofun, nofun, nodup_nil⟩
  | append_singleton events e ih =>
    rw [acceptedNumbers, observed_concat, run_concat]
    exact leaseInvariant_step (ih (freshLeases_front h)) h

theorem freshLeases_nil (policy : RoutePolicy) : FreshLeases policy [] := by
  intro f s b heq
  cases f <;> cases heq

theorem freshLeases_concat (h : FreshLeases policy events) (event : Event)
    (hl : ∀ session, event = .install session → session.direction = .inbound →
      (run step (.initial policy true) events).Keeps session ∨
        ∀ earlier, install earlier ∈ events → earlier.direction = .inbound →
          earlier.key ≠ session.key) : FreshLeases policy (events ++ [event]) := by
  intro f session ba heq
  rcases eq_nil_or_concat ba with rfl | ⟨b, l, rfl⟩
  · obtain ⟨rfl, he⟩ := append_inj' heq rfl
    exact hl session (singleton_inj.mp he)
  · refine h f session b ?_
    have hc : events ++ [event] = (f ++ .install session :: b) ++ [l] := by
      rw [heq, concat_eq_append, append_assoc, cons_append]
    exact (append_inj' hc rfl).1

/-- In a run that installs no lease a second time, a packet number is accepted at most once under
each lease. -/
theorem accepted_once_under_fresh_leases (policy : RoutePolicy) (events : List Event)
    (h : FreshLeases policy events) : (acceptedNumbers (.initial policy true) events).Nodup :=
  (run_leaseInvariant policy events h).once

def samplePolicy : RoutePolicy := ⟨.fullTunnel, [], []⟩

def sampleSession (peerId : String) (direction : PeerSessionDirection) (generation : UInt64) :
    InstalledPeerSession :=
  ⟨peerId, direction, generation, replicate 32 7, 100, 0⟩

/-- The lease is renewed under a new generation, which accepts the number again. -/
def renewedLease : List Event :=
  [.install (sampleSession "peer-b" .inbound 1), .accept 10 (transportFrame 1 2 []),
    .clearDirection .inbound, .install (sampleSession "peer-b" .inbound 2),
    .accept 10 (transportFrame 1 2 [])]

theorem freshLeases_renewedLease : FreshLeases samplePolicy renewedLease := by
  have h1 : FreshLeases samplePolicy [.install (sampleSession "peer-b" .inbound 1)] :=
    freshLeases_concat (freshLeases_nil samplePolicy) _ fun _ _ _ => .inr nofun
  have h2 := freshLeases_concat h1 (.accept 10 (transportFrame 1 2 [])) nofun
  have h3 := freshLeases_concat h2 (.clearDirection .inbound) nofun
  have h4 := freshLeases_concat h3 (.install (sampleSession "peer-b" .inbound 2)) ?_
  · exact freshLeases_concat h4 (.accept 10 (transportFrame 1 2 [])) nofun
  intro s hs _
  obtain rfl := install.inj hs
  refine .inr fun e he _ => ?_
  have hf : e = sampleSession "peer-b" .inbound 1 := by simpa using he
  rw [hf]
  decide

theorem renewedLease_accepted_once : acceptedNumbers (.initial samplePolicy true) renewedLease =
        [(some (sampleSession "peer-b" .inbound 1).key, 1),
          (some (sampleSession "peer-b" .inbound 2).key, 1)] ∧
      (acceptedNumbers (.initial samplePolicy true) renewedLease).Nodup :=
  ⟨by decide +kernel,
    accepted_once_under_fresh_leases samplePolicy renewedLease freshLeases_renewedLease⟩

/-- A lease that is cleared and installed again accepts the same number again. -/
theorem reinstalled_lease_accepts_again : acceptedNumbers (.initial samplePolicy true)
        [.install (sampleSession "peer-b" .inbound 1), .accept 10 (transportFrame 1 2 []),
          .clearDirection .inbound, .install (sampleSession "peer-b" .inbound 1),
          .accept 10 (transportFrame 1 2 [])] =
      [(some (sampleSession "peer-b" .inbound 1).key, 1),
        (some (sampleSession "peer-b" .inbound 1).key, 1)] := by
  decide +kernel

/-! ## Frames under one lease -/

/-- The peer and the generation a frame is queued for. -/
def InstalledPeerSession.lease : String × UInt64 :=
  (session.peerId, session.generation)

/-- The frames in the outbox, each with the outbound lease installed when it was queued. -/
def recordQueue (core : PacketTunnelCore) (event : Event)
    (queue : List (Bytes × Option (String × UInt64))) :
    List (Bytes × Option (String × UInt64)) :=
  match event with
  | .submit now protocolFamily packet =>
    match core.submitTunnelPacket now protocolFamily packet with
    | (.ok .queuedForTransport, next) =>
      queue ++ next.transportOutbox.getLast?.toList.map fun frame =>
        (frame, core.outboundPeerSession.map lease)
    | _ => queue
  | .popTransport _ => queue.tail
  | _ => queue

def queued (core : PacketTunnelCore) (events : List Event) :
    List (Bytes × Option (String × UInt64)) :=
  (run (withRecord step recordQueue) (core, []) events).2

/-- A frame that is popped leaves under the lease it was queued for, before that expires. -/
def PopsUnderLease (core : PacketTunnelCore) (events : List Event) : Prop :=
  ∀ front now back, events = front ++ .popTransport now :: back →
    ∀ frame, (run step core front).popTransportFrame.1 = some frame →
      ∃ session, (run step core front).outboundPeerSession = some session ∧
        (queued core front).head? = some (frame, some session.lease) ∧ now < session.expiresAtUnix

/-- The slot changes only while no frame is queued, and a frame is popped only before the
installed session expires. -/
def Orderly (core : PacketTunnelCore) (event : Event) : Prop :=
  core.transportOutbox ≠ [] →
    ¬ Resets core .outbound event ∧
      ∀ now session, event = .popTransport now → core.outboundPeerSession = some session →
        now < session.expiresAtUnix

/-- Everything in the outbox is recorded, under the installed lease. -/
structure QueueInvariant (s : PacketTunnelCore × List (Bytes × Option (String × UInt64))) : Prop where
  required : s.1.requirePeerSession = true
  recorded : s.1.transportOutbox = s.2.map Prod.fst
  leased : ∀ entry ∈ s.2, ∃ session, s.1.outboundPeerSession = some session ∧
    entry.2 = some session.lease

/-- Everything a call can do to the outbox and the outbound slot. -/
inductive OutboxMove (core : PacketTunnelCore) (event : Event) (next : PacketTunnelCore)
    (queue after : List (Bytes × Option (String × UInt64))) : Prop
  | idle (hqueue : after = queue) (houtbox : next.transportOutbox = core.transportOutbox)
      (hslot : Resets core .outbound event ∨ next.outboundPeerSession = core.outboundPeerSession)
  | queued (now : UInt64) (frame : Bytes) (hpasses : core.Passes .outbound now)
      (hqueue : after = queue ++ [(frame, core.outboundPeerSession.map lease)])
      (houtbox : next.transportOutbox = core.transportOutbox ++ [frame])
      (hslot : next.outboundPeerSession = core.outboundPeerSession)
  | popped (hqueue : after = queue.tail)
      (houtbox : next.transportOutbox = core.transportOutbox.tail)
      (hslot : next.outboundPeerSession = core.outboundPeerSession)

theorem recordQueue_of_quiet (h : Quiet core event)
    (queue : List (Bytes × Option (String × UInt64))) : recordQueue core event queue = queue := by
  unfold recordQueue
  split
  · split
    · rename_i hr
      exact absurd (congrArg Prod.fst hr) h
    · rfl
  · exact h.elim
  · rfl

theorem step_outbox (core : PacketTunnelCore) (q : List (Bytes × Option (String × UInt64)))
    (event : Event) : OutboxMove core event (step core event).2 q (recordQueue core event q) := by
  have hs := step_stepped core event
  generalize (step core event).2 = next at hs ⊢
  cases hs with
  | quiet f hq => exact .idle (recordQueue_of_quiet hq q) rfl (.inr rfl)
  | reset s d hq hre =>
    have hu := recordQueue_of_quiet hq q
    cases d with
    | outbound => exact .idle hu rfl (.inl ((hre _).mpr rfl))
    | inbound => exact .idle hu rfl (.inr rfl)
  | cleared he =>
    subst he
    exact .idle rfl rfl (.inl trivial)
  | @queued now p pa n _ he hp _ hn hr =>
    refine .queued now (transportFrame core.nextPacketNumber p n) hp ?_
      (hn ▸ rfl) (hn ▸ rfl)
    simp [he, recordQueue, hr, hn, enqueueFrame]
  | accepted he _ _ _ hn =>
    exact .idle (he ▸ rfl) (hn ▸ rfl) (.inr (hn ▸ rfl))
  | poppedFrame now he => exact .popped (he ▸ rfl) rfl rfl
  | poppedPacket he => exact .idle (he ▸ rfl) rfl (.inr rfl)

theorem queueInvariant_step
    (s : PacketTunnelCore × List (Bytes × Option (String × UInt64))) (event : Event)
    (h : QueueInvariant s) (hor : Orderly s.1 event) :
    QueueInvariant (withRecord step recordQueue s event).2 := by
  obtain ⟨c, q⟩ := s
  have hre : (step c event).2.requirePeerSession = true :=
    (step_requirePeerSession c event).trans h.required
  have hr : c.transportOutbox = q.map Prod.fst := h.recorded
  show QueueInvariant ((step c event).2, recordQueue c event q)
  cases step_outbox c q event with
  | idle hq ho hs =>
    rw [hq]
    refine ⟨hre, ho.trans hr, ?_⟩
    intro e he
    obtain ⟨session, hse, hl⟩ := h.leased e he
    rcases hs with hres | hs
    · -- A reset means that nothing was queued.
      have hn : c.transportOutbox ≠ [] := by
        rw [hr]
        exact ne_nil_of_mem (mem_map_of_mem he)
      exact absurd hres (hor hn).1
    · exact ⟨session, hs.trans hse, hl⟩
  | queued now f hp hq ho hs =>
    rw [hq]
    refine ⟨hre, ?_, ?_⟩
    · show (step c event).2.transportOutbox = _
      rw [ho, hr, map_append, map_singleton]
    intro e he
    rcases mem_append.mp he with hol | ha
    · obtain ⟨session, hse, hl⟩ := h.leased e hol
      exact ⟨session, hs.trans hse, hl⟩
    · obtain ⟨session, hope⟩ := hp h.required
      have hi : c.outboundPeerSession = some session := hope.installed
      rw [mem_singleton.mp ha, hi]
      exact ⟨session, hs.trans hi, rfl⟩
  | popped hq ho hs =>
    rw [hq]
    refine ⟨hre, ?_, ?_⟩
    · show (step c event).2.transportOutbox = _
      rw [ho, hr, map_tail]
    intro e he
    obtain ⟨session, hse, hl⟩ := h.leased e (mem_of_mem_tail he)
    exact ⟨session, hs.trans hse, hl⟩

theorem run_queueInvariant (policy : RoutePolicy)
    (h : Along step Orderly (.initial policy true) events) :
    QueueInvariant (run (withRecord step recordQueue) (.initial policy true, []) events) := by
  refine run_invariant_along QueueInvariant queueInvariant_step
    ⟨rfl, rfl, fun _ hm => absurd hm not_mem_nil⟩ ?_
  exact (along_withRecord step recordQueue Orderly (.initial policy true, []) events).mpr h

/-- In an orderly run every frame leaves under the lease it was queued for. -/
theorem orderly_pops_under_lease (policy : RoutePolicy) (events : List Event)
    (h : Along step Orderly (.initial policy true) events) :
    PopsUnderLease (.initial policy true) events := by
  intro front now b heq frame hfr
  rw [heq, along_append] at h
  obtain ⟨ho, hp, _⟩ := h
  have hi := run_queueInvariant policy ho
  have hs := run_withRecord_fst step recordQueue (.initial policy true, []) front
  have hr := hi.recorded
  rw [hs] at hr
  have hh : (run step (.initial policy true) front).transportOutbox.head? = some frame := hfr
  have hn : (run step (.initial policy true) front).transportOutbox ≠ [] := by
    intro hni
    rw [hni] at hh
    cases hh
  cases hq : (queued (.initial policy true) front) with
  | nil => exact absurd (hr.trans (congrArg (map Prod.fst) hq)) hn
  | cons e r =>
    have hf : e ∈ queued (.initial policy true) front := hq ▸ mem_cons_self
    obtain ⟨s, he, hl⟩ := hi.leased e hf
    rw [hs] at he
    have ha : e.1 = frame := by
      have hc := hr.trans (congrArg (map Prod.fst) hq)
      rw [hc, map_cons, head?_cons] at hh
      exact Option.some.inj hh
    refine ⟨s, he, ?_, (hp hn).2 now s rfl he⟩
    rw [head?_cons, ← ha, ← hl]

/-- A header of twenty bytes from 10.0.0.1 to 10.0.0.2. -/
def samplePacket : Bytes :=
  [0x45, 0, 0, 20, 0, 0, 0, 0, 64, 17, 0, 0, 10, 0, 0, 1, 10, 0, 0, 2]

theorem normalizable_samplePacket : Normalizable samplePacket :=
  ⟨by decide, by decide, by decide, by decide⟩

theorem submit_samplePacket (ho : core.policy = samplePolicy) (hp : core.Passes .outbound now) :
    ∃ frame, core.submitTunnelPacket now 2 samplePacket =
      (.ok .queuedForTransport, (core.count countFromTunnel).enqueueFrame frame) := by
  have hd : ipv4Destination samplePacket = some 0x0a000002 := by decide
  have hro : core.policy.protects 0x0a000002 = true := by
    rw [ho]
    decide
  obtain ⟨a, n, hr, hc⟩ := core.submitTunnelPacket_cases now 2 samplePacket
  cases hc with
  | malformed h => cases hd.symm.trans h
  | unprotected d h hfa =>
    cases hd.symm.trans h
    cases hro.symm.trans hfa
  | blocked _ _ _ hb => exact absurd hp hb
  | refused _ _ _ _ _ hfr =>
    rcases hfr with hh | hf | hl
    · exact absurd normalizable_samplePacket hh
    · exact absurd hf (by decide)
    · exact absurd hl (by decide)
  | queued _ _ _ _ _ _ _ _ ha hn => exact ⟨_, ha ▸ hn ▸ hr⟩

def sampleLeased : PacketTunnelCore :=
  (initial samplePolicy true).resetDirection
    (some (sampleSession "peer-a" .outbound 1)) .outbound

theorem submit_sampleLeased : ∃ frame, sampleLeased.submitTunnelPacket 10 2 samplePacket =
      (.ok .queuedForTransport, (sampleLeased.count countFromTunnel).enqueueFrame frame) := by
  refine submit_samplePacket rfl ?_
  intro _
  exact ⟨sampleSession "peer-a" .outbound 1, rfl, by decide, nofun⟩

theorem step_install_sampleLeased :
    step (.initial samplePolicy true) (.install (sampleSession "peer-a" .outbound 1)) =
      (.flag true, sampleLeased) := rfl

theorem step_submit_sampleLeased
    (h : sampleLeased.submitTunnelPacket 10 2 samplePacket = (.ok .queuedForTransport,
        (sampleLeased.count countFromTunnel).enqueueFrame frame)) :
    step sampleLeased (.submit 10 2 samplePacket) = (.submitted (.ok .queuedForTransport),
      (sampleLeased.count countFromTunnel).enqueueFrame frame) :=
  congrArg (fun a => (Answer.submitted a.1, a.2)) h

theorem sample_orderly_pops_under_lease : Along step Orderly (.initial samplePolicy true)
        [.install (sampleSession "peer-a" .outbound 1), .submit 10 2 samplePacket,
          .popTransport 20, .clearDirection .outbound] ∧
      PopsUnderLease (.initial samplePolicy true)
        [.install (sampleSession "peer-a" .outbound 1), .submit 10 2 samplePacket,
          .popTransport 20, .clearDirection .outbound] := by
  have ha : Along step Orderly (.initial samplePolicy true)
      [.install (sampleSession "peer-a" .outbound 1), .submit 10 2 samplePacket,
        .popTransport 20, .clearDirection .outbound] := by
    obtain ⟨f, hf⟩ := submit_sampleLeased
    simp only [Along, step_install_sampleLeased, step_submit_sampleLeased hf, and_true]
    refine ⟨fun hne => absurd rfl hne, fun hne => absurd rfl hne, ?_, fun hne => absurd rfl hne⟩
    refine fun _ => ⟨id, ?_⟩
    intro now s he hs
    obtain rfl := popTransport.inj he
    cases hs
    decide
  exact ⟨ha, orderly_pops_under_lease samplePolicy _ ha⟩

/-- A frame queued under a lease is popped after the lease is cleared. -/
theorem cleared_lease_frame_popped : ¬ PopsUnderLease (.initial samplePolicy true)
      [.install (sampleSession "peer-a" .outbound 1), .submit 10 2 samplePacket,
        .clearDirection .outbound, .popTransport 10] := by
  intro h
  obtain ⟨f, hf⟩ := submit_sampleLeased
  have hr : run step (.initial samplePolicy true)
      [.install (sampleSession "peer-a" .outbound 1), .submit 10 2 samplePacket,
        .clearDirection .outbound] =
      ((sampleLeased.count countFromTunnel).enqueueFrame f).resetDirection none
        .outbound := by
    rw [run_cons, run_cons, step_install_sampleLeased, step_submit_sampleLeased hf]
    rfl
  obtain ⟨s, hs, _⟩ := h
    [.install (sampleSession "peer-a" .outbound 1), .submit 10 2 samplePacket,
      .clearDirection .outbound] 10 [] rfl f (hr ▸ rfl)
  rw [hr] at hs
  cases hs

end QuantumLink.Packet
