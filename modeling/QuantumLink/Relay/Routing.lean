import QuantumLink.Relay.Moves

/-! # Where datagrams go

A datagram that the relay writes to a connection was received on a connection registered under
its source, goes to the connection its destination maps to, and is written with the fields it
came with. The table of peers never exceeds its limit, and no peer id has two handlers.
-/

namespace QuantumLink.Relay

open Connection

variable {config : RelayConfig} {id : ConnId} {world : World} {limiter : AdmissionLimiter}

/-! ## The datagram a handler has in hand -/

/-- The datagram between its line and its forwarding. -/
def Connection.carried (conn : Connection) : Option Datagram :=
  match conn.point with
  | .authorizing d | .metering d | .counting d _ | .forwarding d => some d
  | _ => none

theorem Connection.carried_leave (c : Connection) (r : Except Device.QlinkError Unit) :
    (c.leave r).carried = none := by
  cases hp : c.registeredPeer with
  | none => rw [leave_of_none hp]; rfl
  | some p => rw [leave_of_some hp]; rfl

/-- A line leaves a handler with a datagram only if the line carries it and the handler is
registered under its source. -/
theorem Received.carried {conn conn' : Connection} (ho : conn.point = .reading)
    (hm : Received config id world reads limiter conn conn' sent) (h : conn'.carried = some d) :
    Carries config reads (.datagram d) ∧ conn.registeredPeer = some d.source := by
  cases hm with
  | stayed => simp [Connection.carried, ho] at h
  | left re | refused m hp hw => simp [Connection.carried_leave] at h
  | unwritten err hp hw | unreadable p a error hco hr => cases h
  | registering p a hp => cases h
  | authorizing r hc hs =>
    cases h
    exact ⟨hc, hs⟩

/-- No other step gives a handler a datagram. -/
theorem Resumed.carried (hm : Resumed config id world registry conn conn' sent registry')
    (h : conn'.carried = some d) : conn.carried = some d := by
  cases hm with
  | stayed hp => exact h
  | refused p a m hp => simp [Connection.carried_leave] at h
  | authorized _ hp | unmetered _ hp => simpa [Connection.carried, hp] using h
  | metered _ hp => simpa [Connection.carried, hp] using h
  | counted _ now conn' hp hn =>
    rcases hn with rfl | ⟨error, rfl⟩
    · simpa [Connection.carried, hp] using h
    · simp [Connection.carried_leave] at h
  | _ => cases h

/-! ## Where it came from -/

/-- The handler waits for a line, and its peer id maps to it. -/
def RegisteredAs (s : RelayState) (id : ConnId) (peerId : String) : Prop :=
  ∃ conn : Connection, s.connections[id]? = some conn ∧ conn.point = .reading ∧
    conn.registeredPeer = some peerId ∧ s.registry.peers.lookup peerId = some id

/-- The datagram came in a line of the run, on a connection registered under its source. -/
def ReceivedOn (config : RelayConfig) (events : List Event) (id : ConnId) (d : Datagram) : Prop :=
  ∃ earlier reads world later, events = earlier ++ .deliver id reads world :: later ∧
    Carries config reads (.datagram d) ∧
    RegisteredAs (run (step config) RelayState.new earlier) id d.source

theorem ReceivedOn.later (h : ReceivedOn config events id d) (ev : Event) :
    ReceivedOn config (events ++ [ev]) id d := by
  obtain ⟨e, r, w, later, rfl, hc, hr⟩ := h
  exact ⟨e, r, w, later ++ [ev], by simp, hc, hr⟩

theorem run_carried (config : RelayConfig) (ev : List Event) :
    ∀ (id : ConnId) (conn : Connection) (d : Datagram),
      (run (step config) RelayState.new ev).connections[id]? = some conn →
      conn.carried = some d → ReceivedOn config ev id d := by
  induction ev using List.reverseRecOn with
  | nil =>
    intro id conn d hco
    simp [RelayState.new] at hco
  | append_singleton ev e ih =>
    intro id conn d hco hc
    have hw := run_wellFormed config ev
    have ht := step_stepped config (run (step config) RelayState.new ev) e
    rw [run_concat] at hco
    generalize (step config (run (step config) RelayState.new ev) e).1 = sent at ht
    generalize (step config (run (step config) RelayState.new ev) e).2 = next
      at ht hco
    cases ht with
    | ignored e he => exact (ih id conn d hco hc).later e
    | blocked j w hb => exact (ih id conn d hco hc).later _
    | accepted p =>
      rcases getElem?_concat_eq_some_iff.mp hco with ho | ⟨-, rfl⟩
      · exact (ih id conn d ho hc).later _
      · cases hc
    | received j reads w old conn' sent limiter ho hp hm =>
      rcases getElem?_set_eq_some hco with ⟨rfl, rfl⟩ | ⟨-, hot⟩
      · obtain ⟨ha, hs⟩ := hm.carried hp hc
        have hl : old.listed = some d.source := by
          simpa [listed, hp] using hs
        exact ⟨ev, reads, w, [], rfl, ha, old, ho, hp, hs, hw.owner id old d.source ho hl⟩
      · exact (ih id conn d hot hc).later _
    | resumed j w old conn' sent registry ho hu hm =>
      rcases getElem?_set_eq_some hco with ⟨rfl, rfl⟩ | ⟨-, hot⟩
      · exact (ih id old d ho (hm.carried hc)).later _
      · exact (ih id conn d hot hc).later _

theorem not_datagram_error (m : String) (d : Datagram) :
    (RelayMessage.datagram d).toLine ≠ (RelayMessage.error m).toLine := by
  intro h
  cases RelayMessage.toLine_injective h

theorem not_datagram_registered (p : String) (d : Datagram) :
    (RelayMessage.datagram d).toLine ≠ (RelayMessage.registered p).toLine := by
  intro h
  cases RelayMessage.toLine_injective h

/-- A datagram line is written by a handler that forwards it, to its destination. -/
theorem Stepped.forwards (hs : Stepped config s event sent next)
    (h : (target, (RelayMessage.datagram d).toLine) ∈ sent) :
    s.registry.peers.lookup d.destination = some target ∧
      ∃ (id : ConnId) (conn : Connection), s.connections[id]? = some conn ∧
        conn.carried = some d := by
  cases hs with
  | ignored event he | blocked id w hb => cases h
  | accepted pe => cases h
  | received id reads w conn conn' sent limiter hc hp hm =>
    cases hm with
    | refused m hpe hw =>
      exact absurd (congrArg Prod.snd (List.mem_singleton.mp h)) (not_datagram_error m d)
    | _ => cases h
  | resumed id w conn conn' sent registry hc hu hm =>
    cases hm with
    | refused p a m hp =>
      exact absurd (congrArg Prod.snd (List.mem_singleton.mp h)) (not_datagram_error m d)
    | enlisted p hp hfr hr | enlistedWith p a hp hfr hr =>
      exact absurd (congrArg Prod.snd (List.mem_singleton.mp h))
        (not_datagram_registered p d)
    | forwarded forwarded wr hp hf =>
      obtain ⟨rfl, hl⟩ := Prod.mk.inj (List.mem_singleton.mp h)
      obtain rfl : d = forwarded := RelayMessage.datagram.inj (RelayMessage.toLine_injective hl)
      exact ⟨hf, id, conn, hc, by simp [carried, hp]⟩
    | _ => cases h

theorem Stepped.size_le (ht : Stepped config s event sent next) (hw : s.WellFormed)
    (h : s.registry.peers.size ≤ config.limits.relayMaxRegisteredPeers) :
    next.registry.peers.size ≤ config.limits.relayMaxRegisteredPeers := by
  cases ht with
  | ignored event he | blocked id w hb => exact h
  | accepted pe | received id reads w conn conn' sent limiter hc ho hm => exact h
  | resumed id w conn conn' sent registry hc hu hm =>
    have hp := hm.relisted (hw.consistent id conn hc)
    show registry.peers.size ≤ _
    generalize registry.peers = peers at hp
    cases hp with
    | kept hl => exact h
    | added p hne hf hr hl =>
      have hg := Table.size_insert_le p id s.registry.peers
      omega
    | removed p hl hn =>
      have hs := Table.size_erase_le p s.registry.peers
      omega

theorem run_size_le (config : RelayConfig) (ev : List Event) :
    (run (step config) RelayState.new ev).registry.peers.size ≤
      config.limits.relayMaxRegisteredPeers := by
  have hb := run_invariant
    (fun s : RelayState => s.WellFormed ∧
      s.registry.peers.size ≤ config.limits.relayMaxRegisteredPeers)
    (fun s e h =>
      ⟨(step_stepped config s e).wellFormed h.1, (step_stepped config s e).size_le h.1 h.2⟩)
    ⟨wellFormed_new, Nat.zero_le _⟩ ev
  exact hb.2

/-- **Routing.** In every run, a datagram line that a step writes to a connection goes to the one
its destination maps to at that step, and the datagram had come in a line on a connection that
was registered under its source then. At the end of every run no peer id has two handlers, and
the peers are within their limit. -/
theorem datagrams_routed (config : RelayConfig) (events : List Event) :
    (∀ front event back, events = front ++ event :: back → ∀ target d,
      (target, (RelayMessage.datagram d).toLine) ∈
          (step config (run (step config) RelayState.new front) event).1 →
        (run (step config) RelayState.new front).registry.peers.lookup d.destination = some target ∧
          ∃ id, ReceivedOn config front id d) ∧
      (∀ (i j : ConnId) (conn other : Connection) (peerId : String),
        (run (step config) RelayState.new events).connections[i]? = some conn →
        (run (step config) RelayState.new events).connections[j]? = some other →
        conn.listed = some peerId → other.listed = some peerId → i = j) ∧
      (run (step config) RelayState.new events).registry.peers.size ≤
        config.limits.relayMaxRegisteredPeers := by
  refine ⟨?_, ?_, run_size_le config events⟩
  · intro front event back _ target d hs
    obtain ⟨hd, id, conn, hc, ha⟩ := (step_stepped config _ event).forwards hs
    exact ⟨hd, id, run_carried config front id conn d hc ha⟩
  · intro i j conn other peerId hi hj hc ho
    exact (run_wellFormed config events).owner_unique hi hj hc ho

/-- Two peers register and the first sends the second a datagram. -/
def sampleDatagram : Datagram := ⟨"alice", "bob", "aGk="⟩

def sampleRouting : List Cue :=
  [.accept "192.0.2.1", .accept "192.0.2.2",
    .hear 0 (.register "alice" none) (sampleWorld 0), .resume 0 (sampleWorld 0),
    .hear 1 (.register "bob" none) (sampleWorld 0), .resume 1 (sampleWorld 0),
    .hear 0 (.datagram sampleDatagram) (sampleWorld 0), .resume 0 (sampleWorld 0),
    .resume 0 (sampleWorld 0), .resume 0 (sampleWorld 0)]

theorem sample_routed :
    (run (step sampleConfig) RelayState.new (sampleRouting.map Cue.event)).registry.peers.lookup
        "bob" = some 1 ∧
      ∃ id, ReceivedOn sampleConfig (sampleRouting.map Cue.event) id sampleDatagram := by
  refine (datagrams_routed sampleConfig
    (sampleRouting.map Cue.event ++ [.resume 0 (sampleWorld 0)])).1 _ _ [] rfl 1 sampleDatagram ?_
  rw [run_events sampleConfig rfl rfl RelayState.new sampleRouting (by decide)]
  exact List.mem_singleton.mpr rfl

end QuantumLink.Relay
