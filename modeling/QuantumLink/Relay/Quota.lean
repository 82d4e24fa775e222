import QuantumLink.Relay.Moves

/-! # The datagram quota of a peer

Each peer id has a fixed-window counter. It is kept in a table that the end of a registration
clears, so a peer that registers again starts a new window at once; a peer that exceeded its
quota is even made to. Where a registration ends only after its window is over, the quota holds
across any number of registrations.
-/

namespace QuantumLink.Relay

open FixedWindow (Use)
open Point FixedWindow RelayState Event Option

variable {config : RelayConfig} {id : ConnId} {world : World} {limiter : AdmissionLimiter}

/-! ## What happens to the bucket of a peer -/

/-- The reading of the clock that an event brings. -/
def Event.time : Event → Option Nat
  | .accept _ => none
  | .deliver _ _ world => some world.now
  | .resume _ world => some world.now

/-- What an event does to the bucket of the peer: a check with the time the handler has read, or
the removal by an ending. -/
def quotaUse (peerId : String) (s : RelayState) : Event → Option Use
  | .resume id world =>
    match (s.connections[id]?).map Connection.point with
    | some (.counting d now) => if d.source = peerId then some (.check now) else none
    | some (.releasing ended _) => if ended = peerId then some (.drop world.now) else none
    | _ => none
  | _ => none

/-- The time at which a datagram of the peer passes `check_peer_datagram_quota`. -/
def quotaPassed (config : RelayConfig) (peerId : String) (s : RelayState) (event : Event) :
    Option Nat :=
  (quotaUse peerId s event).bind
    (passedAt config.limits.relayMaxPeerDatagramsPerWindow
      config.limits.relayPeerDatagramWindow (s.registry.peerDatagramBuckets.lookup peerId))

/-- The time at which a window of the peer starts. -/
def quotaStarted (config : RelayConfig) (peerId : String) (s : RelayState) (event : Event) :
    Option Nat :=
  (quotaUse peerId s event).bind
    (startedAt config.limits.relayPeerDatagramWindow (s.registry.peerDatagramBuckets.lookup peerId))

def quotaUses (config : RelayConfig) (peerId : String) (events : List Event) : List Use :=
  observed (step config) (quotaUse peerId) new events

def quotaPasses (config : RelayConfig) (peerId : String) (events : List Event) : List Nat :=
  observed (step config) (quotaPassed config peerId) new events

def quotaStarts (config : RelayConfig) (peerId : String) (events : List Event) : List Nat :=
  observed (step config) (quotaStarted config peerId) new events

/-- The bucket of the peer is removed only when its window is over and no check of the peer is
between its reading of the clock and the lock. -/
def Rested (config : RelayConfig) (peerId : String) (s : RelayState) : Event → Prop
  | .resume id world =>
    ∀ (conn : Connection) (result : Except Device.QlinkError Unit),
      s.connections[id]? = some conn → conn.point = .releasing peerId result →
      (∀ bucket, s.registry.peerDatagramBuckets.lookup peerId = some bucket →
        bucket.windowStarted + config.limits.relayPeerDatagramWindow ≤ world.now) ∧
      ∀ (j : ConnId) (other : Connection) (d : Datagram) (now : Nat),
        s.connections[j]? = some other → other.point = .counting d now → d.source ≠ peerId
  | _ => True

/-- The peer's bucket is being removed by the handler. -/
def Point.releases (peerId : String) : Point → Bool
  | .releasing ended _ => decide (ended = peerId)
  | _ => false

/-- A check of the peer is between its reading of the clock and the lock. -/
def Point.counts (peerId : String) : Point → Bool
  | .counting d _ => decide (d.source = peerId)
  | _ => false

variable {point : Point} {peerId : String}

theorem Point.releases_iff :
    point.releases peerId = true ↔ ∃ result, point = .releasing peerId result := by
  cases point <;> simp [releases]

theorem Point.counts_iff :
    point.counts peerId = true ↔ ∃ d now, point = .counting d now ∧ d.source = peerId := by
  cases point <;> simp [counts]

variable {s : RelayState}

theorem rested_resume_iff : Rested config peerId s (.resume id world) ↔
      (s.connections[id]?).all (fun conn => !conn.point.releases peerId) = true ∨
        (s.registry.peerDatagramBuckets.lookup peerId).all (fun bucket =>
          decide (bucket.windowStarted + config.limits.relayPeerDatagramWindow ≤ world.now)) = true ∧
        s.connections.all (fun conn => !conn.point.counts peerId) = true := by
  have hi : s.connections.all (fun conn => !conn.point.counts peerId) = true ↔
      ∀ (j : ConnId) (other : Connection) (d : Datagram) (now : Nat),
        s.connections[j]? = some other → other.point = .counting d now → d.source ≠ peerId := by
    simp only [List.all_eq_true, Bool.not_eq_true', ← Bool.not_eq_true, counts_iff]
    constructor
    · intro h j other d now ho hp hs
      exact h other (List.mem_of_getElem? ho) ⟨d, now, hp, hs⟩
    · rintro h other hm ⟨d, now, hp, hs⟩
      obtain ⟨j, hj⟩ := List.getElem?_of_mem hm
      exact h j other d now hj hp hs
  rw [hi]
  cases hc : s.connections[id]? with
  | none => simp [Rested, hc]
  | some conn =>
    simp only [all_some, Bool.not_eq_true', ← Bool.not_eq_true, all_eq_true, decide_eq_true_eq]
    constructor
    · intro h
      by_cases hr : conn.point.releases peerId = true
      · obtain ⟨r, hp⟩ := releases_iff.mp hr
        exact .inr (h conn r hc hp)
      · exact .inl hr
    · intro h other r ho hp
      cases hc.symm.trans ho
      exact h.resolve_left (fun hn => hn (releases_iff.mpr ⟨r, hp⟩))

instance (config : RelayConfig) (peerId : String) (s : RelayState) :
    (event : Event) → Decidable (Rested config peerId s event)
  | .accept _ => isTrue trivial
  | .deliver _ _ _ => isTrue trivial
  | .resume _ _ => decidable_of_iff' _ rested_resume_iff

/-! ## The table of buckets -/

def Point.usesBucket : Point → Bool
  | .counting _ _ | .releasing _ _ => true
  | _ => false

/-- What a step of one handler does to the buckets. -/
inductive Rebucketed (limits : ServiceLimitsConfig) (conn : Connection)
    (buckets : Table String FixedWindow.Bucket) : Table String FixedWindow.Bucket → Prop
  | kept (hpoint : conn.point.usesBucket = false) : Rebucketed limits conn buckets buckets
  | counted (d : Datagram) (now : Nat) (hpoint : conn.point = .counting d now) :
      Rebucketed limits conn buckets
        (buckets.insert d.source (check limits.relayMaxPeerDatagramsPerWindow
          limits.relayPeerDatagramWindow now (buckets.lookup d.source)).2)
  | dropped (peerId : String) (result : Except Device.QlinkError Unit)
      (hpoint : conn.point = .releasing peerId result) :
      Rebucketed limits conn buckets (buckets.erase peerId)

variable {conn conn' : Connection} {sent : List Sent}

theorem Resumed.rebucketed {registry registry' : RelayRegistry}
    (hm : Resumed config id world registry conn conn' sent registry') :
    Rebucketed config.limits conn registry.peerDatagramBuckets registry'.peerDatagramBuckets := by
  cases hm with
  | counted d now conn' hp hn => exact .counted d now hp
  | released p r hp => exact .dropped p r hp
  | stayed hp =>
    rcases hp with hp | ⟨r, hp⟩ <;> exact .kept (by rw [hp]; rfl)
  | _ => exact .kept (by simp [*, usesBucket])

variable {event : Event}

theorem quotaUse_of_not_resume (peerId : String)
    (h : ∀ id world, event ≠ .resume id world) : quotaUse peerId s event = none := by
  cases event with
  | resume id world => exact absurd rfl (h id world)
  | _ => rfl

theorem quotaUse_of_not_usesBucket (peerId : String)
    (h : ∀ conn : Connection, s.connections[id]? = some conn → conn.point.usesBucket = false) :
    quotaUse peerId s (.resume id world) = none := by
  cases hc : s.connections[id]? with
  | none => simp [quotaUse, hc]
  | some conn =>
    have hu := h conn hc
    cases hp : conn.point with
    | counting d now | releasing p r => rw [hp] at hu; cases hu
    | _ => simp [quotaUse, hc, hp]

theorem Point.usesBucket_of_locksPeers (h : point.locksPeers = true) : point.usesBucket = false := by
  cases point with
  | counting d now | releasing p r => cases h
  | _ => rfl

theorem Stepped.bucket (ht : Stepped config s event sent next) (peerId : String) :
    next.registry.peerDatagramBuckets.lookup peerId =
      (quotaUse peerId s event).elim (s.registry.peerDatagramBuckets.lookup peerId) fun use =>
        (apply config.limits.relayMaxPeerDatagramsPerWindow config.limits.relayPeerDatagramWindow
          (s.registry.peerDatagramBuckets.lookup peerId) use).2 := by
  cases ht with
  | ignored event he => rw [quotaUse_of_not_resume peerId he, elim_none]
  | blocked id w hl =>
    rw [quotaUse_of_not_usesBucket peerId
      (fun conn hc => usesBucket_of_locksPeers (hl conn hc).1), elim_none]
  | accepted p | received id reads w conn conn' sent limiter hc hp hm => rfl
  | resumed id w conn conn' sent registry hc hu hm =>
    have hb := hm.rebucketed
    show registry.peerDatagramBuckets.lookup peerId = _
    generalize registry.peerDatagramBuckets = buckets at hb
    cases hb with
    | kept hp =>
      rw [quotaUse_of_not_usesBucket peerId, elim_none]
      intro other ho
      cases hc.symm.trans ho
      exact hp
    | counted d now hp =>
      by_cases hs : d.source = peerId
      · subst hs
        simp [quotaUse, hc, hp, apply]
      · simp [quotaUse, hc, hp, hs, Finmap.lookup_insert_of_ne _ (Ne.symm hs)]
    | dropped e r hp =>
      by_cases hs : e = peerId
      · simp [quotaUse, hc, hp, hs, apply]
      · simp [quotaUse, hc, hp, hs, Finmap.lookup_erase_ne (Ne.symm hs)]

/-! ## The counter of a peer along a run -/

/-- The passes and starts of a peer are those of a counter fed with its uses. -/
structure Counted (config : RelayConfig) (peerId : String) (events : List Event) : Prop where
  bucket : (run (step config) new events).registry.peerDatagramBuckets.lookup peerId =
    run (apply config.limits.relayMaxPeerDatagramsPerWindow
      config.limits.relayPeerDatagramWindow) none (quotaUses config peerId events)
  passes : quotaPasses config peerId events =
    passes config.limits.relayMaxPeerDatagramsPerWindow
      config.limits.relayPeerDatagramWindow (quotaUses config peerId events)
  starts : quotaStarts config peerId events =
    starts config.limits.relayMaxPeerDatagramsPerWindow
      config.limits.relayPeerDatagramWindow (quotaUses config peerId events)

theorem quotaUses_concat (config : RelayConfig) (peerId : String) (event : Event) :
    quotaUses config peerId (events ++ [event]) = quotaUses config peerId events ++
      (quotaUse peerId (run (step config) new events) event).toList :=
  observed_concat _ _ _ _ _

theorem run_counted (config : RelayConfig) (peerId : String) (events : List Event) :
    Counted config peerId events := by
  have hb s event := (step_stepped config s event).bucket peerId
  have hr := part_run (fun s : RelayState => s.registry.peerDatagramBuckets.lookup peerId) hb
  have hn {β : Type} := observed_part (β := β)
    (fun s : RelayState => s.registry.peerDatagramBuckets.lookup peerId) hb
  exact ⟨hr new events, hn (passedAt _ _) new events, hn (startedAt _) new events⟩

/-- What the use of an event says of the handler that takes the step. -/
theorem quotaUse_eq_some (h : quotaUse peerId s event = some use) :
    ∃ (id : ConnId) (world : World) (conn : Connection), event = .resume id world ∧
      s.connections[id]? = some conn ∧
      ((∃ d now, conn.point = .counting d now ∧ d.source = peerId ∧ use = .check now) ∨
        ∃ result, conn.point = .releasing peerId result ∧ use = .drop world.now) := by
  cases event with
  | accept p | deliver id r world => cases h
  | resume id world =>
    cases hc : s.connections[id]? with
    | none => simp [quotaUse, hc] at h
    | some conn =>
      refine ⟨id, world, conn, rfl, hc, ?_⟩
      cases hp : conn.point with
      | counting d now =>
        by_cases hs : d.source = peerId
        · simp only [quotaUse, hc, map_some, hp, hs, if_true] at h
          exact .inl ⟨d, now, rfl, hs, (some.inj h).symm⟩
        · simp [quotaUse, hc, hp, hs] at h
      | releasing e result =>
        by_cases hs : e = peerId
        · subst hs
          simp only [quotaUse, hc, map_some, hp, if_true] at h
          exact .inr ⟨result, rfl, (some.inj h).symm⟩
        · simp [quotaUse, hc, hp, hs] at h
      | _ => simp [quotaUse, hc, hp] at h

theorem run_droppedOver (hr : Along (step config) (Rested config peerId) new events) :
    Along (apply config.limits.relayMaxPeerDatagramsPerWindow config.limits.relayPeerDatagramWindow)
      (DroppedOver config.limits.relayPeerDatagramWindow) none
      (quotaUses config peerId events) := by
  induction events using List.reverseRecOn with
  | nil => trivial
  | append_singleton events e ih =>
    rw [along_append] at hr
    rw [quotaUses_concat]
    cases hu : quotaUse peerId (run (step config) new events) e with
    | none => simpa using ih hr.1
    | some use =>
      rw [toList_some, along_append]
      refine ⟨ih hr.1, ?_, trivial⟩
      rw [← (run_counted config peerId events).bucket]
      obtain ⟨id, w, c, rfl, ho, hc | ⟨r, hp, rfl⟩⟩ := quotaUse_eq_some hu
      · obtain ⟨d, now, -, -, rfl⟩ := hc
        trivial
      · exact (hr.2.1 c r ho hp).1

/-! ## The clock readings of a peer -/

theorem Connection.leave_not_counting (conn : Connection)
    (r : Except Device.QlinkError Unit) (d : Datagram) (now : Nat) :
    (conn.leave r).point ≠ .counting d now := by
  cases hp : conn.registeredPeer with
  | none => rw [Connection.leave_of_none hp]; simp
  | some p => rw [Connection.leave_of_some hp]; simp

variable {now : Nat}

/-- A handler that waits for the lock of the buckets has just read the clock. -/
theorem Resumed.counting {registry registry' : RelayRegistry}
    (hm : Resumed config id world registry conn conn' sent registry')
    (h : conn'.point = .counting d now) : now = world.now := by
  cases hm with
  | stayed hp =>
    rcases hp with hp | ⟨result, hp⟩ <;> rw [hp] at h <;> cases h
  | refused peerId authToken message hp => exact absurd h (conn.leave_not_counting _ d now)
  | metered metered hp => exact (counting.inj h).2.symm
  | counted counted read conn' hp hn =>
    rcases hn with rfl | ⟨error, rfl⟩
    · cases h
    · exact absurd h (conn.leave_not_counting _ d now)
  | _ => cases h

theorem Received.not_counting (hp : conn.point = .reading)
    (hm : Received config id world reads limiter conn conn' sent) :
    conn'.point ≠ .counting d now := by
  intro h
  cases hm with
  | stayed => rw [hp] at h; cases h
  | left r | refused m he hw => exact conn.leave_not_counting _ d now h
  | _ => cases h

/-- The uses of the peer are in order, none is past the clock, and a check that waits for the
lock has read a time that no use is past. -/
structure InOrder (peerId : String) (clock : Nat) (uses : List Use) (s : RelayState) : Prop where
  sorted : (uses.map Use.time).Pairwise (· ≤ ·)
  past : ∀ use ∈ uses, use.time ≤ clock
  reading : ∀ (id : ConnId) (conn : Connection) (d : Datagram) (now : Nat),
    s.connections[id]? = some conn → conn.point = .counting d now → d.source = peerId →
    now ≤ clock ∧ ∀ use ∈ uses, use.time ≤ now

variable {uses : List Use}

theorem InOrder.later
    (h : InOrder peerId clock uses s) (hle : clock ≤ now) : InOrder peerId now uses s where
  sorted := h.sorted
  past use hu := le_trans (h.past use hu) hle
  reading id conn d read hc hp hs :=
    ⟨le_trans (h.reading id conn d read hc hp hs).1 hle, (h.reading id conn d read hc hp hs).2⟩

theorem pairwise_times_concat {use : Use}
    (h : (uses.map Use.time).Pairwise (· ≤ ·)) (hl : ∀ earlier ∈ uses, earlier.time ≤ use.time) :
    ((uses ++ [use]).map Use.time).Pairwise (· ≤ ·) := by
  rw [List.map_append, List.pairwise_append]
  refine ⟨h, by simp, ?_⟩
  intro t ht l hm
  obtain ⟨earlier, he, rfl⟩ := List.mem_map.mp ht
  obtain rfl : l = use.time := by simpa using hm
  exact hl earlier he

/-- One step keeps the uses in order; the clock is the time it brings. -/
theorem Stepped.inOrder (hw : s.WellFormed)
    (hst : Stepped config s event sent next) (hr : Rested config peerId s event)
    (hcl : ∀ now, event.time = some now → now = clock) (h : InOrder peerId clock uses s) :
    InOrder peerId clock (uses ++ (quotaUse peerId s event).toList) next := by
  cases hst with
  | ignored event hv =>
    rw [quotaUse_of_not_resume peerId hv]
    simpa using h
  | blocked id w hb =>
    rw [quotaUse_of_not_usesBucket peerId
      (fun conn hco => usesBucket_of_locksPeers (hb conn hco).1)]
    simpa using h
  | accepted p =>
    rw [show quotaUse peerId s (.accept p) = none from rfl, toList_none, List.append_nil]
    refine ⟨h.sorted, h.past, ?_⟩
    intro id conn d now hco hp hs
    rcases getElem?_concat_eq_some_iff.mp hco with ho | ⟨-, rfl⟩
    · exact h.reading id conn d now ho hp hs
    · cases hp
  | received id reads w conn conn' sent limiter hco hp hm =>
    rw [show quotaUse peerId s (.deliver id reads w) = none from rfl, toList_none, List.append_nil]
    refine ⟨h.sorted, h.past, ?_⟩
    intro j o d now hh hc hs
    rcases getElem?_set_eq_some hh with ⟨-, rfl⟩ | ⟨-, ho⟩
    · exact absurd hc (hm.not_counting hp)
    · exact h.reading j o d now ho hc hs
  | resumed id w conn conn' sent registry hco hun hm =>
    obtain rfl : w.now = clock := hcl w.now rfl
    have hl {j : ConnId} {o : Connection} {d : Datagram} {now : Nat}
        (hh : s.connections[j]? = some o) (hc : o.point = .counting d now) :
        o.listed = some d.source := by
      rw [← (hw.consistent j o hh).sending (.inr (.inr (.inl ⟨now, hc⟩)))]
      simp [Connection.listed, hc]
    have hn (use : Use) (hu : quotaUse peerId s (.resume id w) = some use) :
        use.time ≤ w.now ∧ (∀ earlier ∈ uses, earlier.time ≤ use.time) ∧
          ∀ (j : ConnId) (o : Connection) (d : Datagram) (now : Nat), j ≠ id →
            s.connections[j]? = some o → o.point = .counting d now →
            d.source ≠ peerId := by
      obtain ⟨k, t, maker, hv, hma, hk⟩ := quotaUse_eq_some hu
      obtain ⟨rfl, rfl⟩ := resume.inj hv
      cases hco.symm.trans hma
      rcases hk with ⟨d, now, hp, hs, rfl⟩ | ⟨r, hp, rfl⟩
      · refine ⟨(h.reading id conn d now hco hp hs).1, (h.reading id conn d now hco hp hs).2, ?_⟩
        -- another check of the peer would belong to a second handler registered under it
        intro j o d' now' hj hh hc hsa
        exact hj (hw.owner_unique hh hco (hsa ▸ hl hh hc) (hs ▸ hl hco hp))
      · refine ⟨le_refl _, h.past, ?_⟩
        intro j o d' now' _ hh hc
        exact (hr conn r hco hp).2 j o d' now' hh hc
    cases hu : quotaUse peerId s (.resume id w) with
    | none =>
      rw [toList_none, List.append_nil]
      refine ⟨h.sorted, h.past, ?_⟩
      intro j o d now hh hc hs
      rcases getElem?_set_eq_some hh with ⟨-, rfl⟩ | ⟨-, ho⟩
      · obtain rfl := hm.counting hc
        exact ⟨le_refl _, h.past⟩
      · exact h.reading j o d now ho hc hs
    | some use =>
      obtain ⟨ht, he, hot⟩ := hn use hu
      have hpa : ∀ u ∈ uses ++ [use], u.time ≤ w.now := by
        intro u hus
        rcases List.mem_append.mp hus with ho | hla
        · exact h.past u ho
        · rw [List.mem_singleton.mp hla]
          exact ht
      refine ⟨pairwise_times_concat h.sorted he, hpa, ?_⟩
      intro j o d now hh hc hs
      rcases getElem?_set_eq_some hh with ⟨-, rfl⟩ | ⟨hj, ho⟩
      · obtain rfl := hm.counting hc
        exact ⟨le_refl _, hpa⟩
      · exact absurd hs (hot j o d now hj ho hc)

theorem run_inOrder {ev : List Event} (hc : (ev.filterMap time).Pairwise (· ≤ ·))
    (hr : Along (step config) (Rested config peerId) new ev) :
    ∀ clock, (∀ now ∈ ev.filterMap time, now ≤ clock) →
      InOrder peerId clock (quotaUses config peerId ev) (run (step config) new ev) := by
  induction ev using List.reverseRecOn with
  | nil =>
    intro clock _
    refine ⟨List.Pairwise.nil, (by intro use hu; cases hu), ?_⟩
    intro id c d now ho
    simp [new] at ho
  | append_singleton ev e ih =>
    intro clock hle
    rw [along_append] at hr
    rw [List.filterMap_append, List.pairwise_append] at hc
    rw [quotaUses_concat, run_concat]
    have hw := run_wellFormed config ev
    have hs := step_stepped config (run (step config) new ev) e
    cases ht : e.time with
    | none =>
      have hb := ih hc.1 hr.1 clock (fun now hn => hle now (by simp [hn]))
      exact hs.inOrder hw hr.2.1 (by simp [ht]) hb
    | some now =>
      have hl : now ∈ [e].filterMap time := by simp [ht]
      have hb := ih hc.1 hr.1 now
        (fun ea he => hc.2.2 ea he now hl)
      have ha := hs.inOrder hw hr.2.1
        (fun r hre => mem_unique hre ht) hb
      exact ha.later (hle now (by simp [ht]))

/-- **The datagram quota.** Where the clock does not run back and every bucket of the peer is
removed only when its window is over, at most the configured number of datagrams of the peer
pass the check between the start of a window and its length later, over any number of
connections and registrations of the peer. -/
theorem rested_quota_kept (config : RelayConfig) (peerId : String) (events : List Event)
    (hwindow : 0 < config.limits.relayPeerDatagramWindow)
    (hclock : (events.filterMap time).Pairwise (· ≤ ·))
    (hrested : Along (step config) (Rested config peerId) new events) :
    ∀ start ∈ quotaStarts config peerId events, (quotaPasses config peerId events).countP
          (fun t => decide (start ≤ t ∧ t < start + config.limits.relayPeerDatagramWindow)) ≤
        config.limits.relayMaxPeerDatagramsPerWindow := by
  have hc := run_counted config peerId events
  have hl : ∃ clock, ∀ now ∈ events.filterMap time, now ≤ clock :=
    ⟨(events.filterMap time).sum, fun now hn => List.single_le_sum (by simp) now hn⟩
  obtain ⟨clock, hle⟩ := hl
  have ho := run_inOrder hclock hrested clock hle
  rw [hc.starts, hc.passes]
  exact passes_limited hwindow _ ho.sorted (run_droppedOver hrested)

def quotaConfig : RelayConfig :=
  ⟨.unrestricted, { relayMaxPeerDatagramsPerWindow := 1 }, RelayMessage.fromSlice⟩

/-- A peer sends a datagram, loses its registration at a later time, and registers again to send
another. -/
def reconnect (later : Nat) : List Cue :=
  [.accept "192.0.2.1", .hear 0 (.register "alice" none) (sampleWorld 0),
    .resume 0 (sampleWorld 0),
    .hear 0 (.datagram ⟨"alice", "bob", "aGk="⟩) (sampleWorld 0), .resume 0 (sampleWorld 0),
    .resume 0 (sampleWorld 0), .resume 0 (sampleWorld 0), .resume 0 (sampleWorld 0),
    .hear 0 (.datagram ⟨"bob", "alice", ""⟩) (sampleWorld later),
    .resume 0 (sampleWorld later), .resume 0 (sampleWorld later), .resume 0 (sampleWorld later),
    .accept "192.0.2.1", .hear 1 (.register "alice" none) (sampleWorld later),
    .resume 1 (sampleWorld later),
    .hear 1 (.datagram ⟨"alice", "bob", "aGk="⟩) (sampleWorld later),
    .resume 1 (sampleWorld later), .resume 1 (sampleWorld later), .resume 1 (sampleWorld later)]

/-- A reconnection after the window: each of the two windows lets one datagram pass. -/
theorem sample_quota_kept :
    quotaStarts quotaConfig "alice" ((reconnect 60000000000).map Cue.event) = [0, 60000000000] ∧
      quotaPasses quotaConfig "alice" ((reconnect 60000000000).map Cue.event) = [0, 60000000000] ∧
      (quotaPasses quotaConfig "alice" ((reconnect 60000000000).map Cue.event)).countP
        (fun t => decide (0 ≤ t ∧ t < 0 + quotaConfig.limits.relayPeerDatagramWindow)) ≤ 1 := by
  have hf : (reconnect 60000000000).all (Cue.fits quotaConfig.limits) = true := by decide
  have hs : quotaStarts quotaConfig "alice" ((reconnect 60000000000).map Cue.event) =
      [0, 60000000000] := by
    rw [quotaStarts, observed_events quotaConfig rfl rfl _ new _ hf]
    decide
  have hp : quotaPasses quotaConfig "alice" ((reconnect 60000000000).map Cue.event) =
      [0, 60000000000] := by
    rw [quotaPasses, observed_events quotaConfig rfl rfl _ new _ hf]
    decide
  have hr : Along (step quotaConfig) (Rested quotaConfig "alice") new
      ((reconnect 60000000000).map Cue.event) :=
    (along_events quotaConfig rfl rfl new _ hf).mpr (by decide)
  exact ⟨hs, hp, rested_quota_kept quotaConfig "alice"
    ((reconnect 60000000000).map Cue.event) (by decide) (by decide) hr 0 (by simp [hs])⟩

/-- A reconnection inside the window: two datagrams pass where the limit is one. -/
theorem reconnect_exceeds_quota :
    0 ∈ quotaStarts quotaConfig "alice" ((reconnect 1).map Cue.event) ∧
      quotaConfig.limits.relayMaxPeerDatagramsPerWindow <
        (quotaPasses quotaConfig "alice" ((reconnect 1).map Cue.event)).countP
          (fun t => decide (0 ≤ t ∧ t < 0 + quotaConfig.limits.relayPeerDatagramWindow)) := by
  have hf : (reconnect 1).all (Cue.fits quotaConfig.limits) = true := by decide
  rw [quotaStarts, quotaPasses, observed_events quotaConfig rfl rfl _ new _ hf,
    observed_events quotaConfig rfl rfl _ new _ hf]
  decide

end QuantumLink.Relay
