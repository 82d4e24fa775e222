import QuantumLink.Relay.Moves

/-! # The digest of a registered peer's token

A peer that registered with a token has its digest on record, so that its datagrams are refused
once the digest is revoked. The end of a registration removes the peer from `peers` first and
its digest after that, under another lock. A registration of the same peer id that falls between
the two loses the digest it has just recorded, and a peer without a digest is never refused.
-/

namespace QuantumLink.Relay

open RelayState Connection

variable {config : RelayConfig} {id : ConnId} {world : World} {limiter : AdmissionLimiter}

/-- No peer is registered anew between the two removals of an ending. -/
def Settled (s : RelayState) : Event → Prop
  | .resume id _ =>
    ∀ (conn : Connection) (peerId : String) (result : Except Device.QlinkError Unit),
      s.connections[id]? = some conn → conn.point = .forgetting peerId result →
      s.registry.peers.lookup peerId = none
  | _ => True

def Point.isForgetting : Point → Bool
  | .forgetting _ _ => true
  | _ => false

/-- The run processed a `Register` message that carried the token, to its end. -/
def Recorded (config : RelayConfig) (events : List Event) (id : ConnId)
    (peerId authToken : String) : Prop :=
  ∃ front world back, events = front ++ .resume id world :: back ∧
    ∃ conn : Connection, (run (step config) new front).connections[id]? = some conn ∧
      conn.point = .recording peerId authToken

variable {event : Event} {peerId : String}

theorem recorded_concat (h : Recorded config (events ++ [event]) id peerId authToken) :
    Recorded config events id peerId authToken ∨ ∃ world, event = .resume id world ∧
        ∃ conn : Connection, (run (step config) new events).connections[id]? = some conn ∧
          conn.point = .recording peerId authToken := by
  obtain ⟨f, world, b, hc, ho⟩ := h
  rcases List.eq_nil_or_concat b with rfl | ⟨b, l, rfl⟩
  · obtain ⟨rfl, hl⟩ := List.append_inj' hc rfl
    exact .inr ⟨world, List.singleton_inj.mp hl, ho⟩
  · rw [List.concat_eq_append, ← List.cons_append, ← List.append_assoc] at hc
    obtain ⟨rfl, -⟩ := List.append_inj' hc rfl
    exact .inl ⟨f, world, b, rfl, ho⟩

theorem Connection.registeredPeer_leave (conn : Connection) (r : Except Device.QlinkError Unit) :
    (conn.leave r).registeredPeer = conn.registeredPeer := by
  cases hp : conn.registeredPeer with
  | none => rw [leave_of_none hp]; exact hp
  | some p => rw [leave_of_some hp]; exact hp

variable {conn conn' : Connection} {sent : List Sent}

theorem Received.registeredPeer (hm : Received config id world reads limiter conn conn' sent) :
    conn'.registeredPeer = conn.registeredPeer := by
  cases hm with
  | left r => exact conn.registeredPeer_leave r
  | refused m hp hw => exact conn.registeredPeer_leave _
  | _ => rfl

theorem Resumed.registeredPeer {registry registry' : RelayRegistry} (hc : conn.Consistent)
    (hm : Resumed config id world registry conn conn' sent registry')
    (h : conn.registeredPeer = some peerId) : conn'.registeredPeer = some peerId := by
  have hi := hc.fits
  cases hm with
  | refused p t m hp => rw [conn.registeredPeer_leave, h]
  | enlisted p hp hf hr | recorded p t hp =>
    rw [hp] at hi
    exact absurd (hi.1.symm.trans h) (by simp)
  | counted d now conn' hp hn =>
    rcases hn with rfl | ⟨error, rfl⟩
    · exact h
    · rw [conn.registeredPeer_leave, h]
  | _ => exact h

variable {s : RelayState}

theorem Stepped.registeredPeer (hw : s.WellFormed)
    (ht : Stepped config s event sent next) (hc : s.connections[id]? = some conn)
    (h : conn.registeredPeer = some peerId) :
    ∃ conn' : Connection, next.connections[id]? = some conn' ∧
      conn'.registeredPeer = some peerId := by
  have hs {j : ConnId} {old conn' : Connection} (ho : s.connections[j]? = some old)
      (hk : old.registeredPeer = some peerId → conn'.registeredPeer = some peerId) :
      ∃ after : Connection, (s.connections.set j conn')[id]? = some after ∧
        after.registeredPeer = some peerId := by
    by_cases hj : id = j
    · subst hj
      cases hc.symm.trans ho
      exact ⟨conn', List.getElem?_set_self (List.getElem?_eq_some_iff.mp hc).1, hk h⟩
    · exact ⟨conn, by rw [List.getElem?_set_ne (Ne.symm hj)]; exact hc, h⟩
  cases ht with
  | ignored event he | blocked j w hb => exact ⟨conn, hc, h⟩
  | accepted p => exact ⟨conn, getElem?_concat_eq_some_iff.mpr (.inl hc), h⟩
  | received j reads w old conn' sent limiter ho hp hm =>
    exact hs ho (fun ho => hm.registeredPeer.trans ho)
  | resumed j w old conn' sent registry ho hu hm =>
    exact hs ho (hm.registeredPeer (hw.consistent j old ho))

/-! ## The table of digests -/

/-- What a step of one handler does to the digests. -/
inductive Redigested (conn : Connection) (digests : Table String String) :
    Table String String → Prop
  | kept : Redigested conn digests digests
  | added (peerId authToken : String) (hpoint : conn.point = .recording peerId authToken) :
      Redigested conn digests
        (digests.insert peerId (serviceTokenRevocationDigest authToken))
  | removed (peerId : String) (result : Except Device.QlinkError Unit)
      (hpoint : conn.point = .forgetting peerId result) :
      Redigested conn digests (digests.erase peerId)

theorem Resumed.redigested {registry registry' : RelayRegistry}
    (hm : Resumed config id world registry conn conn' sent registry') :
    Redigested conn registry.peerAuthTokenDigests registry'.peerAuthTokenDigests := by
  cases hm with
  | recorded p a hp => exact .added p a hp
  | forgotten p r hp => exact .removed p r hp
  | _ => exact .kept

/-- The digest of a registered peer outlives every settled step of another. -/
theorem Stepped.digest_kept (hw : s.WellFormed)
    (ht : Stepped config s event sent next) (hs : Settled s event)
    (hc : s.connections[id]? = some conn) (hpee : conn.registeredPeer = some peerId)
    (hlo : next.registry.peers.lookup peerId = some id)
    (h : s.registry.peers.lookup peerId = some id →
      s.registry.peerAuthTokenDigests.lookup peerId = some digest) :
    next.registry.peerAuthTokenDigests.lookup peerId = some digest := by
  cases ht with
  | ignored event he | blocked j world hbl => exact h hlo
  | accepted peerIp | received j reads world old conn' sent limiter ho hp hm => exact h hlo
  | resumed j world old conn' sent registry ho hu hm =>
    have hco := hw.consistent j old ho
    -- the handler cannot be the one that enters the peer now: it is registered already
    have hb : s.registry.peers.lookup peerId = some id := by
      have hpe := hm.relisted hco
      change registry.peers.lookup peerId = some id at hlo
      generalize registry.peers = peers at hpe hlo
      cases hpe with
      | kept hl => exact hlo
      | added added hnew hf hr hl =>
        rcases Table.lookup_insert_eq_some hlo with ⟨rfl, rfl⟩ | ⟨_, hb⟩
        · cases hc.symm.trans ho
          exact absurd (hnew.symm.trans hpee) (by simp)
        · exact hb
      | removed removed hl hn => exact (Table.lookup_erase_eq_some hlo).2
    have hd := h hb
    have hi := hm.redigested
    show registry.peerAuthTokenDigests.lookup peerId = some digest
    generalize registry.peerAuthTokenDigests = digests at hi
    cases hi with
    | kept => exact hd
    | added p t hp =>
      have hne : peerId ≠ p := by
        rintro rfl
        have hl : old.listed = some peerId := by simp [listed, hp]
        have how := hw.owner j old peerId ho hl
        cases how.symm.trans hb
        cases hc.symm.trans ho
        have hfi := hco.fits
        rw [hp] at hfi
        exact absurd (hfi.1.symm.trans hpee) (by simp)
      rw [Finmap.lookup_insert_of_ne _ hne]
      exact hd
    | removed p result hp =>
      have hne : peerId ≠ p := by
        rintro rfl
        rw [hs old peerId result ho hp] at hb
        cases hb
      rw [Finmap.lookup_erase_ne hne]
      exact hd

theorem run_recorded (config : RelayConfig) (ev : List Event)
    (hs : Along (step config) Settled new ev) :
    ∀ (id : ConnId) (peerId a : String), Recorded config ev id peerId a →
      (∃ conn : Connection, (run (step config) new ev).connections[id]? = some conn ∧
        conn.registeredPeer = some peerId) ∧
      ((run (step config) new ev).registry.peers.lookup peerId = some id →
        (run (step config) new ev).registry.peerAuthTokenDigests.lookup peerId =
          some (serviceTokenRevocationDigest a)) := by
  induction ev using List.reverseRecOn with
  | nil =>
    rintro id peerId a ⟨f, w, b, hu, -⟩
    simp at hu
  | append_singleton ev e ih =>
    intro id peerId a hr
    rw [along_append] at hs
    have hw := run_wellFormed config ev
    have ht := step_stepped config (run (step config) new ev) e
    rw [run_concat]
    rcases recorded_concat hr with ho | ⟨w, rfl, conn, hc, hp⟩
    · obtain ⟨⟨conn, hc, he⟩, hd⟩ := ih hs.1 id peerId a ho
      refine ⟨ht.registeredPeer hw hc he, ?_⟩
      intro hl
      exact ht.digest_kept hw hs.2.1 hc he hl hd
    · -- the step that records the digest
      have hn : (step config (run (step config) new ev) (.resume id w)).2 =
          { run (step config) new ev with
            registry := (conn.resume config id w (run (step config) new ev).registry).2
            connections := (run (step config) new ev).connections.set id (conn.resume config id w
                (run (step config) new ev).registry).1.1 } := by
        simp [step, hc, hp, Point.locksPeers]
      rw [hn]
      simp only [resume, hp]
      refine ⟨⟨_, List.getElem?_set_self (List.getElem?_eq_some_iff.mp hc).1, rfl⟩, ?_⟩
      intro _
      exact Finmap.lookup_insert _

theorem step_revoked (hc : s.connections[id]? = some conn) (hp : conn.point = .authorizing d)
    (hd : s.registry.peerAuthTokenDigests.lookup d.source = some digest)
    (hr : config.admission.tokenDigestIsRevoked world.revocationList (some digest) = .ok true) :
    (step config s (.resume id world)).1 = [] ∧
      ((step config s (.resume id world)).2.connections[id]?).map point =
        some (.unlisting d.source (.error (.protocol "relay authentication failed"))) := by
  have hs (conn' : Connection) : (s.connections.set id conn')[id]? = some conn' :=
    List.getElem?_set_self (List.getElem?_eq_some_iff.mp hc).1
  simp [step, hc, hp, Point.locksPeers, resume, authorize, hd, hr, hs]

/-- **Revocation.** In a run that registers no peer anew between the two removals of an ending,
every peer in `peers` that registered with a token, once its `Register` message is fully
processed, has the digest of that very token on record, and its datagrams are refused when the
digest is revoked. -/
theorem settled_digests_recorded (config : RelayConfig) (events : List Event)
    (hsettled : Along (step config) Settled new events) (id : ConnId)
    (peerId authToken : String) (hrecorded : Recorded config events id peerId authToken)
    (hlookup : (run (step config) new events).registry.peers.lookup peerId = some id) :
    (run (step config) new events).registry.peerAuthTokenDigests.lookup peerId =
        some (serviceTokenRevocationDigest authToken) ∧
      ∀ (conn : Connection) (d : Datagram) (world : World),
        (run (step config) new events).connections[id]? = some conn →
        conn.point = .authorizing d →
        config.admission.tokenDigestIsRevoked world.revocationList
          (some (serviceTokenRevocationDigest authToken)) = .ok true →
        (step config (run (step config) new events) (.resume id world)).1 = [] ∧
          ((step config (run (step config) new events)
              (.resume id world)).2.connections[id]?).map point =
            some (.unlisting peerId (.error (.protocol "relay authentication failed"))) := by
  obtain ⟨⟨r, hr, he⟩, hd⟩ := run_recorded config events hsettled id peerId authToken hrecorded
  refine ⟨hd hlookup, ?_⟩
  intro conn d world hc hp hre
  cases hr.symm.trans hc
  have hs := ((run_wellFormed config events).consistent id r hc).sending
    (Or.inl hp)
  cases hs.symm.trans he
  exact step_revoked hc hp (hd hlookup) hre

/-- A relay that asks for no token and keeps a revocation list. -/
def revocationConfig : RelayConfig :=
  ⟨⟨none, some ⟨some "revoked"⟩, none⟩, {}, RelayMessage.fromSlice⟩

/-- A peer registers with a token and sends a datagram. -/
def tokenRegistration : List Cue :=
  [.accept "192.0.2.1", .hear 0 (.register "alice" (some "token")) (sampleWorld 0),
    .resume 0 (sampleWorld 0), .resume 0 (sampleWorld 0),
    .hear 0 (.datagram ⟨"alice", "bob", "aGk="⟩) (sampleWorld 0)]

theorem settled_of_point
    (h : ((s.connections[id]?).any fun conn => conn.point.isForgetting) = false) :
    Settled s (.resume id world) := by
  intro conn p r hc hp
  rw [hc] at h
  simp [hp, Point.isForgetting] at h

theorem sample_digest_recorded : (run (step revocationConfig) new
        (tokenRegistration.map Cue.event)).registry.peerAuthTokenDigests.lookup "alice" =
      some (serviceTokenRevocationDigest "token") ∧
    ((step revocationConfig (run (step revocationConfig) new
        (tokenRegistration.map Cue.event))
        (.resume 0 { sampleWorld 0 with
          revocationList := .ok (serviceTokenRevocationDigest "token") })).2.connections[0]?).map
        point =
      some (.unlisting "alice" (.error (.protocol "relay authentication failed"))) := by
  have hf : tokenRegistration.all (Cue.fits revocationConfig.limits) = true := by decide
  have hu := run_events revocationConfig rfl rfl new tokenRegistration hf
  have hs : Along (step revocationConfig) Settled new
      (tokenRegistration.map Cue.event) :=
    (along_events revocationConfig rfl rfl new tokenRegistration hf).mpr
      ⟨trivial, trivial, settled_of_point rfl, settled_of_point rfl, trivial, trivial⟩
  have hr : Recorded revocationConfig (tokenRegistration.map Cue.event) 0 "alice" "token" := by
    refine ⟨(tokenRegistration.take 3).map Cue.event, sampleWorld 0,
      (tokenRegistration.drop 4).map Cue.event, rfl, ?_⟩
    rw [run_events revocationConfig rfl rfl new _ (by decide)]
    exact ⟨_, rfl, rfl⟩
  have hm := settled_digests_recorded revocationConfig (tokenRegistration.map Cue.event)
    hs 0 "alice" "token" hr (by rw [hu]; rfl)
  refine ⟨hm.1, (hm.2 ⟨"192.0.2.1", some "alice", false,
    .authorizing ⟨"alice", "bob", "aGk="⟩⟩ _ _ (by rw [hu]; rfl) rfl ?_).2⟩
  show Except.ok (listsDigest _ _) = Except.ok true
  rw [listsDigest_self]

/-- The first connection of a peer is ending when a second one registers the peer, with another
token. -/
def crossedRegistration : List Cue :=
  [.accept "192.0.2.1", .hear 0 (.register "alice" (some "first")) (sampleWorld 0),
    .resume 0 (sampleWorld 0), .resume 0 (sampleWorld 0),
    .accept "192.0.2.2",
    .hear 0 (.datagram ⟨"bob", "alice", ""⟩) (sampleWorld 0), .resume 0 (sampleWorld 0),
    .hear 1 (.register "alice" (some "second")) (sampleWorld 0),
    .resume 1 (sampleWorld 0), .resume 1 (sampleWorld 0),
    .resume 0 (sampleWorld 0),
    .hear 1 (.datagram ⟨"alice", "bob", "aGk="⟩) (sampleWorld 0)]

/-- The digest of the second token is gone while its connection is registered, and a datagram
from it passes although the digest is revoked. -/
theorem crossed_registration_loses_digest :
    Recorded revocationConfig (crossedRegistration.map Cue.event) 1 "alice" "second" ∧
      (run (step revocationConfig) new
        (crossedRegistration.map Cue.event)).registry.peers.lookup "alice" = some 1 ∧
      (run (step revocationConfig) new
        (crossedRegistration.map Cue.event)).registry.peerAuthTokenDigests.lookup "alice" = none ∧
      ((step revocationConfig (run (step revocationConfig) new
          (crossedRegistration.map Cue.event))
          (.resume 1 { sampleWorld 0 with
            revocationList := .ok (serviceTokenRevocationDigest "second") })).2.connections[1]?).map
          point =
        some (.metering ⟨"alice", "bob", "aGk="⟩) := by
  have hr := run_events revocationConfig rfl rfl new crossedRegistration
    (by decide)
  refine ⟨?_, by rw [hr]; rfl, by rw [hr]; rfl, by rw [hr]; rfl⟩
  refine ⟨(crossedRegistration.take 9).map Cue.event, sampleWorld 0,
    (crossedRegistration.drop 10).map Cue.event, rfl, ?_⟩
  rw [run_events revocationConfig rfl rfl new _ (by decide)]
  exact ⟨_, rfl, rfl⟩

end QuantumLink.Relay
