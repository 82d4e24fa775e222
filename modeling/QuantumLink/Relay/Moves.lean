import QuantumLink.Relay.Service

/-! # The steps of the relay

Everything a step can do, as one relation for a line that arrives, one for a lock that is taken
and one for the service. What holds of every run is derived from these; here it is that a
handler's locals fit the point it waits at, and that a handler which has not begun to end its
registration is the one its peer id maps to.
-/

namespace QuantumLink.Relay

open Device (QlinkError)
open Json (stringBytes)
open Connection

variable {config : RelayConfig} {id : ConnId} {world : World} {limiter : AdmissionLimiter}

/-- The reads bring the message to the relay. -/
def Carries (config : RelayConfig) (reads : List Read) (message : RelayMessage) : Prop :=
  ∃ line, readBoundedLine config.limits "relay" [] reads = some (.ok (some line), []) ∧
    config.fromSlice (trimLine line) = .ok message

/-- The reads bring a registration that is looked up in the revocation list. -/
structure Consults (config : RelayConfig) (world : World) (reads : List Read)
    (limiter : AdmissionLimiter) (conn : Connection) (peerId : String)
    (authToken : Option String) : Prop where
  carries : Carries config reads (.register peerId authToken)
  admitted : (limiter.check config.admission.rateLimit world.now conn.peerIp "relay").1 = .ok ()
  short : (stringBytes peerId).length ≤ config.limits.relayMaxPeerIdBytes

inductive Received (config : RelayConfig) (id : ConnId) (world : World) (reads : List Read)
    (limiter : AdmissionLimiter) (conn : Connection) : Connection → List Sent → Prop
  | stayed : Received config id world reads limiter conn conn []
  | left (result : Except QlinkError Unit) :
      Received config id world reads limiter conn (conn.leave result) []
  | refused (message : String) (hpending : conn.pendingWriter = true)
      (hwrite : world.write = .ok ()) :
      Received config id world reads limiter conn (conn.leave (.ok ()))
        [(id, (RelayMessage.error message).toLine)]
  | unwritten (err : String) (hpending : conn.pendingWriter = true)
      (hwrite : world.write = .error err) :
      Received config id world reads limiter conn (conn.quit (.io err)) []
  | unreadable (peerId : String) (authToken : Option String) (error : QlinkError)
      (hconsults : Consults config world reads limiter conn peerId authToken)
      (hrevoked : config.admission.tokenIsRevoked world.revocationList authToken = .error error) :
      Received config id world reads limiter conn (conn.quit error) []
  | registering (peerId : String) (authToken : Option String)
      (hpending : conn.pendingWriter = true) :
      Received config id world reads limiter conn
        { conn with pendingWriter := false, point := .registering peerId authToken } []
  | authorizing (d : Datagram) (hcarries : Carries config reads (.datagram d))
      (hsource : conn.registeredPeer = some d.source) :
      Received config id world reads limiter conn { conn with point := .authorizing d } []

theorem received_refuse (reads : List Read) (conn : Connection) (m : String) :
    Received config id world reads limiter conn (conn.refuse id world m).1
      (conn.refuse id world m).2 := by
  unfold refuse
  by_cases hp : conn.pendingWriter = true
  · rw [if_pos hp]
    cases hw : world.write with
    | ok _ => exact .refused m hp hw
    | error err => exact .unwritten err hp hw
  · rw [if_neg hp]
    exact .left _

variable {reads : List Read} {peerId : String} {authToken : Option String}

theorem received_register
    (conn : Connection) (hc : Carries config reads (.register peerId authToken)) (ha :
      (limiter.check config.admission.rateLimit world.now conn.peerIp "relay").1 = .ok ()) :
    Received config id world reads limiter conn (conn.register config id world peerId authToken).1
      (conn.register config id world peerId authToken).2 := by
  unfold register
  by_cases hl : config.limits.relayMaxPeerIdBytes < (stringBytes peerId).length
  · rw [if_pos hl]
    exact received_refuse reads conn _
  · rw [if_neg hl]
    split
    · next error hr =>
        exact .unreadable peerId authToken error ⟨hc, ha, by omega⟩ hr
    · exact received_refuse reads conn _
    · split
      · exact received_refuse reads conn _
      · by_cases hp : conn.pendingWriter = true
        · rw [if_pos hp]
          exact .registering peerId authToken hp
        · rw [if_neg hp]
          exact .stayed

theorem received_datagram (conn : Connection) (hc : Carries config reads (.datagram d)) :
    Received config id world reads limiter conn (conn.datagram config d) [] := by
  unfold datagram
  split_ifs with hi hp hs
  · exact .left _
  · exact .left _
  · exact .left _
  · exact .authorizing d hc (not_not.mp hs)

theorem received_receive (reads : List Read) (limiter : AdmissionLimiter) (conn : Connection) :
    Received config id world reads limiter conn (conn.receive config id world reads limiter).1.1
      (conn.receive config id world reads limiter).1.2 := by
  unfold receive
  split
  · exact .left _
  · exact received_refuse reads conn _
  · next line hl =>
      split
      · exact received_refuse reads conn _
      · next rest hh =>
          split
          · next message hm =>
              have hc : Carries config reads message := ⟨line, hl, hm⟩
              cases message with
              | register p a =>
                exact received_register conn hc (by rw [hh])
              | registered _ | error _ => exact .stayed
              | datagram d => exact received_datagram conn hc
          · exact .left _
  · exact .stayed

inductive Resumed (config : RelayConfig) (id : ConnId) (world : World) (registry : RelayRegistry)
    (conn : Connection) : Connection → List Sent → RelayRegistry → Prop
  | stayed (hpoint : conn.point = .reading ∨ ∃ result, conn.point = .returned result) :
      Resumed config id world registry conn conn [] registry
  | refused (peerId : String) (authToken : Option String) (message : String)
      (hpoint : conn.point = .registering peerId authToken) :
      Resumed config id world registry conn (conn.leave (.ok ()))
        [(id, (RelayMessage.error message).toLine)] registry
  | unwritten (peerId : String) (authToken : Option String) (err : String)
      (hpoint : conn.point = .registering peerId authToken) :
      Resumed config id world registry conn (conn.quit (.io err)) [] registry
  | enlisted (peerId : String) (hpoint : conn.point = .registering peerId none)
      (hfree : registry.peers.lookup peerId = none)
      (hroom : registry.peers.size < config.limits.relayMaxRegisteredPeers) :
      Resumed config id world registry conn
        { conn with registeredPeer := some peerId, point := .reading }
        [(id, (RelayMessage.registered peerId).toLine)]
        { registry with peers := registry.peers.insert peerId id }
  | enlistedWith (peerId authToken : String)
      (hpoint : conn.point = .registering peerId (some authToken))
      (hfree : registry.peers.lookup peerId = none)
      (hroom : registry.peers.size < config.limits.relayMaxRegisteredPeers) :
      Resumed config id world registry conn { conn with point := .recording peerId authToken }
        [(id, (RelayMessage.registered peerId).toLine)]
        { registry with peers := registry.peers.insert peerId id }
  | recorded (peerId authToken : String) (hpoint : conn.point = .recording peerId authToken) :
      Resumed config id world registry conn
        { conn with registeredPeer := some peerId, point := .reading } []
        { registry with
          peerAuthTokenDigests := registry.peerAuthTokenDigests.insert peerId
            (serviceTokenRevocationDigest authToken) }
  | unreadable (d : Datagram) (error : QlinkError) (hpoint : conn.point = .authorizing d)
      (hrevoked : config.admission.tokenDigestIsRevoked world.revocationList
        (registry.peerAuthTokenDigests.lookup d.source) = .error error) :
      Resumed config id world registry conn (conn.quit error) [] registry
  | revoked (d : Datagram) (hpoint : conn.point = .authorizing d) :
      Resumed config id world registry conn
        { conn with
          point := .unlisting d.source (.error (.protocol "relay authentication failed")) }
        [] registry
  | authorized (d : Datagram) (hpoint : conn.point = .authorizing d) :
      Resumed config id world registry conn { conn with point := .metering d } [] registry
  | unmetered (d : Datagram) (hpoint : conn.point = .metering d) :
      Resumed config id world registry conn { conn with point := .forwarding d } [] registry
  | metered (d : Datagram) (hpoint : conn.point = .metering d) :
      Resumed config id world registry conn { conn with point := .counting d world.now } []
        registry
  | counted (d : Datagram) (now : Nat) (conn' : Connection)
      (hpoint : conn.point = .counting d now)
      (hnext : conn' = { conn with point := .forwarding d } ∨
        ∃ error, conn' = conn.leave (.error error)) :
      Resumed config id world registry conn conn' []
        { registry with
          peerDatagramBuckets := registry.peerDatagramBuckets.insert d.source
            (FixedWindow.check config.limits.relayMaxPeerDatagramsPerWindow
              config.limits.relayPeerDatagramWindow now
              (registry.peerDatagramBuckets.lookup d.source)).2 }
  | forwarded (d : Datagram) (writer : ConnId) (hpoint : conn.point = .forwarding d)
      (hfound : registry.peers.lookup d.destination = some writer) :
      Resumed config id world registry conn { conn with point := .reading }
        [(writer, (RelayMessage.datagram d).toLine)] registry
  | unforwarded (d : Datagram) (writer : ConnId) (err : String)
      (hpoint : conn.point = .forwarding d)
      (hfound : registry.peers.lookup d.destination = some writer)
      (hwrite : world.write = .error err) :
      Resumed config id world registry conn (conn.quit (.io err)) [] registry
  | undelivered (d : Datagram) (hpoint : conn.point = .forwarding d) :
      Resumed config id world registry conn { conn with point := .reading } [] registry
  | unlisted (peerId : String) (result : Except QlinkError Unit)
      (hpoint : conn.point = .unlisting peerId result) :
      Resumed config id world registry conn { conn with point := .forgetting peerId result } []
        { registry with peers := registry.peers.erase peerId }
  | forgotten (peerId : String) (result : Except QlinkError Unit)
      (hpoint : conn.point = .forgetting peerId result) :
      Resumed config id world registry conn { conn with point := .releasing peerId result } []
        { registry with peerAuthTokenDigests := registry.peerAuthTokenDigests.erase peerId }
  | released (peerId : String) (result : Except QlinkError Unit)
      (hpoint : conn.point = .releasing peerId result) :
      Resumed config id world registry conn { conn with point := .returned result } []
        { registry with peerDatagramBuckets := registry.peerDatagramBuckets.erase peerId }

variable {registry : RelayRegistry} {conn : Connection}

theorem resumed_refuseRegistration (hp : conn.point = .registering peerId authToken) (m : String) :
    Resumed config id world registry conn (conn.refuseRegistration id world m).1
      (conn.refuseRegistration id world m).2 registry := by
  unfold refuseRegistration
  cases world.write with
  | ok _ => exact .refused peerId authToken m hp
  | error err => exact .unwritten peerId authToken err hp

theorem resumed_enlist (hp : conn.point = .registering peerId authToken) :
    Resumed config id world registry conn
      (conn.enlist config id world peerId authToken registry).1.1
      (conn.enlist config id world peerId authToken registry).1.2
      (conn.enlist config id world peerId authToken registry).2 := by
  unfold enlist
  split_ifs with ht hu
  · exact resumed_refuseRegistration hp _
  · exact resumed_refuseRegistration hp _
  · have hf : registry.peers.lookup peerId = none := by simpa using ht
    have hr : registry.peers.size < config.limits.relayMaxRegisteredPeers := by omega
    cases world.write with
    | error err => exact .unwritten peerId authToken err hp
    | ok _ =>
      cases authToken with
      | none => exact .enlisted peerId hp hf hr
      | some t => exact .enlistedWith peerId t hp hf hr

theorem resumed_resume (registry : RelayRegistry) (conn : Connection) :
    Resumed config id world registry conn (conn.resume config id world registry).1.1
      (conn.resume config id world registry).1.2 (conn.resume config id world registry).2 := by
  unfold resume
  cases hp : conn.point with
  | reading => exact .stayed (.inl hp)
  | registering p a => exact resumed_enlist hp
  | recording p a => exact .recorded p a hp
  | authorizing d =>
    simp only [authorize]
    split
    · next error hr => exact .unreadable d error hp hr
    · exact .revoked d hp
    · exact .authorized d hp
  | metering d =>
    simp only [meter]
    split_ifs
    · exact .unmetered d hp
    · exact .metered d hp
  | counting d now =>
    simp only [count]
    split_ifs
    · exact .counted d now _ hp (.inl rfl)
    · exact .counted d now _ hp (.inr ⟨_, rfl⟩)
  | forwarding d =>
    simp only [forward]
    split
    · next writer hf =>
        cases hw : world.write with
        | ok _ => exact .forwarded d writer hp hf
        | error err => exact .unforwarded d writer err hp hf hw
    · exact .undelivered d hp
  | unlisting p r => exact .unlisted p r hp
  | forgetting p r => exact .forgotten p r hp
  | releasing p r => exact .released p r hp
  | returned r => exact .stayed (.inr ⟨r, hp⟩)

inductive Stepped (config : RelayConfig) (s : RelayState) :
    Event → List Sent → RelayState → Prop
  | ignored (event : Event) (hevent : ∀ id world, event ≠ .resume id world) :
      Stepped config s event [] s
  | blocked (id : ConnId) (world : World)
      (hblocked : ∀ conn, s.connections[id]? = some conn →
        conn.point.locksPeers = true ∧ s.peersLocked = true) :
      Stepped config s (.resume id world) [] s
  | accepted (peerIp : IpAddr) :
      Stepped config s (.accept peerIp) []
        { s with connections := s.connections ++ [Connection.new peerIp] }
  | received (id : ConnId) (reads : List Read) (world : World) (conn conn' : Connection)
      (sent : List Sent) (limiter : AdmissionLimiter) (hconn : s.connections[id]? = some conn)
      (hpoint : conn.point = .reading)
      (hmove : Received config id world reads s.limiter conn conn' sent) :
      Stepped config s (.deliver id reads world) sent
        { s with limiter, connections := s.connections.set id conn' }
  | resumed (id : ConnId) (world : World) (conn conn' : Connection) (sent : List Sent)
      (registry : RelayRegistry) (hconn : s.connections[id]? = some conn)
      (hunlocked : conn.point.locksPeers = true → s.peersLocked = false)
      (hmove : Resumed config id world s.registry conn conn' sent registry) :
      Stepped config s (.resume id world) sent
        { s with registry, connections := s.connections.set id conn' }

theorem step_stepped (config : RelayConfig) (s : RelayState) (e : Event) :
    Stepped config s e (step config s e).1 (step config s e).2 := by
  cases e with
  | accept p =>
    simp only [step]
    split_ifs
    · exact .accepted p
    · exact .ignored _ (by simp)
  | deliver id r w =>
    simp only [step]
    cases hc : s.connections[id]? with
    | none => exact .ignored _ (by simp)
    | some c =>
      by_cases hr : c.point.isReading = true
      · have hp : c.point = .reading := by
          cases hp : c.point <;> simp_all [Point.isReading]
        simp only [hr, if_true]
        exact .received id r w c _ _ _ hc hp
          (received_receive r s.limiter c)
      · simp only [hr, if_false, Bool.false_eq_true]
        exact .ignored _ (by simp)
  | resume id w =>
    simp only [step]
    cases hc : s.connections[id]? with
    | none => exact .blocked id w (by simp [hc])
    | some c =>
      by_cases hl : (c.point.locksPeers && s.peersLocked) = true
      · simp only [hl, if_true]
        refine .blocked id w ?_
        intro other ho
        cases hc.symm.trans ho
        simpa using hl
      · have hu : c.point.locksPeers = true → s.peersLocked = false := by
          simpa using hl
        simp only [hl, if_false, Bool.false_eq_true]
        exact .resumed id w c _ _ _ hc hu (resumed_resume s.registry c)

/-! ## Handlers and their peer ids -/

def Point.Fits (registeredPeer : Option String) (pendingWriter : Bool) : Point → Prop
  | .registering _ _ | .recording _ _ => registeredPeer = none ∧ pendingWriter = false
  | .authorizing d | .metering d | .counting d _ | .forwarding d => registeredPeer = some d.source
  | .unlisting peerId _ | .forgetting peerId _ | .releasing peerId _ => registeredPeer = some peerId
  | .reading | .returned _ => True

namespace Connection

structure Consistent (conn : Connection) : Prop where
  pending : conn.pendingWriter = true → conn.registeredPeer = none
  fits : conn.point.Fits conn.registeredPeer conn.pendingWriter

/-- The peer id under which the handler is in `peers`, as far as it has not ended that. -/
def listed (conn : Connection) : Option String :=
  match conn.point with
  | .recording peerId _ => some peerId
  | .forgetting _ _ | .releasing _ _ | .returned _ => none
  | _ => conn.registeredPeer

theorem Consistent.new (p : IpAddr) : (new p).Consistent where
  pending _ := rfl
  fits := trivial

variable {conn : Connection}

theorem leave_of_none (h : conn.registeredPeer = none) (r : Except QlinkError Unit) :
    conn.leave r = { conn with point := .returned r } := by
  rw [leave, h]

theorem leave_of_some (h : conn.registeredPeer = some peerId) (r : Except QlinkError Unit) :
    conn.leave r = { conn with point := .unlisting peerId r } := by
  rw [leave, h]

theorem Consistent.leave (h : conn.Consistent)
    (r : Except QlinkError Unit) : (conn.leave r).Consistent := by
  cases hp : conn.registeredPeer with
  | none =>
    rw [leave_of_none hp]
    exact ⟨h.pending, trivial⟩
  | some p =>
    rw [leave_of_some hp]
    exact ⟨h.pending, hp⟩

theorem Consistent.quit (h : conn.Consistent) (error : QlinkError) :
    (conn.quit error).Consistent := ⟨h.pending, trivial⟩

@[simp] theorem listed_leave (conn : Connection) (r : Except QlinkError Unit) :
    (conn.leave r).listed = conn.registeredPeer := by
  cases hp : conn.registeredPeer with
  | none =>
    rw [leave_of_none hp]
    rfl
  | some p =>
    rw [leave_of_some hp]
    exact hp

theorem Consistent.sending (h : conn.Consistent)
    (hp : conn.point = .authorizing d ∨ conn.point = .metering d ∨
      (∃ now, conn.point = .counting d now) ∨ conn.point = .forwarding d) :
    conn.registeredPeer = some d.source := by
  have hf := h.fits
  rcases hp with hp | hp | ⟨now, hp⟩ | hp <;>
    · rw [hp] at hf
      exact hf

end Connection

variable {conn' : Connection} {sent : List Sent}

theorem Received.consistent
    (h : conn.Consistent) (hm : Received config id world reads limiter conn conn' sent) :
    conn'.Consistent := by
  cases hm with
  | stayed => exact h
  | left r => exact h.leave r
  | refused m hp hw => exact h.leave _
  | unwritten err hp hw | unreadable p a error hc hr => exact h.quit _
  | registering p a hp => exact ⟨fun hf => absurd hf (by simp), h.pending hp, rfl⟩
  | authorizing d ha hs => exact ⟨h.pending, hs⟩

theorem Resumed.consistent (h : conn.Consistent)
    (hm : Resumed config id world registry conn conn' sent registry') : conn'.Consistent := by
  have he := h.pending
  have hi := h.fits
  cases hm with
  | stayed hp => exact h
  | refused p a m hp => exact h.leave _
  | unwritten p a err hp | unreadable d error hp hre => exact h.quit _
  | enlisted p hp hfr hr | recorded p a hp =>
    rw [hp] at hi
    exact ⟨fun hw => absurd (hi.2.symm.trans hw) (by simp), trivial⟩
  | enlistedWith p a hp hfr hr | unlisted p r hp =>
    rw [hp] at hi
    exact ⟨he, hi⟩
  | revoked d hp | authorized d hp => exact ⟨he, h.sending (by simp [hp])⟩
  | unmetered d hp | metered d hp => exact ⟨he, h.sending (by simp [hp])⟩
  | counted d now conn' hp hn =>
    rcases hn with rfl | ⟨error, rfl⟩
    · exact ⟨he, h.sending (by simp [hp])⟩
    · exact h.leave _
  | forwarded d w hp hf | undelivered d hp => exact ⟨he, trivial⟩
  | unforwarded d w err hp hf hwr => exact h.quit _
  | forgotten p r hp =>
    rw [hp] at hi
    exact ⟨he, hi⟩
  | released p r hp => exact ⟨he, trivial⟩

/-! ## The table of peers -/

/-- What a step of one handler does to `peers`. -/
inductive Relisted (limit : Nat) (id : ConnId) (peers : Table String ConnId)
    (conn conn' : Connection) : Table String ConnId → Prop
  | kept (hlisted : conn'.listed = conn.listed ∨ conn'.listed = none) :
      Relisted limit id peers conn conn' peers
  | added (peerId : String) (hnew : conn.registeredPeer = none)
      (hfree : peers.lookup peerId = none) (hroom : peers.size < limit)
      (hlisted : conn'.listed = some peerId) :
      Relisted limit id peers conn conn' (peers.insert peerId id)
  | removed (peerId : String) (hlisted : conn.listed = some peerId)
      (hnext : conn'.listed = none) : Relisted limit id peers conn conn' (peers.erase peerId)

theorem Received.relisted
    (ho : conn.point = .reading) (hm : Received config id world reads limiter conn conn' sent)
    (l : Nat) (peers : Table String ConnId) : Relisted l id peers conn conn' peers := by
  have hl : conn.listed = conn.registeredPeer := by simp [listed, ho]
  apply Relisted.kept
  cases hm with
  | stayed => exact .inl rfl
  | left r | refused m hp hw => exact .inl (by rw [listed_leave, hl])
  | unwritten err hp hw | unreadable p a error hc hr => exact .inr rfl
  | registering p a hp | authorizing d ha hs => exact .inl hl.symm

theorem Resumed.relisted (h : conn.Consistent)
    (hm : Resumed config id world registry conn conn' sent registry') :
    Relisted config.limits.relayMaxRegisteredPeers id registry.peers conn conn' registry'.peers := by
  have hi := h.fits
  cases hm with
  | stayed hp => exact .kept (.inl rfl)
  | refused p a m hp =>
    exact .kept (.inl (by rw [listed_leave]; simp [listed, hp]))
  | unwritten p a err hp | unreadable d error hp he => exact .kept (.inr rfl)
  | enlisted p hp hf hr | enlistedWith p a hp hf hr =>
    rw [hp] at hi
    exact .added p hi.1 hf hr rfl
  | recorded p a hp | forwarded d w hp ho =>
    exact .kept (.inl (by simp [listed, hp]))
  | revoked d hp | authorized d hp => exact .kept (.inl (by simp [listed, hp]))
  | unmetered d hp | metered d hp => exact .kept (.inl (by simp [listed, hp]))
  | counted d now conn' hp hn =>
    refine .kept (.inl ?_)
    rcases hn with rfl | ⟨error, rfl⟩
    · simp [listed, hp]
    · rw [listed_leave]
      simp [listed, hp]
  | unforwarded d w err hp ho hw | forgotten p r hp => exact .kept (.inr rfl)
  | undelivered d hp => exact .kept (.inl (by simp [listed, hp]))
  | unlisted p r hp =>
    rw [hp] at hi
    have hl : conn.listed = conn.registeredPeer := by simp [listed, hp]
    exact .removed p (hl.trans hi) rfl
  | released p r hp => exact .kept (.inr rfl)

structure RelayState.WellFormed (s : RelayState) : Prop where
  consistent : ∀ (id : ConnId) (conn : Connection), s.connections[id]? = some conn → conn.Consistent
  owner : ∀ (id : ConnId) (conn : Connection) (peerId : String),
    s.connections[id]? = some conn → conn.listed = some peerId →
    s.registry.peers.lookup peerId = some id

variable {s : RelayState}

/-- A change of one handler keeps every handler the owner of its peer id. -/
theorem RelayState.WellFormed.set (h : s.WellFormed) {id : ConnId} (limiter : AdmissionLimiter)
    (hc : s.connections[id]? = some conn) (hco : conn'.Consistent)
    (hp : Relisted limit id s.registry.peers conn conn' registry.peers) :
    RelayState.WellFormed ⟨registry, limiter, s.connections.set id conn'⟩ where
  consistent j other ht := by
    rcases getElem?_set_eq_some ht with ⟨-, rfl⟩ | ⟨-, hol⟩
    · exact hco
    · exact h.consistent j other hol
  owner j other peerId ht hl := by
    generalize registry.peers = peers at hp ⊢
    cases hp with
    | kept hk =>
      rcases getElem?_set_eq_some ht with ⟨rfl, rfl⟩ | ⟨-, hol⟩
      · rcases hk with hk | hk
        · exact h.owner j conn peerId hc (hk ▸ hl)
        · rw [hk] at hl
          cases hl
      · exact h.owner j other peerId hol hl
    | added added hnew hf hro ha =>
      rcases getElem?_set_eq_some ht with ⟨rfl, rfl⟩ | ⟨-, hol⟩
      · cases ha.symm.trans hl
        exact Finmap.lookup_insert _
      · have ho := h.owner j other peerId hol hl
        have hne : peerId ≠ added := by
          rintro rfl
          rw [hf] at ho
          cases ho
        rw [Finmap.lookup_insert_of_ne _ hne]
        exact ho
    | removed removed hr hn =>
      rcases getElem?_set_eq_some ht with ⟨rfl, rfl⟩ | ⟨hne, hol⟩
      · rw [hn] at hl
        cases hl
      · have ho := h.owner j other peerId hol hl
        have he : peerId ≠ removed := by
          rintro rfl
          exact hne (Option.some.inj (ho.symm.trans (h.owner id conn peerId hc hr)))
        rw [Finmap.lookup_erase_ne he]
        exact ho

theorem Stepped.wellFormed
    (hs : Stepped config s event sent next) (h : s.WellFormed) : next.WellFormed := by
  cases hs with
  | ignored event he | blocked id w hb => exact h
  | accepted p =>
    constructor
    · intro id conn hc
      rcases getElem?_concat_eq_some_iff.mp hc with ho | ⟨-, rfl⟩
      · exact h.consistent id conn ho
      · exact Consistent.new p
    · intro id conn pe hc hl
      rcases getElem?_concat_eq_some_iff.mp hc with ho | ⟨-, rfl⟩
      · exact h.owner id conn pe ho hl
      · cases hl
  | received id reads w conn conn' sent limiter hc hp hm =>
    exact h.set limiter hc (hm.consistent (h.consistent id conn hc))
      (hm.relisted hp 0 _)
  | resumed id w conn conn' sent registry hc hu hm =>
    have hco := h.consistent id conn hc
    exact h.set s.limiter hc (hm.consistent hco) (hm.relisted hco)

theorem wellFormed_new : RelayState.new.WellFormed where
  consistent id conn hc := by simp [RelayState.new] at hc
  owner id conn peerId hc := by simp [RelayState.new] at hc

theorem run_wellFormed (config : RelayConfig) (ev : List Event) :
    (run (step config) RelayState.new ev).WellFormed :=
  run_invariant RelayState.WellFormed
    (fun s e h => (step_stepped config s e).wellFormed h) wellFormed_new ev

theorem RelayState.WellFormed.owner_unique (h : s.WellFormed) {i j : ConnId}
    {o : Connection} (hi : s.connections[i]? = some conn)
    (hj : s.connections[j]? = some o) (hc : conn.listed = some peerId)
    (ho : o.listed = some peerId) : i = j :=
  Option.some.inj ((h.owner i conn peerId hi hc).symm.trans (h.owner j o peerId hj ho))

end QuantumLink.Relay
