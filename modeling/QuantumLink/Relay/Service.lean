import QuantumLink.Relay.Messages

/-! # The relay service

`handle_connection` of the relay, for any number of connections at once. A handler is cut at the
points where it waits for a lock, so that a run may interleave the handlers at every lock
boundary. A handler that has put a peer into `peers` and waits for the lock of the token digests
still holds the lock of `peers`.

What the outside does at a step is given with the step: the bytes a client sends, whether a
write succeeds, the contents of the two files and the clock. The reader of JSON belongs to
another crate and is a parameter.
-/

namespace QuantumLink.Relay

open Device (QlinkError)
open List
open Json (stringBytes)

/-- A connection, by its position in the list of those accepted. -/
abbrev ConnId := Nat

structure RelayRegistry where
  /-- The connection whose writer a peer id maps to. -/
  peers : Table String ConnId
  peerAuthTokenDigests : Table String String
  peerDatagramBuckets : Table String FixedWindow.Bucket

/-- Where a handler waits. -/
inductive Point where
  | reading
  /-- For the lock of `peers`, to register. -/
  | registering (peerId : String) (authToken : Option String)
  /-- For the lock of the digests, holding the lock of `peers`. -/
  | recording (peerId : String) (authToken : String)
  /-- For the lock of the digests, to look for a revocation. -/
  | authorizing (datagram : Datagram)
  /-- For the clock. -/
  | metering (datagram : Datagram)
  /-- For the lock of the buckets, with the time read. -/
  | counting (datagram : Datagram) (now : Nat)
  /-- For the lock of `peers`, to forward. -/
  | forwarding (datagram : Datagram)
  /-- For the three locks of `end_relay_registration`, in turn. -/
  | unlisting (peerId : String) (result : Except QlinkError Unit)
  | forgetting (peerId : String) (result : Except QlinkError Unit)
  | releasing (peerId : String) (result : Except QlinkError Unit)
  | returned (result : Except QlinkError Unit)

/-- The locals of a handler. -/
structure Connection where
  peerIp : IpAddr
  registeredPeer : Option String
  pendingWriter : Bool
  point : Point

structure RelayState where
  registry : RelayRegistry
  limiter : AdmissionLimiter
  connections : List Connection

structure RelayConfig where
  admission : ServiceAdmissionConfig
  limits : ServiceLimitsConfig
  /-- `serde_json::from_slice`, with the text of its error. -/
  fromSlice : Bytes → Except String RelayMessage

/-- What the outside does at a step: the clock, a write to a client, and the two files. -/
structure World where
  now : Nat
  write : Except String Unit
  revocationList : Except String String
  tokenFile : Except String String

/-- A line written to a connection. -/
abbrev Sent := ConnId × Bytes

namespace Connection

def new (peerIp : IpAddr) : Connection := ⟨peerIp, none, true, .reading⟩

variable (conn : Connection)

/-- Return after the registration, if there is one, has been ended. -/
def leave (result : Except QlinkError Unit) : Connection :=
  match conn.registeredPeer with
  | some peerId => { conn with point := .unlisting peerId result }
  | none => { conn with point := .returned result }

/-- Return at once: what `?` does with an error. -/
def quit (error : QlinkError) : Connection :=
  { conn with point := .returned (.error error) }

/-- Write an error to the client while its writer is still here, and leave. -/
def refuse (id : ConnId) (world : World) (message : String) (conn : Connection) :
    Connection × List Sent :=
  if conn.pendingWriter then
    match world.write with
    | .ok () => (conn.leave (.ok ()), [(id, (RelayMessage.error message).toLine)])
    | .error err => (conn.quit (.io err), [])
  else (conn.leave (.ok ()), [])

/-! ## A line from the client -/

variable (config : RelayConfig)

/-- A `Register` message, up to the lock of `peers`. -/
def register (id : ConnId) (world : World) (peerId : String) (authToken : Option String)
    (conn : Connection) : Connection × List Sent :=
  if config.limits.relayMaxPeerIdBytes < (stringBytes peerId).length then
    conn.refuse id world
      ("relay peer ID exceeds " ++ toString config.limits.relayMaxPeerIdBytes ++ " bytes")
  else
    match config.admission.tokenIsRevoked world.revocationList authToken with
    | .error error => (conn.quit error, [])
    | .ok true => conn.refuse id world "relay authentication failed"
    | .ok false =>
      match config.admission.requireToken world.tokenFile authToken "relay" with
      | .error error => conn.refuse id world (errorText error)
      | .ok () =>
        -- A second registration on a connection is passed over.
        if conn.pendingWriter then
          ({ conn with pendingWriter := false, point := .registering peerId authToken }, [])
        else (conn, [])

/-- A `Datagram` message, up to the lock of the token digests. -/
def datagram (config : RelayConfig) (d : Datagram) (conn : Connection) : Connection :=
  if config.limits.relayMaxPeerIdBytes < (stringBytes d.source).length ∨
      config.limits.relayMaxPeerIdBytes < (stringBytes d.destination).length then
    conn.leave (.error (.protocol
      ("relay peer ID exceeds " ++ toString config.limits.relayMaxPeerIdBytes ++ " bytes")))
  else if encodedPayloadExceedsLimit d.payloadBase64 config.limits.relayMaxPayloadBytes then
    conn.leave (.error (.protocol
      ("relay datagram payload exceeds " ++ toString config.limits.relayMaxPayloadBytes ++
        " bytes")))
  else if conn.registeredPeer ≠ some d.source then
    conn.leave (.error (.protocol "relay datagram source does not match registered peer"))
  else { conn with point := .authorizing d }

def message (id : ConnId) (world : World) (conn : Connection) :
    RelayMessage → Connection × List Sent
  | .register peerId authToken => conn.register config id world peerId authToken
  | .registered _ => (conn, [])
  | .datagram d => (conn.datagram config d, [])
  | .error _ => (conn, [])

/-- One turn of the loop, from the reads of the line on. -/
def receive (id : ConnId) (world : World) (reads : List Read) (limiter : AdmissionLimiter)
    (conn : Connection) :
    (Connection × List Sent) × AdmissionLimiter :=
  match readBoundedLine config.limits "relay" [] reads with
  | some (.ok none, []) => ((conn.leave (.ok ()), []), limiter)
  | some (.error error, []) => (conn.refuse id world (errorText error), limiter)
  | some (.ok (some line), []) =>
    match limiter.check config.admission.rateLimit world.now conn.peerIp "relay" with
    | (.error error, limiter) => (conn.refuse id world (errorText error), limiter)
    | (.ok (), limiter) =>
      match config.fromSlice (trimLine line) with
      | .ok message => (conn.message config id world message, limiter)
      | .error error => ((conn.leave (.error (.json error)), []), limiter)
  | _ => ((conn, []), limiter)

/-! ## The steps that take a lock -/

/-- What a refused registration does: its writer is not in `pending_writer` any more. -/
def refuseRegistration (id : ConnId) (world : World) (message : String) (conn : Connection) :
    Connection × List Sent :=
  match world.write with
  | .ok () => (conn.leave (.ok ()), [(id, (RelayMessage.error message).toLine)])
  | .error err => (conn.quit (.io err), [])

/-- `Register` under the lock of `peers`. -/
def enlist (id : ConnId) (world : World) (peerId : String) (authToken : Option String)
    (registry : RelayRegistry) (conn : Connection) :
    (Connection × List Sent) × RelayRegistry :=
  if (registry.peers.lookup peerId).isSome then
    (conn.refuseRegistration id world "relay peer ID is already registered", registry)
  else if config.limits.relayMaxRegisteredPeers ≤ registry.peers.size then
    (conn.refuseRegistration id world
      ("relay registered peer limit exceeded: " ++ toString config.limits.relayMaxRegisteredPeers),
      registry)
  else
    match world.write with
    | .error err => ((conn.quit (.io err), []), registry)
    | .ok () =>
      let registry := { registry with peers := registry.peers.insert peerId id }
      let sent := [(id, (RelayMessage.registered peerId).toLine)]
      match authToken with
      | some authToken => (({ conn with point := .recording peerId authToken }, sent), registry)
      | none =>
        (({ conn with registeredPeer := some peerId, point := .reading }, sent), registry)

variable (world : World)

/-- `registered_relay_peer_is_revoked` and what follows it. -/
def authorize (d : Datagram) (registry : RelayRegistry) (conn : Connection) :
    Connection :=
  match config.admission.tokenDigestIsRevoked world.revocationList
      (registry.peerAuthTokenDigests.lookup d.source) with
  | .error error => conn.quit error
  | .ok true =>
    { conn with point := .unlisting d.source (.error (.protocol "relay authentication failed")) }
  | .ok false => { conn with point := .metering d }

/-- `check_peer_datagram_quota` up to its lock. -/
def meter (d : Datagram) (conn : Connection) : Connection :=
  if config.limits.relayMaxPeerDatagramsPerWindow = 0 ∨
      config.limits.relayPeerDatagramWindow = 0 then
    { conn with point := .forwarding d }
  else { conn with point := .counting d world.now }

/-- `check_peer_datagram_quota` under the lock of the buckets. -/
def count (d : Datagram) (now : Nat) (registry : RelayRegistry) (conn : Connection) :
    Connection × RelayRegistry :=
  let (passed, bucket) :=
    FixedWindow.check config.limits.relayMaxPeerDatagramsPerWindow
      config.limits.relayPeerDatagramWindow now (registry.peerDatagramBuckets.lookup d.source)
  let registry :=
    { registry with peerDatagramBuckets := registry.peerDatagramBuckets.insert d.source bucket }
  if passed then ({ conn with point := .forwarding d }, registry)
  else
    (conn.leave (.error (.protocol ("relay peer datagram rate exceeded: " ++
      toString config.limits.relayMaxPeerDatagramsPerWindow ++ " per " ++
      toString (config.limits.relayPeerDatagramWindow / 1000000000) ++ "s"))), registry)

/-- The write to the destination, under the lock of `peers`. -/
def forward (d : Datagram) (registry : RelayRegistry) (conn : Connection) :
    Connection × List Sent :=
  match registry.peers.lookup d.destination with
  | some writer =>
    match world.write with
    | .ok () => ({ conn with point := .reading }, [(writer, (RelayMessage.datagram d).toLine)])
    | .error err => (conn.quit (.io err), [])
  | none => ({ conn with point := .reading }, [])

def resume (id : ConnId) (world : World) (registry : RelayRegistry) (conn : Connection) :
    (Connection × List Sent) × RelayRegistry :=
  match conn.point with
  | .reading => ((conn, []), registry)
  | .registering peerId authToken => conn.enlist config id world peerId authToken registry
  | .recording peerId authToken =>
    (({ conn with registeredPeer := some peerId, point := .reading }, []),
      { registry with
        peerAuthTokenDigests := registry.peerAuthTokenDigests.insert peerId
          (serviceTokenRevocationDigest authToken) })
  | .authorizing d => ((conn.authorize config world d registry, []), registry)
  | .metering d => ((conn.meter config world d, []), registry)
  | .counting d now =>
    (((conn.count config d now registry).1, []), (conn.count config d now registry).2)
  | .forwarding d => (conn.forward world d registry, registry)
  | .unlisting peerId result =>
    (({ conn with point := .forgetting peerId result }, []),
      { registry with peers := registry.peers.erase peerId })
  | .forgetting peerId result =>
    (({ conn with point := .releasing peerId result }, []),
      { registry with peerAuthTokenDigests := registry.peerAuthTokenDigests.erase peerId })
  | .releasing peerId result =>
    (({ conn with point := .returned result }, []),
      { registry with peerDatagramBuckets := registry.peerDatagramBuckets.erase peerId })
  | .returned _ => ((conn, []), registry)

end Connection

namespace Point

/-- The lock of `peers` is held here. -/
def holdsPeers : Point → Bool
  | .recording _ _ => true
  | _ => false

/-- The next step takes the lock of `peers`. -/
def locksPeers : Point → Bool
  | .registering _ _ | .forwarding _ | .unlisting _ _ => true
  | _ => false

def isReading : Point → Bool
  | .reading => true
  | _ => false

def isReturned : Point → Bool
  | .returned _ => true
  | _ => false

theorem exists_of_isReturned {p : Point} (h : p.isReturned = true) :
    ∃ result, p = .returned result := by
  cases p with
  | returned result => exact ⟨result, rfl⟩
  | _ => cases h

end Point

namespace RelayState

def new : RelayState := ⟨⟨∅, ∅, ∅⟩, ∅, []⟩

def peersLocked (s : RelayState) : Bool := s.connections.any fun conn => conn.point.holdsPeers

/-- The handlers that still run, each with its connection permit. -/
def active (s : RelayState) : Nat := s.connections.countP fun conn => !conn.point.isReturned

end RelayState

inductive Event where
  | accept (peerIp : IpAddr)
  /-- A line, or the end of the stream, reaches a handler. -/
  | deliver (id : ConnId) (reads : List Read) (world : World)
  /-- A handler takes the lock it waits for. -/
  | resume (id : ConnId) (world : World)

/-- One step. A handler that cannot take it stays where it is. -/
def step (config : RelayConfig) (s : RelayState) : Event → List Sent × RelayState
  | .accept peerIp =>
    if config.limits.maxConcurrentConnections = 0 ∨
        s.active < config.limits.maxConcurrentConnections then
      ([], { s with connections := s.connections ++ [Connection.new peerIp] })
    else ([], s)
  | .deliver id reads world =>
    match s.connections[id]? with
    | some conn =>
      if conn.point.isReading then
        let ((conn, sent), limiter) := conn.receive config id world reads s.limiter
        (sent, { s with limiter, connections := s.connections.set id conn })
      else ([], s)
    | none => ([], s)
  | .resume id world =>
    match s.connections[id]? with
    | some conn =>
      if conn.point.locksPeers && s.peersLocked then ([], s)
      else
        let ((conn, sent), registry) := conn.resume config id world s.registry
        (sent, { s with registry, connections := s.connections.set id conn })
    | none => ([], s)

/-! ## Messages in place of lines -/

theorem Connection.receive_reads {config : RelayConfig} {id : ConnId} {m : RelayMessage} (c : Connection)
    (hp : config.fromSlice = RelayMessage.fromSlice)
    (hr : config.admission.rateLimit = none)
    (hf : m.toLine.length ≤ config.limits.maxRequestLineBytes) :
    c.receive config id world m.reads limiter = (c.message config id world m, limiter) := by
  simp [Connection.receive, RelayMessage.readBoundedLine_reads "relay" hf,
    AdmissionLimiter.check, hr, hp, RelayMessage.fromSlice_toLine]

/-- An event whose line is given by its message. -/
inductive Cue where
  | accept (peerIp : IpAddr)
  | hear (id : ConnId) (message : RelayMessage) (world : World)
  | resume (id : ConnId) (world : World)

def Cue.event : Cue → Event
  | .accept peerIp => .accept peerIp
  | .hear id message world => .deliver id message.reads world
  | .resume id world => .resume id world

/-- The line of the message is within the limit. -/
def Cue.fits (limits : ServiceLimitsConfig) : Cue → Bool
  | .hear _ message _ => decide (message.toLine.length ≤ limits.maxRequestLineBytes)
  | _ => true

/-- One step, with the message taken as read. -/
def cueStep (config : RelayConfig) (s : RelayState) : Cue → List Sent × RelayState
  | .hear id message world =>
    match s.connections[id]? with
    | some conn =>
      if conn.point.isReading then
        let (conn, sent) := conn.message config id world message
        (sent, { s with connections := s.connections.set id conn })
      else ([], s)
    | none => ([], s)
  | cue => step config s cue.event

section

variable (config : RelayConfig) (hp : config.fromSlice = RelayMessage.fromSlice)
  (hr : config.admission.rateLimit = none)

include hp hr

theorem step_event (s : RelayState) (cue : Cue) (hf : cue.fits config.limits = true) :
    step config s cue.event = cueStep config s cue := by
  cases cue with
  | accept p | resume id w => rfl
  | hear id m w =>
    have hf : m.toLine.length ≤ config.limits.maxRequestLineBytes := of_decide_eq_true hf
    simp only [Cue.event, step, cueStep]
    cases s.connections[id]? with
    | none => rfl
    | some c => simp [Connection.receive_reads c hp hr hf]

theorem run_events (s : RelayState) (cues : List Cue)
    (hf : cues.all (Cue.fits config.limits) = true) :
    run (step config) s (cues.map Cue.event) = run (cueStep config) s cues := by
  induction cues generalizing s with
  | nil => rfl
  | cons cue cues ih =>
    rw [all_cons, Bool.and_eq_true] at hf
    simp only [map_cons, run_cons, step_event config hp hr s cue hf.1]
    exact ih _ hf.2

theorem observed_events {β : Type} (n : RelayState → Event → Option β) (s : RelayState)
    (cues : List Cue) (hf : cues.all (Cue.fits config.limits) = true) :
    observed (step config) n s (cues.map Cue.event) =
      observed (cueStep config) (fun s cue => n s cue.event) s cues := by
  induction cues generalizing s with
  | nil => rfl
  | cons cue cues ih =>
    rw [all_cons, Bool.and_eq_true] at hf
    simp only [map_cons, observed, step_event config hp hr s cue hf.1]
    rw [ih _ hf.2]

theorem along_events {c : RelayState → Event → Prop} (s : RelayState) (cues : List Cue)
    (hf : cues.all (Cue.fits config.limits) = true) :
    Along (step config) c s (cues.map Cue.event) ↔
      Along (cueStep config) (fun s cue => c s cue.event) s cues := by
  induction cues generalizing s with
  | nil => exact Iff.rfl
  | cons cue cues ih =>
    rw [all_cons, Bool.and_eq_true] at hf
    simp only [map_cons, Along, step_event config hp hr s cue hf.1]
    exact and_congr Iff.rfl (ih _ hf.2)

end

def sampleConfig : RelayConfig := ⟨.unrestricted, {}, RelayMessage.fromSlice⟩

/-- Writes succeed and the files are empty. -/
def sampleWorld (now : Nat) : World := ⟨now, .ok (), .ok "", .ok ""⟩

end QuantumLink.Relay
