import QuantumLink.Foundation.Marks
import QuantumLink.Foundation.Run

/-! # Session managers and their removal

`mesh_transport` of `qlink-core`. A manager connects to its peer, takes a generation, puts a lease
into a slot it shares with the handle, announces the lease on the event stream, drives the link, and
clears the lease again. The handle removes a peer from another thread: it takes the lease out of the
slot, announces that it is cleared, and aborts the manager, which stops at its next await.

Each section under a lock and each send on a channel is one step, and steps of managers and removals
interleave freely. What a manager's awaits return is a choice. The lock of the peer map, which keeps
two removals apart, is left out: it only excludes runs. Leases are kept without transcript binding,
expiry and byte limit.
-/

namespace QuantumLink.Transport

inductive PacketSessionDirection where
  | outbound
  | inbound
deriving DecidableEq

structure PacketSessionLease where
  peerId : String
  direction : PacketSessionDirection
  generation : Nat
deriving DecidableEq

inductive PacketSessionEvent where
  | ready (lease : PacketSessionLease)
  | cleared (peerId : String) (direction : PacketSessionDirection) (generation : Nat)
deriving DecidableEq

/-- The counter is a `u64`; a full one gives no generation. -/
def nextPacketSessionGeneration (counter : Nat) : Option Nat :=
  if counter + 1 < 2 ^ 64 then some (counter + 1) else none

inductive SessionLoopExit where
  | reconnect
  | stop
deriving DecidableEq

/-- Where a manager is. It awaits in `connecting`, `backingOff` and `driving`. -/
inductive Manager where
  | connecting
  | backingOff
  | connected (carriesInbound : Bool)
  | claimed (carriesInbound : Bool) (generation : Nat)
  | published (carriesInbound : Bool) (generation : Nat)
  | announced (generation : Nat)
  | driving (carriesInbound : Bool) (generation : Nat)
  | leaving (carriesInbound : Bool) (generation : Nat) (exit : SessionLoopExit)
  | clearing (carriesInbound : Bool) (lease : PacketSessionLease) (exit : SessionLoopExit)
  | clearingInbound (generation : Nat) (exit : SessionLoopExit)
  | closing (exit : SessionLoopExit)
  | stopped
deriving DecidableEq

/-- Where `PerPeerSession::shutdown` is. The session is in the peer map while it is `active`. -/
inductive Teardown where
  | active
  | taking
  | clearing (lease : PacketSessionLease)
  | clearingInbound (lease : PacketSessionLease)
  | signalling
  | aborting
  | done
deriving DecidableEq

structure Session where
  peerId : String
  slot : Option PacketSessionLease
  manager : Manager
  teardown : Teardown
  aborted : Bool

def Session.new (peerId : String) : Session := ⟨peerId, none, .connecting, .active, false⟩

/-- What the awaits of a manager return. `connect` says whether the manager carries the inbound
direction as well; `leave` stands for whatever ends the loop. -/
inductive Choice where
  | connect (carriesInbound : Bool)
  | fail
  | retry
  | quit
  | leave (exit : SessionLoopExit)
  | proceed
deriving DecidableEq

/-- A session after a step, the counter, and what was sent on the event stream. -/
structure Outcome where
  session : Session
  counter : Nat
  events : List PacketSessionEvent

namespace Session

variable (self : Session)

/-- One step of `run_session_manager`. -/
def advance (counter : Nat) (choice : Choice) : Outcome :=
  match self.manager, choice with
  | .connecting, .connect carries => ⟨{ self with manager := .connected carries }, counter, []⟩
  | .connecting, .fail => ⟨{ self with manager := .backingOff }, counter, []⟩
  | .backingOff, .retry => ⟨{ self with manager := .connecting }, counter, []⟩
  | .backingOff, .quit => ⟨{ self with manager := .stopped }, counter, []⟩
  | .connected carries, .proceed =>
    match nextPacketSessionGeneration counter with
    | none => ⟨{ self with manager := .stopped }, counter, []⟩
    | some generation =>
      ⟨{ self with manager := .claimed carries generation }, generation, []⟩
  | .claimed carries generation, .proceed =>
    ⟨{ self with
      slot := some ⟨self.peerId, .outbound, generation⟩
      manager := .published carries generation }, counter, []⟩
  | .published carries generation, .proceed =>
    ⟨{ self with
      manager := if carries then .announced generation else .driving false generation }, counter,
      [.ready ⟨self.peerId, .outbound, generation⟩]⟩
  | .announced generation, .proceed =>
    ⟨{ self with manager := .driving true generation }, counter,
      [.ready ⟨self.peerId, .inbound, generation⟩]⟩
  | .driving carries generation, .leave exit =>
    ⟨{ self with manager := .leaving carries generation exit }, counter, []⟩
  | .leaving carries generation exit, .proceed =>
    match self.slot with
    | some lease =>
      if lease.generation = generation then
        ⟨{ self with slot := none, manager := .clearing carries lease exit }, counter, []⟩
      else ⟨{ self with manager := .closing exit }, counter, []⟩
    | none => ⟨{ self with manager := .closing exit }, counter, []⟩
  | .clearing carries lease exit, .proceed =>
    ⟨{ self with
      manager := if carries then .clearingInbound lease.generation exit else .closing exit },
      counter, [.cleared lease.peerId lease.direction lease.generation]⟩
  | .clearingInbound generation exit, .proceed =>
    ⟨{ self with manager := .closing exit }, counter, [.cleared self.peerId .inbound generation]⟩
  | .closing .reconnect, .proceed => ⟨{ self with manager := .connecting }, counter, []⟩
  | .closing .stop, .proceed => ⟨{ self with manager := .stopped }, counter, []⟩
  | _, _ => ⟨self, counter, []⟩

/-- One step of `PerPeerSession::shutdown`. -/
def tearDown (counter : Nat) : Outcome :=
  match self.teardown with
  | .taking =>
    match self.slot with
    | some lease => ⟨{ self with slot := none, teardown := .clearing lease }, counter, []⟩
    | none => ⟨{ self with teardown := .signalling }, counter, []⟩
  | .clearing lease =>
    ⟨{ self with teardown := .clearingInbound lease }, counter,
      [.cleared lease.peerId lease.direction lease.generation]⟩
  | .clearingInbound lease =>
    ⟨{ self with teardown := .signalling }, counter,
      [.cleared lease.peerId .inbound lease.generation]⟩
  | .signalling => ⟨{ self with teardown := .aborting }, counter, []⟩
  | .aborting => ⟨{ self with teardown := .done, aborted := true }, counter, []⟩
  | _ => ⟨self, counter, []⟩

/-- The runtime stops an aborted manager at an await. -/
def cancel (counter : Nat) : Outcome :=
  match self.aborted, self.manager with
  | true, .connecting => ⟨{ self with manager := .stopped }, counter, []⟩
  | true, .backingOff => ⟨{ self with manager := .stopped }, counter, []⟩
  | true, .driving _ _ => ⟨{ self with manager := .stopped }, counter, []⟩
  | _, _ => ⟨self, counter, []⟩

/-- The handle drops the session from the peer map. -/
def remove : Session :=
  match self.teardown with
  | .active => { self with teardown := .taking }
  | _ => self

end Session

/-- All sessions ever added, the counter they share, and the event stream. -/
structure World where
  sessions : List Session
  counter : Nat
  stream : List PacketSessionEvent

def World.new : World := ⟨[], 0, []⟩

/-- `replace_default_peer` is a removal followed by an addition. -/
inductive Input where
  | addPeer (peerId : String)
  | removePeer (peerId : String)
  | shutdown
  | manager (index : Nat) (choice : Choice)
  | teardown (index : Nat)
  | cancel (index : Nat)

namespace World

variable (self : World)

def act (index : Nat) (f : Session → Nat → Outcome) : World :=
  match self.sessions[index]? with
  | none => self
  | some session =>
    let outcome := f session self.counter
    ⟨self.sessions.set index outcome.session, outcome.counter, self.stream ++ outcome.events⟩

def addPeer (peerId : String) : World :=
  if ∃ session ∈ self.sessions, session.peerId = peerId ∧ session.teardown = .active then self
  else { self with sessions := self.sessions ++ [.new peerId] }

def removePeer (peerId : String) : World :=
  { self with sessions := self.sessions.map fun session =>
      if session.peerId = peerId then session.remove else session }

def shutdown : World :=
  { self with sessions := self.sessions.map Session.remove }

end World

def step (world : World) : Input → Unit × World
  | .addPeer peerId => ((), world.addPeer peerId)
  | .removePeer peerId => ((), world.removePeer peerId)
  | .shutdown => ((), world.shutdown)
  | .manager index choice => ((), world.act index (·.advance · choice))
  | .teardown index => ((), world.act index Session.tearDown)
  | .cancel index => ((), world.act index Session.cancel)

/-! ## What a session does in one step -/

namespace Session

inductive Moved (self : Session) (counter : Nat) : Outcome → Prop
  | idle : Moved self counter ⟨self, counter, []⟩
  /-- No lease is touched and none is announced. -/
  | waited (manager : Manager) (hfrom : self.manager = .connecting ∨ self.manager = .backingOff ∨
        ∃ exit, self.manager = .closing exit)
      (hto : manager = .connecting ∨ manager = .backingOff ∨ manager = .stopped) :
      Moved self counter ⟨{ self with manager := manager }, counter, []⟩
  | connected (carries : Bool) (hfrom : self.manager = .connecting) :
      Moved self counter ⟨{ self with manager := .connected carries }, counter, []⟩
  | exhausted (carries : Bool) (hfrom : self.manager = .connected carries) :
      Moved self counter ⟨{ self with manager := .stopped }, counter, []⟩
  | claimed (carries : Bool) (hfrom : self.manager = .connected carries) :
      Moved self counter ⟨{ self with manager := .claimed carries (counter + 1) }, counter + 1, []⟩
  | published (carries : Bool) (generation : Nat) (hfrom : self.manager = .claimed carries generation) :
      Moved self counter
        ⟨{ self with
          slot := some ⟨self.peerId, .outbound, generation⟩
          manager := .published carries generation }, counter, []⟩
  | announced (carries : Bool) (generation : Nat)
      (hfrom : self.manager = .published carries generation) :
      Moved self counter
        ⟨{ self with
          manager := if carries then .announced generation else .driving false generation }, counter,
          [.ready ⟨self.peerId, .outbound, generation⟩]⟩
  | announcedInbound (generation : Nat) (hfrom : self.manager = .announced generation) :
      Moved self counter
        ⟨{ self with manager := .driving true generation }, counter,
          [.ready ⟨self.peerId, .inbound, generation⟩]⟩
  | left (carries : Bool) (generation : Nat) (exit : SessionLoopExit)
      (hfrom : self.manager = .driving carries generation) :
      Moved self counter ⟨{ self with manager := .leaving carries generation exit }, counter, []⟩
  | unslotted (carries : Bool) (lease : PacketSessionLease) (exit : SessionLoopExit)
      (hfrom : self.manager = .leaving carries lease.generation exit) (hslot : self.slot = some lease) :
      Moved self counter
        ⟨{ self with slot := none, manager := .clearing carries lease exit }, counter, []⟩
  | passed (carries : Bool) (generation : Nat) (exit : SessionLoopExit)
      (hfrom : self.manager = .leaving carries generation exit)
      (hslot : ∀ lease, self.slot = some lease → lease.generation ≠ generation) :
      Moved self counter ⟨{ self with manager := .closing exit }, counter, []⟩
  | cleared (carries : Bool) (lease : PacketSessionLease) (exit : SessionLoopExit)
      (hfrom : self.manager = .clearing carries lease exit) :
      Moved self counter
        ⟨{ self with
          manager := if carries then .clearingInbound lease.generation exit else .closing exit },
          counter, [.cleared lease.peerId lease.direction lease.generation]⟩
  | clearedInbound (generation : Nat) (exit : SessionLoopExit)
      (hfrom : self.manager = .clearingInbound generation exit) :
      Moved self counter
        ⟨{ self with manager := .closing exit }, counter,
          [.cleared self.peerId .inbound generation]⟩
  | taken (lease : PacketSessionLease) (hfrom : self.teardown = .taking)
      (hslot : self.slot = some lease) :
      Moved self counter
        ⟨{ self with slot := none, teardown := .clearing lease }, counter, []⟩
  | takenNone (hfrom : self.teardown = .taking) (hslot : self.slot = none) :
      Moved self counter ⟨{ self with teardown := .signalling }, counter, []⟩
  | tornOutbound (lease : PacketSessionLease) (hfrom : self.teardown = .clearing lease) :
      Moved self counter
        ⟨{ self with teardown := .clearingInbound lease }, counter,
          [.cleared lease.peerId lease.direction lease.generation]⟩
  | tornInbound (lease : PacketSessionLease) (hfrom : self.teardown = .clearingInbound lease) :
      Moved self counter
        ⟨{ self with teardown := .signalling }, counter,
          [.cleared lease.peerId .inbound lease.generation]⟩
  | signalled (hfrom : self.teardown = .signalling) :
      Moved self counter ⟨{ self with teardown := .aborting }, counter, []⟩
  | aborted (hfrom : self.teardown = .aborting) :
      Moved self counter ⟨{ self with teardown := .done, aborted := true }, counter, []⟩
  | cancelled (haborted : self.aborted = true) (hfrom : self.manager = .connecting ∨
        self.manager = .backingOff ∨ ∃ carries generation, self.manager = .driving carries generation) :
      Moved self counter ⟨{ self with manager := .stopped }, counter, []⟩

variable (self : Session) (counter : Nat)

theorem nextPacketSessionGeneration_cases : nextPacketSessionGeneration counter = none ∨
      nextPacketSessionGeneration counter = some (counter + 1) := by
  unfold nextPacketSessionGeneration
  split
  · exact .inr rfl
  · exact .inl rfl

theorem advance_moved (c : Choice) : self.Moved counter (self.advance counter c) := by
  unfold advance
  split
  · rename_i carries hf; exact .connected carries hf
  · rename_i hf; exact .waited _ (.inl hf) (by simp)
  · rename_i hf; exact .waited _ (.inr (.inl hf)) (by simp)
  · rename_i hf; exact .waited _ (.inr (.inl hf)) (by simp)
  · rename_i carries hf
    rcases nextPacketSessionGeneration_cases counter with hn | hso
    · rw [hn]
      exact .exhausted carries hf
    · rw [hso]
      exact .claimed carries hf
  · rename_i carries generation hf; exact .published carries generation hf
  · rename_i carries generation hf; exact .announced carries generation hf
  · rename_i generation hf; exact .announcedInbound generation hf
  · rename_i carries generation exit hf; exact .left carries generation exit hf
  · rename_i carries generation exit hf
    split
    · rename_i lease hs
      by_cases hg : lease.generation = generation
      · rw [if_pos hg]
        exact .unslotted carries lease exit (hg ▸ hf) hs
      · rw [if_neg hg]
        refine .passed carries generation exit hf fun o ho => ?_
        cases hs.symm.trans ho
        exact hg
    · rename_i hs; exact .passed carries generation exit hf (by simp [hs])
  · rename_i carries lease exit hf; exact .cleared carries lease exit hf
  · rename_i generation exit hf; exact .clearedInbound generation exit hf
  · rename_i hf; exact .waited _ (.inr (.inr ⟨_, hf⟩)) (by simp)
  · rename_i hf; exact .waited _ (.inr (.inr ⟨_, hf⟩)) (by simp)
  · exact .idle

theorem tearDown_moved : self.Moved counter (self.tearDown counter) := by
  unfold tearDown
  split
  · rename_i hf
    split
    · rename_i lease hs; exact .taken lease hf hs
    · rename_i hs; exact .takenNone hf hs
  · rename_i lease hf; exact .tornOutbound lease hf
  · rename_i lease hf; exact .tornInbound lease hf
  · rename_i hf; exact .signalled hf
  · rename_i hf; exact .aborted hf
  · exact .idle

theorem cancel_moved : self.Moved counter (self.cancel counter) := by
  unfold cancel
  split
  · rename_i ha hf; exact .cancelled ha (.inl hf)
  · rename_i ha hf; exact .cancelled ha (.inr (.inl hf))
  · rename_i ha hf; exact .cancelled ha (.inr (.inr ⟨_, _, hf⟩))
  · exact .idle

end Session

end QuantumLink.Transport
