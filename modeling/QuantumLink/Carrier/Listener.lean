import QuantumLink.Carrier.Datagrams
import QuantumLink.Foundation.Run
import QuantumLink.Foundation.Table

/-! # The native UDP listener

One socket serves many remote addresses. The dispatcher puts each well-formed datagram into the
bounded queue of the session of its address, or mints a session for it. A queue that is full is
treated like one whose receiver is gone: the session loses its entry and another one is minted
for the address. Addresses are any type, generations are natural numbers, and the listener
itself is not dropped.
-/

namespace QuantumLink.Carrier

open Device (QlinkError)
open Finset Finmap Table

def maxListenerSessions : Nat := 1024
def listenerSessionQueueDepth : Nat := 256
def listenerAcceptQueueDepth : Nat := 64

variable {Addr : Type} [DecidableEq Addr]

/-- A session that was minted: its address, its queue and whether its receiver still exists. -/
structure ListenerSession (Addr : Type) where
  remoteAddr : Addr
  queue : List Bytes
  receiving : Bool

structure NativeUdpListener (Addr : Type) where
  /-- The generation whose sender an address maps to. -/
  sessions : Table Addr Nat
  minted : Table Nat (ListenerSession Addr)
  generationCounter : Nat
  acceptQueue : List Nat

namespace NativeUdpListener

def new : NativeUdpListener Addr := ⟨∅, ∅, 0, []⟩

variable (self : NativeUdpListener Addr)

def trySend (generation : Nat) (bytes : Bytes) :
    Option (NativeUdpListener Addr) :=
  match self.minted.lookup generation with
  | some session =>
    if session.receiving ∧ session.queue.length < listenerSessionQueueDepth then
      some { self with
        minted := self.minted.insert generation { session with queue := session.queue ++ [bytes] } }
    else none
  | none => none

variable (peerAddr : Addr)

/-- A new session with its first datagram. If the accept queue is full it is dropped at once. -/
def mint (bytes : Bytes) :
    NativeUdpListener Addr :=
  let generation := self.generationCounter + 1
  if self.acceptQueue.length < listenerAcceptQueueDepth then
    { sessions := self.sessions.insert peerAddr generation
      minted := self.minted.insert generation ⟨peerAddr, [bytes], true⟩
      generationCounter := generation
      acceptQueue := self.acceptQueue ++ [generation] }
  else
    { sessions := (self.sessions.insert peerAddr generation).erase peerAddr
      minted := self.minted.insert generation ⟨peerAddr, [bytes], false⟩
      generationCounter := generation
      acceptQueue := self.acceptQueue }

def mintOrDrop (kind : DatagramKind) (bytes : Bytes) : NativeUdpListener Addr :=
  if kind = .close ∨ maxListenerSessions ≤ self.sessions.size then self else self.mint peerAddr bytes

/-- The body of the dispatcher loop for one datagram. -/
def dispatch (bytes : Bytes) :
    NativeUdpListener Addr :=
  if maxUdpDatagramLen < bytes.length then self
  else
    match decodeDatagram bytes with
    | .error _ => self
    | .ok datagram =>
      match self.sessions.lookup peerAddr with
      | some generation =>
        match self.trySend generation bytes with
        | some sent =>
          if datagram.kind = .close then
            { sent with sessions := sent.sessions.erase peerAddr }
          else sent
        | none =>
          { self with sessions := self.sessions.erase peerAddr }.mintOrDrop peerAddr
            datagram.kind bytes
      | none => self.mintOrDrop peerAddr datagram.kind bytes

/-- `locked` says that the dispatcher holds the lock, in which case nothing is cleared. -/
def clearListenerSession (generation : Nat) (session : ListenerSession Addr) (locked : Bool) :
    NativeUdpListener Addr :=
  if locked then self
  else if self.sessions.lookup session.remoteAddr = some generation then
    { self with sessions := self.sessions.erase session.remoteAddr }
  else self

def accept : Option Nat × NativeUdpListener Addr :=
  (self.acceptQueue.head?, { self with acceptQueue := self.acceptQueue.tail })

end NativeUdpListener

/-- What happens: a datagram arrives, a session is accepted, reads one datagram, is closed or
loses its last handle. -/
inductive ListenerEvent (Addr : Type) where
  | datagram (peerAddr : Addr) (bytes : Bytes)
  | accept
  | receive (generation : Nat)
  | close (generation : Nat) (reason : Bytes) (locked : Bool)
  | drop (generation : Nat)

open NativeUdpListener in
def listenerStep (self : NativeUdpListener Addr) :
    ListenerEvent Addr → Option Nat × NativeUdpListener Addr
  | .datagram peerAddr bytes => (none, self.dispatch peerAddr bytes)
  | .accept => self.accept
  | .receive generation =>
    match self.minted.lookup generation with
    | some session => (none, { self with
        minted := self.minted.insert generation { session with queue := session.queue.tail } })
    | none => (none, self)
  | .close generation reason locked =>
    match self.minted.lookup generation, encodeDatagram .close reason with
    | some session, .ok _ => (none, self.clearListenerSession generation session locked)
    | _, _ => (none, self)
  | .drop generation =>
    match self.minted.lookup generation with
    | some session => (none, { self with
        minted := self.minted.insert generation { session with receiving := false } })
    | none => (none, self)

/-- A datagram that the dispatcher does not throw away. -/
def WellFormed (bytes : Bytes) (datagram : CarrierDatagram) : Prop :=
  bytes.length ≤ maxUdpDatagramLen ∧ decodeDatagram bytes = .ok datagram

/-- The generations for which a Close was received or sent. -/
def recordClosed (self : NativeUdpListener Addr) (event : ListenerEvent Addr)
    (closed : Finset Nat) : Finset Nat :=
  match event with
  | .datagram peerAddr bytes =>
    match self.sessions.lookup peerAddr, decodeDatagram bytes with
    | some generation, .ok datagram =>
      if bytes.length ≤ maxUdpDatagramLen ∧ datagram.kind = .close then insert generation closed
      else closed
    | _, _ => closed
  | .close generation reason _ =>
    match encodeDatagram .close reason with
    | .ok _ => insert generation closed
    | .error _ => closed
  | _ => closed

abbrev ListenerState (Addr : Type) := NativeUdpListener Addr × Finset Nat

variable (events : List (ListenerEvent Addr))

/-- The listener with that record after some events. -/
def listenerRun : ListenerState Addr :=
  run (withRecord listenerStep recordClosed) (.new, ∅) events

/-- A session that is alive: its receiver exists and no Close was received or sent for it. -/
structure Alive (state : ListenerState Addr) (generation : Nat) (session : ListenerSession Addr) :
    Prop where
  minted : state.1.minted.lookup generation = some session
  receiving : session.receiving = true
  unclosed : generation ∉ state.2

/-- A well-formed datagram for a session is appended to its queue or dropped, and nothing is
minted. -/
def Served (self next : NativeUdpListener Addr) (generation : Nat) (session : ListenerSession Addr)
    (bytes : Bytes) : Prop :=
  next.generationCounter = self.generationCounter ∧
    (∀ other, other ≠ generation → next.minted.lookup other = self.minted.lookup other) ∧
    (next.minted.lookup generation = some { session with queue := session.queue ++ [bytes] } ∨
      next.minted.lookup generation = some session)

/-- A datagram never meets a full queue of a session that is still being read. -/
def Roomy (self : NativeUdpListener Addr) (event : ListenerEvent Addr) : Prop :=
  ∀ peerAddr bytes datagram generation session, event = .datagram peerAddr bytes →
    WellFormed bytes datagram → self.sessions.lookup peerAddr = some generation →
    self.minted.lookup generation = some session → session.receiving = true →
    session.queue.length < listenerSessionQueueDepth

/-! ## What a datagram does -/

/-- Everything the dispatcher can do with a datagram. -/
inductive Dispatch (self : NativeUdpListener Addr) (peerAddr : Addr) (bytes : Bytes)
    (next : NativeUdpListener Addr) : Prop
  | malformed (h : ∀ datagram, ¬ WellFormed bytes datagram) (hnext : next = self)
  | delivered (datagram : CarrierDatagram) (generation : Nat) (session : ListenerSession Addr)
      (hwell : WellFormed bytes datagram) (hentry : self.sessions.lookup peerAddr = some generation)
      (hminted : self.minted.lookup generation = some session) (hreceiving : session.receiving = true)
      (hroom : session.queue.length < listenerSessionQueueDepth)
      (hnext : next = { self with
        sessions := if datagram.kind = .close then self.sessions.erase peerAddr else self.sessions
        minted := self.minted.insert generation { session with queue := session.queue ++ [bytes] } })
  | evicted (datagram : CarrierDatagram) (generation : Nat) (hwell : WellFormed bytes datagram)
      (hentry : self.sessions.lookup peerAddr = some generation)
      (hfailed : ∀ session, self.minted.lookup generation = some session →
        session.receiving = true → ¬ session.queue.length < listenerSessionQueueDepth)
      (hnext : next = { self with sessions := self.sessions.erase peerAddr }.mintOrDrop peerAddr
        datagram.kind bytes)
  | unknown (datagram : CarrierDatagram) (hwell : WellFormed bytes datagram)
      (hentry : self.sessions.lookup peerAddr = none)
      (hnext : next = self.mintOrDrop peerAddr datagram.kind bytes)

theorem dispatch_cases (self : NativeUdpListener Addr) (peerAddr : Addr) (bytes : Bytes) :
    Dispatch self peerAddr bytes (self.dispatch peerAddr bytes) := by
  unfold NativeUdpListener.dispatch
  by_cases hl : maxUdpDatagramLen < bytes.length
  · rw [if_pos hl]
    exact .malformed (fun datagram hw => absurd hw.1 (Nat.not_le.mpr hl)) rfl
  rw [if_neg hl]
  cases hd : decodeDatagram bytes with
  | error error =>
    refine .malformed (fun datagram hw => ?_) rfl
    cases hd.symm.trans hw.2
  | ok datagram =>
    have hw : WellFormed bytes datagram := ⟨Nat.not_lt.mp hl, hd⟩
    cases he : self.sessions.lookup peerAddr with
    | none => exact .unknown datagram hw he rfl
    | some g =>
      simp only [NativeUdpListener.trySend]
      cases hm : self.minted.lookup g with
      | none =>
        refine .evicted datagram g hw he (fun s hse => ?_) rfl
        cases hm.symm.trans hse
      | some s =>
        by_cases hr : s.receiving = true ∧ s.queue.length < listenerSessionQueueDepth
        · refine .delivered datagram g s hw he hm hr.1 hr.2 ?_
          simp only [if_pos hr]
          split <;> rfl
        · simp only [if_neg hr]
          refine .evicted datagram g hw he ?_ rfl
          intro o ho hre hs
          cases hm.symm.trans ho
          exact hr ⟨hre, hs⟩

/-! ## The entry of a session -/

/-- A session that is alive has the entry of its address. -/
structure Registered (state : ListenerState Addr) : Prop where
  counted : ∀ generation session, state.1.minted.lookup generation = some session →
    generation ≤ state.1.generationCounter
  entries : ∀ peerAddr generation, state.1.sessions.lookup peerAddr = some generation →
    ∃ session, state.1.minted.lookup generation = some session ∧ session.remoteAddr = peerAddr
  alive : ∀ generation session, Alive state generation session →
    state.1.sessions.lookup session.remoteAddr = some generation

section

variable {self : NativeUdpListener Addr} {closed : Finset Nat} {peerAddr : Addr} {bytes : Bytes}

theorem Registered.mono (h : Registered (self, closed)) {m : Finset Nat} (hs : closed ⊆ m) :
    Registered (self, m) where
  counted := h.counted
  entries := h.entries
  alive other session ha := h.alive other session
    ⟨ha.minted, ha.receiving, fun hm => ha.unclosed (hs hm)⟩

theorem Registered.erase (h : Registered (self, closed)) (peerAddr : Addr)
    (hd : ∀ generation session, self.sessions.lookup peerAddr = some generation →
      ¬ Alive (self, closed) generation session) :
    Registered ({ self with sessions := self.sessions.erase peerAddr }, closed) where
  counted := h.counted
  entries other generation he := by
    exact h.entries other generation (lookup_erase_eq_some he).2
  alive generation session ha := by
    have ho : Alive (self, closed) generation session := ⟨ha.minted, ha.receiving, ha.unclosed⟩
    have he := h.alive generation session ho
    have hne : session.remoteAddr ≠ peerAddr := by
      intro heq
      exact hd generation session (heq ▸ he) ho
    exact (lookup_erase_ne hne).trans he

theorem Registered.update (h : Registered (self, closed)) {g : Nat}
    {s : ListenerSession Addr} (n : ListenerSession Addr)
    (hm : self.minted.lookup g = some s)
    (hd : n.remoteAddr = s.remoteAddr)
    (hre : n.receiving = true → s.receiving = true) :
    Registered ({ self with minted := self.minted.insert g n }, closed) where
  counted other found hf := by
    rcases lookup_insert_eq_some hf with ⟨rfl, _⟩ | ⟨_, ho⟩
    · exact h.counted other s hm
    · exact h.counted other found ho
  entries addr other he := by
    obtain ⟨found, hf, hr⟩ := h.entries addr other he
    by_cases hs : other = g
    · subst hs
      cases hm.symm.trans hf
      exact ⟨n, lookup_insert _, hd.trans hr⟩
    · exact ⟨found, (lookup_insert_of_ne _ hs).trans hf, hr⟩
  alive other found ha := by
    rcases lookup_insert_eq_some ha.minted with ⟨rfl, rfl⟩ | ⟨_, ho⟩
    · rw [hd]
      exact h.alive other s ⟨hm, hre ha.receiving, ha.unclosed⟩
    · exact h.alive other found ⟨ho, ha.receiving, ha.unclosed⟩

theorem Registered.mint (h : Registered (self, closed)) (hfr : self.sessions.lookup peerAddr = none)
    (n : ListenerSession Addr) (hd : n.remoteAddr = peerAddr) (q : List Nat) :
    Registered (⟨self.sessions.insert peerAddr (self.generationCounter + 1),
      self.minted.insert (self.generationCounter + 1) n, self.generationCounter + 1, q⟩,
      closed) where
  counted other found hf := by
    rcases lookup_insert_eq_some hf with ⟨rfl, _⟩ | ⟨_, ho⟩
    · exact le_refl _
    · exact Nat.le_succ_of_le (h.counted other found ho)
  entries addr other he := by
    rcases lookup_insert_eq_some he with ⟨rfl, rfl⟩ | ⟨_, ho⟩
    · exact ⟨n, lookup_insert _, hd⟩
    · obtain ⟨found, hf, hr⟩ := h.entries addr other ho
      have hle : other ≤ self.generationCounter := h.counted other found hf
      exact ⟨found, (lookup_insert_of_ne _ (by omega)).trans hf, hr⟩
  alive other found ha := by
    rcases lookup_insert_eq_some ha.minted with ⟨rfl, rfl⟩ | ⟨_, ho⟩
    · rw [hd]
      exact lookup_insert _
    · have he := h.alive other found ⟨ho, ha.receiving, ha.unclosed⟩
      have hne : found.remoteAddr ≠ peerAddr := by
        intro heq
        cases hfr.symm.trans (heq ▸ he)
      exact (lookup_insert_of_ne _ hne).trans he

theorem Registered.mintOrDrop (h : Registered (self, closed)) (k : DatagramKind)
    (hf : self.sessions.lookup peerAddr = none) :
    Registered (self.mintOrDrop peerAddr k bytes, closed) := by
  unfold NativeUdpListener.mintOrDrop
  by_cases hd : k = .close ∨ maxListenerSessions ≤ self.sessions.size
  · rw [if_pos hd]
    exact h
  rw [if_neg hd]
  unfold NativeUdpListener.mint
  split
  · exact h.mint hf _ rfl _
  · refine (h.mint hf ⟨peerAddr, [bytes], false⟩ rfl self.acceptQueue).erase peerAddr ?_
    -- the session that had the entry does not receive
    intro g s he ha
    cases (lookup_insert _).symm.trans he
    cases (lookup_insert _).symm.trans ha.minted
    cases ha.receiving

end

theorem subset_recordClosed (self : NativeUdpListener Addr) (e : ListenerEvent Addr)
    (closed : Finset Nat) : closed ⊆ recordClosed self e closed := by
  unfold recordClosed
  split
  · split
    · split
      · exact subset_insert _ _
      · exact Finset.Subset.refl _
    · exact Finset.Subset.refl _
  · split
    · exact subset_insert _ _
    · exact Finset.Subset.refl _
  · exact Finset.Subset.refl _

theorem mem_recordClosed {self : NativeUdpListener Addr} (hw : WellFormed bytes datagram)
    (hc : datagram.kind = .close) (he : self.sessions.lookup peerAddr = some generation)
    (closed : Finset Nat) : generation ∈ recordClosed self (.datagram peerAddr bytes) closed := by
  simp only [recordClosed, he, hw.2, hw.1, hc, and_self, if_true]
  exact mem_insert_self _ _

theorem registered_datagram {self : NativeUdpListener Addr} {closed : Finset Nat} {peerAddr : Addr}
    {bytes : Bytes} (h : Registered (self, closed)) (hr : Roomy self (.datagram peerAddr bytes)) :
    Registered (self.dispatch peerAddr bytes,
      recordClosed self (.datagram peerAddr bytes) closed) := by
  have hm := h.mono (subset_recordClosed self (.datagram peerAddr bytes) closed)
  cases dispatch_cases self peerAddr bytes with
  | malformed _ hn =>
    rw [hn]
    exact hm
  | delivered datagram g s hw he hi hre _ hn =>
    rw [hn]
    have hq := hm.update { s with queue := s.queue ++ [bytes] } hi rfl id
    by_cases hc : datagram.kind = .close
    · simp only [if_pos hc]
      refine hq.erase _ fun o f ho ha => ?_
      cases he.symm.trans ho
      exact ha.unclosed (mem_recordClosed hw hc he closed)
    · simp only [if_neg hc]
      exact hq
  | evicted datagram g hw he hf hn =>
    -- With room in every queue that is read, only a dead session is evicted.
    rw [hn]
    have her := hm.erase peerAddr fun o f ho ha => by
      cases he.symm.trans ho
      exact hf f ha.minted ha.receiving
        (hr peerAddr bytes datagram g f rfl hw he ha.minted ha.receiving)
    exact her.mintOrDrop datagram.kind (lookup_erase _ _)
  | unknown datagram _ he hn =>
    rw [hn]
    exact hm.mintOrDrop datagram.kind he

theorem registered_step (s : ListenerState Addr) (e : ListenerEvent Addr)
    (h : Registered s) (hr : Roomy s.1 e) :
    Registered (withRecord listenerStep recordClosed s e).2 := by
  obtain ⟨self, closed⟩ := s
  have hmo := h.mono (subset_recordClosed self e closed)
  show Registered ((listenerStep self e).2, recordClosed self e closed)
  cases e with
  | datagram peerAddr bytes => exact registered_datagram h hr
  | accept => exact ⟨hmo.counted, hmo.entries, fun generation session ha =>
    hmo.alive generation session ⟨ha.minted, ha.receiving, ha.unclosed⟩⟩
  | receive generation =>
    cases hm : self.minted.lookup generation with
    | none =>
      simp only [listenerStep, hm]
      exact hmo
    | some session =>
      simp only [listenerStep, hm]
      exact hmo.update _ hm rfl id
  | drop generation =>
    cases hm : self.minted.lookup generation with
    | none =>
      simp only [listenerStep, hm]
      exact hmo
    | some session =>
      simp only [listenerStep, hm]
      exact hmo.update _ hm rfl nofun
  | close generation reason locked =>
    cases hm : self.minted.lookup generation with
    | none =>
      simp only [listenerStep, hm]
      exact hmo
    | some session =>
      cases he : encodeDatagram .close reason with
      | error error =>
        simp only [listenerStep, hm, he]
        exact hmo
      | ok datagram =>
        have hc : generation ∈ recordClosed self (.close generation reason locked) closed := by
          simp only [recordClosed, he]
          exact mem_insert_self _ _
        simp only [listenerStep, hm, he, NativeUdpListener.clearListenerSession]
        by_cases hl : locked = true
        · rw [if_pos hl]
          exact hmo
        rw [if_neg hl]
        by_cases hn : self.sessions.lookup session.remoteAddr = some generation
        · rw [if_pos hn]
          refine hmo.erase _ fun other found ho ha => ?_
          cases hn.symm.trans ho
          exact ha.unclosed hc
        · rw [if_neg hn]
          exact hmo

theorem run_registered {e : List (ListenerEvent Addr)}
    (h : Along listenerStep Roomy .new e) : Registered (listenerRun e) := by
  refine run_invariant_along Registered registered_step ?_
    ((along_withRecord listenerStep recordClosed Roomy (.new, ∅) e).mpr h)
  refine ⟨?_, ?_, ?_⟩
  · intro g s hm
    cases (lookup_empty g).symm.trans hm
  · intro p g he
    cases (lookup_empty p).symm.trans he
  · intro g s ha
    cases (lookup_empty g).symm.trans ha.minted

/-- While a session is alive, the datagrams of its address are served and no second session is
minted for it. -/
def OneSession : Prop :=
  ∀ front peerAddr bytes datagram back, events = front ++ .datagram peerAddr bytes :: back →
    WellFormed bytes datagram →
    ∀ generation session, Alive (listenerRun front) generation session →
      session.remoteAddr = peerAddr →
      Served (listenerRun front).1 ((listenerRun front).1.dispatch peerAddr bytes) generation session
        bytes

/-- If no datagram meets a full queue that is still read, a session that is alive stays the one
session of its address. -/
theorem roomy_one_session (h : Along listenerStep Roomy .new events) : OneSession events := by
  rintro front _ b d ba heq hw g s ha rfl
  rw [heq, along_append] at h
  obtain ⟨hfr, hr, _⟩ := h
  have hs : (listenerRun front).1 = run listenerStep .new front :=
    run_withRecord_fst listenerStep recordClosed (.new, ∅) front
  rw [← hs] at hr
  have he := (run_registered hfr).alive g s ha
  cases dispatch_cases (listenerRun front).1 s.remoteAddr b with
  | malformed hm => exact absurd hw (hm d)
  | unknown _ _ hno => cases hno.symm.trans he
  | evicted _ o _ ho hf =>
    cases he.symm.trans ho
    exact absurd (hr _ b d g s rfl hw he ha.minted ha.receiving) (hf s ha.minted ha.receiving)
  | delivered _ o f _ ho hi _ _ hn =>
    cases he.symm.trans ho
    cases ha.minted.symm.trans hi
    rw [hn]
    refine ⟨rfl, ?_, Or.inl (lookup_insert _)⟩
    intro o hne
    exact lookup_insert_of_ne _ hne

theorem generationCounter_mintOrDrop (self : NativeUdpListener Addr) (peerAddr : Addr) (bytes : Bytes)
    (h : ¬ (kind = .close ∨ maxListenerSessions ≤ self.sessions.size)) :
    (self.mintOrDrop peerAddr kind bytes).generationCounter = self.generationCounter + 1 := by
  rw [NativeUdpListener.mintOrDrop, if_neg h, NativeUdpListener.mint]
  split <;> rfl

def sampleDatagram : Bytes := datagramBytes .frame []

theorem wellFormed_sampleDatagram : WellFormed sampleDatagram ⟨.frame, []⟩ :=
  ⟨by decide, decodeDatagram_datagramBytes (by decide)⟩

/-- The listener after some datagrams from one address that nobody reads. -/
def burst (count : Nat) : NativeUdpListener Unit :=
  ⟨(∅ : Table Unit Nat).insert () 1,
    (∅ : Table Nat (ListenerSession Unit)).insert 1 ⟨(), List.replicate count sampleDatagram, true⟩,
    1, [1]⟩

theorem dispatch_new :
    (NativeUdpListener.new : NativeUdpListener Unit).dispatch () sampleDatagram = burst 1 := by
  have hf : (NativeUdpListener.new : NativeUdpListener Unit).mintOrDrop () .frame sampleDatagram =
      burst 1 := rfl
  cases dispatch_cases (NativeUdpListener.new : NativeUdpListener Unit) () sampleDatagram with
  | malformed h => exact absurd wellFormed_sampleDatagram (h _)
  | delivered _ _ _ _ he | evicted _ _ _ he => cases (lookup_empty ()).symm.trans he
  | unknown d hw _ hn =>
    cases wellFormed_sampleDatagram.2.symm.trans hw.2
    rw [hn, hf]

theorem dispatch_burst (h : count < listenerSessionQueueDepth) :
    (burst count).dispatch () sampleDatagram = burst (count + 1) := by
  have he : (burst count).sessions.lookup () = some 1 := lookup_insert _
  have hm : (burst count).minted.lookup 1 =
      some ⟨(), List.replicate count sampleDatagram, true⟩ := lookup_insert _
  cases dispatch_cases (burst count) () sampleDatagram with
  | malformed ha => exact absurd wellFormed_sampleDatagram (ha _)
  | unknown _ _ hno => cases hno.symm.trans he
  | evicted _ g _ ho hf =>
    cases he.symm.trans ho
    exact absurd (by simpa using h) (hf _ hm rfl)
  | delivered d g s hw ho hs _ _ hn =>
    cases he.symm.trans ho
    cases hm.symm.trans hs
    cases wellFormed_sampleDatagram.2.symm.trans hw.2
    rw [hn]
    simp [burst, List.replicate_succ']

theorem listenerRun_burst (h : count < listenerSessionQueueDepth) :
    listenerRun (List.replicate (count + 1) (.datagram () sampleDatagram)) = (burst (count + 1), ∅) := by
  have hr (self : NativeUdpListener Unit) :
      recordClosed self (.datagram () sampleDatagram) ∅ = ∅ := by
    simp only [recordClosed, wellFormed_sampleDatagram.2]
    cases self.sessions.lookup () with
    | none => rfl
    | some g => simp
  induction count with
  | zero =>
    show ((NativeUdpListener.new : NativeUdpListener Unit).dispatch () sampleDatagram, _) = _
    rw [dispatch_new, hr]
  | succ count ih =>
    have hb := ih (Nat.lt_of_succ_lt h)
    rw [List.replicate_succ', listenerRun, run_concat, ← listenerRun, hb]
    show ((burst (count + 1)).dispatch () sampleDatagram, _) = _
    rw [dispatch_burst h, hr]

theorem sample_one_session : Along listenerStep Roomy .new
        [ListenerEvent.datagram () sampleDatagram, .datagram () sampleDatagram] ∧
      OneSession [ListenerEvent.datagram () sampleDatagram, .datagram () sampleDatagram] := by
  have ha : Along listenerStep Roomy .new
      [ListenerEvent.datagram () sampleDatagram, .datagram () sampleDatagram] := by
    refine ⟨?_, ?_, trivial⟩
    · intro p b datagram g s _ _ he
      cases (lookup_empty p).symm.trans he
    · have hs : (listenerStep NativeUdpListener.new
          (ListenerEvent.datagram () sampleDatagram)).2 = burst 1 := dispatch_new
      rw [hs]
      intro p b datagram g s _ _ he hm _
      cases (lookup_insert _).symm.trans he
      cases (lookup_insert _).symm.trans hm
      show 1 < listenerSessionQueueDepth
      decide
  exact ⟨ha, roomy_one_session _ ha⟩

/-- The 257th datagram that nobody has read mints a second session beside the first. -/
theorem burst_mints_second_session :
    ¬ OneSession (List.replicate 257 (ListenerEvent.datagram () sampleDatagram)) := by
  intro h
  have hu := listenerRun_burst (show 255 < listenerSessionQueueDepth by decide)
  have hm : (burst 256).minted.lookup 1 =
      some ⟨(), List.replicate 256 sampleDatagram, true⟩ := lookup_insert _
  have ha : Alive (burst 256, ∅) 1 ⟨(), List.replicate 256 sampleDatagram, true⟩ :=
    ⟨hm, rfl, notMem_empty _⟩
  have hs := h (List.replicate 256 (.datagram () sampleDatagram)) () sampleDatagram _ []
    List.replicate_succ' wellFormed_sampleDatagram
  rw [hu] at hs
  obtain ⟨hc, _⟩ := hs 1 _ ha rfl
  have he : (burst 256).sessions.lookup () = some 1 := lookup_insert _
  cases dispatch_cases (burst 256) () sampleDatagram with
  | malformed hma => exact hma _ wellFormed_sampleDatagram
  | unknown _ _ hno => cases hno.symm.trans he
  | delivered _ g s _ ho hse _ hr =>
    cases he.symm.trans ho
    cases hm.symm.trans hse
    rw [List.length_replicate] at hr
    exact absurd hr (by decide)
  | evicted datagram g hw _ _ hn =>
    cases wellFormed_sampleDatagram.2.symm.trans hw.2
    have hf : ¬ (DatagramKind.frame = .close ∨
        maxListenerSessions ≤ size ((burst 256).sessions.erase ())) := by decide
    rw [hn, generationCounter_mintOrDrop _ () sampleDatagram hf] at hc
    exact absurd hc (Nat.succ_ne_self _)

/-! ## What remote addresses can fill -/

namespace NativeUdpListener

structure Bounded (listener : NativeUdpListener Addr) : Prop where
  sessions : listener.sessions.size ≤ maxListenerSessions
  accepts : listener.acceptQueue.length ≤ listenerAcceptQueueDepth
  queues : ∀ generation session, listener.minted.lookup generation = some session →
    session.queue.length ≤ listenerSessionQueueDepth

variable {self : NativeUdpListener Addr} (h : self.Bounded)
include h

theorem Bounded.erase (a : Addr) : Bounded { self with sessions := self.sessions.erase a } :=
  ⟨(size_erase_le a _).trans h.sessions, h.accepts, h.queues⟩

omit [DecidableEq Addr] in
theorem Bounded.update (g : Nat) (s : ListenerSession Addr)
    (hq : s.queue.length ≤ listenerSessionQueueDepth) :
    Bounded { self with minted := self.minted.insert g s } := by
  refine ⟨h.sessions, h.accepts, fun other found hm => ?_⟩
  obtain ⟨-, rfl⟩ | ⟨-, hm⟩ := lookup_insert_eq_some hm
  · exact hq
  · exact h.queues other found hm

theorem Bounded.mintOrDrop (a : Addr) (k : DatagramKind) (bytes : Bytes) :
    (self.mintOrDrop a k bytes).Bounded := by
  unfold NativeUdpListener.mintOrDrop mint
  have hm (r : Bool) := h.update (self.generationCounter + 1) ⟨a, [bytes], r⟩
    (by simp [listenerSessionQueueDepth])
  have hs := size_insert_le a (self.generationCounter + 1) self.sessions
  have he := size_erase_le a (self.sessions.insert a (self.generationCounter + 1))
  have ha := h.accepts
  split_ifs with hd hq
  · exact h
  · exact ⟨by grind, by grind, (hm true).queues⟩
  · exact ⟨by grind, ha, (hm false).queues⟩

theorem bounded_step (e : ListenerEvent Addr) : (listenerStep self e).2.Bounded := by
  cases e with
  | datagram a bytes =>
    show (self.dispatch a bytes).Bounded
    rcases dispatch_cases self a bytes with
      ⟨_, hn⟩ | ⟨d, g, s, _, _, _, _, hr, hn⟩ | ⟨d, _, _, _, _, hn⟩ | ⟨d, _, _, hn⟩ <;> rw [hn]
    · exact h
    · have hu := h.update g { s with queue := s.queue ++ [bytes] } (by simpa using hr)
      split
      · exact hu.erase a
      · exact hu
    · exact (h.erase a).mintOrDrop a d.kind bytes
    · exact h.mintOrDrop a d.kind bytes
  | accept => exact ⟨h.sessions, by grind [listenerStep, accept, h.accepts], h.queues⟩
  | receive g | drop g =>
    simp only [listenerStep]
    split
    · rename_i s hm
      have hq := h.queues g s hm
      exact h.update g _ (by grind)
    · exact h
  | close g r l =>
    simp only [listenerStep, clearListenerSession]
    split
    · split_ifs
      · exact h
      · exact h.erase _
      · exact h
    · exact h

omit h in
/-- Whatever arrives, and however slowly sessions are accepted and read. -/
theorem listener_tables_bounded (events : List (ListenerEvent Addr)) :
    (run listenerStep new events).Bounded := by
  apply run_invariant Bounded fun _ e h => bounded_step h e
  exact ⟨by simp [new, size], by simp [new], by simp [new]⟩

end NativeUdpListener
end QuantumLink.Carrier
