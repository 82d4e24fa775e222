import QuantumLink.Discovery.Record
import QuantumLink.Foundation.Run
import QuantumLink.Foundation.Table

/-! # The rendezvous store

Peers publish their signed records under a mesh and look each other up. A record replaces a live
one only with a greater sequence number, and the ones that have expired are dropped by whichever
lookup comes next. A call of `publish` verifies the record before it waits for the lock, so the
record can expire, and others can be stored, between the two.
-/

namespace QuantumLink.Rendezvous

open Device Discovery List Finmap

abbrev Key := String × String

structure RendezvousStore where
  records : Table Key PeerRecord

namespace RendezvousStore

def sequenceMessage (record current : PeerRecord) : String :=
  "rendezvous rejected non-increasing peer record sequence " ++
    toString record.body.sequence.toNat ++ " for " ++ record.body.peerId ++
    "; current sequence is " ++ toString current.body.sequence.toNat

/-- `publish` from the lock on. -/
def insert (store : RendezvousStore) (meshId : String) (record : PeerRecord) (now : UInt64) :
    Except QlinkError Unit × RendezvousStore :=
  let inserted : RendezvousStore := ⟨store.records.insert (meshId, record.body.peerId) record⟩
  match store.records.lookup (meshId, record.body.peerId) with
  | some current =>
    if now < current.body.expiresAtUnix ∧ record.body.sequence ≤ current.body.sequence then
      (.error (.protocol (sequenceMessage record current)), store)
    else (.ok (), inserted)
  | none => (.ok (), inserted)

/-- The clock is read once for each record. -/
def retainLive (store : RendezvousStore) (now : Key → UInt64) : Table Key PeerRecord :=
  store.records.retain fun key record => decide (now key < record.body.expiresAtUnix)

def lookup (store : RendezvousStore) (meshId peerId : String) (now : Key → UInt64) :
    Option PeerRecord × RendezvousStore :=
  ((store.retainLive now).lookup (meshId, peerId), ⟨store.retainLive now⟩)

theorem lookup_retainLive (st : RendezvousStore) (now : Key → UInt64) (key : Key)
    (r : PeerRecord) :
    (st.retainLive now).lookup key = some r ↔
      st.records.lookup key = some r ∧ now key < r.body.expiresAtUnix := by
  rw [retainLive, Table.lookup_retain, Option.filter_eq_some_iff, decide_eq_true_eq]

end RendezvousStore

/-! ## Calls by any number of clients -/

/-- The store, and the calls of `publish` that have verified their record and wait for the
lock. -/
structure State where
  store : RendezvousStore
  waiting : Table Nat (String × PeerRecord)

def State.new : State := ⟨⟨∅⟩, ∅⟩

/-- A call of `publish` starts, a waiting one gets the lock, or `lookup` runs under it. -/
inductive Event where
  | publish (call : Nat) (meshId : String) (record : PeerRecord) (now : UInt64)
  | locked (call : Nat) (now : UInt64)
  | lookup (meshId peerId : String) (now : Key → UInt64)

inductive Reply where
  | pending
  | published (result : Except QlinkError Unit)
  | found (record : Option PeerRecord)

variable {crates : DeviceCrates}

def step (crates : DeviceCrates) (s : State) : Event → Reply × State
  | .publish call meshId record now =>
    match s.waiting.lookup call with
    | some _ => (.pending, s)
    | none =>
      match record.verify crates meshId now with
      | .error error => (.published (.error error), s)
      | .ok () => (.pending, { s with waiting := s.waiting.insert call (meshId, record) })
  | .locked call now =>
    match s.waiting.lookup call with
    | some (meshId, record) =>
      let (result, store) := s.store.insert meshId record now
      (.published result, ⟨store, s.waiting.erase call⟩)
    | none => (.pending, s)
  | .lookup meshId peerId now =>
    let (record, store) := s.store.lookup meshId peerId now
    (.found record, { s with store := store })

inductive Stepped (crates : DeviceCrates) (s : State) : Event → Reply → State → Prop
  | busy (call : Nat) (meshId : String) (record : PeerRecord) (now : UInt64)
      (hwaits : (s.waiting.lookup call).isSome) :
      Stepped crates s (.publish call meshId record now) .pending s
  | refused (call : Nat) (meshId : String) (record : PeerRecord) (now : UInt64)
      (error : QlinkError) (hverify : record.verify crates meshId now = .error error) :
      Stepped crates s (.publish call meshId record now) (.published (.error error)) s
  | started (call : Nat) (meshId : String) (record : PeerRecord) (now : UInt64)
      (hverify : record.verify crates meshId now = .ok ()) :
      Stepped crates s (.publish call meshId record now) .pending
        { s with waiting := s.waiting.insert call (meshId, record) }
  | idle (call : Nat) (now : UInt64) (hwaits : s.waiting.lookup call = none) :
      Stepped crates s (.locked call now) .pending s
  | rejected (call : Nat) (now : UInt64) (meshId : String) (record current : PeerRecord)
      (hwaits : s.waiting.lookup call = some (meshId, record))
      (hcurrent : s.store.records.lookup (meshId, record.body.peerId) = some current) :
      Stepped crates s (.locked call now)
        (.published (.error (.protocol (RendezvousStore.sequenceMessage record current))))
        ⟨s.store, s.waiting.erase call⟩
  | inserted (call : Nat) (now : UInt64) (meshId : String) (record : PeerRecord)
      (hwaits : s.waiting.lookup call = some (meshId, record))
      (hgreater : ∀ current, s.store.records.lookup (meshId, record.body.peerId) = some current →
        now < current.body.expiresAtUnix → current.body.sequence < record.body.sequence) :
      Stepped crates s (.locked call now) (.published (.ok ()))
        ⟨⟨s.store.records.insert (meshId, record.body.peerId) record⟩, s.waiting.erase call⟩
  | looked (meshId peerId : String) (now : Key → UInt64) :
      Stepped crates s (.lookup meshId peerId now)
        (.found ((s.store.retainLive now).lookup (meshId, peerId)))
        ⟨⟨s.store.retainLive now⟩, s.waiting⟩

open RendezvousStore

open State

theorem step_stepped (crates : DeviceCrates) (s : State) (event : Event) :
    Stepped crates s event (step crates s event).1 (step crates s event).2 := by
  cases event with
  | publish c m r now =>
    cases hw : s.waiting.lookup c with
    | some o =>
      simp only [step, hw]
      exact .busy c m r now (by rw [hw]; rfl)
    | none =>
      cases hv : r.verify crates m now with
      | error error =>
        simp only [step, hw, hv]
        exact .refused c m r now error hv
      | ok _ =>
        simp only [step, hw, hv]
        exact .started c m r now hv
  | locked c now =>
    cases hw : s.waiting.lookup c with
    | none =>
      simp only [step, hw]
      exact .idle c now hw
    | some p =>
      obtain ⟨m, r⟩ := p
      simp only [step, hw]
      cases hc : s.store.records.lookup (m, r.body.peerId) with
      | none =>
        simp only [RendezvousStore.insert, hc]
        exact .inserted c now m r hw (by simp [hc])
      | some cu =>
        by_cases hl : now < cu.body.expiresAtUnix ∧ r.body.sequence ≤ cu.body.sequence
        · simp only [RendezvousStore.insert, hc, if_pos hl]
          exact .rejected c now m r cu hw hc
        · simp only [RendezvousStore.insert, hc, if_neg hl]
          refine .inserted c now m r hw ?_
          intro o ho he
          cases hc.symm.trans ho
          exact UInt64.not_le.mp fun hle => hl ⟨he, hle⟩
  | lookup m pe now => exact .looked m pe now

/-! ## What is stored was published -/

/-- Some call has published the record for the mesh, and it verified at that time. -/
def Published (crates : DeviceCrates) (events : List Event) (meshId : String)
    (record : PeerRecord) : Prop :=
  ∃ call now, Event.publish call meshId record now ∈ events ∧
    record.verify crates meshId now = .ok ()

structure Attested (crates : DeviceCrates) (events : List Event) (s : State) : Prop where
  stored : ∀ meshId peerId record, s.store.records.lookup (meshId, peerId) = some record →
    record.body.peerId = peerId ∧ Published crates events meshId record
  waiting : ∀ call meshId record, s.waiting.lookup call = some (meshId, record) →
    Published crates events meshId record

variable {events : List Event}

theorem Published.later (h : Published crates events meshId record) (event : Event) :
    Published crates (events ++ [event]) meshId record := by
  obtain ⟨c, now, hm, hv⟩ := h
  exact ⟨c, now, mem_append_left _ hm, hv⟩

variable {s : State}

theorem Attested.later (h : Attested crates events s)
    (event : Event) : Attested crates (events ++ [event]) s where
  stored meshId peerId record hr :=
    ⟨(h.stored meshId peerId record hr).1, (h.stored meshId peerId record hr).2.later event⟩
  waiting call meshId record hc := (h.waiting call meshId record hc).later event

theorem Attested.erase (h : Attested crates events s)
    (call : Nat) : Attested crates events ⟨s.store, s.waiting.erase call⟩ where
  stored := h.stored
  waiting other meshId record ho := h.waiting other meshId record (Table.lookup_erase_eq_some ho).2

variable {next : State} {event : Event} {reply : Reply}

theorem Stepped.attested (ht : Stepped crates s event reply next) (h : Attested crates events s) :
    Attested crates (events ++ [event]) next := by
  have h' := h.later event
  cases ht with
  | busy c meshId record now hw | refused c meshId record now error hv => exact h'
  | idle c now hw => exact h'
  | started c meshId record now hv =>
    refine ⟨h'.stored, ?_⟩
    intro o meshId' record' hot
    rcases Table.lookup_insert_eq_some hot with ⟨rfl, heq⟩ | ⟨_, ho⟩
    · obtain ⟨rfl, rfl⟩ := Prod.mk.inj heq
      exact ⟨o, now, by simp, hv⟩
    · exact h'.waiting o meshId' record' ho
  | rejected c now meshId record cu hw hc => exact h'.erase c
  | inserted c now meshId record hw hg =>
    refine ⟨?_, (h'.erase c).waiting⟩
    intro meshId' peerId record' hr
    rcases Table.lookup_insert_eq_some hr with ⟨hs, rfl⟩ | ⟨_, ho⟩
    · obtain ⟨rfl, rfl⟩ := Prod.mk.inj hs
      exact ⟨rfl, h'.waiting c meshId' record hw⟩
    · exact h'.stored meshId' peerId record' ho
  | looked meshId peerId now =>
    refine ⟨?_, h'.waiting⟩
    intro meshId' peerId' record hr
    rw [lookup_retainLive] at hr
    exact h'.stored meshId' peerId' record hr.1

theorem run_attested (crates : DeviceCrates) (events : List Event) :
    Attested crates events (run (step crates) new events) := by
  induction events using reverseRecOn with
  | nil => exact ⟨by simp [new], by simp [new]⟩
  | append_singleton events e ih =>
    rw [run_concat]
    exact (step_stepped crates _ e).attested ih

/-! ## No rollback -/

/-- The record that an event with this reply returns or publishes for a key. -/
def sight (key : Key) (s : State) : Event → Reply → Option PeerRecord
  | .locked call _, .published (.ok ()) =>
    ((s.waiting.lookup call).filter fun pending =>
      decide ((pending.1, pending.2.body.peerId) = key)).map Prod.snd
  | .lookup meshId peerId _, .found record => if (meshId, peerId) = key then record else none
  | _, _ => none

def sighted (crates : DeviceCrates) (key : Key) (s : State) (event : Event) : Option PeerRecord :=
  sight key s event (step crates s event).1

/-- The reading of the clock that an event makes for a key. -/
def Event.clock : Event → Key → UInt64
  | .publish _ _ _ now => fun _ => now
  | .locked _ now => fun _ => now
  | .lookup _ _ now => now

/-- No reading of the first event is later than one of the second. -/
def Event.Before (first second : Event) : Prop :=
  ∀ key other, first.clock key ≤ second.clock other

/-- The key has a record with at least the sequence number, unexpired at the time. -/
def Holds (key : Key) (sequence time : UInt64) (s : State) : Prop :=
  ∃ record, s.store.records.lookup key = some record ∧ sequence ≤ record.body.sequence ∧
    time < record.body.expiresAtUnix

variable {key : Key}

theorem Stepped.stored_of_sight (hs : Stepped crates s event reply next)
    (h : sight key s event reply = some record) : next.store.records.lookup key = some record := by
  cases hs with
  | inserted c now m o hw hg =>
    obtain ⟨rfl, hk⟩ : o = record ∧ (m, record.body.peerId) = key := by
      simpa [sight, hw] using h
    rw [← hk, lookup_insert]
  | looked m p now =>
    by_cases hk : (m, p) = key
    · subst hk
      simpa [sight] using h
    · simp [sight, hk] at h
  | _ => cases h

/-- Up to the time, a step can only replace the record by one with a greater sequence number. -/
theorem Stepped.holds {se ti : UInt64}
    (ht : Stepped crates s event reply next) (hcl : event.clock key ≤ ti)
    (hi : ∀ record, sight key s event reply = some record → ti < record.body.expiresAtUnix)
    (h : Holds key se ti s) : Holds key se ti next := by
  obtain ⟨c, hc, hs, he⟩ := h
  cases ht with
  | inserted ca now m record hw hg =>
    by_cases hk : (m, record.body.peerId) = key
    · have hl := hg c (by rw [hk]; exact hc)
        (UInt64.lt_of_le_of_lt hcl he)
      refine ⟨record, by rw [← hk]; exact lookup_insert _, ?_, ?_⟩
      · exact UInt64.le_of_lt (UInt64.lt_of_le_of_lt hs hl)
      · exact hi record (by simp [sight, hw, hk])
    · refine ⟨c, ?_, hs, he⟩
      rw [← hc]
      exact lookup_insert_of_ne _ (Ne.symm hk)
  | looked m p now =>
    refine ⟨c, ?_, hs, he⟩
    rw [lookup_retainLive]
    exact ⟨hc, UInt64.lt_of_le_of_lt hcl he⟩
  | _ => exact ⟨c, hc, hs, he⟩

theorem run_holds {se ti : UInt64} (events : List Event)
    (hc : ∀ event ∈ events, event.clock key ≤ ti)
    (hs : ∀ record ∈ observed (step crates) (sighted crates key) s events,
      ti < record.body.expiresAtUnix) (h : Holds key se ti s) :
    Holds key se ti (run (step crates) s events) := by
  induction events generalizing s with
  | nil => exact h
  | cons event events ih =>
    simp only [observed, mem_append, Option.mem_toList] at hs
    refine ih (fun l hl => hc l (mem_cons_of_mem _ hl))
      (fun record hr => hs record (.inr hr)) ?_
    exact (step_stepped crates s event).holds (hc event mem_cons_self)
      (fun record hr => hs record (.inl hr)) h

/-! ## Calls that fail -/

/-- The call of `publish` an event belongs to. -/
def Event.call : Event → Option Nat
  | .publish call _ _ _ => some call
  | .locked call _ => some call
  | .lookup _ _ _ => none

def Succeeds (crates : DeviceCrates) (call : Nat) (s : State) (event : Event) : Prop :=
  event.call = some call ∧ (step crates s event).1 = .published (.ok ())

def Reply.record : Reply → Option (Option PeerRecord)
  | .found record => some record
  | _ => none

def lookups (crates : DeviceCrates) (s : State) (events : List Event) :
    List (Option PeerRecord) :=
  observed (step crates) (fun s event => (step crates s event).1.record) s events

structure SameBut (call : Nat) (s t : State) : Prop where
  store : s.store = t.store
  waiting : ∀ other, other ≠ call → s.waiting.lookup other = t.waiting.lookup other

variable {call : Nat} {t : State}

theorem SameBut.erase (h : SameBut call s t) (st : RendezvousStore) (g : Nat) :
    SameBut call ⟨st, s.waiting.erase g⟩ ⟨st, t.waiting.erase g⟩ := by
  refine ⟨rfl, ?_⟩
  intro o ho
  by_cases hg : o = g
  · rw [hg, lookup_erase, lookup_erase]
  · rw [lookup_erase_ne hg, lookup_erase_ne hg]
    exact h.waiting o ho

/-- A step of a call that does not succeed leaves all but the call alone. -/
theorem Stepped.sameBut (hs : Stepped crates s event reply next) (hc : event.call = some call)
    (hf : reply ≠ .published (.ok ())) (h : SameBut call s t) : SameBut call next t := by
  cases hs with
  | busy call' m record now hw | refused call' m record now error hv => exact h
  | idle call' now hw => exact h
  | started call' m record now hv =>
    cases hc
    refine ⟨h.store, ?_⟩
    intro o ho
    rw [← h.waiting o ho]
    exact lookup_insert_of_ne _ ho
  | rejected call' now m record current hw hu =>
    cases hc
    refine ⟨h.store, ?_⟩
    intro o ho
    rw [← h.waiting o ho]
    exact lookup_erase_ne ho
  | inserted call' now m record hw hg => exact absurd rfl hf
  | looked m p now => cases hc

theorem Stepped.record_eq_none
    (hs : Stepped crates s event reply next) (hc : event.call = some call) :
    reply.record = none := by
  cases hs with
  | looked m p now => cases hc
  | _ => rfl

theorem SameBut.step (crates : DeviceCrates) (h : SameBut call s t) (hc : event.call ≠ some call) :
    (step crates s event).1 = (step crates t event).1 ∧
      SameBut call (step crates s event).2 (step crates t event).2 := by
  cases event with
  | publish o m r now =>
    have ho : o ≠ call := fun hs => hc (congrArg some hs)
    simp only [Rendezvous.step, h.waiting o ho]
    cases t.waiting.lookup o with
    | some p => exact ⟨rfl, h⟩
    | none =>
      cases r.verify crates m now with
      | error error => exact ⟨rfl, h⟩
      | ok _ =>
        refine ⟨rfl, h.store, ?_⟩
        intro th ht
        by_cases hs : th = o
        · rw [hs, lookup_insert, lookup_insert]
        · rw [lookup_insert_of_ne _ hs, lookup_insert_of_ne _ hs]
          exact h.waiting th ht
  | locked o now =>
    have ho : o ≠ call := fun hs => hc (congrArg some hs)
    simp only [Rendezvous.step, h.waiting o ho, h.store]
    cases t.waiting.lookup o with
    | none => exact ⟨rfl, h⟩
    | some p => exact ⟨rfl, h.erase _ o⟩
  | lookup m pe now =>
    simp only [Rendezvous.step, h.store]
    exact ⟨trivial, rfl, h.waiting⟩

/-- Without the events of a call that does not succeed, every lookup returns the same. -/
theorem lookups_filter (events : List Event) (h : SameBut call s t)
    (hf : Along (step crates) (fun s event => ¬ Succeeds crates call s event) s events) :
    lookups crates t (events.filter fun event => decide (event.call ≠ some call)) =
      lookups crates s events := by
  induction events generalizing s t with
  | nil => rfl
  | cons event events ih =>
    by_cases hc : event.call = some call
    · have hr : (step crates s event).1 ≠ .published (.ok ()) :=
        fun hk => hf.1 ⟨hc, hk⟩
      have hn := (step_stepped crates s event).sameBut hc hr h
      have hs := (step_stepped crates s event).record_eq_none hc
      rw [filter_cons_of_neg (by simpa using hc), ih hn hf.2]
      simp [lookups, observed, hs]
    · obtain ⟨hr, hn⟩ := h.step crates hc
      rw [filter_cons_of_pos (by simpa using hc)]
      simp only [lookups, observed, hr]
      rw [← lookups, ← lookups, ih hn hf.2]

/-- **Anti-rollback.** A lookup returns an unexpired record that was published and verified for
the mesh and is the peer's own. Until a record that was returned or published expires, a later
lookup returns none with a smaller sequence number, as long as the ones between are unexpired
too. A publication that does not succeed changes no lookup. -/
theorem lookups_never_roll_back (crates : DeviceCrates) :
    (∀ (events : List Event) (meshId peerId : String) (now : Key → UInt64) (record : PeerRecord),
      (step crates (run (step crates) State.new events) (.lookup meshId peerId now)).1 =
        .found (some record) →
      Published crates events meshId record ∧ record.body.peerId = peerId ∧
        record.body.meshId = meshId ∧ now (meshId, peerId) < record.body.expiresAtUnix) ∧
    (∀ (front between : List Event) (event : Event) (meshId peerId : String) (now : Key → UInt64)
        (seen record : PeerRecord),
      (front ++ event :: between ++ [Event.lookup meshId peerId now]).Pairwise Event.Before →
      sighted crates (meshId, peerId) (run (step crates) State.new front) event = some seen →
      now (meshId, peerId) < seen.body.expiresAtUnix →
      (∀ other ∈ observed (step crates) (sighted crates (meshId, peerId))
          (run (step crates) State.new (front ++ [event])) between,
        now (meshId, peerId) < other.body.expiresAtUnix) →
      (step crates (run (step crates) State.new (front ++ event :: between))
        (.lookup meshId peerId now)).1 = .found (some record) →
      seen.body.sequence ≤ record.body.sequence) ∧
    ∀ (events : List Event) (call : Nat),
      Along (step crates) (fun s event => ¬ Succeeds crates call s event) State.new events →
      lookups crates State.new (events.filter fun event => decide (event.call ≠ some call)) =
        lookups crates State.new events := by
  refine ⟨?_, ?_, ?_⟩
  · intro events meshId peerId now record hf
    have hl : ((run (step crates) new events).store.retainLive now).lookup
        (meshId, peerId) = some record := Reply.found.inj hf
    rw [lookup_retainLive] at hl
    obtain ⟨hpe, hp⟩ := (run_attested crates events).stored meshId peerId record hl.1
    obtain ⟨call, p, hm, hv⟩ := hp
    exact ⟨⟨call, p, hm, hv⟩, hpe, (PeerRecord.verify_eq_ok_iff.mp hv).mesh, hl.2⟩
  · intro front between event meshId peerId now seen record hc hi hse hb hf
    have hbe : ∀ e ∈ between,
        e.clock (meshId, peerId) ≤ now (meshId, peerId) := by
      intro e he
      exact (pairwise_append.mp hc).2.2 e (by simp [he]) _
        mem_cons_self (meshId, peerId) (meshId, peerId)
    rw [run_concat] at hb
    have ht := (step_stepped crates _ event).stored_of_sight hi
    obtain ⟨l, ha, hs, -⟩ := run_holds between hbe hb
      ⟨seen, ht, UInt64.le_refl _, hse⟩
    rw [run_append, run_cons] at hf
    have hl := (lookup_retainLive _ _ _ _).mp (Reply.found.inj hf)
    cases ha.symm.trans hl.1
    exact hs
  · intro events call hfa
    exact lookups_filter events ⟨rfl, fun _ _ => rfl⟩ hfa


def republish (first second : PeerRecord) : List Event :=
  [.publish 0 "devmesh" first 1, .locked 0 2, .publish 1 "devmesh" second 3, .locked 1 4]

def lookupAfter (peerId : String) : Event := .lookup "devmesh" peerId fun _ => 5

/-- A second record with a smaller sequence number is rejected while the first is live. -/
theorem republish_rejected {first se : PeerRecord} (p : String)
    (hf : first.verify crates "devmesh" 1 = .ok ())
    (hs : se.verify crates "devmesh" 3 = .ok ()) (hp : first.body.peerId = p)
    (ha : se.body.peerId = p) (hl : 5 < first.body.expiresAtUnix)
    (hle : se.body.sequence ≤ first.body.sequence) :
    sighted crates ("devmesh", p)
        (run (step crates) new ((republish first se).take 1)) (.locked 0 2) =
      some first ∧
    (∀ other ∈ observed (step crates) (sighted crates ("devmesh", p))
        (run (step crates) new ((republish first se).take 2))
        ((republish first se).drop 2), 5 < other.body.expiresAtUnix) ∧
    (step crates (run (step crates) new (republish first se)) (lookupAfter p)).1 =
      .found (some first) ∧
    Along (step crates) (fun s event => ¬ Succeeds crates 1 s event) new
      (republish first se ++ [lookupAfter p]) := by
  have hc : lookup ("devmesh", se.body.peerId)
      ((∅ : Table Key PeerRecord).insert ("devmesh", p) first) = some first := by
    rw [ha]
    exact lookup_insert _
  have he : (4 : UInt64) < first.body.expiresAtUnix := UInt64.lt_trans (by decide) hl
  have ho (store : RendezvousStore) (h : store.records.lookup ("devmesh", p) = some first) :
      (store.lookup "devmesh" p fun _ => 5).1 = some first :=
    (RendezvousStore.lookup_retainLive _ _ _ _).mpr ⟨h, hl⟩
  simp [republish, lookupAfter, new, step, hf, hs, hc, ho, sighted, sight,
    observed, Along, Succeeds, Event.call, RendezvousStore.insert, hp, he, hle]

/-- The device publishes sequence 5, then 4, which is rejected: a lookup returns sequence 5, as
it does without the second publication. -/
theorem sample_never_rolls_back :
    Published sampleCrates (republish (sampleRecord 1 100 5) (sampleRecord 1 100 4)) "devmesh"
        (sampleRecord 1 100 5) ∧
      (sampleRecord 1 100 5).body.sequence ≤ (sampleRecord 1 100 5).body.sequence ∧
      lookups sampleCrates new
          [.publish 0 "devmesh" (sampleRecord 1 100 5) 1, .locked 0 2, lookupAfter samplePeer] =
        lookups sampleCrates new
          (republish (sampleRecord 1 100 5) (sampleRecord 1 100 4) ++ [lookupAfter samplePeer]) := by
  have hi : (1 : UInt64) < 100 := by decide
  have hfi := sampleRecord_verify 5 hi hi
  have he := sampleRecord_verify 4 hi (show (3 : UInt64) < 100 by decide)
  have hl : (5 : UInt64) < (sampleRecord 1 100 5).body.expiresAtUnix :=
    (by decide : (5 : UInt64) < 100)
  have hle : (sampleRecord 1 100 4).body.sequence ≤ (sampleRecord 1 100 5).body.sequence :=
    (by decide : (4 : UInt64) ≤ 5)
  obtain ⟨hs, hb, hf, ha⟩ := republish_rejected samplePeer hfi he rfl rfl hl hle
  have hc : (republish (sampleRecord 1 100 5) (sampleRecord 1 100 4) ++
      [lookupAfter samplePeer]).Pairwise Event.Before := by
    simp [republish, lookupAfter, Event.Before, Event.clock]
  obtain ⟨hr, ho, hfa⟩ := lookups_never_roll_back sampleCrates
  refine ⟨(hr _ _ _ _ _ hf).1, ?_, hfa _ 1 ha⟩
  exact ho [.publish 0 "devmesh" (sampleRecord 1 100 5) 1]
    ((republish (sampleRecord 1 100 5) (sampleRecord 1 100 4)).drop 2) (.locked 0 2) "devmesh"
    samplePeer (fun _ => 5) (sampleRecord 1 100 5) (sampleRecord 1 100 5) hc hs hl
    hb hf

end QuantumLink.Rendezvous
