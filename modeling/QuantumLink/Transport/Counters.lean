import QuantumLink.Foundation.Run
import QuantumLink.Foundation.Table

/-! # Receive counters of the mesh transport

A frame from a peer comes in through the session manager of the peer, through an inbound responder or
through a native UDP responder. Each of them counts the frame, or does not, and then hands it to the
inbound channel, which may make it wait. `metrics` reports the counts; the snapshot reports them as
`f64`, which is exact only up to 2⁵³.
-/

namespace QuantumLink.Transport

open List Finmap

inductive Producer where
  | sessionManager (peerId : String)
  | inboundResponder
  | nativeUdpResponder
deriving DecidableEq

/-- What is counted of a frame. -/
inductive Measure where
  | frames
  | bytes

def Measure.weigh : Measure → Nat → Nat
  | .frames, _ => 1
  | .bytes, size => size

structure ReceiveCounters where
  framesReceived : Nat := 0
  bytesReceived : Nat := 0

namespace ReceiveCounters

variable (self : ReceiveCounters)

def add (size : Nat) : ReceiveCounters :=
  ⟨self.framesReceived + 1, self.bytesReceived + size⟩

def get : Measure → Nat
  | .frames => self.framesReceived
  | .bytes => self.bytesReceived

theorem get_add (s : ReceiveCounters) (size : Nat) (m : Measure) :
    (s.add size).get m = s.get m + m.weigh size := by
  cases m <;> rfl

end ReceiveCounters

structure MeshTransport where
  peers : Table String ReceiveCounters
  /-- The counters of `AggregateState` for the inbound responders. -/
  aggregate : ReceiveCounters
  /-- Frames on their way into the channel, with their sizes. -/
  sending : List (Producer × Nat)
  channel : List (Producer × Nat)

inductive ReceiveEvent where
  | addPeer (peerId : String)
  /-- A producer has a frame, counts it and begins to send it. -/
  | receive (producer : Producer) (size : Nat)
  /-- The channel takes a frame. -/
  | hand (producer : Producer) (size : Nat)

/-- A count as `f64`: 53 significant bits, to the nearest, and half way to the even one. -/
def asF64 (count : Nat) : Nat :=
  let unit := 2 ^ (count.log2 - 52)
  let rest := count % unit
  if unit < 2 * rest ∨ unit = 2 * rest ∧ count / unit % 2 = 1 then (count / unit + 1) * unit
  else count / unit * unit

theorem asF64_eq_self {count : Nat} (h : count ≤ 2 ^ 53) : asF64 count = count := by
  rcases h.lt_or_eq with hlt | rfl
  · have hlog : count.log2 - 52 = 0 := by
      by_cases hz : count = 0
      · subst hz
        decide
      · have := (Nat.log2_lt hz).mpr hlt
        omega
    simp [asF64, hlog, Nat.mod_one]
  · decide +kernel

namespace MeshTransport

def initial : MeshTransport := ⟨∅, {}, [], []⟩

variable (self : MeshTransport)

def step : ReceiveEvent → Unit × MeshTransport
  | .addPeer peerId =>
    ((), if peerId ∈ self.peers then self else { self with peers := self.peers.insert peerId {} })
  | .receive (.sessionManager peerId) size =>
    ((), match self.peers.lookup peerId with
      | none => self
      | some counters => { self with
          peers := self.peers.insert peerId (counters.add size)
          sending := (.sessionManager peerId, size) :: self.sending })
  | .receive .inboundResponder size =>
    ((), { self with
      aggregate := self.aggregate.add size
      sending := (.inboundResponder, size) :: self.sending })
  | .receive .nativeUdpResponder size =>
    ((), { self with sending := (.nativeUdpResponder, size) :: self.sending })
  | .hand producer size =>
    ((), if (producer, size) ∈ self.sending then
      { self with
        sending := self.sending.erase (producer, size)
        channel := (producer, size) :: self.channel }
      else self)

variable (measure : Measure)

/-- What `metrics` reports as received. -/
def metrics : Nat :=
  (self.peers.sorted.map fun entry => entry.2.get measure).sum

/-- What `mesh_transport_snapshot` reports as received. -/
def snapshot : Nat :=
  asF64 (self.metrics measure + self.aggregate.get measure)

end MeshTransport

inductive Role where
  | manager
  | inbound
  | native
deriving DecidableEq

def Producer.role : Producer → Role
  | .sessionManager _ => .manager
  | .inboundResponder => .inbound
  | .nativeUdpResponder => .native

/-- The number or the size of the frames of a kind of producer. -/
def tally (role : Role) (measure : Measure) (frames : List (Producer × Nat)) : Nat :=
  (frames.map fun frame => if frame.1.role = role then measure.weigh frame.2 else 0).sum

/-- The number or the size of all frames. -/
def total (measure : Measure) (frames : List (Producer × Nat)) : Nat :=
  (frames.map fun frame => measure.weigh frame.2).sum

theorem total_append (m : Measure) (left right : List (Producer × Nat)) :
    total m (left ++ right) = total m left + total m right := by
  simp [total]

theorem tally_append (role : Role) (m : Measure) (left right : List (Producer × Nat)) :
    tally role m (left ++ right) = tally role m left + tally role m right := by
  simp [tally]

theorem total_eq_tally (m : Measure) (frames : List (Producer × Nat)) :
    total m frames = tally .manager m frames + tally .inbound m frames + tally .native m frames := by
  induction frames with
  | nil => rfl
  | cons f frames ih =>
    obtain ⟨p, s⟩ := f
    rw [total] at ih ⊢
    cases p <;> simp [tally, Producer.role, ih] <;> omega

variable {frames : List (Producer × Nat)}

theorem tally_erase {frame : Producer × Nat} (h : frame ∈ frames) (r : Role) (m : Measure) :
    tally r m (frames.erase frame) + tally r m [frame] = tally r m frames := by
  have hp := (perm_cons_erase h).map
    fun frame => if frame.1.role = r then m.weigh frame.2 else 0
  have hs := hp.sum_eq
  simp only [tally, map_cons, sum_cons, map_nil, sum_nil] at hs ⊢
  omega

theorem tally_eq_zero {role : Role} (h : ∀ frame ∈ frames, frame.1.role ≠ role) (m : Measure) :
    tally role m frames = 0 := by
  refine sum_eq_zero fun n hn => ?_
  obtain ⟨frame, hm, rfl⟩ := mem_map.mp hn
  exact if_neg (h frame hm)

theorem forall_role_ne_of_tally {role : Role} (h : tally role .frames frames = 0) :
    ∀ frame ∈ frames, frame.1.role ≠ role := by
  intro frame hm hr
  have hn := sum_eq_zero_iff.mp h _ (mem_map_of_mem hm)
  rw [if_pos hr] at hn
  contradiction

namespace MeshTransport

variable (s : MeshTransport)

theorem metrics_eq (m : Measure) :
    s.metrics m = ∑ key ∈ s.peers.keys, (s.peers.lookup key).elim 0 (·.get m) :=
  Table.sum_sorted (fun counters : ReceiveCounters => counters.get m) s.peers

/-- The counters hold what their producers counted, whether or not the channel has it yet. -/
def Counts (self : MeshTransport) : Prop := ∀ measure,
  self.metrics measure =
      tally .manager measure self.sending + tally .manager measure self.channel ∧
    self.aggregate.get measure =
      tally .inbound measure self.sending + tally .inbound measure self.channel

theorem sum_insert_new {peers : Table String ReceiveCounters} {peerId : String}
    (h : peerId ∉ peers) (m : Measure) :
    ∑ key ∈ (peers.insert peerId {}).keys, ((peers.insert peerId {}).lookup key).elim 0 (·.get m) =
      ∑ key ∈ peers.keys, (peers.lookup key).elim 0 (·.get m) := by
  have hk : peerId ∉ peers.keys := fun hm => h (mem_keys.mp hm)
  rw [Table.keys_insert, Finset.sum_insert hk, lookup_insert]
  have hz : (some ({} : ReceiveCounters)).elim 0 (·.get m) = 0 := by cases m <;> rfl
  rw [hz, Nat.zero_add]
  refine Finset.sum_congr rfl fun key hm => ?_
  rw [lookup_insert_of_ne]
  exact fun he => hk (he ▸ hm)

theorem sum_insert_add {peers : Table String ReceiveCounters} {peerId : String}
    {counters : ReceiveCounters} (h : peers.lookup peerId = some counters) (size : Nat)
    (m : Measure) :
    ∑ key ∈ (peers.insert peerId (counters.add size)).keys,
        ((peers.insert peerId (counters.add size)).lookup key).elim 0 (·.get m) =
      (∑ key ∈ peers.keys, (peers.lookup key).elim 0 (·.get m)) + m.weigh size := by
  have hk : peerId ∈ peers.keys := mem_keys.mpr (mem_of_lookup_eq_some h)
  rw [Table.keys_insert, Finset.insert_eq_of_mem hk, ← Finset.add_sum_erase _ _ hk,
    ← Finset.add_sum_erase _ (fun key => (peers.lookup key).elim 0 (·.get m)) hk, lookup_insert, h]
  have hr : ∑ key ∈ peers.keys.erase peerId,
      ((peers.insert peerId (counters.add size)).lookup key).elim 0 (·.get m) =
        ∑ key ∈ peers.keys.erase peerId, (peers.lookup key).elim 0 (·.get m) := by
    refine Finset.sum_congr rfl fun key hm => ?_
    rw [lookup_insert_of_ne _ (Finset.ne_of_mem_erase hm)]
  rw [hr]
  simp only [Option.elim_some, ReceiveCounters.get_add]
  omega

theorem counts_step (event : ReceiveEvent) (h : s.Counts) : (s.step event).2.Counts := by
  intro m
  have hm := h m
  rw [metrics_eq] at hm
  cases event with
  | addPeer peerId =>
    simp only [step, metrics_eq]
    split_ifs with hp
    · exact hm
    · rw [sum_insert_new hp]
      exact hm
  | receive producer size =>
    cases producer with
    | sessionManager peerId =>
      simp only [step]
      split
      · exact h m
      · rename_i counters hl
        rw [metrics_eq, sum_insert_add hl]
        simp only [tally, map_cons, sum_cons, Producer.role, if_true, reduceCtorEq,
          if_false] at hm ⊢
        omega
    | inboundResponder =>
      simp only [step, metrics_eq, ReceiveCounters.get_add, tally, map_cons, sum_cons,
        Producer.role, if_true, reduceCtorEq, if_false] at hm ⊢
      omega
    | nativeUdpResponder =>
      simp only [step, metrics_eq, tally, map_cons, sum_cons, Producer.role, reduceCtorEq,
        if_false] at hm ⊢
      omega
  | hand producer size =>
    simp only [step]
    split_ifs with hs
    · have ha := tally_erase hs .manager m
      have hb := tally_erase hs .inbound m
      rw [metrics_eq]
      simp only [tally, map_cons, sum_cons, map_nil, sum_nil] at hm ha hb ⊢
      omega
    · exact h m

theorem counts_run (events : List ReceiveEvent) : (run step initial events).Counts := by
  refine run_invariant Counts counts_step ?_ events
  intro m
  rw [metrics_eq]
  cases m <;> simp [initial, tally, ReceiveCounters.get]

/-- `metrics` is complete exactly if what managers have counted and not yet handed on makes up for
what the responders handed on, and the snapshot is then complete exactly if what the inbound
responders counted is lost in rounding. Up to 2⁵³ frames and bytes nothing is rounded, and inbound
responders must have had no frame. -/
theorem receive_counters_complete_iff (events : List ReceiveEvent) :
    let self := run step initial events
    ((∀ m, self.metrics m = total m self.channel ∧ self.snapshot m = total m self.channel) ↔
      ∀ m, tally .manager m self.sending =
          tally .inbound m self.channel + tally .native m self.channel ∧
        asF64 (total m self.channel + tally .inbound m (self.sending ++ self.channel)) =
          total m self.channel) ∧
    ((∀ m, total m (self.sending ++ self.channel) ≤ 2 ^ 53) →
      ((∀ m, self.metrics m = total m self.channel ∧ self.snapshot m = total m self.channel) ↔
        (∀ frame ∈ self.sending ++ self.channel, frame.1.role ≠ .inbound) ∧
          ∀ m, tally .manager m self.sending = tally .native m self.channel)) := by
  intro self
  have hc : self.Counts := counts_run events
  refine ⟨forall_congr' fun m => ?_, ?_⟩
  · obtain ⟨hm, ha⟩ := hc m
    have ht := total_eq_tally m self.channel
    rw [← tally_append] at ha
    constructor
    · rintro ⟨hr, hs⟩
      rw [snapshot, hr, ha] at hs
      exact ⟨by omega, hs⟩
    · rintro ⟨he, hs⟩
      have hr : self.metrics m = total m self.channel := by omega
      rw [snapshot, hr, ha]
      exact ⟨rfl, hs⟩
  · intro hbound
    -- below the bound the snapshot is the sum of the counters
    have hexact (m : Measure) : self.snapshot m = self.metrics m + self.aggregate.get m := by
      refine asF64_eq_self ?_
      have hb := hbound m
      obtain ⟨hm, ha⟩ := hc m
      rw [total_append, total_eq_tally, total_eq_tally] at hb
      omega
    simp only [hexact]
    constructor
    · intro h
      have hf := h .frames
      have hcf := hc .frames
      rw [total_eq_tally] at hf
      have hs := forall_role_ne_of_tally (by omega : tally .inbound .frames self.sending = 0)
      have hn := forall_role_ne_of_tally (by omega : tally .inbound .frames self.channel = 0)
      refine ⟨forall_mem_append.mpr ⟨hs, hn⟩, fun m => ?_⟩
      have hm := (h m).1
      have hcm := (hc m).1
      rw [total_eq_tally, tally_eq_zero hn m] at hm
      omega
    · rintro ⟨hr, ht⟩ m
      obtain ⟨hs, hn⟩ := forall_mem_append.mp hr
      obtain ⟨hm, ha⟩ := hc m
      have he := ht m
      rw [tally_eq_zero hs m, tally_eq_zero hn m] at ha
      rw [total_eq_tally, tally_eq_zero hn m]
      omega

example : asF64 (2 ^ 53 + 1) = 2 ^ 53 ∧ asF64 (2 ^ 53 + 3) = 2 ^ 53 + 4 := by decide +kernel

/-- One frame through an inbound responder, one through a native one, both handed on. -/
def respondedEvents : List ReceiveEvent :=
  [.receive .inboundResponder 40, .hand .inboundResponder 40,
    .receive .nativeUdpResponder 60, .hand .nativeUdpResponder 60]

theorem responders_not_counted :
    let self := run step initial respondedEvents
    total .frames self.channel = 2 ∧ total .bytes self.channel = 100 ∧
      self.metrics .frames = 0 ∧ self.snapshot .frames = 1 ∧ self.snapshot .bytes = 40 := by
  refine ⟨by decide, by decide, ?_⟩
  simp only [snapshot, metrics_eq]
  exact ⟨rfl, rfl, rfl⟩

end MeshTransport

end QuantumLink.Transport
