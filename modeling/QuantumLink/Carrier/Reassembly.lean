import QuantumLink.Carrier.Datagrams
import QuantumLink.Foundation.Table

/-! # Receiving datagrams

`accept_datagram` of a native UDP session: complete messages pass, fragments are put together
under their key, and the keys of the last completed messages are remembered so that late
duplicates are dropped. Instants are nanoseconds; the two clock readings of one call are one.
-/

namespace QuantumLink.Carrier

open Device (QlinkError)
open Op
open List

def maxReassemblyEntries : Nat := 64
def reassemblyTtl : Nat := 30 * 10 ^ 9
def maxCompletedFragmentKeys : Nat := 256

structure FragmentKey where
  kind : MessageKind
  messageId : UInt64
deriving DecidableEq

structure CompletedFragmentKeys where
  order : List FragmentKey
  set : Finset FragmentKey

namespace CompletedFragmentKeys

def empty : CompletedFragmentKeys := ⟨[], ∅⟩

def contains (self : CompletedFragmentKeys) (key : FragmentKey) : Bool := key ∈ self.set

/-- The `while` loop that evicts the oldest keys. -/
def evict : List FragmentKey → Finset FragmentKey → CompletedFragmentKeys
  | [], set => ⟨[], set⟩
  | oldest :: order, set =>
    if maxCompletedFragmentKeys < (oldest :: order).length then evict order (set.erase oldest)
    else ⟨oldest :: order, set⟩

def insert (self : CompletedFragmentKeys) (key : FragmentKey) : CompletedFragmentKeys :=
  if key ∈ self.set then self else evict (self.order ++ [key]) (Insert.insert key self.set)

/-- The keys are the last of a log. -/
structure Remembers (keys : CompletedFragmentKeys) (log : List FragmentKey) : Prop where
  order : keys.order = log.drop (log.length - maxCompletedFragmentKeys)
  set : keys.set = keys.order.toFinset
  once : log.Nodup

theorem remembers_empty : Remembers empty [] := ⟨rfl, rfl, nodup_nil⟩

variable {k : CompletedFragmentKeys} {log : List FragmentKey}

theorem Remembers.mem_iff (h : Remembers k log) {key : FragmentKey} :
    key ∈ k.set ↔ key ∈ log.drop (log.length - maxCompletedFragmentKeys) := by
  rw [h.set, mem_toFinset, h.order]

theorem evict_of_le {or : List FragmentKey} (set : Finset FragmentKey)
    (h : or.length ≤ maxCompletedFragmentKeys) : evict or set = ⟨or, set⟩ := by
  cases or with
  | nil => rfl
  | cons o or => rw [evict, if_neg (Nat.not_lt.mpr h)]

theorem Remembers.insert (h : Remembers k log) {key : FragmentKey} (hne : key ∉ log) :
    Remembers (k.insert key) (log ++ [key]) := by
  have hle : k.order.length = log.length - (log.length - maxCompletedFragmentKeys) := by
    rw [h.order, length_drop]
  have hn : key ∉ k.set := fun hm => hne (mem_of_mem_drop (h.mem_iff.mp hm))
  have he : Insert.insert key k.set = (k.order ++ [key]).toFinset := by
    rw [h.set]
    ext other
    simp
  have ho : (log ++ [key]).Nodup := by
    rw [← concat_eq_append]
    exact h.once.concat hne
  rw [CompletedFragmentKeys.insert, if_neg hn, he]
  by_cases hro : log.length < maxCompletedFragmentKeys
  · -- Nothing is evicted: the log itself is remembered.
    have ha : log.length - maxCompletedFragmentKeys = 0 := by omega
    have hor : k.order = log := by rw [h.order, ha, drop_zero]
    rw [evict_of_le _ (by rw [length_append, length_singleton]; omega)]
    refine ⟨?_, rfl, ho⟩
    have hs : (log ++ [key]).length - maxCompletedFragmentKeys = 0 := by
      rw [length_append, length_singleton]
      omega
    rw [hs, drop_zero, hor]
  · -- The memory is full, so exactly the oldest key goes.
    have hf : k.order.length = maxCompletedFragmentKeys := by omega
    cases hc : k.order with
    | nil =>
      rw [hc] at hf
      exact absurd hf (by decide)
    | cons o r =>
      have hr : (r ++ [key]).length = maxCompletedFragmentKeys := by
        rw [hc] at hf
        simpa using hf
      have hl : maxCompletedFragmentKeys < (o :: (r ++ [key])).length := by
        rw [length_cons]
        omega
      have hd : (log ++ [key]).drop (log.length + 1 - maxCompletedFragmentKeys) =
          r ++ [key] := by
        have hu : log.length + 1 - maxCompletedFragmentKeys =
            (log.length - maxCompletedFragmentKeys) + 1 := by omega
        rw [hu, ← drop_drop, drop_append_of_le_length (by omega), ← h.order, hc]
        rfl
      have hfr : o ∉ r ++ [key] := by
        have hb : (o :: r ++ [key]).Nodup := by
          rw [← hc, h.order, ← drop_append_of_le_length (by omega)]
          exact ho.sublist (drop_sublist _ _)
        exact (nodup_cons.mp hb).1
      rw [cons_append, evict, if_pos hl, evict_of_le _ (le_of_eq hr)]
      refine ⟨?_, ?_, ho⟩
      · rw [length_append, length_singleton, hd]
      · rw [toFinset_cons, Finset.erase_insert fun hm => hfr (mem_toFinset.mp hm)]

theorem Remembers.self (h : Remembers k log) : Remembers k k.order := by
  have hl : k.order.length ≤ maxCompletedFragmentKeys := by
    rw [h.order, length_drop]
    omega
  refine ⟨?_, h.set, ?_⟩
  · rw [Nat.sub_eq_zero_of_le hl, drop_zero]
  · rw [h.order]
    exact h.once.sublist (drop_sublist _ _)

end CompletedFragmentKeys

structure FragmentBuffer where
  totalLen : Nat
  chunks : List (Option Bytes)
  receivedLen : Nat
  createdAt : Nat

def FragmentBuffer.new (totalLen count now : Nat) : FragmentBuffer :=
  ⟨totalLen, replicate count none, 0, now⟩

def FragmentBuffer.message (self : FragmentBuffer) : Bytes :=
  (self.chunks.map fun slot => slot.getD []).flatten

def FragmentBuffer.insert (fragment : FragmentPayload) :
    Op FragmentBuffer QlinkError (Option Bytes) := do
  let self ← read id
  check (ensure (fragment.totalLen = self.totalLen)
    (.protocol "native UDP carrier fragment total length changed"))
  check (ensure (fragment.totalLen ≤ maxReassembledMessageLen)
    (.protocol ("native UDP carrier fragmented message is too large: " ++
      toString fragment.totalLen ++ " bytes")))
  check (ensure (fragment.chunkCount = self.chunks.length)
    (.protocol "native UDP carrier fragment count changed"))
  check (ensure (fragment.chunkIndex < self.chunks.length)
    (.protocol "native UDP carrier fragment index out of range"))
  if (self.chunks.getD fragment.chunkIndex none).isSome then pure none
  else
    update fun self => { self with receivedLen := self.receivedLen + fragment.payload.length }
    let self ← read id
    check (ensure (self.receivedLen ≤ self.totalLen)
      (.protocol "native UDP carrier fragments exceed declared length"))
    update fun self =>
      { self with chunks := self.chunks.set fragment.chunkIndex (some fragment.payload) }
    let self ← read id
    if self.chunks.all Option.isSome then
      update fun self => { self with chunks := self.chunks.map fun _ => none }
      check (ensure (self.message.length = self.totalLen)
        (.protocol "native UDP carrier reassembled length mismatch"))
      pure (some self.message)
    else pure none

namespace FragmentBuffer

def place (self : FragmentBuffer) (fragment : FragmentPayload) : FragmentBuffer :=
  { self with
    receivedLen := self.receivedLen + fragment.payload.length
    chunks := self.chunks.set fragment.chunkIndex (some fragment.payload) }

structure Consistent (buffer : FragmentBuffer) : Prop where
  bounded : buffer.totalLen ≤ maxReassembledMessageLen
  fits : Fits buffer.chunks (chunkLengths maxFragmentPayloadLen buffer.totalLen)
  received : buffer.receivedLen = stored buffer.chunks

theorem Consistent.received_le {self : FragmentBuffer} (h : self.Consistent) :
    self.receivedLen ≤ self.totalLen ∧
      (self.receivedLen = self.totalLen ↔ self.chunks.all Option.isSome = true) := by
  have hs := h.fits.stored_le fun _ hn => pos_of_mem_chunkLengths (by decide) hn
  rwa [sum_chunkLengths (by decide), ← h.received] at hs

theorem length_message (self : FragmentBuffer) : self.message.length = stored self.chunks := by
  rw [message, stored, length_flatten, map_map]
  rfl

theorem insert_eq {self : FragmentBuffer} {fragment : FragmentPayload}
    (ht : fragment.totalLen = self.totalLen)
    (hb : fragment.totalLen ≤ maxReassembledMessageLen)
    (hc : fragment.chunkCount = self.chunks.length)
    (hi : fragment.chunkIndex < self.chunks.length)
    (hp : ¬ (self.chunks.getD fragment.chunkIndex none).isSome = true →
      (self.place fragment).Consistent) :
    insert fragment self =
      if (self.chunks.getD fragment.chunkIndex none).isSome = true then (.ok none, self)
      else if (self.place fragment).chunks.all Option.isSome = true then
        (.ok (some (self.place fragment).message),
          { self.place fragment with chunks := (self.place fragment).chunks.map fun _ => none })
      else (.ok none, self.place fragment) := by
  unfold insert
  simp only [read_bind, id, check_bind_ok (ensure_of ht),
    check_bind_ok (ensure_of hb), check_bind_ok (ensure_of hc), check_bind_ok (ensure_of hi)]
  by_cases hs : (self.chunks.getD fragment.chunkIndex none).isSome = true
  · rw [if_pos hs, if_pos hs]
    rfl
  have hn := hp hs
  have hl : self.receivedLen + fragment.payload.length ≤ self.totalLen := hn.received_le.1
  simp only [if_neg hs, update_bind, read_bind, id, check_bind_ok (ensure_of hl)]
  by_cases ha : (self.place fragment).chunks.all Option.isSome = true
  · have hm : (self.place fragment).message.length = self.totalLen := by
      rw [length_message, ← hn.received]
      exact hn.received_le.2.mpr ha
    rw [if_pos ha]
    exact (congrFun (if_pos ha) _).trans (check_bind_ok (ensure_of hm) _ _)
  · rw [if_neg ha]
    exact congrFun (if_neg ha) _

end FragmentBuffer

structure ReceiveLimits where
  authenticatedMessageMax : Nat

/-- What a session keeps between datagrams. -/
structure Incoming where
  reassembly : Table FragmentKey FragmentBuffer
  completedFragments : CompletedFragmentKeys

def Incoming.new : Incoming := ⟨∅, .empty⟩

def validateMessageWithLimits (kind : MessageKind) (len : Nat) (limits : ReceiveLimits) :
    Except QlinkError Unit :=
  ensure (¬ (kind = .authenticatedMessage ∧ limits.authenticatedMessageMax < len))
    (.protocol ("native UDP authenticated message is " ++ toString len ++ " bytes; max is " ++
      toString limits.authenticatedMessageMax))

def pruneExpiredReassembly (reassembly : Table FragmentKey FragmentBuffer) (now : Nat) :
    Table FragmentKey FragmentBuffer :=
  reassembly.retain fun _ buffer => now - buffer.createdAt ≤ reassemblyTtl

/-- What becomes of the session with the answer of the buffer. -/
def Incoming.store (key : FragmentKey) (answer : Except QlinkError (Option Bytes) × FragmentBuffer) :
    Op Incoming QlinkError (Option (MessageKind × Bytes)) :=
  match answer with
  | (.error error, _) => do
      update fun self => { self with reassembly := self.reassembly.erase key }
      check (.error error)
  | (.ok none, buffer) => do
      update fun self => { self with reassembly := self.reassembly.insert key buffer }
      pure none
  | (.ok (some message), _) => do
      update fun self => { self with reassembly := self.reassembly.erase key }
      update fun self => { self with completedFragments := self.completedFragments.insert key }
      pure (some (key.kind, message))

def acceptFragment (now : Nat) (limits : ReceiveLimits) (kind : MessageKind) (payload : Bytes) :
    Op Incoming QlinkError (Option (MessageKind × Bytes)) := do
  let fragment ← Op.check (decodeFragmentPayload payload)
  let key : FragmentKey := ⟨kind, fragment.messageId⟩
  let self ← Op.read id
  if self.completedFragments.contains key then pure none
  else
    Op.check (validateFragmentShape fragment)
    Op.check (validateMessageWithLimits kind fragment.totalLen limits)
    Op.update fun self => { self with reassembly := pruneExpiredReassembly self.reassembly now }
    let self ← Op.read id
    Op.check (ensure (¬ (key ∉ self.reassembly ∧ maxReassemblyEntries ≤ self.reassembly.size))
      (.protocol ("native UDP carrier has too many in-flight fragmented messages: " ++
        toString self.reassembly.size)))
    let entry := (self.reassembly.lookup key).getD
      (FragmentBuffer.new fragment.totalLen fragment.chunkCount now)
    Incoming.store key (FragmentBuffer.insert fragment entry)

def acceptComplete (limits : ReceiveLimits) (kind : MessageKind) (payload : Bytes) :
    Op Incoming QlinkError (Option (MessageKind × Bytes)) := do
  check (validateMessageWithLimits kind payload.length limits)
  pure (some (kind, payload))

def acceptDatagram (now : Nat) (limits : ReceiveLimits) (datagram : CarrierDatagram) :
    Op Incoming QlinkError (Option (MessageKind × Bytes)) :=
  match datagram.kind with
  | .close => check (.error (.protocol "native UDP carrier closed"))
  | .frame => acceptComplete limits .frame datagram.payload
  | .authenticatedMessage => acceptComplete limits .authenticatedMessage datagram.payload
  | .frameFragment => acceptFragment now limits .frame datagram.payload
  | .authenticatedFragment => acceptFragment now limits .authenticatedMessage datagram.payload

/-- `receive_datagram` followed by `accept_datagram`. -/
def acceptBytes (now : Nat) (limits : ReceiveLimits) (bytes : Bytes) :
    Op Incoming QlinkError (Option (MessageKind × Bytes)) := do
  check (ensure (bytes.length ≤ maxUdpDatagramLen)
    (.protocol ("native UDP carrier datagram exceeds " ++ toString maxUdpDatagramLen ++ " bytes")))
  let datagram ← check (decodeDatagram bytes)
  acceptDatagram now limits datagram

/-! ## What the calls do with the fragments of a message -/

def Message.buffer (message : Message) (arrived : Finset Nat) (createdAt : Nat) : FragmentBuffer :=
  ⟨message.payload.length, fill message.parts arrived, stored (fill message.parts arrived), createdAt⟩

open FragmentBuffer

theorem Message.flatten_parts (message : Message) : message.parts.flatten = message.payload :=
  flatten_chunks (by decide) message.payload

theorem Message.length_parts (message : Message) :
    message.parts.length = chunkCount maxFragmentPayloadLen message.payload.length :=
  length_chunks _ _

theorem Message.getElem?_parts {message : Message} (h : index < message.parts.length) :
    message.parts[index]? = some (chunkAt maxFragmentPayloadLen message.payload index) :=
  getElem?_chunks (message.length_parts ▸ h)

theorem Message.buffer_empty (message : Message) (now : Nat) :
    message.buffer ∅ now = new message.payload.length
      (chunkCount maxFragmentPayloadLen message.payload.length) now := by
  rw [buffer, new, fill_empty, stored_replicate_none, length_parts]

section

variable {message : Message} {index : Nat} {arrived : Finset Nat} (messageId : UInt64)
  (createdAt : Nat)

theorem Message.getD_fill (hi : index < message.parts.length) :
    ((fill message.parts arrived).getD index none).isSome = true ↔ index ∈ arrived := by
  rw [getD_eq_getElem?_getD, getElem?_fill, getElem?_parts hi]
  by_cases hm : index ∈ arrived <;> simp [hm]

theorem Message.consistent_buffer (hb : message.payload.length ≤ maxReassembledMessageLen) :
    (message.buffer arrived createdAt).Consistent := by
  refine ⟨hb, ?_, rfl⟩
  have hf := fits_fill message.parts arrived
  rwa [parts, map_length_chunks] at hf

/-- A fragment of the message goes to its place; the last one completes the message. -/
theorem Message.insert_buffer (hb : message.payload.length ≤ maxReassembledMessageLen)
    (hi : index < message.parts.length) :
    FragmentBuffer.insert (message.fragment messageId index) (message.buffer arrived createdAt) =
      if index ∉ arrived ∧ Finset.range message.parts.length ⊆ insert index arrived then
        (.ok (some message.payload), { message.buffer (insert index arrived) createdAt with
          chunks := (fill message.parts (insert index arrived)).map fun _ => none })
      else (.ok none, message.buffer (insert index arrived) createdAt) := by
  have hl : (message.buffer arrived createdAt).chunks.length = message.parts.length :=
    length_fill _ _
  have hr : ((message.buffer arrived createdAt).chunks.getD
      (message.fragment messageId index).chunkIndex none).isSome = true ↔ index ∈ arrived :=
    getD_fill hi
  -- Storing the part is what the arrival of its position means.
  have hp (hm : index ∉ arrived) : (message.buffer arrived createdAt).place
      (message.fragment messageId index) = message.buffer (insert index arrived) createdAt := by
    have he : (fill message.parts arrived)[index]? = some none := by
      rw [getElem?_fill, getElem?_parts hi]
      simp [hm]
    have hs := stored_set he (chunkAt maxFragmentPayloadLen message.payload index)
    rw [buffer, buffer, fill_insert (getElem?_parts hi), hs]
    rfl
  rw [FragmentBuffer.insert_eq rfl hb (hl.trans message.length_parts).symm (hl.symm ▸ hi)
    fun hn => hp (hr.not.mp hn) ▸ consistent_buffer createdAt hb]
  simp only [hr]
  by_cases hm : index ∈ arrived
  · rw [if_pos hm, if_neg fun hla => hla.1 hm, Finset.insert_eq_of_mem hm]
  rw [if_neg hm, hp hm]
  have ha : (message.buffer (insert index arrived) createdAt).chunks.all Option.isSome = true ↔
      Finset.range message.parts.length ⊆ insert index arrived := all_isSome_fill
  simp only [ha, hm, not_false_eq_true, true_and]
  by_cases hf : Finset.range message.parts.length ⊆ insert index arrived
  · have hme : (message.buffer (insert index arrived) createdAt).message = message.payload := by
      rw [FragmentBuffer.message, buffer, fill_of_full hf, map_map]
      simpa using message.flatten_parts
    rw [if_pos hf, if_pos hf, hme]
    rfl
  · rw [if_neg hf, if_neg hf]

end

section

variable {now : Nat} {limits : ReceiveLimits} {kind : MessageKind} {fragment : FragmentPayload}
  {self : Incoming}

theorem acceptFragment_completed (hs : WellShaped fragment)
    (hc : ⟨kind, fragment.messageId⟩ ∈ self.completedFragments.set) :
    acceptFragment now limits kind fragment.bytes self = (.ok none, self) := by
  have ho : self.completedFragments.contains ⟨kind, fragment.messageId⟩ = true := by
    simpa [CompletedFragmentKeys.contains] using hc
  rw [acceptFragment, check_bind_ok hs.decode]
  simp [read_bind, id, ho]

theorem acceptFragment_store (hs : WellShaped fragment)
    (hn : ⟨kind, fragment.messageId⟩ ∉ self.completedFragments.set)
    (hl : kind = .authenticatedMessage → fragment.totalLen ≤ limits.authenticatedMessageMax)
    (hy : ∀ key buffer, self.reassembly.lookup key = some buffer →
      now - buffer.createdAt ≤ reassemblyTtl)
    (hr : ⟨kind, fragment.messageId⟩ ∉ self.reassembly →
      self.reassembly.size < maxReassemblyEntries) :
    acceptFragment now limits kind fragment.bytes self =
      Incoming.store ⟨kind, fragment.messageId⟩ (insert fragment
        ((self.reassembly.lookup ⟨kind, fragment.messageId⟩).getD
          (new fragment.totalLen fragment.chunkCount now))) self := by
  have hc : self.completedFragments.contains ⟨kind, fragment.messageId⟩ = false := by
    simpa [CompletedFragmentKeys.contains] using hn
  have hv : validateMessageWithLimits kind fragment.totalLen limits = .ok () := by
    refine ensure_of fun hlo => ?_
    have hle := hl hlo.1
    omega
  have hp : pruneExpiredReassembly self.reassembly now = self.reassembly :=
    Table.retain_eq_self fun key buffer hb => decide_eq_true (hy key buffer hb)
  have ho : ¬ (⟨kind, fragment.messageId⟩ ∉ self.reassembly ∧
      maxReassemblyEntries ≤ self.reassembly.size) := by
    intro hf
    exact absurd hf.2 (Nat.not_le.mpr (hr hf.1))
  rw [acceptFragment, check_bind_ok hs.decode]
  simp only [read_bind, id, hc, Bool.false_eq_true, if_false,
    check_bind_ok (validateFragmentShape_eq_ok_iff.mpr hs), check_bind_ok hv,
    update_bind, hp, check_bind_ok (ensure_of ho)]

end

theorem acceptBytes_datagramBytes
    {p : Bytes} (h : p.length ≤ maxCarrierPayloadLen) (self : Incoming) :
    acceptBytes now limits (datagramBytes kind p) self =
      acceptDatagram now limits ⟨kind, p⟩ self := by
  have ha := encodeDatagram_eq_ok_iff.mp (@encodeDatagram_of_le kind p h)
  rw [acceptBytes, check_bind_ok (ensure_of ha.1), check_bind_ok ha.2]

theorem acceptDatagram_fragment (now : Nat) (limits : ReceiveLimits) (kind : MessageKind) :
    acceptDatagram now limits ⟨kind.fragmentDatagramKind, payload⟩ =
      acceptFragment now limits kind payload := by
  cases kind <;> rfl

theorem acceptDatagram_complete (now : Nat) {limits : ReceiveLimits} {payload : Bytes}
    (hl : kind = .authenticatedMessage → payload.length ≤ limits.authenticatedMessageMax)
    (self : Incoming) :
    acceptDatagram now limits ⟨kind.completeDatagramKind, payload⟩ self =
      (.ok (some (kind, payload)), self) := by
  have hv : validateMessageWithLimits kind payload.length limits = .ok () := by
    refine ensure_of fun ho => ?_
    have hle := hl ho.1
    omega
  have hc : acceptDatagram now limits ⟨kind.completeDatagramKind, payload⟩ =
      acceptComplete limits kind payload := by
    cases kind <;> rfl
  rw [hc, acceptComplete, check_bind_ok hv]
  rfl

end QuantumLink.Carrier
