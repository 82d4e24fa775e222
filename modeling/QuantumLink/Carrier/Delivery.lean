import QuantumLink.Carrier.Reassembly
import QuantumLink.Foundation.Run

/-! # Every fragmented message arrives once

The messages of one sender arrive as datagrams in any order, mixed and repeated. As long as few
messages are in flight, none is in flight for too long and no duplicate comes too late, every
call of the receiver succeeds and each fragmented message whose parts all arrive is handed out
once, by the arrival that completes it.
-/

namespace QuantumLink.Carrier

open Device (QlinkError)
open List Finmap

def sendStep (self : Outgoing) (message : Message) : Except QlinkError Unit × Outgoing :=
  sendMessage message.kind message.payload self

/-- Fragmented messages are numbered from one. -/
def messageIdAt (messages : List Message) (i : Nat) : UInt64 :=
  1 + UInt64.ofNat ((messages.take i).countP fun message => message.Fragmented)

def wire (messages : List Message) : List Bytes :=
  (messages.mapIdx fun i message => message.datagrams (messageIdAt messages i)).flatten

variable {messages : List Message}

theorem messageIdAt_append (h : i ≤ messages.length)
    (r : List Message) : messageIdAt (messages ++ r) i = messageIdAt messages i := by
  rw [messageIdAt, messageIdAt, take_append_of_le_length h]

theorem wire_concat (messages : List Message) (message : Message) : wire (messages ++ [message]) =
      wire messages ++ message.datagrams (messageIdAt messages messages.length) := by
  have hs : (messages.mapIdx fun i o =>
      o.datagrams (messageIdAt (messages ++ [message]) i)) =
      messages.mapIdx fun i o => o.datagrams (messageIdAt messages i) := by
    apply ext_getElem?
    intro i
    rw [getElem?_mapIdx, getElem?_mapIdx]
    by_cases hlt : i < messages.length
    · rw [messageIdAt_append (Nat.le_of_lt hlt)]
    · rw [getElem?_eq_none (Nat.not_lt.mp hlt)]
      rfl
  rw [wire, mapIdx_concat, hs, flatten_append, messageIdAt_append (le_refl _),
    flatten_singleton, ← wire]

theorem run_sendStep
    (hsi : ∀ message ∈ messages, message.payload.length ≤ maxReassembledMessageLen) :
    run sendStep .new messages = ⟨messageIdAt messages messages.length, wire messages⟩ := by
  induction messages using reverseRecOn with
  | nil => rfl
  | append_singleton messages message ih =>
    have hf := ih fun o ho => hsi o (mem_append_left _ ho)
    have hb := hsi message (mem_append_right _ mem_cons_self)
    rw [run_concat, hf, sendStep, sendMessage_eq hb, wire_concat]
    rw [messageIdAt, messageIdAt, take_length, take_length, countP_append]
    by_cases hfr : message.Fragmented
    · simp [hfr, add_assoc]
    · simp [hfr]

/-- A datagram that arrives: when, and which part of which message it is. -/
structure Arrival where
  now : Nat
  message : Nat
  part : Nat
  bytes : Bytes

def receive (limits : ReceiveLimits) (self : Incoming) (arrival : Arrival) :
    Except QlinkError (Option (MessageKind × Bytes)) × Incoming :=
  acceptBytes arrival.now limits arrival.bytes self

/-- The messages handed out, each with the position of the message that the datagram is of. -/
def delivered (limits : ReceiveLimits) (arrivals : List Arrival) :
    List (Nat × (MessageKind × Bytes)) :=
  observed (receive limits) (fun self arrival =>
    match (receive limits self arrival).1 with
    | .ok (some out) => some (arrival.message, out)
    | _ => none) .new arrivals

def arrivedParts (arrivals : List Arrival) (i : Nat) : Finset Nat :=
  ((arrivals.filter fun arrival => arrival.message = i).map Arrival.part).toFinset

/-- All parts of a fragmented message have arrived. -/
def Complete (messages : List Message) (arrivals : List Arrival) (i : Nat) : Prop :=
  ∃ message ∈ messages[i]?, message.Fragmented ∧
    Finset.range message.parts.length ⊆ arrivedParts arrivals i

/-- Some but not all parts of a fragmented message have arrived. -/
def Incomplete (messages : List Message) (arrivals : List Arrival) (i : Nat) : Prop :=
  ∃ message ∈ messages[i]?, message.Fragmented ∧ (arrivedParts arrivals i).Nonempty ∧
    ¬ Finset.range message.parts.length ⊆ arrivedParts arrivals i

instance (messages : List Message) (arrivals : List Arrival) (i : Nat) :
    Decidable (Complete messages arrivals i) :=
  inferInstanceAs (Decidable (∃ message ∈ messages[i]?, _))

instance (messages : List Message) (arrivals : List Arrival) (i : Nat) :
    Decidable (Incomplete messages arrivals i) :=
  inferInstanceAs (Decidable (∃ message ∈ messages[i]?, _))

def incomplete (messages : List Message) (arrivals : List Arrival) : Finset Nat :=
  (Finset.range messages.length).filter fun i => Incomplete messages arrivals i

/-- When the first part of a message arrived. -/
def createdAt (arrivals : List Arrival) (i : Nat) : Nat :=
  ((arrivals.find? fun arrival => arrival.message = i).map Arrival.now).getD 0

def Completes (messages : List Message) (past : List Arrival) (arrival : Arrival) : Prop :=
  Complete messages (past ++ [arrival]) arrival.message ∧ ¬ Complete messages past arrival.message

instance (messages : List Message) (past : List Arrival) (arrival : Arrival) :
    Decidable (Completes messages past arrival) :=
  inferInstanceAs (Decidable (_ ∧ _))

/-- The fragmented messages in the order in which they are completed. -/
def completions (messages : List Message) (arrivals : List Arrival) : List Nat :=
  observed (fun past arrival => ((), past ++ [arrival])) (fun past arrival =>
    if Completes messages past arrival then some arrival.message else none) [] arrivals

/-- What the network may do. -/
structure Orderly (messages : List Message) (arrivals : List Arrival) : Prop where
  /-- Every datagram is one that was sent. -/
  sent : ∀ arrival ∈ arrivals, ∃ message ∈ messages[arrival.message]?,
    (message.datagrams (messageIdAt messages arrival.message))[arrival.part]? = some arrival.bytes
  /-- At most 64 fragmented messages are incomplete at once. -/
  inFlight : ∀ front back, arrivals = front ++ back →
    (incomplete messages front).card ≤ maxReassemblyEntries
  /-- No incomplete message outlives the limit. -/
  alive : ∀ front arrival back, arrivals = front ++ arrival :: back →
    ∀ i, Incomplete messages front i → arrival.now - createdAt front i ≤ reassemblyTtl
  /-- No duplicate arrives after 256 later completions. -/
  remembered : ∀ front arrival back, arrivals = front ++ arrival :: back →
    Complete messages front arrival.message →
    (completions messages front).reverse.idxOf arrival.message < maxCompletedFragmentKeys

variable {arrivals : List Arrival}

theorem Orderly.take {f r : List Arrival}
    (h : Orderly messages arrivals) (heq : arrivals = f ++ r) : Orderly messages f where
  sent other ho := h.sent other (heq ▸ mem_append_left _ ho)
  inFlight first back hc := h.inFlight first (back ++ r) (by
    rw [heq, hc, append_assoc])
  alive first other back hc := h.alive first other (back ++ r) (by
    rw [heq, hc, append_assoc, cons_append])
  remembered first other back hc := h.remembered first other (back ++ r) (by
    rw [heq, hc, append_assoc, cons_append])

theorem Orderly.front (h : Orderly messages (arrivals ++ [arrival])) : Orderly messages arrivals :=
  h.take rfl

/-! ## What one arrival changes -/

section

variable {past : List Arrival} {arrival : Arrival} {message : Message} {i : Nat}

theorem two_le_length_parts (h : message.Fragmented) : 2 ≤ message.parts.length := by
  have hm : maxCarrierPayloadLen = 1188 := rfl
  have hf : maxFragmentPayloadLen = 1172 := rfl
  have hl : maxCarrierPayloadLen < message.payload.length := h
  rw [message.length_parts, chunkCount, hf]
  omega

theorem arrivedParts_concat (past : List Arrival) (arrival : Arrival) :
    arrivedParts (past ++ [arrival]) arrival.message =
      insert arrival.part (arrivedParts past arrival.message) := by
  ext part
  simp [arrivedParts]

theorem arrivedParts_concat_of_ne (h : i ≠ arrival.message) :
    arrivedParts (past ++ [arrival]) i = arrivedParts past i := by
  have hne : ¬ arrival.message = i := fun heq => h heq.symm
  simp [arrivedParts, hne]

theorem createdAt_concat_of_nonempty (h : (arrivedParts past i).Nonempty) :
    createdAt (past ++ [arrival]) i = createdAt past i := by
  obtain ⟨p, hp⟩ := h
  simp only [arrivedParts, mem_toFinset, mem_map, mem_filter] at hp
  obtain ⟨f, ⟨hm, hf⟩, _⟩ := hp
  have hs : (past.find? fun o => o.message = i).isSome = true := find?_isSome.mpr ⟨f, hm, hf⟩
  obtain ⟨fo, ho⟩ := Option.isSome_iff_exists.mp hs
  rw [createdAt, createdAt, find?_append, ho]
  rfl

theorem createdAt_concat_of_empty (h : arrivedParts past arrival.message = ∅) :
    createdAt (past ++ [arrival]) arrival.message = arrival.now := by
  have hn : (past.find? fun o => o.message = arrival.message) = none := by
    rw [find?_eq_none]
    intro o hm hs
    have hp : o.part ∈ arrivedParts past arrival.message := by
      simp only [arrivedParts, mem_toFinset, mem_map, mem_filter]
      exact ⟨o, ⟨hm, hs⟩, rfl⟩
    rw [h] at hp
    exact absurd hp (Finset.notMem_empty _)
  rw [createdAt, find?_append, hn]
  simp

theorem complete_iff (hmes : messages[i]? = some message) : Complete messages past i ↔
      message.Fragmented ∧ Finset.range message.parts.length ⊆ arrivedParts past i := by
  simp [Complete, hmes]

theorem incomplete_iff (hmes : messages[i]? = some message) :
    Incomplete messages past i ↔ message.Fragmented ∧ (arrivedParts past i).Nonempty ∧
      ¬ Finset.range message.parts.length ⊆ arrivedParts past i := by
  simp [Incomplete, hmes]

theorem complete_concat_of_ne (h : i ≠ arrival.message) :
    Complete messages (past ++ [arrival]) i ↔ Complete messages past i := by
  rw [Complete, arrivedParts_concat_of_ne h, Complete]

theorem incomplete_concat_of_ne (h : i ≠ arrival.message) :
    Incomplete messages (past ++ [arrival]) i ↔ Incomplete messages past i := by
  rw [Incomplete, arrivedParts_concat_of_ne h, Incomplete]

theorem mem_incomplete : i ∈ incomplete messages past ↔ Incomplete messages past i := by
  rw [incomplete, Finset.mem_filter, Finset.mem_range, and_iff_right_iff_imp]
  intro h
  obtain ⟨m, hm, _⟩ := h
  exact (List.getElem?_eq_some_iff.mp hm).choose

theorem Complete.concat (h : Complete messages past i) : Complete messages (past ++ [arrival]) i := by
  obtain ⟨m, hm, hf, ha⟩ := h
  refine ⟨m, hm, hf, ?_⟩
  by_cases hs : i = arrival.message
  · rw [hs, arrivedParts_concat]
    exact (hs ▸ ha).trans (Finset.subset_insert _ _)
  · rwa [arrivedParts_concat_of_ne hs]

theorem complete_concat_iff : Complete messages (past ++ [arrival]) i ↔
    Complete messages past i ∨ i = arrival.message ∧ Completes messages past arrival := by
  constructor
  · intro hn
    by_cases hb : Complete messages past i
    · exact .inl hb
    · by_cases hs : i = arrival.message
      · subst hs
        exact .inr ⟨rfl, hn, hb⟩
      · exact .inl ((complete_concat_of_ne hs).mp hn)
  · rintro (hb | ⟨rfl, hc⟩)
    · exact hb.concat
    · exact hc.1

theorem run_past (arrivals : List Arrival) :
    run (fun past (arrival : Arrival) => ((), past ++ [arrival])) [] arrivals = arrivals := by
  induction arrivals using reverseRecOn with
  | nil => rfl
  | append_singleton arrivals arrival ih => rw [run_concat, ih]

theorem completions_concat (messages : List Message) (past : List Arrival) (arrival : Arrival) :
    completions messages (past ++ [arrival]) = completions messages past ++
      if Completes messages past arrival then [arrival.message] else [] := by
  rw [completions, observed_concat, run_past, ← completions]
  by_cases hc : Completes messages past arrival <;> simp [hc]

theorem mem_completions : i ∈ completions messages past ↔ Complete messages past i := by
  induction past using reverseRecOn with
  | nil =>
    refine iff_of_false (not_mem_nil) ?_
    rintro ⟨m, _, hf, ha⟩
    have hz : 0 < m.parts.length := by
      have := two_le_length_parts hf
      omega
    exact absurd (ha (Finset.mem_range.mpr hz)) (Finset.notMem_empty _)
  | append_singleton past a ih =>
    rw [completions_concat, mem_append, ih, complete_concat_iff]
    by_cases hc : Completes messages past a <;> simp [hc]

end

/-- The key of a message. Only its number can be read from the list without the message. -/
def keyAt (messages : List Message) (i : Nat) : FragmentKey :=
  ⟨(messages[i]?.map Message.kind).getD .frame, messageIdAt messages i⟩

section

variable {i j : Nat} {m n : Message}

theorem keyAt_eq (hm : messages[i]? = some m) : keyAt messages i = ⟨m.kind, messageIdAt messages i⟩ := by
  rw [keyAt, hm]
  rfl

theorem countP_take_lt (hlt : i < j) (hm : messages[i]? = some m) (hfr : m.Fragmented) :
    (messages.take i).countP (fun message => message.Fragmented) <
      (messages.take j).countP fun message => message.Fragmented := by
  obtain ⟨hi, rfl⟩ := List.getElem?_eq_some_iff.mp hm
  have hs : (messages.take (i + 1)).countP (fun message => message.Fragmented) =
      (messages.take i).countP (fun message => message.Fragmented) + 1 := by
    rw [List.take_succ_eq_append_getElem hi, List.countP_append, List.countP_singleton]
    simp [hfr]
  have ho : (messages.take (i + 1)).countP (fun message => message.Fragmented) ≤
      (messages.take j).countP fun message => message.Fragmented :=
    (List.take_sublist_take_left hlt).countP_le
  omega

variable (hco : messages.countP (fun message => message.Fragmented) ≤ 2 ^ 64)

include hco

theorem countP_take_lt_pow (hm : messages[i]? = some m) (hfr : m.Fragmented) :
    (messages.take i).countP (fun message => message.Fragmented) < 2 ^ 64 := by
  have hi : i < messages.length := (List.getElem?_eq_some_iff.mp hm).choose
  have hlt := countP_take_lt hi hm hfr
  rw [List.take_length] at hlt
  omega

theorem keyAt_inj (hm : messages[i]? = some m) (hn : messages[j]? = some n)
    (hf : m.Fragmented) (hnf : n.Fragmented) (h : keyAt messages i = keyAt messages j) : i = j := by
  have hi : messageIdAt messages i = messageIdAt messages j := congrArg FragmentKey.messageId h
  have hc := congrArg UInt64.toNat (add_left_cancel hi)
  rw [UInt64.toNat_ofNat_of_lt' (countP_take_lt_pow hco hm hf),
    UInt64.toNat_ofNat_of_lt' (countP_take_lt_pow hco hn hnf)] at hc
  rcases Nat.lt_trichotomy i j with hlt | heq | hlt
  · have := countP_take_lt hlt hm hf
    omega
  · exact heq
  · have := countP_take_lt hlt hn hnf
    omega

end

/-- What the session stores after some arrivals. -/
structure Reassembles (messages : List Message) (arrivals : List Arrival) (session : Incoming) : Prop where
  buffered : ∀ i message, messages[i]? = some message → Incomplete messages arrivals i →
    session.reassembly.lookup (keyAt messages i) =
      some (message.buffer (arrivedParts arrivals i) (createdAt arrivals i))
  only : ∀ key buffer, session.reassembly.lookup key = some buffer →
    ∃ i, Incomplete messages arrivals i ∧ key = keyAt messages i
  remembers : session.completedFragments.Remembers ((completions messages arrivals).map (keyAt messages))

/-- What an arrival should hand out. -/
def outcome (messages : List Message) (past : List Arrival) (arrival : Arrival) :
    Option (MessageKind × Bytes) :=
  messages[arrival.message]?.bind fun message =>
    if message.Fragmented ∧ ¬ Completes messages past arrival then none
    else some (message.kind, message.payload)

section

variable {past : List Arrival} {arrival : Arrival} {message : Message} {self : Incoming}
  {limits : ReceiveLimits}

theorem not_incomplete_of_complete (h : Complete messages past i) :
    ¬ Incomplete messages past i := by
  rintro ⟨m, he, _, _, hm⟩
  exact hm ((complete_iff he).mp h).2

variable (h : Reassembles messages past self)

include h

theorem Reassembles.keep (hno : ¬ Incomplete messages (past ++ [arrival]) arrival.message)
    (hb : ¬ Incomplete messages past arrival.message)
    (hc : ¬ Completes messages past arrival) :
    Reassembles messages (past ++ [arrival]) self where
  buffered i other ht hi := by
    have hne : i ≠ arrival.message := fun heq => hno (heq ▸ hi)
    have ho := (incomplete_concat_of_ne hne).mp hi
    obtain ⟨_, _, _, hn, _⟩ := ho
    rw [arrivedParts_concat_of_ne hne, createdAt_concat_of_nonempty hn]
    exact h.buffered i other ht ((incomplete_concat_of_ne hne).mp hi)
  only key buffer hu := by
    obtain ⟨i, hi, hk⟩ := h.only key buffer hu
    have hne : i ≠ arrival.message := fun heq => hb (heq ▸ hi)
    exact ⟨i, (incomplete_concat_of_ne hne).mpr hi, hk⟩
  remembers := by
    rw [completions_concat, if_neg hc, append_nil]
    exact h.remembers

theorem Reassembles.remembered (hd : Complete messages past arrival.message)
    (hr : (completions messages past).reverse.idxOf arrival.message < maxCompletedFragmentKeys) :
    keyAt messages arrival.message ∈ self.completedFragments.set := by
  have hm : arrival.message ∈ (completions messages past).reverse :=
    mem_reverse.mpr (mem_completions.mpr hd)
  have ht := (mem_take_iff_idxOf_lt hm).mpr hr
  rw [take_reverse, mem_reverse] at ht
  rw [h.remembers.mem_iff, length_map, ← map_drop]
  exact mem_map_of_mem ht

variable (hmes : messages[arrival.message]? = some message)

include hmes

theorem receive_complete (hw : ¬ message.Fragmented) (hl : message.kind = .authenticatedMessage →
      message.payload.length ≤ limits.authenticatedMessageMax)
    (hb : (message.datagrams (messageIdAt messages arrival.message))[arrival.part]? =
      some arrival.bytes) :
    (receive limits self arrival).1 = .ok (outcome messages past arrival) ∧
      Reassembles messages (past ++ [arrival]) (receive limits self arrival).2 := by
  have hs : message.payload.length ≤ maxCarrierPayloadLen := Nat.not_lt.mp hw
  have hd : arrival.bytes =
      datagramBytes message.kind.completeDatagramKind message.payload := by
    rw [Message.datagrams, if_neg hw] at hb
    exact (mem_singleton.mp (mem_of_getElem? hb))
  have hr : receive limits self arrival = (.ok (some (message.kind, message.payload)), self) := by
    rw [receive, hd, acceptBytes_datagramBytes hs, acceptDatagram_complete _ hl]
  have hi (arrivals : List Arrival) : ¬ Incomplete messages arrivals arrival.message :=
    fun hn => hw ((incomplete_iff hmes).mp hn).1
  have hc : ¬ Completes messages past arrival := fun ho => hw ((complete_iff hmes).mp ho.1).1
  rw [hr]
  refine ⟨?_, h.keep (hi _) (hi _) hc⟩
  simp [outcome, hmes, hw]

variable (hfr : message.Fragmented)

omit h in
include hfr in
theorem incomplete_of_not_complete (hs : (arrivedParts arrivals arrival.message).Nonempty)
    (hn : ¬ Complete messages arrivals arrival.message) :
    Incomplete messages arrivals arrival.message :=
  (incomplete_iff hmes).mpr ⟨hfr, hs, fun ha => hn ((complete_iff hmes).mpr ⟨hfr, ha⟩)⟩

include hfr

/-- There is a free entry for a message that was not seen before. -/
theorem Reassembles.room
    (hf : (incomplete messages (past ++ [arrival])).card ≤ maxReassemblyEntries)
    (hn : ¬ Complete messages past arrival.message)
    (hw : keyAt messages arrival.message ∉ self.reassembly) :
    self.reassembly.size < maxReassemblyEntries := by
  have hu : ¬ Incomplete messages past arrival.message := by
    intro hin
    exact hw (mem_iff.mpr ⟨_, h.buffered _ message hmes hin⟩)
  have he : arrivedParts past arrival.message = ∅ := by
    by_contra hne
    exact hu (incomplete_of_not_complete hmes hfr (Finset.nonempty_iff_ne_empty.mpr hne) hn)
  -- One part of at least two cannot complete the message.
  have hno : Incomplete messages (past ++ [arrival]) arrival.message := by
    refine (incomplete_iff hmes).mpr ⟨hfr, ?_, ?_⟩
    · rw [arrivedParts_concat]
      exact Finset.insert_nonempty _ _
    · intro ha
      have hc := Finset.card_le_card ha
      rw [arrivedParts_concat, he, insert_empty_eq, Finset.card_singleton, Finset.card_range] at hc
      have ht := two_le_length_parts hfr
      omega
  have hins : insert arrival.message (incomplete messages past) ⊆
      incomplete messages (past ++ [arrival]) := by
    intro i hi
    rw [mem_incomplete]
    rcases Finset.mem_insert.mp hi with rfl | ho
    · exact hno
    · have hne : i ≠ arrival.message := fun heq => hu (heq ▸ mem_incomplete.mp ho)
      exact (incomplete_concat_of_ne hne).mpr (mem_incomplete.mp ho)
  have hke : self.reassembly.keys ⊆ (incomplete messages past).image (keyAt messages) := by
    intro key hk
    obtain ⟨b, hb⟩ := Table.mem_keys_iff.mp hk
    obtain ⟨i, hin, rfl⟩ := h.only key b hb
    exact Finset.mem_image_of_mem _ (mem_incomplete.mpr hin)
  have hs : self.reassembly.size ≤ (incomplete messages past).card :=
    le_trans (Finset.card_le_card hke) Finset.card_image_le
  have hc := Finset.card_le_card hins
  rw [Finset.card_insert_of_notMem fun hm => hu (mem_incomplete.mp hm)] at hc
  omega

variable (hco : messages.countP (fun other => other.Fragmented) ≤ 2 ^ 64)

include hco

theorem Reassembles.lookup_eq_none (hn : ¬ Incomplete messages past arrival.message) :
    self.reassembly.lookup (keyAt messages arrival.message) = none := by
  cases hb : self.reassembly.lookup (keyAt messages arrival.message) with
  | none => rfl
  | some b =>
    obtain ⟨i, hi, hk⟩ := h.only _ b hb
    obtain ⟨o, ht, ho, _⟩ := id hi
    have hs := keyAt_inj hco hmes ht hfr ho hk
    exact absurd (hs ▸ hi) hn

theorem Reassembles.entry (ho : ¬ Complete messages past arrival.message) (me : UInt64)
    (ind : Nat) :
    (self.reassembly.lookup (keyAt messages arrival.message)).getD
        (FragmentBuffer.new (message.fragment me ind).totalLen
          (message.fragment me ind).chunkCount arrival.now) =
      message.buffer (arrivedParts past arrival.message)
        (createdAt (past ++ [arrival]) arrival.message) := by
  rcases Finset.eq_empty_or_nonempty (arrivedParts past arrival.message) with he | hn
  · have hu : ¬ Incomplete messages past arrival.message := by
      intro hi
      obtain ⟨_, hp, _⟩ := (incomplete_iff hmes).mp hi
      rw [he] at hp
      exact absurd hp Finset.not_nonempty_empty
    rw [h.lookup_eq_none hmes hfr hco hu, createdAt_concat_of_empty he, he, message.buffer_empty]
    rfl
  · have hi := incomplete_of_not_complete hmes hfr hn ho
    rw [h.buffered _ message hmes hi, createdAt_concat_of_nonempty hn]
    rfl

theorem Reassembles.step {ne : Incoming} (hk : ∀ key, key ≠ keyAt messages arrival.message →
      ne.reassembly.lookup key = self.reassembly.lookup key)
    (he : Incomplete messages (past ++ [arrival]) arrival.message →
      ne.reassembly.lookup (keyAt messages arrival.message) =
        some (message.buffer (arrivedParts (past ++ [arrival]) arrival.message)
          (createdAt (past ++ [arrival]) arrival.message)))
    (hg : ¬ Incomplete messages (past ++ [arrival]) arrival.message →
      ne.reassembly.lookup (keyAt messages arrival.message) = none)
    (hr : ne.completedFragments.Remembers
      ((completions messages (past ++ [arrival])).map (keyAt messages))) :
    Reassembles messages (past ++ [arrival]) ne where
  buffered i other ht hi := by
    by_cases hs : i = arrival.message
    · subst hs
      cases hmes.symm.trans ht
      exact he hi
    · have hl := (incomplete_concat_of_ne hs).mp hi
      obtain ⟨ho, hn, _⟩ := (incomplete_iff ht).mp hl
      have hke : keyAt messages i ≠ keyAt messages arrival.message :=
        fun heq => hs (keyAt_inj hco ht hmes ho hfr heq)
      rw [arrivedParts_concat_of_ne hs, createdAt_concat_of_nonempty hn, hk _ hke]
      exact h.buffered i other ht hl
  only key buffer hb := by
    by_cases hke : key = keyAt messages arrival.message
    · refine ⟨arrival.message, ?_, hke⟩
      by_contra hno
      cases (hke ▸ hg hno).symm.trans hb
    · obtain ⟨i, hi, rfl⟩ := h.only key buffer (hk key hke ▸ hb)
      have hne : i ≠ arrival.message := fun heq => hke (heq ▸ rfl)
      exact ⟨i, (incomplete_concat_of_ne hne).mpr hi, rfl⟩
  remembers := hr

theorem Reassembles.more (hi : Incomplete messages (past ++ [arrival]) arrival.message) :
    Reassembles messages (past ++ [arrival]) { self with
      reassembly := self.reassembly.insert (keyAt messages arrival.message)
        (message.buffer (arrivedParts (past ++ [arrival]) arrival.message)
          (createdAt (past ++ [arrival]) arrival.message)) } := by
  refine h.step hmes hfr hco (fun key hk => lookup_insert_of_ne _ hk)
    (fun _ => lookup_insert _) (fun hn => absurd hi hn) ?_
  have hu : ¬ Completes messages past arrival := fun hd => not_incomplete_of_complete hd.1 hi
  rw [completions_concat, if_neg hu, append_nil]
  exact h.remembers

theorem Reassembles.finish (hd : Completes messages past arrival) :
    Reassembles messages (past ++ [arrival])
      ⟨self.reassembly.erase (keyAt messages arrival.message),
        self.completedFragments.insert (keyAt messages arrival.message)⟩ := by
  refine h.step hmes hfr hco (fun key hk => lookup_erase_ne hk)
    (fun hn => absurd hn (not_incomplete_of_complete hd.1)) (fun _ => lookup_erase _ _) ?_
  rw [completions_concat, if_pos hd, map_append, map_singleton]
  refine h.remembers.insert fun hm => ?_
  obtain ⟨i, hi, hk⟩ := mem_map.mp hm
  obtain ⟨o, ht, ho, _⟩ := mem_completions.mp hi
  have hs := keyAt_inj hco ht hmes ho hfr hk
  exact hd.2 (hs ▸ mem_completions.mp hi)

theorem Reassembles.not_remembered (hn : ¬ Complete messages past arrival.message) :
    keyAt messages arrival.message ∉ self.completedFragments.set := by
  intro hm
  obtain ⟨i, hi, hk⟩ := mem_map.mp (mem_of_mem_drop (h.remembers.mem_iff.mp hm))
  obtain ⟨o, ht, ho, _⟩ := mem_completions.mp hi
  have hs := keyAt_inj hco ht hmes ho hfr hk
  exact hn (hs ▸ mem_completions.mp hi)

/-- A fragment is accepted, and hands out the message just if it completes it. -/
theorem receive_fragment (hbo : message.payload.length ≤ maxReassembledMessageLen)
    (hl : message.kind = .authenticatedMessage →
      message.payload.length ≤ limits.authenticatedMessageMax)
    (hby : (message.datagrams (messageIdAt messages arrival.message))[arrival.part]? =
      some arrival.bytes)
    (hi : (incomplete messages (past ++ [arrival])).card ≤ maxReassemblyEntries)
    (hal : ∀ i, Incomplete messages past i → arrival.now - createdAt past i ≤ reassemblyTtl)
    (hre : Complete messages past arrival.message →
      (completions messages past).reverse.idxOf arrival.message < maxCompletedFragmentKeys) :
    (receive limits self arrival).1 = .ok (outcome messages past arrival) ∧
      Reassembles messages (past ++ [arrival]) (receive limits self arrival).2 := by
  obtain ⟨hind, hda⟩ : arrival.part < message.parts.length ∧
      arrival.bytes = message.fragmentDatagram (messageIdAt messages arrival.message) arrival.part := by
    rw [Message.datagrams, if_pos hfr, List.getElem?_map] at hby
    obtain ⟨ind, hra, heq⟩ := Option.map_eq_some_iff.mp hby
    obtain ⟨hlt, rfl⟩ := List.getElem?_eq_some_iff.mp hra
    rw [List.length_range] at hlt
    exact ⟨hlt, by rw [← heq, List.getElem_range]⟩
  have hs := message.wellShaped_fragment (messageIdAt messages arrival.message) hfr
    hbo hind
  have hk := keyAt_eq hmes
  have hr : receive limits self arrival = acceptFragment arrival.now limits message.kind
      (message.fragment (messageIdAt messages arrival.message) arrival.part).bytes self := by
    rw [receive, hda, Message.fragmentDatagram,
      acceptBytes_datagramBytes (length_fragmentBytes_le hs), acceptDatagram_fragment]
  rw [hr]
  by_cases hd : Complete messages past arrival.message
  · -- A late duplicate.
    have hm := h.remembered hd (hre hd)
    rw [hk] at hm
    have hu : ¬ Completes messages past arrival := fun hc => hc.2 hd
    rw [acceptFragment_completed hs hm]
    refine ⟨?_, h.keep (not_incomplete_of_complete hd.concat) (not_incomplete_of_complete hd) hu⟩
    simp [outcome, hmes, hfr, hu]
  -- The message is unfinished, so the fragment meets its buffer.
  have hne := h.not_remembered hmes hfr hco hd
  have he := h.entry hmes hfr hco hd (messageIdAt messages arrival.message)
    arrival.part
  have hy : ∀ key b, self.reassembly.lookup key = some b →
      arrival.now - b.createdAt ≤ reassemblyTtl := by
    intro key b hb
    obtain ⟨i, hin, rfl⟩ := h.only key b hb
    obtain ⟨o, ho, _⟩ := id hin
    cases (h.buffered i o ho hin).symm.trans hb
    exact hal i hin
  have hro := h.room hmes hfr hi hd
  have hp := arrivedParts_concat past arrival
  rw [hk] at hne he hro
  rw [acceptFragment_store hs hne hl hy hro]
  have hb : (message.fragment (messageIdAt messages arrival.message) arrival.part).messageId =
      messageIdAt messages arrival.message := rfl
  rw [hb, he, message.insert_buffer _ _ hbo hind, ← hp]
  by_cases ha : Finset.range message.parts.length ⊆ arrivedParts (past ++ [arrival]) arrival.message
  · have hc : Completes messages past arrival :=
      ⟨(complete_iff hmes).mpr ⟨hfr, ha⟩, hd⟩
    have hf : arrival.part ∉ arrivedParts past arrival.message := by
      intro hm
      rw [hp, Finset.insert_eq_of_mem hm] at ha
      exact hd ((complete_iff hmes).mpr ⟨hfr, ha⟩)
    rw [if_pos ⟨hf, ha⟩]
    refine ⟨?_, ?_⟩
    · simp only [outcome, hmes, Option.bind_some, hc, not_true_eq_false, and_false, if_false]
      rfl
    · have hn := h.finish hmes hfr hco hc
      rwa [hk] at hn
  · have hin : Incomplete messages (past ++ [arrival]) arrival.message := by
      refine (incomplete_iff hmes).mpr ⟨hfr, ?_, ha⟩
      rw [hp]
      exact Finset.insert_nonempty _ _
    have hu : ¬ Completes messages past arrival := fun hc => ha ((complete_iff hmes).mp hc.1).2
    rw [if_neg fun hla => ha hla.2]
    refine ⟨?_, ?_⟩
    · simp only [outcome, hmes, Option.bind_some, hfr, hu, not_false_eq_true, and_self, if_true]
      rfl
    · have hn := h.more hmes hfr hco hin
      rwa [hk] at hn

end

section

variable {limits : ReceiveLimits}
  (hsi : ∀ message ∈ messages, message.payload.length ≤ maxReassembledMessageLen)
  (hco : messages.countP (fun message => message.Fragmented) ≤ 2 ^ 64)
  (hli : ∀ message ∈ messages, message.kind = .authenticatedMessage →
    message.payload.length ≤ limits.authenticatedMessageMax)

include hsi hco hli

theorem receive_orderly
    (ho : Orderly messages (past ++ [arrival])) (h : Reassembles messages past self) :
    (receive limits self arrival).1 = .ok (outcome messages past arrival) ∧
      Reassembles messages (past ++ [arrival]) (receive limits self arrival).2 := by
  obtain ⟨m, he, hb⟩ := ho.sent arrival (mem_append_right _ mem_cons_self)
  have hm : m ∈ messages := mem_of_getElem? he
  by_cases hfr : m.Fragmented
  · exact receive_fragment h he hfr hco (hsi m hm) (hli m hm)
      hb (ho.inFlight _ [] (append_nil _).symm) (ho.alive past arrival [] rfl)
      (ho.remembered past arrival [] rfl)
  · exact receive_complete h he hfr (hli m hm) hb

variable {arrivals : List Arrival}

theorem run_reassembles (ho : Orderly messages arrivals) :
    Reassembles messages arrivals (run (receive limits) .new arrivals) := by
  induction arrivals using reverseRecOn with
  | nil =>
    refine ⟨?_, ?_, CompletedFragmentKeys.remembers_empty⟩
    · rintro i m _ ⟨_, _, _, hn, _⟩
      exact absurd hn Finset.not_nonempty_empty
    · intro key b hb
      cases (lookup_empty key).symm.trans hb
  | append_singleton arrivals a ih =>
    rw [run_concat]
    exact (receive_orderly hsi hco hli ho (ih ho.front)).2

theorem delivered_concat (ho : Orderly messages (past ++ [arrival])) :
    delivered limits (past ++ [arrival]) = delivered limits past ++
      ((outcome messages past arrival).map fun out => (arrival.message, out)).toList := by
  have ha := (receive_orderly hsi hco hli ho (run_reassembles hsi hco hli ho.front)).1
  rw [delivered, observed_concat, ha, ← delivered]
  cases outcome messages past arrival <;> rfl

theorem mem_delivered (ho : Orderly messages arrivals) :
    ∀ entry ∈ delivered limits arrivals, ∃ message, messages[entry.1]? = some message ∧
      entry.2 = (message.kind, message.payload) := by
  induction arrivals using reverseRecOn with
  | nil => exact fun _ hm => absurd hm not_mem_nil
  | append_singleton p a ih =>
    intro entry he
    rw [delivered_concat hsi hco hli ho] at he
    rcases mem_append.mp he with hol | hl
    · exact ih ho.front entry hol
    · obtain ⟨out, hu, rfl⟩ := Option.map_eq_some_iff.mp (Option.mem_toList.mp hl)
      obtain ⟨message, hme, hc⟩ := Option.bind_eq_some_iff.mp hu
      refine ⟨message, hme, ?_⟩
      split at hc
      · cases hc
      · exact (Option.some.inj hc).symm

theorem countP_delivered (ho : Orderly messages arrivals) (hmes : messages[i]? = some message) :
    (delivered limits arrivals).countP (fun entry => entry.1 = i) =
      if message.Fragmented then if Complete messages arrivals i then 1 else 0
      else arrivals.countP fun arrival => arrival.message = i := by
  induction arrivals using reverseRecOn with
  | nil =>
    have hno : ¬ Complete messages [] i := fun hd => absurd (mem_completions.mpr hd) not_mem_nil
    rw [if_neg hno]
    split <;> rfl
  | append_singleton p arrival ih =>
    rw [delivered_concat hsi hco hli ho, countP_append, ih ho.front,
      countP_append, countP_singleton]
    by_cases hs : arrival.message = i
    · subst hs
      by_cases hfr : message.Fragmented
      · simp only [outcome, hmes, Option.bind_some, hfr, true_and, if_true]
        by_cases hd : Complete messages p arrival.message
        · have hc : ¬ Completes messages p arrival := fun h => h.2 hd
          simp [hd, hd.concat, hc]
        · by_cases hn : Complete messages (p ++ [arrival]) arrival.message
          · have hc : Completes messages p arrival := ⟨hn, hd⟩
            simp [hd, hn, hc]
          · have hc : ¬ Completes messages p arrival := fun h => hn h.1
            simp [hd, hn, hc]
      · simp [outcome, hmes, hfr]
    · have hne : i ≠ arrival.message := fun heq => hs heq.symm
      simp only [complete_concat_of_ne hne, hs, decide_false, Bool.false_eq_true, if_false,
        Nat.add_zero]
      cases outcome messages p arrival <;> simp [hs]

end

/-- Reassembly: no send and no call of the receiver fails, what is handed out is what was sent
and a fragmented message is handed out once if all its parts arrive. -/
theorem fragments_reassembled (messages : List Message)
    (hsizes : ∀ message ∈ messages, message.payload.length ≤ maxReassembledMessageLen)
    (hcount : messages.countP (fun message => message.Fragmented) ≤ 2 ^ 64)
    (limits : ReceiveLimits)
    (hlimits : ∀ message ∈ messages, message.kind = .authenticatedMessage →
      message.payload.length ≤ limits.authenticatedMessageMax)
    (arrivals : List Arrival) (horderly : Orderly messages arrivals) :
    (∀ front message back, messages = front ++ message :: back →
        (sendStep (run sendStep .new front) message).1 = .ok ()) ∧
      (run sendStep .new messages).wire = wire messages ∧
      (∀ front arrival back, arrivals = front ++ arrival :: back →
        ∃ out, (receive limits (run (receive limits) .new front) arrival).1 = .ok out) ∧
      (∀ entry ∈ delivered limits arrivals, ∃ message, messages[entry.1]? = some message ∧
        entry.2 = (message.kind, message.payload)) ∧
      ∀ i message, messages[i]? = some message →
        (delivered limits arrivals).countP (fun entry => entry.1 = i) =
          if message.Fragmented then
            if Finset.range message.parts.length ⊆ arrivedParts arrivals i then 1 else 0
          else arrivals.countP fun arrival => arrival.message = i := by
  refine ⟨?_, ?_, ?_, mem_delivered hsizes hcount hlimits horderly, ?_⟩
  · intro front message back heq
    have hm : message ∈ messages := heq ▸ mem_append_right _ mem_cons_self
    exact congrArg Prod.fst (sendMessage_eq (hsizes message hm) _)
  · rw [run_sendStep hsizes]
  · intro front arrival back heq
    have hc : arrivals = (front ++ [arrival]) ++ back := by
      rw [heq, append_assoc, singleton_append]
    have hf : Orderly messages (front ++ [arrival]) := horderly.take hc
    exact ⟨_, (receive_orderly hsizes hcount hlimits hf (run_reassembles hsizes hcount hlimits hf.front)).1⟩
  · intro i message he
    rw [countP_delivered hsizes hcount hlimits horderly he]
    by_cases hfr : message.Fragmented
    · simp [complete_iff he, hfr]
    · rw [if_neg hfr, if_neg hfr]

theorem orderly_of_few (hm : messages.length ≤ maxReassemblyEntries)
    (ha : arrivals.length ≤ maxCompletedFragmentKeys)
    (hn : ∀ arrival ∈ arrivals, arrival.now = 0)
    (hs : ∀ arrival ∈ arrivals, ∃ message ∈ messages[arrival.message]?,
      (message.datagrams (messageIdAt messages arrival.message))[arrival.part]? =
        some arrival.bytes) : Orderly messages arrivals where
  sent := hs
  inFlight front back _ := by
    have hc := Finset.card_filter_le (Finset.range messages.length)
      fun i => Incomplete messages front i
    rw [Finset.card_range] at hc
    exact le_trans hc hm
  alive front arrival back heq i _ := by
    have hz := hn arrival (heq ▸ mem_append_right _ mem_cons_self)
    rw [hz, Nat.zero_sub]
    exact Nat.zero_le _
  remembered front arrival back heq hd := by
    have he : arrival.message ∈ (completions messages front).reverse :=
      mem_reverse.mpr (mem_completions.mpr hd)
    have hi := idxOf_lt_length_of_mem he
    have hl : (completions messages front).length ≤ front.length := length_observed_le _ _ _ _
    have ht : front.length < arrivals.length := by
      rw [heq, length_append, length_cons]
      omega
    rw [length_reverse] at hi
    omega

def sampleMessage : Message := ⟨.frame, replicate 1200 7⟩

def sampleArrival (part : Nat) : Arrival := ⟨0, 0, part, sampleMessage.fragmentDatagram 1 part⟩

theorem length_parts_sampleMessage : sampleMessage.parts.length = 2 := by
  rw [sampleMessage.length_parts, sampleMessage, length_replicate]
  decide

theorem fragmented_sampleMessage : sampleMessage.Fragmented := by
  rw [Message.Fragmented, sampleMessage, length_replicate]
  decide

theorem getElem?_sampleMessage (h : part < 2) :
    (sampleMessage.datagrams 1)[part]? = some (sampleMessage.fragmentDatagram 1 part) := by
  rw [Message.datagrams, if_pos fragmented_sampleMessage, getElem?_map,
    length_parts_sampleMessage, getElem?_range h]
  rfl

theorem sample_sent (h : part < 2) : ∃ message ∈ [sampleMessage][(sampleArrival part).message]?,
      (message.datagrams (messageIdAt [sampleMessage] (sampleArrival part).message))[
        (sampleArrival part).part]? = some (sampleArrival part).bytes :=
  ⟨sampleMessage, rfl, getElem?_sampleMessage h⟩

/-- The second fragment arrives first and once more at the end. -/
theorem sample_reassembled :
    Orderly [sampleMessage] [sampleArrival 1, sampleArrival 0, sampleArrival 1] ∧
      (delivered ⟨0⟩ [sampleArrival 1, sampleArrival 0, sampleArrival 1]).countP
        (fun entry => entry.1 = 0) = 1 := by
  have ho : Orderly [sampleMessage] [sampleArrival 1, sampleArrival 0, sampleArrival 1] := by
    refine orderly_of_few (by decide) (by decide) ?_ ?_
    · intro a ha
      simp only [mem_cons, not_mem_nil, or_false] at ha
      rcases ha with rfl | rfl | rfl <;> rfl
    · intro a ha
      simp only [mem_cons, not_mem_nil, or_false] at ha
      rcases ha with rfl | rfl | rfl
      · exact sample_sent (by decide)
      · exact sample_sent (by decide)
      · exact sample_sent (by decide)
  have hsi : ∀ m ∈ [sampleMessage], m.payload.length ≤ maxReassembledMessageLen := by
    intro m hm
    rw [mem_singleton.mp hm, sampleMessage, length_replicate]
    decide
  have hco : [sampleMessage].countP (fun m => m.Fragmented) ≤ 2 ^ 64 :=
    le_trans countP_le_length (by decide)
  have hli : ∀ m ∈ [sampleMessage], m.kind = .authenticatedMessage →
      m.payload.length ≤ (⟨0⟩ : ReceiveLimits).authenticatedMessageMax := by
    intro m hm hk
    rw [mem_singleton.mp hm] at hk
    cases hk
  obtain ⟨_, _, _, _, hn⟩ := fragments_reassembled [sampleMessage] hsi hco ⟨0⟩ hli
    [sampleArrival 1, sampleArrival 0, sampleArrival 1] ho
  refine ⟨ho, ?_⟩
  rw [hn 0 sampleMessage rfl, if_pos fragmented_sampleMessage, if_pos]
  rw [length_parts_sampleMessage]
  decide

end QuantumLink.Carrier
