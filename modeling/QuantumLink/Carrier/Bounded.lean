import QuantumLink.Carrier.Reassembly
import QuantumLink.Foundation.Run

/-! # What any datagrams can do to a session

Datagrams need not come from an honest sender. Whatever arrives, at whatever times and under
whatever limits, a session keeps few buffers, each with less than its message, and remembers few
completed keys; a fragment that reaches a buffer can only disagree with it about the length of the
message.
-/

namespace QuantumLink.Carrier

open Device (QlinkError)
open List Table Op
open FragmentBuffer

def Incoming.pruned (self : Incoming) (now : Nat) : Incoming :=
  { self with reassembly := pruneExpiredReassembly self.reassembly now }

/-- `accept_fragment` up to its call of `FragmentBuffer::insert`: the fragment and the buffer that
it is called with. -/
def insertCall (now : Nat) (limits : ReceiveLimits) (kind : MessageKind) (payload : Bytes) :
    Op Incoming QlinkError (Option (FragmentPayload × FragmentBuffer)) := do
  let fragment ← check (decodeFragmentPayload payload)
  let key : FragmentKey := ⟨kind, fragment.messageId⟩
  let self ← read id
  if self.completedFragments.contains key then pure none
  else
    check (validateFragmentShape fragment)
    check (validateMessageWithLimits kind fragment.totalLen limits)
    update fun self => self.pruned now
    let self ← read id
    check (ensure (¬ (key ∉ self.reassembly ∧ maxReassemblyEntries ≤ self.reassembly.size))
      (.protocol ("native UDP carrier has too many in-flight fragmented messages: " ++
        toString self.reassembly.size)))
    pure (some (fragment, (self.reassembly.lookup key).getD
      (new fragment.totalLen fragment.chunkCount now)))

/-- What `accept_fragment` does with the call. -/
def answerCall (kind : MessageKind) :
    Option (FragmentPayload × FragmentBuffer) → Op Incoming QlinkError (Option (MessageKind × Bytes))
  | none => pure none
  | some (fragment, entry) =>
    Incoming.store ⟨kind, fragment.messageId⟩ (insert fragment entry)

inductive Called (now : Nat) (kind : MessageKind) (self : Incoming) :
    Except QlinkError (Option (FragmentPayload × FragmentBuffer)) × Incoming → Prop
  | refused (error : QlinkError) : Called now kind self (.error error, self)
  | late : Called now kind self (.ok none, self)
  | full (error : QlinkError) : Called now kind self (.error error, self.pruned now)
  | insert (fragment : FragmentPayload) (hshape : WellShaped fragment)
      (hnew : ⟨kind, fragment.messageId⟩ ∉ self.completedFragments.set)
      (hroom : ¬ (⟨kind, fragment.messageId⟩ ∉ (self.pruned now).reassembly ∧
        maxReassemblyEntries ≤ (self.pruned now).reassembly.size)) :
      Called now kind self (.ok (some (fragment,
        ((self.pruned now).reassembly.lookup ⟨kind, fragment.messageId⟩).getD
          (new fragment.totalLen fragment.chunkCount now))), self.pruned now)

section

variable (now : Nat) (limits : ReceiveLimits) (kind : MessageKind) (payload : Bytes)
  (self : Incoming)

/-- The call and what is done with it are `accept_fragment`. -/
theorem acceptFragment_eq : acceptFragment now limits kind payload =
    (insertCall now limits kind payload >>= answerCall kind) := by
  unfold acceptFragment insertCall
  simp only [bind_assoc]
  refine congrArg _ (funext fun f => congrArg _ (funext fun s => ?_))
  split
  · rfl
  · simp only [bind_assoc]
    rfl

theorem insertCall_cases : Called now kind self (insertCall now limits kind payload self) := by
  unfold insertCall
  cases hd : decodeFragmentPayload payload with
  | error error => exact .refused error
  | ok f =>
    rw [check_bind_ok rfl, read_bind]
    by_cases hl : self.completedFragments.contains ⟨kind, f.messageId⟩ = true
    · simp only [id, if_pos hl]
      exact .late
    simp only [id, if_neg hl]
    cases hs : validateFragmentShape f with
    | error error => exact .refused error
    | ok _ =>
      rw [check_bind_ok rfl]
      cases hi : validateMessageWithLimits kind f.totalLen limits with
      | error error => exact .refused error
      | ok _ =>
        rw [check_bind_ok rfl, update_bind, read_bind, id_eq]
        by_cases hr : ⟨kind, f.messageId⟩ ∉ (self.pruned now).reassembly ∧
            maxReassemblyEntries ≤ (self.pruned now).reassembly.size
        · rw [check_bind_error (ensure_eq_error_iff.mpr ⟨not_not.mpr hr, rfl⟩)]
          exact .full _
        · rw [check_bind_ok (ensure_of hr)]
          have hnew : ⟨kind, f.messageId⟩ ∉ self.completedFragments.set := by
            simpa [CompletedFragmentKeys.contains] using hl
          exact .insert f (validateFragmentShape_eq_ok_iff.mp hs) hnew hr

end

namespace FragmentBuffer

/-- A consistent buffer that still lacks a chunk. -/
structure Open (buffer : FragmentBuffer) : Prop extends buffer.Consistent where
  missing : buffer.receivedLen < buffer.totalLen

theorem open_new (h : WellShaped fragment) (now : Nat) :
    (new fragment.totalLen fragment.chunkCount now).Open where
  bounded := h.bounded
  fits := by
    have hf := fits_replicate_none (α := UInt8)
      (chunkLengths maxFragmentPayloadLen fragment.totalLen)
    rwa [length_chunkLengths, ← h.count] at hf
  received := (stored_replicate_none _).symm
  missing := Nat.zero_lt_of_lt h.needed

/-- What an open buffer makes of any well-shaped fragment. -/
inductive Inserted (buffer : FragmentBuffer) : Except QlinkError (Option Bytes) × FragmentBuffer → Prop
  | other : Inserted buffer
      (.error (.protocol "native UDP carrier fragment total length changed"), buffer)
  | more (next : FragmentBuffer) (hopen : next.Open) : Inserted buffer (.ok none, next)
  | last (message : Bytes) (next : FragmentBuffer) : Inserted buffer (.ok (some message), next)

theorem Open.insert {b : FragmentBuffer} (h : b.Open)
    (hs : WellShaped fragment) : Inserted b (FragmentBuffer.insert fragment b) := by
  by_cases ht : fragment.totalLen = b.totalLen
  · have ho : fragment.chunkCount = b.chunks.length := by
      rw [h.fits.length_eq, length_chunkLengths, ← ht, hs.count]
    have hi : fragment.chunkIndex < b.chunks.length := ho ▸ hs.index
    have hp (hf : ¬ (b.chunks.getD fragment.chunkIndex none).isSome = true) :
        (b.place fragment).Consistent := by
      have he : b.chunks[fragment.chunkIndex]? = some none := by
        rw [getD_eq_getElem _ _ hi, Bool.not_eq_true, Option.isSome_eq_false_iff,
          Option.isNone_iff_eq_none] at hf
        rw [getElem?_eq_getElem hi, hf]
      refine ⟨h.bounded, h.fits.set ?_, ?_⟩
      · rw [hs.length_payload, ht]
        exact getElem?_chunkLengths (by rw [← ht, ← hs.count]; exact hs.index)
      · exact (congrArg (· + _) h.received).trans (stored_set he _).symm
    rw [insert_eq ht hs.bounded ho hi hp]
    split
    · exact .more b h
    · rename_i hf
      split
      · exact .last _ _
      · rename_i hm
        have hn := hp hf
        exact .more _ ⟨hn, lt_of_le_of_ne hn.received_le.1 fun hu =>
          hm (hn.received_le.2.mp hu)⟩
  · have hc : FragmentBuffer.insert fragment b =
        (.error (.protocol "native UDP carrier fragment total length changed"), b) := by
      unfold FragmentBuffer.insert
      rw [read_bind]
      exact check_bind_error (ensure_eq_error_iff.mpr ⟨ht, rfl⟩) _ _
    rw [hc]
    exact .other

end FragmentBuffer

/-- What holds of a session whatever has arrived. -/
structure Incoming.Bounded (session : Incoming) : Prop where
  size : session.reassembly.size ≤ maxReassemblyEntries
  buffers : ∀ key buffer, session.reassembly.lookup key = some buffer →
    buffer.Open ∧ key ∉ session.completedFragments.set
  remembers : session.completedFragments.Remembers session.completedFragments.order

namespace Incoming.Bounded

variable {self : Incoming} (h : self.Bounded)

include h

theorem fewer {left : Table FragmentKey FragmentBuffer}
    (hl : ∀ key buffer, left.lookup key = some buffer → self.reassembly.lookup key = some buffer) :
    Bounded { self with reassembly := left } where
  size := (size_le_of_lookup hl).trans h.size
  buffers key buffer hb := h.buffers key buffer (hl key buffer hb)
  remembers := h.remembers

theorem pruned (now : Nat) : (self.pruned now).Bounded := by
  refine h.fewer fun key b hb => ?_
  rw [pruneExpiredReassembly, lookup_retain, Option.filter_eq_some_iff] at hb
  exact hb.1

theorem erased (key : FragmentKey) : Bounded { self with reassembly := self.reassembly.erase key }:=
  h.fewer fun _ _ hb => (lookup_erase_eq_some hb).2

variable {key : FragmentKey} (hnew : key ∉ self.completedFragments.set)

include hnew

theorem inserted {b : FragmentBuffer} (ho : b.Open)
    (hr : ¬ (key ∉ self.reassembly ∧ maxReassemblyEntries ≤ self.reassembly.size)) :
    Bounded { self with reassembly := self.reassembly.insert key b } where
  size := by
    by_cases hm : key ∈ self.reassembly
    · have hs := h.size
      rwa [Table.size, ← Finset.insert_eq_of_mem (Finmap.mem_keys.mpr hm), ← Table.keys_insert]
        at hs
    · have hle := Table.size_insert_le key b self.reassembly
      have hlt : self.reassembly.size < maxReassemblyEntries := Nat.not_le.mp fun hu => hr ⟨hm, hu⟩
      exact hle.trans hlt
  buffers other found hf := by
    rcases Table.lookup_insert_eq_some hf with ⟨rfl, rfl⟩ | ⟨_, hl⟩
    · exact ⟨ho, hnew⟩
    · exact h.buffers other found hl
  remembers := h.remembers

theorem completed : Bounded ⟨self.reassembly.erase key, self.completedFragments.insert key⟩ where
  size := (h.erased key).size
  buffers other found hf := by
    obtain ⟨hne, hol⟩ := lookup_erase_eq_some hf
    obtain ⟨ho, ht⟩ := h.buffers other found hol
    refine ⟨ho, fun hm => ?_⟩
    have hn := h.remembers.insert fun hk => hnew (h.remembers.set ▸ mem_toFinset.mpr hk)
    rw [hn.mem_iff] at hm
    rcases mem_append.mp (mem_of_mem_drop hm) with hb | hl
    · exact ht (h.remembers.set ▸ mem_toFinset.mpr hb)
    · exact hne (mem_singleton.mp hl)
  remembers := (h.remembers.insert fun hk => hnew (h.remembers.set ▸ mem_toFinset.mpr hk)).self

end Incoming.Bounded

/-- A call of `accept_datagram`: the time, the limits of the receiver that waits and the datagram. -/
structure AcceptCall where
  now : Nat
  limits : ReceiveLimits
  datagram : CarrierDatagram

def accept (self : Incoming) (call : AcceptCall) :
    Except QlinkError (Option (MessageKind × Bytes)) × Incoming :=
  acceptDatagram call.now call.limits call.datagram self

section

variable {self : Incoming} (h : self.Bounded)

include h

/-- The buffer that `FragmentBuffer::insert` is called with lacks a chunk. -/
theorem Incoming.Bounded.open_entry (now : Nat) (kind : MessageKind) (hs : WellShaped fragment) :
    (((self.pruned now).reassembly.lookup ⟨kind, fragment.messageId⟩).getD
      (FragmentBuffer.new fragment.totalLen fragment.chunkCount now)).Open := by
  cases hl : (self.pruned now).reassembly.lookup ⟨kind, fragment.messageId⟩ with
  | none => exact FragmentBuffer.open_new hs now
  | some b => exact ((h.pruned now).buffers _ b hl).1

theorem acceptFragment_bounded (now : Nat) (limits : ReceiveLimits) (kind : MessageKind)
    (payload : Bytes) : (acceptFragment now limits kind payload self).2.Bounded := by
  have hc := insertCall_cases now limits kind payload self
  rw [acceptFragment_eq, bind_apply]
  generalize insertCall now limits kind payload self = call at hc ⊢
  cases hc with
  | refused error | late => exact h
  | full error => exact h.pruned now
  | insert f hs hn hr =>
    have hi := (h.open_entry now kind hs).insert hs
    simp only [answerCall]
    generalize FragmentBuffer.insert f _ = answer at hi ⊢
    cases hi with
    | other => exact (h.pruned now).erased _
    | more n ho => exact (h.pruned now).inserted hn ho hr
    | last m n => exact (h.pruned now).completed hn

theorem accept_bounded (c : AcceptCall) : (accept self c).2.Bounded := by
  rcases c with ⟨now, l, k, p⟩
  have hc (k : MessageKind) : (acceptComplete l k p self).2 = self := by
    rw [acceptComplete]
    cases validateMessageWithLimits k p.length l <;> rfl
  cases k with
  | frame => exact (hc .frame).symm ▸ h
  | authenticatedMessage => exact (hc .authenticatedMessage).symm ▸ h
  | close => exact h
  | frameFragment => exact acceptFragment_bounded h now l .frame p
  | authenticatedFragment => exact acceptFragment_bounded h now l .authenticatedMessage p

end

/-- Whatever datagrams arrive, a session stays within its limits, and the only error of a buffer is
about the length of its message. -/
theorem hostile_datagrams_bounded (calls : List AcceptCall) :
    let session := run accept .new calls
    session.reassembly.size ≤ 64 ∧
    (∀ key b, session.reassembly.lookup key = some b →
      b.receivedLen = (b.chunks.map fun s => (s.getD []).length).sum ∧
      b.receivedLen < b.totalLen ∧ b.totalLen ≤ 1024 * 1024) ∧
    session.completedFragments.set = session.completedFragments.order.toFinset ∧
    session.completedFragments.order.Nodup ∧ session.completedFragments.order.length ≤ 256 ∧
    (∀ key ∈ session.completedFragments.set, key ∉ session.reassembly) ∧
    ∀ now l k p,
      acceptFragment now l k p = (insertCall now l k p >>= answerCall k) ∧
      ∀ f e, (insertCall now l k p session).1 = .ok (some (f, e)) →
        ∀ error, (FragmentBuffer.insert f e).1 = .error error →
          error = .protocol "native UDP carrier fragment total length changed" := by
  intro session
  have hnew : Incoming.new.Bounded := by
    refine ⟨Nat.zero_le _, ?_, CompletedFragmentKeys.remembers_empty⟩
    intro key b hb
    cases (Finmap.lookup_empty key).symm.trans hb
  have h : session.Bounded :=
    run_invariant Incoming.Bounded (fun _ c h => accept_bounded h c) hnew calls
  refine ⟨h.size, ?_, h.remembers.set, h.remembers.once, ?_, ?_, ?_⟩
  · intro key b hb
    have ho := (h.buffers key b hb).1
    exact ⟨ho.received, ho.missing, ho.bounded⟩
  · rw [h.remembers.order, length_drop]
    show _ - (_ - 256) ≤ 256
    omega
  · intro key hm hk
    obtain ⟨b, hb⟩ := Finmap.mem_iff.mp hk
    exact (h.buffers key b hb).2 hm
  · intro now l k p
    refine ⟨acceptFragment_eq now l k p, ?_⟩
    intro f e ha error he
    have hc := insertCall_cases now l k p session
    generalize insertCall now l k p session = c at hc ha
    cases hc with
    | refused | late | full => cases ha
    | insert fo hs =>
      cases ha
      have hi := (h.open_entry now k hs).insert hs
      generalize FragmentBuffer.insert _ _ = result at hi he
      cases hi with
      | other => exact (Except.error.inj he).symm
      | more | last => cases he

end QuantumLink.Carrier
