import QuantumLink.Device.Keys
import QuantumLink.Foundation.Reassembly

/-! # Carrier datagrams

The codecs of `carrier_transport`: a message of up to one datagram is sent as it is, a longer one
in fragments that say where they belong. The transport is taken to hand every datagram to the
network; `Outgoing` lists what was handed over.
-/

namespace QuantumLink.Carrier

open Device (QlinkError)
open Json (stringBytes)
open List

def carrierMagic : Bytes := stringBytes "QLCAR1"
def carrierVersion : UInt8 := 1
def carrierHeaderLen : Nat := 6 + 1 + 1 + 4
def maxUdpDatagramLen : Nat := 1200
def maxCarrierPayloadLen : Nat := maxUdpDatagramLen - carrierHeaderLen
def fragmentHeaderLen : Nat := 8 + 4 + 2 + 2
def maxFragmentPayloadLen : Nat := maxCarrierPayloadLen - fragmentHeaderLen
def maxReassembledMessageLen : Nat := 1024 * 1024

inductive MessageKind where
  | frame
  | authenticatedMessage
deriving DecidableEq

inductive DatagramKind where
  | frame
  | authenticatedMessage
  | close
  | frameFragment
  | authenticatedFragment
deriving DecidableEq

def MessageKind.completeDatagramKind : MessageKind → DatagramKind
  | frame => .frame
  | authenticatedMessage => .authenticatedMessage

def MessageKind.fragmentDatagramKind : MessageKind → DatagramKind
  | frame => .frameFragment
  | authenticatedMessage => .authenticatedFragment

def DatagramKind.wireValue : DatagramKind → UInt8
  | frame => 1
  | authenticatedMessage => 2
  | close => 3
  | frameFragment => 4
  | authenticatedFragment => 5

def DatagramKind.fromWire (value : UInt8) : Except QlinkError DatagramKind :=
  if value = 1 then .ok .frame
  else if value = 2 then .ok .authenticatedMessage
  else if value = 3 then .ok .close
  else if value = 4 then .ok .frameFragment
  else if value = 5 then .ok .authenticatedFragment
  else .error (.protocol ("unsupported native carrier datagram kind " ++ toString value.toNat))

@[simp] theorem DatagramKind.fromWire_wireValue (kind : DatagramKind) :
    fromWire kind.wireValue = .ok kind := by
  cases kind <;> rfl

theorem DatagramKind.fromWire_eq_ok (h : fromWire value = .ok kind) : kind.wireValue = value := by
  simp only [fromWire] at h
  split_ifs at h with h1 h2 h3 h4 h5 <;> cases h <;> symm <;> assumption

structure CarrierDatagram where
  kind : DatagramKind
  payload : Bytes

def datagramBytes (kind : DatagramKind) (payload : Bytes) : Bytes :=
  carrierMagic ++ (carrierVersion :: kind.wireValue :: (bigEndian 4 payload.length ++ payload))

def encodeDatagram (kind : DatagramKind) (payload : Bytes) : Except QlinkError Bytes := do
  ensure (payload.length < 2 ^ 32) (.protocol "native UDP carrier payload exceeds u32 length")
  ensure (payload.length ≤ maxCarrierPayloadLen)
    (.protocol ("native UDP carrier payload is too large: " ++ toString payload.length ++ " bytes"))
  pure (datagramBytes kind payload)

def decodeDatagram (input : Bytes) : Except QlinkError CarrierDatagram := do
  ensure (carrierHeaderLen ≤ input.length) (.protocol "native UDP carrier datagram too short")
  ensure (input.take 6 = carrierMagic) (.protocol "invalid native UDP carrier datagram magic")
  ensure (input.getD 6 0 = carrierVersion)
    (.protocol ("unsupported native UDP carrier version " ++ toString (input.getD 6 0).toNat))
  let kind ← DatagramKind.fromWire (input.getD 7 0)
  let payloadLen := ofBigEndian ((input.drop 8).take 4)
  ensure (input.length = carrierHeaderLen + payloadLen)
    (.protocol "native UDP carrier datagram length mismatch")
  pure ⟨kind, input.drop carrierHeaderLen⟩

theorem length_carrierMagic : carrierMagic.length = 6 := by decide

variable (k : DatagramKind)

theorem length_datagramBytes (p : Bytes) :
    (datagramBytes k p).length = carrierHeaderLen + p.length := by
  simp only [datagramBytes, length_append, length_cons, length_bigEndian,
    length_carrierMagic, carrierHeaderLen]
  omega

theorem encodeDatagram_of_le {k : DatagramKind} {p : Bytes} (h : p.length ≤ maxCarrierPayloadLen) :
    encodeDatagram k p = .ok (datagramBytes k p) := by
  have hm : maxCarrierPayloadLen = 1188 := rfl
  have hu : p.length < 2 ^ 32 := by omega
  simp only [encodeDatagram, ensure_of hu, ensure_of h]
  rfl

theorem decodeDatagram_datagramBytes {payload : Bytes} (h : payload.length < 2 ^ 32) :
    decodeDatagram (datagramBytes kind payload) = .ok ⟨kind, payload⟩ := by
  have hm := length_carrierMagic
  have hl := length_datagramBytes kind payload
  have ht : (datagramBytes kind payload).take 6 = carrierMagic := take_left' hm
  have hv : (datagramBytes kind payload).getD 6 0 = carrierVersion := by
    simp [datagramBytes, hm]
  have hk : (datagramBytes kind payload).getD 7 0 = kind.wireValue := by
    simp [datagramBytes, getElem?_append, hm]
  have hle : ofBigEndian (((datagramBytes kind payload).drop 8).take 4) = payload.length := by
    simpa [datagramBytes, drop_append, drop_eq_nil_of_le, hm] using
      ofBigEndian_bigEndian_of_lt (show payload.length < 256 ^ 4 from h)
  have hp : (datagramBytes kind payload).drop carrierHeaderLen = payload := by
    simp [datagramBytes, drop_append, drop_eq_nil_of_le, hm, carrierHeaderLen]
  simp only [decodeDatagram, ht, hv, hk, hle, hp, hl,
    DatagramKind.fromWire_wireValue, ensure_of (Nat.le_add_right _ _)]
  rfl

theorem datagramBytes_of_decode (h : decodeDatagram input = .ok datagram) :
    datagramBytes datagram.kind datagram.payload = input := by
  simp only [decodeDatagram, bind_eq_ok_iff, ensure_eq_ok_iff, exists_const, pure,
    Except.pure, Except.ok.injEq] at h
  obtain ⟨hh, hm, hv, kind, hk, hl, rfl⟩ := h
  have ho : 12 ≤ input.length := hh
  have hp : (input.drop carrierHeaderLen).length = ofBigEndian ((input.drop 8).take 4) := by
    rw [length_drop]
    omega
  have hw : bigEndian 4 (ofBigEndian ((input.drop 8).take 4)) ++ input.drop carrierHeaderLen =
      input.drop 8 := bigEndian_append_drop hh
  have hr : input.getD 6 0 :: input.getD 7 0 :: input.drop 8 = input.drop 6 := by
    rw [drop_eq_getElem_cons (i := 6) (by omega), drop_eq_getElem_cons (i := 7) (by omega),
      getD_eq_getElem _ _ (by omega), getD_eq_getElem _ _ (by omega)]
  rw [datagramBytes, hp, hw, DatagramKind.fromWire_eq_ok hk, ← hv, hr, ← hm, take_append_drop]

theorem encodeDatagram_eq_ok_iff : encodeDatagram kind payload = .ok bytes ↔
      bytes.length ≤ maxUdpDatagramLen ∧ decodeDatagram bytes = .ok ⟨kind, payload⟩ := by
  have hm : maxUdpDatagramLen = carrierHeaderLen + maxCarrierPayloadLen := rfl
  have hl := length_datagramBytes kind payload
  constructor
  · intro h
    have hle : payload.length ≤ maxCarrierPayloadLen := by
      simp only [encodeDatagram, bind_eq_ok_iff, ensure_eq_ok_iff, exists_const] at h
      exact h.2.1
    have hc : maxCarrierPayloadLen = 1188 := rfl
    rw [encodeDatagram_of_le hle] at h
    cases h
    exact ⟨by omega, decodeDatagram_datagramBytes (by omega)⟩
  · rintro ⟨hle, hd⟩
    have hb : datagramBytes kind payload = bytes := datagramBytes_of_decode hd
    rw [← hb] at hle ⊢
    exact encodeDatagram_of_le (by omega)

structure FragmentPayload where
  messageId : UInt64
  totalLen : Nat
  chunkIndex : Nat
  chunkCount : Nat
  payload : Bytes

def FragmentPayload.bytes (fragment : FragmentPayload) : Bytes :=
  bigEndian 8 fragment.messageId.toNat ++ (bigEndian 4 fragment.totalLen ++
    (bigEndian 2 fragment.chunkIndex ++ (bigEndian 2 fragment.chunkCount ++ fragment.payload)))

def validateFragmentShapeParts (totalLen chunkIndex count payloadLen : Nat) :
    Except QlinkError Unit := do
  ensure (maxCarrierPayloadLen < totalLen)
    (.protocol "native UDP carrier fragment total length does not require fragmentation")
  ensure (totalLen ≤ maxReassembledMessageLen)
    (.protocol ("native UDP carrier fragmented message is too large: " ++ toString totalLen ++
      " bytes"))
  ensure (count = chunkCount maxFragmentPayloadLen totalLen)
    (.protocol "native UDP carrier fragment count does not match total length")
  ensure (chunkIndex < count) (.protocol "native UDP carrier fragment index out of range")
  let expectedPayloadLen :=
    if chunkIndex + 1 = count then totalLen - maxFragmentPayloadLen * chunkIndex
    else maxFragmentPayloadLen
  ensure (payloadLen = expectedPayloadLen)
    (.protocol "native UDP carrier fragment payload length does not match position")

def validateFragmentShape (fragment : FragmentPayload) : Except QlinkError Unit :=
  validateFragmentShapeParts fragment.totalLen fragment.chunkIndex fragment.chunkCount
    fragment.payload.length

def encodeFragmentPayload (fragment : FragmentPayload) : Except QlinkError Bytes := do
  ensure (fragment.chunkCount ≠ 0) (.protocol "native UDP carrier fragment count cannot be zero")
  validateFragmentShape fragment
  ensure (fragment.chunkIndex < fragment.chunkCount)
    (.protocol "native UDP carrier fragment index out of range")
  ensure (fragment.payload.length ≤ maxFragmentPayloadLen)
    (.protocol ("native UDP carrier fragment payload is too large: " ++
      toString fragment.payload.length ++ " bytes"))
  pure fragment.bytes

def decodeFragmentPayload (input : Bytes) : Except QlinkError FragmentPayload := do
  ensure (fragmentHeaderLen ≤ input.length) (.protocol "native UDP carrier fragment too short")
  let count := ofBigEndian ((input.drop 14).take 2)
  ensure (count ≠ 0) (.protocol "native UDP carrier fragment count cannot be zero")
  pure ⟨UInt64.ofNat (ofBigEndian (input.take 8)), ofBigEndian ((input.drop 8).take 4),
    ofBigEndian ((input.drop 12).take 2), count, input.drop fragmentHeaderLen⟩

/-- What `validate_fragment_shape` accepts. -/
structure WellShaped (fragment : FragmentPayload) : Prop where
  needed : maxCarrierPayloadLen < fragment.totalLen
  bounded : fragment.totalLen ≤ maxReassembledMessageLen
  count : fragment.chunkCount = chunkCount maxFragmentPayloadLen fragment.totalLen
  index : fragment.chunkIndex < fragment.chunkCount
  payload : fragment.payload.length =
    if fragment.chunkIndex + 1 = fragment.chunkCount then
      fragment.totalLen - maxFragmentPayloadLen * fragment.chunkIndex
    else maxFragmentPayloadLen

open FragmentPayload

theorem validateFragmentShape_eq_ok_iff :
    validateFragmentShape fragment = .ok () ↔ WellShaped fragment := by
  simp only [validateFragmentShape, validateFragmentShapeParts, bind_eq_ok_iff,
    ensure_eq_ok_iff, exists_const]
  constructor
  · intro h
    exact ⟨h.1, h.2.1, h.2.2.1, h.2.2.2.1, h.2.2.2.2⟩
  · intro h
    exact ⟨h.needed, h.bounded, h.count, h.index, h.payload⟩

theorem WellShaped.length_payload (h : WellShaped fragment) :
    fragment.payload.length = min maxFragmentPayloadLen
      (fragment.totalLen - maxFragmentPayloadLen * fragment.chunkIndex) := by
  have hi := h.index
  rw [h.count] at hi
  rw [h.payload, h.count, chunkLength_eq (by decide) hi]

theorem WellShaped.bounds (h : WellShaped fragment) :
    fragment.chunkCount < 2 ^ 16 ∧ fragment.payload.length ≤ maxFragmentPayloadLen := by
  refine ⟨?_, h.length_payload ▸ min_le_left _ _⟩
  have hb := h.bounded
  have hm : maxReassembledMessageLen = 1048576 := rfl
  have hf : maxFragmentPayloadLen = 1172 := rfl
  rw [h.count, chunkCount, hf]
  omega

theorem length_fragmentBytes (f : FragmentPayload) :
    f.bytes.length = fragmentHeaderLen + f.payload.length := by
  simp only [bytes, length_append, length_bigEndian, fragmentHeaderLen]
  omega

theorem WellShaped.encode (h : WellShaped fragment) :
    encodeFragmentPayload fragment = .ok fragment.bytes := by
  have hi := h.index
  have hn : fragment.chunkCount ≠ 0 := by omega
  simp only [encodeFragmentPayload, ensure_of hn,
    validateFragmentShape_eq_ok_iff.mpr h, ensure_of h.index, ensure_of h.bounds.2]
  rfl

theorem WellShaped.decode (h : WellShaped fragment) :
    decodeFragmentPayload fragment.bytes = .ok fragment := by
  have hi := h.index
  have ho := h.bounds.1
  have hb := h.bounded
  have hm : maxReassembledMessageLen = 1048576 := rfl
  have hd : ofBigEndian (fragment.bytes.take 8) = fragment.messageId.toNat := by
    simpa [bytes] using ofBigEndian_bigEndian_of_lt fragment.messageId.toNat_lt
  have ht : ofBigEndian ((fragment.bytes.drop 8).take 4) = fragment.totalLen := by
    simpa [bytes] using ofBigEndian_bigEndian_of_lt (by omega)
  have hc : ofBigEndian ((fragment.bytes.drop 12).take 2) = fragment.chunkIndex := by
    simpa [bytes, drop_append, drop_eq_nil_of_le] using
      ofBigEndian_bigEndian_of_lt (by omega)
  have hu : ofBigEndian ((fragment.bytes.drop 14).take 2) = fragment.chunkCount := by
    simpa [bytes, drop_append, drop_eq_nil_of_le] using
      ofBigEndian_bigEndian_of_lt (by omega)
  have hp : fragment.bytes.drop fragmentHeaderLen = fragment.payload := by
    simp [bytes, drop_append, drop_eq_nil_of_le, fragmentHeaderLen]
  have hn : fragment.chunkCount ≠ 0 := by omega
  have hl : fragmentHeaderLen ≤ fragment.bytes.length := by
    rw [length_fragmentBytes]
    exact Nat.le_add_right _ _
  simp only [decodeFragmentPayload, ensure_of hl, hd, ht, hc, hu, hp,
    ensure_of hn, UInt64.ofNat_toNat]
  rfl

theorem fragmentBytes_of_decode
    (h : decodeFragmentPayload input = .ok fragment) : fragment.bytes = input := by
  simp only [decodeFragmentPayload, bind_eq_ok_iff, ensure_eq_ok_iff, exists_const, pure,
    Except.pure, Except.ok.injEq] at h
  obtain ⟨hh, -, rfl⟩ := h
  have hl : 16 ≤ input.length := hh
  have h14 : bigEndian 2 (ofBigEndian ((input.drop 14).take 2)) ++ input.drop fragmentHeaderLen =
      input.drop 14 := bigEndian_append_drop hh
  have h12 : bigEndian 2 (ofBigEndian ((input.drop 12).take 2)) ++ input.drop 14 = input.drop 12 :=
    bigEndian_append_drop (by omega)
  have h8 : bigEndian 4 (ofBigEndian ((input.drop 8).take 4)) ++ input.drop 12 = input.drop 8 :=
    bigEndian_append_drop (by omega)
  have hd : (UInt64.ofNat (ofBigEndian (input.take 8))).toNat = ofBigEndian (input.take 8) := by
    have hlt := ofBigEndian_lt (input.take 8)
    rw [length_take, min_eq_left (by omega)] at hlt
    exact UInt64.toNat_ofNat_of_lt' hlt
  simp only [bytes, hd, h14, h12, h8]
  exact bigEndian_append_drop (k := 0) (by omega)

theorem encodeFragmentPayload_eq_ok_iff {b : Bytes} : encodeFragmentPayload fragment = .ok b ↔
      decodeFragmentPayload b = .ok fragment ∧ validateFragmentShape fragment = .ok () := by
  rw [validateFragmentShape_eq_ok_iff]
  constructor
  · intro h
    have hs : WellShaped fragment := by
      simp only [encodeFragmentPayload, bind_eq_ok_iff] at h
      obtain ⟨_, _, _, hv, -⟩ := h
      exact validateFragmentShape_eq_ok_iff.mp hv
    rw [hs.encode] at h
    cases h
    exact ⟨hs.decode, hs⟩
  · rintro ⟨hd, hs⟩
    rw [hs.encode, fragmentBytes_of_decode hd]

/-- What a sender has handed to the transport, and its message counter. -/
structure Outgoing where
  nextMessageId : UInt64
  wire : List Bytes

def Outgoing.new : Outgoing := ⟨1, []⟩

def sendDatagram (kind : DatagramKind) (payload : Bytes) : Op Outgoing QlinkError Unit := do
  let datagram ← Op.check (encodeDatagram kind payload)
  Op.update fun self => { self with wire := self.wire ++ [datagram] }

/-- The loop over the chunks, from a position on. -/
def sendFragments (kind : MessageKind) (messageId : UInt64) (totalLen count : Nat) :
    Nat → List Bytes → Op Outgoing QlinkError Unit
  | _, [] => pure ()
  | index, part :: rest => do
      let fragment ← Op.check (encodeFragmentPayload ⟨messageId, totalLen, index, count, part⟩)
      sendDatagram kind.fragmentDatagramKind fragment
      sendFragments kind messageId totalLen count (index + 1) rest

def sendMessage (kind : MessageKind) (payload : Bytes) : Op Outgoing QlinkError Unit := do
  if payload.length ≤ maxCarrierPayloadLen then sendDatagram kind.completeDatagramKind payload
  else
    Op.check (ensure (payload.length < 2 ^ 32)
      (.protocol "native UDP carrier message exceeds u32 length"))
    Op.check (ensure (payload.length ≤ maxReassembledMessageLen)
      (.protocol ("native UDP carrier message is too large: " ++ toString payload.length ++
        " bytes")))
    let count := chunkCount maxFragmentPayloadLen payload.length
    Op.check (ensure (count < 2 ^ 16)
      (.protocol "native UDP carrier message has too many fragments"))
    let messageId ← Op.act fun self =>
      (self.nextMessageId, { self with nextMessageId := self.nextMessageId + 1 })
    sendFragments kind messageId payload.length count 0 (chunks maxFragmentPayloadLen payload)

/-! ## What is sent -/

structure Message where
  kind : MessageKind
  payload : Bytes

variable (message : Message)

/-- The message does not fit into one datagram. -/
def Message.Fragmented : Prop := maxCarrierPayloadLen < message.payload.length

instance (message : Message) : Decidable message.Fragmented :=
  inferInstanceAs (Decidable (_ < _))

def Message.parts : List Bytes := chunks maxFragmentPayloadLen message.payload

def Message.fragment (messageId : UInt64) (index : Nat) : FragmentPayload :=
  ⟨messageId, message.payload.length, index, chunkCount maxFragmentPayloadLen message.payload.length,
    chunkAt maxFragmentPayloadLen message.payload index⟩

def Message.fragmentDatagram (messageId : UInt64) (index : Nat) : Bytes :=
  datagramBytes message.kind.fragmentDatagramKind (message.fragment messageId index).bytes

def Message.datagrams (messageId : UInt64) : List Bytes :=
  if message.Fragmented then
    (List.range message.parts.length).map (message.fragmentDatagram messageId)
  else [datagramBytes message.kind.completeDatagramKind message.payload]

variable {m : Message}

theorem Message.wellShaped_fragment (me : UInt64) (hf : m.Fragmented)
    (hb : m.payload.length ≤ maxReassembledMessageLen) (hi : index < m.parts.length) :
    WellShaped (m.fragment me index) := by
  have hc : index < chunkCount maxFragmentPayloadLen m.payload.length := by
    simpa [parts] using hi
  refine ⟨hf, hb, rfl, hc, ?_⟩
  exact (length_chunkAt _ _ index).trans (chunkLength_eq (by decide) hc).symm

theorem sendDatagram_of_le {p : Bytes} (s : Outgoing) (h : p.length ≤ maxCarrierPayloadLen) :
    sendDatagram k p s = (.ok (), { s with wire := s.wire ++ [datagramBytes k p] }) := by
  rw [sendDatagram, Op.check_bind_ok (encodeDatagram_of_le h)]
  rfl

theorem length_fragmentBytes_le (h : WellShaped fragment) :
    fragment.bytes.length ≤ maxCarrierPayloadLen := by
  have hp := h.bounds.2
  have hm : maxCarrierPayloadLen = fragmentHeaderLen + maxFragmentPayloadLen := rfl
  rw [length_fragmentBytes]
  omega

theorem sendFragments_parts (me : UInt64) (hf : m.Fragmented)
    (hb : m.payload.length ≤ maxReassembledMessageLen) (c s : Nat) (hc : s + c = m.parts.length)
    (se : Outgoing) :
    sendFragments m.kind me m.payload.length (chunkCount maxFragmentPayloadLen m.payload.length) s
        ((range' s c).map (chunkAt maxFragmentPayloadLen m.payload)) se =
      (.ok (), { se with wire := se.wire ++ (range' s c).map (m.fragmentDatagram me) }) := by
  induction c generalizing s se with
  | zero => simp [sendFragments]
  | succ c ih =>
    have hs := m.wellShaped_fragment me hf hb
      (show s < m.parts.length by omega)
    have hse := sendDatagram_of_le m.kind.fragmentDatagramKind se
      (length_fragmentBytes_le hs)
    have he : encodeFragmentPayload ⟨me, m.payload.length, s,
        chunkCount maxFragmentPayloadLen m.payload.length,
        chunkAt maxFragmentPayloadLen m.payload s⟩ = .ok _ := hs.encode
    rw [range'_succ, map_cons, sendFragments, Op.check_bind_ok he,
      Op.bind_of_ok hse, ih (s + 1) (by omega)]
    simp [Message.fragmentDatagram]

/-- A message within the limit is sent; a fragmented one takes a number. -/
theorem sendMessage_eq (hb : m.payload.length ≤ maxReassembledMessageLen) (s : Outgoing) :
    sendMessage m.kind m.payload s =
      (.ok (), ⟨if m.Fragmented then s.nextMessageId + 1 else s.nextMessageId,
        s.wire ++ m.datagrams s.nextMessageId⟩) := by
  have hm : maxReassembledMessageLen = 1048576 := rfl
  unfold sendMessage
  by_cases hr : m.Fragmented
  · have hl : ¬ m.payload.length ≤ maxCarrierPayloadLen := Nat.not_le.mpr hr
    have hu : m.payload.length < 2 ^ 32 := by omega
    have hc : chunkCount maxFragmentPayloadLen m.payload.length < 2 ^ 16 := by
      have hf : maxFragmentPayloadLen = 1172 := rfl
      rw [chunkCount, hf]
      omega
    have hp : chunks maxFragmentPayloadLen m.payload =
        (range' 0 m.parts.length).map (chunkAt maxFragmentPayloadLen m.payload) := by
      rw [← range_eq_range', Message.parts, length_chunks]
      rfl
    simp only [if_neg hl, Op.check_bind_ok (ensure_of hu), Op.check_bind_ok (ensure_of hb),
      Op.check_bind_ok (ensure_of hc), Op.act_bind, hp]
    rw [sendFragments_parts _ hr hb _ 0 (Nat.zero_add _), if_pos hr,
      Message.datagrams, if_pos hr, range_eq_range']
  · have hs : m.payload.length ≤ maxCarrierPayloadLen := Nat.not_lt.mp hr
    rw [if_pos hs, sendDatagram_of_le _ s hs, if_neg hr, Message.datagrams, if_neg hr]

theorem carrier_codecs_faithful : (∀ kind payload bytes, encodeDatagram kind payload = .ok bytes ↔
      bytes.length ≤ maxUdpDatagramLen ∧ decodeDatagram bytes = .ok ⟨kind, payload⟩) ∧
    (∀ fragment bytes, encodeFragmentPayload fragment = .ok bytes ↔
      decodeFragmentPayload bytes = .ok fragment ∧ validateFragmentShape fragment = .ok ()) ∧
    ∀ kind payload (self : Outgoing), payload.length ≤ maxReassembledMessageLen →
      ∃ sent next, sendMessage kind payload self = (.ok (), ⟨next, self.wire ++ sent⟩) ∧
        (∀ datagram ∈ sent, datagram.length ≤ 1200) ∧
        if payload.length ≤ maxCarrierPayloadLen then
          ∃ datagram, encodeDatagram kind.completeDatagramKind payload = .ok datagram ∧
            sent = [datagram]
        else
          ∃ fragments : List FragmentPayload,
            List.Forall₂ (fun datagram fragment => encodeFragmentPayload fragment >>=
              encodeDatagram kind.fragmentDatagramKind = .ok datagram) sent fragments ∧
            (∀ fragment ∈ fragments, validateFragmentShape fragment = .ok ()) ∧
            fragments.map (·.chunkIndex) = List.range fragments.length ∧
            (fragments.map (·.payload)).flatten = payload := by
  refine ⟨fun _ _ _ => encodeDatagram_eq_ok_iff, fun _ _ => encodeFragmentPayload_eq_ok_iff, ?_⟩
  intro kind payload self hb
  let message : Message := ⟨kind, payload⟩
  have hn : sendMessage kind payload self = _ := @sendMessage_eq message hb self
  by_cases hs : payload.length ≤ maxCarrierPayloadLen
  · have he := @encodeDatagram_of_le kind.completeDatagramKind payload hs
    have hse : message.datagrams self.nextMessageId = [_] := if_neg (Nat.not_lt.mpr hs)
    refine ⟨_, _, hn, ?_, ?_⟩
    · intro datagram hm
      rw [hse, mem_singleton] at hm
      rw [hm]
      exact (encodeDatagram_eq_ok_iff.mp he).1
    · rw [if_pos hs]
      exact ⟨_, he, hse⟩
  · have hf : message.Fragmented := Nat.not_le.mp hs
    have hse : message.datagrams self.nextMessageId = _ := if_pos hf
    have hh (i : Nat) (hi : i ∈ range message.parts.length) :=
      message.wellShaped_fragment self.nextMessageId hf hb (mem_range.mp hi)
    have he (i : Nat) (hi : i ∈ range message.parts.length) :
        encodeDatagram kind.fragmentDatagramKind (message.fragment self.nextMessageId i).bytes =
          .ok (message.fragmentDatagram self.nextMessageId i) :=
      encodeDatagram_of_le (length_fragmentBytes_le (hh i hi))
    refine ⟨_, _, hn, ?_, ?_⟩
    · rw [hse, forall_mem_map]
      intro i hi
      exact (encodeDatagram_eq_ok_iff.mp (he i hi)).1
    rw [if_neg hs, hse]
    refine ⟨(range message.parts.length).map (message.fragment self.nextMessageId), ?_, ?_, ?_, ?_⟩
    · rw [forall₂_map_left_iff, forall₂_map_right_iff, forall₂_same]
      intro i hi
      rw [(hh i hi).encode]
      exact he i hi
    · rw [forall_mem_map]
      intro i hi
      exact validateFragmentShape_eq_ok_iff.mpr (hh i hi)
    · rw [map_map, length_map, length_range]
      exact map_id _
    · rw [map_map]
      have hp : (range message.parts.length).map
          (chunkAt maxFragmentPayloadLen payload) = message.parts := by
        rw [Message.parts, length_chunks]
        rfl
      exact (congrArg flatten hp).trans (flatten_chunks (by decide) payload)

end QuantumLink.Carrier
