import QuantumLink.Ice.Message
import QuantumLink.Foundation.Shake256

/-! # What the tag of a STUN message covers

A tag covers the bytes before it. The reader does not stop at the tag: whatever follows it is
returned with the rest. So an accepted message is as authentic as its password only where nothing
but the checksum follows the last tag.
-/

namespace QuantumLink.Ice

open QuantumLink.Frame (Xof)
open List

section Places

variable {transactionId : TransactionId} {offset : Nat} {rest : Bytes} {entry : Placed}
  {front back placed : List Placed}

theorem within_of_readAttributes (h : readAttributes transactionId offset rest = .ok placed) (hm : entry ∈ placed) :
    offset ≤ entry.start ∧ entry.start + 4 ≤ entry.stop ∧ entry.stop ≤ offset + rest.length := by
  induction placed generalizing offset rest with
  | nil => simp at hm
  | cons f m ih =>
    obtain ⟨a, s, ha, rfl, ho⟩ := readAttributes_eq_ok_cons h
    have hs := size_pos_of_readAttribute ha
    rcases mem_cons.mp hm with rfl | hm
    · exact ⟨le_refl _, by simp only; omega, by simp only; omega⟩
    · have hr := ih ho hm
      rw [length_drop] at hr
      omega

/-- The bytes before an attribute give the attributes before it, whatever bytes come next. -/
theorem readAttributes_split
    (h : readAttributes transactionId offset rest = .ok (front ++ entry :: back)) :
    ∃ pre post, rest = pre ++ post ∧ entry.start = offset + pre.length ∧
      readAttributes transactionId entry.start post = .ok (entry :: back) ∧
      ∀ tail, readAttributes transactionId offset (pre ++ tail) =
        (readAttributes transactionId entry.start tail).map (front ++ ·) := by
  induction front generalizing offset rest with
  | nil =>
    obtain ⟨a, size, _, he, _⟩ := readAttributes_eq_ok_cons h
    have hs : entry.start = offset := by rw [he]
    refine ⟨[], rest, rfl, by simp [hs], by rw [hs]; exact h, fun tail => ?_⟩
    rw [hs, nil_append]
    cases readAttributes transactionId offset tail <;> rfl
  | cons f front ih =>
    obtain ⟨a, size, ha, rfl, hm⟩ := readAttributes_eq_ok_cons h
    obtain ⟨pre, post, hr, hs, ho, hpr⟩ := ih hm
    obtain ⟨_, _, _, hi⟩ := readAttribute_eq_ok_iff.mp ha
    -- another attribute follows, so this one has all its padding
    have hlt : size < rest.length := by
      by_contra hle
      rw [drop_eq_nil_of_le (by omega), readAttributes_nil] at hm
      simp at hm
    have hp : paddedLen rest ≤ rest.length := by omega
    have ht : (rest.take size).length = size := by simp; omega
    refine ⟨rest.take size ++ pre, post, ?_, ?_, ho, fun tail => ?_⟩
    · rw [append_assoc, ← hr, take_append_drop]
    · rw [hs, length_append, ht, Nat.add_assoc]
    · rw [append_assoc,
        readAttributes_of_readAttribute (readAttribute_take_append ha hp (pre ++ tail)),
        drop_left' ht, hpr tail]
      cases readAttributes transactionId entry.start tail <;> rfl

theorem ordered_of_readAttributes
    (h : readAttributes transactionId offset rest = .ok (front ++ entry :: back)) :
    (∀ before ∈ front, before.stop ≤ entry.start) ∧ ∀ after ∈ back, entry.stop ≤ after.start := by
  obtain ⟨pre, p, _, hs, hp, hr⟩ := readAttributes_split h
  constructor
  · intro before hm
    have hfr := hr []
    rw [append_nil, readAttributes_nil] at hfr
    have hw := within_of_readAttributes hfr (by simpa using hm)
    omega
  · intro after hm
    obtain ⟨a, size, _, he, hb⟩ := readAttributes_eq_ok_cons hp
    have ht : entry.stop = entry.start + size := congrArg Placed.stop he
    have hw := within_of_readAttributes hb hm
    omega

end Places

theorem miOffset_eq_some_iff : miOffset placed = some offset ↔
      ∃ front entry back, placed = front ++ entry :: back ∧ entry.attr.digest.isSome ∧
        entry.start = offset ∧ ∀ after ∈ back, after.attr.digest = none := by
  rw [miOffset, getLast?_filterMap, findSome?_eq_some_iff]
  constructor
  · rintro ⟨back, entry, front, hr, he, hb⟩
    obtain ⟨digest, hd, hs⟩ := Option.map_eq_some_iff.mp he
    refine ⟨front.reverse, entry, back.reverse, ?_, by simp [hd], hs, ?_⟩
    · rw [← reverse_reverse placed, hr]
      simp
    · intro after hm
      simpa using hb after (mem_reverse.mp hm)
  · rintro ⟨front, entry, back, rfl, hd, rfl, hb⟩
    obtain ⟨digest, hd⟩ := Option.isSome_iff_exists.mp hd
    refine ⟨back.reverse, entry, front.reverse, by simp, by simp [hd], ?_⟩
    intro after hm
    simpa using hb after (mem_reverse.mp hm)

/-! ## Covered and trailing attributes -/

/-- Neither tag nor checksum. -/
def StunAttribute.Ordinary (self : StunAttribute) : Prop := self.digest = none ∧ self.checksum = none

instance : DecidablePred StunAttribute.Ordinary := fun self =>
  inferInstanceAs (Decidable (self.digest = none ∧ self.checksum = none))

def ordinary (attributes : List StunAttribute) : List StunAttribute :=
  attributes.filter fun attr => attr.Ordinary

/-- Every ordinary attribute lies in the bytes the checked tag is computed over. -/
def Covered (bytes : Bytes) : Prop :=
  ∃ placed offset, placedAttributes bytes = .ok placed ∧ miOffset placed = some offset ∧
    ∀ entry ∈ placed, entry.attr.Ordinary → entry.stop ≤ offset

/-- An ordinary attribute follows the last tag. -/
def Trailing (bytes : Bytes) : Prop :=
  ∃ front tag back, placedAttributes bytes = .ok (front ++ tag :: back) ∧
    tag.attr.digest.isSome ∧ (∀ after ∈ back, after.attr.digest = none) ∧
    ∃ after ∈ back, after.attr.Ordinary

variable {bytes : Bytes}

theorem not_trailing_of_covered (h : Covered bytes) : ¬Trailing bytes := by
  rintro ⟨f, tag, back, hpa, hta, hl, a, ha, ho⟩
  obtain ⟨p, offset, hp, hf, hc⟩ := h
  cases hp.symm.trans hpa
  have hs : miOffset (f ++ tag :: back) = some tag.start :=
    miOffset_eq_some_iff.mpr ⟨f, tag, back, rfl, hta, rfl, hl⟩
  cases hs.symm.trans hf
  have hm : a ∈ f ++ tag :: back := by simp [ha]
  have hst := hc a hm ho
  have hr := (ordered_of_readAttributes hp).2 a ha
  have ht := within_of_readAttributes hp (by simp : tag ∈ f ++ tag :: back)
  have haf := within_of_readAttributes hp hm
  omega

variable {crates : IceCrates} {password : String} {message : StunMessage}

/-- The attributes around the tag that an accepted message was checked against. -/
theorem exists_tag_of_decode (h : decode crates bytes (some password) = .ok message)
    (ht : ¬Trailing bytes) :
    ∃ front tag back, placedAttributes bytes = .ok (front ++ tag :: back) ∧
      miOffset (front ++ tag :: back) = some tag.start ∧ tag.attr.digest.isSome ∧
      ∀ after ∈ back, ¬after.attr.Ordinary := by
  obtain ⟨_, _, _, _, _, p, hp, _, _, ha⟩ := decode_eq_ok_iff.mp h
  obtain ⟨o, ho, _⟩ := checkIntegrity_eq_ok_iff.mp ha
  obtain ⟨front, tag, back, rfl, hd, rfl, hl⟩ := miOffset_eq_some_iff.mp ho
  exact ⟨front, tag, back, hp, ho, hd, fun after hm hr =>
      ht ⟨front, tag, back, hp, hd, hl, after, hm, hr⟩⟩

theorem covered_of_not_trailing (h : decode crates bytes (some password) = .ok message)
    (ht : ¬Trailing bytes) : Covered bytes := by
  obtain ⟨f, tag, b, hp, hof, hd, hb⟩ := exists_tag_of_decode h ht
  refine ⟨_, tag.start, hp, hof, fun e hm ho => ?_⟩
  rcases mem_append.mp hm with hf | hm
  · exact (ordered_of_readAttributes hp).1 e hf
  rcases mem_cons.mp hm with rfl | hm
  · simp [ho.1] at hd
  · exact absurd ho (hb e hm)

/-- The attributes a reader finds in the bytes a message writes for its own. -/
def StunMessage.written (self : StunMessage) : Except Device.QlinkError (List Placed) :=
  readAttributes self.transactionId headerLen self.attributeBytes

/-- A received message has the class, the transaction and the ordinary attributes of a sent one. -/
def Agrees (message sent : StunMessage) : Prop :=
  message.stunClass = sent.stunClass ∧ message.transactionId = sent.transactionId ∧
    ∃ placed, sent.written = .ok placed ∧
      ordinary message.attributes = ordinary (placed.map Placed.attr)

/-- Only who has the password can compute a tag: if received bytes carry the tag of what precedes
one of their tags, that part was signed. -/
def Unforgeable (crates : IceCrates) (password : String) (sent : List StunMessage)
    (bytes : Bytes) : Prop :=
  ∀ placed, placedAttributes bytes = .ok placed → ∀ tag ∈ placed, tag.attr.digest.isSome →
    ∀ entry ∈ placed, entry.attr.digest =
      some (computeMessageIntegrity crates (checkedBuffer bytes tag.start) password) →
    ∃ message ∈ sent, message.signedBuffer = checkedBuffer bytes tag.start

theorem signedBuffer_eq (s : StunMessage) : s.signedBuffer = headed s.stunClass
      (s.unsealed.length - headerLen + 4 + messageIntegrityLen) s.transactionId
      s.attributeBytes :=
  patchLength_headed ..

theorem ordinary_around_tag {tag : Placed}
    (ht : tag.attr.digest.isSome) (hba : ∀ after ∈ back, ¬after.attr.Ordinary) :
    ordinary ((front ++ tag :: back).map Placed.attr) = ordinary (front.map Placed.attr) := by
  have hno : ¬tag.attr.Ordinary := fun ho => by simp [ho.1] at ht
  have hn : ordinary (back.map Placed.attr) = [] := by
    simpa [ordinary] using hba
  rw [map_append, map_cons, ordinary, filter_append, filter_cons_of_neg (by simpa using hno)]
  exact (congrArg (ordinary (front.map Placed.attr) ++ ·) hn).trans (append_nil _)

theorem agrees_of_signed {sent : StunMessage}
    (h : decode crates bytes (some password) = .ok message)
    (hp : placedAttributes bytes = .ok (front ++ tag :: back))
    (hta : tag.attr.digest.isSome) (hba : ∀ after ∈ back, ¬after.attr.Ordinary)
    (hi : sent.signedBuffer = checkedBuffer bytes tag.start) : Agrees message sent := by
  obtain ⟨hl, _, ho, hcl, ht, placed, hp', ha, _⟩ := decode_eq_ok_iff.mp h
  cases hp.symm.trans hp'
  obtain ⟨pre, p, hr, hst, _, hpr⟩ := readAttributes_split hp
  have hb : (bytes.drop headerLen).take pre.length = pre := by
    have hle : pre.length ≤ bodyLen bytes := by
      have := congrArg length hr
      rw [length_take, length_append] at this
      omega
    rw [← min_eq_left hle, ← take_take, hr, take_left]
  -- the checked bytes are a header and the bytes of the attributes before the tag
  have hc : checkedBuffer bytes tag.start =
      headed message.stunClass (tag.start + 4 + messageIntegrityLen - headerLen)
        message.transactionId pre := by
    rw [checkedBuffer, eq_headed hl hcl ho, hst, take_add_headed, patchLength_headed, hb, ht]
  rw [hc, signedBuffer_eq] at hi
  obtain ⟨hsa, hs, hm⟩ := headed_inj hi
  refine ⟨hsa.symm, hs.symm, front, ?_, ?_⟩
  · have hfr := hpr []
    rw [append_nil, readAttributes_nil, ← ht, ← hs, ← hm]
      at hfr
    rw [StunMessage.written, hfr]
    simp [Except.map]
  · rw [ha, ordinary_around_tag hta hba]

/-- Accepted bytes say what was signed exactly when no ordinary attribute follows the tag. -/
theorem accepted_authentic_iff {crates : IceCrates} {bytes : Bytes} {password : String}
    {message : StunMessage} (h : decode crates bytes (some password) = .ok message) :
    (Covered bytes ∧ ∀ sent, Unforgeable crates password sent bytes →
      ∃ original ∈ sent, Agrees message original) ↔ ¬Trailing bytes := by
  constructor
  · rintro ⟨hc, _⟩
    exact not_trailing_of_covered hc
  · intro ht
    refine ⟨covered_of_not_trailing h ht, fun sent hu => ?_⟩
    obtain ⟨f, tag, b, hp, hf, hd, hb⟩ := exists_tag_of_decode h ht
    obtain ⟨_, _, _, _, _, placed, hp', _, _, ha⟩ := decode_eq_ok_iff.mp h
    cases hp.symm.trans hp'
    obtain ⟨offset, hsa, ho⟩ := checkIntegrity_eq_ok_iff.mp ha
    cases hf.symm.trans hsa
    obtain ⟨e, he, hv⟩ := exists_of_findSome?_eq_some ho
    obtain ⟨original, hse, hs⟩ := hu _ hp tag (by simp) hd e he hv
    exact ⟨original, hse, agrees_of_signed h hp hd hb hs⟩

/-! ## An attribute added on the way -/

/-- A signed message without its checksum, and some bytes after its tag. -/
def extended (crates : IceCrates) (password : String) (sent : StunMessage) (tail : Bytes) : Bytes :=
  patchLength (sent.withIntegrity crates (some password))
    ((sent.withIntegrity crates (some password)).length - headerLen + tail.length) ++ tail

def placedTag (crates : IceCrates) (password : String) (sent : StunMessage) : Placed :=
  let start := headerLen + sent.attributeBytes.length
  ⟨start, start + 24, .messageIntegrity (computeMessageIntegrity crates sent.signedBuffer password)⟩

section Extended

variable {crates : IceCrates} {password : String} {sent : StunMessage} {tail : Bytes}
  {front back : List Placed}

theorem length_pushTag (d : Fixed messageIntegrityLen) :
    (pushAttribute attrMessageIntegrity d.val).length = 24 := by
  rw [length_pushAttribute, d.2]
  rfl

theorem extended_eq (crates : IceCrates) (password : String) (sent : StunMessage) (tail : Bytes) :
    extended crates password sent tail =
      headed sent.stunClass (sent.attributeBytes.length + 24 + tail.length) sent.transactionId
        (sent.attributeBytes ++ (pushAttribute attrMessageIntegrity
          (computeMessageIntegrity crates sent.signedBuffer password).val ++ tail)) := by
  have hs : sent.withIntegrity crates (some password) =
      headed sent.stunClass (sent.unsealed.length - headerLen + 4 + messageIntegrityLen)
        sent.transactionId (sent.attributeBytes ++ pushAttribute attrMessageIntegrity
          (computeMessageIntegrity crates sent.signedBuffer password).val) := by
    rw [← headed_append, ← signedBuffer_eq, StunMessage.withIntegrity]
  rw [extended, hs, patchLength_headed, length_headed, headed_append, append_assoc,
    length_append, length_pushTag, Nat.add_sub_cancel_left]

theorem readAttributeValue_messageIntegrity (transactionId : TransactionId)
    (digest : Fixed messageIntegrityLen) :
    readAttributeValue transactionId attrMessageIntegrity digest.val =
      .ok (.messageIntegrity digest) := by
  have hc : Fixed.copy messageIntegrityLen digest.val = digest :=
    Subtype.ext (Fixed.val_copy digest.2)
  simp [readAttributeValue, attrMessageIntegrity, attrUsername, ensure, digest.2, hc, bind,
    Except.bind, pure, Except.pure]

theorem checkedBuffer_extended : checkedBuffer (extended crates password sent tail)
      (headerLen + sent.attributeBytes.length) = sent.signedBuffer := by
  rw [checkedBuffer, extended_eq, take_add_headed, patchLength_headed, take_left,
    signedBuffer_eq, StunMessage.unsealed, length_headed]
  congr 1
  omega

theorem unforgeable_extended (hl : placedAttributes (extended crates password sent tail) =
      .ok (front ++ placedTag crates password sent :: back))
    (ho : ∀ entry ∈ front ++ back, entry.attr.Ordinary) :
    Unforgeable crates password [sent] (extended crates password sent tail) := by
  intro placed hr tag ht hd _ _ _
  cases hl.symm.trans hr
  have hp : tag ∈ front ++ back → False := fun hm => by
    simp [(ho tag hm).1] at hd
  obtain rfl : tag = placedTag crates password sent := by
    rcases mem_append.mp ht with hm | hm
    · exact (hp (mem_append_left _ hm)).elim
    rcases mem_cons.mp hm with hm | hm
    · exact hm
    · exact (hp (mem_append_right _ hm)).elim
  exact ⟨sent, mem_singleton_self _, checkedBuffer_extended.symm⟩

variable
  (hfr : ∀ bytes, readAttributes sent.transactionId headerLen (sent.attributeBytes ++ bytes) =
    (readAttributes sent.transactionId (headerLen + sent.attributeBytes.length) bytes).map (front ++ ·))
  (hba : readAttributes sent.transactionId (headerLen + sent.attributeBytes.length + 24) tail =
    .ok back)
  (hfi : sent.attributeBytes.length + 24 + tail.length < 256 ^ 2)

include hfr hba hfi

theorem placedAttributes_extended (crates : IceCrates) (password : String) :
    placedAttributes (extended crates password sent tail) =
      .ok (front ++ placedTag crates password sent :: back) := by
  have hv := readAttributeValue_messageIntegrity sent.transactionId
    (computeMessageIntegrity crates sent.signedBuffer password)
  rw [placedAttributes, extended_eq, transactionIdOf_headed, drop_headed, bodyLen_headed,
    Nat.mod_eq_of_lt hfi, take_of_length_le (by simp [length_pushTag]; omega), hfr,
    readAttributes_pushAttribute (by decide)
      (by rw [(computeMessageIntegrity crates sent.signedBuffer password).2]; decide) hv,
    length_pushTag, hba]
  rfl

/-- A signed message stays acceptable with any bytes after its tag that read as attributes. -/
theorem decode_extended (ho : ∀ entry ∈ front ++ back, entry.attr.Ordinary) :
    decode crates (extended crates password sent tail) (some password) =
      .ok ⟨sent.stunClass, sent.transactionId,
        (front ++ placedTag crates password sent :: back).map Placed.attr⟩ := by
  have hp := placedAttributes_extended hfr hba hfi crates password
  have hf : miOffset (front ++ placedTag crates password sent :: back) =
      some (headerLen + sent.attributeBytes.length) :=
    miOffset_eq_some_iff.mpr ⟨front, _, back, rfl, rfl, rfl,
      fun a hm => (ho a (mem_append_right _ hm)).1⟩
  have hn : fingerprintOffset (front ++ placedTag crates password sent :: back) = none := by
    rw [fingerprintOffset, getLast?_filterMap, findSome?_eq_none_iff]
    intro entry hm
    rcases mem_append.mp (mem_reverse.mp hm) with hm | hm
    · simp [(ho entry (mem_append_left _ hm)).2]
    rcases mem_cons.mp hm with rfl | hm
    · rfl
    · simp [(ho entry (mem_append_right _ hm)).2]
  have hob : (front ++ placedTag crates password sent :: back).findSome?
      (fun entry => entry.attr.digest) =
        some (computeMessageIntegrity crates sent.signedBuffer password) :=
    findSome?_eq_some_iff.mpr ⟨front, _, back, rfl, rfl,
      fun entry hm => (ho entry (mem_append_left _ hm)).1⟩
  have hb := extended_eq crates password sent tail
  have hl : (extended crates password sent tail).length =
      headerLen + (sent.attributeBytes.length + 24 + tail.length) := by
    rw [hb, length_headed, length_append, length_append, length_pushTag]
    omega
  rw [decode_eq_ok_iff]
  refine ⟨by omega, ?_, ?_, ?_, ?_, _, hp, rfl, ?_, ?_⟩
  · rw [hl, hb, bodyLen_headed, Nat.mod_eq_of_lt hfi]
  · rw [hb, cookie_headed]
  · rw [hb, ofBigEndian_take_headed, fromMessageType_messageType]
  · rw [hb, transactionIdOf_headed]
  · rw [checkFingerprint, hn]
  · rw [checkIntegrity_eq_ok_iff]
    exact ⟨_, hf, by rw [checkedBuffer_extended, hob]⟩

end Extended

/-- The checksum of the crate: the reflected polynomial, bit by bit. -/
def crc32 (bytes : Bytes) : UInt32 :=
  ~~~bytes.foldl
    (fun crc byte => (List.range 8).foldl
      (fun crc _ => if crc &&& 1 = 1 then (crc >>> 1) ^^^ 0xEDB88320 else crc >>> 1)
      (crc ^^^ byte.toUInt32)) 0xFFFFFFFF

example : crc32 [0x31, 0x32, 0x33, 0x34, 0x35, 0x36, 0x37, 0x38, 0x39] = 0xCBF43926 := by
  decide +kernel

def sampleCrates : IceCrates := ⟨⟨Shake256.hash, Shake256.length_hash⟩, crc32⟩

/-- A check that does not nominate its pair. -/
def sampleRequest : StunMessage :=
  ⟨.request, ⟨List.replicate transactionIdLen 7, List.length_replicate⟩, [.priority 1]⟩

def sampleFront : List Placed := [⟨20, 28, .priority 1⟩]

theorem readAttributes_sampleRequest (bytes : Bytes) :
    readAttributes sampleRequest.transactionId headerLen (sampleRequest.attributeBytes ++ bytes) =
      (readAttributes sampleRequest.transactionId
        (headerLen + sampleRequest.attributeBytes.length) bytes).map (sampleFront ++ ·) := by
  have hb : sampleRequest.attributeBytes = pushAttribute attrPriority (bigEndian 4 1) := by
    decide
  have hv : readAttributeValue sampleRequest.transactionId attrPriority (bigEndian 4 1) =
      .ok (.priority 1) := rfl
  rw [hb, readAttributes_pushAttribute (by decide) (by decide) hv]
  rfl

/-- The bytes of the request with a nomination after the tag. -/
def nominated : Bytes :=
  extended sampleCrates "check-password" sampleRequest (pushAttribute attrUseCandidate [])

def nominatedBack : List Placed := [⟨52, 56, .useCandidate⟩]

theorem readAttributes_nomination :
    readAttributes sampleRequest.transactionId (headerLen + sampleRequest.attributeBytes.length + 24)
      (pushAttribute attrUseCandidate []) = .ok nominatedBack := by
  decide

theorem nominated_ordinary : ∀ entry ∈ sampleFront ++ nominatedBack, entry.attr.Ordinary := by
  decide

/-- Without the password a nomination is added to a check that had none. -/
theorem nominated_accepted :
    Unforgeable sampleCrates "check-password" [sampleRequest] nominated ∧ ¬Covered nominated ∧
      ∃ message, decode sampleCrates nominated (some "check-password") = .ok message ∧
        StunAttribute.useCandidate ∈ message.attributes ∧
        ∀ original ∈ [sampleRequest], ¬Agrees message original := by
  have hp := placedAttributes_extended readAttributes_sampleRequest readAttributes_nomination
    (by decide) sampleCrates "check-password"
  have ht : Trailing nominated := ⟨sampleFront, _, nominatedBack, hp, rfl, by decide, by decide⟩
  refine ⟨unforgeable_extended hp nominated_ordinary, fun hc => not_trailing_of_covered hc ht, _,
    decode_extended readAttributes_sampleRequest readAttributes_nomination (by decide)
      nominated_ordinary, by decide, ?_⟩
  intro original hm ha
  obtain rfl := mem_singleton.mp hm
  obtain ⟨_, _, placed, hw, ho⟩ := ha
  have hr : sampleRequest.written = .ok sampleFront := by decide
  cases hr.symm.trans hw
  exact absurd (congrArg length ho) (by decide)

/-- The same request with only its checksum removed. -/
def unsummed : Bytes := extended sampleCrates "check-password" sampleRequest []

theorem placedAttributes_unsummed : placedAttributes unsummed =
      .ok (sampleFront ++ [placedTag sampleCrates "check-password" sampleRequest]) :=
  placedAttributes_extended readAttributes_sampleRequest (readAttributes_nil _ _) (by decide) _ _

theorem covered_unsummed : Covered unsummed := by
  refine ⟨_, 28, placedAttributes_unsummed, rfl, fun e hm ho => ?_⟩
  rcases mem_append.mp hm with hm | hm
  · obtain rfl := mem_singleton.mp hm
    decide
  · obtain rfl := mem_singleton.mp hm
    exact absurd ho.1 (by simp [placedTag, StunAttribute.digest])

theorem unsummed_authentic :
    ∃ message, decode sampleCrates unsummed (some "check-password") = .ok message ∧
      Agrees message sampleRequest := by
  have hp : ∀ entry ∈ sampleFront ++ [], entry.attr.Ordinary := by decide
  have hd : decode sampleCrates unsummed (some "check-password") = _ :=
    decode_extended readAttributes_sampleRequest (readAttributes_nil _ _) (by decide) hp
  have hs := unforgeable_extended placedAttributes_unsummed hp
  obtain ⟨o, hm, ha⟩ :=
    ((accepted_authentic_iff hd).mpr (not_trailing_of_covered covered_unsummed)).2
      [sampleRequest] hs
  exact ⟨_, hd, mem_singleton.mp hm ▸ ha⟩

end QuantumLink.Ice
