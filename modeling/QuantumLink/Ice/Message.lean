import QuantumLink.Frame.Protector

/-! # STUN messages

The binding messages of the connectivity checks: a header of twenty bytes and attributes padded to
four bytes each. A tag of the password over what precedes it, and a checksum over what precedes
that, are attributes of their own. The reader goes from attribute to attribute; where the last one
is not padded it stops at the end of the message. SHAKE256 and the checksum belong to other crates
and are parameters.
-/

namespace QuantumLink.Ice

open Device (QlinkError)
open QuantumLink.Frame (Xof constantTimeEq constantTimeEq_iff)
open Json (stringBytes)
open List

structure IceCrates where
  shake256 : Xof
  crc32 : Bytes → UInt32

/-- An array of a fixed length. -/
abbrev Fixed (length : Nat) := { bytes : Bytes // bytes.length = length }

/-- Bytes copied into a zeroed array. -/
def Fixed.copy (length : Nat) (bytes : Bytes) : Fixed length :=
  ⟨(bytes ++ List.replicate length 0).take length, by simp⟩

theorem Fixed.val_copy {length : Nat} {bytes : Bytes} (h : bytes.length = length) :
    (Fixed.copy length bytes).val = bytes :=
  take_left' h

def headerLen : Nat := 20
def transactionIdLen : Nat := 12
def magicCookie : UInt32 := 0x2112A442
def fingerprintXor : UInt32 := 0x5354554E
def messageIntegrityLen : Nat := 20
def fingerprintLen : Nat := 4

abbrev TransactionId := Fixed transactionIdLen

inductive StunClass where
  | request
  | indication
  | successResponse
  | errorResponse

inductive SocketAddr where
  | v4 (ip : UInt32) (port : UInt16)
  | v6 (octets : Fixed 16) (port : UInt16) (flowinfo scopeId : UInt32)
deriving DecidableEq

inductive StunAttribute where
  | username (name : String)
  | messageIntegrity (digest : Fixed messageIntegrityLen)
  | fingerprint (value : UInt32)
  | priority (value : UInt32)
  | iceControlling (tiebreaker : UInt64)
  | iceControlled (tiebreaker : UInt64)
  | useCandidate
  | xorMappedAddress (address : SocketAddr)
  | errorCode (code : UInt16) (reason : String)
  | unknown (typeCode : UInt16) (value : Bytes)
deriving DecidableEq

structure StunMessage where
  stunClass : StunClass
  transactionId : TransactionId
  attributes : List StunAttribute

def StunClass.messageType : StunClass → Nat
  | .request => 0x0001
  | .indication => 0x0011
  | .successResponse => 0x0101
  | .errorResponse => 0x0111

def StunClass.fromMessageType (value : Nat) : Except QlinkError StunClass :=
  if value = 0x0001 then .ok .request
  else if value = 0x0011 then .ok .indication
  else if value = 0x0101 then .ok .successResponse
  else if value = 0x0111 then .ok .errorResponse
  else .error (.protocol ("unsupported STUN message type 0x" ++ Hex.encode (bigEndian 2 value)))

def attrUsername : Nat := 0x0006
def attrMessageIntegrity : Nat := 0x0008
def attrErrorCode : Nat := 0x0009
def attrXorMappedAddress : Nat := 0x0020
def attrPriority : Nat := 0x0024
def attrUseCandidate : Nat := 0x0025
def attrFingerprint : Nat := 0x8028
def attrIceControlled : Nat := 0x8029
def attrIceControlling : Nat := 0x802A

def paddingLen (valueLen : Nat) : Nat := (4 - valueLen % 4) % 4

def pushAttribute (typeCode : Nat) (value : Bytes) : Bytes :=
  bigEndian 2 typeCode ++ (bigEndian 2 value.length ++
    (value ++ List.replicate (paddingLen value.length) 0))

def cookieMask (transactionId : TransactionId) : Bytes :=
  bigEndian 4 magicCookie.toNat ++ transactionId.val

def portMask : UInt16 := UInt16.ofNat (magicCookie.toNat / 2 ^ 16)

def encodeXorMappedAddress (transactionId : TransactionId) : SocketAddr → Bytes
  | .v4 ip port =>
    0 :: 0x01 :: (bigEndian 2 (port ^^^ portMask).toNat ++ bigEndian 4 (ip ^^^ magicCookie).toNat)
  | .v6 octets port _ _ =>
    0 :: 0x02 :: (bigEndian 2 (port ^^^ portMask).toNat ++
      List.zipWith (· ^^^ ·) octets.val (cookieMask transactionId))

def encodeAttribute (transactionId : TransactionId) : StunAttribute → Bytes
  | .username name => pushAttribute attrUsername (stringBytes name)
  | .priority value => pushAttribute attrPriority (bigEndian 4 value.toNat)
  | .iceControlling tiebreaker => pushAttribute attrIceControlling (bigEndian 8 tiebreaker.toNat)
  | .iceControlled tiebreaker => pushAttribute attrIceControlled (bigEndian 8 tiebreaker.toNat)
  | .useCandidate => pushAttribute attrUseCandidate []
  | .xorMappedAddress address =>
    pushAttribute attrXorMappedAddress (encodeXorMappedAddress transactionId address)
  | .errorCode code reason =>
    pushAttribute attrErrorCode (0 :: 0 :: (UInt8.ofNat (code.toNat / 100) &&& 7) ::
      UInt8.ofNat (code.toNat % 100) :: stringBytes reason)
  | .unknown typeCode value => pushAttribute typeCode.toNat value
  -- written afresh at the end
  | .messageIntegrity _ => []
  | .fingerprint _ => []

def computeMessageIntegrity (crates : IceCrates) (buffer : Bytes) (password : String) :
    Fixed messageIntegrityLen :=
  ⟨crates.shake256.read messageIntegrityLen
    (stringBytes "QuantumLink ICE MESSAGE-INTEGRITY SHAKE256 v1" ++
      (lenPrefixed (stringBytes password) ++ lenPrefixed buffer)), crates.shake256.length_read _ _⟩

/-- The length field of the header is overwritten. -/
def patchLength (buffer : Bytes) (bodyLen : Nat) : Bytes :=
  buffer.take 2 ++ (bigEndian 2 bodyLen ++ buffer.drop 4)

/-- A header and what follows it. -/
def headed (stunClass : StunClass) (bodyLen : Nat) (transactionId : TransactionId) (rest : Bytes) :
    Bytes :=
  bigEndian 2 stunClass.messageType ++ (bigEndian 2 bodyLen ++ (bigEndian 4 magicCookie.toNat ++
    (transactionId.val ++ rest)))

variable (self : StunMessage)

def StunMessage.attributeBytes : Bytes :=
  self.attributes.flatMap (encodeAttribute self.transactionId)

/-- Header and attributes, the length not yet filled in. -/
def StunMessage.unsealed : Bytes :=
  headed self.stunClass 0 self.transactionId self.attributeBytes

/-- What the tag is computed over: the length already counts the tag. -/
def StunMessage.signedBuffer : Bytes :=
  patchLength self.unsealed (self.unsealed.length - headerLen + 4 + messageIntegrityLen)

def StunMessage.withIntegrity (crates : IceCrates) (self : StunMessage) : Option String → Bytes
  | some password =>
    self.signedBuffer ++ pushAttribute attrMessageIntegrity
      (computeMessageIntegrity crates self.signedBuffer password).val
  | none => self.unsealed

def StunMessage.encode (crates : IceCrates) (self : StunMessage) (miPassword : Option String) :
    Bytes :=
  let buffer := self.withIntegrity crates miPassword
  let patched := patchLength buffer (buffer.length - headerLen + 4 + fingerprintLen)
  patched ++ pushAttribute attrFingerprint
    (bigEndian 4 (crates.crc32 patched ^^^ fingerprintXor).toNat)

def fromUtf8 (bytes : Bytes) : Option String :=
  (bytes.toByteArray.utf8Decode?).map fun text => String.ofList text.toList

def parseXorMappedAddress (transactionId : TransactionId) (value : Bytes) :
    Except QlinkError SocketAddr :=
  if value.length < 4 ∨ value.getD 0 0 ≠ 0 then
    .error (.protocol "invalid XOR-MAPPED-ADDRESS header")
  else
    let port := UInt16.ofNat (ofBigEndian ((value.drop 2).take 2)) ^^^ portMask
    if value.getD 1 0 = 0x01 then
      if value.length < 8 then .error (.protocol "truncated IPv4 XOR-MAPPED-ADDRESS")
      else .ok (.v4 (UInt32.ofNat (ofBigEndian ((value.drop 4).take 4)) ^^^ magicCookie) port)
    else if value.getD 1 0 = 0x02 then
      if value.length < 20 then .error (.protocol "truncated IPv6 XOR-MAPPED-ADDRESS")
      else
        .ok (.v6 (.copy 16 (List.zipWith (· ^^^ ·) ((value.drop 4).take 16)
          (cookieMask transactionId))) port 0 0)
    else
      .error (.protocol ("unsupported XOR-MAPPED-ADDRESS family: " ++
        toString (value.getD 1 0).toNat))

def readAttributeValue (transactionId : TransactionId) (attrType : Nat) (value : Bytes) :
    Except QlinkError StunAttribute :=
  if attrType = attrUsername then
    (okOr (fromUtf8 value) (.protocol "STUN USERNAME is not UTF-8")).map .username
  else if attrType = attrMessageIntegrity then do
    ensure (value.length = messageIntegrityLen)
      (.protocol "MESSAGE-INTEGRITY length must be 20 bytes")
    pure (.messageIntegrity (.copy messageIntegrityLen value))
  else if attrType = attrFingerprint then do
    ensure (value.length = fingerprintLen) (.protocol "FINGERPRINT length must be 4 bytes")
    pure (.fingerprint (UInt32.ofNat (ofBigEndian value)))
  else if attrType = attrPriority then do
    ensure (value.length = 4) (.protocol "PRIORITY length must be 4 bytes")
    pure (.priority (UInt32.ofNat (ofBigEndian value)))
  else if attrType = attrUseCandidate then do
    ensure (value.length = 0) (.protocol "USE-CANDIDATE must be empty")
    pure .useCandidate
  else if attrType = attrIceControlling ∨ attrType = attrIceControlled then do
    ensure (value.length = 8) (.protocol "ICE-CONTROLLING/CONTROLLED must be 8 bytes")
    let tiebreaker := UInt64.ofNat (ofBigEndian value)
    pure (if attrType = attrIceControlling then .iceControlling tiebreaker
      else .iceControlled tiebreaker)
  else if attrType = attrXorMappedAddress then
    (parseXorMappedAddress transactionId value).map .xorMappedAddress
  else if attrType = attrErrorCode then do
    ensure (4 ≤ value.length) (.protocol "ERROR-CODE too short")
    let code := (value.getD 2 0 &&& 7).toNat * 100 + (value.getD 3 0).toNat
    let reason ← okOr (fromUtf8 (value.drop 4)) (.protocol "ERROR-CODE reason not UTF-8")
    pure (.errorCode (UInt16.ofNat code) reason)
  else pure (.unknown (UInt16.ofNat attrType) value)

def attrType (rest : Bytes) : Nat := ofBigEndian (rest.take 2)

def attrLen (rest : Bytes) : Nat := ofBigEndian ((rest.drop 2).take 2)

def attrValue (rest : Bytes) : Bytes := (rest.drop 4).take (attrLen rest)

/-- The bytes an attribute takes up, its padding included. -/
def paddedLen (rest : Bytes) : Nat := 4 + attrLen rest + paddingLen (attrLen rest)

/-- One round of the loop: the attribute at the front, and how far the next one is. -/
def readAttribute (transactionId : TransactionId) (rest : Bytes) :
    Except QlinkError (StunAttribute × Nat) := do
  ensure (4 ≤ rest.length) (.protocol "truncated STUN attribute header")
  ensure (4 + attrLen rest ≤ rest.length) (.protocol "truncated STUN attribute value")
  let attr ← readAttributeValue transactionId (attrType rest) (attrValue rest)
  pure (attr, min (paddedLen rest) rest.length)

/-- An attribute with the bytes it takes up, from `start` up to `stop`. -/
structure Placed where
  start : Nat
  stop : Nat
  attr : StunAttribute
deriving DecidableEq

/-- The loop. A round takes at least four bytes, so there are fewer rounds than bytes. -/
def readRounds (transactionId : TransactionId) : Nat → Nat → Bytes →
    Except QlinkError (List Placed)
  | 0, _, _ => .ok []
  | rounds + 1, offset, rest =>
    if rest = [] then .ok []
    else do
      let (attr, size) ← readAttribute transactionId rest
      let more ← readRounds transactionId rounds (offset + size) (rest.drop size)
      pure (⟨offset, offset + size, attr⟩ :: more)

def readAttributes (transactionId : TransactionId) (offset : Nat) (rest : Bytes) :
    Except QlinkError (List Placed) :=
  readRounds transactionId rest.length offset rest

def StunAttribute.digest : StunAttribute → Option (Fixed messageIntegrityLen)
  | .messageIntegrity digest => some digest
  | _ => none

def StunAttribute.checksum : StunAttribute → Option UInt32
  | .fingerprint value => some value
  | _ => none

def miOffset (placed : List Placed) : Option Nat :=
  (placed.filterMap fun entry => entry.attr.digest.map fun _ => entry.start).getLast?

def fingerprintOffset (placed : List Placed) : Option Nat :=
  (placed.filterMap fun entry => entry.attr.checksum.map fun _ => entry.start).getLast?

def checkFingerprint (crates : IceCrates) (bytes : Bytes) (placed : List Placed) :
    Except QlinkError Unit :=
  match fingerprintOffset placed with
  | none => .ok ()
  | some offset => do
      let buffer := patchLength (bytes.take offset) (offset + 4 + fingerprintLen - headerLen)
      let observed ← okOr (placed.filterMap fun entry => entry.attr.checksum).getLast?
        (.protocol "FINGERPRINT attribute missing despite offset")
      ensure (crates.crc32 buffer ^^^ fingerprintXor = observed)
        (.protocol "STUN FINGERPRINT validation failed")

/-- What the tag at the offset is checked against: the bytes before it. -/
def checkedBuffer (bytes : Bytes) (offset : Nat) : Bytes :=
  patchLength (bytes.take offset) (offset + 4 + messageIntegrityLen - headerLen)

/-- The offset is that of the last tag, the value that of the first. -/
def checkIntegrity (crates : IceCrates) (bytes : Bytes) (placed : List Placed) (password : String) :
    Except QlinkError Unit := do
  let offset ← okOr (miOffset placed) (.protocol
    "STUN message has no MESSAGE-INTEGRITY attribute but caller required one")
  let observed ← okOr (placed.findSome? fun entry => entry.attr.digest)
    (.protocol "MESSAGE-INTEGRITY attribute missing despite offset")
  let expected := computeMessageIntegrity crates (checkedBuffer bytes offset) password
  ensure (constantTimeEq expected.val observed.val = true)
    (.protocol "STUN MESSAGE-INTEGRITY verification failed")

def bodyLen (bytes : Bytes) : Nat := ofBigEndian ((bytes.drop 2).take 2)

def transactionIdOf (bytes : Bytes) : TransactionId :=
  .copy transactionIdLen ((bytes.drop 8).take transactionIdLen)

def placedAttributes (bytes : Bytes) : Except QlinkError (List Placed) :=
  readAttributes (transactionIdOf bytes) headerLen ((bytes.drop headerLen).take (bodyLen bytes))

def decode (crates : IceCrates) (bytes : Bytes) (miPassword : Option String) :
    Except QlinkError StunMessage := do
  ensure (headerLen ≤ bytes.length) (.protocol "STUN message too short")
  let stunClass ← StunClass.fromMessageType (ofBigEndian (bytes.take 2))
  ensure (headerLen + bodyLen bytes ≤ bytes.length)
    (.protocol ("STUN body claims " ++ toString (bodyLen bytes) ++ " bytes but message is " ++
      toString (bytes.length - headerLen) ++ " bytes"))
  ensure (ofBigEndian ((bytes.drop 4).take 4) = magicCookie.toNat)
    (.protocol "invalid STUN magic cookie")
  let placed ← placedAttributes bytes
  checkFingerprint crates bytes placed
  match miPassword with
  | some password => checkIntegrity crates bytes placed password
  | none => pure ()
  pure ⟨stunClass, transactionIdOf bytes, placed.map Placed.attr⟩

section Headers

variable (stunClass : StunClass) (length : Nat) (transactionId : TransactionId) (rest : Bytes)

theorem fromMessageType_messageType :
    StunClass.fromMessageType stunClass.messageType = .ok stunClass := by
  cases stunClass <;> rfl

theorem fromMessageType_eq_ok {stunClass : StunClass}
    (h : StunClass.fromMessageType value = .ok stunClass) : value = stunClass.messageType := by
  simp only [StunClass.fromMessageType] at h
  split_ifs at h with h1 h2 h3 h4 <;> cases h <;> assumption

theorem length_headed : (headed stunClass length transactionId rest).length =
    headerLen + rest.length := by
  simp only [headed, length_append, length_bigEndian, transactionId.2, headerLen, transactionIdLen]
  omega

theorem headed_append (t : Bytes) : headed stunClass length transactionId rest ++ t =
      headed stunClass length transactionId (rest ++ t) := by
  simp [headed]

theorem take_headed : (headed stunClass length transactionId rest).take 2 =
    bigEndian 2 stunClass.messageType :=
  take_left' (length_bigEndian 2 _)

theorem drop_four_headed : (headed stunClass length transactionId rest).drop 4 =
    bigEndian 4 magicCookie.toNat ++ (transactionId.val ++ rest) := by
  have hf : (bigEndian 2 stunClass.messageType ++ bigEndian 2 length).length = 4 := by simp
  rw [headed, ← append_assoc, drop_left' hf]

theorem patchLength_headed (b : Nat) : patchLength (headed stunClass length transactionId rest) b =
      headed stunClass b transactionId rest := by
  rw [patchLength, take_headed, drop_four_headed, headed]

theorem ofBigEndian_take_headed :
    ofBigEndian ((headed stunClass length transactionId rest).take 2) = stunClass.messageType := by
  rw [take_headed, ofBigEndian_bigEndian]
  cases stunClass <;> rfl

theorem bodyLen_headed :
    bodyLen (headed stunClass length transactionId rest) = length % 256 ^ 2 := by
  rw [bodyLen, headed, drop_left' (length_bigEndian 2 _),
    take_left' (length_bigEndian 2 _), ofBigEndian_bigEndian]

theorem cookie_headed : ofBigEndian (((headed stunClass length transactionId rest).drop 4).take 4) =
      magicCookie.toNat := by
  rw [drop_four_headed, take_left' (length_bigEndian 4 _), ofBigEndian_bigEndian]
  rfl

theorem drop_eight_headed : (headed stunClass length transactionId rest).drop 8 =
    transactionId.val ++ rest := by
  rw [show 8 = 4 + 4 from rfl, ← drop_drop, drop_four_headed, drop_left' (length_bigEndian 4 _)]

theorem transactionIdOf_headed :
    transactionIdOf (headed stunClass length transactionId rest) = transactionId := by
  apply Subtype.ext
  rw [transactionIdOf, drop_eight_headed, take_left' transactionId.2,
    Fixed.val_copy transactionId.2]

theorem drop_headed : (headed stunClass length transactionId rest).drop headerLen = rest := by
  rw [show headerLen = 8 + transactionIdLen from rfl, ← drop_drop, drop_eight_headed,
    drop_left' transactionId.2]

theorem take_add_headed (c : Nat) :
    (headed stunClass length transactionId rest).take (headerLen + c) =
      headed stunClass length transactionId (rest.take c) := by
  have hs : headed stunClass length transactionId rest =
      headed stunClass length transactionId [] ++ rest := (headed_append _ _ _ [] rest).symm
  have hl : (headed stunClass length transactionId []).length = headerLen := length_headed ..
  rw [hs, take_append, hl, Nat.add_sub_cancel_left, take_of_length_le (by omega),
    headed_append, nil_append]

theorem eq_headed {b : Bytes} {stunClass : StunClass} (hl : headerLen ≤ b.length)
    (hcl : StunClass.fromMessageType (ofBigEndian (b.take 2)) = .ok stunClass)
    (ho : ofBigEndian ((b.drop 4).take 4) = magicCookie.toNat) :
    b = headed stunClass (bodyLen b) (transactionIdOf b) (b.drop headerLen) := by
  have hs : ∀ start count : Nat, start + count ≤ headerLen →
      ((b.drop start).take count).length = count := by
    intro start count hle
    rw [length_take, length_drop]
    omega
  have hr : ∀ start count : Nat, start + count ≤ headerLen →
      bigEndian count (ofBigEndian ((b.drop start).take count)) = (b.drop start).take count := by
    intro start count hle
    have hro := bigEndian_ofBigEndian ((b.drop start).take count)
    rwa [hs start count hle] at hro
  have hy := hr 0 2 (by decide)
  have hb := hr 2 2 (by decide)
  have hc := hr 4 4 (by decide)
  have ht : (transactionIdOf b).val = (b.drop 8).take transactionIdLen :=
    Fixed.val_copy (hs 8 transactionIdLen (by decide))
  rw [drop_zero, fromMessageType_eq_ok hcl] at hy
  rw [ho] at hc
  have hj : ∀ start count : Nat,
      (b.drop start).take count ++ b.drop (start + count) = b.drop start := by
    intro start count
    rw [← drop_drop, take_append_drop]
  have hh : b.drop headerLen = b.drop (8 + transactionIdLen) := rfl
  rw [headed, hy, bodyLen, hb, hc, ht, hh, hj 8 transactionIdLen, hj 4 4, hj 2 2, take_append_drop]

theorem headed_inj (h : headed a m s x = headed b n t y) : a = b ∧ s = t ∧ x = y := by
  have ht : a.messageType = b.messageType := by
    rw [← ofBigEndian_take_headed a m s x, h, ofBigEndian_take_headed]
  have hc := fromMessageType_messageType a
  rw [ht, fromMessageType_messageType] at hc
  refine ⟨(Except.ok.inj hc).symm, ?_, ?_⟩
  · rw [← transactionIdOf_headed a m s x, h, transactionIdOf_headed]
  · rw [← drop_headed a m s x, h, drop_headed]

end Headers

section Attribute

variable {transactionId : TransactionId} {rest : Bytes} {attr : StunAttribute} {size : Nat}

theorem readAttribute_eq_ok_iff : readAttribute transactionId rest = .ok (attr, size) ↔
      4 ≤ rest.length ∧ 4 + attrLen rest ≤ rest.length ∧
        readAttributeValue transactionId (attrType rest) (attrValue rest) = .ok attr ∧
        size = min (paddedLen rest) rest.length := by
  simp only [readAttribute, bind_eq_ok_iff, ensure_eq_ok_iff, pure, Except.pure,
    Except.ok.injEq, Prod.mk.injEq]
  constructor
  · rintro ⟨_, hh, _, hv, a, hr, rfl, rfl⟩
    exact ⟨hh, hv, hr, rfl⟩
  · rintro ⟨hh, hv, hr, rfl⟩
    exact ⟨(), hh, (), hv, attr, hr, rfl, rfl⟩

theorem size_pos_of_readAttribute (h : readAttribute transactionId rest = .ok (attr, size)) :
    4 ≤ size ∧ size ≤ rest.length := by
  obtain ⟨hh, hv, _, rfl⟩ := readAttribute_eq_ok_iff.mp h
  simp only [paddedLen]
  omega

theorem slice_take_append {s length : Nat} (hc : s + length ≤ size)
    (hs : size ≤ rest.length) (t : Bytes) :
    ((rest.take size ++ t).drop s).take length = (rest.drop s).take length := by
  rw [take_drop, take_drop, take_append_of_le_length (by simp; omega), take_take, min_eq_left hc]

/-- An attribute with all its padding is read the same way whatever follows it. -/
theorem readAttribute_take_append (h : readAttribute transactionId rest = .ok (attr, size))
    (hp : paddedLen rest ≤ rest.length) (t : Bytes) :
    readAttribute transactionId (rest.take size ++ t) = .ok (attr, size) := by
  obtain ⟨hh, hva, hr, hs⟩ := readAttribute_eq_ok_iff.mp h
  rw [min_eq_left hp] at hs
  have hle : 4 + attrLen rest ≤ size := by rw [hs, paddedLen]; omega
  have hc : size ≤ rest.length := hs ▸ hp
  have ht : attrType (rest.take size ++ t) = attrType rest :=
    congrArg ofBigEndian (slice_take_append (by omega : 0 + 2 ≤ size) hc t)
  have hl : attrLen (rest.take size ++ t) = attrLen rest :=
    congrArg ofBigEndian (slice_take_append (by omega) hc t)
  have hv : attrValue (rest.take size ++ t) = attrValue rest := by
    rw [attrValue, attrValue, hl, slice_take_append hle hc t]
  have ha : paddedLen (rest.take size ++ t) = size := by rw [paddedLen, hl, hs, paddedLen]
  have he : (rest.take size ++ t).length = size + t.length := by
    rw [length_append, length_take, min_eq_left hc]
  rw [readAttribute_eq_ok_iff, ht, hl, hv, ha, he]
  exact ⟨by omega, by omega, hr, by omega⟩

theorem readRounds_eq_of_le (ha : rest.length ≤ a) (hb : rest.length ≤ b) :
    readRounds transactionId a offset rest = readRounds transactionId b offset rest := by
  induction a generalizing b offset rest with
  | zero =>
    obtain rfl : rest = [] := length_eq_zero_iff.mp (by omega)
    cases b <;> rfl
  | succ a ih =>
    by_cases hn : rest = []
    · subst hn
      cases b <;> rfl
    have hp := length_pos_iff.mpr hn
    obtain ⟨b, rfl⟩ : ∃ c, b = c + 1 := ⟨b - 1, by omega⟩
    simp only [readRounds, if_neg hn]
    cases ht : readAttribute transactionId rest with
    | error e => rfl
    | ok f =>
      obtain ⟨attr, s⟩ := f
      have hs := size_pos_of_readAttribute ht
      have hd : (rest.drop s).length < rest.length := by
        rw [length_drop]
        omega
      show (readRounds transactionId a (offset + s) (rest.drop s) >>= _) =
        readRounds transactionId b (offset + s) (rest.drop s) >>= _
      rw [ih (by omega : (rest.drop s).length ≤ a) (by omega : _ ≤ b)]

theorem readAttributes_nil (transactionId : TransactionId) (o : Nat) :
    readAttributes transactionId o [] = .ok [] := rfl

theorem readAttributes_of_readAttribute (h : readAttribute transactionId rest = .ok (attr, size))
    (o : Nat) :
    readAttributes transactionId o rest =
      (readAttributes transactionId (o + size) (rest.drop size)).map (⟨o, o + size, attr⟩ :: ·) := by
  have hs := size_pos_of_readAttribute h
  have hn : rest ≠ [] := ne_nil_of_length_pos (by omega)
  obtain ⟨rounds, hr⟩ : ∃ rounds, rest.length = rounds + 1 := ⟨rest.length - 1, by omega⟩
  have hd : (rest.drop size).length ≤ rounds := by
    rw [length_drop]
    omega
  rw [readAttributes, hr, readRounds, if_neg hn, h, readAttributes,
    readRounds_eq_of_le (le_refl (rest.drop size).length) hd]
  simp only [bind, Except.bind]
  cases readRounds transactionId rounds (o + size) (rest.drop size) <;> rfl

theorem readAttributes_eq_ok_cons
    (h : readAttributes transactionId offset rest = .ok (entry :: more)) :
    ∃ attr size, readAttribute transactionId rest = .ok (attr, size) ∧
      entry = ⟨offset, offset + size, attr⟩ ∧
      readAttributes transactionId (offset + size) (rest.drop size) = .ok more := by
  cases ha : readAttribute transactionId rest with
  | error e =>
    rcases rest with _ | ⟨b, rest⟩
    · simp [readAttributes_nil] at h
    · simp [readAttributes, readRounds, ha, bind, Except.bind] at h
  | ok f =>
    obtain ⟨attr, size⟩ := f
    rw [readAttributes_of_readAttribute ha] at h
    cases hm : readAttributes transactionId (offset + size) (rest.drop size) with
    | error e => simp [hm, Except.map] at h
    | ok f =>
      rw [hm] at h
      obtain ⟨rfl, rfl⟩ := cons.inj (Except.ok.inj h)
      exact ⟨attr, size, rfl, rfl, hm⟩

end Attribute

/-! ## Reading what was written -/

theorem length_pushAttribute (t : Nat) (v : Bytes) :
    (pushAttribute t v).length = 4 + v.length + paddingLen v.length := by
  simp only [pushAttribute, length_append, length_bigEndian, length_replicate]
  omega

/-- An attribute written with a length that fits is read from the front of any bytes. -/
theorem readAttribute_pushAttribute {transactionId : TransactionId}
    {value : Bytes} {attr : StunAttribute} (ht : typeCode < 256 ^ 2)
    (hl : value.length < 256 ^ 2) (h : readAttributeValue transactionId typeCode value = .ok attr)
    (t : Bytes) :
    readAttribute transactionId (pushAttribute typeCode value ++ t) =
      .ok (attr, (pushAttribute typeCode value).length) := by
  have hatt : attrType (pushAttribute typeCode value ++ t) = typeCode := by
    rw [attrType, pushAttribute, append_assoc, take_left' (length_bigEndian 2 _),
      ofBigEndian_bigEndian_of_lt ht]
  have ha : attrLen (pushAttribute typeCode value ++ t) = value.length := by
    rw [attrLen, pushAttribute, append_assoc, drop_left' (length_bigEndian 2 _),
      append_assoc, take_left' (length_bigEndian 2 _), ofBigEndian_bigEndian_of_lt hl]
  have hat : attrValue (pushAttribute typeCode value ++ t) = value := by
    have hf : (bigEndian 2 typeCode ++ bigEndian 2 value.length).length = 4 := by simp
    rw [attrValue, ha, pushAttribute, ← append_assoc, append_assoc,
      drop_left' hf, append_assoc, take_left]
  have hp : paddedLen (pushAttribute typeCode value ++ t) =
      (pushAttribute typeCode value).length := by
    rw [paddedLen, ha, length_pushAttribute]
  have hle := length_pushAttribute typeCode value
  rw [readAttribute_eq_ok_iff, hatt, ha, hat, hp, length_append]
  exact ⟨by omega, by omega, h, by omega⟩

theorem readAttributes_pushAttribute {transactionId : TransactionId}
    {v : Bytes} {attr : StunAttribute} (ht : typeCode < 256 ^ 2)
    (hl : v.length < 256 ^ 2) (h : readAttributeValue transactionId typeCode v = .ok attr)
    (o : Nat) (t : Bytes) :
    readAttributes transactionId o (pushAttribute typeCode v ++ t) =
      (readAttributes transactionId (o + (pushAttribute typeCode v).length) t).map
        (⟨o, o + (pushAttribute typeCode v).length, attr⟩ :: ·) := by
  rw [readAttributes_of_readAttribute (readAttribute_pushAttribute ht hl h t), drop_left]

/-! ## What an accepted message has passed -/

theorem checkIntegrity_eq_ok_iff : checkIntegrity crates bytes placed password = .ok () ↔
      ∃ offset, miOffset placed = some offset ∧ placed.findSome? (fun entry => entry.attr.digest) =
          some (computeMessageIntegrity crates (checkedBuffer bytes offset) password) := by
  simp only [checkIntegrity, bind_eq_ok_iff, okOr_eq_ok_iff, ensure_eq_ok_iff, constantTimeEq_iff]
  constructor
  · rintro ⟨offset, hf, o, ho, heq⟩
    exact ⟨offset, hf, by rw [ho, Subtype.ext heq]⟩
  · rintro ⟨offset, hf, ho⟩
    exact ⟨offset, hf, _, ho, rfl⟩

theorem decode_eq_ok_iff : decode crates bytes (some password) = .ok message ↔
      headerLen ≤ bytes.length ∧ headerLen + bodyLen bytes ≤ bytes.length ∧
        ofBigEndian ((bytes.drop 4).take 4) = magicCookie.toNat ∧
        StunClass.fromMessageType (ofBigEndian (bytes.take 2)) = .ok message.stunClass ∧
        message.transactionId = transactionIdOf bytes ∧
        ∃ placed, placedAttributes bytes = .ok placed ∧
          message.attributes = placed.map Placed.attr ∧
          checkFingerprint crates bytes placed = .ok () ∧
          checkIntegrity crates bytes placed password = .ok () := by
  simp only [decode, bind_eq_ok_iff, ensure_eq_ok_iff, pure, Except.pure, Except.ok.injEq]
  constructor
  · rintro ⟨_, hh, stunClass, hl, _, hb, _, ho, placed, hp, _, hc, _, hta, rfl⟩
    exact ⟨hh, hb, ho, hl, rfl, placed, hp, rfl, hc, hta⟩
  · rintro ⟨hh, hb, ho, hl, ht, placed, hp, ha, hc, hta⟩
    exact ⟨(), hh, _, hl, (), hb, (), ho, placed, hp, (), hc, (), hta, by rw [← ht, ← ha]⟩

end QuantumLink.Ice
