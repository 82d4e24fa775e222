import QuantumLink.Device.Keys

/-! # Packets and transport frames

The parts of `packet_core` and `routing` that work on bytes: which destinations a route
policy protects, what is changed in an IPv4 header before a packet leaves, and the frame
that carries a packet with its number and protocol family. Routes are parsed already.
-/

namespace QuantumLink.Packet

open Device (QlinkError)
open Json (stringBytes)
open List UInt8

/-! ## Routes -/

inductive RouteMode where
  | splitTunnel
  | protectedPrefixesOnly
  | fullTunnel

structure Ipv4Cidr where
  network : UInt32
  prefixLen : UInt8

def mask (prefixLen : UInt8) : UInt32 :=
  if prefixLen = 0 then 0 else 0xffffffff <<< (UInt32.ofNat (32 - prefixLen.toNat))

def Ipv4Cidr.contains (cidr : Ipv4Cidr) (address : UInt32) : Bool :=
  address &&& mask cidr.prefixLen == cidr.network

structure RoutePolicy where
  mode : RouteMode
  protectedRoutes : List Ipv4Cidr
  excludedRoutes : List Ipv4Cidr

def RoutePolicy.protects (policy : RoutePolicy) (address : UInt32) : Bool :=
  if policy.excludedRoutes.any (·.contains address) then false
  else
    match policy.mode with
    | .fullTunnel => true
    | .splitTunnel => policy.protectedRoutes.any (·.contains address)
    | .protectedPrefixesOnly => policy.protectedRoutes.any (·.contains address)

/-! ## IPv4 headers -/

def ipv4Destination (packet : Bytes) : Option UInt32 :=
  if packet.length < 20 then none
  else if packet.headD 0 >>> 4 ≠ 4 then none
  else some (UInt32.ofNat (ofBigEndian ((packet.drop 16).take 4)))

/-- The sum of the 16-bit words; an odd byte at the end is left out. -/
def wordSum : Bytes → Nat
  | high :: low :: rest => high.toNat * 256 + low.toNat + wordSum rest
  | _ => 0

/-- The `while` loop that folds the carries back in. -/
def foldCarries (sum : Nat) : Nat :=
  if sum / 65536 ≠ 0 then foldCarries (sum % 65536 + sum / 65536) else sum
termination_by sum
decreasing_by omega

def ipv4HeaderChecksum (header : Bytes) : UInt16 := ~~~ UInt16.ofNat (foldCarries (wordSum header))

def ipv4HeaderLen (packet : Bytes) : Nat := (packet.headD 0 &&& 0x0f).toNat * 4

/-- The header fields as `normalize_ipv4_packet` sets them, the checksum still zero. -/
def clearedHeader (packet : Bytes) : Bytes :=
  let packet := packet.set 1 0
  let flagsAndFragment := ofBigEndian ((packet.drop 6).take 2)
  let packet := if flagsAndFragment % 0x4000 = 0 then (packet.set 4 0).set 5 0 else packet
  ((packet.set 8 64).set 10 0).set 11 0

def normalizeIpv4Packet (packet : Bytes) : Except QlinkError Bytes := do
  ensure (20 ≤ packet.length) (.protocol "IPv4 packet is too short")
  ensure (packet.headD 0 >>> 4 = 4) (.protocol "only IPv4 packets can be normalized")
  ensure (20 ≤ ipv4HeaderLen packet ∧ ipv4HeaderLen packet ≤ packet.length)
    (.protocol "invalid IPv4 header length")
  let cleared := clearedHeader packet
  let checksum := (ipv4HeaderChecksum (cleared.take (ipv4HeaderLen packet))).toNat
  pure ((cleared.set 10 (UInt8.ofNat (checksum / 256))).set 11 (UInt8.ofNat checksum))

/-- The header is one that `normalize_ipv4_packet` accepts. -/
structure Normalizable (packet : Bytes) : Prop where
  length : 20 ≤ packet.length
  version : packet.headD 0 >>> 4 = 4
  minimal : 20 ≤ ipv4HeaderLen packet
  fits : ipv4HeaderLen packet ≤ packet.length

theorem normalizeIpv4Packet_eq_ok_iff :
    normalizeIpv4Packet packet = .ok normalized ↔ Normalizable packet ∧
      normalized = ((clearedHeader packet).set 10 (ofNat ((ipv4HeaderChecksum
        ((clearedHeader packet).take (ipv4HeaderLen packet))).toNat / 256))).set 11
          (ofNat (ipv4HeaderChecksum
            ((clearedHeader packet).take (ipv4HeaderLen packet))).toNat) := by
  simp only [normalizeIpv4Packet, bind_eq_ok_iff, ensure_eq_ok_iff, exists_const, pure,
    Except.pure, Except.ok.injEq]
  constructor
  · rintro ⟨hl, hv, ⟨hm, hf⟩, rfl⟩
    exact ⟨⟨hl, hv, hm, hf⟩, rfl⟩
  · rintro ⟨h, rfl⟩
    exact ⟨h.length, h.version, ⟨h.minimal, h.fits⟩, rfl⟩

theorem normalizeIpv4Packet_isOk_iff :
    (∃ normalized, normalizeIpv4Packet packet = .ok normalized) ↔ Normalizable packet := by
  simp [normalizeIpv4Packet_eq_ok_iff]

theorem length_normalizeIpv4Packet
    (h : normalizeIpv4Packet packet = .ok normalized) : normalized.length = packet.length := by
  obtain ⟨-, rfl⟩ := normalizeIpv4Packet_eq_ok_iff.mp h
  simp only [length_set, clearedHeader]
  split <;> simp

/-! ## Normalized headers -/

/-- Addition of `u32` values, nothing where it overflows. -/
def addU32 (a b : Nat) : Option Nat := if a + b < 2 ^ 32 then some (a + b) else none

/-- The words added up in 32 bits. -/
def checkedWordSum (sum : Nat) : Bytes → Option Nat
  | high :: low :: rest => do checkedWordSum (← addU32 sum (high.toNat * 256 + low.toNat)) rest
  | _ => some sum

/-- The `while` loop in 32 bits, where its test is reached at most `tests` times. -/
def checkedFoldCarries : Nat → Nat → Option Nat
  | 0, _ => none
  | tests + 1, sum =>
    if sum / 65536 ≠ 0 then do checkedFoldCarries tests (← addU32 (sum % 65536) (sum / 65536))
    else some sum

theorem wordSum_le (b : Bytes) : 2 * wordSum b ≤ b.length * 65535 := by
  fun_induction wordSum b with
  | case1 hi low r ih =>
    have := hi.toNat_lt
    have := low.toNat_lt
    simp only [length_cons]
    omega
  | case2 => omega

theorem checkedWordSum_eq {sum : Nat} {b : Bytes} (h : sum + wordSum b < 2 ^ 32) :
    checkedWordSum sum b = some (sum + wordSum b) := by
  fun_induction checkedWordSum sum b with
  | case1 sum hi low r ih =>
    rw [wordSum, ← Nat.add_assoc] at h
    have hf : sum + (hi.toNat * 256 + low.toNat) < 2 ^ 32 :=
      Nat.lt_of_le_of_lt (Nat.le_add_right _ _) h
    rw [addU32, if_pos hf, wordSum, ← Nat.add_assoc sum _ (wordSum r)]
    exact ih _ h
  | case2 sum b hs =>
    rw [wordSum]
    · rfl
    · exact hs

theorem checkedFoldCarries_step {t sum : Nat} (hs : sum < 2 ^ 32)
    (hn : sum / 65536 ≠ 0 → checkedFoldCarries t (sum % 65536 + sum / 65536) =
      some (foldCarries (sum % 65536 + sum / 65536))) :
    checkedFoldCarries (t + 1) sum = some (foldCarries sum) := by
  rw [checkedFoldCarries, foldCarries]
  split_ifs with h
  · rw [addU32, if_pos (by omega)]
    exact hn h
  · rfl

/-- For a header of at most 60 bytes nothing overflows and the loop is done after two rounds. -/
theorem checked_eq {header : Bytes} (h : header.length ≤ 60) :
    checkedWordSum 0 header = some (wordSum header) ∧
      checkedFoldCarries 3 (wordSum header) = some (foldCarries (wordSum header)) := by
  have hle := wordSum_le header
  refine ⟨by simpa using checkedWordSum_eq (show 0 + wordSum header < 2 ^ 32 by omega), ?_⟩
  refine checkedFoldCarries_step (by omega) fun _ => ?_
  refine checkedFoldCarries_step (by omega) fun _ => ?_
  exact checkedFoldCarries_step (by omega) fun hm => absurd hm (by omega)

theorem foldCarries_le (sum : Nat) : foldCarries sum ≤ 65535 := by
  fun_induction foldCarries sum with
  | case1 sum _ ih => exact ih
  | case2 sum h => omega

/-- Folding changes a sum by multiples of `0xffff`. -/
theorem foldCarries_mod (sum : Nat) : foldCarries sum % 65535 = sum % 65535 := by
  fun_induction foldCarries sum with
  | case1 sum _ ih =>
    rw [ih]
    omega
  | case2 sum h => rfl

theorem foldCarries_pos {sum : Nat} (h : 0 < sum) : 0 < foldCarries sum := by
  fun_induction foldCarries sum with
  | case1 sum _ ih => exact ih (by omega)
  | case2 sum _ => exact h

/-- Adding the complement of a folded sum makes the sum fold to all ones. -/
theorem foldCarries_add_complement (sum : Nat) :
    foldCarries (sum + (65535 - foldCarries sum)) = 65535 := by
  have hle := foldCarries_le sum
  have hm := foldCarries_mod sum
  have hp : 0 < sum + (65535 - foldCarries sum) := by
    by_cases hz : sum = 0
    · subst hz
      simp [foldCarries]
    · omega
  have hle' := foldCarries_le (sum + (65535 - foldCarries sum))
  have hm' := foldCarries_mod (sum + (65535 - foldCarries sum))
  have hp' := foldCarries_pos hp
  omega

theorem toNat_ipv4HeaderChecksum (header : Bytes) :
    (ipv4HeaderChecksum header).toNat = 65535 - foldCarries (wordSum header) := by
  have hle := foldCarries_le (wordSum header)
  rw [ipv4HeaderChecksum, UInt16.toNat_not, UInt16.toNat_ofNat', Nat.mod_eq_of_lt (by omega)]
  rfl

theorem wordSum_set_word (hg low : UInt8)
    (hh : bytes[2 * k]? = some 0) (hl : bytes[2 * k + 1]? = some 0) :
    wordSum ((bytes.set (2 * k) hg).set (2 * k + 1) low) =
      wordSum bytes + (hg.toNat * 256 + low.toNat) := by
  induction k generalizing bytes with
  | zero =>
    match bytes with
    | a :: b :: rest =>
      obtain rfl : a = 0 := by simpa using hh
      obtain rfl : b = 0 := by simpa using hl
      simp [wordSum, Nat.add_comm]
  | succ k ih =>
    match bytes with
    | a :: b :: rest =>
      have hs := @ih rest (by simpa [Nat.mul_add] using hh)
        (by simpa [Nat.mul_add] using hl)
      simp only [Nat.mul_add, Nat.mul_one, set_cons_succ, wordSum, hs]
      omega

/-- The more-fragments bit and the fragment offset are zero. -/
def Unfragmented (packet : Bytes) : Prop := ofBigEndian ((packet.drop 6).take 2) % 0x4000 = 0

instance (packet : Bytes) : Decidable (Unfragmented packet) := inferInstanceAs (Decidable (_ = _))

/-- The bytes that are set, each with its value. -/
def clearedByte (packet : Bytes) (i : Nat) : Option UInt8 :=
  if i = 1 ∨ i = 10 ∨ i = 11 ∨ Unfragmented packet ∧ (i = 4 ∨ i = 5) then some 0
  else if i = 8 then some 64 else none

theorem getElem?_clearedHeader {packet : Bytes} (h : 20 ≤ packet.length) (i : Nat) :
    (clearedHeader packet)[i]? = (clearedByte packet i).or packet[i]? := by
  have hf : ((packet.set 1 0).drop 6).take 2 = (packet.drop 6).take 2 := by
    rw [drop_set_of_lt (by decide)]
  simp only [clearedHeader, clearedByte, Unfragmented, hf]
  by_cases hw : ofBigEndian ((packet.drop 6).take 2) % 0x4000 = 0
  · simp only [hw, if_true, getElem?_set, length_set, true_and]
    split_ifs <;> first | rfl | omega
  · simp only [hw, if_false, getElem?_set, length_set, false_and, or_false]
    split_ifs <;> first | rfl | omega

section normalized

variable {packet normalized : Bytes} (h : normalizeIpv4Packet packet = .ok normalized)
include h

theorem getElem?_normalized (ht : i ≠ 10) (he : i ≠ 11) :
    normalized[i]? = (clearedByte packet i).or packet[i]? := by
  obtain ⟨hk, rfl⟩ := normalizeIpv4Packet_eq_ok_iff.mp h
  rw [getElem?_set_ne (Ne.symm he), getElem?_set_ne (Ne.symm ht), getElem?_clearedHeader hk.length]

theorem headD_normalized : normalized.headD 0 = packet.headD 0 := by
  have hb := getElem?_normalized h (show 0 ≠ 10 by decide) (by decide)
  simp only [headD_eq_head?_getD, head?_eq_getElem?, hb]
  simp [clearedByte]

theorem ipv4HeaderLen_normalized : ipv4HeaderLen normalized = ipv4HeaderLen packet := by
  rw [ipv4HeaderLen, headD_normalized h, ← ipv4HeaderLen]

theorem unfragmented_normalized_iff : Unfragmented normalized ↔ Unfragmented packet := by
  have hb : (normalized.drop 6).take 2 = (packet.drop 6).take 2 := by
    apply ext_getElem?
    intro i
    simp only [getElem?_take, getElem?_drop]
    split_ifs with hi
    · rw [getElem?_normalized h (by omega) (by omega), clearedByte, if_neg (by omega),
        if_neg (by omega), Option.none_or]
    · rfl
  rw [Unfragmented, hb, ← Unfragmented]

theorem clearedHeader_normalized : clearedHeader normalized = clearedHeader packet := by
  have hl := (normalizeIpv4Packet_eq_ok_iff.mp h).1.length
  apply ext_getElem?
  intro i
  have hs : clearedByte normalized i = clearedByte packet i := by
    simp only [clearedByte, unfragmented_normalized_iff h]
  rw [getElem?_clearedHeader (by rwa [length_normalizeIpv4Packet h]), getElem?_clearedHeader hl, hs]
  cases hb : clearedByte packet i with
  | some byte => rfl
  | none =>
    have hp : i ≠ 10 ∧ i ≠ 11 := by
      constructor <;> rintro rfl <;> simp [clearedByte] at hb
    rw [getElem?_normalized h hp.1 hp.2, hb, Option.none_or]

theorem normalizable_normalized : Normalizable normalized := by
  have hk := (normalizeIpv4Packet_eq_ok_iff.mp h).1
  have hl := length_normalizeIpv4Packet h
  have hh := ipv4HeaderLen_normalized h
  exact ⟨hl ▸ hk.length, headD_normalized h ▸ hk.version, hh ▸ hk.minimal, hh ▸ hl ▸ hk.fits⟩

theorem headerSum_normalized :
    foldCarries (wordSum (normalized.take (ipv4HeaderLen packet))) = 65535 := by
  obtain ⟨hk, rfl⟩ := normalizeIpv4Packet_eq_ok_iff.mp h
  have hm := hk.minimal
  have hz (i : Nat) (hi : i = 10 ∨ i = 11) :
      ((clearedHeader packet).take (ipv4HeaderLen packet))[i]? = some 0 := by
    rw [getElem?_take_of_lt (by omega), getElem?_clearedHeader hk.length, clearedByte,
      if_pos (by omega), Option.some_or]
  rw [take_set, take_set, wordSum_set_word (k := 5) _ _ (hz 10 (.inl rfl))
    (hz 11 (.inr rfl)), toNat_ofNat', toNat_ofNat', toNat_ipv4HeaderChecksum]
  generalize wordSum ((clearedHeader packet).take (ipv4HeaderLen packet)) = sum
  have hw : (65535 - foldCarries sum) / 256 % 2 ^ 8 * 256 + (65535 - foldCarries sum) % 2 ^ 8 =
      65535 - foldCarries sum := by omega
  rw [hw, foldCarries_add_complement]

end normalized

theorem normalize_ipv4_packet_spec (packet : Bytes) :
    ((∃ normalized, normalizeIpv4Packet packet = .ok normalized) ↔
      packet.headD 0 >>> 4 = 4 ∧ 20 ≤ packet.length ∧ 5 ≤ (packet.headD 0 &&& 0x0f).toNat ∧
        (packet.headD 0 &&& 0x0f).toNat * 4 ≤ packet.length) ∧
    (∀ normalized, normalizeIpv4Packet packet = .ok normalized → normalized.length = packet.length ∧
      foldCarries (wordSum (normalized.take (ipv4HeaderLen packet))) = 0xffff ∧
      normalized[1]? = some 0 ∧ normalized[8]? = some 64 ∧
      (Unfragmented packet → normalized[4]? = some 0 ∧ normalized[5]? = some 0) ∧
      (∀ i, i ∉ [1, 8, 10, 11] → (Unfragmented packet → i ∉ [4, 5]) → normalized[i]? = packet[i]?) ∧
      normalizeIpv4Packet normalized = .ok normalized) ∧
    let header := (clearedHeader packet).take (ipv4HeaderLen packet)
    checkedWordSum 0 header = some (wordSum header) ∧
      checkedFoldCarries 3 (wordSum header) = some (foldCarries (wordSum header)) := by
  have hn : (packet.headD 0 &&& 0x0f).toNat < 16 := by
    rw [UInt8.toNat_and]
    exact Nat.lt_of_le_of_lt Nat.and_le_right (by decide)
  refine ⟨?_, ?_, checked_eq (by rw [length_take, ipv4HeaderLen]; omega)⟩
  · rw [normalizeIpv4Packet_isOk_iff]
    constructor
    · rintro ⟨hl, hv, hm, hf⟩
      rw [ipv4HeaderLen] at hm
      exact ⟨hv, hl, by omega, hf⟩
    · rintro ⟨hv, hl, hm, hf⟩
      exact ⟨hl, hv, by rw [ipv4HeaderLen]; omega, hf⟩
  · intro normalized h
    have hb {i : Nat} (ht : i ≠ 10) (he : i ≠ 11) := getElem?_normalized h ht he
    refine ⟨length_normalizeIpv4Packet h, headerSum_normalized h, ?_, ?_, ?_, ?_, ?_⟩
    · simp [hb, clearedByte]
    · simp [hb, clearedByte]
    · intro hw
      simp [hb, clearedByte, hw]
    · intro i hi hd
      simp only [mem_cons, not_mem_nil, or_false, not_or] at hi hd
      rw [hb hi.2.2.1 hi.2.2.2, clearedByte, if_neg (by tauto), if_neg hi.2.1, Option.none_or]
    · have hs := (normalizeIpv4Packet_eq_ok_iff.mp h).2
      rw [normalizeIpv4Packet_eq_ok_iff, clearedHeader_normalized h, ipv4HeaderLen_normalized h]
      exact ⟨normalizable_normalized h, hs⟩

theorem normalize_plain_header :
    ∃ normalized, normalizeIpv4Packet (0x45 :: List.replicate 19 7) = .ok normalized ∧
      foldCarries (wordSum (normalized.take 20)) = 0xffff := by
  obtain ⟨ha, hs, -⟩ := normalize_ipv4_packet_spec (0x45 :: replicate 19 7)
  obtain ⟨normalized, h⟩ := ha.mpr (by decide)
  exact ⟨normalized, h, (hs normalized h).2.1⟩

/-! ## Frames -/

def frameMagic : Bytes := stringBytes "QLPKT1"
def frameHeaderLen : Nat := 6 + 8 + 2 + 4

def transportFrame (packetNumber : Nat) (protocolFamily : UInt32) (packet : Bytes) : Bytes :=
  frameMagic ++ (bigEndian 8 packetNumber ++ (bigEndian 2 protocolFamily.toNat ++
    (bigEndian 4 packet.length ++ packet)))

def encodeTransportFrame (packetNumber : Nat) (protocolFamily : UInt32) (packet : Bytes) :
    Except QlinkError Bytes := do
  ensure (protocolFamily.toNat < 2 ^ 16) (.protocol "protocol family does not fit in frame")
  ensure (packet.length < 2 ^ 32) (.protocol "packet is too large for frame")
  pure (transportFrame packetNumber protocolFamily packet)

structure DecodedFrame where
  packetNumber : Nat
  protocolFamily : UInt32
  packet : Bytes

def decodeTransportFrame (frame : Bytes) : Except QlinkError DecodedFrame := do
  ensure (frameHeaderLen ≤ frame.length) (.protocol "transport frame too short")
  ensure (frame.take 6 = frameMagic) (.protocol "invalid transport frame magic")
  let packetLen := ofBigEndian ((frame.drop 16).take 4)
  ensure (frame.length = frameHeaderLen + packetLen) (.protocol "transport frame length mismatch")
  pure ⟨ofBigEndian ((frame.drop 6).take 8), UInt32.ofNat (ofBigEndian ((frame.drop 14).take 2)),
    (frame.drop frameHeaderLen).take packetLen⟩

theorem encodeTransportFrame_eq_ok_iff :
    encodeTransportFrame packetNumber protocolFamily packet = .ok frame ↔
      protocolFamily.toNat < 2 ^ 16 ∧ packet.length < 2 ^ 32 ∧
      frame = transportFrame packetNumber protocolFamily packet := by
  simp only [encodeTransportFrame, bind_eq_ok_iff, ensure_eq_ok_iff, exists_const, pure,
    Except.pure, Except.ok.injEq]
  rw [eq_comm (a := frame)]

theorem length_transportFrame (pa : Nat) (p : UInt32) (packet : Bytes) :
    (transportFrame pa p packet).length = frameHeaderLen + packet.length := by
  have hm : frameMagic.length = 6 := by decide
  simp only [transportFrame, length_append, length_bigEndian, hm, frameHeaderLen]
  omega

theorem decodeTransportFrame_transportFrame {p : UInt32}
    {packet : Bytes} (hn : packetNumber < 2 ^ 64) (hf : p.toNat < 2 ^ 16)
    (hl : packet.length < 2 ^ 32) :
    decodeTransportFrame (transportFrame packetNumber p packet) = .ok ⟨packetNumber, p, packet⟩ := by
  have hm : frameMagic.length = 6 := by decide
  have ht := length_transportFrame packetNumber p packet
  have ha : (transportFrame packetNumber p packet).take 6 = frameMagic := take_left' hm
  have hu : ofBigEndian (((transportFrame packetNumber p packet).drop 6).take 8) =
      packetNumber := by
    simpa [transportFrame, drop_append, drop_eq_nil_of_le, hm] using
      ofBigEndian_bigEndian_of_lt hn
  have hfa : ofBigEndian (((transportFrame packetNumber p packet).drop 14).take 2) =
      p.toNat := by
    simpa [transportFrame, drop_append, drop_eq_nil_of_le, hm] using
      ofBigEndian_bigEndian_of_lt hf
  have hle : ofBigEndian (((transportFrame packetNumber p packet).drop 16).take 4) =
      packet.length := by
    simpa [transportFrame, drop_append, drop_eq_nil_of_le, hm] using
      ofBigEndian_bigEndian_of_lt hl
  have hp : (transportFrame packetNumber p packet).drop frameHeaderLen = packet := by
    simp [transportFrame, drop_append, drop_eq_nil_of_le, hm, frameHeaderLen]
  simp only [decodeTransportFrame, ha, ht, hu, hfa, hle, hp, bind_eq_ok_iff,
    ensure_eq_ok_iff, exists_const]
  exact ⟨Nat.le_add_right _ _, trivial, trivial, by
    rw [take_length, UInt32.ofNat_toNat]
    rfl⟩

end QuantumLink.Packet
