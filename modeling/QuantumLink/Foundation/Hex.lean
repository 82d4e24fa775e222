import QuantumLink.Foundation.Json.Text

/-! # Hexadecimal and base64 text

Lowercase hexadecimal with a reader that takes both cases, and the URL-safe
base64 alphabet without padding. Bytes written as hexadecimal are read back, and
two byte strings of one length with the same base64 text are equal.
-/

namespace QuantumLink

open Json (stringBytes utf8 utf8_eq_map_of_ascii hexDigit)
open List UInt8

theorem toNat_of_mem_utf8EncodeChar (hb : b ∈ String.utf8EncodeChar c)
    (ha : b.toNat < 128) : c.toNat = b.toNat := by
  have hc : c.val.toNat = c.toNat := rfl
  simp only [String.utf8EncodeChar, hc] at hb
  split_ifs at hb <;> simp only [mem_cons, not_mem_nil, or_false] at hb
  · rw [hb, toNat_ofNat']
    omega
  all_goals
    rcases hb with rfl | rfl | rfl | rfl <;> rw [toNat_ofNat'] at ha <;> omega

namespace Hex

/-! ## Hexadecimal -/

variable (byte : UInt8)

def digitValue : Option UInt8 :=
  if 48 ≤ byte ∧ byte ≤ 57 then some (byte - 48)
  else if 97 ≤ byte ∧ byte ≤ 102 then some (byte - 97 + 10)
  else if 65 ≤ byte ∧ byte ≤ 70 then some (byte - 65 + 10)
  else none

def isDigit : Bool :=
  (48 ≤ byte && byte ≤ 57) || (97 ≤ byte && byte ≤ 102) || (65 ≤ byte && byte ≤ 70)

/-- The bytes that pairs of digits name; a lone last digit is dropped. -/
def decodePairs : Bytes → Option Bytes
  | high :: low :: rest => do
      let high ← digitValue high
      let low ← digitValue low
      let rest ← decodePairs rest
      pure ((high <<< 4 ||| low) :: rest)
  | _ => some []

def decode (value : String) : Option Bytes :=
  let bytes := stringBytes value
  if bytes.length % 2 ≠ 0 ∨ ¬ bytes.all isDigit then none else decodePairs bytes

def digits : List Char := [hexDigit (byte.toNat / 16), hexDigit (byte.toNat % 16)]

def encode (bytes : Bytes) : String := String.ofList (bytes.flatMap digits)

def digitByte (n : Nat) : UInt8 := ofNat (hexDigit n).toNat

theorem hexDigit_ascii : ∀ n < 16, (hexDigit n).toNat < 128 := by decide

theorem digitByte_isDigit : ∀ n < 16, isDigit (digitByte n) = true := by decide

theorem digitByte_lower : ∀ n < 16, (48 ≤ digitByte n ∧ digitByte n ≤ 57) ∨
    (97 ≤ digitByte n ∧ digitByte n ≤ 102) := by decide

theorem digitValue_digitByte : ∀ n < 16, digitValue (digitByte n) = some (ofNat n) := by
  decide

theorem nibbles_join : ofNat (byte.toNat / 16) <<< 4 ||| ofNat (byte.toNat % 16) = byte := by
  have ha : ∀ n < 256,
      ofNat (n / 16) <<< 4 ||| ofNat (n % 16) = ofNat n := by decide +kernel
  simpa using ha byte.toNat byte.toNat_lt

theorem stringBytes_encode (byt : Bytes) : stringBytes (encode byt) =
      byt.flatMap fun b => [digitByte (b.toNat / 16), digitByte (b.toNat % 16)] := by
  have ha : ∀ c ∈ byt.flatMap digits, c.toNat < 128 := by
    intro c hc
    obtain ⟨b, _, hb⟩ := mem_flatMap.mp hc
    have hlt : b.toNat < 256 := b.toNat_lt
    simp only [digits, mem_cons, not_mem_nil, or_false] at hb
    rcases hb with rfl | rfl
    · exact hexDigit_ascii _ (by omega)
    · exact hexDigit_ascii _ (by omega)
  rw [stringBytes, encode, String.toList_ofList, utf8_eq_map_of_ascii ha, map_flatMap]
  rfl

theorem length_stringBytes_encode (b : Bytes) : (stringBytes (encode b)).length = 2 * b.length := by
  rw [stringBytes_encode, length_flatMap]
  simp only [length_cons, length_nil, map_const', sum_replicate, smul_eq_mul]
  omega

theorem stringBytes_encode_lower (h : d ∈ stringBytes (encode bytes)) :
    (48 ≤ d ∧ d ≤ 57) ∨ (97 ≤ d ∧ d ≤ 102) := by
  rw [stringBytes_encode] at h
  obtain ⟨b, _, hb⟩ := mem_flatMap.mp h
  have hlt : b.toNat < 256 := b.toNat_lt
  simp only [mem_cons, not_mem_nil, or_false] at hb
  rcases hb with rfl | rfl
  · exact digitByte_lower _ (by omega)
  · exact digitByte_lower _ (by omega)

theorem decodePairs_digits (bytes : Bytes) :
    decodePairs (bytes.flatMap fun b => [digitByte (b.toNat / 16), digitByte (b.toNat % 16)]) =
      some bytes := by
  induction bytes with
  | nil => rfl
  | cons b bytes ih =>
    have hlt : b.toNat < 256 := b.toNat_lt
    have hh := digitValue_digitByte (b.toNat / 16) (by omega)
    have hl := digitValue_digitByte (b.toNat % 16) (by omega)
    simp [decodePairs, hh, hl, ih, nibbles_join]

theorem decode_encode (bytes : Bytes) : decode (encode bytes) = some bytes := by
  have hl := length_stringBytes_encode bytes
  have ha : (stringBytes (encode bytes)).all isDigit = true := by
    rw [all_eq_true, stringBytes_encode]
    intro d hd
    obtain ⟨b, _, hb⟩ := mem_flatMap.mp hd
    have hlt : b.toNat < 256 := b.toNat_lt
    simp only [mem_cons, not_mem_nil, or_false] at hb
    rcases hb with rfl | rfl
    · exact digitByte_isDigit _ (by omega)
    · exact digitByte_isDigit _ (by omega)
  have ho : ¬ ((stringBytes (encode bytes)).length % 2 ≠ 0 ∨
      ¬ (stringBytes (encode bytes)).all isDigit = true) := by
    rw [ha, hl]
    simp
  rw [decode, if_neg ho, stringBytes_encode, decodePairs_digits]

end Hex

namespace Base64

/-! ## Base64 -/

def urlChar (n : Nat) : Char :=
  if n < 26 then Char.ofNat (65 + n)
  else if n < 52 then Char.ofNat (71 + n)
  else if n < 62 then Char.ofNat (n - 4)
  else if n = 62 then '-' else '_'

/-- Groups of three bytes become four sextets; a last group of one or two bytes
becomes two or three, and no padding follows. -/
def sextets : Bytes → List Nat
  | a :: b :: c :: rest =>
    a.toNat / 4 :: (a.toNat % 4 * 16 + b.toNat / 16) :: (b.toNat % 16 * 4 + c.toNat / 64) ::
      c.toNat % 64 :: sextets rest
  | [a, b] => [a.toNat / 4, a.toNat % 4 * 16 + b.toNat / 16, b.toNat % 16 * 4]
  | [a] => [a.toNat / 4, a.toNat % 4 * 16]
  | [] => []

def encodeUrlNoPad (bytes : Bytes) : String := String.ofList ((sextets bytes).map urlChar)

theorem sextets_lt (byt : Bytes) : ∀ n ∈ sextets byt, n < 64 := by
  induction byt using sextets.induct with
  | case1 a b c rest ih =>
    have ha : a.toNat < 256 := a.toNat_lt
    have hb : b.toNat < 256 := b.toNat_lt
    have hc : c.toNat < 256 := c.toNat_lt
    intro n hn
    simp only [sextets, mem_cons] at hn
    rcases hn with rfl | rfl | rfl | rfl | hn
    · omega
    · omega
    · omega
    · omega
    · exact ih n hn
  | case2 a b =>
    have ha : a.toNat < 256 := a.toNat_lt
    have hb : b.toNat < 256 := b.toNat_lt
    intro n hn
    simp only [sextets, mem_cons, not_mem_nil, or_false] at hn
    rcases hn with rfl | rfl | rfl <;> omega
  | case3 a =>
    have ha : a.toNat < 256 := a.toNat_lt
    intro n hn
    simp only [sextets, mem_cons, not_mem_nil, or_false] at hn
    rcases hn with rfl | rfl <;> omega
  | case4 => simp [sextets]

theorem length_sextets (byt : Bytes) : (sextets byt).length = (4 * byt.length + 2) / 3 := by
  induction byt using sextets.induct with
  | case1 a b c r ih =>
    simp only [sextets, length_cons, ih]
    omega
  | case2 a b | case3 a => simp [sextets]
  | case4 => simp [sextets]

theorem urlChar_injOn : ∀ m < 64, ∀ n < 64, urlChar m = urlChar n → m = n := by decide

theorem urlChar_ascii : ∀ n < 64, (urlChar n).toNat < 128 := by decide

theorem map_urlChar_injOn {a b : List Nat} (ha : ∀ n ∈ a, n < 64) (hb : ∀ n ∈ b, n < 64)
    (h : a.map urlChar = b.map urlChar) : a = b := by
  induction a generalizing b with
  | nil => simpa using h.symm
  | cons m a ih =>
    cases b with
    | nil => simp at h
    | cons n b =>
      simp only [map_cons, cons.injEq] at h
      have hn := urlChar_injOn m (ha m (by simp)) n (hb n (by simp)) h.1
      rw [hn, ih (fun k hk => ha k (by simp [hk])) (fun k hk => hb k (by simp [hk])) h.2]

theorem sextets_injOn {a b : Bytes} (hl : a.length = b.length) (h : sextets a = sextets b) :
    a = b := by
  induction a using sextets.induct generalizing b with
  | case1 a₁ a₂ a₃ rest ih =>
    match b with
    | b₁ :: b₂ :: b₃ :: rest' =>
      simp only [sextets, cons.injEq] at h
      obtain ⟨h1, h2, h3, h4, hr⟩ := h
      have hb1 := b₁.toNat_lt
      have hb2 := b₂.toNat_lt
      have hb3 := b₃.toNat_lt
      have ha1 := a₁.toNat_lt
      have ha2 := a₂.toNat_lt
      have ha3 := a₃.toNat_lt
      have e1 : a₁ = b₁ := UInt8.toNat_inj.mp (by omega)
      have e2 : a₂ = b₂ := UInt8.toNat_inj.mp (by omega)
      have e3 : a₃ = b₃ := UInt8.toNat_inj.mp (by omega)
      rw [e1, e2, e3, ih (by simpa using hl) hr]
    | [_, _] => simp at hl
    | [_] => simp at hl
    | [] => simp at hl
  | case2 a₁ a₂ =>
    match b with
    | [b₁, b₂] =>
      simp only [sextets, cons.injEq, and_true] at h
      obtain ⟨h1, h2, h3⟩ := h
      have hb1 := b₁.toNat_lt
      have hb2 := b₂.toNat_lt
      have ha1 := a₁.toNat_lt
      have ha2 := a₂.toNat_lt
      have e1 : a₁ = b₁ := UInt8.toNat_inj.mp (by omega)
      have e2 : a₂ = b₂ := UInt8.toNat_inj.mp (by omega)
      rw [e1, e2]
    | _ :: _ :: _ :: _ => simp at hl
    | [_] => simp at hl
    | [] => simp at hl
  | case3 a₁ =>
    match b with
    | [b₁] =>
      simp only [sextets, cons.injEq, and_true] at h
      have hb1 := b₁.toNat_lt
      have ha1 := a₁.toNat_lt
      have e1 : a₁ = b₁ := UInt8.toNat_inj.mp (by omega)
      rw [e1]
    | _ :: _ :: _ => simp at hl
    | [] => simp at hl
  | case4 =>
    cases b with
    | nil => rfl
    | cons _ _ => simp at hl

theorem encodeUrlNoPad_injOn {a b : Bytes} (hl : a.length = b.length)
    (h : encodeUrlNoPad a = encodeUrlNoPad b) : a = b := by
  have hm : (sextets a).map urlChar = (sextets b).map urlChar := by
    simpa [encodeUrlNoPad] using congrArg String.toList h
  exact sextets_injOn hl (map_urlChar_injOn (sextets_lt a) (sextets_lt b) hm)

/-- The length of the text gives the number of bytes, so no length need be known. -/
theorem encodeUrlNoPad_injective : Function.Injective encodeUrlNoPad := by
  intro a b h
  apply encodeUrlNoPad_injOn _ h
  have ht := congrArg (fun s => s.toList.length) h
  simp only [encodeUrlNoPad, String.toList_ofList, length_map, length_sextets] at ht
  omega

theorem stringBytes_encodeUrlNoPad (b : Bytes) : stringBytes (encodeUrlNoPad b) =
      (sextets b).map fun n => ofNat (urlChar n).toNat := by
  have ha : ∀ c ∈ (sextets b).map urlChar, c.toNat < 128 := by
    intro c hc
    obtain ⟨n, hn, rfl⟩ := mem_map.mp hc
    exact urlChar_ascii n (sextets_lt b n hn)
  rw [stringBytes, encodeUrlNoPad, String.toList_ofList, utf8_eq_map_of_ascii ha, map_map]
  rfl

end Base64

end QuantumLink
