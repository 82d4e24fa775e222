import QuantumLink.Foundation.Json.Text

/-! # Padded base64 text

The standard alphabet with padding, written in groups of four characters. The reader wants the
padding to be there and the bits it cuts off to be zero, so a byte string has one text only.
-/

namespace QuantumLink.Base64

open Json (utf8)
open Option

def standardChar (n : Nat) : Char :=
  if n < 26 then Char.ofNat (65 + n)
  else if n < 52 then Char.ofNat (71 + n)
  else if n < 62 then Char.ofNat (n - 4)
  else if n = 62 then '+' else '/'

def standardValue (c : Char) : Option Nat :=
  if 65 ≤ c.toNat ∧ c.toNat ≤ 90 then some (c.toNat - 65)
  else if 97 ≤ c.toNat ∧ c.toNat ≤ 122 then some (c.toNat - 71)
  else if 48 ≤ c.toNat ∧ c.toNat ≤ 57 then some (c.toNat + 4)
  else if c = '+' then some 62
  else if c = '/' then some 63
  else none

/-- Three bytes become four characters; a last group of one or two bytes is padded. -/
def quads : Bytes → List Char
  | a :: b :: c :: rest =>
    standardChar (a.toNat / 4) :: standardChar (a.toNat % 4 * 16 + b.toNat / 16) ::
      standardChar (b.toNat % 16 * 4 + c.toNat / 64) :: standardChar (c.toNat % 64) :: quads rest
  | [a, b] =>
    [standardChar (a.toNat / 4), standardChar (a.toNat % 4 * 16 + b.toNat / 16),
      standardChar (b.toNat % 16 * 4), '=']
  | [a] => [standardChar (a.toNat / 4), standardChar (a.toNat % 4 * 16), '=', '=']
  | [] => []

def encodeStandard (bytes : Bytes) : String := String.ofList (quads bytes)

def readQuads : List Char → Option Bytes
  | [] => some []
  | a :: b :: c :: d :: rest =>
    if d = '=' then
      if rest ≠ [] then none
      else if c = '=' then do
        let x ← standardValue a
        let y ← standardValue b
        if y % 16 = 0 then some [UInt8.ofNat (x * 4 + y / 16)] else none
      else do
        let x ← standardValue a
        let y ← standardValue b
        let z ← standardValue c
        if z % 4 = 0 then
          some [UInt8.ofNat (x * 4 + y / 16), UInt8.ofNat (y % 16 * 16 + z / 4)]
        else none
    else do
      let x ← standardValue a
      let y ← standardValue b
      let z ← standardValue c
      let w ← standardValue d
      let bytes ← readQuads rest
      some (UInt8.ofNat (x * 4 + y / 16) :: UInt8.ofNat (y % 16 * 16 + z / 4) ::
        UInt8.ofNat (z % 4 * 64 + w) :: bytes)
  | _ => none

def decodeStandard (text : String) : Option Bytes := readQuads text.toList

theorem standardValue_standardChar :
    ∀ n < 64, standardValue (standardChar n) = some n ∧ standardChar n ≠ '=' := by
  decide

theorem readQuads_quads (bytes : Bytes) : readQuads (quads bytes) = some bytes := by
  have hr {n : Nat} (h : n < 64) := (standardValue_standardChar n h).1
  have hp {n : Nat} (h : n < 64) := (standardValue_standardChar n h).2
  have hy {n : Nat} {byte : UInt8} (h : n = byte.toNat) : UInt8.ofNat n = byte := by
    rw [h, UInt8.ofNat_toNat]
  induction bytes using quads.induct with
  | case1 a b c r ih =>
    have ha := a.toNat_lt
    have hb := b.toNat_lt
    have hc := c.toNat_lt
    rw [quads, readQuads, if_neg (hp (by omega)), hr (by omega), hr (by omega),
      hr (by omega), hr (by omega), ih]
    simp only [bind_eq_bind, bind_some, some.injEq, List.cons.injEq, and_true]
    exact ⟨hy (by omega), hy (by omega), hy (by omega)⟩
  | case2 a b =>
    have ha := a.toNat_lt
    have hb := b.toNat_lt
    rw [quads, readQuads, if_pos rfl, if_neg (by simp), if_neg (hp (by omega)),
      hr (by omega), hr (by omega), hr (by omega)]
    simp only [bind_eq_bind, bind_some]
    rw [if_pos (by omega), (hy (by omega) : _ = a), (hy (by omega) : _ = b)]
  | case3 a =>
    have ha := a.toNat_lt
    rw [quads, readQuads, if_pos rfl, if_neg (by simp), if_pos rfl, hr (by omega), hr (by omega)]
    simp only [bind_eq_bind, bind_some]
    rw [if_pos (by omega), (hy (by omega) : _ = a)]
  | case4 => rfl

theorem decodeStandard_encodeStandard (bytes : Bytes) :
    decodeStandard (encodeStandard bytes) = some bytes := by
  rw [decodeStandard, encodeStandard, String.toList_ofList, readQuads_quads]

/-- The padding at the end of a text. -/
def padding (text : Bytes) : Nat := (text.reverse.takeWhile (· = 61)).length

theorem encode_of_standardValue (h : standardValue c = some v) :
    String.utf8EncodeChar c = [c.toUInt8] ∧ c.toUInt8 ≠ 61 := by
  have hc : c.toNat < 128 ∧ c.toNat ≠ 61 := by
    unfold standardValue at h
    split_ifs at h with hu hl hd hp hs
    · omega
    · omega
    · omega
    · simp [hp]
    · simp [hs]
  refine ⟨String.utf8EncodeChar_eq_singleton
    (Char.utf8Size_eq_one_iff.mpr (Nat.le_of_lt_succ hc.1)), ?_⟩
  intro he
  have hn : c.toNat % 256 = 61 := congrArg UInt8.toNat he
  omega

theorem padding_cons (hd : d ≠ 61) (rest : Bytes) :
    padding (a :: b :: c :: d :: rest) = padding rest := by
  simp only [padding, List.reverse_cons, List.append_assoc, List.takeWhile_append]
  split <;> simp_all

/-- Each four bytes of an accepted text are worth three, less the padding. -/
theorem readQuads_some {text : List Char} {bytes : Bytes} (h : readQuads text = some bytes) :
    padding (utf8 text) ≤ 2 ∧ (utf8 text).length % 4 = 0 ∧
      (utf8 text).length / 4 * 3 = bytes.length + padding (utf8 text) := by
  have hp : String.utf8EncodeChar '=' = [61] := by decide
  induction text using readQuads.induct generalizing bytes with
  | case1 =>
    cases h
    decide
  | case2 a b c rest hr => simp [readQuads, hr] at h
  | case3 a b rest hr =>
    obtain rfl := not_not.mp hr
    obtain ⟨x, hx, y, hy, h⟩ := by simpa [readQuads, bind_eq_some_iff] using h
    simp [utf8, padding, encode_of_standardValue hx, encode_of_standardValue hy, hp, ← h.2]
  | case4 a b c rest hr hc =>
    obtain rfl := not_not.mp hr
    obtain ⟨x, hx, y, hy, z, hz, h⟩ := by simpa [readQuads, hc, bind_eq_some_iff] using h
    simp [utf8, padding, encode_of_standardValue hx, encode_of_standardValue hy,
      encode_of_standardValue hz, hp, ← h.2]
  | case5 a b c d rest hd ih =>
    obtain ⟨x, hx, y, hy, z, hz, w, hw, tail, ht, h⟩ := by
      simpa [readQuads, hd, bind_eq_some_iff] using h
    have hu : utf8 (a :: b :: c :: d :: rest) = a.toUInt8 :: b.toUInt8 ::
        c.toUInt8 :: d.toUInt8 :: utf8 rest := by
      simp [utf8, encode_of_standardValue hx, encode_of_standardValue hy,
        encode_of_standardValue hz, encode_of_standardValue hw]
    have hi := ih ht
    rw [hu, padding_cons (encode_of_standardValue hw).2, ← h]
    simp only [List.length_cons]
    omega
  | case6 text hn hc => simp [readQuads] at h

end QuantumLink.Base64
