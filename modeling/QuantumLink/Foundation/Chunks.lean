import QuantumLink.Foundation.Json.Text

/-! # Fixed-width numbers and length-prefixed chunks

Big-endian numbers of a fixed width, read back from their bytes, and chunks of
bytes each preceded by its length. A machine integer narrower than the number keeps
the low bytes only, which is what `bigEndian` does by itself.
-/

namespace QuantumLink

open List UInt8

/-- `width` big-endian bytes of a number. -/
def bigEndian (width n : Nat) : Bytes :=
  (range width).map fun i => ofNat (n / 256 ^ (width - 1 - i))

def ofBigEndian : Bytes → Nat
  | [] => 0
  | byte :: rest => byte.toNat * 256 ^ rest.length + ofBigEndian rest

@[simp] theorem length_bigEndian (width n : Nat) : (bigEndian width n).length = width := by
  simp [bigEndian]

theorem bigEndian_succ (w n : Nat) : bigEndian (w + 1) n = ofNat (n / 256 ^ w) :: bigEndian w n := by
  simp only [bigEndian, range_succ_eq_map, map_cons, map_map]
  congr 1
  apply map_congr_left
  intro i _
  show ofNat (n / 256 ^ (w + 1 - 1 - (i + 1))) = ofNat (n / 256 ^ (w - 1 - i))
  congr 3
  omega

theorem ofBigEndian_bigEndian (width n : Nat) :
    ofBigEndian (bigEndian width n) = n % 256 ^ width := by
  induction width with
  | zero => simp [bigEndian, ofBigEndian, Nat.mod_one]
  | succ width ih =>
    have hb : (ofNat (n / 256 ^ width)).toNat = n / 256 ^ width % 256 := toNat_ofNat'
    rw [bigEndian_succ, ofBigEndian, length_bigEndian, ih, hb, Nat.mod_pow_succ, Nat.mul_comm,
      Nat.add_comm]

theorem ofBigEndian_bigEndian_of_lt {w n : Nat} (h : n < 256 ^ w) :
    ofBigEndian (bigEndian w n) = n := by
  rw [ofBigEndian_bigEndian, Nat.mod_eq_of_lt h]

theorem ofBigEndian_lt (byt : Bytes) : ofBigEndian byt < 256 ^ byt.length := by
  induction byt with
  | nil => simp [ofBigEndian]
  | cons b r ih =>
    have hb : b.toNat < 256 := b.toNat_lt
    rw [ofBigEndian, length_cons, pow_succ]
    nlinarith

theorem bigEndian_mul_add (width a n : Nat) :
    bigEndian width (a * 256 ^ width + n) = bigEndian width n := by
  apply map_congr_left
  intro i hi
  have hlt : i < width := mem_range.mp hi
  obtain ⟨k, hk⟩ : ∃ k, width = (width - 1 - i) + (k + 1) := ⟨i, by omega⟩
  generalize hm : width - 1 - i = m at *
  have hs : a * 256 ^ width + n = n + 256 ^ m * (256 * (a * 256 ^ k)) := by
    rw [hk, pow_add, pow_succ]
    ring
  rw [hs, Nat.add_mul_div_left _ _ (by positivity)]
  apply UInt8.toNat_inj.mp
  rw [UInt8.toNat_ofNat', UInt8.toNat_ofNat']
  omega

theorem bigEndian_ofBigEndian (bytes : Bytes) :
    bigEndian bytes.length (ofBigEndian bytes) = bytes := by
  induction bytes with
  | nil => rfl
  | cons b r ih =>
    have hlt := ofBigEndian_lt r
    have hd : (b.toNat * 256 ^ r.length + ofBigEndian r) / 256 ^ r.length =
        b.toNat := by
      rw [Nat.add_comm, Nat.add_mul_div_right _ _ (by positivity), Nat.div_eq_of_lt hlt,
        Nat.zero_add]
    rw [ofBigEndian, length_cons, bigEndian_succ, hd, bigEndian_mul_add, ih]
    simp

theorem bigEndian_append_drop {w k : Nat} {b : Bytes} (h : k + w ≤ b.length) :
    bigEndian w (ofBigEndian ((b.drop k).take w)) ++ b.drop (k + w) = b.drop k := by
  have hr := bigEndian_ofBigEndian ((b.drop k).take w)
  rw [length_take, length_drop, min_eq_left (by omega)] at hr
  rw [hr, ← drop_drop, take_append_drop]

/-! ## Chunks -/

/-- A chunk after its length as eight big-endian bytes. -/
def lenPrefixed (chunk : Bytes) : Bytes := bigEndian 8 chunk.length ++ chunk

theorem lenPrefixed_injective : Function.Injective lenPrefixed := by
  intro a b h
  exact (append_inj' h (by
    have hl := congrArg length h
    simp only [lenPrefixed, length_append, length_bigEndian] at hl
    omega)).2

theorem lenPrefixed_append_inj {a b x y : Bytes} (hl : a.length = b.length)
    (h : lenPrefixed a ++ x = lenPrefixed b ++ y) : a = b ∧ x = y := by
  obtain ⟨hab, hy⟩ := append_inj h (by simp [lenPrefixed, hl])
  exact ⟨lenPrefixed_injective hab, hy⟩

end QuantumLink
