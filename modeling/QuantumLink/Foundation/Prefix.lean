import Mathlib

/-! # Address prefixes

An address is a word of fixed width; a prefix keeps its first bits. A block is an address of which
only the first bits count, all others being zero, so that two blocks meet only if one of them is
part of the other: it is enough to compare each one's own address with the other.
-/

namespace QuantumLink

variable {w : Nat}

/-- The word whose first `length` bits are set. -/
def prefixMask (w length : Nat) : BitVec w := BitVec.allOnes w <<< (w - length)

theorem getLsbD_prefixMask (w l i : Nat) :
    (prefixMask w l).getLsbD i = (decide (i < w) && decide (w - l ≤ i)) := by
  by_cases hi : i < w
  · by_cases hl : w - l ≤ i
    · simp [prefixMask, hi, hl]
    · simp [prefixMask, hl]
  · simp [prefixMask, hi]

theorem and_prefixMask_and {short l : Nat} (h : short ≤ l) (a : BitVec w) :
    a &&& prefixMask w l &&& prefixMask w short = a &&& prefixMask w short := by
  apply BitVec.eq_of_getLsbD_eq
  intro i hi
  simp only [BitVec.getLsbD_and, getLsbD_prefixMask]
  by_cases hs : w - short ≤ i
  · have hl : w - l ≤ i := by omega
    simp [hs, hl]
  · simp [hs]

/-- An address with nothing behind its first `length` bits. -/
structure AddressBlock (w : Nat) where
  address : BitVec w
  length : Nat
  canonical : address &&& prefixMask w length = address
deriving DecidableEq

namespace AddressBlock

variable {block other : AddressBlock w}

def Contains (block : AddressBlock w) (address : BitVec w) : Prop :=
  address &&& prefixMask w block.length = block.address

instance (block : AddressBlock w) (address : BitVec w) : Decidable (block.Contains address) :=
  inferInstanceAs (Decidable (_ = _))

def of (address : BitVec w) (length : Nat) : AddressBlock w :=
  ⟨address &&& prefixMask w length, length, by rw [BitVec.and_assoc, BitVec.and_self]⟩

def Overlaps (block other : AddressBlock w) : Prop :=
  block.Contains other.address ∨ other.Contains block.address

theorem contains_of_shared (hl : block.length ≤ other.length) {a : BitVec w}
    (h : block.Contains a) (ho : other.Contains a) :
    block.Contains other.address := by
  unfold Contains at *
  rw [← ho, and_prefixMask_and hl, h]

theorem not_contains_of_not_overlaps (h : ¬ block.Overlaps other) {address : BitVec w}
    (ho : other.Contains address) : ¬ block.Contains address := by
  intro hb
  rcases Nat.le_total block.length other.length with hle | hle
  · exact h (.inl (contains_of_shared hle hb ho))
  · exact h (.inr (contains_of_shared hle ho hb))

theorem contains_of_length_zero (hl : block.length = 0) (address : BitVec w) :
    block.Contains address := by
  have hm : prefixMask w 0 = 0#w := by
    apply BitVec.eq_of_getLsbD_eq
    intro i hi
    simp [getLsbD_prefixMask]
  have hc := block.canonical
  rw [hl, hm, BitVec.and_zero] at hc
  rw [Contains, hl, hm, BitVec.and_zero, ← hc]

end AddressBlock

end QuantumLink
