import QuantumLink.Foundation.Json.Text

/-! # SHAKE256

The Keccak permutation on five rows of five lanes and the SHAKE256 sponge of
FIPS 202, with lanes as natural numbers below `2 ^ 64`. As with SHA-256 the point is
evaluation on concrete inputs; only the length of the output is proved.
-/

namespace QuantumLink.Shake256

/-- Five lanes with the same `y` coordinate. -/
structure Row where
  a : Nat
  b : Nat
  c : Nat
  d : Nat
  e : Nat

structure State where
  y₀ : Row
  y₁ : Row
  y₂ : Row
  y₃ : Row
  y₄ : Row

def laneModulus : Nat := 18446744073709551616

def rotateLeft (n x : Nat) : Nat := ((x <<< n) % laneModulus) ||| (x >>> (64 - n))

def Row.xor (s t : Row) : Row :=
  ⟨s.a ^^^ t.a, s.b ^^^ t.b, s.c ^^^ t.c, s.d ^^^ t.d, s.e ^^^ t.e⟩

def State.xor (s t : State) : State :=
  ⟨s.y₀.xor t.y₀, s.y₁.xor t.y₁, s.y₂.xor t.y₂, s.y₃.xor t.y₃, s.y₄.xor t.y₄⟩

def theta (s : State) : State :=
  let c := s.y₀.xor (s.y₁.xor (s.y₂.xor (s.y₃.xor s.y₄)))
  let d : Row := ⟨c.e ^^^ rotateLeft 1 c.b, c.a ^^^ rotateLeft 1 c.c, c.b ^^^ rotateLeft 1 c.d,
    c.c ^^^ rotateLeft 1 c.e, c.d ^^^ rotateLeft 1 c.a⟩
  ⟨s.y₀.xor d, s.y₁.xor d, s.y₂.xor d, s.y₃.xor d, s.y₄.xor d⟩

/-- Rotate each lane and move it to its place. -/
def rhoPi (s : State) : State :=
  ⟨⟨s.y₀.a, rotateLeft 44 s.y₁.b, rotateLeft 43 s.y₂.c, rotateLeft 21 s.y₃.d,
      rotateLeft 14 s.y₄.e⟩,
    ⟨rotateLeft 28 s.y₀.d, rotateLeft 20 s.y₁.e, rotateLeft 3 s.y₂.a, rotateLeft 45 s.y₃.b,
      rotateLeft 61 s.y₄.c⟩,
    ⟨rotateLeft 1 s.y₀.b, rotateLeft 6 s.y₁.c, rotateLeft 25 s.y₂.d, rotateLeft 8 s.y₃.e,
      rotateLeft 18 s.y₄.a⟩,
    ⟨rotateLeft 27 s.y₀.e, rotateLeft 36 s.y₁.a, rotateLeft 10 s.y₂.b, rotateLeft 15 s.y₃.c,
      rotateLeft 56 s.y₄.d⟩,
    ⟨rotateLeft 62 s.y₀.c, rotateLeft 55 s.y₁.d, rotateLeft 39 s.y₂.e, rotateLeft 41 s.y₃.a,
      rotateLeft 2 s.y₄.b⟩⟩

def andNot (x y : Nat) : Nat := (laneModulus - 1 - x) &&& y

def Row.chi (s : Row) : Row :=
  ⟨s.a ^^^ andNot s.b s.c, s.b ^^^ andNot s.c s.d, s.c ^^^ andNot s.d s.e,
    s.d ^^^ andNot s.e s.a, s.e ^^^ andNot s.a s.b⟩

def chi (s : State) : State := ⟨s.y₀.chi, s.y₁.chi, s.y₂.chi, s.y₃.chi, s.y₄.chi⟩

def iota (constant : Nat) (s : State) : State :=
  { s with y₀ := { s.y₀ with a := s.y₀.a ^^^ constant } }

def roundConstants : List Nat :=
  [0x0000000000000001, 0x0000000000008082, 0x800000000000808a, 0x8000000080008000,
    0x000000000000808b, 0x0000000080000001, 0x8000000080008081, 0x8000000000008009,
    0x000000000000008a, 0x0000000000000088, 0x0000000080008009, 0x000000008000000a,
    0x000000008000808b, 0x800000000000008b, 0x8000000000008089, 0x8000000000008003,
    0x8000000000008002, 0x8000000000000080, 0x000000000000800a, 0x800000008000000a,
    0x8000000080008081, 0x8000000000008080, 0x0000000080000001, 0x8000000080008008]

def permute (s : State) : State :=
  roundConstants.foldl (fun s constant => iota constant (chi (rhoPi (theta s)))) s

def emptyRow : Row := ⟨0, 0, 0, 0, 0⟩

def emptyState : State := ⟨emptyRow, emptyRow, emptyRow, emptyRow, emptyRow⟩

/-! ## The sponge -/

def rate : Nat := 136

/-- Little-endian lanes of a byte string. -/
def lanes : Bytes → List Nat
  | a :: b :: c :: d :: e :: f :: g :: h :: rest =>
    (a.toNat + 256 * (b.toNat + 256 * (c.toNat + 256 * (d.toNat + 256 * (e.toNat + 256 *
      (f.toNat + 256 * (g.toNat + 256 * h.toNat))))))) :: lanes rest
  | _ => []

def rowOf (lanes : List Nat) : Row :=
  ⟨lanes.getD 0 0, lanes.getD 1 0, lanes.getD 2 0, lanes.getD 3 0, lanes.getD 4 0⟩

def stateOf (lanes : List Nat) : State :=
  ⟨rowOf lanes, rowOf (lanes.drop 5), rowOf (lanes.drop 10), rowOf (lanes.drop 15),
    rowOf (lanes.drop 20)⟩

def absorb : Nat → Bytes → State → State
  | 0, _, s => s
  | count + 1, bytes, s =>
    absorb count (bytes.drop rate) (permute (s.xor (stateOf (lanes (bytes.take rate)))))

/-- The suffix of SHAKE and the first and last bit of the padding. -/
def pad (message : Bytes) : Bytes :=
  let gap := rate - message.length % rate
  if gap = 1 then message ++ [0x9f]
  else message ++ 0x1f :: (List.replicate (gap - 2) 0 ++ [0x80])

def rowLanes (r : Row) : List Nat := [r.a, r.b, r.c, r.d, r.e]

def laneBytes (lane : Nat) : Bytes :=
  (List.range 8).map fun i => UInt8.ofNat (lane / 256 ^ i)

/-- The seventeen lanes of the rate as bytes. -/
def outputBlock (s : State) : Bytes :=
  ((rowLanes s.y₀ ++ rowLanes s.y₁ ++ rowLanes s.y₂ ++ (rowLanes s.y₃).take 2)).flatMap laneBytes

def squeeze : Nat → State → Bytes
  | 0, _ => []
  | count + 1, s => outputBlock s ++ squeeze count (permute s)

@[irreducible] def hash (length : Nat) (message : Bytes) : Bytes :=
  let padded := pad message
  (squeeze (length / rate + 1) (absorb (padded.length / rate) padded emptyState)).take length

theorem length_outputBlock (s : State) : (outputBlock s).length = rate := by
  simp [outputBlock, rowLanes, laneBytes, rate]

theorem length_squeeze (c : Nat) (s : State) : (squeeze c s).length = c * rate := by
  induction c generalizing s with
  | zero => simp [squeeze]
  | succ c ih =>
    rw [squeeze, List.length_append, length_outputBlock, ih]
    ring

theorem length_hash (length : Nat) (m : Bytes) : (hash length m).length = length := by
  have hr : 0 < rate := by decide
  have hle : length ≤ (length / rate + 1) * rate := (Nat.lt_div_mul_add hr).le.trans_eq (by ring)
  rw [hash, List.length_take, length_squeeze]
  omega

example : hash 8 [] = [0x46, 0xb9, 0xdd, 0x2b, 0x0b, 0xa8, 0x8d, 0x13] := by
  decide +kernel

end QuantumLink.Shake256
