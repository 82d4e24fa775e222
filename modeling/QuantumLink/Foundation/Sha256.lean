import QuantumLink.Foundation.Chunks

/-! # SHA-256

FIPS 180-4 on byte strings, with words as natural numbers below `2 ^ 32`, written to
be evaluated. Models that only need a digest take the function as a parameter; this
is the function itself, for statements about concrete inputs.
-/

namespace QuantumLink.Sha256

structure Chain where
  a : Nat
  b : Nat
  c : Nat
  d : Nat
  e : Nat
  f : Nat
  g : Nat
  h : Nat

def wordModulus : Nat := 4294967296

def rotateRight (n x : Nat) : Nat := (x >>> n) ||| ((x <<< (32 - n)) % wordModulus)

def initialChain : Chain :=
  ⟨0x6a09e667, 0xbb67ae85, 0x3c6ef372, 0xa54ff53a, 0x510e527f, 0x9b05688c, 0x1f83d9ab, 0x5be0cd19⟩

def roundConstants : List Nat :=
  [0x428a2f98, 0x71374491, 0xb5c0fbcf, 0xe9b5dba5, 0x3956c25b, 0x59f111f1, 0x923f82a4, 0xab1c5ed5,
    0xd807aa98, 0x12835b01, 0x243185be, 0x550c7dc3, 0x72be5d74, 0x80deb1fe, 0x9bdc06a7, 0xc19bf174,
    0xe49b69c1, 0xefbe4786, 0x0fc19dc6, 0x240ca1cc, 0x2de92c6f, 0x4a7484aa, 0x5cb0a9dc, 0x76f988da,
    0x983e5152, 0xa831c66d, 0xb00327c8, 0xbf597fc7, 0xc6e00bf3, 0xd5a79147, 0x06ca6351, 0x14292967,
    0x27b70a85, 0x2e1b2138, 0x4d2c6dfc, 0x53380d13, 0x650a7354, 0x766a0abb, 0x81c2c92e, 0x92722c85,
    0xa2bfe8a1, 0xa81a664b, 0xc24b8b70, 0xc76c51a3, 0xd192e819, 0xd6990624, 0xf40e3585, 0x106aa070,
    0x19a4c116, 0x1e376c08, 0x2748774c, 0x34b0bcb5, 0x391c0cb3, 0x4ed8aa4a, 0x5b9cca4f, 0x682e6ff3,
    0x748f82ee, 0x78a5636f, 0x84c87814, 0x8cc70208, 0x90befffa, 0xa4506ceb, 0xbef9a3f7, 0xc67178f2]

def choose (x y z : Nat) : Nat := (x &&& y) ^^^ ((wordModulus - 1 - x) &&& z)

def majority (x y z : Nat) : Nat := (x &&& y) ^^^ (x &&& z) ^^^ (y &&& z)

def round (k w : Nat) (s : Chain) : Chain :=
  let t₁ := s.h + (rotateRight 6 s.e ^^^ rotateRight 11 s.e ^^^ rotateRight 25 s.e) +
    choose s.e s.f s.g + k + w
  let t₂ := (rotateRight 2 s.a ^^^ rotateRight 13 s.a ^^^ rotateRight 22 s.a) + majority s.a s.b s.c
  ⟨(t₁ + t₂) % wordModulus, s.a, s.b, s.c, (s.d + t₁) % wordModulus, s.e, s.f, s.g⟩

/-- The message-schedule word that follows a window of sixteen. -/
def nextWord (window : List Nat) : Nat :=
  let w₁ := window.getD 1 0
  let w₁₄ := window.getD 14 0
  (window.getD 0 0 + (rotateRight 7 w₁ ^^^ rotateRight 18 w₁ ^^^ (w₁ >>> 3)) + window.getD 9 0 +
    (rotateRight 17 w₁₄ ^^^ rotateRight 19 w₁₄ ^^^ (w₁₄ >>> 10))) % wordModulus

def rounds : List Nat → List Nat → Chain → Chain
  | [], _, s => s
  | k :: ks, window, s =>
    rounds ks (window.tail ++ [nextWord window]) (round k (window.headD 0) s)

def addChain (s t : Chain) : Chain :=
  ⟨(s.a + t.a) % wordModulus, (s.b + t.b) % wordModulus, (s.c + t.c) % wordModulus,
    (s.d + t.d) % wordModulus, (s.e + t.e) % wordModulus, (s.f + t.f) % wordModulus,
    (s.g + t.g) % wordModulus, (s.h + t.h) % wordModulus⟩

def compress (s : Chain) (block : List Nat) : Chain := addChain s (rounds roundConstants block s)

/-- Compress `count` blocks of sixteen words. -/
def compressAll : Nat → List Nat → Chain → Chain
  | 0, _, s => s
  | count + 1, words, s => compressAll count (words.drop 16) (compress s (words.take 16))

def words : Bytes → List Nat
  | a :: b :: c :: d :: rest =>
    (a.toNat * 16777216 + b.toNat * 65536 + c.toNat * 256 + d.toNat) :: words rest
  | _ => []

def pad (message : Bytes) : Bytes :=
  message ++ 0x80 :: (List.replicate ((119 - message.length % 64) % 64) 0 ++
    bigEndian 8 (8 * message.length))

def digestWords (s : Chain) : List Nat := [s.a, s.b, s.c, s.d, s.e, s.f, s.g, s.h]

-- Irreducible, so that only evaluation in the kernel ever looks inside.
@[irreducible] def hash (message : Bytes) : Bytes :=
  let padded := pad message
  (digestWords (compressAll (padded.length / 64) (words padded) initialChain)).flatMap (bigEndian 4)

theorem length_hash (m : Bytes) : (hash m).length = 32 := by
  simp [hash, digestWords]

example : (hash [97, 98, 99]).take 8 = [0xba, 0x78, 0x16, 0xbf, 0x8f, 0x01, 0xcf, 0xea] := by
  decide +kernel

end QuantumLink.Sha256
