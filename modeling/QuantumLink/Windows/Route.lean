import QuantumLink.Network.Config

/-! # Protected routes

A route of the Windows client is a text, an IPv4 address with or without a prefix length. The kill
switch reads it, clears the bits behind the prefix and writes it again; what it wrote is what it
later reads back into an address and a mask.
-/

namespace QuantumLink.Windows

open Network (readIpv4Addr ipv4AddrText readUInt8 readOctet splitOnce)
open List

/-- `EngineError`, as far as the kill switch gives it. -/
inductive EngineError where
  /-- The message is the problem, a colon and the route in quotes. -/
  | config (problem route : String)
  | platform (message : String)
deriving DecidableEq

/-- The address of a route, not yet read, and its prefix length. -/
def splitCidr (route : String) : Except EngineError (List Char × Nat) :=
  match splitOnce '/' route.toList with
  | some (address, length) => do
      let prefixLen ← (readUInt8 length).mapError fun _ => EngineError.config "bad CIDR prefix" route
      pure (address, prefixLen)
  | none => pure (route.toList, 32)

def parseV4Cidr (route : String) : Except EngineError (BitVec 32 × Nat) := do
  let (address, prefixLen) ← splitCidr route
  ensure (prefixLen ≤ 32) (EngineError.config "prefix too long" route)
  let address ← okOr (readIpv4Addr address) (EngineError.config "bad IPv4 address" route)
  pure (address, prefixLen)

def prefixToMask (prefixLen : Nat) : BitVec 32 :=
  if prefixLen = 0 then 0 else BitVec.allOnes 32 <<< (32 - prefixLen)

/-- An address and a prefix length, written out. -/
def cidrText (network : BitVec 32) (prefixLen : Nat) : String :=
  ipv4AddrText network ++ "/" ++ toString prefixLen

def canonicalV4Cidr (route : String) : Except EngineError String := do
  let (address, prefixLen) ← parseV4Cidr route
  pure (cidrText (address &&& prefixToMask prefixLen) prefixLen)

/-! ## What a route means -/

theorem prefixToMask_eq_prefixMask : prefixToMask prefixLen = prefixMask 32 prefixLen := by
  unfold prefixToMask prefixMask
  by_cases hz : prefixLen = 0
  · rw [if_pos hz, hz]
    decide
  · rw [if_neg hz]

/-- The addresses a route stands for. -/
def routeBlock (route : String) : Except EngineError (AddressBlock 32) := do
  let (address, prefixLen) ← parseV4Cidr route
  pure (AddressBlock.of address prefixLen)

def InRoute (address : BitVec 32) (route : String) : Prop :=
  ∃ block, routeBlock route = .ok block ∧ block.Contains address

def Accepted (route : String) : Prop := ∃ cidr, parseV4Cidr route = .ok cidr

theorem Accepted.routeBlock (h : Accepted route) :
    ∃ block, Windows.routeBlock route = .ok block := by
  obtain ⟨⟨a, p⟩, hp⟩ := h
  exact ⟨AddressBlock.of a p, by rw [Windows.routeBlock, hp]; rfl⟩

/-! ## Reading back what was written -/

theorem splitOnce_append (h : separator ∉ front) :
    splitOnce separator (front ++ separator :: back) = some (front, back) := by
  have hf : ∀ c ∈ front, (c != separator) = true := by
    intro c hc
    rw [bne_iff_ne]
    intro heq
    exact h (heq ▸ hc)
  rw [splitOnce, span_eq_takeWhile_dropWhile, takeWhile_append_of_pos hf,
    dropWhile_append_of_pos hf]
  simp

theorem readOctet_toDigits (h : n < 256) : readOctet (Nat.toDigits 10 n) = some n := by
  have ha : ∀ octet : Fin 256, readOctet (Nat.toDigits 10 octet) = some octet.val := by
    decide +kernel
  exact ha ⟨n, h⟩

theorem readUInt8_toDigits (h : n ≤ 32) : readUInt8 (Nat.toDigits 10 n) = .ok n := by
  have ha : ∀ length : Fin 33, readUInt8 (Nat.toDigits 10 length) = .ok length.val := by
    decide +kernel
  exact ha ⟨n, by omega⟩

theorem not_mem_toDigits {c : Char} (hc : c.isDigit = false) (n : Nat) : c ∉ Nat.toDigits 10 n := by
  intro hm
  have hd := Nat.isDigit_of_mem_toDigits (by decide) (by decide) hm
  simp [hc] at hd

/-- The four numbers of a written address, first to last. -/
def octets (address : BitVec 32) : List Nat :=
  [24, 16, 8, 0].map fun shift => address.toNat / 2 ^ shift % 256

theorem toList_ipv4AddrText :
    (ipv4AddrText address).toList = ['.'].intercalate ((octets address).map (Nat.toDigits 10)) := by
  simp [ipv4AddrText, octets, intercalate]

theorem ofNat_octets (address : BitVec 32) :
    BitVec.ofNat 32 (((address.toNat / 2 ^ 24 % 256 * 256 + address.toNat / 2 ^ 16 % 256) * 256 +
      address.toNat / 2 ^ 8 % 256) * 256 + address.toNat / 2 ^ 0 % 256) = address := by
  apply BitVec.eq_of_toNat_eq
  rw [BitVec.toNat_ofNat]
  have hlt := address.isLt
  omega

theorem readIpv4Addr_ipv4AddrText : readIpv4Addr (ipv4AddrText address).toList = some address := by
  have hs : (ipv4AddrText address).toList.splitOn '.' =
      (octets address).map (Nat.toDigits 10) := by
    rw [toList_ipv4AddrText]
    apply splitOn_intercalate
    · intro d hd
      obtain ⟨n, -, rfl⟩ := mem_map.mp hd
      exact not_mem_toDigits (by decide) n
    · simp [octets]
  have ho (shift : Nat) : readOctet (Nat.toDigits 10 (address.toNat / 2 ^ shift % 256)) =
      some (address.toNat / 2 ^ shift % 256) :=
    readOctet_toDigits (Nat.mod_lt _ (by decide))
  rw [readIpv4Addr, hs]
  simp only [octets, map_cons, map_nil, ho]
  rw [ofNat_octets]

theorem parseV4Cidr_cidrText (n : BitVec 32) (h : prefixLen ≤ 32) :
    parseV4Cidr (cidrText n prefixLen) = .ok (n, prefixLen) := by
  have ht : (cidrText n prefixLen).toList =
      (ipv4AddrText n).toList ++ '/' :: Nat.toDigits 10 prefixLen := by
    simp [cidrText]
  have hs : '/' ∉ (ipv4AddrText n).toList := by
    rw [toList_ipv4AddrText]
    simp [octets, intercalate, not_mem_toDigits]
  have hp : splitOnce '/' (cidrText n prefixLen).toList =
      some ((ipv4AddrText n).toList, Nat.toDigits 10 prefixLen) := by
    rw [ht, splitOnce_append hs]
  have hc : splitCidr (cidrText n prefixLen) =
      .ok ((ipv4AddrText n).toList, prefixLen) := by
    rw [splitCidr, hp]
    show (readUInt8 (Nat.toDigits 10 prefixLen)).mapError _ >>= _ = _
    rw [readUInt8_toDigits h]
    rfl
  rw [parseV4Cidr, hc]
  show (ensure (prefixLen ≤ 32) _ >>= fun _ =>
    okOr (readIpv4Addr (ipv4AddrText n).toList) _ >>= fun r => pure (r, prefixLen)) = _
  rw [ensure_of h, readIpv4Addr_ipv4AddrText]
  rfl

theorem prefixLen_le_of_parseV4Cidr
    (h : parseV4Cidr route = .ok (address, prefixLen)) : prefixLen ≤ 32 := by
  unfold parseV4Cidr at h
  obtain ⟨⟨t, l⟩, -, h⟩ := bind_eq_ok_iff.mp h
  obtain ⟨⟨⟩, hs, h⟩ := bind_eq_ok_iff.mp h
  obtain ⟨r, -, h⟩ := bind_eq_ok_iff.mp h
  cases h
  exact ensure_eq_ok_iff.mp hs

/-- The canonical text of a block. -/
def blockText (block : AddressBlock 32) : String := cidrText block.address block.length

/-- A canonical route is written from the block of the route and from nothing else. -/
theorem canonicalV4Cidr_eq : canonicalV4Cidr route = (routeBlock route).map blockText := by
  unfold canonicalV4Cidr routeBlock
  cases h : parseV4Cidr route with
  | error error => rfl
  | ok c =>
    obtain ⟨a, p⟩ := c
    show Except.ok _ = Except.ok _
    rw [prefixToMask_eq_prefixMask]
    rfl

theorem length_le_of_routeBlock (h : routeBlock route = .ok block) : block.length ≤ 32 := by
  unfold routeBlock at h
  obtain ⟨⟨a, p⟩, hp, h⟩ := bind_eq_ok_iff.mp h
  cases h
  exact prefixLen_le_of_parseV4Cidr hp

end QuantumLink.Windows
