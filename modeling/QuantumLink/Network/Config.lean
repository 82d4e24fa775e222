import QuantumLink.Foundation.Prefix
import QuantumLink.Identity.ClientV2

/-! # The daemon configuration

`DaemonConfig` of `qlink_proto` and its `validate`: the checks in the order they are made, each
with the error it gives. Whether a text is a socket address is for the standard library to say;
`SocketAddrs` stands for that.
-/

namespace QuantumLink.Network

open Identity (trim)

/-! ## IPv4 addresses and prefix lengths -/

def digitValue (c : Char) : Nat := c.toNat - '0'.toNat

/-- One part of a dotted address: at most three digits, no zero before others, at most 255. -/
def readOctet (text : List Char) : Option Nat :=
  let value := text.foldl (fun value c => 10 * value + digitValue c) 0
  if text ≠ [] ∧ text.length ≤ 3 ∧ text.all Char.isDigit = true ∧
      (text.head? = some '0' → text.length = 1) ∧ value ≤ 255 then some value
  else none

/-- `Ipv4Addr::from_str`. -/
def readIpv4Addr (text : List Char) : Option (BitVec 32) :=
  match (text.splitOn '.').map readOctet with
  | [some a, some b, some c, some d] =>
    some (BitVec.ofNat 32 (((a * 256 + b) * 256 + c) * 256 + d))
  | _ => none

def ipv4AddrText (address : BitVec 32) : String :=
  let octet (shift : Nat) := toString (address.toNat / 2 ^ shift % 256)
  octet 24 ++ "." ++ octet 16 ++ "." ++ octet 8 ++ "." ++ octet 0

def addrParseError : String := "invalid IPv4 address syntax"

/-- The digits of a `u8`, left to right. -/
def readUInt8Digits : Nat → List Char → Except String Nat
  | value, [] => .ok value
  | value, c :: text =>
    if c.isDigit = false then .error "invalid digit found in string"
    else if 255 < 10 * value + digitValue c then .error "number too large to fit in target type"
    else readUInt8Digits (10 * value + digitValue c) text

/-- `u8::from_str`: a plus sign may stand before the digits. -/
def readUInt8 (text : List Char) : Except String Nat :=
  match text with
  | [] => .error "cannot parse integer from empty string"
  | ['+'] => .error "invalid digit found in string"
  | '+' :: digits => readUInt8Digits 0 digits
  | digits => readUInt8Digits 0 digits

def splitOnce (separator : Char) (text : List Char) : Option (List Char × List Char) :=
  match text.span (· != separator) with
  | (_, []) => none
  | (front, _ :: back) => some (front, back)

/-! ## Networks -/

structure OverlayNetwork where
  address : BitVec 32
  prefixLen : Nat
deriving DecidableEq

namespace OverlayNetwork

variable (network : OverlayNetwork)

def mask : BitVec 32 :=
  BitVec.allOnes 32 <<< (32 - network.prefixLen)

def Contains (address : BitVec 32) : Prop :=
  address &&& network.mask = network.address

instance (network : OverlayNetwork) (address : BitVec 32) : Decidable (network.Contains address) :=
  inferInstanceAs (Decidable (_ = _))

def Overlaps (other : OverlayNetwork) : Prop :=
  network.Contains other.address ∨ other.Contains network.address

instance (network other : OverlayNetwork) : Decidable (network.Overlaps other) :=
  inferInstanceAs (Decidable (_ ∨ _))

/-- What a network has to be to pass: a length from 1 to 32 and nothing behind it. -/
structure Canonical (network : OverlayNetwork) : Prop where
  positive : 1 ≤ network.prefixLen
  short : network.prefixLen ≤ 32
  masked : network.address &&& network.mask = network.address

/-- The addresses of a network that passes. -/
def Canonical.block {network : OverlayNetwork} (h : network.Canonical) : AddressBlock 32 :=
  ⟨network.address, network.prefixLen, h.masked⟩

end OverlayNetwork

/-! ## The configuration -/

inductive RouteMode where
  | gameOnly
  | protectedPrefixesOnly
  | fullTunnel
deriving DecidableEq

structure DytallixIdentityLookupConfig where
  endpoint : String
  contractAddress : String
  networkId : String
  chainId : String
  allowedRpcEndpoints : List String

structure DaemonConfig where
  interfaceName : String
  overlayCidr : String
  overlayIpv4Address : String
  routeMode : RouteMode
  underlayExemptions : List String
  activePeerId : Option String
  rendezvousServers : List String
  relayServers : List String
  rendezvousAuthTokenFile : Option String
  relayAuthTokenFile : Option String
  dytallixIdentity : Option DytallixIdentityLookupConfig
  publicationTtlSeconds : UInt64
  advertiseAddress : Option String

def DaemonConfig.default : DaemonConfig where
  interfaceName := "qlink0"
  overlayCidr := "100.64.0.0/10"
  overlayIpv4Address := "100.64.10.2"
  routeMode := .gameOnly
  underlayExemptions := []
  activePeerId := none
  rendezvousServers := []
  relayServers := []
  rendezvousAuthTokenFile := none
  relayAuthTokenFile := none
  dytallixIdentity := none
  publicationTtlSeconds := 120
  advertiseAddress := none

inductive ConfigValidationError where
  | emptyInterfaceName
  | invalidInterfaceName (name reason : String)
  | invalidOverlayCidr (value reason : String)
  | invalidOverlayIpv4Address (value reason : String)
  | emptyServerEntry (field : String) (index : Nat)
  | emptyConfigEntry (field : String)
  | invalidPublicationTtl (value : UInt64)
  | invalidAdvertiseAddress (value reason : String)
  | invalidUnderlayExemption (index : Nat) (value reason : String)
deriving DecidableEq

def ConfigValidationError.text : ConfigValidationError → String
  | .emptyInterfaceName => "invalid interfaceName: must not be empty"
  | .invalidInterfaceName name reason => "invalid interfaceName `" ++ name ++ "`: " ++ reason
  | .invalidOverlayCidr value reason => "invalid overlayCidr `" ++ value ++ "`: " ++ reason
  | .invalidOverlayIpv4Address value reason =>
    "invalid overlayIpv4Address `" ++ value ++ "`: " ++ reason
  | .emptyServerEntry field index =>
    "invalid " ++ field ++ "[" ++ toString index ++ "]: must not be empty"
  | .emptyConfigEntry field => "invalid " ++ field ++ ": must not be empty"
  | .invalidPublicationTtl value =>
    "invalid publicationTtlSeconds `" ++ toString value.toNat ++
      "`: must be between 2 and 86400"
  | .invalidAdvertiseAddress value reason =>
    "invalid advertiseAddress `" ++ value ++ "`: " ++ reason
  | .invalidUnderlayExemption index value reason =>
    "invalid underlayExemptions[" ++ toString index ++ "] `" ++ value ++ "`: " ++ reason

/-! ## Validation -/

def maxLinuxInterfaceNameBytes : Nat := 15

def validateInterfaceName (name : String) : Except ConfigValidationError Unit := do
  ensure (name ≠ "") .emptyInterfaceName
  ensure (name.utf8ByteSize ≤ maxLinuxInterfaceNameBytes)
    (.invalidInterfaceName name "must be 15 bytes or fewer")
  ensure (name ≠ "." ∧ name ≠ "..") (.invalidInterfaceName name "must not be '.' or '..'")
  ensure (name.toList.all (fun c => c.isAlphanum || c == '.' || c == '_' || c == '-') = true)
    (.invalidInterfaceName name "must contain only ASCII letters, digits, '.', '_' or '-'")

/-- The checks that overlay and exemptions share; `invalid` makes the error of the field, and
`shape` is its word for a text that is not of the form. -/
def parseNetwork (invalid : String → ConfigValidationError) (shape value : String) :
    Except ConfigValidationError OverlayNetwork := do
  let (address, length) ← okOr (splitOnce '/' value.toList) (invalid shape)
  ensure (address ≠ [] ∧ length ≠ [] ∧ '/' ∉ length) (invalid shape)
  let networkAddress ← okOr (readIpv4Addr address)
    (invalid ("invalid IPv4 network address: " ++ addrParseError))
  let prefixLen ← (readUInt8 length).mapError fun error =>
    invalid ("invalid IPv4 prefix length: " ++ error)
  ensure (1 ≤ prefixLen ∧ prefixLen ≤ 32) (invalid "IPv4 prefix length must be between 1 and 32")
  let network : OverlayNetwork := ⟨networkAddress, prefixLen⟩
  let canonicalAddress := networkAddress &&& network.mask
  ensure (networkAddress = canonicalAddress)
    (invalid ("must use canonical network address " ++ ipv4AddrText canonicalAddress ++ "/" ++
      toString prefixLen))
  pure network

def validateOverlayCidr (value : String) : Except ConfigValidationError OverlayNetwork :=
  parseNetwork (.invalidOverlayCidr value) "must be IPv4 CIDR notation like 100.64.0.0/10" value

def validateOverlayIpv4Address (value : String) : Except ConfigValidationError (BitVec 32) :=
  okOr (readIpv4Addr value.toList)
    (.invalidOverlayIpv4Address value ("invalid IPv4 address: " ++ addrParseError))

def validateOverlayAddressMembership (address : BitVec 32) (overlay : OverlayNetwork)
    (overlayCidr overlayAddress : String) : Except ConfigValidationError Unit :=
  ensure (overlay.Contains address)
    (.invalidOverlayIpv4Address overlayAddress ("must be within overlayCidr " ++ overlayCidr))

def parseUnderlayExemption (value : String) (index : Nat) :
    Except ConfigValidationError OverlayNetwork :=
  parseNetwork (.invalidUnderlayExemption index value) "must be canonical IPv4 CIDR notation" value

/-- The loop over the exemptions: the index of the next one and what was parsed before it. -/
def validateUnderlayExemptionsFrom (overlay : OverlayNetwork) :
    Nat → List OverlayNetwork → List String → Except ConfigValidationError Unit
  | _, _, [] => .ok ()
  | index, parsed, value :: exemptions => do
      let network ← parseUnderlayExemption value index
      ensure (¬ network.Overlaps overlay)
        (.invalidUnderlayExemption index value "must not overlap overlayCidr")
      ensure (network ∉ parsed)
        (.invalidUnderlayExemption index value "must not duplicate an earlier exemption")
      validateUnderlayExemptionsFrom overlay (index + 1) (parsed ++ [network]) exemptions

def validateUnderlayExemptions (exemptions : List String) (overlay : OverlayNetwork) :
    Except ConfigValidationError Unit :=
  validateUnderlayExemptionsFrom overlay 0 [] exemptions

def validateServerEntriesFrom (field : String) : Nat → List String → Except ConfigValidationError Unit
  | _, [] => .ok ()
  | index, entry :: entries => do
      ensure (trim entry ≠ []) (.emptyServerEntry field index)
      validateServerEntriesFrom field (index + 1) entries

variable (field : String)

def validateServerEntries (entries : List String) :
    Except ConfigValidationError Unit :=
  validateServerEntriesFrom field 0 entries

def validateNonempty (value : String) : Except ConfigValidationError Unit :=
  ensure (trim value ≠ []) (.emptyConfigEntry field)

def validateOptionalNonempty : Option String → Except ConfigValidationError Unit
  | some value => validateNonempty field value
  | none => .ok ()

def DytallixIdentityLookupConfig.validate (identity : DytallixIdentityLookupConfig) :
    Except ConfigValidationError Unit := do
  validateNonempty "dytallixIdentity.endpoint" identity.endpoint
  validateNonempty "dytallixIdentity.contractAddress" identity.contractAddress
  validateNonempty "dytallixIdentity.networkId" identity.networkId
  validateNonempty "dytallixIdentity.chainId" identity.chainId
  validateServerEntries "dytallixIdentity.allowedRpcEndpoints" identity.allowedRpcEndpoints

/-- `SocketAddr::from_str`: the text of the error for a text that is none. -/
abbrev SocketAddrs := String → Option String

variable (socketAddrs : SocketAddrs)

def validateAdvertiseAddress :
    Option String → Except ConfigValidationError Unit
  | none => .ok ()
  | some address => do
      validateNonempty "advertiseAddress" address
      match socketAddrs address with
      | none => pure ()
      | some error => .error (.invalidAdvertiseAddress address error)

namespace DaemonConfig

variable (config : DaemonConfig)

/-- The checks of interface, overlay and own address. -/
def validateOverlay : Except ConfigValidationError OverlayNetwork := do
  validateInterfaceName config.interfaceName
  let overlay ← validateOverlayCidr config.overlayCidr
  let overlayAddress ← validateOverlayIpv4Address config.overlayIpv4Address
  validateOverlayAddressMembership overlayAddress overlay config.overlayCidr
    config.overlayIpv4Address
  pure overlay

/-- The checks that come after the exemptions. -/
def validateServices :
    Except ConfigValidationError Unit := do
  validateOptionalNonempty "activePeerId" config.activePeerId
  validateServerEntries "rendezvousServers" config.rendezvousServers
  validateServerEntries "relayServers" config.relayServers
  validateOptionalNonempty "rendezvousAuthTokenFile" config.rendezvousAuthTokenFile
  validateOptionalNonempty "relayAuthTokenFile" config.relayAuthTokenFile
  match config.dytallixIdentity with
  | some identity => identity.validate
  | none => pure ()
  ensure (2 ≤ config.publicationTtlSeconds ∧ config.publicationTtlSeconds ≤ 86400)
    (.invalidPublicationTtl config.publicationTtlSeconds)
  validateAdvertiseAddress socketAddrs config.advertiseAddress

def validate :
    Except ConfigValidationError Unit := do
  let overlay ← config.validateOverlay
  validateUnderlayExemptions config.underlayExemptions overlay
  config.validateServices socketAddrs

end DaemonConfig

/-! ## What a configuration that passes has -/

theorem parseNetwork_canonical {i : String → ConfigValidationError} (h : parseNetwork i shape value = .ok network) :
    network.Canonical := by
  simp only [parseNetwork, bind_eq_ok_iff, ensure_eq_ok_iff, exists_const] at h
  obtain ⟨⟨a, l⟩, -, -, n, -, p, -, ⟨hp, hs⟩, hm, hn⟩ := h
  cases hn
  exact ⟨hp, hs, hm.symm⟩

/-- Every exemption is a network of its own that does not meet the overlay. -/
theorem validateUnderlayExemptionsFrom_eq_ok
    (h : validateUnderlayExemptionsFrom overlay index parsed exemptions = .ok ()) :
    ∀ value ∈ exemptions, ∃ position network,
      parseUnderlayExemption value position = .ok network ∧ ¬ network.Overlaps overlay := by
  induction exemptions generalizing index parsed with
  | nil => simp
  | cons value exemptions ih =>
    simp only [validateUnderlayExemptionsFrom, bind_eq_ok_iff, ensure_eq_ok_iff, exists_const] at h
    obtain ⟨network, hp, ho, -, hr⟩ := h
    intro o hot
    rcases List.mem_cons.mp hot with rfl | ht
    · exact ⟨index, network, hp, ho⟩
    · exact ih hr o ht

theorem default_validate : DaemonConfig.default.validate (fun _ => none) = .ok () := by decide +kernel

end QuantumLink.Network
