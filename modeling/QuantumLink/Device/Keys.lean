import QuantumLink.Foundation.Chunks
import QuantumLink.Foundation.Hex
import QuantumLink.Foundation.Json.Record
import QuantumLink.Foundation.Op

/-! # Device keys

The device keys of `qlink-core`: a public key with the name of its algorithm, the peer
id derived from it, and signing and verification. The two signature schemes and the
SHAKE256 function belong to other crates and are parameters; the bytes they are given
and the checks before and after them are modelled.
-/

namespace QuantumLink.Device

open Json (stringBytes)
open List

/-- The errors of `qlink-core` that the modelled functions return. -/
inductive QlinkError where
  | invalidKey (message : String)
  | crypto (message : String)
  | protocol (message : String)
  | recordExpired
  | signatureVerification
  | io (message : String)
  | json (message : String)
deriving DecidableEq

/-! ## Primitives of other crates -/

/-- A signature crate: which bytes it reads as a key and as a signature, and verification. -/
structure SignatureCrate where
  decodesKey : Bytes → Bool
  decodesSignature : Bytes → Bool
  verify : Bytes → Bytes → Bytes → Bool

structure DeviceCrates where
  /-- The first bytes of the output for a message. -/
  shake256 : Nat → Bytes → Bytes
  mlDsa65 : SignatureCrate
  slhDsaShake128s : SignatureCrate

/-- `shake256_xof::<N>`: a fixed label, the domain, the output length and the chunks. -/
def xofInput (outputLength : Nat) (domain : Bytes) (chunks : List Bytes) : Bytes :=
  stringBytes "QuantumLink SHAKE256 XOF v1" ++ (lenPrefixed domain ++
    (bigEndian 8 outputLength ++ chunks.flatMap lenPrefixed))

variable (crates : DeviceCrates)

def shake256Xof (outputLength : Nat) (domain : Bytes) (chunks : List Bytes) : Bytes :=
  crates.shake256 outputLength (xofInput outputLength domain chunks)

/-! ## Keys -/

structure DevicePublicKey where
  algorithm : String
  bytes : Bytes
deriving DecidableEq

def DevicePublicKey.toJson (key : DevicePublicKey) : Json :=
  .obj [("algorithm", .str key.algorithm), ("bytes", .ofByteList key.bytes)]

theorem DevicePublicKey.toJson_injective : Function.Injective DevicePublicKey.toJson := by
  intro a b h
  cases a
  cases b
  simpa [DevicePublicKey.toJson] using h

structure SigningKey where
  verifyingKey : Bytes
  sign : Bytes → Bytes

inductive DeviceSigningKey where
  | mlDsa (key : SigningKey)
  | slhDsa (key : SigningKey)

structure DeviceKeypair where
  signingKey : DeviceSigningKey

def DeviceKeypair.publicKey (keypair : DeviceKeypair) : DevicePublicKey :=
  match keypair.signingKey with
  | .mlDsa key => ⟨"ML-DSA-65", key.verifyingKey⟩
  | .slhDsa key => ⟨"SLH-DSA-SHAKE-128S", key.verifyingKey⟩

def DeviceKeypair.sign (keypair : DeviceKeypair) (message : Bytes) : Bytes :=
  match keypair.signingKey with
  | .mlDsa key => key.sign message
  | .slhDsa key => key.sign message

/-! ## Peer ids -/

def peerIdDomain : String := "QuantumLink device peer id v1"

def DevicePublicKey.peerDigest (key : DevicePublicKey) : Bytes :=
  shake256Xof crates 16 (stringBytes peerIdDomain) [stringBytes key.algorithm, key.bytes]

def DevicePublicKey.peerId (key : DevicePublicKey) : String :=
  "qlink_" ++ Base64.encodeUrlNoPad (key.peerDigest crates)

def DevicePublicKey.peerInput (key : DevicePublicKey) : Bytes :=
  xofInput 16 (stringBytes peerIdDomain) [stringBytes key.algorithm, key.bytes]

theorem DevicePublicKey.peerDigest_eq_of_peerId_eq {crates : DeviceCrates} {a b : DevicePublicKey}
    (h : a.peerId crates = b.peerId crates) : a.peerDigest crates = b.peerDigest crates :=
  Base64.encodeUrlNoPad_injective ((String.append_right_inj _).mp h)

theorem DevicePublicKey.peerInput_inj {a b : DevicePublicKey} (ha : a.algorithm = b.algorithm)
    (h : a.peerInput = b.peerInput) : a = b := by
  unfold peerInput xofInput at h
  rw [ha] at h
  simp only [append_cancel_left_eq, flatMap_cons, flatMap_nil, append_nil] at h
  cases a
  cases b
  simp only [DevicePublicKey.mk.injEq]
  exact ⟨ha, lenPrefixed_injective h⟩

theorem DevicePublicKey.peerInput_inj_of_mlDsa {key : DevicePublicKey} {k : DeviceKeypair}
    (ha : key.algorithm = "ML-DSA-65") (h : key.peerInput = k.publicKey.peerInput) :
    key = k.publicKey := by
  cases hk : k.signingKey with
  | mlDsa s =>
    apply peerInput_inj _ h
    rw [ha, DeviceKeypair.publicKey, hk]
  | slhDsa s =>
    -- The algorithm names have different lengths, so the inputs differ where the first is written.
    exfalso
    have hn : k.publicKey.algorithm = "SLH-DSA-SHAKE-128S" := by
      rw [DeviceKeypair.publicKey, hk]
    unfold peerInput xofInput at h
    rw [ha, hn] at h
    simp only [append_cancel_left_eq, flatMap_cons, lenPrefixed, append_assoc] at h
    have hl := (append_inj h (by simp)).1
    exact absurd hl (by decide)

/-! ## Verification -/

def mlDsa65KeyLength : Nat := 1952
def mlDsa65SignatureLength : Nat := 3309

def DevicePublicKey.verify (crates : DeviceCrates) (key : DevicePublicKey)
    (message signature : Bytes) : Except QlinkError Unit :=
  if key.algorithm = "ML-DSA-65" then do
    ensure (key.bytes.length = mlDsa65KeyLength) (.invalidKey "invalid ML-DSA-65 public key size")
    ensure (signature.length = mlDsa65SignatureLength)
      (.invalidKey "invalid ML-DSA-65 signature size")
    ensure (crates.mlDsa65.decodesSignature signature = true) .signatureVerification
    ensure (crates.mlDsa65.verify key.bytes message signature = true) .signatureVerification
  else if key.algorithm = "SLH-DSA-SHAKE-128S" then do
    ensure (crates.slhDsaShake128s.decodesKey key.bytes = true)
      (.invalidKey "invalid SLH-DSA-SHAKE-128S public key size")
    ensure (crates.slhDsaShake128s.decodesSignature signature = true)
      (.invalidKey "invalid SLH-DSA-SHAKE-128S signature size")
    ensure (crates.slhDsaShake128s.verify key.bytes message signature = true)
      .signatureVerification
  else .error (.invalidKey ("unsupported device key algorithm " ++ key.algorithm))

end QuantumLink.Device
