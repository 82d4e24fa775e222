import QuantumLink.Discovery.Codec
import QuantumLink.Identity.Agreement
import QuantumLink.Mesh.Inbound

/-! # What a device signs

One key signs a device's peer records, inbound assertions, handshake messages and registry bindings.
What is signed differs from one statement to the next, so a signature vouches for one only.
-/

namespace QuantumLink.Mesh

open Device Discovery Identity Session Json
open UnsignedPeerRecord

inductive DeviceStatement where
  | peerRecord (body : UnsignedPeerRecord)
  | inbound (peerId meshId : String) (timestampUnix : UInt64) (nonce : Bytes)
  | initiatorHello (version : UInt8) (suite : String) (context : PqcSessionContext) (nonce : Bytes)
    (key : DevicePublicKey)
  | responderHello (hello : PqcInitiatorHello) (version : UInt8) (suite : String)
    (context : PqcSessionContext) (nonce ek : Bytes) (key : DevicePublicKey)
  | initiatorFinish (hello : PqcInitiatorHello) (answer : PqcResponderHello)
    (ciphertext transcriptHash : Bytes)
  | binding (record : RegistryIdentityRecordV2)

def DeviceStatement.bytes : DeviceStatement → Bytes
  | .peerRecord body => body.canonicalBytes
  | .inbound peerId meshId timestampUnix nonce =>
    canonicalSigningBytes peerId meshId timestampUnix nonce
  | .initiatorHello version suite context nonce key =>
    initiatorHelloSigningBytes version suite context nonce key
  | .responderHello hello version suite context nonce ek key =>
    responderHelloSigningBytes hello version suite context nonce ek key
  | .initiatorFinish hello answer ciphertext transcriptHash =>
    initiatorFinishSigningBytes hello answer ciphertext transcriptHash
  | .binding record => (devicePayloadJson record).toBytes

theorem onChain_injective : Function.Injective RegistryIdentityRecordV2.onChain := by
  rintro ⟨_, _, _, _, _, a⟩ ⟨_, _, _, _, _, b⟩ h
  cases a <;> cases b <;> simp_all [RegistryIdentityRecordV2.onChain, RegistryIdentityStatusV2.onChain]

theorem device_statements_distinct : Function.Injective DeviceStatement.bytes ∧
    ∀ crates owner record (s : DeviceStatement),
      s.bytes ≠ (bindingPayloadJson crates owner record).toBytes := by
  refine ⟨fun a b h => ?_, fun crates owner record s h => ?_⟩
  · cases a <;> cases b <;> replace h := toBytes_injective h
    case peerRecord.peerRecord a b =>
      have hab := congrArg ofJson h
      simpa [ofJson_toJson] using hab
    case inbound.inbound n _ _ _ m =>
      simp only [obj.injEq, List.cons.injEq, Prod.mk.injEq, str.injEq] at h
      have hn : n = m := by simpa [Hex.decode_encode] using congrArg Hex.decode h.2.2.2.2.1.2
      simp_all [UInt64.toNat_inj]
    case binding.binding a b =>
      have hab : a.toJson = b.toJson := by simpa [devicePayloadJson] using h
      rw [← onChain_toJson, ← onChain_toJson b] at hab
      rw [onChain_injective (RegistryV2.StableIdentityRecord.toJson_injective hab)]
    -- Statements of two kinds have another first key, or another value there.
    all_goals simp_all [toJson, devicePayloadJson, unsignedResponderHelloJson,
      PqcInitiatorHello.toJson_injective.eq_iff, PqcResponderHello.toJson_injective.eq_iff,
      PqcSessionContext.toJson_injective.eq_iff, DevicePublicKey.toJson_injective.eq_iff]
  · cases s <;> simpa [toJson, devicePayloadJson, bindingPayloadJson,
      contractDomain] using toBytes_injective h

end QuantumLink.Mesh
