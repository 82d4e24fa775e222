import QuantumLink.Discovery.Codec
import QuantumLink.Foundation.Base64
import QuantumLink.Foundation.Json.Pretty
import QuantumLink.Frame.Protector

/-! # The file of the peer store

Without a key the records are written as JSON; with one, the JSON is masked with a key stream and
tagged, and an envelope carries the nonce and the masked text. What cannot be read is taken for an
empty store. SHAKE256 belongs to another crate and is a parameter.
-/

namespace QuantumLink.PeerStore

open Discovery List
open QuantumLink.Frame (Xof constantTimeEq constantTimeEq_iff zipWith_xor_cancel)
open Json

/-- The records of each mesh, by peer id. -/
abbrev Meshes := Table String (Table String PeerRecord)

structure PlaintextFormat where
  version : UInt32
  meshes : Meshes

structure EncryptedFormat where
  version : UInt32
  nonceB64 : String
  ciphertextB64 : String

def plaintextFormatVersion : UInt32 := 1
def legacyProtectedFormatVersion : UInt32 := 2
def encryptedFormatVersion : UInt32 := 3
def peerStoreKeyLen : Nat := 32
def peerStoreNonceLen : Nat := 24
def peerStoreTagLen : Nat := 32
def encryptionAad : Bytes := stringBytes "qlink-peer-store"
def peerStoreStreamLabel : Bytes := stringBytes "QuantumLink peer-store SHAKE256 stream v3"
def peerStoreTagLabel : Bytes := stringBytes "QuantumLink peer-store SHAKE256 tag v3"

abbrev StoreKey := { bytes : Bytes // bytes.length = peerStoreKeyLen }

abbrev StoreNonce := { bytes : Bytes // bytes.length = peerStoreNonceLen }

/-- `shake256_xof` of this module: the label as it is, the output length, the chunks. -/
def shake256Xof (xof : Xof) (label : Bytes) (chunks : List Bytes) (length : Nat) : Bytes :=
  xof.read length (label ++ (bigEndian 8 length ++ chunks.flatMap lenPrefixed))

def peerStoreMask (xof : Xof) (key : StoreKey) (nonce input : Bytes) : Bytes :=
  zipWith (· ^^^ ·) input
    (shake256Xof xof peerStoreStreamLabel [key.val, nonce, encryptionAad] input.length)

def peerStoreTag (xof : Xof) (key : StoreKey) (nonce ciphertext : Bytes) : Bytes :=
  shake256Xof xof peerStoreTagLabel [key.val, nonce, encryptionAad, ciphertext] peerStoreTagLen

open EncryptedFormat

theorem length_peerStoreMask (xof : Xof) (key : StoreKey) (n i : Bytes) :
    (peerStoreMask xof key n i).length = i.length := by
  simp [peerStoreMask, shake256Xof, xof.length_read]

theorem length_peerStoreTag (xof : Xof) (key : StoreKey) (n c : Bytes) :
    (peerStoreTag xof key n c).length = peerStoreTagLen :=
  xof.length_read _ _

theorem peerStoreMask_peerStoreMask :
    peerStoreMask xof key nonce (peerStoreMask xof key nonce input) = input := by
  have hl := length_peerStoreMask xof key nonce input
  conv_lhs => rw [peerStoreMask, hl]
  rw [peerStoreMask]
  apply zipWith_xor_cancel
  rw [shake256Xof, xof.length_read]

def PlaintextFormat.toJson (format : PlaintextFormat) : Json :=
  .obj [("version", .num format.version.toNat),
    ("meshes", ofMap (ofMap PeerRecord.toJson) format.meshes)]

def EncryptedFormat.toJson (format : EncryptedFormat) : Json :=
  .obj [("version", .num format.version.toNat), ("nonce_b64", .str format.nonceB64),
    ("ciphertext_b64", .str format.ciphertextB64)]

def innerBytes (snapshot : Meshes) : Bytes :=
  (PlaintextFormat.mk plaintextFormatVersion snapshot).toJson.toBytes

def envelope (xof : Xof) (snapshot : Meshes) (key : StoreKey) (nonce : StoreNonce) :
    EncryptedFormat :=
  let ciphertext := peerStoreMask xof key nonce.val (innerBytes snapshot)
  ⟨encryptedFormatVersion, Base64.encodeStandard nonce.val,
    Base64.encodeStandard (ciphertext ++ peerStoreTag xof key nonce.val ciphertext)⟩

def encoded (xof : Xof) (snapshot : Meshes) (nonce : StoreNonce) : Option StoreKey → Bytes
  | none => (PlaintextFormat.mk plaintextFormatVersion snapshot).toJson.toBytesPretty
  | some key => (envelope xof snapshot key nonce).toJson.toBytesPretty

def PlaintextFormat.ofJson (value : Json) : Option PlaintextFormat :=
  match openFields ["version", "meshes"] value with
  | some [version, meshes] => do
      pure {
        version := ← required asUInt32 version
        meshes := ← required (asMap (asMap PeerRecord.ofJson)) meshes }
  | _ => none

def EncryptedFormat.ofJson (value : Json) : Option EncryptedFormat :=
  match openFields ["version", "nonce_b64", "ciphertext_b64"] value with
  | some [version, nonce, ciphertext] => do
      pure {
        version := ← required asUInt32 version
        nonceB64 := ← required asString nonce
        ciphertextB64 := ← required asString ciphertext }
  | _ => none

/-- `VersionHeader`. -/
def versionOfJson (value : Json) : Option UInt32 :=
  match openFields ["version"] value with
  | some [version] => required asUInt32 version
  | _ => none

def openEnvelope (xof : Xof) (envelope : EncryptedFormat) (key : StoreKey) :
    Except String Meshes := do
  let nonce ← okOr (Base64.decodeStandard envelope.nonceB64) "nonce base64 decode failed"
  ensure (nonce.length = peerStoreNonceLen) "nonce must be exactly 24 bytes"
  let payload ← okOr (Base64.decodeStandard envelope.ciphertextB64)
    "ciphertext base64 decode failed"
  ensure (¬ payload.length < peerStoreTagLen) "ciphertext is too short to carry a tag"
  let ciphertext := payload.take (payload.length - peerStoreTagLen)
  let tag := payload.drop (payload.length - peerStoreTagLen)
  ensure (constantTimeEq tag (peerStoreTag xof key nonce ciphertext) = true)
    "ciphertext authentication failed (wrong key or tampered file)"
  let parsed ← okOr ((ofBytes (peerStoreMask xof key nonce ciphertext)).bind
    PlaintextFormat.ofJson) "opened payload is not v1 JSON"
  pure parsed.meshes

/-- A file that cannot be read is an empty store. -/
def decodeOrEmpty (xof : Xof) (bytes : Bytes) (key : Option StoreKey) : Meshes :=
  match (ofBytes bytes).bind versionOfJson with
  | none => ∅
  | some version =>
    if version = plaintextFormatVersion then
      match (ofBytes bytes).bind PlaintextFormat.ofJson with
      | some parsed => parsed.meshes
      | none => ∅
    else if version = legacyProtectedFormatVersion then ∅
    else if version = encryptedFormatVersion then
      match key with
      | none => ∅
      | some key =>
        match (ofBytes bytes).bind ofJson with
        | some envelope =>
          match openEnvelope xof envelope key with
          | .ok meshes => meshes
          | .error _ => ∅
        | none => ∅
    else ∅

/-! ## What is written is read back -/

theorem PlaintextFormat.ofJson_toJson (format : PlaintextFormat) :
    PlaintextFormat.ofJson format.toJson = some format := by
  have hz : openFields ["version", "meshes"] format.toJson = _ :=
    openFields_zip _ (by decide) [.num format.version.toNat,
      ofMap (ofMap PeerRecord.toJson) format.meshes] rfl
  have hm := asMap_ofMap (asMap_ofMap PeerRecord.ofJson_toJson) format.meshes
  simp [PlaintextFormat.ofJson, hz, hm]

theorem EncryptedFormat.ofJson_toJson (format : EncryptedFormat) :
    ofJson format.toJson = some format := by
  have hz : openFields ["version", "nonce_b64", "ciphertext_b64"] format.toJson = _ :=
    openFields_zip _ (by decide) [.num format.version.toNat, .str format.nonceB64,
      .str format.ciphertextB64] rfl
  simp [ofJson, hz]

theorem versionOfJson_plaintext (f : PlaintextFormat) : versionOfJson f.toJson = some f.version := by
  simp [versionOfJson, PlaintextFormat.toJson, openFields, lookup]

theorem versionOfJson_encrypted (f : EncryptedFormat) : versionOfJson f.toJson = some f.version := by
  simp [versionOfJson, toJson, openFields, lookup]

/-- An envelope opens if its payload ends in the tag of what comes before, under the key. -/
theorem openEnvelope_eq_ok_iff : openEnvelope xof sealed key = .ok meshes ↔
      ∃ nonce ciphertext parsed, Base64.decodeStandard sealed.nonceB64 = some nonce ∧
        nonce.length = peerStoreNonceLen ∧
        Base64.decodeStandard sealed.ciphertextB64 =
          some (ciphertext ++ peerStoreTag xof key nonce ciphertext) ∧
        (ofBytes (peerStoreMask xof key nonce ciphertext)).bind PlaintextFormat.ofJson =
          some parsed ∧ parsed.meshes = meshes := by
  simp only [openEnvelope, bind_eq_ok_iff, okOr_eq_ok_iff, ensure_eq_ok_iff, exists_const,
    constantTimeEq_iff, pure, Except.pure, Except.ok.injEq]
  constructor
  · rintro ⟨nonce, hn, hl, p, hp, -, ht, parsed, ha, hm⟩
    refine ⟨nonce, _, parsed, hn, hl, ?_, ha, hm⟩
    rw [← ht, take_append_drop]
    exact hp
  · rintro ⟨nonce, ciphertext, parsed, hn, hl, hp, ha, hm⟩
    have ht := length_peerStoreTag xof key nonce ciphertext
    have hc : (ciphertext ++ peerStoreTag xof key nonce ciphertext).length - peerStoreTagLen =
        ciphertext.length := by
      rw [length_append, ht, Nat.add_sub_cancel]
    refine ⟨nonce, hn, hl, _, hp, ?_, ?_⟩
    · rw [length_append, ht]
      omega
    · rw [hc, take_left, drop_left]
      exact ⟨rfl, parsed, ha, hm⟩

theorem openEnvelope_envelope (xof : Xof) (snapshot : Meshes) (key : StoreKey) (n : StoreNonce) :
    openEnvelope xof (envelope xof snapshot key n) key = .ok snapshot := by
  refine openEnvelope_eq_ok_iff.mpr ⟨n.val, peerStoreMask xof key n.val (innerBytes snapshot),
    ⟨plaintextFormatVersion, snapshot⟩, ?_, n.property, ?_, ?_, rfl⟩
  · exact Base64.decodeStandard_encodeStandard _
  · exact Base64.decodeStandard_encodeStandard _
  · rw [peerStoreMask_peerStoreMask, innerBytes, ofBytes_toBytes, Option.bind_some,
      PlaintextFormat.ofJson_toJson]

theorem decodeOrEmpty_encoded (xof : Xof) (snapshot : Meshes) (n : StoreNonce)
    (key : Option StoreKey) : decodeOrEmpty xof (encoded xof snapshot n key) key = snapshot := by
  cases key with
  | none =>
    simp [decodeOrEmpty, encoded, ofBytes_toBytesPretty, versionOfJson_plaintext, PlaintextFormat.ofJson_toJson]
  | some key =>
    have hv : (envelope xof snapshot key n).version = encryptedFormatVersion := rfl
    simp only [decodeOrEmpty, encoded, ofBytes_toBytesPretty, Option.bind_some,
      versionOfJson_encrypted, ofJson_toJson, hv, openEnvelope_envelope]
    rfl

/-! ## Envelopes of a key -/

/-- The file is an envelope that opens under the key. -/
def EnvelopeOf (xof : Xof) (key : StoreKey) (bytes : Bytes) : Prop :=
  ∃ sealed meshes, (ofBytes bytes).bind ofJson = some sealed ∧
    openEnvelope xof sealed key = .ok meshes

theorem envelopeOf_encoded (xof : Xof) (s : Meshes) (n : StoreNonce) (key : StoreKey) :
    EnvelopeOf xof key (encoded xof s n (some key)) := by
  refine ⟨envelope xof s key n, s, ?_, openEnvelope_envelope xof s key n⟩
  rw [encoded, ofBytes_toBytesPretty, Option.bind_some, ofJson_toJson]

/-- A plaintext file is no envelope, and an envelope opens under another key only if the tags of
the two keys are the same on it. -/
theorem tag_eq_of_envelopeOf (h : EnvelopeOf xof other (encoded xof snapshot nonce key)) :
    ∃ own ciphertext, key = some own ∧
      peerStoreTag xof other nonce.val ciphertext = peerStoreTag xof own nonce.val ciphertext := by
  obtain ⟨s, m, hs, ho⟩ := h
  cases key with
  | none =>
    rw [encoded, ofBytes_toBytesPretty, Option.bind_some] at hs
    simp [ofJson, PlaintextFormat.toJson, openFields, lookup, required] at hs
  | some own =>
    rw [encoded, ofBytes_toBytesPretty, Option.bind_some, ofJson_toJson]
      at hs
    cases hs
    obtain ⟨nonce', ciphertext, -, hn, -, hp, -⟩ := openEnvelope_eq_ok_iff.mp ho
    rw [envelope, Base64.decodeStandard_encodeStandard] at hn hp
    cases hn
    have hsp := append_inj' (Option.some.inj hp)
      (by rw [length_peerStoreTag, length_peerStoreTag])
    refine ⟨own, ciphertext, rfl, ?_⟩
    rw [← hsp.1]
    rw [← hsp.1] at hsp
    exact hsp.2.symm

/-! ## Protected files that are not what was written -/

theorem decodeOrEmpty_of_not_envelopeOf
    (hv : (ofBytes bytes).bind versionOfJson = some encryptedFormatVersion)
    (h : ∀ own ∈ key, ¬ EnvelopeOf xof own bytes) : decodeOrEmpty xof bytes key = ∅ := by
  unfold decodeOrEmpty
  rw [hv]
  cases key with
  | none => rfl
  | some own =>
    cases hs : (ofBytes bytes).bind ofJson with
    | none => rfl
    | some s =>
      cases ho : openEnvelope xof s own with
      | error _ =>
        simp only [ho]
        rfl
      | ok m => exact absurd ⟨s, m, hs, ho⟩ (h own rfl)

/-- The nonce and the payload of the envelope in a file, decoded. -/
def contents (bytes : Bytes) : Option (Bytes × Bytes) := do
  let sealed ← (ofBytes bytes).bind ofJson
  pure (← Base64.decodeStandard sealed.nonceB64, ← Base64.decodeStandard sealed.ciphertextB64)

/-- Only who has the key can compute a tag: if a file carries the tag of its nonce and ciphertext
under a key, they were sealed under that key. One file was sealed, under the key `own`. -/
def Unforgeable (xof : Xof) (own : StoreKey) (file : Bytes) (key : StoreKey) (bytes : Bytes) :
    Prop :=
  ∀ nonce ciphertext, contents bytes = some (nonce, ciphertext ++ peerStoreTag xof key nonce ciphertext) →
    key = own ∧ contents file = contents bytes

theorem EnvelopeOf.of_unforgeable (h : EnvelopeOf xof key bytes)
    (hu : Unforgeable xof own file key bytes) :
    key = own ∧ contents file = contents bytes := by
  obtain ⟨s, m, hs, ho⟩ := h
  obtain ⟨n, c, -, hn, -, hp, -⟩ := openEnvelope_eq_ok_iff.mp ho
  refine hu n c ?_
  simp [contents, hs, hn, hp]

/-- A file is read back under the key it was written with, and a protected one under no other key
and not after its nonce or its payload was changed. -/
theorem peer_store_file_round_trip (xof : Xof) (snapshot : Meshes) (nonce : StoreNonce) :
    (∀ key, decodeOrEmpty xof (encoded xof snapshot nonce key) key = snapshot) ∧
    ∀ (own : StoreKey) (file : Bytes), file = encoded xof snapshot nonce (some own) →
      decodeOrEmpty xof file none = ∅ ∧
      (∀ other, other ≠ own → Unforgeable xof own file other file →
        decodeOrEmpty xof file (some other) = ∅) ∧
      ∀ (key : Option StoreKey) (bytes : Bytes),
        (ofBytes bytes).bind versionOfJson = some encryptedFormatVersion →
        contents bytes ≠ contents file → (∀ k ∈ key, Unforgeable xof own file k bytes) →
        decodeOrEmpty xof bytes key = ∅ := by
  refine ⟨decodeOrEmpty_encoded xof snapshot nonce, ?_⟩
  rintro own file rfl
  have hv : (ofBytes (encoded xof snapshot nonce (some own))).bind versionOfJson =
      some encryptedFormatVersion := by
    rw [encoded, ofBytes_toBytesPretty, Option.bind_some, versionOfJson_encrypted]
    rfl
  refine ⟨decodeOrEmpty_of_not_envelopeOf hv nofun, ?_, ?_⟩
  · intro other ho hu
    refine decodeOrEmpty_of_not_envelopeOf hv ?_
    rintro _ ⟨⟩ he
    exact ho (he.of_unforgeable hu).1
  · intro key bytes hke hc hu
    refine decodeOrEmpty_of_not_envelopeOf hke fun k hk he => ?_
    exact hc (he.of_unforgeable (hu k hk)).2.symm

def sampleXof : Xof := ⟨Shake256.hash, Shake256.length_hash⟩

def sampleNonce : StoreNonce := ⟨replicate peerStoreNonceLen 7, length_replicate⟩

def keyOne : StoreKey := ⟨replicate peerStoreKeyLen 1, length_replicate⟩

def keyTwo : StoreKey := ⟨replicate peerStoreKeyLen 2, length_replicate⟩

/-- A file under one key, read with another one: the two tag what it carries differently. -/
theorem other_key_reads_nothing :
    decodeOrEmpty sampleXof (encoded sampleXof ∅ sampleNonce (some keyOne)) (some keyTwo) = ∅ := by
  obtain ⟨-, hread, -⟩ := (peer_store_file_round_trip sampleXof ∅ sampleNonce).2 keyOne _ rfl
  refine hread keyTwo (by decide) fun nonce ciphertext hc => ?_
  simp only [contents, encoded, ofBytes_toBytesPretty, ofJson_toJson, envelope, Option.bind_some,
    Base64.decodeStandard_encodeStandard, bind, pure, Option.some.injEq, Prod.mk.injEq] at hc
  obtain ⟨rfl, hc⟩ := hc
  obtain ⟨rfl, ht⟩ := append_inj' hc (by rw [length_peerStoreTag, length_peerStoreTag])
  exact absurd ht (by decide +kernel)

end QuantumLink.PeerStore
