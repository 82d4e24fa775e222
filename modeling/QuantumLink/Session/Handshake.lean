import QuantumLink.Device.Keys

/-! # The authenticated PQC handshake

`session_crypto` of `qlink-core`: the three messages of a session, the bytes each side
signs, the transcript hash and the directional keys, and the four functions that make and
check the messages. Random values (nonces, key seeds, encapsulation randomness) are
arguments, since the run that uses the functions chooses them. ML-KEM-768 belongs to
another crate and is a parameter. Byte arrays of fixed length are plain byte strings
here; the wire format is what fixes the length of a received one.
-/

namespace QuantumLink.Session

open Device Json

/-! ## Messages -/

def pqcSessionVersion : UInt8 := 1
def pqcSessionSuite : String := "QLINK-FIPS203-MLKEM768-SHAKE256-v1"

structure PqcSessionContext where
  meshId : String
  initiatorPeerId : String
  responderPeerId : String
  carrierBinding : Bytes
deriving DecidableEq

structure PqcInitiatorHello where
  version : UInt8
  suite : String
  context : PqcSessionContext
  initiatorNonce : Bytes
  initiatorPublicKey : DevicePublicKey
  signature : Bytes

structure PqcResponderHello where
  version : UInt8
  suite : String
  context : PqcSessionContext
  responderNonce : Bytes
  responderMlkem768Ek : Bytes
  responderPublicKey : DevicePublicKey
  signature : Bytes

structure PqcInitiatorFinish where
  version : UInt8
  suite : String
  mlkem768Ciphertext : Bytes
  transcriptHash : Bytes
  signature : Bytes

structure SessionKeys where
  suite : String
  handshakeHash : Bytes
  txKey : Bytes
  rxKey : Bytes

structure PqcInitiatorState where
  hello : PqcInitiatorHello

structure PqcResponderState where
  hello : PqcResponderHello
  initiatorHello : PqcInitiatorHello
  mlkem768Secret : Bytes

/-- The `ml_kem` crate, with its randomness as an argument. -/
structure MlKem768 where
  /-- From a seed, the decapsulation key and the encoded encapsulation key. -/
  generateKeypair : Bytes → Bytes × Bytes
  /-- `EncapsulationKey::new` on bytes of the right length. -/
  acceptsKey : Bytes → Bool
  /-- From a key and randomness, the ciphertext and the shared secret. -/
  encapsulate : Bytes → Bytes → Bytes × Bytes
  decapsulate : Bytes → Bytes → Bytes

structure SessionCrates where
  device : DeviceCrates
  kem : MlKem768
  /-- The text of the JSON crate's error on an input. -/
  serdeError : Bytes → String

def mlkem768EkLength : Nat := 1184
def mlkem768CiphertextLength : Nat := 1088

/-! ## JSON -/

def PqcSessionContext.toJson (context : PqcSessionContext) : Json :=
  .obj [("mesh_id", .str context.meshId),
    ("initiator_peer_id", .str context.initiatorPeerId),
    ("responder_peer_id", .str context.responderPeerId),
    ("carrier_binding", .ofByteList context.carrierBinding)]

def PqcInitiatorHello.toJson (hello : PqcInitiatorHello) : Json :=
  .obj [("version", .ofUInt8 hello.version),
    ("suite", .str hello.suite),
    ("context", hello.context.toJson),
    ("initiator_nonce", .ofByteList hello.initiatorNonce),
    ("initiator_public_key", hello.initiatorPublicKey.toJson),
    ("signature", .ofByteList hello.signature)]

def PqcResponderHello.toJson (hello : PqcResponderHello) : Json :=
  .obj [("version", .ofUInt8 hello.version),
    ("suite", .str hello.suite),
    ("context", hello.context.toJson),
    ("responder_nonce", .ofByteList hello.responderNonce),
    ("responder_mlkem768_ek", .ofByteList hello.responderMlkem768Ek),
    ("responder_public_key", hello.responderPublicKey.toJson),
    ("signature", .ofByteList hello.signature)]

def PqcInitiatorFinish.toJson (finish : PqcInitiatorFinish) : Json :=
  .obj [("version", .ofUInt8 finish.version),
    ("suite", .str finish.suite),
    ("mlkem768_ciphertext", .ofByteList finish.mlkem768Ciphertext),
    ("transcript_hash", .ofByteList finish.transcriptHash),
    ("signature", .ofByteList finish.signature)]

/-! ## Signed and hashed bytes -/

def initiatorHelloSigningBytes (version : UInt8) (suite : String) (context : PqcSessionContext)
    (initiatorNonce : Bytes) (initiatorPublicKey : DevicePublicKey) : Bytes :=
  (obj [("tag", .str "qlink.pqc_session.initiator_hello.v1"),
    ("version", .ofUInt8 version),
    ("suite", .str suite),
    ("context", context.toJson),
    ("initiator_nonce", .ofByteList initiatorNonce),
    ("initiator_public_key", initiatorPublicKey.toJson)]).toBytes

def unsignedResponderHelloJson (version : UInt8) (suite : String) (context : PqcSessionContext)
    (responderNonce responderMlkem768Ek : Bytes) (responderPublicKey : DevicePublicKey) : Json :=
  .obj [("version", .ofUInt8 version),
    ("suite", .str suite),
    ("context", context.toJson),
    ("responder_nonce", .ofByteList responderNonce),
    ("responder_mlkem768_ek", .ofByteList responderMlkem768Ek),
    ("responder_public_key", responderPublicKey.toJson)]

variable (initiatorHello : PqcInitiatorHello)

def responderHelloSigningBytes (version : UInt8) (suite : String) (context : PqcSessionContext)
    (responderNonce responderMlkem768Ek : Bytes) (responderPublicKey : DevicePublicKey) : Bytes :=
  (obj [("tag", .str "qlink.pqc_session.responder_hello.v1"),
    ("initiator_hello", initiatorHello.toJson),
    ("responder", unsignedResponderHelloJson version suite context responderNonce
      responderMlkem768Ek responderPublicKey)]).toBytes

variable (responderHello : PqcResponderHello)

def initiatorFinishSigningBytes (mlkem768Ciphertext transcriptHash : Bytes) : Bytes :=
  (obj [("tag", .str "qlink.pqc_session.initiator_finish.v1"),
    ("initiator_hello", initiatorHello.toJson),
    ("responder_hello", responderHello.toJson),
    ("finish", .obj [("version", .ofUInt8 pqcSessionVersion),
      ("suite", .str responderHello.suite),
      ("mlkem768_ciphertext", .ofByteList mlkem768Ciphertext),
      ("transcript_hash", .ofByteList transcriptHash)])]).toBytes

def transcriptBytes :
    Bytes :=
  (obj [("tag", .str "qlink.pqc_session.transcript.v1"),
    ("initiator_hello", initiatorHello.toJson),
    ("responder_hello", responderHello.toJson)]).toBytes

def transcriptHash (crates : SessionCrates) (initiatorHello : PqcInitiatorHello)
    (responderHello : PqcResponderHello) : Bytes :=
  crates.device.shake256 32 (transcriptBytes initiatorHello responderHello)

inductive Direction where
  | initiator
  | responder

def keyDerivationBytes (mlkemShared transcriptHash : Bytes) (suite : String) : Bytes :=
  (obj [("tag", .str "qlink.pqc_session.keys.v1"),
    ("suite", .str suite),
    ("transcript_hash", .ofByteList transcriptHash),
    ("mlkem_shared", .ofByteList mlkemShared)]).toBytes

/-- The sending and the receiving key of one side. -/
def deriveDirectionalKeys (crates : SessionCrates) (mlkemShared transcriptHash : Bytes)
    (suite : String) (direction : Direction) : Bytes × Bytes :=
  let okm := crates.device.shake256 64 (keyDerivationBytes mlkemShared transcriptHash suite)
  let i2r := okm.take 32
  let r2i := okm.drop 32
  match direction with
  | .initiator => (i2r, r2i)
  | .responder => (r2i, i2r)

/-! ## Checks -/

def validateSessionSuite (version : UInt8) (suite : String) : Except QlinkError Unit := do
  ensure (version = pqcSessionVersion)
    (.protocol ("unsupported PQC session version " ++ toString version.toNat))
  ensure (suite = pqcSessionSuite) (.protocol ("unsupported PQC session suite " ++ suite))

def validateMlDsaPublicKey (key : DevicePublicKey) : Except QlinkError Unit :=
  ensure (key.algorithm = "ML-DSA-65")
    (.invalidKey ("PQC session requires ML-DSA-65 device key, got " ++ key.algorithm))

def ensurePeerId (crates : SessionCrates) (key : DevicePublicKey) (expectedPeerId role : String) :
    Except QlinkError Unit :=
  ensure (key.peerId crates.device = expectedPeerId)
    (.protocol (role ++ " public key peer_id " ++ key.peerId crates.device ++
      " does not match context peer_id " ++ expectedPeerId))

def validateResponderHello (crates : SessionCrates) (initiator : PqcInitiatorHello)
    (responder : PqcResponderHello) : Except QlinkError Unit := do
  validateSessionSuite responder.version responder.suite
  ensure (responder.suite = initiator.suite)
    (.protocol "responder hello suite does not match initiator hello")
  ensure (responder.context = initiator.context)
    (.protocol "responder hello context does not match initiator hello")
  validateMlDsaPublicKey responder.responderPublicKey
  ensurePeerId crates responder.responderPublicKey initiator.context.responderPeerId "responder"

/-- `random_nonce`: what the generator of the system gives. -/
def randomNonce (random : Except String Bytes) : Except QlinkError Bytes := random.mapError .crypto

/-! ## The two sides -/

def signedInitiatorHello (keypair : DeviceKeypair) (context : PqcSessionContext) (nonce : Bytes) :
    PqcInitiatorHello where
  version := pqcSessionVersion
  suite := pqcSessionSuite
  context := context
  initiatorNonce := nonce
  initiatorPublicKey := keypair.publicKey
  signature := keypair.sign (initiatorHelloSigningBytes pqcSessionVersion pqcSessionSuite context
    nonce keypair.publicKey)

def startPqcSession (crates : SessionCrates) (context : PqcSessionContext) (keypair : DeviceKeypair)
    (random : Except String Bytes) : Except QlinkError PqcInitiatorState := do
  validateMlDsaPublicKey keypair.publicKey
  ensurePeerId crates keypair.publicKey context.initiatorPeerId "initiator"
  let nonce ← randomNonce random
  pure ⟨signedInitiatorHello keypair context nonce⟩

def signedResponderHello (keypair : DeviceKeypair) (hello : PqcInitiatorHello)
    (context : PqcSessionContext) (nonce ek : Bytes) : PqcResponderHello where
  version := pqcSessionVersion
  suite := pqcSessionSuite
  context := context
  responderNonce := nonce
  responderMlkem768Ek := ek
  responderPublicKey := keypair.publicKey
  signature := keypair.sign (responderHelloSigningBytes hello pqcSessionVersion pqcSessionSuite
    context nonce ek keypair.publicKey)

def answerPqcSession (crates : SessionCrates) (hello : PqcInitiatorHello)
    (context : PqcSessionContext) (keypair : DeviceKeypair) (kemSeed : Bytes)
    (random : Except String Bytes) : Except QlinkError PqcResponderState := do
  validateSessionSuite hello.version hello.suite
  ensure (hello.context = context)
    (.protocol "initiator hello context does not match responder context")
  validateMlDsaPublicKey hello.initiatorPublicKey
  ensurePeerId crates hello.initiatorPublicKey context.initiatorPeerId "initiator"
  hello.initiatorPublicKey.verify crates.device
    (initiatorHelloSigningBytes hello.version hello.suite hello.context hello.initiatorNonce
      hello.initiatorPublicKey) hello.signature
  validateMlDsaPublicKey keypair.publicKey
  ensurePeerId crates keypair.publicKey context.responderPeerId "responder"
  let kemKeypair := crates.kem.generateKeypair kemSeed
  let nonce ← randomNonce random
  pure ⟨signedResponderHello keypair hello context nonce kemKeypair.2, hello, kemKeypair.1⟩

def signedInitiatorFinish (crates : SessionCrates) (keypair : DeviceKeypair)
    (hello : PqcInitiatorHello) (responder : PqcResponderHello) (ciphertext : Bytes) :
    PqcInitiatorFinish where
  version := pqcSessionVersion
  suite := responder.suite
  mlkem768Ciphertext := ciphertext
  transcriptHash := transcriptHash crates hello responder
  signature := keypair.sign (initiatorFinishSigningBytes hello responder ciphertext
    (transcriptHash crates hello responder))

/-- What a side returns once it has the shared secret. -/
def sessionKeys (crates : SessionCrates) (hello : PqcInitiatorHello) (responder : PqcResponderHello)
    (shared : Bytes) (direction : Direction) : SessionKeys :=
  let hash := transcriptHash crates hello responder
  let keys := deriveDirectionalKeys crates shared hash responder.suite direction
  ⟨responder.suite, hash, keys.1, keys.2⟩

def PqcInitiatorState.finish (crates : SessionCrates) (state : PqcInitiatorState)
    (responder : PqcResponderHello) (keypair : DeviceKeypair) (randomness : Bytes) :
    Except QlinkError (PqcInitiatorFinish × SessionKeys) := do
  validateResponderHello crates state.hello responder
  validateMlDsaPublicKey keypair.publicKey
  ensure (keypair.publicKey = state.hello.initiatorPublicKey)
    (.protocol "initiator finish keypair does not match initiator hello public key")
  responder.responderPublicKey.verify crates.device
    (responderHelloSigningBytes state.hello responder.version responder.suite responder.context
      responder.responderNonce responder.responderMlkem768Ek responder.responderPublicKey)
    responder.signature
  ensure (responder.responderMlkem768Ek.length = mlkem768EkLength)
    (.invalidKey "invalid ML-KEM-768 encapsulation key size")
  ensure (crates.kem.acceptsKey responder.responderMlkem768Ek = true)
    (.invalidKey "invalid ML-KEM-768 encapsulation key")
  let encapsulated := crates.kem.encapsulate responder.responderMlkem768Ek randomness
  pure (signedInitiatorFinish crates keypair state.hello responder encapsulated.1,
    sessionKeys crates state.hello responder encapsulated.2 .initiator)

def PqcResponderState.finish (crates : SessionCrates) (state : PqcResponderState)
    (finish : PqcInitiatorFinish) : Except QlinkError SessionKeys := do
  validateSessionSuite finish.version finish.suite
  ensure (finish.suite = state.hello.suite)
    (.protocol "initiator finish suite does not match responder hello")
  let expectedHash := transcriptHash crates state.initiatorHello state.hello
  ensure (finish.transcriptHash = expectedHash) (.protocol "transcript hash mismatch")
  state.initiatorHello.initiatorPublicKey.verify crates.device
    (initiatorFinishSigningBytes state.initiatorHello state.hello finish.mlkem768Ciphertext
      finish.transcriptHash) finish.signature
  ensure (finish.mlkem768Ciphertext.length = mlkem768CiphertextLength)
    (.invalidKey "invalid ML-KEM-768 ciphertext size")
  let shared := crates.kem.decapsulate state.mlkem768Secret finish.mlkem768Ciphertext
  pure (sessionKeys crates state.initiatorHello state.hello shared .responder)

/-! ## What success means -/

section

variable {crates : SessionCrates} {keypair : DeviceKeypair}

theorem startPqcSession_eq_ok_iff : startPqcSession crates context keypair random = .ok state ↔
      keypair.publicKey.algorithm = "ML-DSA-65" ∧
      keypair.publicKey.peerId crates.device = context.initiatorPeerId ∧
      ∃ nonce, random = .ok nonce ∧ state = ⟨signedInitiatorHello keypair context nonce⟩ := by
  simp [startPqcSession, validateMlDsaPublicKey, ensurePeerId, randomNonce, bind_eq_ok_iff,
    mapError_eq_ok_iff, pure, Except.pure, eq_comm (b := state)]

/-- What a responder has checked and made when it answers. -/
structure Answered (crates : SessionCrates) (hello : PqcInitiatorHello)
    (context : PqcSessionContext) (keypair : DeviceKeypair) (kemSeed nonce : Bytes)
    (state : PqcResponderState) : Prop where
  suite : hello.version = pqcSessionVersion ∧ hello.suite = pqcSessionSuite
  sameContext : hello.context = context
  initiatorAlgorithm : hello.initiatorPublicKey.algorithm = "ML-DSA-65"
  initiatorPeer : hello.initiatorPublicKey.peerId crates.device = context.initiatorPeerId
  verified : hello.initiatorPublicKey.verify crates.device
    (initiatorHelloSigningBytes hello.version hello.suite hello.context hello.initiatorNonce
      hello.initiatorPublicKey) hello.signature = .ok ()
  responderAlgorithm : keypair.publicKey.algorithm = "ML-DSA-65"
  responderPeer : keypair.publicKey.peerId crates.device = context.responderPeerId
  state_eq : state = ⟨signedResponderHello keypair hello context nonce
    (crates.kem.generateKeypair kemSeed).2, hello, (crates.kem.generateKeypair kemSeed).1⟩

theorem answerPqcSession_eq_ok_iff :
    answerPqcSession crates hello context keypair kemSeed random = .ok state ↔
      ∃ nonce, random = .ok nonce ∧ Answered crates hello context keypair kemSeed nonce state := by
  simp only [answerPqcSession, validateSessionSuite, validateMlDsaPublicKey, ensurePeerId,
    randomNonce, bind_eq_ok_iff, ensure_eq_ok_iff, mapError_eq_ok_iff, exists_const, pure,
    Except.pure, Except.ok.injEq]
  constructor
  · rintro ⟨hu, hc, ha, hp, _, hv, ha', hp', nonce, hr, hs⟩
    exact ⟨nonce, hr, hu, hc, ha, hp, hv, ha', hp', hs.symm⟩
  · rintro ⟨nonce, hr, h⟩
    exact ⟨h.suite, h.sameContext, h.initiatorAlgorithm, h.initiatorPeer, (), h.verified,
      h.responderAlgorithm, h.responderPeer, nonce, hr, h.state_eq.symm⟩

/-- What an initiator has checked of the responder's hello when it finishes. -/
structure Checked (crates : SessionCrates) (hello : PqcInitiatorHello)
    (responder : PqcResponderHello) (keypair : DeviceKeypair) : Prop where
  suite : responder.version = pqcSessionVersion ∧ responder.suite = pqcSessionSuite
  sameSuite : responder.suite = hello.suite
  sameContext : responder.context = hello.context
  responderAlgorithm : responder.responderPublicKey.algorithm = "ML-DSA-65"
  responderPeer : responder.responderPublicKey.peerId crates.device = hello.context.responderPeerId
  algorithm : keypair.publicKey.algorithm = "ML-DSA-65"
  ownKey : keypair.publicKey = hello.initiatorPublicKey
  verified : responder.responderPublicKey.verify crates.device
    (responderHelloSigningBytes hello responder.version responder.suite responder.context
      responder.responderNonce responder.responderMlkem768Ek responder.responderPublicKey)
    responder.signature = .ok ()
  ekLength : responder.responderMlkem768Ek.length = mlkem768EkLength
  ekAccepted : crates.kem.acceptsKey responder.responderMlkem768Ek = true

theorem initiator_finish_eq_ok_iff {s : PqcInitiatorState} :
    s.finish crates responder keypair randomness = .ok result ↔
      Checked crates s.hello responder keypair ∧
      result = (signedInitiatorFinish crates keypair s.hello responder
          (crates.kem.encapsulate responder.responderMlkem768Ek randomness).1,
        sessionKeys crates s.hello responder
          (crates.kem.encapsulate responder.responderMlkem768Ek randomness).2 .initiator) := by
  simp only [PqcInitiatorState.finish, validateResponderHello, validateSessionSuite,
    validateMlDsaPublicKey, ensurePeerId, bind_eq_ok_iff, ensure_eq_ok_iff, exists_const,
    pure, Except.pure, Except.ok.injEq]
  constructor
  · rintro ⟨⟨hu, hs, hc, hal, hp⟩, ho, hk, _, hv, hl, ha, hr⟩
    exact ⟨⟨hu, hs, hc, hal, hp, ho, hk, hv, hl, ha⟩, hr.symm⟩
  · rintro ⟨h, hr⟩
    exact ⟨⟨h.suite, h.sameSuite, h.sameContext, h.responderAlgorithm, h.responderPeer⟩,
      h.algorithm, h.ownKey, (), h.verified, h.ekLength, h.ekAccepted, hr.symm⟩

theorem responder_finish_eq_ok_iff {s : PqcResponderState} : s.finish crates finish = .ok keys ↔
      (finish.version = pqcSessionVersion ∧ finish.suite = pqcSessionSuite) ∧
      finish.suite = s.hello.suite ∧
      finish.transcriptHash = transcriptHash crates s.initiatorHello s.hello ∧
      s.initiatorHello.initiatorPublicKey.verify crates.device
        (initiatorFinishSigningBytes s.initiatorHello s.hello finish.mlkem768Ciphertext
          finish.transcriptHash) finish.signature = .ok () ∧
      finish.mlkem768Ciphertext.length = mlkem768CiphertextLength ∧
      keys = sessionKeys crates s.initiatorHello s.hello
        (crates.kem.decapsulate s.mlkem768Secret finish.mlkem768Ciphertext) .responder := by
  simp only [PqcResponderState.finish, validateSessionSuite, bind_eq_ok_iff,
    ensure_eq_ok_iff, exists_const, pure, Except.pure, Except.ok.injEq]
  constructor
  · rintro ⟨hu, hs, hh, _, hv, hl, hk⟩
    exact ⟨hu, hs, hh, hv, hl, hk.symm⟩
  · rintro ⟨hu, hs, hh, hv, hl, hk⟩
    exact ⟨hu, hs, hh, (), hv, hl, hk.symm⟩

end

/-! ## Signed encodings tell their contents apart -/

theorem PqcSessionContext.toJson_injective : Function.Injective PqcSessionContext.toJson := by
  intro a b h
  cases a
  cases b
  simpa [PqcSessionContext.toJson] using h

theorem PqcInitiatorHello.toJson_injective : Function.Injective PqcInitiatorHello.toJson := by
  intro a b h
  cases a
  cases b
  simpa [PqcInitiatorHello.toJson, PqcSessionContext.toJson_injective.eq_iff,
    DevicePublicKey.toJson_injective.eq_iff] using h

theorem PqcResponderHello.toJson_injective : Function.Injective PqcResponderHello.toJson := by
  intro a b h
  cases a
  cases b
  simpa [PqcResponderHello.toJson, PqcSessionContext.toJson_injective.eq_iff,
    DevicePublicKey.toJson_injective.eq_iff] using h

variable {h h' : PqcInitiatorHello} {v : UInt8} {u : String} {c : PqcSessionContext} {n e : Bytes}
  {k : DevicePublicKey}

theorem responderHelloSigningBytes_inj
    (heq : responderHelloSigningBytes h v u c n e k = responderHelloSigningBytes h' v' u' c' n' e' k') :
    h = h' ∧ v = v' ∧ u = u' ∧ c = c' ∧ n = n' ∧ e = e' ∧ k = k' := by
  simpa [unsignedResponderHelloJson, PqcInitiatorHello.toJson_injective.eq_iff,
    PqcSessionContext.toJson_injective.eq_iff, DevicePublicKey.toJson_injective.eq_iff] using
    toBytes_injective heq

variable {r : PqcResponderHello} {t : Bytes}

theorem initiatorFinishSigningBytes_inj {r' : PqcResponderHello} {c c' t' : Bytes}
    (heq : initiatorFinishSigningBytes h r c t = initiatorFinishSigningBytes h' r' c' t') :
    h = h' ∧ r = r' ∧ c = c' ∧ t = t' := by
  have hj := toBytes_injective heq
  simp only [obj.injEq, List.cons.injEq, Prod.mk.injEq, true_and, and_true,
    PqcInitiatorHello.toJson_injective.eq_iff, PqcResponderHello.toJson_injective.eq_iff,
    ofByteList_inj] at hj
  exact ⟨hj.1, hj.2.1, hj.2.2.2⟩

theorem transcriptBytes_inj
    (heq : transcriptBytes h r = transcriptBytes h' r') : h = h' ∧ r = r' := by
  simpa [PqcInitiatorHello.toJson_injective.eq_iff, PqcResponderHello.toJson_injective.eq_iff] using
    toBytes_injective heq

private theorem toBytes_ne_of_tag {a b : String} (h : a ≠ b) (x y : List (String × Json)) :
    (obj (("tag", .str a) :: x)).toBytes ≠ (obj (("tag", .str b) :: y)).toBytes := by
  intro heq
  have hj := toBytes_injective heq
  simp only [obj.injEq, List.cons.injEq, Prod.mk.injEq, str.injEq, true_and] at hj
  exact h hj.1

theorem initiatorHello_ne_responderHello :
    initiatorHelloSigningBytes v u c n k ≠ responderHelloSigningBytes h v' u' c' n' e k' :=
  toBytes_ne_of_tag (by decide) _ _

theorem initiatorHello_ne_finish :
    initiatorHelloSigningBytes v u c n k ≠ initiatorFinishSigningBytes h r x t :=
  toBytes_ne_of_tag (by decide) _ _

theorem responderHello_ne_finish :
    responderHelloSigningBytes h v u c n e k ≠ initiatorFinishSigningBytes h' r x t :=
  toBytes_ne_of_tag (by decide) _ _

end QuantumLink.Session
