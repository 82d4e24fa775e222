import QuantumLink.Foundation.Run
import QuantumLink.Session.Handshake

/-! # Sessions over a network

`pqc_session_wire` of `qlink-core`: the wire messages and the two session functions, cut at
the points where they wait for a message. A run interleaves any number of sessions. What a
session receives, the random values it draws and what its carrier does with a message are
chosen by the run, so the network may drop, reorder, duplicate, alter and inject at will.

The state keeps, besides the sessions, the signatures that have entered the network: these
are all that anyone who lacks a key can know of it.
-/

namespace QuantumLink.Session

open Device
open Json

/-! ## Wire messages -/

inductive PqcSessionWireMessage where
  | initiatorHello (message : PqcInitiatorHello)
  | responderHello (message : PqcResponderHello)
  | initiatorFinish (message : PqcInitiatorFinish)

namespace PqcSessionWireMessage

/-- The variant's tag on the wire. -/
def typeName : PqcSessionWireMessage → String
  | initiatorHello _ => "initiator_hello"
  | responderHello _ => "responder_hello"
  | initiatorFinish _ => "initiator_finish"

def messageJson : PqcSessionWireMessage → Json
  | initiatorHello message => message.toJson
  | responderHello message => message.toJson
  | initiatorFinish message => message.toJson

def toJson (message : PqcSessionWireMessage) : Json :=
  .obj [("type", .str message.typeName), ("message", message.messageJson)]

def name : PqcSessionWireMessage → String
  | initiatorHello _ => "initiator hello"
  | responderHello _ => "responder hello"
  | initiatorFinish _ => "initiator finish"

def signature : PqcSessionWireMessage → Bytes
  | initiatorHello message => message.signature
  | responderHello message => message.signature
  | initiatorFinish message => message.signature

end PqcSessionWireMessage

/-! ## Reading -/

variable (value : Json)

def publicKeyOfJson : Option DevicePublicKey :=
  match openFields ["algorithm", "bytes"] value with
  | some [algorithm, bytes] => do
      pure {
        algorithm := ← required asString algorithm
        bytes := ← required (asList asUInt8) bytes }
  | _ => none

def contextNames : List String :=
  ["mesh_id", "initiator_peer_id", "responder_peer_id", "carrier_binding"]

def contextOfJson : Option PqcSessionContext :=
  match openFields contextNames value with
  | some [meshId, initiator, responder, binding] => do
      pure {
        meshId := ← required asString meshId
        initiatorPeerId := ← required asString initiator
        responderPeerId := ← required asString responder
        carrierBinding := ← required (asList asUInt8) binding }
  | _ => none

def initiatorHelloNames : List String :=
  ["version", "suite", "context", "initiator_nonce", "initiator_public_key", "signature"]

def initiatorHelloOfJson : Option PqcInitiatorHello :=
  match openFields initiatorHelloNames value with
  | some [version, suite, context, nonce, key, signature] => do
      pure {
        version := ← required asUInt8 version
        suite := ← required asString suite
        context := ← required contextOfJson context
        initiatorNonce := ← required (asByteArray 32) nonce
        initiatorPublicKey := ← required publicKeyOfJson key
        signature := ← required (asList asUInt8) signature }
  | _ => none

def responderHelloNames : List String :=
  ["version", "suite", "context", "responder_nonce", "responder_mlkem768_ek",
    "responder_public_key", "signature"]

def responderHelloOfJson : Option PqcResponderHello :=
  match openFields responderHelloNames value with
  | some [version, suite, context, nonce, ek, key, signature] => do
      pure {
        version := ← required asUInt8 version
        suite := ← required asString suite
        context := ← required contextOfJson context
        responderNonce := ← required (asByteArray 32) nonce
        responderMlkem768Ek := ← required (asList asUInt8) ek
        responderPublicKey := ← required publicKeyOfJson key
        signature := ← required (asList asUInt8) signature }
  | _ => none

def initiatorFinishNames : List String :=
  ["version", "suite", "mlkem768_ciphertext", "transcript_hash", "signature"]

def initiatorFinishOfJson : Option PqcInitiatorFinish :=
  match openFields initiatorFinishNames value with
  | some [version, suite, ciphertext, hash, signature] => do
      pure {
        version := ← required asUInt8 version
        suite := ← required asString suite
        mlkem768Ciphertext := ← required (asList asUInt8) ciphertext
        transcriptHash := ← required (asByteArray 32) hash
        signature := ← required (asList asUInt8) signature }
  | _ => none

/-- A tag is its name, or an object that maps its name to `null`. -/
def tagOfJson : Json → Option String
  | .str name => some name
  | .obj [(name, .null)] => some name
  | _ => none

def PqcSessionWireMessage.ofJson : Option PqcSessionWireMessage :=
  match openFields ["type", "message"] value with
  | some [tag, message] => do
      let tag ← required tagOfJson tag
      if tag = "initiator_hello" then
        (required initiatorHelloOfJson message).map .initiatorHello
      else if tag = "responder_hello" then
        (required responderHelloOfJson message).map .responderHello
      else if tag = "initiator_finish" then
        (required initiatorFinishOfJson message).map .initiatorFinish
      else none
  | _ => none

/-! ## What is written is read back -/

theorem publicKeyOfJson_toJson (key : DevicePublicKey) : publicKeyOfJson key.toJson = some key := by
  have hz : openFields ["algorithm", "bytes"] key.toJson = _ :=
    openFields_zip ["algorithm", "bytes"] (by decide)
      [.str key.algorithm, .ofByteList key.bytes] rfl
  simp [publicKeyOfJson, hz]

theorem contextOfJson_toJson (context : PqcSessionContext) :
    contextOfJson context.toJson = some context := by
  have hz : openFields contextNames context.toJson = _ :=
    openFields_zip contextNames (by decide)
      [.str context.meshId, .str context.initiatorPeerId, .str context.responderPeerId,
        .ofByteList context.carrierBinding] rfl
  simp [contextOfJson, hz]

theorem initiatorHelloOfJson_toJson {hello : PqcInitiatorHello}
    (h : hello.initiatorNonce.length = 32) : initiatorHelloOfJson hello.toJson = some hello := by
  have hz : openFields initiatorHelloNames hello.toJson = _ :=
    openFields_zip initiatorHelloNames (by decide)
      [.ofUInt8 hello.version, .str hello.suite, hello.context.toJson,
        .ofByteList hello.initiatorNonce, hello.initiatorPublicKey.toJson,
        .ofByteList hello.signature] rfl
  simp [initiatorHelloOfJson, hz, contextOfJson_toJson, publicKeyOfJson_toJson,
    asByteArray_ofByteList h]

theorem responderHelloOfJson_toJson {hello : PqcResponderHello}
    (h : hello.responderNonce.length = 32) : responderHelloOfJson hello.toJson = some hello := by
  have hz : openFields responderHelloNames hello.toJson = _ :=
    openFields_zip responderHelloNames (by decide)
      [.ofUInt8 hello.version, .str hello.suite, hello.context.toJson,
        .ofByteList hello.responderNonce, .ofByteList hello.responderMlkem768Ek,
        hello.responderPublicKey.toJson, .ofByteList hello.signature] rfl
  simp [responderHelloOfJson, hz, contextOfJson_toJson, publicKeyOfJson_toJson,
    asByteArray_ofByteList h]

theorem initiatorFinishOfJson_toJson {finish : PqcInitiatorFinish}
    (h : finish.transcriptHash.length = 32) : initiatorFinishOfJson finish.toJson = some finish := by
  have hz : openFields initiatorFinishNames finish.toJson = _ :=
    openFields_zip initiatorFinishNames (by decide)
      [.ofUInt8 finish.version, .str finish.suite, .ofByteList finish.mlkem768Ciphertext,
        .ofByteList finish.transcriptHash, .ofByteList finish.signature] rfl
  simp [initiatorFinishOfJson, hz, asByteArray_ofByteList h]

/-- The arrays of a message have the length of their types. -/
def PqcSessionWireMessage.Sized : PqcSessionWireMessage → Prop
  | initiatorHello message => message.initiatorNonce.length = 32
  | responderHello message => message.responderNonce.length = 32
  | initiatorFinish message => message.transcriptHash.length = 32

theorem PqcSessionWireMessage.ofJson_toJson {message : PqcSessionWireMessage} (h : message.Sized) :
    ofJson message.toJson = some message := by
  have hz : openFields ["type", "message"] message.toJson = _ :=
    openFields_zip ["type", "message"] (by decide)
      [.str message.typeName, message.messageJson] rfl
  cases message with
  | initiatorHello message =>
    simp [ofJson, hz, tagOfJson, typeName, messageJson, initiatorHelloOfJson_toJson h]
  | responderHello message =>
    simp [ofJson, hz, tagOfJson, typeName, messageJson, responderHelloOfJson_toJson h]
  | initiatorFinish message =>
    simp [ofJson, hz, tagOfJson, typeName, messageJson, initiatorFinishOfJson_toJson h]

/-! ## Sending and receiving -/

def pqcSessionMaxWireSize : Nat := 64 * 1024

/-- What the carrier does with a message it is handed: whether the message enters the
network, and what it reports to the sender. -/
structure Transmission where
  entered : Bool
  result : Except QlinkError Unit

/-- A signature made with the key of `signer`, and the bytes it signs. -/
structure SignedBytes where
  signer : DevicePublicKey
  bytes : Bytes
  signature : Bytes
deriving DecidableEq

/-- `send_wire_message`, on the list of signatures the network has seen. -/
def sendWireMessage (message : PqcSessionWireMessage) (signed : SignedBytes)
    (transmission : Transmission) : Op (List SignedBytes) QlinkError Unit := do
  Op.check (ensure (message.toJson.toBytes.length ≤ pqcSessionMaxWireSize)
    (.protocol ("PQC session message is " ++ toString message.toJson.toBytes.length ++
      " bytes; max is " ++ toString pqcSessionMaxWireSize)))
  Op.update fun signatures =>
    if transmission.entered then signatures ++ [signed] else signatures
  Op.check transmission.result

variable (crates : SessionCrates)

/-- `receive_wire_message`: the input is what the carrier returns. -/
def receiveWireMessage (input : Except QlinkError Bytes) :
    Except QlinkError PqcSessionWireMessage := do
  let bytes ← input
  okOr ((ofBytes bytes).bind PqcSessionWireMessage.ofJson) (.json (crates.serdeError bytes))

def unexpectedMessageError (expected actual : String) : QlinkError :=
  .protocol ("unexpected PQC session message order: expected " ++ expected ++ ", got " ++ actual)

/-! ## The two session functions, cut where they wait -/

/-- `run_pqc_session_initiator` up to its first wait. -/
def initiatorBegin (context : PqcSessionContext) (keypair : DeviceKeypair)
    (random : Except String Bytes) (transmission : Transmission) :
    Op (List SignedBytes) QlinkError PqcInitiatorState := do
  let initiator ← Op.check (startPqcSession crates context keypair random)
  sendWireMessage (.initiatorHello initiator.hello)
    ⟨keypair.publicKey, initiatorHelloSigningBytes initiator.hello.version initiator.hello.suite
      initiator.hello.context initiator.hello.initiatorNonce initiator.hello.initiatorPublicKey,
      initiator.hello.signature⟩ transmission
  pure initiator

def expectResponderHello : PqcSessionWireMessage → Except QlinkError PqcResponderHello
  | .responderHello message => .ok message
  | unexpected => .error (unexpectedMessageError "responder hello" unexpected.name)

def expectInitiatorHello : PqcSessionWireMessage → Except QlinkError PqcInitiatorHello
  | .initiatorHello message => .ok message
  | unexpected => .error (unexpectedMessageError "initiator hello" unexpected.name)

def expectInitiatorFinish : PqcSessionWireMessage → Except QlinkError PqcInitiatorFinish
  | .initiatorFinish message => .ok message
  | unexpected => .error (unexpectedMessageError "initiator finish" unexpected.name)

/-- The rest of `run_pqc_session_initiator`; the hello it consumed is kept with the keys. -/
def initiatorResume (initiator : PqcInitiatorState) (keypair : DeviceKeypair)
    (input : Except QlinkError Bytes) (randomness : Bytes) (transmission : Transmission) :
    Op (List SignedBytes) QlinkError (PqcResponderHello × SessionKeys) := do
  let message ← Op.check (receiveWireMessage crates input)
  let responder ← Op.check (expectResponderHello message)
  let (finish, keys) ← Op.check (initiator.finish crates responder keypair randomness)
  sendWireMessage (.initiatorFinish finish)
    ⟨keypair.publicKey, initiatorFinishSigningBytes initiator.hello responder
      finish.mlkem768Ciphertext finish.transcriptHash, finish.signature⟩ transmission
  pure (responder, keys)

/-- `run_pqc_session_responder` between its two waits. -/
def responderAnswer (context : PqcSessionContext) (keypair : DeviceKeypair)
    (input : Except QlinkError Bytes) (kemSeed : Bytes) (random : Except String Bytes)
    (transmission : Transmission) : Op (List SignedBytes) QlinkError PqcResponderState := do
  let message ← Op.check (receiveWireMessage crates input)
  let initiatorHello ← Op.check (expectInitiatorHello message)
  let responder ← Op.check (answerPqcSession crates initiatorHello context keypair kemSeed random)
  sendWireMessage (.responderHello responder.hello)
    ⟨keypair.publicKey, responderHelloSigningBytes initiatorHello responder.hello.version
      responder.hello.suite responder.hello.context responder.hello.responderNonce
      responder.hello.responderMlkem768Ek responder.hello.responderPublicKey,
      responder.hello.signature⟩ transmission
  pure responder

/-- The rest of `run_pqc_session_responder`. -/
def responderFinish (responder : PqcResponderState) (input : Except QlinkError Bytes) :
    Except QlinkError SessionKeys := do
  let message ← receiveWireMessage crates input
  let finish ← expectInitiatorFinish message
  responder.finish crates finish

/-! ## The machine -/

/-- Where an initiator is. A session that returned keys is kept with what it used. -/
inductive InitiatorPhase where
  | awaitingHello (state : PqcInitiatorState)
  | returned (state : PqcInitiatorState) (consumed : PqcResponderHello) (keys : SessionKeys)
  | failed (error : QlinkError)

inductive ResponderPhase where
  | awaitingHello
  | awaitingFinish (state : PqcResponderState)
  | returned (state : PqcResponderState) (keys : SessionKeys)
  | failed (answered : Option PqcResponderState) (error : QlinkError)

structure InitiatorSession where
  keypair : DeviceKeypair
  context : PqcSessionContext
  phase : InitiatorPhase

structure ResponderSession where
  keypair : DeviceKeypair
  context : PqcSessionContext
  phase : ResponderPhase

/-- The hello of a session that has not failed. -/
def InitiatorPhase.hello : InitiatorPhase → Option PqcInitiatorHello
  | awaitingHello state => some state.hello
  | returned state _ _ => some state.hello
  | failed _ => none

/-- What a responder answered, whatever came of the session after. -/
def ResponderPhase.answered : ResponderPhase → Option PqcResponderState
  | awaitingHello => none
  | awaitingFinish state => some state
  | returned state _ => some state
  | failed answered _ => answered

structure Sessions where
  initiators : Nat → Option InitiatorSession
  responders : Nat → Option ResponderSession
  signatures : List SignedBytes

def Sessions.empty : Sessions := ⟨fun _ => none, fun _ => none, []⟩

inductive Event where
  | startInitiator (session : Nat) (keypair : DeviceKeypair) (context : PqcSessionContext)
      (random : Except String Bytes) (transmission : Transmission)
  | startResponder (session : Nat) (keypair : DeviceKeypair) (context : PqcSessionContext)
  | initiatorReceives (session : Nat) (input : Except QlinkError Bytes) (randomness : Bytes)
      (transmission : Transmission)
  | responderReceivesHello (session : Nat) (input : Except QlinkError Bytes) (kemSeed : Bytes)
      (random : Except String Bytes) (transmission : Transmission)
  | responderReceivesFinish (session : Nat) (input : Except QlinkError Bytes)

def Event.nonce : Event → Option Bytes
  | startInitiator _ _ _ random _ => random.toOption
  | responderReceivesHello _ _ _ random _ => random.toOption
  | _ => none

def Event.input : Event → Option (Except QlinkError Bytes)
  | initiatorReceives _ input _ _ => some input
  | responderReceivesHello _ input _ _ _ => some input
  | responderReceivesFinish _ input => some input
  | _ => none

def Event.transmission : Event → Option Transmission
  | startInitiator _ _ _ _ transmission => some transmission
  | initiatorReceives _ _ _ transmission => some transmission
  | responderReceivesHello _ _ _ _ transmission => some transmission
  | _ => none

def InitiatorSession.ofStart (keypair : DeviceKeypair) (context : PqcSessionContext) :
    Except QlinkError PqcInitiatorState → InitiatorSession
  | .ok state => ⟨keypair, context, .awaitingHello state⟩
  | .error error => ⟨keypair, context, .failed error⟩

def InitiatorSession.ofResume (session : InitiatorSession) (state : PqcInitiatorState) :
    Except QlinkError (PqcResponderHello × SessionKeys) → InitiatorSession
  | .ok (responder, keys) => { session with phase := .returned state responder keys }
  | .error error => { session with phase := .failed error }

def ResponderSession.ofAnswer (session : ResponderSession) :
    Except QlinkError PqcResponderState → ResponderSession
  | .ok state => { session with phase := .awaitingFinish state }
  | .error error => { session with phase := .failed none error }

def ResponderSession.ofFinish (session : ResponderSession) (state : PqcResponderState) :
    Except QlinkError SessionKeys → ResponderSession
  | .ok keys => { session with phase := .returned state keys }
  | .error error => { session with phase := .failed (some state) error }

variable (s : Sessions)

def Sessions.setInitiator (i : Nat) (session : InitiatorSession) (signatures : List SignedBytes) :
    Sessions :=
  { s with initiators := Function.update s.initiators i (some session), signatures := signatures }

def Sessions.setResponder (r : Nat) (session : ResponderSession) (signatures : List SignedBytes) :
    Sessions :=
  { s with responders := Function.update s.responders r (some session), signatures := signatures }

/-- An event for a session that is not waiting for it changes nothing. -/
def next : Event → Sessions
  | .startInitiator i keypair context random transmission =>
    match s.initiators i with
    | some _ => s
    | none =>
      let (result, signatures) :=
        initiatorBegin crates context keypair random transmission s.signatures
      s.setInitiator i (.ofStart keypair context result) signatures
  | .startResponder r keypair context =>
    match s.responders r with
    | some _ => s
    | none => s.setResponder r ⟨keypair, context, .awaitingHello⟩ s.signatures
  | .initiatorReceives i input randomness transmission =>
    match s.initiators i with
    | some session =>
      match session.phase with
      | .awaitingHello state =>
        let (result, signatures) := initiatorResume crates state session.keypair input
          randomness transmission s.signatures
        s.setInitiator i (session.ofResume state result) signatures
      | _ => s
    | none => s
  | .responderReceivesHello r input kemSeed random transmission =>
    match s.responders r with
    | some session =>
      match session.phase with
      | .awaitingHello =>
        let (result, signatures) := responderAnswer crates session.context session.keypair
          input kemSeed random transmission s.signatures
        s.setResponder r (session.ofAnswer result) signatures
      | _ => s
    | none => s
  | .responderReceivesFinish r input =>
    match s.responders r with
    | some session =>
      match session.phase with
      | .awaitingFinish state =>
        s.setResponder r (session.ofFinish state (responderFinish crates state input))
          s.signatures
      | _ => s
    | none => s

def step (event : Event) : Unit × Sessions :=
  ((), next crates s event)

def reach (events : List Event) : Sessions :=
  run (step crates) Sessions.empty events

end QuantumLink.Session
