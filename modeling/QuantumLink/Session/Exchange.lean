import QuantumLink.Foundation.Json.Size
import QuantumLink.Session.Moves

/-! # Undisturbed exchanges

Two honest devices whose messages all arrive: every function of the handshake succeeds, the
messages are read back from the wire as they were sent, and both sessions return keys.
-/

namespace QuantumLink.Session

open Device Op
open Json
open List
open PqcSessionWireMessage

/-- A device whose key and signatures have the sizes of ML-DSA-65. -/
structure StandardDevice (keypair : DeviceKeypair) : Prop where
  algorithm : keypair.publicKey.algorithm = "ML-DSA-65"
  keyLength : keypair.publicKey.bytes.length = mlDsa65KeyLength
  signatureLength : ∀ message, (keypair.sign message).length = mlDsa65SignatureLength

/-- A message that goes through the wire unchanged. -/
structure Carried (message : PqcSessionWireMessage) : Prop where
  sized : message.Sized
  fits : message.toJson.toBytes.length ≤ pqcSessionMaxWireSize

/-- A finish is as long as with no hash, and the hash at most four bytes for each of its own. -/
theorem byteLength_initiatorFinish_le (finish : PqcInitiatorFinish) :
    (initiatorFinish finish).toJson.byteLength ≤
      (initiatorFinish { finish with transcriptHash := [] }).toJson.byteLength +
        4 * finish.transcriptHash.length := by
  have hb := byteLength_ofByteList_le finish.transcriptHash
  simp only [toJson, typeName, messageJson, PqcInitiatorFinish.toJson, byteLength, membersLength,
    ofByteList, map_nil] at hb ⊢
  omega

/-- The values two honest devices bring to an exchange. -/
structure Exchange where
  initiator : DeviceKeypair
  responder : DeviceKeypair
  context : PqcSessionContext
  initiatorNonce : Bytes
  responderNonce : Bytes
  kemSeed : Bytes
  randomness : Bytes

namespace Exchange

variable (crates : SessionCrates) (x : Exchange)

def hello : PqcInitiatorHello := signedInitiatorHello x.initiator x.context x.initiatorNonce

def answer : PqcResponderState :=
  ⟨signedResponderHello x.responder x.hello x.context x.responderNonce
    (crates.kem.generateKeypair x.kemSeed).2, x.hello, (crates.kem.generateKeypair x.kemSeed).1⟩

def encapsulated : Bytes × Bytes :=
  crates.kem.encapsulate (crates.kem.generateKeypair x.kemSeed).2 x.randomness

def finish : PqcInitiatorFinish :=
  signedInitiatorFinish crates x.initiator x.hello (x.answer crates).hello (x.encapsulated crates).1

def keys (direction : Direction) : SessionKeys :=
  sessionKeys crates x.hello (x.answer crates).hello (x.encapsulated crates).2 direction

def delivered (message : PqcSessionWireMessage) : Except QlinkError Bytes :=
  .ok message.toJson.toBytes

def sent : Transmission := ⟨true, .ok ()⟩

/-- Session 0 of each side: start both, then deliver the three messages in order. -/
def events : List Event :=
  [.startInitiator 0 x.initiator x.context (.ok x.initiatorNonce) sent,
    .startResponder 0 x.responder x.context,
    .responderReceivesHello 0 (delivered (.initiatorHello x.hello)) x.kemSeed
      (.ok x.responderNonce) sent,
    .initiatorReceives 0 (delivered (.responderHello (x.answer crates).hello)) x.randomness sent,
    .responderReceivesFinish 0 (delivered (.initiatorFinish (x.finish crates)))]

/-- What makes the exchange succeed: both devices have ML-DSA-65 keys and the peer ids of the
context, their three signatures verify, the primitives work, and the messages are not too long. -/
structure Good : Prop where
  initiatorDevice : StandardDevice x.initiator
  responderDevice : StandardDevice x.responder
  initiatorPeer : x.initiator.publicKey.peerId crates.device = x.context.initiatorPeerId
  responderPeer : x.responder.publicKey.peerId crates.device = x.context.responderPeerId
  helloVerifies : x.initiator.publicKey.verify crates.device
    (x.hello.signed x.initiator.publicKey).bytes x.hello.signature = .ok ()
  answerVerifies : x.responder.publicKey.verify crates.device
    ((x.answer crates).hello.signed x.hello x.responder.publicKey).bytes
    (x.answer crates).hello.signature = .ok ()
  finishVerifies : x.initiator.publicKey.verify crates.device
    ((x.finish crates).signed x.hello (x.answer crates).hello x.initiator.publicKey).bytes
    (x.finish crates).signature = .ok ()
  ekLength : (crates.kem.generateKeypair x.kemSeed).2.length = mlkem768EkLength
  ekAccepted : crates.kem.acceptsKey (crates.kem.generateKeypair x.kemSeed).2 = true
  ciphertextLength : (x.encapsulated crates).1.length = mlkem768CiphertextLength
  decapsulates : crates.kem.decapsulate (crates.kem.generateKeypair x.kemSeed).1
    (x.encapsulated crates).1 = (x.encapsulated crates).2
  initiatorNonceLength : x.initiatorNonce.length = 32
  responderNonceLength : x.responderNonce.length = 32
  hashLength : ∀ length bytes, (crates.device.shake256 length bytes).length = length
  helloFits : (initiatorHello x.hello).toJson.toBytes.length ≤ pqcSessionMaxWireSize
  finishFits : (initiatorFinish (x.finish crates)).toJson.toBytes.length ≤ pqcSessionMaxWireSize
  answerFits : (responderHello (x.answer crates).hello).toJson.toBytes.length ≤ pqcSessionMaxWireSize

def sessions (initiator : Option InitiatorSession) (responder : Option ResponderSession)
    (signatures : List SignedBytes) : Sessions :=
  ⟨fun i => if i = 0 then initiator else none, fun r => if r = 0 then responder else none,
    signatures⟩

def helloSigned : SignedBytes := x.hello.signed x.initiator.publicKey

def answerSigned : SignedBytes :=
  (x.answer crates).hello.signed x.hello x.responder.publicKey

def finishSigned : SignedBytes :=
  (x.finish crates).signed x.hello (x.answer crates).hello x.initiator.publicKey

theorem hello_signature : x.hello.signature = x.initiator.sign x.helloSigned.bytes := by
  simp [hello, helloSigned, signedInitiatorHello, PqcInitiatorHello.signed]

theorem answer_signature :
    (x.answer crates).hello.signature = x.responder.sign (x.answerSigned crates).bytes := by
  simp [answer, answerSigned, signedResponderHello, PqcResponderHello.signed]

theorem finish_signature :
    (x.finish crates).signature = x.initiator.sign (x.finishSigned crates).bytes := by
  simp [finish, finishSigned, signedInitiatorFinish, PqcInitiatorFinish.signed]

theorem helloSigned_signature : x.helloSigned.signature = x.hello.signature := rfl

theorem answerSigned_signature :
    (x.answerSigned crates).signature = (x.answer crates).hello.signature := rfl

theorem finishSigned_signature :
    (x.finishSigned crates).signature = (x.finish crates).signature := rfl

/-! The states the exchange goes through. -/

def started : Sessions :=
  sessions (some ⟨x.initiator, x.context, .awaitingHello ⟨x.hello⟩⟩) none [x.helloSigned]

def waiting : Sessions :=
  sessions (some ⟨x.initiator, x.context, .awaitingHello ⟨x.hello⟩⟩)
    (some ⟨x.responder, x.context, .awaitingHello⟩) [x.helloSigned]

def answered : Sessions :=
  sessions (some ⟨x.initiator, x.context, .awaitingHello ⟨x.hello⟩⟩)
    (some ⟨x.responder, x.context, .awaitingFinish (x.answer crates)⟩)
    [x.helloSigned, x.answerSigned crates]

def resumed : Sessions :=
  sessions
    (some ⟨x.initiator, x.context,
      .returned ⟨x.hello⟩ (x.answer crates).hello (x.keys crates .initiator)⟩)
    (some ⟨x.responder, x.context, .awaitingFinish (x.answer crates)⟩)
    [x.helloSigned, x.answerSigned crates, x.finishSigned crates]

def final : Sessions :=
  sessions
    (some ⟨x.initiator, x.context,
      .returned ⟨x.hello⟩ (x.answer crates).hello (x.keys crates .initiator)⟩)
    (some ⟨x.responder, x.context, .returned (x.answer crates) (x.keys crates .responder)⟩)
    [x.helloSigned, x.answerSigned crates, x.finishSigned crates]

section

variable (a : Option InitiatorSession) (b : Option ResponderSession) (l l' : List SignedBytes)

theorem sessions_initiators : (sessions a b l).initiators 0 = a := rfl

theorem sessions_responders : (sessions a b l).responders 0 = b := rfl

theorem sessions_signatures : (sessions a b l).signatures = l := rfl

theorem setInitiator_sessions :
    (sessions a b l).setInitiator 0 session l' = sessions (some session) b l' := by
  unfold Sessions.setInitiator sessions
  congr
  funext i
  by_cases hi : i = 0
  · subst hi
    simp
  · simp [hi]

theorem setResponder_sessions :
    (sessions a b l).setResponder 0 session l' = sessions a (some session) l' := by
  unfold Sessions.setResponder sessions
  congr
  funext r
  by_cases hr : r = 0
  · subst hr
    simp
  · simp [hr]

end

theorem receiveWireMessage_delivered {message : PqcSessionWireMessage} (h : message.Sized) :
    receiveWireMessage crates (delivered message) = .ok message := by
  simp only [receiveWireMessage, delivered, bind, Except.bind, okOr_eq_ok_iff,
    ofBytes_toBytes, Option.bind_some]
  exact ofJson_toJson h

theorem sendWireMessage_sent {m : PqcSessionWireMessage}
    (h : m.toJson.toBytes.length ≤ pqcSessionMaxWireSize) (si : SignedBytes)
    (s : List SignedBytes) :
    sendWireMessage m si sent s = (.ok (), s ++ [si]) := by
  unfold sendWireMessage
  rw [check_bind_ok (ensure_of h), update_bind]
  rfl

variable {crates x}

theorem next_waiting :
    next crates x.started (.startResponder 0 x.responder x.context) = x.waiting := by
  simp only [next, started, sessions_responders, setResponder_sessions, sessions_signatures]
  rfl

namespace Good

variable (h : x.Good crates)

include h

theorem helloCarried : Carried (.initiatorHello x.hello) :=
  ⟨h.initiatorNonceLength, h.helloFits⟩

theorem answerCarried : Carried (.responderHello (x.answer crates).hello) :=
  ⟨h.responderNonceLength, h.answerFits⟩

theorem finishCarried : Carried (.initiatorFinish (x.finish crates)) :=
  ⟨h.hashLength 32 _, h.finishFits⟩

theorem initiatorBegin_eq :
    initiatorBegin crates x.context x.initiator (.ok x.initiatorNonce) sent signatures =
      (.ok ⟨x.hello⟩, signatures ++ [x.helloSigned]) := by
  have hs : startPqcSession crates x.context x.initiator (.ok x.initiatorNonce) =
      .ok ⟨x.hello⟩ :=
    startPqcSession_eq_ok_iff.mpr ⟨h.initiatorDevice.algorithm, h.initiatorPeer, _, rfl, rfl⟩
  unfold initiatorBegin
  rw [check_bind_ok hs]
  exact bind_of_ok (sendWireMessage_sent h.helloCarried.fits _ _) _

theorem responderAnswer_eq :
    responderAnswer crates x.context x.responder (delivered (.initiatorHello x.hello)) x.kemSeed
        (.ok x.responderNonce) sent signatures =
      (.ok (x.answer crates), signatures ++ [x.answerSigned crates]) := by
  have ha : answerPqcSession crates x.hello x.context x.responder x.kemSeed
      (.ok x.responderNonce) = .ok (x.answer crates) :=
    answerPqcSession_eq_ok_iff.mpr ⟨_, rfl, ⟨rfl, rfl⟩, rfl, h.initiatorDevice.algorithm, h.initiatorPeer,
      h.helloVerifies, h.responderDevice.algorithm, h.responderPeer, rfl⟩
  have he : expectInitiatorHello (.initiatorHello x.hello) = .ok x.hello := rfl
  unfold responderAnswer
  rw [check_bind_ok (receiveWireMessage_delivered crates h.helloCarried.sized),
    check_bind_ok he, check_bind_ok ha]
  exact bind_of_ok (sendWireMessage_sent h.answerCarried.fits _ _) _

theorem initiatorResume_eq : initiatorResume crates ⟨x.hello⟩ x.initiator
        (delivered (.responderHello (x.answer crates).hello)) x.randomness sent signatures =
      (.ok ((x.answer crates).hello, x.keys crates .initiator),
        signatures ++ [x.finishSigned crates]) := by
  have hf : PqcInitiatorState.finish crates ⟨x.hello⟩ (x.answer crates).hello x.initiator
      x.randomness = .ok (x.finish crates, x.keys crates .initiator) :=
    initiator_finish_eq_ok_iff.mpr ⟨⟨⟨rfl, rfl⟩, rfl, rfl, h.responderDevice.algorithm, h.responderPeer,
      h.initiatorDevice.algorithm, rfl, h.answerVerifies, h.ekLength, h.ekAccepted⟩, rfl⟩
  have he : expectResponderHello (.responderHello (x.answer crates).hello) =
      .ok (x.answer crates).hello := rfl
  unfold initiatorResume
  rw [check_bind_ok (receiveWireMessage_delivered crates h.answerCarried.sized),
    check_bind_ok he, check_bind_ok hf]
  exact bind_of_ok (sendWireMessage_sent h.finishCarried.fits _ _) _

theorem responderFinish_eq :
    responderFinish crates (x.answer crates) (delivered (.initiatorFinish (x.finish crates))) =
      .ok (x.keys crates .responder) := by
  refine responderFinish_eq_ok_iff.mpr
    ⟨x.finish crates, receiveWireMessage_delivered crates h.finishCarried.sized, ?_⟩
  refine responder_finish_eq_ok_iff.mpr
    ⟨⟨rfl, rfl⟩, rfl, rfl, h.finishVerifies, h.ciphertextLength, ?_⟩
  have hs : crates.kem.decapsulate (x.answer crates).mlkem768Secret
      (x.finish crates).mlkem768Ciphertext = (x.encapsulated crates).2 := h.decapsulates
  rw [hs]
  rfl

theorem next_started :
    next crates .empty (.startInitiator 0 x.initiator x.context (.ok x.initiatorNonce) sent) =
      x.started := by
  have he : Sessions.empty = sessions none none [] := by
    simp [Sessions.empty, sessions]
  rw [he]
  simp only [next, sessions_initiators, sessions_signatures, h.initiatorBegin_eq,
    InitiatorSession.ofStart, setInitiator_sessions, nil_append]
  rfl

theorem next_answered :
    next crates x.waiting (.responderReceivesHello 0 (delivered (.initiatorHello x.hello)) x.kemSeed
      (.ok x.responderNonce) sent) = x.answered crates := by
  simp only [next, waiting, sessions_responders, sessions_signatures, h.responderAnswer_eq,
    ResponderSession.ofAnswer, setResponder_sessions, singleton_append]
  rfl

theorem next_resumed : next crates (x.answered crates) (.initiatorReceives 0
      (delivered (.responderHello (x.answer crates).hello)) x.randomness sent) =
      x.resumed crates := by
  simp only [next, answered, sessions_initiators, sessions_signatures, h.initiatorResume_eq,
    InitiatorSession.ofResume, setInitiator_sessions, cons_append, nil_append]
  rfl

theorem next_final : next crates (x.resumed crates)
      (.responderReceivesFinish 0 (delivered (.initiatorFinish (x.finish crates)))) =
      x.final crates := by
  simp only [next, resumed, sessions_responders, sessions_signatures, h.responderFinish_eq,
    ResponderSession.ofFinish, setResponder_sessions]
  rfl

theorem reach_events : reach crates (x.events crates) = x.final crates := by
  simp [reach, events, step, h.next_started, next_waiting, h.next_answered, h.next_resumed, h.next_final]

end Good

end Exchange

end QuantumLink.Session
