import QuantumLink.Session.Wire

/-! # What one event does

Every event leaves the sessions as they are or moves one session of one side. The moves
below say everything such a step can do when the carrier reports an error only for messages
it did not let into the network; all invariants of runs are derived from them.
-/

namespace QuantumLink.Session

open Device Op

/-- A carrier that reports an error has not let the message into the network. -/
def Transmission.Atomic (transmission : Transmission) : Prop :=
  transmission.result ≠ .ok () → transmission.entered = false

def Event.AtomicSend (event : Event) : Prop :=
  ∀ transmission, event.transmission = some transmission → transmission.Atomic

/-- The signatures after a send that succeeded: the message may still have been lost. -/
def Sent (signatures : List SignedBytes) (signed : SignedBytes) (after : List SignedBytes) : Prop :=
  after = signatures ∨ after = signatures ++ [signed]

theorem sendWireMessage_cases
    {transmission : Transmission} (ha : transmission.Atomic) (s : List SignedBytes) :
    (∃ after, sendWireMessage message signed transmission s = (.ok (), after) ∧
        Sent s signed after) ∨
      ∃ error, sendWireMessage message signed transmission s = (.error error, s) := by
  unfold sendWireMessage
  cases hs : ensure (message.toJson.toBytes.length ≤ pqcSessionMaxWireSize)
      (QlinkError.protocol ("PQC session message is " ++ toString message.toJson.toBytes.length ++
        " bytes; max is " ++ toString pqcSessionMaxWireSize)) with
  | error error => exact .inr ⟨error, check_bind_error rfl _ _⟩
  | ok u =>
    rw [check_bind_ok rfl, update_bind, check_apply]
    cases hr : transmission.result with
    | error error =>
      have hn : transmission.entered = false := ha (by rw [hr]; nofun)
      refine .inr ⟨error, ?_⟩
      rw [hn]
      rfl
    | ok v =>
      refine .inl ⟨_, rfl, ?_⟩
      by_cases he : transmission.entered = true
      · exact .inr (if_pos he)
      · exact .inl (if_neg he)

private theorem send_then_pure {α : Type} {m : PqcSessionWireMessage} {si : SignedBytes}
    {transmission : Transmission} (ha : transmission.Atomic) (s : List SignedBytes)
    (a : α) :
    (∃ after, (sendWireMessage m si transmission >>= fun _ =>
        (pure a : Op (List SignedBytes) QlinkError α)) s = (.ok a, after) ∧ Sent s si after) ∨
      ∃ error, (sendWireMessage m si transmission >>= fun _ =>
        (pure a : Op (List SignedBytes) QlinkError α)) s = (.error error, s) := by
  rcases sendWireMessage_cases ha s with
    ⟨after, hs, he⟩ | ⟨error, hs⟩
  · exact .inl ⟨after, bind_of_ok hs _, he⟩
  · exact .inr ⟨error, bind_of_error hs _⟩

/-! ## The bytes behind each signature -/

def PqcInitiatorHello.signed (hello : PqcInitiatorHello) (signer : DevicePublicKey) : SignedBytes :=
  ⟨signer, initiatorHelloSigningBytes hello.version hello.suite hello.context hello.initiatorNonce
    hello.initiatorPublicKey, hello.signature⟩

def PqcResponderHello.signed (responder : PqcResponderHello) (initiator : PqcInitiatorHello)
    (signer : DevicePublicKey) : SignedBytes :=
  ⟨signer, responderHelloSigningBytes initiator responder.version responder.suite responder.context
    responder.responderNonce responder.responderMlkem768Ek responder.responderPublicKey,
    responder.signature⟩

def PqcInitiatorFinish.signed (finish : PqcInitiatorFinish) (initiator : PqcInitiatorHello)
    (responder : PqcResponderHello) (signer : DevicePublicKey) : SignedBytes :=
  ⟨signer, initiatorFinishSigningBytes initiator responder finish.mlkem768Ciphertext
    finish.transcriptHash, finish.signature⟩

/-! ## The functions between two waits -/

section

variable (crates : SessionCrates) (keypair : DeviceKeypair) {transmission : Transmission}

theorem initiatorBegin_cases (ha : transmission.Atomic) (c : PqcSessionContext)
    (r : Except String Bytes) (s : List SignedBytes) :
    (∃ state after, startPqcSession crates c keypair r = .ok state ∧
        initiatorBegin crates c keypair r transmission s = (.ok state, after) ∧
        Sent s (state.hello.signed keypair.publicKey) after) ∨
      ∃ error, initiatorBegin crates c keypair r transmission s = (.error error, s) := by
  unfold initiatorBegin
  cases ht : startPqcSession crates c keypair r with
  | error error => exact .inr ⟨error, check_bind_error rfl _ _⟩
  | ok state =>
    rw [check_bind_ok rfl]
    rcases send_then_pure ha s state with ⟨after, hr, hs⟩ | ⟨error, hr⟩
    · exact .inl ⟨state, after, rfl, hr, hs⟩
    · exact .inr ⟨error, hr⟩

theorem initiatorResume_cases (ha : transmission.Atomic) (st : PqcInitiatorState)
    (i : Except QlinkError Bytes) (ra : Bytes) (s : List SignedBytes) :
    (∃ responder finish keys after, receiveWireMessage crates i = .ok (.responderHello responder) ∧
        st.finish crates responder keypair ra = .ok (finish, keys) ∧
        initiatorResume crates st keypair i ra transmission s = (.ok (responder, keys), after) ∧
        Sent s (finish.signed st.hello responder keypair.publicKey) after) ∨
      ∃ error, initiatorResume crates st keypair i ra transmission s = (.error error, s) := by
  unfold initiatorResume
  cases hre : receiveWireMessage crates i with
  | error error => exact .inr ⟨error, check_bind_error rfl _ _⟩
  | ok m =>
    rw [check_bind_ok rfl]
    cases m with
    | initiatorHello hello | initiatorFinish finish => exact .inr ⟨_, check_bind_error rfl _ _⟩
    | responderHello responder =>
      have he : expectResponderHello (.responderHello responder) = .ok responder := rfl
      rw [check_bind_ok he]
      cases hf : st.finish crates responder keypair ra with
      | error error => exact .inr ⟨error, check_bind_error rfl _ _⟩
      | ok r =>
        rw [check_bind_ok rfl]
        rcases send_then_pure ha s (responder, r.2) with
          ⟨after, hr, hs⟩ | ⟨error, hr⟩
        · exact .inl ⟨responder, r.1, r.2, after, rfl, hf, hr, hs⟩
        · exact .inr ⟨error, hr⟩

theorem responderAnswer_cases (ht : transmission.Atomic) (c : PqcSessionContext)
    (i : Except QlinkError Bytes) (k : Bytes) (r : Except String Bytes)
    (s : List SignedBytes) :
    (∃ hello state after, answerPqcSession crates hello c keypair k r = .ok state ∧
        responderAnswer crates c keypair i k r transmission s = (.ok state, after) ∧
        Sent s (state.hello.signed hello keypair.publicKey) after) ∨
      ∃ error, responderAnswer crates c keypair i k r transmission s = (.error error, s) := by
  unfold responderAnswer
  cases hre : receiveWireMessage crates i with
  | error error => exact .inr ⟨error, check_bind_error rfl _ _⟩
  | ok m =>
    rw [check_bind_ok rfl]
    cases m with
    | responderHello hello | initiatorFinish f => exact .inr ⟨_, check_bind_error rfl _ _⟩
    | initiatorHello hello =>
      have he : expectInitiatorHello (.initiatorHello hello) = .ok hello := rfl
      rw [check_bind_ok he]
      cases ha : answerPqcSession crates hello c keypair k r with
      | error error => exact .inr ⟨error, check_bind_error rfl _ _⟩
      | ok state =>
        rw [check_bind_ok rfl]
        rcases send_then_pure ht s state with
          ⟨after, hr, hs⟩ | ⟨error, hr⟩
        · exact .inl ⟨hello, state, after, ha, hr, hs⟩
        · exact .inr ⟨error, hr⟩

theorem responderFinish_eq_ok_iff {crates : SessionCrates} {s : PqcResponderState} {i : Except QlinkError Bytes}
    {keys : SessionKeys} :
    responderFinish crates s i = .ok keys ↔
      ∃ finish, receiveWireMessage crates i = .ok (.initiatorFinish finish) ∧
        s.finish crates finish = .ok keys := by
  simp only [responderFinish, bind_eq_ok_iff]
  constructor
  · rintro ⟨m, hr, finish, he, hf⟩
    cases m with
    | initiatorHello hl | responderHello hl => cases he
    | initiatorFinish r =>
      obtain rfl := Except.ok.inj he
      exact ⟨r, hr, hf⟩
  · rintro ⟨finish, hr, hf⟩
    exact ⟨_, hr, finish, rfl, hf⟩

end

/-- How an event moves one initiator; the indices are its new session and the signatures after. -/
inductive InitiatorMove (crates : SessionCrates) (s : Sessions) (event : Event) (i : Nat) :
    InitiatorSession → List SignedBytes → Prop
  | started {keypair context random state after} (hnew : s.initiators i = none)
      (hnonce : event.nonce = random.toOption)
      (hstart : startPqcSession crates context keypair random = .ok state)
      (hsent : Sent s.signatures (state.hello.signed keypair.publicKey) after) :
      InitiatorMove crates s event i ⟨keypair, context, .awaitingHello state⟩ after
  | finished {session state input responder finish keys randomness after}
      (hold : s.initiators i = some session) (hphase : session.phase = .awaitingHello state)
      (hinput : event.input = some input)
      (hreceive : receiveWireMessage crates input = .ok (.responderHello responder))
      (hfinish : state.finish crates responder session.keypair randomness = .ok (finish, keys))
      (hsent : Sent s.signatures
        (finish.signed state.hello responder session.keypair.publicKey) after) :
      InitiatorMove crates s event i
        { session with phase := .returned state responder keys } after
  | failed {session error} (hphase : session.phase = .failed error)
      (hold : ∀ old, s.initiators i = some old → ∃ state, old.phase = .awaitingHello state) :
      InitiatorMove crates s event i session s.signatures

/-- How an event moves one responder. -/
inductive ResponderMove (crates : SessionCrates) (s : Sessions) (event : Event) (r : Nat) :
    ResponderSession → List SignedBytes → Prop
  | started {keypair context} (hnew : s.responders r = none) :
      ResponderMove crates s event r ⟨keypair, context, .awaitingHello⟩ s.signatures
  | answered {session hello kemSeed random state after}
      (hold : s.responders r = some session) (hphase : session.phase = .awaitingHello)
      (hnonce : event.nonce = random.toOption)
      (hanswer : answerPqcSession crates hello session.context session.keypair kemSeed random =
        .ok state)
      (hsent : Sent s.signatures (state.hello.signed hello session.keypair.publicKey) after) :
      ResponderMove crates s event r { session with phase := .awaitingFinish state } after
  | finished {session state input finish keys} (hold : s.responders r = some session)
      (hphase : session.phase = .awaitingFinish state) (hinput : event.input = some input)
      (hreceive : receiveWireMessage crates input = .ok (.initiatorFinish finish))
      (hfinish : state.finish crates finish = .ok keys) :
      ResponderMove crates s event r { session with phase := .returned state keys } s.signatures
  | failed {session} (error : QlinkError) (hold : s.responders r = some session)
      (hphase : ∀ state keys, session.phase ≠ .returned state keys) :
      ResponderMove crates s event r
        { session with phase := .failed session.phase.answered error } s.signatures

theorem next_cases (crates : SessionCrates) (s : Sessions) {e : Event} (ha : e.AtomicSend) :
    next crates s e = s ∨ (∃ i session after, next crates s e = s.setInitiator i session after ∧
        InitiatorMove crates s e i session after) ∨
      ∃ r session after, next crates s e = s.setResponder r session after ∧
        ResponderMove crates s e r session after := by
  cases e with
  | startInitiator i k c ra t =>
    cases hi : s.initiators i with
    | some old => exact .inl (by simp only [next, hi])
    | none =>
      refine .inr (.inl ?_)
      rcases initiatorBegin_cases crates k (ha _ rfl) c ra
        s.signatures with ⟨state, after, ht, hu, hs⟩ | ⟨error, hu⟩
      · refine ⟨i, _, after, ?_, .started hi rfl ht hs⟩
        simp only [next, hi, hu, InitiatorSession.ofStart]
      · refine ⟨i, ⟨k, c, .failed error⟩, s.signatures, ?_, .failed rfl ?_⟩
        · simp only [next, hi, hu, InitiatorSession.ofStart]
        · intro old ho
          rw [hi] at ho
          cases ho
  | startResponder r k c =>
    cases hr : s.responders r with
    | some old => exact .inl (by simp only [next, hr])
    | none =>
      refine .inr (.inr ⟨r, ⟨k, c, .awaitingHello⟩, s.signatures, ?_, .started hr⟩)
      simp only [next, hr]
  | initiatorReceives i inp ran t =>
    cases hi : s.initiators i with
    | none => exact .inl (by simp only [next, hi])
    | some session =>
      cases hp : session.phase with
      | returned state co ke | failed error => exact .inl (by simp only [next, hi, hp])
      | awaitingHello state =>
        refine .inr (.inl ?_)
        rcases initiatorResume_cases crates session.keypair (ha _ rfl) state inp
          ran s.signatures with
          ⟨responder, f, ke, after, hre, hf, hu, hs⟩ | ⟨error, hu⟩
        · refine ⟨i, _, after, ?_, .finished hi hp rfl hre hf hs⟩
          simp only [next, hi, hp, hu, InitiatorSession.ofResume]
        · refine ⟨i, { session with phase := .failed error }, s.signatures, ?_, .failed rfl ?_⟩
          · simp only [next, hi, hp, hu, InitiatorSession.ofResume]
          · intro old ho
            rw [hi] at ho
            cases ho
            exact ⟨state, hp⟩
  | responderReceivesHello r inp kem ra t =>
    cases hr : s.responders r with
    | none => exact .inl (by simp only [next, hr])
    | some session =>
      cases hp : session.phase with
      | awaitingFinish state | returned state ke => exact .inl (by simp only [next, hr, hp])
      | failed a error => exact .inl (by simp only [next, hr, hp])
      | awaitingHello =>
        refine .inr (.inr ?_)
        rcases responderAnswer_cases crates session.keypair (ha _ rfl) session.context
          inp kem ra s.signatures with
          ⟨hello, state, after, hn, hu, hs⟩ | ⟨error, hu⟩
        · refine ⟨r, _, after, ?_, .answered hr hp rfl hn hs⟩
          simp only [next, hr, hp, hu, ResponderSession.ofAnswer]
        · refine ⟨r, _, _, ?_, .failed error hr ?_⟩
          · simp only [next, hr, hp, hu, ResponderSession.ofAnswer, ResponderPhase.answered]
          · intro state ke he
            rw [hp] at he
            cases he
  | responderReceivesFinish r inp =>
    cases hr : s.responders r with
    | none => exact .inl (by simp only [next, hr])
    | some session =>
      cases hp : session.phase with
      | awaitingHello | returned state ke => exact .inl (by simp only [next, hr, hp])
      | failed a error => exact .inl (by simp only [next, hr, hp])
      | awaitingFinish state =>
        refine .inr (.inr ?_)
        cases hu : responderFinish crates state inp with
        | ok ke =>
          obtain ⟨f, hre, hf⟩ := responderFinish_eq_ok_iff.mp hu
          refine ⟨r, _, _, ?_, .finished hr hp rfl hre hf⟩
          simp only [next, hr, hp, hu, ResponderSession.ofFinish]
        | error error =>
          refine ⟨r, _, _, ?_, .failed error hr ?_⟩
          · simp only [next, hr, hp, hu, ResponderSession.ofFinish, ResponderPhase.answered]
          · intro state' ke he
            rw [hp] at he
            cases he

end QuantumLink.Session
