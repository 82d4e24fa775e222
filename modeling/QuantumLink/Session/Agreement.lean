import QuantumLink.Foundation.Shake256
import QuantumLink.Session.Exchange

/-! # Agreement of authenticated sessions

Over every run of any number of sessions on a hostile network, a session that returns keys for
an honest peer is matched by exactly one session of that peer.

The assumptions are those of the primitives: signatures cannot be forged, the hashed values
of a run do not collide, decapsulation inverts encapsulation, and nonces do not repeat. The
carrier is assumed to report an error only for a message it has not let into the network.
-/

namespace QuantumLink.Session

open Device Event
open Sessions SignedBytes Exchange
open List

/-! ## Assumptions -/

/-- Whatever is delivered, a signature in it that verifies under an honest key has entered
the network before, as a signature of that key over the same bytes. -/
def Unforgeable (crates : SessionCrates) (honest : DeviceKeypair → Prop) (s : Sessions)
    (event : Event) : Prop :=
  ∀ input message, event.input = some input → receiveWireMessage crates input = .ok message →
    ∀ holder, honest holder → ∀ bytes,
      holder.publicKey.verify crates.device bytes message.signature = .ok () →
      (⟨holder.publicKey, bytes, message.signature⟩ : SignedBytes) ∈ s.signatures

/-- The inputs of SHAKE256, with the output length, that agreement depends on: the keys behind
the peer ids and the transcripts of the sessions that got so far. -/
inductive HashInput (honest : DeviceKeypair → Prop) (s : Sessions) : Nat × Bytes → Prop
  | holder {keypair} (h : honest keypair) : HashInput honest s (16, keypair.publicKey.peerInput)
  | responderKey {i session state responder keys} (hi : s.initiators i = some session)
      (hphase : session.phase = .returned state responder keys) :
      HashInput honest s (16, responder.responderPublicKey.peerInput)
  | initiatorTranscript {i session state responder keys} (hi : s.initiators i = some session)
      (hphase : session.phase = .returned state responder keys) :
      HashInput honest s (32, transcriptBytes state.hello responder)
  | initiatorKey {r session state} (hr : s.responders r = some session)
      (hphase : session.phase.answered = some state) :
      HashInput honest s (16, state.initiatorHello.initiatorPublicKey.peerInput)
  | responderTranscript {r session state} (hr : s.responders r = some session)
      (hphase : session.phase.answered = some state) :
      HashInput honest s (32, transcriptBytes state.initiatorHello state.hello)

/-- What a run assumes of the primitives and of the carrier. -/
structure Assumptions (crates : SessionCrates) (honest : DeviceKeypair → Prop)
    (events : List Event) : Prop where
  unforgeable : Along (step crates) (Unforgeable crates honest) empty events
  atomicSends : ∀ event ∈ events, event.AtomicSend
  freshNonces : (events.filterMap nonce).Nodup
  noCollision : ∀ x y, HashInput honest (reach crates events) x →
    HashInput honest (reach crates events) y → x.1 = y.1 →
    crates.device.shake256 x.1 x.2 = crates.device.shake256 y.1 y.2 → x.2 = y.2
  decapsulates : ∀ seed randomness,
    crates.kem.decapsulate (crates.kem.generateKeypair seed).1
        (crates.kem.encapsulate (crates.kem.generateKeypair seed).2 randomness).1 =
      (crates.kem.encapsulate (crates.kem.generateKeypair seed).2 randomness).2

structure InitiatorFacts (crates : SessionCrates) (honest : DeviceKeypair → Prop)
    (signatures : List SignedBytes) (drawn : List Bytes) (session : InitiatorSession) : Prop where
  hello : ∀ hello, session.phase.hello = some hello → hello.initiatorNonce ∈ drawn ∧
    hello = signedInitiatorHello session.keypair session.context hello.initiatorNonce
  done : ∀ state responder keys, session.phase = .returned state responder keys →
    Checked crates state.hello responder session.keypair ∧
    keys.suite = responder.suite ∧
    keys.handshakeHash = transcriptHash crates state.hello responder ∧
    ∀ holder, honest holder → responder.responderPublicKey = holder.publicKey →
      responder.signed state.hello holder.publicKey ∈ signatures

structure ResponderFacts (crates : SessionCrates) (honest : DeviceKeypair → Prop)
    (signatures : List SignedBytes) (drawn : List Bytes) (session : ResponderSession) : Prop where
  answered : ∀ state, session.phase.answered = some state → state.hello.responderNonce ∈ drawn ∧
    ∃ kemSeed, Answered crates state.initiatorHello session.context session.keypair kemSeed
      state.hello.responderNonce state
  done : ∀ state keys, session.phase = .returned state keys →
    ∃ finish, state.finish crates finish = .ok keys ∧
      ∀ holder, honest holder → state.initiatorHello.initiatorPublicKey = holder.publicKey →
        finish.signed state.initiatorHello state.hello holder.publicKey ∈ signatures

/-- Where a signature on the network comes from. -/
inductive Provenance (crates : SessionCrates) (s : Sessions) (signed : SignedBytes) : Prop
  | initiatorHello (hello : PqcInitiatorHello) (h : signed = hello.signed signed.signer)
  | responderHello {r session state} (hr : s.responders r = some session)
      (hphase : session.phase.answered = some state)
      (h : signed = state.hello.signed state.initiatorHello session.keypair.publicKey)
  | initiatorFinish {i session state responder keys} (randomness : Bytes)
      (hi : s.initiators i = some session)
      (hphase : session.phase = .returned state responder keys)
      (hkeys : keys = sessionKeys crates state.hello responder
        (crates.kem.encapsulate responder.responderMlkem768Ek randomness).2 .initiator)
      (h : signed = (signedInitiatorFinish crates session.keypair state.hello responder
        (crates.kem.encapsulate responder.responderMlkem768Ek randomness).1).signed
          state.hello responder session.keypair.publicKey)

structure Invariant (crates : SessionCrates) (honest : DeviceKeypair → Prop) (drawn : List Bytes)
    (s : Sessions) : Prop where
  signed : ∀ signed ∈ s.signatures, Provenance crates s signed
  initiators : ∀ i session, s.initiators i = some session →
    InitiatorFacts crates honest s.signatures drawn session
  responders : ∀ r session, s.responders r = some session →
    ResponderFacts crates honest s.signatures drawn session
  initiatorNonces : ∀ i j a b hello hello', s.initiators i = some a → s.initiators j = some b →
    a.phase.hello = some hello → b.phase.hello = some hello' →
    hello.initiatorNonce = hello'.initiatorNonce → i = j
  responderNonces : ∀ r q a b state state', s.responders r = some a → s.responders q = some b →
    a.phase.answered = some state → b.phase.answered = some state' →
    state.hello.responderNonce = state'.hello.responderNonce → r = q

section

variable {crates : SessionCrates} {honest : DeviceKeypair → Prop} {drawn drawn' : List Bytes}
  {signatures signatures' : List SignedBytes} {s : Sessions}

theorem answered_of_returned {p : ResponderPhase} {state : PqcResponderState} {keys : SessionKeys}
    (h : p = .returned state keys) : p.answered = some state := by
  rw [h]
  rfl

theorem hello_of_returned {p : InitiatorPhase} {st : PqcInitiatorState}
    {re : PqcResponderHello} {keys : SessionKeys} (h : p = .returned st re keys) :
    p.hello = some st.hello := by
  rw [h]
  rfl

theorem empty_initiators (i : Nat) : empty.initiators i = none := rfl

theorem empty_responders (r : Nat) : empty.responders r = none := rfl

theorem invariant_empty : Invariant crates honest [] empty where
  signed signed hm := absurd hm not_mem_nil
  initiators i session hi := by cases (empty_initiators i).symm.trans hi
  responders r session hr := by cases (empty_responders r).symm.trans hr
  initiatorNonces i _ _ _ _ _ hi := by cases (empty_initiators i).symm.trans hi
  responderNonces r _ _ _ _ _ hr := by cases (empty_responders r).symm.trans hr

variable {session : InitiatorSession}

theorem InitiatorFacts.mono (hi : signatures ⊆ signatures')
    (hd : drawn ⊆ drawn') (h : InitiatorFacts crates honest signatures drawn session) :
    InitiatorFacts crates honest signatures' drawn' session where
  hello hello hp := ⟨hd (h.hello hello hp).1, (h.hello hello hp).2⟩
  done state responder keys hp := by
    obtain ⟨hc, hu, ha, hs⟩ := h.done state responder keys hp
    exact ⟨hc, hu, ha, fun ho hh hk => hi (hs ho hh hk)⟩

theorem ResponderFacts.mono {session : ResponderSession} (hi : signatures ⊆ signatures')
    (hd : drawn ⊆ drawn') (h : ResponderFacts crates honest signatures drawn session) :
    ResponderFacts crates honest signatures' drawn' session where
  answered state hp := ⟨hd (h.answered state hp).1, (h.answered state hp).2⟩
  done state keys hp := by
    obtain ⟨f, hf, hs⟩ := h.done state keys hp
    exact ⟨f, hf, fun ho hh hk => hi (hs ho hh hk)⟩

@[simp] theorem setInitiator_same (i : Nat) (session : InitiatorSession) :
    (s.setInitiator i session signatures).initiators i = some session := by
  simp [setInitiator]

variable {i : Nat}

theorem setInitiator_other (h : j ≠ i) (session : InitiatorSession) :
    (s.setInitiator i session signatures).initiators j = s.initiators j := by
  simp [setInitiator, h]

@[simp] theorem setResponder_same (r : Nat) (session : ResponderSession) :
    (s.setResponder r session signatures).responders r = some session := by
  simp [setResponder]

variable {r : Nat}

theorem setResponder_other (h : q ≠ r) (session : ResponderSession) :
    (s.setResponder r session signatures).responders q = s.responders q := by
  simp [setResponder, h]

/-- Entries that are told apart by a nonce stay so when one entry is replaced, if its nonce was its
own before or is not one of those drawn. -/
theorem apart_of_replaced {σ η : Type} {entries entries' : Nat → Option σ} {hello : σ → Option η}
    {nonce : η → Bytes} {session : σ}
    (hp : ∀ j k a b x y, entries j = some a → entries k = some b → hello a = some x →
      hello b = some y → nonce x = nonce y → j = k)
    (hd : ∀ j a x, entries j = some a → hello a = some x → nonce x ∈ drawn)
    (hs : entries' i = some session) (ht : ∀ j, j ≠ i → entries' j = entries j)
    (hn : ∀ x, hello session = some x →
      (∃ old, entries i = some old ∧ hello old = some x) ∨ nonce x ∉ drawn)
    (j k : Nat) (a b : σ) (x y : η) (ha : entries' j = some a) (hb : entries' k = some b)
    (hx : hello a = some x) (hy : hello b = some y) (heq : nonce x = nonce y) : j = k := by
  have hm : ∀ j b x y, j ≠ i → entries j = some b → hello session = some x →
      hello b = some y → nonce x = nonce y → False := by
    intro j b x y hi hb hx hy heq
    rcases hn x hx with ⟨old, ho, hx⟩ | hf
    · exact hi (hp j i b old y x hb ho hy hx heq.symm)
    · exact hf (heq ▸ hd j b y hb hy)
  by_cases hi : j = i <;> by_cases hk : k = i
  · rw [hi, hk]
  · cases hs.symm.trans (hi ▸ ha)
    exact (hm k b x y hk (ht k hk ▸ hb) hx hy heq).elim
  · cases hs.symm.trans (hk ▸ hb)
    exact (hm j a y x hi (ht j hi ▸ ha) hy hx heq.symm).elim
  · exact hp j k a b x y (ht j hi ▸ ha) (ht k hk ▸ hb) hx hy heq

theorem Sent.subset (h : Sent signatures signed signatures') : signatures ⊆ signatures' := by
  rcases h with rfl | rfl
  · exact Subset.refl _
  · exact subset_append_left _ _

theorem Sent.mem_cases (h : Sent signatures signed signatures')
    (hm : other ∈ signatures') : other ∈ signatures ∨ other = signed := by
  rcases h with rfl | rfl
  · exact .inl hm
  · simpa using hm

abbrev drawnAfter (drawn : List Bytes) (event : Event) : List Bytes := drawn ++ event.nonce.toList

variable {event : Event}

private theorem mem_drawnAfter {ra : Except String Bytes} {nonce : Bytes}
    (hn : event.nonce = ra.toOption) (hr : ra = .ok nonce) :
    nonce ∈ drawnAfter drawn event := by
  subst hr
  rw [drawnAfter, hn]
  simp [Except.toOption]

variable (hinv : Invariant crates honest drawn s)

include hinv

/-- Moving one initiator keeps the invariant if the move explains its own signatures and facts,
ends no session that had returned, and brings no nonce drawn before. -/
theorem Invariant.setInitiator (hd : drawn ⊆ drawn') (hl : s.signatures ⊆ signatures)
    (ho : ∀ old state responder keys, s.initiators i = some old →
      old.phase ≠ .returned state responder keys)
    (he : ∀ signed ∈ signatures, signed ∈ s.signatures ∨
      Provenance crates (s.setInitiator i session signatures) signed)
    (hf : InitiatorFacts crates honest signatures drawn' session)
    (hn : ∀ hello, session.phase.hello = some hello →
      (∃ old, s.initiators i = some old ∧ old.phase.hello = some hello) ∨
        hello.initiatorNonce ∉ drawn) :
    Invariant crates honest drawn' (s.setInitiator i session signatures) where
  signed signed hm := by
    rcases he signed hm with hol | hpr
    · cases hinv.signed signed hol with
      | initiatorHello hello h => exact .initiatorHello hello h
      | responderHello hr hp h => exact .responderHello hr hp h
      | @initiatorFinish j _ _ _ _ ra hj hp hk h =>
        have hne : j ≠ i := by
          intro heq
          subst heq
          exact ho _ _ _ _ hj hp
        exact .initiatorFinish ra ((setInitiator_other hne session).trans hj) hp hk h
    · exact hpr
  initiators j other hj := by
    by_cases hi : j = i
    · subst hi
      rw [setInitiator_same] at hj
      cases hj
      exact hf
    · rw [setInitiator_other hi] at hj
      exact (hinv.initiators j other hj).mono hl hd
  responders r other hr := (hinv.responders r other hr).mono hl hd
  initiatorNonces := apart_of_replaced hinv.initiatorNonces
    (fun j a hello ha hh => ((hinv.initiators j a ha).hello hello hh).1)
    (setInitiator_same i session) (fun _ hi => setInitiator_other hi session) hn
  responderNonces := hinv.responderNonces

theorem Invariant.setResponder {session : ResponderSession} (hd : drawn ⊆ drawn')
    (hl : s.signatures ⊆ signatures)
    (hk : ∀ old state, s.responders r = some old → old.phase.answered = some state →
      session.phase.answered = some state ∧ session.keypair = old.keypair)
    (hne : ∀ signed ∈ signatures, signed ∈ s.signatures ∨
      Provenance crates (s.setResponder r session signatures) signed)
    (hf : ResponderFacts crates honest signatures drawn' session)
    (hn : ∀ state, session.phase.answered = some state →
      (∃ old, s.responders r = some old ∧ old.phase.answered = some state) ∨
        state.hello.responderNonce ∉ drawn) :
    Invariant crates honest drawn' (s.setResponder r session signatures) where
  signed signed hm := by
    rcases hne signed hm with ho | hpr
    · cases hinv.signed signed ho with
      | initiatorHello hello h => exact .initiatorHello hello h
      | @responderHello q old state hq hp h =>
        by_cases hr : q = r
        · subst hr
          obtain ⟨han, he⟩ := hk old state hq hp
          refine .responderHello (setResponder_same q session) han ?_
          rw [he]
          exact h
        · exact .responderHello ((setResponder_other hr session).trans hq) hp h
      | initiatorFinish ra hi hp hke h =>
        exact .initiatorFinish ra hi hp hke h
    · exact hpr
  initiators i other hi := (hinv.initiators i other hi).mono hl hd
  responders q other hq := by
    by_cases hr : q = r
    · subst hr
      rw [setResponder_same] at hq
      cases hq
      exact hf
    · rw [setResponder_other hr] at hq
      exact (hinv.responders q other hq).mono hl hd
  initiatorNonces := hinv.initiatorNonces
  responderNonces := apart_of_replaced hinv.responderNonces
    (fun q a state ha hs => ((hinv.responders q a ha).answered state hs).1)
    (setResponder_same r session) (fun _ hr => setResponder_other hr session) hn

variable (hun : Unforgeable crates honest s event)
  (hfr : ∀ nonce, event.nonce = some nonce → nonce ∉ drawn)

include hun hfr

theorem invariant_initiatorMove {a : List SignedBytes}
    (hmo : InitiatorMove crates s event i session a) :
    Invariant crates honest (drawnAfter drawn event) (s.setInitiator i session a) := by
  have hd : drawn ⊆ drawnAfter drawn event := subset_append_left _ _
  cases hmo with
  | @started k c r state _ hne hn hst hs =>
    obtain ⟨_, _, n, ha, rfl⟩ := startPqcSession_eq_ok_iff.mp hst
    refine hinv.setInitiator hd hs.subset ?_ ?_ ⟨?_, nofun⟩ ?_
    · intro old state responder keys ho
      rw [hne] at ho
      cases ho
    · intro si hm
      rcases hs.mem_cases hm with ho | rfl
      · exact .inl ho
      · exact .inr (.initiatorHello _ rfl)
    · intro he hh
      cases hh
      exact ⟨mem_drawnAfter hn ha, rfl⟩
    · intro he hh
      cases hh
      refine .inr (hfr n ?_)
      rw [hn, ha]
      rfl
  | @finished old state input responder finish keys randomness _ ho hp hi hre
      hfi hs =>
      obtain ⟨hc, hres⟩ := initiator_finish_eq_ok_iff.mp hfi
      cases hres
      have hh : old.phase.hello = some state.hello := by
        rw [hp]
        rfl
      refine hinv.setInitiator hd hs.subset ?_ ?_ ⟨?_, ?_⟩ ?_
      · intro o state' responder' keys' ht hr
        rw [ho] at ht
        cases ht
        rw [hp] at hr
        cases hr
      · intro si hm
        rcases hs.mem_cases hm with hm | rfl
        · exact .inl hm
        · exact .inr (.initiatorFinish randomness (setInitiator_same i _) rfl rfl rfl)
      · intro he hne
        cases hne
        have hf := (hinv.initiators i old ho).hello state.hello hh
        exact ⟨hd hf.1, hf.2⟩
      · intro state' responder' keys' hr
        obtain ⟨rfl, rfl, rfl⟩ := InitiatorPhase.returned.inj hr
        refine ⟨hc, rfl, rfl, ?_⟩
        intro hl hho hk
        apply hs.subset
        have hv := hc.verified
        rw [hk] at hv
        have hse := hun input _ hi hre hl hho _ hv
        rw [PqcResponderHello.signed, hk]
        exact hse
      · intro he hne
        cases hne
        exact .inl ⟨old, ho, hh⟩
  | @failed _ error hp ho =>
    refine hinv.setInitiator hd (Subset.refl _) ?_ (fun _ h => .inl h) ⟨?_, ?_⟩ ?_
    · intro old state responder keys ho' hr
      obtain ⟨w, hw⟩ := ho old ho'
      rw [hw] at hr
      cases hr
    · intro he hh
      rw [hp] at hh
      cases hh
    · intro state responder keys hr
      rw [hp] at hr
      cases hr
    · intro he hh
      rw [hp] at hh
      cases hh

theorem invariant_responderMove {session : ResponderSession} {a : List SignedBytes}
    (hmo : ResponderMove crates s event r session a) :
    Invariant crates honest (drawnAfter drawn event) (s.setResponder r session a) := by
  have hd : drawn ⊆ drawnAfter drawn event := subset_append_left _ _
  cases hmo with
  | @started ke c hne =>
    refine hinv.setResponder hd (Subset.refl _) ?_ (fun _ h => .inl h) ⟨nofun, nofun⟩
      nofun
    intro old state ho
    rw [hne] at ho
    cases ho
  | @answered old hello k ra state _ ho hp hno han he =>
    obtain ⟨nonce, hr, ha⟩ := answerPqcSession_eq_ok_iff.mp han
    have hn : state.hello.responderNonce = nonce := by
      rw [ha.state_eq]
      rfl
    have hh : state.initiatorHello = hello := by
      rw [ha.state_eq]
    refine hinv.setResponder hd he.subset ?_ ?_ ⟨?_, nofun⟩ ?_
    · intro o state' ht ha'
      rw [ho] at ht
      cases ht
      rw [hp] at ha'
      cases ha'
    · intro si hm
      rcases he.mem_cases hm with hm | hne
      · exact .inl hm
      · refine .inr (.responderHello (setResponder_same r _) rfl ?_)
        rw [hne, hh]
    · intro state' hs
      cases hs
      rw [hn, hh]
      exact ⟨mem_drawnAfter hno hr, k, ha⟩
    · intro state' hs
      cases hs
      rw [hn]
      refine .inr (hfr nonce ?_)
      rw [hno, hr]
      rfl
  | @finished old state i f keys ho hp hi hc hfi =>
    have ha : old.phase.answered = some state := by
      rw [hp]
      rfl
    have hf := (hinv.responders r old ho).answered state ha
    refine hinv.setResponder hd (Subset.refl _) ?_ (fun _ h => .inl h) ⟨?_, ?_⟩ ?_
    · intro o state' ht hs
      rw [ho] at ht
      cases ht
      rw [ha] at hs
      exact ⟨hs, rfl⟩
    · intro state' hs
      cases hs
      exact ⟨hd hf.1, hf.2⟩
    · intro state' keys' hre
      obtain ⟨rfl, rfl⟩ := ResponderPhase.returned.inj hre
      refine ⟨f, hfi, ?_⟩
      intro hl hho hk
      obtain ⟨_, _, _, hv, _⟩ := responder_finish_eq_ok_iff.mp hfi
      rw [hk] at hv
      exact hun i _ hi hc hl hho _ hv
    · intro state' hs
      cases hs
      exact .inl ⟨old, ho, ha⟩
  | @failed old error ho hp =>
    refine hinv.setResponder hd (Subset.refl _) ?_ (fun _ h => .inl h) ⟨?_, nofun⟩ ?_
    · intro o state ht hs
      rw [ho] at ht
      cases ht
      exact ⟨hs, rfl⟩
    · intro state hs
      have hf := (hinv.responders r old ho).answered state hs
      exact ⟨hd hf.1, hf.2⟩
    · intro state hs
      exact .inl ⟨old, ho, hs⟩

theorem next_invariant (ha : event.AtomicSend) :
    Invariant crates honest (drawnAfter drawn event) (next crates s event) := by
  rcases next_cases crates s ha with hs | ⟨i, se, a, hn, hm⟩ |
    ⟨r, se, a, hn, hm⟩
  · rw [hs]
    have hd : drawn ⊆ drawnAfter drawn event := subset_append_left _ _
    exact ⟨hinv.signed, fun i se hi => (hinv.initiators i se hi).mono (Subset.refl _) hd,
      fun r se hr => (hinv.responders r se hr).mono (Subset.refl _) hd,
      hinv.initiatorNonces, hinv.responderNonces⟩
  · rw [hn]
    exact invariant_initiatorMove hinv hun hfr hm
  · rw [hn]
    exact invariant_responderMove hinv hun hfr hm

end

private theorem filterMap_nonce_concat (events : List Event) (event : Event) :
    (events ++ [event]).filterMap nonce = drawnAfter (events.filterMap nonce) event := by
  rw [filterMap_append, drawnAfter]
  cases hn : event.nonce with
  | none | some nonce => simp [hn]

theorem reach_invariant {honest : DeviceKeypair → Prop} {events : List Event}
    (hun : Along (step crates) (Unforgeable crates honest) empty events)
    (ha : ∀ event ∈ events, event.AtomicSend)
    (hfr : (events.filterMap nonce).Nodup) :
    Invariant crates honest (events.filterMap nonce) (reach crates events) := by
  induction events using reverseRecOn with
  | nil => exact invariant_empty
  | append_singleton events event ih =>
    obtain ⟨hf, hl, _⟩ := (along_append _ _ _ _ _).mp hun
    rw [filterMap_nonce_concat] at hfr ⊢
    have hinv := ih hf (fun e he => ha e (by simp [he]))
      (Nodup.of_append_left hfr)
    rw [reach, run_concat]
    refine next_invariant hinv hl ?_ (ha event (by simp))
    intro nonce hn hm
    exact (disjoint_of_nodup_append hfr) hm (by simp [hn])

/-! ## Agreement -/

/-- Session `i` of the holder of `key` returned keys in the context. -/
def InitiatorReturned (s : Sessions) (i : Nat) (key : DevicePublicKey) (context : PqcSessionContext)
    (keys : SessionKeys) : Prop :=
  ∃ session state consumed, s.initiators i = some session ∧ session.keypair.publicKey = key ∧
    session.context = context ∧ session.phase = .returned state consumed keys

def ResponderReturned (s : Sessions) (r : Nat) (key : DevicePublicKey) (context : PqcSessionContext)
    (keys : SessionKeys) : Prop :=
  ∃ session state, s.responders r = some session ∧ session.keypair.publicKey = key ∧
    session.context = context ∧ session.phase = .returned state keys

/-- Equal suite and handshake hash, and each side sends with the key the other receives with. -/
def Paired (initiator responder : SessionKeys) : Prop :=
  initiator.suite = responder.suite ∧ initiator.handshakeHash = responder.handshakeHash ∧
    initiator.txKey = responder.rxKey ∧ initiator.rxKey = responder.txKey

/-- Initiator `i` consumed exactly what a session of the holder of `key` made in the context, in
answer to exactly the hello of `i`. -/
def AnsweredBy (s : Sessions) (i : Nat) (key : DevicePublicKey) (context : PqcSessionContext) : Prop :=
  ∃ session state consumed keys r other answer, s.initiators i = some session ∧
    session.phase = .returned state consumed keys ∧ s.responders r = some other ∧
    other.keypair.publicKey = key ∧ other.context = context ∧
    other.phase.answered = some answer ∧ answer.hello = consumed ∧
    answer.initiatorHello = state.hello

section

variable {crates : SessionCrates} {honest : DeviceKeypair → Prop} {events : List Event}
  {key : DevicePublicKey}

section

variable (h : Assumptions crates honest events)

include h

theorem Assumptions.invariant :
    Invariant crates honest (events.filterMap nonce) (reach crates events) :=
  reach_invariant h.unforgeable h.atomicSends h.freshNonces

/-- A key in play with the peer id of an honest key of the same algorithm is that key. -/
theorem Assumptions.key_eq_of_peerId {holder : DeviceKeypair} (hh : honest holder)
    (hn : HashInput honest (reach crates events) (16, key.peerInput))
    (ha : key.algorithm = "ML-DSA-65")
    (hp : key.peerId crates.device = holder.publicKey.peerId crates.device) :
    key = holder.publicKey := by
  have hi : key.peerInput = holder.publicKey.peerInput :=
    h.noCollision _ _ hn (.holder hh) rfl (DevicePublicKey.peerDigest_eq_of_peerId_eq hp)
  exact DevicePublicKey.peerInput_inj_of_mlDsa ha hi

end

section

variable {drawn : List Bytes} {s : Sessions} (hinv : Invariant crates honest drawn s)

include hinv

/-- A finish that carries a signature on the network comes from a session that returned keys. -/
theorem Invariant.finish_origin {f : PqcInitiatorFinish} {hello : PqcInitiatorHello}
    {re : PqcResponderHello}
    (hm : f.signed hello re key ∈ s.signatures) :
    ∃ i session state keys randomness, s.initiators i = some session ∧
      session.phase = .returned state re keys ∧ session.keypair.publicKey = key ∧
      state.hello = hello ∧
      f.mlkem768Ciphertext = (crates.kem.encapsulate re.responderMlkem768Ek randomness).1 ∧
      keys = sessionKeys crates hello re
        (crates.kem.encapsulate re.responderMlkem768Ek randomness).2 .initiator := by
  cases hinv.signed _ hm with
  | initiatorHello o h =>
    exact absurd (congrArg bytes h).symm initiatorHello_ne_finish
  | responderHello hr hp h =>
    exact absurd (congrArg bytes h).symm responderHello_ne_finish
  | @initiatorFinish i session state c keys randomness hi hp hk h =>
    have he : key = session.keypair.publicKey := congrArg signer h
    obtain ⟨rfl, rfl, ht, _⟩ := initiatorFinishSigningBytes_inj (congrArg bytes h)
    exact ⟨i, session, state, keys, randomness, hi, hp, he.symm, rfl, ht, hk⟩

/-- A responder hello whose signature is on the network was made by the signer's session. -/
theorem Invariant.hello_origin {re : PqcResponderHello} {hello : PqcInitiatorHello}
    (hm : re.signed hello key ∈ s.signatures) :
    ∃ r session state, s.responders r = some session ∧ session.phase.answered = some state ∧
      session.keypair.publicKey = key ∧ state.hello = re ∧ state.initiatorHello = hello := by
  cases hinv.signed _ hm with
  | initiatorHello other h =>
    exact absurd (congrArg bytes h).symm initiatorHello_ne_responderHello
  | @responderHello r session state hr hp h =>
    have hke : key = session.keypair.publicKey := congrArg signer h
    have hsi : re.signature = state.hello.signature := congrArg signature h
    obtain ⟨hh, hv, hu, hc, hn, he, hk⟩ := responderHelloSigningBytes_inj (congrArg bytes h)
    refine ⟨r, session, state, hr, hp, hke.symm, ?_, hh.symm⟩
    cases hs : state.hello with
    | mk version suite context nonce ek publicKey signature =>
      rw [hs] at hv hu hc hn he hk hsi
      cases re
      simp_all
  | initiatorFinish randomness hi hp hkeys h =>
    exact absurd (congrArg bytes h) responderHello_ne_finish

theorem Invariant.responder_hash {keys : SessionKeys} (hr : s.responders r = some session)
    (hp : session.phase = .returned state keys) :
    keys.handshakeHash = transcriptHash crates state.initiatorHello state.hello := by
  obtain ⟨f, hf, _⟩ := (hinv.responders r session hr).done state keys hp
  obtain ⟨_, _, _, _, _, rfl⟩ := responder_finish_eq_ok_iff.mp hf
  rfl

end

variable {r : Nat} {keys : SessionKeys} {context : PqcSessionContext}

variable (h : Assumptions crates honest events)

include h

variable {key' : DevicePublicKey} {context' : PqcSessionContext} {keys' : SessionKeys}

theorem Assumptions.initiator_unique {i j : Nat}
    (hi : InitiatorReturned (reach crates events) i key context keys)
    (hj : InitiatorReturned (reach crates events) j key' context' keys')
    (hh : keys.handshakeHash = keys'.handshakeHash) : i = j := by
  obtain ⟨a, state, consumed, ha, _, _, hp⟩ := hi
  obtain ⟨b, state', consumed', hb, _, _, hp'⟩ := hj
  have hinv := h.invariant
  obtain ⟨_, _, hk, _⟩ := (hinv.initiators i a ha).done _ _ _ hp
  obtain ⟨_, _, hk', _⟩ := (hinv.initiators j b hb).done _ _ _ hp'
  rw [hk, hk'] at hh
  have hy := h.noCollision _ _ (.initiatorTranscript ha hp)
    (.initiatorTranscript hb hp') rfl hh
  have he : state.hello = state'.hello := (transcriptBytes_inj hy).1
  apply hinv.initiatorNonces i j a b state.hello state'.hello ha hb (hello_of_returned hp)
    (hello_of_returned hp')
  rw [he]

theorem Assumptions.responder_unique {q : Nat}
    (hr : ResponderReturned (reach crates events) r key context keys)
    (hq : ResponderReturned (reach crates events) q key' context' keys')
    (hh : keys.handshakeHash = keys'.handshakeHash) : r = q := by
  obtain ⟨a, state, ha, _, _, hp⟩ := hr
  obtain ⟨b, state', hb, _, _, hp'⟩ := hq
  have hinv := h.invariant
  have hn := answered_of_returned hp
  have ha' := answered_of_returned hp'
  rw [hinv.responder_hash ha hp, hinv.responder_hash hb hp'] at hh
  have hy := h.noCollision _ _ (.responderTranscript ha hn)
    (.responderTranscript hb ha') rfl hh
  apply hinv.responderNonces r q a b state state' ha hb hn ha'
  rw [(transcriptBytes_inj hy).2]

/-- A responder that returned keys for an honest initiator is paired with one of its sessions. -/
theorem Assumptions.paired_initiator
    (hr : ResponderReturned (reach crates events) r key context keys) {holder : DeviceKeypair}
    (hh : honest holder)
    (hpe : holder.publicKey.peerId crates.device = context.initiatorPeerId) :
    ∃ i keys', InitiatorReturned (reach crates events) i holder.publicKey context keys' ∧
      Paired keys' keys := by
  obtain ⟨s, state, he, _, rfl, hp⟩ := hr
  have hinv := h.invariant
  have ha := answered_of_returned hp
  obtain ⟨_, k, hn⟩ := (hinv.responders r s he).answered state ha
  obtain ⟨f, hf, hsee⟩ := (hinv.responders r s he).done state keys hp
  have hke : state.initiatorHello.initiatorPublicKey = holder.publicKey :=
    h.key_eq_of_peerId hh (.initiatorKey he ha) hn.initiatorAlgorithm
      (hn.initiatorPeer.trans hpe.symm)
  obtain ⟨i, o, state', keys', ra, hi, hp', ho, hhe, ht, hk'⟩ :=
    hinv.finish_origin (hsee holder hh hke)
  obtain ⟨_, _, _, _, _, hk⟩ := responder_finish_eq_ok_iff.mp hf
  have hek : state.hello.responderMlkem768Ek = (crates.kem.generateKeypair k).2 := by
    rw [hn.state_eq]
    rfl
  have hse : state.mlkem768Secret = (crates.kem.generateKeypair k).1 := by
    rw [hn.state_eq]
  have hsh : crates.kem.decapsulate state.mlkem768Secret f.mlkem768Ciphertext =
      (crates.kem.encapsulate state.hello.responderMlkem768Ek ra).2 := by
    rw [ht, hek, hse]
    exact h.decapsulates k ra
  have hc : o.context = s.context := by
    have hm := ((hinv.initiators i o hi).hello _ (hello_of_returned hp')).2
    have hs := congrArg PqcInitiatorHello.context hm
    rw [hhe, hn.sameContext] at hs
    exact hs.symm
  refine ⟨i, keys', ⟨o, state', state.hello, hi, ho, hc, hp'⟩, ?_⟩
  rw [hk, hk', hsh]
  exact ⟨rfl, rfl, rfl, rfl⟩

end

/-- Authenticated session agreement, for every run that meets the assumptions. -/
theorem pqc_session_agreement (crates : SessionCrates) (honest : DeviceKeypair → Prop)
    (events : List Event) (h : Assumptions crates honest events) :
    (∀ r key context keys holder, ResponderReturned (reach crates events) r key context keys →
      honest holder → holder.publicKey.peerId crates.device = context.initiatorPeerId →
      ∃ i keys', InitiatorReturned (reach crates events) i holder.publicKey context keys' ∧
        Paired keys' keys ∧
        (∀ j other, InitiatorReturned (reach crates events) j holder.publicKey context other →
          Paired other keys → j = i) ∧
        ∀ q key' context' other, ResponderReturned (reach crates events) q key' context' other →
          Paired keys' other → q = r) ∧
    ∀ i key context keys holder, InitiatorReturned (reach crates events) i key context keys →
      honest holder → holder.publicKey.peerId crates.device = context.responderPeerId →
      AnsweredBy (reach crates events) i holder.publicKey context := by
  constructor
  · intro r key context keys holder hr hh hpe
    obtain ⟨i, keys', hi, hpa⟩ := h.paired_initiator hr hh hpe
    refine ⟨i, keys', hi, hpa, ?_, ?_⟩
    · intro j other hj ho
      exact h.initiator_unique hj hi (ho.2.1.trans hpa.2.1.symm)
    · intro q key' context' other hq ho
      exact h.responder_unique hq hr (ho.2.1.symm.trans hpa.2.1)
  · intro i key context keys holder hi hh hpe
    obtain ⟨s, st, c, he, _, rfl, hp⟩ := hi
    have hinv := h.invariant
    obtain ⟨hc, _, _, hse⟩ := (hinv.initiators i s he).done _ _ _ hp
    have hco : st.hello.context = s.context := by
      rw [((hinv.initiators i s he).hello _ (hello_of_returned hp)).2]
      rfl
    have hk : c.responderPublicKey = holder.publicKey := by
      apply h.key_eq_of_peerId hh (.responderKey he hp) hc.responderAlgorithm
      rw [hc.responderPeer, hco, hpe]
    obtain ⟨r, other, a, hr, hn, how, hm, ha⟩ := hinv.hello_origin (hse holder hh hk)
    obtain ⟨_, _, hans⟩ := (hinv.responders r other hr).answered a hn
    have hs : other.context = s.context := by
      rw [← hco, ← ha]
      exact hans.sameContext.symm
    exact ⟨s, st, c, keys, r, other, a, he, hp, hr, how, hs, hn, hm, ha⟩

/-! ## Undisturbed exchanges are unforgeable -/

section

variable {crates : SessionCrates} {honest : DeviceKeypair → Prop} {x : Exchange}

/-- A message that arrives as it was sent: only signatures equal to its own matter. -/
theorem unforgeable_of_delivered {s : Sessions} {event : Event}
    (hi : event.input = some (delivered message)) (hs : message.Sized)
    (hse : ∀ holder, honest holder → ∀ bytes,
      holder.publicKey.verify crates.device bytes message.signature = .ok () →
      (⟨holder.publicKey, bytes, message.signature⟩ : SignedBytes) ∈ s.signatures) :
    Unforgeable crates honest s event := by
  intro input r he hr
  cases hi.symm.trans he
  rw [receiveWireMessage_delivered crates hs] at hr
  cases hr
  exact hse

/-- If honest keys verify nothing but the three signatures of the exchange, and these differ,
then no step of the exchange uses a forgery. -/
theorem Exchange.Good.unforgeable (h : x.Good crates)
    (hv : ∀ holder, honest holder → ∀ bytes signature, signature.length = mlDsa65SignatureLength →
      holder.publicKey.verify crates.device bytes signature = .ok () →
      (⟨holder.publicKey, bytes, signature⟩ : SignedBytes) ∈
        [x.helloSigned, x.answerSigned crates, x.finishSigned crates])
    (ha : x.helloSigned.signature ≠ (x.answerSigned crates).signature)
    (hf : x.helloSigned.signature ≠ (x.finishSigned crates).signature)
    (hl : (x.answerSigned crates).signature ≠ (x.finishSigned crates).signature) :
    Along (step crates) (Unforgeable crates honest) empty (x.events crates) := by
  simp only [events, Along, step, h.next_started, next_waiting,
    h.next_answered, h.next_resumed, and_true]
  refine ⟨fun _ _ hn => ?_, fun _ _ hn => ?_, ?_, ?_, ?_⟩
  · cases hn
  · cases hn
  · apply unforgeable_of_delivered rfl h.helloCarried.sized
    intro holder hh bytes hk
    have hm := hv holder hh bytes _ (h.initiatorDevice.signatureLength _) hk
    simp only [mem_cons, not_mem_nil, or_false] at hm
    rcases hm with hm | hm | hm
    · exact mem_singleton.mpr hm
    · exact absurd (congrArg signature hm) ha
    · exact absurd (congrArg signature hm) hf
  · apply unforgeable_of_delivered rfl h.answerCarried.sized
    intro holder hh bytes hk
    have hm := hv holder hh bytes _ (h.responderDevice.signatureLength _) hk
    simp only [mem_cons, not_mem_nil, or_false] at hm
    rcases hm with hm | hm | hm
    · exact mem_cons.mpr (.inl hm)
    · exact mem_cons_of_mem _ (mem_singleton.mpr hm)
    · exact absurd (congrArg signature hm) hl
  · apply unforgeable_of_delivered rfl h.finishCarried.sized
    intro holder hh bytes hk
    exact hv holder hh bytes _ (h.initiatorDevice.signatureLength _) hk

end

/-! ## A run that meets the assumptions

Two devices with the hash function itself, signatures looked up in the list of those made, and
a KEM whose encapsulation key carries the secret. -/

/-- Keys that carry nothing but the sizes of ML-DSA-65. -/
@[irreducible] def sampleInitiatorKey : Bytes := replicate mlDsa65KeyLength 0
@[irreducible] def sampleResponderKey : Bytes := replicate mlDsa65KeyLength 1

@[irreducible] def sampleSignature (fill : UInt8) : Bytes :=
  replicate mlDsa65SignatureLength fill

def sampleKem : MlKem768 where
  generateKeypair seed := ((seed ++ replicate 32 0).take 32,
    (seed ++ replicate 32 0).take 32 ++ replicate 1152 0)
  acceptsKey _ := true
  encapsulate ek _ := (replicate mlkem768CiphertextLength 0, ek.take 32)
  decapsulate secret _ := secret

/-- The crates of the run for a given table of signatures. -/
def sampleCratesOf (table : List SignedBytes) : SessionCrates where
  device :=
    { shake256 := Shake256.hash
      mlDsa65 :=
        { decodesKey := fun _ => true
          decodesSignature := fun _ => true
          verify := fun key message signature =>
            decide ((⟨⟨"ML-DSA-65", key⟩, message, signature⟩ : SignedBytes) ∈ table) }
      slhDsaShake128s :=
        { decodesKey := fun _ => false
          decodesSignature := fun _ => false
          verify := fun _ _ _ => false } }
  kem := sampleKem
  serdeError _ := "expected value"

def samplePeer (key : Bytes) : String :=
  DevicePublicKey.peerId (sampleCratesOf []).device ⟨"ML-DSA-65", key⟩

def sampleContext : PqcSessionContext where
  meshId := "mesh"
  initiatorPeerId := samplePeer sampleInitiatorKey
  responderPeerId := samplePeer sampleResponderKey
  carrierBinding := [7]

def sampleNonce (fill : UInt8) : Bytes := replicate 32 fill

def sampleHelloBytes : Bytes :=
  initiatorHelloSigningBytes pqcSessionVersion pqcSessionSuite sampleContext (sampleNonce 1)
    ⟨"ML-DSA-65", sampleInitiatorKey⟩

/-- The initiator signs two messages, the hello and the finish. -/
@[irreducible] def sampleSign (message : Bytes) : Bytes :=
  if message = sampleHelloBytes then sampleSignature 1 else sampleSignature 3

def sampleInitiator : DeviceKeypair := ⟨.mlDsa ⟨sampleInitiatorKey, sampleSign⟩⟩

def sampleResponder : DeviceKeypair :=
  ⟨.mlDsa ⟨sampleResponderKey, fun _ => sampleSignature 2⟩⟩

def sampleExchange : Exchange where
  initiator := sampleInitiator
  responder := sampleResponder
  context := sampleContext
  initiatorNonce := sampleNonce 1
  responderNonce := sampleNonce 2
  kemSeed := [5]
  randomness := [6]

def sampleSignatures : List SignedBytes :=
  [sampleExchange.helloSigned, sampleExchange.answerSigned (sampleCratesOf []),
    sampleExchange.finishSigned (sampleCratesOf [])]

def sampleCrates : SessionCrates := sampleCratesOf sampleSignatures

/-- The table holds what the run signs: verification plays no part in what is signed. -/
theorem sampleSignatures_eq :
    sampleSignatures = [sampleExchange.helloSigned, sampleExchange.answerSigned sampleCrates,
      sampleExchange.finishSigned sampleCrates] := by
  simp [sampleSignatures, sampleCrates, answerSigned, finishSigned, finish, answer,
    encapsulated, signedInitiatorFinish, Session.transcriptHash, sampleCratesOf]

def sampleHonest (keypair : DeviceKeypair) : Prop :=
  keypair = sampleInitiator ∨ keypair = sampleResponder

theorem length_sampleSignature (f : UInt8) :
    (sampleSignature f).length = mlDsa65SignatureLength := by
  unfold sampleSignature
  exact length_replicate

theorem sampleSignature_inj (h : sampleSignature a = sampleSignature b) : a = b := by
  unfold sampleSignature at h
  exact (replicate_right_inj (by decide)).mp h

theorem sampleInitiator_standard : StandardDevice sampleInitiator where
  algorithm := rfl
  keyLength := by
    show sampleInitiatorKey.length = _
    unfold sampleInitiatorKey
    exact length_replicate
  signatureLength message := by
    show (sampleSign message).length = _
    unfold sampleSign
    split <;> exact length_sampleSignature _

theorem sampleResponder_standard : StandardDevice sampleResponder where
  algorithm := rfl
  keyLength := by
    show sampleResponderKey.length = _
    unfold sampleResponderKey
    exact length_replicate
  signatureLength _ := length_sampleSignature 2

theorem sampleHonest.standard (h : sampleHonest keypair) : StandardDevice keypair := by
  rcases h with rfl | rfl
  · exact sampleInitiator_standard
  · exact sampleResponder_standard

theorem sample_verify_iff (h : StandardDevice keypair)
    {m si : Bytes} (hl : si.length = mlDsa65SignatureLength) :
    keypair.publicKey.verify sampleCrates.device m si = .ok () ↔
      (⟨keypair.publicKey, m, si⟩ : SignedBytes) ∈ sampleSignatures := by
  have hk : keypair.publicKey = ⟨"ML-DSA-65", keypair.publicKey.bytes⟩ := by
    rw [← h.algorithm]
  rw [hk]
  simp [DevicePublicKey.verify, h.keyLength, hl, sampleCrates, sampleCratesOf, bind,
    Except.bind, ensure_of]

theorem length_sampleKem_ek (se : Bytes) :
    (sampleKem.generateKeypair se).2.length = mlkem768EkLength := by
  simp only [sampleKem, mlkem768EkLength, length_append, length_take, length_replicate]
  omega

theorem sampleKem_decapsulates (se ra : Bytes) :
    sampleKem.decapsulate (sampleKem.generateKeypair se).1
        (sampleKem.encapsulate (sampleKem.generateKeypair se).2 ra).1 =
      (sampleKem.encapsulate (sampleKem.generateKeypair se).2 ra).2 := by
  have hl : ((se ++ replicate 32 0).take 32).length = 32 := by simp
  simp only [sampleKem]
  rw [take_append_of_le_length hl.ge, take_take, Nat.min_self]

theorem sampleExchange_sign (message : Bytes) :
    sampleExchange.initiator.sign message = sampleSign message := rfl

theorem sample_hello_signature : sampleExchange.hello.signature = sampleSignature 1 := by
  have hk : sampleInitiator.publicKey = ⟨"ML-DSA-65", sampleInitiatorKey⟩ := rfl
  have hb : sampleExchange.helloSigned.bytes = sampleHelloBytes := by
    simp [helloSigned, hello, signedInitiatorHello, PqcInitiatorHello.signed, sampleExchange, sampleHelloBytes, hk]
  rw [hello_signature, hb, sampleExchange_sign, sampleSign, if_pos rfl]

theorem sample_answer_signature (crates : SessionCrates) :
    (sampleExchange.answer crates).hello.signature = sampleSignature 2 := rfl

theorem sample_finish_signature (crates : SessionCrates) :
    (sampleExchange.finish crates).signature = sampleSignature 3 := by
  rw [finish_signature, sampleExchange_sign, sampleSign, if_neg]
  exact Ne.symm initiatorHello_ne_finish

theorem sample_good : sampleExchange.Good sampleCrates where
  initiatorDevice := sampleInitiator_standard
  responderDevice := sampleResponder_standard
  initiatorPeer := rfl
  responderPeer := rfl
  helloVerifies := by
    rw [hello_signature]
    exact (sample_verify_iff sampleInitiator_standard
      (sampleInitiator_standard.signatureLength _)).mpr
      (sampleSignatures_eq ▸ mem_cons_self)
  answerVerifies := by
    rw [answer_signature]
    exact (sample_verify_iff sampleResponder_standard
      (sampleResponder_standard.signatureLength _)).mpr
      (sampleSignatures_eq ▸ mem_cons_of_mem _ mem_cons_self)
  finishVerifies := by
    rw [finish_signature]
    exact (sample_verify_iff sampleInitiator_standard
      (sampleInitiator_standard.signatureLength _)).mpr
      (sampleSignatures_eq ▸ mem_cons_of_mem _ (mem_cons_of_mem _ mem_cons_self))
  ekLength := length_sampleKem_ek _
  ekAccepted := rfl
  ciphertextLength := length_replicate
  decapsulates := sampleKem_decapsulates _ _
  initiatorNonceLength := length_replicate
  responderNonceLength := length_replicate
  hashLength := Shake256.length_hash
  helloFits := by
    rw [Json.length_toBytes, show sampleExchange.hello = ⟨_, _, _, _, _, sampleSignature 1⟩ by
      rw [← sample_hello_signature]]
    decide +kernel
  finishFits := by
    have hl : (sampleExchange.finish sampleCrates).transcriptHash.length = 32 :=
      Shake256.length_hash 32 _
    rw [Json.length_toBytes]
    refine (byteLength_initiatorFinish_le _).trans ?_
    rw [sample_finish_signature, hl]
    decide +kernel
  answerFits := by
    rw [Json.length_toBytes]
    decide +kernel

theorem sample_unforgeable : Along (step sampleCrates) (Unforgeable sampleCrates sampleHonest) empty
      (sampleExchange.events sampleCrates) := by
  have hf : sampleExchange.helloSigned.signature = sampleSignature 1 := by
    rw [helloSigned_signature, sample_hello_signature]
  have hs : (sampleExchange.answerSigned sampleCrates).signature = sampleSignature 2 := by
    rw [answerSigned_signature, sample_answer_signature]
  have ht : (sampleExchange.finishSigned sampleCrates).signature = sampleSignature 3 := by
    rw [finishSigned_signature, sample_finish_signature]
  apply sample_good.unforgeable
  · intro ho hh b s hl hv
    rw [← sampleSignatures_eq]
    exact (sample_verify_iff hh.standard hl).mp hv
  · rw [hf, hs]
    exact fun heq => absurd (sampleSignature_inj heq) (by decide)
  · rw [hf, ht]
    exact fun heq => absurd (sampleSignature_inj heq) (by decide)
  · rw [hs, ht]
    exact fun heq => absurd (sampleSignature_inj heq) (by decide)

theorem sample_hashInput (h : HashInput sampleHonest (sampleExchange.final sampleCrates) x) :
    x = (16, sampleInitiator.publicKey.peerInput) ∨ x = (16, sampleResponder.publicKey.peerInput) ∨
      x = (32, transcriptBytes sampleExchange.hello (sampleExchange.answer sampleCrates).hello) := by
  have hn {i session} (hi : (sampleExchange.final sampleCrates).initiators i = some session) :
      session = ⟨sampleExchange.initiator, sampleExchange.context,
        .returned ⟨sampleExchange.hello⟩ (sampleExchange.answer sampleCrates).hello
          (sampleExchange.keys sampleCrates .initiator)⟩ := by
    by_cases hz : i = 0
    · subst hz
      exact (Option.some.inj hi).symm
    · simp [final, sessions, hz] at hi
  have he {r session} (hr : (sampleExchange.final sampleCrates).responders r = some session) :
      session = ⟨sampleExchange.responder, sampleExchange.context,
        .returned (sampleExchange.answer sampleCrates)
          (sampleExchange.keys sampleCrates .responder)⟩ := by
    by_cases hz : r = 0
    · subst hz
      exact (Option.some.inj hr).symm
    · simp [final, sessions, hz] at hr
  cases h with
  | holder hh =>
    rcases hh with rfl | rfl
    · exact .inl rfl
    · exact .inr (.inl rfl)
  | responderKey hi hp =>
    obtain rfl := hn hi
    obtain ⟨rfl, rfl, rfl⟩ := InitiatorPhase.returned.inj hp
    exact .inr (.inl rfl)
  | initiatorTranscript hi hp =>
    obtain rfl := hn hi
    obtain ⟨rfl, rfl, rfl⟩ := InitiatorPhase.returned.inj hp
    exact .inr (.inr rfl)
  | initiatorKey hr hp =>
    obtain rfl := he hr
    cases hp
    exact .inl rfl
  | responderTranscript hr hp =>
    obtain rfl := he hr
    cases hp
    exact .inr (.inr rfl)

theorem sample_digests_ne : Shake256.hash 16 sampleInitiator.publicKey.peerInput ≠
      Shake256.hash 16 sampleResponder.publicKey.peerInput := by
  decide +kernel

theorem sample_assumptions :
    Assumptions sampleCrates sampleHonest (sampleExchange.events sampleCrates) where
  unforgeable := sample_unforgeable
  atomicSends event he transmission ht := by
    simp only [events, mem_cons, not_mem_nil, or_false] at he
    have hs : transmission = sent := by
      rcases he with rfl | rfl | rfl | rfl | rfl
      · exact (Option.some.inj ht).symm
      · cases ht
      · exact (Option.some.inj ht).symm
      · exact (Option.some.inj ht).symm
      · cases ht
    rw [hs]
    exact fun hf => absurd rfl hf
  freshNonces := by
    show [sampleNonce 1, sampleNonce 2].Nodup
    decide
  noCollision x y hx hy hl hh := by
    rw [sample_good.reach_events] at hx hy
    have hne := sample_digests_ne
    rcases sample_hashInput hx with rfl | rfl | rfl <;> rcases sample_hashInput hy with rfl | rfl | rfl
    · rfl
    · exact absurd hh hne
    · exact absurd hl (by decide)
    · exact absurd hh.symm hne
    · rfl
    · exact absurd hl (by decide)
    · exact absurd hl (by decide)
    · exact absurd hl (by decide)
    · rfl
  decapsulates := sampleKem_decapsulates

/-- In the sample run both sides return keys, and agreement pairs them. -/
theorem sample_session_agreement :
    ResponderReturned (reach sampleCrates (sampleExchange.events sampleCrates)) 0
        sampleResponder.publicKey sampleContext (sampleExchange.keys sampleCrates .responder) ∧
      (∃ i keys, InitiatorReturned (reach sampleCrates (sampleExchange.events sampleCrates)) i
          sampleInitiator.publicKey sampleContext keys ∧
        Paired keys (sampleExchange.keys sampleCrates .responder)) ∧
      AnsweredBy (reach sampleCrates (sampleExchange.events sampleCrates)) 0
        sampleResponder.publicKey sampleContext := by
  obtain ⟨he, hn⟩ := pqc_session_agreement sampleCrates sampleHonest _ sample_assumptions
  have hf := sample_good.reach_events
  have hr : ResponderReturned (reach sampleCrates (sampleExchange.events sampleCrates)) 0
      sampleResponder.publicKey sampleContext (sampleExchange.keys sampleCrates .responder) := by
    rw [hf]
    exact ⟨_, _, rfl, rfl, rfl, rfl⟩
  have hi : InitiatorReturned (reach sampleCrates (sampleExchange.events sampleCrates)) 0
      sampleInitiator.publicKey sampleContext (sampleExchange.keys sampleCrates .initiator) := by
    rw [hf]
    exact ⟨_, _, _, rfl, rfl, rfl, rfl⟩
  obtain ⟨i, keys, hp, ha, _⟩ := he 0 _ _ _ sampleInitiator hr (Or.inl rfl) rfl
  exact ⟨hr, ⟨i, keys, hp, ha⟩, hn 0 _ _ _ sampleResponder hi (Or.inr rfl) rfl⟩

end QuantumLink.Session
