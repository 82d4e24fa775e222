import QuantumLink.RegistryV2.Refinement

/-! # Calls that fail half way through their save

A save is two host writes. Every check, the sizes of both values included, comes before
the first of them, so a call that fails earlier changes nothing. The host may still
accept the identity and refuse the events; then the call answers failure with the new
identity stored. That is the only way a failed call leaves a trace, for any store and
any host.
-/

namespace QuantumLink.RegistryV2

/-- The call passes every check of its own on this store: the values load, the registry
accepts the call on the loaded record, and the values it would store fit. -/
structure ReachesWrites (w : WasmEnv) (store : Store) (invocation : Invocation) (call : Call)
    (change : Change) (events : List RegistryEvent) : Prop where
  request : invocation.call w = .ok call
  accepted : ∃ stored, loadIdentity w call.peerId store = (.ok stored, store) ∧
    call.decision w.env stored = .ok change
  loaded : ∃ log, loadEvents w call.peerId store = (.ok log, store) ∧
    events = (log.filter fun event => event.peerId = call.peerId) ++ [change.event]
  fits : Fits change.record events

variable {w : WasmEnv} {store : Store} {invocation : Invocation} {call : Call} {change : Change}
  {events : List RegistryEvent}

theorem ReachesWrites.validPeerId
    (h : ReachesWrites w store invocation call change events) : ValidPeerId call.peerId := by
  obtain ⟨s, _, hd⟩ := h.accepted
  exact (decision_inversion hd).validPeerId

/-- Both keys of every peer hold the same in two stores. -/
def SameValues (before after : Store) : Prop :=
  ∀ p, after (identityKeyBytes p) = before (identityKeyBytes p) ∧
    after (eventsKeyBytes p) = before (eventsKeyBytes p)

/-- A call that does not reach its writes fails and leaves the store; one that does is
its save. -/
theorem invoke_writes_cases (w : WasmEnv) (st : SetStatus) (store : Store)
    (invocation : Invocation) :
    (∃ e, invoke w st store invocation = (hostResponse (.error e), store)) ∨
      ∃ call change events, ReachesWrites w store invocation call change events ∧
        applyCall w st call store =
          (savePeerState st call.peerId change.record events >>= fun _ => pure .done) store := by
  cases hc : invocation.call w with
  | error e => exact .inl ⟨e, invoke_of_error hc st store⟩
  | ok call =>
    rw [invoke_of_call hc]
    have hid := (readOnly_loadIdentity w call.peerId).apply_eq store
    have hv := (readOnly_loadEvents w call.peerId).apply_eq store
    cases hi : (loadIdentity w call.peerId store).1 with
    | error e =>
      rw [hi] at hid
      exact .inl ⟨e, by rw [applyCall_of_identity_error hid]⟩
    | ok s =>
      rw [hi] at hid
      cases he : (loadEvents w call.peerId store).1 with
      | error e =>
        rw [he] at hv
        exact .inl ⟨e, by rw [applyCall_of_events_error hid hv]⟩
      | ok log =>
        rw [he] at hv
        have ha := applyCall_eq hid hv st
        cases hd : call.decision w.env s with
        | error e =>
          rw [hd] at ha
          exact .inl ⟨e.message, by rw [ha]⟩
        | ok change =>
          rw [hd] at ha
          have hp := (decision_inversion hd).validPeerId
          by_cases hf : Fits change.record
              ((log.filter fun ev => ev.peerId = call.peerId) ++ [change.event])
          · exact .inr ⟨call, change, _, ⟨hc, ⟨s, hid, hd⟩, ⟨log, hv, rfl⟩, hf⟩, ha⟩
          · obtain ⟨e, hs⟩ := savePeerState_of_not_fits hp st hf store
            refine .inl ⟨e, ?_⟩
            rw [ha]
            show (hostResponse ((savePeerState _ _ _ _ >>= _) store).1,
              ((savePeerState _ _ _ _ >>= _) store).2) = _
            rw [Op.bind_of_error hs]

/-- An accepted change never stores the value that is already there. -/
theorem ReachesWrites.identity_differs (h : ReachesWrites w store invocation call change events) :
    store (identityKeyBytes call.peerId) ≠ some (encodeIdentity change.record) := by
  intro hs
  obtain ⟨stored, hl, hd⟩ := h.accepted
  have ha := decision_inversion hd
  -- The stored value would be read as the new record, whose revision is one too high.
  rw [loadIdentity_of_valid w h.validPeerId, hs,
    readRaw_some (encodeIdentity_ne_nil _) h.fits.1] at hl
  have hr : decodeStored (decodeIdentity w) (some (encodeIdentity change.record)) =
      .ok stored := congrArg Prod.fst hl
  rw [decodeStored, decodeIdentity_encodeIdentity] at hr
  obtain ⟨_, _, _, hn, _, _⟩ := ha.next change.record (Except.ok.inj hr).symm
  rw [ha.revision] at hn
  omega

/-- The host accepts the identity of a call that passes its own checks, and then refuses
its events. -/
def TornWrite (w : WasmEnv) (status : SetStatus) (store : Store) (invocation : Invocation) : Prop :=
  ∃ call change events, ReachesWrites w store invocation call change events ∧
    status (identityKeyBytes call.peerId) (encodeIdentity change.record) = 0 ∧
    status (eventsKeyBytes call.peerId) (encodeEvents events) ≠ 0

-- A torn write answers failure with the new identity stored.
private theorem invoke_of_torn {st : SetStatus}
    (h : ReachesWrites w store invocation call change events)
    (hf : st (identityKeyBytes call.peerId) (encodeIdentity change.record) = 0)
    (hs : st (eventsKeyBytes call.peerId) (encodeEvents events) ≠ 0) :
    (invoke w st store invocation).1.ok = false ∧
      (invoke w st store invocation).2 = writeIdentity call.peerId change.record store := by
  obtain ⟨s, hi, hd⟩ := h.accepted
  obtain ⟨log, he, rfl⟩ := h.loaded
  have ha := applyCall_eq hi he st
  rw [hd] at ha
  rcases savePeerState_cases h.validPeerId st change.record _ store with
    ⟨hn, _⟩ | ⟨_, ⟨hne, _⟩ | ⟨_, ⟨_, e, hsa⟩ | ⟨hz, _⟩⟩⟩
  · exact absurd h.fits hn
  · exact absurd hf hne
  · rw [invoke_of_call h.request, ha]
    show (hostResponse ((savePeerState _ _ _ _ >>= _) store).1).ok = false ∧
      ((savePeerState _ _ _ _ >>= _) store).2 = _
    rw [Op.bind_of_error hsa]
    exact ⟨hostResponse_error_ok e, rfl⟩
  · exact absurd hz hs

/-- For every host and every store, a call that answers failure leaves the values of
every peer exactly when its write is not torn. -/
theorem failed_call_keeps_values_iff (w : WasmEnv) (status : SetStatus) (store : Store)
    (invocation : Invocation) :
    ((invoke w status store invocation).1.ok = false →
        SameValues store (invoke w status store invocation).2) ↔
      ¬ TornWrite w status store invocation := by
  constructor
  · rintro hk ⟨ca, c, ev, h, hfi, hs⟩
    obtain ⟨hf, ht⟩ := invoke_of_torn h hfi hs
    have hi := (hk hf ca.peerId).1
    rw [ht, writeIdentity_identityKey, if_pos rfl] at hi
    exact h.identity_differs hi.symm
  · intro hw hf
    rcases invoke_writes_cases w status store invocation with
      ⟨e, hin⟩ | ⟨ca, c, ev, h, ha⟩
    · rw [hin]
      exact fun p => ⟨rfl, rfl⟩
    · rw [invoke_of_call h.request, ha] at hf ⊢
      rcases savePeerState_cases h.validPeerId status c.record ev store with
        ⟨hn, _⟩ | ⟨_, ⟨_, e, hsa⟩ | ⟨hfi, ⟨hs, _⟩ | ⟨_, hsa⟩⟩⟩
      · exact absurd h.fits hn
      · rw [Op.bind_of_error hsa]
        exact fun p => ⟨rfl, rfl⟩
      · exact absurd ⟨ca, c, ev, h, hfi, hs⟩ hw
      · rw [Op.bind_of_ok hsa] at hf
        have hd : (hostResponse (.ok .done)).ok = false := hf
        rw [hostResponse_done] at hd
        simp [ContractResponse.done] at hd

def refusesEvents : SetStatus := fun key _ =>
  if key = identityKeyBytes sampleRecord.peerId then 0 else -1

theorem sampleRegister_reachesWrites : ReachesWrites sampleWasm (fun _ => none)
    sampleRegister.invocation sampleRegister sampleChange [sampleChange.event] where
  request := sampleRegister_invocation
  accepted := ⟨none, by
    rw [show sampleRegister.peerId = sampleRecord.peerId from rfl,
      loadIdentity_of_valid sampleWasm sampleRecord_valid.peerId]
    rfl, decision_sampleRegister⟩
  loaded := ⟨[], by
    rw [show sampleRegister.peerId = sampleRecord.peerId from rfl,
      loadEvents_of_valid sampleWasm sampleRecord_valid.peerId]
    rfl, rfl⟩
  fits := sample_event_fits "registered" (by decide) sampleRecord
    length_encodeIdentity_sampleRecord initialIdentityRevision

/-- A registration the host tears: failure is answered and the identity is stored. -/
theorem torn_registration_stores_identity :
    (invoke sampleWasm refusesEvents (fun _ => none) sampleRegister.invocation).1.ok = false ∧
      (invoke sampleWasm refusesEvents (fun _ => none) sampleRegister.invocation).2
        (identityKeyBytes sampleRecord.peerId) = some (encodeIdentity sampleRecord) ∧
      (invoke sampleWasm refusesEvents (fun _ => none) sampleRegister.invocation).2
        (eventsKeyBytes sampleRecord.peerId) = none := by
  have hs : refusesEvents (eventsKeyBytes sampleRegister.peerId)
      (encodeEvents [sampleChange.event]) ≠ 0 := by
    unfold refusesEvents
    rw [if_neg (identityKeyBytes_ne_eventsKeyBytes _ _).symm]
    decide
  obtain ⟨hf, ht⟩ := invoke_of_torn sampleRegister_reachesWrites (if_pos rfl) hs
  have hp : sampleRecord.peerId = sampleRegister.peerId := rfl
  rw [ht, writeIdentity_identityKey, if_pos hp, writeIdentity_eventsKey]
  exact ⟨hf, rfl, rfl⟩

end QuantumLink.RegistryV2
