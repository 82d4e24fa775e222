import QuantumLink.RegistryV2.Storage

/-! # Loading, deciding and saving one peer

What the storage helpers of the wasm contract do, for any store: the two keys of a
peer belong to it alone, loads read and never write, a call on the loaded slice
decides as the registry decides on the loaded record, and a save checks both sizes
before its first write. `savePeerState_cases` lists all the ways a save can end.
-/

namespace QuantumLink.RegistryV2

open Json (stringBytes)
open Op List

variable {p : String}

theorem identityKeyBytes_inj (h : identityKeyBytes p = identityKeyBytes q) : p = q := by
  rw [identityKeyBytes, identityKeyBytes, Json.stringBytes_append, Json.stringBytes_append] at h
  exact Json.stringBytes_injective (append_cancel_left h)

theorem eventsKeyBytes_inj (h : eventsKeyBytes p = eventsKeyBytes q) : p = q := by
  rw [eventsKeyBytes, eventsKeyBytes, Json.stringBytes_append, Json.stringBytes_append] at h
  exact Json.stringBytes_injective (append_cancel_left h)

-- The keys differ at their fourth byte, whatever the peers.
theorem identityKeyBytes_ne_eventsKeyBytes (p q : String) :
    identityKeyBytes p ≠ eventsKeyBytes q := by
  intro h
  rw [identityKeyBytes, eventsKeyBytes, Json.stringBytes_append, Json.stringBytes_append] at h
  have hf := congrArg (take 4) h
  rw [take_append_of_le_length (by decide), take_append_of_le_length (by decide)] at hf
  exact absurd hf (by decide)

theorem identityStorageKey_of_valid (h : ValidPeerId p) :
    withMessage (identityStorageKey p) = .ok (identityKeyBytes p) := by
  simp [withMessage, identityStorageKey, validatePeerId, ensure, h, bind, Except.bind, pure,
    Except.pure, Except.mapError]

theorem eventsStorageKey_of_valid (h : ValidPeerId p) :
    withMessage (eventsStorageKey p) = .ok (eventsKeyBytes p) := by
  simp [withMessage, eventsStorageKey, validatePeerId, ensure, h, bind, Except.bind, pure,
    Except.pure, Except.mapError]

theorem identityStorageKey_of_not_valid (h : ¬ ValidPeerId p) :
    withMessage (identityStorageKey p) = .error RegistryError.invalidPeerId.message := by
  simp [withMessage, identityStorageKey, validatePeerId, ensure, h, bind, Except.bind,
    Except.mapError]

theorem loadIdentity_of_valid (w : WasmEnv) (h : ValidPeerId p) (store : Store) :
    loadIdentity w p store =
      (readRaw (store (identityKeyBytes p)) >>= decodeStored (decodeIdentity w), store) := by
  unfold loadIdentity storageGetRaw
  rw [check_bind_ok (identityStorageKey_of_valid h)]
  cases hr : readRaw (store (identityKeyBytes p)) with
  | error e | ok v => simp [hr, bind, Except.bind]

theorem loadEvents_of_valid (w : WasmEnv) (h : ValidPeerId p) (store : Store) :
    loadEvents w p store =
      ((readRaw (store (eventsKeyBytes p)) >>= decodeStored (decodeEvents w)).map
        (fun events => events.getD []), store) := by
  unfold loadEvents storageGetRaw
  rw [check_bind_ok (eventsStorageKey_of_valid h)]
  cases hr : readRaw (store (eventsKeyBytes p)) with
  | error e => simp [hr, bind, Except.bind, Except.map]
  | ok v =>
    cases hd : decodeStored (decodeEvents w) v with
    | error e | ok events => simp [hr, hd, bind, Except.bind, Except.map]

theorem loadIdentity_of_not_valid (w : WasmEnv) (h : ¬ ValidPeerId p) (store : Store) :
    loadIdentity w p store = (.error RegistryError.invalidPeerId.message, store) :=
  check_bind_error (identityStorageKey_of_not_valid h) _ _

theorem readOnly_loadIdentity (w : WasmEnv) (p : String) : (loadIdentity w p).ReadOnly :=
  (readOnly_check _).bind fun _ =>
    ((readOnly_read _).bind fun _ => readOnly_check _).bind fun _ => readOnly_check _

theorem readOnly_loadEvents (w : WasmEnv) (p : String) : (loadEvents w p).ReadOnly :=
  (readOnly_check _).bind fun _ =>
    ((readOnly_read _).bind fun _ => readOnly_check _).bind fun _ =>
      (readOnly_check _).bind fun _ => readOnly_pure _

variable {value : Bytes}

theorem readRaw_some (hne : value ≠ []) (hf : value.length ≤ maxStorageValueSize) :
    readRaw (some value) = .ok (some value) := by
  have hp : value.length ≠ 0 := fun h => hne (length_eq_zero_iff.mp h)
  simp only [readRaw, if_neg hp, if_neg (Nat.not_lt.mpr hf)]

/-! ## A call on one peer's slice -/

@[simp] theorem peerRegistry_getIdentity (p : String) : (peerRegistry p identity events).getIdentity p = identity := by
  cases identity with
  | none => exact Finmap.lookup_empty p
  | some r => exact Finmap.lookup_insert _

@[simp] theorem peerRegistry_eventsOf (p q : String) :
    (peerRegistry p identity events).eventsOf q = events.filter fun event => event.peerId = q := by
  cases identity <;> rfl

variable {w : WasmEnv} {call : Call} {store : Store} {stored : Option StableIdentityRecord}

theorem preparePeerState_eq (hi : loadIdentity w call.peerId store = (.ok stored, store))
    (hv : loadEvents w call.peerId store = (.ok log, store)) :
    preparePeerState w call.peerId (call.exec w.env) store =
      match call.decision w.env stored with
      | .error e => (.error e.message, store)
      | .ok change => (.ok (change.record,
          (log.filter fun event => event.peerId = call.peerId) ++ [change.event]), store) := by
  have he := exec_eq_settle w.env call (peerRegistry call.peerId stored log)
  rw [peerRegistry_getIdentity] at he
  unfold preparePeerState
  rw [bind_apply, hi]
  show (loadEvents w call.peerId >>= _) store = _
  rw [bind_apply, hv]
  cases hd : call.decision w.env stored with
  | error e =>
    rw [hd] at he
    show (check (withMessage (call.exec w.env (peerRegistry call.peerId stored log)).1) >>= _)
      store = _
    rw [he]
    rfl
  | ok change =>
    rw [hd] at he
    have hp := (decision_inversion hd).event_peerId
    have hg : (change.commit (peerRegistry call.peerId stored log)).getIdentity call.peerId =
        some change.record := by
      rw [getIdentity_commit, if_pos hp.symm]
    have hl : (change.commit (peerRegistry call.peerId stored log)).eventsOf call.peerId =
        (log.filter fun event => event.peerId = call.peerId) ++ [change.event] := by
      rw [eventsOf_commit, if_pos hp, peerRegistry_eventsOf]
    show (check (withMessage (call.exec w.env (peerRegistry call.peerId stored log)).1) >>= _)
      store = _
    rw [he]
    show (check (okOr ((change.commit _).getIdentity call.peerId) _) >>= _) store = _
    rw [check_bind_ok (okOr_eq_ok_iff.mpr hg)]
    show (Except.ok (change.record, (change.commit _).eventsOf call.peerId), store) = _
    rw [hl]

/-- Both values of a peer fit the storage limit. -/
def Fits (identity : StableIdentityRecord) (events : List RegistryEvent) : Prop :=
  (encodeIdentity identity).length ≤ maxStorageValueSize ∧
    (encodeEvents events).length ≤ maxStorageValueSize

instance (identity : StableIdentityRecord) (events : List RegistryEvent) :
    Decidable (Fits identity events) := inferInstanceAs (Decidable (_ ∧ _))

/-- The store after the first write of a save, and after both. -/
def writeIdentity (p : String) (identity : StableIdentityRecord) (store : Store) : Store :=
  Function.update store (identityKeyBytes p) (some (encodeIdentity identity))

def writeBoth (p : String) (identity : StableIdentityRecord) (events : List RegistryEvent)
    (store : Store) : Store :=
  Function.update (writeIdentity p identity store) (eventsKeyBytes p) (some (encodeEvents events))

theorem validateStorageValueSize_of_le (h : value.length ≤ maxStorageValueSize) :
    validateStorageValueSize value = .ok () := ensure_of h

theorem validateStorageValueSize_of_not_le
    (h : ¬ value.length ≤ maxStorageValueSize) : ∃ e, validateStorageValueSize value = .error e :=
  ⟨_, ensure_eq_error_iff.mpr ⟨h, rfl⟩⟩

theorem storageSetRaw_of_zero
    (hf : value.length ≤ maxStorageValueSize) (h : status key value = 0) (store : Store) :
    storageSetRaw status key value store = (.ok (), Function.update store key (some value)) := by
  unfold storageSetRaw
  rw [check_bind_ok (validateStorageValueSize_of_le hf), if_pos h]
  rfl

theorem storageSetRaw_of_ne_zero
    (hf : value.length ≤ maxStorageValueSize) (h : status key value ≠ 0) (store : Store) :
    ∃ e, storageSetRaw status key value store = (.error e, store) := by
  unfold storageSetRaw
  rw [check_bind_ok (validateStorageValueSize_of_le hf), if_neg h]
  exact ⟨_, rfl⟩

theorem savePeerState_of_not_fits (hp : ValidPeerId p) (s : SetStatus) (h : ¬ Fits identity events)
    (store : Store) : ∃ e, savePeerState s p identity events store = (.error e, store) := by
  unfold savePeerState
  rw [check_bind_ok (identityStorageKey_of_valid hp), check_bind_ok (eventsStorageKey_of_valid hp)]
  by_cases hi : (encodeIdentity identity).length ≤ maxStorageValueSize
  · have hv : ¬ (encodeEvents events).length ≤ maxStorageValueSize := fun he => h ⟨hi, he⟩
    rw [check_bind_ok (validateStorageValueSize_of_le hi)]
    obtain ⟨e, he⟩ := validateStorageValueSize_of_not_le hv
    exact ⟨e, check_bind_error he _ _⟩
  · obtain ⟨e, he⟩ := validateStorageValueSize_of_not_le hi
    exact ⟨e, check_bind_error he _ _⟩

-- Past the size checks the save is its two writes.
private theorem savePeerState_of_fits (hp : ValidPeerId p) (s : SetStatus)
    {i : StableIdentityRecord} {ev : List RegistryEvent} (h : Fits i ev)
    (store : Store) :
    savePeerState s p i ev store =
      (storageSetRaw s (identityKeyBytes p) (encodeIdentity i) >>= fun _ =>
        storageSetRaw s (eventsKeyBytes p) (encodeEvents ev)) store := by
  unfold savePeerState
  rw [check_bind_ok (identityStorageKey_of_valid hp), check_bind_ok (eventsStorageKey_of_valid hp),
    check_bind_ok (validateStorageValueSize_of_le h.1),
    check_bind_ok (validateStorageValueSize_of_le h.2)]

theorem savePeerState_cases (hp : ValidPeerId p) (s : SetStatus)
    (i : StableIdentityRecord) (ev : List RegistryEvent) (store : Store) :
    (¬ Fits i ev ∧ ∃ e, savePeerState s p i ev store = (.error e, store)) ∨ Fits i ev ∧
        ((s (identityKeyBytes p) (encodeIdentity i) ≠ 0 ∧
            ∃ e, savePeerState s p i ev store = (.error e, store)) ∨
          s (identityKeyBytes p) (encodeIdentity i) = 0 ∧
            ((s (eventsKeyBytes p) (encodeEvents ev) ≠ 0 ∧ ∃ e, savePeerState s p i ev store =
                  (.error e, writeIdentity p i store)) ∨
              s (eventsKeyBytes p) (encodeEvents ev) = 0 ∧ savePeerState s p i ev store =
                  (.ok (), writeBoth p i ev store))) := by
  by_cases hi : Fits i ev
  · refine .inr ⟨hi, ?_⟩
    rw [savePeerState_of_fits hp s hi]
    by_cases hf : s (identityKeyBytes p) (encodeIdentity i) = 0
    · refine .inr ⟨hf, ?_⟩
      rw [bind_apply, storageSetRaw_of_zero hi.1 hf]
      by_cases hs : s (eventsKeyBytes p) (encodeEvents ev) = 0
      · exact .inr ⟨hs, storageSetRaw_of_zero hi.2 hs _⟩
      · exact .inl ⟨hs, storageSetRaw_of_ne_zero hi.2 hs _⟩
    · obtain ⟨e, he⟩ := storageSetRaw_of_ne_zero hi.1 hf store
      rw [bind_apply, he]
      exact .inl ⟨hf, e, rfl⟩
  · exact .inl ⟨hi, savePeerState_of_not_fits hp s hi store⟩

variable {e : String}

theorem applyCall_of_identity_error
    (h : loadIdentity w call.peerId store = (.error e, store)) (s : SetStatus) :
    applyCall w s call store = (.error e, store) :=
  bind_of_error (bind_of_error h _) _

theorem applyCall_of_events_error (hi : loadIdentity w call.peerId store = (.ok stored, store))
    (h : loadEvents w call.peerId store = (.error e, store)) (s : SetStatus) :
    applyCall w s call store = (.error e, store) :=
  bind_of_error ((bind_of_ok hi _).trans (bind_of_error h _)) _

theorem applyCall_eq (hi : loadIdentity w call.peerId store = (.ok stored, store))
    (he : loadEvents w call.peerId store = (.ok log, store)) (s : SetStatus) :
    applyCall w s call store =
      match call.decision w.env stored with
      | .error e => (.error e.message, store)
      | .ok change => (savePeerState s call.peerId change.record
          ((log.filter fun event => event.peerId = call.peerId) ++ [change.event]) >>= fun _ =>
            pure .done) store := by
  unfold applyCall withPeerState
  rw [bind_apply, preparePeerState_eq hi he]
  cases call.decision w.env stored with
  | error e | ok change => rfl

theorem invoke_of_call {i : Invocation} (h : i.call w = .ok call) (s : SetStatus) (store : Store) :
    invoke w s store i =
      (hostResponse (applyCall w s call store).1, (applyCall w s call store).2) := by
  unfold invoke Invocation.result
  rw [check_bind_ok h]

theorem invoke_of_error {i : Invocation} (h : i.call w = .error e) (s : SetStatus) (store : Store) :
    invoke w s store i = (hostResponse (.error e), store) := by
  unfold invoke Invocation.result
  rw [check_bind_error h]

end QuantumLink.RegistryV2
