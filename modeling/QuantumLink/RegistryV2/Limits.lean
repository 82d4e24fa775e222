import QuantumLink.RegistryV2.Refinement

/-! # Revocation under the storage limit

The event log of a peer only grows, and a save refuses a log beyond the storage limit.
So an owner's revocation of a live identity goes through exactly when the log with the
revocation still fits. The limit is reached: after ninety-two suspensions of an
identity with an address of the usual length, its owner can no longer revoke it.
-/

namespace QuantumLink.RegistryV2

open UInt64 Json

/-! ## The outcome of a revocation -/

/-- The record and the event a revocation stores. -/
def revokedRecord (record : StableIdentityRecord) (revision : UInt64) : StableIdentityRecord :=
  { record with status := .revoked, identityRevision := revision }

def revokedEvent (p owner : String) (revision : UInt64) : RegistryEvent :=
  ⟨p, "revoked", owner, revision⟩

theorem validPeerId_of_loadIdentity_ok
    {s : Option StableIdentityRecord} (h : (loadIdentity w p store).1 = .ok s) :
    ValidPeerId p := by
  by_contra hp
  rw [loadIdentity_of_not_valid w hp] at h
  simp at h

/-- In every storage state reached by calls of the contract, the owner's revocation of
a live identity at its next revision is answered with success and stored exactly when
the record and the log with the revocation fit the storage limit; otherwise it is
refused and storage stays as it was. -/
theorem owner_revocation_outcome (w : WasmEnv) (invocations : List Invocation) (p : String)
    (record : StableIdentityRecord)
    (hstored : (loadIdentity w p (invoked w invocations)).1 = .ok (some record))
    (hlive : record.status ≠ .revoked) (invocation : Invocation) (revision : UInt64)
    (wallet : WalletAuthorization)
    (hcall : invocation.call w = .ok (.revoke p revision wallet))
    (hnext : revision.toNat = record.identityRevision.toNat + 1)
    (hauth : (Call.revoke p revision wallet).AuthorizedBy w.env record.ownerDaddr) :
    ∃ log, (loadEvents w p (invoked w invocations)).1 = .ok log ∧
      (((invoke w allSucceed (invoked w invocations) invocation).1.ok = true ∧
          (loadIdentity w p (invoke w allSucceed (invoked w invocations) invocation).2).1 =
            .ok (some (revokedRecord record revision))) ↔
        Fits (revokedRecord record revision) (log ++ [revokedEvent p record.ownerDaddr revision])) ∧
      (¬ Fits (revokedRecord record revision) (log ++ [revokedEvent p record.ownerDaddr revision]) →
        (invoke w allSucceed (invoked w invocations) invocation).1.ok = false ∧
          (invoke w allSucceed (invoked w invocations) invocation).2 = invoked w invocations) := by
  have hr := invoked_represents w invocations
  have hi := boundedReach_invariant w invocations
  have hp := validPeerId_of_loadIdentity_ok hstored
  generalize invoked w invocations = store at hr hstored ⊢
  generalize boundedReach w invocations = s at hr hi
  rw [hr.loadIdentity_eq w hp] at hstored
  have hg : s.getIdentity p = some record := Except.ok.inj hstored
  have hd : (Call.revoke p revision wallet).decision w.env
      (s.getIdentity (Call.revoke p revision wallet).peerId) =
      .ok ⟨revokedRecord record revision, revokedEvent p record.ownerDaddr revision⟩ :=
    decideStatus_eq_ok_iff.mpr ⟨hp, record, hg, hlive, hnext.symm, hauth, rfl⟩
  obtain ⟨hf, hn⟩ := invoke_of_decision hr hi hcall hd
  refine ⟨s.eventsOf p, by rw [hr.loadEvents_eq hi w hp], ⟨?_, ?_⟩, hn⟩
  · intro ⟨hk, _⟩
    by_contra ho
    rw [(hn ho).1] at hk
    simp at hk
  · intro hfi
    obtain ⟨_, hk, hr'⟩ := hf hfi
    refine ⟨hk, ?_⟩
    rw [hr'.loadIdentity_eq w hp, getIdentity_commit]
    show Except.ok (if p = p then _ else _) = _
    rw [if_pos rfl]

/-! ## An identity that can no longer be revoked -/

/-- The sample record after its registration and `n` suspensions. -/
def suspendedRecord : Nat → StableIdentityRecord
  | 0 => sampleRecord
  | n + 1 => { sampleRecord with status := .suspended, identityRevision := ofNat (n + 2) }

def suspensionLog : Nat → List RegistryEvent
  | 0 => [sampleChange.event]
  | n + 1 => suspensionLog n ++
      [⟨sampleRecord.peerId, "suspended", sampleAddress, ofNat (n + 2)⟩]

def suspension (n : Nat) : Call :=
  suspendCall sampleSigner sampleRecord.peerId (ofNat (n + 2))

def suspensionRun : Nat → List Invocation
  | 0 => [sampleRegister.invocation]
  | n + 1 => suspensionRun n ++ [(suspension n).invocation]

def logLength : Nat → Nat
  | 0 => 176
  | n + 1 => logLength n + (173 + (Nat.toDigits 10 (n + 2)).length)

theorem suspensionLog_ne_nil (n : Nat) : suspensionLog n ≠ [] := by
  cases n with
  | zero | succ n => simp [suspensionLog]

-- Revisions stay far from the end of the 64-bit range.
private theorem revision_toNat {n : Nat} (h : n < 2 ^ 32) : (ofNat n).toNat = n := by
  rw [toNat_ofNat']
  exact Nat.mod_eq_of_lt (by omega)

theorem suspendedRecord_revision (h : n < 2 ^ 16) :
    (suspendedRecord n).identityRevision.toNat = n + 1 := by
  cases n with
  | zero => rfl
  | succ n => exact revision_toNat (by omega)

theorem length_encodeIdentity_suspendedRecord (n : Nat) :
    (encodeIdentity (suspendedRecord n)).length ≤ 700 := by
  cases n with
  | zero => exact length_encodeIdentity_sampleRecord
  | succ n => exact length_encodeIdentity_sample .suspended _

theorem length_encodeEvents_concat (h : log ≠ []) (e : String) (r : UInt64) :
    (encodeEvents (log ++ [⟨sampleRecord.peerId, e, sampleAddress, r⟩])).length =
      (encodeEvents log).length + (162 + quotedLength e + (Nat.toDigits 10 r.toNat).length) := by
  have hne : log.map RegistryEvent.toJson ≠ [] := by simpa using h
  have hg := byteLength_arr_concat hne
    (RegistryEvent.toJson ⟨sampleRecord.peerId, e, sampleAddress, r⟩)
  rw [byteLength_sampleEvent] at hg
  rw [encodeEvents, encodeEvents, length_toBytes, length_toBytes, List.map_append,
    List.map_singleton, hg]
  omega

theorem length_suspensionLog (h : n < 2 ^ 16) :
    (encodeEvents (suspensionLog n)).length = logLength n := by
  induction n with
  | zero =>
    have hr : quotedLength "registered" = 12 := by decide
    have hd : (Nat.toDigits 10 initialIdentityRevision.toNat).length = 1 := by decide
    rw [suspensionLog, length_encodeEvents_singleton, sampleChange_event, byteLength_sampleEvent,
      hr, hd, logLength]
  | succ n ih =>
    have hs : quotedLength "suspended" = 11 := by decide
    rw [suspensionLog, logLength, length_encodeEvents_concat (suspensionLog_ne_nil n), hs,
      ih (by omega), revision_toNat (by omega)]

theorem logLength_mono (h : m ≤ n) : logLength m ≤ logLength n := by
  induction h with
  | refl => exact le_refl _
  | step _ ih => exact ih.trans (Nat.le_add_right _ _)

theorem suspendedRecord_owner (n : Nat) : (suspendedRecord n).ownerDaddr = sampleAddress := by
  cases n <;> rfl

theorem suspendedRecord_live (n : Nat) : (suspendedRecord n).status ≠ .revoked := by
  cases n <;> exact nofun

def suspensionChange (n : Nat) : Change :=
  ⟨suspendedRecord (n + 1), ⟨sampleRecord.peerId, "suspended", sampleAddress, ofNat (n + 2)⟩⟩

theorem decision_suspension (h : n < 2 ^ 16) :
    (suspension n).decision sampleWasm.env (some (suspendedRecord n)) =
      .ok (suspensionChange n) := by
  have hn : (suspendedRecord n).identityRevision.toNat + 1 = (ofNat (n + 2)).toNat := by
    rw [suspendedRecord_revision h, revision_toNat (by omega)]
  have ha := suspendCall_authorizedBy sampleSigner sampleRecord_valid.peerId
    (ofNat (n + 2))
  have hc : suspensionChange n = ⟨{ suspendedRecord n with
      status := .suspended, identityRevision := ofNat (n + 2) },
      (suspension n).mkEvent (suspendedRecord n).ownerDaddr⟩ := by
    cases n <;> rfl
  refine decideStatus_eq_ok_iff.mpr ⟨sampleRecord_valid.peerId, suspendedRecord n, rfl,
    suspendedRecord_live n, hn, ?_, hc⟩
  rw [suspendedRecord_owner]
  exact ha

theorem suspension_fits (hn : n < 2 ^ 16) (h : logLength n ≤ maxStorageValueSize) :
    Fits (suspendedRecord n) (suspensionLog n) := by
  refine ⟨(length_encodeIdentity_suspendedRecord n).trans (by decide), ?_⟩
  rw [length_suspensionLog hn]
  exact h

theorem boundedReach_suspensionRun (hn : n < 2 ^ 16) (hf : logLength n ≤ maxStorageValueSize) :
    (boundedReach sampleWasm (suspensionRun n)).getIdentity sampleRecord.peerId =
        some (suspendedRecord n) ∧
      (boundedReach sampleWasm (suspensionRun n)).eventsOf sampleRecord.peerId = suspensionLog n := by
  induction n with
  | zero =>
    have hd : sampleRegister.decision sampleWasm.env
        (Registry.new.getIdentity sampleRegister.peerId) = .ok sampleChange := by
      rw [Registry.getIdentity_new]
      exact decision_sampleRegister
    have hfi : Fits sampleChange.record
        (Registry.new.eventsOf sampleRegister.peerId ++ [sampleChange.event]) := by
      rw [Registry.eventsOf_new, List.nil_append]
      exact suspension_fits (n := 0) hn hf
    obtain ⟨hs, _⟩ := (invoke_of_decision represents_new invariant_new
      sampleRegister_invocation hd).1 hfi
    rw [suspensionRun, boundedReach, run_cons, run_nil, hs]
    exact ⟨(getIdentity_commit _ _ _).trans (if_pos rfl),
      (eventsOf_commit _ _ _).trans (congrArg _ (if_pos rfl))⟩
  | succ n ih =>
    have hb : logLength n ≤ maxStorageValueSize := (logLength_mono (Nat.le_succ n)).trans hf
    obtain ⟨hg, hl⟩ := ih (by omega) hb
    have hr := invoked_represents sampleWasm (suspensionRun n)
    have hi := boundedReach_invariant sampleWasm (suspensionRun n)
    have hu : boundedReach sampleWasm (suspensionRun (n + 1)) =
        (boundedInvoke sampleWasm (boundedReach sampleWasm (suspensionRun n))
          (suspension n).invocation).2 := run_concat _ _ _ _
    rw [hu]
    generalize boundedReach sampleWasm (suspensionRun n) = s at hg hl hr hi
    have hd : (suspension n).decision sampleWasm.env (s.getIdentity (suspension n).peerId) =
        .ok (suspensionChange n) := by
      rw [show s.getIdentity (suspension n).peerId = _ from hg]
      exact decision_suspension (by omega)
    have hfi : Fits (suspensionChange n).record
        (s.eventsOf (suspension n).peerId ++ [(suspensionChange n).event]) := by
      rw [show s.eventsOf (suspension n).peerId = _ from hl]
      exact suspension_fits (n := n + 1) hn hf
    obtain ⟨hs, _⟩ := (invoke_of_decision hr hi (sampleSuspend_invocation _) hd).1 hfi
    rw [show boundedInvoke sampleWasm s (suspension n).invocation = _ from hs]
    refine ⟨(getIdentity_commit _ _ _).trans (if_pos rfl), ?_⟩
    show ((suspensionChange n).commit s).eventsOf sampleRecord.peerId = _
    rw [eventsOf_commit, hl,
      if_pos (show (suspensionChange n).event.peerId = sampleRecord.peerId from rfl)]
    rfl

def suspendedRevocation (n : Nat) : Call :=
  revokeCall sampleSigner sampleRecord.peerId (ofNat (n + 2))

theorem suspendedRevocation_authorized (n : Nat) :
    (suspendedRevocation n).AuthorizedBy sampleWasm.env (suspendedRecord n).ownerDaddr := by
  rw [suspendedRecord_owner]
  exact revokeCall_authorizedBy sampleSigner sampleRecord_valid.peerId _

theorem suspendedRevocation_next (h : n < 2 ^ 16) :
    (ofNat (n + 2)).toNat = (suspendedRecord n).identityRevision.toNat + 1 := by
  rw [suspendedRecord_revision h, revision_toNat (by omega)]

theorem decision_suspendedRevocation (h : n < 2 ^ 16) :
    (suspendedRevocation n).decision sampleWasm.env (some (suspendedRecord n)) =
      .ok ⟨revokedRecord (suspendedRecord n) (ofNat (n + 2)),
        revokedEvent sampleRecord.peerId sampleAddress (ofNat (n + 2))⟩ := by
  refine decideStatus_eq_ok_iff.mpr ⟨sampleRecord_valid.peerId, suspendedRecord n, rfl,
    suspendedRecord_live n, (suspendedRevocation_next h).symm, suspendedRevocation_authorized n, ?_⟩
  cases n <;> rfl

theorem loadIdentity_suspensionRun (hn : n < 2 ^ 16) (hf : logLength n ≤ maxStorageValueSize) :
    (loadIdentity sampleWasm sampleRecord.peerId (invoked sampleWasm (suspensionRun n))).1 =
      .ok (some (suspendedRecord n)) := by
  rw [(invoked_represents sampleWasm (suspensionRun n)).loadIdentity_eq sampleWasm
    sampleRecord_valid.peerId, (boundedReach_suspensionRun hn hf).1]

theorem length_revoked_log (hn : n < 2 ^ 16) : (encodeEvents (suspensionLog n ++
      [revokedEvent sampleRecord.peerId sampleAddress (ofNat (n + 2))])).length =
      logLength n + (171 + (Nat.toDigits 10 (n + 2)).length) := by
  have hr : quotedLength "revoked" = 9 := by decide
  rw [revokedEvent, length_encodeEvents_concat (suspensionLog_ne_nil n), length_suspensionLog hn,
    hr, revision_toNat (by omega)]

theorem revocation_after_registration :
    (invoke sampleWasm allSucceed (invoked sampleWasm (suspensionRun 0))
        (suspendedRevocation 0).invocation).1.ok = true ∧
      (loadIdentity sampleWasm sampleRecord.peerId (invoke sampleWasm allSucceed
        (invoked sampleWasm (suspensionRun 0)) (suspendedRevocation 0).invocation).2).1 =
        .ok (some (revokedRecord sampleRecord (ofNat 2))) := by
  have hf : logLength 0 ≤ maxStorageValueSize := by decide
  obtain ⟨log, hl, ho, _⟩ := owner_revocation_outcome sampleWasm (suspensionRun 0)
    sampleRecord.peerId (suspendedRecord 0) (loadIdentity_suspensionRun (by decide) hf)
    (suspendedRecord_live 0) (suspendedRevocation 0).invocation (ofNat 2) _
    (sampleRevoke_invocation _) (suspendedRevocation_next (by decide))
    (suspendedRevocation_authorized 0)
  have hs : suspensionLog 0 = log := by
    rw [(invoked_represents sampleWasm (suspensionRun 0)).loadEvents_eq
      (boundedReach_invariant sampleWasm _) sampleWasm sampleRecord_valid.peerId,
      (boundedReach_suspensionRun (by decide) hf).2] at hl
    exact Except.ok.inj hl
  refine ho.mpr ⟨?_, ?_⟩
  · exact (length_encodeIdentity_sample .revoked _).trans (by decide)
  · rw [← hs, suspendedRecord_owner]
    rw [length_revoked_log (n := 0) (by decide)]
    decide

/-- After ninety-two suspensions the owner's valid revocation is refused. -/
theorem revocation_refused_after_suspensions :
    (loadIdentity sampleWasm sampleRecord.peerId (invoked sampleWasm (suspensionRun 92))).1 =
        .ok (some (suspendedRecord 92)) ∧
      (suspendedRecord 92).status ≠ .revoked ∧
      (suspendedRevocation 92).invocation.call sampleWasm = .ok (suspendedRevocation 92) ∧
      (suspendedRevocation 92).eventType = "revoked" ∧
      (suspendedRevocation 92).identityRevision.toNat =
        (suspendedRecord 92).identityRevision.toNat + 1 ∧
      (suspendedRevocation 92).AuthorizedBy sampleWasm.env (suspendedRecord 92).ownerDaddr ∧
      (invoke sampleWasm allSucceed (invoked sampleWasm (suspensionRun 92))
        (suspendedRevocation 92).invocation).1.ok = false := by
  have hf : logLength 92 ≤ maxStorageValueSize := by decide
  have ho := loadIdentity_suspensionRun (n := 92) (by decide) hf
  obtain ⟨hg, hlog⟩ := boundedReach_suspensionRun (n := 92) (by decide) hf
  refine ⟨ho, suspendedRecord_live 92, sampleRevoke_invocation _, rfl,
    suspendedRevocation_next (by decide), suspendedRevocation_authorized 92, ?_⟩
  have hd : (suspendedRevocation 92).decision sampleWasm.env
      ((boundedReach sampleWasm (suspensionRun 92)).getIdentity (suspendedRevocation 92).peerId) =
      .ok ⟨revokedRecord (suspendedRecord 92) (ofNat (92 + 2)),
        revokedEvent sampleRecord.peerId sampleAddress (ofNat (92 + 2))⟩ := by
    rw [show (boundedReach sampleWasm (suspensionRun 92)).getIdentity
      (suspendedRevocation 92).peerId = _ from hg]
    exact decision_suspendedRevocation (by decide)
  refine ((invoke_of_decision (invoked_represents sampleWasm _) (boundedReach_invariant sampleWasm _)
    (sampleRevoke_invocation _) hd).2 ?_).1
  intro hi
  have hl : (encodeEvents ((boundedReach sampleWasm (suspensionRun 92)).eventsOf
      sampleRecord.peerId ++ [revokedEvent sampleRecord.peerId sampleAddress
        (ofNat (92 + 2))])).length ≤ maxStorageValueSize := hi.2
  rw [hlog, length_revoked_log (n := 92) (by decide)] at hl
  exact absurd hl (by decide)

end QuantumLink.RegistryV2
