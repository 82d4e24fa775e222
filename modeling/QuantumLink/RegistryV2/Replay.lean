import QuantumLink.RegistryV2.History
import QuantumLink.RegistryV2.Honest

/-! # A wallet signature is used at most once

The four operations sign four kinds of payload. The JSON text of a payload
determines the operation, the peer and the revision, and revisions of a peer only
grow, so the bytes of an accepted call are never accepted again. With signatures
that verify only what was signed, neither is the signature.
-/

namespace QuantumLink.RegistryV2

/-! ## What a payload says -/

/-- The value whose JSON text the wallet signs. -/
def Call.payloadJson : Call → Json
  | .register record _ _ => recordPayloadJson "register_identity" record
  | .update record _ _ => recordPayloadJson "update_identity" record
  | .suspend peerId revision _ => statusPayloadJson "suspend_identity" peerId revision
  | .revoke peerId revision _ => statusPayloadJson "revoke_identity" peerId revision

theorem Call.payload_eq_ok {c : Call} {pa : Bytes} (h : c.payload = .ok pa) :
    pa = c.payloadJson.toBytes := by
  cases c with
  | register re w d | update re w d => exact (Except.ok.inj h).symm
  | suspend p r w | revoke p r w => exact (canonicalStatusPayload_eq_ok_iff.mp h).2.symm

private theorem recordPayloadJson_inj {a b : String} {r t : StableIdentityRecord}
    (h : recordPayloadJson a r = recordPayloadJson b t) : a = b ∧ r = t := by
  simp only [recordPayloadJson, Json.obj.injEq, List.cons.injEq, Prod.mk.injEq, Json.str.injEq,
    true_and, and_true] at h
  exact ⟨h.1, StableIdentityRecord.toJson_injective h.2⟩

private theorem statusPayloadJson_inj {a b p q : String} {m n : UInt64}
    (h : statusPayloadJson a p m = statusPayloadJson b q n) : a = b ∧ p = q ∧ m = n := by
  simpa [statusPayloadJson] using h

private theorem recordPayloadJson_ne_statusPayloadJson (a b q : String) (n : UInt64)
    (r : StableIdentityRecord) : recordPayloadJson a r ≠ statusPayloadJson b q n := by
  simp [recordPayloadJson, statusPayloadJson]

/-- Calls with the same payload are the same operation on the same peer at the same revision. -/
theorem Call.payloadJson_determines {c d : Call} (h : c.payloadJson = d.payloadJson) :
    c.eventType = d.eventType ∧ c.peerId = d.peerId ∧ c.identityRevision = d.identityRevision := by
  have hc := recordPayloadJson_ne_statusPayloadJson
  cases c <;> cases d <;> simp only [payloadJson] at h
  case register.register => simp [(recordPayloadJson_inj h).2, eventType, peerId, identityRevision]
  case update.update => simp [(recordPayloadJson_inj h).2, eventType, peerId, identityRevision]
  case suspend.suspend => simp [(statusPayloadJson_inj h).2, eventType, peerId, identityRevision]
  case revoke.revoke => simp [(statusPayloadJson_inj h).2, eventType, peerId, identityRevision]
  case register.update => simpa using (recordPayloadJson_inj h).1
  case update.register => simpa using (recordPayloadJson_inj h).1
  case suspend.revoke => simpa using (statusPayloadJson_inj h).1
  case revoke.suspend => simpa using (statusPayloadJson_inj h).1
  all_goals first
    | exact absurd h (hc _ _ _ _ _)
    | exact absurd h.symm (hc _ _ _ _ _)

/-! ## An accepted payload is spent -/

/-- After an accepted call, its peer stands at its revision or beyond for the rest of the run. -/
theorem accepted_call_spends_revision (hk : (step env s call).1 = .ok ()) (b : List Call) :
    ∃ record, (run (step env) (step env s call).2 b).getIdentity call.peerId = some record ∧
      call.identityRevision.toNat ≤ record.identityRevision.toNat := by
  rcases step_cases env s call with ⟨c, hd, hs⟩ | ⟨e, _, hs⟩
  · have ha := decision_inversion hd
    have hg : (step env s call).2.getIdentity call.peerId = some c.record := by
      rw [hs, getIdentity_commit, if_pos ha.event_peerId.symm]
    obtain ⟨record, he, _, hr⟩ := run_keeps env hg b
    refine ⟨record, he, ?_⟩
    rw [← ha.revision]
    exact hr
  · rw [hs] at hk
    simp at hk

theorem stale_call_refused (env : Env) {s : Registry} {ca : Call}
    (hg : s.getIdentity ca.peerId = some record)
    (ht : ca.identityRevision.toNat ≤ record.identityRevision.toNat) :
    ∃ e, (step env s ca).1 = .error e := by
  rcases step_cases env s ca with ⟨c, hd, hs⟩ | ⟨e, _, hs⟩
  · obtain ⟨_, _, _, hn, _, _⟩ := (decision_inversion hd).next record hg
    omega
  · rw [hs]
    exact ⟨e, rfl⟩

theorem accepted_call_verifies (ho : (step env s call).1 = .ok ()) :
    ∃ payload publicKey signature, call.payload = .ok payload ∧
      Hex.decode call.wallet.actorPublicKeyHex = some publicKey ∧
      Hex.decode call.wallet.actorSignatureHex = some signature ∧
      env.wallet.verifyWalletMldsa65Signature publicKey payload signature = .ok true := by
  rcases step_cases env s call with ⟨c, hd, hs⟩ | ⟨e, _, hs⟩
  · obtain ⟨payload, publicKey, signature, hp, hk, hg, hv, _⟩ := (decision_inversion hd).authorized
    exact ⟨payload, publicKey, signature, hp, hk, hg, hv⟩
  · rw [hs] at ho
    simp at ho

/-- Once a call has been accepted, every later call of any operation that carries
the same wallet key with the same signature, or the same signed payload, fails.
`signed` gives the bytes the holder of a key signed to make a signature. -/
theorem wallet_signature_authorizes_once (env : Env) (signed : Bytes → Bytes → Bytes)
    (hsigned : ∀ publicKey payload signature,
      env.wallet.verifyWalletMldsa65Signature publicKey payload signature = .ok true →
        payload = signed publicKey signature)
    (before between : List Call) (first later : Call)
    (hok : (step env (reach env before) first).1 = .ok ())
    (hkey : Hex.decode later.wallet.actorPublicKeyHex = Hex.decode first.wallet.actorPublicKeyHex)
    (hsame : Hex.decode later.wallet.actorSignatureHex = Hex.decode first.wallet.actorSignatureHex ∨
      later.payload = first.payload) :
    ∃ e, (step env (reach env (before ++ first :: between)) later).1 = .error e := by
  have hr : reach env (before ++ first :: between) =
      run (step env) (step env (reach env before) first).2 between := by
    rw [reach, run_append, run_cons]
    rfl
  obtain ⟨r, hg, hsp⟩ := accepted_call_spends_revision hok between
  rw [← hr] at hg
  cases hl : (step env (reach env (before ++ first :: between)) later).1 with
  | error e => exact ⟨e, rfl⟩
  | ok u =>
    -- Both calls verify, so both signed the same payload and the later one is stale.
    obtain ⟨p, key, sig, hp, hk, hs, hv⟩ := accepted_call_verifies hok
    obtain ⟨q, key', sig', hq, hk', hs', hv'⟩ := accepted_call_verifies hl
    have hpq : p = q := by
      rcases hsame with hi | ha
      · have hke : key' = key := Option.some.inj (hk'.symm.trans (hkey.trans hk))
        have hsi : sig' = sig := Option.some.inj (hs'.symm.trans (hi.trans hs))
        rw [hsigned key p sig hv, hsigned key' q sig' hv', hke, hsi]
      · exact Except.ok.inj (hp.symm.trans (ha.symm.trans hq))
    have hj : first.payloadJson = later.payloadJson := by
      apply Json.toBytes_injective
      rw [← Call.payload_eq_ok hp, ← Call.payload_eq_ok hq, hpq]
    obtain ⟨_, hpe, hre⟩ := Call.payloadJson_determines hj
    rw [hpe] at hg
    rw [hre] at hsp
    obtain ⟨e, he⟩ := stale_call_refused env hg hsp
    rw [hl] at he
    simp at he

/-- A native build with the sample's hashes whose wallet signatures are the signed
bytes themselves, so that each verifies one message. -/
def echoEnv : Env :=
  { sampleWasm.env with
    wallet := .native
      { verifyMldsa65 := fun _ payload signature => some (decide (signature = payload))
        daddrFromPublicKey := fun _ => some sampleAddress } }

def echoSigner : Signer echoEnv.wallet where
  publicKey := sampleKey
  sign := id
  owner := sampleAddress
  verifies payload := by simp [echoEnv, WalletBackend.native, okOr]
  address := rfl

def echoDevice : DeviceSigner echoEnv where
  publicKey := sampleKey
  sign := sampleSign
  keyLength := sampleKey_length
  signatureLength := sampleSign_length
  decodes _ := rfl
  verifies payload := by simp [echoEnv, sampleWasm, WasmEnv.env]

theorem echoEnv_verifies_signed (p payload signature : Bytes)
    (h : echoEnv.wallet.verifyWalletMldsa65Signature p payload signature = .ok true) :
    payload = signature := by
  have hk : okOr (some (decide (signature = payload))) RegistryError.invalidSignature =
      .ok true := h
  have hs : signature = payload := by simpa using hk
  exact hs.symm

theorem echo_register_accepted :
    (step echoEnv (reach echoEnv []) (registerCall echoSigner echoDevice)).1 = .ok () := by
  have hd := decision_registerCall echoSigner echoDevice Sha256.length_hash sampleAddress_ne
  rcases step_cases echoEnv (reach echoEnv []) (registerCall echoSigner echoDevice) with
    ⟨change, _, hs⟩ | ⟨e, he, _⟩
  · rw [hs]
  · rw [show (reach echoEnv []).getIdentity _ = none from Registry.getIdentity_new _, hd] at he
    simp at he

theorem wallet_signature_replayed :
    (step echoEnv (reach echoEnv []) (registerCall echoSigner echoDevice)).1 = .ok () ∧
      ∃ e, (step echoEnv (reach echoEnv ([] ++ registerCall echoSigner echoDevice :: []))
        (registerCall echoSigner echoDevice)).1 = .error e :=
  ⟨echo_register_accepted, wallet_signature_authorizes_once echoEnv (fun _ s => s)
    echoEnv_verifies_signed [] [] _ _ echo_register_accepted rfl (Or.inl rfl)⟩

end QuantumLink.RegistryV2
