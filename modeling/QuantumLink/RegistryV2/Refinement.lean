import QuantumLink.RegistryV2.History
import QuantumLink.RegistryV2.Honest
import QuantumLink.RegistryV2.PeerStorage

/-! # The wasm contract refines the registry

Storage represents a registry when the two values of every peer encode that peer's
record and events. With writes that succeed, the contract is the registry with one
more rule, `boundedStep`: a change whose values do not fit the storage limit is
refused. Where all values fit, and the wallet crates of the two targets agree, it
is the native registry call by call.
-/

namespace QuantumLink.RegistryV2

open List Function

/-! ## Storage that represents a registry -/

structure Represents (store : Store) (s : Registry) : Prop where
  identity : ∀ p, ValidPeerId p → store (identityKeyBytes p) = (s.getIdentity p).map encodeIdentity
  events : ∀ p, ValidPeerId p →
    store (eventsKeyBytes p) = (s.getIdentity p).map fun _ => encodeEvents (s.eventsOf p)
  fits : ∀ p record, s.getIdentity p = some record → Fits record (s.eventsOf p)

theorem represents_new : Represents (fun _ => none) Registry.new where
  identity p _ := by rw [Registry.getIdentity_new, Option.map_none]
  events p _ := by rw [Registry.getIdentity_new, Option.map_none]
  fits p record h := by simp at h

variable {store : Store} {s : Registry} {p : String}

theorem Represents.loadIdentity_eq (h : Represents store s) (w : WasmEnv) (hp : ValidPeerId p) :
    loadIdentity w p store = (.ok (s.getIdentity p), store) := by
  rw [loadIdentity_of_valid w hp, h.identity p hp]
  cases hs : s.getIdentity p with
  | none => rfl
  | some re =>
    rw [Option.map_some, readRaw_some (encodeIdentity_ne_nil re) (h.fits p re hs).1]
    show ((decodeIdentity w (encodeIdentity re) >>= fun r => pure (some r)), store) = _
    rw [decodeIdentity_encodeIdentity]
    rfl

theorem Represents.loadEvents_eq (h : Represents store s)
    (hi : Invariant s) (w : WasmEnv) (hp : ValidPeerId p) :
    loadEvents w p store = (.ok (s.eventsOf p), store) := by
  rw [loadEvents_of_valid w hp, h.events p hp]
  cases hs : s.getIdentity p with
  | none =>
    rw [(hi p).absent hs]
    rfl
  | some r =>
    rw [Option.map_some, readRaw_some (encodeEvents_ne_nil _) (h.fits p r hs).2]
    show ((decodeEvents w (encodeEvents (s.eventsOf p)) >>= fun e => pure (some e)).map _, store) = _
    rw [decodeEvents_encodeEvents]
    rfl

theorem Registry.eventsOf_filter (s : Registry) (p : String) :
    ((s.eventsOf p).filter fun event => event.peerId = p) = s.eventsOf p := by
  simp [Registry.eventsOf]

/-! ## What a save leaves under each key -/

section

variable (p q : String) (identity : StableIdentityRecord)

theorem writeIdentity_identityKey (store : Store) :
    writeIdentity p identity store (identityKeyBytes q) =
      if q = p then some (encodeIdentity identity) else store (identityKeyBytes q) := by
  unfold writeIdentity
  by_cases h : q = p
  · rw [if_pos h, h, update_self]
  · rw [if_neg h, update_of_ne fun hk => h (identityKeyBytes_inj hk)]

theorem writeIdentity_eventsKey (store : Store) :
    writeIdentity p identity store (eventsKeyBytes q) = store (eventsKeyBytes q) :=
  update_of_ne (identityKeyBytes_ne_eventsKeyBytes p q).symm _ _

theorem writeBoth_identityKey (store : Store) :
    writeBoth p identity events store (identityKeyBytes q) =
      if q = p then some (encodeIdentity identity) else store (identityKeyBytes q) := by
  unfold writeBoth
  rw [update_of_ne (identityKeyBytes_ne_eventsKeyBytes q p), writeIdentity_identityKey]

theorem writeBoth_eventsKey (store : Store) : writeBoth p identity events store (eventsKeyBytes q) =
      if q = p then some (encodeEvents events) else store (eventsKeyBytes q) := by
  unfold writeBoth
  by_cases h : q = p
  · rw [if_pos h, h, update_self]
  · rw [if_neg h, update_of_ne fun hk => h (eventsKeyBytes_inj hk), writeIdentity_eventsKey]
end

variable {call : Call}

/-- Saving an accepted change that fits keeps storage and registry together. -/
theorem Represents.commit (h : Represents store s) (ha : Accepted env call (s.getIdentity call.peerId) change)
    (hf : Fits change.record (s.eventsOf call.peerId ++ [change.event])) :
    Represents (writeBoth call.peerId change.record (s.eventsOf call.peerId ++ [change.event]) store)
      (change.commit s) := by
  have he := ha.event_peerId
  refine ⟨?_, ?_, ?_⟩
  · intro p hp
    rw [writeBoth_identityKey, getIdentity_commit, he]
    by_cases hq : p = call.peerId
    · rw [if_pos hq, if_pos hq, Option.map_some]
    · rw [if_neg hq, if_neg hq, h.identity p hp]
  · intro p hp
    rw [writeBoth_eventsKey, getIdentity_commit, eventsOf_commit, he]
    by_cases hq : p = call.peerId
    · rw [if_pos hq, if_pos hq, if_pos hq.symm, Option.map_some, hq]
    · rw [if_neg hq, if_neg hq, if_neg (Ne.symm hq), append_nil, h.events p hp]
  · intro p record hr
    rw [getIdentity_commit, he] at hr
    rw [eventsOf_commit, he]
    by_cases hq : p = call.peerId
    · rw [if_pos hq] at hr
      cases hr
      rw [if_pos hq.symm, hq]
      exact hf
    · rw [if_neg hq] at hr
      rw [if_neg (Ne.symm hq), append_nil]
      exact h.fits p record hr

/-! ## The registry with the storage limit -/

/-- A registry call that is also refused when its values would not fit. -/
def boundedStep (env : Env) (s : Registry) (call : Call) : Bool × Registry :=
  match call.decision env (s.getIdentity call.peerId) with
  | .error _ => (false, s)
  | .ok change =>
    if Fits change.record (s.eventsOf call.peerId ++ [change.event]) then (true, change.commit s)
    else (false, s)

/-- The same for a host invocation; an input that is no request is refused. -/
def boundedInvoke (w : WasmEnv) (s : Registry) (invocation : Invocation) : Bool × Registry :=
  match invocation.call w with
  | .error _ => (false, s)
  | .ok call => boundedStep w.env s call

/-- The registry an invocation list leads to under the storage limit. -/
def boundedReach (w : WasmEnv) (invocations : List Invocation) : Registry :=
  run (boundedInvoke w) Registry.new invocations

theorem boundedInvoke_invariant (w : WasmEnv) (s : Registry) (i : Invocation)
    (hi : Invariant s) : Invariant (boundedInvoke w s i).2 := by
  unfold boundedInvoke
  cases hc : i.call w with
  | error e => exact hi
  | ok c =>
    show Invariant (boundedStep w.env s c).2
    unfold boundedStep
    cases hd : c.decision w.env (s.getIdentity c.peerId) with
    | error e => exact hi
    | ok ch =>
      show Invariant (if _ then _ else _ : Bool × Registry).2
      split
      · exact invariant_commit (decision_inversion hd) hi
      · exact hi

theorem boundedReach_invariant (w : WasmEnv) (i : List Invocation) : Invariant (boundedReach w i) :=
  run_invariant Invariant (boundedInvoke_invariant w) invariant_new i

variable {w : WasmEnv}

/-- On represented storage, with writes that succeed, a call is a bounded step. -/
theorem applyCall_refines (h : Represents store s) (hi : Invariant s) (call : Call) :
    (∃ e, boundedStep w.env s call = (false, s) ∧
        applyCall w allSucceed call store = (.error e, store)) ∨
      ∃ change, call.decision w.env (s.getIdentity call.peerId) = .ok change ∧
        boundedStep w.env s call = (true, change.commit s) ∧
        applyCall w allSucceed call store = (.ok .done, writeBoth call.peerId change.record
          (s.eventsOf call.peerId ++ [change.event]) store) ∧
        Represents (writeBoth call.peerId change.record
          (s.eventsOf call.peerId ++ [change.event]) store) (change.commit s) := by
  by_cases hp : ValidPeerId call.peerId
  · have ha := applyCall_eq (h.loadIdentity_eq w hp) (h.loadEvents_eq hi w hp) allSucceed
    rw [Registry.eventsOf_filter] at ha
    unfold boundedStep
    cases hd : call.decision w.env (s.getIdentity call.peerId) with
    | error e =>
      rw [hd] at ha
      exact .inl ⟨_, rfl, ha⟩
    | ok change =>
      rw [hd] at ha
      have hsa := savePeerState_cases hp allSucceed change.record
        (s.eventsOf call.peerId ++ [change.event]) store
      rcases hsa with ⟨hn, e, hs⟩ | ⟨hf, ⟨hne, _⟩ | ⟨_, ⟨hne, _⟩ | ⟨_, hs⟩⟩⟩
      · refine .inl ⟨e, if_neg hn, ?_⟩
        rw [ha]
        show (savePeerState _ _ _ _ >>= _) store = _
        rw [Op.bind_apply, hs]
      · exact absurd rfl hne
      · exact absurd rfl hne
      · refine .inr ⟨change, rfl, if_pos hf, ?_, h.commit (decision_inversion hd) hf⟩
        rw [ha]
        show (savePeerState _ _ _ _ >>= _) store = _
        rw [Op.bind_apply, hs]
        rfl
  · have ha := applyCall_of_identity_error (loadIdentity_of_not_valid w hp store) allSucceed
    refine .inl ⟨_, ?_, ha⟩
    unfold boundedStep
    cases hd : call.decision w.env (s.getIdentity call.peerId) with
    | error e => rfl
    | ok change => exact absurd (decision_inversion hd).validPeerId hp

theorem invoke_refines (h : Represents store s) (hi : Invariant s) (i : Invocation) :
    (invoke w allSucceed store i).1.ok = (boundedInvoke w s i).1 ∧
      Represents (invoke w allSucceed store i).2 (boundedInvoke w s i).2 := by
  unfold boundedInvoke
  cases hc : i.call w with
  | error e =>
    rw [invoke_of_error hc]
    exact ⟨hostResponse_error_ok e, h⟩
  | ok c =>
    rw [invoke_of_call hc]
    rcases applyCall_refines h hi c with ⟨e, hb, ha⟩ | ⟨ch, _, hb, ha, hr⟩
    · rw [ha]
      show (hostResponse (.error e)).ok = (boundedStep w.env s c).1 ∧
        Represents store (boundedStep w.env s c).2
      rw [hb]
      exact ⟨hostResponse_error_ok e, h⟩
    · rw [ha]
      show (hostResponse (.ok .done)).ok = (boundedStep w.env s c).1 ∧
        Represents _ (boundedStep w.env s c).2
      rw [hb, hostResponse_done]
      exact ⟨rfl, hr⟩

theorem invoke_of_decision (h : Represents store s) (hi : Invariant s) {i : Invocation}
    (hc : i.call w = .ok call)
    (hd : call.decision w.env (s.getIdentity call.peerId) = .ok change) :
    (Fits change.record (s.eventsOf call.peerId ++ [change.event]) →
        boundedInvoke w s i = (true, change.commit s) ∧ (invoke w allSucceed store i).1.ok = true ∧
          Represents (invoke w allSucceed store i).2 (change.commit s)) ∧
      (¬ Fits change.record (s.eventsOf call.peerId ++ [change.event]) →
        (invoke w allSucceed store i).1.ok = false ∧ (invoke w allSucceed store i).2 = store) := by
  have hb : boundedInvoke w s i =
      if Fits change.record (s.eventsOf call.peerId ++ [change.event]) then (true, change.commit s)
      else (false, s) := by
    unfold boundedInvoke
    rw [hc]
    show boundedStep w.env s call = _
    unfold boundedStep
    rw [hd]
  have hr := invoke_refines (w := w) h hi i
  refine ⟨?_, ?_⟩
  · intro hf
    rw [if_pos hf] at hb
    rw [hb] at hr
    exact ⟨hb, hr⟩
  · intro hn
    rw [if_neg hn] at hb
    rw [hb] at hr
    refine ⟨hr.1, ?_⟩
    rw [invoke_of_call hc] at hr ⊢
    rcases applyCall_refines (w := w) h hi call with ⟨e, _, ha⟩ | ⟨_, _, _, ha, _⟩
    · rw [ha]
    · rw [ha] at hr
      have hk : (hostResponse (.ok .done)).ok = false := hr.1
      rw [hostResponse_done] at hk
      simp [ContractResponse.done] at hk

theorem invoked_represents (w : WasmEnv) (inv : List Invocation) :
    Represents (invoked w inv) (boundedReach w inv) := by
  have hr := run_simulation (invoke w allSucceed) (boundedInvoke w)
    (fun st s => Represents st s ∧ Invariant s)
    (fun st s i h => ⟨(invoke_refines h.1 h.2 i).2, boundedInvoke_invariant w s i h.2⟩)
    ⟨represents_new, invariant_new⟩ inv
  exact hr.1

/-- The native and the wasm wallet crates implement the same signature scheme and
the same address: a signature verifies on one target exactly when it verifies on the
other, and a key has one address. -/
structure WalletCratesAgree (core : DytallixCore) (crates : WasmCrates) : Prop where
  verify : ∀ publicKey payload signature,
    core.verifyMldsa65 publicKey payload signature = some true ↔
      publicKey.length = mldsa65PublicKeyLen ∧ signature.length = mldsa65SignatureLen ∧
        crates.decodesPublicKey publicKey = true ∧ crates.verify publicKey payload signature = true
  address : ∀ publicKey, publicKey.length = mldsa65PublicKeyLen →
    core.daddrFromPublicKey publicKey = crates.encodeBech32m "dytallix" (crates.blake3 publicKey)

/-- The same build for the native target: only the wallet crates differ. -/
def WasmEnv.native (w : WasmEnv) (core : DytallixCore) : Env :=
  { w.env with wallet := .native core }

theorem wasm_verify_eq_true_iff :
    (WalletBackend.wasm crates).verifyWalletMldsa65Signature publicKey payload signature =
        .ok true ↔
      publicKey.length = mldsa65PublicKeyLen ∧ signature.length = mldsa65SignatureLen ∧
        crates.decodesPublicKey publicKey = true ∧
        crates.verify publicKey payload signature = true := by
  simp [WalletBackend.wasm, bind_eq_ok_iff, and_assoc, pure, Except.pure]

theorem wasm_address_eq {pu : Bytes} (h : pu.length = mldsa65PublicKeyLen) :
    (WalletBackend.wasm crates).daddrFromPublicKey pu =
      okOr (crates.encodeBech32m "dytallix" (crates.blake3 pu)) .invalidSignature := by
  simp only [WalletBackend.wasm, ensure_of h]
  rfl

variable {core : DytallixCore}

/-- The two targets find the same authority behind a call. -/
theorem authorizedBy_native_iff
    (ha : WalletCratesAgree core w.crates) (call : Call) (actor : String) :
    call.AuthorizedBy (w.native core) actor ↔ call.AuthorizedBy w.env actor := by
  unfold Call.AuthorizedBy
  refine exists_congr fun pa => exists_congr fun p => exists_congr fun s => ?_
  refine and_congr_right fun _ => and_congr_right fun _ => and_congr_right fun _ => ?_
  have he : (w.native core).wallet.verifyWalletMldsa65Signature p pa s =
      .ok true ↔ w.env.wallet.verifyWalletMldsa65Signature p pa s = .ok true := by
    rw [show w.env.wallet = .wasm w.crates from rfl, wasm_verify_eq_true_iff, ← ha.verify]
    exact okOr_eq_ok_iff
  rw [he]
  refine and_congr_right fun hv => ?_
  have hl := (wasm_verify_eq_true_iff.mp hv).1
  rw [show w.env.wallet = .wasm w.crates from rfl, wasm_address_eq hl, ← ha.address _ hl]
  rfl

theorem decision_native_iff (hg : WalletCratesAgree core w.crates) (call : Call)
    (st : Option StableIdentityRecord) (change : Change) :
    call.decision (w.native core) st = .ok change ↔ call.decision w.env st = .ok change := by
  have ha := authorizedBy_native_iff hg call
  cases call with
  | register re wa d =>
    rw [decision_register_eq_ok_iff, decision_register_eq_ok_iff, ha]
    rfl
  | update re wa d =>
    rw [decision_update_eq_ok_iff, decision_update_eq_ok_iff, ha]
    rfl
  | suspend p r wa | revoke p r wa =>
    simp only [Call.decision, decideStatus_eq_ok_iff, ha]

/-- Every value the registry holds fits the storage limit. -/
def ValuesFit (s : Registry) : Prop :=
  ∀ p record, s.getIdentity p = some record → Fits record (s.eventsOf p)

-- Where the native successor fits, the bounded step takes it.
private theorem boundedStep_native (ha : WalletCratesAgree core w.crates)
    (hi : ValuesFit (step (w.native core) s call).2) :
    ((boundedStep w.env s call).1 = true ↔ (step (w.native core) s call).1 = .ok ()) ∧
      (boundedStep w.env s call).2 = (step (w.native core) s call).2 := by
  unfold boundedStep
  rcases step_cases (w.native core) s call with ⟨c, hd, hs⟩ | ⟨e, hd, hs⟩
  · have hc := decision_inversion hd
    have ht : Fits c.record (s.eventsOf call.peerId ++ [c.event]) := by
      have hf := hi call.peerId c.record
      rw [hs, getIdentity_commit, eventsOf_commit, if_pos hc.event_peerId.symm,
        if_pos hc.event_peerId] at hf
      exact hf rfl
    rw [(decision_native_iff ha call _ c).mp hd, hs]
    show ((if _ then _ else _ : Bool × Registry).1 = true ↔ _) ∧
      (if _ then _ else _ : Bool × Registry).2 = _
    rw [if_pos ht]
    exact ⟨by simp, rfl⟩
  · cases hw : call.decision w.env (s.getIdentity call.peerId) with
    | error e' =>
      rw [hs]
      exact ⟨by simp, rfl⟩
    | ok c =>
      rw [(decision_native_iff ha call _ c).mpr hw] at hd
      simp at hd

/-- The calls the host's invocations make; inputs that are no request make none. -/
def callsOf (w : WasmEnv) (invocations : List Invocation) : List Call :=
  invocations.filterMap fun invocation => (invocation.call w).toOption

-- The run of the native registry, seen from one more invocation.
private theorem reach_callsOf_concat (w : WasmEnv) (env : Env) (b : List Invocation)
    (i : Invocation) :
    reach env (callsOf w (b ++ [i])) =
      match i.call w with
      | .error _ => reach env (callsOf w b)
      | .ok call => (step env (reach env (callsOf w b)) call).2 := by
  unfold callsOf
  rw [filterMap_append]
  cases hc : i.call w with
  | error e => simp [hc, Except.toOption]
  | ok call => simp [hc, Except.toOption, reach, run_append]

theorem boundedReach_eq_native (ha : WalletCratesAgree core w.crates) (inv : List Invocation)
    (hf : ∀ before, before <+: inv → ValuesFit (reach (w.native core) (callsOf w before))) :
    boundedReach w inv = reach (w.native core) (callsOf w inv) := by
  induction inv using reverseRecOn with
  | nil => rfl
  | append_singleton before i ih =>
    have hb := ih fun f hr => hf f (hr.trans (prefix_append _ _))
    have hl := hf _ (prefix_refl _)
    rw [reach_callsOf_concat] at hl ⊢
    unfold boundedReach at hb ⊢
    rw [run_concat, hb]
    unfold boundedInvoke
    cases hc : i.call w with
    | error e => rfl
    | ok c =>
      rw [hc] at hl
      exact (boundedStep_native ha hl).2

/-- What one invocation after `before` has in common with the same call on the native
registry that served the calls of `before`. -/
structure MatchesNative (w : WasmEnv) (core : DytallixCore) (before : List Invocation)
    (invocation : Invocation) : Prop where
  /-- The flag is the native outcome; an input that is no request makes no call. -/
  flag : (invoke w allSucceed (invoked w before) invocation).1.ok = true ↔
    ∃ call, invocation.call w = .ok call ∧
      (step (w.native core) (reach (w.native core) (callsOf w before)) call).1 = .ok ()
  /-- Afterwards the stored values of every peer decode to the registry's. -/
  values : ∀ p, ValidPeerId p →
    (loadIdentity w p (invoked w (before ++ [invocation]))).1 =
        .ok ((reach (w.native core) (callsOf w (before ++ [invocation]))).getIdentity p) ∧
      (loadEvents w p (invoked w (before ++ [invocation]))).1 =
        .ok ((reach (w.native core) (callsOf w (before ++ [invocation]))).eventsOf p)
  /-- Peer ids outside the grammar have no keys, and the registry has nothing for them. -/
  outside : ∀ p, ¬ ValidPeerId p →
    (reach (w.native core) (callsOf w (before ++ [invocation]))).getIdentity p = none ∧
      (reach (w.native core) (callsOf w (before ++ [invocation]))).eventsOf p = []
  /-- Both keys of every other peer keep what they held. -/
  frame : ∀ q, (∀ call, invocation.call w = .ok call → call.peerId ≠ q) →
    (invoked w (before ++ [invocation])) (identityKeyBytes q) =
        (invoked w before) (identityKeyBytes q) ∧
      (invoked w (before ++ [invocation])) (eventsKeyBytes q) =
        (invoked w before) (eventsKeyBytes q)

theorem invoked_concat (w : WasmEnv) : invoked w (before ++ [invocation]) =
      (invoke w allSucceed (invoked w before) invocation).2 :=
  run_concat _ _ _ _

theorem invoke_frame (h : Represents store s) (hi : Invariant s) (i : Invocation) (q : String)
    (hq : ∀ call, i.call w = .ok call → call.peerId ≠ q) :
    (invoke w allSucceed store i).2 (identityKeyBytes q) = store (identityKeyBytes q) ∧
      (invoke w allSucceed store i).2 (eventsKeyBytes q) = store (eventsKeyBytes q) := by
  cases hc : i.call w with
  | error e =>
    rw [invoke_of_error hc]
    exact ⟨rfl, rfl⟩
  | ok call =>
    rw [invoke_of_call hc]
    have hne : q ≠ call.peerId := (hq call hc).symm
    rcases applyCall_refines (w := w) h hi call with ⟨e, _, ha⟩ | ⟨c, _, _, ha, _⟩
    · rw [ha]
      exact ⟨rfl, rfl⟩
    · rw [ha]
      show writeBoth _ _ _ store _ = _ ∧ writeBoth _ _ _ store _ = _
      rw [writeBoth_identityKey, writeBoth_eventsKey, if_neg hne, if_neg hne]
      exact ⟨rfl, rfl⟩

/-- A registry in which the invariant holds has nothing for a peer id outside the grammar. -/
theorem Invariant.outside (hi : Invariant s) (hp : ¬ ValidPeerId p) :
    s.getIdentity p = none ∧ s.eventsOf p = [] := by
  cases hs : s.getIdentity p with
  | none => exact ⟨rfl, (hi p).absent hs⟩
  | some r =>
    obtain ⟨_, hc⟩ := (hi p).present r hs
    exact absurd (hc.peerId ▸ hc.valid.peerId) hp

/-- In every sequence of entry-point calls in which no value exceeds the storage
limit, each call answers as the native registry does and leaves the values the
native registry has, for every peer, and touches no other peer's keys. -/
theorem wasm_contract_matches_native (w : WasmEnv) (core : DytallixCore)
    (hagree : WalletCratesAgree core w.crates) (invocations : List Invocation)
    (hfit : ∀ front, front <+: invocations → ValuesFit (reach (w.native core) (callsOf w front)))
    (before after : List Invocation) (invocation : Invocation)
    (hsplit : invocations = before ++ invocation :: after) :
    MatchesNative w core before invocation := by
  have hu : before ++ [invocation] <+: invocations := ⟨after, by simp [hsplit]⟩
  have hb : boundedReach w before = reach (w.native core) (callsOf w before) :=
    boundedReach_eq_native hagree before fun front hf =>
      hfit front ((hf.trans (prefix_append _ _)).trans hu)
  have ha : boundedReach w (before ++ [invocation]) =
      reach (w.native core) (callsOf w (before ++ [invocation])) :=
    boundedReach_eq_native hagree _ fun front hf => hfit front (hf.trans hu)
  have hr := invoked_represents w before
  have hi := boundedReach_invariant w before
  have hr' := invoked_represents w (before ++ [invocation])
  have hi' := boundedReach_invariant w (before ++ [invocation])
  rw [hb] at hr hi
  rw [ha] at hr' hi'
  refine ⟨?_, ?_, fun p hp => hi'.outside hp, ?_⟩
  · rw [(invoke_refines hr hi invocation).1]
    have hl := hfit _ hu
    rw [reach_callsOf_concat] at hl
    unfold boundedInvoke
    cases hc : invocation.call w with
    | error e => simp
    | ok c =>
      rw [hc] at hl
      simp [(boundedStep_native hagree hl).1]
  · intro p hp
    rw [hr'.loadIdentity_eq w hp, hr'.loadEvents_eq hi' w hp]
    exact ⟨rfl, rfl⟩
  · intro q hq
    rw [invoked_concat]
    exact invoke_frame hr hi invocation q hq

/-- Native crates that agree with the sample's wasm crates. -/
def sampleCore : DytallixCore where
  verifyMldsa65 publicKey payload signature :=
    if publicKey.length = mldsa65PublicKeyLen ∧ signature.length = mldsa65SignatureLen then
      some (decide (signature = sampleSign payload))
    else none
  daddrFromPublicKey publicKey :=
    if publicKey.length = mldsa65PublicKeyLen then some sampleAddress else none

theorem sampleCore_agrees : WalletCratesAgree sampleCore sampleWasm.crates where
  verify publicKey payload signature := by
    unfold sampleCore sampleWasm
    by_cases h : publicKey.length = mldsa65PublicKeyLen ∧ signature.length = mldsa65SignatureLen
    · simp [h]
    · simp only [if_neg h, reduceCtorEq, false_iff]
      exact fun ha => h ⟨ha.1, ha.2.1⟩
  address publicKey h := by
    unfold sampleCore
    exact if_pos h

theorem sample_event_fits (e : String) (h : Json.quotedLength e ≤ 12)
    (re : StableIdentityRecord) (hr : (encodeIdentity re).length ≤ 700)
    (r : UInt64) :
    Fits re [⟨sampleRecord.peerId, e, sampleAddress, r⟩] := by
  refine ⟨hr.trans (by decide), ?_⟩
  have hd := digits_le_twenty r
  rw [length_encodeEvents_singleton, byteLength_sampleEvent, maxStorageValueSize]
  omega

private theorem sample_step : step (sampleWasm.native sampleCore) Registry.new sampleRegister =
    (.ok (), sampleChange.commit Registry.new) := by
  have hd := (decision_native_iff sampleCore_agrees sampleRegister none _).mpr
    decision_sampleRegister
  rcases step_cases (sampleWasm.native sampleCore) Registry.new sampleRegister with
    ⟨change, hc, hs⟩ | ⟨e, he, _⟩
  · rw [Registry.getIdentity_new, hd] at hc
    rw [hs, ← Except.ok.inj hc]
  · rw [Registry.getIdentity_new, hd] at he
    simp at he

private theorem sample_values_fit (f : List Invocation) (h : f <+: [sampleRegister.invocation]) :
    ValuesFit (reach (sampleWasm.native sampleCore) (callsOf sampleWasm f)) := by
  intro p r hr
  rcases prefix_concat_iff.mp (show f <+: [] ++ [_] from h) with rfl | hn
  · have hc : callsOf sampleWasm ([] ++ [sampleRegister.invocation]) = [sampleRegister] := by
      simp [callsOf, sampleRegister_invocation, Except.toOption]
    rw [hc, reach, run_cons, run_nil, sample_step] at hr ⊢
    rw [getIdentity_commit] at hr
    rw [eventsOf_commit]
    by_cases hp : p = sampleChange.event.peerId
    · rw [if_pos hp] at hr
      rw [if_pos hp.symm, ← Option.some.inj hr]
      exact sample_event_fits "registered" (by decide) sampleRecord
        length_encodeIdentity_sampleRecord initialIdentityRevision
    · rw [if_neg hp] at hr
      simp at hr
  · rw [prefix_nil.mp hn] at hr
    exact absurd hr (by simp [callsOf, reach])

theorem sample_registration_matches_native :
    MatchesNative sampleWasm sampleCore [] sampleRegister.invocation ∧
      (invoke sampleWasm allSucceed (invoked sampleWasm []) sampleRegister.invocation).1.ok = true := by
  have hm := wasm_contract_matches_native sampleWasm sampleCore sampleCore_agrees
    [sampleRegister.invocation] sample_values_fit [] [] sampleRegister.invocation rfl
  refine ⟨hm, hm.flag.mpr ⟨sampleRegister, sampleRegister_invocation, ?_⟩⟩
  exact congrArg Prod.fst sample_step

end QuantumLink.RegistryV2
