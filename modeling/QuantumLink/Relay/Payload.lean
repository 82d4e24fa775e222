import QuantumLink.Foundation.Base64
import QuantumLink.Relay.Routing

/-! # How long payloads are

The relay does not decode payloads. It compares a bound that it takes from the text with its limit,
and for every text that `base64` decodes the bound is the length of what it decodes to.
-/

namespace QuantumLink.Relay

open Base64 (decodeStandard encodeStandard)
open Connection (carried_leave)

theorem decodedPayloadLenUpperBound_eq (h : decodeStandard text = some payload) :
    decodedPayloadLenUpperBound text = payload.length := by
  have hq := Base64.readQuads_some h
  simp only [decodedPayloadLenUpperBound, Json.stringBytes]
  unfold Base64.padding at hq
  omega

theorem encodedPayloadExceedsLimit_iff (h : decodeStandard text = some payload) (limit : Nat) :
    encodedPayloadExceedsLimit text limit = true ↔ limit < payload.length := by
  simp [encodedPayloadExceedsLimit, decodedPayloadLenUpperBound_eq h]

variable {config : RelayConfig} {id : ConnId} {world : World} {conn : Connection}

/-- The datagram in hand has passed the check of its size. -/
def Connection.Within (config : RelayConfig) (conn : Connection) : Prop :=
  ∀ d ∈ conn.carried,
    encodedPayloadExceedsLimit d.payloadBase64 config.limits.relayMaxPayloadBytes = false

theorem carried_refuse (m : String) : (conn.refuse id world m).1.carried = none := by
  unfold Connection.refuse
  split
  · split
    · exact carried_leave _ _
    · rfl
  · exact carried_leave _ _

theorem within_receive (hp : conn.point = .reading) :
    (conn.receive config id world reads limiter).1.1.Within config := by
  intro d hd
  obtain ⟨⟨line, hl, hm⟩, -⟩ := (received_receive reads limiter conn).carried hp hd
  simp only [Connection.receive, hl] at hd
  rcases hc : limiter.check config.admission.rateLimit world.now conn.peerIp "relay" with ⟨_ | _, l⟩
  · simp [hc, carried_refuse] at hd
  · simp only [hc, hm, Connection.message, Connection.datagram] at hd
    split_ifs at hd with hi he hs
    · simp [carried_leave] at hd
    · simp [carried_leave] at hd
    · simp [carried_leave] at hd
    · simpa using he

theorem within_step (s : RelayState) (e : Event) (h : ∀ conn ∈ s.connections, conn.Within config) :
    ∀ conn ∈ (step config s e).2.connections, conn.Within config := by
  have hs (id : ConnId) {c : Connection} (hc : c.Within config) :
      ∀ conn ∈ s.connections.set id c, conn.Within config := by
    intro conn hm
    rcases List.mem_or_eq_of_mem_set hm with hm | rfl
    · exact h conn hm
    · exact hc
  cases e with
  | accept p =>
    simp only [step]
    split_ifs
    · refine List.forall_mem_append.mpr ⟨h, List.forall_mem_singleton.mpr ?_⟩
      simp [Connection.Within, Connection.carried, Connection.new]
    · exact h
  | deliver id r w =>
    simp only [step]
    cases hc : s.connections[id]? with
    | none => exact h
    | some c =>
      cases hp : c.point with
      | reading =>
        simp only [hp, Point.isReading, if_true]
        exact hs id (within_receive hp)
      | _ => simpa [hp, Point.isReading] using h
  | resume id w =>
    simp only [step]
    cases hc : s.connections[id]? with
    | none => exact h
    | some c =>
      simp only
      split_ifs
      · exact h
      · exact hs id fun d hd =>
          h c (List.mem_of_getElem? hc) d ((resumed_resume s.registry c).carried hd)

/-- **The payload bound.** It is the length of what was encoded, and at least the length of what can
be decoded. In no run a payload over the limit is forwarded, and the check of the size refuses none
within it. -/
theorem payload_bound_exact (config : RelayConfig) :
    (∀ payload, decodedPayloadLenUpperBound (encodeStandard payload) = payload.length) ∧
      (∀ text payload, decodeStandard text = some payload →
        payload.length ≤ decodedPayloadLenUpperBound text) ∧
      (∀ events event target d payload, (target, (RelayMessage.datagram d).toLine) ∈
          (step config (run (step config) RelayState.new events) event).1 →
        decodeStandard d.payloadBase64 = some payload →
          payload.length ≤ config.limits.relayMaxPayloadBytes) ∧
      ∀ text payload, decodeStandard text = some payload →
        payload.length ≤ config.limits.relayMaxPayloadBytes →
          encodedPayloadExceedsLimit text config.limits.relayMaxPayloadBytes = false := by
  refine ⟨fun p => ?_, fun t p h => (decodedPayloadLenUpperBound_eq h).ge, ?_, ?_⟩
  · exact decodedPayloadLenUpperBound_eq (Base64.decodeStandard_encodeStandard p)
  · intro events event target d p hs hd
    obtain ⟨-, id, conn, hc, hca⟩ := (step_stepped config _ event).forwards hs
    have hw := run_invariant (fun s : RelayState => ∀ conn ∈ s.connections, conn.Within config)
      within_step (by simp [RelayState.new]) events conn (List.mem_of_getElem? hc) d hca
    rw [← Bool.not_eq_true, encodedPayloadExceedsLimit_iff hd] at hw
    omega
  · intro t p hd hl
    rw [← Bool.not_eq_true, encodedPayloadExceedsLimit_iff hd]
    omega

end QuantumLink.Relay
