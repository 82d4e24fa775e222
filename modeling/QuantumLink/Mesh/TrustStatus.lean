import QuantumLink.Foundation.Mentions
import QuantumLink.Mesh.Connector

/-! # The trust a session manager reports

For every peer a session manager connects, and reports what the registry last said of the peer: a
decision, or the code of a failure. It gets the failure as the text of an error and finds the code
by looking for phrases in it. The managers of a transport share the connector and the history of
blocked peers.
-/

namespace QuantumLink.Mesh

open Device Discovery Identity
open Relay (errorText)

def peerTrustDecisionUnknown : UInt32 := 0
def peerTrustDecisionAccepted : UInt32 := 1
def peerTrustDecisionAcceptedWithoutRegistryPrivate : UInt32 := 2
def peerTrustDecisionAcceptedWithoutRegistryDevelopment : UInt32 := 3

def peerTrustFailureNone : UInt32 := 0
def peerTrustFailureRegistryRequired : UInt32 := 1
def peerTrustFailureRegistryRevoked : UInt32 := 2
def peerTrustFailureRegistrySuspended : UInt32 := 3
def peerTrustFailureRegistryExpired : UInt32 := 4
def peerTrustFailureRegistryMismatch : UInt32 := 5
def peerTrustFailureRegistryLookup : UInt32 := 6
def peerTrustFailureRegistryVerification : UInt32 := 7
def peerTrustFailureRegistryKeyMismatch : UInt32 := 8
def peerTrustFailureRegistryRecordHashMismatch : UInt32 := 9
def peerTrustFailureRegistryStakeOrReputation : UInt32 := 10

def registryDecisionCode : RegistryDecision → UInt32
  | .accepted => peerTrustDecisionAccepted
  | .acceptedWithoutRegistryPrivate => peerTrustDecisionAcceptedWithoutRegistryPrivate
  | .acceptedWithoutRegistryDevelopment => peerTrustDecisionAcceptedWithoutRegistryDevelopment

def peerTrustSourceUnknown : UInt32 := 0

def PeerRecordSource.trustSourceCode : PeerRecordSource → UInt32
  | .rendezvousLive => 1
  | .peerStoreCache => 2

/-- The first clause whose phrase the message contains gives the code. -/
def registryFailureCode (message : String) : Option UInt32 :=
  if Mentions message "registry record required by public mesh trust policy" then
    some peerTrustFailureRegistryRequired
  else if Mentions message "registry record has expired" then
    some peerTrustFailureRegistryExpired
  else if Mentions message "registry record is revoked" then
    some peerTrustFailureRegistryRevoked
  else if Mentions message "registry record is suspended" ∨
      Mentions message "registry record is not active" then
    some peerTrustFailureRegistrySuspended
  else if Mentions message "identity registry lookup failed" ∨
      Mentions message "registry unavailable" then
    some peerTrustFailureRegistryLookup
  else if Mentions message "stake or reputation" ∨
      Mentions message "stake" ∧ Mentions message "reputation" then
    some peerTrustFailureRegistryStakeOrReputation
  else if Mentions message "latest_peer_record_hash_hex mismatch" then
    some peerTrustFailureRegistryRecordHashMismatch
  else if Mentions message "device_public_key_hash_hex mismatch" ∨
      Mentions message "pqc_binding_hash_hex mismatch" ∨
      Mentions message "node_signing_public_key_hash_hex mismatch" ∨
      Mentions message "transport_public_key_hash_hex mismatch" then
    some peerTrustFailureRegistryKeyMismatch
  else if Mentions message "peer_id mismatch" ∨
      Mentions message "registry" ∧ Mentions message "mismatch" then
    some peerTrustFailureRegistryMismatch
  else if Mentions message "registry" then
    some peerTrustFailureRegistryVerification
  else none

/-! ## The managers of a transport -/

structure PeerTrustStatusRaw where
  decisionCode : UInt32
  failureCode : UInt32
  checkedAtUnix : UInt64
  sourceCode : UInt32

namespace PeerTrustStatusRaw

def default : PeerTrustStatusRaw := ⟨0, 0, 0, 0⟩

def fromRegistryDecision (decision : RegistryDecision) (source : PeerRecordSource)
    (now : UInt64) : PeerTrustStatusRaw :=
  ⟨registryDecisionCode decision, peerTrustFailureNone, now, source.trustSourceCode⟩

def fromFailureMessage (message : String) (now : UInt64) : Option PeerTrustStatusRaw :=
  (registryFailureCode message).map fun failureCode =>
    ⟨peerTrustDecisionUnknown, failureCode, now, peerTrustSourceUnknown⟩

end PeerTrustStatusRaw

inductive BlockedPeerDirection where
  | inbound
  | outbound
deriving DecidableEq

structure BlockedPeerHistoryEntry where
  peerId : String
  direction : BlockedPeerDirection
  failureCode : UInt32
  failureReason : String
  observedAtUnix : UInt64
  checkedAtUnix : UInt64

abbrev BlockedPeerHistory := Table (String × BlockedPeerDirection) BlockedPeerHistoryEntry

def BlockedPeerHistory.record (history : BlockedPeerHistory) (peerId : String)
    (direction : BlockedPeerDirection) (failureCode : UInt32) (failureReason : String)
    (checkedAtUnix : Option UInt64) (now : UInt64) : BlockedPeerHistory :=
  history.insert (peerId, direction)
    ⟨peerId, direction, failureCode, failureReason, now, checkedAtUnix.getD now⟩

/-- The store of the connector, the state each manager shares, and the history. -/
structure Managers (σ : Type) where
  store : σ
  peerTrust : String → PeerTrustStatusRaw
  lastError : String → Option String
  blockedPeerHistory : BlockedPeerHistory

/-- One turn of a manager: what its connector is answered, how dialing ends, and the readings of
the clock for the status and for the history. -/
structure Attempt where
  remotePeerId : String
  rendezvous : Except QlinkError (Option PeerRecord)
  registry : Except QlinkError (Option RegistryIdentityLookupRecord)
  clock : Readings
  dial : Except QlinkError Unit
  checkedAt : UInt64
  observedAt : UInt64

def Attempt.call (attempt : Attempt) : Call :=
  ⟨.connect, attempt.remotePeerId, attempt.rendezvous, attempt.registry, attempt.clock⟩

namespace Managers

variable {σ : Type}

def start (store : σ) : Managers σ := ⟨store, fun _ => .default, fun _ => none, ∅⟩

def connected (managers : Managers σ) (attempt : Attempt) (trusted : Trusted) : Managers σ :=
  { managers with
    lastError := Function.update managers.lastError attempt.remotePeerId none
    peerTrust := Function.update managers.peerTrust attempt.remotePeerId
      (.fromRegistryDecision trusted.decision trusted.source attempt.checkedAt) }

/-- A message without a code leaves the status and the history as they are. -/
def failed (managers : Managers σ) (attempt : Attempt) (message : String) : Managers σ :=
  let managers :=
    match PeerTrustStatusRaw.fromFailureMessage message attempt.checkedAt with
    | some status =>
      { managers with
        peerTrust := Function.update managers.peerTrust attempt.remotePeerId status
        blockedPeerHistory := managers.blockedPeerHistory.record attempt.remotePeerId .outbound
          status.failureCode message (some status.checkedAtUnix) attempt.observedAt }
    | none => managers
  { managers with
    lastError := Function.update managers.lastError attempt.remotePeerId (some message) }

/-- The part of `run_session_manager` from the call of `connect` to its outcome. -/
def connect [PeerStore σ] (crates : ClientCrates) (config : MeshConnectorConfig)
    (managers : Managers σ) (attempt : Attempt) : Except QlinkError Trusted × Managers σ :=
  let (trusted, store) := perform crates config managers.store attempt.call
  let managers := { managers with store := store }
  let outcome := trusted >>= fun trusted => attempt.dial.map fun _ => trusted
  match outcome with
  | .ok trusted => (outcome, managers.connected attempt trusted)
  | .error error => (outcome, managers.failed attempt (errorText error))

/-- The status reports no accepted decision but this code, and so does the history. -/
def Reports (managers : Managers σ) (peerId : String) (code : UInt32) : Prop :=
  (∀ decision, (managers.peerTrust peerId).decisionCode ≠ registryDecisionCode decision) ∧
    (managers.peerTrust peerId).failureCode = code ∧
    ∃ entry, managers.blockedPeerHistory.lookup (peerId, .outbound) = some entry ∧
      entry.peerId = peerId ∧ entry.direction = .outbound ∧ entry.failureCode = code

variable {crates : ClientCrates} {config : MeshConnectorConfig} {managers : Managers σ}
  {attempt : Attempt}

theorem connect_of_error [PeerStore σ]
    (h : (perform crates config managers.store attempt.call).1 = .error error) :
    (connect crates config managers attempt).2 =
      ({ managers with store := (perform crates config managers.store attempt.call).2 } :
        Managers σ).failed attempt (errorText error) := by
  simp only [connect, h]
  rfl

theorem connect_of_ok [PeerStore σ]
    (h : (perform crates config managers.store attempt.call).1 = .ok trusted)
    (hd : attempt.dial = .ok ()) :
    (connect crates config managers attempt).2.peerTrust =
        Function.update managers.peerTrust attempt.remotePeerId
          (.fromRegistryDecision trusted.decision trusted.source attempt.checkedAt) ∧
      (connect crates config managers attempt).2.blockedPeerHistory =
        managers.blockedPeerHistory := by
  simp only [connect, h, hd]
  exact ⟨rfl, rfl⟩

theorem connect_of_silent [PeerStore σ]
    (h : (perform crates config managers.store attempt.call).1 = .error error)
    (hs : registryFailureCode (errorText error) = none) :
    (connect crates config managers attempt).2.peerTrust = managers.peerTrust ∧
      (connect crates config managers attempt).2.blockedPeerHistory =
        managers.blockedPeerHistory := by
  rw [connect_of_error h]
  simp [failed, PeerTrustStatusRaw.fromFailureMessage, hs]

/-- What a failed attempt reports is the code found in its message, or what was reported. -/
theorem failed_reports_iff : (managers.failed attempt message).Reports attempt.remotePeerId code ↔
      registryFailureCode message = some code ∨
        registryFailureCode message = none ∧ managers.Reports attempt.remotePeerId code := by
  cases hc : registryFailureCode message with
  | none => simp [failed, PeerTrustStatusRaw.fromFailureMessage, hc, Reports]
  | some f =>
    have hu : ∀ decision, peerTrustDecisionUnknown ≠ registryDecisionCode decision := by
      intro decision
      cases decision <;> decide
    simp [failed, PeerTrustStatusRaw.fromFailureMessage, hc, Reports, BlockedPeerHistory.record, hu]

end Managers

end QuantumLink.Mesh
