import QuantumLink.Foundation.Mentions
import QuantumLink.Foundation.Replace
import QuantumLink.Identity.NodeBinding
import QuantumLink.Relay.Admission

/-! # The state machine of a resident publication

`publication` of `qlinkd`: the daemon publishes its own signed peer record again and again, each
time under a sequence number that it reserves in a file first. What became of it is kept in a
snapshot: the phase, the expiry of the record that was accepted last, and how the registry binding
of this device and the trust in the selected peer were last found.

Files are written with `write_json_atomically`. Which of its steps fails, and with what text, is an
argument; so is every reading of the clock.
-/

namespace QuantumLink.Publication

open Device Discovery Identity
open Relay (errorText)

inductive PublicationPhase where
  | notStarted
  | published
  | degraded
  | expired
  | stopped
deriving DecidableEq

inductive DytallixTrustDecision where
  | notChecked
  | accepted
  | denied
  | revoked
  | suspended
  | mismatched
  | unknown

inductive DytallixTrustHealth where
  | healthy
  | degraded
  | unavailable
  | unknown

inductive DytallixBindingVersion where
  | exactPeerRecordV1
  | stableIdentityV2
deriving DecidableEq

inductive LocalRegistryBindingState where
  | notConfigured
  | pending
  | active
  | missing
  | revoked
  | suspended
  | mismatched
  | expired
  | unavailable
  | unknown
deriving DecidableEq

structure PublicationSnapshot where
  phase : PublicationPhase
  sequence : Option UInt64
  expiresAtUnix : Option UInt64
  lastAttemptAtUnix : Option UInt64
  lastSuccessAtUnix : Option UInt64
  lastError : Option String
  dytallixRequired : Bool
  dytallixDecision : DytallixTrustDecision
  dytallixHealth : DytallixTrustHealth
  localBindingVersion : Option DytallixBindingVersion
  localBindingState : LocalRegistryBindingState
  localIdentityRevision : Option UInt64
  localBindingCheckedAtUnix : Option UInt64
  localBindingError : Option String

namespace PublicationSnapshot

def notStarted : PublicationSnapshot where
  phase := .notStarted
  sequence := none
  expiresAtUnix := none
  lastAttemptAtUnix := none
  lastSuccessAtUnix := none
  lastError := none
  dytallixRequired := false
  dytallixDecision := .notChecked
  dytallixHealth := .unknown
  localBindingVersion := none
  localBindingState := .notConfigured
  localIdentityRevision := none
  localBindingCheckedAtUnix := none
  localBindingError := none

variable (self : PublicationSnapshot)

variable (nowUnix : UInt64)

/-- The record the snapshot tells of has run out. -/
def Elapsed : Prop :=
  ∃ expiresAt ∈ self.expiresAtUnix, expiresAt ≤ nowUnix

instance (self : PublicationSnapshot) (nowUnix : UInt64) : Decidable (self.Elapsed nowUnix) :=
  inferInstanceAs (Decidable (∃ expiresAt ∈ self.expiresAtUnix, expiresAt ≤ nowUnix))

/-- `at`. -/
def atTime : PublicationSnapshot :=
  if self.Elapsed nowUnix then { self with phase := .expired } else self

def IsCurrent : Prop :=
  (∃ expiresAt ∈ self.expiresAtUnix, nowUnix < expiresAt) ∧
    (self.phase = .published ∨ self.phase = .degraded) ∧
    (self.dytallixRequired = false ∨
      self.localBindingVersion = some .stableIdentityV2 ∧ self.localBindingState = .active)

instance (self : PublicationSnapshot) (nowUnix : UInt64) : Decidable (self.IsCurrent nowUnix) :=
  inferInstanceAs (Decidable (_ ∧ _ ∧ _))

theorem isCurrent_atTime (s : PublicationSnapshot) (nowUnix : UInt64) :
    (s.atTime nowUnix).IsCurrent nowUnix ↔ s.IsCurrent nowUnix := by
  unfold atTime
  split
  · rename_i he
    obtain ⟨expiresAt, hx, hle⟩ := he
    have hn : ¬ ∃ expiresAt ∈ s.expiresAtUnix, nowUnix < expiresAt := by
      rintro ⟨o, ho, hlt⟩
      cases hx.symm.trans ho
      exact absurd hle (UInt64.not_le.mpr hlt)
    exact iff_of_false (fun h => hn h.1) (fun h => hn h.1)
  · rfl

end PublicationSnapshot

/-- The steps of `write_json_atomically`. -/
inductive WriteStep where
  | createDirectory
  | openTemporary
  | writeValue
  | writeNewline
  | syncFile
  | rename
  | setPermissions
  | syncDirectory

/-- How far the replacement came when this step is not done. -/
def WriteStep.progress : WriteStep → ReplaceProgress
  | .createDirectory | .openTemporary | .writeValue | .writeNewline | .syncFile | .rename =>
    .untouched
  | .setPermissions | .syncDirectory => .renamed

structure Fault where
  step : WriteStep
  message : String

/-- The bytes written for a value. -/
def fileBytes (value : Json) : Bytes := value.toBytes ++ [10]

def writeJsonAtomically (file : ReplacedFile Bytes) (value : Json) (fault : Option Fault) :
    Except String Unit × ReplacedFile Bytes :=
  match fault with
  | none => (.ok (), file.replace (fileBytes value) .synced)
  | some fault => (.error fault.message, file.replace (fileBytes value) fault.step.progress)

def publicationStateSchemaVersion : UInt8 := 1

structure DurablePublicationState where
  schemaVersion : UInt8
  nextSequence : UInt64

namespace DurablePublicationState

def default : DurablePublicationState := ⟨publicationStateSchemaVersion, 1⟩

def names : List String := ["schemaVersion", "nextSequence"]

def toJson (state : DurablePublicationState) : Json :=
  .obj [("schemaVersion", .ofUInt8 state.schemaVersion),
    ("nextSequence", .ofUInt64 state.nextSequence)]

/-- Unknown members are refused. -/
def ofJson (value : Json) : Option DurablePublicationState := do
  match ← Json.structFields names value with
  | [schemaVersion, nextSequence] =>
    pure ⟨← Json.required Json.asUInt8 schemaVersion, ← Json.required Json.asUInt64 nextSequence⟩
  | _ => none

end DurablePublicationState

/-- What is under the path of the state file, besides the contents. -/
inductive Obstacle where
  | notRegular
  | exposed
  | unreadable (message : String)

/-- What `load_durable_state` makes of the file: `path` and the reader's own text are only
printed. -/
def loadDurableState (path parseError : String) (obstacle : Option Obstacle)
    (content : Option Bytes) : Except String DurablePublicationState :=
  match obstacle, content with
  | some .notRegular, _ => .error ("publication state " ++ path ++ " is not a regular file")
  | some .exposed, _ =>
    .error ("publication state " ++ path ++ " must not be group- or world-accessible")
  | some (.unreadable message), _ => .error message
  | none, none => .ok .default
  | none, some bytes => do
      let state ← okOr ((Json.ofBytes bytes).bind DurablePublicationState.ofJson)
        ("invalid publication state " ++ path ++ ": " ++ parseError)
      ensure (state.schemaVersion = publicationStateSchemaVersion ∧ state.nextSequence ≠ 0)
        "unsupported or invalid publication state"
      pure state

structure PublicationStateMachine where
  ttlSeconds : UInt64
  nextSequence : UInt64
  nextAttemptAtUnix : UInt64
  snapshot : PublicationSnapshot

def maxPublicationErrorBytes : Nat := 512

/-- The longest start of a text that has no more than so many bytes. -/
def takeBytes : Nat → List Char → List Char
  | _, [] => []
  | left, c :: text => if c.utf8Size ≤ left then c :: takeBytes (left - c.utf8Size) text else []

def sanitizeError (error : String) : String :=
  String.ofList (takeBytes maxPublicationErrorBytes
    (error.toList.map fun c => if c = '\n' ∨ c = '\r' then ' ' else c))

inductive LocalRegistryBindingFailureKind where
  | missing
  | revoked
  | suspended
  | expired
  | mismatched
  | unavailable

structure LocalRegistryBindingError where
  bindingVersion : Option DytallixRegistryBindingVersion
  kind : LocalRegistryBindingFailureKind
  message : String

structure LocalRegistryBindingProof where
  bindingVersion : DytallixRegistryBindingVersion
  identityRevision : Option UInt64

def reportedVersion : DytallixRegistryBindingVersion → DytallixBindingVersion
  | .exactPeerRecordV1 => .exactPeerRecordV1
  | .stableIdentityV2 => .stableIdentityV2

def LocalRegistryBindingFailureKind.state :
    LocalRegistryBindingFailureKind → LocalRegistryBindingState
  | .missing => .missing
  | .revoked => .revoked
  | .suspended => .suspended
  | .expired => .expired
  | .mismatched => .mismatched
  | .unavailable => .unavailable

def saturatingAdd (a b : UInt64) : UInt64 :=
  if a.toNat + b.toNat < UInt64.size then a + b else UInt64.ofNat (UInt64.size - 1)

def checkedAdd (a b : UInt64) : Option UInt64 :=
  if a.toNat + b.toNat < UInt64.size then some (a + b) else none

def toAsciiLowercase (text : String) : String := String.ofList (text.toList.map Char.toLower)

namespace PublicationStateMachine

def load (ttlSeconds : UInt64) (durable : DurablePublicationState) : PublicationStateMachine :=
  ⟨ttlSeconds, max durable.nextSequence 1, 0, .notStarted⟩

variable (self : PublicationStateMachine)

/-- In seconds. -/
def retryDelay : UInt64 := min (max (self.ttlSeconds / 4) 1) 15

def reserveSequence (stateFile : ReplacedFile Bytes) (nowUnix : UInt64) (fault : Option Fault) :
    Except String UInt64 × PublicationStateMachine × ReplacedFile Bytes :=
  let self := { self with snapshot := { self.snapshot with lastAttemptAtUnix := some nowUnix } }
  match checkedAdd self.nextSequence 1 with
  | none => (.error "publication sequence exhausted; rotate device identity", self, stateFile)
  | some nextSequence =>
    match writeJsonAtomically stateFile
        (DurablePublicationState.toJson ⟨publicationStateSchemaVersion, nextSequence⟩) fault with
    | (.error error, stateFile) => (.error error, self, stateFile)
    | (.ok (), stateFile) =>
      (.ok self.nextSequence, { self with nextSequence := nextSequence }, stateFile)

variable (crates : DeviceCrates)

/-- The checks of `accept_record`, before the outbox is written. `verifiedAt` is the reading of the
clock that the verification makes. -/
def checkRecord (sequence nowUnix verifiedAt : UInt64) (record : PeerRecord) :
    Except String Unit := do
  (record.verify crates record.body.meshId verifiedAt).mapError fun error =>
    "published record verification failed: " ++ errorText error
  ensure (record.body.sequence = sequence) "published record sequence did not match reservation"
  ensure (¬ record.body.expiresAtUnix ≤ nowUnix) "published record was already expired"

def acceptRecord (self : PublicationStateMachine) (recordFile : ReplacedFile Bytes)
    (sequence nowUnix verifiedAt : UInt64) (record : PeerRecord) (fault : Option Fault) :
    Except String Unit × PublicationStateMachine × ReplacedFile Bytes :=
  match checkRecord crates sequence nowUnix verifiedAt record with
  | .error error => (.error error, self, recordFile)
  | .ok () =>
    match writeJsonAtomically recordFile record.toJson fault with
    | (.error error, recordFile) =>
      (.error ("current-record outbox write failed: " ++ error), self, recordFile)
    | (.ok (), recordFile) =>
      (.ok (),
        { self with
          snapshot := { self.snapshot with
            phase := .published
            sequence := some sequence
            expiresAtUnix := some record.body.expiresAtUnix
            lastSuccessAtUnix := some nowUnix
            lastError := none }
          nextAttemptAtUnix := saturatingAdd nowUnix (max (self.ttlSeconds / 2) 1) },
        recordFile)

variable (nowUnix : UInt64)

def recordFailure (error : String) :
    PublicationStateMachine :=
  { self with
    snapshot := { self.snapshot with
      lastError := some (sanitizeError error)
      phase := if self.snapshot.Elapsed nowUnix then .expired else .degraded }
    nextAttemptAtUnix := saturatingAdd nowUnix self.retryDelay }

def recordTrustAccepted : PublicationStateMachine :=
  { self with
    snapshot := { self.snapshot with dytallixDecision := .accepted, dytallixHealth := .healthy } }

def trustDecision (lower : String) : DytallixTrustDecision :=
  if Mentions lower "revoked" then .revoked
  else if Mentions lower "suspended" then .suspended
  else if Mentions lower "mismatch" then .mismatched
  else if Mentions lower "required" ∨ Mentions lower "not found" then .denied
  else .notChecked

def trustHealth (lower : String) : DytallixTrustHealth :=
  if Mentions lower "unavailable" ∨ Mentions lower "lookup failed" then .unavailable else .degraded

def recordTrustFailure (error : String) :
    PublicationStateMachine :=
  { self with
    snapshot := { self.snapshot with
      dytallixDecision := trustDecision (toAsciiLowercase error)
      dytallixHealth := trustHealth (toAsciiLowercase error) } }

def recordLocalBindingAccepted (checkedAtUnix : UInt64) (version : DytallixBindingVersion)
    (identityRevision : Option UInt64) :
    PublicationStateMachine :=
  { self with
    snapshot := { self.snapshot with
      localBindingVersion := some version
      localBindingState := .active
      localIdentityRevision := identityRevision
      localBindingCheckedAtUnix := some checkedAtUnix
      localBindingError := none } }

def recordLocalBindingFailure (error : LocalRegistryBindingError) :
    PublicationStateMachine :=
  recordFailure
    { self with
      snapshot := { self.snapshot with
        localBindingVersion := error.bindingVersion.map reportedVersion
        localBindingState := error.kind.state
        localBindingCheckedAtUnix := some nowUnix
        localBindingError := some (sanitizeError error.message) } }
    nowUnix ("local Dytallix registry binding failed: " ++ error.message)

end PublicationStateMachine

end QuantumLink.Publication
