import QuantumLink.RegistryV2.Contract

/-! # The wasm contract over host storage

The wasm entry points keep no registry in memory: each call loads one peer's
record and events, runs the operation on a registry that holds nothing else, and
saves both values back. Requests and responses are JSON, and the host may refuse
a write with a status of its own. Texts of the JSON crate's errors are a parameter.
-/

namespace QuantumLink.RegistryV2

open Json (stringBytes)
open StableIdentityRecord

/-! ## Environment and host -/

/-- The wasm build: its crates and the text of a JSON error on a given input. -/
structure WasmEnv where
  sha256 : Bytes → Bytes
  deviceScheme : MlDsa65
  crates : WasmCrates
  serdeError : Bytes → String

def WasmEnv.env (w : WasmEnv) : Env where
  sha256 := w.sha256
  deviceScheme := w.deviceScheme
  wallet := .wasm w.crates

/-- What the host has stored under each key. -/
abbrev Store := Bytes → Option Bytes

/-- The status the host returns for a write during one call; zero is success. -/
abbrev SetStatus := Bytes → Bytes → Int

def allSucceed : SetStatus := fun _ _ => 0

/-! ## Keys and values -/

def maxStorageValueSize : Nat := 16 * 1024

def identityKeyBytes (peerId : String) : Bytes := stringBytes ("v2:identity:" ++ peerId)

def eventsKeyBytes (peerId : String) : Bytes := stringBytes ("v2:events:" ++ peerId)

def identityStorageKey (peerId : String) : Except RegistryError Bytes := do
  validatePeerId peerId
  pure (identityKeyBytes peerId)

def eventsStorageKey (peerId : String) : Except RegistryError Bytes := do
  validatePeerId peerId
  pure (eventsKeyBytes peerId)

def encodeIdentity (record : StableIdentityRecord) : Bytes := record.toJson.toBytes

def decodeIdentity (w : WasmEnv) (value : Bytes) : Except String StableIdentityRecord :=
  okOr ((Json.ofBytes value).bind ofJson)
    ("identity decode failed: " ++ w.serdeError value)

def encodeEvents (events : List RegistryEvent) : Bytes :=
  (Json.arr (events.map RegistryEvent.toJson)).toBytes

def decodeEvents (w : WasmEnv) (value : Bytes) : Except String (List RegistryEvent) :=
  okOr ((Json.ofBytes value).bind (Json.asList RegistryEvent.ofJson))
    ("events decode failed: " ++ w.serdeError value)

def validateStorageValueSize (value : Bytes) : Except String Unit :=
  ensure (value.length ≤ maxStorageValueSize)
    ("storage value exceeds storage limit: " ++ toString value.length ++ " bytes")

/-- `map_err(|error| error.to_string())`. -/
def withMessage {α : Type} (x : Except RegistryError α) : Except String α :=
  x.mapError RegistryError.message

/-! ## Raw storage -/

/-- How `storage_get_raw` reads the length the host returns: absent and empty values
look the same. -/
def readRaw : Option Bytes → Except String (Option Bytes)
  | none => .ok none
  | some value =>
    if value.length = 0 then .ok none
    else if maxStorageValueSize < value.length then
      .error ("storage_get returned oversized value: " ++ toString value.length ++ " bytes")
    else .ok (some value)

def storageGetRaw (key : Bytes) : Op Store String (Option Bytes) := do
  let value ← Op.read fun store => store key
  Op.check (readRaw value)

def storageSetRaw (status : SetStatus) (key value : Bytes) : Op Store String Unit := do
  Op.check (validateStorageValueSize value)
  if status key value = 0 then
    Op.update fun store => Function.update store key (some value)
  else
    Op.check (.error ("storage_set failed with code " ++ toString (status key value)))

/-! ## One peer's state -/

/-- `.map(decode).transpose()`. -/
def decodeStored {α : Type} (decode : Bytes → Except String α) :
    Option Bytes → Except String (Option α)
  | none => .ok none
  | some value => do
      let decoded ← decode value
      pure (some decoded)

def loadIdentity (w : WasmEnv) (peerId : String) : Op Store String (Option StableIdentityRecord) := do
  let key ← Op.check (withMessage (identityStorageKey peerId))
  let value ← storageGetRaw key
  Op.check (decodeStored (decodeIdentity w) value)

def loadEvents (w : WasmEnv) (peerId : String) : Op Store String (List RegistryEvent) := do
  let key ← Op.check (withMessage (eventsStorageKey peerId))
  let value ← storageGetRaw key
  let events ← Op.check (decodeStored (decodeEvents w) value)
  pure (events.getD [])

def savePeerState (status : SetStatus) (peerId : String) (identity : StableIdentityRecord)
    (events : List RegistryEvent) : Op Store String Unit := do
  let identityKey ← Op.check (withMessage (identityStorageKey peerId))
  let eventsKey ← Op.check (withMessage (eventsStorageKey peerId))
  Op.check (validateStorageValueSize (encodeIdentity identity))
  Op.check (validateStorageValueSize (encodeEvents events))
  storageSetRaw status identityKey (encodeIdentity identity)
  storageSetRaw status eventsKey (encodeEvents events)

/-- The registry a call starts from: nothing but the peer's own record and events. -/
def peerRegistry (peerId : String) (identity : Option StableIdentityRecord)
    (events : List RegistryEvent) : Registry :=
  match identity with
  | some record => { Registry.insertIdentity peerId record Registry.new with events := events }
  | none => { Registry.new with events := events }

structure ContractResponse where
  ok : Bool
  identity : Option StableIdentityRecord
  events : List RegistryEvent
  error : Option String
deriving DecidableEq

def ContractResponse.done : ContractResponse := ⟨true, none, [], none⟩

def ContractResponse.failed (error : String) : ContractResponse := ⟨false, none, [], some error⟩

/-- Everything before the save: the record and events the call would store. -/
def preparePeerState (w : WasmEnv) (peerId : String) (action : Op Registry RegistryError Unit) :
    Op Store String (StableIdentityRecord × List RegistryEvent) := do
  let identity ← loadIdentity w peerId
  let events ← loadEvents w peerId
  let outcome := action (peerRegistry peerId identity events)
  Op.check (withMessage outcome.1)
  let identity ← Op.check
    (okOr (outcome.2.getIdentity peerId) "operation did not produce identity state")
  pure (identity, outcome.2.eventsOf peerId)

def withPeerState (w : WasmEnv) (status : SetStatus) (peerId : String)
    (action : Op Registry RegistryError Unit) : Op Store String ContractResponse := do
  let state ← preparePeerState w peerId action
  savePeerState status peerId state.1 state.2
  pure .done

/-! ## Requests and responses -/

def maxInputBytes : Nat := 64 * 1024
def maxReturnBytes : Nat := 1024
def maxReturnPayloadBytes : Nat := maxReturnBytes - 4

def ContractResponse.toJson (response : ContractResponse) : Json :=
  .obj [("ok", .bool response.ok),
    ("identity", .ofOption StableIdentityRecord.toJson response.identity),
    ("events", .arr (response.events.map RegistryEvent.toJson)),
    ("error", .ofOption .str response.error)]

/-- The response `write_host_result` hands to the host, as its fields. -/
def hostResponse (result : Except String ContractResponse) : ContractResponse :=
  let response := match result with
    | .ok response => response
    | .error error => .failed error
  if maxReturnPayloadBytes < response.toJson.toBytes.length then .failed "response too large"
  else response

inductive EntryPoint where
  | registerIdentity
  | updateIdentity
  | suspendIdentity
  | revokeIdentity

def recordRequestNames : List String :=
  ["record", "actor_public_key_hex", "actor_signature_hex", "device_public_key_algorithm",
    "device_public_key_hex", "device_signature_hex"]

def statusRequestNames : List String :=
  ["peer_id", "identity_revision", "actor_public_key_hex", "actor_signature_hex"]

/-- `RegisterRequest` and `UpdateRequest`: a record with both authorizations flattened. -/
def recordRequest (call : StableIdentityRecord → WalletAuthorization → DeviceAuthorization → Call)
    (value : Json) : Option Call :=
  match Json.objectFields recordRequestNames value with
  | some [record, actorKey, actorSignature, algorithm, deviceKey, deviceSignature] => do
      let record ← Json.required ofJson record
      let actorKey ← Json.required Json.asString actorKey
      let actorSignature ← Json.required Json.asString actorSignature
      let algorithm ← Json.required Json.asString algorithm
      let deviceKey ← Json.required Json.asString deviceKey
      let deviceSignature ← Json.required Json.asString deviceSignature
      pure (call record ⟨actorKey, actorSignature⟩ ⟨algorithm, deviceKey, deviceSignature⟩)
  | _ => none

/-- `RevokeRequest` and `SuspendRequest`: a peer and a revision with the wallet flattened. -/
def statusRequest (call : String → UInt64 → WalletAuthorization → Call) (value : Json) :
    Option Call :=
  match Json.objectFields statusRequestNames value with
  | some [peerId, revision, actorKey, actorSignature] => do
      let peerId ← Json.required Json.asString peerId
      let revision ← Json.required Json.asUInt64 revision
      let actorKey ← Json.required Json.asString actorKey
      let actorSignature ← Json.required Json.asString actorSignature
      pure (call peerId revision ⟨actorKey, actorSignature⟩)
  | _ => none

def EntryPoint.request : EntryPoint → Json → Option Call
  | .registerIdentity => recordRequest .register
  | .updateIdentity => recordRequest .update
  | .suspendIdentity => statusRequest .suspend
  | .revokeIdentity => statusRequest .revoke

/-- A call from the host: the exported function and what `read_input` gives it, a
negative code or bytes. -/
structure Invocation where
  entryPoint : EntryPoint
  input : Except Int Bytes

/-- `read_host_request` followed by the choice of the operation. -/
def Invocation.call (w : WasmEnv) (invocation : Invocation) : Except String Call :=
  match invocation.input with
  | .error code => .error ("read_input failed with code " ++ toString code)
  | .ok input =>
    if maxInputBytes < input.length then
      .error ("read_input returned oversized payload: " ++ toString input.length ++ " bytes")
    else okOr ((Json.ofBytes input).bind invocation.entryPoint.request) (w.serdeError input)

/-- The operation of a call on one peer's stored state. -/
def applyCall (w : WasmEnv) (status : SetStatus) (call : Call) : Op Store String ContractResponse :=
  withPeerState w status call.peerId (call.exec w.env)

def Invocation.result (w : WasmEnv) (status : SetStatus) (invocation : Invocation) :
    Op Store String ContractResponse := do
  let call ← Op.check (invocation.call w)
  applyCall w status call

/-- One entry-point call: the response and the storage it leaves. -/
def invoke (w : WasmEnv) (status : SetStatus) (store : Store) (invocation : Invocation) :
    ContractResponse × Store :=
  let outcome := invocation.result w status store
  (hostResponse outcome.1, outcome.2)

/-- Storage after a list of entry-point calls to an empty contract whose writes succeed. -/
def invoked (w : WasmEnv) (invocations : List Invocation) : Store :=
  run (invoke w allSucceed) (fun _ => none) invocations

/-! ## Codecs and responses -/

@[simp] theorem decodeIdentity_encodeIdentity :
    decodeIdentity w (encodeIdentity record) = .ok record := by
  simp [decodeIdentity, encodeIdentity, Json.ofBytes_toBytes]

@[simp] theorem decodeEvents_encodeEvents : decodeEvents w (encodeEvents events) = .ok events := by
  simp [decodeEvents, encodeEvents, Json.ofBytes_toBytes,
    Json.asList_map RegistryEvent.ofJson_toJson]

theorem encodeIdentity_ne_nil (r : StableIdentityRecord) : encodeIdentity r ≠ [] := by
  simp [encodeIdentity, toJson, Json.toBytes, Json.render, Json.utf8]

theorem encodeEvents_ne_nil (e : List RegistryEvent) : encodeEvents e ≠ [] := by
  cases e <;> simp [encodeEvents, Json.toBytes, Json.render, Json.utf8]

theorem hostResponse_done : hostResponse (.ok .done) = .done := by decide

theorem hostResponse_error_ok (error : String) : (hostResponse (.error error)).ok = false := by
  simp only [hostResponse]
  split <;> rfl

end QuantumLink.RegistryV2
