import QuantumLink.Foundation.Json.Lines
import QuantumLink.Relay.Admission

/-! # Relay messages

The messages between the relay and its clients, one JSON object on a line each, and how the
relay reads a line: byte by byte, up to a size limit, with an idle timeout.
-/

namespace QuantumLink.Relay

open Device (QlinkError)
open List
open Json (stringBytes)

structure Datagram where
  source : String
  destination : String
  payloadBase64 : String

inductive RelayMessage where
  | register (peerId : String) (authToken : Option String)
  | registered (peerId : String)
  | datagram (datagram : Datagram)
  | error (message : String)

namespace RelayMessage

/-! ## Writing -/

def toJson : RelayMessage → Json
  | .register peerId none => .obj [("type", .str "register"), ("peer_id", .str peerId)]
  | .register peerId (some authToken) =>
    .obj [("type", .str "register"), ("peer_id", .str peerId), ("auth_token", .str authToken)]
  | .registered peerId => .obj [("type", .str "registered"), ("peer_id", .str peerId)]
  | .datagram d =>
    .obj [("type", .str "datagram"), ("source", .str d.source),
      ("destination", .str d.destination), ("payload_base64", .str d.payloadBase64)]
  | .error message => .obj [("type", .str "error"), ("message", .str message)]

def toLine (message : RelayMessage) : Bytes := message.toJson.toBytes ++ [10]

/-! ## Reading -/

/-- The fields of a tagged variant: the members of an object, or the items after the tag, where
the last ones may be missing from `atLeast` on. -/
def variantFields (names : List String) (atLeast : Nat) : Json → Option (List (Option Json))
  | .arr (_ :: items) =>
    if atLeast ≤ items.length ∧ items.length ≤ names.length then
      some (items.map some ++ List.replicate (names.length - items.length) none)
    else none
  | .obj members => Json.openFields names (.obj members)
  | _ => none

def tag : Json → Option String
  | .arr (.str name :: _) => some name
  | .obj members =>
    if ((members.map Prod.fst).filter fun name => decide (name = "type")).length = 1 then
      (members.lookup "type").bind Json.asString
    else none
  | _ => none

def ofJson (value : Json) : Option RelayMessage := do
  let name ← tag value
  if name = "register" then
    match variantFields ["peer_id", "auth_token"] 1 value with
    | some [peerId, authToken] => do
        pure (.register (← Json.required Json.asString peerId)
          (← Json.optional Json.asString authToken))
    | _ => none
  else if name = "registered" then
    match variantFields ["peer_id"] 1 value with
    | some [peerId] => do pure (.registered (← Json.required Json.asString peerId))
    | _ => none
  else if name = "datagram" then
    match variantFields ["source", "destination", "payload_base64"] 3 value with
    | some [source, destination, payload] => do
        pure (.datagram {
          source := ← Json.required Json.asString source
          destination := ← Json.required Json.asString destination
          payloadBase64 := ← Json.required Json.asString payload })
    | _ => none
  else if name = "error" then
    match variantFields ["message"] 1 value with
    | some [message] => do pure (.error (← Json.required Json.asString message))
    | _ => none
  else none

/-- `from_slice`. -/
def ofSlice (bytes : Bytes) : Option RelayMessage := (Json.ofBytes bytes).bind ofJson

/-- `from_slice` with an error; its text is the other crate's. -/
def fromSlice (bytes : Bytes) : Except String RelayMessage :=
  match ofSlice bytes with
  | some message => .ok message
  | none => .error "malformed relay message"

theorem ofSlice_toJson (message : RelayMessage) : ofSlice message.toJson.toBytes = some message := by
  rw [ofSlice, Json.ofBytes_toBytes, Option.bind_some]
  rcases message with ⟨p, _ | a⟩ | p | ⟨s, d, pa⟩ | message <;>
    simp [ofJson, toJson, tag, variantFields, Json.openFields, Json.required, Json.optional,
      Json.asString, lookup]

end RelayMessage

/-! ## Lines -/

def trimLine (line : Bytes) : Bytes :=
  let line := if line.getLast? = some 10 then line.dropLast else line
  if line.getLast? = some 13 then line.dropLast else line

/-- One read of a byte from a client's stream. -/
inductive Read where
  | byte (byte : UInt8)
  | closed
  | failed (error : String)
  /-- Nothing came for the idle timeout. -/
  | idle

/-- `read_bounded_line` on the next reads: the line it returns, `none` at the end of the stream,
or its error, and the reads after it. Nothing is returned while the reads are not enough. -/
def readBoundedLine (limits : ServiceLimitsConfig) (service : String) (line : Bytes) :
    List Read → Option (Except QlinkError (Option Bytes) × List Read)
  | [] => none
  | .failed error :: rest => some (.error (.io error), rest)
  | .idle :: rest =>
    if limits.idleTimeout = 0 then none
    else some (.error (.protocol (service ++ " idle timeout exceeded")), rest)
  | .closed :: rest => some (.ok (if line.isEmpty then none else some line), rest)
  | .byte byte :: rest =>
    if limits.maxRequestLineBytes < (line ++ [byte]).length then
      some (.error (.protocol (service ++ " request line exceeds " ++
        toString limits.maxRequestLineBytes ++ " bytes")), rest)
    else if byte = 10 then some (.ok (some (line ++ [byte])), rest)
    else readBoundedLine limits service (line ++ [byte]) rest

open RelayMessage

theorem readBoundedLine_line (li : ServiceLimitsConfig) (s : String)
    (l bytes : Bytes) (r : List Read) (hl : (10 : UInt8) ∉ bytes)
    (hf : l.length + bytes.length + 1 ≤ li.maxRequestLineBytes) :
    readBoundedLine li s l ((bytes ++ [10]).map Read.byte ++ r) =
      some (.ok (some (l ++ (bytes ++ [10]))), r) := by
  induction bytes generalizing l with
  | nil =>
    simp only [length_nil] at hf
    simp only [nil_append, map_cons, map_nil, cons_append]
    rw [readBoundedLine, if_neg (by simp; omega), if_pos rfl]
  | cons byte bytes ih =>
    have hb : byte ≠ 10 := fun heq => hl (by simp [heq])
    have hr : (10 : UInt8) ∉ bytes := fun hm => hl (by simp [hm])
    simp only [length_cons] at hf
    simp only [cons_append, map_cons]
    rw [readBoundedLine, if_neg (by simp; omega), if_neg hb, ih (l ++ [byte]) hr]
    · simp
    · simp only [length_append, length_singleton]
      omega

variable (message : RelayMessage)

def RelayMessage.reads : List Read := message.toLine.map Read.byte

theorem RelayMessage.readBoundedLine_reads {l : ServiceLimitsConfig} {m : RelayMessage}
    (s : String) (hf : m.toLine.length ≤ l.maxRequestLineBytes) :
    readBoundedLine l s [] m.reads = some (.ok (some m.toLine), []) := by
  have hl := readBoundedLine_line l s [] m.toJson.toBytes []
    (Json.newline_not_mem_toBytes _) (by simpa [toLine] using hf)
  simpa [reads, toLine] using hl

theorem RelayMessage.trimLine_toLine (m : RelayMessage) : trimLine m.toLine = m.toJson.toBytes := by
  have hl : m.toJson.toBytes.getLast? ≠ some 13 := by
    intro hl
    exact absurd (Json.printable_toBytes _ 13 (mem_of_getLast? hl)) (by decide)
  simp [trimLine, toLine, hl]

theorem RelayMessage.fromSlice_toLine :
    fromSlice (trimLine message.toLine) = .ok message := by
  rw [trimLine_toLine, fromSlice, ofSlice_toJson]

theorem RelayMessage.toLine_injective : Function.Injective toLine := by
  intro m o h
  have hb : m.toJson.toBytes = o.toJson.toBytes := append_cancel_right h
  have hr := ofSlice_toJson m
  rw [hb, ofSlice_toJson o] at hr
  exact (Option.some.inj hr).symm

/-! ## Payloads -/

variable (payloadBase64 : String)

/-- A string has at most `isize::MAX` bytes, so no saturating operation saturates. -/
def decodedPayloadLenUpperBound : Nat :=
  let bytes := stringBytes payloadBase64
  let padding := min (bytes.reverse.takeWhile (· = 61)).length 2
  (bytes.length + 3) / 4 * 3 - padding

def encodedPayloadExceedsLimit (maxPayloadBytes : Nat) : Bool :=
  decide (maxPayloadBytes < decodedPayloadLenUpperBound payloadBase64)

end QuantumLink.Relay
