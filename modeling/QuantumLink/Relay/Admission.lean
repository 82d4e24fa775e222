import QuantumLink.Foundation.FixedWindow
import QuantumLink.Foundation.Shake256
import QuantumLink.Foundation.Table
import QuantumLink.Identity.ClientV2

/-! # Admission to the services

`admission` of `qlink-core`: the service token and its revocation list, the limits of a service
and the rate limit by client address. The token file and the revocation list are read again at
each use, so what a read returns, or its error, is an argument. Time is in nanoseconds.
-/

namespace QuantumLink.Relay

open Device (QlinkError)
open List
open Identity (trim isWhitespace)
open Json (stringBytes)

/-- `Display` of an error. -/
def errorText : QlinkError → String
  | .invalidKey message => "invalid key material: " ++ message
  | .crypto message => "cryptographic operation failed: " ++ message
  | .protocol message => "protocol error: " ++ message
  | .recordExpired => "record expired"
  | .signatureVerification => "signature verification failed"
  | .io message => "io error: " ++ message
  | .json message => "json error: " ++ message

/-! ## Configuration -/

/-- A path, of which only the last component is ever shown. -/
structure TokenPath where
  fileName : Option String

inductive ServiceAuthToken where
  | static (token : String)
  | file (path : TokenPath)

structure RateLimitConfig where
  maxEvents : Nat
  window : Nat

structure ServiceAdmissionConfig where
  authToken : Option ServiceAuthToken
  revokedTokenDigestFile : Option TokenPath
  rateLimit : Option RateLimitConfig

def ServiceAdmissionConfig.unrestricted : ServiceAdmissionConfig := ⟨none, none, none⟩

structure ServiceLimitsConfig where
  maxRequestLineBytes : Nat := 128 * 1024
  maxConcurrentConnections : Nat := 1024
  idleTimeout : Nat := 300 * 1000000000
  relayMaxPayloadBytes : Nat := 64 * 1024
  relayMaxPeerIdBytes : Nat := 256
  relayMaxRegisteredPeers : Nat := 2048
  relayMaxPeerDatagramsPerWindow : Nat := 120
  relayPeerDatagramWindow : Nat := 60 * 1000000000

/-! ## Tokens -/

/-- Compare every byte of the longer text, whatever the first difference. -/
def tokenMatches (expected provided : String) : Bool :=
  let expected := stringBytes expected
  let provided := stringBytes provided
  let maxLen := max expected.length provided.length
  let diff := (List.range maxLen).foldl
    (fun diff index =>
      diff ||| ((expected[index]?.getD 0) ^^^ (provided[index]?.getD 0)).toNat)
    (expected.length ^^^ provided.length)
  diff == 0

def redactPath (path : TokenPath) (err : String) : String :=
  path.fileName.getD "<token-file>" ++ ": " ++ err

def trimSecretFile (secret : String) : String :=
  let ends := fun c => c = '\n' ∨ c = '\r'
  String.ofList
    ((secret.toList.dropWhile (fun c => decide (ends c))).reverse.dropWhile
      (fun c => decide (ends c))).reverse

def validateServiceAuthToken (token : String) : Except QlinkError Unit :=
  let token := trim token
  if token = [] then .error (.protocol "service auth token must not be empty")
  else if "replace-with-".toList.isPrefixOf token then
    .error (.protocol "service auth token still contains a public-edge template placeholder")
  else .ok ()

def serviceTokenRevocationDigest (token : String) : String :=
  "shake256:" ++ Hex.encode (Shake256.hash 32
    (stringBytes "QuantumLink service token revocation digest v1" ++
      bigEndian 8 (stringBytes token).length ++ stringBytes token))

/-- `str::lines`; `line` is what was read of the current one. -/
def linesFrom (line : List Char) : List Char → List (List Char)
  | [] => if line = [] then [] else [line]
  | c :: rest =>
    if c = '\n' then
      (if line.getLast? = some '\r' then line.dropLast else line) :: linesFrom [] rest
    else linesFrom (line ++ [c]) rest

/-- The revocation list names the digest on a line of its own. -/
def listsDigest (revoked digest : String) : Bool :=
  (linesFrom [] revoked.toList).any fun line =>
    let line := trim (String.ofList (line.takeWhile (· ≠ '#')))
    !line.isEmpty && tokenMatches (String.ofList line) digest

namespace ServiceAdmissionConfig

variable (admission : ServiceAdmissionConfig)

variable (tokenFile : Except String String)

def expectedToken : Except QlinkError (Option String) :=
  match admission.authToken with
  | some (.static token) => .ok (some token)
  | some (.file path) =>
    match tokenFile with
    | .error err =>
      .error (.protocol ("service auth token file is unavailable: " ++ redactPath path err))
    | .ok token => do
        validateServiceAuthToken (trimSecretFile token)
        pure (some (trimSecretFile token))
  | none => .ok none

def requireToken (provided : Option String) (service : String) : Except QlinkError Unit := do
  match ← admission.expectedToken tokenFile with
  | none => .ok ()
  | some expected =>
    match provided with
    | some token =>
      if tokenMatches expected token then .ok ()
      else .error (.protocol (service ++ " authentication failed"))
    | none => .error (.protocol (service ++ " authentication failed"))

variable (revocationList : Except String String)

def tokenDigestIsRevoked (digest : Option String) :
    Except QlinkError Bool :=
  match digest, admission.revokedTokenDigestFile with
  | none, _ => .ok false
  | some _, none => .ok false
  | some digest, some path =>
    match revocationList with
    | .error err =>
      .error (.protocol ("service token revocation list is unavailable: " ++ redactPath path err))
    | .ok revoked => .ok (listsDigest revoked digest)

def tokenIsRevoked (provided : Option String) :
    Except QlinkError Bool :=
  match provided with
  | none => .ok false
  | some token =>
    admission.tokenDigestIsRevoked revocationList (some (serviceTokenRevocationDigest token))

end ServiceAdmissionConfig

/-! ## Rate limit by address -/

/-- An address, by the text it is shown as. -/
abbrev IpAddr := String

/-- The buckets of `AdmissionLimiter`. -/
abbrev AdmissionLimiter := Table IpAddr FixedWindow.Bucket

def AdmissionLimiter.check (config : Option RateLimitConfig) (buckets : AdmissionLimiter)
    (now : Nat) (ip : IpAddr) (service : String) : Except QlinkError Unit × AdmissionLimiter :=
  match config with
  | none => (.ok (), buckets)
  | some config =>
    let (passed, bucket) := FixedWindow.check config.maxEvents config.window now (buckets.lookup ip)
    (if passed then .ok ()
      else .error (.protocol (service ++ " rate limit exceeded for " ++ ip)),
      buckets.insert ip bucket)

/-! ## What the list says of a digest -/

theorem foldl_lor_eq_zero_iff {α : Type} (f : α → Nat) (i : List α) :
    i.foldl (fun diff item => diff ||| f item) start = 0 ↔ start = 0 ∧ ∀ item ∈ i, f item = 0 := by
  induction i generalizing start with
  | nil => simp
  | cons item i ih =>
    rw [foldl_cons, ih, Nat.or_eq_zero_iff]
    simp [and_assoc]

theorem tokenMatches_iff : tokenMatches expected provided = true ↔ expected = provided := by
  have hd : tokenMatches expected provided = true ↔
      (stringBytes expected).length = (stringBytes provided).length ∧
        ∀ i < max (stringBytes expected).length (stringBytes provided).length,
          (stringBytes expected)[i]?.getD 0 = (stringBytes provided)[i]?.getD 0 := by
    simp only [tokenMatches, beq_iff_eq, foldl_lor_eq_zero_iff, Nat.xor_eq_zero_iff, mem_range]
    refine and_congr Iff.rfl (forall₂_congr ?_)
    intro i _
    rw [show (0 : Nat) = (0 : UInt8).toNat from rfl, UInt8.toNat_inj, UInt8.xor_eq_zero_iff]
  rw [hd]
  constructor
  · rintro ⟨hl, hb⟩
    apply Json.stringBytes_injective
    apply ext_getElem hl
    intro i hi hi'
    simpa [getElem?_eq_getElem hi, getElem?_eq_getElem hi'] using
      hb i (lt_max_of_lt_left hi)
  · rintro rfl
    exact ⟨rfl, fun i _ => rfl⟩

/-- No letter of a digest ends a line, starts a comment or is trimmed. -/
theorem plain_serviceTokenRevocationDigest (t : String) :
    ∀ c ∈ (serviceTokenRevocationDigest t).toList, c ≠ '\n' ∧ c ≠ '#' ∧ isWhitespace c = false := by
  have hl : ∀ c ∈ "shake256:".toList, c ≠ '\n' ∧ c ≠ '#' ∧ isWhitespace c = false := by
    simp [isWhitespace]
  have hd : ∀ n < 16, Json.hexDigit n ≠ '\n' ∧ Json.hexDigit n ≠ '#' ∧
      isWhitespace (Json.hexDigit n) = false := by decide
  intro c hc
  rw [serviceTokenRevocationDigest, String.toList_append, mem_append] at hc
  rcases hc with hc | hc
  · exact hl c hc
  · rw [Hex.encode, String.toList_ofList, mem_flatMap] at hc
    obtain ⟨b, -, hc⟩ := hc
    have hb : b.toNat < 256 := b.toNat_lt
    simp only [Hex.digits, mem_cons, not_mem_nil, or_false] at hc
    rcases hc with rfl | rfl
    · exact hd _ (by omega)
    · exact hd _ (by omega)

theorem linesFrom_of_no_newline (l text : List Char) (h : '\n' ∉ text)
    (hne : l ++ text ≠ []) : linesFrom l text = [l ++ text] := by
  induction text generalizing l with
  | nil =>
    rw [append_nil] at hne ⊢
    rw [linesFrom, if_neg hne]
  | cons c text ih =>
    have hc : c ≠ '\n' := fun heq => h (by simp [heq])
    have hr : '\n' ∉ text := fun hm => h (by simp [hm])
    rw [linesFrom, if_neg hc, ih (l ++ [c]) hr (by simp)]
    simp

theorem dropWhile_eq_self_of_forall {p : Char → Bool} {text : List Char}
    (h : ∀ c ∈ text, p c = false) : text.dropWhile p = text := by
  cases text with
  | nil => rfl
  | cons c text => rw [dropWhile_cons_of_neg (by simp [h c])]

theorem trim_eq_self {text : List Char} (h : ∀ c ∈ text, isWhitespace c = false) :
    trim (String.ofList text) = text := by
  rw [trim, String.toList_ofList, dropWhile_eq_self_of_forall h,
    dropWhile_eq_self_of_forall (by simpa using h), reverse_reverse]

/-- A list that holds the digest of a token and nothing else revokes the token. -/
theorem listsDigest_self :
    listsDigest (serviceTokenRevocationDigest token) (serviceTokenRevocationDigest token) = true := by
  have hp := plain_serviceTokenRevocationDigest token
  have hne : (serviceTokenRevocationDigest token).toList ≠ [] := by
    simp [serviceTokenRevocationDigest]
  have hl := linesFrom_of_no_newline [] (serviceTokenRevocationDigest token).toList
    (fun hm => (hp _ hm).1 rfl) (by simpa using hne)
  have ho : (serviceTokenRevocationDigest token).toList.takeWhile (· ≠ '#') =
      (serviceTokenRevocationDigest token).toList := by
    rw [takeWhile_eq_self_iff]
    intro c hc
    simpa using (hp c hc).2.1
  have ht := trim_eq_self (fun c hc => (hp c hc).2.2)
  rw [listsDigest, hl]
  simp only [nil_append, any_cons, any_nil, Bool.or_false, ho, ht]
  rw [Bool.and_eq_true, String.ofList_toList, tokenMatches_iff]
  exact ⟨by simpa using hne, rfl⟩

end QuantumLink.Relay
