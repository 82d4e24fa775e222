import QuantumLink.Mesh.Rejection
import QuantumLink.Mesh.TrustStatus

/-! # Which failures are recognised

The code of a failure is found by looking for phrases in the text of the error. Every reason the
registry can have against a peer is followed here into its text and back: the reasons of the first
version are found again, most of those of the stable version are not, because their texts speak of
a stable identity and not of the registry. Where no code is found the manager goes on reporting what
it reported before.
-/

namespace QuantumLink.Mesh

open Device Discovery Identity
open Relay (errorText)
open Rejection Managers

/-- The code that stands for a reason. One without a code of its own is a failed verification. -/
def Rejection.code : Rejection → UInt32
  | .lookup _ => peerTrustFailureRegistryLookup
  | .otherVersion _ => peerTrustFailureRegistryVerification
  | .recordExpired => peerTrustFailureRegistryVerification
  | .required => peerTrustFailureRegistryRequired
  | .revoked => peerTrustFailureRegistryRevoked
  | .suspended => peerTrustFailureRegistrySuspended
  | .expired => peerTrustFailureRegistryExpired
  | .mismatch .peerId => peerTrustFailureRegistryMismatch
  | .mismatch .latestPeerRecordHashHex => peerTrustFailureRegistryRecordHashMismatch
  | .mismatch _ => peerTrustFailureRegistryKeyMismatch
  | .stable .missing => peerTrustFailureRegistryRequired
  | .stable .revoked => peerTrustFailureRegistryRevoked
  | .stable .suspended => peerTrustFailureRegistrySuspended
  | .stable (.authorizationExpired _) => peerTrustFailureRegistryExpired
  | .stable .wrongDevice => peerTrustFailureRegistryKeyMismatch
  | .stable .wrongNodeSigningKey => peerTrustFailureRegistryKeyMismatch
  | .stable _ => peerTrustFailureRegistryVerification

inductive Phrase where
  | required
  | expired
  | revoked
  | suspended
  | notActive
  | lookupFailed
  | unavailable
  | stakeOrReputation
  | stake
  | reputation
  | mismatchOf (field : NodeField)
  | mismatch
  | registry

def Phrase.text : Phrase → String
  | .required => "registry record required by public mesh trust policy"
  | .expired => "registry record has expired"
  | .revoked => "registry record is revoked"
  | .suspended => "registry record is suspended"
  | .notActive => "registry record is not active"
  | .lookupFailed => "identity registry lookup failed"
  | .unavailable => "registry unavailable"
  | .stakeOrReputation => "stake or reputation"
  | .stake => "stake"
  | .reputation => "reputation"
  | .mismatchOf .peerId => "peer_id mismatch"
  | .mismatchOf .devicePublicKeyHashHex => "device_public_key_hash_hex mismatch"
  | .mismatchOf .latestPeerRecordHashHex => "latest_peer_record_hash_hex mismatch"
  | .mismatchOf .pqcBindingHashHex => "pqc_binding_hash_hex mismatch"
  | .mismatchOf .nodeSigningPublicKeyHashHex => "node_signing_public_key_hash_hex mismatch"
  | .mismatchOf .transportPublicKeyHashHex => "transport_public_key_hash_hex mismatch"
  | .mismatch => "mismatch"
  | .registry => "registry"

def Has (message : String) (phrase : Phrase) : Prop := Mentions message phrase.text

instance (message : String) : DecidablePred (Has message) := fun phrase =>
  inferInstanceAs (Decidable (Mentions message phrase.text))

/-- The clauses, over the phrases that are there. -/
def classify (found : Phrase → Prop) [DecidablePred found] : Option UInt32 :=
  if found .required then some peerTrustFailureRegistryRequired
  else if found .expired then some peerTrustFailureRegistryExpired
  else if found .revoked then some peerTrustFailureRegistryRevoked
  else if found .suspended ∨ found .notActive then some peerTrustFailureRegistrySuspended
  else if found .lookupFailed ∨ found .unavailable then some peerTrustFailureRegistryLookup
  else if found .stakeOrReputation ∨ found .stake ∧ found .reputation then
    some peerTrustFailureRegistryStakeOrReputation
  else if found (.mismatchOf .latestPeerRecordHashHex) then
    some peerTrustFailureRegistryRecordHashMismatch
  else if found (.mismatchOf .devicePublicKeyHashHex) ∨ found (.mismatchOf .pqcBindingHashHex) ∨
      found (.mismatchOf .nodeSigningPublicKeyHashHex) ∨
      found (.mismatchOf .transportPublicKeyHashHex) then
    some peerTrustFailureRegistryKeyMismatch
  else if found (.mismatchOf .peerId) ∨ found .registry ∧ found .mismatch then
    some peerTrustFailureRegistryMismatch
  else if found .registry then some peerTrustFailureRegistryVerification
  else none

theorem clause_passed {p : Prop} [Decidable p]
    (h : (if p then some a else next) = result) (hne : some a ≠ result) : ¬ p ∧ next = result := by
  by_cases hp : p
  · rw [if_pos hp] at h
    exact absurd h hne
  · rw [if_neg hp] at h
    exact ⟨hp, h⟩

section
variable {found : Phrase → Prop} [DecidablePred found]

theorem classify_eq_none (h : classify found = none) :
    ¬ (found .stake ∧ found .reputation) ∧ (∀ field, ¬ found (.mismatchOf field)) ∧
      ¬ found .registry := by
  unfold classify at h
  obtain ⟨-, h⟩ := clause_passed h nofun
  obtain ⟨-, h⟩ := clause_passed h nofun
  obtain ⟨-, h⟩ := clause_passed h nofun
  obtain ⟨-, h⟩ := clause_passed h nofun
  obtain ⟨-, h⟩ := clause_passed h nofun
  obtain ⟨hs, h⟩ := clause_passed h nofun
  obtain ⟨hl, h⟩ := clause_passed h nofun
  obtain ⟨hk, h⟩ := clause_passed h nofun
  obtain ⟨hp, h⟩ := clause_passed h nofun
  obtain ⟨hr, -⟩ := clause_passed h nofun
  refine ⟨fun hm => hs (.inr hm), fun field hm => ?_, hr⟩
  cases field with
  | peerId => exact hp (.inl hm)
  | devicePublicKeyHashHex => exact hk (.inl hm)
  | latestPeerRecordHashHex => exact hl hm
  | pqcBindingHashHex => exact hk (.inr (.inl hm))
  | nodeSigningPublicKeyHashHex => exact hk (.inr (.inr (.inl hm)))
  | transportPublicKeyHashHex => exact hk (.inr (.inr (.inr hm)))

/-- The first four clauses are about the state of a registry record. -/
theorem classify_passed (h : classify found = result)
    (hr : some peerTrustFailureRegistryRequired ≠ result)
    (he : some peerTrustFailureRegistryExpired ≠ result)
    (hre : some peerTrustFailureRegistryRevoked ≠ result)
    (hs : some peerTrustFailureRegistrySuspended ≠ result) :
    ¬ (found .required ∨ found .expired ∨ found .revoked ∨ found .suspended ∨ found .notActive) := by
  unfold classify at h
  obtain ⟨hi, h⟩ := clause_passed h hr
  obtain ⟨hse, h⟩ := clause_passed h he
  obtain ⟨ht, h⟩ := clause_passed h hre
  obtain ⟨hf, -⟩ := clause_passed h hs
  exact not_or.mpr ⟨hi, not_or.mpr ⟨hse, not_or.mpr ⟨ht, hf⟩⟩⟩

theorem classify_eq_verification (h : classify found = some peerTrustFailureRegistryVerification) :
    ¬ (found .lookupFailed ∨ found .unavailable) ∧ ¬ (found .stake ∧ found .reputation) ∧
      ¬ found .mismatch ∧ found .registry := by
  unfold classify at h
  obtain ⟨-, h⟩ := clause_passed h (by decide)
  obtain ⟨-, h⟩ := clause_passed h (by decide)
  obtain ⟨-, h⟩ := clause_passed h (by decide)
  obtain ⟨-, h⟩ := clause_passed h (by decide)
  obtain ⟨hl, h⟩ := clause_passed h (by decide)
  obtain ⟨hs, h⟩ := clause_passed h (by decide)
  obtain ⟨-, h⟩ := clause_passed h (by decide)
  obtain ⟨-, h⟩ := clause_passed h (by decide)
  obtain ⟨hi, h⟩ := clause_passed h (by decide)
  have hr : found .registry := by
    by_contra hn
    rw [if_neg hn] at h
    cases h
  exact ⟨hl, fun hm => hs (.inr hm), fun hm => hi (.inr ⟨hr, hm⟩), hr⟩

end

theorem failureCode_eq_classify (message : String) :
    registryFailureCode message = classify (Has message) := rfl

/-- A phrase about the state of a registry record: these are looked for first. -/
def StatesRecord (message : String) : Prop :=
  Has message .required ∨ Has message .expired ∨ Has message .revoked ∨ Has message .suspended ∨
    Has message .notActive

def SpeaksOfStake (message : String) : Prop := Has message .stake ∧ Has message .reputation

/-- Speaks of the registry, and of nothing that has a code of its own. -/
structure Generic (message : String) : Prop where
  registry : Has message .registry
  mismatch : ¬ Has message .mismatch
  stake : ¬ SpeaksOfStake message
  record : ¬ StatesRecord message
  lookup : ¬ (Has message .lookupFailed ∨ Has message .unavailable)

structure Silent (message : String) : Prop where
  registry : ¬ Has message .registry
  stake : ¬ SpeaksOfStake message
  field : ∀ field, ¬ Has message (.mismatchOf field)

/-- The reason is found again in the text of its error. Texts of others that the error passes on
(of the lookup, or of the library that parses addresses) must not have a phrase themselves. -/
def Rejection.Recognised : Rejection → Prop
  | .lookup error => ¬ StatesRecord (errorText error)
  | .recordExpired => False
  | .stable (.invalidRecord message) | .stable (.invalidPeerRecordTtl message)
  | .stable (.invalidPeerRecord message) | .stable (.walletAuthorization message) =>
    Generic message
  | .stable (.peerRecordTtlExceeded _ _) | .stable .wrongMeshScope => True
  | .stable _ => False
  | _ => True

/-- No code at all is found in the text of the error. -/
def Rejection.Unrecognised : Rejection → Prop
  | .recordExpired => True
  | .stable (.invalidRecord message) | .stable (.invalidPeerRecordTtl message)
  | .stable (.invalidPeerRecord message) | .stable (.walletAuthorization message) =>
    Silent message
  | .stable (.peerRecordTtlExceeded _ _) | .stable .wrongMeshScope => False
  | .stable _ => True
  | _ => False

section
variable {message opening rest : String}

theorem has_mismatch (h : Has message (.mismatchOf field)) : Has message .mismatch := by
  refine h.trans ?_
  cases field <;> exact mentions_ofList.mpr (by decide)

theorem speaksOfStake (h : Has message .stakeOrReputation) : SpeaksOfStake message :=
  ⟨h.trans (mentions_ofList.mpr (by decide)), h.trans (mentions_ofList.mpr (by decide))⟩

theorem has_registry_of_statesRecord (h : StatesRecord message) : Has message .registry := by
  rcases h with h | h | h | h | h <;> exact h.trans (mentions_ofList.mpr (by decide))

theorem has_registry_of_lookup (h : Has message .lookupFailed ∨ Has message .unavailable) :
    Has message .registry := by
  rcases h with h | h <;> exact h.trans (mentions_ofList.mpr (by decide))

section

variable (hreco : ¬ StatesRecord message)
  (hlo : ¬ (Has message .lookupFailed ∨ Has message .unavailable))
  (hst : ¬ SpeaksOfStake message)
include hreco hlo hst

/-- The clauses that are left where the state of the record, the lookup and stake are not spoken
of. -/
theorem failureCode_of_unstated : registryFailureCode message =
      if Has message (.mismatchOf .latestPeerRecordHashHex) then
        some peerTrustFailureRegistryRecordHashMismatch
      else if Has message (.mismatchOf .devicePublicKeyHashHex) ∨
          Has message (.mismatchOf .pqcBindingHashHex) ∨
          Has message (.mismatchOf .nodeSigningPublicKeyHashHex) ∨
          Has message (.mismatchOf .transportPublicKeyHashHex) then
        some peerTrustFailureRegistryKeyMismatch
      else if Has message (.mismatchOf .peerId) ∨ Has message .registry ∧ Has message .mismatch then
        some peerTrustFailureRegistryMismatch
      else if Has message .registry then some peerTrustFailureRegistryVerification
      else none := by
  rw [StatesRecord, not_or, not_or, not_or, not_or] at hreco
  obtain ⟨hr, he, hre, hs, hn⟩ := hreco
  have hs' :
      ¬ (Has message .stakeOrReputation ∨ Has message .stake ∧ Has message .reputation) := by
    rintro (h | h)
    · exact hst (speaksOfStake h)
    · exact hst h
  rw [failureCode_eq_classify, classify, if_neg hr, if_neg he,
    if_neg hre, if_neg (not_or.mpr ⟨hs, hn⟩), if_neg hlo, if_neg hs']

theorem failureCode_of_plain (hf : ∀ field, ¬ Has message (.mismatchOf field)) :
    registryFailureCode message =
      if Has message .registry ∧ Has message .mismatch then some peerTrustFailureRegistryMismatch
      else if Has message .registry then some peerTrustFailureRegistryVerification
      else none := by
  rw [failureCode_of_unstated hreco hlo hst]
  simp [hf]
end

theorem failureCode_eq_none_iff : registryFailureCode message = none ↔ Silent message := by
  constructor
  · intro h
    rw [failureCode_eq_classify] at h
    obtain ⟨hs, hf, hr⟩ := classify_eq_none h
    exact ⟨hr, hs, hf⟩
  · intro h
    rw [failureCode_of_plain (fun hm => h.registry (has_registry_of_statesRecord hm))
      (fun hm => h.registry (has_registry_of_lookup hm)) h.stake h.field,
      if_neg (fun hm => h.registry hm.1), if_neg h.registry]

theorem failureCode_eq_verification_iff :
    registryFailureCode message = some peerTrustFailureRegistryVerification ↔ Generic message := by
  constructor
  · intro h
    rw [failureCode_eq_classify] at h
    obtain ⟨hl, hs, hi, hr⟩ := classify_eq_verification h
    exact ⟨hr, hi, hs, classify_passed h (by decide) (by decide) (by decide) (by decide), hl⟩
  · intro h
    rw [failureCode_of_plain h.record h.lookup h.stake
      (fun f hm => h.mismatch (has_mismatch hm)), if_neg (fun hm => h.mismatch hm.2),
      if_pos h.registry]

/-- The phrases about the state of a record are looked for before the one about the lookup. -/
theorem failureCode_eq_lookup_iff (hlo : Has message .lookupFailed) :
    registryFailureCode message = some peerTrustFailureRegistryLookup ↔ ¬ StatesRecord message := by
  constructor
  · intro h
    rw [failureCode_eq_classify] at h
    exact classify_passed h (by decide) (by decide) (by decide) (by decide)
  · intro hc
    rw [StatesRecord, not_or, not_or, not_or, not_or] at hc
    obtain ⟨hr, he, hre, hs, hn⟩ := hc
    rw [failureCode_eq_classify, classify, if_neg hr, if_neg he,
      if_neg hre, if_neg (not_or.mpr ⟨hs, hn⟩), if_pos (.inl hlo)]

theorem Phrase.bare (p : Phrase) : Bare p.text := by
  cases p with
  | mismatchOf f => cases f <;> exact bare_ofList (by decide)
  | _ => exact bare_ofList (by decide)

/-- Without the words that every phrase has one of. -/
structure Wordless (text : String) : Prop where
  registry : ¬ Has text .registry
  stake : ¬ Has text .stake
  reputation : ¬ Has text .reputation
  mismatch : ¬ Has text .mismatch

theorem Wordless.silent (h : Wordless message) : Silent message where
  registry := h.registry
  stake hm := h.stake hm.1
  field _ hm := h.mismatch (has_mismatch hm)

theorem Wordless.not_has (h : Wordless message) (phrase : Phrase) : ¬ Has message phrase := by
  intro hm
  cases phrase with
  | required | expired | revoked | suspended | notActive | lookupFailed | unavailable =>
    exact h.registry (hm.trans (mentions_ofList.mpr (by decide)))
  | stakeOrReputation => exact h.stake (speaksOfStake hm).1
  | stake => exact h.stake hm
  | reputation => exact h.reputation hm
  | mismatchOf f => exact h.mismatch (has_mismatch hm)
  | mismatch => exact h.mismatch hm
  | registry => exact h.registry hm

def words : List (List Char) :=
  [['r', 'e', 'g', 'i', 's', 't', 'r', 'y'], ['s', 't', 'a', 'k', 'e'],
    ['r', 'e', 'p', 'u', 't', 'a', 't', 'i', 'o', 'n'], ['m', 'i', 's', 'm', 'a', 't', 'c', 'h']]

theorem wordless_ofList (h : ∀ word ∈ words, ¬ word <:+: m) : Wordless (String.ofList m) where
  registry hm := h _ (by simp [words]) (mentions_ofList.mp hm)
  stake hm := h _ (by simp [words]) (mentions_ofList.mp hm)
  reputation hm := h _ (by simp [words]) (mentions_ofList.mp hm)
  mismatch hm := h _ (by simp [words]) (mentions_ofList.mp hm)

theorem failureCode_append (hc : Colon opening) (h : Wordless opening) :
    registryFailureCode (opening ++ rest) = registryFailureCode rest := by
  have ha : Has (opening ++ rest) = Has rest := by
    funext phrase
    rw [Has, mentions_append_iff hc phrase.bare]
    exact propext (or_iff_right (h.not_has phrase))
  rw [failureCode_eq_classify, failureCode_eq_classify]
  simp [ha]

theorem failureCode_ofList_append (hc : [':', ' '] <:+ o)
    (h : ∀ word ∈ words, ¬ word <:+: o) (rest : String) :
    registryFailureCode (String.ofList o ++ rest) = registryFailureCode rest :=
  failureCode_append (colon_ofList hc) (wordless_ofList h)

theorem Wordless.of_withoutDigits (h : Wordless (withoutDigits message)) : Wordless message where
  registry hm := h.registry (hm.withoutDigits (withoutDigits_ofList (by decide)))
  stake hm := h.stake (hm.withoutDigits (withoutDigits_ofList (by decide)))
  reputation hm := h.reputation (hm.withoutDigits (withoutDigits_ofList (by decide)))
  mismatch hm := h.mismatch (hm.withoutDigits (withoutDigits_ofList (by decide)))

/-- A text that speaks of the registry, but not of its record or of the lookup. -/
structure Plain (message : String) : Prop where
  mismatch : ¬ Has message .mismatch
  stake : ¬ Has message .stake
  record : ¬ Mentions message "registry record"
  lookup : ¬ Mentions message "registry lookup"
  unavailable : ¬ Mentions message "unavailable"

theorem Plain.generic (h : Plain message) (hr : Has message .registry) : Generic message where
  registry := hr
  mismatch := h.mismatch
  stake hm := h.stake hm.1
  record hm := by
    rcases hm with hm | hm | hm | hm | hm <;>
      exact h.record (hm.trans (mentions_ofList.mpr (by decide)))
  lookup hm := by
    rcases hm with hm | hm
    · exact h.lookup (hm.trans (mentions_ofList.mpr (by decide)))
    · exact h.unavailable (hm.trans (mentions_ofList.mpr (by decide)))

theorem Plain.of_withoutDigits (h : Plain (withoutDigits message)) : Plain message where
  mismatch hm := h.mismatch (hm.withoutDigits (withoutDigits_ofList (by decide)))
  stake hm := h.stake (hm.withoutDigits (withoutDigits_ofList (by decide)))
  record hm := h.record (hm.withoutDigits (withoutDigits_ofList (by decide)))
  lookup hm := h.lookup (hm.withoutDigits (withoutDigits_ofList (by decide)))
  unavailable hm := h.unavailable (hm.withoutDigits (withoutDigits_ofList (by decide)))

theorem plain_ofList
    (h : ¬ ['m', 'i', 's', 'm', 'a', 't', 'c', 'h'] <:+: m ∧ ¬ ['s', 't', 'a', 'k', 'e'] <:+: m ∧
      ¬ ['r', 'e', 'g', 'i', 's', 't', 'r', 'y', ' ', 'r', 'e', 'c', 'o', 'r', 'd'] <:+: m ∧
      ¬ ['r', 'e', 'g', 'i', 's', 't', 'r', 'y', ' ', 'l', 'o', 'o', 'k', 'u', 'p'] <:+: m ∧
      ¬ ['u', 'n', 'a', 'v', 'a', 'i', 'l', 'a', 'b', 'l', 'e'] <:+: m) :
    Plain (String.ofList m) where
  mismatch hm := h.1 (mentions_ofList.mp hm)
  stake hm := h.2.1 (mentions_ofList.mp hm)
  record hm := h.2.2.1 (mentions_ofList.mp hm)
  lookup hm := h.2.2.2.1 (mentions_ofList.mp hm)
  unavailable hm := h.2.2.2.2 (mentions_ofList.mp hm)

end

/-! ## From the reason to the code and back -/

def Rejection.text (reason : Rejection) : String := errorText reason.error

theorem failureCode_protocol (message : String) :
    registryFailureCode (errorText (.protocol message)) = registryFailureCode message :=
  failureCode_ofList_append (by decide) (by decide) message

theorem recordExpired_wordless : Wordless recordExpired.text :=
  wordless_ofList (by decide)

theorem failureCode_stable (error : StableIdentityV2Error) :
    registryFailureCode (stable error).text = registryFailureCode error.text :=
  (failureCode_protocol _).trans
    (failureCode_ofList_append (by decide) (by decide) error.text)

theorem failureCode_lookup (error : QlinkError) : registryFailureCode (lookup error).text =
      registryFailureCode ("identity registry lookup failed: " ++ errorText error) :=
  failureCode_protocol _

theorem has_lookupFailed (t : String) :
    Has ("identity registry lookup failed: " ++ t) .lookupFailed :=
  mentions_append_left (mentions_ofList.mpr (by decide)) t

theorem statesRecord_lookup_iff (text : String) :
    StatesRecord ("identity registry lookup failed: " ++ text) ↔ StatesRecord text := by
  have ho : ¬ Mentions "identity registry lookup failed: " "registry record" :=
    mt mentions_ofList.mp (by decide)
  have ha (phrase : Phrase) (hreco : Mentions phrase.text "registry record") :
      Has ("identity registry lookup failed: " ++ text) phrase ↔ Has text phrase := by
    rw [Has, mentions_append_iff (colon_ofList (by decide)) phrase.bare]
    exact or_iff_right fun h => ho (h.trans hreco)
  unfold StatesRecord
  rw [ha .required (mentions_ofList.mpr (by decide)),
    ha .expired (mentions_ofList.mpr (by decide)),
    ha .revoked (mentions_ofList.mpr (by decide)),
    ha .suspended (mentions_ofList.mpr (by decide)),
    ha .notActive (mentions_ofList.mpr (by decide))]

theorem lookup_code_iff {error : QlinkError} :
    registryFailureCode (lookup error).text = some peerTrustFailureRegistryLookup ↔
      ¬ StatesRecord (errorText error) := by
  rw [failureCode_lookup, failureCode_eq_lookup_iff (has_lookupFailed _), statesRecord_lookup_iff]

/-- A text of another that a stable identity error passes on. -/
def passedOn : StableIdentityV2Error → Option String
  | .invalidRecord message | .invalidPeerRecordTtl message | .invalidPeerRecord message
  | .walletAuthorization message => some message
  | _ => none

theorem failureCode_passedOn {error : StableIdentityV2Error} (h : passedOn error = some message) :
    registryFailureCode error.text = registryFailureCode message := by
  cases error with
  | invalidRecord _ | invalidPeerRecordTtl _ | invalidPeerRecord _ | walletAuthorization _ =>
    cases h
    exact failureCode_ofList_append (by decide) (by decide) _
  | _ => cases h

theorem wordless_ofList_append_toString {o : List Char} (hp : o.all (fun c => !c.isDigit) = true)
    (h : ∀ word ∈ words, ¬ word <:+: o) (n : Nat) : Wordless (String.ofList o ++ toString n) := by
  apply Wordless.of_withoutDigits
  rw [withoutDigits_append, withoutDigits_toString, String.append_empty, withoutDigits_ofList hp]
  exact wordless_ofList h

theorem generic_peerRecordTtlExceeded (ac ma : UInt64) :
    Generic (StableIdentityV2Error.peerRecordTtlExceeded ac ma).text := by
  change Generic ("peer record TTL " ++ toString ac.toNat ++
    "s exceeds registry maximum " ++ toString ma.toNat ++ "s")
  apply Plain.generic
  · apply Plain.of_withoutDigits
    simp only [withoutDigits_append, withoutDigits_toString, String.append_empty]
    rw [withoutDigits_ofList (by decide), withoutDigits_ofList (by decide),
      withoutDigits_ofList (by decide), ← String.ofList_append, ← String.ofList_append]
    exact plain_ofList (by decide)
  · rw [String.append_assoc, String.append_assoc, String.append_assoc]
    apply mentions_append_right
    apply mentions_append_right
    exact mentions_append_left (mentions_ofList.mpr (by decide)) _

section

variable {error : StableIdentityV2Error} (how : passedOn error = none)
  (hsc : error ≠ .wrongMeshScope) (htt : ∀ a m, error ≠ .peerRecordTtlExceeded a m)
include how hsc htt

/-- Of the texts of the stable version without a text of another, all but two say nothing. -/
theorem wordless_stable : Wordless error.text := by
  cases error with
  | unsupportedSchemaVersion _ | authorizationExpired _ =>
    exact wordless_ofList_append_toString (by decide) (by decide) _
  | missing | revoked | suspended | wrongDevice | wrongNodeSigningKey | missingSignedIssuedAt =>
    exact wordless_ofList (by decide +kernel)
  | wrongMeshScope => exact absurd rfl hsc
  | peerRecordTtlExceeded a m => exact absurd rfl (htt a m)
  | invalidRecord _ | invalidPeerRecordTtl _ | invalidPeerRecord _ | walletAuthorization _ =>
    cases how

theorem stable_none : registryFailureCode error.text = none :=
  failureCode_eq_none_iff.mpr (wordless_stable how hsc htt).silent
end

theorem generic_wrongMeshScope : Generic StableIdentityV2Error.wrongMeshScope.text :=
  (plain_ofList (by decide +kernel)).generic (mentions_ofList.mpr (by decide +kernel))

theorem otherVersion_code (as : DytallixRegistryBindingVersion) :
    registryFailureCode (otherVersion as).text = some peerTrustFailureRegistryVerification := by
  cases as <;>
  · refine (failureCode_protocol _).trans (failureCode_eq_verification_iff.mpr ?_)
    exact (plain_ofList (by decide +kernel)).generic (mentions_ofList.mpr (by decide +kernel))

theorem required_code :
    registryFailureCode required.text = some peerTrustFailureRegistryRequired := by
  refine (failureCode_protocol _).trans (if_pos ?_)
  exact mentions_ofList.mpr (by decide)

theorem expired_code : registryFailureCode expired.text = some peerTrustFailureRegistryExpired := by
  refine (failureCode_protocol _).trans ((if_neg ?_).trans (if_pos ?_))
  · exact mt mentions_ofList.mp (by decide)
  · exact mentions_ofList.mpr (by decide)

theorem revoked_code : registryFailureCode revoked.text = some peerTrustFailureRegistryRevoked := by
  refine (failureCode_protocol _).trans
    ((if_neg ?_).trans ((if_neg ?_).trans (if_pos ?_)))
  · exact mt mentions_ofList.mp (by decide)
  · exact mt mentions_ofList.mp (by decide)
  · exact mentions_ofList.mpr (by decide)

theorem suspended_code :
    registryFailureCode suspended.text = some peerTrustFailureRegistrySuspended := by
  refine (failureCode_protocol _).trans
    ((if_neg ?_).trans ((if_neg ?_).trans ((if_neg ?_).trans (if_pos (.inl ?_)))))
  · exact mt mentions_ofList.mp (by decide)
  · exact mt mentions_ofList.mp (by decide)
  · exact mt mentions_ofList.mp (by decide)
  · exact mentions_ofList.mpr (by decide)

theorem mismatch_text (f : NodeField) : f.name ++ " mismatch" = (Phrase.mismatchOf f).text := by
  cases f <;> exact String.ofList_append.symm

theorem has_mismatchOf_iff :
    Has (Phrase.mismatchOf field).text (.mismatchOf other) ↔ other = field := by
  cases field <;> cases other <;>
    first
      | exact iff_of_true (mentions_ofList.mpr (by decide)) rfl
      | exact iff_of_false (mt mentions_ofList.mp (by decide)) nofun

theorem mismatch_code (f : NodeField) :
    registryFailureCode (mismatch f).text = some (mismatch f).code := by
  have hr : ¬ Has (Phrase.mismatchOf f).text .registry := by
    cases f <;> exact mt mentions_ofList.mp (by decide)
  have hst : ¬ Has (Phrase.mismatchOf f).text .stake := by
    cases f <;> exact mt mentions_ofList.mp (by decide)
  refine (failureCode_protocol _).trans ?_
  rw [mismatch_text, failureCode_of_unstated (fun h => hr (has_registry_of_statesRecord h))
    (fun h => hr (has_registry_of_lookup h)) (fun h => hst h.1)]
  simp only [has_mismatchOf_iff, hr, false_and, or_false]
  cases f <;> rfl

theorem code_iff_recognised (reason : Rejection) :
    registryFailureCode reason.text = some reason.code ↔ reason.Recognised := by
  cases reason with
  | lookup error => exact lookup_code_iff
  | otherVersion as => exact iff_of_true (otherVersion_code as) trivial
  | recordExpired =>
    rw [failureCode_eq_none_iff.mpr recordExpired_wordless.silent]
    exact iff_of_false nofun id
  | required => exact iff_of_true required_code trivial
  | expired => exact iff_of_true expired_code trivial
  | revoked => exact iff_of_true revoked_code trivial
  | suspended => exact iff_of_true suspended_code trivial
  | mismatch f => exact iff_of_true (mismatch_code f) trivial
  | stable error =>
    rw [failureCode_stable]
    cases error with
    | invalidRecord _ | invalidPeerRecordTtl _ | invalidPeerRecord _ | walletAuthorization _ =>
      rw [failureCode_passedOn rfl]
      exact failureCode_eq_verification_iff
    | peerRecordTtlExceeded a m =>
      exact iff_of_true (failureCode_eq_verification_iff.mpr
        (generic_peerRecordTtlExceeded a m)) trivial
    | wrongMeshScope =>
      exact iff_of_true (failureCode_eq_verification_iff.mpr generic_wrongMeshScope)
        trivial
    | _ =>
      refine iff_of_false (ne_of_eq_of_ne (stable_none ?_ ?_ ?_) nofun) id
      all_goals first | rfl | nofun

theorem none_iff_unrecognised (reason : Rejection) :
    registryFailureCode reason.text = none ↔ reason.Unrecognised := by
  have hr {reason : Rejection} (h : reason.Recognised) :
      registryFailureCode reason.text ≠ none := by
    rw [(code_iff_recognised reason).mpr h]
    exact nofun
  cases reason with
  | lookup error =>
    refine iff_of_false ?_ id
    rw [failureCode_lookup, failureCode_eq_none_iff]
    exact fun h => h.registry (has_registry_of_lookup (.inl (has_lookupFailed _)))
  | recordExpired =>
    exact iff_of_true (failureCode_eq_none_iff.mpr recordExpired_wordless.silent) trivial
  | otherVersion _ | required | expired | revoked | suspended | mismatch _ =>
    exact iff_of_false (hr trivial) id
  | stable error =>
    cases error with
    | invalidRecord _ | invalidPeerRecordTtl _ | invalidPeerRecord _ | walletAuthorization _ =>
      rw [failureCode_stable, failureCode_passedOn rfl]
      exact failureCode_eq_none_iff
    | peerRecordTtlExceeded _ _ | wrongMeshScope => exact iff_of_false (hr trivial) id
    | _ =>
      rw [failureCode_stable]
      refine iff_of_true (stable_none ?_ ?_ ?_) trivial
      all_goals first | rfl | nofun

/-! ## What the manager reports after the registry stopped it -/

variable {σ : Type} [PeerStore σ]

/-- **Registry failures are reported.** An attempt the registry stops fails with the text of the
reason; afterwards the manager reports the code of the reason exactly if the reason is recognised,
or if nothing is found in the text and the code was what it reported already. -/
theorem registry_failure_reported_iff (crates : ClientCrates) (config : MeshConnectorConfig)
    (store : σ) (history : List Attempt) (attempt : Attempt) (reason : Rejection)
    (h : Rejected crates config
      (run (connect crates config) (start store) history).store attempt.call
      reason) :
    (connect crates config
        (run (connect crates config) (start store) history) attempt).1 =
      .error reason.error ∧
    ((connect crates config
        (run (connect crates config) (start store) history) attempt).2.Reports
          attempt.remotePeerId reason.code ↔
      reason.Recognised ∨ reason.Unrecognised ∧
        (run (connect crates config) (start store) history).Reports
          attempt.remotePeerId reason.code) := by
  generalize run (connect crates config) (start store) history = managers at *
  have hf := h.perform_eq
  constructor
  · simp only [connect, hf]
    rfl
  · rw [connect_of_error hf, failed_reports_iff]
    exact or_congr (code_iff_recognised reason) (and_congr_left' (none_iff_unrecognised reason))

def sampleNode (status : RegistryNodeStatus) : RegistryNodeRecord where
  peerId := samplePeer
  ownerDaddr := "dytallix1owner"
  devicePublicKeyHashHex := devicePublicKeyHashHex bindingCrates sampleDevice.publicKey
  pqcBindingHashHex := pqcBindingHashHex bindingCrates "dytallix1owner" (sampleRecord 1 100 1)
  nodeSigningPublicKeyHashHex := nodeSigningPublicKeyHashHex bindingCrates (sampleRecord 1 100 1)
  transportPublicKeyHashHex := transportPublicKeyHashHex bindingCrates (sampleRecord 1 100 1)
  latestPeerRecordHashHex := latestPeerRecordHashHex bindingCrates (sampleRecord 1 100 1)
  status := status
  expiresAt := none

def publicConfigFor (version : DytallixRegistryBindingVersion) : MeshConnectorConfig :=
  ⟨"devmesh", none, .publicRequired, some version⟩

def sampleAttempt (registry : RegistryIdentityLookupRecord) : Attempt :=
  ⟨samplePeer, .ok (some (sampleRecord 1 100 1)), .ok (some registry), ⟨2, 3, 4, ⟨5, 6⟩⟩, .ok (),
    7, 8⟩

section
variable {version : DytallixRegistryBindingVersion} {registry : RegistryIdentityLookupRecord}
  {reason : Rejection}

theorem sampleAttempt_offered (s : σ) :
    Offered bindingCrates (publicConfigFor version) s (sampleAttempt registry).call
      (sampleRecord 1 100 1) :=
  .inl ⟨rfl, fun h => absurd h (by simp [Attempt.call])⟩

theorem sampleAttempt_rejected (s : σ)
    (hr : lookupRejection bindingCrates (sampleRecord 1 100 1) (some registry) version
      .publicRequired ⟨5, 6⟩ = some reason) :
    Rejected bindingCrates (publicConfigFor version) s (sampleAttempt registry).call reason where
  acl := rfl
  record := ⟨sampleRecord 1 100 1, sampleAttempt_offered s,
    sampleRecord_verified 1 (by decide) (by decide : (4 : UInt64) < 100), hr⟩

theorem sampleAttempt_accepted (ma : Managers σ)
    (ho : LookupBound bindingCrates (sampleRecord 1 100 1) version ⟨5, 6⟩ registry) :
    ((ma.connect bindingCrates (publicConfigFor version) (sampleAttempt registry)).2.peerTrust
        samplePeer).decisionCode = peerTrustDecisionAccepted ∧
      (ma.connect bindingCrates (publicConfigFor version)
        (sampleAttempt registry)).2.blockedPeerHistory = ma.blockedPeerHistory := by
  have hr : verifyTrust bindingCrates (publicConfigFor version) (sampleRecord 1 100 1)
      (sampleAttempt registry).call = .ok .accepted :=
    verifyTrust_eq_ok_iff.mpr
      ⟨sampleRecord_verified 1 (by decide) (by decide : (4 : UInt64) < 100), some registry, rfl,
        verifyRegistryLookupBinding_some_eq_ok_iff.mpr ⟨ho, rfl⟩⟩
  obtain ⟨s, hp⟩ := perform_eq_ok_iff.mpr ⟨rfl, sampleAttempt_offered ma.store, hr⟩
  obtain ⟨ht, hb⟩ := connect_of_ok hp rfl
  refine ⟨?_, hb⟩
  rw [ht]
  simp [sampleAttempt, PeerTrustStatusRaw.fromRegistryDecision, registryDecisionCode]

end

theorem sampleNode_bound :
    NodeBound bindingCrates (sampleRecord 1 100 1) (sampleNode .active) ⟨5, 6⟩ where
  peer := samplePeer_eq.symm
  live := (by decide : (5 : UInt64) < 100)
  signature := sampleDevice_verify _
  active := rfl
  unexpired := nofun
  peerId := rfl
  deviceKey := rfl
  latestRecord := rfl
  binding := rfl
  signingKey := rfl
  transport := rfl

theorem revokedNode_rejection : lookupRejection bindingCrates (sampleRecord 1 100 1)
      (some (.exactPeerRecordV1 (sampleNode .revoked))) .exactPeerRecordV1 .publicRequired ⟨5, 6⟩ =
      some .revoked := by
  have hl : ¬ (sampleRecord 1 100 1).body.expiresAtUnix ≤ 5 := (by decide : ¬ (100 : UInt64) ≤ 5)
  simp [lookupRejection, nodeRejection, if_neg hl, sampleNode]

def attemptedOnce (version : DytallixRegistryBindingVersion)
    (registry : RegistryIdentityLookupRecord) : Managers PeerStore.InMemoryPeerStore :=
  run (connect bindingCrates (publicConfigFor version))
    (start PeerStore.InMemoryPeerStore.new) [sampleAttempt registry]

theorem attemptedOnce_eq (version : DytallixRegistryBindingVersion)
    (registry : RegistryIdentityLookupRecord) :
    attemptedOnce version registry = ((start PeerStore.InMemoryPeerStore.new).connect bindingCrates
        (publicConfigFor version) (sampleAttempt registry)).2 :=
  run_one _ _ _

theorem attemptedOnce_accepted
    (hb : LookupBound bindingCrates (sampleRecord 1 100 1) version ⟨5, 6⟩ registry) :
    ((attemptedOnce version registry).peerTrust samplePeer).decisionCode =
        peerTrustDecisionAccepted ∧
      (attemptedOnce version registry).blockedPeerHistory = ∅ := by
  rw [attemptedOnce_eq]
  exact sampleAttempt_accepted (start PeerStore.InMemoryPeerStore.new) hb

/-- The first version: a device that was accepted and is revoked since is reported as revoked. -/
theorem revoked_node_reported :
    ((attemptedOnce .exactPeerRecordV1 (.exactPeerRecordV1 (sampleNode .active))).peerTrust
        samplePeer).decisionCode = peerTrustDecisionAccepted ∧
      ((attemptedOnce .exactPeerRecordV1 (.exactPeerRecordV1 (sampleNode .active))).connect
        bindingCrates (publicConfigFor .exactPeerRecordV1)
        (sampleAttempt (.exactPeerRecordV1 (sampleNode .revoked)))).2.Reports samplePeer
        peerTrustFailureRegistryRevoked := by
  have hb : LookupBound bindingCrates (sampleRecord 1 100 1) .exactPeerRecordV1 ⟨5, 6⟩
      (.exactPeerRecordV1 (sampleNode .active)) := ⟨rfl, sampleNode_bound⟩
  obtain ⟨ha, -⟩ := attemptedOnce_accepted hb
  have hr := registry_failure_reported_iff bindingCrates
    (publicConfigFor .exactPeerRecordV1) PeerStore.InMemoryPeerStore.new
    [sampleAttempt (.exactPeerRecordV1 (sampleNode .active))]
    (sampleAttempt (.exactPeerRecordV1 (sampleNode .revoked))) .revoked
    (sampleAttempt_rejected _ revokedNode_rejection)
  exact ⟨ha, hr.2.mpr (Or.inl trivial)⟩

def revokedBinding : RegistryIdentityRecordV2 :=
  deviceRecord bindingCrates sampleDevice.publicKey { bindingPolicy with status := .revoked }

theorem revokedBinding_rejection :
    lookupRejection bindingCrates (sampleRecord 1 100 1) (some (.stableIdentityV2 revokedBinding))
      .stableIdentityV2 .publicRequired ⟨5, 6⟩ = some (.stable .revoked) := by
  rw [lookupRejection]
  apply stableRejection_of_revoked
  · exact verifyPeerRecordSignature_eq_ok_iff.mpr
      ⟨(by decide : (5 : UInt64) < 100), samplePeer_eq.symm, sampleDevice_verify _⟩
  · exact validate_eq_ok_iff.mpr
      (deviceRecord_valid Sha256.length_hash rfl (by decide) nofun (by decide) nofun)
  · rfl

/-- The stable version: a device that was accepted and is revoked since goes on being reported as
accepted, and is not in the history of blocked peers. -/
theorem revoked_identity_unreported : Rejected bindingCrates (publicConfigFor .stableIdentityV2)
        (attemptedOnce .stableIdentityV2 (.stableIdentityV2 sampleBinding)).store
        (sampleAttempt (.stableIdentityV2 revokedBinding)).call (.stable .revoked) ∧
      (((attemptedOnce .stableIdentityV2 (.stableIdentityV2 sampleBinding)).connect bindingCrates
        (publicConfigFor .stableIdentityV2)
        (sampleAttempt (.stableIdentityV2 revokedBinding))).2.peerTrust samplePeer).decisionCode =
          peerTrustDecisionAccepted ∧
      ((attemptedOnce .stableIdentityV2 (.stableIdentityV2 sampleBinding)).connect bindingCrates
        (publicConfigFor .stableIdentityV2)
        (sampleAttempt (.stableIdentityV2 revokedBinding))).2.blockedPeerHistory.lookup
          (samplePeer, .outbound) = none := by
  have ho : LookupBound bindingCrates (sampleRecord 1 100 1) .stableIdentityV2 ⟨5, 6⟩
      (.stableIdentityV2 sampleBinding) :=
    ⟨rfl, sampleBinding_bound 1 (by decide) (by decide : (5 : UInt64) < 100),
      (by decide : (1 : UInt64).toNat < (100 : UInt64).toNat),
      (by decide : (100 : UInt64).toNat ≤ (1 : UInt64).toNat + (300 : UInt64).toNat)⟩
  obtain ⟨ha, hh⟩ := attemptedOnce_accepted ho
  have hs : registryFailureCode (errorText (stable .revoked).error) = none :=
    (none_iff_unrecognised (.stable .revoked)).mpr trivial
  have hr : Rejected bindingCrates (publicConfigFor .stableIdentityV2)
      (attemptedOnce .stableIdentityV2 (.stableIdentityV2 sampleBinding)).store
      (sampleAttempt (.stableIdentityV2 revokedBinding)).call (.stable .revoked) :=
    sampleAttempt_rejected _ revokedBinding_rejection
  refine ⟨hr, ?_⟩
  obtain ⟨ht, hb⟩ := connect_of_silent hr.perform_eq hs
  rw [ht, hb, hh]
  exact ⟨ha, Finmap.lookup_empty _⟩

end QuantumLink.Mesh
