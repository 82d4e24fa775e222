import QuantumLink.Discovery.Record
import QuantumLink.Foundation.KeyOrder

/-! # Candidates in order

How the endpoints of a peer are ranked: the arithmetic of candidate pairs, and the order in which
the direct candidates are tried. The addresses of the standard library and the reader of their
texts are parameters.
-/

namespace QuantumLink.Mesh

open Discovery List

/-- A sum in `width` bits. Where it overflows a debug build panics and a release build wraps. -/
def checkedSum (width sum : Nat) : Option Nat := if sum < 2 ^ width then some sum else none

def pairPriority (controlling controlled : UInt32) : Option Nat :=
  let g := controlling.toNat
  let d := controlled.toNat
  let min := if g < d then g else d
  let max := if g > d then g else d
  let tiebreaker := if g > d then 1 else 0
  checkedSum 64 (min * 2 ^ 32 + 2 * max + tiebreaker)

def typeBonus : CandidateType → CandidateType → Nat
  | .host, .host => 30
  | .host, .serverReflexive | .serverReflexive, .host | .serverReflexive, .serverReflexive => 15
  | _, _ => 0

def pairScore (ours theirs : CandidateEndpoint) : Option Nat :=
  checkedSum 32 (min ours.priority.toNat theirs.priority.toNat +
    typeBonus ours.candidateType theirs.candidateType)

/-- First by the smaller, then by the larger priority. -/
def Below (g d g' d' : Nat) : Prop :=
  min g d < min g' d' ∨ min g d = min g' d' ∧ max g d < max g' d'

/-- The smaller priorities are next to each other, and the larger ones so far apart that they
weigh more. -/
def Crossed (g d g' d' : Nat) : Prop :=
  min g' d' = min g d + 1 ∧ (max g' d' + 2 ^ 31 < max g d ∨
    max g' d' + 2 ^ 31 = max g d ∧ ¬ (g ≤ d ∧ d' < g'))

/-- **Pair ranking.** The priority of a pair overflows where both priorities are `u32::MAX`, the
score where the bonus does not fit, and a pair that ranks below another has the smaller priority
unless the two are crossed. -/
theorem pair_ranking_iff (g d g' d' : UInt32) (ours theirs : CandidateEndpoint) :
    (pairPriority g d ≠ none ↔ ¬ (g = .ofNat (2 ^ 32 - 1) ∧ d = .ofNat (2 ^ 32 - 1))) ∧
      (pairScore ours theirs ≠ none ↔ min ours.priority.toNat theirs.priority.toNat <
          2 ^ 32 - typeBonus ours.candidateType theirs.candidateType) ∧
      (Below g.toNat d.toNat g'.toNat d'.toNat → ∀ p ∈ pairPriority g d, ∀ q ∈ pairPriority g' d',
          (p < q ↔ ¬ Crossed g.toNat d.toNat g'.toNat d'.toNat)) := by
  have hg := g.toNat_lt
  have hd := d.toNat_lt
  refine ⟨?_, ?_, ?_⟩
  · rw [← UInt32.toNat_inj, ← UInt32.toNat_inj]
    simp only [pairPriority, checkedSum]
    split_ifs <;> simp <;> omega
  · have hb : typeBonus ours.candidateType theirs.candidateType ≤ 30 := by
      unfold typeBonus
      split <;> simp
    simp only [pairScore, checkedSum]
    split_ifs <;> simp <;> omega
  · intro hb p hp q hq
    have hg' := g'.toNat_lt
    have hd' := d'.toNat_lt
    simp only [pairPriority, checkedSum, Option.mem_def, Option.ite_some_none_eq_some] at hp hq
    unfold Below at hb
    unfold Crossed
    rw [← hp.2, ← hq.2]
    split_ifs <;> omega

/-- The best pair overflows, and a pair with the smaller minimum has the larger priority. -/
theorem pairs_overflow_and_cross : pairPriority 4294967295 4294967295 = none ∧
      pairScore ⟨.host, "192.0.2.1", 4242, 4294967295⟩ ⟨.host, "192.0.2.2", 4242, 4294967295⟩ =
        none ∧
      Below 4294967295 0 1 1 ∧ pairPriority 4294967295 0 = some 8589934591 ∧
      pairPriority 1 1 = some 4294967298 :=
  ⟨by decide, by decide, .inl (by decide), by decide, by decide⟩

/-! ## Direct candidates -/

structure SocketAddr (Ip : Type) where
  ip : Ip
  port : UInt16

def directCandidateRank : CandidateType → Nat
  | .host => 0
  | .serverReflexive => 1
  | .relay => 2
  | .quantumLinkRelay => 3

variable (candidate : CandidateEndpoint)

def isDirect : Bool :=
  match candidate.candidateType with
  | .host | .serverReflexive | .relay => true
  | .quantumLinkRelay => false

/-- What `sort_by` compares: the rank, then the priority the other way round. -/
def directKey : Nat ×ₗ Natᵒᵈ :=
  toLex (directCandidateRank candidate.candidateType, OrderDual.toDual candidate.priority.toNat)

variable {Ip : Type} [DecidableEq Ip] (parse : String → Option Ip)

def candidateMatchesAddr (candidate : CandidateEndpoint) (addr : SocketAddr Ip) : Bool :=
  decide (parse candidate.address = some addr.ip ∧ candidate.port = addr.port)

variable (endpoints : List CandidateEndpoint)

variable (cachedAddr : Option (SocketAddr Ip))

def orderDirectCandidates : List CandidateEndpoint :=
  let direct := (endpoints.filter isDirect).mergeSort fun a b => decide (directKey a ≤ directKey b)
  match cachedAddr with
  | none => direct
  | some target =>
    match direct.findIdx? (candidateMatchesAddr parse · target) with
    | none => direct
    | some position => direct[position]?.toList ++ direct.eraseIdx position

/-- **Direct candidates.** They are the host, server reflexive and relay endpoints, by rank and
falling priority with ties in input order, except that the first one in this order which matches
the cached address stands in front. -/
theorem direct_candidates_ordered : ∃ sorted : List CandidateEndpoint,
      sorted.Pairwise (fun a b => directKey a ≤ directKey b) ∧
      (∀ key, sorted.filter (directKey · = key) =
        (endpoints.filter isDirect).filter (directKey · = key)) ∧
      sorted.Perm (endpoints.filter isDirect) ∧
      (orderDirectCandidates parse endpoints cachedAddr).Perm (endpoints.filter isDirect) ∧
      ((∀ target ∈ cachedAddr, ∀ candidate ∈ sorted,
            candidateMatchesAddr parse candidate target = false) ∧
          orderDirectCandidates parse endpoints cachedAddr = sorted ∨
        ∃ target ∈ cachedAddr, ∃ before candidate after, sorted = before ++ candidate :: after ∧
          candidateMatchesAddr parse candidate target = true ∧
          (∀ other ∈ before, candidateMatchesAddr parse other target = false) ∧
          orderDirectCandidates parse endpoints cachedAddr = candidate :: (before ++ after)) := by
  have hp := mergeSort_perm (endpoints.filter isDirect) fun a b => decide (directKey a ≤ directKey b)
  refine ⟨_, pairwise_mergeSort_key directKey _, filter_mergeSort_key directKey _, hp, ?_⟩
  unfold orderDirectCandidates
  simp only
  generalize (endpoints.filter isDirect).mergeSort _ = sorted at hp ⊢
  cases cachedAddr with
  | none => exact ⟨hp, .inl ⟨by simp, rfl⟩⟩
  | some target =>
    cases hf : sorted.findIdx? (candidateMatchesAddr parse · target) with
    | none =>
      simp only [hf]
      exact ⟨hp, .inl ⟨by simpa using hf, trivial⟩⟩
    | some position =>
      obtain ⟨hi, hm, hn⟩ := findIdx?_eq_some_iff_getElem.mp hf
      have he : sorted = sorted.take position ++ sorted[position] :: sorted.drop (position + 1) := by
        simp
      simp only [hf, getElem?_eq_getElem hi, Option.toList_some, singleton_append,
        eraseIdx_eq_take_drop_succ]
      refine ⟨(perm_middle.symm.trans (.of_eq he.symm)).trans hp,
        .inr ⟨target, rfl, _, _, _, he, hm, ?_, rfl⟩⟩
      intro other ho
      obtain ⟨j, hj, rfl⟩ := getElem_of_mem ho
      rw [length_take, lt_inf_iff] at hj
      simpa using hn j hj.1

end QuantumLink.Mesh
