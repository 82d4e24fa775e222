import Mathlib

/-! # Chains of filter rules

The rules of a base chain are tried in order. A rule that matches drops the packet, accepts it,
leaves the chain, or changes the packet and lets the next rule have it. A packet that leaves the
chain or passes its end takes the chain's policy.
-/

namespace QuantumLink

inductive Verdict where
  | accept
  | drop

inductive FilterAction (π : Type) where
  | drop
  | accept
  | leave
  | rewrite (change : π → π)

structure FilterRule (π : Type) where
  applies : π → Bool
  action : FilterAction π

variable {π : Type}

/-- The verdict on a packet and the packet as the chain leaves it. -/
def evaluate (policy : Verdict) : List (FilterRule π) → π → Verdict × π
  | [], packet => (policy, packet)
  | rule :: rules, packet =>
    if rule.applies packet then
      match rule.action with
      | .drop => (.drop, packet)
      | .accept => (.accept, packet)
      | .leave => (policy, packet)
      | .rewrite change => evaluate policy rules (change packet)
    else evaluate policy rules packet

theorem evaluate_cons_of_not_applies {r : FilterRule π} (h : r.applies packet = false) :
    evaluate policy (r :: rules) packet = evaluate policy rules packet := by
  rw [evaluate, h]
  rfl

theorem evaluate_append_of_not_applies {p : Verdict} {f b : List (FilterRule π)}
    {packet : π} (h : ∀ rule ∈ f, rule.applies packet = false) :
    evaluate p (f ++ b) packet = evaluate p b packet := by
  induction f with
  | nil => rfl
  | cons rule f ih =>
    rw [List.cons_append, evaluate_cons_of_not_applies (h rule (by simp))]
    exact ih fun o ho => h o (by simp [ho])

/-- A packet that one of the leading rules lets leave takes the policy, if all of them do that. -/
theorem evaluate_append_of_leave {po : Verdict} {f b : List (FilterRule π)} {p : π}
    (hl : ∀ rule ∈ f, rule.action = .leave)
    (h : ∃ rule ∈ f, rule.applies p = true) :
    evaluate po (f ++ b) p = (po, p) := by
  induction f with
  | nil => simp at h
  | cons rule f ih =>
    rw [List.cons_append, evaluate]
    by_cases hr : rule.applies p = true
    · rw [if_pos hr, hl rule (by simp)]
    · rw [if_neg hr]
      apply ih
      · exact fun o ho => hl o (by simp [ho])
      · obtain ⟨o, ho, ha⟩ := h
        rcases List.mem_cons.mp ho with rfl | ht
        · exact absurd ha hr
        · exact ⟨o, ht, ha⟩

end QuantumLink
