import Mathlib

/-! # Journals of a versioned, owned, closable entity

A journal lists what happened to one entity: it is opened once, changed by its
one owner with versions counted from one, and at most once closed for good. The
reading of an entry is a parameter, so any event type can be read as a journal.
-/

namespace QuantumLink

open List

variable {ε ω : Type}

/-- How the entries of a journal are read. -/
structure JournalReading (ε ω : Type) where
  version : ε → Nat
  owner : ε → ω
  opens : ε → Prop
  closes : ε → Prop

namespace Journal

variable {R : JournalReading ε ω}

/-- `entry` may come next after `log`. -/
structure Extends (R : JournalReading ε ω) (log : List ε) (entry : ε) : Prop where
  version : R.version entry = log.length + 1
  opens : R.opens entry ↔ log = []
  owner : ∀ e ∈ log, R.owner e = R.owner entry
  live : ∀ e ∈ log, ¬ R.closes e

/-- A journal grown from nothing, one admissible entry at a time. -/
inductive WellFormed (R : JournalReading ε ω) : List ε → Prop where
  | nil : WellFormed R []
  | snoc {log : List ε} {entry : ε} : WellFormed R log → Extends R log entry →
      WellFormed R (log ++ [entry])

theorem WellFormed.versions (h : WellFormed R log) : log.map R.version = range' 1 log.length := by
  induction h with
  | nil => rfl
  | @snoc log e _ hn ih =>
    rw [map_append, ih, length_append, length_singleton, range'_concat, map_singleton, hn.version]
    congr 2
    omega

theorem WellFormed.opens_iff (h : WellFormed R log) (he : log[i]? = some e) : R.opens e ↔ i = 0 := by
  induction h with
  | nil => simp at he
  | @snoc log en _ hn ih =>
    by_cases hi : i < log.length
    · rw [getElem?_append_left hi] at he
      exact ih he
    · rw [getElem?_append_right (by omega)] at he
      have hl : i = log.length := by
        by_contra hne
        rw [getElem?_eq_none (by simp; omega)] at he
        simp at he
      subst hl
      simp only [Nat.sub_self, getElem?_cons_zero, Option.some.injEq] at he
      rw [← he, hn.opens, length_eq_zero_iff]

theorem WellFormed.closes_last (h : WellFormed R log)
    (hl : log = front ++ e :: back) (hc : R.closes e) : back = [] := by
  cases h with
  | nil => simp at hl
  | @snoc log en _ hn =>
    rcases eq_nil_or_concat back with hb | ⟨back, l, rfl⟩
    · exact hb
    · have hi : log = front ++ e :: back := by
        have hu : log ++ [en] = (front ++ e :: back) ++ [l] := by
          rw [hl, append_assoc, cons_append, concat_eq_append]
        exact (append_inj' hu rfl).1
      exact absurd hc (hn.live e (by simp [hi]))

end Journal

end QuantumLink
