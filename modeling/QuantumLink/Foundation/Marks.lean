import Mathlib

/-! # Streams of openings and closings

A stream marks keys as opened and closed. Who reads it holds the keys that were opened and not
closed since. In an ordered stream no key is opened after it was closed.
-/

namespace QuantumLink

open List

inductive Mark (κ : Type) where
  | opened (key : κ)
  | closed (key : κ)
deriving DecidableEq

namespace Mark

variable {κ : Type} {marks : List (Mark κ)} {key : κ}

/-- No key is opened after it was closed. -/
def Ordered (marks : List (Mark κ)) : Prop :=
  ∀ front back key, marks = front ++ .closed key :: back → .opened key ∉ back

/-- A split of a stream that grew by one mark splits the old stream, or is at the end. -/
theorem concat_eq_append_cons {marks fr b : List (Mark κ)} (h : marks ++ [last] = fr ++ mark :: b) :
    (fr = marks ∧ mark = last ∧ b = []) ∨
      ∃ rest, b = rest ++ [last] ∧ marks = fr ++ mark :: rest := by
  rcases eq_nil_or_concat b with rfl | ⟨rest, f, rfl⟩
  · obtain ⟨hf, hl⟩ := append_inj' h rfl
    exact .inl ⟨hf.symm, (cons.inj hl).1.symm, rfl⟩
  · have hs : marks ++ [last] = (fr ++ mark :: rest) ++ [f] := by simpa using h
    obtain ⟨hf, hl⟩ := append_inj' hs rfl
    obtain rfl := (cons.inj hl).1
    exact .inr ⟨rest, by simp, hf⟩

theorem Ordered.of_append (h : Ordered (front ++ back)) : Ordered front := by
  rintro b a key rfl ho
  exact h b (a ++ back) key (by simp) (mem_append_left _ ho)

theorem not_ordered_of_mem (hc : .closed key ∈ front)
    (ho : .opened key ∈ back) : ¬ Ordered (front ++ back) := by
  intro h
  obtain ⟨b, a, rfl⟩ := append_of_mem hc
  exact h b (a ++ back) key (by simp) (mem_append_right _ ho)

theorem ordered_concat (h : Ordered marks)
    (hl : ∀ key, last = .opened key → .closed key ∉ marks) : Ordered (marks ++ [last]) := by
  intro f b key hs ho
  rcases concat_eq_append_cons hs with ⟨_, _, rfl⟩ | ⟨r, rfl, hm⟩
  · simp at ho
  · rcases mem_append.mp ho with hr | hf
    · exact h f r key hm hr
    · have heq : last = .opened key := (mem_singleton.mp hf).symm
      exact hl key heq (by simp [hm])

variable [DecidableEq κ]

/-- What one mark does to the keys held. -/
def fold (keys : Finset κ) : Mark κ → Finset κ
  | .opened key => insert key keys
  | .closed key => keys.erase key

def held (marks : List (Mark κ)) : Finset κ := marks.foldl fold ∅

theorem held_concat (marks : List (Mark κ)) (last : Mark κ) :
    held (marks ++ [last]) = fold (held marks) last := by
  simp [held]

theorem mem_held_iff :
    key ∈ held marks ↔ ∃ front back, marks = front ++ .opened key :: back ∧ .closed key ∉ back := by
  induction marks using reverseRecOn with
  | nil => simp [held]
  | append_singleton marks l ih =>
    rw [held_concat]
    constructor
    · intro he
      cases l with
      | opened other =>
        rcases Finset.mem_insert.mp he with rfl | ho
        · exact ⟨marks, [], rfl, by simp⟩
        · obtain ⟨front, back, rfl, hb⟩ := ih.mp ho
          exact ⟨front, back ++ [.opened other], by simp, by simpa using hb⟩
      | closed other =>
        obtain ⟨hne, ho⟩ := Finset.mem_erase.mp he
        obtain ⟨front, back, rfl, hb⟩ := ih.mp ho
        exact ⟨front, back ++ [.closed other], by simp, by simp [hb, hne]⟩
    · rintro ⟨front, back, hs, hb⟩
      rcases concat_eq_append_cons hs with ⟨_, hl, _⟩ | ⟨r, rfl, hm⟩
      · rw [← hl]
        exact Finset.mem_insert_self key _
      · rw [mem_append, not_or] at hb
        have ho : key ∈ held marks := ih.mpr ⟨front, r, hm, hb.1⟩
        cases l with
        | opened other => exact Finset.mem_insert_of_mem ho
        | closed other =>
          have hne : key ≠ other := fun heq => hb.2 (by simp [heq])
          exact Finset.mem_erase.mpr ⟨hne, ho⟩

theorem opened_mem_of_mem_held (h : key ∈ held marks) : .opened key ∈ marks := by
  obtain ⟨f, b, rfl, _⟩ := mem_held_iff.mp h
  simp

theorem mem_held_of_mem (ho : .opened key ∈ marks) (hc : .closed key ∉ marks) :
    key ∈ held marks := by
  obtain ⟨f, b, rfl⟩ := append_of_mem ho
  refine mem_held_iff.mpr ⟨f, b, rfl, fun hm => hc ?_⟩
  simp [hm]

theorem mem_held_append (h : key ∈ held marks)
    (hm : .closed key ∉ more) : key ∈ held (marks ++ more) := by
  obtain ⟨f, b, rfl, hb⟩ := mem_held_iff.mp h
  exact mem_held_iff.mpr ⟨f, b ++ more, by simp, by simp [hb, hm]⟩

theorem closed_after_opened (h : key ∉ held marks)
    (hs : marks = front ++ .opened key :: back) : .closed key ∈ back := by
  by_contra hb
  exact h (mem_held_iff.mpr ⟨front, back, hs, hb⟩)

end Mark

end QuantumLink
