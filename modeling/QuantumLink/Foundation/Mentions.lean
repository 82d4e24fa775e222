import Mathlib

/-! # Phrases in a text

A program that reads an error back from its text looks for phrases in it. Where the text is a fixed
opening followed by something unknown, a phrase may lie in the opening, in the rest, or across the
seam. An opening that ends with a colon has no phrase across its seam, unless the phrase has a
colon itself or starts with a blank. Numbers inside a text are dealt with by taking the digits out.
-/

namespace QuantumLink

open List String

variable {message phrase part opening rest : String}

/-- `message.contains(phrase)`. -/
def Mentions (message phrase : String) : Prop := phrase.toList <:+: message.toList

instance (message phrase : String) : Decidable (Mentions message phrase) :=
  inferInstanceAs (Decidable (phrase.toList <:+: message.toList))

theorem mentions_ofList {m p : List Char} : Mentions (ofList m) (ofList p) ↔ p <:+: m := by
  rw [Mentions, toList_ofList, toList_ofList]

theorem Mentions.trans (h : Mentions message phrase) (hp : Mentions phrase part) :
    Mentions message part :=
  List.IsInfix.trans hp h

theorem mentions_append_left (h : Mentions opening phrase) (rest : String) :
    Mentions (opening ++ rest) phrase := by
  unfold Mentions at *
  rw [toList_append]
  exact h.trans (prefix_append _ _).isInfix

theorem mentions_append_right (opening : String) (h : Mentions rest phrase) :
    Mentions (opening ++ rest) phrase := by
  unfold Mentions at *
  rw [toList_append]
  exact h.trans (suffix_append _ _).isInfix

/-- Ends with a colon and a blank. -/
def Colon (opening : String) : Prop := [':', ' '] <:+ opening.toList

/-- Has no colon and does not start with a blank. -/
def Bare (phrase : String) : Prop := ':' ∉ phrase.toList ∧ phrase.toList.head? ≠ some ' '

theorem colon_ofList {o : List Char} (h : [':', ' '] <:+ o) : Colon (ofList o) := by
  rwa [Colon, toList_ofList]

theorem bare_ofList {p : List Char} (h : ':' ∉ p ∧ p.head? ≠ some ' ') : Bare (ofList p) := by
  rwa [Bare, toList_ofList]

theorem start_eq_nil {o p s t : List Char} (hc : [':', ' '] <:+ o) (ha : ':' ∉ p)
    (hb : p.head? ≠ some ' ') (hp : p = s ++ t) (ht : s <:+ o) : s = [] := by
  cases s with
  | nil => rfl
  | cons c s =>
    rcases suffix_or_suffix_of_suffix hc ht with hl | hs
    · have hm : ':' ∈ p := by
        rw [hp]
        exact mem_append_left _ (hl.subset (by simp))
      exact absurd hm ha
    · -- The start is the blank alone, or all of the colon and the blank.
      rw [suffix_cons_iff] at hs
      rcases hs with heq | hs
      · have hm : ':' ∈ p := by
          rw [hp, heq]
          simp
        exact absurd hm ha
      · rw [suffix_cons_iff] at hs
        rcases hs with heq | hn
        · rw [hp, heq] at hb
          exact absurd rfl hb
        · exact suffix_nil.mp hn

theorem mentions_append_iff (hc : Colon opening) (hb : Bare phrase) :
    Mentions (opening ++ rest) phrase ↔ Mentions opening phrase ∨ Mentions rest phrase := by
  unfold Mentions
  rw [toList_append, infix_append_iff]
  constructor
  · rintro (ho | hr | ⟨s, t, hp, hs, ht⟩)
    · exact .inl ho
    · exact .inr hr
    · rw [hp, start_eq_nil hc hb.1 hb.2 hp hs, nil_append]
      exact .inr ht.isInfix
  · rintro (ho | hr)
    · exact .inl ho
    · exact .inr (.inl hr)

/-! ## Numbers in a text -/

def withoutDigits (message : String) : String :=
  String.ofList (message.toList.filter fun c => !c.isDigit)

@[simp] theorem withoutDigits_append (opening rest : String) :
    withoutDigits (opening ++ rest) = withoutDigits opening ++ withoutDigits rest := by
  simp [withoutDigits]

@[simp] theorem withoutDigits_toString (n : Nat) : withoutDigits (toString n) = "" := by
  have hd : ∀ c ∈ Nat.toDigits 10 n, c.isDigit = true :=
    fun c hc => Nat.isDigit_of_mem_toDigits (by decide) (by decide) hc
  simpa [withoutDigits] using hd

theorem withoutDigits_ofList {m : List Char} (h : m.all (fun c => !c.isDigit) = true) :
    withoutDigits (ofList m) = ofList m := by
  rw [withoutDigits, toList_ofList, filter_eq_self.mpr (all_eq_true.mp h)]

theorem Mentions.withoutDigits (h : Mentions message phrase)
    (hp : withoutDigits phrase = phrase) : Mentions (withoutDigits message) phrase := by
  have hf := List.IsInfix.filter (fun c : Char => !c.isDigit) h
  rw [← hp]
  simpa only [Mentions, QuantumLink.withoutDigits, toList_ofList] using hf

end QuantumLink
