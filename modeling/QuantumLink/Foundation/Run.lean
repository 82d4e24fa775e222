import Mathlib

/-! # Runs of a deterministic machine

A machine takes one input at a time, answers it and moves to the next state.
Properties of whole runs are stated by cutting the input list: the state before
an input is the state its prefix leads to. The invariant, monotonicity and
simulation rules below are the only inductions over runs the models need.
-/

namespace QuantumLink

open List

variable {σ τ ι ο ο' : Type}

/-- The state after feeding `inputs` to `step`, answers forgotten. -/
def run (step : σ → ι → ο × σ) (s : σ) (inputs : List ι) : σ :=
  inputs.foldl (fun s i => (step s i).2) s

section

variable (step : σ → ι → ο × σ) (s : σ)

@[simp] theorem run_nil : run step s [] = s := rfl

@[simp] theorem run_cons (i : ι) (inputs : List ι) :
    run step s (i :: inputs) = run step (step s i).2 inputs := rfl

theorem run_one (i : ι) : run step s [i] = (step s i).2 := rfl

theorem run_append (f back : List ι) : run step s (f ++ back) = run step (run step s f) back := by
  simp [run]

theorem run_concat (inp : List ι) (i : ι) :
    run step s (inp ++ [i]) = (step (run step s inp) i).2 := by
  simp [run_append]
end

/-- Each input of a run with the answer it got. -/
def trace (step : σ → ι → ο × σ) : σ → List ι → List (ι × ο)
  | _, [] => []
  | s, i :: inputs => (i, (step s i).1) :: trace step (step s i).2 inputs

theorem trace_append (step : σ → ι → ο × σ) (s : σ) (front back : List ι) :
    trace step s (front ++ back) = trace step s front ++ trace step (run step s front) back := by
  induction front generalizing s with
  | nil => rfl
  | cons i front ih => simp [trace, ih]

/-- What the steps of a run let one note, in order. -/
def observed {β : Type} (step : σ → ι → ο × σ) (note : σ → ι → Option β) : σ → List ι → List β
  | _, [] => []
  | s, i :: inputs => (note s i).toList ++ observed step note (step s i).2 inputs

theorem observed_concat {β : Type} (step : σ → ι → ο × σ) (n : σ → ι → Option β) (s : σ)
    (inp : List ι) (i : ι) :
    observed step n s (inp ++ [i]) = observed step n s inp ++ (n (run step s inp) i).toList := by
  induction inp generalizing s with
  | nil => simp [observed]
  | cons j inp ih => simp [observed, ih]

theorem observed_eq_filterMap {β : Type} (step : σ → ι → ο × σ) (note : ι → Option β) (s : σ)
    (inp : List ι) : observed step (fun _ => note) s inp = inp.filterMap note := by
  induction inp generalizing s with
  | nil => rfl
  | cons i inp ih =>
    rw [observed, ih]
    cases h : note i <;> simp [h]

section

variable {κ : Type} {step : σ → ι → ο × σ} (part : σ → τ) {use : σ → ι → Option κ}
  {apply : τ → κ → ο' × τ}
  (hs : ∀ s i, part (step s i).2 = (use s i).elim (part s) fun u => (apply (part s) u).2)

include hs

/-- A part of the state that changes by its uses alone is where its own run over them leads. -/
theorem part_run (s : σ) (inp : List ι) :
    part (run step s inp) = run apply (part s) (observed step use s inp) := by
  induction inp generalizing s with
  | nil => rfl
  | cons i inp ih =>
    rw [run_cons, ih, hs, observed]
    cases use s i <;> rfl

theorem observed_part {β : Type} (n : τ → κ → Option β) (s : σ) (inp : List ι) :
    observed step (fun s i => (use s i).bind (n (part s))) s inp =
      observed apply n (part s) (observed step use s inp) := by
  induction inp generalizing s with
  | nil => rfl
  | cons i inp ih =>
    rw [observed, ih, hs, observed]
    cases use s i <;> rfl

end

/-- What goes into a queue comes out in order, but for what is still in it. -/
theorem observed_queue {α : Type} {step : σ → ι → ο × σ} (queue : σ → List α)
    {enter leave : σ → ι → Option α}
    (h : ∀ s i, queue s ++ (enter s i).toList = (leave s i).toList ++ queue (step s i).2)
    (s : σ) (inputs : List ι) :
    queue s ++ observed step enter s inputs =
      observed step leave s inputs ++ queue (run step s inputs) := by
  induction inputs generalizing s with
  | nil => simp [observed]
  | cons i inputs ih =>
    rw [observed, observed, run_cons, append_assoc, ← ih, ← append_assoc, h, append_assoc]

theorem length_observed_le {β : Type} (step : σ → ι → ο × σ) (n : σ → ι → Option β) (s : σ)
    (inp : List ι) : (observed step n s inp).length ≤ inp.length := by
  induction inp generalizing s with
  | nil => exact le_refl _
  | cons i inp ih =>
    have ho : (n s i).toList.length ≤ 1 := by cases n s i <;> simp
    have hr := ih (step s i).2
    simp only [observed, length_append, length_cons]
    omega

/-- A machine that keeps a record beside its state. -/
def withRecord {γ : Type} (step : σ → ι → ο × σ) (record : σ → ι → γ → γ) (s : σ × γ) (i : ι) :
    ο × (σ × γ) :=
  ((step s.1 i).1, (step s.1 i).2, record s.1 i s.2)

theorem run_withRecord_fst {γ : Type} (step : σ → ι → ο × σ) (r : σ → ι → γ → γ) (s : σ × γ)
    (inputs : List ι) : (run (withRecord step r) s inputs).1 = run step s.1 inputs := by
  induction inputs generalizing s with
  | nil => rfl
  | cons i inputs ih => exact ih _

variable {j : Nat}

theorem getElem?_concat_eq_some_iff {α : Type} {l : List α} {x a : α} :
    (l ++ [x])[j]? = some a ↔ l[j]? = some a ∨ j = l.length ∧ x = a := by
  by_cases hlt : j < l.length
  · rw [getElem?_append_left hlt]
    have hne : j ≠ l.length := by omega
    simp [hne]
  · rw [getElem?_append_right (by omega), getElem?_eq_none (l := l) (by omega)]
    simp only [reduceCtorEq, false_or]
    by_cases hl : j = l.length
    · simp [hl]
    · rw [getElem?_eq_none (by simp; omega)]
      simp [hl]

theorem getElem?_set_eq_some {α : Type} {l : List α} {i : Nat} {a b : α}
    (h : (l.set i a)[j]? = some b) : j = i ∧ b = a ∨ j ≠ i ∧ l[j]? = some b := by
  by_cases hj : j = i
  · subst hj
    rw [getElem?_set_self'] at h
    cases hl : l[j]? with
    | none => simp [hl] at h
    | some old => exact .inl ⟨rfl, by simpa [hl] using h.symm⟩
  · rw [getElem?_set_ne (Ne.symm hj)] at h
    exact .inr ⟨hj, h⟩

/-- Where a key of the entries does not repeat, it tells the position. -/
theorem index_eq_of_nodup_filterMap {α β : Type} {f : α → Option β} {l : List α}
    (h : (l.filterMap f).Nodup) {i : Nat} {a b : α} {c : β} (hi : l[i]? = some a)
    (hj : l[j]? = some b) (ha : f a = some c) (hb : f b = some c) : i = j := by
  induction l generalizing i j with
  | nil => simp at hi
  | cons x l ih =>
    have ht : (l.filterMap f).Nodup := by
      rw [filterMap_cons] at h
      split at h
      · exact h
      · exact (nodup_cons.mp h).2
    have hh {k : Nat} {y : α} (hx : f x = some c) (hk : l[k]? = some y) : f y ≠ some c := by
      intro hy
      rw [filterMap_cons_some hx] at h
      exact (nodup_cons.mp h).1 (mem_filterMap.mpr ⟨y, mem_of_getElem? hk, hy⟩)
    cases i with
    | zero =>
      obtain rfl : x = a := by simpa using hi
      cases j with
      | zero => rfl
      | succ j => exact absurd hb (hh ha (by simpa using hj))
    | succ i =>
      cases j with
      | zero =>
        obtain rfl : x = b := by simpa using hj
        exact absurd ha (hh hb (by simpa using hi))
      | succ j => exact congrArg Nat.succ (ih ht (by simpa using hi) (by simpa using hj))

variable {step : σ → ι → ο × σ} {s : σ}

/-- What every step preserves holds at the end of every run. -/
theorem run_invariant (inv : σ → Prop)
    (hs : ∀ s i, inv s → inv (step s i).2) (h : inv s) (inp : List ι) :
    inv (run step s inp) := by
  induction inp generalizing s with
  | nil => exact h
  | cons i inp ih => exact ih (hs s i h)

theorem run_invariant_of_mem (inv : σ → Prop) (h : inv s)
    (inp : List ι) (hs : ∀ i ∈ inp, ∀ s, inv s → inv (step s i).2) :
    inv (run step s inp) := by
  induction inp generalizing s with
  | nil => exact h
  | cons i inp ih =>
    refine ih (hs i (by simp) s h) ?_
    intro j hj
    exact hs j (by simp [hj])

/-- Every input of the run meets a condition at the state it arrives in. -/
def Along (step : σ → ι → ο × σ) (condition : σ → ι → Prop) : σ → List ι → Prop
  | _, [] => True
  | s, i :: inputs => condition s i ∧ Along step condition (step s i).2 inputs

instance Along.decidable (step : σ → ι → ο × σ) (condition : σ → ι → Prop)
    [∀ s i, Decidable (condition s i)] :
    (s : σ) → (inputs : List ι) → Decidable (Along step condition s inputs)
  | _, [] => isTrue trivial
  | s, i :: inputs =>
    have := Along.decidable step condition (step s i).2 inputs
    inferInstanceAs (Decidable (condition s i ∧ Along step condition (step s i).2 inputs))

theorem along_append (step : σ → ι → ο × σ) (condition : σ → ι → Prop) (s : σ)
    (f back : List ι) :
    Along step condition s (f ++ back) ↔
      Along step condition s f ∧ Along step condition (run step s f) back := by
  induction f generalizing s with
  | nil => simp [Along]
  | cons i f ih => simp [Along, ih, and_assoc]

variable {condition : σ → ι → Prop}

/-- A run that does not meet the condition throughout has a first input that does not. -/
theorem exists_of_not_along {inp : List ι} (h : ¬ Along step condition s inp) :
    ∃ front i back, inp = front ++ i :: back ∧ Along step condition s front ∧
      ¬ condition (run step s front) i := by
  induction inp generalizing s with
  | nil => exact absurd trivial h
  | cons i inp ih =>
    by_cases hi : condition s i
    · obtain ⟨front, j, back, rfl, hf, hj⟩ := ih fun hr => h ⟨hi, hr⟩
      exact ⟨i :: front, j, back, rfl, ⟨hi, hf⟩, hj⟩
    · exact ⟨[], i, inp, rfl, trivial, hi⟩

/-- Conditions that agree where the invariant holds agree along a run. -/
theorem along_congr {p q : σ → ι → Prop} (inv : σ → Prop)
    (hi : ∀ s i, inv s → inv (step s i).2) (hc : ∀ s i, inv s → (p s i ↔ q s i))
    (h : inv s) (inputs : List ι) : Along step p s inputs ↔ Along step q s inputs := by
  induction inputs generalizing s with
  | nil => exact Iff.rfl
  | cons i inputs ih => exact and_congr (hc s i h) (ih (hi s i h))

/-- Where one step keeps a property exactly under the condition, a run has it throughout exactly if
it meets the condition throughout. -/
theorem forall_prefix_iff_along (inv g : σ → Prop) (hin : ∀ s i, inv s → inv (step s i).2)
    (hs : ∀ s i, inv s → g s → (g (step s i).2 ↔ condition s i)) (h : inv s)
    (hg : g s) (inputs : List ι) :
    (∀ front, front <+: inputs → g (run step s front)) ↔ Along step condition s inputs := by
  induction inputs generalizing s with
  | nil => simp [Along, hg]
  | cons i inputs ih =>
    constructor
    · intro ha
      have hn : g (step s i).2 := ha [i] ⟨inputs, rfl⟩
      refine ⟨(hs s i h hg).mp hn, (ih (hin s i h) hn).mp ?_⟩
      rintro front ⟨b, rfl⟩
      exact ha (i :: front) ⟨b, rfl⟩
    · rintro ⟨hi, hr⟩ front hf
      have hn : g (step s i).2 := (hs s i h hg).mpr hi
      cases front with
      | nil => exact hg
      | cons j front =>
        obtain ⟨rfl, ht⟩ := cons_prefix_cons.mp hf
        exact (ih (hin s j h) hn).mpr hr front ht

theorem along_withRecord {γ : Type} (step : σ → ι → ο × σ) (r : σ → ι → γ → γ)
    (condition : σ → ι → Prop) (s : σ × γ) (inputs : List ι) :
    Along (withRecord step r) (fun s i => condition s.1 i) s inputs ↔
      Along step condition s.1 inputs := by
  induction inputs generalizing s with
  | nil => exact Iff.rfl
  | cons i inputs ih => exact and_congr Iff.rfl (ih _)

theorem run_invariant_along (inv : σ → Prop)
    (hs : ∀ s i, inv s → condition s i → inv (step s i).2) (h : inv s)
    {inp : List ι} (ha : Along step condition s inp) : inv (run step s inp) := by
  induction inp generalizing s with
  | nil => exact h
  | cons i inp ih => exact ih (hs s i h ha.1) ha.2

/-- Two machines fed the same inputs stay related when one step keeps them related. -/
theorem run_simulation (ste : σ → ι → ο × σ) (st : τ → ι → ο' × τ) (rel : σ → τ → Prop)
    (hs : ∀ s t i, rel s t → rel (ste s i).2 (st t i).2) {t : τ} (h : rel s t)
    (inp : List ι) : rel (run ste s inp) (run st t inp) := by
  induction inp generalizing s t with
  | nil => exact h
  | cons i inp ih => exact ih (hs s t i h)

end QuantumLink
