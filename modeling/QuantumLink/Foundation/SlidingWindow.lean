import QuantumLink.Foundation.Run

/-! # Sliding windows over sequence numbers

A window remembers the highest number seen and one bit for each of the last `w` numbers.
`Tracks` says which set of numbers a window stands for. A number is accepted exactly if
it is not in the set and lies less than `w` below everything in it.
-/

namespace QuantumLink

structure SlidingWindow (w : Nat) where
  highest : Nat
  bitmap : BitVec w
  initialized : Bool

namespace SlidingWindow

variable {w : Nat}

def empty (w : Nat) : SlidingWindow w := ⟨0, 0#w, false⟩

def observe (window : SlidingWindow w) (n : Nat) : Bool × SlidingWindow w :=
  if window.initialized = false then (true, ⟨n, 1#w, true⟩)
  else if window.highest < n then
    let shift := n - window.highest
    (true, { window with
      bitmap := if w ≤ shift then 1#w else (window.bitmap <<< shift) ||| 1#w
      highest := n })
  else
    let distance := window.highest - n
    if w ≤ distance then (false, window)
    else
      let mask := 1#w <<< distance
      if window.bitmap &&& mask ≠ 0#w then (false, window)
      else (true, { window with bitmap := window.bitmap ||| mask })

/-- The numbers a window has accepted. Bits for numbers below zero mean nothing. -/
structure Tracks (window : SlidingWindow w) (seen : Set Nat) : Prop where
  initialized : window.initialized = true ↔ seen.Nonempty
  highest : window.initialized = true → window.highest ∈ seen
  le_highest : ∀ m ∈ seen, m ≤ window.highest
  bit : window.initialized = true → ∀ d < w, d ≤ window.highest →
    (window.bitmap.getLsbD d = true ↔ window.highest - d ∈ seen)

/-- What a window of width `w` accepts after a set of numbers. -/
def Acceptable (w : Nat) (seen : Set Nat) (n : Nat) : Prop := n ∉ seen ∧ ∀ m ∈ seen, m < n + w

theorem tracks_empty (w : Nat) : Tracks (empty w) ∅ where
  initialized := by simp [empty]
  highest h := by simp [empty] at h
  le_highest m hm := absurd hm (Set.notMem_empty m)
  bit h := by simp [empty] at h

/-! ## Bits -/

theorem getLsbD_one (hw : 0 < w) (d : Nat) : (1#w).getLsbD d = true ↔ d = 0 := by
  simp [hw, eq_comm]

theorem and_mask_eq_zero_iff (b : BitVec w) {d : Nat} (hd : d < w) :
    b &&& (1#w <<< d) = 0#w ↔ b.getLsbD d = false := by
  rw [← BitVec.twoPow_eq, BitVec.and_twoPow]
  cases hb : b.getLsbD d with
  | false => simp
  | true =>
    simp only [if_true, Bool.true_eq_false, iff_false]
    intro hz
    have hd' := congrArg (fun v : BitVec w => v.getLsbD d) hz
    simp [hd] at hd'

theorem getLsbD_or_mask (b : BitVec w) {d e : Nat} (hd : d < w) :
    (b ||| (1#w <<< d)).getLsbD e = true ↔ b.getLsbD e = true ∨ d = e := by
  rw [← BitVec.twoPow_eq, BitVec.getLsbD_or, BitVec.getLsbD_twoPow]
  simp [hd]

theorem getLsbD_shift (b : BitVec w) {s d : Nat} (hd : d < w) :
    ((b <<< s) ||| 1#w).getLsbD d = true ↔ d = 0 ∨ s ≤ d ∧ b.getLsbD (d - s) = true := by
  rw [BitVec.getLsbD_or, Bool.or_eq_true, getLsbD_one (by omega), BitVec.getLsbD_shiftLeft]
  by_cases hle : s ≤ d
  · simp [hd, hle, or_comm]
  · simp [hd, hle]

/-! ## One step -/

variable {window : SlidingWindow w} {seen : Set Nat} {n : Nat}

theorem Tracks.not_initialized (h : Tracks window seen) (hi : window.initialized = false) :
    seen = ∅ := by
  by_contra hne
  have hy := h.initialized.mpr (Set.nonempty_iff_ne_empty.mpr hne)
  rw [hi] at hy
  cases hy

inductive Observed (window : SlidingWindow w) (n : Nat) : Bool × SlidingWindow w → Prop
  | first (hinit : window.initialized = false) : Observed window n (true, ⟨n, 1#w, true⟩)
  | advanced (hyes : window.initialized = true) (hhigh : window.highest < n) :
      Observed window n (true, { window with
        bitmap := if w ≤ n - window.highest then 1#w
          else (window.bitmap <<< (n - window.highest)) ||| 1#w
        highest := n })
  | stale (hyes : window.initialized = true) (hfar : n + w ≤ window.highest) :
      Observed window n (false, window)
  | duplicate (hyes : window.initialized = true) (hle : n ≤ window.highest)
      (hnear : window.highest - n < w) (hbit : window.bitmap.getLsbD (window.highest - n) = true) :
      Observed window n (false, window)
  | filled (hyes : window.initialized = true) (hle : n ≤ window.highest)
      (hnear : window.highest - n < w) (hbit : window.bitmap.getLsbD (window.highest - n) = false) :
      Observed window n
        (true, { window with bitmap := window.bitmap ||| (1#w <<< (window.highest - n)) })

theorem observe_cases (window : SlidingWindow w) (n : Nat) : Observed window n (window.observe n) := by
  unfold observe
  by_cases hi : window.initialized = false
  · rw [if_pos hi]
    exact .first hi
  have hy : window.initialized = true := by simpa using hi
  rw [if_neg hi]
  by_cases hh : window.highest < n
  · rw [if_pos hh]
    exact .advanced hy hh
  rw [if_neg hh]
  by_cases hf : w ≤ window.highest - n
  · simp only [if_pos hf]
    exact .stale hy (by omega)
  have hm := and_mask_eq_zero_iff window.bitmap (Nat.lt_of_not_le hf)
  cases hb : window.bitmap.getLsbD (window.highest - n) with
  | true =>
    simp only [if_neg hf, ne_eq, hm, hb, Bool.true_eq_false, not_false_eq_true, if_true]
    exact .duplicate hy (by omega) (by omega) hb
  | false =>
    simp only [if_neg hf, ne_eq, hm, hb, not_true_eq_false, if_false]
    exact .filled hy (by omega) (by omega) hb

theorem Tracks.observe_iff (hw : 0 < w) (h : Tracks window seen) :
    (window.observe n).1 = true ↔ Acceptable w seen n := by
  have hc := observe_cases window n
  generalize window.observe n = result at hc ⊢
  cases hc with
  | first hi => simp [Acceptable, h.not_initialized hi]
  | advanced hy hh =>
    simp only [true_iff]
    refine ⟨fun he => ?_, fun m hm => ?_⟩
    · have hle := h.le_highest n he
      omega
    · have hle := h.le_highest m hm
      omega
  | stale hy hf =>
    simp only [Bool.false_eq_true, false_iff]
    intro ha
    have hlt := ha.2 _ (h.highest hy)
    omega
  | duplicate hy hle hn hb =>
    have he := (h.bit hy _ hn (by omega)).mp hb
    rw [Nat.sub_sub_self hle] at he
    simp [Acceptable, he]
  | filled hy hle hn hb =>
    have ho : n ∉ seen := by
      intro he
      rw [← Nat.sub_sub_self hle] at he
      simp [(h.bit hy _ hn (by omega)).mpr he] at hb
    simp only [Acceptable, ho, not_false_eq_true, true_and, true_iff]
    intro m hm
    have hle' := h.le_highest m hm
    omega

theorem observe_refused (hr : (window.observe n).1 = false) : (window.observe n).2 = window := by
  have hc := observe_cases window n
  generalize window.observe n = result at hc hr ⊢
  cases hc with
  | stale | duplicate => rfl
  | first | advanced | filled => cases hr

theorem tracks_first (hw : 0 < w) (n : Nat) : Tracks ⟨n, 1#w, true⟩ {n} where
  initialized := by simp
  highest _ := rfl
  le_highest m hm := le_of_eq hm
  bit _ d _ hle := by
    have hle : d ≤ n := hle
    show (1#w).getLsbD d = true ↔ n - d = n
    rw [getLsbD_one hw]
    omega

theorem Tracks.advance (hw : 0 < w) (h : Tracks window seen) (hy : window.initialized = true)
    (hh : window.highest < n) :
    Tracks { window with
      bitmap := if w ≤ n - window.highest then 1#w
        else (window.bitmap <<< (n - window.highest)) ||| 1#w
      highest := n } (insert n seen) where
  initialized := by simp [hy]
  highest _ := Set.mem_insert _ _
  le_highest m hm := by
    show m ≤ n
    rcases Set.mem_insert_iff.mp hm with rfl | hm
    · exact le_refl _
    · have hle := h.le_highest m hm
      omega
  bit _ d hd hle := by
    have hle : d ≤ n := hle
    have ho (he : n - d ∈ seen) : n - d ≤ window.highest := h.le_highest _ he
    simp only [Set.mem_insert_iff]
    by_cases hf : w ≤ n - window.highest
    · rw [if_pos hf, getLsbD_one hw]
      constructor
      · intro hz
        left
        omega
      · intro he
        rcases he with heq | he
        · omega
        · have hle' := ho he
          omega
    · -- Bit `d` was bit `d - shift`, and stands for the same number as before.
      rw [if_neg hf, getLsbD_shift window.bitmap hd]
      by_cases hs : n - window.highest ≤ d
      · have ha : window.highest - (d - (n - window.highest)) = n - d := by omega
        have hb := h.bit hy (d - (n - window.highest)) (by omega) (by omega)
        rw [ha] at hb
        rw [hb]
        constructor
        · intro hc
          rcases hc with hz | he
          · omega
          · exact .inr he.2
        · intro hc
          rcases hc with heq | he
          · omega
          · exact .inr ⟨hs, he⟩
      · have hn : n - d ∉ seen := by
          intro he
          have hle' := ho he
          omega
        simp only [hs, hn, false_and, or_false]
        omega

theorem Tracks.fill (h : Tracks window seen) (hy : window.initialized = true)
    (hle : n ≤ window.highest) (hn : window.highest - n < w) :
    Tracks { window with bitmap := window.bitmap ||| (1#w <<< (window.highest - n)) }
      (insert n seen) where
  initialized := by simp [hy]
  highest _ := Set.mem_insert_of_mem _ (h.highest hy)
  le_highest m hm := by
    rcases Set.mem_insert_iff.mp hm with rfl | hm
    · exact hle
    · exact h.le_highest m hm
  bit _ d hd hd' := by
    have hd' : d ≤ window.highest := hd'
    show (window.bitmap ||| (1#w <<< (window.highest - n))).getLsbD d = true ↔
      window.highest - d ∈ insert n seen
    have hs : window.highest - n = d ↔ window.highest - d = n := by omega
    rw [getLsbD_or_mask window.bitmap hn, h.bit hy d hd hd', Set.mem_insert_iff, hs, or_comm]

theorem Tracks.observe_accepted (hw : 0 < w) (h : Tracks window seen)
    (ha : (window.observe n).1 = true) :
    Tracks (window.observe n).2 (insert n seen) := by
  have hc := observe_cases window n
  generalize window.observe n = result at hc ha ⊢
  cases hc with
  | first hi =>
    rw [h.not_initialized hi, insert_empty_eq]
    exact tracks_first hw n
  | advanced hy hh => exact h.advance hw hy hh
  | filled hy hle hn => exact h.fill hy hle hn
  | stale | duplicate => cases ha

/-! ## Runs -/

/-- No bit stands for a number below zero. -/
def Grounded (window : SlidingWindow w) : Prop :=
  ∀ d, window.bitmap.getLsbD d = true → d ≤ window.highest

theorem Grounded.observe (h : window.Grounded) (n : Nat) : (window.observe n).2.Grounded := by
  have hon (d : Nat) (hd : (1#w).getLsbD d = true) : d ≤ n := by
    have hz : 0 < w ∧ d = 0 := by simpa using hd
    omega
  have hc := observe_cases window n
  generalize window.observe n = result at hc ⊢
  cases hc with
  | first hi => exact hon
  | advanced hy hh =>
    intro d hd
    by_cases hf : w ≤ n - window.highest
    · exact hon d (by simpa [hf] using hd)
    · simp only [if_neg hf] at hd ⊢
      rcases (getLsbD_shift window.bitmap (BitVec.lt_of_getLsbD hd)).mp hd with hz | ⟨-, ho⟩
      · omega
      · have hle := h _ ho
        omega
  | stale hy hf | duplicate hy hle hn hb => exact h
  | filled hy hle hn hb =>
    intro d hd
    rcases (getLsbD_or_mask window.bitmap hn).mp hd with ho | rfl
    · exact h d ho
    · exact Nat.sub_le _ _

def accepted (w : Nat) (numbers : List Nat) : List Nat :=
  observed observe (fun window n => if (window.observe n).1 then some n else none) (empty w) numbers

theorem run_tracks (hw : 0 < w) (nu : List Nat) :
    Tracks (run observe (empty w) nu) {n | n ∈ accepted w nu} ∧
      (run observe (empty w) nu).Grounded ∧ (accepted w nu).Nodup := by
  induction nu using List.reverseRecOn with
  | nil => exact ⟨by simpa [accepted, observed] using tracks_empty w, by simp [Grounded, empty], by
      simp [accepted, observed]⟩
  | append_singleton nu n ih =>
    obtain ⟨ht, hg, hn⟩ := ih
    rw [run_concat, accepted, observed_concat, ← accepted]
    refine ⟨?_, hg.observe n, ?_⟩
    · cases ha : ((run observe (empty w) nu).observe n).1 with
      | false => simpa [ha, observe_refused ha] using ht
      | true =>
        have hs : {m | m ∈ accepted w nu ++ [n]} = insert n {m | m ∈ accepted w nu} := by
          ext m
          simp [or_comm]
        simp only [if_true, Option.toList_some, hs]
        exact ht.observe_accepted hw ha
    · cases ha : ((run observe (empty w) nu).observe n).1 with
      | false => simpa [ha] using hn
      | true =>
        have hne := ((ht.observe_iff hw).mp ha).1
        simpa [ha, List.nodup_append, hn] using fun m hm (heq : m = n) => hne (heq ▸ hm)

end SlidingWindow

end QuantumLink
