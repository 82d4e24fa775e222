import QuantumLink.Foundation.Run

/-! # Fixed-window counters

A limiter that counts the checks of one key in windows of a fixed length. The first check
starts a window, and so does the first check after a window has elapsed; the checks of a
window pass until the limit is reached. A bucket may also be dropped, which forgets its
window: that keeps the limit only where the window is over.
-/

namespace QuantumLink.FixedWindow

open List

structure Bucket where
  windowStarted : Nat
  count : Nat

/-- The bucket a check at `now` counts in. -/
def current (window now : Nat) (bucket : Option Bucket) : Bucket :=
  let bucket := bucket.getD { windowStarted := now, count := 0 }
  if window ≤ now - bucket.windowStarted then { windowStarted := now, count := 0 } else bucket

/-- Whether a check at `now` passes, and the bucket it leaves. -/
def check (limit window now : Nat) (bucket : Option Bucket) : Bool × Bucket :=
  let bucket := current window now bucket
  if limit ≤ bucket.count then (false, bucket)
  else (true, { bucket with count := bucket.count + 1 })

/-- What can happen to the bucket of one key, and when. -/
inductive Use where
  | check (now : Nat)
  | drop (now : Nat)

def Use.time : Use → Nat
  | .check now => now
  | .drop now => now

def apply (limit window : Nat) (bucket : Option Bucket) : Use → Bool × Option Bucket
  | .check now => ((check limit window now bucket).1, some (check limit window now bucket).2)
  | .drop _ => (false, none)

/-- The bucket has a window that is not over. -/
def Open (window now : Nat) (bucket : Option Bucket) : Prop :=
  ∃ b, bucket = some b ∧ now - b.windowStarted < window

instance (window now : Nat) : (bucket : Option Bucket) → Decidable (Open window now bucket)
  | none => isFalse (by rintro ⟨b, hb, -⟩; cases hb)
  | some b =>
    decidable_of_iff (now - b.windowStarted < window)
      ⟨fun h => ⟨b, rfl, h⟩, fun ⟨_, hb, h⟩ => Option.some.inj hb ▸ h⟩

def passedAt (limit window : Nat) (bucket : Option Bucket) : Use → Option Nat
  | .check now => if (check limit window now bucket).1 then some now else none
  | .drop _ => none

def startedAt (window : Nat) (bucket : Option Bucket) : Use → Option Nat
  | .check now => if Open window now bucket then none else some now
  | .drop _ => none

def passes (limit window : Nat) (uses : List Use) : List Nat :=
  observed (apply limit window) (passedAt limit window) none uses

def starts (limit window : Nat) (uses : List Use) : List Nat :=
  observed (apply limit window) (startedAt window) none uses

/-- A bucket is dropped only when its window is over. -/
def DroppedOver (window : Nat) (bucket : Option Bucket) : Use → Prop
  | .check _ => True
  | .drop now => ∀ b, bucket = some b → b.windowStarted + window ≤ now

/-! ## One check -/

theorem current_of_open {window now : Nat} {b : Bucket} (h : now - b.windowStarted < window) :
    current window now (some b) = b := by
  simp only [current, Option.getD_some]
  rw [if_neg (by omega)]

theorem current_of_not_open {window now : Nat} (hw : 0 < window) (h : ¬ Open window now bucket) :
    current window now bucket = { windowStarted := now, count := 0 } := by
  cases bucket with
  | none =>
    simp only [current, Option.getD_none]
    rw [if_neg (by omega)]
  | some b =>
    have he : window ≤ now - b.windowStarted := by
      by_contra hlt
      exact h ⟨b, rfl, by omega⟩
    simp only [current, Option.getD_some]
    rw [if_pos he]

/-! ## The tally of a run -/

/-- The window of `b` is the last one: `clock` is a time that no pass or start is past. -/
structure Running (limit window clock : Nat) (passes starts : List Nat) (b : Bucket) : Prop where
  started : b.windowStarted ≤ clock
  older : ∀ s ∈ starts, s = b.windowStarted ∨ s + window ≤ b.windowStarted
  recent : ∀ t ∈ passes, t < b.windowStarted + window
  count : passes.countP (fun t => b.windowStarted ≤ t) = b.count
  within : b.count ≤ limit

structure Idle (window clock : Nat) (passes starts : List Nat) : Prop where
  older : ∀ s ∈ starts, s + window ≤ clock
  recent : ∀ t ∈ passes, t < clock

def Tallied (limit window clock : Nat) (passes starts : List Nat) : Option Bucket → Prop
  | none => Idle window clock passes starts
  | some b => Running limit window clock passes starts b

def Limited (limit window : Nat) (passes starts : List Nat) : Prop :=
  ∀ s ∈ starts, passes.countP (fun t => decide (s ≤ t ∧ t < s + window)) ≤ limit

variable {limit window clock now : Nat} {passes starts : List Nat}

theorem Idle.later (h : Idle window clock passes starts) (hle : clock ≤ now) :
    Idle window now passes starts where
  older s hs := le_trans (h.older s hs) hle
  recent t ht := lt_of_lt_of_le (h.recent t ht) hle

theorem Running.idle (h : Running limit window clock passes starts b)
    (ho : b.windowStarted + window ≤ now) : Idle window now passes starts where
  older s hs := by
    rcases h.older s hs with rfl | hl
    · exact ho
    · omega
  recent t ht := lt_of_lt_of_le (h.recent t ht) ho

theorem Tallied.idle_of_not_open
    (h : Tallied limit window clock passes starts bucket) (hw : 0 < window)
    (hle : clock ≤ now) (ho : ¬ Open window now bucket) : Idle window now passes starts := by
  cases bucket with
  | none => exact Idle.later h hle
  | some b =>
    have he : window ≤ now - b.windowStarted := by
      by_contra hlt
      exact ho ⟨b, rfl, by omega⟩
    exact Running.idle h (by omega)

theorem countP_window_concat (h : ¬ (s ≤ now ∧ now < s + window)) :
    (passes ++ [now]).countP (fun t => decide (s ≤ t ∧ t < s + window)) =
      passes.countP (fun t => decide (s ≤ t ∧ t < s + window)) := by
  rw [countP_append, countP_cons_of_neg (by simpa using h)]
  simp

theorem countP_eq_zero_of_idle {p : Nat → Bool} (h : Idle window now passes starts)
    (hp : ∀ t, p t = true → now ≤ t) : passes.countP p = 0 := by
  rw [countP_eq_zero]
  intro t ht hpt
  have hb := h.recent t ht
  have ha := hp t hpt
  omega

theorem Idle.start_pass (h : Idle window now passes starts) (hw : 0 < window) (hl : 0 < limit) :
    Running limit window now (passes ++ [now]) (starts ++ [now]) ⟨now, 1⟩ where
  started := le_refl now
  older s hs := by
    rcases mem_append.mp hs with ho | hn
    · exact .inr (h.older s ho)
    · exact .inl (by simpa using hn)
  recent t ht := by
    show t < now + window
    rcases mem_append.mp ht with ho | hn
    · have hb := h.recent t ho
      omega
    · have heq : t = now := by simpa using hn
      omega
  count := by
    have ho : passes.countP (fun t => decide (now ≤ t)) = 0 :=
      countP_eq_zero_of_idle h (fun t ht => by simpa using ht)
    simp [ho]
  within := hl

theorem Idle.start_refused (limit : Nat) (h : Idle window now passes starts) (hw : 0 < window) :
    Running limit window now passes (starts ++ [now]) ⟨now, 0⟩ where
  started := le_refl now
  older s hs := by
    rcases mem_append.mp hs with ho | hn
    · exact .inr (h.older s ho)
    · exact .inl (by simpa using hn)
  recent t ht := by
    have hb := h.recent t ht
    show t < now + window
    omega
  count := countP_eq_zero_of_idle h (fun t ht => by simpa using ht)
  within := Nat.zero_le limit

theorem Running.pass (h : Running limit window clock passes starts b)
    (hle : clock ≤ now) (hope : now - b.windowStarted < window) (hr : b.count < limit) :
    Running limit window now (passes ++ [now]) starts { b with count := b.count + 1 } where
  started := le_trans h.started hle
  older := h.older
  recent t ht := by
    have hs := h.started
    show t < b.windowStarted + window
    rcases mem_append.mp ht with ho | hn
    · exact h.recent t ho
    · have heq : t = now := by simpa using hn
      omega
  count := by
    have ha : b.windowStarted ≤ now := le_trans h.started hle
    simp [h.count, ha]
  within := hr

theorem Running.later (h : Running limit window clock passes starts b)
    (hle : clock ≤ now) : Running limit window now passes starts b :=
  { h with started := le_trans h.started hle }

/-! ### The limit -/

theorem Limited.start_pass (h : Limited limit window passes starts)
    (hi : Idle window now passes starts) (hl : 0 < limit) :
    Limited limit window (passes ++ [now]) (starts ++ [now]) := by
  intro s hs
  rcases mem_append.mp hs with ho | hn
  · have hv := hi.older s ho
    rw [countP_window_concat (by omega)]
    exact h s ho
  · obtain rfl : s = now := by simpa using hn
    have hz : passes.countP (fun t => decide (s ≤ t ∧ t < s + window)) = 0 :=
      countP_eq_zero_of_idle hi (fun t ht => (of_decide_eq_true ht).1)
    have hon := countP_le_length (l := [s]) (p := fun t => decide (s ≤ t ∧ t < s + window))
    rw [countP_append, hz]
    simp only [length_singleton] at hon
    omega

theorem Limited.start_refused (h : Limited limit window passes starts)
    (hi : Idle window now passes starts) : Limited limit window passes (starts ++ [now]) := by
  intro s hs
  rcases mem_append.mp hs with ho | hn
  · exact h s ho
  · obtain rfl : s = now := by simpa using hn
    have hz : passes.countP (fun t => decide (s ≤ t ∧ t < s + window)) = 0 :=
      countP_eq_zero_of_idle hi (fun t ht => (of_decide_eq_true ht).1)
    omega

theorem Limited.pass (h : Limited limit window passes starts)
    (hr : Running limit window clock passes starts b) (hle : clock ≤ now)
    (hro : b.count < limit) : Limited limit window (passes ++ [now]) starts := by
  have hst := hr.started
  intro s hs
  rcases hr.older s hs with rfl | hl
  · have hp : passes.countP
        (fun t => decide (b.windowStarted ≤ t ∧ t < b.windowStarted + window)) ≤ b.count := by
      rw [← hr.count]
      apply countP_mono_left
      intro t _ ht
      exact decide_eq_true (of_decide_eq_true ht).1
    have ho := countP_le_length (l := [now])
      (p := fun t => decide (b.windowStarted ≤ t ∧ t < b.windowStarted + window))
    rw [countP_append]
    simp only [length_singleton] at ho
    omega
  · rw [countP_window_concat (by omega)]
    exact h s hs

/-! ### Runs -/

theorem apply_tallied {use : Use} (hw : 0 < window)
    (ht : Tallied limit window clock passes starts bucket)
    (hl : Limited limit window passes starts) (hle : clock ≤ use.time)
    (hd : DroppedOver window bucket use) :
    Tallied limit window use.time (passes ++ (passedAt limit window bucket use).toList)
        (starts ++ (startedAt window bucket use).toList) (apply limit window bucket use).2 ∧
      Limited limit window (passes ++ (passedAt limit window bucket use).toList)
        (starts ++ (startedAt window bucket use).toList) := by
  cases use with
  | drop now =>
    simp only [passedAt, startedAt, Option.toList_none, append_nil]
    refine ⟨?_, hl⟩
    cases bucket with
    | none => exact Idle.later ht hle
    | some b => exact Running.idle ht (hd b rfl)
  | check now =>
    change clock ≤ now at hle
    by_cases ho : Open window now bucket
    · obtain ⟨b, rfl, hb⟩ := ho
      have hs : Open window now (some b) := ⟨b, rfl, hb⟩
      by_cases hf : limit ≤ b.count
      · have hc : check limit window now (some b) = (false, b) := by
          simp [check, current_of_open hb, if_pos hf]
        simp only [passedAt, startedAt, apply, hc, if_pos hs]
        simpa [Use.time, Tallied] using And.intro (Running.later ht hle) hl
      · have hc : check limit window now (some b) =
            (true, { b with count := b.count + 1 }) := by
          simp [check, current_of_open hb, if_neg hf]
        simp only [passedAt, startedAt, apply, hc, if_pos hs]
        have hr : b.count < limit := by omega
        simpa [Use.time, Tallied] using
          And.intro (Running.pass ht hle hb hr) (hl.pass ht hle hr)
    · have hi := ht.idle_of_not_open hw hle ho
      by_cases hz : limit = 0
      · have hc : check limit window now bucket = (false, ⟨now, 0⟩) := by
          simp [check, current_of_not_open hw ho, hz]
        simp only [passedAt, startedAt, apply, hc, if_neg ho]
        simpa [Use.time, Tallied] using
          And.intro (hi.start_refused limit hw) (hl.start_refused hi)
      · have hp : 0 < limit := Nat.pos_of_ne_zero hz
        have hc : check limit window now bucket = (true, ⟨now, 1⟩) := by
          simp [check, current_of_not_open hw ho, hz]
        simp only [passedAt, startedAt, apply, hc, if_neg ho]
        simpa [Use.time, Tallied] using
          And.intro (hi.start_pass hw hp) (hl.start_pass hi hp)

def lastTime (uses : List Use) : Nat := (uses.getLast?.map Use.time).getD 0

section

variable (hw : 0 < window) (uses : List Use) (hti : (uses.map Use.time).Pairwise (· ≤ ·))
  (hd : Along (apply limit window) (DroppedOver window) none uses)
include hw hti hd

theorem run_tallied : Tallied limit window (lastTime uses) (FixedWindow.passes limit window uses)
        (FixedWindow.starts limit window uses) (run (apply limit window) none uses) ∧
      Limited limit window (FixedWindow.passes limit window uses)
        (FixedWindow.starts limit window uses) := by
  induction uses using reverseRecOn with
  | nil =>
    refine ⟨⟨?_, ?_⟩, ?_⟩
    · intro s hs
      cases hs
    · intro t ht
      cases ht
    · intro s hs
      cases hs
  | append_singleton uses use ih =>
    rw [map_append, pairwise_append] at hti
    rw [along_append] at hd
    obtain ⟨ha, hi⟩ := ih hti.1 hd.1
    have hle : lastTime uses ≤ use.time := by
      cases hl : uses.getLast? with
      | none => simp [lastTime, hl]
      | some l =>
        have hm := mem_map_of_mem (f := Use.time) (mem_of_getLast? hl)
        simpa [lastTime, hl] using hti.2.2 _ hm use.time (by simp)
    have hn := apply_tallied hw ha hi hle hd.2.1
    have hl : lastTime (uses ++ [use]) = use.time := by simp [lastTime]
    rw [hl, run_concat]
    simpa only [FixedWindow.passes, FixedWindow.starts, observed_concat] using hn

/-- **The limit of a fixed-window counter.** Where the clock does not run back and a bucket is
dropped only when its window is over, at most `limit` checks pass between a window's start and
`window` later. -/
theorem passes_limited : Limited limit window (FixedWindow.passes limit window uses)
      (FixedWindow.starts limit window uses) :=
  (run_tallied hw uses hti hd).2
end

end QuantumLink.FixedWindow
