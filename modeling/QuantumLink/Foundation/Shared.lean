import QuantumLink.Foundation.Run

/-! # A file that processes change without a lock

Each call loads the whole file, works out new contents from what it loaded, and replaces the file.
Loading and replacing are one step each, and the steps of different processes come in any order, so
a replacement may undo what happened since its load. A call may also end without replacing the file.
-/

namespace QuantumLink

/-- A call between its load and its replacement. -/
structure Held (κ σ : Type) where
  call : κ
  copy : σ
  content : σ

structure SharedFile (π κ σ : Type) where
  file : σ
  held : π → Option (Held κ σ)

inductive Access (π κ : Type) where
  | load (process : π) (call : κ)
  | replace (process : π)
  | abandon (process : π)

inductive Answer (κ ε : Type) where
  | refused (error : ε)
  | loaded
  | replaced (call : κ)
  | idle
deriving DecidableEq

namespace SharedFile

variable {π κ σ ε : Type} [DecidableEq π]

def setHeld (shared : SharedFile π κ σ) (process : π) (held : Option (Held κ σ)) :
    SharedFile π κ σ :=
  { shared with held := Function.update shared.held process held }

/-- One step of one process, where `change` is what a call makes of what it loads. -/
def access (change : κ → σ → Except ε σ) (shared : SharedFile π κ σ) :
    Access π κ → Answer κ ε × SharedFile π κ σ
  | .load process call =>
    match change call shared.file with
    | .error error => (.refused error, shared.setHeld process none)
    | .ok content => (.loaded, shared.setHeld process (some ⟨call, shared.file, content⟩))
  | .replace process =>
    match shared.held process with
    | none => (.idle, shared)
    | some held => (.replaced held.call, { shared.setHeld process none with file := held.content })
  | .abandon process => (.idle, shared.setHeld process none)

/-- The file and every copy are sound, and what a call holds is what it makes of its copy. -/
structure Consistent (change : κ → σ → Except ε σ) (sound : σ → Prop)
    (shared : SharedFile π κ σ) : Prop where
  file : sound shared.file
  copy : ∀ process held, shared.held process = some held → sound held.copy
  content : ∀ process held, shared.held process = some held →
    change held.call held.copy = .ok held.content

section
variable {change : κ → σ → Except ε σ} {sound : σ → Prop}

variable {shared : SharedFile π κ σ}

theorem held_of_setHeld {p o : π} {v : Option (Held κ σ)} {held : Held κ σ}
    (h : (shared.setHeld p v).held o = some held) :
    v = some held ∨ shared.held o = some held := by
  change Function.update shared.held p v o = some held at h
  by_cases ho : o = p
  · rw [ho, Function.update_self] at h
    exact .inl h
  · rw [Function.update_of_ne ho] at h
    exact .inr h

theorem Consistent.setHeld_none (h : shared.Consistent change sound) (p : π) :
    (shared.setHeld p none).Consistent change sound where
  file := h.file
  copy := fun o he hh =>
    (held_of_setHeld hh).elim (fun hn => by contradiction) (h.copy o he)
  content := fun o he hh =>
    (held_of_setHeld hh).elim (fun hn => by contradiction) (h.content o he)

theorem Consistent.access
    (hs : ∀ call copy content, sound copy → change call copy = .ok content → sound content)
    (h : shared.Consistent change sound) (s : Access π κ) :
    (shared.access change s).2.Consistent change sound := by
  cases s with
  | abandon p => exact h.setHeld_none p
  | load p call =>
    cases hc : change call shared.file with
    | error error =>
      simp only [SharedFile.access, hc]
      exact h.setHeld_none p
    | ok content =>
      simp only [SharedFile.access, hc]
      constructor
      · exact h.file
      · intro o he hh
        obtain hn | ho := held_of_setHeld hh
        · cases hn
          exact h.file
        · exact h.copy o he ho
      · intro o he hh
        obtain hn | ho := held_of_setHeld hh
        · cases hn
          exact hc
        · exact h.content o he ho
  | replace p =>
    cases hh : shared.held p with
    | none =>
      simp only [SharedFile.access, hh]
      exact h
    | some he =>
      simp only [SharedFile.access, hh]
      have hr := h.setHeld_none p
      exact ⟨hs _ _ _ (h.copy p he hh) (h.content p he hh), hr.copy, hr.content⟩

/-- A step replaces a good file by another exactly if the condition holds of what it puts there. -/
theorem good_access_iff {g : σ → Prop} (hg : g shared.file) (s : Access π κ) :
    g (shared.access change s).2.file ↔
      ∀ process held, s = .replace process → shared.held process = some held → g held.content := by
  cases s with
  | abandon process => exact ⟨fun _ _ _ hs => by contradiction, fun _ => hg⟩
  | load process c =>
    have hf : (shared.access change (.load process c)).2.file = shared.file := by
      cases hch : change c shared.file <;> simp [SharedFile.access, hch, setHeld]
    rw [hf]
    exact ⟨fun _ _ _ hs => by contradiction, fun _ => hg⟩
  | replace process =>
    cases hh : shared.held process with
    | none =>
      simp only [SharedFile.access, hh]
      refine ⟨fun _ o held hs ho => ?_, fun _ => hg⟩
      obtain rfl := Access.replace.inj hs
      rw [hh] at ho
      contradiction
    | some held =>
      simp only [SharedFile.access, hh]
      refine ⟨fun hc o held' hs ho => ?_, fun ha => ha process held rfl hh⟩
      obtain rfl := Access.replace.inj hs
      rw [hh] at ho
      cases ho
      exact hc

/-- The file is good throughout a run exactly if every replacement puts something good there. -/
theorem forall_prefix_good_iff
    (hs : ∀ call copy content, sound copy → change call copy = .ok content → sound content)
    {g : σ → Prop} {c : κ → σ → Prop}
    (ho : ∀ call copy content, sound copy → change call copy = .ok content →
      (g content ↔ c call copy))
    (h : shared.Consistent change sound) (hg : g shared.file) (steps : List (Access π κ)) :
    (∀ front, front <+: steps → g (run (access change) shared front).file) ↔ Along (access change)
        (fun shared step => ∀ process held, step = .replace process →
          shared.held process = some held → c held.call held.copy) shared steps := by
  refine forall_prefix_iff_along (fun shared : SharedFile π κ σ => shared.Consistent change sound)
    (fun shared : SharedFile π κ σ => g shared.file) ?_ ?_ h hg steps
  · exact fun shared step hc => hc.access hs step
  · intro shared step hc hf
    rw [good_access_iff hf step]
    refine forall₄_congr fun process held _ hh => ?_
    exact ho _ _ _ (hc.copy process held hh)
      (hc.content process held hh)

end

end SharedFile

end QuantumLink
