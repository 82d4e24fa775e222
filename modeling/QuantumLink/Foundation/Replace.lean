import Mathlib

/-! # A file that is replaced as a whole

New contents are written to another file, which is then given the name of the old one. The renaming
is atomic, so what is read under the name is always one whole version. A machine that loses power
may come up with an older version: the last one known to be on the disk, or any version the name
was given since.
-/

namespace QuantumLink

structure ReplacedFile (α : Type) where
  /-- What a reader finds under the name. -/
  shown : Option α
  /-- What is under the name on the disk for certain. -/
  durable : Option α
  /-- Versions the name was given since; any of them may have reached the disk. -/
  unsynced : List α

/-- How far a replacement came. -/
inductive ReplaceProgress where
  | untouched
  | renamed
  | synced

namespace ReplacedFile

variable {α : Type} {p : Option α → Prop} {file : ReplacedFile α}

def settled (content : Option α) : ReplacedFile α := ⟨content, content, []⟩

def replace (file : ReplacedFile α) (content : α) : ReplaceProgress → ReplacedFile α
  | .untouched => file
  | .renamed => ⟨some content, file.durable, file.unsynced ++ [content]⟩
  | .synced => settled (some content)

/-- All that can be under the name after a loss of power. -/
def survivors (file : ReplacedFile α) : List (Option α) :=
  file.shown :: file.durable :: file.unsynced.map some

/-- The machine comes up with the survivor of this number, or else with the certain one. -/
def powerLoss (file : ReplacedFile α) (kept : Nat) : ReplacedFile α :=
  settled (file.survivors.getD kept file.durable)

/-- Every version the file can show has this property. -/
def Holds (p : Option α → Prop) (file : ReplacedFile α) : Prop :=
  ∀ content ∈ file.survivors, p content

theorem holds_iff : file.Holds p ↔
    p file.shown ∧ p file.durable ∧ ∀ content ∈ file.unsynced, p (some content) := by
  simp [Holds, survivors]

theorem Holds.shown (h : file.Holds p) : p file.shown := (holds_iff.mp h).1

@[simp] theorem holds_settled {content : Option α} : (settled content).Holds p ↔ p content := by
  simp [holds_iff, settled]

/-- A replacement, however far it came, shows the old versions and the new one. -/
theorem Holds.replace {c : α} (h : file.Holds p) (hn : p (some c))
    (pr : ReplaceProgress) : (file.replace c pr).Holds p := by
  cases pr with
  | untouched => exact h
  | synced => exact holds_settled.mpr hn
  | renamed =>
    obtain ⟨-, hd, hu⟩ := holds_iff.mp h
    refine holds_iff.mpr ⟨hn, hd, fun o ht => ?_⟩
    rcases List.mem_append.mp ht with ho | hl
    · exact hu o ho
    · rw [List.mem_singleton.mp hl]
      exact hn

/-- Once a replacement is complete nothing older comes back. -/
theorem holds_replace_synced {c : α} : (file.replace c .synced).Holds p ↔ p (some c) :=
  holds_settled

theorem Holds.powerLoss (h : file.Holds p) (k : Nat) : (file.powerLoss k).Holds p := by
  rw [ReplacedFile.powerLoss, holds_settled, List.getD_eq_getElem?_getD]
  cases hk : file.survivors[k]? with
  | none => exact (holds_iff.mp h).2.1
  | some c => exact h c (List.mem_of_getElem? hk)

end ReplacedFile

end QuantumLink
