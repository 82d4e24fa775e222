import Mathlib

/-! # Cutting a list into chunks and putting it together again

A list is cut into chunks of a fixed length, the last one shorter. The chunks arrive one by
one, in any order, and are stored at their positions; `fill` is what is stored once a given set
of positions has arrived.
-/

namespace QuantumLink

open List

variable {α β : Type}

def chunkAt (size : Nat) (l : List α) (index : Nat) : List α := (l.drop (size * index)).take size

/-- How many chunks a length needs: the quotient rounded up. -/
def chunkCount (size length : Nat) : Nat := (length + (size - 1)) / size

def chunks (size : Nat) (l : List α) : List (List α) :=
  (range (chunkCount size l.length)).map (chunkAt size l)

@[simp] theorem length_chunks (size : Nat) (l : List α) :
    (chunks size l).length = chunkCount size l.length := by
  simp [chunks]

theorem length_chunkAt (size : Nat) (l : List α) (index : Nat) :
    (chunkAt size l index).length = min size (l.length - size * index) := by
  simp [chunkAt]

variable {size index : Nat}

theorem getElem?_chunks {l : List α} (h : index < chunkCount size l.length) :
    (chunks size l)[index]? = some (chunkAt size l index) := by
  simp [chunks, h]

theorem flatten_map_chunkAt (size : Nat) (l : List α) (c : Nat) :
    ((range c).map (chunkAt size l)).flatten = l.take (size * c) := by
  induction c with
  | zero => simp
  | succ c ih =>
    rw [range_succ, map_append, flatten_append, ih, Nat.mul_succ, take_add]
    simp [chunkAt]

theorem le_mul_chunkCount (hs : 0 < size) (length : Nat) :
    length ≤ size * chunkCount size length := by
  have hd := Nat.div_add_mod (length + (size - 1)) size
  have hm := Nat.mod_lt (length + (size - 1)) hs
  unfold chunkCount
  omega

theorem mul_lt_of_lt_chunkCount {length : Nat} (h : index < chunkCount size length) :
    size * index < length := by
  have hle : (index + 1) * size ≤ length + (size - 1) :=
    le_trans (Nat.mul_le_mul_right size h) (Nat.div_mul_le_self _ _)
  have hp : 0 < size := by
    rcases Nat.eq_zero_or_pos size with rfl | hp
    · simp [chunkCount] at h
    · exact hp
  have hs : (index + 1) * size = size * index + size := by ring
  omega

theorem flatten_chunks (hs : 0 < size) (l : List α) : (chunks size l).flatten = l := by
  rw [chunks, flatten_map_chunkAt]
  exact take_of_length_le (le_mul_chunkCount hs l.length)

def chunkLengths (size length : Nat) : List Nat :=
  (range (chunkCount size length)).map fun index => min size (length - size * index)

theorem map_length_chunks (size : Nat) (l : List α) :
    (chunks size l).map length = chunkLengths size l.length := by
  simp [chunks, chunkLengths, length_chunkAt]

@[simp] theorem length_chunkLengths (size length : Nat) :
    (chunkLengths size length).length = chunkCount size length := by
  simp [chunkLengths]

theorem getElem?_chunkLengths {l : Nat} (h : index < chunkCount size l) :
    (chunkLengths size l)[index]? = some (min size (l - size * index)) := by
  simp [chunkLengths, h]

theorem sum_chunkLengths (hs : 0 < size) (length : Nat) :
    (chunkLengths size length).sum = length := by
  have hf := congrArg List.length (flatten_chunks hs (List.replicate length ()))
  rwa [List.length_flatten, map_length_chunks, List.length_replicate] at hf

theorem pos_of_mem_chunkLengths (hs : 0 < size) {l n : Nat}
    (h : n ∈ chunkLengths size l) : 0 < n := by
  obtain ⟨i, hi, rfl⟩ := mem_map.mp h
  have hlt := mul_lt_of_lt_chunkCount (mem_range.mp hi)
  exact lt_min hs (by omega)

theorem chunkLength_eq (hs : 0 < size) {l : Nat} (h : index < chunkCount size l) :
    (if index + 1 = chunkCount size l then l - size * index else size) =
      min size (l - size * index) := by
  have hc := le_mul_chunkCount hs l
  split
  · rename_i hl
    rw [← hl, Nat.mul_succ] at hc
    omega
  · rename_i hm
    have hn := mul_lt_of_lt_chunkCount (show index + 1 < chunkCount size l by omega)
    rw [Nat.mul_succ] at hn
    omega

def stored (slots : List (Option (List α))) : Nat := (slots.map fun slot => (slot.getD []).length).sum

theorem stored_set (h : slots[index]? = some none) (p : List α) :
    stored (slots.set index (some p)) = stored slots + p.length := by
  induction slots generalizing index with
  | nil => simp at h
  | cons s slots ih =>
    cases index with
    | zero =>
      obtain rfl : s = none := by simpa using h
      simp [stored, Nat.add_comm]
    | succ index =>
      have hr : slots[index]? = some none := by simpa using h
      have hs := ih hr
      simp only [stored, set_cons_succ, map_cons, sum_cons] at hs ⊢
      omega

theorem stored_replicate_none (c : Nat) : stored (replicate c (none : Option (List α))) = 0 := by
  simp [stored]

/-- Every stored chunk has the length of its position. -/
def Fits (slots : List (Option (List α))) (lengths : List Nat) : Prop :=
  List.Forall₂ (fun slot n => ∀ part ∈ slot, part.length = n) slots lengths

theorem Fits.stored_le (h : Fits slots lengths) (hp : ∀ n ∈ lengths, 0 < n) :
    stored slots ≤ lengths.sum ∧ (stored slots = lengths.sum ↔ slots.all Option.isSome = true) := by
  induction h with
  | nil => simp [stored]
  | @cons s n slots lengths hs _ ih =>
    obtain ⟨hle, hi⟩ := ih fun m hm => hp m (mem_cons_of_mem n hm)
    have hn := hp n mem_cons_self
    cases s with
    | none =>
      have hlt : stored (none :: slots) < (n :: lengths).sum := by
        simp only [stored, map_cons, sum_cons, Option.getD_none, length_nil] at hle ⊢
        omega
      exact ⟨hlt.le, iff_of_false hlt.ne (by simp)⟩
    | some p =>
      have hl := hs p rfl
      simp only [stored, map_cons, sum_cons, Option.getD_some, hl, all_cons,
        Option.isSome_some, Bool.true_and, ← hi] at hle ⊢
      omega

theorem Fits.set (h : Fits slots lengths) {p : List α} (hp : lengths[index]? = some p.length) :
    Fits (slots.set index (some p)) lengths := by
  induction h generalizing index with
  | nil => exact .nil
  | cons hs hr ih =>
    cases index with
    | zero =>
      refine .cons ?_ hr
      intro o ho
      cases ho
      exact (Option.some.inj hp).symm
    | succ index => exact .cons hs (ih hp)

theorem fits_replicate_none (lengths : List Nat) :
    Fits (replicate lengths.length (none : Option (List α))) lengths := by
  induction lengths with
  | nil => exact .nil
  | cons n lengths ih => exact .cons (by simp) ih

/-- What is stored once the chunks at some positions have arrived. -/
def fill (parts : List β) (arrived : Finset Nat) : List (Option β) :=
  parts.mapIdx fun index part => if index ∈ arrived then some part else none

@[simp] theorem length_fill (parts : List β) (arrived : Finset Nat) :
    (fill parts arrived).length = parts.length := by
  simp [fill]

theorem getElem?_fill (parts : List β) (arrived : Finset Nat) (index : Nat) :
    (fill parts arrived)[index]? =
      parts[index]?.map fun part => if index ∈ arrived then some part else none := by
  simp [fill]

theorem fill_empty (parts : List β) : fill parts ∅ = replicate parts.length none := by
  apply ext_getElem?
  intro i
  rw [getElem?_fill]
  by_cases hlt : i < parts.length
  · simp [hlt]
  · rw [getElem?_eq_none (by omega), getElem?_eq_none (by simp; omega)]
    rfl

variable {parts : List β} {arrived : Finset Nat}

theorem fill_insert (h : parts[index]? = some part) :
    fill parts (insert index arrived) = (fill parts arrived).set index (some part) := by
  apply List.ext_getElem?
  intro o
  have hlt : index < parts.length := (List.getElem?_eq_some_iff.mp h).choose
  rw [List.getElem?_set, getElem?_fill, getElem?_fill, length_fill, if_pos hlt]
  by_cases hs : index = o
  · subst hs
    simp [h]
  · have hne : o ≠ index := fun heq => hs heq.symm
    simp [hs, hne]

theorem all_isSome_fill :
    (fill parts arrived).all Option.isSome = true ↔ Finset.range parts.length ⊆ arrived := by
  rw [List.all_eq_true]
  constructor
  · intro ha ind hi
    have hlt : ind < parts.length := Finset.mem_range.mp hi
    have ho := ha _ (List.mem_of_getElem? (i := ind)
      (by rw [getElem?_fill, List.getElem?_eq_getElem hlt]; rfl))
    by_contra hn
    simp [hn] at ho
  · intro ha s hs
    obtain ⟨ind, hi⟩ := List.getElem?_of_mem hs
    rw [getElem?_fill] at hi
    obtain ⟨p, hp, rfl⟩ := Option.map_eq_some_iff.mp hi
    have hlt : ind < parts.length := (List.getElem?_eq_some_iff.mp hp).choose
    simp [ha (Finset.mem_range.mpr hlt)]

theorem fill_of_full
    (h : Finset.range parts.length ⊆ arrived) : fill parts arrived = parts.map some := by
  apply List.ext_getElem?
  intro i
  rw [getElem?_fill, List.getElem?_map]
  cases hp : parts[i]? with
  | none => rfl
  | some p =>
    have hlt : i < parts.length := (List.getElem?_eq_some_iff.mp hp).choose
    simp [h (Finset.mem_range.mpr hlt)]

theorem fits_fill (parts : List (List α)) (arrived : Finset Nat) :
    Fits (fill parts arrived) (parts.map length) := by
  rw [Fits, forall₂_iff_get]
  refine ⟨by simp, ?_⟩
  intro i hl hr p hp
  simp only [fill, get_eq_getElem, getElem_mapIdx, getElem_map] at hp ⊢
  split at hp
  · rw [Option.some.inj hp]
  · cases hp

end QuantumLink
