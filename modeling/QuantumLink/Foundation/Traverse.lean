import QuantumLink.Foundation.Op

/-! # A fallible function on every item of a list

`mapM` stops at the first item the function refuses. Where it does not stop, the outcome has the
results of the items and nothing else.
-/

namespace QuantumLink

variable {α β ε : Type} {f : α → Except ε β}

theorem mapM_cons_eq_ok_iff : (item :: items).mapM f = .ok results ↔
      ∃ first rest, f item = .ok first ∧ items.mapM f = .ok rest ∧ results = first :: rest := by
  rw [List.mapM_cons, bind_eq_ok_iff]
  constructor
  · rintro ⟨first, hf, h⟩
    obtain ⟨rest, hr, h⟩ := bind_eq_ok_iff.mp h
    exact ⟨first, rest, hf, hr, (Except.ok.inj h).symm⟩
  · rintro ⟨first, rest, hf, hr, rfl⟩
    exact ⟨first, hf, bind_eq_ok_iff.mpr ⟨rest, hr, rfl⟩⟩

theorem mapM_ok_of_forall {i : List α} (h : ∀ item ∈ i, ∃ result, f item = .ok result) :
    ∃ results, i.mapM f = .ok results := by
  induction i with
  | nil => exact ⟨[], rfl⟩
  | cons item i ih =>
    obtain ⟨fi, hf⟩ := h item List.mem_cons_self
    obtain ⟨r, hr⟩ := ih fun o ho => h o (List.mem_cons_of_mem item ho)
    exact ⟨fi :: r, mapM_cons_eq_ok_iff.mpr ⟨fi, r, hf, hr, rfl⟩⟩

theorem mem_iff_of_mapM_ok {i : List α} (h : i.mapM f = .ok results)
    (result : β) : result ∈ results ↔ ∃ item ∈ i, f item = .ok result := by
  induction i generalizing results with
  | nil =>
    cases h
    simp
  | cons item i ih =>
    obtain ⟨fi, r, hf, hr, rfl⟩ := mapM_cons_eq_ok_iff.mp h
    rw [List.mem_cons, ih hr]
    simp [hf, eq_comm]

end QuantumLink
