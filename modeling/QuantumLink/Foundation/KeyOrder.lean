import Mathlib

/-! # Sorting and deduplicating by a key

A list is sorted by a key, and of neighbours with one key only the first stays. No key is lost, and
where different items have different keys no item is: the outcome then depends only on which items
there are.
-/

namespace QuantumLink

open List

variable {α κ : Type} [LinearOrder κ]

/-- A stable sort by key, then the removal of items whose key their predecessor has. -/
def sortDedupByKey (key : α → κ) (items : List α) : List α :=
  (items.mergeSort fun a b => decide (key a ≤ key b)).destutter fun a b => key a ≠ key b

theorem decide_key_trans (key : α → κ) (a b c : α) (ha : decide (key a ≤ key b) = true)
    (hb : decide (key b ≤ key c) = true) : decide (key a ≤ key c) = true := by
  rw [decide_eq_true_eq] at *
  exact le_trans ha hb

theorem decide_key_total (key : α → κ) (a b : α) :
    (decide (key a ≤ key b) || decide (key b ≤ key a)) = true := by
  rw [Bool.or_eq_true, decide_eq_true_eq, decide_eq_true_eq]
  exact le_total (key a) (key b)

theorem pairwise_mergeSort_key (key : α → κ) (items : List α) :
    (items.mergeSort fun a b => decide (key a ≤ key b)).Pairwise fun a b => key a ≤ key b := by
  simpa only [decide_eq_true_eq] using
    pairwise_mergeSort (decide_key_trans key) (decide_key_total key) items

theorem filter_mergeSort_key (key : α → κ) (items : List α) (k : κ) :
    (items.mergeSort fun a b => decide (key a ≤ key b)).filter (key · = k) =
      items.filter (key · = k) := by
  have hw : (items.filter (key · = k)).Pairwise fun a b => decide (key a ≤ key b) = true := by
    refine pairwise_iff_forall_sublist.mpr fun {a b} h => ?_
    have ha : key a = k := by simpa using of_mem_filter (h.subset (by simp : a ∈ [a, b]))
    have hb : key b = k := by simpa using of_mem_filter (h.subset (by simp : b ∈ [a, b]))
    simp [ha, hb]
  have hs := (sublist_mergeSort (decide_key_trans key) (decide_key_total key) hw
    filter_sublist).filter (key · = k)
  simp only [filter_filter, Bool.and_self] at hs
  exact (hs.eq_of_length ((mergeSort_perm items _).filter _).length_eq.symm).symm

variable {key : α → κ} {items : List α} {item : α}

theorem mem_of_mem_sortDedupByKey (h : item ∈ sortDedupByKey key items) : item ∈ items :=
  mem_mergeSort.mp ((destutter_sublist _ _).subset h)

theorem exists_mem_destutter (key : α → κ) (h : item ∈ items) :
    ∃ kept ∈ items.destutter fun a b => key a ≠ key b, key kept = key item := by
  cases items with
  | nil => simp at h
  | cons first r =>
    rw [destutter_cons']
    induction r generalizing first with
    | nil =>
      have hf : item = first := by simpa using h
      exact ⟨first, by simp, by rw [hf]⟩
    | cons second r ih =>
      by_cases he : key first ≠ key second
      · rw [destutter'_cons_pos r (R := fun a b => key a ≠ key b) he]
        rcases mem_cons.mp h with hf | hr
        · exact ⟨first, by simp, by rw [hf]⟩
        · obtain ⟨kept, hk, heq⟩ := ih second hr
          exact ⟨kept, mem_cons_of_mem _ hk, heq⟩
      · rw [destutter'_cons_neg r (R := fun a b => key a ≠ key b) he]
        have ha : key first = key second := not_not.mp he
        rcases mem_cons.mp h with hf | hr
        · obtain ⟨kept, hk, heq⟩ := ih first (by simp [hf])
          exact ⟨kept, hk, heq⟩
        · rcases mem_cons.mp hr with hs | hl
          · exact ⟨first, mem_destutter' _ _ _, by rw [hs, ha]⟩
          · obtain ⟨kept, hk, heq⟩ := ih first (mem_cons_of_mem _ hl)
            exact ⟨kept, hk, heq⟩

theorem exists_mem_sortDedupByKey (key : α → κ) (h : item ∈ items) :
    ∃ kept ∈ sortDedupByKey key items, key kept = key item :=
  exists_mem_destutter key (mem_mergeSort.mpr h)

theorem mem_sortDedupByKey_iff (hi : Set.InjOn key {item | item ∈ items}) :
    item ∈ sortDedupByKey key items ↔ item ∈ items := by
  constructor
  · exact mem_of_mem_sortDedupByKey
  · intro h
    obtain ⟨k, hk, he⟩ := exists_mem_sortDedupByKey key h
    rwa [← hi (mem_of_mem_sortDedupByKey hk) h he]

theorem isChain_lt_of_ne (hle : items.Pairwise fun a b => key a ≤ key b)
    (hne : items.IsChain fun a b => key a ≠ key b) : items.IsChain fun a b => key a < key b := by
  induction items with
  | nil => exact isChain_nil
  | cons f r ih =>
    rw [pairwise_cons] at hle
    rw [isChain_cons] at hne ⊢
    refine ⟨fun n hn => ?_, ih hle.2 hne.2⟩
    exact lt_of_le_of_ne (hle.1 n (mem_of_mem_head? hn)) (hne.1 n hn)

theorem sortDedupByKey_pairwise (key : α → κ) (items : List α) :
    (sortDedupByKey key items).Pairwise fun a b => key a < key b := by
  have hle : (sortDedupByKey key items).Pairwise fun a b => key a ≤ key b :=
    (pairwise_mergeSort_key key items).sublist (destutter_sublist _ _)
  have : Trans (fun a b : α => key a < key b) (fun a b => key a < key b)
      (fun a b => key a < key b) := ⟨fun hab hbc => lt_trans hab hbc⟩
  exact isChain_iff_pairwise.mp (isChain_lt_of_ne hle (isChain_destutter _ _))

theorem sortDedupByKey_nodup (key : α → κ) (items : List α) :
    ((sortDedupByKey key items).map key).Nodup := by
  rw [Nodup, pairwise_map]
  exact (sortDedupByKey_pairwise key items).imp fun hlt => ne_of_lt hlt

theorem sortDedupByKey_congr {others : List α}
    (hi : Set.InjOn key {item | item ∈ items}) (h : ∀ item, item ∈ items ↔ item ∈ others) :
    sortDedupByKey key items = sortDedupByKey key others := by
  have ho : Set.InjOn key {item | item ∈ others} := by
    simpa only [← h] using hi
  have hp : (sortDedupByKey key items).Perm (sortDedupByKey key others) := by
    rw [perm_ext_iff_of_nodup (Nodup.of_map key (sortDedupByKey_nodup key items))
      (Nodup.of_map key (sortDedupByKey_nodup key others))]
    intro item
    rw [mem_sortDedupByKey_iff hi, mem_sortDedupByKey_iff ho, h]
  exact hp.eq_of_pairwise (fun a b _ _ hab ha => absurd ha (lt_asymm hab))
    (sortDedupByKey_pairwise key items) (sortDedupByKey_pairwise key others)

end QuantumLink
