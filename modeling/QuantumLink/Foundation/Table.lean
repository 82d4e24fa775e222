import Mathlib

/-! # Finite tables

What Mathlib's finite maps lack for a table with a size: dropping the entries that fail a test,
how the number of entries changes, and going through the entries in the order of their keys.
-/

namespace QuantumLink

open List Option

/-- A hash map whose order is never looked at. -/
abbrev Table (κ α : Type) := Finmap fun _ : κ => α

namespace Table

variable {κ α : Type}

theorem nodupKeys_filter {e : Multiset (Sigma fun _ : κ => α)} (h : e.NodupKeys)
    (p : Sigma (fun _ : κ => α) → Bool) : (e.filter fun entry => p entry).NodupKeys := by
  induction e using Quotient.inductionOn with
  | h l => exact List.NodupKeys.sublist filter_sublist h

def retain (keep : κ → α → Bool) (table : Table κ α) : Table κ α :=
  ⟨table.entries.filter fun entry => keep entry.1 entry.2,
    nodupKeys_filter table.nodupKeys fun entry => keep entry.1 entry.2⟩

variable [DecidableEq κ]

def size (table : Table κ α) : Nat := table.keys.card

theorem lookup_eq_some_iff {t : Table κ α} :
    t.lookup key = some value ↔ (⟨key, value⟩ : Sigma fun _ : κ => α) ∈ t.entries := by
  induction t using Finmap.induction_on with
  | H l => exact AList.mem_lookup_iff

theorem lookup_retain (k : κ → α → Bool) (t : Table κ α) (key : κ) :
    (t.retain k).lookup key = (t.lookup key).filter (k key) := by
  apply ext
  intro v
  have hr : (t.retain k).lookup key = some v ↔ _ := lookup_eq_some_iff
  rw [hr, filter_eq_some_iff, lookup_eq_some_iff]
  simp [retain]

theorem retain_eq_self {k : κ → α → Bool} {table : Table κ α}
    (h : ∀ key value, table.lookup key = some value → k key value = true) :
    table.retain k = table := by
  apply Finmap.ext_lookup
  intro key
  rw [lookup_retain]
  cases hv : table.lookup key with
  | none => rfl
  | some value => simp [h key value hv]

theorem keys_insert (key : κ) (v : α) (t : Table κ α) :
    (t.insert key v).keys = insert key t.keys := by
  ext other
  rw [Finmap.mem_keys, Finmap.mem_insert, Finset.mem_insert, Finmap.mem_keys]

theorem mem_keys_iff {t : Table κ α} : key ∈ t.keys ↔ ∃ value, t.lookup key = some value := by
  rw [Finmap.mem_keys, Finmap.mem_iff]

theorem size_insert_le (key : κ) (v : α) (t : Table κ α) :
    Table.size (t.insert key v) ≤ t.size + 1 := by
  rw [size, keys_insert]
  exact Finset.card_insert_le key t.keys

theorem size_le_of_lookup {t left : Table κ α}
    (h : ∀ key value, left.lookup key = some value → t.lookup key = some value) :
    left.size ≤ t.size := by
  apply Finset.card_le_card
  intro key hk
  obtain ⟨value, hv⟩ := mem_keys_iff.mp hk
  exact mem_keys_iff.mpr ⟨value, h key value hv⟩

theorem lookup_insert_eq_some {t : Table κ α} (h : (t.insert key value).lookup other = some found) :
    other = key ∧ value = found ∨ other ≠ key ∧ t.lookup other = some found := by
  by_cases hs : other = key
  · rw [hs, Finmap.lookup_insert] at h
    exact .inl ⟨hs, some.inj h⟩
  · rw [Finmap.lookup_insert_of_ne _ hs] at h
    exact .inr ⟨hs, h⟩

theorem lookup_erase_eq_some {t : Table κ α} (h : (t.erase key).lookup other = some found) :
    other ≠ key ∧ t.lookup other = some found := by
  by_cases hs : other = key
  · rw [hs, Finmap.lookup_erase] at h
    cases h
  · exact ⟨hs, (Finmap.lookup_erase_ne hs).symm.trans h⟩

theorem size_erase_le (key : κ) (t : Table κ α) : Table.size (t.erase key) ≤ t.size :=
  size_le_of_lookup fun _ _ h => (lookup_erase_eq_some h).2

theorem erase_eq_self {table : Table κ α} {key : κ} (h : key ∉ table) : table.erase key = table := by
  apply Finmap.ext_lookup
  intro o
  by_cases hk : o = key
  · rw [hk, Finmap.lookup_erase, Finmap.lookup_eq_none.mpr h]
  · rw [Finmap.lookup_erase_ne hk]

theorem erase_insert_self (key : κ) (v : α) (t : Table κ α) :
    Finmap.erase key (t.insert key v) = t.erase key := by
  apply Finmap.ext_lookup
  intro o
  by_cases hk : o = key
  · rw [hk, Finmap.lookup_erase, Finmap.lookup_erase]
  · rw [Finmap.lookup_erase_ne hk, Finmap.lookup_insert_of_ne _ hk, Finmap.lookup_erase_ne hk]

theorem erase_erase_self (key : κ) (t : Table κ α) : Finmap.erase key (t.erase key) = t.erase key :=
  erase_eq_self (Finmap.notMem_erase_self)

/-! ## In the order of the keys -/

section
variable {κ α β : Type} [LinearOrder κ]

def sorted (table : Table κ α) : List (κ × α) :=
  (table.keys.sort (· ≤ ·)).filterMap fun key => (table.lookup key).map (key, ·)

def ofList (entries : List (κ × α)) : Table κ α :=
  entries.foldl (fun table entry => table.insert entry.1 entry.2) ∅

theorem mem_sorted {t : Table κ α} : (key, value) ∈ t.sorted ↔ t.lookup key = some value := by
  simp only [sorted, mem_filterMap, Finset.mem_sort, map_eq_some_iff, Prod.mk.injEq, mem_keys_iff]
  constructor
  · rintro ⟨key', -, value', hl, rfl, rfl⟩
    exact hl
  · intro h
    exact ⟨key, ⟨value, h⟩, value, h, rfl, rfl⟩

theorem keys_sorted_nodup (t : Table κ α) : (t.sorted.map Prod.fst).Nodup := by
  have hs (keys : List κ) :
      ((keys.filterMap fun key => (t.lookup key).map (key, ·)).map Prod.fst).Sublist keys := by
    induction keys with
    | nil => exact List.Sublist.refl _
    | cons key keys ih =>
      cases hl : t.lookup key with
      | none => simpa [hl] using ih.cons key
      | some v => simpa [hl] using ih
  exact List.Nodup.sublist (hs _) (Finset.sort_nodup _ _)

theorem lookup_ofList_concat (entries : List (κ × α)) (entry : κ × α) (key : κ) :
    (ofList (entries ++ [entry])).lookup key =
      if key = entry.1 then some entry.2 else (ofList entries).lookup key := by
  rw [ofList, foldl_append, foldl_cons, foldl_nil]
  split
  · rename_i hs
    rw [hs]
    exact Finmap.lookup_insert _
  · rename_i ho
    exact Finmap.lookup_insert_of_ne _ ho

theorem lookup_ofList {entries : List (κ × α)} (hn : (entries.map Prod.fst).Nodup) :
    (ofList entries).lookup key = some value ↔ (key, value) ∈ entries := by
  induction entries using reverseRecOn with
  | nil => simp [ofList]
  | append_singleton entries entry ih =>
    rw [map_append, map_singleton, nodup_append] at hn
    have hf : entry.1 ∉ entries.map Prod.fst := fun h => hn.2.2 _ h _ (by simp) rfl
    rw [lookup_ofList_concat, mem_append, mem_singleton]
    by_cases hs : key = entry.1
    · have ho : (key, value) ∉ entries := by
        intro h
        exact hf (hs ▸ mem_map_of_mem h)
      rw [if_pos hs, some.injEq, or_iff_right ho]
      constructor
      · intro hv
        exact Prod.ext hs hv.symm
      · intro he
        rw [← he]
    · have ho : (key, value) ≠ entry := fun h => hs (congrArg Prod.fst h)
      rw [if_neg hs, or_iff_left ho]
      exact ih hn.1

theorem ofList_sorted (table : Table κ α) : ofList table.sorted = table := by
  apply Finmap.ext_lookup
  intro key
  apply ext
  intro v
  rw [lookup_ofList (keys_sorted_nodup table), mem_sorted]

theorem sum_sorted (f : α → Nat) (t : Table κ α) : (t.sorted.map fun entry => f entry.2).sum =
      ∑ key ∈ t.keys, (t.lookup key).elim 0 f := by
  have hl (keys : List κ) :
      ((keys.filterMap fun key => (t.lookup key).map (key, ·)).map fun entry => f entry.2).sum =
        (keys.map fun key => (t.lookup key).elim 0 f).sum := by
    induction keys with
    | nil => rfl
    | cons key keys ih => cases ho : t.lookup key <;> simp [ho, ih]
  have hk : (t.keys.sort (· ≤ ·)).toFinset = t.keys := Finset.sort_toFinset _ _
  rw [sorted, hl, ← sum_toFinset _ (Finset.sort_nodup _ _), hk]

/-- Change each value, or drop its entry. -/
def filterMap (change : α → Option β) (table : Table κ α) : Table κ β :=
  ofList (table.sorted.filterMap fun entry => (change entry.2).map (entry.1, ·))

theorem lookup_filterMap (change : α → Option β) (t : Table κ α) (key : κ) :
    (t.filterMap change).lookup key = (t.lookup key).bind change := by
  have hs (e : List (κ × α)) :
      ((e.filterMap fun en => (change en.2).map (en.1, ·)).map Prod.fst).Sublist
        (e.map Prod.fst) := by
    induction e with
    | nil => exact List.Sublist.refl _
    | cons en e ih =>
      cases hc : change en.2 with
      | none => simpa [hc] using ih.cons en.1
      | some v => simpa [hc] using ih
  apply ext
  intro v
  rw [filterMap, lookup_ofList (List.Nodup.sublist (hs _) (keys_sorted_nodup t)),
    mem_filterMap, bind_eq_some_iff]
  constructor
  · rintro ⟨⟨key', old⟩, he, hc⟩
    obtain ⟨new, hn, hp⟩ := map_eq_some_iff.mp hc
    cases hp
    exact ⟨old, mem_sorted.mp he, hn⟩
  · rintro ⟨old, hl, hc⟩
    exact ⟨(key, old), mem_sorted.mpr hl, by rw [hc]; rfl⟩

end

end Table

end QuantumLink
