import QuantumLink.PeerStore.Format
import QuantumLink.PeerStore.Memory

/-! # The records of the peer store that has a file

What the lock of the store protects: the records of each mesh in a map of their own. A call does
all its work on them in one section under the lock, and says there what, if anything, is to be
written to the file afterwards.
-/

namespace QuantumLink.PeerStore

open Discovery Finset Finmap Option

structure FileStoreInner where
  records : Meshes

/-- What a section under the lock leaves to do: the records to write, and the records kept. -/
structure Section where
  snapshot : Option Meshes
  inner : FileStoreInner

namespace FileStoreInner

variable (self : FileStoreInner)

/-- The unexpired records; a mesh that has none left is dropped. -/
def unexpired (now : UInt64) : FileStoreInner :=
  ⟨self.records.filterMap fun byPeer =>
    let left := byPeer.retain fun _ record => live now record
    if left.keys = ∅ then none else some left⟩

def load (meshId peerId : String) : Option PeerRecord :=
  (self.records.lookup meshId).bind fun byPeer => byPeer.lookup peerId

def len : Nat := (self.records.sorted.map fun entry => entry.2.size).sum

def store (meshId : String) (record : PeerRecord) (now : UInt64) :
    Section :=
  let pruned := self.unexpired now
  let byPeer := (pruned.records.lookup meshId).getD ∅
  if ∃ existing ∈ byPeer.lookup record.body.peerId,
      record.body.sequence ≤ existing.body.sequence then
    ⟨none, ⟨pruned.records.insert meshId byPeer⟩⟩
  else
    let records := pruned.records.insert meshId (byPeer.insert record.body.peerId record)
    ⟨some records, ⟨records⟩⟩

def forget (meshId peerId : String) : Section :=
  match self.records.lookup meshId with
  | none => ⟨none, self⟩
  | some byPeer =>
    if peerId ∈ byPeer then
      let left := byPeer.erase peerId
      let records :=
        if left.keys = ∅ then self.records.erase meshId else self.records.insert meshId left
      ⟨some records, ⟨records⟩⟩
    else ⟨none, self⟩

/-- The number of records that were dropped comes with it. -/
def pruneExpired (now : UInt64) : Nat × Section :=
  let pruned := self.unexpired now
  let removed := self.len - pruned.len
  (removed, ⟨if removed = 0 then none else some pruned.records, pruned⟩)

/-! ## What `load` finds afterwards -/

variable (s : FileStoreInner)

theorem load_unexpired (now : UInt64) (m p : String) :
    (s.unexpired now).load m p = (s.load m p).filter (live now) := by
  unfold load unexpired
  rw [Table.lookup_filterMap]
  cases hm : s.records.lookup m with
  | none => rfl
  | some b =>
    have hr := Table.lookup_retain (fun _ r => live now r) b p
    simp only [bind_some]
    split
    · rename_i he
      have hn : (b.retain fun _ r => live now r).lookup p = none := by
        rw [lookup_eq_none, ← mem_keys, he]
        exact notMem_empty p
      rw [hr] at hn
      exact hn.symm
    · exact hr

theorem load_insert (r : Meshes) (meshId : String) (byPeer : Table String PeerRecord)
    (meshId' peerId : String) :
    load ⟨r.insert meshId byPeer⟩ meshId' peerId =
      if meshId' = meshId then byPeer.lookup peerId else load ⟨r⟩ meshId' peerId := by
  unfold load
  split
  · rename_i hs
    have hl : (r.insert meshId byPeer).lookup meshId' = some byPeer := by
      rw [hs]
      exact lookup_insert _
    rw [hl, bind_some]
  · rename_i ho
    rw [lookup_insert_of_ne _ ho]

theorem lookup_getD (m peerId : String) :
    ((s.records.lookup m).getD ∅).lookup peerId = s.load m peerId := by
  unfold load
  cases s.records.lookup m with
  | none => exact lookup_empty peerId
  | some b => rfl

/-- `entry(..).or_default()` adds no record. -/
theorem load_entry :
    load ⟨s.records.insert meshId ((s.records.lookup meshId).getD ∅)⟩ meshId' peerId =
      s.load meshId' peerId := by
  rw [load_insert, lookup_getD]
  split
  · rename_i hs
    rw [hs]
  · rfl

theorem load_store (meshId : String) (r : PeerRecord) (now : UInt64) (meshId' peerId : String) :
    (s.store meshId r now).inner.load meshId' peerId =
      stored s.load meshId r now meshId' peerId := by
  have hl := load_unexpired s now
  have hm := lookup_getD (s.unexpired now) meshId
  by_cases hk : ∃ existing ∈ ((s.unexpired now).records.lookup meshId).getD ∅ |>.lookup
      r.body.peerId, r.body.sequence ≤ existing.body.sequence
  · simp only [store, if_pos hk, load_entry]
    rw [hm, hl] at hk
    rw [stored_of_kept hk, hl]
  · simp only [store, if_neg hk, load_insert]
    rw [hm, hl] at hk
    rw [stored_of_newer hk]
    by_cases hs : meshId' = meshId
    · by_cases hp : peerId = r.body.peerId
      · rw [if_pos hs, hp, if_pos ⟨hs, rfl⟩]
        exact lookup_insert _
      · rw [if_pos hs, if_neg fun h => hp h.2, lookup_insert_of_ne _ hp, hm, hl, hs]
    · rw [if_neg hs, if_neg fun h => hs h.1, hl]

/-! ## What is left to write -/

/-- The mesh and peer ids that have a record. -/
def keys (self : FileStoreInner) : Finset ((_ : String) × String) :=
  self.records.keys.sigma fun meshId => ((self.records.lookup meshId).getD ∅).keys

theorem mem_keys {s : FileStoreInner} :
    ⟨meshId, peerId⟩ ∈ s.keys ↔ ∃ record, s.load meshId peerId = some record := by
  simp only [keys, mem_sigma, Table.mem_keys_iff, lookup_getD]
  constructor
  · exact fun h => h.2
  · rintro ⟨record, hl⟩
    obtain ⟨b, hm, -⟩ := bind_eq_some_iff.mp hl
    exact ⟨⟨b, hm⟩, record, hl⟩

theorem len_eq_card : s.len = s.keys.card := by
  rw [len, Table.sum_sorted, keys, card_sigma]
  refine sum_congr rfl ?_
  intro m _
  cases s.records.lookup m with
  | none | some b => rfl

theorem load_unexpired_of_len {s : FileStoreInner}
    (h : s.len - (s.unexpired now).len = 0) (me peerId : String) :
    (s.unexpired now).load me peerId = s.load me peerId := by
  have hu : (s.unexpired now).keys ⊆ s.keys := by
    rintro ⟨m, p⟩ hm
    obtain ⟨r, hl⟩ := mem_keys.mp hm
    rw [load_unexpired, filter_eq_some_iff] at hl
    exact mem_keys.mpr ⟨r, hl.1⟩
  rw [len_eq_card, len_eq_card] at h
  have hk := eq_of_subset_of_card_le hu (Nat.le_of_sub_eq_zero h)
  cases hl : s.load me peerId with
  | none => rw [load_unexpired, hl, filter_none]
  | some r =>
    have hm : ⟨me, peerId⟩ ∈ (s.unexpired now).keys := by
      rw [hk]
      exact mem_keys.mpr ⟨r, hl⟩
    obtain ⟨f, hf⟩ := mem_keys.mp hm
    have hs := hf
    rw [load_unexpired, hl, filter_eq_some_iff] at hs
    rw [hf, ← some.inj hs.1]

end FileStoreInner

/-- The second store is the first one less some records that have expired. -/
def Trimmed (now : UInt64) (before after : FileStoreInner) : Prop :=
  ∀ meshId peerId, after.load meshId peerId = before.load meshId peerId ∨
    after.load meshId peerId = none ∧
      ∃ record, before.load meshId peerId = some record ∧ record.body.expiresAtUnix ≤ now

theorem Trimmed.refl (now : UInt64) (self : FileStoreInner) : Trimmed now self self :=
  fun _ _ => .inl rfl

theorem Trimmed.trans (hab : Trimmed now a b) (hbc : Trimmed now b c) : Trimmed now a c := by
  intro m p
  obtain hs | ⟨ho, he⟩ := hab m p
  · have hn := hbc m p
    rw [hs] at hn
    exact hn
  · refine .inr ⟨?_, he⟩
    obtain hs | ⟨hg, -⟩ := hbc m p
    · rw [hs, ho]
    · exact hg

theorem trimmed_unexpired (h : reading ≤ now) (s : FileStoreInner) :
    Trimmed now s (s.unexpired reading) := by
  intro m p
  rw [FileStoreInner.load_unexpired]
  cases ho : s.load m p with
  | none => exact .inl rfl
  | some r =>
    by_cases hl : live reading r = true
    · exact .inl (filter_some_pos hl)
    · refine .inr ⟨filter_some_neg (Bool.eq_false_iff.mpr hl), r, rfl, ?_⟩
      rw [live, decide_eq_true_eq, UInt64.not_lt] at hl
      exact UInt64.le_trans hl h

/-- What a section leaves: what it keeps is to be written, or it is what was there before, less
some records that have expired. -/
inductive Settles (now : UInt64) (before : FileStoreInner) : Section → Prop
  | write (inner : FileStoreInner) : Settles now before ⟨some inner.records, inner⟩
  | keep (inner : FileStoreInner) (htrimmed : Trimmed now before inner) :
      Settles now before ⟨none, inner⟩

namespace FileStoreInner

theorem store_settles (h : reading ≤ now) (s : FileStoreInner) (meshId : String) (r : PeerRecord) :
    Settles now s (s.store meshId r reading) := by
  by_cases hk : ∃ existing ∈ ((s.unexpired reading).records.lookup meshId).getD ∅ |>.lookup
      r.body.peerId, r.body.sequence ≤ existing.body.sequence
  · simp only [store, if_pos hk]
    refine .keep _ ?_
    intro meshId' peerId
    rw [load_entry]
    exact trimmed_unexpired h s meshId' peerId
  · simp only [store, if_neg hk]
    exact .write ⟨_⟩

theorem forget_settles (now : UInt64) (s : FileStoreInner) (m p : String) :
    Settles now s (s.forget m p) := by
  unfold forget
  split
  · exact .keep s (Trimmed.refl now s)
  · split
    · exact .write ⟨_⟩
    · exact .keep s (Trimmed.refl now s)

theorem pruneExpired_settles (now r : UInt64) (s : FileStoreInner) :
    Settles now s (s.pruneExpired r).2 := by
  simp only [pruneExpired]
  split
  · rename_i hr
    exact .keep _ fun m p => .inl (load_unexpired_of_len hr m p)
  · exact .write _

end FileStoreInner

end QuantumLink.PeerStore
