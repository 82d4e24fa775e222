import QuantumLink.Discovery.Record
import QuantumLink.Foundation.Table

/-! # Peer stores

The last signed record of each peer, kept so that a peer can still be reached while rendezvous
does not answer. A record replaces a live one only with a greater sequence number, and every write
drops what has expired. Records are filed under the peer id in their own body. Here are the interface
of a store and the store that lives in memory only.
-/

namespace QuantumLink

open Discovery

/-! ## The interface -/

/-- What the connector asks of a store. The clock is read by the store itself, inside `store`. -/
class PeerStore (σ : Type) where
  load (self : σ) (meshId peerId : String) : Option PeerRecord
  store (self : σ) (meshId : String) (record : PeerRecord) (now : UInt64) : σ
  forget (self : σ) (meshId peerId : String) : σ
  len (self : σ) : Nat
  pruneExpired (self : σ) (now : UInt64) : Nat × σ

namespace PeerStore

def live (now : UInt64) (record : PeerRecord) : Bool := decide (now < record.body.expiresAtUnix)

/-- What `load` finds once a record has been stored, from what it found before. -/
def stored (load : String → String → Option PeerRecord) (meshId : String) (record : PeerRecord)
    (now : UInt64) (meshId' peerId : String) : Option PeerRecord :=
  if meshId' = meshId ∧ peerId = record.body.peerId ∧
      ∀ existing ∈ (load meshId' peerId).filter (live now),
        existing.body.sequence < record.body.sequence then
    some record
  else
    (load meshId' peerId).filter (live now)

/-- The operations of a store, seen through `load`. -/
class Lawful (σ : Type) [PeerStore σ] : Prop where
  load_store (self : σ) (meshId : String) (record : PeerRecord) (now : UInt64)
    (meshId' peerId : String) : load (store self meshId record now) meshId' peerId =
      stored (load self) meshId record now meshId' peerId
  load_forget (self : σ) (meshId peerId meshId' peerId' : String) :
    load (forget self meshId peerId) meshId' peerId' =
      if (meshId', peerId') = (meshId, peerId) then none else load self meshId' peerId'
  load_pruneExpired (self : σ) (now : UInt64) (meshId peerId : String) :
    load (pruneExpired self now).2 meshId peerId = (load self meshId peerId).filter (live now)

section
variable {load : String → String → Option PeerRecord} {meshId meshId' peerId : String}
  {record found : PeerRecord} {now : UInt64}

/-- What is found after a record has been stored is that record or was found before. -/
theorem stored_eq_some (h : stored load meshId record now meshId' peerId = some found) :
    (meshId' = meshId ∧ peerId = record.body.peerId ∧ found = record) ∨
      load meshId' peerId = some found := by
  unfold stored at h
  split at h
  · rename_i hf
    exact .inl ⟨hf.1, hf.2.1, (Option.some.inj h).symm⟩
  · exact .inr (Option.filter_eq_some_iff.mp h).1

theorem sequence_le_of_stored
    (h : stored load meshId record now meshId record.body.peerId = some found) :
    record.body.sequence ≤ found.body.sequence := by
  unfold stored at h
  split at h
  · cases h
    exact UInt64.le_refl _
  · rename_i hk
    refine UInt64.not_lt.mp fun hlt => hk ⟨rfl, rfl, ?_⟩
    intro e he
    rw [h] at he
    cases he
    exact hlt

theorem stored_of_kept (hk : ∃ existing ∈ (load meshId record.body.peerId).filter (live now),
      record.body.sequence ≤ existing.body.sequence) :
    stored load meshId record now meshId' peerId = (load meshId' peerId).filter (live now) := by
  refine if_neg ?_
  rintro ⟨rfl, rfl, hl⟩
  obtain ⟨existing, he, hle⟩ := hk
  exact absurd hle (UInt64.not_le.mpr (hl existing he))

theorem stored_of_newer (hn : ¬ ∃ existing ∈ (load meshId record.body.peerId).filter (live now),
      record.body.sequence ≤ existing.body.sequence) :
    stored load meshId record now meshId' peerId =
      if meshId' = meshId ∧ peerId = record.body.peerId then some record
      else (load meshId' peerId).filter (live now) := by
  refine if_congr ⟨fun h => ⟨h.1, h.2.1⟩, ?_⟩ rfl rfl
  rintro ⟨rfl, rfl⟩
  exact ⟨rfl, rfl, fun existing he =>
    UInt64.not_le.mp fun hle => hn ⟨existing, he, hle⟩⟩

end

/-! ## The store in memory -/

abbrev Key := String × String

/-- Every record is filed under its own peer id. -/
def Filed (records : Table Key PeerRecord) : Prop :=
  ∀ meshId peerId record, records.lookup (meshId, peerId) = some record →
    record.body.peerId = peerId

structure InMemoryPeerStore where
  records : Table Key PeerRecord
  filed : Filed records

def unexpired (records : Table Key PeerRecord) (now : UInt64) : Table Key PeerRecord :=
  records.retain fun _ record => live now record

theorem lookup_unexpired (r : Table Key PeerRecord) (now : UInt64) (key : Key) :
    (unexpired r now).lookup key = (r.lookup key).filter (live now) :=
  Table.lookup_retain _ r key

theorem Filed.unexpired (h : Filed records) (now : UInt64) :
    Filed (PeerStore.unexpired records now) := by
  intro m p r hr
  rw [lookup_unexpired, Option.filter_eq_some_iff] at hr
  exact h m p r hr.1

theorem Filed.insert (h : Filed records) (meshId : String)
    (record : PeerRecord) : Filed (records.insert (meshId, record.body.peerId) record) := by
  intro meshId' peerId other ht
  rcases Table.lookup_insert_eq_some ht with ⟨hs, rfl⟩ | ⟨_, ho⟩
  · exact (Prod.mk.inj hs).2.symm
  · exact h meshId' peerId other ho

theorem Filed.erase (h : Filed records) (key : Key) : Filed (records.erase key) := by
  intro m p r hr
  exact h m p r (Table.lookup_erase_eq_some hr).2

namespace InMemoryPeerStore

def new : InMemoryPeerStore := ⟨∅, by intro meshId peerId record h; simp at h⟩

variable (self : InMemoryPeerStore)

def load (meshId peerId : String) : Option PeerRecord :=
  self.records.lookup (meshId, peerId)

def store (meshId : String) (record : PeerRecord) (now : UInt64) :
    InMemoryPeerStore :=
  let live := PeerStore.unexpired self.records now
  if ∃ existing ∈ live.lookup (meshId, record.body.peerId),
      record.body.sequence ≤ existing.body.sequence then
    ⟨live, self.filed.unexpired now⟩
  else
    ⟨live.insert (meshId, record.body.peerId) record,
      (self.filed.unexpired now).insert meshId record⟩

def forget (meshId peerId : String) : InMemoryPeerStore :=
  ⟨self.records.erase (meshId, peerId), self.filed.erase (meshId, peerId)⟩

def len : Nat := Table.size self.records

def pruneExpired (now : UInt64) : Nat × InMemoryPeerStore :=
  (self.len - Table.size (PeerStore.unexpired self.records now),
    ⟨PeerStore.unexpired self.records now, self.filed.unexpired now⟩)

variable (s : InMemoryPeerStore)

theorem load_store (meshId : String) (record : PeerRecord) (now : UInt64) (meshId' peerId : String) :
    (s.store meshId record now).load meshId' peerId =
      stored s.load meshId record now meshId' peerId := by
  have hl := lookup_unexpired s.records now
  by_cases hk : ∃ existing ∈ (PeerStore.unexpired s.records now).lookup
      (meshId, record.body.peerId), record.body.sequence ≤ existing.body.sequence
  · simp only [store, if_pos hk]
    rw [hl] at hk
    rw [stored_of_kept hk]
    exact hl (meshId', peerId)
  · simp only [store, if_neg hk, load]
    rw [hl] at hk
    rw [stored_of_newer hk]
    by_cases hs : (meshId', peerId) = (meshId, record.body.peerId)
    · rw [if_pos (Prod.mk.inj hs), hs]
      exact Finmap.lookup_insert _
    · rw [if_neg fun h => hs (Prod.ext h.1 h.2)]
      exact (Finmap.lookup_insert_of_ne _ hs).trans (hl _)

theorem load_forget (meshId peerId meshId' peerId' : String) :
    (s.forget meshId peerId).load meshId' peerId' =
      if (meshId', peerId') = (meshId, peerId) then none else s.load meshId' peerId' := by
  split
  · rename_i hs
    simp only [forget, load]
    rw [hs]
    exact Finmap.lookup_erase _ _
  · rename_i ho
    exact Finmap.lookup_erase_ne ho

instance : PeerStore InMemoryPeerStore := ⟨load, store, forget, len, pruneExpired⟩

instance : Lawful InMemoryPeerStore where
  load_store := load_store
  load_forget := load_forget
  load_pruneExpired self now meshId peerId := lookup_unexpired self.records now (meshId, peerId)

end InMemoryPeerStore

end PeerStore

end QuantumLink
