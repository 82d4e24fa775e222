import QuantumLink.Foundation.Shared
import QuantumLink.Invites.Peers

/-! # Revoked peers

Any number of processes run the commands on the peer store, which is one file that each of them
loads and replaces. A revoked peer can neither be dialed nor selected while the file says that it is
revoked; the file may cease to say so when an invite of the peer is imported again, and when a
command replaces the file by a copy it had loaded before the revocation.
-/

namespace QuantumLink.Invites

open SharedFile PeerCommand Except
open List

namespace PeerStore

/-- No two peers have one id. -/
def Distinct (store : PeerStore) : Prop := (store.peers.map StoredPeer.peerId).Nodup

/-- The peer is not eligible at any time. -/
def Blocked (peerId : String) (store : PeerStore) : Prop :=
  ∀ peer ∈ store.peers, peer.peerId = peerId → peer.revoked = true ∨ peer.expiresAtUnix = 0

variable {peer : StoredPeer}

theorem eligible_iff :
    (∃ now, eligible now peer = true) ↔ ¬ (peer.revoked = true ∨ peer.expiresAtUnix = 0) := by
  simp only [eligible, Bool.and_eq_true, Bool.not_eq_true', decide_eq_true_eq, not_or,
    Bool.not_eq_true, exists_and_left]
  refine and_congr_right fun _ => ⟨?_, fun hne => ⟨0, ?_⟩⟩
  · rintro ⟨now, hn⟩ hz
    rw [hz, UInt64.lt_iff_toNat_lt] at hn
    exact absurd hn (Nat.not_lt_zero _)
  · rw [UInt64.lt_iff_toNat_lt]
    apply Nat.pos_of_ne_zero
    intro hz
    exact hne (UInt64.toNat.inj hz)

variable {store : PeerStore}

theorem mem_dialCandidates :
    peer ∈ store.dialCandidates now ↔ peer ∈ store.peers ∧ eligible now peer = true :=
  mem_filter

variable {peerId : String}

theorem select_eq_false_iff : (store.select peerId now).1 = false ↔
      ∀ peer ∈ store.peers, peer.peerId = peerId → eligible now peer = false := by
  unfold select
  split
  · rename_i ha
    obtain ⟨peer, hp, hm⟩ := any_eq_true.mp ha
    simp only [Bool.and_eq_true, decide_eq_true_eq] at hm
    refine ⟨fun hf => by contradiction, fun hn => ?_⟩
    rw [hn peer hp hm.1] at hm
    exact absurd hm.2 Bool.false_ne_true
  · rename_i ha
    refine ⟨fun _ peer hp hd => ?_, fun _ => rfl⟩
    by_contra he
    refine ha (any_eq_true.mpr ⟨peer, hp, ?_⟩)
    rw [Bool.not_eq_false] at he
    simp [hd, he]

theorem blocked_iff :
    store.Blocked peerId ↔ ∀ now, (∀ peer ∈ store.dialCandidates now, peer.peerId ≠ peerId) ∧
      (store.select peerId now).1 = false := by
  constructor
  · intro hb now
    have hn : ∀ peer ∈ store.peers, peer.peerId = peerId → eligible now peer = false := by
      intro peer hp hd
      by_contra he
      exact eligible_iff.mp ⟨now, by simpa using he⟩ (hb peer hp hd)
    refine ⟨fun peer hp hd => ?_, select_eq_false_iff.mpr hn⟩
    obtain ⟨hm, he⟩ := mem_dialCandidates.mp hp
    rw [hn peer hm hd] at he
    contradiction
  · intro hn peer hp hd
    by_contra ho
    obtain ⟨now, he⟩ := eligible_iff.mpr ho
    exact (hn now).1 peer (mem_dialCandidates.mpr ⟨hp, he⟩) hd

/-! ## What the operations do to the peers -/

theorem map_peerId_modifyFirst {c : StoredPeer → StoredPeer}
    (hc : ∀ peer, peer.peerId = peerId → (c peer).peerId = peerId)
    (p : List StoredPeer) :
    (modifyFirst peerId c p).map StoredPeer.peerId = p.map StoredPeer.peerId := by
  induction p with
  | nil => rfl
  | cons peer r ih =>
    rw [modifyFirst]
    split
    · rename_i hd
      rw [map_cons, map_cons, hc peer hd, hd]
    · rw [map_cons, map_cons, ih]

theorem mem_modifyFirst {c : StoredPeer → StoredPeer}
    {p : List StoredPeer} (hd : (p.map StoredPeer.peerId).Nodup) :
    peer ∈ modifyFirst peerId c p ↔ (peer ∈ p ∧ peer.peerId ≠ peerId) ∨
        ∃ old ∈ p, old.peerId = peerId ∧ peer = c old := by
  induction p with
  | nil => simp [modifyFirst]
  | cons f r ih =>
    rw [map_cons, nodup_cons] at hd
    rw [modifyFirst]
    split
    · rename_i hi
      have hr : ∀ o ∈ r, o.peerId ≠ peerId := by
        intro o ho heq
        exact hd.1 (mem_map.mpr ⟨o, ho, heq.trans hi.symm⟩)
      grind
    · rename_i hi
      rw [mem_cons, ih hd.2]
      grind

theorem has_iff : store.has peerId = true ↔ peerId ∈ store.peers.map StoredPeer.peerId := by
  simp [has]

theorem mem_upsert (hd : store.Distinct) : other ∈ (store.upsert peer).peers ↔
      (other ∈ store.peers ∧ other.peerId ≠ peer.peerId) ∨ other = peer := by
  rw [upsert, mem_mergeSort]
  split
  · rename_i hh
    obtain ⟨old, ho, hi⟩ := mem_map.mp (has_iff.mp hh)
    rw [mem_modifyFirst hd]
    refine or_congr_right ⟨?_, fun heq => ⟨old, ho, hi, heq⟩⟩
    rintro ⟨_, -, -, heq⟩
    exact heq
  · rename_i hh
    rw [mem_append, mem_singleton]
    refine or_congr_left ⟨fun ht => ⟨ht, fun hi => hh ?_⟩, And.left⟩
    exact has_iff.mpr (mem_map.mpr ⟨other, ht, hi⟩)

theorem Distinct.upsert (h : store.Distinct) (peer : StoredPeer) : (store.upsert peer).Distinct := by
  rw [Distinct, PeerStore.upsert]
  have hp := mergeSort_perm
    (if store.has peer.peerId = true then modifyFirst peer.peerId (fun _ => peer) store.peers
      else store.peers ++ [peer]) fun left right => decide (left.peerId ≤ right.peerId)
  rw [(hp.map StoredPeer.peerId).nodup_iff]
  split
  · rw [map_peerId_modifyFirst fun _ _ => rfl]
    exact h
  · rename_i hh
    rw [map_append, map_singleton, ← concat_eq_append]
    exact h.concat fun hm => hh (has_iff.mpr hm)

theorem mem_revoke (hd : store.Distinct) : peer ∈ (store.revoke peerId).2.peers ↔
      (peer ∈ store.peers ∧ peer.peerId ≠ peerId) ∨
        ∃ old ∈ store.peers, old.peerId = peerId ∧ peer = { old with revoked := true } := by
  rw [revoke]
  split
  · exact mem_modifyFirst hd
  · rename_i hh
    have ht : ∀ old ∈ store.peers, old.peerId ≠ peerId :=
      fun old ho hi => hh (has_iff.mpr (mem_map.mpr ⟨old, ho, hi⟩))
    grind

theorem Distinct.revoke (h : store.Distinct) (peerId : String) :
    (store.revoke peerId).2.Distinct := by
  rw [Distinct, PeerStore.revoke]
  split
  · have hi : (modifyFirst peerId (fun p => { p with revoked := true }) store.peers).map
        StoredPeer.peerId = store.peers.map StoredPeer.peerId := by
      apply map_peerId_modifyFirst
      exact fun _ hd => hd
    rw [hi]
    exact h
  · exact h

theorem mem_remove :
    peer ∈ (store.remove peerId).2.peers ↔ peer ∈ store.peers ∧ peer.peerId ≠ peerId := by
  simp [remove]

theorem Distinct.remove (h : store.Distinct) (peerId : String) : (store.remove peerId).2.Distinct :=
  h.sublist (Sublist.map _ filter_sublist)

theorem select_peers (store : PeerStore) (peerId : String) (now : UInt64) :
    (store.select peerId now).2.peers = store.peers := by
  rw [select]
  split
  · rfl
  · rfl

end PeerStore

namespace PeerCommand

open PeerStore

/-- The command is an import of an invite of this peer. -/
def ImportsPeer (decode : InviteDecoder) (peerId : String) : PeerCommand → Prop
  | .importInvite encodedInvite _ => ∃ invite, decode encodedInvite = .ok invite ∧
      invite.hostPeerId = peerId
  | _ => False

/-- The command leaves the peer blocked in what it loaded: it is no import of an invite of the
peer, and the peer was blocked already unless the command is about it. -/
def Keeps (decode : InviteDecoder) (peerId : String) (command : PeerCommand) (copy : PeerStore) :
    Prop :=
  ¬ command.ImportsPeer decode peerId ∧
    (copy.Blocked peerId ∨ command = .revokePeer peerId ∨ command = .removePeer peerId)

variable {decode : InviteDecoder}

theorem distinct_change {co : PeerCommand} {copy c : PeerStore} (h : copy.Distinct)
    (hc : co.change decode copy = .ok c) : c.Distinct := by
  cases co with
  | importInvite e now =>
    simp only [change, bind_eq_ok_iff, mapError_eq_ok_iff, ensure_eq_ok_iff, exists_const]
      at hc
    obtain ⟨i, -, -, ho⟩ := hc
    rw [← ok.inj ho]
    exact h.upsert _
  | revokePeer p =>
    simp only [change, bind_eq_ok_iff, ensure_eq_ok_iff, exists_const] at hc
    rw [← ok.inj hc.2]
    exact h.revoke p
  | removePeer p =>
    simp only [change, bind_eq_ok_iff, ensure_eq_ok_iff, exists_const] at hc
    rw [← ok.inj hc.2]
    exact h.remove p
  | selectPeer p now =>
    simp only [change, bind_eq_ok_iff, ensure_eq_ok_iff, exists_const] at hc
    rw [← ok.inj hc.2, Distinct, select_peers]
    exact h
  | clearPeerSelection =>
    rw [← ok.inj hc]
    exact h

/-- A command that leaves the other peers alone and blocks its own. -/
theorem blocked_iff_of_others {copy co : PeerStore} {q : StoredPeer → Prop}
    (hm : ∀ p, p ∈ co.peers ↔ p ∈ copy.peers ∧ p.peerId ≠ o ∨ q p)
    (hq : ∀ p, q p → p.revoked = true ∨ p.expiresAtUnix = 0) :
    co.Blocked peerId ↔ copy.Blocked peerId ∨ o = peerId := by
  constructor
  · intro hb
    by_cases ho : o = peerId
    · exact .inr ho
    · refine .inl fun p hp hi => hb p ?_ hi
      exact (hm p).mpr (.inl ⟨hp, fun heq => ho (heq.symm.trans hi)⟩)
  · intro hc p hp hi
    obtain ⟨hp, hne⟩ | hp := (hm p).mp hp
    · exact hc.resolve_right (fun heq => hne (hi.trans heq.symm)) p hp hi
    · exact hq p hp

theorem blocked_change_iff (peerId : String) {c : PeerCommand} {copy co : PeerStore}
    (h : copy.Distinct) (hc : c.change decode copy = .ok co) :
    co.Blocked peerId ↔ c.Keeps decode peerId copy := by
  cases c with
  | importInvite e now =>
    simp only [change, bind_eq_ok_iff, mapError_eq_ok_iff, ensure_eq_ok_iff, exists_const]
      at hc
    obtain ⟨i, hd, hu, hn⟩ := hc
    rw [← ok.inj hn]
    have he : i.expiresAtUnix ≠ 0 := by
      intro hz
      rw [hz, UInt64.lt_iff_toNat_lt] at hu
      exact absurd hu (Nat.not_lt_zero _)
    have hk : Keeps decode peerId (.importInvite e now) copy ↔
        i.hostPeerId ≠ peerId ∧ copy.Blocked peerId := by
      simp [Keeps, ImportsPeer, hd]
    rw [hk]
    constructor
    · intro hb
      have hh : i.hostPeerId ≠ peerId := by
        intro hi
        obtain hr | hz := hb _ ((mem_upsert h).mpr (.inr rfl)) hi
        · exact absurd hr Bool.false_ne_true
        · exact he hz
      refine ⟨hh, fun p hp hi => hb p ?_ hi⟩
      exact (mem_upsert h).mpr (.inl ⟨hp, fun heq => hh (heq.symm.trans hi)⟩)
    · rintro ⟨hh, hb⟩ p hp hi
      obtain ⟨hm, -⟩ | rfl := (mem_upsert h).mp hp
      · exact hb p hm hi
      · exact absurd hi hh
  | revokePeer o =>
    simp only [change, bind_eq_ok_iff, ensure_eq_ok_iff, exists_const] at hc
    rw [← ok.inj hc.2, blocked_iff_of_others fun p => mem_revoke h]
    · simp [Keeps, ImportsPeer]
    · rintro p ⟨old, -, -, rfl⟩
      exact .inl rfl
  | removePeer o =>
    simp only [change, bind_eq_ok_iff, ensure_eq_ok_iff, exists_const] at hc
    rw [← ok.inj hc.2, blocked_iff_of_others fun p => mem_remove.trans (or_false _).symm.to_iff]
    · simp [Keeps, ImportsPeer]
    · simp
  | selectPeer o now =>
    simp only [change, bind_eq_ok_iff, ensure_eq_ok_iff, exists_const] at hc
    rw [← ok.inj hc.2]
    simp [Keeps, ImportsPeer, Blocked, select_peers]
  | clearPeerSelection =>
    rw [← ok.inj hc]
    simp [Keeps, ImportsPeer, Blocked, clearSelection]

end PeerCommand

abbrev Processes (π : Type) := SharedFile π PeerCommand PeerStore

def idle (π : Type) : Processes π := ⟨.default, fun _ => none⟩

variable {π : Type} [DecidableEq π]

theorem consistent_run (decode : InviteDecoder) (st : List (Access π PeerCommand)) :
    (run (access (change decode)) (idle π) st).Consistent (change decode) PeerStore.Distinct := by
  apply run_invariant (fun p : Processes π =>
    p.Consistent (change decode) PeerStore.Distinct)
  · intro p s h
    exact h.access (fun _ _ _ => distinct_change) s
  · exact ⟨nodup_nil, fun _ _ hh => by contradiction, fun _ _ hh => by contradiction⟩

theorem blocked_of_revoked {p : Processes π} (h : p.Consistent (change decode) PeerStore.Distinct)
    (hr : (p.access (change decode) (.replace process)).1 = .replaced (.revokePeer peerId)) :
    (p.access (change decode) (.replace process)).2.file.Blocked peerId := by
  cases hh : p.held process with
  | none => simp [access, hh] at hr
  | some he =>
    simp only [access, hh] at hr ⊢
    have hc : he.call = .revokePeer peerId := Answer.replaced.inj hr
    refine (blocked_change_iff peerId (h.copy process he hh) (h.content process he hh)).mpr ?_
    rw [hc]
    exact ⟨not_false, .inr (.inl rfl)⟩

/-- After a revocation of a peer has returned, the peer is never a candidate and never selected
exactly if every command that replaces the file is no import of an invite of the peer, and worked on
a copy in which the peer was blocked already or was itself about the peer. -/
theorem revocation_durable_iff (decode : InviteDecoder) (before after : List (Access π PeerCommand))
    (process : π) (peerId : String)
    (hrevoked : ((run (SharedFile.access (PeerCommand.change decode)) (idle π) before).access
      (PeerCommand.change decode) (.replace process)).1 = .replaced (.revokePeer peerId)) :
    (∀ later, later <+: after → ∀ now,
      (∀ peer ∈ (run (SharedFile.access (PeerCommand.change decode)) (idle π)
        (before ++ .replace process :: later)).file.dialCandidates now, peer.peerId ≠ peerId) ∧
      ((run (SharedFile.access (PeerCommand.change decode)) (idle π)
        (before ++ .replace process :: later)).file.select peerId now).1 = false) ↔
      Along (SharedFile.access (PeerCommand.change decode))
        (fun processes step => ∀ process held, step = .replace process →
          processes.held process = some held → held.call.Keeps decode peerId held.copy)
        (run (SharedFile.access (PeerCommand.change decode)) (idle π)
          (before ++ [.replace process])) after := by
  have hc := consistent_run decode (before ++ [Access.replace process])
  have hb := blocked_of_revoked (consistent_run decode before) hrevoked
  rw [← run_concat] at hb
  rw [← forall_prefix_good_iff (fun _ _ _ => distinct_change)
    (fun _ _ _ => blocked_change_iff peerId) hc hb]
  refine forall₂_congr fun later _ => ?_
  rw [← run_append, append_assoc, singleton_append, PeerStore.blocked_iff]

/-! ## A command that overtakes a revocation -/

def peerInvite (hostPeerId : String) : InviteCode :=
  ⟨"mesh", "party", [], [], hostPeerId, "", .privateFriends, "invite", 1000000000⟩

def plainDecode : InviteDecoder := fun encodedInvite => .ok (peerInvite encodedInvite)

/-- One process imports a peer and revokes it. -/
def revokedSteps : List (Access Nat PeerCommand) :=
  [.load 0 (.importInvite "alice" 5), .replace 0, .load 0 (.revokePeer "alice")]

theorem revokedSteps_returned : ((run (access (change plainDecode)) (idle Nat) revokedSteps).access
      (change plainDecode) (.replace 0)).1 = .replaced (.revokePeer "alice") := by
  decide +kernel

theorem late_selection_durable :
    ((run (access (change plainDecode)) (idle Nat) revokedSteps).access
      (change plainDecode) (.replace 0)).1 = .replaced (.revokePeer "alice") ∧
    ∀ later, later <+: [Access.load 1 (.selectPeer "alice" 6)] → ∀ now,
      (∀ peer ∈ (run (access (change plainDecode)) (idle Nat)
        (revokedSteps ++ .replace 0 :: later)).file.dialCandidates now, peer.peerId ≠ "alice") ∧
      ((run (access (change plainDecode)) (idle Nat)
        (revokedSteps ++ .replace 0 :: later)).file.select "alice" now).1 = false :=
  ⟨revokedSteps_returned, (revocation_durable_iff plainDecode revokedSteps
    [.load 1 (.selectPeer "alice" 6)] 0 "alice" revokedSteps_returned).mpr
    ⟨fun _ _ hs => by contradiction, trivial⟩⟩

/-- A process selects the peer, and in between another one revokes it. -/
theorem selection_overtakes : ((run (access (change plainDecode)) (idle Nat)
      [.load 0 (.importInvite "alice" 5), .replace 0, .load 1 (.selectPeer "alice" 6),
        .load 0 (.revokePeer "alice")]).access
      (change plainDecode) (.replace 0)).1 = .replaced (.revokePeer "alice") ∧
    ((run (access (change plainDecode)) (idle Nat)
      [.load 0 (.importInvite "alice" 5), .replace 0, .load 1 (.selectPeer "alice" 6),
        .load 0 (.revokePeer "alice"), .replace 0, .replace 1]).file.dialCandidates 7).map
      StoredPeer.peerId = ["alice"] := by
  decide +kernel

end QuantumLink.Invites
