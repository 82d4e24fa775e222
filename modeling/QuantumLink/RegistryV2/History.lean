import QuantumLink.Foundation.Journal
import QuantumLink.RegistryV2.Contract

/-! # What the registry looks like after any run

The events of a peer form a journal: `registered` opens it, `revoked` closes it,
the revisions are its versions and the actor its owner. The record stored for the
peer is the journal's present state. One accepted call extends one journal and
leaves the others alone, so the correspondence holds after every run.
-/

namespace QuantumLink.RegistryV2

open List

/-- The events of a peer read as a journal. -/
def eventReading : JournalReading RegistryEvent String where
  version event := event.identityRevision.toNat
  owner event := event.actorDaddr
  opens event := event.eventType = "registered"
  closes event := event.eventType = "revoked"

/-! ## The state of one peer -/

/-- A record stored under `peerId` and the journal it stands for. -/
structure Current (peerId : String) (log : List RegistryEvent) (record : StableIdentityRecord) :
    Prop where
  peerId : record.peerId = peerId
  revision : record.identityRevision.toNat = log.length
  valid : record.Valid
  owner : ∀ event ∈ log, event.actorDaddr = record.ownerDaddr
  revoked : record.status = .revoked ↔ ∃ event, log.getLast? = some event ∧
    event.eventType = "revoked"

/-- What holds of one peer in every reached state. -/
structure PeerInvariant (s : Registry) (p : String) : Prop where
  journal : Journal.WellFormed eventReading (s.eventsOf p)
  absent : s.getIdentity p = none → s.eventsOf p = []
  present : ∀ record, s.getIdentity p = some record →
    s.eventsOf p ≠ [] ∧ Current p (s.eventsOf p) record

def Invariant (s : Registry) : Prop := ∀ p, PeerInvariant s p

theorem invariant_new : Invariant Registry.new := by
  intro p
  refine ⟨?_, ?_, ?_⟩
  · rw [Registry.eventsOf_new]
    exact .nil
  · intro _
    rfl
  · intro r h
    simp at h

variable {p : String}

-- A journal whose record is not revoked has no closing entry, since a closing
-- entry would be its last one.
private theorem live_of_not_revoked {log : List RegistryEvent}
    {r : StableIdentityRecord} (ho : Journal.WellFormed eventReading log)
    (hu : Current p log r) (hl : r.status ≠ .revoked) :
    ∀ event ∈ log, ¬ eventReading.closes event := by
  intro event hm hc
  obtain ⟨f, b, hs⟩ := append_of_mem hm
  have hb := ho.closes_last hs hc
  refine hl (hu.revoked.mpr ⟨event, ?_, hc⟩)
  rw [hs, hb]
  simp

variable {env : Env} {call : Call} {s : Registry} {change : Change}

theorem Accepted.extends
    (h : Accepted env call (s.getIdentity call.peerId) change) (hi : PeerInvariant s call.peerId) :
    Journal.Extends eventReading (s.eventsOf call.peerId) change.event := by
  have he := h.event
  cases hs : s.getIdentity call.peerId with
  | none =>
    obtain ⟨ht, _, _, hr⟩ := h.fresh hs
    have hn := hi.absent hs
    rw [hn, he]
    refine ⟨?_, ?_, by simp, by simp⟩
    · show call.identityRevision.toNat = 1
      rw [hr]
      rfl
    · show call.eventType = "registered" ↔ _
      simp [ht]
  | some e =>
    obtain ⟨ht, hl, ho, hr, _, _⟩ := h.next e hs
    obtain ⟨hne, hc⟩ := hi.present e hs
    rw [he]
    refine ⟨?_, ?_, ?_, live_of_not_revoked hi.journal hc hl⟩
    · show call.identityRevision.toNat = _
      rw [hr, hc.revision]
    · show call.eventType = "registered" ↔ _
      exact iff_of_false ht hne
    · intro event hm
      show event.actorDaddr = change.record.ownerDaddr
      rw [hc.owner event hm, ho]

/-- The record of an accepted change is the present state of the extended journal. -/
theorem Accepted.current
    (h : Accepted env call (s.getIdentity call.peerId) change) (hi : PeerInvariant s call.peerId) :
    Current call.peerId (s.eventsOf call.peerId ++ [change.event]) change.record := by
  have he := h.extends hi
  have hr : change.record.identityRevision.toNat = (s.eventsOf call.peerId).length + 1 := by
    rw [h.revision, ← he.version, h.event]
    rfl
  have ha : change.event.actorDaddr = change.record.ownerDaddr := by
    rw [h.event]
    rfl
  have hl : change.record.status = .revoked ↔ ∃ event,
      (s.eventsOf call.peerId ++ [change.event]).getLast? = some event ∧
        event.eventType = "revoked" := by
    rw [h.revoked, getLast?_concat, h.event]
    simp [Call.mkEvent]
  have ho : ∀ event ∈ s.eventsOf call.peerId ++ [change.event],
      event.actorDaddr = change.record.ownerDaddr := by
    intro event hm
    rcases mem_append.mp hm with hm | hm
    · rw [← ha]
      exact he.owner event hm
    · rw [mem_singleton.mp hm, ha]
  cases hs : s.getIdentity call.peerId with
  | none =>
    obtain ⟨_, hv, hp, _⟩ := h.fresh hs
    exact ⟨hp, by simpa using hr, hv, ho, hl⟩
  | some e =>
    obtain ⟨_, _, _, _, hv, hp⟩ := h.next e hs
    obtain ⟨_, hc⟩ := hi.present e hs
    exact ⟨hp hc.peerId, by simpa using hr, hv hc.valid, ho, hl⟩

theorem invariant_commit
    (h : Accepted env call (s.getIdentity call.peerId) change) (hi : Invariant s) :
    Invariant (change.commit s) := by
  intro p
  have hpe := h.event_peerId
  by_cases hp : p = call.peerId
  · subst hp
    have hl : (change.commit s).eventsOf call.peerId =
        s.eventsOf call.peerId ++ [change.event] := by
      rw [eventsOf_commit, if_pos hpe]
    have hg : (change.commit s).getIdentity call.peerId = some change.record := by
      rw [getIdentity_commit, if_pos hpe.symm]
    refine ⟨?_, ?_, ?_⟩
    · rw [hl]
      exact .snoc (hi _).journal (h.extends (hi _))
    · intro hn
      simp [hg] at hn
    · intro r hr
      rw [hg] at hr
      cases hr
      rw [hl]
      exact ⟨by simp, h.current (hi _)⟩
  · have hl : (change.commit s).eventsOf p = s.eventsOf p := by
      rw [eventsOf_commit, if_neg (fun he => hp (he.symm.trans hpe)), append_nil]
    have hg : (change.commit s).getIdentity p = s.getIdentity p := by
      rw [getIdentity_commit, if_neg (fun he => hp (he.trans hpe))]
    refine ⟨?_, ?_, ?_⟩
    · rw [hl]
      exact (hi p).journal
    · rw [hl, hg]
      exact (hi p).absent
    · rw [hl, hg]
      exact (hi p).present

theorem step_invariant (env : Env) (s : Registry) (call : Call) (hi : Invariant s) :
    Invariant (step env s call).2 := by
  rcases step_cases env s call with ⟨c, hd, hs⟩ | ⟨e, _, hs⟩
  · rw [hs]
    exact invariant_commit (decision_inversion hd) hi
  · rw [hs]
    exact hi

theorem reach_invariant (env : Env) (c : List Call) : Invariant (reach env c) :=
  run_invariant Invariant (step_invariant env) invariant_new c

/-! ## What later calls keep -/

/-- A stored record keeps its owner, and its revision does not go back. -/
def Keeps (p : String) (record : StableIdentityRecord) (s : Registry) : Prop :=
  ∃ later, s.getIdentity p = some later ∧ later.ownerDaddr = record.ownerDaddr ∧
    record.identityRevision.toNat ≤ later.identityRevision.toNat

theorem step_keeps (env : Env) (p : String) (r : StableIdentityRecord) (s : Registry)
    (call : Call) (h : Keeps p r s) : Keeps p r (step env s call).2 := by
  obtain ⟨l, hg, ho, hr⟩ := h
  rcases step_cases env s call with ⟨c, hd, hs⟩ | ⟨e, _, hs⟩
  · have ha := decision_inversion hd
    rw [hs]
    by_cases hp : p = call.peerId
    · subst hp
      obtain ⟨_, _, ho', hr', _, _⟩ := ha.next l hg
      refine ⟨c.record, ?_, ho'.trans ho, ?_⟩
      · rw [getIdentity_commit, if_pos ha.event_peerId.symm]
      · rw [ha.revision]
        omega
    · refine ⟨l, ?_, ho, hr⟩
      rw [getIdentity_commit, if_neg (fun he => hp (he.trans ha.event_peerId))]
      exact hg
  · rw [hs]
    exact ⟨l, hg, ho, hr⟩

theorem run_keeps (env : Env) (hg : s.getIdentity p = some record) (ca : List Call) :
    Keeps p record (run (step env) s ca) :=
  run_invariant (Keeps p record) (fun s c => step_keeps env p record s c)
    ⟨record, hg, rfl, le_refl _⟩ ca

theorem step_error_unchanged (h : (step env s call).1 = .error e) : (step env s call).2 = s := by
  rcases step_cases env s call with ⟨c, _, hs⟩ | ⟨e', _, hs⟩
  · rw [hs] at h
    simp at h
  · rw [hs]

/-- The events of one peer, and how they relate to the record stored for it. -/
structure PeerHistory (p : String) (log : List RegistryEvent)
    (stored : Option StableIdentityRecord) : Prop where
  /-- The revisions are `1, 2, ..., n` in order. -/
  revisions : log.map (fun event => event.identityRevision.toNat) = List.range' 1 log.length
  /-- The first event is `registered`, and no other is. -/
  registered : ∀ i event, log[i]? = some event → (event.eventType = "registered" ↔ i = 0)
  stored_iff : stored.isSome ↔ 0 < log.length
  record : ∀ record, stored = some record →
    record.peerId = p ∧ record.identityRevision.toNat = log.length ∧
      validateRecord record = .ok () ∧ ∀ event ∈ log, event.actorDaddr = record.ownerDaddr
  revoked : ∀ record, stored = some record →
    (record.status = .revoked ↔ ∃ event, log.getLast? = some event ∧ event.eventType = "revoked")
  /-- No event follows a `revoked` event. -/
  terminal : ∀ front event back, log = front ++ event :: back → event.eventType = "revoked" →
    back = []

theorem PeerInvariant.history (h : PeerInvariant s p) :
    PeerHistory p (s.eventsOf p) (s.getIdentity p) where
  revisions := h.journal.versions
  registered i event he := h.journal.opens_iff he
  stored_iff := by
    cases hs : s.getIdentity p with
    | none => simp [h.absent hs]
    | some record => simp [length_pos_iff, (h.present record hs).1]
  record record hs := by
    obtain ⟨_, hc⟩ := h.present record hs
    exact ⟨hc.peerId, hc.revision, validateRecord_eq_ok_iff.mpr hc.valid, hc.owner⟩
  revoked record hs := (h.present record hs).2.revoked
  terminal _ _ _ hl hr := h.journal.closes_last hl hr

/-- After every run of the four operations from `new()`, for every peer: the events
and the record correspond, the owner is the one of every earlier state since the
registration, and a call that fails leaves the registry as it was. -/
theorem registry_history_holds (env : Env) (calls : List Call) :
    (∀ p, PeerHistory p ((reach env calls).eventsOf p) ((reach env calls).getIdentity p)) ∧
      (∀ p earlier later record, calls = earlier ++ later →
        (reach env earlier).getIdentity p = some record →
        ∃ record', (reach env calls).getIdentity p = some record' ∧
          record'.ownerDaddr = record.ownerDaddr) ∧
      (∀ call e, (step env (reach env calls) call).1 = .error e →
        (step env (reach env calls) call).2.identities = (reach env calls).identities ∧
          (step env (reach env calls) call).2.events = (reach env calls).events) := by
  refine ⟨?_, ?_, ?_⟩
  · intro p
    exact (reach_invariant env calls p).history
  · intro p earlier later record hc he
    obtain ⟨record', hg, ho, _⟩ := run_keeps env he later
    rw [hc, reach, run_append]
    exact ⟨record', hg, ho⟩
  · intro call e hr
    rw [step_error_unchanged hr]
    exact ⟨rfl, rfl⟩

/-! ## A machine for each peer -/

abbrev PeerState := Option StableIdentityRecord × List RegistryEvent

def peerState (p : String) (s : Registry) : PeerState := (s.getIdentity p, s.eventsOf p)

/-- A call to the machine of its peer, which has the record and the events of that peer only. -/
def peerStep (env : Env) (s : PeerState) (call : Call) : Except RegistryError Unit × PeerState :=
  Op.settle (fun change s => (some change.record, s.2 ++ [change.event])) (call.decision env s.1) s

section
variable (env : Env) (p : String) (s : Registry) (call : Call)

theorem peerState_step :
    peerState p (step env s call).2 = (Option.guard (·.peerId = p) call).elim (peerState p s)
        (fun call => (peerStep env (peerState p s) call).2) ∧
      (call.peerId = p → (step env s call).1 = (peerStep env (peerState p s) call).1) := by
  rcases step_cases env s call with ⟨change, hd, hs⟩ | ⟨e, hd, hs⟩
  · have hp := (decision_inversion hd).event_peerId
    rw [hs, peerState, getIdentity_commit, eventsOf_commit, hp]
    by_cases hc : call.peerId = p
    · subst hc
      simp [Option.guard, peerStep, peerState, hd, Op.settle]
    · simp [Option.guard, peerState, hc, Ne.symm hc]
  · rw [hs]
    by_cases hc : call.peerId = p
    · subst hc
      simp [Option.guard, peerStep, peerState, hd, Op.settle]
    · simp [Option.guard, hc]

/-- What a client of the peer is answered. -/
def peerAnswer : Option (Except RegistryError Unit) :=
  if call.peerId = p then some (step env s call).1 else none

theorem peerAnswer_eq : peerAnswer env p s call = (Option.guard (·.peerId = p) call).bind
    fun call => some (peerStep env (peerState p s) call).1 := by
  by_cases hc : call.peerId = p
  · simp [peerAnswer, Option.guard, hc, (peerState_step env p s call).2 hc]
  · simp [peerAnswer, Option.guard, hc]

end

/-- **Peers are independent.** The registry is one machine for each peer: the record and the events
of a peer and the answers to its calls are those of its machine, fed with the calls that name the
peer. -/
theorem registry_peerwise (env : Env) (calls : List Call) (p : String) :
    peerState p (reach env calls) = run (peerStep env) (none, []) (calls.filter (·.peerId = p)) ∧
      observed (step env) (peerAnswer env p) .new calls =
        observed (peerStep env) (fun s call => some (peerStep env s call).1) (none, [])
          (calls.filter (·.peerId = p)) := by
  have hs := fun s call => (peerState_step env p s call).1
  have hu := observed_eq_filterMap (step env) (Option.guard (·.peerId = p)) .new calls
  rw [← filterMap_eq_filter, ← hu, funext₂ (peerAnswer_eq env p)]
  refine ⟨part_run (peerState p) hs _ _, ?_⟩
  exact observed_part (peerState p) hs (fun s call => some (peerStep env s call).1) .new calls

end QuantumLink.RegistryV2
