import QuantumLink.Mesh.Connector

/-! # The sequence of the records relied on

The store gives up a live record only for one with a greater sequence number, but the connector
goes on with what rendezvous answered whether or not the store took it. So the sequence numbers of
the records relied on follow the answers: where rendezvous never answers for a peer with less than
it did before, they do not go back either.
-/

namespace QuantumLink.Mesh

open Device Discovery Identity
open PeerStore (InMemoryPeerStore)
open PeerStore

variable {σ : Type} [PeerStore σ]

/-- Rendezvous answers a call with a record that verifies. -/
def Answers (crates : ClientCrates) (config : MeshConnectorConfig) (call : Call)
    (fresh : PeerRecord) : Prop :=
  call.rendezvous = .ok (some fresh) ∧ fresh.Verified crates.device config.meshId call.clock.fresh

/-- The server answers with records of the peer it is asked for, and not with a lower sequence
number than it gave before or than the store starts with, while that earlier record lives. -/
structure Honest (crates : ClientCrates) (config : MeshConnectorConfig) (store : σ)
    (calls : List Call) : Prop where
  own : ∀ call ∈ calls, ∀ fresh, Answers crates config call fresh →
    fresh.body.peerId = call.remotePeerId
  ordered : calls.Pairwise fun before after =>
    before.remotePeerId = after.remotePeerId → ∀ earlier fresh,
      Answers crates config before earlier → Answers crates config after fresh →
      after.clock.store < earlier.body.expiresAtUnix →
      earlier.body.sequence ≤ fresh.body.sequence
  initial : ∀ call ∈ calls, ∀ cached fresh,
    PeerStore.load store config.meshId call.remotePeerId = some cached →
      Answers crates config call fresh → call.clock.store < cached.body.expiresAtUnix →
      cached.body.sequence ≤ fresh.body.sequence

/-- The clock does not run back, within a call and from one use of the store to the next. -/
structure ClockRuns (calls : List Call) : Prop where
  fresh : ∀ call ∈ calls, call.clock.fresh ≤ call.clock.store
  verify : ∀ call ∈ calls, call.clock.store ≤ call.clock.verify
  store : calls.Pairwise fun before after => before.clock.store ≤ after.clock.store

variable {crates : ClientCrates} {config : MeshConnectorConfig} {store : σ} {call : Call}
  {fresh found : PeerRecord}

/-- The record a call relies on is an answer that verified, or what the store had for the peer. -/
theorem relied_record_source (hc : call.clock.fresh ≤ call.clock.verify)
    (h : (perform crates config store call).1 = .ok trusted) :
    checkAcl config call.remotePeerId = .ok () ∧ (Answers crates config call trusted.record ∨
        (perform crates config store call).2 = store ∧
          load store config.meshId call.remotePeerId = some trusted.record) := by
  obtain ⟨hac, ho, ht⟩ := perform_eq_ok_iff.mp ⟨trusted.source, h⟩
  have hv := (verifyTrust_eq_ok_iff.mp ht).1
  refine ⟨hac, ?_⟩
  obtain ⟨ha, -⟩ | ⟨hn, hl⟩ := ho
  · -- an answer that verified at the end of the call had verified at its start
    exact .inl ⟨ha, { hv with unexpired := UInt64.lt_of_le_of_lt hc hv.unexpired }⟩
  · refine .inr ⟨?_, hl⟩
    obtain hs | ⟨fresh, ha, -⟩ := perform_store crates config store call
    · exact hs
    · exact absurd ha (hn fresh)

section
variable [PeerStore.Lawful σ]

theorem load_perform
    (h : load (perform crates config store call).2 config.meshId peerId = some found) :
    Answers crates config call found ∧ found.body.peerId = peerId ∨
      load store config.meshId peerId = some found := by
  obtain hsa | ⟨f, ha, hv, hs⟩ := perform_store crates config store call
  · rw [hsa] at h
    exact .inr h
  · rw [hs, Lawful.load_store] at h
    obtain ⟨-, rfl, rfl⟩ | hb := stored_eq_some h
    · exact .inl ⟨⟨ha, hv⟩, rfl⟩
    · exact .inr hb

theorem load_run
    (h : load (run (perform crates config) store calls) config.meshId peerId = some found) :
    (∃ call ∈ calls, Answers crates config call found ∧ found.body.peerId = peerId) ∨
      load store config.meshId peerId = some found := by
  refine run_invariant_of_mem (fun r => ∀ found, load r config.meshId peerId = some found →
      (∃ call ∈ calls, Answers crates config call found ∧ found.body.peerId = peerId) ∨
        load store config.meshId peerId = some found) ?_ calls ?_ found h
  · intro found hf
    exact .inr hf
  · intro call hc r ih found hf
    obtain ha | hb := load_perform hf
    · exact .inl ⟨call, hc, ha⟩
    · exact ih found hb

/-- The store has nothing older than the record for the peer. -/
def NotBelow (config : MeshConnectorConfig) (peerId : String) (record : PeerRecord)
    (store : σ) : Prop :=
  ∀ found, PeerStore.load store config.meshId peerId = some found →
    record.body.sequence ≤ found.body.sequence

theorem notBelow_run (h : NotBelow config peerId record store)
    (ha : ∀ call ∈ calls, ∀ fresh, Answers crates config call fresh →
      fresh.body.peerId = peerId → record.body.sequence ≤ fresh.body.sequence) :
    NotBelow config peerId record (run (perform crates config) store calls) := by
  refine run_invariant_of_mem (NotBelow config peerId record) h calls ?_
  intro call hc r ih f hf
  obtain ⟨hn, hp⟩ | hb := load_perform hf
  · exact ha call hc f hn hp
  · exact ih f hb

theorem notBelow_perform (hc : call.clock.fresh ≤ call.clock.verify)
    (ho : ∀ fresh, Answers crates config call fresh → fresh.body.peerId = call.remotePeerId)
    (h : (perform crates config store call).1 = .ok trusted) :
    NotBelow config call.remotePeerId trusted.record (perform crates config store call).2 := by
  intro f hf
  obtain ⟨hac, ha | ⟨hs, hl⟩⟩ := relied_record_source hc h
  · rw [perform_store_fresh hac ha.1 ha.2, Lawful.load_store, ← ho _ ha] at hf
    exact sequence_le_of_stored hf
  · rw [hs, hl] at hf
    cases hf
    exact UInt64.le_refl _

/-- Once a call has relied on a record, honest answers for the peer are not older while the record
lives. -/
theorem answers_not_below (hh : Honest crates config store (front ++ call :: back))
    (hc : call.clock.fresh ≤ call.clock.verify)
    (h : (perform crates config (run (perform crates config) store front) call).1 = .ok trusted)
    (hf : after ∈ back) (hp : call.remotePeerId = after.remotePeerId)
    (ha : Answers crates config after fresh)
    (hl : after.clock.store < trusted.record.body.expiresAtUnix) :
    trusted.record.body.sequence ≤ fresh.body.sequence := by
  have ho := List.pairwise_append.mp hh.ordered
  obtain ⟨-, hs | ⟨-, hlo⟩⟩ := relied_record_source hc h
  · exact (List.pairwise_cons.mp ho.2.1).1 after hf hp _ _ hs ha hl
  · obtain ⟨b, hb, hs, how⟩ | hi := load_run hlo
    · have hsa : b.remotePeerId = after.remotePeerId := by
        rw [← hp, ← how]
        exact (hh.own b (by simp [hb]) _ hs).symm
      exact ho.2.2 b hb after (by simp [hf]) hsa _ _ hs ha hl
    · rw [hp] at hi
      exact hh.initial after (by simp [hf]) _ _ hi ha hl

/-- **No rollback.** In a run of calls that are answered honestly, a call relies on no older record
of a peer than an earlier call did, while the record the earlier call relied on lives. -/
theorem honest_sequences_kept (crates : ClientCrates) (config : MeshConnectorConfig) (store : σ)
    (front between : List Call) (call later : Call) (earlier last : Trusted)
    (hclock : ClockRuns (front ++ call :: (between ++ [later])))
    (hhonest : Honest crates config store (front ++ call :: (between ++ [later])))
    (hpeer : call.remotePeerId = later.remotePeerId)
    (hcall : (perform crates config (run (perform crates config) store front) call).1 = .ok earlier)
    (hlater : (perform crates config
      (run (perform crates config) store (front ++ call :: between)) later).1 = .ok last)
    (hlive : later.clock.verify < earlier.record.body.expiresAtUnix) :
    earlier.record.body.sequence ≤ last.record.body.sequence := by
  have hw (other : Call) (ho : other ∈ front ++ call :: (between ++ [later])) :
      other.clock.fresh ≤ other.clock.verify :=
    UInt64.le_trans (hclock.fresh other ho) (hclock.verify other ho)
  have hl : later.clock.store < earlier.record.body.expiresAtUnix :=
    UInt64.lt_of_le_of_lt (hclock.verify later (by simp)) hlive
  obtain ⟨-, hn | ⟨-, hlo⟩⟩ := relied_record_source (hw later (by simp)) hlater
  · exact answers_not_below hhonest (hw call (by simp)) hcall (by simp) hpeer hn
      hl
  · -- the store keeps nothing older from the first call to the second
    rw [run_append, run_cons, ← hpeer] at hlo
    have ha := notBelow_perform (hw call (by simp)) (hhonest.own call (by simp)) hcall
    refine notBelow_run ha ?_ _ hlo
    intro m hi f hm hd
    have how := hhonest.own m (by simp [hi]) f hm
    have ht := (List.pairwise_append.mp hclock.store).2.1
    have hb : m.clock.store ≤ later.clock.store :=
      (List.pairwise_append.mp (List.pairwise_cons.mp ht).2).2.2 m hi later (by simp)
    exact answers_not_below hhonest (hw call (by simp)) hcall (by simp [hi])
      (hd.symm.trans how) hm (UInt64.lt_of_le_of_lt hb hl)

end

def sampleCall (kind : CallKind) (sequence : UInt64) : Call :=
  ⟨kind, samplePeer, .ok (some (sampleRecord 1 100 sequence)), .ok none, ⟨2, 2, 2, ⟨2, 2⟩⟩⟩

theorem sampleCall_verified (s : UInt64) :
    (sampleRecord 1 100 s).Verified bindingCrates.device "devmesh" 2 :=
  sampleRecord_verified s (by decide) (by decide)

theorem sampleCall_passes (store : σ) (k : CallKind) (s : UInt64) :
    ∃ source decision, (perform bindingCrates developmentConfig store (sampleCall k s)).1 =
      .ok ⟨sampleRecord 1 100 s, source, decision⟩ :=
  development_passes (.inl ⟨rfl, fun _ => sampleCall_verified s⟩)
    (sampleCall_verified s) (sampleCall_verified s)

theorem sampleCall_answer_eq {sequence : UInt64}
    (h : Answers bindingCrates developmentConfig (sampleCall kind sequence) fresh) :
    fresh = sampleRecord 1 100 sequence := by
  obtain ⟨ha, -⟩ := h
  injection ha with ha
  exact (Option.some.inj ha).symm

theorem sampleCalls_kept : ∃ earlier last,
      (perform bindingCrates developmentConfig InMemoryPeerStore.new (sampleCall .connect 4)).1 =
        .ok earlier ∧
      (perform bindingCrates developmentConfig
        (run (perform bindingCrates developmentConfig) InMemoryPeerStore.new
          [sampleCall .connect 4]) (sampleCall .revalidatePeerTrust 5)).1 = .ok last ∧
      earlier.record.body.sequence ≤ last.record.body.sequence := by
  obtain ⟨source, decision, hc⟩ := sampleCall_passes InMemoryPeerStore.new .connect 4
  obtain ⟨source', decision', hl⟩ := sampleCall_passes (run (perform bindingCrates
    developmentConfig) InMemoryPeerStore.new [sampleCall .connect 4]) .revalidatePeerTrust 5
  refine ⟨_, _, hc, hl, honest_sequences_kept bindingCrates developmentConfig
    InMemoryPeerStore.new [] [] (sampleCall .connect 4) (sampleCall .revalidatePeerTrust 5) _ _
    ?_ ?_ rfl hc hl (by decide : (2 : UInt64) < 100)⟩
  · constructor <;> simp [sampleCall]
  · constructor
    · intro c hm f ha
      simp only [List.nil_append, List.mem_cons, List.not_mem_nil, or_false] at hm
      obtain rfl | rfl := hm <;> rw [sampleCall_answer_eq ha] <;> rfl
    · simp only [List.nil_append, List.pairwise_cons, List.mem_singleton, forall_eq,
        List.not_mem_nil, false_imp_iff, implies_true, List.Pairwise.nil, and_true]
      intro _ earlier f he ha _
      rw [sampleCall_answer_eq he, sampleCall_answer_eq ha]
      exact (by decide : (4 : UInt64) ≤ 5)
    · intro c _ ca f hca
      cases hca

/-- A server that answers 5 and then 4: the store keeps the first record, and the second call
relies on the older one all the same. -/
theorem sampleCalls_rolled_back : ∃ earlier last,
      (perform bindingCrates developmentConfig InMemoryPeerStore.new (sampleCall .connect 5)).1 =
        .ok earlier ∧
      (perform bindingCrates developmentConfig
        (run (perform bindingCrates developmentConfig) InMemoryPeerStore.new
          [sampleCall .connect 5]) (sampleCall .revalidatePeerTrust 4)).1 = .ok last ∧
      (sampleCall .revalidatePeerTrust 4).clock.verify < earlier.record.body.expiresAtUnix ∧
      last.record.body.sequence < earlier.record.body.sequence := by
  obtain ⟨source, decision, hc⟩ := sampleCall_passes InMemoryPeerStore.new .connect 5
  obtain ⟨source', decision', hl⟩ := sampleCall_passes (run (perform bindingCrates
    developmentConfig) InMemoryPeerStore.new [sampleCall .connect 5]) .revalidatePeerTrust 4
  exact ⟨_, _, hc, hl, (by decide : (2 : UInt64) < 100), (by decide : (4 : UInt64) < 5)⟩

end QuantumLink.Mesh
