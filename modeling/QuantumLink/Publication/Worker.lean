import QuantumLink.Publication.Machine

/-! # The publication worker

`run_publication_worker`: one thread that reserves a number, publishes a record under it, has the
record's own registry binding and the selected peer's trust checked where the mesh is public, and
waits. What it knows it puts into the shared snapshot, which packet access is decided by. The
worker takes one step between two such moments; what rendezvous, registry and files answer in that
time is the step's input.
-/

namespace QuantumLink.Publication

open Device Discovery Identity
open Relay (errorText)
open PublicationStateMachine

/-- What became of a call that is given ten seconds. -/
inductive Timed (ε α : Type) where
  | answered (result : Except ε α)
  | timedOut

/-- The answers of one round and the readings of the clock in it. -/
structure Round where
  publication : Timed QlinkError PeerRecord
  publishedAt : UInt64
  verifiedAt : UInt64
  outboxFault : Option Fault
  /-- The reading after the record was not accepted. -/
  refusedAt : UInt64
  validation : Timed LocalRegistryBindingError LocalRegistryBindingProof
  validatedAt : UInt64
  trust : Timed QlinkError Unit

/-- The record of the round, if the machine accepted it. -/
def publishedRecord (crates : DeviceCrates) (sequence : UInt64) (round : Round)
    (machine : PublicationStateMachine) (recordFile : ReplacedFile Bytes) :
    Option PeerRecord × PublicationStateMachine × ReplacedFile Bytes :=
  match round.publication with
  | .answered (.ok record) =>
    match machine.acceptRecord crates recordFile sequence round.publishedAt round.verifiedAt
        record round.outboxFault with
    | (.ok (), machine, recordFile) => (some record, machine, recordFile)
    | (.error error, machine, recordFile) =>
      (none, machine.recordFailure round.refusedAt error, recordFile)
  | .answered (.error error) =>
    (none, machine.recordFailure round.publishedAt (errorText error), recordFile)
  | .timedOut =>
    (none, machine.recordFailure round.publishedAt
      "signed peer record publication timed out after 10 seconds", recordFile)

def recordValidation (round : Round) (machine : PublicationStateMachine) :
    PublicationStateMachine :=
  match round.validation with
  | .answered (.ok proof) =>
    machine.recordLocalBindingAccepted round.validatedAt (reportedVersion proof.bindingVersion)
      proof.identityRevision
  | .answered (.error error) => machine.recordLocalBindingFailure round.validatedAt error
  | .timedOut =>
    machine.recordLocalBindingFailure round.validatedAt
      ⟨some .stableIdentityV2, .unavailable,
        "local Dytallix binding validation timed out after 10 seconds"⟩

def recordTrust (round : Round) (machine : PublicationStateMachine) : PublicationStateMachine :=
  match round.trust with
  | .answered (.ok ()) => machine.recordTrustAccepted
  | .answered (.error error) => machine.recordTrustFailure (errorText error)
  | .timedOut =>
    machine.recordTrustFailure "Dytallix trust revalidation timed out after 10 seconds"

inductive Stage where
  | starting
  | reserving
  | publishing (sequence : UInt64)
  | waiting
  | stopped

structure Worker where
  publicDytallixRequired : Bool
  stage : Stage
  machine : PublicationStateMachine
  /-- What readers of the status and the packet path see. -/
  shared : PublicationSnapshot
  stateFile : ReplacedFile Bytes
  recordFile : ReplacedFile Bytes

inductive WorkerEvent where
  | runtimeBuilt
  | runtimeFailed (nowUnix : UInt64) (error : String)
  | reserve (nowUnix : UInt64) (fault : Option Fault)
  | publish (round : Round)
  /-- `wait_or_shutdown` returned. -/
  | woken (shutdown : Bool)

namespace Worker

/-- `PublicationController::start`, once the state file could be read. -/
def start (publicDytallixRequired : Bool) (ttlSeconds : UInt64) (durable : DurablePublicationState)
    (stateFile recordFile : ReplacedFile Bytes) : Worker :=
  let machine := load ttlSeconds durable
  let machine := { machine with
    snapshot := { machine.snapshot with
      dytallixRequired := publicDytallixRequired
      localBindingState := if publicDytallixRequired then .pending else .notConfigured } }
  ⟨publicDytallixRequired, .starting, machine, machine.snapshot, stateFile, recordFile⟩

/-- `publish_snapshot`. -/
def publishSnapshot (worker : Worker) : Option PublicationSnapshot × Worker :=
  (some worker.machine.snapshot, { worker with shared := worker.machine.snapshot })

def stop (worker : Worker) : Option PublicationSnapshot × Worker :=
  publishSnapshot { worker with
    stage := .stopped
    machine := { worker.machine with
      snapshot := { worker.machine.snapshot with phase := .stopped } } }

def reserve (nowUnix : UInt64) (fault : Option Fault) (worker : Worker) :
    Option PublicationSnapshot × Worker :=
  match worker.machine.reserveSequence worker.stateFile nowUnix fault with
  | (.ok sequence, machine, stateFile) =>
    publishSnapshot { worker with
      stage := .publishing sequence, machine := machine, stateFile := stateFile }
  | (.error error, machine, stateFile) =>
    publishSnapshot { worker with
      stage := .waiting
      machine := machine.recordFailure nowUnix ("sequence reservation failed: " ++ error)
      stateFile := stateFile }

def publish (crates : DeviceCrates) (sequence : UInt64) (round : Round) (worker : Worker) :
    Option PublicationSnapshot × Worker :=
  let (record, machine, recordFile) :=
    publishedRecord crates sequence round worker.machine worker.recordFile
  let machine :=
    if record.isSome ∧ worker.publicDytallixRequired then
      recordTrust round (recordValidation round machine)
    else machine
  publishSnapshot { worker with stage := .waiting, machine := machine, recordFile := recordFile }

/-- One step of the thread; an event that does not fit its stage does not happen. -/
def step (crates : DeviceCrates) (worker : Worker) (event : WorkerEvent) :
    Option PublicationSnapshot × Worker :=
  match worker.stage, event with
  | .starting, .runtimeBuilt => (none, { worker with stage := .reserving })
  | .starting, .runtimeFailed nowUnix error =>
    stop { worker with
      machine := worker.machine.recordFailure nowUnix
        ("publication runtime initialization failed: " ++ error) }
  | .reserving, .reserve nowUnix fault => reserve nowUnix fault worker
  | .publishing sequence, .publish round => publish crates sequence round worker
  | .waiting, .woken false => (none, { worker with stage := .reserving })
  | .waiting, .woken true => stop worker
  | _, _ => (none, worker)

end Worker

/-! ## What a current snapshot rests on -/

/-- A record that was accepted, and the answer of the validation that followed. -/
structure Acceptance where
  record : PeerRecord
  validation : Option (Timed LocalRegistryBindingError LocalRegistryBindingProof)

/-- The last record accepted, after a step. -/
def lastAcceptance (crates : DeviceCrates) (worker : Worker) (event : WorkerEvent)
    (last : Option Acceptance) : Option Acceptance :=
  match worker.stage, event with
  | .publishing sequence, .publish round =>
    match (publishedRecord crates sequence round worker.machine worker.recordFile).1 with
    | some record =>
      some ⟨record, if worker.publicDytallixRequired then some round.validation else none⟩
    | none => last
  | _, _ => last

/-- The validation after the acceptance returned a proof of this version. -/
def Acceptance.Proved (acceptance : Acceptance) (version : DytallixRegistryBindingVersion) : Prop :=
  ∃ proof, acceptance.validation = some (.answered (.ok proof)) ∧ proof.bindingVersion = version

/-- The expiry is that of the last record accepted, and an active binding is the one its validation
proved. The phase is not mentioned: it changes in steps that accept nothing. -/
structure Backed (required : Bool) (last : Option Acceptance) (snapshot : PublicationSnapshot) :
    Prop where
  policy : snapshot.dytallixRequired = required
  expiry : snapshot.expiresAtUnix = last.map fun acceptance => acceptance.record.body.expiresAtUnix
  binding : required = true → snapshot.localBindingState = .active →
    ∃ acceptance ∈ last, ∃ version, snapshot.localBindingVersion = some (reportedVersion version) ∧
      acceptance.Proved version

section
variable {required : Bool} {last : Option Acceptance} {machine : PublicationStateMachine}
  {snapshot other : PublicationSnapshot}

theorem Backed.congr (h : Backed required last snapshot)
    (hr : other.dytallixRequired = snapshot.dytallixRequired)
    (he : other.expiresAtUnix = snapshot.expiresAtUnix)
    (hs : other.localBindingState = snapshot.localBindingState)
    (hv : other.localBindingVersion = snapshot.localBindingVersion) :
    Backed required last other where
  policy := hr.trans h.policy
  expiry := he.trans h.expiry
  binding := by
    rw [hs, hv]
    exact h.binding

theorem Backed.recordFailure (h : Backed required last machine.snapshot) (n : UInt64)
    (error : String) : Backed required last (machine.recordFailure n error).snapshot :=
  h.congr rfl rfl rfl rfl

theorem recordTrust_eq (r : Round) (machine : PublicationStateMachine) :
    ∃ decision health, recordTrust r machine = { machine with snapshot := { machine.snapshot with
          dytallixDecision := decision, dytallixHealth := health } } := by
  unfold recordTrust
  split <;> exact ⟨_, _, rfl⟩

theorem Backed.recordTrust (h : Backed required last machine.snapshot) (r : Round) :
    Backed required last (recordTrust r machine).snapshot := by
  obtain ⟨d, he, heq⟩ := recordTrust_eq r machine
  rw [heq]
  exact h.congr rfl rfl rfl rfl

theorem Backed.reserveSequence (h : Backed required last machine.snapshot)
    (s : ReplacedFile Bytes) (n : UInt64) (f : Option Fault) :
    Backed required last (machine.reserveSequence s n f).2.1.snapshot := by
  unfold PublicationStateMachine.reserveSequence
  dsimp only
  split
  · exact h.congr rfl rfl rfl rfl
  · split <;> exact h.congr rfl rfl rfl rfl

/-- After a validation the binding is active only if that validation returned a proof, whatever it
was before. -/
theorem Backed.recordValidation {re : PeerRecord}
    (hr : machine.snapshot.dytallixRequired = required)
    (he : machine.snapshot.expiresAtUnix = some re.body.expiresAtUnix) (ro : Round) :
    Backed required (some ⟨re, some ro.validation⟩) (recordValidation ro machine).snapshot := by
  have hf (answer : Timed LocalRegistryBindingError LocalRegistryBindingProof)
      (error : LocalRegistryBindingError) (nowUnix : UInt64) :
      Backed required (some ⟨re, some answer⟩)
        (machine.recordLocalBindingFailure nowUnix error).snapshot := by
    refine ⟨hr, he, fun _ ha => ?_⟩
    have hi : error.kind.state = .active := ha
    cases hk : error.kind <;> simp [LocalRegistryBindingFailureKind.state, hk] at hi
  unfold Publication.recordValidation
  cases hv : ro.validation with
  | timedOut => exact hf _ _ _
  | answered r =>
    cases r with
    | error error => exact hf _ error _
    | ok p =>
      refine ⟨hr, he, fun _ _ => ?_⟩
      exact ⟨_, rfl, p.bindingVersion, rfl, p, rfl, rfl⟩

/-- `accept_record` fails and leaves the machine alone, or the snapshot tells of this record. -/
theorem acceptRecord_cases (cr : DeviceCrates) (machine : PublicationStateMachine)
    (r : ReplacedFile Bytes) (s n v : UInt64) (re : PeerRecord)
    (f : Option Fault) :
    (∃ error file, machine.acceptRecord cr r s n v re f = (.error error, machine, file)) ∨
    ∃ after file, machine.acceptRecord cr r s n v re f = (.ok (), after, file) ∧
      after.snapshot.dytallixRequired = machine.snapshot.dytallixRequired ∧
      after.snapshot.expiresAtUnix = some re.body.expiresAtUnix := by
  unfold acceptRecord
  cases checkRecord cr s n v re with
  | error error => exact .inl ⟨error, r, rfl⟩
  | ok c =>
    cases f with
    | none => exact .inr ⟨_, _, rfl, rfl, rfl⟩
    | some f => exact .inl ⟨_, _, rfl⟩

/-- A round accepts its record, or it leaves what backs the snapshot as it was. -/
theorem publishedRecord_cases (h : Backed required last machine.snapshot) (c : DeviceCrates)
    (s : UInt64) (ro : Round) (r : ReplacedFile Bytes) :
    (∃ after file, publishedRecord c s ro machine r = (none, after, file) ∧
      Backed required last after.snapshot) ∨
    ∃ record after file, publishedRecord c s ro machine r = (some record, after, file) ∧
      after.snapshot.dytallixRequired = required ∧
      after.snapshot.expiresAtUnix = some record.body.expiresAtUnix := by
  unfold publishedRecord
  match ro.publication with
  | .timedOut | .answered (.error error) => exact .inl ⟨_, _, rfl, h.recordFailure _ _⟩
  | .answered (.ok record) =>
    obtain ⟨error, file, heq⟩ | ⟨after, file, heq, hp, he⟩ :=
      acceptRecord_cases c machine r s ro.publishedAt ro.verifiedAt
        record ro.outboxFault
    · simp only [heq]
      exact .inl ⟨_, _, rfl, h.recordFailure _ _⟩
    · simp only [heq]
      exact .inr ⟨record, after, file, rfl, hp.trans h.policy, he⟩

end

/-- Both what the worker knows and what it has published is backed by the last acceptance. -/
structure WorkerBacked (required : Bool) (state : Worker × Option Acceptance) : Prop where
  policy : state.1.publicDytallixRequired = required
  machine : Backed required state.2 state.1.machine.snapshot
  shared : Backed required state.2 state.1.shared

open WorkerBacked

theorem WorkerBacked.start (required : Bool) (t : UInt64)
    (d : DurablePublicationState) (s r : ReplacedFile Bytes) :
    WorkerBacked required (Worker.start required t d s r, none) := by
  have hs : Backed required none
      (Worker.start required t d s r).machine.snapshot := by
    refine ⟨rfl, rfl, fun _ ha => ?_⟩
    have ht : (if required then LocalRegistryBindingState.pending else .notConfigured) = .active :=
      ha
    cases required <;> simp at ht
  exact ⟨rfl, hs, hs⟩

section
variable {required : Bool} {last next : Option Acceptance} {worker : Worker}

theorem WorkerBacked.publishSnapshot (hp : worker.publicDytallixRequired = required)
    (hm : Backed required last worker.machine.snapshot) :
    WorkerBacked required (worker.publishSnapshot.2, last) :=
  ⟨hp, hm, hm⟩

theorem WorkerBacked.stop (hp : worker.publicDytallixRequired = required)
    (hm : Backed required last worker.machine.snapshot) :
    WorkerBacked required (worker.stop.2, last) :=
  publishSnapshot hp (hm.congr rfl rfl rfl rfl)

theorem WorkerBacked.reserve (h : WorkerBacked required (worker, last)) (n : UInt64)
    (f : Option Fault) : WorkerBacked required ((worker.reserve n f).2, last) := by
  have hm := h.machine.reserveSequence worker.stateFile n f
  unfold Worker.reserve
  split
  · rename_i heq
    rw [heq] at hm
    exact publishSnapshot h.policy hm
  · rename_i heq
    rw [heq] at hm
    exact publishSnapshot h.policy (hm.recordFailure _ _)

theorem WorkerBacked.publish (c : DeviceCrates) (h : WorkerBacked required (worker, last))
    {s : UInt64} (hs : worker.stage = .publishing s) (ro : Round) :
    WorkerBacked required ((worker.publish c s ro).2,
      lastAcceptance c worker (.publish ro) last) := by
  unfold Worker.publish lastAcceptance
  simp only [hs]
  obtain ⟨a, f, heq, hb⟩ | ⟨r, a, f, heq, hp, he⟩ :=
    publishedRecord_cases h.machine c s ro worker.recordFile
  · simp only [heq]
    exact publishSnapshot h.policy (by simpa using hb)
  · simp only [heq]
    refine publishSnapshot h.policy ?_
    by_cases hr : worker.publicDytallixRequired = true
    · simp only [Option.isSome_some, hr, and_self, if_true]
      exact (Backed.recordValidation hp he ro).recordTrust ro
    · simp only [hr]
      refine ⟨hp, he, fun hc => ?_⟩
      exact absurd (h.policy.trans hc) hr

theorem WorkerBacked.step (c : DeviceCrates) (h : WorkerBacked required (worker, last))
    (e : WorkerEvent) :
    WorkerBacked required ((worker.step c e).2, lastAcceptance c worker e last) := by
  cases hs : worker.stage <;> cases e <;>
    simp only [Worker.step, lastAcceptance, hs] <;>
    first
    | exact h
    | exact ⟨h.policy, h.machine, h.shared⟩
    | skip
  case starting.runtimeFailed nowUnix error =>
      exact stop h.policy (h.machine.recordFailure _ _)
  case reserving.reserve nowUnix fault => exact h.reserve nowUnix fault
  case publishing.publish sequence round =>
      have hp := h.publish c hs round
      simpa only [lastAcceptance, hs] using hp
  case waiting.woken shutdown =>
      cases shutdown with
      | false => exact ⟨h.policy, h.machine, h.shared⟩
      | true => exact stop h.policy h.machine

end

/-- The worker with the last acceptance beside it. -/
def recordedStep (crates : DeviceCrates) :
    Worker × Option Acceptance → WorkerEvent → Option PublicationSnapshot × (Worker × Option Acceptance) :=
  withRecord (Worker.step crates) (lastAcceptance crates)

theorem run_workerBacked (c : DeviceCrates) (h : WorkerBacked required state)
    (ev : List WorkerEvent) : WorkerBacked required (run (recordedStep c) state ev) :=
  run_invariant (WorkerBacked required) (fun _ e hs => hs.step c e) h ev

/-- **A current snapshot is backed by its record.** Whatever files, rendezvous, registry and clock
do in the rounds before: a published snapshot that is current at a time tells of the last record
the machine accepted, which runs out later than that; and on a public mesh the validation that
followed this very acceptance returned a proof of the stable identity. -/
theorem current_snapshot_backed (crates : DeviceCrates) (publicDytallixRequired : Bool)
    (ttlSeconds : UInt64) (durable : DurablePublicationState)
    (stateFile recordFile : ReplacedFile Bytes) (events : List WorkerEvent) (t : UInt64) :
    let reached := run (recordedStep crates)
      (Worker.start publicDytallixRequired ttlSeconds durable stateFile recordFile, none) events
    reached.1.shared.IsCurrent t →
      ∃ a ∈ reached.2,
        reached.1.shared.expiresAtUnix = some a.record.body.expiresAtUnix ∧
        t < a.record.body.expiresAtUnix ∧
        (reached.1.shared.dytallixRequired = true → a.Proved .stableIdentityV2) := by
  intro reached hc
  have hb := run_workerBacked crates
    (start publicDytallixRequired ttlSeconds durable stateFile recordFile) events
  obtain ⟨⟨e, he, hlt⟩, -, hi⟩ := hc
  have hl := hb.shared.expiry.symm.trans he
  obtain ⟨a, ha, rfl⟩ := Option.map_eq_some_iff.mp hl
  refine ⟨a, ha, he, hlt, fun hr => ?_⟩
  obtain hn | ⟨hv, hac⟩ := hi
  · exact absurd hr (by simp [hn])
  obtain ⟨found, hf, v, hre, hp⟩ := hb.shared.binding (hb.shared.policy.symm.trans hr) hac
  cases ha.symm.trans hf
  rw [hre] at hv
  cases v with
  | exactPeerRecordV1 => exact absurd hv (by decide)
  | stableIdentityV2 => exact hp

/-- Rendezvous takes the record, and the registry proves this device's stable identity. -/
def firstRound (record : PeerRecord) (trust : Timed QlinkError Unit) : Round :=
  ⟨.answered (.ok record), 10, 10, none, 10, .answered (.ok ⟨.stableIdentityV2, some 1⟩), 10, trust⟩

def freshWorker : Worker :=
  Worker.start true 120 .default (ReplacedFile.settled none) (ReplacedFile.settled none)

def firstEvents (record : PeerRecord) (trust : Timed QlinkError Unit) : List WorkerEvent :=
  [.runtimeBuilt, .reserve 10 none, .publish (firstRound record trust)]

theorem recordTrust_isCurrent_iff (r : Round) (machine : PublicationStateMachine) (t : UInt64) :
    (recordTrust r machine).snapshot.IsCurrent t ↔ machine.snapshot.IsCurrent t := by
  obtain ⟨d, he, heq⟩ := recordTrust_eq r machine
  rw [heq]
  rfl

/-- A round whose record is accepted and whose stable identity is proved leaves a current snapshot,
whatever the trust check says about the selected peer. -/
theorem publish_current {s : UInt64} {r : Round} {worker : Worker}
    (hp : r.publication = .answered (.ok record))
    (hc : checkRecord crates s r.publishedAt r.verifiedAt record = .ok ())
    (ho : r.outboxFault = none)
    (hv : r.validation = .answered (.ok ⟨.stableIdentityV2, identityRevision⟩))
    (hr : worker.publicDytallixRequired = true)
    (ht : t < record.body.expiresAtUnix) :
    (worker.publish crates s r).2.shared.IsCurrent t := by
  simp only [Worker.publish, publishedRecord, hp, acceptRecord,
    hc, ho, writeJsonAtomically, Option.isSome_some, hr, and_self, if_true, Worker.publishSnapshot]
  rw [recordTrust_isCurrent_iff, recordValidation, hv]
  exact ⟨⟨_, rfl, ht⟩, .inl rfl, .inr ⟨rfl, rfl⟩⟩

theorem Worker.reserve_policy (worker : Worker) (n : UInt64) (f : Option Fault) :
    (worker.reserve n f).2.publicDytallixRequired = worker.publicDytallixRequired := by
  unfold Worker.reserve
  split <;> rfl

theorem firstEvents_current (hc : checkRecord crates 1 10 10 record = .ok ())
    (tr : Timed QlinkError Unit) (ht : t < record.body.expiresAtUnix) :
    (run (Worker.step crates) freshWorker (firstEvents record tr)).shared.IsCurrent t := by
  have hr : run (Worker.step crates) freshWorker (firstEvents record tr) =
      ((Worker.reserve 10 none { freshWorker with stage := .reserving }).2.publish crates 1
        (firstRound record tr)).2 := rfl
  have hp : (firstRound record tr).publication = .answered (.ok record) := rfl
  rw [hr]
  exact publish_current hp hc rfl rfl (Worker.reserve_policy _ _ _) ht

theorem checkRecord_eq_ok {s nowUnix v : UInt64}
    {r : PeerRecord} (hv : r.verify crates r.body.meshId v = .ok ())
    (hs : r.body.sequence = s) (hl : nowUnix < r.body.expiresAtUnix) :
    checkRecord crates s nowUnix v r = .ok () := by
  have hu : ¬ r.body.expiresAtUnix ≤ nowUnix := UInt64.not_le.mpr hl
  simp only [checkRecord, hv, hs, ensure_of hu, ensure_of]
  rfl

theorem sampleRecord_checked : checkRecord sampleCrates 1 10 10 (sampleRecord 1 100 1) = .ok () :=
  checkRecord_eq_ok (sampleRecord_verify 1 (by decide) (by decide : (10 : UInt64) < 100)) rfl
    (by decide : (10 : UInt64) < 100)

theorem firstEvents_backed :
    let reached := run (recordedStep sampleCrates) (freshWorker, none)
      (firstEvents (sampleRecord 1 100 1) (.answered (.ok ())))
    reached.1.shared.IsCurrent 99 ∧
      ∃ acceptance ∈ reached.2,
        reached.1.shared.expiresAtUnix = some acceptance.record.body.expiresAtUnix ∧
        99 < acceptance.record.body.expiresAtUnix ∧
        (reached.1.shared.dytallixRequired = true → acceptance.Proved .stableIdentityV2) := by
  intro reached
  have hc : reached.1.shared.IsCurrent 99 := by
    rw [show reached.1 = run (Worker.step sampleCrates) freshWorker _ from
      run_withRecord_fst _ _ _ _]
    exact firstEvents_current sampleRecord_checked _ (by decide : (99 : UInt64) < 100)
  exact ⟨hc, current_snapshot_backed sampleCrates true 120 .default _ _ _ 99 hc⟩

end QuantumLink.Publication
