import QuantumLink.Foundation.Run
import QuantumLink.Network.Apply

/-! # Network ownership

`activate_network_with` and `deactivate_network_with` of `qlinkd`: what is put on the host is
described by a record in the state directory, from which it is taken away again. Either call may
fail or stop at each of its steps. The record is stored after the plan has been applied, so a call
that stops in between leaves objects that no record describes.
-/

namespace QuantumLink.Network

open Machine List
open Op
open Host

namespace Machine

def fileCall (change : Machine → Machine) : Op Machine Crash (Except String Unit) := fun machine =>
  let next := { machine with files := machine.files.tail }
  match machine.files.headD .proceed with
  | .crash => (.error .crash, next)
  | .fail message => (.ok (.error message), next)
  | .proceed => (.ok (.ok ()), change next)

/-- Calls in a row that change nothing that is modelled, up to the first that fails. -/
def fileCalls : Nat → Op Machine Crash (Except String Unit)
  | 0 => pure (.ok ())
  | n + 1 => do
      match ← fileCall id with
      | .ok () => fileCalls n
      | .error error => pure (.error error)

end Machine

/-- Create the directory and look for the record, then open it, or else create, write and remove
a probe. -/
def prepareCalls (stored : Option NetworkOwnershipRecord) : Nat :=
  if stored.isSome then 3 else 5

def prepareNetworkOwnershipStorage : Op Machine Crash (Except String Unit) := fun machine =>
  fileCalls (prepareCalls machine.record) machine

/-- Create, write and sync a new file, and put it in the record's place. -/
def writeNetworkOwnershipAtomically (record : NetworkOwnershipRecord) :
    Op Machine Crash (Except String Unit) := do
  match ← fileCalls 3 with
  | .error error => pure (.error error)
  | .ok () => fileCall fun machine => { machine with record := some record }

def storeNetworkOwnership (record : NetworkOwnershipRecord) :
    Op Machine Crash (Except String Unit) := do
  match ← prepareNetworkOwnershipStorage with
  | .error error => pure (.error error)
  | .ok () => writeNetworkOwnershipAtomically record

/-- Look for the record and, where there is one, open and read it. -/
def loadNetworkOwnership :
    Op Machine Crash (Except String (Option NetworkOwnershipRecord)) := fun machine =>
  (do
    match ← fileCalls (if machine.record.isSome then 3 else 1) with
    | .error error => pure (.error error)
    | .ok () => pure (.ok machine.record) :
      Op Machine Crash (Except String (Option NetworkOwnershipRecord))) machine

def removeNetworkOwnership : Op Machine Crash (Except String Unit) :=
  fileCall fun machine => { machine with record := none }

def persistOwnership (plan : LinuxRuntimePlan) (record : NetworkOwnershipRecord) :
    Op Machine Crash (Except String Unit) := do
  match ← storeNetworkOwnership record with
  | .ok () => pure (.ok ())
  | .error error => do
      let rollback ← plan.deactivate
      pure (.error ("failed to persist network ownership: " ++ error ++
        suffixOf "; rollback failed: " rollback))

def activateNetworkWith (socketAddrs : SocketAddrs) (config : DaemonConfig)
    (gameUdpPorts : List UInt16) (now : UInt64) : Op Machine Crash (Except String Unit) :=
  match LinuxRuntimePlan.fromConfigWithGameUdpPorts socketAddrs config gameUdpPorts with
  | .error error => pure (.error ("failed to plan SteamOS networking: " ++ error.text))
  | .ok plan => do
      match ← prepareNetworkOwnershipStorage with
      | .error error =>
        pure (.error ("failed to prepare network ownership storage: " ++ error))
      | .ok () =>
        match ← plan.applyWithRollback with
        | .error error => pure (.error error)
        | .ok () => persistOwnership plan (.fromConfig config now)

def deactivateOwned (record : NetworkOwnershipRecord) : Op Machine Crash (Except String Unit) :=
  if record.schemaVersion ≠ networkOwnershipSchemaVersion then
    pure (.error ("unsupported network ownership schema " ++
      toString record.schemaVersion.toNat ++ "; expected " ++
      toString networkOwnershipSchemaVersion.toNat))
  else do
    match ← record.runtimePlan.deactivate with
    | .error error => pure (.error error)
    | .ok () =>
      match ← removeNetworkOwnership with
      | .error error => pure (.error ("failed to remove network ownership: " ++ error))
      | .ok () => pure (.ok ())

def deactivateNetworkWith : Op Machine Crash (Except String Unit) := do
  match ← loadNetworkOwnership with
  | .error error => pure (.error ("failed to load network ownership: " ++ error))
  | .ok none => pure (.ok ())
  | .ok (some record) => deactivateOwned record

/-! ## Calls in a row -/

structure Deck where
  host : Host
  record : Option NetworkOwnershipRecord

/-- What becomes of the calls a daemon makes. -/
structure Fates where
  applies : List Fate
  reverts : List Fate
  files : List Fate

inductive OwnershipCall where
  | activate (config : DaemonConfig) (gameUdpPorts : List UInt16) (now : UInt64) (fates : Fates)
  | deactivate (fates : Fates)

namespace OwnershipCall

def fates : OwnershipCall → Fates
  | activate _ _ _ fates | deactivate fates => fates

def program (socketAddrs : SocketAddrs) : OwnershipCall → Op Machine Crash (Except String Unit)
  | activate config gameUdpPorts now _ => activateNetworkWith socketAddrs config gameUdpPorts now
  | deactivate _ => deactivateNetworkWith

end OwnershipCall

namespace Deck

def machine (deck : Deck) (fates : Fates) : Machine :=
  ⟨deck.host, deck.record, fates.applies, fates.reverts, fates.files⟩

def call (socketAddrs : SocketAddrs) (deck : Deck) (call : OwnershipCall) :
    Except Crash (Except String Unit) × Deck :=
  let (result, machine) := call.program socketAddrs (deck.machine call.fates)
  (result, ⟨machine.host, machine.record⟩)

end Deck

/-! ## What a call leaves -/

namespace Machine

/-- Only file calls were made, and the record is as it was. -/
def Untouched (start machine : Machine) : Prop :=
  ∃ files, files <:+ start.files ∧ machine = { start with files }

theorem Untouched.at (h : Untouched start machine) : At start start.host machine := by
  obtain ⟨f, -, rfl⟩ := h
  exact ⟨rfl, rfl⟩

def skip (start : Machine) (calls : Nat) : Machine :=
  { start with files := start.files.drop calls }

section

variable (start : Machine)

theorem untouched_skip (c : Nat) : Untouched start (start.skip c) :=
  ⟨start.files.drop c, drop_suffix _ _, rfl⟩

theorem meets_fileCall (c : Nat) (ch : Machine → Machine) : Meets (· = start.skip c) (fileCall ch)
      (fun result machine => match result with
        | .ok () => machine = ch (start.skip (c + 1))
        | .error _ => Untouched start machine)
      (fun _ machine => Untouched start machine ∧ .crash ∈ start.files.drop c) := by
  intro machine hm
  have hn : { machine with files := machine.files.tail } = start.skip (c + 1) := by
    rw [hm]
    simp [skip]
  unfold fileCall
  simp only [hn]
  rw [headD_eq_head?_getD]
  rcases hh : machine.files.head? with _ | _ | m | _
  · exact rfl
  · exact rfl
  · exact untouched_skip start (c + 1)
  · refine ⟨untouched_skip start (c + 1), ?_⟩
    rw [hm] at hh
    exact mem_of_mem_head? hh

theorem meets_fileCalls (c n : Nat) : Meets (· = start.skip c) (fileCalls n)
      (fun result machine => match result with
        | .ok () => machine = start.skip (c + n)
        | .error _ => Untouched start machine)
      (fun _ machine => Untouched start machine ∧ .crash ∈ start.files.drop c) := by
  induction n generalizing c with
  | zero => exact meets_pure _ fun _ hm => hm
  | succ n ih =>
    apply meets_bind (meets_fileCall start c id)
    intro result
    cases result with
    | error error => exact meets_pure _ fun _ hm => hm
    | ok _ =>
      apply (ih (c + 1)).weaken (fun _ hm => hm)
      · intro result machine hm
        rw [show c + (n + 1) = c + 1 + n by omega]
        exact hm
      · intro _ machine hm
        refine ⟨hm.1, ?_⟩
        rw [← drop_drop] at hm
        exact mem_of_mem_drop hm.2

theorem meets_prepare : Meets (· = start) prepareNetworkOwnershipStorage
      (fun result machine => match result with
        | .ok () => machine = start.skip (prepareCalls start.record)
        | .error _ => Untouched start machine)
      (fun _ machine => Untouched start machine ∧ .crash ∈ start.files) := by
  intro machine hm
  obtain rfl : machine = start := hm
  have hc := meets_fileCalls machine 0 (prepareCalls machine.record) machine rfl
  rw [Nat.zero_add] at hc
  exact hc

theorem meets_storeNetworkOwnership (record : NetworkOwnershipRecord) :
    Meets (· = start) (storeNetworkOwnership record) (fun result machine => match result with
        | .ok () => At { start with record := some record } start.host machine
        | .error _ => Untouched start machine)
      (fun _ _ => .crash ∈ start.files) := by
  have hs : ∀ {calls : Nat} (_ : Crash) (machine : Machine),
      Untouched start machine ∧ .crash ∈ start.files.drop calls → .crash ∈ start.files :=
    fun _ _ h => mem_of_mem_drop h.2
  apply meets_bind ((meets_prepare start).of_stopped fun _ _ h => h.2)
  intro result
  cases result with
  | error error => exact meets_pure _ fun _ hm => hm
  | ok _ =>
    apply meets_bind ((meets_fileCalls start _ 3).of_stopped hs)
    intro result
    cases result with
    | error error => exact meets_pure _ fun _ hm => hm
    | ok _ =>
      apply (meets_fileCall start _ _).weaken (fun _ h => h) _ hs
      intro result machine hm
      cases result with
      | error error => exact hm
      | ok _ =>
        obtain rfl := hm
        exact ⟨rfl, rfl⟩

theorem meets_loadNetworkOwnership : Meets (· = start) loadNetworkOwnership
      (fun result machine => Untouched start machine ∧
        ∀ stored, result = .ok stored → stored = start.record)
      (fun _ => Untouched start) := by
  intro machine hm
  obtain rfl : machine = start := hm
  refine meets_bind ((meets_fileCalls machine 0 _).of_stopped fun _ _ h => h.1) ?_ machine rfl
  intro result
  cases result with
  | error error =>
    exact meets_pure _ fun _ hl => ⟨hl, fun _ hk => by contradiction⟩
  | ok _ =>
    apply meets_pure
    intro l hl
    rw [hl]
    exact ⟨untouched_skip machine _, fun stored hk => (Except.ok.inj hk).symm⟩
end

end Machine

namespace NetworkOwnershipRecord

/-- The object is one the record's plan creates, and so one its deactivation removes. -/
def Describes (record : NetworkOwnershipRecord) (object : HostObject) : Prop :=
  ∃ operation ∈ record.runtimePlan.operations, operation.creates = some object

end NetworkOwnershipRecord

/-- Every object the host did not start with is described by the record, and the record is one
that a deactivation accepts. -/
structure Recorded (start host : Host) (stored : Option NetworkOwnershipRecord) : Prop where
  described : ∀ object, host.Has object →
    start.Has object ∨ ∃ record ∈ stored, record.Describes object
  accepted : ∀ record ∈ stored, record.schemaVersion = networkOwnershipSchemaVersion

abbrev RecordedAt (start : Host) (machine : Machine) : Prop :=
  Recorded start machine.host machine.record

/-- What is left is described, and nothing but the start is left on success. -/
abbrev Deactivated (start : Host) (result : Except String Unit) (machine : Machine) : Prop :=
  RecordedAt start machine ∧
    (result = .ok () → ∀ object, machine.host.Has object → start.Has object)

variable {start : Host} {before after : Machine}

theorem Recorded.within (h : RecordedAt start before) (hw : Within before after) :
    RecordedAt start after where
  described := by
    intro o ho
    rw [hw.record]
    exact h.described o (hw.has o ho)
  accepted := by
    rw [hw.record]
    exact h.accepted

variable {record : NetworkOwnershipRecord}

theorem Recorded.start_of_undone {host : Host} (h : Recorded start host (some record))
    (ho : (host.undoAll (revertsOf record.runtimePlan.operations)).Has object) :
    start.Has object := by
  obtain hs | ⟨record', hr', o, hm, hc⟩ :=
    h.described object (has_of_undoAll (fun _ => creates_of_mem_revertsOf) ho)
  · exact hs
  · cases hr'
    exact absurd ho (not_has_undoAll_revertsOf hm hc)

section

variable (h : RecordedAt start before)
include h

theorem Recorded.untouched (hu : Untouched before after) : RecordedAt start after :=
  h.within (hu.at.within fun _ ho => ho)

theorem meets_removeNetworkOwnership (hs : ∀ object, before.host.Has object → start.Has object) :
    Meets (· = before) removeNetworkOwnership
      (fun result after => RecordedAt start after ∧ (result = .ok () → after.host = before.host))
      (fun _ => RecordedAt start) := by
  apply (meets_fileCall before 0 fun m => { m with record := none }).weaken
  · exact fun _ hm => hm
  · intro result after ha
    cases result with
    | error error => exact ⟨h.untouched ha, fun hk => by contradiction⟩
    | ok _ =>
      obtain rfl := ha
      exact ⟨⟨fun object ho => .inl (hs object ho), fun _ hr => by
        contradiction⟩, fun _ => rfl⟩
  · exact fun _ after ha => h.untouched ha.1

/-- Undoing the record's plan keeps what is left described, and leaves nothing but the start when
it succeeds. -/
theorem meets_deactivate_recorded (hr : before.record = some record) :
    Meets (· = before) record.runtimePlan.deactivate
      (Deactivated start) (fun _ => RecordedAt start) := by
  apply (record.runtimePlan.meets_deactivate before).weaken
  · intro m hm
    rw [hm]
    exact ⟨rfl, rfl⟩
  · intro r a ha
    refine ⟨h.within ha.1, fun hk o ho => ?_⟩
    rw [(ha.2 hk).host] at ho
    rw [RecordedAt, hr] at h
    exact h.start_of_undone ho
  · exact fun _ a ha => h.within ha

theorem meets_deactivateOwned (hr : before.record = some record) :
    Meets (· = before) (deactivateOwned record) (Deactivated start) (fun _ => RecordedAt start) := by
  rw [deactivateOwned, if_neg (not_not_intro (h.accepted record hr))]
  apply meets_bind (meets_deactivate_recorded h hr)
  intro r
  cases r with
  | error error =>
    exact meets_pure _ fun _ hl => ⟨hl.1, fun hk => by contradiction⟩
  | ok _ =>
    intro l hl
    refine meets_bind (meets_removeNetworkOwnership hl.1 (hl.2 rfl)) ?_ l rfl
    intro r
    cases r with
    | error error =>
      exact meets_pure _ fun _ ha => ⟨ha.1, fun hk => by contradiction⟩
    | ok _ =>
      apply meets_pure
      intro a ha
      refine ⟨ha.1, fun _ o ho => hl.2 rfl o ?_⟩
      rw [← ha.2 rfl]
      exact ho

/-- Deactivation keeps every object that is left described, whatever becomes of its steps, and
leaves nothing but the start when it succeeds. -/
theorem meets_deactivateNetworkWith :
    Meets (· = before) deactivateNetworkWith (Deactivated start) (fun _ => RecordedAt start) := by
  apply meets_bind ((meets_loadNetworkOwnership before).of_stopped fun _ _ => h.untouched)
  intro l
  cases l with
  | error error =>
    exact meets_pure _ fun _ hm =>
      ⟨h.untouched hm.1, fun hk => by contradiction⟩
  | ok stored =>
    intro m hm
    obtain ⟨hu, hs⟩ := hm
    have hr : m.record = stored := by
      rw [hu.at.record]
      exact (hs stored rfl).symm
    have hm := h.untouched hu
    cases stored with
    | none =>
      refine ⟨hm, fun _ o ho => ?_⟩
      obtain ht | ⟨r, hso, -⟩ := hm.described o ho
      · exact ht
      · rw [hr] at hso
        contradiction
    | some r => exact meets_deactivateOwned hm hr m rfl
end

/-- The steps after which a stop would leave objects without a record do not stop, no revert
fails, and the objects of an older record that are still there are the new record's too. -/
structure Covered (before : Machine) (record : NetworkOwnershipRecord) : Prop where
  applies : .crash ∉ before.applies.tail
  reverts : before.Calm
  files : .crash ∉ before.files.drop (prepareCalls before.record)
  replaces : ∀ old ∈ before.record, ∀ object, old.Describes object → before.host.Has object →
    record.Describes object

theorem Recorded.rolledBack {p : LinuxRuntimePlan} (h : RecordedAt start before)
    (ha : p.RolledBack before footprint after) : RecordedAt start after := by
  obtain ⟨c, m, -, hp, r, -, rfl⟩ := ha
  apply h.within
  exact ⟨fun o ho => hp.since.undoAll (Covers.refl c) ho, hp.record⟩

theorem Recorded.stored {host : Host} (h : RecordedAt start before) (hc : Covered before record)
    (hv : record.schemaVersion = networkOwnershipSchemaVersion)
    (hi : Since before.host completed host)
    (hco : Covers record.runtimePlan.operations completed) :
    Recorded start host (some record) where
  described := by
    intro o ho
    obtain hb | ⟨op, hm, hr⟩ := hi o ho
    · obtain ht | ⟨old, hl, hd⟩ := h.described o hb
      · exact .inl ht
      · exact .inr ⟨record, rfl, hc.replaces old hl o hd hb⟩
    · exact .inr ⟨record, rfl, hco op hm o hr⟩
  accepted := by
    intro stored hs
    cases hs
    exact hv

theorem meets_persistOwnership {p : LinuxRuntimePlan}
    (h : RecordedAt start before) (hc : Covered before record)
    (hv : record.schemaVersion = networkOwnershipSchemaVersion)
    (hco : Covers record.runtimePlan.operations p.operations)
    (hr : ready = before.skip (prepareCalls before.record))
    (hm : Partway ready footprint p.operations middle) :
    Meets (· = middle) (persistOwnership p record)
      (fun _ => RecordedAt start) (fun _ => RecordedAt start) := by
  have hs : Since before.host p.operations middle.host := by
    have hs := hm.since
    rw [hr] at hs
    exact hs
  have he : middle.record = before.record := by
    rw [hm.record, hr]
    rfl
  have hi : .crash ∉ middle.files := by
    rw [hm.files, hr]
    exact hc.files
  have hca : middle.Calm := by
    have hre : middle.reverts = before.reverts := by
      rw [hm.reverts, hr]
      rfl
    exact hc.reverts.of_suffix (hre ▸ suffix_refl _)
  have hu : Meets (Untouched middle) p.deactivate
      (fun _ => RecordedAt start) (fun _ => RecordedAt start) := by
    intro failed hf
    obtain ⟨files, -, rfl⟩ := hf
    have hc' : Calm { middle with files } := hca
    obtain ⟨reverts, -, hru⟩ := LinuxRuntimePlan.deactivate_of_calm hc' p
    rw [hru]
    exact h.within ⟨fun _ ho => hs.undoAll (Covers.refl _) ho, he⟩
  apply meets_bind ((meets_storeNetworkOwnership middle record).of_stopped
    fun _ _ ht => absurd ht hi)
  intro result
  cases result with
  | ok _ =>
    apply meets_pure
    intro after ha
    rw [RecordedAt, ha.host, ha.record]
    exact h.stored hc hv hs hco
  | error error =>
    exact meets_bind hu fun _ => meets_pure _ fun _ ha => ha

theorem meets_activateNetworkWith
    (h : RecordedAt start before) (hc : Covered before (.fromConfig config now)) :
    Meets (· = before) (activateNetworkWith socketAddrs config gameUdpPorts now)
      (fun _ => RecordedAt start) (fun _ => RecordedAt start) := by
  unfold activateNetworkWith
  cases hp : LinuxRuntimePlan.fromConfigWithGameUdpPorts socketAddrs config gameUdpPorts with
  | error error =>
    apply meets_pure
    intro ma hm
    rw [hm]
    exact h
  | ok pl =>
    have hf := (LinuxRuntimePlan.for_of_fromConfig hp).1
    apply meets_bind ((meets_prepare before).of_stopped fun _ _ hs => h.untouched hs.1)
    intro p
    cases p with
    | error error => exact meets_pure _ fun _ hm => h.untouched hm
    | ok _ =>
      intro ready hr
      have hr' : RecordedAt start ready := h.untouched (hr ▸ untouched_skip before _)
      have hl : .crash ∉ ready.applies.tail := by
        rw [hr]
        exact hc.applies
      have ha : ready.Calm := by
        rw [hr]
        exact hc.reverts
      refine meets_bind
        ((LinuxRuntimePlan.meets_applyWithRollback hf.within hl ha).of_stopped
          fun _ _ hs => hr'.within hs.1) ?_ ready (OnTrack.refl ready _)
      intro a
      cases a with
      | error error => exact meets_pure _ fun _ hm => hr'.rolledBack hm
      | ok _ =>
        intro m hi
        exact meets_persistOwnership h hc rfl (hf.covers now) hr hi m rfl

theorem fileCall_of_calm {m : Machine} (h : ∀ fate ∈ m.files, fate = .proceed)
    (c : Machine → Machine) :
    fileCall c m = (.ok (.ok ()), c (m.skip 1)) := by
  have hh : m.files.headD .proceed = .proceed := by
    cases hf : m.files with
    | nil => rfl
    | cons fate r => exact h fate (hf ▸ mem_cons_self)
  simp only [fileCall, hh, skip, drop_one]

theorem fileCalls_of_calm {m : Machine} (h : ∀ fate ∈ m.files, fate = .proceed)
    (n : Nat) : fileCalls n m = (.ok (.ok ()), m.skip n) := by
  induction n generalizing m with
  | zero => rfl
  | succ n ih =>
    have hr : ∀ fate ∈ (m.skip 1).files, fate = .proceed :=
      fun fate hf => h fate (mem_of_mem_drop hf)
    rw [fileCalls, bind_of_ok (fileCall_of_calm h id)]
    show fileCalls n (m.skip 1) = _
    rw [ih hr]
    simp [skip]

theorem deactivateNetworkWith_of_calm
    (ha : ∀ record ∈ before.record, record.schemaVersion = networkOwnershipSchemaVersion)
    (hr : before.Calm) (hf : ∀ fate ∈ before.files, fate = .proceed) :
    ∃ after, deactivateNetworkWith before = (.ok (.ok ()), after) := by
  cases hs : before.record with
  | none =>
    have hl : loadNetworkOwnership before = (.ok (.ok none), before.skip 1) := by
      unfold loadNetworkOwnership
      rw [hs, bind_of_ok (fileCalls_of_calm hf _)]
      rfl
    rw [deactivateNetworkWith, bind_of_ok hl]
    exact ⟨_, rfl⟩
  | some record =>
    have hl : loadNetworkOwnership before = (.ok (.ok (some record)), before.skip 3) := by
      unfold loadNetworkOwnership
      rw [hs, bind_of_ok (fileCalls_of_calm hf _)]
      rfl
    have hc : (before.skip 3).Calm := hr
    obtain ⟨reverts, -, hu⟩ := LinuxRuntimePlan.deactivate_of_calm hc record.runtimePlan
    have he : ∀ machine : Machine, machine.files = before.files.drop 3 →
        ∃ after, removeNetworkOwnership machine = (.ok (.ok ()), after) := by
      intro machine hm
      refine ⟨_, fileCall_of_calm (fun fate hfa => hf fate ?_) _⟩
      rw [hm] at hfa
      exact mem_of_mem_drop hfa
    obtain ⟨after, haf⟩ := he { before.skip 3 with
      host := (before.skip 3).host.undoAll (revertsOf record.runtimePlan.operations), reverts } rfl
    have ho : deactivateOwned record (before.skip 3) = (.ok (.ok ()), after) := by
      rw [deactivateOwned, if_neg (not_not_intro (ha record hs)), bind_of_ok hu]
      show (removeNetworkOwnership >>= _) _ = _
      rw [bind_of_ok haf]
      rfl
    rw [deactivateNetworkWith, bind_of_ok hl]
    exact ⟨after, ho⟩

/-- An activation is covered, a deactivation may end as it will. -/
def OwnershipCall.Sound (deck : Deck) : OwnershipCall → Prop
  | .activate config _ now fates => Covered (deck.machine fates) (.fromConfig config now)
  | .deactivate _ => True

theorem Deck.recorded_call (s : SocketAddrs) (d : Deck)
    (ca : OwnershipCall) (h : Recorded start d.host d.record) (ho : ca.Sound d) :
    Recorded start (d.call s ca).2.host (d.call s ca).2.record := by
  have hm : Meets (· = d.machine ca.fates) (ca.program s)
      (fun _ => RecordedAt start) (fun _ => RecordedAt start) := by
    cases ca with
    | activate c g now f => exact meets_activateNetworkWith h ho
    | deactivate f =>
      exact (meets_deactivateNetworkWith h).weaken (fun _ hpr => hpr)
        (fun _ _ hp => hp.1) fun _ _ hs => hs
  have ha := hm _ rfl
  unfold Deck.call
  rcases hr : ca.program s (d.machine ca.fates) with ⟨_ | r, a⟩
  · rw [hr] at ha
    exact ha
  · rw [hr] at ha
    exact ha

/-- In a run whose activations are covered, every object that the host did not start with is
described by the stored record, and a deactivation none of whose steps fails removes them all. -/
theorem ownership_recorded (socketAddrs : SocketAddrs) (start : Host) (calls : List OwnershipCall)
    (hsound : Along (Deck.call socketAddrs) (fun deck call => call.Sound deck) ⟨start, none⟩ calls) :
    (∀ object, (run (Deck.call socketAddrs) ⟨start, none⟩ calls).host.Has object →
      ¬ start.Has object →
      ∃ record ∈ (run (Deck.call socketAddrs) ⟨start, none⟩ calls).record,
        record.Describes object) ∧
    ∀ fates : Fates, (∀ fate ∈ fates.reverts, fate = .proceed) →
      (∀ fate ∈ fates.files, fate = .proceed) →
      ∃ after, (run (Deck.call socketAddrs) ⟨start, none⟩ calls).call socketAddrs (.deactivate fates) =
          (.ok (.ok ()), after) ∧
        ∀ object, after.host.Has object → start.Has object := by
  have hi : Recorded start start none := ⟨fun _ ho => Or.inl ho, fun _ he => by contradiction⟩
  have hl := run_invariant_along (fun deck : Deck => Recorded start deck.host deck.record)
    (fun deck call h hsound => Deck.recorded_call socketAddrs deck call h hsound) hi hsound
  refine ⟨fun object ho hs => ?_, fun fates hr hf => ?_⟩
  · exact (hl.described object ho).resolve_left hs
  · generalize run (Deck.call socketAddrs) ⟨start, none⟩ calls = deck at hl
    have hm : RecordedAt start (deck.machine fates) := hl
    obtain ⟨after, hu⟩ := deactivateNetworkWith_of_calm hm.accepted hr hf
    refine ⟨⟨after.host, after.record⟩, ?_, ?_⟩
    · have hp : (OwnershipCall.deactivate fates).program socketAddrs (deck.machine fates) =
          (.ok (.ok ()), after) := hu
      simp [Deck.call, OwnershipCall.fates, hp]
    · exact ((meets_deactivateNetworkWith hm).of_run rfl hu).2 rfl

def noFates : Fates := ⟨[], [], []⟩

/-- An activation, and a deactivation whose second revert fails. -/
def heldCalls : List OwnershipCall :=
  [.activate .default [] 7 noFates, .deactivate ⟨[], [.proceed, .fail "ip: busy"], []⟩]

theorem heldCalls_recorded :
    Along (Deck.call fun _ => none) (fun deck call => call.Sound deck) ⟨.empty, none⟩ heldCalls ∧
      (∀ object, (run (Deck.call fun _ => none) ⟨.empty, none⟩ heldCalls).host.Has object →
        ¬ empty.Has object →
        ∃ record ∈ (run (Deck.call fun _ => none) ⟨.empty, none⟩ heldCalls).record,
          record.Describes object) ∧
      ∀ fates : Fates, (∀ fate ∈ fates.reverts, fate = .proceed) →
        (∀ fate ∈ fates.files, fate = .proceed) →
        ∃ after, (run (Deck.call fun _ => none) ⟨.empty, none⟩ heldCalls).call (fun _ => none)
            (.deactivate fates) = (.ok (.ok ()), after) ∧
          ∀ object, after.host.Has object → empty.Has object := by
  have hs : Along (Deck.call fun _ => none) (fun deck call => call.Sound deck) ⟨.empty, none⟩
      heldCalls := by
    refine ⟨⟨by decide, ?_, by decide, fun _ ho => by contradiction⟩, trivial, trivial⟩
    exact fun _ hf => absurd hf not_mem_nil
  exact ⟨hs, ownership_recorded (fun _ => none) .empty heldCalls hs⟩

/-- A daemon that stops once it has created the device. -/
def stoppedCalls : List OwnershipCall := [.activate .default [] 7 ⟨[.proceed, .crash], [], []⟩]

theorem run_stoppedCalls : run (Deck.call fun _ => none) ⟨.empty, none⟩ stoppedCalls =
      ⟨empty.setDevice "qlink0" ⟨[], none⟩, none⟩ := by
  obtain ⟨p, hp⟩ := LinuxRuntimePlan.fromConfigWithGameUdpPorts_eq_ok_iff.mpr
    ⟨default_validate, by decide, (not_mem_nil : (0 : UInt16) ∉ [])⟩
  have ho : p.network.operations = _ :=
    congrArg LinuxNetworkPlan.operations (LinuxRuntimePlan.for_of_fromConfig hp).1.network
  have hc : empty.perform (.network (.createTun "qlink0")) =
      some (empty.setDevice "qlink0" ⟨[], none⟩) := by
    rw [perform, ip, if_neg]
    exact Finmap.notMem_empty
  have hap : apply (.network (.createTun "qlink0")) ⟨.empty, none, [.proceed, .crash], [], []⟩ =
      (.ok (.ok ()), ⟨empty.setDevice "qlink0" ⟨[], none⟩, none, [.crash], [], []⟩) := by
    simp [apply, hc]
  have hl : applyAll .network [] p.network.operations
        ⟨.empty, none, [.proceed, .crash], [], []⟩ =
      (.error .crash, ⟨empty.setDevice "qlink0" ⟨[], none⟩, none, [], [], []⟩) := by
    rw [ho]
    show (apply (.network (.createTun "qlink0")) >>= _) _ = _
    rw [bind_of_ok hap]
    rfl
  have ha : activateNetworkWith (fun _ => none) .default [] 7
        ⟨.empty, none, [.proceed, .crash], [], []⟩ =
      (.error .crash, ⟨empty.setDevice "qlink0" ⟨[], none⟩, none, [], [], []⟩) := by
    rw [activateNetworkWith, hp]
    show (p.applyWithRollback >>= _) ⟨.empty, none, [.proceed, .crash], [], []⟩ = _
    rw [LinuxRuntimePlan.applyWithRollback, bind_of_error (bind_of_error hl _)]
  have hm : Deck.machine ⟨.empty, none⟩ ⟨[.proceed, .crash], [], []⟩ =
      ⟨.empty, none, [.proceed, .crash], [], []⟩ := rfl
  rw [stoppedCalls, run_one]
  simp [Deck.call, OwnershipCall.program, OwnershipCall.fates, hm, ha]

/-- The device is up, no record describes it, and a deactivation that succeeds leaves it. -/
theorem stopped_unrecorded : empty.Clear (.ofConfig .default) ∧
      (run (Deck.call fun _ => none) ⟨.empty, none⟩ stoppedCalls).host.Has (.device "qlink0") ∧
      (run (Deck.call fun _ => none) ⟨.empty, none⟩ stoppedCalls).record = none ∧
      ∃ after, (run (Deck.call fun _ => none) ⟨.empty, none⟩ stoppedCalls).call (fun _ => none)
          (.deactivate noFates) = (.ok (.ok ()), after) ∧
        after.host.Has (.device "qlink0") := by
  have hh : (empty.setDevice "qlink0" ⟨[], none⟩).Has (.device "qlink0") :=
    Finmap.mem_insert.mpr (Or.inl rfl)
  rw [run_stoppedCalls]
  exact ⟨clear_empty _, hh, rfl, ⟨empty.setDevice "qlink0" ⟨[], none⟩, none⟩, rfl, hh⟩

end QuantumLink.Network
