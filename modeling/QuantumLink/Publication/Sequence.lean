import QuantumLink.Foundation.Json.Lines
import QuantumLink.Publication.Machine

/-! # Sequence numbers over crashes and restarts

A reserved number is written down before it is handed out, so the file, the counter in memory and
the numbers handed out so far can drift apart only in one direction: whatever a restart may read is
above every number handed out.
-/

namespace QuantumLink.Publication

open PublicationStateMachine List
open DurablePublicationState

/-- A restart that reads these contents may go on with this number. -/
def Resumes (content : Option Bytes) (next : UInt64) : Prop :=
  ∃ path parseError obstacle durable,
    loadDurableState path parseError obstacle content = .ok durable ∧ durable.nextSequence = next

/-- What the file holds when this number is the next. -/
def stateBytes (next : UInt64) : Bytes :=
  fileBytes (toJson ⟨publicationStateSchemaVersion, next⟩)

theorem DurablePublicationState.ofJson_toJson (state : DurablePublicationState) :
    ofJson state.toJson = some state := by
  have hf := Json.structFields_zip names (by decide)
    [.ofUInt8 state.schemaVersion, .ofUInt64 state.nextSequence] rfl
  have hz : state.toJson =
      .obj (names.zip [.ofUInt8 state.schemaVersion, .ofUInt64 state.nextSequence]) := rfl
  rw [ofJson, hz, hf]
  simp

/-- A file that is there and can be read is of this schema and does not hold zero. -/
theorem loadDurableState_some
    (h : loadDurableState path parseError obstacle (some bytes) = .ok durable) :
    (Json.ofBytes bytes).bind ofJson = some durable ∧ durable.nextSequence ≠ 0 := by
  cases obstacle with
  | some obstacle => cases obstacle <;> exact absurd h (by simp [loadDurableState])
  | none =>
    simp only [loadDurableState] at h
    obtain ⟨s, hr, he⟩ := bind_eq_ok_iff.mp h
    obtain ⟨_, hv, hu⟩ := bind_eq_ok_iff.mp he
    cases hu
    refine ⟨?_, (ensure_eq_ok_iff.mp hv).2⟩
    cases hp : (Json.ofBytes bytes).bind ofJson with
    | none => simp [hp, okOr] at hr
    | some f =>
      simp only [hp, okOr, Except.ok.injEq] at hr
      rw [hr]

/-- A file that is not there stands for one that holds the number one. -/
theorem loadDurableState_none
    (h : loadDurableState path parseError obstacle none = .ok durable) : durable = .default := by
  cases obstacle with
  | some obstacle => cases obstacle <;> exact absurd h (by simp [loadDurableState])
  | none => exact (Except.ok.inj h).symm

variable {next : UInt64}

theorem Resumes.pos (h : Resumes content next) : 1 ≤ next := by
  obtain ⟨pa, p, o, d, hl, rfl⟩ := h
  cases content with
  | some b =>
    have hne := (loadDurableState_some hl).2
    have hn : d.nextSequence.toNat ≠ 0 := fun hz => hne (UInt64.toNat_inj.mp hz)
    rw [UInt64.le_iff_toNat_le]
    have ho : (1 : UInt64).toNat = 1 := rfl
    omega
  | none =>
    rw [loadDurableState_none hl]
    decide

theorem Resumes.unique (h : Resumes content next) (ho : Resumes content other) : next = other := by
  obtain ⟨path, parseError, obstacle, durable, hl, rfl⟩ := h
  obtain ⟨path', parseError', obstacle', durable', hl', rfl⟩ := ho
  cases content with
  | none => rw [loadDurableState_none hl, loadDurableState_none hl']
  | some b =>
    have hr := (loadDurableState_some hl).1
    rw [(loadDurableState_some hl').1] at hr
    rw [Option.some.inj hr]

theorem Resumes.of_stateBytes (h : Resumes (some (stateBytes written)) next) : next = written := by
  obtain ⟨pa, p, o, d, hl, rfl⟩ := h
  have hr := (loadDurableState_some hl).1
  rw [stateBytes, fileBytes, Json.ofBytes_line, Option.bind_some, ofJson_toJson] at hr
  rw [← Option.some.inj hr]

theorem max_one_eq (h : 1 ≤ next) : max next 1 = next := by
  have hm : max next 1 = if next ≤ 1 then 1 else next := rfl
  rw [hm]
  split
  · exact UInt64.le_antisymm h ‹_›
  · rfl

/-- `u64::MAX`. -/
def sequenceLimit : UInt64 := 0xFFFFFFFFFFFFFFFF

theorem checkedAdd_one_eq (a : UInt64) :
    checkedAdd a 1 = if a = sequenceLimit then none else some (a + 1) := by
  have hl : a = sequenceLimit ↔ a.toNat = 18446744073709551615 := by
    rw [← UInt64.toNat_inj]
    rfl
  have hs : UInt64.size = 18446744073709551616 := rfl
  have ho : (1 : UInt64).toNat = 1 := rfl
  have hlt := a.toNat_lt
  unfold checkedAdd
  by_cases h : a = sequenceLimit
  · have hn := hl.mp h
    rw [if_neg (by omega), if_pos h]
  · have hn : a.toNat ≠ 18446744073709551615 := fun heq => h (hl.mpr heq)
    rw [if_pos (by omega), if_neg h]

theorem lt_add_one_of_ne_limit (h : a ≠ sequenceLimit) : a < a + 1 := by
  have hne : a.toNat ≠ 18446744073709551615 := fun heq => h (UInt64.toNat_inj.mp heq)
  have hlt := a.toNat_lt
  have ho : (1 : UInt64).toNat = 1 := rfl
  rw [UInt64.lt_iff_toNat_lt, UInt64.toNat_add, ho]
  omega

inductive Reserved (machine after : PublicationStateMachine) (file fileAfter : ReplacedFile Bytes) :
    Except String UInt64 → Prop where
  | exhausted (text : String) (hlimit : machine.nextSequence = sequenceLimit)
      (hcounter : after.nextSequence = machine.nextSequence) (hfile : fileAfter = file) :
      Reserved machine after file fileAfter (.error text)
  | failed (text : String) (progress : ReplaceProgress)
      (hlimit : machine.nextSequence ≠ sequenceLimit)
      (hcounter : after.nextSequence = machine.nextSequence)
      (hfile : fileAfter = file.replace (stateBytes (machine.nextSequence + 1)) progress) :
      Reserved machine after file fileAfter (.error text)
  | done (hlimit : machine.nextSequence ≠ sequenceLimit)
      (hcounter : after.nextSequence = machine.nextSequence + 1)
      (hfile : fileAfter = file.replace (stateBytes (machine.nextSequence + 1)) .synced) :
      Reserved machine after file fileAfter (.ok machine.nextSequence)

theorem reserveSequence_reserved (machine : PublicationStateMachine) (fi : ReplacedFile Bytes)
    (n : UInt64) (f : Option Fault) :
    Reserved machine (machine.reserveSequence fi n f).2.1 fi (machine.reserveSequence fi n f).2.2
      (machine.reserveSequence fi n f).1 := by
  by_cases hl : machine.nextSequence = sequenceLimit
  · have ha : checkedAdd machine.nextSequence 1 = none := by
      rw [checkedAdd_one_eq, if_pos hl]
    simp only [reserveSequence, ha]
    exact .exhausted _ hl rfl rfl
  · have ha : checkedAdd machine.nextSequence 1 = some (machine.nextSequence + 1) := by
      rw [checkedAdd_one_eq, if_neg hl]
    cases f with
    | none =>
      simp only [reserveSequence, ha, writeJsonAtomically]
      exact .done hl rfl rfl
    | some f =>
      simp only [reserveSequence, ha, writeJsonAtomically]
      exact .failed _ f.step.progress hl rfl rfl

/-- The daemon, where it runs, and its state file. -/
structure Reservations where
  machine : Option PublicationStateMachine
  stateFile : ReplacedFile Bytes

inductive ReservationEvent where
  | reserve (nowUnix : UInt64) (fault : Option Fault)
  /-- The process ends within a reservation: before this step of the write, or after all. -/
  | crashWithin (nowUnix : UInt64) (step : Option WriteStep)
  | crash
  | powerLoss (kept : Nat)
  | restart (ttlSeconds : UInt64) (path parseError : String) (obstacle : Option Obstacle)

def ReservationEvent.IsPowerLoss : ReservationEvent → Prop
  | .powerLoss _ => True
  | _ => False

namespace Reservations

def initial (content : Option Bytes) : Reservations := ⟨none, .settled content⟩

def step (world : Reservations) :
    ReservationEvent → Option (Except String UInt64) × Reservations
  | .reserve nowUnix fault =>
    match world.machine with
    | none => (none, world)
    | some machine =>
      let (result, machine, stateFile) := machine.reserveSequence world.stateFile nowUnix fault
      (some result, ⟨some machine, stateFile⟩)
  | .crashWithin nowUnix step =>
    match world.machine with
    | none => (none, world)
    | some machine =>
      let (_, _, stateFile) :=
        machine.reserveSequence world.stateFile nowUnix (step.map fun step => ⟨step, ""⟩)
      (none, ⟨none, stateFile⟩)
  | .crash => (none, ⟨none, world.stateFile⟩)
  | .powerLoss kept => (none, ⟨none, world.stateFile.powerLoss kept⟩)
  | .restart ttlSeconds path parseError obstacle =>
    let loaded := loadDurableState path parseError obstacle world.stateFile.shown
    (none, ⟨loaded.toOption.map (load ttlSeconds), world.stateFile⟩)

def reservedValue (world : Reservations) (event : ReservationEvent) : Option UInt64 :=
  (step world event).1.bind Except.toOption

def returned (world : Reservations) (events : List ReservationEvent) : List UInt64 :=
  observed step reservedValue world events

/-- Everything a restart may read is above every number handed out, and so is the counter. -/
structure Ahead (values : List UInt64) (world : Reservations) : Prop where
  sorted : values.Pairwise (· < ·)
  positive : ∀ value ∈ values, 1 ≤ value
  file : world.stateFile.Holds fun content =>
    ∀ next, Resumes content next → ∀ value ∈ values, value < next
  counter : ∀ machine ∈ world.machine, 1 ≤ machine.nextSequence ∧
    (∀ value ∈ values, value < machine.nextSequence) ∧
    ∀ next, Resumes world.stateFile.shown next → machine.nextSequence ≤ next

theorem Ahead.initial (c : Option Bytes) : Ahead [] (initial c) where
  sorted := List.Pairwise.nil
  positive := by simp
  file := by simp [Reservations.initial]
  counter := by simp [Reservations.initial]

variable {values : List UInt64} {world : Reservations} {stateFile : ReplacedFile Bytes}

theorem Ahead.gone (h : Ahead values world) (hf : stateFile.Holds fun content =>
      ∀ next, Resumes content next → ∀ value ∈ values, value < next) :
    Ahead values ⟨none, stateFile⟩ where
  sorted := h.sorted
  positive := h.positive
  file := hf
  counter := by simp

theorem Resumes.stateBytes_gt
    (hl : counter ≠ sequenceLimit) (hb : ∀ value ∈ values, value < counter)
    (h : Resumes (some (stateBytes (counter + 1))) next) :
    counter < next ∧ ∀ value ∈ values, value < next := by
  have hn := Resumes.of_stateBytes h
  have hlt : counter < next := hn ▸ lt_add_one_of_ne_limit hl
  exact ⟨hlt, fun value hv => UInt64.lt_trans (hb value hv) hlt⟩

variable {machine : PublicationStateMachine}

/-- A reservation that fails anywhere, or is cut off, hands out nothing and leaves the file ahead. -/
theorem Ahead.replace (h : Ahead values world) (hm : world.machine = some machine)
    (hl : machine.nextSequence ≠ sequenceLimit) (p : ReplaceProgress) :
    (world.stateFile.replace (stateBytes (machine.nextSequence + 1)) p).Holds fun content =>
      ∀ next, Resumes content next → ∀ value ∈ values, value < next :=
  h.file.replace
    (fun _ hn => (Resumes.stateBytes_gt hl (h.counter machine hm).2.1 hn).2) p

variable {after : PublicationStateMachine} {fileAfter : ReplacedFile Bytes}
  {result : Except String UInt64}

theorem Ahead.reserve (h : Ahead values world) (hm : world.machine = some machine)
    (hr : Reserved machine after world.stateFile fileAfter result) :
    Ahead (values ++ result.toOption.toList) ⟨some after, fileAfter⟩ := by
  obtain ⟨hp, hb, hs⟩ := h.counter machine hm
  cases hr with
  | exhausted t hl hc hf =>
    refine ⟨by simpa [Except.toOption] using h.sorted, by simpa [Except.toOption] using h.positive,
      by simpa [Except.toOption, hf] using h.file, ?_⟩
    rintro machine ⟨rfl⟩
    rw [hc, hf]
    simpa [Except.toOption] using ⟨hp, hb, hs⟩
  | failed t p hl hc hf =>
    refine ⟨by simpa [Except.toOption] using h.sorted, by simpa [Except.toOption] using h.positive,
      by simpa [Except.toOption, hf] using h.replace hm hl p, ?_⟩
    rintro machine ⟨rfl⟩
    rw [hc, hf]
    refine ⟨hp, by simpa [Except.toOption] using hb, fun n hn => ?_⟩
    cases p with
    | untouched => exact hs n hn
    | renamed | synced => exact UInt64.le_of_lt (Resumes.stateBytes_gt hl hb hn).1
  | done hl hc hf =>
    have ha : ∀ v ∈ values ++ [machine.nextSequence], v < machine.nextSequence + 1 := by
      intro v hv
      have hu := lt_add_one_of_ne_limit hl
      rcases mem_append.mp hv with ho | hne
      · exact UInt64.lt_trans (hb v ho) hu
      · rw [mem_singleton.mp hne]
        exact hu
    change Ahead (values ++ [machine.nextSequence]) _
    refine ⟨?_, ?_, ?_, ?_⟩
    · refine pairwise_append.mpr ⟨h.sorted, pairwise_singleton _ _, ?_⟩
      intro v hv l ha
      rw [mem_singleton.mp ha]
      exact hb v hv
    · intro v hv
      rcases mem_append.mp hv with ho | hne
      · exact h.positive v ho
      · rw [mem_singleton.mp hne]
        exact hp
    · rw [hf, ReplacedFile.holds_replace_synced]
      intro n hn v hv
      rw [Resumes.of_stateBytes hn]
      exact ha v hv
    · rintro after' ⟨rfl⟩
      rw [hc]
      refine ⟨UInt64.le_trans hp (UInt64.le_of_lt (lt_add_one_of_ne_limit hl)), ha, ?_⟩
      intro n hn
      rw [hf] at hn
      rw [Resumes.of_stateBytes hn]
      exact UInt64.le_refl _

theorem Ahead.reserve_file (h : Ahead values world) (hm : world.machine = some machine)
    (hr : Reserved machine after world.stateFile fileAfter result) :
    fileAfter.Holds fun content => ∀ next, Resumes content next → ∀ value ∈ values, value < next := by
  cases hr with
  | exhausted t hl hc hf => exact hf ▸ h.file
  | failed t p hl hc hf => exact hf ▸ h.replace hm hl p
  | done hl hc hf => exact hf ▸ h.replace hm hl .synced

theorem restart_resumes {tt : UInt64}
    (h : machine ∈ (step world (.restart tt path parseError obstacle)).2.machine) :
    ∃ next, Resumes world.stateFile.shown next ∧ machine.nextSequence = next := by
  simp only [step, Option.mem_def, Option.map_eq_some_iff] at h
  obtain ⟨d, hd, rfl⟩ := h
  cases hl : loadDurableState path parseError obstacle world.stateFile.shown with
  | error t => simp [hl, Except.toOption] at hd
  | ok f =>
    simp only [hl, Except.toOption, Option.some.injEq] at hd
    subst hd
    have hr : Resumes world.stateFile.shown f.nextSequence :=
      ⟨path, parseError, obstacle, f, hl, rfl⟩
    exact ⟨f.nextSequence, hr, max_one_eq hr.pos⟩

theorem Ahead.step (h : Ahead values world) (e : ReservationEvent) :
    Ahead (values ++ (reservedValue world e).toList) (step world e).2 := by
  cases e with
  | reserve n f =>
    cases hm : world.machine with
    | none => simpa [reservedValue, Reservations.step, hm] using h
    | some m =>
      have hr := reserveSequence_reserved m world.stateFile n f
      simpa [reservedValue, Reservations.step, hm] using h.reserve hm hr
  | crashWithin n step =>
    cases hm : world.machine with
    | none => simpa [reservedValue, Reservations.step, hm] using h
    | some m =>
      have hr := reserveSequence_reserved m world.stateFile n
        (step.map fun step => ⟨step, ""⟩)
      simpa [reservedValue, Reservations.step, hm] using
        h.gone (h.reserve_file hm hr)
  | crash => simpa [reservedValue, Reservations.step] using h.gone h.file
  | powerLoss k => simpa [reservedValue, Reservations.step] using h.gone (h.file.powerLoss k)
  | restart t pa p o =>
    have hv : values ++ (reservedValue world (.restart t pa p o)).toList
        = values := by simp [reservedValue, Reservations.step]
    rw [hv]
    refine ⟨h.sorted, h.positive, h.file, ?_⟩
    intro m hm
    obtain ⟨ne, he, hn⟩ := restart_resumes hm
    rw [hn]
    refine ⟨he.pos, h.file.shown _ he, fun ot ho => ?_⟩
    rw [he.unique ho]
    exact UInt64.le_refl _

theorem run_ahead (c : Option Bytes) (ev : List ReservationEvent) :
    Ahead (returned (initial c) ev) (run step (initial c) ev) := by
  induction ev using reverseRecOn with
  | nil => exact Ahead.initial c
  | append_singleton ev e ih =>
    rw [returned, observed_concat, run_concat]
    exact ih.step e

/-- Neither the daemon nor the file has a number left, and the file is this one. -/
structure Exhausted (stateFile : ReplacedFile Bytes) (world : Reservations) : Prop where
  file : world.stateFile = stateFile
  counter : ∀ machine ∈ world.machine, machine.nextSequence = sequenceLimit
  shown : ∀ next, Resumes stateFile.shown next → next = sequenceLimit

theorem le_sequenceLimit (a : UInt64) : a ≤ sequenceLimit := by
  have hlt := a.toNat_lt
  have hl : sequenceLimit.toNat = 18446744073709551615 := rfl
  rw [UInt64.le_iff_toNat_le]
  omega

theorem Ahead.exhausted (h : Ahead values world) (hm : world.machine = some machine)
    (hl : machine.nextSequence = sequenceLimit) : Exhausted world.stateFile world where
  file := rfl
  counter := by
    intro other ho
    cases hm.symm.trans ho
    exact hl
  shown := by
    intro n hn
    have hle := (h.counter machine hm).2.2 n hn
    rw [hl] at hle
    exact UInt64.le_antisymm (le_sequenceLimit n) hle

theorem reserved_at_limit (hr : Reserved machine after file fileAfter result)
    (hl : machine.nextSequence = sequenceLimit) :
    (∃ text, result = .error text) ∧ after.nextSequence = sequenceLimit ∧ fileAfter = file := by
  cases hr with
  | exhausted text _ hc hf => exact ⟨⟨text, rfl⟩, hc.trans hl, hf⟩
  | failed text p hne | done hne => exact absurd hl hne

/-- Every reservation that is answered in the run fails. -/
def Refused (world : Reservations) (events : List ReservationEvent) : Prop :=
  ∀ entry ∈ trace step world events, ∀ result ∈ entry.2, ∃ text, result = .error text

theorem Exhausted.step
    (h : Exhausted stateFile world) {e : ReservationEvent} (hp : ¬ e.IsPowerLoss) :
    (∀ result ∈ (step world e).1, ∃ text, result = .error text) ∧
      Exhausted stateFile (step world e).2 := by
  cases e with
  | reserve n f =>
    cases hm : world.machine with
    | none => simpa [Reservations.step, hm] using h
    | some m =>
      have hr := reserveSequence_reserved m world.stateFile n f
      obtain ⟨he, hc, hf⟩ := reserved_at_limit hr (h.counter m hm)
      refine ⟨by simpa [Reservations.step, hm] using he, ?_, ?_, h.shown⟩
      · simpa [Reservations.step, hm] using hf.trans h.file
      · simpa [Reservations.step, hm] using hc
  | crashWithin n step =>
    cases hm : world.machine with
    | none => simpa [Reservations.step, hm] using h
    | some m =>
      have hr := reserveSequence_reserved m world.stateFile n
        (step.map fun step => ⟨step, ""⟩)
      obtain ⟨-, -, hf⟩ := reserved_at_limit hr (h.counter m hm)
      refine ⟨by simp [Reservations.step, hm], ?_, ?_, h.shown⟩
      · simpa [Reservations.step, hm] using hf.trans h.file
      · simp [Reservations.step, hm]
  | crash =>
    exact ⟨by simp [Reservations.step], h.file, by simp [Reservations.step], h.shown⟩
  | powerLoss k => exact absurd trivial hp
  | restart t pa p o =>
    refine ⟨by simp [Reservations.step], h.file, ?_, h.shown⟩
    intro m hm
    obtain ⟨ne, hre, hn⟩ := restart_resumes hm
    rw [hn]
    exact h.shown ne (h.file ▸ hre)

theorem Exhausted.refused (h : Exhausted stateFile world)
    (hp : ∀ event ∈ events, ¬ event.IsPowerLoss) :
    Refused world events ∧ (run Reservations.step world events).stateFile = stateFile := by
  induction events generalizing world with
  | nil => exact ⟨by simp [Refused, trace], h.file⟩
  | cons event events ih =>
    obtain ⟨her, hn⟩ := h.step (hp event (by simp))
    obtain ⟨hr, hf⟩ := ih hn fun o ho => hp o (by simp [ho])
    refine ⟨?_, hf⟩
    intro e he
    rcases mem_cons.mp he with rfl | hl
    · exact her
    · exact hr e hl

/-- **No sequence number is reused.** Over every run of reservations, crashes and restarts, the
numbers handed out rise strictly and are positive. Once the counter stands at the last number,
every further reservation fails and the file stays as it is, for as long as no loss of power takes
a version of the file back. -/
theorem reserved_sequences_rise (content : Option Bytes) (events : List ReservationEvent) :
    (returned (initial content) events).Pairwise (· < ·) ∧
      (∀ value ∈ returned (initial content) events, 1 ≤ value) ∧
      ∀ machine ∈ (run step (initial content) events).machine,
        machine.nextSequence = sequenceLimit → ∀ later : List ReservationEvent,
          (∀ event ∈ later, ¬ event.IsPowerLoss) →
            Refused (run step (initial content) events) later ∧
            (run step (run step (initial content) events) later).stateFile =
              (run step (initial content) events).stateFile := by
  have ha := run_ahead content events
  refine ⟨ha.sorted, ha.positive, fun machine hm hl later hp => ?_⟩
  exact (ha.exhausted hm hl).refused hp

end Reservations

end QuantumLink.Publication
