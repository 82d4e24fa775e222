import QuantumLink.Foundation.Run

/-! # Reconnects and their backoff

`run_session_manager` as far as it decides when to connect. After a failed attempt it waits for its
timer, for an event or for the shutdown, whichever comes first.
-/

namespace QuantumLink.Transport

/-- Durations are counted in nanoseconds. -/
structure BackoffConfig where
  initial : Nat
  max : Nat

def maxDuration : Nat := (2 ^ 64 - 1) * 10 ^ 9 + 999999999

def maxFailures : Nat := 2 ^ 32 - 1

namespace BackoffConfig

def multiplier (consecutiveFailures : Nat) : Nat :=
  if consecutiveFailures - 1 < 32 then 2 ^ (consecutiveFailures - 1) else 2 ^ 32 - 1

variable (self : BackoffConfig)

/-- The product with the multiplier, unless it is not a duration. -/
def candidate (multiplier : Nat) : Nat :=
  if self.initial * multiplier ≤ maxDuration then self.initial * multiplier else self.max

def delayFor (consecutiveFailures : Nat) : Nat :=
  if consecutiveFailures = 0 then 0
  else min (self.candidate (multiplier consecutiveFailures)) self.max

theorem multiplier_lt (n : Nat) : multiplier n < 2 ^ 32 := by
  unfold multiplier
  split_ifs with h
  · exact Nat.pow_lt_pow_right (by decide) h
  · decide

theorem multiplier_mono (h : n ≤ m) : multiplier n ≤ multiplier m := by
  unfold multiplier
  split_ifs with hn hm
  · exact Nat.pow_le_pow_right (by decide) (by omega)
  · have hp : 2 ^ (n - 1) < 2 ^ 32 := Nat.pow_lt_pow_right (by decide) hn
    omega
  · omega
  · exact le_rfl

variable (s : BackoffConfig)

theorem delayFor_le_max (n : Nat) : s.delayFor n ≤ s.max := by
  unfold delayFor
  split_ifs
  · exact Nat.zero_le _
  · exact min_le_right ..

theorem delayFor_mono (h : n ≤ m) : s.delayFor n ≤ s.delayFor m := by
  unfold delayFor
  split_ifs with hn hm
  · exact le_rfl
  · exact Nat.zero_le _
  · omega
  · have hp := Nat.mul_le_mul_left s.initial (multiplier_mono h)
    unfold candidate
    split_ifs <;> omega

end BackoffConfig

inductive NetworkEvent where
  | pathChanged
  | preSleep
  | postWake
  | reachabilityChanged (reachable : Bool)
deriving DecidableEq

def NetworkEvent.improving : NetworkEvent → Bool
  | .pathChanged | .postWake | .reachabilityChanged true => true
  | .preSleep | .reachabilityChanged false => false

inductive ManagerPhase where
  | connecting
  | backingOff (delay : Nat)
  | linked
  | stopped
deriving DecidableEq

structure ManagerState where
  phase : ManagerPhase
  consecutiveFailures : Nat

inductive ManagerInput where
  /-- The attempt succeeds, and there is a generation left for its session. -/
  | linked (numbered : Bool)
  | refused
  /-- The timer of the backoff has run out. -/
  | slept
  /-- None once the channel is closed. -/
  | event (event : Option NetworkEvent)
  | shutdown
  /-- The link fails or is due for a new session. -/
  | linkLost
deriving DecidableEq

namespace ManagerState

def initial : ManagerState := ⟨.connecting, 0⟩

variable (config : BackoffConfig)

variable (self : ManagerState)

variable (input : ManagerInput)

def step :
    Unit × ManagerState :=
  ((), match self.phase, input with
  | .connecting, .linked true => ⟨.linked, 0⟩
  | .connecting, .linked false => ⟨.stopped, 0⟩
  | .connecting, .refused =>
    let failures := min (self.consecutiveFailures + 1) maxFailures
    ⟨.backingOff (config.delayFor failures), failures⟩
  | .backingOff _, .slept => { self with phase := .connecting }
  | .backingOff _, .event (some event) =>
    if event.improving then ⟨.connecting, 0⟩ else { self with phase := .connecting }
  | .linked, .event (some event) =>
    if event.improving then { self with phase := .connecting } else self
  | .linked, .linkLost => { self with phase := .connecting }
  | .backingOff _, .event none | .backingOff _, .shutdown | .linked, .event none
  | .linked, .shutdown => { self with phase := .stopped }
  | _, _ => self)

/-- Failed attempts since the last success or improving event. -/
def countFailures (n : Nat) : Nat :=
  match self.phase, input with
  | .connecting, .linked _ => 0
  | .connecting, .refused => n + 1
  | .backingOff _, .event (some event) => if event.improving then 0 else n
  | _, _ => n

variable (s : ManagerState × Nat)

/-- An attempt that follows a failed one comes after the full delay or an improving event. -/
def Patient (input : ManagerInput) : Prop :=
  ∀ delay, s.1.phase = .backingOff delay → (s.1.step config input).2.phase = .connecting →
    input = .slept ∧ delay = config.delayFor (min s.2 maxFailures) ∨
      ∃ event, input = .event (some event) ∧ event.improving = true

/-- No other event comes during a backoff. -/
def Undisturbed (s : ManagerState) (input : ManagerInput) : Prop :=
  ∀ delay, s.phase = .backingOff delay → ∀ event, input = .event (some event) →
    event.improving = true

/-- The manager counts as the run does, and waits for its count. -/
def Counted : Prop :=
  s.1.consecutiveFailures = min s.2 maxFailures ∧
    ∀ delay, s.1.phase = .backingOff delay → delay = config.delayFor (min s.2 maxFailures)

variable (c : BackoffConfig)

theorem counted_step (s : ManagerState × Nat) (i : ManagerInput) (h : Counted c s) :
    Counted c (withRecord (step c) countFailures s i).2 := by
  obtain ⟨⟨phase, failures⟩, n⟩ := s
  obtain ⟨hf, hd⟩ := h
  obtain rfl : failures = min n maxFailures := hf
  cases phase with
  | connecting =>
    cases i with
    | linked numbered => cases numbered <;> simp [Counted, withRecord, step, countFailures]
    | refused =>
      have hn : min (min n maxFailures + 1) maxFailures = min (n + 1) maxFailures := by omega
      simp [Counted, withRecord, step, countFailures, hn]
    | _ => exact ⟨rfl, hd⟩
  | backingOff _ | linked =>
    cases i with
    | event event =>
      cases event with
      | none => simp [Counted, withRecord, step, countFailures]
      | some event =>
        cases hi : event.improving <;> simp [Counted, withRecord, step, countFailures, hi]
    | slept | linkLost | shutdown => simp_all [Counted, withRecord, step, countFailures]
    | _ => exact ⟨rfl, hd⟩
  | stopped => exact ⟨rfl, hd⟩

theorem patient_iff_undisturbed (s : ManagerState × Nat) (input : ManagerInput) (h : Counted c s) :
    Patient c s input ↔ Undisturbed s.1 input := by
  obtain ⟨⟨phase, failures⟩, n⟩ := s
  cases phase with
  | backingOff delay =>
    have hd := h.2 delay rfl
    cases input with
    | event event =>
      cases event with
      | none => simp [Patient, Undisturbed, step]
      | some event => cases hi : event.improving <;> simp [Patient, Undisturbed, step, hi]
    | slept => simp [Patient, Undisturbed, hd]
    | _ => simp [Patient, Undisturbed, step]
  | _ => simp [Patient, Undisturbed]

/-- The delays rise to the limit, and a run waits them out exactly if no event comes during a backoff
but those that improve matters. -/
theorem backoff_waited_out_iff (inputs : List ManagerInput) :
    ((∀ n m, n ≤ m → config.delayFor n ≤ config.delayFor m) ∧
      (∀ n, config.delayFor n ≤ config.max ∧ BackoffConfig.multiplier n < 2 ^ 32) ∧
      Along (withRecord (step config) countFailures) (Patient config) (initial, 0) inputs) ↔
    Along (step config) Undisturbed initial inputs := by
  have ha : Along (withRecord (step config) countFailures) (Patient config) (initial, 0) inputs ↔
      Along (step config) Undisturbed initial inputs := by
    rw [← along_withRecord (step config) countFailures Undisturbed (initial, 0)]
    refine along_congr (Counted config) (counted_step config) (patient_iff_undisturbed config) ?_ _
    simp [Counted, initial]
  rw [ha]
  refine ⟨fun h => h.2.2, fun h => ⟨fun n m => config.delayFor_mono, fun n => ?_, h⟩⟩
  exact ⟨config.delayFor_le_max n, BackoffConfig.multiplier_lt n⟩

/-- The device is about to sleep, and the manager tries again at once. -/
theorem presleep_ends_the_backoff :
    run (step ⟨1, 30⟩) initial [.refused, .event (some .preSleep)] = ⟨.connecting, 1⟩ ∧
      ¬ Along (withRecord (step ⟨1, 30⟩) countFailures) (Patient ⟨1, 30⟩) (initial, 0)
        [.refused, .event (some .preSleep)] := by
  refine ⟨rfl, fun h => ?_⟩
  obtain ⟨h, -⟩ | ⟨event, h, hi⟩ := h.2.1 1 rfl rfl
  · contradiction
  · obtain rfl : NetworkEvent.preSleep = event := by simpa using h
    contradiction

end ManagerState

end QuantumLink.Transport
