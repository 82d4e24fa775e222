import QuantumLink.Foundation.Run

/-! # Packet sessions on macOS

`PacketSessionReadinessCoordinator` installs a peer session in the packet core once the transport is
ready for the peer, and clears it otherwise. It decides from its own copy of what it installed and
from whether the core says that it is ready.
-/

namespace QuantumLink.MacOs

inductive ReadinessState where
  | notRequired
  | coreUnavailable
  | missingPeer
  | waitingForTransport
  | ready
  | failed
deriving DecidableEq

structure ReadinessReport where
  state : ReadinessState
  peerID : Option String := none
  installed : Bool := false
  cleared : Bool := false
  errorDescription : Option String := none

/-- What a synchronization reads of the configuration. Seconds that are not finite are none. -/
structure SessionConfiguration where
  requirePeerSession : Bool
  rekeyAfterSeconds : Option Rat
  maximumCandidateAgeSeconds : Nat
  rekeyAfterBytes : Nat
  mtu : Int

/-- The nearest `Double` in the normal range, and half way the even one. -/
def nearestDouble (value : Rat) : Rat :=
  let unit : Rat := 2 ^ (Int.log 2 |value| - 52)
  let below := (value / unit).floor
  let rest := value / unit - below
  (if 1 / 2 < rest ∨ rest = 1 / 2 ∧ below % 2 = 1 then below + 1 else below) * unit

/-- Times are seconds from the reference date, as in a `Date`. -/
def sessionExpiresAt (config : SessionConfiguration) (now : Rat) : Rat :=
  let seconds := (config.rekeyAfterSeconds.toList ++
    [(config.maximumCandidateAgeSeconds : Rat)]).filter fun value => 0 < value
  nearestDouble (now + max 1 (seconds.min?.getD 120))

def rekeyAfterPackets (config : SessionConfiguration) : Nat :=
  if config.rekeyAfterBytes = 0 then 0
  else max 1 (config.rekeyAfterBytes / (max 1 config.mtu).toNat)

/-- How the core adapter answers during a call: whether its session is ready, if that does not throw,
and the errors of the two calls that change it. -/
structure AdapterAnswers where
  ready : Option Bool
  installError : Option String
  clearError : Option String

structure Coordinator where
  installedPeerID : Option String
  installedExpiresAt : Option Rat
  installedRekeyAfterPackets : Option Nat
  /-- The peer of the session that is installed in the core. -/
  core : Option String

inductive CoordinatorCall where
  /-- The peer of the source and whether its transport is ready; none where there is no source. -/
  | synchronize (adapter : Option AdapterAnswers) (source : Option (Option String × Bool))
      (config : SessionConfiguration) (now : Rat)
  | clear (adapter : Option AdapterAnswers)

namespace Coordinator

def initial : Coordinator := ⟨none, none, none, none⟩

variable (self : Coordinator)

def clearLocalInstall : Coordinator := ⟨none, none, none, self.core⟩

/-- The report, whether `clearPeerSession` threw, and the coordinator afterwards. -/
def clearInstalledSession (adapter : AdapterAnswers) (state : ReadinessState)
    (peerID : Option String) : (ReadinessReport × Bool) × Coordinator :=
  let hadInstall := self.installedPeerID.isSome
  if hadInstall || adapter.ready == some true then
    match adapter.clearError with
    | some error =>
      (({ state := .failed, peerID, cleared := hadInstall, errorDescription := error }, true),
        self.clearLocalInstall)
    | none => (({ state, peerID, cleared := hadInstall }, false), initial)
  else (({ state, peerID, cleared := hadInstall }, false), self.clearLocalInstall)

def shouldInstall (adapter : AdapterAnswers) (peerID : String) (config : SessionConfiguration)
    (now : Rat) : Bool :=
  self.installedPeerID != some peerID ||
    self.installedRekeyAfterPackets != some (rekeyAfterPackets config) ||
    self.installedExpiresAt.all (· ≤ now) || !(adapter.ready.getD false)

def step : CoordinatorCall → (ReadinessReport × Bool) × Coordinator
  | .synchronize adapter source config now =>
    if !config.requirePeerSession then (({ state := .notRequired }, false), self)
    else
      match adapter with
      | none => (({ state := .coreUnavailable }, false), self.clearLocalInstall)
      | some adapter =>
        match source.bind Prod.fst with
        | none => self.clearInstalledSession adapter .missingPeer none
        | some peerID =>
          if !(source.any Prod.snd) then
            self.clearInstalledSession adapter .waitingForTransport (some peerID)
          else if !(self.shouldInstall adapter peerID config now) then
            (({ state := .ready, peerID }, false), self)
          else
            match adapter.installError with
            | some error =>
              (({ state := .failed, peerID, errorDescription := error }, false),
                self.clearLocalInstall)
            | none =>
              (({ state := .ready, peerID, installed := true }, false),
                ⟨some peerID, some (sessionExpiresAt config now), some (rekeyAfterPackets config),
                  some peerID⟩)
  | .clear none => (({ state := .coreUnavailable }, false), self.clearLocalInstall)
  | .clear (some adapter) =>
    self.clearInstalledSession adapter .waitingForTransport self.installedPeerID

/-- After a call no session is left unless the report is ready or the clearing threw, and a ready
report names the peer of the one that is there. -/
def Safe (outcome : (ReadinessReport × Bool) × Coordinator) : Prop :=
  (outcome.1.1.state ≠ .ready → outcome.1.2 = false → outcome.2.core = none) ∧
    (outcome.1.1.state = .ready → outcome.2.core = outcome.1.1.peerID ∧ outcome.1.1.peerID.isSome)

/-- A call that needs a session is safe. -/
def FailClosed (call : CoordinatorCall) : Prop :=
  (self.step call).1.1.state ≠ .notRequired → Safe (self.step call)

/-- A clearing finds no session that the coordinator forgot, or the core says it is ready. -/
def Clears (adapter : AdapterAnswers) : Prop :=
  self.core = none ∨ self.installedPeerID.isSome ∨ adapter.ready = some true

/-- A session in the core stays within reach: the adapter is there, a clearing finds it, and no
installation throws while it is there. -/
def WithinReach : CoordinatorCall → Prop
  | .synchronize adapter source config now => config.requirePeerSession = true →
    match adapter with
    | none => self.core = none
    | some adapter =>
      match source.bind Prod.fst with
      | none => self.Clears adapter
      | some peerID =>
        if !(source.any Prod.snd) then self.Clears adapter
        else self.shouldInstall adapter peerID config now = true →
          adapter.installError.isSome → self.core = none
  | .clear none => self.core = none
  | .clear (some adapter) => self.Clears adapter

/-- What the coordinator remembers is in the core. -/
def Remembers : Prop := ∀ peerID ∈ self.installedPeerID, self.core = some peerID

theorem remembers_clearInstalledSession (se : Coordinator) (a : AdapterAnswers)
    (s : ReadinessState) (p : Option String) :
    (se.clearInstalledSession a s p).2.Remembers := by
  unfold clearInstalledSession
  dsimp only
  split_ifs
  · split <;> simp [Remembers, initial, clearLocalInstall]
  · simp [Remembers, clearLocalInstall]

variable (s : Coordinator)

theorem safe_clear_iff (adapter : AdapterAnswers) (hs : state ≠ .ready) (p : Option String) :
    Safe (s.clearInstalledSession adapter state p) ↔ s.Clears adapter := by
  unfold Safe clearInstalledSession Clears
  dsimp only
  split_ifs with hc
  · have hr : s.installedPeerID.isSome ∨ adapter.ready = some true := by simpa using hc
    cases adapter.clearError <;> simp [hs, hr, initial]
  · have hr : ¬ (s.installedPeerID.isSome ∨ adapter.ready = some true) := by simpa using hc
    simp [hs, clearLocalInstall, or_iff_left hr]

theorem clearInstalledSession_required (a : AdapterAnswers) (hs : state ≠ .notRequired)
    (p : Option String) :
    (s.clearInstalledSession a state p).1.1.state ≠ .notRequired := by
  unfold clearInstalledSession
  dsimp only
  split_ifs
  · split <;> simp [hs]
  · exact hs

theorem remembers_step (c : CoordinatorCall) (h : s.Remembers) : (s.step c).2.Remembers := by
  have hl : s.clearLocalInstall.Remembers := by simp [Remembers, clearLocalInstall]
  cases c with
  | clear a =>
    cases a with
    | none => exact hl
    | some a => exact s.remembers_clearInstalledSession a _ _
  | synchronize a so co now =>
    simp only [step]
    split
    · exact h
    · cases a with
      | none => exact hl
      | some a =>
        dsimp only
        split
        · exact s.remembers_clearInstalledSession a _ _
        · split
          · exact s.remembers_clearInstalledSession a _ _
          · split
            · exact h
            · split
              · exact hl
              · simp [Remembers]

theorem failClosed_iff (call : CoordinatorCall) (h : s.Remembers) :
    s.FailClosed call ↔ s.WithinReach call := by
  have hc : ∀ a st peerID, st ≠ .ready → st ≠ .notRequired →
      s.step call = s.clearInstalledSession a st peerID →
      (s.FailClosed call ↔ s.Clears a) := by
    intro a st peerID hr hn he
    rw [FailClosed, he, ← s.safe_clear_iff a hr peerID]
    exact imp_iff_right (s.clearInstalledSession_required a hn peerID)
  cases call with
  | clear a =>
    cases a with
    | none => simp [FailClosed, Safe, WithinReach, step, clearLocalInstall]
    | some a => exact hc a .waitingForTransport _ (by decide) (by decide) rfl
  | synchronize a so c now =>
    cases hq : c.requirePeerSession with
    | false => simp [FailClosed, Safe, WithinReach, step, hq]
    | true =>
      cases a with
      | none => simp [FailClosed, Safe, WithinReach, step, hq, clearLocalInstall]
      | some a =>
        rw [WithinReach, imp_iff_right hq]
        cases hs : so.bind Prod.fst with
        | none =>
          exact hc a .missingPeer none (by decide) (by decide) (by simp [step, hq, hs])
        | some peerID =>
          dsimp only
          split_ifs with hw
          · exact hc a .waitingForTransport (some peerID) (by decide) (by decide)
              (by simp [step, hq, hs, hw])
          · cases hi : s.shouldInstall a peerID c now with
            | false =>
              have hp : s.installedPeerID = some peerID := by
                simp only [shouldInstall, Bool.or_eq_false_iff, bne_eq_false_iff_eq] at hi
                exact hi.1.1.1
              simp [FailClosed, Safe, step, hq, hs, hw, hi, h peerID hp]
            | true =>
              cases he : a.installError <;>
                simp [FailClosed, Safe, step, hq, hs, hw, hi, he, clearLocalInstall]

/-- The readiness is fail-closed throughout exactly if no session in the core gets out of reach. -/
theorem readiness_fail_closed_iff (calls : List CoordinatorCall) :
    Along step FailClosed initial calls ↔ Along step WithinReach initial calls :=
  along_congr Remembers remembers_step failClosed_iff (by simp [Remembers, initial]) calls

/-- A session is installed, and the next installation throws after a change of the peer. -/
def changedPeer : List CoordinatorCall :=
  let config : SessionConfiguration := ⟨true, some 120, 60, 0, 1280⟩
  [.synchronize (some ⟨some false, none, none⟩) (some (some "first", true)) config 0,
    .synchronize (some ⟨some true, some "refused", none⟩) (some (some "second", true)) config 1]

theorem first_session_left_installed :
    (trace step initial changedPeer).map (fun entry => (entry.2.1.state, entry.2.2)) =
        [(.ready, false), (.failed, false)] ∧
      (run step initial changedPeer).core = some "first" := by
  decide

end Coordinator

end QuantumLink.MacOs
