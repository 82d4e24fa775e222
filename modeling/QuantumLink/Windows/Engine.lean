import QuantumLink.Foundation.Run

/-! # The Windows tunnel engine

`connect` and `disconnect` of `TunnelEngine`, called by any number of clients at once. The engine
has a lock for its stored session, but a call holds it only while it looks at the session or
replaces it: a `connect` looks for a session first and stores its own at the end, and a `disconnect`
takes the session first and then removes what belongs to it. In between other calls make steps of
their own. What was created on the platform is kept under the number of the `connect` that did it.
-/

namespace QuantumLink.Windows

inductive KillSwitchPolicy where
  | failClosed
  | strict
deriving DecidableEq

inductive PlatformCall where
  | engageKillSwitch
  | createAdapter
  | applyNetworkConfig
  | teardown
  | disengageKillSwitch

/-- A stored session: the `connect` that stored it, and whether that one engaged the kill switch. -/
structure ActiveSession where
  id : Nat
  engaged : Bool
deriving DecidableEq

/-- Where a call is, by the step it made last. The first six are of a `connect`, the next two of
its `StartupRollback`, the last two of a `disconnect`. -/
inductive EngineCall where
  /-- No session was stored. -/
  | checked (id : Nat) (policy : KillSwitchPolicy)
  /-- The configuration is valid, the keys and the packet core are there. -/
  | prepared (id : Nat) (policy : KillSwitchPolicy)
  | switched (id : Nat) (engaged : Bool)
  | created (id : Nat) (engaged : Bool)
  | configured (id : Nat) (engaged : Bool)
  /-- The transport is there, under the strict policy in time. -/
  | ready (id : Nat) (engaged : Bool)
  /-- The adapter is next to be torn down. -/
  | rollingBack (id : Nat) (engaged : Bool)
  /-- The kill switch is next to be disengaged. -/
  | releasing (id : Nat)
  /-- The session was taken, its threads were stopped and joined. -/
  | taken (session : ActiveSession)
  | tornDown (session : ActiveSession)

structure TunnelEngine (π : Type) where
  session : Option ActiveSession
  calls : π → Option EngineCall
  nextId : Nat
  /-- Adapters that were created and not yet handed to `teardown`. -/
  adapters : List Nat
  /-- The pump threads that run. -/
  pumps : List Nat
  /-- Engagements of the kill switch with no disengagement since. -/
  engagements : List Nat

/-- A client calls, or its call makes the next step, which may fail. -/
inductive EngineEvent (π : Type) where
  | connect (client : π) (policy : KillSwitchPolicy)
  | disconnect (client : π)
  | proceed (client : π) (succeeds : Bool)

namespace TunnelEngine

variable {π : Type}

def initial : TunnelEngine π := ⟨none, fun _ => none, 0, [], [], []⟩

/-- The drop of a `StartupRollback` that was not committed and has no adapter. -/
def release (id : Nat) (engaged : Bool) : Option EngineCall :=
  if engaged then some (.releasing id) else none

/-- The next step of a call: what it asks of the platform, where the call is then, and the engine
without that. -/
def advance (engine : TunnelEngine π) (succeeds : Bool) :
    EngineCall → Option PlatformCall × Option EngineCall × TunnelEngine π
  | .checked id policy => (none, if succeeds then some (.prepared id policy) else none, engine)
  | .prepared id policy =>
    (some .engageKillSwitch,
      if succeeds then
        (some (.switched id true), { engine with engagements := id :: engine.engagements })
      else
        match policy with
        | .strict => (none, engine)
        | .failClosed => (some (.switched id false), engine))
  | .switched id engaged =>
    (some .createAdapter,
      if succeeds then
        (some (.created id engaged), { engine with adapters := id :: engine.adapters })
      else (release id engaged, engine))
  | .created id engaged =>
    (some .applyNetworkConfig,
      some (if succeeds then .configured id engaged else .rollingBack id engaged), engine)
  | .configured id engaged =>
    (none, some (if succeeds then .ready id engaged else .rollingBack id engaged), engine)
  | .ready id engaged =>
    (none, none, { engine with session := some ⟨id, engaged⟩, pumps := id :: engine.pumps })
  | .rollingBack id engaged =>
    (some .teardown, release id engaged, { engine with adapters := engine.adapters.erase id })
  | .releasing _ => (some .disengageKillSwitch, none, { engine with engagements := [] })
  | .taken session =>
    (some .teardown, some (.tornDown session),
      { engine with adapters := engine.adapters.erase session.id })
  | .tornDown _ => (some .disengageKillSwitch, none, { engine with engagements := [] })

variable [DecidableEq π]

def setCall (engine : TunnelEngine π) (client : π) (call : Option EngineCall) : TunnelEngine π :=
  { engine with calls := Function.update engine.calls client call }

def step (engine : TunnelEngine π) : EngineEvent π → Option PlatformCall × TunnelEngine π
  | .connect client policy =>
    if (engine.calls client).isSome then (none, engine)
    else
      match engine.session with
      -- `AlreadyConnected`
      | some _ => (none, engine)
      | none => (none,
          { engine.setCall client (some (.checked engine.nextId policy)) with
            nextId := engine.nextId + 1 })
  | .disconnect client =>
    if (engine.calls client).isSome then (none, engine)
    else
      match engine.session with
      | none => (none, engine)
      | some session => (none,
          { engine.setCall client (some (.taken session)) with
            session := none
            pumps := engine.pumps.erase session.id })
  | .proceed client succeeds =>
    match engine.calls client with
    | none => (none, engine)
    | some call =>
      let (asked, call', engine') := engine.advance succeeds call
      (asked, engine'.setCall client call')

end TunnelEngine

/-! ## One call after the other -/

namespace EngineCall

def isConnect : EngineCall → Bool
  | .taken _ | .tornDown _ => false
  | _ => true

/-- The adapter the call has still to store or to tear down. -/
def adapter : EngineCall → Option Nat
  | .created id _ | .configured id _ | .ready id _ | .rollingBack id _ => some id
  | .taken session => some session.id
  | _ => none

/-- The engagement the call may yet store with its session. -/
def engagement : EngineCall → Option Nat
  | .switched id true | .created id true | .configured id true | .ready id true => some id
  | _ => none

end EngineCall

namespace TunnelEngine

variable {π : Type}

/-- What is on the platform belongs to the stored session. -/
def Settled (engine : TunnelEngine π) : Prop :=
  match engine.session with
  | none => engine.adapters = [] ∧ engine.pumps = []
  | some session => engine.adapters = [session.id] ∧ engine.pumps = [session.id] ∧
      (session.engaged = true → session.id ∈ engine.engagements)

/-- No session is stored, and what is on the platform belongs to the call. -/
structure Working (engine : TunnelEngine π) (call : EngineCall) : Prop where
  session : engine.session = none
  adapters : engine.adapters = call.adapter.toList
  pumps : engine.pumps = []
  engagements : ∀ id ∈ call.engagement, id ∈ engine.engagements

/-- At most one call is in progress, and what is on the platform is its own or the session's. -/
inductive Single (engine : TunnelEngine π) : Prop where
  | quiet (hcalls : ∀ client, engine.calls client = none) (hsettled : engine.Settled)
  | busy (client : π) (call : EngineCall) (hcall : engine.calls client = some call)
      (hothers : ∀ other, other ≠ client → engine.calls other = none)
      (hworking : engine.Working call)

/-- A `connect` that finds no session finds no other call in progress either. -/
def Orderly (engine : TunnelEngine π) : EngineEvent π → Prop
  | .connect _ _ => engine.session = none → ∀ other, engine.calls other = none
  | _ => True

/-- What is left once a call has made its step. -/
def Left (engine : TunnelEngine π) : Option EngineCall → Prop
  | none => engine.Settled
  | some call => engine.Working call

variable {engine : TunnelEngine π}

theorem settled_of_empty (hs : engine.session = none)
    (ha : engine.adapters = []) (hp : engine.pumps = []) : engine.Settled := by
  rw [Settled, hs]
  exact ⟨ha, hp⟩

/-- A rollback without an adapter has the kill switch to disengage or nothing. -/
theorem left_release (engine : TunnelEngine π) (hs : engine.session = none)
    (ha : engine.adapters = []) (hp : engine.pumps = []) (id : Nat) (e : Bool) :
    engine.Left (release id e) := by
  cases e with
  | true => exact ⟨hs, ha, hp, fun _ hd => by contradiction⟩
  | false => exact settled_of_empty hs ha hp

theorem left_advance {call : EngineCall} (h : engine.Working call) (ok : Bool) :
    (engine.advance ok call).2.2.Left (engine.advance ok call).2.1 := by
  obtain ⟨hs, ha, hp, he⟩ := h
  cases call with
  | checked id p =>
    cases ok with
    | true => exact ⟨hs, ha, hp, fun _ hd => by contradiction⟩
    | false => exact settled_of_empty hs ha hp
  | prepared id p =>
    cases ok with
    | true =>
      refine ⟨hs, ha, hp, fun o ho => ?_⟩
      cases ho
      exact List.mem_cons_self
    | false =>
      cases p with
      | strict => exact settled_of_empty hs ha hp
      | failClosed => exact ⟨hs, ha, hp, fun _ hd => by contradiction⟩
  | switched id e =>
    cases ok with
    | true =>
      refine ⟨hs, ?_, hp, ?_⟩
      · show id :: engine.adapters = [id]
        rw [ha]
        rfl
      · cases e with
        | true => exact he
        | false => exact fun _ hd => by contradiction
    | false => exact left_release engine hs ha hp id e
  | created id e | configured id e =>
    cases ok with
    | true =>
      refine ⟨hs, ha, hp, ?_⟩
      cases e with
      | true => exact he
      | false => exact fun _ hd => by contradiction
    | false => exact ⟨hs, ha, hp, fun _ hd => by contradiction⟩
  | ready id e =>
    refine ⟨ha, ?_, fun hn => ?_⟩
    · show id :: engine.pumps = [id]
      rw [hp]
    · obtain rfl : e = true := hn
      exact he id rfl
  | rollingBack id e =>
    have hr : engine.adapters.erase id = [] := by
      rw [ha]
      simp [EngineCall.adapter]
    exact left_release { engine with adapters := engine.adapters.erase id } hs hr hp
      id e
  | releasing id | tornDown s => exact settled_of_empty hs ha hp
  | taken s =>
    refine ⟨hs, ?_, hp, fun _ hd => by contradiction⟩
    show engine.adapters.erase s.id = []
    rw [ha]
    simp [EngineCall.adapter]

theorem calls_advance (engine : TunnelEngine π) (s : Bool) (c : EngineCall) :
    (engine.advance s c).2.2.calls = engine.calls := by
  cases c <;> simp only [advance] <;> split_ifs <;> try rfl
  split <;> rfl

def NoConnect (engine : TunnelEngine π) : Prop :=
  ∀ client call, engine.calls client = some call → call.isConnect = false

/-- One tunnel: at most one adapter is left to tear down, pump threads belong to the stored session
unless a `connect` is in progress, and a stored session keeps the kill switch it engaged. -/
structure OneTunnel (engine : TunnelEngine π) : Prop where
  adapters : engine.adapters.length ≤ 1
  pumps : engine.NoConnect → ∀ id ∈ engine.pumps, ∃ session ∈ engine.session, session.id = id
  engaged : ∀ session ∈ engine.session, session.engaged = true → session.id ∈ engine.engagements

theorem Single.oneTunnel (h : engine.Single) : engine.OneTunnel := by
  cases h with
  | quiet hc hs =>
    cases he : engine.session with
    | none =>
      rw [Settled, he] at hs
      refine ⟨?_, fun _ id hd => ?_, fun _ hso => ?_⟩
      · rw [hs.1]
        simp
      · rw [hs.2] at hd
        contradiction
      · rw [he] at hso
        contradiction
    | some s =>
      rw [Settled, he] at hs
      refine ⟨?_, fun _ id hd => ⟨s, he, ?_⟩, fun o ht => ?_⟩
      · rw [hs.1]
        simp
      · rw [hs.2.1, List.mem_singleton] at hd
        exact hd.symm
      · rw [he] at ht
        cases ht
        exact hs.2.2
  | busy cl c ha ho hw =>
    refine ⟨?_, fun _ id hd => ?_, fun _ hso => ?_⟩
    · rw [hw.adapters]
      cases c.adapter <;> simp
    · rw [hw.pumps] at hd
      contradiction
    · rw [hw.session] at hso
      contradiction

variable [DecidableEq π]

theorem calls_setCall_self (engine : TunnelEngine π) (c : π) (call : Option EngineCall) :
    (engine.setCall c call).calls c = call :=
  Function.update_self ..

theorem calls_setCall_of_ne (h : other ≠ client) (c : Option EngineCall) :
    (engine.setCall client c).calls other = engine.calls other :=
  Function.update_of_ne h ..

theorem Left.single {engine' : TunnelEngine π}
    (h : engine.Left call) (hse : engine'.session = engine.session)
    (ha : engine'.adapters = engine.adapters) (hp : engine'.pumps = engine.pumps)
    (he : engine'.engagements = engine.engagements) (hc : engine'.calls client = call)
    (ho : ∀ other, other ≠ client → engine'.calls other = none) : engine'.Single := by
  cases call with
  | none =>
    refine .quiet (fun other => ?_) ?_
    · by_cases ht : other = client
      · rw [ht]
        exact hc
      · exact ho other ht
    · have hs : engine.Settled := h
      rw [Settled, hse, ha, hp, he]
      exact hs
  | some call =>
    have hw : engine.Working call := h
    exact .busy client call hc ho
      ⟨hse.trans hw.session, ha.trans hw.adapters, hp.trans hw.pumps, he ▸ hw.engagements⟩

theorem single_proceed (h : engine.Single) (cl : π)
    (s : Bool) : (engine.step (.proceed cl s)).2.Single := by
  cases hc : engine.calls cl with
  | none =>
    simp only [step, hc]
    exact h
  | some c =>
    cases h with
    | quiet hca he =>
      rw [hca cl] at hc
      contradiction
    | busy active o ha ho hw =>
      have hs : cl = active := by
        by_contra hne
        rw [ho cl hne] at hc
        contradiction
      subst hs
      rw [hc] at ha
      cases ha
      simp only [step, hc]
      refine (left_advance hw s).single rfl rfl rfl rfl (calls_setCall_self _ cl _) ?_
      intro o ht
      rw [calls_setCall_of_ne ht, calls_advance]
      exact ho o ht

theorem single_connect (h : engine.Single) (cl : π)
    (p : KillSwitchPolicy) (ho : engine.Orderly (.connect cl p)) :
    (engine.step (.connect cl p)).2.Single := by
  cases he : engine.session with
  | some s =>
    have hsa : (engine.step (.connect cl p)).2 = engine := by
      simp only [step, he]
      split_ifs <;> rfl
    rw [hsa]
    exact h
  | none =>
    have hc := ho he
    have hf : (engine.step (.connect cl p)).2 =
        { engine.setCall cl (some (.checked engine.nextId p)) with
          nextId := engine.nextId + 1 } := by
      simp [step, he, hc cl]
    have hs : engine.adapters = [] ∧ engine.pumps = [] := by
      cases h with
      | quiet _ hs =>
        rw [Settled, he] at hs
        exact hs
      | busy a c ha _ _ =>
        rw [hc a] at ha
        contradiction
    rw [hf]
    refine .busy cl (.checked engine.nextId p) (calls_setCall_self engine cl _) ?_
      ⟨he, hs.1, hs.2, fun _ hd => by contradiction⟩
    intro o ht
    exact (calls_setCall_of_ne ht _).trans (hc o)

theorem single_disconnect (h : engine.Single) (c : π) : (engine.step (.disconnect c)).2.Single := by
  cases he : engine.session with
  | none =>
    have hsa : (engine.step (.disconnect c)).2 = engine := by
      simp only [step, he]
      split_ifs <;> rfl
    rw [hsa]
    exact h
  | some session =>
    cases h with
    | busy _ _ _ _ hw =>
      rw [hw.session] at he
      contradiction
    | quiet hc hs =>
      have ha : (engine.step (.disconnect c)).2 =
          { engine.setCall c (some (.taken session)) with
            session := none, pumps := engine.pumps.erase session.id } := by
        simp [step, he, hc c]
      rw [Settled, he] at hs
      rw [ha]
      refine .busy c (.taken session) (calls_setCall_self engine c _) ?_
        ⟨rfl, hs.1, ?_, fun _ hd => by contradiction⟩
      · intro o ho
        exact (calls_setCall_of_ne ho _).trans (hc o)
      · show engine.pumps.erase session.id = []
        rw [hs.2.1]
        simp

theorem single_step (h : engine.Single)
    (ho : engine.Orderly event) : (engine.step event).2.Single := by
  cases event with
  | connect c p => exact single_connect h c p ho
  | disconnect c => exact single_disconnect h c
  | proceed c s => exact single_proceed h c s

/-- Calls that do not start while another is in progress keep to one tunnel. -/
theorem one_tunnel_at_a_time (events : List (EngineEvent π))
    (horderly : Along step Orderly (initial : TunnelEngine π) events) :
    (run step (initial : TunnelEngine π) events).OneTunnel := by
  have hi : (initial : TunnelEngine π).Single :=
    .quiet (fun _ => rfl) (settled_of_empty rfl rfl rfl)
  exact (run_invariant_along Single (fun _ _ => single_step) hi horderly).oneTunnel

/-- A tunnel, a refused second `connect`, and a `disconnect`. -/
def orderlyEvents : List (EngineEvent Nat) :=
  [.connect 0 .strict, .proceed 0 true, .proceed 0 true, .proceed 0 true, .proceed 0 true,
    .proceed 0 true, .proceed 0 true, .connect 1 .strict, .disconnect 1]

theorem orderlyEvents_one_tunnel : Along step Orderly (initial : TunnelEngine Nat) orderlyEvents ∧
      (run step (initial : TunnelEngine Nat) orderlyEvents).OneTunnel := by
  have ho : Along step Orderly (initial : TunnelEngine Nat) orderlyEvents := by
    refine ⟨fun _ _ => rfl, trivial, trivial, trivial, trivial, trivial, trivial, fun hn => ?_,
      trivial, trivial⟩
    contradiction
  exact ⟨ho, one_tunnel_at_a_time orderlyEvents ho⟩

/-- Two clients look for a session before either of them stores one. -/
def racingEvents : List (EngineEvent Nat) :=
  [.connect 0 .strict, .connect 1 .strict] ++
    List.replicate 6 (.proceed 0 true) ++ List.replicate 6 (.proceed 1 true)

/-- Both are connected: there are two adapters, and the pump threads of the first tunnel run on
although its session is gone. -/
theorem two_tunnels : (run step (initial : TunnelEngine Nat) racingEvents).adapters = [1, 0] ∧
      (run step (initial : TunnelEngine Nat) racingEvents).pumps = [1, 0] ∧
      (run step (initial : TunnelEngine Nat) racingEvents).session = some ⟨1, true⟩ ∧
      (run step (initial : TunnelEngine Nat) racingEvents).calls 0 = none ∧
      (run step (initial : TunnelEngine Nat) racingEvents).calls 1 = none := by
  decide

end TunnelEngine

end QuantumLink.Windows
