import QuantumLink.Windows.Engine

/-! # Start-up and teardown on Windows

One call of `TunnelEngine` after the other: what each of them asks of the platform, in order, with
the answer it gets. `connect` keeps a `StartupRollback` that undoes its part unless it is committed,
and the engine disconnects when it is dropped.
-/

namespace QuantumLink.Windows

open List

/-- A call of the platform for the `connect` with a number, and whether it succeeds. -/
inductive PlatformEvent where
  | engageKillSwitch (id : Nat) (policy : KillSwitchPolicy) (ok : Bool)
  | createAdapter (id : Nat) (ok : Bool)
  | applyNetworkConfig (id : Nat) (ok : Bool)
  | teardown (id : Nat) (ok : Bool)
  | disengageKillSwitch (id : Nat) (ok : Bool)

/-- How the steps of a call turn out. -/
structure Answers where
  /-- The configuration is valid, and the keys and the packet core can be had. -/
  prepares : Bool
  engages : Bool
  creates : Bool
  applies : Bool
  /-- The transport can be had, under the strict policy in time. -/
  transports : Bool
  tearsDown : Bool
  disengages : Bool

structure StartupRollback where
  adapter : Option Nat
  killSwitchEngaged : Bool
  committed : Bool

namespace StartupRollback

def commit (_ : StartupRollback) : StartupRollback := ⟨none, false, true⟩

def drop (self : StartupRollback) (id : Nat) (answers : Answers) : List PlatformEvent :=
  if self.committed then []
  else
    (self.adapter.map fun adapter => .teardown adapter answers.tearsDown).toList ++
      if self.killSwitchEngaged then [.disengageKillSwitch id answers.disengages] else []

end StartupRollback

/-- What `connect_inner` asks of the platform, and whether it stores a session. -/
def connectInner (id : Nat) (policy : KillSwitchPolicy) (answers : Answers) :
    Bool × List PlatformEvent :=
  if !answers.prepares then (false, [])
  else
    let engage := PlatformEvent.engageKillSwitch id policy answers.engages
    if !answers.engages && policy == .strict then (false, [engage])
    else
      let rollback : StartupRollback := ⟨none, answers.engages, false⟩
      let create := PlatformEvent.createAdapter id answers.creates
      if !answers.creates then (false, engage :: create :: rollback.drop id answers)
      else
        let rollback := { rollback with adapter := some id }
        let apply := PlatformEvent.applyNetworkConfig id answers.applies
        if !(answers.applies && answers.transports) then
          (false, engage :: create :: apply :: rollback.drop id answers)
        else (true, engage :: create :: apply :: rollback.commit.drop id answers)

inductive LifecycleCall where
  | connect (policy : KillSwitchPolicy) (answers : Answers)
  /-- Also what the drop of the engine does. -/
  | disconnect (answers : Answers)

inductive LifecycleAnswer where
  | connected
  | alreadyConnected
  | failed
  | disconnected
deriving DecidableEq

structure Lifecycle where
  /-- The `connect` whose session is stored. -/
  session : Option Nat
  nextId : Nat

namespace Lifecycle

def initial : Lifecycle := ⟨none, 0⟩

def step (engine : Lifecycle) :
    LifecycleCall → (LifecycleAnswer × List PlatformEvent) × Lifecycle
  | .connect policy answers =>
    match engine.session with
    | some _ => ((.alreadyConnected, []), engine)
    | none =>
      match connectInner engine.nextId policy answers with
      | (true, events) => ((.connected, events), ⟨some engine.nextId, engine.nextId + 1⟩)
      | (false, events) => ((.failed, events), ⟨none, engine.nextId + 1⟩)
  | .disconnect answers =>
    match engine.session with
    | none => ((.disconnected, []), engine)
    | some id =>
      ((.disconnected, [.teardown id answers.tearsDown, .disengageKillSwitch id answers.disengages]),
        { engine with session := none })

/-- What a run asks of the platform. -/
def log (engine : Lifecycle) (calls : List LifecycleCall) : List PlatformEvent :=
  (trace step engine calls).flatMap fun entry => entry.2.2

end Lifecycle

/-! ## The calls as steps of the engine -/

def PlatformEvent.asked : PlatformEvent → PlatformCall
  | .engageKillSwitch .. => .engageKillSwitch
  | .createAdapter .. => .createAdapter
  | .applyNetworkConfig .. => .applyNetworkConfig
  | .teardown .. => .teardown
  | .disengageKillSwitch .. => .disengageKillSwitch

section
variable {π : Type} [DecidableEq π] (client : π) {lifecycle : Lifecycle} {engine : TunnelEngine π}

/-- The steps of a call that no other call comes between. Steps after its last do nothing. -/
def LifecycleCall.steps : LifecycleCall → List (EngineEvent π)
  | .connect policy answers => .connect client policy ::
      [answers.prepares, answers.engages, answers.creates, answers.applies, answers.transports,
        true, true].map (.proceed client)
  | .disconnect _ => [.disconnect client, .proceed client true, .proceed client true]

/-- No call is in progress, and the session is the same. -/
structure Lifecycle.Idle (lifecycle : Lifecycle) (engine : TunnelEngine π) : Prop where
  calls : engine.calls = fun _ => none
  session : engine.session.map ActiveSession.id = lifecycle.session
  nextId : engine.nextId = lifecycle.nextId

/-- What a run of the engine asks of the platform. -/
def TunnelEngine.asked (engine : TunnelEngine π) (events : List (EngineEvent π)) :
    List PlatformCall := (trace TunnelEngine.step engine events).filterMap Prod.snd

theorem Lifecycle.idle_step (call : LifecycleCall) (h : lifecycle.Idle engine) :
    (lifecycle.step call).2.Idle (run TunnelEngine.step engine (call.steps client)) ∧
      engine.asked (call.steps client) = (lifecycle.step call).1.2.map PlatformEvent.asked := by
  obtain ⟨session, calls, nextId, adapters, pumps, engagements⟩ := engine
  obtain ⟨stored, next⟩ := lifecycle
  obtain ⟨rfl, rfl, rfl⟩ := h
  rcases call with ⟨policy, _ | _, engages, creates, applies, transports, tearsDown, disengages⟩ | _
  all_goals cases session
  -- a `connect` that is prepared and finds no session, as far as it comes
  on_goal 3 => cases policy <;> cases engages <;> cases creates <;> cases applies <;> cases transports
  all_goals
    refine ⟨⟨?_, ?_, ?_⟩, ?_⟩ <;>
      simp [TunnelEngine.asked, trace, LifecycleCall.steps, TunnelEngine.step, Lifecycle.step,
        TunnelEngine.setCall, TunnelEngine.advance, TunnelEngine.release, connectInner,
        StartupRollback.drop, StartupRollback.commit, PlatformEvent.asked]

/-- A run of the lifecycle asks the platform for what the engine is asked for, call by call. -/
theorem Lifecycle.asked_log (calls : List LifecycleCall) (h : lifecycle.Idle engine) :
    (lifecycle.log calls).map PlatformEvent.asked =
      engine.asked (calls.flatMap (LifecycleCall.steps client)) := by
  induction calls generalizing lifecycle engine with
  | nil => rfl
  | cons call calls ih =>
    obtain ⟨hi, ha⟩ := idle_step client call h
    rw [flatMap_cons, TunnelEngine.asked, trace_append, filterMap_append]
    exact (map_append ..).trans (congrArg₂ _ ha.symm (ih hi))

end

/-! ## Tunnels one after the other -/

namespace PlatformEvent

def owner : PlatformEvent → Nat
  | .engageKillSwitch id _ _ | .createAdapter id _ | .applyNetworkConfig id _ | .teardown id _
  | .disengageKillSwitch id _ => id

def isEngage : PlatformEvent → Bool
  | .engageKillSwitch .. => true
  | _ => false

def isCreate : PlatformEvent → Bool
  | .createAdapter .. => true
  | _ => false

end PlatformEvent

open PlatformEvent

/-- What the platform is asked for one `connect` from its first call to its last. -/
inductive Episode (id : Nat) : List PlatformEvent → Prop where
  | refused : Episode id [engageKillSwitch id .strict false]
  | uncreated (policy : KillSwitchPolicy) (engaged : Bool) (released : Option Bool)
      (hpolicy : policy = .strict → engaged = true) (hreleased : engaged = true → released.isSome) :
      Episode id (engageKillSwitch id policy engaged :: createAdapter id false ::
        (released.map (disengageKillSwitch id)).toList)
  | tunnel (policy : KillSwitchPolicy) (engaged applied tornDown : Bool) (released : Option Bool)
      (hpolicy : policy = .strict → engaged = true) (hreleased : engaged = true → released.isSome) :
      Episode id (engageKillSwitch id policy engaged :: createAdapter id true ::
        applyNetworkConfig id applied :: teardown id tornDown ::
          (released.map (disengageKillSwitch id)).toList)

/-- Episodes with rising numbers, none of them below `n`. -/
inductive Episodes : Nat → List PlatformEvent → Prop where
  | nil (n : Nat) : Episodes n []
  | cons {n id : Nat} {episode rest : List PlatformEvent} (h : n ≤ id) (hepisode : Episode id episode)
      (hrest : Episodes (id + 1) rest) : Episodes n (episode ++ rest)

variable {id n m : Nat} {log episode : List PlatformEvent}

theorem Episode.owner_eq (h : Episode id episode) : ∀ event ∈ episode, event.owner = id := by
  cases h with
  | refused => simp [owner]
  | uncreated p e r | tunnel p e a t r => cases r <;> simp [owner]

theorem Episodes.le_owner (h : Episodes n log) : ∀ event ∈ log, n ≤ event.owner := by
  induction h with
  | nil n => simp
  | cons hn he hr ih =>
    intro event hm
    rcases mem_append.mp hm with hm | hm
    · rw [he.owner_eq event hm]
      exact hn
    · have hi := ih event hm
      omega

theorem Episodes.mono (h : Episodes n log) (hm : m ≤ n) : Episodes m log := by
  cases h with
  | nil => exact .nil m
  | cons hn he hr => exact .cons (hm.trans hn) he hr

/-- What is asked for a `connect` is all in one episode. -/
theorem Episodes.exists_between (h : Episodes n log) {e : PlatformEvent} (hm : e ∈ log)
    (ho : e.owner = id) :
    ∃ before episode after, log = before ++ episode ++ after ∧ Episode id episode ∧
      e ∈ episode ∧ ∀ other ∈ before ++ after, other.owner ≠ id := by
  subst ho
  induction h with
  | nil n => simp at hm
  | @cons n id episode r hn he hr ih =>
    rcases mem_append.mp hm with hm | hm
    · obtain rfl := he.owner_eq e hm
      refine ⟨[], episode, r, rfl, he, hm, fun other ho => ?_⟩
      have hl := hr.le_owner other ho
      omega
    · obtain ⟨before, i, after, rfl, hi, hme, ho⟩ := ih hm
      refine ⟨episode ++ before, i, after, by simp, hi, hme, fun other ht => ?_⟩
      rw [append_assoc] at ht
      rcases mem_append.mp ht with ht | ht
      · have hl := hr.le_owner e (by simp [hme])
        rw [he.owner_eq other ht]
        omega
      · exact ho other ht

namespace Lifecycle

theorem log_cons (e : Lifecycle) (c : LifecycleCall) (calls : List LifecycleCall) :
    e.log (c :: calls) = (e.step c).1.2 ++ (e.step c).2.log calls := rfl

/-- A `connect` makes an episode of its own, or its part of one that a `disconnect` ends. -/
theorem connectInner_cases (id : Nat) (po : KillSwitchPolicy) (an : Answers) :
    (∃ events, connectInner id po an = (false, events) ∧ (events = [] ∨ Episode id events)) ∨
      ∃ engaged, (po = .strict → engaged = true) ∧ connectInner id po an =
        (true, [engageKillSwitch id po engaged, createAdapter id true,
          applyNetworkConfig id true]) := by
  obtain ⟨p, e, c, a, t, te, d⟩ := an
  cases p with
  | false => exact .inl ⟨[], rfl, .inl rfl⟩
  | true =>
    by_cases hr : e = false ∧ po = .strict
    · obtain ⟨rfl, rfl⟩ := hr
      exact .inl ⟨_, rfl, .inr .refused⟩
    · have hp : po = .strict → e = true := by
        intro hs
        cases e with
        | true => rfl
        | false => exact absurd ⟨rfl, hs⟩ hr
      have hc : (!e && po == .strict) = false := by
        cases e <;> cases po <;> simp_all
      have hs : e = true → (if e then some d else none).isSome := by
        intro he
        rw [he]
        rfl
      cases c with
      | false =>
        refine .inl ⟨_, by simp only [connectInner, hc]; rfl, .inr ?_⟩
        have he : Episode id _ := .uncreated po e _ hp hs
        cases e <;> exact he
      | true =>
        by_cases ht : (a && t) = true
        · obtain ⟨rfl, rfl⟩ := Bool.and_eq_true_iff.mp ht
          exact .inr ⟨e, hp, by simp only [connectInner, hc]; rfl⟩
        · refine .inl ⟨_, by simp only [connectInner, hc, ht]; rfl, .inr ?_⟩
          have he : Episode id _ := .tunnel po e a te _ hp hs
          cases e <;> exact he

/-- A stored session is torn down and released first, the rest are episodes. -/
theorem episodes_log (answers : Answers) (ca : List LifecycleCall) (e : Lifecycle) :
    (e.session = none → Episodes e.nextId (e.log (ca ++ [.disconnect answers]))) ∧
    ∀ id ∈ e.session, ∃ tornDown released rest, Episodes e.nextId rest ∧
      e.log (ca ++ [.disconnect answers]) =
        teardown id tornDown :: disengageKillSwitch id released :: rest := by
  induction ca generalizing e with
  | nil =>
    rw [nil_append, log_cons]
    refine ⟨fun hn => ?_, fun id hi => ?_⟩
    · simp only [step, hn]
      exact .nil _
    · rw [Option.mem_def] at hi
      simp only [step, hi]
      exact ⟨_, _, [], .nil _, rfl⟩
  | cons c ca ih =>
    rw [cons_append, log_cons]
    cases c with
    | disconnect answers' =>
      refine ⟨fun hn => ?_, fun id hi => ?_⟩
      · simp only [step, hn]
        exact (ih e).1 hn
      · rw [Option.mem_def] at hi
        simp only [step, hi]
        exact ⟨_, _, _, (ih { e with session := none }).1 rfl, rfl⟩
    | connect policy answers' =>
      refine ⟨fun hn => ?_, fun id hi => ?_⟩
      · rcases connectInner_cases e.nextId policy answers' with
          ⟨events, he, hv⟩ | ⟨engaged, hp, he⟩
        · simp only [step, hn, he]
          have hr := (ih ⟨none, e.nextId + 1⟩).1 rfl
          rcases hv with rfl | hv
          · exact hr.mono (Nat.le_succ _)
          · exact .cons le_rfl hv hr
        · simp only [step, hn, he]
          obtain ⟨tornDown, released, rest, hr, hl⟩ :=
            (ih ⟨some e.nextId, e.nextId + 1⟩).2 e.nextId rfl
          rw [hl]
          have hc := Episodes.cons le_rfl (.tunnel policy engaged true tornDown (some released) hp
            fun _ => rfl) hr
          exact hc
      · rw [Option.mem_def] at hi
        simp only [step, hi]
        exact (ih e).2 id hi

end Lifecycle

/-- The order of the platform calls of a run, up to the drop of the engine. -/
structure Ordered (log : List PlatformEvent) : Prop where
  /-- The kill switch is engaged before the adapter is created, under the strict policy with
  success. -/
  engagedFirst : ∀ id ok, createAdapter id ok ∈ log → ∃ before policy engaged after,
    log = before ++ engageKillSwitch id policy engaged :: createAdapter id ok :: after ∧
      (policy = .strict → engaged = true)
  /-- Every adapter is torn down once, and before the next one is created. -/
  tornDown : ∀ id, createAdapter id true ∈ log → ∃ before between ok after,
    log = before ++ createAdapter id true :: between ++ teardown id ok :: after ∧
      (∀ event ∈ between, event.isCreate = false) ∧
      ∀ other, teardown id other ∉ before ++ between ++ after
  /-- The kill switch is disengaged once the adapter is torn down, and before it is engaged again. -/
  released : ∀ id policy, engageKillSwitch id policy true ∈ log → ∃ before between ok after,
    log = before ++ engageKillSwitch id policy true :: between ++
      disengageKillSwitch id ok :: after ∧
      (∀ event ∈ between, event.isEngage = false) ∧
      (createAdapter id true ∈ log → ∃ tornDown, teardown id tornDown ∈ between)

theorem Episodes.ordered (h : Episodes n log) : Ordered log where
  engagedFirst id ok hm := by
    obtain ⟨before, episode, after, rfl, he, hme, -⟩ := h.exists_between hm (rfl : owner _ = id)
    cases he with
    | refused => simp at hme
    | uncreated policy engaged released hp =>
      obtain rfl : ok = false := by cases released <;> simpa using hme
      exact ⟨before, policy, engaged, _, append_assoc .., hp⟩
    | tunnel policy engaged applied tornDown released hp =>
      obtain rfl : ok = true := by cases released <;> simpa using hme
      exact ⟨before, policy, engaged, _, append_assoc .., hp⟩
  tornDown id hm := by
    obtain ⟨before, episode, after, rfl, he, hme, ho⟩ := h.exists_between hm (rfl : owner _ = id)
    have hb : ∀ other, teardown id other ∉ before ++ after := fun other ht => ho _ ht rfl
    cases he with
    | refused => simp at hme
    | uncreated policy engaged released => cases released <;> simp at hme
    | tunnel policy engaged applied tornDown released =>
      refine ⟨before ++ [engageKillSwitch id policy engaged], [applyNetworkConfig id applied],
        tornDown, (released.map (disengageKillSwitch id)).toList ++ after,
        by simp, by simp [isCreate], fun other => ?_⟩
      have ht := hb other
      cases released <;> simpa using ht
  released id policy hm := by
    obtain ⟨before, episode, after, rfl, he, hme, ho⟩ := h.exists_between hm (rfl : owner _ = id)
    cases he with
    | refused => simp at hme
    | uncreated policy' engaged released hp hs =>
      obtain ⟨rfl, rfl⟩ : policy = policy' ∧ true = engaged := by cases released <;> simpa using hme
      obtain ⟨ok, rfl⟩ := Option.isSome_iff_exists.mp (hs rfl)
      refine ⟨before, [createAdapter id false], ok, after, by simp,
        by simp [isEngage], fun hc => ?_⟩
      have hn : createAdapter id true ∉ before ++ after := fun hc => ho _ hc rfl
      simp at hc hn
      tauto
    | tunnel policy' engaged applied tornDown released hp hs =>
      obtain ⟨rfl, rfl⟩ : policy = policy' ∧ true = engaged := by cases released <;> simpa using hme
      obtain ⟨ok, rfl⟩ := Option.isSome_iff_exists.mp (hs rfl)
      exact ⟨before, [createAdapter id true, applyNetworkConfig id applied, teardown id tornDown], ok,
        after, by simp, by simp [isEngage], fun _ => ⟨tornDown, by simp⟩⟩

namespace Lifecycle

/-- Whatever fails and whatever is called, up to the drop of the engine. A `connect` that fails
leaves no session, and one that finds a session leaves it alone. -/
theorem startup_and_teardown_ordered (calls : List LifecycleCall) (last : Answers) :
    Ordered (initial.log (calls ++ [.disconnect last])) ∧ ∀ front policy answers,
        let engine := run step initial front
        ((engine.step (.connect policy answers)).1.1 = .failed →
          (engine.step (.connect policy answers)).2.session = none) ∧
        ((engine.step (.connect policy answers)).1.1 = .alreadyConnected →
          engine.session ≠ none ∧ engine.step (.connect policy answers) =
            ((.alreadyConnected, []), engine)) := by
  refine ⟨((episodes_log last calls initial).1 rfl).ordered, ?_⟩
  intro front policy answers engine
  cases hs : engine.session with
  | some id => simp [step, hs]
  | none =>
    rcases connectInner_cases engine.nextId policy answers with ⟨ev, hc, -⟩ | ⟨e, -, hc⟩
    · simp [step, hs, hc]
    · simp [step, hs, hc]

/-- A second `connect` fails and the session of the first is still stored. -/
theorem second_connect_leaves_session :
    let answers : Answers := ⟨true, true, true, true, true, true, true⟩
    let engine := run step initial [.connect .strict answers]
    (engine.step (.connect .strict answers)).1.1 = .alreadyConnected ∧
      (engine.step (.connect .strict answers)).2.session = some 0 := by
  decide

end Lifecycle

end QuantumLink.Windows
