import QuantumLink.Windows.Engine

/-! # Starting under the strict policy

A `connect` owns the transport it builds until it stores its session, and `add_peer` reaches only
the transport of the stored session. The transport begins with a placeholder for its default peer,
and the mesh core publishes a packet session for a default peer that is not the placeholder.
-/

namespace QuantumLink.Windows

/-- What a start reads of the configuration. -/
structure StartConfiguration where
  killSwitch : KillSwitchPolicy
  rendezvousServers : List String

def unconfiguredPeerId : String := "qlink_unconfigured"

inductive ActiveTransport where
  /-- The default peer, and whether its packet session is published. -/
  | mesh (defaultPeer : String) (published : Bool)
  | localEcho

namespace ActiveTransport

def isReady : ActiveTransport → Bool
  | .mesh _ published => published
  | .localEcho => true

/-- What a start without a rendezvous server or with one builds. -/
def build (config : StartConfiguration) : ActiveTransport :=
  match config.rendezvousServers with
  | [] => .localEcho
  | _ :: _ => .mesh unconfiguredPeerId false

/-- The mesh core publishes a packet session for the default peer. -/
def publish : ActiveTransport → ActiveTransport
  | .mesh peer published => .mesh peer (published || peer != unconfiguredPeerId)
  | .localEcho => .localEcho

/-- `add_peer`: the placeholder is replaced, another peer is not. -/
def addPeer (peer : String) : ActiveTransport → ActiveTransport
  | .mesh current published =>
    if current = peer ∨ current ≠ unconfiguredPeerId then .mesh current published
    else .mesh peer false
  | .localEcho => .localEcho

end ActiveTransport

/-- Where a `connect` is: it found no session, or it has its transport. -/
inductive StartCall where
  | checked (config : StartConfiguration)
  | waiting (config : StartConfiguration) (transport : ActiveTransport)

structure StartState (π : Type) where
  session : Option (StartConfiguration × ActiveTransport)
  calls : π → Option StartCall

/-- A thread calls or its call goes on; the mesh core works on a transport. -/
inductive StartEvent (π : Type) where
  | connect (client : π) (config : StartConfiguration)
  /-- Everything before the transport is ready succeeds, or the call fails. -/
  | prepare (client : π) (succeeds : Bool)
  /-- The call looks at its transport, maybe for the last time. -/
  | poll (client : π) (expired : Bool)
  | addPeer (peer : String)
  | disconnect
  /-- For a call's transport or for the one of the stored session. -/
  | publish (client : Option π)

namespace StartState

variable {π : Type}

def initial : StartState π := ⟨none, fun _ => none⟩

variable [DecidableEq π]

variable (self : StartState π)

def setCall (client : π) (call : Option StartCall) : StartState π :=
  { self with calls := Function.update self.calls client call }

def mapSession (f : ActiveTransport → ActiveTransport) : StartState π :=
  { self with session := self.session.map fun stored => (stored.1, f stored.2) }

def step : StartEvent π → Unit × StartState π
  | .connect client config =>
    ((), if self.session.isNone ∧ self.calls client = none then
      self.setCall client (some (.checked config)) else self)
  | .prepare client succeeds =>
    ((), match self.calls client with
      | some (.checked config) => self.setCall client
          (if succeeds then some (.waiting config (.build config)) else none)
      | _ => self)
  | .poll client expired =>
    ((), match self.calls client with
      | some (.waiting config transport) =>
        if config.killSwitch = .strict ∧ transport.isReady = false then
          if expired then self.setCall client none else self
        else { self.setCall client none with session := some (config, transport) }
      | _ => self)
  | .addPeer peer => ((), self.mapSession (.addPeer peer))
  | .disconnect => ((), { self with session := none })
  | .publish none => ((), self.mapSession .publish)
  | .publish (some client) =>
    ((), match self.calls client with
      | some (.waiting config transport) =>
        self.setCall client (some (.waiting config transport.publish))
      | _ => self)

variable (config : StartConfiguration)

/-- A `connect` with the configuration returned `Ok`, and `peer` is the default mesh peer. -/
def StartedWith (peer : String) : Prop :=
  ∃ published, self.session = some (config, .mesh peer published)

/-- A call still has its transport as it was built, a session without a rendezvous server has no
mesh, and no stored session is strict over a mesh. -/
structure Unstarted (state : StartState π) : Prop where
  calls : ∀ client config transport, state.calls client = some (.waiting config transport) →
    transport = .build config
  echo : ∀ config transport, state.session = some (config, transport) →
    config.rendezvousServers = [] → transport = .localEcho
  session : ∀ config transport, state.session = some (config, transport) →
    config.killSwitch = .strict → config.rendezvousServers = []

omit [DecidableEq π] in
theorem publish_build : (ActiveTransport.build config).publish = .build config := by
  obtain ⟨p, _ | _⟩ := config <;> rfl

theorem Unstarted.setCall {s : StartState π} (h : s.Unstarted) {ca : Option StartCall}
    (hc : ∀ config transport, ca = some (.waiting config transport) → transport = .build config)
    (c : π) : (s.setCall c ca).Unstarted := by
  refine ⟨fun o config transport ho => ?_, h.echo, h.session⟩
  by_cases he : o = c
  · subst he
    exact hc config transport (by simpa [StartState.setCall] using ho)
  · exact h.calls o config transport (by simpa [StartState.setCall, he] using ho)

omit [DecidableEq π] in
theorem Unstarted.mapSession {se : StartState π} (h : se.Unstarted)
    {f : ActiveTransport → ActiveTransport} (hf : f .localEcho = .localEcho) :
    (se.mapSession f).Unstarted := by
  refine ⟨h.calls, fun c t hs hr => ?_, fun c t hs hp => ?_⟩
  · obtain ⟨s, ht, he⟩ := Option.map_eq_some_iff.mp hs
    cases he
    rw [h.echo s.1 s.2 ht hr, hf]
  · obtain ⟨s, ht, he⟩ := Option.map_eq_some_iff.mp hs
    obtain ⟨rfl, -⟩ := Prod.mk.inj he
    exact h.session s.1 s.2 ht hp

theorem unstarted_step (se : StartState π) (ev : StartEvent π) (h : se.Unstarted) :
    (se.step ev).2.Unstarted := by
  cases ev with
  | connect c config =>
    simp only [step]
    split_ifs
    · exact h.setCall (by simp) c
    · exact h
  | prepare c s =>
    simp only [step]
    split
    · cases s with
      | true | false => exact h.setCall (by simp) c
    · exact h
  | poll c e =>
    simp only [step]
    split
    · rename_i config transport hc
      obtain rfl := h.calls c config transport hc
      split_ifs with hw
      · exact h.setCall (by simp) c
      · exact h
      · refine ⟨(h.setCall (by simp) c).calls, ?_, ?_⟩
        · intro st transport hs hr
          cases hs
          rw [ActiveTransport.build, hr]
        · intro st transport hs hp
          obtain ⟨rfl, -⟩ := Prod.mk.inj (Option.some.inj hs)
          -- the transport of a strict start over a mesh is not ready as it was built
          obtain ⟨p, _ | _⟩ := config
          · rfl
          · exact absurd ⟨hp, rfl⟩ hw
    · exact h
  | addPeer pe => exact h.mapSession rfl
  | disconnect => exact ⟨h.calls, by simp [step], by simp [step]⟩
  | publish c =>
    cases c with
    | none => exact h.mapSession rfl
    | some c =>
      simp only [step]
      split
      · rename_i config transport hc
        obtain rfl := h.calls c config transport hc
        refine h.setCall (fun config' transport' he => ?_) c
        simp only [publish_build, Option.some.injEq, StartCall.waiting.injEq] at he
        rw [← he.1, ← he.2]
      · exact h

variable (e : List (StartEvent π))

theorem unstarted_run : (run step (initial : StartState π) e).Unstarted :=
  run_invariant Unstarted unstarted_step
    ⟨by simp [initial], by simp [initial], by simp [initial]⟩ e

theorem not_startedWith_of_strict {c : StartConfiguration} (hp : c.killSwitch = .strict)
    (peer : String) :
    ¬ (run step (initial : StartState π) e).StartedWith c peer := by
  rintro ⟨p, hs⟩
  have hu := unstarted_run e
  have he := hu.echo c _ hs (hu.session c _ hs hp)
  contradiction

/-- Some calls of any threads start a tunnel over a mesh with a given default peer exactly if the
policy is not strict. -/
theorem mesh_start_reachable_iff [Nonempty π] (config : StartConfiguration) (peer : String) :
    (∃ events, (run step (initial : StartState π) events).StartedWith config peer) ↔
      config.killSwitch ≠ .strict ∧ config.rendezvousServers ≠ [] := by
  constructor
  · rintro ⟨events, hs⟩
    refine ⟨fun hp => not_startedWith_of_strict events hp peer hs, fun hr => ?_⟩
    obtain ⟨p, hs⟩ := hs
    have he := (unstarted_run events).echo config _ hs hr
    contradiction
  · rintro ⟨hp, hr⟩
    obtain ⟨client⟩ := ‹Nonempty π›
    obtain ⟨_ | _, _ | ⟨server, servers⟩⟩ := config
    · exact absurd rfl hr
    · refine ⟨[.connect client ⟨.failClosed, server :: servers⟩, .prepare client true,
        .poll client false, .addPeer peer], false, ?_⟩
      simp only [run_cons, run_nil, step, initial, setCall, mapSession, ActiveTransport.build]
      by_cases hpe : unconfiguredPeerId = peer <;> simp [ActiveTransport.addPeer, hpe]
    · exact absurd rfl hp
    · exact absurd rfl hp

/-- A start that is not strict. -/
theorem open_start_reachable :
    ∃ events : List (StartEvent Nat), (run step (initial : StartState Nat) events).StartedWith
      ⟨.failClosed, ["https://rendezvous.example"]⟩ "peer" :=
  (mesh_start_reachable_iff _ _).mpr ⟨by decide, by decide⟩

/-- No calls lead to a strict start with a rendezvous server. -/
theorem strict_start_unreachable :
    ¬ ∃ events : List (StartEvent Nat), (run step (initial : StartState Nat) events).StartedWith
      ⟨.strict, ["https://rendezvous.example"]⟩ "peer" := by
  rintro ⟨events, hs⟩
  exact not_startedWith_of_strict events rfl "peer" hs

end StartState

end QuantumLink.Windows
