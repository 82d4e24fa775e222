import QuantumLink.Transport.Sessions

/-! # Generations on the event stream

Every step of the machine is a step of one session, or changes no lease. Two sessions never work
with one generation, so every outbound `Ready` has a generation of its own.
-/

namespace QuantumLink.Transport

open PacketSessionEvent Transport.Session
open List

/-! ## Readings of the stream -/

namespace PacketSessionEvent

def generation : PacketSessionEvent → Nat
  | .ready lease => lease.generation
  | .cleared _ _ generation => generation

def mark : PacketSessionEvent → Mark PacketSessionLease
  | .ready lease => .opened lease
  | .cleared peerId direction generation => .closed ⟨peerId, direction, generation⟩

/-- The generation of an outbound `Ready`. -/
def readyGeneration : PacketSessionEvent → Option Nat
  | .ready ⟨_, .outbound, generation⟩ => some generation
  | _ => none

theorem generation_of_readyGeneration {e : PacketSessionEvent} {generation : Nat}
    (h : e.readyGeneration = some generation) : e.generation = generation := by
  rcases e with ⟨_, _ | _, _⟩ | _
  · exact Option.some.inj h
  · cases h
  · cases h

end PacketSessionEvent

variable (stream : List PacketSessionEvent)

def readyGenerations : List Nat :=
  stream.filterMap readyGeneration

/-- The leases a consumer of the stream holds. -/
def consume : Finset PacketSessionLease :=
  Mark.held (stream.map mark)

/-! ## The generations of a session -/

namespace Manager

def generation : Manager → Option Nat
  | .claimed _ generation => some generation
  | .published _ generation => some generation
  | .announced generation => some generation
  | .driving _ generation => some generation
  | .leaving _ generation _ => some generation
  | .clearing _ lease _ => some lease.generation
  | .clearingInbound generation _ => some generation
  | _ => none

/-- The generation of a manager that has not announced it. -/
def unannounced : Manager → Option Nat
  | .claimed _ generation => some generation
  | .published _ generation => some generation
  | _ => none

theorem generation_of_unannounced {m : Manager} {generation : Nat}
    (h : m.unannounced = some generation) : m.generation = some generation := by
  cases m <;> simp_all [unannounced, Manager.generation]

end Manager

namespace Teardown

/-- The lease a removal has taken and not cleared in both directions. -/
def lease : Teardown → Option PacketSessionLease
  | .clearing lease => some lease
  | .clearingInbound lease => some lease
  | _ => none

end Teardown

namespace Session

/-- A session works with a generation. -/
def Uses (self : Session) (generation : Nat) : Prop :=
  self.manager.generation = some generation ∨
    self.slot.map PacketSessionLease.generation = some generation ∨
    self.teardown.lease.map PacketSessionLease.generation = some generation

variable {self : Session} {counter : Nat} {outcome : Outcome}

namespace Moved

section

variable (h : self.Moved counter outcome)
include h

theorem counter_le : counter ≤ outcome.counter := by
  cases h <;> simp

theorem peerId_eq : outcome.session.peerId = self.peerId := by
  cases h <;> rfl

theorem uses_of_mem {e : PacketSessionEvent} (he : e ∈ outcome.events) : self.Uses e.generation := by
  cases h <;>
    simp_all [Uses, Manager.generation, Teardown.lease, generation]

/-- A session keeps its generations or takes the next one of the counter. -/
theorem uses_cases {g : Nat} (hu : outcome.session.Uses g) :
    self.Uses g ∨ (g = counter + 1 ∧ outcome.counter = counter + 1) := by
  cases h with
  | claimed c hf => grind [Uses, Manager.generation]
  | _ => grind [Uses, Manager.generation, Teardown.lease]

theorem events_cases : outcome.events = [] ∨ ∃ event, outcome.events = [event] := by
  cases h <;> simp

/-- A generation that waits to be announced waited before, or is the next one of the counter. -/
theorem unannounced_cases {g : Nat} (hw : outcome.session.manager.unannounced = some g) :
    (g = counter + 1 ∧ outcome.events = []) ∨
      (self.manager.unannounced = some g ∧ outcome.events.filterMap readyGeneration = []) := by
  cases h <;> grind [Manager.unannounced, readyGeneration]

theorem unannounced_of_ready {generation : Nat}
    (hr : outcome.events.filterMap readyGeneration = [generation]) :
    self.manager.unannounced = some generation := by
  cases h <;> grind [Manager.unannounced, readyGeneration]

/-- A step sends no outbound `Ready`, or one that announces the generation that waited. -/
theorem readyGenerations_cases : readyGenerations outcome.events = [] ∨
      ∃ generation, readyGenerations outcome.events = [generation] ∧
        self.manager.unannounced = some generation := by
  rcases h.events_cases with hn | ⟨e, ho⟩
  · exact .inl (by rw [hn]; rfl)
  · cases hr : e.readyGeneration with
    | none => exact .inl (by simp [readyGenerations, ho, hr])
    | some generation =>
      have hl : readyGenerations outcome.events = [generation] := by
        simp [readyGenerations, ho, hr]
      exact .inr ⟨generation, hl, h.unannounced_of_ready hl⟩
end

end Moved

end Session

/-! ## What the machine does in one step -/

namespace Session

/-- The removal is about to send a `Cleared` whose `Ready` the manager has still to send. -/
def overtakes (self : Session) : Bool :=
  match self.teardown, self.manager with
  | .clearing lease, .published _ generation => lease.generation = generation
  | .clearingInbound lease, .announced generation => lease.generation = generation
  | _, _ => false

/-- An aborted manager waits in its loop while its lease lies in the slot. -/
def forgets (self : Session) : Bool :=
  match self.aborted, self.manager with
  | true, .driving _ _ => self.slot.isSome
  | _, _ => false

/-- What an orderly step of a session does not do. -/
structure Gentle (session : Session) (outcome : Outcome) : Prop where
  overtakes : outcome.session.teardown ≠ session.teardown → session.overtakes = false
  forgets : ∀ carries generation, session.manager = .driving carries generation →
    outcome.session.manager = .stopped → session.slot = none

end Session

/-- A removal does not send a `Cleared` before the manager has sent the `Ready`, and no manager is
stopped in its loop while its lease lies in the slot. -/
def Orderly (world : World) : Input → Prop
  | .teardown index => ∀ session ∈ world.sessions[index]?, session.overtakes = false
  | .cancel index => ∀ session ∈ world.sessions[index]?, session.forgets = false
  | _ => True

instance (world : World) (input : Input) : Decidable (Orderly world input) := by
  unfold Orderly
  split <;> infer_instance

/-- Everything a step of the machine can do. -/
inductive Stepped (world : World) (orderly : Prop) : World → Prop
  | same : Stepped world orderly world
  | added (peerId : String) :
      Stepped world orderly { world with sessions := world.sessions ++ [.new peerId] }
  | removed (f : Session → Session)
      (hf : ∀ session, f session = session ∨ f session = session.remove) :
      Stepped world orderly { world with sessions := world.sessions.map f }
  | acted (index : Nat) (session : Session) (outcome : Outcome)
      (hsession : world.sessions[index]? = some session)
      (hmoved : session.Moved world.counter outcome) (hgentle : orderly → session.Gentle outcome) :
      Stepped world orderly
        ⟨world.sessions.set index outcome.session, outcome.counter, world.stream ++ outcome.events⟩

namespace Session

variable (self : Session) (counter : Nat)

theorem teardown_advance (c : Choice) :
    (self.advance counter c).session.teardown = self.teardown := by
  unfold advance
  grind

theorem manager_tearDown : (self.tearDown counter).session.manager = self.manager := by
  unfold tearDown
  grind

theorem gentle_advance (ch : Choice) : self.Gentle (self.advance counter ch) := by
  constructor
  · intro ht
    exact absurd (self.teardown_advance counter ch) ht
  · intro c g hf ho
    unfold advance at ho
    grind

theorem gentle_tearDown (h : self.overtakes = false) : self.Gentle (self.tearDown counter) := by
  refine ⟨fun _ => h, ?_⟩
  intro c g hf ho
  rw [manager_tearDown, hf] at ho
  cases ho

theorem gentle_cancel (h : self.forgets = false) : self.Gentle (self.cancel counter) := by
  constructor
  · intro ht
    refine absurd ?_ ht
    unfold cancel
    grind
  · intro c g hf ho
    cases ha : self.aborted with
    | false => simp [cancel, ha, hf] at ho
    | true => simpa [forgets, ha, hf] using h

end Session

theorem act_stepped {world : World} {o : Prop} {f : Session → Nat → Outcome}
    (hmo : ∀ session : Session, session.Moved world.counter (f session world.counter))
    (hg : ∀ session, world.sessions[index]? = some session → o →
      session.Gentle (f session world.counter)) :
    Stepped world o (world.act index f) := by
  unfold World.act
  split
  · exact .same
  · rename_i session hses
    exact .acted index session _ hses (hmo session) (hg session hses)

theorem step_stepped (world : World) (inp : Input) :
    Stepped world (Orderly world inp) (step world inp).2 := by
  cases inp with
  | addPeer p =>
    show Stepped world _ (world.addPeer p)
    unfold World.addPeer
    split
    · exact .same
    · exact .added p
  | removePeer p =>
    refine .removed _ fun s => ?_
    split
    · exact .inr rfl
    · exact .inl rfl
  | shutdown => exact .removed _ fun s => .inr rfl
  | manager i c =>
    show Stepped world _ (world.act i fun s co => s.advance co c)
    exact act_stepped (fun s => s.advance_moved world.counter c)
      fun s _ _ => s.gentle_advance world.counter c
  | teardown i =>
    exact act_stepped (fun s => s.tearDown_moved world.counter)
      fun s hs ho =>
        s.gentle_tearDown world.counter (ho s hs)
  | cancel i =>
    exact act_stepped (fun s => s.cancel_moved world.counter)
      fun s hs ho =>
        s.gentle_cancel world.counter (ho s hs)

/-- No generation is used twice, and no outbound `Ready` repeats one. -/
structure Numbered (world : World) : Prop where
  used : ∀ session ∈ world.sessions, ∀ generation, session.Uses generation →
    0 < generation ∧ generation ≤ world.counter
  apart : ∀ (i j : Nat) (session other : Session) generation, world.sessions[i]? = some session →
    world.sessions[j]? = some other → session.Uses generation → other.Uses generation → i = j
  sent : ∀ event ∈ world.stream, 0 < event.generation ∧ event.generation ≤ world.counter
  silent : ∀ session ∈ world.sessions, ∀ generation,
    session.manager.unannounced = some generation → generation ∉ readyGenerations world.stream
  distinct : (readyGenerations world.stream).Nodup

namespace Session

theorem uses_of_unannounced {self : Session} {generation : Nat}
    (h : self.manager.unannounced = some generation) : self.Uses generation :=
  .inl (Manager.generation_of_unannounced h)

theorem not_uses_new (p : String) (generation : Nat) : ¬ (new p).Uses generation := by
  simp [Uses, new, Manager.generation, Teardown.lease]

theorem uses_remove {self : Session} {generation : Nat} (h : self.remove.Uses generation) :
    self.Uses generation := by
  grind [Uses, remove, Teardown.lease]

@[simp] theorem manager_remove (self : Session) : self.remove.manager = self.manager := by
  unfold remove
  split <;> rfl

end Session

namespace Numbered

variable {world : World}

theorem new : Numbered World.new where
  used := by simp [World.new]
  apart := by simp [World.new]
  sent := by simp [World.new]
  silent := by simp [World.new]
  distinct := by simp [World.new, readyGenerations]

theorem added (h : Numbered world) (p : String) :
    Numbered { world with sessions := world.sessions ++ [.new p] } where
  used := by
    intro s hm g hu
    rcases mem_append.mp hm with ho | hn
    · exact h.used s ho g hu
    · obtain rfl := mem_singleton.mp hn
      exact absurd hu (not_uses_new p g)
  apart := by
    intro i j s o g hi hj hu ht
    rcases getElem?_concat_eq_some_iff.mp hi with hi | ⟨-, rfl⟩
    · rcases getElem?_concat_eq_some_iff.mp hj with hj | ⟨-, rfl⟩
      · exact h.apart i j s o g hi hj hu ht
      · exact absurd ht (not_uses_new p g)
    · exact absurd hu (not_uses_new p g)
  sent := h.sent
  silent := by
    intro s hm g hw
    rcases mem_append.mp hm with ho | hn
    · exact h.silent s ho g hw
    · obtain rfl := mem_singleton.mp hn
      exact absurd (uses_of_unannounced hw) (not_uses_new p g)
  distinct := h.distinct

theorem removed (h : Numbered world) {f : Session → Session}
    (hf : ∀ session, f session = session ∨ f session = session.remove) :
    Numbered { world with sessions := world.sessions.map f } := by
  have hu : ∀ session generation, (f session).Uses generation → session.Uses generation := by
    intro session generation hu
    rcases hf session with heq | heq
    · rwa [heq] at hu
    · exact uses_remove (heq ▸ hu)
  have hm : ∀ session, (f session).manager = session.manager := by
    intro session
    rcases hf session with heq | heq <;> simp [heq]
  refine ⟨?_, ?_, h.sent, ?_, h.distinct⟩
  · intro session he generation hs
    obtain ⟨old, ho, rfl⟩ := mem_map.mp he
    exact h.used old ho generation (hu old generation hs)
  · intro i j session o generation hi hj hs ht
    rw [getElem?_map, Option.map_eq_some_iff] at hi hj
    obtain ⟨old, hi, rfl⟩ := hi
    obtain ⟨old', hj, rfl⟩ := hj
    exact h.apart i j old old' generation hi hj (hu _ _ hs) (hu _ _ ht)
  · intro session he generation hw
    obtain ⟨old, ho, rfl⟩ := mem_map.mp he
    exact h.silent old ho generation (hm old ▸ hw)

section Acted

variable {index : Nat} {session : Session} {outcome : Outcome}
  (hses : world.sessions[index]? = some session) (hmo : session.Moved world.counter outcome)

include hses hmo

theorem uses_acted {j : Nat} {o : Session} {g : Nat}
    (hj : (world.sessions.set index outcome.session)[j]? = some o)
    (hu : o.Uses g) :
    (∃ old, world.sessions[j]? = some old ∧ old.Uses g) ∨
      (j = index ∧ g = world.counter + 1 ∧ outcome.counter = world.counter + 1) := by
  rcases getElem?_set_eq_some hj with ⟨rfl, rfl⟩ | ⟨-, ho⟩
  · rcases hmo.uses_cases hu with hs | hn
    · exact .inl ⟨session, hses, hs⟩
    · exact .inr ⟨rfl, hn⟩
  · exact .inl ⟨o, ho, hu⟩

variable (h : Numbered world)

include h

theorem not_uses_of_mem (hj : world.sessions[j]? = some other)
    (hne : j ≠ index) (he : event ∈ outcome.events) :
    ¬ other.Uses event.generation := fun hu =>
  hne (h.apart j index other session _ hj hses hu (hmo.uses_of_mem he))

theorem silent_acted {j : Nat} {o : Session} {g : Nat}
    (hj : (world.sessions.set index outcome.session)[j]? = some o)
    (hw : o.manager.unannounced = some g) :
    g ∉ readyGenerations (world.stream ++ outcome.events) := by
  have ho : ∀ g ∈ readyGenerations world.stream, g ≤ world.counter := by
    intro g hm
    obtain ⟨e, he, hr⟩ := mem_filterMap.mp hm
    have := (h.sent e he).2
    rwa [generation_of_readyGeneration hr] at this
  rw [readyGenerations, filterMap_append, mem_append, not_or]
  rcases getElem?_set_eq_some hj with ⟨rfl, rfl⟩ | ⟨hne, hj⟩
  · rcases hmo.unannounced_cases hw with ⟨rfl, hn⟩ | ⟨ha, hn⟩
    · refine ⟨fun hm => ?_, by simp [hn]⟩
      have := ho _ hm
      omega
    · refine ⟨h.silent session (mem_of_getElem? hses) g ha, ?_⟩
      simp [hn]
  · refine ⟨h.silent o (mem_of_getElem? hj) g hw, fun hm => ?_⟩
    obtain ⟨e, he, hr⟩ := mem_filterMap.mp hm
    obtain rfl := generation_of_readyGeneration hr
    exact not_uses_of_mem hses hmo h hj hne he (uses_of_unannounced hw)

theorem distinct_acted : (readyGenerations (world.stream ++ outcome.events)).Nodup := by
  have hs : readyGenerations (world.stream ++ outcome.events) =
      readyGenerations world.stream ++ readyGenerations outcome.events := filterMap_append
  rw [hs]
  rcases hmo.readyGenerations_cases with hn | ⟨g, ho, hw⟩
  · rw [hn, append_nil]
    exact h.distinct
  · rw [ho]
    have hf := h.silent session (mem_of_getElem? hses) g hw
    exact Nodup.append h.distinct (nodup_singleton _) (by simpa using hf)

theorem acted : Numbered ⟨world.sessions.set index outcome.session, outcome.counter,
      world.stream ++ outcome.events⟩ := by
  have hc := hmo.counter_le
  refine ⟨?_, ?_, ?_, ?_, distinct_acted hses hmo h⟩
  · intro o hm g hus
    obtain ⟨j, hj⟩ := mem_iff_getElem?.mp hm
    rcases uses_acted hses hmo hj hus with ⟨old, ho, hu⟩ | ⟨-, rfl, hn⟩
    · obtain ⟨hp, hle⟩ := h.used old (mem_of_getElem? ho) g hu
      exact ⟨hp, le_trans hle hc⟩
    · exact ⟨Nat.succ_pos _, hn.ge⟩
  · intro i j f s g hi hj hf hs
    rcases uses_acted hses hmo hi hf with ⟨old, ho, hu⟩ | ⟨rfl, rfl, -⟩
    · rcases uses_acted hses hmo hj hs with ⟨old', ho', hu'⟩ | ⟨-, rfl, -⟩
      · exact h.apart i j old old' g ho ho' hu hu'
      · have := (h.used old (mem_of_getElem? ho) _ hu).2
        omega
    · rcases uses_acted hses hmo hj hs with ⟨old', ho', hu'⟩ | ⟨rfl, -, -⟩
      · have := (h.used old' (mem_of_getElem? ho') _ hu').2
        omega
      · rfl
  · intro e hm
    rcases mem_append.mp hm with ho | hne
    · exact ⟨(h.sent e ho).1, le_trans (h.sent e ho).2 hc⟩
    · obtain ⟨hp, hle⟩ := h.used session (mem_of_getElem? hses) _
        (hmo.uses_of_mem hne)
      exact ⟨hp, le_trans hle hc⟩
  · intro o hm g hw
    obtain ⟨j, hj⟩ := mem_iff_getElem?.mp hm
    exact silent_acted hses hmo h hj hw

end Acted

theorem step (h : Numbered world) (inp : Input) : Numbered (Transport.step world inp).2 := by
  have hs := step_stepped world inp
  generalize (Transport.step world inp).2 = next at hs ⊢
  cases hs with
  | same => exact h
  | added p => exact h.added p
  | removed f hf => exact h.removed hf
  | acted i s o he hm _ => exact acted he hm h

theorem run (inp : List Input) : Numbered (run Transport.step World.new inp) :=
  run_invariant Numbered (fun _ i h => h.step i) new inp

end Numbered

end QuantumLink.Transport
