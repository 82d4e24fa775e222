import QuantumLink.Transport.Events

/-! # Orderly runs

In an orderly run every lease that a consumer holds is still owed a `Cleared` by some session: it
lies in the slot, or a manager or a removal has taken it and is about to clear it. A session whose
manager has stopped and whose removal is done owes nothing.
-/

namespace QuantumLink.Transport

open Transport.Session Manager PacketSessionEvent
open List

/-! ## What a session owes -/

def PacketSessionEvent.direction : PacketSessionEvent → PacketSessionDirection
  | .ready lease => lease.direction
  | .cleared _ direction _ => direction

namespace Manager

/-- The generation of a manager that has put its lease into the slot. -/
def lodged : Manager → Option Nat
  | .published _ generation => some generation
  | .announced generation => some generation
  | .driving _ generation => some generation
  | .leaving _ generation _ => some generation
  | _ => none

/-- The generation of a manager that has sent the outbound `Ready` and not left its loop. -/
def heard : Manager → Option Nat
  | .announced generation => some generation
  | .driving _ generation => some generation
  | _ => none

/-- What the stream may hold about the generation of a manager: nothing before it is announced,
nothing inbound before the second `Ready`, no inbound `Ready` at all if the manager does not carry
that direction. -/
def Allows : Manager → PacketSessionEvent → Prop
  | .claimed _ _, _ => False
  | .published _ _, _ => False
  | .announced _, event => event.direction = .outbound
  | .driving false _, event => ∀ lease, event = .ready lease → lease.direction = .outbound
  | .leaving false _ _, event => ∀ lease, event = .ready lease → lease.direction = .outbound
  | .clearing false _ _, event => ∀ lease, event = .ready lease → lease.direction = .outbound
  | _, _ => True

def lease : Manager → Option PacketSessionLease
  | .clearing _ lease _ => some lease
  | _ => none

def Owes : Manager → PacketSessionLease → Prop
  | .clearing carries lease _, key =>
    key.generation = lease.generation ∧ (key.direction = .outbound ∨ carries = true)
  | .clearingInbound generation _, key =>
    key.generation = generation ∧ key.direction = .inbound
  | _, _ => False

end Manager

def Teardown.Owes : Teardown → PacketSessionLease → Prop
  | .clearing lease, key => key.generation = lease.generation
  | .clearingInbound lease, key =>
    key.generation = lease.generation ∧ key.direction = .inbound
  | _, _ => False

namespace Session

/-- The session still has to send `Cleared` for the key. -/
def Owes (self : Session) (key : PacketSessionLease) : Prop :=
  key.peerId = self.peerId ∧
    ((∃ lease, self.slot = some lease ∧ key.generation = lease.generation) ∨
      self.manager.Owes key ∨ self.teardown.Owes key)

/-- The leases of a session and what the stream says about them. -/
structure Tidy (session : Session) (stream : List PacketSessionEvent) : Prop where
  own : ∀ lease, session.slot = some lease ∨ session.manager.lease = some lease ∨
    session.teardown.lease = some lease →
      lease.peerId = session.peerId ∧ lease.direction = .outbound
  slot : ∀ lease, session.slot = some lease → session.manager.lodged = some lease.generation
  published : ∀ carries generation, session.manager = .published carries generation →
    (∃ lease, session.slot = some lease ∧ lease.generation = generation) ∨
      ∃ lease, session.teardown = .clearing lease ∧ lease.generation = generation
  announced : ∀ generation, session.manager = .announced generation →
    (∃ lease, session.slot = some lease ∧ lease.generation = generation) ∨
      ∃ lease, session.teardown.lease = some lease ∧ lease.generation = generation
  fresh : ∀ carries lease, session.teardown.lease = some lease →
    session.manager ≠ .claimed carries lease.generation
  apart : ∀ lease taken, session.slot = some lease → session.teardown.lease = some taken →
    lease.generation ≠ taken.generation
  allowed : ∀ event ∈ stream, session.manager.generation = some event.generation →
    session.manager.Allows event
  heard : ∀ generation, session.manager.heard = some generation →
    .ready ⟨session.peerId, .outbound, generation⟩ ∈ stream
  kept : ∀ lease, session.slot = some lease →
    .cleared session.peerId .outbound lease.generation ∉ stream
  aborted : session.aborted = true → session.teardown = .done

variable {self : Session} {counter : Nat} {outcome : Outcome} {stream : List PacketSessionEvent}

namespace Tidy

theorem new (p : String) : (Session.new p).Tidy stream where
  own := by simp [Session.new, Manager.lease, Teardown.lease]
  slot := by simp [Session.new]
  published := by simp [Session.new]
  announced := by simp [Session.new]
  fresh := by simp [Session.new, Teardown.lease]
  apart := by simp [Session.new]
  allowed := by simp [Session.new, Manager.generation]
  heard := by simp [Session.new, Manager.heard]
  kept := by simp [Session.new]
  aborted := by simp [Session.new]

theorem remove (h : self.Tidy stream) : self.remove.Tidy stream := by
  unfold Session.remove
  split
  · rename_i hc
    have ho := h.own
    have hp := h.published
    have ha := h.announced
    simp only [hc, Teardown.lease] at ho hp ha
    refine ⟨ho, h.slot, ?_, ha, by simp [Teardown.lease], by simp [Teardown.lease],
      h.allowed, h.heard, h.kept, ?_⟩
    · intro c g hm
      exact .inl ((hp c g hm).resolve_right (by simp))
    · intro hab
      have hd := h.aborted hab
      rw [hc] at hd
      cases hd
  · exact h

section Moved

variable (h : self.Tidy stream) (hmo : self.Moved counter outcome)

include h hmo

theorem own_moved (lease : PacketSessionLease)
    (hl : outcome.session.slot = some lease ∨ outcome.session.manager.lease = some lease ∨
      outcome.session.teardown.lease = some lease) :
    lease.peerId = outcome.session.peerId ∧ lease.direction = .outbound := by
  have ho := h.own
  cases hmo <;> grind [lease, Teardown.lease]

theorem slot_moved (hg : self.Gentle outcome) (lease : PacketSessionLease)
    (hs : outcome.session.slot = some lease) :
    outcome.session.manager.lodged = some lease.generation := by
  have ho := h.slot
  have hf := hg.forgets
  cases hmo <;> grind [lodged]

theorem published_moved (hg : self.Gentle outcome) (c : Bool) (generation : Nat)
    (hp : outcome.session.manager = .published c generation) :
    (∃ lease, outcome.session.slot = some lease ∧ lease.generation = generation) ∨
      ∃ lease, outcome.session.teardown = .clearing lease ∧ lease.generation = generation := by
  have hol := h.published
  have ho := hg.overtakes
  cases hmo with
  | tornOutbound lease hf =>
    have hl := ho (by simp [hf])
    rw [overtakes, hf, hp] at hl
    grind
  | _ => grind

theorem announced_moved (hg : self.Gentle outcome) (generation : Nat)
    (ha : outcome.session.manager = .announced generation) :
    (∃ lease, outcome.session.slot = some lease ∧ lease.generation = generation) ∨
      ∃ lease, outcome.session.teardown.lease = some lease ∧ lease.generation = generation := by
  have hol := h.announced
  have hp := h.published
  have ho := hg.overtakes
  cases hmo with
  | tornInbound lease hf =>
    have hl := ho (by simp [hf])
    rw [overtakes, hf, ha] at hl
    grind [Teardown.lease]
  | announced c generation hf => cases c <;> grind [Teardown.lease]
  | _ => grind [Teardown.lease]

theorem allowed_of_mem_stream (he : event ∈ stream) (hle : event.generation ≤ counter)
    (hg : outcome.session.manager.generation = some event.generation) :
    outcome.session.manager.Allows event := by
  have ho := h.allowed event he
  cases hmo with
  | announced c generation hf | cleared c l e hf =>
    cases c <;> grind [Manager.generation, Manager.Allows]
  | left c generation e hf | unslotted c l e hf =>
    cases c <;> grind [Manager.generation, Manager.Allows]
  | _ => grind [Manager.generation, Manager.Allows]

theorem fresh_moved (hu : ∀ generation, self.Uses generation → generation ≤ counter)
    (c : Bool) (lease : PacketSessionLease)
    (ht : outcome.session.teardown.lease = some lease) :
    outcome.session.manager ≠ .claimed c lease.generation := by
  have ho := h.fresh
  have hs := h.slot
  cases hmo with
  | claimed c hf =>
    have hle := hu lease.generation (.inr (.inr (congrArg _ ht)))
    grind
  | _ => grind [Teardown.lease, lodged]

theorem apart_moved (lease t : PacketSessionLease) (hs : outcome.session.slot = some lease)
    (ht : outcome.session.teardown.lease = some t) :
    lease.generation ≠ t.generation := by
  have ho := h.apart
  have hf := h.fresh
  cases hmo <;> grind [Teardown.lease]

/-- A removal sends `Cleared` only when the manager has sent the `Ready`. -/
theorem allowed_of_mem_events (hg : self.Gentle outcome) (he : event ∈ outcome.events)
    (hge : outcome.session.manager.generation = some event.generation) :
    outcome.session.manager.Allows event := by
  have ho := hg.overtakes
  cases hmo with
  | announced c generation hf =>
    cases c <;> grind [Manager.Allows, PacketSessionEvent.direction]
  | cleared c l e hf => cases c <;> exact trivial
  | tornOutbound l hf =>
    obtain rfl := mem_singleton.mp he
    have hl := ho (by simp [hf])
    have hr := h.fresh
    have how := h.own l
    rw [overtakes, hf] at hl
    cases hm : self.manager with
    | claimed => grind [Manager.generation, PacketSessionEvent.generation, Teardown.lease]
    | published => grind [Manager.generation, PacketSessionEvent.generation]
    | announced => grind [Manager.Allows, PacketSessionEvent.direction, Teardown.lease]
    | driving c | leaving c => cases c <;> simp [Manager.Allows]
    | clearing c => cases c <;> simp [Manager.Allows]
    | _ => exact trivial
  | tornInbound l hf =>
    obtain rfl := mem_singleton.mp he
    have hl := ho (by simp [hf])
    have hr := h.fresh
    have hp := h.published
    have ha := h.apart
    rw [overtakes, hf] at hl
    cases hm : self.manager with
    | claimed
    | published => grind [Manager.generation, PacketSessionEvent.generation, Teardown.lease]
    | announced => grind [Manager.generation, PacketSessionEvent.generation]
    | driving c | leaving c => cases c <;> simp [Manager.Allows]
    | clearing c => cases c <;> simp [Manager.Allows]
    | _ => exact trivial
  | announcedInbound generation hf | clearedInbound generation e hf => exact trivial
  | _ => simp at he

theorem heard_moved (g : Nat) (hh : outcome.session.manager.heard = some g) :
    .ready ⟨outcome.session.peerId, .outbound, g⟩ ∈ stream ++ outcome.events := by
  have ho := h.heard
  cases hmo with
  | announced c g hf | cleared c l e hf => cases c <;> grind [Manager.heard]
  | _ => grind [Manager.heard]

theorem kept_moved (lease : PacketSessionLease) (hs : outcome.session.slot = some lease) :
    .cleared outcome.session.peerId .outbound lease.generation ∉ stream ++ outcome.events := by
  have ho := h.kept
  have ha := h.allowed
  have hl := h.slot
  have hp := h.apart
  cases hmo with
  | published c generation hf =>
    cases hs
    rw [append_nil]
    intro hc
    have hn := ha _ hc (by rw [hf]; rfl)
    rw [hf] at hn
    exact hn
  | tornOutbound t hf => grind [Teardown.lease]
  | _ => grind [lodged]

theorem aborted_moved (ha : outcome.session.aborted = true) : outcome.session.teardown = .done := by
  have ho := h.aborted
  cases hmo <;> grind

theorem moved (hg : self.Gentle outcome)
    (hu : ∀ generation, self.Uses generation → generation ≤ counter)
    (hs : ∀ event ∈ stream, event.generation ≤ counter) :
    outcome.session.Tidy (stream ++ outcome.events) where
  own := own_moved h hmo
  slot := slot_moved h hmo hg
  published := published_moved h hmo hg
  announced := announced_moved h hmo hg
  fresh := fresh_moved h hmo hu
  apart := apart_moved h hmo
  allowed := by
    intro event hm he
    rcases mem_append.mp hm with ho | hn
    · exact allowed_of_mem_stream h hmo ho (hs event ho) he
    · exact allowed_of_mem_events h hmo hg hn he
  heard := heard_moved h hmo
  kept := kept_moved h hmo
  aborted := aborted_moved h hmo

variable {key : PacketSessionLease}

/-- A lease leaves the slot into the hands of the manager or of a removal. -/
theorem slot_owes_moved {lease : PacketSessionLease} (hp : key.peerId = self.peerId)
    (hs : self.slot = some lease) (hg : key.generation = lease.generation)
    (hr : .ready key ∈ stream) : outcome.session.Owes key := by
  have hl := h.slot lease hs
  have ha := h.allowed _ hr
  refine ⟨hmo.peerId_eq ▸ hp, ?_⟩
  cases hmo with
  | published c generation hf =>
    rw [hf] at hl
    cases hl
  | unslotted c o e hf ho =>
    cases hs.symm.trans ho
    refine .inr (.inl ⟨hg, ?_⟩)
    cases c with
    | true => exact .inr rfl
    | false =>
      rw [hf] at ha
      exact .inl (ha (congrArg some hg.symm) key rfl)
  | taken o hf ho =>
    cases hs.symm.trans ho
    exact .inr (.inr hg)
  | _ => exact .inl ⟨lease, hs, hg⟩

/-- The manager clears the outbound direction first, and the inbound one if it carries it. -/
theorem manager_owes_moved (hp : key.peerId = self.peerId) (how : self.manager.Owes key)
    (hope : .cleared key.peerId key.direction key.generation ∉ outcome.events) :
    outcome.session.Owes key := by
  have hw := h.own
  refine ⟨hmo.peerId_eq ▸ hp, ?_⟩
  cases hmo with
  | cleared c l e hf =>
    rw [hf] at how
    obtain ⟨hg, hd⟩ := how
    obtain ⟨hl, ho⟩ := hw l (.inr (.inl (by rw [hf]; rfl)))
    have hi : key.direction ≠ .outbound := by
      intro heq
      exact hope (by simp [hp, hl, heq, ho, hg])
    obtain rfl := hd.resolve_left hi
    refine .inr (.inl ⟨hg, ?_⟩)
    cases hk : key.direction with
    | outbound => exact absurd hk hi
    | inbound => rfl
  | _ => grind [Manager.Owes]

/-- A removal clears the outbound direction first, then the inbound one. -/
theorem teardown_owes_moved (hp : key.peerId = self.peerId) (how : self.teardown.Owes key)
    (ho : .cleared key.peerId key.direction key.generation ∉ outcome.events) :
    outcome.session.Owes key := by
  have hw := h.own
  refine ⟨hmo.peerId_eq ▸ hp, ?_⟩
  cases hmo with
  | tornOutbound l hf =>
    cases hd : key.direction <;> grind [Teardown.Owes, Teardown.lease]
  | tornInbound l hf => grind [Teardown.Owes, Teardown.lease]
  | _ => grind [Teardown.Owes]

theorem owes_moved (ho : self.Owes key) (hr : .ready key ∈ stream)
    (hope : .cleared key.peerId key.direction key.generation ∉ outcome.events) :
    outcome.session.Owes key := by
  obtain ⟨hp, ⟨l, hs, hg⟩ | ho | ho⟩ := ho
  · exact slot_owes_moved h hmo hp hs hg hr
  · exact manager_owes_moved h hmo hp ho hope
  · exact teardown_owes_moved h hmo hp ho hope

/-- A lease that is announced lies in the slot, or a removal has taken it. -/
theorem owes_of_ready (hr : .ready key ∈ outcome.events) : outcome.session.Owes key := by
  have hp := h.published
  have ha := h.announced
  cases hmo with
  | announced c g hf =>
    obtain rfl : key = ⟨self.peerId, .outbound, g⟩ := by simpa using hr
    refine ⟨rfl, ?_⟩
    rcases hp c g hf with ⟨l, hs, rfl⟩ | ⟨l, ht, rfl⟩
    · exact .inl ⟨l, hs, rfl⟩
    · exact .inr (.inr (by rw [ht]; rfl))
  | announcedInbound g hf =>
    obtain rfl : key = ⟨self.peerId, .inbound, g⟩ := by simpa using hr
    refine ⟨rfl, ?_⟩
    rcases ha g hf with ⟨l, hs, rfl⟩ | ⟨l, ht, rfl⟩
    · exact .inl ⟨l, hs, rfl⟩
    · refine .inr (.inr ?_)
      show self.teardown.Owes _
      cases he : self.teardown <;> grind [Teardown.lease, Teardown.Owes]
  | _ => simp at hr

/-- Nothing about a lease was cleared before it is announced. -/
theorem not_cleared_of_ready (hr : .ready key ∈ outcome.events) :
    .cleared key.peerId key.direction key.generation ∉ stream := by
  intro hc
  have ha := h.allowed _ hc
  cases hmo <;>
    grind [Manager.Allows, Manager.generation, PacketSessionEvent.generation,
      PacketSessionEvent.direction]

end Moved

/-- What other sessions send leaves a session in order. -/
theorem other (h : self.Tidy stream)
    (he : ∀ event ∈ events, ¬ self.Uses event.generation) : self.Tidy (stream ++ events) where
  own := h.own
  slot := h.slot
  published := h.published
  announced := h.announced
  fresh := h.fresh
  apart := h.apart
  allowed := by
    intro event hm hg
    rcases mem_append.mp hm with ho | hn
    · exact h.allowed event ho hg
    · exact absurd (.inl hg) (he event hn)
  heard := fun generation hh => mem_append_left _ (h.heard generation hh)
  kept := by
    intro l hs hc
    rcases mem_append.mp hc with ho | hn
    · exact h.kept l hs ho
    · exact he _ hn (.inr (.inl (by rw [hs]; rfl)))
  aborted := h.aborted

end Tidy

end Session

/-! ## The stream of an orderly run -/

namespace PacketSessionEvent

@[simp] theorem mark_eq_opened_iff {e : PacketSessionEvent} {lease : PacketSessionLease} :
    e.mark = .opened lease ↔ e = .ready lease := by
  cases e <;> simp [mark]

@[simp] theorem mark_eq_closed_iff {e : PacketSessionEvent} {lease : PacketSessionLease} :
    e.mark = .closed lease ↔ e = .cleared lease.peerId lease.direction lease.generation := by
  cases e with
  | ready => simp [mark]
  | cleared peerId direction generation =>
    obtain ⟨lea, le, l⟩ := lease
    simp [mark]

end PacketSessionEvent

variable {stream : List PacketSessionEvent} {lease : PacketSessionLease}

theorem opened_mem_marks_iff : .opened lease ∈ stream.map mark ↔ .ready lease ∈ stream := by
  simp

theorem closed_mem_marks_iff : .closed lease ∈ stream.map mark ↔
      .cleared lease.peerId lease.direction lease.generation ∈ stream := by
  simp

theorem ready_mem_of_mem_consume (h : lease ∈ consume stream) : .ready lease ∈ stream :=
  opened_mem_marks_iff.mp (Mark.opened_mem_of_mem_held h)

/-- A held lease was announced just now, or it was held and is not cleared now. -/
theorem mem_consume_concat {l : PacketSessionEvent} (h : lease ∈ consume (stream ++ [l])) :
    l = .ready lease ∨
      (lease ∈ consume stream ∧ l ≠ .cleared lease.peerId lease.direction lease.generation) := by
  rw [consume, map_append, map_singleton, Mark.held_concat] at h
  cases l with
  | ready o =>
    rcases Finset.mem_insert.mp h with rfl | ho
    · exact .inl rfl
    · exact .inr ⟨ho, by simp⟩
  | cleared peerId direction generation =>
    obtain ⟨hne, ho⟩ := Finset.mem_erase.mp h
    refine .inr ⟨ho, fun heq => hne ?_⟩
    cases heq
    rfl

structure Settled (world : World) : Prop extends Numbered world where
  tidy : ∀ session ∈ world.sessions, session.Tidy world.stream
  ordered : Mark.Ordered (world.stream.map mark)
  owed : ∀ lease ∈ consume world.stream, ∃ session ∈ world.sessions, session.Owes lease

namespace Session

theorem owes_remove {self : Session} (h : self.Owes key) : self.remove.Owes key := by
  unfold remove
  split
  · rename_i ha
    rw [Owes, ha] at h
    exact h
  · exact h

end Session

namespace Settled

variable {world : World}

theorem new : Settled World.new where
  toNumbered := Numbered.new
  tidy := by simp [World.new]
  ordered := by simp [World.new, Mark.Ordered]
  owed := by simp [World.new, consume, Mark.held]

theorem added (h : Settled world) (p : String) :
    Settled { world with sessions := world.sessions ++ [.new p] } where
  toNumbered := h.toNumbered.added p
  tidy := by
    intro s hm
    rcases mem_append.mp hm with hol | hn
    · exact h.tidy s hol
    · obtain rfl := mem_singleton.mp hn
      exact .new p
  ordered := h.ordered
  owed := by
    intro l hl
    obtain ⟨s, hm, ho⟩ := h.owed l hl
    exact ⟨s, mem_append_left _ hm, ho⟩

theorem removed (h : Settled world) {f : Session → Session}
    (hf : ∀ session, f session = session ∨ f session = session.remove) :
    Settled { world with sessions := world.sessions.map f } where
  toNumbered := h.toNumbered.removed hf
  tidy := by
    intro session hm
    obtain ⟨old, ho, rfl⟩ := mem_map.mp hm
    rcases hf old with heq | heq
    · rw [heq]
      exact h.tidy old ho
    · rw [heq]
      exact (h.tidy old ho).remove
  ordered := h.ordered
  owed := by
    intro l hl
    obtain ⟨session, hm, how⟩ := h.owed l hl
    refine ⟨f session, mem_map_of_mem hm, ?_⟩
    rcases hf session with heq | heq
    · rwa [heq]
    · rw [heq]
      exact owes_remove how

section Acted

variable {index : Nat} {session : Session} {outcome : Outcome}
  (hses : world.sessions[index]? = some session) (hmo : session.Moved world.counter outcome)
  (h : Settled world)

include hses hmo h

theorem tidy_acted (hg : session.Gentle outcome)
    (hm : other ∈ world.sessions.set index outcome.session) :
    other.Tidy (world.stream ++ outcome.events) := by
  have hs := mem_of_getElem? hses
  obtain ⟨j, hj⟩ := mem_iff_getElem?.mp hm
  rcases getElem?_set_eq_some hj with ⟨rfl, rfl⟩ | ⟨hne, hj⟩
  · exact (h.tidy session hs).moved hmo hg
      (fun g hu => (h.used session hs g hu).2)
      fun e he => (h.sent e he).2
  · refine (h.tidy other (mem_of_getElem? hj)).other fun e he => ?_
    exact Numbered.not_uses_of_mem hses hmo h.toNumbered hj hne he

theorem ordered_acted : Mark.Ordered ((world.stream ++ outcome.events).map mark) := by
  rcases hmo.events_cases with hn | ⟨e, hon⟩
  · rw [hn, append_nil]
    exact h.ordered
  · rw [hon, map_append, map_singleton]
    refine Mark.ordered_concat h.ordered fun l ho => ?_
    obtain rfl := mark_eq_opened_iff.mp ho
    rw [closed_mem_marks_iff]
    exact (h.tidy session (mem_of_getElem? hses)).not_cleared_of_ready hmo
      (by simp [hon])

/-- A debt stays with its session until the `Cleared` is sent. -/
theorem owed_of_open {lease : PacketSessionLease} (hl : lease ∈ consume world.stream)
    (hope : .cleared lease.peerId lease.direction lease.generation ∉ outcome.events) :
    ∃ other ∈ world.sessions.set index outcome.session, other.Owes lease := by
  obtain ⟨other, hm, ho⟩ := h.owed lease hl
  obtain ⟨j, hj⟩ := List.mem_iff_getElem?.mp hm
  by_cases hi : j = index
  · subst hi
    cases hses.symm.trans hj
    have hlt := (List.getElem?_eq_some_iff.mp hses).1
    exact ⟨outcome.session, List.mem_set hlt _,
      (h.tidy session hm).owes_moved hmo ho (ready_mem_of_mem_consume hl) hope⟩
  · have hk : (world.sessions.set index outcome.session)[j]? = some other := by
      rw [List.getElem?_set_ne (Ne.symm hi)]
      exact hj
    exact ⟨other, List.mem_of_getElem? hk, ho⟩

theorem owed_acted {lease : PacketSessionLease}
    (hl : lease ∈ consume (world.stream ++ outcome.events)) :
    ∃ other ∈ world.sessions.set index outcome.session, other.Owes lease := by
  rcases hmo.events_cases with hn | ⟨e, ho⟩
  · rw [hn, List.append_nil] at hl
    exact owed_of_open hses hmo h hl (by simp [hn])
  · rw [ho] at hl
    rcases mem_consume_concat hl with rfl | ⟨hol, hne⟩
    · have hlt := (List.getElem?_eq_some_iff.mp hses).1
      exact ⟨outcome.session, List.mem_set hlt _,
        (h.tidy session (List.mem_of_getElem? hses)).owes_of_ready hmo (by simp [ho])⟩
    · exact owed_of_open hses hmo h hol (by simpa [ho] using hne.symm)

theorem acted (hg : session.Gentle outcome) :
    Settled ⟨world.sessions.set index outcome.session, outcome.counter,
      world.stream ++ outcome.events⟩ where
  toNumbered := Numbered.acted hses hmo h.toNumbered
  tidy := fun _ hm => tidy_acted hses hmo h hg hm
  ordered := ordered_acted hses hmo h
  owed := fun _ hl => owed_acted hses hmo h hl

end Acted

theorem step (h : Settled world) (inp : Input) (ho : Orderly world inp) :
    Settled (Transport.step world inp).2 := by
  have hs := step_stepped world inp
  generalize (Transport.step world inp).2 = next at hs ⊢
  cases hs with
  | same => exact h
  | added p => exact h.added p
  | removed f hf => exact h.removed hf
  | acted i s o he hm hg =>
    exact acted he hm h (hg ho)

theorem run (h : Settled world) (ho : Along Transport.step Orderly world inputs) :
    Settled (run Transport.step world inputs) :=
  run_invariant_along Settled (fun _ i h => h.step i) h ho

end Settled

/-! ## What a consumer sees -/

/-- The peer was removed or replaced as often as it was added, and its managers have stopped. -/
def World.Gone (world : World) (peerId : String) : Prop :=
  ∀ session ∈ world.sessions, session.peerId = peerId →
    session.manager = .stopped ∧ session.teardown = .done

instance (world : World) (peerId : String) : Decidable (world.Gone peerId) :=
  inferInstanceAs (Decidable (∀ _ ∈ _, _ → _))

structure Faithful (world : World) : Prop where
  /-- No `Ready` comes after a `Cleared` for the same peer, direction and generation. -/
  ordered : ∀ front back lease,
    world.stream = front ++ .cleared lease.peerId lease.direction lease.generation :: back →
      .ready lease ∉ back
  /-- Every `Ready` of a peer that is gone is followed by its `Cleared`. -/
  followed : ∀ front back lease, world.stream = front ++ .ready lease :: back →
    world.Gone lease.peerId → .cleared lease.peerId lease.direction lease.generation ∈ back
  /-- A consumer holds no lease of a peer that is gone. -/
  empty : ∀ lease ∈ consume world.stream, ¬ world.Gone lease.peerId

theorem ordered_iff : (∀ front back lease,
      stream = front ++ .cleared lease.peerId lease.direction lease.generation :: back →
        .ready lease ∉ back) ↔ Mark.Ordered (stream.map mark) := by
  constructor
  · intro h front back lease hs
    obtain ⟨front', r, rfl, rfl, hre⟩ := map_eq_append_iff.mp hs
    obtain ⟨e, back', rfl, he, rfl⟩ := map_eq_cons_iff.mp hre
    obtain rfl := mark_eq_closed_iff.mp he
    rw [opened_mem_marks_iff]
    exact h front' back' lease rfl
  · rintro h front back lease rfl hr
    refine h (front.map mark) (back.map mark) lease ?_ ?_
    · simp [mark]
    · exact opened_mem_marks_iff.mpr hr

namespace Settled

variable {world : World}

theorem not_gone (h : Settled world) {lease : PacketSessionLease}
    (hle : lease ∈ consume world.stream) : ¬ world.Gone lease.peerId := by
  intro hg
  obtain ⟨s, hm, hp, ho⟩ := h.owed lease hle
  obtain ⟨hs, hd⟩ := hg s hm hp.symm
  rcases ho with ⟨o, hsl, -⟩ | ho | ho
  · have hl := (h.tidy s hm).slot o hsl
    rw [hs] at hl
    cases hl
  · rw [hs] at ho
    exact ho
  · rw [hd] at ho
    exact ho

theorem faithful (h : Settled world) : Faithful world where
  ordered := ordered_iff.mpr h.ordered
  followed := by
    intro f b l hs hg
    have hh : l ∉ consume world.stream := fun hl => h.not_gone hl hg
    have hm : world.stream.map mark =
        f.map mark ++ .opened l :: b.map mark := by
      simp [hs, mark]
    exact closed_mem_marks_iff.mp (Mark.closed_after_opened hh hm)
  empty := fun _ hl => h.not_gone hl

end Settled

end QuantumLink.Transport
