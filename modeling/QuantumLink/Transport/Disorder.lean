import QuantumLink.Transport.Orderly

/-! # Disorderly runs

A step that is not orderly does damage that no later step repairs. Either a `Cleared` is on the
stream whose `Ready` the manager is going to send without another await, or a lease is left in the
slot of a session where nobody looks for it any more. The damage shows at the latest when every
manager has stopped and every peer is removed, and orderly steps lead there from every state.
-/

namespace QuantumLink.Transport

open Manager Transport.Session World
open List
open PacketSessionEvent

/-! ## Damage -/

namespace Session

/-- The stream has a `Cleared` whose `Ready` the manager sends next. -/
def Overtaken (self : Session) (stream : List PacketSessionEvent) : Prop :=
  (∃ carries generation, self.manager = .published carries generation ∧
      .cleared self.peerId .outbound generation ∈ stream) ∨
    ∃ generation, self.manager = .announced generation ∧
      .cleared self.peerId .inbound generation ∈ stream

variable {self : Session} {counter : Nat} {outcome : Outcome} {stream : List PacketSessionEvent}

theorem not_ordered_of_ready {l : PacketSessionLease}
    (hc : .cleared l.peerId l.direction l.generation ∈ stream)
    (hr : .ready l ∈ events) :
    ¬ Mark.Ordered ((stream ++ events).map mark) := by
  rw [map_append]
  exact Mark.not_ordered_of_mem (closed_mem_marks_iff.mpr hc)
    (opened_mem_marks_iff.mpr hr)

theorem overtaken_moved (h : self.Overtaken stream) (hmov : self.Moved counter outcome) :
    outcome.session.Overtaken (stream ++ outcome.events) ∨
      ¬ Mark.Ordered ((stream ++ outcome.events).map mark) := by
  cases hmov with
  | announced carries generation hf =>
    refine .inr (not_ordered_of_ready ?_ (mem_singleton_self _))
    rcases h with ⟨carries', generation', hm, hc⟩ | ⟨generation', hm, -⟩
    · obtain ⟨-, rfl⟩ := published.inj (hf.symm.trans hm)
      exact hc
    · rw [hf] at hm
      cases hm
  | announcedInbound generation hf =>
    refine .inr (not_ordered_of_ready ?_ (mem_singleton_self _))
    rcases h with ⟨carries', generation', hm, -⟩ | ⟨generation', hm, hc⟩
    · rw [hf] at hm
      cases hm
    · obtain rfl := announced.inj (hf.symm.trans hm)
      exact hc
  | _ => grind [Overtaken]

/-- Nothing moves in a session whose manager has stopped and whose removal is done. -/
theorem Moved.eq_of_stopped (h : self.Moved counter outcome) (hs : self.manager = .stopped)
    (hd : self.teardown = .done) : outcome.session = self ∧ outcome.events = [] := by
  cases h <;> simp_all

end Session

inductive Damaged (world : World) : Prop
  | disordered (h : ¬ Mark.Ordered (world.stream.map mark))
  | overtaken (index : Nat) (session : Session) (hsession : world.sessions[index]? = some session)
      (h : session.Overtaken world.stream)
  | lost (index : Nat) (session : Session) (lease : PacketSessionLease)
      (hsession : world.sessions[index]? = some session) (hstopped : session.manager = .stopped)
      (hdone : session.teardown = .done) (hslot : session.slot = some lease)
      (hheld : lease ∈ consume world.stream)

namespace Damaged

variable {world : World}

theorem added (h : Damaged world) (p : String) :
    Damaged { world with sessions := world.sessions ++ [.new p] } := by
  cases h with
  | disordered h => exact .disordered h
  | overtaken i s he h =>
    exact .overtaken i s (getElem?_concat_eq_some_iff.mpr (.inl he)) h
  | lost i s l he hs hd hl hh =>
    exact .lost i s l (getElem?_concat_eq_some_iff.mpr (.inl he)) hs
      hd hl hh

theorem removed (h : Damaged world) {f : Session → Session}
    (hf : ∀ session, f session = session ∨ f session = session.remove) :
    Damaged { world with sessions := world.sessions.map f } := by
  cases h with
  | disordered h => exact .disordered h
  | overtaken i session he h =>
    refine .overtaken i (f session) (by simp [he]) ?_
    rcases hf session with heq | heq
    · rwa [heq]
    · rw [heq]
      unfold remove
      split
      · exact h
      · exact h
  | lost i session l he hs hd hl hh =>
    have ha : f session = session := by
      rcases hf session with heq | heq
      · exact heq
      · rw [heq, remove, hd]
    exact .lost i session l (by simp [he, ha]) hs hd hl hh

section Acted

variable {index : Nat} {session : Session} {outcome : Outcome}
  (hses : world.sessions[index]? = some session) (hmov : session.Moved world.counter outcome)

include hses hmov

theorem overtaken_acted {j : Nat} {o : Session} (hj : world.sessions[j]? = some o)
    (h : o.Overtaken world.stream) :
    Damaged ⟨world.sessions.set index outcome.session, outcome.counter,
      world.stream ++ outcome.events⟩ := by
  by_cases hi : index = j
  · subst hi
    cases hses.symm.trans hj
    rcases overtaken_moved h hmov with hs | hd
    · have hlt := (List.getElem?_eq_some_iff.mp hses).1
      exact .overtaken index outcome.session (List.getElem?_set_self hlt) hs
    · exact .disordered hd
  · refine .overtaken j o (by rw [List.getElem?_set_ne hi]; exact hj) ?_
    rcases h with ⟨c, g, hm, hc⟩ | ⟨g, hm, hc⟩
    · exact .inl ⟨c, g, hm, List.mem_append_left _ hc⟩
    · exact .inr ⟨g, hm, List.mem_append_left _ hc⟩

theorem lost_acted (hn : Numbered world) {j : Nat} {o : Session}
    {l : PacketSessionLease} (hj : world.sessions[j]? = some o)
    (hs : o.manager = .stopped) (hd : o.teardown = .done)
    (hl : o.slot = some l) (hh : l ∈ consume world.stream) :
    Damaged ⟨world.sessions.set index outcome.session, outcome.counter,
      world.stream ++ outcome.events⟩ := by
  by_cases hi : index = j
  · subst hi
    cases hses.symm.trans hj
    obtain ⟨ha, ho⟩ := hmov.eq_of_stopped hs hd
    have hlt := (List.getElem?_eq_some_iff.mp hses).1
    rw [ha, ho, List.append_nil]
    exact .lost index session l (List.getElem?_set_self hlt) hs hd hl hh
  · refine .lost j o l (by rw [List.getElem?_set_ne hi]; exact hj) hs hd hl ?_
    show l ∈ Mark.held _
    rw [List.map_append]
    -- only the session of the lease sends anything about its generation
    refine Mark.mem_held_append hh fun hc => ?_
    have hu : o.Uses l.generation := .inr (.inl (by rw [hl]; rfl))
    exact Numbered.not_uses_of_mem hses hmov hn hj (Ne.symm hi)
      (closed_mem_marks_iff.mp hc) hu

end Acted

theorem step (h : Damaged world) (hn : Numbered world) (inp : Input) :
    Damaged (Transport.step world inp).2 := by
  have hs := step_stepped world inp
  generalize (Transport.step world inp).2 = next at hs ⊢
  cases hs with
  | same => exact h
  | added p => exact h.added p
  | removed f hf => exact h.removed hf
  | acted i s ou he hm _ =>
    cases h with
    | disordered h =>
      refine .disordered fun ho => h ?_
      rw [map_append] at ho
      exact ho.of_append
    | overtaken j o hj h => exact overtaken_acted he hm hj h
    | lost j o l hj ht hd hl hh =>
      exact lost_acted he hm hn hj ht hd hl hh

theorem run (h : Damaged world) (hn : Numbered world) (inp : List Input) :
    Damaged (run Transport.step world inp) := by
  have hb := run_invariant (fun world => Numbered world ∧ Damaged world)
    (fun _ i hb => ⟨hb.1.step i, hb.2.step hb.1 i⟩) ⟨hn, h⟩ inp
  exact hb.2

end Damaged

/-! ## The first disorderly step -/

namespace Settled

variable {world : World} {index : Nat} {session : Session}

theorem damaged_of_overtakes (h : Settled world) (hses : world.sessions[index]? = some session)
    (ho : session.overtakes = true) : Damaged (Transport.step world (.teardown index)).2 := by
  have hi := h.tidy session (List.mem_of_getElem? hses)
  have hlt := (List.getElem?_eq_some_iff.mp hses).1
  show Damaged (world.act index tearDown)
  unfold act
  rw [hses]
  refine .overtaken index _ (List.getElem?_set_self hlt) ?_
  have how := hi.own
  unfold overtakes at ho
  split at ho
  · rename_i lease carries generation ht hm
    obtain ⟨hp, hd⟩ := how lease (.inr (.inr (by rw [ht]; rfl)))
    obtain rfl := of_decide_eq_true ho
    refine .inl ⟨carries, lease.generation, ?_, ?_⟩
    · rw [manager_tearDown]
      exact hm
    · simp [tearDown, ht, hp, hd]
  · rename_i lease generation ht hm
    obtain ⟨hp, -⟩ := how lease (.inr (.inr (by rw [ht]; rfl)))
    obtain rfl := of_decide_eq_true ho
    refine .inr ⟨lease.generation, ?_, ?_⟩
    · rw [manager_tearDown]
      exact hm
    · simp [tearDown, ht, hp]
  · cases ho

theorem damaged_of_forgets (h : Settled world) (hses : world.sessions[index]? = some session)
    (hf : session.forgets = true) : Damaged (Transport.step world (.cancel index)).2 := by
  have ht := h.tidy session (List.mem_of_getElem? hses)
  have hlt := (List.getElem?_eq_some_iff.mp hses).1
  unfold forgets at hf
  split at hf
  · rename_i carries generation ha hm
    obtain ⟨l, hs⟩ := Option.isSome_iff_exists.mp hf
    obtain ⟨hp, hd⟩ := ht.own l (.inl hs)
    have hl := ht.slot l hs
    rw [hm] at hl
    cases hl
    have hr := ht.heard l.generation (by rw [hm]; rfl)
    have hk := ht.kept l hs
    rw [← hp, ← hd] at hr hk
    have hh : l ∈ consume world.stream :=
      Mark.mem_held_of_mem (opened_mem_marks_iff.mpr hr) (mt closed_mem_marks_iff.mp hk)
    show Damaged (world.act index cancel)
    unfold act
    rw [hses]
    refine .lost index _ l (List.getElem?_set_self hlt) ?_ ?_ ?_ ?_
    · simp [cancel, ha, hm]
    · simpa [cancel, ha, hm] using ht.aborted ha
    · simpa [cancel, ha, hm] using hs
    · simpa [cancel, ha, hm] using hh
  · cases hf

theorem damaged_of_not_orderly (h : Settled world) (hi : ¬ Orderly world input) :
    Damaged (Transport.step world input).2 := by
  cases input with
  | teardown i =>
    obtain ⟨s, hs, ho⟩ : ∃ s ∈ world.sessions[i]?,
        s.overtakes = true := by simpa [Orderly] using hi
    exact h.damaged_of_overtakes hs ho
  | cancel i =>
    obtain ⟨s, hs, hf⟩ : ∃ s ∈ world.sessions[i]?,
        s.forgets = true := by simpa [Orderly] using hi
    exact h.damaged_of_forgets hs hf
  | _ => exact absurd trivial hi

end Settled

/-! ## Orderly steps stop every manager -/

/-- Orderly inputs bring the session at an index to a state and leave the others alone. -/
def Leads (world : World) (index : Nat) (goal : Session → Prop) : Prop :=
  ∃ inputs session, Along step Orderly world inputs ∧
    (run step world inputs).sessions = world.sessions.set index session ∧ goal session

namespace Leads

variable {world : World} {index : Nat} {session : Session} {goal : Session → Prop}

theorem here (hses : world.sessions[index]? = some session) (h : goal session) :
    Leads world index goal := by
  obtain ⟨hlt, hg⟩ := List.getElem?_eq_some_iff.mp hses
  refine ⟨[], session, trivial, ?_, h⟩
  rw [run_nil, ← hg, List.set_getElem_self hlt]

theorem bind {m : Session → Prop} (h : Leads world index m) (hi : index < world.sessions.length)
    (hn : ∀ next session, next.sessions[index]? = some session → m session →
      Leads next index goal) : Leads world index goal := by
  obtain ⟨f, session, hf, hs, hm⟩ := h
  have hses : (run step world f).sessions[index]? = some session := by
    rw [hs, getElem?_set_self hi]
  obtain ⟨b, l, hb, hl, hg⟩ := hn _ session hses hm
  refine ⟨f ++ b, l, (along_append _ _ _ _ _).mpr ⟨hf, hb⟩, ?_, hg⟩
  rw [run_append, hl, hs, set_set]

theorem act (i : Input) {f : Session → Nat → Outcome} (ho : Orderly world i)
    (hs : (step world i).2 = world.act index f)
    (hses : world.sessions[index]? = some session) (h : goal (f session world.counter).session) :
    Leads world index goal := by
  refine ⟨[i], (f session world.counter).session, ⟨ho, trivial⟩, ?_, h⟩
  rw [run_cons, run_nil, hs, World.act, hses]

end Leads

namespace Manager

/-- How many steps a manager is away from its end when its link fails and it is told to stop. -/
def distance : Manager → Nat
  | .connected _ => 11
  | .claimed _ _ => 10
  | .published _ _ => 9
  | .announced _ => 8
  | .driving _ _ => 7
  | .leaving _ _ _ => 6
  | .clearing _ _ _ => 5
  | .clearingInbound _ _ => 4
  | .closing _ => 3
  | .connecting => 2
  | .backingOff => 1
  | .stopped => 0

def last : Manager → Choice
  | .connecting => .fail
  | .backingOff => .quit
  | .driving _ _ => .leave .stop
  | _ => .proceed

end Manager

namespace Session

theorem distance_advance (self : Session) (counter : Nat) (h : self.manager ≠ .stopped) :
    (self.advance counter self.manager.last).session.manager.distance < self.manager.distance := by
  cases hm : self.manager with
  | connected c =>
    rcases nextPacketSessionGeneration_cases counter with hn | hs
    · simp [advance, hm, last, hn, distance]
    · simp [advance, hm, last, hs, distance]
  | published c g | clearing c l e =>
    cases c <;> simp [advance, hm, last, distance]
  | leaving c g e =>
    simp only [advance, hm, last]
    grind [distance]
  | closing e => cases e <;> simp [advance, hm, last, distance]
  | stopped => exact absurd hm h
  | _ => simp [advance, hm, last, distance]

/-- A manager that has sent its `Ready` is overtaken by nobody. -/
theorem overtakes_of_distance {self : Session} (h : self.manager.distance ≤ 7) :
    self.overtakes = false := by
  unfold overtakes
  grind [distance]

end Session

def Teardown.remaining : Teardown → Nat
  | .active => 0
  | .taking => 5
  | .clearing _ => 4
  | .clearingInbound _ => 3
  | .signalling => 2
  | .aborting => 1
  | .done => 0

namespace Session

theorem remaining_tearDown (self : Session) (counter : Nat) (ha : self.teardown ≠ .active)
    (hd : self.teardown ≠ .done) :
    (self.tearDown counter).session.teardown ≠ .active ∧
      (self.tearDown counter).session.teardown.remaining < self.teardown.remaining := by
  cases ht : self.teardown with
  | active => exact absurd ht ha
  | taking => cases hs : self.slot <;> simp [tearDown, ht, hs, Teardown.remaining]
  | done => exact absurd ht hd
  | _ => simp [tearDown, ht, Teardown.remaining]

theorem teardown_remove_ne_active (self : Session) : self.remove.teardown ≠ .active := by
  unfold remove
  grind

end Session

variable {world : World} {index : Nat} {session : Session}

theorem leads_manager (d : Nat) (hses : world.sessions[index]? = some session) :
    Leads world index fun reached =>
      reached.manager.distance ≤ d ∧ reached.teardown = session.teardown := by
  induction hn : session.manager.distance using Nat.strong_induction_on
    generalizing world session with
  | _ n ih =>
    by_cases hne : session.manager.distance ≤ d
    · exact .here hses ⟨hne, rfl⟩
    · have hr : session.manager ≠ .stopped := by
        intro hs
        rw [hs] at hne
        exact hne (Nat.zero_le _)
      have hlt := (List.getElem?_eq_some_iff.mp hses).1
      have hst : Leads world index fun reached =>
          reached.manager.distance < n ∧ reached.teardown = session.teardown := by
        refine .act (.manager index session.manager.last)
          (f := fun session c => session.advance c _) trivial rfl hses ?_
        rw [← hn]
        exact ⟨session.distance_advance _ hr, session.teardown_advance _ _⟩
      refine hst.bind hlt fun ne m hm ⟨hc, ht⟩ => ?_
      rw [← ht]
      exact ih _ hc hm rfl

theorem leads_done (hses : world.sessions[index]? = some session) (ha : session.teardown ≠ .active)
    (hm : session.manager.distance ≤ 7) :
    Leads world index fun reached => reached.teardown = .done := by
  induction hn : session.teardown.remaining using Nat.strong_induction_on
    generalizing world session with
  | _ n ih =>
    by_cases hd : session.teardown = .done
    · exact .here hses hd
    · have hlt := (List.getElem?_eq_some_iff.mp hses).1
      have ho : Orderly world (.teardown index) := by
        intro o ht
        cases hses.symm.trans ht
        exact overtakes_of_distance hm
      obtain ⟨ha', hl⟩ := session.remaining_tearDown world.counter ha hd
      have hst : Leads world index fun reached => reached.teardown ≠ .active ∧
          reached.teardown.remaining < n ∧ reached.manager.distance ≤ 7 := by
        refine .act (.teardown index) ho rfl hses ?_
        rw [← hn, manager_tearDown]
        exact ⟨ha', hl, hm⟩
      refine hst.bind hlt fun ne m hi ⟨hmo, hc, hs⟩ => ?_
      exact ih _ hc hi hmo hs rfl

theorem leads_stopped
    (hses : world.sessions[index]? = some session) (ha : session.teardown ≠ .active) :
    Leads world index fun reached => reached.manager = .stopped ∧ reached.teardown = .done := by
  have hlt := (List.getElem?_eq_some_iff.mp hses).1
  refine (leads_manager 7 hses).bind hlt fun n m hm ⟨hn, ht⟩ => ?_
  have hlt' := (List.getElem?_eq_some_iff.mp hm).1
  refine (leads_done hm (ht ▸ ha) hn).bind hlt' fun n l hl hd => ?_
  have hlt'' := (List.getElem?_eq_some_iff.mp hl).1
  refine (leads_manager 0 hl).bind hlt'' fun n reached hr ⟨hz, hs⟩ => ?_
  refine .here hr ⟨?_, hs.trans hd⟩
  cases hma : reached.manager <;> simp_all [distance]

/-- What can be reached for each session can be reached for all, one after the other. -/
theorem exists_orderly_of_leads {s goal : Session → Prop}
    (hle : ∀ (world : World) (index : Nat) session, world.sessions[index]? = some session →
      s session → Leads world index goal)
    (ha : ∀ session ∈ world.sessions, s session) (n : Nat)
    (hn : n ≤ world.sessions.length) :
    ∃ inputs, Along step Orderly world inputs ∧
      (run step world inputs).sessions.length = world.sessions.length ∧
      ∀ (j : Nat) session, (run step world inputs).sessions[j]? = some session →
        (j < n → goal session) ∧ (n ≤ j → s session) := by
  induction n with
  | zero =>
    refine ⟨[], trivial, rfl, fun j session he => ⟨by omega, fun _ => ?_⟩⟩
    exact ha session (mem_of_getElem? he)
  | succ n ih =>
    obtain ⟨f, hf, hl, ht⟩ := ih (by omega)
    have hlt : n < (run step world f).sessions.length := by omega
    have he := getElem?_eq_getElem hlt
    obtain ⟨b, session, hb, hs, hg⟩ := hle _ n _ he ((ht n _ he).2 (le_refl n))
    refine ⟨f ++ b, (along_append _ _ _ _ _).mpr ⟨hf, hb⟩, ?_, ?_⟩
    · rw [run_append, hs, length_set, hl]
    · intro j o hot
      rw [run_append, hs] at hot
      rcases getElem?_set_eq_some hot with ⟨rfl, rfl⟩ | ⟨hne, ho⟩
      · exact ⟨fun _ => hg, by omega⟩
      · exact ⟨fun hj => (ht j o ho).1 (by omega), fun hj => (ht j o ho).2 (by omega)⟩

theorem exists_orderly_gone (world : World) : ∃ inputs, Along step Orderly world inputs ∧
      ∀ peerId, (run step world inputs).Gone peerId := by
  have ha : ∀ s ∈ (step world .shutdown).2.sessions, s.teardown ≠ .active := by
    intro s hm
    obtain ⟨old, -, rfl⟩ := List.mem_map.mp hm
    exact old.teardown_remove_ne_active
  obtain ⟨inputs, ho, hl, hs⟩ := exists_orderly_of_leads
    (fun world i s he => leads_stopped he) ha _ (le_refl _)
  refine ⟨.shutdown :: inputs, ⟨trivial, ho⟩, fun peerId s hm _ => ?_⟩
  obtain ⟨j, hj⟩ := List.mem_iff_getElem?.mp hm
  rw [run_cons] at hj
  exact (hs j s hj).1 (hl ▸ (List.getElem?_eq_some_iff.mp hj).1)

theorem exposed_of_damaged (h : Damaged world) (hn : Numbered world) :
    ∃ inputs, Along step Orderly world inputs ∧ ¬ Faithful (run step world inputs) := by
  obtain ⟨inputs, hr, hg⟩ := exists_orderly_gone world
  refine ⟨inputs, hr, fun hf => ?_⟩
  have ha := h.run hn inputs
  cases ha with
  | disordered hd => exact hd (ordered_iff.mp hf.ordered)
  | overtaken i s he ho =>
    have hs := (hg s.peerId s (mem_of_getElem? he) rfl).1
    simp [Overtaken, hs] at ho
  | lost i s l _ _ _ _ hh =>
    exact hf.empty l hh (hg l.peerId)

/-! ## The event stream -/

theorem zero_notMem_readyGenerations (h : Numbered world) : 0 ∉ readyGenerations world.stream := by
  intro hm
  obtain ⟨e, he, hr⟩ := mem_filterMap.mp hm
  have hp := (h.sent e he).1
  rw [generation_of_readyGeneration hr] at hp
  exact Nat.lt_irrefl 0 hp

/-- In every run the generations of outbound `Ready` events are different and not zero. The rest of
what the stream promises holds, now and however the run goes on in order, exactly in the runs whose
steps are all in order. -/
theorem event_stream_faithful_iff (inputs : List Input) :
    ((readyGenerations (run step new inputs).stream).Nodup ∧
        0 ∉ readyGenerations (run step new inputs).stream) ∧
      ((∀ more, Along step Orderly (run step new inputs) more →
          Faithful (run step new (inputs ++ more))) ↔
        Along step Orderly new inputs) := by
  have hn := Numbered.run inputs
  refine ⟨⟨hn.distinct, zero_notMem_readyGenerations hn⟩, ?_⟩
  constructor
  · intro hf
    by_contra hd
    obtain ⟨f, i, b, rfl, hr, hi⟩ := exists_of_not_along hd
    have hda := (Settled.new.run hr).damaged_of_not_orderly hi
    have ha := hda.run ((Numbered.run f).step i) b
    rw [← run_cons, ← run_append] at ha
    obtain ⟨more, hm, hb⟩ := exposed_of_damaged ha hn
    rw [← run_append] at hb
    exact hb (hf more hm)
  · intro ho more hm
    exact (Settled.new.run ((along_append _ _ _ _ _).mpr ⟨ho, hm⟩)).faithful

/-- A peer on a relay is added, announced and removed, and its manager is aborted in its loop. -/
def announcedThenRemoved : List Input :=
  [.addPeer "peer", .manager 0 (.connect true), .manager 0 .proceed, .manager 0 .proceed,
    .manager 0 .proceed, .manager 0 .proceed, .removePeer "peer", .teardown 0, .teardown 0,
    .teardown 0, .teardown 0, .teardown 0, .cancel 0]

theorem announced_then_removed_faithful : (run step new announcedThenRemoved).Gone "peer" ∧
      Faithful (run step new announcedThenRemoved) := by
  refine ⟨by decide +kernel, ?_⟩
  have ho : Along step Orderly new announcedThenRemoved := by decide +kernel
  simpa using (event_stream_faithful_iff announcedThenRemoved).2.mpr ho [] trivial

/-- The same on a direct path, where the removal takes the lease between its publication and its
`Ready`. -/
def removedBeforeReady : List Input :=
  [.addPeer "peer", .manager 0 (.connect false), .manager 0 .proceed, .manager 0 .proceed,
    .removePeer "peer", .teardown 0, .teardown 0, .manager 0 .proceed, .teardown 0, .teardown 0,
    .teardown 0, .cancel 0]

theorem removed_before_ready_unfaithful : (run step new removedBeforeReady).stream =
        [.cleared "peer" .outbound 1, .ready ⟨"peer", .outbound, 1⟩, .cleared "peer" .inbound 1] ∧
      (run step new removedBeforeReady).Gone "peer" ∧
      consume (run step new removedBeforeReady).stream = {⟨"peer", .outbound, 1⟩} ∧
      ¬ Faithful (run step new removedBeforeReady) := by
  have hg : (run step new removedBeforeReady).Gone "peer" := by decide +kernel
  have hh : consume (run step new removedBeforeReady).stream =
      {⟨"peer", .outbound, 1⟩} := by decide +kernel
  refine ⟨by decide +kernel, hg, hh, fun hf => ?_⟩
  exact hf.empty ⟨"peer", .outbound, 1⟩ (by rw [hh]; simp) hg

end QuantumLink.Transport
