import QuantumLink.Relay.Moves

/-! # What an ended connection leaves behind

Most ways out of a handler end its registration, but an error that is passed on by `?` does
not: the revocation list cannot be read, or the write to a destination fails. Then the entry of
the peer stays in `peers` and the peer cannot register again. The entries of the other two
tables do not tell who made them, so a run keeps a record of it.
-/

namespace QuantumLink.Relay

open Device (QlinkError)
open Json (stringBytes)
open Connection

variable {config : RelayConfig} {id : ConnId} {world : World} {limiter : AdmissionLimiter}

/-! ## Who made an entry -/

/-- The handlers that made the entries of the two tables. -/
structure Creators where
  digest : String → Option ConnId
  bucket : String → Option ConnId

/-- The step makes, or makes anew, the digest entry of a peer. -/
def digestCreated (s : RelayState) : Event → Option (String × ConnId)
  | .resume id _ =>
    match (s.connections[id]?).map point with
    | some (.recording peerId _) => some (peerId, id)
    | _ => none
  | _ => none

/-- The step makes the bucket of a peer. -/
def bucketCreated (s : RelayState) : Event → Option (String × ConnId)
  | .resume id _ =>
    match (s.connections[id]?).map point with
    | some (.counting d _) =>
      if (s.registry.peerDatagramBuckets.lookup d.source).isNone then some (d.source, id)
      else none
    | _ => none
  | _ => none

/-- Who made the entry of a peer, after a step: nobody if there is none. -/
def creatorAfter (present : Bool) (created : Option (String × ConnId)) (peerId : String)
    (before : Option ConnId) : Option ConnId :=
  if present then
    match created with
    | some (made, id) => if made = peerId then some id else before
    | none => before
  else none

def recordCreators (config : RelayConfig) (s : RelayState) (event : Event)
    (creators : Creators) : Creators where
  digest peerId :=
    creatorAfter ((step config s event).2.registry.peerAuthTokenDigests.lookup peerId).isSome
      (digestCreated s event) peerId (creators.digest peerId)
  bucket peerId :=
    creatorAfter ((step config s event).2.registry.peerDatagramBuckets.lookup peerId).isSome
      (bucketCreated s event) peerId (creators.bucket peerId)

/-- The state after a run, with the record of who made the entries. -/
def history (config : RelayConfig) (events : List Event) : RelayState × Creators :=
  run (withRecord (step config) (recordCreators config))
    (RelayState.new, ⟨fun _ => none, fun _ => none⟩) events

/-- No table holds an entry made by a connection whose handler has returned. -/
def Tidy (s : RelayState × Creators) : Prop :=
  ∀ (id : ConnId) (conn : Connection), s.1.connections[id]? = some conn →
    conn.point.isReturned = true → ∀ peerId,
      s.1.registry.peers.lookup peerId ≠ some id ∧ s.2.digest peerId ≠ some id ∧
        s.2.bucket peerId ≠ some id

/-- No step of a registered handler meets an error that `?` passes on. -/
def Clean (config : RelayConfig) (s : RelayState) : Event → Prop
  | .accept _ => True
  | .deliver id reads world =>
    ∀ (conn : Connection) (peerId : String) (authToken : Option String),
      s.connections[id]? = some conn → conn.point = .reading → conn.registeredPeer ≠ none →
      Consults config world reads s.limiter conn peerId authToken →
      (config.admission.tokenIsRevoked world.revocationList authToken).isOk = true
  | .resume id world =>
    ∀ (conn : Connection) (d : Datagram), s.connections[id]? = some conn →
      (conn.point = .authorizing d →
        (config.admission.tokenDigestIsRevoked world.revocationList
          (s.registry.peerAuthTokenDigests.lookup d.source)).isOk = true) ∧
      (conn.point = .forwarding d → s.peersLocked = false →
        (s.registry.peers.lookup d.destination).isSome = true → world.write.isOk = true)

inductive Store where
  | peers
  | digests
  | buckets

/-- The handler that the entry of a peer belongs to. -/
def holder (s : RelayState × Creators) : Store → String → Option ConnId
  | .peers, peerId => s.1.registry.peers.lookup peerId
  | .digests, peerId => s.2.digest peerId
  | .buckets, peerId => s.2.bucket peerId

/-- The peer id whose entry the handler has still to remove. -/
def Connection.holds (conn : Connection) : Store → Option String
  | .peers => conn.listed
  | .digests =>
    match conn.point with
    | .forgetting peerId _ => some peerId
    | _ => conn.listed
  | .buckets =>
    match conn.point with
    | .forgetting peerId _ | .releasing peerId _ => some peerId
    | _ => conn.listed

/-- Every entry belongs to a handler that has still to remove it. -/
def Held (s : RelayState × Creators) : Prop :=
  ∀ (store : Store) (peerId : String) (id : ConnId), holder s store peerId = some id →
    ∃ conn : Connection, s.1.connections[id]? = some conn ∧ conn.holds store = some peerId

variable {conn : Connection}

theorem Connection.holds_returned (h : conn.point.isReturned = true)
    (store : Store) : conn.holds store = none := by
  obtain ⟨r, hp⟩ := Point.exists_of_isReturned h
  cases store <;> simp [holds, listed, hp]

variable {s : RelayState × Creators}

theorem Held.tidy (h : Held s) : Tidy s := by
  intro id c hc hr p
  have hn (store : Store) : holder s store p ≠ some id := by
    intro hho
    obtain ⟨other, ho, hh⟩ := h store p id hho
    cases hc.symm.trans ho
    rw [holds_returned hr] at hh
    cases hh
  exact ⟨hn .peers, hn .digests, hn .buckets⟩

variable {peerId : String}

theorem creatorAfter_eq_some (h : creatorAfter present created peerId before = some id) :
    present = true ∧ (created = some (peerId, id) ∨ before = some id) := by
  unfold creatorAfter at h
  cases present with
  | false => cases h
  | true =>
    refine ⟨rfl, ?_⟩
    rcases created with _ | ⟨m, ma⟩
    · exact .inr h
    · by_cases hm : m = peerId
      · simp only [hm, if_true] at h
        exact .inl (by rw [hm, Option.some.inj h])
      · simp only [hm, if_false] at h
        exact .inr h

/-- The handler has begun to remove its entries. -/
def Point.isEnding : Point → Bool
  | .forgetting _ _ | .releasing _ _ | .returned _ => true
  | _ => false

namespace Connection

theorem holds_eq_listed {conn : Connection} (h : conn.point.isEnding = false) (store : Store) :
    conn.holds store = conn.listed := by
  cases store with
  | peers => rfl
  | digests =>
    simp only [holds]
    split
    · next hp => rw [hp] at h; cases h
    · rfl
  | buckets =>
    simp only [holds]
    split
    · next hp => rw [hp] at h; cases h
    · next hp => rw [hp] at h; cases h
    · rfl

theorem holds_leave (conn : Connection) (r : Except QlinkError Unit) (store : Store) :
    (conn.leave r).holds store = conn.registeredPeer := by
  cases hp : conn.registeredPeer with
  | none =>
    rw [leave_of_none hp]
    exact holds_returned rfl store
  | some p =>
    rw [leave_of_some hp, holds_eq_listed rfl]
    exact hp

end Connection

variable {conn' : Connection} {sent : List Sent}

theorem Received.holds {re : List Read} (hco : conn.Consistent) (ho : conn.point = .reading)
    (hl : conn.registeredPeer ≠ none → ∀ peerId authToken,
      Consults config world re limiter conn peerId authToken →
        (config.admission.tokenIsRevoked world.revocationList authToken).isOk = true)
    (hm : Received config id world re limiter conn conn' sent) (store : Store) :
    conn'.holds store = conn.holds store := by
  have hh : conn.holds store = conn.registeredPeer := by
    rw [holds_eq_listed (by simp [ho, Point.isEnding])]
    simp [listed, ho]
  rw [hh]
  cases hm with
  | stayed => exact hh
  | left r => exact holds_leave conn r store
  | refused m hp hw => exact holds_leave conn _ store
  | unwritten err hp hw =>
    rw [holds_returned rfl, hco.pending hp]
  | unreadable peerId authToken error hc he =>
    rw [holds_returned rfl]
    by_contra hr
    have hk := hl (fun hn => hr hn.symm) peerId authToken hc
    rw [he] at hk
    cases hk
  | registering peerId authToken hp | authorizing d ha hs => exact holds_eq_listed rfl store

def RelayRegistry.has (registry : RelayRegistry) : Store → String → Bool
  | .peers, peerId => (registry.peers.lookup peerId).isSome
  | .digests, peerId => (registry.peerAuthTokenDigests.lookup peerId).isSome
  | .buckets, peerId => (registry.peerDatagramBuckets.lookup peerId).isSome

variable {store : Store}

/-- What the handler has to remove, it has still to remove after the step or has removed. -/
theorem Resumed.holds {registry registry' : RelayRegistry} (hco : conn.Consistent)
    (ha : ∀ d, conn.point = .authorizing d →
      (config.admission.tokenDigestIsRevoked world.revocationList
        (registry.peerAuthTokenDigests.lookup d.source)).isOk = true)
    (hw : ∀ d, conn.point = .forwarding d →
      (registry.peers.lookup d.destination).isSome = true → world.write.isOk = true)
    (hm : Resumed config id world registry conn conn' sent registry')
    (h : conn.holds store = some peerId) :
    conn'.holds store = some peerId ∨ registry'.has store peerId = false := by
  have hi := hco.fits
  -- before the end of the registration, every store is held under the same peer id
  have hl (he : conn.point.isEnding = false) : conn.listed = some peerId := by
    rw [← holds_eq_listed he store]
    exact h
  have hs {d : Datagram} (hc : conn.point = .authorizing d ∨ conn.point = .metering d ∨
      (∃ now, conn.point = .counting d now) ∨ conn.point = .forwarding d) :
      conn.registeredPeer = some peerId := by
    rcases hc with ho | ho | ⟨now, ho⟩ | ho <;>
      simpa [listed, ho] using hl (by simp [ho, Point.isEnding])
  have hu {p : String} {t : Option String} (ho : conn.point = .registering p t) :
      False := by
    have hno := hl (by simp [ho, Point.isEnding])
    rw [ho] at hi
    simp [listed, ho, hi.1] at hno
  cases hm with
  | stayed ho => exact .inl h
  | refused p t m ho | unwritten p t err ho => exact (hu ho).elim
  | enlisted p ho hfr hro | enlistedWith p t ho hfr hro => exact (hu ho).elim
  | recorded p t ho =>
    have hp := hl (by simp [ho, Point.isEnding])
    simp only [listed, ho] at hp
    exact .inl ((holds_eq_listed rfl store).trans hp)
  | unreadable d error ho hre =>
    have hk := ha d ho
    rw [hre] at hk
    cases hk
  | revoked d ho | authorized d ho =>
    exact .inl ((holds_eq_listed rfl store).trans (hs (.inl ho)))
  | unmetered d ho | metered d ho =>
    exact .inl ((holds_eq_listed rfl store).trans (hs (.inr (.inl ho))))
  | counted d now conn' ho hn =>
    have hr := hs (.inr (.inr (.inl ⟨now, ho⟩)))
    rcases hn with rfl | ⟨error, rfl⟩
    · exact .inl ((holds_eq_listed rfl store).trans hr)
    · exact .inl ((holds_leave conn _ store).trans hr)
  | forwarded d w ho hf | undelivered d ho =>
    exact .inl ((holds_eq_listed rfl store).trans (hs (.inr (.inr (.inr ho)))))
  | unforwarded d w err ho hf her =>
    have hk := hw d ho (by rw [hf]; rfl)
    rw [her] at hk
    cases hk
  | unlisted p r ho =>
    have hr : conn.registeredPeer = some peerId := by
      simpa [listed, ho] using hl (by simp [ho, Point.isEnding])
    rw [ho] at hi
    cases hi.symm.trans hr
    cases store with
    | peers => exact .inr (by simp [RelayRegistry.has])
    | digests | buckets => exact .inl rfl
  | forgotten p r ho =>
    cases store with
    | peers => simp [holds, listed, ho] at h
    | digests =>
      obtain rfl : p = peerId := by simpa [holds, ho] using h
      exact .inr (by simp [RelayRegistry.has])
    | buckets =>
      obtain rfl : p = peerId := by simpa [holds, ho] using h
      exact .inl rfl
  | released p r ho =>
    cases store with
    | peers | digests => simp [holds, listed, ho] at h
    | buckets =>
      obtain rfl : p = peerId := by simpa [holds, ho] using h
      exact .inr (by simp [RelayRegistry.has])

variable {j : ConnId}

/-- A handler that makes an entry is one that has to remove it. -/
theorem holds_of_created {s : RelayState}
    (hn : conn.Consistent) (ho : s.connections[id]? = some conn) :
    (digestCreated s (.resume id world) = some (peerId, j) →
        j = id ∧ conn.holds .digests = some peerId) ∧
      (bucketCreated s (.resume id world) = some (peerId, j) →
        j = id ∧ conn.holds .buckets = some peerId) := by
  have hf := hn.fits
  constructor
  · intro hc
    simp only [digestCreated, ho, Option.map_some] at hc
    split at hc
    · next p t hp =>
        have hp : conn.point = .recording p t := Option.some.inj hp
        cases hc
        exact ⟨rfl, by simp [holds, listed, hp]⟩
    · cases hc
  · intro hc
    simp only [bucketCreated, ho, Option.map_some] at hc
    split at hc
    · next d now hp =>
        have hp : conn.point = .counting d now := Option.some.inj hp
        split_ifs at hc
        cases hc
        rw [hp] at hf
        have hr : conn.registeredPeer = some d.source := hf
        exact ⟨rfl, by simpa [holds, listed, hp] using hr⟩
    · cases hc

abbrev stepCreators (config : RelayConfig) (s : RelayState × Creators) (event : Event) :
    RelayState × Creators :=
  (withRecord (step config) (recordCreators config) s event).2

/-- After the step of a handler, an entry is there and was before or is one that the handler had
to remove, or has to remove now. -/
theorem holder_cases {registry' : RelayRegistry}
    (hco : conn.Consistent) (hcon : s.1.connections[id]? = some conn)
    (hm : Resumed config id world s.1.registry conn conn' sent registry')
    (hr : (step config s.1 (.resume id world)).2.registry = registry')
    (h : holder (stepCreators config s (.resume id world)) store peerId = some j) :
    registry'.has store peerId = true ∧ (holder s store peerId = some j ∨
        j = id ∧ (conn.holds store = some peerId ∨ conn'.holds store = some peerId)) := by
  cases store with
  | peers =>
    simp only [holder, stepCreators, withRecord, hr] at h
    refine ⟨by simp [RelayRegistry.has, h], ?_⟩
    have hp := hm.relisted hco
    generalize registry'.peers = peers at hp h
    cases hp with
    | kept hl => exact .inl h
    | added added hne hf hro hl =>
      rcases Table.lookup_insert_eq_some h with ⟨rfl, rfl⟩ | ⟨_, ho⟩
      · exact .inr ⟨rfl, .inr hl⟩
      · exact .inl ho
    | removed removed hl hn => exact .inl (Table.lookup_erase_eq_some h).2
  | digests =>
    simp only [holder, stepCreators, withRecord, recordCreators, hr] at h
    obtain ⟨ha, hc | hb⟩ := creatorAfter_eq_some h
    · obtain ⟨hd, hh⟩ := (holds_of_created hco hcon).1 hc
      exact ⟨ha, .inr ⟨hd, .inl hh⟩⟩
    · exact ⟨ha, .inl hb⟩
  | buckets =>
    simp only [holder, stepCreators, withRecord, recordCreators, hr] at h
    obtain ⟨ha, hc | hb⟩ := creatorAfter_eq_some h
    · obtain ⟨hd, hh⟩ := (holds_of_created hco hcon).2 hc
      exact ⟨ha, .inr ⟨hd, .inl hh⟩⟩
    · exact ⟨ha, .inl hb⟩

variable {event : Event}

theorem holder_of_not_created (hd : digestCreated s.1 event = none)
    (hu : bucketCreated s.1 event = none)
    (hr : (step config s.1 event).2.registry = s.1.registry)
    (h : holder (stepCreators config s event) store peerId = some j) :
    holder s store peerId = some j := by
  cases store with
  | peers => simpa only [holder, stepCreators, withRecord, hr] using h
  | digests =>
    obtain ⟨-, hc | hb⟩ := creatorAfter_eq_some h
    · rw [hd] at hc
      cases hc
    · exact hb
  | buckets =>
    obtain ⟨-, hc | hb⟩ := creatorAfter_eq_some h
    · rw [hu] at hc
      cases hc
    · exact hb

theorem not_created_of_not_resume {s : RelayState} (he : ∀ id world, event ≠ .resume id world) :
    digestCreated s event = none ∧ bucketCreated s event = none := by
  cases event with
  | resume id world => exact absurd rfl (he id world)
  | _ => exact ⟨rfl, rfl⟩

theorem not_created_of_locksPeers {s : RelayState} (world : World)
    (h : ∀ conn, s.connections[id]? = some conn → conn.point.locksPeers = true) :
    digestCreated s (.resume id world) = none ∧ bucketCreated s (.resume id world) = none := by
  cases hc : s.connections[id]? with
  | none => simp [digestCreated, bucketCreated, hc]
  | some conn =>
    have hl := h conn hc
    cases hp : conn.point with
    | registering p a | forwarding d => simp [digestCreated, bucketCreated, hc, hp]
    | unlisting p r => simp [digestCreated, bucketCreated, hc, hp]
    | _ => rw [hp] at hl; cases hl

/-- A clean step leaves every entry to a handler that has still to remove it. -/
theorem step_held (hw : s.1.WellFormed) (h : Held s) (event : Event)
    (hl : Clean config s.1 event) : Held (stepCreators config s event) := by
  intro st pe j hho
  have ht := step_stepped config s.1 event
  have hn : (stepCreators config s event).1 = (step config s.1 event).2 := rfl
  rw [hn]
  generalize (step config s.1 event).1 = sent at ht
  generalize ha : (step config s.1 event).2 = next at ht ⊢
  cases ht with
  | ignored event he =>
    obtain ⟨hd, hb⟩ := not_created_of_not_resume (s := s.1) he
    exact h st pe j
      (holder_of_not_created hd hb (by rw [ha]) hho)
  | blocked id w hbl =>
    obtain ⟨hd, hb⟩ := not_created_of_locksPeers w
      (fun conn hc => (hbl conn hc).1)
    exact h st pe j
      (holder_of_not_created hd hb (by rw [ha]) hho)
  | accepted pr =>
    obtain ⟨conn, hc, hh⟩ := h st pe j
      (holder_of_not_created rfl rfl (by rw [ha]) hho)
    exact ⟨conn, getElem?_concat_eq_some_iff.mpr (.inl hc), hh⟩
  | received id reads w conn conn' sent limiter hc hp hm =>
    obtain ⟨other, ho, hh⟩ := h st pe j
      (holder_of_not_created rfl rfl (by rw [ha]) hho)
    have hk := hm.holds (hw.consistent id conn hc) hp
      (fun hr p t hco => hl conn p t hc hp hr hco) st
    by_cases hj : j = id
    · subst hj
      cases hc.symm.trans ho
      exact ⟨conn', List.getElem?_set_self (List.getElem?_eq_some_iff.mp hc).1, hk.trans hh⟩
    · exact ⟨other, by rw [List.getElem?_set_ne (Ne.symm hj)]; exact ho, hh⟩
  | resumed id w conn conn' sent registry hc hu hm =>
    have hcon := hw.consistent id conn hc
    have hk {p : String} (hh : conn.holds st = some p) :=
      hm.holds hcon (fun d hp => (hl conn d hc).1 hp)
        (fun d hp => (hl conn d hc).2 hp (hu (by rw [hp]; rfl))) hh
    have hs : (s.1.connections.set id conn')[id]? = some conn' :=
      List.getElem?_set_self (List.getElem?_eq_some_iff.mp hc).1
    obtain ⟨hha, hbe | ⟨rfl, hi⟩⟩ := holder_cases hcon hc hm (by rw [ha]) hho
    · obtain ⟨other, ho, hh⟩ := h st pe j hbe
      by_cases hj : j = id
      · subst hj
        cases hc.symm.trans ho
        rcases hk hh with hh' | hg
        · exact ⟨conn', hs, hh'⟩
        · rw [hha] at hg
          cases hg
      · exact ⟨other, by rw [List.getElem?_set_ne (Ne.symm hj)]; exact ho, hh⟩
    · refine ⟨conn', hs, ?_⟩
      rcases hi with hh | hh'
      · rcases hk hh with hh' | hg
        · exact hh'
        · rw [hha] at hg
          cases hg
      · exact hh'

theorem history_fst (config : RelayConfig) (events : List Event) :
    (history config events).1 = run (step config) RelayState.new events :=
  run_withRecord_fst _ _ _ events

theorem history_held (hc : Along (step config) (Clean config) RelayState.new events) :
    Held (history config events) := by
  have ha := (along_withRecord (step config) (recordCreators config) (Clean config)
    (RelayState.new, ⟨fun _ => none, fun _ => none⟩) events).mpr hc
  have hb := run_invariant_along (fun s : RelayState × Creators => s.1.WellFormed ∧ Held s)
    (fun s e h hc =>
      ⟨(step_stepped config s.1 e).wellFormed h.1, step_held h.1 h.2 e hc⟩)
    ⟨wellFormed_new, by intro st p id hh; cases st <;> cases hh⟩ ha
  exact hb.2

/-! ## Errors that are passed on -/

theorem not_tidy_of_quit (error : QlinkError) (limiter : AdmissionLimiter) (hw : s.1.WellFormed)
    (hc : s.1.connections[id]? = some conn) (hl : conn.listed = some peerId)
    (hn : (step config s.1 event).2 =
      { s.1 with limiter, connections := s.1.connections.set id (conn.quit error) }) :
    ¬ Tidy (stepCreators config s event) := by
  intro ht
  have hs : (step config s.1 event).2.connections[id]? = some (conn.quit error) := by
    rw [hn]
    exact List.getElem?_set_self (List.getElem?_eq_some_iff.mp hc).1
  have hg := (ht id (conn.quit error) hs rfl peerId).1
  have hr : (stepCreators config s event).1.registry = s.1.registry := by
    show (step config s.1 event).2.registry = s.1.registry
    rw [hn]
  rw [hr] at hg
  exact hg (hw.owner id conn peerId hc hl)

theorem receive_unreadable (id : ConnId)
    (hc : Consults config world reads limiter conn peerId authToken)
    (hr : config.admission.tokenIsRevoked world.revocationList authToken = .error error) :
    (conn.receive config id world reads limiter).1 = (conn.quit error, []) := by
  obtain ⟨⟨l, hl, hm⟩, ha, hs⟩ := hc
  unfold receive
  rw [hl]
  rcases hh : limiter.check config.admission.rateLimit world.now conn.peerIp "relay" with
    ⟨result, rest⟩
  rw [hh] at ha
  obtain rfl : result = .ok () := ha
  simp only [hm, message, register]
  rw [if_neg (by omega), hr]

theorem exists_error_of_not_isOk {ε α : Type} {r : Except ε α} (h : ¬ r.isOk = true) :
    ∃ error, r = .error error := by
  cases r with
  | ok v => exact absurd rfl h
  | error error => exact ⟨error, rfl⟩

theorem not_tidy_of_not_clean (event : Event)
    (hw : s.1.WellFormed) (hu : ¬ Clean config s.1 event) :
    ¬ Tidy (stepCreators config s event) := by
  cases event with
  | accept pe => exact absurd trivial hu
  | deliver id r w =>
    simp only [Clean, not_forall] at hu
    obtain ⟨c, p, t, hc, hp, hr, hco, hn⟩ := hu
    obtain ⟨error, he⟩ := exists_error_of_not_isOk hn
    obtain ⟨peerId, hpe⟩ := Option.ne_none_iff_exists'.mp hr
    have hl : c.listed = some peerId := by simpa [listed, hp] using hpe
    have hre := receive_unreadable id hco he
    refine not_tidy_of_quit error (c.receive config id w r s.1.limiter).2 hw hc
      hl ?_
    simp [step, hc, hp, Point.isReading, hre]
  | resume id w =>
    simp only [Clean, not_forall] at hu
    obtain ⟨c, d, hc, hb⟩ := hu
    have ho := hw.consistent id c hc
    rw [not_and_or] at hb
    rcases hb with ha | hwr
    · simp only [not_forall] at ha
      obtain ⟨hp, hn⟩ := ha
      obtain ⟨error, he⟩ := exists_error_of_not_isOk hn
      have hl : c.listed = some d.source := by
        simpa [listed, hp] using ho.sending (.inl hp)
      refine not_tidy_of_quit error s.1.limiter hw hc hl ?_
      simp [step, hc, hp, Point.locksPeers, resume, authorize, he]
    · simp only [not_forall] at hwr
      obtain ⟨hp, hun, hf, hn⟩ := hwr
      obtain ⟨err, he⟩ := exists_error_of_not_isOk hn
      obtain ⟨wr, hi⟩ := Option.isSome_iff_exists.mp hf
      have hl : c.listed = some d.source := by
        simpa [listed, hp] using
          ho.sending (.inr (.inr (.inr hp)))
      refine not_tidy_of_quit (.io err) s.1.limiter hw hc hl ?_
      simp [step, hc, hp, hun, resume, forward, hi, he]

/-- **Cleanup.** The entries of every connection are gone once its handler has returned, in every
state of a run, exactly when no step of the run passes on an error of a registered handler: the
revocation list can be read whenever one looks into it, and every write to a registered
destination succeeds. -/
theorem registrations_tidy_iff (config : RelayConfig) (events : List Event) :
    (∀ front back, events = front ++ back → Tidy (history config front)) ↔
      Along (step config) (Clean config) RelayState.new events := by
  constructor
  · intro ht
    induction events using List.reverseRecOn with
    | nil => trivial
    | append_singleton events e ih =>
      rw [along_append]
      refine ⟨ih (fun front back hcu => ht front (back ++ [e]) (by simp [hcu])), ?_, trivial⟩
      by_contra hu
      have hw : (history config events).1.WellFormed := by
        rw [history_fst]
        exact run_wellFormed config events
      refine not_tidy_of_not_clean e hw (by rw [history_fst]; exact hu) ?_
      have he := ht (events ++ [e]) [] (by simp)
      rwa [history, run_concat] at he
  · rintro hc front back rfl
    rw [along_append] at hc
    exact (history_held hc.1).tidy

/-- The write to the destination of the first datagram fails. -/
def failedForward : List Cue :=
  [.accept "192.0.2.1", .accept "192.0.2.2",
    .hear 0 (.register "alice" none) (sampleWorld 0), .resume 0 (sampleWorld 0),
    .hear 1 (.register "bob" none) (sampleWorld 0), .resume 1 (sampleWorld 0),
    .hear 0 (.datagram ⟨"alice", "bob", "aGk="⟩) (sampleWorld 0), .resume 0 (sampleWorld 0),
    .resume 0 (sampleWorld 0), .resume 0 (sampleWorld 0),
    .resume 0 { sampleWorld 0 with write := .error "broken pipe" },
    .accept "192.0.2.1", .hear 2 (.register "alice" none) (sampleWorld 0)]

/-- The handler of the first connection has returned with the error, its entry is still there,
and the peer is refused on another connection. -/
theorem failed_forward_keeps_registration :
    ((history sampleConfig (failedForward.map Cue.event)).1.connections[0]?).map point =
        some (.returned (.error (.io "broken pipe"))) ∧
      (history sampleConfig (failedForward.map Cue.event)).1.registry.peers.lookup "alice" =
        some 0 ∧
      (step sampleConfig (history sampleConfig (failedForward.map Cue.event)).1
          (.resume 2 (sampleWorld 0))).1 =
        [(2, (RelayMessage.error "relay peer ID is already registered").toLine)] ∧
      ¬ Tidy (history sampleConfig (failedForward.map Cue.event)) := by
  have hu : (history sampleConfig (failedForward.map Cue.event)).1 =
      run (cueStep sampleConfig) RelayState.new failedForward := by
    rw [history_fst, run_events sampleConfig rfl rfl RelayState.new failedForward (by decide)]
  have hp : ((history sampleConfig (failedForward.map Cue.event)).1.connections[0]?).map
      point = some (.returned (.error (.io "broken pipe"))) := by
    rw [hu]
    rfl
  have hl : (history sampleConfig (failedForward.map Cue.event)).1.registry.peers.lookup
      "alice" = some 0 := by
    rw [hu]
    rfl
  refine ⟨hp, hl, by rw [hu]; rfl, ?_⟩
  intro ht
  obtain ⟨c, hc, hr⟩ := Option.map_eq_some_iff.mp hp
  exact (ht 0 c hc (by rw [hr]; rfl) "alice").1 hl

end QuantumLink.Relay
