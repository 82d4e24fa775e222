import QuantumLink.Foundation.Shake256
import QuantumLink.Frame.Protector

/-! # A protected channel

One protector sends, another receives, and whatever is between them decides what is
delivered and when. Over every interleaving: what is opened was sent, nothing is opened
twice, a failed call changes nothing, and a frame that was sent and is inside the replay
window is opened. The one assumption is that a tag which verifies was computed by the sender.
-/

namespace QuantumLink.Frame

open Device (QlinkError)
open Session (SessionKeys)
open PqcFrameProtector List Except

structure Channel where
  sender : PqcFrameProtector
  receiver : PqcFrameProtector

inductive Event where
  | send (payload : Bytes)
  | deliver (bytes : Bytes)

def Channel.start (sender receiver : SessionKeys) : Channel := ⟨.new sender, .new receiver⟩

def step (xof : Xof) (channel : Channel) : Event → Except QlinkError Bytes × Channel
  | .send payload =>
    let (result, sender) := channel.sender.protect xof payload
    (result, { channel with sender := sender })
  | .deliver bytes =>
    let (result, receiver) := channel.receiver.openFrame xof bytes
    (result, { channel with receiver := receiver })

abbrev Call := Event × Except QlinkError Bytes

/-- The calls of a run from two new protectors. -/
def calls (xof : Xof) (sender receiver : SessionKeys) (events : List Event) : List Call :=
  trace (step xof) (Channel.start sender receiver) events

def reach (xof : Xof) (sender receiver : SessionKeys) (events : List Event) : Channel :=
  run (step xof) (Channel.start sender receiver) events

/-- Call `i` protected a payload as a frame. -/
def Sent (log : List Call) (i : Nat) (payload frame : Bytes) : Prop :=
  log[i]? = some (Event.send payload, ok frame)

/-- Call `j` opened a frame and returned a payload. -/
def Opened (log : List Call) (j : Nat) (bytes payload : Bytes) : Prop :=
  log[j]? = some (Event.deliver bytes, ok payload)

def sentCounter : Call → Option Nat
  | (.send _, .ok frame) => some (frameCounter frame)
  | _ => none

def openedCounter : Call → Option Nat
  | (.deliver bytes, .ok _) => some (frameCounter bytes)
  | _ => none

/-- Whenever a delivered frame verifies, the sender has computed that tag: a frame it sent
before absorbed the same bytes. -/
def Authentic (xof : Xof) (sender receiver : SessionKeys) (events : List Event) : Prop :=
  ∀ front bytes back, events = front ++ .deliver bytes :: back →
    Verifies xof receiver.suite receiver.rxKey bytes →
    ∃ i payload frame, Sent (calls xof sender receiver front) i payload frame ∧
      tagInput receiver.suite receiver.rxKey frame = tagInput receiver.suite receiver.rxKey bytes

section

variable {log : List Call} {call : Call} {i j : Nat} {payload bytes : Bytes} {error : QlinkError}

theorem sent_concat_iff : Sent (log ++ [call]) i payload bytes ↔
      Sent log i payload bytes ∨ i = log.length ∧ call = (Event.send payload, ok bytes) :=
  getElem?_concat_eq_some_iff

theorem opened_concat_iff : Opened (log ++ [call]) j bytes payload ↔ Opened log j bytes payload ∨
        j = log.length ∧ call = (Event.deliver bytes, ok payload) :=
  getElem?_concat_eq_some_iff

theorem Sent.lt_length (h : Sent log i payload bytes) : i < log.length :=
  (List.getElem?_eq_some_iff.mp h).1

variable {payload' : Bytes}

theorem sent_unique (hn : (log.filterMap sentCounter).Nodup)
    (hi : Sent log i payload bytes) (hj : Sent log j payload' bytes) : i = j :=
  index_eq_of_nodup_filterMap hn hi hj rfl rfl

theorem Sent.frame_eq (hn : (log.filterMap sentCounter).Nodup)
    (hi : Sent log i payload bytes) (hj : Sent log j payload' frame)
    (hc : frameCounter bytes = frameCounter frame) : bytes = frame := by
  obtain rfl := index_eq_of_nodup_filterMap hn hi hj rfl (congrArg some hc.symm)
  have hs := Option.mem_unique hi hj
  exact ok.inj (congrArg Prod.snd hs)

theorem opened_unique (hn : (log.filterMap openedCounter).Nodup)
    (hi : Opened log i bytes payload) (hj : Opened log j bytes payload') : i = j :=
  index_eq_of_nodup_filterMap hn hi hj rfl rfl

def openedCounters (log : List Call) : Set Nat := {n | n ∈ log.filterMap openedCounter}

theorem mem_openedCounters_iff :
    n ∈ openedCounters log ↔ ∃ j bytes payload, Opened log j bytes payload ∧ frameCounter bytes = n := by
  constructor
  · intro hn
    obtain ⟨⟨e, r⟩, hm, hc⟩ := mem_filterMap.mp hn
    obtain ⟨j, hj⟩ := mem_iff_getElem?.mp hm
    cases e with
    | send payload => simp [openedCounter] at hc
    | deliver bytes =>
      cases r with
      | error error => simp [openedCounter] at hc
      | ok payload => exact ⟨j, bytes, payload, hj, Option.some.inj hc⟩
  · intro h
    obtain ⟨j, bytes, payload, hj, hc⟩ := h
    exact mem_filterMap.mpr ⟨_, mem_of_getElem? hj, congrArg some hc⟩

end

structure Invariant (xof : Xof) (sender receiver : SessionKeys) (log : List Call)
    (channel : Channel) : Prop where
  senderKeys : channel.sender.suite = sender.suite ∧ channel.sender.txKey = sender.txKey
  receiverKeys : channel.receiver.suite = receiver.suite ∧ channel.receiver.rxKey = receiver.rxKey
  counter : 0 < channel.sender.nextTxCounter ∧ channel.sender.nextTxCounter < 2 ^ 64
  sent : ∀ i payload frame, Sent log i payload frame →
    payload.length < 2 ^ 32 ∧ ∃ n, n ≠ 0 ∧ n < channel.sender.nextTxCounter ∧
      frame = protectedFrame xof sender.suite sender.txKey n payload
  sentOnce : (log.filterMap sentCounter).Nodup
  opened : ∀ j bytes payload, Opened log j bytes payload → ∃ i < j, Sent log i payload bytes
  window : SlidingWindow.Tracks channel.receiver.rxWindow (openedCounters log)
  openedOnce : (log.filterMap openedCounter).Nodup

section

variable {xof : Xof} {sender receiver : SessionKeys} {log : List Call} {channel : Channel}

theorem invariant_start : Invariant xof sender receiver [] (Channel.start sender receiver) where
  senderKeys := ⟨rfl, rfl⟩
  receiverKeys := ⟨rfl, rfl⟩
  counter := ⟨Nat.one_pos, by show 1 < 2 ^ 64; decide⟩
  sent _ _ _ h := by simp [Sent] at h
  sentOnce := nodup_nil
  opened _ _ _ h := by simp [Opened] at h
  window := by
    have he : openedCounters [] = ∅ := by simp [openedCounters]
    rw [he]
    exact SlidingWindow.tracks_empty 128
  openedOnce := nodup_nil

variable {i : Nat} {payload frame : Bytes}

namespace Invariant

variable (h : Invariant xof sender receiver log channel)

include h

theorem sentCounter_lt (hn : n ∈ log.filterMap sentCounter) : n < channel.sender.nextTxCounter := by
  obtain ⟨⟨e, r⟩, hm, hc⟩ := mem_filterMap.mp hn
  obtain ⟨i, hi⟩ := mem_iff_getElem?.mp hm
  cases e with
  | deliver b => simp [sentCounter] at hc
  | send p =>
    cases r with
    | error error => simp [sentCounter] at hc
    | ok f =>
      obtain ⟨_, m, _, hlt, rfl⟩ := h.sent i p f hi
      have hb := h.counter.2
      have hr : frameCounter (protectedFrame xof sender.suite sender.txKey m p) = n :=
        Option.some.inj hc
      rw [frameCounter_protectedFrame (by omega)] at hr
      omega

theorem failed (e : Event) (error : QlinkError) {next : Channel}
    (hr : next.receiver = channel.receiver)
    (hs : next.sender = channel.sender ∨ channel.sender.nextTxCounter + 1 < 2 ^ 64 ∧
      next.sender = { channel.sender with nextTxCounter := channel.sender.nextTxCounter + 1 }) :
    Invariant xof sender receiver (log ++ [(e, .error error)]) next := by
  have hc : channel.sender.nextTxCounter ≤ next.sender.nextTxCounter ∧
      next.sender.nextTxCounter < 2 ^ 64 := by
    rcases hs with heq | ⟨hn, heq⟩
    · rw [heq]
      exact ⟨le_refl _, h.counter.2⟩
    · rw [heq]
      exact ⟨Nat.le_succ _, hn⟩
  have hk : next.sender.suite = channel.sender.suite ∧
      next.sender.txKey = channel.sender.txKey := by
    rcases hs with heq | ⟨_, heq⟩ <;> simp [heq]
  have he : (log ++ [(e, Except.error error)]).filterMap sentCounter =
      log.filterMap sentCounter := by
    cases e <;> simp [sentCounter]
  have ho : (log ++ [(e, Except.error error)]).filterMap openedCounter =
      log.filterMap openedCounter := by
    cases e <;> simp [openedCounter]
  refine ⟨?_, ?_, ?_, ?_, ?_, ?_, ?_, ?_⟩
  · rw [hk.1, hk.2]
    exact h.senderKeys
  · rw [hr]
    exact h.receiverKeys
  · have hp := h.counter.1
    omega
  · intro i p f hsen
    rcases sent_concat_iff.mp hsen with hol | ⟨_, hne⟩
    · obtain ⟨hl, n, hz, hlt, hf⟩ := h.sent i p f hol
      exact ⟨hl, n, hz, by omega, hf⟩
    · cases hne
  · rw [he]
    exact h.sentOnce
  · intro j b p hope
    rcases opened_concat_iff.mp hope with hol | ⟨_, hne⟩
    · obtain ⟨i, hlt, hi⟩ := h.opened j b p hol
      exact ⟨i, hlt, sent_concat_iff.mpr (.inl hi)⟩
    · cases hne
  · rw [openedCounters, ho, hr]
    exact h.window
  · rw [ho]
    exact h.openedOnce

theorem sends {ne : PqcFrameProtector} (hp : channel.sender.protect xof payload = (.ok frame, ne)) :
    Invariant xof sender receiver (log ++ [(.send payload, .ok frame)])
      { channel with sender := ne } := by
  obtain ⟨hn, hl, hf, rfl⟩ := protect_eq_ok_iff.mp hp
  rw [h.senderKeys.1, h.senderKeys.2] at hf
  have hpo := h.counter.1
  have hr : frameCounter frame = channel.sender.nextTxCounter := by
    rw [hf]
    exact frameCounter_protectedFrame (by omega)
  have hs : (log ++ [(Event.send payload, ok frame)]).filterMap sentCounter =
      log.filterMap sentCounter ++ [frameCounter frame] := by
    simp [sentCounter]
  have ho : (log ++ [(Event.send payload, ok frame)]).filterMap openedCounter =
      log.filterMap openedCounter := by
    simp [openedCounter]
  refine ⟨h.senderKeys, h.receiverKeys, ⟨Nat.succ_pos _, hn⟩, ?_, ?_, ?_, ?_, ?_⟩
  · intro i payload' frame' he
    show _ ∧ ∃ n, n ≠ 0 ∧ n < channel.sender.nextTxCounter + 1 ∧ _
    rcases sent_concat_iff.mp he with hol | ⟨_, hne⟩
    · obtain ⟨hl', n, hz, hlt, hf'⟩ := h.sent i payload' frame' hol
      exact ⟨hl', n, hz, by omega, hf'⟩
    · cases hne
      exact ⟨hl, _, by omega, by omega, hf⟩
  · have hfr : frameCounter frame ∉ log.filterMap sentCounter := by
      intro hm
      have hlt := h.sentCounter_lt hm
      omega
    rw [hs, ← concat_eq_append]
    exact h.sentOnce.concat hfr
  · intro j b payload' hope
    rcases opened_concat_iff.mp hope with hol | ⟨_, hne⟩
    · obtain ⟨i, hlt, hi⟩ := h.opened j b payload' hol
      exact ⟨i, hlt, sent_concat_iff.mpr (.inl hi)⟩
    · cases hne
  · rw [openedCounters, ho]
    exact h.window
  · rw [ho]
    exact h.openedOnce

theorem opens (he : Sent log i payload bytes)
    (hn : (channel.receiver.rxWindow.observe (frameCounter bytes)).1 = true) :
    Invariant xof sender receiver (log ++ [(.deliver bytes, .ok payload)])
      { channel with receiver := { channel.receiver with
          rxWindow := (channel.receiver.rxWindow.observe (frameCounter bytes)).2 } } := by
  have hf : frameCounter bytes ∉ openedCounters log := ((h.window.observe_iff (by decide)).mp hn).1
  have hs : (log ++ [(Event.deliver bytes, ok payload)]).filterMap sentCounter =
      log.filterMap sentCounter := by
    simp [sentCounter]
  have ho : (log ++ [(Event.deliver bytes, ok payload)]).filterMap openedCounter =
      log.filterMap openedCounter ++ [frameCounter bytes] := by
    simp [openedCounter]
  refine ⟨h.senderKeys, h.receiverKeys, h.counter, ?_, ?_, ?_, ?_, ?_⟩
  · intro k payload' frame' hk
    rcases sent_concat_iff.mp hk with hol | ⟨_, hc⟩
    · exact h.sent k payload' frame' hol
    · cases hc
  · rw [hs]
    exact h.sentOnce
  · intro j bytes' payload' hope
    rcases opened_concat_iff.mp hope with hol | ⟨hl, hc⟩
    · obtain ⟨k, hlt, hk⟩ := h.opened j bytes' payload' hol
      exact ⟨k, hlt, sent_concat_iff.mpr (.inl hk)⟩
    · cases hc
      exact ⟨i, hl ▸ he.lt_length, sent_concat_iff.mpr (.inl he)⟩
  · have hi : openedCounters (log ++ [(Event.deliver bytes, ok payload)]) =
        insert (frameCounter bytes) (openedCounters log) := by
      ext n
      simp [openedCounters, ho, or_comm]
    rw [hi]
    exact h.window.observe_accepted (by decide) hn
  · rw [ho, ← concat_eq_append]
    exact h.openedOnce.concat hf

variable (hsu : sender.suite = receiver.suite) (hke : sender.txKey = receiver.rxKey)

include hsu hke

theorem sent_verifies (hs : Sent log i payload frame) :
    Verifies xof receiver.suite receiver.rxKey frame := by
  obtain ⟨hl, n, hz, hlt, rfl⟩ := h.sent i payload frame hs
  have hb := h.counter.2
  rw [← hsu, ← hke]
  exact verifies_protectedFrame hz (by omega) hl

theorem sent_unmasks (hs : Sent log i payload frame) :
    xorStream xof receiver.suite receiver.rxKey (frameCounter frame) (headerOf frame)
      (ciphertextOf frame) = payload := by
  obtain ⟨hl, n, hz, hlt, rfl⟩ := h.sent i payload frame hs
  have hb := h.counter.2
  rw [← hsu, ← hke]
  exact xorStream_protectedFrame (by omega) hl

theorem openFrame_sent (hs : Sent log i payload frame) (hno : ∀ j a, ¬ Opened log j frame a)
    (hn : ∀ j bytes a, Opened log j bytes a → frameCounter bytes < frameCounter frame + 128) :
    (channel.receiver.openFrame xof frame).1 = .ok payload := by
  have hv := h.sent_verifies hsu hke hs
  rw [← h.receiverKeys.1, ← h.receiverKeys.2] at hv
  have ha : SlidingWindow.Acceptable 128 (openedCounters log) (frameCounter frame) := by
    constructor
    · intro he
      obtain ⟨j, bytes, a, ho, hc⟩ := mem_openedCounters_iff.mp he
      obtain ⟨k, _, hk⟩ := h.opened j bytes a ho
      obtain rfl := hk.frame_eq h.sentOnce hs hc
      exact hno j a ho
    · intro m hm
      obtain ⟨j, bytes, a, ho, rfl⟩ := mem_openedCounters_iff.mp hm
      exact hn j bytes a ho
  have hne := (h.window.observe_iff (by decide)).mpr ha
  rw [openFrame_accepted (verify_eq_ok_iff.mpr hv) hne,
    h.receiverKeys.1, h.receiverKeys.2, h.sent_unmasks hsu hke hs]

/-- What one call preserves. An opened frame has to be one that was sent. -/
theorem step (e : Event) (ha : ∀ bytes, e = .deliver bytes →
      Verifies xof receiver.suite receiver.rxKey bytes →
      ∃ i payload frame, Sent log i payload frame ∧
        tagInput receiver.suite receiver.rxKey frame = tagInput receiver.suite receiver.rxKey bytes) :
    Invariant xof sender receiver (log ++ [(e, (Frame.step xof channel e).1)])
      (Frame.step xof channel e).2 := by
  cases e with
  | send payload =>
    rcases hp : channel.sender.protect xof payload with ⟨error | frame, n⟩
    · have hm := protect_error hp
      simp only [Frame.step, hp]
      exact h.failed _ error rfl hm
    · simp only [Frame.step, hp]
      exact h.sends hp
  | deliver bytes =>
    rcases ho : channel.receiver.openFrame xof bytes with ⟨error | payload, n⟩
    · obtain rfl := openFrame_error ho
      simp only [Frame.step, ho]
      exact h.failed _ error rfl (.inl rfl)
    · obtain ⟨hv, hn, hpa, rfl⟩ := openFrame_eq_ok_iff.mp ho
      rw [h.receiverKeys.1, h.receiverKeys.2] at hv hpa
      obtain ⟨i, payload', frame, hs, hi⟩ := ha bytes rfl hv
      obtain rfl : frame = bytes := (h.sent_verifies hsu hke hs).eq_of_tagInput hv hi
      obtain rfl : payload = payload' := hpa.trans (h.sent_unmasks hsu hke hs)
      simp only [Frame.step, ho]
      exact h.opens hs hn

end Invariant

theorem authentic_front
    (h : Authentic xof sender receiver (front ++ [event])) : Authentic xof sender receiver front := by
  intro b byt a heq
  refine h b byt (a ++ [event]) ?_
  rw [heq, append_assoc, cons_append]

theorem reach_invariant (hsu : sender.suite = receiver.suite)
    (hke : sender.txKey = receiver.rxKey) (ev : List Event)
    (h : Authentic xof sender receiver ev) :
    Invariant xof sender receiver (calls xof sender receiver ev) (reach xof sender receiver ev) := by
  induction ev using reverseRecOn with
  | nil => exact invariant_start
  | append_singleton ev e ih =>
    rw [calls, trace_append, reach, run_concat]
    refine (ih (authentic_front h)).step hsu hke e ?_
    rintro b rfl hv
    exact h ev b [] rfl hv

end

/-- Whatever the network delivers: what is opened was sent, by exactly one call; what one call
sent is opened at most once; a failed `open` changes nothing; a sent frame that was not opened
before and is not 128 or more below an opened one is opened. -/
theorem protected_channel (xof : Xof) (sender receiver : SessionKeys)
    (hsuite : sender.suite = receiver.suite) (hkey : sender.txKey = receiver.rxKey)
    (events : List Event) (h : Authentic xof sender receiver events) :
    (∀ j bytes payload, Opened (calls xof sender receiver events) j bytes payload →
      ∃ i < j, Sent (calls xof sender receiver events) i payload bytes ∧
        ∀ k payload', Sent (calls xof sender receiver events) k payload' bytes → k = i) ∧
    (∀ i payload frame j k a b, Sent (calls xof sender receiver events) i payload frame →
      Opened (calls xof sender receiver events) j frame a →
      Opened (calls xof sender receiver events) k frame b → j = k) ∧
    (∀ (protector after : PqcFrameProtector) bytes error,
      protector.openFrame xof bytes = (.error error, after) → after = protector) ∧
    ∀ i payload frame, Sent (calls xof sender receiver events) i payload frame →
      (∀ j a, ¬ Opened (calls xof sender receiver events) j frame a) →
      (∀ j bytes a, Opened (calls xof sender receiver events) j bytes a →
        frameCounter bytes < frameCounter frame + 128) →
      ((reach xof sender receiver events).receiver.openFrame xof frame).1 = .ok payload := by
  have hi := reach_invariant hsuite hkey events h
  refine ⟨?_, ?_, ?_, ?_⟩
  · intro j bytes payload ho
    obtain ⟨i, hlt, hs⟩ := hi.opened j bytes payload ho
    exact ⟨i, hlt, hs, fun k payload' hk => sent_unique hi.sentOnce hk hs⟩
  · intro i payload frame j k a b _ hj hk
    exact opened_unique hi.openedOnce hj hk
  · intro protector after bytes error hope
    exact openFrame_error hope
  · intro i payload frame hs hno hn
    exact hi.openFrame_sent hsuite hkey hs hno hn

/-! A frame that arrives twice. -/

def sampleXof : Xof := ⟨Shake256.hash, Shake256.length_hash⟩

def sampleSender : SessionKeys :=
  ⟨"QLINK-FIPS203-MLKEM768-SHAKE256-v1", replicate 32 17, replicate 32 34, replicate 32 51⟩

def sampleReceiver : SessionKeys :=
  ⟨sampleSender.suite, sampleSender.handshakeHash, sampleSender.rxKey, sampleSender.txKey⟩

def samplePayload : Bytes := [1, 2, 3]

def sampleFrame : Bytes :=
  protectedFrame sampleXof sampleSender.suite sampleSender.txKey 1 samplePayload

def sampleEvents : List Event := [.send samplePayload, .deliver sampleFrame, .deliver sampleFrame]

theorem sample_sent (r : List Event) :
    Sent (calls sampleXof sampleSender sampleReceiver (.send samplePayload :: r)) 0 samplePayload
      sampleFrame := by
  have hp : (new sampleSender).protect sampleXof samplePayload =
      (.ok sampleFrame, { new sampleSender with nextTxCounter := 2 }) :=
    protect_eq_ok_iff.mpr ⟨by decide, by decide, rfl, rfl⟩
  have hf : (step sampleXof (Channel.start sampleSender sampleReceiver)
      (.send samplePayload)).1 = .ok sampleFrame := congrArg Prod.fst hp
  show some (Event.send samplePayload, _) = _
  rw [hf]

theorem sample_authentic (rest : List Event) (hr : ∀ event ∈ rest, event = .deliver sampleFrame) :
    Authentic sampleXof sampleSender sampleReceiver (.send samplePayload :: rest) := by
  intro f b ba heq _
  cases f with
  | nil => cases heq
  | cons fi f =>
    obtain ⟨rfl, ht⟩ := cons.inj heq
    have hm : Event.deliver b ∈ rest := by simp [ht]
    obtain rfl := Event.deliver.inj (hr _ hm)
    exact ⟨0, samplePayload, sampleFrame, sample_sent f, rfl⟩

theorem sample_channel :
    Opened (calls sampleXof sampleSender sampleReceiver sampleEvents) 1 sampleFrame samplePayload ∧
      ∀ k a, Opened (calls sampleXof sampleSender sampleReceiver sampleEvents) k sampleFrame a →
        k = 1 := by
  have hc := protected_channel sampleXof sampleSender sampleReceiver rfl rfl
  obtain ⟨_, _, _, hi⟩ := hc [.send samplePayload] (sample_authentic [] nofun)
  obtain ⟨_, hon, _, _⟩ := hc sampleEvents (sample_authentic _ (by simp))
  have ho : Opened (calls sampleXof sampleSender sampleReceiver sampleEvents) 1 sampleFrame
      samplePayload := by
    have hn (j : Nat) (b a : Bytes) :
        ¬ Opened (calls sampleXof sampleSender sampleReceiver [.send samplePayload]) j b a := by
      intro hj
      cases j with
      | zero => cases Option.some.inj ((sample_sent []).symm.trans hj)
      | succ j => cases hj
    have hr := hi 0 samplePayload sampleFrame (sample_sent [])
      (fun j a => hn j sampleFrame a) (fun j b a hj => absurd hj (hn j b a))
    show some (Event.deliver sampleFrame, ((reach sampleXof sampleSender sampleReceiver
      [.send samplePayload]).receiver.openFrame sampleXof sampleFrame).1) = _
    rw [hr]
  exact ⟨ho, fun k a hk =>
    hon 0 samplePayload sampleFrame k 1 a samplePayload (sample_sent _) hk ho⟩

end QuantumLink.Frame
