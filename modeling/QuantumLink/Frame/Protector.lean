import QuantumLink.Foundation.SlidingWindow
import QuantumLink.Session.Handshake

/-! # Protected frames

`pqc_frame` and `replay` of `qlink-core`: a frame carries a counter, the payload masked
with a key stream, and a tag over the header and the masked payload. The receiving side
checks the tag before it lets its replay window see the counter. SHAKE256 belongs to
another crate and is a parameter that fills as many bytes as it is asked for. Counters are
natural numbers; the sender refuses the one that would not fit 64 bits.
-/

namespace QuantumLink.Frame

open Device (QlinkError)
open Json (stringBytes)
open Session (SessionKeys)
open SlidingWindow Op
open List

/-! ## Primitives -/

/-- An extendable-output function: `read` fills a buffer of the given length. -/
structure Xof where
  read : Nat → Bytes → Bytes
  length_read : ∀ length input, (read length input).length = length

/-- `shake256_xof` of this module: the chunks with their lengths, and no label. -/
def shake256Xof (xof : Xof) (chunks : List Bytes) (length : Nat) : Bytes :=
  xof.read length (chunks.flatMap lenPrefixed)

/-- `constant_time_eq`. -/
def constantTimeEq (left right : Bytes) : Bool :=
  if left.length ≠ right.length then false
  else (zipWith (· ^^^ ·) left right).foldl (· ||| ·) 0 == 0

/-! ## Replay windows -/

/-- `ReplayWindow`, with a bitmap of 128 bits. -/
abbrev ReplayWindow := SlidingWindow 128

def ReplayWindow.new : ReplayWindow := empty 128

def ReplayWindow.observe (window : ReplayWindow) (packetNumber : Nat) : Bool × ReplayWindow :=
  SlidingWindow.observe window packetNumber

namespace ReplayWindow

/-- The window after observing the numbers. They need not fit into 64 bits. -/
def after (numbers : List Nat) : ReplayWindow := run ReplayWindow.observe ReplayWindow.new numbers

def accepted (numbers : List Nat) : List Nat := SlidingWindow.accepted 128 numbers

@[simp] theorem accepted_nil : accepted [] = [] := rfl

theorem accepted_ne_nil (h : numbers ≠ []) : accepted numbers ≠ [] := by
  cases numbers with
  | nil => exact absurd rfl h
  | cons n r =>
    simp [accepted, SlidingWindow.accepted, observed, SlidingWindow.observe, SlidingWindow.empty]

/-- The window stands for the set of accepted numbers, whatever is observed. -/
theorem replay_window_refines_set (numbers : List Nat) :
    (∀ n, ((after numbers).observe n).1 = true ↔ numbers = [] ∨ (∀ m ∈ accepted numbers, m < n) ∨
        ∃ highest ∈ accepted numbers, (∀ m ∈ accepted numbers, m ≤ highest) ∧
          n ≤ highest ∧ highest - n < 128 ∧ n ∉ accepted numbers) ∧
    (accepted numbers).Nodup ∧
    (numbers ≠ [] → (after numbers).highest ∈ accepted numbers ∧
      ∀ m ∈ accepted numbers, m ≤ (after numbers).highest) ∧
    ∀ d < 128, (after numbers).bitmap.getLsbD d = true ↔
      ∃ m ∈ accepted numbers, m + d = (after numbers).highest := by
  obtain ⟨ht, hg, ho⟩ :
      Tracks (after numbers) {m | m ∈ accepted numbers} ∧
      Grounded (after numbers) ∧ (accepted numbers).Nodup :=
    run_tracks (by decide) numbers
  have hi (hne : numbers ≠ []) : (after numbers).initialized = true :=
    ht.initialized.mpr (exists_mem_of_ne_nil _ (accepted_ne_nil hne))
  refine ⟨fun n => ?_, ho, fun hne => ⟨ht.highest (hi hne), ht.le_highest⟩, ?_⟩
  · rw [show ((after numbers).observe n).1 = true ↔ _ from ht.observe_iff (by decide)]
    constructor
    · rintro ⟨hw, hnea⟩
      by_cases hne : numbers = []
      · exact .inl hne
      have he := ht.highest (hi hne)
      by_cases ha : (after numbers).highest < n
      · exact .inr (.inl fun m hm => lt_of_le_of_lt (ht.le_highest m hm) ha)
      · have hlt := hnea _ he
        exact .inr (.inr ⟨_, he, ht.le_highest, by omega, by omega, hw⟩)
    · rintro (rfl | ha | ⟨highest, -, hle, hn, hnea, hw⟩)
      · simp [Acceptable]
      · exact ⟨fun he => absurd (ha n he) (lt_irrefl n),
          fun m hm => lt_of_lt_of_le (ha m hm) (Nat.le_add_right _ _)⟩
      · refine ⟨hw, fun m hm => ?_⟩
        have := hle m hm
        omega
  · intro d hd
    by_cases hne : numbers = []
    · subst hne
      simp [after, ReplayWindow.new, empty]
    · have hb := ht.bit (hi hne) d hd
      constructor
      · intro hs
        have hle := hg d hs
        exact ⟨_, (hb hle).mp hs, Nat.sub_add_cancel hle⟩
      · rintro ⟨m, hm, hsum⟩
        have hu : (after numbers).highest - d = m := by omega
        exact (hb (by omega)).mpr (hu ▸ hm)

end ReplayWindow

/-! ## Frames -/

def frameMagic : Bytes := stringBytes "QLPQC1"
def frameVersion : UInt8 := 1
def frameHeaderLen : Nat := 6 + 1 + 8 + 4
def frameTagLen : Nat := 32

def streamChunks (suite : String) (key : Bytes) (counter : Nat) (header : Bytes) : List Bytes :=
  [stringBytes "qlink.pqc_frame.stream.v1", stringBytes suite, key, bigEndian 8 counter, header]

def xorStream (xof : Xof) (suite : String) (key : Bytes) (counter : Nat) (header input : Bytes) :
    Bytes :=
  zipWith (· ^^^ ·) input (shake256Xof xof (streamChunks suite key counter header) input.length)

def tagChunks (suite : String) (key : Bytes) (counter : Nat) (header ciphertext : Bytes) :
    List Bytes :=
  [stringBytes "qlink.pqc_frame.tag.v1", stringBytes suite, key, bigEndian 8 counter, header,
    ciphertext]

def frameTag (xof : Xof) (suite : String) (key : Bytes) (counter : Nat) (header ciphertext : Bytes) :
    Bytes :=
  shake256Xof xof (tagChunks suite key counter header ciphertext) frameTagLen

def frameHeader (counter ciphertextLen : Nat) : Bytes :=
  frameMagic ++ ([frameVersion] ++ (bigEndian 8 counter ++ bigEndian 4 ciphertextLen))

/-- The frame `protect_with_key` builds once the length fits. -/
def protectedFrame (xof : Xof) (suite : String) (key : Bytes) (counter : Nat) (frame : Bytes) :
    Bytes :=
  let header := frameHeader counter frame.length
  let ciphertext := xorStream xof suite key counter header frame
  header ++ (ciphertext ++ frameTag xof suite key counter header ciphertext)

def protectWithKey (xof : Xof) (suite : String) (key : Bytes) (counter : Nat) (frame : Bytes) :
    Except QlinkError Bytes := do
  ensure (frame.length < 2 ^ 32) (.protocol "PQC frame payload is too large")
  pure (protectedFrame xof suite key counter frame)

/-! ## The parts of a received frame -/

def frameCounter (bytes : Bytes) : Nat := ofBigEndian ((bytes.drop 7).take 8)
def frameCiphertextLen (bytes : Bytes) : Nat := ofBigEndian ((bytes.drop 15).take 4)
def headerOf (bytes : Bytes) : Bytes := bytes.take frameHeaderLen

def ciphertextOf (bytes : Bytes) : Bytes :=
  (bytes.drop frameHeaderLen).take (frameCiphertextLen bytes)

def tagOf (bytes : Bytes) : Bytes :=
  (bytes.drop (frameHeaderLen + frameCiphertextLen bytes)).take frameTagLen

/-! ## The protector -/

structure PqcFrameProtector where
  suite : String
  txKey : Bytes
  rxKey : Bytes
  nextTxCounter : Nat
  rxWindow : ReplayWindow

namespace PqcFrameProtector

def new (keys : SessionKeys) : PqcFrameProtector :=
  ⟨keys.suite, keys.txKey, keys.rxKey, 1, ReplayWindow.new⟩

/-- `u64::checked_add(1)`. -/
def checkedNext (counter : Nat) : Option Nat :=
  if counter + 1 < 2 ^ 64 then some (counter + 1) else none

def protect (xof : Xof) (frame : Bytes) : Op PqcFrameProtector QlinkError Bytes := do
  let counter ← read (·.nextTxCounter)
  let next ← check (okOr (checkedNext counter) (.protocol "PQC frame counter exhausted"))
  update fun self => { self with nextTxCounter := next }
  let self ← read id
  check (protectWithKey xof self.suite self.txKey counter frame)

/-- `open`. -/
def openFrame (xof : Xof) (bytes : Bytes) : Op PqcFrameProtector QlinkError Bytes := do
  let self ← read id
  check (ensure (frameHeaderLen + frameTagLen ≤ bytes.length) (.protocol "PQC frame too short"))
  check (ensure (bytes.take 6 = frameMagic) (.protocol "invalid PQC frame magic"))
  let version := (bytes.drop 6).headD 0
  check (ensure (version = frameVersion)
    (.protocol ("unsupported PQC frame version " ++ toString version.toNat)))
  let counter := frameCounter bytes
  check (ensure (counter ≠ 0) (.protocol "invalid PQC frame counter"))
  check (ensure (bytes.length = frameHeaderLen + frameCiphertextLen bytes + frameTagLen)
    (.protocol "PQC frame length mismatch"))
  let expectedTag := frameTag xof self.suite self.rxKey counter (headerOf bytes) (ciphertextOf bytes)
  check (ensure (constantTimeEq (tagOf bytes) expectedTag = true)
    (.crypto "PQC frame authentication failed"))
  let accepted ← act fun self =>
    let (accepted, window) := self.rxWindow.observe counter
    (accepted, { self with rxWindow := window })
  check (ensure (accepted = true) (.protocol "PQC frame replay rejected"))
  pure (xorStream xof self.suite self.rxKey counter (headerOf bytes) (ciphertextOf bytes))

end PqcFrameProtector

/-! ## Comparing tags and masking -/

theorem foldl_or_eq_zero_iff (bytes : Bytes) :
    bytes.foldl (· ||| ·) start = 0 ↔ start = 0 ∧ ∀ byte ∈ bytes, byte = 0 := by
  induction bytes generalizing start with
  | nil => simp
  | cons byte bytes ih =>
    rw [foldl_cons, ih, UInt8.or_eq_zero_iff]
    simp [and_assoc]

theorem zipWith_xor_zero_iff {a b : Bytes} (h : a.length = b.length) :
    (∀ byte ∈ zipWith (· ^^^ ·) a b, byte = 0) ↔ a = b := by
  induction a generalizing b with
  | nil => simp [length_eq_zero_iff.mp h.symm]
  | cons x a ih =>
    cases b with
    | nil => simp at h
    | cons y b => simp [ih (b := b) (by simpa using h)]

theorem constantTimeEq_iff : constantTimeEq left right = true ↔ left = right := by
  unfold constantTimeEq
  by_cases hl : left.length = right.length
  · rw [if_neg (not_not.mpr hl), beq_iff_eq, foldl_or_eq_zero_iff, zipWith_xor_zero_iff hl]
    simp
  · rw [if_pos hl]
    simp only [Bool.false_eq_true, false_iff]
    intro heq
    exact hl (congrArg length heq)

theorem length_xorStream (xof : Xof) (suite : String) (key : Bytes) (counter : Nat)
    (header i : Bytes) : (xorStream xof suite key counter header i).length = i.length := by
  simp [xorStream, shake256Xof, xof.length_read]

theorem zipWith_xor_cancel {a b : Bytes} (h : a.length = b.length) :
    zipWith (· ^^^ ·) (zipWith (· ^^^ ·) a b) b = a := by
  induction a generalizing b with
  | nil => simp
  | cons x a ih =>
    cases b with
    | nil => simp at h
    | cons y b => simp [ih (b := b) (by simpa using h)]

theorem xorStream_xorStream (xof : Xof) (suite : String) (key : Bytes) (counter : Nat) :
    xorStream xof suite key counter header (xorStream xof suite key counter header input) = input := by
  have hl := length_xorStream xof suite key counter header input
  conv_lhs => rw [xorStream, hl]
  rw [xorStream]
  apply zipWith_xor_cancel
  rw [shake256Xof, xof.length_read]

/-! ## What a frame must look like -/

/-- The checks of `open` before the tag. -/
structure WellFormed (bytes : Bytes) : Prop where
  magic : bytes.take 6 = frameMagic
  version : (bytes.drop 6).headD 0 = frameVersion
  counter : frameCounter bytes ≠ 0
  length : bytes.length = frameHeaderLen + frameCiphertextLen bytes + frameTagLen

/-- A well-formed frame whose tag is right under a key. -/
structure Verifies (xof : Xof) (suite : String) (key bytes : Bytes) : Prop extends
    WellFormed bytes where
  tag : tagOf bytes = frameTag xof suite key (frameCounter bytes) (headerOf bytes)
    (ciphertextOf bytes)

/-- A frame is its header, its masked payload and its tag. -/
theorem WellFormed.eq_parts {bytes : Bytes} (h : WellFormed bytes) :
    bytes = headerOf bytes ++ (ciphertextOf bytes ++ tagOf bytes) := by
  have hr : tagOf bytes = (bytes.drop frameHeaderLen).drop (frameCiphertextLen bytes) := by
    rw [drop_drop, tagOf, take_of_length_le]
    rw [length_drop, h.length]
    omega
  rw [hr, ciphertextOf, take_append_drop, headerOf, take_append_drop]

section

variable {xof : Xof} {suite : String} {key : Bytes} {counter : Nat} {frame : Bytes}

theorem length_frameHeader (counter len : Nat) : (frameHeader counter len).length = frameHeaderLen := by
  simp only [frameHeader, length_append, length_singleton, length_bigEndian]
  decide

private theorem protectedFrame_split (xof : Xof) (suite : String) (key : Bytes) (counter : Nat)
    (frame : Bytes) : ∃ rest, protectedFrame xof suite key counter frame =
      frameMagic ++ ([frameVersion] ++ (bigEndian 8 counter ++ (bigEndian 4 frame.length ++ rest))) := by
  refine ⟨xorStream xof suite key counter (frameHeader counter frame.length) frame ++
    frameTag xof suite key counter (frameHeader counter frame.length)
      (xorStream xof suite key counter (frameHeader counter frame.length) frame), ?_⟩
  simp [protectedFrame, frameHeader]

theorem length_frameMagic : frameMagic.length = 6 := by decide

theorem frameCounter_protectedFrame (hc : counter < 2 ^ 64) :
    frameCounter (protectedFrame xof suite key counter frame) = counter := by
  obtain ⟨r, hs⟩ := protectedFrame_split xof suite key counter frame
  have hd : (protectedFrame xof suite key counter frame).drop 7 =
      bigEndian 8 counter ++ (bigEndian 4 frame.length ++ r) := by
    rw [hs, ← append_assoc frameMagic]
    exact drop_left' (by simp [length_frameMagic])
  rw [frameCounter, hd, take_left' (length_bigEndian 8 counter), ofBigEndian_bigEndian_of_lt hc]

theorem frameCiphertextLen_protectedFrame (hl : frame.length < 2 ^ 32) :
    frameCiphertextLen (protectedFrame xof suite key counter frame) = frame.length := by
  obtain ⟨rest, hs⟩ := protectedFrame_split xof suite key counter frame
  have hd : (protectedFrame xof suite key counter frame).drop 15 =
      bigEndian 4 frame.length ++ rest := by
    rw [hs, ← append_assoc frameMagic, ← append_assoc _ (bigEndian 8 counter)]
    exact drop_left' (by simp [length_frameMagic])
  rw [frameCiphertextLen, hd, take_left' (length_bigEndian 4 _), ofBigEndian_bigEndian_of_lt hl]

theorem headerOf_protectedFrame :
    headerOf (protectedFrame xof suite key counter frame) = frameHeader counter frame.length := by
  rw [headerOf, protectedFrame]
  exact take_left' (length_frameHeader _ _)

theorem drop_header_protectedFrame :
    (protectedFrame xof suite key counter frame).drop frameHeaderLen =
      xorStream xof suite key counter (frameHeader counter frame.length) frame ++
        frameTag xof suite key counter (frameHeader counter frame.length)
          (xorStream xof suite key counter (frameHeader counter frame.length) frame) := by
  rw [protectedFrame]
  exact drop_left' (length_frameHeader _ _)

theorem ciphertextOf_protectedFrame (hl : frame.length < 2 ^ 32) :
    ciphertextOf (protectedFrame xof suite key counter frame) =
      xorStream xof suite key counter (frameHeader counter frame.length) frame := by
  rw [ciphertextOf, frameCiphertextLen_protectedFrame hl, drop_header_protectedFrame]
  exact take_left' (length_xorStream _ _ _ _ _ _)

theorem length_frameTag (header c : Bytes) :
    (frameTag xof suite key counter header c).length = frameTagLen :=
  xof.length_read _ _

theorem tagOf_protectedFrame (hl : frame.length < 2 ^ 32) :
    tagOf (protectedFrame xof suite key counter frame) =
      frameTag xof suite key counter (frameHeader counter frame.length)
        (xorStream xof suite key counter (frameHeader counter frame.length) frame) := by
  rw [tagOf, frameCiphertextLen_protectedFrame hl, ← drop_drop,
    drop_header_protectedFrame, drop_left' (length_xorStream _ _ _ _ _ _)]
  exact take_of_length_le (le_of_eq (length_frameTag _ _))

theorem verifies_protectedFrame (hz : counter ≠ 0) (hc : counter < 2 ^ 64)
    (hl : frame.length < 2 ^ 32) :
    Verifies xof suite key (protectedFrame xof suite key counter frame) where
  magic := by
    obtain ⟨r, hs⟩ := protectedFrame_split xof suite key counter frame
    rw [hs]
    exact take_left' length_frameMagic
  version := by
    obtain ⟨r, hs⟩ := protectedFrame_split xof suite key counter frame
    rw [hs, drop_left' length_frameMagic]
    rfl
  counter := by
    rw [frameCounter_protectedFrame hc]
    exact hz
  length := by
    rw [frameCiphertextLen_protectedFrame hl, protectedFrame]
    simp only [length_append, length_frameHeader, length_xorStream, length_frameTag]
    omega
  tag := by
    rw [tagOf_protectedFrame hl, frameCounter_protectedFrame hc,
      headerOf_protectedFrame, ciphertextOf_protectedFrame hl]

theorem xorStream_protectedFrame (hc : counter < 2 ^ 64) (hl : frame.length < 2 ^ 32) :
    xorStream xof suite key (frameCounter (protectedFrame xof suite key counter frame))
      (headerOf (protectedFrame xof suite key counter frame))
      (ciphertextOf (protectedFrame xof suite key counter frame)) = frame := by
  rw [frameCounter_protectedFrame hc, headerOf_protectedFrame,
    ciphertextOf_protectedFrame hl, xorStream_xorStream]

def tagInput (suite : String) (key bytes : Bytes) : Bytes :=
  (tagChunks suite key (frameCounter bytes) (headerOf bytes) (ciphertextOf bytes)).flatMap lenPrefixed

/-- The tag covers all of a frame: two frames that verify on the same absorbed bytes are equal. -/
theorem Verifies.eq_of_tagInput (ha : Verifies xof suite key a)
    (hb : Verifies xof suite key b) (h : tagInput suite key a = tagInput suite key b) : a = b := by
  have ht : tagOf a = tagOf b := by
    rw [ha.tag, hb.tag]
    exact congrArg (xof.read frameTagLen) h
  have hh (bytes : Bytes) (hy : WellFormed bytes) :
      (headerOf bytes).length = frameHeaderLen := by
    rw [headerOf, length_take, hy.length]
    omega
  unfold tagInput tagChunks at h
  simp only [flatMap_cons, flatMap_nil, append_nil, append_cancel_left_eq] at h
  obtain ⟨_, h⟩ := lenPrefixed_append_inj (by simp) h
  obtain ⟨he, h⟩ := lenPrefixed_append_inj
    ((hh a ha.toWellFormed).trans (hh b hb.toWellFormed).symm) h
  rw [ha.eq_parts, hb.eq_parts, he, lenPrefixed_injective h, ht]

end

/-! ## What the two calls do -/

namespace PqcFrameProtector

variable {xof : Xof} {self after : PqcFrameProtector} {bytes out : Bytes} {error : QlinkError}

theorem protect_of_next (hn : self.nextTxCounter + 1 < 2 ^ 64) : protect xof bytes self =
      (protectWithKey xof self.suite self.txKey self.nextTxCounter bytes,
        { self with nextTxCounter := self.nextTxCounter + 1 }) := by
  have hk : okOr (checkedNext self.nextTxCounter)
      (QlinkError.protocol "PQC frame counter exhausted") = .ok (self.nextTxCounter + 1) := by
    simp only [checkedNext, if_pos hn, okOr]
  unfold protect
  rw [read_bind, check_bind_ok hk]
  rfl

theorem protect_exhausted (hn : ¬ self.nextTxCounter + 1 < 2 ^ 64) :
    protect xof bytes self = (.error (.protocol "PQC frame counter exhausted"), self) := by
  have he : okOr (checkedNext self.nextTxCounter)
      (QlinkError.protocol "PQC frame counter exhausted") =
        .error (.protocol "PQC frame counter exhausted") := by
    simp only [checkedNext, if_neg hn, okOr]
  unfold protect
  rw [read_bind, check_bind_error he]

theorem protect_eq_ok_iff : protect xof bytes self = (.ok out, after) ↔
      self.nextTxCounter + 1 < 2 ^ 64 ∧ bytes.length < 2 ^ 32 ∧
      out = protectedFrame xof self.suite self.txKey self.nextTxCounter bytes ∧
      after = { self with nextTxCounter := self.nextTxCounter + 1 } := by
  by_cases hn : self.nextTxCounter + 1 < 2 ^ 64
  · rw [protect_of_next hn, Prod.mk.injEq, protectWithKey, bind_eq_ok_iff]
    simp only [ensure_eq_ok_iff, exists_const, pure, Except.pure, Except.ok.injEq, hn, true_and,
      and_assoc]
    rw [eq_comm (a := out), eq_comm (a := after)]
  · rw [protect_exhausted hn]
    simp only [Prod.mk.injEq, reduceCtorEq, false_and, hn]

theorem protect_error (h : protect xof bytes self = (.error error, after)) :
    after = self ∨ self.nextTxCounter + 1 < 2 ^ 64 ∧
      after = { self with nextTxCounter := self.nextTxCounter + 1 } := by
  by_cases hn : self.nextTxCounter + 1 < 2 ^ 64
  · rw [protect_of_next hn] at h
    exact .inr ⟨hn, (congrArg Prod.snd h).symm⟩
  · rw [protect_exhausted hn] at h
    exact .inl (congrArg Prod.snd h).symm

/-! ### Counters over a run -/

/-- The payloads that were sent in a run of `protect`, each with its frame. -/
def framed (xof : Xof) (self : PqcFrameProtector) (payloads : List Bytes) : List (Bytes × Bytes) :=
  observed (fun self payload => protect xof payload self) (fun self payload =>
    match (protect xof payload self).1 with
    | .ok frame => some (payload, frame)
    | .error _ => none) self payloads

/-- The counters of the frames rise from the next one on, each in a frame under the keys of the
protector. -/
theorem framed_rises (payloads : List Bytes) :
    ((framed xof self payloads).map fun sent => frameCounter sent.2).Pairwise (· < ·) ∧
      ∀ sent ∈ framed xof self payloads, self.nextTxCounter ≤ frameCounter sent.2 ∧
        sent.2 = protectedFrame xof self.suite self.txKey (frameCounter sent.2) sent.1 := by
  induction payloads generalizing self with
  | nil => exact ⟨.nil, nofun⟩
  | cons p payloads ih =>
    rcases hp : protect xof p self with ⟨error | f, a⟩
    · have hf : framed xof self (p :: payloads) = framed xof a payloads := by
        simp [framed, observed, hp]
      rw [hf]
      rcases protect_error hp with rfl | ⟨-, rfl⟩
      · exact ih
      · exact ⟨ih.1, fun sent hs => ⟨Nat.le_of_lt (ih.2 sent hs).1, (ih.2 sent hs).2⟩⟩
    · obtain ⟨hn, -, rfl, rfl⟩ := protect_eq_ok_iff.mp hp
      have hf : framed xof self (p :: payloads) =
          (p, protectedFrame xof self.suite self.txKey self.nextTxCounter p) ::
            framed xof { self with nextTxCounter := self.nextTxCounter + 1 } payloads := by
        simp [framed, observed, hp]
      have hc : frameCounter (protectedFrame xof self.suite self.txKey self.nextTxCounter
          p) = self.nextTxCounter := frameCounter_protectedFrame (by omega)
      rw [hf]
      refine ⟨pairwise_cons.mpr ⟨?_, ih.1⟩, ?_⟩
      · intro c hm
        obtain ⟨sent, hs, rfl⟩ := mem_map.mp hm
        show frameCounter _ < _
        rw [hc]
        exact (ih.2 sent hs).1
      · intro sent hs
        rcases mem_cons.mp hs with rfl | hs
        · show _ ≤ frameCounter _ ∧ _ = protectedFrame _ _ _ (frameCounter _) _
          rw [hc]
          exact ⟨le_refl _, rfl⟩
        · exact ⟨Nat.le_of_lt (ih.2 sent hs).1, (ih.2 sent hs).2⟩

/-- No counter is used for two frames of a protector, and one whose counters are used up refuses
every further call and stays as it is. -/
theorem frame_counters_never_reused (xof : Xof) (keys : SessionKeys) (payloads : List Bytes) :
    ((framed xof (new keys) payloads).map fun sent => frameCounter sent.2).Pairwise (· < ·) ∧
    (∀ sent ∈ framed xof (new keys) payloads, 1 ≤ frameCounter sent.2 ∧
      sent.2 = protectedFrame xof keys.suite keys.txKey (frameCounter sent.2) sent.1) ∧
    (∀ a ∈ framed xof (new keys) payloads, ∀ b ∈ framed xof (new keys) payloads,
      frameCounter a.2 = frameCounter b.2 → a.1 = b.1) ∧
    ∀ self : PqcFrameProtector, checkedNext self.nextTxCounter = none → ∀ payload,
      protect xof payload self = (.error (.protocol "PQC frame counter exhausted"), self) := by
  obtain ⟨hr, hf⟩ := @framed_rises xof (new keys) payloads
  refine ⟨hr, hf, ?_, ?_⟩
  · intro a ha b hb heq
    have ho := hr.imp fun {m n} (hlt : m < n) => hlt.ne
    exact congrArg Prod.fst (inj_on_of_nodup_map ho ha hb heq)
  · intro self hn payload
    refine protect_exhausted fun hne => ?_
    rw [checkedNext, if_pos hne] at hn
    cases hn

/-- The checks of `open` before the replay window, in one decision. -/
def verify (xof : Xof) (self : PqcFrameProtector) (bytes : Bytes) : Except QlinkError Unit := do
  ensure (frameHeaderLen + frameTagLen ≤ bytes.length) (.protocol "PQC frame too short")
  ensure (bytes.take 6 = frameMagic) (.protocol "invalid PQC frame magic")
  ensure ((bytes.drop 6).headD 0 = frameVersion)
    (.protocol ("unsupported PQC frame version " ++ toString ((bytes.drop 6).headD 0).toNat))
  ensure (frameCounter bytes ≠ 0) (.protocol "invalid PQC frame counter")
  ensure (bytes.length = frameHeaderLen + frameCiphertextLen bytes + frameTagLen)
    (.protocol "PQC frame length mismatch")
  ensure (constantTimeEq (tagOf bytes) (frameTag xof self.suite self.rxKey (frameCounter bytes)
    (headerOf bytes) (ciphertextOf bytes)) = true) (.crypto "PQC frame authentication failed")

theorem verify_eq_ok_iff :
    verify xof self bytes = .ok () ↔ Verifies xof self.suite self.rxKey bytes := by
  simp only [verify, bind_eq_ok_iff, ensure_eq_ok_iff, constantTimeEq_iff, exists_const]
  constructor
  · intro h
    obtain ⟨_, hm, hv, hc, hl, ht⟩ := h
    exact ⟨⟨hm, hv, hc, hl⟩, ht⟩
  · intro h
    refine ⟨?_, h.magic, h.version, h.counter, h.length, h.tag⟩
    rw [h.length]
    omega

theorem openFrame_refused (h : verify xof self bytes = .error error) :
    openFrame xof bytes self = (.error error, self) := by
  simp only [openFrame, read_bind, id, check_bind_check]
  exact check_bind_error h _ _

theorem openFrame_accepted (h : verify xof self bytes = .ok ())
    (hn : (self.rxWindow.observe (frameCounter bytes)).1 = true) :
    openFrame xof bytes self =
      (.ok (xorStream xof self.suite self.rxKey (frameCounter bytes) (headerOf bytes)
          (ciphertextOf bytes)),
        { self with rxWindow := (self.rxWindow.observe (frameCounter bytes)).2 }) := by
  simp only [openFrame, read_bind, id, check_bind_check]
  exact (check_bind_ok h _ _).trans (check_bind_ok (ensure_of hn) _ _)

theorem openFrame_replayed (h : verify xof self bytes = .ok ())
    (ho : (self.rxWindow.observe (frameCounter bytes)).1 = false) :
    openFrame xof bytes self = (.error (.protocol "PQC frame replay rejected"), self) := by
  have hw : (self.rxWindow.observe (frameCounter bytes)).2 = self.rxWindow := observe_refused ho
  have hc : ensure ((self.rxWindow.observe (frameCounter bytes)).1 = true)
      (QlinkError.protocol "PQC frame replay rejected") =
        .error (.protocol "PQC frame replay rejected") := by
    simp [ho]
  simp only [openFrame, read_bind, id, check_bind_check]
  refine (check_bind_ok h _ _).trans ((check_bind_error hc _ _).trans ?_)
  simp [hw]

theorem openFrame_eq_ok_iff : openFrame xof bytes self = (.ok out, after) ↔
      Verifies xof self.suite self.rxKey bytes ∧
      (self.rxWindow.observe (frameCounter bytes)).1 = true ∧
      out = xorStream xof self.suite self.rxKey (frameCounter bytes) (headerOf bytes)
        (ciphertextOf bytes) ∧
      after = { self with rxWindow := (self.rxWindow.observe (frameCounter bytes)).2 } := by
  rw [← verify_eq_ok_iff]
  cases hv : verify xof self bytes with
  | error error =>
    rw [openFrame_refused hv]
    simp
  | ok u =>
    cases ho : (self.rxWindow.observe (frameCounter bytes)).1 with
    | false =>
      rw [openFrame_replayed hv ho]
      simp
    | true =>
      rw [openFrame_accepted hv ho, Prod.mk.injEq, Except.ok.injEq]
      simp only [true_and]
      rw [eq_comm (a := out), eq_comm (a := after)]

theorem openFrame_error (h : openFrame xof bytes self = (.error error, after)) : after = self := by
  cases hv : verify xof self bytes with
  | error r =>
    rw [openFrame_refused hv] at h
    exact (congrArg Prod.snd h).symm
  | ok u =>
    cases ho : (self.rxWindow.observe (frameCounter bytes)).1 with
    | false =>
      rw [openFrame_replayed hv ho] at h
      exact (congrArg Prod.snd h).symm
    | true =>
      rw [openFrame_accepted hv ho] at h
      cases congrArg Prod.fst h

end PqcFrameProtector

end QuantumLink.Frame
