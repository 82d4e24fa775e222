import QuantumLink.PeerStore.Persist

/-! # Changing the key of the file

`rotate_key` replaces the file under the new key first and sets the key afterwards. A call that had
read the old key may still replace the file after both, and then the file is under the old key
again. In a run in which no call overtakes another this cannot happen. If the new file cannot be
written, neither the file nor the key changes, unless another call renames the shared temporary
file meanwhile.
-/

namespace QuantumLink.PeerStore

open Device (QlinkError)
open Discovery
open QuantumLink.Frame (Xof)
open Process
open List
open FilePeerStore

/-- Rotations are to this key only. -/
def Input.RotatesTo (newKey : Option StoreKey) : Input → Prop
  | .call _ (.rotateKey key _) => key = newKey
  | _ => True

/-- Rotations under way are to this key only. -/
def RotatingTo (newKey : Option StoreKey) (s : Process) : Prop :=
  ∀ entry ∈ s.waiting, ∀ key, entry.2.rotation = some key → key = newKey

/-- A rotation to the key is under way, or is through: the key is set and the file is under it. -/
def Rotated (xof : Xof) (newKey : Option StoreKey) (s : Process) : Prop :=
  (∃ entry ∈ s.waiting, entry.2.rotation = some newKey) ∨
    s.store.encryptionKey = newKey ∧
      ∃ snapshot nonce, s.store.file = some (encoded xof snapshot nonce newKey)

variable {xof : Xof} {path : StorePath} {now : UInt64} {s next : Process} {input : Input}
  {newKey : Option StoreKey}

theorem rotatingTo_stepped (hs : Stepped xof now s input next)
    (hi : input.RotatesTo newKey) (h : RotatingTo newKey s) : RotatingTo newKey next := by
  unfold RotatingTo at h ⊢
  cases hs with
  | idle | kept inner ht => exact h
  | entered inner thread waiting hn hw hb hr =>
    refine forall_mem_append.mpr ⟨h, forall_mem_singleton.mpr ?_⟩
    intro key hk
    obtain ⟨reading, rfl⟩ := hr key hk
    exact hi
  | keyed before after thread snapshot answer hw hb =>
    rw [hw, forall_mem_append, forall_mem_cons] at h
    exact forall_mem_append.mpr ⟨h.1, forall_mem_cons.mpr ⟨nofun, h.2.2⟩⟩
  | advanced after thread snapshot key stage next answer temp hw hp =>
    rw [hw, forall_mem_cons] at h
    exact forall_mem_cons.mpr ⟨by cases answer <;> exact h.1, h.2⟩
  | written after thread snapshot key stage answer nonce renames hw
  | swapped after thread snapshot key hw =>
    rw [hw, forall_mem_cons] at h
    exact h.2
  | rotated after thread snapshot key stage nonce renames hw =>
    rw [hw, forall_mem_cons] at h
    exact forall_mem_cons.mpr h

/-- A rotation stays under way until it is through, and then the key and the file stay. -/
theorem rotated_stepped (hs : Stepped xof now s input next) (hc : Coherent xof now s)
    (hr : RotatingTo newKey s) (h : Rotated xof newKey s) : Rotated xof newKey next := by
  unfold RotatingTo at hr
  unfold Rotated at h ⊢
  cases hs with
  | idle | kept inner ht => exact h
  | entered inner thread waiting hn hw hb ho =>
    refine h.imp_left ?_
    rintro ⟨entry, he, hk⟩
    exact ⟨entry, mem_append_left _ he, hk⟩
  | keyed before after thread snapshot answer hw hb =>
    rw [hw] at h
    refine h.imp_left ?_
    rintro ⟨entry, he, hk⟩
    obtain he | he := mem_append.mp he
    · exact ⟨entry, mem_append_left _ he, hk⟩
    · obtain rfl | he := mem_cons.mp he
      · cases hk
      · exact ⟨entry, mem_append_right _ (mem_cons_of_mem _ he), hk⟩
  | advanced after thread snapshot key stage next answer temp hw hp =>
    rw [hw] at h
    refine h.imp_left ?_
    rintro ⟨entry, he, hk⟩
    obtain rfl | he := mem_cons.mp he
    · exact ⟨_, mem_cons_self, by cases answer <;> exact hk⟩
    · exact ⟨entry, mem_cons_of_mem _ he, hk⟩
  | written after thread snapshot key stage answer nonce renames hw =>
    rw [hw] at h
    obtain ⟨entry, he, hk⟩ | ⟨hk, -⟩ := h
    · obtain rfl | he := mem_cons.mp he
      · cases hk
      · exact .inl ⟨entry, he, hk⟩
    · -- the key that was read is the one that is set
      have hre := hc.keys _ (by rw [hw]; exact mem_cons_self) snapshot key stage answer rfl
      rw [hk] at hre
      obtain rfl := hre
      exact .inr ⟨hk, snapshot, nonce, rfl⟩
  | rotated after thread snapshot key stage nonce renames hw =>
    rw [hw, forall_mem_cons] at hr
    obtain rfl := hr.1 key rfl
    exact .inl ⟨_, mem_cons_self, rfl⟩
  | swapped after thread snapshot key hw =>
    rw [hw, forall_mem_cons] at hr
    obtain rfl := hr.1 key rfl
    obtain ⟨nonce, hf⟩ := hc.progress _ (by rw [hw]; exact mem_cons_self)
    exact .inr ⟨rfl, snapshot, nonce, hf⟩

/-- What every step in order keeps, in a run whose rotations are to this key. -/
theorem run_orderly_invariant {inputs : List Input} (inv : Process → Prop)
    (ht : ∀ s input next, Stepped xof now s input next → input.RotatesTo newKey →
      Coherent xof now s → inv s → inv next)
    (hc : Coherent xof now s) (h : inv s) (hi : ∀ input ∈ inputs, input.RotatesTo newKey)
    (hor : Along (step xof path) (Orderly path now) s inputs) :
    inv (run (step xof path) s inputs) := by
  induction inputs generalizing s with
  | nil => exact h
  | cons input inputs ih =>
    obtain ⟨ho, hr⟩ := hor
    have hs : Stepped xof now s input (step xof path s input).2 :=
      step_stepped hc ho.unfailing ho.clock ho.order
    rw [forall_mem_cons] at hi
    exact ih (coherent_stepped hs hc) (ht s input _ hs hi.1 hc h) hi.2 hr

/-- A call of `rotate_key` by a thread that is in no other call is a rotation under way. -/
theorem rotated_call {thread : Nat} {reading : UInt64} (hi : cut thread s.waiting = none) :
    Rotated xof newKey (step xof path s (.call thread (.rotateKey newKey reading))).2 := by
  have hn : ¬ (cut thread s.waiting).isSome = true := by simp [hi]
  rw [step, if_neg hn]
  exact .inl ⟨_, mem_append_right _ mem_cons_self, rfl⟩

/-! ## A rotation that fails -/

/-- No other call goes on, and the call of the thread does not return. -/
def Undisturbed (xof : Xof) (path : StorePath) (thread : Nat) (s : Process) : Input → Prop
  | .call .. => True
  | .resume other nonce outcome =>
    other = thread ∧ (step xof path s (.resume other nonce outcome)).1 = none

/-- An open file is the one that is to be renamed. -/
def Stage.Held (stage : Stage) (store : FilePeerStore) : Prop :=
  ∀ opened, stage = .fill opened → opened = store.renames

theorem atomicWrite_kept (path : StorePath) (bytes : Bytes) (outcome : WriteOutcome)
    {stage : Stage} {store : FilePeerStore} (hs : stage.Held store)
    (h : (atomicWrite path bytes outcome stage store).1 ≠ .ok none) :
    (atomicWrite path bytes outcome stage store).2.file = store.file ∧
      (atomicWrite path bytes outcome stage store).2.encryptionKey = store.encryptionKey ∧
      ∀ next, (atomicWrite path bytes outcome stage store).1 = .ok (some next) →
        next.Held (atomicWrite path bytes outcome stage store).2 := by
  cases stage with
  | create =>
    cases hp : path.hasFileName <;> cases outcome <;> simp [atomicWrite, hp, Stage.Held]
  | fill opened =>
    obtain rfl := hs opened rfl
    cases outcome <;> simp [atomicWrite, filled, Stage.Held]
  | rename =>
    cases outcome with
    | failed error written => simp [atomicWrite]
    | done =>
      cases ht : store.temp with
      | none => simp [atomicWrite, ht]
      | some bytes => simp [atomicWrite, ht] at h

theorem lookup_eq_cut (thread : Nat) (l : List (Nat × Waiting)) :
    l.lookup thread = (cut thread l).map fun found => found.2.1 := by
  induction l with
  | nil => rfl
  | cons entry rest ih =>
    by_cases h : entry.1 = thread
    · simp [cut, lookup, h]
    · have hn : (thread == entry.1) = false := by simpa using Ne.symm h
      simp [cut, lookup, h, hn, ih, Function.comp_def]

theorem lookup_before {thread : Nat} {l before after : List (Nat × Waiting)} {waiting : Waiting}
    (h : cut thread l = some (before, waiting, after)) : before.lookup thread = none := by
  induction l generalizing before with
  | nil => cases h
  | cons entry rest ih =>
    by_cases ht : entry.1 = thread
    · rw [cut, if_pos ht] at h
      cases h
      rfl
    · rw [cut, if_neg ht] at h
      obtain ⟨⟨before', waiting', after'⟩, hc, heq⟩ := Option.map_eq_some_iff.mp h
      cases heq
      have hn : (thread == entry.1) = false := by simpa using Ne.symm ht
      simp [lookup, hn, ih hc]

/-- A rotation has not renamed yet, and the file and the key are these; or it has renamed. -/
def Attempt (thread : Nat) (file : Option Bytes) (key : Option StoreKey) (s : Process) : Prop :=
  (s.store.file = file ∧ s.store.encryptionKey = key ∧ ∃ snapshot newKey stage,
    s.waiting.lookup thread = some (.write snapshot newKey stage none) ∧ stage.Held s.store) ∨
  ∃ snapshot newKey, s.waiting.lookup thread = some (.swap snapshot newKey)

section
variable {thread : Nat} {file : Option Bytes} {key : Option StoreKey}

theorem attempt_of_kept (h : Attempt thread file key s) (hf : next.store.file = s.store.file)
    (hk : next.store.encryptionKey = s.store.encryptionKey)
    (hr : next.store.renames = s.store.renames)
    (hl : next.waiting.lookup thread = s.waiting.lookup thread) : Attempt thread file key next := by
  unfold Attempt Stage.Held at h ⊢
  rw [hf, hk, hr, hl]
  exact h

theorem attempt_call (caller : Nat) (operation : Operation) (h : Attempt thread file key s) :
    Attempt thread file key (s.call caller operation).2 := by
  -- a new call stands behind the ones under way
  have hsome : ∃ waiting, s.waiting.lookup thread = some waiting := by
    obtain ⟨-, -, snapshot, newKey, stage, hl, -⟩ | ⟨snapshot, newKey, hl⟩ := h <;> exact ⟨_, hl⟩
  obtain ⟨waiting, hl⟩ := hsome
  have happend (new : List (Nat × Waiting)) :
      (s.waiting ++ new).lookup thread = s.waiting.lookup thread := by
    rw [lookup_append, hl, Option.some_or]
  have hleave (answer : Answer) (left : Section) :
      Attempt thread file key (s.leave caller answer left).2 := by
    unfold leave
    split
    · exact attempt_of_kept h rfl rfl rfl (happend _)
    · exact attempt_of_kept h rfl rfl rfl rfl
  cases operation with
  | store meshId record reading => exact hleave _ _
  | forget meshId peerId => exact hleave _ _
  | pruneExpired reading => exact hleave _ _
  | rotateKey newKey reading => exact attempt_of_kept h rfl rfl rfl (happend _)

/-- The rotation goes on: it fails and nothing was changed, or it is still under way. -/
theorem attempt_resume {nonce : StoreNonce} {outcome : WriteOutcome}
    (h : Attempt thread file key s) :
    (∀ error, (step xof path s (.resume thread nonce outcome)).1 = some (.failed error) →
      (step xof path s (.resume thread nonce outcome)).2.store.file = file ∧
      (step xof path s (.resume thread nonce outcome)).2.store.encryptionKey = key) ∧
    ((step xof path s (.resume thread nonce outcome)).1 = none →
      Attempt thread file key (step xof path s (.resume thread nonce outcome)).2) := by
  unfold Attempt at h
  simp only [lookup_eq_cut, Option.map_eq_some_iff] at h
  obtain ⟨hf, hk, snapshot, newKey, stage, ⟨⟨before, -, after⟩, hc, rfl⟩, hs⟩ |
    ⟨snapshot, newKey, ⟨before, -, after⟩, hc, rfl⟩ := h
  · have hlook (waiting : Waiting) :
        (before ++ (thread, waiting) :: after).lookup thread = some waiting := by
      rw [lookup_append, lookup_before hc, Option.none_or, lookup_cons_self]
    have hkept := atomicWrite_kept path (encoded xof snapshot nonce newKey) outcome hs
    simp only [step, hc, resume]
    cases hw : atomicWrite path (encoded xof snapshot nonce newKey) outcome stage s.store with
    | mk result store =>
      rw [hw] at hkept
      obtain error | (_ | stage) := result
      · obtain ⟨hfile, hkey, -⟩ := hkept (by simp)
        exact ⟨fun _ _ => ⟨hfile.trans hf, hkey.trans hk⟩, fun h => by cases h⟩
      · exact ⟨fun _ h => (by cases h), fun _ => .inr ⟨snapshot, newKey, hlook _⟩⟩
      · obtain ⟨hfile, hkey, hheld⟩ := hkept (by simp)
        refine ⟨fun _ h => (by cases h), fun _ => .inl ⟨hfile.trans hf, hkey.trans hk, snapshot,
          newKey, stage, hlook _, hheld stage rfl⟩⟩
  · simp only [step, hc, resume]
    exact ⟨fun _ h => (by cases h), fun h => by cases h⟩

theorem attempt_step (hu : Undisturbed xof path thread s input) (h : Attempt thread file key s) :
    Attempt thread file key (step xof path s input).2 := by
  cases input with
  | call caller operation =>
    simp only [step]
    split
    · exact h
    · exact attempt_call caller operation h
  | resume other nonce outcome =>
    obtain ⟨rfl, hn⟩ := hu
    exact (attempt_resume h).2 hn

end

/-- The file is an envelope of no key but this one, unless two tags collide. -/
def OnlyUnder (xof : Xof) (key : Option StoreKey) (bytes : Bytes) : Prop :=
  ∀ other, key ≠ some other → EnvelopeOf xof other bytes →
    ∃ own nonce ciphertext, key = some own ∧
      peerStoreTag xof other nonce ciphertext = peerStoreTag xof own nonce ciphertext

theorem onlyUnder_encoded (xof : Xof) (sn : Meshes) (n : StoreNonce)
    (key : Option StoreKey) : OnlyUnder xof key (encoded xof sn n key) := by
  intro o _ ho
  obtain ⟨own, c, how, ht⟩ := tag_eq_of_envelopeOf ho
  exact ⟨own, n.val, c, how, ht⟩

/-- **Changing the key.** In a run in which no call overtakes another, once all calls have returned
the file opens under the key that was rotated to and holds the records in memory, up to records
that have expired, and it is no envelope of another key unless two tags collide. A rotation that
returns an error leaves the file and the key as they were when it turned to the files, if no other
call goes on until it returns. -/
theorem orderly_rotation_kept (xof : Xof) (path : StorePath) :
    (∀ (file : Option Bytes) (oldKey newKey : Option StoreKey) (now reading : UInt64)
        (front back : List Input) (thread : Nat) (reached : Process),
      reached = run (step xof path) (.opened xof file oldKey)
        (front ++ .call thread (.rotateKey newKey reading) :: back) →
      (∀ input ∈ front ++ back, input.RotatesTo newKey) →
      Along (step xof path) (Orderly path now) (.opened xof file oldKey)
        (front ++ .call thread (.rotateKey newKey reading) :: back) →
      cut thread (run (step xof path) (.opened xof file oldKey) front).waiting = none →
      reached.waiting = [] →
      reached.store.encryptionKey = newKey ∧ ∃ bytes, reached.store.file = some bytes ∧
        Trimmed now ⟨decodeOrEmpty xof bytes newKey⟩ reached.store.inner ∧
        OnlyUnder xof newKey bytes) ∧
    (∀ (s : Process) (thread : Nat) (newKey : Option StoreKey) (reading : UInt64),
      (step xof path s (.call thread (.rotateKey newKey reading))).2.store.file = s.store.file ∧
      (step xof path s (.call thread (.rotateKey newKey reading))).2.store.encryptionKey =
        s.store.encryptionKey) ∧
    ∀ (s : Process) (thread : Nat) (snapshot : Meshes) (newKey : Option StoreKey)
      (inputs : List Input) (nonce : StoreNonce) (outcome : WriteOutcome) (error : QlinkError),
      s.waiting.lookup thread = some (.write snapshot newKey .create none) →
      Along (step xof path) (Undisturbed xof path thread) s inputs →
      (step xof path (run (step xof path) s inputs) (.resume thread nonce outcome)).1 =
        some (.failed error) →
      (run (step xof path) s (inputs ++ [.resume thread nonce outcome])).store.file = s.store.file ∧
        (run (step xof path) s (inputs ++ [.resume thread nonce outcome])).store.encryptionKey =
          s.store.encryptionKey := by
  refine ⟨?_, ?_, ?_⟩
  · intro file oldKey newKey now reading front back thread reached hre hi ho hd hr
    rw [forall_mem_append] at hi
    rw [along_append] at ho
    obtain ⟨hfr, hc, hb⟩ := ho
    have hopened := coherent_opened xof now file oldKey
    have hco := coherent_run hopened hfr
    have hro : RotatingTo newKey (run (step xof path) (.opened xof file oldKey) front) := by
      refine run_orderly_invariant (RotatingTo newKey) ?_ hopened ?_ hi.1 hfr
      · intro s input next ht hin _ hs
        exact rotatingTo_stepped ht hin hs
      · intro entry he
        cases he
    have ht : Stepped xof now _ _ (step xof path (run (step xof path)
        (.opened xof file oldKey) front) (.call thread (.rotateKey newKey reading))).2 :=
      step_stepped hco hc.unfailing hc.clock hc.order
    -- from the call on the rotation is under way or through
    have hen := run_orderly_invariant
      (fun s => Coherent xof now s ∧ RotatingTo newKey s ∧ Rotated xof newKey s)
      (fun s input next hn hin _ hs => ⟨coherent_stepped hn hs.1,
        rotatingTo_stepped hn hin hs.2.1, rotated_stepped hn hs.1 hs.2.1 hs.2.2⟩)
      (coherent_stepped ht hco)
      ⟨coherent_stepped ht hco, rotatingTo_stepped ht rfl hro, rotated_call hd⟩ hi.2 hb
    rw [← run_cons, ← run_append, ← hre] at hen
    obtain ⟨hen, -, hrot⟩ := hen
    obtain ⟨entry, he, -⟩ | ⟨hk, snapshot, nonce, hf⟩ := hrot
    · rw [hr] at he
      cases he
    · refine ⟨hk, _, hf, ?_, onlyUnder_encoded xof snapshot nonce newKey⟩
      have hy := hen.synced
      rw [← hk] at hf
      simp only [latest, hr, map_nil, getLast?_nil, decoded_encoded hf] at hy
      rw [decodeOrEmpty_encoded]
      exact hy
  · intro s thread newKey reading
    simp only [step]
    split <;> exact ⟨rfl, rfl⟩
  · intro s thread snapshot newKey inputs nonce outcome error hl hu he
    have hstart : Attempt thread s.store.file s.store.encryptionKey s :=
      .inl ⟨rfl, rfl, snapshot, newKey, .create, hl, fun _ h => by cases h⟩
    have hreached := run_invariant_along _ (fun _ _ h hi => attempt_step hi h) hstart hu
    rw [run_append, run_cons, run_nil]
    exact (attempt_resume hreached).1 error he

/-! ## A store and a rotation -/

def rotating (thread : Nat) : Input := .call thread (.rotateKey (some keyTwo) 2)

/-- A store, and then a rotation; and a rotation that cannot rename. -/
theorem sequential_rotation_kept : (∃ reached bytes,
      reached = run (step sampleXof samplePath) (.opened sampleXof none (some keyOne))
        (storing 1 "a" :: going 1 :: (writing 1 ++ rotating 2 :: (writing 2 ++ [going 2]))) ∧
      reached.store.file = some bytes ∧
      Trimmed 2 ⟨decodeOrEmpty sampleXof bytes (some keyTwo)⟩ reached.store.inner ∧
      OnlyUnder sampleXof (some keyTwo) bytes) ∧
    (run (step sampleXof samplePath) (.opened sampleXof none (some keyOne))
      [storing 1 "a", rotating 2, going 2, going 2,
        .resume 2 sampleNonce (.failed "busy" 0)]).store.file = none := by
  have ho := innerOne_eq
  obtain ⟨-, bytes, hf, ht, hn⟩ := (orderly_rotation_kept sampleXof samplePath).1 none
    (some keyOne) (some keyTwo) 2 2 (storing 1 "a" :: going 1 :: writing 1)
    (writing 2 ++ [going 2]) 2 _ rfl
    (by simp [storing, going, writing, Input.RotatesTo])
    (by simp [Along, orderly_iff, InOrder, Input.Unfailing, Input.NotAfter, storing, going, writing,
      step, cut, call, leave, opened, openInternal,
      decoded, ho, resume, atomicWrite, filled, samplePath])
    (by simp [storing, going, writing, step, cut, call, leave, opened,
      openInternal, decoded, ho, resume, atomicWrite, filled, samplePath])
    (by simp [storing, going, writing, step, cut, call, leave, opened,
      openInternal, decoded, ho, resume, atomicWrite, filled, samplePath])
  refine ⟨⟨_, bytes, rfl, hf, ht, hn⟩, ?_⟩
  exact ((orderly_rotation_kept sampleXof samplePath).2.2
    (run (step sampleXof samplePath) (.opened sampleXof none (some keyOne))
      [storing 1 "a", rotating 2]) 2 (innerOne.unexpired 2).records (some keyTwo)
    [going 2, going 2] sampleNonce (.failed "busy" 0) _
    (by simp [rotating, storing, step, cut, call, leave, opened, openInternal, decoded, ho, lookup])
    (by simp [Along, Undisturbed, rotating, storing, going, step, cut, call, leave, opened,
      openInternal, decoded, ho, resume, atomicWrite, filled, samplePath])
    (by simp [rotating, storing, going, step, cut, call, leave, opened,
      openInternal, decoded, ho, resume, atomicWrite, filled, samplePath]; rfl)).1.trans
    (by simp [rotating, storing, step, cut, call, leave, opened, openInternal, decoded, ho])

/-- A store that has read the old key writes after the rotation has returned, and the file is an
envelope of the old key. And a store that renames the temporary file after the rotation has filled
it puts the new envelope in place, and the rotation fails: the file is changed and the key is not. -/
theorem raced_rotation_undone :
    ((∃ count, (step sampleXof samplePath (run (step sampleXof samplePath)
        (.opened sampleXof none (some keyOne))
          (storing 1 "a" :: going 1 :: rotating 2 :: writing 2)) (going 2)).1 =
            some (.rotated count)) ∧
      ∃ reached bytes, reached = run (step sampleXof samplePath)
          (.opened sampleXof none (some keyOne))
          (storing 1 "a" :: going 1 :: rotating 2 :: (writing 2 ++ going 2 :: writing 1)) ∧
        reached.waiting = [] ∧ reached.store.encryptionKey = some keyTwo ∧
        reached.store.file = some bytes ∧ EnvelopeOf sampleXof keyOne bytes) ∧
    ∃ reached bytes, reached = run (step sampleXof samplePath)
        (.opened sampleXof none (some keyOne))
        [storing 1 "a", going 1, rotating 2, going 1, going 1, going 2, going 2, going 1] ∧
      (step sampleXof samplePath reached (going 2)).1 = some (.failed (.protocol
        "failed to rename peer store temp into place: No such file or directory (os error 2)")) ∧
      reached.store.encryptionKey = some keyOne ∧
      reached.store.file = some bytes ∧ EnvelopeOf sampleXof keyTwo bytes := by
  have ho := innerOne_eq
  refine ⟨⟨⟨FileStoreInner.len (innerOne.unexpired 2), ?_⟩, _,
    encoded sampleXof innerOne.records sampleNonce (some keyOne), rfl, ?_, ?_, ?_,
    envelopeOf_encoded _ _ _ _⟩, _,
    encoded sampleXof (innerOne.unexpired 2).records sampleNonce (some keyTwo), rfl, ?_, ?_, ?_,
    envelopeOf_encoded _ _ _ _⟩
  all_goals
    simp [storing, going, writing, rotating, step, cut, call, leave, opened,
      openInternal, decoded, ho, resume, atomicWrite, filled, samplePath]

end QuantumLink.PeerStore
