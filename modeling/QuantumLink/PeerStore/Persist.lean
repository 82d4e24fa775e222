import QuantumLink.PeerStore.File

/-! # Writing the file from several threads

A call works on the records under the lock of the records, lets the lock go, and then writes what
it saw: it reads the key under a second lock, creates the temporary file, writes it and renames it
into place. Every call uses the same temporary file, and no lock is held from one of these steps to
the next, so any other call may come in between. The calls under way are kept in the order in which
they had the lock; which of them goes on next is input, and so are the nonces and what the file
system does.

If no call overtakes another, the file ends up with the records in memory and under the key that
was set last. The code does not see to that.
-/

namespace QuantumLink.PeerStore

open Device (QlinkError)
open Discovery
open QuantumLink.Frame (Xof)
open FileStoreInner
open List

/-! ## The store and its calls -/

structure FilePeerStore where
  encryptionKey : Option StoreKey
  inner : FileStoreInner
  file : Option Bytes
  temp : Option Bytes := none
  /-- How often the temporary file was renamed into place. -/
  renames : Nat := 0

inductive Operation where
  | store (meshId : String) (record : PeerRecord) (now : UInt64)
  | forget (meshId peerId : String)
  | pruneExpired (nowUnix : UInt64)
  | rotateKey (newKey : Option StoreKey) (now : UInt64)

inductive Answer where
  | done
  | pruned (removed : Nat)

inductive Returned where
  | answer (answer : Answer)
  | rotated (count : Nat)
  | failed (error : QlinkError)

/-- How far `atomic_write` has come. -/
inductive Stage where
  | create
  /-- The temporary file is open. It is known by the renames there were when it was created. -/
  | fill (opened : Nat)
  | rename

/-- What is left of a call after its section under the lock. -/
inductive Waiting where
  /-- `try_persist` reads the key next. -/
  | persist (snapshot : Meshes) (answer : Answer)
  /-- `try_persist_with_key`; `rotate_key` has no answer yet. -/
  | write (snapshot : Meshes) (key : Option StoreKey) (stage : Stage) (answer : Option Answer)
  | swap (snapshot : Meshes) (newKey : Option StoreKey)

def Waiting.snapshot : Waiting → Meshes
  | .persist snapshot _ | .write snapshot _ _ _ | .swap snapshot _ => snapshot

/-- A key that was read is to be used. -/
def Waiting.isWrite : Waiting → Bool
  | .write _ _ _ (some _) => true
  | _ => false

/-- The files have been touched. -/
def Waiting.begun : Waiting → Bool
  | .persist .. | .write _ _ .create _ => false
  | _ => true

/-- The key a rotation under way is to set. -/
def Waiting.rotation : Waiting → Option (Option StoreKey)
  | .write _ newKey _ none | .swap _ newKey => some newKey
  | _ => none

/-- The path as it is displayed, and whether it ends in a file name. -/
structure StorePath where
  text : String
  hasFileName : Bool

def StorePath.temp (path : StorePath) : String := path.text ++ ".tmp"

/-- What the file system makes of one step of a write. -/
inductive WriteOutcome where
  /-- A failed `write_all` may have written some of the bytes. -/
  | failed (error : String) (written : Nat)
  | done

/-- Writes from the start of a file that was opened as the temporary one. It may have been renamed
into place since, and then it is the file itself, or it may have been replaced since then. -/
def FilePeerStore.filled (store : FilePeerStore) (opened : Nat) (bytes : Bytes) : FilePeerStore :=
  if opened = store.renames then
    { store with temp := store.temp.map fun old => bytes ++ old.drop bytes.length }
  else if opened + 1 = store.renames then
    { store with file := store.file.map fun old => bytes ++ old.drop bytes.length }
  else store

/-- One step: the error it ends with, or what is left to do. -/
def atomicWrite (path : StorePath) (encoded : Bytes) (outcome : WriteOutcome) (stage : Stage)
    (store : FilePeerStore) : Except QlinkError (Option Stage) × FilePeerStore :=
  match stage, outcome with
  | .create, outcome =>
    if path.hasFileName = false then
      (.error (.protocol ("peer store path " ++ path.text ++ " has no file name")), store)
    else
      match outcome with
      | .failed error _ =>
        (.error (.protocol ("failed to create peer store temp at " ++ path.temp ++ ": " ++ error)),
          store)
      | .done => (.ok (some (.fill store.renames)), { store with temp := some [] })
  | .fill opened, .failed error written =>
    (.error (.protocol ("failed to write peer store temp at " ++ path.temp ++ ": " ++ error)),
      store.filled opened (encoded.take written))
  | .fill opened, .done => (.ok (some .rename), store.filled opened encoded)
  | .rename, .failed error _ =>
    (.error (.protocol ("failed to rename peer store temp into place: " ++ error)), store)
  | .rename, .done =>
    match store.temp with
    | none =>
      (.error (.protocol
        "failed to rename peer store temp into place: No such file or directory (os error 2)"), store)
    | some bytes =>
      (.ok none, { store with file := some bytes, temp := none, renames := store.renames + 1 })

/-- The calls under way are in the order in which they had the lock. -/
structure Process where
  store : FilePeerStore
  waiting : List (Nat × Waiting)

inductive Input where
  /-- A thread calls, and goes through the section under the lock. -/
  | call (thread : Nat) (operation : Operation)
  /-- The call of a thread goes on to its next step. -/
  | resume (thread : Nat) (nonce : StoreNonce) (outcome : WriteOutcome)

/-- The call of a thread, with those that had the lock before and after it. -/
def cut (thread : Nat) : List (Nat × Waiting) →
    Option (List (Nat × Waiting) × Waiting × List (Nat × Waiting))
  | [] => none
  | entry :: rest =>
    if entry.1 = thread then some ([], entry.2, rest)
    else (cut thread rest).map fun found => (entry :: found.1, found.2.1, found.2.2)

/-- A section ends: there is something to write, or the call returns. -/
def Process.leave (s : Process) (thread : Nat) (answer : Answer) (left : Section) :
    Option Returned × Process :=
  match left.snapshot with
  | some snapshot =>
    (none, ⟨{ s.store with inner := left.inner }, s.waiting ++ [(thread, .persist snapshot answer)]⟩)
  | none => (some (.answer answer), ⟨{ s.store with inner := left.inner }, s.waiting⟩)

def Process.call (s : Process) (thread : Nat) : Operation → Option Returned × Process
  | .store meshId record now => s.leave thread .done (s.store.inner.store meshId record now)
  | .forget meshId peerId => s.leave thread .done (s.store.inner.forget meshId peerId)
  | .pruneExpired nowUnix =>
    let (removed, left) := s.store.inner.pruneExpired nowUnix
    s.leave thread (.pruned removed) left
  | .rotateKey newKey now =>
    let pruned := s.store.inner.unexpired now
    (none, ⟨{ s.store with inner := pruned },
      s.waiting ++ [(thread, .write pruned.records newKey .create none)]⟩)

/-- The next step of a call. An error in `persist` is only logged; `rotate_key` returns it. -/
def Process.resume (xof : Xof) (path : StorePath) (s : Process) (thread : Nat) (nonce : StoreNonce)
    (outcome : WriteOutcome) (before : List (Nat × Waiting)) (waiting : Waiting)
    (after : List (Nat × Waiting)) : Option Returned × Process :=
  match waiting with
  | .persist snapshot answer =>
    (none, ⟨s.store,
      before ++ (thread, .write snapshot s.store.encryptionKey .create (some answer)) :: after⟩)
  | .write snapshot key stage answer =>
    let (result, store) := atomicWrite path (encoded xof snapshot nonce key) outcome stage s.store
    match result, answer with
    | .ok (some stage), _ =>
      (none, ⟨store, before ++ (thread, .write snapshot key stage answer) :: after⟩)
    | .ok none, none => (none, ⟨store, before ++ (thread, .swap snapshot key) :: after⟩)
    | .error error, none => (some (.failed error), ⟨store, before ++ after⟩)
    | _, some answer => (some (.answer answer), ⟨store, before ++ after⟩)
  | .swap snapshot newKey =>
    (some (.rotated (FileStoreInner.len ⟨snapshot⟩)),
      ⟨{ s.store with encryptionKey := newKey }, before ++ after⟩)

def step (xof : Xof) (path : StorePath) (s : Process) : Input → Option Returned × Process
  | .call thread operation =>
    if (cut thread s.waiting).isSome then (none, s) else s.call thread operation
  | .resume thread nonce outcome =>
    match cut thread s.waiting with
    | some (before, waiting, after) => s.resume xof path thread nonce outcome before waiting after
    | none => (none, s)

/-- What the file decodes to under the current key; no file counts as an empty one. -/
def FilePeerStore.decoded (xof : Xof) (store : FilePeerStore) : FileStoreInner :=
  match store.file with
  | some bytes => ⟨decodeOrEmpty xof bytes store.encryptionKey⟩
  | none => ⟨∅⟩

/-- `open_internal`, once the file was read or found missing. -/
def FilePeerStore.openInternal (xof : Xof) (file : Option Bytes) (key : Option StoreKey) :
    FilePeerStore :=
  let store : FilePeerStore := { encryptionKey := key, inner := ⟨∅⟩, file := file }
  { store with inner := store.decoded xof }

def Process.opened (xof : Xof) (file : Option Bytes) (key : Option StoreKey) : Process :=
  ⟨.openInternal xof file key, []⟩

/-- The file system lets every write through. -/
def Input.Unfailing (path : StorePath) : Input → Prop
  | .call .. => True
  | .resume _ _ outcome => path.hasFileName = true ∧ outcome = .done

/-- The clock has not gone past the time. -/
def Input.NotAfter (now : UInt64) : Input → Prop
  | .call _ (.store _ _ reading) | .call _ (.rotateKey _ reading) => reading ≤ now
  | _ => True

/-- No call overtakes another: files are touched only by the call that had the lock first, and the
key is not read while a rotation that had the lock before is under way. -/
def InOrder (s : Process) : Input → Prop
  | .call .. => True
  | .resume thread _ _ =>
    match cut thread s.waiting with
    | some (before, .persist .., _) => ∀ other ∈ before, other.2.rotation = none
    | some (before, _, _) => before = []
    | none => True

/-- What the files hold when a call has come this far, if no other call writes. -/
def Waiting.Progress (xof : Xof) (store : FilePeerStore) : Waiting → Prop
  | .write _ _ (.fill opened) _ => opened = store.renames ∧ store.temp = some []
  | .write snapshot key .rename _ => ∃ nonce, store.temp = some (encoded xof snapshot nonce key)
  | .swap snapshot newKey => ∃ nonce, store.file = some (encoded xof snapshot nonce newKey)
  | _ => True

/-- What a step in order does, where no write fails. -/
inductive Stepped (xof : Xof) (now : UInt64) (s : Process) (input : Input) : Process → Prop
  | idle : Stepped xof now s input s
  | kept (inner : FileStoreInner) (htrimmed : Trimmed now s.store.inner inner) :
      Stepped xof now s input ⟨{ s.store with inner := inner }, s.waiting⟩
  | entered (inner : FileStoreInner) (thread : Nat) (waiting : Waiting)
      (hsnapshot : waiting.snapshot = inner.records) (hwrite : waiting.isWrite = false)
      (hbegun : waiting.begun = false)
      (hrotation : ∀ newKey, waiting.rotation = some newKey →
        ∃ reading, input = .call thread (.rotateKey newKey reading)) :
      Stepped xof now s input ⟨{ s.store with inner := inner }, s.waiting ++ [(thread, waiting)]⟩
  | keyed (before after : List (Nat × Waiting)) (thread : Nat) (snapshot : Meshes)
      (answer : Answer) (hwaiting : s.waiting = before ++ (thread, .persist snapshot answer) :: after)
      (hbefore : ∀ other ∈ before, other.2.rotation = none) :
      Stepped xof now s input ⟨s.store,
        before ++ (thread, .write snapshot s.store.encryptionKey .create (some answer)) :: after⟩
  | advanced (after : List (Nat × Waiting)) (thread : Nat) (snapshot : Meshes)
      (key : Option StoreKey) (stage next : Stage) (answer : Option Answer) (temp : Option Bytes)
      (hwaiting : s.waiting = (thread, .write snapshot key stage answer) :: after)
      (hprogress : (Waiting.write snapshot key next answer).Progress xof
        { s.store with temp := temp }) :
      Stepped xof now s input
        ⟨{ s.store with temp := temp }, (thread, .write snapshot key next answer) :: after⟩
  | written (after : List (Nat × Waiting)) (thread : Nat) (snapshot : Meshes)
      (key : Option StoreKey) (stage : Stage) (answer : Answer) (nonce : StoreNonce) (renames : Nat)
      (hwaiting : s.waiting = (thread, .write snapshot key stage (some answer)) :: after) :
      Stepped xof now s input ⟨{ s.store with
        file := some (encoded xof snapshot nonce key), temp := none, renames := renames }, after⟩
  | rotated (after : List (Nat × Waiting)) (thread : Nat) (snapshot : Meshes)
      (newKey : Option StoreKey) (stage : Stage) (nonce : StoreNonce) (renames : Nat)
      (hwaiting : s.waiting = (thread, .write snapshot newKey stage none) :: after) :
      Stepped xof now s input ⟨{ s.store with
        file := some (encoded xof snapshot nonce newKey), temp := none, renames := renames },
        (thread, .swap snapshot newKey) :: after⟩
  | swapped (after : List (Nat × Waiting)) (thread : Nat) (snapshot : Meshes)
      (newKey : Option StoreKey)
      (hwaiting : s.waiting = (thread, .swap snapshot newKey) :: after) :
      Stepped xof now s input ⟨{ s.store with encryptionKey := newKey }, after⟩

variable {xof : Xof} {path : StorePath} {now : UInt64} {s : Process} {input : Input}

open Process

open FilePeerStore

variable {waiting : Waiting}

theorem cut_eq_some {thread : Nat} {l before after : List (Nat × Waiting)}
    (h : cut thread l = some (before, waiting, after)) :
    l = before ++ (thread, waiting) :: after := by
  induction l generalizing before with
  | nil => cases h
  | cons e r ih =>
    by_cases ht : e.1 = thread
    · rw [cut, if_pos ht] at h
      cases h
      rw [← ht]
      rfl
    · rw [cut, if_neg ht] at h
      obtain ⟨⟨before', waiting', after'⟩, hc, heq⟩ := Option.map_eq_some_iff.mp h
      cases heq
      rw [ih hc]
      rfl

theorem leave_stepped (h : Settles now s.store.inner left) :
    Stepped xof now s input (s.leave thread answer left).2 := by
  cases h with
  | write inner =>
    exact .entered inner thread (.persist inner.records answer) rfl rfl rfl (by intro _ h; cases h)
  | keep inner ht => exact .kept inner ht

theorem call_stepped {thread : Nat} {o : Operation} (hc : Input.NotAfter now (.call thread o)) :
    Stepped xof now s (.call thread o) (s.call thread o).2 := by
  cases o with
  | store m re r =>
    exact leave_stepped (store_settles hc s.store.inner m re)
  | forget m p =>
    exact leave_stepped (forget_settles now s.store.inner m p)
  | pruneExpired n =>
    exact leave_stepped (pruneExpired_settles now n s.store.inner)
  | rotateKey newKey r =>
    refine .entered (s.store.inner.unexpired r) thread
      (.write (s.store.inner.unexpired r).records newKey .create none) rfl rfl rfl ?_
    intro newKey' h
    cases h
    exact ⟨r, rfl⟩

/-- The records the file is to have once the calls under way are through: those the last of them
saw under the lock. -/
def Process.latest (xof : Xof) (s : Process) : FileStoreInner :=
  match (s.waiting.map fun entry => entry.2.snapshot).getLast? with
  | some snapshot => ⟨snapshot⟩
  | none => s.store.decoded xof

structure Coherent (xof : Xof) (now : UInt64) (s : Process) : Prop where
  /-- Only the first call can have touched the files, and none behind a rotation has read the key. -/
  ordered : s.waiting.Pairwise fun earlier later =>
    later.2.begun = false ∧ (earlier.2.rotation ≠ none → later.2.isWrite = false)
  /-- A key that was read is the current one. -/
  keys : ∀ entry ∈ s.waiting, ∀ snapshot key stage answer,
    entry.2 = .write snapshot key stage (some answer) → key = s.store.encryptionKey
  progress : ∀ entry ∈ s.waiting, entry.2.Progress xof s.store
  synced : Trimmed now (s.latest xof) s.store.inner

theorem progress_of_not_begun (h : waiting.begun = false) (store : FilePeerStore) :
    waiting.Progress xof store := by
  match waiting, h with
  | .persist .., _ | .write _ _ .create _, _ => trivial

/-- In order, and where no write fails, the first call is alone with the files. -/
theorem step_stepped (h : Coherent xof now s) (hf : input.Unfailing path)
    (hc : input.NotAfter now) (ho : InOrder s input) :
    Stepped xof now s input (step xof path s input).2 := by
  cases input with
  | call t o =>
    simp only [step]
    split
    · exact .idle
    · exact call_stepped hc
  | resume t nonce outcome =>
    obtain ⟨hp, rfl⟩ := hf
    simp only [step, InOrder] at ho ⊢
    cases hu : cut t s.waiting with
    | none => exact .idle
    | some found =>
      obtain ⟨before, waiting, after⟩ := found
      have hw := cut_eq_some hu
      rw [hu] at ho
      cases waiting with
      | persist snapshot answer => exact .keyed before after t snapshot answer hw ho
      | swap snapshot newKey =>
        obtain rfl : before = [] := ho
        exact .swapped after t snapshot newKey hw
      | write snapshot key stage answer =>
        obtain rfl : before = [] := ho
        have hr := h.progress _ (by rw [hw]; exact mem_cons_self)
        cases stage with
        | create =>
          simp only [resume, atomicWrite, hp, Bool.true_eq_false, if_false]
          exact .advanced after t snapshot key _ (.fill _) answer _ hw ⟨rfl, rfl⟩
        | fill opened =>
          obtain ⟨rfl, ht⟩ := hr
          simp only [resume, atomicWrite, filled, if_true, ht, Option.map_some, drop_nil, append_nil]
          exact .advanced after t snapshot key _ .rename answer _ hw ⟨nonce, rfl⟩
        | rename =>
          obtain ⟨nonce, ht⟩ := hr
          simp only [resume, atomicWrite, ht]
          cases answer with
          | none => exact .rotated after t snapshot key _ nonce _ hw
          | some answer => exact .written after t snapshot key _ answer nonce _ hw

theorem coherent_opened (xof : Xof) (now : UInt64) (f : Option Bytes) (key : Option StoreKey) :
    Coherent xof now (.opened xof f key) where
  ordered := Pairwise.nil
  keys := by simp [opened]
  progress := by simp [opened]
  synced := Trimmed.refl now _

theorem decoded_encoded {st : FilePeerStore} {snapshot : Meshes} {n : StoreNonce}
    (h : st.file = some (encoded xof snapshot n st.encryptionKey)) :
    st.decoded xof = ⟨snapshot⟩ := by
  simp [decoded, h, decodeOrEmpty_encoded]

/-- Once the first call is through, what the file is to have is as before: the file has it if no
other call is under way. -/
theorem latest_tail {f : Nat × Waiting} {after : List (Nat × Waiting)} {st : FilePeerStore}
    (hw : s.waiting = f :: after)
    (hd : st.decoded xof = ⟨f.2.snapshot⟩) :
    latest xof ⟨st, after⟩ = s.latest xof := by
  unfold latest
  rw [hw]
  cases after with
  | nil => exact hd
  | cons se r => rfl

/-! Each kind of step keeps the invariant. -/

section
variable {before after : List (Nat × Waiting)} {thread : Nat} {snapshot : Meshes}
  {answer : Answer} {key newKey : Option StoreKey}

theorem coherent_entered {inner : FileStoreInner} (h : Coherent xof now s)
    (hs : waiting.snapshot = inner.records) (hw : waiting.isWrite = false)
    (hb : waiting.begun = false) :
    Coherent xof now ⟨{ s.store with inner := inner }, s.waiting ++ [(thread, waiting)]⟩ := by
  refine ⟨?_, ?_, ?_, ?_⟩
  · refine pairwise_append.mpr ⟨h.ordered, pairwise_singleton _ _, ?_⟩
    intro earlier _ later hl
    obtain rfl := mem_singleton.mp hl
    exact ⟨hb, fun _ => hw⟩
  · refine forall_mem_append.mpr ⟨h.keys, forall_mem_singleton.mpr ?_⟩
    intro snapshot key stage answer heq
    obtain rfl : waiting = _ := heq
    cases hw
  · exact forall_mem_append.mpr ⟨h.progress, forall_mem_singleton.mpr (progress_of_not_begun hb _)⟩
  · have hl : latest xof ⟨{ s.store with inner := inner },
        s.waiting ++ [(thread, waiting)]⟩ = inner := by
      simp [latest, hs]
    rw [hl]
    exact Trimmed.refl now inner

theorem coherent_keyed (h : Coherent xof now s)
    (hw : s.waiting = before ++ (thread, .persist snapshot answer) :: after)
    (hb : ∀ other ∈ before, other.2.rotation = none) :
    Coherent xof now ⟨s.store,
      before ++ (thread, .write snapshot s.store.encryptionKey .create (some answer)) :: after⟩ := by
  obtain ⟨ho, hk, hp, hy⟩ := h
  simp only [latest, hw] at ho hk hp hy
  rw [pairwise_append, pairwise_cons] at ho
  rw [forall_mem_append, forall_mem_cons] at hk hp
  obtain ⟨hf, ⟨haf, hba⟩, ha⟩ := ho
  refine ⟨?_, ?_, ?_, ?_⟩
  · refine pairwise_append.mpr ⟨hf, pairwise_cons.mpr ⟨?_, hba⟩, ?_⟩
    · intro later hl
      exact ⟨(haf later hl).1, fun hr => absurd rfl hr⟩
    · intro earlier he later hl
      obtain rfl | hl := mem_cons.mp hl
      · exact ⟨rfl, fun hr => absurd (hb earlier he) hr⟩
      · exact ha earlier he later (mem_cons_of_mem _ hl)
  · refine forall_mem_append.mpr ⟨hk.1, forall_mem_cons.mpr ⟨?_, hk.2.2⟩⟩
    intro _ _ _ _ heq
    cases heq
    rfl
  · exact forall_mem_append.mpr ⟨hp.1, forall_mem_cons.mpr ⟨trivial, hp.2.2⟩⟩
  · simp only [latest, map_append, map_cons] at hy ⊢
    exact hy

/-- The calls behind the first one have not touched the files, so it may change them. -/
theorem Coherent.behind (h : Coherent xof now s) (hw : s.waiting = (thread, waiting) :: after)
    (store : FilePeerStore) :
    ∀ entry ∈ after, entry.2.Progress xof store := by
  intro entry hm
  have ho := h.ordered
  rw [hw, pairwise_cons] at ho
  exact progress_of_not_begun (ho.1 entry hm).1 store

variable {stage : Stage}

theorem coherent_advanced {next : Stage} {answer : Option Answer} {temp : Option Bytes}
    (h : Coherent xof now s) (hw : s.waiting = (thread, .write snapshot key stage answer) :: after)
    (hp : (Waiting.write snapshot key next answer).Progress xof { s.store with temp := temp }) :
    Coherent xof now
      ⟨{ s.store with temp := temp }, (thread, .write snapshot key next answer) :: after⟩ := by
  have hb := h.behind hw { s.store with temp := temp }
  obtain ⟨ho, hk, -, hy⟩ := h
  simp only [latest, hw] at ho hk hy
  rw [pairwise_cons] at ho
  rw [forall_mem_cons] at hk
  refine ⟨pairwise_cons.mpr ⟨?_, ho.2⟩, forall_mem_cons.mpr ⟨?_, hk.2⟩,
    forall_mem_cons.mpr ⟨hp, hb⟩, ?_⟩
  · intro later hl
    exact ⟨(ho.1 later hl).1, fun hr => (ho.1 later hl).2 (by cases answer <;> exact hr)⟩
  · intro _ _ _ _ heq
    cases heq
    exact hk.1 _ _ _ _ rfl
  · simp only [latest, map_cons] at hy ⊢
    exact hy

theorem coherent_written (h : Coherent xof now s) (nonce : StoreNonce) (renames : Nat)
    (hw : s.waiting = (thread, .write snapshot key stage (some answer)) :: after) :
    Coherent xof now ⟨{ s.store with
      file := some (encoded xof snapshot nonce key), temp := none, renames := renames }, after⟩ := by
  have hb := h.behind hw { s.store with
    file := some (encoded xof snapshot nonce key), temp := none, renames := renames }
  obtain ⟨ho, hk, -, hy⟩ := h
  rw [hw] at ho hk
  rw [pairwise_cons] at ho
  rw [forall_mem_cons] at hk
  obtain rfl : key = s.store.encryptionKey := hk.1 snapshot key stage answer rfl
  refine ⟨ho.2, hk.2, hb, ?_⟩
  rw [latest_tail hw (decoded_encoded rfl)]
  exact hy

theorem coherent_rotated (h : Coherent xof now s) (nonce : StoreNonce) (renames : Nat)
    (hw : s.waiting = (thread, .write snapshot newKey stage none) :: after) :
    Coherent xof now ⟨{ s.store with
      file := some (encoded xof snapshot nonce newKey), temp := none, renames := renames },
      (thread, .swap snapshot newKey) :: after⟩ := by
  have hb := h.behind hw { s.store with
    file := some (encoded xof snapshot nonce newKey), temp := none, renames := renames }
  obtain ⟨ho, hk, -, hy⟩ := h
  simp only [latest, hw] at ho hk hy
  rw [pairwise_cons] at ho
  rw [forall_mem_cons] at hk
  refine ⟨pairwise_cons.mpr ⟨?_, ho.2⟩, forall_mem_cons.mpr ⟨nofun, hk.2⟩,
    forall_mem_cons.mpr ⟨⟨nonce, rfl⟩, hb⟩, ?_⟩
  · intro later hl
    exact ⟨(ho.1 later hl).1, fun _ => (ho.1 later hl).2 nofun⟩
  · simp only [latest, map_cons] at hy ⊢
    exact hy

theorem coherent_swapped (h : Coherent xof now s)
    (hw : s.waiting = (thread, .swap snapshot newKey) :: after) :
    Coherent xof now ⟨{ s.store with encryptionKey := newKey }, after⟩ := by
  have hb := h.behind hw { s.store with encryptionKey := newKey }
  obtain ⟨ho, -, hp, hy⟩ := h
  rw [hw] at ho hp
  rw [pairwise_cons] at ho
  obtain ⟨nonce, hf⟩ := hp _ mem_cons_self
  refine ⟨ho.2, ?_, hb, ?_⟩
  · intro entry he _ _ _ _ heq
    have hn := (ho.1 entry he).2 nofun
    rw [heq] at hn
    cases hn
  · rw [latest_tail hw (decoded_encoded hf)]
    exact hy

end

theorem coherent_stepped {next : Process} (hst : Stepped xof now s input next)
    (h : Coherent xof now s) : Coherent xof now next := by
  cases hst with
  | idle => exact h
  | kept inner ht => exact ⟨h.ordered, h.keys, h.progress, h.synced.trans ht⟩
  | entered inner thread waiting hs hw hb => exact coherent_entered h hs hw hb
  | keyed before after thread snapshot answer hw hb => exact coherent_keyed h hw hb
  | advanced after thread snapshot key stage next answer temp hw hp =>
    exact coherent_advanced h hw hp
  | written after thread snapshot key stage answer nonce renames hw =>
    exact coherent_written h nonce renames hw
  | rotated after thread snapshot key stage nonce renames hw =>
    exact coherent_rotated h nonce renames hw
  | swapped after thread snapshot newKey hw => exact coherent_swapped h hw

/-- A step in order, with no failure of the file system, up to a time. -/
@[mk_iff orderly_iff]
structure Orderly (path : StorePath) (now : UInt64) (s : Process) (input : Input) : Prop where
  order : InOrder s input
  unfailing : input.Unfailing path
  clock : input.NotAfter now

theorem coherent_run {inp : List Input} (h : Coherent xof now s)
    (ho : Along (step xof path) (Orderly path now) s inp) :
    Coherent xof now (run (step xof path) s inp) := by
  refine run_invariant_along (Coherent xof now) ?_ h ho
  intro r i hr hi
  exact coherent_stepped (step_stepped hr hi.unfailing hi.clock hi.order) hr

/-- **The file and the records.** In a run in which no call overtakes another, once all calls have
returned the file decodes to the records in memory, up to records that have expired. -/
theorem orderly_file_kept (xof : Xof) (path : StorePath) (file : Option Bytes)
    (key : Option StoreKey) (now : UInt64) (inputs : List Input)
    (horderly : Along (step xof path) (Orderly path now) (.opened xof file key) inputs)
    (hreturned : (run (step xof path) (.opened xof file key) inputs).waiting = []) :
    Trimmed now ((run (step xof path) (.opened xof file key) inputs).store.decoded xof)
      (run (step xof path) (.opened xof file key) inputs).store.inner := by
  have hc := coherent_run (coherent_opened xof now file key) horderly
  have hs := hc.synced
  simp only [latest, hreturned] at hs
  exact hs

/-! ## Two stores at once -/

def samplePath : StorePath := ⟨"peers.json", true⟩

theorem store_eq_of_newer {se : FileStoreInner} {r : PeerRecord}
    (hn : se.load meshId r.body.peerId = none) :
    se.store meshId r reading =
      ⟨some (se.store meshId r reading).inner.records, (se.store meshId r reading).inner⟩ := by
  have ho : ¬ ∃ e ∈ ((se.unexpired reading).records.lookup meshId).getD ∅ |>.lookup
      r.body.peerId, r.body.sequence ≤ e.body.sequence := by
    rintro ⟨e, he, -⟩
    rw [lookup_getD, load_unexpired, hn] at he
    cases he
  simp only [FileStoreInner.store, if_neg ho]

theorem load_empty (m p : String) : FileStoreInner.load ⟨∅⟩ m p = none := rfl

/-- The store after a record of the sample device is stored in one mesh, and in another. -/
def innerOne : FileStoreInner :=
  (FileStoreInner.store ⟨∅⟩ "a" (sampleRecord 1 100 1) 2).inner

def innerTwo : FileStoreInner := (innerOne.store "b" (sampleRecord 1 100 1) 2).inner

theorem load_innerOne (m : String) : innerOne.load m samplePeer =
      if m = "a" then some (sampleRecord 1 100 1) else none := by
  rw [innerOne, load_store]
  simp [stored, load_empty, sampleRecord, PeerRecord.signed, sampleBody]

theorem innerOne_eq : FileStoreInner.store ⟨∅⟩ "a" (sampleRecord 1 100 1) 2 =
    ⟨some innerOne.records, innerOne⟩ :=
  store_eq_of_newer (load_empty _ _)

theorem innerTwo_eq : innerOne.store "b" (sampleRecord 1 100 1) 2 =
    ⟨some innerTwo.records, innerTwo⟩ := by
  refine store_eq_of_newer ?_
  exact (load_innerOne "b").trans (if_neg (by decide))

theorem load_innerTwo : innerTwo.load "b" samplePeer = some (sampleRecord 1 100 1) := by
  rw [innerTwo, load_store]
  have hn : innerOne.load "b" samplePeer = none := (load_innerOne "b").trans (if_neg (by decide))
  have hp : (sampleRecord 1 100 1).body.peerId = samplePeer := rfl
  rw [stored, hp, hn, if_pos ⟨rfl, rfl, by simp⟩]

/-- A thread stores a record, and its call goes on. -/
def storing (thread : Nat) (meshId : String) : Input :=
  .call thread (.store meshId (sampleRecord 1 100 1) 2)

def going (thread : Nat) : Input := .resume thread sampleNonce .done

/-- The call creates, writes and renames the temporary file. -/
def writing (thread : Nat) : List Input := replicate 3 (going thread)

/-- One call after the other. -/
theorem sequential_file_kept : Trimmed 2
      ((run (step sampleXof samplePath) (.opened sampleXof none none)
        (storing 1 "a" :: going 1 :: writing 1)).store.decoded sampleXof)
      (run (step sampleXof samplePath) (.opened sampleXof none none)
        (storing 1 "a" :: going 1 :: writing 1)).store.inner := by
  have ho := innerOne_eq
  refine orderly_file_kept sampleXof samplePath none none 2 _ ?_ ?_
  all_goals
    simp [Along, orderly_iff, InOrder, Input.Unfailing, Input.NotAfter, storing, going, writing,
      step, cut, call, leave, opened, openInternal, decoded, ho, resume, atomicWrite, filled,
      samplePath]

/-- Both calls have had the lock. The second one writes first. -/
def raced : List Input :=
  storing 1 "a" :: storing 2 "b" :: going 2 :: (writing 2 ++ going 1 :: writing 1)

/-- The second call to have the lock writes first, and the first one then writes over it: the record
of the second is in memory, unexpired, and not in the file. -/
theorem raced_file_lost :
    (run (step sampleXof samplePath) (.opened sampleXof none none) raced).waiting = [] ∧
      (run (step sampleXof samplePath) (.opened sampleXof none none) raced).store.inner.load "b"
          samplePeer = some (sampleRecord 1 100 1) ∧
      live 2 (sampleRecord 1 100 1) = true ∧
      ((run (step sampleXof samplePath) (.opened sampleXof none none) raced).store.decoded
          sampleXof).load "b" samplePeer = none := by
  have ho := innerOne_eq
  have ht := innerTwo_eq
  have hr : run (step sampleXof samplePath) (.opened sampleXof none none) raced =
      ⟨⟨none, innerTwo, some (encoded sampleXof innerOne.records sampleNonce none), none, 2⟩,
        []⟩ := by
    simp [raced, storing, going, writing, step, cut, call, leave, opened,
      openInternal, decoded, ho, ht, resume, atomicWrite, filled, samplePath]
  rw [hr]
  refine ⟨rfl, load_innerTwo, by decide, ?_⟩
  rw [decoded_encoded rfl]
  exact (load_innerOne "b").trans (if_neg (by decide))

end QuantumLink.PeerStore
