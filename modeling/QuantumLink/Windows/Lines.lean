import QuantumLink.Foundation.Json.Text

/-! # Lines of the named pipe

`read_bounded_line` of the Windows service takes the buffers of its reader one at a time and carries
a line over from one to the next. What it should read is stated over the bytes alone.
-/

namespace QuantumLink.Windows

open List

inductive LineResult where
  | line (text : String)
  | endOfStream
  | tooLong
  | invalidUtf8
deriving DecidableEq

def notNewline (byte : UInt8) : Bool := byte != 10

def stripCarriageReturn (line : Bytes) : Bytes :=
  if line.getLast? = some 13 then line.dropLast else line

def fromUtf8 (line : Bytes) : LineResult :=
  match String.fromUTF8? ⟨line.toArray⟩ with
  | some text => .line text
  | none => .invalidUtf8

/-- Reads on with what is there of the line. The buffers are those still to come; one that is used
in part is the first of them. -/
def readBoundedLine (maxLen : Nat) : Bytes → List Bytes → LineResult × List Bytes
  | line, [] => (if line = [] then .endOfStream else fromUtf8 line, [])
  | line, buffer :: buffers =>
    match buffer.dropWhile notNewline with
    | [] =>
      if line.length + buffer.length > maxLen then (.tooLong, buffer :: buffers)
      else readBoundedLine maxLen (line ++ buffer) buffers
    | _ :: after =>
      let front := buffer.takeWhile notNewline
      if line.length + (stripCarriageReturn front).length > maxLen then
        (.tooLong, buffer :: buffers)
      else
        (fromUtf8 (stripCarriageReturn (line ++ front)),
          if after = [] then buffers else after :: buffers)

/-- The results of `n` reads, up to the first that is not a line. -/
def readLines {σ : Type} (read : σ → LineResult × σ) : Nat → σ → List LineResult
  | 0, _ => []
  | n + 1, s =>
    match read s with
    | (.line text, rest) => .line text :: readLines read n rest
    | (result, _) => [result]

/-! ## What the bytes alone say -/

variable (maxLen : Nat)

def accept (line : Bytes) : LineResult :=
  if line.length > maxLen then .tooLong else fromUtf8 line

/-- The first line, or what is there without a newline. -/
def nextLine (stream : Bytes) : LineResult × Bytes :=
  match stream.dropWhile notNewline with
  | [] => (if stream = [] then .endOfStream else accept maxLen stream, [])
  | _ :: after => (accept maxLen (stripCarriageReturn (stream.takeWhile notNewline)), after)

/-- The first line is one byte over the limit, and that byte is the carriage return. -/
def OverByReturn (stream : Bytes) : Prop :=
  stream.dropWhile notNewline ≠ [] ∧ (stream.takeWhile notNewline).length = maxLen + 1 ∧
    (stream.takeWhile notNewline).getLast? = some 13

/-- None of the first `n` lines is over the limit by its carriage return. -/
def NoneOver (maxLen : Nat) : Nat → Bytes → Prop
  | 0, _ => True
  | n + 1, stream => ¬ OverByReturn maxLen stream ∧
    match nextLine maxLen stream with
    | (.line _, rest) => NoneOver maxLen n rest
    | _ => True

/-- The buffers of a reader that give the stream. -/
def Buffers (stream : Bytes) (buffers : List Bytes) : Prop :=
  buffers.flatten = stream ∧ ∀ buffer ∈ buffers, buffer ≠ []

theorem length_stripCarriageReturn (l : Bytes) : (stripCarriageReturn l).length =
      if l.getLast? = some 13 then l.length - 1 else l.length := by
  unfold stripCarriageReturn
  split_ifs <;> simp

theorem fromUtf8_ne_tooLong (l : Bytes) : fromUtf8 l ≠ .tooLong := by
  unfold fromUtf8
  split <;> simp

theorem takeWhile_eq_self_of_dropWhile {buffer : Bytes} (h : buffer.dropWhile notNewline = []) :
    buffer.takeWhile notNewline = buffer := by
  have ha := takeWhile_append_dropWhile (p := notNewline) (l := buffer)
  rwa [h, append_nil] at ha

theorem length_strip_append (l f : Bytes) (hf : f ≠ []) : (stripCarriageReturn (l ++ f)).length =
      l.length + (stripCarriageReturn f).length := by
  rw [length_stripCarriageReturn, length_stripCarriageReturn, getLast?_append_of_ne_nil _ hf]
  have hp := length_pos_iff.mpr hf
  split_ifs
  · rw [length_append]
    omega
  · exact length_append

/-- A read with `line` carried over, when the bytes to come have no newline. -/
theorem readBoundedLine_rest {maxLen : Nat} (bu : List Bytes) (l : Bytes)
    (hl : l.length ≤ maxLen) (hd : bu.flatten.dropWhile notNewline = []) :
    (readBoundedLine maxLen l bu).1 = (if l ++ bu.flatten = [] then .endOfStream
          else accept maxLen (l ++ bu.flatten)) ∧
      ((l ++ bu.flatten).length ≤ maxLen → (readBoundedLine maxLen l bu).2 = []) := by
  induction bu generalizing l with
  | nil => simp [readBoundedLine, accept, Nat.not_lt.mpr hl]
  | cons b bu ih =>
    rw [flatten_cons, dropWhile_append] at hd
    have hb : b.dropWhile notNewline = [] := by
      by_contra hn
      rw [if_neg (by simpa using hn)] at hd
      exact hn (append_eq_nil_iff.mp hd).1
    simp only [hb, isEmpty_nil, if_true] at hd
    rw [readBoundedLine, hb, flatten_cons, ← append_assoc]
    dsimp only
    by_cases ho : l.length + b.length > maxLen
    · rw [if_pos ho]
      have hlo : (l ++ b ++ bu.flatten).length > maxLen := by
        simp only [length_append]
        omega
      rw [if_neg (ne_nil_of_length_pos (by omega)), accept, if_pos hlo]
      exact ⟨rfl, fun hle => absurd hle (Nat.not_le.mpr hlo)⟩
    · rw [if_neg ho]
      exact ih (l ++ b) (by simp; omega) hd

/-- A read with `line` carried over, when a newline is to come and the line is not over the limit
by a carriage return. -/
theorem readBoundedLine_line {maxLen : Nat} {a : Bytes} {n : UInt8}
    (buffers : List Bytes) (line : Bytes) (hl : line.length ≤ maxLen)
    (hd : buffers.flatten.dropWhile notNewline = n :: a)
    (ho : ¬ ((line ++ buffers.flatten.takeWhile notNewline).length = maxLen + 1 ∧
      (line ++ buffers.flatten.takeWhile notNewline).getLast? = some 13))
    (hne : ∀ buffer ∈ buffers, buffer ≠ []) :
    (readBoundedLine maxLen line buffers).1 =
        accept maxLen (stripCarriageReturn (line ++ buffers.flatten.takeWhile notNewline)) ∧
      ((readBoundedLine maxLen line buffers).1 ≠ .tooLong →
        Buffers a (readBoundedLine maxLen line buffers).2) := by
  induction buffers generalizing line with
  | nil => simp at hd
  | cons buffer buffers ih =>
    rw [flatten_cons, dropWhile_append] at hd
    rw [flatten_cons, takeWhile_append] at ho ⊢
    rw [readBoundedLine]
    cases hb : buffer.dropWhile notNewline with
    | nil =>
      simp only [hb, isEmpty_nil, if_true] at hd
      rw [takeWhile_eq_self_of_dropWhile hb, if_pos rfl, ← append_assoc] at ho ⊢
      dsimp only
      split_ifs with hlo
      · refine ⟨?_, fun hn => absurd rfl hn⟩
        rw [accept, if_pos]
        rw [length_stripCarriageReturn]
        simp only [length_append] at ho ⊢
        split_ifs with hr
        · have hno : ¬ (line.length + buffer.length +
              (buffers.flatten.takeWhile notNewline).length = maxLen + 1) := fun he => ho ⟨he, hr⟩
          omega
        · omega
      · exact ih (line ++ buffer) (by simp; omega) hd ho
          fun o hm => hne o (mem_cons_of_mem _ hm)
    | cons b t =>
      have hfr : ¬ (buffer.takeWhile notNewline).length = buffer.length := by
        have ha := congrArg length
          (takeWhile_append_dropWhile (p := notNewline) (l := buffer))
        rw [hb] at ha
        simp at ha
        omega
      rw [hb, if_neg (by simp), cons_append] at hd
      rw [if_neg hfr]
      obtain ⟨rfl, rfl⟩ := cons_eq_cons.mp hd
      have hlo : line.length + (stripCarriageReturn (buffer.takeWhile notNewline)).length > maxLen ↔
          (stripCarriageReturn (line ++ buffer.takeWhile notNewline)).length > maxLen := by
        by_cases hf : buffer.takeWhile notNewline = []
        · rw [hf, append_nil, length_stripCarriageReturn, length_stripCarriageReturn]
          simp only [getLast?_nil, length_nil]
          split_ifs <;> omega
        · rw [length_strip_append line _ hf]
      dsimp only
      rw [accept]
      by_cases hl' : (stripCarriageReturn (line ++ buffer.takeWhile notNewline)).length > maxLen
      · rw [if_pos (hlo.mpr hl'), if_pos hl']
        exact ⟨rfl, fun hn => absurd rfl hn⟩
      · rw [if_neg (mt hlo.mp hl'), if_neg hl']
        refine ⟨rfl, fun _ => ?_⟩
        have hre : ∀ o ∈ buffers, o ≠ [] := fun o hm => hne o (mem_cons_of_mem _ hm)
        dsimp only
        split_ifs with ht
        · rw [ht]
          exact ⟨rfl, hre⟩
        · exact ⟨rfl, forall_mem_cons.mpr ⟨ht, hre⟩⟩

theorem head?_readLines {σ : Type} (re : σ → LineResult × σ) (n : Nat) (s : σ) :
    (readLines re (n + 1) s).head? = some (re s).1 := by
  rw [readLines]
  rcases re s with ⟨_ | _, r⟩ <;> rfl

theorem noneOver_nil (m n : Nat) : NoneOver m n [] := by
  cases n with
  | zero => trivial
  | succ n => exact ⟨fun h => h.1 rfl, trivial⟩

/-- One read, unless the line is over the limit by its carriage return. -/
theorem readBoundedLine_eq {maxLen : Nat} {s : Bytes} {b : List Bytes}
    (hb : Buffers s b) (ho : ¬ OverByReturn maxLen s) :
    (readBoundedLine maxLen [] b).1 = (nextLine maxLen s).1 ∧
      ∀ text, (nextLine maxLen s).1 = .line text →
        Buffers (nextLine maxLen s).2 (readBoundedLine maxLen [] b).2 := by
  obtain ⟨rfl, hne⟩ := hb
  rw [nextLine]
  cases hd : b.flatten.dropWhile notNewline with
  | nil =>
    obtain ⟨hr, hre⟩ := readBoundedLine_rest b [] (Nat.zero_le maxLen) hd
    refine ⟨hr, fun text ht => ?_⟩
    have hs : b.flatten.length ≤ maxLen := by
      by_contra hn
      dsimp only at ht
      split_ifs at ht
      rw [accept, if_pos (by omega)] at ht
      contradiction
    rw [hre hs]
    exact ⟨rfl, by simp⟩
  | cons n a =>
    have hv : ¬ (([] ++ b.flatten.takeWhile notNewline).length = maxLen + 1 ∧
        ([] ++ b.flatten.takeWhile notNewline).getLast? = some 13) :=
      fun he => ho ⟨by simp [hd], he⟩
    obtain ⟨hr, hre⟩ := readBoundedLine_line b [] (Nat.zero_le maxLen) hd hv hne
    refine ⟨hr, fun text ht => hre ?_⟩
    rw [hr]
    exact fun hn => nomatch ht.symm.trans hn

theorem readLines_eq {m : Nat} (n : Nat) {stream : Bytes} {b : List Bytes}
    (hb : Buffers stream b) (hn : NoneOver m n stream) :
    readLines (readBoundedLine m []) n b = readLines (nextLine m) n stream := by
  induction n generalizing stream b with
  | zero => rfl
  | succ n ih =>
    obtain ⟨ho, hn⟩ := hn
    obtain ⟨hr, he⟩ := readBoundedLine_eq hb ho
    rw [readLines, readLines]
    rcases hs : nextLine m stream with ⟨result, rest⟩
    rcases hc : readBoundedLine m [] b with ⟨result', rest'⟩
    rw [hs] at hr he hn
    rw [hc] at hr he
    obtain rfl : result' = result := hr
    cases result' with
    | line t => exact congrArg _ (ih (he t rfl) hn)
    | _ => rfl

/-- Cut between the carriage return and the newline, a line that is over by its carriage return is
refused for its length. -/
theorem exists_differing_buffers {m : Nat} (n : Nat) {stream : Bytes}
    (h : ¬ NoneOver m n stream) : ∃ buffers, Buffers stream buffers ∧
      readLines (readBoundedLine m []) n buffers ≠ readLines (nextLine m) n stream := by
  induction n generalizing stream with
  | zero => exact absurd trivial h
  | succ n ih =>
    by_cases ho : OverByReturn m stream
    · obtain ⟨hd, hle, ha⟩ := ho
      refine ⟨[stream.takeWhile notNewline, stream.dropWhile notNewline],
        ⟨by simp, by simp [hd, ne_nil_of_length_eq_add_one hle]⟩, ?_⟩
      have ht : (stream.takeWhile notNewline).dropWhile notNewline = [] := by
        simpa using fun b => mem_takeWhile_imp
      have hre : (readBoundedLine m []
          [stream.takeWhile notNewline, stream.dropWhile notNewline]).1 = .tooLong := by
        rw [readBoundedLine, ht]
        simp [hle]
      have hx : (nextLine m stream).1 ≠ .tooLong := by
        rw [nextLine]
        cases hc : stream.dropWhile notNewline with
        | nil => exact absurd hc hd
        | cons ne a =>
          dsimp only
          rw [accept, length_stripCarriageReturn, if_pos ha, hle, if_neg (by omega)]
          exact fromUtf8_ne_tooLong _
      intro he
      have hh := congrArg head? he
      rw [head?_readLines, head?_readLines, hre] at hh
      exact hx (Option.some.inj hh).symm
    · rcases hs : nextLine m stream with ⟨r, rest⟩
      have hn : ∃ t, r = .line t ∧ ¬ NoneOver m n rest := by
        by_contra hno
        refine h ⟨ho, ?_⟩
        rw [hs]
        cases r with
        | line t => exact not_not.mp fun hr => hno ⟨t, rfl, hr⟩
        | _ => trivial
      obtain ⟨t, rfl, hr⟩ := hn
      obtain ⟨buffers, hb, hd⟩ := ih hr
      rw [nextLine] at hs
      cases hc : stream.dropWhile notNewline with
      | nil =>
        rw [hc] at hs
        obtain ⟨-, rfl⟩ := Prod.mk.inj hs
        exact absurd (noneOver_nil m n) hr
      | cons ne a =>
        rw [hc] at hs
        obtain ⟨hl, rfl⟩ := Prod.mk.inj hs
        have hf : ∀ b ∈ stream.takeWhile notNewline, notNewline b = true :=
          fun b => mem_takeWhile_imp
        have hne : notNewline ne = false := by
          have hh := head_dropWhile_not notNewline (l := stream) (by simp [hc])
          simpa [hc] using hh
        have hre : readBoundedLine m []
            ((stream.takeWhile notNewline ++ [ne]) :: buffers) = (.line t, buffers) := by
          rw [readBoundedLine, dropWhile_append_of_pos hf, takeWhile_append_of_pos hf]
          rw [accept] at hl
          split_ifs at hl with hle
          simp [hne, hl, Nat.not_lt.mp hle]
        refine ⟨(stream.takeWhile notNewline ++ [ne]) :: buffers, ⟨?_, ?_⟩, ?_⟩
        · rw [flatten_cons, hb.1, append_assoc, singleton_append, ← hc, takeWhile_append_dropWhile]
        · exact forall_mem_cons.mpr ⟨by simp, hb.2⟩
        · rw [readLines, hre, readLines, nextLine, hc, hl]
          exact fun he => hd (cons_eq_cons.mp he).2

/-- However the stream is cut into buffers, repeated reads give the lines of its bytes, exactly if no
line that is reached is over the limit by its carriage return. -/
theorem lines_independent_of_buffers_iff (stream : Bytes) :
    ((∀ n buffers buffers', Buffers stream buffers → Buffers stream buffers' →
      readLines (readBoundedLine maxLen []) n buffers =
        readLines (readBoundedLine maxLen []) n buffers') ∧
    ∀ n buffers, Buffers stream buffers →
      readLines (readBoundedLine maxLen []) n buffers = readLines (nextLine maxLen) n stream) ↔
    ∀ n, NoneOver maxLen n stream := by
  constructor
  · rintro ⟨-, h⟩ n
    by_contra hn
    obtain ⟨buffers, hb, hd⟩ := exists_differing_buffers n hn
    exact hd (h n buffers hb)
  · intro h
    refine ⟨fun n buffers buffers' hb hb' => ?_, fun n buffers hb => readLines_eq n hb (h n)⟩
    rw [readLines_eq n hb (h n), readLines_eq n hb' (h n)]

/-- `ping` with a limit of four bytes: read in one buffer, and cut before the newline. -/
theorem ping_refused_when_cut : readLines (readBoundedLine 4 []) 1 [[112, 105, 110, 103, 13, 10]] =
        [fromUtf8 [112, 105, 110, 103]] ∧
      fromUtf8 [112, 105, 110, 103] = .line "ping" ∧
      readLines (readBoundedLine 4 []) 1 [[112, 105, 110, 103, 13], [10]] = [.tooLong] := by
  refine ⟨by decide, by decide, by decide⟩

end QuantumLink.Windows
