import QuantumLink.Foundation.Json.Text

/-! # Reading JSON text

A recursive-descent reader for the grammar: blanks between tokens, all escapes
with surrogate pairs, no leading zeros. A number with a sign, a fraction or an
exponent is refused here already, since it decodes into no type the models have.
The main result is that the reader inverts the compact writer, so the compact
text of a value determines the value.
-/

namespace QuantumLink.Json

open List

/-! ## Tokens -/

def isBlank (c : Char) : Bool := c = ' ' || c = '\n' || c = '\r' || c = '\t'

def skipBlanks (text : List Char) : List Char := text.dropWhile isBlank

theorem skipBlanks_cons {c : Char} (h : isBlank c = false) (rest : List Char) :
    skipBlanks (c :: rest) = c :: rest := by
  simp [skipBlanks, h]

def hexValue (c : Char) : Option Nat :=
  if 48 ≤ c.toNat ∧ c.toNat ≤ 57 then some (c.toNat - 48)
  else if 97 ≤ c.toNat ∧ c.toNat ≤ 102 then some (c.toNat - 87)
  else if 65 ≤ c.toNat ∧ c.toNat ≤ 70 then some (c.toNat - 55)
  else none

/-- Four hexadecimal digits. -/
def readHex4 : List Char → Option (Nat × List Char)
  | a :: b :: c :: d :: rest => do
      let a ← hexValue a
      let b ← hexValue b
      let c ← hexValue c
      let d ← hexValue d
      pure (((a * 16 + b) * 16 + c) * 16 + d, rest)
  | _ => none

/-- The character a four-digit escape names; a high surrogate needs its low half. -/
def readUnicode (text : List Char) : Option (Char × List Char) := do
  let (unit, rest) ← readHex4 text
  if 0xD800 ≤ unit ∧ unit < 0xDC00 then
    match rest with
    | '\\' :: 'u' :: rest => do
        let (low, rest) ← readHex4 rest
        if 0xDC00 ≤ low ∧ low < 0xE000 then
          pure (Char.ofNat (0x10000 + (unit - 0xD800) * 0x400 + (low - 0xDC00)), rest)
        else none
    | _ => none
  else if 0xDC00 ≤ unit ∧ unit < 0xE000 then none
  else pure (Char.ofNat unit, rest)

def shortEscape (c : Char) : Option Char :=
  if c = '"' then some '"'
  else if c = '\\' then some '\\'
  else if c = '/' then some '/'
  else if c = 'b' then some '\x08'
  else if c = 'f' then some '\x0c'
  else if c = 'n' then some '\n'
  else if c = 'r' then some '\r'
  else if c = 't' then some '\t'
  else none

/-- One character of a string literal, not its closing quote. -/
def readChar : List Char → Option (Char × List Char)
  | [] => none
  | c :: rest =>
    if c = '\\' then
      match rest with
      | [] => none
      | e :: rest =>
        if e = 'u' then readUnicode rest
        else (shortEscape e).map fun c => (c, rest)
    else if c.toNat < 32 then none
    else some (c, rest)

/-- The characters up to the closing quote, and the text after it. -/
def readString : Nat → List Char → Option (List Char × List Char)
  | 0, _ => none
  | fuel + 1, text =>
    if text.head? = some '"' then some ([], text.tail)
    else do
      let (c, rest) ← readChar text
      let (cs, rest) ← readString fuel rest
      pure (c :: cs, rest)

/-- A number must not run on into a fraction or an exponent. -/
def endsNumber (rest : List Char) : Bool :=
  match rest with
  | [] => true
  | c :: _ => !c.isDigit && c ≠ '.' && c ≠ 'e' && c ≠ 'E'

def readNumber (text : List Char) : Option (Json × List Char) :=
  let digits := text.takeWhile Char.isDigit
  let rest := text.dropWhile Char.isDigit
  if digits.head? = some '0' ∧ digits.length ≠ 1 then none
  else if endsNumber rest then some (.num (Nat.ofDigitChars 10 digits 0), rest)
  else none

def readLiteral : List Char → Option (Json × List Char)
  | 'n' :: 'u' :: 'l' :: 'l' :: rest => some (.null, rest)
  | 't' :: 'r' :: 'u' :: 'e' :: rest => some (.bool true, rest)
  | 'f' :: 'a' :: 'l' :: 's' :: 'e' :: rest => some (.bool false, rest)
  | _ => none

def readKey (fuel : Nat) (text : List Char) : Option (String × List Char) :=
  match skipBlanks text with
  | '"' :: rest => do
      let (key, rest) ← readString fuel rest
      match skipBlanks rest with
      | ':' :: rest => pure (String.ofList key, rest)
      | _ => none
  | _ => none

/-! ## Values -/

mutual

def readValue : Nat → List Char → Option (Json × List Char)
  | 0, _ => none
  | fuel + 1, text =>
    match skipBlanks text with
    | [] => none
    | c :: rest =>
      if c = '"' then (readString fuel rest).map fun p => (.str (String.ofList p.1), p.2)
      else if c = '[' then
        if (skipBlanks rest).head? = some ']' then some (.arr [], (skipBlanks rest).tail)
        else do
          let (item, rest) ← readValue fuel rest
          let (items, rest) ← readItems fuel rest
          pure (.arr (item :: items), rest)
      else if c = '\x7b' then
        if (skipBlanks rest).head? = some '\x7d' then some (.obj [], (skipBlanks rest).tail)
        else do
          let (key, rest) ← readKey fuel rest
          let (value, rest) ← readValue fuel rest
          let (members, rest) ← readMembers fuel rest
          pure (.obj ((key, value) :: members), rest)
      else if c.isDigit then readNumber (c :: rest)
      else readLiteral (c :: rest)

/-- What follows an item: the closing bracket, or a comma and more items. -/
def readItems : Nat → List Char → Option (List Json × List Char)
  | 0, _ => none
  | fuel + 1, text =>
    match skipBlanks text with
    | [] => none
    | c :: rest =>
      if c = ']' then some ([], rest)
      else if c = ',' then do
        let (item, rest) ← readValue fuel rest
        let (items, rest) ← readItems fuel rest
        pure (item :: items, rest)
      else none

/-- What follows a member: the closing brace, or a comma and more members. -/
def readMembers : Nat → List Char → Option (List (String × Json) × List Char)
  | 0, _ => none
  | fuel + 1, text =>
    match skipBlanks text with
    | [] => none
    | c :: rest =>
      if c = '\x7d' then some ([], rest)
      else if c = ',' then do
        let (key, rest) ← readKey fuel rest
        let (value, rest) ← readValue fuel rest
        let (members, rest) ← readMembers fuel rest
        pure ((key, value) :: members, rest)
      else none

end

/-- A whole text: one value with nothing but blanks after it. -/
def parse (text : List Char) : Option Json :=
  match readValue (text.length + 1) text with
  | some (value, rest) => if skipBlanks rest = [] then some value else none
  | none => none

/-- `from_slice`: a byte string that is not UTF-8 is refused. -/
def ofBytes (bytes : Bytes) : Option Json :=
  match bytes.toByteArray.utf8Decode? with
  | some text => parse text.toList
  | none => none

/-! ## Strings read back -/

theorem hexValue_hexDigit : ∀ n < 16, hexValue (hexDigit n) = some n := by decide

theorem escape_ne_nil (c : Char) : escape c ≠ [] := by
  unfold escape
  repeat' split
  all_goals simp

theorem escape_head_ne_quote (c : Char) : (escape c).head? ≠ some '"' := by
  unfold escape
  repeat' split
  all_goals simp_all

theorem readUnicode_low {n : Nat} (hn : n < 32) (rest : List Char) :
    readUnicode ('0' :: '0' :: hexDigit (n / 16) :: hexDigit (n % 16) :: rest) =
      some (Char.ofNat n, rest) := by
  have h0 : hexValue '0' = some 0 := by decide
  have h1 := hexValue_hexDigit (n / 16) (by omega)
  have h2 := hexValue_hexDigit (n % 16) (by omega)
  have hv : n / 16 * 16 + n % 16 = n := by omega
  have hs : ¬ (0xD800 ≤ n ∧ n < 0xDC00) := by omega
  have ht : ¬ (0xDC00 ≤ n ∧ n < 0xE000) := by omega
  simp [readUnicode, readHex4, h0, h1, h2, hv, hs, ht]

theorem readChar_escape (c : Char) (rest : List Char) :
    readChar (escape c ++ rest) = some (c, rest) := by
  unfold escape
  split_ifs with h1 h2 h3 h4 h5 h6 h7 h8
  · subst h1; rfl
  · subst h2; rfl
  · subst h3; rfl
  · subst h4; rfl
  · subst h5; rfl
  · subst h6; rfl
  · subst h7; rfl
  · simp [readChar, readUnicode_low h8, Char.ofNat_toNat]
  · simp [readChar, h2, h8]

theorem fuel_succ {n fuel : Nat} (h : n < fuel) : ∃ rest, fuel = rest + 1 :=
  Nat.exists_eq_add_one_of_ne_zero (Nat.ne_zero_of_lt h)

/-- A literal is read back up to its own closing quote, whatever follows. -/
theorem readString_escaped (cs rest : List Char) (fuel : Nat) (h : cs.length < fuel) :
    readString fuel (cs.flatMap escape ++ '"' :: rest) = some (cs, rest) := by
  induction cs generalizing fuel with
  | nil =>
    obtain ⟨fuel, rfl⟩ := fuel_succ h
    simp [readString]
  | cons c cs ih =>
    obtain ⟨fuel, rfl⟩ := fuel_succ h
    have hh : (escape c ++ (cs.flatMap escape ++ '"' :: rest)).head? ≠ some '"' := by
      rw [List.head?_append_of_ne_nil _ (escape_ne_nil c)]
      exact escape_head_ne_quote c
    have hr := ih fuel (by simpa using h)
    simp only [List.flatMap_cons, List.append_assoc, readString, if_neg hh,
      readChar_escape, hr, Option.bind_eq_bind, Option.bind_some, Option.pure_def]

theorem length_le_flatMap_escape (cs : List Char) : cs.length <= (cs.flatMap escape).length := by
  induction cs with
  | nil => simp
  | cons c cs ih =>
    have hc := List.length_pos_iff.mpr (escape_ne_nil c)
    simp only [List.flatMap_cons, List.length_append, List.length_cons]
    omega

theorem length_quote (s : String) : (quote s).length = (s.toList.flatMap escape).length + 2 := by
  simp [quote]

theorem readString_quote_tail (s : String) (rest : List Char) (fuel : Nat)
    (h : (quote s).length <= fuel + 1) :
    readString fuel ((s.toList.flatMap escape ++ ['"']) ++ rest) = some (s.toList, rest) := by
  have hl := length_le_flatMap_escape s.toList
  rw [length_quote] at h
  rw [append_assoc]
  exact readString_escaped s.toList rest fuel (by omega)

theorem readKey_quote (key : String) (rest : List Char) (fuel : Nat)
    (h : (quote key).length ≤ fuel + 1) :
    readKey fuel (quote key ++ ':' :: rest) = some (key, rest) := by
  have hs := readString_quote_tail key (':' :: rest) fuel h
  have hb : isBlank '"' = false := by decide
  have hc : isBlank ':' = false := by decide
  simp only [readKey, quote, List.cons_append, skipBlanks_cons hb, hs, Option.bind_eq_bind,
    Option.bind_some, skipBlanks_cons hc, String.ofList_toList, Option.pure_def]

/-! ## Numbers read back -/

theorem toDigits_head_ne_zero {n : Nat} (h : 0 < n) : (Nat.toDigits 10 n).head? ≠ some '0' := by
  induction n using Nat.strong_induction_on with
  | _ n ih =>
    by_cases hn : n < 10
    · rw [Nat.toDigits_of_lt_base hn]
      have ha : ∀ m < 10, 0 < m -> [m.digitChar].head? ≠ some '0' := by decide
      exact ha n hn h
    · rw [Nat.toDigits_of_base_le (by omega) (by omega),
        List.head?_append_of_ne_nil _ Nat.toDigits_ne_nil]
      exact ih (n / 10) (by omega) (by omega)

theorem toDigits_zeroFree (n : Nat) :
    ¬ ((Nat.toDigits 10 n).head? = some '0' ∧ (Nat.toDigits 10 n).length ≠ 1) := by
  rintro ⟨hh, hl⟩
  by_cases hn : n = 0
  · subst hn
    exact hl (by decide)
  · exact toDigits_head_ne_zero (by omega) hh

theorem takeWhile_toDigits (n : Nat) {rest : List Char} (h : endsNumber rest = true) :
    (Nat.toDigits 10 n ++ rest).takeWhile Char.isDigit = Nat.toDigits 10 n ∧
      (Nat.toDigits 10 n ++ rest).dropWhile Char.isDigit = rest := by
  have ha : ∀ c ∈ Nat.toDigits 10 n, c.isDigit = true := fun c hc =>
    Nat.isDigit_of_mem_toDigits (by omega) (by omega) hc
  rw [List.takeWhile_append_of_pos ha, List.dropWhile_append_of_pos ha]
  cases rest with
  | nil => simp
  | cons c rest =>
    have hc : c.isDigit = false := by
      simp only [endsNumber, Bool.and_eq_true, Bool.not_eq_true'] at h
      exact h.1.1.1
    simp [hc]

theorem readNumber_toDigits (n : Nat) {rest : List Char} (h : endsNumber rest = true) :
    readNumber (Nat.toDigits 10 n ++ rest) = some (.num n, rest) := by
  obtain ⟨ht, hd⟩ := takeWhile_toDigits n h
  simp [readNumber, ht, hd, h, toDigits_zeroFree, Nat.ofDigitChars_ten_toDigits]

/-! ## Values read back -/

/-- The first character of a value's text tells the reader which rule to take. -/
theorem render_head (value : Json) : ∃ c cs, render value = c :: cs ∧ isBlank c = false ∧ c ≠ ']' := by
  cases value with
  | null | str s => exact ⟨_, _, rfl, by decide, by decide⟩
  | bool b => cases b <;> exact ⟨_, _, rfl, by decide, by decide⟩
  | num n =>
    obtain ⟨c, cs, hs⟩ := List.exists_cons_of_ne_nil (Nat.toDigits_ne_nil (n := n) (b := 10))
    have hc : c.isDigit = true :=
      Nat.isDigit_of_mem_toDigits (b := 10) (n := n) (by omega) (by omega) (by simp [hs])
    refine ⟨c, cs, by simpa [render] using hs, ?_, ?_⟩
    · rw [Bool.eq_false_iff]
      intro hb
      simp only [isBlank, Bool.or_eq_true, decide_eq_true_eq] at hb
      rcases hb with ((rfl | rfl) | rfl) | rfl <;> revert hc <;> decide
    · rintro rfl
      revert hc
      decide
  | arr items => cases items <;> exact ⟨_, _, by rw [render], by decide, by decide⟩
  | obj members =>
    cases members with
    | nil | cons m ms => exact ⟨_, _, by rw [render], by decide, by decide⟩

theorem skipBlanks_render (value : Json) (rest : List Char) :
    skipBlanks (render value ++ rest) = render value ++ rest := by
  obtain ⟨c, cs, hr, hb, _⟩ := render_head value
  rw [hr, List.cons_append, skipBlanks_cons hb]

theorem render_head_ne_bracket (value : Json) (rest : List Char) :
    (skipBlanks (render value ++ rest)).head? ≠ some ']' := by
  obtain ⟨c, cs, hr, _, hc⟩ := render_head value
  rw [skipBlanks_render, hr]
  simpa using hc

theorem endsNumber_items (items : List Json) (rest : List Char) :
    endsNumber (renderItems items ++ rest) = true := by
  cases items <;> rw [renderItems] <;> rfl

theorem endsNumber_members (members : List (String × Json)) (rest : List Char) :
    endsNumber (renderMembers members ++ rest) = true := by
  cases members <;> rw [renderMembers] <;> rfl

section

variable {fuel : Nat} {text middle later rest : List Char} {key : String} {value : Json}
  {items : List Json} {members : List (String × Json)}

theorem readItems_cons (hv : readValue fuel text = some (value, later))
    (hi : readItems fuel later = some (items, rest)) :
    readItems (fuel + 1) (',' :: text) = some (value :: items, rest) := by
  rw [readItems, skipBlanks_cons (by decide)]
  simp [hv, hi]

theorem readMembers_cons (hk : readKey fuel text = some (key, middle))
    (hv : readValue fuel middle = some (value, later))
    (hm : readMembers fuel later = some (members, rest)) :
    readMembers (fuel + 1) (',' :: text) = some ((key, value) :: members, rest) := by
  rw [readMembers, skipBlanks_cons (by decide)]
  simp [hk, hv, hm]

theorem readValue_arr_cons (hn : (skipBlanks text).head? ≠ some ']')
    (hv : readValue fuel text = some (value, later))
    (hi : readItems fuel later = some (items, rest)) :
    readValue (fuel + 1) ('[' :: text) = some (.arr (value :: items), rest) := by
  rw [readValue, skipBlanks_cons (by decide)]
  simp [hn, hv, hi]

theorem readValue_obj_cons (hn : (skipBlanks text).head? ≠ some '\x7d')
    (hk : readKey fuel text = some (key, middle))
    (hv : readValue fuel middle = some (value, later))
    (hm : readMembers fuel later = some (members, rest)) :
    readValue (fuel + 1) ('\x7b' :: text) = some (.obj ((key, value) :: members), rest) := by
  rw [readValue, skipBlanks_cons (by decide)]
  simp [hn, hk, hv, hm]

end

/-! The three readers are inverted together: the induction is on the value, and
each level needs no more fuel than its own text is long. -/

mutual

theorem readValue_render (value : Json) (fuel : Nat) (rest : List Char)
    (hf : (render value).length <= fuel) (he : endsNumber rest = true) :
    readValue fuel (render value ++ rest) = some (value, rest) := by
  obtain ⟨c, cs, hr, hb, hc⟩ := render_head value
  obtain ⟨fuel, rfl⟩ := fuel_succ (hr ▸ hf)
  match value with
  | .null | .bool true => rfl
  | .bool false | .arr [] => rfl
  | .num n =>
    simp only [render] at hr hf ⊢
    have hd : c.isDigit = true :=
      Nat.isDigit_of_mem_toDigits (b := 10) (n := n) (by omega) (by omega) (by simp [hr])
    have hq : c ≠ '"' := by rintro rfl; revert hd; decide
    have ha : c ≠ '[' := by rintro rfl; revert hd; decide
    have ho : c ≠ '\x7b' := by rintro rfl; revert hd; decide
    have hn := readNumber_toDigits n he
    rw [hr, cons_append] at hn ⊢
    rw [readValue, skipBlanks_cons hb]
    simp only [if_neg hq, if_neg ha, if_neg ho, if_pos hd]
    exact hn
  | .str s =>
    have hs := readString_quote_tail s rest fuel (by simpa [render] using hf)
    have hq : isBlank '"' = false := by decide
    simp only [render, quote, cons_append]
    rw [readValue, skipBlanks_cons hq]
    simp only [if_true, hs, Option.map_some, String.ofList_toList]
  | .arr (item :: items) =>
    rw [render] at hf
    simp only [length_cons, length_append] at hf
    have hi := readValue_render item fuel (renderItems items ++ rest) (by omega)
      (endsNumber_items items rest)
    have ht := readItems_render items fuel rest (by omega)
    rw [render, cons_append, append_assoc]
    exact readValue_arr_cons (render_head_ne_bracket _ _) hi ht
  | .obj [] => rfl
  | .obj ((key, v) :: members) =>
    rw [render] at hf
    simp only [length_cons, length_append] at hf
    have hk := readKey_quote key (render v ++ (renderMembers members ++ rest)) fuel
      (by omega)
    have hv := readValue_render v fuel (renderMembers members ++ rest) (by omega)
      (endsNumber_members members rest)
    have ht := readMembers_render members fuel rest (by omega)
    have hne : (skipBlanks (quote key ++ ':' :: (render v ++ (renderMembers members ++ rest)))).head? ≠
        some '\x7d' := by
      rw [quote, cons_append, skipBlanks_cons (by decide)]
      simp
    rw [render, cons_append, append_assoc, cons_append, append_assoc]
    exact readValue_obj_cons hne hk hv ht

theorem readItems_render (items : List Json) (fuel : Nat) (rest : List Char)
    (hf : (renderItems items).length ≤ fuel) :
    readItems fuel (renderItems items ++ rest) = some (items, rest) := by
  match items with
  | [] =>
    obtain ⟨fuel, rfl⟩ := fuel_succ hf
    rfl
  | item :: items =>
    rw [renderItems] at hf
    simp only [length_cons, length_append] at hf
    obtain ⟨fuel, rfl⟩ := fuel_succ hf
    have hi := readValue_render item fuel (renderItems items ++ rest) (by omega)
      (endsNumber_items items rest)
    have ht := readItems_render items fuel rest (by omega)
    rw [renderItems, cons_append, append_assoc]
    exact readItems_cons hi ht

theorem readMembers_render (members : List (String × Json)) (fuel : Nat) (rest : List Char)
    (hf : (renderMembers members).length ≤ fuel) :
    readMembers fuel (renderMembers members ++ rest) = some (members, rest) := by
  match members with
  | [] =>
    obtain ⟨fuel, rfl⟩ := fuel_succ hf
    rfl
  | (key, v) :: members =>
    rw [renderMembers] at hf
    simp only [length_cons, length_append] at hf
    obtain ⟨fuel, rfl⟩ := fuel_succ hf
    have hk := readKey_quote key (render v ++ (renderMembers members ++ rest)) fuel
      (by omega)
    have hv := readValue_render v fuel (renderMembers members ++ rest) (by omega)
      (endsNumber_members members rest)
    have ht := readMembers_render members fuel rest (by omega)
    rw [renderMembers, cons_append, append_assoc, cons_append, append_assoc]
    exact readMembers_cons hk hv ht

end

/-- The reader accepts every compact text and returns the value it was written from. -/
theorem parse_render (value : Json) : parse (render value) = some value := by
  have h := readValue_render value ((render value).length + 1) [] (by omega) rfl
  rw [append_nil] at h
  simp [parse, h, skipBlanks]

theorem render_injective : Function.Injective render := by
  intro a b h
  have ha := parse_render a
  rw [h, parse_render b] at ha
  exact (Option.some.inj ha).symm

theorem ofBytes_toBytes (value : Json) : ofBytes (toBytes value) = some value := by
  have h : (toBytes value).toByteArray = (render value).utf8Encode := rfl
  rw [ofBytes, h, utf8Decode?_utf8Encode]
  simpa using parse_render value

theorem toBytes_injective : Function.Injective toBytes := by
  intro a b h
  exact render_injective (utf8_injective h)

end QuantumLink.Json
