import QuantumLink.Foundation.Json.Reader

/-! # Indented JSON text

The writer that puts every item and every member on a line of its own, two blanks deeper than what
holds it. The reader passes over blanks, so it reads such a text as it reads the compact one.
-/

namespace QuantumLink.Json

open List

/-- The end of a line and the indentation of the next one. -/
def newline (depth : Nat) : List Char := '\n' :: List.replicate (2 * depth) ' '

mutual

def pretty (depth : Nat) : Json → List Char
  | .null => render .null
  | .bool value => render (.bool value)
  | .num n => render (.num n)
  | .str s => render (.str s)
  | .arr [] => render (.arr [])
  | .arr (item :: items) =>
    '[' :: (newline (depth + 1) ++ (pretty (depth + 1) item ++ prettyItems depth items))
  | .obj [] => render (.obj [])
  | .obj ((key, value) :: members) =>
    '\x7b' :: (newline (depth + 1) ++ (quote key ++
      ':' :: ' ' :: (pretty (depth + 1) value ++ prettyMembers depth members)))

/-- The items after the first one, and the closing bracket at the given depth. -/
def prettyItems (depth : Nat) : List Json → List Char
  | [] => newline depth ++ [']']
  | item :: items =>
    ',' :: (newline (depth + 1) ++ (pretty (depth + 1) item ++ prettyItems depth items))

/-- The members after the first one, and the closing brace at the given depth. -/
def prettyMembers (depth : Nat) : List (String × Json) → List Char
  | [] => newline depth ++ ['\x7d']
  | (key, value) :: members =>
    ',' :: (newline (depth + 1) ++ (quote key ++
      ':' :: ' ' :: (pretty (depth + 1) value ++ prettyMembers depth members)))

end

/-- `to_vec_pretty`. -/
def toBytesPretty (value : Json) : Bytes := utf8 (pretty 0 value)

theorem skipBlanks_blank (h : isBlank c = true) (rest : List Char) :
    skipBlanks (c :: rest) = skipBlanks rest := by
  simp [skipBlanks, h]

theorem skipBlanks_newline (d : Nat) (rest : List Char) :
    skipBlanks (newline d ++ rest) = skipBlanks rest := by
  rw [newline, cons_append, skipBlanks_blank (by decide)]
  induction 2 * d with
  | zero => rfl
  | succ n ih => rw [replicate_succ, cons_append, skipBlanks_blank (by decide), ih]

/-! Every reader starts by passing over blanks. -/

section

variable {text other : List Char} (h : skipBlanks text = skipBlanks other) (fuel : Nat)
include h

theorem readValue_congr : readValue fuel text = readValue fuel other := by
  cases fuel with
  | zero => rw [readValue, readValue]
  | succ fuel => rw [readValue, readValue, h]

theorem readItems_congr : readItems fuel text = readItems fuel other := by
  cases fuel with
  | zero => rw [readItems, readItems]
  | succ fuel => rw [readItems, readItems, h]

theorem readMembers_congr : readMembers fuel text = readMembers fuel other := by
  cases fuel with
  | zero => rw [readMembers, readMembers]
  | succ fuel => rw [readMembers, readMembers, h]
end

theorem readKey_newline (fuel d : Nat) (text : List Char) :
    readKey fuel (newline d ++ text) = readKey fuel text := by
  simp [readKey, skipBlanks_newline]

theorem pretty_head (d : Nat) (va : Json) :
    ∃ c cs, pretty d va = c :: cs ∧ isBlank c = false ∧ c ≠ ']' := by
  match va with
  | .arr (item :: items)
  | .obj ((key, v) :: members) => exact ⟨_, _, by rw [pretty], by decide, by decide⟩
  | .null | .bool _ | .num _ | .str _ | .arr [] | .obj [] =>
    rw [pretty]
    exact render_head _

theorem endsNumber_prettyItems (d : Nat) (i : List Json) (r : List Char) :
    endsNumber (prettyItems d i ++ r) = true := by
  cases i <;> rw [prettyItems] <;> rfl

theorem endsNumber_prettyMembers (d : Nat) (m : List (String × Json))
    (r : List Char) : endsNumber (prettyMembers d m ++ r) = true := by
  cases m <;> rw [prettyMembers] <;> rfl

theorem readMember_pretty {fuel : Nat} (hk : (quote key).length ≤ fuel)
    (hv : readValue fuel (pretty depth value ++ rest) = some (value, rest)) :
    readKey fuel (newline depth ++ (quote key ++ ':' :: ' ' :: (pretty depth value ++ rest))) =
        some (key, ' ' :: (pretty depth value ++ rest)) ∧
      readValue fuel (' ' :: (pretty depth value ++ rest)) = some (value, rest) := by
  constructor
  · rw [readKey_newline]
    exact readKey_quote key _ fuel (Nat.le_succ_of_le hk)
  · rw [readValue_congr (skipBlanks_blank (by decide) _)]
    exact hv

/-! As for the compact text, the three readers are inverted together by induction on the value. -/

mutual

theorem readValue_pretty (d : Nat) (va : Json) (fuel : Nat) (r : List Char)
    (hf : (pretty d va).length ≤ fuel) (hr : endsNumber r = true) :
    readValue fuel (pretty d va ++ r) = some (va, r) := by
  match va with
  | .null | .bool _ | .num _ | .str _ | .arr [] | .obj [] =>
    rw [pretty] at hf ⊢
    exact readValue_render _ fuel r hf hr
  | .arr (item :: items) =>
    rw [pretty] at hf ⊢
    simp only [length_cons, length_append] at hf
    obtain ⟨fuel, rfl⟩ := fuel_succ hf
    have hi := readValue_pretty (d + 1) item fuel (prettyItems d items ++ r) (by omega)
      (endsNumber_prettyItems d items r)
    have ht := readItems_pretty d items fuel r (by omega)
    obtain ⟨c, cs, hh, hbl, hb⟩ := pretty_head (d + 1) item
    have hl : skipBlanks (newline (d + 1) ++ (pretty (d + 1) item ++
          (prettyItems d items ++ r))) =
        skipBlanks (pretty (d + 1) item ++ (prettyItems d items ++ r)) :=
      skipBlanks_newline _ _
    have hne : (skipBlanks (newline (d + 1) ++ (pretty (d + 1) item ++
        (prettyItems d items ++ r)))).head? ≠ some ']' := by
      rw [hl, hh, cons_append, skipBlanks_cons hbl]
      simpa using hb
    rw [← readValue_congr hl] at hi
    rw [cons_append, append_assoc, append_assoc]
    exact readValue_arr_cons hne hi ht
  | .obj ((key, v) :: members) =>
    rw [pretty] at hf ⊢
    simp only [length_cons, length_append] at hf
    obtain ⟨fuel, rfl⟩ := fuel_succ hf
    have hv := readValue_pretty (d + 1) v fuel (prettyMembers d members ++ r)
      (by omega) (endsNumber_prettyMembers d members r)
    have he : (quote key).length ≤ fuel := by omega
    have hk := readMember_pretty he hv
    have ht := readMembers_pretty d members fuel r (by omega)
    have hne : (skipBlanks (newline (d + 1) ++ (quote key ++ ':' :: ' ' ::
        (pretty (d + 1) v ++ (prettyMembers d members ++ r))))).head? ≠
        some '\x7d' := by
      rw [skipBlanks_newline, quote, cons_append, skipBlanks_cons (by decide)]
      simp
    rw [cons_append, append_assoc, append_assoc, cons_append, cons_append, append_assoc]
    exact readValue_obj_cons hne hk.1 hk.2 ht

theorem readItems_pretty (d : Nat) (i : List Json) (fuel : Nat) (r : List Char)
    (hf : (prettyItems d i).length ≤ fuel) :
    readItems fuel (prettyItems d i ++ r) = some (i, r) := by
  match i with
  | [] =>
    rw [prettyItems] at hf ⊢
    simp only [length_append, length_cons] at hf
    obtain ⟨fuel, rfl⟩ := fuel_succ hf
    rw [append_assoc, readItems_congr (skipBlanks_newline d _)]
    rfl
  | item :: i =>
    rw [prettyItems] at hf ⊢
    simp only [length_cons, length_append] at hf
    obtain ⟨fuel, rfl⟩ := fuel_succ hf
    have hi := readValue_pretty (d + 1) item fuel (prettyItems d i ++ r) (by omega)
      (endsNumber_prettyItems d i r)
    rw [← readValue_congr (skipBlanks_newline (d + 1) _)] at hi
    have ht := readItems_pretty d i fuel r (by omega)
    rw [cons_append, append_assoc, append_assoc]
    exact readItems_cons hi ht

theorem readMembers_pretty (d : Nat) (m : List (String × Json)) (fuel : Nat)
    (r : List Char) (hf : (prettyMembers d m).length ≤ fuel) :
    readMembers fuel (prettyMembers d m ++ r) = some (m, r) := by
  match m with
  | [] =>
    rw [prettyMembers] at hf ⊢
    simp only [length_append, length_cons] at hf
    obtain ⟨fuel, rfl⟩ := fuel_succ hf
    rw [append_assoc, readMembers_congr (skipBlanks_newline d _)]
    rfl
  | (key, v) :: m =>
    rw [prettyMembers] at hf ⊢
    simp only [length_cons, length_append] at hf
    obtain ⟨fuel, rfl⟩ := fuel_succ hf
    have hv := readValue_pretty (d + 1) v fuel (prettyMembers d m ++ r)
      (by omega) (endsNumber_prettyMembers d m r)
    have he : (quote key).length ≤ fuel := by omega
    have hk := readMember_pretty he hv
    have ht := readMembers_pretty d m fuel r (by omega)
    rw [cons_append, append_assoc, append_assoc, cons_append, cons_append, append_assoc]
    exact readMembers_cons hk.1 hk.2 ht

end

theorem parse_pretty (value : Json) : parse (pretty 0 value) = some value := by
  have h := readValue_pretty 0 value ((pretty 0 value).length + 1) [] (by omega) rfl
  rw [append_nil] at h
  simp [parse, h, skipBlanks]

theorem ofBytes_toBytesPretty (value : Json) : ofBytes (toBytesPretty value) = some value := by
  have h : (toBytesPretty value).toByteArray = (pretty 0 value).utf8Encode := rfl
  rw [ofBytes, h, utf8Decode?_utf8Encode]
  simpa using parse_pretty value

end QuantumLink.Json
