import Mathlib

/-! # Compact JSON text

The value tree and the compact writer: no blanks, members in the order given,
strings escaped as short escapes where JSON has them and as four-digit escapes
for the other control characters. Text is a list of characters; `toBytes` is its
UTF-8 encoding. The only numbers any modelled type carries are unsigned, so a
number is a natural number.
-/

namespace QuantumLink

open List

abbrev Bytes := List UInt8

inductive Json where
  | null
  | bool (value : Bool)
  | num (value : Nat)
  | str (value : String)
  | arr (items : List Json)
  | obj (members : List (String × Json))

namespace Json

/-! ## Strings -/

def hexDigit (n : Nat) : Char :=
  if n < 10 then Char.ofNat (48 + n) else Char.ofNat (87 + n)

/-- One character of a string literal, between the quotes. -/
def escape (c : Char) : List Char :=
  if c = '"' then ['\\', '"']
  else if c = '\\' then ['\\', '\\']
  else if c = '\x08' then ['\\', 'b']
  else if c = '\x0c' then ['\\', 'f']
  else if c = '\n' then ['\\', 'n']
  else if c = '\r' then ['\\', 'r']
  else if c = '\t' then ['\\', 't']
  else if c.toNat < 32 then ['\\', 'u', '0', '0', hexDigit (c.toNat / 16), hexDigit (c.toNat % 16)]
  else [c]

def quote (s : String) : List Char := '"' :: (s.toList.flatMap escape ++ ['"'])

/-! ## Values -/

mutual

def render : Json → List Char
  | .null => ['n', 'u', 'l', 'l']
  | .bool true => ['t', 'r', 'u', 'e']
  | .bool false => ['f', 'a', 'l', 's', 'e']
  | .num n => Nat.toDigits 10 n
  | .str s => quote s
  | .arr [] => ['[', ']']
  | .arr (item :: items) => '[' :: (render item ++ renderItems items)
  | .obj [] => ['\x7b', '\x7d']
  | .obj ((key, value) :: members) =>
    '\x7b' :: (quote key ++ ':' :: (render value ++ renderMembers members))

/-- The items after the first one, and the closing bracket. -/
def renderItems : List Json → List Char
  | [] => [']']
  | item :: items => ',' :: (render item ++ renderItems items)

/-- The members after the first one, and the closing brace. -/
def renderMembers : List (String × Json) → List Char
  | [] => ['\x7d']
  | (key, value) :: members =>
    ',' :: (quote key ++ ':' :: (render value ++ renderMembers members))

end

/-! ## Bytes -/

def utf8 (text : List Char) : Bytes := text.flatMap String.utf8EncodeChar

theorem utf8_append (a b : List Char) : utf8 (a ++ b) = utf8 a ++ utf8 b := by
  simp [utf8]

theorem utf8_injective : Function.Injective utf8 := by
  intro a b h
  have hb : a.utf8Encode = b.utf8Encode := by
    simpa [utf8Encode, utf8] using congrArg toByteArray h
  have hs : String.ofList a = String.ofList b := by
    rw [← String.toByteArray_inj, String.toByteArray_ofList, String.toByteArray_ofList, hb]
  simpa using congrArg String.toList hs

/-- The UTF-8 bytes of a string: `as_bytes`. -/
def stringBytes (s : String) : Bytes := utf8 s.toList

theorem stringBytes_append (s t : String) : stringBytes (s ++ t) = stringBytes s ++ stringBytes t := by
  rw [stringBytes, String.toList_append, utf8_append]
  rfl

theorem stringBytes_injective : Function.Injective stringBytes := by
  intro s t h
  have hl := utf8_injective h
  simpa using congrArg String.ofList hl

/-- `to_vec`: the bytes of the compact text of a value. -/
def toBytes (value : Json) : Bytes := utf8 (render value)

theorem utf8_eq_map_of_ascii {text : List Char} (h : ∀ c ∈ text, c.toNat < 128) :
    utf8 text = text.map fun c => UInt8.ofNat c.toNat := by
  induction text with
  | nil => rfl
  | cons c text ih =>
    have hc : c.utf8Size = 1 := by
      have hlt := h c (by simp)
      rw [Char.utf8Size_eq_one_iff]
      exact Nat.le_of_lt_succ hlt
    have ht := ih (fun d hd => h d (by simp [hd]))
    simp only [utf8, flatMap_cons, String.utf8EncodeChar_eq_singleton hc, map_cons,
      singleton_append] at ht ⊢
    rw [ht]
    rfl

theorem length_utf8_of_ascii {t : List Char} (h : ∀ c ∈ t, c.toNat < 128) :
    (utf8 t).length = t.length := by
  rw [utf8_eq_map_of_ascii h, length_map]

end Json

end QuantumLink
