import QuantumLink.Foundation.Hex
import QuantumLink.Foundation.Json.Record

/-! # How long a JSON text is

The number of bytes of the compact text of a value, computed on the value: a
bracket or comma and a key for each part, and the quoted length of each string. Texts
without escapes are as long as their characters plus the two quotes.
-/

namespace QuantumLink.Json

open List

/-- The bytes of a quoted string, quotes and escapes included. -/
def quotedLength (s : String) : Nat := (utf8 (quote s)).length

mutual

def byteLength : Json → Nat
  | .null => 4
  | .bool true => 4
  | .bool false => 5
  | .num n => (Nat.toDigits 10 n).length
  | .str s => quotedLength s
  | .arr [] => 2
  | .arr (item :: items) => 1 + (byteLength item + itemsLength items)
  | .obj [] => 2
  | .obj ((key, value) :: members) =>
    1 + (quotedLength key + (1 + (byteLength value + membersLength members)))

def itemsLength : List Json → Nat
  | [] => 1
  | item :: items => 1 + (byteLength item + itemsLength items)

def membersLength : List (String × Json) → Nat
  | [] => 1
  | (key, value) :: members =>
    1 + (quotedLength key + (1 + (byteLength value + membersLength members)))

end

theorem length_utf8_append (a b : List Char) :
    (utf8 (a ++ b)).length = (utf8 a).length + (utf8 b).length := by
  rw [utf8_append, length_append]

theorem length_utf8_cons {c : Char} (h : c.toNat < 128) (t : List Char) :
    (utf8 (c :: t)).length = 1 + (utf8 t).length := by
  have hc : (utf8 [c]).length = 1 := length_utf8_of_ascii (by simpa using h)
  have ha := length_utf8_append [c] t
  rw [hc] at ha
  exact ha

private theorem length_utf8_toDigits (n : Nat) :
    (utf8 (Nat.toDigits 10 n)).length = (Nat.toDigits 10 n).length := by
  apply length_utf8_of_ascii
  intro c hc
  have hd := Nat.isDigit_of_mem_toDigits (b := 10) (by decide) (by decide) hc
  simp only [Char.isDigit, Bool.and_eq_true, decide_eq_true_eq] at hd
  have hle : c.toNat ≤ 57 := hd.2
  omega

mutual

theorem length_utf8_render : ∀ value : Json, (utf8 (render value)).length = byteLength value
  | .null => by decide
  | .bool true => by decide
  | .bool false => by decide
  | .num n => by rw [render, byteLength, length_utf8_toDigits]
  | .str s => by rw [render, byteLength, quotedLength]
  | .arr [] => by decide
  | .arr (item :: items) => by
      rw [render, byteLength, length_utf8_cons (by decide), length_utf8_append,
        length_utf8_render item, length_utf8_renderItems items]
  | .obj [] => by decide
  | .obj ((key, value) :: members) => by
      rw [render, byteLength, length_utf8_cons (by decide), length_utf8_append,
        length_utf8_cons (by decide), length_utf8_append, length_utf8_render value,
        length_utf8_renderMembers members, quotedLength]

theorem length_utf8_renderItems : ∀ items : List Json,
    (utf8 (renderItems items)).length = itemsLength items
  | [] => by decide
  | item :: items => by
      rw [renderItems, itemsLength, length_utf8_cons (by decide), length_utf8_append,
        length_utf8_render item, length_utf8_renderItems items]

theorem length_utf8_renderMembers : ∀ members : List (String × Json),
    (utf8 (renderMembers members)).length = membersLength members
  | [] => by decide
  | (key, value) :: members => by
      rw [renderMembers, membersLength, length_utf8_cons (by decide), length_utf8_append,
        length_utf8_cons (by decide), length_utf8_append, length_utf8_render value,
        length_utf8_renderMembers members, quotedLength]

end

theorem length_toBytes (value : Json) : value.toBytes.length = byteLength value :=
  length_utf8_render value

/-! ## Arrays that grow -/

theorem itemsLength_append (it more : List Json) :
    itemsLength (it ++ more) + 1 = itemsLength it + itemsLength more := by
  induction it with
  | nil => simp only [nil_append, itemsLength]; omega
  | cons i it ih =>
    simp only [cons_append, itemsLength]
    omega

theorem byteLength_arr_concat {i : List Json} (h : i ≠ []) (it : Json) :
    byteLength (.arr (i ++ [it])) = byteLength (.arr i) + (1 + byteLength it) := by
  cases i with
  | nil => exact absurd rfl h
  | cons f i =>
    have ha := itemsLength_append i [it]
    simp only [itemsLength] at ha
    simp only [cons_append, byteLength]
    omega

/-! ## Objects written from their declared names -/

private theorem membersLength_zip {na : List String} {va : List Json} (hl : na.length = va.length) :
    membersLength (na.zip va) =
      1 + 2 * na.length + (na.map quotedLength).sum + (va.map byteLength).sum := by
  induction na generalizing va with
  | nil =>
    cases va with
    | nil => rfl
    | cons v va => simp at hl
  | cons n na ih =>
    cases va with
    | nil => simp at hl
    | cons v va =>
      have hr := ih (show na.length = va.length by simpa using hl)
      simp only [zip_cons_cons, membersLength, hr, map_cons, sum_cons, length_cons]
      omega

theorem byteLength_obj_zip (na : List String) (va : List Json)
    (hl : na.length = va.length) (hne : na ≠ []) :
    byteLength (.obj (na.zip va)) =
      1 + 2 * na.length + (na.map quotedLength).sum + (va.map byteLength).sum := by
  cases na with
  | nil => exact absurd rfl hne
  | cons n na =>
    cases va with
    | nil => simp at hl
    | cons v va =>
      have hr := membersLength_zip (show na.length = va.length by simpa using hl)
      simp only [zip_cons_cons, byteLength, hr, map_cons, sum_cons, length_cons]
      omega

/-! ## Byte arrays -/

theorem itemsLength_bytes_le (bytes : Bytes) :
    itemsLength (bytes.map ofUInt8) ≤ 4 * bytes.length + 1 := by
  induction bytes with
  | nil => simp [itemsLength]
  | cons b bytes ih =>
    have hb : (Nat.toDigits 10 b.toNat).length ≤ 3 := by
      have hlt := b.toNat_lt
      rw [Nat.length_toDigits_le_iff (by decide) (by decide)]
      omega
    simp only [map_cons, itemsLength, ofUInt8, byteLength, length_cons] at ih ⊢
    omega

theorem byteLength_ofByteList_le (bytes : Bytes) :
    byteLength (ofByteList bytes) ≤ 4 * bytes.length + 2 := by
  have hi := itemsLength_bytes_le bytes
  cases bytes with
  | nil => simp [ofByteList, byteLength]
  | cons b bytes =>
    simp only [ofByteList, map_cons, byteLength, itemsLength] at hi ⊢
    omega
/-! ## Strings without escapes -/

/-- ASCII characters that JSON writes as they are. -/
def PlainChar (c : Char) : Prop := c.toNat < 128 ∧ escape c = [c]

instance (c : Char) : Decidable (PlainChar c) := inferInstanceAs (Decidable (_ ∧ _))

theorem quotedLength_ofList {text : List Char} (h : ∀ c ∈ text, PlainChar c) :
    quotedLength (String.ofList text) = text.length + 2 := by
  have he : text.flatMap escape = text := by
    induction text with
    | nil => rfl
    | cons c text ih =>
      rw [flatMap_cons, (h c (by simp)).2, ih fun d hd => h d (by simp [hd])]
      rfl
  have ha : (utf8 text).length = text.length := length_utf8_of_ascii fun c hc => (h c hc).1
  have hq : (utf8 ['"']).length = 1 := by decide
  rw [quotedLength, quote, String.toList_ofList, he, length_utf8_cons (by decide),
    length_utf8_append, ha, hq]
  omega

private theorem he : ∀ n < 16, PlainChar (hexDigit n) := by decide

theorem quotedLength_hex (byt : Bytes) : quotedLength (Hex.encode byt) = 2 * byt.length + 2 := by
  have hp : ∀ c ∈ byt.flatMap Hex.digits, PlainChar c := by
    intro c hc
    obtain ⟨b, _, hb⟩ := mem_flatMap.mp hc
    have hlt : b.toNat < 256 := b.toNat_lt
    simp only [Hex.digits, mem_cons, not_mem_nil, or_false] at hb
    rcases hb with rfl | rfl
    · exact he _ (by omega)
    · exact he _ (by omega)
  have hl : (byt.flatMap Hex.digits).length = 2 * byt.length := by
    rw [length_flatMap]
    simp only [Hex.digits, length_cons, length_nil, map_const', sum_replicate, smul_eq_mul]
    omega
  rw [Hex.encode, quotedLength_ofList hp, hl]

private theorem urlChar_plain : ∀ n < 64, PlainChar (Base64.urlChar n) := by decide +kernel

theorem quotedLength_base64 {l : String}
    (hl : (l.toList.all fun c => decide (PlainChar c)) = true) (b : Bytes) :
    quotedLength (l ++ Base64.encodeUrlNoPad b) = l.toList.length + (4 * b.length + 2) / 3 + 2 := by
  have ht : l ++ Base64.encodeUrlNoPad b =
      String.ofList (l.toList ++ (Base64.sextets b).map Base64.urlChar) := by
    rw [String.ofList_append, String.ofList_toList, Base64.encodeUrlNoPad]
  rw [ht, quotedLength_ofList]
  · rw [length_append, length_map, Base64.length_sextets]
  · intro c hc
    rcases mem_append.mp hc with hc | hc
    · simpa using all_eq_true.mp hl c hc
    · obtain ⟨n, hn, rfl⟩ := mem_map.mp hc
      exact urlChar_plain n (Base64.sextets_lt b n hn)

end QuantumLink.Json
