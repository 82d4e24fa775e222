import QuantumLink.Foundation.Json.Reader

/-! # JSON text on one line

The compact text of a value has no control characters, so its bytes hold no newline: a value
followed by a newline is one line of a stream.
-/

namespace QuantumLink.Json

open List

/-! ## Text -/

private theorem printable_hexDigit : ∀ n < 16, 32 ≤ (hexDigit n).toNat := by decide

theorem printable_escape (c : Char) : ∀ d ∈ escape c, 32 ≤ d.toNat := by
  intro d hd
  by_cases hl : c.toNat < 32
  · have hh : 32 ≤ (hexDigit (c.toNat / 16)).toNat := printable_hexDigit _ (by omega)
    have hi : 32 ≤ (hexDigit (c.toNat % 16)).toNat := printable_hexDigit _ (by omega)
    simp only [escape, hl, if_true] at hd
    split_ifs at hd <;> simp only [mem_cons, not_mem_nil, or_false] at hd <;>
      rcases hd with rfl | rfl | rfl | rfl | rfl | rfl <;> first | decide | assumption
  · simp only [escape, hl, if_false] at hd
    split_ifs at hd <;> simp only [mem_cons, not_mem_nil, or_false] at hd
    all_goals first
      | (rcases hd with rfl | rfl <;> decide)
      | (rw [hd]; omega)

theorem printable_quote (s : String) : ∀ d ∈ quote s, 32 ≤ d.toNat := by
  intro d hd
  rw [quote, mem_cons, mem_append, mem_flatMap] at hd
  rcases hd with rfl | ⟨c, -, hd⟩ | hd
  · decide
  · exact printable_escape c d hd
  · rw [mem_singleton.mp hd]
    decide

private theorem printable_toDigits (n : Nat) : ∀ d ∈ Nat.toDigits 10 n, 32 ≤ d.toNat := by
  intro d hd
  have hi := Nat.isDigit_of_mem_toDigits (b := 10) (by decide) (by decide) hd
  simp only [Char.isDigit, Bool.and_eq_true, decide_eq_true_eq] at hi
  have hle : 48 ≤ d.toNat := hi.1
  omega

mutual

theorem printable_render : ∀ (v : Json), ∀ d ∈ render v, 32 ≤ d.toNat
  | .null => by simp [render]
  | .bool true => by simp [render]
  | .bool false => by simp [render]
  | .num n => by rw [render]; exact printable_toDigits n
  | .str s => by rw [render]; exact printable_quote s
  | .arr [] => by simp [render]
  | .arr (item :: items) => by
      intro d hd
      rw [render, mem_cons, mem_append] at hd
      rcases hd with rfl | hd | hd
      · decide
      · exact printable_render item d hd
      · exact printable_renderItems items d hd
  | .obj [] => by simp [render]
  | .obj ((key, v) :: members) => by
      intro d hd
      rw [render, mem_cons, mem_append, mem_cons, mem_append] at hd
      rcases hd with rfl | hd | rfl | hd | hd
      · decide
      · exact printable_quote key d hd
      · decide
      · exact printable_render v d hd
      · exact printable_renderMembers members d hd

theorem printable_renderItems : ∀ (i : List Json), ∀ d ∈ renderItems i, 32 ≤ d.toNat
  | [] => by simp [renderItems]
  | item :: i => by
      intro d hd
      rw [renderItems, mem_cons, mem_append] at hd
      rcases hd with rfl | hd | hd
      · decide
      · exact printable_render item d hd
      · exact printable_renderItems i d hd

theorem printable_renderMembers : ∀ (m : List (String × Json)), ∀ d ∈ renderMembers m, 32 ≤ d.toNat
  | [] => by simp [renderMembers]
  | (key, value) :: m => by
      intro d hd
      rw [renderMembers, mem_cons, mem_append, mem_cons, mem_append] at hd
      rcases hd with rfl | hd | rfl | hd | hd
      · decide
      · exact printable_quote key d hd
      · decide
      · exact printable_render value d hd
      · exact printable_renderMembers m d hd

end

/-! ## Bytes -/

theorem printable_utf8EncodeChar {c : Char} (h : 32 ≤ c.toNat) :
    ∀ b ∈ String.utf8EncodeChar c, 32 ≤ b.toNat := by
  intro b hb
  have hc : c.val.toNat = c.toNat := rfl
  simp only [String.utf8EncodeChar, hc] at hb
  split_ifs at hb <;> simp only [mem_cons, not_mem_nil, or_false] at hb
  · rw [hb, UInt8.toNat_ofNat']
    omega
  all_goals
    rcases hb with rfl | rfl | rfl | rfl <;> rw [UInt8.toNat_ofNat'] <;> omega

theorem printable_toBytes (v : Json) : ∀ b ∈ v.toBytes, 32 ≤ b.toNat := by
  intro b hm
  rw [toBytes, utf8, mem_flatMap] at hm
  obtain ⟨c, hc, hb⟩ := hm
  exact printable_utf8EncodeChar (printable_render v c hc) b hb

theorem newline_not_mem_toBytes (v : Json) : (10 : UInt8) ∉ v.toBytes := by
  intro hm
  exact absurd (printable_toBytes v 10 hm) (by decide)

theorem ofBytes_line (value : Json) : ofBytes (toBytes value ++ [10]) = some value := by
  have hb : (toBytes value ++ [10]).toByteArray = (render value ++ ['\n']).utf8Encode := by
    have hn : utf8 ['\n'] = [10] := by decide
    rw [toBytes, ← hn, ← utf8_append]
    rfl
  have hr := readValue_render value ((render value ++ ['\n']).length + 1) ['\n']
    (by simp; omega) (by decide)
  have he : skipBlanks ['\n'] = [] := by decide
  rw [ofBytes, hb, utf8Decode?_utf8Encode]
  simp only [parse, hr, he, if_true]

end QuantumLink.Json
