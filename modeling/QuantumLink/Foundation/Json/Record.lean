import QuantumLink.Foundation.Json.Reader

/-! # Records and scalars as JSON values

How derived serializers lay out integers, options, lists and records, and how
the derived deserializers read them: a record is an object with every declared
name at most once and no other name, or an array of its fields in declaration
order; an optional field may be absent or `null`. What is written is read back.
-/

namespace QuantumLink.Json

open List

variable {α : Type}

/-! ## Scalars -/

def ofUInt8 (n : UInt8) : Json := .num n.toNat

def ofUInt64 (n : UInt64) : Json := .num n.toNat

def ofOption (write : α → Json) : Option α → Json
  | none => .null
  | some a => write a

/-- A byte slice is written as an array of numbers. -/
def ofByteList (bytes : Bytes) : Json := .arr (bytes.map ofUInt8)

def asString : Json → Option String
  | .str s => some s
  | _ => none

def asUInt8 : Json → Option UInt8
  | .num n => if n < 2 ^ 8 then some (UInt8.ofNat n) else none
  | _ => none

def asUInt64 : Json → Option UInt64
  | .num n => if n < 2 ^ 64 then some (UInt64.ofNat n) else none
  | _ => none

def asList (read : Json → Option α) : Json → Option (List α)
  | .arr items => items.mapM read
  | _ => none

@[simp] theorem asString_str (s : String) : asString (.str s) = some s := rfl

@[simp] theorem asUInt8_ofUInt8 (n : UInt8) : asUInt8 (ofUInt8 n) = some n := by
  have h : n.toNat < 2 ^ 8 := n.toNat_lt
  rw [ofUInt8, asUInt8, if_pos h, UInt8.ofNat_toNat]

@[simp] theorem asUInt64_ofUInt64 (n : UInt64) : asUInt64 (ofUInt64 n) = some n := by
  have h : n.toNat < 2 ^ 64 := n.toNat_lt
  rw [ofUInt64, asUInt64, if_pos h, UInt64.ofNat_toNat]

theorem ofUInt8_injective : Function.Injective ofUInt8 := by
  intro a b h
  have hab := congrArg asUInt8 h
  simpa using hab

theorem ofUInt64_injective : Function.Injective ofUInt64 := by
  intro a b h
  have hab := congrArg asUInt64 h
  simpa using hab

@[simp] theorem ofUInt8_inj {a b : UInt8} : ofUInt8 a = ofUInt8 b ↔ a = b :=
  ofUInt8_injective.eq_iff

@[simp] theorem ofUInt64_inj {a b : UInt64} : ofUInt64 a = ofUInt64 b ↔ a = b :=
  ofUInt64_injective.eq_iff

@[simp] theorem ofByteList_inj {a b : Bytes} : ofByteList a = ofByteList b ↔ a = b := by
  constructor
  · intro h
    simp only [ofByteList, Json.arr.injEq] at h
    exact map_injective_iff.mpr ofUInt8_injective h
  · intro h
    rw [h]

section

variable {write : α → Json} {read : Json → Option α} (h : ∀ a, read (write a) = some a)
  (items : List α)
include h

theorem mapM_map_of_inverse : (items.map write).mapM read = some items := by
  induction items with
  | nil => rfl
  | cons i items ih => simp [h, ih]

theorem asList_map : asList read (.arr (items.map write)) = some items :=
  mapM_map_of_inverse h items
end

/-! ## Record fields -/

/-- A field that must be there. -/
def required (read : Json → Option α) (field : Option Json) : Option α := field.bind read

/-- An `Option` field: absent and `null` both mean none. -/
def optional (read : Json → Option α) : Option Json → Option (Option α)
  | none => some none
  | some .null => some none
  | some value => (read value).map some

@[simp] theorem required_some (read : Json → Option α) (value : Json) :
    required read (some value) = read value := rfl

theorem optional_ofOption {write : α → Json} {read : Json → Option α}
    (h : ∀ a, read (write a) = some a) (hu : ∀ a, write a ≠ .null) (x : Option α) :
    optional read (some (ofOption write x)) = some x := by
  cases x with
  | none => rfl
  | some a =>
    have ha := h a
    have hn := hu a
    simp only [ofOption]
    cases hw : write a with
    | null => exact absurd hw hn
    | _ =>
      rw [hw] at ha
      simp [optional, ha]

/-- The values of the declared fields of an object, `none` where a field is absent. -/
def objectFields (names : List String) : Json → Option (List (Option Json))
  | .obj members =>
    if (members.map Prod.fst).Nodup ∧ ∀ m ∈ members, m.1 ∈ names then
      some (names.map fun name => members.lookup name)
    else none
  | _ => none

/-- A record may also be an array; one with flattened members may not. -/
def structFields (names : List String) : Json → Option (List (Option Json))
  | .arr items => if items.length = names.length then some (items.map some) else none
  | value => objectFields names value

/-- A record that ignores members it does not declare. -/
def openFields (names : List String) : Json → Option (List (Option Json))
  | .arr items => if items.length = names.length then some (items.map some) else none
  | .obj members =>
    if ((members.map Prod.fst).filter fun name => decide (name ∈ names)).Nodup then
      some (names.map fun name => members.lookup name)
    else none
  | _ => none

theorem lookup_zip_eq {names : List String} (hn : names.Nodup) (values : List Json)
    (hl : names.length = values.length) :
    names.map (fun name => (names.zip values).lookup name) = values.map some := by
  induction names generalizing values with
  | nil =>
    cases values with
    | nil => rfl
    | cons v values => simp at hl
  | cons name names ih =>
    cases values with
    | nil => simp at hl
    | cons v values =>
      obtain ⟨ho, hn⟩ := nodup_cons.mp hn
      have hr : names.map (fun n => ((name, v) :: names.zip values).lookup n) =
          names.map (fun n => (names.zip values).lookup n) := by
        apply map_congr_left
        intro n hm
        have hne : (n == name) = false := beq_false_of_ne (fun h => ho (h ▸ hm))
        rw [lookup_cons, hne]
      simp only [zip_cons_cons, map_cons, hr, ih hn values (by simpa using hl)]
      simp

section

variable (names : List String) (hn : names.Nodup) (values : List Json)
  (hl : names.length = values.length)
include hn hl

theorem objectFields_zip :
    objectFields names (.obj (names.zip values)) = some (values.map some) := by
  have hk : (names.zip values).map Prod.fst = names := by
    rw [map_fst_zip (by omega)]
  have hm : ∀ m ∈ names.zip values, m.1 ∈ names := fun m hm => (of_mem_zip hm).1
  rw [objectFields, if_pos ⟨by rw [hk]; exact hn, hm⟩, lookup_zip_eq hn values hl]

theorem structFields_zip : structFields names (.obj (names.zip values)) = some (values.map some) :=
  objectFields_zip names hn values hl

theorem openFields_zip : openFields names (.obj (names.zip values)) = some (values.map some) := by
  have hk : (names.zip values).map Prod.fst = names := by
    rw [map_fst_zip (by omega)]
  rw [openFields, hk, if_pos (hn.filter _), lookup_zip_eq hn values hl]
end

def asByteArray (length : Nat) (value : Json) : Option Bytes := do
  let bytes ← asList asUInt8 value
  if bytes.length = length then some bytes else none

@[simp] theorem asList_ofByteList (bytes : Bytes) : asList asUInt8 (ofByteList bytes) = some bytes :=
  asList_map asUInt8_ofUInt8 bytes

theorem asByteArray_ofByteList {length : Nat} {bytes : Bytes} (h : bytes.length = length) :
    asByteArray length (ofByteList bytes) = some bytes := by
  simp [asByteArray, h]

end QuantumLink.Json
