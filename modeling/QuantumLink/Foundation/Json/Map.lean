import QuantumLink.Foundation.Json.Record
import QuantumLink.Foundation.Table

/-! # Maps and narrow integers as JSON values

A map from strings is an object whose members stand in the order of their names. A reader takes the
members as they come, the last of one name prevailing.
-/

namespace QuantumLink.Json

variable {α : Type}

def asUInt16 : Json → Option UInt16
  | .num n => if n < 2 ^ 16 then some (UInt16.ofNat n) else none
  | _ => none

def asUInt32 : Json → Option UInt32
  | .num n => if n < 2 ^ 32 then some (UInt32.ofNat n) else none
  | _ => none

@[simp] theorem asUInt16_num (n : UInt16) : asUInt16 (.num n.toNat) = some n := by
  have h : n.toNat < 2 ^ 16 := n.toNat_lt
  rw [asUInt16, if_pos h, UInt16.ofNat_toNat]

@[simp] theorem asUInt32_num (n : UInt32) : asUInt32 (.num n.toNat) = some n := by
  have h : n.toNat < 2 ^ 32 := n.toNat_lt
  rw [asUInt32, if_pos h, UInt32.ofNat_toNat]

def ofMap (write : α → Json) (table : Table String α) : Json :=
  .obj (table.sorted.map fun entry => (entry.1, write entry.2))

def asMap (read : Json → Option α) : Json → Option (Table String α)
  | .obj members =>
    (members.mapM fun member => (read member.2).map (member.1, ·)).map Table.ofList
  | _ => none

theorem asMap_ofMap {w : α → Json} {r : Json → Option α}
    (h : ∀ a, r (w a) = some a) (table : Table String α) :
    asMap r (ofMap w table) = some table := by
  have hm (entries : List (String × α)) :
      (entries.map fun e => (e.1, w e.2)).mapM
        (fun m => (r m.2).map (m.1, ·)) = some entries := by
    induction entries with
    | nil => rfl
    | cons e entries ih => simp [h, ih]
  rw [ofMap, asMap, hm, Option.map_some, Table.ofList_sorted]

end QuantumLink.Json
