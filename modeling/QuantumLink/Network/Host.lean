import QuantumLink.Foundation.Table
import QuantumLink.Network.Plan

/-! # The host

What the operations of a plan act on: devices with their addresses, policy rules, routes, and
nftables tables with what was added to them. A route belongs to a device and a chain to a table;
they go when that goes. The tool behind an operation refuses it where there is nothing to act on,
or where the object exists already; `nft add table` and `nft add chain` accept what exists.
-/

namespace QuantumLink.Network

open Finset Table Option

structure Device where
  addresses : List String
  /-- The MTU, once the link is up. -/
  up : Option UInt16

structure Route where
  cidr : String
  interface : String
  table : UInt32
deriving DecidableEq

structure Host where
  devices : Table String Device
  rules : Finset (UInt32 × UInt32)
  routes : Finset Route
  /-- The chains and rules of each table, as the operations that added them. -/
  tables : Table (String × String) (List NftablesOperation)
  attached : ∀ route ∈ routes, route.interface ∈ devices

/-- An operation of either executor. -/
inductive Operation where
  | network (operation : NetworkOperation)
  | nftables (operation : NftablesOperation)

def NftablesOperation.family : NftablesOperation → String
  | .addTable family _ | .addChain family .. | .bypassDestination family .. | .markTraffic family ..
  | .markUdpPortTraffic family .. | .markCgroupUdpPortTraffic family ..
  | .dropUnmarkedTraffic family .. | .dropOutsideInterface family .. | .deleteTable family _ => family

def NftablesOperation.table : NftablesOperation → String
  | .addTable _ table | .addChain _ table .. | .bypassDestination _ table .. | .markTraffic _ table ..
  | .markUdpPortTraffic _ table .. | .markCgroupUdpPortTraffic _ table ..
  | .dropUnmarkedTraffic _ table .. | .dropOutsideInterface _ table .. | .deleteTable _ table => table

/-- The chain an operation declares, or adds a rule to. -/
def NftablesOperation.chain : NftablesOperation → Option String
  | .addChain _ _ chain .. | .bypassDestination _ _ chain .. | .markTraffic _ _ chain ..
  | .markUdpPortTraffic _ _ chain .. | .markCgroupUdpPortTraffic _ _ chain ..
  | .dropUnmarkedTraffic _ _ chain .. | .dropOutsideInterface _ _ chain .. => some chain
  | .addTable .. | .deleteTable .. => none

def NftablesOperation.declares (chain : Option String) : NftablesOperation → Bool
  | .addChain _ _ declared .. => chain = some declared
  | _ => false

namespace Host

/-! ## What the tools do -/

variable (host : Host)

def setDevice (name : String) (device : Device) : Host where
  devices := host.devices.insert name device
  rules := host.rules
  routes := host.routes
  tables := host.tables
  attached := fun route hroute => Finmap.mem_insert.mpr (Or.inr (host.attached route hroute))

def deleteDevice (name : String) : Host where
  devices := host.devices.erase name
  rules := host.rules
  routes := host.routes.filter fun route => route.interface ≠ name
  tables := host.tables
  attached := by
    intro route hroute
    obtain ⟨hmem, hother⟩ := mem_filter.mp hroute
    exact Finmap.mem_erase.mpr ⟨hother, host.attached route hmem⟩

def setRules (rules : Finset (UInt32 × UInt32)) : Host := { host with rules }

def addRoute (route : Route) (hdevice : route.interface ∈ host.devices) : Host where
  devices := host.devices
  rules := host.rules
  routes := insert route host.routes
  tables := host.tables
  attached := by
    intro other hother
    obtain rfl | hmem := mem_insert.mp hother
    · exact hdevice
    · exact host.attached other hmem

def removeRoute (route : Route) : Host where
  devices := host.devices
  rules := host.rules
  routes := host.routes.erase route
  tables := host.tables
  attached := fun other hother => host.attached other (mem_of_mem_erase hother)

def setTables (tables : Table (String × String) (List NftablesOperation)) : Host :=
  { host with tables }

def ip : NetworkOperation → Option Host
  | .createTun name =>
    if name ∈ host.devices then none else some (host.setDevice name ⟨[], none⟩)
  | .addAddress interface address =>
    match host.devices.lookup interface with
    | none => none
    | some device =>
      if address ∈ device.addresses then none
      else some (host.setDevice interface
        { device with addresses := device.addresses ++ [address] })
  | .setLinkUp interface mtu =>
    (host.devices.lookup interface).map fun device =>
      host.setDevice interface { device with up := some mtu }
  | .addRule fwmark table =>
    if (fwmark, table) ∈ host.rules then none
    else some (host.setRules (insert (fwmark, table) host.rules))
  | .addRoute cidr interface table =>
    if hdevice : interface ∈ host.devices then
      -- a routing table holds one route for a destination, whatever its device
      if ∃ route ∈ host.routes, route.cidr = cidr ∧ route.table = table then none
      else some (host.addRoute ⟨cidr, interface, table⟩ hdevice)
    else none
  | .removeRoute cidr interface table =>
    if ⟨cidr, interface, table⟩ ∈ host.routes then
      some (host.removeRoute ⟨cidr, interface, table⟩)
    else none
  | .removeRule fwmark table =>
    if (fwmark, table) ∈ host.rules then
      some (host.setRules (host.rules.erase (fwmark, table)))
    else none
  | .deleteTun name => if name ∈ host.devices then some (host.deleteDevice name) else none

/-- What a declared chain or a new rule makes of a table. -/
def addToTable (contents : List NftablesOperation) (operation : NftablesOperation) :
    Option (List NftablesOperation) :=
  match operation with
  | .addTable .. | .deleteTable .. => some contents
  | .addChain _ _ chain .. =>
    if contents.any (NftablesOperation.declares (some chain)) then some contents
    else some (contents ++ [operation])
  | _ =>
    if contents.any (NftablesOperation.declares operation.chain) then
      some (contents ++ [operation])
    else none

def nft (operation : NftablesOperation) : Option Host :=
  let key := (operation.family, operation.table)
  match operation with
  | .addTable .. =>
    if key ∈ host.tables then some host else some (host.setTables (host.tables.insert key []))
  | .deleteTable .. =>
    if key ∈ host.tables then some (host.setTables (host.tables.erase key)) else none
  | _ =>
    match host.tables.lookup key with
    | none => none
    | some contents =>
      (addToTable contents operation).map fun contents' =>
        host.setTables (host.tables.insert key contents')

def perform : Operation → Option Host
  | .network operation => host.ip operation
  | .nftables operation => host.nft operation

@[ext] theorem ext {host host' : Host} (hd : host.devices = host'.devices)
    (hu : host.rules = host'.rules) (hr : host.routes = host'.routes)
    (ht : host.tables = host'.tables) : host = host' := by
  cases host
  cases host'
  simp only at hd hu hr ht
  subst hd hu hr ht
  rfl

end Host

/-- What a plan can leave on a host: addresses, chains and rules are part of one of these. -/
inductive HostObject where
  | device (name : String)
  | rule (fwmark table : UInt32)
  | route (route : Route)
  | table (family table : String)

def NetworkOperation.creates : NetworkOperation → Option HostObject
  | .createTun name => some (.device name)
  | .addRule fwmark table => some (.rule fwmark table)
  | .addRoute cidr interface table => some (.route ⟨cidr, interface, table⟩)
  | _ => none

def NftablesOperation.creates : NftablesOperation → Option HostObject
  | .addTable family table => some (.table family table)
  | _ => none

def Operation.creates : Operation → Option HostObject
  | .network operation => operation.creates
  | .nftables operation => operation.creates

def Operation.revertOperation : Operation → Option Operation
  | .network operation => operation.revertOperation.map .network
  | .nftables operation => operation.revertOperation.map .nftables

namespace Host

def Has (host : Host) : HostObject → Prop
  | .device name => name ∈ host.devices
  | .rule fwmark table => (fwmark, table) ∈ host.rules
  | .route route => route ∈ host.routes
  | .table family table => (family, table) ∈ host.tables

instance (host : Host) : (object : HostObject) → Decidable (host.Has object)
  | .device name => inferInstanceAs (Decidable (name ∈ host.devices))
  | .rule fwmark table => inferInstanceAs (Decidable ((fwmark, table) ∈ host.rules))
  | .route route => inferInstanceAs (Decidable (route ∈ host.routes))
  | .table family table => inferInstanceAs (Decidable ((family, table) ∈ host.tables))

section

variable {host : Host} {object : HostObject} {name : String}

theorem has_setDevice_iff :
    (host.setDevice name device).Has object ↔ host.Has object ∨ object = .device name := by
  cases object <;> simp [Has, setDevice, or_comm]

theorem has_of_setDevice_of_mem (hn : name ∈ host.devices)
    (h : (host.setDevice name device).Has object) : host.Has object := by
  obtain hh | rfl := has_setDevice_iff.mp h
  · exact hh
  · exact hn

theorem has_of_deleteDevice (h : (host.deleteDevice name).Has object) :
    host.Has object ∧ object ≠ .device name := by
  cases object with
  | device other => simpa [Has, deleteDevice, and_comm] using h
  | rule fwmark table | table family table => exact ⟨h, nofun⟩
  | route route => exact ⟨mem_of_mem_filter route h, nofun⟩

theorem has_insert_rule_iff : (host.setRules (insert (fwmark, table) host.rules)).Has object ↔
      host.Has object ∨ object = .rule fwmark table := by
  cases object <;> simp [Has, setRules, or_comm]

theorem has_erase_rule_iff : (host.setRules (host.rules.erase (fwmark, table))).Has object ↔
      host.Has object ∧ object ≠ .rule fwmark table := by
  cases object <;> simp [Has, setRules, and_comm]

theorem has_addRoute_iff {route : Route} {hd : route.interface ∈ host.devices} :
    (host.addRoute route hd).Has object ↔ host.Has object ∨ object = .route route := by
  cases object <;> simp [Has, addRoute, or_comm]

theorem has_removeRoute_iff :
    (host.removeRoute route).Has object ↔ host.Has object ∧ object ≠ .route route := by
  cases object <;> simp [Has, removeRoute, and_comm]

theorem has_insert_table_iff :
    (host.setTables (host.tables.insert (family, table) contents)).Has object ↔
      host.Has object ∨ object = .table family table := by
  cases object <;> simp [Has, setTables, or_comm]

theorem has_erase_table_iff : (host.setTables (host.tables.erase (family, table))).Has object ↔
      host.Has object ∧ object ≠ .table family table := by
  cases object <;> simp [Has, setTables, and_comm]

end

variable {host host' : Host} {object : HostObject}

theorem has_of_ip {operation : NetworkOperation}
    (h : host.ip operation = some host') (ho : host'.Has object) :
    host.Has object ∨ operation.creates = some object := by
  cases operation with
  | createTun n =>
    simp only [ip, ite_none_left_eq_some, some.injEq] at h
    rw [← h.2] at ho
    exact (has_setDevice_iff.mp ho).imp id fun heq => congrArg some heq.symm
  | addAddress i a =>
    simp only [ip] at h
    cases hl : host.devices.lookup i with
    | none => simp [hl] at h
    | some d =>
      simp only [hl, ite_none_left_eq_some, some.injEq] at h
      rw [← h.2] at ho
      exact .inl (has_of_setDevice_of_mem (Finmap.mem_of_lookup_eq_some hl) ho)
  | setLinkUp i mtu =>
    simp only [ip, map_eq_some_iff] at h
    obtain ⟨d, hl, rfl⟩ := h
    exact .inl (has_of_setDevice_of_mem (Finmap.mem_of_lookup_eq_some hl) ho)
  | addRule f t =>
    simp only [ip, ite_none_left_eq_some, some.injEq] at h
    rw [← h.2] at ho
    exact (has_insert_rule_iff.mp ho).imp id fun heq => congrArg some heq.symm
  | addRoute c i t =>
    simp only [ip] at h
    split_ifs at h
    rw [← some.inj h] at ho
    exact (has_addRoute_iff.mp ho).imp id fun heq => congrArg some heq.symm
  | removeRoute c i t =>
    simp only [ip, ite_some_none_eq_some] at h
    rw [← h.2] at ho
    exact .inl (has_removeRoute_iff.mp ho).1
  | removeRule f t =>
    simp only [ip, ite_some_none_eq_some] at h
    rw [← h.2] at ho
    exact .inl (has_erase_rule_iff.mp ho).1
  | deleteTun n =>
    simp only [ip, ite_some_none_eq_some] at h
    rw [← h.2] at ho
    exact .inl (has_of_deleteDevice ho).1

/-- What an accepted `nft` command does: nothing, a new table, the end of a table, or other
contents of a table that exists. -/
theorem nft_cases (h : host.nft operation = some host') : host' = host ∨
      (∃ family table, operation = .addTable family table ∧
        host' = host.setTables (host.tables.insert (family, table) [])) ∨
      (∃ family table, operation = .deleteTable family table ∧
        host' = host.setTables (host.tables.erase (family, table))) ∨
      ∃ contents, (operation.family, operation.table) ∈ host.tables ∧ host' = host.setTables
          (host.tables.insert (operation.family, operation.table) contents) := by
  cases operation with
  | addTable family table =>
    simp only [nft] at h
    split_ifs at h
    · exact .inl (some.inj h).symm
    · exact .inr (.inl ⟨family, table, rfl, (some.inj h).symm⟩)
  | deleteTable family table =>
    simp only [nft, ite_some_none_eq_some] at h
    exact .inr (.inr (.inl ⟨family, table, rfl, h.2.symm⟩))
  | _ =>
    simp only [nft] at h
    split at h
    · contradiction
    · rename_i contents hl
      obtain ⟨contents', -, rfl⟩ := map_eq_some_iff.mp h
      exact .inr (.inr (.inr ⟨contents', Finmap.mem_of_lookup_eq_some hl, rfl⟩))

theorem has_of_nft (h : host.nft operation = some host') (ho : host'.Has object) :
    host.Has object ∨ operation.creates = some object := by
  obtain rfl | ⟨f, t, rfl, rfl⟩ | ⟨f, t, rfl, rfl⟩ | ⟨c, hm, rfl⟩ := nft_cases h
  · exact .inl ho
  · exact (has_insert_table_iff.mp ho).imp id fun heq => congrArg some heq.symm
  · exact .inl (has_erase_table_iff.mp ho).1
  · obtain hh | rfl := has_insert_table_iff.mp ho
    · exact .inl hh
    · exact .inl hm

theorem has_of_perform (h : host.perform operation = some host') (ho : host'.Has object) :
    host.Has object ∨ operation.creates = some object := by
  cases operation with
  | network operation => exact has_of_ip h ho
  | nftables operation => exact has_of_nft h ho

/-- A revert: an object that is not there is as good as removed. -/
def undo (host : Host) (operation : Operation) : Host := (host.perform operation).getD host

theorem has_of_undo {operation : Operation}
    (hc : operation.creates = none) (ho : (host.undo operation).Has object) :
    host.Has object := by
  unfold undo at ho
  cases h : host.perform operation with
  | none =>
    rw [h] at ho
    exact ho
  | some host' =>
    rw [h] at ho
    obtain hh | hn := has_of_perform h ho
    · exact hh
    · rw [hc] at hn
      contradiction

theorem not_has_undo (hp : host.perform revert = if host.Has object then some next else none)
    (hg : ¬ next.Has object) : ¬ (host.undo revert).Has object := by
  rw [undo, hp]
  by_cases hh : host.Has object
  · rw [if_pos hh]
    exact hg
  · rw [if_neg hh]
    exact hh

end Host

variable {operation : Operation}

/-- What creates an object has a revert that leaves no host with the object. -/
theorem Operation.revertOperation_of_creates (h : operation.creates = some object) :
    ∃ revert, operation.revertOperation = some revert ∧
      ∀ host : Host, ¬ (host.undo revert).Has object := by
  cases operation with
  | network operation =>
    cases operation with
    | createTun n =>
      cases h
      exact ⟨.network (.deleteTun n), rfl, fun host =>
        Host.not_has_undo rfl fun hh => (Host.has_of_deleteDevice hh).2 rfl⟩
    | addRule f t =>
      cases h
      exact ⟨.network (.removeRule f t), rfl, fun host =>
        Host.not_has_undo rfl fun hh => (Host.has_erase_rule_iff.mp hh).2 rfl⟩
    | addRoute c i t =>
      cases h
      exact ⟨.network (.removeRoute c i t), rfl, fun host =>
        Host.not_has_undo rfl fun hh => (Host.has_removeRoute_iff.mp hh).2 rfl⟩
    | _ => cases h
  | nftables operation =>
    cases operation with
    | addTable fa t =>
      cases h
      exact ⟨.nftables (.deleteTable fa t), rfl, fun host =>
        Host.not_has_undo rfl fun hh => (Host.has_erase_table_iff.mp hh).2 rfl⟩
    | _ => cases h

variable {revert : Operation}

theorem Operation.creates_of_revertOperation
    (h : operation.revertOperation = some revert) : revert.creates = none := by
  cases operation with
  | network operation =>
    obtain ⟨operation', hr, rfl⟩ := map_eq_some_iff.mp h
    cases operation <;> cases hr <;> rfl
  | nftables operation =>
    obtain ⟨operation', hr, rfl⟩ := map_eq_some_iff.mp h
    cases operation <;> cases hr
    rfl

/-! ## The footprint of a plan -/

/-- The device, rule and table a plan is about. Its route belongs to the device. -/
structure Footprint where
  interface : String
  rule : UInt32 × UInt32
  table : String × String

/-- The operation touches nothing outside the footprint. -/
def Operation.Within (footprint : Footprint) : Operation → Prop
  | .network (.createTun name) | .network (.deleteTun name) => name = footprint.interface
  | .network (.addAddress interface _) | .network (.setLinkUp interface _)
  | .network (.addRoute _ interface _) | .network (.removeRoute _ interface _) =>
    interface = footprint.interface
  | .network (.addRule fwmark table) | .network (.removeRule fwmark table) =>
    (fwmark, table) = footprint.rule
  | .nftables operation => (operation.family, operation.table) = footprint.table

theorem Operation.within_revertOperation
    (h : operation.revertOperation = some revert) (hw : operation.Within footprint) :
    revert.Within footprint := by
  cases operation with
  | network operation =>
    obtain ⟨operation', hr, rfl⟩ := map_eq_some_iff.mp h
    cases operation <;> cases hr <;> exact hw
  | nftables operation =>
    obtain ⟨operation', hr, rfl⟩ := map_eq_some_iff.mp h
    cases operation <;> cases hr
    exact hw

namespace Host

def outside (host : Host) (footprint : Footprint) : Host where
  devices := host.devices.erase footprint.interface
  rules := host.rules.erase footprint.rule
  routes := host.routes.filter fun route => route.interface ≠ footprint.interface
  tables := host.tables.erase footprint.table
  attached := (host.deleteDevice footprint.interface).attached

/-- None of the footprint's device, rule and table is on the host. -/
structure Clear (host : Host) (footprint : Footprint) : Prop where
  device : footprint.interface ∉ host.devices
  rule : footprint.rule ∉ host.rules
  table : footprint.table ∉ host.tables

def empty : Host := ⟨∅, ∅, ∅, ∅, by simp⟩

theorem clear_empty (footprint : Footprint) : empty.Clear footprint where
  device := Finmap.notMem_empty
  rule := notMem_empty _
  table := Finmap.notMem_empty

variable {host : Host}

theorem outside_of_clear (h : host.Clear footprint) : host.outside footprint = host := by
  apply Host.ext
  · exact erase_eq_self h.device
  · exact erase_eq_of_notMem h.rule
  · apply filter_true_of_mem
    intro r hr heq
    exact h.device (heq ▸ host.attached r hr)
  · exact erase_eq_self h.table

section
variable {host host' : Host} {footprint : Footprint}

theorem outside_setDevice (d : Device) :
    (host.setDevice footprint.interface d).outside footprint = host.outside footprint := by
  apply Host.ext
  · exact erase_insert_self _ _ _
  · rfl
  · rfl
  · rfl

theorem outside_deleteDevice :
    (host.deleteDevice footprint.interface).outside footprint = host.outside footprint := by
  apply Host.ext
  · exact erase_erase_self _ _
  · rfl
  · exact (filter_filter _ _ _).trans (by simp [outside])
  · rfl

theorem outside_addRoute {r : Route} (hd : r.interface ∈ host.devices)
    (hr : r.interface = footprint.interface) :
    (host.addRoute r hd).outside footprint = host.outside footprint := by
  apply Host.ext
  · rfl
  · rfl
  · exact (filter_insert _ _ _).trans (if_neg (not_not_intro hr))
  · rfl

theorem outside_removeRoute {r : Route} (hr : r.interface = footprint.interface) :
    (host.removeRoute r).outside footprint = host.outside footprint := by
  apply Host.ext
  · rfl
  · rfl
  · ext other
    simp only [outside, removeRoute, mem_filter, mem_erase]
    grind
  · rfl

theorem outside_ip {operation : NetworkOperation} (h : host.ip operation = some host')
    (hw : (Operation.network operation).Within footprint) :
    host'.outside footprint = host.outside footprint := by
  cases operation with
  | createTun n =>
    obtain rfl : n = footprint.interface := hw
    simp only [ip, ite_none_left_eq_some, some.injEq] at h
    rw [← h.2]
    exact outside_setDevice _
  | addAddress i a =>
    obtain rfl : i = footprint.interface := hw
    simp only [ip] at h
    cases hl : host.devices.lookup footprint.interface with
    | none => simp [hl] at h
    | some d =>
      simp only [hl, ite_none_left_eq_some, some.injEq] at h
      rw [← h.2]
      exact outside_setDevice _
  | setLinkUp i mtu =>
    obtain rfl : i = footprint.interface := hw
    simp only [ip, map_eq_some_iff] at h
    obtain ⟨d, -, rfl⟩ := h
    exact outside_setDevice _
  | addRule f t =>
    simp only [ip, ite_none_left_eq_some, some.injEq] at h
    rw [← h.2]
    have hr : (f, t) = footprint.rule := hw
    apply Host.ext
    · rfl
    · rw [hr]
      exact erase_insert_eq_erase _ _
    · rfl
    · rfl
  | addRoute c i t =>
    simp only [ip] at h
    split_ifs at h with hd
    rw [← some.inj h]
    exact outside_addRoute hd hw
  | removeRoute c i t =>
    simp only [ip, ite_some_none_eq_some] at h
    rw [← h.2]
    exact outside_removeRoute hw
  | removeRule f t =>
    simp only [ip, ite_some_none_eq_some] at h
    rw [← h.2]
    have hr : (f, t) = footprint.rule := hw
    apply Host.ext
    · rfl
    · rw [hr]
      exact erase_idem
    · rfl
    · rfl
  | deleteTun n =>
    obtain rfl : n = footprint.interface := hw
    simp only [ip, ite_some_none_eq_some] at h
    rw [← h.2]
    exact outside_deleteDevice

theorem outside_setTables {t : Table (String × String) (List NftablesOperation)}
    (h : t.erase footprint.table = host.tables.erase footprint.table) :
    (host.setTables t).outside footprint = host.outside footprint := by
  apply Host.ext
  · rfl
  · rfl
  · rfl
  · exact h

theorem outside_nft {operation : NftablesOperation} (h : host.nft operation = some host')
    (hw : (Operation.nftables operation).Within footprint) :
    host'.outside footprint = host.outside footprint := by
  have ht : (operation.family, operation.table) = footprint.table := hw
  obtain rfl | ⟨f, t, rfl, rfl⟩ | ⟨f, t, rfl, rfl⟩ | ⟨c, -, rfl⟩ := nft_cases h
  · rfl
  · apply outside_setTables
    rw [← ht]
    exact erase_insert_self _ _ _
  · apply outside_setTables
    rw [← ht]
    exact erase_erase_self _ _
  · apply outside_setTables
    rw [← ht]
    exact erase_insert_self _ _ _

theorem outside_perform (h : host.perform operation = some host')
    (hw : operation.Within footprint) :
    host'.outside footprint = host.outside footprint := by
  cases operation with
  | network operation => exact outside_ip h hw
  | nftables operation => exact outside_nft h hw

theorem outside_undo {operation : Operation} (hw : operation.Within footprint) :
    (host.undo operation).outside footprint = host.outside footprint := by
  unfold undo
  cases h : host.perform operation with
  | none => rfl
  | some host' => exact outside_perform h hw

end

def undoAll (host : Host) (operations : List Operation) : Host := operations.foldl undo host

theorem undoAll_append (host : Host) (first second : List Operation) :
    host.undoAll (first ++ second) = (host.undoAll first).undoAll second :=
  List.foldl_append

theorem has_of_undoAll (hc : ∀ operation ∈ operations, operation.creates = none)
    (ho : (host.undoAll operations).Has object) : host.Has object := by
  induction operations generalizing host with
  | nil => exact ho
  | cons operation r ih =>
    have hr := ih (fun o ht => hc o (List.mem_cons_of_mem _ ht)) ho
    exact has_of_undo (hc operation List.mem_cons_self) hr

theorem outside_undoAll (hw : ∀ operation ∈ operations, operation.Within footprint) :
    (host.undoAll operations).outside footprint = host.outside footprint := by
  induction operations generalizing host with
  | nil => rfl
  | cons operation r ih =>
    calc ((host.undo operation).undoAll r).outside footprint
        = (host.undo operation).outside footprint := ih fun o ho => hw o (List.mem_cons_of_mem _ ho)
      _ = host.outside footprint := outside_undo (hw operation List.mem_cons_self)

end Host

/-- The reverts of operations, the last operation's first. -/
def revertsOf (operations : List Operation) : List Operation :=
  operations.reverse.filterMap Operation.revertOperation

theorem mem_revertsOf : revert ∈ revertsOf operations ↔
      ∃ operation ∈ operations, operation.revertOperation = some revert := by
  simp [revertsOf]

theorem revertsOf_append (first second : List Operation) :
    revertsOf (first ++ second) = revertsOf second ++ revertsOf first := by
  simp [revertsOf]

theorem creates_of_mem_revertsOf (h : revert ∈ revertsOf operations) : revert.creates = none := by
  obtain ⟨o, -, hr⟩ := mem_revertsOf.mp h
  exact Operation.creates_of_revertOperation hr

namespace Host

variable {host : Host}

theorem not_has_undoAll_revertsOf (hm : operation ∈ operations)
    (hc : operation.creates = some object) :
    ¬ (host.undoAll (revertsOf operations)).Has object := by
  obtain ⟨r, he, hr⟩ := Operation.revertOperation_of_creates hc
  obtain ⟨f, s, hs⟩ := List.append_of_mem (mem_revertsOf.mpr ⟨operation, hm, he⟩)
  have hl : ∀ o ∈ s, o.creates = none := by
    intro o ht
    have hn : o ∈ revertsOf operations := by
      rw [hs]
      exact List.mem_append_right _ (List.mem_cons_of_mem _ ht)
    exact creates_of_mem_revertsOf hn
  intro ho
  rw [hs, undoAll_append] at ho
  -- the revert takes the object away, and no later one brings it back
  exact hr (host.undoAll f) (has_of_undoAll hl ho)

/-- The objects of `host` that `start` lacks were created by these operations. -/
def Since (start : Host) (operations : List Operation) (host : Host) : Prop :=
  ∀ object, host.Has object →
    start.Has object ∨ ∃ operation ∈ operations, operation.creates = some object

theorem Since.refl (start : Host) (o : List Operation) : Since start o start :=
  fun _ ho => .inl ho

variable {start : Host} {first second : List Operation}

theorem Since.mono (h : Since start first host) (hs : ∀ operation ∈ first, operation ∈ second) :
    Since start second host := by
  intro o ho
  obtain hh | ⟨operation, hm, hc⟩ := h o ho
  · exact .inl hh
  · exact .inr ⟨operation, hs operation hm, hc⟩

theorem Since.perform (h : Since start operations host) (hp : host.perform operation = some host') :
    Since start (operations ++ [operation]) host' := by
  intro o ho
  obtain hh | hc := has_of_perform hp ho
  · exact h.mono (fun _ => List.mem_append_left _) o hh
  · exact .inr ⟨operation, List.mem_append_right _ List.mem_cons_self, hc⟩

/-- Every object the first operations create is created by one of the second too. -/
def Covers (second first : List Operation) : Prop :=
  ∀ operation ∈ first, ∀ object, operation.creates = some object →
    ∃ other ∈ second, other.creates = some object

theorem Covers.refl (operations : List Operation) : Covers operations operations :=
  fun o hm _ hc => ⟨o, hm, hc⟩

/-- Undoing operations that cover what was done leaves no object that was not there before. -/
theorem Since.undoAll (h : Since start first host) (hc : Covers second first)
    (ho : (host.undoAll (revertsOf second)).Has object) : start.Has object := by
  obtain hh | ⟨o, hm, hr⟩ := h object (has_of_undoAll (fun _ => creates_of_mem_revertsOf) ho)
  · exact hh
  · obtain ⟨ot, ht, hc'⟩ := hc o hm object hr
    exact absurd ho (not_has_undoAll_revertsOf ht hc')

theorem Clear.of_has (h : start.Clear footprint)
    (hh : ∀ object, host.Has object → start.Has object) : host.Clear footprint where
  device := fun hm => h.device (hh (.device footprint.interface) hm)
  rule := fun hm => h.rule (hh (.rule footprint.rule.1 footprint.rule.2) hm)
  table := fun hm => h.table (hh (.table footprint.table.1 footprint.table.2) hm)

/-- A clear host is the same host again once what was done to it within the footprint is undone. -/
theorem Since.undoAll_eq (hc : start.Clear footprint) (h : Since start first host)
    (hu : host.outside footprint = start.outside footprint) (hco : Covers second first)
    (hw : ∀ operation ∈ second, operation.Within footprint) :
    host.undoAll (revertsOf second) = start := by
  have hr : ∀ r ∈ revertsOf second, r.Within footprint := by
    intro r he
    obtain ⟨operation, hm, ho⟩ := mem_revertsOf.mp he
    exact Operation.within_revertOperation ho (hw operation hm)
  have hl : (host.undoAll (revertsOf second)).Clear footprint :=
    hc.of_has fun _ hb => h.undoAll hco hb
  calc host.undoAll (revertsOf second)
      = (host.undoAll (revertsOf second)).outside footprint := (outside_of_clear hl).symm
    _ = host.outside footprint := outside_undoAll hr
    _ = start.outside footprint := hu
    _ = start := outside_of_clear hc

end Host

end QuantumLink.Network
