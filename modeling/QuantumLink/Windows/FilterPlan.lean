import QuantumLink.Foundation.KeyOrder
import QuantumLink.Foundation.Traverse
import QuantumLink.Windows.Engine
import QuantumLink.Windows.Route

/-! # The filters of the Windows kill switch

`build_filter_plan_for_luid` and `build_reconciliation_plan` of the WFP module, and what
`add_planned_filter` makes of a planned filter. A layer is evaluated the way the Windows Filtering
Platform does it inside one sublayer: of the filters that match, the one of highest weight decides.
-/

namespace QuantumLink.Windows

open List

inductive WfpFilterMode where
  | failClosed
  | strict
deriving DecidableEq

inductive WfpLayer where
  | aleAuthConnectV4
  | outboundIpPacketV4
deriving DecidableEq

inductive WfpAction where
  | block
  | permit
deriving DecidableEq

inductive WfpFilterLifetime where
  | dynamic
  | persistent
  | bootTime
deriving DecidableEq

/-- The name the `Debug` format prints. -/
def WfpLayer.debug : WfpLayer → String
  | .aleAuthConnectV4 => "AleAuthConnectV4"
  | .outboundIpPacketV4 => "OutboundIpPacketV4"

@[inherit_doc WfpLayer.debug]
def WfpAction.debug : WfpAction → String
  | .block => "Block"
  | .permit => "Permit"

namespace WfpFilterLifetime

@[inherit_doc WfpLayer.debug]
def debug : WfpFilterLifetime → String
  | .dynamic => "Dynamic"
  | .persistent => "Persistent"
  | .bootTime => "BootTime"

variable (lifetime : WfpFilterLifetime)

def persistentFlag : Bool := lifetime = .persistent

def bootTimeFlag : Bool := lifetime = .bootTime

def managementFlags : WfpFilterLifetime → UInt32
  | .dynamic => 0
  | .persistent => 1
  | .bootTime => 2

end WfpFilterLifetime

def providerKey : BitVec 128 := 0xe565f2d967284df3a5789de6f6ed725a#128

def sublayerKey : BitVec 128 := 0x7c1a44d03f2e4b8a9c61d5a0e84b91f2#128

structure PlannedWfpFilter where
  ownershipKey : BitVec 128
  providerKey : BitVec 128
  sublayerKey : BitVec 128
  layer : WfpLayer
  action : WfpAction
  lifetime : WfpFilterLifetime
  route : String
  tunnelLuid : Option UInt64

structure WfpFilterPlan where
  mode : WfpFilterMode
  dynamicSession : Bool
  persistentFilters : Bool
  bootTimeFailClosed : Bool
  cleanupRequiredOnUninstall : Bool
  filters : List PlannedWfpFilter

/-! ## The key of a filter -/

def filterDescriptor (layer : WfpLayer) (action : WfpAction) (lifetime : WfpFilterLifetime)
    (route : String) (tunnelLuid : Option UInt64) : String :=
  "quantumlink-wfp-v1|" ++ layer.debug ++ "|" ++ action.debug ++ "|" ++ lifetime.debug ++ "|" ++
    route ++ "|" ++ toString (tunnelLuid.getD 0).toNat

/-- One byte of the descriptor, mixed into both halves of the key. -/
def mixByte (halves : UInt64 × UInt64) (byte : UInt8) : UInt64 × UInt64 :=
  let rotated := (byte.toUInt64 <<< 1) ||| (byte.toUInt64 >>> 63)
  ((halves.1 ^^^ byte.toUInt64) * 0x100000001b3, (halves.2 ^^^ rotated) * 0x9e3779b185ebca87)

def stableFilterKey (layer : WfpLayer) (action : WfpAction) (lifetime : WfpFilterLifetime)
    (route : String) (tunnelLuid : Option UInt64) : BitVec 128 :=
  let descriptor := filterDescriptor layer action lifetime route tunnelLuid
  let (high, low) := (Json.stringBytes descriptor).foldl mixByte
    (0xcbf29ce484222325, 0x84222325cbf29ce4)
  let key := high.toBitVec ++ low.toBitVec
  -- the version and the variant of a GUID
  let key := key &&& ~~~ (0xf#128 <<< 76) ||| (5#128 <<< 76)
  key &&& ~~~ (0x3#128 <<< 62) ||| (2#128 <<< 62)

def plannedFilter (layer : WfpLayer) (action : WfpAction) (lifetime : WfpFilterLifetime)
    (route : String) (tunnelLuid : Option UInt64) : PlannedWfpFilter where
  ownershipKey := stableFilterKey layer action lifetime route tunnelLuid
  providerKey := providerKey
  sublayerKey := sublayerKey
  layer
  action
  lifetime
  route
  tunnelLuid

def WfpFilterMode.ofPolicy : KillSwitchPolicy → WfpFilterMode
  | .failClosed => .failClosed
  | .strict => .strict

namespace WfpFilterMode

def layers : WfpFilterMode → List WfpLayer
  | .failClosed => [.aleAuthConnectV4]
  | .strict => [.aleAuthConnectV4, .outboundIpPacketV4]

def blockLifetimes : WfpFilterMode → List WfpFilterLifetime
  | .failClosed => [.dynamic]
  | .strict => [.bootTime, .persistent]

variable (mode : WfpFilterMode)

variable (tunnelLuid : Option UInt64)

/-- What the loop adds for one route at one layer. -/
def layerFilters (route : String) (layer : WfpLayer) :
    List PlannedWfpFilter :=
  (mode.blockLifetimes.map fun lifetime => plannedFilter layer .block lifetime route none) ++
    tunnelLuid.toList.map fun luid => plannedFilter layer .permit .dynamic route (some luid)

/-- What the loop adds for canonical routes. -/
def plannedFilters (routes : List String) :
    List PlannedWfpFilter :=
  routes.flatMap fun route => mode.layers.flatMap (mode.layerFilters tunnelLuid route)

end WfpFilterMode

def sortDedupFilters (filters : List PlannedWfpFilter) : List PlannedWfpFilter :=
  sortDedupByKey (fun filter => filter.ownershipKey.toNat) filters

def buildFilterPlanForLuid (policy : KillSwitchPolicy) (protectedRoutes : List String)
    (tunnelLuid : Option UInt64) : Except EngineError WfpFilterPlan := do
  let tunnelLuid := tunnelLuid.filter (· ≠ 0)
  let mode := WfpFilterMode.ofPolicy policy
  let routes ← protectedRoutes.mapM canonicalV4Cidr
  pure
    { mode
      dynamicSession := mode = .failClosed
      persistentFilters := mode = .strict
      bootTimeFailClosed := mode = .strict
      cleanupRequiredOnUninstall := mode = .strict
      filters := sortDedupFilters (mode.plannedFilters tunnelLuid routes) }

/-! ## Reconciliation -/

structure ExistingWfpFilter where
  ownershipKey : BitVec 128
  providerKey : BitVec 128
  sublayerKey : BitVec 128

structure WfpReconciliationPlan where
  deleteKeys : List (BitVec 128)
  addFilters : List PlannedWfpFilter

def ExistingWfpFilter.Owned (existing : ExistingWfpFilter) : Prop :=
  existing.providerKey = Windows.providerKey ∧ existing.sublayerKey = Windows.sublayerKey

instance (existing : ExistingWfpFilter) : Decidable existing.Owned :=
  inferInstanceAs (Decidable (_ ∧ _))

def buildReconciliationPlan (existing : List ExistingWfpFilter) (desired : List PlannedWfpFilter) :
    WfpReconciliationPlan where
  deleteKeys := sortDedupByKey BitVec.toNat
    ((existing.filter fun filter => filter.Owned).map ExistingWfpFilter.ownershipKey)
  addFilters := sortDedupFilters desired

/-! ## Filters of the platform -/

/-- A filter as it is handed to the platform. -/
structure FwpmFilter where
  filterKey : BitVec 128
  providerKey : BitVec 128
  subLayerKey : BitVec 128
  layerKey : WfpLayer
  name : String
  flags : UInt32
  weight : Nat
  remoteAddress : BitVec 32
  remoteMask : BitVec 32
  localInterface : Option UInt64
  action : WfpAction
  rawContext : UInt64

def blockWeight : Nat := 0

def permitWeight : Nat := 15

/-- The display name, the weight and the context of a kind of filter. -/
def filterKind : WfpAction → WfpFilterLifetime → Except EngineError (String × Nat × UInt64)
  | .block, .persistent => .ok ("QuantumLink persistent block", blockWeight, 0x514c4e4b00000001)
  | .block, .bootTime => .ok ("QuantumLink boot-time block", blockWeight, 0x514c4e4b00000002)
  | .block, .dynamic => .ok ("QuantumLink dynamic block", blockWeight, 0x514c4e4b00000004)
  | .permit, .dynamic => .ok ("QuantumLink tunnel permit", permitWeight, 0x514c4e4b00000003)
  | .permit, _ => .error (.platform "tunnel permit filters must be dynamic")

/-- `add_planned_filter` up to the call of the platform: what is added. -/
def addPlannedFilter (planned : PlannedWfpFilter) : Except EngineError FwpmFilter := do
  ensure (planned.providerKey = providerKey ∧ planned.sublayerKey = sublayerKey)
    (EngineError.platform "refusing to install a WFP filter outside QuantumLink ownership")
  ensure (¬ (planned.lifetime.persistentFlag ∧ planned.lifetime.bootTimeFlag))
    (EngineError.platform "WFP persistent and boot-time flags cannot be combined")
  let (address, prefixLen) ← parseV4Cidr planned.route
  let luid := planned.tunnelLuid.getD 0
  ensure (¬ (planned.action = .permit ∧ luid = 0))
    (EngineError.platform "refusing to install a tunnel permit without an active adapter LUID")
  let (name, weight, rawContext) ← filterKind planned.action planned.lifetime
  pure
    { filterKey := planned.ownershipKey
      providerKey := providerKey
      subLayerKey := sublayerKey
      layerKey := planned.layer
      name
      flags := planned.lifetime.managementFlags
      weight
      remoteAddress := address
      remoteMask := prefixToMask prefixLen
      localInterface := if planned.action = .permit then some luid else none
      action := planned.action
      rawContext }

namespace FwpmFilter

variable (filter : FwpmFilter)

/-- A connection to the address over the interface meets every condition of the filter. -/
def Matches (layer : WfpLayer) (address : BitVec 32) (interface : UInt64) : Prop :=
  filter.layerKey = layer ∧ address &&& filter.remoteMask = filter.remoteAddress &&& filter.remoteMask ∧
    (filter.localInterface = none ∨ filter.localInterface = some interface)

instance (filter : FwpmFilter) (layer : WfpLayer) (address : BitVec 32) (interface : UInt64) :
    Decidable (filter.Matches layer address interface) :=
  inferInstanceAs (Decidable (_ ∧ _ ∧ _))

def identity : ExistingWfpFilter where
  ownershipKey := filter.filterKey
  providerKey := filter.providerKey
  sublayerKey := filter.subLayerKey

def Owned (filter : FwpmFilter) : Prop := filter.identity.Owned

instance (filter : FwpmFilter) : Decidable filter.Owned :=
  inferInstanceAs (Decidable (_ ∧ _))

end FwpmFilter

/-- Of the filters that match, the one of highest weight decides. -/
def classify (filters : List FwpmFilter) (layer : WfpLayer) (address : BitVec 32)
    (interface : UInt64) : Option WfpAction :=
  ((filters.filter fun filter => filter.Matches layer address interface).argmax
    FwpmFilter.weight).map FwpmFilter.action

/-- Filters of the platform: a key belongs to one filter. -/
structure FilterSet where
  filters : List FwpmFilter
  distinct : (filters.map FwpmFilter.filterKey).Nodup

/-- The deletions of a reconciliation plan, then its additions. The platform refuses a filter whose
key another one has; that is not checked here, and the result is a list, not a `FilterSet`. -/
def WfpReconciliationPlan.applyTo (plan : WfpReconciliationPlan) (existing : List FwpmFilter) :
    Except EngineError (List FwpmFilter) := do
  let added ← plan.addFilters.mapM addPlannedFilter
  pure (existing.filter (fun filter => filter.filterKey ∉ plan.deleteKeys) ++ added)

/-! ## What the planned filters do -/

/-- The key tells the filters of the plan apart. -/
def KeysDistinct (policy : KillSwitchPolicy) (routes : List String) (tunnelLuid : Option UInt64) :
    Prop :=
  ∀ texts, routes.mapM canonicalV4Cidr = .ok texts →
    Set.InjOn PlannedWfpFilter.ownershipKey {filter |
      filter ∈ (WfpFilterMode.ofPolicy policy).plannedFilters (tunnelLuid.filter (· ≠ 0)) texts}

/-- The filter decides for a block of addresses at a layer, on all interfaces or on one. -/
structure Installs (layer : WfpLayer) (kind : WfpAction) (block : AddressBlock 32)
    (interface : Option UInt64) (filter : FwpmFilter) : Prop where
  owned : filter.Owned
  action : filter.action = kind
  weight : filter.weight = if kind = .permit then permitWeight else blockWeight
  matches_iff : ∀ other address luid, filter.Matches other address luid ↔
    layer = other ∧ block.Contains address ∧ (interface = none ∨ interface = some luid)

open WfpFilterMode

theorem addPlannedFilter_eq {block : AddressBlock 32} (hb : block.length ≤ 32)
    (layer : WfpLayer) {l : Option UInt64}
    (h : kind = .permit → lifetime = .dynamic ∧ l.getD 0 ≠ 0) :
    ∃ filter,
      addPlannedFilter (plannedFilter layer kind lifetime (blockText block) l) = .ok filter ∧
        Installs layer kind block (if kind = .permit then some (l.getD 0) else none) filter := by
  have hf : ¬ (lifetime.persistentFlag = true ∧ lifetime.bootTimeFlag = true) := by
    cases lifetime <;> decide
  obtain ⟨n, c, hk⟩ : ∃ n c, filterKind kind lifetime =
      .ok (n, if kind = .permit then permitWeight else blockWeight, c) := by
    cases kind with
    | block => cases lifetime <;> exact ⟨_, _, rfl⟩
    | permit => rw [(h rfl).1]; exact ⟨_, _, rfl⟩
  have hlui : ¬ (kind = .permit ∧ l.getD 0 = 0) := fun hp => (h hp.1).2 hp.2
  refine ⟨FwpmFilter.mk (stableFilterKey layer kind lifetime (blockText block) l) providerKey
    sublayerKey layer n lifetime.managementFlags (if kind = .permit then permitWeight else blockWeight)
    block.address (prefixToMask block.length) (if kind = .permit then some (l.getD 0) else none) kind
    c, ?_, ⟨rfl, rfl⟩, rfl, rfl, ?_⟩
  · simp only [addPlannedFilter, plannedFilter, blockText, hk, ensure, and_self, hf, hlui,
      not_false_eq_true, if_true, parseV4Cidr_cidrText block.address hb]
    rfl
  · intro o a i
    rw [FwpmFilter.Matches, prefixToMask_eq_prefixMask, block.canonical]
    rfl

/-- The block of one of the routes. -/
def Protects (routes : List String) (block : AddressBlock 32) : Prop :=
  ∃ route ∈ routes, routeBlock route = .ok block

theorem exists_inRoute_iff {routes : List String} {address : BitVec 32} :
    (∃ route ∈ routes, InRoute address route) ↔
      ∃ block, Protects routes block ∧ block.Contains address := by
  constructor
  · rintro ⟨route, hr, block, hb, hc⟩
    exact ⟨block, ⟨route, hr, hb⟩, hc⟩
  · rintro ⟨block, ⟨route, hr, hb⟩, hc⟩
    exact ⟨route, hr, block, hb, hc⟩

theorem mem_canonical_iff {routes texts : List String}
    (h : routes.mapM canonicalV4Cidr = .ok texts) (text : String) :
    text ∈ texts ↔ ∃ block, Protects routes block ∧ blockText block = text := by
  rw [mem_iff_of_mapM_ok h]
  constructor
  · rintro ⟨r, hr, ht⟩
    rw [canonicalV4Cidr_eq] at ht
    cases hb : routeBlock r with
    | error error => simp [hb, Except.map] at ht
    | ok block =>
      simp only [hb, Except.map, Except.ok.injEq] at ht
      exact ⟨block, ⟨r, hr, hb⟩, ht⟩
  · rintro ⟨block, ⟨r, hr, hb⟩, rfl⟩
    exact ⟨r, hr, by rw [canonicalV4Cidr_eq, hb]; rfl⟩

theorem canonical_of_accepted {routes : List String} (h : ∀ route ∈ routes, Accepted route) :
    ∃ texts, routes.mapM canonicalV4Cidr = .ok texts := by
  apply mapM_ok_of_forall
  intro route hr
  obtain ⟨b, hb⟩ := (h route hr).routeBlock
  exact ⟨blockText b, by rw [canonicalV4Cidr_eq, hb]; rfl⟩

/-- A filter planned for the routes, with the block it stands for. -/
inductive PlannedFor (mode : WfpFilterMode) (routes : List String) (tunnelLuid : Option UInt64)
    (block : AddressBlock 32) (layer : WfpLayer) : WfpAction → PlannedWfpFilter → Prop
  | block {lifetime : WfpFilterLifetime} (hblock : Protects routes block)
      (hlayer : layer ∈ mode.layers) (hlifetime : lifetime ∈ mode.blockLifetimes) :
      PlannedFor mode routes tunnelLuid block layer .block
        (plannedFilter layer .block lifetime (blockText block) none)
  | permit {luid : UInt64} (hblock : Protects routes block) (hlayer : layer ∈ mode.layers)
      (hluid : tunnelLuid = some luid) :
      PlannedFor mode routes tunnelLuid block layer .permit
        (plannedFilter layer .permit .dynamic (blockText block) (some luid))

section plan

variable {mode : WfpFilterMode} {routes texts : List String} {tunnelLuid : Option UInt64}

theorem mem_plannedFilters_iff (h : routes.mapM canonicalV4Cidr = .ok texts)
    (filter : PlannedWfpFilter) :
    filter ∈ mode.plannedFilters tunnelLuid texts ↔
      ∃ block layer kind, PlannedFor mode routes tunnelLuid block layer kind filter := by
  simp only [plannedFilters, layerFilters, mem_flatMap,
    mem_append, mem_map, Option.mem_toList, mem_canonical_iff h]
  constructor
  · rintro ⟨_, ⟨block, hb, rfl⟩, layer, hl, ⟨l, hi, rfl⟩ | ⟨lu, hu, rfl⟩⟩
    · exact ⟨block, layer, _, .block hb hl hi⟩
    · exact ⟨block, layer, _, .permit hb hl hu⟩
  · rintro ⟨block, layer, kind, ⟨hb, hl, hi⟩ | ⟨hb, hl, hu⟩⟩
    · exact ⟨_, ⟨block, hb, rfl⟩, layer, hl, .inl ⟨_, hi, rfl⟩⟩
    · exact ⟨_, ⟨block, hb, rfl⟩, layer, hl, .inr ⟨_, hu, rfl⟩⟩

theorem PlannedFor.installs {block : AddressBlock 32} (hlui : tunnelLuid ≠ some 0)
    (h : PlannedFor mode routes tunnelLuid block layer kind planned) :
    ∃ filter, addPlannedFilter planned = .ok filter ∧
      Installs layer kind block (if kind = .permit then tunnelLuid else none) filter := by
  cases h with
  | block hb hl hi =>
    obtain ⟨r, -, hr⟩ := hb
    exact addPlannedFilter_eq (length_le_of_routeBlock hr) layer (fun h => nomatch h)
  | @permit l hb hl hs =>
    obtain ⟨r, -, hr⟩ := hb
    subst hs
    exact addPlannedFilter_eq (length_le_of_routeBlock hr) layer
      (fun _ => ⟨rfl, fun hz => hlui (congrArg some hz)⟩)

end plan

section classify

variable {filters : List FwpmFilter} {layer : WfpLayer} {address : BitVec 32} {interface : UInt64}

theorem classify_eq_none_iff : classify filters layer address interface = none ↔
      ∀ filter ∈ filters, ¬ filter.Matches layer address interface := by
  simp [classify]

/-- With permits above blocks, any matching permit decides. -/
theorem classify_eq_permit_iff (hw : ∀ filter ∈ filters,
      filter.weight = if filter.action = .permit then permitWeight else blockWeight) :
    classify filters layer address interface = some .permit ↔
      ∃ filter ∈ filters, filter.Matches layer address interface ∧ filter.action = .permit := by
  constructor
  · intro h
    obtain ⟨filter, hf, ha⟩ := Option.map_eq_some_iff.mp h
    have hm := mem_filter.mp (argmax_mem hf)
    exact ⟨filter, hm.1, of_decide_eq_true hm.2, ha⟩
  · rintro ⟨filter, hm, hma, ha⟩
    have hc : filter ∈ filters.filter fun filter => filter.Matches layer address interface :=
      mem_filter.mpr ⟨hm, decide_eq_true hma⟩
    cases hb : (filters.filter fun filter => filter.Matches layer address interface).argmax
        FwpmFilter.weight with
    | none => simp [argmax_eq_none.mp hb] at hc
    | some b =>
      have hle := le_of_mem_argmax hc hb
      have he := (mem_filter.mp (argmax_mem hb)).1
      rw [hw filter hm, hw b he, if_pos ha] at hle
      have hp : b.action = .permit := by
        by_contra hl
        simp [hl, permitWeight, blockWeight] at hle
      rw [classify, hb, Option.map_some, hp]

end classify

section installed

variable {mode : WfpFilterMode} {routes : List String} {tunnelLuid : Option UInt64}
  {planned : List PlannedWfpFilter} {installed : List FwpmFilter}
  (hpla : ∀ filter, filter ∈ planned ↔
    ∃ block layer kind, PlannedFor mode routes tunnelLuid block layer kind filter)
  (hlui : tunnelLuid ≠ some 0) (hins : planned.mapM addPlannedFilter = .ok installed)
include hpla hlui hins

theorem exists_planned_of_installed {filter : FwpmFilter} (h : filter ∈ installed) :
    ∃ block layer kind planned, PlannedFor mode routes tunnelLuid block layer kind planned ∧
      Installs layer kind block (if kind = .permit then tunnelLuid else none) filter := by
  obtain ⟨planned, hm, hd⟩ := (mem_iff_of_mapM_ok hins filter).mp h
  obtain ⟨block, layer, kind, hf⟩ := (hpla planned).mp hm
  obtain ⟨_, ha, hi⟩ := hf.installs hlui
  cases hd.symm.trans ha
  exact ⟨block, layer, kind, planned, hf, hi⟩

variable {layer : WfpLayer}

theorem exists_installed {block : AddressBlock 32} {kind : WfpAction} {filter : PlannedWfpFilter}
    (h : PlannedFor mode routes tunnelLuid block layer kind filter) :
    ∃ added ∈ installed,
      Installs layer kind block (if kind = .permit then tunnelLuid else none) added := by
  obtain ⟨added, ha, hi⟩ := h.installs hlui
  have hm := (hpla filter).mpr ⟨block, layer, kind, h⟩
  exact ⟨added, (mem_iff_of_mapM_ok hins added).mpr ⟨filter, hm, ha⟩, hi⟩

theorem matches_installed {filter : FwpmFilter} (h : filter ∈ installed) {address : BitVec 32}
    {interface : UInt64} (hm : filter.Matches layer address interface) :
    layer ∈ mode.layers ∧ (∃ block, Protects routes block ∧ block.Contains address) ∧
      (filter.action = .permit → tunnelLuid = some interface) := by
  obtain ⟨block, _, k, _, hf, hi⟩ := exists_planned_of_installed hpla hlui hins h
  obtain ⟨rfl, hc, hn⟩ := (hi.matches_iff _ _ _).mp hm
  rw [hi.action]
  cases hf with
  | block hb hl _ => exact ⟨hl, ⟨block, hb, hc⟩, fun hk => nomatch hk⟩
  | permit hb hl hs =>
    exact ⟨hl, ⟨block, hb, hc⟩, fun _ => by simpa [hs] using hn⟩

/-- At a layer of the mode the filters block the routes, but on the tunnel's interface. -/
theorem classify_installed_iff (hl : layer ∈ mode.layers) (address : BitVec 32)
    (interface : UInt64) :
    classify installed layer address interface = some .block ↔
      (∃ block, Protects routes block ∧ block.Contains address) ∧ tunnelLuid ≠ some interface := by
  have hw : ∀ f ∈ installed,
      f.weight = if f.action = .permit then permitWeight else blockWeight := by
    intro f hf
    obtain ⟨block, _, k, _, -, hi⟩ := exists_planned_of_installed hpla hlui hins hf
    rw [hi.weight, hi.action]
  have hn := @classify_eq_none_iff installed layer address interface
  have hp := @classify_eq_permit_iff installed layer address interface hw
  constructor
  · intro h
    constructor
    · by_contra hu
      have hq := hn.mpr fun f hf hm =>
        hu (matches_installed hpla hlui hins hf hm).2.1
      simp [h] at hq
    · intro hin
      have hma : ∃ f ∈ installed, f.Matches layer address interface := by
        by_contra hq
        push Not at hq
        simp [hn.mpr hq] at h
      obtain ⟨f, hf, hm⟩ := hma
      obtain ⟨-, ⟨block, hb, hc⟩, -⟩ :=
        matches_installed hpla hlui hins hf hm
      obtain ⟨a, ha, hi⟩ := exists_installed hpla hlui hins
        (.permit hb hl hin)
      have := hp.mpr ⟨a, ha, (hi.matches_iff _ _ _).mpr ⟨rfl, hc, .inr hin⟩, hi.action⟩
      simp [h] at this
  · rintro ⟨⟨block, hb, hc⟩, hin⟩
    obtain ⟨l, hli⟩ : ∃ l, l ∈ mode.blockLifetimes := by
      cases mode <;> exact ⟨_, mem_cons_self⟩
    obtain ⟨a, ha, hi⟩ := exists_installed hpla hlui hins
      (.block hb hl hli)
    have hm := (hi.matches_iff layer address interface).mpr ⟨rfl, hc, .inl rfl⟩
    cases h : classify installed layer address interface with
    | none => exact absurd hm (hn.mp h a ha)
    | some ac =>
      cases ac with
      | block => rfl
      | permit =>
        obtain ⟨f, hf, he, hac⟩ := hp.mp h
        exact absurd ((matches_installed hpla hlui hins hf he).2.2 hac)
          hin

end installed

/-! ## The plan as a whole -/

section meaning

variable {policy : KillSwitchPolicy} {routes others : List String} {tunnelLuid : Option UInt64}

theorem filter_ne_zero_eq_some_iff {l : Option UInt64} {interface : UInt64} :
    l.filter (· ≠ 0) ≠ some interface ↔ l = some 0 ∨ l ≠ some interface := by
  cases l with
  | none => simp
  | some l =>
    by_cases hz : l = 0
    · simpa [hz] using Eq.symm
    · simp [hz, Option.filter]

theorem buildFilterPlanForLuid_eq (policy : KillSwitchPolicy) (tunnelLuid : Option UInt64)
    {texts : List String} (h : routes.mapM canonicalV4Cidr = .ok texts) :
    ∃ plan, buildFilterPlanForLuid policy routes tunnelLuid = .ok plan ∧
      plan.filters = sortDedupFilters
        ((ofPolicy policy).plannedFilters (tunnelLuid.filter (· ≠ 0)) texts) := by
  rw [buildFilterPlanForLuid, h]
  exact ⟨_, rfl, rfl⟩

section

variable {plan : WfpFilterPlan} (hke : KeysDistinct policy routes tunnelLuid)
  (hplan : buildFilterPlanForLuid policy routes tunnelLuid = .ok plan)
include hke hplan

theorem mem_plan_iff (filter : PlannedWfpFilter) :
    filter ∈ plan.filters ↔ ∃ block layer kind, PlannedFor (ofPolicy policy) routes
      (tunnelLuid.filter (· ≠ 0)) block layer kind filter := by
  obtain ⟨t, ht, -⟩ := bind_eq_ok_iff.mp hplan
  obtain ⟨_, hk, hf⟩ := buildFilterPlanForLuid_eq policy tunnelLuid ht
  cases hplan.symm.trans hk
  rw [hf, sortDedupFilters, mem_sortDedupByKey_iff, mem_plannedFilters_iff ht]
  exact BitVec.toNat_injective.comp_injOn (hke t ht)

theorem plan_installs :
    ∀ planned ∈ plan.filters, ∃ filter, addPlannedFilter planned = .ok filter ∧ filter.Owned := by
  intro planned hp
  obtain ⟨b, l, k, hf⟩ := (mem_plan_iff hke hplan planned).mp hp
  obtain ⟨filter, ha, hi⟩ :=
    hf.installs (filter_ne_zero_eq_some_iff.mpr (eq_or_ne tunnelLuid (some 0)))
  exact ⟨filter, ha, hi.owned⟩

theorem buildFilterPlanForLuid_congr (hot : ∀ route ∈ others, Accepted route)
    (h : ∀ block, Protects routes block ↔ Protects others block) :
    buildFilterPlanForLuid policy others tunnelLuid = .ok plan := by
  obtain ⟨texts, ht, hr⟩ := bind_eq_ok_iff.mp hplan
  obtain ⟨o, ho⟩ := canonical_of_accepted hot
  rw [← hr, buildFilterPlanForLuid, ho]
  have hs (text : String) : text ∈ o ↔ text ∈ texts := by
    simp [mem_canonical_iff ht, mem_canonical_iff ho, h]
  have hf : sortDedupFilters ((ofPolicy policy).plannedFilters
        (tunnelLuid.filter (· ≠ 0)) texts) =
      sortDedupFilters ((ofPolicy policy).plannedFilters (tunnelLuid.filter (· ≠ 0)) o) := by
    apply sortDedupByKey_congr (BitVec.toNat_injective.comp_injOn (hke texts ht))
    simp [plannedFilters, hs]
  rw [hf]
  rfl
end

/-- The owned filters become the desired ones; the others stay as they are. -/
theorem reconcile_spec (e : FilterSet) {desired : List PlannedWfpFilter}
    (hi : Set.InjOn PlannedWfpFilter.ownershipKey {planned | planned ∈ desired})
    (hd : ∀ planned ∈ desired, ∃ filter, addPlannedFilter planned = .ok filter ∧ filter.Owned) :
    ∃ after, (buildReconciliationPlan (e.filters.map FwpmFilter.identity) desired).applyTo
        e.filters = .ok after ∧
      (∀ filter, filter.Owned →
        (filter ∈ after ↔ ∃ planned ∈ desired, addPlannedFilter planned = .ok filter)) ∧
      after.filter (fun filter => ¬ filter.Owned) =
        e.filters.filter fun filter => ¬ filter.Owned := by
  have had : ∀ planned, planned ∈ sortDedupFilters desired ↔ planned ∈ desired := fun planned =>
    mem_sortDedupByKey_iff (BitVec.toNat_injective.comp_injOn hi)
  obtain ⟨a, ha⟩ := mapM_ok_of_forall fun planned hp =>
    (hd planned ((had planned).mp hp)).imp fun _ h => h.1
  have hm (filter : FwpmFilter) :
      filter ∈ a ↔ ∃ planned ∈ desired, addPlannedFilter planned = .ok filter := by
    simp [mem_iff_of_mapM_ok ha, had]
  have ho : ∀ filter ∈ a, filter.Owned := by
    intro filter hf
    obtain ⟨planned, hp, hok⟩ := (hm filter).mp hf
    obtain ⟨_, hok', ho⟩ := hd planned hp
    cases hok.symm.trans hok'
    exact ho
  -- keys are distinct, so a key to delete is the key of an owned filter only
  have hk : e.filters.filter (fun filter => filter.filterKey ∉
        (buildReconciliationPlan (e.filters.map FwpmFilter.identity) desired).deleteKeys) =
      e.filters.filter fun filter => ¬ filter.Owned := by
    apply filter_congr
    intro filter hf
    rw [decide_eq_decide, not_iff_not, buildReconciliationPlan,
      mem_sortDedupByKey_iff BitVec.toNat_injective.injOn]
    simp only [mem_map, mem_filter, decide_eq_true_eq]
    constructor
    · rintro ⟨_, ⟨⟨o, ht, rfl⟩, ho⟩, he⟩
      exact inj_on_of_nodup_map e.distinct ht hf he ▸ ho
    · intro ho
      exact ⟨_, ⟨⟨filter, hf, rfl⟩, ho⟩, rfl⟩
  refine ⟨e.filters.filter (fun filter => ¬ filter.Owned) ++ a, ?_, ?_, ?_⟩
  · rw [WfpReconciliationPlan.applyTo, hk]
    exact congrArg (· >>= _) ha
  · intro filter ho
    simp [hm, ho]
  · have hn : a.filter (fun filter => ¬ filter.Owned) = [] :=
      filter_eq_nil_iff.mpr fun filter hf => by simp [ho filter hf]
    rw [filter_append, hn, append_nil, filter_filter]
    simp

end meaning

/-- The plan blocks the routes everywhere but on the tunnel, depends on the addresses of the routes
only, and reconciling towards it replaces the owned filters and touches no other. -/
theorem plan_blocks_routes (policy : KillSwitchPolicy) (routes : List String)
    (tunnelLuid : Option UInt64) (hroutes : ∀ route ∈ routes, Accepted route)
    (hkeys : KeysDistinct policy routes tunnelLuid) :
    ∃ plan installed, buildFilterPlanForLuid policy routes tunnelLuid = .ok plan ∧
      plan.filters.mapM addPlannedFilter = .ok installed ∧
      (∀ layer ∈ (WfpFilterMode.ofPolicy policy).layers, ∀ address interface,
        classify installed layer address interface = some .block ↔
          (∃ route ∈ routes, InRoute address route) ∧
            (tunnelLuid = some 0 ∨ tunnelLuid ≠ some interface)) ∧
      (∀ filter ∈ installed, ∀ layer address interface, filter.Matches layer address interface →
        layer ∈ (WfpFilterMode.ofPolicy policy).layers ∧ ∃ route ∈ routes, InRoute address route) ∧
      (∀ others, (∀ route ∈ others, Accepted route) →
        (∀ block, Protects routes block ↔ Protects others block) →
        buildFilterPlanForLuid policy others tunnelLuid = .ok plan) ∧
      ∀ (existing : FilterSet) (desired : List PlannedWfpFilter),
        (∀ planned ∈ desired, planned ∈ plan.filters) →
        ∃ after, (buildReconciliationPlan (existing.filters.map FwpmFilter.identity)
            desired).applyTo existing.filters = .ok after ∧
          (∀ filter, filter.Owned →
            (filter ∈ after ↔ ∃ planned ∈ desired, addPlannedFilter planned = .ok filter)) ∧
          after.filter (fun filter => ¬ filter.Owned) =
            existing.filters.filter fun filter => ¬ filter.Owned := by
  obtain ⟨t, ht⟩ := canonical_of_accepted hroutes
  obtain ⟨plan, hp, -⟩ := buildFilterPlanForLuid_eq policy tunnelLuid ht
  have hpla := mem_plan_iff hkeys hp
  have ha := plan_installs hkeys hp
  obtain ⟨installed, hn⟩ := mapM_ok_of_forall fun planned hm => (ha planned hm).imp fun _ h => h.1
  have hlui : tunnelLuid.filter (· ≠ 0) ≠ some 0 :=
    filter_ne_zero_eq_some_iff.mpr (eq_or_ne tunnelLuid (some 0))
  refine ⟨plan, installed, hp, hn, ?_, ?_, ?_, ?_⟩
  · intro layer hl address interface
    rw [classify_installed_iff hpla hlui hn hl, exists_inRoute_iff, filter_ne_zero_eq_some_iff]
  · intro filter hf layer address interface hma
    obtain ⟨hl, hr, -⟩ := matches_installed hpla hlui hn hf hma
    exact ⟨hl, exists_inRoute_iff.mpr hr⟩
  · intro others ho hs
    exact buildFilterPlanForLuid_congr hkeys hp ho hs
  · intro existing desired hd
    apply reconcile_spec existing _ fun planned hm => ha planned (hd planned hm)
    intro planned hm o hot hk
    have hi := hkeys t ht
    exact hi (((mem_plannedFilters_iff ht _).trans (hpla _).symm).mpr
      (hd planned hm)) (((mem_plannedFilters_iff ht _).trans (hpla _).symm).mpr (hd o hot)) hk

/-- A route with host bits under the strict policy, and a tunnel of LUID 42. -/
theorem plan_blocks_route_with_host_bits :
    ∃ plan installed, buildFilterPlanForLuid .strict ["10.1.2.3/8"] (some 42) = .ok plan ∧
      plan.filters.mapM addPlannedFilter = .ok installed ∧
      (∀ interface, classify installed .outboundIpPacketV4 0x0a010203#32 interface = some .block ↔
        interface ≠ 42) ∧
      buildFilterPlanForLuid .strict ["10.0.0.0/8", "10.9.9.9/8"] (some 42) = .ok plan := by
  have hb : ∀ route ∈ ["10.1.2.3/8", "10.0.0.0/8", "10.9.9.9/8"],
      routeBlock route = .ok (.of 0x0a000000#32 8) := by decide +kernel
  have ht : ["10.1.2.3/8"].mapM canonicalV4Cidr = .ok ["10.0.0.0/8"] := by decide +kernel
  have ha : ∀ route ∈ ["10.1.2.3/8", "10.0.0.0/8", "10.9.9.9/8"], Accepted route := by
    intro route hr
    obtain ⟨c, hp, -⟩ := bind_eq_ok_iff.mp (hb route hr)
    exact ⟨c, hp⟩
  have hke : KeysDistinct .strict ["10.1.2.3/8"] (some 42) := by
    intro t h
    cases ht.symm.trans h
    exact inj_on_of_nodup_map (by decide +kernel)
  obtain ⟨plan, installed, hl, hi, hbl, -, hs, -⟩ :=
    plan_blocks_routes .strict ["10.1.2.3/8"] (some 42) (by simp [ha]) hke
  refine ⟨plan, installed, hl, hi, fun interface => ?_, hs _ (by simp [ha]) ?_⟩
  · rw [hbl _ (by decide)]
    have hn : InRoute 0x0a010203#32 "10.1.2.3/8" := ⟨_, hb _ (by simp), by decide⟩
    simp [hn, eq_comm]
  · simp [Protects, hb]

end QuantumLink.Windows
