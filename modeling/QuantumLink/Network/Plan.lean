import QuantumLink.Network.Config

/-! # The runtime plan of the SteamOS daemon

`LinuxRuntimePlan` of `qlink-linux`: what `qlinkd` does to the host for a configuration, as typed
operations on the network and on nftables, with the text of each. Operations that create an object
have a counterpart that removes it; what belongs to an object goes with it and has none.
-/

namespace QuantumLink.Network

def defaultMtu : UInt16 := 1280
def qlinkFwmark : UInt32 := 0x514c
def qlinkRouteTable : UInt32 := 51820
def nftFamily : String := "inet"
def nftTable : String := "qlink"
def nftOutputHook : String := "output"
def nftRouteOutputChain : String := "route_output"
def nftFilterOutputChain : String := "filter_output"
def fullTunnelCidr : String := "0.0.0.0/0"

inductive NetworkOperation where
  | createTun (name : String)
  | addAddress (interface address : String)
  | setLinkUp (interface : String) (mtu : UInt16)
  | addRule (fwmark table : UInt32)
  | addRoute (cidr interface : String) (table : UInt32)
  | removeRoute (cidr interface : String) (table : UInt32)
  | removeRule (fwmark table : UInt32)
  | deleteTun (name : String)

def formatMark (mark : UInt32) : String := "0x" ++ String.ofList (Nat.toDigits 16 mark.toNat)

def NetworkOperation.toCommand : NetworkOperation → String
  | .createTun name => "ip tuntap add dev " ++ name ++ " mode tun"
  | .addAddress interface address => "ip addr add " ++ address ++ " dev " ++ interface
  | .setLinkUp interface mtu =>
    "ip link set dev " ++ interface ++ " mtu " ++ toString mtu.toNat ++ " up"
  | .addRule fwmark table =>
    "ip rule add fwmark " ++ formatMark fwmark ++ " table " ++ toString table.toNat
  | .addRoute cidr interface table =>
    "ip route add " ++ cidr ++ " dev " ++ interface ++ " table " ++ toString table.toNat
  | .removeRoute cidr interface table =>
    "ip route del " ++ cidr ++ " dev " ++ interface ++ " table " ++ toString table.toNat
  | .removeRule fwmark table =>
    "ip rule del fwmark " ++ formatMark fwmark ++ " table " ++ toString table.toNat
  | .deleteTun name => "ip link delete dev " ++ name

/-- The operation that undoes another, where it creates an object. -/
def NetworkOperation.revertOperation : NetworkOperation → Option NetworkOperation
  | .addRoute cidr interface table => some (.removeRoute cidr interface table)
  | .addRule fwmark table => some (.removeRule fwmark table)
  | .createTun name => some (.deleteTun name)
  | _ => none

inductive UdpPortDirection where
  | source
  | destination
deriving DecidableEq

def UdpPortDirection.nftField : UdpPortDirection → String
  | .source => "sport"
  | .destination => "dport"

inductive NftablesOperation where
  | addTable (family table : String)
  | addChain (family table chain chainType hook : String) (priority : Int) (policy : String)
  | bypassDestination (family table chain cidr : String)
  | markTraffic (family table chain cidr : String) (mark : UInt32)
  | markUdpPortTraffic (family table chain cidr : String) (port : UInt16)
      (direction : UdpPortDirection) (mark : UInt32)
  | markCgroupUdpPortTraffic (family table chain cidr cgroupPath : String) (cgroupLevel : UInt32)
      (port : UInt16) (direction : UdpPortDirection) (mark : UInt32) (comment : String)
  | dropUnmarkedTraffic (family table chain cidr : String) (mark : UInt32)
  | dropOutsideInterface (family table chain cidr interface : String)
  | deleteTable (family table : String)
deriving DecidableEq

/-- How every rule text starts. -/
def addRuleText (family table chain cidr : String) : String :=
  "add rule " ++ family ++ " " ++ table ++ " " ++ chain ++ " ip daddr " ++ cidr

def NftablesOperation.toRule : NftablesOperation → String
  | .addTable family table => "add table " ++ family ++ " " ++ table
  | .addChain family table chain chainType hook priority policy =>
    "add chain " ++ family ++ " " ++ table ++ " " ++ chain ++ " \x7b type " ++ chainType ++
      " hook " ++ hook ++ " priority " ++ toString priority ++ "; policy " ++ policy ++ "; \x7d"
  | .bypassDestination family table chain cidr =>
    addRuleText family table chain cidr ++ " return"
  | .markTraffic family table chain cidr mark =>
    addRuleText family table chain cidr ++ " meta mark set " ++ formatMark mark
  | .markUdpPortTraffic family table chain cidr port direction mark =>
    addRuleText family table chain cidr ++ " udp " ++ direction.nftField ++ " " ++
      toString port.toNat ++ " meta mark set " ++ formatMark mark
  | .markCgroupUdpPortTraffic family table chain cidr cgroupPath cgroupLevel port direction mark
      comment =>
      addRuleText family table chain cidr ++ " socket cgroupv2 level " ++
        toString cgroupLevel.toNat ++ " \"" ++ cgroupPath ++ "\" udp " ++ direction.nftField ++ " " ++
        toString port.toNat ++ " meta mark set " ++ formatMark mark ++ " comment \"" ++ comment ++ "\""
  | .dropUnmarkedTraffic family table chain cidr mark =>
    addRuleText family table chain cidr ++ " meta mark != " ++ formatMark mark ++ " drop"
  | .dropOutsideInterface family table chain cidr interface =>
    addRuleText family table chain cidr ++ " oifname != \"" ++ interface ++ "\" drop"
  | .deleteTable family table => "delete table " ++ family ++ " " ++ table

def NftablesOperation.revertOperation : NftablesOperation → Option NftablesOperation
  | .addTable family table => some (.deleteTable family table)
  | _ => none

structure LinuxNetworkPlan where
  operations : List NetworkOperation
  commands : List String

namespace LinuxNetworkPlan

def fromOperations (operations : List NetworkOperation) : LinuxNetworkPlan :=
  ⟨operations, operations.map NetworkOperation.toCommand⟩

def forInterface (name overlayAddress protectedCidr : String) : LinuxNetworkPlan :=
  fromOperations [.createTun name, .addAddress name overlayAddress, .setLinkUp name defaultMtu,
    .addRule qlinkFwmark qlinkRouteTable, .addRoute protectedCidr name qlinkRouteTable]

def revertOperationsFor (operations : List NetworkOperation) : List NetworkOperation :=
  operations.reverse.filterMap NetworkOperation.revertOperation

end LinuxNetworkPlan

structure NftablesPlan where
  operations : List NftablesOperation
  rules : List String

namespace NftablesPlan

def fromOperations (operations : List NftablesOperation) : NftablesPlan :=
  ⟨operations, operations.map NftablesOperation.toRule⟩

/-- The table and its two chains, with which both plans begin. -/
def tableAndChains : List NftablesOperation :=
  [.addTable nftFamily nftTable,
    .addChain nftFamily nftTable nftRouteOutputChain "route" nftOutputHook 0 "accept",
    .addChain nftFamily nftTable nftFilterOutputChain "filter" nftOutputHook 0 "accept"]

def bypasses (chain : String) (underlayExemptions : List String) : List NftablesOperation :=
  underlayExemptions.map (.bypassDestination nftFamily nftTable chain)

def failClosedWithExemptions (interfaceName protectedCidr : String)
    (underlayExemptions : List String) : NftablesPlan :=
  fromOperations (tableAndChains ++ bypasses nftRouteOutputChain underlayExemptions ++
    [.markTraffic nftFamily nftTable nftRouteOutputChain protectedCidr qlinkFwmark] ++
    bypasses nftFilterOutputChain underlayExemptions ++
    [.dropOutsideInterface nftFamily nftTable nftFilterOutputChain protectedCidr interfaceName])

def gameOnlyFailClosed (interfaceName protectedCidr : String) (underlayExemptions : List String) :
    NftablesPlan :=
  fromOperations (tableAndChains ++ bypasses nftRouteOutputChain underlayExemptions ++
    bypasses nftFilterOutputChain underlayExemptions ++
    [.dropUnmarkedTraffic nftFamily nftTable nftFilterOutputChain protectedCidr qlinkFwmark,
      .dropOutsideInterface nftFamily nftTable nftFilterOutputChain protectedCidr interfaceName])

def revertOperationsFor (operations : List NftablesOperation) : List NftablesOperation :=
  operations.reverse.filterMap NftablesOperation.revertOperation

end NftablesPlan

structure LinuxRuntimePlan where
  network : LinuxNetworkPlan
  nftables : NftablesPlan
  protectedCidr : String
  gameUdpPorts : List UInt16

inductive NetworkPlanError where
  | invalidConfig (error : ConfigValidationError)
  | fullTunnelRequiresExplicitUnderlayExemptions
  | invalidGameUdpPort

def NetworkPlanError.text : NetworkPlanError → String
  | .invalidConfig error => "invalid daemon config: " ++ error.text
  | .fullTunnelRequiresExplicitUnderlayExemptions =>
    "full tunnel requires explicit underlay exemptions before activation"
  | .invalidGameUdpPort => "game UDP ports must be non-zero"

def protectedCidrForRouteMode (config : DaemonConfig) : String :=
  match config.routeMode with
  | .gameOnly | .protectedPrefixesOnly => config.overlayCidr
  | .fullTunnel => fullTunnelCidr

namespace LinuxRuntimePlan

def nftablesFor (config : DaemonConfig) : NftablesPlan :=
  if config.routeMode = .gameOnly then
    .gameOnlyFailClosed config.interfaceName (protectedCidrForRouteMode config)
      config.underlayExemptions
  else
    .failClosedWithExemptions config.interfaceName (protectedCidrForRouteMode config)
      config.underlayExemptions

def fromConfigWithGameUdpPorts (socketAddrs : SocketAddrs) (config : DaemonConfig)
    (gameUdpPorts : List UInt16) : Except NetworkPlanError LinuxRuntimePlan := do
  (config.validate socketAddrs).mapError .invalidConfig
  ensure (¬ (config.routeMode = .fullTunnel ∧ config.underlayExemptions = []))
    .fullTunnelRequiresExplicitUnderlayExemptions
  ensure (0 ∉ gameUdpPorts) .invalidGameUdpPort
  pure
    { network := .forInterface config.interfaceName (config.overlayIpv4Address ++ "/32")
        (protectedCidrForRouteMode config)
      nftables := nftablesFor config
      protectedCidr := protectedCidrForRouteMode config
      gameUdpPorts := (gameUdpPorts.mergeSort (fun a b => decide (a ≤ b))).destutter (· ≠ ·) }

def fromConfig (socketAddrs : SocketAddrs) (config : DaemonConfig) :
    Except NetworkPlanError LinuxRuntimePlan :=
  fromConfigWithGameUdpPorts socketAddrs config []

/-- A plan is made exactly for a configuration that passes, has exemptions if it is a full tunnel,
and names no port zero. -/
theorem fromConfigWithGameUdpPorts_eq_ok_iff {gameUdpPorts : List UInt16} :
    (∃ plan, fromConfigWithGameUdpPorts socketAddrs config gameUdpPorts = .ok plan) ↔
      config.validate socketAddrs = .ok () ∧
        ¬ (config.routeMode = .fullTunnel ∧ config.underlayExemptions = []) ∧
        0 ∉ gameUdpPorts := by
  simp only [fromConfigWithGameUdpPorts, bind_eq_ok_iff, mapError_eq_ok_iff,
    ensure_eq_ok_iff, exists_const]
  constructor
  · rintro ⟨plan, _, hv, ht, hp, -⟩
    exact ⟨hv, ht, hp⟩
  · rintro ⟨hv, ht, hp⟩
    exact ⟨_, (), hv, ht, hp, rfl⟩

structure For (plan : LinuxRuntimePlan) (config : DaemonConfig) : Prop where
  network : plan.network = .forInterface config.interfaceName (config.overlayIpv4Address ++ "/32")
    (protectedCidrForRouteMode config)
  nftables : plan.nftables = nftablesFor config
  protectedCidr : plan.protectedCidr = protectedCidrForRouteMode config

theorem for_of_fromConfig {g : List UInt16}
    (h : fromConfigWithGameUdpPorts socketAddrs config g = .ok plan) :
    plan.For config ∧ config.validate socketAddrs = .ok () := by
  simp only [fromConfigWithGameUdpPorts, bind_eq_ok_iff, mapError_eq_ok_iff,
    ensure_eq_ok_iff, exists_const] at h
  obtain ⟨_, hv, -, -, hp⟩ := h
  rw [← Except.ok.inj hp]
  exact ⟨⟨rfl, rfl, rfl⟩, hv⟩

end LinuxRuntimePlan

end QuantumLink.Network
