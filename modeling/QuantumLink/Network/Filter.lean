import QuantumLink.Foundation.Chain
import QuantumLink.Network.Plan

/-! # What the plan's firewall rules do to a packet

A table of family `inet` sees IPv4 and IPv6 packets alike, but every rule of the plan matches on an
IPv4 destination. In the modes that protect the overlay this is what is meant. In a full tunnel it
leaves every IPv6 packet to the accepting policy of the chain.
-/

namespace QuantumLink.Network

open NftablesPlan NftablesOperation LinuxRuntimePlan List

inductive Address where
  | v4 (address : BitVec 32)
  | v6 (address : BitVec 128)

/-- What the rules look at in an outgoing packet. -/
structure Packet where
  destination : Address
  mark : UInt32
  outputInterface : String
  /-- Source and destination port, if it is a datagram. -/
  udpPorts : Option (UInt16 × UInt16)
  /-- The cgroup of the sending socket, from the root down. -/
  cgroups : List String

/-- The addresses that a CIDR in a rule stands for. -/
def readCidr (cidr : String) : Option (AddressBlock 32) := do
  let (address, length) ← splitOnce '/' cidr.toList
  let address ← readIpv4Addr address
  let length ← (readUInt8 length).toOption
  if length ≤ 32 then some (.of address length) else none

/-- `ip daddr`: an IPv4 packet to an address of the CIDR. -/
def destinedTo (cidr : String) (packet : Packet) : Bool :=
  match packet.destination, readCidr cidr with
  | .v4 address, some block => decide (block.Contains address)
  | _, _ => false

def hasUdpPort (port : UInt16) (direction : UdpPortDirection) (packet : Packet) : Bool :=
  match packet.udpPorts, direction with
  | some (source, _), .source => source == port
  | some (_, destination), .destination => destination == port
  | none, _ => false

def setMark (mark : UInt32) (packet : Packet) : Packet := { packet with mark := mark }

/-- The chain an operation adds a rule to, and the rule. -/
def NftablesOperation.rule : NftablesOperation → Option (String × FilterRule Packet)
  | .bypassDestination _ _ chain cidr =>
    some (chain, ⟨destinedTo cidr, .leave⟩)
  | .markTraffic _ _ chain cidr mark =>
    some (chain, ⟨destinedTo cidr, .rewrite (setMark mark)⟩)
  | .markUdpPortTraffic _ _ chain cidr port direction mark =>
    some (chain, ⟨fun packet => destinedTo cidr packet && hasUdpPort port direction packet,
      .rewrite (setMark mark)⟩)
  | .markCgroupUdpPortTraffic _ _ chain cidr cgroupPath cgroupLevel port direction mark _ =>
    some (chain, ⟨fun packet => destinedTo cidr packet &&
        packet.cgroups[cgroupLevel.toNat]? == some cgroupPath && hasUdpPort port direction packet,
      .rewrite (setMark mark)⟩)
  | .dropUnmarkedTraffic _ _ chain cidr mark =>
    some (chain, ⟨fun packet => destinedTo cidr packet && packet.mark != mark, .drop⟩)
  | .dropOutsideInterface _ _ chain cidr interface =>
    some (chain, ⟨fun packet => destinedTo cidr packet && packet.outputInterface != interface, .drop⟩)
  | .addTable _ _ | .addChain _ _ _ _ _ _ _ | .deleteTable _ _ => none

def rulesOf (chain : String) (operations : List NftablesOperation) : List (FilterRule Packet) :=
  operations.filterMap fun operation =>
    operation.rule.bind fun (target, rule) => if target = chain then some rule else none

def policyOf (chain : String) (operations : List NftablesOperation) : Verdict :=
  let drops : NftablesOperation → Bool
    | .addChain _ _ name _ _ _ policy => name == chain && policy == "drop"
    | _ => false
  if operations.any drops then .drop else .accept

def NftablesPlan.verdict (plan : NftablesPlan) (chain : String) (packet : Packet) :
    Verdict × Packet :=
  evaluate (policyOf chain plan.operations) (rulesOf chain plan.operations) packet

/-! ## The chains of the two plans -/

section
variable {chain interfaceName protectedCidr : String} {underlayExemptions : List String}
  {front back : List NftablesOperation}

def leaveRule (cidr : String) : FilterRule Packet := ⟨destinedTo cidr, .leave⟩

theorem rulesOf_append : rulesOf chain (front ++ back) = rulesOf chain front ++ rulesOf chain back :=
  filterMap_append

theorem rulesOf_tableAndChains : rulesOf chain tableAndChains = [] := rfl

theorem rulesOf_bypasses (chain o : String) (underlayExemptions : List String) :
    rulesOf chain (bypasses o underlayExemptions) =
      if o = chain then underlayExemptions.map leaveRule else [] := by
  simp only [rulesOf, bypasses, filterMap_map, Function.comp_def, rule]
  by_cases h : o = chain
  · simp [h, leaveRule]
  · simp [h]

theorem route_ne_filter : nftRouteOutputChain ≠ nftFilterOutputChain := by decide

/-- The packet goes to an address that is kept out of the tunnel. -/
def Exempt (underlayExemptions : List String) (packet : Packet) : Prop :=
  ∃ cidr ∈ underlayExemptions, destinedTo cidr packet = true

instance (underlayExemptions : List String) (packet : Packet) :
    Decidable (Exempt underlayExemptions packet) :=
  inferInstanceAs (Decidable (∃ cidr ∈ underlayExemptions, destinedTo cidr packet = true))

/-- The exemptions come first: an exempt packet leaves the chain, any other goes on. -/
theorem evaluate_exemptions (ru : List (FilterRule Packet)) (packet : Packet) :
    evaluate .accept (underlayExemptions.map leaveRule ++ ru) packet =
      if Exempt underlayExemptions packet then (.accept, packet)
      else evaluate .accept ru packet := by
  split
  case isTrue he =>
    obtain ⟨c, hc, hd⟩ := he
    apply evaluate_append_of_leave
    · intro r hr
      obtain ⟨o, -, rfl⟩ := mem_map.mp hr
      rfl
    · exact ⟨leaveRule c, mem_map_of_mem hc, hd⟩
  case isFalse he =>
    apply evaluate_append_of_not_applies
    intro r hr
    obtain ⟨c, hc, rfl⟩ := mem_map.mp hr
    exact Bool.eq_false_iff.mpr fun hd => he ⟨c, hc, hd⟩

/-- How both plans are built: the exemptions of each chain before the rules that the plan adds to
it, and both chains with an accepting policy. -/
structure Shape (plan : NftablesPlan) (underlayExemptions : List String)
    (marks drops : List NftablesOperation) : Prop where
  operations : plan.operations = tableAndChains ++
    bypasses nftRouteOutputChain underlayExemptions ++ marks ++
    bypasses nftFilterOutputChain underlayExemptions ++ drops
  marksRoute : rulesOf nftFilterOutputChain marks = []
  dropsFilter : rulesOf nftRouteOutputChain drops = []
  onlyRules : ∀ operation ∈ marks ++ drops, operation.rule ≠ none

variable {plan : NftablesPlan} {marks drops : List NftablesOperation}

section

variable (h : Shape plan underlayExemptions marks drops)
include h

theorem Shape.policyOf_eq (chain : String) : policyOf chain plan.operations = .accept := by
  unfold policyOf
  rw [if_neg]
  rw [Bool.not_eq_true, any_eq_false, h.operations]
  intro o ho
  simp only [mem_append, bypasses, mem_map] at ho
  rcases ho with (((hc | ⟨c, -, rfl⟩) | hm) | ⟨c, -, rfl⟩) | hd
  · simp only [tableAndChains, mem_cons, not_mem_nil, or_false] at hc
    rcases hc with rfl | rfl | rfl <;> simp
  · simp
  · have hr := h.onlyRules o (by simp [hm])
    cases o <;> simp_all [rule]
  · simp
  · have hr := h.onlyRules o (by simp [hd])
    cases o <;> simp_all [rule]

theorem Shape.route_verdict (packet : Packet) : plan.verdict nftRouteOutputChain packet =
      if Exempt underlayExemptions packet then (.accept, packet)
      else evaluate .accept (rulesOf nftRouteOutputChain marks) packet := by
  rw [verdict, h.policyOf_eq, h.operations]
  simp [rulesOf_append, rulesOf_tableAndChains, rulesOf_bypasses, route_ne_filter.symm, h.dropsFilter, evaluate_exemptions]

theorem Shape.filter_verdict (packet : Packet) : plan.verdict nftFilterOutputChain packet =
      if Exempt underlayExemptions packet then (.accept, packet)
      else evaluate .accept (rulesOf nftFilterOutputChain drops) packet := by
  rw [verdict, h.policyOf_eq, h.operations]
  simp [rulesOf_append, rulesOf_tableAndChains, rulesOf_bypasses, route_ne_filter, h.marksRoute, evaluate_exemptions]
end

theorem failClosed_shape (interfaceName protectedCidr : String) (underlayExemptions : List String) :
    Shape (.failClosedWithExemptions interfaceName protectedCidr underlayExemptions)
      underlayExemptions
      [.markTraffic nftFamily nftTable nftRouteOutputChain protectedCidr qlinkFwmark]
      [.dropOutsideInterface nftFamily nftTable nftFilterOutputChain protectedCidr
        interfaceName] where
  operations := rfl
  marksRoute := rfl
  dropsFilter := rfl
  onlyRules := by simp [rule]

theorem gameOnly_shape (interfaceName protectedCidr : String) (underlayExemptions : List String) :
    Shape (.gameOnlyFailClosed interfaceName protectedCidr underlayExemptions) underlayExemptions []
      [.dropUnmarkedTraffic nftFamily nftTable nftFilterOutputChain protectedCidr qlinkFwmark,
        .dropOutsideInterface nftFamily nftTable nftFilterOutputChain protectedCidr
          interfaceName] where
  operations := by
    simp [gameOnlyFailClosed, fromOperations]
  marksRoute := rfl
  dropsFilter := rfl
  onlyRules := by simp [rule]

variable (packet : Packet)

/-- In the mode of protected prefixes and in a full tunnel, the filter chain drops what is not exempt
and would leave for a protected address through another interface. -/
theorem failClosed_filter_verdict :
    (failClosedWithExemptions interfaceName protectedCidr underlayExemptions).verdict
        nftFilterOutputChain packet =
      (if ¬ Exempt underlayExemptions packet ∧ destinedTo protectedCidr packet = true ∧
          packet.outputInterface ≠ interfaceName then .drop else .accept, packet) := by
  rw [(failClosed_shape interfaceName protectedCidr underlayExemptions).filter_verdict]
  by_cases he : Exempt underlayExemptions packet <;>
    by_cases hd : destinedTo protectedCidr packet = true <;>
    by_cases hi : packet.outputInterface = interfaceName <;>
    simp [rulesOf, rule, evaluate, he, hd, hi]

theorem failClosed_route_verdict :
    (failClosedWithExemptions interfaceName protectedCidr underlayExemptions).verdict
        nftRouteOutputChain packet =
      (.accept, if ¬ Exempt underlayExemptions packet ∧ destinedTo protectedCidr packet = true then
          setMark qlinkFwmark packet else packet) := by
  rw [(failClosed_shape interfaceName protectedCidr underlayExemptions).route_verdict]
  by_cases he : Exempt underlayExemptions packet <;>
    by_cases hd : destinedTo protectedCidr packet = true <;>
    simp [rulesOf, rule, evaluate, he, hd]

theorem gameOnly_filter_verdict :
    (gameOnlyFailClosed interfaceName protectedCidr underlayExemptions).verdict
        nftFilterOutputChain packet =
      (if ¬ Exempt underlayExemptions packet ∧ destinedTo protectedCidr packet = true ∧
          (packet.mark ≠ qlinkFwmark ∨ packet.outputInterface ≠ interfaceName) then .drop
        else .accept, packet) := by
  rw [(gameOnly_shape interfaceName protectedCidr underlayExemptions).filter_verdict]
  by_cases he : Exempt underlayExemptions packet <;>
    by_cases hd : destinedTo protectedCidr packet = true <;>
    by_cases hm : packet.mark = qlinkFwmark <;>
    by_cases hi : packet.outputInterface = interfaceName <;>
    simp [rulesOf, rule, evaluate, he, hd, hm, hi]

theorem gameOnly_route_verdict :
    (gameOnlyFailClosed interfaceName protectedCidr underlayExemptions).verdict
        nftRouteOutputChain packet = (.accept, packet) := by
  rw [(gameOnly_shape interfaceName protectedCidr underlayExemptions).route_verdict]
  by_cases he : Exempt underlayExemptions packet
  · rw [if_pos he]
  · rw [if_neg he]
    rfl

end

/-! ## Overlay and exemptions of a valid configuration -/

/-- The packet is an IPv4 packet to an address of the overlay. -/
def InOverlay (config : DaemonConfig) (packet : Packet) : Prop :=
  ∃ overlay address, validateOverlayCidr config.overlayCidr = .ok overlay ∧
    packet.destination = .v4 address ∧ overlay.Contains address

section

variable {invalid : String → ConfigValidationError} {network : OverlayNetwork}
  (h : parseNetwork invalid shape value = .ok network)
include h

theorem readCidr_of_parseNetwork :
    readCidr value = some (.of network.address network.prefixLen) := by
  simp only [parseNetwork, bind_eq_ok_iff, ensure_eq_ok_iff, exists_const] at h
  obtain ⟨⟨address, l⟩, hp, -, networkAddress, ha, prefixLen, hb, ⟨-, hs⟩, -, hn⟩ := h
  cases hn
  have hs' : splitOnce '/' value.toList = some (address, l) := okOr_eq_ok_iff.mp hp
  have ha' : readIpv4Addr address = some networkAddress := okOr_eq_ok_iff.mp ha
  have hb' : readUInt8 l = .ok prefixLen := mapError_eq_ok_iff.mp hb
  simp [readCidr, hs', ha', hb', hs, Except.toOption]

theorem destinedTo_iff (packet : Packet) : destinedTo value packet = true ↔
      ∃ address, packet.destination = .v4 address ∧ network.Contains address := by
  have hc (address : BitVec 32) :
      (AddressBlock.of network.address network.prefixLen).Contains address ↔
        network.Contains address := by
    have hm := (parseNetwork_canonical h).masked
    show _ = network.address &&& network.mask ↔ _
    rw [hm]
    rfl
  rw [destinedTo, readCidr_of_parseNetwork h]
  cases packet.destination with
  | v4 address => simp [hc]
  | v6 address => simp
end

section
variable {socketAddrs : SocketAddrs} {config : DaemonConfig} {packet : Packet}

theorem validate_networks (h : config.validate socketAddrs = .ok ()) :
    ∃ overlay, validateOverlayCidr config.overlayCidr = .ok overlay ∧
      ∀ value ∈ config.underlayExemptions, ∃ position network,
        parseUnderlayExemption value position = .ok network ∧ ¬ network.Overlaps overlay := by
  simp only [DaemonConfig.validate, DaemonConfig.validateOverlay, bind_eq_ok_iff] at h
  obtain ⟨overlay, ⟨_, -, p, hp, _, -, _, -, hu⟩, _, he, -⟩ := h
  obtain rfl : p = overlay := Except.ok.inj hu
  exact ⟨p, hp, validateUnderlayExemptionsFrom_eq_ok he⟩

theorem destinedTo_overlay_iff (h : config.validate socketAddrs = .ok ()) :
    destinedTo config.overlayCidr packet = true ↔ InOverlay config packet := by
  obtain ⟨overlay, ho, -⟩ := validate_networks h
  rw [destinedTo_iff ho]
  constructor
  · rintro ⟨a, hd, hc⟩
    exact ⟨overlay, a, ho, hd, hc⟩
  · rintro ⟨o, a, ht, hd, hc⟩
    cases ht.symm.trans ho
    exact ⟨a, hd, hc⟩

/-- No exemption has an address of the overlay, whatever the lengths of the two. -/
theorem not_exempt_of_inOverlay (h : config.validate socketAddrs = .ok ())
    (hov : InOverlay config packet) : ¬ Exempt config.underlayExemptions packet := by
  rintro ⟨v, hv, hde⟩
  obtain ⟨overlay, hp, he⟩ := validate_networks h
  obtain ⟨p, n, hn, ho⟩ := he v hv
  obtain ⟨address, hd, hx⟩ := (destinedTo_iff hn packet).mp hde
  obtain ⟨o, address', ht, hd', hc⟩ := hov
  cases ht.symm.trans hp
  obtain rfl : address' = address := Address.v4.inj (hd'.symm.trans hd)
  let exempted := (parseNetwork_canonical hn).block
  let protectedBlock := (parseNetwork_canonical hp).block
  have hi : ¬ exempted.Overlaps protectedBlock := ho
  exact AddressBlock.not_contains_of_not_overlaps hi hc hx

end

/-! ## The modes that protect the overlay -/

/-- **The overlay fails closed.** For a configuration that passes, in either mode that protects the
overlay, there is a plan for every list of game ports, and: a packet to the overlay that the filter
chain does not drop leaves through the tunnel's interface, and in the game mode it carries the mark;
a packet to anywhere else is neither dropped nor changed by any chain of the plan. -/
theorem overlay_fails_closed (socketAddrs : SocketAddrs) (config : DaemonConfig)
    (gameUdpPorts : List UInt16) (hvalid : config.validate socketAddrs = .ok ())
    (hmode : config.routeMode ≠ .fullTunnel) (hports : 0 ∉ gameUdpPorts) :
    ∃ plan, fromConfigWithGameUdpPorts socketAddrs config gameUdpPorts = .ok plan ∧
      ∀ packet, (InOverlay config packet →
          plan.nftables.verdict nftFilterOutputChain packet = (.drop, packet) ∨
          plan.nftables.verdict nftFilterOutputChain packet = (.accept, packet) ∧
            packet.outputInterface = config.interfaceName ∧
            (config.routeMode = .gameOnly → packet.mark = qlinkFwmark)) ∧
        (¬ InOverlay config packet → ∀ chain ∈ [nftRouteOutputChain, nftFilterOutputChain],
          plan.nftables.verdict chain packet = (.accept, packet)) := by
  obtain ⟨plan, hl⟩ := fromConfigWithGameUdpPorts_eq_ok_iff.mpr
    ⟨hvalid, fun h => hmode h.1, hports⟩
  refine ⟨plan, hl, fun packet => ?_⟩
  have hd : destinedTo config.overlayCidr packet = true ↔ InOverlay config packet :=
    destinedTo_overlay_iff hvalid
  have he : InOverlay config packet → ¬ Exempt config.underlayExemptions packet :=
    not_exempt_of_inOverlay hvalid
  rw [(for_of_fromConfig hl).1.nftables, nftablesFor]
  cases hr : config.routeMode with
  | fullTunnel => exact absurd hr hmode
  | gameOnly =>
    have hci : protectedCidrForRouteMode config = config.overlayCidr := by
      rw [protectedCidrForRouteMode, hr]
    rw [if_pos rfl, hci]
    constructor
    · intro hn
      rw [gameOnly_filter_verdict]
      by_cases hdr : packet.mark ≠ qlinkFwmark ∨ packet.outputInterface ≠ config.interfaceName
      · rw [if_pos ⟨he hn, hd.mpr hn, hdr⟩]
        exact Or.inl rfl
      · rw [if_neg fun h => hdr h.2.2]
        rw [not_or, not_not, not_not] at hdr
        exact Or.inr ⟨rfl, hdr.2, fun _ => hdr.1⟩
    · intro ho chain hc
      have hp : ¬ destinedTo config.overlayCidr packet = true := fun h => ho (hd.mp h)
      rcases mem_pair.mp hc with rfl | rfl
      · exact gameOnly_route_verdict packet
      · rw [gameOnly_filter_verdict, if_neg fun h => hp h.2.1]
  | protectedPrefixesOnly =>
    have hci : protectedCidrForRouteMode config = config.overlayCidr := by
      rw [protectedCidrForRouteMode, hr]
    rw [if_neg (by decide), hci]
    constructor
    · intro hn
      rw [failClosed_filter_verdict]
      by_cases hi : packet.outputInterface = config.interfaceName
      · rw [if_neg fun h => h.2.2 hi]
        exact Or.inr ⟨rfl, hi, fun hmode => absurd hmode (by decide)⟩
      · rw [if_pos ⟨he hn, hd.mpr hn, hi⟩]
        exact Or.inl rfl
    · intro ho chain hc
      have hp : ¬ destinedTo config.overlayCidr packet = true := fun h => ho (hd.mp h)
      rcases mem_pair.mp hc with rfl | rfl
      · rw [failClosed_route_verdict, if_neg fun h => hp h.2]
      · rw [failClosed_filter_verdict, if_neg fun h => hp h.2.1]

theorem default_fails_closed :
    DaemonConfig.default.validate (fun _ => none) = .ok () ∧
    ∃ plan, fromConfigWithGameUdpPorts (fun _ => none) .default [27015] = .ok plan ∧
      ∀ packet,
        (InOverlay .default packet →
          plan.nftables.verdict nftFilterOutputChain packet = (.drop, packet) ∨
          plan.nftables.verdict nftFilterOutputChain packet = (.accept, packet) ∧
            packet.outputInterface = "qlink0" ∧
            (DaemonConfig.default.routeMode = .gameOnly → packet.mark = qlinkFwmark)) ∧
        (¬ InOverlay .default packet → ∀ chain ∈ [nftRouteOutputChain, nftFilterOutputChain],
          plan.nftables.verdict chain packet = (.accept, packet)) :=
  ⟨default_validate,
    overlay_fails_closed (fun _ => none) .default [27015] default_validate (by decide) (by decide)⟩

/-! ## Full tunnel -/

/-- The destination lies in an underlay exemption of the configuration. -/
def InExemption (config : DaemonConfig) (packet : Packet) : Prop :=
  ∃ value ∈ config.underlayExemptions, ∃ position network address,
    parseUnderlayExemption value position = .ok network ∧ packet.destination = .v4 address ∧
      network.Contains address

def Packet.IsIpv4 (packet : Packet) : Prop := ∃ address, packet.destination = .v4 address

theorem exempt_iff_inExemption {config : DaemonConfig} (h : config.validate socketAddrs = .ok ()) :
    Exempt config.underlayExemptions packet ↔ InExemption config packet := by
  obtain ⟨o, -, he⟩ := validate_networks h
  constructor
  · rintro ⟨v, hv, hde⟩
    obtain ⟨p, n, hn, -⟩ := he v hv
    obtain ⟨a, hd, hc⟩ := (destinedTo_iff hn packet).mp hde
    exact ⟨v, hv, p, n, a, hn, hd, hc⟩
  · rintro ⟨v, hv, p, n, a, hn, hd, hc⟩
    exact ⟨v, hv, (destinedTo_iff hn packet).mpr ⟨a, hd, hc⟩⟩

theorem destinedTo_fullTunnelCidr (packet : Packet) :
    destinedTo fullTunnelCidr packet = true ↔ packet.IsIpv4 := by
  have hr : readCidr fullTunnelCidr = some (.of 0 0) := by decide +kernel
  rw [destinedTo, hr, Packet.IsIpv4]
  cases packet.destination with
  | v4 address =>
    have ha : (AddressBlock.of (0 : BitVec 32) 0).Contains address :=
      AddressBlock.contains_of_length_zero rfl address
    simpa using ha
  | v6 address => simp

/-- **A full tunnel holds IPv4 only.** For a configuration of a full tunnel that has a plan, a
packet to no exemption is dropped by the filter chain or leaves through the tunnel's interface
exactly if it is an IPv4 packet or happens to leave through that interface anyway. -/
theorem full_tunnel_holds_iff (socketAddrs : SocketAddrs) (config : DaemonConfig)
    (gameUdpPorts : List UInt16) (plan : LinuxRuntimePlan)
    (hplan : fromConfigWithGameUdpPorts socketAddrs config gameUdpPorts = .ok plan)
    (hmode : config.routeMode = .fullTunnel) (packet : Packet)
    (hexemption : ¬ InExemption config packet) :
    (plan.nftables.verdict nftFilterOutputChain packet).1 = .drop ∨
        packet.outputInterface = config.interfaceName ↔
      packet.IsIpv4 ∨ packet.outputInterface = config.interfaceName := by
  obtain ⟨hf, hv⟩ := for_of_fromConfig hplan
  have he : ¬ Exempt config.underlayExemptions packet :=
    fun h => hexemption ((exempt_iff_inExemption hv).mp h)
  have hc : protectedCidrForRouteMode config = fullTunnelCidr := by
    rw [protectedCidrForRouteMode, hmode]
  rw [hf.nftables, nftablesFor, hmode, if_neg (by decide), hc, failClosed_filter_verdict]
  by_cases hi : packet.outputInterface = config.interfaceName
  · simp [hi]
  · simp [hi, he, destinedTo_fullTunnelCidr]

def tunnelConfig : DaemonConfig :=
  { DaemonConfig.default with routeMode := .fullTunnel, underlayExemptions := ["203.0.113.0/24"] }

def packetTo (destination : Address) : Packet := ⟨destination, 0, "wlan0", none, []⟩

theorem tunnelConfig_validate : tunnelConfig.validate (fun _ => none) = .ok () := by decide +kernel

theorem tunnelConfig_plan : ∃ plan, fromConfig (fun _ => none) tunnelConfig = .ok plan :=
  fromConfigWithGameUdpPorts_eq_ok_iff.mpr
    ⟨tunnelConfig_validate, by decide, by simp⟩

theorem ipv4_held : ∃ plan, fromConfig (fun _ => none) tunnelConfig = .ok plan ∧
      ¬ InExemption tunnelConfig (packetTo (.v4 0x08080808)) ∧
      ((plan.nftables.verdict nftFilterOutputChain (packetTo (.v4 0x08080808))).1 = .drop ∨
        (packetTo (.v4 0x08080808)).outputInterface = tunnelConfig.interfaceName) := by
  obtain ⟨plan, hp⟩ := tunnelConfig_plan
  have hx : ¬ Exempt tunnelConfig.underlayExemptions (packetTo (.v4 0x08080808)) := by
    decide +kernel
  have he : ¬ InExemption tunnelConfig (packetTo (.v4 0x08080808)) :=
    fun h => hx ((exempt_iff_inExemption tunnelConfig_validate).mpr h)
  exact ⟨plan, hp, he, (full_tunnel_holds_iff (fun _ => none) tunnelConfig [] plan hp
    rfl _ he).mpr (Or.inl ⟨_, rfl⟩)⟩

/-- Every IPv6 packet passes the rules of the full tunnel and leaves through another interface. -/
theorem ipv6_leaves : ∃ plan, fromConfig (fun _ => none) tunnelConfig = .ok plan ∧
      ∀ address, ¬ InExemption tunnelConfig (packetTo (.v6 address)) ∧
        plan.nftables.verdict nftFilterOutputChain (packetTo (.v6 address)) =
          (.accept, packetTo (.v6 address)) ∧
        (packetTo (.v6 address)).outputInterface ≠ tunnelConfig.interfaceName := by
  obtain ⟨plan, hp⟩ := tunnelConfig_plan
  refine ⟨plan, hp, fun address => ⟨?_, ?_, (by decide : "wlan0" ≠ "qlink0")⟩⟩
  · rintro ⟨v, -, p, n, o, -, hd, -⟩
    exact absurd hd (by simp [packetTo])
  · have hn : destinedTo (protectedCidrForRouteMode tunnelConfig) (packetTo (.v6 address)) = false :=
      rfl
    rw [(for_of_fromConfig hp).1.nftables, nftablesFor,
      if_neg (by decide), failClosed_filter_verdict, hn, if_neg (by simp)]

end QuantumLink.Network
