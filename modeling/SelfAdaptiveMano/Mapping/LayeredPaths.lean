import SelfAdaptiveMano.Mapping.MultiLayerGraph

/-!
# What a path through the layers says

A path from the ingress in the first layer to the egress in the last one is a
placement of the chain: it goes on to the next layer once for each VNF, at a
switch that can host it, and stays on links and switches that can carry the
traffic once more for each VNF that was passed.
-/

namespace SelfAdaptiveMano.Mapping

open Library LayeredWalk P4NFUsage

/-! ## Paths through the layers -/

def steps (path : List LayerNode) : List (LayerNode × LayerNode) :=
  path.zip path.tail

theorem steps_cons_cons (u v : LayerNode) (segPath : List LayerNode) :
    steps (u :: v :: segPath) = (u, v) :: steps (v :: segPath) := rfl

def StepsOn (u v : LayerNode) : Prop := v.1 = u.1 ∨ v = (u.1 + 1, u.2)

theorem layered_stepsOn : Layered StepsOn := by
  rintro u v (hlayer | rfl)
  · exact Or.inl hlayer
  · exact Or.inr rfl

/-- The path goes from the layer `s` through the layers after it, `m` of them. -/
structure Through (path : List LayerNode) (s first m last : Nat) : Prop where
  steps : path.IsChain StepsOn
  head : path.head? = some (s, first)
  last : path.getLast? = some (s + m, last)

section Through

variable {path : List LayerNode} {s first m last : Nat}

theorem Through.head?_layer (h : Through path s first m last) :
    (layer path s).head? = some (s, first) := by
  obtain ⟨rest, rfl⟩ := List.head?_eq_some_iff.mp h.head
  exact LayeredWalk.head?_layer

theorem Through.getLast?_layer (h : Through path s first m last) :
    (layer path (s + m)).getLast? = some (s + m, last) :=
  LayeredWalk.getLast?_layer h.last

/-- The path goes on from each layer but the last, at one node. -/
theorem Through.crosses (h : Through path s first m last) {i : Nat} (hi : i < m) :
    ∃ k host, path[k]? = some (s + i, host) ∧
      path[k + 1]? = some (s + i + 1, host) ∧
      (layer path (s + i)).getLast? = some (s + i, host) ∧
      (layer path (s + i + 1)).head? = some (s + i + 1, host) := by
  obtain ⟨rest, rfl⟩ := List.head?_eq_some_iff.mp h.head
  obtain ⟨k, ⟨u, v, hu, hv, hlayer, hlayer'⟩, -⟩ :=
    existsUnique_crossesAt layered_stepsOn h.steps h.last (Nat.le_add_right s i)
      (Nat.add_lt_add_left hi s)
  have hnode : v = (u.1 + 1, u.2) := by
    obtain hsame | hnode := edge_of_getElem? h.steps hu hv
    · omega
    · exact hnode
  have hlayers := layers_of_crossesAt layered_stepsOn h.steps hu hv (by omega)
  obtain ⟨layer', host⟩ := u
  obtain rfl : layer' = s + i := hlayer
  subst hnode
  exact ⟨k, host, hu, hv, hlayers.1, hlayers.2⟩

end Through

/-! ## Placements -/

namespace MultiLayerGraph

variable (g : MultiLayerGraph)

/-- An active switch that is not given up and has TCAM left for the stage. -/
structure SwitchCarries (stage switchID : Nat) : Prop where
  hasRoom : ∃ info, g.dib.switchInfo g.zoneName switchID = .ok info ∧
    info.active = true ∧
    getExpectedTCAM stage < info.switch.tcamSize -
      g.dib.getSwitchReservedResource g.zoneName switchID
  notAbandoned : ∃ nodes, g.abandonNodeIDList = some nodes ∧ switchID ∉ nodes

/-- An active link between such switches that is not given up and has bandwidth
left for the stage. -/
structure Carries (stage src dst : Nat) : Prop where
  source : g.SwitchCarries stage src
  target : g.SwitchCarries stage dst
  hasRoom : ∃ links info bandwidth, g.dib.links.get? g.zoneName = some links ∧
    info ∈ links.values ∧ info.active = true ∧ info.link.srcID = src ∧
    info.link.dstID = dst ∧ g.getExpectedBandwidth stage = .ok bandwidth ∧
    bandwidth < info.link.bandwidth -
      g.dib.getLinkReservedResource g.zoneName src dst
  notServers : g.dib.isServerID src = false ∧ g.dib.isServerID dst = false
  notAbandoned : ∃ links, g.abandonLinkIDList = some links ∧ (src, dst) ∉ links

/-- The switch supports the VNF of the layer, in itself or in a server, by the
device that is preferred. -/
def Supports (layer : Nat) (switch : Switch) : Prop :=
  ∃ vnfType, g.sfc.vNFTypeSequence[layer]? = some vnfType ∧
    if g.enablePreferredDeviceSelection then
      ∃ vnf, g.sfc.vnfSequence[layer]? = some vnf ∧
        (vnf.preferredDeviceType = .p4 ∧ vnfType ∈ switch.supportNF ∨
          vnf.preferredDeviceType = .server ∧ vnfType ∈ switch.supportVNF)
    else vnfType ∈ switch.supportVNF

/-- The switch has TCAM entries left for the kind of the VNF. The rate limiters are
compared with the bound for monitors, and each kind of rules of a firewall with the
bound for all entries. -/
def SwitchHasRoom (usage : P4NFUsage) (vnf : VNF) : Prop :=
  if vnf.vnfType = VNF_TYPE_FW then
    ∃ aclTable, vnf.config = some aclTable ∧
      usage.fwV4NumUsage + aclTable.ipv4RulesNum ≤ SWITCH_MAX_NF_FW_IPV4_ENTRIES ∧
      usage.sfciUsage + aclTable.ipv4RulesNum ≤ SWITCH_MAX_SFCI ∧
      usage.fwV6NumUsage + aclTable.longRulesNum ≤ SWITCH_MAX_NF_FW_IPV6_ENTRIES ∧
      usage.sfciUsage + aclTable.longRulesNum ≤ SWITCH_MAX_SFCI
  else if vnf.vnfType = VNF_TYPE_MONITOR then
    usage.monitorNumUsage + 1 ≤ SWITCH_MAX_NF_MONITOR ∧
      usage.sfciUsage + 1 ≤ SWITCH_MAX_SFCI
  else if vnf.vnfType = VNF_TYPE_RATELIMITER then
    usage.rateLimiterNumUsage + 1 ≤ SWITCH_MAX_NF_MONITOR ∧
      usage.sfciUsage + 1 ≤ SWITCH_MAX_SFCI
  else
    usage.sfciUsage + 1 ≤ SWITCH_MAX_SFCI

/-- An active NFVI at the switch that is not given up. -/
def RunsAt (switch : Switch) (info : ServerInfo) : Prop :=
  DCNInfoBase.isServerConnectSwitch switch info.server = true ∧
    info.server.serverType = .nfvi ∧ info.active = true ∧
    info.server.serverID ∉ g.abandonNodeIDList.getD []

instance (switch : Switch) : DecidablePred (g.RunsAt switch) :=
  fun _ => inferInstanceAs (Decidable (_ ∧ _))

structure ServersHaveRoom (servers : List Server) (expected : Resources) : Prop where
  cores : expected.cores < (servers.map fun server => server.maxCores).sum -
    (servers.map fun server =>
      (g.dib.getServerReservedResources g.zoneName server.serverID).cores).sum
  memory : expected.memory < (servers.map fun server => server.maxMemory).sum -
    (servers.map fun server =>
      (g.dib.getServerReservedResources g.zoneName server.serverID).memory).sum
  bandwidth : expected.bandwidth <
    (servers.map fun server => server.nicBandwidth).sum -
      (servers.map fun server =>
        (g.dib.getServerReservedResources g.zoneName server.serverID).bandwidth).sum

/-- The switch, or the servers at it, have resources left for the VNF. -/
def HasRoom (layer switchID : Nat) : Prop :=
  ∃ vnf info, g.sfc.vnfSequence[layer]? = some vnf ∧
    g.dib.switchInfo g.zoneName switchID = .ok info ∧
    if g.enablePreferredDeviceSelection = true ∧ vnf.preferredDeviceType = .p4 then
      SwitchHasRoom info.switch.p4NFUsage vnf
    else
      ∃ expected servers, g.getExpectedServerResource layer = .ok expected ∧
        g.dib.servers.get? g.zoneName = some servers ∧
        g.ServersHaveRoom ((servers.values.filter fun server =>
          g.RunsAt info.switch server).map ServerInfo.server) expected

/-- An active switch that supports the VNF of the layer and has room for it. -/
structure Hosts (layer switchID : Nat) : Prop where
  supports : ∃ switches info, g.dib.switches.get? g.zoneName = some switches ∧
    info ∈ switches.values ∧ info.active = true ∧
    info.switch.switchID = switchID ∧ g.Supports layer info.switch
  hasRoom : g.HasRoom layer switchID

/-- The path goes on from each layer once, at a host of its VNF, and stays on
links that carry the traffic. -/
structure Placement (path : List LayerNode) : Prop where
  crossesOnce : ∀ layer < g.sfc.getSFCLength, ∃! k, CrossesAt path layer k
  steps : ∀ k u v, path[k]? = some u → path[k + 1]? = some v →
    (v.1 = u.1 ∧ g.Carries u.1 u.2 v.2) ∨
      (v = (u.1 + 1, u.2) ∧ u.1 < g.sfc.getSFCLength ∧ g.Hosts u.1 u.2)

/-! ## The edges of one layer -/

variable {g}

theorem isAbandonLink_eq_ok_false_iff {link : Link} :
    g.isAbandonLink link = .ok false ↔
      ∃ links nodes, g.abandonLinkIDList = some links ∧
        g.abandonNodeIDList = some nodes ∧ (link.srcID, link.dstID) ∉ links ∧
        link.srcID ∉ nodes ∧ link.dstID ∉ nodes := by
  rw [isAbandonLink]
  cases hlinks : g.abandonLinkIDList with
  | none => simp [inList, bind, Except.bind]
  | some links =>
      by_cases hlink : (link.srcID, link.dstID) ∈ links
      · simp [inList, bind, Except.bind, hlink, pure, Except.pure]
      · cases hnodes : g.abandonNodeIDList with
        | none => simp [inList, bind, Except.bind, hlink]
        | some nodes =>
            by_cases hsrc : link.srcID ∈ nodes <;>
              simp [inList, bind, Except.bind, hlink, hsrc, pure, Except.pure]

theorem hasEnoughSwitchResource_eq_ok_true_iff {dib : DCNInfoBase}
    {zoneName : Zone} {switchID : Nat} {expectedTCAM : Int} :
    dib.hasEnoughSwitchResource zoneName switchID expectedTCAM = .ok true ↔
      ∃ info, dib.switchInfo zoneName switchID = .ok info ∧
        expectedTCAM < info.switch.tcamSize -
          dib.getSwitchReservedResource zoneName switchID := by
  rw [DCNInfoBase.hasEnoughSwitchResource, except_bind_eq_ok_iff]
  simp [pure, Except.pure]

theorem isSwitchActive_eq_ok_true_iff {dib : DCNInfoBase} {zoneName : Zone}
    {switchID : Nat} :
    dib.isSwitchActive zoneName switchID = .ok true ↔
      ∃ info, dib.switchInfo zoneName switchID = .ok info ∧
        info.active = true := by
  rw [DCNInfoBase.isSwitchActive, except_bind_eq_ok_iff]
  simp [pure, Except.pure]

theorem hasEnoughResource_eq_ok_true_iff {link : Link} {expectedBandwidth : ℚ}
    {expectedTCAM : Int} :
    g.hasEnoughResource link expectedBandwidth expectedTCAM = .ok true ↔
      g.dib.hasEnoughLinkResource g.zoneName link expectedBandwidth = true ∧
        g.dib.hasEnoughSwitchResource g.zoneName link.srcID expectedTCAM =
          .ok true ∧
        g.dib.hasEnoughSwitchResource g.zoneName link.dstID expectedTCAM =
          .ok true := by
  rw [hasEnoughResource]
  cases g.dib.hasEnoughLinkResource g.zoneName link expectedBandwidth with
  | false => simp [pure, Except.pure]
  | true =>
      cases g.dib.hasEnoughSwitchResource g.zoneName link.srcID expectedTCAM with
      | error e => simp [bind, Except.bind]
      | ok enough =>
          cases enough <;> simp [bind, Except.bind, pure, Except.pure]

/-- A turn that adds an edge passed each of the tests, that of the resources if
they count. -/
theorem of_layerEdge {stage : Nat} {capacityAwareFlag : Bool}
    {expectedBandwidth : ℚ} {expectedTCAM : Int} {info : LinkInfo} {edge : Edge}
    (h : g.layerEdge stage capacityAwareFlag expectedBandwidth expectedTCAM info =
      .ok (some edge)) :
    edge.src = (stage, info.link.srcID) ∧ edge.dst = (stage, info.link.dstID) ∧
      g.dib.isServerID info.link.srcID = false ∧
      g.dib.isServerID info.link.dstID = false ∧
      g.dib.isSwitchActive g.zoneName info.link.srcID = .ok true ∧
      g.dib.isSwitchActive g.zoneName info.link.dstID = .ok true ∧
      (capacityAwareFlag = true → g.hasEnoughResource info.link
        expectedBandwidth expectedTCAM = .ok true) ∧
      g.isAbandonLink info.link = .ok false := by
  simp only [layerEdge] at h
  split at h
  · cases h
  next hserver =>
    obtain ⟨hsrc, hdst⟩ : g.dib.isServerID info.link.srcID = false ∧
        g.dib.isServerID info.link.dstID = false := by simpa using hserver
    obtain ⟨srcActive, hsrcActive, h⟩ := except_bind_eq_ok_iff.mp h
    cases srcActive with
    | false => cases h
    | true =>
        obtain ⟨dstActive, hdstActive, h⟩ := except_bind_eq_ok_iff.mp h
        cases dstActive with
        | false => cases h
        | true =>
            obtain ⟨weight, -, h⟩ := except_bind_eq_ok_iff.mp h
            obtain ⟨enough, henough, h⟩ := except_bind_eq_ok_iff.mp h
            have hcapacity : capacityAwareFlag = true → enough = true := by
              intro hflag
              cases enough with
              | false =>
                  rw [hflag] at h
                  cases h
              | true => rfl
            split at h
            next =>
              obtain ⟨isAbandon, hisAbandon, h⟩ := except_bind_eq_ok_iff.mp h
              cases isAbandon with
              | true => cases h
              | false =>
                  obtain rfl := Option.some.inj (Except.ok.inj h)
                  exact ⟨rfl, rfl, hsrc, hdst, hsrcActive, hdstActive,
                    fun hflag => hcapacity hflag ▸ henough, hisAbandon⟩
            next => cases h

theorem SwitchCarries.of_tests {stage switchID : Nat} {nodes : List Nat}
    (hactive : g.dib.isSwitchActive g.zoneName switchID = .ok true)
    (henough : g.dib.hasEnoughSwitchResource g.zoneName switchID
      (getExpectedTCAM stage) = .ok true)
    (hnodes : g.abandonNodeIDList = some nodes) (hnode : switchID ∉ nodes) :
    g.SwitchCarries stage switchID := by
  obtain ⟨info, hinfo, hactive⟩ := isSwitchActive_eq_ok_true_iff.mp hactive
  obtain ⟨info', hinfo', hroom⟩ :=
    hasEnoughSwitchResource_eq_ok_true_iff.mp henough
  obtain rfl := Except.ok.inj (hinfo.symm.trans hinfo')
  exact ⟨⟨info, hinfo, hactive, hroom⟩, nodes, hnodes, hnode⟩

theorem of_getLinksByZone {links : List LinkInfo} {info : LinkInfo}
    (h : g.dib.getLinksByZone g.zoneName true = .ok links)
    (hinfo : info ∈ links) :
    ∃ all, g.dib.links.get? g.zoneName = some all ∧ info ∈ all.values ∧
      info.active = true := by
  rw [DCNInfoBase.getLinksByZone] at h
  split at h
  · cases h
  next all hall =>
    obtain rfl := Except.ok.inj h
    obtain ⟨hmem, hactive⟩ := List.mem_filter.mp hinfo
    exact ⟨all, hall, hmem, by simpa using hactive⟩

theorem exists_turn_of_mem_genOneLayer {stage : Nat} {capacityAwareFlag : Bool}
    {edges : List Edge} {edge : Edge}
    (h : g.genOneLayer stage capacityAwareFlag = .ok edges)
    (hedge : edge ∈ edges) :
    ∃ bandwidth all info, g.getExpectedBandwidth stage = .ok bandwidth ∧
      g.dib.links.get? g.zoneName = some all ∧ info ∈ all.values ∧
      info.active = true ∧ g.layerEdge stage capacityAwareFlag bandwidth
        (getExpectedTCAM stage) info = .ok (some edge) := by
  obtain ⟨bandwidth, hbandwidth, h⟩ := except_bind_eq_ok_iff.mp h
  obtain ⟨links, hlinks, h⟩ := except_bind_eq_ok_iff.mp h
  obtain ⟨edgeList, hedgeList, h⟩ := except_bind_eq_ok_iff.mp h
  have hedges : edgeList = edges := by
    split at h
    · cases h
    · exact Except.ok.inj h
  obtain ⟨info, hinfo, hturn⟩ := (mem_of_collect hedgeList).mp (hedges ▸ hedge)
  obtain ⟨all, hall, hmem, hactive⟩ := of_getLinksByZone hlinks hinfo
  exact ⟨bandwidth, all, info, hbandwidth, hall, hmem, hactive, hturn⟩

theorem carries_of_mem_genOneLayer {stage : Nat} {edges : List Edge} {edge : Edge}
    (h : g.genOneLayer stage true = .ok edges) (hedge : edge ∈ edges) :
    edge.src.1 = stage ∧ edge.dst.1 = stage ∧
      g.Carries stage edge.src.2 edge.dst.2 := by
  obtain ⟨bandwidth, all, info, hbandwidth, hall, hmem, hactive, hturn⟩ :=
    exists_turn_of_mem_genOneLayer h hedge
  obtain ⟨hsrc, hdst, hsrcServer, hdstServer, hsrcActive, hdstActive, henough,
    hkept⟩ := of_layerEdge hturn
  obtain ⟨hlink, hsrcTCAM, hdstTCAM⟩ :=
    hasEnoughResource_eq_ok_true_iff.mp (henough rfl)
  obtain ⟨abandoned, nodes, habandoned, hnodes, hpair, hsrcNode, hdstNode⟩ :=
    isAbandonLink_eq_ok_false_iff.mp hkept
  rw [hsrc, hdst]
  exact ⟨rfl, rfl,
    { source := .of_tests hsrcActive hsrcTCAM hnodes hsrcNode
      target := .of_tests hdstActive hdstTCAM hnodes hdstNode
      hasRoom := ⟨all, info, bandwidth, hall, hmem, hactive, rfl, rfl,
        hbandwidth, of_decide_eq_true hlink⟩
      notServers := ⟨hsrcServer, hdstServer⟩
      notAbandoned := ⟨abandoned, habandoned, hpair⟩ }⟩

/-- An active link between switches that are not given up. -/
structure Linked (g : MultiLayerGraph) (src dst : Nat) : Prop where
  isLink : ∃ links info, g.dib.links.get? g.zoneName = some links ∧
    info ∈ links.values ∧ info.active = true ∧ info.link.srcID = src ∧
    info.link.dstID = dst
  notServers : g.dib.isServerID src = false ∧ g.dib.isServerID dst = false
  notAbandoned : ∃ nodes, g.abandonNodeIDList = some nodes ∧ src ∉ nodes ∧
    dst ∉ nodes

/-- Also without it, an edge is a link between such switches. -/
theorem linked_of_mem_genOneLayer {stage : Nat} {capacityAwareFlag : Bool}
    {edges : List Edge} {edge : Edge}
    (h : g.genOneLayer stage capacityAwareFlag = .ok edges)
    (hedge : edge ∈ edges) :
    edge.src.1 = stage ∧ edge.dst.1 = stage ∧
      g.Linked edge.src.2 edge.dst.2 := by
  obtain ⟨bandwidth, all, info, -, hall, hmem, hactive, hturn⟩ :=
    exists_turn_of_mem_genOneLayer h hedge
  obtain ⟨hsrc, hdst, hsrcServer, hdstServer, -, -, -, hkept⟩ := of_layerEdge hturn
  obtain ⟨-, nodes, -, hnodes, -, hsrcNode, hdstNode⟩ :=
    isAbandonLink_eq_ok_false_iff.mp hkept
  rw [hsrc, hdst]
  exact ⟨rfl, rfl,
    { isLink := ⟨all, info, hall, hmem, hactive, rfl, rfl⟩
      notServers := ⟨hsrcServer, hdstServer⟩
      notAbandoned := ⟨nodes, hnodes, hsrcNode, hdstNode⟩ }⟩

theorem ne_nil_of_genOneLayer {stage : Nat} {capacityAwareFlag : Bool}
    {edges : List Edge} (h : g.genOneLayer stage capacityAwareFlag = .ok edges) :
    edges ≠ [] := by
  obtain ⟨bandwidth, -, h⟩ := except_bind_eq_ok_iff.mp h
  obtain ⟨links, -, h⟩ := except_bind_eq_ok_iff.mp h
  obtain ⟨edgeList, -, h⟩ := except_bind_eq_ok_iff.mp h
  split at h
  · cases h
  next hne => exact Except.ok.inj h ▸ hne

/-! ## The edges between the layers -/

theorem of_getSwitchesByZone {switches : List SwitchInfo} {info : SwitchInfo}
    (h : g.dib.getSwitchesByZone g.zoneName true = .ok switches)
    (hinfo : info ∈ switches) :
    ∃ all, g.dib.switches.get? g.zoneName = some all ∧ info ∈ all.values ∧
      info.active = true := by
  rw [DCNInfoBase.getSwitchesByZone] at h
  split at h
  · cases h
  next all hall =>
    obtain rfl := Except.ok.inj h
    obtain ⟨hmem, hactive⟩ := List.mem_filter.mp hinfo
    exact ⟨all, hall, hmem, by simpa using hactive⟩

theorem getPreferredDeviceTypeOfIdxVNF_eq_ok_iff {idx : Nat}
    {deviceType : DeviceType} :
    g.getPreferredDeviceTypeOfIdxVNF idx = .ok deviceType ↔
      ∃ vnf, g.sfc.vnfSequence[idx]? = some vnf ∧
        vnf.preferredDeviceType = deviceType := by
  rw [getPreferredDeviceTypeOfIdxVNF, except_bind_eq_ok_iff]
  simp [pure, Except.pure, itemAt_eq_ok_iff]

theorem supports_of_mem_getSupportNFAndVNFSwitchesOfLayer {layer : Nat}
    {switches : List Switch} {switch : Switch}
    (h : g.getSupportNFAndVNFSwitchesOfLayer layer = .ok switches)
    (hswitch : switch ∈ switches) :
    ∃ all info, g.dib.switches.get? g.zoneName = some all ∧
      info ∈ all.values ∧ info.active = true ∧ info.switch = switch ∧
      g.Supports layer switch := by
  obtain ⟨vnfType, hvnfType, h⟩ := except_bind_eq_ok_iff.mp h
  obtain ⟨infos, hinfos, h⟩ := except_bind_eq_ok_iff.mp h
  obtain ⟨info, hinfo, hturn⟩ := (mem_of_collect h).mp hswitch
  obtain ⟨all, hall, hmem, hactive⟩ := of_getSwitchesByZone hinfos hinfo
  have hvnfType := itemAt_eq_ok_iff.mp hvnfType
  suffices hsupports : info.switch = switch ∧ g.Supports layer info.switch from
    ⟨all, info, hall, hmem, hactive, hsupports.1, hsupports.1 ▸ hsupports.2⟩
  split at hturn
  next hmode =>
    obtain ⟨deviceType, hdeviceType, hturn⟩ := except_bind_eq_ok_iff.mp hturn
    obtain ⟨vnf, hvnf, hpreferred⟩ :=
      getPreferredDeviceTypeOfIdxVNF_eq_ok_iff.mp hdeviceType
    cases deviceType with
    | p4 =>
        obtain ⟨hsupport, hsame⟩ :=
          Option.ite_none_right_eq_some.mp (Except.ok.inj hturn)
        refine ⟨Option.some.inj hsame, vnfType, hvnfType, ?_⟩
        rw [if_pos hmode]
        exact ⟨vnf, hvnf, Or.inl ⟨hpreferred, hsupport⟩⟩
    | server =>
        obtain ⟨hsupport, hsame⟩ :=
          Option.ite_none_right_eq_some.mp (Except.ok.inj hturn)
        refine ⟨Option.some.inj hsame, vnfType, hvnfType, ?_⟩
        rw [if_pos hmode]
        exact ⟨vnf, hvnf, Or.inr ⟨hpreferred, hsupport⟩⟩
    | other => cases hturn
  next hmode =>
    obtain ⟨hsupport, hsame⟩ :=
      Option.ite_none_right_eq_some.mp (Except.ok.inj hturn)
    refine ⟨Option.some.inj hsame, vnfType, hvnfType, ?_⟩
    rw [if_neg hmode]
    exact hsupport

theorem switchHasRoom_of_hasEnoughP4SwitchResources {dib : DCNInfoBase}
    {zoneName : Zone} {switchID : Nat} {vnf : VNF}
    (h : dib.hasEnoughP4SwitchResources zoneName switchID vnf = .ok true) :
    ∃ info, dib.switchInfo zoneName switchID = .ok info ∧
      SwitchHasRoom info.switch.p4NFUsage vnf := by
  obtain ⟨info, hinfo, h⟩ := except_bind_eq_ok_iff.mp h
  refine ⟨info, hinfo, ?_⟩
  rw [SwitchHasRoom]
  split at h
  next hfw =>
    rw [if_pos hfw]
    cases hconfig : vnf.config with
    | none =>
        rw [hconfig] at h
        cases h
    | some aclTable =>
        rw [hconfig] at h
        obtain ⟨hv4, hv6⟩ := (Bool.and_eq_true _ _).mp (Except.ok.inj h)
        obtain ⟨hv4, hv4SFCI⟩ := of_decide_eq_true hv4
        obtain ⟨hv6, hv6SFCI⟩ := of_decide_eq_true hv6
        exact ⟨aclTable, rfl, hv4, hv4SFCI, hv6, hv6SFCI⟩
  next hfw =>
    rw [if_neg hfw]
    split at h
    next hmonitor =>
      rw [if_pos hmonitor]
      exact of_decide_eq_true (Except.ok.inj h)
    next hmonitor =>
      rw [if_neg hmonitor]
      split at h
      next hrateLimiter =>
        rw [if_pos hrateLimiter]
        exact of_decide_eq_true (Except.ok.inj h)
      next hrateLimiter =>
        rw [if_neg hrateLimiter]
        exact of_decide_eq_true (Except.ok.inj h)

theorem foldl_add {α : Type} (f : α → Resources) (l : List α) (start : Resources) :
    l.foldl (fun sum a => sum.add (f a)) start =
      ⟨start.cores + (l.map fun a => (f a).cores).sum,
        start.memory + (l.map fun a => (f a).memory).sum,
        start.bandwidth + (l.map fun a => (f a).bandwidth).sum⟩ := by
  induction l generalizing start with
  | nil => simp
  | cons a l ih =>
      rw [List.foldl_cons, ih]
      simp [Resources.add, add_assoc]

theorem of_getConnectedNFVIs {switchID : Nat} {connected : List Server}
    (h : g.dib.getConnectedNFVIs g.zoneName switchID (g.abandonNodeIDList.getD [])
      true = .ok connected) :
    ∃ servers info, g.dib.servers.get? g.zoneName = some servers ∧
      g.dib.switchInfo g.zoneName switchID = .ok info ∧
      connected = (servers.values.filter fun server =>
        g.RunsAt info.switch server).map ServerInfo.server := by
  obtain ⟨all, hall, h⟩ := except_bind_eq_ok_iff.mp h
  obtain ⟨info, hinfo, h⟩ := except_bind_eq_ok_iff.mp h
  rw [DCNInfoBase.getServersByZone] at hall
  split at hall
  · cases hall
  next servers hservers =>
    obtain rfl := Except.ok.inj hall
    refine ⟨servers, info, hservers, hinfo, ?_⟩
    rw [← Except.ok.inj h]
    congr 2
    funext server
    rw [Bool.eq_iff_iff, decide_eq_true_iff]
    simp [RunsAt, and_assoc, and_comm, and_left_comm]

theorem serversHaveRoom_of_hasEnoughNPoPServersResources {switchID : Nat}
    {expected : Resources}
    (h : g.dib.hasEnoughNPoPServersResources g.zoneName switchID expected
      (g.abandonNodeIDList.getD []) = .ok true) :
    ∃ servers info, g.dib.servers.get? g.zoneName = some servers ∧
      g.dib.switchInfo g.zoneName switchID = .ok info ∧
      g.ServersHaveRoom ((servers.values.filter fun server =>
        g.RunsAt info.switch server).map ServerInfo.server) expected := by
  obtain ⟨connected, hconnected, h⟩ := except_bind_eq_ok_iff.mp h
  obtain ⟨servers, info, hservers, hinfo, rfl⟩ := of_getConnectedNFVIs hconnected
  refine ⟨servers, info, hservers, hinfo, ?_⟩
  have hroom := of_decide_eq_true (Except.ok.inj h)
  rw [DCNInfoBase.getServersResourcesCapacity, DCNInfoBase.getServersReservedResources,
    foldl_add, foldl_add] at hroom
  simp only [Resources.sub, Resources.zero, zero_add] at hroom
  exact ⟨hroom.1, hroom.2.1, hroom.2.2⟩

theorem hasRoom_of_hasEnoughResourceOfLayer {layer nodeID : Nat}
    (h : g.hasEnoughResourceOfLayer layer nodeID = .ok true) :
    g.HasRoom layer nodeID := by
  obtain ⟨deviceType, hdeviceType, h⟩ := except_bind_eq_ok_iff.mp h
  obtain ⟨vnf, hvnf, rfl⟩ :=
    getPreferredDeviceTypeOfIdxVNF_eq_ok_iff.mp hdeviceType
  split at h
  next hp4 =>
    obtain ⟨vnf', hvnf', h⟩ := except_bind_eq_ok_iff.mp h
    obtain rfl := Option.some.inj
      (hvnf.symm.trans (itemAt_eq_ok_iff.mp hvnf'))
    obtain ⟨info, hinfo, hroom⟩ := switchHasRoom_of_hasEnoughP4SwitchResources h
    refine ⟨vnf, info, hvnf, hinfo, ?_⟩
    rw [if_pos (by simpa using hp4)]
    exact hroom
  next hp4 =>
    split at h
    · obtain ⟨expected, hexpected, h⟩ := except_bind_eq_ok_iff.mp h
      obtain ⟨servers, info, hservers, hinfo, hroom⟩ :=
        serversHaveRoom_of_hasEnoughNPoPServersResources h
      refine ⟨vnf, info, hvnf, hinfo, ?_⟩
      rw [if_neg (by simpa using hp4)]
      exact ⟨expected, servers, hexpected, hservers, hroom⟩
    · cases h

theorem of_connectEdge {layer1Num layer2Num : Nat} {switch : Switch} {edge : Edge}
    (h : g.connectEdge layer1Num layer2Num switch = .ok (some edge)) :
    edge.src = (layer1Num, switch.switchID) ∧
      edge.dst = (layer2Num, switch.switchID) ∧
      g.HasRoom layer1Num switch.switchID := by
  obtain ⟨hasEnough, hhasEnough, h⟩ := except_bind_eq_ok_iff.mp h
  cases hasEnough with
  | false => cases h
  | true =>
      obtain ⟨weight, -, h⟩ := except_bind_eq_ok_iff.mp h
      obtain rfl := Option.some.inj (Except.ok.inj h)
      exact ⟨rfl, rfl, hasRoom_of_hasEnoughResourceOfLayer hhasEnough⟩

theorem hosts_of_mem_connectLayer {layer1Num layer2Num : Nat} {edges : List Edge}
    {edge : Edge} (h : g.connectLayer layer1Num layer2Num = .ok edges)
    (hedge : edge ∈ edges) :
    edge.src.1 = layer1Num ∧ edge.dst = (layer2Num, edge.src.2) ∧
      g.Hosts layer1Num edge.src.2 := by
  obtain ⟨switches, hswitches, h⟩ := except_bind_eq_ok_iff.mp h
  obtain ⟨switch, hswitch, hturn⟩ := (mem_of_collect h).mp hedge
  obtain ⟨hsrc, hdst, hroom⟩ := of_connectEdge hturn
  obtain ⟨all, info, hall, hmem, hactive, rfl, hsupports⟩ :=
    supports_of_mem_getSupportNFAndVNFSwitchesOfLayer hswitches hswitch
  rw [hsrc, hdst]
  exact ⟨rfl, rfl, ⟨all, info, hall, hmem, hactive, rfl, hsupports⟩, hroom⟩

/-! ## The whole graph -/

def HasEdge (edges : List Edge) (u v : LayerNode) : Prop :=
  ∃ edge ∈ edges, edge.src = u ∧ edge.dst = v

instance (edges : List Edge) (u v : LayerNode) : Decidable (HasEdge edges u v) :=
  inferInstanceAs (Decidable (∃ edge ∈ edges, edge.src = u ∧ edge.dst = v))

theorem exists_of_hasEdge {capacityAwareFlag : Bool} {edges : List Edge}
    {u v : LayerNode} (h : g.trans2MLG capacityAwareFlag = .ok edges)
    (hedge : HasEdge edges u v) :
    ∃ edge : Edge, edge.src = u ∧ edge.dst = v ∧
      ((∃ stage layer, g.genOneLayer stage capacityAwareFlag = .ok layer ∧
          edge ∈ layer) ∨
        ∃ stage < g.sfc.getSFCLength, ∃ connections,
          g.connectLayer stage (stage + 1) = .ok connections ∧
            edge ∈ connections) := by
  obtain ⟨edge, hmem, hsrc, hdst⟩ := hedge
  refine ⟨edge, hsrc, hdst, ?_⟩
  obtain ⟨layers, hlayers, h⟩ := except_bind_eq_ok_iff.mp h
  obtain ⟨connections, hconnections, h⟩ := except_bind_eq_ok_iff.mp h
  obtain rfl := Except.ok.inj h
  obtain hmem | hmem := List.mem_append.mp hmem
  · obtain ⟨layer, hlayer, hmem⟩ := List.mem_flatten.mp hmem
    obtain ⟨stage, -, hstage⟩ := exists_of_mem_mapM hlayers hlayer
    exact Or.inl ⟨stage, layer, hstage, hmem⟩
  · obtain ⟨connection, hconnection, hmem⟩ := List.mem_flatten.mp hmem
    obtain ⟨stage, hlength, hstage⟩ := exists_of_mem_mapM hconnections hconnection
    exact Or.inr ⟨stage, List.mem_range.mp hlength, connection, hstage, hmem⟩

theorem of_hasEdge {edges : List Edge} {u v : LayerNode}
    (h : g.trans2MLG true = .ok edges) (hedge : HasEdge edges u v) :
    (v.1 = u.1 ∧ g.Carries u.1 u.2 v.2) ∨
      (v = (u.1 + 1, u.2) ∧ u.1 < g.sfc.getSFCLength ∧ g.Hosts u.1 u.2) := by
  obtain ⟨edge, rfl, rfl, ⟨stage, layer, hstage, hmem⟩ |
    ⟨stage, hlength, connections, hstage, hmem⟩⟩ := exists_of_hasEdge h hedge
  · obtain ⟨hsrc, hdst, hcarries⟩ := carries_of_mem_genOneLayer hstage hmem
    rw [hsrc, hdst]
    exact Or.inl ⟨rfl, hcarries⟩
  · obtain ⟨hsrc, hdst, hhosts⟩ := hosts_of_mem_connectLayer hstage hmem
    rw [hsrc, hdst]
    exact Or.inr ⟨rfl, hlength, hhosts⟩

/-- An edge is a link in its layer or leads to the next layer, at a host of the VNF,
whatever the capacities. -/
theorem linked_of_hasEdge {capacityAwareFlag : Bool} {edges : List Edge}
    {u v : LayerNode} (h : g.trans2MLG capacityAwareFlag = .ok edges)
    (hedge : HasEdge edges u v) :
    (v.1 = u.1 ∧ g.Linked u.2 v.2) ∨
      (v = (u.1 + 1, u.2) ∧ g.Hosts u.1 u.2) := by
  obtain ⟨edge, rfl, rfl, ⟨stage, layer, hstage, hmem⟩ |
    ⟨stage, hlength, connections, hstage, hmem⟩⟩ := exists_of_hasEdge h hedge
  · obtain ⟨hsrc, hdst, hlinked⟩ := linked_of_mem_genOneLayer hstage hmem
    rw [hsrc, hdst]
    exact Or.inl ⟨rfl, hlinked⟩
  · obtain ⟨hsrc, hdst, hhosts⟩ := hosts_of_mem_connectLayer hstage hmem
    rw [hsrc, hdst]
    exact Or.inr ⟨rfl, hhosts⟩

theorem layered_hasEdge {edges : List Edge}
    (h : g.trans2MLG true = .ok edges) : Layered (HasEdge edges) := by
  intro u v hedge
  obtain ⟨hlayer, -⟩ | ⟨rfl, -, -⟩ := of_hasEdge h hedge
  · exact Or.inl hlayer
  · exact Or.inr rfl

/-- A path from the ingress in the first layer to the egress in the last one is a
placement of the chain. -/
theorem placement_of_path {edges : List Edge} {path : List LayerNode}
    {ingress egress : Nat} (h : g.trans2MLG true = .ok edges)
    (hpath : path.IsChain (HasEdge edges))
    (hfirst : path.head? = some (0, ingress))
    (hlast : path.getLast? = some (g.sfc.getSFCLength, egress)) :
    g.Placement path := by
  obtain ⟨rest, rfl⟩ := List.head?_eq_some_iff.mp hfirst
  constructor
  · intro layer hlayer
    exact existsUnique_crossesAt (layered_hasEdge h) hpath hlast
      (Nat.zero_le layer) hlayer
  · intro k u v hu hv
    exact of_hasEdge h (edge_of_getElem? hpath hu hv)

theorem through_of_path {edges : List Edge} {path : List LayerNode}
    {ingress egress : Nat} (h : g.trans2MLG true = .ok edges)
    (hpath : path.IsChain (HasEdge edges))
    (hfirst : path.head? = some (0, ingress))
    (hlast : path.getLast? = some (g.sfc.getSFCLength, egress)) :
    Through path 0 ingress g.sfc.getSFCLength egress := by
  refine ⟨hpath.imp fun u v hedge => ?_, hfirst, ?_⟩
  · obtain ⟨hlayer, -⟩ | ⟨hnext, -, -⟩ := of_hasEdge h hedge
    · exact Or.inl hlayer
    · exact Or.inr hnext
  · rw [hlast, Nat.zero_add]

def twoSwitches : DCNInfoBase where
  servers := Dict.empty.set .simulator
    (Dict.empty.set 7 ⟨⟨7, .nfvi, 34, [3], 12, 64, 10⟩, true⟩)
  switches := Dict.empty.set .simulator
    ((Dict.empty.set 1 ⟨⟨1, ⟨0, 27⟩, 2000, [], [], ⟨0, 0, 0, 0, 0⟩⟩, true⟩).set 2
      ⟨⟨2, ⟨32, 27⟩, 2000, [], [3], ⟨0, 0, 0, 0, 0⟩⟩, true⟩)
  links := Dict.empty.set .simulator
    ((Dict.empty.set (1, 2) ⟨⟨1, 2, 10⟩, true⟩).set (2, 1) ⟨⟨2, 1, 10⟩, true⟩)
  serversReservedResources := .empty
  switchesReservedResources := .empty
  linksReservedResources := .empty

def oneVNF : MultiLayerGraph :=
  .load twoSwitches .simulator ⟨[3], [⟨3, none, .server⟩], 1, none⟩ false
    fun _ _ => .ok 1

theorem trans2MLG_oneVNF : oneVNF.trans2MLG true = .ok
    [⟨(0, 1), (0, 2), 1⟩, ⟨(0, 2), (0, 1), 1⟩, ⟨(1, 1), (1, 2), 1⟩,
      ⟨(1, 2), (1, 1), 1⟩, ⟨(0, 2), (1, 2), 1⟩] := by
  decide +kernel

theorem placement_of_path_oneVNF :
    oneVNF.Placement [(0, 1), (0, 2), (1, 2), (1, 1)] :=
  placement_of_path trans2MLG_oneVNF (by simp [HasEdge]) rfl rfl

end MultiLayerGraph

end SelfAdaptiveMano.Mapping
