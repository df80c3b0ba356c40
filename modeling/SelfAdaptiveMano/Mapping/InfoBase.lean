import SelfAdaptiveMano.Base.Sfc
import SelfAdaptiveMano.Library.Dict
import SelfAdaptiveMano.Library.Python
import Mathlib.Data.Rat.Floor

/-!
# The information base of the mapping algorithms

A mapping algorithm looks for a path through the switches of a zone and for
servers along it. `DCNInfoBase` holds the servers, switches and links with their
capacities, and what is reserved of each. A resource that nothing was reserved of
has no entry, which reads as zero.

Bandwidth, cores and memory are exact numbers here.
-/

namespace SelfAdaptiveMano.Mapping

open Library

inductive ServerType where
  | classifier
  | normal
  | nfvi
  | tester
  deriving DecidableEq, Repr

structure Server where
  serverID : Nat
  serverType : ServerType
  datapathNICIP : Nat
  supportVNFSet : List Nat
  maxCores : ℚ
  maxMemory : ℚ
  nicBandwidth : ℚ
  deriving DecidableEq

/-- The net address of a switch, such as `2.2.0.32/27`. -/
structure LanNet where
  netIP : Nat
  prefixLength : Nat
  deriving DecidableEq, Repr

/-- What the network functions in a switch use of it. -/
structure P4NFUsage where
  monitorNumUsage : Nat
  fwV4NumUsage : Nat
  fwV6NumUsage : Nat
  rateLimiterNumUsage : Nat
  sfciUsage : Nat
  deriving DecidableEq, Repr

structure Switch where
  switchID : Nat
  lanNet : LanNet
  tcamSize : Int
  supportNF : List Nat
  supportVNF : List Nat
  p4NFUsage : P4NFUsage
  deriving DecidableEq

structure Link where
  srcID : Nat
  dstID : Nat
  bandwidth : ℚ
  deriving DecidableEq

inductive DeviceType where
  | p4
  | server
  | other
  deriving DecidableEq, Repr

/-- The numbers of rules in the configuration of a firewall. -/
structure ACLTable where
  ipv4RulesNum : Nat
  longRulesNum : Nat
  deriving DecidableEq, Repr

structure VNF where
  vnfType : Nat
  config : Option ACLTable
  preferredDeviceType : DeviceType
  deriving DecidableEq, Repr

structure ResourceQuota where
  cpu : ℚ
  mem : ℚ
  deriving DecidableEq

structure SFC where
  vNFTypeSequence : List Nat
  vnfSequence : List VNF
  throughput : ℚ
  vnfiResourceQuota : Option ResourceQuota
  deriving DecidableEq

namespace SFC

def getSFCLength (sfc : SFC) : Nat := sfc.vNFTypeSequence.length

def getSFCTrafficDemand (sfc : SFC) : ℚ := sfc.throughput

end SFC

/-- Cores, memory and bandwidth of a server, or of several. -/
structure Resources where
  cores : ℚ
  memory : ℚ
  bandwidth : ℚ
  deriving DecidableEq

namespace Resources

def zero : Resources := ⟨0, 0, 0⟩

def add (a b : Resources) : Resources :=
  ⟨a.cores + b.cores, a.memory + b.memory, a.bandwidth + b.bandwidth⟩

def sub (a b : Resources) : Resources :=
  ⟨a.cores - b.cores, a.memory - b.memory, a.bandwidth - b.bandwidth⟩

/-- No part exceeds that of the other. -/
def Within (a b : Resources) : Prop :=
  a.cores ≤ b.cores ∧ a.memory ≤ b.memory ∧ a.bandwidth ≤ b.bandwidth

instance (a b : Resources) : Decidable (a.Within b) :=
  inferInstanceAs (Decidable (_ ∧ _ ∧ _))

end Resources

/-! ## What VNFs need -/

namespace PerformanceModel

def VNF_TYPE_MAX : Nat := 15

def coresPer1GTraffic : List ℚ :=
  [1 / 40, 1 / 40, 1000 / 5846, 1000 / 302, 1000 / 612, 1000 / 5040, 1 / 10,
    1000 / 300, 1000 / 400, 10 / 11, 1 / 10, 10 / 11, 10 / 11, 1000 / 5846,
    1000 / 300, 10 / 11]

/-- `getResourceConsumeRatioOfVNF`: cores and memory for one Gbps. -/
def getResourceConsumeRatioOfVNF (vnfType : Nat) : Except PyError (ℚ × ℚ) :=
  match coresPer1GTraffic[vnfType]? with
  | some cores => .ok (cores, 1)
  | none => .error .keyError

def getExpectedServerResource (vnfType : Nat) (trafficDemand : ℚ) :
    Except PyError Resources := do
  let (cores, memory) ← getResourceConsumeRatioOfVNF vnfType
  return ⟨⌈cores * trafficDemand⌉, ⌈memory * trafficDemand⌉, trafficDemand⟩

def getVNFIExpectedThroughput (vnfType : Nat) (cpuCoresNum : ℚ) :
    Except PyError ℚ := do
  let (cores, _) ← getResourceConsumeRatioOfVNF vnfType
  return cpuCoresNum / cores

end PerformanceModel

/-! ## The information base -/

structure ServerInfo where
  server : Server
  active : Bool
  deriving DecidableEq

structure SwitchInfo where
  switch : Switch
  active : Bool
  deriving DecidableEq

structure LinkInfo where
  link : Link
  active : Bool
  deriving DecidableEq

structure DCNInfoBase where
  servers : Dict Zone (Dict Nat ServerInfo)
  switches : Dict Zone (Dict Nat SwitchInfo)
  links : Dict Zone (Dict (Nat × Nat) LinkInfo)
  serversReservedResources : Dict (Zone × Nat) Resources
  switchesReservedResources : Dict (Zone × Nat) Int
  linksReservedResources : Dict (Zone × (Nat × Nat)) ℚ

namespace DCNInfoBase

variable (dib : DCNInfoBase) (zoneName : Zone)

def serverInfo (serverID : Nat) : Except PyError ServerInfo :=
  match (dib.servers.get? zoneName).bind fun servers => servers.get? serverID with
  | some info => .ok info
  | none => .error .keyError

def switchInfo (switchID : Nat) : Except PyError SwitchInfo :=
  match (dib.switches.get? zoneName).bind fun switches =>
    switches.get? switchID with
  | some info => .ok info
  | none => .error .keyError

def linkInfo (srcID dstID : Nat) : Except PyError LinkInfo :=
  match (dib.links.get? zoneName).bind fun links =>
    links.get? (srcID, dstID) with
  | some info => .ok info
  | none => .error .keyError

def isServerID (nodeID : Nat) : Bool :=
  dib.servers.values.any fun servers => servers.contains nodeID

def isSwitchID (nodeID : Nat) : Bool :=
  dib.switches.values.any fun switches => switches.contains nodeID

def isSwitchActive (switchID : Nat) : Except PyError Bool := do
  return (← dib.switchInfo zoneName switchID).active

def getLinksByZone (pruneInactiveLinks : Bool) : Except PyError (List LinkInfo) :=
  match dib.links.get? zoneName with
  | none => .error .keyError
  | some links =>
      .ok (links.values.filter fun info => !(pruneInactiveLinks && !info.active))

def getSwitchesByZone (pruneInactiveSwitches : Bool) :
    Except PyError (List SwitchInfo) :=
  match dib.switches.get? zoneName with
  | none => .error .keyError
  | some switches =>
      .ok (switches.values.filter fun info =>
        !(pruneInactiveSwitches && !info.active))

/-! ### Links -/

def getLinkReservedResource (srcID dstID : Nat) : ℚ :=
  (dib.linksReservedResources.get? (zoneName, (srcID, dstID))).getD 0

def hasEnoughLinkResource (link : Link) (expectedBandwidth : ℚ) : Bool :=
  let residualBandwidth :=
    link.bandwidth - dib.getLinkReservedResource zoneName link.srcID link.dstID
  decide (expectedBandwidth < residualBandwidth)

/-! ### Switches -/

def getSwitchReservedResource (switchID : Nat) : Int :=
  (dib.switchesReservedResources.get? (zoneName, switchID)).getD 0

def hasEnoughSwitchResource (switchID : Nat) (expectedTCAM : Int) :
    Except PyError Bool := do
  let switch := (← dib.switchInfo zoneName switchID).switch
  let residualTCAM :=
    switch.tcamSize - dib.getSwitchReservedResource zoneName switchID
  return decide (expectedTCAM < residualTCAM)

end DCNInfoBase

namespace P4NFUsage

def SWITCH_MAX_NF_MONITOR : Nat := 5
def SWITCH_MAX_NF_FW_IPV4_ENTRIES : Nat := 3000
def SWITCH_MAX_NF_FW_IPV6_ENTRIES : Nat := 3000
def SWITCH_MAX_SFCI : Nat := 500

variable (usage : P4NFUsage) (num : Nat)

def hasEnoughMonitorResource : Bool :=
  decide (usage.monitorNumUsage + num ≤ SWITCH_MAX_NF_MONITOR ∧
    usage.sfciUsage + num ≤ SWITCH_MAX_SFCI)

def hasEnoughRatelimiterResource : Bool :=
  decide (usage.rateLimiterNumUsage + num ≤ SWITCH_MAX_NF_MONITOR ∧
    usage.sfciUsage + num ≤ SWITCH_MAX_SFCI)

def hasEnoughV4FirewallResource : Bool :=
  decide (usage.fwV4NumUsage + num ≤ SWITCH_MAX_NF_FW_IPV4_ENTRIES ∧
    usage.sfciUsage + num ≤ SWITCH_MAX_SFCI)

def hasEnoughV6FirewallResource : Bool :=
  decide (usage.fwV6NumUsage + num ≤ SWITCH_MAX_NF_FW_IPV6_ENTRIES ∧
    usage.sfciUsage + num ≤ SWITCH_MAX_SFCI)

def hasEnoughSFCINumResource : Bool :=
  decide (usage.sfciUsage + num ≤ SWITCH_MAX_SFCI)

end P4NFUsage

def VNF_TYPE_FW : Nat := 2
def VNF_TYPE_MONITOR : Nat := 4
def VNF_TYPE_RATELIMITER : Nat := 6

namespace DCNInfoBase

variable (dib : DCNInfoBase) (zoneName : Zone)

/-- A firewall must have its rules as configuration. -/
def hasEnoughP4SwitchResources (switchID : Nat) (vnf : VNF) :
    Except PyError Bool := do
  let p4NFUsage := (← dib.switchInfo zoneName switchID).switch.p4NFUsage
  if vnf.vnfType = VNF_TYPE_FW then
    match vnf.config with
    | none => throw .attributeError
    | some aclTable =>
        return p4NFUsage.hasEnoughV4FirewallResource aclTable.ipv4RulesNum &&
          p4NFUsage.hasEnoughV6FirewallResource aclTable.longRulesNum
  else if vnf.vnfType = VNF_TYPE_MONITOR then
    return p4NFUsage.hasEnoughMonitorResource 1
  else if vnf.vnfType = VNF_TYPE_RATELIMITER then
    return p4NFUsage.hasEnoughRatelimiterResource 1
  else
    return p4NFUsage.hasEnoughSFCINumResource 1

/-! ### Servers -/

/-- `isLANIP`, on addresses as numbers. -/
def isLANIP (dstIP : Nat) (net : LanNet) : Bool :=
  let netIPMask := (0xFFFFFFFF00000000 >>> net.prefixLength) &&& 0xFFFFFFFF
  dstIP &&& netIPMask == net.netIP &&& netIPMask

def isServerConnectSwitch (switch : Switch) (server : Server) : Bool :=
  isLANIP server.datapathNICIP switch.lanNet

def getServersByZone : Except PyError (List ServerInfo) :=
  match dib.servers.get? zoneName with
  | none => .error .keyError
  | some servers => .ok servers.values

/-- The NFVIs at the switch, but for those that are given up; inactive ones are
left out on demand. -/
def getConnectedNFVIs (switchID : Nat) (abandonServerIDList : List Nat)
    (pruneInactiveServers : Bool) : Except PyError (List Server) := do
  let servers ← dib.getServersByZone zoneName
  let switch := (← dib.switchInfo zoneName switchID).switch
  return (servers.filter fun info =>
    isServerConnectSwitch switch info.server &&
      info.server.serverType == .nfvi &&
      !abandonServerIDList.contains info.server.serverID &&
      !(pruneInactiveServers && !info.active)).map ServerInfo.server

def getServerReservedResources (serverID : Nat) : Resources :=
  (dib.serversReservedResources.get? (zoneName, serverID)).getD .zero

def capacity (server : Server) : Resources :=
  ⟨server.maxCores, server.maxMemory, server.nicBandwidth⟩

def getServerResidualResources (serverID : Nat) : Except PyError Resources := do
  let server := (← dib.serverInfo zoneName serverID).server
  return (capacity server).sub (dib.getServerReservedResources zoneName serverID)

def hasEnoughServerResources (serverID : Nat) (expectedResource : Resources) :
    Except PyError Bool := do
  let available ← dib.getServerResidualResources zoneName serverID
  return decide (expectedResource.Within available)

def getServersReservedResources (serverList : List Server) : Resources :=
  serverList.foldl (fun sum server =>
    sum.add (dib.getServerReservedResources zoneName server.serverID)) .zero

def getServersResourcesCapacity (serverList : List Server) : Resources :=
  serverList.foldl (fun sum server => sum.add (capacity server)) .zero

def hasEnoughNPoPServersResources (switchID : Nat) (expected : Resources)
    (abandonServerIDList : List Nat) : Except PyError Bool := do
  let servers ←
    dib.getConnectedNFVIs zoneName switchID abandonServerIDList true
  let residual := (getServersResourcesCapacity servers).sub
    (dib.getServersReservedResources zoneName servers)
  return decide (expected.cores < residual.cores ∧
    expected.memory < residual.memory ∧
    expected.bandwidth < residual.bandwidth)

end DCNInfoBase

end SelfAdaptiveMano.Mapping
