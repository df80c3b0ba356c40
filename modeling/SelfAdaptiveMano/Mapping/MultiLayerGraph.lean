import SelfAdaptiveMano.Mapping.InfoBase
import SelfAdaptiveMano.Library.LayeredWalk

/-!
# The multi-layer graph

A chain of `c` VNFs is mapped to a path in a graph with `c + 1` layers. Each
layer is a copy of the switches and of the links that can carry the traffic once
more, and the switches where the VNF `i` can be placed are connected from layer
`i` to layer `i + 1`.

Nodes and links that must not be used are given up: they are left out of every
layer. The lists of them become `None` when `addAbandonNodeIDs` or
`addAbandonLinkIDs` is given an element, since `append` returns none.
-/

namespace SelfAdaptiveMano.Mapping

open Library

abbrev LayerNode := Nat × Nat

structure Edge where
  src : LayerNode
  dst : LayerNode
  weight : ℚ
  deriving DecidableEq

/-- `weight` stands for `getLinkWeight`: a constant, a latency or a random number,
by the types of weight that were chosen. -/
structure MultiLayerGraph where
  dib : DCNInfoBase
  zoneName : Zone
  sfc : SFC
  enablePreferredDeviceSelection : Bool
  weight : LayerNode → LayerNode → Except PyError ℚ
  abandonNodeIDList : Option (List Nat)
  abandonLinkIDList : Option (List (Nat × Nat))

namespace MultiLayerGraph

/-- `loadInstance4dibAndRequest`. -/
def load (dib : DCNInfoBase) (zoneName : Zone) (sfc : SFC)
    (enablePreferredDeviceSelection : Bool)
    (weight : LayerNode → LayerNode → Except PyError ℚ) : MultiLayerGraph :=
  ⟨dib, zoneName, sfc, enablePreferredDeviceSelection, weight, some [], some []⟩

def addAbandonNodeIDs (g : MultiLayerGraph) :
    List Nat → Except PyError MultiLayerGraph
  | [] => .ok g
  | _ :: nodeIDList =>
      match g.abandonNodeIDList with
      | none => .error .attributeError
      | some _ => addAbandonNodeIDs { g with abandonNodeIDList := none } nodeIDList

/-- `addAbandonNodes`, on the IDs of the servers and switches. -/
def addAbandonNodes (g : MultiLayerGraph) (nodeIDList : List Nat) :
    Except PyError MultiLayerGraph :=
  match g.abandonNodeIDList with
  | none => if nodeIDList = [] then .ok g else .error .attributeError
  | some nodes => .ok { g with abandonNodeIDList := some (nodes ++ nodeIDList) }

/-- `id in list`, where the list may be `None`. -/
def inList {α : Type} [DecidableEq α] (a : α) :
    Option (List α) → Except PyError Bool
  | none => .error .typeError
  | some l => .ok (decide (a ∈ l))

variable (g : MultiLayerGraph)

def isAbandonLink (link : Link) : Except PyError Bool := do
  if ← inList (link.srcID, link.dstID) g.abandonLinkIDList then
    return true
  else if ← inList link.srcID g.abandonNodeIDList then
    return true
  else
    inList link.dstID g.abandonNodeIDList

def getExpectedBandwidth (stageNum : Nat) : Except PyError ℚ := do
  let trafficDemand := g.sfc.getSFCTrafficDemand
  match g.sfc.vnfiResourceQuota with
  | none => return (stageNum + 1) * trafficDemand
  | some quota =>
      let vnfType ←
        if g.sfc.vNFTypeSequence.length ≤ stageNum then
          itemFromEnd g.sfc.vNFTypeSequence 1
        else itemAt g.sfc.vNFTypeSequence stageNum
      let maxThroughput ←
        PerformanceModel.getVNFIExpectedThroughput vnfType quota.cpu
      return (stageNum + 1) * min maxThroughput trafficDemand

def getExpectedTCAM (stage : Nat) : Int := stage + 1

def hasEnoughResource (link : Link) (expectedBandwidth : ℚ)
    (expectedTCAM : Int) : Except PyError Bool := do
  if !g.dib.hasEnoughLinkResource g.zoneName link expectedBandwidth then
    return false
  else if !(← g.dib.hasEnoughSwitchResource g.zoneName link.srcID
      expectedTCAM) then
    return false
  else
    g.dib.hasEnoughSwitchResource g.zoneName link.dstID expectedTCAM

/-- One turn of the loop of `genOneLayer`. -/
def layerEdge (stage : Nat) (capacityAwareFlag : Bool) (expectedBandwidth : ℚ)
    (expectedTCAM : Int) (info : LinkInfo) : Except PyError (Option Edge) := do
  let link := info.link
  if g.dib.isServerID link.srcID || g.dib.isServerID link.dstID then
    return none
  else if !(← g.dib.isSwitchActive g.zoneName link.srcID) then
    return none
  else if !(← g.dib.isSwitchActive g.zoneName link.dstID) then
    return none
  else
    let weight ← g.weight (stage, link.srcID) (stage, link.dstID)
    if (← g.hasEnoughResource link expectedBandwidth expectedTCAM) ||
        !capacityAwareFlag then
      if ← g.isAbandonLink link then
        return none
      else
        return some ⟨(stage, link.srcID), (stage, link.dstID), weight⟩
    else
      return none

/-- The edges of a layer; asking whether an empty graph is connected raises. -/
def genOneLayer (stage : Nat) (capacityAwareFlag : Bool) :
    Except PyError (List Edge) := do
  let expectedBandwidth ← g.getExpectedBandwidth stage
  let links ← g.dib.getLinksByZone g.zoneName true
  let edgeList ← collect (g.layerEdge stage capacityAwareFlag expectedBandwidth
    (getExpectedTCAM stage)) links
  if edgeList = [] then throw (.exception "NetworkXPointlessConcept")
  else return edgeList

def getPreferredDeviceTypeOfIdxVNF (idx : Nat) : Except PyError DeviceType := do
  return (← itemAt g.sfc.vnfSequence idx).preferredDeviceType

def getSupportNFAndVNFSwitchesOfLayer (layerNum : Nat) :
    Except PyError (List Switch) := do
  let vnfType ← itemAt g.sfc.vNFTypeSequence layerNum
  let switches ← g.dib.getSwitchesByZone g.zoneName true
  collect (fun info => do
    let switch := info.switch
    if g.enablePreferredDeviceSelection then
      match ← g.getPreferredDeviceTypeOfIdxVNF layerNum with
      | .p4 => return if vnfType ∈ switch.supportNF then some switch else none
      | .server =>
          return if vnfType ∈ switch.supportVNF then some switch else none
      | .other => return none
    else
      return if vnfType ∈ switch.supportVNF then some switch else none) switches

def getExpectedServerResource (layerNum : Nat) : Except PyError Resources := do
  match g.sfc.vnfiResourceQuota with
  | some quota => return ⟨quota.cpu, quota.mem, ← g.getExpectedBandwidth layerNum⟩
  | none =>
      let vnfType ← itemAt g.sfc.vNFTypeSequence layerNum
      PerformanceModel.getExpectedServerResource vnfType
        g.sfc.getSFCTrafficDemand

/-- The test in a turn of the loop of `_connectLayer`. -/
def hasEnoughResourceOfLayer (layer1Num nodeID : Nat) : Except PyError Bool := do
  let pDT ← g.getPreferredDeviceTypeOfIdxVNF layer1Num
  if g.enablePreferredDeviceSelection && pDT == .p4 then
    let vnf ← itemAt g.sfc.vnfSequence layer1Num
    g.dib.hasEnoughP4SwitchResources g.zoneName nodeID vnf
  else if !g.enablePreferredDeviceSelection || pDT == .server then
    let expected ← g.getExpectedServerResource layer1Num
    g.dib.hasEnoughNPoPServersResources g.zoneName nodeID expected
      (g.abandonNodeIDList.getD [])
  else
    throw (.valueError "Unknown preferred device")

/-- One turn of the loop of `_connectLayer`. -/
def connectEdge (layer1Num layer2Num : Nat) (switch : Switch) :
    Except PyError (Option Edge) := do
  let nodeID := switch.switchID
  if ← g.hasEnoughResourceOfLayer layer1Num nodeID then
    let weight ← g.weight (layer1Num, nodeID) (layer2Num, nodeID)
    return some ⟨(layer1Num, nodeID), (layer2Num, nodeID), weight⟩
  else
    return none

def connectLayer (layer1Num layer2Num : Nat) : Except PyError (List Edge) := do
  let switches ← g.getSupportNFAndVNFSwitchesOfLayer layer1Num
  collect (g.connectEdge layer1Num layer2Num) switches

def trans2MLG (capacityAwareFlag : Bool) : Except PyError (List Edge) := do
  let gList ← (List.range (g.sfc.getSFCLength + 1)).mapM fun stage =>
    g.genOneLayer stage capacityAwareFlag
  let connections ← (List.range g.sfc.getSFCLength).mapM fun stage =>
    g.connectLayer stage (stage + 1)
  return gList.flatten ++ connections.flatten

end MultiLayerGraph

end SelfAdaptiveMano.Mapping
