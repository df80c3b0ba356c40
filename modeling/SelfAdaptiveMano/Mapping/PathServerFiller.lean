import SelfAdaptiveMano.Mapping.FrrPathIDAllocator

/-!
# Filling servers into a path

A path through the layers is cut where the layer changes, and gets the ingress at
its begin, the egress at its end and a server between two segments. A VNF in a P4
switch has no server: its segment ends at the switch, which is written a second
time when it would be alone. The last segment has no VNF and is left as it is.
-/

namespace SelfAdaptiveMano.Mapping

open Library

/-- What the filler reads of the algorithm that it is part of. `hasPM` says whether
there is a performance model, which the constructor of the filler sets. -/
structure PathServerFiller where
  dib : DCNInfoBase
  zoneName : Zone
  sfc : SFC
  hasPM : Bool

namespace PathServerFiller

/-! ## Cutting the path -/

def dividePath (path : List LayerNode) : ForwardingPath :=
  (Grouping.group Prod.fst path).values

def getFirstNodeID4DividedPath (dividedPath : ForwardingPath) :
    Except PyError Nat := do
  let segPath ← itemAt dividedPath 0
  return (← itemAt segPath 0).2

def getLastNodeID4DividedPath (dividedPath : ForwardingPath) :
    Except PyError Nat := do
  let segPath ← itemFromEnd dividedPath 1
  return (← itemFromEnd segPath 1).2

def addStartNodeID2DividedPath (dividedPath : ForwardingPath) (startNodeID : Nat) :
    Except PyError ForwardingPath :=
  changeItem dividedPath 0 fun segPath => (0, startNodeID) :: segPath

def addEndNodeID2DividedPath (dividedPath : ForwardingPath) (endNodeID : Nat) :
    Except PyError ForwardingPath := do
  let segPath ← itemFromEnd dividedPath 1
  let lastLayerNum := (← itemAt segPath 0).1
  changeItem dividedPath (dividedPath.length - 1) fun segPath =>
    segPath ++ [(lastLayerNum, endNodeID)]

/-- The ingress is added where the path does not start at it. -/
def addIngress (dividedPath : ForwardingPath) (ingID : Nat) :
    Except PyError ForwardingPath := do
  if (← getFirstNodeID4DividedPath dividedPath) ≠ ingID then
    addStartNodeID2DividedPath dividedPath ingID
  else
    return dividedPath

/-- The egress is added where the path does not end at it. -/
def addEgress (dividedPath : ForwardingPath) (egID : Nat) :
    Except PyError ForwardingPath := do
  if (← getLastNodeID4DividedPath dividedPath) ≠ egID then
    addEndNodeID2DividedPath dividedPath egID
  else
    return dividedPath

/-! ## Choosing servers -/

/-- The loop removes from the list it goes through, so that the server after a
removed one is not looked at. -/
def delAbandonedServer (abandonElementIDList : List Nat) :
    List Server → List Server
  | [] => []
  | [server] => if server.serverID ∈ abandonElementIDList then [] else [server]
  | server :: next :: servers =>
      if server.serverID ∈ abandonElementIDList then
        next :: delAbandonedServer abandonElementIDList servers
      else server :: delAbandonedServer abandonElementIDList (next :: servers)

variable (f : PathServerFiller)

def hasEnoughResource (server : Server) (vnfType : Nat) (trafficDemand : ℚ) :
    Except PyError Bool :=
  if !f.hasPM then .error .attributeError
  else match f.sfc.vnfiResourceQuota with
  | some quota => do
      let maxThroughput ←
        PerformanceModel.getVNFIExpectedThroughput vnfType quota.cpu
      f.dib.hasEnoughServerResources f.zoneName server.serverID
        ⟨quota.cpu, quota.mem,
          min maxThroughput f.sfc.getSFCTrafficDemand⟩
  | none => do
      let expected ←
        PerformanceModel.getExpectedServerResource vnfType trafficDemand
      f.dib.hasEnoughServerResources f.zoneName server.serverID expected

def selectServer4ServerList (vnfType : Nat) (trafficDemand : ℚ) :
    List Server → Except PyError Server
  | [] => .error (.valueError "No available server resource")
  | server :: serverList => do
      if (← f.hasEnoughResource server vnfType trafficDemand) &&
          server.serverType == .nfvi && decide (vnfType ∈ server.supportVNFSet)
      then return server
      else selectServer4ServerList vnfType trafficDemand serverList

/-- One turn of the loop of `_selectNFVI4EachStage`: no server for a VNF in a P4
switch. -/
def selectNFVI4Stage (dividedPath : ForwardingPath)
    (abandonElementIDList : List Nat) (index : Nat) :
    Except PyError (Option Server) := do
  let vnf ← itemAt f.sfc.vnfSequence index
  match vnf.preferredDeviceType with
  | .server =>
      let segPath ← itemAt dividedPath index
      let layerNum := (← itemAt segPath 0).1
      let vnfType ← itemAt f.sfc.vNFTypeSequence layerNum
      let switchID := (← itemFromEnd segPath 1).2
      let servers ← f.dib.getConnectedNFVIs f.zoneName switchID [] true
      let server ← f.selectServer4ServerList vnfType f.sfc.getSFCTrafficDemand
        (delAbandonedServer abandonElementIDList servers)
      return some server
  | .p4 => return none
  | .other => throw (.valueError "Unknown preferred device type")

def selectNFVI4EachStage (dividedPath : ForwardingPath)
    (abandonElementIDList : List Nat) : Except PyError (List (Option Server)) :=
  (List.range (dividedPath.length - 1)).mapM
    (f.selectNFVI4Stage dividedPath abandonElementIDList)

/-! ## Adding the servers -/

/-- One turn of the loop of `_addNFVI2Path`. -/
def addNFVI (serverList : List (Option Server)) (startVNFStageNum : Nat)
    (dividedPath : ForwardingPath) (index : Nat) :
    Except PyError ForwardingPath := do
  match ← itemAt serverList index with
  | some server =>
      let dividedPath ← changeItem dividedPath index fun segPath =>
        segPath ++ [(index + startVNFStageNum, server.serverID)]
      changeItem dividedPath (index + 1) fun segPath =>
        (index + 1 + startVNFStageNum, server.serverID) :: segPath
  | none =>
      let segPath ← itemAt dividedPath index
      if segPath.length = 1 then
        let stageNode ← itemAt segPath 0
        changeItem dividedPath index fun segPath => segPath ++ [stageNode]
      else
        return dividedPath

def addNFVI2Path (dividedPath : ForwardingPath)
    (serverList : List (Option Server)) : Except PyError ForwardingPath := do
  let segPath ← itemAt dividedPath 0
  let startVNFStageNum := (← itemAt segPath 0).1
  (List.range serverList.length).foldlM (addNFVI serverList startVNFStageNum)
    dividedPath

def dividePathWithEnds (path : List LayerNode) (ingID egID : Nat) :
    Except PyError ForwardingPath := do
  let dividedPath ← addIngress (dividePath path) ingID
  addEgress dividedPath egID

def selectNPoPNodeAndServers (path : List LayerNode) (ingID egID : Nat)
    (abandonElementIDList : List Nat) : Except PyError ForwardingPath := do
  let dividedPath ← dividePathWithEnds path ingID egID
  let serverList ← f.selectNFVI4EachStage dividedPath abandonElementIDList
  addNFVI2Path dividedPath serverList

end PathServerFiller

end SelfAdaptiveMano.Mapping
