import SelfAdaptiveMano.Mapping.PathServerFiller
import SelfAdaptiveMano.Mapping.Reservations

/-!
# NetPack

`NetPack` packs a chain into the servers of a list, which are those of a rack or a
pod: it stays at the server it has used last while that one does not have room any
more, and chooses another one at random while it has. Then it reserves bandwidth on
shortest paths between the switches of the servers. When there is no server or no
path, it goes on to the next list, and at last rejects the request.

The random numbers are a parameter, and so is the search for paths. The server
lists are shuffled before use.
-/

namespace SelfAdaptiveMano.Mapping

open Library

structure PathSearch where
  bidirectionalShortestPath : List (Nat × Nat) → Nat → Nat → Option (List Nat)
  path_spec : ∀ {graph u v path},
    bidirectionalShortestPath graph u v = some path →
      path.IsChain (fun a b => (a, b) ∈ graph) ∧ path.head? = some u ∧
        path.getLast? = some v ∧ path.Nodup

/-- What comes of the random numbers: the order of a shuffled list and the choice
from a list, for each draw. -/
structure Draws where
  shuffle : Nat → List (List Server) → List (List Server)
  shuffle_perm : ∀ n serverSet, (shuffle n serverSet).Perm serverSet
  choice : Nat → List Server → Except PyError Server
  choice_mem : ∀ {n servers server}, choice n servers = .ok server →
    server ∈ servers

inductive TopoType where
  | fatTree
  | testbedSw1
  deriving DecidableEq, Repr

/-- `fuel` bounds the turns of the loop that reserves bandwidth. -/
structure NetPack where
  topoType : TopoType
  podNum : Nat
  minPodIdx : Nat
  maxPodIdx : Nat
  zoneName : Zone
  serverSets : List (List (List Server))
  draws : Draws
  search : PathSearch
  fuel : Nat
  podNum_pos : 0 < podNum

/-- The information base, the working graph and the number of draws so far. -/
structure NetPackState where
  dib : DCNInfoBase
  graph : List (Nat × Nat)
  drawn : Nat

structure PathRequest where
  sfc : SFC
  ingSwitchID : Nat
  egSwitchID : Nat
  hasVNF : sfc.vNFTypeSequence ≠ []
  demand_nonneg : 0 ≤ sfc.getSFCTrafficDemand

namespace NetPack

def tolerance : ℚ := 1 / 1000000000

/-! ## The working graph -/

def addEdgesFrom (graph : List (Nat × Nat)) : List (Nat × Nat) → List (Nat × Nat)
  | [] => graph
  | edge :: edges =>
      addEdgesFrom (if edge ∈ graph then graph else graph ++ [edge]) edges

def removeEdgesFrom (graph edges : List (Nat × Nat)) : List (Nat × Nat) :=
  graph.filter fun edge => edge ∉ edges

variable (nP : NetPack)

/-- The core, aggregation and top of rack switches of the pods. -/
def isSwitchInSubTopologyZone (switchID : Int) : Bool :=
  match nP.topoType with
  | .fatTree =>
      let podNum : Int := nP.podNum
      let coreSwitchNum := (podNum / 2) ^ 2
      let aggSwitchNum := podNum * podNum / 2
      let coreSwitchPerPod := coreSwitchNum / podNum
      let pods : Int := nP.maxPodIdx - nP.minPodIdx + 1
      let minCoreSwitchIdx := nP.minPodIdx * coreSwitchPerPod
      let maxCoreSwitchIdx := minCoreSwitchIdx + coreSwitchPerPod * pods - 1
      let minAggSwitchIdx := coreSwitchNum + nP.minPodIdx * podNum / 2
      let maxAggSwitchIdx := minAggSwitchIdx + podNum / 2 * pods - 1
      let minTorSwitchIdx :=
        coreSwitchNum + aggSwitchNum + nP.minPodIdx * podNum / 2
      let maxTorSwitchIdx := minTorSwitchIdx + podNum / 2 * pods - 1
      decide ((minCoreSwitchIdx ≤ switchID ∧ switchID ≤ maxCoreSwitchIdx) ∨
        (minAggSwitchIdx ≤ switchID ∧ switchID ≤ maxAggSwitchIdx) ∨
        (minTorSwitchIdx ≤ switchID ∧ switchID ≤ maxTorSwitchIdx))
  | .testbedSw1 => false

def constructGraph (dib : DCNInfoBase) : Except PyError (List (Nat × Nat)) := do
  let links ← dib.getLinksByZone nP.zoneName false
  return addEdgesFrom [] ((links.filter fun info =>
    !(dib.isServerID info.link.srcID || dib.isServerID info.link.dstID) &&
      nP.isSwitchInSubTopologyZone info.link.srcID &&
      nP.isSwitchInSubTopologyZone info.link.dstID).map fun info =>
        (info.link.srcID, info.link.dstID))

/-- The keys of the links that do not have more left than the bandwidth. -/
def getInsufficientBWLinks (dib : DCNInfoBase) (bandwidth : ℚ) :
    Except PyError (List (Nat × Nat)) :=
  match dib.links.get? nP.zoneName with
  | none => .error .keyError
  | some links =>
      .ok ((links.items.filter fun item =>
        !dib.hasEnoughLinkResource nP.zoneName item.2.link bandwidth).map Prod.fst)

/-! ## The servers of a chain -/

def selectValidServerList (dib : DCNInfoBase) (serversList : List Server)
    (resourceDemand : Resources) : Except PyError (List Server) :=
  collect (fun server => do
    if ← dib.hasEnoughServerResources nP.zoneName server.serverID resourceDemand
      then return some server
    else return none) serversList

/-- The VNFs that have a server so far: the last server, and the switches and
servers of all of them. -/
structure Places where
  lastServer : Option Server
  vnf2SwitchID : List Nat
  vnfi2Server : List Server

/-- The next server is chosen anew for the first VNF, and while the last one still
has room. -/
def choosesServer (dib : DCNInfoBase) (lastServer : Option Server)
    (resourceDemand : Resources) : Except PyError Bool :=
  match lastServer with
  | none => .ok true
  | some server =>
      dib.hasEnoughServerResources nP.zoneName server.serverID resourceDemand

def choice (servers : List Server) : PyM NetPackState Server := do
  let s ← get
  set { s with drawn := s.drawn + 1 }
  PyM.ofExcept (nP.draws.choice s.drawn servers)

def chooseServer (serversList : List Server) (lastServer : Option Server)
    (resourceDemand : Resources) : PyM NetPackState (Option Server) := do
  let s ← get
  if ← PyM.ofExcept (nP.choosesServer s.dib lastServer resourceDemand) then
    let validServerList ←
      PyM.ofExcept (nP.selectValidServerList s.dib serversList resourceDemand)
    if validServerList = [] then
      return none
    else
      return some (← nP.choice validServerList)
  else
    return lastServer

def releaseServers (trafficDemand : ℚ) (vnfTypes vnf2SwitchID : List Nat) :
    PyM NetPackState PUnit :=
  (vnfTypes.zip vnf2SwitchID).forM fun (vnfType, switchID) => do
    let demand ← PyM.ofExcept
      (PerformanceModel.getExpectedServerResource vnfType trafficDemand)
    let s ← get
    let dib ← PyM.ofExcept
      (s.dib.releaseServerResources switchID demand nP.zoneName)
    set { s with dib }

def placeAt (server : Server) (resourceDemand : Resources) (places : Places) :
    PyM NetPackState Places := do
  modify fun s => { s with
    dib := s.dib.reserveServerResources nP.zoneName server.serverID resourceDemand }
  let s ← get
  match ← PyM.ofExcept (s.dib.getConnectedSwitch nP.zoneName server.serverID) with
  | none => throw .attributeError
  | some switch =>
      return ⟨some server, places.vnf2SwitchID ++ [switch.switchID],
        places.vnfi2Server ++ [server]⟩

/-- The loop over the VNFs that have no server yet. -/
def placeVNFs (request : PathRequest) (serversList : List Server) :
    List Nat → Places → PyM NetPackState (Option Places)
  | [], places => return some places
  | vnfType :: vnfTypes, places => do
      let resourceDemand ← PyM.ofExcept
        (PerformanceModel.getExpectedServerResource vnfType
          request.sfc.getSFCTrafficDemand)
      match ← nP.chooseServer serversList places.lastServer resourceDemand with
      | none =>
          nP.releaseServers request.sfc.getSFCTrafficDemand
            request.sfc.vNFTypeSequence places.vnf2SwitchID
          return none
      | some server =>
          let places ← nP.placeAt server resourceDemand places
          placeVNFs request serversList vnfTypes places

/-! ## The paths between the servers -/

/-- What is done so far: the segments, what is reserved for them and the links that
were left out last. -/
structure Allocation where
  forwardingPath : ForwardingPath
  bandwidthReservationRecordList : List ((Nat × Nat) × ℚ)
  linkList : List (Nat × Nat)

def trans2CompatibleFormat (segPath : List Nat) (idx : Nat) : List LayerNode :=
  segPath.map fun nodeID => (idx, nodeID)

def addServers (vnfi2Server : List Server) (idx : Nat) (segPath : List Nat) :
    List Nat :=
  let segPath := match vnfi2Server[idx]? with
    | some server => segPath ++ [server.serverID]
    | none => segPath
  if idx = 0 then segPath
  else match vnfi2Server[idx - 1]? with
    | some server => server.serverID :: segPath
    | none => segPath

def edges (segPath : List Nat) : List (Nat × Nat) :=
  segPath.zip segPath.tail

/-- The bandwidth that is left on each edge, but no more than the given one. -/
def minBandwidth (dib : DCNInfoBase) (bandwidth : ℚ) (segPath : List Nat) :
    Except PyError ℚ :=
  (edges segPath).foldlM (fun minBW edge => do
    return min minBW
      (← dib.getLinkResidualResource nP.zoneName edge.1 edge.2)) bandwidth

def reserveEdge (minBW : ℚ) (edge : Nat × Nat) (s : NetPackState) :
    NetPackState :=
  let dib := s.dib.reserveLinkResource nP.zoneName edge.1 edge.2 minBW
  { s with
    dib
    graph :=
      if dib.getLinkReservedResource nP.zoneName edge.1 edge.2 ≤ tolerance then
        removeEdgesFrom s.graph [edge]
      else s.graph }

def releaseBWFromRecordList (records : List ((Nat × Nat) × ℚ))
    (s : NetPackState) : NetPackState :=
  records.foldl (fun s record => { s with
    dib := s.dib.reserveLinkResource nP.zoneName record.1.1 record.1.2 record.2 }) s

/-- The loop that reserves bandwidth between two switches, until all is reserved. -/
def allocateBandwidth (u v idx : Nat) (vnfi2Server : List Server) :
    Nat → ℚ → List LayerNode → Allocation →
      PyM NetPackState (Option (List LayerNode × Allocation))
  | 0, _, _, _ => throw (.exception "out of fuel")
  | fuel + 1, bandwidth, paths, allocation =>
      if bandwidth ≤ tolerance then
        return some (paths, allocation)
      else do
        let s ← get
        let linkList ← PyM.ofExcept (nP.getInsufficientBWLinks s.dib bandwidth)
        let graph := removeEdgesFrom s.graph linkList
        set { s with graph }
        match nP.search.bidirectionalShortestPath graph u v with
        | none =>
            modify (nP.releaseBWFromRecordList
              allocation.bandwidthReservationRecordList)
            return none
        | some segPath =>
            let minBW ← PyM.ofExcept (nP.minBandwidth s.dib bandwidth segPath)
            modify fun s => (edges segPath).foldl
              (fun s edge => nP.reserveEdge minBW edge s) s
            allocateBandwidth u v idx vnfi2Server fuel (bandwidth - minBW)
              (trans2CompatibleFormat (addServers vnfi2Server idx segPath) idx)
              { allocation with
                bandwidthReservationRecordList :=
                  allocation.bandwidthReservationRecordList ++
                    (edges segPath).map fun edge => (edge, minBW)
                linkList }

/-- One turn of the loop of `allocatePaths`. -/
def allocateSegment (trafficDemand : ℚ) (vnfi2Server : List Server)
    (idx u v : Nat) (allocation : Allocation) :
    PyM NetPackState (Option Allocation) :=
  if u = v then
    return some { allocation with
      forwardingPath := allocation.forwardingPath ++
        [trans2CompatibleFormat (addServers vnfi2Server idx []) idx] }
  else do
    match ← nP.allocateBandwidth u v idx vnfi2Server nP.fuel trafficDemand []
      allocation with
    | none => return none
    | some (paths, allocation) =>
        return some { allocation with
          forwardingPath := allocation.forwardingPath ++ [paths] }

/-- The loop of `allocatePaths` over the switches, from the segment `idx` on. -/
def allocateSegments (trafficDemand : ℚ) (vnfi2Server : List Server) :
    Nat → List Nat → Allocation → PyM NetPackState (Option Allocation)
  | idx, u :: v :: switches, allocation => do
      match ← nP.allocateSegment trafficDemand vnfi2Server idx u v allocation with
      | none => return none
      | some allocation =>
          allocateSegments trafficDemand vnfi2Server (idx + 1) (v :: switches)
            allocation
  | _, _, allocation => return some allocation

def allocatePaths (request : PathRequest) (places : Places) :
    PyM NetPackState (Option ForwardingPath) := do
  let srcTerminalSwitchIDList :=
    request.ingSwitchID :: places.vnf2SwitchID ++ [request.egSwitchID]
  match ← nP.allocateSegments request.sfc.getSFCTrafficDemand places.vnfi2Server 0
    srcTerminalSwitchIDList ⟨[], [], []⟩ with
  | none => return none
  | some allocation =>
      modify fun s => { s with graph := addEdgesFrom s.graph allocation.linkList }
      return some allocation.forwardingPath

/-! ## Mapping requests -/

def mapToServers (request : PathRequest) (serversList : List Server) :
    PyM NetPackState (Option ForwardingPath) := do
  match ← nP.placeVNFs request serversList request.sfc.vNFTypeSequence
    ⟨none, [], []⟩ with
  | none => return none
  | some places => nP.allocatePaths request places

def shuffle (serverSet : List (List Server)) :
    PyM NetPackState (List (List Server)) := do
  let s ← get
  set { s with drawn := s.drawn + 1 }
  return nP.draws.shuffle s.drawn serverSet

def maxAttempts : Nat := 1

def mapPrimaryPath (request : PathRequest) (serverSet : List (List Server)) :
    PyM NetPackState (Option ForwardingPath) :=
  (List.range maxAttempts).findSomeM? fun _ => do
    let serverSet ← nP.shuffle serverSet
    serverSet.findSomeM? (nP.mapToServers request)

/-- One turn of the loop of `_mapAllPrimaryPaths`: a request that no set accepts is
rejected. -/
def mapRequest (request : PathRequest) : PyM NetPackState (Option ForwardingPath) :=
  nP.serverSets.findSomeM? (nP.mapPrimaryPath request)

def startBatch : PyM NetPackState PUnit := do
  let s ← get
  let graph ← PyM.ofExcept (nP.constructGraph s.dib)
  set { s with graph }

end NetPack

end SelfAdaptiveMano.Mapping
