import SelfAdaptiveMano.Orchestration.OrchInfoBase

/-!
# How the Orchestrator makes commands

`OSFCAdder` and `OSFCDeleter` turn requests into commands. For `ADD_SFCI` this
happens for a whole batch at once: the batch is divided by mapping type, each
group is mapped by the algorithm of its type, and each forwarding path set is
converted into the VNFIs of the command. An algorithm reports a request that it
cannot map in its own way: most leave `None` in the table of path sets, NetPack
leaves a path set whose path is `None`, and some raise.

The algorithms themselves, the topology they read and the random choice of a
gateway are parameters (`Env`).
-/

namespace SelfAdaptiveMano

open Library

abbrev Hop := Nat × Nat

abbrev ForwardingPath := List (List Hop)

inductive PathValue where
  | none
  | zero
  | path (path : ForwardingPath)
  deriving DecidableEq

inductive KeyTag where
  | number (n : Nat)
  | pair (name value : String)
  deriving DecidableEq

structure ForwardingPathSet where
  primaryForwardingPath : Dict Nat PathValue
  mappingType : MappingType
  backupForwardingPath : Dict Nat (Dict (List KeyTag) ForwardingPath)
  deriving DecidableEq

/-- The result of a mapping algorithm: a path set for the position of each
request, `none` for `None`. -/
abbrev FPSetsDict := Dict Nat (Option ForwardingPathSet)

def DIRECTION0_PATHID_OFFSET : Nat := 1

/-- What the Orchestrator finds around it: the topology in its `dib`, the random
choice of a gateway, the performance model and the mapping algorithms. -/
structure Env where
  /-- `_mapIngressEgress`: the directions, with where each enters and leaves. -/
  mapIngressEgress : SFC → Except PyError (List Direction)
  /-- The server or switch with a node id, in the zone. -/
  node : Nat → Except PyError Node
  /-- `PerformanceModel.getExpectedServerResource(vnfType, trafficDemand)[0]` -/
  expectedCPU : Nat → SFC → Except PyError Nat
  /-- `MMLPSFC.mapSFCI` -/
  mMLPSFC : List Request → Except PyError FPSetsDict
  /-- `MMLBSFC.mapSFCI` -/
  mMLBSFC : List Request → FPSetsDict → Except PyError FPSetsDict
  /-- `DPSFCCG.mapSFCI` -/
  dpSFC : List Request → Except PyError FPSetsDict
  /-- `OPSFC`, `PSFC` and `NotVia` one after the other. -/
  notVia : List Request → Except PyError FPSetsDict
  /-- `NetSolverILP.mapSFCI` -/
  netSolverILP : List Request → Except PyError FPSetsDict
  /-- The last path that `NetPack._mapPrimaryPath` gave for a position, `None`
  for a rejected request. -/
  netPackPath : List Request → Except PyError (Nat → PathValue)

/-- The fields that `OSFCAdder` and `OSFCDeleter` use: the zone, the pool of
`VNFIIDAssigner` and the clock of `uuid1`. -/
structure CmdGenerator where
  zoneName : Zone
  vnfiIDPool : Dict (Nat × Nat) UUID
  clock : Nat

/-- `Node.getServerID()` or `Node.switchID`. -/
def Node.nodeID : Node → Nat
  | .server s => s.serverID
  | .switch switchID => switchID

namespace OSFCAdder

def generator : Nat := 1

def uuid1 : PyM CmdGenerator UUID :=
  modifyGet fun g => (⟨generator, g.clock⟩, { g with clock := g.clock + 1 })

/-- `VNFIIDAssigner._assignVNFIID`, with `VNFI_ASSIGN_MODE` set: the VNFIs of
one type on one node share their id. -/
def assignVNFIID (vnfType nodeID : Nat) : PyM CmdGenerator UUID := do
  match (← get).vnfiIDPool.get? (vnfType, nodeID) with
  | some vnfiID => return vnfiID
  | none => do
      let vnfiID ← uuid1
      modify fun g =>
        { g with vnfiIDPool := g.vnfiIDPool.set (vnfType, nodeID) vnfiID }
      return vnfiID

def checkAddSFCRequest (request : Request) : Except PyError Unit :=
  match request.requestType, request.attributes.sfc, request.attributes.sfci with
  | .addSFC, none, _ | .delSFC, none, _ | .addSFCI, none, _ | .delSFCI, none, _ =>
      .error (.valueError "Request missing sfc")
  | .addSFCI, some _, none | .delSFCI, some _, none =>
      .error (.valueError "Request missing sfci")
  | .addSFC, _, _ | .delSFC, _, _ | .addSFCI, _, _ | .delSFCI, _, _ => .ok ()
  | _, _, _ => .error (.valueError "Unknown request type.")

/-- The command for an `ADD_SFC`; its SFC also replaces that of the request. -/
def genAddSFCCmd (env : Env) (request : Request) :
    PyM CmdGenerator (Command × SFC) := do
  PyM.ofExcept (checkAddSFCRequest request)
  let sfc ← PyM.ofOption .keyError request.attributes.sfc
  if sfc.zone = (← get).zoneName then do
    let directions ← PyM.ofExcept (env.mapIngressEgress sfc)
    let sfc := { sfc with directions := directions }
    let cmdID ← uuid1
    return (⟨.addSFC, cmdID, ⟨some (← get).zoneName, none, some sfc, none⟩⟩, sfc)
  else throw .assertionError

def lastHop (path : ForwardingPath) (stage : Nat) : Except PyError Hop := do
  let hops ← (path[stage]?).elim (.error .indexError) .ok
  hops.getLast?.elim (.error .indexError) .ok

def stageHop (value : PathValue) (stage : Nat) : Except PyError Hop :=
  match value with
  | .none | .zero => .error .typeError
  | .path path => lastHop path stage

def isFRRKey (key : List KeyTag) : Bool :=
  key.any fun keyTag => keyTag = .pair "repairMethod" "fast-reroute"

def addBackupNodes (stage : Nat) (nodeIDs : List Nat) (path : ForwardingPath) :
    Except PyError (List Nat) :=
  path.foldlM
    (fun nodeIDs hops => do
      let hop ← hops.getLast?.elim (.error .indexError) .ok
      if hop.1 = stage ∧ hop.2 ∉ nodeIDs then return nodeIDs ++ [hop.2]
      else return nodeIDs) nodeIDs

/-- `_getNodeListOfStage4FPSet`: the nodes that run the VNF of a stage, on the
primary path or on a backup path. -/
def getNodeListOfStage4FPSet (env : Env) (fpSet : ForwardingPathSet)
    (stage : Nat) : Except PyError (List Node) := do
  let primary ← (fpSet.primaryForwardingPath.get? DIRECTION0_PATHID_OFFSET).elim
    (.error .keyError) .ok
  let hop ← stageHop primary stage
  let backups ← (fpSet.backupForwardingPath.get? DIRECTION0_PATHID_OFFSET).elim
    (.error .keyError) .ok
  let nodeIDs ← backups.items.foldlM
    (fun nodeIDs (key, path) =>
      if fpSet.mappingType = .notviaPSFC ∧ isFRRKey key then .ok nodeIDs
      else addBackupNodes stage nodeIDs path) [hop.2]
  nodeIDs.mapM env.node

def genVNFI (env : Env) (sfc : SFC) (vnfType : Nat) (config : String)
    (node : Node) : PyM CmdGenerator VNFI := do
  let vnfiID ← assignVNFIID vnfType node.nodeID
  let maxCPUNum ← PyM.ofExcept (env.expectedCPU vnfType sfc)
  return ⟨vnfType, vnfiID, config, node, maxCPUNum⟩

def genStage (env : Env) (sfc : SFC) (fpSet : ForwardingPathSet)
    (vnfType stage : Nat) : PyM CmdGenerator (List VNFI) := do
  let vnf ← PyM.ofOption .indexError sfc.vnfSequence[stage]?
  let nodeList ← PyM.ofExcept (getNodeListOfStage4FPSet env fpSet stage)
  nodeList.mapM (genVNFI env sfc vnfType vnf.config)

def getVNFISeqFromForwardingPathSet (env : Env) (sfc : SFC)
    (fpSet : ForwardingPathSet) : PyM CmdGenerator (List (List VNFI)) :=
  sfc.vNFTypeSequence.zipIdx.mapM fun (vnfType, stage) =>
    genStage env sfc fpSet vnfType stage

/-- The command for one request of a group, `none` when it was not mapped. -/
def genAddSFCICmd (env : Env) (forwardingPathSetsDict : Option FPSetsDict)
    (request : Request) (rIndex : Nat) :
    PyM CmdGenerator (Request × Option Command) := do
  let sfc ← PyM.ofOption .keyError request.attributes.sfc
  let sfci ← PyM.ofOption .keyError request.attributes.sfci
  -- an algorithm that returned `None` left no table to index
  let fpSets ← PyM.ofOption .typeError forwardingPathSetsDict
  match ← PyM.ofOption .keyError (fpSets.get? rIndex) with
  | some fpSet => do
      let vnfiSequence ← getVNFISeqFromForwardingPathSet env sfc fpSet
      let cmdID ← uuid1
      let sfci := { sfci with vnfiSequence := vnfiSequence }
      let request := { request with
        attributes := { request.attributes with sfci := some sfci } }
      return (request,
        some ⟨.addSFCI, cmdID, ⟨some sfc.zone, none, some sfc, some sfci⟩⟩)
  | none => return (request, none)

def forwardingPathSetsDict2Cmd (env : Env)
    (forwardingPathSetsDict : Option FPSetsDict)
    (requestBatchList : List Request) :
    PyM CmdGenerator (List (Request × Option Command)) :=
  requestBatchList.zipIdx.mapM fun (request, rIndex) =>
    genAddSFCICmd env forwardingPathSetsDict request rIndex

def tabulate (n : Nat) (f : Nat → Option ForwardingPathSet) : FPSetsDict :=
  (List.range n).foldl (fun d rIndex => d.set rIndex (f rIndex)) .empty

def plainFPSet (mappingType : MappingType) (value : PathValue) :
    ForwardingPathSet where
  primaryForwardingPath := Dict.empty.set DIRECTION0_PATHID_OFFSET value
  mappingType := mappingType
  backupForwardingPath := Dict.empty.set DIRECTION0_PATHID_OFFSET .empty

def mMLPSFC (env : Env) (requestBatchList : List Request) :
    Except PyError FPSetsDict := do
  let forwardingPathSetsDict ← env.mMLPSFC requestBatchList
  return forwardingPathSetsDict.map fun fpSet =>
    fpSet.map fun fpSet => { fpSet with mappingType := .mmlpsfc }

def ufrr (env : Env) (requestBatchList : List Request) :
    Except PyError FPSetsDict := do
  let forwardingPathSetsDict ← env.mMLPSFC requestBatchList
  env.mMLBSFC requestBatchList forwardingPathSetsDict

/-- `NetPack.mapSFCI`: a rejected request gets a path set with the path `None`.
-/
def netPack (env : Env) (requestBatchList : List Request) :
    Except PyError FPSetsDict := do
  let path ← env.netPackPath requestBatchList
  return tabulate requestBatchList.length fun rIndex =>
    some (plainFPSet .netpack (path rIndex))

/-- The path sets of a group of requests; `interferenceAware` is not implemented
and returns `None`. -/
def mapGroup (env : Env) (mappingType : MappingType)
    (requestBatchList : List Request) : Except PyError (Option FPSetsDict) :=
  match mappingType with
  | .ufrr => some <$> ufrr env requestBatchList
  | .mmlpsfc => some <$> mMLPSFC env requestBatchList
  | .e2ep => some <$> env.dpSFC requestBatchList
  | .notviaPSFC => some <$> env.notVia requestBatchList
  | .interference => .ok none
  | .netpack => some <$> netPack env requestBatchList
  | .netsolverILP => some <$> env.netSolverILP requestBatchList
  | .none => .ok (some (tabulate requestBatchList.length fun _ =>
      some (plainFPSet .none .zero)))
  | .notvia | .shortestPath | .unknown =>
      .error (.valueError "Unknown mappingType.")

def DEFAULT_MAPPING_TYPE : MappingType := .mmlpsfc

def mappingTypeOf (request : Request) : MappingType :=
  request.attributes.mappingType.getD DEFAULT_MAPPING_TYPE

def withMappingType (request : Request) : Request :=
  { request with attributes := { request.attributes with
      mappingType := some (mappingTypeOf request) } }

/-- `_divRequest`: the requests of a batch by mapping type, in the order in
which the types first occur. -/
def divRequest (requestBatchQueue : List Request) :
    Dict MappingType (List Request) :=
  requestBatchQueue.foldl
    (fun requestDict request =>
      let mappingType := mappingTypeOf request
      requestDict.set mappingType
        ((requestDict.get? mappingType).getD [] ++ [withMappingType request]))
    .empty

def genGroup (env : Env) (mappingType : MappingType)
    (requestBatchList : List Request) :
    PyM CmdGenerator (List (Request × Option Command)) := do
  let forwardingPathSetsDict ←
    PyM.ofExcept (mapGroup env mappingType requestBatchList)
  forwardingPathSetsDict2Cmd env forwardingPathSetsDict requestBatchList

/-- The command for each request of a batch, `none` for a request that was not
mapped. An exception anywhere leaves no command at all. -/
def genABatchOfRequestAndAddSFCICmds (env : Env)
    (requestBatchQueue : List Request) :
    PyM CmdGenerator (List (Request × Option Command)) := do
  let reqCmdTupleLists ← (divRequest requestBatchQueue).items.mapM
    fun (mappingType, requestBatchList) =>
      genGroup env mappingType requestBatchList
  return reqCmdTupleLists.flatten

end OSFCAdder

namespace OSFCDeleter

open OSFCAdder

def getStoredSFC (oib : OrchInfoBase) (request : Request) :
    Except PyError SFC := do
  checkAddSFCRequest request
  let sfc ← request.attributes.sfc.elim (.error .keyError) .ok
  -- `None` has no `attributes`
  (oib.getSFC4DB sfc.sfcUUID).elim (.error .attributeError) .ok

def genDelSFCCmd (oib : OrchInfoBase) (request : Request) :
    PyM CmdGenerator (Command × SFC) := do
  let sfc ← PyM.ofExcept (getStoredSFC oib request)
  let cmdID ← uuid1
  return (⟨.delSFC, cmdID, ⟨some sfc.zone, none, some sfc, none⟩⟩, sfc)

def genDelSFCICmd (oib : OrchInfoBase) (request : Request) :
    PyM CmdGenerator (Command × SFC × Option SFCI) := do
  let sfc ← PyM.ofExcept (getStoredSFC oib request)
  let sfci ← PyM.ofOption .keyError request.attributes.sfci
  let sfci := oib.getSFCI4DB sfci.sfciID
  let cmdID ← uuid1
  return (⟨.delSFCI, cmdID, ⟨some sfc.zone, none, some sfc, sfci⟩⟩, sfc, sfci)

end OSFCDeleter

end SelfAdaptiveMano
