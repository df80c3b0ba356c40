import SelfAdaptiveMano.Simulator.InfoBase
import SelfAdaptiveMano.VnfController.VnfController

/-!
# The command handlers of the simulator

An SFCI is checked against the data centre first (`checkAddSFCI`, which only
reads), and then written hop by hop. What the checks do not cover can still stop
the addition in the middle: the TCAM of a switch, and the values that the
bandwidth of the flows is computed from. A deletion has no checks before it.

The simulator runs under both versions of Python; `py3` tells them apart where
they differ, in the division of the number of top-of-rack switches and in the
loop over a dictionary that shrinks meanwhile.
-/

namespace SelfAdaptiveMano.Simulator

open Library

def DIRECTION0_PATHID_OFFSET : Nat := 1
def DIRECTION1_PATHID_OFFSET : Nat := 128

structure SimCommand where
  cmdType : CmdType
  sfc : SFC
  sfci : SFCI

/-- `nodeID < len(sib.torPaths) / 2`. -/
def belowCoreNum (py3 : Bool) (nodeID torNum : Nat) : Bool :=
  if py3 then 2 * nodeID < torNum else nodeID < torNum / 2

/-- The check of an ingress or egress in `check_sfc`. -/
def checkGate (py3 : Bool) (sib : Sib) : Node → Except PyError Unit
  | .server nodeID => pyAssert (sib.servers.get? nodeID == some .classifier)
  | .switch nodeID programmable switchType => do
      pyAssert (programmable && switchType == .dcnGateway)
      pyAssert (sib.switches.contains nodeID &&
        belowCoreNum py3 nodeID sib.torNum)
  | .other => throw (.valueError "ingress/egress node is neither server nor switch")

def check_sfc (py3 : Bool) (sib : Sib) (sfc : SFC) : Except PyError Unit := do
  pyAssert (sfc.directions.length == 1 || sfc.directions.length == 2)
  pyAssert (sfc.directions.map Direction.ID == List.range sfc.directions.length)
  sfc.directions.forM fun direction => do
    checkGate py3 sib direction.ingress
    checkGate py3 sib direction.egress

def checkStage (sib : Sib) (vnfiSeqStage : List VNFI) : Except PyError Unit := do
  pyAssert (vnfiSeqStage.length == 1)
  let vnfi ← itemAt vnfiSeqStage 0
  match vnfi.node with
  | .server nodeID => pyAssert (sib.servers.get? nodeID == some .nfvi)
  | .switch nodeID programmable _ => do
      pyAssert programmable
      pyAssert (sib.switches.contains nodeID)
  | .other => throw (.valueError "vnfi node is neither server nor switch")

def pathlistOf (sfci : SFCI) (dirID : Nat) :
    Except PyError (List (List (Nat × Nat))) :=
  let get (pathID : Nat) :=
    match sfci.primaryForwardingPath.get? pathID with
    | some pathlist => .ok pathlist
    | none => .error .keyError
  if dirID = 0 then get DIRECTION0_PATHID_OFFSET
  else if dirID = 1 then get DIRECTION1_PATHID_OFFSET
  else .error (.valueError "unknown dirID")

def linksAt (sib : Sib) : Node → Option (Dict (Nat × Nat) LinkInfo × Nat)
  | .server nodeID => some (sib.serverLinks, nodeID)
  | .switch nodeID _ _ => some (sib.links, nodeID)
  | .other => none

def checkIngress (sib : Sib) (ingress : Node) (pathlist : List (List Nat)) :
    Except PyError Unit :=
  match linksAt sib ingress with
  | none => pure ()
  | some (links, ingressID) => do
      let path ← itemAt pathlist 0
      let first ← itemAt path 0
      pyAssert (ingressID == first)
      let second ← itemAt path 1
      pyAssert (links.contains (first, second))

def checkEgress (sib : Sib) (egress : Node) (pathlist : List (List Nat)) :
    Except PyError Unit :=
  match linksAt sib egress with
  | none => pure ()
  | some (links, egressID) => do
      let path ← itemFromEnd pathlist 1
      let last ← itemFromEnd path 1
      pyAssert (egressID == last)
      let before ← itemFromEnd path 2
      pyAssert (links.contains (before, last))

/-- Stage `i` ends at its VNFI and the next one starts there. -/
def checkVNFI (sib : Sib) (pathlist : List (List Nat)) (i : Nat)
    (vnfiSeqStage : List VNFI) : Except PyError Unit := do
  let vnfi ← itemAt vnfiSeqStage 0
  match linksAt sib vnfi.node with
  | none => throw .unboundLocalError
  | some (links, nodeID) => do
      let path ← itemAt pathlist i
      let last ← itemFromEnd path 1
      pyAssert (last == nodeID)
      let nextPath ← itemAt pathlist (i + 1)
      let first ← itemAt nextPath 0
      pyAssert (first == nodeID)
      let before ← itemFromEnd path 2
      pyAssert (before == last || links.contains (before, last))
      let second ← itemAt nextPath 1
      pyAssert (first == second || links.contains (first, second))

/-- The nodes between the ends of a path are switches, with links between
them. -/
def checkInner (sib : Sib) (path : List Nat) : Except PyError Unit := do
  let inner := path.tail.dropLast
  pyAssert (inner.all sib.switches.contains)
  pyAssert ((inner.zip inner.tail).all sib.links.contains)

def checkDirection (sib : Sib) (sfci : SFCI) (direction : Direction) :
    Except PyError Unit := do
  let pathlist ← pathlistOf sfci direction.ID
  pyAssert (pathlist.length == sfci.vnfiSequence.length + 1)
  let nodes := pathlist.map pathNodes
  checkIngress sib direction.ingress nodes
  checkEgress sib direction.egress nodes
  let stages := if direction.ID = 0 then sfci.vnfiSequence
    else sfci.vnfiSequence.reverse
  stages.zipIdx.forM fun (vnfiSeqStage, i) => checkVNFI sib nodes i vnfiSeqStage
  nodes.forM (checkInner sib)

/-- What `add_sfci_handler` checks before it writes anything. -/
def checkAddSFCI (py3 : Bool) (sib : Sib) (sfc : SFC) (sfci : SFCI) :
    Except PyError Unit := do
  check_sfc py3 sib sfc
  sfci.vnfiSequence.forM (checkStage sib)
  pyAssert (sfci.primaryForwardingPath.items.length == sfc.directions.length)
  sfc.directions.forM (checkDirection sib sfci)

def addVNFI (sfci : SFCI) (path : List (Nat × Nat)) (stage : Nat) :
    PyM Sib Unit := do
  let serverID ← PyM.ofExcept (itemFromEnd (pathNodes path) 1)
  let vnfi ← PyM.ofExcept (itemAt sfci.vnfiSequence stage >>= (itemAt · 0))
  modify fun sib => { sib with
    vnfis := sib.vnfis.set serverID ((sib.vnfis.get? serverID).getD [] ++
      [⟨sfci.sfciID, stage, vnfi, vnfi.maxCPUNum, vnfi.maxMem⟩]) }

def SwitchInfo.add (h : Hop) (switchInfo : SwitchInfo) : SwitchInfo :=
  { switchInfo with
    tcamUsage := switchInfo.tcamUsage + 1
    nextHop := switchInfo.nextHop.set h.key h.dst }

def LinkInfo.add (h : Hop) (linkInfo : LinkInfo) : LinkInfo :=
  ⟨insert h.key linkInfo.usedBy⟩

def takeTcam (h : Hop) : PyM Sib Unit := do
  let sib ← get
  match sib.switches.get? h.src with
  | none => pure ()
  | some switchInfo =>
      if switchInfo.tcamUsage ≥ switchInfo.tcamSize then
        throw (.valueError "no tcam available on switch %d")
      else
        set { sib with
          switches := sib.switches.set h.src (switchInfo.add h) }

def takeLink (h : Hop) : PyM Sib Unit := do
  let sib ← get
  match sib.serverLinks.get? (h.src, h.dst) with
  | some linkInfo =>
      set { sib with
        serverLinks := sib.serverLinks.set (h.src, h.dst) (linkInfo.add h) }
  | none =>
      match sib.links.get? (h.src, h.dst) with
      | some linkInfo =>
          set { sib with links := sib.links.set (h.src, h.dst) (linkInfo.add h) }
      | none => PyM.ofExcept (pyAssert (h.src == h.dst))

def addHop (h : Hop) : PyM Sib Unit := do
  takeTcam h
  takeLink h

def flowBandwidth (sfc : SFC) (sfci : SFCI) : Except PyError Nat :=
  match sfc.throughput with
  | none => .error .attributeError
  | some throughput =>
      sfci.vnfiSequence.flatten.foldlM (fun bw vnfi =>
        if vnfi.vnfType = VNF_TYPE_RATELIMITER then
          match vnfi.maxMbps with
          | some maxMbps => .ok (min bw maxMbps)
          | none => .error .attributeError
        else .ok bw) (throughput * 1024)

/-- `max(sib.flows.keys()) + 1`, or `0` when there is no flow. -/
def newTrafficID (flows : Dict Nat Flow) : Nat :=
  match flows.keys with
  | [] => 0
  | k :: ks => ks.foldl max k + 1

def SFCIInfo.addTraffic (dirID trafficID : Nat) (info : SFCIInfo) : SFCIInfo :=
  { info with
    traffics := info.traffics.modify dirID fun traffics =>
      traffics.insert trafficID }

def addFlow (sfc : SFC) (sfci : SFCI) (dirID : Nat) : PyM Sib Unit := do
  let bw ← PyM.ofExcept (flowBandwidth sfc sfci)
  modify fun sib =>
    let trafficID := newTrafficID sib.flows
    { sib with
      flows := sib.flows.set trafficID ⟨bw, sfci.sfciID, dirID⟩
      sfcis := sib.sfcis.modify sfci.sfciID (·.addTraffic dirID trafficID) }

def add_sfc_handler (py3 : Bool) (cmd : SimCommand) : PyM Sib Unit := do
  let sib ← get
  PyM.ofExcept (check_sfc py3 sib cmd.sfc)
  set { sib with sfcs := sib.sfcs.set cmd.sfc.sfcUUID cmd.sfc }

def storeSFCI (sfc : SFC) (sfci : SFCI) : PyM Sib Unit :=
  modify fun sib => { sib with
    sfcs := sib.sfcs.set sfc.sfcUUID sfc
    sfcis := sib.sfcis.set sfci.sfciID ⟨sfc, sfci,
      sfc.directions.foldl (fun d direction => d.set direction.ID [])
        Dict.empty⟩ }

/-- The VNFIs of all stages but the last, on the path of direction 0. -/
def addVNFIs (sfci : SFCI) : PyM Sib Unit := do
  let pathlist ← PyM.ofExcept (pathlistOf sfci 0)
  pathlist.dropLast.zipIdx.forM fun (path, stage) => addVNFI sfci path stage

def addHops (sfci : SFCI) (direction : Direction) : PyM Sib Unit := do
  let pathlist ← PyM.ofExcept (pathlistOf sfci direction.ID)
  (hopsOf sfci.sfciID direction.ID pathlist).forM addHop

def add_sfci_handler (py3 : Bool) (cmd : SimCommand) : PyM Sib Unit := do
  let sib ← get
  PyM.ofExcept (checkAddSFCI py3 sib cmd.sfc cmd.sfci)
  addVNFIs cmd.sfci
  cmd.sfc.directions.forM (addHops cmd.sfci)
  storeSFCI cmd.sfc cmd.sfci
  cmd.sfc.directions.forM fun direction => addFlow cmd.sfc cmd.sfci direction.ID

def VNFIInfo.isAt (sfciID stage : Nat) (info : VNFIInfo) : Bool :=
  info.sfciID == sfciID && info.stage == stage

/-- Whether an entry is that of the VNFI of type `vnfType` in a stage. -/
def VNFIInfo.isFor (sfciID stage vnfType : Nat) (info : VNFIInfo) : Bool :=
  info.isAt sfciID stage && info.vnfi.vnfType == vnfType

/-- `vnfiSequence[stage][0].vnfType`. -/
def vnfTypeAt (sfci : SFCI) (stage : Nat) : Except PyError Nat :=
  (itemAt sfci.vnfiSequence stage >>= (itemAt · 0)).map VNFI.vnfType

/-- The first entry for the VNFI of a stage is removed from the last node of its
path. The type of the VNFI is read only where there is an entry for the
stage. -/
def removeVNFI (sfci : SFCI) (path : List (Nat × Nat)) (stage : Nat) :
    PyM Sib Unit := do
  let serverID ← PyM.ofExcept (itemFromEnd (pathNodes path) 1)
  let sib ← get
  let vnfis ← PyM.ofOption .assertionError (sib.vnfis.get? serverID)
  if vnfis.any (VNFIInfo.isAt sfci.sfciID stage) then do
    let vnfType ← PyM.ofExcept (vnfTypeAt sfci stage)
    if vnfis.any (VNFIInfo.isFor sfci.sfciID stage vnfType) then
      set { sib with
        vnfis := sib.vnfis.set serverID
          (vnfis.eraseP (VNFIInfo.isFor sfci.sfciID stage vnfType)) }
    else throw (.valueError "no vnfi to remove on server %d vnfType %d")
  else throw (.valueError "no vnfi to remove on server %d vnfType %d")

def SwitchInfo.remove (h : Hop) (switchInfo : SwitchInfo) : SwitchInfo :=
  { switchInfo with
    tcamUsage := switchInfo.tcamUsage - 1
    nextHop := switchInfo.nextHop.erase h.key }

/-- The entry of a hop is removed from its switch. The usage goes down before
the entry is looked up. -/
def releaseTcam (h : Hop) : PyM Sib Unit := do
  let sib ← get
  match sib.switches.get? h.src with
  | none => pure ()
  | some switchInfo => do
      if switchInfo.tcamUsage = 0 then
        throw (.valueError "no tcam to release on switch %d")
      else
        set { sib with
          switches := sib.switches.set h.src
            { switchInfo with tcamUsage := switchInfo.tcamUsage - 1 } }
        if switchInfo.nextHop.contains h.key then
          set { sib with
            switches := sib.switches.set h.src (switchInfo.remove h) }
        else throw .keyError

def LinkInfo.remove (h : Hop) (linkInfo : LinkInfo) : LinkInfo :=
  ⟨linkInfo.usedBy.erase h.key⟩

def releaseLink (h : Hop) : PyM Sib Unit := do
  let sib ← get
  match sib.serverLinks.get? (h.src, h.dst) with
  | some linkInfo =>
      if h.key ∈ linkInfo.usedBy then
        set { sib with
          serverLinks := sib.serverLinks.set (h.src, h.dst)
            (linkInfo.remove h) }
      else throw .keyError
  | none =>
      match sib.links.get? (h.src, h.dst) with
      | some linkInfo =>
          if h.key ∈ linkInfo.usedBy then
            set { sib with
              links := sib.links.set (h.src, h.dst) (linkInfo.remove h) }
          else throw .keyError
      | none => PyM.ofExcept (pyAssert (h.src == h.dst))

def removeHop (h : Hop) : PyM Sib Unit := do
  releaseTcam h
  releaseLink h

def removeVNFIs (sfci : SFCI) (pathlist : List (List (Nat × Nat))) :
    PyM Sib Unit :=
  pathlist.dropLast.zipIdx.forM fun (path, stage) => removeVNFI sfci path stage

/-- The path of a direction; a direction with another id goes over the path of
the direction before it. -/
def pathlistFrom (sfci : SFCI) (previous : List (List (Nat × Nat)))
    (dirID : Nat) : Except PyError (List (List (Nat × Nat))) :=
  if dirID = 0 ∨ dirID = 1 then pathlistOf sfci dirID else .ok previous

def removeHops (sfci : SFCI) :
    List (List (Nat × Nat)) → List Direction → PyM Sib Unit
  | _, [] => pure ()
  | previous, direction :: directions => do
      let pathlist ← PyM.ofExcept (pathlistFrom sfci previous direction.ID)
      (hopsOf sfci.sfciID direction.ID pathlist).forM removeHop
      removeHops sfci pathlist directions

/-- `sib.flows.pop(trafficID)`. -/
def popFlow (trafficID : Nat) : PyM Sib Unit := do
  let sib ← get
  if sib.flows.contains trafficID then
    set { sib with flows := sib.flows.erase trafficID }
  else throw .keyError

def purge (sfciID : Nat) : PyM Sib Unit := do
  let sib ← get
  let info ← PyM.ofOption .keyError (sib.sfcis.get? sfciID)
  info.traffics.values.flatten.forM popFlow
  modify fun sib => { sib with sfcis := sib.sfcis.erase sfciID }

def remove_sfci (sfc : SFC) (sfci : SFCI) : PyM Sib Unit := do
  let _ ← PyM.ofExcept (itemAt sfc.directions 0)
  let pathlist ← PyM.ofExcept (pathlistOf sfci 0)
  removeVNFIs sfci pathlist
  removeHops sfci pathlist sfc.directions
  purge sfci.sfciID

def del_sfci_handler (cmd : SimCommand) : PyM Sib Unit :=
  remove_sfci cmd.sfc cmd.sfci

/-- The loop over `sib.sfcis.items()`: a list made beforehand in Python 2, the
dictionary itself in Python 3, where the loop cannot go on after a removal. -/
def removeMembers (py3 : Bool) (sfc : SFC) :
    List (Nat × SFCIInfo) → PyM Sib Unit
  | [] => pure ()
  | (_, sfciInfo) :: items =>
      if sfciInfo.sfc.sfcUUID = sfc.sfcUUID then do
        remove_sfci sfc sfciInfo.sfci
        if py3 then
          throw (.exception "dictionary changed size during iteration")
        else removeMembers py3 sfc items
      else removeMembers py3 sfc items

def del_sfc_handler (py3 : Bool) (cmd : SimCommand) : PyM Sib Unit := do
  let sib ← get
  removeMembers py3 cmd.sfc sib.sfcis.items
  let sib ← get
  if sib.sfcs.contains cmd.sfc.sfcUUID then
    set { sib with sfcs := sib.sfcs.erase cmd.sfc.sfcUUID }
  else throw .keyError

/-- `command_handler`; the other commands only read what is modelled here. -/
def command_handler (py3 : Bool) (cmd : SimCommand) : PyM Sib Unit :=
  match cmd.cmdType with
  | .addSFC => add_sfc_handler py3 cmd
  | .addSFCI => add_sfci_handler py3 cmd
  | .delSFCI => del_sfci_handler cmd
  | .delSFC => del_sfc_handler py3 cmd
  | _ => pure ()

end SelfAdaptiveMano.Simulator
