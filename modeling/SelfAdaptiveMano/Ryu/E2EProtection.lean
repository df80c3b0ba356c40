import SelfAdaptiveMano.Library.Machine
import SelfAdaptiveMano.Library.Python
import SelfAdaptiveMano.Mapping.FrrPathIDAllocator
import SelfAdaptiveMano.Sff.StageAddress

/-!
# End-to-end protection

The routing application `E2EProtection` installs the primary path of an SFCI with
one priority and its backup paths with a lower one. When a node or a link fails it
looks for the primary paths that contain it, and raises the priority of the entries
of their backup paths.

The entries are kept under the SFCI and the path ID. All backup paths of a
direction have the path ID after that of the primary path.
-/

namespace SelfAdaptiveMano.Ryu

open Library
open Mapping (LayerNode)
open Sff (getPathID getSFCIStageDstIP)

def PRIMARY_ENTRY_PRIORITY : Nat := 3
def LOWER_BACKUP_ENTRY_PRIORITY : Nat := 0
def UPPER_BACKUP_ENTRY_PRIORITY : Nat := 5

def MAIN_TABLE : Nat := 0
def SERVERID_OFFSET : Nat := 10001

structure MatchFields where
  in_port : Nat
  ipv4_dst : Nat
  deriving DecidableEq, Repr

/-- Both MAC addresses are set, and the packet leaves through the port. -/
structure Actions where
  eth_src : Nat
  eth_dst : Nat
  port : Nat
  deriving DecidableEq, Repr

structure FlowTableEntry where
  tableID : Nat
  matchFields : MatchFields
  priority : Nat
  actions : Actions
  deriving DecidableEq, Repr

/-- What the application sends to a switch. -/
inductive FlowMod where
  | _add_flow (matchFields : MatchFields) (actions : Actions)
      (table_id priority : Nat)
  | _del_flow (matchFields : MatchFields) (table_id priority outPort : Nat)
  deriving DecidableEq, Repr

/-- An SFCI with its forwarding paths by path ID. The keys of the backup paths of a
direction are not read. -/
structure SFCI extends Sff.SFCI where
  primaryForwardingPath : Dict Nat Mapping.ForwardingPath
  backupForwardingPath : Dict Nat (List Mapping.ForwardingPath)

/-- The switches that are connected, and what the other applications find out about
the ports on the way of an SFCI: the port towards the previous node, and the MAC
addresses and the port towards the next one. -/
structure Network where
  dpset : Nat → Bool
  getInputPortOfDstNode : SFCI → Nat → Nat → Nat → Except PyError Nat
  getNextHopActionFields :
    SFCI → Nat → Nat → Nat → Except PyError (Nat × Nat × Option Nat)

/-- The entries of each SFCI and path ID by switch, the SFCIs, and the messages that
were sent. -/
structure E2EProtection where
  sfciRIB : Dict (Nat × Nat) (Dict Nat (List FlowTableEntry))
  sfciDict : Dict Nat SFCI
  sent : List (Nat × FlowMod)

namespace E2EProtection

def init : E2EProtection := ⟨.empty, .empty, []⟩

/-! ## Installation -/

def addSFCIE2EPFlowTableEntry (e : E2EProtection) (sfciID pathID dpid : Nat)
    (newEntry : FlowTableEntry) : E2EProtection :=
  let entries := (e.sfciRIB.get? (sfciID, pathID)).getD .empty
  let entryList := (entries.get? dpid).getD []
  { e with
    sfciRIB := e.sfciRIB.set (sfciID, pathID)
      (entries.set dpid (entryList ++ [newEntry])) }

def addSFCI (e : E2EProtection) (sfci : SFCI) : E2EProtection :=
  { e with sfciDict := e.sfciDict.set sfci.sfciID sfci }

def sendMsg (dpid : Nat) (mods : List FlowMod) : PyM E2EProtection Unit :=
  modify fun e => { e with sent := e.sent ++ mods.map fun mod => (dpid, mod) }

def _addE2EPSFCIFlowtable (net : Network) (currentDpid nextDpid : Nat)
    (sfci : SFCI) (directionID pathID inPortIndex dstIP priority : Nat) :
    PyM E2EProtection Unit := do
  if net.dpset currentDpid = false then throw .attributeError
  let matchFields : MatchFields := ⟨inPortIndex, dstIP⟩
  let (srcMAC, dstMAC, defaultOutPort) ← .ofExcept
    (net.getNextHopActionFields sfci directionID currentDpid nextDpid)
  let port ← .ofOption (.valueError "E2EProtection: can not get default out port")
    defaultOutPort
  let actions : Actions := ⟨srcMAC, dstMAC, port⟩
  sendMsg currentDpid [._add_flow matchFields actions MAIN_TABLE priority]
  modify fun e => e.addSFCIE2EPFlowTableEntry sfci.sfciID pathID currentDpid
    ⟨MAIN_TABLE, matchFields, priority, actions⟩

def _isInnerNFVISegPath : List LayerNode → Bool
  | [first, second, third] => SERVERID_OFFSET ≤ first.2 ∧
      second.2 < SERVERID_OFFSET ∧ SERVERID_OFFSET ≤ third.2
  | _ => false

/-- An entry for each node of a segment but for both ends. -/
def addSegPath (net : Network) (sfci : SFCI) (directionID pathID dstIP priority : Nat)
    (segPath : List LayerNode) : PyM E2EProtection Unit :=
  (pyRange 1 (segPath.length - 1) 1).forM fun i => do
    let prevNode ← .ofExcept (itemAt segPath (i - 1))
    let currentSwitch ← .ofExcept (itemAt segPath i)
    let inPortIndex ← .ofExcept (net.getInputPortOfDstNode sfci directionID
      prevNode.2 currentSwitch.2)
    let nextNode ← .ofExcept (itemAt segPath (i + 1))
    _addE2EPSFCIFlowtable net currentSwitch.2 nextNode.2 sfci directionID pathID
      inPortIndex dstIP priority

def _getPrimaryPath (sfci : SFCI) (primaryPathID : Nat) : Option Mapping.ForwardingPath :=
  sfci.primaryForwardingPath.get? primaryPathID

def _getBackupPaths (sfci : SFCI) (primaryPathID : Nat) :
    Option (List Mapping.ForwardingPath) :=
  sfci.backupForwardingPath.get? primaryPathID

def _installPrimaryPath (net : Network) (sfci : SFCI) (directionID : Nat) :
    PyM E2EProtection Unit := do
  let primaryPathID := getPathID directionID
  let primaryFP ← .ofOption .typeError (_getPrimaryPath sfci primaryPathID)
  primaryFP.zipIdx.forM fun (segPath, stageCount) => do
    if _isInnerNFVISegPath segPath then return
    let dstIP ← .ofExcept (getSFCIStageDstIP sfci.toSFCI stageCount primaryPathID)
    let _srcServer ← .ofExcept (itemAt segPath 0)
    let _dstServer ← .ofExcept (itemFromEnd segPath 1)
    addSegPath net sfci directionID primaryPathID dstIP PRIMARY_ENTRY_PRIORITY segPath

def _installBackupPaths (net : Network) (sfci : SFCI) (directionID : Nat) :
    PyM E2EProtection Unit := do
  let primaryPathID := getPathID directionID
  let backupFPs ← .ofOption .attributeError (_getBackupPaths sfci primaryPathID)
  backupFPs.forM fun backupPath =>
    backupPath.zipIdx.forM fun (segPath, stageCount) => do
      if _isInnerNFVISegPath segPath then return
      let dstIP ← .ofExcept (getSFCIStageDstIP sfci.toSFCI stageCount primaryPathID)
      addSegPath net sfci directionID (primaryPathID + 1) dstIP
        LOWER_BACKUP_ENTRY_PRIORITY segPath

def _addSFCIRoute (net : Network) (directionIDs : List Nat) (sfci : SFCI) :
    PyM E2EProtection Unit :=
  directionIDs.forM fun directionID => do
    _installPrimaryPath net sfci directionID
    _installBackupPaths net sfci directionID

def _addSFCIHandler (net : Network) (directionIDs : List Nat) (sfci : SFCI) :
    PyM E2EProtection Unit := do
  _addSFCIRoute net directionIDs sfci
  modify fun e => e.addSFCI sfci

/-! ## Failures -/

/-- The inner loop ends with `else: return False`, so that no segment after the
first one is searched. -/
def _isPathHasFailureNodeID : Mapping.ForwardingPath → Nat → Bool
  | [], _ => false
  | segPath :: _, failureNodeID =>
      segPath.any fun layerNodeID => layerNodeID.2 == failureNodeID

def _isPathHasFailureLinkID : Mapping.ForwardingPath → Nat × Nat → Bool
  | [], _ => false
  | segPath :: _, failureLinkID =>
      (segPath.zip segPath.tail).any fun (current, next) =>
        (current.2, next.2) == failureLinkID || (next.2, current.2) == failureLinkID

/-- A direction without backup paths is not looked at. -/
def affectedDirection (has : Mapping.ForwardingPath → Bool) (sfciID : Nat) (sfci : SFCI)
    (directionID : Nat) : Option (Nat × Nat) :=
  let primaryPathID := getPathID directionID
  match _getPrimaryPath sfci primaryPathID, _getBackupPaths sfci primaryPathID with
  | some primaryFP, some _ =>
      if has primaryFP then some (sfciID, primaryPathID) else none
  | _, _ => none

def affectedSFCIIDList (e : E2EProtection) (has : Mapping.ForwardingPath → Bool) :
    List (Nat × Nat) :=
  e.sfciDict.items.flatMap fun (sfciID, sfci) =>
    [0, 1].filterMap (affectedDirection has sfciID sfci)

def _getAffectedSFCIIDListByFailureNodeID (e : E2EProtection) (failureNodeID : Nat) :
    List (Nat × Nat) :=
  e.affectedSFCIIDList fun fp => _isPathHasFailureNodeID fp failureNodeID

def _getAffectedSFCIIDListByFailureLinkID (e : E2EProtection)
    (failureLinkID : Nat × Nat) : List (Nat × Nat) :=
  e.affectedSFCIIDList fun fp => _isPathHasFailureLinkID fp failureLinkID

def raiseMods (entry : FlowTableEntry) : List FlowMod :=
  if entry.priority = LOWER_BACKUP_ENTRY_PRIORITY then
    [._del_flow entry.matchFields entry.tableID entry.priority entry.actions.port,
      ._add_flow entry.matchFields entry.actions entry.tableID
        UPPER_BACKUP_ENTRY_PRIORITY]
  else []

def raisePriority (entry : FlowTableEntry) : FlowTableEntry :=
  if entry.priority = LOWER_BACKUP_ENTRY_PRIORITY then
    { entry with priority := UPPER_BACKUP_ENTRY_PRIORITY }
  else entry

/-- The entries of a switch. The first one raises when the switch is not
connected. -/
def increaseEntries (dpset : Nat → Bool) (sfciID backupPathID dpid : Nat)
    (entryList : List FlowTableEntry) : PyM E2EProtection Unit := do
  if entryList = [] then return
  if dpset dpid = false then throw .attributeError
  sendMsg dpid (entryList.flatMap raiseMods)
  modify fun e => { e with
    sfciRIB := e.sfciRIB.modify (sfciID, backupPathID) fun entries =>
      entries.modify dpid fun entryList => entryList.map raisePriority }

def _increaseSFCIBackupPathPriority (dpset : Nat → Bool) (sfciID backupPathID : Nat) :
    PyM E2EProtection Unit := do
  let e ← get
  let dpidFIBEntryDict ← .ofOption .keyError (e.sfciRIB.get? (sfciID, backupPathID))
  dpidFIBEntryDict.items.forM fun (dpid, entryList) =>
    increaseEntries dpset sfciID backupPathID dpid entryList

def increaseAll (dpset : Nat → Bool) (affectedSFCIIDList : List (Nat × Nat)) :
    PyM E2EProtection Unit :=
  affectedSFCIIDList.forM fun (sfciID, primaryPathID) =>
    _increaseSFCIBackupPathPriority dpset sfciID (primaryPathID + 1)

def _e2eProtectionHandleNodeFailure (dpset : Nat → Bool) (nodeID : Nat) :
    PyM E2EProtection Unit := do
  let e ← get
  increaseAll dpset (e._getAffectedSFCIIDListByFailureNodeID nodeID)

def _e2eProtectionHandleLinkFailure (dpset : Nat → Bool) (linkID : Nat × Nat) :
    PyM E2EProtection Unit := do
  let e ← get
  increaseAll dpset (e._getAffectedSFCIIDListByFailureLinkID linkID)

def _tackleServerFailure (dpset : Nat → Bool) (serverIDs : List Nat) :
    PyM E2EProtection Unit :=
  serverIDs.forM (_e2eProtectionHandleNodeFailure dpset)

/-! ## Runs -/

inductive Event where
  | addSFCI (net : Network) (directionIDs : List Nat) (sfci : SFCI)
  | switchLeave (dpset : Nat → Bool) (switchID : Nat)
  | linkDelete (dpset : Nat → Bool) (linkID : Nat × Nat)
  | serverDown (dpset : Nat → Bool) (serverIDs : List Nat)

def handle : Event → PyM E2EProtection Unit
  | .addSFCI net directionIDs sfci => _addSFCIHandler net directionIDs sfci
  | .switchLeave dpset switchID => _e2eProtectionHandleNodeFailure dpset switchID
  | .linkDelete dpset linkID => _e2eProtectionHandleLinkFailure dpset linkID
  | .serverDown dpset serverIDs => _tackleServerFailure dpset serverIDs

def machine : Machine E2EProtection Event where
  init e := e = init
  admits _ _ := True
  step e event := (handle event).finalState e

end E2EProtection

end SelfAdaptiveMano.Ryu
