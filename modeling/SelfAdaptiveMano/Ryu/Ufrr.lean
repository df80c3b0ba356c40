import SelfAdaptiveMano.Ryu.E2EProtection
import SelfAdaptiveMano.Ufrr.GeneratedAddress

/-!
# The routing application of UFRR

`UFRR` installs a flow entry for each switch on the paths of an SFCI, on the input
port and the destination address of the stage. The entries of a primary path go to
fast-failover groups: the first bucket leads on along the path; the second one
changes the address to that of a backup path whose repair switch is here and whose
failed node is the next one.
-/

namespace SelfAdaptiveMano.Ryu

open Library
open Mapping (LayerNode)
open Sff (getPathID getSFCIStageDstIP)

/-- The keys of backup paths, as `MMLPSFC`, `NotVia` and `MMLBSFC` write them. -/
inductive FrrKey where
  | failureNPoPID (vnfLayerNum bp Xp : Nat)
  | failureLayerNodeID (failureLayerNodeID repairLayerSwitchID
      mergeLayerSwitchID : LayerNode) (newPathID : Nat)
  | failureNodeID (failureNodeID repairSwitchID newPathID : Nat)
  | failureLinkID (failureLinkID : Nat × Nat) (repairSwitchID newPathID : Nat)
  deriving DecidableEq, Repr

/-- `CURRENT_ENV`. -/
inductive Environment where
  | mininet
  | pica8
  | pica8AS4610
  | pica8P3922
  deriving DecidableEq, Repr

/-- What the other applications know about the switches: whether a switch is
connected, the hardware addresses at the ends of a link, the port of a switch towards
another one or towards an address in its network, and the hardware address of a
port. -/
structure Topology where
  dpset : Nat → Bool
  links : Nat × Nat → Option (Nat × Nat)
  getLocalPortByPeerPort : Nat → Nat → Option Nat
  _getPortbyIP : Nat → Nat → Option Nat
  getMacByLocalPort : Nat → Option Nat → Option Nat

structure Direction where
  ID : Nat
  ingress : Sff.Server
  egress : Sff.Server

namespace UFRR

structure SFCI extends Sff.SFCI where
  primaryForwardingPath : Dict Nat Mapping.ForwardingPath
  backupForwardingPath : Dict Nat (Dict FrrKey Mapping.ForwardingPath)

structure UfrrMatch where
  in_port : Option Nat
  ipv4_dst : Nat
  deriving DecidableEq, Repr

/-- Where a packet goes: new MAC addresses, a new destination address, if any, and a
port, which is also the one that a bucket watches. -/
structure Output where
  eth_src : Option Nat
  eth_dst : Nat
  ipv4_dst : Option Nat
  port : Option Nat
  deriving DecidableEq, Repr

inductive Instruction where
  | group (groupID : Nat)
  | output (output : Output)
  deriving DecidableEq, Repr

end UFRR

/-- The group IDs that were given, the entries that the information base knows, the
calls of `addSFCIUFRRFlowTableEntry`, and the flow and group tables of the
switches. -/
structure UFRR where
  groupIDSets : Dict Nat (List Nat)
  picaSwitch1 : Nat
  picaSwitch2 : Nat
  sfciRIB : Dict Nat (Dict Nat (List Nat))
  entries : List SelfAdaptiveMano.FlowTableEntry
  flows : Dict (Nat × UFRR.UfrrMatch) UFRR.Instruction
  groups : Dict (Nat × Nat) (List UFRR.Output)

namespace UFRR

/-! ## Group IDs -/

def assignPicaSwitch1 : PyM UFRR Nat := do
  let u ← get
  set { u with picaSwitch1 := u.picaSwitch1 + 1 }
  return u.picaSwitch1 + 1

def assignPicaSwitch2 : PyM UFRR Nat := do
  let u ← get
  set { u with picaSwitch2 := u.picaSwitch2 + 1 }
  return u.picaSwitch2 + 1

/-- On a physical switch with several bridges the IDs are given for the switch. -/
def assignGroupID (env : Environment) (dpid : Nat) : PyM UFRR Nat :=
  match env with
  | .pica8 => assignPicaSwitch1
  | .mininet => do
      let u ← get
      match u.groupIDSets.get? dpid with
      | none =>
          set { u with groupIDSets := u.groupIDSets.set dpid [0] }
          return 0
      | some ids =>
          let groupID := Sff.genAvailableMiniNum4List ids
          let sorted := ids.insertionSort (· ≤ ·)
          set { u with groupIDSets := u.groupIDSets.set dpid (sorted ++ [groupID]) }
          return groupID
  | .pica8AS4610 =>
      if dpid ∈ [1, 5, 6] then assignPicaSwitch1
      else if dpid ∈ [2, 3, 4] then assignPicaSwitch2
      else throw (.valueError ("Unknown dpid " ++ toString dpid))
  | .pica8P3922 => assignPicaSwitch1

/-! ## Ports and addresses -/

def serverOf (serverID : Nat) (vnfi : Sff.VNFI) : Option Sff.Server :=
  match vnfi.node with
  | .server server => if server.serverID = serverID then some server else none
  | .switch => none

def getServerByServerID (sfci : SFCI) (direction : Direction) (serverID : Nat) :
    Option Sff.Server :=
  match sfci.vnfiSequence.flatten.findSome? (serverOf serverID) with
  | some server => some server
  | none =>
      if direction.ingress.serverID = serverID then some direction.ingress
      else if direction.egress.serverID = serverID then some direction.egress
      else none

section Installation

variable (topo : Topology) (env : Environment) (sfci : SFCI) (direction : Direction)

/-- `_getPortbyIP` on the datapath of a switch. -/
def portToServer (dpid serverIP : Nat) : Except PyError (Option Nat) :=
  if topo.dpset dpid then .ok (topo._getPortbyIP dpid serverIP)
  else .error .attributeError

/-- The source and the destination MAC address, and the port. -/
def _getNextHopActionFields (currentDpid nextDpid : Nat) :
    Except PyError (Option Nat × Nat × Option Nat) :=
  if nextDpid < SERVERID_OFFSET then
    match topo.links (currentDpid, nextDpid) with
    | some (srcMAC, dstMAC) =>
        .ok (some srcMAC, dstMAC, topo.getLocalPortByPeerPort currentDpid nextDpid)
    | none => .error .keyError
  else
    match getServerByServerID sfci direction nextDpid with
    | some server => do
        let defaultOutPort ← portToServer topo currentDpid server.datapathNICIP
        return (topo.getMacByLocalPort currentDpid defaultOutPort,
          server.datapathNICMac, defaultOutPort)
    | none => .error .attributeError

/-- The port of the node `nextDpid` towards `currentDpid`. -/
def _getInputPortOfDstNode (currentDpid nextDpid : Nat) :
    Except PyError (Option Nat) :=
  if currentDpid < SERVERID_OFFSET then
    .ok (topo.getLocalPortByPeerPort nextDpid currentDpid)
  else
    match getServerByServerID sfci direction currentDpid with
    | some server => portToServer topo nextDpid server.datapathNICIP
    | none => .error .attributeError

/-! ## Backup paths -/

def _getPrimaryPath (primaryPathID : Nat) : Option Mapping.ForwardingPath :=
  sfci.primaryForwardingPath.get? primaryPathID

def _getBackupPaths (primaryPathID : Nat) : Option (Dict FrrKey Mapping.ForwardingPath) :=
  sfci.backupForwardingPath.get? primaryPathID

def _isThisBackupPathProtectsNextHop (key : FrrKey)
    (currentDpid nextDpid stageCount : Nat) : Except PyError Bool :=
  match key with
  | .failureNPoPID .. => .ok false
  | .failureLayerNodeID failure repair _ _ =>
      .ok (decide (currentDpid = repair.2 ∧ nextDpid = failure.2 ∧
        stageCount = repair.1))
  | .failureNodeID failureNodeID repairSwitchID _ =>
      .ok (decide (currentDpid = repairSwitchID ∧ nextDpid = failureNodeID))
  | .failureLinkID .. => .error (.valueError "Please implement link protection")

/-- The loop of `_getBackupNextHop` over the keys. -/
def backupNextHopIn (backupPaths : Dict FrrKey Mapping.ForwardingPath)
    (currentDpid nextDpid stageCount : Nat) :
    List FrrKey → Except PyError (Option Nat)
  | [] => .ok none
  | key :: keys => do
      if ← _isThisBackupPathProtectsNextHop key currentDpid nextDpid stageCount then
        match backupPaths.get? key with
        | some backupPath =>
            let segPath ← itemAt backupPath 0
            let layerNode ← itemAt segPath 1
            return some layerNode.2
        | none => .error .keyError
      else backupNextHopIn backupPaths currentDpid nextDpid stageCount keys

def _getBackupNextHop (currentDpid nextDpid stageCount : Nat) :
    Except PyError (Option Nat) :=
  match _getBackupPaths sfci (getPathID direction.ID) with
  | some backupPaths =>
      backupNextHopIn backupPaths currentDpid nextDpid stageCount backupPaths.keys
  | none => .error .attributeError

/-- The key of `MMLPSFC` has no switch: `False` cannot be unpacked. -/
def _getRepairSwitchIDAndFailureNodeIDAndNewPathIDFromKey :
    FrrKey → Except PyError (Nat × Nat × Nat)
  | .failureNPoPID .. => .error .typeError
  | .failureLayerNodeID failure repair _ newPathID =>
      .ok (repair.2, failure.2, newPathID)
  | .failureNodeID failureNodeID repairSwitchID newPathID =>
      .ok (repairSwitchID, failureNodeID, newPathID)
  | .failureLinkID .. => .error (.valueError "Please implement link protection")

/-- The loop of `_getNewDstIP` over the keys; the stage of a key is not read. -/
def newPathIDIn (currentDpid nextDpid : Nat) :
    List FrrKey → Except PyError (Option Nat)
  | [] => .ok none
  | key :: keys => do
      let (repairSwitchID, failureNodeID, newPathID) ←
        _getRepairSwitchIDAndFailureNodeIDAndNewPathIDFromKey key
      if repairSwitchID = currentDpid ∧ failureNodeID = nextDpid then
        return some newPathID
      else newPathIDIn currentDpid nextDpid keys

def _getNewDstIP (currentDpid nextDpid stageCount : Nat) :
    Except PyError (Option Nat) :=
  match _getBackupPaths sfci (getPathID direction.ID) with
  | some backupPaths => do
      match ← newPathIDIn currentDpid nextDpid backupPaths.keys with
      | some newPathID =>
          some <$> getSFCIStageDstIP sfci.toSFCI stageCount newPathID
      | none => return none
  | none => .error .attributeError

/-! ## Entries -/

def _canSkipPrimaryPathFlowInstallation (u : UFRR) (sfciID dstIP
    currentSwitchID : Nat) : Bool :=
  match (u.sfciRIB.get? sfciID).bind fun entries => entries.get? currentSwitchID with
  | some dstIPs => dstIPs.contains dstIP
  | none => false

def requireConnected (dpid : Nat) : Except PyError Unit :=
  if topo.dpset dpid then .ok () else .error .attributeError

/-- A group that is there already is not replaced. -/
def addGroup (dpid groupID : Nat) (buckets : List Output) (u : UFRR) : UFRR :=
  if u.groups.contains (dpid, groupID) then u
  else { u with groups := u.groups.set (dpid, groupID) buckets }

def _add_flow (dpid : Nat) (fields : UfrrMatch) (instruction : Instruction)
    (u : UFRR) : UFRR :=
  { u with flows := u.flows.set (dpid, fields) instruction }

def defaultBucket (currentDpid nextDpid : Nat) : Except PyError Output := do
  let (srcMAC, dstMAC, defaultOutPort) ←
    _getNextHopActionFields topo sfci direction currentDpid nextDpid
  match defaultOutPort with
  | some port => return ⟨srcMAC, dstMAC, none, some port⟩
  | none => .error (.valueError "UFRR: can not get default out port")

def backupBuckets (currentDpid nextDpid stageCount : Nat) :
    Except PyError (List Output) := do
  match ← _getBackupNextHop sfci direction currentDpid nextDpid stageCount with
  | some backupnextDpid =>
      let newDstIP ← _getNewDstIP sfci direction currentDpid nextDpid stageCount
      let (srcMAC, dstMAC, backupOutPort) ←
        _getNextHopActionFields topo sfci direction currentDpid backupnextDpid
      return [⟨srcMAC, dstMAC, newDstIP, backupOutPort⟩]
  | none => return []

def _addUFRRSFCIGroupTable (currentDpid nextDpid stageCount groupID : Nat) :
    PyM UFRR Unit := do
  PyM.ofExcept (requireConnected topo currentDpid)
  let bucket ← PyM.ofExcept (defaultBucket topo sfci direction currentDpid nextDpid)
  let buckets ← PyM.ofExcept
    (backupBuckets topo sfci direction currentDpid nextDpid stageCount)
  modify (addGroup currentDpid groupID (bucket :: buckets))

/-- The call of `addSFCIUFRRFlowTableEntry` behind a message. -/
def addEntry (dpid stageCount pathID : Nat) (actions : SelfAdaptiveMano.Actions) :
    PyM UFRR Unit := do
  let vnfID ← PyM.ofExcept (sfci.getVNFTypeByStageNum stageCount)
  modify fun u => { u with
    entries := u.entries ++ [⟨dpid, sfci.sfciID, vnfID, pathID, actions, 0⟩] }

def _addUFRRSFCIFlowtable (currentDpid stageCount pathID : Nat)
    (inPortIndex : Option Nat) (dstIP groupID : Nat) : PyM UFRR Unit := do
  PyM.ofExcept (requireConnected topo currentDpid)
  modify (_add_flow currentDpid ⟨inPortIndex, dstIP⟩ (.group groupID))
  addEntry sfci currentDpid stageCount pathID (.gotoGroup groupID)

def _installRouteOnBackupPath (currentDpid nextDpid : Nat)
    (inPortIndex : Option Nat) (dstIP pathID stageCount : Nat) :
    PyM UFRR Unit := do
  PyM.ofExcept (requireConnected topo currentDpid)
  let bucket ← PyM.ofExcept (defaultBucket topo sfci direction currentDpid nextDpid)
  modify (_add_flow currentDpid ⟨inPortIndex, dstIP⟩ (.output bucket))
  addEntry sfci currentDpid stageCount pathID (.outputNodeID nextDpid)

/-! ## Paths -/

def installPrimaryHop (stageCount primaryPathID dstIP : Nat)
    (segPath : List LayerNode) (i : Nat) : PyM UFRR Unit := do
  let prevNode ← PyM.ofExcept (itemAt segPath (i - 1))
  let currentSwitch ← PyM.ofExcept (itemAt segPath i)
  let inPortIndex ← PyM.ofExcept
    (_getInputPortOfDstNode topo sfci direction prevNode.2 currentSwitch.2)
  let groupID ← assignGroupID env currentSwitch.2
  let nextNode ← PyM.ofExcept (itemAt segPath (i + 1))
  let u ← get
  if _canSkipPrimaryPathFlowInstallation u sfci.sfciID dstIP currentSwitch.2 then
    pure ()
  else do
    _addUFRRSFCIGroupTable topo sfci direction currentSwitch.2 nextNode.2 stageCount
      groupID
    _addUFRRSFCIFlowtable topo sfci currentSwitch.2 stageCount primaryPathID
      inPortIndex dstIP groupID

def installPrimarySegPath (primaryPathID : Nat) (segPath : List LayerNode)
    (stageCount : Nat) : PyM UFRR Unit :=
  if E2EProtection._isInnerNFVISegPath segPath then pure ()
  else do
    let dstIP ← PyM.ofExcept
      (getSFCIStageDstIP sfci.toSFCI stageCount primaryPathID)
    let _srcServer ← PyM.ofExcept (itemAt segPath 0)
    let _dstServer ← PyM.ofExcept (itemFromEnd segPath 1)
    (pyRange 1 (segPath.length - 1) 1).forM
      (installPrimaryHop topo env sfci direction stageCount primaryPathID dstIP
        segPath)

def _installPrimaryPath : PyM UFRR Unit := do
  let primaryPathID := getPathID direction.ID
  let primaryFP ← PyM.ofOption .typeError (_getPrimaryPath sfci primaryPathID)
  primaryFP.zipIdx.forM fun (segPath, stageCount) =>
    installPrimarySegPath topo env sfci direction primaryPathID segPath stageCount

def _getNewPathIDFromKey : FrrKey → Except PyError Nat
  | .failureNPoPID .. => .error (.valueError "Unknown key")
  | .failureLayerNodeID _ _ _ newPathID => .ok newPathID
  | .failureNodeID _ _ newPathID => .ok newPathID
  | .failureLinkID _ _ newPathID => .ok newPathID

def installBackupHop (stageCount pathID dstIP : Nat) (segPath : List LayerNode)
    (i : Nat) : PyM UFRR Unit := do
  let prevNode ← PyM.ofExcept (itemAt segPath (i - 1))
  let currentSwitch ← PyM.ofExcept (itemAt segPath i)
  let nextNode ← PyM.ofExcept (itemAt segPath (i + 1))
  let inPortIndex ← PyM.ofExcept
    (_getInputPortOfDstNode topo sfci direction prevNode.2 currentSwitch.2)
  _installRouteOnBackupPath topo sfci direction currentSwitch.2 nextNode.2
    inPortIndex dstIP pathID stageCount

/-- The stages of a backup path are the last ones of the chain. A path with more
stages has no type for the first ones. -/
def backupStage (fpLength i : Nat) : Except PyError Nat :=
  if fpLength ≤ sfci.vnfiSequence.length + 1 + i then
    .ok (sfci.vnfiSequence.length + 1 + i - fpLength)
  else .error (.valueError ("Invalid stageNum:" ++
    toString ((sfci.vnfiSequence.length : Int) + 1 + i - fpLength)))

def installBackupSegPath (pathID fpLength : Nat) (segPath : List LayerNode)
    (i : Nat) : PyM UFRR Unit :=
  if E2EProtection._isInnerNFVISegPath segPath then pure ()
  else do
    let stageCount ← PyM.ofExcept (backupStage sfci fpLength i)
    let dstIP ← PyM.ofExcept (getSFCIStageDstIP sfci.toSFCI stageCount pathID)
    (pyRange 1 (segPath.length - 1) 1).forM
      (installBackupHop topo sfci direction stageCount pathID dstIP segPath)

def installBackupPath (key : FrrKey) (backupPath : Mapping.ForwardingPath) :
    PyM UFRR Unit := do
  let pathID ← PyM.ofExcept (_getNewPathIDFromKey key)
  backupPath.zipIdx.forM fun (segPath, i) =>
    installBackupSegPath topo sfci direction pathID backupPath.length segPath i

def _installBackupPaths : PyM UFRR Unit := do
  let backupFPs ← PyM.ofOption .attributeError
    (_getBackupPaths sfci (getPathID direction.ID))
  backupFPs.items.forM fun (key, backupPath) =>
    installBackupPath topo sfci direction key backupPath

end Installation

def _addSFCIRoute (topo : Topology) (env : Environment) (directions : List Direction)
    (sfci : SFCI) : PyM UFRR Unit :=
  directions.forM fun direction => do
    _installPrimaryPath topo env sfci direction
    _installBackupPaths topo sfci direction

end UFRR

end SelfAdaptiveMano.Ryu
