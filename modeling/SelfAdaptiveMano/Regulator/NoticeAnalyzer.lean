import SelfAdaptiveMano.Mapping.FrrPathIDAllocator
import SelfAdaptiveMano.Regulator.DetectionDataMaintainer
import SelfAdaptiveMano.Regulator.SFCRestorer

/-!
# The SFCIs that a notice is about

`NoticeAnalyzer` goes through the stored SFCIs of the zones in a notice. An SFCI
whose forwarding paths have a node or a link of the notice is affected; one that is
not `ACTIVE` is passed over, unless its last recovery has failed.

The backup paths of a direction are a dictionary, and the loop over it goes through
its keys. These name the failed element, the switch that repairs the path and the
new path ID, and are read as if they were the segments of a path.
-/

namespace SelfAdaptiveMano.Regulator

open Library
open Mapping (LayerNode)
open DetectionDataMaintainer (listIn)

inductive KeyValue where
  | int (n : Nat)
  | text (s : String)
  | pair (a b : Nat)
  | other
  deriving DecidableEq, Repr

abbrev BackupPathKey := List (String × KeyValue)

structure ForwardingPathSet where
  primaryForwardingPath : Dict Nat Mapping.ForwardingPath
  backupForwardingPath : Dict Nat (Dict BackupPathKey Mapping.ForwardingPath)

structure StoredObjects where
  forwardingPathSet : SFCI → ForwardingPathSet
  availability : SFC → ℚ

namespace NoticeAnalyzer

/-! ## The notice -/

def elementOf : KeyValue → Option ElementID
  | .int n => some (.node n)
  | .pair a b => some (.link a b)
  | _ => none

def linkOf : KeyValue → KeyValue → Option ElementID
  | .int a, .int b => some (.link a b)
  | _, _ => none

/-- `detectionDict[key][listType]` -/
def idListOf (detectionDict : DetectionDict) (key listType : DetectionKey) :
    Except PyError (List ElementID) :=
  match listIn detectionDict key listType with
  | some idList => .ok idList
  | none => .error .keyError

def isNodeIDInDetectionDict (nodeID : KeyValue) (detectionDict : DetectionDict) :
    Except PyError Bool :=
  [DetectionKey.failure, .abnormal].anyM fun key =>
    [DetectionKey.switchIDList, .serverIDList].anyM fun listType => do
      let idList ← idListOf detectionDict key listType
      return idList.any fun element => elementOf nodeID == some element

def isLinkIDInDetectionDict (linkID : KeyValue × KeyValue)
    (detectionDict : DetectionDict) : Except PyError Bool :=
  [DetectionKey.failure, .abnormal].anyM fun key =>
    [DetectionKey.linkIDList, .serverIDList].anyM fun listType => do
      let idList ← idListOf detectionDict key listType
      return idList.any fun element => linkOf linkID.1 linkID.2 == some element ||
        linkOf linkID.2 linkID.1 == some element

/-! ## An SFCI -/

def getNodeID : Option Node → Except PyError Nat
  | some (.server server) => .ok server.serverID
  | some (.switch switchID) => .ok switchID
  | none => .error .attributeError

def isNodeTheClassifier (nodeID : KeyValue) (directions : List Direction) :
    Except PyError Bool :=
  directions.anyM fun direction => do
    let ingressID ← getNodeID direction.ingress
    if KeyValue.int ingressID = nodeID then return true
    let egressID ← getNodeID direction.egress
    return KeyValue.int egressID == nodeID

def logClassifier (directions : List Direction) : Except PyError Unit := do
  let direction ← itemAt directions 0
  let _ ← getNodeID direction.ingress
  let _ ← getNodeID direction.egress
  return ()

structure Influence where
  influenced : Bool
  classifierInfluenced : Bool
  deriving DecidableEq, Repr

def nodeInfluence (detectionDict : DetectionDict) (sfc : Option SFC)
    (influence : Influence) (nodeID : KeyValue) : Except PyError Influence := do
  if ← isNodeIDInDetectionDict nodeID detectionDict then
    match sfc with
    | none => throw .attributeError
    | some sfc =>
        if ← isNodeTheClassifier nodeID sfc.directions then
          logClassifier sfc.directions
          return ⟨true, true⟩
        else return { influence with influenced := true }
  else return influence

def linkInfluence (detectionDict : DetectionDict) (influence : Influence)
    (linkID : KeyValue × KeyValue) : Except PyError Influence := do
  if ← isLinkIDInDetectionDict linkID detectionDict then
    return { influence with influenced := true }
  else return influence

def segmentInfluence (detectionDict : DetectionDict) (sfc : Option SFC)
    (influence : Influence) (segPath : List KeyValue) : Except PyError Influence := do
  let influence ← segPath.foldlM (nodeInfluence detectionDict sfc) influence
  (segPath.zip segPath.tail).foldlM (linkInfluence detectionDict) influence

def segmentsOf (paths : ForwardingPathSet) (pathIDOffset : Nat) :
    List (List KeyValue) :=
  let primary := (paths.primaryForwardingPath.get? pathIDOffset).toList.flatten
  let backup := (paths.backupForwardingPath.get? pathIDOffset).toList.flatMap Dict.keys
  primary.map (List.map fun layerNodeID => .int layerNodeID.2) ++
    backup.map (List.map Prod.snd)

def influenceOf (detectionDict : DetectionDict) (sfc : Option SFC)
    (paths : ForwardingPathSet) : Except PyError Influence :=
  ([Mapping.DIRECTION0_PATHID_OFFSET, Mapping.DIRECTION1_PATHID_OFFSET].flatMap
    (segmentsOf paths)).foldlM (segmentInfluence detectionDict sfc) ⟨false, false⟩

/-! ## All SFCIs -/

section Analysis

variable (objects : StoredObjects) (oib : OrchInfoBase) (rTM : RecoveryTaskMaintainer)

/-- The body of the loop of `_getAffectedSFCIAndSFCList`. -/
def analyzeSFCI (zoneName : String) (detectionDict : DetectionDict) :
    Nat × SFCIRow → Except PyError (Option AffectedSFCI)
  | (_, row) =>
      let sfc := oib.getSFC4DB row.sfcUUID
      let sfci := row.pickle
      let sfciState := oib.getSFCIState sfci.sfciID
      if zoneName = row.zoneName.name then do
        let influence ← influenceOf detectionDict sfc (objects.forwardingPathSet sfci)
        if influence.influenced then
          let recoveryTaskType : RecoveryTaskType :=
            if influence.classifierInfluenced then .sfc else .sfci
          let interestTaskType : RecoveryTaskType :=
            if influence.classifierInfluenced then .sfci else recoveryTaskType
          let taskState := (rTM.task? row.sfcUUID interestTaskType sfci.sfciID).map
            RecoveryTask.recoveryTaskState
          if sfciState ≠ some .active ∧ taskState ≠ some .failed then return none
          match sfc with
          | none => throw .attributeError
          | some sfc => return some ⟨sfci.sfciID, sfc, recoveryTaskType⟩
        else return none
      else return none

def _getAffectedSFCIAndSFCList (zoneName : String) (detectionDict : DetectionDict) :
    Except PyError (List AffectedSFCI) :=
  collect (analyzeSFCI objects oib rTM zoneName detectionDict) oib.sfciTable.items

def _sortInfSFCIAndSFCTupleList (affectedSFCITupleList : List AffectedSFCI) :
    List AffectedSFCI :=
  affectedSFCITupleList.mergeSort fun a b =>
    objects.availability b.sfc ≤ objects.availability a.sfc

def getAffectedSFCITupleList (allZoneDetectionDict : AllZoneDetectionDict) :
    Except PyError (List AffectedSFCI) := do
  let lists ← allZoneDetectionDict.items.mapM fun (zoneName, detectionDict) =>
    _getAffectedSFCIAndSFCList objects oib rTM zoneName detectionDict
  return _sortInfSFCIAndSFCTupleList objects lists.flatten

end Analysis

end NoticeAnalyzer

end SelfAdaptiveMano.Regulator
