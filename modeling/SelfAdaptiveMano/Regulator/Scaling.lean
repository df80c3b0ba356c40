import SelfAdaptiveMano.Base.Request
import SelfAdaptiveMano.Library.Dict
import SelfAdaptiveMano.Library.Machine
import SelfAdaptiveMano.VnfController.SourceAllocator
import Mathlib.Logic.Function.Basic

/-!
# The scaling loop of the Regulator

`SFCScalingProcessor` compares how many SFCIs an SFC has with how many its
traffic needs. When there are too few for some time, it puts the SFC into
scaling-out mode and asks for more; when there are too many, it puts it into
scaling-in mode and asks for some to be deleted. In each turn of the main loop
it looks whether the SFCIs are ready and takes the SFC out of the mode.

The measured traffic and the performance model, which give the number of SFCIs
that an SFC needs, are inputs. Other components write the tables in between.
-/

namespace SelfAdaptiveMano.Regulator

open Library

def MAX_OVER_LOAD_NUM_THRESHOLD : Nat := 3
def MAX_UNDER_LOAD_NUM_THRESHOLD : Nat := 5

def REGULATOR_SFCIID_ALLOCATED_RANGE : Int × Int := (0, 10000)

inductive ScalingMode where
  | autoScale
  | manualScale
  deriving DecidableEq, Repr

/-- What the scaling loop reads in a row of the table `SFC`. -/
structure ScalingRow where
  zoneName : Zone
  sfciIDList : List Int
  state : SFCState
  scalingMode : ScalingMode
  maxScalingInstanceNumber : Nat
  deriving DecidableEq, Repr

/-- The tables of the information base that the scaling loop uses: the SFCs, and
the states of the SFCIs. -/
structure ScalingBase where
  sfcTable : Dict UUID ScalingRow
  sfciTable : Dict Int SFCState

namespace ScalingBase

variable (oib : ScalingBase)

def getSFCState (sfcUUID : UUID) : Option SFCState :=
  (oib.sfcTable.get? sfcUUID).map ScalingRow.state

def updateSFCState (sfcUUID : UUID) (state : SFCState) : ScalingBase :=
  { oib with sfcTable := oib.sfcTable.modify sfcUUID fun row =>
      { row with state := state } }

def getSFCZone4DB (sfcUUID : UUID) : Option Zone :=
  (oib.sfcTable.get? sfcUUID).map ScalingRow.zoneName

def getSFCIIDListOfASFC4DB (sfcUUID : UUID) : List Int :=
  (oib.sfcTable.get? sfcUUID).elim [] ScalingRow.sfciIDList

def getSFCIState (sfciID : Int) : Option SFCState :=
  oib.sfciTable.get? sfciID

def getDeletedOrInitFailedStateSFCIIDList (sfcUUID : UUID) : List Int :=
  (oib.getSFCIIDListOfASFC4DB sfcUUID).filter fun sfciID =>
    oib.getSFCIState sfciID ∈ [some SFCState.deleted, some .initFailed]

def getCurrentValidSFCINum (sfciIDList : List Int) : Nat :=
  sfciIDList.countP fun sfciID =>
    oib.getSFCIState sfciID ∈ [some SFCState.active, some .inProcessing]

end ScalingBase

inductive LoadState where
  | overload
  | underload
  | normalload
  deriving DecidableEq, Repr

structure SFCLoad where
  loadList : List LoadState
  currentValidSFCINum : Nat
  targetSFCINum : Nat

inductive ScalingTaskState where
  | adding
  | deleting
  deriving DecidableEq, Repr

abbrev ScalingTaskDict := Dict UUID (Dict Int ScalingTaskState)

structure ScalingRequest where
  requestType : RequestType
  sfcUUID : UUID
  sfciID : Int
  zoneName : Option Zone
  deriving DecidableEq

/-- The scaling processor and the tables. `asked` is kept for the record: what
the last decision about each SFC asked for. -/
structure SFCScalingProcessor where
  oib : ScalingBase
  sfcLoadStateDict : Dict UUID SFCLoad
  scalingOutTaskDict : ScalingTaskDict
  scalingInTaskDict : ScalingTaskDict
  unallocatedList : List (Int × Int)
  sent : List ScalingRequest
  asked : UUID → List Int

/-- The items of a list from the `n`-th last on, `l[-n:]`. -/
def lastItems {α : Type} (n : Nat) (l : List α) : List α :=
  l.drop (l.length - n)

namespace SFCScalingProcessor

/-- `max(MAX_OVER_LOAD_NUM_THRESHOLD, MAX_UNDER_LOAD_NUM_THRESHOLD)` -/
def maxLoadListLength : Nat :=
  max MAX_OVER_LOAD_NUM_THRESHOLD MAX_UNDER_LOAD_NUM_THRESHOLD

/-- The load of an SFC with `currentValidSFCINum` SFCIs that needs
`targetSFCINum`. -/
def loadStateOf (currentValidSFCINum targetSFCINum : Nat) : LoadState :=
  if currentValidSFCINum > targetSFCINum then .underload
  else if currentValidSFCINum = targetSFCINum then .normalload
  else .overload

/-- `updateSFCLoad`; `needed` is what the traffic needs, before at least one
SFCI is required. -/
def updateSFCLoad (sfcUUID : UUID) (sfciIDList : List Int) (needed : Nat)
    (s : SFCScalingProcessor) : SFCScalingProcessor :=
  let targetSFCINum := max 1 needed
  let currentValidSFCINum := s.oib.getCurrentValidSFCINum sfciIDList
  let loadState := loadStateOf currentValidSFCINum targetSFCINum
  let loadList :=
    (s.sfcLoadStateDict.get? sfcUUID).elim [] SFCLoad.loadList ++ [loadState]
  let loadList :=
    if loadList.length > maxLoadListLength then loadList.tail else loadList
  let load := ⟨loadList, currentValidSFCINum, targetSFCINum⟩
  { s with sfcLoadStateDict := s.sfcLoadStateDict.set sfcUUID load }

def isOverLoadCondition (sfc : ScalingRow) (load : SFCLoad) : Bool :=
  decide (load.currentValidSFCINum < sfc.maxScalingInstanceNumber) &&
    (decide (sfc.state = .active) && decide (sfc.scalingMode = .autoScale)) &&
    ((lastItems MAX_OVER_LOAD_NUM_THRESHOLD load.loadList).all
        (· = .overload) ||
      decide (load.currentValidSFCINum = 0))

def isUnderLoadCondition (sfc : ScalingRow) (load : SFCLoad) : Bool :=
  decide (sfc.state = .active) &&
    (lastItems MAX_UNDER_LOAD_NUM_THRESHOLD load.loadList).all fun loadState =>
      decide (loadState = .underload) && decide (sfc.scalingMode = .autoScale)

def getDeltaSFCINum (sfc : ScalingRow) (load : SFCLoad) : Int :=
  let targetSFCINum :=
    max (min load.targetSFCINum sfc.maxScalingInstanceNumber) 1
  (targetSFCINum : Int) - load.currentValidSFCINum

/-- The body of the loop of `scalingOutSFC`. -/
def addOne (sfcUUID : UUID) (sfciIDList : List Int)
    (s : SFCScalingProcessor) (idx : Nat) : SFCScalingProcessor :=
  let (sfciID, unallocatedList) :=
    match sfciIDList[idx]? with
    | some sfciID => (sfciID, s.unallocatedList)
    | none => SourceAllocator.allocateSource 1 s.unallocatedList
  { s with
    unallocatedList := unallocatedList
    sent := s.sent ++
      [⟨.addSFCI, sfcUUID, sfciID, s.oib.getSFCZone4DB sfcUUID⟩]
    -- a new dictionary takes the place of the one that is there
    scalingOutTaskDict :=
      s.scalingOutTaskDict.set sfcUUID (Dict.empty.set sfciID .adding)
    asked := Function.update s.asked sfcUUID (s.asked sfcUUID ++ [sfciID]) }

/-- The body of the loop of `scalingInSFC`. -/
def deleteOne (sfcUUID : UUID) (zoneName : Option Zone)
    (s : SFCScalingProcessor) (sfciID : Int) : SFCScalingProcessor :=
  { s with
    sent := s.sent ++ [⟨.delSFCI, sfcUUID, sfciID, zoneName⟩]
    scalingInTaskDict :=
      if s.scalingInTaskDict.contains sfcUUID then s.scalingInTaskDict
      else s.scalingInTaskDict.set sfcUUID Dict.empty
    -- the SFCI is noted in the other table
    scalingOutTaskDict :=
      s.scalingOutTaskDict.set sfcUUID (Dict.empty.set sfciID .deleting)
    asked := Function.update s.asked sfcUUID (s.asked sfcUUID ++ [sfciID]) }

def forget (sfcUUID : UUID) (s : SFCScalingProcessor) : SFCScalingProcessor :=
  { s with asked := Function.update s.asked sfcUUID [] }

def scalingOutSFC (sfcUUID : UUID) (sfc : ScalingRow) (load : SFCLoad)
    (s : SFCScalingProcessor) : SFCScalingProcessor :=
  let deltaSFCINum := (getDeltaSFCINum sfc load).natAbs
  let sfciIDList := s.oib.getDeletedOrInitFailedStateSFCIIDList sfcUUID
  (List.range deltaSFCINum).foldl (addOne sfcUUID sfciIDList)
    (s.forget sfcUUID)

def scalingInSFC (sfcUUID : UUID) (sfc : ScalingRow) (load : SFCLoad)
    (s : SFCScalingProcessor) : SFCScalingProcessor :=
  let deltaSFCINum := (getDeltaSFCINum sfc load).natAbs
  let sfciIDList :=
    (s.oib.getSFCIIDListOfASFC4DB sfcUUID).mergeSort fun a b => a ≤ b
  (sfciIDList.take deltaSFCINum).foldl
    (deleteOne sfcUUID (s.oib.getSFCZone4DB sfcUUID)) (s.forget sfcUUID)

def processAbnormalLoadSFC (sfcUUID : UUID) (sfc : ScalingRow) (load : SFCLoad)
    (s : SFCScalingProcessor) : SFCScalingProcessor :=
  if isOverLoadCondition sfc load then
    scalingOutSFC sfcUUID sfc load
      { s with oib := s.oib.updateSFCState sfcUUID .scalingOutMode }
  else if isUnderLoadCondition sfc load then
    scalingInSFC sfcUUID sfc load
      { s with oib := s.oib.updateSFCState sfcUUID .scalingInMode }
  else s

/-- The body of the loop of `scalingHandler`, for an SFC of the table. -/
def scalingHandler (sfcUUID : UUID) (needed : Nat) (s : SFCScalingProcessor) :
    SFCScalingProcessor :=
  match s.oib.sfcTable.get? sfcUUID with
  | none => s
  | some sfc =>
      let s := s.updateSFCLoad sfcUUID sfc.sfciIDList needed
      match s.sfcLoadStateDict.get? sfcUUID with
      | none => s
      | some load => s.processAbnormalLoadSFC sfcUUID sfc load

/-- All SFCIs that an SFC waits for are in the state `done`. -/
def isFinish (oib : ScalingBase) (done : SFCState) (taskDict : ScalingTaskDict)
    (sfcUUID : UUID) : Bool :=
  match taskDict.get? sfcUUID with
  | some tasks => tasks.keys.all fun sfciID => oib.getSFCIState sfciID = some done
  | none => false

/-- The body of a loop of `processAllScalingTasks`. -/
def processScalingTask (done : SFCState) (t : ScalingTaskDict × ScalingBase)
    (sfcUUID : UUID) : ScalingTaskDict × ScalingBase :=
  if isFinish t.2 done t.1 sfcUUID then
    (t.1.erase sfcUUID, t.2.updateSFCState sfcUUID .active)
  else t

/-- A loop of `processAllScalingTasks`, over one of the tables. -/
def processScalingTasks (done : SFCState) (taskDict : ScalingTaskDict)
    (oib : ScalingBase) : ScalingTaskDict × ScalingBase :=
  taskDict.keys.foldl (processScalingTask done) (taskDict, oib)

def processAllScalingTasks (s : SFCScalingProcessor) : SFCScalingProcessor :=
  let (scalingOutTaskDict, oib) :=
    processScalingTasks .active s.scalingOutTaskDict s.oib
  let (scalingInTaskDict, oib) :=
    processScalingTasks .deleted s.scalingInTaskDict oib
  { s with
    oib := oib
    scalingOutTaskDict := scalingOutTaskDict
    scalingInTaskDict := scalingInTaskDict }

/-- What can happen: the scaling handler gets to an SFC, the tasks are looked
through, or other components write the tables. -/
inductive Input where
  | scalingHandler (sfcUUID : UUID) (needed : Nat)
  | processAllScalingTasks
  | database (oib : ScalingBase)

def step (s : SFCScalingProcessor) : Input → SFCScalingProcessor
  | .scalingHandler sfcUUID needed => s.scalingHandler sfcUUID needed
  | .processAllScalingTasks => s.processAllScalingTasks
  | .database oib => { s with oib := oib }

/-- The scaling loop from its start. No other component puts an SFC into a
scaling mode. -/
def machine : Machine SFCScalingProcessor Input where
  init s := s.sfcLoadStateDict = .empty ∧ s.scalingOutTaskDict = .empty ∧
    s.scalingInTaskDict = .empty ∧
    s.unallocatedList = [REGULATOR_SFCIID_ALLOCATED_RANGE] ∧
    ∀ sfcUUID, s.oib.getSFCState sfcUUID ≠ some .scalingOutMode ∧
      s.oib.getSFCState sfcUUID ≠ some .scalingInMode
  admits s
    | .database oib => ∀ sfcUUID, ∀ mode ∈ [SFCState.scalingOutMode,
        .scalingInMode], oib.getSFCState sfcUUID = some mode →
        s.oib.getSFCState sfcUUID = some mode
    | _ => True
  step := step

end SFCScalingProcessor

end SelfAdaptiveMano.Regulator
