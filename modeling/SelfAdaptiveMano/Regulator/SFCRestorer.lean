import SelfAdaptiveMano.Library.Machine
import SelfAdaptiveMano.Regulator.RecoveryTasks

/-!
# The recovery loop of the Regulator

A detection notice names the SFCIs whose paths were hit. For each of them the
Regulator starts a recovery task, and in each turn of its main loop it makes a
pass over all tasks: a task deletes its SFCI, adds it again and finishes. When
the classifier was hit, the SFC is deleted and added in between.

The pass works through a list of the tasks that was made at its start. Other
components write the information base while it does so. An exception ends the
pass, or the handling of the notice.
-/

namespace SelfAdaptiveMano

open Library

namespace OrchInfoBase

def isAllSFCIDeletedOrInitFailed (oib : OrchInfoBase) (sfcUUID : UUID) : Bool :=
  (oib.getSFCIIDListOfASFC4DB sfcUUID).all fun sfciID =>
    oib.getSFCIState sfciID ∈ [some SFCState.deleted, some .initFailed]

def getRequestRetryCnt (oib : OrchInfoBase) (requestUUID : UUID) :
    Except PyError Nat :=
  match oib.requestTable.get? requestUUID with
  | some row => .ok row.retryCnt
  | none => .error .indexError

end OrchInfoBase

namespace Regulator

structure SFCModes where
  isAutoRecovery : SFC → Bool
  isAutoScaling : SFC → Bool

/-- An entry of `affectedSFCITupleList`; the state of its task is always
`WAITING`. -/
structure AffectedSFCI where
  sfciID : Nat
  sfc : SFC
  recoveryTaskType : RecoveryTaskType

/-- The recovery loop: its tables, the information base, what is left of the
pass, the requests that were sent, and the clocks. -/
structure SFCRestorer where
  rTM : RecoveryTaskMaintainer
  oib : OrchInfoBase
  pending : List TaskTuple
  sent : List Request
  clock : Nat
  now : Nat

namespace SFCRestorer

def generator : Nat := 2

def uuid1 : PyM SFCRestorer UUID :=
  modifyGet fun s => (⟨generator, s.clock⟩, { s with clock := s.clock + 1 })

/-- `rTM.updateRecoveryTask`, for the task of a tuple. -/
def updateTask (t : TaskTuple) (recoveryTaskState : RecoveryTaskState) :
    PyM SFCRestorer Unit :=
  modify fun s =>
    let rTM := s.rTM.updateRecoveryTask t.sfcUUID t.sfciID t.recoveryTaskType
      recoveryTaskState s.now
    { s with rTM := rTM }

/-- `rTM.addRequest2Task`, for the task of a tuple. -/
def addRequest2Task (t : TaskTuple) (req : Request) : PyM SFCRestorer Unit := do
  let s ← get
  let task ← PyM.ofOption .keyError
    (s.rTM.task? t.sfcUUID t.recoveryTaskType t.sfciID)
  let task := { task with reqDict := task.reqDict.set req.requestType req }
  let rTM := s.rTM.modifyTasks t.recoveryTaskType fun tasks =>
    tasks.put t.sfcUUID t.sfciID task
  set { s with rTM := rTM }

def sendRequest (t : TaskTuple) (requestType : RequestType)
    (attributes : RequestAttributes) : PyM SFCRestorer Unit := do
  let requestID ← uuid1
  let req : Request := ⟨requestID, requestType, .initial, attributes⟩
  addRequest2Task t req
  modify fun s => { s with sent := s.sent ++ [req] }

def isReadyToRecover (sfcState sfciState : Option SFCState) : Bool :=
  decide (sfciState = some .active ∧
    sfcState ∈ [some SFCState.active, some .recoverMode])

def updateSFCIAndSFCState2RecoveryMode (sfciID : Nat) (sfcUUID : UUID) :
    PyM SFCRestorer Unit :=
  modify fun s =>
    let oib := s.oib.updateSFCState sfcUUID .recoverMode
    { s with oib := oib.updateSFCIState sfciID .inactive }

/-- `RECOVERY_TASK_STATE_WAITING` -/
def waitingStage (t : TaskTuple) (oib : OrchInfoBase) :
    PyM SFCRestorer Unit := do
  if isReadyToRecover (oib.getSFCState t.sfcUUID) (oib.getSFCIState t.sfciID) then
    updateSFCIAndSFCState2RecoveryMode t.sfciID t.sfcUUID
    updateTask t .ready

/-- `RECOVERY_TASK_STATE_READY` -/
def readyStage (t : TaskTuple) (oib : OrchInfoBase) : PyM SFCRestorer Unit := do
  let sfci ← PyM.ofOption .attributeError (oib.getSFCI4DB t.sfciID)
  if oib.isDelSFCIValidState sfci.sfciID then
    sendRequest t .delSFCI ⟨oib.getSFC4DB t.sfcUUID, some sfci, none⟩
    updateTask t .deletingSFCI
  else if oib.getSFCIState t.sfciID ∈
      [some SFCState.deleted, some .initFailed] then
    updateTask t .deletingSFCI

/-- `RECOVERY_TASK_STATE_DELETING_SFCI`, where the SFCI is deleted. -/
def sfciDeletedStage (t : TaskTuple) (oib : OrchInfoBase) :
    PyM SFCRestorer Unit :=
  match t.recoveryTaskType with
  | .sfci => do
      let sfci ← PyM.ofOption .attributeError (oib.getSFCI4DB t.sfciID)
      let t := { t with sfciID := sfci.sfciID }
      sendRequest t .addSFCI
        ⟨oib.getSFC4DB t.sfcUUID, some ⟨sfci.sfciID, []⟩, none⟩
      updateTask t .addingSFCI
  | .sfc => do
      updateTask t .waitingToDeleteSFC
      if oib.isAllSFCIDeletedOrInitFailed t.sfcUUID then
        sendRequest t .delSFC ⟨oib.getSFC4DB t.sfcUUID, none, none⟩
        updateTask t .deletingSFC

def withoutNodes (sfc : SFC) : SFC :=
  { sfc with directions := sfc.directions.map fun direction =>
      { direction with ingress := none, egress := none } }

def sendReqFlag (oib : OrchInfoBase) :
    Option Request → Except PyError Bool
  | none => .ok true
  | some req =>
      match oib.getRequestRetryCnt req.requestID with
      | .ok retryNum => .ok (retryNum > MAX_RETRY_NUM)
      | .error e => .error e

/-- `RECOVERY_TASK_STATE_DELETING_SFC`, where the SFC is deleted. -/
def sfcDeletedStage (t : TaskTuple) (oib : OrchInfoBase) :
    PyM SFCRestorer Unit := do
  let sfc ← PyM.ofOption .attributeError (oib.getSFC4DB t.sfcUUID)
  let s ← get
  let req ← PyM.ofExcept
    (s.rTM.getRequestFromTask t.sfcUUID t.recoveryTaskType t.sfciID .addSFC)
  let sendReqFlag ← PyM.ofExcept (sendReqFlag oib req)
  if sendReqFlag then
    sendRequest t .addSFC ⟨some (withoutNodes sfc), none, none⟩

/-- `RECOVERY_TASK_STATE_DELETING_SFC`, where the SFC was added again: the SFCIs
of all its tasks are added. -/
def sfcAddedStage (modes : SFCModes) (t : TaskTuple) (oib : OrchInfoBase) :
    PyM SFCRestorer Unit := do
  let sfc ← PyM.ofOption .attributeError (oib.getSFC4DB t.sfcUUID)
  if modes.isAutoScaling sfc then
    updateTask t .finish
  else
    let s ← get
    let sfciIDList ← PyM.ofExcept
      (s.rTM.getSFCIIDListOfATask t.sfcUUID t.recoveryTaskType)
    sfciIDList.forM fun sfciID => do
      let t := { t with sfciID := sfciID }
      sendRequest t .addSFCI ⟨some sfc, some ⟨sfciID, []⟩, none⟩
      updateTask t .addingSFCI

/-- `RECOVERY_TASK_STATE_ADDING_SFCI` -/
def addingSFCIStage (t : TaskTuple) (oib : OrchInfoBase) :
    PyM SFCRestorer Unit := do
  if oib.getSFCIState t.sfciID = some .active then
    updateTask t .finish
    let s ← get
    let isAllSFCIRecovered ← PyM.ofExcept
      (s.rTM.isAllSFCIRecovered t.sfcUUID t.recoveryTaskType)
    if isAllSFCIRecovered then
      modify fun s =>
        { s with oib := s.oib.updateSFCState t.sfcUUID .active }

/-- `RECOVERY_TASK_STATE_FINISH` -/
def finishStage (t : TaskTuple) : PyM SFCRestorer Unit := do
  let s ← get
  let rTM ← PyM.ofExcept
    (s.rTM.deleteRecoveryTask t.sfcUUID t.sfciID t.recoveryTaskType)
  set { s with rTM := rTM }

/-- The body of the loop of `processAllRecoveryTasks`. -/
def processRecoveryTask (modes : SFCModes) (t : TaskTuple) :
    PyM SFCRestorer Unit := do
  let s ← get
  let oib := s.oib
  match t.recoveryTaskState with
  | .waiting => waitingStage t oib
  | .ready => readyStage t oib
  | .deletingSFCI =>
      match oib.getSFCIState t.sfciID with
      | some .deleted | some .initFailed => sfciDeletedStage t oib
      | _ => pure ()
  | .waitingToDeleteSFC => pure ()
  | .deletingSFC =>
      match oib.getSFCState t.sfcUUID with
      | some .deleted => sfcDeletedStage t oib
      | some .active => sfcAddedStage modes t oib
      | some .undeleted | some .recoverMode | some .initFailed
      | some .scalingOutMode => pure ()
      | _ => throw (.valueError "Unexpected SFC state during SFC recovery.")
  | .addingSFCI => addingSFCIStage t oib
  | .finish => finishStage t
  | .failed => pure ()

/-- The body of the loop of `clearRedundantTasks`. -/
def clearRedundantTask (key : UUID × Nat) : PyM SFCRestorer Unit := do
  let (sfcUUID, sfciID) := key
  let s ← get
  if (s.rTM.taskDict .sfc).contains sfcUUID then
    let task ← PyM.ofOption .keyError (s.rTM.task? sfcUUID .sfci sfciID)
    let task ← PyM.ofExcept (migrateSFCITask2SFCTask s.oib s.now task)
    let rTM := s.rTM.modifyTasks .sfc fun tasks => tasks.put sfcUUID sfciID task
    let rTM := rTM.modifyTasks .sfci fun tasks => tasks.remove sfcUUID sfciID
    set { s with rTM := rTM }

def clearRedundantTasks : PyM SFCRestorer Unit := do
  let s ← get
  (s.rTM.taskDict .sfci).pairs.forM clearRedundantTask

/-- `processAllRecoveryTasks`, up to its loop. -/
def startPass : PyM SFCRestorer Unit := do
  modify fun s => { s with rTM := s.rTM.clearTimeOutTasks s.now }
  clearRedundantTasks
  modify fun s =>
    let rTM := s.rTM.loadWaitingTasks s.now
    { s with rTM := rTM, pending := rTM.getRecoveryTasksTupleList }

/-- The keys of `waitingTaskDict` are the task types, so that the SFC is never
found among them: its dictionary is made anew, and the SFC is then looked up in
the place of a task type. -/
def addWaitingRecoveryTask (sfcUUID : UUID)
    (recoveryTaskType : RecoveryTaskType) : PyM SFCRestorer Unit := do
  modify fun s =>
    let rTM := s.rTM.modifyWaiting recoveryTaskType fun tasks =>
      tasks.set sfcUUID Dict.empty
    { s with rTM := rTM }
  throw .keyError

/-- The body of the loop of `handleDetectionDict`. -/
def handleAffected (modes : SFCModes) (hit : AffectedSFCI) :
    PyM SFCRestorer Unit := do
  let sfcUUID := hit.sfc.sfcUUID
  if modes.isAutoRecovery hit.sfc then
    let s ← get
    if s.rTM.hasRecoveryTask sfcUUID hit.sfciID hit.recoveryTaskType then
      addWaitingRecoveryTask sfcUUID hit.recoveryTaskType
    else
      let rTM := s.rTM.addRecoveryTask sfcUUID hit.sfciID hit.recoveryTaskType
        .waiting s.now
      set { s with rTM := rTM }

def handleDetectionDict (modes : SFCModes)
    (affectedSFCITupleList : List AffectedSFCI) : PyM SFCRestorer Unit :=
  affectedSFCITupleList.forM (handleAffected modes)

/-- An SFCI is only named in a notice when it is `ACTIVE` or its last recovery
has failed. -/
def Affected (s : SFCRestorer) (hit : AffectedSFCI) : Prop :=
  ∃ row, s.oib.sfciTable.get? hit.sfciID = some row ∧
    s.oib.getSFC4DB row.sfcUUID = some hit.sfc ∧
    (row.state = .active ∨ ∃ task,
      s.rTM.task? row.sfcUUID .sfci hit.sfciID = some task ∧
        task.recoveryTaskState = .failed)

/-- The objects in the tables are those of the keys, and no request is retried
more than `MAX_RETRY_NUM` times. -/
structure Sound (oib : OrchInfoBase) : Prop where
  sfc : ∀ sfcUUID row, oib.sfcTable.get? sfcUUID = some row →
    row.pickle.sfcUUID = sfcUUID
  sfci : ∀ sfciID row, oib.sfciTable.get? sfciID = some row →
    row.pickle.sfciID = sfciID
  retryCnt : ∀ requestUUID row, oib.requestTable.get? requestUUID = some row →
    row.retryCnt ≤ MAX_RETRY_NUM

/-- What can happen: a detection notice is handled, a pass over the tasks starts,
the pass gets to its next task, other components write the tables, or time
passes. -/
inductive Input where
  | notice (affectedSFCITupleList : List AffectedSFCI)
  | startPass
  | task
  | database (oib : OrchInfoBase)
  | time (now : Nat)

def stopOnError (x : PyM SFCRestorer Unit) (s : SFCRestorer) : SFCRestorer :=
  match x.run s with
  | .ok _ s' => s'
  | .error _ s' => { s' with pending := [] }

def step (modes : SFCModes) (s : SFCRestorer) : Input → SFCRestorer
  | .notice affectedSFCITupleList =>
      (handleDetectionDict modes affectedSFCITupleList).finalState s
  | .startPass => stopOnError startPass s
  | .task =>
      match s.pending with
      | [] => s
      | t :: rest =>
          stopOnError (processRecoveryTask modes t) { s with pending := rest }
  | .database oib => { s with oib := oib }
  | .time now => { s with now := now }

/-- The recovery loop from its start. A notice is handled between two passes, and
names an SFCI once. -/
def machine (modes : SFCModes) : Machine SFCRestorer Input where
  init s := (∀ recoveryTaskType, s.rTM.taskDict recoveryTaskType = .empty) ∧
    (∀ recoveryTaskType, s.rTM.waitingTaskDict recoveryTaskType = .empty) ∧
    s.pending = [] ∧ s.sent = [] ∧ Sound s.oib
  admits s
    | .notice affectedSFCITupleList => s.pending = [] ∧
        (affectedSFCITupleList.map AffectedSFCI.sfciID).Nodup ∧
        ∀ hit ∈ affectedSFCITupleList, s.Affected hit
    | .startPass => s.pending = []
    | .task => True
    | .database oib => Sound oib
    | .time now => s.now ≤ now
  step := step modes

/-- A task of the SFCI is running: it is there, and it has not failed. -/
def IsRecovering (s : SFCRestorer) (sfcUUID : UUID) (sfciID : Nat) : Prop :=
  ∃ recoveryTaskType task,
    s.rTM.task? sfcUUID recoveryTaskType sfciID = some task ∧
      task.recoveryTaskState ≠ .failed

end SFCRestorer

end Regulator

end SelfAdaptiveMano
