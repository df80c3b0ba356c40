import SelfAdaptiveMano.Orchestration.OrchInfoBase
import SelfAdaptiveMano.Regulator.Config
import Mathlib.Logic.Function.Basic

/-!
# The recovery tasks of the Regulator

A recovery task is about one SFCI of an SFC. The tasks are kept by type, by SFC
and by SFCI; tasks for SFCIs that have a running task are meant to wait in a
second table.
-/

namespace SelfAdaptiveMano.Regulator

open Library

inductive RecoveryTaskState where
  | ready
  | deletingSFCI
  | waitingToDeleteSFC
  | deletingSFC
  | addingSFCI
  | waiting
  | failed
  | finish
  deriving DecidableEq, Repr

inductive RecoveryTaskType where
  | sfc
  | sfci
  deriving DecidableEq, Repr

structure RecoveryTask where
  sfciID : Nat
  recoveryTaskState : RecoveryTaskState
  reqDict : Dict RequestType Request
  timestamp : Nat

/-- `RecoveryTask(sfciID, recoveryTaskState)`, at the time `now`. -/
def RecoveryTask.new (sfciID : Nat) (recoveryTaskState : RecoveryTaskState)
    (now : Nat) : RecoveryTask :=
  ⟨sfciID, recoveryTaskState, Dict.empty, now⟩

abbrev TaskDict := Dict UUID (Dict Nat RecoveryTask)

/-- `del taskDict[sfcUUID][sfciID]`; the dictionary of the SFC stays. -/
def TaskDict.remove (tasks : TaskDict) (sfcUUID : UUID) (sfciID : Nat) :
    TaskDict :=
  tasks.modify sfcUUID fun tasks => tasks.erase sfciID

/-- `taskDict[sfcUUID][sfciID] = task`, where the dictionary of the SFC is made
if there is none. -/
def TaskDict.put (tasks : TaskDict) (sfcUUID : UUID) (sfciID : Nat)
    (task : RecoveryTask) : TaskDict :=
  tasks.set sfcUUID (((tasks.get? sfcUUID).getD Dict.empty).set sfciID task)

def TaskDict.task? (tasks : TaskDict) (sfcUUID : UUID) (sfciID : Nat) :
    Option RecoveryTask :=
  (tasks.get? sfcUUID).bind fun tasks => tasks.get? sfciID

/-- `del taskDict[sfcUUID][sfciID]`, where the dictionary of an SFC goes with its
last task. -/
def TaskDict.delete (tasks : TaskDict) (sfcUUID : UUID) (sfciID : Nat) :
    Except PyError TaskDict :=
  match tasks.get? sfcUUID with
  | none => .ok tasks
  | some sfciTasks =>
      if sfciTasks.contains sfciID then
        let sfciTasks := sfciTasks.erase sfciID
        .ok (if sfciTasks.items = [] then tasks.erase sfcUUID
          else tasks.set sfcUUID sfciTasks)
      else .error .keyError

/-- The SFCIs that have a task, each with its SFC, in the order of a loop over
the dictionaries. -/
def TaskDict.pairs (tasks : TaskDict) : List (UUID × Nat) :=
  tasks.items.flatMap fun (sfcUUID, sfciTasks) =>
    sfciTasks.keys.map fun sfciID => (sfcUUID, sfciID)

namespace TaskDict

theorem task?_put (tasks : TaskDict) (sfcUUID : UUID) (sfciID : Nat)
    (task : RecoveryTask) (sfcUUID' : UUID) (sfciID' : Nat) :
    (tasks.put sfcUUID sfciID task).task? sfcUUID' sfciID' =
      if sfcUUID' = sfcUUID ∧ sfciID' = sfciID then some task
      else tasks.task? sfcUUID' sfciID' := by
  rw [task?, put, Dict.get?_set]
  by_cases h : sfcUUID' = sfcUUID
  · subst h
    rw [if_pos rfl, Option.bind_some, Dict.get?_set, task?]
    cases tasks.get? sfcUUID' <;> simp
  · rw [if_neg h, if_neg fun h' => h h'.1, task?]

theorem task?_remove (tasks : TaskDict) (sfcUUID : UUID) (sfciID : Nat)
    (sfcUUID' : UUID) (sfciID' : Nat) :
    (tasks.remove sfcUUID sfciID).task? sfcUUID' sfciID' =
      if sfcUUID' = sfcUUID ∧ sfciID' = sfciID then none
      else tasks.task? sfcUUID' sfciID' := by
  rw [task?, remove, Dict.get?_modify]
  by_cases h : sfcUUID' = sfcUUID
  · subst h
    rw [if_pos rfl, task?]
    cases tasks.get? sfcUUID' with
    | none => simp
    | some sfciTasks => simp [Dict.get?_erase]
  · rw [if_neg h, if_neg fun h' => h h'.1, task?]

theorem task?_delete {tasks tasks' : TaskDict} {sfcUUID : UUID} {sfciID : Nat}
    (h : tasks.delete sfcUUID sfciID = .ok tasks') (sfcUUID' : UUID)
    (sfciID' : Nat) :
    tasks'.task? sfcUUID' sfciID' =
      if sfcUUID' = sfcUUID ∧ sfciID' = sfciID then none
      else tasks.task? sfcUUID' sfciID' := by
  rw [delete] at h
  cases hget : tasks.get? sfcUUID with
  | none =>
      rw [hget] at h
      cases h
      split
      · next heq => rw [task?, heq.1, hget, Option.bind_none]
      · rfl
  | some sfciTasks =>
      simp only [hget] at h
      split at h
      · cases h
        have hself : (if (sfciTasks.erase sfciID).items = [] then
            tasks.erase sfcUUID else
              tasks.set sfcUUID (sfciTasks.erase sfciID)).get? sfcUUID' =
            if sfcUUID' = sfcUUID then
              if (sfciTasks.erase sfciID).items = [] then none
              else some (sfciTasks.erase sfciID)
            else tasks.get? sfcUUID' := by
          split
          · rw [Dict.get?_erase]
          · rw [Dict.get?_set]
        rw [task?, hself, task?]
        by_cases heq : sfcUUID' = sfcUUID
        · subst heq
          rw [if_pos rfl, hget, Option.bind_some]
          have herase : ∀ sfciID', (if (sfciTasks.erase sfciID).items = [] then
              none else some (sfciTasks.erase sfciID)).bind
                (fun tasks => tasks.get? sfciID') =
              (sfciTasks.erase sfciID).get? sfciID' := by
            intro sfciID'
            split
            · next hnil => rw [Option.bind_none, Dict.get?, hnil, List.lookup_nil]
            · rw [Option.bind_some]
          rw [herase, Dict.get?_erase]
          simp
        · rw [if_neg heq, if_neg fun h' => heq h'.1]
      · cases h

theorem contains_delete {tasks tasks' : TaskDict} {sfcUUID : UUID}
    {sfciID : Nat} (h : tasks.delete sfcUUID sfciID = .ok tasks')
    {sfcUUID' : UUID} (hcontains : tasks'.contains sfcUUID' = true) :
    tasks.contains sfcUUID' = true := by
  rw [delete] at h
  cases hget : tasks.get? sfcUUID with
  | none =>
      rw [hget] at h
      cases h
      exact hcontains
  | some sfciTasks =>
      simp only [hget] at h
      split at h
      · cases h
        by_cases heq : sfcUUID' = sfcUUID
        · rw [heq, Dict.contains, hget, Option.isSome_some]
        · rw [Dict.contains] at hcontains ⊢
          split at hcontains
          · rw [Dict.get?_erase, if_neg heq] at hcontains
            exact hcontains
          · rw [Dict.get?_set, if_neg heq] at hcontains
            exact hcontains
      · cases h

theorem task?_map (f : RecoveryTask → RecoveryTask) (tasks : TaskDict)
    (sfcUUID : UUID) (sfciID : Nat) :
    TaskDict.task? (Dict.map (fun sfciTasks => sfciTasks.map f) tasks) sfcUUID
      sfciID = (tasks.task? sfcUUID sfciID).map f := by
  rw [task?, task?, Dict.get?_map]
  cases tasks.get? sfcUUID with
  | none => rfl
  | some sfciTasks => exact Dict.get?_map f sfciTasks sfciID

theorem mem_pairs_iff {tasks : TaskDict} {sfcUUID : UUID} {sfciID : Nat} :
    (sfcUUID, sfciID) ∈ tasks.pairs ↔
      ∃ task, tasks.task? sfcUUID sfciID = some task := by
  simp only [pairs, List.mem_flatMap, List.mem_map, Prod.exists, Prod.mk.injEq,
    task?, Option.bind_eq_some_iff]
  constructor
  · rintro ⟨_, sfciTasks, hmem, _, hkey, rfl, rfl⟩
    obtain ⟨task, htask⟩ := Dict.mem_keys_iff.mp hkey
    exact ⟨task, sfciTasks, Dict.mem_items_iff.mp hmem, htask⟩
  · rintro ⟨task, sfciTasks, hget, htask⟩
    exact ⟨sfcUUID, sfciTasks, Dict.mem_items_iff.mpr hget, sfciID,
      Dict.mem_keys_iff.mpr ⟨task, htask⟩, rfl, rfl⟩

end TaskDict

/-- What `getRecoveryTasksTupleList` lists of a task. -/
structure TaskTuple where
  sfcUUID : UUID
  recoveryTaskType : RecoveryTaskType
  sfciID : Nat
  recoveryTaskState : RecoveryTaskState
  deriving DecidableEq, Repr

structure RecoveryTaskMaintainer where
  taskDict : RecoveryTaskType → TaskDict
  waitingTaskDict : RecoveryTaskType → TaskDict

namespace RecoveryTaskMaintainer

variable (rTM : RecoveryTaskMaintainer)

def modifyTasks (recoveryTaskType : RecoveryTaskType) (f : TaskDict → TaskDict) :
    RecoveryTaskMaintainer :=
  { rTM with
    taskDict := Function.update rTM.taskDict recoveryTaskType
      (f (rTM.taskDict recoveryTaskType)) }

def modifyWaiting (recoveryTaskType : RecoveryTaskType)
    (f : TaskDict → TaskDict) : RecoveryTaskMaintainer :=
  { rTM with
    waitingTaskDict := Function.update rTM.waitingTaskDict recoveryTaskType
      (f (rTM.waitingTaskDict recoveryTaskType)) }

def task? (sfcUUID : UUID) (recoveryTaskType : RecoveryTaskType)
    (sfciID : Nat) : Option RecoveryTask :=
  (rTM.taskDict recoveryTaskType).task? sfcUUID sfciID

def hasRecoveryTask (sfcUUID : UUID) (sfciID : Nat)
    (recoveryTaskType : RecoveryTaskType) : Bool :=
  (rTM.task? sfcUUID recoveryTaskType sfciID).isSome

def addRecoveryTask (sfcUUID : UUID) (sfciID : Nat)
    (recoveryTaskType : RecoveryTaskType)
    (recoveryTaskState : RecoveryTaskState) (now : Nat) :
    RecoveryTaskMaintainer :=
  rTM.modifyTasks recoveryTaskType fun tasks =>
    tasks.put sfcUUID sfciID (.new sfciID recoveryTaskState now)

/-- The same as `addRecoveryTask`: the task of the SFCI is a new one. -/
def updateRecoveryTask (sfcUUID : UUID) (sfciID : Nat)
    (recoveryTaskType : RecoveryTaskType)
    (recoveryTaskState : RecoveryTaskState) (now : Nat) :
    RecoveryTaskMaintainer :=
  rTM.modifyTasks recoveryTaskType fun tasks =>
    tasks.put sfcUUID sfciID (.new sfciID recoveryTaskState now)

def deleteRecoveryTask (sfcUUID : UUID) (sfciID : Nat)
    (recoveryTaskType : RecoveryTaskType) :
    Except PyError RecoveryTaskMaintainer :=
  match (rTM.taskDict recoveryTaskType).delete sfcUUID sfciID with
  | .ok tasks => .ok (rTM.modifyTasks recoveryTaskType fun _ => tasks)
  | .error e => .error e

def getSFCIIDListOfATask (sfcUUID : UUID)
    (recoveryTaskType : RecoveryTaskType) : Except PyError (List Nat) :=
  match (rTM.taskDict recoveryTaskType).get? sfcUUID with
  | some tasks => .ok tasks.keys
  | none => .error .keyError

def isAllSFCIRecovered (sfcUUID : UUID) (recoveryTaskType : RecoveryTaskType) :
    Except PyError Bool :=
  match (rTM.taskDict recoveryTaskType).get? sfcUUID with
  | some tasks => .ok (tasks.keys.length = 0)
  | none => .error .keyError

def tuplesOf (recoveryTaskType : RecoveryTaskType) (tasks : TaskDict) :
    List TaskTuple :=
  tasks.items.flatMap fun (sfcUUID, tasks) =>
    tasks.items.map fun (sfciID, task) =>
      ⟨sfcUUID, recoveryTaskType, sfciID, task.recoveryTaskState⟩

def getRecoveryTasksTupleList : List TaskTuple :=
  tuplesOf .sfc (rTM.taskDict .sfc) ++ tuplesOf .sfci (rTM.taskDict .sfci)

def getRequestFromTask (sfcUUID : UUID) (recoveryTaskType : RecoveryTaskType)
    (sfciID : Nat) (reqType : RequestType) :
    Except PyError (Option Request) :=
  match rTM.task? sfcUUID recoveryTaskType sfciID with
  | some task => .ok (task.reqDict.get? reqType)
  | none => .error .keyError

/-- A task that has not been renewed for too long has failed. -/
def timeOut (now : Nat) (task : RecoveryTask) : RecoveryTask :=
  if now - task.timestamp > RECOVERY_TASK_TIMEOUT ∧
      task.recoveryTaskState ≠ .failed then
    { task with recoveryTaskState := .failed }
  else task

def clearTimeOutTasks (now : Nat) : RecoveryTaskMaintainer :=
  { rTM with taskDict := fun recoveryTaskType =>
      (rTM.taskDict recoveryTaskType).map fun tasks => tasks.map (timeOut now) }

/-- The body of the loop of `loadWaitingTasks`. -/
def loadWaitingTask (recoveryTaskType : RecoveryTaskType) (now : Nat)
    (rTM : RecoveryTaskMaintainer) (key : UUID × Nat) :
    RecoveryTaskMaintainer :=
  let (sfcUUID, sfciID) := key
  let removed :=
    rTM.modifyWaiting recoveryTaskType (·.remove sfcUUID sfciID)
  match (rTM.waitingTaskDict recoveryTaskType).task? sfcUUID sfciID with
  | none => rTM
  | some task =>
      if recoveryTaskType = .sfci ∧
          (rTM.waitingTaskDict .sfc).contains sfcUUID = true then removed
      else if rTM.hasRecoveryTask sfcUUID sfciID recoveryTaskType then rTM
      else
        removed.addRecoveryTask sfcUUID sfciID recoveryTaskType
          task.recoveryTaskState now

def loadWaitingTasks (now : Nat) : RecoveryTaskMaintainer :=
  [RecoveryTaskType.sfci, .sfc].foldl (fun rTM recoveryTaskType =>
    (rTM.waitingTaskDict recoveryTaskType).pairs.foldl
      (loadWaitingTask recoveryTaskType now) rTM) rTM

section Tables

variable {rTM} {sfcUUID sfcUUID' : UUID} {sfciID sfciID' : Nat}
  {recoveryTaskType recoveryTaskType' : RecoveryTaskType}

@[simp] theorem waitingTaskDict_modifyTasks (f : TaskDict → TaskDict) :
    (rTM.modifyTasks recoveryTaskType f).waitingTaskDict =
      rTM.waitingTaskDict := rfl

@[simp] theorem task?_modifyWaiting (f : TaskDict → TaskDict) :
    (rTM.modifyWaiting recoveryTaskType f).task? = rTM.task? := rfl

theorem task?_modifyTasks (f : TaskDict → TaskDict) :
    (rTM.modifyTasks recoveryTaskType f).task? sfcUUID recoveryTaskType'
        sfciID =
      if recoveryTaskType' = recoveryTaskType then
        (f (rTM.taskDict recoveryTaskType)).task? sfcUUID sfciID
      else rTM.task? sfcUUID recoveryTaskType' sfciID := by
  simp only [task?, modifyTasks]
  by_cases h : recoveryTaskType' = recoveryTaskType
  · subst h
    rw [if_pos rfl, Function.update_self]
  · rw [if_neg h, Function.update_of_ne h]

theorem task?_put (task : RecoveryTask) :
    (rTM.modifyTasks recoveryTaskType fun tasks =>
        tasks.put sfcUUID sfciID task).task? sfcUUID' recoveryTaskType'
        sfciID' =
      if recoveryTaskType' = recoveryTaskType ∧ sfcUUID' = sfcUUID ∧
          sfciID' = sfciID then some task
      else rTM.task? sfcUUID' recoveryTaskType' sfciID' := by
  rw [task?_modifyTasks]
  by_cases h : recoveryTaskType' = recoveryTaskType
  · subst h
    simp only [true_and, if_true, TaskDict.task?_put, task?]
  · rw [if_neg h, if_neg fun h' => h h'.1]

theorem task?_updateRecoveryTask (recoveryTaskState : RecoveryTaskState)
    (now : Nat) :
    (rTM.updateRecoveryTask sfcUUID sfciID recoveryTaskType recoveryTaskState
        now).task? sfcUUID' recoveryTaskType' sfciID' =
      if recoveryTaskType' = recoveryTaskType ∧ sfcUUID' = sfcUUID ∧
          sfciID' = sfciID then some (.new sfciID recoveryTaskState now)
      else rTM.task? sfcUUID' recoveryTaskType' sfciID' :=
  task?_put _

theorem task?_deleteRecoveryTask {rTM' : RecoveryTaskMaintainer}
    (h : rTM.deleteRecoveryTask sfcUUID sfciID recoveryTaskType = .ok rTM') :
    rTM'.task? sfcUUID' recoveryTaskType' sfciID' =
      if recoveryTaskType' = recoveryTaskType ∧ sfcUUID' = sfcUUID ∧
          sfciID' = sfciID then none
      else rTM.task? sfcUUID' recoveryTaskType' sfciID' := by
  rw [deleteRecoveryTask] at h
  cases hdelete : (rTM.taskDict recoveryTaskType).delete sfcUUID sfciID with
  | error e =>
      rw [hdelete] at h
      cases h
  | ok tasks =>
      rw [hdelete] at h
      cases h
      rw [task?_modifyTasks]
      by_cases heq : recoveryTaskType' = recoveryTaskType
      · subst heq
        simp only [true_and, if_true, TaskDict.task?_delete hdelete, task?]
      · rw [if_neg heq, if_neg fun h' => heq h'.1]

theorem contains_deleteRecoveryTask {rTM' : RecoveryTaskMaintainer}
    (h : rTM.deleteRecoveryTask sfcUUID sfciID recoveryTaskType = .ok rTM')
    (hcontains :
      (rTM'.taskDict recoveryTaskType').contains sfcUUID' = true) :
    (rTM.taskDict recoveryTaskType').contains sfcUUID' = true := by
  rw [deleteRecoveryTask] at h
  cases hdelete : (rTM.taskDict recoveryTaskType).delete sfcUUID sfciID with
  | error e =>
      rw [hdelete] at h
      cases h
  | ok tasks =>
      rw [hdelete] at h
      cases h
      simp only [modifyTasks] at hcontains
      by_cases heq : recoveryTaskType' = recoveryTaskType
      · subst heq
        rw [Function.update_self] at hcontains
        exact TaskDict.contains_delete hdelete hcontains
      · rw [Function.update_of_ne heq] at hcontains
        exact hcontains

theorem deleteRecoveryTask_of_task? {task : RecoveryTask}
    (h : rTM.task? sfcUUID recoveryTaskType sfciID = some task) :
    ∃ rTM', rTM.deleteRecoveryTask sfcUUID sfciID recoveryTaskType =
      .ok rTM' := by
  rw [RecoveryTaskMaintainer.task?, TaskDict.task?, Option.bind_eq_some_iff] at h
  obtain ⟨tasks, htasks, htask⟩ := h
  have hcontains : tasks.contains sfciID = true := by
    rw [Dict.contains, htask, Option.isSome_some]
  simp only [deleteRecoveryTask, TaskDict.delete, htasks, hcontains, if_true]
  exact ⟨_, rfl⟩

theorem waitingTaskDict_deleteRecoveryTask {rTM' : RecoveryTaskMaintainer}
    (h : rTM.deleteRecoveryTask sfcUUID sfciID recoveryTaskType = .ok rTM') :
    rTM'.waitingTaskDict = rTM.waitingTaskDict := by
  rw [deleteRecoveryTask] at h
  cases hdelete : (rTM.taskDict recoveryTaskType).delete sfcUUID sfciID with
  | error e =>
      rw [hdelete] at h
      cases h
  | ok tasks =>
      rw [hdelete] at h
      cases h
      rfl

theorem task?_clearTimeOutTasks (now : Nat) :
    (rTM.clearTimeOutTasks now).task? sfcUUID recoveryTaskType sfciID =
      (rTM.task? sfcUUID recoveryTaskType sfciID).map (timeOut now) :=
  TaskDict.task?_map (timeOut now) (rTM.taskDict recoveryTaskType) sfcUUID sfciID

end Tables

end RecoveryTaskMaintainer

/-- `migrateSFCITask2SFCTask` -/
def migrateSFCITask2SFCTask (oib : OrchInfoBase) (now : Nat)
    (task : RecoveryTask) : Except PyError RecoveryTask :=
  match oib.getSFCIState task.sfciID with
  | some .active =>
      .ok { task with recoveryTaskState := .waiting, timestamp := now }
  | some .inactive | some .undeleted =>
      .ok { task with recoveryTaskState := .ready, timestamp := now }
  | some .deleted | some .initFailed | some .inProcessing =>
      .ok { task with recoveryTaskState := .deletingSFCI, timestamp := now }
  | _ => .error (.valueError "Unknown sfci state")

end SelfAdaptiveMano.Regulator
