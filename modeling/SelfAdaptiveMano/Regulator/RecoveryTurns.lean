import SelfAdaptiveMano.Library.Hoare
import SelfAdaptiveMano.Orchestration.Tables
import SelfAdaptiveMano.Regulator.SFCRestorer

/-!
# What the recovery loop leaves alone

A task that is looked at stays a task until it is finished, and only the loading
of the waiting tasks touches those. The loop takes no SFC out of the recovery
mode: where it would, it first asks for the tasks of the SFC, and the task that
has just finished is still among them.
-/

namespace SelfAdaptiveMano.Regulator.SFCRestorer

open Library

variable {s s' s₀ : SFCRestorer} {t : TaskTuple}

/-- What a turn of the loop leaves alone: the waiting tasks, the tasks that run,
and the information base. -/
structure Turn (s s' : SFCRestorer) : Prop where
  waiting : s'.rTM.waitingTaskDict = s.rTM.waitingTaskDict
  tasks : ∀ sfcUUID sfciID, s.IsRecovering sfcUUID sfciID →
    s'.IsRecovering sfcUUID sfciID
  oib : s'.oib = s.oib

namespace Turn

theorem refl (s : SFCRestorer) : Turn s s := ⟨rfl, fun _ _ => id, rfl⟩

theorem trans {s'' : SFCRestorer} (h : Turn s s') (h' : Turn s' s'') :
    Turn s s'' where
  waiting := h'.waiting.trans h.waiting
  tasks sfcUUID sfciID hs := h'.tasks _ _ (h.tasks sfcUUID sfciID hs)
  oib := h'.oib.trans h.oib

theorem of_eq (hrTM : s'.rTM = s.rTM) (hoib : s'.oib = s.oib) : Turn s s' := by
  refine ⟨by rw [hrTM], fun sfcUUID sfciID h => ?_, hoib⟩
  rw [IsRecovering, hrTM]
  exact h

end Turn

/-- The tasks that run after a task is written, if it does not fail by that. -/
theorem isRecovering_put {key : UUID} {recoveryTaskType : RecoveryTaskType}
    {id : Nat} {task : RecoveryTask}
    (hrTM : s'.rTM = s.rTM.modifyTasks recoveryTaskType fun tasks =>
      tasks.put key id task)
    (hstate : ∀ old, s.rTM.task? key recoveryTaskType id = some old →
      old.recoveryTaskState ≠ .failed → task.recoveryTaskState ≠ .failed)
    {sfcUUID : UUID} {sfciID : Nat} (h : s.IsRecovering sfcUUID sfciID) :
    s'.IsRecovering sfcUUID sfciID := by
  obtain ⟨recoveryTaskType', old, hold, hruns⟩ := h
  rw [IsRecovering, hrTM]
  refine ⟨recoveryTaskType', ?_⟩
  rw [RecoveryTaskMaintainer.task?_put]
  split
  · next heq =>
      obtain ⟨rfl, rfl, rfl⟩ := heq
      exact ⟨task, rfl, hstate old hold hruns⟩
  · exact ⟨old, hold, hruns⟩

theorem Turn.of_put {sfcUUID : UUID} {recoveryTaskType : RecoveryTaskType}
    {sfciID : Nat} {task : RecoveryTask}
    (hrTM : s'.rTM = s.rTM.modifyTasks recoveryTaskType fun tasks =>
      tasks.put sfcUUID sfciID task) (hoib : s'.oib = s.oib)
    (hstate : ∀ old, s.rTM.task? sfcUUID recoveryTaskType sfciID = some old →
      old.recoveryTaskState ≠ .failed → task.recoveryTaskState ≠ .failed) :
    Turn s s' :=
  ⟨by rw [hrTM]; rfl, fun _ _ => isRecovering_put hrTM hstate, hoib⟩

section Statements

theorem turn_modify {f : SFCRestorer → SFCRestorer} (h : ∀ s, Turn s (f s)) :
    PyM.Keeps (Turn s₀) (modify f) := by
  intro s hs
  exact hs.trans (h s)

theorem turn_updateTask (t : TaskTuple) {recoveryTaskState : RecoveryTaskState}
    (h : recoveryTaskState ≠ .failed) :
    PyM.Keeps (Turn s₀) (updateTask t recoveryTaskState) :=
  turn_modify fun _ => Turn.of_put rfl rfl fun _ _ _ => h

theorem turn_uuid1 : PyM.Keeps (Turn s₀) uuid1 := by
  intro s hs
  exact hs.trans (.of_eq rfl rfl)

theorem turn_addRequest2Task (t : TaskTuple) (req : Request) :
    PyM.Keeps (Turn s₀) (addRequest2Task t req) := by
  refine PyM.Meets.bind_get fun s hs => ?_
  refine PyM.Meets.bind_ofOption (fun task htask => ?_) fun s' hs' => hs' ▸ hs
  rintro _ rfl
  refine hs.trans (Turn.of_put rfl rfl fun old hold hruns => ?_)
  obtain rfl := Option.some.inj (htask.symm.trans hold)
  exact hruns

theorem turn_sendRequest (t : TaskTuple) (requestType : RequestType)
    (attributes : RequestAttributes) :
    PyM.Keeps (Turn s₀) (sendRequest t requestType attributes) := by
  refine turn_uuid1.bind fun requestID => ?_
  refine (turn_addRequest2Task t _).bind fun _ => ?_
  exact turn_modify fun s => .of_eq rfl rfl

theorem turn_pure : PyM.Keeps (Turn s₀) (pure () : PyM SFCRestorer Unit) :=
  fun _ hs => hs

theorem turn_throw (e : PyError) :
    PyM.Keeps (Turn s₀) (throw e : PyM SFCRestorer Unit) :=
  fun _ hs => hs

end Statements

section Stages

variable (oib : OrchInfoBase)

theorem turn_readyStage : PyM.Keeps (Turn s₀) (readyStage t oib) := by
  refine PyM.Meets.bind_ofOption (fun sfci _ => ?_) fun _ hs => hs
  refine PyM.Meets.ite (fun _ => ?_) fun _ => PyM.Meets.ite (fun _ => ?_) ?_
  · exact (turn_sendRequest t _ _).bind fun _ =>
      turn_updateTask t (by decide)
  · exact turn_updateTask t (by decide)
  · exact fun _ => turn_pure

theorem turn_sfciDeletedStage :
    PyM.Keeps (Turn s₀) (sfciDeletedStage t oib) := by
  rw [sfciDeletedStage]
  cases t.recoveryTaskType with
  | sfci =>
      refine PyM.Meets.bind_ofOption (fun sfci _ => ?_) fun _ hs => hs
      exact (turn_sendRequest _ _ _).bind fun _ =>
        turn_updateTask _ (by decide)
  | sfc =>
      refine (turn_updateTask t (by decide)).bind fun _ => ?_
      refine PyM.Meets.ite (fun _ => ?_) fun _ => turn_pure
      exact (turn_sendRequest t _ _).bind fun _ =>
        turn_updateTask t (by decide)

theorem turn_sfcDeletedStage :
    PyM.Keeps (Turn s₀) (sfcDeletedStage t oib) := by
  refine PyM.Meets.bind_ofOption (fun sfc _ => ?_) fun _ hs => hs
  refine PyM.Meets.bind_get_any fun s => ?_
  refine PyM.Meets.bind_ofExcept (fun req _ => ?_) fun _ hs => hs
  refine PyM.Meets.bind_ofExcept (fun sendReqFlag _ => ?_) fun _ hs => hs
  exact PyM.Meets.ite (fun _ => turn_sendRequest t _ _) fun _ => turn_pure

theorem turn_sfcAddedStage (modes : SFCModes) :
    PyM.Keeps (Turn s₀) (sfcAddedStage modes t oib) := by
  refine PyM.Meets.bind_ofOption (fun sfc _ => ?_) fun _ hs => hs
  refine PyM.Meets.ite (fun _ => turn_updateTask t (by decide)) fun _ => ?_
  refine PyM.Meets.bind_get_any fun s => ?_
  refine PyM.Meets.bind_ofExcept (fun sfciIDList _ => ?_) fun _ hs => hs
  refine PyM.Keeps.forM fun sfciID _ => ?_
  exact (turn_sendRequest _ _ _).bind fun _ => turn_updateTask _ (by decide)

theorem isAllSFCIRecovered_updateRecoveryTask (rTM : RecoveryTaskMaintainer)
    (sfcUUID : UUID) (sfciID : Nat) (recoveryTaskType : RecoveryTaskType)
    (recoveryTaskState : RecoveryTaskState) (now : Nat) :
    (rTM.updateRecoveryTask sfcUUID sfciID recoveryTaskType recoveryTaskState
      now).isAllSFCIRecovered sfcUUID recoveryTaskType = .ok false := by
  have htask : (rTM.updateRecoveryTask sfcUUID sfciID recoveryTaskType
      recoveryTaskState now).task? sfcUUID recoveryTaskType sfciID =
      some (.new sfciID recoveryTaskState now) := by
    rw [RecoveryTaskMaintainer.task?_updateRecoveryTask, if_pos ⟨rfl, rfl, rfl⟩]
  rw [RecoveryTaskMaintainer.task?, TaskDict.task?, Option.bind_eq_some_iff]
    at htask
  obtain ⟨tasks, htasks, htask⟩ := htask
  have hkey : sfciID ∈ tasks.keys := Dict.mem_keys_iff.mpr ⟨_, htask⟩
  have hlength : tasks.keys.length ≠ 0 := Nat.ne_of_gt (List.length_pos_of_mem hkey)
  rw [RecoveryTaskMaintainer.isAllSFCIRecovered, htasks]
  simp [hlength]

theorem run_addingSFCIStage (s : SFCRestorer) :
    (addingSFCIStage t oib).run s =
      if oib.getSFCIState t.sfciID = some .active then
        (updateTask t .finish).run s
      else .ok () s := by
  rw [addingSFCIStage]
  split
  · rw [PyM.run_bind_ok (x := updateTask t .finish) rfl, PyM.run_bind_get,
      isAllSFCIRecovered_updateRecoveryTask]
    rfl
  · rfl

theorem turn_addingSFCIStage :
    PyM.Keeps (Turn s₀) (addingSFCIStage t oib) := by
  have hupdate : PyM.Keeps (Turn s₀) (updateTask t .finish) :=
    turn_updateTask t (by decide)
  intro s hs
  rw [run_addingSFCIStage]
  by_cases hactive : oib.getSFCIState t.sfciID = some .active
  · rw [if_pos hactive]
    exact hupdate s hs
  · rw [if_neg hactive]
    exact hs

end Stages

/-- The turn of a task that does not wait and has not finished. -/
theorem turn_processRecoveryTask (modes : SFCModes)
    (hwaiting : t.recoveryTaskState ≠ .waiting)
    (hfinish : t.recoveryTaskState ≠ .finish) :
    PyM.Keeps (Turn s₀) (processRecoveryTask modes t) := by
  refine PyM.Meets.bind_get_any fun s => ?_
  cases hstate : t.recoveryTaskState with
  | waiting => exact absurd hstate hwaiting
  | ready => exact turn_readyStage s.oib
  | deletingSFCI =>
      dsimp only
      split
      · exact turn_sfciDeletedStage s.oib
      · exact turn_sfciDeletedStage s.oib
      · exact turn_pure
  | waitingToDeleteSFC => exact turn_pure
  | deletingSFC =>
      dsimp only
      split
      · exact turn_sfcDeletedStage s.oib
      · exact turn_sfcAddedStage s.oib modes
      · exact turn_pure
      · exact turn_pure
      · exact turn_pure
      · exact turn_pure
      · exact turn_throw _
  | addingSFCI => exact turn_addingSFCIStage s.oib
  | finish => exact absurd hstate hfinish
  | failed => exact turn_pure

section Pass

def timedOut (s : SFCRestorer) : SFCRestorer :=
  { s with rTM := s.rTM.clearTimeOutTasks s.now }

/-- The task still runs when the next pass has started. -/
def InTime (s : SFCRestorer) (task : RecoveryTask) : Prop :=
  task.recoveryTaskState ≠ .failed ∧
    s.now - task.timestamp ≤ RECOVERY_TASK_TIMEOUT

theorem isRecovering_timedOut {sfcUUID : UUID} {sfciID : Nat}
    {recoveryTaskType : RecoveryTaskType} {task : RecoveryTask}
    (htask : s.rTM.task? sfcUUID recoveryTaskType sfciID = some task)
    (h : s.InTime task) : s.timedOut.IsRecovering sfcUUID sfciID := by
  refine ⟨recoveryTaskType, task, ?_, h.1⟩
  rw [timedOut, RecoveryTaskMaintainer.task?_clearTimeOutTasks, htask,
    Option.map_some, RecoveryTaskMaintainer.timeOut, if_neg]
  exact fun hout => Nat.not_lt.mpr h.2 hout.1

theorem not_failed_migrateSFCITask2SFCTask {oib : OrchInfoBase} {now : Nat}
    {task task' : RecoveryTask}
    (h : migrateSFCITask2SFCTask oib now task = .ok task') :
    task'.recoveryTaskState ≠ .failed := by
  rw [migrateSFCITask2SFCTask] at h
  split at h <;> cases h <;> exact nofun

theorem turn_clearRedundantTask (key : UUID × Nat) :
    PyM.Keeps (Turn s₀) (clearRedundantTask key) := by
  obtain ⟨sfcUUID, sfciID⟩ := key
  refine PyM.Meets.bind_get fun s hs => ?_
  refine PyM.Meets.ite (fun _ => ?_) fun _ => ?_
  · refine PyM.Meets.bind_ofOption (fun task _ => ?_) fun s' hs' => hs' ▸ hs
    refine PyM.Meets.bind_ofExcept (fun task' htask' => ?_)
      fun s' hs' => hs' ▸ hs
    rintro _ rfl
    refine hs.trans ⟨rfl, fun sfcUUID' sfciID' h => ?_, rfl⟩
    obtain ⟨recoveryTaskType, task'', htask, hruns⟩ := h
    by_cases hkey : sfcUUID' = sfcUUID ∧ sfciID' = sfciID
    · refine ⟨.sfc, task', ?_, not_failed_migrateSFCITask2SFCTask htask'⟩
      rw [RecoveryTaskMaintainer.task?_modifyTasks, if_neg (by simp),
        RecoveryTaskMaintainer.task?_put, if_pos ⟨rfl, hkey⟩]
    · refine ⟨recoveryTaskType, task'', ?_, hruns⟩
      rw [RecoveryTaskMaintainer.task?_modifyTasks]
      split
      · next htype =>
          rw [TaskDict.task?_remove, if_neg hkey, ← RecoveryTaskMaintainer.task?,
            RecoveryTaskMaintainer.task?_put, if_neg fun h => hkey h.2, ← htype]
          exact htask
      · rw [RecoveryTaskMaintainer.task?_put, if_neg fun h => hkey h.2]
        exact htask
  · rintro _ rfl
    exact hs

theorem turn_clearRedundantTasks : PyM.Keeps (Turn s₀) clearRedundantTasks :=
  PyM.Meets.bind_get_any fun _ =>
    PyM.Keeps.forM fun key _ => turn_clearRedundantTask key

def NoWaiting (s : SFCRestorer) : Prop :=
  ∀ recoveryTaskType sfcUUID sfciID,
    (s.rTM.waitingTaskDict recoveryTaskType).task? sfcUUID sfciID = none

theorem NoWaiting.pairs (h : s.NoWaiting) (recoveryTaskType : RecoveryTaskType) :
    (s.rTM.waitingTaskDict recoveryTaskType).pairs = [] := by
  refine List.eq_nil_iff_forall_not_mem.mpr fun ⟨sfcUUID, sfciID⟩ hkey => ?_
  obtain ⟨task, htask⟩ := TaskDict.mem_pairs_iff.mp hkey
  rw [h] at htask
  cases htask

theorem loadWaitingTasks_of_noWaiting (h : s.NoWaiting) (now : Nat) :
    s.rTM.loadWaitingTasks now = s.rTM := by
  simp only [RecoveryTaskMaintainer.loadWaitingTasks, List.foldl_cons,
    List.foldl_nil, h.pairs]

theorem NoWaiting.congr (h : s.NoWaiting)
    (hwaiting : s'.rTM.waitingTaskDict = s.rTM.waitingTaskDict) :
    s'.NoWaiting := by
  rw [NoWaiting, hwaiting]
  exact h

theorem turn_startPass (h : s.NoWaiting) :
    PyM.Meets (· = s) startPass (fun _ => Turn s.timedOut)
      (Turn s.timedOut) := by
  refine PyM.Meets.bind (Q := fun _ => Turn s.timedOut) ?_ fun _ => ?_
  · rintro _ rfl
    exact .refl _
  · refine turn_clearRedundantTasks.bind fun _ => ?_
    intro s' hs'
    have hload := loadWaitingTasks_of_noWaiting (h.congr hs'.waiting) s'.now
    exact hs'.trans (.of_eq hload rfl)

end Pass

theorem run_finishStage (t : TaskTuple) (s : SFCRestorer) :
    (finishStage t).run s =
      match s.rTM.deleteRecoveryTask t.sfcUUID t.sfciID t.recoveryTaskType with
      | .ok rTM => .ok () { s with rTM := rTM }
      | .error e => .error e s := by
  rw [finishStage, PyM.run_bind_get]
  cases s.rTM.deleteRecoveryTask t.sfcUUID t.sfciID t.recoveryTaskType <;> rfl

theorem turn_stopOnError {x : PyM SFCRestorer Unit}
    (h : PyM.Meets (· = s) x (fun _ => Turn s₀) (Turn s₀)) :
    Turn s₀ (stopOnError x s) := by
  have hx := h s rfl
  rw [stopOnError]
  cases hrun : x.run s with
  | ok _ s' =>
      rw [hrun] at hx
      exact hx
  | error e s' =>
      rw [hrun] at hx
      exact hx.trans (.of_eq rfl rfl)

theorem step_finish (modes : SFCModes) {rest : List TaskTuple}
    (hpending : s.pending = t :: rest) (hfinish : t.recoveryTaskState = .finish) :
    step modes s .task =
      match s.rTM.deleteRecoveryTask t.sfcUUID t.sfciID t.recoveryTaskType with
      | .ok rTM => { s with rTM := rTM, pending := rest }
      | .error _ => { s with pending := [] } := by
  have hrun : (processRecoveryTask modes t).run { s with pending := rest } =
      (finishStage t).run { s with pending := rest } := by
    rw [processRecoveryTask, PyM.run_bind_get, hfinish]
  simp only [step, hpending, stopOnError, hrun, run_finishStage]
  cases s.rTM.deleteRecoveryTask t.sfcUUID t.sfciID t.recoveryTaskType <;> rfl

def recovering (s : SFCRestorer) (t : TaskTuple) : SFCRestorer :=
  { s with
    oib := (s.oib.updateSFCState t.sfcUUID .recoverMode).updateSFCIState t.sfciID
      .inactive
    rTM := s.rTM.updateRecoveryTask t.sfcUUID t.sfciID t.recoveryTaskType .ready
      s.now }

theorem step_waiting (modes : SFCModes) {rest : List TaskTuple}
    (hpending : s.pending = t :: rest)
    (hwaiting : t.recoveryTaskState = .waiting) :
    step modes s .task =
      if isReadyToRecover (s.oib.getSFCState t.sfcUUID)
          (s.oib.getSFCIState t.sfciID) = true then
        recovering { s with pending := rest } t
      else { s with pending := rest } := by
  have hrun : (processRecoveryTask modes t).run { s with pending := rest } =
      (waitingStage t s.oib).run { s with pending := rest } := by
    rw [processRecoveryTask, PyM.run_bind_get, hwaiting]
  simp only [step, hpending, stopOnError, hrun, waitingStage]
  by_cases hready : isReadyToRecover (s.oib.getSFCState t.sfcUUID)
      (s.oib.getSFCIState t.sfciID) = true
  · rw [if_pos hready, if_pos hready]
    rfl
  · rw [if_neg hready, if_neg hready]
    rfl

theorem step_task (modes : SFCModes) (s : SFCRestorer) :
    Turn s (step modes s .task) ∨
      (∃ t rest, s.pending = t :: rest ∧ t.recoveryTaskState = .waiting ∧
        isReadyToRecover (s.oib.getSFCState t.sfcUUID)
          (s.oib.getSFCIState t.sfciID) = true ∧
        step modes s .task = recovering { s with pending := rest } t) ∨
      ∃ t rest rTM, s.pending = t :: rest ∧ t.recoveryTaskState = .finish ∧
        s.rTM.deleteRecoveryTask t.sfcUUID t.sfciID t.recoveryTaskType =
          .ok rTM ∧
        step modes s .task = { s with rTM := rTM, pending := rest } := by
  cases hpending : s.pending with
  | nil =>
      rw [step, hpending]
      exact Or.inl (.refl s)
  | cons t rest =>
      have hpop : Turn s { s with pending := rest } := .of_eq rfl rfl
      by_cases hfinish : t.recoveryTaskState = .finish
      · rw [step_finish modes hpending hfinish]
        cases hdelete : s.rTM.deleteRecoveryTask t.sfcUUID t.sfciID
            t.recoveryTaskType with
        | ok rTM =>
            exact Or.inr (Or.inr ⟨t, rest, rTM, rfl, hfinish, hdelete, rfl⟩)
        | error e => exact Or.inl (.of_eq rfl rfl)
      by_cases hwaiting : t.recoveryTaskState = .waiting
      · rw [step_waiting modes hpending hwaiting]
        split
        · next hready =>
            exact Or.inr (Or.inl ⟨t, rest, rfl, hwaiting, hready, rfl⟩)
        · exact Or.inl hpop
      · rw [step, hpending]
        refine Or.inl (hpop.trans (turn_stopOnError ?_))
        rintro _ rfl
        exact turn_processRecoveryTask modes hwaiting hfinish _ (.refl _)

structure Noticed (s s' : SFCRestorer) : Prop where
  noWaiting : s'.NoWaiting
  tasks : ∀ sfcUUID sfciID, s.IsRecovering sfcUUID sfciID →
    s'.IsRecovering sfcUUID sfciID
  oib : s'.oib = s.oib

theorem noticed_addWaitingRecoveryTask (sfcUUID : UUID)
    (recoveryTaskType : RecoveryTaskType) :
    PyM.Keeps (Noticed s₀) (addWaitingRecoveryTask sfcUUID recoveryTaskType) := by
  intro s hs
  refine ⟨fun recoveryTaskType' sfcUUID' sfciID => ?_, hs.tasks, hs.oib⟩
  have hnone := hs.noWaiting recoveryTaskType' sfcUUID' sfciID
  simp only [RecoveryTaskMaintainer.modifyWaiting, TaskDict.task?] at hnone ⊢
  by_cases htype : recoveryTaskType' = recoveryTaskType
  · subst htype
    rw [Function.update_self, Dict.get?_set]
    split
    · rfl
    · exact hnone
  · rw [Function.update_of_ne htype]
    exact hnone

theorem noticed_handleAffected (modes : SFCModes) (hit : AffectedSFCI) :
    PyM.Keeps (Noticed s₀) (handleAffected modes hit) := by
  refine PyM.Meets.ite (fun _ => ?_) fun _ _ hs => hs
  refine PyM.Meets.bind_get fun s hs => PyM.Meets.ite (fun _ => ?_) fun _ => ?_
  · rintro _ rfl
    exact noticed_addWaitingRecoveryTask _ _ _ hs
  · rintro s rfl
    refine ⟨hs.noWaiting.congr rfl, fun _ _ h => ?_, hs.oib⟩
    have hruns : RecoveryTaskState.waiting ≠ .failed := by decide
    exact isRecovering_put rfl (fun _ _ _ => hruns) (hs.tasks _ _ h)

theorem noticed_handleDetectionDict (h : s.NoWaiting) (modes : SFCModes)
    (hits : List AffectedSFCI) :
    Noticed s ((handleDetectionDict modes hits).finalState s) := by
  have hkeeps : PyM.Keeps (Noticed s) (handleDetectionDict modes hits) :=
    PyM.Keeps.forM fun hit _ => noticed_handleAffected modes hit
  exact hkeeps.finalState ⟨h, fun _ _ => id, rfl⟩

theorem noWaiting_of_reachable {modes : SFCModes}
    (h : (machine modes).Reachable s) : s.NoWaiting := by
  refine Machine.Reachable.invariant (P := NoWaiting) ?_ ?_ h
  · rintro s ⟨-, hempty, -⟩ recoveryTaskType sfcUUID sfciID
    rw [hempty]
    rfl
  · intro s i hs _
    cases i with
    | notice hits => exact (noticed_handleDetectionDict hs modes hits).noWaiting
    | startPass => exact hs.congr (turn_stopOnError (turn_startPass hs)).waiting
    | task =>
        obtain hturn | ⟨t, rest, -, -, -, heq⟩ |
          ⟨t, rest, rTM, -, -, hdelete, heq⟩ := step_task modes s
        · exact hs.congr hturn.waiting
        · refine hs.congr ?_
          show (step modes s .task).rTM.waitingTaskDict = _
          rw [heq]
          rfl
        · refine hs.congr ?_
          show (step modes s .task).rTM.waitingTaskDict = _
          rw [heq]
          exact RecoveryTaskMaintainer.waitingTaskDict_deleteRecoveryTask hdelete
    | database oib => exact hs.congr rfl
    | time now => exact hs.congr rfl

/-- The states of the rows are not mentioned in `Sound`. -/
theorem Sound.recoverMode {oib : OrchInfoBase} (h : Sound oib) (sfcUUID : UUID)
    (sfciID : Nat) :
    Sound ((oib.updateSFCState sfcUUID .recoverMode).updateSFCIState sfciID
      .inactive) := by
  refine ⟨fun sfcUUID' row hrow => ?_, fun sfciID' row hrow => ?_, h.retryCnt⟩
  · simp only [OrchInfoBase.updateSFCIState, OrchInfoBase.updateSFCState,
      Dict.get?_modify] at hrow
    split at hrow
    · next heq =>
        obtain ⟨row', hrow', rfl⟩ := Option.map_eq_some_iff.mp hrow
        rw [heq]
        exact h.sfc sfcUUID row' hrow'
    · exact h.sfc sfcUUID' row hrow
  · simp only [OrchInfoBase.updateSFCIState, OrchInfoBase.updateSFCState,
      Dict.get?_modify] at hrow
    split at hrow
    · next heq =>
        obtain ⟨row', hrow', rfl⟩ := Option.map_eq_some_iff.mp hrow
        rw [heq]
        exact h.sfci sfciID row' hrow'
    · exact h.sfci sfciID' row hrow

theorem sound_of_reachable {modes : SFCModes}
    (h : (machine modes).Reachable s) : Sound s.oib := by
  obtain ⟨τ, h⟩ := h
  refine Machine.Run.invariant_of_meets (P := fun s => Sound s.oib)
    (C := fun _ _ => True) ?_ ?_ h fun _ _ => trivial
  · rintro s ⟨-, -, -, -, hsound⟩
    exact hsound
  intro s i hreachable hs hadmits _
  have hnoWaiting := noWaiting_of_reachable hreachable
  cases i with
  | notice hits =>
      have hnoticed := noticed_handleDetectionDict hnoWaiting modes hits
      exact hnoticed.oib ▸ hs
  | startPass =>
      have hturn := turn_stopOnError (turn_startPass hnoWaiting)
      exact hturn.oib ▸ hs
  | task =>
      obtain hturn | ⟨t, rest, -, -, -, heq⟩ | ⟨t, rest, rTM, -, -, -, heq⟩ :=
        step_task modes s
      · exact hturn.oib ▸ hs
      · show Sound (step modes s .task).oib
        rw [heq]
        exact hs.recoverMode t.sfcUUID t.sfciID
      · show Sound (step modes s .task).oib
        rw [heq]
        exact hs
  | database oib => exact hadmits
  | time now => exact hs

section Examples

def exampleSFC : SFC := ⟨⟨0, 0⟩, [], [], [], .turbonet⟩

def exampleModes : SFCModes := ⟨fun _ => true, fun _ => false⟩

def exampleBase (sfcState first second : SFCState) : OrchInfoBase where
  requestTable := Dict.empty
  sfcTable := Dict.empty.set exampleSFC.sfcUUID
    ⟨.turbonet, [0, 1], sfcState, exampleSFC⟩
  sfciTable := (Dict.empty.set 0
    ⟨exampleSFC.sfcUUID, first, ⟨0, []⟩, .turbonet⟩).set 1
      ⟨exampleSFC.sfcUUID, second, ⟨1, []⟩, .turbonet⟩

def exampleStart : SFCRestorer where
  rTM := ⟨fun _ => .empty, fun _ => .empty⟩
  oib := exampleBase .active .active .active
  pending := []
  sent := []
  clock := 0
  now := 0

def exampleHit (recoveryTaskType : RecoveryTaskType) (sfciID : Nat) :
    AffectedSFCI :=
  ⟨sfciID, exampleSFC, recoveryTaskType⟩

theorem sound_exampleBase (sfcState first second : SFCState) :
    Sound (exampleBase sfcState first second) := by
  refine ⟨fun sfcUUID row h => ?_, fun sfciID row h => ?_, fun _ _ h => ?_⟩
  · rw [exampleBase, Dict.get?_set] at h
    split at h
    · next heq =>
        cases h
        exact heq.symm
    · cases h
  · rw [exampleBase, Dict.get?_set] at h
    split at h
    · next heq =>
        cases h
        exact heq.symm
    · rw [Dict.get?_set] at h
      split at h
      · next heq =>
          cases h
          exact heq.symm
      · cases h
  · cases h

theorem run_exampleStart : (machine exampleModes).Run [] exampleStart :=
  .start ⟨fun _ => rfl, fun _ => rfl, rfl, rfl, sound_exampleBase _ _ _⟩

/-- An SFCI that is `ACTIVE` may be named in a notice. -/
theorem affected_exampleHit {recoveryTaskType : RecoveryTaskType} {sfciID : Nat}
    (hoib : s.oib = exampleBase .active .active .active)
    (hsfciID : sfciID ∈ [0, 1]) :
    s.Affected (exampleHit recoveryTaskType sfciID) := by
  rw [Affected, hoib]
  obtain rfl | hone := List.mem_cons.mp hsfciID
  · exact ⟨_, rfl, rfl, Or.inl rfl⟩
  · obtain rfl := List.mem_singleton.mp hone
    exact ⟨_, rfl, rfl, Or.inl rfl⟩

theorem admits_exampleNotice {hits : List AffectedSFCI}
    (hnodup : (hits.map AffectedSFCI.sfciID).Nodup)
    (hhits : ∀ hit ∈ hits, ∃ recoveryTaskType, ∃ sfciID ∈ [0, 1],
      hit = exampleHit recoveryTaskType sfciID)
    (hpending : s.pending = [])
    (hoib : s.oib = exampleBase .active .active .active) :
    (machine exampleModes).admits s (.notice hits) := by
  refine ⟨hpending, hnodup, fun hit hhit => ?_⟩
  obtain ⟨recoveryTaskType, sfciID, hsfciID, rfl⟩ := hhits hit hhit
  exact affected_exampleHit hoib hsfciID

end Examples

end SelfAdaptiveMano.Regulator.SFCRestorer
