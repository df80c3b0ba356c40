import SelfAdaptiveMano.Regulator.RecoveryTurns

/-!
# The last recovery task of an SFC

The loop puts an SFC into recovery mode, and never writes that it is `ACTIVE`: the
test for the last task is made while this task is still among the tasks of its
SFC. So it is left to the other components to take an SFC out of recovery mode,
and an SFC whose tasks have all timed out is forgotten.
-/

namespace SelfAdaptiveMano.Regulator.SFCRestorer

open Library

variable {s s' : SFCRestorer} {modes : SFCModes} {sfcUUID : UUID}

/-- A task of the SFC is left. A task that has failed does not count. -/
def HasTask (s : SFCRestorer) (sfcUUID : UUID) : Prop :=
  ∃ sfciID, s.IsRecovering sfcUUID sfciID

/-- The SFC is in recovery mode, and its SFCIs are `ACTIVE`. -/
def IsRecovered (oib : OrchInfoBase) (sfcUUID : UUID) : Prop :=
  oib.getSFCState sfcUUID = some .recoverMode ∧
    ∀ sfciID row, oib.sfciTable.get? sfciID = some row →
      row.sfcUUID = sfcUUID → row.state = .active ∨ row.state = .deleted

/-- When the loop deletes the last task that is left of an SFC, the SFC is
`ACTIVE` afterwards. -/
def Restores (modes : SFCModes) (s : SFCRestorer) (i : Input) : Prop :=
  i = .task → ∀ sfcUUID, s.HasTask sfcUUID →
    ¬ (step modes s i).HasTask sfcUUID →
      (step modes s i).oib.getSFCState sfcUUID = some .active

/-- No SFC stays in recovery mode with all its SFCIs `ACTIVE`: a task of it is
left that may still end this. -/
def NoneForgotten (s : SFCRestorer) : Prop :=
  ∀ sfcUUID, IsRecovered s.oib sfcUUID → s.HasTask sfcUUID

/-- What the recovery loop is to achieve in a run that ends in `last`. -/
structure Recovers (modes : SFCModes) (τ : List (SFCRestorer × Input))
    (last : SFCRestorer) : Prop where
  restores : ∀ e ∈ τ, Restores modes e.1 e.2
  noneForgotten : ∀ e ∈ τ, NoneForgotten e.1
  noneForgotten_last : last.NoneForgotten

/-! ## The condition -/

/-- The loop has got to a finished task, and no other task of the SFC is left. -/
def IsLastTask (s : SFCRestorer) (sfcUUID : UUID) : Prop :=
  ∃ t rest, s.pending = t :: rest ∧ t.sfcUUID = sfcUUID ∧
    t.recoveryTaskState = .finish ∧ s.HasTask sfcUUID ∧
    ∀ recoveryTaskType sfciID task,
      s.rTM.task? sfcUUID recoveryTaskType sfciID = some task →
        task.recoveryTaskState ≠ .failed →
          recoveryTaskType = t.recoveryTaskType ∧ sfciID = t.sfciID

def PutsIntoRecovery (s : SFCRestorer) (sfcUUID : UUID) : Prop :=
  ∃ t rest, s.pending = t :: rest ∧ t.sfcUUID = sfcUUID ∧
    t.recoveryTaskState = .waiting ∧
    isReadyToRecover (s.oib.getSFCState t.sfcUUID)
      (s.oib.getSFCIState t.sfciID) = true

/-- A step after which the SFC need not be `ACTIVE` any more. -/
def Overwrites (sfcUUID : UUID) : SFCRestorer × Input → Prop
  | (s, .task) => s.PutsIntoRecovery sfcUUID
  | (_, .database oib) => oib.getSFCState sfcUUID ≠ some .active
  | _ => False

/-- The last write of the state of the SFC in a run was the `ACTIVE` of another
component. -/
def WrittenActive (sfcUUID : UUID) (τ : List (SFCRestorer × Input)) : Prop :=
  ∃ before s oib after, τ = before ++ (s, .database oib) :: after ∧
    oib.getSFCState sfcUUID = some .active ∧
    ∀ e ∈ after, ¬ Overwrites sfcUUID e

/-- Whenever the last task of an SFC is to be deleted, another component was the
last to write the state of the SFC. -/
def Released (τ : List (SFCRestorer × Input)) : Prop :=
  ∀ before s after, τ = before ++ (s, .task) :: after →
    ∀ sfcUUID, s.IsLastTask sfcUUID → WrittenActive sfcUUID before

/-- Of an SFC in recovery mode whose SFCIs are `ACTIVE`, not all tasks that are
left time out in one pass; and an SFC is not written to be so when no task of it
is left. -/
def IsWatched (s : SFCRestorer) : Input → Prop
  | .startPass => ∀ sfcUUID, IsRecovered s.oib sfcUUID →
      ∃ recoveryTaskType sfciID task,
        s.rTM.task? sfcUUID recoveryTaskType sfciID = some task ∧ s.InTime task
  | .database oib => ∀ sfcUUID, IsRecovered oib sfcUUID → s.HasTask sfcUUID
  | _ => True

/-! ## Steps -/

theorem HasTask.imp (h : s.HasTask sfcUUID)
    (htasks : ∀ sfcUUID sfciID, s.IsRecovering sfcUUID sfciID →
      s'.IsRecovering sfcUUID sfciID) : s'.HasTask sfcUUID := by
  obtain ⟨sfciID, hsfciID⟩ := h
  exact ⟨sfciID, htasks sfcUUID sfciID hsfciID⟩

theorem turn_step_startPass (hnoWaiting : s.NoWaiting) (modes : SFCModes) :
    Turn s.timedOut (step modes s .startPass) :=
  turn_stopOnError (turn_startPass hnoWaiting)

theorem isLastTask_of_goes (h : s.HasTask sfcUUID) {t : TaskTuple}
    {rest : List TaskTuple} {rTM : RecoveryTaskMaintainer}
    (hpending : s.pending = t :: rest) (hfinish : t.recoveryTaskState = .finish)
    (hdelete : s.rTM.deleteRecoveryTask t.sfcUUID t.sfciID t.recoveryTaskType =
      .ok rTM)
    (hgoes : ¬ { s with rTM := rTM, pending := rest }.HasTask sfcUUID) :
    s.IsLastTask sfcUUID := by
  have hkey : ∀ recoveryTaskType sfciID task,
      s.rTM.task? sfcUUID recoveryTaskType sfciID = some task →
        task.recoveryTaskState ≠ .failed →
          recoveryTaskType = t.recoveryTaskType ∧ sfcUUID = t.sfcUUID ∧
            sfciID = t.sfciID := by
    intro recoveryTaskType sfciID task htask hruns
    by_contra hne
    refine hgoes ⟨sfciID, recoveryTaskType, task, ?_, hruns⟩
    show rTM.task? sfcUUID recoveryTaskType sfciID = some task
    rw [RecoveryTaskMaintainer.task?_deleteRecoveryTask hdelete, if_neg hne]
    exact htask
  obtain ⟨sfciID, recoveryTaskType, task, htask, hruns⟩ := h
  refine ⟨t, rest, hpending, ?_, hfinish,
    ⟨sfciID, recoveryTaskType, task, htask, hruns⟩, ?_⟩
  · exact (hkey recoveryTaskType sfciID task htask hruns).2.1.symm
  · intro recoveryTaskType' sfciID' task' htask' hruns'
    obtain ⟨htype, -, hid⟩ :=
      hkey recoveryTaskType' sfciID' task' htask' hruns'
    exact ⟨htype, hid⟩

theorem IsLastTask.goes (h : s.IsLastTask sfcUUID) (modes : SFCModes) :
    ¬ (step modes s .task).HasTask sfcUUID ∧
      (step modes s .task).oib = s.oib := by
  obtain ⟨t, rest, hpending, rfl, hfinish, ⟨sfciID, hrecovering⟩, honly⟩ := h
  obtain ⟨recoveryTaskType, task, htask, hruns⟩ := hrecovering
  obtain ⟨rfl, rfl⟩ := honly recoveryTaskType sfciID task htask hruns
  obtain ⟨rTM, hdelete⟩ :=
    RecoveryTaskMaintainer.deleteRecoveryTask_of_task? htask
  rw [step_finish modes hpending hfinish, hdelete]
  refine ⟨?_, rfl⟩
  rintro ⟨sfciID, recoveryTaskType, task', htask', hruns'⟩
  replace htask' : rTM.task? t.sfcUUID recoveryTaskType sfciID = some task' :=
    htask'
  rw [RecoveryTaskMaintainer.task?_deleteRecoveryTask hdelete] at htask'
  split at htask'
  · cases htask'
  · next hne =>
      obtain ⟨htype, hid⟩ := honly recoveryTaskType sfciID task' htask' hruns'
      exact hne ⟨htype, rfl, hid⟩

/-- Of another SFC, all SFCIs were `ACTIVE` before, too. -/
theorem isRecovered_of_recovering {t : TaskTuple}
    (h : IsRecovered (recovering s t).oib sfcUUID)
    (hne : sfcUUID ≠ t.sfcUUID) : IsRecovered s.oib sfcUUID := by
  obtain ⟨hstate, hactive⟩ := h
  constructor
  · rw [recovering, OrchInfoBase.getSFCState_congr
      (OrchInfoBase.sfcTable_updateSFCIState ..),
      OrchInfoBase.getSFCState_updateSFCState, if_neg hne] at hstate
    exact hstate
  · intro sfciID row hrow hsfc
    have hget : (recovering s t).oib.sfciTable.get? sfciID =
        if sfciID = t.sfciID then (s.oib.sfciTable.get? t.sfciID).map
          fun row : SFCIRow => { row with state := .inactive }
        else s.oib.sfciTable.get? sfciID := Dict.get?_modify ..
    split at hget
    · next heq =>
        rw [← heq, hrow] at hget
        -- the SFCI of the task has just become `INACTIVE`
        obtain hfalse | hfalse := hactive sfciID _ hget hsfc <;> cases hfalse
    · exact hactive sfciID row (hget.trans hrow) hsfc

theorem hasTask_recovering {t : TaskTuple} :
    (recovering s t).HasTask t.sfcUUID := by
  refine ⟨t.sfciID, t.recoveryTaskType, _,
    RecoveryTaskMaintainer.task?_updateRecoveryTask .ready s.now |>.trans
      (if_pos ⟨rfl, rfl, rfl⟩), ?_⟩
  exact nofun

theorem HasTask.recovering (h : s.HasTask sfcUUID) (t : TaskTuple) :
    (recovering s t).HasTask sfcUUID := by
  have hready : RecoveryTaskState.ready ≠ .failed := by decide
  exact h.imp fun _ _ => isRecovering_put rfl fun _ _ _ => hready

/-- A step that is watched forgets no SFC, if it leaves the SFC `ACTIVE` whose
last task it deletes. -/
theorem noneForgotten_step (hnoWaiting : s.NoWaiting) (h : s.NoneForgotten)
    {i : Input} (hwatched : s.IsWatched i)
    (hlast : i = .task → ∀ sfcUUID, s.IsLastTask sfcUUID →
      s.oib.getSFCState sfcUUID = some .active) :
    (step modes s i).NoneForgotten := by
  intro sfcUUID hrecovered
  cases i with
  | notice hits =>
      have hnoticed := noticed_handleDetectionDict hnoWaiting modes hits
      replace hrecovered : IsRecovered
        ((handleDetectionDict modes hits).finalState s).oib sfcUUID := hrecovered
      rw [hnoticed.oib] at hrecovered
      exact (h sfcUUID hrecovered).imp hnoticed.tasks
  | startPass =>
      have hturn := turn_step_startPass hnoWaiting modes
      rw [hturn.oib] at hrecovered
      obtain ⟨recoveryTaskType, sfciID, task, htask, hinTime⟩ :=
        hwatched sfcUUID hrecovered
      exact ⟨sfciID, hturn.tasks _ _ (isRecovering_timedOut htask hinTime)⟩
  | task =>
      obtain hturn | ⟨t, rest, -, -, -, heq⟩ |
        ⟨t, rest, rTM, hpending, hfinish, hdelete, heq⟩ := step_task modes s
      · rw [hturn.oib] at hrecovered
        exact (h sfcUUID hrecovered).imp hturn.tasks
      · rw [heq] at hrecovered ⊢
        by_cases hsfc : sfcUUID = t.sfcUUID
        · rw [hsfc]
          exact hasTask_recovering
        · have hbefore : s.HasTask sfcUUID :=
            h sfcUUID (isRecovered_of_recovering hrecovered hsfc)
          exact HasTask.recovering hbefore t
      · rw [heq] at hrecovered ⊢
        by_contra hgoes
        have hactive := hlast rfl sfcUUID (isLastTask_of_goes
          (h sfcUUID hrecovered) hpending hfinish hdelete hgoes)
        have hmode := hrecovered.1
        rw [show s.oib.getSFCState sfcUUID = _ from hactive] at hmode
        cases hmode
  | database oib => exact hwatched sfcUUID hrecovered
  | time now => exact h sfcUUID hrecovered

/-- An SFC that is `ACTIVE` stays so, unless its state is overwritten. -/
theorem active_step (hnoWaiting : s.NoWaiting) {i : Input}
    (h : s.oib.getSFCState sfcUUID = some .active)
    (hi : ¬ Overwrites sfcUUID (s, i)) :
    (step modes s i).oib.getSFCState sfcUUID = some .active := by
  cases i with
  | notice hits =>
      show ((handleDetectionDict modes hits).finalState s).oib.getSFCState _ = _
      rw [(noticed_handleDetectionDict hnoWaiting modes hits).oib]
      exact h
  | startPass =>
      rw [(turn_step_startPass hnoWaiting modes).oib]
      exact h
  | task =>
      obtain hturn | ⟨t, rest, hpending, hwaiting, hready, heq⟩ |
        ⟨t, rest, rTM, -, -, -, heq⟩ := step_task modes s
      · rw [hturn.oib]
        exact h
      · have hne : sfcUUID ≠ t.sfcUUID := fun hsfc =>
          hi ⟨t, rest, hpending, hsfc.symm, hwaiting, hready⟩
        rw [heq, recovering, OrchInfoBase.getSFCState_congr
          (OrchInfoBase.sfcTable_updateSFCIState ..),
          OrchInfoBase.getSFCState_updateSFCState, if_neg hne]
        exact h
      · rw [heq]
        exact h
  | database oib => exact not_not.mp hi
  | time now => exact h

/-! ## Runs -/

variable {τ : List (SFCRestorer × Input)}

theorem active_of_writtenActive (h : (machine modes).Run τ s)
    (hwritten : WrittenActive sfcUUID τ) :
    s.oib.getSFCState sfcUUID = some .active := by
  obtain ⟨before, s₀, oib, after, hτ, hactive, hkept⟩ := hwritten
  induction h generalizing after with
  | start => simp at hτ
  | @step τ s i hrun _ ih =>
      obtain rfl | ⟨after', e, rfl⟩ := after.eq_nil_or_concat'
      · obtain ⟨-, heq⟩ := List.append_inj' hτ rfl
        obtain ⟨rfl, rfl⟩ := Prod.mk.inj (List.singleton_inj.mp heq)
        exact hactive
      · rw [← List.cons_append, ← List.append_assoc] at hτ
        obtain ⟨hbefore, heq⟩ := List.append_inj' hτ rfl
        obtain rfl := List.singleton_inj.mp heq
        rw [List.forall_mem_append, List.forall_mem_singleton] at hkept
        exact active_step (noWaiting_of_reachable hrun.reachable)
          (ih after' hbefore hkept.1) hkept.2

/-- In a run that starts with no SFC forgotten, in which the SFCs are written to
be `ACTIVE` before their last tasks are deleted and no task of an SFC that waits
for this times out, each SFC is restored and none is forgotten. -/
theorem recovers_of_released
    (h : ((machine modes).startingIn NoneForgotten).Run τ s)
    (hreleased : Released τ) (hwatched : ∀ e ∈ τ, IsWatched e.1 e.2) :
    Recovers modes τ s := by
  induction h with
  | start hs => exact ⟨nofun, nofun, hs.2⟩
  | @step τ s i hrun _ ih =>
      rw [List.forall_mem_append, List.forall_mem_singleton] at hwatched
      have hbefore : Released τ := by
        rintro before s₀ after rfl
        exact hreleased before s₀ (after ++ [(s, i)]) (by simp)
      obtain ⟨hrestores, hnone, hlast⟩ := ih hbefore hwatched.1
      have hnoWaiting : s.NoWaiting :=
        noWaiting_of_reachable hrun.of_startingIn.reachable
      have hactive : i = .task → ∀ sfcUUID, s.IsLastTask sfcUUID →
          s.oib.getSFCState sfcUUID = some .active := by
        rintro rfl sfcUUID hlastTask
        exact active_of_writtenActive hrun.of_startingIn
          (hreleased τ s [] rfl sfcUUID hlastTask)
      refine ⟨?_, ?_, noneForgotten_step hnoWaiting hlast hwatched.2 hactive⟩
      · rw [List.forall_mem_append, List.forall_mem_singleton]
        refine ⟨hrestores, ?_⟩
        rintro rfl sfcUUID hhas hgoes
        -- only the deletion of the last task takes all tasks away
        obtain hturn | ⟨t, rest, -, -, -, heq⟩ |
          ⟨t, rest, rTM, hpending, hfinish, hdelete, heq⟩ := step_task modes s
        · exact absurd (hhas.imp hturn.tasks) hgoes
        · rw [heq] at hgoes
          exact absurd (HasTask.recovering hhas t) hgoes
        · rw [heq] at hgoes ⊢
          exact hactive rfl sfcUUID
            (isLastTask_of_goes hhas hpending hfinish hdelete hgoes)
      · rw [List.forall_mem_append, List.forall_mem_singleton]
        exact ⟨hnone, hlast⟩

/-! ## A recovery -/

section Examples

/-- The recovery of an SFCI, where `sfcState` is the state of the SFC when the
finished task is about to be deleted. -/
def recovery (sfcState : SFCState) : List Input :=
  [.notice [exampleHit .sfci 0], .startPass, .task, .startPass, .task,
    .database (exampleBase .recoverMode .deleted .active), .startPass, .task,
    .database (exampleBase .recoverMode .active .active), .startPass, .task,
    .database (exampleBase sfcState .active .active), .startPass, .task]

theorem noneForgotten_exampleStart : exampleStart.NoneForgotten := by
  rintro sfcUUID ⟨hmode, -⟩
  simp only [exampleStart, exampleBase, OrchInfoBase.getSFCState,
    Dict.get?_set, Dict.get?_empty] at hmode
  split at hmode <;> cases hmode

theorem run_recovery (sfcState : SFCState) :
    ((machine exampleModes).startingIn NoneForgotten).Run
      ((machine exampleModes).trace exampleStart (recovery sfcState))
      ((recovery sfcState).foldl (machine exampleModes).step exampleStart) := by
  have hnotice : (machine exampleModes).admits exampleStart
      (.notice [exampleHit .sfci 0]) := by
    refine admits_exampleNotice (by decide) ?_ rfl rfl
    exact fun hit hhit => ⟨.sfci, 0, by decide, List.mem_singleton.mp hhit⟩
  have harrive : ((machine exampleModes).startingIn NoneForgotten).Arrive
      exampleStart (recovery sfcState) :=
    ⟨hnotice, rfl, trivial, rfl, trivial, sound_exampleBase _ _ _, rfl, trivial,
      sound_exampleBase _ _ _, rfl, trivial, sound_exampleBase _ _ _, rfl,
      trivial, trivial⟩
  have hstart : ((machine exampleModes).startingIn NoneForgotten).Run []
      exampleStart :=
    .start ⟨⟨fun _ => rfl, fun _ => rfl, rfl, rfl, sound_exampleBase _ _ _⟩,
      noneForgotten_exampleStart⟩
  exact hstart.arrive harrive

theorem isLastTask_recovery (sfcState : SFCState) :
    IsLastTask (((recovery sfcState).take 13).foldl (machine exampleModes).step
      exampleStart) exampleSFC.sfcUUID := by
  have hruns : RecoveryTaskState.finish ≠ .failed := by decide
  refine ⟨⟨exampleSFC.sfcUUID, .sfci, 0, .finish⟩, [], rfl, rfl, rfl,
    ⟨0, .sfci, _, rfl, hruns⟩, ?_⟩
  intro recoveryTaskType sfciID task htask _
  have hpair := TaskDict.mem_pairs_iff.mpr ⟨task, htask⟩
  cases recoveryTaskType with
  | sfc => exact absurd hpair List.not_mem_nil
  | sfci => exact ⟨rfl, (Prod.mk.inj (List.mem_singleton.mp hpair)).2⟩

/-- The task of the SFCI 0 runs and is in time, for each SFC of the tables that is
in recovery mode. -/
def isWatched (s : SFCRestorer) (oib : OrchInfoBase) : Bool :=
  oib.sfcTable.keys.all fun sfcUUID =>
    decide (oib.getSFCState sfcUUID = some .recoverMode →
      ((s.rTM.task? sfcUUID .sfci 0).any fun task =>
        task.recoveryTaskState ≠ .failed ∧
          s.now - task.timestamp ≤ RECOVERY_TASK_TIMEOUT) = true)

theorem inTime_of_isWatched {oib : OrchInfoBase} (h : isWatched s oib = true)
    (hrecovered : IsRecovered oib sfcUUID) :
    ∃ task, s.rTM.task? sfcUUID .sfci 0 = some task ∧ s.InTime task := by
  have hkey : sfcUUID ∈ oib.sfcTable.keys := by
    obtain ⟨row, hrow, -⟩ := Option.map_eq_some_iff.mp hrecovered.1
    exact Dict.mem_keys_iff.mpr ⟨row, hrow⟩
  have hany := of_decide_eq_true (List.all_eq_true.mp h sfcUUID hkey)
    hrecovered.1
  obtain ⟨task, htask, hinTime⟩ := (Option.any_eq_true _ _).mp hany
  rw [decide_eq_true_eq] at hinTime
  exact ⟨task, htask, hinTime⟩

theorem isWatched_of_check {e : SFCRestorer × Input}
    (h : (match e.2 with
      | .startPass => isWatched e.1 e.1.oib
      | .database oib => isWatched e.1 oib
      | _ => true) = true) : IsWatched e.1 e.2 := by
  obtain ⟨s, i⟩ := e
  cases i with
  | startPass =>
      intro sfcUUID hrecovered
      exact ⟨.sfci, 0, inTime_of_isWatched h hrecovered⟩
  | database oib =>
      intro sfcUUID hrecovered
      obtain ⟨task, htask, hinTime⟩ := inTime_of_isWatched h hrecovered
      exact ⟨0, .sfci, task, htask, hinTime.1⟩
  | notice hits => trivial
  | task => trivial
  | time now => trivial

theorem not_isLastTask_of_check
    (h : (s.pending.head?.all fun t => t.recoveryTaskState ≠ .finish) = true) :
    ¬ s.IsLastTask sfcUUID := by
  rintro ⟨t, rest, hpending, -, hfinish, -⟩
  rw [hpending, List.head?_cons, Option.all_some, decide_eq_true_eq] at h
  exact h hfinish

/-- Before the last task is deleted, another component writes that the SFC is
`ACTIVE`. -/
theorem released_recovery :
    Released ((machine exampleModes).trace exampleStart (recovery .active)) := by
  intro before s after htrace sfcUUID hlast
  have hsplit : (machine exampleModes).trace exampleStart (recovery .active) =
      (machine exampleModes).trace exampleStart ((recovery .active).take 13) ++
        [(((recovery .active).take 13).foldl (machine exampleModes).step
          exampleStart, .task)] := rfl
  rw [hsplit] at htrace
  obtain rfl | ⟨after', e, rfl⟩ := after.eq_nil_or_concat'
  · obtain ⟨rfl, heq⟩ := List.append_inj' htrace rfl
    obtain ⟨rfl, -⟩ := Prod.mk.inj (List.singleton_inj.mp heq)
    obtain ⟨t, rest, hpending, rfl, -⟩ := hlast
    obtain ⟨rfl, -⟩ := List.cons.inj hpending
    refine ⟨((machine exampleModes).trace exampleStart
      ((recovery .active).take 11)), _, _, [_], rfl, rfl, ?_⟩
    rw [List.forall_mem_singleton]
    exact id
  · rw [← List.cons_append, ← List.append_assoc] at htrace
    obtain ⟨heq, -⟩ := List.append_inj' htrace rfl
    have hall : ((machine exampleModes).trace exampleStart
        ((recovery .active).take 13)).all (fun e =>
          e.1.pending.head?.all fun t => t.recoveryTaskState ≠ .finish) =
        true := by decide
    refine absurd hlast (not_isLastTask_of_check ?_)
    refine List.all_eq_true.mp hall (s, .task) ?_
    rw [heq]
    simp

theorem recovers_of_released_recovery :
    IsLastTask (((recovery .active).take 13).foldl (machine exampleModes).step
        exampleStart) exampleSFC.sfcUUID ∧
      Recovers exampleModes
        ((machine exampleModes).trace exampleStart (recovery .active))
        ((recovery .active).foldl (machine exampleModes).step exampleStart) := by
  refine ⟨isLastTask_recovery .active,
    recovers_of_released (run_recovery .active) released_recovery ?_⟩
  have hall : ((machine exampleModes).trace exampleStart
      (recovery .active)).all (fun e => match e.2 with
        | .startPass => isWatched e.1 e.1.oib
        | .database oib => isWatched e.1 oib
        | _ => true) = true := by decide
  exact fun e he => isWatched_of_check (List.all_eq_true.mp hall e he)

/-- The SFC stays in recovery mode after its SFCI has recovered. -/
theorem recovered_in_recoverMode :
    ¬ ∀ (modes : SFCModes) (τ : List (SFCRestorer × Input)) (s : SFCRestorer),
      ((machine modes).startingIn NoneForgotten).Run τ s →
        Recovers modes τ s := by
  intro h
  obtain ⟨hrestores, -, -⟩ := h exampleModes _ _ (run_recovery .recoverMode)
  have hactive := hrestores
    (((recovery .recoverMode).take 13).foldl (machine exampleModes).step
      exampleStart, .task) (by simp [recovery, Machine.trace]) rfl
    exampleSFC.sfcUUID
  have hlast := isLastTask_recovery .recoverMode
  obtain ⟨t, rest, -, -, -, hhas, -⟩ := id hlast
  have hstate := hactive hhas (hlast.goes exampleModes).1
  rw [(hlast.goes exampleModes).2] at hstate
  exact absurd hstate (by decide)

end Examples

end SelfAdaptiveMano.Regulator.SFCRestorer
