import SelfAdaptiveMano.Library.Log
import SelfAdaptiveMano.Regulator.RecoveryTurns

/-!
# The requests of a recovery

Each request that a recovery sends is a milestone: a task sends it when it moves
from one state to a later one. The SFCIs have one task each, but the requests
about the SFC may be sent by each of its tasks. So no request is sent twice when
an SFC whose classifier was hit has one task only.
-/

namespace SelfAdaptiveMano.Regulator

open Library

inductive Ask where
  | delSFCI (sfciID : Nat)
  | addSFCI (sfciID : Nat)
  | delSFC (sfcUUID : UUID)
  | addSFC (sfcUUID : UUID)
  deriving DecidableEq

def askOf (request : Request) : Option Ask :=
  match request.requestType with
  | .delSFCI => request.attributes.sfci.map fun sfci => .delSFCI sfci.sfciID
  | .addSFCI => request.attributes.sfci.map fun sfci => .addSFCI sfci.sfciID
  | .delSFC => request.attributes.sfc.map fun sfc => .delSFC sfc.sfcUUID
  | .addSFC => request.attributes.sfc.map fun sfc => .addSFC sfc.sfcUUID
  | _ => none

structure TaskKey where
  recoveryTaskType : RecoveryTaskType
  sfcUUID : UUID
  sfciID : Nat
  deriving DecidableEq

def TaskTuple.key (t : TaskTuple) : TaskKey :=
  ⟨t.recoveryTaskType, t.sfcUUID, t.sfciID⟩

def TaskKey.Owns (k : TaskKey) : Ask → Prop
  | .delSFCI sfciID => k.sfciID = sfciID
  | .addSFCI sfciID => k.sfciID = sfciID
  | .delSFC sfcUUID => k.recoveryTaskType = .sfc ∧ k.sfcUUID = sfcUUID
  | .addSFC sfcUUID => k.recoveryTaskType = .sfc ∧ k.sfcUUID = sfcUUID

def RecoveryTask.rank (task : RecoveryTask) : Nat :=
  match task.recoveryTaskState with
  | .waiting => 0
  | .ready => 1
  | .deletingSFCI => 2
  | .waitingToDeleteSFC => 3
  | .deletingSFC => if task.reqDict.contains .addSFC then 5 else 4
  | .addingSFCI => 6
  | .finish => 7
  | .failed => 8

def Ask.stage : Ask → Nat
  | .delSFCI _ => 2
  | .delSFC _ => 4
  | .addSFC _ => 5
  | .addSFCI _ => 6

namespace SFCRestorer

def asked (s : SFCRestorer) (ask : Ask) : Nat :=
  s.sent.countP fun request => askOf request = some ask

def notices (τ : List (SFCRestorer × Input)) : List (List AffectedSFCI) :=
  τ.filterMap fun e =>
    match e.2 with
    | .notice hits => some hits
    | _ => none

/-- An SFC whose classifier was hit has one SFCI that was hit, if it is to
recover by itself. -/
def Separate (modes : SFCModes) (hits : List AffectedSFCI) : Prop :=
  ∀ hit ∈ hits, ∀ hit' ∈ hits, modes.isAutoRecovery hit.sfc = true →
    modes.isAutoRecovery hit'.sfc = true → hit.recoveryTaskType = .sfc →
    hit'.sfc.sfcUUID = hit.sfc.sfcUUID → hit'.sfciID = hit.sfciID

def taskAt (s : SFCRestorer) (k : TaskKey) : Option RecoveryTask :=
  s.rTM.task? k.sfcUUID k.recoveryTaskType k.sfciID

def rankAt (s : SFCRestorer) (k : TaskKey) : Option Nat :=
  (s.taskAt k).map RecoveryTask.rank

def Named (modes : SFCModes) (hits : List AffectedSFCI) (k : TaskKey) : Prop :=
  ∃ hit ∈ hits, modes.isAutoRecovery hit.sfc = true ∧
    k = ⟨hit.recoveryTaskType, hit.sfc.sfcUUID, hit.sfciID⟩

structure Recovery (modes : SFCModes) (hits : List AffectedSFCI)
    (s : SFCRestorer) : Prop where
  tasks : ∀ k task, s.taskAt k = some task → Named modes hits k
  tables : ∀ recoveryTaskType sfcUUID,
    (s.rTM.taskDict recoveryTaskType).contains sfcUUID = true →
      ∃ sfciID, Named modes hits ⟨recoveryTaskType, sfcUUID, sfciID⟩
  sound : Sound s.oib
  keys : (s.pending.map TaskTuple.key).Nodup
  pending : ∀ t ∈ s.pending, ∃ task, s.taskAt t.key = some task ∧
    task.recoveryTaskState = t.recoveryTaskState
  types : ∀ k task, s.taskAt k = some task →
    task.recoveryTaskState = .deletingSFC → k.recoveryTaskType = .sfc
  once : PassedOnce TaskKey.Owns Ask.stage s.rankAt s.asked

variable {s s' s'' : SFCRestorer} {modes : SFCModes} {hits : List AffectedSFCI}

section Writes

variable {k : TaskKey} {t : TaskTuple} {task task' : RecoveryTask}

structure Written (k : TaskKey) (task : RecoveryTask) (s s' : SFCRestorer) :
    Prop where
  taskAt : ∀ l, s'.taskAt l = if l = k then some task else s.taskAt l
  tables : ∀ recoveryTaskType sfcUUID,
    (s'.rTM.taskDict recoveryTaskType).contains sfcUUID = true →
      (s.rTM.taskDict recoveryTaskType).contains sfcUUID = true ∨
        recoveryTaskType = k.recoveryTaskType ∧ sfcUUID = k.sfcUUID
  pending : s'.pending = s.pending

theorem Written.trans (h : Written k task s s') (h' : Written k task' s' s'') :
    Written k task' s s'' where
  taskAt l := by
    rw [h'.taskAt, h.taskAt]
    split <;> rfl
  tables recoveryTaskType sfcUUID hcontains := by
    obtain hbefore | hkey := h'.tables _ _ hcontains
    · exact h.tables _ _ hbefore
    · exact Or.inr hkey
  pending := h'.pending.trans h.pending

theorem Written.of_eq (h : Written k task s s') (hrTM : s''.rTM = s'.rTM)
    (hpending : s''.pending = s'.pending) : Written k task s s'' where
  taskAt l := by
    rw [SFCRestorer.taskAt, hrTM]
    exact h.taskAt l
  tables := by
    rw [hrTM]
    exact h.tables
  pending := hpending.trans h.pending

theorem written_put (s : SFCRestorer) (t : TaskTuple) (task : RecoveryTask) :
    Written t.key task s { s with
      rTM := s.rTM.modifyTasks t.recoveryTaskType fun tasks =>
        tasks.put t.sfcUUID t.sfciID task } where
  taskAt l := by
    refine (RecoveryTaskMaintainer.task?_put task).trans ?_
    obtain ⟨recoveryTaskType, sfcUUID, sfciID⟩ := l
    simp only [TaskTuple.key, TaskKey.mk.injEq]
    rfl
  tables recoveryTaskType sfcUUID hcontains := by
    simp only [RecoveryTaskMaintainer.modifyTasks, TaskDict.put, Dict.contains]
      at hcontains ⊢
    by_cases htype : recoveryTaskType = t.recoveryTaskType
    · subst htype
      rw [Function.update_self, Dict.get?_set] at hcontains
      by_cases hsfc : sfcUUID = t.sfcUUID
      · exact Or.inr ⟨rfl, hsfc⟩
      · rw [if_neg hsfc] at hcontains
        exact Or.inl hcontains
    · rw [Function.update_of_ne htype] at hcontains
      exact Or.inl hcontains
  pending := rfl

/-- The task in a place moves on, and what is asked for is a milestone that it
passes. -/
def Advance (k : TaskKey) (s s' : SFCRestorer) : Prop :=
  ∃ task task', s.taskAt k = some task ∧ Written k task' s s' ∧
    task.rank ≤ task'.rank ∧
    (task'.recoveryTaskState = .deletingSFC → k.recoveryTaskType = .sfc) ∧
    (Sound s.oib → Sound s'.oib) ∧
    ∀ ask, s'.asked ask = s.asked ask ∨
      s'.asked ask = s.asked ask + 1 ∧ k.Owns ask ∧
        task.rank < ask.stage ∧ ask.stage ≤ task'.rank

theorem advance_renew (htask : s.taskAt k = some task)
    (hwritten : Written k task' s s') (hle : task.rank ≤ task'.rank)
    (htype : task'.recoveryTaskState = .deletingSFC →
      k.recoveryTaskType = .sfc)
    (hsound : Sound s.oib → Sound s'.oib) (hsent : s'.sent = s.sent) :
    Advance k s s' := by
  refine ⟨task, task', htask, hwritten, hle, htype, hsound, fun ask => ?_⟩
  refine Or.inl ?_
  rw [asked, hsent, asked]

theorem advance_request {req : Request} (htask : s.taskAt k = some task)
    (hwritten : Written k task' s s') (hle : task.rank ≤ task'.rank)
    (htype : task'.recoveryTaskState = .deletingSFC →
      k.recoveryTaskType = .sfc)
    (hoib : s'.oib = s.oib) (hsent : s'.sent = s.sent ++ [req])
    (hreq : ∀ ask, askOf req = some ask →
      k.Owns ask ∧ task.rank < ask.stage ∧ ask.stage ≤ task'.rank) :
    Advance k s s' := by
  refine ⟨task, task', htask, hwritten, hle, htype, fun h => hoib ▸ h,
    fun ask => ?_⟩
  rw [asked, hsent, List.countP_append, ← asked]
  by_cases hask : askOf req = some ask
  · refine Or.inr ⟨?_, hreq ask hask⟩
    rw [List.countP_singleton, if_pos (by simpa using hask)]
  · refine Or.inl ?_
    rw [List.countP_singleton, if_neg (by simpa using hask), Nat.add_zero]

def nextRequest (s : SFCRestorer) (requestType : RequestType)
    (attributes : RequestAttributes) : Request :=
  ⟨⟨generator, s.clock⟩, requestType, .initial, attributes⟩

def withRequest (task : RecoveryTask) (req : Request) : RecoveryTask :=
  { task with reqDict := task.reqDict.set req.requestType req }

def requested (s : SFCRestorer) (t : TaskTuple) (task : RecoveryTask)
    (req : Request) : SFCRestorer :=
  let rTM := s.rTM.modifyTasks t.recoveryTaskType fun tasks =>
    tasks.put t.sfcUUID t.sfciID (withRequest task req)
  { s with rTM := rTM, sent := s.sent ++ [req], clock := s.clock + 1 }

theorem run_sendRequest (htask : s.taskAt t.key = some task)
    (requestType : RequestType) (attributes : RequestAttributes) :
    (sendRequest t requestType attributes).run s =
      .ok () (s.requested t task (s.nextRequest requestType attributes)) := by
  replace htask : s.rTM.task? t.sfcUUID t.recoveryTaskType t.sfciID =
    some task := htask
  have hnote : (addRequest2Task t (s.nextRequest requestType attributes)).run
      { s with clock := s.clock + 1 } = .ok () { s with
        rTM := s.rTM.modifyTasks t.recoveryTaskType fun tasks =>
          tasks.put t.sfcUUID t.sfciID
            (withRequest task (s.nextRequest requestType attributes))
        clock := s.clock + 1 } := by
    rw [addRequest2Task, PyM.run_bind_get]
    exact PyM.run_bind_ofOption htask _ _
  rw [sendRequest, PyM.run_bind_ok (x := uuid1) rfl]
  exact PyM.run_bind_ok hnote _

theorem written_requested (req : Request) :
    Written t.key (withRequest task req) s (s.requested t task req) :=
  (written_put s t _).of_eq rfl rfl

def renewed (s : SFCRestorer) (t : TaskTuple)
    (recoveryTaskState : RecoveryTaskState) : SFCRestorer :=
  let rTM := s.rTM.updateRecoveryTask t.sfcUUID t.sfciID t.recoveryTaskType
    recoveryTaskState s.now
  { s with rTM := rTM }

theorem written_renewed (recoveryTaskState : RecoveryTaskState) :
    Written t.key (.new t.sfciID recoveryTaskState s.now) s
      (s.renewed t recoveryTaskState) :=
  written_put s t _

theorem run_request_renew (htask : s.taskAt t.key = some task)
    (requestType : RequestType) (attributes : RequestAttributes)
    (recoveryTaskState : RecoveryTaskState) :
    (do sendRequest t requestType attributes
        updateTask t recoveryTaskState : PyM SFCRestorer Unit).run s =
      .ok () ((s.requested t task
        (s.nextRequest requestType attributes)).renewed t recoveryTaskState) :=
  PyM.run_bind_ok (run_sendRequest htask requestType attributes) _

theorem advance_requested_renewed (htask : s.taskAt t.key = some task)
    {req : Request} {recoveryTaskState : RecoveryTaskState}
    (hle : task.rank ≤ (RecoveryTask.new t.sfciID recoveryTaskState s.now).rank)
    (htype : recoveryTaskState = .deletingSFC → t.recoveryTaskType = .sfc)
    (hreq : ∀ ask, askOf req = some ask → t.key.Owns ask ∧
      task.rank < ask.stage ∧
        ask.stage ≤ (RecoveryTask.new t.sfciID recoveryTaskState s.now).rank) :
    Advance t.key s ((s.requested t task req).renewed t recoveryTaskState) :=
  advance_request htask
    ((written_requested req).trans (written_renewed recoveryTaskState)) hle htype
    rfl rfl hreq

end Writes

section Stages

variable {t : TaskTuple} {task : RecoveryTask}

def Moves (t : TaskTuple) (s : SFCRestorer) (x : PyM SFCRestorer Unit) : Prop :=
  PyM.Meets (· = s) x (fun _ s' => s' = s ∨ Advance t.key s s')
    fun s' => s' = s ∨ Advance t.key s s'

theorem moves_of_run {x : PyM SFCRestorer Unit} (hrun : x.run s = .ok () s')
    (h : Advance t.key s s') : Moves t s x := by
  rintro _ rfl
  rw [hrun]
  exact Or.inr h

theorem moves_pure : Moves t s (pure ()) := by
  rintro _ rfl
  exact Or.inl rfl

theorem moves_throw (e : PyError) : Moves t s (throw e) := by
  rintro _ rfl
  exact Or.inl rfl

theorem moves_waitingStage (htask : s.taskAt t.key = some task)
    (hstate : task.recoveryTaskState = .waiting) :
    Moves t s (waitingStage t s.oib) := by
  refine PyM.Meets.ite (fun _ => ?_) fun _ => moves_pure
  have hwritten := written_renewed (s := s) (t := t) .ready
  refine moves_of_run rfl
    (advance_renew htask (hwritten.of_eq rfl rfl) ?_ nofun ?_ rfl)
  · simp [RecoveryTask.rank, hstate]
  · exact fun h => h.recoverMode t.sfcUUID t.sfciID

theorem moves_readyStage (hsound : Sound s.oib)
    (htask : s.taskAt t.key = some task)
    (hstate : task.recoveryTaskState = .ready) :
    Moves t s (readyStage t s.oib) := by
  have hrank : task.rank = 1 := by simp [RecoveryTask.rank, hstate]
  refine PyM.Meets.bind_ofOption (fun sfci hsfci => ?_) fun _ => Or.inl
  obtain ⟨row, hrow, rfl⟩ := Option.map_eq_some_iff.mp hsfci
  have hid : row.pickle.sfciID = t.sfciID := hsound.sfci _ _ hrow
  refine PyM.Meets.ite (fun _ => ?_) fun _ => PyM.Meets.ite (fun _ => ?_) ?_
  · refine moves_of_run (run_request_renew htask _ _ _)
      (advance_requested_renewed htask ?_ (by rintro ⟨⟩) fun ask hask => ?_)
    · rw [hrank]
      exact Nat.le_succ 1
    · cases hask
      rw [hrank]
      exact ⟨hid.symm, Nat.one_lt_two, Nat.le_refl 2⟩
  · refine moves_of_run rfl
      (advance_renew htask (written_renewed .deletingSFCI) ?_ nofun id rfl)
    rw [hrank]
    exact Nat.le_succ 1
  · exact fun _ => moves_pure

theorem moves_sfciDeletedStage_sfci (hsound : Sound s.oib)
    (htask : s.taskAt t.key = some task)
    (hstate : task.recoveryTaskState = .deletingSFCI)
    (htype : t.recoveryTaskType = .sfci) :
    Moves t s (sfciDeletedStage t s.oib) := by
  have hrank : task.rank = 2 := by simp [RecoveryTask.rank, hstate]
  simp only [sfciDeletedStage, htype]
  refine PyM.Meets.bind_ofOption (fun sfci hsfci => ?_) fun _ => Or.inl
  obtain ⟨row, hrow, rfl⟩ := Option.map_eq_some_iff.mp hsfci
  have hid : row.pickle.sfciID = t.sfciID := hsound.sfci _ _ hrow
  have ht : { t with sfciID := row.pickle.sfciID } = t := by rw [hid]
  simp only [← htype, ht]
  refine moves_of_run (run_request_renew htask _ _ _)
    (advance_requested_renewed htask ?_ (by rintro ⟨⟩) fun ask hask => ?_)
  · rw [hrank]
    exact Nat.le_add_left 2 4
  · cases hask
    rw [hrank]
    exact ⟨hid.symm, Nat.le_add_left 3 3, Nat.le_refl 6⟩

theorem Sound.sfc_eq {oib : OrchInfoBase} (h : Sound oib) {sfcUUID : UUID}
    {sfc : SFC} (hsfc : oib.getSFC4DB sfcUUID = some sfc) :
    sfc.sfcUUID = sfcUUID := by
  obtain ⟨row, hrow, rfl⟩ := Option.map_eq_some_iff.mp hsfc
  exact h.sfc sfcUUID row hrow

theorem moves_sfciDeletedStage_sfc (hsound : Sound s.oib)
    (htask : s.taskAt t.key = some task)
    (hstate : task.recoveryTaskState = .deletingSFCI)
    (htype : t.recoveryTaskType = .sfc) :
    Moves t s (sfciDeletedStage t s.oib) := by
  have hrank : task.rank = 2 := by simp [RecoveryTask.rank, hstate]
  have hfirst := written_renewed (s := s) (t := t) .waitingToDeleteSFC
  have htask' : (s.renewed t .waitingToDeleteSFC).taskAt t.key =
      some (.new t.sfciID .waitingToDeleteSFC s.now) := by
    rw [hfirst.taskAt, if_pos rfl]
  rw [sfciDeletedStage]
  simp only [htype]
  by_cases hall : s.oib.isAllSFCIDeletedOrInitFailed t.sfcUUID = true
  · simp only [hall, if_true]
    refine moves_of_run ((PyM.run_bind_ok (x := updateTask t _) rfl _).trans
      (run_request_renew htask' _ _ _)) ?_
    refine advance_request htask (hfirst.trans ((written_requested _).trans
      (written_renewed .deletingSFC))) ?_ (fun _ => htype) rfl rfl
      fun ask hask => ?_
    · rw [hrank]
      exact Nat.le_add_left 2 2
    · obtain ⟨sfc, hsfc, rfl⟩ := Option.map_eq_some_iff.mp hask
      rw [hrank]
      exact ⟨⟨htype, (hsound.sfc_eq hsfc).symm⟩, Nat.le_succ 3, Nat.le_refl 4⟩
  · simp only [hall]
    refine moves_of_run rfl (advance_renew htask hfirst ?_ (by rintro ⟨⟩) id rfl)
    rw [hrank]
    exact Nat.le_succ 2

theorem moves_sfcDeletedStage (hsound : Sound s.oib)
    (htask : s.taskAt t.key = some task)
    (hstate : task.recoveryTaskState = .deletingSFC)
    (htype : t.recoveryTaskType = .sfc) :
    Moves t s (sfcDeletedStage t s.oib) := by
  have hreq : s.rTM.getRequestFromTask t.sfcUUID t.recoveryTaskType t.sfciID
      .addSFC = .ok (task.reqDict.get? .addSFC) := by
    replace htask : s.rTM.task? t.sfcUUID t.recoveryTaskType t.sfciID =
      some task := htask
    rw [RecoveryTaskMaintainer.getRequestFromTask, htask]
  refine PyM.Meets.bind_ofOption (fun sfc hsfc => ?_) fun _ => Or.inl
  refine PyM.Meets.bind_get fun s' hs' => ?_
  subst hs'
  rw [hreq]
  refine PyM.Meets.bind_ofExcept (fun req hreq' => ?_) fun _ => Or.inl
  cases hreq'
  refine PyM.Meets.bind_ofExcept (fun flag hflag => ?_) fun _ => Or.inl
  cases hnoted : task.reqDict.get? .addSFC with
  | none =>
      have hrank : task.rank = 4 := by
        simp [RecoveryTask.rank, hstate, Dict.contains, hnoted]
      have hrank' : ∀ req : Request, req.requestType = .addSFC →
          (withRequest task req).rank = 5 := by
        intro req hreq
        simp [RecoveryTask.rank, withRequest, hstate, hreq, Dict.contains]
      rw [hnoted] at hflag
      cases hflag
      refine moves_of_run (run_sendRequest htask _ _)
        (advance_request htask (written_requested _) ?_ (fun _ => htype) rfl rfl ?_)
      · rw [hrank, hrank' _ rfl]
        exact Nat.le_succ 4
      · intro ask hask
        cases hask
        rw [hrank, hrank' _ rfl]
        exact ⟨⟨htype, (hsound.sfc_eq hsfc).symm⟩, Nat.le_refl 5, Nat.le_refl 5⟩
  | some req =>
      -- the request is not retried so often that it would be sent again
      have hno : flag = false := by
        rw [hnoted, sendReqFlag, OrchInfoBase.getRequestRetryCnt] at hflag
        cases hrow : s'.oib.requestTable.get? req.requestID with
        | none =>
            rw [hrow] at hflag
            cases hflag
        | some row =>
            rw [hrow] at hflag
            cases hflag
            exact decide_eq_false
              (Nat.not_lt.mpr (hsound.retryCnt req.requestID row hrow))
      subst hno
      exact moves_pure

theorem moves_sfcAddedStage (modes : SFCModes)
    (htask : s.taskAt t.key = some task)
    (hstate : task.recoveryTaskState = .deletingSFC)
    (honly : s.rTM.getSFCIIDListOfATask t.sfcUUID t.recoveryTaskType =
      .ok [t.sfciID]) :
    Moves t s (sfcAddedStage modes t s.oib) := by
  have hrank : task.rank ≤ 5 := by
    simp only [RecoveryTask.rank, hstate]
    split
    · exact Nat.le_refl 5
    · exact Nat.le_succ 4
  refine PyM.Meets.bind_ofOption (fun sfc hsfc => ?_) fun _ => Or.inl
  refine PyM.Meets.ite (fun _ => ?_) fun _ => ?_
  · refine moves_of_run rfl
      (advance_renew htask (written_renewed .finish) ?_ (by rintro ⟨⟩) id rfl)
    exact Nat.le_trans hrank (Nat.le_add_left 5 2)
  · refine PyM.Meets.bind_get fun s' hs' => ?_
    subst hs'
    rw [honly]
    refine moves_of_run ((PyM.run_bind_ok
      (run_request_renew htask _ _ _) _).trans rfl)
      (advance_requested_renewed htask ?_ (by rintro ⟨⟩) fun ask hask => ?_)
    · exact Nat.le_succ_of_le hrank
    · cases hask
      exact ⟨rfl, Nat.lt_succ_of_le hrank, Nat.le_refl 6⟩

theorem moves_addingSFCIStage (htask : s.taskAt t.key = some task)
    (hstate : task.recoveryTaskState = .addingSFCI) :
    Moves t s (addingSFCIStage t s.oib) := by
  by_cases hactive : s.oib.getSFCIState t.sfciID = some .active
  · have hrun : (addingSFCIStage t s.oib).run s =
        .ok () (s.renewed t .finish) := by
      rw [run_addingSFCIStage, if_pos hactive]
      rfl
    refine moves_of_run hrun
      (advance_renew htask (written_renewed .finish) ?_ (by rintro ⟨⟩) id rfl)
    simp [RecoveryTask.rank, hstate, RecoveryTask.new]
  · rintro _ rfl
    rw [run_addingSFCIStage, if_neg hactive]
    exact Or.inl rfl

/-- The turn of a task that has not finished, where it is the only task of its
SFC if the classifier was hit. -/
theorem moves_processRecoveryTask (modes : SFCModes) (hsound : Sound s.oib)
    (htask : s.taskAt t.key = some task)
    (hstate : task.recoveryTaskState = t.recoveryTaskState)
    (hfinish : t.recoveryTaskState ≠ .finish)
    (htype : t.recoveryTaskState = .deletingSFC → t.recoveryTaskType = .sfc)
    (honly : t.recoveryTaskType = .sfc →
      s.rTM.getSFCIIDListOfATask t.sfcUUID t.recoveryTaskType =
        .ok [t.sfciID]) :
    Moves t s (processRecoveryTask modes t) := by
  refine PyM.Meets.bind_get fun s' hs' => ?_
  subst hs'
  cases ht : t.recoveryTaskState with
  | waiting => exact moves_waitingStage htask (hstate.trans ht)
  | ready => exact moves_readyStage hsound htask (hstate.trans ht)
  | deletingSFCI =>
      have hdeleted : Moves t s' (sfciDeletedStage t s'.oib) := by
        cases htype : t.recoveryTaskType with
        | sfci =>
            exact moves_sfciDeletedStage_sfci hsound htask (hstate.trans ht) htype
        | sfc =>
            exact moves_sfciDeletedStage_sfc hsound htask (hstate.trans ht) htype
      dsimp only
      split
      · exact hdeleted
      · exact hdeleted
      · exact moves_pure
  | waitingToDeleteSFC => exact moves_pure
  | deletingSFC =>
      dsimp only
      split
      · exact moves_sfcDeletedStage hsound htask (hstate.trans ht) (htype ht)
      · exact moves_sfcAddedStage modes htask (hstate.trans ht)
          (honly (htype ht))
      · exact moves_pure
      · exact moves_pure
      · exact moves_pure
      · exact moves_pure
      · exact moves_throw _
  | addingSFCI => exact moves_addingSFCIStage htask (hstate.trans ht)
  | finish => exact absurd ht hfinish
  | failed => exact moves_pure

end Stages

end SFCRestorer

end SelfAdaptiveMano.Regulator
