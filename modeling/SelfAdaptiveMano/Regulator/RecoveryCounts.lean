import SelfAdaptiveMano.Regulator.RecoveryRequests

/-!
# Each request of a recovery is sent once

Along a run with one notice, the tasks are those of the SFCIs that the notice
names, and no two of them may ask for the same thing.
-/

namespace SelfAdaptiveMano.Regulator.SFCRestorer

open Library

variable {s s' : SFCRestorer} {modes : SFCModes} {hits : List AffectedSFCI}

section Steps

variable {k l : TaskKey}

theorem eq_of_sfciID (hnodup : (hits.map AffectedSFCI.sfciID).Nodup)
    (hk : Named modes hits k) (hl : Named modes hits l)
    (h : l.sfciID = k.sfciID) : l = k := by
  obtain ⟨hit, hhit, -, rfl⟩ := hk
  obtain ⟨hit', hhit', -, rfl⟩ := hl
  rw [List.inj_on_of_nodup_map hnodup hhit' hhit h]

theorem eq_of_sfc (hnodup : (hits.map AffectedSFCI.sfciID).Nodup)
    (hseparate : Separate modes hits) (hk : Named modes hits k)
    (hl : Named modes hits l) (htype : k.recoveryTaskType = .sfc)
    (h : l.sfcUUID = k.sfcUUID) : l = k := by
  refine eq_of_sfciID hnodup hk hl ?_
  obtain ⟨hit, hhit, hauto, rfl⟩ := hk
  obtain ⟨hit', hhit', hauto', rfl⟩ := hl
  exact hseparate hit hhit hit' hhit' hauto hauto' htype h

theorem eq_of_owns (hnodup : (hits.map AffectedSFCI.sfciID).Nodup)
    (hseparate : Separate modes hits) (hk : Named modes hits k)
    (hl : Named modes hits l) {ask : Ask} (hkask : k.Owns ask)
    (hlask : l.Owns ask) : l = k := by
  cases ask with
  | delSFCI sfciID => exact eq_of_sfciID hnodup hk hl (hlask.trans hkask.symm)
  | addSFCI sfciID => exact eq_of_sfciID hnodup hk hl (hlask.trans hkask.symm)
  | delSFC sfcUUID =>
      exact eq_of_sfc hnodup hseparate hk hl hkask.1 (hlask.2.trans hkask.2.symm)
  | addSFC sfcUUID =>
      exact eq_of_sfc hnodup hseparate hk hl hkask.1 (hlask.2.trans hkask.2.symm)

theorem rankAt_eq {task : RecoveryTask} (h : s.taskAt k = some task) :
    s.rankAt k = some task.rank := by
  rw [rankAt, h, Option.map_some]

/-- A task that the pass will not get to again moves on. -/
theorem Recovery.advance (hnodup : (hits.map AffectedSFCI.sfciID).Nodup)
    (hseparate : Separate modes hits) (h : Recovery modes hits s)
    (hkey : k ∉ s.pending.map TaskTuple.key) (hadvance : Advance k s s') :
    Recovery modes hits s' := by
  obtain ⟨task, task', htask, hwritten, hle, htype, hsound, hasked⟩ := hadvance
  have hnamed := h.tasks k task htask
  have htask' : s'.taskAt k = some task' := by rw [hwritten.taskAt, if_pos rfl]
  have hothers : ∀ l, l ≠ k → s'.taskAt l = s.taskAt l := by
    intro l hl
    rw [hwritten.taskAt, if_neg hl]
  refine ⟨fun l task'' hl => ?_, fun type sfcUUID hcontains => ?_,
    hsound h.sound, ?_, fun t ht => ?_, fun l task'' hl hstate => ?_, ?_⟩
  · by_cases heq : l = k
    · rw [heq]
      exact hnamed
    · rw [hothers l heq] at hl
      exact h.tasks l task'' hl
  · obtain hbefore | ⟨rfl, rfl⟩ := hwritten.tables _ _ hcontains
    · exact h.tables type sfcUUID hbefore
    · exact ⟨k.sfciID, hnamed⟩
  · rw [hwritten.pending]
    exact h.keys
  · rw [hwritten.pending] at ht
    have hne : t.key ≠ k := fun heq => hkey (heq ▸ List.mem_map_of_mem ht)
    rw [hothers t.key hne]
    exact h.pending t ht
  · by_cases heq : l = k
    · subst heq
      rw [htask'] at hl
      cases hl
      exact htype hstate
    · rw [hothers l heq] at hl
      exact h.types l task'' hl hstate
  · refine h.once.pass (rankAt_eq htask) (rankAt_eq htask') hle ?_ fun ask => ?_
    · intro l hl
      rw [rankAt, hothers l hl, rankAt]
    · obtain heq | ⟨heq, howns, hlt, hge⟩ := hasked ask
      · exact Or.inl heq
      · refine Or.inr ⟨heq, howns, fun l hl hrank => ?_, hlt, hge⟩
        obtain ⟨r, hr⟩ := Option.ne_none_iff_exists'.mp hrank
        obtain ⟨task'', hl', -⟩ := Option.map_eq_some_iff.mp hr
        exact eq_of_owns hnodup hseparate hnamed (h.tasks l task'' hl') howns hl

/-- Tasks go or fail, and the pass ends or gets shorter. -/
theorem Recovery.shrink (h : Recovery modes hits s)
    (htasks : ∀ k task', s'.taskAt k = some task' → ∃ task,
      s.taskAt k = some task ∧ task.rank ≤ task'.rank ∧
        (task'.recoveryTaskState = .deletingSFC →
          task.recoveryTaskState = .deletingSFC))
    (htables : ∀ recoveryTaskType sfcUUID,
      (s'.rTM.taskDict recoveryTaskType).contains sfcUUID = true →
        (s.rTM.taskDict recoveryTaskType).contains sfcUUID = true)
    (hsound : Sound s'.oib) (hsent : s'.sent = s.sent)
    (hkeys : (s'.pending.map TaskTuple.key).Nodup)
    (hpending : ∀ t ∈ s'.pending, ∃ task, s'.taskAt t.key = some task ∧
      task.recoveryTaskState = t.recoveryTaskState) :
    Recovery modes hits s' where
  tasks k task' hk := by
    obtain ⟨task, hk, -⟩ := htasks k task' hk
    exact h.tasks k task hk
  tables type sfcUUID hcontains := h.tables type sfcUUID (htables _ _ hcontains)
  sound := hsound
  keys := hkeys
  pending := hpending
  types k task' hk hstate := by
    obtain ⟨task, hk, -, hback⟩ := htasks k task' hk
    exact h.types k task hk (hback hstate)
  once := by
    refine h.once.mono (fun k r' hr' => ?_) fun ask => by rw [asked, hsent, asked]
    obtain ⟨task', hk', rfl⟩ := Option.map_eq_some_iff.mp hr'
    obtain ⟨task, hk, hle, -⟩ := htasks k task' hk'
    exact ⟨task.rank, rankAt_eq hk, hle⟩

theorem rank_le_eight (task : RecoveryTask) : task.rank ≤ 8 := by
  rw [RecoveryTask.rank]
  split
  · exact Nat.zero_le 8
  · exact Nat.le_add_left 1 7
  · exact Nat.le_add_left 2 6
  · exact Nat.le_add_left 3 5
  · split
    · exact Nat.le_add_left 5 3
    · exact Nat.le_add_left 4 4
  · exact Nat.le_add_left 6 2
  · exact Nat.le_succ 7
  · exact Nat.le_refl 8

theorem Recovery.stop (h : Recovery modes hits s) :
    Recovery modes hits { s with pending := [] } :=
  h.shrink (fun _ task hk => ⟨task, hk, Nat.le_refl _, id⟩) (fun _ _ => id)
    h.sound rfl List.nodup_nil fun _ ht => absurd ht List.not_mem_nil

theorem Recovery.delete (h : Recovery modes hits s) {t : TaskTuple}
    {rest : List TaskTuple} (hs : s.pending = t :: rest)
    {rTM : RecoveryTaskMaintainer}
    (hdelete : s.rTM.deleteRecoveryTask t.sfcUUID t.sfciID t.recoveryTaskType =
      .ok rTM) :
    Recovery modes hits { s with rTM := rTM, pending := rest } := by
  have hkeys := h.keys
  rw [hs, List.map_cons, List.nodup_cons] at hkeys
  have htaskAt : ∀ k, taskAt { s with rTM := rTM, pending := rest } k =
      if k = t.key then none else s.taskAt k := by
    rintro ⟨recoveryTaskType, sfcUUID, sfciID⟩
    refine (RecoveryTaskMaintainer.task?_deleteRecoveryTask hdelete).trans ?_
    simp only [TaskTuple.key, TaskKey.mk.injEq]
    rfl
  refine h.shrink (fun k task' hk => ?_) (fun type sfcUUID hcontains => ?_)
    h.sound rfl hkeys.2 fun t' ht' => ?_
  · rw [htaskAt] at hk
    split at hk
    · cases hk
    · exact ⟨task', hk, Nat.le_refl _, id⟩
  · exact RecoveryTaskMaintainer.contains_deleteRecoveryTask hdelete hcontains
  · have hne : t'.key ≠ t.key := fun heq =>
      hkeys.1 (heq ▸ List.mem_map_of_mem ht')
    rw [htaskAt, if_neg hne]
    exact h.pending t' (hs ▸ List.mem_cons_of_mem t ht')

/-- A task whose SFC is deleted is the only one of its SFC. -/
theorem Recovery.only (hnodup : (hits.map AffectedSFCI.sfciID).Nodup)
    (hseparate : Separate modes hits) (h : Recovery modes hits s)
    {t : TaskTuple} {task : RecoveryTask} (htask : s.taskAt t.key = some task)
    (htype : t.recoveryTaskType = .sfc) :
    s.rTM.getSFCIIDListOfATask t.sfcUUID t.recoveryTaskType =
      .ok [t.sfciID] := by
  have hnamed := h.tasks t.key task htask
  obtain ⟨tasks, htasks, hget⟩ := Option.bind_eq_some_iff.mp htask
  replace htasks : (s.rTM.taskDict t.recoveryTaskType).get? t.sfcUUID =
    some tasks := htasks
  have hkeys : ∀ sfciID ∈ tasks.keys, sfciID = t.sfciID := by
    intro sfciID hmem
    obtain ⟨task', htask'⟩ := Dict.mem_keys_iff.mp hmem
    have hat : s.taskAt { t.key with sfciID := sfciID } = some task' :=
      Option.bind_eq_some_iff.mpr ⟨tasks, htasks, htask'⟩
    have heq := eq_of_sfc hnodup hseparate hnamed (h.tasks _ _ hat) htype rfl
    exact congrArg TaskKey.sfciID heq
  have hmem : t.sfciID ∈ tasks.keys := Dict.mem_keys_iff.mpr ⟨task, hget⟩
  rw [RecoveryTaskMaintainer.getSFCIIDListOfATask, htasks]
  refine congrArg Except.ok ?_
  have hle : tasks.keys.length ≤ 1 := by
    have hsub : tasks.keys ⊆ [t.sfciID] := fun sfciID hid =>
      List.mem_singleton.mpr (hkeys sfciID hid)
    exact List.Nodup.length_le_of_subset tasks.nodup_keys' hsub
  obtain ⟨sfciID, hone⟩ := List.length_eq_one_iff.mp
    (Nat.le_antisymm hle (List.length_pos_of_mem hmem))
  rw [hone, List.mem_singleton] at hmem
  rw [hone, hmem]

theorem recovery_step_task (hnodup : (hits.map AffectedSFCI.sfciID).Nodup)
    (hseparate : Separate modes hits) (h : Recovery modes hits s) :
    Recovery modes hits (step modes s .task) := by
  cases hs : s.pending with
  | nil =>
      rw [step, hs]
      exact h
  | cons t rest =>
      obtain ⟨task, htask, hstate⟩ := h.pending t (hs ▸ List.mem_cons_self)
      by_cases hfinish : t.recoveryTaskState = .finish
      · rw [step_finish modes hs hfinish]
        cases hdelete : s.rTM.deleteRecoveryTask t.sfcUUID t.sfciID
            t.recoveryTaskType with
        | error e => exact h.stop
        | ok rTM => exact h.delete hs hdelete
      · have hkeys := h.keys
        rw [hs, List.map_cons, List.nodup_cons] at hkeys
        have hpop : Recovery modes hits { s with pending := rest } :=
          h.shrink (fun _ task hk => ⟨task, hk, Nat.le_refl _, id⟩)
            (fun _ _ => id) h.sound rfl hkeys.2
            fun t' ht' => h.pending t' (hs ▸ List.mem_cons_of_mem t ht')
        have hmoves := moves_processRecoveryTask modes hpop.sound htask hstate
          hfinish (fun ht => h.types t.key task htask (hstate.trans ht))
          (h.only hnodup hseparate htask) _ rfl
        have hmoved : ∀ s', s' = { s with pending := rest } ∨
            Advance t.key { s with pending := rest } s' →
              Recovery modes hits s' := by
          rintro s' (rfl | hadvance)
          · exact hpop
          · exact hpop.advance hnodup hseparate hkeys.1 hadvance
        rw [step, hs]
        simp only [stopOnError]
        cases hrun : (processRecoveryTask modes t).run { s with pending := rest }
          with
        | ok _ s' =>
            rw [hrun] at hmoves
            exact hmoved s' hmoves
        | error e s' =>
            rw [hrun] at hmoves
            exact (hmoved s' hmoves).stop

theorem rank_timeOut (now : Nat) (task : RecoveryTask) :
    task.rank ≤ (RecoveryTaskMaintainer.timeOut now task).rank ∧
      ((RecoveryTaskMaintainer.timeOut now task).recoveryTaskState =
        .deletingSFC → task.recoveryTaskState = .deletingSFC) := by
  rw [RecoveryTaskMaintainer.timeOut]
  split
  · refine ⟨rank_le_eight task, ?_⟩
    rintro ⟨⟩
  · exact ⟨Nat.le_refl _, id⟩

theorem run_clearRedundantTasks (hnodup : (hits.map AffectedSFCI.sfciID).Nodup)
    (hseparate : Separate modes hits) (h : Recovery modes hits s) :
    clearRedundantTasks.run s = .ok () s := by
  rw [clearRedundantTasks, PyM.run_bind_get]
  refine PyM.run_forM_same ?_
  rintro ⟨sfcUUID, sfciID⟩ hmem
  rw [clearRedundantTask, PyM.run_bind_get, if_neg]
  · rfl
  intro hcontains
  obtain ⟨task, htask⟩ := TaskDict.mem_pairs_iff.mp hmem
  have hnamed : Named modes hits ⟨.sfci, sfcUUID, sfciID⟩ :=
    h.tasks ⟨.sfci, sfcUUID, sfciID⟩ task htask
  obtain ⟨sfciID', hnamed'⟩ := h.tables .sfc sfcUUID hcontains
  have heq := eq_of_sfc hnodup hseparate hnamed' hnamed rfl rfl
  cases heq

theorem mem_tuplesOf {recoveryTaskType : RecoveryTaskType} {tasks : TaskDict}
    {t : TaskTuple} :
    t ∈ RecoveryTaskMaintainer.tuplesOf recoveryTaskType tasks ↔
      t.recoveryTaskType = recoveryTaskType ∧ ∃ task,
        tasks.task? t.sfcUUID t.sfciID = some task ∧
          task.recoveryTaskState = t.recoveryTaskState := by
  obtain ⟨sfcUUID, recoveryTaskType', sfciID, recoveryTaskState⟩ := t
  simp only [RecoveryTaskMaintainer.tuplesOf, List.mem_flatMap, List.mem_map,
    Prod.exists, TaskTuple.mk.injEq, TaskDict.task?, Option.bind_eq_some_iff]
  constructor
  · rintro ⟨_, sfciTasks, hmem, _, task, hmem', rfl, rfl, rfl, rfl⟩
    exact ⟨rfl, task, ⟨sfciTasks, Dict.mem_items_iff.mp hmem,
      Dict.mem_items_iff.mp hmem'⟩, rfl⟩
  · rintro ⟨rfl, task, ⟨sfciTasks, hget, hget'⟩, rfl⟩
    exact ⟨sfcUUID, sfciTasks, Dict.mem_items_iff.mpr hget, sfciID, task,
      Dict.mem_items_iff.mpr hget', rfl, rfl, rfl, rfl⟩

theorem nodup_tuplesOf (recoveryTaskType : RecoveryTaskType)
    (tasks : TaskDict) :
    ((RecoveryTaskMaintainer.tuplesOf recoveryTaskType tasks).map
      TaskTuple.key).Nodup := by
  rw [RecoveryTaskMaintainer.tuplesOf, List.map_flatMap, List.nodup_flatMap]
  constructor
  · rintro ⟨sfcUUID, sfciTasks⟩ -
    rw [List.map_map]
    refine List.Nodup.of_map TaskKey.sfciID ?_
    rw [List.map_map]
    exact sfciTasks.nodup_keys
  · refine (List.pairwise_map.mp tasks.nodup_keys).imp ?_
    rintro ⟨sfcUUID, sfciTasks⟩ ⟨sfcUUID', sfciTasks'⟩ hne key hkey hkey'
    simp only [List.map_map, List.mem_map] at hkey hkey'
    obtain ⟨_, -, rfl⟩ := hkey
    obtain ⟨_, -, heq⟩ := hkey'
    exact hne (congrArg TaskKey.sfcUUID heq).symm

theorem getRecoveryTasksTupleList_spec (rTM : RecoveryTaskMaintainer) :
    (rTM.getRecoveryTasksTupleList.map TaskTuple.key).Nodup ∧
      ∀ t ∈ rTM.getRecoveryTasksTupleList, ∃ task,
        rTM.task? t.sfcUUID t.recoveryTaskType t.sfciID = some task ∧
          task.recoveryTaskState = t.recoveryTaskState := by
  constructor
  · rw [RecoveryTaskMaintainer.getRecoveryTasksTupleList, List.map_append,
      List.nodup_append]
    refine ⟨nodup_tuplesOf _ _, nodup_tuplesOf _ _, ?_⟩
    rintro _ hkey _ hkey' rfl
    obtain ⟨t, ht, rfl⟩ := List.mem_map.mp hkey
    obtain ⟨t', ht', heq⟩ := List.mem_map.mp hkey'
    have htype := congrArg TaskKey.recoveryTaskType heq
    simp only [TaskTuple.key, (mem_tuplesOf.mp ht).1, (mem_tuplesOf.mp ht').1]
      at htype
    cases htype
  · intro t ht
    obtain ht | ht := List.mem_append.mp ht
    · obtain ⟨htype, task, htask⟩ := mem_tuplesOf.mp ht
      exact ⟨task, by rw [RecoveryTaskMaintainer.task?, htype]; exact htask⟩
    · obtain ⟨htype, task, htask⟩ := mem_tuplesOf.mp ht
      exact ⟨task, by rw [RecoveryTaskMaintainer.task?, htype]; exact htask⟩

theorem recovery_step_startPass
    (hnodup : (hits.map AffectedSFCI.sfciID).Nodup)
    (hseparate : Separate modes hits) (hnoWaiting : s.NoWaiting)
    (hpending : s.pending = []) (h : Recovery modes hits s) :
    Recovery modes hits (step modes s .startPass) ∧
      (step modes s .startPass).sent = s.sent := by
  have htimeOut : Recovery modes hits
      { s with rTM := s.rTM.clearTimeOutTasks s.now } := by
    refine h.shrink (fun k task' hk => ?_) (fun type sfcUUID hcontains => ?_)
      h.sound rfl h.keys ?_
    · replace hk := (RecoveryTaskMaintainer.task?_clearTimeOutTasks s.now).symm
        |>.trans hk
      obtain ⟨task, htask, rfl⟩ := Option.map_eq_some_iff.mp hk
      exact ⟨task, htask, rank_timeOut s.now task⟩
    · replace hcontains : (Dict.map _ (s.rTM.taskDict type)).contains sfcUUID =
        true := hcontains
      rw [Dict.contains, Dict.get?_map, Option.isSome_map] at hcontains
      exact hcontains
    · rw [hpending]
      exact fun _ ht => absurd ht List.not_mem_nil
  have hrun := run_clearRedundantTasks hnodup hseparate htimeOut
  obtain ⟨hkeys, htuples⟩ :=
    getRecoveryTasksTupleList_spec (s.rTM.clearTimeOutTasks s.now)
  have hload := loadWaitingTasks_of_noWaiting
    (s := { s with rTM := s.rTM.clearTimeOutTasks s.now })
    (hnoWaiting.congr rfl) s.now
  have hstart : startPass.run s = .ok () { s with
      rTM := s.rTM.clearTimeOutTasks s.now
      pending :=
        (s.rTM.clearTimeOutTasks s.now).getRecoveryTasksTupleList } := by
    rw [startPass, PyM.run_bind_ok (x := modify _) rfl, PyM.run_bind_ok hrun]
    simp only at hload
    show EStateM.Result.ok () _ = _
    simp only [hload]
  rw [step, stopOnError, hstart]
  refine ⟨?_, rfl⟩
  exact htimeOut.shrink (fun _ task hk => ⟨task, hk, Nat.le_refl _, id⟩)
    (fun _ _ => id) h.sound rfl hkeys htuples

end Steps

section Notice

/-- The notice is handled, and nothing was asked for yet. -/
def Quiet (modes : SFCModes) (hits : List AffectedSFCI) (s : SFCRestorer) :
    Prop :=
  Recovery modes hits s ∧ s.pending = [] ∧ s.sent = []

theorem asked_eq_zero (h : s.sent = []) (ask : Ask) : s.asked ask = 0 := by
  rw [asked, h, List.countP_nil]

theorem Quiet.of_nil (h : Quiet modes [] s) (hits : List AffectedSFCI) :
    Quiet modes hits s := by
  obtain ⟨hrecovery, hpending, hsent⟩ := h
  have hnone : ∀ k, ¬ Named modes [] k := by
    rintro k ⟨hit, hhit, -⟩
    cases hhit
  refine ⟨⟨fun k task hk => ?_, fun type sfcUUID hcontains => ?_,
    hrecovery.sound, hrecovery.keys, hrecovery.pending, hrecovery.types,
    .of_zero (asked_eq_zero hsent)⟩, hpending, hsent⟩
  · exact absurd (hrecovery.tasks k task hk) (hnone k)
  · obtain ⟨sfciID, hnamed⟩ := hrecovery.tables type sfcUUID hcontains
    exact absurd hnamed (hnone _)

theorem quiet_handleAffected {hit : AffectedSFCI} (hhit : hit ∈ hits) :
    PyM.Keeps (Quiet modes hits) (handleAffected modes hit) := by
  refine PyM.Meets.ite (fun hauto => ?_) fun _ _ hs => hs
  refine PyM.Meets.bind_get fun s hs => PyM.Meets.ite (fun _ => ?_) fun _ => ?_
  · rintro _ rfl
    obtain ⟨⟨htasks, htables, hsound, hkeys, hpending, htypes, honce⟩, hs⟩ := hs
    exact ⟨⟨htasks, htables, hsound, hkeys, hpending, htypes, honce⟩, hs⟩
  · rintro s rfl
    obtain ⟨hrecovery, hpending, hsent⟩ := hs
    have hnamed : Named modes hits
        ⟨hit.recoveryTaskType, hit.sfc.sfcUUID, hit.sfciID⟩ :=
      ⟨hit, hhit, hauto, rfl⟩
    have hwritten := written_put s
      ⟨hit.sfc.sfcUUID, hit.recoveryTaskType, hit.sfciID, .waiting⟩
      (.new hit.sfciID .waiting s.now)
    refine ⟨⟨fun k task hk => ?_, fun type sfcUUID hcontains => ?_,
      hrecovery.sound, hrecovery.keys, ?_, fun k task hk hstate => ?_,
      .of_zero (asked_eq_zero hsent)⟩, hpending, hsent⟩
    · replace hk := (hwritten.taskAt k).symm.trans hk
      split at hk
      · next heq =>
          rw [heq]
          exact hnamed
      · exact hrecovery.tasks k task hk
    · obtain hbefore | ⟨rfl, rfl⟩ := hwritten.tables type sfcUUID hcontains
      · exact hrecovery.tables type sfcUUID hbefore
      · exact ⟨hit.sfciID, hnamed⟩
    · intro t ht
      replace ht : t ∈ s.pending := ht
      rw [hpending] at ht
      cases ht
    · replace hk := (hwritten.taskAt k).symm.trans hk
      split at hk
      · cases hk
        cases hstate
      · exact hrecovery.types k task hk hstate

theorem quiet_step_notice (h : Quiet modes [] s) :
    Quiet modes hits (step modes s (.notice hits)) := by
  have hkeeps : PyM.Keeps (Quiet modes hits) (handleDetectionDict modes hits) :=
    PyM.Keeps.forM fun hit hhit => quiet_handleAffected hhit
  exact hkeeps.finalState (h.of_nil hits)

end Notice

theorem notices_append (τ : List (SFCRestorer × Input)) (s : SFCRestorer)
    (i : Input) : notices (τ ++ [(s, i)]) = notices τ ++ notices [(s, i)] :=
  List.filterMap_append

theorem separate_nil (modes : SFCModes) : Separate modes [] :=
  fun _ h => absurd h List.not_mem_nil

theorem nodup_sfciID_nil :
    (([] : List AffectedSFCI).map AffectedSFCI.sfciID).Nodup :=
  List.nodup_nil

theorem recovery_step (hnodup : (hits.map AffectedSFCI.sfciID).Nodup)
    (hseparate : Separate modes hits) (hnoWaiting : s.NoWaiting)
    (h : Recovery modes hits s) {i : Input} (hi : notices [(s, i)] = [])
    (hadmits : (machine modes).admits s i) :
    Recovery modes hits (step modes s i) := by
  cases i with
  | notice hits' => cases hi
  | startPass =>
      exact (recovery_step_startPass hnodup hseparate hnoWaiting hadmits h).1
  | task => exact recovery_step_task hnodup hseparate h
  | database oib => exact ⟨h.tasks, h.tables, hadmits, h.keys, h.pending,
      h.types, h.once⟩
  | time now => exact ⟨h.tasks, h.tables, h.sound, h.keys, h.pending,
      h.types, h.once⟩

theorem quiet_step (hnoWaiting : s.NoWaiting) (h : Quiet modes [] s) {i : Input}
    (hi : notices [(s, i)] = []) (hadmits : (machine modes).admits s i) :
    Quiet modes [] (step modes s i) := by
  obtain ⟨hrecovery, hpending, hsent⟩ := h
  have hstep := recovery_step nodup_sfciID_nil (separate_nil modes) hnoWaiting
    hrecovery hi hadmits
  have hnone : (step modes s i).pending = [] := by
    refine List.eq_nil_iff_forall_not_mem.mpr fun t ht => ?_
    obtain ⟨task, htask, -⟩ := hstep.pending t ht
    obtain ⟨hit, hhit, -⟩ := hstep.tasks t.key task htask
    cases hhit
  refine ⟨hstep, hnone, ?_⟩
  cases i with
  | notice hits' => cases hi
  | startPass =>
      exact (recovery_step_startPass nodup_sfciID_nil (separate_nil modes)
        hnoWaiting hadmits hrecovery).2.trans hsent
  | task =>
      rw [step, hpending]
      exact hsent
  | database oib => exact hsent
  | time now => exact hsent

theorem recovery_of_run {τ : List (SFCRestorer × Input)}
    (h : (machine modes).Run τ s) (hone : (notices τ).length ≤ 1)
    (hseparate : ∀ hits ∈ notices τ, Separate modes hits) :
    (notices τ = [] ∧ Quiet modes [] s) ∨
      ∃ hits, notices τ = [hits] ∧ (hits.map AffectedSFCI.sfciID).Nodup ∧
        Recovery modes hits s := by
  induction h with
  | @start s hs =>
      obtain ⟨hempty, -, hpending, hsent, hsound⟩ := hs
      have hnone : ∀ k, s.taskAt k = none := by
        intro k
        rw [taskAt, RecoveryTaskMaintainer.task?, hempty]
        rfl
      refine Or.inl ⟨rfl, ⟨fun k task hk => ?_, fun type sfcUUID hcontains => ?_,
        hsound, ?_, ?_, fun k task hk => ?_, .of_zero (asked_eq_zero hsent)⟩,
        hpending, hsent⟩
      · rw [hnone] at hk
        cases hk
      · rw [hempty] at hcontains
        cases hcontains
      · rw [hpending]
        exact List.nodup_nil
      · rw [hpending]
        exact fun t ht => absurd ht List.not_mem_nil
      · rw [hnone] at hk
        cases hk
  | @step τ s i hrun hadmits ih =>
      have hnoWaiting : s.NoWaiting := noWaiting_of_reachable hrun.reachable
      rw [notices_append] at hone hseparate ⊢
      rw [List.length_append] at hone
      have hbefore := ih (Nat.le_trans (Nat.le_add_right _ _) hone)
        fun hits hmem => hseparate hits (List.mem_append_left _ hmem)
      by_cases hi : notices [(s, i)] = []
      · rw [hi, List.append_nil]
        obtain ⟨hnil, hquiet⟩ | ⟨hits, hhits, hnodup, hrecovery⟩ := hbefore
        · exact Or.inl ⟨hnil, quiet_step hnoWaiting hquiet hi hadmits⟩
        · refine Or.inr ⟨hits, hhits, hnodup, ?_⟩
          refine recovery_step hnodup (hseparate hits ?_) hnoWaiting hrecovery hi
            hadmits
          rw [hhits, List.singleton_append]
          exact List.mem_cons_self
      · cases i with
        | notice hits =>
            have hnil : notices τ = [] := by
              refine List.eq_nil_of_length_eq_zero ?_
              have hlength : (notices [(s, Input.notice hits)]).length = 1 := rfl
              omega
            obtain ⟨-, hquiet⟩ | ⟨hits', hhits', -⟩ := hbefore
            · rw [hnil]
              exact Or.inr ⟨hits, rfl, hadmits.2.1, (quiet_step_notice hquiet).1⟩
            · rw [hnil] at hhits'
              cases hhits'
        | startPass => exact absurd rfl hi
        | task => exact absurd rfl hi
        | database oib => exact absurd rfl hi
        | time now => exact absurd rfl hi

/-- In a run with one notice, each SFC and each SFCI is deleted once and added
once at most, if an SFC whose classifier was hit has one SFCI that was hit. -/
theorem asked_le_one {τ : List (SFCRestorer × Input)}
    (h : (machine modes).Run τ s) (hone : (notices τ).length ≤ 1)
    (hseparate : ∀ hits ∈ notices τ, Separate modes hits) (ask : Ask) :
    s.asked ask ≤ 1 := by
  obtain ⟨-, hquiet⟩ | ⟨hits, -, -, hrecovery⟩ :=
    recovery_of_run h hone hseparate
  · exact hquiet.1.once.le_one ask
  · exact hrecovery.once.le_one ask

/-- The classifier of the SFC is hit, and the SFCIs are recovered until both of
them are deleted. -/
def classifierHit (hits : List AffectedSFCI) : List Input :=
  [.notice hits, .startPass, .task, .task, .startPass, .task, .task,
    .database (exampleBase .recoverMode .deleted .deleted), .startPass, .task,
    .task]

theorem run_classifierHit {hits : List AffectedSFCI}
    (hnotice : (machine exampleModes).admits exampleStart (.notice hits))
    (harrive : (machine exampleModes).Arrive
      (step exampleModes exampleStart (.notice hits)) (classifierHit hits).tail) :
    (machine exampleModes).Run
      ((machine exampleModes).trace exampleStart (classifierHit hits))
      ((classifierHit hits).foldl (machine exampleModes).step exampleStart) := by
  have hall : (machine exampleModes).Arrive exampleStart (classifierHit hits) :=
    ⟨hnotice, harrive⟩
  exact run_exampleStart.arrive hall

theorem asked_le_one_classifierHit :
    asked ((classifierHit [exampleHit .sfc 0]).foldl
        (machine exampleModes).step exampleStart) (.delSFC exampleSFC.sfcUUID) = 1 ∧
      ∀ ask, asked ((classifierHit [exampleHit .sfc 0]).foldl
        (machine exampleModes).step exampleStart) ask ≤ 1 := by
  have hnotice : (machine exampleModes).admits exampleStart
      (.notice [exampleHit .sfc 0]) := by
    refine admits_exampleNotice (by decide) (fun hit hhit => ?_) rfl rfl
    exact ⟨.sfc, 0, by decide, List.mem_singleton.mp hhit⟩
  have hrun := run_classifierHit hnotice ⟨rfl, trivial, trivial, rfl, trivial,
    trivial, sound_exampleBase _ _ _, rfl, trivial, trivial, trivial⟩
  refine ⟨by decide, asked_le_one hrun (by decide) fun hits hhits => ?_⟩
  obtain rfl := List.mem_singleton.mp hhits
  intro hit hhit hit' hhit' _ _ _ _
  rw [List.mem_singleton.mp hhit, List.mem_singleton.mp hhit']

/-- Both tasks of the SFC find all its SFCIs deleted, and each of them asks for
the SFC to be deleted. -/
theorem sfc_deleted_twice :
    ¬ ∀ (modes : SFCModes) (τ : List (SFCRestorer × Input)) (s : SFCRestorer),
      (machine modes).Run τ s → (notices τ).length ≤ 1 →
        ∀ ask, s.asked ask ≤ 1 := by
  intro h
  have hnotice : (machine exampleModes).admits exampleStart
      (.notice [exampleHit .sfc 0, exampleHit .sfc 1]) := by
    refine admits_exampleNotice (by decide) (fun hit hhit => ?_) rfl rfl
    obtain rfl | hhit := List.mem_cons.mp hhit
    · exact ⟨.sfc, 0, by decide, rfl⟩
    · exact ⟨.sfc, 1, by decide, List.mem_singleton.mp hhit⟩
  have hrun := run_classifierHit hnotice ⟨rfl, trivial, trivial, rfl, trivial,
    trivial, sound_exampleBase _ _ _, rfl, trivial, trivial, trivial⟩
  have hasked := h exampleModes _ _ hrun (by decide)
    (.delSFC exampleSFC.sfcUUID)
  exact absurd hasked (by decide)

end SelfAdaptiveMano.Regulator.SFCRestorer
