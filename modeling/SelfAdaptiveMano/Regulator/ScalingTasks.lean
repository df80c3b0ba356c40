import SelfAdaptiveMano.Regulator.Scaling

/-!
# Leaving the scaling modes

The SFCIs that a scaling decision asks for are noted one by one, and each note
takes the place of the one before, so that an SFC in scaling-out mode waits for
the last of them only. The SFCIs that are to be deleted are noted in the wrong
table. What an SFC in scaling-in mode has in the right one is an empty
dictionary, and the next pass takes it out of the mode.
-/

namespace SelfAdaptiveMano.Regulator.SFCScalingProcessor

open Library

variable {s s' s'' : SFCScalingProcessor} {sfcUUID : UUID}

/-- A pass of `processAllScalingTasks` takes an SFC out of a scaling mode
exactly if all SFCIs that the decision asked for are ready. -/
def LeavesInTime (s : SFCScalingProcessor) : Prop :=
  ∀ sfcUUID,
    (s.oib.getSFCState sfcUUID = some .scalingOutMode →
      (s.processAllScalingTasks.oib.getSFCState sfcUUID ≠
          some .scalingOutMode ↔
        ∀ sfciID ∈ s.asked sfcUUID,
          s.oib.getSFCIState sfciID = some .active)) ∧
    (s.oib.getSFCState sfcUUID = some .scalingInMode →
      (s.processAllScalingTasks.oib.getSFCState sfcUUID ≠
          some .scalingInMode ↔
        ∀ sfciID ∈ s.asked sfcUUID,
          s.oib.getSFCIState sfciID = some .deleted))

/-- The SFCI that was asked for last is only `ACTIVE`, and a note for scaling in
is only left, when all SFCIs of the decision are `ACTIVE`; the SFCIs to delete
are `DELETED` before the pass. -/
def Ready (s : SFCScalingProcessor) : Prop :=
  ∀ sfcUUID,
    (s.oib.getSFCState sfcUUID = some .scalingOutMode →
      (∃ sfciID ∈ (s.asked sfcUUID).getLast?,
          s.oib.getSFCIState sfciID = some .active) ∨
        s.scalingInTaskDict.contains sfcUUID = true →
      ∀ sfciID ∈ s.asked sfcUUID,
        s.oib.getSFCIState sfciID = some .active) ∧
    (s.oib.getSFCState sfcUUID = some .scalingInMode →
      ∀ sfciID ∈ s.asked sfcUUID,
        s.oib.getSFCIState sfciID = some .deleted)

section Pass

theorem getSFCState_updateSFCState (oib : ScalingBase) (sfcUUID' : UUID)
    (state : SFCState) (sfcUUID : UUID) :
    (oib.updateSFCState sfcUUID' state).getSFCState sfcUUID =
      if sfcUUID = sfcUUID' then
        (oib.getSFCState sfcUUID).map fun _ => state
      else oib.getSFCState sfcUUID := by
  simp only [ScalingBase.getSFCState, ScalingBase.updateSFCState,
    Dict.get?_modify]
  by_cases h : sfcUUID = sfcUUID'
  · rw [if_pos h, if_pos h, h, Option.map_map, Option.map_map]
    rfl
  · rw [if_neg h, if_neg h]

theorem isFinish_congr {oib oib' : ScalingBase} {done : SFCState}
    {taskDict taskDict' : ScalingTaskDict}
    (hget : taskDict'.get? sfcUUID = taskDict.get? sfcUUID)
    (hsfcis : oib'.sfciTable = oib.sfciTable) :
    isFinish oib' done taskDict' sfcUUID =
      isFinish oib done taskDict sfcUUID := by
  rw [isFinish, isFinish, hget]
  simp only [ScalingBase.getSFCIState, hsfcis]
  rfl

/-- The SFCs with a note whose SFCIs are all done become `ACTIVE`, and their
notes go. -/
structure Passed (done : SFCState) (t t' : ScalingTaskDict × ScalingBase)
    (reached : UUID → Prop) : Prop where
  sfcis : t'.2.sfciTable = t.2.sfciTable
  finished : ∀ sfcUUID, reached sfcUUID →
    isFinish t.2 done t.1 sfcUUID = true →
    t'.1.get? sfcUUID = none ∧
      t'.2.getSFCState sfcUUID =
        (t.2.getSFCState sfcUUID).map fun _ => .active
  kept : ∀ sfcUUID,
    ¬ (reached sfcUUID ∧ isFinish t.2 done t.1 sfcUUID = true) →
    t'.1.get? sfcUUID = t.1.get? sfcUUID ∧
      t'.2.getSFCState sfcUUID = t.2.getSFCState sfcUUID

theorem passed_processScalingTask (done : SFCState)
    (t : ScalingTaskDict × ScalingBase) (sfcUUID : UUID) :
    Passed done t (processScalingTask done t sfcUUID) (· = sfcUUID) := by
  rw [processScalingTask]
  by_cases h : isFinish t.2 done t.1 sfcUUID = true
  · rw [if_pos h]
    refine ⟨rfl, ?_, ?_⟩
    · rintro _ rfl -
      refine ⟨Dict.get?_erase_self .., ?_⟩
      rw [getSFCState_updateSFCState, if_pos rfl]
    · intro sfcUUID' hnot
      have hne : sfcUUID' ≠ sfcUUID := by
        rintro rfl
        exact hnot ⟨rfl, h⟩
      rw [Dict.get?_erase, if_neg hne, getSFCState_updateSFCState, if_neg hne]
      exact ⟨rfl, rfl⟩
  · rw [if_neg h]
    refine ⟨rfl, ?_, fun _ _ => ⟨rfl, rfl⟩⟩
    rintro _ rfl hfinish
    exact absurd hfinish h

theorem passed_foldl (done : SFCState) {l : List UUID} (hl : l.Nodup)
    (t : ScalingTaskDict × ScalingBase) :
    Passed done t (l.foldl (processScalingTask done) t) (· ∈ l) := by
  induction l generalizing t with
  | nil =>
      refine ⟨rfl, ?_, fun _ _ => ⟨rfl, rfl⟩⟩
      intro _ hmem
      cases hmem
  | cons k l ih =>
      obtain ⟨hk, hl⟩ := List.nodup_cons.mp hl
      have hhead := passed_processScalingTask done t k
      have htail := ih hl (processScalingTask done t k)
      have hsame : ∀ sfcUUID, sfcUUID ≠ k →
          isFinish (processScalingTask done t k).2 done
              (processScalingTask done t k).1 sfcUUID =
            isFinish t.2 done t.1 sfcUUID := by
        intro sfcUUID hne
        exact isFinish_congr (hhead.kept sfcUUID fun h => hne h.1).1 hhead.sfcis
      refine ⟨htail.sfcis.trans hhead.sfcis, ?_, ?_⟩
      · intro sfcUUID hmem hfinish
        by_cases heq : sfcUUID = k
        · subst heq
          obtain ⟨hnone, hstate⟩ := hhead.finished sfcUUID rfl hfinish
          obtain ⟨hget, hstate'⟩ := htail.kept sfcUUID fun h => hk h.1
          exact ⟨hget.trans hnone, hstate'.trans hstate⟩
        · have hmem := (List.mem_cons.mp hmem).resolve_left heq
          obtain ⟨hnone, hstate⟩ :=
            htail.finished sfcUUID hmem ((hsame sfcUUID heq).trans hfinish)
          refine ⟨hnone, hstate.trans ?_⟩
          rw [(hhead.kept sfcUUID fun h => heq h.1).2]
      · intro sfcUUID hnot
        have hhead' := hhead.kept sfcUUID fun h =>
          hnot ⟨List.mem_cons.mpr (Or.inl h.1), h.2⟩
        have htail' := htail.kept sfcUUID ?_
        · exact ⟨htail'.1.trans hhead'.1, htail'.2.trans hhead'.2⟩
        · rintro ⟨hmem, hfinish⟩
          have hne : sfcUUID ≠ k := by
            rintro rfl
            exact hk hmem
          rw [hsame sfcUUID hne] at hfinish
          exact hnot ⟨List.mem_cons_of_mem k hmem, hfinish⟩

theorem passed_processScalingTasks (done : SFCState)
    (taskDict : ScalingTaskDict) (oib : ScalingBase) :
    Passed done (taskDict, oib) (processScalingTasks done taskDict oib)
      fun _ => True := by
  have h := passed_foldl done taskDict.nodup_keys (taskDict, oib)
  refine ⟨h.sfcis, fun sfcUUID _ hfinish => ?_, fun sfcUUID hnot => ?_⟩
  · refine h.finished sfcUUID ?_ hfinish
    rw [← Dict.keys, Dict.mem_keys_iff]
    cases hget : taskDict.get? sfcUUID with
    | some tasks => exact ⟨tasks, rfl⟩
    | none =>
        rw [isFinish, hget] at hfinish
        cases hfinish
  · exact h.kept sfcUUID fun h => hnot ⟨trivial, h.2⟩

def Finishes (s : SFCScalingProcessor) (sfcUUID : UUID) : Prop :=
  isFinish s.oib .active s.scalingOutTaskDict sfcUUID = true ∨
    isFinish s.oib .deleted s.scalingInTaskDict sfcUUID = true

/-- The second loop finds the SFCIs in the states in which the first one found
them. -/
theorem passed_in (s : SFCScalingProcessor) :
    Passed .deleted (s.scalingInTaskDict,
        (processScalingTasks .active s.scalingOutTaskDict s.oib).2)
      (s.processAllScalingTasks.scalingInTaskDict, s.processAllScalingTasks.oib)
      (fun _ => True) ∧
    ∀ sfcUUID, isFinish
        (processScalingTasks .active s.scalingOutTaskDict s.oib).2 .deleted
        s.scalingInTaskDict sfcUUID =
      isFinish s.oib .deleted s.scalingInTaskDict sfcUUID := by
  have hout := passed_processScalingTasks .active s.scalingOutTaskDict s.oib
  constructor
  · exact passed_processScalingTasks ..
  · exact fun sfcUUID => isFinish_congr rfl hout.sfcis

theorem processAllScalingTasks_of_finishes (h : Finishes s sfcUUID) :
    s.processAllScalingTasks.oib.getSFCState sfcUUID =
      (s.oib.getSFCState sfcUUID).map fun _ => .active := by
  have hout := passed_processScalingTasks .active s.scalingOutTaskDict s.oib
  obtain ⟨hin, hsame⟩ := passed_in s
  by_cases hfinishIn : isFinish s.oib .deleted s.scalingInTaskDict sfcUUID = true
  · have hstate := (hin.finished sfcUUID trivial
      ((hsame sfcUUID).trans hfinishIn)).2
    refine hstate.trans ?_
    by_cases hfinishOut :
        isFinish s.oib .active s.scalingOutTaskDict sfcUUID = true
    · rw [(hout.finished sfcUUID trivial hfinishOut).2, Option.map_map]
      rfl
    · rw [(hout.kept sfcUUID fun h => hfinishOut h.2).2]
  · have hfinishOut := h.resolve_right hfinishIn
    have hkept := (hin.kept sfcUUID fun h =>
      hfinishIn ((hsame sfcUUID).symm.trans h.2)).2
    exact hkept.trans (hout.finished sfcUUID trivial hfinishOut).2

theorem processAllScalingTasks_of_not_finishes (h : ¬ Finishes s sfcUUID) :
    s.processAllScalingTasks.oib.getSFCState sfcUUID =
        s.oib.getSFCState sfcUUID ∧
      s.processAllScalingTasks.scalingOutTaskDict.get? sfcUUID =
        s.scalingOutTaskDict.get? sfcUUID ∧
      s.processAllScalingTasks.scalingInTaskDict.get? sfcUUID =
        s.scalingInTaskDict.get? sfcUUID := by
  obtain ⟨hnotOut, hnotIn⟩ := not_or.mp h
  have hout := (passed_processScalingTasks .active s.scalingOutTaskDict
    s.oib).kept sfcUUID fun h => hnotOut h.2
  obtain ⟨hin, hsame⟩ := passed_in s
  have hin := hin.kept sfcUUID fun h =>
    hnotIn ((hsame sfcUUID).symm.trans h.2)
  exact ⟨hin.2.trans hout.2, hout.1, hin.1⟩

theorem scalingIn_of_processAll {tasks : Dict Int ScalingTaskState}
    (h : s.processAllScalingTasks.scalingInTaskDict.get? sfcUUID = some tasks) :
    s.scalingInTaskDict.get? sfcUUID = some tasks := by
  obtain ⟨hin, hsame⟩ := passed_in s
  by_cases hfinish : isFinish s.oib .deleted s.scalingInTaskDict sfcUUID = true
  · have hnone := (hin.finished sfcUUID trivial
      ((hsame sfcUUID).trans hfinish)).1
    cases hnone.symm.trans h
  · have hkept := (hin.kept sfcUUID fun h =>
      hfinish ((hsame sfcUUID).symm.trans h.2)).1
    exact hkept.symm.trans h

end Pass

def NotesLast (s : SFCScalingProcessor) (sfcUUID : UUID) : Prop :=
  ∃ sfciID state, (s.asked sfcUUID).getLast? = some sfciID ∧
    s.scalingOutTaskDict.get? sfcUUID = some (Dict.empty.set sfciID state)

/-- What is noted about an SFC: in scaling-out mode the SFCI that was asked for
last, in scaling-in mode something, and nothing under it. -/
structure Noted (s : SFCScalingProcessor) (sfcUUID : UUID) : Prop where
  out : s.oib.getSFCState sfcUUID = some .scalingOutMode →
    NotesLast s sfcUUID
  scalingIn : s.oib.getSFCState sfcUUID = some .scalingInMode →
    ∃ tasks, s.scalingInTaskDict.get? sfcUUID = some tasks
  empty : ∀ tasks, s.scalingInTaskDict.get? sfcUUID = some tasks →
    tasks = Dict.empty

theorem isFinish_empty {oib : ScalingBase} {done : SFCState}
    {taskDict : ScalingTaskDict}
    (h : taskDict.get? sfcUUID = some Dict.empty) :
    isFinish oib done taskDict sfcUUID = true := by
  rw [isFinish, h]
  rfl

theorem isFinish_single {oib : ScalingBase} {done : SFCState}
    {taskDict : ScalingTaskDict} {sfciID : Int} {state : ScalingTaskState}
    (h : taskDict.get? sfcUUID = some (Dict.empty.set sfciID state)) :
    isFinish oib done taskDict sfcUUID = true ↔
      oib.getSFCIState sfciID = some done := by
  have hkeys : (Dict.empty.set sfciID state).keys = [sfciID] := rfl
  rw [isFinish, h]
  simp [hkeys]

theorem left_iff_finishes {mode : SFCState} (hmode : mode ≠ .active)
    (hstate : s.oib.getSFCState sfcUUID = some mode) :
    s.processAllScalingTasks.oib.getSFCState sfcUUID ≠ some mode ↔
      Finishes s sfcUUID := by
  by_cases h : Finishes s sfcUUID
  · rw [processAllScalingTasks_of_finishes h, hstate]
    simpa [h] using hmode.symm
  · rw [(processAllScalingTasks_of_not_finishes h).1]
    simp [h, hstate]

theorem Noted.finishes_iff (h : Noted s sfcUUID)
    (hstate : s.oib.getSFCState sfcUUID = some .scalingOutMode) :
    Finishes s sfcUUID ↔
      (∃ sfciID ∈ (s.asked sfcUUID).getLast?,
        s.oib.getSFCIState sfciID = some .active) ∨
      s.scalingInTaskDict.contains sfcUUID = true := by
  obtain ⟨sfciID, state, hlast, hget⟩ := h.out hstate
  have hright : isFinish s.oib .deleted s.scalingInTaskDict sfcUUID = true ↔
      s.scalingInTaskDict.contains sfcUUID = true := by
    rw [Dict.contains]
    cases hin : s.scalingInTaskDict.get? sfcUUID with
    | none => simp [isFinish, hin]
    | some tasks =>
        obtain rfl := h.empty tasks hin
        simp [isFinish_empty hin]
  rw [Finishes, isFinish_single hget, hright]
  simp [hlast]

/-- In a state that a run can reach, a pass is right exactly when it finds the
SFCIs ready. -/
theorem leavesInTime_iff_ready (h : ∀ sfcUUID, Noted s sfcUUID) :
    LeavesInTime s ↔ Ready s := by
  have hout : ∀ sfcUUID, s.oib.getSFCState sfcUUID = some .scalingOutMode →
      ((Finishes s sfcUUID ↔ ∀ sfciID ∈ s.asked sfcUUID,
          s.oib.getSFCIState sfciID = some .active) ↔
        (Finishes s sfcUUID → ∀ sfciID ∈ s.asked sfcUUID,
          s.oib.getSFCIState sfciID = some .active)) := by
    intro sfcUUID hstate
    refine ⟨Iff.mp, fun himp => ⟨himp, fun hall => ?_⟩⟩
    obtain ⟨sfciID, state, hlast, -⟩ := (h sfcUUID).out hstate
    refine ((h sfcUUID).finishes_iff hstate).mpr (Or.inl ⟨sfciID, hlast, ?_⟩)
    exact hall sfciID (List.mem_of_getLast? hlast)
  have hin : ∀ sfcUUID, s.oib.getSFCState sfcUUID = some .scalingInMode →
      Finishes s sfcUUID := by
    intro sfcUUID hstate
    obtain ⟨tasks, hget⟩ := (h sfcUUID).scalingIn hstate
    obtain rfl := (h sfcUUID).empty tasks hget
    exact Or.inr (isFinish_empty hget)
  refine forall_congr' fun sfcUUID => and_congr ?_ ?_
  · refine forall_congr' fun hstate => ?_
    rw [left_iff_finishes (by decide) hstate, hout sfcUUID hstate,
      (h sfcUUID).finishes_iff hstate]
  · refine forall_congr' fun hstate => ?_
    rw [left_iff_finishes (by decide) hstate]
    simp [hin sfcUUID hstate]

section Decisions

/-- Nothing that concerns an SFC has changed. -/
structure SameFor (sfcUUID : UUID) (s s' : SFCScalingProcessor) : Prop where
  state : s'.oib.getSFCState sfcUUID = s.oib.getSFCState sfcUUID
  out : s'.scalingOutTaskDict.get? sfcUUID = s.scalingOutTaskDict.get? sfcUUID
  scalingIn :
    s'.scalingInTaskDict.get? sfcUUID = s.scalingInTaskDict.get? sfcUUID
  asked : s'.asked sfcUUID = s.asked sfcUUID

theorem SameFor.refl (s : SFCScalingProcessor) : SameFor sfcUUID s s :=
  ⟨rfl, rfl, rfl, rfl⟩

theorem SameFor.trans (h : SameFor sfcUUID s s') (h' : SameFor sfcUUID s' s'') :
    SameFor sfcUUID s s'' where
  state := h'.state.trans h.state
  out := h'.out.trans h.out
  scalingIn := h'.scalingIn.trans h.scalingIn
  asked := h'.asked.trans h.asked

theorem Noted.congr (h : Noted s sfcUUID) (hsame : SameFor sfcUUID s s') :
    Noted s' sfcUUID where
  out := by
    rw [hsame.state, NotesLast, hsame.asked, hsame.out]
    exact h.out
  scalingIn := by
    rw [hsame.state, hsame.scalingIn]
    exact h.scalingIn
  empty := by
    rw [hsame.scalingIn]
    exact h.empty

/-- What one request of a decision about `sfcUUID` does. -/
structure Asks (sfcUUID : UUID) (s s' : SFCScalingProcessor) : Prop where
  oib : s'.oib = s.oib
  others : ∀ sfcUUID', sfcUUID' ≠ sfcUUID → SameFor sfcUUID' s s'
  empty : (∀ tasks, s.scalingInTaskDict.get? sfcUUID = some tasks →
      tasks = Dict.empty) →
    ∀ tasks, s'.scalingInTaskDict.get? sfcUUID = some tasks →
      tasks = Dict.empty

theorem Asks.refl (s : SFCScalingProcessor) : Asks sfcUUID s s :=
  ⟨rfl, fun _ _ => .refl s, fun h => h⟩

theorem Asks.trans (h : Asks sfcUUID s s') (h' : Asks sfcUUID s' s'') :
    Asks sfcUUID s s'' where
  oib := h'.oib.trans h.oib
  others := fun sfcUUID' hne =>
    (h.others sfcUUID' hne).trans (h'.others sfcUUID' hne)
  empty := fun hempty => h'.empty (h.empty hempty)

theorem asks_forget (s : SFCScalingProcessor) (sfcUUID : UUID) :
    Asks sfcUUID s (s.forget sfcUUID) where
  oib := rfl
  others := fun _ hne => ⟨rfl, rfl, rfl, Function.update_of_ne hne _ _⟩
  empty := fun h => h

theorem addOne_spec (s : SFCScalingProcessor) (sfcUUID : UUID)
    (sfciIDList : List Int) (idx : Nat) :
    Asks sfcUUID s (addOne sfcUUID sfciIDList s idx) ∧
      NotesLast (addOne sfcUUID sfciIDList s idx) sfcUUID := by
  constructor
  · exact ⟨rfl, fun _ hne => ⟨rfl, Dict.get?_set_of_ne _ _ hne, rfl,
      Function.update_of_ne hne _ _⟩, fun h => h⟩
  · unfold NotesLast addOne
    simp only [Function.update_self, List.getLast?_append,
      List.getLast?_singleton, Option.some_or, Dict.get?_set_self]
    exact ⟨_, _, rfl, rfl⟩

theorem deleteOne_spec (s : SFCScalingProcessor) (sfcUUID : UUID)
    (zoneName : Option Zone) (sfciID : Int) :
    Asks sfcUUID s (deleteOne sfcUUID zoneName s sfciID) ∧
      ∃ tasks, (deleteOne sfcUUID zoneName s sfciID).scalingInTaskDict.get?
        sfcUUID = some tasks := by
  unfold deleteOne
  cases hget : s.scalingInTaskDict.get? sfcUUID with
  | some tasks =>
      have hcontains : s.scalingInTaskDict.contains sfcUUID = true := by
        rw [Dict.contains, hget]
        rfl
      rw [if_pos hcontains]
      refine ⟨⟨rfl, fun _ hne => ?_, fun h => h⟩, tasks, hget⟩
      exact ⟨rfl, Dict.get?_set_of_ne _ _ hne, rfl,
        Function.update_of_ne hne _ _⟩
  | none =>
      have hcontains : ¬ s.scalingInTaskDict.contains sfcUUID = true := by
        rw [Dict.contains, hget]
        exact Bool.false_ne_true
      rw [if_neg hcontains]
      refine ⟨⟨rfl, fun _ hne => ?_, fun _ tasks htasks => ?_⟩,
        Dict.empty, Dict.get?_set_self ..⟩
      · exact ⟨rfl, Dict.get?_set_of_ne _ _ hne, Dict.get?_set_of_ne _ _ hne,
          Function.update_of_ne hne _ _⟩
      · exact (Option.some.inj ((Dict.get?_set_self ..).symm.trans htasks)).symm

/-- A loop of requests does what its last turn does. -/
theorem asks_foldl {α : Type} {f : SFCScalingProcessor → α → SFCScalingProcessor}
    {P : SFCScalingProcessor → Prop}
    (hf : ∀ s a, Asks sfcUUID s (f s a) ∧ P (f s a)) (l : List α)
    (s : SFCScalingProcessor) :
    Asks sfcUUID s (l.foldl f s) ∧ (l ≠ [] → P (l.foldl f s)) := by
  induction l generalizing s with
  | nil => exact ⟨.refl s, fun h => absurd rfl h⟩
  | cons a l ih =>
      obtain ⟨hasks, hP⟩ := hf s a
      obtain ⟨hrest, hP'⟩ := ih (f s a)
      refine ⟨hasks.trans hrest, fun _ => ?_⟩
      cases l with
      | nil => exact hP
      | cons b l => exact hP' (List.cons_ne_nil b l)

theorem scalingOutSFC_spec (s : SFCScalingProcessor) (sfcUUID : UUID)
    (sfc : ScalingRow) (load : SFCLoad) (hdelta : getDeltaSFCINum sfc load ≠ 0) :
    Asks sfcUUID s (s.scalingOutSFC sfcUUID sfc load) ∧
      NotesLast (s.scalingOutSFC sfcUUID sfc load) sfcUUID := by
  obtain ⟨hasks, hlast⟩ := asks_foldl
    (P := fun s => NotesLast s sfcUUID)
    (fun s' idx => addOne_spec s' sfcUUID
      (s.oib.getDeletedOrInitFailedStateSFCIIDList sfcUUID) idx)
    (List.range (getDeltaSFCINum sfc load).natAbs) (s.forget sfcUUID)
  refine ⟨(asks_forget s sfcUUID).trans hasks, hlast fun hnil => ?_⟩
  rw [List.range_eq_nil, Int.natAbs_eq_zero] at hnil
  exact hdelta hnil

theorem scalingInSFC_spec (s : SFCScalingProcessor) (sfcUUID : UUID)
    (sfc : ScalingRow) (load : SFCLoad) (hdelta : getDeltaSFCINum sfc load ≠ 0)
    (hlist : s.oib.getSFCIIDListOfASFC4DB sfcUUID ≠ []) :
    Asks sfcUUID s (s.scalingInSFC sfcUUID sfc load) ∧
      ∃ tasks, (s.scalingInSFC sfcUUID sfc load).scalingInTaskDict.get?
        sfcUUID = some tasks := by
  obtain ⟨hasks, htasks⟩ := asks_foldl
    (P := fun s => ∃ tasks, s.scalingInTaskDict.get? sfcUUID = some tasks)
    (fun s' sfciID => deleteOne_spec s' sfcUUID
      (s.oib.getSFCZone4DB sfcUUID) sfciID)
    (((s.oib.getSFCIIDListOfASFC4DB sfcUUID).mergeSort fun a b => a ≤ b).take
      (getDeltaSFCINum sfc load).natAbs) (s.forget sfcUUID)
  refine ⟨(asks_forget s sfcUUID).trans hasks, htasks fun hnil => ?_⟩
  obtain hzero | hempty := List.take_eq_nil_iff.mp hnil
  · exact hdelta (Int.natAbs_eq_zero.mp hzero)
  · have hlength := congrArg List.length hempty
    rw [List.length_mergeSort, List.length_nil] at hlength
    exact hlist (List.eq_nil_of_length_eq_zero hlength)

end Decisions

section Loads

theorem mem_lastItems {α : Type} {n : Nat} {l : List α} {a : α} (hn : 0 < n)
    (h : l.getLast? = some a) : a ∈ lastItems n l := by
  obtain ⟨l, rfl⟩ := List.getLast?_eq_some_iff.mp h
  have hle : (l ++ [a]).length - n ≤ l.length := by
    rw [List.length_append, List.length_singleton]
    omega
  rw [lastItems, List.drop_append_of_le_length hle]
  exact List.mem_append_right _ List.mem_cons_self

structure Measured (oib : ScalingBase) (sfciIDList : List Int) (load : SFCLoad) :
    Prop where
  current : load.currentValidSFCINum = oib.getCurrentValidSFCINum sfciIDList
  target : 1 ≤ load.targetSFCINum
  last : load.loadList.getLast? =
    some (loadStateOf load.currentValidSFCINum load.targetSFCINum)

theorem updateSFCLoad_spec (s : SFCScalingProcessor) (sfcUUID : UUID)
    (sfciIDList : List Int) (needed : Nat) :
    ∃ load, (s.updateSFCLoad sfcUUID sfciIDList
        needed).sfcLoadStateDict.get? sfcUUID = some load ∧
      Measured s.oib sfciIDList load := by
  refine ⟨_, Dict.get?_set_self .., rfl, Nat.le_max_left 1 needed, ?_⟩
  dsimp only
  generalize hlist : (s.sfcLoadStateDict.get? sfcUUID).elim [] SFCLoad.loadList =
    l
  split
  · next hlong =>
      rw [List.getLast?_tail, if_neg]
      · simp
      · intro hone
        rw [hone] at hlong
        exact absurd hlong (by decide)
  · simp

theorem Measured.lt_of_overload {oib : ScalingBase} {sfciIDList : List Int}
    {load : SFCLoad} {sfc : ScalingRow} (h : Measured oib sfciIDList load)
    (hover : isOverLoadCondition sfc load = true) :
    load.currentValidSFCINum < sfc.maxScalingInstanceNumber ∧
      load.currentValidSFCINum < load.targetSFCINum := by
  simp only [isOverLoadCondition, Bool.and_eq_true, Bool.or_eq_true,
    decide_eq_true_eq, List.all_eq_true] at hover
  obtain ⟨⟨hmax, -⟩, hload⟩ := hover
  have htarget := h.target
  refine ⟨hmax, ?_⟩
  obtain hall | hzero := hload
  · have hlast := hall _ (mem_lastItems (by decide) h.last)
    rw [loadStateOf] at hlast
    split at hlast
    · cases hlast
    · split at hlast
      · cases hlast
      · omega
  · omega

theorem Measured.lt_of_underload {oib : ScalingBase} {sfciIDList : List Int}
    {load : SFCLoad} {sfc : ScalingRow} (h : Measured oib sfciIDList load)
    (hunder : isUnderLoadCondition sfc load = true) :
    load.targetSFCINum < load.currentValidSFCINum := by
  simp only [isUnderLoadCondition, Bool.and_eq_true, decide_eq_true_eq,
    List.all_eq_true] at hunder
  have hlast := (hunder.2 _ (mem_lastItems (by decide) h.last)).1
  rw [loadStateOf] at hlast
  split at hlast
  · omega
  · split at hlast <;> cases hlast

theorem Measured.delta_of_overload {oib : ScalingBase} {sfciIDList : List Int}
    {load : SFCLoad} {sfc : ScalingRow} (h : Measured oib sfciIDList load)
    (hover : isOverLoadCondition sfc load = true) :
    getDeltaSFCINum sfc load ≠ 0 := by
  obtain ⟨hmax, hneeds⟩ := h.lt_of_overload hover
  rw [getDeltaSFCINum]
  omega

theorem Measured.of_underload {oib : ScalingBase} {sfciIDList : List Int}
    {load : SFCLoad} {sfc : ScalingRow} (h : Measured oib sfciIDList load)
    (hunder : isUnderLoadCondition sfc load = true) :
    getDeltaSFCINum sfc load ≠ 0 ∧ sfciIDList ≠ [] := by
  have hneeds := h.lt_of_underload hunder
  have htarget := h.target
  constructor
  · rw [getDeltaSFCINum]
    omega
  · rintro rfl
    have hnone : load.currentValidSFCINum = 0 := h.current
    omega

end Loads

theorem noted_of_asks {mode : SFCState} (h : ∀ sfcUUID, Noted s sfcUUID)
    (hasks : Asks sfcUUID { s with oib := s.oib.updateSFCState sfcUUID mode } s')
    (hself : s'.oib.getSFCState sfcUUID =
        (s.oib.getSFCState sfcUUID).map (fun _ => mode) →
      (∀ tasks, s'.scalingInTaskDict.get? sfcUUID = some tasks →
        tasks = Dict.empty) → Noted s' sfcUUID) (sfcUUID' : UUID) :
    Noted s' sfcUUID' := by
  by_cases heq : sfcUUID' = sfcUUID
  · subst heq
    refine hself ?_ (hasks.empty (h sfcUUID').empty)
    rw [hasks.oib, getSFCState_updateSFCState, if_pos rfl]
  · have hmode : SameFor sfcUUID' s
        { s with oib := s.oib.updateSFCState sfcUUID mode } := by
      refine ⟨?_, rfl, rfl, rfl⟩
      rw [getSFCState_updateSFCState, if_neg heq]
    exact (h sfcUUID').congr (hmode.trans (hasks.others sfcUUID' heq))

theorem noted_processAbnormalLoadSFC {sfc : ScalingRow} {load : SFCLoad}
    (h : ∀ sfcUUID, Noted s sfcUUID)
    (hrow : s.oib.sfcTable.get? sfcUUID = some sfc)
    (hload : Measured s.oib sfc.sfciIDList load) (sfcUUID' : UUID) :
    Noted (s.processAbnormalLoadSFC sfcUUID sfc load) sfcUUID' := by
  have hstate : s.oib.getSFCState sfcUUID = some sfc.state := by
    rw [ScalingBase.getSFCState, hrow]
    rfl
  rw [processAbnormalLoadSFC]
  by_cases hover : isOverLoadCondition sfc load = true
  · rw [if_pos hover]
    obtain ⟨hasks, hlast⟩ := scalingOutSFC_spec
      { s with oib := s.oib.updateSFCState sfcUUID .scalingOutMode } sfcUUID sfc
      load (hload.delta_of_overload hover)
    refine noted_of_asks h hasks (fun hmode hempty => ?_) sfcUUID'
    refine ⟨fun _ => hlast, fun hin => ?_, hempty⟩
    rw [hmode, hstate] at hin
    cases hin
  rw [if_neg hover]
  by_cases hunder : isUnderLoadCondition sfc load = true
  · rw [if_pos hunder]
    obtain ⟨hdelta, hlist⟩ := hload.of_underload hunder
    have hlist' : (s.oib.updateSFCState sfcUUID
        .scalingInMode).getSFCIIDListOfASFC4DB sfcUUID ≠ [] := by
      simpa [ScalingBase.getSFCIIDListOfASFC4DB, ScalingBase.updateSFCState,
        Dict.get?_modify, hrow] using hlist
    obtain ⟨hasks, htasks⟩ := scalingInSFC_spec
      { s with oib := s.oib.updateSFCState sfcUUID .scalingInMode } sfcUUID sfc
      load hdelta hlist'
    refine noted_of_asks h hasks (fun hmode hempty => ?_) sfcUUID'
    refine ⟨fun hout => ?_, fun _ => htasks, hempty⟩
    rw [hmode, hstate] at hout
    cases hout
  · rw [if_neg hunder]
    exact h sfcUUID'

theorem noted_scalingHandler (h : ∀ sfcUUID, Noted s sfcUUID) (sfcUUID : UUID)
    (needed : Nat) (sfcUUID' : UUID) :
    Noted (s.scalingHandler sfcUUID needed) sfcUUID' := by
  rw [scalingHandler]
  cases hrow : s.oib.sfcTable.get? sfcUUID with
  | none => exact h sfcUUID'
  | some sfc =>
      obtain ⟨load, hget, hload⟩ :=
        updateSFCLoad_spec s sfcUUID sfc.sfciIDList needed
      simp only [hget]
      refine noted_processAbnormalLoadSFC
        (s := s.updateSFCLoad sfcUUID sfc.sfciIDList needed)
        (fun sfcUUID' => ?_) hrow hload sfcUUID'
      exact (h sfcUUID').congr ⟨rfl, rfl, rfl, rfl⟩

theorem noted_processAllScalingTasks (h : ∀ sfcUUID, Noted s sfcUUID)
    (sfcUUID : UUID) : Noted s.processAllScalingTasks sfcUUID := by
  by_cases hfinishes : Finishes s sfcUUID
  · have hstate := processAllScalingTasks_of_finishes hfinishes
    refine ⟨fun hout => ?_, fun hin => ?_, fun tasks htasks => ?_⟩
    · rw [hstate, Option.map_eq_some_iff] at hout
      obtain ⟨_, -, hmode⟩ := hout
      cases hmode
    · rw [hstate, Option.map_eq_some_iff] at hin
      obtain ⟨_, -, hmode⟩ := hin
      cases hmode
    · exact (h sfcUUID).empty tasks (scalingIn_of_processAll htasks)
  · obtain ⟨hstate, hout, hin⟩ :=
      processAllScalingTasks_of_not_finishes hfinishes
    exact (h sfcUUID).congr ⟨hstate, hout, hin, rfl⟩

theorem noted_of_reachable (h : machine.Reachable s) (sfcUUID : UUID) :
    Noted s sfcUUID := by
  suffices hall : ∀ sfcUUID, Noted s sfcUUID from hall sfcUUID
  refine Machine.Reachable.invariant
    (P := fun s => ∀ sfcUUID, Noted s sfcUUID) ?_ ?_ h
  · rintro s ⟨-, -, hin, -, hstates⟩ sfcUUID
    obtain ⟨hnotOut, hnotIn⟩ := hstates sfcUUID
    refine ⟨fun h => absurd h hnotOut, fun h => absurd h hnotIn, ?_⟩
    intro tasks htasks
    rw [hin, Dict.get?_empty] at htasks
    cases htasks
  · intro s i hs hi sfcUUID
    cases i with
    | scalingHandler sfcUUID' needed =>
        exact noted_scalingHandler hs sfcUUID' needed sfcUUID
    | processAllScalingTasks => exact noted_processAllScalingTasks hs sfcUUID
    | database oib =>
        refine ⟨fun hout => ?_, fun hin => ?_, (hs sfcUUID).empty⟩
        · exact (hs sfcUUID).out (hi sfcUUID _ (by decide) hout)
        · exact (hs sfcUUID).scalingIn (hi sfcUUID _ (by decide) hin)

/-- The passes of a run are all right exactly when each of them finds the SFCIs
ready. -/
theorem leaves_modes_iff_ready {τ : List (SFCScalingProcessor × Input)}
    (h : machine.Run τ s) :
    (∀ e ∈ τ, e.2 = .processAllScalingTasks → LeavesInTime e.1) ↔
      ∀ e ∈ τ, e.2 = .processAllScalingTasks → Ready e.1 := by
  refine forall₂_congr fun e he => forall_congr' fun _ => ?_
  have hreachable : machine.Reachable e.1 := h.reachable_of_mem he
  exact leavesInTime_iff_ready (noted_of_reachable hreachable)

def exampleSFC : UUID := ⟨0, 0⟩

def exampleBase (state : SFCState) (sfciIDList : List Int)
    (sfciTable : Dict Int SFCState) : ScalingBase where
  sfcTable := Dict.empty.set exampleSFC
    ⟨.turbonet, sfciIDList, state, .autoScale, 2⟩
  sfciTable := sfciTable

def exampleStart : SFCScalingProcessor where
  oib := exampleBase .active [] .empty
  sfcLoadStateDict := .empty
  scalingOutTaskDict := .empty
  scalingInTaskDict := .empty
  unallocatedList := [REGULATOR_SFCIID_ALLOCATED_RANGE]
  sent := []
  asked := fun _ => []

theorem getSFCState_exampleBase (state : SFCState) (sfciIDList : List Int)
    (sfciTable : Dict Int SFCState) (sfcUUID : UUID) :
    (exampleBase state sfciIDList sfciTable).getSFCState sfcUUID =
      if sfcUUID = exampleSFC then some state else none := by
  simp only [exampleBase, ScalingBase.getSFCState, Dict.get?_set,
    Dict.get?_empty]
  split <;> rfl

theorem run_exampleStart : machine.Run [] exampleStart := by
  refine .start ⟨rfl, rfl, rfl, rfl, fun sfcUUID => ?_⟩
  rw [exampleStart, getSFCState_exampleBase]
  split <;> simp

theorem admits_exampleBase {sfciIDList : List Int} {sfciTable : Dict Int SFCState}
    (h : s.oib.getSFCState exampleSFC = some .scalingOutMode) :
    machine.admits s
      (.database (exampleBase .scalingOutMode sfciIDList sfciTable)) := by
  intro sfcUUID mode _ hstate
  rw [getSFCState_exampleBase] at hstate
  split at hstate
  · next heq =>
      rw [heq, h]
      exact hstate
  · cases hstate

def bothAre (first second : SFCState) : Input :=
  .database (exampleBase .scalingOutMode [0, 1]
    ((Dict.empty.set 0 first).set 1 second))

/-- The first SFCI is `ACTIVE` in the first pass, and the second in the second one. -/
def inTurn : List Input :=
  [.scalingHandler exampleSFC 2, bothAre .active .inProcessing, .processAllScalingTasks,
    bothAre .active .active, .processAllScalingTasks]

theorem run_inTurn :
    machine.Run (machine.trace exampleStart inTurn)
      (inTurn.foldl machine.step exampleStart) := by
  have hinputs : machine.Arrive exampleStart inTurn :=
    ⟨trivial, admits_exampleBase rfl, trivial, admits_exampleBase rfl, trivial, trivial⟩
  exact run_exampleStart.arrive hinputs

theorem leaves_modes_iff_ready_inTurn :
    ((inTurn.take 3).foldl machine.step exampleStart).oib.getSFCState exampleSFC =
        some .scalingOutMode ∧
      (inTurn.foldl machine.step exampleStart).oib.getSFCState exampleSFC =
        some .active ∧
      ∀ e ∈ machine.trace exampleStart inTurn,
        e.2 = .processAllScalingTasks → LeavesInTime e.1 := by
  refine ⟨by decide, by decide, (leaves_modes_iff_ready run_inTurn).mpr ?_⟩
  intro e he hpass
  have hturn : e.1 = (inTurn.take 2).foldl machine.step exampleStart ∨
      e.1 = (inTurn.take 4).foldl machine.step exampleStart := by
    simp only [inTurn, Machine.trace, List.mem_cons, List.not_mem_nil,
      or_false] at he
    obtain rfl | rfl | rfl | rfl | rfl := he
    · cases hpass
    · cases hpass
    · exact Or.inl rfl
    · cases hpass
    · exact Or.inr rfl
  intro sfcUUID
  by_cases heq : sfcUUID = exampleSFC
  · subst heq
    obtain hturn | hturn := hturn
    · rw [hturn]
      decide
    · rw [hturn]
      decide
  · -- no other SFC is in the tables
    have hnone : e.1.oib.getSFCState sfcUUID = none := by
      obtain ⟨sfciTable, hoib⟩ : ∃ sfciTable,
          e.1.oib = exampleBase .scalingOutMode [0, 1] sfciTable := by
        obtain hturn | hturn := hturn <;> rw [hturn]
        · exact ⟨(Dict.empty.set 0 .active).set 1 .inProcessing, rfl⟩
        · exact ⟨(Dict.empty.set 0 .active).set 1 .active, rfl⟩
      rw [hoib, getSFCState_exampleBase, if_neg heq]
    rw [hnone]
    constructor <;> rintro ⟨⟩

/-- Two SFCIs are asked for, and the second is `ACTIVE` first. -/
def secondFirst : List Input :=
  [.scalingHandler exampleSFC 2, bothAre .inProcessing .active, .processAllScalingTasks]

/-- The SFC is `ACTIVE` again while an SFCI that it waits for is not. -/
theorem second_sfci_suffices :
    ¬ ∀ (τ : List (SFCScalingProcessor × Input)) (s : SFCScalingProcessor),
      machine.Run τ s →
        ∀ e ∈ τ, e.2 = .processAllScalingTasks → LeavesInTime e.1 := by
  intro h
  have hinputs : machine.Arrive exampleStart secondFirst :=
    ⟨trivial, admits_exampleBase rfl, trivial, trivial⟩
  have hpass := h _ _ (run_exampleStart.arrive hinputs)
    ((secondFirst.take 2).foldl machine.step exampleStart,
      .processAllScalingTasks)
    (List.mem_cons_of_mem _ (List.mem_cons_of_mem _ List.mem_cons_self)) rfl
  have hleft := ((hpass exampleSFC).1 (by decide)).mp (by decide)
  exact absurd (hleft 0 (by decide)) (by decide)

end SelfAdaptiveMano.Regulator.SFCScalingProcessor
