import SelfAdaptiveMano.Dispatcher.Dispatcher

/-!
# The assignments of the SFCs

An SFC is assigned to the orchestrator whose `sfcDict` holds it, and an SFCI is
recorded under the orchestrator whose `sfciDict` holds it. An SFC should be
assigned to one orchestrator at most, and its SFCIs recorded under that one.

When the runtime state of the orchestrator of an SFC is not valid and all SFCIs
of the SFC are gone, the SFC moves: it is first removed and then assigned anew.
The records of the SFCIs stay behind, and when there is no valid orchestrator
the SFC stays removed. These moves are the only steps that break the rule inside
a zone.
-/

namespace SelfAdaptiveMano

open Library

namespace Dispatcher

variable {D D' : Dispatcher} {zoneName z : Zone} {orchName name : String}
  {sfcUUID : UUID} {sfciState : Nat → Option SFCState}
  {oM oM' : OrchestratorManager} {info : OrchestratorInfoMaintainer}

def info? (D : Dispatcher) (zoneName : Zone) (orchName : String) :
    Option OrchestratorInfoMaintainer :=
  (D.oMDict.get? zoneName).bind fun oM => oM.info? orchName

def Assigned (D : Dispatcher) (zoneName : Zone) (orchName : String)
    (sfcUUID : UUID) : Prop :=
  ∃ info, D.info? zoneName orchName = some info ∧
    info.sfcDict.get? sfcUUID ≠ none

def Recorded (D : Dispatcher) (zoneName : Zone) (orchName : String)
    (sfcUUID : UUID) (sfciID : Nat) : Prop :=
  ∃ info sfcis, D.info? zoneName orchName = some info ∧
    info.sfciDict.get? sfcUUID = some sfcis ∧ sfcis.get? sfciID ≠ none

/-- No SFC is assigned to two orchestrators, and each SFCI is recorded under the
orchestrator of its SFC. -/
structure Consistent (D : Dispatcher) : Prop where
  unique : ∀ sfcUUID zoneName orchName zoneName' orchName',
    D.Assigned zoneName orchName sfcUUID →
      D.Assigned zoneName' orchName' sfcUUID →
        zoneName = zoneName' ∧ orchName = orchName'
  recorded : ∀ sfcUUID zoneName orchName sfciID,
    D.Recorded zoneName orchName sfcUUID sfciID →
      D.Assigned zoneName orchName sfcUUID

/-- The same SFCs are assigned to the same orchestrators, and the same SFCIs are
recorded under them. -/
structure SameAssignments (D D' : Dispatcher) : Prop where
  assigned : ∀ zoneName orchName sfcUUID,
    D'.Assigned zoneName orchName sfcUUID ↔ D.Assigned zoneName orchName sfcUUID
  recorded : ∀ zoneName orchName sfcUUID sfciID,
    D'.Recorded zoneName orchName sfcUUID sfciID ↔
      D.Recorded zoneName orchName sfcUUID sfciID

theorem Consistent.congr (hD : D.Consistent) (h : D.SameAssignments D') :
    D'.Consistent := by
  constructor
  · intro sfcUUID zoneName orchName zoneName' orchName' h₁ h₂
    rw [h.assigned] at h₁ h₂
    exact hD.unique _ _ _ _ _ h₁ h₂
  · intro sfcUUID zoneName orchName sfciID h₁
    rw [h.recorded] at h₁
    exact (h.assigned _ _ _).mpr (hD.recorded _ _ _ _ h₁)

theorem SameAssignments.of_info
    (h : ∀ zoneName orchName, D'.info? zoneName orchName =
      D.info? zoneName orchName) : D.SameAssignments D' := by
  constructor
  · intro zoneName orchName sfcUUID
    rw [Assigned, Assigned, h]
  · intro zoneName orchName sfcUUID sfciID
    rw [Recorded, Recorded, h]

/-! ## The managers of the zones -/

def withManager (D : Dispatcher) (zoneName : Zone) (oM : OrchestratorManager) :
    Dispatcher :=
  { D with oMDict := D.oMDict.set zoneName oM }

theorem info?_eq (h : D.oMDict.get? zoneName = some oM) :
    D.info? zoneName orchName = oM.info? orchName := by
  rw [info?, h, Option.bind_some]

theorem info?_withManager :
    (D.withManager zoneName oM).info? z name =
      if z = zoneName then oM.info? name else D.info? z name := by
  rw [info?, withManager, Dict.get?_set]
  split
  · rw [Option.bind_some]
  · rfl

theorem withManager_self (h : D.oMDict.get? zoneName = some oM) :
    D.withManager zoneName oM = D := by
  rw [withManager, Dict.set_eq_self h]

theorem get?_withManager (D : Dispatcher) (zoneName : Zone)
    (oM : OrchestratorManager) :
    (D.withManager zoneName oM).oMDict.get? zoneName = some oM :=
  Dict.get?_set_self _ _ _

theorem run_onManager_ok {α : Type} {act : PyM OrchestratorManager α} {a : α}
    (hoM : D.oMDict.get? zoneName = some oM) (h : act.run oM = .ok a oM') :
    (onManager zoneName act).run D = .ok a (D.withManager zoneName oM') := by
  rw [onManager, PyM.run_bind_get, PyM.run_bind_ofOption hoM]
  exact PyM.run_zoom_ok h

theorem run_onManager_error {α : Type} {act : PyM OrchestratorManager α}
    {e : PyError} (hoM : D.oMDict.get? zoneName = some oM)
    (h : act.run oM = .error e oM') :
    (onManager zoneName act).run D =
      .error e (D.withManager zoneName oM') := by
  rw [onManager, PyM.run_bind_get, PyM.run_bind_ofOption hoM]
  exact PyM.run_zoom_error h

theorem run_onManager_none {α : Type} {act : PyM OrchestratorManager α}
    (hoM : D.oMDict.get? zoneName = none) :
    (onManager zoneName act).run D = .error .keyError D := by
  rw [onManager, PyM.run_bind_get, hoM]
  rfl

def ChangedAt (D : Dispatcher) (zoneName : Zone) (orchName : String)
    (info : OrchestratorInfoMaintainer) (D' : Dispatcher) : Prop :=
  ∀ z name, D'.info? z name =
    if z = zoneName ∧ name = orchName then some info else D.info? z name

theorem ChangedAt.self (h : D.ChangedAt zoneName orchName info D') :
    D'.info? zoneName orchName = some info := by
  rw [h, if_pos ⟨rfl, rfl⟩]

theorem changedAt_withManager (hoM : D.oMDict.get? zoneName = some oM) :
    D.ChangedAt zoneName orchName info
      (D.withManager zoneName (oM.withInfo orchName info)) := by
  intro z name
  rw [info?_withManager, OrchestratorManager.info?_withInfo]
  by_cases hz : z = zoneName
  · subst hz
    rw [if_pos rfl, info?_eq hoM]
    simp only [true_and]
  · rw [if_neg hz, if_neg fun h => hz h.1]

theorem run_modifyInfo
    (f : OrchestratorInfoMaintainer → OrchestratorInfoMaintainer)
    (D : Dispatcher) (zoneName : Zone) (orchName : String) :
    (onManager zoneName (OrchestratorManager.modifyInfo orchName f)).run D =
        .error .keyError D ∨
      ∃ info D', D.info? zoneName orchName = some info ∧
        (onManager zoneName (OrchestratorManager.modifyInfo orchName f)).run D =
          .ok () D' ∧ D.ChangedAt zoneName orchName (f info) D' := by
  cases hoM : D.oMDict.get? zoneName with
  | none => exact Or.inl (run_onManager_none hoM)
  | some oM =>
      cases hinfo : oM.info? orchName with
      | none =>
          have hrun := run_onManager_error hoM
            (OrchestratorManager.run_modifyInfo_none hinfo (f := f))
          rw [withManager_self hoM] at hrun
          exact Or.inl hrun
      | some info =>
          exact Or.inr ⟨info, _, (info?_eq hoM).trans hinfo,
            run_onManager_ok hoM (OrchestratorManager.run_modifyInfo hinfo),
            changedAt_withManager hoM⟩

/-! ## A request to add an SFC -/

/-- SFCIs of the SFC are recorded under the orchestrator, and all of them are
gone. -/
def SFCIsGone (info : OrchestratorInfoMaintainer)
    (sfciState : Nat → Option SFCState) (sfcUUID : UUID) : Prop :=
  ∃ sfcis, info.sfciDict.get? sfcUUID = some sfcis ∧
    ∀ sfciID, sfcis.get? sfciID ≠ none →
      sfciState sfciID ∈ [some .deleted, some .initFailed]

/-- The SFC is to move: the runtime state of its orchestrator is not valid, and
the SFCIs that are recorded there are gone. -/
def Migrates (D : Dispatcher) (sfciState : Nat → Option SFCState)
    (zoneName : Zone) (sfcUUID : UUID) : Prop :=
  ∃ orchName info, D.info? zoneName orchName = some info ∧
    info.sfcDict.get? sfcUUID ≠ none ∧
    info.runtimeState.isValidRuntimeState = false ∧
    SFCIsGone info sfciState sfcUUID

/-- The SFC is to be assigned for the first time in the zone, and some
orchestrator of the zone is valid. -/
def Assigns (D : Dispatcher) (zoneName : Zone) (sfcUUID : UUID) : Prop :=
  (∀ orchName, ¬ D.Assigned zoneName orchName sfcUUID) ∧
    ∃ oM orchName, D.oMDict.get? zoneName = some oM ∧ oM.Valid orchName

structure AssignedTo (D : Dispatcher) (zoneName : Zone) (orchName : String)
    (sfcUUID : UUID) (D' : Dispatcher) : Prop where
  assigned : ∀ z name sfcUUID',
    D'.Assigned z name sfcUUID' ↔
      D.Assigned z name sfcUUID' ∨
        (z = zoneName ∧ name = orchName ∧ sfcUUID' = sfcUUID)
  recorded : ∀ z name sfcUUID' sfciID,
    D'.Recorded z name sfcUUID' sfciID ↔ D.Recorded z name sfcUUID' sfciID

theorem ChangedAt.assignedTo {sfc : SFC}
    (hinfo : D.info? zoneName orchName = some info)
    (h : D.ChangedAt zoneName orchName
      { info with sfcDict := info.sfcDict.set sfc.sfcUUID sfc } D') :
    D.AssignedTo zoneName orchName sfc.sfcUUID D' := by
  constructor
  · intro z name sfcUUID'
    rw [Assigned, Assigned, h]
    by_cases heq : z = zoneName ∧ name = orchName
    · obtain ⟨rfl, rfl⟩ := heq
      simp only [and_self, if_true, hinfo, Option.some.injEq, true_and,
        exists_eq_left', Dict.get?_set]
      split
      · next heq => simp [heq]
      · next hne => simp [hne]
    · rw [if_neg heq]
      have hnot : ¬ (z = zoneName ∧ name = orchName ∧
          sfcUUID' = sfc.sfcUUID) := fun hall => heq ⟨hall.1, hall.2.1⟩
      simp only [hnot, or_false]
  · intro z name sfcUUID' sfciID
    rw [Recorded, Recorded, h]
    by_cases heq : z = zoneName ∧ name = orchName
    · obtain ⟨rfl, rfl⟩ := heq
      simp only [and_self, if_true, hinfo, Option.some.injEq, exists_and_left,
        exists_eq_left']
    · rw [if_neg heq]

/-- The selection of an orchestrator fails without a change to what is known
about the orchestrators, or assigns the SFC to a valid one. -/
theorem run_selectAndAssign (hoM : D.oMDict.get? zoneName = some oM) (sfc : SFC) :
    (∃ e D', (selectAndAssign zoneName sfc).run D = .error e D' ∧
        (∀ z name, D'.info? z name = D.info? z name) ∧
        ∀ name, ¬ oM.Valid name) ∨
      ∃ orchName info D',
        (selectAndAssign zoneName sfc).run D = .ok orchName D' ∧
        D.info? zoneName orchName = some info ∧
        info.runtimeState.isValidRuntimeState = true ∧
        D.ChangedAt zoneName orchName
          { info with sfcDict := info.sfcDict.set sfc.sfcUUID sfc } D' := by
  have hsame (counter : Nat) (z : Zone) (name : String) :
      (D.withManager zoneName
        { oM with roundRobinCounter := counter }).info? z name =
        D.info? z name := by
    rw [info?_withManager]
    split
    · next heq =>
        rw [heq, info?_eq hoM]
        rfl
    · rfl
  obtain ⟨hrun, hnone⟩ | ⟨counter, result, hrun, hsome, hnone⟩ :=
    oM.run_selectOrchInRoundRobin
  · refine Or.inl ⟨.zeroDivisionError, D, ?_, fun _ _ => rfl, hnone⟩
    have hselect := run_onManager_error hoM hrun
    rw [withManager_self hoM] at hselect
    exact PyM.run_bind_error hselect _
  · have hselect := run_onManager_ok hoM hrun
    cases result with
    | none =>
        refine Or.inl ⟨_, _, PyM.run_bind_ok hselect _, hsame counter, ?_⟩
        exact hnone rfl
    | some orchName =>
        obtain ⟨info, hinfo, hvalid⟩ := hsome orchName rfl
        let oM₁ : OrchestratorManager := { oM with roundRobinCounter := counter }
        have hinfo₁ : oM₁.info? orchName = some info := hinfo
        have hassign := run_onManager_ok (get?_withManager D zoneName oM₁)
          (OrchestratorManager.run_modifyInfo hinfo₁ (f := fun info =>
            { info with sfcDict := info.sfcDict.set sfc.sfcUUID sfc }))
        have hrun' : (selectAndAssign zoneName sfc).run D = .ok orchName _ :=
          (PyM.run_bind_ok hselect _).trans (PyM.run_bind_ok hassign _)
        refine Or.inr ⟨orchName, info, _, hrun', (info?_eq hoM).trans hinfo,
          hvalid, fun z name => ?_⟩
        rw [changedAt_withManager (get?_withManager D zoneName oM₁), hsame]

/-- The SFC was removed from the orchestrator, and assigned to another one or to
none. -/
structure Moved (D : Dispatcher) (zoneName : Zone) (orchName : String)
    (info : OrchestratorInfoMaintainer) (sfc : SFC) (D' : Dispatcher) : Prop where
  known : D.info? zoneName orchName = some info
  removed : ∃ D₁, D.ChangedAt zoneName orchName
      { info with sfcDict := info.sfcDict.erase sfc.sfcUUID } D₁ ∧
    ((∀ z name, D'.info? z name = D₁.info? z name) ∨
      ∃ orchName' info', orchName' ≠ orchName ∧
        D₁.info? zoneName orchName' = some info' ∧
        D₁.ChangedAt zoneName orchName'
          { info' with sfcDict := info'.sfcDict.set sfc.sfcUUID sfc } D')

theorem Moved.congr {D'' : Dispatcher} {sfc : SFC}
    (h : D.Moved zoneName orchName info sfc D')
    (hsame : ∀ z name, D''.info? z name = D'.info? z name) :
    D.Moved zoneName orchName info sfc D'' := by
  obtain ⟨hknown, D₁, hremoved, hafter⟩ := h
  refine ⟨hknown, D₁, hremoved, ?_⟩
  simp only [ChangedAt, hsame] at hafter ⊢
  exact hafter

/-- The SFC that does not move leaves everything as it is. -/
theorem run_migrateSFC (sfciState : Nat → Option SFCState) {sfc : SFC}
    (hoM : D.oMDict.get? zoneName = some oM)
    (hinfo : oM.info? orchName = some info)
    (hinvalid : info.runtimeState.isValidRuntimeState = false) :
    (¬ SFCIsGone info sfciState sfc.sfcUUID ∧
        ((∃ e, (migrateSFC sfciState zoneName sfc orchName).run D =
            .error e D) ∨
          ∃ name, (migrateSFC sfciState zoneName sfc orchName).run D =
            .ok name D)) ∨
      (SFCIsGone info sfciState sfc.sfcUUID ∧
        D.Moved zoneName orchName info sfc
          ((migrateSFC sfciState zoneName sfc orchName).finalState D)) := by
  cases hsfcis : info.sfciDict.get? sfc.sfcUUID with
  | none =>
      have hall := run_onManager_error hoM
        (OrchestratorManager.run_isAllSFCIsOfASFCAreDeletedOrInitFailed_none
          sfciState hinfo hsfcis)
      rw [withManager_self hoM] at hall
      refine Or.inl ⟨?_, Or.inl ⟨.keyError, PyM.run_bind_error hall _⟩⟩
      rintro ⟨sfcis, hget, -⟩
      rw [hsfcis] at hget
      cases hget
  | some sfcis =>
      have hall := run_onManager_ok hoM
        (OrchestratorManager.run_isAllSFCIsOfASFCAreDeletedOrInitFailed
          sfciState hinfo hsfcis)
      rw [withManager_self hoM] at hall
      have hmigrate : (migrateSFC sfciState zoneName sfc orchName).run D = _ :=
        PyM.run_bind_ok hall _
      have hgoneIff : (sfcis.keys.all fun sfciID => decide (sfciState sfciID ∈
          [some .deleted, some .initFailed])) = true ↔
          SFCIsGone info sfciState sfc.sfcUUID := by
        rw [List.all_eq_true]
        constructor
        · intro hkeys
          refine ⟨sfcis, hsfcis, fun sfciID hsfci => ?_⟩
          have hkey := Dict.mem_keys_iff.mpr (Option.ne_none_iff_exists'.mp hsfci)
          exact of_decide_eq_true (hkeys sfciID hkey)
        · rintro ⟨sfcis', hget, hgone⟩ sfciID hkey
          obtain rfl := Option.some.inj (hsfcis.symm.trans hget)
          exact decide_eq_true (hgone sfciID
            (Option.ne_none_iff_exists'.mpr (Dict.mem_keys_iff.mp hkey)))
      by_cases hgone : SFCIsGone info sfciState sfc.sfcUUID
      · rw [hgoneIff.mpr hgone] at hmigrate
        let removed : OrchestratorInfoMaintainer :=
          { info with sfcDict := info.sfcDict.erase sfc.sfcUUID }
        let D₁ := D.withManager zoneName (oM.withInfo orchName removed)
        have hremove : (onManager zoneName
            (OrchestratorManager.removeSFCFromOrchestrator orchName
              sfc.sfcUUID)).run D = .ok () D₁ :=
          run_onManager_ok hoM (OrchestratorManager.run_modifyInfo hinfo)
        have hrun := hmigrate.trans (PyM.run_bind_ok hremove _)
        have hchanged : D.ChangedAt zoneName orchName removed D₁ :=
          changedAt_withManager hoM
        refine Or.inr ⟨hgone, (info?_eq hoM).trans hinfo, D₁, hchanged, ?_⟩
        obtain ⟨e, D', hselect, hsame, -⟩ |
            ⟨orchName', info', D', hselect, hinfo', hvalid, hset⟩ :=
          run_selectAndAssign (get?_withManager D zoneName _) sfc
        · rw [PyM.finalState_of_error (hrun.trans hselect)]
          exact Or.inl hsame
        · rw [PyM.finalState_of_ok (hrun.trans hselect)]
          refine Or.inr ⟨orchName', info', ?_, hinfo', hset⟩
          -- the orchestrator that the SFC leaves is not valid
          rintro rfl
          obtain rfl := Option.some.inj (hchanged.self.symm.trans hinfo')
          rw [hinvalid] at hvalid
          cases hvalid
      · rw [Bool.eq_false_iff.mpr (mt hgoneIff.mp hgone)] at hmigrate
        exact Or.inl ⟨hgone, Or.inr ⟨orchName, hmigrate⟩⟩

/-- Nothing becomes known about an orchestrator, and nothing had to. -/
def KeepsOrchestrators (D : Dispatcher) (sfciState : Nat → Option SFCState)
    (zoneName : Zone) (sfc : SFC) : Prop :=
  ∃ D', ((∃ e, (orchestratorOfAddedSFC sfciState zoneName sfc).run D =
        .error e D') ∨
      ∃ orchName, (orchestratorOfAddedSFC sfciState zoneName sfc).run D =
        .ok orchName D') ∧
    (∀ z name, D'.info? z name = D.info? z name) ∧
    ¬ D.Assigns zoneName sfc.sfcUUID ∧
    ¬ D.Migrates sfciState zoneName sfc.sfcUUID

def AssignsFirst (D : Dispatcher) (sfciState : Nat → Option SFCState)
    (zoneName : Zone) (sfc : SFC) : Prop :=
  ∃ orchName info D',
    (orchestratorOfAddedSFC sfciState zoneName sfc).run D = .ok orchName D' ∧
    D.Assigns zoneName sfc.sfcUUID ∧
    D.info? zoneName orchName = some info ∧
    D.ChangedAt zoneName orchName
      { info with sfcDict := info.sfcDict.set sfc.sfcUUID sfc } D'

def MovesSFC (D : Dispatcher) (sfciState : Nat → Option SFCState)
    (zoneName : Zone) (sfc : SFC) : Prop :=
  D.Migrates sfciState zoneName sfc.sfcUUID ∧
    ∃ orchName info, SFCIsGone info sfciState sfc.sfcUUID ∧
      D.Moved zoneName orchName info sfc
        ((orchestratorOfAddedSFC sfciState zoneName sfc).finalState D)

section AddedSFC

variable {sfciState : Nat → Option SFCState} {sfc : SFC}

theorem keepsOrchestrators_of_zone_none (hoM : D.oMDict.get? zoneName = none) :
    D.KeepsOrchestrators sfciState zoneName sfc := by
  refine ⟨D, Or.inl ⟨.keyError, ?_⟩, fun _ _ => rfl, ?_, ?_⟩
  · rw [orchestratorOfAddedSFC, PyM.run_bind_get, hoM]
    rfl
  · rintro ⟨-, oM, orchName, hoM', -⟩
    rw [hoM] at hoM'
    cases hoM'
  · rintro ⟨orchName, info, hinfo, -⟩
    rw [info?, hoM] at hinfo
    cases hinfo

theorem run_orchestratorOfAddedSFC_of_none
    (hoM : D.oMDict.get? zoneName = some oM)
    (horch : oM.getOrchestratorNameBySFC sfc = none) :
    D.KeepsOrchestrators sfciState zoneName sfc ∨
      D.AssignsFirst sfciState zoneName sfc := by
  have hstart : (orchestratorOfAddedSFC sfciState zoneName sfc).run D =
      (selectAndAssign zoneName sfc).run D := by
    rw [orchestratorOfAddedSFC, PyM.run_bind_get, PyM.run_bind_ofOption hoM, horch]
  have hfree : ∀ orchName, ¬ D.Assigned zoneName orchName sfc.sfcUUID := by
    rintro orchName ⟨info, hinfo, hne⟩
    rw [info?_eq hoM] at hinfo
    exact hne (OrchestratorManager.getOrchestratorNameBySFC_eq_none_iff.mp
      horch orchName info hinfo)
  obtain ⟨e, D', hrun, hsame, hnone⟩ |
      ⟨orchName, info, D', hrun, hinfo, hvalid, hset⟩ :=
    run_selectAndAssign hoM sfc
  · refine Or.inl ⟨D', Or.inl ⟨e, hstart.trans hrun⟩, hsame, ?_, ?_⟩
    · rintro ⟨-, oM', orchName, hoM', hvalid⟩
      obtain rfl := Option.some.inj (hoM.symm.trans hoM')
      exact hnone orchName hvalid
    · rintro ⟨orchName, info, hinfo, hne, -⟩
      exact hfree orchName ⟨info, hinfo, hne⟩
  · have hassigns : D.Assigns zoneName sfc.sfcUUID :=
      ⟨hfree, oM, orchName, hoM, info, (info?_eq hoM).symm.trans hinfo, hvalid⟩
    exact Or.inr ⟨orchName, info, D', hstart.trans hrun, hassigns, hinfo, hset⟩

theorem gone_of_migrates (hD : D.Consistent)
    (hinfo : D.info? zoneName orchName = some info)
    (hne : info.sfcDict.get? sfc.sfcUUID ≠ none)
    (h : D.Migrates sfciState zoneName sfc.sfcUUID) :
    info.runtimeState.isValidRuntimeState = false ∧
      SFCIsGone info sfciState sfc.sfcUUID := by
  obtain ⟨orchName', info', hinfo', hne', hinvalid, hgone⟩ := h
  obtain ⟨-, rfl⟩ := hD.unique _ _ _ _ _ ⟨info, hinfo, hne⟩ ⟨info', hinfo', hne'⟩
  obtain rfl := Option.some.inj (hinfo.symm.trans hinfo')
  exact ⟨hinvalid, hgone⟩

theorem run_orchestratorOfAddedSFC_of_some (hD : D.Consistent)
    (hoM : D.oMDict.get? zoneName = some oM)
    (horch : oM.getOrchestratorNameBySFC sfc = some orchName) :
    D.KeepsOrchestrators sfciState zoneName sfc ∨
      D.MovesSFC sfciState zoneName sfc := by
  obtain ⟨info, hinfo, hne⟩ :=
    OrchestratorManager.getOrchestratorNameBySFC_eq_some horch
  have hinfo' := (info?_eq hoM).trans hinfo
  have hnot : ¬ D.Assigns zoneName sfc.sfcUUID := fun h =>
    h.1 orchName ⟨info, hinfo', hne⟩
  have hvalid := run_onManager_ok hoM
    (OrchestratorManager.run_isOrchestratorValidRuntimeState hinfo)
  rw [withManager_self hoM] at hvalid
  have hstart : (orchestratorOfAddedSFC sfciState zoneName sfc).run D =
      (if info.runtimeState.isValidRuntimeState = true then pure orchName
      else migrateSFC sfciState zoneName sfc orchName).run D := by
    rw [orchestratorOfAddedSFC, PyM.run_bind_get, PyM.run_bind_ofOption hoM, horch]
    exact PyM.run_bind_ok hvalid _
  cases hstate : info.runtimeState.isValidRuntimeState with
  | true =>
      rw [hstate, if_pos rfl] at hstart
      refine Or.inl ⟨D, Or.inr ⟨orchName, hstart⟩, fun _ _ => rfl, hnot, ?_⟩
      intro h
      have hinvalid := (gone_of_migrates hD hinfo' hne h).1
      rw [hstate] at hinvalid
      cases hinvalid
  | false =>
      rw [hstate, if_neg Bool.false_ne_true] at hstart
      obtain ⟨hstays, hsame⟩ | ⟨hgone, hmoved⟩ :=
        run_migrateSFC sfciState hoM hinfo hstate
      · have hnotMoves := mt (fun h => (gone_of_migrates hD hinfo' hne h).2) hstays
        rw [← hstart] at hsame
        obtain ⟨e, herror⟩ | ⟨name, hok⟩ := hsame
        · exact Or.inl ⟨D, Or.inl ⟨e, herror⟩, fun _ _ => rfl, hnot, hnotMoves⟩
        · exact Or.inl ⟨D, Or.inr ⟨name, hok⟩, fun _ _ => rfl, hnot, hnotMoves⟩
      · rw [PyM.finalState, ← hstart] at hmoved
        exact Or.inr ⟨⟨orchName, info, hinfo', hne, hstate, hgone⟩, orchName, info,
          hgone, hmoved⟩

end AddedSFC

theorem run_orchestratorOfAddedSFC (sfciState : Nat → Option SFCState)
    (zoneName : Zone) (sfc : SFC) (hD : D.Consistent) :
    D.KeepsOrchestrators sfciState zoneName sfc ∨
      D.AssignsFirst sfciState zoneName sfc ∨
      D.MovesSFC sfciState zoneName sfc := by
  cases hoM : D.oMDict.get? zoneName with
  | none => exact Or.inl (keepsOrchestrators_of_zone_none hoM)
  | some oM =>
      cases horch : oM.getOrchestratorNameBySFC sfc with
      | none =>
          obtain hkeeps | hassigns := run_orchestratorOfAddedSFC_of_none hoM horch
          · exact Or.inl hkeeps
          · exact Or.inr (Or.inl hassigns)
      | some orchName =>
          obtain hkeeps | hmoves :=
            run_orchestratorOfAddedSFC_of_some hD hoM horch
          · exact Or.inl hkeeps
          · exact Or.inr (Or.inr hmoves)

end Dispatcher

end SelfAdaptiveMano
