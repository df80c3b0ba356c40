import SelfAdaptiveMano.Dispatcher.Assignments

/-!
# Runs of the Dispatcher

A step of the Dispatcher leaves what is known about the orchestrators alone, or
it is one of four: an orchestrator reports its runtime state, an SFC is assigned
for the first time in a zone, an SFCI is recorded, or an SFC moves. Each is
checked once against the rule of the assignments, and the induction over the run
follows from that.
-/

namespace SelfAdaptiveMano

open Library

namespace Dispatcher

variable {D D' : Dispatcher} {i : Input}

/-- The condition under which a step keeps the rule: a request to add an SFC
does not move it, and does not assign it while it is assigned in another
zone. -/
def Meets (D : Dispatcher) : Input → Prop
  | .request request sfciState =>
      request.requestType = .addSFC → ∀ sfc zoneName,
        request.attributes.sfc = some sfc → request.zone = some zoneName →
          ¬ D.Migrates sfciState zoneName sfc.sfcUUID ∧
            (D.Assigns zoneName sfc.sfcUUID →
              ∀ z name, ¬ D.Assigned z name sfc.sfcUUID)
  | .reply .. => True

inductive Stepped (D : Dispatcher) (i : Input) (D' : Dispatcher) : Prop where
  | same : (∀ z name, D'.info? z name = D.info? z name) → D.Meets i →
      Stepped D i D'
  | reported {zoneName : Zone} {orchName : String}
      {info : OrchestratorInfoMaintainer} (runtimeState : RuntimeState) :
      D.info? zoneName orchName = some info →
      D.ChangedAt zoneName orchName { info with runtimeState } D' →
      (handler i).raises D = false → D.Meets i → Stepped D i D'
  | assigned {zoneName : Zone} {orchName : String}
      {info : OrchestratorInfoMaintainer} (sfc : SFC) :
      D.info? zoneName orchName = some info →
      D.ChangedAt zoneName orchName
        { info with sfcDict := info.sfcDict.set sfc.sfcUUID sfc } D' →
      (handler i).raises D = false →
      (∀ name, ¬ D.Assigned zoneName name sfc.sfcUUID) →
      (D.Meets i ↔ ∀ z name, ¬ D.Assigned z name sfc.sfcUUID) →
      Stepped D i D'
  | recorded {zoneName : Zone} {orchName : String}
      {info : OrchestratorInfoMaintainer} (sfcUUID : UUID) (sfci : SFCI) :
      D.info? zoneName orchName = some info →
      info.sfcDict.get? sfcUUID ≠ none →
      D.ChangedAt zoneName orchName
        { info with
          sfciDict := info.sfciDict.set sfcUUID
            (((info.sfciDict.get? sfcUUID).getD Dict.empty).set
              sfci.sfciID sfci) } D' →
      (handler i).raises D = false → D.Meets i → Stepped D i D'
  | moved {zoneName : Zone} {orchName : String}
      {info : OrchestratorInfoMaintainer}
      {sfciState : Nat → Option SFCState} (sfc : SFC) :
      SFCIsGone info sfciState sfc.sfcUUID →
      D.Moved zoneName orchName info sfc D' →
      ¬ D.Meets i → Stepped D i D'

/-! ## Each step is one of these -/

theorem stepped_reply (zoneName : Zone) (orchName : String)
    (runtimeState : RuntimeState) (D : Dispatcher) :
    D.Stepped (.reply zoneName orchName runtimeState)
      (machine.step D (.reply zoneName orchName runtimeState)) := by
  obtain hrun | ⟨info, D', hinfo, hrun, hchanged⟩ :=
    run_modifyInfo (fun info => { info with runtimeState }) D zoneName orchName
  · have hfinal : machine.step D (.reply zoneName orchName runtimeState) = D :=
      PyM.finalState_of_error hrun
    rw [hfinal]
    exact .same (fun _ _ => rfl) trivial
  · have hfinal : machine.step D (.reply zoneName orchName runtimeState) = D' :=
      PyM.finalState_of_ok hrun
    rw [hfinal]
    exact .reported runtimeState hinfo hchanged (PyM.raises_of_ok hrun) trivial

section Requests

variable {request : DispatcherRequest} {sfciState : Nat → Option SFCState}

theorem stepped_of_error {e : PyError}
    (hrun : (requestHandler sfciState request).run D = .error e D')
    (hsame : ∀ z name, D'.info? z name = D.info? z name)
    (hmeets : D.Meets (.request request sfciState)) :
    D.Stepped (.request request sfciState)
      (machine.step D (.request request sfciState)) := by
  have hfinal : machine.step D (.request request sfciState) = D' :=
    PyM.finalState_of_error hrun
  rw [hfinal]
  exact .same hsame hmeets

theorem meets_of_ne_addSFC (htype : request.requestType ≠ .addSFC) :
    D.Meets (.request request sfciState) := fun h => absurd h htype

theorem stepped_addSFC (hD : D.Consistent)
    (htype : request.requestType = .addSFC) :
    D.Stepped (.request request sfciState)
      (machine.step D (.request request sfciState)) := by
  have hhandler : requestHandler sfciState request = (do
      let sfc ← PyM.ofOption .keyError request.attributes.sfc
      let zoneName ← PyM.ofOption .keyError request.zone
      let orchName ← orchestratorOfAddedSFC sfciState zoneName sfc
      sendRequest2Orchestrator request (some orchName) : PyM Dispatcher Unit) := by
    rw [requestHandler, htype]
  cases hsfc : request.attributes.sfc with
  | none =>
      have hrun : (requestHandler sfciState request).run D =
          .error .keyError D := by
        rw [hhandler, hsfc]
        rfl
      refine stepped_of_error hrun (fun _ _ => rfl) ?_
      rintro - sfc zoneName hsfc'
      rw [hsfc] at hsfc'
      cases hsfc'
  | some sfc =>
      cases hzone : request.zone with
      | none =>
          have hrun : (requestHandler sfciState request).run D =
              .error .keyError D := by
            rw [hhandler, hsfc, hzone]
            rfl
          refine stepped_of_error hrun (fun _ _ => rfl) ?_
          rintro - sfc zoneName - hzone'
          rw [hzone] at hzone'
          cases hzone'
      | some zoneName =>
          have hmeets : D.Meets (.request request sfciState) ↔
              ¬ D.Migrates sfciState zoneName sfc.sfcUUID ∧
                (D.Assigns zoneName sfc.sfcUUID →
                  ∀ z name, ¬ D.Assigned z name sfc.sfcUUID) := by
            constructor
            · exact fun h => h htype sfc zoneName hsfc hzone
            · rintro h - sfc' zoneName' hsfc' hzone'
              obtain rfl := Option.some.inj (hsfc.symm.trans hsfc')
              obtain rfl := Option.some.inj (hzone.symm.trans hzone')
              exact h
          have hstart : (requestHandler sfciState request).run D =
              (orchestratorOfAddedSFC sfciState zoneName sfc >>= fun orchName =>
                sendRequest2Orchestrator request (some orchName)).run D := by
            rw [hhandler, PyM.run_bind_ofOption hsfc, PyM.run_bind_ofOption hzone]
          obtain ⟨D', hrun, hsame, hassigns, hmigrates⟩ |
              ⟨orchName, info, D', hrun, hassigns, hinfo, hchanged⟩ |
              ⟨hmigrates, orchName, info, hgone, hmoved⟩ :=
            run_orchestratorOfAddedSFC sfciState zoneName sfc hD
          · have hmeets' := hmeets.mpr ⟨hmigrates, fun h => absurd h hassigns⟩
            obtain ⟨e, herror⟩ | ⟨orchName, hok⟩ := hrun
            · exact stepped_of_error
                (hstart.trans (PyM.run_bind_error herror _)) hsame hmeets'
            · have hfinal : machine.step D (.request request sfciState) = _ :=
                PyM.finalState_of_ok (hstart.trans (PyM.run_bind_ok hok _))
              rw [hfinal]
              exact .same hsame hmeets'
          · have hrun' := hstart.trans (PyM.run_bind_ok hrun _)
            have hfinal : machine.step D (.request request sfciState) = _ :=
              PyM.finalState_of_ok hrun'
            rw [hfinal]
            refine .assigned sfc hinfo hchanged (PyM.raises_of_ok hrun')
              hassigns.1 ?_
            rw [hmeets]
            constructor
            · exact fun h => h.2 hassigns
            · refine fun h => ⟨?_, fun _ => h⟩
              rintro ⟨name, info', hinfo', hne, -⟩
              exact h zoneName name ⟨info', hinfo', hne⟩
          · have hnot : ¬ D.Meets (.request request sfciState) := fun h =>
              (hmeets.mp h).1 hmigrates
            have hsame (z : Zone) (name : String) :
                (machine.step D (.request request sfciState)).info? z name =
                  ((orchestratorOfAddedSFC sfciState zoneName sfc).finalState
                    D).info? z name := by
              show ((requestHandler sfciState request).finalState D).info? z name =
                _
              rw [PyM.finalState, hstart, PyM.finalState, EStateM.run_bind]
              cases (orchestratorOfAddedSFC sfciState zoneName sfc).run D with
              | ok orchName D₁ => rfl
              | error e D₁ => rfl
            exact .moved sfc hgone (hmoved.congr hsame) hnot

theorem stepped_addSFCI (htype : request.requestType = .addSFCI) :
    D.Stepped (.request request sfciState)
      (machine.step D (.request request sfciState)) := by
  have hmeets : D.Meets (.request request sfciState) :=
    meets_of_ne_addSFC (by rw [htype]; decide)
  have hhandler : requestHandler sfciState request = (do
      let sfc ← PyM.ofOption .keyError request.attributes.sfc
      let sfci ← PyM.ofOption .keyError request.attributes.sfci
      let zoneName ← PyM.ofOption .keyError request.zone
      let oM ← PyM.ofOption .keyError ((← get).oMDict.get? zoneName)
      let orchName ← PyM.ofOption .keyError (oM.getOrchestratorNameBySFC sfc)
      onManager zoneName (OrchestratorManager.assignSFCI2Orchestrator sfc.sfcUUID
        sfci orchName)
      sendRequest2Orchestrator request (some orchName) : PyM Dispatcher Unit) := by
    rw [requestHandler, htype]
  have herror (hrun : (requestHandler sfciState request).run D =
      .error .keyError D) := stepped_of_error hrun (fun _ _ => rfl) hmeets
  cases hsfc : request.attributes.sfc with
  | none => exact herror (by rw [hhandler, hsfc]; rfl)
  | some sfc =>
  cases hsfci : request.attributes.sfci with
  | none => exact herror (by rw [hhandler, hsfc, hsfci]; rfl)
  | some sfci =>
  cases hzone : request.zone with
  | none => exact herror (by rw [hhandler, hsfc, hsfci, hzone]; rfl)
  | some zoneName =>
  cases hoM : D.oMDict.get? zoneName with
  | none =>
      refine herror ?_
      rw [hhandler, PyM.run_bind_ofOption hsfc, PyM.run_bind_ofOption hsfci,
        PyM.run_bind_ofOption hzone, PyM.run_bind_get, hoM]
      rfl
  | some oM =>
  cases horch : oM.getOrchestratorNameBySFC sfc with
  | none =>
      refine herror ?_
      rw [hhandler, PyM.run_bind_ofOption hsfc, PyM.run_bind_ofOption hsfci,
        PyM.run_bind_ofOption hzone, PyM.run_bind_get,
        PyM.run_bind_ofOption hoM, horch]
      rfl
  | some orchName =>
      obtain ⟨info, hinfo, hne⟩ :=
        OrchestratorManager.getOrchestratorNameBySFC_eq_some horch
      have hassign := run_onManager_ok hoM
        (OrchestratorManager.run_modifyInfo hinfo (f := fun info =>
          { info with
            sfciDict := info.sfciDict.set sfc.sfcUUID
              (((info.sfciDict.get? sfc.sfcUUID).getD Dict.empty).set
                sfci.sfciID sfci) }))
      have hstart : (requestHandler sfciState request).run D =
          (onManager zoneName (OrchestratorManager.assignSFCI2Orchestrator
            sfc.sfcUUID sfci orchName) >>= fun _ =>
              sendRequest2Orchestrator request (some orchName)).run D := by
        rw [hhandler, PyM.run_bind_ofOption hsfc, PyM.run_bind_ofOption hsfci,
          PyM.run_bind_ofOption hzone, PyM.run_bind_get,
          PyM.run_bind_ofOption hoM, PyM.run_bind_ofOption horch]
      have hrun := hstart.trans (PyM.run_bind_ok hassign _)
      have hfinal : machine.step D (.request request sfciState) = _ :=
        PyM.finalState_of_ok hrun
      rw [hfinal]
      exact .recorded sfc.sfcUUID sfci ((info?_eq hoM).trans hinfo) hne
        (changedAt_withManager hoM) (PyM.raises_of_ok hrun) hmeets

/-- The other requests are only passed on. -/
theorem stepped_other (hsfc : request.requestType ≠ .addSFC)
    (hsfci : request.requestType ≠ .addSFCI) :
    D.Stepped (.request request sfciState)
      (machine.step D (.request request sfciState)) := by
  have hmeets : D.Meets (.request request sfciState) := meets_of_ne_addSFC hsfc
  have hdel (htype : request.requestType = .delSFCI ∨
      request.requestType = .delSFC) :
      ∀ z name, (machine.step D (.request request sfciState)).info? z name =
        D.info? z name := by
    have hhandler : requestHandler sfciState request = (do
        let sfc ← PyM.ofOption .keyError request.attributes.sfc
        let zoneName ← PyM.ofOption .keyError request.zone
        let oM ← PyM.ofOption .keyError ((← get).oMDict.get? zoneName)
        sendRequest2Orchestrator request (oM.getOrchestratorNameBySFC sfc) :
          PyM Dispatcher Unit) := by
      obtain htype | htype := htype
      · rw [requestHandler, htype]
      · rw [requestHandler, htype]
    intro z name
    show ((requestHandler sfciState request).finalState D).info? z name = _
    rw [hhandler, PyM.finalState]
    cases request.attributes.sfc with
    | none => rfl
    | some sfc =>
    cases request.zone with
    | none => rfl
    | some zoneName =>
    rw [PyM.run_bind_ofOption rfl, PyM.run_bind_ofOption rfl, PyM.run_bind_get]
    cases D.oMDict.get? zoneName with
    | none => rfl
    | some oM => rfl
  refine .same ?_ hmeets
  cases htype : request.requestType with
  | delSFCI => exact hdel (Or.inl htype)
  | delSFC => exact hdel (Or.inr htype)
  | addSFC => exact absurd htype hsfc
  | addSFCI => exact absurd htype hsfci
  | _ =>
      intro z name
      show ((requestHandler sfciState request).finalState D).info? z name = _
      rw [requestHandler, htype]
      rfl

end Requests

theorem stepped (hD : D.Consistent) (i : Input) :
    D.Stepped i (machine.step D i) := by
  cases i with
  | reply zoneName orchName runtimeState =>
      exact stepped_reply zoneName orchName runtimeState D
  | request request sfciState =>
      by_cases hsfc : request.requestType = .addSFC
      · exact stepped_addSFC hD hsfc
      · by_cases hsfci : request.requestType = .addSFCI
        · exact stepped_addSFCI hsfci
        · exact stepped_other hsfc hsfci

/-! ## Which steps keep the rule -/

section Steps

variable {zoneName : Zone} {orchName : String}
  {info info' : OrchestratorInfoMaintainer} {sfcUUID : UUID}

def Filled (D : Dispatcher) : Prop :=
  ∀ zoneName orchName info, D.info? zoneName orchName = some info →
    ∀ sfcUUID sfcis, info.sfciDict.get? sfcUUID = some sfcis →
      ∃ sfciID, sfcis.get? sfciID ≠ none

theorem Filled.changedAt (hD : D.Filled)
    (h : D.ChangedAt zoneName orchName info D')
    (hinfo : ∀ sfcUUID sfcis, info.sfciDict.get? sfcUUID = some sfcis →
      ∃ sfciID, sfcis.get? sfciID ≠ none) : D'.Filled := by
  intro z name info' hinfo'
  rw [h] at hinfo'
  split at hinfo'
  · obtain rfl := Option.some.inj hinfo'
    exact hinfo
  · exact hD z name info' hinfo'

theorem Filled.congr (hD : D.Filled)
    (h : ∀ z name, D'.info? z name = D.info? z name) : D'.Filled := by
  intro z name info hinfo
  rw [h] at hinfo
  exact hD z name info hinfo

theorem Stepped.filled (h : D.Stepped i D') (hD : D.Filled) : D'.Filled := by
  cases h with
  | same hsame => exact hD.congr hsame
  | reported runtimeState hinfo hchanged =>
      have hin := hD _ _ _ hinfo
      exact hD.changedAt hchanged hin
  | assigned sfc hinfo hchanged =>
      have hin := hD _ _ _ hinfo
      exact hD.changedAt hchanged hin
  | @recorded zoneName orchName info sfcUUID sfci hinfo hne hchanged =>
      apply hD.changedAt hchanged
      intro sfcUUID' sfcis hget
      rw [Dict.get?_set] at hget
      split at hget
      · obtain rfl := Option.some.inj hget
        refine ⟨sfci.sfciID, ?_⟩
        rw [Dict.get?_set_self]
        exact Option.some_ne_none sfci
      · exact hD _ _ _ hinfo _ _ hget
  | moved sfc hgone hmoved =>
      obtain ⟨hknown, D₁, hremoved, hafter⟩ := hmoved
      have hin := hD _ _ _ hknown
      have hD₁ : D₁.Filled := hD.changedAt hremoved hin
      obtain hsame | ⟨orchName', info', -, hinfo', hset⟩ := hafter
      · exact hD₁.congr hsame
      · have hin₁ := hD₁ _ _ _ hinfo'
        exact hD₁.changedAt hset hin₁

theorem ChangedAt.sameAssignments (h : D.ChangedAt zoneName orchName info' D')
    (hinfo : D.info? zoneName orchName = some info)
    (hsfc : info'.sfcDict = info.sfcDict)
    (hsfci : info'.sfciDict = info.sfciDict) : D.SameAssignments D' := by
  constructor
  · intro z name sfcUUID
    rw [Assigned, Assigned, h]
    split
    · next heq =>
        obtain ⟨rfl, rfl⟩ := heq
        simp only [hinfo, Option.some.injEq, exists_eq_left', hsfc]
    · rfl
  · intro z name sfcUUID sfciID
    rw [Recorded, Recorded, h]
    split
    · next heq =>
        obtain ⟨rfl, rfl⟩ := heq
        simp only [hinfo, Option.some.injEq, exists_and_left, exists_eq_left',
          hsfci]
    · rfl

/-- The SFC is assigned to no other orchestrator when it was to none before. -/
theorem AssignedTo.consistent_iff
    (h : D.AssignedTo zoneName orchName sfcUUID D') (hD : D.Consistent)
    (hfree : ∀ name, ¬ D.Assigned zoneName name sfcUUID) :
    D'.Consistent ↔ ∀ z name, ¬ D.Assigned z name sfcUUID := by
  constructor
  · intro hD' z name hassigned
    have hold := (h.assigned z name sfcUUID).mpr (Or.inl hassigned)
    have hnew := (h.assigned zoneName orchName sfcUUID).mpr
      (Or.inr ⟨rfl, rfl, rfl⟩)
    obtain ⟨rfl, rfl⟩ := hD'.unique _ _ _ _ _ hold hnew
    exact hfree name hassigned
  · intro hnone
    constructor
    · intro sfcUUID' z name z' name' h₁ h₂
      obtain h₁ | ⟨rfl, rfl, rfl⟩ := (h.assigned _ _ _).mp h₁
      · obtain h₂ | ⟨rfl, rfl, rfl⟩ := (h.assigned _ _ _).mp h₂
        · exact hD.unique _ _ _ _ _ h₁ h₂
        · exact absurd h₁ (hnone z name)
      · obtain h₂ | ⟨rfl, rfl, -⟩ := (h.assigned _ _ _).mp h₂
        · exact absurd h₂ (hnone z' name')
        · exact ⟨rfl, rfl⟩
    · intro sfcUUID' z name sfciID hrecorded
      have hold := hD.recorded _ _ _ _ ((h.recorded _ _ _ _).mp hrecorded)
      exact (h.assigned _ _ _).mpr (Or.inl hold)

theorem Consistent.recordedAt {sfci : SFCI} (hD : D.Consistent)
    (hinfo : D.info? zoneName orchName = some info)
    (hne : info.sfcDict.get? sfcUUID ≠ none)
    (h : D.ChangedAt zoneName orchName { info with
      sfciDict := info.sfciDict.set sfcUUID
        (((info.sfciDict.get? sfcUUID).getD Dict.empty).set
          sfci.sfciID sfci) } D') : D'.Consistent := by
  have hassigned (z : Zone) (name : String) (sfcUUID' : UUID) :
      D'.Assigned z name sfcUUID' ↔ D.Assigned z name sfcUUID' := by
    rw [Assigned, Assigned, h]
    split
    · next heq =>
        obtain ⟨rfl, rfl⟩ := heq
        simp only [hinfo, Option.some.injEq, exists_eq_left']
    · rfl
  constructor
  · intro sfcUUID' z name z' name' h₁ h₂
    rw [hassigned] at h₁ h₂
    exact hD.unique _ _ _ _ _ h₁ h₂
  · rintro sfcUUID' z name sfciID ⟨info', sfcis, hinfo', hsfcis, hsfci⟩
    rw [hassigned]
    rw [h] at hinfo'
    split at hinfo'
    · next heq =>
        obtain ⟨rfl, rfl⟩ := heq
        obtain rfl := Option.some.inj hinfo'
        by_cases hsame : sfcUUID' = sfcUUID
        · rw [hsame]
          exact ⟨info, hinfo, hne⟩
        · rw [Dict.get?_set_of_ne _ _ hsame] at hsfcis
          exact hD.recorded _ _ _ _ ⟨info, sfcis, hinfo, hsfcis, hsfci⟩
    · exact hD.recorded _ _ _ _ ⟨info', sfcis, hinfo', hsfcis, hsfci⟩

theorem Moved.not_consistent {sfc : SFC} {sfciState : Nat → Option SFCState}
    (h : D.Moved zoneName orchName info sfc D') (hD : D.Filled)
    (hgone : SFCIsGone info sfciState sfc.sfcUUID) : ¬ D'.Consistent := by
  obtain ⟨hknown, D₁, hremoved, hafter⟩ := h
  have hleft : D'.info? zoneName orchName =
      some { info with sfcDict := info.sfcDict.erase sfc.sfcUUID } := by
    obtain hsame | ⟨orchName', info', hne, -, hset⟩ := hafter
    · rw [hsame, hremoved.self]
    · rw [hset, if_neg fun heq => hne heq.2.symm, hremoved.self]
  intro hD'
  obtain ⟨sfcis, hsfcis, -⟩ := hgone
  obtain ⟨sfciID, hsfci⟩ := hD _ _ _ hknown _ _ hsfcis
  obtain ⟨info', hinfo', hne⟩ := hD'.recorded sfc.sfcUUID zoneName orchName sfciID
    ⟨_, sfcis, hleft, hsfcis, hsfci⟩
  obtain rfl := Option.some.inj (hleft.symm.trans hinfo')
  apply hne
  rw [Dict.get?_erase, if_pos rfl]

theorem Stepped.consistent_iff (h : D.Stepped i D') (hD : D.Consistent)
    (hfilled : D.Filled) : D'.Consistent ↔ D.Meets i := by
  cases h with
  | same hsame hmeets =>
      exact iff_of_true (hD.congr (.of_info hsame)) hmeets
  | reported runtimeState hinfo hchanged _ hmeets =>
      exact iff_of_true (hD.congr (hchanged.sameAssignments hinfo rfl rfl)) hmeets
  | assigned sfc hinfo hchanged _ hfree hmeets =>
      rw [hmeets]
      exact (hchanged.assignedTo hinfo).consistent_iff hD hfree
  | recorded sfcUUID sfci hinfo hne hchanged _ hmeets =>
      exact iff_of_true (hD.recordedAt hinfo hne hchanged) hmeets
  | moved sfc hgone hmoved hnot =>
      exact iff_of_false (hmoved.not_consistent hfilled hgone) hnot

/-- A request that raises, when it meets the condition, was not assigned and
changed no assignment. -/
theorem Stepped.same_of_raises (h : D.Stepped i D') (hmeets : D.Meets i)
    (hraises : (handler i).raises D = true) : D.SameAssignments D' := by
  cases h with
  | same hsame => exact .of_info hsame
  | reported runtimeState hinfo hchanged hnot =>
      rw [hnot] at hraises
      cases hraises
  | assigned sfc hinfo hchanged hnot =>
      rw [hnot] at hraises
      cases hraises
  | recorded sfcUUID sfci hinfo hne hchanged hnot =>
      rw [hnot] at hraises
      cases hraises
  | moved sfc hgone hmoved hnot => exact absurd hmeets hnot

end Steps

/-! ## Runs -/

theorem Started.consistent (hD : D.Started) : D.Consistent := by
  have hinfo {zoneName : Zone} {orchName : String}
      {info : OrchestratorInfoMaintainer}
      (h : D.info? zoneName orchName = some info) :
      info = ⟨.initial, Dict.empty, Dict.empty⟩ := by
    obtain ⟨oM, hoM, hinfo⟩ := Option.bind_eq_some_iff.mp h
    exact hD zoneName oM hoM orchName info hinfo
  constructor
  · rintro sfcUUID zoneName orchName zoneName' orchName' ⟨info, h, hne⟩ -
    rw [hinfo h] at hne
    exact absurd rfl hne
  · rintro sfcUUID zoneName orchName sfciID ⟨info, sfcis, h, hsfcis, -⟩
    rw [hinfo h] at hsfcis
    cases hsfcis

theorem Started.filled (hD : D.Started) : D.Filled := by
  intro zoneName orchName info h sfcUUID sfcis hsfcis
  obtain ⟨oM, hoM, hinfo⟩ := Option.bind_eq_some_iff.mp h
  rw [hD zoneName oM hoM orchName info hinfo] at hsfcis
  cases hsfcis

/-- Throughout a run of the Dispatcher each SFC is assigned to one orchestrator at
most, its SFCIs are recorded under that one, and a request that fails changes no
assignment, exactly when no step of the run moves an SFC and no SFC is assigned
while it is assigned in another zone. -/
theorem run_consistent_iff {τ : List (Dispatcher × Input)}
    (h : machine.Run τ D) :
    ((∀ e ∈ τ, e.1.Consistent ∧ ((handler e.2).raises e.1 = true →
        e.1.SameAssignments (machine.step e.1 e.2))) ∧ D.Consistent) ↔
      ∀ e ∈ τ, e.1.Meets e.2 := by
  have hiff := h.all_iff_meets (P := fun D => D.Consistent ∧ D.Filled)
    (C := Meets) (fun D (hD : D.Started) => ⟨hD.consistent, hD.filled⟩)
    (fun D i _ hD _ => by
      have hstep := stepped hD.1 i
      rw [← hstep.consistent_iff hD.1 hD.2]
      exact and_iff_left (hstep.filled hD.2))
  constructor
  · rintro ⟨hall, hlast⟩
    obtain ⟨hfilled, hlast'⟩ := h.all_of_meets (P := Filled)
      (C := fun D _ => D.Consistent) (fun D (hD : D.Started) => hD.filled)
      (fun D i hD _ hC => (stepped hC i).filled hD) (fun e he => (hall e he).1)
    exact hiff.mp ⟨fun e he => ⟨(hall e he).1, hfilled e he⟩, hlast, hlast'⟩
  · intro hmeets
    obtain ⟨hall, hlast⟩ := hiff.mpr hmeets
    refine ⟨fun e he => ⟨(hall e he).1, fun hraises => ?_⟩, hlast.1⟩
    exact (stepped (hall e he).1 e.2).same_of_raises (hmeets e he) hraises

def exampleSFC : SFC := ⟨⟨0, 0⟩, [], [], [], .simulator⟩

def exampleRequest (requestType : RequestType) : DispatcherRequest where
  requestID := ⟨0, 1⟩
  requestType
  requestState := .initial
  attributes := ⟨some exampleSFC, some ⟨7, []⟩, none⟩
  zone := some .simulator

def exampleDispatcher : Dispatcher where
  oMDict := Dict.empty.set .simulator
    ⟨Dict.empty.set "SIMULATOR_ZONE_0_3" ⟨.initial, Dict.empty, Dict.empty⟩, 0⟩
  sent := []

def exampleInputs : List Input :=
  [.request (exampleRequest .addSFC) fun _ => none,
    .request (exampleRequest .addSFCI) fun _ => none,
    .reply .simulator "SIMULATOR_ZONE_0_3" ⟨true, false, false⟩]

def disconnected : Dispatcher :=
  exampleInputs.foldl machine.step exampleDispatcher

def exampleMove : Input :=
  .request (exampleRequest .addSFC) fun _ => some .deleted

theorem started_exampleDispatcher : exampleDispatcher.Started := by
  intro zoneName oM hoM orchName info hinfo
  rw [exampleDispatcher, Dict.get?_set] at hoM
  split at hoM
  · obtain rfl := Option.some.inj hoM
    rw [OrchestratorManager.info?, Dict.get?_set] at hinfo
    split at hinfo
    · exact (Option.some.inj hinfo).symm
    · cases hinfo
  · cases hoM

theorem run_disconnected :
    machine.Run (machine.trace exampleDispatcher exampleInputs)
      disconnected := by
  have harrive : machine.Arrive exampleDispatcher exampleInputs :=
    ⟨trivial, trivial, trivial, trivial⟩
  exact (Machine.Run.start started_exampleDispatcher).arrive harrive

theorem run_consistent_iff_disconnected :
    machine.Run (machine.trace exampleDispatcher exampleInputs) disconnected ∧
      (((∀ e ∈ machine.trace exampleDispatcher exampleInputs,
            e.1.Consistent ∧ ((handler e.2).raises e.1 = true →
              e.1.SameAssignments (machine.step e.1 e.2))) ∧
          disconnected.Consistent) ↔
        ∀ e ∈ machine.trace exampleDispatcher exampleInputs, e.1.Meets e.2) :=
  ⟨run_disconnected, run_consistent_iff run_disconnected⟩

/-- The SFC is removed from its orchestrator before it is known that there is no
other one: the request fails, the SFC is assigned to no orchestrator any more,
and its SFCI is still recorded. -/
theorem assignment_lost :
    machine.Run (machine.trace exampleDispatcher exampleInputs) disconnected ∧
      disconnected.Assigned .simulator "SIMULATOR_ZONE_0_3" ⟨0, 0⟩ ∧
      (handler exampleMove).raises disconnected = true ∧
      ¬ (machine.step disconnected exampleMove).Assigned .simulator
        "SIMULATOR_ZONE_0_3" ⟨0, 0⟩ ∧
      (machine.step disconnected exampleMove).Recorded .simulator
        "SIMULATOR_ZONE_0_3" ⟨0, 0⟩ 7 ∧
      ¬ (machine.step disconnected exampleMove).Consistent := by
  have hremoved : ¬ (machine.step disconnected exampleMove).Assigned .simulator
      "SIMULATOR_ZONE_0_3" ⟨0, 0⟩ := by
    rintro ⟨info, hinfo, hne⟩
    obtain rfl := Option.some.inj hinfo
    revert hne
    decide
  have hrecorded : (machine.step disconnected exampleMove).Recorded .simulator
      "SIMULATOR_ZONE_0_3" ⟨0, 0⟩ 7 := by
    refine ⟨_, _, rfl, rfl, ?_⟩
    decide
  refine ⟨run_disconnected, ⟨_, rfl, ?_⟩, ?_, hremoved, hrecorded, fun h => ?_⟩
  · decide
  · decide
  · exact hremoved (h.recorded _ _ _ _ hrecorded)

end Dispatcher

end SelfAdaptiveMano
