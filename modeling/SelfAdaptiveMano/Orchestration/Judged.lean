import SelfAdaptiveMano.Orchestration.Tables
import SelfAdaptiveMano.Orchestration.Orchestrator

/-!
# How a request is judged

`Judged oib cmdID request outcome oib'` lists the ways in which a request is
judged in the information base `oib`: the test that was made, the outcome, and
what is then stored. `cmdID` is the id of the command that was made for the
request, if any.

The lemmas after it say what each of the three tables can hold afterwards.
-/

namespace SelfAdaptiveMano

open Library Orchestrator

inductive Judged (oib : OrchInfoBase) (cmdID : UUID) :
    Request → Outcome → OrchInfoBase → Prop where
  | addSFCSent {request : Request} {sfc : SFC} :
      request.requestType = .addSFC →
      request.attributes.sfc = some sfc →
      oib.isAddSFCValidState sfc.sfcUUID = true →
      Judged oib cmdID request .sent
        (oib.addSFCRequestHandler request sfc cmdID .inProcessing .inProcessing)
  | addSFCInvalid {request : Request} {sfc : SFC} :
      request.requestType = .addSFC →
      request.attributes.sfc = some sfc →
      oib.isAddSFCValidState sfc.sfcUUID = false →
      Judged oib cmdID request .invalid
        (oib.addSFCRequestHandler request sfc cmdID .failed .initFailed)
  | addSFCISent {request : Request} {sfc : SFC} {sfci : SFCI} :
      request.requestType = .addSFCI →
      request.attributes.sfc = some sfc →
      request.attributes.sfci = some sfci →
      oib.isAddSFCIValidState sfci.sfciID = true →
      Judged oib cmdID request .sent
        (oib.addSFCIRequestHandler request sfc sfci cmdID .inProcessing)
  | addSFCIInvalid {request : Request} {sfc : SFC} {sfci : SFCI} :
      request.requestType = .addSFCI →
      request.attributes.sfc = some sfc →
      request.attributes.sfci = some sfci →
      oib.isAddSFCIValidState sfci.sfciID = false →
      Judged oib cmdID request .invalid
        (oib.addSFCIRequestHandler request sfc sfci cmdID .failed)
  | addSFCIUnmapped {request : Request} {sfc : SFC} {sfci : SFCI} :
      request.requestType = .addSFCI →
      request.attributes.sfc = some sfc →
      request.attributes.sfci = some sfci →
      Judged oib cmdID request .unmapped
        (oib.addUnmappedSFCIRequestHandler request sfc sfci .failed .initFailed)
  | delSFCISent {request : Request} {named : SFC} (sfc : SFC)
      {namedI sfci : SFCI} :
      request.requestType = .delSFCI →
      request.attributes.sfc = some named →
      request.attributes.sfci = some namedI →
      oib.getSFCI4DB namedI.sfciID = some sfci →
      oib.isDelSFCIValidState sfci.sfciID = true →
      Judged oib cmdID request .sent
        (oib.delSFCIRequestHandler request sfc sfci cmdID .inProcessing
          .inProcessing)
  | delSFCIInvalid {request : Request} {named : SFC} (sfc : SFC)
      {namedI sfci : SFCI} :
      request.requestType = .delSFCI →
      request.attributes.sfc = some named →
      request.attributes.sfci = some namedI →
      oib.getSFCI4DB namedI.sfciID = some sfci →
      oib.isDelSFCIValidState sfci.sfciID = false →
      Judged oib cmdID request .invalid
        (oib.delSFCIRequestHandler request sfc sfci cmdID .failed .undeleted)
  | delSFCSent {request : Request} {named sfc : SFC} :
      request.requestType = .delSFC →
      request.attributes.sfc = some named →
      oib.isDelSFCValidState sfc.sfcUUID = true →
      Judged oib cmdID request .sent
        (oib.delSFCRequestHandler request sfc cmdID .inProcessing .inProcessing)
  | delSFCInvalid {request : Request} {named sfc : SFC} :
      request.requestType = .delSFC →
      request.attributes.sfc = some named →
      oib.isDelSFCValidState sfc.sfcUUID = false →
      Judged oib cmdID request .invalid
        (oib.delSFCRequestHandler request sfc cmdID .failed .undeleted)

def OrchInfoBase.Keyed (oib : OrchInfoBase) : Prop :=
  ∀ sfciID row, oib.sfciTable.get? sfciID = some row →
    row.pickle.sfciID = sfciID

theorem OrchInfoBase.Keyed.getSFCI4DB {oib : OrchInfoBase} (hkeyed : oib.Keyed)
    {sfciID : Nat} {sfci : SFCI} (h : oib.getSFCI4DB sfciID = some sfci) :
    sfci.sfciID = sfciID := by
  obtain ⟨row, hrow, rfl⟩ := Option.map_eq_some_iff.mp h
  exact hkeyed sfciID row hrow

/-- Where a row of the table of SFCIs comes from, when a step in `oib` accepted
the requests with a content in `accepted` and settled an addition answered with
success for the ids in `activated`. -/
inductive SFCIRowOrigin (oib : OrchInfoBase) (accepted : Content → Prop)
    (activated : Nat → Prop) (sfciID : Nat) (row' : SFCIRow) : Prop where
  | kept {row : SFCIRow} :
      oib.sfciTable.get? sfciID = some row →
      row'.sfcUUID = row.sfcUUID → row'.state = row.state →
      SFCIRowOrigin oib accepted activated sfciID row'
  | quieted {row : SFCIRow} :
      oib.sfciTable.get? sfciID = some row → row'.sfcUUID = row.sfcUUID →
      row'.state ∈ [SFCState.initFailed, .undeleted, .inactive, .deleted] →
      SFCIRowOrigin oib accepted activated sfciID row'
  | deleting {row : SFCIRow} {sfcUUID : Option UUID} :
      oib.sfciTable.get? sfciID = some row → row'.sfcUUID = row.sfcUUID →
      accepted ⟨.delSFCI, sfcUUID, some sfciID⟩ → row'.state = .inProcessing →
      SFCIRowOrigin oib accepted activated sfciID row'
  | adding :
      accepted ⟨.addSFCI, some row'.sfcUUID, some sfciID⟩ →
      row'.state = .inProcessing →
      SFCIRowOrigin oib accepted activated sfciID row'
  | activated {row : SFCIRow} :
      oib.sfciTable.get? sfciID = some row → row'.sfcUUID = row.sfcUUID →
      activated sfciID → row'.state = .active →
      SFCIRowOrigin oib accepted activated sfciID row'

namespace SFCIRowOrigin

variable {oib oib' : OrchInfoBase} {accepted : Content → Prop}
  {activated : Nat → Prop} {sfciID sfciID' : Nat} {row' : SFCIRow}

theorem of_eq (htable : oib'.sfciTable = oib.sfciTable)
    (h : oib'.sfciTable.get? sfciID = some row') :
    SFCIRowOrigin oib accepted activated sfciID row' :=
  .kept (htable ▸ h) rfl rfl

theorem of_updateSFCIState {state : SFCState}
    (h : (oib.updateSFCIState sfciID' state).sfciTable.get? sfciID =
      some row')
    (hself : ∀ row, sfciID = sfciID' → oib.sfciTable.get? sfciID = some row →
      row'.sfcUUID = row.sfcUUID → row'.state = state →
      SFCIRowOrigin oib accepted activated sfciID row') :
    SFCIRowOrigin oib accepted activated sfciID row' := by
  simp only [OrchInfoBase.updateSFCIState, Dict.get?_modify] at h
  by_cases heq : sfciID = sfciID'
  · rw [if_pos heq] at h
    obtain ⟨row, hrow, rfl⟩ := Option.map_eq_some_iff.mp h
    exact hself row heq (heq ▸ hrow) rfl rfl
  · rw [if_neg heq] at h
    exact .kept h rfl rfl

end SFCIRowOrigin

namespace OrchInfoBase

variable {oib oib' : OrchInfoBase}

theorem Keyed.congr (hkeyed : oib.Keyed)
    (h : oib'.sfciTable = oib.sfciTable) : oib'.Keyed := by
  intro sfciID row hrow
  exact hkeyed sfciID row (h ▸ hrow)

theorem Keyed.updateSFCIState (hkeyed : oib.Keyed) (sfciID : Nat)
    (state : SFCState) : (oib.updateSFCIState sfciID state).Keyed := by
  intro sfciID' row' hrow
  simp only [OrchInfoBase.updateSFCIState, Dict.get?_modify] at hrow
  by_cases heq : sfciID' = sfciID
  · rw [if_pos heq] at hrow
    obtain ⟨row, hold, rfl⟩ := Option.map_eq_some_iff.mp hrow
    exact heq ▸ hkeyed sfciID row hold
  · rw [if_neg heq] at hrow
    exact hkeyed sfciID' row' hrow

end OrchInfoBase

/-- A write of the row of `request`, which may note the command `cmdID`. -/
structure RequestWrite (oib oib' : OrchInfoBase) (request : Request)
    (cmdID : Option UUID) : Prop where
  other : ∀ requestID, requestID ≠ request.requestID →
    oib'.requestTable.get? requestID = oib.requestTable.get? requestID
  own : ∀ row', oib'.requestTable.get? request.requestID = some row' →
    oib.requestTable.get? request.requestID = some row' ∨
      (row'.pickle.requestID = request.requestID ∧
        contentOf row'.pickle = contentOf request ∧
        (row'.cmdUUID = none ∨ row'.cmdUUID = cmdID ∨
          ∃ row, oib.requestTable.get? request.requestID = some row ∧
            row'.cmdUUID = row.cmdUUID))

namespace RequestWrite

variable {oib oib' : OrchInfoBase} {request : Request} {cmdID : Option UUID}

theorem of_row (row' : RequestRow)
    (hown : oib'.requestTable.get? request.requestID = some row')
    (hpickle : ∃ state, row'.pickle = { request with requestState := state })
    (hcmd : row'.cmdUUID = none ∨ row'.cmdUUID = cmdID ∨
      ∃ row, oib.requestTable.get? request.requestID = some row ∧
        row'.cmdUUID = row.cmdUUID)
    (hother : ∀ requestID, requestID ≠ request.requestID →
      oib'.requestTable.get? requestID = oib.requestTable.get? requestID) :
    RequestWrite oib oib' request cmdID where
  other := hother
  own := by
    intro row hrow
    rw [hown] at hrow
    cases hrow
    obtain ⟨state, hpickle⟩ := hpickle
    exact .inr ⟨by rw [hpickle], by rw [hpickle]; rfl, hcmd⟩

theorem congr {oib'' : OrchInfoBase} (h : RequestWrite oib oib' request cmdID)
    (htable : oib''.requestTable = oib'.requestTable) :
    RequestWrite oib oib'' request cmdID where
  other := by simpa [htable] using h.other
  own := by simpa [htable] using h.own

theorem addCmdInfo2Request (oib : OrchInfoBase) (request : Request)
    (state : RequestState) (sfcUUID : UUID) (sfciID : Option Nat)
    (cmdID : UUID) :
    RequestWrite oib (oib.addCmdInfo2Request
      { request with requestState := state } sfcUUID sfciID cmdID) request
      (some cmdID) := by
  obtain ⟨row', hown, hpickle, -, hcmd⟩ :=
    oib.requestRow_addCmdInfo2Request { request with requestState := state }
      sfcUUID sfciID cmdID
  refine of_row _ hown ⟨state, hpickle⟩ (.inr (.inl hcmd)) ?_
  intro requestID hne
  exact oib.requestRow_addCmdInfo2Request_of_ne
    { request with requestState := state } hne ..

theorem addRequest (oib : OrchInfoBase) (request : Request)
    (state : RequestState) (sfcUUID : Option UUID) :
    RequestWrite oib (oib.addRequest { request with requestState := state }
      sfcUUID none none) request cmdID := by
  by_cases hhas : oib.hasRequest request.requestID
  · simp only [OrchInfoBase.addRequest, if_pos hhas]
    exact ⟨fun _ _ => rfl, fun _ h => .inl h⟩
  · simp only [OrchInfoBase.addRequest, if_neg hhas]
    refine of_row ⟨request.requestType, sfcUUID, none, none, state,
      { request with requestState := state }, 0⟩ (Dict.get?_set_self ..)
      ⟨state, rfl⟩ (.inl rfl) ?_
    intro requestID hne
    exact Dict.get?_set_of_ne _ _ hne

theorem updateRequest {oib : OrchInfoBase} {request : Request}
    (hhas : oib.hasRequest request.requestID) (state : RequestState)
    (sfcUUID : Option UUID) :
    RequestWrite oib (oib.updateRequest { request with requestState := state }
      sfcUUID none none) request cmdID := by
  obtain ⟨row, hrow⟩ := OrchInfoBase.hasRequest_iff.mp hhas
  have hown : (oib.updateRequest { request with requestState := state } sfcUUID
      none none).requestTable.get? request.requestID =
      some { row with
        requestType := request.requestType, state := state,
        pickle := { request with requestState := state },
        sfcUUID := sfcUUID.or row.sfcUUID } := by
    simp [OrchInfoBase.updateRequest, Dict.get?_modify, hrow]
  refine of_row _ hown ⟨state, rfl⟩ (.inr (.inr ⟨row, hrow, rfl⟩)) ?_
  intro requestID hne
  simp [OrchInfoBase.updateRequest, Dict.get?_modify, hne]

theorem updateRequestState2DB (oib : OrchInfoBase) (request : Request)
    (state : RequestState) :
    RequestWrite oib (oib.updateRequestState2DB request state) request
      cmdID := by
  by_cases hhas : oib.hasRequest request.requestID
  · obtain ⟨row, hrow⟩ := OrchInfoBase.hasRequest_iff.mp hhas
    have hown := oib.requestRow_updateRequestState2DB request state
      request.requestID
    rw [if_pos rfl, hrow] at hown
    refine of_row _ hown ⟨state, rfl⟩ (.inr (.inr ⟨row, hrow, rfl⟩)) ?_
    intro requestID hne
    rw [OrchInfoBase.requestRow_updateRequestState2DB, if_neg hne]
  · simp only [OrchInfoBase.updateRequestState2DB, if_neg hhas]
    exact addRequest oib request state none

theorem retry {oib : OrchInfoBase} {request : Request} {row : RequestRow}
    (hrow : oib.requestTable.get? request.requestID = some row)
    {requestID : UUID} (hid : requestID = request.requestID)
    (state : RequestState) :
    RequestWrite oib
      ((oib.updateRequestState2DB request state).incRequestRetryCnt requestID)
      request cmdID := by
  subst hid
  have hstored := oib.requestRow_updateRequestState2DB request state
  have hown := hstored request.requestID
  rw [if_pos rfl, hrow] at hown
  refine of_row { row with
    pickle := { request with requestState := state }, state := state,
    retryCnt := row.retryCnt + 1 } ?_ ⟨state, rfl⟩
    (.inr (.inr ⟨row, hrow, rfl⟩)) ?_
  · rw [OrchInfoBase.incRequestRetryCnt, Dict.get?_modify, if_pos rfl, hown]
    rfl
  · intro requestID hne
    rw [OrchInfoBase.incRequestRetryCnt, Dict.get?_modify, if_neg hne,
      hstored, if_neg hne]

end RequestWrite

/-- All requests under one id ask for the same: the rows of the requests are
stored under their keys and have the content of the key. -/
def OrchInfoBase.Matches (oib : OrchInfoBase) (content : UUID → Content) :
    Prop :=
  ∀ requestID row, oib.requestTable.get? requestID = some row →
    row.pickle.requestID = requestID ∧ contentOf row.pickle = content requestID

/-- Some request with the content `k` has the command `cmdID`. -/
def OrchInfoBase.Noted (oib : OrchInfoBase) (cmdID : UUID) (k : Content) :
    Prop :=
  ∃ requestID row, oib.requestTable.get? requestID = some row ∧
    row.cmdUUID = some cmdID ∧ contentOf row.pickle = k

namespace RequestWrite

variable {content : UUID → Content} {oib oib' : OrchInfoBase}
  {request : Request} {cmdID : Option UUID}

theorem matches_of (h : RequestWrite oib oib' request cmdID)
    (hcontent : contentOf request = content request.requestID)
    (hmatches : oib.Matches content) : oib'.Matches content := by
  intro requestID row' hrow
  by_cases heq : requestID = request.requestID
  · subst heq
    obtain hold | ⟨hid, hsame, -⟩ := h.own row' hrow
    · exact hmatches _ _ hold
    · exact ⟨hid, hsame.trans hcontent⟩
  · rw [h.other requestID heq] at hrow
    exact hmatches _ _ hrow

/-- A command that is noted afterwards was noted before, or is the one that was
noted in this write. -/
theorem noted_of (h : RequestWrite oib oib' request cmdID)
    (hcontent : contentOf request = content request.requestID)
    (hmatches : oib.Matches content) {noted : UUID} {k : Content}
    (hnoted : oib'.Noted noted k) :
    oib.Noted noted k ∨ (cmdID = some noted ∧ contentOf request = k) := by
  obtain ⟨requestID, row', hrow, hcmd, hk⟩ := hnoted
  by_cases heq : requestID = request.requestID
  · subst heq
    obtain hold | ⟨-, hsame, hcmd' | hcmd' | ⟨row, hold, hcmd'⟩⟩ :=
      h.own row' hrow
    · exact .inl ⟨_, row', hold, hcmd, hk⟩
    · rw [hcmd'] at hcmd
      cases hcmd
    · exact .inr ⟨hcmd' ▸ hcmd, hsame ▸ hk⟩
    · refine .inl ⟨_, row, hold, hcmd' ▸ hcmd, ?_⟩
      rw [(hmatches _ _ hold).2, ← hcontent, ← hsame, hk]
  · rw [h.other requestID heq] at hrow
    exact .inl ⟨requestID, row', hrow, hcmd, hk⟩

end RequestWrite

namespace Judged

variable {oib oib' : OrchInfoBase} {cmdID : UUID} {request : Request}
  {outcome : Outcome}

theorem sfciRow (h : Judged oib cmdID request outcome oib') (hkeyed : oib.Keyed)
    {sfciID : Nat} {row' : SFCIRow}
    (hrow : oib'.sfciTable.get? sfciID = some row') :
    SFCIRowOrigin oib (fun k => outcome = .sent ∧ contentOf request = k)
      (fun _ => False) sfciID row' := by
  cases h with
  | addSFCSent | addSFCInvalid =>
      exact .of_eq (OrchInfoBase.sfciTable_addSFCRequestHandler ..) hrow
  | @addSFCISent sfc sfci htype hsfc hsfci hvalid =>
      rw [OrchInfoBase.sfciTable_addSFCIRequestHandler hvalid] at hrow
      by_cases heq : sfciID = sfci.sfciID
      · subst heq
        rw [Dict.get?_set_self] at hrow
        cases hrow
        exact .adding ⟨rfl, by simp [contentOf, htype, hsfc, hsfci]⟩ rfl
      · rw [Dict.get?_set_of_ne _ _ heq] at hrow
        exact .kept hrow rfl rfl
  | addSFCIInvalid _ _ _ hvalid =>
      rw [OrchInfoBase.addSFCIRequestHandler_of_invalid hvalid] at hrow
      exact .of_eq (OrchInfoBase.sfciTable_addCmdInfo2Request ..) hrow
  | addSFCIUnmapped =>
      rw [OrchInfoBase.sfciTable_addUnmappedSFCIRequestHandler] at hrow
      refine .of_updateSFCIState hrow fun row _ hrow hsfc hstate => ?_
      exact .quieted hrow hsfc (by simp [hstate])
  | @delSFCISent named sfc namedI sfci htype hsfc hsfci hstored hvalid =>
      rw [OrchInfoBase.sfciTable_delSFCIRequestHandler] at hrow
      refine .of_updateSFCIState hrow fun row heq hrow hsame hstate => ?_
      have hid : sfciID = namedI.sfciID := heq.trans (hkeyed.getSFCI4DB hstored)
      have hcontent : contentOf request =
          ⟨.delSFCI, some named.sfcUUID, some sfciID⟩ := by
        simp [contentOf, htype, hsfc, hsfci, hid]
      exact .deleting hrow hsame ⟨rfl, hcontent⟩ hstate
  | delSFCIInvalid =>
      rw [OrchInfoBase.sfciTable_delSFCIRequestHandler] at hrow
      refine .of_updateSFCIState hrow fun row _ hrow hsfc hstate => ?_
      exact .quieted hrow hsfc (by simp [hstate])
  | delSFCSent | delSFCInvalid =>
      exact .of_eq (OrchInfoBase.sfciTable_delSFCRequestHandler ..) hrow

theorem keyed (h : Judged oib cmdID request outcome oib')
    (hkeyed : oib.Keyed) : oib'.Keyed := by
  cases h with
  | addSFCSent | addSFCInvalid =>
      exact hkeyed.congr (OrchInfoBase.sfciTable_addSFCRequestHandler ..)
  | @addSFCISent sfc sfci htype hsfc hsfci hvalid =>
      intro sfciID row hrow
      rw [OrchInfoBase.sfciTable_addSFCIRequestHandler hvalid] at hrow
      by_cases heq : sfciID = sfci.sfciID
      · subst heq
        rw [Dict.get?_set_self] at hrow
        cases hrow
        rfl
      · rw [Dict.get?_set_of_ne _ _ heq] at hrow
        exact hkeyed sfciID row hrow
  | addSFCIInvalid _ _ _ hvalid =>
      rw [OrchInfoBase.addSFCIRequestHandler_of_invalid hvalid]
      exact hkeyed.congr (OrchInfoBase.sfciTable_addCmdInfo2Request ..)
  | addSFCIUnmapped =>
      exact (hkeyed.updateSFCIState _ _).congr
        (OrchInfoBase.sfciTable_addUnmappedSFCIRequestHandler ..)
  | delSFCISent | delSFCIInvalid =>
      exact (hkeyed.updateSFCIState _ _).congr
        (OrchInfoBase.sfciTable_delSFCIRequestHandler ..)
  | delSFCSent | delSFCInvalid =>
      exact hkeyed.congr (OrchInfoBase.sfciTable_delSFCRequestHandler ..)

theorem row_of_addSFCISent (h : Judged oib cmdID request .sent oib')
    (htype : request.requestType = .addSFCI) {sfciID : Nat}
    (hsfciID : (contentOf request).sfciID = some sfciID) {row' : SFCIRow}
    (hrow : oib'.sfciTable.get? sfciID = some row') :
    (contentOf request).sfcUUID = some row'.sfcUUID := by
  cases h with
  | addSFCSent htype' | delSFCISent _ htype' | delSFCSent htype' =>
      rw [htype] at htype'
      cases htype'
  | @addSFCISent sfc sfci _ hsfc hsfci hvalid =>
      obtain rfl : sfci.sfciID = sfciID := by simpa [contentOf, hsfci] using hsfciID
      rw [OrchInfoBase.sfciTable_addSFCIRequestHandler hvalid,
        Dict.get?_set_self] at hrow
      cases hrow
      simp [contentOf, hsfc]

theorem sfcState_deleted (h : Judged oib cmdID request outcome oib')
    {sfcUUID : UUID} (hdeleted : oib'.getSFCState sfcUUID = some .deleted) :
    oib.getSFCState sfcUUID = some .deleted := by
  cases h with
  | addSFCSent | addSFCInvalid =>
      rw [OrchInfoBase.getSFCState_congr
        (OrchInfoBase.sfcTable_addSFCRequestHandler ..),
        OrchInfoBase.getSFCState_addSFC2DB] at hdeleted
      split at hdeleted
      · cases hdeleted
      · exact hdeleted
  | addSFCISent | addSFCIInvalid =>
      rwa [OrchInfoBase.getSFCState_congr
        (OrchInfoBase.sfcTable_addSFCIRequestHandler ..)] at hdeleted
  | addSFCIUnmapped =>
      rwa [OrchInfoBase.getSFCState_congr
        (OrchInfoBase.sfcTable_addUnmappedSFCIRequestHandler ..)] at hdeleted
  | delSFCISent | delSFCIInvalid =>
      rwa [OrchInfoBase.getSFCState_congr
        (OrchInfoBase.sfcTable_delSFCIRequestHandler ..)] at hdeleted
  | delSFCSent =>
      rw [OrchInfoBase.getSFCState_congr
        (OrchInfoBase.sfcTable_delSFCRequestHandler_sent ..),
        OrchInfoBase.getSFCState_updateSFCState] at hdeleted
      split at hdeleted
      · simp at hdeleted
      · exact hdeleted
  | delSFCInvalid =>
      rwa [OrchInfoBase.getSFCState_congr
        (OrchInfoBase.sfcTable_delSFCRequestHandler_invalid ..)] at hdeleted

theorem sfciIDList (h : Judged oib cmdID request outcome oib')
    (sfcUUID : UUID) :
    oib'.getSFCIIDListOfASFC4DB sfcUUID = oib.getSFCIIDListOfASFC4DB sfcUUID := by
  cases h with
  | addSFCSent | addSFCInvalid =>
      rw [OrchInfoBase.getSFCIIDListOfASFC4DB_congr
        (OrchInfoBase.sfcTable_addSFCRequestHandler ..),
        OrchInfoBase.getSFCIIDListOfASFC4DB_addSFC2DB]
  | addSFCISent | addSFCIInvalid =>
      exact OrchInfoBase.getSFCIIDListOfASFC4DB_congr
        (OrchInfoBase.sfcTable_addSFCIRequestHandler ..)
  | addSFCIUnmapped =>
      exact OrchInfoBase.getSFCIIDListOfASFC4DB_congr
        (OrchInfoBase.sfcTable_addUnmappedSFCIRequestHandler ..)
  | delSFCISent | delSFCIInvalid =>
      exact OrchInfoBase.getSFCIIDListOfASFC4DB_congr
        (OrchInfoBase.sfcTable_delSFCIRequestHandler ..)
  | delSFCSent =>
      rw [OrchInfoBase.getSFCIIDListOfASFC4DB_congr
        (OrchInfoBase.sfcTable_delSFCRequestHandler_sent ..),
        OrchInfoBase.getSFCIIDListOfASFC4DB_updateSFCState]
  | delSFCInvalid =>
      exact OrchInfoBase.getSFCIIDListOfASFC4DB_congr
        (OrchInfoBase.sfcTable_delSFCRequestHandler_invalid ..)

theorem requestWrite (h : Judged oib cmdID request outcome oib') :
    RequestWrite oib oib' request
      (if outcome = .unmapped then none else some cmdID) := by
  cases h with
  | @addSFCSent sfc =>
      exact (RequestWrite.addCmdInfo2Request oib request .inProcessing
        sfc.sfcUUID none cmdID).congr (OrchInfoBase.requestTable_addSFC2DB ..)
  | @addSFCInvalid sfc =>
      exact (RequestWrite.addCmdInfo2Request oib request .failed
        sfc.sfcUUID none cmdID).congr (OrchInfoBase.requestTable_addSFC2DB ..)
  | @addSFCISent sfc sfci _ _ _ hvalid =>
      exact (RequestWrite.addCmdInfo2Request oib request .inProcessing
        sfc.sfcUUID (some sfci.sfciID) cmdID).congr
        (OrchInfoBase.requestTable_addSFCIRequestHandler hvalid)
  | @addSFCIInvalid sfc sfci _ _ _ hvalid =>
      rw [OrchInfoBase.addSFCIRequestHandler_of_invalid hvalid]
      exact RequestWrite.addCmdInfo2Request oib request .failed sfc.sfcUUID
        (some sfci.sfciID) cmdID
  | addSFCIUnmapped =>
      dsimp only [OrchInfoBase.addUnmappedSFCIRequestHandler]
      split
      · next hhas =>
          exact (RequestWrite.updateRequest hhas .failed _).congr rfl
      · exact (RequestWrite.addRequest oib request .failed _).congr rfl
  | @delSFCISent _ sfc _ sfci =>
      exact (RequestWrite.addCmdInfo2Request oib request .inProcessing
        sfc.sfcUUID (some sfci.sfciID) cmdID).congr rfl
  | @delSFCIInvalid _ sfc _ sfci =>
      exact (RequestWrite.addCmdInfo2Request oib request .failed
        sfc.sfcUUID (some sfci.sfciID) cmdID).congr rfl
  | @delSFCSent _ sfc =>
      exact (RequestWrite.addCmdInfo2Request oib request .inProcessing
        sfc.sfcUUID none cmdID).congr rfl
  | @delSFCInvalid _ sfc =>
      exact (RequestWrite.addCmdInfo2Request oib request .failed
        sfc.sfcUUID none cmdID).congr rfl

end Judged

end SelfAdaptiveMano
